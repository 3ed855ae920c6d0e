import Classpath.ClassFile.Mutf8

/-!
# Reading Text That Was Written

Text is written in UTF-8, one character after another, and read from the front: what stands at
the front of the bytes of a character, whatever follows them, is this character. So reading
undoes writing for every text (`Utf8.decode_encode`).

The texts of class files are read in a modified encoding. It agrees with UTF-8 on characters up
to U+FFFF: they take at most three bytes, of which none spells a surrogate, so nothing changes
on the way (`Mutf8.decode_encode`). A character above takes four bytes, and a lead of four is
refused.

## Main results

* `Text.Utf8.decode_encode`, `Text.Utf8.decodeLossy_encode`: UTF-8, for every text.
* `ClassFile.Mutf8.decode_encode`: class files, for texts up to U+FFFF.
-/

namespace Classpath

namespace Text.Utf8

/-- A number below 256 is a byte. -/
theorem toNat_ofNat_byte {n : Nat} (hn : n < 256) : (UInt8.ofNat n).toNat = n :=
  UInt8.toNat_ofNat_of_lt' hn

/-- The conditions on a leading byte, on its number. -/
theorem following_ofNat {lead : Nat} (hlead : lead < 256) : following (UInt8.ofNat lead) =
    if 0xC2 ≤ lead ∧ lead ≤ 0xDF then some (1, 0x80, 0xBF)
    else if lead = 0xE0 then some (2, 0xA0, 0xBF)
    else if lead = 0xED then some (2, 0x80, 0x9F)
    else if 0xE1 ≤ lead ∧ lead ≤ 0xEF then some (2, 0x80, 0xBF)
    else if lead = 0xF0 then some (3, 0x90, 0xBF)
    else if 0xF1 ≤ lead ∧ lead ≤ 0xF3 then some (3, 0x80, 0xBF)
    else if lead = 0xF4 then some (3, 0x80, 0x8F)
    else none := by
  simp only [following, UInt8.le_iff_toNat_le, ← UInt8.toNat_inj, toNat_ofNat_byte hlead]
  simp

/-- A byte that goes on with a character adds its low bits. -/
theorem frontTail_succ {left taken n m : Nat} {rest : Bytes} (hm : m < 64) :
    frontTail (left + 1) taken n (UInt8.ofNat (m + 128) :: rest) =
      frontTail left (taken + 1) (64 * n + m) rest := by
  have hb : (UInt8.ofNat (m + 128)).toNat = m + 128 := toNat_ofNat_byte (by omega)
  have hbounds : (0x80 ≤ UInt8.ofNat (m + 128) && UInt8.ofNat (m + 128) ≤ 0xBF) = true := by
    simp only [UInt8.le_iff_toNat_le, hb, Bool.and_eq_true, decide_eq_true_eq]
    exact ⟨by simp, by simp; omega⟩
  have hlow : (m + 128) % 64 = m := by omega
  show (if _ then frontTail left (taken + 1) (64 * n + (UInt8.ofNat (m + 128)).toNat % 64) rest
    else _) = _
  rw [if_pos hbounds, hb, hlow]

/-- A leading byte and the one after it, if that is within the bounds. -/
theorem front_of_following {lead m count : Nat} {low high : UInt8} {rest : Bytes}
    (hlead : 0x80 ≤ lead) (hlt : lead < 256) (hm : m < 64)
    (hfollowing : following (UInt8.ofNat lead) = some (count, low, high))
    (hlow : low.toNat ≤ m + 128) (hhigh : m + 128 ≤ high.toNat) :
    front (UInt8.ofNat lead) (UInt8.ofNat (m + 128) :: rest) = frontTail (count - 1) 2
      (64 * (lead % (1 <<< (6 - count))) + m) rest := by
  have hl : (UInt8.ofNat lead).toNat = lead := toNat_ofNat_byte hlt
  have hb : (UInt8.ofNat (m + 128)).toNat = m + 128 := toNat_ofNat_byte (by omega)
  have hbounds : (low ≤ UInt8.ofNat (m + 128) && UInt8.ofNat (m + 128) ≤ high) = true := by
    simpa only [UInt8.le_iff_toNat_le, hb, Bool.and_eq_true, decide_eq_true_eq] using
      ⟨hlow, hhigh⟩
  have hbits : (m + 128) % 64 = m := by omega
  unfold front
  rw [if_neg (by simpa [UInt8.lt_iff_toNat_lt, hl] using hlead)]
  simp only [hfollowing]
  rw [if_pos hbounds, hl, hb, hbits]

/-- The byte that leads a character of three bytes allows for the one after it. -/
theorem following_three {v : Nat} (hlow : 2047 < v) (hhigh : v ≤ 65535)
    (hvalid : v < 0xD800 ∨ 0xDFFF < v) :
    ∃ low high, following (UInt8.ofNat (v / 4096 % 16 + 224)) = some (2, low, high) ∧
      low.toNat ≤ v / 64 % 64 + 128 ∧ v / 64 % 64 + 128 ≤ high.toNat := by
  rw [following_ofNat (by omega), if_neg (by omega)]
  split
  · exact ⟨_, _, rfl, by simp; omega, by simp; omega⟩
  split
  · exact ⟨_, _, rfl, by simp, by simp; omega⟩
  rw [if_pos (by omega)]
  exact ⟨_, _, rfl, by simp, by simp; omega⟩

/-- The byte that leads a character of four bytes allows for the one after it. -/
theorem following_four {v : Nat} (hlow : 65535 < v) (hhigh : v < 0x110000) :
    ∃ low high, following (UInt8.ofNat (v / 262144 % 8 + 240)) = some (3, low, high) ∧
      low.toNat ≤ v / 4096 % 64 + 128 ∧ v / 4096 % 64 + 128 ≤ high.toNat := by
  rw [following_ofNat (by omega), if_neg (by omega), if_neg (by omega), if_neg (by omega),
    if_neg (by omega)]
  split
  · exact ⟨_, _, rfl, by simp; omega, by simp; omega⟩
  split
  · exact ⟨_, _, rfl, by simp, by simp; omega⟩
  rw [if_pos (by omega)]
  exact ⟨_, _, rfl, by simp, by simp; omega⟩

/-- **A character at the front** is found, whatever follows its bytes. -/
theorem front_utf8EncodeChar (c : Char) :
    ∃ lead tail, String.utf8EncodeChar c = lead :: tail ∧
      ∀ rest, front lead (tail ++ rest) = .char c tail.length := by
  have hvalid : c.toNat < 0xD800 ∨ (0xDFFF < c.toNat ∧ c.toNat < 0x110000) := c.valid
  have hc : ∀ n, n = c.toNat → Char.ofNat n = c := by
    rintro _ rfl
    exact Char.ofNat_toNat c
  unfold String.utf8EncodeChar
  rw [show c.val.toNat = c.toNat from rfl]
  generalize c.toNat = v at *
  by_cases h1 : v ≤ 127
  · refine ⟨_, _, if_pos h1, fun rest => ?_⟩
    have hv : (UInt8.ofNat v).toNat = v := toNat_ofNat_byte (by omega)
    have hascii : UInt8.ofNat v < 0x80 := by
      simpa [UInt8.lt_iff_toNat_lt, hv] using (by omega : v < 128)
    rw [front, if_pos hascii, hv, hc v rfl]
    rfl
  by_cases h2 : v ≤ 2047
  · refine ⟨_, _, by rw [if_neg h1, if_pos h2], fun rest => ?_⟩
    have hfollowing : following (UInt8.ofNat (v / 64 % 32 + 192)) = some (1, 0x80, 0xBF) :=
      (following_ofNat (by omega)).trans (if_pos (by omega))
    rw [List.cons_append, front_of_following (by omega) (by omega) (by omega) hfollowing
      (by simp) (by simp; omega), frontTail, hc _ (by simp; omega)]
    rfl
  by_cases h3 : v ≤ 65535
  · refine ⟨_, _, by rw [if_neg h1, if_neg h2, if_pos h3], fun rest => ?_⟩
    obtain ⟨low, high, hfollowing, hlow, hhigh⟩ :=
      following_three (v := v) (by omega) h3 (by omega)
    rw [List.cons_append, List.cons_append,
      front_of_following (by omega) (by omega) (by omega) hfollowing hlow hhigh,
      frontTail_succ (by omega), frontTail, hc _ (by simp; omega)]
    rfl
  · refine ⟨_, _, by rw [if_neg h1, if_neg h2, if_neg h3], fun rest => ?_⟩
    obtain ⟨low, high, hfollowing, hlow, hhigh⟩ := following_four (v := v) (by omega) (by omega)
    rw [List.cons_append, List.cons_append, List.cons_append,
      front_of_following (by omega) (by omega) (by omega) hfollowing hlow hhigh,
      frontTail_succ (by omega), frontTail_succ (by omega), frontTail, hc _ (by simp; omega)]
    rfl

/-- Reading goes on behind a character. -/
theorem decodeFrom_utf8EncodeChar (index : Nat) (c : Char) (rest : Bytes) :
    decodeFrom index (String.utf8EncodeChar c ++ rest) =
      (decodeFrom (index + (String.utf8EncodeChar c).length) rest).map (c :: ·) := by
  obtain ⟨lead, tail, hbytes, hfront⟩ := front_utf8EncodeChar c
  rw [hbytes, List.cons_append, decodeFrom]
  simp only [hfront, List.drop_left, List.length_cons, Nat.add_assoc]

/-- **What is written for characters in UTF-8 is read back**, at whatever position in the bytes. -/
theorem decodeFrom_flatMap (index : Nat) (cs : List Char) :
    decodeFrom index (cs.flatMap String.utf8EncodeChar) = .ok cs := by
  induction cs generalizing index with
  | nil => rw [List.flatMap_nil, decodeFrom]
  | cons c cs ih => rw [List.flatMap_cons, decodeFrom_utf8EncodeChar, ih, Except.map]

/-- **Reading undoes writing**, for every text. -/
theorem decode_encode (s : String) : decode (encode s) = .ok s := by
  rw [decode, encode, decodeFrom_flatMap, Except.map, String.ofList_toList]

theorem encode_append (a b : String) : encode (a ++ b) = encode a ++ encode b := by
  rw [encode, String.toList_append, List.flatMap_append, encode, encode]

/-- A reader that replaces malformed bytes finds none to replace there. -/
theorem decodeLossyChars_flatMap (cs : List Char) :
    decodeLossyChars (cs.flatMap String.utf8EncodeChar) = cs := by
  induction cs with
  | nil => rw [List.flatMap_nil, decodeLossyChars]
  | cons c cs ih =>
      obtain ⟨lead, tail, hbytes, hfront⟩ := front_utf8EncodeChar c
      rw [List.flatMap_cons, hbytes, List.cons_append, decodeLossyChars]
      simp only [hfront, List.drop_left, ih]

/-- **Lenient reading undoes writing** as well: it finds nothing to replace. -/
theorem decodeLossy_encode (s : String) : decodeLossy (encode s) = s := by
  rw [decodeLossy, encode, decodeLossyChars_flatMap, String.ofList_toList]

end Text.Utf8

namespace ClassFile.Mutf8

open Text

/-- A byte of ASCII stays as it is. -/
theorem toUtf8_one {a : UInt8} (ha : a.toNat < 0x80) (rest : Bytes) :
    toUtf8 (a :: rest) = (toUtf8 rest).map ([a] ++ ·) := by
  have hascii : a < 0x80 := by simpa [UInt8.lt_iff_toNat_lt] using ha
  rw [toUtf8.eq_def]
  simp only [if_pos hascii]
  rfl

/-- Two bytes stay as they are, unless they spell NUL. -/
theorem toUtf8_two {a : UInt8} (hlow : 0xC1 ≤ a.toNat) (hhigh : a.toNat ≤ 0xDF) (b : UInt8)
    (rest : Bytes) : toUtf8 (a :: b :: rest) = (toUtf8 rest).map ([a, b] ++ ·) := by
  have hascii : ¬a < 0x80 := by
    simp [UInt8.lt_iff_toNat_lt]
    omega
  have htwo : (0xC0 ≤ a && a ≤ 0xDF) = true := by
    simp [UInt8.le_iff_toNat_le]
    omega
  have hnul : ¬(a = 0xC0 && b = 0x80) = true := by
    simp [← UInt8.toNat_inj]
    omega
  rw [toUtf8.eq_def]
  simp only [if_neg hascii, if_pos htwo, if_neg hnul]

/-- Three bytes stay as they are, unless they spell a surrogate. -/
theorem toUtf8_three {a b c : UInt8} (hlow : 0xE0 ≤ a.toNat) (hhigh : a.toNat ≤ 0xEF)
    (hvalue : threeByteValue a b c < 0xD800 ∨ 0xDFFF < threeByteValue a b c) (rest : Bytes) :
    toUtf8 (a :: b :: c :: rest) = (toUtf8 rest).map ([a, b, c] ++ ·) := by
  have hascii : ¬a < 0x80 := by
    simp [UInt8.lt_iff_toNat_lt]
    omega
  have htwo : ¬(0xC0 ≤ a && a ≤ 0xDF) = true := by
    simp [UInt8.le_iff_toNat_le]
    omega
  have hthree : leadsThree a = true := by
    simp [leadsThree, UInt8.le_iff_toNat_le, hlow, hhigh]
  have hhighSurrogate : ¬isHighSurrogate (threeByteValue a b c) = true := by
    simp [isHighSurrogate]
    omega
  have hlowSurrogate : ¬isLowSurrogate (threeByteValue a b c) = true := by
    simp [isLowSurrogate]
    omega
  rw [toUtf8.eq_def]
  simp only [if_neg hascii, if_neg htwo, if_pos hthree, if_neg hhighSurrogate,
    if_neg hlowSurrogate]

/-- The bytes of a character up to U+FFFF stay as they are. -/
theorem toUtf8_utf8EncodeChar {c : Char} (hc : c.toNat ≤ 0xFFFF) (rest : Bytes) :
    toUtf8 (String.utf8EncodeChar c ++ rest) =
      (toUtf8 rest).map (String.utf8EncodeChar c ++ ·) := by
  have hvalid : c.toNat < 0xD800 ∨ (0xDFFF < c.toNat ∧ c.toNat < 0x110000) := c.valid
  have hbyte : ∀ n, n < 256 → (UInt8.ofNat n).toNat = n := fun _ => Utf8.toNat_ofNat_byte
  unfold String.utf8EncodeChar
  rw [show c.val.toNat = c.toNat from rfl]
  generalize c.toNat = v at *
  by_cases h1 : v ≤ 127
  · rw [if_pos h1]
    exact toUtf8_one (by rw [hbyte _ (by omega)]; omega) rest
  by_cases h2 : v ≤ 2047
  · rw [if_neg h1, if_pos h2]
    have hlead := hbyte (v / 64 % 32 + 192) (by omega)
    exact toUtf8_two (by omega) (by omega) _ rest
  · rw [if_neg h1, if_neg h2, if_pos hc]
    have hlead := hbyte (v / 4096 % 16 + 224) (by omega)
    have hsecond := hbyte (v / 64 % 64 + 128) (by omega)
    have hthird := hbyte (v % 64 + 128) (by omega)
    exact toUtf8_three (by omega) (by omega)
      (by rw [threeByteValue, hlead, hsecond, hthird]; omega) rest

/-- The UTF-8 of characters up to U+FFFF can be read as the modified form too, and stands for
itself there. -/
theorem toUtf8_flatMap {cs : List Char} (hcs : ∀ c ∈ cs, c.toNat ≤ 0xFFFF) :
    toUtf8 (cs.flatMap String.utf8EncodeChar) = .ok (cs.flatMap String.utf8EncodeChar) := by
  induction cs with
  | nil => rw [List.flatMap_nil, toUtf8]
  | cons c cs ih =>
      obtain ⟨hc, hcs⟩ := List.forall_mem_cons.mp hcs
      rw [List.flatMap_cons, toUtf8_utf8EncodeChar hc, ih hcs, Except.map]

/-- **Class files read what was written**, for texts up to U+FFFF. -/
theorem decode_encode {s : String} (hs : ∀ c ∈ s.toList, c.toNat ≤ 0xFFFF) :
    decode (Utf8.encode s) = .ok s := by
  have hconverted : toUtf8 (Utf8.encode s) = .ok (Utf8.encode s) := toUtf8_flatMap hs
  show (toUtf8 (Utf8.encode s)).bind _ = _
  rw [hconverted]
  show (Utf8.decode (Utf8.encode s)).mapError _ = _
  rw [Utf8.decode_encode]
  rfl

end ClassFile.Mutf8

end Classpath
