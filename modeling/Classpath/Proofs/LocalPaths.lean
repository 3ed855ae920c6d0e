import Classpath.Loader
import Classpath.Proofs.Segments
import Classpath.Proofs.Success
import Classpath.Proofs.TextCoding

/-!
# Paths as URLs

The entries of a loader are URLs, also those that were typed as paths. A path is written into a URL
name by name, and whatever could be mistaken in a name is escaped: the slash and the percent sign
themselves among it, so that nothing is undone that was not escaped before
(`Url.unescapeBytes_escapeText`). Reading therefore yields the names again, and with them the path,
but for a slash behind the last name, which a name that looks like a drive is given. No component
tells of it.

What a path as it is typed says is settled before: names behind the root, or behind the current
directory (`Path.components_absolute`).

## Main results

* `Url.unescapeBytes_escapeText`: undoing escapes.
* `Url.localPath?_ofPath`: the path that the URL of a path stands for.
* `Loader.localPaths_ofPaths`: the paths of a loader are those that it was made for.
-/

namespace Classpath

/-! ### Names and paths -/

namespace Path

/-- A name that a path may lead along, upwards or downwards. -/
structure IsStep (s : String) : Prop where
  ne_empty : s ≠ ""
  ne_dot : s ≠ "."
  no_slash : '/' ∉ s.toList

/-- A name of a path is a step, upwards or downwards. -/
theorem isStep_of_mem_names {path s : String} (h : s ∈ names path) : IsStep s := by
  obtain ⟨hs, hplain⟩ := List.mem_filter.mp h
  rw [Bool.and_eq_true, bne_iff_ne, bne_iff_ne] at hplain
  exact ⟨hplain.1, hplain.2, Text.sep_notMem_of_mem_split hs⟩

variable {l : List String}

/-- Names are put together to a path from the root. -/
theorem isAbsolute_ofNames (l : List String) : isAbsolute (ofNames l) = true := by
  rw [ofNames, isAbsolute_append (by decide)]
  decide

/-- **The names of the path of some names** are these. -/
theorem names_ofNames (h : ∀ s ∈ l, IsStep s) : names (ofNames l) = l := by
  have hempty : Text.split '/' "" = [""] := by decide
  have hsplit : Text.split '/' (ofNames l) = "" :: Text.split '/' (Text.join "/" l) := by
    rw [ofNames, ← String.empty_append (s := "/"), Text.split_append_sep, hempty]
    rfl
  have hself : (l.filter fun s => s != "" && s != ".") = l := by
    rw [List.filter_eq_self]
    intro s hs
    simp [(h s hs).ne_empty, (h s hs).ne_dot]
  rw [names, hsplit]
  by_cases hnil : l = []
  · rw [hnil]
    decide
  · rw [Text.split_join hnil fun s hs => (h s hs).no_slash, List.filter_cons_of_neg (by simp),
      hself]

/-- A slash at the end of a path adds no name. -/
theorem names_append_slash (path : String) : names (path ++ "/") = names path := by
  rw [names, Text.split_append_slash, List.filter_append, names]
  simp

/-- **What a path as it is typed says**: its names behind the root, or behind the current
directory. -/
theorem absolute_spec (current : String) {path : String} (h : path ≠ "") :
    ∃ whole, absolute current path = some whole ∧ isAbsolute whole = true ∧
      names whole = if isAbsolute path then names path else names current ++ names path := by
  unfold absolute
  rw [if_neg h]
  by_cases hpath : isAbsolute path = true
  · rw [if_pos hpath, if_pos hpath]
    exact ⟨_, rfl, isAbsolute_ofNames _, names_ofNames fun s => isStep_of_mem_names⟩
  · rw [if_neg hpath, if_neg hpath]
    refine ⟨_, rfl, isAbsolute_ofNames _, names_ofNames fun s hs => ?_⟩
    exact (List.mem_append.mp hs).elim isStep_of_mem_names isStep_of_mem_names

end Path

/-! ### Escapes -/

namespace Url

open Text.Utf8 (encode encode_append)

/-- The digits of an escape are read as what they stand for. -/
theorem digitValue?_upperDigit : ∀ n < 16, ∃ b,
    String.utf8EncodeChar (upperDigit n) = [b] ∧ digitValue? b = some (UInt8.ofNat n) := by
  have hdigit : ∀ n < 16, String.utf8EncodeChar (upperDigit n) =
      [UInt8.ofNat (upperDigit n).toNat] ∧
        digitValue? (UInt8.ofNat (upperDigit n).toNat) = some (UInt8.ofNat n) := by decide
  exact fun n hn => ⟨_, hdigit n hn⟩

/-- **Undoing the escape of a byte.** -/
theorem unescapeBytes_escapeByte (b : UInt8) (rest : Bytes) :
    unescapeBytes ((escapeByte b).flatMap String.utf8EncodeChar ++ rest) =
      b :: unescapeBytes rest := by
  have hb : b.toNat < 256 := b.toNat_lt
  obtain ⟨high, hhigh, hhighValue⟩ := digitValue?_upperDigit (b.toNat / 16) (by omega)
  obtain ⟨low, hlow, hlowValue⟩ := digitValue?_upperDigit (b.toNat % 16) (by omega)
  have hpercent : String.utf8EncodeChar '%' = [37] := by decide
  have hbytes : (escapeByte b).flatMap String.utf8EncodeChar ++ rest =
      37 :: high :: low :: rest := by
    simp [escapeByte, hpercent, hhigh, hlow]
  have hvalue : 16 * UInt8.ofNat (b.toNat / 16) + UInt8.ofNat (b.toNat % 16) = b := by
    rw [← UInt8.toNat_inj, UInt8.toNat_add, UInt8.toNat_mul,
      Text.Utf8.toNat_ofNat_byte (by omega), Text.Utf8.toNat_ofNat_byte (by omega)]
    simp
    omega
  rw [hbytes, unescapeBytes, hhighValue, hlowValue]
  dsimp only
  rw [hvalue]

/-- **The escaping of bytes is undone** when a URL is turned into a path, whatever follows. -/
theorem unescapeBytes_flatMap_escapeByte (bytes rest : Bytes) :
    unescapeBytes ((bytes.flatMap escapeByte).flatMap String.utf8EncodeChar ++ rest) =
      bytes ++ unescapeBytes rest := by
  induction bytes with
  | nil => rfl
  | cons b bytes ih =>
      rw [List.flatMap_cons, List.flatMap_append, List.append_assoc, unescapeBytes_escapeByte, ih]
      rfl

/-- A byte that is no percent sign stays. -/
theorem unescapeBytes_cons {b : UInt8} (hb : b ≠ 37) (rest : Bytes) :
    unescapeBytes (b :: rest) = b :: unescapeBytes rest := by
  rw [unescapeBytes]
  rintro a c tail rfl
  exact absurd rfl hb

/-- A character that stays as it is takes one byte, which begins no escape. -/
theorem unescapeBytes_utf8EncodeChar {c : Char} (hascii : c.toNat < 127) (hc : c ≠ '%')
    (rest : Bytes) : unescapeBytes (String.utf8EncodeChar c ++ rest) =
      String.utf8EncodeChar c ++ unescapeBytes rest := by
  have hbyte : String.utf8EncodeChar c = [UInt8.ofNat c.toNat] :=
    if_pos (show c.toNat ≤ 127 by omega)
  have hne : UInt8.ofNat c.toNat ≠ 37 := by
    intro heq
    have htoNat := congrArg UInt8.toNat heq
    rw [Text.Utf8.toNat_ofNat_byte (by omega)] at htoNat
    exact hc (by rw [← Char.ofNat_toNat c, htoNat]; rfl)
  rw [hbyte, List.singleton_append, unescapeBytes_cons hne, List.singleton_append]

/-- **Undoing escapes**, if percent signs were escaped as well. -/
theorem unescapeBytes_escapeText {special : List Char} (hspecial : '%' ∈ special) (s : String)
    (rest : Bytes) : unescapeBytes (encode (escapeText special s) ++ rest) =
      encode s ++ unescapeBytes rest := by
  unfold encode escapeText
  rw [String.toList_ofList]
  induction s.toList with
  | nil => rfl
  | cons c cs ih =>
      rw [List.flatMap_cons, List.flatMap_append, List.append_assoc, List.flatMap_cons,
        List.append_assoc, ← ih]
      split
      · -- the character is escaped byte by byte
        have hbytes : encode (String.singleton c) = String.utf8EncodeChar c := by
          simp [encode]
        rw [hbytes, unescapeBytes_flatMap_escapeByte]
      · rename_i hplain
        simp only [Bool.or_eq_true, decide_eq_true_eq, not_or, List.contains_iff_mem] at hplain
        have hc : c ≠ '%' := fun heq => hplain.2 (heq ▸ hspecial)
        rw [List.flatMap_singleton, unescapeBytes_utf8EncodeChar (by omega) hc]

/-! ### Files -/

/-- The bytes that the segments of the URL of a path stand for are those of the path. -/
theorem unescape_segments {l : List String} (h : l ≠ []) :
    ((l.map (escapeText nameSpecials)).flatMap fun s => 47 :: unescapeBytes (encode s)) =
      encode (Path.ofNames l) := by
  have hpercent : '%' ∈ nameSpecials := by decide
  have hslash : encode "/" = [47] := by decide
  have hname : ∀ s, unescapeBytes (encode (escapeText nameSpecials s)) = encode s := by
    intro s
    have hundone := unescapeBytes_escapeText hpercent s []
    rwa [List.append_nil, unescapeBytes, List.append_nil] at hundone
  induction l with
  | nil => exact absurd rfl h
  | cons s l ih =>
      rw [List.map_cons, List.flatMap_cons, hname]
      by_cases hl : l = []
      · rw [hl, Path.ofNames, encode_append, hslash]
        simp [Text.join]
      · rw [ih hl, Path.ofNames, Path.ofNames, Text.join_cons hl, encode_append, encode_append,
          encode_append, encode_append, hslash]
        simp

/-- **The path that the URL of a path stands for** has the names of the path behind the root. -/
theorem localPath?_ofPath (path : String) :
    ∃ found, localPath? (ofPath path) = some found ∧
      Path.components found = Path.root :: Path.names path := by
  by_cases hnil : Path.names path = []
  · refine ⟨"/", ?_, ?_⟩
    · unfold ofPath
      rw [hnil]
      decide +kernel
    · rw [hnil]
      decide
  · have hpath : ofPath path = ⟨"file", some "",
        .segments ((Path.names path).map (escapeText nameSpecials)), none, none⟩ := by
      unfold ofPath
      split
      · rename_i hnames
        exact absurd hnames hnil
      · rfl
    have hstep : ∀ s ∈ Path.names path, Path.IsStep s := fun s => Path.isStep_of_mem_names
    have hslash : [47] = encode "/" := by decide
    rw [hpath]
    refine ⟨_, rfl, ?_⟩
    unfold segmentsPath
    dsimp only
    rw [unescape_segments hnil]
    split
    · -- the last name looks like a drive
      rw [hslash, ← encode_append, Text.Utf8.decodeLossy_encode, Path.components_of_isAbsolute,
        Path.names_append_slash, Path.names_ofNames hstep]
      rw [Path.isAbsolute_append (by simp [Path.ofNames]), Path.isAbsolute_ofNames]
    · rw [Text.Utf8.decodeLossy_encode, Path.components_of_isAbsolute (Path.isAbsolute_ofNames _),
        Path.names_ofNames hstep]

end Url

/-! ### Loaders -/

namespace Loader

/-- A path that has the components of another one as that is seen from the root: its names behind
the current directory, or behind nothing if it begins at the root. -/
def StandsFor (current path found : String) : Prop :=
  ∃ whole, Path.absolute current path = some whole ∧
    Path.components found = Path.components whole ∧ Path.components whole = Path.root ::
      (if Path.isAbsolute path then Path.names path else Path.names current ++ Path.names path)

/-- A path that was typed becomes an entry that stands for it. -/
theorem standsFor_entryOfPath (current : String) {path : String} (h : path ≠ "") :
    ∃ entry found, entryOfPath current path = .ok entry ∧ Url.localPath? entry = some found ∧
      StandsFor current path found := by
  obtain ⟨whole, hwhole, habsolute, hnames⟩ := Path.absolute_spec current h
  obtain ⟨found, hfound, hcomponents⟩ := Url.localPath?_ofPath whole
  refine ⟨Url.ofPath whole, found, ?_, hfound, whole, hwhole, ?_, ?_⟩
  · unfold entryOfPath
    rw [hwhole]
  · rw [hcomponents, Path.components_of_isAbsolute habsolute]
  · rw [Path.components_of_isAbsolute habsolute, hnames]

/-- Of some paths that are not empty, each becomes an entry that stands for it, and no other path
comes in. -/
theorem standsFor_entries (current : String) {paths : List String}
    (h : ∀ path ∈ paths, path ≠ "") :
    ∃ entries, paths.mapM (entryOfPath current) = .ok entries ∧
      List.Forall₂ (StandsFor current) paths (entries.filterMap Url.localPath?) := by
  induction paths with
  | nil => exact ⟨[], rfl, List.Forall₂.nil⟩
  | cons path paths ih =>
      obtain ⟨hpath, hpaths⟩ := List.forall_mem_cons.mp h
      obtain ⟨entry, found, hentry, hfound, hstands⟩ := standsFor_entryOfPath current hpath
      obtain ⟨entries, hmap, hrest⟩ := ih hpaths
      refine ⟨entry :: entries, ?_, ?_⟩
      · rw [List.mapM_cons, hentry, hmap]
        rfl
      · rw [List.filterMap_cons_some hfound]
        exact List.Forall₂.cons hstands hrest

/-- **The paths of a loader are those that it was made for.** Whatever the current directory, a
loader can be made for every list of paths, none of which is empty. Its local paths are one for
each of these, in their order, with the components of the path as it is seen from the root. -/
theorem localPaths_ofPaths (current name : String) (scope : Scope) {paths : List String}
    (h : ∀ path ∈ paths, path ≠ "") :
    ∃ l, ofPaths current scope name paths = .ok l ∧
      List.Forall₂ (StandsFor current) paths l.localPaths := by
  obtain ⟨entries, hentries, hpaths⟩ := standsFor_entries current h
  refine ⟨⟨scope, name, entries⟩, ?_, hpaths⟩
  unfold ofPaths
  rw [hentries]
  rfl

/-- A space and marks that a URL has a meaning for, a path from the root with dots and an escape as
a name, a letter beyond ASCII, a backslash, and the name of a drive. -/
def oddPaths : List String :=
  ["lib dir/a#1?.jar", "//x/./y/%2E/..//é/", "a\\b", "C:"]

/-- The local paths of a loader for such paths. -/
theorem localPaths_ofPaths_odd : (∀ path ∈ oddPaths, path ≠ "") ∧
    ∃ l, ofPaths "/home" ⟨1⟩ "app" oddPaths = .ok l ∧
      l.localPaths.map Path.components =
        [["/", "home", "lib dir", "a#1?.jar"], ["/", "x", "y", "%2E", "..", "é"],
          ["/", "home", "a\\b"], ["/", "home", "C:"]] := by
  have hnonempty : ∀ path ∈ oddPaths, path ≠ "" := by decide
  obtain ⟨l, hl, hpaths⟩ := localPaths_ofPaths "/home" "app" ⟨1⟩ hnonempty
  refine ⟨hnonempty, l, hl, ?_⟩
  have hcomponents : (oddPaths.map fun path => Path.root ::
      (if Path.isAbsolute path then Path.names path
        else Path.names "/home" ++ Path.names path)) = l.localPaths.map Path.components := by
    rw [← List.forall₂_eq_eq_eq, List.forall₂_map_left_iff, List.forall₂_map_right_iff]
    exact hpaths.imp fun _ _ ⟨_, _, hfound, hwhole⟩ => (hfound.trans hwhole).symm
  rw [← hcomponents]
  decide

end Loader

end Classpath
