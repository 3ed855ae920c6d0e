import Mathlib.Data.List.Find
import Classpath.Proofs.Success
import Classpath.Regex.Expression

/-!
# What Readers Take

A reader of expressions takes characters from the front of a text and looks at most at those behind
them. Here it is compared how it reads a text alone, and how it reads the same text where `)$` is
pasted behind it. If it stops before what was pasted, it read the text alone: the pasted
characters told it nothing that the end of the text would not have told it. `Detaches size R x y`
says this of two readers `x` and `y`, for texts up to some size.

The size matters where a reader is given a number of steps that depends on how long the text is. And
the two readers differ, and so may their values, where what is open around the text differs.

There is one exception. Whether a brace behind `\\b` opens the name of a kind of boundary depends on
what stands in it. So if the text ends there, the boundary can be read with the pasted characters
behind it, and not without (`escape_alone`).

## Main definitions

* `Consumes`: a reader takes characters from the front.
* `Detaches`: how a text in front of `)$` is read, and how it is read alone.

## Main results

* `Detaches.bind`: one reader after another.
* `detaches_peek`: looking ahead, where the end of the text is a parenthesis or nothing.
* `detaches_takeSpaced`: several characters, with two numbers of steps that are both enough.
* `escape_alone`: what follows a backslash.
-/

namespace Classpath.Regex

variable {α β γ δ : Type} {size n m : Nat} {flags : Flags} {cs rest : List Char}

/-- What is pasted behind a source. -/
def closing : List Char := [')', '$']

namespace Scan

/-- A sequence of readers, taken apart. -/
theorem bind_eq_ok_iff {x : Scan α} {f : α → Scan β} {r : β × List Char} :
    (x >>= f) cs = .ok r ↔ ∃ a rest, x cs = .ok (a, rest) ∧ f a rest = .ok r := by
  show (x cs >>= fun p => f p.1 p.2) = _ ↔ _
  rw [Classpath.bind_eq_ok_iff]
  exact Prod.exists

/-- A value is read without taking anything. -/
theorem pure_eq_ok_iff {a b : α} : (pure a : Scan α) cs = .ok (b, rest) ↔ b = a ∧ rest = cs := by
  show Except.ok (a, cs) = _ ↔ _
  simp [eq_comm]

/-- A value that may be wanting is read, if it is there, without taking anything. -/
theorem ofExcept_eq_ok_iff {r : Except SyntaxError α} {a : α} :
    ofExcept r cs = .ok (a, rest) ↔ r = .ok a ∧ rest = cs := by
  cases r with
  | error e => exact ⟨(nomatch ·), fun ⟨h, _⟩ => nomatch h⟩
  | ok b =>
      refine pure_eq_ok_iff.trans (and_congr_left fun _ => ?_)
      rw [Except.ok.injEq, eq_comm]

theorem fail_ne_ok {e : SyntaxError} {r : α × List Char} : fail e cs ≠ .ok r := by
  intro h
  cases h

end Scan

/-! ### Readers take characters from the front -/

/-- What a reader leaves is the end of what it was given. -/
def Consumes (x : Scan α) : Prop := ∀ cs a rest, x cs = .ok (a, rest) → rest <:+ cs

/-- A value takes nothing from the front. -/
theorem consumes_pure {a : α} : Consumes (pure a : Scan α) := by
  intro cs b rest h
  obtain ⟨-, rfl⟩ := Scan.pure_eq_ok_iff.mp h
  exact List.suffix_refl _

theorem consumes_fail {e : SyntaxError} : Consumes (Scan.fail e : Scan α) :=
  fun _ _ _ h => absurd h Scan.fail_ne_ok

/-- A sequence leaves an end of the text: the second reader leaves an end of what the first one
left. -/
theorem Consumes.bind {x : Scan α} {f : α → Scan β} (hx : Consumes x) (hf : ∀ a, Consumes (f a)) :
    Consumes (x >>= f) := by
  intro cs b rest h
  obtain ⟨a, middle, hfirst, hrest⟩ := Scan.bind_eq_ok_iff.mp h
  exact (hf a _ _ _ hrest).trans (hx _ _ _ hfirst)

/-- **How a text in front of `)$` is read**: if `x` takes of the text only, `y` takes the same of it
alone, and they come to values as `R` relates them. -/
structure Detaches (size : Nat) (R : α → β → Prop) (x : Scan α) (y : Scan β) : Prop where
  consumes : Consumes x
  alone : ∀ cs rest a, cs.length ≤ size → x (cs ++ closing) = .ok (a, rest ++ closing) →
    ∃ b, y cs = .ok (b, rest) ∧ R a b

/-- Two values that are related are read alone, since neither takes anything. -/
theorem detaches_pure {R : α → β → Prop} {a : α} {b : β} (h : R a b) :
    Detaches size R (pure a : Scan α) (pure b) where
  consumes := consumes_pure
  alone _ _ _ _ hread := by
    obtain ⟨rfl, hrest⟩ := Scan.pure_eq_ok_iff.mp hread
    exact ⟨b, Scan.pure_eq_ok_iff.mpr ⟨rfl, List.append_cancel_right hrest⟩, h⟩

/-- A reader that fails in front of `)$` may be compared with any other. -/
theorem detaches_fail {R : α → β → Prop} {e : SyntaxError} {y : Scan β} :
    Detaches size R (Scan.fail e) y :=
  ⟨consumes_fail, fun _ _ _ _ h => absurd h Scan.fail_ne_ok⟩

/-- So may a sequence whose first part fails. -/
theorem detaches_fail_bind {R : α → β → Prop} {e : SyntaxError} {f : γ → Scan α} {y : Scan β} :
    Detaches size R (Scan.fail e >>= f) y where
  consumes cs a rest h := by
    obtain ⟨_, _, hfail, -⟩ := Scan.bind_eq_ok_iff.mp h
    cases hfail
  alone cs rest a _ h := by
    obtain ⟨_, _, hfail, -⟩ := Scan.bind_eq_ok_iff.mp h
    cases hfail

/-- **One reader after another**: what the first one leaves ends with what the second one does. -/
theorem Detaches.bind {R : β → δ → Prop} {x y : Scan α} {f : α → Scan β} {g : α → Scan δ}
    (hx : Detaches size Eq x y) (hf : ∀ a, Detaches size R (f a) (g a)) :
    Detaches size R (x >>= f) (y >>= g) where
  consumes := hx.consumes.bind fun a => (hf a).consumes
  alone cs rest b hsize h := by
    obtain ⟨a, middle, hfirst, hrest⟩ := Scan.bind_eq_ok_iff.mp h
    obtain ⟨front, rfl⟩ := (hf a).consumes _ _ _ hrest
    rw [← List.append_assoc] at hfirst hrest
    have hlength := (hx.consumes _ _ _ hfirst).length_le
    simp only [List.length_append] at hlength
    obtain ⟨_, hfirst, rfl⟩ := hx.alone _ _ _ hsize hfirst
    obtain ⟨b, hrest, hR⟩ := (hf a).alone _ _ _ (by rw [List.length_append]; omega) hrest
    exact ⟨b, Scan.bind_eq_ok_iff.mpr ⟨a, _, hfirst, hrest⟩, hR⟩

theorem consumes_ofExcept {r : Except SyntaxError α} : Consumes (Scan.ofExcept r) := by
  intro cs a rest h
  obtain ⟨-, rfl⟩ := Scan.ofExcept_eq_ok_iff.mp h
  exact List.suffix_refl _

/-- A value that may be wanting is the same in both readings. -/
theorem detaches_ofExcept {r : Except SyntaxError α} :
    Detaches size Eq (Scan.ofExcept r) (Scan.ofExcept r) := by
  cases r with
  | error e => exact detaches_fail
  | ok a => exact detaches_pure rfl

/-- A reader of one text is given by what it does with it. -/
theorem detaches_of_eq {x : Scan α} (hx : Consumes x)
    (h : ∀ cs rest a, x (cs ++ closing) = .ok (a, rest ++ closing) → x cs = .ok (a, rest)) :
    Detaches size Eq x x where
  consumes := hx
  alone _ _ _ _ hread := ⟨_, h _ _ _ hread, rfl⟩

/-! ### Characters -/

/-- A text that is shorter than `)$` does not end with it, so a reader that left it went beyond
what was pasted. -/
theorem ne_append_closing_of_length_lt (h : cs.length < 2) : cs ≠ rest ++ closing := by
  rintro rfl
  rw [List.length_append] at h
  have : closing.length = 2 := rfl
  omega

/-- The next character is taken from the front. -/
theorem consumes_next (e : SyntaxError) : Consumes (Scan.next e) := by
  intro cs c rest h
  cases cs with
  | nil => cases h
  | cons c cs =>
      cases h
      exact List.suffix_cons _ _

/-- The next character is one of the text, if the reader stops before what is pasted. -/
theorem detaches_next (e : SyntaxError) : Detaches size Eq (Scan.next e) (Scan.next e) := by
  refine detaches_of_eq (consumes_next e) fun cs rest a h => ?_
  cases cs with
  | nil =>
      obtain ⟨-, hrest⟩ := Prod.mk.inj (Except.ok.inj h)
      exact absurd hrest (ne_append_closing_of_length_lt (by decide))
  | cons c cs =>
      obtain ⟨rfl, hrest⟩ := Prod.mk.inj (Except.ok.inj h)
      rw [List.append_cancel_right hrest]
      rfl

/-- To pass over a character passes over one of the text, or takes the pasted parenthesis and does
not stop before it. -/
theorem detaches_advance : Detaches size Eq Scan.advance Scan.advance := by
  refine detaches_of_eq (fun cs a rest h => ?_) fun cs rest a h => ?_
  · cases h
    exact List.drop_suffix 1 cs
  · obtain ⟨-, hrest⟩ := Prod.mk.inj (Except.ok.inj h)
    cases cs with
    | nil => exact absurd hrest (ne_append_closing_of_length_lt (by decide))
    | cons c cs =>
        rw [← List.append_cancel_right (hrest : cs ++ closing = _)]
        rfl

/-- **Looking ahead**: at the end of the text there is a parenthesis, or nothing. -/
theorem detaches_peek {R : α → β → Prop} {f : Option Char → Scan α} {g : Option Char → Scan β}
    (hsome : ∀ c, Detaches size R (f (some c)) (g (some c))) (hnone : Consumes (f none))
    (hend : ∀ rest a, f (some ')') closing = .ok (a, rest ++ closing) →
      ∃ b, g none [] = .ok (b, rest) ∧ R a b) :
    Detaches size R (Scan.peek >>= f) (Scan.peek >>= g) where
  consumes cs a rest h := by
    cases cs with
    | nil => exact hnone [] a rest h
    | cons c cs => exact (hsome c).consumes (c :: cs) a rest h
  alone cs rest a hsize h := by
    cases cs with
    | nil => exact hend rest a h
    | cons c cs => exact (hsome c).alone _ _ _ hsize h

theorem consumes_peek : Consumes Scan.peek := by
  intro cs o rest h
  cases h
  exact List.suffix_refl cs

/-- A reader that takes a parenthesis for the end. -/
theorem detaches_peek_same {R : α → β → Prop} {f : Option Char → Scan α} {g : Option Char → Scan β}
    (h : ∀ o, Detaches size R (f o) (g o)) (hend : f (some ')') = f none) :
    Detaches size R (Scan.peek >>= f) (Scan.peek >>= g) := by
  refine detaches_peek (fun c => h (some c)) (h none).consumes fun rest a hread => ?_
  rw [hend] at hread
  exact (h none).alone [] rest a (Nat.zero_le _) hread

/-- A reader that takes more than the text goes on behind what is pasted. -/
theorem takes_closing {x : Scan β} {f : β → Scan α} {a : α} (hx : ∀ b m, x closing = .ok (b, m) →
    m.length < 2) (hf : ∀ b, Consumes (f b)) : (x >>= f) closing ≠ .ok (a, rest ++ closing) := by
  intro h
  obtain ⟨b, middle, hfirst, hrest⟩ := Scan.bind_eq_ok_iff.mp h
  have hlength := (hf b _ _ _ hrest).length_le
  have hshort := hx b middle hfirst
  rw [List.length_append] at hlength
  have : closing.length = 2 := rfl
  omega

/-- Texts that are given a number of steps by their length. -/
theorem detaches_get {R : α → β → Prop} {f : List Char → Scan α} {g : List Char → Scan β}
    (h : ∀ cs, Detaches cs.length R (f (cs ++ closing)) (g cs)) (hf : ∀ cs, Consumes (f cs)) :
    Detaches size R (get >>= f) (get >>= g) where
  consumes cs a rest hread := hf cs cs a rest hread
  alone cs rest a _ hread := (h cs).alone cs rest a (Nat.le_refl _) hread

/-- Characters among which there is no parenthesis come first in a text with `)$` behind it only if
they come first in the text. -/
theorem takes_front {s : List Char} (hs : ')' ∉ s) (h : s <+: cs ++ closing) :
    s <+: cs := by
  obtain h | ⟨back, rfl⟩ := List.prefix_or_prefix_of_prefix h (List.prefix_append cs closing)
  · exact h
  · obtain ⟨after, hafter⟩ := h
    rw [List.append_assoc, List.append_cancel_left_eq] at hafter
    cases back with
    | nil => simp
    | cons c back =>
        obtain ⟨rfl, -⟩ := List.cons.inj hafter
        simp at hs

/-- Whether some characters come next is the same in both readings, if there is no parenthesis
among them. -/
theorem detaches_takes {s : String} (hs : ')' ∉ s.toList) :
    Detaches size Eq (Scan.takes s) (Scan.takes s) := by
  refine detaches_of_eq (fun cs a rest h => ?_) fun cs rest a h => ?_
  · unfold Scan.takes at h
    split at h <;> cases h
    · exact List.drop_suffix _ cs
    · exact List.suffix_refl cs
  · unfold Scan.takes at h ⊢
    by_cases hfront : s.toList <+: cs
    · have hlength := hfront.length_le
      rw [String.length_toList] at hlength
      rw [if_pos (List.isPrefixOf_iff_prefix.mpr (hfront.trans (List.prefix_append cs closing))),
        List.drop_append_of_le_length hlength] at h
      obtain ⟨rfl, hrest⟩ := Prod.mk.inj (Except.ok.inj h)
      rw [if_pos (List.isPrefixOf_iff_prefix.mpr hfront), List.append_cancel_right hrest]
    · rw [if_neg fun hmore => hfront
        (takes_front hs (List.isPrefixOf_iff_prefix.mp hmore))] at h
      obtain ⟨rfl, hrest⟩ := Prod.mk.inj (Except.ok.inj h)
      rw [if_neg (by simpa using hfront), List.append_cancel_right hrest]

/-- The same of several texts, of which the first that comes next is taken. -/
theorem detaches_takesAny {texts : List String} (h : ∀ s ∈ texts, ')' ∉ s.toList) :
    Detaches size Eq (Scan.takesAny texts) (Scan.takesAny texts) := by
  have hfind : ∀ cs : List Char, texts.find? (·.toList.isPrefixOf (cs ++ closing)) =
      texts.find? (·.toList.isPrefixOf cs) := by
    intro cs
    refine List.find?_congr fun s hs => ?_
    rw [Bool.eq_iff_iff, List.isPrefixOf_iff_prefix, List.isPrefixOf_iff_prefix]
    exact ⟨takes_front (h s hs), fun hfront => hfront.trans (List.prefix_append cs closing)⟩
  refine detaches_of_eq (fun cs a rest h => ?_) fun cs rest a hread => ?_
  · unfold Scan.takesAny at h
    split at h <;> cases h
    · exact List.drop_suffix _ cs
    · exact List.suffix_refl cs
  · unfold Scan.takesAny at hread ⊢
    rw [hfind] at hread
    cases hs : texts.find? (·.toList.isPrefixOf cs) with
    | none =>
        rw [hs] at hread
        obtain ⟨rfl, hrest⟩ := Prod.mk.inj (Except.ok.inj hread)
        rw [List.append_cancel_right hrest]
    | some s =>
        rw [hs] at hread
        have hfront : s.toList <+: cs :=
          List.isPrefixOf_iff_prefix.mp (by simpa using List.find?_some hs)
        have hlength := hfront.length_le
        rw [String.length_toList] at hlength
        obtain ⟨rfl, hrest⟩ := Prod.mk.inj (Except.ok.inj hread)
        rw [List.drop_append_of_le_length hlength] at hrest
        simp only [List.append_cancel_right hrest]

/-- If the characters of a kind end before what is pasted, they are those of the text alone. -/
theorem dropWhile_append_closing {wanted : Char → Bool}
    (h : (cs ++ closing).dropWhile wanted = rest ++ closing) :
    cs.dropWhile wanted = rest ∧ (cs ++ closing).takeWhile wanted = cs.takeWhile wanted := by
  induction cs with
  | nil =>
      cases hwanted : wanted ')' with
      | true =>
          have hshort : (['$'].dropWhile wanted).length < 2 :=
            Nat.lt_succ_of_le (List.dropWhile_suffix wanted).length_le
          rw [List.nil_append, closing, List.dropWhile_cons_of_pos hwanted] at h
          exact absurd h (ne_append_closing_of_length_lt hshort)
      | false =>
          have hnot : ¬wanted ')' = true := by simp [hwanted]
          rw [List.nil_append, closing, List.dropWhile_cons_of_neg hnot] at h
          have hrest : rest = [] := (List.append_cancel_right (h : [] ++ closing = _)).symm
          exact ⟨hrest.symm, List.takeWhile_cons_of_neg hnot⟩
  | cons c cs ih =>
      rw [List.cons_append] at h ⊢
      by_cases hwanted : wanted c = true
      · rw [List.dropWhile_cons_of_pos hwanted] at h ⊢
        obtain ⟨hdrop, htake⟩ := ih h
        rw [List.takeWhile_cons_of_pos hwanted, List.takeWhile_cons_of_pos hwanted, htake]
        exact ⟨hdrop, rfl⟩
      · rw [List.dropWhile_cons_of_neg hwanted] at h ⊢
        rw [List.takeWhile_cons_of_neg hwanted, List.takeWhile_cons_of_neg hwanted]
        exact ⟨List.append_cancel_right (h : (c :: cs) ++ closing = _), rfl⟩

/-- All characters of a kind are taken from the front. -/
theorem consumes_takeWhile (wanted : Char → Bool) : Consumes (Scan.takeWhile wanted) := by
  intro cs a rest h
  cases h
  exact List.dropWhile_suffix wanted

/-- All characters of a kind that come next are read alone. -/
theorem detaches_takeWhile (wanted : Char → Bool) :
    Detaches size Eq (Scan.takeWhile wanted) (Scan.takeWhile wanted) := by
  refine detaches_of_eq (consumes_takeWhile wanted) fun cs rest a h => ?_
  obtain ⟨rfl, hrest⟩ := Prod.mk.inj (Except.ok.inj h)
  obtain ⟨hdrop, htake⟩ := dropWhile_append_closing hrest
  show Except.ok (cs.takeWhile wanted, cs.dropWhile wanted) = _
  rw [hdrop, htake]

/-! ### Blanks and comments -/

/-- What is behind blanks and comments, where these mean nothing. -/
def Flags.skip (flags : Flags) (cs : List Char) : List Char :=
  if flags.spaced then dropBlanks false cs else cs

/-- What is behind blanks and comments is an end of the text. -/
theorem dropBlanks_suffix (inComment : Bool) : dropBlanks inComment cs <:+ cs := by
  induction cs generalizing inComment with
  | nil => cases inComment <;> exact List.suffix_refl []
  | cons c cs ih =>
      cases inComment with
      | true => exact (ih _).trans (List.suffix_cons c cs)
      | false =>
          unfold dropBlanks
          split
          · exact (ih _).trans (List.suffix_cons c cs)
          · split
            · exact (ih _).trans (List.suffix_cons c cs)
            · exact List.suffix_refl _

/-- A comment that is not closed goes on into what is pasted. -/
theorem dropBlanks_append_closing (inComment : Bool) :
    dropBlanks inComment (cs ++ closing) = dropBlanks inComment cs ++ closing ∨
      dropBlanks inComment (cs ++ closing) = [] := by
  induction cs generalizing inComment with
  | nil =>
      cases inComment with
      | true => exact Or.inr rfl
      | false =>
          have hstays : dropBlanks false closing = closing := by decide +kernel
          exact Or.inl hstays
  | cons c cs ih =>
      cases inComment with
      | true => exact ih _
      | false =>
          rw [List.cons_append]
          unfold dropBlanks
          split
          · exact ih _
          · split
            · exact ih _
            · exact Or.inl rfl

/-- A character that is no blank and begins no comment is not passed over. -/
theorem Flags.skip_cons (flags : Flags) {c : Char} (hblank : isBlank c = false) (hc : c ≠ '#')
    (cs : List Char) : flags.skip (c :: cs) = c :: cs := by
  unfold skip
  split
  · rw [dropBlanks, if_neg (by simp [hblank]), if_neg hc]
  · rfl

/-- What is behind the blanks and comments that mean nothing is an end of the text. -/
theorem Flags.skip_suffix (flags : Flags) (cs : List Char) : flags.skip cs <:+ cs := by
  unfold skip
  split
  · exact dropBlanks_suffix false
  · exact List.suffix_refl cs

/-- Blanks and comments are passed over up to the same place with `)$` behind the text, unless a
comment goes on to the end of all. -/
theorem Flags.skip_append_closing (flags : Flags) (cs : List Char) :
    flags.skip (cs ++ closing) = flags.skip cs ++ closing ∨ flags.skip (cs ++ closing) = [] := by
  unfold skip
  split
  · exact dropBlanks_append_closing false
  · exact Or.inl rfl

/-- If what is pasted is left, what is left of the text is what would be left of it alone. -/
theorem Flags.skip_eq (h : flags.skip (cs ++ closing) = rest ++ closing) :
    flags.skip cs = rest := by
  obtain hskip | hskip := flags.skip_append_closing cs <;> rw [hskip] at h
  · exact List.append_cancel_right h
  · exact absurd h (ne_append_closing_of_length_lt (by decide))

/-- Blanks always succeed, and leave what is behind them. -/
theorem blanks_eq : blanks flags cs = .ok ((), flags.skip cs) := rfl

theorem consumes_blanks : Consumes (blanks flags) := by
  intro cs u rest h
  cases h
  exact flags.skip_suffix cs

/-- Blanks are read alone. -/
theorem detaches_blanks : Detaches size Eq (blanks flags) (blanks flags) := by
  refine detaches_of_eq consumes_blanks fun cs rest a h => ?_
  obtain ⟨-, hrest⟩ := Prod.mk.inj (Except.ok.inj h)
  rw [blanks_eq, Flags.skip_eq hrest]

/-- To pass over a character and the blanks behind it is to do so in the text alone. -/
theorem detaches_advanceBlanks :
    Detaches size Eq (advanceBlanks flags) (advanceBlanks flags) :=
  detaches_advance.bind fun _ => detaches_blanks

theorem consumes_advanceBlanks : Consumes (advanceBlanks flags) :=
  Detaches.consumes (@detaches_advanceBlanks 0 flags)

/-- Whoever passes over the pasted parenthesis no longer leaves all that was pasted. -/
theorem advanceBlanks_closing {u : Unit} (h : advanceBlanks flags closing = .ok (u, rest)) :
    rest.length < 2 := by
  cases h
  exact Nat.lt_succ_of_le (flags.skip_suffix ['$']).length_le

/-- A character that is taken with the blanks behind it is taken from the text alone. -/
theorem detaches_nextBlanks (e : SyntaxError) :
    Detaches size Eq (nextBlanks flags e) (nextBlanks flags e) :=
  (detaches_next e).bind fun _ => detaches_blanks.bind fun _ => detaches_pure rfl

/-! ### Several characters -/

/-- At the end of a text there is nothing to take. -/
theorem takeSpaced_nil (wanted : Char → Bool) : takeSpaced flags wanted n [] = .ok ([], []) := by
  cases n <;> rfl

/-- One step of taking characters with blanks between them: the first is wanted and others follow
behind the blanks, or it is not and stays. -/
theorem takeSpaced_cons {wanted : Char → Bool} {c : Char} {l : List Char} :
    takeSpaced flags wanted (n + 1) (c :: cs) = .ok (l, rest) ↔
      (wanted c = true ∧ ∃ l', takeSpaced flags wanted n (flags.skip cs) = .ok (l', rest) ∧
        l = c :: l') ∨ (wanted c = false ∧ l = [] ∧ rest = c :: cs) := by
  show ((if wanted c then _ else _ : Scan (List Char)) (c :: cs)) = _ ↔ _
  by_cases hwanted : wanted c = true
  · rw [if_pos hwanted]
    simp only [hwanted, true_and, Bool.true_eq_false, false_and, or_false]
    show (takeSpaced flags wanted n >>= fun l => pure (c :: l)) (flags.skip cs) = _ ↔ _
    rw [Scan.bind_eq_ok_iff]
    constructor
    · rintro ⟨l', _, hl', h⟩
      obtain ⟨rfl, rfl⟩ := Scan.pure_eq_ok_iff.mp h
      exact ⟨l', hl', rfl⟩
    · rintro ⟨l', hl', rfl⟩
      exact ⟨l', rest, hl', Scan.pure_eq_ok_iff.mpr ⟨rfl, rfl⟩⟩
  · rw [if_neg hwanted, Scan.pure_eq_ok_iff]
    simp [hwanted]

/-- Characters with blanks between them are taken from the front. -/
theorem consumes_takeSpaced (wanted : Char → Bool) (n : Nat) :
    Consumes (takeSpaced flags wanted n) := by
  induction n with
  | zero => exact consumes_pure
  | succ n ih =>
      intro cs l rest h
      cases cs with
      | nil =>
          rw [takeSpaced_nil] at h
          cases h
          exact List.suffix_refl []
      | cons c cs =>
          obtain ⟨-, l', hl', -⟩ | ⟨-, -, rfl⟩ := takeSpaced_cons.mp h
          · exact (ih _ _ _ hl').trans ((flags.skip_suffix cs).trans (List.suffix_cons c cs))
          · exact List.suffix_refl _

/-- Two numbers of steps make no difference if both are enough for the text. -/
theorem detaches_takeSpaced (wanted : Char → Bool) (hn : size ≤ n) (hm : size ≤ m) :
    Detaches size Eq (takeSpaced flags wanted n) (takeSpaced flags wanted m) where
  consumes := consumes_takeSpaced wanted n
  alone cs rest l hsize h := by
    refine ⟨l, ?_, rfl⟩
    replace hn := Nat.le_trans hsize hn
    replace hm := Nat.le_trans hsize hm
    clear hsize
    induction n generalizing m cs l with
    | zero =>
        obtain rfl := List.length_eq_zero_iff.mp (Nat.le_zero.mp hn)
        obtain ⟨rfl, hrest⟩ := Prod.mk.inj (Except.ok.inj h)
        rw [takeSpaced_nil, List.append_cancel_right hrest]
    | succ n ih =>
        cases cs with
        | nil =>
            obtain ⟨-, l', hl', -⟩ | ⟨-, rfl, hrest⟩ := takeSpaced_cons.mp h
            · have hshort := ((consumes_takeSpaced wanted n _ _ _ hl').trans
                (flags.skip_suffix _)).length_le
              simp [closing] at hshort
            · replace hrest : rest ++ closing = [] ++ closing := hrest
              rw [takeSpaced_nil, List.append_cancel_right hrest]
        | cons c cs =>
            obtain ⟨m, rfl⟩ : ∃ k, m = k + 1 :=
              Nat.exists_eq_succ_of_ne_zero (by rw [List.length_cons] at hm; omega)
            rw [List.length_cons, Nat.add_le_add_iff_right] at hn hm
            obtain ⟨hwanted, l', hl', rfl⟩ | ⟨hwanted, rfl, hrest⟩ := takeSpaced_cons.mp h
            · obtain ⟨front, hfront⟩ := consumes_takeSpaced wanted n _ _ _ hl'
              rw [← List.append_assoc] at hfront
              have hskip := Flags.skip_eq hfront.symm
              have hlength := (flags.skip_suffix cs).length_le
              refine takeSpaced_cons.mpr (Or.inl ⟨hwanted, l', ?_, rfl⟩)
              rw [← hfront, ← hskip] at hl'
              exact ih _ _ hl' (Nat.le_trans hlength hn) (Nat.le_trans hlength hm)
            · refine takeSpaced_cons.mpr (Or.inr ⟨hwanted, rfl, ?_⟩)
              exact List.append_cancel_right (hrest : _ = (c :: cs) ++ closing)

/-- A fixed number of characters is read alone. Each fails for itself if the text ends before. -/
theorem detaches_takeCount (n : Nat) :
    Detaches size Eq (takeCount flags n) (takeCount flags n) := by
  induction n with
  | zero => exact detaches_pure rfl
  | succ n ih =>
      exact (detaches_nextBlanks _).bind fun _ => ih.bind fun _ => detaches_pure rfl

/-- What stands between braces is read alone, since the closing brace is not among what is pasted.
-/
theorem detaches_takeBraced : Detaches size Eq (takeBraced flags) (takeBraced flags) := by
  have hlast : ∀ (size : Nat) (content : List Char), Detaches size Eq
      (do let _ ← Scan.next .unfinishedEscape; return content)
      (do let _ ← Scan.next .unfinishedEscape; return content) :=
    fun size content => (detaches_next _).bind fun _ => detaches_pure rfl
  refine detaches_get (fun cs => detaches_blanks.bind fun _ => ?_) fun cs => ?_
  · exact (detaches_takeSpaced _ (by simp) (Nat.le_refl _)).bind (hlast _)
  · exact consumes_blanks.bind fun _ => (consumes_takeSpaced _ _).bind fun content =>
      (hlast 0 content).consumes

/-! ### Escapes -/

/-- A reader that is one of two takes from the front if both do. -/
theorem consumes_ite {p : Prop} [Decidable p] {x y : Scan α} (hx : Consumes x) (hy : Consumes y) :
    Consumes (if p then x else y) := by
  split
  · exact hx
  · exact hy

/-- Readers that go on in one of two ways are compared way by way, if the condition is the same for
both. -/
theorem detaches_ite {R : α → β → Prop} {p : Prop} [Decidable p] {x x' : Scan α} {y y' : Scan β}
    (h : Detaches size R x y) (h' : Detaches size R x' y') :
    Detaches size R (if p then x else x') (if p then y else y') := by
  split
  · exact h
  · exact h'

/-- The number of a character, in any of the ways to write one, is read alone. -/
theorem detaches_numbered (kind : Char) :
    Detaches size Eq (numbered flags kind) (numbered flags kind) := by
  unfold numbered
  simp only []
  refine detaches_blanks.bind fun _ => detaches_peek_same (fun o => ?_) rfl
  refine detaches_ite
    (detaches_advance.bind fun _ => detaches_takeBraced.bind fun digits =>
      detaches_ite (detaches_blanks.bind fun _ => ?_) ?_)
    ((detaches_takeCount _).bind fun digits => detaches_ite (detaches_blanks.bind fun _ => ?_) ?_)
  all_goals
    refine detaches_ite detaches_fail ?_
    cases characterOf? digits with
    | none => exact detaches_fail
    | some c => exact detaches_ite detaches_fail (detaches_pure rfl)

/-- What comes of a property that was looked up. -/
def propertyOf (flags : Flags) (negated : Bool) : Option CharSet → Scan CharSet
  | none => Scan.fail .unknownProperty
  | some s =>
    if flags.unicode then Scan.ofExcept (flags.finish negated s) else Scan.fail .partOfCharacter

/-- What comes of a property is the same in both readings, since nothing more is read for it. -/
theorem detaches_propertyOf (negated : Bool) (set : Option CharSet) :
    Detaches size Eq (propertyOf flags negated set) (propertyOf flags negated set) := by
  cases set with
  | none => exact detaches_fail
  | some s => exact detaches_ite detaches_ofExcept detaches_fail

theorem consumes_propertyOf (negated : Bool) (set : Option CharSet) :
    Consumes (propertyOf flags negated set) :=
  Detaches.consumes (@detaches_propertyOf 0 flags negated set)

/-- The name of a property is read alone, be it a single letter or one between braces. -/
theorem detaches_property (negated : Bool) :
    Detaches size Eq (property flags negated) (property flags negated) := by
  unfold property
  simp only []
  refine detaches_blanks.bind fun _ => detaches_peek (fun c => ?_) ?_ fun rest a h => ?_
  · split
    · rename_i hnone
      cases hnone
    · refine detaches_advance.bind fun _ => detaches_takeBraced.bind fun content => ?_
      exact (detaches_pure rfl).bind (detaches_propertyOf negated)
    · exact detaches_advanceBlanks.bind fun _ =>
        (detaches_pure rfl).bind (detaches_propertyOf negated)
  · exact consumes_fail.bind (consumes_propertyOf negated)
  · -- a parenthesis is taken for a name of one letter
    refine absurd h (takes_closing (fun _ _ => advanceBlanks_closing) fun _ => ?_)
    exact consumes_pure.bind (consumes_propertyOf negated)

/-- What is left is a brace and nothing that means anything. -/
def EndsAtBrace (flags : Flags) (rest : List Char) : Prop :=
  ∃ inner, rest = '\x7b' :: inner ∧ flags.skip inner = []

/-- The characters of which names of kinds of boundaries are made. -/
def isBoundaryName (c : Char) : Bool := c.isAlpha || c == '-'

/-- The name of a kind of boundary, with the brace behind it. -/
def NamesBoundary (flags : Flags) (cs : List Char) (l : Look) (rest : List Char) : Prop :=
  ∃ name kind, takeSpaced flags isBoundaryName cs.length cs = .ok (name, '\x7d' :: rest) ∧
    wordLookNamed? (String.ofList name) = some kind ∧ l = wordLook flags kind

section Boundary

variable {c : Char} {l : Look}

/-- Without a brace behind `\\b` there is no name, and the boundary is the one between words. -/
theorem boundary_cons_of_ne (h : c ≠ '\x7b') :
    boundary flags (c :: cs) = .ok (wordLook flags .boundary, c :: cs) := by
  unfold boundary
  split
  · rename_i heq
    exact absurd (List.cons.inj heq).1 h
  · rfl

/-- If the text ends behind the brace, the boundary cannot be read at all. -/
theorem boundary_of_skip_nil (h : flags.skip cs = []) :
    boundary flags ('\x7b' :: cs) = .error .unfinishedEscape := by
  have hread : (if flags.spaced then dropBlanks false cs else cs) = [] := h
  unfold boundary
  simp only [hread]

/-- If what is behind the brace cannot be in a name, the brace is left, for it may be the one of a
repetition. -/
theorem boundary_of_not (h : flags.skip cs = c :: rest) (hc : isBoundaryName c = false) :
    boundary flags ('\x7b' :: cs) = .ok (wordLook flags .boundary, '\x7b' :: cs) := by
  have hread : (if flags.spaced then dropBlanks false cs else cs) = c :: rest := h
  have hnamed : (c.isAlpha || c == '-') = false := hc
  unfold boundary
  simp only [hread, hnamed, Bool.not_false, if_true]

/-- If it can be in a name, the boundary has to be named, and the brace that closes the name is
taken too. -/
theorem boundary_iff (h : flags.skip cs = c :: rest) (hc : isBoundaryName c = true)
    {behind : List Char} :
    boundary flags ('\x7b' :: cs) = .ok (l, behind) ↔
      NamesBoundary flags (c :: rest) l behind := by
  have hread : (if flags.spaced then dropBlanks false cs else cs) = c :: rest := h
  have hnamed : (c.isAlpha || c == '-') = true := hc
  unfold boundary
  simp only [hread, hnamed, Bool.not_true, Bool.false_eq_true, if_false]
  constructor
  · intro hok
    split at hok
    · cases hok
    · rename_i name behind' hname
      split at hok
      · rename_i kind hkind
        obtain ⟨rfl, rfl⟩ := Prod.mk.inj (Except.ok.inj hok)
        exact ⟨name, kind, hname, hkind, rfl⟩
      · cases hok
    · cases hok
  · rintro ⟨name, kind, hname, hkind, rfl⟩
    unfold isBoundaryName at hname
    rw [hname]
    simp only [hkind]

end Boundary

theorem consumes_boundary : Consumes (boundary flags) := by
  intro cs l rest h
  cases cs with
  | nil =>
      cases h
      exact List.suffix_refl _
  | cons c cs =>
      by_cases hbrace : c = '\x7b'
      · subst hbrace
        cases hskip : flags.skip cs with
        | nil =>
            rw [boundary_of_skip_nil hskip] at h
            cases h
        | cons d inner =>
            cases hnamed : isBoundaryName d with
            | false =>
                rw [boundary_of_not hskip hnamed] at h
                cases h
                exact List.suffix_refl _
            | true =>
                obtain ⟨name, kind, hname, -, -⟩ := (boundary_iff hskip hnamed).mp h
                have hbehind := (List.suffix_cons _ _).trans (consumes_takeSpaced _ _ _ _ _ hname)
                exact (hbehind.trans (hskip ▸ flags.skip_suffix cs)).trans (List.suffix_cons _ _)
      · rw [boundary_cons_of_ne hbrace] at h
        cases h
        exact List.suffix_refl _

/-- The name of a kind of boundary is read alone, since its brace is no part of what is pasted. -/
theorem NamesBoundary.alone {l : Look}
    (h : NamesBoundary flags (cs ++ closing) l (rest ++ closing)) :
    NamesBoundary flags cs l rest := by
  obtain ⟨name, kind, hname, hkind, rfl⟩ := h
  have hsteps : cs.length ≤ (cs ++ closing).length := by simp
  obtain ⟨_, halone, rfl⟩ := (detaches_takeSpaced _ hsteps (Nat.le_refl _)).alone cs
    ('\x7d' :: rest) name (Nat.le_refl _) hname
  exact ⟨name, kind, halone, hkind, rfl⟩

/-- The name of a kind of boundary is read alone. The brace that would open it may also be left,
together with all that follows. -/
theorem boundary_alone {l : Look} (h : boundary flags (cs ++ closing) = .ok (l, rest ++ closing)) :
    boundary flags cs = .ok (l, rest) ∨ EndsAtBrace flags rest := by
  have hleft : ∀ cs : List Char, boundary flags (cs ++ closing) =
      .ok (wordLook flags .boundary, cs ++ closing) →
        boundary flags (cs ++ closing) = .ok (l, rest ++ closing) →
          l = wordLook flags .boundary ∧ rest = cs := by
    intro cs heq h
    obtain ⟨hl, hrest⟩ := Prod.mk.inj (Except.ok.inj (heq.symm.trans h))
    exact ⟨hl.symm, (List.append_cancel_right hrest).symm⟩
  cases cs with
  | nil =>
      obtain ⟨rfl, rfl⟩ := hleft [] rfl h
      exact Or.inl rfl
  | cons c cs =>
      by_cases hbrace : c = '\x7b'
      · subst hbrace
        obtain hskip | hskip := flags.skip_append_closing cs
        · cases hinner : flags.skip cs with
          | nil =>
              rw [hinner] at hskip
              obtain ⟨rfl, rfl⟩ := hleft _ (boundary_of_not hskip (by decide)) h
              exact Or.inr ⟨cs, rfl, hinner⟩
          | cons d inner =>
              rw [hinner] at hskip
              left
              cases hnamed : isBoundaryName d with
              | false =>
                  obtain ⟨rfl, rfl⟩ := hleft _ (boundary_of_not hskip hnamed) h
                  exact boundary_of_not hinner hnamed
              | true =>
                  exact (boundary_iff hinner hnamed).mpr ((boundary_iff hskip hnamed).mp h).alone
        · rw [List.cons_append, boundary_of_skip_nil hskip] at h
          cases h
      · obtain ⟨rfl, rfl⟩ := hleft _ (boundary_cons_of_ne hbrace) h
        exact Or.inl (boundary_cons_of_ne hbrace)

/-- What follows a backslash is decided by its first character, and only behind `\\b` it matters
what is pasted. -/
theorem exists_escape_eq (flags : Flags) :
    ∃ read : Char → Scan Escaped, escape flags = Scan.next .unfinishedEscape >>= read ∧
      (∀ c ≠ 'b', ∀ size, Detaches size Eq (read c) (read c)) ∧
      read ')' = (return .literal ')') ∧
      read 'b' = (do return .look (← boundary flags)) := by
  refine ⟨_, rfl, fun c hc size => ?_, rfl, rfl⟩
  dsimp only
  refine detaches_ite detaches_fail (detaches_ite ?_ (detaches_ite ?_ (detaches_ite ?_ ?_)))
  · exact (detaches_numbered c).bind fun _ => detaches_pure rfl
  · exact (detaches_property _).bind fun _ => detaches_pure rfl
  · exact detaches_pure rfl
  · split
    · exact detaches_ofExcept.bind fun _ => detaches_pure rfl
    · exact detaches_pure rfl
    · split
      · exact detaches_pure rfl
      · exact detaches_pure rfl
      · exact absurd rfl hc
      · exact detaches_pure rfl
      · exact detaches_pure rfl
      · exact detaches_pure rfl
      · exact detaches_fail

/-- What follows a backslash is taken from the front. -/
theorem consumes_escape : Consumes (escape flags) := by
  obtain ⟨read, heq, hread, -, hboundary⟩ := exists_escape_eq flags
  rw [heq]
  refine (consumes_next _).bind fun c => ?_
  by_cases hc : c = 'b'
  · rw [hc, hboundary]
    exact consumes_boundary.bind fun _ => consumes_pure
  · exact (hread c hc 0).consumes

/-- **What follows a backslash** is read alone, or it is the condition of a boundary. -/
theorem escape_alone {e : Escaped} (h : escape flags (cs ++ closing) = .ok (e, rest ++ closing)) :
    escape flags cs = .ok (e, rest) ∨ (∃ l, e = .look l) ∧ EndsAtBrace flags rest := by
  obtain ⟨read, heq, hread, hparenthesis, hboundary⟩ := exists_escape_eq flags
  rw [heq] at h ⊢
  obtain ⟨c, middle, hnext, hread'⟩ := Scan.bind_eq_ok_iff.mp h
  cases cs with
  | nil =>
      cases hnext
      rw [hparenthesis] at hread'
      obtain ⟨-, hrest⟩ := Scan.pure_eq_ok_iff.mp hread'
      exact absurd hrest.symm (ne_append_closing_of_length_lt (by decide))
  | cons c cs =>
      cases hnext
      by_cases hc : c = 'b'
      · subst hc
        rw [hboundary] at hread'
        obtain ⟨l, _, hl, hpure⟩ := Scan.bind_eq_ok_iff.mp hread'
        obtain ⟨rfl, rfl⟩ := Scan.pure_eq_ok_iff.mp hpure
        obtain hl | hbrace := boundary_alone hl
        · refine Or.inl (Scan.bind_eq_ok_iff.mpr ⟨'b', cs, rfl, ?_⟩)
          rw [hboundary]
          exact Scan.bind_eq_ok_iff.mpr ⟨l, rest, hl, rfl⟩
        · exact Or.inr ⟨⟨l, rfl⟩, hbrace⟩
      · obtain ⟨_, halone, rfl⟩ :=
          (hread c hc cs.length).alone cs rest e (Nat.le_refl _) hread'
        exact Or.inl (Scan.bind_eq_ok_iff.mpr ⟨c, cs, rfl, halone⟩)

end Classpath.Regex
