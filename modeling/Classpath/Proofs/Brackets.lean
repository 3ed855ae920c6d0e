import Classpath.Proofs.Scanning

/-!
# How Bracketed Classes Are Read

A class between brackets, in front of `)$` and alone. What comes next in a class is one of five
things (`Front`), and none of their signs is in `)$`, so the same comes next in both readings. There
are two things to watch. A condition behind a backslash could be read in a different way
(`escape_alone`), but no class holds conditions. And an item at the very end of a text is an item
only if something follows, which is never the end of a class, since the bracket is still to come.

The number of steps is another one in the two readings. A step takes a character at least, so as
many are enough as there are characters that the class takes (`ClassAlone`).

## Main results

* `classRange_alone`: an item or a range.
* `class_alone`, `detaches_bracket`: a class, behind its opening bracket.
-/

namespace Classpath.Regex

variable {α β γ : Type} {size n m : Nat} {flags : Flags} {c : OpenClass} {p : ClassPart}
  {cs rest : List Char}

namespace Scan

/-- A sequence goes on with its second reader where the first one succeeded, on the characters that
this one left. -/
theorem bind_of_eq {x : Scan α} {f : α → Scan β} {a : α} (h : x cs = .ok (a, rest)) :
    (x >>= f) cs = f a rest := by
  show (x cs >>= fun p => f p.1 p.2) = _
  rw [h]
  rfl

theorem peek_cons {c : Char} : peek (c :: cs) = .ok (some c, c :: cs) := rfl

/-- A reader that asks whether some characters come next goes on behind them if they do. -/
theorem takes_then (s : String) {x y : Scan α} :
    (do if ← takes s then x else y) (s.toList ++ cs) = x cs := by
  have htaken : takes s (s.toList ++ cs) = .ok (true, cs) := by
    unfold takes
    rw [if_pos (List.isPrefixOf_iff_prefix.mpr (List.prefix_append _ cs)), ← String.length_toList,
      List.drop_left]
  rw [bind_of_eq htaken, if_pos rfl]

/-- If the characters that a reader asks for do not come next, it goes on from where it was. -/
theorem takes_else {s : String} {x y : Scan α} (h : ¬s.toList <+: cs) :
    (do if ← takes s then x else y) cs = y cs := by
  have hleft : takes s cs = .ok (false, cs) :=
    if_neg fun hfront => h (List.isPrefixOf_iff_prefix.mp hfront)
  rw [bind_of_eq hleft, if_neg Bool.false_ne_true]

end Scan

/-- Readers that take a character at least. -/
def Shortens (x : Scan α) : Prop :=
  ∀ cs a rest, x cs = .ok (a, rest) → rest <:+ cs ∧ rest.length < cs.length

/-- A sequence takes a character if its first reader does, since the second one gives none back. -/
theorem Shortens.bind {x : Scan α} {f : α → Scan β} (hx : Shortens x) (hf : ∀ a, Consumes (f a)) :
    Shortens (x >>= f) := by
  intro cs b rest h
  obtain ⟨a, middle, hfirst, hrest⟩ := Scan.bind_eq_ok_iff.mp h
  obtain ⟨hsuffix, hlt⟩ := hx _ _ _ hfirst
  have hbehind := hf a _ _ _ hrest
  exact ⟨hbehind.trans hsuffix, Nat.lt_of_le_of_lt hbehind.length_le hlt⟩

/-- A sequence takes a character if its second reader does, wherever the first one stops. -/
theorem Consumes.shortens_bind {x : Scan α} {f : α → Scan β} (hx : Consumes x)
    (hf : ∀ a, Shortens (f a)) : Shortens (x >>= f) := by
  intro cs b rest h
  obtain ⟨a, middle, hfirst, hrest⟩ := Scan.bind_eq_ok_iff.mp h
  obtain ⟨hsuffix, hlt⟩ := hf a _ _ _ hrest
  have hfront := hx _ _ _ hfirst
  exact ⟨hsuffix.trans hfront, Nat.lt_of_lt_of_le hlt hfront.length_le⟩

/-- A reader that takes a character takes it from the front. -/
theorem Shortens.consumes {x : Scan α} (hx : Shortens x) : Consumes x :=
  fun cs a rest h => (hx cs a rest h).1

/-! ### Items and ranges -/

/-- Blanks end where `)$` begins, so they are dropped from the text alone. -/
theorem dropWhile_isBlank_append_closing (cs : List Char) :
    (cs ++ closing).dropWhile isBlank = cs.dropWhile isBlank ++ closing := by
  have hstays : closing.dropWhile isBlank = closing := by decide +kernel
  rw [List.dropWhile_append, hstays]
  split
  · rename_i hempty
    rw [List.isEmpty_iff.mp hempty, List.nil_append]
  · rfl

/-- Behind a hyphen at the end of the text there is a parenthesis, or nothing. -/
theorem exists_behindHyphen (flags : Flags) (c : Char) (cs : List Char) :
    ∃ after, behindHyphen flags (c :: cs) = .ok (after, c :: cs) ∧
      behindHyphen flags (c :: (cs ++ closing)) =
        .ok (after.or (some ')'), c :: (cs ++ closing)) := by
  have hhead : ∀ cs : List Char, (cs ++ closing).head? = cs.head?.or (some ')') :=
    fun cs => List.head?_append
  refine ⟨_, rfl, ?_⟩
  simp only [behindHyphen, List.drop_succ_cons, List.drop_zero]
  by_cases hspaced : flags.spaced = true
  · simp only [hspaced, Bool.not_true, Bool.false_eq_true, if_false]
    rw [dropWhile_isBlank_append_closing]
    cases cs.dropWhile isBlank with
    | nil => rfl
    | cons d inner =>
        by_cases hcomment : d = '#'
        · subst hcomment
          simp only [List.cons_append]
          rw [dropWhile_isBlank_append_closing, hhead]
        · simp [hcomment]
  · simp only [hspaced, Bool.not_false, if_true]
    rw [hhead]

/-- An item of a class is taken from the front, be it a character or an escape. -/
theorem consumes_classItem : Consumes (classItem flags) :=
  (consumes_next _).bind fun _ => consumes_ite consumes_escape consumes_pure

/-- To take the next character takes one, or fails for want of it. -/
theorem shortens_next (e : SyntaxError) : Shortens (Scan.next e) := by
  intro cs c rest h
  cases cs with
  | nil => cases h
  | cons c cs =>
      cases h
      exact ⟨List.suffix_cons _ _, Nat.lt_succ_self _⟩

/-- An item of a class is a character at least. -/
theorem shortens_classItem : Shortens (classItem flags) :=
  (shortens_next _).bind fun _ => consumes_ite consumes_escape consumes_pure

/-- An item in front of `)$` is read alone, unless it is one of the conditions that begin with a
backslash, whose name may end in what is pasted. -/
theorem classItem_alone {e : Escaped}
    (h : classItem flags (cs ++ closing) = .ok (e, rest ++ closing)) :
    classItem flags cs = .ok (e, rest) ∨ ∃ l, e = .look l := by
  obtain ⟨c, middle, hnext, hread⟩ := Scan.bind_eq_ok_iff.mp h
  cases cs with
  | nil =>
      cases hnext
      obtain ⟨-, hrest⟩ := Scan.pure_eq_ok_iff.mp hread
      exact absurd hrest.symm (ne_append_closing_of_length_lt (by decide))
  | cons c cs =>
      cases hnext
      split at hread
      · rename_i hbackslash
        obtain halone | ⟨hlook, -⟩ := escape_alone hread
        · refine Or.inl (Scan.bind_eq_ok_iff.mpr ⟨c, cs, rfl, ?_⟩)
          rw [if_pos hbackslash]
          exact halone
        · exact Or.inr hlook
      · rename_i hbackslash
        obtain ⟨rfl, hrest⟩ := Scan.pure_eq_ok_iff.mp hread
        refine Or.inl (Scan.bind_eq_ok_iff.mpr ⟨c, cs, rfl, ?_⟩)
        rw [if_neg hbackslash, List.append_cancel_right hrest]
        rfl

/-- A reader that refuses conditions: then items are read alone. -/
theorem detaches_classItem {R : α → α → Prop} {f : Escaped → Scan α}
    (hf : ∀ e, Detaches size R (f e) (f e)) (hlook : ∀ l cs r, f (.look l) cs ≠ .ok r) :
    Detaches size R (classItem flags >>= f) (classItem flags >>= f) where
  consumes := consumes_classItem.bind fun e => (hf e).consumes
  alone cs rest a hsize h := by
    obtain ⟨e, middle, hitem, hread⟩ := Scan.bind_eq_ok_iff.mp h
    have hshorter := (consumes_classItem _ _ _ hitem).length_le
    obtain ⟨front, rfl⟩ := (hf e).consumes _ _ _ hread
    rw [← List.append_assoc] at hitem hread hshorter
    simp only [List.length_append] at hshorter
    obtain hitem | ⟨l, rfl⟩ := classItem_alone hitem
    · obtain ⟨b, hread, hR⟩ :=
        (hf e).alone _ _ _ (by rw [List.length_append]; omega) hread
      exact ⟨b, Scan.bind_eq_ok_iff.mpr ⟨e, _, hitem, hread⟩, hR⟩
    · exact absurd hread (hlook l _ _)

/-- What follows the first item of a range, from the hyphen on. -/
def rangeBehind (flags : Flags) (first : Escaped) : Scan CharSet := do
  advanceBlanks flags
  let last ← classItem flags
  let low ← Scan.ofExcept (rangeEnd flags first)
  let high ← Scan.ofExcept (rangeEnd flags last)
  if low ≤ high then return .range low.toNat high.toNat else Scan.fail .badRange

/-- What follows an item: the rest of a range, or nothing that belongs to it. -/
def itemBehind (flags : Flags) (first : Escaped) : Scan CharSet := do
  blanks flags
  match ← Scan.peek with
  | none => Scan.fail .unclosedClass
  | some c =>
    let after ← behindHyphen flags
    if c != '-' || after == some ']' || after == some '-' then
      Scan.ofExcept (itemSet flags first)
    else rangeBehind flags first

/-- A range is read as its first item and what follows that, so the two parts can be spoken of
apart. -/
theorem classRange_eq : classRange flags = classItem flags >>= itemBehind flags := rfl

/-- The end of a range is read alone. No condition can be there, since the end has to be a
character. -/
theorem detaches_rangeBehind (first : Escaped) :
    Detaches size Eq (rangeBehind flags first) (rangeBehind flags first) := by
  refine detaches_advanceBlanks.bind fun _ => detaches_classItem (fun last => ?_) fun l cs r => ?_
  · refine detaches_ofExcept.bind fun low => detaches_ofExcept.bind fun high => ?_
    exact detaches_ite (detaches_pure rfl) detaches_fail
  · intro h
    obtain ⟨low, _, -, hhigh⟩ := Scan.bind_eq_ok_iff.mp h
    obtain ⟨high, _, hend, -⟩ := Scan.bind_eq_ok_iff.mp hhigh
    cases hend

theorem consumes_rangeBehind (first : Escaped) : Consumes (rangeBehind flags first) :=
  Detaches.consumes (@detaches_rangeBehind 0 flags first)

/-- How the character behind an item decides whether a range follows: a hyphen that is followed
neither by the closing bracket nor by another hyphen. -/
theorem itemBehind_cons {d : Char} {after : Option Char} (h : flags.skip cs = d :: rest)
    (hafter : behindHyphen flags (d :: rest) = .ok (after, d :: rest)) (first : Escaped) :
    itemBehind flags first cs =
      (if d != '-' || after == some ']' || after == some '-' then
        Scan.ofExcept (itemSet flags first)
      else rangeBehind flags first) (d :: rest) := by
  have hblanks : blanks flags cs = .ok ((), d :: rest) := by rw [blanks_eq, h]
  rw [itemBehind, Scan.bind_of_eq hblanks, Scan.bind_of_eq Scan.peek_cons]
  exact Scan.bind_of_eq hafter

/-- To look behind a hyphen takes nothing. -/
theorem consumes_behindHyphen : Consumes (behindHyphen flags) := by
  intro cs after rest h
  cases h
  exact List.suffix_refl cs

theorem consumes_itemBehind (first : Escaped) : Consumes (itemBehind flags first) := by
  refine consumes_blanks.bind fun _ => consumes_peek.bind fun o => ?_
  cases o with
  | none => exact consumes_fail
  | some c =>
      refine consumes_behindHyphen.bind fun after => ?_
      exact consumes_ite consumes_ofExcept (consumes_rangeBehind first)

/-- A condition is no item, nor the first one of a range: wherever it stands in a class, the class
is refused. -/
theorem itemBehind_look (l : Look) (cs : List Char) (r : CharSet × List Char) :
    itemBehind flags (.look l) cs ≠ .ok r := by
  intro h
  obtain ⟨_, middle, -, hpeek⟩ := Scan.bind_eq_ok_iff.mp h
  obtain ⟨o, _, -, hread⟩ := Scan.bind_eq_ok_iff.mp hpeek
  cases o with
  | none => exact Scan.fail_ne_ok hread
  | some c =>
      obtain ⟨after, _, -, hitem⟩ := Scan.bind_eq_ok_iff.mp hread
      split at hitem
      · cases hitem
      · obtain ⟨_, _, -, hlast⟩ := Scan.bind_eq_ok_iff.mp hitem
        obtain ⟨last, _, -, hlow⟩ := Scan.bind_eq_ok_iff.mp hlast
        obtain ⟨low, _, hend, -⟩ := Scan.bind_eq_ok_iff.mp hlow
        cases hend

/-- What follows an item is read alone if the text does not end there. At its end the class is not
closed, which the pasted parenthesis would hide. -/
theorem itemBehind_alone {first : Escaped} {s : CharSet}
    (h : itemBehind flags first (cs ++ closing) = .ok (s, rest ++ closing)) (hrest : rest ≠ []) :
    itemBehind flags first cs = .ok (s, rest) := by
  obtain hskip | hskip := flags.skip_append_closing cs
  · cases hcs : flags.skip cs with
    | nil =>
        obtain ⟨after, hafter⟩ : ∃ after, behindHyphen flags closing = .ok (after, closing) :=
          ⟨_, rfl⟩
        rw [hcs] at hskip
        rw [itemBehind_cons hskip hafter, if_pos (by rfl)] at h
        obtain ⟨-, hleft⟩ := Scan.ofExcept_eq_ok_iff.mp h
        exact absurd (List.append_cancel_right (hleft : rest ++ closing = [] ++ closing)) hrest
    | cons d inner =>
        obtain ⟨after, halone, hpasted⟩ := exists_behindHyphen flags d inner
        rw [hcs] at hskip
        rw [itemBehind_cons hskip hpasted] at h
        rw [itemBehind_cons hcs halone]
        have hsame : ∀ c ≠ ')', (after.or (some ')') == some c) = (after == some c) := by
          intro c hc
          cases after with
          | none => simp [hc.symm]
          | some d => rfl
        rw [hsame ']' (by decide), hsame '-' (by decide)] at h
        split at h
        · rename_i hitem
          rw [if_pos hitem]
          obtain ⟨hset, hleft⟩ := Scan.ofExcept_eq_ok_iff.mp h
          rw [Scan.ofExcept_eq_ok_iff]
          exact ⟨hset, List.append_cancel_right (hleft : _ = (d :: inner) ++ closing)⟩
        · rename_i hrange
          rw [if_neg hrange]
          obtain ⟨_, hread, rfl⟩ :=
            (detaches_rangeBehind first).alone (d :: inner) rest s (Nat.le_refl _) h
          exact hread
  · have hblanks : blanks flags (cs ++ closing) = .ok ((), []) := by rw [blanks_eq, hskip]
    rw [itemBehind, Scan.bind_of_eq hblanks] at h
    cases h

/-- **An item or a range** is read alone if more follows. -/
theorem classRange_alone {s : CharSet}
    (h : classRange flags (cs ++ closing) = .ok (s, rest ++ closing)) (hrest : rest ≠ []) :
    classRange flags cs = .ok (s, rest) := by
  rw [classRange_eq] at h ⊢
  obtain ⟨e, middle, hitem, hread⟩ := Scan.bind_eq_ok_iff.mp h
  obtain ⟨front, rfl⟩ := consumes_itemBehind e _ _ _ hread
  rw [← List.append_assoc] at hitem hread
  obtain hitem | ⟨l, rfl⟩ := classItem_alone hitem
  · exact Scan.bind_eq_ok_iff.mpr ⟨e, _, hitem, itemBehind_alone hread hrest⟩
  · exact absurd hread (itemBehind_look l _ _)

/-- An item or a range takes a character at least. -/
theorem shortens_classRange : Shortens (classRange flags) :=
  shortens_classItem.bind consumes_itemBehind

/-! ### Classes of ASCII -/

/-- The name of a class of ASCII, and what follows it. -/
def asciiName? (negated : Bool) (cs : List Char) : Option (Bool × CharSet × List Char) :=
  match cs.dropWhile (· != ':') with
  | ':' :: ']' :: rest =>
    (CharSet.ofAsciiName? (String.ofList (cs.takeWhile (· != ':')))).map fun s => (negated, s, rest)
  | _ => none

/-- A class of ASCII begins with a colon, and perhaps the sign that negates it. -/
theorem asciiClass?_colon (cs : List Char) :
    asciiClass? (':' :: cs) =
      asciiName? (cs.head? == some '^') (if cs.head? == some '^' then cs.drop 1 else cs) := rfl

/-- Without a colon there is no class of ASCII. -/
theorem asciiClass?_of_ne {d : Char} (h : d ≠ ':') : asciiClass? (d :: cs) = none := by
  unfold asciiClass?
  split
  · rename_i heq
    exact absurd (List.cons.inj heq).1 h
  · rfl

/-- The name of a class of ASCII ends with a colon and a bracket, neither of which is pasted, so it
is found with `)$` behind the text just as well. -/
theorem asciiName?_append_closing (negated : Bool) (cs : List Char) :
    asciiName? negated (cs ++ closing) =
      (asciiName? negated cs).map fun (negated, s, rest) => (negated, s, rest ++ closing) := by
  have hpasted : closing.dropWhile (· != ':') = [] := by decide
  unfold asciiName?
  rw [List.dropWhile_append, List.takeWhile_append, hpasted]
  cases hcs : cs.dropWhile (· != ':') with
  | nil => rfl
  | cons d behind =>
      have hshort : (cs.takeWhile (· != ':')).length ≠ cs.length := by
        intro hlength
        have hboth := congrArg List.length
          (List.takeWhile_append_dropWhile (l := cs) (p := (· != ':')))
        rw [List.length_append, hlength, hcs, List.length_cons] at hboth
        omega
      rw [if_neg hshort]
      by_cases hd : d = ':'
      · subst hd
        cases behind with
        | nil => rfl
        | cons e behind =>
            by_cases he : e = ']'
            · subst he
              show (CharSet.ofAsciiName? _).map _ = ((CharSet.ofAsciiName? _).map _).map _
              rw [Option.map_map]
              rfl
            · simp [he]
      · simp [hd]

/-- A class of ASCII is the same with `)$` behind the text, which is then left with the rest. -/
theorem asciiClass?_append_closing (cs : List Char) :
    asciiClass? (cs ++ closing) =
      (asciiClass? cs).map fun (negated, s, rest) => (negated, s, rest ++ closing) := by
  cases cs with
  | nil => rfl
  | cons d cs =>
      by_cases hcolon : d = ':'
      · subst hcolon
        rw [List.cons_append, asciiClass?_colon, asciiClass?_colon]
        have hhead : ((cs ++ closing).head? == some '^') = (cs.head? == some '^') := by
          cases cs <;> rfl
        rw [hhead, ← asciiName?_append_closing]
        congr 1
        split
        · cases cs with
          | nil => contradiction
          | cons e cs => rfl
        · rfl
      · rw [List.cons_append, asciiClass?_of_ne hcolon, asciiClass?_of_ne hcolon]
        rfl

/-- What is left behind the name of a class of ASCII is an end of the text. -/
theorem asciiName?_suffix {negated negated' : Bool} {s : CharSet}
    (h : asciiName? negated cs = some (negated', s, rest)) : rest <:+ cs := by
  unfold asciiName? at h
  split at h
  · rename_i behind hdrop
    obtain ⟨s', -, hs⟩ := Option.map_eq_some_iff.mp h
    obtain ⟨-, -, rfl⟩ : negated = negated' ∧ s' = s ∧ behind = rest := by simpa using hs
    have hsuffix := List.dropWhile_suffix (· != ':') (l := cs)
    rw [hdrop] at hsuffix
    exact (((List.suffix_cons _ _).trans (List.suffix_cons _ _))).trans hsuffix
  · cases h

theorem asciiClass?_suffix {negated : Bool} {s : CharSet}
    (h : asciiClass? cs = some (negated, s, rest)) : rest <:+ cs := by
  cases cs with
  | nil => cases h
  | cons d cs =>
      by_cases hcolon : d = ':'
      · subst hcolon
        rw [asciiClass?_colon] at h
        refine ((asciiName?_suffix h).trans ?_).trans (List.suffix_cons _ _)
        split
        · exact List.drop_suffix 1 cs
        · exact List.suffix_refl cs
      · rw [asciiClass?_of_ne hcolon] at h
        cases h

/-! ### The beginning of a class -/

/-- The hyphens at the beginning of a class are read as characters that are hyphens, with what may
stand between them, and each is a part of its own. -/
theorem leadingHyphens_eq (flags : Flags) (n : Nat) (cs : List Char) :
    leadingHyphens flags n cs =
      (takeSpaced flags (· == '-') n >>= fun l => pure (l.map fun _ => ⟨.single '-', 0⟩)) cs := by
  induction n generalizing cs with
  | zero => rfl
  | succ n ih =>
      cases cs with
      | nil => rfl
      | cons d cs =>
          by_cases hd : d = '-'
          · subst hd
            show (leadingHyphens flags n >>= fun l => pure (⟨.single '-', 0⟩ :: l))
                (flags.skip cs) =
              ((takeSpaced flags (· == '-') n >>= fun l => pure ('-' :: l)) >>=
                fun l => pure (l.map fun _ => ⟨.single '-', 0⟩)) (flags.skip cs)
            rw [funext ih]
            simp only [bind_assoc, pure_bind, List.map_cons]
          · have hnot : takeSpaced flags (· == '-') (n + 1) (d :: cs) = .ok ([], d :: cs) :=
              takeSpaced_cons.mpr (Or.inr ⟨by simpa using hd, rfl, rfl⟩)
            rw [Scan.bind_of_eq hnot, leadingHyphens, Scan.bind_of_eq Scan.peek_cons,
              if_neg (by simpa using hd)]
            rfl

/-- The hyphens at the beginning of a class are taken from the front. -/
theorem consumes_leadingHyphens (n : Nat) : Consumes (leadingHyphens flags n) := by
  rw [funext (leadingHyphens_eq flags n)]
  exact (consumes_takeSpaced _ n).bind fun _ => consumes_pure

/-- The hyphens at the beginning of a class are read alone, with any two numbers of steps that are
enough for the text. -/
theorem detaches_leadingHyphens (hn : size ≤ n) (hm : size ≤ m) :
    Detaches size Eq (leadingHyphens flags n) (leadingHyphens flags m) := by
  rw [funext (leadingHyphens_eq flags n), funext (leadingHyphens_eq flags m)]
  exact (detaches_takeSpaced _ hn hm).bind fun l => detaches_pure rfl

/-- What follows the sign that negates a class, up to its first part. -/
def openingBehind (flags : Flags) (negated : Bool) : Scan (Bool × OpenClass) := do
  let hyphens ← leadingHyphens flags (← get).length
  if hyphens.isEmpty && (← Scan.peek) == some ']' then
    advanceBlanks flags
    return (negated, ⟨none, [⟨.single ']', 0⟩]⟩)
  else return (negated, ⟨none, hyphens⟩)

/-- What stands between the sign that negates a class and its first part is read alone, also with
the different numbers of steps that the two texts give. -/
theorem detaches_openingBehind (negated : Bool) :
    Detaches size Eq (openingBehind flags negated) (openingBehind flags negated) := by
  refine detaches_get (fun cs => ?_) fun cs => ?_
  · refine (detaches_leadingHyphens (by simp) (Nat.le_refl _)).bind fun hyphens => ?_
    refine detaches_peek_same (fun o => ?_) ?_
    · exact detaches_ite (detaches_advanceBlanks.bind fun _ => detaches_pure rfl)
        (detaches_pure rfl)
    · cases hyphens <;> rfl
  · refine (consumes_leadingHyphens _).bind fun hyphens => consumes_peek.bind fun o => ?_
    exact consumes_ite (consumes_advanceBlanks.bind fun _ => consumes_pure) consumes_pure

/-- **The beginning of a class** is read alone. -/
theorem detaches_opening : Detaches size Eq (opening flags) (opening flags) := by
  refine detaches_blanks.bind fun _ => detaches_peek_same (fun o => ?_) rfl
  exact detaches_ite (detaches_advanceBlanks.bind fun _ => detaches_openingBehind _)
    (detaches_openingBehind _)

theorem consumes_opening : Consumes (opening flags) :=
  Detaches.consumes (@detaches_opening 0 flags)

/-! ### Classes -/

/-- The signs that stand for something else than themselves in a class. -/
def classSigns : List String := ["[", "]", "&&", "--", "~~"]

/-- The sign of an operation. -/
def SetOp.sign : SetOp → String
  | inter => "&&"
  | diff => "--"
  | symmDiff => "~~"

/-- **What comes next in a class**: a class of ASCII or another one, the closing bracket, an
operation, or else an item or a range. -/
inductive Front : List Char → Prop where
  | ascii {cs : List Char} {negated : Bool} {s : CharSet} {behind : List Char}
      (h : asciiClass? cs = some (negated, s, behind)) : Front ('[' :: cs)
  | inner {cs : List Char} (h : asciiClass? cs = none) : Front ('[' :: cs)
  | close (cs : List Char) : Front (']' :: cs)
  | operate (op : SetOp) (cs : List Char) : Front (op.sign.toList ++ cs)
  | range {cs : List Char} (h : ∀ s ∈ classSigns, ¬s.toList <+: cs) : Front cs

/-- In front of every text there is one of the things that may come next, so the rest of a class
can be taken case by case. -/
theorem front (cs : List Char) : Front cs := by
  by_cases h : ∃ s ∈ classSigns, s.toList <+: cs
  · obtain ⟨s, hs, behind, rfl⟩ := h
    simp only [classSigns, List.mem_cons, List.not_mem_nil, or_false] at hs
    obtain rfl | rfl | rfl | rfl | rfl := hs
    · cases hascii : asciiClass? behind with
      | none => exact Front.inner hascii
      | some found => exact Front.ascii hascii
    · exact Front.close behind
    · exact Front.operate .inter behind
    · exact Front.operate .diff behind
    · exact Front.operate .symmDiff behind
  · exact Front.range fun s hs hfront => h ⟨s, hs, hfront⟩

section Step

variable {behind : List Char}

/-- How the rest of a class goes on with a class of ASCII: as one part more. -/
theorem bracketRest_ascii {negated : Bool} {s : CharSet} (h : flags.skip cs = '[' :: rest)
    (hascii : asciiClass? rest = some (negated, s, behind)) :
    bracketRest flags (n + 1) c cs =
      (Scan.ofExcept (flags.finish negated s) >>= fun s => bracketRest flags n (c.push ⟨s, 0⟩))
        behind := by
  have hget : (get : Scan (List Char)) rest = .ok (rest, rest) := rfl
  rw [bracketRest, Scan.bind_of_eq blanks_eq, h]
  refine (Scan.takes_then "[").trans ?_
  rw [Scan.bind_of_eq hget, hascii]
  rfl

/-- How it goes on with a bracket that opens no class of ASCII: with a class within the class. -/
theorem bracketRest_inner (h : flags.skip cs = '[' :: rest) (hascii : asciiClass? rest = none) :
    bracketRest flags (n + 1) c cs =
      (bracket flags n >>= fun inner => bracketRest flags n (c.push inner)) rest := by
  have hget : (get : Scan (List Char)) rest = .ok (rest, rest) := rfl
  rw [bracketRest, Scan.bind_of_eq blanks_eq, h]
  refine (Scan.takes_then "[").trans ?_
  rw [Scan.bind_of_eq hget, hascii]

/-- How it ends, with the closing bracket. -/
theorem bracketRest_close (h : flags.skip cs = ']' :: rest) :
    bracketRest flags (n + 1) c cs = .ok (c.close flags, rest) := by
  rw [bracketRest, Scan.bind_of_eq blanks_eq, h, Scan.takes_else (by simp)]
  exact Scan.takes_then "]"

/-- How it goes on with an operation: what was read becomes its left side. -/
theorem bracketRest_operate (op : SetOp) (h : flags.skip cs = op.sign.toList ++ rest) :
    bracketRest flags (n + 1) c cs = bracketRest flags n (c.operate flags op) rest := by
  rw [bracketRest, Scan.bind_of_eq blanks_eq, h]
  cases op with
  | inter =>
      rw [SetOp.sign, Scan.takes_else (by simp), Scan.takes_else (by simp), Scan.takes_then]
  | diff =>
      rw [SetOp.sign, Scan.takes_else (by simp), Scan.takes_else (by simp),
        Scan.takes_else (by simp), Scan.takes_then]
  | symmDiff =>
      rw [SetOp.sign, Scan.takes_else (by simp), Scan.takes_else (by simp),
        Scan.takes_else (by simp), Scan.takes_else (by simp), Scan.takes_then]

/-- How it goes on with anything that is no sign: an item or a range is next. -/
theorem bracketRest_range (h : ∀ s ∈ classSigns, ¬s.toList <+: flags.skip cs) :
    bracketRest flags (n + 1) c cs =
      (classRange flags >>= fun s => bracketRest flags n (c.push ⟨s, 0⟩)) (flags.skip cs) := by
  simp only [classSigns, List.forall_mem_cons] at h
  obtain ⟨hopen, hclose, hinter, hdiff, hsymm, -⟩ := h
  rw [bracketRest, Scan.bind_of_eq blanks_eq, Scan.takes_else hopen, Scan.takes_else hclose,
    Scan.takes_else hinter, Scan.takes_else hdiff, Scan.takes_else hsymm]

end Step

theorem shortens_fail {e : SyntaxError} : Shortens (Scan.fail e : Scan α) :=
  fun _ _ _ h => absurd h Scan.fail_ne_ok

/-- A class takes a character at least, and so does what is left of it. -/
theorem shortens_class (flags : Flags) (n : Nat) :
    Shortens (bracket flags n) ∧ ∀ c, Shortens (bracketRest flags n c) := by
  induction n with
  | zero => exact ⟨shortens_fail, fun _ => shortens_fail⟩
  | succ n ih =>
      obtain ⟨ihclass, ihrest⟩ := ih
      constructor
      · refine consumes_opening.shortens_bind fun (negated, c) => ?_
        exact (ihrest c).bind fun inner => consumes_ofExcept.bind fun s => consumes_pure
      · intro c cs p rest h
        suffices hread : rest <:+ flags.skip cs ∧ rest.length < (flags.skip cs).length by
          have hskip := flags.skip_suffix cs
          exact ⟨hread.1.trans hskip, Nat.lt_of_lt_of_le hread.2 hskip.length_le⟩
        have hpass : ∀ ahead, rest <:+ ahead → ∀ d,
            rest <:+ d :: ahead ∧ rest.length < (d :: ahead).length :=
          fun ahead hsuffix d => ⟨hsuffix.trans (List.suffix_cons d ahead),
            Nat.lt_succ_of_le hsuffix.length_le⟩
        generalize hskip : flags.skip cs = ahead
        cases front ahead with
        | ascii hascii =>
            rw [bracketRest_ascii hskip hascii] at h
            have hread := consumes_ofExcept.bind
              (fun s => (ihrest (c.push ⟨s, 0⟩)).consumes) _ _ _ h
            exact hpass _ (hread.trans (asciiClass?_suffix hascii)) '['
        | inner hascii =>
            rw [bracketRest_inner hskip hascii] at h
            have hread := ihclass.bind (fun p => (ihrest (c.push p)).consumes) _ _ _ h
            exact hpass _ hread.1 '['
        | close behind =>
            rw [bracketRest_close hskip] at h
            obtain ⟨-, rfl⟩ := Prod.mk.inj (Except.ok.inj h)
            exact hpass _ (List.suffix_refl _) ']'
        | operate op behind =>
            rw [bracketRest_operate op hskip] at h
            obtain ⟨hsuffix, hlt⟩ := ihrest _ _ _ _ h
            refine ⟨hsuffix.trans (List.suffix_append _ _), ?_⟩
            rw [List.length_append]
            omega
        | range hrange =>
            rw [bracketRest_range (by rw [hskip]; exact hrange), hskip] at h
            exact shortens_classRange.bind (fun s => (ihrest (c.push ⟨s, 0⟩)).consumes) _ _ _ h

/-- What is taken in front of `)$` is a character at least. -/
theorem Shortens.lt {x : Scan α} (hx : Shortens x) {a : α}
    (h : x (cs ++ closing) = .ok (a, rest ++ closing)) : rest.length < cs.length := by
  have hlt := (hx _ _ _ h).2
  rw [List.length_append, List.length_append] at hlt
  exact Nat.lt_of_add_lt_add_right hlt

section Alone

/-- The part before what is left of a class ends before it. -/
theorem exists_part {x : Scan α} {f : α → OpenClass}
    (h : (x >>= fun a => bracketRest flags n (f a)) (cs ++ closing) = .ok (p, rest ++ closing)) :
    ∃ a middle, x (cs ++ closing) = .ok (a, middle ++ closing) ∧
      bracketRest flags n (f a) (middle ++ closing) = .ok (p, rest ++ closing) ∧
      rest.length < middle.length := by
  obtain ⟨a, middle, hpart, hread⟩ := Scan.bind_eq_ok_iff.mp h
  have hshortens := (shortens_class flags n).2 (f a)
  obtain ⟨front, rfl⟩ := hshortens.consumes _ _ _ hread
  rw [← List.append_assoc] at hpart hread
  exact ⟨a, front ++ rest, hpart, hread, hshortens.lt hread⟩

/-- A class in front of `)$` is the class alone, with any number of steps that is enough. -/
def ClassAlone (flags : Flags) (n : Nat) : Prop :=
  ∀ m cs p rest, bracket flags n (cs ++ closing) = .ok (p, rest ++ closing) →
    cs.length < rest.length + m → bracket flags m cs = .ok (p, rest)

/-- The same of what is left of a class. -/
def RestAlone (flags : Flags) (n : Nat) : Prop :=
  ∀ m c cs p rest, bracketRest flags n c (cs ++ closing) = .ok (p, rest ++ closing) →
    cs.length ≤ rest.length + m → bracketRest flags m c cs = .ok (p, rest)

/-- One step of a class: if its rest is read alone with so many steps, the class is with one more.
-/
theorem classAlone_succ (hrest : RestAlone flags n) : ClassAlone flags (n + 1) := by
  intro m cs p rest h hm
  have hlt := (shortens_class flags (n + 1)).1.lt h
  obtain ⟨m, rfl⟩ : ∃ k, m = k + 1 := Nat.exists_eq_succ_of_ne_zero (by omega)
  obtain ⟨⟨negated, c⟩, middle, hopening, hread⟩ := Scan.bind_eq_ok_iff.mp h
  obtain ⟨inner, behind, hinner, hlast⟩ := Scan.bind_eq_ok_iff.mp hread
  obtain ⟨s, _, hresult, hpure⟩ := Scan.bind_eq_ok_iff.mp hlast
  obtain ⟨hset, rfl⟩ := Scan.ofExcept_eq_ok_iff.mp hresult
  obtain ⟨rfl, rfl⟩ := Scan.pure_eq_ok_iff.mp hpure
  obtain ⟨front, rfl⟩ := ((shortens_class flags n).2 c).consumes _ _ _ hinner
  rw [← List.append_assoc] at hopening hinner
  have hle := (consumes_opening _ _ _ hopening).length_le
  simp only [List.length_append] at hle
  obtain ⟨_, hopening, rfl⟩ := detaches_opening.alone _ _ _ (Nat.le_refl _) hopening
  have hinner := hrest m c _ _ _ hinner (by rw [List.length_append]; omega)
  refine Scan.bind_eq_ok_iff.mpr ⟨(negated, c), _, hopening, ?_⟩
  refine Scan.bind_eq_ok_iff.mpr ⟨inner, rest, hinner, ?_⟩
  exact Scan.bind_eq_ok_iff.mpr ⟨s, rest, Scan.ofExcept_eq_ok_iff.mpr ⟨hset, rfl⟩, rfl⟩

/-- **One step of what is left of a class**: whatever comes next, it is the same in both readings,
and behind it the classes and rests with fewer steps are read alone. -/
theorem restAlone_succ (hclass : ClassAlone flags n) (hrest : RestAlone flags n) :
    RestAlone flags (n + 1) := by
  intro m c cs p rest h hm
  have hlt := ((shortens_class flags (n + 1)).2 c).lt h
  obtain ⟨m, rfl⟩ : ∃ k, m = k + 1 := Nat.exists_eq_succ_of_ne_zero (by omega)
  have hle := (flags.skip_suffix cs).length_le
  obtain hpasted | hpasted := flags.skip_append_closing cs
  · generalize hskip : flags.skip cs = ahead at hpasted hle
    cases front ahead with
    | @ascii behind negated s behind' hascii =>
        have hshort := (asciiClass?_suffix hascii).length_le
        have hascii' := asciiClass?_append_closing behind
        rw [hascii] at hascii'
        rw [bracketRest_ascii hpasted hascii'] at h
        obtain ⟨s', _, hset, hread⟩ := Scan.bind_eq_ok_iff.mp h
        obtain ⟨hresult, rfl⟩ := Scan.ofExcept_eq_ok_iff.mp hset
        rw [List.length_cons] at hle
        rw [bracketRest_ascii hskip hascii]
        exact Scan.bind_eq_ok_iff.mpr ⟨s', _, Scan.ofExcept_eq_ok_iff.mpr ⟨hresult, rfl⟩,
          hrest m _ _ _ _ hread (by omega)⟩
    | @inner behind hascii =>
        have hascii' := asciiClass?_append_closing behind
        rw [hascii] at hascii'
        rw [bracketRest_inner hpasted hascii'] at h
        obtain ⟨inner, middle, hinner, hread, hmiddle⟩ := exists_part h
        have hshorter := (shortens_class flags n).1.lt hinner
        rw [List.length_cons] at hle
        rw [bracketRest_inner hskip hascii]
        exact Scan.bind_eq_ok_iff.mpr ⟨inner, middle, hclass m _ _ _ hinner (by omega),
          hrest m _ _ _ _ hread (by omega)⟩
    | close behind =>
        rw [bracketRest_close hpasted] at h
        rw [bracketRest_close hskip]
        obtain ⟨rfl, hleft⟩ := Prod.mk.inj (Except.ok.inj h)
        rw [List.append_cancel_right hleft]
    | operate op behind =>
        have hsign : 0 < op.sign.toList.length := by cases op <;> decide
        rw [bracketRest_operate op (hpasted.trans (List.append_assoc _ _ _))] at h
        rw [List.length_append] at hle
        rw [bracketRest_operate op hskip]
        exact hrest m _ _ _ _ h (by omega)
    | range hrange =>
        have hrange' : ∀ s ∈ classSigns, ¬s.toList <+: flags.skip (cs ++ closing) := by
          have hsigns : ∀ s ∈ classSigns, ')' ∉ s.toList := by decide
          intro s hs hfront
          rw [hpasted] at hfront
          exact hrange s hs (takes_front (hsigns s hs) hfront)
        rw [bracketRest_range hrange', hpasted] at h
        obtain ⟨s, middle, hitem, hread, hmiddle⟩ := exists_part h
        have hshorter := shortens_classRange.lt hitem
        rw [bracketRest_range (by rw [hskip]; exact hrange), hskip]
        have hitem := classRange_alone hitem (List.ne_nil_of_length_pos (by omega))
        exact Scan.bind_eq_ok_iff.mpr ⟨s, middle, hitem, hrest m _ _ _ _ hread (by omega)⟩
  · rw [bracketRest_range (by rw [hpasted]; decide), hpasted] at h
    cases h

/-- **Classes are read alone**, and so is what is left of them, by induction on the steps of the
two readers that call each other. -/
theorem class_alone (flags : Flags) (n : Nat) : ClassAlone flags n ∧ RestAlone flags n := by
  induction n with
  | zero => exact ⟨(fun _ _ _ _ h => nomatch h), fun _ _ _ _ _ h => nomatch h⟩
  | succ n ih =>
      obtain ⟨hclass, hrest⟩ := ih
      exact ⟨classAlone_succ hrest, restAlone_succ hclass hrest⟩

end Alone

/-- A class is taken from the front. -/
theorem consumes_bracket (n : Nat) : Consumes (bracket flags n) :=
  (shortens_class flags n).1.consumes

/-- **A class**, behind its opening bracket. -/
theorem detaches_bracket (n : Nat) (hm : size < m) :
    Detaches size Eq (bracket flags n) (bracket flags m) where
  consumes := consumes_bracket n
  alone cs rest p hsize h := ⟨p, (class_alone flags n).1 m cs p rest h (by omega), rfl⟩

end Classpath.Regex
