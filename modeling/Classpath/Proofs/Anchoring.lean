import Classpath.Proofs.Parsing
import Classpath.Pattern

/-!
# A Source Between Its Anchors

A pattern is compiled from its source between `^(?:` and `)$`, pasted as text. Here the two
readings, of the source alone and of the source between its anchors, are compared item by item.
While the group of the anchors is open, the one is the other with that group around all others
(`Progress.inside`). This can end in four ways:

* The source ends. Then what is pasted closes the group, and the source describes what the group
  does.
* The source closes the group of the anchors. Read alone it closes what it did not open.
* Something in the source takes what is pasted for a part of it. Then nothing closes the group.
* The source ends in `\\b` and a brace. Then nothing can be read on (`items_ne_ok`).

Only the first two let the pattern be compiled.

## Main results

* `inside_of_item`: an item inside the group of the anchors.
* `items_inside`: all items of a source inside that group.
* `Pattern.regex_of_compile`: what a pattern is compiled to.
-/

namespace Classpath.Regex

variable {α β : Type} {size n m : Nat} {flags : Flags} {c : Char} {p q : Progress}
  {cs rest : List Char}

/-! ### Items in front of what is pasted -/

/-- The name of a group is read alone, since the bracket that closes it is not among what is
pasted. -/
theorem detaches_groupName (names : List String) :
    Detaches size Eq (groupName names) (groupName names) := by
  refine (detaches_takeWhile _).bind fun name => (detaches_next _).bind fun _ => ?_
  exact detaches_ite (detaches_pure rfl) detaches_fail

/-- A number of a repetition is read alone, with the blanks around it. -/
theorem detaches_decimal : Detaches size Eq (decimal flags) (decimal flags) := by
  refine (detaches_takeWhile _).bind fun _ => detaches_get (fun cs => ?_) fun cs => ?_
  · refine (detaches_takeSpaced _ (by simp) (Nat.le_refl _)).bind fun digits => ?_
    refine (detaches_takeWhile _).bind fun _ => detaches_blanks.bind fun _ => ?_
    exact detaches_ite detaches_fail (detaches_pure rfl)
  · refine (consumes_takeSpaced _ _).bind fun digits => ?_
    refine (consumes_takeWhile _).bind fun _ => consumes_blanks.bind fun _ => ?_
    exact consumes_ite consumes_fail consumes_pure

/-- What follows the numbers of a repetition is read alone: the brace that closes it has to be in
the text. -/
theorem detaches_limitsBehind (least : Nat) (most : Option Nat) :
    Detaches size Eq (limitsBehind flags least most) (limitsBehind flags least most) := by
  refine (detaches_next _).bind fun c => ?_
  refine detaches_ite detaches_fail_bind (detaches_blanks.bind fun _ => ?_)
  exact detaches_ite detaches_fail_bind (detaches_pure rfl)

/-- The limits of a repetition are read alone. -/
theorem detaches_limits : Detaches size Eq (limits flags) (limits flags) := by
  rw [limits_eq]
  refine detaches_blanks.bind fun _ => detaches_decimal.bind fun least => ?_
  refine (detaches_takes (by decide)).bind fun comma => detaches_ite ?_ (detaches_limitsBehind _ _)
  refine detaches_blanks.bind fun _ => detaches_peek_same (fun o => ?_) rfl
  refine detaches_ite (detaches_limitsBehind _ _) ?_
  exact detaches_decimal.bind fun most => detaches_limitsBehind _ _

theorem detaches_laziness : Detaches size Eq laziness laziness :=
  (detaches_takes (by decide)).bind fun _ => detaches_pure rfl

/-! ### The group of the anchors -/

/-- The group that the anchors open, with the condition in front of it. -/
def anchorGroup : OpenGroup := { outer := {}, items := [⟨.look .textStart, 0, true⟩] }

/-- A progress inside the group of the anchors. -/
def Progress.inside (p : Progress) : Progress := { p with around := p.around ++ [anchorGroup] }

/-- The last item is repeated in the same way with the group of the anchors around it, and fails to
be in the same way. -/
theorem repeatLast_inside (least : Nat) (most : Option Nat) :
    repeatLast p.inside least most = (repeatLast p least most).map Progress.inside := by
  show repeatLast { p with around := p.around ++ [anchorGroup] } least most = _
  unfold repeatLast
  dsimp only
  cases p.group.items with
  | nil => rfl
  | cons i items =>
      dsimp only
      split <;> rfl

/-- A value that is changed by a function is read as the changed value, where it is there. -/
theorem detaches_ofExcept_map {f : β → α} (r : Except SyntaxError β) :
    Detaches size (fun a b => a = f b) (Scan.ofExcept (r.map f)) (Scan.ofExcept r) := by
  cases r with
  | error e => exact detaches_fail
  | ok b => exact detaches_pure rfl

/-- What follows an opening parenthesis is read alone, and opens the same group inside the anchors'
one. -/
theorem detaches_group :
    Detaches size (fun q q' => q = q'.inside) (group p.inside) (group p) := by
  refine detaches_blanks.bind fun _ => (detaches_takesAny (by decide)).bind fun looksAround => ?_
  refine detaches_ite detaches_fail ((detaches_takesAny (by decide)).bind fun named => ?_)
  refine detaches_ite ((detaches_groupName _).bind fun name => detaches_pure rfl) ?_
  refine (detaches_takes (by decide)).bind fun flagged => detaches_ite ?_ (detaches_pure rfl)
  refine (detaches_takeWhile _).bind fun letters => detaches_ofExcept.bind fun flags => ?_
  refine (detaches_next _).bind fun c => detaches_ite (detaches_pure rfl) ?_
  exact detaches_ite detaches_fail (detaches_pure rfl)

/-- An item that neither closes a group nor begins with a backslash is read alone, and does the
same inside the group of the anchors. -/
theorem detaches_item (hclose : c ≠ ')') (hescape : c ≠ '\\') :
    Detaches size (fun q q' => q = q'.inside) (item p.inside c) (item p c) := by
  have hcounted : ∀ (least : Nat) (most : Option Nat), Detaches size (fun q q' => q = q'.inside)
      (do laziness; Scan.ofExcept (repeatLast p.inside least most))
      (do laziness; Scan.ofExcept (repeatLast p least most)) := by
    intro least most
    rw [repeatLast_inside]
    exact detaches_laziness.bind fun _ => detaches_ofExcept_map _
  unfold item
  dsimp only
  split
  · exact detaches_group
  · exact absurd rfl hclose
  · exact detaches_pure rfl
  · refine detaches_get (fun cs => ?_) fun cs => ?_
    · exact (detaches_bracket _ (Nat.lt_succ_self _)).bind fun class_ => detaches_pure rfl
    · exact (consumes_bracket _).bind fun class_ => consumes_pure
  · exact hcounted 0 (some 1)
  · exact hcounted 0 none
  · exact hcounted 1 none
  · exact detaches_limits.bind fun (least, most) => hcounted least most
  · exact absurd rfl hescape
  · exact detaches_ofExcept.bind fun s => detaches_pure rfl
  · exact detaches_pure rfl
  · exact detaches_pure rfl
  · exact detaches_pure rfl

theorem consumes_item (p : Progress) (c : Char) : Consumes (item p.inside c) := by
  by_cases hclose : c = ')'
  · subst hclose
    exact consumes_ofExcept
  · by_cases hescape : c = '\\'
    · subst hescape
      exact consumes_escape.bind fun _ => consumes_pure
    · exact Detaches.consumes (@detaches_item 0 c p hclose hescape)

/-- **An item inside the group of the anchors** is the same item alone, or the condition of a
boundary before a brace. -/
theorem item_alone (hclose : c ≠ ')')
    (h : item p.inside c (cs ++ closing) = .ok (q, rest ++ closing)) :
    (∃ q', item p c cs = .ok (q', rest) ∧ q = q'.inside) ∨
      (EndsAtBrace p.flags rest ∧ q.flags = p.flags) := by
  by_cases hescape : c = '\\'
  · subst hescape
    obtain ⟨e, _, hread, hpure⟩ := Scan.bind_eq_ok_iff.mp h
    obtain ⟨rfl, rfl⟩ := Scan.pure_eq_ok_iff.mp hpure
    obtain halone | ⟨-, hbrace⟩ := escape_alone hread
    · exact Or.inl ⟨_, Scan.bind_eq_ok_iff.mpr ⟨e, rest, halone, rfl⟩, rfl⟩
    · exact Or.inr ⟨hbrace, rfl⟩
  · exact Or.inl ((detaches_item hclose hescape).alone cs rest q (Nat.le_refl _) h)

/-! ### Where nothing can be read -/

/-- There is no number at the end of a text, whether or not something is pasted there. -/
theorem decimal_ne_ok (h : cs = [] ∨ cs = closing) (r : Nat × List Char) :
    decimal flags cs ≠ .ok r := by
  have hblanks : Scan.takeWhile isBlank cs = .ok ([], cs) := by
    obtain rfl | rfl := h
    · rfl
    · have hstays : closing.takeWhile isBlank = [] ∧ closing.dropWhile isBlank = closing := by
        decide +kernel
      unfold Scan.takeWhile
      rw [hstays.1, hstays.2]
  have hdigits : takeSpaced flags Char.isDigit cs.length cs = .ok ([], cs) := by
    obtain rfl | rfl := h
    · rfl
    · exact takeSpaced_cons.mpr (Or.inr ⟨by decide, rfl, rfl⟩)
  have hget : (get : Scan (List Char)) cs = .ok (cs, cs) := rfl
  rw [decimal, Scan.bind_of_eq hblanks, Scan.bind_of_eq hget, Scan.bind_of_eq hdigits,
    Scan.bind_of_eq hblanks, Scan.bind_of_eq blanks_eq]
  exact fun hread => nomatch hread

/-- The brace behind a boundary does not open limits either. -/
theorem items_ne_ok (h : EndsAtBrace p.flags rest) (r : Progress × List Char) :
    items (n + 1) p (rest ++ closing) ≠ .ok r := by
  intro hread
  obtain ⟨inner, rfl, hinner⟩ := h
  have hskip := p.flags.skip_cons (by decide +kernel) (by decide : '\x7b' ≠ '#') (inner ++ closing)
  rw [List.cons_append, items_cons hskip] at hread
  obtain ⟨q, _, hitem, -⟩ := Scan.bind_eq_ok_iff.mp hread
  obtain ⟨⟨least, most⟩, _, hlimits, -⟩ := Scan.bind_eq_ok_iff.mp hitem
  rw [limits_eq, Scan.bind_of_eq blanks_eq] at hlimits
  obtain ⟨number, _, hdecimal, -⟩ := Scan.bind_eq_ok_iff.mp hlimits
  refine decimal_ne_ok ?_ _ hdecimal
  obtain hpasted | hpasted := p.flags.skip_append_closing inner
  · rw [hpasted, hinner]
    exact Or.inr rfl
  · exact Or.inl hpasted

/-! ### The ends of a text -/

/-- What a reader leaves holds all that is pasted, or only its end. -/
theorem exists_front (h : rest <:+ cs ++ closing) :
    (∃ front, rest = front ++ closing) ∨ rest <:+ ['$'] := by
  obtain hshort | ⟨front, rfl⟩ := List.suffix_or_suffix_of_suffix h (List.suffix_append cs closing)
  · obtain rfl | hshort := List.suffix_cons_iff.mp hshort
    · exact Or.inl ⟨[], rfl⟩
    · exact Or.inr hshort
  · exact Or.inl ⟨front, rfl⟩

theorem items_empty (n : Nat) (p : Progress) : items n p [] = .ok (p, []) := by
  cases n with
  | zero => rfl
  | succ n =>
      exact items_nil (List.suffix_nil.mp (p.flags.skip_suffix []))

/-- What is left of the pasted characters, once the parenthesis is taken, is the condition for the
end of the text. -/
theorem items_dollar (n : Nat) (p : Progress) :
    items (n + 1) p ['$'] = .ok (p.push ⟨.look (endLook p.flags), 0, true⟩, []) := by
  have hskip := p.flags.skip_cons (by decide +kernel) (by decide : '$' ≠ '#') []
  rw [items_cons hskip]
  exact items_empty n _

/-- Behind the parenthesis nothing closes the groups that are still open. -/
theorem around_items (hcs : cs <:+ ['$']) (h : items n p cs = .ok (q, rest)) :
    q.around = p.around := by
  obtain rfl | hnil := List.suffix_cons_iff.mp hcs
  · cases n with
    | zero =>
        cases h
        rfl
    | succ n =>
        rw [items_dollar] at h
        cases h
        rfl
  · obtain rfl := List.suffix_nil.mp hnil
    rw [items_empty] at h
    cases h
    rfl

/-! ### Closing -/

/-- The progress behind what is pasted, if the text comes to `content`. -/
def anchored (content : Item) : OpenGroup where
  outer := {}
  items := [⟨.look .textEnd, 0, true⟩, ⟨content.regex, content.depth + 1, true⟩,
    ⟨.look .textStart, 0, true⟩]

/-- A group that is closed inside another one than the anchors' is closed in the same way in both
readings. -/
theorem close_inside (h : p.around ≠ []) : p.inside.close = p.close.map Progress.inside := by
  obtain ⟨g, around, haround⟩ := List.exists_cons_of_ne_nil h
  have hinside : p.inside.around = g :: (around ++ [anchorGroup]) := by
    rw [Progress.inside, haround, List.cons_append]
  unfold Progress.close
  rw [hinside, haround]
  rfl

/-- What is open inside the group of the anchors leaves that group open. -/
theorem around_inside_ne_nil (p : Progress) : p.inside.around ≠ [] := by
  show p.around ++ [anchorGroup] ≠ []
  exact List.append_ne_nil_of_right_ne_nil _ (List.cons_ne_nil _ _)

/-- **The group of the anchors is closed** where nothing else is open: what is in it becomes the
text's content, and the flags are those from before. -/
theorem close_outermost (h : p.around = []) (hbottom : p.outers.getLast? = some {}) :
    ∃ q, p.inside.close = .ok q ∧ q.flags = {} ∧ q.around = [] ∧
      (q.push ⟨.look .textEnd, 0, true⟩).group = anchored p.group.content := by
  have hinside : p.inside.around = [anchorGroup] := by rw [Progress.inside, h, List.nil_append]
  have houter : p.group.outer = {} := by
    rw [Progress.outers, h] at hbottom
    exact Option.some.inj hbottom
  unfold Progress.close
  rw [hinside]
  exact ⟨_, rfl, houter, rfl, rfl⟩

/-- Only a closing parenthesis could close the last group that is open. -/
theorem Progress.Step.around_ne_nil (h : p.Step c q) (hc : c ≠ ')') (hp : p.around ≠ []) :
    q.around ≠ [] := by
  have hlength := (h.outers hc).length_le
  simp only [Progress.outers, List.length_map, List.length_cons] at hlength
  have hpos := List.length_pos_of_ne_nil hp
  exact List.ne_nil_of_length_pos (by omega)

/-- The flags behind the outermost group stay what they are. -/
theorem bottom_of_step {c : Char} (hbottom : p.outers.getLast? = some {}) (h : p.Step c q) :
    q.outers.getLast? = some {} := by
  have hsuffix : p.outers <:+ q.outers → q.outers.getLast? = some {} := by
    rintro ⟨front, hfront⟩
    rw [← hfront, List.getLast?_append, hbottom]
    rfl
  cases h with
  | push flags i hi => exact hsuffix (List.suffix_refl _)
  | open_ names flags => exact hsuffix (List.suffix_cons _ _)
  | split => exact hsuffix (List.suffix_refl _)
  | repeat_ i items hitems hle => exact hsuffix (List.suffix_refl _)
  | close h =>
      unfold Progress.close at h
      split at h
      · cases h
      · rename_i g around haround
        cases h
        rw [Progress.outers, haround, List.map_cons, List.map_cons,
          List.getLast?_cons_cons] at hbottom
        exact hbottom

/-- **What an item inside the group of the anchors comes to**: what it comes to alone, with that group
around it. Or it closes that group, it ends before a brace behind which nothing can be read, or it
takes what is pasted for a part of it. -/
inductive Inside (p : Progress) (c : Char) (cs : List Char) : Progress → List Char → Prop where
  | same {p' : Progress} {front : List Char} (h : item p c cs = .ok (p', front)) :
      Inside p c cs p'.inside (front ++ closing)
  | closes {q : Progress} {rest : List Char} (h : item p c cs = .error .unopenedGroup) :
      Inside p c cs q rest
  | brace {q : Progress} {front : List Char} (h : EndsAtBrace q.flags front) :
      Inside p c cs q (front ++ closing)
  | overruns {q : Progress} {rest : List Char} (h : rest <:+ ['$']) (hopen : q.around ≠ []) :
      Inside p c cs q rest

/-- **An item** of the source, read inside the group of the anchors, comes to one of the things
that `Inside` lists. -/
theorem inside_of_item (h : item p.inside c (cs ++ closing) = .ok (q, rest)) :
    Inside p c cs q rest := by
  by_cases hc : c = ')'
  · subst hc
    obtain ⟨hclose, rfl⟩ := Scan.ofExcept_eq_ok_iff.mp h
    by_cases haround : p.around = []
    · have hunopened : p.close = .error .unopenedGroup := by
        unfold Progress.close
        rw [haround]
      refine Inside.closes ?_
      show Scan.ofExcept p.close cs = _
      rw [hunopened]
      rfl
    · rw [close_inside haround] at hclose
      obtain ⟨p', halone, rfl⟩ := map_eq_ok_iff.mp hclose
      exact Inside.same (Scan.ofExcept_eq_ok_iff.mpr ⟨halone, rfl⟩)
  · obtain ⟨front, rfl⟩ | hshort := exists_front (consumes_item p c _ _ _ h)
    · obtain ⟨p', halone, rfl⟩ | ⟨hbrace, hflags⟩ := item_alone hc h
      · exact Inside.same halone
      · exact Inside.brace (hflags ▸ hbrace)
    · have hopen := (yields_item p.inside c _ _ _ h).around_ne_nil hc (around_inside_ne_nil p)
      exact Inside.overruns hshort hopen

/-- What the text alone comes to, where the text with the anchors around it comes to `q`. -/
def Outcome (q : Progress) (r : Except SyntaxError (Progress × List Char)) : Prop :=
  (∃ p, r = .ok (p, []) ∧ p.around = [] ∧ q.group = anchored p.group.content) ∨
    r = .error .unopenedGroup

/-- At the end of the text its group is closed. -/
theorem outcome_end (hbottom : p.outers.getLast? = some {}) (hskip : p.flags.skip cs = [])
    (h : (item p.inside ')' >>= items (n + 1)) ['$'] = .ok (q, rest)) (hclosed : q.around = []) :
    Outcome q (items (m + 1) p cs) := by
  obtain ⟨q', behind, hitem, hrest⟩ := Scan.bind_eq_ok_iff.mp h
  obtain ⟨hclose, rfl⟩ := Scan.ofExcept_eq_ok_iff.mp hitem
  rw [items_dollar] at hrest
  obtain ⟨rfl, rfl⟩ := Prod.mk.inj (Except.ok.inj hrest)
  by_cases haround : p.around = []
  · obtain ⟨q, hq, hflags, -, hgroup⟩ := close_outermost haround hbottom
    obtain rfl : q' = q := Except.ok.inj (hclose.symm.trans hq)
    refine Or.inl ⟨p, items_nil hskip, haround, ?_⟩
    rw [hflags]
    exact hgroup
  · rw [close_inside haround] at hclose
    obtain ⟨p', -, rfl⟩ := map_eq_ok_iff.mp hclose
    exact absurd hclosed (around_inside_ne_nil p')

/-- **A source inside the group of the anchors**, by induction on the items: where one of them is not
what it is alone, the group is never closed, or the source alone is refused. -/
theorem items_inside (hbottom : p.outers.getLast? = some {})
    (h : items n p.inside (cs ++ closing) = .ok (q, rest)) (hn : cs.length + 2 < n)
    (hm : cs.length < m) (hclosed : q.around = []) : Outcome q (items m p cs) := by
  induction n generalizing p cs m with
  | zero => exact absurd hn (Nat.not_lt_zero _)
  | succ n ih =>
      obtain ⟨n, rfl⟩ : ∃ k, n = k + 1 := Nat.exists_eq_succ_of_ne_zero (by omega)
      obtain ⟨m, rfl⟩ : ∃ k, m = k + 1 := Nat.exists_eq_succ_of_ne_zero (by omega)
      have hle := (p.flags.skip_suffix cs).length_le
      obtain hpasted | hpasted := p.flags.skip_append_closing cs
      · cases hskip : p.flags.skip cs with
        | nil =>
            rw [hskip] at hpasted
            rw [items_cons (p := p.inside) hpasted] at h
            exact outcome_end hbottom hskip h hclosed
        | cons c behind =>
            rw [hskip] at hpasted hle
            rw [items_cons (p := p.inside) hpasted] at h
            rw [items_cons hskip]
            obtain ⟨q', middle, hitem, hrest⟩ := Scan.bind_eq_ok_iff.mp h
            have hshorter := (consumes_item p c _ _ _ hitem).length_le
            cases inside_of_item hitem with
            | @same p' front halone =>
                have hfront : front.length ≤ behind.length := by
                  simpa only [List.append_eq, List.length_append, Nat.add_le_add_iff_right]
                    using hshorter
                rw [List.length_cons] at hle
                rw [Scan.bind_of_eq halone]
                exact ih (bottom_of_step hbottom (yields_item p c _ _ _ halone)) hrest (by omega)
                  (by omega)
            | closes hunopened =>
                refine Or.inr ?_
                show (item p c behind >>= fun r => items m r.1 r.2) = _
                rw [hunopened]
                rfl
            | brace hbrace => exact absurd hrest (items_ne_ok hbrace _)
            | overruns hshort hopen =>
                exact absurd ((around_items hshort hrest).symm.trans hclosed) hopen
      · rw [items_nil (p := p.inside) hpasted] at h
        cases h
        exact absurd hclosed (around_inside_ne_nil p)

/-! ### Whole expressions -/

/-- What is pasted in front opens the group of the anchors. -/
theorem items_opening (n : Nat) (cs : List Char) :
    items (n + 2) {} ('^' :: '(' :: '?' :: ':' :: cs) = items n (Progress.inside {}) cs := rfl

/-- What an anchored source is as one expression: its content between the two ends of a text. -/
theorem content_anchored (content : Item) :
    (anchored content).content = ⟨seqs [.look .textStart, content.regex, .look .textEnd],
      content.depth + 2, true⟩ := by
  show Item.mk _ (1 + max (max (max 0 0) (content.depth + 1)) 0) true = _
  congr 1
  omega

end Classpath.Regex

namespace Classpath.Pattern

open Regex

/-- The characters of an anchored source: what is pasted in front, the source, and what is pasted
behind. -/
theorem toList_anchored (source : String) :
    (anchored source).toList = '^' :: '(' :: '?' :: ':' :: (source.toList ++ closing) := by
  simp [anchored, closing]

/-- **What a pattern is compiled to**: the source is an expression, and it stands between the two
ends of a text; or the source closes a group that it does not open. -/
theorem regex_of_compile {source : String} {p : Pattern} (h : compile source = .ok p) :
    (∃ r, Regex.parse source = .ok r ∧
      p.regex = Regex.seqs [.look .textStart, r, .look .textEnd]) ∨
      Regex.parse source = .error .unopenedGroup := by
  obtain ⟨regex, hparse, rfl⟩ := map_eq_ok_iff.mp h
  obtain ⟨q, rest, hitems, haround, hdepth, hsize, rfl⟩ := parse_eq_ok_iff.mp hparse
  have hlength : (anchored source).toList.length + 1 = source.toList.length + 5 + 2 := by
    rw [toList_anchored]
    simp [closing]
  rw [hlength, toList_anchored, items_opening] at hitems
  have hsteps := Nat.lt_succ_self source.toList.length
  obtain ⟨p, halone, hopen, hgroup⟩ | hunopened :=
    items_inside rfl hitems (by omega) hsteps haround
  · rw [hgroup, content_anchored] at hdepth hsize ⊢
    have hsmaller : p.group.content.regex.size ≤ sizeLimit :=
      Nat.le_trans (by simp only [seqs, Regex.size]; omega) hsize
    exact Or.inl ⟨_, parse_eq_ok_iff.mpr ⟨p, [], halone, hopen,
      Nat.le_trans (Nat.le_add_right _ 2) hdepth, hsmaller, rfl⟩, rfl⟩
  · refine Or.inr ?_
    unfold parse
    simp only [hunopened]

end Classpath.Pattern
