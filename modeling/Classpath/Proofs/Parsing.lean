import Classpath.Proofs.Matching
import Classpath.Proofs.Brackets

/-!
# What Reading an Expression Goes Through

An expression is read item by item, and what is read is kept as the groups that are open. What an
item does to them is one of five things (`Progress.Step`); everything that is said of whole
expressions here follows from this and from what each of the five keeps.

## Main results

* `yields_item`: an item does one of the five things.
* `Progress.Step.outers`: only a closing parenthesis closes a group.
* `yields_items`: what all items keep, a run keeps.
* `limited_of_parse`: in what is spelled, the limits of repetitions stand in the right order.
-/

namespace Classpath.Regex

variable {α β : Type} {flags : Flags} {n : Nat} {c : Char} {p q : Progress} {cs rest : List Char}

/-! ### What readers come to -/

/-- What a reader comes to has a property. -/
def Yields (x : Scan α) (Q : α → Prop) : Prop := ∀ cs a rest, x cs = .ok (a, rest) → Q a

section Yields

variable {P : α → Prop} {Q : β → Prop}

theorem yields_pure {b : β} (h : Q b) : Yields (pure b : Scan β) Q := by
  intro cs b' rest hread
  obtain ⟨rfl, -⟩ := Scan.pure_eq_ok_iff.mp hread
  exact h

/-- A reader that fails comes to nothing, so all that it comes to has any property. -/
theorem yields_fail {e : SyntaxError} : Yields (Scan.fail e : Scan β) Q :=
  fun _ _ _ h => absurd h Scan.fail_ne_ok

/-- The same of a sequence whose first part fails. -/
theorem yields_fail_bind {e : SyntaxError} {f : α → Scan β} : Yields (Scan.fail e >>= f) Q := by
  intro cs b rest h
  obtain ⟨_, _, hfail, -⟩ := Scan.bind_eq_ok_iff.mp h
  cases hfail

/-- A value that may be wanting has a property if it has it wherever it is there. -/
theorem yields_ofExcept {r : Except SyntaxError β} (h : ∀ b, r = .ok b → Q b) :
    Yields (Scan.ofExcept r) Q :=
  fun _ b _ hread => h b (Scan.ofExcept_eq_ok_iff.mp hread).1

/-- In a sequence, what is known of the first value may be used for the second. -/
theorem Yields.bind {x : Scan α} {f : α → Scan β} (hx : Yields x P)
    (hf : ∀ a, P a → Yields (f a) Q) : Yields (x >>= f) Q := by
  intro cs b rest h
  obtain ⟨a, middle, hfirst, hrest⟩ := Scan.bind_eq_ok_iff.mp h
  exact hf a (hx _ _ _ hfirst) _ _ _ hrest

/-- Whatever is read first. -/
theorem yields_bind {x : Scan α} {f : α → Scan β} (hf : ∀ a, Yields (f a) Q) :
    Yields (x >>= f) Q := by
  intro cs b rest h
  obtain ⟨a, middle, -, hrest⟩ := Scan.bind_eq_ok_iff.mp h
  exact hf a _ _ _ hrest

/-- Which of two readers is used may be known where each is looked at. -/
theorem yields_ite {b : Prop} [Decidable b] {x y : Scan β} (hx : b → Yields x Q)
    (hy : ¬b → Yields y Q) : Yields (if b then x else y) Q := by
  split
  · rename_i h
    exact hx h
  · rename_i h
    exact hy h

end Yields

/-! ### What an item does -/

/-- **What an item does** to what is read so far: it stands at the end of the branch, maybe with
other flags behind it, opens a group, ends the branch, repeats the item before it, or closes the
group. -/
inductive Progress.Step (p : Progress) : Char → Progress → Prop where
  | push {c : Char} (flags : Flags) (i : Item) (h : i.regex.Limited) :
      Step p c ({ p with flags }.push i)
  | open_ {c : Char} (names : List String) (flags : Flags) :
      Step p c ({ p with names }.open_ flags)
  | split {c : Char} : Step p c { p with group := p.group.split }
  | repeat_ {c : Char} {least : Nat} {most : Option Nat} (i : Item) (items : List Item)
      (hitems : p.group.items = i :: items) (hle : ∀ m, most = some m → least ≤ m) :
      Step p c { p with group := { p.group with
        items := ⟨.iterate least most i.regex, i.depth + 1, true⟩ :: items } }
  | close {q : Progress} (h : p.close = .ok q) : Step p ')' q

/-- A repetition makes the last item one that is repeated, and there has to be one. -/
theorem step_of_repeatLast {least : Nat} {most : Option Nat} (h : repeatLast p least most = .ok q)
    (hle : ∀ m, most = some m → least ≤ m) : p.Step c q := by
  unfold repeatLast at h
  split at h
  · rename_i i items hitems
    split at h
    · cases h
      exact Progress.Step.repeat_ i items hitems hle
    · cases h
  · cases h

/-- What follows the numbers of a repetition. -/
def limitsBehind (flags : Flags) (least : Nat) (most : Option Nat) : Scan (Nat × Option Nat) := do
  if (← Scan.next .badRepetition) != '\x7d' then Scan.fail .badRepetition
  blanks flags
  if most.any (· < least) then Scan.fail .badRepetition
  return (least, most)

/-- The limits of a repetition as two numbers and what follows them, be they written with a comma
or without. -/
theorem limits_eq (flags : Flags) :
    limits flags = (do
      blanks flags
      let least ← decimal flags
      if ← Scan.takes "," then
        blanks flags
        if (← Scan.peek) == some '\x7d' then limitsBehind flags least none
        else
          let most ← decimal flags
          limitsBehind flags least (some most)
      else limitsBehind flags least (some least)) := rfl

/-- The limits of a repetition stand in the right order. -/
theorem yields_limits :
    Yields (limits flags) fun (least, most) => ∀ m, most = some m → least ≤ m := by
  have hbehind : ∀ (least : Nat) (most : Option Nat), Yields (limitsBehind flags least most)
      fun (least, most) => ∀ m, most = some m → least ≤ m := by
    intro least most
    have hlast : Yields (do
        blanks flags
        if most.any (· < least) then Scan.fail .badRepetition
        return (least, most)) fun (least, most) => ∀ m, most = some m → least ≤ m := by
      refine yields_bind fun _ => yields_ite (fun _ => yields_fail_bind) fun hle => yields_pure ?_
      rintro m rfl
      simpa using hle
    exact yields_bind fun _ => yields_ite (fun _ => yields_fail_bind) fun _ => hlast
  rw [limits_eq]
  refine yields_bind fun _ => yields_bind fun least => yields_bind fun comma => ?_
  refine yields_ite (fun _ => yields_bind fun _ => yields_bind fun o => ?_) fun _ => hbehind _ _
  exact yields_ite (fun _ => hbehind _ _) fun _ => yields_bind fun most => hbehind _ _

/-- What follows an opening parenthesis opens a group, or changes the flags and leaves an empty
item. -/
theorem yields_group : Yields (group p) (p.Step c) := by
  unfold group
  refine yields_bind fun _ => yields_bind fun looksAround => ?_
  refine yields_ite (fun _ => yields_fail) fun _ => yields_bind fun named => ?_
  refine yields_ite (fun _ => yields_bind fun name => ?_) fun _ => yields_bind fun flagged => ?_
  · exact yields_pure (Progress.Step.open_ _ _)
  refine yields_ite (fun _ => yields_bind fun letters => yields_bind fun flags => ?_) fun _ => ?_
  · refine yields_bind fun d => yields_ite (fun _ => ?_) fun _ => ?_
    · exact yields_pure (Progress.Step.open_ p.names flags)
    · exact yields_ite (fun _ => yields_fail) fun _ =>
        yields_pure (Progress.Step.push flags _ trivial)
  · exact yields_pure (Progress.Step.open_ p.names p.flags)

/-- What an escape describes has no repetition in it. -/
theorem limited_escaped (flags : Flags) (e : Escaped) : (e.regex flags).Limited := by
  cases e <;> exact trivial

/-- **An item does one of the five things.** -/
theorem yields_item (p : Progress) (c : Char) : Yields (item p c) (p.Step c) := by
  have hpush : ∀ {c : Char} (i : Item), i.regex.Limited → Yields (pure (p.push i)) (p.Step c) :=
    fun i h => yields_pure (Progress.Step.push p.flags i h)
  have hcounted : ∀ {c : Char} (least : Nat) (most : Option Nat),
      (∀ m, most = some m → least ≤ m) →
      Yields (do laziness; Scan.ofExcept (repeatLast p least most)) (p.Step c) :=
    fun least most hle => yields_bind fun _ => yields_ofExcept fun q hq => step_of_repeatLast hq hle
  unfold item
  dsimp only
  split
  · exact yields_group
  · exact yields_ofExcept fun q hq => Progress.Step.close hq
  · exact yields_pure Progress.Step.split
  · exact yields_bind fun cs => yields_bind fun class_ => hpush _ trivial
  · exact hcounted 0 (some 1) (by simp)
  · exact hcounted 0 none (by simp)
  · exact hcounted 1 none (by simp)
  · exact yields_limits.bind fun (least, most) hle => hcounted least most hle
  · exact yields_bind fun e => hpush _ (limited_escaped _ e)
  · exact yields_bind fun s => hpush _ trivial
  · exact hpush _ trivial
  · exact hpush _ trivial
  · exact hpush _ trivial

/-! ### What a run does -/

/-- An item, and all that follows it; the text ends where nothing is left that means anything. -/
theorem items_nil (h : p.flags.skip cs = []) : items (n + 1) p cs = .ok (p, []) := by
  have hblanks : blanks p.flags cs = .ok ((), []) := by rw [blanks_eq, h]
  rw [items, Scan.bind_of_eq hblanks]
  rfl

/-- Where something is left that means anything, an item is read and then the others, with one step
less. -/
theorem items_cons (h : p.flags.skip cs = c :: rest) :
    items (n + 1) p cs = (item p c >>= items n) rest := by
  have hblanks : blanks p.flags cs = .ok ((), c :: rest) := by rw [blanks_eq, h]
  rw [items, Scan.bind_of_eq hblanks, Scan.bind_of_eq Scan.peek_cons]
  rfl

/-- **Induction on what is read**: a property of progresses that all items keep. -/
theorem yields_items {Q : Progress → Prop} (hstep : ∀ p c q, p.Step c q → Q p → Q q) (n : Nat)
    (hp : Q p) : Yields (items n p) Q := by
  induction n generalizing p with
  | zero => exact yields_pure hp
  | succ n ih =>
      intro cs q rest h
      cases hskip : p.flags.skip cs with
      | nil =>
          rw [items_nil hskip] at h
          cases h
          exact hp
      | cons c behind =>
          rw [items_cons hskip] at h
          exact (yields_item p c).bind (fun q hq => ih (hstep p c q hq hp)) _ _ _ h

/-- **A source that is an expression**: its items are read to the end, no group is left open, and
what they make is neither too deep nor too large. -/
theorem parse_eq_ok_iff {source : String} {r : Regex} :
    parse source = .ok r ↔
      ∃ p rest, items (source.toList.length + 1) {} source.toList = .ok (p, rest) ∧
        p.around = [] ∧ p.group.content.depth ≤ depthLimit ∧
        p.group.content.regex.size ≤ sizeLimit ∧ p.group.content.regex = r := by
  constructor
  · intro h
    unfold parse at h
    dsimp only at h
    split at h
    · cases h
    · rename_i p rest hitems
      split_ifs at h with haround hdepth hsize
      cases h
      exact ⟨p, rest, hitems, by simpa using haround, Nat.not_lt.mp hdepth,
        Nat.not_lt.mp hsize, rfl⟩
  · rintro ⟨p, rest, hitems, haround, hdepth, hsize, rfl⟩
    unfold parse
    simp only [hitems]
    rw [if_neg (by simp [haround]), if_neg (Nat.not_lt.mpr hdepth),
      if_neg (Nat.not_lt.mpr hsize)]

/-! ### Limits in what is spelled -/

/-- The limits of all repetitions in a group that is open stand in the right order. -/
def OpenGroup.Limited (g : OpenGroup) : Prop :=
  ∀ i ∈ g.branches ++ g.items, i.regex.Limited

/-- So they do in all that was read so far: in the innermost group and in those around it. -/
structure Progress.Limited (p : Progress) : Prop where
  group : p.group.Limited
  around : ∀ g ∈ p.around, g.Limited

/-- Expressions one after another have no other repetitions than their own. -/
theorem limited_seqs {rs : List Regex} (h : ∀ r ∈ rs, r.Limited) : (seqs rs).Limited := by
  induction rs using seqs.induct with
  | case1 => trivial
  | case2 r => exact h r List.mem_cons_self
  | case3 r s rest ih =>
      obtain ⟨hr, hrest⟩ := List.forall_mem_cons.mp h
      exact ⟨hr, ih hrest⟩

theorem limited_alts {rs : List Regex} (h : ∀ r ∈ rs, r.Limited) : (alts rs).Limited := by
  induction rs using alts.induct with
  | case1 => trivial
  | case2 r => exact h r List.mem_cons_self
  | case3 r s rest ih =>
      obtain ⟨hr, hrest⟩ := List.forall_mem_cons.mp h
      exact ⟨hr, ih hrest⟩

/-- However items are joined, if this adds no repetition the limits are those of the items. -/
theorem limited_joined {join : List Regex → Regex}
    (hjoin : ∀ rs, (∀ r ∈ rs, r.Limited) → (join rs).Limited) {parts : List Item}
    (h : ∀ i ∈ parts, i.regex.Limited) : (joined join parts).regex.Limited := by
  unfold joined
  split
  · trivial
  · exact h _ List.mem_cons_self
  · exact hjoin _ (by simpa using h)

namespace OpenGroup

variable {g : OpenGroup}

theorem limited_new (outer : Flags) : OpenGroup.Limited { outer } := fun _ hi => nomatch hi

/-- The branch that is being read, as one expression. -/
theorem Limited.branch (h : g.Limited) : g.branch.regex.Limited :=
  limited_joined (fun _ => limited_seqs) fun i hi =>
    h i (List.mem_append_right _ (List.mem_reverse.mp hi))

/-- All branches of a group, as one expression. -/
theorem Limited.content (h : g.Limited) : g.content.regex.Limited := by
  unfold OpenGroup.content
  split
  · exact h.branch
  · refine limited_joined (fun _ => limited_alts) fun i hi => ?_
    obtain rfl | hi := List.mem_cons.mp (List.mem_reverse.mp hi)
    · exact h.branch
    · exact h i (List.mem_append_left _ hi)

/-- An item whose limits stand in the right order may be put at the end of a branch. -/
theorem Limited.push (h : g.Limited) {i : Item} (hi : i.regex.Limited) : (g.push i).Limited := by
  intro j hj
  obtain hj | hj := List.mem_append.mp hj
  · exact h j (List.mem_append_left _ hj)
  · obtain rfl | hj := List.mem_cons.mp hj
    · exact hi
    · exact h j (List.mem_append_right _ hj)

/-- To begin another branch leaves the items as they are. -/
theorem Limited.split (h : g.Limited) : g.split.Limited := by
  intro j hj
  obtain rfl | hj := List.mem_cons.mp (List.append_nil _ ▸ hj)
  · exact h.branch
  · exact h j (List.mem_append_left _ hj)

end OpenGroup

/-- **Each of the five things** keeps the limits of all repetitions in the right order. -/
theorem Progress.Step.limited (h : p.Step c q) (hp : p.Limited) : q.Limited := by
  cases h with
  | push flags i hi => exact ⟨hp.group.push hi, hp.around⟩
  | open_ names flags =>
      exact ⟨OpenGroup.limited_new _, List.forall_mem_cons.mpr ⟨hp.group, hp.around⟩⟩
  | split => exact ⟨hp.group.split, hp.around⟩
  | @repeat_ c least most i items hitems hle =>
      have hlast : i.regex.Limited :=
        hp.group i (List.mem_append_right _ (hitems ▸ List.mem_cons_self))
      have hgroup : OpenGroup.Limited { p.group with items } := fun j hj =>
        hp.group j ((List.mem_append.mp hj).elim (List.mem_append_left _) fun hj =>
          List.mem_append_right _ (hitems ▸ List.mem_cons_of_mem _ hj))
      have hrepeated : (iterate least most i.regex).Limited := ⟨hle, hlast⟩
      exact ⟨hgroup.push hrepeated, hp.around⟩
  | close h =>
      unfold Progress.close at h
      split at h
      · cases h
      · rename_i g around haround
        cases h
        obtain ⟨hg, hrest⟩ := List.forall_mem_cons.mp (haround ▸ hp.around)
        exact ⟨hg.push hp.group.content, hrest⟩

/-- **In what is spelled, the limits of all repetitions stand in the right order.** -/
theorem limited_of_parse {source : String} {r : Regex} (h : parse source = .ok r) : r.Limited := by
  obtain ⟨p, rest, hitems, -, -, -, rfl⟩ := parse_eq_ok_iff.mp h
  have hstart : Progress.Limited {} := ⟨OpenGroup.limited_new _, List.forall_mem_nil _⟩
  exact (yields_items (fun _ _ _ hstep => hstep.limited) _ hstart _ _ _ hitems).group.content

/-! ### Groups around -/

/-- The flags that hold again behind each open group. -/
def Progress.outers (p : Progress) : List Flags := (p.group :: p.around).map (·.outer)

/-- **Only a closing parenthesis closes a group.** -/
theorem Progress.Step.outers (h : p.Step c q) (hc : c ≠ ')') : p.outers <:+ q.outers := by
  cases h with
  | push flags i hi => exact List.suffix_refl _
  | open_ names flags => exact List.suffix_cons _ _
  | split => exact List.suffix_refl _
  | repeat_ i items hitems hle => exact List.suffix_refl _
  | close h => exact absurd rfl hc

end Classpath.Regex
