import Mathlib.Data.List.Perm.Subperm
import Classpath.Regex.Matcher

/-!
# What Matching Finds

The meaning of an expression is the spans it describes; a search goes through sets of positions
instead, each an ascending list. The two agree: the positions that an expression leads to are those
where a span ends that begins at one of the given positions (`Regex.leads_ends`). A constructor of
expressions is a way to make one step from positions to positions out of others, and `Leads` says
of a step that it follows a relation; there is one lemma for each of these ways.

A repetition stops when it reaches no new position. Then what was found is closed under the step,
so no further round would find more (`Leads.grow_closed`); and since there are only so many
positions, this happens within as many rounds.

A repetition whose limits stand in the wrong order describes nothing, while a search would still go
through the rounds of its lower limit. No expression that is spelled has one, so it is excluded
(`Regex.Limited`).

## Main results

* `Regex.Leads.grow_le`, `Regex.Leads.grow_all`: repetitions, with a limit and without.
* `Regex.leads_ends`: the positions that an expression leads to.
* `Regex.occurs_iff`: a search finds whether an expression describes some part of a text.
-/

namespace Classpath.Regex

variable {text : Array Char} {size i j k m n : Nat} {as bs at_ found frontier : List Nat}

/-! ### Limits -/

/-- Whether the limits of all repetitions stand in the right order. -/
def Limited : Regex → Prop
  | empty => True
  | chars _ => True
  | look _ => True
  | seq first second => Limited first ∧ Limited second
  | alt left right => Limited left ∧ Limited right
  | iterate least most r => (∀ m, most = some m → least ≤ m) ∧ Limited r

/-! ### Rounds -/

section Power

variable {R : Nat → Nat → Prop}

/-- Some rounds and then some more are as many rounds as both together. -/
theorem power_add : Power R (m + n) i k ↔ ∃ j, Power R m i j ∧ Power R n j k := by
  induction m generalizing i with
  | zero => simp [Power]
  | succ m ih =>
      rw [Nat.succ_add]
      constructor
      · rintro ⟨b, hstep, hrest⟩
        obtain ⟨j, hb, hj⟩ := ih.mp hrest
        exact ⟨j, ⟨b, hstep, hb⟩, hj⟩
      · rintro ⟨j, ⟨b, hstep, hb⟩, hj⟩
        exact ⟨b, hstep, ih.mpr ⟨j, hb, hj⟩⟩

/-- What is closed under a relation is closed under any number of rounds. -/
theorem mem_of_power (hclosed : ∀ i ∈ found, ∀ j, R i j → j ∈ found) (hi : i ∈ found)
    (h : Power R n i j) : j ∈ found := by
  induction n generalizing i with
  | zero => exact h ▸ hi
  | succ n ih =>
      obtain ⟨b, hstep, hrest⟩ := h
      exact ih (hclosed i hi b hstep) hrest

end Power

/-! ### Sets of positions -/

/-- An ascending list of positions of a text. -/
structure Positions (size : Nat) (at_ : List Nat) : Prop where
  ascending : at_.Pairwise (· < ·)
  le_size : ∀ i ∈ at_, i ≤ size

/-- What remains of ascending positions when some are left out ascends. -/
theorem Positions.sublist (h : Positions size at_) (hsub : as.Sublist at_) :
    Positions size as where
  ascending := h.ascending.sublist hsub
  le_size i hi := h.le_size i (hsub.subset hi)

/-- A position stands once in an ascending list. -/
theorem Positions.nodup (h : Positions size at_) : at_.Nodup :=
  h.ascending.imp fun hlt => Nat.ne_of_lt hlt

theorem positions_singleton (h : i ≤ size) : Positions size [i] where
  ascending := List.pairwise_singleton _ i
  le_size := by simpa using h

/-- There are no more positions than one for each character, and the end. -/
theorem Positions.length_le (h : Positions size at_) : at_.length ≤ size + 1 := by
  have hsub : at_ ⊆ List.range (size + 1) := fun i hi =>
    List.mem_range.mpr (Nat.lt_succ_of_le (h.le_size i hi))
  simpa using (h.nodup.subperm hsub).length_le

/-- Merging two lists joins what they hold. -/
@[simp] theorem mem_merge : j ∈ merge as bs ↔ j ∈ as ∨ j ∈ bs := by
  induction as, bs using merge.induct with
  | case1 bs => simp [merge]
  | case2 as h => cases as <;> simp [merge]
  | case3 a as b bs hlt ih =>
      rw [merge, if_pos hlt, List.mem_cons, ih, List.mem_cons (l := as), or_assoc]
  | case4 a as b bs hnot hlt ih =>
      rw [merge, if_neg hnot, if_pos hlt, List.mem_cons, ih, List.mem_cons (l := bs), or_left_comm]
  | case5 a as b bs hnot hnot' ih =>
      obtain rfl : a = b := by omega
      simp only [merge, if_neg hnot, List.mem_cons, ih]
      exact or_or_distrib_left

/-- Merging two ascending lists yields one that ascends. -/
theorem pairwise_merge (has : as.Pairwise (· < ·)) (hbs : bs.Pairwise (· < ·)) :
    (merge as bs).Pairwise (· < ·) := by
  induction as, bs using merge.induct with
  | case1 bs => simpa only [merge] using hbs
  | case2 as h => cases as <;> simp_all [merge]
  | case3 a as b bs hlt ih =>
      simp only [merge, if_pos hlt]
      obtain ⟨ha, has⟩ := List.pairwise_cons.mp has
      refine List.pairwise_cons.mpr ⟨fun x hx => ?_, ih has hbs⟩
      obtain hx | hx := mem_merge.mp hx
      · exact ha x hx
      · obtain rfl | hx := List.mem_cons.mp hx
        · exact hlt
        · exact Nat.lt_trans hlt (List.rel_of_pairwise_cons hbs hx)
  | case4 a as b bs hnot hlt ih =>
      simp only [merge, if_neg hnot, if_pos hlt]
      obtain ⟨hb, hbs⟩ := List.pairwise_cons.mp hbs
      refine List.pairwise_cons.mpr ⟨fun x hx => ?_, ih has hbs⟩
      obtain hx | hx := mem_merge.mp hx
      · obtain rfl | hx := List.mem_cons.mp hx
        · exact hlt
        · exact Nat.lt_trans hlt (List.rel_of_pairwise_cons has hx)
      · exact hb x hx
  | case5 a as b bs hnot hnot' ih =>
      obtain rfl : a = b := by omega
      simp only [merge, if_neg hnot]
      obtain ⟨ha, has⟩ := List.pairwise_cons.mp has
      obtain ⟨hb, hbs⟩ := List.pairwise_cons.mp hbs
      refine List.pairwise_cons.mpr ⟨fun x hx => ?_, ih has hbs⟩
      exact (mem_merge.mp hx).elim (ha x) (hb x)

theorem minus_sublist : (minus as bs).Sublist as := by
  induction as, bs using minus.induct with
  | case1 bs => simp [minus]
  | case2 as h => cases as <;> simp [minus]
  | case3 a as b bs hlt ih =>
      simp only [minus, if_pos hlt]
      exact ih.cons_cons a
  | case4 a as b bs hnot hlt ih =>
      simp only [minus, if_neg hnot, if_pos hlt]
      exact ih
  | case5 a as b bs hnot hnot' ih =>
      simp only [minus, if_neg hnot, if_neg hnot']
      exact ih.cons a

/-- For ascending lists it is the elements that the other one lacks. -/
theorem mem_minus (has : as.Pairwise (· < ·)) (hbs : bs.Pairwise (· < ·)) :
    j ∈ minus as bs ↔ j ∈ as ∧ j ∉ bs := by
  induction as, bs using minus.induct with
  | case1 bs => simp [minus]
  | case2 as h => cases as <;> simp [minus]
  | case3 a as b bs hlt ih =>
      -- the first of the left is below all of the right
      have hnot : a ∉ b :: bs := by
        intro hmem
        obtain rfl | hmem := List.mem_cons.mp hmem
        · omega
        · have := List.rel_of_pairwise_cons hbs hmem
          omega
      simp only [minus, if_pos hlt]
      rw [List.mem_cons, ih has.tail hbs, List.mem_cons (l := as)]
      constructor
      · rintro (rfl | ⟨hj, hjb⟩)
        · exact ⟨Or.inl rfl, hnot⟩
        · exact ⟨Or.inr hj, hjb⟩
      · rintro ⟨rfl | hj, hjb⟩
        · exact Or.inl rfl
        · exact Or.inr ⟨hj, hjb⟩
  | case4 a as b bs hnot hlt ih =>
      have hne : ∀ x ∈ a :: as, x ≠ b := by
        rintro x hx rfl
        obtain rfl | hx := List.mem_cons.mp hx
        · omega
        · have := List.rel_of_pairwise_cons has hx
          omega
      simp only [minus, if_neg hnot, if_pos hlt]
      rw [ih has hbs.tail, List.mem_cons (l := bs)]
      exact and_congr_right fun hj => by simp [hne j hj]
  | case5 a as b bs hnot hnot' ih =>
      obtain rfl : a = b := by omega
      simp only [minus, if_neg hnot]
      rw [ih has.tail hbs.tail, List.mem_cons, List.mem_cons]
      constructor
      · rintro ⟨hj, hjb⟩
        have := List.rel_of_pairwise_cons has hj
        exact ⟨Or.inr hj, by rintro (rfl | h) <;> [omega; exact hjb h]⟩
      · rintro ⟨rfl | hj, hjb⟩
        · exact absurd (Or.inl rfl) hjb
        · exact ⟨hj, fun h => hjb (Or.inr h)⟩

/-! ### Steps -/

/-- A step from positions of a text to positions, as a relation leads from one to another. -/
def Leads (size : Nat) (step : List Nat → List Nat) (R : Nat → Nat → Prop) : Prop :=
  ∀ at_, Positions size at_ →
    Positions size (step at_) ∧ ∀ j, j ∈ step at_ ↔ ∃ i ∈ at_, R i j

namespace Leads

variable {step step' : List Nat → List Nat} {R S : Nat → Nat → Prop}

/-- A step does not lead out of the text. -/
theorem le_size (h : Leads size step R) (hi : i ≤ size) (hR : R i j) : j ≤ size := by
  obtain ⟨hpositions, hmem⟩ := h _ (positions_singleton hi)
  exact hpositions.le_size j ((hmem j).mpr ⟨i, List.mem_singleton_self i, hR⟩)

/-- One step after another leads where their relations lead one after the other. -/
theorem comp (h : Leads size step R) (h' : Leads size step' S) :
    Leads size (fun at_ => step' (step at_)) fun i k => ∃ j, R i j ∧ S j k := by
  intro at_ hat
  obtain ⟨hmiddle, hmem⟩ := h at_ hat
  obtain ⟨hend, hmem'⟩ := h' _ hmiddle
  refine ⟨hend, fun k => ?_⟩
  rw [hmem']
  constructor
  · rintro ⟨j, hj, hS⟩
    obtain ⟨i, hi, hR⟩ := (hmem j).mp hj
    exact ⟨i, hi, j, hR, hS⟩
  · rintro ⟨i, hi, j, hR, hS⟩
    exact ⟨j, (hmem j).mpr ⟨i, hi, hR⟩, hS⟩

/-- Two steps from the same positions lead where either of their relations does. -/
theorem merge (h : Leads size step R) (h' : Leads size step' S) :
    Leads size (fun at_ => Regex.merge (step at_) (step' at_)) fun i j => R i j ∨ S i j := by
  intro at_ hat
  obtain ⟨hleft, hmem⟩ := h at_ hat
  obtain ⟨hright, hmem'⟩ := h' at_ hat
  refine ⟨⟨pairwise_merge hleft.ascending hright.ascending, fun j hj => ?_⟩, fun j => ?_⟩
  · exact (mem_merge.mp hj).elim (hleft.le_size j) (hright.le_size j)
  · rw [mem_merge, hmem, hmem', ← exists_or]
    exact exists_congr fun i => and_or_left.symm

/-- **So many rounds.** -/
theorem exactly (h : Leads size step R) (n : Nat) :
    Leads size (Regex.exactly step n) (Power R n) := by
  induction n with
  | zero => exact fun at_ hat => ⟨hat, fun j => by simp [Regex.exactly, Power]⟩
  | succ n ih =>
      intro at_ hat
      obtain ⟨hnext, hmem⟩ := h.comp ih at_ hat
      -- a round that changes nothing may be left out, and all after it
      have hsame : Regex.exactly step (n + 1) at_ = Regex.exactly step n (step at_) := by
        show (if step at_ = at_ then at_ else _) = _
        split
        · rename_i hfixed
          rw [hfixed]
          clear hnext hmem ih
          induction n with
          | zero => rfl
          | succ n ih =>
              show _ = if step at_ = at_ then at_ else _
              rw [if_pos hfixed]
        · rfl
      rw [hsame]
      exact ⟨hnext, hmem⟩

section Grow

variable (h : Leads size step R) (hfound : Positions size found)
  (hfrontier : Positions size frontier)

include h hfound hfrontier

/-- The positions that a round reaches for the first time. -/
theorem fresh : Positions size (minus (step frontier) found) ∧
    ∀ j, j ∈ minus (step frontier) found ↔ (∃ i ∈ frontier, R i j) ∧ j ∉ found := by
  obtain ⟨hstep, hmem⟩ := h frontier hfrontier
  refine ⟨hstep.sublist minus_sublist, fun j => ?_⟩
  rw [mem_minus hstep.ascending hfound.ascending, hmem]

/-- What is found with what a round adds is ascending again. -/
theorem positions_found :
    Positions size (Regex.merge found (minus (step frontier) found)) := by
  obtain ⟨hfresh, -⟩ := fresh h hfound hfrontier
  refine ⟨pairwise_merge hfound.ascending hfresh.ascending, fun j hj => ?_⟩
  exact (mem_merge.mp hj).elim (hfound.le_size j) (hfresh.le_size j)

/-- So is all that is found in any number of rounds. -/
theorem positions_grow (n : Nat) : Positions size (grow step n found frontier) := by
  induction n generalizing found frontier with
  | zero => exact hfound
  | succ n ih =>
      unfold grow
      dsimp only
      split
      · exact hfound
      · exact ih (h.positions_found hfound hfrontier) (h.fresh hfound hfrontier).1

theorem subset_grow (n : Nat) : found ⊆ grow step n found frontier := by
  induction n generalizing found frontier with
  | zero => exact List.Subset.refl _
  | succ n ih =>
      unfold grow
      dsimp only
      split
      · exact List.Subset.refl _
      · intro j hj
        exact ih (h.positions_found hfound hfrontier) (h.fresh hfound hfrontier).1
          (mem_merge.mpr (Or.inl hj))

end Grow

/-- Only the frontier leads out of what was found. -/
def Bounded (R : Nat → Nat → Prop) (found frontier : List Nat) : Prop :=
  frontier ⊆ found ∧ ∀ i ∈ found, i ∉ frontier → ∀ j, R i j → j ∈ found

/-- After a round only the positions that are new lead out. -/
theorem bounded_step (h : Leads size step R) (hfound : Positions size found)
    (hfrontier : Positions size frontier) (hbounded : Bounded R found frontier) :
    (∀ i ∈ found, ∀ j, R i j → j ∈ Regex.merge found (minus (step frontier) found)) ∧
      Bounded R (Regex.merge found (minus (step frontier) found))
        (minus (step frontier) found) := by
  obtain ⟨-, hfresh⟩ := h.fresh hfound hfrontier
  have hout : ∀ i ∈ found, ∀ j, R i j →
      j ∈ Regex.merge found (minus (step frontier) found) := by
    intro i hi j hR
    rw [mem_merge, hfresh]
    by_cases hj : j ∈ found
    · exact Or.inl hj
    · by_cases hif : i ∈ frontier
      · exact Or.inr ⟨⟨i, hif, hR⟩, hj⟩
      · exact absurd (hbounded.2 i hi hif j hR) hj
  refine ⟨hout, fun j hj => mem_merge.mpr (Or.inr hj), fun i hi hnot => hout i ?_⟩
  exact (mem_merge.mp hi).resolve_right hnot

/-- Where a round reaches nothing new, nothing leads out. -/
theorem closed_of_isEmpty (h : Leads size step R) (hfound : Positions size found)
    (hfrontier : Positions size frontier) (hbounded : Bounded R found frontier)
    (hempty : (minus (step frontier) found).isEmpty = true) :
    ∀ i ∈ found, ∀ j, R i j → j ∈ found := by
  intro i hi j hR
  have hj := (h.bounded_step hfound hfrontier hbounded).1 i hi j hR
  rw [List.isEmpty_iff.mp hempty] at hj
  simpa using hj

/-- **So many rounds or fewer.** -/
theorem grow_le (h : Leads size step R) (hfound : Positions size found)
    (hfrontier : Positions size frontier) (hbounded : Bounded R found frontier) (n : Nat) :
    j ∈ grow step n found frontier ↔ ∃ i ∈ found, ∃ k ≤ n, Power R k i j := by
  induction n generalizing found frontier with
  | zero => simp [grow, Power]
  | succ n ih =>
      obtain ⟨hout, hbounded'⟩ := h.bounded_step hfound hfrontier hbounded
      obtain ⟨hfresh, hmem⟩ := h.fresh hfound hfrontier
      unfold grow
      dsimp only
      split
      · rename_i hempty
        constructor
        · exact fun hj => ⟨j, hj, 0, Nat.zero_le _, rfl⟩
        · rintro ⟨i, hi, k, -, hpower⟩
          exact mem_of_power (h.closed_of_isEmpty hfound hfrontier hbounded hempty) hi hpower
      · rw [ih (h.positions_found hfound hfrontier) hfresh hbounded']
        constructor
        · rintro ⟨i, hi, k, hk, hpower⟩
          obtain hi | hi := mem_merge.mp hi
          · exact ⟨i, hi, k, Nat.le_succ_of_le hk, hpower⟩
          · obtain ⟨⟨b, hb, hR⟩, -⟩ := (hmem i).mp hi
            exact ⟨b, hbounded.1 hb, k + 1, Nat.succ_le_succ hk, i, hR, hpower⟩
        · rintro ⟨i, hi, _ | k, hk, hpower⟩
          · exact ⟨i, mem_merge.mpr (Or.inl hi), 0, Nat.zero_le _, hpower⟩
          · obtain ⟨b, hR, hrest⟩ := hpower
            exact ⟨b, hout i hi b hR, k, Nat.le_of_succ_le_succ hk, hrest⟩

/-- With a round for each position that is not found yet, what is found in the end is closed under
the step: each round but the last finds a position. -/
theorem grow_closed (h : Leads size step R) (hfound : Positions size found)
    (hfrontier : Positions size frontier) (hbounded : Bounded R found frontier)
    (hrounds : size + 1 < n + found.length) :
    ∀ i ∈ grow step n found frontier, ∀ j, R i j → j ∈ grow step n found frontier := by
  induction n generalizing found frontier with
  | zero =>
      have := hfound.length_le
      omega
  | succ n ih =>
      obtain ⟨-, hbounded'⟩ := h.bounded_step hfound hfrontier hbounded
      obtain ⟨hfresh, hmem⟩ := h.fresh hfound hfrontier
      unfold grow
      dsimp only
      split
      · rename_i hempty
        exact h.closed_of_isEmpty hfound hfrontier hbounded hempty
      · rename_i hnew
        rw [List.isEmpty_iff] at hnew
        obtain ⟨x, hx⟩ := List.exists_mem_of_ne_nil _ hnew
        have hgrown : found.length < (Regex.merge found (minus (step frontier) found)).length := by
          have hnodup : (x :: found).Nodup :=
            List.nodup_cons.mpr ⟨((hmem x).mp hx).2, hfound.nodup⟩
          refine (hnodup.subperm fun y hy => ?_).length_le
          rw [mem_merge]
          obtain rfl | hy := List.mem_cons.mp hy
          · exact Or.inr hx
          · exact Or.inl hy
        exact ih (h.positions_found hfound hfrontier) hfresh hbounded' (by omega)

/-- **Any number of rounds**: as many as there are positions are enough. -/
theorem grow_all (h : Leads size step R) (hfound : Positions size found) :
    j ∈ grow step (size + 1) found found ↔ ∃ i ∈ found, ∃ k, Power R k i j := by
  have hbounded : Bounded R found found :=
    ⟨List.Subset.refl _, fun i hi hnot => absurd hi hnot⟩
  constructor
  · intro hj
    obtain ⟨i, hi, k, -, hpower⟩ := (h.grow_le hfound hfound hbounded _).mp hj
    exact ⟨i, hi, k, hpower⟩
  · rintro ⟨i, hi, k, hpower⟩
    have hlength : 0 < found.length := List.length_pos_of_mem hi
    exact mem_of_power (h.grow_closed hfound hfound hbounded (by omega))
      (h.subset_grow hfound hfound _ hi) hpower

end Leads

/-! ### Expressions -/

/-- The position behind a character of a set. -/
def behind? (text : Array Char) (s : CharSet) (i : Nat) : Option Nat :=
  match text[i]? with
  | some c => if s.contains c.toNat then some (i + 1) else none
  | none => none

/-- The position behind a character of a set is the one where its span ends. -/
theorem behind?_eq_some_iff {s : CharSet} :
    behind? text s i = some j ↔ Spans text (.chars s) i j := by
  simp only [behind?, Spans]
  cases text[i]? with
  | none => simp
  | some c =>
      by_cases hc : s.contains c.toNat = true
      · simp [hc, eq_comm (a := j)]
      · simp [hc]

/-- **A character** of a set leads one position on, and only where such a character stands. -/
theorem leads_chars (s : CharSet) :
    Leads text.size (ends text (.chars s)) (Spans text (.chars s)) := by
  intro at_ hat
  have hread : ends text (.chars s) at_ = at_.filterMap (behind? text s) := rfl
  have hends : ∀ j, j ∈ ends text (.chars s) at_ ↔ ∃ i ∈ at_, Spans text (.chars s) i j := by
    intro j
    rw [hread, List.mem_filterMap]
    exact exists_congr fun i => and_congr_right fun _ => behind?_eq_some_iff
  refine ⟨⟨?_, fun j hj => ?_⟩, hends⟩
  · rw [hread]
    refine List.Pairwise.filterMap _ (fun i i' hlt j hj j' hj' => ?_) hat.ascending
    obtain ⟨rfl, -⟩ := behind?_eq_some_iff.mp hj
    obtain ⟨rfl, -⟩ := behind?_eq_some_iff.mp hj'
    exact Nat.succ_lt_succ hlt
  · obtain ⟨i, -, rfl, c, hc, -⟩ := (hends j).mp hj
    exact (Array.getElem?_eq_some_iff.mp hc).1

/-- **A condition** leads from a position to itself if it holds there. -/
theorem leads_look (l : Look) :
    Leads text.size (ends text (.look l)) (Spans text (.look l)) := by
  intro at_ hat
  refine ⟨hat.sublist List.filter_sublist, fun j => ?_⟩
  simp only [ends, List.mem_filter, Spans]
  constructor
  · rintro ⟨hj, hholds⟩
    exact ⟨j, hj, rfl, hholds⟩
  · rintro ⟨i, hi, rfl, hholds⟩
    exact ⟨hi, hholds⟩

/-- **A repetition** leads where its rounds do: its lower limit of them, and then as many more as
the upper limit allows, or any number. -/
theorem leads_iterate {r : Regex} (h : Leads text.size (ends text r) (Spans text r))
    {least : Nat} {most : Option Nat} (hlimits : ∀ m, most = some m → least ≤ m) :
    Leads text.size (ends text (.iterate least most r)) (Spans text (.iterate least most r)) := by
  intro at_ hat
  obtain ⟨hbegun, hmem⟩ := h.exactly least at_ hat
  have hbounded : Leads.Bounded (Spans text r) (exactly (ends text r) least at_)
      (exactly (ends text r) least at_) :=
    ⟨List.Subset.refl _, fun i hi hnot => absurd hi hnot⟩
  refine ⟨h.positions_grow hbegun hbegun _, fun j => ?_⟩
  simp only [Spans]
  cases most with
  | none =>
      show j ∈ grow _ (text.size + 1) _ _ ↔ _
      rw [h.grow_all hbegun]
      constructor
      · rintro ⟨b, hb, k, hk⟩
        obtain ⟨i, hi, hpower⟩ := (hmem b).mp hb
        exact ⟨i, hi, least + k, Nat.le_add_right .., by simp, power_add.mpr ⟨b, hpower, hk⟩⟩
      · rintro ⟨i, hi, n, hn, -, hpower⟩
        obtain ⟨k, rfl⟩ := Nat.exists_eq_add_of_le hn
        obtain ⟨b, hb, hk⟩ := power_add.mp hpower
        exact ⟨b, (hmem b).mpr ⟨i, hi, hb⟩, k, hk⟩
  | some m =>
      have hm := hlimits m rfl
      show j ∈ grow _ (m - least) _ _ ↔ _
      rw [h.grow_le hbegun hbegun hbounded]
      constructor
      · rintro ⟨b, hb, k, hle, hk⟩
        obtain ⟨i, hi, hpower⟩ := (hmem b).mp hb
        refine ⟨i, hi, least + k, Nat.le_add_right .., fun m' hm' => ?_,
          power_add.mpr ⟨b, hpower, hk⟩⟩
        cases hm'
        omega
      · rintro ⟨i, hi, n, hn, hle, hpower⟩
        obtain ⟨k, rfl⟩ := Nat.exists_eq_add_of_le hn
        obtain ⟨b, hb, hk⟩ := power_add.mp hpower
        have := hle m rfl
        exact ⟨b, (hmem b).mpr ⟨i, hi, hb⟩, k, by omega, hk⟩

/-- **Where an expression leads**: to the positions where a span ends that it describes. -/
theorem leads_ends {r : Regex} (h : r.Limited) :
    Leads text.size (ends text r) (Spans text r) := by
  induction r with
  | empty => exact fun at_ hat => ⟨hat, fun j => by simp [ends, Spans]⟩
  | chars s => exact leads_chars s
  | look l => exact leads_look l
  | seq first second ih ih' => exact (ih h.1).comp (ih' h.2)
  | alt left right ih ih' => exact (ih h.1).merge (ih' h.2)
  | iterate least most r ih => exact leads_iterate (ih h.2) h.1

/-- **What a search finds** is whether the expression describes some part of the text. -/
theorem occurs_iff {r : Regex} (h : r.Limited) (name : String) :
    r.occurs name = true ↔ r.Occurs name := by
  have hall : Positions name.toList.toArray.size
      (List.range (name.toList.toArray.size + 1)) :=
    ⟨List.pairwise_lt_range, fun i hi => Nat.le_of_lt_succ (List.mem_range.mp hi)⟩
  obtain ⟨-, hmem⟩ := leads_ends h _ hall
  unfold occurs Occurs
  dsimp only
  rw [Bool.not_eq_true', ← Bool.not_eq_true, List.isEmpty_iff]
  constructor
  · intro hne
    obtain ⟨j, hj⟩ := List.exists_mem_of_ne_nil _ hne
    obtain ⟨i, hi, hspans⟩ := (hmem j).mp hj
    exact ⟨i, j, hall.le_size i hi, hspans⟩
  · rintro ⟨i, j, hi, hspans⟩
    exact List.ne_nil_of_mem
      ((hmem j).mpr ⟨i, List.mem_range.mpr (Nat.lt_succ_of_le hi), hspans⟩)

end Classpath.Regex
