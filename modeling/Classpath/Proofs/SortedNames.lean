import Mathlib.Data.List.Sort
import Mathlib.Data.String.Basic
import Classpath.Text.Basic

/-!
# Names in Order

A set of names is written down as the list of them in ascending order, each name once. So the list
is settled by the set: whatever the names came from, in which order and how often, the same names
are written down as the same list (`Text.eq_sortedDistinct_iff`), and to leave some of them out
makes no difference before or after (`Text.sortedDistinct_filter`).

## Main results

* `Text.pairwise_mergeSort`: what is sorted is in order.
* `Text.pairwise_sortedDistinct`: a set of names is written down in ascending order.
* `Text.eq_sortedDistinct_iff`: which list it is.
-/

namespace Classpath.Text

/-- Names in order, without repetitions, ascend strictly. -/
theorem pairwise_dropRepeats {names : List String} (h : names.Pairwise (· ≤ ·)) :
    (dropRepeats names).Pairwise (· < ·) := by
  fun_induction dropRepeats names with
  | case1 => exact List.Pairwise.nil
  | case2 a => exact List.pairwise_singleton ..
  | case3 a rest ih => exact ih h.of_cons
  | case4 a b rest hne ih =>
      obtain ⟨ha, hrest⟩ := List.pairwise_cons.mp h
      refine List.pairwise_cons.mpr ⟨fun x hx => ?_, ih hrest⟩
      have hab : a < b := lt_of_le_of_ne (ha b List.mem_cons_self) hne
      obtain rfl | hx := List.mem_cons.mp ((mem_dropRepeats _).mp hx)
      · exact hab
      · exact lt_of_lt_of_le hab ((List.pairwise_cons.mp hrest).1 x hx)

/-- What is sorted by a text is in the ascending order of the texts. -/
theorem pairwise_mergeSort {α : Type} (key : α → String) (l : List α) :
    (l.mergeSort fun a b => decide (key a ≤ key b)).Pairwise fun a b => key a ≤ key b := by
  refine (List.pairwise_mergeSort ?_ ?_ l).imp fun hab => of_decide_eq_true hab
  · intro a b c hab hbc
    exact decide_eq_true (le_trans (of_decide_eq_true hab) (of_decide_eq_true hbc))
  · intro a b
    simpa using le_total (key a) (key b)

/-- A set of names is written down in ascending order, each name once. -/
theorem pairwise_sortedDistinct (names : List String) :
    (sortedDistinct names).Pairwise (· < ·) :=
  pairwise_dropRepeats (pairwise_mergeSort id names)

/-- **The list of a set of names** is the one in ascending order that has the same elements. -/
theorem eq_sortedDistinct_iff {names found : List String} :
    names = sortedDistinct found ↔
      names.Pairwise (· < ·) ∧ ∀ name, name ∈ names ↔ name ∈ found := by
  constructor
  · rintro rfl
    exact ⟨pairwise_sortedDistinct found, fun name => mem_sortedDistinct found⟩
  · rintro ⟨hpairwise, hmem⟩
    refine hpairwise.eq_of_mem_iff (pairwise_sortedDistinct found) fun name => ?_
    rw [hmem, mem_sortedDistinct]

/-- To sort names and to choose among them can be done in either order. -/
theorem sortedDistinct_filter (names : List String) (wanted : String → Bool) :
    sortedDistinct (names.filter wanted) = (sortedDistinct names).filter wanted := by
  refine (eq_sortedDistinct_iff.mpr ⟨(pairwise_sortedDistinct names).filter wanted, ?_⟩).symm
  simp

end Classpath.Text
