import Classpath.Proofs.Resolution

/-!
# The Loops of Reflection, Step by Step

Reflection finds the supertypes of a type in two loops, one along its superclasses and one
through the interfaces that wait. What is said of their runs is said by induction on the steps
that are left. What a single step can do is said here once, for all of these inductions: it
passes over a name that was seen, finds nothing, or takes a class and goes on from there.

## Main results

* `runs_superclasses_succ`: a step of the first loop.
* `runs_superinterfaces_cons`: a step of the second loop.
-/

namespace Classpath

variable {d : Disk} {l l' : Linkage} {steps : Nat} {seen : List String}

/-! ### Superclasses -/

/-- A run of the first loop with a step left, by what the step does. -/
inductive ClimbStep (d : Disk) (steps : Nat) (seen : List String) (t : TypeRef) (l : Linkage) :
    List Supertype × List String → Linkage → Prop
  /-- The name was seen before. -/
  | known (hseen : t.name ∈ seen) : ClimbStep d steps seen t l ([], seen) l
  /-- The class is taken, and is the last one. -/
  | top {c : DefinedClass} {l' : Linkage} (hnew : t.name ∉ seen)
      (hc : l.find? t.scope t.name = some c) (hsuper : Runs (c.superclass? d) l none l') :
      ClimbStep d steps seen t l ([⟨t, c, false⟩], t.name :: seen) l'
  /-- The class is taken, and the loop goes on with its superclass. -/
  | step {c : DefinedClass} {parent : TypeRef} {l₁ l' : Linkage} {above : List Supertype}
      {seen' : List String} (hnew : t.name ∉ seen) (hc : l.find? t.scope t.name = some c)
      (hsuper : Runs (c.superclass? d) l (some parent) l₁)
      (hrest : Runs (superclasses d steps (t.name :: seen) parent) l₁ (above, seen') l') :
      ClimbStep d steps seen t l (⟨t, c, false⟩ :: above, seen') l'

/-- **A step of the first loop.** -/
theorem runs_superclasses_succ {t : TypeRef} {r : List Supertype × List String} :
    Runs (superclasses d (steps + 1) seen t) l r l' ↔ ClimbStep d steps seen t l r l' := by
  unfold superclasses
  constructor
  · intro hrun
    split at hrun
    · rename_i hseen
      obtain ⟨rfl, rfl⟩ := runs_pure.mp hrun
      exact .known (by simpa using hseen)
    · rename_i hnew
      replace hnew : t.name ∉ seen := by simpa using hnew
      obtain ⟨c, _, hdefined, hclass⟩ := runs_bind.mp hrun
      obtain ⟨hc, rfl⟩ := runs_definedClass_iff.mp hdefined
      obtain ⟨parent, l₁, hsuper, habove⟩ := runs_bind.mp hclass
      cases parent with
      | none =>
          obtain ⟨rfl, rfl⟩ := runs_pure.mp habove
          exact .top hnew hc hsuper
      | some parent =>
          obtain ⟨⟨above, seen'⟩, _, hrest, hend⟩ := runs_bind.mp habove
          obtain ⟨rfl, rfl⟩ := runs_pure.mp hend
          exact .step hnew hc hsuper hrest
  · intro hstep
    cases hstep with
    | known hseen =>
        rw [if_pos (by simpa using hseen)]
        exact runs_pure.mpr ⟨rfl, rfl⟩
    | top hnew hc hsuper =>
        rw [if_neg (by simpa using hnew)]
        refine runs_bind.mpr ⟨_, l, runs_definedClass_iff.mpr ⟨hc, rfl⟩, ?_⟩
        exact runs_bind.mpr ⟨none, l', hsuper, runs_pure.mpr ⟨rfl, rfl⟩⟩
    | step hnew hc hsuper hrest =>
        rw [if_neg (by simpa using hnew)]
        refine runs_bind.mpr ⟨_, l, runs_definedClass_iff.mpr ⟨hc, rfl⟩, ?_⟩
        refine runs_bind.mpr ⟨some _, _, hsuper, ?_⟩
        exact runs_bind.mpr ⟨_, l', hrest, runs_pure.mpr ⟨rfl, rfl⟩⟩

/-! ### Interfaces -/

/-- A run of the second loop with a step left and something that waits, by what the step does. -/
inductive SpreadStep (d : Disk) (steps : Nat) (seen : List String) (w : String × Chain)
    (waiting : List (String × Chain)) (l : Linkage) : List Supertype → Linkage → Prop
  /-- The name was seen before. -/
  | known {found : List Supertype} {l' : Linkage} (hseen : w.1 ∈ seen)
      (hrest : Runs (superinterfaces d steps seen waiting) l found l') :
      SpreadStep d steps seen w waiting l found l'
  /-- No loader has the interface. -/
  | missing {found : List Supertype} {l₁ l' : Linkage} (hnew : w.1 ∉ seen)
      (hnone : Runs (resolve? d w.1 w.2) l none l₁)
      (hrest : Runs (superinterfaces d steps (w.1 :: seen) waiting) l₁ found l') :
      SpreadStep d steps seen w waiting l found l'
  /-- The interface is taken, and those that it extends wait. -/
  | found {t : TypeRef} {c : DefinedClass} {found : List Supertype} {l₁ l' : Linkage}
      (hnew : w.1 ∉ seen) (hsome : Runs (resolve? d w.1 w.2) l (some t) l₁)
      (hc : l₁.find? t.scope t.name = some c)
      (hrest : Runs (superinterfaces d steps (w.1 :: seen) (waiting ++ c.interfaces)) l₁ found l') :
      SpreadStep d steps seen w waiting l (⟨t, c, true⟩ :: found) l'

/-- **A step of the second loop.** -/
theorem runs_superinterfaces_cons {w : String × Chain} {waiting : List (String × Chain)}
    {found : List Supertype} :
    Runs (superinterfaces d (steps + 1) seen (w :: waiting)) l found l' ↔
      SpreadStep d steps seen w waiting l found l' := by
  unfold superinterfaces
  constructor
  · intro hrun
    split at hrun
    · rename_i hseen
      exact .known (by simpa using hseen) hrun
    · rename_i hnew
      replace hnew : w.1 ∉ seen := by simpa using hnew
      obtain ⟨t, l₁, ht, hfound⟩ := runs_bind.mp hrun
      cases t with
      | none => exact .missing hnew ht hfound
      | some t =>
          obtain ⟨c, _, hdefined, hspread⟩ := runs_bind.mp hfound
          obtain ⟨hc, rfl⟩ := runs_definedClass_iff.mp hdefined
          obtain ⟨rest, _, hrest, hend⟩ := runs_bind.mp hspread
          obtain ⟨rfl, rfl⟩ := runs_pure.mp hend
          exact .found hnew ht hc hrest
  · intro hstep
    cases hstep with
    | known hseen hrest =>
        rw [if_pos (by simpa using hseen)]
        exact hrest
    | missing hnew hnone hrest =>
        rw [if_neg (by simpa using hnew)]
        exact runs_bind.mpr ⟨none, _, hnone, hrest⟩
    | found hnew hsome hc hrest =>
        rw [if_neg (by simpa using hnew)]
        refine runs_bind.mpr ⟨some _, _, hsome, ?_⟩
        refine runs_bind.mpr ⟨_, _, runs_definedClass_iff.mpr ⟨hc, rfl⟩, ?_⟩
        exact runs_bind.mpr ⟨_, l', hrest, runs_pure.mpr ⟨rfl, rfl⟩⟩

end Classpath
