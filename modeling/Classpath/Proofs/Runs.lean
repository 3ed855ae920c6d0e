import Classpath.ClassIndex.Query
import Classpath.Proofs.Success

/-!
# Runs of Computations That Define Classes

Resolution, reflection and queries are computations that may fail and that keep the classes
they define, also when they fail. This module fixes how such computations are spoken about:
`outcome x l` is what `x` comes to when it is started with the classes `l`, and
`Runs x l a l'` says that it ends with the value `a` and the classes `l'`. A run of a
sequence is a run of each part, so a larger computation is taken apart by `runs_bind`. That it
fails instead is said by `Fails x l e`.

## Main results

* `outcome_bind`, `runs_bind`, `fails_bind`: the outcome of a sequence, taken apart.
* `outcome_bind_congr`: a part of a sequence is exchanged for one that comes to the same.
* `Runs.unique`: a computation has one outcome.
* `filterM_cons`: a test of the elements of a list is a sequence of tests.
-/

namespace Classpath

variable {ε α β : Type}

/-- What a computation comes to, and the classes defined by then. -/
def outcome (x : ExceptT ε (StateM Linkage) α) (l : Linkage) : Except ε α × Linkage :=
  x.run.run l

/-- Started with the classes `l`, the computation `x` ends with the value `a` and the
classes `l'`. -/
def Runs (x : ExceptT ε (StateM Linkage) α) (l : Linkage) (a : α) (l' : Linkage) : Prop :=
  outcome x l = (.ok a, l')

/-- A computation has one outcome. -/
theorem Runs.unique {x : ExceptT ε (StateM Linkage) α} {l l₁ l₂ : Linkage} {a₁ a₂ : α}
    (h₁ : Runs x l a₁ l₁) (h₂ : Runs x l a₂ l₂) : a₁ = a₂ ∧ l₁ = l₂ := by
  simpa [Runs] using h₁.symm.trans h₂

/-- A computation whose outcome is a value runs. -/
theorem exists_runs_of_toOption {x : ExceptT ε (StateM Linkage) α} {l : Linkage} {a : α}
    (h : (outcome x l).1.toOption = some a) : ∃ l', Runs x l a l' :=
  ⟨(outcome x l).2, Prod.ext (toOption_eq_some_iff.mp h) rfl⟩

/-! ### Outcomes of the parts -/

/-- A value leaves the classes as they are. -/
@[simp] theorem outcome_pure (a : α) (l : Linkage) :
    outcome (pure a : ExceptT ε (StateM Linkage) α) l = (.ok a, l) := rfl

@[simp] theorem outcome_throw (e : ε) (l : Linkage) :
    outcome (throw e : ExceptT ε (StateM Linkage) α) l = (.error e, l) := rfl

@[simp] theorem outcome_get (l : Linkage) :
    outcome (get : ExceptT ε (StateM Linkage) Linkage) l = (.ok l, l) := rfl

@[simp] theorem outcome_liftM (x : Except ε α) (l : Linkage) :
    outcome (liftM x : ExceptT ε (StateM Linkage) α) l = (x, l) := rfl

/-- The outcome of a sequence: its first part fails, or the second goes on from where the
first one ends. -/
theorem outcome_bind (x : ExceptT ε (StateM Linkage) α)
    (f : α → ExceptT ε (StateM Linkage) β) (l : Linkage) :
    outcome (x >>= f) l =
      match outcome x l with
      | (.ok a, l') => outcome (f a) l'
      | (.error e, l') => (.error e, l') := by
  show outcome (ExceptT.mk (x.run >>= ExceptT.bindCont f)) l = _
  change (ExceptT.bindCont f (outcome x l).1).run (outcome x l).2 = _
  rcases outcome x l with ⟨_ | a, l'⟩ <;> rfl

/-- Two sequences with the same first part come to the same, if what follows does from wherever
that part ends. -/
theorem outcome_bind_congr {x : ExceptT ε (StateM Linkage) α}
    {f g : α → ExceptT ε (StateM Linkage) β} {l : Linkage}
    (h : ∀ a l', Runs x l a l' → outcome (f a) l' = outcome (g a) l') :
    outcome (x >>= f) l = outcome (x >>= g) l := by
  rw [outcome_bind, outcome_bind]
  rcases hx : outcome x l with ⟨e | a, l'⟩
  · rfl
  · exact h a l' hx

/-! ### Runs of the parts -/

/-- The one run of a value. -/
@[simp] theorem runs_pure {a b : α} {l l' : Linkage} :
    Runs (pure a : ExceptT ε (StateM Linkage) α) l b l' ↔ b = a ∧ l' = l := by
  simp [Runs, eq_comm]

@[simp] theorem runs_throw {e : ε} {a : α} {l l' : Linkage} :
    ¬Runs (throw e : ExceptT ε (StateM Linkage) α) l a l' := by
  simp [Runs]

@[simp] theorem runs_get {a l l' : Linkage} :
    Runs (get : ExceptT ε (StateM Linkage) Linkage) l a l' ↔ a = l ∧ l' = l := by
  simp [Runs, eq_comm]

/-- **A run of a sequence** is a run of its first part and, from where that one ends, a run
of its second. -/
theorem runs_bind {x : ExceptT ε (StateM Linkage) α} {f : α → ExceptT ε (StateM Linkage) β}
    {l l' : Linkage} {b : β} :
    Runs (x >>= f) l b l' ↔ ∃ a m, Runs x l a m ∧ Runs (f a) m b l' := by
  unfold Runs
  rw [outcome_bind]
  rcases outcome x l with ⟨_ | a, m⟩
  · simp
  · constructor
    · exact fun h => ⟨a, m, rfl, h⟩
    · rintro ⟨a', m', heq, h⟩
      simp only [Prod.mk.injEq, Except.ok.injEq] at heq
      obtain ⟨rfl, rfl⟩ := heq
      exact h

/-! ### Failures of the parts -/

/-- Started with the classes `l`, the computation `x` fails with the error `e`. -/
def Fails (x : ExceptT ε (StateM Linkage) α) (l : Linkage) (e : ε) : Prop :=
  (outcome x l).1 = .error e

@[simp] theorem not_fails_pure {a : α} {l : Linkage} {e : ε} :
    ¬Fails (pure a : ExceptT ε (StateM Linkage) α) l e := by
  simp [Fails]

/-- **A sequence fails** if its first part does, or the second one from where that ends. -/
theorem fails_bind {x : ExceptT ε (StateM Linkage) α} {f : α → ExceptT ε (StateM Linkage) β}
    {l : Linkage} {e : ε} :
    Fails (x >>= f) l e ↔ Fails x l e ∨ ∃ a m, Runs x l a m ∧ Fails (f a) m e := by
  unfold Fails Runs
  rw [outcome_bind]
  rcases outcome x l with ⟨_ | a, m⟩
  · simp
  · constructor
    · exact fun h => Or.inr ⟨a, m, rfl, h⟩
    · rintro (h | ⟨a', m', heq, h⟩)
      · cases h
      · simp only [Prod.mk.injEq, Except.ok.injEq] at heq
        obtain ⟨rfl, rfl⟩ := heq
        exact h

/-- To look at the classes that are defined never fails. -/
theorem fails_get_bind {f : Linkage → ExceptT ε (StateM Linkage) α} {l : Linkage} {e : ε} :
    Fails (get >>= f) l e ↔ Fails (f l) l e := by
  unfold Fails
  rw [outcome_bind]
  rfl

/-- A computation that is passed on from reflection to a query comes to the same, but for the
error. -/
theorem outcome_lift (asScan : LinkError → ScanError) (x : Linked α) (l : Linkage) :
    outcome (Query.lift asScan x) l =
      match outcome x l with
      | (.ok a, l') => (.ok a, l')
      | (.error e, l') => (.error (asScan e), l') := by
  unfold Query.lift outcome
  simp only [ExceptT.run_mk, StateT.run_bind]
  rcases x.run.run l with ⟨_ | a, m⟩ <;> rfl

/-! ### Testing the elements of a list -/

section Tests

variable {m : Type → Type} [Monad m] [LawfulMonad m] (p : α → m Bool)

theorem filterM_nil : [].filterM p = pure [] := by
  simp [List.filterM, List.filterAuxM]

/-- The elements that passed before are put behind, as they are. -/
theorem filterAuxM_eq (as passed : List α) :
    List.filterAuxM p as passed = (· ++ passed) <$> List.filterAuxM p as [] := by
  induction as generalizing passed with
  | nil => simp [List.filterAuxM]
  | cons a as ih =>
      simp only [List.filterAuxM, map_bind]
      refine bind_congr fun passes => ?_
      rw [ih, ih (cond passes [a] [])]
      cases passes <;> simp

/-- **The first of some elements** is tested before the others. -/
theorem filterM_cons (a : α) (as : List α) :
    (a :: as).filterM p = do
      let passes ← p a
      let bs ← as.filterM p
      return if passes then a :: bs else bs := by
  simp only [List.filterM, List.filterAuxM, bind_assoc, pure_bind]
  refine bind_congr fun passes => ?_
  rw [filterAuxM_eq]
  cases passes <;> simp

end Tests

end Classpath
