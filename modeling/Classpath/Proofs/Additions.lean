import Classpath.Proofs.Growth

/-!
# Computations That Only Add Classes

A small logic for computations that define classes, relative to the classes `l₀` that some
larger computation began with. `Adds d F l₀ x P` says that `x`, started at any time since,
only adds classes that loaders read from the disk, and that the value it ends with, if it
does, satisfies `P`; `Succeeds d F l₀ x` says that it ends with a value. Since lookups do not
change while classes are added, conditions on values can speak of lookups at `l₀`.

## Main results

* `adds_bind`, `succeeds_bind`: the rules for sequences.
* `adds_resolve?`, `adds_resolve`, `succeeds_resolve_iff`: the rules for resolution.
* `adds_filterM`: the rule for testing the elements of a list.
-/

namespace Classpath

variable {ε α β : Type} {d : Disk} {F : Loaders} {l₀ l l' : Linkage}

/-- Started with classes grown from `l₀`, `x` only adds classes from the disk, and the value
it ends with, if it does, satisfies `P`. -/
def Adds (d : Disk) (F : Loaders) (l₀ : Linkage) (x : ExceptT ε (StateM Linkage) α)
    (P : α → Prop) : Prop :=
  ∀ l : Linkage, l₀.Grows d F l →
    l.Grows d F (outcome x l).2 ∧ ∀ a, (outcome x l).1 = .ok a → P a

/-- Started with classes grown from `l₀`, `x` ends with a value. -/
def Succeeds (d : Disk) (F : Loaders) (l₀ : Linkage) (x : ExceptT ε (StateM Linkage) α) :
    Prop :=
  ∀ l : Linkage, l₀.Grows d F l → ∃ a, (outcome x l).1 = .ok a

/-- What a run adds, and what it ends with. -/
theorem Adds.of_runs {x : ExceptT ε (StateM Linkage) α} {P : α → Prop}
    (h : Adds d F l₀ x P) (hl : l₀.Grows d F l) {a : α} (hrun : Runs x l a l') :
    l.Grows d F l' ∧ P a := by
  obtain ⟨hgrows, hpost⟩ := h l hl
  rw [hrun] at hgrows hpost
  exact ⟨hgrows, hpost a rfl⟩

/-- The value a computation ends with is one of a run. -/
theorem Adds.with_run {x : ExceptT ε (StateM Linkage) α} {P : α → Prop} (h : Adds d F l₀ x P) :
    Adds d F l₀ x fun a => P a ∧ ∃ l l', l₀.Grows d F l ∧ Runs x l a l' := by
  intro l hl
  refine ⟨(h l hl).1, fun a ha => ⟨(h l hl).2 a ha, l, (outcome x l).2, hl, ?_⟩⟩
  exact Prod.ext ha rfl

/-- A computation that ends with a value has a run. -/
theorem Succeeds.runs {x : ExceptT ε (StateM Linkage) α} (h : Succeeds d F l₀ x)
    (hl : l₀.Grows d F l) : ∃ a l', Runs x l a l' := by
  obtain ⟨a, ha⟩ := h l hl
  exact ⟨a, (outcome x l).2, Prod.ext ha rfl⟩

/-! ### Values, failures and sequences -/

/-- A value adds no classes. -/
theorem adds_pure {a : α} {P : α → Prop} (h : P a) :
    Adds d F l₀ (pure a : ExceptT ε (StateM Linkage) α) P := by
  intro l _
  refine ⟨Linkage.Grows.refl .., fun b hb => ?_⟩
  rw [outcome_pure] at hb
  cases hb
  exact h

theorem adds_throw {e : ε} {P : α → Prop} :
    Adds d F l₀ (throw e : ExceptT ε (StateM Linkage) α) P := by
  intro l _
  refine ⟨Linkage.Grows.refl .., fun b hb => ?_⟩
  cases hb

theorem adds_get {P : Linkage → Prop} (h : ∀ l, P l) :
    Adds d F l₀ (get : ExceptT ε (StateM Linkage) Linkage) P :=
  fun _ _ => ⟨Linkage.Grows.refl .., fun a _ => h a⟩

/-- A sequence adds what its parts add. -/
theorem adds_bind {x : ExceptT ε (StateM Linkage) α} {f : α → ExceptT ε (StateM Linkage) β}
    {P : α → Prop} {Q : β → Prop} (hx : Adds d F l₀ x P)
    (hf : ∀ a, P a → Adds d F l₀ (f a) Q) : Adds d F l₀ (x >>= f) Q := by
  intro l hl
  obtain ⟨hgrows, hpost⟩ := hx l hl
  rw [outcome_bind]
  revert hgrows hpost
  rcases outcome x l with ⟨_ | a, m⟩ <;> intro hgrows hpost
  · exact ⟨hgrows, fun b hb => by cases hb⟩
  · obtain ⟨hgrows', hpost'⟩ := hf a (hpost a rfl) m (hl.trans hgrows)
    exact ⟨hgrows.trans hgrows', hpost'⟩

/-- What is known of the value that a computation ends with may be weakened. -/
theorem Adds.mono {x : ExceptT ε (StateM Linkage) α} {P Q : α → Prop} (hx : Adds d F l₀ x P)
    (h : ∀ a, P a → Q a) : Adds d F l₀ x Q :=
  fun l hl => ⟨(hx l hl).1, fun a ha => h a ((hx l hl).2 a ha)⟩

theorem succeeds_pure {a : α} :
    Succeeds d F l₀ (pure a : ExceptT ε (StateM Linkage) α) :=
  fun _ _ => ⟨a, rfl⟩

/-- A sequence ends with a value if its parts do. -/
theorem succeeds_bind {x : ExceptT ε (StateM Linkage) α}
    {f : α → ExceptT ε (StateM Linkage) β} {P : α → Prop} (hx : Succeeds d F l₀ x)
    (hadds : Adds d F l₀ x P) (hf : ∀ a, P a → Succeeds d F l₀ (f a)) :
    Succeeds d F l₀ (x >>= f) := by
  intro l hl
  obtain ⟨a, m, hrun⟩ := hx.runs hl
  obtain ⟨hgrows, hpost⟩ := hadds.of_runs hl hrun
  obtain ⟨b, l', hrun'⟩ := (hf a hpost).runs (hl.trans hgrows)
  have hwhole : Runs (x >>= f) l b l' := runs_bind.mpr ⟨a, m, hrun, hrun'⟩
  exact ⟨b, by rw [hwhole]⟩

/-- Elements are tested one after another: those that pass remain. -/
theorem adds_filterM {as : List α} {holds : α → ExceptT ε (StateM Linkage) Bool}
    {Q : α → Bool → Prop} (h : ∀ a ∈ as, Adds d F l₀ (holds a) (Q a)) :
    Adds d F l₀ (as.filterM holds) fun bs =>
      (∀ a ∈ bs, a ∈ as ∧ Q a true) ∧ ∀ a ∈ as, a ∈ bs ∨ Q a false := by
  induction as with
  | nil =>
      rw [filterM_nil]
      exact adds_pure (by simp)
  | cons a as ih =>
      obtain ⟨ha, has⟩ := List.forall_mem_cons.mp h
      rw [filterM_cons]
      refine adds_bind ha fun passes hpasses => adds_bind (ih has) fun bs hbs => adds_pure ?_
      obtain ⟨hfrom, hall⟩ := hbs
      have hbehind : ∀ x ∈ bs, x ∈ a :: as ∧ Q x true :=
        fun x hx => (hfrom x hx).imp_left (List.mem_cons_of_mem a)
      cases passes with
      | true =>
          refine ⟨List.forall_mem_cons.mpr ⟨⟨List.mem_cons_self, hpasses⟩, hbehind⟩, ?_⟩
          exact List.forall_mem_cons.mpr ⟨Or.inl List.mem_cons_self,
            fun x hx => (hall x hx).imp_left (List.mem_cons_of_mem a)⟩
      | false => exact ⟨hbehind, List.forall_mem_cons.mpr ⟨Or.inr hpasses, hall⟩⟩

/-! ### Resolution -/

/-- Resolution ends with the type that the lookup finds. -/
theorem adds_resolve? {n : String} {c : Chain} (hc : c ∈ F.made) :
    Adds d F l₀ (resolve? d n c) fun t =>
      ∃ found, l₀.class? d n c = .ok found ∧ t = found.map (·.1) := by
  intro l hl
  rw [outcome_resolve?, ← hl.class?_eq hc]
  rcases hclass : l.class? d n c with _ | _ | ⟨t, cls⟩
  · exact ⟨Linkage.Grows.refl .., fun a ha => by cases ha⟩
  · refine ⟨Linkage.Grows.refl .., fun a ha => ?_⟩
    cases ha
    exact ⟨none, rfl, rfl⟩
  · refine ⟨Linkage.grows_define hc hclass, fun a ha => ?_⟩
    cases ha
    exact ⟨some (t, cls), rfl, rfl⟩

/-- Resolution of a name that has to be there ends with the type of the class that the lookup
finds. -/
theorem adds_resolve {n : String} {c : Chain} (hc : c ∈ F.made) :
    Adds d F l₀ (resolve d n c) fun t => ∃ cls, l₀.class? d n c = .ok (some (t, cls)) := by
  refine adds_bind (adds_resolve? hc) fun t ht => ?_
  obtain ⟨_ | ⟨t', cls⟩, hfound, rfl⟩ := ht
  · exact adds_throw
  · exact adds_pure ⟨cls, hfound⟩

/-- Resolution succeeds if the lookup finds a class. -/
theorem succeeds_resolve {n : String} {c : Chain} (hc : c ∈ F.made)
    {found : TypeRef × DefinedClass} (h : l₀.class? d n c = .ok (some found)) :
    Succeeds d F l₀ (resolve d n c) := by
  intro l hl
  rw [← hl.class?_eq hc] at h
  have hrun : Runs (resolve d n c) l found.1 (l.define found.1.scope found.1.name found.2) :=
    runs_resolve_iff.mpr ⟨found.2, h, rfl⟩
  exact ⟨found.1, by rw [hrun]⟩

/-! ### Passing on to queries -/

/-- A computation that is passed on from reflection to a query adds the same classes. -/
theorem adds_lift {asScan : LinkError → ScanError} {x : Linked α} {P : α → Prop}
    (h : Adds d F l₀ x P) : Adds d F l₀ (Query.lift asScan x) P := by
  intro l hl
  obtain ⟨hgrows, hpost⟩ := h l hl
  rw [outcome_lift]
  revert hgrows hpost
  rcases outcome x l with ⟨_ | a, m⟩ <;> intro hgrows hpost
  · exact ⟨hgrows, fun b hb => by cases hb⟩
  · exact ⟨hgrows, fun b hb => hpost b (by simpa using hb)⟩

/-- And it succeeds where it did in reflection. -/
theorem succeeds_lift {asScan : LinkError → ScanError} {x : Linked α}
    (h : Succeeds d F l₀ x) : Succeeds d F l₀ (Query.lift asScan x) := by
  intro l hl
  obtain ⟨a, m, hrun⟩ := h.runs hl
  exact ⟨a, by rw [outcome_lift, hrun]⟩

end Classpath
