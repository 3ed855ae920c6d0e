import Mathlib.Data.List.Forall2

/-!
# Successes of Computations That May Fail

When a sequence of steps that may fail succeeds, every step did. The lemmas here take the
success of a whole apart into the successes of its parts, for the ways in which the programs
put steps together: one after another, with the error translated, and over a list.

## Main results

* `bind_eq_ok_iff`, `map_eq_ok_iff`, `mapError_eq_ok_iff`: successes of combined steps.
* `mapM_eq_ok_iff`: a step over a list succeeds if it does at each element.
* `mapM_eq_ok_of_forall₂`: a step that leads back to what its elements correspond to.
* `bind_congr_ok`, `mapM_congr`: what combined steps depend on.
* `mapM_eq_error_iff`: otherwise it fails as it does at the first element at which it fails.
* `mapM_eq_map`: two steps whose results correspond.
* `Corresponds.bind`: two steps that succeed together, with corresponding results, or fail together.
* `Corresponds.bind_eq`, `mapM_congr_of_forall₂`: what two such steps have in common.
* `split_of_forall₂`, `split_of_flatten_eq`: where an element of the results stems from.
-/

namespace Classpath

variable {ε ε' α β : Type}

/-- Two steps succeed together if the first one does and the second one does with its result. -/
theorem bind_eq_ok_iff {x : Except ε α} {f : α → Except ε β} {b : β} :
    x >>= f = .ok b ↔ ∃ a, x = .ok a ∧ f a = .ok b := by
  rcases x with _ | a <;> simp [bind, Except.bind]

/-- A step whose result is changed succeeds if the step does. -/
theorem map_eq_ok_iff {x : Except ε α} {f : α → β} {b : β} :
    x.map f = .ok b ↔ ∃ a, x = .ok a ∧ f a = b := by
  rcases x with _ | a <;> simp [Except.map]

/-- To translate the error of a step changes nothing where it succeeds. -/
theorem mapError_eq_ok_iff {x : Except ε α} {f : ε → ε'} {a : α} :
    x.mapError f = .ok a ↔ x = .ok a := by
  rcases x with _ | a <;> simp [Except.mapError]

/-- A step whose error is forgotten yields a value where it succeeds. -/
theorem toOption_eq_some_iff {x : Except ε α} {a : α} : x.toOption = some a ↔ x = .ok a := by
  rcases x with _ | a <;> simp [Except.toOption]

theorem pure_eq_ok_iff {a b : α} : (pure a : Except ε α) = .ok b ↔ b = a := by
  simp [pure, Except.pure, eq_comm]

/-- What comes of two steps depends on what the second one does with the result of the first. -/
theorem bind_congr_ok {x : Except ε α} {f g : α → Except ε β} (h : ∀ a, x = .ok a → f a = g a) :
    x >>= f = x >>= g := by
  rcases x with _ | a
  · rfl
  · exact h a rfl

/-- A step over a list succeeds if it does at each element, with the results in order. -/
theorem mapM_eq_ok_iff {f : α → Except ε β} {as : List α} {bs : List β} :
    as.mapM f = .ok bs ↔ List.Forall₂ (fun a b => f a = .ok b) as bs := by
  induction as generalizing bs with
  | nil => simp [pure_eq_ok_iff]
  | cons a as ih =>
      rw [List.mapM_cons]
      simp only [bind_eq_ok_iff, pure_eq_ok_iff, ih, List.forall₂_cons_left_iff]
      constructor
      · rintro ⟨b, hb, bs', hbs, rfl⟩
        exact ⟨b, bs', hb, hbs, rfl⟩
      · rintro ⟨b, bs', hb, hbs, rfl⟩
        exact ⟨b, hb, bs', hbs, rfl⟩

/-- A step that leads back from each element of a list to what it corresponds to. -/
theorem mapM_eq_ok_of_forall₂ {R : β → α → Prop} {f : α → Except ε β} {as : List α}
    {bs : List β} (h : List.Forall₂ R bs as) (hf : ∀ b ∈ bs, ∀ a, R b a → f a = .ok b) :
    as.mapM f = .ok bs := by
  rw [mapM_eq_ok_iff]
  induction h with
  | nil => exact List.Forall₂.nil
  | cons hhead _ ih =>
      obtain ⟨hb, hbs⟩ := List.forall_mem_cons.mp hf
      exact List.Forall₂.cons (hb _ hhead) (ih hbs)

/-! ### Lists that correspond -/

section Correspondence

variable {R : α → β → Prop} {as : List α} {bs : List β}

/-- In lists that correspond, each element of the second one has a partner in the first. -/
theorem exists_left_of_forall₂ (h : List.Forall₂ R as bs) {b : β} (hb : b ∈ bs) :
    ∃ a ∈ as, R a b := by
  induction h with
  | nil => cases hb
  | cons hhead _ ih =>
      obtain rfl | hb := List.mem_cons.mp hb
      · exact ⟨_, List.mem_cons_self, hhead⟩
      · obtain ⟨a, ha, hr⟩ := ih hb
        exact ⟨a, List.mem_cons_of_mem _ ha, hr⟩

/-- And each element of the first one has a partner in the second. -/
theorem exists_right_of_forall₂ (h : List.Forall₂ R as bs) {a : α} (ha : a ∈ as) :
    ∃ b ∈ bs, R a b := by
  induction h with
  | nil => cases ha
  | cons hhead _ ih =>
      obtain rfl | ha := List.mem_cons.mp ha
      · exact ⟨_, List.mem_cons_self, hhead⟩
      · obtain ⟨b, hb, hr⟩ := ih ha
        exact ⟨b, List.mem_cons_of_mem _ hb, hr⟩

/-- A list that corresponds to one with a marked element has the element it is from. -/
theorem split_of_forall₂ {before after : List β} {b : β}
    (h : List.Forall₂ R as (before ++ b :: after)) :
    ∃ front a back, as = front ++ a :: back ∧ List.Forall₂ R front before ∧ R a b := by
  induction before generalizing as with
  | nil =>
      cases h with
      | cons hhead _ => exact ⟨[], _, _, rfl, List.Forall₂.nil, hhead⟩
  | cons b' before ih =>
      cases h with
      | @cons a' _ as' _ hhead htail =>
          obtain ⟨front, a, back, rfl, hfront, ha⟩ := ih htail
          exact ⟨a' :: front, a, back, rfl, List.Forall₂.cons hhead hfront, ha⟩

end Correspondence

/-- What a step over a list yields stems from its elements. -/
theorem exists_of_mem_mapM {f : α → Except ε β} {as : List α} {bs : List β}
    (h : as.mapM f = .ok bs) {b : β} (hb : b ∈ bs) : ∃ a ∈ as, f a = .ok b :=
  exists_left_of_forall₂ (mapM_eq_ok_iff.mp h) hb

/-- A step over a list that succeeds yields something for each element. -/
theorem exists_mem_of_mapM {f : α → Except ε β} {as : List α} {bs : List β}
    (h : as.mapM f = .ok bs) {a : α} (ha : a ∈ as) : ∃ b ∈ bs, f a = .ok b :=
  exists_right_of_forall₂ (mapM_eq_ok_iff.mp h) ha

/-- An element of one of some lists, one behind the other, with what stands before it. -/
theorem split_of_flatten_eq {groups : List (List α)} {before after : List α} {a : α}
    (h : groups.flatten = before ++ a :: after) :
    ∃ front rs rs' back, groups = front ++ (rs ++ a :: rs') :: back ∧
      before = front.flatten ++ rs := by
  induction groups generalizing before with
  | nil => simp at h
  | cons g groups ih =>
      rw [List.flatten_cons, List.append_eq_append_iff] at h
      obtain ⟨rest, hbefore, hrest⟩ | ⟨rest, hg, hrest⟩ := h
      · obtain ⟨front, rs, rs', back, rfl, rfl⟩ := ih hrest
        exact ⟨g :: front, rs, rs', back, rfl, by simp [hbefore]⟩
      · cases rest with
        | nil =>
            have hnil : groups.flatten = [] ++ a :: after := hrest.symm
            obtain ⟨front, rs, rs', back, rfl, hfront⟩ := ih hnil
            refine ⟨g :: front, rs, rs', back, rfl, ?_⟩
            rw [List.flatten_cons, List.append_assoc, ← hfront, hg, List.append_nil,
              List.append_nil]
        | cons b rest =>
            obtain ⟨rfl, -⟩ := List.cons.inj hrest
            exact ⟨[], before, rest, groups, by rw [hg]; rfl, by simp⟩

/-- Two steps over lists that correspond do the same if they do at the elements. -/
theorem mapM_congr_of_forall₂ {γ : Type} {R : α → γ → Prop} {f : α → Except ε β}
    {g : γ → Except ε β} {as : List α} {cs : List γ} (h : List.Forall₂ R as cs)
    (hfg : ∀ a ∈ as, ∀ c, R a c → f a = g c) : as.mapM f = cs.mapM g := by
  induction h with
  | nil => rfl
  | cons hhead _ ih =>
      obtain ⟨ha, has⟩ := List.forall_mem_cons.mp hfg
      rw [List.mapM_cons, List.mapM_cons, ha _ hhead, ih has]

/-- A step over a list depends on what it does at the elements. -/
theorem mapM_congr {f g : α → Except ε β} {as : List α} (h : ∀ a ∈ as, f a = g a) :
    as.mapM f = as.mapM g :=
  mapM_congr_of_forall₂ (R := Eq) (List.forall₂_refl as) fun a ha _ heq => heq ▸ h a ha

/-- A step whose results are those of another one, each changed in the same way. -/
theorem mapM_eq_map {γ : Type} {f : α → Except ε β} {g : α → Except ε γ} {k : β → γ}
    {as : List α} (h : ∀ a ∈ as, g a = (f a).map k) :
    as.mapM g = (as.mapM f).map (List.map k) := by
  induction as with
  | nil => rfl
  | cons a as ih =>
      obtain ⟨ha, has⟩ := List.forall_mem_cons.mp h
      rw [List.mapM_cons, List.mapM_cons, ha, ih has]
      rcases f a with _ | b
      · rfl
      · rcases as.mapM f with _ | bs <;> rfl

/-! ### Failures -/

/-- Two steps fail together with the error of the first one, or with that of the second if the
first succeeds. -/
theorem bind_eq_error_iff {x : Except ε α} {f : α → Except ε β} {e : ε} :
    x >>= f = .error e ↔ x = .error e ∨ ∃ a, x = .ok a ∧ f a = .error e := by
  rcases x with _ | a <;> simp [bind, Except.bind]

/-- A step succeeds at the elements of a list up to one, at which it fails. -/
def FirstFailure (f : α → Except ε β) (as : List α) (e : ε) : Prop :=
  ∃ before a after, as = before ++ a :: after ∧ (∀ b ∈ before, ∃ r, f b = .ok r) ∧ f a = .error e

theorem not_firstFailure_nil {f : α → Except ε β} {e : ε} : ¬FirstFailure f [] e := by
  rintro ⟨before, a, after, hsplit, -⟩
  simp at hsplit

/-- A step fails first at the element in front, or succeeds there and fails first at one behind it.
-/
theorem firstFailure_cons_iff {f : α → Except ε β} {a : α} {as : List α} {e : ε} :
    FirstFailure f (a :: as) e ↔
      f a = .error e ∨ (∃ r, f a = .ok r) ∧ FirstFailure f as e := by
  constructor
  · rintro ⟨before, a', after, hsplit, hbefore, hfail⟩
    cases before with
    | nil =>
        obtain ⟨rfl, -⟩ := List.cons.inj hsplit
        exact Or.inl hfail
    | cons b before =>
        obtain ⟨rfl, hrest⟩ := List.cons.inj hsplit
        obtain ⟨hb, hbefore⟩ := List.forall_mem_cons.mp hbefore
        exact Or.inr ⟨hb, before, a', after, hrest, hbefore, hfail⟩
  · rintro (hfail | ⟨ha, before, a', after, rfl, hbefore, hfail⟩)
    · exact ⟨[], a, as, rfl, by simp, hfail⟩
    · exact ⟨a :: before, a', after, rfl, List.forall_mem_cons.mpr ⟨ha, hbefore⟩, hfail⟩

/-- In two lists one behind the other, the second one counts if the step succeeds on the first. -/
theorem firstFailure_append_iff {f : α → Except ε β} {as bs : List α} {e : ε} :
    FirstFailure f (as ++ bs) e ↔
      FirstFailure f as e ∨ (∀ a ∈ as, ∃ r, f a = .ok r) ∧ FirstFailure f bs e := by
  induction as with
  | nil => simp [not_firstFailure_nil]
  | cons a as ih =>
      rw [List.cons_append, firstFailure_cons_iff, firstFailure_cons_iff, ih,
        List.forall_mem_cons]
      tauto

/-- A step over a list fails as it does at the first element at which it fails. -/
theorem mapM_eq_error_iff {f : α → Except ε β} {as : List α} {e : ε} :
    as.mapM f = .error e ↔ FirstFailure f as e := by
  induction as with
  | nil => simp [not_firstFailure_nil, pure, Except.pure]
  | cons a as ih =>
      rw [List.mapM_cons, bind_eq_error_iff, firstFailure_cons_iff]
      refine or_congr_right ⟨?_, ?_⟩
      · rintro ⟨b, hb, hrest⟩
        obtain hrest | ⟨bs, -, hpure⟩ := bind_eq_error_iff.mp hrest
        · exact ⟨⟨b, hb⟩, ih.mp hrest⟩
        · cases hpure
      · rintro ⟨⟨b, hb⟩, hrest⟩
        exact ⟨b, hb, bind_eq_error_iff.mpr (Or.inl (ih.mpr hrest))⟩

/-- A step succeeds at every element of a list, or fails at a first one. -/
theorem forall_ok_or_firstFailure (f : α → Except ε β) (as : List α) :
    (∀ a ∈ as, ∃ r, f a = .ok r) ∨ ∃ e, FirstFailure f as e := by
  cases h : as.mapM f with
  | error e => exact Or.inr ⟨e, mapM_eq_error_iff.mp h⟩
  | ok bs =>
      refine Or.inl fun a ha => ?_
      obtain ⟨b, -, hb⟩ := exists_mem_of_mapM h ha
      exact ⟨b, hb⟩

/-- A step over a list succeeds if it does at each element. -/
theorem exists_mapM_eq_ok_iff {f : α → Except ε β} {as : List α} :
    (∃ bs, as.mapM f = .ok bs) ↔ ∀ a ∈ as, ∃ b, f a = .ok b := by
  constructor
  · rintro ⟨bs, h⟩ a ha
    obtain ⟨b, -, hb⟩ := exists_mem_of_mapM h ha
    exact ⟨b, hb⟩
  · intro h
    cases hbs : as.mapM f with
    | ok bs => exact ⟨bs, rfl⟩
    | error e =>
        obtain ⟨before, a, after, rfl, -, hfail⟩ := mapM_eq_error_iff.mp hbs
        obtain ⟨b, hb⟩ := h a (by simp)
        rw [hfail] at hb
        cases hb

/-- The first element of a list of which something holds. -/
def IsFirst (P : α → Prop) (as : List α) (a : α) : Prop :=
  ∃ before after, as = before ++ a :: after ∧ P a ∧ ∀ b ∈ before, ¬P b

/-- The first element of which something holds is one of the list. -/
theorem IsFirst.mem {P : α → Prop} {as : List α} {a : α} (h : IsFirst P as a) : a ∈ as := by
  obtain ⟨before, after, rfl, -⟩ := h
  simp

theorem IsFirst.holds {P : α → Prop} {as : List α} {a : α} (h : IsFirst P as a) : P a := by
  obtain ⟨before, after, -, ha, -⟩ := h
  exact ha

/-- A step that fails just where something holds fails as it does at the first such element. -/
theorem IsFirst.firstFailure {P : α → Prop} {as : List α} {a : α} (h : IsFirst P as a)
    {f : α → Except ε β} {e : α → ε} (hfails : ∀ b, P b → f b = .error (e b))
    (hsucceeds : ∀ b, ¬P b → ∃ r, f b = .ok r) : FirstFailure f as (e a) := by
  obtain ⟨before, after, hsplit, ha, hbefore⟩ := h
  exact ⟨before, a, after, hsplit, fun b hb => hsucceeds b (hbefore b hb), hfails a ha⟩

/-! ### Two steps that succeed together -/

/-- Two steps both succeed, with corresponding results, or both fail, with corresponding errors. -/
inductive Corresponds (E : ε → ε' → Prop) (R : α → β → Prop) : Except ε α → Except ε' β → Prop where
  | ok {a : α} {b : β} (h : R a b) : Corresponds E R (.ok a) (.ok b)
  | error {e : ε} {e' : ε'} (h : E e e') : Corresponds E R (.error e) (.error e')

namespace Corresponds

variable {γ δ : Type} {E : ε → ε' → Prop} {R : α → β → Prop} {S : γ → δ → Prop}
  {x : Except ε α} {y : Except ε' β} {f : α → Except ε γ} {g : β → Except ε' δ}

/-- **Sequences correspond** if their first steps do, and their second ones with results that do.
-/
theorem bind (h : Corresponds E R x y) (hfg : ∀ a b, R a b → Corresponds E S (f a) (g b)) :
    Corresponds E S (x >>= f) (y >>= g) := by
  cases h with
  | ok h => exact hfg _ _ h
  | error h => exact error h

/-- What comes of steps that succeed together is the same if the next steps do the same. -/
theorem bind_eq {y : Except ε β} {f : α → Except ε γ} {g : β → Except ε γ}
    (h : Corresponds Eq R x y) (hfg : ∀ a b, x = .ok a → R a b → f a = g b) :
    x >>= f = y >>= g := by
  cases h with
  | ok h => exact hfg _ _ rfl h
  | error h => rw [h]; rfl

/-- A step corresponds to itself, if each result does. -/
theorem refl {R : α → α → Prop} (hR : ∀ a, R a a) (x : Except ε α) : Corresponds Eq R x x := by
  rcases x with e | a
  · exact error rfl
  · exact ok (hR a)

/-- If two steps correspond with the same errors, they do with these translated in the same way. -/
theorem mapError {y : Except ε β} (h : Corresponds Eq R x y) (k : ε → ε') :
    Corresponds Eq R (x.mapError k) (y.mapError k) := by
  cases h with
  | ok h => exact ok h
  | error h => exact error (congrArg k h)

/-- A step that fails as another one does and otherwise changes its result. -/
theorem of_eq_map {R : α → β → Prop} {x : Except ε α} {y : Except ε β} {k : α → β}
    (h : y = x.map k) (hk : ∀ a, R a (k a)) : Corresponds Eq R x y := by
  subst h
  rcases x with e | a
  · exact error rfl
  · exact ok (hk a)

/-- Two steps that succeed together, whatever their errors. -/
theorem of_ok_iff (hx : ∀ a, x = .ok a → ∃ b, y = .ok b ∧ R a b)
    (hy : ∀ b, y = .ok b → ∃ a, x = .ok a) : Corresponds (fun _ _ => True) R x y := by
  rcases x with e | a
  · rcases y with e' | b
    · exact error trivial
    · obtain ⟨a, ha⟩ := hy b rfl
      cases ha
  · obtain ⟨b, rfl, h⟩ := hx a rfl
    exact ok h

/-- Where the one step succeeds the other one does, with a result that corresponds. -/
theorem exists_of_ok (h : Corresponds E R x y) {a : α} (hx : x = .ok a) :
    ∃ b, y = .ok b ∧ R a b := by
  cases h with
  | ok h =>
      cases hx
      exact ⟨_, rfl, h⟩
  | error h => cases hx

theorem imp {E' : ε → ε' → Prop} (h : Corresponds E R x y) (hE : ∀ e e', E e e' → E' e e') :
    Corresponds E' R x y := by
  cases h with
  | ok h => exact ok h
  | error h => exact error (hE _ _ h)

end Corresponds

end Classpath
