import Classpath.Proofs.Delegation
import Classpath.Proofs.Runs

/-!
# What Resolution Means

`Linkage.class? l d name c` is the class that the chain `c` has under a name, when the
classes `l` are defined already and files are read from the disk `d`. It is a value and
defines nothing. Resolution is this lookup, followed by the definition of what it finds
(`outcome_resolve?`).

A lookup asks the loaders from the most distant one to the nearest, each for what it has by
itself (`Linkage.own?`): a class it defined before, or one that its entries hold. So it finds
nothing if no loader of the chain has the class, and otherwise the class of the most distant
loader that has one, provided that no loader further up fails.

## Main results

* `outcome_resolve?`: resolution as a lookup and a definition.
* `Linkage.class?_eq_none_iff`, `Linkage.class?_eq_some_iff`: where a class is found.
* `Linkage.class?_of_mem_chains`: what is found further up is found below.
-/

namespace Classpath

namespace Linkage

/-- The class that a loader has under a name without asking the loaders above it: the one it
defined before, or the one its entries hold. -/
def own? (l : Linkage) (d : Disk) (name : String) (c : Chain) :
    Except LinkError (Option DefinedClass) :=
  match l.find? c.scope name with
  | some cls => .ok (some cls)
  | none => do
    match ← c.loader.classBytes? d name with
    | none => return none
    | some bytes => return some ⟨← declarationOf name bytes, c⟩

/-- The class that a loader or one above it has under a name, those above it first, with the
type it is. -/
def classFrom? (l : Linkage) (d : Disk) (name : String) :
    Loader → List Loader → Except LinkError (Option (TypeRef × DefinedClass))
  | x, [] => (l.own? d name ⟨x, []⟩).map (·.map (⟨name, x.scope⟩, ·))
  | x, p :: ps => do
    match ← classFrom? l d name p ps with
    | some found => return some found
    | none => (l.own? d name ⟨x, p :: ps⟩).map (·.map (⟨name, x.scope⟩, ·))

/-- The class that a chain has under a name, with the type it is. -/
def class? (l : Linkage) (d : Disk) (name : String) (c : Chain) :
    Except LinkError (Option (TypeRef × DefinedClass)) :=
  l.classFrom? d name c.loader c.parents

/-! ### Defining a class -/

/-- What is found after a definition: the new class under its own name in its own scope, if there
was none before, and otherwise what was found before. -/
theorem find?_define (l : Linkage) (s s' : Scope) (n n' : String) (c : DefinedClass) :
    (l.define s n c).find? s' n' =
      if l.find? s n = none ∧ s' = s ∧ n' = n then some c else l.find? s' n' := by
  unfold define
  by_cases hdef : l.find? s n = none
  · rw [if_neg (by simp [hdef])]
    show (l.defined ++ [((s, n), c)]).lookup (s', n') = _
    rw [List.lookup_append]
    by_cases hkey : s' = s ∧ n' = n
    · obtain ⟨rfl, rfl⟩ := hkey
      have hnone : l.defined.lookup (s', n') = none := hdef
      simp [hdef, hnone]
    · have hne : ((s', n') == (s, n)) = false := by
        rw [beq_eq_false_iff_ne]
        intro h
        exact hkey (by simpa using h)
      rw [if_neg (fun h => hkey h.2)]
      simp [List.lookup_cons, hne, find?]
  · rw [if_pos (by simpa [Option.isSome_iff_ne_none] using hdef), if_neg (fun h => hdef h.1)]

/-- What is defined under a name already stays, and is not defined again. -/
theorem define_of_find? {l : Linkage} {s : Scope} {n : String} {c c' : DefinedClass}
    (h : l.find? s n = some c') : l.define s n c = l := by
  simp [define, h]

end Linkage

/-! ### Resolution as a lookup -/

/-- The outcome of resolution by what the lookup of the class comes to: what is found becomes
defined, and otherwise nothing does. -/
def resolved (l : Linkage) :
    Except LinkError (Option (TypeRef × DefinedClass)) →
      Except LinkError (Option TypeRef) × Linkage
  | .error e => (.error e, l)
  | .ok none => (.ok none, l)
  | .ok (some (t, cls)) => (.ok (some t), l.define t.scope t.name cls)

/-- The outcome at a single loader: the class that it has becomes defined in its scope. -/
theorem outcome_resolveOwn (d : Disk) (name : String) (c : Chain) (l : Linkage) :
    outcome (resolveOwn d name c) l =
      resolved l ((l.own? d name c).map (·.map (⟨name, c.scope⟩, ·))) := by
  unfold resolveOwn Linkage.own?
  simp only [outcome_bind, outcome_get]
  cases hfind : l.find? c.scope name with
  | some cls =>
      simp [resolved, Except.map, Linkage.define_of_find? hfind]
  | none =>
      simp only [Option.isSome_none, Bool.false_eq_true, if_false, outcome_bind, outcome_liftM]
      rcases c.loader.classBytes? d name with _ | _ | bytes
      · rfl
      · rfl
      · simp only [outcome_bind, outcome_liftM]
        rcases hdecl : declarationOf name bytes with _ | decl
        · simp [resolved, bind, Except.bind, Except.map, hdecl]
        · simp only [resolved, bind, Except.bind, Except.map, hdecl, pure, Except.pure]
          rfl

/-- **Resolution is a lookup** of the class, followed by the definition of what was found. -/
theorem outcome_resolve? (d : Disk) (name : String) (c : Chain) (l : Linkage) :
    outcome (resolve? d name c) l = resolved l (l.class? d name c) := by
  obtain ⟨x, ps⟩ := c
  unfold resolve? Linkage.class?
  induction ps generalizing x with
  | nil => exact outcome_resolveOwn d name ⟨x, []⟩ l
  | cons p ps ih =>
      simp only [resolveFrom, Linkage.classFrom?, outcome_bind, ih]
      rcases l.classFrom? d name p ps with _ | _ | ⟨t, cls⟩
      · rfl
      · exact outcome_resolveOwn d name ⟨x, p :: ps⟩ l
      · rfl

/-- The runs of resolution that find a type. -/
theorem runs_resolve?_some_iff {d : Disk} {name : String} {c : Chain} {t : TypeRef}
    {l l' : Linkage} :
    Runs (resolve? d name c) l (some t) l' ↔
      ∃ cls, l.class? d name c = .ok (some (t, cls)) ∧ l' = l.define t.scope t.name cls := by
  unfold Runs
  rw [outcome_resolve?]
  rcases l.class? d name c with _ | _ | ⟨t', cls⟩
  · simp [resolved]
  · simp [resolved]
  · simp only [resolved, Prod.mk.injEq, Except.ok.injEq, Option.some.injEq]
    constructor
    · rintro ⟨rfl, rfl⟩
      exact ⟨cls, ⟨rfl, rfl⟩, rfl⟩
    · rintro ⟨_, ⟨rfl, rfl⟩, rfl⟩
      exact ⟨rfl, rfl⟩

/-- The successes of resolution. -/
theorem runs_resolve_iff {d : Disk} {name : String} {c : Chain} {t : TypeRef}
    {l l' : Linkage} :
    Runs (resolve d name c) l t l' ↔
      ∃ cls, l.class? d name c = .ok (some (t, cls)) ∧ l' = l.define t.scope t.name cls := by
  unfold resolve
  rw [runs_bind, ← runs_resolve?_some_iff]
  constructor
  · rintro ⟨_ | t', m, hrun, h⟩
    · exact absurd h runs_throw
    · obtain ⟨rfl, rfl⟩ := runs_pure.mp h
      exact hrun
  · intro h
    exact ⟨some t, l', h, runs_pure.mpr ⟨rfl, rfl⟩⟩

/-- The runs that look up the class a type is. -/
theorem runs_definedClass_iff {s : Scope} {name : String} {cls : DefinedClass}
    {l l' : Linkage} :
    Runs (definedClass s name) l cls l' ↔ l.find? s name = some cls ∧ l' = l := by
  unfold definedClass
  simp only [runs_bind, runs_get]
  constructor
  · rintro ⟨_, _, ⟨rfl, rfl⟩, h⟩
    cases hfind : Linkage.find? _ s name with
    | none =>
        rw [hfind] at h
        exact absurd h runs_throw
    | some cls' =>
        rw [hfind] at h
        obtain ⟨rfl, rfl⟩ := runs_pure.mp h
        exact ⟨rfl, rfl⟩
  · rintro ⟨hfind, rfl⟩
    refine ⟨_, _, ⟨rfl, rfl⟩, ?_⟩
    rw [hfind]
    exact runs_pure.mpr ⟨rfl, rfl⟩

namespace Linkage

/-! ### Where a class is found -/

/-- A loader that delegates to no other has what it has itself. -/
theorem class?_single (l : Linkage) (d : Disk) (name : String) (x : Loader) :
    l.class? d name ⟨x, []⟩ = (l.own? d name ⟨x, []⟩).map (·.map (⟨name, x.scope⟩, ·)) := rfl

/-- **Parent first**: what the loaders above have counts, and only if they have nothing what the
loader has itself. -/
theorem class?_cons (l : Linkage) (d : Disk) (name : String) (x p : Loader)
    (ps : List Loader) :
    l.class? d name ⟨x, p :: ps⟩ =
      match l.class? d name ⟨p, ps⟩ with
      | .error e => .error e
      | .ok (some found) => .ok (some found)
      | .ok none => (l.own? d name ⟨x, p :: ps⟩).map (·.map (⟨name, x.scope⟩, ·)) := by
  show (l.classFrom? d name p ps >>= _) = _
  unfold class?
  rcases l.classFrom? d name p ps with _ | _ | found <;> rfl

/-- A loader that finds nothing yields no type. -/
theorem map_own?_eq_none_iff {x : Except LinkError (Option DefinedClass)} {t : TypeRef} :
    x.map (·.map (t, ·)) = .ok none ↔ x = .ok none := by
  rcases x with _ | _ | cls <;> simp [Except.map]

/-- A loader that finds a class yields it as the type that is given. -/
theorem map_own?_eq_some_iff {x : Except LinkError (Option DefinedClass)} {t t' : TypeRef}
    {cls : DefinedClass} :
    x.map (·.map (t, ·)) = .ok (some (t', cls)) ↔ x = .ok (some cls) ∧ t' = t := by
  rcases x with _ | _ | cls
  · simp [Except.map]
  · simp [Except.map]
  · simp only [Except.map, Option.map_some, Except.ok.injEq, Option.some.injEq, Prod.mk.injEq]
    exact ⟨fun h => ⟨h.2, h.1.symm⟩, fun h => ⟨h.2.symm, h.1⟩⟩

variable {l : Linkage} {d : Disk} {name : String} {c p : Chain} {t : TypeRef} {cls : DefinedClass}

/-- A lookup that finds nothing finds nothing at any loader of the chain. -/
theorem class?_eq_none_iff :
    l.class? d name c = .ok none ↔ ∀ p ∈ c.chains, l.own? d name p = .ok none := by
  obtain ⟨x, ps⟩ := c
  induction ps generalizing x with
  | nil =>
      rw [class?_single, map_own?_eq_none_iff, Chain.chains_single]
      simp
  | cons p ps ih =>
      rw [class?_cons, Chain.chains_cons, List.forall_mem_cons, ← ih p]
      rcases l.class? d name ⟨p, ps⟩ with _ | _ | found
      · simp
      · simp [map_own?_eq_none_iff]
      · simp

/-- Of some loaders in order, the nearest first, the most distant one that has a class under
a name is the scope of the type `t`, and has the class `cls`. -/
def FoundIn (l : Linkage) (d : Disk) (name : String) (chains : List Chain) (t : TypeRef)
    (cls : DefinedClass) : Prop :=
  ∃ nearer owner farther, chains = nearer ++ owner :: farther ∧
    (∀ p ∈ farther, l.own? d name p = .ok none) ∧
    l.own? d name owner = .ok (some cls) ∧ t = ⟨name, owner.scope⟩

/-- Among no loaders nothing is found. -/
theorem not_foundIn_nil : ¬l.FoundIn d name [] t cls := by
  rintro ⟨nearer, owner, farther, hsplit, -⟩
  simp at hsplit

/-- The nearest loader counts if those further up have nothing. -/
theorem foundIn_cons_iff {chains : List Chain} :
    l.FoundIn d name (c :: chains) t cls ↔
      ((∀ p ∈ chains, l.own? d name p = .ok none) ∧
        l.own? d name c = .ok (some cls) ∧ t = ⟨name, c.scope⟩) ∨
      l.FoundIn d name chains t cls := by
  constructor
  · rintro ⟨nearer, owner, farther, hsplit, hnone, hown, ht⟩
    cases nearer with
    | nil =>
        obtain ⟨rfl, rfl⟩ := List.cons.inj hsplit
        exact Or.inl ⟨hnone, hown, ht⟩
    | cons _ nearer =>
        exact Or.inr ⟨nearer, owner, farther, (List.cons.inj hsplit).2, hnone, hown, ht⟩
  · rintro (⟨hnone, hown, ht⟩ | ⟨nearer, owner, farther, rfl, hrest⟩)
    · exact ⟨[], c, chains, rfl, hnone, hown, ht⟩
    · exact ⟨c :: nearer, owner, farther, rfl, hrest⟩

/-- **Delegation.** A lookup that finds a class finds it at the most distant loader of the
chain that has it. -/
theorem class?_eq_some_iff :
    l.class? d name c = .ok (some (t, cls)) ↔ l.FoundIn d name c.chains t cls := by
  obtain ⟨x, ps⟩ := c
  induction ps generalizing x with
  | nil =>
      rw [class?_single, map_own?_eq_some_iff, Chain.chains_single, foundIn_cons_iff]
      simp [not_foundIn_nil, Chain.scope]
  | cons p ps ih =>
      rw [class?_cons, Chain.chains_cons, foundIn_cons_iff, ← ih p, ← class?_eq_none_iff]
      rcases l.class? d name ⟨p, ps⟩ with _ | _ | found
      · simp
      · simp [map_own?_eq_some_iff, Chain.scope]
      · simp

/-- What is found under a name is a type of this name. -/
theorem name_of_class? (h : l.class? d name c = .ok (some (t, cls))) : t.name = name := by
  obtain ⟨nearer, owner, farther, -, -, -, rfl⟩ := class?_eq_some_iff.mp h
  rfl

/-- What a loader finds above or at itself, every loader that delegates to it finds. -/
theorem class?_of_mem_chains {found : TypeRef × DefinedClass} (hp : p ∈ c.chains)
    (h : l.class? d name p = .ok (some found)) : l.class? d name c = .ok (some found) := by
  obtain ⟨x, ps⟩ := c
  induction ps generalizing x with
  | nil =>
      rw [Chain.chains_single, List.mem_singleton] at hp
      exact hp ▸ h
  | cons q ps ih =>
      rw [Chain.chains_cons, List.mem_cons] at hp
      obtain rfl | hp := hp
      · exact h
      · rw [class?_cons, ih q hp]

end Linkage

end Classpath
