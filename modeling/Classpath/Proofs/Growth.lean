import Classpath.Proofs.Delegation
import Classpath.Proofs.Resolution

/-!
# How the Defined Classes Grow

Computations only ever add classes, and a class that one of them adds is a class that a
loader of the collection reads from the disk: `Linkage.Grows d F l l'`. Since a scope belongs
to one loader, a class that was added is the very class that a lookup at its loader found
before, so lookups come to the same before and after (`Linkage.Grows.class?_eq`). In a whole
run, every lookup can be read at the classes the run began with.

Classes that were all added on one disk are *faithful* to it. For these a lookup is one in
the files alone.

## Main results

* `Linkage.Grows.class?_eq`: lookups do not change while classes are added.
* `Linkage.grows_define`: the definition of what was found adds a class.
* `Linkage.own?_empty_eq_some_iff`: the class that a loader reads from the disk.
* `Linkage.class?_empty_spec`: what is known of a class that is found.
-/

namespace Classpath

namespace Linkage

variable {d : Disk} {F : Loaders} {l l' l'' : Linkage}

/-! ### What a loader has by itself -/

/-- A loader that defined a class under a name before has it under this name. -/
theorem own?_of_find? {n : String} {c : Chain} {cls : DefinedClass}
    (h : l.find? c.scope n = some cls) : l.own? d n c = .ok (some cls) := by
  simp [own?, h]

/-- A class that a loader has is defined already, or it is one that the loader reads. -/
theorem own?_eq_some_cases {n : String} {c : Chain} {cls : DefinedClass}
    (h : l.own? d n c = .ok (some cls)) :
    l.find? c.scope n = some cls ∨ ({} : Linkage).own? d n c = .ok (some cls) := by
  cases hfind : l.find? c.scope n with
  | some cls' =>
      rw [own?_of_find? hfind] at h
      exact Or.inl (by simpa using h)
  | none =>
      simp only [own?, hfind] at h
      exact Or.inr h

/-- Where nothing is defined, a loader has what the class file among its entries declares. -/
theorem own?_empty (d : Disk) (n : String) (c : Chain) :
    ({} : Linkage).own? d n c =
      (do
        match ← c.loader.classBytes? d n with
        | none => return none
        | some bytes => return some ⟨← declarationOf n bytes, c⟩) := rfl

/-- The class that a loader has under a name, when nothing is defined yet, is the one in the
class file that its entries hold. -/
theorem own?_empty_eq_some_iff {n : String} {c : Chain} {cls : DefinedClass} :
    ({} : Linkage).own? d n c = .ok (some cls) ↔
      ∃ bytes decl, c.loader.classBytes? d n = .ok (some bytes) ∧
        ClassDecl.ofBytes bytes = .ok decl ∧ decl.name = n ∧ cls = ⟨decl, c⟩ := by
  rw [own?_empty, bind_eq_ok_iff]
  constructor
  · rintro ⟨_ | bytes, hbytes, h⟩
    · cases h
    · obtain ⟨decl, hdecl, h⟩ := bind_eq_ok_iff.mp h
      obtain ⟨decl', hparse, hname⟩ := bind_eq_ok_iff.mp hdecl
      split at hname
      · rename_i hcond
        cases hname
        cases h
        exact ⟨bytes, decl, hbytes, mapError_eq_ok_iff.mp hparse, hcond, rfl⟩
      · cases hname
  · rintro ⟨bytes, decl, hbytes, hdecl, rfl, rfl⟩
    refine ⟨some bytes, hbytes, bind_eq_ok_iff.mpr ⟨decl, ?_, rfl⟩⟩
    exact bind_eq_ok_iff.mpr ⟨decl, mapError_eq_ok_iff.mpr hdecl, by rw [if_pos rfl]; rfl⟩

/-- So it has nothing if there is no such file. -/
theorem own?_empty_eq_none_iff {n : String} {c : Chain} :
    ({} : Linkage).own? d n c = .ok none ↔ c.loader.classBytes? d n = .ok none := by
  rw [own?_empty, bind_eq_ok_iff]
  constructor
  · rintro ⟨_ | bytes, hbytes, h⟩
    · exact hbytes
    · obtain ⟨decl, -, h⟩ := bind_eq_ok_iff.mp h
      cases h
  · intro hbytes
    exact ⟨none, hbytes, rfl⟩

/-! ### Classes that are added -/

/-- The classes `l'` are those of `l` and others that loaders of `F` read from the disk. -/
structure Grows (d : Disk) (F : Loaders) (l l' : Linkage) : Prop where
  kept : ∀ {s : Scope} {n : String} {c : DefinedClass},
    l.find? s n = some c → l'.find? s n = some c
  added : ∀ {s : Scope} {n : String} {c : DefinedClass}, l'.find? s n = some c →
    l.find? s n = some c ∨
      (c.chain ∈ F.made ∧ c.chain.scope = s ∧ l.own? d n c.chain = .ok (some c))

@[refl] theorem Grows.refl (d : Disk) (F : Loaders) (l : Linkage) : l.Grows d F l :=
  ⟨id, Or.inl⟩

/-- What a loader has under a name by itself does not change while classes are added. -/
theorem Grows.own?_eq (h : l.Grows d F l') {n : String} {c : Chain} (hc : c ∈ F.made) :
    l'.own? d n c = l.own? d n c := by
  cases hold : l.find? c.scope n with
  | some cls => rw [own?_of_find? hold, own?_of_find? (h.kept hold)]
  | none =>
      cases hnew : l'.find? c.scope n with
      | none => simp [own?, hold, hnew]
      | some cls =>
          obtain hcls | ⟨hmade, hscope, hown⟩ := h.added hnew
          · rw [hold] at hcls
            cases hcls
          · rw [F.eq_of_scope_eq hmade hc hscope] at hown
            rw [hown, own?_of_find? hnew]

/-- **Lookups do not change** while classes are added. -/
theorem Grows.class?_eq (h : l.Grows d F l') {n : String} {c : Chain} (hc : c ∈ F.made) :
    l'.class? d n c = l.class? d n c := by
  obtain ⟨x, ps⟩ := c
  induction ps generalizing x with
  | nil => rw [class?_single, class?_single, h.own?_eq hc]
  | cons p ps ih => rw [class?_cons, class?_cons, ih p (F.parent_mem hc), h.own?_eq hc]

/-- Classes that grew may grow further. -/
@[trans] theorem Grows.trans (h : l.Grows d F l') (h' : l'.Grows d F l'') :
    l.Grows d F l'' where
  kept hfind := h'.kept (h.kept hfind)
  added hfind := by
    obtain hold | ⟨hmade, hscope, hown⟩ := h'.added hfind
    · exact h.added hold
    · exact Or.inr ⟨hmade, hscope, by rwa [h.own?_eq hmade] at hown⟩

/-- **The definition of what was found** adds a class. -/
theorem grows_define {n : String} {c : Chain} {t : TypeRef} {cls : DefinedClass}
    (hc : c ∈ F.made) (h : l.class? d n c = .ok (some (t, cls))) :
    l.Grows d F (l.define t.scope t.name cls) := by
  obtain ⟨nearer, owner, farther, hsplit, -, hown, rfl⟩ := class?_eq_some_iff.mp h
  have howner : owner ∈ F.made := F.mem_of_mem_chains hc (by rw [hsplit]; simp)
  constructor
  · intro s n' c' hfind
    rw [find?_define]
    split
    · rename_i hcond
      obtain ⟨hnone, rfl, rfl⟩ := hcond
      rw [hnone] at hfind
      cases hfind
    · exact hfind
  · intro s n' c' hfind
    rw [find?_define] at hfind
    split at hfind
    · rename_i hcond
      obtain ⟨hnone, rfl, rfl⟩ := hcond
      cases hfind
      obtain hdef | hread := own?_eq_some_cases hown
      · exact Or.inl hdef
      · obtain ⟨_, _, -, -, -, rfl⟩ := own?_empty_eq_some_iff.mp hread
        exact Or.inr ⟨howner, rfl, hown⟩
    · exact Or.inl hfind

/-- After its definition, what was found is the class that is defined. -/
theorem find?_define_of_class? {n : String} {c : Chain} {t : TypeRef} {cls : DefinedClass}
    (h : l.class? d n c = .ok (some (t, cls))) :
    (l.define t.scope t.name cls).find? t.scope t.name = some cls := by
  obtain ⟨nearer, owner, farther, -, -, hown, rfl⟩ := class?_eq_some_iff.mp h
  rw [find?_define]
  split
  · rfl
  · rename_i hcond
    cases hfind : l.find? owner.scope n with
    | none => exact absurd ⟨hfind, rfl, rfl⟩ hcond
    | some cls' =>
        rw [own?_of_find? hfind] at hown
        simpa using hown

/-! ### Classes from one disk -/

/-- All classes that are defined were read from the disk as it is. -/
def Faithful (d : Disk) (F : Loaders) (l : Linkage) : Prop :=
  ({} : Linkage).Grows d F l

/-- Classes that are what the loaders have on the disk stay so while others are added from it. -/
theorem Faithful.grows (h : l.Faithful d F) (hgrows : l.Grows d F l') : l'.Faithful d F :=
  Grows.trans h hgrows

/-- A lookup is one in the files alone. -/
theorem Faithful.class?_eq (h : l.Faithful d F) {n : String} {c : Chain} (hc : c ∈ F.made) :
    l.class? d n c = ({} : Linkage).class? d n c :=
  Grows.class?_eq h hc

/-- **What is known of a class that is found**: it is defined by a loader of the chain. -/
theorem class?_empty_spec {n : String} {c : Chain} {t : TypeRef} {cls : DefinedClass}
    (h : ({} : Linkage).class? d n c = .ok (some (t, cls))) :
    cls.chain ∈ c.chains ∧ t = ⟨n, cls.chain.scope⟩ ∧ cls.decl.name = n := by
  obtain ⟨nearer, owner, farther, hsplit, -, hown, rfl⟩ := class?_eq_some_iff.mp h
  obtain ⟨bytes, decl, -, -, hname, rfl⟩ := own?_empty_eq_some_iff.mp hown
  exact ⟨by rw [hsplit]; simp, rfl, hname⟩

end Linkage

end Classpath
