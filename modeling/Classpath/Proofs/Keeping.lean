import Classpath.Proofs.AnnotationQueries
import Classpath.Proofs.History

/-!
# What Computations Leave Behind

Types and members are names and scopes only, and are looked up whenever something is asked about
them. What they speak of is the class that is defined under these by then. So what has to be known
of a computation that yields them is which classes it leaves behind, whatever it is started with.

`Keeps d F P x Q` says so: started with classes that are sound and satisfy `P`, the computation `x`
only adds classes that loaders of `F` read from the disk `d`, also when it fails, and if it ends
with a value, this and the classes by then satisfy `Q`. Since classes are added only, what holds of
the classes at one time and is kept while classes are added holds at later times of the same
computation as well (`Keeps.frame`).

The classes need not stem from this disk. `Linkage.Sound` is what holds of them on whatever disks
they were read: each bears the name it is defined under, its loader is the one of its scope, and
it stood in a class file.

## Main results

* `Linkage.Sound.grows`: classes stay sound while others are added.
* `keeps_resolve`, `keeps_supertypes`: every type that is found is one whose class is defined.
* `keeps_methods`, `keeps_fields`: every member that is found is one of a class that is defined.
* `Linkage.Sound.grows_perform`: one operation, on any disk.
-/

namespace Classpath

variable {ε α β : Type} {d : Disk} {F : Loaders} {l l' : Linkage}

open Linkage (Defines)

namespace Linkage

/-- Every class that is defined bears the name it is defined under, belongs to the loader of its
scope, and was read from a class file. -/
structure Sound (F : Loaders) (l : Linkage) : Prop where
  made : ∀ {s : Scope} {n : String} {c : DefinedClass}, l.find? s n = some c →
    c.chain ∈ F.made ∧ c.chain.scope = s
  named : ∀ {s : Scope} {n : String} {c : DefinedClass}, l.find? s n = some c → c.decl.name = n
  read : ∀ {s : Scope} {n : String} {c : DefinedClass}, l.find? s n = some c →
    ∃ bytes, ClassDecl.ofBytes bytes = .ok c.decl

theorem sound_empty : ({} : Linkage).Sound F where
  made h := by cases h
  named h := by cases h
  read h := by cases h

/-- **Classes stay sound** while others are added. -/
theorem Sound.grows (hl : l.Sound F) (h : l.Grows d F l') : l'.Sound F := by
  have hcases : ∀ {s : Scope} {n : String} {c : DefinedClass}, l'.find? s n = some c →
      l.find? s n = some c ∨ c.IsRead d F s n := by
    intro s n c hfind
    obtain hold | ⟨hmade, rfl, hown⟩ := h.added hfind
    · exact Or.inl hold
    · exact (own?_eq_some_cases hown).imp_right fun hread => ⟨hmade, rfl, hread⟩
  constructor
  · intro s n c hfind
    obtain hold | hread := hcases hfind
    · exact hl.made hold
    · exact ⟨hread.made, hread.scope_eq⟩
  · intro s n c hfind
    obtain hold | hread := hcases hfind
    · exact hl.named hold
    · obtain ⟨bytes, -, -, hname⟩ := hread.exists_classFile
      exact hname
  · intro s n c hfind
    obtain hold | hread := hcases hfind
    · exact hl.read hold
    · obtain ⟨bytes, -, hdecl, -⟩ := hread.exists_classFile
      exact ⟨bytes, hdecl⟩

end Linkage

/-! ### Triples -/

/-- Started with sound classes that satisfy `P`, `x` only adds classes that are read from the
disk, and the value it ends with and the classes by then satisfy `Q`. -/
def Keeps (d : Disk) (F : Loaders) (P : Linkage → Prop) (x : ExceptT ε (StateM Linkage) α)
    (Q : α → Linkage → Prop) : Prop :=
  ∀ l : Linkage, l.Sound F → P l →
    l.Grows d F (outcome x l).2 ∧ ∀ a, (outcome x l).1 = .ok a → Q a (outcome x l).2

section Triples

variable {P P' R : Linkage → Prop} {Q Q' : α → Linkage → Prop} {T : β → Linkage → Prop}
  {x : ExceptT ε (StateM Linkage) α} {f : α → ExceptT ε (StateM Linkage) β}

/-- What a run leaves behind: the classes from before, others that are sound, and a value of which
what was shown holds. -/
theorem Keeps.of_runs (h : Keeps d F P x Q) (hl : l.Sound F) (hP : P l) {a : α}
    (hrun : Runs x l a l') : l.Grows d F l' ∧ l'.Sound F ∧ Q a l' := by
  obtain ⟨hgrows, hpost⟩ := h l hl hP
  rw [hrun] at hgrows hpost
  exact ⟨hgrows, hl.grows hgrows, hpost a rfl⟩

/-- What is asked of the classes before may be more, and what is said of value and classes
afterwards less. -/
theorem Keeps.mono (h : Keeps d F P x Q) (hP : ∀ l, P' l → P l) (hQ : ∀ a l, Q a l → Q' a l) :
    Keeps d F P' x Q' := by
  intro l hl hPl
  obtain ⟨hgrows, hpost⟩ := h l hl (hP l hPl)
  exact ⟨hgrows, fun a ha => hQ a _ (hpost a ha)⟩

/-- A value keeps all classes, and nothing new is said of them. -/
theorem keeps_pure {a : α} (h : ∀ l, P l → Q a l) :
    Keeps d F P (pure a : ExceptT ε (StateM Linkage) α) Q := by
  intro l _ hP
  refine ⟨Linkage.Grows.refl .., fun b hb => ?_⟩
  cases hb
  exact h l hP

theorem keeps_throw {e : ε} : Keeps d F P (throw e : ExceptT ε (StateM Linkage) α) Q := by
  intro l _ _
  exact ⟨Linkage.Grows.refl .., fun b hb => by cases hb⟩

/-- **Sequences**: the second part is started with what the first one leaves behind. -/
theorem keeps_bind (hx : Keeps d F P x Q)
    (hf : ∀ a, (∃ l, l.Sound F ∧ Q a l) → Keeps d F (Q a) (f a) T) :
    Keeps d F P (x >>= f) T := by
  intro l hl hP
  obtain ⟨hgrows, hpost⟩ := hx l hl hP
  rw [outcome_bind]
  revert hgrows hpost
  rcases outcome x l with ⟨_ | a, m⟩ <;> intro hgrows hpost
  · exact ⟨hgrows, fun b hb => by cases hb⟩
  · have hm := hl.grows hgrows
    have hQ := hpost a rfl
    obtain ⟨hgrows', hpost'⟩ := hf a ⟨m, hm, hQ⟩ m hm hQ
    exact ⟨hgrows.trans hgrows', hpost'⟩

/-- Computations that are given the classes defined so far. -/
theorem keeps_get {f : Linkage → ExceptT ε (StateM Linkage) α}
    (h : ∀ l, Keeps d F P (f l) Q) : Keeps d F P (get >>= f) Q := by
  intro l hl hP
  rw [outcome_bind]
  exact h l l hl hP

/-- **What is kept while classes are added** holds afterwards as well. -/
theorem Keeps.frame (h : Keeps d F P x Q) (hP : ∀ l, R l → P l)
    (hR : ∀ l l' : Linkage, l.Grows d F l' → R l → R l') :
    Keeps d F R x fun a l => Q a l ∧ R l := by
  intro l hl hRl
  obtain ⟨hgrows, hpost⟩ := h l hl (hP l hRl)
  exact ⟨hgrows, fun a ha => ⟨hpost a ha, hR _ _ hgrows hRl⟩⟩

end Triples

/-! ### Resolution -/

/-- **Resolution** keeps classes, and the class of the type that it ends with, if any, is defined
under the name by then. -/
theorem keeps_resolve? {n : String} {c : Chain} (hc : c ∈ F.made) :
    Keeps d F (fun _ => True) (resolve? d n c) fun t l => ∀ t' ∈ t, t'.name = n ∧ l.Defines t' := by
  intro l _ _
  rw [outcome_resolve?]
  rcases hclass : l.class? d n c with _ | _ | ⟨t, cls⟩
  · exact ⟨Linkage.Grows.refl .., fun a ha => by cases ha⟩
  · refine ⟨Linkage.Grows.refl .., fun a ha => ?_⟩
    cases ha
    simp
  · refine ⟨Linkage.grows_define hc hclass, fun a ha => ?_⟩
    cases ha
    have hdefines : (l.define t.scope t.name cls).Defines t := by
      simp [Defines, Linkage.find?_define_of_class? hclass]
    simpa using ⟨Linkage.name_of_class? hclass, hdefines⟩

/-- **A type that a name is resolved to** is one whose class is defined. -/
theorem keeps_resolve {n : String} {c : Chain} (hc : c ∈ F.made) :
    Keeps d F (fun _ => True) (resolve d n c) fun t l => l.Defines t := by
  refine keeps_bind (keeps_resolve? hc) fun t _ => ?_
  cases t with
  | none => exact keeps_throw
  | some t => exact keeps_pure fun l h => (h t rfl).2

/-- To look up the class of a type defines nothing, and yields the class that is defined. -/
theorem keeps_definedClass {s : Scope} {n : String} :
    Keeps d F (fun _ => True) (definedClass s n) fun c l => l.find? s n = some c := by
  intro l _ _
  unfold definedClass
  simp only [outcome_bind, outcome_get]
  cases hfind : l.find? s n with
  | none => exact ⟨Linkage.Grows.refl .., fun a ha => by cases ha⟩
  | some c =>
      refine ⟨Linkage.Grows.refl .., fun a ha => ?_⟩
      cases ha
      exact hfind

/-! ### Supertypes -/

/-- A supertype whose class is the one that is defined under its name and scope. -/
def Supertype.IsDefined (l : Linkage) (s : Supertype) : Prop :=
  l.find? s.type.scope s.type.name = some s.cls

/-- A class that is defined stays the one it is while others are added. -/
theorem Supertype.IsDefined.grows {s : Supertype} (h : s.IsDefined l) (hgrows : l.Grows d F l') :
    s.IsDefined l' :=
  hgrows.kept h

/-- Different names under which classes are defined. -/
structure Linkage.Names (l : Linkage) (names : List String) : Prop where
  nodup : names.Nodup
  defined : ∀ n ∈ names, ∃ s c, l.find? s n = some c

theorem Linkage.names_nil (l : Linkage) : l.Names [] := ⟨List.nodup_nil, by simp⟩

/-- A name that is new and has a class may be put in front of the others. -/
theorem Linkage.Names.cons {names : List String} (h : l.Names names) {s : Scope} {n : String}
    {c : DefinedClass} (hc : l.find? s n = some c) (hnew : n ∉ names) : l.Names (n :: names) where
  nodup := List.nodup_cons.mpr ⟨hnew, h.nodup⟩
  defined := List.forall_mem_cons.mpr ⟨⟨s, c, hc⟩, h.defined⟩

/-- Names of classes stay so while others are added. -/
theorem Linkage.Names.grows {names : List String} (h : l.Names names) (hgrows : l.Grows d F l') :
    l'.Names names where
  nodup := h.nodup
  defined n hn := by
    obtain ⟨s, c, hc⟩ := h.defined n hn
    exact ⟨s, c, hgrows.kept hc⟩

/-- To resolve the superclass of a class keeps classes, and its own is defined by then. -/
theorem keeps_superclass? {c : DefinedClass} (hc : c.chain ∈ F.made) :
    Keeps d F (fun _ => True) (c.superclass? d) fun t l => ∀ t' ∈ t, l.Defines t' := by
  unfold DefinedClass.superclass?
  split
  · exact keeps_pure (by simp)
  · exact (keeps_resolve? hc).mono (fun _ h => h) fun t l h t' ht' => (h t' ht').2

/-- **The superclasses** are types whose classes are defined, each of a name of its own. -/
theorem keeps_superclasses (steps : Nat) (seen : List String) (t : TypeRef) :
    Keeps d F (·.Names seen) (superclasses d steps seen t) fun r l =>
      (∀ s ∈ r.1, s.IsDefined l) ∧ l.Names r.2 ∧ r.1.length + seen.length ≤ r.2.length := by
  induction steps generalizing seen t with
  | zero => exact keeps_pure fun l hseen => ⟨by simp, hseen, by simp⟩
  | succ steps ih =>
      unfold superclasses
      split
      · exact keeps_pure fun l hseen => ⟨by simp, hseen, by simp⟩
      · rename_i hnew
        replace hnew : t.name ∉ seen := by simpa using hnew
        refine keeps_bind (keeps_definedClass.frame (R := (·.Names seen)) (fun _ _ => trivial)
          fun _ _ hgrows h => h.grows hgrows) fun c hdefined => ?_
        obtain ⟨l, hl, hc, -⟩ := hdefined
        -- the class stays defined while the superclasses are resolved
        have hkept : ∀ l l' : Linkage, l.Grows d F l' →
            l.find? t.scope t.name = some c ∧ l.Names seen →
              l'.find? t.scope t.name = some c ∧ l'.Names seen :=
          fun _ _ hgrows h => ⟨hgrows.kept h.1, h.2.grows hgrows⟩
        refine keeps_bind ((keeps_superclass? (hl.made hc).1).frame (fun _ _ => trivial) hkept)
          fun parent _ => ?_
        cases parent with
        | none =>
            refine keeps_pure fun l h => ?_
            obtain ⟨-, hc, hseen⟩ := h
            exact ⟨List.forall_mem_singleton.mpr hc, hseen.cons hc hnew,
              Nat.le_of_eq (Nat.add_comm 1 _)⟩
        | some parent =>
            refine keeps_bind (((ih _ parent).frame (fun _ h => h.2.cons h.1 hnew) hkept).mono
              (fun _ h => h.2) fun _ _ h => h) fun r _ => keeps_pure fun l h => ?_
            obtain ⟨⟨hdefined, hnames, hlength⟩, hc, -⟩ := h
            refine ⟨List.forall_mem_cons.mpr ⟨hc, hdefined⟩, hnames, ?_⟩
            rw [List.length_cons] at hlength
            show r.1.length + 1 + seen.length ≤ r.2.length
            omega

/-- The interfaces that a class declares are resolved by a loader that was made. -/
theorem Linkage.Sound.made_of_mem_interfaces (hl : l.Sound F) {s : Supertype}
    (hs : s.IsDefined l) : ∀ w ∈ s.cls.interfaces, w.2 ∈ F.made := by
  intro w hw
  obtain ⟨n, -, rfl⟩ := List.mem_map.mp hw
  exact (hl.made hs).1

/-- No class declares more interfaces than a class file has room for. -/
theorem Linkage.Sound.length_interfaces_le (hl : l.Sound F) {s : Supertype} (hs : s.IsDefined l) :
    s.cls.interfaces.length ≤ interfaceBound := by
  obtain ⟨bytes, hdecl⟩ := hl.read hs
  exact DefinedClass.length_interfaces_le hdecl

/-- **The interfaces** are types whose classes are defined. -/
theorem keeps_superinterfaces (steps : Nat) (seen : List String)
    {waiting : List (String × Chain)} (hwaiting : ∀ w ∈ waiting, w.2 ∈ F.made) :
    Keeps d F (fun _ => True) (superinterfaces d steps seen waiting) fun r l =>
      ∀ s ∈ r, s.IsDefined l := by
  induction steps generalizing seen waiting with
  | zero => exact keeps_pure (by simp)
  | succ steps ih =>
      cases waiting with
      | nil => exact keeps_pure (by simp)
      | cons w waiting =>
          obtain ⟨hw, hrest⟩ := List.forall_mem_cons.mp hwaiting
          unfold superinterfaces
          split
          · exact ih _ hrest
          · refine keeps_bind (keeps_resolve? hw) fun t _ => ?_
            cases t with
            | none => exact (ih _ hrest).mono (fun _ _ => trivial) fun _ _ h => h
            | some t =>
                refine keeps_bind (keeps_definedClass.mono (fun _ _ => trivial) fun _ _ h => h)
                  fun c hdefined => ?_
                obtain ⟨l, hl, hc⟩ := hdefined
                have hmore : ∀ w' ∈ waiting ++ c.interfaces, w'.2 ∈ F.made :=
                  List.forall_mem_append.mpr
                    ⟨hrest, hl.made_of_mem_interfaces (s := ⟨t, c, true⟩) hc⟩
                refine keeps_bind ((ih (w.1 :: seen) hmore).frame (fun _ _ => trivial)
                  fun _ _ hgrows h => hgrows.kept h) fun r _ => ?_
                exact keeps_pure fun l h => List.forall_mem_cons.mpr ⟨h.2, h.1⟩

/-- **All supertypes** are types whose classes are defined. -/
theorem keeps_supertypes (t : TypeRef) :
    Keeps d F (fun _ => True) (supertypes d t) fun r l => ∀ s ∈ r, s.IsDefined l := by
  unfold supertypes
  refine keeps_get fun l => keeps_bind ((keeps_superclasses _ [] t).mono
    (fun l _ => l.names_nil) fun _ _ h => h.1) fun r ⟨m, hm, hr⟩ => ?_
  have hwaiting : ∀ w ∈ r.1.flatMap fun s => s.cls.interfaces, w.2 ∈ F.made :=
    List.forall_mem_flatMap.mpr fun s hs => hm.made_of_mem_interfaces (hr s hs)
  refine keeps_bind ((keeps_superinterfaces _ _ hwaiting).frame (fun _ _ => trivial)
    fun _ _ hgrows (h : ∀ s ∈ r.1, s.IsDefined _) s hs => (h s hs).grows hgrows) fun r' _ => ?_
  exact keeps_pure fun l h => List.forall_mem_append.mpr ⟨h.2, h.1⟩

/-! ### Members -/

/-- A method of a class that is defined. -/
def MethodRef.IsDeclared (l : Linkage) (m : MethodRef) : Prop :=
  ∃ c decl, l.find? m.scope m.declaring = some c ∧
    c.decl.methods.find? (fun n => n.name = m.name && n.descriptor = m.descriptor) = some decl

/-- A field of a class that is defined. -/
def FieldRef.IsDeclared (l : Linkage) (f : FieldRef) : Prop :=
  ∃ c, l.find? f.scope f.declaring = some c ∧
    ∃ decl ∈ c.decl.fields, decl.name = f.name ∧ decl.descriptor = f.descriptor

/-- A method that a supertype offers is one that its class declares. -/
theorem Supertype.IsDefined.declares_method {s : Supertype} (h : s.IsDefined l) {m : MethodRef}
    (hm : m ∈ s.methods) : m.IsDeclared l := by
  obtain ⟨decl, hdecl, -, rfl⟩ := Supertype.mem_methods.mp hm
  cases hfind : s.cls.decl.methods.find? fun n =>
      n.name = decl.name && n.descriptor = decl.descriptor with
  | none => simpa using List.find?_eq_none.mp hfind decl hdecl
  | some first => exact ⟨s.cls, first, h, hfind⟩

/-- A field that a supertype offers is one that its class declares. -/
theorem Supertype.IsDefined.declares_field {s : Supertype} (h : s.IsDefined l) {f : FieldRef}
    (hf : f ∈ s.fields) : f.IsDeclared l := by
  obtain ⟨decl, hdecl, -, rfl⟩ := Supertype.mem_fields.mp hf
  exact ⟨s.cls, h, decl, hdecl, rfl, rfl⟩

/-- **The methods of a type** are methods of classes that are defined. -/
theorem keeps_methods (t : TypeRef) :
    Keeps d F (fun _ => True) (methods d t) fun ms l => ∀ m ∈ ms, m.IsDeclared l := by
  refine keeps_bind (keeps_supertypes t) fun ss _ => keeps_pure fun l hss m hm => ?_
  obtain ⟨s, hs, hm⟩ := List.mem_flatMap.mp (mem_of_mem_firstOfSignature hm)
  exact (hss s hs).declares_method hm

/-- **The fields of a type** are fields of classes that are defined. -/
theorem keeps_fields (t : TypeRef) :
    Keeps d F (fun _ => True) (fields d t) fun fs l => ∀ f ∈ fs, f.IsDeclared l := by
  refine keeps_bind (keeps_supertypes t) fun ss _ => keeps_pure fun l hss f hf => ?_
  obtain ⟨s, hs, hf⟩ := List.mem_flatMap.mp hf
  exact (hss s hs).declares_field hf

/-! ### Operations -/

/-- A question about a type or a member defines nothing. -/
theorem keeps_of_snd_eq {x : Linked α} (h : ∀ l, (outcome x l).2 = l) :
    Keeps d F (fun _ => True) x fun _ _ => True := by
  intro l _ _
  rw [h l]
  exact ⟨Linkage.Grows.refl .., fun _ _ => trivial⟩

/-- **One operation**, on whatever disk, only adds classes. -/
theorem Linkage.Sound.grows_perform (hl : l.Sound F) {op : Operation} (hop : op.Within F) :
    l.Grows d F (op.perform d l) := by
  cases op with
  | resolve n c => exact (keeps_resolve hop l hl trivial).1
  | methods t => exact (keeps_methods t l hl trivial).1
  | fields t => exact (keeps_fields t l hl trivial).1
  | parameterAnnotations m =>
      exact (keeps_of_snd_eq (outcome_bind_snd (outcome_methodDecl_snd m) fun _ _ => rfl)
        l hl trivial).1
  | isTypeAnnotated t a =>
      exact (keeps_of_snd_eq (outcome_bind_snd (outcome_definedClass_snd _ _) fun _ _ => rfl)
        l hl trivial).1
  | isMethodAnnotated m a =>
      exact (keeps_of_snd_eq (outcome_bind_snd (outcome_methodDecl_snd m) fun _ _ => rfl)
        l hl trivial).1
  | isFieldAnnotated f a =>
      exact (keeps_of_snd_eq (outcome_bind_snd (outcome_definedClass_snd _ _) fun _ _ => rfl)
        l hl trivial).1

end Classpath
