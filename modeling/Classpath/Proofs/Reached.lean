import Classpath.Proofs.Additions

/-!
# The Classes That a Session Reaches

A session is a sequence of operations on one collection of classes: resolving names through
loaders, and looking into types and members. `Linkage.Reached d F l` says that some session
on the disk `d`, with loaders from `F`, that began without classes has come to the classes
`l`. Operations may fail, and be asked about types and members that never were resolved.

Whatever an operation comes to, it only adds classes that loaders read from the disk
(`Linkage.grows_perform`), so the classes that are reached are faithful to the disk
(`Linkage.Reached.faithful`). Each operation has one lemma, which says so and also what the
value it ends with is made of; `DefinedClass.IsRead` names the class that a value speaks of.

## Main results

* `adds_supertypes`, `adds_methods`, `adds_fields`: what reflection yields.
* `adds_isMethodAnnotated`, `adds_isFieldAnnotated`: what the questions about members answer.
* `Linkage.grows_perform`: what one operation does.
* `Linkage.Reached.faithful`: what a whole session does.
-/

namespace Classpath

/-- What a session may ask. -/
inductive Operation where
  | resolve (name : String) (chain : Chain)
  | methods (type : TypeRef)
  | fields (type : TypeRef)
  | parameterAnnotations (method : MethodRef)
  | isTypeAnnotated (type : TypeRef) (annotationType : String)
  | isMethodAnnotated (method : MethodRef) (annotationType : String)
  | isFieldAnnotated (field : FieldRef) (annotationType : String)

namespace Operation

/-- The classes that are defined after an operation, whether it fails or not. -/
def perform (d : Disk) : Operation → Linkage → Linkage
  | resolve name chain, l => (outcome (Classpath.resolve d name chain) l).2
  | methods type, l => (outcome (Classpath.methods d type) l).2
  | fields type, l => (outcome (Classpath.fields d type) l).2
  | parameterAnnotations m, l => (outcome (Classpath.parameterAnnotations m) l).2
  | isTypeAnnotated t a, l => (outcome (Classpath.isTypeAnnotated t a) l).2
  | isMethodAnnotated m a, l => (outcome (Classpath.isMethodAnnotated m a) l).2
  | isFieldAnnotated f a, l => (outcome (Classpath.isFieldAnnotated f a) l).2

/-- Whether an operation goes through loaders of a collection only. -/
def Within (F : Loaders) : Operation → Prop
  | resolve _ chain => chain ∈ F.made
  | _ => True

end Operation

/-- The classes that a session on a disk has come to. -/
inductive Linkage.Reached (d : Disk) (F : Loaders) : Linkage → Prop
  | start : Reached d F {}
  | step {l : Linkage} {op : Operation} :
      Reached d F l → op.Within F → Reached d F (op.perform d l)

variable {d : Disk} {F : Loaders} {l₀ : Linkage}

/-- The class that is defined in a scope under a name, when all classes are read from the
disk. -/
structure DefinedClass.IsRead (d : Disk) (F : Loaders) (s : Scope) (n : String)
    (c : DefinedClass) : Prop where
  made : c.chain ∈ F.made
  scope_eq : c.chain.scope = s
  own : ({} : Linkage).own? d n c.chain = .ok (some c)

/-- There is one such class. -/
theorem DefinedClass.IsRead.unique {s : Scope} {n : String} {c c' : DefinedClass}
    (h : c.IsRead d F s n) (h' : c'.IsRead d F s n) : c = c' := by
  have hchain := F.eq_of_scope_eq h.made h'.made (h.scope_eq.trans h'.scope_eq.symm)
  have hown := h.own
  rw [hchain, h'.own] at hown
  simpa using hown.symm

/-- A class that is defined was read from the disk by the loader of its scope. -/
theorem Linkage.Faithful.isRead {l : Linkage} (h : l.Faithful d F) {s : Scope} {n : String}
    {c : DefinedClass} (hfind : l.find? s n = some c) : c.IsRead d F s n := by
  obtain hempty | ⟨hmade, hscope, hown⟩ := Linkage.Grows.added h hfind
  · cases hempty
  · exact ⟨hmade, hscope, hown⟩

/-- What a lookup in the files finds is the class of its type. -/
theorem isRead_of_class? {n : String} {c : Chain} (hc : c ∈ F.made) {t : TypeRef}
    {cls : DefinedClass} (h : ({} : Linkage).class? d n c = .ok (some (t, cls))) :
    cls.IsRead d F t.scope t.name := by
  obtain ⟨nearer, owner, farther, hsplit, -, hown, rfl⟩ := Linkage.class?_eq_some_iff.mp h
  have howner : owner ∈ F.made := F.mem_of_mem_chains hc (by rw [hsplit]; simp)
  obtain ⟨bytes, decl, -, -, -, rfl⟩ := Linkage.own?_empty_eq_some_iff.mp hown
  exact ⟨howner, rfl, hown⟩

/-- A supertype whose class is the one of its type. -/
def Supertype.IsRead (d : Disk) (F : Loaders) (s : Supertype) : Prop :=
  s.cls.IsRead d F s.type.scope s.type.name

/-! ### Reflection -/

/-- A class that is looked up is one that was read. -/
theorem adds_definedClass (hl₀ : l₀.Faithful d F) {s : Scope} {n : String} :
    Adds d F l₀ (definedClass s n) fun c => c.IsRead d F s n := by
  intro l hl
  unfold definedClass
  simp only [outcome_bind, outcome_get]
  cases hfind : l.find? s n with
  | none => exact ⟨Linkage.Grows.refl .., fun a ha => by cases ha⟩
  | some cls =>
      refine ⟨Linkage.Grows.refl .., fun a ha => ?_⟩
      cases ha
      exact (hl₀.grows hl).isRead hfind

/-- A condition on loaders that holds of whatever a loader delegates to. -/
def Chain.Upward (K : Chain → Prop) : Prop :=
  ∀ c p, K c → p ∈ c.chains → K p

theorem Chain.upward_true : Chain.Upward fun _ => True := fun _ _ _ _ => trivial

/-- The loaders that a chain delegates to. -/
theorem Chain.upward_chains (c : Chain) : Chain.Upward (· ∈ c.chains) :=
  fun _ _ hp hq => Chain.chains_trans hq hp

/-- A type whose class is from a loader that satisfies a condition. -/
def TypeRef.From (d : Disk) (F : Loaders) (K : Chain → Prop) (t : TypeRef) : Prop :=
  ∀ cls : DefinedClass, cls.IsRead d F t.scope t.name → K cls.chain

/-- What is found through a loader is from one that it delegates to. -/
theorem from_of_class? {K : Chain → Prop} (hK : Chain.Upward K) {n : String} {c : Chain}
    (hc : c ∈ F.made) (hKc : K c) {t : TypeRef} {cls : DefinedClass}
    (h : ({} : Linkage).class? d n c = .ok (some (t, cls))) : t.From d F K := by
  intro cls' hcls'
  rw [hcls'.unique (isRead_of_class? hc h)]
  exact hK c _ hKc (Linkage.class?_empty_spec h).1

/-- A supertype whose class is from a loader that satisfies a condition. -/
def Supertype.From (d : Disk) (F : Loaders) (K : Chain → Prop) (s : Supertype) : Prop :=
  s.IsRead d F ∧ K s.cls.chain

section Supertypes

variable {K : Chain → Prop}

/-- **The superclass of a class** is a type that a loader at or above the class's own one has. -/
theorem adds_superclass? (hl₀ : l₀.Faithful d F) (hK : Chain.Upward K) {c : DefinedClass}
    (hc : c.chain ∈ F.made) (hKc : K c.chain) :
    Adds d F l₀ (c.superclass? d) fun t => ∀ parent ∈ t, parent.From d F K := by
  unfold DefinedClass.superclass?
  split
  · exact adds_pure (by simp)
  · refine (adds_resolve? hc).mono fun t ht parent hparent => ?_
    obtain ⟨_ | ⟨t', cls⟩, hfound, rfl⟩ := ht
    · cases hparent
    · obtain rfl := Option.mem_some_iff.mp hparent
      rw [hl₀.class?_eq hc] at hfound
      exact from_of_class? hK hc hKc hfound

/-- The superclasses of a type begin with the type itself. -/
theorem adds_superclasses (hl₀ : l₀.Faithful d F) (hK : Chain.Upward K) (steps : Nat)
    (seen : List String) {t : TypeRef} (ht : t.From d F K) :
    Adds d F l₀ (superclasses d steps seen t) fun r =>
      (∀ s ∈ r.1, s.From d F K) ∧
        (0 < steps → t.name ∉ seen → ∃ c rest, r.1 = ⟨t, c, false⟩ :: rest) := by
  induction steps generalizing seen t with
  | zero => exact adds_pure ⟨by simp, fun h => absurd h (Nat.lt_irrefl 0)⟩
  | succ steps ih =>
      unfold superclasses
      split
      · rename_i hseen
        refine adds_pure ⟨by simp, fun _ h => absurd ?_ h⟩
        simpa using hseen
      · refine adds_bind (adds_definedClass hl₀) fun c hc => ?_
        have hfrom : Supertype.From d F K ⟨t, c, false⟩ := ⟨hc, ht c hc⟩
        refine adds_bind (adds_superclass? hl₀ hK hc.made hfrom.2) fun parent hparent => ?_
        cases parent with
        | none => exact adds_pure ⟨List.forall_mem_singleton.mpr hfrom, fun _ _ => ⟨c, [], rfl⟩⟩
        | some parent =>
            refine adds_bind (ih _ (hparent parent rfl)) fun r hr => ?_
            refine adds_pure ⟨?_, fun _ _ => ⟨c, r.1, rfl⟩⟩
            exact List.forall_mem_cons.mpr ⟨hfrom, hr.1⟩

/-- The interfaces that a class declares are resolved by the loader that defined it. -/
theorem interfaces_within {s : Supertype} (h : s.From d F K) :
    ∀ w ∈ s.cls.interfaces, w.2 ∈ F.made ∧ K w.2 := by
  intro w hw
  obtain ⟨n, -, rfl⟩ := List.mem_map.mp hw
  exact ⟨h.1.made, h.2⟩

/-- **The interfaces** that are found are types that loaders of the chain have, as those are that
wait. -/
theorem adds_superinterfaces (hl₀ : l₀.Faithful d F) (hK : Chain.Upward K) (steps : Nat)
    (seen : List String) {waiting : List (String × Chain)}
    (hwaiting : ∀ w ∈ waiting, w.2 ∈ F.made ∧ K w.2) :
    Adds d F l₀ (superinterfaces d steps seen waiting) fun r => ∀ s ∈ r, s.From d F K := by
  induction steps generalizing seen waiting with
  | zero => exact adds_pure (by simp)
  | succ steps ih =>
      cases waiting with
      | nil => exact adds_pure (by simp)
      | cons w waiting =>
          obtain ⟨⟨hw, hKw⟩, hrest⟩ := List.forall_mem_cons.mp hwaiting
          unfold superinterfaces
          split
          · exact ih _ hrest
          · refine adds_bind (adds_resolve? hw) fun t ht => ?_
            obtain ⟨_ | ⟨t, cls⟩, hfound, rfl⟩ := ht
            · exact ih _ hrest
            · refine adds_bind (adds_definedClass hl₀) fun c hc => ?_
              rw [hl₀.class?_eq hw] at hfound
              have hfrom : Supertype.From d F K ⟨t, c, true⟩ :=
                ⟨hc, from_of_class? hK hw hKw hfound c hc⟩
              have hmore : ∀ w ∈ waiting ++ c.interfaces, w.2 ∈ F.made ∧ K w.2 :=
                List.forall_mem_append.mpr ⟨hrest, interfaces_within hfrom⟩
              refine adds_bind (ih _ hmore) fun r hr => adds_pure ?_
              exact List.forall_mem_cons.mpr ⟨hfrom, hr⟩

/-- **The supertypes of a type** are classes that were read, the type itself at the front, and
from loaders that its own one delegates to. -/
theorem adds_supertypes (hl₀ : l₀.Faithful d F) (hK : Chain.Upward K) {t : TypeRef}
    (ht : t.From d F K) :
    Adds d F l₀ (supertypes d t) fun r =>
      (∀ s ∈ r, s.From d F K) ∧ ∃ c rest, r = ⟨t, c, false⟩ :: rest := by
  unfold supertypes
  refine adds_bind (adds_get fun _ => trivial) fun l _ => ?_
  refine adds_bind (adds_superclasses hl₀ hK _ _ ht) fun r hr => ?_
  obtain ⟨hread, hfirst⟩ := hr
  have hwaiting : ∀ w ∈ r.1.flatMap fun s => s.cls.interfaces, w.2 ∈ F.made ∧ K w.2 :=
    List.forall_mem_flatMap.mpr fun s hs => interfaces_within (hread s hs)
  refine adds_bind (adds_superinterfaces hl₀ hK _ _ hwaiting) fun r' hr' => ?_
  obtain ⟨c, rest, hr⟩ := hfirst (Nat.succ_pos _) List.not_mem_nil
  exact adds_pure ⟨List.forall_mem_append.mpr ⟨hread, hr'⟩, c, rest ++ r', by rw [hr]; rfl⟩

/-- The methods of a type are those that its supertypes offer, less those that are hidden. -/
theorem adds_methods (hl₀ : l₀.Faithful d F) (hK : Chain.Upward K) {t : TypeRef}
    (ht : t.From d F K) :
    Adds d F l₀ (methods d t) fun ms => ∃ ss : List Supertype,
      ms = firstOfSignature [] (ss.flatMap Supertype.methods) ∧
        (∀ s ∈ ss, s.From d F K) ∧ ∃ c rest, ss = ⟨t, c, false⟩ :: rest :=
  adds_bind (adds_supertypes hl₀ hK ht) fun ss hss => adds_pure ⟨ss, rfl, hss⟩

/-- The fields of a type are those that its supertypes offer. -/
theorem adds_fields (hl₀ : l₀.Faithful d F) (hK : Chain.Upward K) {t : TypeRef}
    (ht : t.From d F K) :
    Adds d F l₀ (fields d t) fun fs => ∃ ss : List Supertype,
      fs = ss.flatMap Supertype.fields ∧
        (∀ s ∈ ss, s.From d F K) ∧ ∃ c rest, ss = ⟨t, c, false⟩ :: rest :=
  adds_bind (adds_supertypes hl₀ hK ht) fun ss hss => adds_pure ⟨ss, rfl, hss⟩

end Supertypes

/-- The declaration of a method stands in the class that was read. -/
theorem adds_methodDecl (hl₀ : l₀.Faithful d F) (m : MethodRef) :
    Adds d F l₀ (methodDecl m) fun decl => ∃ c : DefinedClass,
      c.IsRead d F m.scope m.declaring ∧
        c.decl.methods.find? (fun n => n.name = m.name && n.descriptor = m.descriptor) =
          some decl := by
  refine adds_bind (adds_definedClass hl₀) fun c hc => ?_
  split
  · rename_i decl hfind
    exact adds_pure ⟨c, hc, hfind⟩
  · exact adds_throw

/-- The annotations of the parameters of a method are those of the first declaration with its name
and descriptor. -/
theorem adds_parameterAnnotations (hl₀ : l₀.Faithful d F) (m : MethodRef) :
    Adds d F l₀ (parameterAnnotations m) fun slots => ∃ (c : DefinedClass) (decl : MethodDecl),
      c.IsRead d F m.scope m.declaring ∧
        c.decl.methods.find? (fun n => n.name = m.name && n.descriptor = m.descriptor) =
          some decl ∧ slots = decl.parameterAnnotations :=
  adds_bind (adds_methodDecl hl₀ m) fun decl ⟨c, hc, hfind⟩ =>
    adds_pure ⟨c, decl, hc, hfind, rfl⟩

/-- Whether a type is annotated is told by the declaration in its class file. -/
theorem adds_isTypeAnnotated (hl₀ : l₀.Faithful d F) (t : TypeRef) (a : String) :
    Adds d F l₀ (isTypeAnnotated t a) fun b => ∃ c : DefinedClass,
      c.IsRead d F t.scope t.name ∧ b = c.decl.isAnnotated a :=
  adds_bind (adds_definedClass hl₀) fun c hc => adds_pure ⟨c, hc, rfl⟩

/-- Whether a method is annotated is told by the first declaration with its name and descriptor. -/
theorem adds_isMethodAnnotated (hl₀ : l₀.Faithful d F) (m : MethodRef) (a : String) :
    Adds d F l₀ (isMethodAnnotated m a) fun b => ∃ (c : DefinedClass) (decl : MethodDecl),
      c.IsRead d F m.scope m.declaring ∧
        c.decl.methods.find? (fun n => n.name = m.name && n.descriptor = m.descriptor) =
          some decl ∧ b = decl.annotations.contains a :=
  adds_bind (adds_methodDecl hl₀ m) fun decl ⟨c, hc, hfind⟩ =>
    adds_pure ⟨c, decl, hc, hfind, rfl⟩

/-- Whether a field is annotated is told by all fields of its name. -/
theorem adds_isFieldAnnotated (hl₀ : l₀.Faithful d F) (f : FieldRef) (a : String) :
    Adds d F l₀ (isFieldAnnotated f a) fun b => ∃ c : DefinedClass,
      c.IsRead d F f.scope f.declaring ∧
        b = c.decl.fields.any fun g => g.name == f.name && g.annotations.contains a :=
  adds_bind (adds_definedClass hl₀) fun c hc => adds_pure ⟨c, hc, rfl⟩

/-! ### Sessions -/

namespace Linkage

/-- **One operation** only adds classes that are read from the disk. -/
theorem grows_perform {op : Operation} {l : Linkage} (hop : op.Within F)
    (hl : l.Faithful d F) : l.Grows d F (op.perform d l) := by
  cases op with
  | resolve n c => exact (adds_resolve hop l (Grows.refl ..)).1
  | methods t => exact (adds_methods hl Chain.upward_true (fun _ _ => trivial) l (Grows.refl ..)).1
  | fields t => exact (adds_fields hl Chain.upward_true (fun _ _ => trivial) l (Grows.refl ..)).1
  | parameterAnnotations m => exact (adds_parameterAnnotations hl m l (Grows.refl ..)).1
  | isTypeAnnotated t a => exact (adds_isTypeAnnotated hl t a l (Grows.refl ..)).1
  | isMethodAnnotated m a => exact (adds_isMethodAnnotated hl m a l (Grows.refl ..)).1
  | isFieldAnnotated f a => exact (adds_isFieldAnnotated hl f a l (Grows.refl ..)).1

/-- **A whole session** defines what the files on the disk hold. -/
theorem Reached.faithful {l : Linkage} (h : l.Reached d F) : l.Faithful d F := by
  induction h with
  | start => exact Grows.refl ..
  | step _ hop ih => exact ih.grows (grows_perform hop ih)

end Linkage

end Classpath
