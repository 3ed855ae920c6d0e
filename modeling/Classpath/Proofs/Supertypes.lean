import Mathlib.Logic.Relation
import Classpath.Proofs.ClassFiles
import Classpath.Proofs.Collection
import Classpath.Proofs.Loops

/-!
# The Supertypes of an Indexed Class

Reflection goes upwards from a type: along the superclasses first, then through the interfaces
that wait, breadth first. Here this is set against the declarations of an index that is closed:
every class in it can be resolved, and so can what its classes refer to, which is in the index
again. In such an index names stand for classes, and the two traversals are closures of two
relations between names, `ClassIndex.Inherits` and `ClassIndex.ListsInterface`.

`Ascent` and `Spread` say what the traversals yield; both are stated for the names that were
seen before, since a name counts once. The traversals do not run out of steps: the names seen
are those of different classes, and a disk has room for so many class files only.

## Main results

* `ClassIndex.Closed.exists_ascent`: the superclasses.
* `ClassIndex.Closed.exists_spread`: the interfaces.
* `ClassIndex.Closed.runs_supertypes`: the supertypes, by names.
-/

namespace Classpath

open Relation (ReflTransGen)

variable {d : Disk} {F : Loaders} {l : Linkage}

namespace ClassIndex

/-! ### Closed indexes -/

/-- The index has the class that its chain finds as a type. -/
def Has (i : ClassIndex) (d : Disk) (t : TypeRef) (cls : DefinedClass) : Prop :=
  (∃ e ∈ i.decls, e.2 = cls.decl) ∧
    ({} : Linkage).class? d t.name i.resources.chain = .ok (some (t, cls))

/-- Every class of the index is resolved to what the index has, and the superclass and the
interfaces it names can be resolved from where it is defined, to classes of the index again. -/
structure Closed (i : ClassIndex) (d : Disk) : Prop where
  resolves : ∀ r n decl, i.Holds r n decl → ∃ t cls,
    ({} : Linkage).class? d decl.name r.chain = .ok (some (t, cls)) ∧ cls.decl = decl
  refers : ∀ t cls, i.Has d t cls →
    ∀ name, cls.decl.superName = some name ∨ name ∈ cls.decl.interfaces →
      ∃ t' cls', ({} : Linkage).class? d name cls.chain = .ok (some (t', cls')) ∧
        ∃ e ∈ i.decls, e.2 = cls'.decl

/-- A class of the index, which is no interface, names another as its superclass. -/
def Inherits (i : ClassIndex) (sub super : String) : Prop :=
  ∃ e ∈ i.decls, e.2.name = sub ∧ e.2.isInterface = false ∧ e.2.superName = some super

/-- A class of the index names an interface in its own list. -/
def ListsInterface (i : ClassIndex) (sub name : String) : Prop :=
  ∃ e ∈ i.decls, e.2.name = sub ∧ name ∈ e.2.interfaces

variable {i : ClassIndex} {t t' : TypeRef} {cls cls' : DefinedClass} {name : String}

/-- A class that the index has bears the name of its type. -/
theorem Has.name_eq (h : i.Has d t cls) : cls.decl.name = t.name :=
  (Linkage.class?_empty_spec h.2).2.2

/-- It belongs to one of the loaders that the index was made for. -/
theorem Has.chain_mem (h : i.Has d t cls) : cls.chain ∈ i.resources.chain.chains :=
  (Linkage.class?_empty_spec h.2).1

/-- A name stands for one class. -/
theorem Has.unique (h : i.Has d t cls) (h' : i.Has d t' cls') (hname : t.name = t'.name) :
    t = t' ∧ cls = cls' := by
  have hfound := h.2
  rw [hname, h'.2] at hfound
  simp only [Except.ok.injEq, Option.some.injEq, Prod.mk.injEq] at hfound
  exact ⟨hfound.1.symm, hfound.2.symm⟩

/-- The class file that a class of the index was read from. -/
theorem Has.exists_classFile (h : i.Has d t cls) :
    ∃ bytes ∈ d.classFiles, ClassDecl.ofBytes bytes = .ok cls.decl := by
  obtain ⟨nearer, owner, farther, -, -, hown, -⟩ := Linkage.class?_eq_some_iff.mp h.2
  obtain ⟨bytes, decl, hbytes, hdecl, -, rfl⟩ := Linkage.own?_empty_eq_some_iff.mp hown
  exact ⟨bytes, ClassDecl.mem_classFiles hbytes hdecl, hdecl⟩

theorem Has.length_interfaces_le (h : i.Has d t cls) :
    cls.interfaces.length ≤ interfaceBound := by
  obtain ⟨bytes, -, hdecl⟩ := h.exists_classFile
  exact DefinedClass.length_interfaces_le hdecl

/-- A root with the declaration of a class of the index leads to the class. -/
theorem Has.eq_of_holds (hi : i.Made F d) (h : i.Has d t cls) {r : Root} {n : String}
    (hr : i.Holds r n cls.decl)
    (hclass : ({} : Linkage).class? d cls.decl.name r.chain = .ok (some (t', cls'))) :
    t' = t ∧ cls' = cls := by
  have hfound := Linkage.class?_of_mem_chains (hi.roots_spec.2 r hr.mem_roots) hclass
  rw [h.name_eq, h.2] at hfound
  simp only [Except.ok.injEq, Option.some.injEq, Prod.mk.injEq] at hfound
  exact ⟨hfound.1.symm, hfound.2.symm⟩

/-- A declaration of the index is of a class that the index has. -/
theorem Closed.exists_has (h : i.Closed d) (hi : i.Made F d) {e : String × ClassDecl}
    (he : e ∈ i.decls) : ∃ t cls, i.Has d t cls ∧ cls.decl = e.2 ∧ t.name = e.2.name := by
  obtain ⟨r, hr⟩ := hi.exists_holds he
  obtain ⟨t, cls, hclass, hdecl⟩ := h.resolves r e.1 e.2 hr
  have hname := Linkage.name_of_class? hclass
  refine ⟨t, cls, ⟨⟨e, he, hdecl.symm⟩, ?_⟩, hdecl, hname⟩
  rw [hname]
  exact Linkage.class?_of_mem_chains (hi.roots_spec.2 r hr.mem_roots) hclass

/-- The declaration with the name of a class that the index has is that of the class. -/
theorem Closed.decl_eq (h : i.Closed d) (hi : i.Made F d) {e : String × ClassDecl}
    (he : e ∈ i.decls) (ht : i.Has d t cls) (hname : e.2.name = t.name) : e.2 = cls.decl := by
  obtain ⟨t', cls', ht', hdecl, hname'⟩ := h.exists_has hi he
  obtain ⟨-, rfl⟩ := ht'.unique ht (hname'.trans hname)
  exact hdecl.symm

/-- In a closed index, what a class of the index inherits from is what it names as its superclass,
if that counts. -/
theorem Closed.inherits_iff (h : i.Closed d) (hi : i.Made F d) (ht : i.Has d t cls) :
    i.Inherits t.name name ↔ cls.superName? = some name := by
  unfold DefinedClass.superName?
  constructor
  · rintro ⟨e, he, hname, hclass, hsuper⟩
    rw [← h.decl_eq hi he ht hname, if_neg (by simp [hclass])]
    exact hsuper
  · intro hsuper
    split at hsuper
    · cases hsuper
    · rename_i hclass
      obtain ⟨e, he, hdecl⟩ := ht.1
      refine ⟨e, he, ?_, ?_, ?_⟩
      · rw [hdecl, ht.name_eq]
      · rw [hdecl]
        simpa using hclass
      · rw [hdecl, hsuper]

/-- And the interfaces that it lists are those of its declaration. -/
theorem Closed.listsInterface_iff (h : i.Closed d) (hi : i.Made F d) (ht : i.Has d t cls) :
    i.ListsInterface t.name name ↔ name ∈ cls.decl.interfaces := by
  constructor
  · rintro ⟨e, he, hname, hmem⟩
    rwa [← h.decl_eq hi he ht hname]
  · intro hmem
    obtain ⟨e, he, hdecl⟩ := ht.1
    refine ⟨e, he, ?_, ?_⟩
    · rw [hdecl, ht.name_eq]
    · rwa [hdecl]

/-- **What a class of the index refers to** is resolved to a class of the index. -/
theorem Closed.runs_resolve? (h : i.Closed d) (hi : i.Made F d) (hl : l.Faithful d F)
    (ht : i.Has d t cls)
    (hrefers : cls.decl.superName = some name ∨ name ∈ cls.decl.interfaces) :
    ∃ t' cls' l', i.Has d t' cls' ∧ t'.name = name ∧
      Runs (resolve? d name cls.chain) l (some t') l' ∧ l.Grows d F l' ∧
        l'.find? t'.scope t'.name = some cls' := by
  obtain ⟨t', cls', hclass, he⟩ := h.refers t cls ht name hrefers
  have hname := Linkage.name_of_class? hclass
  have hmade := F.mem_of_mem_chains hi.chain_mem ht.chain_mem
  have hhas : i.Has d t' cls' := by
    refine ⟨he, ?_⟩
    rw [hname]
    exact Linkage.class?_of_mem_chains ht.chain_mem hclass
  rw [← hl.class?_eq hmade] at hclass
  exact ⟨t', cls', _, hhas, hname, runs_resolve?_some_iff.mpr ⟨cls', hclass, rfl⟩,
    Linkage.grows_define hmade hclass, Linkage.find?_define_of_class? hclass⟩

theorem runs_superclass?_none (hsuper : cls.superName? = none) :
    Runs (cls.superclass? d) l none l := by
  unfold DefinedClass.superclass?
  rw [hsuper]
  exact runs_pure.mpr ⟨rfl, rfl⟩

/-- The superclass of a class of the index is resolved to a class of the index. -/
theorem Closed.runs_superclass? (h : i.Closed d) (hi : i.Made F d) (hl : l.Faithful d F)
    (ht : i.Has d t cls) (hsuper : cls.superName? = some name) :
    ∃ t' cls' l', i.Has d t' cls' ∧ t'.name = name ∧ Runs (cls.superclass? d) l (some t') l' ∧
      l.Grows d F l' ∧ l'.find? t'.scope t'.name = some cls' := by
  have hrefers : cls.decl.superName = some name := by
    unfold DefinedClass.superName? at hsuper
    split at hsuper
    · cases hsuper
    · exact hsuper
  unfold DefinedClass.superclass?
  rw [hsuper]
  exact h.runs_resolve? hi hl ht (Or.inl hrefers)

/-! ### Names that were seen -/

/-- Names of different classes of the index. -/
structure Seen (i : ClassIndex) (d : Disk) (seen : List String) : Prop where
  nodup : seen.Nodup
  has : ∀ n ∈ seen, ∃ t cls, i.Has d t cls ∧ t.name = n

variable {seen : List String}

/-- The name of a class of the index that was not seen before is one more. -/
theorem Seen.cons (h : i.Seen d seen) (ht : i.Has d t cls) (hnew : t.name ∉ seen) :
    i.Seen d (t.name :: seen) where
  nodup := List.nodup_cons.mpr ⟨hnew, h.nodup⟩
  has := List.forall_mem_cons.mpr ⟨⟨t, cls, ht, rfl⟩, h.has⟩

/-- There are no more of them than the disk has room for. -/
theorem Seen.length_le (h : i.Seen d seen) : seen.length ≤ d.capacity := by
  refine length_le_of_names h.nodup fun n hn => ?_
  obtain ⟨t, cls, ht, rfl⟩ := h.has n hn
  obtain ⟨bytes, hbytes, hdecl⟩ := ht.exists_classFile
  exact ⟨bytes, hbytes, cls.decl, hdecl, ht.name_eq⟩

/-! ### Superclasses -/

/-- The superclasses of a type, itself at the front, up to one that was seen before. -/
structure Ascent (i : ClassIndex) (d : Disk) (t : TypeRef) (seen : List String)
    (above : List Supertype) (seen' : List String) : Prop where
  seen_eq : seen' = (above.map (·.type.name)).reverse ++ seen
  seen : i.Seen d seen'
  has : ∀ s ∈ above, i.Has d s.type s.cls ∧ s.isInterface = false
  start : t.name ∈ seen'
  sound : ∀ s ∈ above, ReflTransGen i.Inherits t.name s.type.name
  closed : ∀ s ∈ above, ∀ n, i.Inherits s.type.name n → n ∈ seen'

/-- **One more class below.** -/
theorem Ascent.step (h : i.Closed d) (hi : i.Made F d) (ht : i.Has d t cls)
    {above : List Supertype} {seen' : List String} (hsuper : cls.superName? = some t'.name)
    (hascent : i.Ascent d t' (t.name :: seen) above seen') :
    i.Ascent d t seen (⟨t, cls, false⟩ :: above) seen' where
  seen_eq := by simp [hascent.seen_eq]
  seen := hascent.seen
  has := List.forall_mem_cons.mpr ⟨⟨ht, rfl⟩, hascent.has⟩
  start := by simp [hascent.seen_eq]
  sound := List.forall_mem_cons.mpr ⟨ReflTransGen.refl, fun s hs =>
    ReflTransGen.head ((h.inherits_iff hi ht).mpr hsuper) (hascent.sound s hs)⟩
  closed := List.forall_mem_cons.mpr ⟨fun n hn => by
    have hn := (h.inherits_iff hi ht).mp hn
    rw [hsuper, Option.some_inj] at hn
    exact hn ▸ hascent.start, hascent.closed⟩

/-- The ascent ends at a class without a superclass. -/
theorem ascent_top (h : i.Closed d) (hi : i.Made F d) (hseen : i.Seen d seen)
    (ht : i.Has d t cls) (hnew : t.name ∉ seen) (hsuper : cls.superName? = none) :
    i.Ascent d t seen [⟨t, cls, false⟩] (t.name :: seen) where
  seen_eq := rfl
  seen := hseen.cons ht hnew
  has := List.forall_mem_singleton.mpr ⟨ht, rfl⟩
  start := List.mem_cons_self
  sound := List.forall_mem_singleton.mpr ReflTransGen.refl
  closed := List.forall_mem_singleton.mpr fun n hn => by
    rw [h.inherits_iff hi ht, hsuper] at hn
    cases hn

/-- **The superclasses**: the ascent succeeds and is complete. -/
theorem Closed.exists_ascent (h : i.Closed d) (hi : i.Made F d) (hl : l.Faithful d F)
    (steps : Nat) (hseen : i.Seen d seen) (ht : i.Has d t cls)
    (hdefined : l.find? t.scope t.name = some cls) (hsteps : d.capacity < seen.length + steps) :
    ∃ above seen' l', Runs (superclasses d steps seen t) l (above, seen') l' ∧
      l.Grows d F l' ∧ i.Ascent d t seen above seen' := by
  induction steps generalizing seen t cls l with
  | zero =>
      have := hseen.length_le
      omega
  | succ steps ih =>
      by_cases hmem : t.name ∈ seen
      · exact ⟨[], seen, l, runs_superclasses_succ.mpr (.known hmem), Linkage.Grows.refl .., rfl,
          hseen, by simp, hmem, by simp, by simp⟩
      · cases hsuper : cls.superName? with
        | none =>
            exact ⟨[⟨t, cls, false⟩], t.name :: seen, l,
              runs_superclasses_succ.mpr (.top hmem hdefined (runs_superclass?_none hsuper)),
              Linkage.Grows.refl .., ascent_top h hi hseen ht hmem hsuper⟩
        | some name =>
            obtain ⟨t', cls', m, ht', rfl, hparent, hgrows, hdefined'⟩ :=
              h.runs_superclass? hi hl ht hsuper
            have hseen' := hseen.cons ht hmem
            obtain ⟨above, seen', l', hrest, hgrows', hascent⟩ :=
              ih (hl.grows hgrows) hseen' ht' hdefined' (by rw [List.length_cons]; omega)
            exact ⟨⟨t, cls, false⟩ :: above, seen', l',
              runs_superclasses_succ.mpr (.step hmem hdefined hparent hrest),
              hgrows.trans hgrows', hascent.step h hi ht hsuper⟩

/-! ### Interfaces -/

/-- The interfaces that those in the queue lead to, without those seen before. -/
structure Spread (i : ClassIndex) (d : Disk) (seen : List String)
    (waiting : List (String × Chain)) (beside : List Supertype) : Prop where
  has : ∀ s ∈ beside, i.Has d s.type s.cls ∧ s.isInterface = true
  start : ∀ w ∈ waiting, w.1 ∈ seen ∨ ∃ s ∈ beside, s.type.name = w.1
  sound : ∀ s ∈ beside, ∃ w ∈ waiting, ReflTransGen i.ListsInterface w.1 s.type.name
  closed : ∀ s ∈ beside, ∀ n, i.ListsInterface s.type.name n →
    n ∈ seen ∨ ∃ s ∈ beside, s.type.name = n

/-- What waits is listed by classes of the index, and is resolved from where these are
defined. -/
def Waits (i : ClassIndex) (d : Disk) (waiting : List (String × Chain)) : Prop :=
  ∀ w ∈ waiting, ∃ t cls, i.Has d t cls ∧ w ∈ cls.interfaces

variable {waiting : List (String × Chain)} {beside : List Supertype}

/-- The interfaces of a class wait with the loader that defined it. -/
theorem mem_interfaces {c : DefinedClass} {w : String × Chain} :
    w ∈ c.interfaces ↔ w.1 ∈ c.decl.interfaces ∧ w.2 = c.chain := by
  unfold DefinedClass.interfaces
  rw [List.mem_map]
  constructor
  · rintro ⟨n, hn, rfl⟩
    exact ⟨hn, rfl⟩
  · rintro ⟨hn, hchain⟩
    exact ⟨w.1, hn, Prod.ext rfl hchain.symm⟩

/-- An interface that was seen before leads nowhere. -/
theorem Spread.skip {w : String × Chain} (hspread : i.Spread d seen waiting beside)
    (hw : w.1 ∈ seen) : i.Spread d seen (w :: waiting) beside where
  has := hspread.has
  start := List.forall_mem_cons.mpr ⟨Or.inl hw, hspread.start⟩
  sound s hs := by
    obtain ⟨v, hv, hreach⟩ := hspread.sound s hs
    exact ⟨v, List.mem_cons_of_mem _ hv, hreach⟩
  closed := hspread.closed

/-- **One more interface.** -/
theorem Spread.step (h : i.Closed d) (hi : i.Made F d) {w : String × Chain} (ht : i.Has d t cls)
    (hname : t.name = w.1)
    (hspread : i.Spread d (w.1 :: seen) (waiting ++ cls.interfaces) beside) :
    i.Spread d seen (w :: waiting) (⟨t, cls, true⟩ :: beside) where
  has := List.forall_mem_cons.mpr ⟨⟨ht, rfl⟩, hspread.has⟩
  start := by
    refine List.forall_mem_cons.mpr ⟨Or.inr ⟨_, List.mem_cons_self, hname⟩, fun v hv => ?_⟩
    obtain hv | ⟨s, hs, hsame⟩ := hspread.start v (List.mem_append_left _ hv)
    · obtain hv | hv := List.mem_cons.mp hv
      · exact Or.inr ⟨_, List.mem_cons_self, hname.trans hv.symm⟩
      · exact Or.inl hv
    · exact Or.inr ⟨s, List.mem_cons_of_mem _ hs, hsame⟩
  sound := by
    refine List.forall_mem_cons.mpr ⟨⟨w, List.mem_cons_self, hname ▸ ReflTransGen.refl⟩,
      fun s hs => ?_⟩
    obtain ⟨v, hv, hreach⟩ := hspread.sound s hs
    obtain hv | hv := List.mem_append.mp hv
    · exact ⟨v, List.mem_cons_of_mem _ hv, hreach⟩
    · have hlists := (h.listsInterface_iff hi ht).mpr (mem_interfaces.mp hv).1
      rw [hname] at hlists
      exact ⟨w, List.mem_cons_self, ReflTransGen.head hlists hreach⟩
  closed := by
    have hsplit : ∀ n, (n ∈ w.1 :: seen ∨ ∃ s ∈ beside, s.type.name = n) →
        n ∈ seen ∨ ∃ s ∈ (⟨t, cls, true⟩ : Supertype) :: beside, s.type.name = n := by
      rintro n (hn | ⟨s, hs, hsame⟩)
      · obtain rfl | hn := List.mem_cons.mp hn
        · exact Or.inr ⟨_, List.mem_cons_self, hname⟩
        · exact Or.inl hn
      · exact Or.inr ⟨s, List.mem_cons_of_mem _ hs, hsame⟩
    refine List.forall_mem_cons.mpr ⟨fun n hn => hsplit n ?_,
      fun s hs n hn => hsplit n (hspread.closed s hs n hn)⟩
    have hmem := (h.listsInterface_iff hi ht).mp hn
    exact hspread.start (n, cls.chain)
      (List.mem_append_right _ (mem_interfaces.mpr ⟨hmem, rfl⟩))

/-- A step that takes one new name, and makes the interfaces of its class wait, leaves enough
steps for those and for the names there still is room for. -/
theorem room_of_step {seen : List String} {name : String} {more : List (String × Chain)}
    {room steps : Nat} (hroom : (name :: seen).length ≤ room)
    (hmore : more.length ≤ interfaceBound)
    (hsteps : waiting.length + 1 + interfaceBound * (room - seen.length) < steps + 1) :
    (waiting ++ more).length + interfaceBound * (room - (name :: seen).length) < steps := by
  rw [List.length_cons] at hroom ⊢
  have hleft : room - seen.length = room - (seen.length + 1) + 1 := by omega
  rw [hleft, Nat.mul_succ] at hsteps
  rw [List.length_append]
  omega

/-- **The interfaces**: the search succeeds and is complete. Each step takes one that waits;
one that is new makes others wait, but there is room for so many new ones only. -/
theorem Closed.exists_spread (h : i.Closed d) (hi : i.Made F d) (hl : l.Faithful d F)
    (steps : Nat) (hseen : i.Seen d seen) (hwaits : i.Waits d waiting)
    (hsteps : waiting.length + interfaceBound * (d.capacity - seen.length) < steps) :
    ∃ beside l', Runs (superinterfaces d steps seen waiting) l beside l' ∧
      l.Grows d F l' ∧ i.Spread d seen waiting beside := by
  induction steps generalizing seen waiting l with
  | zero => omega
  | succ steps ih =>
      cases waiting with
      | nil =>
          exact ⟨[], l, runs_pure.mpr ⟨rfl, rfl⟩, Linkage.Grows.refl .., by simp, by simp, by simp,
            by simp⟩
      | cons w waiting =>
          obtain ⟨⟨t, cls, ht, hw⟩, hrest⟩ := List.forall_mem_cons.mp hwaits
          obtain ⟨hlisted, hchain⟩ := mem_interfaces.mp hw
          rw [List.length_cons] at hsteps
          by_cases hmem : w.1 ∈ seen
          · obtain ⟨beside, l', hrun, hgrows, hspread⟩ := ih hl hseen hrest (by omega)
            exact ⟨beside, l', runs_superinterfaces_cons.mpr (.known hmem hrun), hgrows,
              hspread.skip hmem⟩
          · obtain ⟨t', cls', m, ht', hname, hsome, hgrows, hdefined⟩ :=
              h.runs_resolve? hi hl ht (Or.inr hlisted)
            rw [← hchain] at hsome
            have hseen' : i.Seen d (w.1 :: seen) := hname ▸ hseen.cons ht' (hname ▸ hmem)
            have hwaits' : i.Waits d (waiting ++ cls'.interfaces) :=
              List.forall_mem_append.mpr ⟨hrest, fun v hv => ⟨t', cls', ht', hv⟩⟩
            obtain ⟨beside, l', hrun, hgrows', hspread⟩ := ih (hl.grows hgrows) hseen' hwaits'
              (room_of_step hseen'.length_le ht'.length_interfaces_le hsteps)
            exact ⟨⟨t', cls', true⟩ :: beside, l',
              runs_superinterfaces_cons.mpr (.found hmem hsome hdefined hrun),
              hgrows.trans hgrows', hspread.step h hi ht' hname⟩

/-! ### Supertypes -/

/-- Some types are the supertypes of a type of the index: those reached as superclasses, and
all, are the ones that the declarations lead to. -/
structure Supertypes (i : ClassIndex) (d : Disk) (t : TypeRef) (all : List Supertype) : Prop where
  has : ∀ s ∈ all, i.Has d s.type s.cls
  classes : ∀ n, (∃ s ∈ all, s.isInterface = false ∧ s.type.name = n) ↔
    ReflTransGen i.Inherits t.name n
  names : ∀ n, (∃ s ∈ all, s.type.name = n) ↔
    ∃ m, ReflTransGen i.Inherits t.name m ∧ ReflTransGen i.ListsInterface m n

/-- The interfaces that the superclasses of a type list. -/
def firstWaiting (above : List Supertype) : List (String × Chain) :=
  above.flatMap fun s => s.cls.interfaces

variable {above : List Supertype} {seen' : List String}

/-- Of an ascent that began with nothing seen, the names seen are those of the superclasses. -/
theorem Ascent.mem_seen_iff (hascent : i.Ascent d t [] above seen') {n : String} :
    n ∈ seen' ↔ ∃ s ∈ above, s.type.name = n := by
  rw [hascent.seen_eq, List.append_nil, List.mem_reverse, List.mem_map]

/-- What the superclasses list waits to be resolved. -/
theorem Ascent.waits (hascent : i.Ascent d t [] above seen') : i.Waits d (firstWaiting above) :=
  List.forall_mem_flatMap.mpr fun s hs _ hw => ⟨s.type, s.cls, (hascent.has s hs).1, hw⟩

/-- It is no more than each of them has room for. -/
theorem length_firstWaiting_le (h : ∀ s ∈ above, s.cls.interfaces.length ≤ interfaceBound) :
    (firstWaiting above).length ≤ interfaceBound * above.length := by
  unfold firstWaiting
  induction above with
  | nil => exact Nat.le_refl 0
  | cons s above ih =>
      rw [List.flatMap_cons, List.length_append, List.length_cons, Nat.mul_succ, Nat.add_comm]
      exact Nat.add_le_add (ih fun s' hs' => h s' (List.mem_cons_of_mem s hs'))
        (h s List.mem_cons_self)

/-- What the superclasses list leaves steps enough for the interfaces, and for those of every
class there still is room for. -/
theorem enough_steps_of_room (hlist : ∀ s ∈ above, s.cls.interfaces.length ≤ interfaceBound)
    {names : List String} {room bound : Nat} (hlength : above.length ≤ names.length)
    (hroom : names.length ≤ room) (hbound : room < bound) :
    (firstWaiting above).length + interfaceBound * (room - names.length) <
      2 * bound * interfaceBound :=
  calc (firstWaiting above).length + interfaceBound * (room - names.length)
      ≤ interfaceBound * names.length + interfaceBound * (room - names.length) :=
        Nat.add_le_add_right
          (Nat.le_trans (length_firstWaiting_le hlist) (Nat.mul_le_mul_left _ hlength)) _
    _ = interfaceBound * room := by rw [← Nat.mul_add, Nat.add_sub_cancel' hroom]
    _ < interfaceBound * (2 * bound) := Nat.mul_lt_mul_of_pos_left (by omega) (by decide)
    _ = 2 * bound * interfaceBound := Nat.mul_comm ..

/-- So the steps that a session takes are enough for the interfaces. -/
theorem enough_steps (hlist : ∀ s ∈ above, s.cls.interfaces.length ≤ interfaceBound)
    {names : List String} (hlength : above.length ≤ names.length)
    (hroom : names.length ≤ d.capacity) (l : Linkage) :
    (firstWaiting above).length + interfaceBound * (d.capacity - names.length) <
      2 * classBound d l * interfaceBound := by
  have hbound : classBound d l = l.defined.length + d.capacity + 1 := rfl
  exact enough_steps_of_room hlist hlength hroom (by omega)

/-- **Superclasses and interfaces together** are all supertypes. -/
theorem Ascent.supertypes (h : i.Closed d) (hi : i.Made F d)
    (hascent : i.Ascent d t [] above seen')
    (hspread : i.Spread d seen' (firstWaiting above) beside) :
    i.Supertypes d t (above ++ beside) := by
  have hclasses : ∀ n, (∃ s ∈ above, s.type.name = n) ↔ ReflTransGen i.Inherits t.name n := by
    intro n
    constructor
    · rintro ⟨s, hs, rfl⟩
      exact hascent.sound s hs
    · intro hreach
      induction hreach with
      | refl => exact hascent.mem_seen_iff.mp hascent.start
      | tail _ hinherits ih =>
          obtain ⟨s, hs, rfl⟩ := ih
          exact hascent.mem_seen_iff.mp (hascent.closed s hs _ hinherits)
  have hall : ∀ n, n ∈ seen' ∨ (∃ s ∈ beside, s.type.name = n) →
      ∃ s ∈ above ++ beside, s.type.name = n := by
    rintro n (hn | ⟨s, hs, hname⟩)
    · obtain ⟨s, hs, hname⟩ := hascent.mem_seen_iff.mp hn
      exact ⟨s, List.mem_append_left _ hs, hname⟩
    · exact ⟨s, List.mem_append_right _ hs, hname⟩
  refine ⟨fun s hs => ?_, fun n => ?_, fun n => ?_⟩
  · obtain hs | hs := List.mem_append.mp hs
    · exact (hascent.has s hs).1
    · exact (hspread.has s hs).1
  · rw [← hclasses]
    constructor
    · rintro ⟨s, hs, hclass, hname⟩
      obtain hs | hs := List.mem_append.mp hs
      · exact ⟨s, hs, hname⟩
      · rw [(hspread.has s hs).2] at hclass
        cases hclass
    · rintro ⟨s, hs, hname⟩
      exact ⟨s, List.mem_append_left _ hs, (hascent.has s hs).2, hname⟩
  · constructor
    · rintro ⟨s, hs, rfl⟩
      obtain hs | hs := List.mem_append.mp hs
      · exact ⟨s.type.name, hascent.sound s hs, ReflTransGen.refl⟩
      · -- an interface was found through one that a superclass lists
        obtain ⟨w, hw, hreach⟩ := hspread.sound s hs
        obtain ⟨u, hu, hw⟩ := List.mem_flatMap.mp hw
        have hlists := (h.listsInterface_iff hi (hascent.has u hu).1).mpr (mem_interfaces.mp hw).1
        exact ⟨u.type.name, hascent.sound u hu, ReflTransGen.head hlists hreach⟩
    · rintro ⟨m, hinherits, hreach⟩
      induction hreach with
      | refl =>
          obtain ⟨s, hs, hname⟩ := (hclasses m).mpr hinherits
          exact ⟨s, List.mem_append_left _ hs, hname⟩
      | tail _ hlists ih =>
          obtain ⟨s, hs, rfl⟩ := ih
          refine hall _ ?_
          obtain hs | hs := List.mem_append.mp hs
          · have hmem := (h.listsInterface_iff hi (hascent.has s hs).1).mp hlists
            exact hspread.start (_, s.cls.chain) (List.mem_flatMap.mpr
              ⟨s, hs, mem_interfaces.mpr ⟨hmem, rfl⟩⟩)
          · exact hspread.closed s hs _ hlists

/-- **The supertypes of an indexed class** can be computed, and are all there are. -/
theorem Closed.runs_supertypes (h : i.Closed d) (hi : i.Made F d) (hl : l.Faithful d F)
    (ht : i.Has d t cls) (hdefined : l.find? t.scope t.name = some cls) :
    ∃ all l', Runs (supertypes d t) l all l' ∧ l.Grows d F l' ∧ i.Supertypes d t all := by
  have hbound : classBound d l = l.defined.length + d.capacity + 1 := rfl
  obtain ⟨above, seen', m, hrun, hgrows, hascent⟩ :=
    h.exists_ascent hi hl (classBound d l) ⟨List.nodup_nil, by simp⟩ ht hdefined
      (by rw [hbound, List.length_nil]; omega)
  have hsteps := enough_steps (fun s hs => (hascent.has s hs).1.length_interfaces_le)
    (by simp [hascent.seen_eq]) hascent.seen.length_le l
  obtain ⟨beside, l', hrun', hgrows', hspread⟩ :=
    h.exists_spread hi (hl.grows hgrows) _ hascent.seen hascent.waits hsteps
  refine ⟨above ++ beside, l', ?_, hgrows.trans hgrows', hascent.supertypes h hi hspread⟩
  unfold Classpath.supertypes
  refine runs_bind.mpr ⟨l, l, runs_get.mpr ⟨rfl, rfl⟩, runs_bind.mpr ⟨(above, seen'), m, hrun, ?_⟩⟩
  exact runs_bind.mpr ⟨beside, l', hrun', runs_pure.mpr ⟨rfl, rfl⟩⟩

end ClassIndex

end Classpath
