import Classpath.Proofs.Agreement
import Classpath.Proofs.Supertypes

/-!
# Resolution Does Not Depend on History

The classes that were defined before are asked before the disk is, at every loader of a chain.
So one class that is kept in the wrong scope would hide what the loaders above that scope have.
`Linkage.Delegated` rules this out: a class is kept in a scope only if delegation from the
loader of that scope ends there, which means that its entries hold the class and that no loader
above it has the class. Every operation of a session preserves this.

Two sessions on one disk may have come to different classes. `Agree` says that a computation
started after the one and a computation started after the other end with the same value, or
fail in the same way. They are two computations, since the traversals of supertypes take a
bound from the number of classes that are defined already; `agree_superclasses` and
`agree_superinterfaces` hold for any two bounds that are large enough.

## Main results

* `Linkage.Reached.delegated`: what every session preserves.
* `Linkage.Delegated.outcome_superclasses`, `Linkage.Delegated.outcome_superinterfaces`,
  `Linkage.Delegated.outcome_supertypesWithin`: with more steps the traversals come to the same.
* `agree_resolve`, `agree_methods`, `agree_fields`: two sessions come to the same.
* `Linkage.history_irrelevant`: any session and one that has just begun.
-/

namespace Classpath

variable {α β : Type} {d : Disk} {F : Loaders} {l m : Linkage}

/-! ### Classes as delegation finds them -/

/-- The loaders above one of a chain come behind it in the chain. -/
theorem Chain.chains_of_split {c owner : Chain} {nearer farther : List Chain}
    (h : c.chains = nearer ++ owner :: farther) : owner.chains = owner :: farther := by
  obtain ⟨x, ps⟩ := c
  induction ps generalizing x nearer with
  | nil =>
      rw [chains_single, eq_comm, List.append_eq_singleton_iff] at h
      obtain ⟨rfl, h⟩ | ⟨rfl, h⟩ := h
      · obtain ⟨rfl, rfl⟩ := List.cons.inj h
        exact chains_single x
      · cases h
  | cons p ps ih =>
      rw [chains_cons] at h
      cases nearer with
      | nil =>
          obtain ⟨rfl, rfl⟩ := List.cons.inj h
          exact chains_cons x p ps
      | cons _ nearer => exact ih p (List.cons.inj h).2

namespace Linkage

/-- Every class that is defined is the one that a lookup in the files alone finds from the
loader of its scope, and belongs to this loader. -/
structure Delegated (d : Disk) (F : Loaders) (l : Linkage) : Prop where
  found : ∀ {s : Scope} {n : String} {c : DefinedClass}, l.find? s n = some c →
    c.chain ∈ F.made ∧ c.chain.scope = s ∧
      ({} : Linkage).class? d n c.chain = .ok (some (⟨n, s⟩, c))

/-- Whether the class of a type is defined. -/
def Defines (l : Linkage) (t : TypeRef) : Prop := (l.find? t.scope t.name).isSome

theorem delegated_empty : ({} : Linkage).Delegated d F where
  found hfind := by cases hfind

/-- A class that delegation finds was read by the loader that it belongs to. -/
theorem Delegated.isRead (h : l.Delegated d F) {s : Scope} {n : String} {c : DefinedClass}
    (hfind : l.find? s n = some c) : c.IsRead d F s n := by
  obtain ⟨hmade, -, hclass⟩ := h.found hfind
  exact isRead_of_class? hmade hclass

/-- Classes that are where delegation finds them are what the loaders have on the disk. -/
theorem Delegated.faithful (h : l.Delegated d F) : l.Faithful d F where
  kept hfind := by cases hfind
  added hfind :=
    have hread := h.isRead hfind
    Or.inr ⟨hread.made, hread.scope_eq, hread.own⟩

/-- What a lookup in the files finds, it finds from the loader that has it as well. -/
theorem class?_of_owner {n : String} {c : Chain} {t : TypeRef} {cls : DefinedClass}
    (h : ({} : Linkage).class? d n c = .ok (some (t, cls))) :
    ({} : Linkage).class? d n cls.chain = .ok (some (t, cls)) := by
  obtain ⟨nearer, owner, farther, hsplit, hnone, hown, rfl⟩ := class?_eq_some_iff.mp h
  obtain ⟨_, _, -, -, -, rfl⟩ := own?_empty_eq_some_iff.mp hown
  exact class?_eq_some_iff.mpr ⟨[], owner, farther, Chain.chains_of_split hsplit, hnone, hown, rfl⟩

/-- **The definition of what a lookup found** puts the class where delegation finds it. -/
theorem Delegated.define (h : l.Delegated d F) {n : String} {c : Chain} (hc : c ∈ F.made)
    {t : TypeRef} {cls : DefinedClass}
    (hclass : ({} : Linkage).class? d n c = .ok (some (t, cls))) :
    (l.define t.scope t.name cls).Delegated d F where
  found hfind := by
    rw [find?_define] at hfind
    split at hfind
    · rename_i hcond
      obtain ⟨-, rfl, rfl⟩ := hcond
      cases hfind
      have hread := isRead_of_class? hc hclass
      refine ⟨hread.made, hread.scope_eq, ?_⟩
      have howner := class?_of_owner hclass
      rwa [← name_of_class? hclass] at howner
    · exact h.found hfind

end Linkage

open Linkage (Delegated Defines)

/-! ### Computations after different histories -/

/-- Whatever classes two sessions have come to, if they satisfy `P`, the computation `x` after
the one and `y` after the other end with the same value, and the classes by then satisfy `Q`,
or they fail with the same error. Sessions that had the same classes have the same afterwards. -/
def Agree (d : Disk) (F : Loaders) (P : Linkage → Prop) (x y : Linked α)
    (Q : α → Linkage → Prop) : Prop :=
  ∀ l m : Linkage, l.Delegated d F → m.Delegated d F → P l → P m →
    ∃ r l' m', outcome x l = (r, l') ∧ outcome y m = (r, m') ∧ (l = m → l' = m') ∧
      l'.Delegated d F ∧ m'.Delegated d F ∧ ∀ a, r = .ok a → Q a l' ∧ Q a m'

/-- A value agrees with itself. -/
theorem agree_pure {P : Linkage → Prop} {Q : α → Linkage → Prop} {a : α}
    (h : ∀ l, P l → Q a l) : Agree d F P (pure a) (pure a) Q := by
  intro l m hl hm hPl hPm
  refine ⟨.ok a, l, m, rfl, rfl, id, hl, hm, fun b hb => ?_⟩
  cases hb
  exact ⟨h l hPl, h m hPm⟩

theorem agree_throw {P : Linkage → Prop} {Q : α → Linkage → Prop} {e : LinkError} :
    Agree d F P (throw e) (throw e) Q := by
  intro l m hl hm _ _
  exact ⟨.error e, l, m, rfl, rfl, id, hl, hm, fun b hb => by cases hb⟩

/-- **Sequences agree** if their parts do. -/
theorem agree_bind {P : Linkage → Prop} {Q : α → Linkage → Prop} {R : β → Linkage → Prop}
    {x y : Linked α} {f g : α → Linked β} (hx : Agree d F P x y Q)
    (hf : ∀ a, (∃ l, Q a l) → Agree d F (Q a) (f a) (g a) R) :
    Agree d F P (x >>= f) (y >>= g) R := by
  intro l m hl hm hPl hPm
  obtain ⟨r, l', m', hrun, hrun', hsame, hl', hm', hpost⟩ := hx l m hl hm hPl hPm
  rw [outcome_bind, outcome_bind, hrun, hrun']
  rcases r with e | a
  · exact ⟨.error e, l', m', rfl, rfl, hsame, hl', hm', fun b hb => by cases hb⟩
  · obtain ⟨hQl, hQm⟩ := hpost a rfl
    obtain ⟨r, l'', m'', hrun, hrun', hsame', hpost⟩ := hf a ⟨l', hQl⟩ l' m' hl' hm' hQl hQm
    exact ⟨r, l'', m'', hrun, hrun', hsame' ∘ hsame, hpost⟩

/-- Computations that are given the classes defined so far, which may differ. -/
theorem agree_get {P : Linkage → Prop} {Q : α → Linkage → Prop} {f g : Linkage → Linked α}
    (h : ∀ l m, Agree d F P (f l) (g m) Q) : Agree d F P (get >>= f) (get >>= g) Q := by
  intro l m hl hm hPl hPm
  rw [outcome_bind, outcome_bind]
  exact h l m l m hl hm hPl hPm

/-- What is asked of the classes before may be more, and what is said of those after less. -/
theorem Agree.mono {P P' : Linkage → Prop} {Q Q' : α → Linkage → Prop} {x y : Linked α}
    (h : Agree d F P x y Q) (hP : ∀ l, P' l → P l) (hQ : ∀ a l, Q a l → Q' a l) :
    Agree d F P' x y Q' := by
  intro l m hl hm hPl hPm
  obtain ⟨r, l', m', hrun, hrun', hsame, hl', hm', hpost⟩ := h l m hl hm (hP l hPl) (hP m hPm)
  exact ⟨r, l', m', hrun, hrun', hsame, hl', hm',
    fun a ha => ⟨hQ a l' (hpost a ha).1, hQ a m' (hpost a ha).2⟩⟩

/-- The computation comes to the same after two sessions. -/
theorem Agree.outcome_eq {P : Linkage → Prop} {Q : α → Linkage → Prop} {x y : Linked α}
    (h : Agree d F P x y Q) (hl : l.Delegated d F) (hm : m.Delegated d F) (hPl : P l)
    (hPm : P m) : (outcome x l).1 = (outcome y m).1 := by
  obtain ⟨r, l', m', hrun, hrun', -⟩ := h l m hl hm hPl hPm
  rw [hrun, hrun']

/-- Two computations that agree come to the same where they are both started with the same
classes: the same value or error, and the same classes by then. -/
theorem Agree.outcome_eq_of_same {P : Linkage → Prop} {Q : α → Linkage → Prop} {x y : Linked α}
    (h : Agree d F P x y Q) (hl : l.Delegated d F) (hPl : P l) : outcome x l = outcome y l := by
  obtain ⟨r, l', m', hrun, hrun', hsame, -⟩ := h l l hl hl hPl hPl
  rw [hrun, hrun', hsame rfl]

/-- A computation that agrees with itself leaves classes as delegation finds them. -/
theorem Agree.delegated {P : Linkage → Prop} {Q : α → Linkage → Prop} {x y : Linked α}
    (h : Agree d F P x y Q) (hl : l.Delegated d F) (hPl : P l) :
    (outcome x l).2.Delegated d F := by
  obtain ⟨r, l', m', hrun, -, -, hl', -⟩ := h l l hl hl hPl hPl
  rwa [hrun]

/-! ### Resolution -/

/-- **A name is resolved to the same type**, whose class is defined by then. -/
theorem agree_resolve? {n : String} {c : Chain} (hc : c ∈ F.made) :
    Agree d F (fun _ => True) (resolve? d n c) (resolve? d n c)
      fun t l => ∀ t' ∈ t, t'.name = n ∧ l.Defines t' := by
  intro l m hl hm _ _
  rw [outcome_resolve?, outcome_resolve?, hl.faithful.class?_eq hc, hm.faithful.class?_eq hc]
  rcases hclass : ({} : Linkage).class? d n c with e | _ | ⟨t, cls⟩
  · exact ⟨.error e, l, m, rfl, rfl, id, hl, hm, fun a ha => by cases ha⟩
  · refine ⟨.ok none, l, m, rfl, rfl, id, hl, hm, fun a ha => ?_⟩
    cases ha
    simp
  · refine ⟨.ok (some t), _, _, rfl, rfl, fun h => by rw [h], hl.define hc hclass,
      hm.define hc hclass, fun a ha => ?_⟩
    cases ha
    have hname := Linkage.name_of_class? hclass
    have hdefines : ∀ l : Linkage, l.Delegated d F →
        (l.define t.scope t.name cls).Defines t := by
      intro l hl
      rw [← hl.faithful.class?_eq hc] at hclass
      simp [Defines, Linkage.find?_define_of_class? hclass]
    exact ⟨by simpa using ⟨hname, hdefines l hl⟩, by simpa using ⟨hname, hdefines m hm⟩⟩

/-- A name that has to be there is resolved to the same type, or is missing in both sessions. -/
theorem agree_resolve {n : String} {c : Chain} (hc : c ∈ F.made) :
    Agree d F (fun _ => True) (resolve d n c) (resolve d n c) fun t l => l.Defines t := by
  refine agree_bind (agree_resolve? hc) fun t _ => ?_
  cases t with
  | none => exact agree_throw
  | some t => exact agree_pure fun l h => (h t rfl).2

/-- The class of a type that is defined is the one that was read from the disk. -/
theorem agree_definedClass (t : TypeRef) :
    Agree d F (·.Defines t) (definedClass t.scope t.name) (definedClass t.scope t.name)
      fun c _ => c.IsRead d F t.scope t.name := by
  intro l m hl hm hPl hPm
  obtain ⟨c, hc⟩ := Option.isSome_iff_exists.mp hPl
  obtain ⟨c', hc'⟩ := Option.isSome_iff_exists.mp hPm
  have hread := hl.isRead hc
  obtain rfl := hread.unique (hm.isRead hc')
  refine ⟨.ok c, l, m, runs_definedClass_iff.mpr ⟨hc, rfl⟩, runs_definedClass_iff.mpr ⟨hc', rfl⟩,
    id, hl, hm, fun a ha => ?_⟩
  cases ha
  exact ⟨hread, hread⟩

/-! ### Names of classes -/

namespace DefinedClass.IsRead

variable {s : Scope} {n : String} {c : DefinedClass}

/-- The class file that a class was read from. -/
theorem exists_classFile (h : c.IsRead d F s n) :
    ∃ bytes ∈ d.classFiles, ClassDecl.ofBytes bytes = .ok c.decl ∧ c.decl.name = n := by
  obtain ⟨bytes, decl, hbytes, hdecl, hname, hc⟩ := Linkage.own?_empty_eq_some_iff.mp h.own
  have hdecl' : decl = c.decl := (congrArg DefinedClass.decl hc).symm
  exact ⟨bytes, ClassDecl.mem_classFiles hbytes hdecl, hdecl' ▸ hdecl, hdecl' ▸ hname⟩

/-- A class that was read declares no more interfaces than a class file has room for. -/
theorem length_interfaces_le (h : c.IsRead d F s n) : c.interfaces.length ≤ interfaceBound := by
  obtain ⟨bytes, -, hdecl, -⟩ := h.exists_classFile
  exact DefinedClass.length_interfaces_le hdecl

end DefinedClass.IsRead

/-- Names of different classes on the disk. -/
structure ReadNames (d : Disk) (F : Loaders) (names : List String) : Prop where
  nodup : names.Nodup
  read : ∀ n ∈ names, ∃ s c, DefinedClass.IsRead d F s n c

theorem ReadNames.nil : ReadNames d F [] := ⟨List.nodup_nil, by simp⟩

/-- The name of a class on the disk that is not among the others is one more. -/
theorem ReadNames.cons {names : List String} (h : ReadNames d F names) {s : Scope} {n : String}
    {c : DefinedClass} (hc : c.IsRead d F s n) (hnew : n ∉ names) : ReadNames d F (n :: names) where
  nodup := List.nodup_cons.mpr ⟨hnew, h.nodup⟩
  read := List.forall_mem_cons.mpr ⟨⟨s, c, hc⟩, h.read⟩

/-- There are no more of them than the disk has room for. -/
theorem ReadNames.length_le {names : List String} (h : ReadNames d F names) :
    names.length ≤ d.capacity := by
  refine length_le_of_names h.nodup fun n hn => ?_
  obtain ⟨s, c, hc⟩ := h.read n hn
  obtain ⟨bytes, hbytes, hdecl, hname⟩ := hc.exists_classFile
  exact ⟨bytes, hbytes, c.decl, hdecl, hname⟩

/-! ### Supertypes -/

/-- **The superclass of a class is the same**, and its class is defined by then. -/
theorem agree_superclass? {c : DefinedClass} (hc : c.chain ∈ F.made) :
    Agree d F (fun _ => True) (c.superclass? d) (c.superclass? d)
      fun t l => ∀ t' ∈ t, l.Defines t' := by
  unfold DefinedClass.superclass?
  split
  · exact agree_pure (by simp)
  · exact (agree_resolve? hc).mono (fun _ h => h) fun t l h t' ht' => (h t' ht').2

/-- **The superclasses are the same**, whatever bound the traversals take, if it is large
enough. -/
theorem agree_superclasses (steps steps' : Nat) {seen : List String} {t : TypeRef}
    (hseen : ReadNames d F seen) (hsteps : d.capacity < seen.length + steps)
    (hsteps' : d.capacity < seen.length + steps') :
    Agree d F (·.Defines t) (superclasses d steps seen t) (superclasses d steps' seen t)
      fun r _ => (∀ s ∈ r.1, s.IsRead d F) ∧ ReadNames d F r.2 ∧
        r.1.length + seen.length ≤ r.2.length := by
  induction steps generalizing steps' seen t with
  | zero =>
      have := hseen.length_le
      omega
  | succ steps ih =>
      cases steps' with
      | zero =>
          have := hseen.length_le
          omega
      | succ steps' =>
          unfold superclasses
          split
          · exact agree_pure fun _ _ => ⟨by simp, hseen, by simp⟩
          · rename_i hnew
            refine agree_bind (agree_definedClass t) fun c hdefined => ?_
            obtain ⟨_, hc⟩ := hdefined
            have hseen' := hseen.cons hc (by simpa using hnew)
            refine agree_bind ((agree_superclass? hc.made).mono (fun _ _ => trivial)
              fun _ _ h => h) fun parent _ => ?_
            have hone : ∀ s ∈ [(⟨t, c, false⟩ : Supertype)], s.IsRead d F :=
              List.forall_mem_singleton.mpr hc
            cases parent with
            | none => exact agree_pure fun _ _ => ⟨hone, hseen', Nat.le_of_eq (Nat.add_comm 1 _)⟩
            | some parent =>
                have hmore : ∀ k, d.capacity < seen.length + (k + 1) →
                    d.capacity < (t.name :: seen).length + k := by
                  intro k hk
                  rw [List.length_cons]
                  omega
                refine agree_bind ((ih steps' hseen' (hmore _ hsteps) (hmore _ hsteps')).mono
                  (fun _ h => h parent rfl) fun _ _ h => h) fun r _ => agree_pure fun _ hr => ?_
                obtain ⟨hread, hnames, hlength⟩ := hr
                refine ⟨List.forall_mem_cons.mpr ⟨hc, hread⟩, hnames, ?_⟩
                rw [List.length_cons] at hlength
                show r.1.length + 1 + seen.length ≤ r.2.length
                omega

/-- The interfaces that a class declares are resolved by a loader that was made. -/
theorem made_of_mem_interfaces {s : Supertype} (h : s.IsRead d F) :
    ∀ w ∈ s.cls.interfaces, w.2 ∈ F.made := by
  intro w hw
  obtain ⟨n, -, rfl⟩ := List.mem_map.mp hw
  exact h.made

/-- **The interfaces are the same**, whatever bound the traversals take, if it is large enough.
A name that cannot be resolved counts as seen, but takes none of the room on the disk; `taken`
are the names that do. -/
theorem agree_superinterfaces (steps steps' : Nat) {seen taken : List String}
    {waiting : List (String × Chain)} (hwaiting : ∀ w ∈ waiting, w.2 ∈ F.made)
    (htaken : ReadNames d F taken) (hsub : taken ⊆ seen)
    (hsteps : waiting.length + interfaceBound * (d.capacity - taken.length) < steps)
    (hsteps' : waiting.length + interfaceBound * (d.capacity - taken.length) < steps') :
    Agree d F (fun _ => True) (superinterfaces d steps seen waiting)
      (superinterfaces d steps' seen waiting) fun r _ => ∀ s ∈ r, s.IsRead d F := by
  induction steps generalizing steps' seen taken waiting with
  | zero => omega
  | succ steps ih =>
      cases steps' with
      | zero => omega
      | succ steps' =>
          cases waiting with
          | nil => exact agree_pure (by simp)
          | cons w waiting =>
              obtain ⟨hw, hrest⟩ := List.forall_mem_cons.mp hwaiting
              rw [List.length_cons] at hsteps hsteps'
              unfold superinterfaces
              split
              · exact ih steps' hrest htaken hsub (by omega) (by omega)
              · rename_i hnew
                have hsub' := List.subset_cons_of_subset w.1 hsub
                refine agree_bind (agree_resolve? hw) fun t ht => ?_
                cases t with
                | none =>
                    exact (ih steps' hrest htaken hsub' (by omega) (by omega)).mono
                      (fun _ _ => trivial) fun _ _ h => h
                | some t =>
                    obtain ⟨_, ht⟩ := ht
                    have hname : t.name = w.1 := (ht t rfl).1
                    refine agree_bind ((agree_definedClass t).mono
                      (fun _ h => (h t rfl).2) fun _ _ h => h) fun c hdefined => ?_
                    obtain ⟨_, hc⟩ := hdefined
                    have hnot : t.name ∉ taken := fun hmem =>
                      hnew (by simpa [hname] using hsub hmem)
                    have htaken' := htaken.cons hc hnot
                    have hroom := htaken'.length_le
                    have hread : Supertype.IsRead d F ⟨t, c, true⟩ := hc
                    have hmore : ∀ w' ∈ waiting ++ c.interfaces, w'.2 ∈ F.made :=
                      List.forall_mem_append.mpr ⟨hrest, made_of_mem_interfaces hread⟩
                    have hsubset : t.name :: taken ⊆ w.1 :: seen :=
                      hname ▸ List.cons_subset_cons _ hsub
                    refine agree_bind ((ih steps' hmore htaken' hsubset
                      (ClassIndex.room_of_step hroom hc.length_interfaces_le hsteps)
                      (ClassIndex.room_of_step hroom hc.length_interfaces_le hsteps')).mono
                      (fun _ _ => trivial) fun _ _ h => h) fun r _ => agree_pure fun _ hr => ?_
                    exact List.forall_mem_cons.mpr ⟨hread, hr⟩

/-- The supertypes that so many steps of each of the two traversals lead to. -/
def supertypesWithin (d : Disk) (up beside : Nat) (type : TypeRef) : Linked (List Supertype) := do
  let (classes, seen) ← superclasses d up [] type
  let interfaces ← superinterfaces d beside seen (ClassIndex.firstWaiting classes)
  return classes ++ interfaces

/-- A session takes its own bound. -/
theorem outcome_supertypes (d : Disk) (t : TypeRef) (l : Linkage) :
    outcome (supertypes d t) l =
      outcome (supertypesWithin d (classBound d l) (2 * classBound d l * interfaceBound) t) l := by
  unfold supertypes
  rw [outcome_bind, outcome_get]
  rfl

/-- **The supertypes are the same**, whatever numbers of steps the traversals take, if they are
large enough for the disk. -/
theorem agree_supertypesWithin {up up' beside beside' : Nat} (hup : d.capacity < up)
    (hup' : d.capacity < up') (hbeside : 2 * (d.capacity + 1) * interfaceBound ≤ beside)
    (hbeside' : 2 * (d.capacity + 1) * interfaceBound ≤ beside') (t : TypeRef) :
    Agree d F (·.Defines t) (supertypesWithin d up beside t) (supertypesWithin d up' beside' t)
      fun _ _ => True := by
  refine agree_bind (agree_superclasses up up' ReadNames.nil (by simpa using hup)
    (by simpa using hup')) fun r ⟨_, hread, hnames, hlength⟩ => ?_
  have hwaiting : ∀ w ∈ ClassIndex.firstWaiting r.1, w.2 ∈ F.made :=
    List.forall_mem_flatMap.mpr fun s hs => made_of_mem_interfaces (hread s hs)
  have hsteps := ClassIndex.enough_steps_of_room (fun s hs => (show s.cls.IsRead d F s.type.scope
    s.type.name from hread s hs).length_interfaces_le) hlength hnames.length_le
      (Nat.lt_succ_self d.capacity)
  refine agree_bind ((agree_superinterfaces beside beside' hwaiting hnames (List.Subset.refl _)
    (Nat.lt_of_lt_of_le hsteps hbeside) (Nat.lt_of_lt_of_le hsteps hbeside')).mono
    (fun _ _ => trivial) fun _ _ h => h) fun r' _ => ?_
  exact agree_pure fun _ _ => trivial

/-- The bound that a session takes is large enough for the disk. -/
theorem capacity_lt_classBound (d : Disk) (l : Linkage) : d.capacity < classBound d l := by
  show d.capacity < l.defined.length + d.capacity + 1
  omega

/-- **The supertypes are the same**, though each session takes its own bound. -/
theorem agree_supertypes (t : TypeRef) :
    Agree d F (·.Defines t) (supertypes d t) (supertypes d t) fun _ _ => True := by
  have henough : ∀ l, 2 * (d.capacity + 1) * interfaceBound ≤ 2 * classBound d l * interfaceBound :=
    fun l => Nat.mul_le_mul_right _ (Nat.mul_le_mul_left _ (capacity_lt_classBound d l))
  exact agree_get fun l m => agree_supertypesWithin (capacity_lt_classBound d l)
    (capacity_lt_classBound d m) (henough l) (henough m) t

/-! ### The steps of the traversals -/

/-- More steps up through the superclasses change nothing, if there are more than the disk has
room for classes: neither what is found, nor a failure, nor what is defined by then. -/
theorem Linkage.Delegated.outcome_superclasses (hl : l.Delegated d F) {t : TypeRef}
    (ht : l.Defines t) {seen : List String} (hseen : ReadNames d F seen) {steps steps' : Nat}
    (hsteps : d.capacity < seen.length + steps) (hsteps' : d.capacity < seen.length + steps') :
    outcome (superclasses d steps seen t) l = outcome (superclasses d steps' seen t) l :=
  (agree_superclasses steps steps' hseen hsteps hsteps').outcome_eq_of_same hl ht

/-- Nor do more steps through the interfaces that wait, if all that wait can have their turn and
all that they can still make wait. -/
theorem Linkage.Delegated.outcome_superinterfaces (hl : l.Delegated d F)
    {seen taken : List String} {waiting : List (String × Chain)}
    (hwaiting : ∀ w ∈ waiting, w.2 ∈ F.made) (htaken : ReadNames d F taken) (hsub : taken ⊆ seen)
    {steps steps' : Nat}
    (hsteps : waiting.length + interfaceBound * (d.capacity - taken.length) < steps)
    (hsteps' : waiting.length + interfaceBound * (d.capacity - taken.length) < steps') :
    outcome (superinterfaces d steps seen waiting) l =
      outcome (superinterfaces d steps' seen waiting) l :=
  (agree_superinterfaces steps steps' hwaiting htaken hsub hsteps hsteps').outcome_eq_of_same hl
    trivial

/-- **The bounds are never what ends the traversals.** With any numbers of steps that are large
enough for the disk they come to what the session's own bound leads to, failures and definitions
of classes included. -/
theorem Linkage.Delegated.outcome_supertypesWithin (hl : l.Delegated d F) {t : TypeRef}
    (ht : l.Defines t) {up beside : Nat} (hup : d.capacity < up)
    (hbeside : 2 * (d.capacity + 1) * interfaceBound ≤ beside) :
    outcome (supertypesWithin d up beside t) l = outcome (supertypes d t) l := by
  rw [outcome_supertypes]
  refine (agree_supertypesWithin hup (capacity_lt_classBound d l) hbeside ?_
    t).outcome_eq_of_same hl ht
  exact Nat.mul_le_mul_right _ (Nat.mul_le_mul_left _ (capacity_lt_classBound d l))

/-! ### Members -/

/-- **The methods are the same.** -/
theorem agree_methods (t : TypeRef) :
    Agree d F (·.Defines t) (methods d t) (methods d t) fun _ _ => True :=
  agree_bind (agree_supertypes t) fun _ _ => agree_pure fun _ _ => trivial

/-- **The fields are the same.** -/
theorem agree_fields (t : TypeRef) :
    Agree d F (·.Defines t) (fields d t) (fields d t) fun _ _ => True :=
  agree_bind (agree_supertypes t) fun _ _ => agree_pure fun _ _ => trivial

/-! ### Sessions -/

/-- To look up the class of a type defines nothing. -/
@[simp] theorem outcome_definedClass_snd (s : Scope) (n : String) (l : Linkage) :
    (outcome (definedClass s n) l).2 = l := by
  unfold definedClass
  simp only [outcome_bind, outcome_get]
  cases l.find? s n <;> rfl

/-- A computation that goes on from the class of a type without defining another. -/
theorem outcome_bind_snd {x : Linked α} {f : α → Linked β} (hx : ∀ l, (outcome x l).2 = l)
    (hf : ∀ a l, (outcome (f a) l).2 = l) (l : Linkage) : (outcome (x >>= f) l).2 = l := by
  have hx := hx l
  rw [outcome_bind]
  revert hx
  rcases outcome x l with ⟨_ | a, l'⟩
  · exact id
  · rintro rfl
    exact hf a l'

/-- To look up the declaration of a method defines nothing. -/
theorem outcome_methodDecl_snd (m : MethodRef) (l : Linkage) :
    (outcome (methodDecl m) l).2 = l := by
  refine outcome_bind_snd (outcome_definedClass_snd _ _) (fun c l => ?_) l
  split <;> rfl

/-- A type whose class is not defined has no supertypes to look for. -/
theorem outcome_supertypes_of_not_defines {t : TypeRef} (h : ¬l.Defines t) :
    outcome (supertypes d t) l = (.error (.notDefined t.name t.scope), l) := by
  have hnone : l.find? t.scope t.name = none := by simpa [Defines] using h
  have hclass : outcome (definedClass t.scope t.name) l =
      (.error (.notDefined t.name t.scope), l) := by
    unfold definedClass
    simp only [outcome_bind, outcome_get, hnone]
    rfl
  have hclasses : outcome (superclasses d (classBound d l) [] t) l =
      (.error (.notDefined t.name t.scope), l) := by
    show outcome (superclasses d (_ + 1) [] t) l = _
    unfold superclasses
    rw [if_neg (by simp), outcome_bind, hclass]
  unfold supertypes
  rw [outcome_bind, outcome_get]
  dsimp only
  rw [outcome_bind, hclasses]

namespace Linkage

/-- What reflection leaves behind, whether the type was resolved before or not. -/
theorem Delegated.reflect (hl : l.Delegated d F) (t : TypeRef) (f : List Supertype → α) :
    (outcome (supertypes d t >>= fun ss => pure (f ss)) l).2.Delegated d F := by
  by_cases ht : l.Defines t
  · have hagree : Agree d F (·.Defines t) (supertypes d t >>= fun ss => pure (f ss))
        (supertypes d t >>= fun ss => pure (f ss)) fun _ _ => True :=
      agree_bind (agree_supertypes t) fun _ _ => agree_pure fun _ _ => trivial
    exact hagree.delegated hl ht
  · rw [outcome_bind, outcome_supertypes_of_not_defines ht]
    exact hl

/-- **One operation** leaves classes where delegation finds them, also when it fails. -/
theorem Delegated.perform (hl : l.Delegated d F) {op : Operation} (hop : op.Within F) :
    (op.perform d l).Delegated d F := by
  cases op with
  | resolve n c => exact (agree_resolve hop).delegated hl trivial
  | methods t => exact hl.reflect t fun ss => firstOfSignature [] (ss.flatMap Supertype.methods)
  | fields t => exact hl.reflect t fun ss => ss.flatMap Supertype.fields
  | parameterAnnotations m =>
      have hsame : (outcome (parameterAnnotations m) l).2 = l :=
        outcome_bind_snd (outcome_methodDecl_snd m) (fun _ _ => rfl) l
      rwa [Operation.perform, hsame]
  | isTypeAnnotated t a =>
      have hsame : (outcome (isTypeAnnotated t a) l).2 = l :=
        outcome_bind_snd (outcome_definedClass_snd _ _) (fun _ _ => rfl) l
      rwa [Operation.perform, hsame]
  | isMethodAnnotated m a =>
      have hsame : (outcome (isMethodAnnotated m a) l).2 = l :=
        outcome_bind_snd (outcome_methodDecl_snd m) (fun _ _ => rfl) l
      rwa [Operation.perform, hsame]
  | isFieldAnnotated f a =>
      have hsame : (outcome (isFieldAnnotated f a) l).2 = l :=
        outcome_bind_snd (outcome_definedClass_snd _ _) (fun _ _ => rfl) l
      rwa [Operation.perform, hsame]

/-- **A whole session** leaves classes where delegation finds them. -/
theorem Reached.delegated (h : l.Reached d F) : l.Delegated d F := by
  induction h with
  | start => exact delegated_empty
  | step _ hop ih => exact ih.perform hop

/-- **Resolution does not depend on history.** After any session, a name is resolved through
any loader to what it is resolved to when nothing is defined yet, or fails in the same way. A
type that was resolved is one that can be resolved when nothing is defined yet, through the
loader of its scope; and its methods and fields are the same after that alone. -/
theorem history_irrelevant (h : l.Reached d F) :
    (∀ n, ∀ c ∈ F.made,
      (outcome (resolve d n c) l).1 = (outcome (resolve d n c) {}).1) ∧
    ∀ t : TypeRef, (l.find? t.scope t.name).isSome →
      (∃ c ∈ F.made, c.scope = t.scope ∧ ∃ l₁, Runs (resolve d t.name c) {} t l₁) ∧
      ∀ c ∈ F.made, ∀ l₁, Runs (resolve d t.name c) {} t l₁ →
        (outcome (methods d t) l).1 = (outcome (methods d t) l₁).1 ∧
        (outcome (fields d t) l).1 = (outcome (fields d t) l₁).1 := by
  have hl := h.delegated
  refine ⟨fun n c hc => (agree_resolve hc).outcome_eq hl delegated_empty trivial trivial,
    fun t ht => ⟨?_, fun c hc l₁ hrun => ?_⟩⟩
  · obtain ⟨cls, hcls⟩ := Option.isSome_iff_exists.mp ht
    obtain ⟨hmade, hscope, hclass⟩ := hl.found hcls
    exact ⟨cls.chain, hmade, hscope, _, runs_resolve_iff.mpr ⟨cls, hclass, rfl⟩⟩
  · obtain ⟨cls, hclass, rfl⟩ := runs_resolve_iff.mp hrun
    have hl₁ : (({} : Linkage).define t.scope t.name cls).Delegated d F :=
      delegated_empty.define hc hclass
    have ht₁ : (({} : Linkage).define t.scope t.name cls).Defines t := by
      simp [Defines, find?_define_of_class? hclass]
    exact ⟨(agree_methods t).outcome_eq hl hl₁ ht ht₁, (agree_fields t).outcome_eq hl hl₁ ht ht₁⟩

/-- A class that two loaders have: after its methods were asked for through the loader above,
the one below comes to the same type as in a session of its own. -/
theorem history_irrelevant_shadowed :
    ∃ l, l.Reached ClassIndex.shadowDisk ClassIndex.shadowLoader.2 ∧
      (l.find? ⟨1⟩ "A").isSome ∧
      (outcome (resolve ClassIndex.shadowDisk "A" ClassIndex.shadowLoader.1) l).1 =
        (outcome (resolve ClassIndex.shadowDisk "A" ClassIndex.shadowLoader.1) {}).1 ∧
      ∃ l₁, Runs (resolve ClassIndex.shadowDisk "A" ClassIndex.shadowLoader.1) {} ⟨"A", ⟨1⟩⟩ l₁ ∧
        (outcome (methods ClassIndex.shadowDisk ⟨"A", ⟨1⟩⟩) l).1 =
          (outcome (methods ClassIndex.shadowDisk ⟨"A", ⟨1⟩⟩) l₁).1 := by
  have hchild : ClassIndex.shadowLoader.1 ∈ ClassIndex.shadowLoader.2.made :=
    ClassIndex.shadowLoader_made
  have hparent : ClassIndex.shadowParent.1 ∈ ClassIndex.shadowLoader.2.made := by
    simp [ClassIndex.shadowLoader, ClassIndex.shadowParent, Loaders.add]
  have hreached : Reached ClassIndex.shadowDisk ClassIndex.shadowLoader.2
      (Operation.perform ClassIndex.shadowDisk (.methods ⟨"A", ⟨1⟩⟩)
        (Operation.perform ClassIndex.shadowDisk (.resolve "A" ClassIndex.shadowParent.1) {})) :=
    .step (.step .start hparent) trivial
  have hdefined : (find? (Operation.perform ClassIndex.shadowDisk (.methods ⟨"A", ⟨1⟩⟩)
      (Operation.perform ClassIndex.shadowDisk (.resolve "A" ClassIndex.shadowParent.1) {}))
        ⟨1⟩ "A").isSome := by decide +kernel
  have hfresh :
      (outcome (resolve ClassIndex.shadowDisk "A" ClassIndex.shadowLoader.1) {}).1.toOption =
        some ⟨"A", ⟨1⟩⟩ := by decide +kernel
  obtain ⟨l₁, hrun⟩ := exists_runs_of_toOption hfresh
  obtain ⟨hresolve, hmembers⟩ := history_irrelevant hreached
  obtain ⟨-, hsame⟩ := hmembers ⟨"A", ⟨1⟩⟩ hdefined
  exact ⟨_, hreached, hdefined, hresolve "A" _ hchild, l₁, hrun, (hsame _ hchild l₁ hrun).1⟩

end Linkage

end Classpath
