import Mathlib.Logic.Relation
import Classpath.Proofs.History

/-!
# What Reflection Traverses

Reflection collects the supertypes of a type in two loops: up through the superclasses, then
breadth first through the interfaces they list. Between them the loops keep the names they have
seen, and every name is resolved through the loader that defined the class it stands in.

A run of these loops is a matter of the files alone. `Climbs` and `Spreads` have one rule for
each thing a step of the two loops may come to, and say nothing of steps, of classes that were
defined before, or of failures. What the loops find is derived from them by induction. That every
run is one of them (`Linkage.Delegated.climbs`, `Linkage.Delegated.spreads`) means that no run ends
for want of steps, with a superclass or something that waits left over.

Among the rules is `Spreads.missing`: an interface that the loader of one class does not have
counts as seen all the same, and is not looked for again where another class lists it.

## Main definitions

* `Extends`, `Lists`: what a class refers to.
* `Climbs`, `Spreads`: the two loops.

## Main results

* `Linkage.Delegated.climbs`, `Linkage.Delegated.spreads`: the two loops go on to their ends.
* `Linkage.Delegated.traverses`: every run of `supertypes` is such a traversal.
* `Traverses.nodup`: a name is found once.
* `Traverses.leadsTo`, `Traverses.entry_eq`: what is found, and that it does not depend on which
  class refers to it.
-/

namespace Classpath

open Relation (ReflTransGen)
open ClassIndex (firstWaiting)

variable {d : Disk} {F : Loaders} {l m : Linkage}

/-! ### References -/

/-- What a class refers to as its superclass, if it counts. -/
def Extends (d : Disk) (a b : TypeRef × DefinedClass) : Prop :=
  ∃ n, a.2.superName? = some n ∧ ({} : Linkage).class? d n a.2.chain = .ok (some b)

/-- What a class refers to as one of its interfaces. -/
def Lists (d : Disk) (a b : TypeRef × DefinedClass) : Prop :=
  ∃ n ∈ a.2.decl.interfaces, ({} : Linkage).class? d n a.2.chain = .ok (some b)

/-- A class has one superclass. -/
theorem Extends.unique {a b b' : TypeRef × DefinedClass} (h : Extends d a b)
    (h' : Extends d a b') : b = b' := by
  obtain ⟨n, hn, hclass⟩ := h
  obtain ⟨n', hn', hclass'⟩ := h'
  obtain rfl : n = n' := by simpa [hn] using hn'
  simpa [hclass] using hclass'

/-- What a type leads to: superclasses first, then the interfaces that are listed. -/
def LeadsTo (d : Disk) (c a : TypeRef × DefinedClass) : Prop :=
  ∃ b, ReflTransGen (Extends d) c b ∧ ReflTransGen (Lists d) b a

/-- A supertype as the class it is. -/
def Supertype.entry (s : Supertype) : TypeRef × DefinedClass := (s.type, s.cls)

variable {c a b : TypeRef × DefinedClass}

/-- A class that its own loader finds under its name. -/
def Settled (d : Disk) (a : TypeRef × DefinedClass) : Prop :=
  ({} : Linkage).class? d a.1.name a.2.chain = .ok (some a)

/-- What a loader finds for a class that it found, or that a loader above it has, it finds
itself. -/
theorem class?_of_class? {n n' : String} {p : Chain}
    (h : ({} : Linkage).class? d n p = .ok (some a))
    (h' : ({} : Linkage).class? d n' a.2.chain = .ok (some b)) :
    ({} : Linkage).class? d b.1.name p = .ok (some b) := by
  rw [Linkage.name_of_class? h']
  exact Linkage.class?_of_mem_chains (Linkage.class?_empty_spec h).1 h'

/-- **A type sees all that it leads to**: its own loader finds it under its name. -/
theorem LeadsTo.class? (hc : Settled d c) (h : LeadsTo d c a) :
    ({} : Linkage).class? d a.1.name c.2.chain = .ok (some a) := by
  obtain ⟨b, hextends, hlists⟩ := h
  have hb : ({} : Linkage).class? d b.1.name c.2.chain = .ok (some b) := by
    clear hlists
    induction hextends with
    | refl => exact hc
    | tail _ hstep ih =>
        obtain ⟨n, -, hclass⟩ := hstep
        exact class?_of_class? ih hclass
  induction hlists with
  | refl => exact hb
  | tail _ hstep ih =>
      obtain ⟨n, -, hclass⟩ := hstep
      exact class?_of_class? ih hclass

/-- So a name is the name of one thing among all that a type leads to. -/
theorem LeadsTo.eq_of_name_eq (hc : Settled d c) (ha : LeadsTo d c a) (hb : LeadsTo d c b)
    (h : a.1.name = b.1.name) : a = b := by
  have ha := ha.class? hc
  rw [h, hb.class? hc] at ha
  simpa using ha.symm

/-! ### The two loops -/

/-- The superclasses of a class: from the names seen before to those seen after. The loop ends at
a name that was seen or at a class without a superclass; it has no rule for steps that run out. -/
inductive Climbs (d : Disk) :
    List String → TypeRef × DefinedClass → List Supertype → List String → Prop
  | known {seen : List String} {c : TypeRef × DefinedClass} (hseen : c.1.name ∈ seen) :
      Climbs d seen c [] seen
  | top {seen : List String} {c : TypeRef × DefinedClass} (hnew : c.1.name ∉ seen)
      (hend : ∀ b, ¬Extends d c b) : Climbs d seen c [⟨c.1, c.2, false⟩] (c.1.name :: seen)
  | step {seen seen' : List String} {c b : TypeRef × DefinedClass} {above : List Supertype}
      (hnew : c.1.name ∉ seen) (hextends : Extends d c b)
      (hrest : Climbs d (c.1.name :: seen) b above seen') :
      Climbs d seen c (⟨c.1, c.2, false⟩ :: above) seen'

/-- The interfaces that wait, and those they lead to, breadth first. The loop ends when nothing
waits any more; it has no rule for steps that run out. -/
inductive Spreads (d : Disk) : List String → List (String × Chain) → List Supertype → Prop
  | done {seen : List String} : Spreads d seen [] []
  | known {seen : List String} {w : String × Chain} {waiting : List (String × Chain)}
      {found : List Supertype} (hseen : w.1 ∈ seen) (hrest : Spreads d seen waiting found) :
      Spreads d seen (w :: waiting) found
  | missing {seen : List String} {w : String × Chain} {waiting : List (String × Chain)}
      {found : List Supertype} (hnew : w.1 ∉ seen)
      (hnone : ({} : Linkage).class? d w.1 w.2 = .ok none)
      (hrest : Spreads d (w.1 :: seen) waiting found) : Spreads d seen (w :: waiting) found
  | found {seen : List String} {w : String × Chain} {waiting : List (String × Chain)}
      {b : TypeRef × DefinedClass} {found : List Supertype} (hnew : w.1 ∉ seen)
      (hsome : ({} : Linkage).class? d w.1 w.2 = .ok (some b))
      (hrest : Spreads d (w.1 :: seen) (waiting ++ b.2.interfaces) found) :
      Spreads d seen (w :: waiting) (⟨b.1, b.2, true⟩ :: found)

/-- The supertypes of a class: those above it, and the interfaces beside them. -/
def Traverses (d : Disk) (c : TypeRef × DefinedClass) (above beside : List Supertype) : Prop :=
  ∃ seen, Climbs d [] c above seen ∧ Spreads d seen (firstWaiting above) beside

/-! ### Runs of the loops -/

/-- **Resolution** of a name in a class, and what is defined by then. -/
theorem Linkage.Delegated.of_runs_resolve? (hl : l.Delegated d F) {n : String} {p : Chain}
    (hp : p ∈ F.made) {r : Option TypeRef} (hrun : Runs (resolve? d n p) l r m) :
    m.Delegated d F ∧
      ((r = none ∧ ({} : Linkage).class? d n p = .ok none) ∨
        ∃ b, r = some b.1 ∧ ({} : Linkage).class? d n p = .ok (some b) ∧
          m.find? b.1.scope b.1.name = some b.2) := by
  have hm := (agree_resolve? (n := n) hp).delegated hl trivial
  unfold Runs at hrun
  rw [hrun] at hm
  refine ⟨hm, ?_⟩
  rw [outcome_resolve?, hl.faithful.class?_eq hp] at hrun
  rcases hclass : ({} : Linkage).class? d n p with e | _ | b
  · rw [hclass] at hrun
    cases hrun
  · rw [hclass] at hrun
    cases hrun
    exact Or.inl ⟨rfl, rfl⟩
  · rw [hclass] at hrun
    cases hrun
    rw [← hl.faithful.class?_eq hp] at hclass
    refine Or.inr ⟨b, rfl, rfl, Linkage.find?_define_of_class? hclass⟩

/-- **Resolution** of the superclass of a class, and what is defined by then. -/
theorem Linkage.Delegated.of_runs_superclass? (hl : l.Delegated d F) (hc : c.2.chain ∈ F.made)
    {r : Option TypeRef} (hrun : Runs (c.2.superclass? d) l r m) :
    m.Delegated d F ∧
      ((r = none ∧ ∀ b, ¬Extends d c b) ∨
        ∃ b, r = some b.1 ∧ Extends d c b ∧ m.find? b.1.scope b.1.name = some b.2) := by
  unfold DefinedClass.superclass? at hrun
  split at hrun
  · rename_i hsuper
    obtain ⟨rfl, rfl⟩ := runs_pure.mp hrun
    refine ⟨hl, Or.inl ⟨rfl, ?_⟩⟩
    rintro b ⟨n, hn, -⟩
    rw [hsuper] at hn
    cases hn
  · rename_i n hsuper
    obtain ⟨hm, ⟨rfl, hnone⟩ | ⟨b, rfl, hclass, hfind⟩⟩ := hl.of_runs_resolve? hc hrun
    · refine ⟨hm, Or.inl ⟨rfl, ?_⟩⟩
      rintro b ⟨n', hn', hclass⟩
      rw [hsuper] at hn'
      cases hn'
      rw [hnone] at hclass
      cases hclass
    · exact ⟨hm, Or.inr ⟨b, rfl, ⟨n, hsuper, hclass⟩, hfind⟩⟩

/-- **The first loop.** It has steps enough, since each takes a new name of a class on the
disk. -/
theorem Linkage.Delegated.climbs (hl : l.Delegated d F) {steps : Nat} {seen seen' : List String}
    {above : List Supertype} (hseen : ReadNames d F seen)
    (hsteps : d.capacity < seen.length + steps) (hc : l.find? c.1.scope c.1.name = some c.2)
    (hrun : Runs (superclasses d steps seen c.1) l (above, seen') m) :
    m.Delegated d F ∧ Climbs d seen c above seen' := by
  induction steps generalizing seen c l above with
  | zero =>
      have := hseen.length_le
      omega
  | succ steps ih =>
      have hread := hl.isRead hc
      cases runs_superclasses_succ.mp hrun with
      | known hmem => exact ⟨hl, .known hmem⟩
      | top hnew hcls hparent =>
          obtain rfl := Option.some.inj (hc.symm.trans hcls)
          obtain ⟨hm, ⟨-, hend⟩ | ⟨b, hb, -⟩⟩ := hl.of_runs_superclass? hread.made hparent
          · exact ⟨hm, .top hnew hend⟩
          · cases hb
      | step hnew hcls hparent hrest =>
          obtain rfl := Option.some.inj (hc.symm.trans hcls)
          obtain ⟨hl₁, ⟨hnone, -⟩ | ⟨b, hb, hextends, hfind⟩⟩ :=
            hl.of_runs_superclass? hread.made hparent
          · cases hnone
          · cases hb
            obtain ⟨hm, hclimbs⟩ :=
              ih hl₁ (hseen.cons hread hnew) (by rw [List.length_cons]; omega) hfind hrest
            exact ⟨hm, .step hnew hextends hclimbs⟩

/-- **The second loop.** It has steps enough, since each takes one that waits, and only those
whose name is new on the disk make others wait; `taken` are the names seen that have a class. -/
theorem Linkage.Delegated.spreads (hl : l.Delegated d F) {steps : Nat}
    {seen taken : List String} {waiting : List (String × Chain)} {found : List Supertype}
    (hwaiting : ∀ w ∈ waiting, w.2 ∈ F.made) (htaken : ReadNames d F taken) (hsub : taken ⊆ seen)
    (hsteps : waiting.length + interfaceBound * (d.capacity - taken.length) < steps)
    (hrun : Runs (superinterfaces d steps seen waiting) l found m) :
    Spreads d seen waiting found := by
  induction steps generalizing seen taken waiting l found with
  | zero => omega
  | succ steps ih =>
      cases waiting with
      | nil =>
          obtain ⟨rfl, rfl⟩ := runs_pure.mp hrun
          exact .done
      | cons w waiting =>
          obtain ⟨hw, hrest⟩ := List.forall_mem_cons.mp hwaiting
          rw [List.length_cons] at hsteps
          cases runs_superinterfaces_cons.mp hrun with
          | known hmem hspread =>
              exact .known hmem (ih hl hrest htaken hsub (by omega) hspread)
          | missing hnew ht hspread =>
              obtain ⟨hl₁, ⟨-, hnone⟩ | ⟨b, hb, -⟩⟩ := hl.of_runs_resolve? hw ht
              · have hsub' := List.subset_cons_of_subset w.1 hsub
                exact .missing hnew hnone (ih hl₁ hrest htaken hsub' (by omega) hspread)
              · cases hb
          | found hnew ht hcls hspread =>
              obtain ⟨hl₁, ⟨hnone, -⟩ | ⟨b, hb, hclass, hfind⟩⟩ := hl.of_runs_resolve? hw ht
              · cases hnone
              · cases hb
                obtain rfl := Option.some.inj (hfind.symm.trans hcls)
                have hread := hl₁.isRead hfind
                have hname : b.1.name = w.1 := Linkage.name_of_class? hclass
                have hnot : b.1.name ∉ taken := fun hmem => hnew (hname ▸ hsub hmem)
                have htaken' := htaken.cons hread hnot
                have hmore : ∀ w' ∈ waiting ++ b.2.interfaces, w'.2 ∈ F.made :=
                  List.forall_mem_append.mpr
                    ⟨hrest, made_of_mem_interfaces (s := ⟨b.1, b.2, true⟩) hread⟩
                exact .found hnew hclass (ih hl₁ hmore htaken'
                  (hname ▸ List.cons_subset_cons _ hsub)
                  (ClassIndex.room_of_step htaken'.length_le hread.length_interfaces_le hsteps)
                  hspread)

/-- **Every run of `supertypes`** traverses the files from the type it is asked about. -/
theorem Linkage.Delegated.traverses (hl : l.Delegated d F)
    (hc : l.find? c.1.scope c.1.name = some c.2) {all : List Supertype}
    (hrun : Runs (supertypes d c.1) l all m) :
    ∃ above beside, all = above ++ beside ∧ Traverses d c above beside := by
  unfold supertypes at hrun
  obtain ⟨_, l, hget, hloops⟩ := runs_bind.mp hrun
  obtain ⟨rfl, rfl⟩ := runs_get.mp hget
  obtain ⟨⟨above, seen⟩, l₁, hclasses, hloops⟩ := runs_bind.mp hloops
  obtain ⟨beside, _, hinterfaces, hloops⟩ := runs_bind.mp hloops
  obtain ⟨rfl, rfl⟩ := runs_pure.mp hloops
  have hsteps : d.capacity < ([] : List String).length + classBound d l := by
    show _ < 0 + (l.defined.length + d.capacity + 1)
    omega
  obtain ⟨hl₁, hclimbs⟩ := hl.climbs ReadNames.nil hsteps hc hclasses
  -- the classes above are on the disk, and those they list take no more steps than there are
  have hdefines : Defines l c.1 := Option.isSome_iff_exists.mpr ⟨_, hc⟩
  obtain ⟨_, _, _, hrun, -, -, -, -, hpost⟩ :=
    agree_superclasses _ _ ReadNames.nil hsteps hsteps l l hl hl hdefines hdefines
  rw [hclasses] at hrun
  cases hrun
  obtain ⟨⟨hread, hnames, hlength⟩, -⟩ := hpost _ rfl
  have hwaiting : ∀ w ∈ firstWaiting above, w.2 ∈ F.made :=
    List.forall_mem_flatMap.mpr fun s hs => made_of_mem_interfaces (hread s hs)
  refine ⟨above, beside, rfl, seen, hclimbs, hl₁.spreads hwaiting hnames (List.Subset.refl _)
    (ClassIndex.enough_steps (fun s hs => ?_) hlength hnames.length_le l) hinterfaces⟩
  exact DefinedClass.IsRead.length_interfaces_le (hread s hs)

/-! ### What the first loop finds -/

section Climbs

variable {seen seen' : List String} {above : List Supertype}

/-- The names seen by the end are those of the superclasses and those from before. -/
theorem Climbs.seen_eq (h : Climbs d seen c above seen') :
    seen' = (above.map (·.type.name)).reverse ++ seen := by
  induction h with
  | known => rfl
  | top => rfl
  | step _ _ _ ih => simpa using ih

/-- Where nothing was seen before, they are those of the superclasses. -/
theorem Climbs.mem_seen_iff (h : Climbs d [] c above seen') {n : String} :
    n ∈ seen' ↔ ∃ s ∈ above, s.type.name = n := by
  rw [h.seen_eq, List.append_nil, List.mem_reverse, List.mem_map]

/-- A name is taken once, and only if it was not seen before. -/
theorem Climbs.nodup (h : Climbs d seen c above seen') :
    (above.map (·.type.name)).Nodup ∧ ∀ s ∈ above, s.type.name ∉ seen := by
  induction h with
  | known => simp
  | top hnew => simpa using hnew
  | step hnew _ _ ih =>
      obtain ⟨hnodup, hnot⟩ := ih
      refine ⟨List.nodup_cons.mpr ⟨fun hmem => ?_, hnodup⟩, List.forall_mem_cons.mpr
        ⟨hnew, fun s hs hmem => hnot s hs (List.mem_cons_of_mem _ hmem)⟩⟩
      obtain ⟨s, hs, hname⟩ := List.mem_map.mp hmem
      exact hnot s hs (hname ▸ List.mem_cons_self)

/-- What the first loop finds was not reached as an interface. -/
theorem Climbs.isInterface_eq_false (h : Climbs d seen c above seen') :
    ∀ s ∈ above, s.isInterface = false := by
  induction h with
  | known => simp
  | top => simp
  | step _ _ _ ih => exact List.forall_mem_cons.mpr ⟨rfl, ih⟩

/-- Each is a superclass. -/
theorem Climbs.extends (h : Climbs d seen c above seen') :
    ∀ s ∈ above, ReflTransGen (Extends d) c s.entry := by
  induction h with
  | known => simp
  | top => exact List.forall_mem_singleton.mpr .refl
  | step _ hextends _ ih =>
      exact List.forall_mem_cons.mpr ⟨.refl, fun s hs => .head hextends (ih s hs)⟩

/-- Each superclass of one that is found was seen. -/
theorem Climbs.closed (h : Climbs d seen c above seen') :
    c.1.name ∈ seen' ∧ ∀ s ∈ above, ∀ b, Extends d s.entry b → b.1.name ∈ seen' := by
  induction h with
  | known hseen => exact ⟨hseen, by simp⟩
  | top _ hend =>
      exact ⟨List.mem_cons_self, List.forall_mem_singleton.mpr fun b hb => absurd hb (hend b)⟩
  | @step _ _ c b _ _ hextends hrest ih =>
      refine ⟨?_, List.forall_mem_cons.mpr ⟨fun b' hb' => ?_, ih.2⟩⟩
      · rw [hrest.seen_eq]
        exact List.mem_append_right _ List.mem_cons_self
      · obtain rfl : b = b' := hextends.unique hb'
        exact ih.1

end Climbs

/-! ### What the second loop finds -/

section Spreads

variable {seen : List String} {waiting : List (String × Chain)} {found : List Supertype}

/-- A name is taken once here too, and only if it was not seen before. -/
theorem Spreads.nodup (h : Spreads d seen waiting found) :
    (found.map (·.type.name)).Nodup ∧ ∀ s ∈ found, s.type.name ∉ seen := by
  induction h with
  | done => simp
  | known _ _ ih => exact ih
  | missing _ _ _ ih =>
      exact ⟨ih.1, fun s hs hmem => ih.2 s hs (List.mem_cons_of_mem _ hmem)⟩
  | found hnew hsome _ ih =>
      obtain ⟨hnodup, hnot⟩ := ih
      have hname := Linkage.name_of_class? hsome
      refine ⟨List.nodup_cons.mpr ⟨fun hmem => ?_, hnodup⟩, List.forall_mem_cons.mpr
        ⟨hname ▸ hnew, fun s hs hmem => hnot s hs (List.mem_cons_of_mem _ hmem)⟩⟩
      obtain ⟨s, hs, hsame⟩ := List.mem_map.mp hmem
      exact hnot s hs (hsame.trans hname ▸ List.mem_cons_self)

/-- Each is one that waits, or is listed by another that was found. -/
theorem Spreads.listed (h : Spreads d seen waiting found) :
    ∀ s ∈ found, s.isInterface = true ∧ ∃ w ∈ waiting, ∃ b,
      ({} : Linkage).class? d w.1 w.2 = .ok (some b) ∧ ReflTransGen (Lists d) b s.entry := by
  induction h with
  | done => simp
  | known _ _ ih =>
      intro s hs
      obtain ⟨htrue, w, hw, hb⟩ := ih s hs
      exact ⟨htrue, w, List.mem_cons_of_mem _ hw, hb⟩
  | missing _ _ _ ih =>
      intro s hs
      obtain ⟨htrue, w, hw, hb⟩ := ih s hs
      exact ⟨htrue, w, List.mem_cons_of_mem _ hw, hb⟩
  | found _ hsome _ ih =>
      refine List.forall_mem_cons.mpr ⟨⟨rfl, _, List.mem_cons_self, _, hsome, .refl⟩, fun s hs => ?_⟩
      obtain ⟨htrue, w, hw, b, hclass, hreach⟩ := ih s hs
      obtain hw | hw := List.mem_append.mp hw
      · exact ⟨htrue, w, List.mem_cons_of_mem _ hw, b, hclass, hreach⟩
      · obtain ⟨n, hn, rfl⟩ := List.mem_map.mp hw
        exact ⟨htrue, _, List.mem_cons_self, _, hsome, .head ⟨n, hn, hclass⟩ hreach⟩

end Spreads

/-! ### What both find -/

section Traverses

variable {above beside : List Supertype}

/-- **A name is found once.** -/
theorem Traverses.nodup (h : Traverses d c above beside) :
    ((above ++ beside).map (·.type.name)).Nodup := by
  obtain ⟨seen, hclimbs, hspreads⟩ := h
  rw [List.map_append]
  refine List.nodup_append.mpr ⟨hclimbs.nodup.1, hspreads.nodup.1, ?_⟩
  rintro n hn _ hn' rfl
  obtain ⟨s, hs, hname⟩ := List.mem_map.mp hn'
  exact hspreads.nodup.2 s hs (hclimbs.mem_seen_iff.mpr (hname ▸ List.mem_map.mp hn))

/-- **All that is found** is what the type leads to. -/
theorem Traverses.leadsTo (h : Traverses d c above beside) :
    ∀ s ∈ above ++ beside, LeadsTo d c s.entry := by
  obtain ⟨seen, hclimbs, hspreads⟩ := h
  intro s hs
  obtain hs | hs := List.mem_append.mp hs
  · exact ⟨s.entry, hclimbs.extends s hs, .refl⟩
  · obtain ⟨-, w, hw, b, hclass, hreach⟩ := hspreads.listed s hs
    obtain ⟨a, ha, hw⟩ := List.mem_flatMap.mp hw
    obtain ⟨n, hn, rfl⟩ := List.mem_map.mp hw
    exact ⟨a.entry, hclimbs.extends a ha, .head ⟨n, hn, hclass⟩ hreach⟩

/-- **What is found under a name** is all that the type leads to under it. -/
theorem Traverses.entry_eq (h : Traverses d c above beside) (hc : Settled d c) {s : Supertype}
    (hs : s ∈ above ++ beside) (ha : LeadsTo d c a) (hname : s.type.name = a.1.name) :
    s.entry = a :=
  (h.leadsTo s hs).eq_of_name_eq hc ha hname

end Traverses

end Classpath
