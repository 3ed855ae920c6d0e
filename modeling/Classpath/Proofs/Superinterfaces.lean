import Classpath.Proofs.Traversal

/-!
# The Interfaces That Reflection Reaches

The members of a type include those of every interface that can be reached from it, as long as
the interface is not *disputed*. A name is disputed if a class among the supertypes lists it and
the loader of this class finds nothing under it. The traversal takes the name as seen then, so
that another class, whose loader has the interface, lists it in vain if it comes later; the
members of the interface are missing (`reachable_interface_missing`).

A dispute takes two loaders: the class whose reference fails is from one further up, which does
not see what the loaders below it have.

## Main results

* `Spreads.complete`: what becomes of a reference.
* `members_of_reachable`: the members of what a type leads to undisputed.
-/

namespace Classpath

open Relation (ReflTransGen)
open ClassIndex (firstWaiting)

variable {d : Disk} {F : Loaders} {l : Linkage} {c a x : TypeRef × DefinedClass}

/-- A class refers to its superclass, unless it is an interface, and to the interfaces that it
lists, here those whose names satisfy a condition. -/
def Refers (d : Disk) (P : String → Prop) (a b : TypeRef × DefinedClass) : Prop :=
  Extends d a b ∨ (Lists d a b ∧ b.2.decl.isInterface = true ∧ P b.1.name)

/-- No class that a type leads to lists this name in vain. -/
def Undisputed (d : Disk) (c : TypeRef × DefinedClass) (n : String) : Prop :=
  ∀ a, LeadsTo d c a → n ∈ a.2.decl.interfaces →
    ({} : Linkage).class? d n a.2.chain ≠ .ok none

/-- A chain of references goes up through superclasses, and then on through interfaces, since
no superclass of an interface counts. -/
theorem exists_of_refers {P : String → Prop} (h : ReflTransGen (Refers d P) c x) :
    ∃ b, ReflTransGen (Extends d) c b ∧
      ReflTransGen (fun a b => Lists d a b ∧ b.2.decl.isInterface = true ∧ P b.1.name) b x := by
  induction h with
  | refl => exact ⟨c, .refl, .refl⟩
  | tail _ hstep ih =>
      obtain ⟨b, hextends, hlists⟩ := ih
      obtain hstep | hstep := hstep
      · obtain rfl | ⟨z, -, -, hinterface, -⟩ := hlists.cases_tail
        · exact ⟨_, hextends.tail hstep, .refl⟩
        · obtain ⟨n, hn, -⟩ := hstep
          simp [DefinedClass.superName?, hinterface] at hn
      · exact ⟨b, hextends, hlists.tail hstep⟩

/-! ### What is found -/

section Traverses

variable {above beside : List Supertype}

/-- **What becomes of a reference**, whether it waits or is among those of an interface that is
found: its name was seen before, or is found, or some reference to the same name fails. -/
theorem Spreads.complete {seen : List String} {waiting : List (String × Chain)}
    {found : List Supertype} (h : Spreads d seen waiting found) :
    ∀ w ∈ waiting ++ firstWaiting found, w.1 ∈ seen ∨ (∃ s ∈ found, s.type.name = w.1) ∨
      ∃ v ∈ waiting ++ firstWaiting found, v.1 = w.1 ∧
        ({} : Linkage).class? d v.1 v.2 = .ok none := by
  induction h with
  | done => simp [firstWaiting]
  | known hseen _ ih =>
      refine List.forall_mem_cons.mpr ⟨Or.inl hseen, fun w hw => ?_⟩
      obtain hw | hw | ⟨v, hv, hfails⟩ := ih w hw
      · exact Or.inl hw
      · exact Or.inr (Or.inl hw)
      · exact Or.inr (Or.inr ⟨v, List.mem_cons_of_mem _ hv, hfails⟩)
  | missing _ hnone _ ih =>
      refine List.forall_mem_cons.mpr
        ⟨Or.inr (Or.inr ⟨_, List.mem_cons_self, rfl, hnone⟩), fun w hw => ?_⟩
      obtain hw | hw | ⟨v, hv, hfails⟩ := ih w hw
      · obtain hw | hw := List.mem_cons.mp hw
        · exact Or.inr (Or.inr ⟨_, List.mem_cons_self, hw.symm, hnone⟩)
        · exact Or.inl hw
      · exact Or.inr (Or.inl hw)
      · exact Or.inr (Or.inr ⟨v, List.mem_cons_of_mem _ hv, hfails⟩)
  | @found _ w waiting b found _ hsome _ ih =>
      have hname := Linkage.name_of_class? hsome
      have hmore : w :: waiting ++ firstWaiting (⟨b.1, b.2, true⟩ :: found) =
          w :: (waiting ++ b.2.interfaces ++ firstWaiting found) := by
        simp [firstWaiting]
      rw [hmore]
      refine List.forall_mem_cons.mpr
        ⟨Or.inr (Or.inl ⟨_, List.mem_cons_self, hname⟩), fun v hv => ?_⟩
      obtain hv | ⟨s, hs, hsame⟩ | ⟨u, hu, hfails⟩ := ih v hv
      · obtain hv | hv := List.mem_cons.mp hv
        · exact Or.inr (Or.inl ⟨_, List.mem_cons_self, hname.trans hv.symm⟩)
        · exact Or.inl hv
      · exact Or.inr (Or.inl ⟨s, List.mem_cons_of_mem _ hs, hsame⟩)
      · exact Or.inr (Or.inr ⟨u, List.mem_cons_of_mem _ hu, hfails⟩)

/-- **Every superclass** is found. -/
theorem Traverses.mem_of_extends (h : Traverses d c above beside) (hc : Settled d c)
    (ha : ReflTransGen (Extends d) c a) : ∃ s ∈ above, s.entry = a := by
  have hentry : ∀ {s b}, s ∈ above → ReflTransGen (Extends d) c b → s.type.name = b.1.name →
      s.entry = b :=
    fun hs hb => h.entry_eq hc (List.mem_append_left _ hs) ⟨_, hb, .refl⟩
  obtain ⟨seen, hclimbs, -⟩ := h
  obtain ⟨hstart, hclosed⟩ := hclimbs.closed
  induction ha with
  | refl =>
      obtain ⟨s, hs, hname⟩ := hclimbs.mem_seen_iff.mp hstart
      exact ⟨s, hs, hentry hs .refl hname⟩
  | tail hreach hstep ih =>
      obtain ⟨s, hs, rfl⟩ := ih
      obtain ⟨s', hs', hname⟩ := hclimbs.mem_seen_iff.mp (hclosed s hs _ hstep)
      exact ⟨s', hs', hentry hs' (hreach.tail hstep) hname⟩

/-- **An interface that is listed** by a class that is found is found, unless it is disputed. -/
theorem Traverses.mem_of_lists (h : Traverses d c above beside) (hc : Settled d c)
    {s : Supertype} (hs : s ∈ above ++ beside) (hlists : Lists d s.entry a)
    (hundisputed : Undisputed d c a.1.name) : ∃ s' ∈ above ++ beside, s'.entry = a := by
  obtain ⟨b, hextends, hreach⟩ := h.leadsTo s hs
  have ha : LeadsTo d c a := ⟨b, hextends, hreach.tail hlists⟩
  obtain ⟨n, hn, hclass⟩ := hlists
  obtain rfl := Linkage.name_of_class? hclass
  have hwaits : (a.1.name, s.cls.chain) ∈ firstWaiting above ++ firstWaiting beside := by
    unfold firstWaiting
    rw [← List.flatMap_append]
    exact List.mem_flatMap.mpr ⟨s, hs, List.mem_map.mpr ⟨_, hn, rfl⟩⟩
  have hfound : ∃ s' ∈ above ++ beside, s'.type.name = a.1.name := by
    obtain ⟨seen, hclimbs, hspreads⟩ := id h
    obtain hseen | ⟨s', hs', hname⟩ | ⟨v, hv, hname, hfails⟩ := hspreads.complete _ hwaits
    · obtain ⟨s', hs', hname⟩ := hclimbs.mem_seen_iff.mp hseen
      exact ⟨s', List.mem_append_left _ hs', hname⟩
    · exact ⟨s', List.mem_append_right _ hs', hname⟩
    · -- a reference that fails stands in a class that is found
      unfold firstWaiting at hv
      rw [← List.flatMap_append] at hv
      obtain ⟨u, hu, hv⟩ := List.mem_flatMap.mp hv
      obtain ⟨n, hn, rfl⟩ := List.mem_map.mp hv
      obtain rfl : n = a.1.name := hname
      exact absurd hfails (hundisputed u.entry (h.leadsTo u hu) hn)
  obtain ⟨s', hs', hname⟩ := hfound
  exact ⟨s', hs', h.entry_eq hc hs' ha hname⟩

/-- **All that a type leads to undisputed** is found. -/
theorem Traverses.mem_of_refers (h : Traverses d c above beside) (hc : Settled d c)
    (hx : ReflTransGen (Refers d (Undisputed d c)) c x) :
    ∃ s ∈ above ++ beside, s.entry = x := by
  obtain ⟨b, hextends, hlists⟩ := exists_of_refers hx
  clear hx
  induction hlists with
  | refl =>
      obtain ⟨s, hs, hentry⟩ := h.mem_of_extends hc hextends
      exact ⟨s, List.mem_append_left _ hs, hentry⟩
  | tail _ hstep ih =>
      obtain ⟨s, hs, rfl⟩ := ih
      exact h.mem_of_lists hc hs hstep.1 hstep.2.2

end Traverses

/-! ### Members -/

/-- Each method that is offered has one in its place with its signature. -/
theorem exists_mem_firstOfSignature {seen : List (String × String)} {ms : List MethodRef}
    {m : MethodRef} (hm : m ∈ ms) (hnew : m.signature ∉ seen) :
    ∃ r ∈ firstOfSignature seen ms, r.signature = m.signature := by
  induction ms generalizing seen with
  | nil => cases hm
  | cons n ms ih =>
      unfold firstOfSignature
      split
      · rename_i hseen
        obtain rfl | hm := List.mem_cons.mp hm
        · exact absurd (by simpa using hseen) hnew
        · exact ih hm hnew
      · by_cases hsame : n.signature = m.signature
        · exact ⟨n, List.mem_cons_self, hsame⟩
        · obtain rfl | hm := List.mem_cons.mp hm
          · exact absurd rfl hsame
          · have hnew : m.signature ∉ n.signature :: seen := by
              simpa [Ne.symm hsame] using hnew
            obtain ⟨r, hr, hrm⟩ := ih hm hnew
            exact ⟨r, List.mem_cons_of_mem _ hr, hrm⟩

/-- **The members of what can be reached.** After any session, let a type have its fields and
its methods. They include the public fields of whatever it leads to through superclasses and
interfaces none of which is disputed, and a method in the place of each public one that is
neither static nor an initialiser. -/
theorem members_of_reachable (h : l.Reached d F) (hc : l.find? c.1.scope c.1.name = some c.2)
    {fs : List FieldRef} {ms : List MethodRef} {l₁ l₂ : Linkage}
    (hfields : Runs (fields d c.1) l fs l₁) (hmethods : Runs (methods d c.1) l ms l₂)
    (hx : ReflTransGen (Refers d (Undisputed d c)) c x) :
    (∀ f ∈ x.2.decl.fields, f.isPublic = true →
      ⟨x.1.name, f.name, f.descriptor, x.1.scope⟩ ∈ fs) ∧
    ∀ m ∈ x.2.decl.methods, m.isPublic = true → m.isStatic = false → m.isInitializer = false →
      ∃ r ∈ ms, r.name = m.name ∧ r.descriptor = m.descriptor := by
  have hl := h.delegated
  have hsettled : Settled d c := (hl.found hc).2.2
  have hfound : ∀ {all l'}, Runs (supertypes d c.1) l all l' → ∃ s ∈ all, s.entry = x := by
    intro all l' hrun
    obtain ⟨above, beside, rfl, htraverses⟩ := hl.traverses hc hrun
    exact htraverses.mem_of_refers hsettled hx
  constructor
  · intro f hf hpublic
    obtain ⟨all, _, hrun, hfields⟩ := runs_bind.mp hfields
    obtain ⟨rfl, rfl⟩ := runs_pure.mp hfields
    obtain ⟨s, hs, rfl⟩ := hfound hrun
    exact List.mem_flatMap.mpr ⟨s, hs, List.mem_map.mpr
      ⟨f, List.mem_filter.mpr ⟨hf, hpublic⟩, rfl⟩⟩
  · intro m hm hpublic hstatic hinitializer
    obtain ⟨all, _, hrun, hmethods⟩ := runs_bind.mp hmethods
    obtain ⟨rfl, rfl⟩ := runs_pure.mp hmethods
    obtain ⟨s, hs, rfl⟩ := hfound hrun
    have hoffers : s.offers m = true := by
      simp [Supertype.offers, hpublic, hstatic, hinitializer]
    have hmem : ⟨s.type.name, m.name, m.descriptor, s.type.scope⟩ ∈
        all.flatMap Supertype.methods :=
      List.mem_flatMap.mpr ⟨s, hs, List.mem_map.mpr
        ⟨m, List.mem_filter.mpr ⟨hm, hoffers⟩, rfl⟩⟩
    obtain ⟨r, hr, hsame⟩ := exists_mem_firstOfSignature hmem List.not_mem_nil
    simp only [MethodRef.signature, Prod.mk.injEq] at hsame
    exact ⟨r, hr, hsame⟩

/-! ### A disputed interface -/

/-- Whether the references of some classes stay among these classes. -/
def refersWithin (d : Disk) (classes : List (TypeRef × DefinedClass)) : Bool :=
  classes.all fun a => (a.2.superName?.toList ++ a.2.decl.interfaces).all fun n =>
    match ({} : Linkage).class? d n a.2.chain with
    | .ok (some b) => classes.contains b
    | _ => true

/-- Classes that refer to each other only hold all that one of them leads to. -/
theorem mem_of_refersWithin {classes : List (TypeRef × DefinedClass)}
    (h : refersWithin d classes = true) (hc : c ∈ classes) (ha : LeadsTo d c a) :
    a ∈ classes := by
  have hstep : ∀ {a b n}, a ∈ classes → n ∈ a.2.superName?.toList ++ a.2.decl.interfaces →
      ({} : Linkage).class? d n a.2.chain = .ok (some b) → b ∈ classes := by
    intro a b n ha hn hclass
    have hthis := List.all_eq_true.mp (List.all_eq_true.mp h a ha) n hn
    simpa [hclass] using hthis
  obtain ⟨b, hextends, hlists⟩ := ha
  have hb : b ∈ classes := by
    clear hlists
    induction hextends with
    | refl => exact hc
    | tail _ hextends ih =>
        obtain ⟨n, hn, hclass⟩ := hextends
        exact hstep ih (List.mem_append_left _ (by simpa using hn)) hclass
  induction hlists with
  | refl => exact hb
  | tail _ hlists ih =>
      obtain ⟨n, hn, hclass⟩ := hlists
      exact hstep ih (List.mem_append_right _ hn) hclass

/-- A class that lists an interface which its own loader does not have. -/
def baseDecl : ClassDecl := ⟨"Base", none, ["Named"], false, [], [], []⟩

/-- A class that extends it, of the loader below. -/
def itemDecl : ClassDecl := ⟨"Item", some "Base", ["Labelled"], false, [], [], []⟩

def labelledDecl : ClassDecl :=
  ⟨"Labelled", none, ["Named"], true, [], [⟨"SIZE", true, "I", []⟩],
    [⟨"label", true, false, "()V", [], []⟩]⟩

def namedDecl : ClassDecl :=
  ⟨"Named", none, [], true, [], [⟨"PREFIX", true, "I", []⟩],
    [⟨"name", true, false, "()V", [], []⟩]⟩

/-- A disk where the loader above has a base class, and the one below all else. -/
def itemDisk : Disk where
  entries := [(["p"], .directory), (["p", "Base.class"], .file 0), (["c"], .directory),
    (["c", "Item.class"], .file 1), (["c", "Labelled.class"], .file 2),
    (["c", "Named.class"], .file 3)]
  contents := [baseDecl.toBytes, itemDecl.toBytes, labelledDecl.toBytes, namedDecl.toBytes]

/-- The loader above, with the base class. -/
def itemParent : Chain × Loaders := Loaders.empty.add "parent" [Url.ofPath "/p"] none

/-- The loader below, with all else. -/
def itemLoader : Chain × Loaders :=
  itemParent.2.add "app" [Url.ofPath "/c"] (some itemParent.1.scope)

/-- A class of the loader below, or one of the loader above. -/
def lowerClass (decl : ClassDecl) : TypeRef × DefinedClass :=
  (⟨decl.name, ⟨2⟩⟩, ⟨decl, itemLoader.1⟩)

/-- A class of the loader above. -/
def upperClass (decl : ClassDecl) : TypeRef × DefinedClass :=
  (⟨decl.name, ⟨1⟩⟩, ⟨decl, itemParent.1⟩)

/-- A session in which the item was resolved. -/
def itemSession : Linkage :=
  Operation.perform itemDisk (.resolve "Item" itemLoader.1) {}

theorem itemSession_reached : itemSession.Reached itemDisk itemLoader.2 :=
  .step .start (by simp [Operation.Within, itemLoader, Loaders.add])

/-- All classes that the item leads to. -/
def itemClasses : List (TypeRef × DefinedClass) :=
  [lowerClass itemDecl, upperClass baseDecl, lowerClass labelledDecl, lowerClass namedDecl]

/-- What lookups and reflection come to on this disk. -/
theorem itemSession_computes :
    itemSession.find? ⟨2⟩ "Item" = some (lowerClass itemDecl).2 ∧
      (outcome (fields itemDisk ⟨"Item", ⟨2⟩⟩) itemSession).1.toOption =
        some [⟨"Labelled", "SIZE", "I", ⟨2⟩⟩] ∧
      (outcome (methods itemDisk ⟨"Item", ⟨2⟩⟩) itemSession).1.toOption =
        some [⟨"Labelled", "label", "()V", ⟨2⟩⟩] ∧
      (({} : Linkage).class? itemDisk "Labelled" itemLoader.1).toOption =
        some (some (lowerClass labelledDecl)) ∧
      (({} : Linkage).class? itemDisk "Named" itemLoader.1).toOption =
        some (some (lowerClass namedDecl)) ∧
      refersWithin itemDisk itemClasses = true := by decide +kernel

/-- The item refers to one interface, which its loader has. -/
theorem item_refers {P : String → Prop} (h : P "Labelled") :
    Refers itemDisk P (lowerClass itemDecl) (lowerClass labelledDecl) := by
  obtain ⟨-, -, -, hclass, -⟩ := itemSession_computes
  exact Or.inr ⟨⟨"Labelled", List.mem_cons_self, toOption_eq_some_iff.mp hclass⟩, rfl, h⟩

/-- This interface refers to another one in its turn. -/
theorem labelled_refers {P : String → Prop} (h : P "Named") :
    Refers itemDisk P (lowerClass labelledDecl) (lowerClass namedDecl) := by
  obtain ⟨-, -, -, -, hclass, -⟩ := itemSession_computes
  exact Or.inr ⟨⟨"Named", List.mem_cons_self, toOption_eq_some_iff.mp hclass⟩, rfl, h⟩

/-- Only the item lists this interface, and its loader has it. -/
theorem labelled_undisputed : Undisputed itemDisk (lowerClass itemDecl) "Labelled" := by
  obtain ⟨-, -, -, hclass, -, hwithin⟩ := itemSession_computes
  have hlists : ∀ a ∈ itemClasses, "Labelled" ∈ a.2.decl.interfaces →
      a.2.chain = itemLoader.1 := by decide
  intro a ha hn hnone
  rw [hlists a (mem_of_refersWithin hwithin List.mem_cons_self ha) hn,
    toOption_eq_some_iff.mp hclass] at hnone
  cases hnone

/-- An interface that only its own loader's classes list: its members are those of the item. -/
theorem members_of_reachable_labelled :
    ∃ fs ms l₁ l₂, Runs (fields itemDisk ⟨"Item", ⟨2⟩⟩) itemSession fs l₁ ∧
      Runs (methods itemDisk ⟨"Item", ⟨2⟩⟩) itemSession ms l₂ ∧
      Undisputed itemDisk (lowerClass itemDecl) "Labelled" ∧
      ⟨"Labelled", "SIZE", "I", ⟨2⟩⟩ ∈ fs ∧ ∃ r ∈ ms, r.name = "label" ∧ r.descriptor = "()V" := by
  obtain ⟨hfind, hfields, hmethods, -⟩ := itemSession_computes
  obtain ⟨l₁, hfields⟩ := exists_runs_of_toOption hfields
  obtain ⟨l₂, hmethods⟩ := exists_runs_of_toOption hmethods
  obtain ⟨hmemf, hmemm⟩ := members_of_reachable (c := lowerClass itemDecl) itemSession_reached
    hfind hfields hmethods (.single (item_refers labelled_undisputed))
  exact ⟨_, _, l₁, l₂, hfields, hmethods, labelled_undisputed,
    hmemf ⟨"SIZE", true, "I", []⟩ List.mem_cons_self rfl,
    hmemm ⟨"label", true, false, "()V", [], []⟩ List.mem_cons_self rfl rfl (by decide)⟩

/-- **An interface is missed** that can be reached: the item's superclass, whose loader does not
have the interface, lists it before the interface does from which it can be reached. -/
theorem reachable_interface_missing :
    itemSession.Reached itemDisk itemLoader.2 ∧
      itemSession.find? ⟨2⟩ "Item" = some (lowerClass itemDecl).2 ∧
      Relation.ReflTransGen (Refers itemDisk fun _ => True) (lowerClass itemDecl)
        (lowerClass namedDecl) ∧
      namedDecl.isInterface = true ∧
      (∃ fs l₁, Runs (fields itemDisk ⟨"Item", ⟨2⟩⟩) itemSession fs l₁ ∧
        ∃ f ∈ namedDecl.fields, f.isPublic = true ∧
          ⟨"Named", f.name, f.descriptor, ⟨2⟩⟩ ∉ fs) ∧
      ∃ ms l₂, Runs (methods itemDisk ⟨"Item", ⟨2⟩⟩) itemSession ms l₂ ∧
        ∃ m ∈ namedDecl.methods, m.isPublic = true ∧ m.isStatic = false ∧
          m.isInitializer = false ∧ ∀ r ∈ ms, ¬(r.name = m.name ∧ r.descriptor = m.descriptor) := by
  obtain ⟨hfind, hfields, hmethods, -⟩ := itemSession_computes
  obtain ⟨l₁, hfields⟩ := exists_runs_of_toOption hfields
  obtain ⟨l₂, hmethods⟩ := exists_runs_of_toOption hmethods
  have hreach : ReflTransGen (Refers itemDisk fun _ => True) (lowerClass itemDecl)
      (lowerClass namedDecl) :=
    (ReflTransGen.single (item_refers trivial)).tail (labelled_refers trivial)
  exact ⟨itemSession_reached, hfind, hreach, rfl,
    ⟨_, l₁, hfields, ⟨"PREFIX", true, "I", []⟩, List.mem_cons_self, rfl, by decide⟩,
    _, l₂, hmethods, ⟨"name", true, false, "()V", [], []⟩, List.mem_cons_self, rfl, rfl,
    by decide, by decide⟩

end Classpath
