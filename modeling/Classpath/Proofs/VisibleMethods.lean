import Classpath.Proofs.Failures
import Classpath.Proofs.Keeping
import Classpath.Proofs.Overrides
import Classpath.Proofs.Superinterfaces

/-!
# The Methods of a Type

The methods that reflection lists are told apart by name and descriptor, and of each of these the
list has one. It is declared by the type itself or by one of its supertypes. What superclasses
declare is never missing, and the nearest one of them that declares a method is the one listed,
since the superclasses come first and in order. A static method is one of a superclass.

References may lead in circles. The loops take a name once, and the loaders of a disk have only so
many classes, so the loops come to an end by themselves: with any larger number of steps they come
to the same.

## Main definitions

* `Superclass`: the superclasses of a class, counted from the class itself.
* `VisibleMethods`: what is said of the methods that are listed.

## Main results

* `Climbs.superclass`: the first loop finds the superclasses in order.
* `Traverses.visibleMethods`: the methods of all supertypes that are found.
* `visible_methods`: the methods of a type.
-/

namespace Classpath

open Relation (ReflTransGen)

variable {d : Disk} {F : Loaders} {l : Linkage} {c a b : TypeRef × DefinedClass}

/-! ### Superclasses in order -/

/-- The superclass that so many references to superclasses lead to. -/
inductive Superclass (d : Disk) (c : TypeRef × DefinedClass) : Nat → TypeRef × DefinedClass → Prop
  | self : Superclass d c 0 c
  | above {k : Nat} {a b : TypeRef × DefinedClass} (ha : Superclass d c k a)
      (h : Extends d a b) : Superclass d c (k + 1) b

/-- A superclass of the superclass is one step further away. -/
theorem Superclass.head {k : Nat} (hextends : Extends d c b) (h : Superclass d b k a) :
    Superclass d c (k + 1) a := by
  induction h with
  | self => exact .above .self hextends
  | above _ hstep ih => exact .above ih hstep

/-- There is at most one superclass at each distance. -/
theorem Superclass.unique {k : Nat} (h : Superclass d c k a) (h' : Superclass d c k b) : a = b := by
  induction h generalizing b with
  | self =>
      cases h'
      rfl
  | above _ hextends ih =>
      cases h' with
      | above h' hextends' =>
          obtain rfl := ih h'
          exact hextends.unique hextends'

/-- **The first loop finds the superclasses in order.** -/
theorem Climbs.superclass {seen seen' : List String} {before after : List Supertype}
    {s : Supertype} (h : Climbs d seen c (before ++ s :: after) seen') :
    Superclass d c before.length s.entry := by
  generalize habove : before ++ s :: after = above at h
  induction h generalizing before with
  | known => simp at habove
  | top =>
      obtain ⟨rfl, hs⟩ | ⟨-, hs⟩ := List.append_eq_singleton_iff.mp habove
      · obtain ⟨rfl, -⟩ := List.cons.inj hs
        exact .self
      · cases hs
  | step _ hextends _ ih =>
      cases before with
      | nil =>
          obtain ⟨rfl, -⟩ := List.cons.inj habove
          exact .self
      | cons s' before => exact (ih (List.cons.inj habove).2).head hextends

/-! ### Methods -/

/-- A class declares a method that is visible: a public one that is no initialiser. -/
def DefinedClass.Declares (c : DefinedClass) (signature : String × String) : Prop :=
  ∃ m ∈ c.decl.methods, (m.name, m.descriptor) = signature ∧ m.isPublic = true ∧
    m.isInitializer = false

/-- What is said of the methods that reflection lists for a class, with the classes that are
defined by then. -/
structure VisibleMethods (d : Disk) (l : Linkage) (c : TypeRef × DefinedClass)
    (ms : List MethodRef) : Prop where
  /-- Each signature is listed once. -/
  nodup : (ms.map (·.signature)).Nodup
  /-- Each method is a visible one of the type or a supertype, and if it is static, of the type or a
  superclass. -/
  declared : ∀ r ∈ ms, ∃ a, LeadsTo d c a ∧ a.1 = ⟨r.declaring, r.scope⟩ ∧
    l.find? r.scope r.declaring = some a.2 ∧
    ∃ m ∈ a.2.decl.methods, m.name = r.name ∧ m.descriptor = r.descriptor ∧ m.isPublic = true ∧
      m.isInitializer = false ∧ (m.isStatic = true → ReflTransGen (Extends d) c a)
  /-- What superclasses declare is listed as the method of the nearest one that declares it. -/
  nearest : ∀ a signature, ReflTransGen (Extends d) c a → a.2.Declares signature →
    ∃ k b, Superclass d c k b ∧ b.2.Declares signature ∧
      (∀ j < k, ∀ b', Superclass d c j b' → ¬b'.2.Declares signature) ∧
      ⟨b.1.name, signature.1, signature.2, b.1.scope⟩ ∈ ms

/-- What is left when hidden methods are left out has each signature once, and none of those that
were seen. -/
theorem nodup_firstOfSignature (seen : List (String × String)) (ms : List MethodRef) :
    ((firstOfSignature seen ms).map (·.signature)).Nodup ∧
      ∀ r ∈ firstOfSignature seen ms, r.signature ∉ seen := by
  induction ms generalizing seen with
  | nil => simp [firstOfSignature]
  | cons m ms ih =>
      unfold firstOfSignature
      split
      · exact ih seen
      · rename_i hnew
        obtain ⟨hnodup, hnot⟩ := ih (m.signature :: seen)
        refine ⟨List.nodup_cons.mpr ⟨fun hmem => ?_, hnodup⟩, List.forall_mem_cons.mpr
          ⟨by simpa using hnew, fun r hr hmem => hnot r hr (List.mem_cons_of_mem _ hmem)⟩⟩
        obtain ⟨r, hr, hsame⟩ := List.mem_map.mp hmem
        exact hnot r hr (hsame ▸ List.mem_cons_self)

/-- What a supertype offers: public methods that are no initialisers, and static ones only if it
was not reached as an interface. -/
theorem Supertype.offers_iff {s : Supertype} {m : MethodDecl} :
    s.offers m = true ↔ m.isPublic = true ∧ m.isInitializer = false ∧
      (s.isInterface = true → m.isStatic = false) := by
  unfold Supertype.offers
  cases s.isInterface <;> cases m.isStatic <;> simp

/-- A superclass offers what it declares. -/
theorem Supertype.exists_mem_methods_iff {s : Supertype} (hs : s.isInterface = false)
    {signature : String × String} :
    (∃ r ∈ s.methods, r.signature = signature) ↔ s.cls.Declares signature := by
  constructor
  · rintro ⟨r, hr, rfl⟩
    obtain ⟨m, hm, hoffers, rfl⟩ := Supertype.mem_methods.mp hr
    obtain ⟨hpublic, hinitializer, -⟩ := Supertype.offers_iff.mp hoffers
    exact ⟨m, hm, rfl, hpublic, hinitializer⟩
  · rintro ⟨m, hm, rfl, hpublic, hinitializer⟩
    refine ⟨_, Supertype.mem_methods.mpr ⟨m, hm, Supertype.offers_iff.mpr ?_, rfl⟩, rfl⟩
    exact ⟨hpublic, hinitializer, by simp [hs]⟩

variable {above beside : List Supertype}

/-- A method that is listed is one of the supertype that offers it. -/
theorem Traverses.declared (h : Traverses d c above beside) {s : Supertype}
    (hs : s ∈ above ++ beside) {r : MethodRef} (hr : r ∈ s.methods) :
    LeadsTo d c s.entry ∧ s.entry.1 = ⟨r.declaring, r.scope⟩ ∧
      ∃ m ∈ s.entry.2.decl.methods, m.name = r.name ∧ m.descriptor = r.descriptor ∧
        m.isPublic = true ∧ m.isInitializer = false ∧
        (m.isStatic = true → ReflTransGen (Extends d) c s.entry) := by
  obtain ⟨m, hm, hoffers, rfl⟩ := Supertype.mem_methods.mp hr
  obtain ⟨hpublic, hinitializer, hnotStatic⟩ := Supertype.offers_iff.mp hoffers
  refine ⟨h.leadsTo s hs, rfl, m, hm, rfl, rfl, hpublic, hinitializer, fun hstatic => ?_⟩
  obtain ⟨seen, hclimbs, hspreads⟩ := h
  obtain hs | hs := List.mem_append.mp hs
  · exact hclimbs.extends s hs
  · rw [hnotStatic (hspreads.listed s hs).1] at hstatic
    cases hstatic

/-- **What superclasses declare** is listed as the method of the nearest one that declares it. -/
theorem Traverses.nearest (h : Traverses d c above beside) (hc : Settled d c)
    (ha : ReflTransGen (Extends d) c a) {signature : String × String}
    (hdeclares : a.2.Declares signature) :
    ∃ k b, Superclass d c k b ∧ b.2.Declares signature ∧
      (∀ j < k, ∀ b', Superclass d c j b' → ¬b'.2.Declares signature) ∧
      ⟨b.1.name, signature.1, signature.2, b.1.scope⟩ ∈
        firstOfSignature [] ((above ++ beside).flatMap Supertype.methods) := by
  obtain ⟨s, hs, rfl⟩ := h.mem_of_extends hc ha
  obtain ⟨seen, hclimbs, -⟩ := h
  have hclass := hclimbs.isInterface_eq_false
  obtain ⟨r₀, hr₀, rfl⟩ := (Supertype.exists_mem_methods_iff (hclass s hs)).mpr hdeclares
  have hoffered : r₀ ∈ (above ++ beside).flatMap Supertype.methods :=
    List.mem_flatMap.mpr ⟨s, List.mem_append_left _ hs, hr₀⟩
  obtain ⟨r, hr, hsame⟩ := exists_mem_firstOfSignature hoffered List.not_mem_nil
  obtain ⟨before, x, after, hsplit, hx, hbefore⟩ := exists_declaring hr
  -- a superclass offers the method, so the first supertype that does is a superclass
  have hprefix : ∃ rest, above = before ++ x :: rest := by
    obtain ⟨rest, rfl, -⟩ | ⟨rest, habove, hrest⟩ := List.append_eq_append_iff.mp hsplit
    · exact absurd hsame.symm (hbefore s (List.mem_append_left _ hs) r₀ hr₀)
    · cases rest with
      | nil =>
          rw [List.append_nil] at habove
          exact absurd hsame.symm (hbefore s (habove ▸ hs) r₀ hr₀)
      | cons y rest =>
          obtain ⟨rfl, -⟩ := List.cons.inj hrest
          exact ⟨rest, habove⟩
  obtain ⟨rest, rfl⟩ := hprefix
  have hxclass := hclass x (by simp)
  refine ⟨before.length, x.entry, hclimbs.superclass,
    (Supertype.exists_mem_methods_iff hxclass).mp ⟨r, hx, hsame⟩, fun j hj b hb hdeclares => ?_, ?_⟩
  · have hsplit : before = before.take j ++ before[j] :: before.drop (j + 1) := by simp
    have hj' : before[j].entry = b := by
      refine Superclass.unique (k := j) ?_ hb
      rw [hsplit, List.append_assoc, List.cons_append] at hclimbs
      simpa [List.length_take, Nat.min_eq_left (Nat.le_of_lt hj)] using hclimbs.superclass
    have hmem : before[j] ∈ before := List.getElem_mem hj
    rw [← hj'] at hdeclares
    obtain ⟨r', hr', hsame'⟩ := (Supertype.exists_mem_methods_iff
      (hclass _ (List.mem_append_left _ hmem))).mpr hdeclares
    exact hbefore _ hmem r' hr' (hsame'.trans hsame.symm)
  · obtain ⟨m, -, -, rfl⟩ := Supertype.mem_methods.mp hx
    rw [← hsame]
    exact hr

/-- **The methods of all supertypes** that are found. -/
theorem Traverses.visibleMethods (h : Traverses d c above beside) (hc : Settled d c)
    (hdefined : ∀ s ∈ above ++ beside, s.IsDefined l) :
    VisibleMethods d l c (firstOfSignature [] ((above ++ beside).flatMap Supertype.methods)) where
  nodup := (nodup_firstOfSignature _ _).1
  declared r hr := by
    obtain ⟨before, x, after, hsplit, hx, -⟩ := exists_declaring hr
    have hmem : x ∈ above ++ beside := by simp [hsplit]
    obtain ⟨hleads, htype, hdeclares⟩ := h.declared hmem hx
    refine ⟨x.entry, hleads, htype, ?_, hdeclares⟩
    have hfind : l.find? x.type.scope x.type.name = some x.cls := hdefined x hmem
    rwa [show x.type = ⟨r.declaring, r.scope⟩ from htype] at hfind
  nearest _ _ ha hdeclares := h.nearest hc ha hdeclares

/-! ### The steps of the loops -/

/-- The methods that so many steps of each of the two loops lead to. -/
def methodsWithin (d : Disk) (up beside : Nat) (type : TypeRef) : Linked (List MethodRef) := do
  return firstOfSignature [] ((← supertypesWithin d up beside type).flatMap Supertype.methods)

/-- **Steps that are not needed** change nothing, also where the methods cannot be listed. -/
theorem outcome_methodsWithin (hl : l.Delegated d F) (hc : l.find? c.1.scope c.1.name = some c.2)
    {up beside : Nat} (hup : d.capacity < up)
    (hbeside : 2 * (d.capacity + 1) * interfaceBound ≤ beside) :
    outcome (methodsWithin d up beside c.1) l = outcome (methods d c.1) l := by
  have hdefines : l.Defines c.1 := Option.isSome_iff_exists.mpr ⟨_, hc⟩
  unfold methodsWithin methods
  rw [outcome_bind, outcome_bind, hl.outcome_supertypesWithin hdefines hup hbeside]

/-- **The methods of a type.** After any session, let a class be defined. To list its methods comes
to an end by itself: there is a number of steps from which on more of them change nothing. If it
succeeds, the methods are as `VisibleMethods` says. If it fails, a loader that was asked for the
superclass of a superclass or for an interface of a supertype fails with this error, and never for
want of the class. -/
theorem visible_methods (h : l.Reached d F) (hc : l.find? c.1.scope c.1.name = some c.2) :
    (∃ k, ∀ up ≥ k, ∀ beside ≥ k,
      (outcome (methodsWithin d up beside c.1) l).1 = (outcome (methods d c.1) l).1) ∧
    (∀ ms l', Runs (methods d c.1) l ms l' → VisibleMethods d l' c ms) ∧
    ∀ e l', outcome (methods d c.1) l = (.error e, l') →
      ∃ n p, Asks d c n p ∧ ({} : Linkage).class? d n p = .error e ∧
        (∃ q ∈ p.chains, q.loader.Breaks d n e) ∧ ∀ n', e ≠ .classNotFound n' := by
  have hl := h.delegated
  have hsettled : Settled d c := (hl.found hc).2.2
  refine ⟨⟨2 * (d.capacity + 1) * interfaceBound, fun up hup beside hbeside => ?_⟩,
    fun ms l' hrun => ?_, fun e l' hfails => ?_⟩
  · have hcapacity : d.capacity + 1 ≤ 2 * (d.capacity + 1) * interfaceBound := by
      unfold interfaceBound
      omega
    exact congrArg Prod.fst
      (outcome_methodsWithin hl hc (Nat.lt_of_succ_le (Nat.le_trans hcapacity hup)) hbeside)
  · obtain ⟨all, _, hall, hmethods⟩ := runs_bind.mp hrun
    obtain ⟨rfl, rfl⟩ := runs_pure.mp hmethods
    obtain ⟨above, beside, rfl, htraverses⟩ := hl.traverses hc hall
    have hsound : l.Sound F := Linkage.sound_empty.grows h.faithful
    obtain ⟨-, -, hdefined⟩ := (keeps_supertypes c.1).of_runs hsound trivial hall
    exact htraverses.visibleMethods hsettled hdefined
  · have hsupertypes : Fails (supertypes d c.1) l e := by
      obtain hsupertypes | ⟨_, _, -, hpure⟩ := fails_bind.mp (congrArg Prod.fst hfails)
      · exact hsupertypes
      · exact absurd hpure not_fails_pure
    obtain ⟨n, p, hasks, hclass⟩ := hl.fails_supertypes hc hsupertypes
    obtain ⟨q, hq, hbreaks⟩ := Linkage.exists_breaks_of_class? hclass
    exact ⟨n, p, hasks, hclass, ⟨q, hq, hbreaks⟩, hbreaks.ne_classNotFound⟩

/-! ### Classes that extend each other -/

/-- A class whose superclass extends it. -/
def coilDecl : ClassDecl :=
  ⟨"Coil", some "Loop", [], false, [], [],
    [⟨"<init>", true, false, "()V", [], []⟩, ⟨"turn", true, false, "()V", [], []⟩]⟩

/-- Its superclass, which lists an interface and one that no loader has. -/
def loopDecl : ClassDecl :=
  ⟨"Loop", some "Coil", ["Spiral", "Absent"], false, [], [],
    [⟨"turn", true, false, "()V", [], []⟩, ⟨"make", true, true, "()V", [], []⟩]⟩

/-- An interface that extends itself, with a static method and one that is not. -/
def spiralDecl : ClassDecl :=
  ⟨"Spiral", none, ["Spiral"], true, [], [],
    [⟨"of", true, true, "()V", [], []⟩, ⟨"grow", true, false, "()V", [], []⟩]⟩

/-- A disk with two classes that extend each other and an interface that extends itself. -/
def coilDisk : Disk where
  entries := [(["c"], .directory), (["c", "Coil.class"], .file 0), (["c", "Loop.class"], .file 1),
    (["c", "Spiral.class"], .file 2)]
  contents := [coilDecl.toBytes, loopDecl.toBytes, spiralDecl.toBytes]

/-- A loader for the directory of the class files. -/
def coilLoader : Chain × Loaders := Loaders.empty.add "app" [Url.ofPath "/c"] none

/-- A session in which one of the classes was resolved. -/
def coilSession : Linkage := Operation.perform coilDisk (.resolve "Coil" coilLoader.1) {}

theorem coilSession_reached : coilSession.Reached coilDisk coilLoader.2 :=
  .step .start (by simp [Operation.Within, coilLoader, Loaders.add])

/-- What is listed for it: its own method, the static one of its superclass, and the one of the
interface that is not static. -/
theorem visible_methods_coil :
    coilSession.Reached coilDisk coilLoader.2 ∧
      coilSession.find? ⟨1⟩ "Coil" = some ⟨coilDecl, coilLoader.1⟩ ∧
      ∃ l', Runs (methods coilDisk ⟨"Coil", ⟨1⟩⟩) coilSession [⟨"Coil", "turn", "()V", ⟨1⟩⟩,
          ⟨"Loop", "make", "()V", ⟨1⟩⟩, ⟨"Spiral", "grow", "()V", ⟨1⟩⟩] l' ∧
        VisibleMethods coilDisk l' (⟨"Coil", ⟨1⟩⟩, ⟨coilDecl, coilLoader.1⟩)
          [⟨"Coil", "turn", "()V", ⟨1⟩⟩, ⟨"Loop", "make", "()V", ⟨1⟩⟩,
            ⟨"Spiral", "grow", "()V", ⟨1⟩⟩] := by
  have hcomputes : coilSession.find? ⟨1⟩ "Coil" = some ⟨coilDecl, coilLoader.1⟩ ∧
      (outcome (methods coilDisk ⟨"Coil", ⟨1⟩⟩) coilSession).1.toOption =
        some [⟨"Coil", "turn", "()V", ⟨1⟩⟩, ⟨"Loop", "make", "()V", ⟨1⟩⟩,
          ⟨"Spiral", "grow", "()V", ⟨1⟩⟩] := by decide +kernel
  obtain ⟨hfind, hmethods⟩ := hcomputes
  obtain ⟨l', hmethods⟩ := exists_runs_of_toOption hmethods
  obtain ⟨-, hvisible, -⟩ := visible_methods (c := (⟨"Coil", ⟨1⟩⟩, ⟨coilDecl, coilLoader.1⟩))
    coilSession_reached hfind
  exact ⟨coilSession_reached, hfind, l', hmethods, hvisible _ _ hmethods⟩

end Classpath
