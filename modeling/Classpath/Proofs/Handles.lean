import Mathlib.Logic.Relation
import Classpath.Proofs.Keeping

/-!
# Handles on a Changing Disk

Types, methods and fields are handed out as names and scopes, and may be asked about at any later
time. In between other operations define classes, and files are written, replaced and removed.
A session on a changing disk is a sequence of such steps: `Session changes F` relates a disk and
the classes defined by then to those that the steps lead to, where `changes` says what may happen
to the disk in one step.

Whatever happens to the disk, a class that is defined stays what it is (`Session.spec`), and every
handle is one of a class that is defined. So whatever can be asked about a handle has an answer,
and it is the one that the class had when the handle was handed out.

## Main definitions

* `Session`: what a session on a changing disk leads to.
* `Session.Settled`: a question that has one answer from now on.

## Main results

* `Session.spec`: what every step preserves, and so every session.
* `handles_last`: whatever is handed out keeps its meaning.
-/

namespace Classpath

open Linkage (Defines)

variable {α : Type} {d d' : Disk} {F : Loaders} {l l' : Linkage} {changes : Disk → Disk → Prop}

/-! ### Sessions -/

/-- One step of a session: the disk changes, or an operation is performed on the disk as it
is. -/
inductive Session.Step (changes : Disk → Disk → Prop) (F : Loaders) :
    Disk × Linkage → Disk × Linkage → Prop
  | change {d d' : Disk} {l : Linkage} : changes d d' → Step changes F (d, l) (d', l)
  | perform {d : Disk} {l : Linkage} {op : Operation} :
      op.Within F → Step changes F (d, l) (d, op.perform d l)

/-- A disk and the classes that are defined, and what the steps of a session make of them. -/
def Session (changes : Disk → Disk → Prop) (F : Loaders) :
    Disk × Linkage → Disk × Linkage → Prop :=
  Relation.ReflTransGen (Session.Step changes F)

/-- Whatever class is defined in `l` is defined in `l'`. -/
def Linkage.Kept (l l' : Linkage) : Prop :=
  ∀ {s : Scope} {n : String} {c : DefinedClass}, l.find? s n = some c → l'.find? s n = some c

namespace Session

variable {w w' : Disk × Linkage}

/-- **One step** keeps the classes that are defined, and leaves classes that are sound. -/
theorem Step.spec (h : Step changes F w w') (hw : w.2.Sound F) : w'.2.Sound F ∧ w.2.Kept w'.2 := by
  cases h with
  | change _ => exact ⟨hw, id⟩
  | @perform d _ _ hop =>
      have hgrows := hw.grows_perform (d := d) hop
      exact ⟨hw.grows hgrows, hgrows.kept⟩

/-- **A whole session** keeps the classes that are defined, and leaves classes that are sound. -/
theorem spec (h : Session changes F w w') (hw : w.2.Sound F) : w'.2.Sound F ∧ w.2.Kept w'.2 := by
  induction h with
  | refl => exact ⟨hw, id⟩
  | tail _ hstep ih =>
      obtain ⟨hsound, hkept⟩ := ih
      obtain ⟨hsound', hkept'⟩ := hstep.spec hsound
      exact ⟨hsound', fun hfind => hkept' (hkept hfind)⟩

/-- From now on a question has one answer, whatever the session goes on with, and asking it
defines nothing. -/
def Settled (changes : Disk → Disk → Prop) (F : Loaders) (w : Disk × Linkage) (x : Linked α) :
    Prop :=
  ∃ a, ∀ w', Session changes F w w' → Runs x w'.2 a w'.2

end Session

/-! ### Questions about classes that are defined -/

/-- Whether a type is annotated is answered from the declaration of its class. -/
theorem runs_isTypeAnnotated {t : TypeRef} {c : DefinedClass}
    (hc : l.find? t.scope t.name = some c) (a : String) :
    Runs (isTypeAnnotated t a) l (c.decl.isAnnotated a) l :=
  runs_bind.mpr ⟨c, l, runs_definedClass_iff.mpr ⟨hc, rfl⟩, runs_pure.mpr ⟨rfl, rfl⟩⟩

/-- The declaration of a method is the first one of its name and descriptor in its class. -/
theorem runs_methodDecl {m : MethodRef} {c : DefinedClass} {decl : MethodDecl}
    (hc : l.find? m.scope m.declaring = some c)
    (hdecl : c.decl.methods.find? (fun n => n.name = m.name && n.descriptor = m.descriptor) =
      some decl) :
    Runs (methodDecl m) l decl l := by
  refine runs_bind.mpr ⟨c, l, runs_definedClass_iff.mpr ⟨hc, rfl⟩, ?_⟩
  rw [hdecl]
  exact runs_pure.mpr ⟨rfl, rfl⟩

/-- Whether a field is annotated is answered from all fields of its name in its class. -/
theorem runs_isFieldAnnotated {f : FieldRef} {c : DefinedClass}
    (hc : l.find? f.scope f.declaring = some c) (a : String) :
    Runs (isFieldAnnotated f a) l
      (c.decl.fields.any fun g => g.name == f.name && g.annotations.contains a) l :=
  runs_bind.mpr ⟨c, l, runs_definedClass_iff.mpr ⟨hc, rfl⟩, runs_pure.mpr ⟨rfl, rfl⟩⟩

namespace Session

variable {w : Disk × Linkage}

/-- For a type whose class is defined, the answer is settled. -/
theorem settled_isTypeAnnotated (hw : w.2.Sound F) {t : TypeRef} (ht : w.2.Defines t) (a : String) :
    Settled changes F w (isTypeAnnotated t a) := by
  obtain ⟨c, hc⟩ := Option.isSome_iff_exists.mp ht
  exact ⟨_, fun w' h => runs_isTypeAnnotated ((h.spec hw).2 hc) a⟩

/-- For a method of a class that is defined, the answer is settled, and that its declaration is
found. -/
theorem settled_isMethodAnnotated (hw : w.2.Sound F) {m : MethodRef} (hm : m.IsDeclared w.2)
    (a : String) : Settled changes F w (isMethodAnnotated m a) := by
  obtain ⟨c, decl, hc, hdecl⟩ := hm
  refine ⟨decl.annotations.contains a, fun w' h => runs_bind.mpr ⟨decl, w'.2, ?_, ?_⟩⟩
  · exact runs_methodDecl ((h.spec hw).2 hc) hdecl
  · exact runs_pure.mpr ⟨rfl, rfl⟩

theorem settled_parameterAnnotations (hw : w.2.Sound F) {m : MethodRef} (hm : m.IsDeclared w.2) :
    Settled changes F w (parameterAnnotations m) := by
  obtain ⟨c, decl, hc, hdecl⟩ := hm
  refine ⟨decl.parameterAnnotations, fun w' h => runs_bind.mpr ⟨decl, w'.2, ?_, ?_⟩⟩
  · exact runs_methodDecl ((h.spec hw).2 hc) hdecl
  · exact runs_pure.mpr ⟨rfl, rfl⟩

/-- And for a field of a class that is defined, the answer is settled. -/
theorem settled_isFieldAnnotated (hw : w.2.Sound F) {f : FieldRef} (hf : f.IsDeclared w.2)
    (a : String) : Settled changes F w (isFieldAnnotated f a) := by
  obtain ⟨c, hc, -⟩ := hf
  exact ⟨_, fun w' h => runs_isFieldAnnotated ((h.spec hw).2 hc) a⟩

end Session

/-! ### Handles -/

/-- **Handles keep their meaning**, whatever happens to the disk. At any time of a session every
class that is defined bears the name it is defined under and belongs to the loader of its scope.
And whatever type, method or field is handed out, each question about it is settled from then
on. -/
theorem handles_last {d₀ : Disk} (h : Session changes F (d₀, {}) (d, l)) :
    (∀ s n c, l.find? s n = some c → c.decl.name = n ∧ c.chain ∈ F.made ∧ c.chain.scope = s) ∧
    (∀ n, ∀ c ∈ F.made, ∀ t l', Runs (resolve d n c) l t l' →
      ∀ a, Session.Settled changes F (d, l') (isTypeAnnotated t a)) ∧
    (∀ t ms l', Runs (methods d t) l ms l' → ∀ m ∈ ms,
      (∀ a, Session.Settled changes F (d, l') (isMethodAnnotated m a)) ∧
        Session.Settled changes F (d, l') (parameterAnnotations m)) ∧
    ∀ t fs l', Runs (fields d t) l fs l' → ∀ f ∈ fs,
      ∀ a, Session.Settled changes F (d, l') (isFieldAnnotated f a) := by
  obtain ⟨hl, -⟩ := h.spec Linkage.sound_empty
  refine ⟨fun s n c hfind => ⟨hl.named hfind, hl.made hfind⟩, fun n c hc t l' hrun => ?_,
    fun t ms l' hrun m hm => ?_, fun t fs l' hrun f hf => ?_⟩
  · obtain ⟨-, hl', ht⟩ := (keeps_resolve hc).of_runs hl trivial hrun
    exact Session.settled_isTypeAnnotated hl' ht
  · obtain ⟨-, hl', hms⟩ := (keeps_methods t).of_runs hl trivial hrun
    exact ⟨Session.settled_isMethodAnnotated hl' (hms m hm),
      Session.settled_parameterAnnotations hl' (hms m hm)⟩
  · obtain ⟨-, hl', hfs⟩ := (keeps_fields t).of_runs hl trivial hrun
    exact Session.settled_isFieldAnnotated hl' (hfs f hf)

/-- A method that was handed out, after the class file it was read from is gone: what it carries on
its parameters can still be asked. -/
theorem handles_last_removed :
    ∃ l l', Session (fun _ _ => True) ClassIndex.shadowLoader.2 (ClassIndex.shadowDisk, {})
        (ClassIndex.shadowDisk, l) ∧
      Runs (methods ClassIndex.shadowDisk ⟨"A", ⟨1⟩⟩) l [⟨"A", "m", "(I)V", ⟨1⟩⟩] l' ∧
      Session (fun _ _ => True) ClassIndex.shadowLoader.2 (ClassIndex.shadowDisk, l') ({}, l') ∧
      Runs (parameterAnnotations ⟨"A", "m", "(I)V", ⟨1⟩⟩) l' [["Upper"]] l' := by
  have hsession : Session (fun _ _ => True) ClassIndex.shadowLoader.2 (ClassIndex.shadowDisk, {})
      (ClassIndex.shadowDisk, Operation.perform ClassIndex.shadowDisk
        (.resolve "A" ClassIndex.shadowLoader.1) {}) :=
    .single (.perform ClassIndex.shadowLoader_made)
  have hmethods : (outcome (methods ClassIndex.shadowDisk ⟨"A", ⟨1⟩⟩) (Operation.perform
      ClassIndex.shadowDisk (.resolve "A" ClassIndex.shadowLoader.1) {})).1.toOption =
        some [⟨"A", "m", "(I)V", ⟨1⟩⟩] := by decide +kernel
  have hanswer : (outcome (parameterAnnotations ⟨"A", "m", "(I)V", ⟨1⟩⟩)
      (outcome (methods ClassIndex.shadowDisk ⟨"A", ⟨1⟩⟩) (Operation.perform
        ClassIndex.shadowDisk (.resolve "A" ClassIndex.shadowLoader.1) {})).2).1.toOption =
          some [["Upper"]] := by decide +kernel
  obtain ⟨l', hmethods⟩ := exists_runs_of_toOption hmethods
  have hremoved : Session (fun _ _ => True) ClassIndex.shadowLoader.2
      (ClassIndex.shadowDisk, l') ({}, l') := .single (.change trivial)
  obtain ⟨-, -, hlast, -⟩ := handles_last hsession
  obtain ⟨-, slots, hslots⟩ := hlast _ _ _ hmethods _ List.mem_cons_self
  rw [hmethods] at hanswer
  obtain ⟨l'', hrun⟩ := exists_runs_of_toOption hanswer
  obtain ⟨rfl, -⟩ := hrun.unique (hslots _ .refl)
  exact ⟨_, l', hsession, hmethods, hremoved, hslots _ hremoved⟩

end Classpath
