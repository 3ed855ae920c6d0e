import Classpath.Proofs.Traversal

/-!
# Failures of Reflection

Reflection passes over supertypes that no loader has. It fails only if a loader that is asked for
one fails itself: an entry cannot be read, or what it holds is no class file or that of another
class (`Loader.Breaks`). `Asks d c n p` says that reflection on the class `c` asks the loader `p`
for the name `n`. It does so for the names that the superclasses of `c` extend, and for those that
any of the supertypes that `c` leads to list.

## Main results

* `Linkage.exists_breaks_of_class?`: a lookup that fails does so at one of the loaders.
* `Linkage.Delegated.fails_supertypes`: what reflection fails for.
-/

namespace Classpath

open Relation (ReflTransGen)
open ClassIndex (firstWaiting)

variable {d : Disk} {F : Loaders} {l m : Linkage} {e : LinkError}

/-! ### Failures of lookups -/

/-- To look up the class of a type that is defined does not fail. -/
theorem not_fails_definedClass {s : Scope} {n : String} {c : DefinedClass}
    (hc : l.find? s n = some c) : ¬Fails (definedClass s n) l e := by
  have hrun : Runs (definedClass s n) l c l := runs_definedClass_iff.mpr ⟨hc, rfl⟩
  unfold Fails
  rw [hrun]
  simp

/-- A loader fails for a name: an entry cannot be read, or what the entries hold under the name is
no class file, or declares another class. -/
inductive Loader.Breaks (d : Disk) (x : Loader) (n : String) : LinkError → Prop
  | unreadable {path : String} {e : LinkError} (hpath : path ∈ x.localPaths)
      (h : entryBytes? d path (ClassFile.resourceName n) = .error e) : Breaks d x n e
  | malformed {bytes : Bytes} {cause : ClassFile.DeclarationError}
      (hbytes : x.classBytes? d n = .ok (some bytes)) (h : ClassDecl.ofBytes bytes = .error cause) :
      Breaks d x n (.declaration cause)
  | misnamed {bytes : Bytes} {decl : ClassDecl} (hbytes : x.classBytes? d n = .ok (some bytes))
      (h : ClassDecl.ofBytes bytes = .ok decl) (hne : decl.name ≠ n) :
      Breaks d x n (.otherClass n decl.name)

/-- A search along some entries fails with the error of one of them. -/
theorem exists_of_firstBytes?_eq_error {resource : String} {paths : List String}
    (h : firstBytes? d resource paths = .error e) :
    ∃ path ∈ paths, entryBytes? d path resource = .error e := by
  induction paths with
  | nil => cases h
  | cons path paths ih =>
      obtain hpath | ⟨_ | bytes, -, hrest⟩ := bind_eq_error_iff.mp h
      · exact ⟨path, List.mem_cons_self, hpath⟩
      · obtain ⟨path', hpath', herror⟩ := ih hrest
        exact ⟨path', List.mem_cons_of_mem _ hpath', herror⟩
      · cases hrest

/-- An entry that cannot be read is not one that does not have the class. -/
theorem entryBytes?_ne_classNotFound {path resource : String}
    (h : entryBytes? d path resource = .error e) (n : String) : e ≠ .classNotFound n := by
  have hfile : ∀ {x : Except FileError Bytes}, (x.mapError LinkError.file).map some = .error e →
      e ≠ .classNotFound n := by
    rintro (cause | bytes) hx <;> cases hx
    exact LinkError.noConfusion
  unfold entryBytes? at h
  split at h
  · dsimp only at h
    split at h
    · exact hfile h
    · cases h
  · unfold archiveBytes? at h
    split at h
    · cases h
    · cases h
      exact LinkError.noConfusion
    · split at h
      · cases h
      · cases h
        exact LinkError.noConfusion
      · exact hfile h
  · cases h

/-- What a loader breaks with is never that a class is missing. -/
theorem Loader.Breaks.ne_classNotFound {x : Loader} {n : String} (h : x.Breaks d n e)
    (n' : String) : e ≠ .classNotFound n' := by
  cases h with
  | unreadable _ h => exact entryBytes?_ne_classNotFound h n'
  | malformed => exact LinkError.noConfusion
  | misnamed => exact LinkError.noConfusion

namespace Linkage

variable {n : String} {p : Chain}

/-- If a lookup at one loader fails, the loader breaks with this error. -/
theorem breaks_of_own?_empty (h : ({} : Linkage).own? d n p = .error e) :
    p.loader.Breaks d n e := by
  rw [own?_empty] at h
  obtain hbytes | ⟨_ | bytes, hbytes, h⟩ := bind_eq_error_iff.mp h
  · obtain ⟨path, hpath, herror⟩ := exists_of_firstBytes?_eq_error hbytes
    exact .unreadable hpath herror
  · cases h
  · obtain hdecl | ⟨_, -, h⟩ := bind_eq_error_iff.mp h
    · obtain hparse | ⟨decl, hparse, hname⟩ := bind_eq_error_iff.mp hdecl
      · cases hdecl' : ClassDecl.ofBytes bytes with
        | error cause =>
            rw [hdecl'] at hparse
            cases hparse
            exact .malformed hbytes hdecl'
        | ok decl =>
            rw [hdecl'] at hparse
            cases hparse
      · split at hname
        · cases hname
        · rename_i hne
          cases hname
          exact .misnamed hbytes (mapError_eq_ok_iff.mp hparse) hne
    · cases h

/-- **A lookup fails** where one of the loaders it asks does. -/
theorem exists_breaks_of_class? (h : ({} : Linkage).class? d n p = .error e) :
    ∃ q ∈ p.chains, q.loader.Breaks d n e := by
  obtain ⟨x, ps⟩ := p
  have hown : ∀ {q : Chain} {t : TypeRef},
      (({} : Linkage).own? d n q).map (·.map (t, ·)) = .error e → q.loader.Breaks d n e := by
    intro q t hmap
    cases hq : ({} : Linkage).own? d n q with
    | error e' =>
        rw [hq] at hmap
        cases hmap
        exact breaks_of_own?_empty hq
    | ok found =>
        rw [hq] at hmap
        cases hmap
  induction ps generalizing x with
  | nil =>
      rw [class?_single] at h
      exact ⟨_, Chain.self_mem_chains _, hown h⟩
  | cons y ps ih =>
      rw [class?_cons] at h
      split at h
      · rename_i habove
        cases h
        obtain ⟨q, hq, hbreaks⟩ := ih y habove
        exact ⟨q, by rw [Chain.chains_cons]; exact List.mem_cons_of_mem _ hq, hbreaks⟩
      · cases h
      · exact ⟨_, Chain.self_mem_chains _, hown h⟩

/-- **Resolution fails** only where the lookup in the files does, and with the same error. -/
theorem Delegated.fails_resolve? (hl : l.Delegated d F) (hp : p ∈ F.made)
    (h : Fails (resolve? d n p) l e) : ({} : Linkage).class? d n p = .error e := by
  unfold Fails at h
  rw [outcome_resolve?, hl.faithful.class?_eq hp] at h
  rcases hclass : ({} : Linkage).class? d n p with e' | _ | found
  · rw [hclass] at h
    cases h
    rfl
  · rw [hclass] at h
    cases h
  · rw [hclass] at h
    cases h

end Linkage

/-! ### Failures of reflection -/

variable {c a b : TypeRef × DefinedClass}

/-- What a class leads to leads on to the interfaces that it lists. -/
theorem LeadsTo.tail (h : LeadsTo d c a) (hlists : Lists d a b) : LeadsTo d c b := by
  obtain ⟨z, hextends, hreach⟩ := h
  exact ⟨z, hextends, hreach.tail hlists⟩

/-- What a type leads to stems from a loader that was made. -/
theorem LeadsTo.made (hc : Settled d c) (hmade : c.2.chain ∈ F.made) (h : LeadsTo d c a) :
    a.2.chain ∈ F.made :=
  F.mem_of_mem_chains hmade (Linkage.class?_empty_spec (h.class? hc)).1

/-- Reflection on the class `c` asks the loader `p` for the name `n`: a superclass extends the name,
or something that `c` leads to lists it. -/
inductive Asks (d : Disk) (c : TypeRef × DefinedClass) (n : String) (p : Chain) : Prop
  | superclass {a : TypeRef × DefinedClass} (h : ReflTransGen (Extends d) c a)
      (hname : a.2.superName? = some n) (hchain : p = a.2.chain) : Asks d c n p
  | interface {a : TypeRef × DefinedClass} (h : LeadsTo d c a) (hname : n ∈ a.2.decl.interfaces)
      (hchain : p = a.2.chain) : Asks d c n p

namespace Linkage

variable {steps : Nat} {seen : List String}

/-- To resolve the superclass of a class fails only as the lookup of its name does. -/
theorem Delegated.fails_superclass? (hl : l.Delegated d F) (hc : c.2.chain ∈ F.made)
    (h : Fails (c.2.superclass? d) l e) :
    ∃ n, c.2.superName? = some n ∧ ({} : Linkage).class? d n c.2.chain = .error e := by
  unfold DefinedClass.superclass? at h
  split at h
  · exact absurd h not_fails_pure
  · rename_i n hsuper
    exact ⟨n, hsuper, hl.fails_resolve? hc h⟩

/-- **The first loop** fails only for the name that some superclass extends. -/
theorem Delegated.fails_superclasses (hl : l.Delegated d F)
    (hc : l.find? c.1.scope c.1.name = some c.2) (h : Fails (superclasses d steps seen c.1) l e) :
    ∃ n p, Asks d c n p ∧ ({} : Linkage).class? d n p = .error e := by
  suffices ∃ a n, ReflTransGen (Extends d) c a ∧ a.2.superName? = some n ∧
      ({} : Linkage).class? d n a.2.chain = .error e by
    obtain ⟨a, n, hreach, hname, hclass⟩ := this
    exact ⟨n, _, .superclass hreach hname rfl, hclass⟩
  induction steps generalizing seen c l with
  | zero => exact absurd h not_fails_pure
  | succ steps ih =>
      unfold superclasses at h
      split at h
      · exact absurd h not_fails_pure
      · obtain hcls | ⟨cls, _, hcls, h⟩ := fails_bind.mp h
        · exact absurd hcls (not_fails_definedClass hc)
        · obtain ⟨hcls, rfl⟩ := runs_definedClass_iff.mp hcls
          obtain rfl : c.2 = cls := by simpa [hc] using hcls
          have hmade := (hl.isRead hc).made
          obtain hsuper | ⟨parent, l₁, hsuper, h⟩ := fails_bind.mp h
          · obtain ⟨n, hname, hclass⟩ := hl.fails_superclass? hmade hsuper
            exact ⟨c, n, .refl, hname, hclass⟩
          · obtain ⟨hl₁, ⟨rfl, -⟩ | ⟨b, rfl, hextends, hb⟩⟩ := hl.of_runs_superclass? hmade hsuper
            · exact absurd h not_fails_pure
            · obtain hrest | ⟨_, _, -, h⟩ := fails_bind.mp h
              · obtain ⟨a, n, hreach, hname, hclass⟩ := ih hl₁ hb hrest
                exact ⟨a, n, .head hextends hreach, hname, hclass⟩
              · exact absurd h not_fails_pure

/-- **The second loop** fails only for a name that something lists. -/
theorem Delegated.fails_superinterfaces (hl : l.Delegated d F) (hc : Settled d c)
    (hmade : c.2.chain ∈ F.made) {waiting : List (String × Chain)}
    (hwaiting : ∀ w ∈ waiting, ∃ a, LeadsTo d c a ∧ w ∈ a.2.interfaces)
    (h : Fails (superinterfaces d steps seen waiting) l e) :
    ∃ n p, Asks d c n p ∧ ({} : Linkage).class? d n p = .error e := by
  induction steps generalizing seen waiting l with
  | zero => exact absurd h not_fails_pure
  | succ steps ih =>
      cases waiting with
      | nil => exact absurd h not_fails_pure
      | cons w waiting =>
          obtain ⟨⟨a, ha, hw⟩, hrest⟩ := List.forall_mem_cons.mp hwaiting
          obtain ⟨n, hn, rfl⟩ := List.mem_map.mp hw
          have hp := ha.made hc hmade
          unfold superinterfaces at h
          split at h
          · exact ih hl hrest h
          · obtain hresolve | ⟨t, l₁, ht, h⟩ := fails_bind.mp h
            · exact ⟨n, _, .interface ha hn rfl, hl.fails_resolve? hp hresolve⟩
            · obtain ⟨hl₁, ⟨rfl, -⟩ | ⟨b, rfl, hclass, hb⟩⟩ := hl.of_runs_resolve? hp ht
              · exact ih hl₁ hrest h
              · obtain hcls | ⟨cls, _, hcls, h⟩ := fails_bind.mp h
                · exact absurd hcls (not_fails_definedClass hb)
                · obtain ⟨hcls, rfl⟩ := runs_definedClass_iff.mp hcls
                  obtain rfl : b.2 = cls := by simpa [hb] using hcls
                  have hmore : ∀ w ∈ waiting ++ b.2.interfaces,
                      ∃ a, LeadsTo d c a ∧ w ∈ a.2.interfaces :=
                    List.forall_mem_append.mpr
                      ⟨hrest, fun w hw => ⟨b, ha.tail ⟨n, hn, hclass⟩, hw⟩⟩
                  obtain hspread | ⟨_, _, -, h⟩ := fails_bind.mp h
                  · exact ih hl₁ hmore hspread
                  · exact absurd h not_fails_pure

/-- **Reflection fails** only if looking up a supertype does. -/
theorem Delegated.fails_supertypes (hl : l.Delegated d F)
    (hc : l.find? c.1.scope c.1.name = some c.2) (h : Fails (supertypes d c.1) l e) :
    ∃ n p, Asks d c n p ∧ ({} : Linkage).class? d n p = .error e := by
  obtain ⟨hmade, -, hsettled⟩ := hl.found hc
  obtain hclasses | ⟨⟨above, seen⟩, l₁, hclasses, h⟩ := fails_bind.mp (fails_get_bind.mp h)
  · exact hl.fails_superclasses hc hclasses
  · obtain hinterfaces | ⟨_, _, -, h⟩ := fails_bind.mp h
    · have hsteps : d.capacity < ([] : List String).length + classBound d l := by
        simpa using capacity_lt_classBound d l
      obtain ⟨hl₁, hclimbs⟩ := hl.climbs ReadNames.nil hsteps hc hclasses
      refine hl₁.fails_superinterfaces hsettled hmade ?_ hinterfaces
      exact List.forall_mem_flatMap.mpr fun s hs w hw =>
        ⟨s.entry, ⟨_, hclimbs.extends s hs, .refl⟩, hw⟩
    · exact absurd h not_fails_pure

end Linkage

end Classpath
