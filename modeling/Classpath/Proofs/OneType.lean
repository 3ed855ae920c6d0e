import Classpath.Proofs.Agreement
import Classpath.Proofs.Subtypes

/-!
# One Name, One Type

A loader that delegates to another one asks it first, so what the upper loader resolves a name to
is what the lower one resolves it to as well, and the second resolution finds the class defined
already. The classes that are defined before may be any, also such as no file on the disk speaks
for.

A query resolves the name of a declaration through the loader of each root that holds the
resource. All these loaders stand in one chain, where of any two one delegates to the other, so a
name that several roots hold is one type, however often it is resolved.

## Main results

* `Linkage.runs_resolve_of_mem_chains`, `Linkage.runs_resolve_again`: resolution further down,
  from the same classes and from those that resolution further up left behind.
* `ClassIndex.one_type_per_name`: what the queries for types find bears different names.
-/

namespace Classpath

variable {d d₀ : Disk} {F : Loaders} {l l' : Linkage}

namespace Linkage

variable {n : String} {c p : Chain} {t : TypeRef}

/-- **What a loader resolves a name to**, every loader that delegates to it resolves it to. -/
theorem runs_resolve_of_mem_chains (hp : p ∈ c.chains) (hrun : Runs (resolve d n p) l t l') :
    Runs (resolve d n c) l t l' := by
  obtain ⟨cls, hclass, rfl⟩ := runs_resolve_iff.mp hrun
  exact runs_resolve_iff.mpr ⟨cls, class?_of_mem_chains hp hclass, rfl⟩

/-- **Resolution again**, at any later time on the same disk, comes to the same type and defines
nothing more. -/
theorem runs_resolve_again (hc : c ∈ F.made) (hrun : Runs (resolve d n c) l t l') {m : Linkage}
    (hgrows : l'.Grows d F m) : Runs (resolve d n c) m t m := by
  obtain ⟨cls, hclass, rfl⟩ := runs_resolve_iff.mp hrun
  have hdefined := hgrows.kept (find?_define_of_class? hclass)
  refine runs_resolve_iff.mpr ⟨cls, ?_, (define_of_find? hdefined).symm⟩
  rw [((grows_define hc hclass).trans hgrows).class?_eq hc, hclass]

end Linkage

namespace ClassIndex

variable {i : ClassIndex}

/-- A query for types that match finds no two types of one name. -/
theorem nodup_names_typeWhere (hi : i.Made F d₀) {holds : ClassDecl → Bool} {ts : List TypeRef}
    (hrun : Runs (i.collect (typeWhere d holds)) l ts l') : (ts.map (·.name)).Nodup := by
  obtain ⟨-, hnodup, -, hmem⟩ :=
    (adds_collect_typeWhere hi).of_runs (Linkage.Grows.refl d F l) hrun
  exact nodup_names_of_denotes hi hnodup fun t ht => ⟨holds, (hmem t).mp ht⟩

section Order

variable {order : Order} (horder : ∀ ts t, t ∈ order ts ↔ t ∈ ts) {name : String}

include horder

/-- Nor does the search for subtypes. -/
theorem nodup_names_subtypes (hi : i.Made F d₀) {S : List TypeRef}
    (hrun : Runs (i.subtypes d order name) l S l') : (S.map (·.name)).Nodup := by
  obtain ⟨-, hnodup, -, hmem⟩ :=
    (adds_subtypes hi horder name).of_runs (Linkage.Grows.refl d F l) hrun
  exact nodup_names_of_denotes hi hnodup fun t ht => ((hmem t).mp ht).denotes

/-- Nor does the search for implementers. -/
theorem nodup_names_implementers (hi : i.Made F d₀) {R : List TypeRef}
    (hrun : Runs (i.implementers d order name) l R l') : (R.map (·.name)).Nodup := by
  obtain ⟨-, hnodup, -, -, hmem⟩ :=
    (adds_implementers hi horder name).of_runs (Linkage.Grows.refl d F l) hrun
  have hdenotes : ∀ t ∈ R, ∃ holds, i.Denotes d l holds t := by
    intro t ht
    obtain ht | ⟨s, -, ht⟩ := (hmem t).mp ht
    · exact ⟨_, ht⟩
    · exact ht.denotes
  exact nodup_names_of_denotes hi hnodup hdenotes

end Order

/-- **One name is one type.** Whatever classes are defined, and whatever the disk holds: what a
loader resolves a name to, every loader that delegates to it resolves it to, from the same classes
as well as afterwards. So the types that a query finds in an index bear different names, also if
the index was made of another disk. -/
theorem one_type_per_name (F : Loaders) (d : Disk) (l : Linkage) :
    (∀ n, ∀ c ∈ F.made, ∀ p ∈ c.chains, ∀ t l', Runs (resolve d n p) l t l' →
      Runs (resolve d n c) l t l' ∧ Runs (resolve d n c) l' t l') ∧
    ∀ (i : ClassIndex) (d₀ : Disk), i.Made F d₀ →
      ∀ order : Order, (∀ ts t, t ∈ order ts ↔ t ∈ ts) → ∀ (name : String) (ts : List TypeRef)
        (l' : Linkage),
        (Runs (i.annotatedTypes d name) l ts l' ∨ Runs (i.directSubtypes d name) l ts l' ∨
          Runs (i.subtypes d order name) l ts l' ∨ Runs (i.directImplementers d name) l ts l' ∨
          Runs (i.implementers d order name) l ts l') → (ts.map (·.name)).Nodup := by
  constructor
  · intro n c hc p hp t l' hrun
    have hlower := Linkage.runs_resolve_of_mem_chains hp hrun
    exact ⟨hlower, Linkage.runs_resolve_again hc hlower (Linkage.Grows.refl d F l')⟩
  · rintro i d₀ hi order horder name ts l' (hrun | hrun | hrun | hrun | hrun)
    · exact nodup_names_typeWhere hi hrun
    · exact nodup_names_typeWhere hi hrun
    · exact nodup_names_subtypes horder hi hrun
    · exact nodup_names_typeWhere hi hrun
    · exact nodup_names_implementers horder hi hrun

/-- A class that two loaders have is resolved through both, and is one type: that of the loader
further up. -/
theorem one_type_per_name_shadowed :
    shadowParent.1 ∈ shadowLoader.1.chains ∧
      (∃ l', Runs (resolve shadowDisk "A" shadowParent.1) {} ⟨"A", ⟨1⟩⟩ l' ∧
        Runs (resolve shadowDisk "A" shadowLoader.1) l' ⟨"A", ⟨1⟩⟩ l') ∧
      shadowIndex.resources.roots.map (·.resources) = [["A.class"], ["A.class"]] ∧
      ∃ ts l', Runs (shadowIndex.annotatedTypes shadowDisk "Upper") {} ts l' ∧
        ⟨"A", ⟨1⟩⟩ ∈ ts ∧ (ts.map (·.name)).Nodup := by
  have hparent : shadowParent.1 ∈ shadowLoader.1.chains := by decide +kernel
  have hupper : (outcome (resolve shadowDisk "A" shadowParent.1) {}).1.toOption =
      some ⟨"A", ⟨1⟩⟩ := by decide +kernel
  have htypes : (outcome (shadowIndex.annotatedTypes shadowDisk "Upper") {}).1.toOption =
      some [⟨"A", ⟨1⟩⟩] := by decide +kernel
  obtain ⟨l₁, hupper⟩ := exists_runs_of_toOption hupper
  obtain ⟨l₂, htypes⟩ := exists_runs_of_toOption htypes
  obtain ⟨resources, hresources, hof⟩ := bind_eq_ok_iff.mp build_shadow
  obtain ⟨f, -, hbuild⟩ := bind_eq_ok_iff.mp hresources
  have hi : shadowIndex.Made shadowLoader.2 shadowDisk :=
    ⟨shadowDisk, shadowLoader.1, f, resources, shadowLoader_made, hbuild, hof⟩
  obtain ⟨hresolve, hqueries⟩ := one_type_per_name shadowLoader.2 shadowDisk {}
  obtain ⟨-, hlower⟩ := hresolve "A" _ shadowLoader_made _ hparent _ _ hupper
  have hnames := hqueries _ _ hi id (fun _ _ => Iff.rfl) "Upper" _ _ (Or.inl htypes)
  exact ⟨hparent, ⟨l₁, hupper, hlower⟩, rfl, _, l₂, htypes, List.mem_cons_self, hnames⟩

end ClassIndex

end Classpath
