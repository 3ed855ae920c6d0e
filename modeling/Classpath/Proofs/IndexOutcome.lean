import Classpath.Proofs.Agreement
import Classpath.Proofs.SortedNames

/-!
# What Making a Class Index Comes To

A class index reads every resource of every root, also where another root shadows it. So it is
made if every one of them can be read and declares a class, and otherwise it fails as the first
one does that cannot or does not, in the order of the roots and of the resources of a root.

An index that is made has the resources of its roots as its keys, in order and each once. What
it has for a resource is from the root that *prevails*: of the roots that hold the resource, the
first one of the most distant loader.

## Main results

* `ClassIndex.ofResources_eq_error_iff`: when no index is made, and why.
* `ClassIndex.decls_eq_all`: the keys of an index.
* `ClassIndex.ofResources_outcome`: all of it.
-/

namespace Classpath

namespace Root

variable {d : Disk} {c : Chain} {f : Filter} {r : Root} {n : String}

/-- The resources of a root are in ascending order. -/
theorem pairwise_resources {path : String} (h : ofEntry? d c path f = .ok (some r)) :
    r.resources.Pairwise (· < ·) := by
  obtain ⟨_, names, -, hnames, rfl⟩ | ⟨_, _, archive, -, -, rfl⟩ := ofEntry?_eq_some h
  · obtain ⟨files, -, hnames⟩ := bind_eq_ok_iff.mp hnames
    rw [pure_eq_ok_iff.mp hnames]
    exact Text.pairwise_sortedDistinct _
  · show (archiveNames archive.names f).Pairwise (· < ·)
    unfold archiveNames
    split
    · exact Text.pairwise_sortedDistinct _
    · exact List.Pairwise.nil

/-- The resources of some roots in order, each with the root that holds it. -/
def held (roots : List Root) : List (Root × String) :=
  roots.flatMap fun r => r.resources.map (r, ·)

theorem held_cons (r : Root) (roots : List Root) :
    held (r :: roots) = r.resources.map (r, ·) ++ held roots := rfl

/-- What some roots hold are the resources of each of them. -/
theorem mem_held_iff {roots : List Root} {p : Root × String} :
    p ∈ held roots ↔ p.1 ∈ roots ∧ p.2 ∈ p.1.resources := by
  unfold held
  rw [List.mem_flatMap]
  constructor
  · rintro ⟨r, hr, hp⟩
    obtain ⟨n, hn, rfl⟩ := List.mem_map.mp hp
    exact ⟨hr, hn⟩
  · rintro ⟨hr, hn⟩
    exact ⟨p.1, hr, List.mem_map.mpr ⟨p.2, hn, rfl⟩⟩

/-- A resource holds a class if it can be read and its bytes declare one. -/
theorem decl_eq_ok_iff {v : ClassDecl} :
    r.decl d n = .ok v ↔ ∃ bytes, r.read d n = .ok (.ok bytes) ∧ ClassDecl.ofBytes bytes = .ok v := by
  unfold decl
  rw [bind_eq_ok_iff]
  constructor
  · rintro ⟨content, hread, hparse⟩
    cases content with
    | error e => cases hparse
    | ok bytes => exact ⟨bytes, hread, mapError_eq_ok_iff.mp hparse⟩
  · rintro ⟨bytes, hread, hparse⟩
    exact ⟨.ok bytes, hread, mapError_eq_ok_iff.mpr hparse⟩

/-- Of the roots that hold a resource, the first one of the most distant loader. -/
def Prevails (roots : List Root) (n : String) (r : Root) : Prop :=
  ∃ before after, roots = before ++ r :: after ∧ n ∈ r.resources ∧
    (∀ q ∈ before, n ∈ q.resources → q.chain ≠ r.chain) ∧
    ∀ q ∈ roots, n ∈ q.resources → r.chain ∈ q.chain.chains

end Root

namespace ClassIndex

variable {F : Loaders} {d₀ d : Disk} {c : Chain} {f : Filter} {r : Root} {e : ScanError}

/-! ### Failures -/

/-- To read each resource of a root is to read the declaration in each. -/
theorem readEach_parse (d : Disk) (r : Root) :
    r.readEach d parse = r.resources.mapM fun n => (r.decl d n).map (n, ·) := by
  unfold Root.readEach
  congr 1
  funext n
  unfold Root.decl
  cases r.read d n <;> rfl

/-- To read the resources of a root fails as it does at the first of them that cannot be read. -/
theorem readEach_eq_error_iff :
    r.readEach d parse = .error e ↔
      FirstFailure (fun p : Root × String => p.1.decl d p.2) (r.resources.map (r, ·)) e := by
  rw [readEach_parse, mapM_eq_error_iff]
  generalize r.resources = names
  induction names with
  | nil => simp [not_firstFailure_nil]
  | cons n names ih =>
      rw [List.map_cons, firstFailure_cons_iff, firstFailure_cons_iff, ih]
      cases r.decl d n <;> simp [Except.map]

/-- And it succeeds if all of them can be read. -/
theorem exists_readEach_iff :
    (∃ entries, r.readEach d parse = .ok entries) ↔
      ∀ p ∈ r.resources.map (r, ·), ∃ v, p.1.decl d p.2 = .ok v := by
  rw [List.forall_mem_map]
  constructor
  · rintro ⟨entries, hentries⟩ n hn
    rw [readEach_parse] at hentries
    obtain ⟨_, -, hn⟩ := exists_mem_of_mapM hentries hn
    obtain ⟨v, hv, -⟩ := map_eq_ok_iff.mp hn
    exact ⟨v, hv⟩
  · intro hall
    cases hread : r.readEach d parse with
    | ok entries => exact ⟨entries, rfl⟩
    | error e =>
        obtain ⟨before, p, after, hsplit, -, hfail⟩ := readEach_eq_error_iff.mp hread
        have hp : p ∈ r.resources.map (r, ·) := by rw [hsplit]; simp
        obtain ⟨n, hn, rfl⟩ := List.mem_map.mp hp
        obtain ⟨v, hv⟩ := hall n hn
        cases hv.symm.trans hfail

/-- **Reading the roots fails** as the first of their resources does that holds no class. -/
theorem readRoots_eq_error_iff {roots : List Root} {found : List (String × Scoped)} :
    readRoots d roots found = .error e ↔
      FirstFailure (fun p : Root × String => p.1.decl d p.2) (Root.held roots) e := by
  induction roots generalizing found with
  | nil => simp [readRoots, Root.held, not_firstFailure_nil]
  | cons r roots ih =>
      rw [Root.held_cons, firstFailure_append_iff, ← readEach_eq_error_iff, ← exists_readEach_iff]
      show r.readEach d parse >>= _ = _ ↔ _
      rw [bind_eq_error_iff]
      simp only [ih, exists_and_right]

/-- **An index fails to be made** as reading does at the first resource, root by root, that cannot
be read. -/
theorem ofResources_eq_error_iff {resources : ResourceIndex} :
    ofResources d resources = .error e ↔
      FirstFailure (fun p : Root × String => p.1.decl d p.2) (Root.held resources.roots) e := by
  unfold ofResources
  rw [bind_eq_error_iff, readRoots_eq_error_iff]
  simp [pure, Except.pure]

/-- An index is made if every resource holds a class. -/
theorem exists_ofResources_iff {resources : ResourceIndex} :
    (∃ i, ofResources d resources = .ok i) ↔
      ∀ p ∈ Root.held resources.roots, ∃ v, p.1.decl d p.2 = .ok v := by
  constructor
  · rintro ⟨i, hi⟩
    refine (forall_ok_or_firstFailure _ _).resolve_right ?_
    rintro ⟨e, hfail⟩
    rw [ofResources_eq_error_iff.mpr hfail] at hi
    cases hi
  · intro hall
    cases hof : ofResources d resources with
    | ok i => exact ⟨i, rfl⟩
    | error e =>
        obtain ⟨before, p, after, hsplit, -, hfail⟩ := ofResources_eq_error_iff.mp hof
        obtain ⟨v, hv⟩ := hall p (by rw [hsplit]; simp)
        cases hv.symm.trans hfail

/-! ### Keys -/

/-- The declarations of an index are in the order of their resources. -/
theorem pairwise_decls {resources : ResourceIndex} {i : ClassIndex}
    (h : ofResources d resources = .ok i) : (i.decls.map (·.1)).Pairwise (· ≤ ·) := by
  obtain ⟨found, -, h⟩ := bind_eq_ok_iff.mp h
  rw [pure_eq_ok_iff.mp h, List.map_map, List.pairwise_map]
  exact Text.pairwise_mergeSort (·.1) found

/-- The names of all resources are those that some root holds. -/
theorem mem_all_iff {resources : ResourceIndex} {n : String} :
    n ∈ resources.all ↔ ∃ r ∈ resources.roots, n ∈ r.resources := by
  simp [ResourceIndex.all, ResourceIndex.find]

/-- **The keys of an index** are the resources of its roots. -/
theorem decls_eq_all (hc : c ∈ F.made) {resources : ResourceIndex}
    (hbuild : ResourceIndex.build d₀ c f = .ok resources) {i : ClassIndex}
    (h : ofResources d resources = .ok i) : i.decls.map (·.1) = resources.all := by
  have hmade : i.Made F d := ⟨d₀, c, f, resources, hc, hbuild, h⟩
  have hall := Text.pairwise_sortedDistinct
    ((resources.roots.flatMap (·.resources)).filter fun _ => true)
  have hperm : (i.decls.map (·.1)).Perm resources.all := by
    refine (List.perm_ext_iff_of_nodup hmade.table_spec.1 (hall.imp ne_of_lt)).mpr fun n => ?_
    show _ ↔ n ∈ resources.all
    rw [mem_all_iff, ← (ofResources_spec h).1]
    constructor
    · intro hn
      obtain ⟨entry, hentry, rfl⟩ := List.mem_map.mp hn
      obtain ⟨r, hr⟩ := hmade.exists_holds hentry
      exact ⟨r, hr.mem_roots, hr.mem_resources⟩
    · rintro ⟨r, hr, hn⟩
      obtain ⟨v, hv⟩ := hmade.exists_decl? hr hn
      exact List.mem_map.mpr ⟨(n, v), hmade.mem_decls_iff.mpr hv, rfl⟩
  exact hperm.eq_of_pairwise' (pairwise_decls h) (hall.imp le_of_lt)

/-- What an index has for a resource is in the root that prevails. -/
theorem Made.exists_prevails {i : ClassIndex} (h : i.Made F d) {n : String} {v : ClassDecl}
    (hv : i.decl? n = some v) : ∃ r, Root.Prevails i.resources.roots n r ∧ r.decl d n = .ok v := by
  obtain ⟨before, r, after, hsplit, hn, hdecl, hbefore, hafter⟩ := h.decl?_spec hv
  refine ⟨r, ⟨before, after, hsplit, hn, fun q hq hname => (hbefore q hq hname).1,
    fun q hq hname => ?_⟩, hdecl⟩
  rw [hsplit, List.mem_append, List.mem_cons] at hq
  obtain hq | rfl | hq := hq
  · exact (hbefore q hq hname).2
  · exact Chain.self_mem_chains _
  · rw [hafter q hq hname]
    exact Chain.self_mem_chains _

/-! ### All together -/

/-- **What making an index comes to.** The roots of a loader and of those above it were found in
this order, and the resources of each are ascending. An index is made of them if and only if
every resource of every root can be read and declares a class, and otherwise the first one that
does not, in this order, is the failure. The keys of the index are the resources of all roots,
and for each of them it has the class that the bytes in the prevailing root declare. -/
theorem ofResources_outcome (hc : c ∈ F.made) {resources : ResourceIndex}
    (hbuild : ResourceIndex.build d₀ c f = .ok resources) (d : Disk) :
    (∃ groups, List.Forall₂ (fun p rs => Root.discoverOwn d₀ p f = .ok rs) c.chains groups ∧
      resources.roots = groups.flatten) ∧
    (∀ r ∈ resources.roots, r.resources.Pairwise (· < ·)) ∧
    ((∃ i, ofResources d resources = .ok i) ↔
      ∀ r ∈ resources.roots, ∀ n ∈ r.resources, ∃ bytes v,
        r.read d n = .ok (.ok bytes) ∧ ClassDecl.ofBytes bytes = .ok v) ∧
    (∀ e, ofResources d resources = .error e ↔
      FirstFailure (fun p : Root × String => p.1.decl d p.2) (Root.held resources.roots) e) ∧
    ∀ i, ofResources d resources = .ok i →
      i.resources = resources ∧ i.decls.map (·.1) = resources.all ∧
      ∀ n v, (n, v) ∈ i.decls → ∃ r bytes, Root.Prevails resources.roots n r ∧
        r.read d n = .ok (.ok bytes) ∧ ClassDecl.ofBytes bytes = .ok v := by
  have hdiscover : Root.discover d₀ c f = .ok resources.roots := by
    obtain ⟨roots, hroots, h⟩ := bind_eq_ok_iff.mp hbuild
    rw [pure_eq_ok_iff.mp h]
    exact hroots
  refine ⟨Root.discover_eq_ok_iff.mp hdiscover, fun r hr => ?_, ?_,
    fun e => ofResources_eq_error_iff, fun i hi => ⟨(ofResources_spec hi).1,
      decls_eq_all hc hbuild hi, fun n v hmem => ?_⟩⟩
  · obtain ⟨before, after, hsplit⟩ := List.append_of_mem hr
    obtain ⟨_, path, _, -, hentry, -⟩ := Root.entries_of_discover (hsplit ▸ hdiscover)
    exact Root.pairwise_resources hentry
  · rw [exists_ofResources_iff]
    constructor
    · intro hall r hr n hn
      obtain ⟨v, hv⟩ := hall (r, n) (Root.mem_held_iff.mpr ⟨hr, hn⟩)
      obtain ⟨bytes, hread, hparse⟩ := Root.decl_eq_ok_iff.mp hv
      exact ⟨bytes, v, hread, hparse⟩
    · intro hall p hp
      obtain ⟨hr, hn⟩ := Root.mem_held_iff.mp hp
      obtain ⟨bytes, v, hread, hparse⟩ := hall p.1 hr p.2 hn
      exact ⟨v, Root.decl_eq_ok_iff.mpr ⟨bytes, hread, hparse⟩⟩
  · have hmade : i.Made F d := ⟨d₀, c, f, resources, hc, hbuild, hi⟩
    obtain ⟨r, hr, hdecl⟩ := hmade.exists_prevails (hmade.mem_decls_iff.mp hmem)
    rw [(ofResources_spec hi).1] at hr
    obtain ⟨bytes, hread, hparse⟩ := Root.decl_eq_ok_iff.mp hdecl
    exact ⟨r, bytes, hr, hread, hparse⟩

/-- The index of a shadowed class: its one key has the class of the loader further up. -/
theorem ofResources_outcome_shadowed :
    shadowLoader.1 ∈ shadowLoader.2.made ∧
      ∃ f, ResourceIndex.build shadowDisk shadowLoader.1 f = .ok shadowIndex.resources ∧
        shadowIndex.resources.all = ["A.class"] ∧
        ∃ r bytes, Root.Prevails shadowIndex.resources.roots "A.class" r ∧ r.scope = ⟨1⟩ ∧
          r.read shadowDisk "A.class" = .ok (.ok bytes) ∧
          ClassDecl.ofBytes bytes = .ok upperDecl := by
  obtain ⟨resources, hresources, hof⟩ := bind_eq_ok_iff.mp build_shadow
  obtain ⟨f, -, hbuild⟩ := bind_eq_ok_iff.mp hresources
  obtain ⟨-, -, -, -, houtcome⟩ := ofResources_outcome shadowLoader_made hbuild shadowDisk
  obtain ⟨rfl, hkeys, hdecls⟩ := houtcome _ hof
  obtain ⟨r, bytes, hr, hread, hparse⟩ := hdecls "A.class" upperDecl List.mem_cons_self
  refine ⟨shadowLoader_made, f, hbuild, hkeys.symm, r, bytes, hr, ?_, hread, hparse⟩
  -- the root further up is above the loader of every root
  obtain ⟨before, after, hsplit, -, -, habove⟩ := hr
  have hchain := habove ⟨shadowParent.1, "/p", .directory, ["A.class"]⟩
    (List.mem_cons_of_mem _ List.mem_cons_self) List.mem_cons_self
  rw [Root.scope, List.mem_singleton.mp hchain]
  rfl

end ClassIndex

end Classpath
