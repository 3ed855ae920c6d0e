import Classpath.Proofs.Agreement
import Classpath.Proofs.Subtypes
import Classpath.Proofs.Supertypes

/-!
# Implementers and Supertypes

The search for the implementers of an interface goes down: from the declarations that list the
interface to those that name one of the classes found as their superclass. Reflection goes up:
along the superclasses, and from these through the interfaces. In a closed index both can be
told from the same two relations between names, and so from each other: the implementers of an
interface are the classes that list it or inherit from one that does, while its name is among
the supertypes of the implementers of every interface that leads to it as well.

## Main results

* `ClassIndex.mem_implementers_iff`: the implementers, by names.
* `ClassIndex.implementers_iff_supertypes`: implementers and supertypes.
-/

namespace Classpath

open Relation (ReflTransGen)

variable {d : Disk} {F : Loaders} {l : Linkage}

namespace ClassIndex

variable {i : ClassIndex} {t : TypeRef} {cls : DefinedClass} {name : String}

/-- Interfaces name as their superclass what is at the root of the hierarchy: a class without
a superclass that lists no interfaces. -/
def RootedInterfaces (i : ClassIndex) : Prop :=
  ∀ e ∈ i.decls, e.2.isInterface = true → ∀ e' ∈ i.decls, e.2.superName = some e'.2.name →
    e'.2.superName = none ∧ e'.2.interfaces = []

/-! ### Downwards and upwards -/

/-- A class that inherits from another one names it as its superclass. -/
theorem extends_of_inherits {sub super : String} (h : i.Inherits sub super) :
    i.Extends super sub := by
  obtain ⟨e, he, hname, -, hsuper⟩ := h
  exact ⟨e, he, hsuper, hname⟩

/-- Downwards from a name to one that inherits from it. -/
theorem extends_of_reflTransGen {sub super : String} (h : ReflTransGen i.Inherits sub super) :
    ReflTransGen i.Extends super sub := by
  induction h with
  | refl => exact ReflTransGen.refl
  | tail _ hinherits ih => exact ReflTransGen.head (extends_of_inherits hinherits) ih

/-- Below a class that lists interfaces, every edge downwards is one of inheritance: an
interface below it would name as its superclass a class that has a superclass or lists
interfaces itself. -/
theorem RootedInterfaces.inherits (h : i.RootedInterfaces) {m n : String}
    (hlists : i.ListsInterface m name) (hreach : ReflTransGen i.Extends m n) :
    ReflTransGen i.Inherits n m := by
  induction hreach with
  | refl => exact ReflTransGen.refl
  | tail hreach hextends ih =>
      rename_i b c
      have habove : ∃ e ∈ i.decls, e.2.name = b ∧ (e.2.superName ≠ none ∨ e.2.interfaces ≠ []) := by
        cases hreach with
        | refl =>
            obtain ⟨e, he, hname, hmem⟩ := hlists
            exact ⟨e, he, hname, Or.inr (List.ne_nil_of_mem hmem)⟩
        | tail _ hextends =>
            obtain ⟨e, he, hsuper, hname⟩ := hextends
            exact ⟨e, he, hname, Or.inl (by simp [hsuper])⟩
      obtain ⟨e', he', rfl, habove⟩ := habove
      obtain ⟨e, he, hsuper, rfl⟩ := hextends
      refine ReflTransGen.head ⟨e, he, rfl, ?_, hsuper⟩ ih
      rw [← Bool.not_eq_true]
      intro hinterface
      obtain ⟨hnone, hempty⟩ := h e he hinterface e' he' hsuper
      exact habove.elim (absurd hnone) (absurd hempty)

/-! ### Implementers by names -/

/-- In a closed index every query for types resolves the names that it asks for. -/
theorem Closed.resolves_all (h : i.Closed d) (hi : i.Made F d) (hl : l.Faithful d F)
    (holds : ClassDecl → Bool) : i.Resolves d l holds := by
  intro r n decl hr _
  obtain ⟨t, cls, hclass, -⟩ := h.resolves r n decl hr
  rw [← hl.class?_eq (hi.root_mem hr.mem_roots)] at hclass
  exact ⟨(t, cls), hclass⟩

/-- So every search for subtypes succeeds. -/
theorem Closed.searchable (h : i.Closed d) (hi : i.Made F d) (hl : l.Faithful d F)
    (name : String) : i.Searchable d l name :=
  ⟨h.resolves_all hi hl _, fun _ _ => h.resolves_all hi hl _⟩

/-- A query for types finds a class of the index if its declaration satisfies the condition. -/
theorem Closed.denotes_iff (h : i.Closed d) (hi : i.Made F d) (hl : l.Faithful d F)
    (ht : i.Has d t cls) {holds : ClassDecl → Bool} :
    i.Denotes d l holds t ↔ holds cls.decl = true := by
  constructor
  · rintro ⟨r, n, decl, hr, hdecl, cls', hclass⟩
    have hname := Linkage.name_of_class? hclass
    rwa [← h.decl_eq hi (hi.mem_decls_iff.mpr hr.decl?_eq) ht hname.symm]
  · intro hdecl
    obtain ⟨⟨n, _⟩, he, rfl⟩ := ht.1
    obtain ⟨r, hr⟩ := hi.exists_holds he
    obtain ⟨t', cls', hclass, -⟩ := h.resolves r n _ hr
    obtain ⟨rfl, rfl⟩ := ht.eq_of_holds hi hr hclass
    rw [← hl.class?_eq (hi.root_mem hr.mem_roots)] at hclass
    exact ⟨r, n, _, hr, hdecl, _, hclass⟩

/-- The direct implementers of an interface are the classes that list it. -/
theorem Closed.denotes_directlyImplements_iff (h : i.Closed d) (hi : i.Made F d)
    (hl : l.Faithful d F) (ht : i.Has d t cls) :
    i.Denotes d l (·.directlyImplements name) t ↔ i.ListsInterface t.name name := by
  rw [h.denotes_iff hi hl ht, h.listsInterface_iff hi ht]
  exact List.contains_iff_mem

/-- **In a closed index the search for implementers succeeds.** -/
theorem Closed.runs_implementers (h : i.Closed d) (hi : i.Made F d) (hl : l.Faithful d F)
    {order : Order} (horder : ∀ ts t, t ∈ order ts ↔ t ∈ ts) (name : String) :
    ∃ R l', Runs (i.implementers d order name) l R l' :=
  (runs_implementers_iff hi horder).mpr
    ⟨h.resolves_all hi hl _, fun s _ => h.searchable hi hl s.name⟩

/-- **The implementers** are the classes that list the interface or inherit from one that
does. -/
theorem Closed.mem_implementers_iff (h : i.Closed d) (hi : i.Made F d) (hl : l.Faithful d F)
    (hrooted : i.RootedInterfaces) {order : Order} (horder : ∀ ts t, t ∈ order ts ↔ t ∈ ts)
    (ht : i.Has d t cls) :
    t ∈ (i.implementers d order name).found l ↔
      ∃ m, ReflTransGen i.Inherits t.name m ∧ i.ListsInterface m name := by
  obtain ⟨R, l', hrun⟩ := h.runs_implementers hi hl horder name
  obtain ⟨-, -, -, -, hmem⟩ :=
    (adds_implementers hi horder name).of_runs (Linkage.Grows.refl d F l) hrun
  rw [Query.found_eq hrun, Set.mem_ofPred_eq, hmem]
  constructor
  · rintro (hdirect | ⟨s, hs, hbelow⟩)
    · exact ⟨t.name, ReflTransGen.refl, (h.denotes_directlyImplements_iff hi hl ht).mp hdirect⟩
    · obtain ⟨r, n, decl, hr, hdecl, cls', hclass⟩ := hs
      have hlists : i.ListsInterface s.name name :=
        ⟨(n, decl), hi.mem_decls_iff.mpr hr.decl?_eq, (Linkage.name_of_class? hclass).symm,
          List.contains_iff_mem.mp hdecl⟩
      exact ⟨s.name, hrooted.inherits hlists (hbelow.transGen hi).to_reflTransGen, hlists⟩
  · rintro ⟨m, hinherits, hlists⟩
    have hreach := extends_of_reflTransGen hinherits
    obtain heq | hreach := Relation.reflTransGen_iff_eq_or_transGen.mp hreach
    · exact Or.inl ((h.denotes_directlyImplements_iff hi hl ht).mpr (heq ▸ hlists))
    · obtain ⟨e, he, hname, hmem⟩ := hlists
      obtain ⟨s, cls', hs, -, hsname⟩ := h.exists_has hi he
      have hsname : s.name = m := hsname.trans hname
      refine Or.inr ⟨s, ?_, ?_⟩
      · exact (h.denotes_directlyImplements_iff hi hl hs).mpr ⟨e, he, hname.trans hsname.symm, hmem⟩
      · exact (below_iff hi (h.searchable hi hl s.name)).mpr
          ⟨hsname.symm ▸ hreach, (h.denotes_iff hi hl ht).mpr rfl⟩

/-! ### Implementers and supertypes -/

/-- **Implementers and supertypes.** In a closed index the search for implementers succeeds,
every class of the index can be resolved, and its supertypes can be computed. It is among the
implementers of an interface if and only if one of its superclasses, itself included, lists
the interface. And an interface that no class names as its superclass is among the supertypes
of another class if and only if the class is among the implementers of it, or of an interface
that leads to it through lists of interfaces. -/
theorem implementers_iff_supertypes (hi : i.Made F d) (hclosed : i.Closed d)
    (hrooted : i.RootedInterfaces) {l : Linkage} (hl : l.Reached d F) {order : Order}
    (horder : ∀ ts t, t ∈ order ts ↔ t ∈ ts) (name : String) :
    (∀ other, ∃ R l', Runs (i.implementers d order other) l R l') ∧
    ∀ e ∈ i.decls, ∃ t l₁ all l₂,
      Runs (resolve d e.2.name i.resources.chain) l t l₁ ∧ Runs (supertypes d t) l₁ all l₂ ∧
      (t ∈ (i.implementers d order name).found l ↔
        ∃ s ∈ all, s.isInterface = false ∧ name ∈ s.cls.decl.interfaces) ∧
      (e.2.name ≠ name → (∀ e' ∈ i.decls, e'.2.isInterface = false → e'.2.superName ≠ some name) →
        ((∃ s ∈ all, s.type.name = name) ↔
          ∃ other, ReflTransGen i.ListsInterface other name ∧
            t ∈ (i.implementers d order other).found l)) := by
  have hl₀ := hl.faithful
  refine ⟨fun other => hclosed.runs_implementers hi hl₀ horder other, fun e he => ?_⟩
  obtain ⟨t, cls, ht, -, hname⟩ := hclosed.exists_has hi he
  have hclass := ht.2
  rw [← hl₀.class?_eq hi.chain_mem] at hclass
  have hgrows := Linkage.grows_define hi.chain_mem hclass
  obtain ⟨all, l₂, hrun, -, hall⟩ := hclosed.runs_supertypes hi (hl₀.grows hgrows) ht
    (Linkage.find?_define_of_class? hclass)
  rw [hname] at hclass
  refine ⟨t, _, all, l₂, runs_resolve_iff.mpr ⟨cls, hclass, rfl⟩, hrun, ?_, fun hne hnot => ?_⟩
  · rw [hclosed.mem_implementers_iff hi hl₀ hrooted horder ht]
    constructor
    · rintro ⟨m, hinherits, hlists⟩
      obtain ⟨s, hs, hclass, rfl⟩ := (hall.classes m).mpr hinherits
      exact ⟨s, hs, hclass, (hclosed.listsInterface_iff hi (hall.has s hs)).mp hlists⟩
    · rintro ⟨s, hs, hclass, hmem⟩
      exact ⟨s.type.name, (hall.classes _).mp ⟨s, hs, hclass, rfl⟩,
        (hclosed.listsInterface_iff hi (hall.has s hs)).mpr hmem⟩
  · rw [hall.names]
    constructor
    · rintro ⟨m, hinherits, hreach⟩
      obtain rfl | ⟨other, hlists, hreach⟩ := ReflTransGen.cases_head hreach
      · -- the interface itself as a superclass, which no class names it as
        obtain heq | ⟨b, -, e', he', -, hclass, hsuper⟩ := ReflTransGen.cases_tail hinherits
        · exact absurd (hname.symm.trans heq.symm) hne
        · exact absurd hsuper (hnot e' he' hclass)
      · exact ⟨other, hreach,
          (hclosed.mem_implementers_iff hi hl₀ hrooted horder ht).mpr ⟨m, hinherits, hlists⟩⟩
    · rintro ⟨other, hreach, hmem⟩
      obtain ⟨m, hinherits, hlists⟩ :=
        (hclosed.mem_implementers_iff hi hl₀ hrooted horder ht).mp hmem
      exact ⟨m, hinherits, ReflTransGen.head hlists hreach⟩

/-! ### Hierarchies with one loader for each class -/

/-- Whether what a class refers to is found from where it is defined, and in the index. -/
def refersBack (i : ClassIndex) (d : Disk) (cls : DefinedClass) : Bool :=
  (cls.decl.superName.toList ++ cls.decl.interfaces).all fun name =>
    match ({} : Linkage).class? d name cls.chain with
    | .ok (some (_, cls')) => i.decls.any fun e => e.2 = cls'.decl
    | _ => false

/-- Whether an index is closed. -/
def isClosed (i : ClassIndex) (d : Disk) : Bool :=
  i.resources.roots.all fun r => r.resources.all fun n =>
    match i.decl? n with
    | none => true
    | some decl =>
      match ({} : Linkage).class? d decl.name r.chain with
      | .ok (some (_, cls)) => cls.decl = decl && i.refersBack d cls
      | _ => false

/-- What the check for a closed index found out about a declaration: it is resolved to itself, and
what it refers to is in the index. -/
theorem isClosed_spec {r : Root} {n : String} {decl : ClassDecl} (h : i.isClosed d = true)
    (hr : i.Holds r n decl) :
    ∃ t cls, ({} : Linkage).class? d decl.name r.chain = .ok (some (t, cls)) ∧
      cls.decl = decl ∧ i.refersBack d cls = true := by
  have hcheck := List.all_eq_true.mp (List.all_eq_true.mp h r hr.mem_roots) n hr.mem_resources
  rw [hr.decl?_eq] at hcheck
  dsimp only at hcheck
  split at hcheck
  · rename_i t cls hclass
    rw [Bool.and_eq_true, decide_eq_true_eq] at hcheck
    exact ⟨t, cls, hclass, hcheck⟩
  · cases hcheck

/-- An index that passes the check is closed. -/
theorem closed_of_isClosed (hi : i.Made F d) (h : i.isClosed d = true) : i.Closed d where
  resolves r n decl hr := by
    obtain ⟨t, cls, hclass, hdecl, -⟩ := isClosed_spec h hr
    exact ⟨t, cls, hclass, hdecl⟩
  refers t cls ht name hrefers := by
    obtain ⟨⟨n, _⟩, he, rfl⟩ := ht.1
    obtain ⟨r, hr⟩ := hi.exists_holds he
    obtain ⟨t', cls', hclass, -, hback⟩ := isClosed_spec h hr
    obtain ⟨rfl, rfl⟩ := ht.eq_of_holds hi hr hclass
    have hmem : name ∈ cls'.decl.superName.toList ++ cls'.decl.interfaces := by
      simpa using hrefers
    have hname := List.all_eq_true.mp hback name hmem
    split at hname
    · rename_i t cls hclass'
      obtain ⟨e, he', heq⟩ := List.any_eq_true.mp hname
      exact ⟨t, cls, hclass', e, he', by simpa using heq⟩
    · cases hname

instance (i : ClassIndex) : Decidable i.RootedInterfaces := by
  unfold RootedInterfaces
  infer_instance

/-- Loaders one above the other, each with a directory for one class, the lowest first. -/
def tower (top : ClassDecl) : List ClassDecl → Chain × Loaders
  | [] => Loaders.empty.add top.name [Url.ofPath ("/" ++ top.name)] none
  | decl :: above =>
    (tower top above).2.add decl.name [Url.ofPath ("/" ++ decl.name)]
      (some (tower top above).1.scope)

/-- The disk with these directories. -/
def towerDisk (top : ClassDecl) (below : List ClassDecl) : Disk where
  entries := (below ++ [top]).zipIdx.flatMap fun (decl, k) =>
    [([decl.name], .directory), ([decl.name, decl.name ++ ".class"], .file k)]
  contents := (below ++ [top]).map ClassDecl.toBytes

/-- The root of one class. -/
def towerRoot (p : Chain) (decl : ClassDecl) : Root :=
  ⟨p, "/" ++ decl.name, .directory, [decl.name ++ ".class"]⟩

/-- The index of all of them. -/
def towerIndex (top : ClassDecl) (below : List ClassDecl) : ClassIndex :=
  ⟨⟨(tower top below).1, ⟨[], []⟩,
      List.zipWith towerRoot (tower top below).1.chains (below ++ [top])⟩,
    (below ++ [top]).map fun decl => (decl.name ++ ".class", decl)⟩

/-- The lowest of the loaders was made, and with it all those above. -/
theorem tower_made (top : ClassDecl) (below : List ClassDecl) :
    (tower top below).1 ∈ (tower top below).2.made := by
  cases below <;> simp [tower, Loaders.add]

/-- A loader has a directory for a class. -/
def HasDirectory (d : Disk) (p : Chain) (decl : ClassDecl) : Prop :=
  p.loader.localPaths = ["/" ++ decl.name] ∧ d.isDirectory ("/" ++ decl.name) = true ∧
    (d.walk ("/" ++ decl.name)).toOption =
      some ["/" ++ decl.name ++ "/" ++ decl.name ++ ".class"] ∧
    Root.resourceName? ("/" ++ decl.name) ("/" ++ decl.name ++ "/" ++ decl.name ++ ".class") =
      some (decl.name ++ ".class")

instance (p : Chain) (decl : ClassDecl) : Decidable (HasDirectory d p decl) := by
  unfold HasDirectory
  infer_instance

/-- Discovery finds a root for each of the loaders, with the one class of its directory. -/
theorem discover_of_directories {c : Chain} {decls : List ClassDecl}
    (h : List.Forall₂ (HasDirectory d) c.chains decls) :
    Root.discover d c ⟨[], []⟩ = .ok (List.zipWith towerRoot c.chains decls) := by
  have hentries : List.Forall₂ (OneEntry d ⟨[], []⟩) c.chains
      ((List.zipWith towerRoot c.chains decls).map some) := by
    generalize c.chains = chains at h
    induction h with
    | nil => exact .nil
    | cons hfirst _ ih =>
        obtain ⟨hpaths, hdirectory, hwalk, hname⟩ := hfirst
        exact .cons ⟨_, hpaths, ofEntry?_of_file hdirectory (toOption_eq_some_iff.mp hwalk) hname
          rfl rfl⟩ ih
  rw [discover_of_entries hentries]
  simp [List.reduceOption]

/-- The index of all the classes is the one that is made from the disk. -/
theorem towerIndex_made {top : ClassDecl} {below : List ClassDecl} {found : List (String × Scoped)}
    (hfiles : List.Forall₂ (HasDirectory d) (tower top below).1.chains (below ++ [top]))
    (hread : (readRoots d (towerIndex top below).resources.roots []).toOption = some found)
    (hsorted : found.Pairwise fun a b => decide (a.1 ≤ b.1) = true)
    (hdecls : found.map (fun e => (e.1, e.2.2)) = (towerIndex top below).decls) :
    (towerIndex top below).Made (tower top below).2 d := by
  refine ⟨d, (tower top below).1, ⟨[], []⟩, (towerIndex top below).resources, tower_made top below,
    ?_, ?_⟩
  · unfold ResourceIndex.build
    rw [discover_of_directories hfiles]
    rfl
  · unfold ofResources
    rw [toOption_eq_some_iff.mp hread]
    show Except.ok (⟨(towerIndex top below).resources, _⟩ : ClassIndex) = _
    rw [List.mergeSort_of_pairwise hsorted, hdecls]

/-- If resolving a name and collecting supertypes yields certain names, there is a run of both that
does. -/
theorem exists_supertypes_of_names {n : String} {c : Chain} {names : List String}
    (h : (outcome (do supertypes d (← resolve d n c)) {}).1.toOption.map
      (·.map (·.type.name)) = some names) :
    ∃ t l₁ all l₂, Runs (resolve d n c) {} t l₁ ∧ t.name = n ∧
      Runs (supertypes d t) l₁ all l₂ ∧ all.map (·.type.name) = names := by
  obtain ⟨all, hall, hnames⟩ := Option.map_eq_some_iff.mp h
  obtain ⟨l₂, hrun⟩ := exists_runs_of_toOption hall
  obtain ⟨t, l₁, hresolve, hsupertypes⟩ := runs_bind.mp hrun
  obtain ⟨cls, hclass, -⟩ := runs_resolve_iff.mp hresolve
  exact ⟨t, l₁, all, l₂, hresolve, Linkage.name_of_class? hclass, hsupertypes, hnames⟩

/-- The root of a hierarchy. -/
def thing : ClassDecl := ⟨"Thing", none, [], false, [], [], []⟩

/-- A class whose superclass is in the hierarchy. -/
def disc : ClassDecl := ⟨"Disc", some "Ellipse", [], false, [], [], []⟩

/-- A class that implements one interface. -/
def ellipse : ClassDecl := ⟨"Ellipse", some "Thing", ["Figure"], false, [], [], []⟩

/-- An interface that extends another one. -/
def figure : ClassDecl := ⟨"Figure", some "Thing", ["Shape"], true, [], [], []⟩

/-- The interface that is extended. -/
def shape : ClassDecl := ⟨"Shape", some "Thing", [], true, [], [], []⟩

/-- A disc is an ellipse, ellipses are figures, and figures are shapes. -/
def figures : List ClassDecl := [disc, ellipse, figure, shape]

theorem figures_made :
    (towerIndex thing figures).Made (tower thing figures).2 (towerDisk thing figures) := by
  have hread : (readRoots (towerDisk thing figures) (towerIndex thing figures).resources.roots
      []).toOption = some [("Disc.class", (⟨5⟩, disc)), ("Ellipse.class", (⟨4⟩, ellipse)),
        ("Figure.class", (⟨3⟩, figure)), ("Shape.class", (⟨2⟩, shape)),
        ("Thing.class", (⟨1⟩, thing))] := by decide +kernel
  exact towerIndex_made (by decide +kernel) hread (by decide +kernel) rfl

theorem figures_closed : (towerIndex thing figures).Closed (towerDisk thing figures) :=
  closed_of_isClosed figures_made (by decide +kernel)

/-- A disc is a shape, since it is among the implementers of figures. -/
theorem implementers_iff_supertypes_disc :
    ∃ t l₁ all l₂,
      Runs (resolve (towerDisk thing figures) "Disc" (tower thing figures).1) {} t l₁ ∧
      Runs (supertypes (towerDisk thing figures) t) l₁ all l₂ ∧
      t ∈ ((towerIndex thing figures).implementers (towerDisk thing figures) id "Figure").found {} ∧
      ∃ s ∈ all, s.type.name = "Shape" := by
  obtain ⟨-, hclasses⟩ := implementers_iff_supertypes figures_made figures_closed
    (by decide +kernel) .start (fun _ _ => Iff.rfl) "Shape"
  obtain ⟨t, l₁, all, l₂, hresolve, hsupertypes, -, hnames⟩ :=
    hclasses ("Disc.class", disc) (by decide +kernel)
  have htype : (outcome (resolve (towerDisk thing figures) "Disc" (tower thing figures).1)
      {}).1.toOption = some ⟨"Disc", ⟨5⟩⟩ := by decide +kernel
  have hfound : (outcome ((towerIndex thing figures).implementers (towerDisk thing figures) id
      "Figure") {}).1.toOption = some [⟨"Ellipse", ⟨4⟩⟩, ⟨"Disc", ⟨5⟩⟩] := by decide +kernel
  obtain ⟨_, htype⟩ := exists_runs_of_toOption htype
  obtain ⟨_, hfound⟩ := exists_runs_of_toOption hfound
  obtain ⟨rfl, -⟩ := hresolve.unique htype
  have hmem : (⟨"Disc", ⟨5⟩⟩ : TypeRef) ∈
      ((towerIndex thing figures).implementers (towerDisk thing figures) id "Figure").found {} :=
    ⟨_, _, hfound, by simp⟩
  have hlists : (towerIndex thing figures).ListsInterface "Figure" "Shape" :=
    ⟨("Figure.class", figure), by decide +kernel, rfl, by decide⟩
  exact ⟨_, l₁, all, l₂, hresolve, hsupertypes, hmem, (hnames (by decide) (by decide +kernel)).mpr
    ⟨"Figure", ReflTransGen.single hlists, hmem⟩⟩

/-- An interface whose superclass implements another one, and a class whose superclass is an
interface. -/
def kites : List ClassDecl :=
  [⟨"Bent", some "Kite", [], true, [], [], []⟩,
    ⟨"Kite", some "Thing", ["Shape"], false, [], [], []⟩,
    ⟨"Knot", some "Shape", [], false, [], [], []⟩, shape]

theorem kites_made :
    (towerIndex thing kites).Made (tower thing kites).2 (towerDisk thing kites) := by
  have hread : (readRoots (towerDisk thing kites) (towerIndex thing kites).resources.roots
      []).toOption = some (List.zipWith (fun s decl => (decl.name ++ ".class", (⟨s⟩, decl)))
        [5, 4, 3, 2, 1] (kites ++ [thing])) := by decide +kernel
  exact towerIndex_made (by decide +kernel) hread (by decide +kernel) (by decide +kernel)

/-- **Implementers and supertypes disagree** where one interface extends another: a disc has
the supertype, and is not found. They do as well where the superclass of an interface lists
interfaces, or where a class names an interface as its superclass. -/
theorem implementers_disagree_subinterface :
    ((towerIndex thing figures).Closed (towerDisk thing figures) ∧
      ("Disc.class", disc) ∈ (towerIndex thing figures).decls ∧
      (∃ l', Runs ((towerIndex thing figures).implementers (towerDisk thing figures) id "Shape") {}
        [⟨"Figure", ⟨3⟩⟩] l') ∧
      ∃ t l₁ all l₂,
        Runs (resolve (towerDisk thing figures) "Disc" (tower thing figures).1) {} t l₁ ∧
        t.name = "Disc" ∧
        Runs (supertypes (towerDisk thing figures) t) l₁ all l₂ ∧
        all.map (·.type.name) = ["Disc", "Ellipse", "Thing", "Figure", "Shape"]) ∧
    (towerIndex thing kites).Closed (towerDisk thing kites) ∧
      (∃ l', Runs ((towerIndex thing kites).implementers (towerDisk thing kites) id "Shape") {}
        [⟨"Kite", ⟨4⟩⟩, ⟨"Bent", ⟨5⟩⟩] l') ∧
      (∃ t l₁ all l₂,
        Runs (resolve (towerDisk thing kites) "Bent" (tower thing kites).1) {} t l₁ ∧
        t.name = "Bent" ∧
        Runs (supertypes (towerDisk thing kites) t) l₁ all l₂ ∧
        all.map (·.type.name) = ["Bent"]) ∧
      ∃ t l₁ all l₂,
        Runs (resolve (towerDisk thing kites) "Knot" (tower thing kites).1) {} t l₁ ∧
        t.name = "Knot" ∧
        Runs (supertypes (towerDisk thing kites) t) l₁ all l₂ ∧
        all.map (·.type.name) = ["Knot", "Shape"] := by
  have hfigures : (outcome ((towerIndex thing figures).implementers (towerDisk thing figures) id
      "Shape") {}).1.toOption = some [⟨"Figure", ⟨3⟩⟩] := by decide +kernel
  have hkites : (outcome ((towerIndex thing kites).implementers (towerDisk thing kites) id
      "Shape") {}).1.toOption = some [⟨"Kite", ⟨4⟩⟩, ⟨"Bent", ⟨5⟩⟩] := by decide +kernel
  have hkitesClosed : (towerIndex thing kites).Closed (towerDisk thing kites) :=
    closed_of_isClosed kites_made (by decide +kernel)
  refine ⟨⟨figures_closed, List.mem_cons_self, exists_runs_of_toOption hfigures,
    exists_supertypes_of_names ?_⟩, hkitesClosed, exists_runs_of_toOption hkites,
    exists_supertypes_of_names ?_, exists_supertypes_of_names ?_⟩ <;> decide +kernel

end ClassIndex

end Classpath
