import Mathlib.Data.List.ReduceOption
import Classpath.ClassFile.Written
import Classpath.Proofs.Entries
import Classpath.Proofs.IndexContent
import Classpath.Proofs.Prefixes
import Classpath.Proofs.Reached

/-!
# Index and Resolution Agree

Discovery lists what each entry of each loader holds, and the index keeps one of the
declarations; resolution asks each loader, the most distant first, for the file or the archive
entry of one name. Entry by entry they agree. The rest is the order of entries: the root whose
declaration the index keeps belongs to the first entry that holds the resource, of the most
distant loader that has one.

Archives that find what they do not list are the exception; `Chain.Lists` says that there are
none.

## Main results

* `ClassIndex.class?_of_decl`: what a lookup in the files finds for an indexed class.
* `ClassIndex.resolve_agrees`: resolution yields the class that the index has.
* `ClassIndex.resolve_disagrees_unlisted`: what an archive that lists an entry under another
  name makes of it.
-/

open Classpath.Path (IsName)

namespace Classpath

variable {d : Disk} {F : Loaders} {c : Chain} {f : Filter} {path resource : String}

/-! ### The index -/

/-- The segments of the resource of a class are names, unless one is empty. -/
theorem ClassFile.isName_of_mem_split {n s : String} (h : "" ∉ Text.split '/' (resourceName n))
    (hs : s ∈ Text.split '/' (resourceName n)) : IsName s where
  ne_empty := fun heq => h (heq ▸ hs)
  ne_dot := (not_dots_of_mem_split hs).1
  ne_dots := (not_dots_of_mem_split hs).2
  no_slash := Text.sep_notMem_of_mem_split hs

/-- What discovery and resolution look at alike: files among the entries are named like
archives, archives are not passed over for want of a prefix, and no prefix leads upwards. -/
structure Chain.Regular (d : Disk) (c : Chain) (f : Filter) : Prop where
  archives : ∀ p ∈ c.chains, ∀ path ∈ p.loader.localPaths,
    d.isFile path = true → Root.isArchivePath path = true
  prefixes : f.prefixes = [] ∨
    ∀ p ∈ c.chains, ∀ path ∈ p.loader.localPaths, d.isDirectory path = true
  climbs : ∀ start ∈ f.prefixes, Filter.climbs start = false

/-- No archive of a chain finds a resource that it does not list. -/
def Chain.Lists (d : Disk) (c : Chain) (resource : String) : Prop :=
  ∀ p ∈ c.chains, ∀ path ∈ p.loader.localPaths, d.Lists path resource

/-- Without archives, nothing is found that is not listed. -/
theorem Chain.lists_of_not_isFile
    (h : ∀ p ∈ c.chains, ∀ path ∈ p.loader.localPaths, d.isFile path = false) :
    c.Lists d resource := by
  intro p hp path hpath loc id archive hstat
  have hfile : d.isFile path = true := Disk.isFile_eq_true_iff.mpr ⟨loc, id, hstat⟩
  rw [h p hp path hpath] at hfile
  cases hfile

namespace ClassIndex

/-- The indexes whose roots were found and read on one disk. -/
def Built (d : Disk) (c : Chain) (f : Filter) (i : ClassIndex) : Prop :=
  ∃ resources, ResourceIndex.build d c f = .ok resources ∧ ofResources d resources = .ok i

variable {i : ClassIndex}

/-- An index that was built for a chain is one that is made from the disk. -/
theorem Built.made (h : i.Built d c f) (hc : c ∈ F.made) : i.Made F d := by
  obtain ⟨resources, hbuild, hof⟩ := h
  exact ⟨d, c, f, resources, hc, hbuild, hof⟩

/-- Its roots are those that discovery finds for the chain and the filter. -/
theorem Built.discover (h : i.Built d c f) : Root.discover d c f = .ok i.resources.roots := by
  obtain ⟨resources, hbuild, hof⟩ := h
  obtain ⟨roots, hroots, hresources⟩ := bind_eq_ok_iff.mp hbuild
  rw [pure_eq_ok_iff] at hresources
  rw [(ofResources_spec hof).1, hresources]
  exact hroots

theorem Built.chain_eq (h : i.Built d c f) : i.resources.chain = c := by
  obtain ⟨resources, hbuild, hof⟩ := h
  obtain ⟨roots, -, hresources⟩ := bind_eq_ok_iff.mp hbuild
  rw [pure_eq_ok_iff] at hresources
  rw [(ofResources_spec hof).1, hresources]

/-- An entry whose root does not hold a resource yields nothing for it. -/
theorem entryBytes?_of_root_not_holds (hregular : c.Regular d f) (hlists : c.Lists d resource)
    (hnames : ∀ s ∈ Text.split '/' resource, IsName s) (haccepts : f.accepts resource = true)
    {p : Chain} (hp : p ∈ c.chains) (hpath : path ∈ p.loader.localPaths) {root? : Option Root}
    (hroot? : Root.ofEntry? d p path f = .ok root?) (hholds : ∀ s ∈ root?, resource ∉ s.resources) :
    entryBytes? d path resource = .ok none :=
  entryBytes?_of_not_holds hroot? hholds hnames haccepts hregular.climbs
    (hregular.archives p hp path hpath) (hregular.prefixes.imp_right fun h => h p hp path hpath)
    (hlists p hp path hpath)

/-- A loader of which no root holds the resource of a class has none of this name. -/
theorem Built.own?_eq_none (hi : i.Built d c f) (hregular : c.Regular d f)
    (hlists : c.Lists d resource) (hnames : ∀ s ∈ Text.split '/' resource, IsName s)
    (haccepts : f.accepts resource = true) {n : String} (hname : ClassFile.resourceName n = resource)
    {p : Chain} (hp : p ∈ c.chains)
    (hnone : ∀ s ∈ i.resources.roots, s.chain = p → resource ∉ s.resources) :
    ({} : Linkage).own? d n p = .ok none := by
  rw [Linkage.own?_empty_eq_none_iff, Loader.classBytes?, hname]
  refine firstBytes?_eq_none fun path hpath => ?_
  obtain ⟨root?, hroot?, hmem⟩ := Root.ofEntry?_of_discover hi.discover hp hpath
  refine entryBytes?_of_root_not_holds hregular hlists hnames haccepts hp hpath hroot? fun s hs => ?_
  obtain ⟨hs, hchain⟩ := hmem s hs
  exact hnone s hs hchain

/-- **What a lookup in the files finds for an indexed class**: its declaration, at the most
distant loader that has a root with its resource. -/
theorem class?_of_decl (hc : c ∈ F.made) (hi : i.Built d c f) (hregular : c.Regular d f)
    {decl : ClassDecl} (hdecl : i.decl? resource = some decl)
    (hname : ClassFile.resourceName decl.name = resource)
    (hsegments : "" ∉ Text.split '/' resource) (hlists : c.Lists d resource) :
    ∃ r, i.Holds r resource decl ∧
      (∀ q ∈ i.resources.roots, resource ∈ q.resources → r.chain ∈ q.chain.chains) ∧
      ({} : Linkage).class? d decl.name r.chain =
        .ok (some (⟨decl.name, r.scope⟩, ⟨decl, r.chain⟩)) := by
  have hmade := hi.made hc
  obtain ⟨before, r, after, hroots, hr, hread, hbefore, hafter⟩ := hmade.decl?_spec hdecl
  have habove : ∀ q ∈ i.resources.roots, resource ∈ q.resources → r.chain ∈ q.chain.chains := by
    intro q hq hmem
    rw [hroots, List.mem_append, List.mem_cons] at hq
    obtain hq | rfl | hq := hq
    · exact (hbefore q hq hmem).2
    · exact Chain.self_mem_chains _
    · rw [hafter q hq hmem]
      exact Chain.self_mem_chains _
  have hrroots : r ∈ i.resources.roots := by
    rw [hroots]
    simp
  refine ⟨r, ⟨hrroots, hr, hdecl⟩, habove, ?_⟩
  have hrc : r.chain ∈ c.chains := hi.chain_eq ▸ hmade.roots_spec.2 r hrroots
  have hdiscover := hi.discover
  rw [hroots] at hdiscover
  obtain ⟨front, path, back, hpaths, hpath, hfront⟩ := Root.entries_of_discover hdiscover
  have haccepts := Root.accepts_of_mem hpath hr
  have hnames : ∀ s ∈ Text.split '/' resource, IsName s := by
    subst hname
    exact fun s hs => ClassFile.isName_of_mem_split hsegments hs
  rw [Linkage.class?_eq_some_iff]
  refine ⟨[], r.chain, (r.chain.parent?.map Chain.chains).getD [], Loaders.chains_eq _,
    fun p hp => ?_, ?_, rfl⟩
  · -- no loader further up has a root with the resource
    have hp' : p ∈ r.chain.chains := by
      rw [Loaders.chains_eq]
      exact List.mem_cons_of_mem _ hp
    have hne : p ≠ r.chain := by
      rintro rfl
      have hnodup := r.chain.nodup_chains
      rw [Loaders.chains_eq] at hnodup
      exact (List.nodup_cons.mp hnodup).1 hp
    refine hi.own?_eq_none hregular hlists hnames haccepts hname (Chain.chains_trans hp' hrc)
      fun s hs hchain hres => hne ?_
    exact Chain.chains_antisymm hp' (hchain ▸ habove s hs hres)
  · -- of its own entries, those in front of the root's have none
    obtain ⟨content, hcontent, hparse⟩ := bind_eq_ok_iff.mp hread
    cases content with
    | error e => cases hparse
    | ok bytes =>
        rw [Linkage.own?_empty_eq_some_iff]
        refine ⟨bytes, decl, ?_, mapError_eq_ok_iff.mp hparse, rfl, rfl⟩
        rw [Loader.classBytes?, hname, hpaths]
        refine firstBytes?_eq_some_iff.mpr
          ⟨front, path, back, rfl, fun q hq => ?_, entryBytes?_of_holds hpath hcontent⟩
        obtain ⟨root?, hroot?, hmem⟩ := hfront q hq
        have hqpaths : q ∈ r.chain.loader.localPaths := by
          rw [hpaths]
          exact List.mem_append_left _ hq
        refine entryBytes?_of_root_not_holds hregular hlists hnames haccepts hrc hqpaths hroot?
          fun s hs hres => ?_
        obtain ⟨hs, hchain⟩ := hmem s hs
        exact (hbefore s hs hres).1 hchain

/-- **Index and resolution agree.** Of a class that an index of a loader has under the resource
of its name, resolution through the loader yields the type in the scope of the most distant
loader that has a root with the resource, and the class defined for it is the one that the
index has, whatever was resolved and looked into before. -/
theorem resolve_agrees (hc : c ∈ F.made) {config : Config} (hi : build d c config = .ok i)
    (harchives : ∀ p ∈ c.chains, ∀ path ∈ p.loader.localPaths,
      d.isFile path = true → Root.isArchivePath path = true)
    (hprefixes : config.prefixes = [] ∨
      ∀ p ∈ c.chains, ∀ path ∈ p.loader.localPaths, d.isDirectory path = true)
    {decl : ClassDecl} (hdecl : (resource, decl) ∈ i.decls)
    (hname : ClassFile.resourceName decl.name = resource)
    (hsegments : "" ∉ Text.split '/' resource) (hlists : c.Lists d resource)
    {l : Linkage} (hl : l.Reached d F) :
    ∃ r ∈ i.resources.roots, resource ∈ r.resources ∧
      (∀ q ∈ i.resources.roots, resource ∈ q.resources → r.chain ∈ q.chain.chains) ∧
      ∃ l' cls, Runs (resolve d decl.name c) l ⟨decl.name, r.scope⟩ l' ∧
        l'.find? r.scope decl.name = some cls ∧ cls.decl = decl := by
  obtain ⟨resources, hresources, hof⟩ := bind_eq_ok_iff.mp hi
  obtain ⟨f, hf, hbuild⟩ := bind_eq_ok_iff.mp hresources
  have hbuilt : i.Built d c f := ⟨resources, hbuild, hof⟩
  obtain ⟨hclimbs, hnone⟩ := Config.compileClasses_spec hf
  have hmade := hbuilt.made hc
  obtain ⟨r, hr, habove, hclass⟩ := class?_of_decl hc hbuilt
    ⟨harchives, hprefixes.imp_left hnone, hclimbs⟩ (hmade.mem_decls_iff.mp hdecl) hname
    hsegments hlists
  have hrc : r.chain ∈ c.chains := hbuilt.chain_eq ▸ hmade.roots_spec.2 r hr.mem_roots
  have hfound := Linkage.class?_of_mem_chains hrc hclass
  rw [← hl.faithful.class?_eq hc] at hfound
  exact ⟨r, hr.mem_roots, hr.mem_resources, habove, _, _,
    runs_resolve_iff.mpr ⟨_, hfound, rfl⟩, Linkage.find?_define_of_class? hfound, rfl⟩

/-! ### Class paths with one file for each loader -/

/-- A directory in which a walk finds one file, under a name that is admitted, has a root with that
name alone. -/
theorem ofEntry?_of_file {file : String} (hpath : d.isDirectory path = true)
    (hwalk : d.walk path = .ok [file]) (hname : Root.resourceName? path file = some resource)
    (hprefixes : f.prefixes = []) (haccepts : f.accepts resource = true) :
    Root.ofEntry? d c path f = .ok (some ⟨c, path, .directory, [resource]⟩) := by
  have hnames : Root.directoryNames d path f = .ok [resource] := by
    unfold Root.directoryNames Root.walkStarts
    rw [hprefixes]
    simp [hwalk, hname, haccepts, bind, Except.bind, pure, Except.pure, Text.sortedDistinct,
      Text.dropRepeats]
  obtain ⟨loc, hstat⟩ := Disk.isDirectory_eq_true_iff.mp hpath
  exact Root.ofEntry?_of_directoryNames hstat hnames

/-- A loader has one entry, which comes to the root, if any. -/
def OneEntry (d : Disk) (f : Filter) (p : Chain) (root? : Option Root) : Prop :=
  ∃ path, p.loader.localPaths = [path] ∧ Root.ofEntry? d p path f = .ok root?

/-- If each loader of a chain has one entry, discovery finds the roots of these entries, in the
order of the loaders. -/
theorem discover_of_entries {found : List (Option Root)}
    (h : List.Forall₂ (OneEntry d f) c.chains found) :
    Root.discover d c f = .ok found.reduceOption := by
  rw [Root.discover_eq_ok_iff]
  refine ⟨found.map fun root? => root?.toList, ?_, ?_⟩
  · rw [List.forall₂_map_right_iff]
    refine h.imp fun p root? hp => ?_
    obtain ⟨path, hpaths, hroot⟩ := hp
    exact Root.discoverOwn_of_entry hpaths hroot
  · clear h
    induction found with
    | nil => rfl
    | cons root? found ih =>
        cases root? with
        | none => simpa [List.reduceOption_cons_of_none] using ih
        | some r => simpa [List.reduceOption_cons_of_some] using ih

/-- An index is built from the roots that are found and from the one declaration that is read from
them. -/
theorem build_of_roots {config : Config} {roots : List Root} {decl : ClassDecl} {s : Scope}
    (hf : config.compileClasses = .ok f) (hroots : Root.discover d c f = .ok roots)
    (hread : readRoots d roots [] = .ok [(resource, (s, decl))]) :
    build d c config = .ok ⟨⟨c, f, roots⟩, [(resource, decl)]⟩ := by
  unfold build ResourceIndex.ofClasses ResourceIndex.build ofResources
  simp [hf, hroots, hread, bind, Except.bind, pure, Except.pure]

/-- The class of a loader further up, whose members carry an annotation. -/
def upperDecl : ClassDecl :=
  ⟨"A", none, [], false, ["Upper"], [⟨"f", true, "I", ["Upper"]⟩],
    [⟨"m", true, false, "(I)V", ["Upper"], [["Upper"]]⟩]⟩

/-- A class of the same name that it shadows. -/
def lowerDecl : ClassDecl :=
  ⟨"A", none, [], false, ["Lower"], [], [⟨"m", true, false, "()V", ["Upper"], []⟩]⟩

/-- A disk with both class files. -/
def shadowDisk : Disk where
  entries := [(["p"], .directory), (["p", "A.class"], .file 0), (["c"], .directory),
    (["c", "A.class"], .file 1)]
  contents := [upperDecl.toBytes, lowerDecl.toBytes]

/-- The loader above, with one of the two classes. -/
def shadowParent : Chain × Loaders := Loaders.empty.add "parent" [Url.ofPath "/p"] none

def shadowLoader : Chain × Loaders :=
  shadowParent.2.add "app" [Url.ofPath "/c"] (some shadowParent.1.scope)

/-- The index of both loaders, with the declaration of the one further up. -/
def shadowIndex : ClassIndex :=
  ⟨⟨shadowLoader.1, ⟨[], [Pattern.classFiles]⟩,
    [⟨shadowLoader.1, "/c", .directory, ["A.class"]⟩,
      ⟨shadowParent.1, "/p", .directory, ["A.class"]⟩]⟩, [("A.class", upperDecl)]⟩

theorem build_shadow : build shadowDisk shadowLoader.1 {} = .ok shadowIndex := by
  have hf : Config.compileClasses {} = .ok ⟨[], [Pattern.classFiles]⟩ := by rfl
  have haccepts : Filter.accepts ⟨[], [Pattern.classFiles]⟩ "A.class" = true := by decide +kernel
  have hentry : ∀ p : Chain, ∀ path ∈ ["/c", "/p"],
      Root.ofEntry? shadowDisk p path ⟨[], [Pattern.classFiles]⟩ =
        .ok (some ⟨p, path, .directory, ["A.class"]⟩) := by
    intro p path hpath
    have hwalk : ∀ path ∈ ["/c", "/p"], shadowDisk.isDirectory path = true ∧
        (shadowDisk.walk path).toOption = some [path ++ "/A.class"] ∧
        Root.resourceName? path (path ++ "/A.class") = some "A.class" := by decide +kernel
    obtain ⟨hdirectory, hwalk, hname⟩ := hwalk path hpath
    exact ofEntry?_of_file hdirectory (toOption_eq_some_iff.mp hwalk) hname rfl haccepts
  have hentries : List.Forall₂ (OneEntry shadowDisk ⟨[], [Pattern.classFiles]⟩)
      shadowLoader.1.chains [some ⟨shadowLoader.1, "/c", .directory, ["A.class"]⟩,
        some ⟨shadowParent.1, "/p", .directory, ["A.class"]⟩] :=
    .cons ⟨"/c", by decide +kernel, hentry _ _ (by simp)⟩
      (.cons ⟨"/p", by decide +kernel, hentry _ _ (by simp)⟩ .nil)
  have hread : (readRoots shadowDisk [⟨shadowLoader.1, "/c", .directory, ["A.class"]⟩,
      ⟨shadowParent.1, "/p", .directory, ["A.class"]⟩] []).toOption =
        some [("A.class", (⟨1⟩, upperDecl))] := by decide +kernel
  exact build_of_roots hf (discover_of_entries hentries) (toOption_eq_some_iff.mp hread)

theorem shadowLoader_made : shadowLoader.1 ∈ shadowLoader.2.made := by
  simp [shadowLoader, Loaders.add]

/-- None of the entries is an archive. -/
theorem shadowDisk_isFile : ∀ p ∈ shadowLoader.1.chains, ∀ path ∈ p.loader.localPaths,
    shadowDisk.isFile path = false := by decide +kernel

/-- A shadowed class: the index has the one above it, and so has resolution. -/
theorem resolve_agrees_shadowed :
    shadowLoader.1 ∈ shadowLoader.2.made ∧
      build shadowDisk shadowLoader.1 {} = .ok shadowIndex ∧
      ("A.class", upperDecl) ∈ shadowIndex.decls ∧
      ∃ r ∈ shadowIndex.resources.roots, ∃ l' cls,
        Runs (resolve shadowDisk "A" shadowLoader.1) {} ⟨"A", r.scope⟩ l' ∧
          l'.find? r.scope "A" = some cls ∧ cls.decl = upperDecl := by
  obtain ⟨r, hr, -, -, hrun⟩ := resolve_agrees shadowLoader_made build_shadow
    (fun p hp path hpath h => by simp [shadowDisk_isFile p hp path hpath] at h) (Or.inl rfl)
    List.mem_cons_self (by decide) (by decide) (Chain.lists_of_not_isFile shadowDisk_isFile) .start
  exact ⟨shadowLoader_made, build_shadow, List.mem_cons_self, r, hr, hrun⟩

/-- An archive with one entry, whose name is the UTF-8 of `É.class` but is not marked as
UTF-8. -/
def rawArchive : Bytes := [
  80, 75, 3, 4, 20, 0, 0, 0, 0, 0, 0, 0, 33, 0, 209, 227, 197, 42, 54, 0, 0, 0, 54, 0, 0, 0, 8, 0,
  0, 0, 195, 137, 46, 99, 108, 97, 115, 115, 202, 254, 186, 190, 0, 0, 0, 52, 0, 5, 1, 0, 2, 195,
  137, 7, 0, 1, 1, 0, 16, 106, 97, 118, 97, 47, 108, 97, 110, 103, 47, 79, 98, 106, 101, 99, 116,
  7, 0, 3, 0, 33, 0, 2, 0, 4, 0, 0, 0, 0, 0, 0, 0, 0, 80, 75, 1, 2, 20, 0, 20, 0, 0, 0, 0, 0, 0, 0,
  33, 0, 209, 227, 197, 42, 54, 0, 0, 0, 54, 0, 0, 0, 8, 0, 0, 0, 0, 0, 0, 0, 0, 0, 0, 0, 0, 0, 0,
  0, 0, 0, 195, 137, 46, 99, 108, 97, 115, 115, 80, 75, 5, 6, 0, 0, 0, 0, 1, 0, 1, 0, 54, 0, 0, 0,
  92, 0, 0, 0, 0, 0]

/-- The class in the file that the archive stands in front of. -/
def rawDecl : ClassDecl :=
  ⟨"É", some "java.lang.Object", [], false, ["M"], [], [⟨"m", true, false, "()V", ["M"], []⟩]⟩

/-- A disk with the archive and a class file. -/
def rawDisk : Disk where
  entries := [(["p.jar"], .file 0), (["c"], .directory), (["c", "É.class"], .file 1)]
  contents := [rawArchive, rawDecl.toBytes]

/-- The loader above, with the archive. -/
def rawParent : Chain × Loaders := Loaders.empty.add "parent" [Url.ofPath "/p.jar"] none

def rawLoader : Chain × Loaders :=
  rawParent.2.add "child" [Url.ofPath "/c"] (some rawParent.1.scope)

/-- A configuration that admits the name of the class file, and not the one that the entry of
the archive is listed under. -/
def rawConfig : Config where
  patterns := ["É.class"]

/-- What the index of the class file has. -/
theorem build_raw : ∃ i : ClassIndex, build rawDisk rawLoader.1 rawConfig = .ok i ∧
    i.decls = [("É.class", rawDecl)] ∧
    i.resources.roots = [⟨rawLoader.1, "/c", .directory, ["É.class"]⟩] := by
  have hf : (rawConfig.compileClasses.toOption.map fun f =>
      (f.prefixes, f.accepts "É.class", f.accepts "├ë.class")) = some ([], true, false) := by
    decide +kernel
  obtain ⟨f, hf, hfilter⟩ := Option.map_eq_some_iff.mp hf
  simp only [Prod.mk.injEq] at hfilter
  obtain ⟨hprefixes, hfile, hlisted⟩ := hfilter
  have hdirectory : rawDisk.isDirectory "/c" = true ∧
      (rawDisk.walk "/c").toOption = some ["/c/É.class"] ∧
      Root.resourceName? "/c" "/c/É.class" = some "É.class" := by decide +kernel
  have harchive : (rawDisk.stat "/p.jar").toOption = some ⟨["p.jar"], .file 0⟩ ∧
      Root.isArchivePath "/p.jar" = true ∧
      ((Archive.open_ (rawDisk.content 0)).toOption.map (·.names)) = some ["├ë.class"] := by
    decide +kernel
  obtain ⟨hstat, hpath, hopen⟩ := harchive
  obtain ⟨archive, hopen, hnames⟩ := Option.map_eq_some_iff.mp hopen
  have hentries : List.Forall₂ (OneEntry rawDisk f) rawLoader.1.chains
      [some ⟨rawLoader.1, "/c", .directory, ["É.class"]⟩, none] := by
    refine .cons ⟨"/c", by decide +kernel, ?_⟩ (.cons ⟨"/p.jar", by decide +kernel, ?_⟩ .nil)
    · exact ofEntry?_of_file hdirectory.1 (toOption_eq_some_iff.mp hdirectory.2.1) hdirectory.2.2
        hprefixes hfile
    · unfold Root.ofEntry? Root.ofArchive?
      rw [toOption_eq_some_iff.mp hstat]
      dsimp only
      rw [if_pos hpath, toOption_eq_some_iff.mp hopen]
      simp [Except.mapError, bind, Except.bind, pure, Except.pure, hnames, Root.archiveNames,
        hlisted, Text.sortedDistinct, Text.dropRepeats]
  have hread : (readRoots rawDisk [⟨rawLoader.1, "/c", .directory, ["É.class"]⟩] []).toOption =
      some [("É.class", (⟨2⟩, rawDecl))] := by decide +kernel
  exact ⟨_, build_of_roots (toOption_eq_some_iff.mp hf) (discover_of_entries hentries)
    (toOption_eq_some_iff.mp hread), rfl, rfl⟩

/-- **An archive that finds what it does not list** comes in between: the index has the class
file further down, and resolution yields the entry of the archive. -/
theorem resolve_disagrees_unlisted :
    ∃ i, rawLoader.1 ∈ rawLoader.2.made ∧ build rawDisk rawLoader.1 rawConfig = .ok i ∧
      (∀ p ∈ rawLoader.1.chains, ∀ path ∈ p.loader.localPaths,
        rawDisk.isFile path = true → Root.isArchivePath path = true) ∧
      rawConfig.prefixes = [] ∧ ("É.class", rawDecl) ∈ i.decls ∧
      ClassFile.resourceName rawDecl.name = "É.class" ∧ "" ∉ Text.split '/' "É.class" ∧
      (∀ r ∈ i.resources.roots, r.scope = ⟨2⟩) ∧
      ∃ l', Runs (resolve rawDisk rawDecl.name rawLoader.1) {} ⟨rawDecl.name, ⟨1⟩⟩ l' := by
  obtain ⟨i, hbuild, hdecls, hroots⟩ := build_raw
  refine ⟨i, by simp [rawLoader, Loaders.add], hbuild, by decide +kernel, rfl, ?_,
    by decide +kernel, by decide +kernel, ?_, ?_⟩
  · rw [hdecls]
    exact List.mem_cons_self
  · rw [hroots]
    intro r hr
    rw [List.mem_singleton.mp hr]
    decide +kernel
  · have hrun : (outcome (resolve rawDisk rawDecl.name rawLoader.1) {}).1.toOption =
        some ⟨rawDecl.name, ⟨1⟩⟩ := by decide +kernel
    exact exists_runs_of_toOption hrun

end ClassIndex

end Classpath
