import Classpath.CommandLine.Run
import Classpath.Proofs.ArchiveContent
import Classpath.Proofs.Compilation
import Classpath.Proofs.IndexOutcome

/-!
# Narrower and Wider Scans

Prefixes decide where the walks of a directory begin, whether an archive is looked at, and which
names are admitted; without prefixes there is no limit. In all of this a scan for more prefixes goes
further than one for fewer, as long as there are some: it looks wherever the other one looks and
admits whatever the other one admits (`Filter.Within`). So if the wider scan succeeds, the narrower
one does, and each of its roots is among those of the wider one, with more resources perhaps
(`Root.discover_of_within`).

Two configurations with the same sets of prefixes and patterns are within each other. Names are
kept in order and each once, so what two such scans find is the same, and neither the order nor the
number of times that a prefix is given makes a difference.

## Main results

* `Config.compileAs_of_within`: what is compiled.
* `Root.ofEntry?_of_within`: one entry.
* `Root.discover_of_within`, `Root.discover_congr`: a whole chain of loaders.
* `ResourceIndex.scan_of_sets`: what a scan depends on.
-/

namespace Classpath

/-- What a filter admits another one admits as well, and it has the prefixes of the first. -/
structure Filter.Within (f g : Filter) : Prop where
  prefixes : f.prefixes ⊆ g.prefixes
  /-- Without prefixes there is no limit. -/
  unlimited : f.prefixes = [] → g.prefixes = []
  accepts : ∀ name, f.accepts name = true → g.accepts name = true

/-! ### Configurations -/

namespace Config

/-- A configuration with the patterns of another one and with some of its prefixes. -/
structure Within (c c' : Config) : Prop where
  prefixes : c.prefixes ⊆ c'.prefixes
  unlimited : c.prefixes = [] → c'.prefixes = []
  patterns : ∀ source, source ∈ c.patterns ↔ source ∈ c'.patterns

/-- Two configurations with the same prefixes and the same patterns, in whatever order and however
often. -/
structure SameSets (c c' : Config) : Prop where
  prefixes : ∀ raw, raw ∈ c.prefixes ↔ raw ∈ c'.prefixes
  patterns : ∀ source, source ∈ c.patterns ↔ source ∈ c'.patterns

variable {c c' : Config} {form : String → String} {f g : Filter}

theorem SameSets.symm (h : c.SameSets c') : c'.SameSets c where
  prefixes raw := (h.prefixes raw).symm
  patterns source := (h.patterns source).symm

/-- Of two configurations with the same prefixes and patterns, each has all that the other one has.
-/
theorem SameSets.within (h : c.SameSets c') : c.Within c' where
  prefixes raw hraw := (h.prefixes raw).mp hraw
  unlimited hnone := List.eq_nil_iff_forall_not_mem.mpr fun raw hraw =>
    List.eq_nil_iff_forall_not_mem.mp hnone raw ((h.prefixes raw).mpr hraw)
  patterns := h.patterns

/-- To add a prefix to some widens a configuration. To add the first one would narrow it. -/
theorem within_addPrefix (h : c.prefixes ≠ []) (raw : String) : c.Within (c.addPrefix raw) where
  prefixes := List.subset_append_left _ _
  unlimited hnone := absurd hnone h
  patterns _ := Iff.rfl

/-- A compiled filter has prefixes if the configuration has some. -/
theorem prefixes_eq_nil_iff (h : c.compileAs form = .ok f) :
    f.prefixes = [] ↔ c.prefixes = [] := by
  simp only [List.eq_nil_iff_forall_not_mem, mem_prefixes_iff h]
  constructor
  · exact fun hnone raw hraw => hnone _ ⟨raw, hraw, rfl⟩
  · rintro hnone _ ⟨raw, hraw, rfl⟩
    exact hnone raw hraw

/-- **A narrower configuration compiles** if a wider one does, to a narrower filter. -/
theorem compileAs_of_within (h : c.Within c') (hg : c'.compileAs form = .ok g) :
    ∃ f, c.compileAs form = .ok f ∧ f.Within g := by
  obtain ⟨hclimbs, hcompile⟩ := exists_compileAs_iff.mp ⟨g, hg⟩
  obtain ⟨f, hf⟩ := exists_compileAs_iff.mpr ⟨fun raw hraw => hclimbs raw (h.prefixes hraw),
    fun source hsource => hcompile source ((h.patterns source).mp hsource)⟩
  have hprefixes : f.prefixes ⊆ g.prefixes := by
    intro start hstart
    obtain ⟨raw, hraw, hform⟩ := (mem_prefixes_iff hf).mp hstart
    exact (mem_prefixes_iff hg).mpr ⟨raw, h.prefixes hraw, hform⟩
  have hunlimited : f.prefixes = [] → g.prefixes = [] := by
    rw [prefixes_eq_nil_iff hf, prefixes_eq_nil_iff hg]
    exact h.unlimited
  refine ⟨f, hf, hprefixes, hunlimited, fun name haccepts => ?_⟩
  obtain ⟨hbegins, hmatch⟩ := Filter.accepts_eq_true_iff.mp haccepts
  refine Filter.accepts_eq_true_iff.mpr ⟨hbegins.imp hunlimited ?_, fun p hp => hmatch p ?_⟩
  · rintro ⟨start, hstart, hname⟩
    exact ⟨start, hprefixes hstart, hname⟩
  · obtain ⟨source, hsource, hp⟩ := (mem_patterns_iff hg).mp hp
    exact (mem_patterns_iff hf).mpr ⟨source, (h.patterns source).mpr hsource, hp⟩

/-- A way of compiling configurations that goes by their sets of prefixes and patterns: with fewer
prefixes less is admitted. -/
def GoesBySets (compile : Config → Except ScanError Filter) : Prop :=
  ∀ ⦃c c' g⦄, c.Within c' → compile c' = .ok g → ∃ f, compile c = .ok f ∧ f.Within g

/-- To compile a configuration for resources goes by its sets of prefixes and patterns. -/
theorem compileResources_goesBySets : GoesBySets compileResources :=
  fun _ _ _ h hg => compileAs_of_within h hg

/-- So does compiling it for classes, since the pattern that is added is the same. -/
theorem compileClasses_goesBySets : GoesBySets compileClasses := by
  intro c c' g h hg
  rw [compileClasses_eq, map_eq_ok_iff] at hg
  obtain ⟨g, hg, rfl⟩ := hg
  obtain ⟨f, hf, hwithin⟩ := compileAs_of_within h hg
  refine ⟨⟨f.prefixes, Pattern.fold f.patterns .classFiles⟩, ?_, hwithin.prefixes,
    hwithin.unlimited, fun name => ?_⟩
  · rw [compileClasses_eq, hf]
    rfl
  · rw [accepts_fold hf, accepts_fold hg, Bool.and_eq_true, Bool.and_eq_true]
    exact And.imp_left (hwithin.accepts name)

end Config

/-! ### Roots -/

namespace Root

variable {d : Disk} {c : Chain} {f g : Filter} {path : String} {root? wide? : Option Root}

/-- A root that differs from another one in that some of the resources are missing. -/
structure Within (r r' : Root) : Prop where
  resources : r.resources ⊆ r'.resources
  eq : r' = { r with resources := r'.resources }

/-- With fewer prefixes fewer walks begin. -/
theorem walkStarts_subset (h : f.Within g) (directory : String) :
    walkStarts d directory f.prefixes ⊆ walkStarts d directory g.prefixes := by
  intro place hplace
  rw [mem_walkStarts_iff] at hplace ⊢
  refine hplace.imp (And.imp_left h.unlimited) ?_
  rintro ⟨start, hstart, hplace⟩
  exact ⟨start, h.prefixes hstart, hplace⟩

/-- A narrower scan of a directory succeeds if a wider one does, and finds less. -/
theorem directoryNames_of_within (h : f.Within g) {wide : List String}
    (hwide : directoryNames d path g = .ok wide) :
    ∃ names, directoryNames d path f = .ok names ∧ names ⊆ wide := by
  have hstarts := walkStarts_subset (d := d) h path
  obtain ⟨names, hnames⟩ := exists_directoryNames_iff.mpr fun place hplace =>
    exists_directoryNames_iff.mp ⟨wide, hwide⟩ place (hstarts hplace)
  refine ⟨names, hnames, fun name hname => ?_⟩
  obtain ⟨haccepts, place, hplace, hfile⟩ := (mem_directoryNames_iff hnames).mp hname
  exact (mem_directoryNames_iff hwide).mpr ⟨h.accepts name haccepts, place, hstarts hplace, hfile⟩

/-- A narrower scan of an archive finds less, or passes the archive over. -/
theorem archiveNames_of_within (h : f.Within g) (names : List String) :
    archiveNames names f ⊆ archiveNames names g := by
  intro name hname
  obtain ⟨hholds, hmem, hends, haccepts⟩ := mem_archiveNames.mp hname
  refine mem_archiveNames.mpr ⟨?_, hmem, hends, h.accepts name haccepts⟩
  rw [holdsPrefix_eq_true_iff] at hholds ⊢
  refine hholds.imp h.unlimited ?_
  rintro ⟨start, hstart, hstored⟩
  exact ⟨start, h.prefixes hstart, hstored⟩

/-- There is a root for more names if there is one for fewer. -/
theorem within_of_names {names wide : List String} (hsub : names ⊆ wide) (chain : Chain)
    (store : Store) :
    ∀ r ∈ (if names.isEmpty then none else some ⟨chain, path, store, names⟩ : Option Root),
      ∃ r' ∈ (if wide.isEmpty then none else some ⟨chain, path, store, wide⟩ : Option Root),
        r.Within r' := by
  intro r hr
  split at hr
  · cases hr
  · rename_i hsome
    obtain rfl := Option.some.inj hr
    have hwide : ¬wide.isEmpty = true := by
      rw [List.isEmpty_iff] at hsome ⊢
      exact fun hnone => hsome (List.subset_nil.mp (hnone ▸ hsub))
    exact ⟨_, if_neg hwide, hsub, rfl⟩

/-- **One entry**: a narrower scan of it succeeds if a wider one does, and finds less. -/
theorem ofEntry?_of_within (h : f.Within g) (hwide : ofEntry? d c path g = .ok wide?) :
    ∃ root?, ofEntry? d c path f = .ok root? ∧ ∀ r ∈ root?, ∃ r' ∈ wide?, r.Within r' := by
  obtain ⟨loc, wide, hstat, hnames, rfl⟩ | ⟨loc, id, archive, hstat, hpath, hopen, rfl⟩ |
    ⟨loc, id, hstat, hpath, rfl⟩ | ⟨loc, target, hstat, rfl⟩ := ofEntry?_cases hwide
  · obtain ⟨names, hnames, hsub⟩ := directoryNames_of_within h hnames
    exact ⟨_, ofEntry?_of_directoryNames hstat hnames, within_of_names hsub c .directory⟩
  · exact ⟨_, ofEntry?_of_archiveNames hstat hpath hopen,
      within_of_names (archiveNames_of_within h _) c (.archive id archive)⟩
  · refine ⟨none, ?_, by simp⟩
    unfold ofEntry?
    rw [hstat]
    exact if_neg (by simp [hpath])
  · refine ⟨none, ?_, by simp⟩
    unfold ofEntry?
    rw [hstat]

/-- Scans of one entry that are within each other find the same. -/
theorem ofEntry?_congr (hfg : f.Within g) (hgf : g.Within f) :
    ofEntry? d c path f = .ok root? ↔ ofEntry? d c path g = .ok root? := by
  have hsame : ∀ {f g root? wide?}, f.Within g → g.Within f →
      ofEntry? d c path f = .ok root? → ofEntry? d c path g = .ok wide? → root? = wide? := by
    intro f g root? wide? hfg hgf hroot hwide
    obtain ⟨_, hroot', hnarrow⟩ := ofEntry?_of_within hfg hwide
    obtain rfl := Except.ok.inj (hroot.symm.trans hroot')
    obtain ⟨_, hwide', hback⟩ := ofEntry?_of_within hgf hroot
    obtain rfl := Except.ok.inj (hwide.symm.trans hwide')
    cases root? with
    | none =>
        cases wide? with
        | none => rfl
        | some r' =>
            obtain ⟨_, hr, -⟩ := hback r' rfl
            cases hr
    | some r =>
        obtain ⟨r', rfl, hwithin⟩ := hnarrow r rfl
        obtain ⟨_, hr, hwithin'⟩ := hback r' rfl
        obtain rfl := Option.some.inj hr
        -- both lists of names are in order, so they are the same
        have hresources : r.resources = r'.resources :=
          (pairwise_resources hroot).eq_of_mem_iff (pairwise_resources hwide) fun name =>
            ⟨fun hname => hwithin.resources hname, fun hname => hwithin'.resources hname⟩
        rw [hwithin.eq, ← hresources]
  constructor
  · intro hroot
    obtain ⟨wide?, hwide, -⟩ := ofEntry?_of_within hgf hroot
    rwa [hsame hfg hgf hroot hwide]
  · intro hwide
    obtain ⟨root?, hroot, -⟩ := ofEntry?_of_within hfg hwide
    rwa [← hsame hfg hgf hroot hwide]

/-- The roots of a chain are found if every entry of every loader in it can be scanned. -/
theorem exists_discover_iff : (∃ roots, discover d c f = .ok roots) ↔
    ∀ p ∈ c.chains, ∀ path ∈ p.loader.localPaths, ∃ root?, ofEntry? d p path f = .ok root? := by
  constructor
  · rintro ⟨roots, hroots⟩ p hp path hpath
    obtain ⟨root?, hroot, -⟩ := ofEntry?_of_discover hroots hp hpath
    exact ⟨root?, hroot⟩
  · intro h
    have hown : ∀ p ∈ c.chains, ∃ own, discoverOwn d p f = .ok own := by
      intro p hp
      obtain ⟨found, hfound⟩ := exists_mapM_eq_ok_iff.mpr (h p hp)
      exact ⟨_, bind_eq_ok_iff.mpr ⟨found, hfound, rfl⟩⟩
    obtain ⟨groups, hgroups⟩ := exists_mapM_eq_ok_iff.mpr hown
    exact ⟨_, bind_eq_ok_iff.mpr ⟨groups, hgroups, rfl⟩⟩

/-- **A chain of loaders**: a narrower scan of it succeeds if a wider one does, and each of its
roots is one of the wider scan's, with fewer resources perhaps. -/
theorem discover_of_within (h : f.Within g) {wide : List Root}
    (hwide : discover d c g = .ok wide) :
    ∃ roots, discover d c f = .ok roots ∧ ∀ r ∈ roots, ∃ r' ∈ wide, r.Within r' := by
  obtain ⟨roots, hroots⟩ := (exists_discover_iff (f := f)).mpr fun p hp path hpath => by
    obtain ⟨wide?, hentry, -⟩ := ofEntry?_of_discover hwide hp hpath
    obtain ⟨root?, hroot, -⟩ := ofEntry?_of_within h hentry
    exact ⟨root?, hroot⟩
  refine ⟨roots, hroots, fun r hr => ?_⟩
  obtain ⟨hchain, path, hpath, hroot⟩ := exists_entry_of_mem_discover hroots hr
  obtain ⟨wide?, hentry, hfound⟩ := ofEntry?_of_discover hwide hchain hpath
  obtain ⟨_, hroot', hwithin⟩ := ofEntry?_of_within h hentry
  obtain rfl := Except.ok.inj (hroot.symm.trans hroot')
  obtain ⟨r', hr', hwithin⟩ := hwithin r rfl
  exact ⟨r', (hfound r' hr').1, hwithin⟩

/-- Scans of a chain that are within each other find the same roots. -/
theorem discover_congr (hfg : f.Within g) (hgf : g.Within f) {roots : List Root} :
    discover d c f = .ok roots ↔ discover d c g = .ok roots := by
  unfold discover discoverOwn
  simp only [bind_eq_ok_iff, mapM_eq_ok_iff, ofEntry?_congr hfg hgf]

end Root

/-! ### Scans -/

namespace ResourceIndex

variable {d : Disk} {chain : Chain} {c c' : Config} {i j : ResourceIndex}
  {compile : Config → Except ScanError Filter}

/-- The scan for a configuration that is compiled in some way. -/
def scan (d : Disk) (chain : Chain) (compile : Config → Except ScanError Filter) (c : Config) :
    Except ScanError ResourceIndex :=
  compile c >>= build d chain

/-- A scan succeeds if its configuration compiles and the roots of the chain are found. -/
theorem scan_eq_ok_iff :
    scan d chain compile c = .ok i ↔ ∃ f roots, compile c = .ok f ∧
      Root.discover d chain f = .ok roots ∧ i = ⟨chain, f, roots⟩ := by
  unfold scan build
  simp only [bind_eq_ok_iff, pure_eq_ok_iff]
  constructor
  · rintro ⟨f, hf, roots, hroots, rfl⟩
    exact ⟨f, roots, hf, hroots, rfl⟩
  · rintro ⟨f, roots, hf, hroots, rfl⟩
    exact ⟨f, hf, roots, hroots, rfl⟩

/-- With fewer prefixes a scan succeeds if it does with more, and finds no more. -/
theorem scan_of_within (hcompile : Config.GoesBySets compile) (h : c.Within c')
    (hj : scan d chain compile c' = .ok j) :
    ∃ i, scan d chain compile c = .ok i ∧ i.all ⊆ j.all := by
  obtain ⟨g, wide, hg, hwide, rfl⟩ := scan_eq_ok_iff.mp hj
  obtain ⟨f, hf, hwithin⟩ := hcompile h hg
  obtain ⟨roots, hroots, hbelow⟩ := Root.discover_of_within hwithin hwide
  refine ⟨_, scan_eq_ok_iff.mpr ⟨f, roots, hf, hroots, rfl⟩, fun name hname => ?_⟩
  obtain ⟨r, hr, hname⟩ := ClassIndex.mem_all_iff.mp hname
  obtain ⟨r', hr', hwithin⟩ := hbelow r hr
  exact ClassIndex.mem_all_iff.mpr ⟨r', hr', hwithin.resources hname⟩

/-- Two scans that both fail, or both succeed and have the same roots. -/
def SameRoots : Except ScanError ResourceIndex → Except ScanError ResourceIndex → Prop :=
  Corresponds (fun _ _ => True) fun i j => i.roots = j.roots

/-- With the same sets of prefixes and patterns a scan finds the same roots. -/
theorem scan_of_sameSets (hcompile : Config.GoesBySets compile) (h : c.SameSets c') :
    SameRoots (scan d chain compile c) (scan d chain compile c') := by
  have hsame : ∀ {c c' i}, c.SameSets c' → scan d chain compile c = .ok i →
      ∃ j, scan d chain compile c' = .ok j ∧ i.roots = j.roots := by
    intro c c' i h hi
    obtain ⟨f, roots, hf, hroots, rfl⟩ := scan_eq_ok_iff.mp hi
    obtain ⟨g, hg, hgf⟩ := hcompile h.symm.within hf
    obtain ⟨_, hf', hfg⟩ := hcompile h.within hg
    obtain rfl := Except.ok.inj (hf.symm.trans hf')
    have hroots' := (Root.discover_congr hfg hgf).mp hroots
    exact ⟨_, scan_eq_ok_iff.mpr ⟨g, roots, hg, hroots', rfl⟩, rfl⟩
  refine Corresponds.of_ok_iff (fun i hi => hsame h hi) fun j hj => ?_
  obtain ⟨i, hi, -⟩ := hsame h.symm hj
  exact ⟨i, hi⟩

end ResourceIndex

/-- The configuration in the file that the options name, or an empty one. -/
def CommandLine.ScanOptions.fileConfig (o : ScanOptions) (d : Disk) : Except ScanError Config :=
  match o.configFile with
  | none => .ok {}
  | some path => do Config.ofFile path (← (d.read path).mapError (.file path))

/-- The options are put behind what the file has. -/
theorem CommandLine.ScanOptions.fullConfig_of_fileConfig {o : ScanOptions} {d : Disk}
    {base : Config} (h : o.fileConfig d = .ok base) :
    o.fullConfig d = .ok (base.merge o.config) := by
  cases hfile : o.configFile with
  | none =>
    simp only [fileConfig, hfile] at h
    cases h
    simp only [fullConfig, hfile]
    rfl
  | some path =>
    simp only [fileConfig, hfile] at h
    obtain ⟨content, hcontent, hbase⟩ := bind_eq_ok_iff.mp h
    simp only [fullConfig, hfile]
    exact bind_eq_ok_iff.mpr ⟨content, hcontent, bind_eq_ok_iff.mpr ⟨base, hbase, rfl⟩⟩

namespace ResourceIndex

/-- **What a scan depends on** are the sets of prefixes and patterns. Two configurations with the
same ones, whether they are given in a file or as options, both lead to a failure, or to the same
roots in the same order. If there are prefixes, then with one more a scan finds no less: when it
succeeds, so does the one without it, and no resource is missing. -/
theorem scan_of_sets (d : Disk) (chain : Chain) :
    (∀ c c' : Config, c.SameSets c' →
      SameRoots (ofResources d chain c) (ofResources d chain c') ∧
        SameRoots (ofClasses d chain c) (ofClasses d chain c')) ∧
    (∀ (o o' : CommandLine.ScanOptions) (base base' : Config),
      o.fileConfig d = .ok base → o'.fileConfig d = .ok base' →
      (∀ raw, raw ∈ base.prefixes ∨ raw ∈ o.config.prefixes ↔
        raw ∈ base'.prefixes ∨ raw ∈ o'.config.prefixes) →
      (∀ source, source ∈ base.patterns ∨ source ∈ o.config.patterns ↔
        source ∈ base'.patterns ∨ source ∈ o'.config.patterns) →
      SameRoots (o.fullConfig d >>= ofResources d chain) (o'.fullConfig d >>= ofResources d chain) ∧
        SameRoots (o.fullConfig d >>= ofClasses d chain) (o'.fullConfig d >>= ofClasses d chain)) ∧
    ∀ (c : Config) (raw : String), c.prefixes ≠ [] →
      (∀ j, ofResources d chain (c.addPrefix raw) = .ok j →
        ∃ i, ofResources d chain c = .ok i ∧ i.all ⊆ j.all) ∧
      ∀ j, ofClasses d chain (c.addPrefix raw) = .ok j →
        ∃ i, ofClasses d chain c = .ok i ∧ i.all ⊆ j.all := by
  have hsets : ∀ c c' : Config, c.SameSets c' →
      SameRoots (ofResources d chain c) (ofResources d chain c') ∧
        SameRoots (ofClasses d chain c) (ofClasses d chain c') := fun c c' h =>
    ⟨scan_of_sameSets Config.compileResources_goesBySets h,
      scan_of_sameSets Config.compileClasses_goesBySets h⟩
  refine ⟨hsets, fun o o' base base' hbase hbase' hprefixes hpatterns => ?_, fun c raw hsome => ?_⟩
  · rw [CommandLine.ScanOptions.fullConfig_of_fileConfig hbase,
      CommandLine.ScanOptions.fullConfig_of_fileConfig hbase']
    refine hsets _ _ ⟨fun raw => ?_, fun source => ?_⟩
    · simpa only [Config.merge, List.mem_append] using hprefixes raw
    · simpa only [Config.merge, List.mem_append] using hpatterns source
  · have hwithin := Config.within_addPrefix hsome raw
    exact ⟨fun j => scan_of_within Config.compileResources_goesBySets hwithin,
      fun j => scan_of_within Config.compileClasses_goesBySets hwithin⟩

/-- A disk with a class file in a directory, a text in an archive, and a file with a prefix. -/
def settingsDisk : Disk where
  entries := [(["c"], .directory), (["c", "A.class"], .file 0), (["b.jar"], .file 1),
    (["settings"], .file 2)]
  contents := [[], Archive.pack [("b/b.txt", [])], Text.Utf8.encode "[[\"b/b.txt\"]]"]

/-- A loader for the archive and the directory. -/
def settingsLoader : Chain := ⟨⟨⟨1⟩, "app", [Url.ofPath "/b.jar", Url.ofPath "/c"]⟩, []⟩

/-- Two prefixes, of which one is given twice, or is in a file, or is missing. -/
theorem scan_of_sets_settings :
    ∃ i, ofResources settingsDisk settingsLoader ⟨["A", "b/b.txt"], []⟩ = .ok i ∧
      i.roots.map (·.resources) = [["b/b.txt"], ["A.class"]] ∧
      (∃ j, ofResources settingsDisk settingsLoader ⟨["b/b.txt", "A", "A"], []⟩ = .ok j ∧
        i.roots = j.roots) ∧
      (∃ j, CommandLine.ScanOptions.fullConfig
          { configFile := some "/settings", config := ⟨["A"], []⟩ } settingsDisk >>=
            ofResources settingsDisk settingsLoader = .ok j ∧ i.roots = j.roots) ∧
      ∃ j, ofResources settingsDisk settingsLoader ⟨["A"], []⟩ = .ok j ∧ j.all ⊆ i.all := by
  obtain ⟨hsets, hsplit, hmore⟩ := scan_of_sets settingsDisk settingsLoader
  have hi : (ofResources settingsDisk settingsLoader ⟨["A", "b/b.txt"], []⟩).toOption.map
      (·.roots.map (·.resources)) = some [["b/b.txt"], ["A.class"]] := by decide +kernel
  have hfile : (CommandLine.ScanOptions.fileConfig
      { configFile := some "/settings", config := ⟨["A"], []⟩ } settingsDisk).toOption =
        some ⟨["b/b.txt"], []⟩ := by decide +kernel
  obtain ⟨i, hi, hroots⟩ := Option.map_eq_some_iff.mp hi
  rw [toOption_eq_some_iff] at hi hfile
  have htwice : Config.SameSets ⟨["A", "b/b.txt"], []⟩ ⟨["b/b.txt", "A", "A"], []⟩ :=
    ⟨by simp [or_comm], by simp⟩
  have hflags : CommandLine.ScanOptions.fileConfig { config := ⟨["A", "b/b.txt"], []⟩ }
      settingsDisk = .ok {} := rfl
  refine ⟨i, hi, hroots, (hsets _ _ htwice).1.exists_of_ok hi, ?_,
    (hmore ⟨["A"], []⟩ _ (by simp)).1 i hi⟩
  exact (hsplit _ _ _ _ hflags hfile (by simp [or_comm]) (by simp)).1.exists_of_ok hi

end ResourceIndex

end Classpath
