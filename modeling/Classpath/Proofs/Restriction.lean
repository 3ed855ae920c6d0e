import Classpath.Archive.Pack
import Classpath.Proofs.Compilation
import Classpath.Proofs.Delegation
import Classpath.Proofs.Segments
import Classpath.Proofs.SortedNames
import Classpath.ResourceIndex

/-!
# Filtering During a Scan and Afterwards

A filter that narrows another one by a pattern has the same prefixes and admits those of the names
that the pattern matches (`Filter.Narrows`). The prefixes alone decide which directories are walked
and which archives are opened and looked at, so both filters meet the same failures, and every root
of the one is a root of the other with the names left out that do not match. What is left of a root
is dropped if it is nothing: that is `Root.restrict?`.

So it makes no difference whether a pattern is part of the configuration or is applied to what a
scan without it finds. A scan for class files is an instance, with packages for prefixes.

## Main results

* `Root.ofEntry?_restrict`: one entry, failures included.
* `Root.discover_restrict`: a whole chain of loaders.
* `ResourceIndex.restricts_of_pattern`: a pattern more, and the pattern of class files.
-/

namespace Classpath

/-- A filter with the same prefixes as another one, which admits those of the names that a
pattern matches. -/
structure Filter.Narrows (p : Pattern) (f g : Filter) : Prop where
  prefixes : g.prefixes = f.prefixes
  accepts : ∀ name, g.accepts name = (f.accepts name && p.isMatch name)

variable {p : Pattern} {f g : Filter}

/-- To add a pattern to a filter narrows it by that pattern. -/
theorem Filter.narrows_append (f : Filter) (p : Pattern) :
    f.Narrows p ⟨f.prefixes, f.patterns ++ [p]⟩ where
  prefixes := rfl
  accepts name := by
    unfold accepts Pattern.matchAll
    simp only [List.all_append, List.all_cons, List.all_nil, Bool.and_true, Bool.and_assoc]

namespace Root

variable {d : Disk} {c : Chain} {path : String}

/-- What is left of a root when only the names count that a pattern matches, if anything is. -/
def restrict? (p : Pattern) (r : Root) : Option Root :=
  let resources := r.resources.filter p.isMatch
  if resources.isEmpty then none else some { r with resources }

/-! ### One entry -/

/-- What the narrower filter admits is what the other one does, without the names that the pattern
does not match. -/
theorem filter_accepts (h : f.Narrows p g) (names : List String) :
    names.filter g.accepts = (names.filter f.accepts).filter p.isMatch := by
  rw [List.filter_filter]
  exact List.filter_congr fun name _ => (h.accepts name).trans (Bool.and_comm ..)

/-- The narrower scan of a directory walks the same way, and keeps the names that match. -/
theorem directoryNames_restrict (h : f.Narrows p g) (directory : String) :
    directoryNames d directory g =
      (directoryNames d directory f).map (List.filter p.isMatch) := by
  unfold directoryNames
  rw [h.prefixes]
  rcases (walkStarts d directory f.prefixes).mapM d.walk with _ | files
  · rfl
  · show Except.ok _ = Except.ok _
    rw [filter_accepts h, Text.sortedDistinct_filter]

/-- The narrower scan of an archive passes over the same archives, and keeps the names that match.
-/
theorem archiveNames_restrict (h : f.Narrows p g) (names : List String) :
    archiveNames names g = (archiveNames names f).filter p.isMatch := by
  have haccepts : (names.filter fun name => !Text.endsWith name "/" && g.accepts name) =
      (names.filter fun name => !Text.endsWith name "/" && f.accepts name).filter p.isMatch := by
    rw [List.filter_filter]
    refine List.filter_congr fun name _ => ?_
    rw [h.accepts, ← Bool.and_assoc, Bool.and_comm]
  unfold archiveNames
  rw [h.prefixes]
  split
  · rw [haccepts, Text.sortedDistinct_filter]
  · rfl

/-- A root for names that are filtered is what is left of the one for all of them. -/
theorem restrict?_of_names {names : List String} {r r' : Root}
    (hr : { r with resources := r.resources.filter p.isMatch } = r')
    (hnames : r.resources = names) :
    (if (names.filter p.isMatch).isEmpty then none else some r') =
      (if names.isEmpty then none else some r).bind (restrict? p) := by
  subst hr hnames
  by_cases hempty : r.resources = []
  · simp [hempty]
  · have hsome : (if r.resources.isEmpty then none else some r) = some r :=
      if_neg (mt List.isEmpty_iff.mp hempty)
    rw [hsome]
    rfl

/-- **One entry**: a narrower filter fails as the wider one does, and otherwise has what is left
of its root. -/
theorem ofEntry?_restrict (h : f.Narrows p g) :
    ofEntry? d c path g = (Option.bind · (restrict? p)) <$> ofEntry? d c path f := by
  unfold ofEntry?
  split
  · rfl
  · rfl
  · unfold ofDirectory?
    rw [directoryNames_restrict h]
    rcases directoryNames d path f with _ | names
    · rfl
    · exact congrArg Except.ok (restrict?_of_names rfl rfl)
  · split
    · unfold ofArchive?
      rcases Archive.open_ (d.content _) with _ | archive
      · rfl
      · refine congrArg Except.ok ?_
        rw [archiveNames_restrict h]
        exact restrict?_of_names rfl rfl
    · rfl
  · rfl

/-! ### A chain of loaders -/

/-- The roots of one loader are restricted one by one, and those that are left empty are gone. -/
theorem discoverOwn_restrict (h : f.Narrows p g) :
    discoverOwn d c g = (discoverOwn d c f).map (List.filterMap (restrict? p)) := by
  unfold discoverOwn
  rw [mapM_eq_map fun path _ => ofEntry?_restrict h]
  rcases c.loader.localPaths.mapM fun path => ofEntry? d c path f with _ | found
  · rfl
  · refine congrArg Except.ok ?_
    rw [List.filterMap_map, List.filterMap_filterMap]
    rfl

/-- **A chain of loaders**: a narrower filter fails as the wider one does, and otherwise has what
is left of its roots, in their order. -/
theorem discover_restrict (h : f.Narrows p g) :
    discover d c g = (discover d c f).map (List.filterMap (restrict? p)) := by
  unfold discover
  rw [mapM_eq_map fun chain _ => discoverOwn_restrict h]
  rcases c.chains.mapM fun chain => discoverOwn d chain f with _ | groups
  · rfl
  · refine congrArg Except.ok ?_
    rw [List.filterMap_flatten]

/-- The names of what is left of some roots. -/
theorem flatMap_resources_restrict (roots : List Root) :
    (roots.filterMap (restrict? p)).flatMap (·.resources) =
      (roots.flatMap (·.resources)).filter p.isMatch := by
  induction roots with
  | nil => rfl
  | cons r roots ih =>
      by_cases hempty : r.resources.filter p.isMatch = []
      · have hr : restrict? p r = none := if_pos (List.isEmpty_iff.mpr hempty)
        rw [List.filterMap_cons_none hr, List.flatMap_cons, List.filter_append, hempty,
          List.nil_append, ih]
      · have hr : restrict? p r = some { r with resources := r.resources.filter p.isMatch } :=
          if_neg (mt List.isEmpty_iff.mp hempty)
        rw [List.filterMap_cons_some hr, List.flatMap_cons, List.flatMap_cons, List.filter_append,
          ih]

end Root

/-! ### Scans -/

/-- The configuration whose prefixes are the paths of the packages. -/
def Config.packagesAsPaths (c : Config) : Config :=
  { c with prefixes := c.prefixes.map Filter.packageForm }

namespace Filter

/-- The path of a package is a prefix as it is. -/
theorem slashForm_packageForm (package : String) :
    slashForm (packageForm package) = packageForm package := by
  refine slashForm_eq (fun hmem => ?_) (Text.isAbsolute_trimStart _)
  exact Text.notMem_replace (by decide) _ (Text.mem_of_mem_trimStart hmem)

end Filter

namespace Config

variable {config : Config}

/-- A prefix that is not admitted is one that climbs. -/
theorem climbing_of_checkedPrefix {form : String → String} {raw : String} {e : ScanError}
    (h : checkedPrefix form raw = .error e) : e = .climbing raw := by
  unfold checkedPrefix at h
  split at h
  · cases h
    rfl
  · cases h

/-- The prefix of a package and that of its path are checked alike. -/
theorem checkedPrefix_packageForm (raw : String) :
    checkedPrefix Filter.slashForm (Filter.packageForm raw) =
      (checkedPrefix Filter.packageForm raw).mapError fun _ =>
        .climbing (Filter.packageForm raw) := by
  unfold checkedPrefix
  rw [Filter.slashForm_packageForm]
  split <;> rfl

/-- Prefixes in the form of packages are checked like the ones that they were made from, but for
the text that a failure reports. -/
theorem mapM_checkedPrefix_packageForm (raws : List String) :
    (raws.map Filter.packageForm).mapM (checkedPrefix Filter.slashForm) =
        raws.mapM (checkedPrefix Filter.packageForm) ∨
      ∃ raw ∈ raws,
        (raws.map Filter.packageForm).mapM (checkedPrefix Filter.slashForm) =
          .error (.climbing (Filter.packageForm raw)) ∧
        raws.mapM (checkedPrefix Filter.packageForm) = .error (.climbing raw) := by
  induction raws with
  | nil =>
      rw [List.map_nil, List.mapM_nil, List.mapM_nil]
      exact Or.inl rfl
  | cons raw raws ih =>
      rw [List.map_cons, List.mapM_cons, List.mapM_cons, checkedPrefix_packageForm]
      cases hchecked : checkedPrefix Filter.packageForm raw with
      | error e =>
          obtain rfl := climbing_of_checkedPrefix hchecked
          exact Or.inr ⟨raw, List.mem_cons_self, rfl, rfl⟩
      | ok start =>
          obtain hsame | ⟨raw', hraw', hpaths, hpackages⟩ := ih
          · rw [hsame]
            exact Or.inl rfl
          · rw [hpaths, hpackages]
            exact Or.inr ⟨raw', List.mem_cons_of_mem _ hraw', rfl, rfl⟩

/-- Two errors are the same, except that the one names the path of a package that climbs and the
other the package. -/
def ClimbAlike (config : Config) (e e' : ScanError) : Prop :=
  e' = e ∨ ∃ raw ∈ config.prefixes,
    e = .climbing (Filter.packageForm raw) ∧ e' = .climbing raw

/-- **Packages and their paths** are compiled to the same filter, or fail at the same prefix. -/
theorem compileAs_packagesAsPaths (config : Config) :
    config.packagesAsPaths.compileAs Filter.slashForm = config.compileAs Filter.packageForm ∨
      ∃ raw ∈ config.prefixes,
        config.packagesAsPaths.compileAs Filter.slashForm =
          .error (.climbing (Filter.packageForm raw)) ∧
        config.compileAs Filter.packageForm = .error (.climbing raw) := by
  unfold compileAs packagesAsPaths
  dsimp only
  obtain hsame | ⟨raw, hraw, hpaths, hpackages⟩ :=
    mapM_checkedPrefix_packageForm config.prefixes
  · exact Or.inl (by rw [hsame])
  · rw [hpaths, hpackages]
    exact Or.inr ⟨raw, hraw, rfl, rfl⟩

/-- A pattern more narrows the filter. -/
theorem compileResources_addPattern {source : String} (hp : Pattern.compile source = .ok p) :
    Corresponds Eq (Filter.Narrows p) config.compileResources
      (config.addPattern source).compileResources := by
  have hone : compilePattern source = .ok p := by
    rw [compilePattern, hp]
    rfl
  refine Corresponds.of_eq_map ?_ fun f => f.narrows_append p
  unfold compileResources addPattern
  rw [List.mapM_append, List.mapM_cons, List.mapM_nil, hone]
  rcases config.prefixes.mapM (checkedPrefix Filter.slashForm) with _ | prefixes
  · rfl
  · rcases config.patterns.mapM compilePattern with _ | patterns <;> rfl

/-- For class files, the filter for the paths of the packages is narrowed. -/
theorem compileClasses_packagesAsPaths (config : Config) :
    Corresponds config.ClimbAlike (Filter.Narrows .classFiles)
      config.packagesAsPaths.compileResources config.compileClasses := by
  rw [compileResources_eq, compileClasses_eq]
  obtain hsame | ⟨raw, hraw, hpaths, hpackages⟩ := compileAs_packagesAsPaths config
  · rw [hsame]
    cases hf : config.compileAs Filter.packageForm with
    | error e => exact .error (Or.inl rfl)
    | ok f => exact .ok ⟨rfl, accepts_fold hf⟩
  · rw [hpaths, hpackages]
    exact .error (Or.inr ⟨raw, hraw, rfl, rfl⟩)

end Config

namespace ResourceIndex

variable {d : Disk} {chain : Chain} {config : Config} {i j : ResourceIndex}

/-- An index is what is left of another one: its roots are what is left of the other's, in their
order, and its resources those that are found by the pattern. -/
structure Restricts (p : Pattern) (i j : ResourceIndex) : Prop where
  roots : j.roots = i.roots.filterMap (Root.restrict? p)
  all : j.all = i.findPattern p

/-- An index is restricted if its roots are. -/
theorem restricts_of_roots (h : j.roots = i.roots.filterMap (Root.restrict? p)) :
    i.Restricts p j where
  roots := h
  all := by
    unfold all findPattern find
    rw [h, Root.flatMap_resources_restrict, List.filter_true]

/-- An index for a narrower filter is what is left of the one for the wider filter. -/
theorem build_restrict (h : f.Narrows p g) :
    Corresponds Eq (Restricts p) (build d chain f) (build d chain g) := by
  refine Corresponds.bind (Corresponds.of_eq_map (Root.discover_restrict h) fun _ => rfl) ?_
  rintro roots _ rfl
  exact .ok (restricts_of_roots rfl)

/-- **Filtering during a scan is filtering afterwards.** A scan with a pattern more succeeds if the
scan without it does, and fails as it does otherwise; its roots are those of the scan without it,
each with the names that match and without those that have none, in order, and its resources are
those that are found by the pattern.

In the same way a scan for class files is what is left of the scan for the patterns and for the
paths of the packages, whether or not the pattern of class files is among the patterns. -/
theorem restricts_of_pattern (d : Disk) (chain : Chain) (config : Config) :
    (∀ source p, Pattern.compile source = .ok p →
      Corresponds Eq (Restricts p) (ofResources d chain config)
        (ofResources d chain (config.addPattern source))) ∧
      Corresponds config.ClimbAlike (Restricts .classFiles)
        (ofResources d chain config.packagesAsPaths) (ofClasses d chain config) := by
  constructor
  · intro source p hp
    exact (Config.compileResources_addPattern hp).bind fun f g h => build_restrict h
  · refine (Config.compileClasses_packagesAsPaths config).bind fun f g h => ?_
    exact (build_restrict h).imp fun e e' he => Or.inl he.symm

/-- A disk with a class file in a directory and a text in an archive. -/
def textDisk : Disk where
  entries := [(["c"], .directory), (["c", "A.class"], .file 0), (["b.jar"], .file 1)]
  contents := [[], Archive.pack [("b.txt", [])]]

/-- A loader for an archive and a directory. -/
def textLoader : Chain := ⟨⟨⟨1⟩, "app", [Url.ofPath "/b.jar", Url.ofPath "/c"]⟩, []⟩

/-- With the pattern of class files, one of two roots remains. -/
theorem restricts_of_pattern_classFiles :
    Pattern.compile Pattern.classFileSource = .ok .classFiles ∧
      ∃ i j, ofResources textDisk textLoader {} = .ok i ∧
        ofResources textDisk textLoader (Config.addPattern {} Pattern.classFileSource) = .ok j ∧
        i.roots.map (·.resources) = [["b.txt"], ["A.class"]] ∧
        i.Restricts .classFiles j ∧ j.all = ["A.class"] := by
  have hi : (ofResources textDisk textLoader {}).toOption.map (·.roots.map (·.resources)) =
      some [["b.txt"], ["A.class"]] := by decide +kernel
  obtain ⟨i, hi, hroots⟩ := Option.map_eq_some_iff.mp hi
  rw [toOption_eq_some_iff] at hi
  have hmatch : Pattern.classFiles.isMatch "A.class" = true ∧
      Pattern.classFiles.isMatch "b.txt" = false := by decide +kernel
  have hfound : i.findPattern .classFiles = ["A.class"] := by
    unfold findPattern find
    rw [List.flatMap_def, hroots]
    simp [hmatch, Text.sortedDistinct, Text.dropRepeats]
  obtain ⟨j, hj, h⟩ := ((restricts_of_pattern textDisk textLoader {}).1 _ _
    Pattern.compile_classFileSource).exists_of_ok hi
  exact ⟨Pattern.compile_classFileSource, i, j, hi, hj, hroots, h, h.all.trans hfound⟩

end ResourceIndex

end Classpath
