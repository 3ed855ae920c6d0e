import Classpath.Proofs.Entries
import Classpath.Proofs.Prefixes
import Classpath.Proofs.WalkContent

/-!
# What the Root of a Directory Holds

A directory is not walked as a whole when there are prefixes: the walk for a prefix begins at
the directory that stands in front of its last slash. Nothing is lost by this, since every
admitted name begins with a prefix, and nothing is added, since what is found is tested like
anything else.

A prefix may pass through empty segments and dots, which no name of a resource does. Such a
prefix admits nothing, but it is walked for, and from there all paths are longer: so a scan may
fail at a path that is too long to be looked up where a walk of the whole directory does not.
This is the only way in which prefixes make a scan fail (`Root.directoryNames_of_walk`). A file
needs no lookup to be listed, so it is listed even if its own path is too long, and cannot be
opened then.

## Main results

* `Root.namesFile_of_mem_directoryNames`, `Root.isFile_join_iff`: what is found in a directory.
* `Root.directoryNames_of_walk`: prefixes against a walk of the whole directory.
* `Root.directory_holds_admitted`: what the root of a directory holds.
* `Root.directory_long_paths`: paths that are too long.
-/

open Classpath.Path (IsName IsFileName)

namespace Classpath

namespace Root

variable {d : Disk} {directory place : String} {f : Filter} {name : String}
  {names files : List String}

/-! ### Where walks begin -/

/-- Of a prefix, what stands in front of the last slash is made of names. -/
def Plain (start : String) : Prop := ∀ s ∈ (Text.split '/' start).dropLast, s ≠ "" ∧ s ≠ "."

/-- A walk for a directory may begin at a place: names below the directory lead to it, though
its path may be another one. -/
structure Begins (d : Disk) (directory : String) (names : List String) (place : String) :
    Prop where
  isName : ∀ s ∈ names, IsName s
  no_nul : ∀ s ∈ names, '\x00' ∉ s.toList
  isDirectory : ∃ loc, d.stat place = .ok ⟨loc, .directory⟩
  same : d.SameBelow place (names.foldl Path.join directory)
  components : Path.components place = Path.components directory ++ names

/-- The segments of a path below another one, name by name. -/
theorem resolve_foldl_join {followLast : Bool} {names ys : List String} {base : String}
    (hbase : base ≠ "") (hnames : ∀ s ∈ names, IsName s) :
    d.resolve followLast Disk.linkLimit (d.start (names.foldl Path.join base))
        (Text.split '/' (names.foldl Path.join base) ++ ys) =
      d.resolve followLast Disk.linkLimit (d.start base)
        (Text.split '/' base ++ (names ++ ys)) := by
  by_cases hnil : names = []
  · rw [hnil]
    rfl
  · have hrel := Path.relative_join_names hnames
    rw [Path.foldl_join hnil hnames, Disk.start_join hbase hrel, Path.split_join hbase hrel,
      Text.split_join hnil fun s hs => (hnames s hs).no_slash, List.append_assoc,
      Disk.resolve_trunk base (by simp [hnil])]

theorem begins_self {loc : Location} (h : d.stat directory = .ok ⟨loc, .directory⟩) :
    Begins d directory [] directory where
  isName := by simp
  no_nul := by simp
  isDirectory := ⟨loc, h⟩
  same := fun _ _ _ => rfl
  components := (List.append_nil _).symm

/-- A place below the directory, by a part of a prefix. -/
theorem begins_join {part : String} (hdirectory : directory ≠ "")
    (hpart : Path.isAbsolute part = false) (hclimbs : ".." ∉ Text.split '/' part)
    {loc : Location} (h : d.stat (Path.join directory part) = .ok ⟨loc, .directory⟩) :
    Begins d directory (Path.names part) (Path.join directory part) := by
  have hnames : ∀ s ∈ Path.names part, IsName s :=
    fun s hs => Path.isName_of_mem_names hclimbs hs
  refine ⟨hnames, fun s hs hnul => ?_, ⟨loc, h⟩, fun followLast ys hys => ?_,
    Path.components_join hdirectory hpart⟩
  · -- the part is the end of a path that can be looked up
    obtain ⟨front, hfront⟩ := Path.exists_join_eq directory
    have husable := (Disk.stat_eq_ok_iff.mp h).1.no_nul
    rw [hfront part hpart, String.toList_append] at husable
    obtain ⟨cs, hcs, rfl⟩ := List.mem_map.mp (List.mem_filter.mp hs).1
    rw [String.toList_ofList] at hnul
    exact husable (List.mem_append_right _ (Text.mem_of_mem_pieces hcs hnul))
  · rw [resolve_foldl_join hdirectory hnames, Disk.start_join hdirectory hpart,
      Path.split_join hdirectory hpart, Disk.resolve_filter _ _ hys, List.append_assoc,
      Disk.resolve_trunk directory (by simp [hys])]
    rfl

/-- The part of a prefix in front of its last slash has the segments in front of the last one. -/
theorem split_of_directoryPart? {start part : String} (h : directoryPart? start = some part) :
    Text.split '/' part = (Text.split '/' start).dropLast := by
  unfold directoryPart? at h
  rcases hsplit : Text.split '/' start with _ | ⟨s, _ | ⟨t, rest⟩⟩
  · exact absurd hsplit (Text.split_ne_nil '/' start)
  · rw [hsplit] at h
    cases h
  · rw [hsplit] at h
    rw [← Option.some.inj h]
    refine Text.split_join (by simp) fun s' hs' => ?_
    exact Text.sep_notMem_of_mem_split (hsplit ▸ List.dropLast_subset _ hs')

/-- The part of a relative prefix is relative. -/
theorem relative_of_directoryPart? {start part : String} (h : directoryPart? start = some part)
    (hstart : Path.isAbsolute start = false) : Path.isAbsolute part = false := by
  rw [← Text.join_split part, split_of_directoryPart? h]
  exact Path.relative_join_dropLast hstart

/-- Where the walk for a prefix begins: at the directory, or at a path below it. -/
theorem walkStart?_eq_some {start : String} (h : walkStart? d directory start = some place) :
    Filter.climbs start = false ∧ d.isDirectory place = true ∧
      (place = directory ∨
        ∃ part, directoryPart? start = some part ∧ place = Path.join directory part) := by
  unfold walkStart? at h
  rw [Option.ite_none_left_eq_some] at h
  obtain ⟨hclimbs, h⟩ := h
  obtain ⟨hplace, h⟩ := Option.ite_none_right_eq_some.mp h
  obtain rfl := Option.some.inj h
  refine ⟨Bool.eq_false_iff.mpr hclimbs, hplace, ?_⟩
  cases hpart : directoryPart? start with
  | none => exact Or.inl rfl
  | some part => exact Or.inr ⟨part, rfl, rfl⟩

/-- The part of a prefix that does not climb does not climb either. -/
theorem not_climbs_of_directoryPart? {start part : String} (h : directoryPart? start = some part)
    (hclimbs : Filter.climbs start = false) : ".." ∉ Text.split '/' part := by
  rw [split_of_directoryPart? h]
  intro hmem
  have hup : Filter.climbs start = true := List.contains_iff_mem.mpr (List.dropLast_subset _ hmem)
  rw [hclimbs] at hup
  cases hup

/-- **Where the walk for a prefix begins.** If the prefix is made of names, the path is the one
that these lead along. -/
theorem begins_of_walkStart? {start : String} (hdirectory : directory ≠ "")
    {loc : Location} (hstat : d.stat directory = .ok ⟨loc, .directory⟩)
    (hstart : Path.isAbsolute start = false) (h : walkStart? d directory start = some place) :
    ∃ names, Begins d directory names place ∧
      (Plain start → place = names.foldl Path.join directory) := by
  obtain ⟨hclimbs, hplace, rfl | ⟨part, hpart, rfl⟩⟩ := walkStart?_eq_some h
  · exact ⟨[], begins_self hstat, fun _ => rfl⟩
  · have hsplit := split_of_directoryPart? hpart
    have hrelative := relative_of_directoryPart? hpart hstart
    obtain ⟨loc', hdir⟩ := Disk.isDirectory_eq_true_iff.mp hplace
    have hbegins :=
      begins_join hdirectory hrelative (not_climbs_of_directoryPart? hpart hclimbs) hdir
    refine ⟨_, hbegins, fun hplain => ?_⟩
    have hnames : Path.names part = Text.split '/' part :=
      Path.names_eq_split fun s hs => hplain s (hsplit ▸ hs)
    have hisName := hbegins.isName
    rw [hnames] at hisName ⊢
    rw [Path.foldl_join (Text.split_ne_nil '/' part) hisName, Text.join_split]

/-- A walk without prefixes begins at the directory, and so does one for a prefix without
slashes. -/
theorem begins_of_mem_walkStarts {prefixes : List String} (hdirectory : directory ≠ "")
    {loc : Location} (hstat : d.stat directory = .ok ⟨loc, .directory⟩)
    (hprefixes : ∀ start ∈ prefixes, Path.isAbsolute start = false)
    (h : place ∈ walkStarts d directory prefixes) :
    ∃ names, Begins d directory names place ∧
      ((∀ start ∈ prefixes, Plain start) → place = names.foldl Path.join directory) := by
  obtain ⟨-, rfl⟩ | ⟨start, hmem, h⟩ := mem_walkStarts_iff.mp h
  · exact ⟨[], begins_self hstat, fun _ => rfl⟩
  · obtain ⟨names, hbegins, hplain⟩ :=
      begins_of_walkStart? hdirectory hstat (hprefixes start hmem) h
    exact ⟨names, hbegins, fun hall => hplain (hall start hmem)⟩

/-! ### What is found -/

/-- The place where a walk begins has a path that is not empty. -/
theorem Begins.ne_empty (h : Begins d directory names place) : place ≠ "" := by
  obtain ⟨loc, hstat⟩ := h.isDirectory
  exact (Disk.stat_eq_ok_iff.mp hstat).1.ne_empty

/-- Names below the place where a walk begins lead where they do below the directory. -/
theorem Begins.leads_foldl (hdirectory : directory ≠ "") (h : Begins d directory names place)
    {more : List String} (hne : more ≠ []) (hmore : ∀ s ∈ more, IsName s) :
    d.leads (more.foldl Path.join place) = d.leads ((names ++ more).foldl Path.join directory) := by
  have hrel := Path.relative_join_names hmore
  rw [List.foldl_append, Path.foldl_join hne hmore, Path.foldl_join hne hmore,
    Disk.leads_join_eq h.ne_empty hrel,
    Disk.leads_join_eq (Path.foldl_join_ne_empty hdirectory h.isName) hrel]
  exact h.same true _ (Text.split_ne_nil '/' _)

/-- The name of what stands below the place where a walk begins. -/
theorem Begins.resourceName?_foldl (h : Begins d directory names place) {more : List String}
    (hne : more ≠ []) (hmore : ∀ s ∈ more, IsName s) :
    resourceName? directory (more.foldl Path.join place) =
      some (Text.join "/" (names ++ more)) := by
  have hcomponents : Path.components (more.foldl Path.join place) =
      Path.components directory ++ (names ++ more) := by
    rw [Path.components_foldl_join h.ne_empty hmore, h.components, List.append_assoc]
  unfold resourceName? Path.relativeTo?
  dsimp only
  rw [hcomponents, if_pos (List.isPrefixOf_iff_prefix.mpr ⟨_, rfl⟩), List.drop_left]
  obtain ⟨s, l, hcons⟩ := List.exists_cons_of_ne_nil (List.append_ne_nil_of_right_ne_nil names hne)
  rw [hcons]

/-- Names that a file of a disk may have, which lead to one below a directory. -/
structure NamesFile (d : Disk) (directory name : String) : Prop where
  isName : ∀ s ∈ Text.split '/' name, IsName s
  no_nul : ∀ s ∈ Text.split '/' name, '\x00' ∉ s.toList
  leads : ∃ loc id, d.leads (Path.join directory name) = .ok ⟨loc, .file id⟩

/-- **What a walk yields for a directory** are names of files below it. -/
theorem Begins.namesFile (hd : d.Sound) (hdirectory : directory ≠ "")
    (h : Begins d directory names place) (hwalk : d.walk place = .ok files) {file : String}
    (hfile : file ∈ files) (hname : resourceName? directory file = some name) :
    NamesFile d directory name := by
  obtain ⟨loc, hstat⟩ := h.isDirectory
  have hplace := (Disk.stat_eq_ok_iff.mp hstat).2
  obtain ⟨more, hmore, rfl, loc', id, hleads⟩ :=
    Disk.exists_names_of_mem_walk hd hplace hwalk hfile
  have hne : more ≠ [] := by
    rintro rfl
    rw [List.foldl_nil, hplace] at hleads
    cases hleads
  have hmoreNames : ∀ s ∈ more, IsName s := fun s hs => (hmore s hs).toIsName
  have hall : ∀ s ∈ names ++ more, IsName s :=
    List.forall_mem_append.mpr ⟨h.isName, hmoreNames⟩
  have hallne := List.append_ne_nil_of_right_ne_nil names hne
  rw [h.resourceName?_foldl hne hmoreNames] at hname
  have hsplit : Text.split '/' name = names ++ more := by
    rw [← Option.some.inj hname, Text.split_join hallne fun s hs => (hall s hs).no_slash]
  refine ⟨hsplit ▸ hall, ?_, loc', id, ?_⟩
  · rw [hsplit]
    exact List.forall_mem_append.mpr ⟨h.no_nul, fun s hs => (hmore s hs).no_nul⟩
  · rw [Path.join_eq_foldl (hsplit ▸ hall), hsplit, ← h.leads_foldl hdirectory hne hmoreNames]
    exact hleads

/-- **What is found in a directory** are admitted names of files below it. -/
theorem namesFile_of_mem_directoryNames (hd : d.Sound)
    {loc : Location} (hstat : d.stat directory = .ok ⟨loc, .directory⟩)
    (hprefixes : ∀ start ∈ f.prefixes, Path.isAbsolute start = false)
    (hnames : directoryNames d directory f = .ok names) (hmem : name ∈ names) :
    NamesFile d directory name ∧ f.accepts name = true := by
  have hdirectory : directory ≠ "" := (Disk.stat_eq_ok_iff.mp hstat).1.ne_empty
  obtain ⟨haccepts, place, hplace, files, hwalk, file, hfile, hname⟩ :=
    (mem_directoryNames_iff hnames).mp hmem
  obtain ⟨_, hbegins, -⟩ := begins_of_mem_walkStarts hdirectory hstat hprefixes hplace
  exact ⟨hbegins.namesFile hd hdirectory hwalk hfile hname, haccepts⟩

/-- A name of a file leads to one that can be looked up, if its path is not too long. -/
theorem NamesFile.isFile (h : NamesFile d directory name) (hdirectory : Disk.Usable directory)
    (hshort : (Path.join directory name).utf8ByteSize < Disk.pathLimit) :
    d.isFile (Path.join directory name) = true := by
  obtain ⟨loc, id, hleads⟩ := h.leads
  rw [Disk.isFile_eq_true_iff]
  refine ⟨loc, id, Disk.stat_eq_ok_iff.mpr ⟨⟨?_, ?_, hshort⟩, hleads⟩⟩
  · rw [Path.join_eq_foldl h.isName]
    exact Path.notMem_foldl_join (by decide) hdirectory.no_nul h.no_nul
  · rw [Path.join_eq_foldl h.isName]
    exact Path.foldl_join_ne_empty hdirectory.ne_empty h.isName

/-- **Which files can be looked up**: those that are found, unless their paths are too long. -/
theorem isFile_join_iff (hd : d.Sound) {loc : Location}
    (hstat : d.stat directory = .ok ⟨loc, .directory⟩)
    (hprefixes : ∀ start ∈ f.prefixes,
      Filter.climbs start = false ∧ Path.isAbsolute start = false)
    (hnames : directoryNames d directory f = .ok names)
    (hisName : ∀ s ∈ Text.split '/' name, IsName s) (haccepts : f.accepts name = true) :
    d.isFile (Path.join directory name) = true ↔
      name ∈ names ∧ (Path.join directory name).utf8ByteSize < Disk.pathLimit := by
  have husable := (Disk.stat_eq_ok_iff.mp hstat).1
  constructor
  · intro hfile
    obtain ⟨loc', id, hfile⟩ := Disk.isFile_eq_true_iff.mp hfile
    obtain ⟨hpath, hleads⟩ := Disk.stat_eq_ok_iff.mp hfile
    exact ⟨mem_directoryNames hnames (fun start hstart => (hprefixes start hstart).1)
      husable.ne_empty hisName haccepts (WayUsable.of_usable husable.ne_empty hisName hpath)
      hleads, hpath.short⟩
  · rintro ⟨hmem, hshort⟩
    exact (namesFile_of_mem_directoryNames hd hstat (fun start hstart => (hprefixes start hstart).2)
      hnames hmem).1.isFile husable hshort

/-! ### Prefixes against a walk of the whole directory -/

/-- A walk of the whole directory looks up the directories on the way to every file. -/
theorem wayUsable_of_walk (hdirectory : directory ≠ "") (hwalk : d.walk directory = .ok files)
    (hname : NamesFile d directory name) : WayUsable directory name := by
  intro front rest hsplit hrest
  obtain ⟨loc, id, hleads⟩ := hname.leads
  have hisName := hname.isName
  rw [Path.join_eq_foldl hisName, hsplit, List.foldl_append] at hleads
  rw [hsplit, List.forall_mem_append] at hisName
  obtain ⟨s, rest, rfl⟩ := List.exists_cons_of_ne_nil hrest
  obtain ⟨loc', -, hfront, -⟩ :=
    Disk.exists_child (Path.foldl_join_ne_empty hdirectory hisName.1) hisName.2 hleads
  exact Disk.usable_of_walk hdirectory hwalk hisName.1 hfront

/-- **Prefixes against a walk of the whole directory.** If that walk succeeds, what is found for
prefixes are the admitted names that it yields, unless a prefix is not plain and a path gets
too long. -/
theorem directoryNames_of_walk (hd : d.Sound) {loc : Location}
    (hstat : d.stat directory = .ok ⟨loc, .directory⟩)
    (hprefixes : ∀ start ∈ f.prefixes,
      Filter.climbs start = false ∧ Path.isAbsolute start = false)
    (hwalk : d.walk directory = .ok files) :
    (∃ names, directoryNames d directory f = .ok names ∧ ∀ name, name ∈ names ↔
      f.accepts name = true ∧ ∃ file ∈ files, resourceName? directory file = some name) ∨
    (∃ start ∈ f.prefixes, ¬Plain start) ∧
      ∃ path, directoryNames d directory f = .error (.entry path .nameTooLong) ∧
        Disk.pathLimit ≤ path.utf8ByteSize := by
  have hdirectory : directory ≠ "" := (Disk.stat_eq_ok_iff.mp hstat).1.ne_empty
  have hrelative := fun start hstart => (hprefixes start hstart).2
  have hwalks : Disk.UnlessTooLong (∀ start ∈ f.prefixes, Plain start)
      ((walkStarts d directory f.prefixes).mapM d.walk) := by
    refine Disk.UnlessTooLong.mapM fun place hplace => ?_
    obtain ⟨_, hbegins, hplain⟩ := begins_of_mem_walkStarts hdirectory hstat hrelative hplace
    obtain ⟨loc', hplace⟩ := hbegins.isDirectory
    exact Disk.walk_again hd hdirectory hwalk hbegins.isName hplace hbegins.same hplain
  have hnames : Disk.UnlessTooLong (∀ start ∈ f.prefixes, Plain start)
      (directoryNames d directory f) := hwalks.bind fun _ _ => Or.inl ⟨_, rfl⟩
  obtain ⟨names, hnames⟩ | ⟨hplain, htoolong⟩ := hnames
  · refine Or.inl ⟨names, hnames, fun name => ⟨fun hmem => ?_, ?_⟩⟩
    · obtain ⟨hname, haccepts⟩ :=
        namesFile_of_mem_directoryNames hd hstat hrelative hnames hmem
      obtain ⟨loc', id, hleads⟩ := hname.leads
      refine ⟨haccepts, _, ?_, resourceName?_join hdirectory hname.isName⟩
      rw [Path.join_eq_foldl hname.isName] at hleads ⊢
      exact Disk.mem_walk hdirectory hwalk hname.isName hleads
    · rintro ⟨haccepts, file, hfile, hname⟩
      have hname := (begins_self hstat).namesFile hd hdirectory hwalk hfile hname
      obtain ⟨loc', id, hleads⟩ := hname.leads
      exact mem_directoryNames hnames (fun start hstart => (hprefixes start hstart).1) hdirectory
        hname.isName haccepts (wayUsable_of_walk hdirectory hwalk hname) hleads
  · right
    simp only [not_forall, exists_prop] at hplain
    exact ⟨hplain, htoolong⟩

/-! ### The root -/

/-- The root of a directory holds what is found in it. -/
theorem ofDirectory?_spec {c : Chain} (h : directoryNames d directory f = .ok names) :
    ∃ root?, ofDirectory? d c directory f = .ok root? ∧
      ∀ name, (∃ r ∈ root?, r.has name = true) ↔ name ∈ names := by
  refine ⟨if names.isEmpty then none else some ⟨c, directory, .directory, names⟩, ?_,
    fun name => exists_has_iff rfl rfl⟩
  unfold ofDirectory?
  rw [h]
  rfl

/-- A walk that fails is what the scan of the directory fails with. -/
theorem ofDirectory?_error {c : Chain} {e : WalkError}
    (h : directoryNames d directory f = .error e) :
    ofDirectory? d c directory f = .error (.walk e) := by
  unfold ofDirectory?
  rw [h]
  rfl

/-- If the scan of a directory succeeds, so do the walks that it consists of. -/
theorem exists_directoryNames {c : Chain} {root? : Option Root}
    (h : ofDirectory? d c directory f = .ok root?) :
    ∃ names, directoryNames d directory f = .ok names := by
  obtain ⟨names, hnames, -⟩ := bind_eq_ok_iff.mp h
  exact ⟨names, mapError_eq_ok_iff.mp hnames⟩

/-- **What the root of a directory holds.** A scan that succeeds yields a root, if any, with the
admitted names of the files below the directory: those that can be looked up, and no others but
ones whose path is too long for that. If a walk of the whole directory succeeds, so does the
scan, with the admitted names that the walk yields, unless a prefix passes through an empty
segment or a dot and a path gets too long. -/
theorem directory_holds_admitted (hd : d.Sound) (hdirectory : d.isDirectory directory = true)
    {config : Config} (hf : config.compileResources = .ok f ∨ config.compileClasses = .ok f)
    (c : Chain) :
    (∀ root?, ofDirectory? d c directory f = .ok root? → ∀ name,
      ((∀ s ∈ Text.split '/' name, s ≠ "" ∧ s ≠ "." ∧ s ≠ "..") ∧
          d.isFile (Path.join directory name) = true ∧ f.accepts name = true →
        ∃ r ∈ root?, r.has name = true) ∧
      ((∃ r ∈ root?, r.has name = true) →
        (∀ s ∈ Text.split '/' name, s ≠ "" ∧ s ≠ "." ∧ s ≠ "..") ∧
          (d.isFile (Path.join directory name) = true ∨
            Disk.pathLimit ≤ (Path.join directory name).utf8ByteSize ∧
              ∃ loc id, d.leads (Path.join directory name) = .ok ⟨loc, .file id⟩) ∧
          f.accepts name = true)) ∧
    ∀ files, d.walk directory = .ok files →
      (∃ root?, ofDirectory? d c directory f = .ok root? ∧ ∀ name,
        (∃ r ∈ root?, r.has name = true) ↔
          f.accepts name = true ∧ ∃ file ∈ files, resourceName? directory file = some name) ∨
      (∃ start ∈ f.prefixes, ¬Plain start) ∧
        ∃ path, ofDirectory? d c directory f = .error (.walk (.entry path .nameTooLong)) ∧
          Disk.pathLimit ≤ path.utf8ByteSize := by
  obtain ⟨loc, hstat⟩ := Disk.isDirectory_eq_true_iff.mp hdirectory
  have husable := (Disk.stat_eq_ok_iff.mp hstat).1
  have hprefixes := Config.prefixes_spec hf
  constructor
  · intro root? hroot name
    obtain ⟨names, hnames⟩ := exists_directoryNames hroot
    obtain ⟨root?', hroot', hmem⟩ := ofDirectory?_spec (c := c) hnames
    obtain rfl : root? = root?' := Except.ok.inj (hroot.symm.trans hroot')
    rw [hmem]
    constructor
    · rintro ⟨hplain, hfile, haccepts⟩
      have hisName : ∀ s ∈ Text.split '/' name, IsName s := fun s hs =>
        have ⟨hempty, hdot, hdots⟩ := hplain s hs
        ⟨hempty, hdot, hdots, Text.sep_notMem_of_mem_split hs⟩
      exact ((isFile_join_iff hd hstat hprefixes hnames hisName haccepts).mp hfile).1
    · intro hmem
      obtain ⟨hname, haccepts⟩ := namesFile_of_mem_directoryNames hd hstat
        (fun start hstart => (hprefixes start hstart).2) hnames hmem
      refine ⟨fun s hs => ?_, ?_, haccepts⟩
      · exact ⟨(hname.isName s hs).ne_empty, (hname.isName s hs).ne_dot,
          (hname.isName s hs).ne_dots⟩
      · by_cases hshort : (Path.join directory name).utf8ByteSize < Disk.pathLimit
        · exact Or.inl (hname.isFile husable hshort)
        · exact Or.inr ⟨Nat.le_of_not_lt hshort, hname.leads⟩
  · intro files hwalk
    obtain ⟨names, hnames, hiff⟩ | ⟨hplain, path, herror, hlong⟩ :=
      directoryNames_of_walk hd hstat hprefixes hwalk
    · obtain ⟨root?, hroot, hmem⟩ := ofDirectory?_spec (c := c) hnames
      exact Or.inl ⟨root?, hroot, fun name => (hmem name).trans (hiff name)⟩
    · exact Or.inr ⟨hplain, path, ofDirectory?_error herror, hlong⟩

/-- A directory with a link to another one. -/
def linkedDisk : Disk where
  entries := [(["c"], .directory), (["c", "net"], .link "/com"), (["com"], .directory),
    (["com", "A.txt"], .file 0)]
  contents := [[]]

/-- A scan for a prefix that leads through the link. -/
theorem directory_holds_admitted_linked :
    linkedDisk.Sound ∧ linkedDisk.isDirectory "/c" = true ∧
      Config.compileResources ⟨["net/A"], []⟩ = .ok ⟨["net/A"], []⟩ ∧
      ∃ root?, ofDirectory? linkedDisk ⟨⟨⟨1⟩, "app", []⟩, []⟩ "/c" ⟨["net/A"], []⟩ = .ok root? ∧
        ∀ name, (∃ r ∈ root?, r.has name = true) ↔ name = "net/A.txt" := by
  have hsound : linkedDisk.Sound := by decide +kernel
  have hdirectory : linkedDisk.isDirectory "/c" = true := by decide +kernel
  have hf : Config.compileResources ⟨["net/A"], []⟩ = .ok ⟨["net/A"], []⟩ := by rfl
  have hwalk : (linkedDisk.walk "/c").toOption = some ["/c/net/A.txt"] := by decide +kernel
  have hname : resourceName? "/c" "/c/net/A.txt" = some "net/A.txt" := by decide +kernel
  have haccepts : Filter.accepts ⟨["net/A"], []⟩ "net/A.txt" = true := by decide
  have hplain : ¬∃ start ∈ ["net/A"], ¬Plain start := by
    simp only [List.mem_singleton, exists_eq_left, not_not]
    unfold Plain
    decide +kernel
  obtain ⟨-, hscan⟩ := directory_holds_admitted hsound hdirectory (Or.inl hf)
    ⟨⟨⟨1⟩, "app", []⟩, []⟩
  obtain ⟨root?, hroot, hholds⟩ | ⟨hnot, -⟩ := hscan _ (toOption_eq_some_iff.mp hwalk)
  · refine ⟨hsound, hdirectory, hf, root?, hroot, fun name => (hholds name).trans ?_⟩
    simp only [List.mem_singleton, exists_eq_left, hname]
    constructor
    · rintro ⟨-, h⟩
      exact (Option.some.inj h).symm
    · rintro rfl
      exact ⟨haccepts, rfl⟩
  · exact absurd hnot hplain

/-! ### Paths that are too long -/

/-- So many dots, one below the other. -/
def dots (k : Nat) : String := Text.join "/" (List.replicate k ".")

/-- The segments of a path of dots are the dots. -/
theorem split_dots (k : Nat) : Text.split '/' (dots (k + 1)) = List.replicate (k + 1) "." :=
  Text.split_join (by simp) fun s hs => by
    rw [List.eq_of_mem_replicate hs]
    decide

/-- How many bytes such a path takes: one for each dot, and one for each slash between two of them.
-/
theorem size_dots (k : Nat) : (dots (k + 1)).utf8ByteSize = 2 * k + 1 := by
  induction k with
  | zero => decide
  | succ k ih =>
      have hdot : ".".utf8ByteSize = 1 := by decide
      have hslash : "/".utf8ByteSize = 1 := by decide
      unfold dots at ih ⊢
      rw [List.replicate_succ, Text.join_cons (by simp), String.utf8ByteSize_append,
        String.utf8ByteSize_append, ih, hdot, hslash]
      omega

theorem relative_dots (k : Nat) : Path.isAbsolute (dots (k + 1)) = false := by
  unfold dots
  cases k with
  | zero => decide
  | succ k =>
      rw [List.replicate_succ, Text.join_cons (by simp), String.append_assoc,
        Path.isAbsolute_append (by decide)]
      decide

/-- It holds dots and slashes, and no other character. -/
theorem notMem_dots {x : Char} (hdot : x ≠ '.') (hslash : x ≠ '/') (k : Nat) :
    x ∉ (dots (k + 1)).toList := by
  have hd : ".".toList = ['.'] := by decide
  have hs : "/".toList = ['/'] := by decide
  unfold dots
  induction k with
  | zero =>
      show x ∉ ".".toList
      simp [hd, hdot]
  | succ k ih =>
      rw [List.replicate_succ, Text.join_cons (by simp), String.toList_append,
        String.toList_append, hd, hs]
      simp [hdot, hslash, ih]

/-- Dots at the end of a path lead nowhere else. -/
theorem leads_dots {base : String} {loc : Location} (hbase : base ≠ "")
    (h : d.leads base = .ok ⟨loc, .directory⟩) (k : Nat) :
    d.leads (Path.join base (dots (k + 1))) = .ok ⟨loc, .directory⟩ := by
  obtain ⟨links, hbelow⟩ := Disk.leads_below hbase h
  rw [hbelow _ (relative_dots k), split_dots]
  generalize k + 1 = n
  induction n with
  | zero => exact Disk.resolve_nil
  | succ n ih =>
      rw [List.replicate_succ, Disk.resolve_cons, if_pos (by simp)]
      exact ih

theorem dots_ne_empty (k : Nat) : dots (k + 1) ≠ "" := by
  intro hempty
  have hsize := size_dots k
  rw [hempty] at hsize
  cases hsize

/-- There is no room for a name behind a path that can just be looked up. -/
theorem pathLimit_le_join {base s : String} (hsize : base.utf8ByteSize = 4095)
    (hbase : base ≠ "") (hs : IsName s) :
    Disk.pathLimit ≤ (Path.join base s).utf8ByteSize := by
  have hpos : 0 < s.utf8ByteSize :=
    Nat.pos_of_ne_zero fun h => hs.ne_empty (String.utf8ByteSize_eq_zero_iff.mp h)
  have hlong := Path.size_le_size_join hbase hs.relative
  have hlimit : Disk.pathLimit = 4096 := rfl
  omega

/-- A directory by a path with dots at its end. -/
theorem stat_dots {base : String} {loc : Location} {k : Nat}
    (hstat : d.stat base = .ok ⟨loc, .directory⟩) (hends : Text.endsWith base "/" = false)
    (hsize : base.utf8ByteSize + 2 * k + 2 < Disk.pathLimit) :
    d.stat (Path.join base (dots (k + 1))) = .ok ⟨loc, .directory⟩ := by
  obtain ⟨husable, hleads⟩ := Disk.stat_eq_ok_iff.mp hstat
  refine Disk.stat_eq_ok_iff.mpr ⟨⟨?_, ?_, ?_⟩, leads_dots husable.ne_empty hleads k⟩
  · exact Path.notMem_join (by decide) husable.no_nul (notMem_dots (by decide) (by decide) k)
  · obtain ⟨front, hfront⟩ := Path.exists_join_eq base
    rw [hfront _ (relative_dots k)]
    exact fun hempty => dots_ne_empty k (String.append_eq_empty_iff.mp hempty).2
  · rw [Path.size_join husable.ne_empty hends (relative_dots k), size_dots]
    omega

/-- A directory in a directory, and a file in it. -/
def deepDisk : Disk where
  entries := [(["dd"], .directory), (["dd", "s"], .directory), (["dd", "s", "A.class"], .file 0)]
  contents := [[]]

theorem deepDisk_sound : deepDisk.Sound := by decide +kernel

/-- A prefix that passes through dots. -/
def dottedPrefix (k : Nat) : String := dots (k + 1) ++ "/" ++ "x"

/-- The segments of the prefix are the dots and what is behind the last slash. -/
theorem split_dottedPrefix (k : Nat) :
    Text.split '/' (dottedPrefix k) = List.replicate (k + 1) "." ++ ["x"] := by
  have hx : Text.split '/' "x" = ["x"] := by decide
  rw [dottedPrefix, Text.split_append_sep, split_dots, hx]

/-- The prefix does not climb, since single dots lead nowhere. -/
theorem climbs_dottedPrefix (k : Nat) : Filter.climbs (dottedPrefix k) = false := by
  unfold Filter.climbs
  rw [split_dottedPrefix, List.contains_eq_mem, decide_eq_false_iff_not, List.mem_append]
  rintro (hmem | hmem)
  · exact absurd (List.eq_of_mem_replicate hmem) (by decide)
  · exact absurd hmem (by decide)

/-- So a configuration with this prefix compiles, and the prefix stays what it is. -/
theorem compileResources_dottedPrefix (k : Nat) :
    Config.compileResources ⟨[dottedPrefix k], []⟩ = .ok ⟨[dottedPrefix k], []⟩ := by
  have hback : '\\' ∉ (dottedPrefix k).toList := by
    have hslash : "/".toList = ['/'] := by decide
    have hx : "x".toList = ['x'] := by decide
    have hdots := notMem_dots (x := '\\') (by decide) (by decide) k
    simp [dottedPrefix, String.toList_append, hslash, hx, hdots]
  have hrelative : Path.isAbsolute (dottedPrefix k) = false := by
    rw [dottedPrefix, String.append_assoc, Path.isAbsolute_append (dots_ne_empty k)]
    exact relative_dots k
  have hchecked : Config.checkedPrefix Filter.slashForm (dottedPrefix k) =
      .ok (dottedPrefix k) := Config.checkedPrefix_eq_ok_iff.mpr
    ⟨climbs_dottedPrefix k, (Filter.slashForm_eq hback hrelative).symm⟩
  unfold Config.compileResources
  rw [List.mapM_cons, hchecked]
  rfl

/-- Where the walk for the prefix begins. -/
theorem walkStart?_dottedPrefix {k : Nat} {loc : Location}
    (hstat : d.stat (Path.join directory (dots (k + 1))) = .ok ⟨loc, .directory⟩) :
    walkStart? d directory (dottedPrefix k) = some (Path.join directory (dots (k + 1))) := by
  have hpart : directoryPart? (dottedPrefix k) = some (dots (k + 1)) := by
    unfold directoryPart?
    rw [split_dottedPrefix, List.replicate_succ, List.cons_append]
    have hmore : List.replicate k "." ++ ["x"] ≠ [] := by simp
    obtain ⟨t, rest, hrest⟩ := List.exists_cons_of_ne_nil hmore
    rw [hrest]
    dsimp only
    rw [← hrest, ← List.cons_append, List.dropLast_concat, ← List.replicate_succ, dots]
  unfold walkStart?
  rw [if_neg (by simp [climbs_dottedPrefix]), hpart]
  exact if_pos (Disk.isDirectory_eq_true_iff.mpr ⟨loc, hstat⟩)

/-- A path of the inner directory, behind which there is room for no name. -/
def deepPath : String := Path.join "/dd/s" (dots (2044 + 1))

/-- This path leads to the inner directory. -/
theorem stat_deepPath : deepDisk.stat deepPath = .ok ⟨["dd", "s"], .directory⟩ := by
  have hbase : deepDisk.stat "/dd/s" = .ok ⟨["dd", "s"], .directory⟩ :=
    toOption_eq_some_iff.mp (by decide +kernel)
  have hlength : "/dd/s".utf8ByteSize = 5 := by decide
  exact stat_dots hbase (by decide) (by rw [hlength]; decide)

/-- It has a byte less than the longest path that is refused. -/
theorem size_deepPath : deepPath.utf8ByteSize = 4095 := by
  have hlength : "/dd/s".utf8ByteSize = 5 := by decide
  rw [deepPath, Path.size_join (by decide) (by decide) (relative_dots 2044), hlength, size_dots]

/-- The file in the inner directory is listed, and cannot be looked up. -/
theorem deepDisk_lists (c : Chain) :
    ∃ root?, ofDirectory? deepDisk c deepPath ⟨[], []⟩ = .ok root? ∧
      (∃ r ∈ root?, r.has "A.class" = true) ∧
      deepDisk.isFile (Path.join deepPath "A.class") = false := by
  have hstat := stat_deepPath
  have hsize := size_deepPath
  generalize deepPath = directory at hstat hsize ⊢
  have husable := (Disk.stat_eq_ok_iff.mp hstat).1
  have hf : ∀ s ∈ Text.split '/' "A.class", IsName s := by decide
  have hwalk : deepDisk.walk directory = .ok [Path.join directory "A.class"] := by
    obtain ⟨depth, hdepth, hwalk⟩ := Disk.walk_directory hstat
    have hchildren : deepDisk.childrenAt ["dd", "s"] = [("A.class", .file 0)] := by decide +kernel
    obtain rfl : 24 = depth := Nat.succ.inj hdepth
    rw [hwalk, Disk.entered_directory_iff]
    refine ⟨_, [[Path.join directory "A.class"]], hstat, ?_, rfl⟩
    rw [hchildren]
    rfl
  obtain ⟨names, hnames, hiff⟩ | ⟨⟨start, hmem, -⟩, -⟩ :=
    directoryNames_of_walk (f := ⟨[], []⟩) deepDisk_sound hstat (by simp) hwalk
  · obtain ⟨root?, hroot, hholds⟩ := ofDirectory?_spec (c := c) hnames
    refine ⟨root?, hroot, ?_, ?_⟩
    · rw [hholds, hiff]
      exact ⟨rfl, _, List.mem_cons_self, resourceName?_join husable.ne_empty hf⟩
    · rw [Bool.eq_false_iff]
      intro hfile
      obtain ⟨loc, id, hfile⟩ := Disk.isFile_eq_true_iff.mp hfile
      have hshort := (Disk.stat_eq_ok_iff.mp hfile).1.short
      exact absurd hshort (Nat.not_lt_of_le (pathLimit_le_join hsize husable.ne_empty (by decide)))
  · cases hmem

/-- The walk for the prefix comes to a directory whose path is too long. -/
theorem deepDisk_fails (c : Chain) {k : Nat} (hk : 2 * k = 4090) :
    ∃ path, ofDirectory? deepDisk c "/dd" ⟨[dottedPrefix k], []⟩ =
      .error (.walk (.entry path .nameTooLong)) := by
  have hbase : deepDisk.stat "/dd" = .ok ⟨["dd"], .directory⟩ :=
    toOption_eq_some_iff.mp (by decide +kernel)
  have hwalk : (deepDisk.walk "/dd").toOption = some ["/dd/s/A.class"] := by decide +kernel
  have hlength : "/dd".utf8ByteSize = 3 := by decide
  have hlimit : Disk.pathLimit = 4096 := rfl
  have hstat : deepDisk.stat (Path.join "/dd" (dots (k + 1))) = .ok ⟨["dd"], .directory⟩ :=
    stat_dots hbase (by decide) (by omega)
  have hsize : (Path.join "/dd" (dots (k + 1))).utf8ByteSize = 4095 := by
    rw [Path.size_join (by decide) (by decide) (relative_dots k), hlength, size_dots,
      ← Nat.add_assoc, hk]
  have hstart := walkStart?_dottedPrefix hstat
  have hprefixes := Config.prefixes_spec (Or.inl (compileResources_dottedPrefix k))
  generalize dottedPrefix k = start at hstart hprefixes ⊢
  generalize Path.join "/dd" (dots (k + 1)) = place at hstat hsize hstart
  obtain ⟨husable, hleads⟩ := Disk.stat_eq_ok_iff.mp hstat
  obtain ⟨names, hnames, -⟩ | ⟨-, path, herror, -⟩ :=
    directoryNames_of_walk deepDisk_sound hbase hprefixes (toOption_eq_some_iff.mp hwalk)
  · -- if it did not fail, the directory below the place would have been looked up
    exfalso
    obtain ⟨groups, hgroups, -⟩ := bind_eq_ok_iff.mp hnames
    have hmem : place ∈ walkStarts deepDisk "/dd" [start] := by
      unfold walkStarts
      rw [if_neg (by simp)]
      exact List.mem_filterMap.mpr ⟨start, List.mem_cons_self, hstart⟩
    obtain ⟨files, -, hplace⟩ := exists_mem_of_mapM hgroups hmem
    obtain ⟨links, hbelow⟩ := Disk.leads_below husable.ne_empty hleads
    have hs : IsName "s" := by decide
    have hdirectory : deepDisk.leads (["s"].foldl Path.join place) =
        .ok ⟨["dd", "s"], .directory⟩ := by
      have hentry : deepDisk.entry? (["dd"] ++ ["s"]) = some .directory := by decide
      rw [List.foldl_cons, List.foldl_nil, hbelow "s" hs.relative,
        Text.split_eq_singleton hs.no_slash, Disk.resolve_name hs, if_neg (by decide), hentry]
      exact Disk.resolve_nil
    have hshort := (Disk.usable_of_walk husable.ne_empty hplace
      (List.forall_mem_singleton.mpr hs) hdirectory).short
    exact absurd hshort (Nat.not_lt_of_le (pathLimit_le_join hsize husable.ne_empty hs))
  · exact ⟨path, ofDirectory?_error herror⟩

/-- **Paths that are too long.** A file is listed that cannot be looked up, and a scan for a
prefix fails where a walk of the whole directory succeeds. -/
theorem directory_long_paths :
    deepDisk.Sound ∧
    (deepDisk.isDirectory deepPath = true ∧ Config.compileResources {} = .ok ⟨[], []⟩ ∧
      ∃ root?, ofDirectory? deepDisk ⟨⟨⟨1⟩, "app", []⟩, []⟩ deepPath ⟨[], []⟩ = .ok root? ∧
        (∃ r ∈ root?, r.has "A.class" = true) ∧
        deepDisk.isFile (Path.join deepPath "A.class") = false) ∧
    deepDisk.isDirectory "/dd" = true ∧ deepDisk.walk "/dd" = .ok ["/dd/s/A.class"] ∧
      Config.compileResources ⟨[dottedPrefix 2045], []⟩ = .ok ⟨[dottedPrefix 2045], []⟩ ∧
      ∃ path, ofDirectory? deepDisk ⟨⟨⟨1⟩, "app", []⟩, []⟩ "/dd" ⟨[dottedPrefix 2045], []⟩ =
        .error (.walk (.entry path .nameTooLong)) :=
  ⟨deepDisk_sound, ⟨Disk.isDirectory_eq_true_iff.mpr ⟨_, stat_deepPath⟩, rfl, deepDisk_lists _⟩,
    by decide +kernel, toOption_eq_some_iff.mp (by decide +kernel),
    compileResources_dottedPrefix 2045, deepDisk_fails _ rfl⟩

end Root

end Classpath
