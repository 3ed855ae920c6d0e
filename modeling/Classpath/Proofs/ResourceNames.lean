import Classpath.Proofs.ArchiveContent
import Classpath.Proofs.DirectoryContent

/-!
# The Names of Resources

A resource of a directory is named by what remains of the path of a file below it. Whatever the
prefix that a walk is for, its path consists of the components of the directory, or of the root,
and of names behind them, and so do the paths of the files that it finds: what remains is made of
names, without empty segments and without dots.

A resource of an archive has the name that is stored in it. Nothing is known of it but that it does
not end with a slash: an archive may store a name that is absolute, or one that climbs, and it is
listed as it is.

## Main results

* `Root.isName_of_mem_directoryNames`: the names in a directory.
* `Root.normalized_of_discovered`: the names in the roots of a chain.
* `Root.climbing_name_listed`: a name in an archive that climbs.
-/

open Classpath.Path (IsName)

namespace Classpath

/-- A name of a resource that is a normalized relative path. -/
structure Normalized (name : String) : Prop where
  ne_empty : name ≠ ""
  not_begins : Text.startsWith name "/" = false
  not_ends : Text.endsWith name "/" = false
  segments : ∀ s ∈ Text.split '/' name, s ≠ "" ∧ s ≠ "." ∧ s ≠ ".."

/-- A path is normalized if it is made of names. -/
theorem normalized_of_names {name : String} (h : ∀ s ∈ Text.split '/' name, IsName s) :
    Normalized name where
  ne_empty := by
    rintro rfl
    exact (h "" (by decide)).ne_empty rfl
  not_begins := by
    rw [Bool.eq_false_iff]
    intro hbegins
    obtain ⟨rest, -, hsplit⟩ := Root.split_of_startsWith hbegins
    have hslash : (Text.split '/' "/").dropLast = [""] := by decide
    rw [hslash] at hsplit
    exact (h "" (hsplit ▸ List.mem_cons_self)).ne_empty rfl
  not_ends := not_endsWith_of_names h
  segments s hs := ⟨(h s hs).ne_empty, (h s hs).ne_dot, (h s hs).ne_dots⟩

namespace Root

variable {d : Disk} {c : Chain} {directory place name : String} {f : Filter}

/-- The components of a path at or below a place where a walk may begin: behind those of the
directory, or behind the root, there are names. -/
def NamesBehind (directory path : String) : Prop :=
  ∃ names, (∀ s ∈ names, IsName s) ∧
    (Path.components path = Path.components directory ++ names ∨
      Path.components path = Path.root :: names)

/-- A directory is behind itself, with no names between. -/
theorem namesBehind_self (directory : String) : NamesBehind directory directory :=
  ⟨[], by simp, Or.inl (List.append_nil _).symm⟩

/-- A path that does not climb leads to a place behind the directory. -/
theorem namesBehind_join {part : String} (hdirectory : directory ≠ "")
    (hclimbs : ".." ∉ Text.split '/' part) :
    NamesBehind directory (Path.join directory part) := by
  refine ⟨Path.names part, fun s => Path.isName_of_mem_names hclimbs, ?_⟩
  cases habsolute : Path.isAbsolute part with
  | false => exact Or.inl (Path.components_join hdirectory habsolute)
  | true =>
      right
      rw [Path.join_of_isAbsolute _ habsolute, Path.components_of_isAbsolute habsolute]

/-- Names lead from a place behind the directory to another one. -/
theorem NamesBehind.foldl_join (h : NamesBehind directory place) (hplace : place ≠ "")
    {more : List String} (hmore : ∀ s ∈ more, IsName s) :
    NamesBehind directory (more.foldl Path.join place) := by
  obtain ⟨names, hnames, hcomponents⟩ := h
  have hcomponents' := Path.components_foldl_join hplace hmore
  refine ⟨names ++ more, List.forall_mem_append.mpr ⟨hnames, hmore⟩, hcomponents.imp ?_ ?_⟩
  · intro heq
    rw [hcomponents', heq, List.append_assoc]
  · intro heq
    rw [hcomponents', heq, List.cons_append]

/-- What remains of such a path below the directory are names. -/
theorem NamesBehind.isName_of_relativeTo? (h : NamesBehind directory place)
    (hdirectory : directory ≠ "") {parts : List String}
    (hparts : Path.relativeTo? directory place = some parts) : ∀ s ∈ parts, IsName s := by
  obtain ⟨names, hnames, hcomponents⟩ := h
  unfold Path.relativeTo? at hparts
  dsimp only at hparts
  split at hparts
  · obtain rfl := Option.some.inj hparts
    obtain heq | heq := hcomponents
    · rw [heq, List.drop_left]
      exact hnames
    · obtain ⟨s, rest, hcons⟩ := List.exists_cons_of_ne_nil (Path.components_ne_nil hdirectory)
      rw [heq, hcons, List.length_cons, List.drop_succ_cons]
      exact fun s hs => hnames s (List.drop_subset _ _ hs)
  · cases hparts

/-- The place where a walk begins. -/
theorem namesBehind_of_mem_walkStarts (hdirectory : directory ≠ "")
    (hstat : d.isDirectory directory = true) {prefixes : List String}
    (h : place ∈ walkStarts d directory prefixes) :
    NamesBehind directory place ∧ d.isDirectory place = true := by
  obtain ⟨-, rfl⟩ | ⟨start, -, h⟩ := mem_walkStarts_iff.mp h
  · exact ⟨namesBehind_self place, hstat⟩
  · obtain ⟨hclimbs, hplace, rfl | ⟨part, hpart, rfl⟩⟩ := walkStart?_eq_some h
    · exact ⟨namesBehind_self place, hplace⟩
    · exact ⟨namesBehind_join hdirectory (not_climbs_of_directoryPart? hpart hclimbs), hplace⟩

/-- The name of a resource is made of what remains of the path of its file. -/
theorem isName_of_resourceName? {file : String} (h : NamesBehind directory file)
    (hdirectory : directory ≠ "") (hname : resourceName? directory file = some name) :
    ∀ s ∈ Text.split '/' name, IsName s := by
  unfold resourceName? at hname
  split at hname
  · rename_i part parts hparts
    have hnames := h.isName_of_relativeTo? hdirectory hparts
    rw [← Option.some.inj hname,
      Text.split_join (List.cons_ne_nil part parts) fun s hs => (hnames s hs).no_slash]
    exact hnames
  · cases hname

/-- **The names in a directory** are made of names, whatever the filter. -/
theorem isName_of_mem_directoryNames (hd : d.Sound) (hstat : d.isDirectory directory = true)
    {names : List String} (hnames : directoryNames d directory f = .ok names)
    (hmem : name ∈ names) : ∀ s ∈ Text.split '/' name, IsName s := by
  have hdirectory : directory ≠ "" := by
    obtain ⟨loc, hloc⟩ := Disk.isDirectory_eq_true_iff.mp hstat
    exact (Disk.stat_eq_ok_iff.mp hloc).1.ne_empty
  obtain ⟨-, place, hplace, files, hwalk, file, hfile, hname⟩ :=
    (mem_directoryNames_iff hnames).mp hmem
  obtain ⟨hbehind, hplace⟩ := namesBehind_of_mem_walkStarts hdirectory hstat hplace
  obtain ⟨loc, hloc⟩ := Disk.isDirectory_eq_true_iff.mp hplace
  obtain ⟨husable, hleads⟩ := Disk.stat_eq_ok_iff.mp hloc
  obtain ⟨more, hmore, rfl, -⟩ := Disk.exists_names_of_mem_walk hd hleads hwalk hfile
  have hfile' := hbehind.foldl_join husable.ne_empty fun s hs => (hmore s hs).toIsName
  exact isName_of_resourceName? hfile' hdirectory hname

/-- **The names of resources.** Of the roots that a chain of loaders has for a filter, those of
directories hold normalized names only. Those of archives hold names as they are stored, except
that none ends with a slash; so they are normalized if the archive stores no others. -/
theorem normalized_of_discovered (hd : d.Sound) {roots : List Root}
    (h : discover d c f = .ok roots) :
    ∀ r ∈ roots, ∀ name ∈ r.resources, Text.endsWith name "/" = false ∧
      match r.store with
      | .directory => Normalized name
      | .archive _ archive => name ∈ archive.names := by
  intro r hr name hname
  obtain ⟨-, path, -, hroot⟩ := exists_entry_of_mem_discover h hr
  obtain ⟨loc, names, hstat, hnames, hr⟩ | ⟨loc, id, archive, -, -, hr⟩ := ofEntry?_eq_some hroot
  · rw [hr] at hname ⊢
    have hnormalized := normalized_of_names (isName_of_mem_directoryNames hd
      (Disk.isDirectory_eq_true_iff.mpr ⟨loc, hstat⟩) hnames hname)
    exact ⟨hnormalized.not_ends, hnormalized⟩
  · rw [hr] at hname ⊢
    obtain ⟨-, hstored, hends, -⟩ := mem_archiveNames.mp hname
    exact ⟨hends, hstored⟩

/-- A disk with a file in a directory and an archive that stores a name that climbs. -/
def climbingDisk : Disk where
  entries := [(["c"], .directory), (["c", "a"], .directory), (["c", "a", "B.class"], .file 0),
    (["a.jar"], .file 1)]
  contents := [[], Archive.pack [("../up.txt", [])]]

/-- A loader for a directory and for an archive with an entry that leads upwards. -/
def climbingLoader : Chain := ⟨⟨⟨1⟩, "app", [Url.ofPath "/c", Url.ofPath "/a.jar"]⟩, []⟩

/-- Discovery finds two roots, and lists the name that leads upwards as the archive has it. -/
theorem climbingDisk_discovered : climbingDisk.Sound ∧
    ∃ r s, discover climbingDisk climbingLoader ⟨[], []⟩ = .ok [r, s] ∧
      r.store = .directory ∧ r.resources = ["a/B.class"] ∧ s.resources = ["../up.txt"] := by
  have hdisk : climbingDisk.Sound ∧ (discover climbingDisk climbingLoader ⟨[], []⟩).toOption.map
      (·.map fun r => (r.kind, r.resources)) =
        some [(.directory, ["a/B.class"]), (.archive, ["../up.txt"])] := by decide +kernel
  obtain ⟨hsound, hroots⟩ := hdisk
  obtain ⟨roots, hroots, hresources⟩ := Option.map_eq_some_iff.mp hroots
  obtain ⟨r, rest, rfl, hr, hrest⟩ := List.map_eq_cons_iff.mp hresources
  obtain ⟨s, rfl, hs⟩ := List.map_eq_singleton_iff.mp hrest
  obtain ⟨hkind, hr⟩ := Prod.mk.inj hr
  refine ⟨hsound, r, s, toOption_eq_some_iff.mp hroots, ?_, hr, (Prod.mk.inj hs).2⟩
  unfold kind at hkind
  split at hkind
  · assumption
  · cases hkind

/-- The name of the file in the directory is normalized. -/
theorem normalized_of_discovered_file :
    climbingDisk.Sound ∧ ∃ roots, discover climbingDisk climbingLoader ⟨[], []⟩ = .ok roots ∧
      (∃ r ∈ roots, r.has "a/B.class" = true) ∧ Normalized "a/B.class" := by
  obtain ⟨hsound, r, s, hroots, hstore, hr, -⟩ := climbingDisk_discovered
  have hmem : "a/B.class" ∈ r.resources := by simp [hr]
  have hname := (normalized_of_discovered hsound hroots r (by simp) _ hmem).2
  rw [hstore] at hname
  exact ⟨hsound, _, hroots, ⟨r, by simp, by simp [has, hr]⟩, hname⟩

/-- **A name that climbs** is listed if an archive stores it. -/
theorem climbing_name_listed :
    climbingDisk.Sound ∧ ∃ roots, discover climbingDisk climbingLoader ⟨[], []⟩ = .ok roots ∧
      (∃ r ∈ roots, r.has "../up.txt" = true) ∧ ¬Normalized "../up.txt" := by
  obtain ⟨hsound, r, s, hroots, -, -, hs⟩ := climbingDisk_discovered
  refine ⟨hsound, _, hroots, ⟨s, by simp, by simp [has, hs]⟩, fun hnormalized => ?_⟩
  exact (hnormalized.segments ".." (by decide)).2.2 rfl

end Root

end Classpath
