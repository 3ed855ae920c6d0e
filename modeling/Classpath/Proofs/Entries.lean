import Classpath.Reflection.Resolve
import Classpath.Proofs.Delegation
import Classpath.Proofs.Walk

/-!
# What One Entry Holds

Two ways lead from an entry of a loader to a class file. Discovery lists the resources that the
entry holds, and reads them from the root that it comes to; resolution asks the entry for the
file or the archive entry of one name. They agree: an entry whose root holds a resource yields
its content, and an entry that does not hold it yields nothing.

An archive is asked for the bytes of a name but lists the names that its bytes stand for. An
entry whose bytes are the name in UTF-8, but stand for another one, would be found and not
listed; `Disk.Lists` says that there is none.

## Main results

* `entryBytes?_eq_some_iff`: what an entry yields, of a directory and of an archive.
* `firstBytes?_eq_some_iff`: what some entries yield in order.
* `entryBytes?_of_holds`, `entryBytes?_of_not_holds`: discovery and resolution agree.
-/

open Classpath.Path (IsName)

namespace Classpath

variable {d : Disk} {c : Chain} {f : Filter} {path resource : String} {bytes : Bytes}

/-! ### What is found -/

/-- What an archive yields under a name is what is read from it, if it opens. -/
theorem archiveBytes?_eq_some_iff {content : Bytes} :
    archiveBytes? path resource content = .ok (some bytes) ↔
      ∃ archive, Archive.open_ content = .ok archive ∧
        archive.read content resource = .ok (.ok bytes) := by
  unfold archiveBytes?
  constructor
  · intro h
    split at h
    · cases h
    · cases h
    · rename_i archive hopen
      split at h
      · cases h
      · cases h
      · rename_i read hread
        obtain ⟨_, hbytes, heq⟩ := map_eq_ok_iff.mp h
        cases heq
        rw [mapError_eq_ok_iff.mp hbytes] at hread
        exact ⟨archive, hopen, hread⟩
  · rintro ⟨archive, hopen, hread⟩
    rw [hopen]
    dsimp only
    rw [hread]
    rfl

/-- **What an entry yields**: the content of a file in a directory, or of an entry of an
archive. -/
theorem entryBytes?_eq_some_iff :
    entryBytes? d path resource = .ok (some bytes) ↔
      (∃ loc loc' id, d.stat path = .ok ⟨loc, .directory⟩ ∧
        d.stat (Path.join path resource) = .ok ⟨loc', .file id⟩ ∧ d.content id = bytes) ∨
      ∃ loc id archive, d.stat path = .ok ⟨loc, .file id⟩ ∧
        Archive.open_ (d.content id) = .ok archive ∧
        archive.read (d.content id) resource = .ok (.ok bytes) := by
  unfold entryBytes?
  constructor
  · intro h
    split at h
    · rename_i loc hstat
      dsimp only at h
      split at h
      · obtain ⟨_, hread, heq⟩ := map_eq_ok_iff.mp h
        cases heq
        obtain ⟨loc', id, hfile⟩ := Disk.read_eq_ok_iff.mp (mapError_eq_ok_iff.mp hread)
        exact Or.inl ⟨loc, loc', id, hstat, hfile⟩
      · cases h
    · rename_i loc id hstat
      obtain ⟨archive, hopen, hread⟩ := archiveBytes?_eq_some_iff.mp h
      exact Or.inr ⟨loc, id, archive, hstat, hopen, hread⟩
    · cases h
  · rintro (⟨loc, loc', id, hstat, hfile, hbytes⟩ | ⟨loc, id, archive, hstat, hopen, hread⟩)
    · have hread := Disk.read_eq_ok_iff.mpr ⟨loc', id, hfile, hbytes⟩
      rw [hstat]
      dsimp only
      rw [if_pos (Disk.isFile_eq_true_iff.mpr ⟨loc', id, hfile⟩), hread]
      rfl
    · rw [hstat]
      exact archiveBytes?_eq_some_iff.mpr ⟨archive, hopen, hread⟩

/-- **What some entries yield**: what the first of them does that yields anything. -/
theorem firstBytes?_eq_some_iff {paths : List String} :
    firstBytes? d resource paths = .ok (some bytes) ↔
      ∃ front path back, paths = front ++ path :: back ∧
        (∀ q ∈ front, entryBytes? d q resource = .ok none) ∧
        entryBytes? d path resource = .ok (some bytes) := by
  induction paths with
  | nil =>
      constructor
      · intro h
        cases h
      · rintro ⟨front, path, back, hsplit, -⟩
        simp at hsplit
  | cons q paths ih =>
      show (entryBytes? d q resource >>= _) = _ ↔ _
      rw [bind_eq_ok_iff]
      constructor
      · rintro ⟨_ | found, hq, h⟩
        · obtain ⟨front, path, back, rfl, hfront, hpath⟩ := ih.mp h
          exact ⟨q :: front, path, back, rfl, List.forall_mem_cons.mpr ⟨hq, hfront⟩, hpath⟩
        · cases h
          exact ⟨[], q, paths, rfl, by simp, hq⟩
      · rintro ⟨front, path, back, hsplit, hfront, hpath⟩
        cases front with
        | nil =>
            obtain ⟨rfl, rfl⟩ := List.cons.inj hsplit
            exact ⟨some bytes, hpath, rfl⟩
        | cons _ front =>
            obtain ⟨rfl, hpaths⟩ := List.cons.inj hsplit
            obtain ⟨hq, hfront⟩ := List.forall_mem_cons.mp hfront
            exact ⟨none, hq, ih.mpr ⟨front, path, back, hpaths, hfront, hpath⟩⟩

/-- If no entry holds a resource, none is found. -/
theorem firstBytes?_eq_none {paths : List String}
    (h : ∀ q ∈ paths, entryBytes? d q resource = .ok none) :
    firstBytes? d resource paths = .ok none := by
  induction paths with
  | nil => rfl
  | cons q paths ih =>
      obtain ⟨hq, hpaths⟩ := List.forall_mem_cons.mp h
      show (entryBytes? d q resource >>= _) = _
      rw [hq]
      exact ih hpaths

/-! ### What is listed -/

/-- An archive in which a resource is found lists it as well. -/
def Disk.Lists (d : Disk) (path resource : String) : Prop :=
  ∀ loc id archive, d.stat path = .ok ⟨loc, .file id⟩ →
    Archive.open_ (d.content id) = .ok archive → (archive.find? resource).isSome →
      resource ∈ archive.names

namespace Root

variable {r : Root}

/-- What is read from a root was read. -/
theorem read_eq_ok_iff :
    r.read d resource = .ok (.ok bytes) ↔ resource ∈ r.resources ∧
      match r.store with
      | .directory => d.openPath (Path.join r.origin resource) = .ok (.ok bytes)
      | .archive file archive => archive.read (d.content file) resource = .ok (.ok bytes) := by
  unfold read has
  by_cases hmem : resource ∈ r.resources
  · rw [if_neg (by simpa using hmem)]
    cases r.store <;> simp only [hmem, mapError_eq_ok_iff, true_and]
  · rw [if_pos (by simpa using hmem)]
    simp [hmem]

/-- An entry of an archive is a resource if it is no directory and is admitted, and the archive
is not passed over. -/
theorem mem_archiveNames {names : List String} :
    resource ∈ archiveNames names f ↔ holdsPrefix names f.prefixes = true ∧ resource ∈ names ∧
      Text.endsWith resource "/" = false ∧ f.accepts resource = true := by
  unfold archiveNames
  split
  · rename_i hholds
    simp [hholds]
  · rename_i hholds
    simp [hholds]

/-- The resources of an archive that a filter without prefixes admits. -/
theorem mem_archiveNames_iff {names : List String} (hprefixes : f.prefixes = []) :
    resource ∈ archiveNames names f ↔
      resource ∈ names ∧ Text.endsWith resource "/" = false ∧ f.accepts resource = true := by
  rw [mem_archiveNames, hprefixes]
  exact and_iff_right rfl

/-- What a root holds was admitted. -/
theorem accepts_of_mem (hroot : ofEntry? d c path f = .ok (some r))
    (hmem : resource ∈ r.resources) : f.accepts resource = true := by
  obtain ⟨_, names, -, hwalk, rfl⟩ | ⟨_, _, archive, -, -, rfl⟩ := ofEntry?_eq_some hroot
  · obtain ⟨groups, -, hnames⟩ := bind_eq_ok_iff.mp hwalk
    rw [pure_eq_ok_iff] at hnames
    rw [hnames, Text.mem_sortedDistinct, List.mem_filter] at hmem
    exact hmem.2
  · exact (mem_archiveNames.mp hmem).2.2.2

section Names

variable {names : List String} {root? : Option Root}

/-- There is a root for names, unless there are none. -/
theorem eq_some_of_mem (hroot : root? = if names.isEmpty then none else some r)
    (hmem : resource ∈ names) : root? = some r := by
  rw [hroot, if_neg]
  rw [List.isEmpty_iff]
  exact List.ne_nil_of_mem hmem

/-- A root holds the names it is made with. -/
theorem exists_has_iff (hroot : root? = if names.isEmpty then none else some r)
    (hnames : r.resources = names) : (∃ q ∈ root?, q.has resource = true) ↔ resource ∈ names := by
  constructor
  · rintro ⟨q, hq, hhas⟩
    rw [hroot] at hq
    split at hq
    · cases hq
    · obtain rfl := Option.some.inj hq
      simpa [has, hnames] using hhas
  · exact fun hmem => ⟨r, eq_some_of_mem hroot hmem, by simp [has, hnames, hmem]⟩

/-- What an entry does not hold is not among its names. -/
theorem notMem_of_not_holds (hroot : root? = if names.isEmpty then none else some r)
    (hnames : r.resources = names) (hholds : ∀ r ∈ root?, resource ∉ r.resources) :
    resource ∉ names := by
  intro hmem
  obtain ⟨q, hq, hhas⟩ := (exists_has_iff hroot hnames).mpr hmem
  exact hholds q hq (by simpa [has] using hhas)

end Names

end Root

/-! ### Discovery and resolution -/

/-- **An entry that holds a resource** yields its content. -/
theorem entryBytes?_of_holds {r : Root} (hroot : Root.ofEntry? d c path f = .ok (some r))
    (hread : r.read d resource = .ok (.ok bytes)) :
    entryBytes? d path resource = .ok (some bytes) := by
  obtain ⟨-, hread⟩ := Root.read_eq_ok_iff.mp hread
  rw [entryBytes?_eq_some_iff]
  obtain ⟨loc, names, hstat, -, rfl⟩ | ⟨loc, id, archive, hstat, hopen, rfl⟩ :=
    Root.ofEntry?_eq_some hroot
  · obtain ⟨loc', id, hfile, hbytes⟩ := Disk.openPath_eq_ok_ok_iff.mp hread
    exact Or.inl ⟨loc, loc', id, hstat, hfile, hbytes⟩
  · exact Or.inr ⟨loc, id, archive, hstat, hopen, hread⟩

/-- The segments of a name that does not end with a slash. -/
theorem not_endsWith_of_names (h : ∀ s ∈ Text.split '/' resource, IsName s) :
    Text.endsWith resource "/" = false := by
  rw [Bool.eq_false_iff]
  intro hends
  obtain ⟨front, rfl⟩ := Text.exists_of_endsWith_slash hends
  rw [Text.split_append_slash] at h
  exact (h "" (List.mem_append_right _ List.mem_cons_self)).ne_empty rfl

/-- **An entry that does not hold a resource** yields nothing. -/
theorem entryBytes?_of_not_holds {root? : Option Root}
    (hroot : Root.ofEntry? d c path f = .ok root?) (hholds : ∀ r ∈ root?, resource ∉ r.resources)
    (hnames : ∀ s ∈ Text.split '/' resource, IsName s) (haccepts : f.accepts resource = true)
    (hclimbs : ∀ start ∈ f.prefixes, Filter.climbs start = false)
    (harchive : d.isFile path = true → Root.isArchivePath path = true)
    (hprefixes : f.prefixes = [] ∨ d.isDirectory path = true) (hlists : d.Lists path resource) :
    entryBytes? d path resource = .ok none := by
  unfold entryBytes?
  obtain ⟨loc, names, hstat, hwalk, h⟩ | ⟨loc, id, archive, hstat, -, hopen, h⟩ |
    ⟨loc, id, hstat, hpath, -⟩ | ⟨loc, target, hstat, -⟩ := Root.ofEntry?_cases hroot
  · -- a directory: a file at this path would have been found by the walk
    have hdirectory : path ≠ "" := (Disk.stat_eq_ok_iff.mp hstat).1.ne_empty
    have hnot : resource ∉ names := Root.notMem_of_not_holds h rfl hholds
    rw [hstat]
    dsimp only
    rw [if_neg]
    intro hfile
    obtain ⟨loc', id, hfile⟩ := Disk.isFile_eq_true_iff.mp hfile
    obtain ⟨husable, hfile⟩ := Disk.stat_eq_ok_iff.mp hfile
    exact hnot (Root.mem_directoryNames hwalk hclimbs hdirectory hnames haccepts
      (Root.WayUsable.of_usable hdirectory hnames husable) hfile)
  · -- an archive: it does not list the resource, so it does not find it
    have hnone : f.prefixes = [] := hprefixes.resolve_right fun hdirectory => by
      obtain ⟨loc', hdirectory⟩ := Disk.isDirectory_eq_true_iff.mp hdirectory
      rw [hstat] at hdirectory
      cases hdirectory
    have hnot : resource ∉ archive.names := fun hmem =>
      Root.notMem_of_not_holds h rfl hholds <|
        (Root.mem_archiveNames_iff hnone).mpr ⟨hmem, not_endsWith_of_names hnames, haccepts⟩
    have hfind : archive.find? resource = none := by
      rw [← Option.not_isSome_iff_eq_none]
      exact fun hsome => hnot (hlists loc id archive hstat hopen hsome)
    unfold archiveBytes? Archive.read
    rw [hstat]
    dsimp only
    rw [hopen]
    dsimp only
    rw [hfind]
  · have hfile : d.isFile path = true := Disk.isFile_eq_true_iff.mpr ⟨loc, id, hstat⟩
    rw [harchive hfile] at hpath
    cases hpath
  · rw [hstat]

end Classpath
