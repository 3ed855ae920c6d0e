import Classpath.Proofs.Lookup
import Classpath.Proofs.Prefixes
import Classpath.Root.Directory

/-!
# What a Walk Finds

A walk that succeeds visits every place below its start, whatever links lead there: where names
lead somewhere, each part of them leads to a directory, and the next name stands among the
children that the walk goes into (`Disk.visits`). The induction is along the names. What the
walk knows of a place is what is there without following a link (`Disk.At`); it agrees with
what the path leads to, or it is a link, which the walk follows. So a file is found, and a
directory is entered, which takes that its path can be looked up.

A directory walked for some prefixes yields every admitted resource below it: a prefix only
cuts off what no admitted name can lead to.

## Main results

* `Disk.visits`: a walk comes to every place.
* `Disk.mem_walk`: a walk finds every file.
* `Disk.usable_of_walk`: a walk that succeeds looks up every directory.
* `Root.mem_directoryNames_iff`: which names a directory yields.
* `Root.mem_directoryNames`: a directory yields every admitted resource.
-/

open Classpath.Path (IsName)

namespace Classpath

namespace Disk

variable {d : Disk} {loc : Location} {id : Nat} {path : String} {entry : Entry}
  {names : List String} {files : List String} {inside : List OpenDirectory} {depth : Nat}

/-! ### Children -/

/-- What stands one name below a directory is listed in it. -/
theorem mem_childrenAt {s : String} (h : d.entry? (loc ++ [s]) = some entry) :
    (s, entry) ∈ d.childrenAt loc := by
  unfold entry? at h
  rw [if_neg (by simp)] at h
  have hmem : (loc ++ [s], entry) ∈ d.entries := by
    obtain ⟨l₁, l₂, hsplit, -⟩ := List.lookup_eq_some_iff.mp h
    rw [hsplit]
    simp
  unfold childrenAt
  rw [List.mem_mergeSort, List.mem_filterMap]
  exact ⟨_, hmem, by simp⟩

/-- What is at the end of a path, links not followed: a link, or what the path leads to. -/
def At (d : Disk) (path : String) (entry : Entry) : Prop :=
  (∃ target, entry = .link target) ∨ ∃ loc, d.leads path = .ok ⟨loc, entry⟩

/-- What stands under a name in a directory. -/
theorem at_join {s : String} (hs : IsName s) {left : Nat}
    (hbelow : d.leads (Path.join path s) = d.resolve true left loc [s])
    (hshort : s.utf8ByteSize ≤ nameLimit) (h : d.entry? (loc ++ [s]) = some entry) :
    d.At (Path.join path s) entry := by
  rw [resolve_name hs, if_neg (Nat.not_lt_of_le hshort), h] at hbelow
  cases entry with
  | link target => exact Or.inl ⟨target, rfl⟩
  | directory => exact Or.inr ⟨loc ++ [s], hbelow.trans resolve_nil⟩
  | file id => exact Or.inr ⟨loc ++ [s], hbelow⟩

/-- A path that leads somewhere through some names below it leads to a directory, in which the
first of the names stands. -/
theorem exists_child {s : String} {found : Found} (hpath : path ≠ "")
    (hnames : ∀ t ∈ s :: names, IsName t)
    (h : d.leads ((s :: names).foldl Path.join path) = .ok found) :
    ∃ loc entry, d.leads path = .ok ⟨loc, .directory⟩ ∧ (s, entry) ∈ d.childrenAt loc ∧
      d.At (Path.join path s) entry := by
  obtain ⟨hs, -⟩ := List.forall_mem_cons.mp hnames
  have hrel := Path.relative_join_names hnames
  rw [Path.foldl_join (List.cons_ne_nil s names) hnames] at h
  obtain ⟨loc, hdirectory⟩ := exists_leads_of_join hpath hrel h
  obtain ⟨links, hbelow⟩ := leads_below hpath hdirectory
  rw [hbelow _ hrel, Text.split_join (List.cons_ne_nil s names) fun t ht => (hnames t ht).no_slash,
    resolve_name hs] at h
  have hone := hbelow s hs.relative
  rw [Text.split_eq_singleton hs.no_slash] at hone
  split at h
  · cases h
  · rename_i hshort
    cases hentry : d.entry? (loc ++ [s]) with
    | none =>
        rw [hentry] at h
        cases h
    | some entry =>
        exact ⟨loc, entry, hdirectory, mem_childrenAt hentry,
          at_join hs hone (Nat.le_of_not_lt hshort) hentry⟩

/-! ### One step of the walk -/

/-- What the walk goes on with at a place: what is there, or what the link there leads to. -/
def settled (d : Disk) (inside : List OpenDirectory) (path : String) :
    Entry → Except WalkError Entry
  | .link _ => d.followLink inside path
  | entry => .ok entry

/-- What the walk yields at a place, by what is settled to be there. -/
def entered (d : Disk) (depth : Nat) (inside : List OpenDirectory) (path : String) :
    Entry → Except WalkError (List String)
  | .file _ => .ok [path]
  | .link _ => .ok []
  | .directory => do
    let (location, children) ← (d.listing path).mapError (.entry path)
    let found ← children.mapM fun (name, child) =>
      d.filesBelow depth (⟨path, location⟩ :: inside) (Path.join path name) child
    return found.flatten

/-- The files at and below a place: what is there is settled, and then entered. -/
theorem filesBelow_succ (d : Disk) (depth : Nat) (inside : List OpenDirectory) (path : String)
    (entry : Entry) :
    d.filesBelow (depth + 1) inside path entry =
      d.settled inside path entry >>= d.entered depth inside path := by
  cases entry with
  | directory => rfl
  | file id => rfl
  | link target =>
      show d.followLink inside path >>= _ = d.followLink inside path >>= _
      refine congrArg (_ >>= ·) (funext fun entry' => ?_)
      cases entry' <;> rfl

/-- What is settled to be at a place is what its path leads to. -/
theorem leads_of_settled {entry' : Entry} (hentry : d.At path entry)
    (h : d.settled inside path entry = .ok entry') : ∃ loc, d.leads path = .ok ⟨loc, entry'⟩ := by
  cases entry with
  | directory =>
      cases h
      exact hentry.resolve_left fun ⟨_, h⟩ => by cases h
  | file id =>
      cases h
      exact hentry.resolve_left fun ⟨_, h⟩ => by cases h
  | link target =>
      replace h : d.followLink inside path = .ok entry' := h
      unfold followLink at h
      rcases hstat : d.stat path with e | ⟨loc, e⟩
      · rw [hstat] at h
        cases h
      · rw [hstat] at h
        have hleads := (stat_eq_ok_iff.mp hstat).2
        cases e with
        | directory =>
            dsimp only at h
            split at h
            · cases h
            · cases h
              exact ⟨loc, hleads⟩
        | file id =>
            cases h
            exact ⟨loc, hleads⟩
        | link target =>
            cases h
            exact ⟨loc, hleads⟩

/-- A directory is listed with what is in it, where a path leads to one. -/
theorem listing_eq_ok_iff {children : List (String × Entry)} :
    d.listing path = .ok (loc, children) ↔
      d.stat path = .ok ⟨loc, .directory⟩ ∧ children = d.childrenAt loc := by
  unfold listing
  rw [bind_eq_ok_iff]
  constructor
  · rintro ⟨⟨loc', entry⟩, hstat, h⟩
    cases entry with
    | directory =>
        cases h
        exact ⟨hstat, rfl⟩
    | file id => cases h
    | link target => cases h
  · rintro ⟨hstat, rfl⟩
    exact ⟨_, hstat, rfl⟩

/-- What is in a directory that is entered. -/
theorem entered_directory_iff :
    d.entered depth inside path .directory = .ok files ↔
      ∃ loc groups, d.stat path = .ok ⟨loc, .directory⟩ ∧
        (d.childrenAt loc).mapM (fun (name, child) =>
          d.filesBelow depth (⟨path, loc⟩ :: inside) (Path.join path name) child) = .ok groups ∧
        files = groups.flatten := by
  unfold entered
  rw [bind_eq_ok_iff]
  constructor
  · rintro ⟨⟨loc, children⟩, hlisting, h⟩
    obtain ⟨groups, hgroups, hfiles⟩ := bind_eq_ok_iff.mp h
    rw [pure_eq_ok_iff] at hfiles
    rw [mapError_eq_ok_iff, listing_eq_ok_iff] at hlisting
    obtain ⟨hstat, rfl⟩ := hlisting
    exact ⟨loc, groups, hstat, hgroups, hfiles⟩
  · rintro ⟨loc, groups, hstat, hgroups, rfl⟩
    refine ⟨(loc, d.childrenAt loc), ?_, bind_eq_ok_iff.mpr ⟨groups, hgroups, rfl⟩⟩
    rw [mapError_eq_ok_iff, listing_eq_ok_iff]
    exact ⟨hstat, rfl⟩

/-- **One step of the walk** that succeeds: what the path leads to is entered. -/
theorem entered_of_filesBelow (hentry : d.At path entry)
    (h : d.filesBelow depth inside path entry = .ok files) :
    ∃ depth' loc entry', depth = depth' + 1 ∧ d.leads path = .ok ⟨loc, entry'⟩ ∧
      d.entered depth' inside path entry' = .ok files := by
  cases depth with
  | zero => cases h
  | succ depth =>
      rw [filesBelow_succ] at h
      obtain ⟨entry', hsettled, h⟩ := bind_eq_ok_iff.mp h
      obtain ⟨loc, hleads⟩ := leads_of_settled hentry hsettled
      exact ⟨depth, loc, entry', rfl, hleads, h⟩

/-- A directory that the walk comes to is entered. -/
theorem filesBelow_directory (hentry : d.At path entry)
    (h : d.filesBelow depth inside path entry = .ok files)
    (hleads : d.leads path = .ok ⟨loc, .directory⟩) :
    d.stat path = .ok ⟨loc, .directory⟩ ∧ ∃ depth' groups, depth = depth' + 1 ∧
      d.entered depth' inside path .directory = .ok files ∧
      (d.childrenAt loc).mapM (fun (name, child) =>
        d.filesBelow depth' (⟨path, loc⟩ :: inside) (Path.join path name) child) = .ok groups ∧
      files = groups.flatten := by
  obtain ⟨depth', loc', entry', hdepth, hleads', hentered⟩ := entered_of_filesBelow hentry h
  rw [hleads] at hleads'
  cases hleads'
  obtain ⟨loc', groups, hstat, hrest⟩ := entered_directory_iff.mp hentered
  have hsame := (stat_eq_ok_iff.mp hstat).2
  rw [hleads] at hsame
  cases hsame
  exact ⟨hstat, depth', groups, hdepth, hentered, hrest⟩

/-! ### The walk -/

/-- **A walk visits every place** that names below its start lead to. -/
theorem visits {found : Found} (hpath : path ≠ "") (hentry : d.At path entry)
    (hwalk : d.filesBelow depth inside path entry = .ok files) (hnames : ∀ s ∈ names, IsName s)
    (hfound : d.leads (names.foldl Path.join path) = .ok found) :
    ∃ depth' inside' entry' files', depth' ≤ depth ∧ d.At (names.foldl Path.join path) entry' ∧
      d.filesBelow depth' inside' (names.foldl Path.join path) entry' = .ok files' ∧
      files' ⊆ files := by
  induction names generalizing path entry depth inside files with
  | nil => exact ⟨depth, inside, entry, files, Nat.le_refl _, hentry, hwalk, List.Subset.refl _⟩
  | cons s names ih =>
      obtain ⟨hs, hrest⟩ := List.forall_mem_cons.mp hnames
      obtain ⟨loc, child, hdirectory, hchild, hbelow⟩ := exists_child hpath hnames hfound
      obtain ⟨-, depth', groups, rfl, -, hgroups, rfl⟩ :=
        filesBelow_directory hentry hwalk hdirectory
      obtain ⟨group, hgroup, hchildren⟩ := exists_mem_of_mapM hgroups hchild
      obtain ⟨depth'', inside', entry', files', hdepth, hvisit⟩ :=
        ih (Path.join_ne_empty path hs) hbelow hchildren hrest hfound
      refine ⟨depth'', inside', entry', files', Nat.le_succ_of_le hdepth, hvisit.1, hvisit.2.1, ?_⟩
      exact fun file hfile => List.mem_flatten.mpr ⟨group, hgroup, hvisit.2.2 hfile⟩

/-- A walk that succeeds is one from what is at its start. -/
theorem walk_eq_ok {found : Found} (hwalk : d.walk path = .ok files)
    (hleads : d.leads path = .ok found) :
    Usable path ∧ ∃ entry, d.At path entry ∧
      d.filesBelow d.walkDepth [] path entry = .ok files := by
  obtain ⟨short, hshort, hwalk⟩ := bind_eq_ok_iff.mp hwalk
  rw [mapError_eq_ok_iff] at hshort
  have husable := (lookup_eq_ok_iff.mp hshort).1
  refine ⟨husable, short.entry, ?_, hwalk⟩
  obtain hsame | ⟨loc, target, hlink⟩ := lookup_false_of_stat (stat_eq_ok_iff.mpr ⟨husable, hleads⟩)
  · rw [hshort] at hsame
    cases hsame
    exact Or.inr ⟨_, hleads⟩
  · rw [hshort] at hlink
    cases hlink
    exact Or.inl ⟨target, rfl⟩

/-- What names below a path lead through is led to by the path. -/
theorem exists_leads_of_foldl {found : Found} (hpath : path ≠ "") (hnames : ∀ s ∈ names, IsName s)
    (h : d.leads (names.foldl Path.join path) = .ok found) :
    ∃ found, d.leads path = .ok found := by
  cases names with
  | nil => exact ⟨found, h⟩
  | cons s names =>
      obtain ⟨loc, -, hdirectory, -⟩ := exists_child hpath hnames h
      exact ⟨_, hdirectory⟩

/-- **A walk finds every file** below its start. -/
theorem mem_walk (hpath : path ≠ "") (hwalk : d.walk path = .ok files)
    (hnames : ∀ s ∈ names, IsName s)
    (hfile : d.leads (names.foldl Path.join path) = .ok ⟨loc, .file id⟩) :
    names.foldl Path.join path ∈ files := by
  obtain ⟨found, hleads⟩ := exists_leads_of_foldl hpath hnames hfile
  obtain ⟨-, entry, hentry, hbelow⟩ := walk_eq_ok hwalk hleads
  obtain ⟨depth, inside, entry', files', -, hat, hvisit, hsub⟩ :=
    visits hpath hentry hbelow hnames hfile
  obtain ⟨_, _, _, -, hleads', hentered⟩ := entered_of_filesBelow hat hvisit
  rw [hfile] at hleads'
  cases hleads'
  cases hentered
  exact hsub List.mem_cons_self

/-- **A walk that succeeds looks up every directory** below its start. -/
theorem usable_of_walk (hpath : path ≠ "") (hwalk : d.walk path = .ok files)
    (hnames : ∀ s ∈ names, IsName s)
    (hdirectory : d.leads (names.foldl Path.join path) = .ok ⟨loc, .directory⟩) :
    Usable (names.foldl Path.join path) := by
  obtain ⟨found, hleads⟩ := exists_leads_of_foldl hpath hnames hdirectory
  obtain ⟨-, entry, hentry, hbelow⟩ := walk_eq_ok hwalk hleads
  obtain ⟨depth, inside, entry', files', -, hat, hvisit, -⟩ :=
    visits hpath hentry hbelow hnames hdirectory
  exact (stat_eq_ok_iff.mp (filesBelow_directory hat hvisit hdirectory).1).1

end Disk

namespace Root

variable {d : Disk} {directory : String} {f : Filter} {name : String} {names : List String}

/-! ### Directories -/

/-- The segments in front of the last one of a prefix are segments of every name that begins
with the prefix. -/
theorem split_of_startsWith {start : String} (h : Text.startsWith name start = true) :
    ∃ rest, rest ≠ [] ∧ Text.split '/' name = (Text.split '/' start).dropLast ++ rest := by
  obtain ⟨cs, hcs⟩ := List.isPrefixOf_iff_prefix.mp h
  have hname : name = start ++ String.ofList cs := by
    rw [← String.toList_inj]
    simpa using hcs.symm
  obtain ⟨before, last, first, after, hstart, -, hall⟩ :=
    Text.split_append '/' start (String.ofList cs)
  refine ⟨(last ++ first) :: after, List.cons_ne_nil _ _, ?_⟩
  rw [hname, hall, hstart, List.dropLast_concat]

/-- Where the walk for a prefix begins, name by name. -/
theorem walkStart?_eq {start : String} (hclimbs : Filter.climbs start = false)
    (h : ∀ s ∈ (Text.split '/' start).dropLast, IsName s) :
    walkStart? d directory start =
      if d.isDirectory ((Text.split '/' start).dropLast.foldl Path.join directory) then
        some ((Text.split '/' start).dropLast.foldl Path.join directory)
      else none := by
  unfold walkStart? directoryPart?
  rw [if_neg (by simp [hclimbs])]
  rcases hsplit : Text.split '/' start with _ | ⟨s, _ | ⟨t, rest⟩⟩
  · exact absurd hsplit (Text.split_ne_nil '/' start)
  · rfl
  · rw [hsplit] at h
    rw [Path.foldl_join (by simp) h]

/-- The directories on the way to a resource can be looked up. -/
def WayUsable (directory name : String) : Prop :=
  ∀ front rest, Text.split '/' name = front ++ rest → rest ≠ [] →
    Disk.Usable (front.foldl Path.join directory)

/-- If the path of a resource can be looked up, so can the directories on the way. -/
theorem WayUsable.of_usable (hdirectory : directory ≠ "")
    (hname : ∀ s ∈ Text.split '/' name, IsName s)
    (h : Disk.Usable (Path.join directory name)) : WayUsable directory name := by
  intro front rest hsplit hrest
  rw [Path.join_eq_foldl hname, hsplit, List.foldl_append] at h
  rw [hsplit, List.forall_mem_append] at hname
  rw [Path.foldl_join hrest hname.2] at h
  exact h.of_join (Path.foldl_join_ne_empty hdirectory hname.1)
    (Path.relative_join_names hname.2)

/-- A name that begins with a prefix leads from the directory through the place where the
walk for the prefix begins. -/
theorem exists_walkStart {start : String} (hclimbs : Filter.climbs start = false)
    (hstart : Text.startsWith name start = true) (hname : ∀ s ∈ Text.split '/' name, IsName s)
    (hdirectory : directory ≠ "") (hway : WayUsable directory name) {loc : Location} {id : Nat}
    (hfile : d.leads (Path.join directory name) = .ok ⟨loc, .file id⟩) :
    ∃ (place : String) (rest : List String), walkStart? d directory start = some place ∧
      place ≠ "" ∧ (∀ s ∈ rest, IsName s) ∧
      rest.foldl Path.join place = Path.join directory name := by
  obtain ⟨rest, hrest, hsplit⟩ := split_of_startsWith hstart
  have husable := hway _ rest hsplit hrest
  rw [hsplit, List.forall_mem_append] at hname
  obtain ⟨hfront, hback⟩ := hname
  have hplace := Path.foldl_join_ne_empty hdirectory hfront
  have hjoin : rest.foldl Path.join ((Text.split '/' start).dropLast.foldl Path.join directory) =
      Path.join directory name := by
    rw [← List.foldl_append, ← hsplit]
    refine (Path.join_eq_foldl fun s hs => ?_).symm
    rw [hsplit] at hs
    exact (List.mem_append.mp hs).elim (hfront s) (hback s)
  refine ⟨_, rest, ?_, hplace, hback, hjoin⟩
  obtain ⟨s, rest, rfl⟩ := List.exists_cons_of_ne_nil hrest
  rw [← hjoin] at hfile
  obtain ⟨loc', -, hleads, -⟩ := Disk.exists_child hplace hback hfile
  have hdir := Disk.stat_eq_ok_iff.mpr ⟨husable, hleads⟩
  rw [walkStart?_eq hclimbs hfront, if_pos (Disk.isDirectory_eq_true_iff.mpr ⟨loc', hdir⟩)]

/-- The name of what stands at a path below the directory. -/
theorem resourceName?_join (hdirectory : directory ≠ "")
    (hname : ∀ s ∈ Text.split '/' name, IsName s) :
    resourceName? directory (Path.join directory name) = some name := by
  have hrelative : Path.isAbsolute name = false := by
    rw [← Text.join_split name]
    exact Path.relative_join_names hname
  unfold resourceName?
  rw [Path.relativeTo?_join hdirectory hrelative fun s hs =>
    ⟨(hname s hs).ne_empty, (hname s hs).ne_dot⟩]
  obtain ⟨s, l, hsplit⟩ := List.exists_cons_of_ne_nil (Text.split_ne_nil '/' name)
  rw [hsplit]
  dsimp only
  rw [← hsplit, Text.join_split]

/-- Where walks begin: at the directory, if there are no prefixes, or where one of them leads. -/
theorem mem_walkStarts_iff {prefixes : List String} {place : String} :
    place ∈ walkStarts d directory prefixes ↔ prefixes = [] ∧ place = directory ∨
      ∃ start ∈ prefixes, walkStart? d directory start = some place := by
  unfold walkStarts
  split
  · rename_i hnone
    simp [List.isEmpty_iff.mp hnone]
  · rename_i hsome
    simp [mt List.isEmpty_iff.mpr hsome]

/-- The names in a directory can be listed if every walk succeeds. -/
theorem exists_directoryNames_iff : (∃ names, directoryNames d directory f = .ok names) ↔
    ∀ place ∈ walkStarts d directory f.prefixes, ∃ files, d.walk place = .ok files := by
  rw [← exists_mapM_eq_ok_iff]
  constructor
  · rintro ⟨names, hnames⟩
    obtain ⟨groups, hgroups, -⟩ := bind_eq_ok_iff.mp hnames
    exact ⟨groups, hgroups⟩
  · rintro ⟨groups, hgroups⟩
    exact ⟨_, bind_eq_ok_iff.mpr ⟨groups, hgroups, rfl⟩⟩

/-- The names in a directory are the admitted ones of the files that the walks find. -/
theorem mem_directoryNames_iff (hnames : directoryNames d directory f = .ok names) :
    name ∈ names ↔ f.accepts name = true ∧
      ∃ place ∈ walkStarts d directory f.prefixes, ∃ files, d.walk place = .ok files ∧
        ∃ file ∈ files, resourceName? directory file = some name := by
  obtain ⟨groups, hgroups, hnames⟩ := bind_eq_ok_iff.mp hnames
  rw [pure_eq_ok_iff] at hnames
  rw [hnames, Text.mem_sortedDistinct, List.mem_filter, List.mem_filterMap, and_comm]
  refine and_congr_right fun _ => ?_
  constructor
  · rintro ⟨file, hfile, hname⟩
    obtain ⟨files, hfiles, hfile⟩ := List.mem_flatten.mp hfile
    obtain ⟨place, hplace, hwalk⟩ := exists_of_mem_mapM hgroups hfiles
    exact ⟨place, hplace, files, hwalk, file, hfile, hname⟩
  · rintro ⟨place, hplace, files, hwalk, file, hfile, hname⟩
    obtain ⟨files', hfiles, hwalk'⟩ := exists_mem_of_mapM hgroups hplace
    obtain rfl := Except.ok.inj (hwalk.symm.trans hwalk')
    exact ⟨file, List.mem_flatten.mpr ⟨files, hfiles, hfile⟩, hname⟩

/-- **A directory yields every admitted resource** that is the path of a file below it. -/
theorem mem_directoryNames (hwalk : directoryNames d directory f = .ok names)
    (hclimbs : ∀ start ∈ f.prefixes, Filter.climbs start = false) (hdirectory : directory ≠ "")
    (hname : ∀ s ∈ Text.split '/' name, IsName s) (haccepts : f.accepts name = true)
    (hway : WayUsable directory name) {loc : Location} {id : Nat}
    (hfile : d.leads (Path.join directory name) = .ok ⟨loc, .file id⟩) : name ∈ names := by
  -- some walk begins at a place on the way to the file
  have hplace : ∃ (place : String) (rest : List String),
      place ∈ walkStarts d directory f.prefixes ∧ place ≠ "" ∧ (∀ s ∈ rest, IsName s) ∧
      rest.foldl Path.join place = Path.join directory name := by
    simp only [mem_walkStarts_iff]
    obtain hnone | ⟨start, hmem, hstart⟩ := (Filter.accepts_eq_true_iff.mp haccepts).1
    · exact ⟨directory, _, Or.inl ⟨hnone, rfl⟩, hdirectory, hname, (Path.join_eq_foldl hname).symm⟩
    · obtain ⟨place, rest, hplace, hrest⟩ :=
        exists_walkStart (hclimbs start hmem) hstart hname hdirectory hway hfile
      exact ⟨place, rest, Or.inr ⟨start, hmem, hplace⟩, hrest⟩
  obtain ⟨place, rest, hmem, hne, hrest, hjoin⟩ := hplace
  obtain ⟨files, hwalked⟩ := exists_directoryNames_iff.mp ⟨names, hwalk⟩ place hmem
  rw [← hjoin] at hfile
  have hfound := Disk.mem_walk hne hwalked hrest hfile
  rw [hjoin] at hfound
  exact (mem_directoryNames_iff hwalk).mpr ⟨haccepts, place, hmem, files, hwalked, _, hfound,
    resourceName?_join hdirectory hname⟩

end Root

end Classpath
