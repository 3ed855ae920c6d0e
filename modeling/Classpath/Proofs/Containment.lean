import Classpath.ClassFile.Written
import Classpath.Proofs.Entries
import Classpath.Proofs.Reached

/-!
# Where the Bytes of a Class Come From

A loader looks for a class among its own entries: in a directory for the file of the resource, and
in an archive for the entry. No segment of a resource leads upwards, so a relative path of a
resource stays below the directory, and the bytes are the loader's own (`Loader.Owns`). They depend
on nothing but what can be seen at and below its entries (`Disk.AgreesBelow`).

This does not hold of a name that begins with a dot or a slash. Its resource is a path from the
root, and to join that to a directory leaves the directory out: where any entry is a directory, the
file at this path is found, wherever it is. Names come from class files as well, so a class that
refers to such a name leads a loader there.

## Main results

* `entryBytes?_eq`: what an entry yields, by what can be seen on the disk.
* `Loader.reads_within_entries`: where bytes come from, and what they depend on.
* `Disk.AgreesBelow.of_sameAt`: directories without links that look the same.
* `Loader.class_outside_entries`: a class that is found outside of all entries.
-/

namespace Classpath

/-! ### What can be seen -/

namespace Disk

/-- What can be seen at the end of a path: a directory, or a file with its content. -/
inductive View where
  | directory
  | file (content : Bytes)

/-- What can be seen at a path. -/
def view? (d : Disk) (path : String) : Option View :=
  match d.stat path with
  | .ok ⟨_, .directory⟩ => some .directory
  | .ok ⟨_, .file id⟩ => some (.file (d.content id))
  | _ => none

variable {d d' : Disk} {path : String} {bytes : Bytes}

/-- A directory is seen where the path leads to one. -/
theorem view?_eq_directory_iff :
    d.view? path = some .directory ↔ ∃ loc, d.stat path = .ok ⟨loc, .directory⟩ := by
  unfold view?
  rcases d.stat path with e | ⟨loc, id | _ | target⟩ <;> simp

/-- A file is seen, with its content, where the path leads to one with it. -/
theorem view?_eq_file_iff : d.view? path = some (.file bytes) ↔
    ∃ loc id, d.stat path = .ok ⟨loc, .file id⟩ ∧ d.content id = bytes := by
  unfold view?
  rcases d.stat path with e | ⟨loc, id | _ | target⟩ <;> simp

/-- Two disks that look the same at a path and, along relative paths that do not climb, below it. -/
structure AgreesBelow (d d' : Disk) (path : String) : Prop where
  self : d.view? path = d'.view? path
  below : ∀ rel, Path.isAbsolute rel = false → ".." ∉ Text.split '/' rel →
    d.view? (Path.join path rel) = d'.view? (Path.join path rel)

end Disk

/-! ### Directories without links -/

namespace Disk

/-- There is no link at a location or below it. -/
def NoLinks (d : Disk) (at_ : Location) : Prop :=
  ∀ loc target, at_ <+: loc → d.entry? loc ≠ some (.link target)

/-- Two disks have the same at a location and below it. -/
structure SameAt (d d' : Disk) (at_ : Location) : Prop where
  entry : ∀ loc, at_ <+: loc → d.entry? loc = d'.entry? loc
  content : ∀ loc id, at_ <+: loc → d.entry? loc = some (.file id) → d.content id = d'.content id

variable {d d' : Disk} {path : String} {bytes : Bytes} {at_ : Location} {names : List String}
  {followLast : Bool} {links links' : Nat}

/-- Without links, segments that do not climb lead to what is there. -/
theorem resolve_within (hup : ".." ∉ names) (hlinks : d.NoLinks at_) {found : Found}
    (h : d.resolve followLast links at_ names = .ok found) :
    at_ <+: found.location ∧
      (found.entry = .directory ∨ d.entry? found.location = some found.entry) := by
  induction names generalizing at_ with
  | nil =>
      rw [resolve_nil] at h
      cases h
      exact ⟨List.prefix_rfl, Or.inl rfl⟩
  | cons name rest ih =>
      rw [List.mem_cons, not_or] at hup
      have hbelow := List.prefix_append at_ [name]
      rw [resolve_cons] at h
      split at h
      · exact ih hup.2 hlinks h
      · rw [if_neg (Ne.symm hup.1)] at h
        split at h
        · cases h
        · split at h
          · cases h
          · obtain ⟨hinside, hentry⟩ :=
              ih hup.2 (fun loc target hloc => hlinks loc target (hbelow.trans hloc)) h
            exact ⟨hbelow.trans hinside, hentry⟩
          · rename_i id hentry
            split at h
            · cases h
              exact ⟨hbelow, Or.inr hentry⟩
            · cases h
          · rename_i target hentry
            exact absurd hentry (hlinks _ target hbelow)

/-- Without links, segments that do not climb lead to the same where there is the same. -/
theorem resolve_congr (hup : ".." ∉ names) (hlinks : d.NoLinks at_)
    (hsame : ∀ loc, at_ <+: loc → d.entry? loc = d'.entry? loc) :
    d.resolve followLast links at_ names = d'.resolve followLast links' at_ names := by
  induction names generalizing at_ with
  | nil => rw [resolve_nil, resolve_nil]
  | cons name rest ih =>
      rw [List.mem_cons, not_or] at hup
      have hbelow := List.prefix_append at_ [name]
      rw [resolve_cons, resolve_cons, ← hsame _ hbelow, ih hup.2 hlinks hsame,
        ih hup.2 (fun loc target hloc => hlinks loc target (hbelow.trans hloc))
          fun loc hloc => hsame loc (hbelow.trans hloc)]
      split
      · rfl
      · rw [if_neg (Ne.symm hup.1), if_neg (Ne.symm hup.1)]
        split
        · rfl
        · rcases hentry : d.entry? (at_ ++ [name]) with _ | (id | _ | target)
          · rfl
          · rfl
          · rfl
          · exact absurd hentry (hlinks _ target hbelow)

/-- **A file in a directory without links** is at a location below it. -/
theorem exists_entry_of_view? (hpath : d.stat path = .ok ⟨at_, .directory⟩)
    (hlinks : d.NoLinks at_) {rel : String} (hrel : Path.isAbsolute rel = false)
    (hup : ".." ∉ Text.split '/' rel) (h : d.view? (Path.join path rel) = some (.file bytes)) :
    ∃ loc id, at_ <+: loc ∧ d.entry? loc = some (.file id) ∧ d.content id = bytes := by
  obtain ⟨loc, id, hstat, hbytes⟩ := view?_eq_file_iff.mp h
  obtain ⟨husable, hleads⟩ := stat_eq_ok_iff.mp hpath
  obtain ⟨links, hbelow⟩ := leads_below husable.ne_empty hleads
  obtain ⟨-, hfile⟩ := stat_eq_ok_iff.mp hstat
  rw [hbelow rel hrel] at hfile
  obtain ⟨hinside, hentry⟩ := resolve_within hup hlinks hfile
  exact ⟨loc, id, hinside, hentry.resolve_left (by simp), hbytes⟩

/-- What can be seen at a path depends on where it leads and on what is there. -/
theorem view?_congr (hleads : d.leads path = d'.leads path)
    (hcontent : ∀ loc id, d.leads path = .ok ⟨loc, .file id⟩ → d.content id = d'.content id) :
    d.view? path = d'.view? path := by
  have hstat : d.stat path = d'.stat path := lookup_congr hleads
  unfold view?
  rw [← hstat]
  rcases hfound : d.stat path with e | ⟨loc, id | _ | target⟩
  · rfl
  · have hfile := (stat_eq_ok_iff.mp hfound).2
    show some (View.file _) = some (View.file _)
    rw [hcontent loc id hfile]
  · rfl
  · rfl

/-- **Directories without links** look the same if they have the same. -/
theorem AgreesBelow.of_sameAt (hpath : d.stat path = .ok ⟨at_, .directory⟩)
    (hpath' : d'.stat path = .ok ⟨at_, .directory⟩) (hlinks : d.NoLinks at_)
    (hsame : d.SameAt d' at_) : d.AgreesBelow d' path where
  self := by rw [view?_eq_directory_iff.mpr ⟨_, hpath⟩, view?_eq_directory_iff.mpr ⟨_, hpath'⟩]
  below rel hrel hup := by
    obtain ⟨husable, hleads⟩ := stat_eq_ok_iff.mp hpath
    obtain ⟨links, hbelow⟩ := leads_below husable.ne_empty hleads
    obtain ⟨links', hbelow'⟩ := leads_below husable.ne_empty (stat_eq_ok_iff.mp hpath').2
    refine view?_congr ?_ fun loc id hfile => ?_
    · rw [hbelow rel hrel, hbelow' rel hrel]
      exact resolve_congr hup hlinks hsame.entry
    · rw [hbelow rel hrel] at hfile
      obtain ⟨hinside, hentry⟩ := resolve_within hup hlinks hfile
      exact hsame.content loc id hinside (hentry.resolve_left (by simp))

end Disk

/-! ### Resources -/

namespace ClassFile

/-- A name whose resource is a path from the root. -/
def FromRoot (name : String) : Prop :=
  name.toList.head? = some '.' ∨ name.toList.head? = some '/'

/-- The resource of a class is a path from the root if the name begins with a dot or a slash. -/
theorem isAbsolute_resourceName_iff {name : String} :
    Path.isAbsolute (resourceName name) = true ↔ FromRoot name := by
  have hclass : ".class".toList = ['.', 'c', 'l', 'a', 's', 's'] := by decide
  unfold Path.isAbsolute FromRoot resourceName internalName Text.replace
  rw [String.toList_append, String.toList_ofList, beq_iff_eq, hclass]
  cases name.toList with
  | nil => simp
  | cons c cs =>
      simp only [List.map_cons, List.cons_append, List.head?_cons, Option.some.injEq]
      split
      · rename_i hdot
        simp [hdot]
      · rename_i hdot
        simp [hdot]

/-- No segment of the resource of a class leads upwards. -/
theorem up_notMem_split (name : String) : ".." ∉ Text.split '/' (resourceName name) :=
  fun h => (not_dots_of_mem_split h).2 rfl

end ClassFile

open ClassFile (FromRoot resourceName)

/-! ### What an entry yields -/

variable {d d' : Disk} {path resource name : String} {bytes : Bytes} {l : Loader}

/-- What is read in a directory is what can be seen there. -/
theorem readFile_eq (file : String) :
    (if d.isFile file then ((d.read file).mapError LinkError.file).map some else .ok none) =
      .ok (match d.view? file with
        | some (.file content) => some content
        | _ => none) := by
  unfold Disk.isFile Disk.read Disk.openPath Disk.view?
  rcases d.stat file with e | ⟨loc, id | _ | target⟩ <;> rfl

/-- **What an entry yields**, by what can be seen on the disk. -/
theorem entryBytes?_eq : entryBytes? d path resource =
    match d.view? path with
    | some .directory => .ok <|
      match d.view? (Path.join path resource) with
      | some (.file content) => some content
      | _ => none
    | some (.file content) => archiveBytes? path resource content
    | none => .ok none := by
  unfold entryBytes?
  dsimp only
  rw [readFile_eq, Disk.view?.eq_def d path]
  rcases d.stat path with e | ⟨loc, id | _ | target⟩ <;> rfl

/-- Entries that look the same yield the same. -/
theorem entryBytes?_congr (hself : d.view? path = d'.view? path)
    (hfile : d.view? (Path.join path resource) = d'.view? (Path.join path resource)) :
    entryBytes? d path resource = entryBytes? d' path resource := by
  rw [entryBytes?_eq, entryBytes?_eq, hself, hfile]

/-- What some entries hold depends on what each of them holds. -/
theorem firstBytes?_congr {paths : List String}
    (h : ∀ path ∈ paths, entryBytes? d path resource = entryBytes? d' path resource) :
    firstBytes? d resource paths = firstBytes? d' resource paths := by
  induction paths with
  | nil => rfl
  | cons path paths ih =>
      obtain ⟨hpath, hpaths⟩ := List.forall_mem_cons.mp h
      unfold firstBytes?
      rw [hpath, ih hpaths]

/-- Bytes that a loader has in one of its entries: those of a file that a relative path leads to
from a directory without climbing, or those of an entry of an archive. -/
def Loader.Owns (d : Disk) (l : Loader) (bytes : Bytes) : Prop :=
  ∃ path ∈ l.localPaths,
    (d.view? path = some .directory ∧ ∃ rel, Path.isAbsolute rel = false ∧
      ".." ∉ Text.split '/' rel ∧ d.view? (Path.join path rel) = some (.file bytes)) ∨
    ∃ content archive resource, d.view? path = some (.file content) ∧
      Archive.open_ content = .ok archive ∧ archive.read content resource = .ok (.ok bytes)

/-- Bytes that a loader finds outside of its entries, at the path from the root that the name
stands for. -/
def Loader.FindsOutside (d : Disk) (l : Loader) (name : String) (bytes : Bytes) : Prop :=
  FromRoot name ∧ (∃ path ∈ l.localPaths, d.view? path = some .directory) ∧
    d.view? (resourceName name) = some (.file bytes)

/-- Bytes are a loader's own, except those that it finds at a path from the root. -/
theorem Loader.owns_or_findsOutside (h : l.classBytes? d name = .ok (some bytes)) :
    l.Owns d bytes ∨ l.FindsOutside d name bytes := by
  obtain ⟨front, path, back, hpaths, -, hentry⟩ := firstBytes?_eq_some_iff.mp h
  have hpath : path ∈ l.localPaths := by simp [hpaths]
  obtain ⟨loc, loc', id, hstat, hfile, hbytes⟩ | ⟨loc, id, archive, hstat, hopen, hread⟩ :=
    entryBytes?_eq_some_iff.mp hentry
  · have hdirectory := Disk.view?_eq_directory_iff.mpr ⟨loc, hstat⟩
    have hview := Disk.view?_eq_file_iff.mpr ⟨loc', id, hfile, hbytes⟩
    cases habsolute : Path.isAbsolute (resourceName name) with
    | false =>
        exact Or.inl ⟨path, hpath, Or.inl ⟨hdirectory, resourceName name, habsolute,
          ClassFile.up_notMem_split name, hview⟩⟩
    | true =>
        rw [Path.join_of_isAbsolute path habsolute] at hview
        have hroot := ClassFile.isAbsolute_resourceName_iff.mp habsolute
        exact Or.inr ⟨hroot, ⟨path, hpath, hdirectory⟩, hview⟩
  · have hview := Disk.view?_eq_file_iff.mpr ⟨loc, id, hstat, rfl⟩
    exact Or.inl ⟨path, hpath, Or.inr ⟨_, archive, _, hview, hopen, hread⟩⟩

/-- What a loader finds depends on what can be seen at and below its entries, and at the path from
the root if the name stands for one. -/
theorem Loader.classBytes?_congr (hbelow : ∀ path ∈ l.localPaths, d.AgreesBelow d' path)
    (houtside : FromRoot name → d.view? (resourceName name) = d'.view? (resourceName name)) :
    l.classBytes? d name = l.classBytes? d' name := by
  refine firstBytes?_congr fun path hpath => entryBytes?_congr (hbelow path hpath).self ?_
  cases habsolute : Path.isAbsolute (resourceName name) with
  | false => exact (hbelow path hpath).below _ habsolute (ClassFile.up_notMem_split name)
  | true =>
      rw [Path.join_of_isAbsolute path habsolute]
      exact houtside (ClassFile.isAbsolute_resourceName_iff.mp habsolute)

/-- **Where the bytes of a class come from.** Whatever the name, the bytes that a loader finds are
its own, or the name begins with a dot or a slash and they are those at a path from the root. They
depend on what can be seen at and below its entries, and at this path. And in every session, in
which names also come from class files, each class that is defined was read from such bytes by the
loader of its scope. -/
theorem Loader.reads_within_entries (d : Disk) (name : String) :
    (∀ (l : Loader) bytes, l.classBytes? d name = .ok (some bytes) →
      l.Owns d bytes ∨ l.FindsOutside d name bytes) ∧
    (∀ (l : Loader) d', (∀ path ∈ l.localPaths, d.AgreesBelow d' path) →
      (FromRoot name → d.view? (resourceName name) = d'.view? (resourceName name)) →
        l.classBytes? d name = l.classBytes? d' name) ∧
    ∀ F linkage, Linkage.Reached d F linkage → ∀ s cls, linkage.find? s name = some cls →
      cls.chain ∈ F.made ∧ cls.chain.scope = s ∧
        ∃ bytes, ClassDecl.ofBytes bytes = .ok cls.decl ∧
          (cls.chain.loader.Owns d bytes ∨ cls.chain.loader.FindsOutside d name bytes) := by
  refine ⟨fun l bytes => owns_or_findsOutside, fun l d' => classBytes?_congr, ?_⟩
  intro F linkage hreached s cls hcls
  obtain ⟨hmade, hscope, hown⟩ := hreached.faithful.isRead hcls
  obtain ⟨bytes, decl, hbytes, hdecl, -, hread⟩ := Linkage.own?_empty_eq_some_iff.mp hown
  obtain rfl : cls.decl = decl := congrArg DefinedClass.decl hread
  exact ⟨hmade, hscope, bytes, hdecl, owns_or_findsOutside hbytes⟩

/-- The class in the directory of a loader. -/
def insideDecl : ClassDecl := ⟨"A", none, [], false, [], [], []⟩

/-- A disk with a class file in the directory of a loader and one outside of it. -/
def outsideDisk : Disk where
  entries := [(["c"], .directory), (["c", "A.class"], .file 0), (["out"], .directory),
    (["out", "B.class"], .file 1)]
  contents := [insideDecl.toBytes, [1]]

/-- The disk without the class file outside. -/
def insideDisk : Disk where
  entries := [(["c"], .directory), (["c", "A.class"], .file 0)]
  contents := [insideDecl.toBytes]

/-- A loader for the directory alone. -/
def insideLoader : Chain × Loaders := Loaders.empty.add "app" [Url.ofPath "/c"] none

/-- Below the directory both disks have the same, directories and a file. -/
theorem outsideDisk_below {loc : Location} (h : ["c"] <+: loc) :
    outsideDisk.entry? loc = insideDisk.entry? loc ∧
      ∀ entry, outsideDisk.entry? loc = some entry → entry = .directory ∨ entry = .file 0 := by
  obtain ⟨rest, rfl⟩ := h
  rcases rest with _ | ⟨s, _ | ⟨t, rest⟩⟩
  · simp [Disk.entry?, outsideDisk, insideDisk]
  · by_cases hs : s = "A.class"
    · simp [Disk.entry?, outsideDisk, insideDisk, List.lookup_cons, hs]
    · simp [Disk.entry?, outsideDisk, insideDisk, List.lookup_cons, beq_false_of_ne hs]
  · simp [Disk.entry?, outsideDisk, insideDisk, List.lookup_cons]

/-- There are no links below the directory. -/
theorem outsideDisk_noLinks : outsideDisk.NoLinks ["c"] := by
  intro loc target hloc hlink
  obtain h | h := (outsideDisk_below hloc).2 _ hlink <;> cases h

/-- What a loader with this directory finds on the two disks. -/
theorem insideLoader_finds :
    insideLoader.1.loader.localPaths = ["/c"] ∧
      (outsideDisk.stat "/c").toOption = some ⟨["c"], .directory⟩ ∧
      (insideDisk.stat "/c").toOption = some ⟨["c"], .directory⟩ ∧
      (insideLoader.1.loader.classBytes? outsideDisk "A").toOption =
        some (some insideDecl.toBytes) ∧
      (insideLoader.1.loader.classBytes? outsideDisk ".out.B").toOption = some (some [1]) ∧
      (insideLoader.1.loader.classBytes? insideDisk ".out.B").toOption = some none ∧
      (((Operation.resolve "A" insideLoader.1).perform outsideDisk {}).find? ⟨1⟩ "A").isSome ∧
      insideDecl.toBytes ≠ [1] := by decide +kernel

/-- So the disks agree on all that can be seen below the loader's entry. -/
theorem outsideDisk_agreesBelow :
    ∀ path ∈ insideLoader.1.loader.localPaths, outsideDisk.AgreesBelow insideDisk path := by
  obtain ⟨hpaths, hstat, hstat', -⟩ := insideLoader_finds
  rw [hpaths, List.forall_mem_singleton]
  refine .of_sameAt (toOption_eq_some_iff.mp hstat) (toOption_eq_some_iff.mp hstat')
    outsideDisk_noLinks ⟨fun loc hloc => (outsideDisk_below hloc).1, fun loc id hloc hfile => ?_⟩
  obtain h | h := (outsideDisk_below hloc).2 _ hfile
  · cases h
  · cases h
    rfl

namespace Loader

/-- A class in the directory of the loader: found on both disks alike, and defined in a session. -/
theorem reads_within_entries_inside :
    insideLoader.1.loader.classBytes? outsideDisk "A" = .ok (some insideDecl.toBytes) ∧
      insideLoader.1.loader.Owns outsideDisk insideDecl.toBytes ∧
      insideLoader.1.loader.classBytes? insideDisk "A" = .ok (some insideDecl.toBytes) ∧
      ∃ linkage cls, Linkage.Reached outsideDisk insideLoader.2 linkage ∧
        linkage.find? ⟨1⟩ "A" = some cls ∧
        ∃ bytes, ClassDecl.ofBytes bytes = .ok cls.decl ∧
          cls.chain.loader.Owns outsideDisk bytes := by
  obtain ⟨-, -, -, hbytes, -, -, hdefined, -⟩ := insideLoader_finds
  rw [toOption_eq_some_iff] at hbytes
  have hname : ¬FromRoot "A" := by
    unfold FromRoot
    decide
  obtain ⟨hfound, hsame, hread⟩ := reads_within_entries outsideDisk "A"
  refine ⟨hbytes, (hfound _ _ hbytes).resolve_right fun h => hname h.1, ?_, ?_⟩
  · rw [← hsame _ insideDisk outsideDisk_agreesBelow fun h => absurd h hname]
    exact hbytes
  · have hreached : Linkage.Reached outsideDisk insideLoader.2
        ((Operation.resolve "A" insideLoader.1).perform outsideDisk {}) :=
      .step .start (by simp [Operation.Within, insideLoader, Loaders.add])
    obtain ⟨cls, hcls⟩ := Option.isSome_iff_exists.mp hdefined
    obtain ⟨-, -, bytes, hdecl, howns⟩ := hread _ _ hreached _ _ hcls
    exact ⟨_, cls, hreached, hcls, bytes, hdecl, howns.resolve_right fun h => hname h.1⟩

/-- **A class outside of all entries** is found under a name that begins with a dot: its bytes are
none of the loader's own, and without the file, which is outside, there is no such class. -/
theorem class_outside_entries :
    insideLoader.1.loader.classBytes? outsideDisk ".out.B" = .ok (some [1]) ∧
      ¬insideLoader.1.loader.Owns outsideDisk [1] ∧
      (∀ path ∈ insideLoader.1.loader.localPaths, outsideDisk.AgreesBelow insideDisk path) ∧
      insideLoader.1.loader.classBytes? insideDisk ".out.B" = .ok none := by
  obtain ⟨hpaths, hstat, -, -, hbytes, hnone, -, hother⟩ := insideLoader_finds
  rw [toOption_eq_some_iff] at hstat
  refine ⟨toOption_eq_some_iff.mp hbytes, ?_, outsideDisk_agreesBelow,
    toOption_eq_some_iff.mp hnone⟩
  rintro ⟨path, hpath, hentry⟩
  rw [hpaths, List.mem_singleton] at hpath
  subst hpath
  obtain ⟨-, rel, hrel, hup, hview⟩ | ⟨content, _, _, hview, -⟩ := hentry
  · obtain ⟨loc, id, hloc, hfile, hcontent⟩ :=
      Disk.exists_entry_of_view? hstat outsideDisk_noLinks hrel hup hview
    obtain h | h := (outsideDisk_below hloc).2 _ hfile
    · cases h
    · cases h
      exact hother hcontent
  · obtain ⟨_, _, hfile, -⟩ := Disk.view?_eq_file_iff.mp hview
    rw [hstat] at hfile
    cases hfile

end Loader

end Classpath
