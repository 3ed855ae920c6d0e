import Classpath.Archive.Pack
import Classpath.Proofs.Agreement
import Classpath.Proofs.DirectoryContent

/-!
# What a Loader Holds, Listed and Asked For

Discovery lists what the entries of a loader hold; resolution asks them for one name after
another. Both go through the entries in order, so that the first root that holds the class file
of a name is where resolution finds it, with three exceptions:

* a file that is not named like an archive has no root, but is asked if it is one;
* an archive lists an entry under the name that its bytes stand for, and finds it by the bytes;
* a directory lists a file without looking it up, and does not find it if its path is too long.

The first, and the second where an archive finds what it does not list, are ruled out by
`Disk.Shows`. In the others a root holds what it cannot find, and counts for nothing
(`Root.finds`).

## Main results

* `Root.finds_of_entryBytes?`, `Root.not_finds_of_entryBytes?`: what one entry yields.
* `Root.find?_of_firstBytes?`: what some entries yield in order.
* `Root.located_of_discovered`: what a loader yields.
* `Root.located_not_discovered`: the three exceptions.
-/

open Classpath.Path (IsName)

namespace Classpath

variable {d : Disk} {c : Chain} {path resource : String} {bytes : Bytes}

/-! ### Archives -/

/-- Nothing but a name is looked for in the directory. -/
theorem Archive.readEntry_ne_entryNotFound (content : Array UInt8) (e : ArchiveEntry) :
    readEntry content e ≠ .error .entryNotFound := by
  have hstart : dataStart content e ≠ .error .entryNotFound := by
    unfold dataStart
    dsimp only
    split <;> simp
  unfold readEntry
  cases hencrypted : e.isEncrypted with
  | true => simp [bind, Except.bind]
  | false =>
      cases hdata : dataStart content e with
      | error fault => simpa [bind, Except.bind, hdata] using hstart
      | ok start =>
          dsimp only [bind, Except.bind]
          rw [if_neg (by simp)]
          repeat' split
          all_goals simp [pure, Except.pure]

/-- An archive reports that an entry is missing just where it finds none under the name. -/
theorem Archive.read_eq_entryNotFound_iff {a : Archive} {content : Bytes} :
    a.read content resource = .error .entryNotFound ↔ a.find? resource = none := by
  unfold read
  cases a.find? resource with
  | none => simp
  | some e => simp [readEntry_ne_entryNotFound]

/-- **What an archive does not yield**: what it does not find, and anything if it is none. -/
theorem archiveBytes?_eq_none_iff {content : Bytes} :
    archiveBytes? path resource content = .ok none ↔
      Archive.open_ content = .error .invalid ∨
      ∃ archive, Archive.open_ content = .ok archive ∧ archive.find? resource = none := by
  unfold archiveBytes?
  constructor
  · intro h
    split at h
    · rename_i hopen
      exact Or.inl hopen
    · cases h
    · rename_i archive hopen
      split at h
      · rename_i hread
        exact Or.inr ⟨archive, hopen, Archive.read_eq_entryNotFound_iff.mp hread⟩
      · cases h
      · obtain ⟨_, -, heq⟩ := map_eq_ok_iff.mp h
        cases heq
  · rintro (hopen | ⟨archive, hopen, hfind⟩)
    · rw [hopen]
    · rw [hopen]
      dsimp only
      rw [Archive.read_eq_entryNotFound_iff.mpr hfind]

/-- An archive in which a resource is found is named like one, and lists the resource. -/
def Disk.Shows (d : Disk) (path resource : String) : Prop :=
  ∀ loc id archive, d.stat path = .ok ⟨loc, .file id⟩ →
    Archive.open_ (d.content id) = .ok archive → (archive.find? resource).isSome →
      Root.isArchivePath path = true ∧ resource ∈ archive.names

/-- An entry that is no file is no archive, and hides nothing. -/
theorem Disk.shows_of_not_isFile (h : d.isFile path = false) : d.Shows path resource := by
  intro loc id _ hstat
  rw [Disk.isFile_eq_true_iff.mpr ⟨loc, id, hstat⟩] at h
  cases h

namespace Root

/-- Whether a root finds a resource that it holds: an archive by the bytes of the name, a
directory at a path that is not too long. -/
def finds (r : Root) (resource : String) : Bool :=
  r.has resource &&
    match r.store with
    | .directory => (Path.join r.origin resource).utf8ByteSize < Disk.pathLimit
    | .archive _ archive => (archive.find? resource).isSome

/-! ### One entry -/

variable {root? : Option Root} {found : Option Bytes}

/-- **What an entry yields** is found by its root. -/
theorem finds_of_entryBytes? (hd : d.Sound) (hroot : ofEntry? d c path ⟨[], []⟩ = .ok root?)
    (hnames : ∀ s ∈ Text.split '/' resource, IsName s) (hshows : d.Shows path resource)
    (h : entryBytes? d path resource = .ok (some bytes)) :
    ∃ r, root? = some r ∧ r.finds resource = true ∧ r.read d resource = .ok (.ok bytes) := by
  obtain ⟨loc, loc', id, hstat, hfile, hbytes⟩ | ⟨loc, id, archive, hstat, hopen, hread⟩ :=
    entryBytes?_eq_some_iff.mp h
  · -- a file that can be looked up was found by the walk
    obtain ⟨loc, names, hstat, hdirectory, hroot⟩ | ⟨_, _, _, hstat', -⟩ | ⟨_, _, hstat', -⟩ |
      ⟨_, _, hstat', -⟩ := ofEntry?_cases hroot
    · obtain ⟨hmem, hshort⟩ := (isFile_join_iff hd hstat (by simp) hdirectory hnames rfl).mp
        (Disk.isFile_eq_true_iff.mpr ⟨loc', id, hfile⟩)
      refine ⟨_, eq_some_of_mem hroot hmem, by simp [finds, has, hmem, hshort],
        read_eq_ok_iff.mpr ⟨hmem, ?_⟩⟩
      exact Disk.openPath_eq_ok_ok_iff.mpr ⟨loc', id, hfile, hbytes⟩
    all_goals
      rw [hstat] at hstat'
      cases hstat'
  · -- an archive that finds the resource lists it
    have hfind : (archive.find? resource).isSome := by
      rw [Option.isSome_iff_ne_none, ne_eq, ← Archive.read_eq_entryNotFound_iff, hread]
      simp
    obtain ⟨hpath, hmem⟩ := hshows loc id archive hstat hopen hfind
    have hmem : resource ∈ archiveNames archive.names ⟨[], []⟩ :=
      (mem_archiveNames_iff rfl).mpr ⟨hmem, not_endsWith_of_names hnames, rfl⟩
    have hroot' : ofEntry? d c path ⟨[], []⟩ = ofArchive? d c path id ⟨[], []⟩ := by
      unfold ofEntry?
      rw [hstat]
      exact if_pos hpath
    obtain ⟨archive', hopen', hroot⟩ := bind_eq_ok_iff.mp (hroot'.symm.trans hroot)
    rw [mapError_eq_ok_iff, hopen] at hopen'
    obtain rfl := Except.ok.inj hopen'
    exact ⟨_, eq_some_of_mem (pure_eq_ok_iff.mp hroot) hmem, by simp [finds, has, hmem, hfind],
      read_eq_ok_iff.mpr ⟨hmem, hread⟩⟩

/-- **What an entry does not yield** is not found by its root. -/
theorem not_finds_of_entryBytes? (hd : d.Sound)
    (hroot : ofEntry? d c path ⟨[], []⟩ = .ok root?)
    (hnames : ∀ s ∈ Text.split '/' resource, IsName s)
    (h : entryBytes? d path resource = .ok none) : ∀ r ∈ root?, r.finds resource = false := by
  rintro r rfl
  rw [Bool.eq_false_iff]
  intro hfinds
  obtain ⟨hhas, hfinds⟩ := Bool.and_eq_true_iff.mp hfinds
  have hmem : resource ∈ r.resources := by simpa [has] using hhas
  obtain ⟨loc, names, hstat, hdirectory, rfl⟩ | ⟨loc, id, archive, hstat, hopen, rfl⟩ :=
    ofEntry?_eq_some hroot
  · have hfile := (isFile_join_iff hd hstat (by simp) hdirectory hnames rfl).mpr
      ⟨hmem, of_decide_eq_true hfinds⟩
    obtain ⟨loc', id, hfile⟩ := Disk.isFile_eq_true_iff.mp hfile
    have hsome := entryBytes?_eq_some_iff.mpr (Or.inl ⟨loc, loc', id, hstat, hfile, rfl⟩)
    rw [h] at hsome
    cases hsome
  · unfold entryBytes? at h
    rw [hstat] at h
    dsimp only at h
    obtain hinvalid | ⟨archive', hopen', hnone⟩ := archiveBytes?_eq_none_iff.mp h
    · rw [hopen] at hinvalid
      cases hinvalid
    · rw [hopen] at hopen'
      cases hopen'
      simp [hnone] at hfinds

/-! ### Entries in order -/

/-- **What some entries yield** is what is read from the first of their roots that finds it, and
nothing if none does. -/
theorem find?_of_firstBytes? (hd : d.Sound) {paths : List String} {found? : List (Option Root)}
    (hroots : List.Forall₂ (fun path root? => ofEntry? d c path ⟨[], []⟩ = .ok root?) paths found?)
    (hnames : ∀ s ∈ Text.split '/' resource, IsName s)
    (hshows : ∀ path ∈ paths, d.Shows path resource)
    (h : firstBytes? d resource paths = .ok found) :
    Option.Rel (fun bytes r => r.read d resource = .ok (.ok bytes)) found
      ((found?.filterMap id).find? (·.finds resource)) := by
  induction hroots with
  | nil =>
      cases h
      exact .none
  | @cons path root? paths found? hroot _ ih =>
      obtain ⟨hpath, hpaths⟩ := List.forall_mem_cons.mp hshows
      obtain ⟨_ | bytes, hentry, h⟩ := bind_eq_ok_iff.mp h
      · have hnot := not_finds_of_entryBytes? hd hroot hnames hentry
        cases root? with
        | none => exact ih hpaths h
        | some r =>
            rw [List.filterMap_cons_some (f := id) rfl,
              List.find?_cons_of_neg (by simp [hnot r rfl])]
            exact ih hpaths h
      · cases h
        obtain ⟨r, rfl, hfinds, hread⟩ := finds_of_entryBytes? hd hroot hnames hpath hentry
        rw [List.filterMap_cons_some (f := id) rfl, List.find?_cons_of_pos (by exact hfinds)]
        exact .some hread

/-- **What a loader yields for the name of a class** is what is read from the first of its roots
that finds the class file, and nothing if none does. -/
theorem located_of_discovered (hd : d.Sound) {roots : List Root}
    (hroots : discoverOwn d c ⟨[], []⟩ = .ok roots) {name : String}
    (hname : "" ∉ Text.split '/' (ClassFile.resourceName name))
    (hshows : ∀ path ∈ c.loader.localPaths, d.Shows path (ClassFile.resourceName name))
    {found : Option Bytes} (h : c.loader.classBytes? d name = .ok found) :
    (found.isSome ↔ ∃ r ∈ roots, r.finds (ClassFile.resourceName name) = true) ∧
      ∀ bytes, found = some bytes →
        ∃ r, roots.find? (·.finds (ClassFile.resourceName name)) = some r ∧
          r.read d (ClassFile.resourceName name) = .ok (.ok bytes) := by
  obtain ⟨found?, hentries, hroots⟩ := bind_eq_ok_iff.mp hroots
  rw [pure_eq_ok_iff] at hroots
  have hrel := find?_of_firstBytes? hd (mapM_eq_ok_iff.mp hentries)
    (fun _ => ClassFile.isName_of_mem_split hname) hshows h
  rw [← hroots] at hrel
  cases hfirst : roots.find? (·.finds (ClassFile.resourceName name)) with
  | none =>
      rw [hfirst] at hrel
      cases hrel
      simpa using hfirst
  | some r =>
      rw [hfirst] at hrel
      cases hrel with
      | some hread =>
          have hfinds := List.find?_some hfirst
          refine ⟨iff_of_true rfl ⟨r, List.mem_of_find?_eq_some hfirst, hfinds⟩, ?_⟩
          rintro _ ⟨⟩
          exact ⟨r, rfl, hread⟩

/-- An archive with one class file. -/
def smallArchive : Bytes := Archive.pack [("A.class", [1])]

/-- The archive opens, lists its class file and yields it. -/
theorem smallArchive_opens :
    ∃ archive, Archive.open_ smallArchive = .ok archive ∧ archive.names = ["A.class"] ∧
      archive.read smallArchive "A.class" = .ok (.ok [1]) := by
  have hopen : ((Archive.open_ smallArchive).toOption.map fun archive => (archive.names,
      (archive.read smallArchive "A.class").toOption.bind (·.toOption))) =
        some (["A.class"], some [1]) := by decide +kernel
  obtain ⟨archive, hopen, hcontent⟩ := Option.map_eq_some_iff.mp hopen
  obtain ⟨hnames, hread⟩ := Prod.mk.inj hcontent
  obtain ⟨_, hread, hbytes⟩ := Option.bind_eq_some_iff.mp hread
  obtain rfl := toOption_eq_some_iff.mp hbytes
  exact ⟨archive, toOption_eq_some_iff.mp hopen, hnames, toOption_eq_some_iff.mp hread⟩

/-- A disk with an archive between two directories, all of them with class files. -/
def mixedDisk : Disk where
  entries := [(["c"], .directory), (["c", "B.class"], .file 0), (["a.jar"], .file 1),
    (["e"], .directory), (["e", "A.class"], .file 2)]
  contents := [[0], smallArchive, [2]]

/-- A loader for the three of them in this order. -/
def mixedLoader : Chain :=
  ⟨⟨⟨1⟩, "app", [Url.ofPath "/c", Url.ofPath "/a.jar", Url.ofPath "/e"]⟩, []⟩

/-- The class file of the archive comes before that of the directory behind it. -/
theorem located_of_discovered_mixed :
    ∃ roots, discoverOwn mixedDisk mixedLoader ⟨[], []⟩ = .ok roots ∧
      roots.map (·.resources) = [["B.class"], ["A.class"], ["A.class"]] ∧
      mixedLoader.loader.classBytes? mixedDisk "A" = .ok (some [1]) ∧
      ∃ r, roots.find? (·.finds "A.class") = some r ∧
        r.read mixedDisk "A.class" = .ok (.ok [1]) := by
  have hsound : mixedDisk.Sound := by decide +kernel
  have hroots : ((discoverOwn mixedDisk mixedLoader ⟨[], []⟩).toOption.map fun roots =>
      roots.map (·.resources)) = some [["B.class"], ["A.class"], ["A.class"]] := by decide +kernel
  have hpaths : mixedLoader.loader.localPaths = ["/c", "/a.jar", "/e"] := by decide +kernel
  have hfiles : mixedDisk.isFile "/c" = false ∧ mixedDisk.isFile "/e" = false ∧
      (mixedDisk.stat "/a.jar").toOption = some ⟨["a.jar"], .file 1⟩ ∧
      isArchivePath "/a.jar" = true := by decide +kernel
  have hbytes : (mixedLoader.loader.classBytes? mixedDisk "A").toOption = some (some [1]) := by
    decide +kernel
  obtain ⟨roots, hroots, hresources⟩ := Option.map_eq_some_iff.mp hroots
  obtain ⟨hc, he, hstat, hpath⟩ := hfiles
  have hshows : ∀ path ∈ mixedLoader.loader.localPaths, mixedDisk.Shows path "A.class" := by
    rw [hpaths]
    simp only [List.forall_mem_cons, List.not_mem_nil, false_implies, implies_true, and_true]
    refine ⟨Disk.shows_of_not_isFile hc, ?_, Disk.shows_of_not_isFile he⟩
    intro loc id archive hstat' hopen _
    rw [toOption_eq_some_iff.mp hstat] at hstat'
    cases hstat'
    obtain ⟨archive', hopen', hnames, -⟩ := smallArchive_opens
    obtain rfl : archive' = archive := Except.ok.inj (hopen'.symm.trans hopen)
    exact ⟨hpath, by rw [hnames]; exact List.mem_cons_self⟩
  have hname : "" ∉ Text.split '/' (ClassFile.resourceName "A") := by decide
  rw [toOption_eq_some_iff] at hroots hbytes
  exact ⟨roots, hroots, hresources, hbytes,
    (located_of_discovered hsound hroots hname hshows hbytes).2 _ rfl⟩

end Root

/-! ### A URL with escaped slashes -/

/-- Bytes below 128 are characters. -/
theorem Text.Utf8.decodeLossyChars_ascii {bytes : Bytes} (h : ∀ b ∈ bytes, b < 0x80) :
    decodeLossyChars bytes = bytes.map fun b => Char.ofNat b.toNat := by
  induction bytes with
  | nil => rw [decodeLossyChars, List.map_nil]
  | cons b bytes ih =>
      obtain ⟨hb, hbytes⟩ := List.forall_mem_cons.mp h
      rw [decodeLossyChars, front, if_pos hb, List.map_cons, ← ih hbytes]
      rfl

/-- Dots with slashes between them, and one in front, are so many slashes and dots. -/
theorem Root.toList_dots (k : Nat) :
    '/' :: (dots (k + 1)).toList = (List.replicate (k + 1) ['/', '.']).flatten := by
  have hslash : "/".toList = ['/'] := by decide
  have hdot : ".".toList = ['.'] := by decide
  unfold dots
  induction k with
  | zero => rfl
  | succ k ih =>
      rw [List.replicate_succ, Text.join_cons (by simp), String.toList_append,
        String.toList_append, hslash, hdot,
        List.replicate_succ (n := k + 1) (a := ['/', '.']), List.flatten_cons, ← ih]
      rfl

namespace Url

open Text.Utf8
open Root (dots relative_dots toList_dots)

/-- A dot ends the name of no drive. -/
theorem endsWithDrive_concat (front : Bytes) : endsWithDrive (front ++ [46]) = false := by
  unfold endsWithDrive
  rw [List.reverse_concat]
  split
  · rename_i heq
    obtain ⟨rfl, -⟩ := List.cons.inj heq
    rfl
  · rfl

/-- So many slashes in front of dots, in the form that they have inside of a segment. -/
def escapedDots (k : Nat) : List Char := (List.replicate k ['%', '2', 'F', '.']).flatten

/-- The escaped form of the dots stands for the slashes and dots themselves. -/
theorem unescape_escapedDots (k : Nat) :
    unescapeBytes ((escapedDots k).flatMap String.utf8EncodeChar) =
      (List.replicate k [47, 46]).flatten := by
  have hbytes : ['%', '2', 'F', '.'].flatMap String.utf8EncodeChar = [37, 50, 70, 46] := by decide
  unfold escapedDots
  induction k with
  | zero => rfl
  | succ k ih =>
      rw [List.replicate_succ, List.flatten_cons, List.flatMap_append, hbytes,
        List.replicate_succ, List.flatten_cons, ← ih]
      rfl

/-- The path that a URL with escaped slashes stands for. -/
theorem segmentsPath_escapedDots (k : Nat) :
    segmentsPath ["dd", String.ofList ('s' :: escapedDots (k + 1))] =
      Path.join "/dd/s" (dots (k + 1)) := by
  have hdd : unescapeBytes (encode "dd") = [100, 100] := by decide
  have hs : unescapeBytes (encode (String.ofList ('s' :: escapedDots (k + 1)))) =
      115 :: (List.replicate (k + 1) [47, 46]).flatten := by
    unfold encode
    rw [String.toList_ofList, ← unescape_escapedDots]
    rfl
  have hbytes : ["dd", String.ofList ('s' :: escapedDots (k + 1))].flatMap
      (fun s => 47 :: unescapeBytes (encode s)) =
        [47, 100, 100, 47, 115] ++ (List.replicate (k + 1) [47, 46]).flatten := by
    rw [List.flatMap_cons, List.flatMap_singleton, hdd, hs]
    rfl
  have hdrive : endsWithDrive
      ([47, 100, 100, 47, 115] ++ (List.replicate (k + 1) [47, 46]).flatten) = false := by
    rw [List.replicate_succ', List.flatten_concat, ← List.append_assoc, List.append_cons]
    exact endsWithDrive_concat _
  have hascii : ∀ b ∈ [47, 100, 100, 47, 115] ++ (List.replicate (k + 1) [47, 46]).flatten,
      b < (0x80 : UInt8) := by
    rw [List.forall_mem_append, List.forall_mem_flatten]
    refine ⟨by simp, fun l hl => ?_⟩
    rw [List.eq_of_mem_replicate hl]
    simp
  have hjoin : Path.join "/dd/s" (dots (k + 1)) = "/dd/s" ++ "/" ++ dots (k + 1) := by
    unfold Path.join
    rw [if_neg (by simp [relative_dots]), if_neg (by decide)]
  have hslash : ("/dd/s" ++ "/").toList = ['/', 'd', 'd', '/', 's'] ++ ['/'] := by decide
  unfold segmentsPath decodeLossy
  dsimp only
  rw [hbytes, hdrive, if_neg (by simp), decodeLossyChars_ascii hascii, hjoin,
    ← String.toList_inj, String.toList_ofList, String.toList_append, hslash, List.append_assoc,
    List.singleton_append, toList_dots, List.map_append, List.map_flatten, List.map_replicate]
  rfl

end Url

namespace Root

/-! ### What is listed and not found, or found and not listed -/

/-- A loader with one entry yields what the entry does. -/
theorem classBytes?_of_entry {l : Loader} {name : String} (hpaths : l.localPaths = [path])
    (h : entryBytes? d path (ClassFile.resourceName name) = .ok found) :
    l.classBytes? d name = .ok found := by
  unfold Loader.classBytes?
  rw [hpaths]
  show (entryBytes? d path _ >>= _) = _
  rw [h]
  cases found <;> rfl

/-- An entry that is a directory is scanned as one. -/
theorem ofEntry?_of_directory {f : Filter} {loc : Location}
    (hstat : d.stat path = .ok ⟨loc, .directory⟩) :
    ofEntry? d c path f = ofDirectory? d c path f := by
  unfold ofEntry?
  rw [hstat]

/-- A directory holds no resource at a path where there is no file. -/
theorem entryBytes?_of_not_isFile {loc : Location} (hstat : d.stat path = .ok ⟨loc, .directory⟩)
    (hfile : d.isFile (Path.join path resource) = false) :
    entryBytes? d path resource = .ok none := by
  unfold entryBytes?
  rw [hstat]
  exact if_neg (by simp [hfile])

/-- A file that is an archive and not named like one. -/
def unnamedDisk : Disk where
  entries := [(["lib.bin"], .file 0)]
  contents := [smallArchive]

/-- A loader for this file. -/
def unnamedLoader : Chain := ⟨⟨⟨1⟩, "app", [Url.ofPath "/lib.bin"]⟩, []⟩

/-- A loader for an archive whose entry is listed under a name that its bytes are not. -/
def misnamedLoader : Chain := ⟨⟨⟨1⟩, "app", [Url.ofPath "/p.jar"]⟩, []⟩

/-- The entries of both loaders, on disks that are sound. -/
theorem unnamed_misnamed_entries :
    (unnamedDisk.Sound ∧ unnamedLoader.loader.localPaths = ["/lib.bin"] ∧
      (unnamedDisk.stat "/lib.bin").toOption = some ⟨["lib.bin"], .file 0⟩ ∧
      isArchivePath "/lib.bin" = false) ∧
    (ClassIndex.rawDisk.Sound ∧ misnamedLoader.loader.localPaths = ["/p.jar"] ∧
      (ClassIndex.rawDisk.stat "/p.jar").toOption = some ⟨["p.jar"], .file 0⟩ ∧
      isArchivePath "/p.jar" = true) ∧
    archiveNames ["├ë.class"] ⟨[], []⟩ = ["├ë.class"] ∧
    ((Archive.open_ ClassIndex.rawArchive).toOption.map fun archive =>
      (archive.names, (archive.find? "├ë.class").isNone,
        ((archive.read ClassIndex.rawArchive "É.class").toOption.bind (·.toOption)).isSome)) =
      some (["├ë.class"], true, true) := by decide +kernel

/-- It has no root, and a class file is found in it. -/
theorem unnamedDisk_finds :
    discoverOwn unnamedDisk unnamedLoader ⟨[], []⟩ = .ok [] ∧
      unnamedLoader.loader.classBytes? unnamedDisk "A" = .ok (some [1]) := by
  obtain ⟨⟨-, hpaths, hstat, hpath⟩, -⟩ := unnamed_misnamed_entries
  rw [toOption_eq_some_iff] at hstat
  obtain ⟨archive, hopen, -, hread⟩ := smallArchive_opens
  constructor
  · show discoverOwn _ _ _ = .ok (none : Option Root).toList
    refine discoverOwn_of_entry hpaths ?_
    unfold ofEntry?
    rw [hstat]
    exact if_neg (by simp [hpath])
  · exact classBytes?_of_entry hpaths
      (entryBytes?_eq_some_iff.mpr (Or.inr ⟨_, 0, archive, hstat, hopen, hread⟩))

/-- The archive lists its entry under a name by which it does not find it, and yields it under one
that it does not list. -/
theorem misnamed_opens :
    ∃ archive, Archive.open_ ClassIndex.rawArchive = .ok archive ∧
      archive.names = ["├ë.class"] ∧ archive.find? "├ë.class" = none ∧
      ∃ bytes, archive.read ClassIndex.rawArchive "É.class" = .ok (.ok bytes) := by
  obtain ⟨-, -, -, hopen⟩ := unnamed_misnamed_entries
  obtain ⟨archive, hopen, hcontent⟩ := Option.map_eq_some_iff.mp hopen
  simp only [Prod.mk.injEq, Option.isNone_iff_eq_none] at hcontent
  obtain ⟨hnames, hfind, hread⟩ := hcontent
  obtain ⟨bytes, hread⟩ := Option.isSome_iff_exists.mp hread
  obtain ⟨_, hread, hbytes⟩ := Option.bind_eq_some_iff.mp hread
  obtain rfl := toOption_eq_some_iff.mp hbytes
  exact ⟨archive, toOption_eq_some_iff.mp hopen, hnames, hfind, bytes,
    toOption_eq_some_iff.mp hread⟩

/-- The entry is found under its bytes, which are not listed, and not under what is. -/
theorem misnamed_finds :
    ∃ r, discoverOwn ClassIndex.rawDisk misnamedLoader ⟨[], []⟩ = .ok [r] ∧
      r.resources = ["├ë.class"] ∧
      (∃ bytes, misnamedLoader.loader.classBytes? ClassIndex.rawDisk "É" = .ok (some bytes)) ∧
      misnamedLoader.loader.classBytes? ClassIndex.rawDisk "├ë" = .ok none := by
  obtain ⟨-, ⟨-, hpaths, hstat, hpath⟩, hlisted, -⟩ := unnamed_misnamed_entries
  rw [toOption_eq_some_iff] at hstat
  obtain ⟨archive, hopen, hnames, hfind, bytes, hread⟩ := misnamed_opens
  replace hlisted : archiveNames archive.names ⟨[], []⟩ = ["├ë.class"] := hnames ▸ hlisted
  refine ⟨⟨misnamedLoader, "/p.jar", .archive 0 archive, ["├ë.class"]⟩, ?_, rfl, ⟨bytes, ?_⟩, ?_⟩
  · show discoverOwn _ _ _ = .ok (some _ : Option Root).toList
    refine discoverOwn_of_entry hpaths ?_
    unfold ofEntry? ofArchive?
    rw [hstat]
    dsimp only
    have hcontent : ClassIndex.rawDisk.content 0 = ClassIndex.rawArchive := rfl
    rw [if_pos hpath, hcontent, hopen]
    show Except.ok (if (archiveNames archive.names _).isEmpty then none else _) = _
    rw [hlisted]
    rfl
  · exact classBytes?_of_entry hpaths
      (entryBytes?_eq_some_iff.mpr (Or.inr ⟨_, 0, archive, hstat, hopen, hread⟩))
  · refine classBytes?_of_entry hpaths ?_
    unfold entryBytes?
    rw [hstat]
    exact archiveBytes?_eq_none_iff.mpr (Or.inr ⟨archive, hopen, hfind⟩)

/-- A loader for a path with dots at its end, in whose URL the slashes in front of them are
escaped. -/
def dottedLoader (k : Nat) : Chain :=
  ⟨⟨⟨1⟩, "app", [⟨"file", some "", .segments ["dd",
    String.ofList ('s' :: Url.escapedDots (k + 1))], none, none⟩]⟩, []⟩

/-- The URL stands for a path that ends in the dots. -/
theorem localPaths_dottedLoader (k : Nat) :
    (dottedLoader k).loader.localPaths = [Path.join "/dd/s" (dots (k + 1))] := by
  rw [← Url.segmentsPath_escapedDots]
  rfl

/-- The file in the inner directory is listed and not found. -/
theorem dottedLoader_finds :
    ∃ roots, discoverOwn deepDisk (dottedLoader 2044) ⟨[], []⟩ = .ok roots ∧
      (∃ r ∈ roots, r.has "A.class" = true) ∧
      (dottedLoader 2044).loader.classBytes? deepDisk "A" = .ok none := by
  have hpaths : (dottedLoader 2044).loader.localPaths = [deepPath] := by
    rw [localPaths_dottedLoader, deepPath]
  obtain ⟨root?, hroot, ⟨r, hr, hhas⟩, hfile⟩ := deepDisk_lists (dottedLoader 2044)
  have hstat := stat_deepPath
  have hname : ClassFile.resourceName "A" = "A.class" := by decide
  generalize dottedLoader 2044 = c at hpaths hroot ⊢
  generalize deepPath = directory at hpaths hroot hfile hstat
  refine ⟨root?.toList, discoverOwn_of_entry hpaths ?_, ⟨r, Option.mem_toList.mpr hr, hhas⟩,
    classBytes?_of_entry hpaths ?_⟩
  · rw [ofEntry?_of_directory hstat]
    exact hroot
  · rw [hname]
    exact entryBytes?_of_not_isFile hstat hfile

/-- **What is listed and not found, or found and not listed**: a class file in an archive that is
not named like one, one in an archive whose entry is listed under another name, and one at a path
that is too long. -/
theorem located_not_discovered :
    (unnamedDisk.Sound ∧ discoverOwn unnamedDisk unnamedLoader ⟨[], []⟩ = .ok [] ∧
      unnamedLoader.loader.classBytes? unnamedDisk "A" = .ok (some [1])) ∧
    (ClassIndex.rawDisk.Sound ∧ ∃ r,
      discoverOwn ClassIndex.rawDisk misnamedLoader ⟨[], []⟩ = .ok [r] ∧
      r.resources = ["├ë.class"] ∧
      (∃ bytes, misnamedLoader.loader.classBytes? ClassIndex.rawDisk "É" = .ok (some bytes)) ∧
      misnamedLoader.loader.classBytes? ClassIndex.rawDisk "├ë" = .ok none) ∧
    deepDisk.Sound ∧ (∃ roots, discoverOwn deepDisk (dottedLoader 2044) ⟨[], []⟩ = .ok roots ∧
      (∃ r ∈ roots, r.has "A.class" = true) ∧
      (dottedLoader 2044).loader.classBytes? deepDisk "A" = .ok none) ∧
    ∀ name ∈ ["A", "É", "├ë"], "" ∉ Text.split '/' (ClassFile.resourceName name) := by
  obtain ⟨⟨hunnamed, -⟩, ⟨hmisnamed, -⟩, -⟩ := unnamed_misnamed_entries
  exact ⟨⟨hunnamed, unnamedDisk_finds⟩, ⟨hmisnamed, misnamed_finds⟩, deepDisk_sound,
    dottedLoader_finds, by decide⟩

end Root

end Classpath
