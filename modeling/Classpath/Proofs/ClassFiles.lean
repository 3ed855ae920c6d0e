import Mathlib.Algebra.Group.Nat.Defs
import Mathlib.Data.List.GetD
import Mathlib.Data.List.Perm.Subperm
import Classpath.Proofs.Entries
import Classpath.Proofs.Growth

/-!
# The Class Files on a Disk

Whatever a loader finds is the content of a file of the disk or an entry of an archive among
these. `Disk.classFiles` lists all of them. An entry takes more than a byte of the directory
of its archive, so there are at most as many class files as the files of the disk have bytes,
and one for each file. This is the number that traversals of supertypes take their bound
from: no more classes than this can be told apart by their names.

## Main results

* `Archive.length_entries_le`: how many entries an archive has.
* `Disk.length_classFiles_le`: how many class files there are.
* `ClassDecl.mem_classFiles`: what a loader finds is a class file of the disk.
* `length_le_of_names`: how many names of classes there are.
* `ClassFile.length_interfaces_lt`: how many interfaces a class lists.
-/

namespace Classpath

variable {d : Disk}

/-! ### Archives -/

namespace Archive

variable {content : Array UInt8} {shift at_ next count : Nat}

/-- An entry of the directory ends behind where it begins, within the file. -/
theorem readEntry?_bounds {e : ArchiveEntry} (h : readEntry? content shift at_ = some (e, next)) :
    at_ < next ∧ next ≤ content.size := by
  unfold readEntry? at h
  dsimp only at h
  split at h
  · cases h
  · obtain ⟨rawName, -, h⟩ := Option.bind_eq_some_iff.mp h
    obtain ⟨extra, -, h⟩ := Option.bind_eq_some_iff.mp h
    split at h
    · cases h
    · rename_i hstop
      obtain ⟨e', -, h⟩ := Option.bind_eq_some_iff.mp h
      split at h
      · cases h
      · simp only [Option.pure_def, Option.some.injEq, Prod.mk.injEq] at h
        omega

/-- A directory has no more entries than there are bytes from where it begins. -/
theorem length_readEntries?_le {entries : List ArchiveEntry}
    (h : readEntries? content shift count at_ = some entries) :
    entries.length ≤ content.size - at_ := by
  induction count generalizing at_ entries with
  | zero =>
      cases h
      exact Nat.zero_le _
  | succ count ih =>
      obtain ⟨⟨e, next⟩, he, h⟩ := Option.bind_eq_some_iff.mp h
      obtain ⟨rest, hrest, h⟩ := Option.bind_eq_some_iff.mp h
      obtain ⟨hbegin, hend⟩ := readEntry?_bounds he
      have hle := ih hrest
      cases h
      rw [List.length_cons]
      omega

/-- Entries of which a later one has the name are left out, so there are no more than before. -/
theorem length_lastOfName_le (entries : List ArchiveEntry) :
    (lastOfName entries).length ≤ entries.length := by
  induction entries with
  | nil => exact Nat.le_refl _
  | cons e entries ih =>
      unfold lastOfName
      split
      · exact Nat.le_succ_of_le ih
      · exact Nat.succ_le_succ ih

/-- An archive has no more entries than its file has bytes, since each entry of the directory takes
some. -/
theorem length_readDirectory_le {e : EndRecord} {archive : Archive}
    (h : readDirectory content shift e = .ok archive) :
    archive.entries.length ≤ content.size := by
  unfold readDirectory at h
  split at h
  · cases h
  · split at h
    · rename_i entries hentries
      cases h
      calc (lastOfName entries).length ≤ entries.length := length_lastOfName_le entries
        _ ≤ content.size - _ := length_readEntries?_le hentries
        _ ≤ content.size := Nat.sub_le ..
    · cases h

/-- **An archive has no more entries than its file has bytes.** -/
theorem length_entries_le {content : Bytes} {archive : Archive}
    (h : open_ content = .ok archive) : archive.entries.length ≤ content.length := by
  have hbelow : ∀ stop fault, openBelow content.toArray stop fault = .ok archive →
      archive.entries.length ≤ content.length := by
    intro stop
    induction stop with
    | zero => exact fun _ h => by cases h
    | succ stop ih =>
        intro fault h
        unfold openBelow at h
        dsimp only at h
        split at h
        · split at h
          · exact ih _ h
          · split at h
            · rename_i hdirectory
              cases h
              simpa using length_readDirectory_le hdirectory
            · exact ih _ h
        · exact ih _ h
  exact hbelow _ _ h

/-- The contents of the entries that can be read. -/
def files (a : Archive) (content : Bytes) : List Bytes :=
  a.entries.filterMap fun e =>
    match readEntry content.toArray e with
    | .ok (.ok bytes) => some bytes
    | _ => none

/-- What is read under a name is the content of an entry. -/
theorem mem_files {a : Archive} {content bytes : Bytes} {name : String}
    (h : a.read content name = .ok (.ok bytes)) : bytes ∈ a.files content := by
  unfold read at h
  split at h
  · cases h
  · rename_i e hfind
    exact List.mem_filterMap.mpr ⟨e, List.mem_of_find?_eq_some hfind, by rw [h]⟩

/-- The second byte of the mark of an end record. -/
theorem number?_ne_endMark {content : Bytes} (h : (0x4B : UInt8) ∉ content) (at_ : Nat) :
    number? content.toArray at_ 4 ≠ some endMark := by
  intro hmark
  unfold number? at hmark
  split at hmark
  · rename_i hsize
    rw [List.size_toArray] at hsize
    have hbyte : (content.toArray.getD (at_ + 1) 0).toNat ≠ 0x4B := by
      intro heq
      have hlt : at_ + 1 < content.length := by omega
      have hget : content.toArray.getD (at_ + 1) 0 = content[at_ + 1] := by
        simp [Array.getD, hlt]
      have hmem : content[at_ + 1] ∈ content := List.getElem_mem hlt
      rw [← hget, UInt8.toNat_inj.mp (show _ = (0x4B : UInt8).toNat from heq)] at hmem
      exact h hmem
    simp only [List.range, List.range.loop, List.foldr, Option.some.injEq, endMark] at hmark
    have hfirst := (content.toArray.getD (at_ + 0) 0).toNat_lt
    have hsecond := (content.toArray.getD (at_ + 1) 0).toNat_lt
    omega
  · cases hmark

/-- A file without this byte is no archive. -/
theorem open_eq_of_not_mem {content : Bytes} (h : (0x4B : UInt8) ∉ content) :
    open_ content = .error .invalid := by
  have hbelow : ∀ stop fault, openBelow content.toArray stop fault = .error fault := by
    intro stop
    induction stop with
    | zero => exact fun _ => rfl
    | succ stop ih =>
        intro fault
        unfold openBelow
        rw [if_neg (number?_ne_endMark h stop)]
        exact ih fault
  exact hbelow _ _

end Archive

/-! ### Class files -/

/-- The class files in the content of a file: itself, and the entries if it is an archive. -/
def classFilesIn (content : Bytes) : List Bytes :=
  content ::
    match Archive.open_ content with
    | .ok archive => archive.files content
    | .error _ => []

/-- How many class files the files of a disk have room for: each is one itself, and an entry
of an archive takes more than a byte. -/
def Disk.capacity (d : Disk) : Nat :=
  d.contents.foldr (fun content room => content.length + 1 + room) 0

/-- Whatever may be found as a class file. -/
def Disk.classFiles (d : Disk) : List Bytes := d.contents.flatMap classFilesIn

/-- A file that is no archive for want of this byte is all there is in it. -/
theorem classFilesIn_of_not_mem {content : Bytes} (h : (0x4B : UInt8) ∉ content) :
    classFilesIn content = [content] := by
  rw [classFilesIn, Archive.open_eq_of_not_mem h]

/-- Where no content of the disk holds the first byte of an archive's marks, class files are files
by themselves. -/
theorem Disk.classFiles_of_not_mem {d : Disk}
    (h : ∀ content ∈ d.contents, (0x4B : UInt8) ∉ content) : d.classFiles = d.contents := by
  unfold classFiles
  generalize d.contents = contents at h
  induction contents with
  | nil => rfl
  | cons content contents ih =>
      obtain ⟨hfirst, hrest⟩ := List.forall_mem_cons.mp h
      rw [List.flatMap_cons, ih hrest, classFilesIn_of_not_mem hfirst]
      rfl

/-- One file holds no more class files than it has bytes, and one. -/
theorem length_classFilesIn_le (content : Bytes) :
    (classFilesIn content).length ≤ content.length + 1 := by
  unfold classFilesIn
  rw [List.length_cons]
  refine Nat.succ_le_succ ?_
  split
  · rename_i archive hopen
    exact Nat.le_trans (List.length_filterMap_le _ _) (Archive.length_entries_le hopen)
  · exact Nat.zero_le _

/-- **How many class files there are.** -/
theorem Disk.length_classFiles_le (d : Disk) :
    d.classFiles.length ≤ d.capacity := by
  unfold Disk.classFiles Disk.capacity
  induction d.contents with
  | nil => exact Nat.le_refl 0
  | cons content contents ih =>
      rw [List.flatMap_cons, List.length_append, List.foldr_cons]
      exact Nat.add_le_add (length_classFilesIn_le content) ih

/-- The content of a file is on the disk, unless it is empty. -/
theorem Disk.content_mem (d : Disk) (id : Nat) : d.content id ∈ d.contents ∨ d.content id = [] := by
  unfold Disk.content
  by_cases h : id < d.contents.length
  · rw [List.getD_eq_getElem _ _ h]
    exact Or.inl (List.getElem_mem h)
  · exact Or.inr (List.getD_eq_default _ _ (Nat.le_of_not_lt h))

/-- What an entry of a loader holds is a class file of the disk, unless it is empty. -/
theorem mem_classFiles_of_entryBytes? {path resource : String} {bytes : Bytes}
    (h : entryBytes? d path resource = .ok (some bytes)) : bytes ∈ d.classFiles ∨ bytes = [] := by
  obtain ⟨_, _, id, -, -, rfl⟩ | ⟨_, id, archive, -, hopen, hread⟩ := entryBytes?_eq_some_iff.mp h
  · refine (d.content_mem id).imp_left fun hmem => ?_
    exact List.mem_flatMap.mpr ⟨_, hmem, List.mem_cons_self⟩
  · obtain hmem | hempty := d.content_mem id
    · refine Or.inl (List.mem_flatMap.mpr ⟨_, hmem, ?_⟩)
      unfold classFilesIn
      rw [hopen]
      exact List.mem_cons_of_mem _ (Archive.mem_files hread)
    · rw [hempty] at hopen
      cases hopen

/-- What a loader finds is a class file of the disk, unless it is empty. -/
theorem mem_classFiles_of_classBytes? {l : Loader} {name : String} {bytes : Bytes}
    (h : l.classBytes? d name = .ok (some bytes)) : bytes ∈ d.classFiles ∨ bytes = [] := by
  obtain ⟨_, path, _, -, -, hpath⟩ := firstBytes?_eq_some_iff.mp h
  exact mem_classFiles_of_entryBytes? hpath

/-- **What a loader finds**, if it is a class, is a class file of the disk. -/
theorem ClassDecl.mem_classFiles {l : Loader} {name : String} {bytes : Bytes} {decl : ClassDecl}
    (h : l.classBytes? d name = .ok (some bytes)) (hdecl : ClassDecl.ofBytes bytes = .ok decl) :
    bytes ∈ d.classFiles := by
  refine (mem_classFiles_of_classBytes? h).resolve_right fun hempty => ?_
  rw [hempty] at hdecl
  cases hdecl

/-- **How many names of classes there are**: no more than class files. -/
theorem length_le_of_names {names : List String} (hnodup : names.Nodup)
    (h : ∀ n ∈ names, ∃ bytes ∈ d.classFiles, ∃ decl,
      ClassDecl.ofBytes bytes = .ok decl ∧ decl.name = n) :
    names.length ≤ d.capacity := by
  have hsub : names ⊆ d.classFiles.filterMap fun bytes =>
      (ClassDecl.ofBytes bytes).toOption.map (·.name) := by
    intro n hn
    obtain ⟨bytes, hbytes, decl, hdecl, hname⟩ := h n hn
    refine List.mem_filterMap.mpr ⟨bytes, hbytes, ?_⟩
    rw [hdecl, ← hname]
    rfl
  calc names.length ≤ _ := (hnodup.subperm hsub).length_le
    _ ≤ d.classFiles.length := List.length_filterMap_le _ _
    _ ≤ _ := d.length_classFiles_le

/-! ### Interfaces -/

/-- So many bytes hold numbers below that power of 256. -/
theorem Bytes.toNatBE_lt (bytes : Bytes) : Bytes.toNatBE bytes < 256 ^ bytes.length := by
  have hfold : ∀ (bytes : Bytes) (n : Nat),
      bytes.foldl (fun n b => 256 * n + b.toNat) n < (n + 1) * 256 ^ bytes.length := by
    intro bytes
    induction bytes with
    | nil => simp
    | cons b bytes ih =>
        intro n
        have hb := b.toNat_lt
        calc (b :: bytes).foldl (fun n b => 256 * n + b.toNat) n
            < (256 * n + b.toNat + 1) * 256 ^ bytes.length := ih _
          _ ≤ (256 * (n + 1)) * 256 ^ bytes.length := Nat.mul_le_mul_right _ (by omega)
          _ = (n + 1) * 256 ^ (b :: bytes).length := by
              rw [List.length_cons, Nat.pow_succ', ← Nat.mul_assoc, Nat.mul_comm 256]
  simpa [Bytes.toNatBE] using hfold bytes 0

namespace ClassFile

namespace Reader

variable {α β : Type} {input rest : Bytes} {n : Nat}

/-- A sequence of readers, taken apart. -/
theorem bind_eq_ok_iff {x : Reader α} {f : α → Reader β} {r : β × Bytes} :
    (x >>= f) input = .ok r ↔ ∃ a rest, x input = .ok (a, rest) ∧ f a rest = .ok r := by
  show (x input >>= fun p => f p.1 p.2) = _ ↔ _
  rw [Classpath.bind_eq_ok_iff]
  exact Prod.exists

/-- So a number that is read is below it. -/
theorem number_lt {k : Nat} (h : number n input = .ok (k, rest)) : k < 256 ^ n := by
  obtain ⟨front, rest', hfront, h⟩ := bind_eq_ok_iff.mp h
  cases h
  unfold bytes at hfront
  dsimp only at hfront
  split at hfront
  · rename_i hlength
    cases hfront
    calc Bytes.toNatBE (input.take n) < 256 ^ (input.take n).length := Bytes.toNatBE_lt _
      _ = 256 ^ n := by rw [hlength]
  · cases hfront

/-- A reader that is to read so many elements yields so many. -/
theorem length_times {read : Reader α} {as : List α} (h : times read n input = .ok (as, rest)) :
    as.length = n := by
  induction n generalizing input as rest with
  | zero =>
      cases h
      rfl
  | succ n ih =>
      obtain ⟨a, rest', -, h⟩ := bind_eq_ok_iff.mp h
      obtain ⟨as', rest'', has, h⟩ := bind_eq_ok_iff.mp h
      cases h
      rw [List.length_cons, ih has]

theorem length_list_lt {read : Reader α} {as : List α} (h : list read input = .ok (as, rest)) :
    as.length < 65536 := by
  obtain ⟨k, rest', hk, h⟩ := bind_eq_ok_iff.mp h
  rw [length_times h]
  exact number_lt hk

end Reader

/-- So a class file lists fewer interfaces than that. -/
theorem length_interfaces_lt {bytes : Bytes} {file : ClassFile} (h : ofBytes bytes = .ok file) :
    file.interfaces.length < 65536 := by
  obtain ⟨⟨file', rest⟩, hread, rfl⟩ := map_eq_ok_iff.mp h
  obtain ⟨found, _, -, hread⟩ := Reader.bind_eq_ok_iff.mp hread
  dsimp only at hread
  by_cases hmark : found ≠ mark
  · rw [if_pos hmark] at hread
    obtain ⟨_, _, hfail, -⟩ := Reader.bind_eq_ok_iff.mp hread
    cases hfail
  · rw [if_neg hmark] at hread
    obtain ⟨minor, _, -, hread⟩ := Reader.bind_eq_ok_iff.mp hread
    obtain ⟨major, _, -, hread⟩ := Reader.bind_eq_ok_iff.mp hread
    cases hversion : checkVersion major minor with
    | error e =>
        rw [hversion] at hread
        cases hread
    | ok =>
        rw [hversion] at hread
        obtain ⟨pool, _, -, hread⟩ := Reader.bind_eq_ok_iff.mp hread
        obtain ⟨access, _, -, hread⟩ := Reader.bind_eq_ok_iff.mp hread
        obtain ⟨thisClass, _, -, hread⟩ := Reader.bind_eq_ok_iff.mp hread
        obtain ⟨superClass, _, -, hread⟩ := Reader.bind_eq_ok_iff.mp hread
        obtain ⟨interfaces, _, hinterfaces, hread⟩ := Reader.bind_eq_ok_iff.mp hread
        obtain ⟨fields, _, -, hread⟩ := Reader.bind_eq_ok_iff.mp hread
        obtain ⟨methods, _, -, hread⟩ := Reader.bind_eq_ok_iff.mp hread
        obtain ⟨attributes, _, -, hread⟩ := Reader.bind_eq_ok_iff.mp hread
        cases hread
        exact Reader.length_list_lt hinterfaces

end ClassFile

/-- **A class lists fewer interfaces** than a number of two bytes can count. -/
theorem ClassDecl.length_interfaces_le {bytes : Bytes} {decl : ClassDecl}
    (h : ofBytes bytes = .ok decl) : decl.interfaces.length ≤ interfaceBound := by
  obtain ⟨file, hfile, h⟩ := bind_eq_ok_iff.mp h
  obtain ⟨name, -, h⟩ := bind_eq_ok_iff.mp h
  obtain ⟨superName, -, h⟩ := bind_eq_ok_iff.mp h
  obtain ⟨interfaces, hinterfaces, h⟩ := bind_eq_ok_iff.mp h
  obtain ⟨fields, -, h⟩ := bind_eq_ok_iff.mp h
  obtain ⟨methods, -, h⟩ := bind_eq_ok_iff.mp h
  obtain ⟨annotations, -, h⟩ := bind_eq_ok_iff.mp h
  cases h
  rw [← (mapM_eq_ok_iff.mp hinterfaces).length_eq]
  exact Nat.le_of_lt (ClassFile.length_interfaces_lt (mapError_eq_ok_iff.mp hfile))

/-- And so does every class that was read from one. -/
theorem DefinedClass.length_interfaces_le {bytes : Bytes} {c : DefinedClass}
    (h : ClassDecl.ofBytes bytes = .ok c.decl) : c.interfaces.length ≤ interfaceBound := by
  unfold interfaces
  rw [List.length_map]
  exact ClassDecl.length_interfaces_le h

end Classpath
