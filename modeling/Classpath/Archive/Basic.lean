import Classpath.Archive.Checksum
import Classpath.Archive.CodePage
import Classpath.Archive.Inflate
import Classpath.Error

/-!
# Archives

An archive ends with a record that says where its directory begins; the directory lists the
entries, and each entry has a header of its own in front of its data. A comment may follow
the end record and other bytes may stand before the archive, so the record is looked for from
the end of the file, and how far everything is shifted is found out from where the first
entry of the directory really is.

Data is stored as it is (method 0) or deflated (method 8); an entry packed in any other way is
reported as one of an unknown method. The end records of very large archives (ZIP64) are not
looked for, though the wide sizes that an additional field of an entry may hold are read.

An entry is known by the bytes of its name: of entries with the same bytes the last one
counts. Bytes that are not the UTF-8 of the name they stand for are listed under that name
and found under none.

## Main definitions

* `ArchiveEntry`, `Archive.open_`: the entries in the content of a file.
* `Archive.names`, `Archive.read`.
-/

namespace Classpath

/-- An entry of an archive, as its directory describes it. -/
structure ArchiveEntry where
  rawName : Bytes
  name : String
  isEncrypted : Bool
  method : Nat
  checksum : Nat
  packedSize : Nat
  fullSize : Nat
  /-- Where the header in front of the data begins. -/
  headerStart : Nat
  deriving Repr

/-- The entries of an archive in the order of its directory, each name once. -/
structure Archive where
  entries : List ArchiveEntry

namespace Archive

/-- The little-endian number in `width` bytes. -/
def number? (content : Array UInt8) (start width : Nat) : Option Nat :=
  if start + width ≤ content.size then
    some ((List.range width).foldr (fun i n => (content.getD (start + i) 0).toNat + 256 * n) 0)
  else none

/-- The bytes from `start` on, `size` of them. -/
def slice? (content : Array UInt8) (start size : Nat) : Option Bytes :=
  if start + size ≤ content.size then some (content.extract start (start + size)).toList
  else none

/-- The mark of the header in front of an entry. -/
def localMark : Nat := 0x04034B50

/-- The mark of an entry of the directory. -/
def directoryMark : Nat := 0x02014B50

/-- The mark of the record at the end. -/
def endMark : Nat := 0x06054B50

/-! ### The end record -/

/-- The record at the end of an archive. -/
structure EndRecord where
  disk : Nat
  directoryDisk : Nat
  countOnDisk : Nat
  count : Nat
  directoryOffset : Nat

/-- The end record at a position, if it and its comment are complete. -/
def readEnd? (content : Array UInt8) (at_ : Nat) : Option EndRecord :=
  let field (offset width : Nat) : Nat := (number? content (at_ + offset) width).getD 0
  if content.size < at_ + 22 then none
  else if content.size < at_ + 22 + field 20 2 then none
  else some ⟨field 4 2, field 6 2, field 8 2, field 10 2, field 16 4⟩

/-- Where a directory entry begins, first tried at `start`, then searched from there up to
`stop`. -/
def findEntry (content : Array UInt8) (stop : Nat) : (room start : Nat) → Option Nat
  | 0, _ => none
  | room + 1, start =>
    if stop < start + 4 then none
    else if number? content start 4 = some directoryMark then some start
    else findEntry content stop room (start + 1)

/-- How far an archive is shifted whose end record is at `at_`, if its directory begins
anywhere. -/
def shift? (content : Array UInt8) (at_ : Nat) (e : EndRecord) : Option Nat :=
  if e.count = 0 then some (at_ - e.directoryOffset)
  else if at_ ≤ e.directoryOffset then none
  else
    (findEntry content at_ content.size e.directoryOffset).map fun start =>
      start - e.directoryOffset

/-! ### The directory -/

/-- The largest number of four bytes, which says that the real one is elsewhere. -/
def elsewhere : Nat := 0xFFFFFFFF

/-- A field of a record of sizes, and what follows it: eight bytes if the record is complete
or the field is needed, otherwise none. -/
def wideField (isComplete : Bool) (value : Nat) (data : Bytes) : Option (Nat × Bytes) :=
  if isComplete || value = elsewhere then
    if 8 ≤ data.length then some (Bytes.toNatLE (data.take 8), data.drop 8) else none
  else some (value, data)

/-- An entry with what an additional field says about it: sizes of more than four bytes, a
name in UTF-8, which has to belong to the plain name, or how the entry is encrypted. -/
def applyExtra (e : ArchiveEntry) (kind : Nat) (data : Bytes) : Option ArchiveEntry :=
  if kind = 0x0001 then do
    let isComplete := 24 ≤ data.length
    let (fullSize, data) ← wideField isComplete e.fullSize data
    let (packedSize, data) ← wideField isComplete e.packedSize data
    let (headerStart, _) ← wideField isComplete e.headerStart data
    return { e with fullSize, packedSize, headerStart }
  else if kind = 0x7075 then
    if data.length < 5 then none
    else if Bytes.toNatLE ((data.drop 1).take 4) ≠ (crc32 e.rawName).toNat then none
    else
      match Text.Utf8.decode (data.drop 5) with
      | .ok name => some { e with rawName := data.drop 5, name }
      | .error _ => none
  else if kind = 0x9901 then
    let isKnown := data.length = 7 && (data.drop 2).take 2 = [0x41, 0x45] &&
      (data.take 2 = [1, 0] || data.take 2 = [2, 0]) &&
      1 ≤ data.getD 4 0 && data.getD 4 0 ≤ 3
    if isKnown then some { e with method := Bytes.toNatLE (data.drop 5) } else none
  else some e

/-- An entry with all its additional fields. A single byte behind them means nothing. -/
def applyExtras : (room : Nat) → ArchiveEntry → Bytes → Option ArchiveEntry
  | room + 1, e, a :: b :: c :: d :: rest =>
    let length := Bytes.toNatLE [c, d]
    if rest.length < length then none
    else
      match applyExtra e (Bytes.toNatLE [a, b]) (rest.take length) with
      | none => none
      | some e => applyExtras room e (rest.drop length)
  | _, _, [_, _] => none
  | _, _, [_, _, _] => none
  | _, e, _ => some e

/-- The number that stands for encryption in place of a method of packing. -/
def encryptedMethod : Nat := 99

/-- The entry of the directory at a position, and where the next one begins. -/
def readEntry? (content : Array UInt8) (shift at_ : Nat) : Option (ArchiveEntry × Nat) := do
  let field (offset width : Nat) : Nat := (number? content (at_ + offset) width).getD 0
  if content.size < at_ + 46 || field 0 4 ≠ directoryMark then none
  let nameLength := field 28 2
  let extraLength := field 30 2
  let stop := at_ + 46 + nameLength + extraLength + field 32 2
  let rawName ← slice? content (at_ + 46) nameLength
  let extra ← slice? content (at_ + 46 + nameLength) extraLength
  if content.size < stop then none
  let flags := field 8 2
  let plain : ArchiveEntry := {
    rawName
    name := nameOf (flags.testBit 11) rawName
    isEncrypted := flags.testBit 0
    method := field 10 2
    checksum := field 16 4
    packedSize := field 20 4
    fullSize := field 24 4
    headerStart := field 42 4 }
  let e ← applyExtras extraLength plain extra
  if e.method = encryptedMethod then none
  return ({ e with headerStart := e.headerStart + shift }, stop)

/-- So many entries of the directory, from a position on. -/
def readEntries? (content : Array UInt8) (shift : Nat) :
    (count at_ : Nat) → Option (List ArchiveEntry)
  | 0, _ => some []
  | count + 1, at_ => do
    let (e, next) ← readEntry? content shift at_
    return e :: (← readEntries? content shift count next)

/-- The entries of which none with the same name follows. -/
def lastOfName : List ArchiveEntry → List ArchiveEntry
  | [] => []
  | e :: rest =>
    if rest.any (·.rawName = e.rawName) then lastOfName rest else e :: lastOfName rest

/-- The directory that an end record leads to. -/
def readDirectory (content : Array UInt8) (shift : Nat) (e : EndRecord) :
    Except ArchiveError Archive :=
  if e.disk ≠ e.directoryDisk then .error .severalParts
  else
    match readEntries? content shift e.countOnDisk (e.directoryOffset + shift) with
    | some entries => .ok ⟨lastOfName entries⟩
    | none => .error .invalid

/-- The archive whose end record begins below a position: the last record that leads to a
directory counts, and if none does, the fault of the directory that was tried last. -/
def openBelow (content : Array UInt8) :
    (stop : Nat) → (fault : ArchiveError) → Except ArchiveError Archive
  | 0, fault => .error fault
  | at_ + 1, fault =>
    if number? content at_ 4 = some endMark then
      let placed := do
        let record ← readEnd? content at_
        return (record, ← shift? content at_ record)
      match placed with
      | none => openBelow content at_ fault
      | some (record, shift) =>
        match readDirectory content shift record with
        | .ok archive => .ok archive
        | .error e => openBelow content at_ e
    else openBelow content at_ fault

/-- The archive in the content of a file. -/
def open_ (content : Bytes) : Except ArchiveError Archive :=
  let content := content.toArray
  openBelow content content.size .invalid

/-! ### Entries -/

/-- The names of the entries. -/
def names (a : Archive) : List String := a.entries.map (·.name)

/-- The entry that is found under a name. -/
def find? (a : Archive) (name : String) : Option ArchiveEntry :=
  a.entries.find? (·.rawName = Text.Utf8.encode name)

/-- Where the data of an entry begins: behind its own header, whose lengths count here. -/
def dataStart (content : Array UInt8) (e : ArchiveEntry) : Except ArchiveError Nat :=
  let field (offset width : Nat) : Nat := (number? content (e.headerStart + offset) width).getD 0
  if content.size < e.headerStart + 30 || field 0 4 ≠ localMark then .error .badHeader
  else .ok (e.headerStart + 30 + field 26 2 + field 28 2)

/-- What reading an entry to its end yields, if the checksum agrees. -/
def checked (e : ArchiveEntry) (bytes : Bytes) : Except FileError Bytes :=
  if (crc32 bytes).toNat = e.checksum then .ok bytes else .error .badChecksum

/-- What reading an entry of an archive to its end yields. `content` is that of the file
now. -/
def readEntry (content : Array UInt8) (e : ArchiveEntry) :
    Except ArchiveError (Except FileError Bytes) := do
  if e.isEncrypted then .error .passwordRequired
  let start ← dataStart content e
  let packed := (content.extract start (start + e.packedSize)).toList
  if e.method = 0 then return checked e packed
  else if e.method = 8 then
    match inflate packed with
    | some bytes => return checked e bytes
    | none => return .error .corruptStream
  else .error (.unknownMethod e.method)

/-- What reading the entry with a name to its end yields. -/
def read (a : Archive) (content : Bytes) (name : String) :
    Except ArchiveError (Except FileError Bytes) :=
  match a.find? name with
  | none => .error .entryNotFound
  | some e => readEntry content.toArray e

end Archive

end Classpath
