import Classpath.FileError
import Classpath.Path
import Classpath.Text.Utf8

/-!
# Disks

A disk is a tree of directories, files and links. Every place in it has one location, the
list of the names of the directories above it and its own; a path reaches a location by way
of links and double dots.

Files have an identity beside their location. Writing to a file keeps it, so whoever has the
file open sees the new content; removing a file only takes its location away, so whoever has
it open keeps the content.

## Main definitions

* `Disk`, `Disk.entry?`.
* `Disk.lookup`: where a path leads, with or without following a link at its end.
* `Disk.isDirectory`, `Disk.isFile`, `Disk.read`, `Disk.children`.
* `Disk.makeDirectories`, `Disk.write`, `Disk.makeLink`, `Disk.remove`.
-/

namespace Classpath

/-- A place on a disk: the names from the root down to it. -/
abbrev Location := List String

/-- What is at a location. -/
inductive Entry where
  /-- A file, by its identity. -/
  | file (id : Nat)
  | directory
  | link (target : String)
  deriving DecidableEq, Repr

/-- The content of a file system, and the directory that relative paths begin at. -/
structure Disk where
  entries : List (Location × Entry) := []
  /-- The contents of files by identity, those of removed files among them. -/
  contents : List Bytes := []
  current : Location := []

namespace Disk

/-- What is at a location; the root is always a directory. -/
def entry? (d : Disk) (at_ : Location) : Option Entry :=
  if at_ = [] then some .directory else d.entries.lookup at_

/-- The content of a file. -/
def content (d : Disk) (id : Nat) : Bytes := d.contents.getD id []

/-! ### Paths -/

/-- Where a path leads and what is there. -/
structure Found where
  location : Location
  entry : Entry
  deriving DecidableEq, Repr

/-- How many bytes a name may have. -/
def nameLimit : Nat := 255

/-- One byte more than a path may have. -/
def pathLimit : Nat := 4096

/-- How many links a path may lead through. -/
def linkLimit : Nat := 40

/-- Where the names of a path lead from a directory; `follow` says where the target of a link
and the names behind it lead. What has names behind it, even an empty one, has to be a
directory. -/
def through (d : Disk) (followLast : Bool)
    (follow : Location → List String → Except FileError Found) :
    Location → List String → Except FileError Found
  | at_, [] => .ok ⟨at_, .directory⟩
  | at_, name :: rest =>
    if name = "" || name = "." then through d followLast follow at_ rest
    else if name = ".." then through d followLast follow at_.dropLast rest
    else if nameLimit < name.utf8ByteSize then .error .nameTooLong
    else
      let here := at_ ++ [name]
      match d.entry? here with
      | none => .error .notFound
      | some .directory => through d followLast follow here rest
      | some (.file id) => if rest = [] then .ok ⟨here, .file id⟩ else .error .notDirectory
      | some (.link target) =>
        if rest = [] && !followLast then .ok ⟨here, .link target⟩
        else
          let start := if Path.isAbsolute target then [] else at_
          follow start (Text.split '/' target ++ rest)

/-- Where the names of a path lead from a directory, through at most so many links. -/
def resolve (d : Disk) (followLast : Bool) :
    (links : Nat) → Location → List String → Except FileError Found
  | 0 => through d followLast fun _ _ => .error .tooManyLinks
  | links + 1 => through d followLast (resolve d followLast links)

/-- Where a path leads. A link at its end is followed or found, as `followLast` says. -/
def lookup (d : Disk) (path : String) (followLast : Bool) : Except FileError Found :=
  if path.toList.contains '\x00' then .error .nulInPath
  else if path = "" then .error .notFound
  else if pathLimit ≤ path.utf8ByteSize then .error .nameTooLong
  else
    let start := if Path.isAbsolute path then [] else d.current
    resolve d followLast linkLimit start (Text.split '/' path)

/-- What a path leads to, links followed. -/
def stat (d : Disk) (path : String) : Except FileError Found := d.lookup path true

/-- Whether a path leads to a directory. -/
def isDirectory (d : Disk) (path : String) : Bool :=
  match d.stat path with
  | .ok ⟨_, .directory⟩ => true
  | _ => false

/-- Whether a path leads to a file. -/
def isFile (d : Disk) (path : String) : Bool :=
  match d.stat path with
  | .ok ⟨_, .file _⟩ => true
  | _ => false

/-- The absolute path of the current directory. -/
def currentPath (d : Disk) : String := Path.ofNames d.current

/-! ### Reading -/

/-- What reading from an opened path to its end yields. Directories can be opened, but not
read. -/
def openPath (d : Disk) (path : String) : Except FileError (Except FileError Bytes) := do
  let found ← d.stat path
  match found.entry with
  | .file id => return .ok (d.content id)
  | _ => return .error .isDirectory

/-- The content of the file a path leads to. -/
def read (d : Disk) (path : String) : Except FileError Bytes := do
  (← d.openPath path)

/-- What is in a directory, by name and in the order of names. -/
def childrenAt (d : Disk) (at_ : Location) : List (String × Entry) :=
  let found := d.entries.filterMap fun (location, entry) =>
    if location.dropLast = at_ then location.getLast?.map (·, entry) else none
  found.mergeSort fun a b => decide (a.1 ≤ b.1)

/-! ### Changing -/

/-- The disk with something at a location, in place of what was there. -/
def put (d : Disk) (at_ : Location) (entry : Entry) : Disk :=
  { d with entries := d.entries.filter (fun e => e.1 ≠ at_) ++ [(at_, entry)] }

/-- The disk with directories along some names, which lead on from a directory, and where
they lead to. -/
def makeDirectoriesFrom (d : Disk) : Location → List String → Except FileError (Disk × Location)
  | at_, [] => .ok (d, at_)
  | at_, name :: rest => do
    let path := Path.ofNames (at_ ++ [name])
    match d.stat path with
    | .ok ⟨location, .directory⟩ => makeDirectoriesFrom d location rest
    | .ok _ => .error .notDirectory
    | .error .notFound =>
      let (d, at_) := (d.put (at_ ++ [name]) .directory, at_ ++ [name])
      makeDirectoriesFrom d at_ rest
    | .error e => .error e

/-- The disk with all directories of an absolute path, and where it leads to. -/
def makeDirectories (d : Disk) (path : String) : Except FileError (Disk × Location) :=
  makeDirectoriesFrom d [] (Path.names path)

/-- The directories above an absolute path, made where they are missing, and the location in
the last of them that the path names. -/
def makeParents (d : Disk) (path : String) : Except FileError (Disk × Location) := do
  let names := Path.names path
  let (d, parent) ← makeDirectoriesFrom d [] names.dropLast
  return (d, parent ++ names.getLast?.toList)

/-- The disk with a content in the file a path leads to. A file that is there stays the file
it is. -/
def write (d : Disk) (path : String) (content : Bytes) : Except FileError Disk := do
  let (d, location) ← d.makeParents path
  match d.stat path with
  | .ok ⟨_, .file id⟩ => return { d with contents := d.contents.set id content }
  | .ok _ => .error .isDirectory
  | .error _ =>
    let id := d.contents.length
    return { d.put location (.file id) with contents := d.contents ++ [content] }

/-- The disk with a link. -/
def makeLink (d : Disk) (path target : String) : Except FileError Disk := do
  let (d, location) ← d.makeParents path
  return d.put location (.link target)

/-- The disk without what a path leads to, and without all that is in it. A link at the end
of the path is removed itself. -/
def remove (d : Disk) (path : String) : Except FileError Disk := do
  let found ← d.lookup path false
  return { d with entries := d.entries.filter fun e => !found.location.isPrefixOf e.1 }

end Disk

end Classpath
