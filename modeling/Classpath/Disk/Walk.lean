import Classpath.Disk.Basic
import Classpath.Error

/-!
# Walking a directory tree

All files below a path, depth first and in the order of names. Links are followed; one that
leads back to a directory the walk is still inside of would never end, and is an error.

A directory that is entered through a link is none of the open ones, and each step otherwise
leads one name down, so the walk can be no deeper than the square of the number of entries.

## Main definitions

* `Disk.walk`.
-/

namespace Classpath.Disk

/-- A directory that a walk is inside of: the path it was reached by and its location. -/
structure OpenDirectory where
  path : String
  location : Location

/-- The directory a path leads to and what is in it. -/
def listing (d : Disk) (path : String) :
    Except FileError (Location × List (String × Entry)) := do
  let found ← d.stat path
  match found.entry with
  | .directory => return (found.location, d.childrenAt found.location)
  | _ => .error .notDirectory

/-- What is at the end of a link, if the walk may go there. -/
def followLink (d : Disk) (inside : List OpenDirectory) (path : String) :
    Except WalkError Entry :=
  match d.stat path with
  | .error e => .error (.entry path e)
  | .ok ⟨location, .directory⟩ =>
    match inside.find? (·.location = location) with
    | some ancestor => .error (.loop path ancestor.path)
    | none => .ok .directory
  | .ok found => .ok found.entry

/-- The files at and below a path, at which there is the given entry. The nearest directory
that the walk is inside of comes first in `inside`. -/
def filesBelow (d : Disk) :
    (depth : Nat) → (inside : List OpenDirectory) → String → Entry →
      Except WalkError (List String)
  | 0, _, path, _ => .error (.entry path .tooManyLinks)
  | depth + 1, inside, path, entry => do
    let entry ←
      match entry with
      | .link _ => d.followLink inside path
      | entry => pure entry
    match entry with
    | .file _ => return [path]
    | .link _ => return []
    | .directory =>
      let (location, children) ← (d.listing path).mapError (.entry path)
      let found ← children.mapM fun (name, child) =>
        filesBelow d depth (⟨path, location⟩ :: inside) (Path.join path name) child
      return found.flatten

/-- A depth that no walk exceeds. -/
def walkDepth (d : Disk) : Nat := (d.entries.length + 2) * (d.entries.length + 2)

/-- The files at and below a path, in the order of the walk. -/
def walk (d : Disk) (start : String) : Except WalkError (List String) := do
  let found ← (d.lookup start false).mapError (.entry start)
  d.filesBelow d.walkDepth [] start found.entry

end Classpath.Disk
