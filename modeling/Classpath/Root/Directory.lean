import Classpath.Disk.Walk
import Classpath.Filter
import Classpath.Root.Basic

/-!
# Directory roots

The resources of a directory are the files below it, by their paths from there. Only the
parts of the tree that a prefix can reach are walked: a prefix may end inside a segment, so
the walk begins at the directory in front of its last segment.

## Main definitions

* `Root.directoryNames`, `Root.ofDirectory?`.
-/

namespace Classpath.Root

/-- The part of a prefix in front of its last slash. -/
def directoryPart? (path : String) : Option String :=
  match Text.split '/' path with
  | [] => none
  | [_] => none
  | segments => some (Text.join "/" segments.dropLast)

/-- Where the walk for a prefix begins, if there is a directory. No resource has a name that
leads upwards, so a prefix that does admits nothing. -/
def walkStart? (d : Disk) (directory path : String) : Option String :=
  if Filter.climbs path then none
  else
    let start := match directoryPart? path with
      | some part => Path.join directory part
      | none => directory
    if d.isDirectory start then some start else none

/-- Where the walks for some prefixes begin. -/
def walkStarts (d : Disk) (directory : String) (prefixes : List String) : List String :=
  if prefixes.isEmpty then [directory] else prefixes.filterMap (walkStart? d directory)

/-- The name of the resource in a file: its path from the directory. -/
def resourceName? (directory file : String) : Option String :=
  match Path.relativeTo? directory file with
  | some (part :: parts) => some (Text.join "/" (part :: parts))
  | _ => none

/-- The names of the admitted resources below a directory. -/
def directoryNames (d : Disk) (directory : String) (f : Filter) :
    Except WalkError (List String) := do
  let files ← (walkStarts d directory f.prefixes).mapM d.walk
  let names := files.flatten.filterMap (resourceName? directory)
  return Text.sortedDistinct (names.filter f.accepts)

/-- The root of a directory, unless it holds nothing that is admitted. -/
def ofDirectory? (d : Disk) (chain : Chain) (directory : String) (f : Filter) :
    Except ScanError (Option Root) := do
  let resources ← (directoryNames d directory f).mapError .walk
  return if resources.isEmpty then none else some ⟨chain, directory, .directory, resources⟩

end Classpath.Root
