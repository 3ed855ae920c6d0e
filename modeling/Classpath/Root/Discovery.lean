import Classpath.Root.Archive
import Classpath.Root.Directory

/-!
# Discovery

Which roots a loader has: its own entries in order, then those of its parent, and so on. An
entry becomes a root if it holds at least one admitted resource. An entry that is no path
holds none, and neither does a file that is not named like an archive; an entry that does not
exist is an error.

## Main definitions

* `Root.ofEntry?`, `Root.discoverOwn`, `Root.discover`.
-/

namespace Classpath.Root

/-- Whether a path is named like an archive. -/
def isArchivePath (path : String) : Bool :=
  match Path.extension? path with
  | some ending =>
    let lower := String.ofList (ending.toList.map Char.toLower)
    lower == "jar" || lower == "zip"
  | none => false

/-- The root of one entry, if it is one. -/
def ofEntry? (d : Disk) (chain : Chain) (path : String) (f : Filter) :
    Except ScanError (Option Root) :=
  match d.stat path with
  | .error .notFound => .error (.missingRoot path)
  | .error e => .error (.file path e)
  | .ok ⟨_, .directory⟩ => ofDirectory? d chain path f
  | .ok ⟨_, .file id⟩ => if isArchivePath path then ofArchive? d chain path id f else .ok none
  | .ok ⟨_, .link _⟩ => .ok none

/-- The roots of a loader's own entries, in order. -/
def discoverOwn (d : Disk) (chain : Chain) (f : Filter) : Except ScanError (List Root) := do
  let found ← chain.loader.localPaths.mapM fun path => ofEntry? d chain path f
  return found.filterMap id

/-- The roots of a loader and of all above it. -/
def discover (d : Disk) (chain : Chain) (f : Filter) : Except ScanError (List Root) := do
  let found ← chain.chains.mapM fun chain => discoverOwn d chain f
  return found.flatten

end Classpath.Root
