import Classpath.Filter
import Classpath.Root.Basic

/-!
# Archive roots

The resources of an archive are its entries, directories excepted. An archive is passed over
when none of the prefixes is stored in it, as an entry or as a directory.

## Main definitions

* `Root.archiveNames`, `Root.ofArchive?`.
-/

namespace Classpath.Root

/-- Whether an archive with these entries is looked at. -/
def holdsPrefix (names prefixes : List String) : Bool :=
  prefixes.isEmpty || prefixes.any fun start =>
    let directory := Text.trimEnd '/' start ++ "/"
    names.any fun name => name == start || name == directory

/-- The names of the admitted resources among those of entries. -/
def archiveNames (names : List String) (f : Filter) : List String :=
  if holdsPrefix names f.prefixes then
    Text.sortedDistinct (names.filter fun name => !Text.endsWith name "/" && f.accepts name)
  else []

/-- The root of an archive, unless it holds nothing that is admitted. -/
def ofArchive? (d : Disk) (chain : Chain) (path : String) (file : Nat) (f : Filter) :
    Except ScanError (Option Root) := do
  let archive ← (Archive.open_ (d.content file)).mapError (.archive path)
  let resources := archiveNames archive.names f
  return if resources.isEmpty then none
    else some ⟨chain, path, .archive file archive, resources⟩

end Classpath.Root
