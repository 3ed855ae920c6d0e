import Classpath.Archive.Basic
import Classpath.Disk.Basic
import Classpath.Loader

/-!
# Roots

A root is one entry of a loader that holds resources: a directory tree or an archive. Which
resources it holds is settled when it is found; their content is read when it is asked for.

An archive stays open: what is read from it is the content of the file that was opened,
wherever its name may have gone since.

## Main definitions

* `Root`, `Root.read`, `Root.readEach`.
* `Root.sameAs`: equality of roots.
-/

namespace Classpath

/-- Where the resources of a root are. -/
inductive Store where
  /-- In the files below a directory. -/
  | directory
  /-- In the entries of an archive, by the identity of its file. -/
  | archive (file : Nat) (content : Archive)

/-- The kinds of roots. -/
inductive RootKind where
  | directory
  | archive
  deriving DecidableEq, Repr

/-- A place that holds resources, and the loader that has it among its entries. -/
structure Root where
  chain : Chain
  /-- The path of the directory or the archive. -/
  origin : String
  store : Store
  /-- The names of the resources, ascending and each once. -/
  resources : List String

namespace Root

/-- The scope of the loader. -/
def scope (r : Root) : Scope := r.chain.scope

/-- The kind of a root. -/
def kind (r : Root) : RootKind :=
  match r.store with
  | .directory => .directory
  | .archive .. => .archive

/-- Whether a root holds a resource. -/
def has (r : Root) (name : String) : Bool := r.resources.contains name

/-- Whether two roots are equal: of one kind, of one scope, and with the same resources. Where
they are makes no difference. -/
def sameAs (r s : Root) : Bool :=
  r.kind == s.kind && r.scope == s.scope && r.resources == s.resources

/-- What reading a resource to its end yields. It has to be one of the root's own. -/
def read (d : Disk) (r : Root) (name : String) : Except ScanError (Except FileError Bytes) :=
  if !r.has name then .error (.unknownResource name)
  else
    match r.store with
    | .directory =>
      let path := Path.join r.origin name
      (d.openPath path).mapError (.file path)
    | .archive file content => (content.read (d.content file) name).mapError (.archive r.origin)

/-- What `process` makes of each resource, in order, up to the first failure. -/
def readEach {α : Type} (d : Disk) (r : Root)
    (process : String → Except FileError Bytes → Except ScanError α) :
    Except ScanError (List (String × α)) :=
  r.resources.mapM fun name => do
    let content ← r.read d name
    return (name, ← process name content)

/-- The content of a resource, where a failure to read it is one on its name. -/
def content (name : String) (read : Except FileError Bytes) : Except ScanError Bytes :=
  read.mapError (.file name)

/-- How a root is written in diagnostics. -/
def debug (r : Root) : String :=
  let fields (place : String) : String :=
    " \x7b scope: " ++ r.scope.debug ++ ", " ++ place ++ ": " ++ Text.Quoted.path r.origin ++
      ", resources: " ++ toString r.resources.length ++ " \x7d)"
  match r.store with
  | .directory => "Directory(DirectoryRoot" ++ fields "directory"
  | .archive .. => "Archive(ArchiveRoot" ++ fields "path"

end Root

end Classpath
