import Classpath.Archive.Basic
import Classpath.Disk.Basic
import Classpath.Reflection.Basic

/-!
# Resolution

A name is resolved by the most distant loader of a chain that has it: each loader asks its
parent first and looks among its own entries only if no loader above it has the class. What
was defined once is not looked for again.

## Main definitions

* `Loader.classBytes?`: the class file that a loader's own entries hold under a name.
* `resolve`.
-/

namespace Classpath

/-- The class file that an archive holds as a resource. A file that is no archive holds
nothing. -/
def archiveBytes? (path resource : String) (content : Bytes) :
    Except LinkError (Option Bytes) :=
  match Archive.open_ content with
  | .error .invalid => .ok none
  | .error e => .error (.openArchive path e)
  | .ok archive =>
    match archive.read content resource with
    | .error .entryNotFound => .ok none
    | .error e => .error (.openEntry resource path e)
    | .ok read => (read.mapError .file).map some

/-- The class file that an entry holds as a resource, if it does. -/
def entryBytes? (d : Disk) (path resource : String) : Except LinkError (Option Bytes) :=
  match d.stat path with
  | .ok ⟨_, .directory⟩ =>
    let file := Path.join path resource
    if d.isFile file then ((d.read file).mapError .file).map some else .ok none
  | .ok ⟨_, .file id⟩ => archiveBytes? path resource (d.content id)
  | _ => .ok none

/-- The first class file that some entries hold as a resource. -/
def firstBytes? (d : Disk) (resource : String) : List String → Except LinkError (Option Bytes)
  | [] => .ok none
  | path :: paths => do
    match ← entryBytes? d path resource with
    | some bytes => return some bytes
    | none => firstBytes? d resource paths

/-- The class file that a loader's own entries hold under the name of a class. -/
def Loader.classBytes? (d : Disk) (l : Loader) (name : String) :
    Except LinkError (Option Bytes) :=
  firstBytes? d (ClassFile.resourceName name) l.localPaths

/-- The declaration in a class file, which has to be that of the named class. -/
def declarationOf (name : String) (bytes : Bytes) : Except LinkError ClassDecl := do
  let decl ← (ClassDecl.ofBytes bytes).mapError .declaration
  if decl.name = name then return decl else .error (.otherClass name decl.name)

/-- The type that a loader defines under a name, without asking the loaders above it. -/
def resolveOwn (d : Disk) (name : String) (chain : Chain) : Linked (Option TypeRef) := do
  let type : TypeRef := ⟨name, chain.scope⟩
  if ((← get).find? chain.scope name).isSome then return some type
  else
    match ← (chain.loader.classBytes? d name : Except LinkError (Option Bytes)) with
    | none => return none
    | some bytes =>
      let decl ← (declarationOf name bytes : Except LinkError ClassDecl)
      modify (·.define chain.scope name ⟨decl, chain⟩)
      return some type

/-- The type that a loader or one above it defines under a name, those above it first. -/
def resolveFrom (d : Disk) (name : String) : Loader → List Loader → Linked (Option TypeRef)
  | l, [] => resolveOwn d name ⟨l, []⟩
  | l, p :: ps => do
    match ← resolveFrom d name p ps with
    | some type => return some type
    | none => resolveOwn d name ⟨l, p :: ps⟩

/-- The type that a chain defines under a name, if any of its loaders has it. -/
def resolve? (d : Disk) (name : String) (chain : Chain) : Linked (Option TypeRef) :=
  resolveFrom d name chain.loader chain.parents

/-- The type that a chain defines under a name. -/
def resolve (d : Disk) (name : String) (chain : Chain) : Linked TypeRef := do
  match ← resolve? d name chain with
  | some type => return type
  | none => throw (.classNotFound name)

end Classpath
