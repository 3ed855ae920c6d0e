import Classpath.ClassFile.Declared
import Classpath.ResourceIndex

/-!
# The index of classes

The declarations of all class files among some resources, each read once when the index is
made. Of a resource that several roots hold, the declaration is the one that would be defined
under its name: that of the most distant loader, and of its roots the first.

## Main definitions

* `ClassIndex`, `ClassIndex.ofResources`, `ClassIndex.build`.
-/

namespace Classpath

/-- The declarations in the class files of some resources. -/
structure ClassIndex where
  resources : ResourceIndex
  /-- The declarations by the names of their resources, in ascending order. -/
  decls : List (String × ClassDecl)

namespace ClassIndex

/-- The declaration in the class file of a resource. -/
def parse (resource : String) (read : Except FileError Bytes) : Except ScanError ClassDecl :=
  match read with
  | .error e => .error (.parse resource e.message)
  | .ok bytes => (ClassDecl.ofBytes bytes).mapError fun e => .parse resource e.message

/-- A declaration, and the scope of the root it is from. -/
abbrev Scoped := Scope × ClassDecl

/-- The declarations so far with one more. Roots come in the order of delegation, so one of
another scope is from a loader further up and takes the place; within a scope the first
stays. -/
def insert (scope : Scope) (found : List (String × Scoped)) (entry : String × ClassDecl) :
    List (String × Scoped) :=
  match found.lookup entry.1 with
  | none => found ++ [(entry.1, (scope, entry.2))]
  | some (other, _) =>
    if other = scope then found
    else found.map fun e => if e.1 = entry.1 then (entry.1, (scope, entry.2)) else e

/-- The declarations in the resources of some roots, in order. -/
def readRoots (d : Disk) : List Root → (found : List (String × Scoped)) →
    Except ScanError (List (String × Scoped))
  | [], found => .ok found
  | r :: rs, found => do
    let entries ← r.readEach d parse
    readRoots d rs (entries.foldl (insert r.scope) found)

/-- The index of some resources, which have to be class files. -/
def ofResources (d : Disk) (resources : ResourceIndex) : Except ScanError ClassIndex := do
  let found ← readRoots d resources.roots []
  let sorted := found.mergeSort fun a b => decide (a.1 ≤ b.1)
  return ⟨resources, sorted.map fun (name, _, decl) => (name, decl)⟩

/-- The index of the classes that a configuration asks for. -/
def build (d : Disk) (chain : Chain) (c : Config) : Except ScanError ClassIndex := do
  ofResources d (← ResourceIndex.ofClasses d chain c)

/-- The declaration in a resource. -/
def decl? (i : ClassIndex) (resource : String) : Option ClassDecl := i.decls.lookup resource

/-- How an index is written in diagnostics. -/
def debug (i : ClassIndex) : String :=
  "ClassScanner \x7b resources: " ++ i.resources.debug ++ ", nodes: " ++
    toString i.decls.length ++ " \x7d"

end ClassIndex

end Classpath
