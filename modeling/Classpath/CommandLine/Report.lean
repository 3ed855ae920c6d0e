import Classpath.CommandLine.Command
import Classpath.ResourceIndex
import Classpath.ClassIndex.Query

/-!
# Reports

How results are written, for people or as JSON. People get a line for each thing; JSON is an
array of all of them.

## Main definitions

* `Report`: the lines and the value of some results.
* `Report.ofResources`, `Report.ofRoots`, `Report.ofHits`.
-/

namespace Classpath.CommandLine

open Text (Json)

/-- Results, ready to be written either way. -/
structure Report where
  lines : List String
  items : List Json

/-- The text of a report. -/
def Report.text (r : Report) (json : Bool) : String :=
  if json then (Json.array r.items).pretty ++ "\n"
  else String.join (r.lines.map (· ++ "\n"))

/-! ### Values -/

/-- A text as a value. -/
def textValue (s : String) : Json := .string (some s)

/-- A number as a value. -/
def numberValue (n : Nat) : Json := .number (toString n)

/-- Named values. -/
def objectOf (members : List (String × Json)) : Json :=
  .object (members.map fun (key, value) => (some key, value))

/-! ### Resources -/

/-- The report of the names of resources. -/
def Report.ofResources (names : List String) : Report :=
  ⟨names, names.map textValue⟩

/-! ### Roots -/

/-- A text with blanks behind it up to a width. -/
def padRight (width : Nat) (s : String) : String :=
  s ++ String.ofList (List.replicate (width - s.length) ' ')

/-- A text with blanks in front of it up to a width. -/
def padLeft (width : Nat) (s : String) : String :=
  String.ofList (List.replicate (width - s.length) ' ') ++ s

/-- The short word for a kind of root. -/
def shortKind : RootKind → String
  | .directory => "dir"
  | .archive => "jar"

/-- The word for a kind of root. -/
def kindWord : RootKind → String
  | .directory => "directory"
  | .archive => "archive"

/-- The line of a root: kind, scope and number of resources in columns, and where it is. -/
def rootLine (r : Root) : String :=
  padRight 4 (shortKind r.kind) ++ " " ++ padRight 9 r.scope.text ++ " " ++
    padLeft 6 (toString r.resources.length) ++ "  " ++ r.origin

/-- The value of a root. -/
def rootValue (r : Root) : Json :=
  objectOf [
    ("origin", textValue r.origin),
    ("kind", textValue (kindWord r.kind)),
    ("scope", numberValue r.scope.number),
    ("loader", textValue r.chain.loader.name),
    ("resources", numberValue r.resources.length)]

/-- The report of some roots. -/
def Report.ofRoots (roots : List Root) : Report :=
  ⟨roots.map rootLine, roots.map rootValue⟩

/-! ### Hits -/

/-- What a query found. -/
inductive Hits where
  | types (found : List TypeRef)
  | methods (found : List MethodRef)
  | fields (found : List FieldRef)
  deriving DecidableEq, Repr

/-- The line of a method: its signature in the class, if its descriptor spells one. -/
def methodLine (m : MethodRef) : String :=
  match ClassFile.renderMethod m.name m.descriptor with
  | .ok signature => m.declaring ++ "#" ++ signature
  | .error _ => m.text

/-- The value of a type. -/
def typeValue (t : TypeRef) : Json :=
  objectOf [
    ("kind", textValue "type"),
    ("name", textValue t.name),
    ("scope", numberValue t.scope.number)]

/-- The value of a member. -/
def memberValue (kind declaring name descriptor : String) (scope : Scope) : Json :=
  objectOf [
    ("kind", textValue kind),
    ("declaring", textValue declaring),
    ("name", textValue name),
    ("descriptor", textValue descriptor),
    ("scope", numberValue scope.number)]

/-- The value of a method. -/
def methodValue (m : MethodRef) : Json :=
  memberValue "method" m.declaring m.name m.descriptor m.scope

/-- The value of a field. -/
def fieldValue (f : FieldRef) : Json :=
  memberValue "field" f.declaring f.name f.descriptor f.scope

/-- The report of what a query found, in order. -/
def Report.ofHits : Hits → Report
  | .types found =>
    let found := found.mergeSort TypeRef.le
    ⟨found.map TypeRef.text, found.map typeValue⟩
  | .methods found =>
    let found := found.mergeSort MethodRef.le
    ⟨found.map methodLine, found.map methodValue⟩
  | .fields found =>
    let found := found.mergeSort FieldRef.le
    ⟨found.map FieldRef.text, found.map fieldValue⟩

end Classpath.CommandLine
