import Classpath.Text.Basic

/-!
# Names of classes

A class has one name in three spellings: dotted where people and annotations write it
(`a.b.C`), slashed inside class files (`a/b/C`), and as the resource that holds its class
file (`a/b/C.class`).
-/

namespace Classpath.ClassFile

/-- The dotted name for a slashed one. -/
def binaryName (internal : String) : String :=
  Text.replace '/' '.' internal

/-- The slashed name for a dotted one. -/
def internalName (binary : String) : String :=
  Text.replace '.' '/' binary

/-- The resource that holds the class of a dotted name. -/
def resourceName (binary : String) : String :=
  internalName binary ++ ".class"

/-- The dotted name inside an object descriptor, `L…;`. Both marks are needed: a text that
lacks one names no annotation type. -/
def annotationType? (descriptor : String) : Option String :=
  match descriptor.toList with
  | 'L' :: rest =>
    match rest.reverse with
    | ';' :: name => some (binaryName (String.ofList name.reverse))
    | _ => none
  | _ => none

/-- The object descriptor of a dotted name. -/
def objectDescriptor (binary : String) : String :=
  "L" ++ internalName binary ++ ";"

end Classpath.ClassFile
