import Classpath.ClassFile.Basic
import Classpath.Declaration

/-!
# The declaration in a class file

A class file names everything by index into its pool. The declaration it holds is found by
following these indexes, in a fixed order, up to the first one that leads nowhere: the
class, its superclass, its interfaces, the fields, the methods, and last the annotations of
the class itself.

## Main definitions

* `ClassFile.declaration`: what a class file that was read declares.
* `ClassDecl.ofBytes`: the class declared by some bytes.
-/

namespace Classpath

namespace ClassFile

/-- Why some bytes declare no class. -/
inductive DeclarationError where
  /-- The bytes are no class file. -/
  | format (e : FormatError)
  /-- An index that should lead to a class. -/
  | classIndex (index : Nat) (e : FormatError)
  /-- An index that should lead to a text. -/
  | textIndex (index : Nat) (e : FormatError)
  /-- The type of an annotation is no object type. -/
  | annotationDescriptor (descriptor : String)
  deriving DecidableEq, Repr

/-- The wording of the error. -/
def DeclarationError.message : DeclarationError → String
  | .format e => "Failed to parse class: " ++ e.message
  | .classIndex index e =>
    "Failed to read class constant #" ++ toString index ++ ": " ++ e.message
  | .textIndex index e => "Failed to read constant #" ++ toString index ++ ": " ++ e.message
  | .annotationDescriptor d => "Malformed annotation descriptor: " ++ d

/-! ### Following indexes -/

/-- The dotted name of the class with an index. -/
def classNameAt (pool : ConstantPool) (index : Nat) : Except DeclarationError String :=
  match pool.className index with
  | .ok internal => .ok (binaryName internal)
  | .error e => .error (.classIndex index e)

/-- The text with an index. -/
def textAt (pool : ConstantPool) (index : Nat) : Except DeclarationError String :=
  (pool.utf8 index).mapError (.textIndex index)

/-- The name of the annotation type whose descriptor has an index. -/
def annotationTypeAt (pool : ConstantPool) (index : Nat) : Except DeclarationError String := do
  let descriptor ← textAt pool index
  match annotationType? descriptor with
  | some name => .ok name
  | none => .error (.annotationDescriptor descriptor)

/-- The annotations in some attributes. Attributes of one kind add up. -/
def visibleAnnotations (pool : ConstantPool) (attributes : List Attribute) :
    Except DeclarationError (List String) :=
  let types := attributes.flatMap fun
    | .visibleAnnotations types => types
    | _ => []
  types.mapM (annotationTypeAt pool)

/-- The annotations of parameters in some attributes. -/
def visibleParameterAnnotations (pool : ConstantPool) (attributes : List Attribute) :
    Except DeclarationError (List (List String)) :=
  let slots := attributes.flatMap fun
    | .visibleParameterAnnotations slots => slots
    | _ => []
  slots.mapM fun types => types.mapM (annotationTypeAt pool)

/-! ### Declarations -/

/-- The declaration of a field. -/
def fieldDecl (pool : ConstantPool) (f : Member) : Except DeclarationError FieldDecl := do
  let name ← textAt pool f.nameIndex
  let descriptor ← textAt pool f.descriptorIndex
  let annotations ← visibleAnnotations pool f.attributes
  return ⟨name, hasFlag f.access publicFlag, descriptor, annotations⟩

/-- The declaration of a method. -/
def methodDecl (pool : ConstantPool) (m : Member) : Except DeclarationError MethodDecl := do
  let name ← textAt pool m.nameIndex
  let descriptor ← textAt pool m.descriptorIndex
  let annotations ← visibleAnnotations pool m.attributes
  let parameterAnnotations ← visibleParameterAnnotations pool m.attributes
  return ⟨name, hasFlag m.access publicFlag, hasFlag m.access staticFlag, descriptor,
    annotations, parameterAnnotations⟩

/-- The superclass with an index; zero stands for none. -/
def superNameAt (pool : ConstantPool) (index : Nat) :
    Except DeclarationError (Option String) :=
  if index = 0 then .ok none else (classNameAt pool index).map some

/-- What a class file declares. -/
def declaration (file : ClassFile) : Except DeclarationError ClassDecl := do
  let pool := file.pool
  let name ← classNameAt pool file.thisClass
  let superName ← superNameAt pool file.superClass
  let interfaces ← file.interfaces.mapM (classNameAt pool)
  let fields ← file.fields.mapM (fieldDecl pool)
  let methods ← file.methods.mapM (methodDecl pool)
  let annotations ← visibleAnnotations pool file.attributes
  return ⟨name, superName, interfaces, hasFlag file.access interfaceFlag, annotations,
    fields, methods⟩

end ClassFile

/-- The class that some bytes declare. -/
def ClassDecl.ofBytes (bytes : Bytes) : Except ClassFile.DeclarationError ClassDecl := do
  let file ← (ClassFile.ofBytes bytes).mapError .format
  file.declaration

end Classpath
