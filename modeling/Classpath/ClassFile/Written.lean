import Classpath.ClassFile.Declared
import Classpath.Text.Utf8

/-!
# Writing class files

The class file of a declaration: version 52, methods without code. The pool grows as the
class is written, in the order in which names first occur, and a name that occurs again is
referred to by the index it has.

Nothing is checked. A count or an index that exceeds its field loses its high bytes, and
text is written in plain UTF-8.

## Main definitions

* `ClassDecl.toBytes`.
-/

namespace Classpath

namespace ClassFile.Written

/-! ### The pool -/

/-- A constant that a written class refers to. -/
inductive Entry where
  | utf8 (text : String)
  /-- The class of a dotted name, and the index of its slashed name. -/
  | class (binary : String) (nameIndex : Nat)
  deriving DecidableEq, Repr

/-- The constants so far; the first one has index one. -/
abbrev Pool := List Entry

/-- The bytes of a constant. -/
def Entry.toBytes : Entry → Bytes
  | .utf8 text =>
    let content := Text.Utf8.encode text
    1 :: Bytes.ofNatBE 2 content.length ++ content
  | .class _ nameIndex => 7 :: Bytes.ofNatBE 2 nameIndex

/-- The bytes of the pool: the number of its slots and one, and its constants. -/
def poolBytes (pool : Pool) : Bytes :=
  Bytes.ofNatBE 2 (pool.length + 1) ++ pool.flatMap Entry.toBytes

/-- The index of a constant that is not in the pool yet. -/
def push (e : Entry) : StateM Pool Nat := fun pool => (pool.length + 1, pool ++ [e])

/-- The index of a text. -/
def utf8 (text : String) : StateM Pool Nat := fun pool =>
  match pool.findIdx? (· == .utf8 text) with
  | some i => (i + 1, pool)
  | none => push (.utf8 text) pool

/-- Whether a constant is the class of a dotted name. -/
def Entry.isClass (binary : String) : Entry → Bool
  | .class name _ => name == binary
  | .utf8 _ => false

/-- The index of the class of a dotted name; its slashed name comes first. -/
def classIndex (binary : String) : StateM Pool Nat := fun pool =>
  match pool.findIdx? (Entry.isClass binary) with
  | some i => (i + 1, pool)
  | none =>
    let (nameIndex, pool) := utf8 (internalName binary) pool
    push (.class binary nameIndex) pool

/-! ### Attributes -/

/-- A list of some things behind their number. -/
def counted {α : Type} (width : Nat) (write : α → StateM Pool Bytes) (items : List α) :
    StateM Pool Bytes := do
  let written ← items.mapM write
  return Bytes.ofNatBE width items.length ++ written.flatten

/-- An index of two bytes. -/
def indexBytes (index : StateM Pool Nat) : StateM Pool Bytes :=
  return Bytes.ofNatBE 2 (← index)

/-- An annotation without elements. -/
def annotationBytes (binary : String) : StateM Pool Bytes := do
  return (← indexBytes (utf8 (objectDescriptor binary))) ++ Bytes.ofNatBE 2 0

/-- The annotations of a class, a member or a parameter. -/
def annotationsBytes : List String → StateM Pool Bytes :=
  counted 2 annotationBytes

/-- An attribute, by its name and its content. -/
def attributeBytes (name : String) (content : StateM Pool Bytes) : StateM Pool Bytes := do
  let nameBytes ← indexBytes (utf8 name)
  let content ← content
  return nameBytes ++ Bytes.ofNatBE 4 content.length ++ content

/-- The attributes for annotations and for those of parameters; an attribute is there only
if there is something to record. -/
def attributesBytes (annotations : List String) (slots : List (List String)) :
    StateM Pool Bytes := do
  let own ←
    if annotations.isEmpty then pure []
    else pure [← attributeBytes "RuntimeVisibleAnnotations" (annotationsBytes annotations)]
  let ofParameters ←
    if slots.isEmpty then pure []
    else
      pure [← attributeBytes "RuntimeVisibleParameterAnnotations"
        (counted 1 annotationsBytes slots)]
  let attributes := own ++ ofParameters
  return Bytes.ofNatBE 2 attributes.length ++ attributes.flatten

/-! ### The class -/

/-- The flags of a member: public or private, and static or not. -/
def memberAccess (isPublic isStatic : Bool) : Nat :=
  (if isPublic then publicFlag else privateFlag) + if isStatic then staticFlag else 0

/-- A field or a method. -/
def memberBytes (access : Nat) (name descriptor : String) (annotations : List String)
    (slots : List (List String)) : StateM Pool Bytes := do
  let nameBytes ← indexBytes (utf8 name)
  let descriptorBytes ← indexBytes (utf8 descriptor)
  let attributes ← attributesBytes annotations slots
  return Bytes.ofNatBE 2 access ++ nameBytes ++ descriptorBytes ++ attributes

/-- A field. -/
def fieldBytes (f : FieldDecl) : StateM Pool Bytes :=
  memberBytes (memberAccess f.isPublic false) f.name f.descriptor f.annotations []

/-- A method. -/
def methodBytes (m : MethodDecl) : StateM Pool Bytes :=
  memberBytes (memberAccess m.isPublic m.isStatic) m.name m.descriptor m.annotations
    m.parameterAnnotations

/-- The flags of a class. -/
def classAccess (isInterface : Bool) : Nat :=
  if isInterface then publicFlag + interfaceFlag + abstractFlag else publicFlag + superFlag

/-- Everything behind the pool. -/
def bodyBytes (c : ClassDecl) : StateM Pool Bytes := do
  let this ← indexBytes (classIndex c.name)
  let super ← indexBytes (match c.superName with
    | some name => classIndex name
    | none => pure 0)
  let interfaces ← counted 2 (fun name => indexBytes (classIndex name)) c.interfaces
  let fields ← counted 2 fieldBytes c.fields
  let methods ← counted 2 methodBytes c.methods
  let attributes ← attributesBytes c.annotations []
  return Bytes.ofNatBE 2 (classAccess c.isInterface) ++ this ++ super ++ interfaces ++
    fields ++ methods ++ attributes

end ClassFile.Written

open ClassFile.Written in
/-- The class file of a declaration. -/
def ClassDecl.toBytes (c : ClassDecl) : Bytes :=
  let (body, pool) := bodyBytes c []
  Bytes.ofNatBE 4 ClassFile.mark ++ Bytes.ofNatBE 2 0 ++ Bytes.ofNatBE 2 52 ++
    poolBytes pool ++ body

end Classpath
