import Classpath.ClassFile.Attribute
import Classpath.ClassFile.Descriptor

/-!
# Class files

A class file is its mark and version, a pool of constants, and then the class: its flags,
its own name, its superclass and interfaces, its fields, methods and attributes, all of
them naming things by index into the pool.

Indexes are not followed while a file is read, with one exception: the descriptor of a
field is looked up and checked before the field's attributes are read.

## Main definitions

* `ClassFile`, `ClassFile.ofBytes`.
-/

namespace Classpath.ClassFile

/-- A field or a method. -/
structure Member where
  access : Nat
  nameIndex : Nat
  descriptorIndex : Nat
  attributes : List Attribute
  deriving Repr

end ClassFile

/-- The content of a class file. -/
structure ClassFile where
  pool : ClassFile.ConstantPool
  access : Nat
  thisClass : Nat
  /-- Zero at the root of the hierarchy. -/
  superClass : Nat
  interfaces : List Nat
  fields : List ClassFile.Member
  methods : List ClassFile.Member
  attributes : List ClassFile.Attribute
  deriving Repr

namespace ClassFile

/-! ### Flags -/

/-- The flag of what everyone may use. -/
def publicFlag : Nat := 0x0001

/-- The flag of what only its own class may use. -/
def privateFlag : Nat := 0x0002

/-- The flag of a member that needs no object. -/
def staticFlag : Nat := 0x0008

/-- The flag of a class whose calls to its superclass are found anew; all but interfaces
have it. -/
def superFlag : Nat := 0x0020

/-- The flag of an interface. -/
def interfaceFlag : Nat := 0x0200

/-- The flag of what has no objects of its own. -/
def abstractFlag : Nat := 0x0400

/-- Whether a flag is set. A flag is a power of two. -/
def hasFlag (access flag : Nat) : Bool := access / flag % 2 = 1

/-! ### Reading -/

/-- The number that class files begin with. -/
def mark : Nat := 0xCAFEBABE

/-- The version of the format: from 56 on, the minor number says only whether features on
trial are in use. -/
def checkVersion (major minor : Nat) : Except FormatError Unit :=
  if 45 ≤ major && major ≤ 69 && (major < 56 || minor = 0 || minor = 65535) then .ok ()
  else .error (.version major minor)

/-- Whether a descriptor begins with the type of a field. An object type has to be the whole
descriptor; after the letter of a base type anything may follow. -/
def checkFieldDescriptor : List Char → Except FormatError Unit
  | [] => .error (.fieldTypeCode '\x00')
  | 'L' :: [] => .error .descriptorLength
  | 'L' :: rest =>
    if rest.getLast? = some ';' && rest.length ≠ 1 then .ok ()
    else .error (.fieldTypeDescriptor (String.ofList ('L' :: rest)))
  | '[' :: rest => checkFieldDescriptor rest
  | c :: _ => if (BaseType.ofCode? c).isSome then .ok () else .error (.fieldTypeCode c)

/-- A field. -/
def readField (pool : ConstantPool) : Reader Member := do
  let access ← Reader.u2
  let nameIndex ← Reader.u2
  let descriptorIndex ← Reader.u2
  match pool.utf8 descriptorIndex with
  | .error e => Reader.fail e
  | .ok descriptor =>
    match checkFieldDescriptor descriptor.toList with
    | .error e => Reader.fail e
    | .ok () => return ⟨access, nameIndex, descriptorIndex, ← Attribute.readList pool⟩

/-- A method. -/
def readMethod (pool : ConstantPool) : Reader Member := do
  let access ← Reader.u2
  let nameIndex ← Reader.u2
  let descriptorIndex ← Reader.u2
  return ⟨access, nameIndex, descriptorIndex, ← Attribute.readList pool⟩

/-- A class file. -/
def read : Reader ClassFile := do
  let found ← Reader.u4
  if found ≠ mark then Reader.fail (.magic found)
  let minor ← Reader.u2
  let major ← Reader.u2
  match checkVersion major minor with
  | .error e => Reader.fail e
  | .ok () =>
    let pool ← ConstantPool.read
    let access ← Reader.u2
    let thisClass ← Reader.u2
    let superClass ← Reader.u2
    let interfaces ← Reader.list Reader.u2
    let fields ← Reader.list (readField pool)
    let methods ← Reader.list (readMethod pool)
    let attributes ← Attribute.readList pool
    return ⟨pool, access, thisClass, superClass, interfaces, fields, methods, attributes⟩

/-- The class file in some bytes; what follows it is not looked at. -/
def ofBytes (bytes : Bytes) : Except FormatError ClassFile :=
  (read bytes).map (·.1)

end ClassFile

end Classpath
