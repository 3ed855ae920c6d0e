import Classpath.ClassFile.ConstantPool
import Classpath.ClassFile.Code

/-!
# Attributes

What class files attach to classes, members and code. Every known attribute is read by its
own structure, which decides where the next one begins; the announced length counts only
where the structure leaves it open, or where the size is fixed and must agree.

Of their content only the types of visible annotations are kept. Attributes nest, inside
code and inside record components; so do annotations and element values. Each level takes
at least one byte, so the number of bytes bounds the depth, and a reader allowed no depth
stands at the end of the bytes.

## Main definitions

* `Attribute`, `Attribute.readList`.
-/

namespace Classpath.ClassFile

/-- An attribute, as far as it matters to the shape of a class. Annotations are given by the
index of the descriptor of their type. -/
inductive Attribute where
  | visibleAnnotations (types : List Nat)
  /-- The annotations of each parameter. -/
  | visibleParameterAnnotations (slots : List (List Nat))
  | other
  deriving DecidableEq, Repr

namespace Attribute

/-! ### Annotations -/

mutual

/-- Pass over an element value, down to a depth. -/
def skipElement : Nat → Reader Unit
  | 0 => Reader.fail .truncated
  | depth + 1 => do
    let tag ← Reader.u1
    if "BCDFIJSZsc".toList.any (·.toNat = tag) then Reader.skip 2
    else if tag = 'e'.toNat then Reader.skip 4
    else if tag = '@'.toNat then
      let _ ← annotationType depth
    else if tag = '['.toNat then Reader.skipList (skipElement depth)
    else Reader.fail (.elementTag tag)

/-- An annotation: the index of the descriptor of its type. Its elements are passed over. -/
def annotationType : Nat → Reader Nat
  | 0 => Reader.fail .truncated
  | depth + 1 => do
    let type ← Reader.u2
    Reader.skipList (do
      Reader.skip 2
      skipElement depth)
    return type

end

/-- The annotations of one class, member or parameter. -/
def readAnnotations (depth : Nat) : Reader (List Nat) :=
  Reader.list (annotationType depth)

/-- The annotations of each parameter of a method. -/
def readParameterAnnotations (depth : Nat) : Reader (List (List Nat)) := do
  Reader.times (readAnnotations depth) (← Reader.u1)

/-- Pass over what a type annotation is attached to. -/
def skipTarget : Reader Unit := do
  let kind ← Reader.u1
  if kind ≤ 1 then Reader.skip 1
  else if kind = 16 then Reader.skip 2
  else if kind = 17 || kind = 18 then Reader.skip 2
  else if 19 ≤ kind && kind ≤ 21 then return ()
  else if kind = 22 then Reader.skip 1
  else if kind = 23 then Reader.skip 2
  else if kind = 64 || kind = 65 then Reader.skipList (Reader.skip 6)
  else if 66 ≤ kind && kind ≤ 70 then Reader.skip 2
  else if 71 ≤ kind && kind ≤ 75 then Reader.skip 3
  else Reader.fail (.targetType kind)

/-- Pass over a type annotation. -/
def skipAnnotatedType (depth : Nat) : Reader Unit := do
  skipTarget
  Reader.skipTimes (Reader.skip 2) (← Reader.u1)
  let _ ← annotationType depth

/-! ### Stack maps -/

/-- Pass over the verification type of a local or a stack slot. -/
def skipVerificationType : Reader Unit := do
  let tag ← Reader.u1
  if tag ≤ 6 then return ()
  else if tag ≤ 8 then Reader.skip 2
  else Reader.fail (.verificationTag tag)

/-- A frame of a stack map: how far it lies behind the one before, and the number that its
single byte has to hold together with a distance, if it has one. -/
structure Frame where
  delta : Nat
  packed : Option Nat

/-- A frame of a stack map. -/
def readFrame : Reader Frame := do
  let kind ← Reader.u1
  if kind ≤ 63 then return ⟨kind, some 0⟩
  else if kind ≤ 127 then
    skipVerificationType
    return ⟨kind - 64, some 64⟩
  else if kind ≤ 246 then Reader.fail (.frameType kind)
  else if kind = 247 then
    let delta ← Reader.u2
    skipVerificationType
    return ⟨delta, none⟩
  else if kind ≤ 251 then return ⟨← Reader.u2, none⟩
  else if kind ≤ 254 then
    let delta ← Reader.u2
    Reader.skipTimes skipVerificationType (kind - 251)
    return ⟨delta, none⟩
  else
    let delta ← Reader.u2
    Reader.skipList skipVerificationType
    Reader.skipList skipVerificationType
    return ⟨delta, none⟩

/-- The frames of a stack map behind one at `previous`, the offset and the number of an
instruction. Each has to lie at the start of an instruction, and the number of instructions
between two neighbours has to fit where the first form of a frame keeps it. -/
def checkFrames (code : Code) (previous : Option (Nat × Nat)) :
    List Frame → Except FormatError Unit
  | [] => .ok ()
  | f :: rest => do
    let offset := match previous with
      | none => f.delta
      | some (at_, _) => at_ + f.delta + 1
    match code.indexAt? offset with
    | none => .error (.instructionOffset offset)
    | some index =>
      let distance := match previous with
        | none => index
        | some (_, before) => index - before - 1
      match f.packed with
      | some base =>
        if base + distance ≤ 255 then checkFrames code (some (offset, index)) rest
        else .error .aboveRange
      | none => checkFrames code (some (offset, index)) rest

/-! ### Attributes by name -/

/-- A check of something that was read. -/
def checked (result : Except FormatError Unit) : Reader Unit :=
  match result with
  | .ok () => return ()
  | .error e => Reader.fail e

/-- Pass over `size` bytes if that is what the attribute announces. -/
def skipExactly (size length : Nat) : Reader Unit :=
  if length = size then Reader.skip size else Reader.fail (.attributeLength length)

/-- Pass over the description of a module. -/
def skipModule : Reader Unit := do
  let exports_ : Reader Unit := do
    Reader.skip 4
    Reader.skipList (Reader.skip 2)
  Reader.skip 6
  Reader.skipList (Reader.skip 6)
  Reader.skipList exports_
  Reader.skipList exports_
  Reader.skipList (Reader.skip 2)
  Reader.skipList (do
    Reader.skip 2
    Reader.skipList (Reader.skip 2))

/-- The table of line numbers; inside code, each line has to start an instruction. -/
def skipLineNumbers (code : Option Code) : Reader Unit :=
  Reader.skipList (do
    let start ← Reader.u2
    Reader.skip 2
    match code with
    | some code => checked (code.startAt start)
    | none => return ())

/-- A stack map, which has to lie within what the attribute announces to be left; inside
code, each frame has to lie at an instruction. -/
def skipStackMap (code : Option Code) (length : Nat) : Reader Unit := do
  if (← Reader.remaining) < length then Reader.fail .truncated
  let frames ← Reader.list readFrame
  match code with
  | some code => checked (checkFrames code none frames)
  | none => return ()

mutual

/-- An attribute, down to a depth. `code` is the code it is attached to, if any. -/
def read (pool : ConstantPool) (code : Option Code) : Nat → Reader Attribute
  | 0 => Reader.fail .truncated
  | depth + 1 => do
    let nameIndex ← Reader.u2
    match pool.utf8 nameIndex with
    | .error _ => Reader.fail (.attributeName nameIndex)
    | .ok name =>
      let length ← Reader.u4
      match name with
      | "RuntimeVisibleAnnotations" => return .visibleAnnotations (← readAnnotations depth)
      | "RuntimeVisibleParameterAnnotations" =>
        return .visibleParameterAnnotations (← readParameterAnnotations depth)
      | "Code" =>
        Reader.skip 4
        let bytes ← Reader.bytes (← Reader.u4)
        match Code.ofBytes bytes with
        | .error e => Reader.fail e
        | .ok code =>
          Reader.skipList code.readException
          let _ ← Reader.list (read pool (some code) depth)
      | "Record" =>
        Reader.skipList (do
          Reader.skip 4
          Reader.list (read pool none depth))
      | "RuntimeInvisibleAnnotations" =>
        let _ ← readAnnotations depth
      | "RuntimeInvisibleParameterAnnotations" =>
        let _ ← readParameterAnnotations depth
      | "RuntimeVisibleTypeAnnotations" | "RuntimeInvisibleTypeAnnotations" =>
        Reader.skipList (skipAnnotatedType depth)
      | "AnnotationDefault" => skipElement depth
      | "ConstantValue" | "Signature" | "SourceFile" | "ModuleMainClass" | "NestHost" =>
        skipExactly 2 length
      | "EnclosingMethod" => skipExactly 4 length
      | "Synthetic" | "Deprecated" => skipExactly 0 length
      | "Exceptions" | "ModulePackages" | "NestMembers" | "PermittedSubclasses" =>
        Reader.skipList (Reader.skip 2)
      | "InnerClasses" => Reader.skipList (Reader.skip 8)
      | "LineNumberTable" => skipLineNumbers code
      | "LocalVariableTable" | "LocalVariableTypeTable" => Reader.skipList (Reader.skip 10)
      | "MethodParameters" => Reader.skipTimes (Reader.skip 4) (← Reader.u1)
      | "BootstrapMethods" =>
        Reader.skipList (do
          Reader.skip 2
          Reader.skipList (Reader.skip 2))
      | "Module" => skipModule
      | "StackMapTable" => skipStackMap code length
      | "SourceDebugExtension" =>
        let content ← Reader.bytes length
        match Mutf8.decode content with
        | .ok _ => return .other
        | .error e => Reader.fail (.text e)
      | _ => Reader.skip length
      return .other

end

/-- The attributes of a class or a member. -/
def readList (pool : ConstantPool) : Reader (List Attribute) := do
  Reader.list (read pool none (← Reader.remaining))

end Attribute

end Classpath.ClassFile
