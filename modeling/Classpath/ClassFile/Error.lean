import Classpath.ClassFile.Mutf8
import Classpath.Text.Quoted

/-!
# Faults of class files

What can be wrong with the bytes of a class file, cause by cause, with the number or the
text that shows where. Reading stops at the first fault.
-/

namespace Classpath.ClassFile

/-- Why some bytes are no class file. -/
inductive FormatError where
  /-- The file does not begin with the mark of class files. -/
  | magic (found : Nat)
  | version (major minor : Nat)
  /-- The pool is announced with no slots at all; even an empty pool counts one. -/
  | emptyPool
  | constantTag (tag : Nat)
  | referenceKind (kind : Nat)
  /-- No usable slot of the pool has this index. -/
  | poolIndex (index : Nat)
  /-- The slot with this index holds another kind of constant. -/
  | poolIndexType (index : Nat)
  | text (e : Mutf8.DecodeError)
  /-- The bytes end too early. -/
  | truncated
  /-- The name of an attribute is no text of the pool. -/
  | attributeName (index : Nat)
  /-- An attribute of fixed size announces another one. -/
  | attributeLength (length : Nat)
  | elementTag (tag : Nat)
  | targetType (code : Nat)
  | instruction (opcode : Nat)
  | wideInstruction (opcode : Nat)
  | arrayTypeCode (code : Nat)
  /-- No instruction starts where one has to. -/
  | instructionOffset (offset : Nat)
  | frameType (code : Nat)
  | verificationTag (tag : Nat)
  /-- A number falls below the range of its field. -/
  | belowRange
  /-- A number exceeds the range of its field. -/
  | aboveRange
  /-- The descriptor of a field begins with no type. -/
  | fieldTypeCode (code : Char)
  /-- The descriptor of a field is a malformed object type. -/
  | fieldTypeDescriptor (descriptor : String)
  /-- The descriptor of a field is the letter of object types alone. -/
  | descriptorLength
  deriving DecidableEq, Repr

/-- A cause with a number. -/
def labelled (label : String) (n : Nat) : String :=
  label ++ "(" ++ toString n ++ ")"

/-- The wording of a fault. -/
def FormatError.message : FormatError → String
  | .magic n => labelled "InvalidMagicNumber" n
  | .version major minor =>
    "InvalidVersion \x7b major: " ++ toString major ++ ", minor: " ++ toString minor ++ " \x7d"
  | .emptyPool => "IoError(\"Invalid constant pool count\")"
  | .constantTag n => labelled "InvalidConstantTag" n
  | .referenceKind n => labelled "InvalidReferenceKind" n
  | .poolIndex n => labelled "InvalidConstantPoolIndex" n
  | .poolIndexType n => labelled "InvalidConstantPoolIndexType" n
  | .text e => "FromUtf8Error(" ++ Text.Quoted.text e.message ++ ")"
  | .truncated => "IoError(\"failed to fill whole buffer\")"
  | .attributeName n => labelled "InvalidAttributeNameIndex" n
  | .attributeLength n => labelled "InvalidAttributeLength" n
  | .elementTag n => labelled "InvalidAnnotationElementTag" n
  | .targetType n => labelled "InvalidTargetTypeCode" n
  | .instruction n => labelled "InvalidInstruction" n
  | .wideInstruction n => labelled "InvalidWideInstruction" n
  | .arrayTypeCode n => labelled "InvalidArrayTypeCode" n
  | .instructionOffset n => labelled "InvalidInstructionOffset" n
  | .frameType n => labelled "InvalidStackFrameType" n
  | .verificationTag n => labelled "InvalidVerificationTypeTag" n
  | .belowRange => "TryFromIntError(TryFromIntError(NegOverflow))"
  | .aboveRange => "TryFromIntError(TryFromIntError(PosOverflow))"
  | .fieldTypeCode c => "InvalidFieldTypeCode(" ++ Text.Quoted.character c ++ ")"
  | .fieldTypeDescriptor d => "InvalidFieldTypeDescriptor(" ++ Text.Quoted.text d ++ ")"
  | .descriptorLength => "IoError(\"Invalid descriptor length\")"

end Classpath.ClassFile
