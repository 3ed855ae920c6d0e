import Classpath.ClassFile.Reader

/-!
# Code

The instructions of a method. They are decoded one after another, each at its offset from
the start of the code; once all are known, every branch has to lead to the start of one,
and so have the offsets that the tables beside the code mention.

## Main definitions

* `Instruction.read`: one instruction.
* `Code.read`: an array of code, with its branches checked.
* `Code.startAt`, `Code.indexAt`: looking an offset up.
-/

namespace Classpath.ClassFile

/-- An instruction, as far as it matters whether code is well formed: where it starts, how
many bytes it takes, and where it may branch to. -/
structure Instruction where
  offset : Nat
  size : Nat
  targets : List Int
  deriving DecidableEq, Repr

/-! ### Operands -/

/-- How an opcode goes on. -/
inductive Operands where
  /-- A fixed number of bytes without meaning here. -/
  | plain (size : Nat)
  /-- A branch by a signed offset of two bytes. -/
  | branch
  /-- A branch by a signed offset of four bytes. -/
  | wideBranch
  | tableSwitch
  | lookupSwitch
  /-- An index, a count and a zero. -/
  | invokeInterface
  /-- An index and two zeros. -/
  | invokeDynamic
  /-- The type of the elements of an array. -/
  | newArray
  /-- Another opcode with operands of double size. -/
  | wide
  | invalid

/-- How an opcode goes on. -/
def Operands.of (opcode : Nat) : Operands :=
  if opcode ≤ 15 then .plain 0
  else if opcode = 16 || opcode = 18 then .plain 1
  else if opcode ≤ 20 then .plain 2
  else if opcode ≤ 25 then .plain 1
  else if opcode ≤ 53 then .plain 0
  else if opcode ≤ 58 then .plain 1
  else if opcode ≤ 131 then .plain 0
  else if opcode = 132 then .plain 2
  else if opcode ≤ 152 then .plain 0
  else if opcode ≤ 168 then .branch
  else if opcode = 169 then .plain 1
  else if opcode = 170 then .tableSwitch
  else if opcode = 171 then .lookupSwitch
  else if opcode ≤ 177 then .plain 0
  else if opcode ≤ 184 then .plain 2
  else if opcode = 185 then .invokeInterface
  else if opcode = 186 then .invokeDynamic
  else if opcode = 187 then .plain 2
  else if opcode = 188 then .newArray
  else if opcode = 189 then .plain 2
  else if opcode ≤ 191 then .plain 0
  else if opcode ≤ 193 then .plain 2
  else if opcode ≤ 195 then .plain 0
  else if opcode = 196 then .wide
  else if opcode = 197 then .plain 3
  else if opcode ≤ 199 then .branch
  else if opcode ≤ 201 then .wideBranch
  else if opcode = 202 || opcode = 254 || opcode = 255 then .plain 0
  else .invalid

/-- Whether an instruction works on one local variable, and so has a wide form with an
index of two bytes. -/
def isLocalAccess (opcode : Nat) : Bool :=
  (21 ≤ opcode && opcode ≤ 25) || (54 ≤ opcode && opcode ≤ 58) || opcode = 169

/-- The bytes that bring an operand to a multiple of four from the start of the code. -/
def padding (offset : Nat) : Nat := (4 - offset % 4) % 4

/-- An offset in the range of code. -/
def checkedTarget (target : Int) : Except FormatError Nat :=
  if target < 0 then .error .belowRange
  else if 65535 < target then .error .aboveRange
  else .ok target.toNat

/-- A list of keys and offsets in which a repeated key keeps its first place and its last
offset. -/
def mergeCases (cases : List (Int × Int)) : List (Int × Int) :=
  (cases.map (·.1)).eraseDups.filterMap fun key =>
    (cases.filter fun c => c.1 = key).getLast?

/-- The instruction that starts at an offset of the code. -/
def Instruction.read (offset : Nat) : Reader Instruction := do
  let opcode ← Reader.u1
  match Operands.of opcode with
  | .plain size => Reader.skip size; return ⟨offset, size + 1, []⟩
  | .branch =>
    let target := (offset : Int) + (← Reader.i2)
    match checkedTarget target with
    | .ok _ => return ⟨offset, 3, [target]⟩
    | .error e => Reader.fail e
  | .wideBranch => return ⟨offset, 5, [(offset : Int) + (← Reader.i4)]⟩
  | .tableSwitch =>
    let pad := padding (offset + 1)
    Reader.skip pad
    let fallback ← Reader.i4
    let low ← Reader.i4
    let high ← Reader.i4
    let jumps ← Reader.times Reader.i4 (high - low + 1).toNat
    return ⟨offset, 13 + pad + 4 * jumps.length,
      (fallback :: jumps).map ((offset : Int) + ·)⟩
  | .lookupSwitch =>
    let pad := padding (offset + 1)
    Reader.skip pad
    let fallback ← Reader.i4
    let count ← Reader.i4
    let cases ← Reader.times (do return (← Reader.i4, ← Reader.i4)) count.toNat
    return ⟨offset, 9 + pad + 8 * cases.length,
      (fallback :: (mergeCases cases).map (·.2)).map ((offset : Int) + ·)⟩
  | .invokeInterface =>
    Reader.skip 3
    if (← Reader.u1) = 0 then return ⟨offset, 5, []⟩ else Reader.fail (.instruction opcode)
  | .invokeDynamic =>
    Reader.skip 2
    if (← Reader.u2) = 0 then return ⟨offset, 5, []⟩ else Reader.fail (.instruction opcode)
  | .newArray =>
    let code ← Reader.u1
    if 4 ≤ code && code ≤ 11 then return ⟨offset, 2, []⟩ else Reader.fail (.arrayTypeCode code)
  | .wide =>
    let widened ← Reader.u1
    if isLocalAccess widened then Reader.skip 2; return ⟨offset, 4, []⟩
    else if widened = 132 then Reader.skip 4; return ⟨offset, 6, []⟩
    else Reader.fail (.wideInstruction widened)
  | .invalid => Reader.fail (.instruction opcode)

/-! ### Arrays of code -/

/-- The instructions of a method, in order. -/
structure Code where
  instructions : List Instruction
  deriving Repr

namespace Code

/-- The instructions from an offset on. Each takes at least one byte, so as many steps as
there are bytes read all of them. -/
def readInstructions : Nat → Nat → Bytes → Except FormatError (List Instruction)
  | 0, _, _ => .ok []
  | _ + 1, _, [] => .ok []
  | steps + 1, offset, b :: rest =>
    match Instruction.read offset (b :: rest) with
    | .error e => .error e
    | .ok (i, rest) =>
      (readInstructions steps (offset + i.size) rest).map (i :: ·)

/-- The number of instructions before the one that starts at an offset. -/
def indexAt? (code : Code) (offset : Nat) : Option Nat :=
  code.instructions.findIdx? (·.offset = offset)

/-- Whether an instruction starts at an offset. -/
def startAt (code : Code) (offset : Nat) : Except FormatError Unit :=
  if code.instructions.any (·.offset = offset) then .ok ()
  else .error (.instructionOffset offset)

/-- Whether an offset lies at or behind the start of some instruction. -/
def reaches (code : Code) (offset : Nat) : Except FormatError Unit :=
  if code.instructions.any (·.offset ≤ offset) then .ok ()
  else .error (.instructionOffset offset)

/-- Whether a branch leads to the start of an instruction. -/
def checkTarget (code : Code) (target : Int) : Except FormatError Unit := do
  code.startAt (← checkedTarget target)

/-- The code in some bytes: every instruction is decoded before the first branch is
checked. -/
def ofBytes (bytes : Bytes) : Except FormatError Code := do
  let code : Code := ⟨← readInstructions bytes.length 0 bytes⟩
  code.instructions.forM fun i => i.targets.forM code.checkTarget
  return code

/-- An entry of the table of exceptions: a range of code, whose end is exclusive, and the
handler for it. -/
def readException (code : Code) : Reader Unit := do
  let start ← Reader.u2
  let stop ← Reader.u2
  let handler ← Reader.u2
  Reader.skip 2
  match (do code.startAt start; code.reaches stop; code.startAt handler) with
  | .ok () => return ()
  | .error e => Reader.fail e

end Code

end Classpath.ClassFile
