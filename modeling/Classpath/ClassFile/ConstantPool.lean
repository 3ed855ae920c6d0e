import Classpath.ClassFile.Reader

/-!
# The constant pool

The numbered table of texts and references at the front of a class file. Slots are counted
from one; a constant of eight bytes takes two, the second of which nothing may refer to.

Only texts and class references are kept, since nothing else is ever looked up; all other
constants are read for their size. References are not followed while the pool is read.

## Main definitions

* `ConstantPool.read`: the pool at the front of some bytes.
* `ConstantPool.utf8`, `ConstantPool.className`: looking a constant up.
-/

namespace Classpath.ClassFile

/-- A constant, as far as it is ever asked for. -/
inductive Constant where
  | utf8 (text : String)
  /-- A class, by the index of its name. -/
  | class (nameIndex : Nat)
  | other
  deriving DecidableEq, Repr

/-- The slots of a pool, the first of which has index one. -/
structure ConstantPool where
  slots : Array (Option Constant)
  deriving Repr

namespace ConstantPool

/-! ### Reading -/

/-- A constant and the slots it takes. -/
def readConstant : Reader (Constant × Nat) := do
  let tag ← Reader.u1
  match tag with
  | 1 =>
    let content ← Reader.bytes (← Reader.u2)
    match Mutf8.decode content with
    | .ok text => return (.utf8 text, 1)
    | .error e => Reader.fail (.text e)
  | 3 | 4 => Reader.skip 4; return (.other, 1)
  | 5 | 6 => Reader.skip 8; return (.other, 2)
  | 7 => return (.class (← Reader.u2), 1)
  | 8 | 16 | 19 | 20 => Reader.skip 2; return (.other, 1)
  | 9 | 10 | 11 | 12 | 17 | 18 => Reader.skip 4; return (.other, 1)
  | 15 =>
    let kind ← Reader.u1
    if 1 ≤ kind && kind ≤ 9 then Reader.skip 2; return (.other, 1)
    else Reader.fail (.referenceKind kind)
  | _ => Reader.fail (.constantTag tag)

/-- The slots of the constants that fill at least `n` slots. A constant of two slots may
end beyond them. -/
def readSlots : Nat → Reader (List (Option Constant))
  | 0 => return []
  | 1 => do
    let (c, size) ← readConstant
    return some c :: List.replicate (size - 1) none
  | n + 2 => do
    let (c, size) ← readConstant
    if size = 2 then return some c :: none :: (← readSlots n)
    else return some c :: (← readSlots (n + 1))

/-- A pool: the number of its slots and one, and its constants. -/
def read : Reader ConstantPool := do
  let count ← Reader.u2
  if count = 0 then Reader.fail .emptyPool
  else return ⟨(← readSlots (count - 1)).toArray⟩

/-! ### Looking up -/

/-- The constant with an index, if there is one. -/
def get? (pool : ConstantPool) (index : Nat) : Option Constant :=
  if index = 0 then none else (pool.slots[index - 1]?).join

/-- The text with an index. -/
def utf8 (pool : ConstantPool) (index : Nat) : Except FormatError String :=
  match pool.get? index with
  | some (.utf8 text) => .ok text
  | some _ => .error (.poolIndexType index)
  | none => .error (.poolIndex index)

/-- The slashed name of the class with an index. -/
def className (pool : ConstantPool) (index : Nat) : Except FormatError String :=
  match pool.get? index with
  | some (.class nameIndex) => pool.utf8 nameIndex
  | some _ => .error (.poolIndexType index)
  | none => .error (.poolIndex index)

end ConstantPool

end Classpath.ClassFile
