import Classpath.ClassFile.Error

/-!
# Reading class files

A reader takes some bytes from the front and leaves the rest, or stops at a fault. All
numbers are big-endian.

What a reader does with the bytes it needs does not depend on the bytes behind them; the
lemmas below say so for the numbers, and every larger reader is put together from these.
-/

namespace Classpath.ClassFile

/-- A reader of a value from the front of some bytes. -/
abbrev Reader (α : Type) := StateT Bytes (Except FormatError) α

namespace Reader

/-- Stop at a fault. -/
def fail {α : Type} (e : FormatError) : Reader α :=
  fun _ => .error e

/-- The next `n` bytes. -/
def bytes (n : Nat) : Reader Bytes := fun input =>
  let front := input.take n
  if front.length = n then .ok (front, input.drop n) else .error .truncated

/-- The number in the next `n` bytes. -/
def number (n : Nat) : Reader Nat :=
  return Bytes.toNatBE (← bytes n)

/-- A number of one byte. -/
def u1 : Reader Nat := number 1

/-- A number of two bytes. -/
def u2 : Reader Nat := number 2

/-- A number of four bytes. -/
def u4 : Reader Nat := number 4

/-- The number below zero or not that `n` stands for in a field of `bits` bits. -/
def signed (bits n : Nat) : Int :=
  if n < 1 <<< (bits - 1) then n else (n : Int) - ((1 <<< bits : Nat) : Int)

/-- A signed number of two bytes. -/
def i2 : Reader Int := return signed 16 (← u2)

/-- A signed number of four bytes. -/
def i4 : Reader Int := return signed 32 (← u4)

/-- Pass over `n` bytes. -/
def skip (n : Nat) : Reader Unit := do
  let _ ← bytes n

/-- `n` values, one after another. -/
def times {α : Type} (read : Reader α) : Nat → Reader (List α)
  | 0 => return []
  | n + 1 => do
    let a ← read
    let rest ← times read n
    return a :: rest

/-- Pass over `n` values, one after another. -/
def skipTimes {α : Type} (read : Reader α) : Nat → Reader Unit
  | 0 => return ()
  | n + 1 => do
    let _ ← read
    skipTimes read n

/-- A count of two bytes and that many values. -/
def list {α : Type} (read : Reader α) : Reader (List α) := do
  times read (← u2)

/-- Pass over a count of two bytes and that many values. -/
def skipList {α : Type} (read : Reader α) : Reader Unit := do
  skipTimes read (← u2)

/-- How many bytes are left. -/
def remaining : Reader Nat := return (← get).length

/-! ### Readers and what follows -/

/-- Taking bytes leaves what follows them. -/
theorem bytes_append (front rest : Bytes) :
    bytes front.length (front ++ rest) = .ok (front, rest) := by
  simp [bytes]

/-- Reading a number takes the bytes it was written with. -/
theorem number_append (front rest : Bytes) :
    number front.length (front ++ rest) = .ok (Bytes.toNatBE front, rest) := by
  show (bytes front.length (front ++ rest)).bind _ = _
  rw [bytes_append]
  rfl

end Reader

end Classpath.ClassFile
