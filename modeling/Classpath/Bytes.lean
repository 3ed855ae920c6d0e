/-!
# Bytes

Contents of files, archives and class files are lists of bytes: what is read from them is
read from the front, and what is said about reading is an induction on the list.

Numbers in them come in both orders: class files are big-endian, archives little-endian.
-/

namespace Classpath

/-- The content of a file, or a part of it. -/
abbrev Bytes := List UInt8

namespace Bytes

/-! ### Numbers -/

/-- The number whose bytes these are, the most significant first. -/
def toNatBE (bytes : Bytes) : Nat :=
  bytes.foldl (fun n b => 256 * n + b.toNat) 0

/-- The number whose bytes these are, the least significant first. -/
def toNatLE : Bytes → Nat
  | [] => 0
  | b :: rest => b.toNat + 256 * toNatLE rest

/-- The `width` low bytes of a number, the most significant first. Higher bytes are
dropped, as in a field that is too narrow for its number. -/
def ofNatBE : Nat → Nat → Bytes
  | 0, _ => []
  | width + 1, n => UInt8.ofNat (n >>> (8 * width)) :: ofNatBE width n

/-- The `width` low bytes of a number, the least significant first. -/
def ofNatLE : Nat → Nat → Bytes
  | 0, _ => []
  | width + 1, n => UInt8.ofNat n :: ofNatLE width (n / 256)

/-- A number is written with as many bytes as the field has. -/
@[simp] theorem length_ofNatBE (width n : Nat) : (ofNatBE width n).length = width := by
  induction width with
  | zero => rfl
  | succ w ih => simp [ofNatBE, ih]

end Bytes

end Classpath
