/-!
# Tables of code points

A property of characters is a set of code points, written down as ascending ranges in
hexadecimal, as the standard's own data files write them. A table is read once, and asked
by bisection.

## Main definitions

* `RangeTable`: ascending, disjoint ranges, with `RangeTable.read` and `RangeTable.contains`.
* `CodeSet`: a union of differences of tables.
-/

namespace Classpath.Unicode

/-- Ranges of code points, both ends included, ascending and disjoint. -/
structure RangeTable where
  ranges : Array (Nat × Nat)
  deriving Inhabited, DecidableEq

namespace RangeTable

/-- The value of a hexadecimal digit. -/
def digit? (c : Char) : Option Nat :=
  if '0' ≤ c && c ≤ '9' then some (c.toNat - 48)
  else if 'A' ≤ c && c ≤ 'F' then some (c.toNat - 55)
  else if 'a' ≤ c && c ≤ 'f' then some (c.toNat - 87)
  else none

/-- Where a reader of ranges stands: the ranges behind it, the low end of the range it is
in once it has passed the hyphen, and the number it is reading. -/
structure Reading where
  behind : Array (Nat × Nat)
  low : Option Nat
  number : Option Nat

/-- The reader at a blank: the range it was in ends there. -/
def Reading.close (r : Reading) : Reading :=
  match r.number with
  | none => r
  | some n => ⟨r.behind.push (r.low.getD n, n), none, none⟩

/-- The reader one character further. -/
def Reading.step (r : Reading) (c : Char) : Reading :=
  match digit? c with
  | some d => { r with number := some (16 * r.number.getD 0 + d) }
  | none => if c = '-' then { r with low := r.number, number := none } else r.close

/-- The table written as hexadecimal numbers and ranges with blanks between them. -/
def read (text : String) : RangeTable :=
  ⟨(text.toList.foldl Reading.step ⟨#[], none, none⟩).close.behind⟩

/-- Whether a code point is in one of the ranges. Two ranges count as equal when they
overlap, so bisection for the range of one point finds the range around it. -/
def contains (t : RangeTable) (code : Nat) : Bool :=
  t.ranges.binSearchContains (code, code) (fun a b => a.2 < b.1) 0 (t.ranges.size - 1)

end RangeTable

/-- The code points that some tables hold and others do not. -/
structure Difference where
  included : List RangeTable
  excluded : List RangeTable
  deriving Inhabited, DecidableEq

/-- Whether a code point is in an included table and in no excluded one. -/
def Difference.contains (d : Difference) (code : Nat) : Bool :=
  d.included.any (·.contains code) && !d.excluded.any (·.contains code)

/-- A set of code points: what belongs to any of its parts. -/
structure CodeSet where
  parts : List Difference
  deriving Inhabited, DecidableEq

namespace CodeSet

/-- The code points of some tables. -/
def of (tables : List RangeTable) : CodeSet := ⟨[⟨tables, []⟩]⟩

/-- All code points. -/
def everything : CodeSet := .of [⟨#[(0, 0x10FFFF)]⟩]

/-- Whether a code point is in the set. -/
def contains (s : CodeSet) (code : Nat) : Bool :=
  s.parts.any (·.contains code)

instance : Append CodeSet := ⟨fun a b => ⟨a.parts ++ b.parts⟩⟩

/-- A set without the code points of some tables. -/
def without (s : CodeSet) (tables : List RangeTable) : CodeSet :=
  ⟨s.parts.map fun d => ⟨d.included, d.excluded ++ tables⟩⟩

end CodeSet

end Classpath.Unicode
