import Classpath.Regex.Basic

/-!
# The size of an expression

How much memory an automaton for an expression takes, in bytes. Repetitions are written out
in an automaton, so a short text can describe a huge one; expressions above a limit are
refused.

The numbers are those of an automaton over UTF-8: a state takes 32 bytes, and a set of
characters grows with the number of its ranges.

## Main definitions

* `Regex.size`, `Regex.sizeLimit`.
-/

namespace Classpath

/-- The bytes that an automaton takes for a set of characters. -/
def CharSet.size : CharSet → Nat
  | range _ last => if last < 128 then 32 else 128
  | codes s =>
    32 + 24 * s.parts.foldl (fun n d => d.included.foldl (fun n t => n + t.ranges.size) n) 0
  | empty => 32
  | union a b => a.size + b.size
  | inter a b => min a.size b.size
  | diff a b => a.size + b.size
  | symmDiff a b => a.size + b.size
  | compl a => a.size + 384
  | folded a => 2 * a.size
  | asciiFolded a => 2 * a.size

namespace Regex

/-- Whether an expression describes only empty spans by its form. -/
def isEmptyWidth : Regex → Bool
  | empty => true
  | chars _ => false
  | look _ => true
  | seq a b => a.isEmptyWidth && b.isEmptyWidth
  | alt a b => a.isEmptyWidth && b.isEmptyWidth
  | iterate _ most r => most == some 0 || r.isEmptyWidth

/-- The bytes that an automaton takes for an expression. What describes only empty spans is
never written out more than once. -/
def size : Regex → Nat
  | empty => 32
  | chars s => s.size
  | look _ => 32
  | seq a b => a.size + b.size
  | alt a b => a.size + b.size + 40
  | iterate least most r =>
    if r.isEmptyWidth then r.size + 40
    else
      match most with
      | none => max least 1 * r.size + 40
      | some m => least * r.size + (m - least) * (r.size + 40)

/-- The size that an expression may have: ten mebibytes. -/
def sizeLimit : Nat := 10 * 0x100000

end Regex

end Classpath
