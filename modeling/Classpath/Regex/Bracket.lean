import Classpath.Regex.Escape

/-!
# Bracketed classes

A class between brackets: characters, ranges and classes, joined, and set operations between
such unions. All operations bind equally and to the left.

A hyphen is itself at the beginning, before the closing bracket and before another hyphen; a
closing bracket is itself where the class would otherwise be empty. The bracket of a class of
ASCII that is not one, such as `[:foo:]`, opens a class like any other.

## Main definitions

* `bracket`: the class behind an opening bracket.
-/

namespace Classpath.Regex

/-- A part of a bracketed class, and how deeply classes are nested in it. -/
structure ClassPart where
  set : CharSet
  depth : Nat := 0

/-- An operation between two unions. -/
inductive SetOp where
  | inter | diff | symmDiff
  deriving DecidableEq, Repr

/-- The set that an operation makes of two. -/
def SetOp.apply : SetOp → CharSet → CharSet → CharSet
  | inter => .inter
  | diff => .diff
  | symmDiff => .symmDiff

/-- A class as far as it is read: the operation that waits for its right side, with its left
side, and the parts of the current union, the last first. -/
structure OpenClass where
  waiting : Option (SetOp × ClassPart) := none
  parts : List ClassPart := []

/-- The class with one part more. -/
def OpenClass.push (c : OpenClass) (p : ClassPart) : OpenClass :=
  { c with parts := p :: c.parts }

/-- The union of some parts. A single part is no deeper than itself. -/
def joinParts : List ClassPart → ClassPart
  | [p] => p
  | parts =>
    ⟨.unions (parts.map (·.set)),
      if parts.isEmpty then 0 else 1 + (parts.map (·.depth)).foldl max 0⟩

/-- A set closed under change of case if case is not told apart. -/
def Flags.fold (flags : Flags) (s : CharSet) : CharSet :=
  (flags.finish false s).toOption.getD s

/-- All that is read of a class, as one part. -/
def OpenClass.close (flags : Flags) (c : OpenClass) : ClassPart :=
  let right := joinParts c.parts
  match c.waiting with
  | none => right
  | some (op, left) =>
    ⟨op.apply (flags.fold left.set) (flags.fold right.set), 1 + max left.depth right.depth⟩

/-- The class at an operation: what was read is its left side. -/
def OpenClass.operate (flags : Flags) (c : OpenClass) (op : SetOp) : OpenClass :=
  { waiting := some (op, c.close flags), parts := [] }

/-! ### Parts -/

/-- The ASCII class between colons that begins behind a bracket, and what follows it. -/
def asciiClass? : List Char → Option (Bool × CharSet × List Char)
  | ':' :: cs =>
    let negated := cs.head? == some '^'
    let cs := if negated then cs.drop 1 else cs
    let name := cs.takeWhile (· != ':')
    match cs.dropWhile (· != ':') with
    | ':' :: ']' :: rest =>
      (CharSet.ofAsciiName? (String.ofList name)).map fun s => (negated, s, rest)
    | _ => none
  | _ => none

/-- A single item of a class, which has a place on the line only if it is a character. -/
def classItem (flags : Flags) : Scan Escaped := do
  let c ← Scan.next .unclosedClass
  if c = '\\' then escape flags else return .literal c

/-- A character of a class. Without the flag `u` it has to be one of ASCII. -/
def classCharacter (flags : Flags) (c : Char) : Except SyntaxError Char :=
  if flags.unicode || c.toNat < 128 then .ok c else .error .partOfCharacter

/-- The end of a range. -/
def rangeEnd (flags : Flags) : Escaped → Except SyntaxError Char
  | .literal c => classCharacter flags c
  | _ => .error .badRange

/-- The part that an item is on its own. -/
def itemSet (flags : Flags) : Escaped → Except SyntaxError CharSet
  | .literal c => (classCharacter flags c).map .single
  | .chars s => .ok s
  | .look _ => .error .badRange

/-- The character after the hyphen that is next. Where blanks mean nothing it is the first
one that is no blank, but of a comment only the sign that begins it is passed over. -/
def behindHyphen (flags : Flags) : Scan (Option Char) := fun cs =>
  let rest := cs.drop 1
  let found :=
    if !flags.spaced then rest.head?
    else
      match rest.dropWhile isBlank with
      | '#' :: inner => (inner.dropWhile isBlank).head?
      | other => other.head?
  .ok (found, cs)

/-- An item or a range. -/
def classRange (flags : Flags) : Scan CharSet := do
  let first ← classItem flags
  blanks flags
  match ← Scan.peek with
  | none => Scan.fail .unclosedClass
  | some c =>
    let after ← behindHyphen flags
    if c != '-' || after == some ']' || after == some '-' then
      Scan.ofExcept (itemSet flags first)
    else
      advanceBlanks flags
      let last ← classItem flags
      let low ← Scan.ofExcept (rangeEnd flags first)
      let high ← Scan.ofExcept (rangeEnd flags last)
      if low ≤ high then return .range low.toNat high.toNat else Scan.fail .badRange

/-! ### Classes -/

/-- The hyphens at the beginning of a class. The first argument bounds their number. -/
def leadingHyphens (flags : Flags) : Nat → Scan (List ClassPart)
  | 0 => return []
  | n + 1 => do
    if (← Scan.peek) == some '-' then
      advanceBlanks flags
      return ⟨.single '-', 0⟩ :: (← leadingHyphens flags n)
    else return []

/-- What stands between the opening bracket and the first part of a class: whether the class
is negated, and the characters that are themselves only here. -/
def opening (flags : Flags) : Scan (Bool × OpenClass) := do
  blanks flags
  let negated := (← Scan.peek) == some '^'
  if negated then advanceBlanks flags
  let hyphens ← leadingHyphens flags (← get).length
  if hyphens.isEmpty && (← Scan.peek) == some ']' then
    advanceBlanks flags
    return (negated, ⟨none, [⟨.single ']', 0⟩]⟩)
  else return (negated, ⟨none, hyphens⟩)

mutual

/-- A class, behind its opening bracket. Each bracket and each part takes a character, so
`fuel` has to be no more than the number of characters and one. -/
def bracket (flags : Flags) : (fuel : Nat) → Scan ClassPart
  | 0 => Scan.fail .unclosedClass
  | fuel + 1 => do
    let (negated, c) ← opening flags
    let inner ← bracketRest flags fuel c
    return ⟨← Scan.ofExcept (flags.finish negated inner.set), inner.depth + 1⟩

/-- The rest of a class, up to its closing bracket. -/
def bracketRest (flags : Flags) : (fuel : Nat) → OpenClass → Scan ClassPart
  | 0, _ => Scan.fail .unclosedClass
  | fuel + 1, c => do
    blanks flags
    if ← Scan.takes "[" then
      match asciiClass? (← get) with
      | some (negated, s, rest) =>
        set rest
        let s ← Scan.ofExcept (flags.finish negated s)
        bracketRest flags fuel (c.push ⟨s, 0⟩)
      | none =>
        let inner ← bracket flags fuel
        bracketRest flags fuel (c.push inner)
    else if ← Scan.takes "]" then return c.close flags
    else if ← Scan.takes "&&" then bracketRest flags fuel (c.operate flags .inter)
    else if ← Scan.takes "--" then bracketRest flags fuel (c.operate flags .diff)
    else if ← Scan.takes "~~" then bracketRest flags fuel (c.operate flags .symmDiff)
    else
      let s ← classRange flags
      bracketRest flags fuel (c.push ⟨s, 0⟩)

end

end Classpath.Regex
