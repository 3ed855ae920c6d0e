import Classpath.Regex.Basic

/-!
# Reading regular expressions

What all readers of the syntax share: the flags in force, the causes of failure, and the
scanner, which takes characters from the front of a text.

Under the flag `x` blanks and comments may stand between any two items, and inside some;
a reader says where, by calling `blanks`.

## Main definitions

* `Flags`, `SyntaxError`, `Scan`.
-/

namespace Classpath.Regex

/-- The flags in force at a point of an expression. -/
structure Flags where
  /-- Case is not told apart (`i`). -/
  foldsCase : Bool := false
  /-- `^` and `$` look at lines (`m`). -/
  multiLine : Bool := false
  /-- The dot takes line ends as well (`s`). -/
  dotTakesAll : Bool := false
  /-- Lines may end with a carriage return (`R`). -/
  crlf : Bool := false
  /-- Classes are those of all writing systems (`u`). -/
  unicode : Bool := true
  /-- Blanks and comments mean nothing (`x`). -/
  spaced : Bool := false
  deriving DecidableEq, Repr

/-- Why a text is no regular expression. -/
inductive SyntaxError where
  /-- The text ends inside an escape. -/
  | unfinishedEscape
  | unknownEscape (c : Char)
  /-- A number stands for no character. -/
  | badCodePoint
  | unknownProperty
  /-- A repetition follows nothing that could be repeated. -/
  | nothingToRepeat
  /-- The limits of a repetition are malformed, too large or in the wrong order. -/
  | badRepetition
  | unclosedClass
  /-- A range whose ends are no characters or stand in the wrong order. -/
  | badRange
  | unclosedGroup
  | unopenedGroup
  | badGroupName
  | badFlags
  | lookAround
  | backReference
  /-- The expression could match a part of a character. -/
  | partOfCharacter
  /-- Brackets, groups and repetitions are nested too deeply. -/
  | tooDeep
  | tooLarge
  deriving DecidableEq, Repr

/-! ### The scanner -/

/-- A reader that takes characters from the front of a text. -/
abbrev Scan (α : Type) := StateT (List Char) (Except SyntaxError) α

namespace Scan

/-- Stop with an error. -/
def fail {α : Type} (e : SyntaxError) : Scan α := fun _ => .error e

/-- The next character, which stays. -/
def peek : Scan (Option Char) := fun cs => .ok (cs.head?, cs)

/-- Pass over the next character, if there is one. -/
def advance : Scan Unit := fun cs => .ok ((), cs.drop 1)

/-- Take the next character. -/
def next (e : SyntaxError) : Scan Char
  | [] => .error e
  | c :: cs => .ok (c, cs)

/-- Take the given characters if they come next. -/
def takes (s : String) : Scan Bool := fun cs =>
  if s.toList.isPrefixOf cs then .ok (true, cs.drop s.length) else .ok (false, cs)

/-- Take the first of the given texts that comes next. -/
def takesAny (texts : List String) : Scan Bool := fun cs =>
  match texts.find? (·.toList.isPrefixOf cs) with
  | some s => .ok (true, cs.drop s.length)
  | none => .ok (false, cs)

/-- Take the characters up to the first one that is not wanted. -/
def takeWhile (wanted : Char → Bool) : Scan (List Char) := fun cs =>
  .ok (cs.takeWhile wanted, cs.dropWhile wanted)

end Scan

/-! ### Blanks and comments -/

/-- Whether a character is a blank. -/
def isBlank (c : Char) : Bool := Unicode.Property.whiteSpace.contains c.toNat

/-- A text without the blanks and comments it begins with; a comment goes from `#` to the
end of its line. -/
def dropBlanks : (inComment : Bool) → List Char → List Char
  | _, [] => []
  | true, c :: cs => dropBlanks (c != '\n') cs
  | false, c :: cs =>
    if isBlank c then dropBlanks false cs
    else if c = '#' then dropBlanks true cs
    else c :: cs

/-- Pass over blanks and comments where they mean nothing. -/
def blanks (flags : Flags) : Scan Unit := fun cs =>
  .ok ((), if flags.spaced then dropBlanks false cs else cs)

/-- Pass over the next character and what means nothing behind it. -/
def advanceBlanks (flags : Flags) : Scan Unit := do
  Scan.advance
  blanks flags

/-- Take the next character and what means nothing behind it. -/
def nextBlanks (flags : Flags) (e : SyntaxError) : Scan Char := do
  let c ← Scan.next e
  blanks flags
  return c

/-- The characters up to the first one that is not wanted, without what means nothing
between them. The first argument bounds their number. -/
def takeSpaced (flags : Flags) (wanted : Char → Bool) : Nat → Scan (List Char)
  | 0 => return []
  | n + 1 => do
    match ← Scan.peek with
    | some c =>
      if wanted c then
        advanceBlanks flags
        return c :: (← takeSpaced flags wanted n)
      else return []
    | none => return []

/-! ### Sets under flags -/

/-- A set of characters as the flags see it: closed under change of case if case is not told
apart, and then, if it is negated, exchanged for its complement. Without the flag `u` a
complement would hold parts of characters. -/
def Flags.finish (flags : Flags) (negated : Bool) (s : CharSet) : Except SyntaxError CharSet :=
  let closed :=
    if !flags.foldsCase then s
    else if flags.unicode then .folded s
    else .asciiFolded s
  if !negated then .ok closed
  else if flags.unicode then .ok (.compl closed)
  else .error .partOfCharacter

/-- The result of a check, as a reader. -/
def Scan.ofExcept {α : Type} (result : Except SyntaxError α) : Scan α :=
  match result with
  | .ok a => return a
  | .error e => Scan.fail e

end Classpath.Regex
