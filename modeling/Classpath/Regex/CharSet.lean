import Classpath.Unicode.CaseFolding
import Classpath.Unicode.Property

/-!
# Sets of characters

What a class of a regular expression describes, as the expression it is written with: a
character belongs to the set or not, and no set is ever listed.

## Main definitions

* `CharSet`, `CharSet.contains`.
* The sets that have names of their own: digits, blanks, parts of words.
-/

namespace Classpath

open Unicode

/-- A set of characters. -/
inductive CharSet where
  /-- The characters between two others, both included. -/
  | range (first last : Nat)
  | codes (s : CodeSet)
  | empty
  | union (a b : CharSet)
  | inter (a b : CharSet)
  | diff (a b : CharSet)
  /-- What belongs to exactly one of two sets. -/
  | symmDiff (a b : CharSet)
  | compl (a : CharSet)
  /-- What equals a member without regard to case. -/
  | folded (a : CharSet)
  /-- The same, where only letters of ASCII have a partner. -/
  | asciiFolded (a : CharSet)
  deriving DecidableEq

namespace CharSet

/-- Whether a code point belongs to the set. -/
def contains : CharSet → Nat → Bool
  | range first last, c => first ≤ c && c ≤ last
  | codes s, c => s.contains c
  | empty, _ => false
  | union a b, c => a.contains c || b.contains c
  | inter a b, c => a.contains c && b.contains c
  | diff a b, c => a.contains c && !b.contains c
  | symmDiff a b, c => a.contains c != b.contains c
  | compl a, c => !a.contains c
  | folded a, c => (CaseFolding.variants c).any a.contains
  | asciiFolded a, c => (CaseFolding.asciiVariants c).any a.contains

/-- The set of one character. -/
def single (c : Char) : CharSet := range c.toNat c.toNat

/-- The set of the characters in some ranges. -/
def ranges (l : List (Char × Char)) : CharSet :=
  l.foldr (fun (first, last) rest => union (range first.toNat last.toNat) rest) empty

/-- What belongs to any of some sets. -/
def unions (l : List CharSet) : CharSet := l.foldr union empty

/-! ### Named sets -/

/-- All characters. -/
def any : CharSet := compl empty

/-- Digits: of all writing systems, or of ASCII. -/
def digit (unicode : Bool) : CharSet :=
  if unicode then codes (.of [Category.decimalNumber]) else ranges [('0', '9')]

/-- Blanks. -/
def blank (unicode : Bool) : CharSet :=
  if unicode then codes Property.whiteSpace else ranges [('\t', '\r'), (' ', ' ')]

/-- Parts of words. -/
def word (unicode : Bool) : CharSet :=
  if unicode then codes Property.wordCharacter
  else ranges [('0', '9'), ('A', 'Z'), ('_', '_'), ('a', 'z')]

/-- The classes of ASCII characters that have a name between colons. -/
def ofAsciiName? : String → Option CharSet
  | "alnum" => some (ranges [('0', '9'), ('A', 'Z'), ('a', 'z')])
  | "alpha" => some (ranges [('A', 'Z'), ('a', 'z')])
  | "ascii" => some (range 0 127)
  | "blank" => some (ranges [('\t', '\t'), (' ', ' ')])
  | "cntrl" => some (union (range 0 31) (range 127 127))
  | "digit" => some (ranges [('0', '9')])
  | "graph" => some (ranges [('!', '~')])
  | "lower" => some (ranges [('a', 'z')])
  | "print" => some (ranges [(' ', '~')])
  | "punct" => some (ranges [('!', '/'), (':', '@'), ('[', '\x60'), ('\x7b', '~')])
  | "space" => some (ranges [('\t', '\r'), (' ', ' ')])
  | "upper" => some (ranges [('A', 'Z')])
  | "word" => some (word false)
  | "xdigit" => some (ranges [('0', '9'), ('A', 'F'), ('a', 'f')])
  | _ => none

end CharSet

end Classpath
