import Classpath.Regex.Property
import Classpath.Regex.Scan

/-!
# Escapes

What may follow a backslash: a character that would otherwise have a meaning, one by its
name or its number, a class, or a condition on a position. Every other letter and every
digit is refused, so that a meaning can be given to it one day.

## Main definitions

* `Escaped`, `escape`.
-/

namespace Classpath.Regex

/-- What an escape stands for. -/
inductive Escaped where
  | literal (c : Char)
  | chars (s : CharSet)
  | look (l : Look)

/-! ### Characters -/

/-- Whether a character that is no letter or digit may be escaped to stand for itself. -/
def isEscapable (c : Char) : Bool :=
  c.toNat < 128 && !c.isAlphanum && c != '<' && c != '>'

/-- The character with a name of one letter. -/
def namedCharacter? : Char → Option Char
  | 'a' => some '\x07'
  | 'f' => some '\x0c'
  | 't' => some '\t'
  | 'n' => some '\n'
  | 'r' => some '\r'
  | 'v' => some '\x0b'
  | _ => none

/-- The number in some hexadecimal digits. -/
def hexNumber? (digits : List Char) : Option Nat :=
  digits.foldlM (fun n c => (Unicode.RangeTable.digit? c).map (16 * n + ·)) 0

/-- The character with a number. -/
def characterOf? (digits : List Char) : Option Char := do
  let n ← hexNumber? digits
  if h : n.isValidChar then some (Char.ofNatAux n h) else none

/-- The next `n` characters, with blanks passed over behind each. -/
def takeCount (flags : Flags) : Nat → Scan (List Char)
  | 0 => return []
  | n + 1 => do
    let c ← nextBlanks flags .unfinishedEscape
    return c :: (← takeCount flags n)

/-- The characters up to a closing brace, which is passed over. -/
def takeBraced (flags : Flags) : Scan (List Char) := do
  let size := (← get).length
  blanks flags
  let content ← takeSpaced flags (· != '\x7d') size
  let _ ← Scan.next .unfinishedEscape
  return content

/-- The character behind `\x`, `\u` or `\U`: by a fixed number of digits or by any number of
them in braces. With two digits alone a byte is meant, which without the flag `u` has to be
a character of its own. -/
def numbered (flags : Flags) (kind : Char) : Scan Char := do
  blanks flags
  let width := if kind = 'x' then 2 else if kind = 'u' then 4 else 8
  let braced := (← Scan.peek) == some '\x7b'
  let digits ←
    if braced then
      Scan.advance
      takeBraced flags
    else takeCount flags width
  if braced then blanks flags
  if digits.isEmpty then Scan.fail .badCodePoint
  else
    match characterOf? digits with
    | none => Scan.fail .badCodePoint
    | some c =>
      if kind = 'x' && !braced && !flags.unicode && 128 ≤ c.toNat then
        Scan.fail .partOfCharacter
      else return c

/-! ### Classes -/

/-- The characters of a property in braces: its name, or a name and a value with `:`, `=` or
`!=` between them. The sign between them never negates. -/
def propertySet? (content : List Char) : Option CharSet :=
  let pair (at_ width : Nat) : Option CharSet :=
    CharSet.ofPropertyValue? (String.ofList (content.take at_))
      (String.ofList (content.drop (at_ + width)))
  let unequal := (List.range content.length).find? fun i => ['!', '='].isPrefixOf (content.drop i)
  match unequal with
  | some i => pair i 2
  | none =>
    match content.findIdx? (· == ':') with
    | some i => pair i 1
    | none =>
      match content.findIdx? (· == '=') with
      | some i => pair i 1
      | none => CharSet.ofProperty? (String.ofList content)

/-- The class behind `\p`, or `\P` if it is negated. -/
def property (flags : Flags) (negated : Bool) : Scan CharSet := do
  blanks flags
  let set ←
    match ← Scan.peek with
    | none => Scan.fail .unfinishedEscape
    | some '\x7b' =>
      Scan.advance
      pure (propertySet? (← takeBraced flags))
    | some c =>
      advanceBlanks flags
      pure (if c = '\\' then none else CharSet.ofProperty? (String.singleton c))
  match set with
  | none => Scan.fail .unknownProperty
  | some s =>
    if flags.unicode then Scan.ofExcept (flags.finish negated s)
    else Scan.fail .partOfCharacter

/-- The class with a name of one letter, which a capital letter negates. Such a class is
closed under change of case already. -/
def namedSet? (flags : Flags) : Char → Option (Bool × CharSet)
  | 'd' => some (false, .digit flags.unicode)
  | 's' => some (false, .blank flags.unicode)
  | 'w' => some (false, .word flags.unicode)
  | 'D' => some (true, .digit flags.unicode)
  | 'S' => some (true, .blank flags.unicode)
  | 'W' => some (true, .word flags.unicode)
  | _ => none

/-! ### Conditions -/

/-- A condition on words under the flags. -/
def wordLook (flags : Flags) (kind : WordLook) : Look := .word kind (.word flags.unicode)

/-- The kinds of word boundaries that have a name in braces. -/
def wordLookNamed? : String → Option WordLook
  | "start" => some .start
  | "end" => some .finish
  | "start-half" => some .startHalf
  | "end-half" => some .finishHalf
  | _ => none

/-- What follows `\b`: the name of a kind of boundary in braces, or nothing. Braces that do
not begin with a letter or a hyphen are the limits of a repetition, and stay. -/
def boundary (flags : Flags) : Scan Look := fun cs =>
  let named (c : Char) : Bool := c.isAlpha || c == '-'
  match cs with
  | '\x7b' :: rest =>
    let inner := if flags.spaced then dropBlanks false rest else rest
    match inner with
    | [] => .error .unfinishedEscape
    | c :: _ =>
      if !named c then .ok (wordLook flags .boundary, cs)
      else
        match takeSpaced flags named inner.length inner with
        | .error e => .error e
        | .ok (name, '\x7d' :: rest) =>
          match wordLookNamed? (String.ofList name) with
          | some kind => .ok (wordLook flags kind, rest)
          | none => .error .unfinishedEscape
        | .ok _ => .error .unfinishedEscape
  | _ => .ok (wordLook flags .boundary, cs)

/-! ### All escapes -/

/-- What follows a backslash. -/
def escape (flags : Flags) : Scan Escaped := do
  let c ← Scan.next .unfinishedEscape
  if c.isDigit then Scan.fail .backReference
  else if c = 'x' || c = 'u' || c = 'U' then return .literal (← numbered flags c)
  else if c = 'p' || c = 'P' then return .chars (← property flags (c == 'P'))
  else if isEscapable c then return .literal c
  else
    match namedSet? flags c, namedCharacter? c with
    | some (negated, s), _ =>
      let plain : Flags := { flags with foldsCase := false }
      return .chars (← Scan.ofExcept (plain.finish negated s))
    | none, some d => return .literal d
    | none, none =>
      match c with
      | 'A' => return .look .textStart
      | 'z' => return .look .textEnd
      | 'b' => return .look (← boundary flags)
      | 'B' => return .look (wordLook flags .inside)
      | '<' => return .look (wordLook flags .start)
      | '>' => return .look (wordLook flags .finish)
      | _ => Scan.fail (.unknownEscape c)

end Classpath.Regex
