import Classpath.Regex.Bracket
import Classpath.Regex.Size

/-!
# Reading expressions

The syntax of regular expressions, read from the front to the back with the groups that are
open: items follow one another, `|` ends a branch, and a repetition takes the item before
it. Flags set between two items hold to the end of the group, in later branches too.

Groups only group, and whether a repetition prefers many rounds or few makes no difference
to what an expression describes; both are read and forgotten.

An expression may be refused although its syntax is right: because it is nested too deeply,
or because an automaton for it would be too large.

## Main definitions

* `Regex.parse`.
-/

namespace Classpath.Regex

/-! ### Open groups -/

/-- An item of an expression: what it describes, how deeply it is nested, and whether it can
be repeated. Only flags cannot. -/
structure Item where
  regex : Regex
  depth : Nat := 0
  isRepeatable : Bool := true

/-- A group that is not closed yet: the flags that hold again behind it, its finished
branches and the items of the current one, the last first. -/
structure OpenGroup where
  outer : Flags
  branches : List Item := []
  items : List Item := []

/-- Some things that are one deeper together than the deepest of them, unless there is only
one. -/
def joined (join : List Regex → Regex) : List Item → Item
  | [] => ⟨.empty, 0, true⟩
  | [item] => item
  | parts => ⟨join (parts.map (·.regex)), 1 + (parts.map (·.depth)).foldl max 0, true⟩

/-- The current branch. -/
def OpenGroup.branch (g : OpenGroup) : Item := joined seqs g.items.reverse

/-- All of the group. -/
def OpenGroup.content (g : OpenGroup) : Item :=
  if g.branches.isEmpty then g.branch else joined alts (g.branch :: g.branches).reverse

/-- The group with an item more. -/
def OpenGroup.push (g : OpenGroup) (item : Item) : OpenGroup :=
  { g with items := item :: g.items }

/-- The group behind a bar. -/
def OpenGroup.split (g : OpenGroup) : OpenGroup :=
  { g with branches := g.branch :: g.branches, items := [] }

/-- How far an expression is read: the flags in force, the names of groups so far, the group
that is open and the ones around it. -/
structure Progress where
  flags : Flags := {}
  names : List String := []
  group : OpenGroup := { outer := {} }
  around : List OpenGroup := []

/-- The progress with an item more. -/
def Progress.push (p : Progress) (item : Item) : Progress :=
  { p with group := p.group.push item }

/-- The progress behind a closing parenthesis. -/
def Progress.close (p : Progress) : Except SyntaxError Progress :=
  match p.around with
  | [] => .error .unopenedGroup
  | g :: around =>
    let content := p.group.content
    .ok { p with
      flags := p.group.outer
      group := g.push ⟨content.regex, content.depth + 1, true⟩
      around }

/-- The progress behind an opening parenthesis. -/
def Progress.open_ (p : Progress) (flags : Flags) : Progress :=
  { p with flags, group := { outer := p.flags }, around := p.group :: p.around }

/-! ### Flags -/

/-- A flag set to a value. The flag `U` exchanges preferences only. -/
def Flags.set? (flags : Flags) (value : Bool) : Char → Option Flags
  | 'i' => some { flags with foldsCase := value }
  | 'm' => some { flags with multiLine := value }
  | 's' => some { flags with dotTakesAll := value }
  | 'R' => some { flags with crlf := value }
  | 'u' => some { flags with unicode := value }
  | 'x' => some { flags with spaced := value }
  | 'U' => some flags
  | _ => none

/-- The flags after some letters, each at most once; those behind the hyphen are cleared.
The hyphen must not be the last. -/
def setFlags (letters : List Char) (flags : Flags) : Except SyntaxError Flags :=
  if !decide letters.Nodup || letters.getLast? = some '-' then .error .badFlags
  else
    let set := letters.takeWhile (· != '-')
    let cleared := (letters.dropWhile (· != '-')).drop 1
    let apply (value : Bool) (flags : Flags) (letter : Char) : Except SyntaxError Flags :=
      match flags.set? value letter with
      | some flags => .ok flags
      | none => .error .badFlags
    do cleared.foldlM (apply false) (← set.foldlM (apply true) flags)

/-! ### Groups -/

/-- Whether a character may stand in the name of a group. -/
def isNameCharacter (isFirst : Bool) (c : Char) : Bool :=
  let isLetter := Unicode.Property.alphabetic.contains c.toNat
  let isNumber := Unicode.Category.number.contains c.toNat
  if isFirst then c == '_' || isLetter
  else c == '_' || c == '.' || c == '[' || c == ']' || isLetter || isNumber

/-- The name of a group, up to the bracket that closes it. A name is given once. -/
def groupName (names : List String) : Scan String := do
  let name ← Scan.takeWhile (· != '>')
  let _ ← Scan.next .badGroupName
  let isName := match name with
    | [] => false
    | c :: cs => isNameCharacter true c && cs.all (isNameCharacter false)
  let name := String.ofList name
  if isName && !names.contains name then return name else Scan.fail .badGroupName

/-- What follows an opening parenthesis: a group with or without a name, a group with flags
of its own, or flags for the rest of the group around. -/
def group (p : Progress) : Scan Progress := do
  blanks p.flags
  if ← Scan.takesAny ["?=", "?!", "?<=", "?<!"] then Scan.fail .lookAround
  else if ← Scan.takesAny ["?P<", "?<"] then
    let name ← groupName p.names
    return { p with names := name :: p.names }.open_ p.flags
  else if ← Scan.takes "?" then
    let letters ← Scan.takeWhile fun c => c != ':' && c != ')'
    let flags ← Scan.ofExcept (setFlags letters p.flags)
    if (← Scan.next .unclosedGroup) = ':' then return p.open_ flags
    else if letters.isEmpty then Scan.fail .nothingToRepeat
    else return { p with flags }.push ⟨.empty, 0, false⟩
  else return p.open_ p.flags

/-! ### Repetitions -/

/-- A repetition of the last item. -/
def repeatLast (p : Progress) (least : Nat) (most : Option Nat) :
    Except SyntaxError Progress :=
  match p.group.items with
  | item :: items =>
    if item.isRepeatable then
      let repeated : Item := ⟨.iterate least most item.regex, item.depth + 1, true⟩
      .ok { p with group := { p.group with items := repeated :: items } }
    else .error .nothingToRepeat
  | [] => .error .nothingToRepeat

/-- A number of 32 bits, with blanks around it. -/
def decimal (flags : Flags) : Scan Nat := do
  let _ ← Scan.takeWhile isBlank
  let digits ← takeSpaced flags Char.isDigit (← get).length
  let _ ← Scan.takeWhile isBlank
  blanks flags
  let n := digits.foldl (fun n c => 10 * n + (c.toNat - 48)) 0
  if digits.isEmpty || 0x100000000 ≤ n then Scan.fail .badRepetition else return n

/-- The limits of a repetition, behind the opening brace. -/
def limits (flags : Flags) : Scan (Nat × Option Nat) := do
  blanks flags
  let least ← decimal flags
  let most ←
    if ← Scan.takes "," then
      blanks flags
      if (← Scan.peek) == some '\x7d' then pure none
      else pure (some (← decimal flags))
    else pure (some least)
  if (← Scan.next .badRepetition) != '\x7d' then Scan.fail .badRepetition
  blanks flags
  if most.any (· < least) then Scan.fail .badRepetition
  return (least, most)

/-- Pass over the sign that a repetition prefers few rounds. -/
def laziness : Scan Unit := do
  let _ ← Scan.takes "?"

/-! ### Items -/

/-- One character, under the flags. -/
def literal (flags : Flags) (c : Char) : Regex :=
  .chars (flags.fold (.single c))

/-- The dot: all characters but those that end a line. It is no part of a character, so it
needs the flag `u`. -/
def dot (flags : Flags) : Except SyntaxError CharSet :=
  if !flags.unicode then .error .partOfCharacter
  else if flags.dotTakesAll then .ok .any
  else if flags.crlf then .ok (.compl (.union (.single '\n') (.single '\r')))
  else .ok (.compl (.single '\n'))

/-- The condition of `^`. -/
def startLook (flags : Flags) : Look :=
  if !flags.multiLine then .textStart
  else if flags.crlf then .crlfLineStart
  else .lineStart

/-- The condition of `$`. -/
def endLook (flags : Flags) : Look :=
  if !flags.multiLine then .textEnd
  else if flags.crlf then .crlfLineEnd
  else .lineEnd

/-- What an escape describes outside of classes. -/
def Escaped.regex (flags : Flags) : Escaped → Regex
  | .literal c => Regex.literal flags c
  | .chars s => .chars s
  | .look l => .look l

/-- The progress behind the next item, whose first character is `c`. -/
def item (p : Progress) (c : Char) : Scan Progress := do
  let counted (least : Nat) (most : Option Nat) : Scan Progress := do
    laziness
    Scan.ofExcept (repeatLast p least most)
  match c with
  | '(' => group p
  | ')' => Scan.ofExcept p.close
  | '|' => return { p with group := p.group.split }
  | '[' =>
    let size := (← get).length
    let class_ ← bracket p.flags (size + 1)
    return p.push ⟨.chars class_.set, class_.depth, true⟩
  | '?' => counted 0 (some 1)
  | '*' => counted 0 none
  | '+' => counted 1 none
  | '\x7b' =>
    let (least, most) ← limits p.flags
    counted least most
  | '\\' => return p.push ⟨(← escape p.flags).regex p.flags, 0, true⟩
  | '.' => return p.push ⟨.chars (← Scan.ofExcept (dot p.flags)), 0, true⟩
  | '^' => return p.push ⟨.look (startLook p.flags), 0, true⟩
  | '$' => return p.push ⟨.look (endLook p.flags), 0, true⟩
  | c => return p.push ⟨literal p.flags c, 0, true⟩

/-- The progress at the end of the text. Each item takes a character, so as many steps as
there are characters, and one more, read all of them. -/
def items : (steps : Nat) → Progress → Scan Progress
  | 0, p => return p
  | steps + 1, p => do
    blanks p.flags
    match ← Scan.peek with
    | none => return p
    | some c =>
      Scan.advance
      items steps (← item p c)

/-! ### Expressions -/

/-- How deeply an expression may be nested. -/
def depthLimit : Nat := 250

/-- The expression that a text spells. -/
def parse (source : String) : Except SyntaxError Regex :=
  let cs := source.toList
  match items (cs.length + 1) {} cs with
  | .error e => .error e
  | .ok (p, _) =>
    let content := p.group.content
    if !p.around.isEmpty then .error .unclosedGroup
    else if depthLimit < content.depth then .error .tooDeep
    else if sizeLimit < content.regex.size then .error .tooLarge
    else .ok content.regex

end Classpath.Regex
