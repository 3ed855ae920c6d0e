import Classpath.Regex.CharSet

/-!
# Regular expressions

An expression describes spans of a text: from one position to another, positions being
counted in characters. What `Spans` says is the whole meaning of an expression; which of
several spans a search would prefer is no part of it.

## Main definitions

* `Look`: conditions on a position.
* `Regex`, and `Regex.Spans`, the spans of a text that an expression describes.
* `Regex.Occurs`: whether it describes any.
-/

namespace Classpath

/-! ### Conditions on a position -/

/-- A condition on a position between or beside words. -/
inductive WordLook where
  /-- A word begins or ends here. -/
  | boundary
  /-- No word begins or ends here. -/
  | inside
  | start
  | finish
  /-- No word ends or goes on before this position. -/
  | startHalf
  /-- No word begins or goes on behind this position. -/
  | finishHalf
  deriving DecidableEq, Repr

/-- A condition on a position of a text. -/
inductive Look where
  | textStart
  | textEnd
  | lineStart
  | lineEnd
  /-- The start of a line where a carriage return may stand in or before the line feed. -/
  | crlfLineStart
  | crlfLineEnd
  /-- A condition on words, whose parts are the given characters. -/
  | word (kind : WordLook) (parts : CharSet)
  deriving DecidableEq

/-- Whether a condition on words holds between two characters, each part of a word or not. -/
def WordLook.holds : WordLook → (before after : Bool) → Bool
  | boundary, before, after => before != after
  | inside, before, after => before == after
  | start, before, after => !before && after
  | finish, before, after => before && !after
  | startHalf, before, _ => !before
  | finishHalf, _, after => !after

/-- Whether a condition holds between two characters; at the ends of the text one of them is
missing. -/
def Look.holds : Look → (before after : Option Char) → Bool
  | textStart, before, _ => before.isNone
  | textEnd, _, after => after.isNone
  | lineStart, before, _ => before.isNone || before == some '\n'
  | lineEnd, _, after => after.isNone || after == some '\n'
  | crlfLineStart, before, after =>
    before.isNone || before == some '\n' || (before == some '\r' && after != some '\n')
  | crlfLineEnd, before, after =>
    after.isNone || after == some '\r' || (after == some '\n' && before != some '\r')
  | word kind parts, before, after =>
    let isPart (c : Option Char) : Bool := c.any fun c => parts.contains c.toNat
    kind.holds (isPart before) (isPart after)

/-! ### Expressions -/

/-- A regular expression. -/
inductive Regex where
  /-- Nothing, anywhere. -/
  | empty
  /-- One character of a set. -/
  | chars (s : CharSet)
  /-- Nothing, where a condition holds. -/
  | look (l : Look)
  | seq (first second : Regex)
  | alt (left right : Regex)
  /-- An expression so many times in a row; there may be no upper limit. -/
  | iterate (least : Nat) (most : Option Nat) (r : Regex)
  deriving DecidableEq

namespace Regex

/-- The character that ends at a position. -/
def before (text : Array Char) (i : Nat) : Option Char :=
  if i = 0 then none else text[i - 1]?

/-- A relation between positions, `n` times in a row. -/
def Power (step : Nat → Nat → Prop) : Nat → Nat → Nat → Prop
  | 0, i, j => i = j
  | n + 1, i, k => ∃ j, step i j ∧ Power step n j k

/-- Whether an expression describes the part of a text from one position to another. -/
def Spans (text : Array Char) : Regex → Nat → Nat → Prop
  | empty, i, j => i = j
  | chars s, i, j => j = i + 1 ∧ ∃ c, text[i]? = some c ∧ s.contains c.toNat = true
  | look l, i, j => i = j ∧ l.holds (before text i) text[i]? = true
  | seq first second, i, k => ∃ j, Spans text first i j ∧ Spans text second j k
  | alt left right, i, j => Spans text left i j ∨ Spans text right i j
  | iterate least most r, i, j =>
    ∃ n, least ≤ n ∧ (∀ m, most = some m → n ≤ m) ∧ Power (Spans text r) n i j

/-- Whether an expression describes some part of a text. -/
def Occurs (r : Regex) (text : String) : Prop :=
  let text := text.toList.toArray
  ∃ i j, i ≤ text.size ∧ Spans text r i j

/-! ### Expressions made of others -/

/-- Some expressions, one behind the other. -/
def seqs : List Regex → Regex
  | [] => empty
  | [r] => r
  | r :: s :: rest => seq r (seqs (s :: rest))

/-- Any of some expressions. -/
def alts : List Regex → Regex
  | [] => empty
  | [r] => r
  | r :: s :: rest => alt r (alts (s :: rest))

end Regex

end Classpath
