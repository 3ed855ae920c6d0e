/-!
# Text

The few operations on text that names, paths and prefixes are made with: cutting at a
separator, exchanging one character for another, looking at the beginning and the end,
and putting names in order without repetition.

Every operation is defined on the list of characters, so that a statement about it is an
induction on that list; the versions on `String` only unwrap and wrap.

## Main definitions

* `split`, `join`: cutting at a separator character, and putting a separator between.
* `replace`: one character for another, everywhere.
* `startsWith`, `endsWith`, `trimStart`, `trimEnd`.
* `sortedDistinct`: the names of a list in ascending order, each once.
-/

namespace Classpath.Text

/-! ### Cutting and joining -/

/-- The pieces of a text between the separators. There is one piece more than there are
separators, so the empty text has one empty piece. -/
def pieces (sep : Char) : List Char → List (List Char)
  | [] => [[]]
  | c :: cs =>
    if c = sep then [] :: pieces sep cs
    else
      match pieces sep cs with
      | [] => [[c]]
      | p :: ps => (c :: p) :: ps

/-- The pieces of a text between the separators. -/
def split (sep : Char) (s : String) : List String :=
  (pieces sep s.toList).map String.ofList

/-- The texts one after another, with the separator between neighbours. -/
def join (sep : String) : List String → String
  | [] => ""
  | [s] => s
  | s :: t :: rest => s ++ sep ++ join sep (t :: rest)

/-- A text is the concatenation of pieces, so cutting always leaves at least one. -/
theorem pieces_ne_nil (sep : Char) (cs : List Char) : pieces sep cs ≠ [] := by
  induction cs with
  | nil => simp [pieces]
  | cons c cs ih =>
    unfold pieces
    split
    · simp
    · split <;> simp

/-! ### Exchanging characters -/

/-- The text with `new` wherever it had `old`. -/
def replace (old new : Char) (s : String) : String :=
  String.ofList (s.toList.map fun c => if c = old then new else c)

/-! ### Beginnings and ends -/

/-- Whether a text begins with another. -/
def startsWith (s start : String) : Bool :=
  start.toList.isPrefixOf s.toList

/-- Whether a text ends with another. -/
def endsWith (s finish : String) : Bool :=
  finish.toList.isSuffixOf s.toList

/-- The text without the copies of a character it begins with. -/
def trimStart (c : Char) (s : String) : String :=
  String.ofList (s.toList.dropWhile (· == c))

/-- The text without the copies of a character it ends with. -/
def trimEnd (c : Char) (s : String) : String :=
  String.ofList (s.toList.reverse.dropWhile (· == c)).reverse

/-- Whether the characters stand somewhere in the others, one after another. -/
def occurs (part : List Char) : List Char → Bool
  | [] => part.isEmpty
  | c :: cs => part.isPrefixOf (c :: cs) || occurs part cs

/-- Whether some part of a text is the other text. -/
def contains (s part : String) : Bool :=
  occurs part.toList s.toList

/-! ### Order -/

/-- A list without the elements equal to their left neighbour. -/
def dropRepeats {α : Type} [DecidableEq α] : List α → List α
  | [] => []
  | [a] => [a]
  | a :: b :: rest => if a = b then dropRepeats (b :: rest) else a :: dropRepeats (b :: rest)

/-- The names of a list in ascending order of their characters, each once: the way a set
of names is written down. -/
def sortedDistinct (names : List String) : List String :=
  dropRepeats (names.mergeSort fun a b => decide (a ≤ b))

/-- Leaving out repetitions keeps every element once. -/
@[simp] theorem mem_dropRepeats {α : Type} [DecidableEq α] {x : α} (l : List α) :
    x ∈ dropRepeats l ↔ x ∈ l := by
  induction l with
  | nil => simp [dropRepeats]
  | cons a l ih =>
    cases l with
    | nil => simp [dropRepeats]
    | cons b rest =>
      unfold dropRepeats
      split
      · next h => subst h; rw [ih]; simp
      · rw [List.mem_cons, ih, List.mem_cons (a := x) (b := a)]

/-- Writing a set down changes no membership. -/
@[simp] theorem mem_sortedDistinct {x : String} (names : List String) :
    x ∈ sortedDistinct names ↔ x ∈ names := by
  simp [sortedDistinct]

end Classpath.Text
