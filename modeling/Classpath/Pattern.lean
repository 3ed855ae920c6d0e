import Classpath.Regex.Expression
import Classpath.Regex.Matcher
import Classpath.Text.Quoted

/-!
# Patterns

A pattern is a regular expression that is meant for whole names: its source is put between
`^(?:` and `)$`, and a name matches if that expression occurs in it. The source is pasted,
not composed: what it closes and opens of the group around it stays closed and open.

Patterns are equal when their sources are.

## Main definitions

* `Pattern.compile`, `Pattern.isMatch`.
* `Pattern.classFiles`: the names of class files.
-/

namespace Classpath

/-- A compiled pattern, with the source it was compiled from. -/
structure Pattern where
  source : String
  regex : Regex

namespace Pattern

/-- The source between the anchors. -/
def anchored (source : String) : String := "^(?:" ++ source ++ ")$"

/-- The pattern of a source, if the anchored source is a regular expression. -/
def compile (source : String) : Except Regex.SyntaxError Pattern :=
  (Regex.parse (anchored source)).map fun regex => ⟨source, regex⟩

/-- Whether a name matches. -/
def isMatch (p : Pattern) (name : String) : Bool := p.regex.occurs name

/-- What is shown of a pattern is its source. -/
def debug (p : Pattern) : String := "Pattern(" ++ Text.Quoted.text p.source ++ ")"

/-- The source of the pattern for names of class files. -/
def classFileSource : String := ".*\\.class"

/-- The pattern for names of class files, composed of what its source spells: any characters
but line ends, and the ending. -/
def classFiles : Pattern where
  source := classFileSource
  regex :=
    .seq (.look .textStart) (.seq
      (.seqs (.iterate 0 none (.chars (.compl (.single '\n'))) ::
        ".class".toList.map fun c => .chars (.single c)))
      (.look .textEnd))

/-- Some patterns and one more, unless one with its source is there already. -/
def fold (patterns : List Pattern) (extra : Pattern) : List Pattern :=
  if patterns.any (·.source == extra.source) then patterns else patterns ++ [extra]

/-- Whether all patterns match; without patterns every name does. -/
def matchAll (patterns : List Pattern) (name : String) : Bool :=
  patterns.all (·.isMatch name)

end Pattern

end Classpath
