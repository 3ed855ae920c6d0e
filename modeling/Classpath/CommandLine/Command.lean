import Classpath.Config

/-!
# Commands

What can be asked for on the command line: the resources a class path holds, its roots, or
the answer to one of the queries about its classes.

## Main definitions

* `QueryKind`, `ScanOptions`, `Command`.
* `Request`: a command, or a question about the program itself.
-/

namespace Classpath.CommandLine

/-- The queries about classes. -/
inductive QueryKind where
  | methodsAnnotated
  | parameterAnnotated
  | fieldsAnnotated
  | typesAnnotated
  | directSubtypes
  | subtypes
  | directImplementers
  | implementers
  deriving DecidableEq, Repr

namespace QueryKind

/-- The kinds in the order in which they are listed. -/
def all : List QueryKind :=
  [methodsAnnotated, parameterAnnotated, fieldsAnnotated, typesAnnotated, directSubtypes,
    subtypes, directImplementers, implementers]

/-- The word for a kind. -/
def word : QueryKind → String
  | methodsAnnotated => "methods-annotated"
  | parameterAnnotated => "parameter-annotated"
  | fieldsAnnotated => "fields-annotated"
  | typesAnnotated => "types-annotated"
  | directSubtypes => "direct-subtypes"
  | subtypes => "subtypes"
  | directImplementers => "direct-implementers"
  | implementers => "implementers"

/-- The kind of a word. -/
def ofWord? (word : String) : Option QueryKind := all.find? fun kind => kind.word = word

/-- Every kind is found by its word. -/
theorem ofWord?_word (kind : QueryKind) : ofWord? kind.word = some kind := by
  cases kind <;> decide

end QueryKind

/-- What every command can be told. -/
structure ScanOptions where
  /-- The entries of the loader; the current directory, unless told. -/
  classpath : Option String := none
  /-- The entries of its parent, if it has one. -/
  parentClasspath : Option String := none
  /-- The prefixes and patterns among the arguments. -/
  config : Config := {}
  /-- The file with further prefixes and patterns. -/
  configFile : Option String := none
  /-- Whether results are written as JSON. -/
  json : Bool := false
  /-- Whether what goes on is told as well. -/
  verbose : Bool := false
  deriving DecidableEq, Repr

/-- What can be done with a class path. -/
inductive Command where
  | resources (options : ScanOptions)
  | roots (options : ScanOptions)
  | query (kind : QueryKind) (name : String) (options : ScanOptions)
  deriving DecidableEq, Repr

/-- The options of a command. -/
def Command.options : Command → ScanOptions
  | resources options => options
  | roots options => options
  | query _ _ options => options

/-- What the program is called for. -/
inductive Request where
  | run (command : Command)
  | help
  | version
  deriving DecidableEq, Repr

end Classpath.CommandLine
