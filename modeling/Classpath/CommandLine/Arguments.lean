import Classpath.CommandLine.Command
import Classpath.Text.Basic

/-!
# Arguments

How a list of arguments spells a request: a verb comes first, options and operands follow in
any order. An option is spelled long (`--classpath X`, `--classpath=X`) or short (`-c X`,
`-cX`, `-c=X`), and short ones may share a dash if only the last of them takes a value. A
value in an argument of its own may not look like an option, and behind a double dash
nothing is an option any more.

Arguments are read from the left and the first that settles the matter does: a question for
help is answered even if nonsense follows it, but not if nonsense comes before.

## Main definitions

* `Draft.read`: the effect of one argument.
* `Request.ofArguments?`.
-/

namespace Classpath.CommandLine

/-- The options without a value. -/
inductive Flag where
  | help
  | json
  | verbose
  deriving DecidableEq, Repr

/-- The options with a value. -/
inductive Setting where
  | classpath
  | parentClasspath
  | resourcePrefix
  | pattern
  | configFile
  deriving DecidableEq, Repr

/-- What ends the reading of arguments before the last one. -/
inductive Stop where
  /-- The arguments spell no request. -/
  | misuse
  | help
  deriving DecidableEq, Repr

/-- The words a command begins with. -/
inductive Verb where
  | resources
  | roots
  | query
  deriving DecidableEq, Repr

/-- What was read so far of the arguments behind the verb. -/
structure Draft where
  options : ScanOptions := {}
  operands : List String := []
  /-- The setting whose value the next argument is. -/
  awaited : Option Setting := none
  /-- Whether nothing is an option any more. -/
  isClosed : Bool := false
  deriving DecidableEq, Repr

/-! ### Names -/

/-- The option of a long name. -/
def longOption? : String → Option (Flag ⊕ Setting)
  | "help" => some (.inl .help)
  | "json" => some (.inl .json)
  | "verbose" => some (.inl .verbose)
  | "classpath" => some (.inr .classpath)
  | "parent-classpath" => some (.inr .parentClasspath)
  | "prefix" => some (.inr .resourcePrefix)
  | "package" => some (.inr .resourcePrefix)
  | "pattern" => some (.inr .pattern)
  | "config" => some (.inr .configFile)
  | _ => none

/-- The option of a short name. -/
def shortOption? : Char → Option (Flag ⊕ Setting)
  | 'h' => some (.inl .help)
  | 'v' => some (.inl .verbose)
  | 'c' => some (.inr .classpath)
  | _ => none

/-- Whether an argument is spelled like an option. A single dash is not. -/
def isOptionLike (argument : String) : Bool :=
  Text.startsWith argument "-" && argument != "-"

namespace Verb

/-- The verb of a word. -/
def ofWord? : String → Option Verb
  | "resources" => some resources
  | "roots" => some roots
  | "query" => some query
  | _ => none

/-- Whether a verb takes these operands, or would with more of them. -/
def admits : Verb → List String → Bool
  | _, [] => true
  | query, [word] => (QueryKind.ofWord? word).isSome
  | query, [word, _] => (QueryKind.ofWord? word).isSome
  | _, _ => false

/-- The command of a verb with operands and options, if no operand is missing. -/
def command? : Verb → List String → ScanOptions → Option Command
  | resources, [], options => some (.resources options)
  | roots, [], options => some (.roots options)
  | query, [word, name], options =>
    (QueryKind.ofWord? word).map fun kind => .query kind name options
  | _, _, _ => none

end Verb

/-! ### Reading -/

/-- The value of a setting that can be given once. -/
def once (given : Option String) (value : String) : Except Stop (Option String) :=
  if given.isSome then .error .misuse else .ok (some value)

/-- The options with a flag raised, which can be done once. -/
def ScanOptions.raise (o : ScanOptions) : Flag → Except Stop ScanOptions
  | .help => .error .help
  | .json => if o.json then .error .misuse else .ok { o with json := true }
  | .verbose => if o.verbose then .error .misuse else .ok { o with verbose := true }

/-- The options with the value of a setting. Only prefixes and patterns add up; a file has to
have a name. -/
def ScanOptions.set (o : ScanOptions) (value : String) : Setting → Except Stop ScanOptions
  | .classpath => do return { o with classpath := ← once o.classpath value }
  | .parentClasspath => do return { o with parentClasspath := ← once o.parentClasspath value }
  | .resourcePrefix => .ok { o with config := o.config.addPrefix value }
  | .pattern => .ok { o with config := o.config.addPattern value }
  | .configFile =>
    if value = "" then .error .misuse
    else do return { o with configFile := ← once o.configFile value }

namespace Draft

/-- The draft with a flag raised. -/
def raise (d : Draft) (flag : Flag) : Except Stop Draft :=
  (d.options.raise flag).map fun options => { d with options }

/-- The draft with the value of a setting. -/
def set (d : Draft) (setting : Setting) (value : String) : Except Stop Draft :=
  (d.options.set value setting).map fun options => { d with options, awaited := none }

/-- The draft with one more operand. -/
def add (d : Draft) (verb : Verb) (operand : String) : Except Stop Draft :=
  let operands := d.operands ++ [operand]
  if verb.admits operands then .ok { d with operands } else .error .misuse

/-- The effect of a long option behind its dashes: a name, or a name and a value. -/
def readLong (d : Draft) (cs : List Char) : Except Stop Draft :=
  match longOption? (String.ofList (cs.takeWhile (· != '='))), cs.dropWhile (· != '=') with
  | none, _ => .error .misuse
  | some (.inl flag), [] => d.raise flag
  | some (.inl _), _ :: _ => .error .misuse
  | some (.inr setting), [] => .ok { d with awaited := some setting }
  | some (.inr setting), _ :: value => d.set setting (String.ofList value)

/-- The effect of short options behind their dash. -/
def readShort (d : Draft) : List Char → Except Stop Draft
  | [] => .ok d
  | c :: cs =>
    match shortOption? c with
    | none => .error .misuse
    | some (.inl flag) => do readShort (← d.raise flag) cs
    | some (.inr setting) =>
      match cs with
      | [] => .ok { d with awaited := some setting }
      | '=' :: value => d.set setting (String.ofList value)
      | value => d.set setting (String.ofList value)

/-- The effect of an argument behind the verb. -/
def read (verb : Verb) (d : Draft) (argument : String) : Except Stop Draft :=
  match d.awaited with
  | some setting => if isOptionLike argument then .error .misuse else d.set setting argument
  | none =>
    if d.isClosed || !isOptionLike argument then d.add verb argument
    else
      match argument.toList with
      | ['-', '-'] => .ok { d with isClosed := true }
      | '-' :: '-' :: cs => d.readLong cs
      | cs => d.readShort (cs.drop 1)

end Draft

/-! ### Requests -/

/-- The request of a verb and the arguments behind it. -/
def Verb.request? (verb : Verb) (arguments : List String) : Option Request :=
  match arguments.foldlM (Draft.read verb) {} with
  | .error .misuse => none
  | .error .help => some .help
  | .ok draft =>
    if draft.awaited.isSome then none
    else (verb.command? draft.operands draft.options).map .run

/-- Whether there is help on these words. -/
def hasHelp : List String → Bool
  | [] => true
  | [word] => (Verb.ofWord? word).isSome || word == "help"
  | _ => false

/-- The request that some arguments spell. -/
def Request.ofArguments? : List String → Option Request
  | [] => none
  | first :: rest =>
    match Verb.ofWord? first with
    | some verb => verb.request? rest
    | none =>
      if first = "help" then if hasHelp rest then some .help else none
      else if first = "--help" then some .help
      else if first = "--version" then some .version
      else
        match first.toList with
        | '-' :: 'h' :: _ => some .help
        | '-' :: 'V' :: _ => some .version
        | _ => none

end Classpath.CommandLine
