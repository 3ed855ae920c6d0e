import Classpath.Error
import Classpath.Filter
import Classpath.Text.Json
import Classpath.Text.Utf8

/-!
# Configurations

What a caller asks a scan for: prefixes and patterns as they are typed. A configuration is
compiled to a filter in one of two ways, since prefixes are paths in a scan for resources and
packages in a scan for classes; the second adds the pattern of class files.

A prefix may not climb. All prefixes are checked before the first pattern is compiled.

## Main definitions

* `Config`, `Config.compileResources`, `Config.compileClasses`.
* `Config.ofJson?`: the configuration in a file.
-/

namespace Classpath

/-- What a caller asks a scan for. -/
structure Config where
  prefixes : List String := []
  patterns : List String := []
  deriving DecidableEq, Repr

namespace Config

/-- The configuration with a prefix more. -/
def addPrefix (c : Config) (path : String) : Config :=
  { c with prefixes := c.prefixes ++ [path] }

/-- The configuration with a pattern more. -/
def addPattern (c : Config) (source : String) : Config :=
  { c with patterns := c.patterns ++ [source] }

/-- Two configurations, one behind the other. -/
def merge (c d : Config) : Config :=
  ⟨c.prefixes ++ d.prefixes, c.patterns ++ d.patterns⟩

/-! ### Compilation -/

/-- A prefix in the given form, if it does not climb. -/
def checkedPrefix (form : String → String) (raw : String) : Except ScanError String :=
  if Filter.climbs (form raw) then .error (.climbing raw) else .ok (form raw)

/-- The pattern of a source. -/
def compilePattern (source : String) : Except ScanError Pattern :=
  (Pattern.compile source).mapError fun _ => .pattern source

/-- The filter for resources. -/
def compileResources (c : Config) : Except ScanError Filter := do
  let prefixes ← c.prefixes.mapM (checkedPrefix Filter.slashForm)
  let patterns ← c.patterns.mapM compilePattern
  return ⟨prefixes, patterns⟩

/-- The filter for class files. -/
def compileClasses (c : Config) : Except ScanError Filter := do
  let prefixes ← c.prefixes.mapM (checkedPrefix Filter.packageForm)
  let patterns ← c.patterns.mapM compilePattern
  return ⟨prefixes, Pattern.fold patterns .classFiles⟩

/-! ### Files -/

/-- The texts in an array of strings. -/
def texts? : Text.Json → Option (List String)
  | .array items => items.mapM fun
    | .string s => s
    | _ => none
  | _ => none

/-- The configuration with the next member of an object; `seen` says which of the two lists
it has already. -/
def readMembers (c : Config) (seenPrefixes seenPatterns : Bool) :
    List (Option String × Text.Json) → Option Config
  | [] => some c
  | (none, _) :: _ => none
  | (some key, value) :: rest => do
    if key = "prefixes" then
      if seenPrefixes then none
      readMembers { c with prefixes := ← texts? value } true seenPatterns rest
    else if key = "patterns" then
      if seenPatterns then none
      readMembers { c with patterns := ← texts? value } seenPrefixes true rest
    else readMembers c seenPrefixes seenPatterns rest

/-- The configuration that a value describes: an object with the two lists, either of which
may be missing, or an array of them in order. Other members mean nothing, but a list may not
be given twice. -/
def ofJson? : Text.Json → Option Config
  | .object members => readMembers {} false false members
  | .array [] => some {}
  | .array [prefixes] => do return { prefixes := ← texts? prefixes }
  | .array [prefixes, patterns] => do return ⟨← texts? prefixes, ← texts? patterns⟩
  | _ => none

/-- The configuration in the content of a file. -/
def ofFile (path : String) (content : Bytes) : Except ScanError Config :=
  match Text.Utf8.decode content with
  | .error _ => .error (.file path .notText)
  | .ok text =>
    match (Text.Json.parse text).bind ofJson? with
    | some c => .ok c
    | none => .error .json

end Config

end Classpath
