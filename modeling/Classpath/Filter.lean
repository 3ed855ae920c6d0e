import Classpath.Pattern

/-!
# Filters

Which resources a scan admits: those whose name begins with one of some prefixes and matches
every pattern. Without prefixes any beginning will do.

Prefixes are slashed and have no leading slash; they may end inside a segment, so `com/fo`
admits what is below `com/foo`.

## Main definitions

* `Filter`, `Filter.accepts`.
* `slashForm`, `packageForm`: prefixes from paths and from packages.
* `climbs`: whether a prefix leads out of where it begins.
-/

namespace Classpath

/-- What a resource has to satisfy to be admitted. -/
structure Filter where
  prefixes : List String
  patterns : List Pattern

namespace Filter

/-- Whether a name begins with one of the prefixes; without prefixes it need not. -/
def matchAnyPrefix (prefixes : List String) (name : String) : Bool :=
  prefixes.isEmpty || prefixes.any fun start => Text.startsWith name start

/-- Whether a resource of this name is admitted. -/
def accepts (f : Filter) (name : String) : Bool :=
  matchAnyPrefix f.prefixes name && Pattern.matchAll f.patterns name

/-! ### The form of prefixes -/

/-- The prefix that a path stands for: slashes for backslashes, and none at the front. -/
def slashForm (path : String) : String :=
  Text.trimStart '/' (Text.replace '\\' '/' path)

/-- The prefix that a package stands for: slashes for dots as well. -/
def packageForm (package : String) : String :=
  slashForm (Text.replace '.' '/' package)

/-- Whether some segment leads upwards. -/
def climbs (path : String) : Bool :=
  (Text.split '/' path).contains ".."

end Filter

end Classpath
