import Classpath.Config
import Classpath.Root.Discovery

/-!
# The index of resources

All resources that a loader can reach, by the roots that hold them. The roots are found when
the index is made; asking for names afterwards reads nothing, and of a name that several
roots hold the first one's content is read.

## Main definitions

* `ResourceIndex`, `ResourceIndex.build`, `ofResources`, `ofClasses`.
* `ResourceIndex.find`, `rootOf?`, `read`.
-/

namespace Classpath

/-- The resources that a loader can reach. -/
structure ResourceIndex where
  chain : Chain
  filter : Filter
  /-- The roots in the order of delegation, each with at least one resource. -/
  roots : List Root

namespace ResourceIndex

/-- The index of the resources that a filter admits. -/
def build (d : Disk) (chain : Chain) (f : Filter) : Except ScanError ResourceIndex := do
  return ⟨chain, f, ← Root.discover d chain f⟩

/-- The index of the resources that a configuration asks for. -/
def ofResources (d : Disk) (chain : Chain) (c : Config) : Except ScanError ResourceIndex := do
  build d chain (← c.compileResources)

/-- The index of the class files that a configuration asks for. -/
def ofClasses (d : Disk) (chain : Chain) (c : Config) : Except ScanError ResourceIndex := do
  build d chain (← c.compileClasses)

/-- The resources of all roots that satisfy a condition, ascending and each once. -/
def find (i : ResourceIndex) (wanted : String → Bool) : List String :=
  Text.sortedDistinct ((i.roots.flatMap (·.resources)).filter wanted)

/-- The resources of all roots. -/
def all (i : ResourceIndex) : List String := i.find fun _ => true

/-- The resources whose names match a pattern. -/
def findPattern (i : ResourceIndex) (p : Pattern) : List String := i.find p.isMatch

/-- The first root that holds a resource. -/
def rootOf? (i : ResourceIndex) (name : String) : Option Root := i.roots.find? (·.has name)

/-- What reading a resource to its end yields, from the first root that holds it. -/
def read (d : Disk) (i : ResourceIndex) (name : String) :
    Except ScanError (Except FileError Bytes) :=
  match i.rootOf? name with
  | none => .error (.unknownResource name)
  | some r => r.read d name

/-- How an index is written in diagnostics. -/
def debug (i : ResourceIndex) : String :=
  let listOf (items : List String) : String := "[" ++ Text.join ", " items ++ "]"
  "ResourceScanner \x7b loader: " ++ i.chain.debug ++ ", filter: ScanFilter \x7b prefixes: " ++
    listOf (i.filter.prefixes.map Text.Quoted.text) ++ ", patterns: " ++
    listOf (i.filter.patterns.map Pattern.debug) ++ " \x7d, roots: " ++
    listOf (i.roots.map Root.debug) ++ " \x7d"

end ResourceIndex

end Classpath
