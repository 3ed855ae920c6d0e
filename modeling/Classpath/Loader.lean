import Classpath.Text.Quoted
import Classpath.Url

/-!
# Loaders

A loader is a list of places to look for resources and classes, and delegates to its parent
first. Loaders are told apart by their scopes alone: two loaders with the same entries are
still different, and so are two classes of one name that they define.

A loader is always seen with the loaders above it, as a chain from itself to its most distant
ancestor.

## Main definitions

* `Scope`, `Loader`, `Chain`.
* `Loader.ofPaths`: a loader for paths as they are typed.
-/

namespace Classpath

/-- The identity of a loader: its number in the order in which loaders are made. -/
structure Scope where
  number : Nat
  deriving DecidableEq, Repr

/-- How a scope is written in messages. -/
def Scope.text (s : Scope) : String := "scope#" ++ toString s.number

/-- How a scope is written in diagnostics. -/
def Scope.debug (s : Scope) : String := "ScopeId(" ++ toString s.number ++ ")"

/-- A loader without the loaders above it. -/
structure Loader where
  scope : Scope
  name : String
  entries : List Url
  deriving DecidableEq, Repr

/-- A loader with the loaders it delegates to, the nearest first. -/
structure Chain where
  loader : Loader
  parents : List Loader := []
  deriving DecidableEq, Repr

/-- Why a loader could not be made: one of its paths is empty. A path that was made absolute
always has a URL, since absolute paths begin with a slash here. -/
inductive LoaderError where
  | emptyPath
  deriving DecidableEq, Repr

/-- The wording of the error. -/
def LoaderError.message : LoaderError → String
  | emptyPath => "cannot resolve classpath entry : cannot make an empty path absolute"

namespace Loader

/-- The paths among the entries. -/
def localPaths (l : Loader) : List String := l.entries.filterMap Url.localPath?

/-- The entry for a path as it is typed, which begins at the current directory. -/
def entryOfPath (current path : String) : Except LoaderError Url :=
  match Path.absolute current path with
  | some path => .ok (Url.ofPath path)
  | none => .error .emptyPath

/-- The loader for paths as they are typed. -/
def ofPaths (current : String) (scope : Scope) (name : String) (paths : List String) :
    Except LoaderError Loader :=
  (paths.mapM (entryOfPath current)).map fun entries => ⟨scope, name, entries⟩

/-- How a loader is written in messages. -/
def text (l : Loader) : String := l.name ++ " (" ++ l.scope.text ++ ")"

end Loader

namespace Chain

/-- The scope of the loader itself. -/
def scope (c : Chain) : Scope := c.loader.scope

/-- The loader and all above it. -/
def loaders (c : Chain) : List Loader := c.loader :: c.parents

/-- The chain of the parent. -/
def parent? (c : Chain) : Option Chain :=
  match c.parents with
  | [] => none
  | p :: ps => some ⟨p, ps⟩

/-- A loader and each one above it with their own chains. -/
def chainsFrom : Loader → List Loader → List Chain
  | l, [] => [⟨l, []⟩]
  | l, p :: ps => ⟨l, p :: ps⟩ :: chainsFrom p ps

/-- The chains of the loader and of each one above it, the loader itself first. -/
def chains (c : Chain) : List Chain := chainsFrom c.loader c.parents

/-- How a loader is written in diagnostics. -/
def debug (c : Chain) : String :=
  let parent := match c.parents with
    | [] => "None"
    | p :: _ => "Some(" ++ p.scope.debug ++ ")"
  "ClassLoader \x7b id: " ++ c.loader.scope.debug ++ ", name: " ++
    Text.Quoted.text c.loader.name ++ ", entries: " ++ toString c.loader.entries.length ++
    ", parent: " ++ parent ++ " \x7d"

end Chain

end Classpath
