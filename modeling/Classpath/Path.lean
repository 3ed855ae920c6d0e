import Classpath.Text.Basic

/-!
# Paths

Paths are texts, kept as they were put together: a message shows a path with every slash it
was given. What a path means is the list of its components, in which repeated slashes and
single dots do not show and double dots stay.

## Main definitions

* `components`, `join`, `absolute`.
* `relativeTo?`: what remains of a path below another one.
* `extension?`.
-/

namespace Classpath.Path

/-- Whether a path begins at the root. -/
def isAbsolute (path : String) : Bool := path.toList.head? == some '/'

/-- The component that stands for the root. No name contains it. -/
def root : String := "/"

/-- What a path is made of: the root, if it begins there, and the names on the way. A single
dot counts only at the beginning of a relative path. -/
def components (path : String) : List String :=
  let segments := Text.split '/' path
  let names := segments.filter fun s => s != "" && s != "."
  if isAbsolute path then root :: names
  else if segments.head? == some "." then "." :: names
  else names

/-- The names of an absolute path, behind the root. -/
def names (path : String) : List String :=
  (Text.split '/' path).filter fun s => s != "" && s != "."

/-- A path below another one; an absolute path stays what it is. Joining the empty path
leaves a slash at the end. -/
def join (base path : String) : String :=
  if isAbsolute path || base == "" then path
  else if Text.endsWith base "/" then base ++ path
  else base ++ "/" ++ path

/-- The path of some names below the root. -/
def ofNames (names : List String) : String := "/" ++ Text.join "/" names

/-- A path as seen from the root, when it is meant to begin at `current` otherwise. Double
dots stay, since what they mean depends on links. The empty path leads nowhere. -/
def absolute (current path : String) : Option String :=
  if path = "" then none
  else if isAbsolute path then some (ofNames (names path))
  else some (ofNames (names current ++ names path))

/-- The components of a path that remain below another one. -/
def relativeTo? (base path : String) : Option (List String) :=
  let above := components base
  let all := components path
  if above.isPrefixOf all then some (all.drop above.length) else none

/-- The name of what a path leads to; a path that ends with double dots names nothing. -/
def fileName? (path : String) : Option String :=
  match (components path).getLast? with
  | some name => if name = root || name = ".." || name = "." then none else some name
  | none => none

/-- What follows the last dot of the name of what a path leads to. A dot at the front of the
name begins no extension. -/
def extension? (path : String) : Option String := do
  let name ← fileName? path
  let reversed := name.toList.reverse
  match reversed.dropWhile (· != '.') with
  | _ :: _ :: _ => some (String.ofList (reversed.takeWhile (· != '.')).reverse)
  | _ => none

end Classpath.Path
