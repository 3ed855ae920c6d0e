import Classpath.ClassIndex.Basic
import Classpath.Reflection.Members

/-!
# Queries

Questions about the classes of an index. Each is first put to the declarations, which costs
nothing; only what matches there is resolved, through the loader of the root it is from, and
asked again. A match that cannot be resolved ends the query.

## Main definitions

* `Query`, `ClassIndex.collect`.
* The eight queries.
-/

namespace Classpath

/-- A computation that may define classes, in the course of a scan. -/
abbrev Query (α : Type) := ExceptT ScanError (StateM Linkage) α

namespace Query

/-- A failure of resolution or reflection as one of the scan. -/
def lift {α : Type} (asScan : LinkError → ScanError) (x : Linked α) : Query α :=
  ExceptT.mk (do
    match ← x.run with
    | .ok a => return .ok a
    | .error e => return .error (asScan e))

/-- The type of a name that matched. -/
def resolve (d : Disk) (name : String) (chain : Chain) : Query TypeRef :=
  lift (fun e => .resolution name e.message) (Classpath.resolve d name chain)

/-- A look into a type that was resolved. -/
def inspect {α : Type} (x : Linked α) : Query α :=
  lift (fun e => .running e.message) x

end Query

/-- The elements of two lists, each once. -/
def union {α : Type} [DecidableEq α] (found more : List α) : List α :=
  more.foldl (fun found a => if found.contains a then found else found ++ [a]) found

namespace ClassIndex

/-! ### Matching -/

/-- What a matcher finds in one declaration, whose names the given loader resolves. -/
abbrev Matcher (α : Type) := Chain → ClassDecl → Query (List α)

/-- What a matcher finds in the resources of one root. -/
def collectRoot {α : Type} [DecidableEq α] (i : ClassIndex) (chain : Chain) (m : Matcher α) :
    List String → (found : List α) → Query (List α)
  | [], found => return found
  | resource :: rest, found => do
    match i.decl? resource with
    | none => throw (.running ("no cached node for " ++ resource))
    | some decl => collectRoot i chain m rest (union found (← m chain decl))

/-- What a matcher finds in the resources of some roots. -/
def collectRoots {α : Type} [DecidableEq α] (i : ClassIndex) (m : Matcher α) :
    List Root → (found : List α) → Query (List α)
  | [], found => return found
  | r :: rs, found => do
    collectRoots i m rs (← collectRoot i r.chain m r.resources found)

/-- What a matcher finds in all resources of all roots, each thing once. -/
def collect {α : Type} [DecidableEq α] (i : ClassIndex) (m : Matcher α) : Query (List α) :=
  collectRoots i m i.resources.roots []

/-- The members of a class of which a condition holds, if the declaration of the class says
that there may be some. -/
def membersWhere {α : Type} (d : Disk) (mayHave : ClassDecl → Bool)
    (members : TypeRef → Linked (List α)) (holds : α → Linked Bool) : Matcher α :=
  fun chain decl => do
    if !mayHave decl then return []
    else
      let type ← Query.resolve d decl.name chain
      let all ← Query.inspect (members type)
      all.filterM fun member => Query.inspect (holds member)

/-- The type of a class whose declaration satisfies a condition. -/
def typeWhere (d : Disk) (holds : ClassDecl → Bool) : Matcher TypeRef := fun chain decl => do
  if holds decl then return [← Query.resolve d decl.name chain] else return []

/-! ### Members -/

/-- The public methods that carry an annotation. -/
def annotatedMethods (d : Disk) (i : ClassIndex) (annotationType : String) :
    Query (List MethodRef) :=
  i.collect (membersWhere d (·.hasAnnotatedMethod annotationType) (methods d)
    (isMethodAnnotated · annotationType))

/-- The public methods with a parameter that carries an annotation. -/
def methodsWithAnnotatedParameter (d : Disk) (i : ClassIndex) (annotationType : String) :
    Query (List MethodRef) :=
  i.collect (membersWhere d (·.hasAnnotatedParameter annotationType) (methods d) fun m => do
    return (← parameterAnnotations m).any (·.contains annotationType))

/-- The public fields that carry an annotation. -/
def annotatedFields (d : Disk) (i : ClassIndex) (annotationType : String) :
    Query (List FieldRef) :=
  i.collect (membersWhere d (·.hasAnnotatedField annotationType) (fields d)
    (isFieldAnnotated · annotationType))

/-! ### Types -/

/-- The types that carry an annotation. -/
def annotatedTypes (d : Disk) (i : ClassIndex) (annotationType : String) :
    Query (List TypeRef) :=
  i.collect (typeWhere d (·.isAnnotated annotationType))

/-- The types that name another as their superclass. -/
def directSubtypes (d : Disk) (i : ClassIndex) (name : String) : Query (List TypeRef) :=
  i.collect (typeWhere d (·.directlyExtends name))

/-- The types that name an interface in their own list. -/
def directImplementers (d : Disk) (i : ClassIndex) (name : String) : Query (List TypeRef) :=
  i.collect (typeWhere d (·.directlyImplements name))

/-- An order in which the types of a set are gone through. What a query finds does not depend
on it. -/
abbrev Order := List TypeRef → List TypeRef

/-- The direct subtypes of some types that are not known yet. -/
def nextSubtypes (d : Disk) (i : ClassIndex) (known : List TypeRef) :
    List TypeRef → (next : List TypeRef) → Query (List TypeRef)
  | [], next => return next
  | type :: rest, next => do
    let direct ← i.directSubtypes d type.name
    nextSubtypes d i known rest (union next (direct.filter (!known.contains ·)))

/-- The types found so far and all subtypes of those on the frontier. Each round but the last
finds a type that was not found before. -/
def closeSubtypes (d : Disk) (i : ClassIndex) (order : Order) :
    (rounds : Nat) → (found frontier : List TypeRef) → Query (List TypeRef)
  | 0, found, _ => return found
  | rounds + 1, found, frontier => do
    if frontier.isEmpty then return found
    else
      let next ← i.nextSubtypes d (found ++ frontier) (order frontier) []
      closeSubtypes d i order rounds (found ++ frontier) next

/-- A bound on how many types an index can lead to: each declaration in each scope. -/
def typeBound (i : ClassIndex) : Nat :=
  i.decls.length * i.resources.roots.foldr (fun r n => r.chain.loaders.length + n) 0 + 1

/-- The types below another one. -/
def subtypes (d : Disk) (i : ClassIndex) (order : Order) (name : String) :
    Query (List TypeRef) := do
  closeSubtypes d i order (i.typeBound + 1) [] (← i.directSubtypes d name)

/-- The types found so far and the subtypes of some types. -/
def addSubtypes (d : Disk) (i : ClassIndex) (order : Order) :
    List TypeRef → (found : List TypeRef) → Query (List TypeRef)
  | [], found => return found
  | type :: rest, found => do
    addSubtypes d i order rest (union found (← i.subtypes d order type.name))

/-- The types that name an interface in their own list, and all subtypes of these. -/
def implementers (d : Disk) (i : ClassIndex) (order : Order) (name : String) :
    Query (List TypeRef) := do
  let direct ← i.directImplementers d name
  addSubtypes d i order (order direct) direct

end ClassIndex

end Classpath
