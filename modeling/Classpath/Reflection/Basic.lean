import Classpath.ClassFile.Declared
import Classpath.Error
import Classpath.Loader

/-!
# Types and members

What a name means once it is resolved: a type is a name together with the scope of the loader
that defines it, and a method or field belongs to the type that declares it.

The classes that were defined so far are kept. A class is defined once for each scope, from
what its class file held at that time, and never changes.

## Main definitions

* `TypeRef`, `MethodRef`, `FieldRef`.
* `Linkage`: the classes defined so far.
* `LinkError`, `Linked`: computations that may define classes.
-/

namespace Classpath

/-- A resolved type. -/
structure TypeRef where
  name : String
  scope : Scope
  deriving DecidableEq, Repr

/-- A method of the type that declares it. -/
structure MethodRef where
  declaring : String
  name : String
  descriptor : String
  scope : Scope
  deriving DecidableEq, Repr

/-- A field of the type that declares it. -/
structure FieldRef where
  declaring : String
  name : String
  descriptor : String
  scope : Scope
  deriving DecidableEq, Repr

/-- How a type is written. -/
def TypeRef.text (t : TypeRef) : String := t.name

/-- How a method is written. -/
def MethodRef.text (m : MethodRef) : String := m.declaring ++ "#" ++ m.name ++ m.descriptor

/-- How a field is written. -/
def FieldRef.text (f : FieldRef) : String := f.declaring ++ "#" ++ f.name

/-! ### Order -/

/-- Whether some texts come no later than others, compared one by one, and by scope where all
are equal. -/
def precedes : List String → List String → (Scope × Scope) → Bool
  | a :: as, b :: bs, scopes =>
    if a = b then precedes as bs scopes else decide (a ≤ b)
  | _, _, (s, t) => s.number ≤ t.number

/-- The order of types: by name, then by scope. -/
def TypeRef.le (a b : TypeRef) : Bool := precedes [a.name] [b.name] (a.scope, b.scope)

/-- The order of methods: by declaring type, name and descriptor, then by scope. -/
def MethodRef.le (a b : MethodRef) : Bool :=
  precedes [a.declaring, a.name, a.descriptor] [b.declaring, b.name, b.descriptor]
    (a.scope, b.scope)

/-- The order of fields: by declaring type, name and descriptor, then by scope. -/
def FieldRef.le (a b : FieldRef) : Bool :=
  precedes [a.declaring, a.name, a.descriptor] [b.declaring, b.name, b.descriptor]
    (a.scope, b.scope)

/-! ### Defined classes -/

/-- A class that was defined, with the loader that defined it: names in it are resolved from
there. -/
structure DefinedClass where
  decl : ClassDecl
  chain : Chain
  deriving DecidableEq, Repr

/-- The classes defined so far, by scope and name. -/
structure Linkage where
  defined : List ((Scope × String) × DefinedClass) := []
  deriving Repr

/-- The class defined under a name in a scope. -/
def Linkage.find? (l : Linkage) (scope : Scope) (name : String) : Option DefinedClass :=
  l.defined.lookup (scope, name)

/-- The classes with one more, unless there is one under its scope and name. -/
def Linkage.define (l : Linkage) (scope : Scope) (name : String) (c : DefinedClass) : Linkage :=
  if (l.find? scope name).isSome then l else ⟨l.defined ++ [((scope, name), c)]⟩

/-! ### Failures -/

/-- Why a name could not be resolved, or a type or member not be looked into. -/
inductive LinkError where
  /-- No loader of the chain has the class. -/
  | classNotFound (name : String)
  /-- A class file could not be read. -/
  | file (cause : FileError)
  /-- An archive among the entries could not be opened. -/
  | openArchive (path : String) (cause : ArchiveError)
  /-- The entry of a class in an archive could not be opened. -/
  | openEntry (resource path : String) (cause : ArchiveError)
  /-- What was found is no class file. -/
  | declaration (cause : ClassFile.DeclarationError)
  /-- What was found declares another class. -/
  | otherClass (name declared : String)
  /-- A type that was not resolved here. -/
  | notDefined (name : String) (scope : Scope)
  /-- A method that its declaring type does not have. -/
  | notDeclared (method : MethodRef)
  deriving DecidableEq, Repr

/-- The wording of a failure. -/
def LinkError.message : LinkError → String
  | classNotFound name => "class not found: " ++ name
  | file cause => cause.message
  | openArchive path cause => "Failed to open " ++ path ++ ": " ++ cause.message
  | openEntry resource path cause =>
    "Failed to read " ++ resource ++ " from " ++ path ++ ": " ++ cause.message
  | declaration cause => cause.message
  | otherClass name declared => name ++ " resolved to a class file declaring " ++ declared
  | notDefined name scope =>
    name ++ " was not resolved by this runtime in " ++ scope.text
  | notDeclared method => method.text ++ " is not declared by " ++ method.declaring

/-- A computation that may define classes. Classes that were defined before it failed stay
defined. -/
abbrev Linked (α : Type) := ExceptT LinkError (StateM Linkage) α

/-- The class that a type is, which has to be defined. -/
def definedClass (scope : Scope) (name : String) : Linked DefinedClass := do
  match (← get).find? scope name with
  | some c => return c
  | none => throw (.notDefined name scope)

end Classpath
