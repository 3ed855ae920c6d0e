import Classpath.Reflection.Resolve

/-!
# Members

The methods and fields of a type: its own public ones and those it inherits, as far as its
supertypes can be resolved. A supertype that no loader has is left out.

The superclasses come first, the type itself at the front, then the interfaces, those of the
type before those of its superclasses and any of them before the ones it extends. The
superclass that the class file of an interface names is none of its supertypes. A name counts
once, so that declarations which lead in a circle come to an end.

## Main definitions

* `supertypes`.
* `methods`, `fields`, `parameterAnnotations`, and whether members are annotated.
-/

namespace Classpath

/-- A type among the supertypes of another, which is one of them itself. -/
structure Supertype where
  type : TypeRef
  cls : DefinedClass
  /-- Whether it was reached as an interface. -/
  isInterface : Bool

/-- The interfaces a class declares, with the loader that resolves them. -/
def DefinedClass.interfaces (c : DefinedClass) : List (String × Chain) :=
  c.decl.interfaces.map (·, c.chain)

/-- The superclass a class declares, if it counts. -/
def DefinedClass.superName? (c : DefinedClass) : Option String :=
  if c.decl.isInterface then none else c.decl.superName

/-- The superclass of a class, as far as it can be resolved. -/
def DefinedClass.superclass? (d : Disk) (c : DefinedClass) : Linked (Option TypeRef) :=
  match c.superName? with
  | none => return none
  | some name => resolve? d name c.chain

/-- A type and its superclasses, with the names among them. Each step takes a name that was
not seen before. -/
def superclasses (d : Disk) :
    (steps : Nat) → (seen : List String) → TypeRef → Linked (List Supertype × List String)
  | 0, seen, _ => return ([], seen)
  | steps + 1, seen, type => do
    if seen.contains type.name then return ([], seen)
    else
      let seen := type.name :: seen
      let c ← definedClass type.scope type.name
      match ← c.superclass? d with
      | none => return ([⟨type, c, false⟩], seen)
      | some parent =>
        let (above, seen) ← superclasses d steps seen parent
        return (⟨type, c, false⟩ :: above, seen)

/-- The interfaces that wait to be looked at, and those they lead to, breadth first. Each step
takes one that waits. -/
def superinterfaces (d : Disk) :
    (steps : Nat) → (seen : List String) → (waiting : List (String × Chain)) →
      Linked (List Supertype)
  | 0, _, _ => return []
  | _ + 1, _, [] => return []
  | steps + 1, seen, (name, chain) :: waiting => do
    if seen.contains name then superinterfaces d steps seen waiting
    else
      let seen := name :: seen
      match ← resolve? d name chain with
      | none => superinterfaces d steps seen waiting
      | some type =>
        let c ← definedClass type.scope type.name
        let found ← superinterfaces d steps seen (waiting ++ c.interfaces)
        return ⟨type, c, true⟩ :: found

/-- A bound on how many classes can be resolved: each is defined already or has a class file
of its own, which is a file or takes more than a byte of an archive. -/
def classBound (d : Disk) (l : Linkage) : Nat :=
  l.defined.length + d.contents.foldr (fun content room => content.length + 1 + room) 0 + 1

/-- How many interfaces a class can declare, and one. -/
def interfaceBound : Nat := 65536

/-- A type and all its supertypes. -/
def supertypes (d : Disk) (type : TypeRef) : Linked (List Supertype) := do
  let bound := classBound d (← get)
  let (classes, seen) ← superclasses d bound [] type
  let waiting := classes.flatMap fun s => s.cls.interfaces
  let interfaces ← superinterfaces d (2 * bound * interfaceBound) seen waiting
  return classes ++ interfaces

/-! ### Methods and fields -/

/-- Whether a type with this supertype has its method: a public one that is no initialiser,
and not a static one of an interface. -/
def Supertype.offers (s : Supertype) (m : MethodDecl) : Bool :=
  m.isPublic && !m.isInitializer && !(s.isInterface && m.isStatic)

/-- The methods a supertype offers. -/
def Supertype.methods (s : Supertype) : List MethodRef :=
  (s.cls.decl.methods.filter s.offers).map fun m =>
    ⟨s.type.name, m.name, m.descriptor, s.type.scope⟩

/-- The fields a supertype offers: its public ones. -/
def Supertype.fields (s : Supertype) : List FieldRef :=
  (s.cls.decl.fields.filter (·.isPublic)).map fun f =>
    ⟨s.type.name, f.name, f.descriptor, s.type.scope⟩

/-- What callers tell methods apart by. -/
def MethodRef.signature (m : MethodRef) : String × String := (m.name, m.descriptor)

/-- The methods of which none with the same signature comes before. -/
def firstOfSignature : (seen : List (String × String)) → List MethodRef → List MethodRef
  | _, [] => []
  | seen, m :: rest =>
    if seen.contains m.signature then firstOfSignature seen rest
    else m :: firstOfSignature (m.signature :: seen) rest

/-- The methods of a type. A method hides those behind it with its signature. -/
def methods (d : Disk) (type : TypeRef) : Linked (List MethodRef) := do
  return firstOfSignature [] ((← supertypes d type).flatMap Supertype.methods)

/-- The fields of a type. Fields that are hidden by others are among them. -/
def fields (d : Disk) (type : TypeRef) : Linked (List FieldRef) := do
  return (← supertypes d type).flatMap Supertype.fields

/-! ### Annotations -/

/-- The declaration of a method, found by its name and descriptor. -/
def methodDecl (m : MethodRef) : Linked MethodDecl := do
  let c ← definedClass m.scope m.declaring
  match c.decl.methods.find? fun n => n.name = m.name && n.descriptor = m.descriptor with
  | some decl => return decl
  | none => throw (.notDeclared m)

/-- The annotations on the parameters of a method. -/
def parameterAnnotations (m : MethodRef) : Linked (List (List String)) := do
  return (← methodDecl m).parameterAnnotations

/-- Whether a type carries an annotation. -/
def isTypeAnnotated (t : TypeRef) (annotationType : String) : Linked Bool := do
  return (← definedClass t.scope t.name).decl.isAnnotated annotationType

/-- Whether a method carries an annotation. -/
def isMethodAnnotated (m : MethodRef) (annotationType : String) : Linked Bool := do
  return (← methodDecl m).annotations.contains annotationType

/-- Whether a field of the declaring type with this name carries an annotation. -/
def isFieldAnnotated (f : FieldRef) (annotationType : String) : Linked Bool := do
  let c ← definedClass f.scope f.declaring
  return c.decl.fields.any fun g => g.name == f.name && g.annotations.contains annotationType

end Classpath
