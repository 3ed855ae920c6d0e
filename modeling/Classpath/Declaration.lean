import Classpath.Bytes

/-!
# Declarations

What a class says about itself: its name, what it extends and implements, its members, and
the annotations on all of them. Classes are named as they are spelled: nothing here says
whether a superclass or an annotation type exists.

All names of classes are in dotted form. Annotations are given by the names of their types,
and only those that are visible when the program runs are recorded.

## Main definitions

* `FieldDecl`, `MethodDecl`, `ClassDecl`.
* The questions about a class that its declaration alone can answer.
-/

namespace Classpath

/-- The declaration of a field. -/
structure FieldDecl where
  name : String
  isPublic : Bool
  descriptor : String
  annotations : List String
  deriving DecidableEq, Repr

/-- The declaration of a method or constructor. -/
structure MethodDecl where
  name : String
  isPublic : Bool
  isStatic : Bool
  descriptor : String
  annotations : List String
  /-- One slot for each parameter that annotations are recorded for; a slot may be empty. -/
  parameterAnnotations : List (List String)
  deriving DecidableEq, Repr

/-- The declaration of a class or interface. -/
structure ClassDecl where
  name : String
  /-- Missing only at the root of the hierarchy. -/
  superName : Option String
  interfaces : List String
  isInterface : Bool
  annotations : List String
  fields : List FieldDecl
  methods : List MethodDecl
  deriving DecidableEq, Repr

/-- Whether a constructor or an initialiser: code that is no method to its callers. -/
def MethodDecl.isInitializer (m : MethodDecl) : Bool :=
  m.name == "<init>" || m.name == "<clinit>"

namespace ClassDecl

/-- Whether the class itself carries the annotation. -/
def isAnnotated (c : ClassDecl) (annotationType : String) : Bool :=
  c.annotations.contains annotationType

/-- Whether some method carries the annotation. -/
def hasAnnotatedMethod (c : ClassDecl) (annotationType : String) : Bool :=
  c.methods.any fun m => m.annotations.contains annotationType

/-- Whether some parameter of some method carries the annotation. -/
def hasAnnotatedParameter (c : ClassDecl) (annotationType : String) : Bool :=
  c.methods.any fun m => m.parameterAnnotations.any fun slot => slot.contains annotationType

/-- Whether some field carries the annotation. -/
def hasAnnotatedField (c : ClassDecl) (annotationType : String) : Bool :=
  c.fields.any fun f => f.annotations.contains annotationType

/-- Whether the class names the other one as its superclass. -/
def directlyExtends (c : ClassDecl) (name : String) : Bool :=
  c.superName == some name

/-- Whether the class names the interface in its own list. -/
def directlyImplements (c : ClassDecl) (name : String) : Bool :=
  c.interfaces.contains name

end ClassDecl

end Classpath
