import Classpath.ClassFile.Name

/-!
# Descriptors

A descriptor spells the type of a field, or the parameters and the result of a method, as
class files write it: one letter for a base type, `L…;` for an object, `[` before the type
of an array's elements.

Reading a method descriptor is lenient at its edges: the parameters end at `)` or with the
text, an object name ends at `;` or with the text, and nothing is asked of what follows the
result.

## Main definitions

* `FieldType`, `MethodType`: the types, with `encode`, their spelling.
* `MethodType.read`: the type a descriptor spells.
* `FieldType.sourceName`, `renderMethod`: how a reader sees them.
-/

namespace Classpath.ClassFile

/-- The types that are no objects. -/
inductive BaseType where
  | byte | char | double | float | int | long | short | boolean
  deriving DecidableEq, Repr

/-- The letter of a base type. -/
def BaseType.code : BaseType → Char
  | .byte => 'B'
  | .char => 'C'
  | .double => 'D'
  | .float => 'F'
  | .int => 'I'
  | .long => 'J'
  | .short => 'S'
  | .boolean => 'Z'

/-- The base type of a letter. -/
def BaseType.ofCode? : Char → Option BaseType
  | 'B' => some .byte
  | 'C' => some .char
  | 'D' => some .double
  | 'F' => some .float
  | 'I' => some .int
  | 'J' => some .long
  | 'S' => some .short
  | 'Z' => some .boolean
  | _ => none

/-- Each base type is found under its letter. -/
@[simp] theorem BaseType.ofCode?_code (b : BaseType) : ofCode? b.code = some b := by
  cases b <;> rfl

/-- The keyword of a base type. -/
def BaseType.keyword : BaseType → String
  | .byte => "byte"
  | .char => "char"
  | .double => "double"
  | .float => "float"
  | .int => "int"
  | .long => "long"
  | .short => "short"
  | .boolean => "boolean"

/-- The type of a field, a parameter or a result. -/
inductive FieldType where
  | base (b : BaseType)
  /-- An object of the class with this slashed name. -/
  | object (internal : String)
  | array (component : FieldType)
  deriving DecidableEq, Repr

/-- How class files spell a type. -/
def FieldType.encode : FieldType → List Char
  | .base b => [b.code]
  | .object internal => 'L' :: internal.toList ++ [';']
  | .array component => '[' :: component.encode

/-- How a reader sees a type: an object by its dotted name, an array by the type of its
elements and a pair of brackets for each dimension. -/
def FieldType.sourceName : FieldType → String
  | .base b => b.keyword
  | .object internal => binaryName internal
  | .array component => component.sourceName ++ "[]"

/-- The parameters of a method and its result, which may be missing. -/
structure MethodType where
  parameters : List FieldType
  result : Option FieldType
  deriving DecidableEq, Repr

/-- How class files spell a method's type. -/
def MethodType.encode (m : MethodType) : List Char :=
  '(' :: m.parameters.flatMap FieldType.encode ++
    ')' :: (match m.result with
      | none => ['V']
      | some t => t.encode)

/-! ### Reading -/

/-- Why a text is no method descriptor. -/
inductive DescriptorError where
  /-- Something is missing from the descriptor. -/
  | malformed (descriptor : String)
  /-- A letter that begins no type. -/
  | baseType (code : Char)
  deriving DecidableEq, Repr

/-- The wording of a descriptor error. -/
def DescriptorError.message : DescriptorError → String
  | .malformed descriptor => "Invalid method descriptor: " ++ descriptor
  | .baseType code => "Invalid base type code " ++ String.singleton code

/-- Where a type in a method descriptor goes wrong: nothing is left to read, or a letter
begins no type. -/
inductive TypeFault where
  | missing
  | letter (code : Char)

/-- The type at the front, and what follows it. -/
def FieldType.read : List Char → Except TypeFault (FieldType × List Char)
  | [] => .error .missing
  | c :: cs =>
    if c = 'L' then
      .ok (.object (String.ofList (cs.takeWhile (· ≠ ';'))), (cs.dropWhile (· ≠ ';')).drop 1)
    else if c = '[' then (FieldType.read cs).map fun (t, rest) => (.array t, rest)
    else
      match BaseType.ofCode? c with
      | some b => .ok (.base b, cs)
      | none => .error (.letter c)

/-- Reading a type takes at least one character. -/
theorem FieldType.length_of_read {cs rest : List Char} {t : FieldType}
    (h : FieldType.read cs = .ok (t, rest)) : rest.length < cs.length := by
  induction cs generalizing t rest with
  | nil => simp [FieldType.read] at h
  | cons c cs ih =>
    unfold FieldType.read at h
    split at h
    · obtain ⟨-, rfl⟩ := Prod.mk.inj (Except.ok.inj h)
      have := (List.dropWhile_suffix (p := (· ≠ ';')) (l := cs)).length_le
      simp only [List.length_drop, List.length_cons]
      omega
    · split at h
      · cases hr : FieldType.read cs with
        | error e => simp [hr, Except.map] at h
        | ok pair =>
          obtain ⟨u, tail⟩ := pair
          simp only [hr, Except.map] at h
          obtain ⟨-, rfl⟩ := Prod.mk.inj (Except.ok.inj h)
          have := ih hr
          simp only [List.length_cons]
          omega
      · split at h
        · obtain ⟨-, rfl⟩ := Prod.mk.inj (Except.ok.inj h)
          simp
        · simp at h

/-- The types up to the closing parenthesis or the end, and what follows it. -/
def MethodType.readParameters (cs : List Char) :
    Except TypeFault (List FieldType × List Char) :=
  match cs with
  | [] => .ok ([], [])
  | c :: rest =>
    if c = ')' then .ok ([], rest)
    else
      match _h : FieldType.read (c :: rest) with
      | .error e => .error e
      | .ok (t, tail) =>
        match readParameters tail with
        | .error e => .error e
        | .ok (ts, tail) => .ok (t :: ts, tail)
  termination_by cs.length
  decreasing_by exact FieldType.length_of_read _h

/-- The result at the front; what follows it is not looked at. -/
def MethodType.readResult : List Char → Except TypeFault (Option FieldType)
  | 'V' :: _ => .ok none
  | cs => (FieldType.read cs).map fun (t, _) => some t

/-- The method type a descriptor spells. -/
def MethodType.read (descriptor : String) : Except DescriptorError MethodType :=
  let report : TypeFault → DescriptorError
    | .missing => .malformed descriptor
    | .letter c => .baseType c
  match descriptor.toList with
  | '(' :: cs =>
    match readParameters cs with
    | .error e => .error (report e)
    | .ok (parameters, rest) =>
      match readResult rest with
      | .error e => .error (report e)
      | .ok result => .ok ⟨parameters, result⟩
  | _ => .error (.malformed descriptor)

/-! ### Signatures -/

/-- The signature of a method as a reader sees it: its name and the types of its parameters. -/
def renderMethod (name descriptor : String) : Except DescriptorError String :=
  (MethodType.read descriptor).map fun m =>
    name ++ "(" ++ Text.join ", " (m.parameters.map FieldType.sourceName) ++ ")"

end Classpath.ClassFile
