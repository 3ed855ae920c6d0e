import Classpath.ClassFile.Descriptor

/-!
# Signatures of Methods

The descriptor of a method is its parameters and its result without anything between them: a type
is recognised by where it ends. Reading is therefore undone spelling with a rest, type by type
(`FieldType.read_encode`), and since no type begins like the end of the parameters, the list of the
parameters is found again as a whole (`MethodType.read_descriptor`). What a reader of a signature
sees follows from this: the name of each parameter, in the order of the descriptor.

An object's name ends at the first semicolon, so it must not contain one. Nothing else is asked of
it; it may hold a closing parenthesis or be empty.

## Main results

* `FieldType.read_encode`: a type at the front, whatever follows.
* `FieldType.sourceName_eq`: an array by its elements and its dimensions.
* `MethodType.read_descriptor`: reading undoes spelling.
* `renderMethod_descriptor`: how a signature looks.
-/

namespace Classpath.ClassFile

/-! ### Types -/

namespace FieldType

/-- Where the type names a class, the name has no semicolon. -/
def Spellable : FieldType → Prop
  | base _ => True
  | object internal => ';' ∉ internal.toList
  | array component => component.Spellable

/-- The name of what is left of a type without its dimensions: the keyword of a base type, or the
name of a class with dots for slashes. -/
def elementName : FieldType → String
  | base b => b.keyword
  | object internal => Text.replace '/' '.' internal
  | array component => component.elementName

/-- How many dimensions a type has; one that is no array has none. -/
def dimensions : FieldType → Nat
  | array component => component.dimensions + 1
  | _ => 0

/-- A pair of brackets for each of so many dimensions. -/
def brackets (n : Nat) : String := String.join (List.replicate n "[]")

theorem brackets_succ (n : Nat) : brackets (n + 1) = brackets n ++ "[]" := by
  simp [brackets, List.replicate_succ']

/-- **How a type looks**: the name of its elements and a pair of brackets for each dimension. -/
theorem sourceName_eq (t : FieldType) : t.sourceName = t.elementName ++ brackets t.dimensions := by
  induction t with
  | base b => exact (String.append_empty ..).symm
  | object internal => exact (String.append_empty ..).symm
  | array component ih =>
      show component.sourceName ++ "[]" =
        component.elementName ++ brackets (component.dimensions + 1)
      rw [ih, brackets_succ, String.append_assoc]

/-- No type begins like the end of the parameters or like a missing result. -/
theorem exists_encode_eq (t : FieldType) :
    ∃ c cs, t.encode = c :: cs ∧ c ≠ ')' ∧ c ≠ 'V' := by
  cases t with
  | base b => exact ⟨b.code, [], rfl, by cases b <;> decide, by cases b <;> decide⟩
  | object internal => exact ⟨'L', internal.toList ++ [';'], rfl, by decide, by decide⟩
  | array component => exact ⟨'[', component.encode, rfl, by decide, by decide⟩

/-- **Reading a type undoes spelling it**, whatever follows. -/
theorem read_encode {t : FieldType} (h : t.Spellable) (rest : List Char) :
    read (t.encode ++ rest) = .ok (t, rest) := by
  induction t with
  | base b => cases b <;> rfl
  | object internal =>
      -- the name is what stands in front of the first semicolon
      have hname : ∀ c ∈ internal.toList, decide (c ≠ ';') = true := by
        intro c hc
        exact decide_eq_true fun heq => h (heq ▸ hc)
      have hsplit : (object internal).encode ++ rest =
          'L' :: (internal.toList ++ ';' :: rest) := by
        simp [encode]
      rw [hsplit, read, if_pos rfl, List.takeWhile_append_of_pos hname,
        List.dropWhile_append_of_pos hname]
      simp
  | array component ih =>
      show read ('[' :: (component.encode ++ rest)) = _
      rw [read, if_neg (by decide), if_pos rfl, ih h]
      rfl

end FieldType

/-! ### Methods -/

namespace MethodType

/-- Every type of the method can be spelled. -/
structure Spellable (m : MethodType) : Prop where
  parameters : ∀ t ∈ m.parameters, t.Spellable
  result : ∀ t ∈ m.result, t.Spellable

/-- The descriptor of a method: its parameters in parentheses and its result. -/
def descriptor (m : MethodType) : String := String.ofList m.encode

/-- The parameters end at the parenthesis that is none of their own. -/
theorem readParameters_flatMap {ts : List FieldType} (h : ∀ t ∈ ts, t.Spellable)
    (rest : List Char) :
    readParameters (ts.flatMap FieldType.encode ++ ')' :: rest) = .ok (ts, rest) := by
  induction ts with
  | nil =>
      rw [List.flatMap_nil, List.nil_append, readParameters, if_pos rfl]
  | cons t ts ih =>
      obtain ⟨ht, hts⟩ := List.forall_mem_cons.mp h
      have hread := FieldType.read_encode ht (ts.flatMap FieldType.encode ++ ')' :: rest)
      obtain ⟨c, cs, hencode, hc, -⟩ := t.exists_encode_eq
      rw [hencode, List.cons_append] at hread
      rw [List.flatMap_cons, List.append_assoc, hencode, List.cons_append, readParameters,
        if_neg hc]
      split
      · rename_i hfault
        rw [hread] at hfault
        cases hfault
      · rename_i hfound
        rw [hread] at hfound
        cases hfound
        rw [ih hts]

/-- How a result is spelled, or that there is none. -/
def encodeResult : Option FieldType → List Char
  | none => ['V']
  | some t => t.encode

/-- The characters of a descriptor: the parameters between parentheses, and the result behind them.
-/
theorem toList_descriptor (m : MethodType) : m.descriptor.toList =
    '(' :: (m.parameters.flatMap FieldType.encode ++ ')' :: encodeResult m.result) := by
  rw [descriptor, String.toList_ofList, encode, List.cons_append]
  cases m.result <;> rfl

/-- The result of a method is read back, be it a type or none. -/
theorem readResult_encodeResult {result : Option FieldType} (h : ∀ t ∈ result, t.Spellable) :
    readResult (encodeResult result) = .ok result := by
  cases result with
  | none => rfl
  | some t =>
      have hread := FieldType.read_encode (h t rfl) []
      rw [List.append_nil] at hread
      obtain ⟨c, cs, hencode, -, hc⟩ := t.exists_encode_eq
      rw [encodeResult, hencode]
      rw [hencode] at hread
      unfold readResult
      split
      · rename_i hvoid
        exact absurd (List.cons.inj hvoid).1 hc
      · rw [hread]
        rfl

/-- **Reading a descriptor undoes spelling it.** -/
theorem read_descriptor {m : MethodType} (h : m.Spellable) : read m.descriptor = .ok m := by
  unfold read
  rw [toList_descriptor]
  simp only [readParameters_flatMap h.parameters, readResult_encodeResult h.result]

end MethodType

/-! ### Signatures -/

/-- **How a signature looks.** The descriptor of a method is read as the method's own type, and
rendered as its name and, in parentheses and in the order of the descriptor, the names of the
types of its parameters: for an array the name of its elements with a pair of brackets for each
dimension. -/
theorem renderMethod_descriptor (name : String) {m : MethodType} (h : m.Spellable) :
    MethodType.read m.descriptor = .ok m ∧
      renderMethod name m.descriptor = .ok (name ++ "(" ++ Text.join ", "
        (m.parameters.map fun t => t.elementName ++ FieldType.brackets t.dimensions) ++ ")") := by
  have hread := MethodType.read_descriptor h
  refine ⟨hread, ?_⟩
  unfold renderMethod
  rw [hread, List.map_congr_left fun t _ => (FieldType.sourceName_eq t).symm]
  rfl

/-- A method with names that are followed by other types at once, one of which has a closing
parenthesis in it. -/
def nestedMethod : MethodType where
  parameters := [.base .int, .array (.array (.object "java/lang/String")), .array (.base .byte),
    .object "a/B)c", .base .boolean]
  result := some (.array (.object "a/B"))

/-- The signature of such a method. -/
theorem renderMethod_descriptor_nested : nestedMethod.Spellable ∧
    nestedMethod.descriptor = "(I[[Ljava/lang/String;[BLa/B)c;Z)[La/B;" ∧
    renderMethod "run" "(I[[Ljava/lang/String;[BLa/B)c;Z)[La/B;" =
      .ok "run(int, java.lang.String[][], byte[], a.B)c, boolean)" := by
  have hspellable : nestedMethod.Spellable := by
    refine ⟨?_, ?_⟩
    · simp [nestedMethod, FieldType.Spellable]
    · simp [nestedMethod, FieldType.Spellable]
  have hdescriptor : nestedMethod.descriptor = "(I[[Ljava/lang/String;[BLa/B)c;Z)[La/B;" := by
    decide +kernel
  obtain ⟨-, hrender⟩ := renderMethod_descriptor "run" hspellable
  refine ⟨hspellable, hdescriptor, ?_⟩
  rw [← hdescriptor, hrender]
  exact congrArg Except.ok (by decide +kernel)

end Classpath.ClassFile
