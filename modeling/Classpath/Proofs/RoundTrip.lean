import Classpath.Proofs.Writing

/-!
# Reading the Class That Was Written

A declaration that fits the format of class files (`ClassDecl.Fits`) is written to bytes that
declare it again, with everything in its order: `ClassDecl.ofBytes_toBytes`.

To fit means that every name and text can be stored and every list counted by the field that
counts it. Nothing is asked of the descriptors of methods, which nobody looks into here. The
descriptors of fields have to spell types, since a reader checks them; and the dotted names of
classes and annotation types must not contain a slash, which would come back as a dot.

## Main results

* `writes_methodBytes`, `writes_fieldBytes`: the members.
* `ClassDecl.Fits.writes_bodyBytes`, `ClassDecl.Fits.declaration_eq`: everything behind the
  pool, and what it refers to.
* `ClassDecl.ofBytes_toBytes`: **reading undoes writing**.
-/

namespace Classpath

namespace ClassFile.Written

variable {pool : Pool} {i : Nat}

/-! ### Members -/

/-- The member has these flags, and its indexes lead to these texts and annotations. -/
structure Describes (pool : Pool) (access : Nat) (name descriptor : String)
    (annotations : List String) (slots : List (List String)) (m : Member) : Prop where
  access : m.access = access
  name : EntryAt pool (.utf8 name) m.nameIndex
  descriptor : EntryAt pool (.utf8 descriptor) m.descriptorIndex
  attributes : Records (constants pool) annotations slots m.attributes

/-- **A member** is read back with its flags and with indexes that lead to its name, its descriptor
and its annotations. -/
theorem writes_memberBytes {access : Nat} {name descriptor : String} {annotations : List String}
    {slots : List (List String)} (haccess : access < 65536) (hname : Storable name)
    (hdescriptor : Storable descriptor) (hannotations : AnnotationNames annotations)
    (hslots : SlotNames slots) :
    Writes (memberBytes access name descriptor annotations slots) fun final bytes =>
      Reads (readMethod (constants final)) bytes
        (Describes final access name descriptor annotations slots) := by
  refine (writes_textBytes hname).bind fun nameBytes => ?_
  refine (writes_textBytes hdescriptor).bind fun descriptorBytes => ?_
  refine (writes_attributesBytes hannotations hslots).bind_pure
    fun final _ attributes hattributes hdescriptor hname => ?_
  simp only [List.append_assoc]
  refine (Reads.u2 haccess).bind ?_
  rintro _ rfl
  refine hname.bind fun nameIndex hname => ?_
  refine hdescriptor.bind fun descriptorIndex hdescriptor => ?_
  exact hattributes.bind_pure fun as has => ⟨rfl, hname, hdescriptor, has⟩

theorem memberAccess_lt (isPublic isStatic : Bool) : memberAccess isPublic isStatic < 65536 := by
  cases isPublic <;> cases isStatic <;> decide

/-- Both flags of a member are found again among the bits that are written for them. -/
theorem hasFlag_memberAccess (isPublic isStatic : Bool) :
    hasFlag (memberAccess isPublic isStatic) publicFlag = isPublic ∧
      hasFlag (memberAccess isPublic isStatic) staticFlag = isStatic := by
  cases isPublic <;> cases isStatic <;> decide

theorem classAccess_lt (isInterface : Bool) : classAccess isInterface < 65536 := by
  cases isInterface <;> decide

/-- Whether a class is an interface is found again among the bits that are written for it. -/
theorem hasFlag_classAccess (isInterface : Bool) :
    hasFlag (classAccess isInterface) interfaceFlag = isInterface := by
  cases isInterface <;> decide

/-- What a method has to be for a class file to hold it. -/
structure MethodFits (m : MethodDecl) : Prop where
  name : Storable m.name
  descriptor : Storable m.descriptor
  annotations : AnnotationNames m.annotations
  slots : SlotNames m.parameterAnnotations

instance (m : MethodDecl) : Decidable (MethodFits m) :=
  decidable_of_iff (Storable m.name ∧ Storable m.descriptor ∧ AnnotationNames m.annotations ∧
      SlotNames m.parameterAnnotations)
    ⟨fun ⟨a, b, c, d⟩ => ⟨a, b, c, d⟩, fun ⟨a, b, c, d⟩ => ⟨a, b, c, d⟩⟩

/-- **A method** that fits is read back: what its indexes lead to is the method that was written.
-/
theorem writes_methodBytes {m : MethodDecl} (h : MethodFits m) :
    Writes (methodBytes m) fun final bytes =>
      Reads (readMethod (constants final)) bytes fun r =>
        methodDecl (constants final) r = .ok m := by
  refine (writes_memberBytes (memberAccess_lt _ _) h.name h.descriptor h.annotations
    h.slots).mono fun final _ bytes hbytes => hbytes.mono fun r hr => ?_
  obtain ⟨hpublic, hstatic⟩ := hasFlag_memberAccess m.isPublic m.isStatic
  refine bind_eq_ok_iff.mpr ⟨m.name, hr.name.textAt_eq, ?_⟩
  refine bind_eq_ok_iff.mpr ⟨m.descriptor, hr.descriptor.textAt_eq, ?_⟩
  refine bind_eq_ok_iff.mpr ⟨m.annotations, hr.attributes.own, ?_⟩
  refine bind_eq_ok_iff.mpr ⟨m.parameterAnnotations, hr.attributes.ofParameters, ?_⟩
  rw [hr.access, hpublic, hstatic]
  rfl

/-- What a field has to be for a class file to hold it. -/
structure FieldFits (f : FieldDecl) : Prop where
  name : Storable f.name
  descriptor : Storable f.descriptor
  wellFormed : ∃ t : FieldType, t.Named ∧ f.descriptor.toList = t.encode
  annotations : AnnotationNames f.annotations

/-- **A field** that fits is read back in the same way, its descriptor checked by the reader. -/
theorem writes_fieldBytes {f : FieldDecl} (h : FieldFits f) :
    Writes (fieldBytes f) fun final bytes =>
      Reads (readField (constants final)) bytes fun r =>
        fieldDecl (constants final) r = .ok f := by
  refine (writes_memberBytes (memberAccess_lt _ _) h.name h.descriptor h.annotations
    slotNames_nil).mono fun final _ bytes hbytes rest => ?_
  obtain ⟨r, hr, hread⟩ := hbytes rest
  obtain ⟨t, hnamed, ht⟩ := h.wellFormed
  have hcheck : checkFieldDescriptor f.descriptor.toList = .ok () := by
    rw [ht]
    exact checkFieldDescriptor_encode hnamed
  refine ⟨r, ?_, readField_of_readMethod hread hr.descriptor.utf8_eq hcheck⟩
  obtain ⟨hpublic, -⟩ := hasFlag_memberAccess f.isPublic false
  refine bind_eq_ok_iff.mpr ⟨f.name, hr.name.textAt_eq, ?_⟩
  refine bind_eq_ok_iff.mpr ⟨f.descriptor, hr.descriptor.textAt_eq, ?_⟩
  refine bind_eq_ok_iff.mpr ⟨f.annotations, hr.attributes.own, ?_⟩
  rw [hr.access, hpublic]
  rfl

/-! ### The class -/

/-- What the name of a class has to be: a dotted name without a slash, whose slashed form can be
stored. -/
structure ClassName (name : String) : Prop where
  dotted : '/' ∉ name.toList
  storable : Storable (internalName name)

instance (name : String) : Decidable (ClassName name) :=
  decidable_of_iff ('/' ∉ name.toList ∧ Storable (internalName name))
    ⟨fun ⟨a, b⟩ => ⟨a, b⟩, fun ⟨a, b⟩ => ⟨a, b⟩⟩

/-- An index that leads to the class of a dotted name is read as that name. -/
theorem ClassName.classNameAt_eq {name : String} (h : ClassName name) (hat : ClassAt pool name i) :
    classNameAt (constants pool) i = .ok name := by
  obtain ⟨j, hclass, hslashed⟩ := hat
  have hinternal : (constants pool).className i = .ok (internalName name) := by
    rw [ConstantPool.className, hclass.get?]
    exact hslashed.utf8_eq
  rw [classNameAt, hinternal]
  simp only [binaryName_internalName h.dotted]

/-- The index of a superclass, zero if there is none. -/
def SuperAt (pool : Pool) : Option String → Nat → Prop
  | none, i => i = 0
  | some name, i => ClassAt pool name i

/-- An index that leads to the superclass, or is zero, is read as the name of the superclass or as
none. -/
theorem superNameAt_eq {superName : Option String} (h : ∀ n ∈ superName, ClassName n)
    (hat : SuperAt pool superName i) : superNameAt (constants pool) i = .ok superName := by
  cases superName with
  | none =>
      obtain rfl := hat
      rfl
  | some name =>
      have hi : i ≠ 0 := hat.choose_spec.1.1
      rw [superNameAt, if_neg hi, (h name rfl).classNameAt_eq hat]
      rfl

/-- The superclass of a class is read back as an index that leads to it, or as zero. -/
theorem writes_superBytes {superName : Option String} : (∀ n ∈ superName, ClassName n) →
    Writes (indexBytes (match superName with
      | some name => classIndex name
      | none => pure 0)) fun final bytes => Reads Reader.u2 bytes (SuperAt final superName) := by
  intro h
  cases superName with
  | none =>
      refine writes_indexBytes (writes_pure fun _ _ => rfl) ?_
      rintro _ _ rfl
      exact Nat.zero_le _
  | some name => exact writes_classBytes (h name rfl).storable

/-- The interfaces of a class are read back as indexes that lead to them, one by one and in their
order. -/
theorem writes_interfaces {names : List String} (hcount : names.length ≤ 0xFFFF)
    (h : ∀ n ∈ names, ClassName n) :
    Writes (counted 2 (fun name => indexBytes (classIndex name)) names) fun final bytes =>
      Reads (Reader.list Reader.u2) bytes (List.Forall₂ (ClassAt final) names) :=
  writes_list hcount fun n hn => writes_classBytes (h n hn).storable

/-- The class file has the flags of the declaration, and its indexes lead to what that says. -/
structure DescribesClass (pool : Pool) (c : ClassDecl) (file : ClassFile) : Prop where
  samePool : file.pool = constants pool
  access : file.access = classAccess c.isInterface
  thisClass : ClassAt pool c.name file.thisClass
  superClass : SuperAt pool c.superName file.superClass
  interfaces : List.Forall₂ (ClassAt pool) c.interfaces file.interfaces
  fields : List.Forall₂ (fun f r => fieldDecl (constants pool) r = .ok f) c.fields file.fields
  methods : List.Forall₂ (fun m r => methodDecl (constants pool) r = .ok m) c.methods file.methods
  attributes : Records (constants pool) c.annotations [] file.attributes

/-- Everything behind the pool. -/
def readBody (pool : ConstantPool) : Reader ClassFile := do
  let access ← Reader.u2
  let thisClass ← Reader.u2
  let superClass ← Reader.u2
  let interfaces ← Reader.list Reader.u2
  let fields ← Reader.list (readField pool)
  let methods ← Reader.list (readMethod pool)
  let attributes ← Attribute.readList pool
  return ⟨pool, access, thisClass, superClass, interfaces, fields, methods, attributes⟩

end ClassFile.Written

open ClassFile ClassFile.Written

/-- What a declaration has to be for a class file to hold it: its names and texts can be stored,
its field descriptors spell types, no list is longer than its number can count, and the pool
has room for all constants. -/
structure ClassDecl.Fits (c : ClassDecl) : Prop where
  name : ClassName c.name
  superName : ∀ n ∈ c.superName, ClassName n
  interfaceCount : c.interfaces.length ≤ 0xFFFF
  interfaces : ∀ n ∈ c.interfaces, ClassName n
  fieldCount : c.fields.length ≤ 0xFFFF
  fields : ∀ f ∈ c.fields, FieldFits f
  methodCount : c.methods.length ≤ 0xFFFF
  methods : ∀ m ∈ c.methods, MethodFits m
  annotations : AnnotationNames c.annotations
  pool : (bodyBytes c []).2.length ≤ maxSlots

namespace ClassDecl.Fits

variable {c : ClassDecl} {final : Pool} {file : ClassFile}

/-- Following the indexes yields the declaration. -/
theorem declaration_eq (h : c.Fits) (hfile : DescribesClass final c file) :
    file.declaration = .ok c := by
  have hinterfaces := mapM_eq_ok_of_forall₂ hfile.interfaces fun n hn _ hat =>
    (h.interfaces n hn).classNameAt_eq hat
  have hfields := mapM_eq_ok_of_forall₂ hfile.fields fun _ _ _ hfield => hfield
  have hmethods := mapM_eq_ok_of_forall₂ hfile.methods fun _ _ _ hmethod => hmethod
  unfold ClassFile.declaration
  rw [hfile.samePool]
  refine bind_eq_ok_iff.mpr ⟨c.name, h.name.classNameAt_eq hfile.thisClass, ?_⟩
  refine bind_eq_ok_iff.mpr ⟨c.superName, superNameAt_eq h.superName hfile.superClass, ?_⟩
  refine bind_eq_ok_iff.mpr ⟨c.interfaces, hinterfaces, ?_⟩
  refine bind_eq_ok_iff.mpr ⟨c.fields, hfields, ?_⟩
  refine bind_eq_ok_iff.mpr ⟨c.methods, hmethods, ?_⟩
  refine bind_eq_ok_iff.mpr ⟨c.annotations, hfile.attributes.own, ?_⟩
  rw [hfile.access, hasFlag_classAccess]
  rfl

/-- **Everything behind the pool** is read to what describes the class. -/
theorem writes_bodyBytes (h : c.Fits) :
    Writes (bodyBytes c) fun final bytes =>
      Reads (readBody (constants final)) bytes (DescribesClass final c) := by
  refine (writes_classBytes h.name.storable).bind fun this => ?_
  refine (writes_superBytes h.superName).bind fun super => ?_
  refine (writes_interfaces h.interfaceCount h.interfaces).bind fun interfaces => ?_
  refine (writes_list h.fieldCount fun f hf => writes_fieldBytes (h.fields f hf)).bind
    fun fields => ?_
  refine (writes_list h.methodCount fun m hm => writes_methodBytes (h.methods m hm)).bind
    fun methods => ?_
  refine (writes_attributesBytes h.annotations slotNames_nil).bind_pure
    fun final _ attributes hattributes hmethods hfields hinterfaces hsuper hthis => ?_
  simp only [List.append_assoc]
  refine (Reads.u2 (classAccess_lt c.isInterface)).bind ?_
  rintro _ rfl
  refine hthis.bind fun thisClass hthis => ?_
  refine hsuper.bind fun superClass hsuper => ?_
  refine hinterfaces.bind fun interfaces hinterfaces => ?_
  refine hfields.bind fun fields hfields => ?_
  refine hmethods.bind fun methods hmethods => ?_
  exact hattributes.bind_pure fun attributes hattributes =>
    ⟨rfl, rfl, hthis, hsuper, hinterfaces, hfields, hmethods, hattributes⟩

/-- The whole file, whatever follows it. -/
theorem reads (h : c.Fits) :
    Reads ClassFile.read c.toBytes fun file => file.declaration = .ok c := by
  obtain ⟨hsound, -, hbody⟩ := h.writes_bodyBytes [] sound_nil
  have hbody := hbody _ List.prefix_rfl h.pool
  unfold ClassDecl.toBytes
  simp only [List.append_assoc]
  refine (Reads.number 4 mark).bind ?_
  rintro _ rfl
  rw [if_neg (by decide)]
  refine (Reads.u2 (n := 0) (by decide)).bind ?_
  rintro _ rfl
  refine (Reads.u2 (n := 52) (by decide)).bind ?_
  rintro _ rfl
  refine (reads_poolBytes hsound h.pool).bind ?_
  rintro _ rfl
  exact hbody.mono fun file hfile => h.declaration_eq hfile

end ClassDecl.Fits

/-- **Reading undoes writing.** -/
theorem ClassDecl.ofBytes_toBytes {c : ClassDecl} (h : c.Fits) :
    ClassDecl.ofBytes c.toBytes = .ok c := by
  obtain ⟨file, hdeclaration, hread⟩ := h.reads []
  rw [List.append_nil] at hread
  have hfile : ClassFile.ofBytes c.toBytes = .ok file := by
    rw [ClassFile.ofBytes, hread]
    rfl
  rw [ClassDecl.ofBytes, hfile]
  exact hdeclaration

/-- An interface whose names meet: the name of its field is the slashed one of an interface, and
the type of its field is made of the descriptor of an annotation. One slot is empty. -/
def sinkClass : ClassDecl where
  name := "a.Sink"
  superName := none
  interfaces := ["a.Flow", "a.Mark"]
  isInterface := true
  annotations := ["a.Mark"]
  fields := [⟨"a/Flow", false, "[La/Mark;", ["a.Mark", "a.Flow"]⟩]
  methods := [⟨"accept", true, true, "(La/Mark;I)V", [], [["a.Mark"], []]⟩,
    ⟨"accept", false, false, "()V", ["a.Mark"], []⟩]

/-- This class can be held by a class file, so that reading it back is no empty promise. -/
theorem sinkClass_fits : sinkClass.Fits := by
  obtain ⟨hname, hinterfaces, hfield, hmethods, hannotations, hpool⟩ :
      ClassName "a.Sink" ∧ (∀ n ∈ ["a.Flow", "a.Mark"], ClassName n) ∧
        (Storable "a/Flow" ∧ Storable "[La/Mark;" ∧ AnnotationNames ["a.Mark", "a.Flow"] ∧
          "[La/Mark;".toList = (FieldType.array (.object "a/Mark")).encode) ∧
        (∀ m ∈ sinkClass.methods, MethodFits m) ∧ AnnotationNames ["a.Mark"] ∧
        (bodyBytes sinkClass []).2.length ≤ maxSlots := by
    decide +kernel
  obtain ⟨hfieldName, hdescriptor, hfieldAnnotations, hspelled⟩ := hfield
  have hnamed : (FieldType.array (.object "a/Mark")).Named := by simp [FieldType.Named]
  exact ⟨hname, by rintro _ ⟨⟩, by simp [sinkClass], hinterfaces, by simp [sinkClass],
    List.forall_mem_singleton.mpr ⟨hfieldName, hdescriptor, ⟨_, hnamed, hspelled⟩,
      hfieldAnnotations⟩,
    by simp [sinkClass], hmethods, hannotations, hpool⟩

/-- What is written for it is read back, though its names, its descriptors and its annotations
share texts in the pool. -/
theorem ofBytes_toBytes_sink :
    sinkClass.Fits ∧ ClassDecl.ofBytes sinkClass.toBytes = .ok sinkClass :=
  ⟨sinkClass_fits, ClassDecl.ofBytes_toBytes sinkClass_fits⟩

end Classpath
