import Classpath.ClassFile.Written
import Classpath.Proofs.Reading

/-!
# Writing Class Files

A class file is written behind a pool that grows meanwhile, and read with the pool as it is in
the end. So what a writer returns is described by what it is read to with any pool that goes on
from the one it leaves: `Writes write Q` says that, from whatever sound pool, the writer leaves
a sound one that goes on from there, and that its result has the property `Q final` for every
later pool `final`. Sequences of writers compose (`Writes.bind`), and the pool is mentioned by
the two writers alone that add to it, `utf8` and `classIndex`.

A pool is *sound* if its texts can be stored and its classes refer to their names
(`Sound`). Constants are never removed or moved, so an index stays what it is
(`EntryAt.later`), also where a text is shared by a class, a member and an attribute.

## Main results

* `reads_poolBytes`: the pool is read back.
* `Writes.bind`, `writes_mapM`, `writes_list`: writers one after another.
* `writes_utf8`, `writes_classIndex`: the writers that may add to the pool.
* `writes_attributesBytes`: the annotations of a class or a member, and of its parameters.
-/

namespace Classpath

namespace ClassFile.Written

/-! ### Names -/

/-- A dotted name without a slash is the dotted name of its slashed one. -/
theorem binaryName_internalName {name : String} (h : '/' ∉ name.toList) :
    binaryName (internalName name) = name := by
  have hmap : (name.toList.map fun c => if c = '.' then '/' else c).map
      (fun c => if c = '/' then '.' else c) = name.toList := by
    rw [List.map_map]
    refine (List.map_congr_left fun c hc => ?_).trans (List.map_id _)
    have hslash : c ≠ '/' := fun heq => h (heq ▸ hc)
    by_cases hdot : c = '.'
    · simp [hdot]
    · simp [hdot, hslash]
  unfold binaryName internalName Text.replace
  rw [String.toList_ofList, hmap, String.ofList_toList]

/-- The descriptor of an annotation type names the type that it was made from, if the dotted name
has no slash. -/
theorem annotationType?_objectDescriptor {name : String} (h : '/' ∉ name.toList) :
    annotationType? (objectDescriptor name) = some name := by
  have hlist : (objectDescriptor name).toList = 'L' :: ((internalName name).toList ++ [';']) := by
    simp [objectDescriptor]
  unfold annotationType?
  rw [hlist]
  simp [binaryName_internalName h]

/-! ### The pool -/

/-- What a text has to be for a class file to hold it: its characters are up to U+FFFF, and a
number of two bytes can count its bytes. -/
structure Storable (text : String) : Prop where
  chars : ∀ c ∈ text.toList, c.toNat ≤ 0xFFFF
  size : (Text.Utf8.encode text).length ≤ 0xFFFF

instance (text : String) : Decidable (Storable text) :=
  decidable_of_iff (text.toList.all (fun c => decide (c.toNat ≤ 0xFFFF)) = true ∧
      (Text.Utf8.encode text).length ≤ 0xFFFF)
    ⟨fun ⟨a, b⟩ => ⟨by simpa using a, b⟩, fun ⟨a, b⟩ => ⟨by simpa using a, b⟩⟩

/-- The constant has the index; indexes count from one. -/
def EntryAt (pool : Pool) (e : Entry) (i : Nat) : Prop := i ≠ 0 ∧ pool[i - 1]? = some e

/-- The class of a dotted name has the index. -/
def ClassAt (pool : Pool) (name : String) (i : Nat) : Prop :=
  ∃ j, EntryAt pool (.class name j) i ∧ EntryAt pool (.utf8 (internalName name)) j

/-- A text can be stored, and a class refers to its name. -/
def Entry.SoundIn (pool : Pool) : Entry → Prop
  | .utf8 text => Storable text
  | .class name nameIndex => EntryAt pool (.utf8 (internalName name)) nameIndex

/-- All constants are sound. -/
def Sound (pool : Pool) : Prop := ∀ e ∈ pool, e.SoundIn pool

variable {pool final : Pool} {e : Entry} {i : Nat}

/-- Constants are never removed or moved, so an index leads to the same one in every later pool. -/
theorem EntryAt.later (h : EntryAt pool e i) (hgrown : pool <+: final) :
    EntryAt final e i := by
  obtain ⟨hi, h⟩ := h
  obtain ⟨hlt, rfl⟩ := List.getElem?_eq_some_iff.mp h
  exact ⟨hi, List.prefix_iff_getElem?.mp hgrown _ hlt⟩

/-- The index of a constant is no more than the number of constants. -/
theorem EntryAt.le_length (h : EntryAt pool e i) : i ≤ pool.length := by
  obtain ⟨hi, h⟩ := h
  obtain ⟨hlt, -⟩ := List.getElem?_eq_some_iff.mp h
  omega

/-- A constant that is put behind the others gets the next index. -/
theorem entryAt_concat (pool : Pool) (e : Entry) : EntryAt (pool ++ [e]) e (pool.length + 1) :=
  ⟨Nat.succ_ne_zero _, by simp⟩

/-- What a constant refers to is there in every later pool. -/
theorem Entry.SoundIn.later (h : e.SoundIn pool) (hgrown : pool <+: final) :
    e.SoundIn final := by
  cases e with
  | utf8 text => exact h
  | «class» name nameIndex => exact EntryAt.later h hgrown

theorem sound_nil : Sound [] := fun _ he => absurd he List.not_mem_nil

/-- A sound pool stays sound when a constant is added that is sound in it. -/
theorem Sound.concat (h : Sound pool) (he : e.SoundIn pool) : Sound (pool ++ [e]) := by
  intro e' he'
  obtain he' | he' := List.mem_append.mp he'
  · exact (h e' he').later (List.prefix_append _ _)
  · rw [List.mem_singleton.mp he']
    exact he.later (List.prefix_append _ _)

/-! ### The pool as it is read -/

/-- The constant that an entry is read as. -/
def Entry.constant : Entry → Constant
  | .utf8 text => .utf8 text
  | .class _ nameIndex => .class nameIndex

/-- The pool that some entries are read as. -/
def constants (pool : Pool) : ConstantPool := ⟨(pool.map fun e => some e.constant).toArray⟩

/-- The constant under an index is found by the reader under the same one. -/
theorem EntryAt.get? (h : EntryAt pool e i) : (constants pool).get? i = some e.constant := by
  obtain ⟨hi, h⟩ := h
  simp [ConstantPool.get?, constants, hi, h]

/-- The index of a text is read as the text. -/
theorem EntryAt.utf8_eq {text : String} (h : EntryAt pool (.utf8 text) i) :
    (constants pool).utf8 i = .ok text := by
  rw [ConstantPool.utf8, h.get?]
  rfl

/-- So it is by the reader that reports a text it does not find. -/
theorem EntryAt.textAt_eq {text : String} (h : EntryAt pool (.utf8 text) i) :
    textAt (constants pool) i = .ok text := by
  rw [textAt, h.utf8_eq]
  rfl

/-- The number of slots that a pool may have: their number and one are written. -/
def maxSlots : Nat := 65534

/-- **A constant is read back**, if the pool is sound and small enough for the indexes in it to fit
into two bytes. -/
theorem reads_entry (hpool : Sound pool) (hsize : pool.length ≤ maxSlots) (he : e ∈ pool) :
    Reads ConstantPool.readConstant e.toBytes (· = (e.constant, 1)) := by
  cases e with
  | utf8 text =>
      have htext : Storable text := hpool _ he
      have hsize := htext.size
      show Reads _ (Bytes.ofNatBE 1 1 ++ (Bytes.ofNatBE 2 _ ++ Text.Utf8.encode text)) _
      refine (Reads.number 1 1).bind ?_
      rintro _ rfl
      refine (Reads.u2 (by omega)).bind ?_
      rintro _ rfl
      refine (Reads.content (Text.Utf8.encode text)).bind_nil ?_
      rintro _ rfl
      simp only [Mutf8.decode_encode htext.chars]
      exact Reads.pure rfl
  | «class» name nameIndex =>
      have hindex := EntryAt.le_length (hpool _ he)
      show Reads _ (Bytes.ofNatBE 1 7 ++ Bytes.ofNatBE 2 nameIndex) _
      refine (Reads.number 1 7).bind ?_
      rintro _ rfl
      refine (Reads.u2 (by unfold maxSlots at hsize; omega)).bind_pure ?_
      rintro _ rfl
      rfl

/-- Constants one after another are read back, each into one slot. -/
theorem reads_readSlots (h : ∀ e ∈ pool,
      Reads ConstantPool.readConstant e.toBytes (· = (e.constant, 1))) :
    Reads (ConstantPool.readSlots pool.length) (pool.flatMap Entry.toBytes)
      (· = pool.map fun e => some e.constant) := by
  induction pool with
  | nil => exact Reads.pure rfl
  | cons e pool ih =>
      obtain ⟨he, hpool⟩ := List.forall_mem_cons.mp h
      cases pool with
      | nil =>
          rw [List.flatMap_singleton]
          refine he.bind_pure ?_
          rintro _ rfl
          rfl
      | cons e' pool =>
          rw [List.flatMap_cons]
          refine he.bind ?_
          rintro _ rfl
          refine (ih hpool).bind_pure ?_
          rintro _ rfl
          rfl

/-- **The pool is read back**, a constant for each entry. -/
theorem reads_poolBytes (hpool : Sound pool) (hsize : pool.length ≤ maxSlots) :
    Reads ConstantPool.read (poolBytes pool) (· = constants pool) := by
  refine (Reads.u2 (by unfold maxSlots at hsize; omega)).bind ?_
  rintro _ rfl
  simp only [Nat.succ_ne_zero, if_false, Nat.add_sub_cancel]
  refine (reads_readSlots fun e he => reads_entry hpool hsize he).bind_pure ?_
  rintro _ rfl
  rfl

/-! ### Writers -/

variable {α β ι : Type}

/-- From whatever sound pool, the writer leaves a sound one that goes on from there, and its
result has the property in every pool that goes on from that and fits the format. -/
def Writes (write : StateM Pool α) (Q : Pool → α → Prop) : Prop :=
  ∀ pool, Sound pool → Sound (write pool).2 ∧ pool <+: (write pool).2 ∧
    ∀ final, (write pool).2 <+: final → final.length ≤ maxSlots → Q final (write pool).1

section Combinators

variable {write : StateM Pool α} {Q Q' : Pool → α → Prop}

/-- What is known of a result with a pool of which the size can be written may be weakened. -/
theorem Writes.mono (h : Writes write Q)
    (himp : ∀ final, final.length ≤ maxSlots → ∀ a, Q final a → Q' final a) :
    Writes write Q' := by
  intro pool hpool
  obtain ⟨hsound, hgrown, hresult⟩ := h pool hpool
  exact ⟨hsound, hgrown, fun final hfinal hsize =>
    himp final hsize _ (hresult final hfinal hsize)⟩

/-- A value that is returned leaves the pool as it is. -/
theorem writes_pure {a : α} (h : ∀ final, final.length ≤ maxSlots → Q final a) :
    Writes (pure a) Q :=
  fun _ hpool => ⟨hpool, List.prefix_rfl, fun final _ hsize => h final hsize⟩

/-- A writer and one that goes on from its result and from the pool it leaves. -/
theorem Writes.bind {next : α → StateM Pool β} {R : Pool → β → Prop} (h : Writes write Q)
    (hnext : ∀ a, Writes (next a) fun final b => Q final a → R final b) :
    Writes (write >>= next) R := by
  intro pool hpool
  obtain ⟨hsound, hgrown, hresult⟩ := h pool hpool
  obtain ⟨hsound', hgrown', hresult'⟩ := hnext (write pool).1 (write pool).2 hsound
  exact ⟨hsound', hgrown.trans hgrown', fun final hfinal hsize =>
    hresult' final hfinal hsize (hresult final (hgrown'.trans hfinal) hsize)⟩

/-- A writer and the value made from its result. -/
theorem Writes.bind_pure {f : α → β} {R : Pool → β → Prop} (h : Writes write Q)
    (hf : ∀ final, final.length ≤ maxSlots → ∀ a, Q final a → R final (f a)) :
    Writes (write >>= fun a => Pure.pure (f a)) R :=
  h.bind fun a => writes_pure fun final hsize => hf final hsize a

/-- A writer over a list. -/
theorem writes_mapM {write : ι → StateM Pool α} {Q : ι → Pool → α → Prop} {items : List ι}
    (h : ∀ i ∈ items, Writes (write i) (Q i)) : Writes (items.mapM write) fun final as =>
      List.Forall₂ (fun i a => Q i final a) items as := by
  induction items with
  | nil => exact writes_pure fun _ _ => List.Forall₂.nil
  | cons i items ih =>
      obtain ⟨hi, hitems⟩ := List.forall_mem_cons.mp h
      rw [List.mapM_cons]
      exact hi.bind fun a => (ih hitems).bind_pure fun final _ as has ha =>
        List.Forall₂.cons ha has

/-- A list behind its number. -/
theorem writes_counted {width : Nat} {write : ι → StateM Pool Bytes}
    {Q : ι → Pool → Bytes → Prop} {items : List ι} (h : ∀ i ∈ items, Writes (write i) (Q i)) :
    Writes (counted width write items) fun final bytes => ∃ parts : List Bytes,
      bytes = Bytes.ofNatBE width items.length ++ parts.flatten ∧
        List.Forall₂ (fun i part => Q i final part) items parts :=
  (writes_mapM h).bind_pure fun _ _ parts hparts => ⟨parts, rfl, hparts⟩

/-- A list behind its number is read back, if what is written of its elements is. -/
theorem writes_list {write : ι → StateM Pool Bytes} {read : Pool → Reader α}
    {R : Pool → ι → α → Prop} {items : List ι} (hcount : items.length ≤ 0xFFFF)
    (h : ∀ i ∈ items, Writes (write i) fun final bytes =>
      Reads (read final) bytes (R final i)) :
    Writes (counted 2 write items) fun final bytes =>
      Reads (Reader.list (read final)) bytes (List.Forall₂ (R final) items) := by
  refine (writes_counted h).mono fun final _ _ hparts => ?_
  obtain ⟨parts, rfl, hparts⟩ := hparts
  exact Reads.list (by omega) hparts

end Combinators

/-! ### The writers that may add to the pool -/

/-- To look a text up in the pool, or to add it where it is not found, yields an index under which
it is in any case. -/
theorem utf8_spec {text : String} (htext : Storable text) (hpool : Sound pool) :
    Sound (utf8 text pool).2 ∧ pool <+: (utf8 text pool).2 ∧
      EntryAt (utf8 text pool).2 (.utf8 text) (utf8 text pool).1 := by
  unfold utf8
  cases hfind : pool.findIdx? (· == .utf8 text) with
  | some i =>
      obtain ⟨hi, hentry, -⟩ := List.findIdx?_eq_some_iff_getElem.mp hfind
      have hat : pool[i]? = some (.utf8 text) :=
        List.getElem?_eq_some_iff.mpr ⟨hi, eq_of_beq hentry⟩
      exact ⟨hpool, List.prefix_rfl, i.succ_ne_zero, hat⟩
  | none => exact ⟨hpool.concat htext, List.prefix_append _ _, entryAt_concat pool _⟩

/-- **The index of a text** leads to the text in the final pool. -/
theorem writes_utf8 {text : String} (htext : Storable text) :
    Writes (utf8 text) fun final => EntryAt final (.utf8 text) := by
  intro pool hpool
  obtain ⟨hsound, hgrown, hat⟩ := utf8_spec htext hpool
  exact ⟨hsound, hgrown, fun final hfinal _ => hat.later hfinal⟩

/-- A constant that is found as the class of a name is one, with some index of the name. -/
theorem eq_class_of_isClass {name : String} (h : e.isClass name = true) :
    ∃ j, e = .class name j := by
  cases e with
  | utf8 text => cases h
  | «class» name' j => exact ⟨j, by rw [eq_of_beq h]⟩

/-- **The index of a class** leads to the class in the final pool, and that one to its slashed
name. -/
theorem writes_classIndex {name : String} (hname : Storable (internalName name)) :
    Writes (classIndex name) fun final => ClassAt final name := by
  intro pool hpool
  unfold classIndex
  cases hfind : pool.findIdx? (Entry.isClass name) with
  | some i =>
      obtain ⟨hi, hentry, -⟩ := List.findIdx?_eq_some_iff_getElem.mp hfind
      obtain ⟨j, hj⟩ := eq_class_of_isClass hentry
      have hat : EntryAt pool (.class name j) (i + 1) :=
        ⟨i.succ_ne_zero, List.getElem?_eq_some_iff.mpr ⟨hi, hj⟩⟩
      have hslashed : EntryAt pool (.utf8 (internalName name)) j :=
        hpool (.class name j) (hj ▸ List.getElem_mem hi)
      exact ⟨hpool, List.prefix_rfl, fun final hfinal _ =>
        ⟨j, hat.later hfinal, hslashed.later hfinal⟩⟩
  | none =>
      -- the slashed name comes first, and may be a text that the pool has already
      obtain ⟨hsound, hgrown, hslashed⟩ := utf8_spec hname hpool
      have hpushed := List.prefix_append (utf8 (internalName name) pool).2
        [.class name (utf8 (internalName name) pool).1]
      exact ⟨hsound.concat hslashed, hgrown.trans hpushed, fun final hfinal _ =>
        ⟨_, (entryAt_concat _ _).later hfinal, hslashed.later (hpushed.trans hfinal)⟩⟩

/-- An index takes two bytes, which every index of a pool that fits can be written with. -/
theorem writes_indexBytes {index : StateM Pool Nat} {P : Pool → Nat → Prop}
    (h : Writes index P) (hle : ∀ final i, P final i → i ≤ final.length) :
    Writes (indexBytes index) fun final bytes => Reads Reader.u2 bytes (P final) := by
  refine h.bind_pure fun final hsize i hi => ?_
  have hi' := hle final i hi
  unfold maxSlots at hsize
  refine (Reads.u2 (by omega)).mono ?_
  rintro _ rfl
  exact hi

/-- The two bytes for a text are read as an index that leads to it. -/
theorem writes_textBytes {text : String} (htext : Storable text) :
    Writes (indexBytes (utf8 text)) fun final bytes =>
      Reads Reader.u2 bytes (EntryAt final (.utf8 text)) :=
  writes_indexBytes (writes_utf8 htext) fun _ _ h => h.le_length

/-- The two bytes for a class are read as an index that leads to it. -/
theorem writes_classBytes {name : String} (hname : Storable (internalName name)) :
    Writes (indexBytes (classIndex name)) fun final bytes =>
      Reads Reader.u2 bytes (ClassAt final name) :=
  writes_indexBytes (writes_classIndex hname) fun _ _ ⟨_, h, _⟩ => h.le_length

/-! ### Annotations -/

/-- The descriptor of an annotation type has the index. -/
def AnnotationAt (pool : Pool) (name : String) : Nat → Prop :=
  EntryAt pool (.utf8 (objectDescriptor name))

/-- What the name of an annotation type has to be: a dotted name without a slash, whose
descriptor can be stored. -/
structure AnnotationName (name : String) : Prop where
  dotted : '/' ∉ name.toList
  storable : Storable (objectDescriptor name)

instance (name : String) : Decidable (AnnotationName name) :=
  decidable_of_iff ('/' ∉ name.toList ∧ Storable (objectDescriptor name))
    ⟨fun ⟨a, b⟩ => ⟨a, b⟩, fun ⟨a, b⟩ => ⟨a, b⟩⟩

/-- What the annotations at one place have to be, their number included. -/
structure AnnotationNames (names : List String) : Prop where
  count : names.length ≤ 0xFFFF
  name : ∀ n ∈ names, AnnotationName n

instance (names : List String) : Decidable (AnnotationNames names) :=
  decidable_of_iff (names.length ≤ 0xFFFF ∧ ∀ n ∈ names, AnnotationName n)
    ⟨fun ⟨a, b⟩ => ⟨a, b⟩, fun ⟨a, b⟩ => ⟨a, b⟩⟩

/-- The annotations at one place are read back as indexes of their types, at any depth at which
annotations may stand. -/
theorem writes_annotationsBytes {names : List String} (h : AnnotationNames names) :
    Writes (annotationsBytes names) fun final bytes => ∀ depth, 1 ≤ depth →
      Reads (Attribute.readAnnotations depth) bytes (List.Forall₂ (AnnotationAt final) names) := by
  have hwrites : ∀ n ∈ names, Writes (annotationBytes n) fun final bytes => ∀ depth, 1 ≤ depth →
      Reads (Attribute.annotationType depth) bytes (AnnotationAt final n) := fun n hn =>
    (writes_textBytes (h.name n hn).storable).bind_pure fun _ _ _ hindex _ hdepth =>
      Reads.annotationType hdepth hindex
  refine (writes_counted hwrites).mono fun final _ _ hparts depth hdepth => ?_
  obtain ⟨parts, rfl, hparts⟩ := hparts
  have hcount := h.count
  exact Reads.list (by omega) (hparts.imp fun _ _ hpart => hpart depth hdepth)

/-- What the annotation slots of a method have to be. -/
structure SlotNames (slots : List (List String)) : Prop where
  count : slots.length ≤ 0xFF
  names : ∀ names ∈ slots, AnnotationNames names

instance (slots : List (List String)) : Decidable (SlotNames slots) :=
  decidable_of_iff (slots.length ≤ 0xFF ∧ ∀ names ∈ slots, AnnotationNames names)
    ⟨fun ⟨a, b⟩ => ⟨a, b⟩, fun ⟨a, b⟩ => ⟨a, b⟩⟩

theorem slotNames_nil : SlotNames [] := ⟨by simp, by simp⟩

/-- The annotations of the parameters are read back, slot by slot. -/
theorem writes_slotsBytes {slots : List (List String)} (h : SlotNames slots) :
    Writes (counted 1 annotationsBytes slots) fun final bytes => ∀ depth, 1 ≤ depth →
      Reads (Attribute.readParameterAnnotations depth) bytes
        (List.Forall₂ (List.Forall₂ (AnnotationAt final)) slots) := by
  refine (writes_counted fun names hnames => writes_annotationsBytes (h.names names hnames)).mono
    fun final _ _ hparts depth hdepth => ?_
  obtain ⟨parts, rfl, hparts⟩ := hparts
  have hcount := h.count
  refine (Reads.number 1 slots.length).bind ?_
  rintro _ rfl
  rw [Nat.mod_eq_of_lt (by omega)]
  exact Reads.times (hparts.imp fun _ _ hpart => hpart depth hdepth)

/-! ### Attributes -/

/-- What some attributes say about annotations. -/
structure Records (pool : ConstantPool) (annotations : List String) (slots : List (List String))
    (attributes : List Attribute) : Prop where
  own : visibleAnnotations pool attributes = .ok annotations
  ofParameters : visibleParameterAnnotations pool attributes = .ok slots

theorem records_nil (pool : ConstantPool) : Records pool [] [] [] := ⟨rfl, rfl⟩

/-- Attributes of one kind add up. -/
theorem Records.append {pool : ConstantPool} {annotations annotations' : List String}
    {slots slots' : List (List String)} {attributes attributes' : List Attribute}
    (h : Records pool annotations slots attributes)
    (h' : Records pool annotations' slots' attributes') :
    Records pool (annotations ++ annotations') (slots ++ slots') (attributes ++ attributes') := by
  obtain ⟨hown, hparameters⟩ := h
  obtain ⟨hown', hparameters'⟩ := h'
  unfold visibleAnnotations at hown hown'
  unfold visibleParameterAnnotations at hparameters hparameters'
  refine ⟨?_, ?_⟩
  · rw [visibleAnnotations, List.flatMap_append, List.mapM_append, hown, hown']
    rfl
  · rw [visibleParameterAnnotations, List.flatMap_append, List.mapM_append, hparameters,
      hparameters']
    rfl

/-- The index of an annotation type is read as the dotted name of the type. -/
theorem AnnotationName.annotationTypeAt_eq {name : String} (h : AnnotationName name)
    (hat : AnnotationAt pool name i) : annotationTypeAt (constants pool) i = .ok name := by
  refine bind_eq_ok_iff.mpr ⟨_, hat.textAt_eq, ?_⟩
  simp only [annotationType?_objectDescriptor h.dotted]

/-- The indexes of some annotation types are read as their names, in the same order. -/
theorem AnnotationNames.mapM_eq {names : List String} {types : List Nat}
    (h : AnnotationNames names) (htypes : List.Forall₂ (AnnotationAt pool) names types) :
    types.mapM (annotationTypeAt (constants pool)) = .ok names :=
  mapM_eq_ok_of_forall₂ htypes fun n hn _ hat => (h.name n hn).annotationTypeAt_eq hat

/-- An attribute with the annotations of a class or member records these, and none of parameters.
-/
theorem records_annotations {names : List String} {types : List Nat} (h : AnnotationNames names)
    (htypes : List.Forall₂ (AnnotationAt pool) names types) :
    Records (constants pool) names [] [.visibleAnnotations types] := by
  refine ⟨?_, rfl⟩
  rw [visibleAnnotations, List.flatMap_singleton]
  exact h.mapM_eq htypes

/-- An attribute with the annotations of parameters records these, and none of the member itself.
-/
theorem records_parameterAnnotations {slots : List (List String)} {types : List (List Nat)}
    (h : SlotNames slots)
    (htypes : List.Forall₂ (List.Forall₂ (AnnotationAt pool)) slots types) :
    Records (constants pool) [] slots [.visibleParameterAnnotations types] := by
  refine ⟨rfl, ?_⟩
  rw [visibleParameterAnnotations, List.flatMap_singleton]
  exact mapM_eq_ok_of_forall₂ htypes fun names hnames _ hat => (h.names names hnames).mapM_eq hat

theorem storable_attributeNames : Storable "RuntimeVisibleAnnotations" ∧
    Storable "RuntimeVisibleParameterAnnotations" := by
  decide +kernel

/-- **An attribute** is written as the index of its name, the length of its content and the
content, each of which is read back. -/
theorem writes_attributeBytes {name : String} {content : StateM Pool Bytes}
    {Q : Pool → Bytes → Prop} (hname : Storable name) (hcontent : Writes content Q) :
    Writes (attributeBytes name content) fun final bytes => ∃ index content : Bytes,
      bytes = index ++ (Bytes.ofNatBE 4 content.length ++ content) ∧
        Reads Reader.u2 index (EntryAt final (.utf8 name)) ∧ Q final content :=
  (writes_textBytes hname).bind fun index => hcontent.bind_pure fun _ _ content hcontent hindex =>
    ⟨index, content, List.append_assoc .., hindex, hcontent⟩

/-- An attribute, unless it is absent. -/
def optional (absent : Bool) (write : StateM Pool Bytes) : StateM Pool (List Bytes) :=
  if absent then pure [] else return [← write]

/-- The attributes of a class or member as two that may be absent, so that each can be spoken of by
itself. -/
theorem attributesBytes_eq (annotations : List String) (slots : List (List String)) :
    attributesBytes annotations slots = do
      let own ← optional annotations.isEmpty
        (attributeBytes "RuntimeVisibleAnnotations" (annotationsBytes annotations))
      let ofParameters ← optional slots.isEmpty
        (attributeBytes "RuntimeVisibleParameterAnnotations" (counted 1 annotationsBytes slots))
      let attributes := own ++ ofParameters
      return Bytes.ofNatBE 2 attributes.length ++ attributes.flatten := by
  unfold attributesBytes optional
  cases annotations.isEmpty <;> cases slots.isEmpty <;> rfl

/-- At most one attribute, read to some that have the property. -/
def ReadsOptional (pool : ConstantPool) (parts : List Bytes) (P : List Attribute → Prop) : Prop :=
  parts.length ≤ 1 ∧ ∀ depth, 2 ≤ depth →
    Reads (Reader.times (Attribute.read pool none depth) parts.length) parts.flatten P

/-- An attribute that is absent where there is nothing to record, and is read by its content
where it is not. -/
theorem writes_optional {absent : Bool} {name : String} {content : StateM Pool Bytes}
    {readContent : Nat → Reader β} {make : β → Attribute} {R : Pool → β → Prop}
    {annotations : List String} {slots : List (List String)} (hname : Storable name)
    (hread : ReadsAttribute name readContent make)
    (hcontent : Writes content fun final bytes => ∀ depth, 1 ≤ depth →
      Reads (readContent depth) bytes (R final))
    (hrecords : ∀ final b, R final b → Records (constants final) annotations slots [make b])
    (habsent : absent = true → annotations = [] ∧ slots = []) :
    Writes (optional absent (attributeBytes name content)) fun final parts =>
      ReadsOptional (constants final) parts (Records (constants final) annotations slots) := by
  cases absent with
  | true =>
      obtain ⟨rfl, rfl⟩ := habsent rfl
      exact writes_pure fun final _ => ⟨by simp, fun _ _ => Reads.pure (records_nil _)⟩
  | false =>
      refine (writes_attributeBytes hname hcontent).bind_pure fun final _ _ hpart => ?_
      obtain ⟨index, content, rfl, hindex, hcontent⟩ := hpart
      refine ⟨by simp, fun depth hdepth => ?_⟩
      -- of a depth of two the attribute takes one, and an annotation inside it the other
      obtain ⟨depth, rfl⟩ := Nat.exists_eq_add_of_le' (Nat.le_of_succ_le hdepth)
      rw [List.flatten_singleton]
      refine (hread _ _ _ _ _ (hindex.mono fun _ hi => hi.utf8_eq)
        (hcontent depth (by omega))).bind_pure ?_
      rintro _ ⟨b, hb, rfl⟩
      exact hrecords final b hb

/-- **The annotations** of a class or a member, and of its parameters. -/
theorem writes_attributesBytes {annotations : List String} {slots : List (List String)}
    (hannotations : AnnotationNames annotations) (hslots : SlotNames slots) :
    Writes (attributesBytes annotations slots) fun final bytes =>
      Reads (Attribute.readList (constants final)) bytes
        (Records (constants final) annotations slots) := by
  rw [attributesBytes_eq]
  refine (writes_optional storable_attributeNames.1 readsAttribute_annotations
    (writes_annotationsBytes hannotations) (fun _ _ => records_annotations hannotations)
    fun h => ⟨List.isEmpty_iff.mp h, rfl⟩).bind fun own => ?_
  refine (writes_optional storable_attributeNames.2 readsAttribute_parameterAnnotations
    (writes_slotsBytes hslots) (fun _ _ => records_parameterAnnotations hslots)
    fun h => ⟨rfl, List.isEmpty_iff.mp h⟩).bind_pure
      fun final _ ofParameters hparameters hown => ?_
  obtain ⟨hlength, hown⟩ := hown
  obtain ⟨hlength', hparameters⟩ := hparameters
  refine reads_readList (Bytes.length_ofNatBE 2 _) fun depth hdepth => ?_
  rw [List.length_append, List.flatten_append]
  refine (Reads.u2 (by omega)).bind ?_
  rintro _ rfl
  refine Reads.times_append (hown depth hdepth) (hparameters depth hdepth) fun as bs has hbs => ?_
  simpa using has.append hbs

end ClassFile.Written

end Classpath
