import Mathlib.Tactic.Ring
import Classpath.ClassFile.Declared
import Classpath.Proofs.ClassFiles
import Classpath.Proofs.TextCoding

/-!
# Reading Class Files from the Front

A reader of class files takes what it needs from the front of some bytes. `Reads read bytes P`
says that it takes exactly `bytes`, whatever follows them, and that the value it comes to has
the property `P`. A property and not a value, since a reader of attributes also asks how many
bytes are left: it is allowed a depth that depends on what follows, and only what it finds does
not.

Readers that run one after another take bytes that stand one behind the other (`Reads.bind`);
so what a class file is read to follows from what its parts are read to, in the order in which
they are written.

## Main results

* `Bytes.toNatBE_ofNatBE`: a number is read back, up to the width of its field.
* `Reads.bind`, `Reads.times`, `Reads.list`: readers one after another.
* `readsAttribute_annotations`, `readsAttribute_parameterAnnotations`: the attributes that count.
* `readField_of_readMethod`: a field is read as a method is, if its descriptor passes the check.
-/

namespace Classpath

/-! ### Numbers -/

namespace Bytes

/-- The bytes of a number, read behind those of another one. -/
theorem foldl_ofNatBE (width n front : Nat) :
    (ofNatBE width n).foldl (fun m b => 256 * m + b.toNat) front =
      front * 256 ^ width + n % 256 ^ width := by
  induction width generalizing front with
  | zero => simp [ofNatBE, Nat.mod_one]
  | succ width ih =>
      have hbyte : (UInt8.ofNat (n >>> (8 * width))).toNat = n / 256 ^ width % 256 := by
        rw [UInt8.toNat_ofNat', Nat.shiftRight_eq_div_pow, Nat.pow_mul]
      rw [ofNatBE, List.foldl_cons, ih, hbyte, Nat.mod_pow_succ, Nat.pow_succ]
      ring

/-- A number is read back, up to the width of its field. -/
theorem toNatBE_ofNatBE (width n : Nat) : toNatBE (ofNatBE width n) = n % 256 ^ width := by
  rw [toNatBE, foldl_ofNatBE, Nat.zero_mul, Nat.zero_add]

end Bytes

namespace ClassFile

/-- The reader takes exactly these bytes, whatever follows them, and comes to a value with the
property. -/
def Reads {α : Type} (read : Reader α) (bytes : Bytes) (P : α → Prop) : Prop :=
  ∀ rest, ∃ a, P a ∧ read (bytes ++ rest) = .ok (a, rest)

namespace Reads

variable {α β : Type} {read : Reader α} {bytes : Bytes} {P Q : α → Prop}

theorem mono (h : Reads read bytes P) (himp : ∀ a, P a → Q a) : Reads read bytes Q := by
  intro rest
  obtain ⟨a, ha, hread⟩ := h rest
  exact ⟨a, himp a ha, hread⟩

theorem pure {a : α} (ha : P a) : Reads (Pure.pure a) [] P := fun _ => ⟨a, ha, rfl⟩

/-- A reader and one that goes on from its value, on bytes one behind the other. -/
theorem bind {next : α → Reader β} {back : Bytes} {R : β → Prop} (h : Reads read bytes P)
    (hnext : ∀ a, P a → Reads (next a) back R) : Reads (read >>= next) (bytes ++ back) R := by
  intro rest
  obtain ⟨a, ha, hread⟩ := h (back ++ rest)
  obtain ⟨b, hb, hnext⟩ := hnext a ha rest
  refine ⟨b, hb, Reader.bind_eq_ok_iff.mpr ⟨a, back ++ rest, ?_, hnext⟩⟩
  rw [List.append_assoc, hread]

/-- A reader and one that takes nothing more. -/
theorem bind_nil {next : α → Reader β} {R : β → Prop} (h : Reads read bytes P)
    (hnext : ∀ a, P a → Reads (next a) [] R) : Reads (read >>= next) bytes R := by
  rw [← List.append_nil bytes]
  exact h.bind hnext

/-- A reader and the value made from its own. -/
theorem bind_pure {f : α → β} {R : β → Prop} (h : Reads read bytes P)
    (hf : ∀ a, P a → R (f a)) : Reads (read >>= fun a => Pure.pure (f a)) bytes R :=
  h.bind_nil fun a ha => pure (hf a ha)

/-! ### Numbers and bytes -/

/-- **A number** that is written with so many bytes is read back, without the bits that have no
room. -/
theorem number (width n : Nat) :
    Reads (Reader.number width) (Bytes.ofNatBE width n) (· = n % 256 ^ width) := by
  intro rest
  refine ⟨_, Bytes.toNatBE_ofNatBE width n, ?_⟩
  have hread := Reader.number_append (Bytes.ofNatBE width n) rest
  rwa [Bytes.length_ofNatBE] at hread

/-- A number that fits its field of two bytes. -/
theorem u2 {n : Nat} (hn : n < 65536) : Reads Reader.u2 (Bytes.ofNatBE 2 n) (· = n) :=
  (number 2 n).mono fun m hm => by omega

/-- Bytes are read back as they are, if their number is known. -/
theorem content (content : Bytes) : Reads (Reader.bytes content.length) content (· = content) :=
  fun rest => ⟨content, rfl, Reader.bytes_append content rest⟩

/-! ### Lists -/

variable {ι : Type} {R : ι → α → Prop}

/-- As many values as there are parts, one after another. -/
theorem times {items : List ι} {parts : List Bytes}
    (h : List.Forall₂ (fun i part => Reads read part (R i)) items parts) :
    Reads (Reader.times read items.length) parts.flatten (List.Forall₂ R items) := by
  induction h with
  | nil => exact pure List.Forall₂.nil
  | cons hhead _ ih =>
      rw [List.flatten_cons]
      exact hhead.bind fun a ha => ih.bind_pure fun as has => List.Forall₂.cons ha has

/-- Values one after another are so many, and then the others. -/
theorem times_add (n m : Nat) : Reader.times read (n + m) = do
    let front ← Reader.times read n
    let back ← Reader.times read m
    return front ++ back := by
  induction n with
  | zero => simp [Reader.times]
  | succ n ih => simp [Nat.succ_add, Reader.times, ih]

/-- Two runs of elements are read one behind the other, and what is known of both is known of all.
-/
theorem times_append {n m : Nat} {back : Bytes} {P Q R : List α → Prop}
    (h : Reads (Reader.times read n) bytes P) (h' : Reads (Reader.times read m) back Q)
    (happend : ∀ as bs, P as → Q bs → R (as ++ bs)) :
    Reads (Reader.times read (n + m)) (bytes ++ back) R := by
  rw [times_add]
  exact h.bind fun as has => h'.bind_pure fun bs hbs => happend as bs has hbs

/-- A count of two bytes and that many values. -/
theorem list {items : List ι} {parts : List Bytes} (hlength : items.length < 65536)
    (h : List.Forall₂ (fun i part => Reads read part (R i)) items parts) :
    Reads (Reader.list read) (Bytes.ofNatBE 2 items.length ++ parts.flatten)
      (List.Forall₂ R items) := by
  refine (u2 hlength).bind ?_
  rintro _ rfl
  exact times h

/-- A count of two bytes and nothing to pass over. -/
theorem skipList_zero : Reads (Reader.skipList read) (Bytes.ofNatBE 2 0) fun _ => True := by
  refine (u2 (n := 0) (by omega)).bind_nil ?_
  rintro _ rfl
  exact pure trivial

/-! ### Annotations -/

/-- An annotation without elements. -/
theorem annotationType {depth : Nat} {index : Bytes} {P : Nat → Prop} (hdepth : 1 ≤ depth)
    (h : Reads Reader.u2 index P) :
    Reads (Attribute.annotationType depth) (index ++ Bytes.ofNatBE 2 0) P := by
  obtain ⟨depth, rfl⟩ := Nat.exists_eq_add_of_le' hdepth
  rw [Attribute.annotationType]
  exact h.bind fun _ htype => skipList_zero.bind_pure fun _ _ => htype

end Reads

/-! ### Attributes -/

/-- Attributes of the name are read as `make` of their content; the reader of the content is
told the depth that is left. -/
def ReadsAttribute {β : Type} (name : String) (readContent : Nat → Reader β)
    (make : β → Attribute) : Prop :=
  ∀ (pool : ConstantPool) (depth : Nat) (index content : Bytes) (P : β → Prop),
    Reads Reader.u2 index (fun i => pool.utf8 i = .ok name) →
    Reads (readContent depth) content P →
    Reads (Attribute.read pool none (depth + 1))
      (index ++ (Bytes.ofNatBE 4 content.length ++ content)) fun a => ∃ b, P b ∧ a = make b

/-- The attribute with the annotations of a class or member is read by its content. -/
theorem readsAttribute_annotations : ReadsAttribute "RuntimeVisibleAnnotations"
    Attribute.readAnnotations Attribute.visibleAnnotations := by
  intro pool depth index content P hindex hcontent
  rw [Attribute.read]
  refine hindex.bind fun i hi => ?_
  simp only [hi]
  refine (Reads.number 4 _).bind fun length _ => ?_
  exact hcontent.bind_pure fun types htypes => ⟨types, htypes, rfl⟩

/-- So is the one with the annotations of parameters. -/
theorem readsAttribute_parameterAnnotations : ReadsAttribute "RuntimeVisibleParameterAnnotations"
    Attribute.readParameterAnnotations Attribute.visibleParameterAnnotations := by
  intro pool depth index content P hindex hcontent
  rw [Attribute.read]
  refine hindex.bind fun i hi => ?_
  simp only [hi]
  refine (Reads.number 4 _).bind fun length _ => ?_
  exact hcontent.bind_pure fun slots hslots => ⟨slots, hslots, rfl⟩

/-- The attributes of a class or a member. The count alone takes two bytes, so the depth that
is allowed for is two at least. -/
theorem reads_readList {pool : ConstantPool} {count bytes : Bytes} {P : List Attribute → Prop}
    (hcount : count.length = 2)
    (h : ∀ depth, 2 ≤ depth →
      Reads (Reader.list (Attribute.read pool none depth)) (count ++ bytes) P) :
    Reads (Attribute.readList pool) (count ++ bytes) P := by
  intro rest
  obtain ⟨as, has, hread⟩ := h (count ++ bytes ++ rest).length (by simp; omega) rest
  exact ⟨as, has, hread⟩

/-! ### Members -/

/-- A member that is read as a method is read as a field, if its descriptor passes the check. -/
theorem readField_of_readMethod {pool : ConstantPool} {input rest : Bytes} {m : Member}
    {descriptor : String} (h : readMethod pool input = .ok (m, rest))
    (hdescriptor : pool.utf8 m.descriptorIndex = .ok descriptor)
    (hcheck : checkFieldDescriptor descriptor.toList = .ok ()) :
    readField pool input = .ok (m, rest) := by
  obtain ⟨access, rest₁, haccess, h⟩ := Reader.bind_eq_ok_iff.mp h
  obtain ⟨nameIndex, rest₂, hname, h⟩ := Reader.bind_eq_ok_iff.mp h
  obtain ⟨descriptorIndex, rest₃, hindex, h⟩ := Reader.bind_eq_ok_iff.mp h
  obtain ⟨attributes, rest₄, hattributes, h⟩ := Reader.bind_eq_ok_iff.mp h
  cases h
  refine Reader.bind_eq_ok_iff.mpr ⟨access, rest₁, haccess, ?_⟩
  refine Reader.bind_eq_ok_iff.mpr ⟨nameIndex, rest₂, hname, ?_⟩
  refine Reader.bind_eq_ok_iff.mpr ⟨descriptorIndex, rest₃, hindex, ?_⟩
  simp only [hdescriptor, hcheck]
  exact Reader.bind_eq_ok_iff.mpr ⟨attributes, rest, hattributes, rfl⟩

/-! ### Field descriptors -/

/-- The type names every class it is about. -/
def FieldType.Named : FieldType → Prop
  | .base _ => True
  | .object internal => internal ≠ ""
  | .array component => component.Named

/-- The spelling of a type passes the check of a field's descriptor. -/
theorem checkFieldDescriptor_encode {t : FieldType} (h : t.Named) :
    checkFieldDescriptor t.encode = .ok () := by
  induction t with
  | base b => cases b <;> rfl
  | object internal =>
      obtain ⟨c, cs, hcs⟩ := List.exists_cons_of_ne_nil
        (fun hnil => h (String.toList_eq_nil_iff.mp hnil))
      have hlast : (c :: (cs ++ [';'])).getLast? = some ';' := by
        rw [← List.cons_append, List.getLast?_concat]
      rw [FieldType.encode, hcs]
      simp [checkFieldDescriptor, hlast]
  | array component ih => exact ih h

end ClassFile

end Classpath
