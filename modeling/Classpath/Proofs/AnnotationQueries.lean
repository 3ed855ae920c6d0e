import Classpath.Proofs.Agreement
import Classpath.Proofs.ClassFiles
import Classpath.Proofs.Collection

/-!
# What Queries for Annotations Find

A query for annotated members asks the declarations of the index first and the members of the
resolved types after. Both see the same classes, since index and resolution agree, so nothing
is lost on the way: a member that a declaration of the index has comes first among the members
of its type, and its own annotations are looked at. And nothing is made up: whatever is found
is a public member of the class in the file that its declaring type is read from.

Both directions need that a class has one method of each signature and one field of each name:
members are looked up by these.

## Main results

* `ClassIndex.Consistent.exists_type`: the type of an indexed declaration.
* `ClassIndex.Consistent.findsMembers`, `ClassIndex.Consistent.mem_types_iff`: what queries for
  members and for types find.
* `ClassIndex.annotations_sound_complete`: the queries for annotations.
-/

namespace Classpath

variable {α : Type} {d : Disk} {F : Loaders} {c : Chain} {f : Filter} {l₀ : Linkage}

/-! ### Members of a class -/

/-- A class has one field of each name and one method of each name and descriptor. -/
structure ClassDecl.Distinct (decl : ClassDecl) : Prop where
  fields : (decl.fields.map (·.name)).Nodup
  methods : (decl.methods.map fun m => (m.name, m.descriptor)).Nodup

instance (decl : ClassDecl) : Decidable decl.Distinct :=
  decidable_of_iff ((decl.fields.map (·.name)).Nodup ∧
      (decl.methods.map fun m => (m.name, m.descriptor)).Nodup)
    ⟨fun h => ⟨h.1, h.2⟩, fun h => ⟨h.1, h.2⟩⟩

/-- In a class without repetitions, a method is found by its name and descriptor. -/
theorem ClassDecl.Distinct.find?_method {decl : ClassDecl} (h : decl.Distinct) {m : MethodDecl}
    (hm : m ∈ decl.methods) :
    decl.methods.find? (fun n => n.name = m.name && n.descriptor = m.descriptor) = some m := by
  cases hfind : decl.methods.find? (fun n => n.name = m.name && n.descriptor = m.descriptor) with
  | none => simpa using List.find?_eq_none.mp hfind m hm
  | some n =>
      have hn := List.mem_of_find?_eq_some hfind
      have hsame := List.find?_some hfind
      simp only [Bool.and_eq_true, decide_eq_true_eq] at hsame
      rw [List.inj_on_of_nodup_map h.methods hn hm (by simp [hsame])]

/-- In a class without repetitions, a field is told apart by its name. -/
theorem ClassDecl.Distinct.field_eq {decl : ClassDecl} (h : decl.Distinct) {g g' : FieldDecl}
    (hg : g ∈ decl.fields) (hg' : g' ∈ decl.fields) (hname : g.name = g'.name) : g = g' :=
  List.inj_on_of_nodup_map h.fields hg hg' hname

/-- The methods of a supertype are those of its declaration that it offers, as references to it. -/
theorem Supertype.mem_methods {s : Supertype} {m : MethodRef} :
    m ∈ s.methods ↔ ∃ decl ∈ s.cls.decl.methods, s.offers decl = true ∧
      m = ⟨s.type.name, decl.name, decl.descriptor, s.type.scope⟩ := by
  unfold Supertype.methods
  simp only [List.mem_map, List.mem_filter, and_assoc, eq_comm]

/-- The fields of a supertype are the public ones of its declaration, as references to it. -/
theorem Supertype.mem_fields {s : Supertype} {g : FieldRef} :
    g ∈ s.fields ↔ ∃ decl ∈ s.cls.decl.fields, decl.isPublic = true ∧
      g = ⟨s.type.name, decl.name, decl.descriptor, s.type.scope⟩ := by
  unfold Supertype.fields
  simp only [List.mem_map, List.mem_filter, and_assoc, eq_comm]

/-- The methods that a class without repetitions offers differ in their signatures. -/
theorem Supertype.nodup_signatures {s : Supertype} (h : s.cls.decl.Distinct) :
    (s.methods.map (·.signature)).Nodup := by
  unfold Supertype.methods
  rw [List.map_map]
  exact h.methods.sublist ((List.filter_sublist).map _)

/-! ### Hidden methods -/

/-- To leave out what is hidden brings in nothing. -/
theorem mem_of_mem_firstOfSignature {seen : List (String × String)} {ms : List MethodRef}
    {m : MethodRef} (h : m ∈ firstOfSignature seen ms) : m ∈ ms := by
  induction ms generalizing seen with
  | nil => cases h
  | cons n ms ih =>
      unfold firstOfSignature at h
      split at h
      · exact List.mem_cons_of_mem _ (ih h)
      · obtain rfl | h := List.mem_cons.mp h
        · exact List.mem_cons_self
        · exact List.mem_cons_of_mem _ (ih h)

/-- Methods at the front with different signatures are not hidden. -/
theorem mem_firstOfSignature_of_nodup {seen : List (String × String)}
    {front back : List MethodRef} (hnodup : (front.map (·.signature)).Nodup)
    (hseen : ∀ m ∈ front, m.signature ∉ seen) {m : MethodRef} (hm : m ∈ front) :
    m ∈ firstOfSignature seen (front ++ back) := by
  induction front generalizing seen with
  | nil => cases hm
  | cons n front ih =>
      rw [List.map_cons, List.nodup_cons] at hnodup
      obtain ⟨hn, hrest⟩ := List.forall_mem_cons.mp hseen
      rw [List.cons_append]
      unfold firstOfSignature
      rw [if_neg (by simpa using hn)]
      obtain rfl | hm := List.mem_cons.mp hm
      · exact List.mem_cons_self
      · refine List.mem_cons_of_mem _ (ih hnodup.2 (fun k hk hmem => ?_) hm)
        obtain heq | hmem := List.mem_cons.mp hmem
        · exact hnodup.1 (List.mem_map.mpr ⟨k, hk, heq⟩)
        · exact hrest k hk hmem

/-! ### Members in class files -/

/-- The class file that defines a type, through some loader of a chain, has this declaration. -/
def Chain.Defines (d : Disk) (c : Chain) (t : TypeRef) (decl : ClassDecl) : Prop :=
  ∃ p ∈ c.chains, p.scope = t.scope ∧ ∃ bytes,
    p.loader.classBytes? d t.name = .ok (some bytes) ∧ ClassDecl.ofBytes bytes = .ok decl ∧
      decl.name = t.name

/-- The declaration is that of the class that was read. -/
theorem Chain.defines_iff (hc : c ∈ F.made) {t : TypeRef} {decl : ClassDecl} :
    c.Defines d t decl ↔
      ∃ cls : DefinedClass, cls.IsRead d F t.scope t.name ∧ cls.chain ∈ c.chains ∧
        cls.decl = decl := by
  constructor
  · rintro ⟨p, hp, hscope, bytes, hbytes, hdecl, hname⟩
    refine ⟨⟨decl, p⟩, ⟨F.mem_of_mem_chains hc hp, hscope, ?_⟩, hp, rfl⟩
    exact Linkage.own?_empty_eq_some_iff.mpr ⟨bytes, decl, hbytes, hdecl, hname, rfl⟩
  · rintro ⟨⟨decl', p⟩, ⟨-, hscope, hown⟩, hp, rfl⟩
    obtain ⟨bytes, decl', hbytes, hdecl, hname, heq⟩ := Linkage.own?_empty_eq_some_iff.mp hown
    cases heq
    exact ⟨p, hp, hscope, bytes, hbytes, hdecl, hname⟩

/-- One class file defines a type. -/
theorem Chain.Defines.unique (hc : c ∈ F.made) {t : TypeRef} {decl decl' : ClassDecl}
    (h : c.Defines d t decl) (h' : c.Defines d t decl') : decl = decl' := by
  obtain ⟨cls, hcls, -, rfl⟩ := (Chain.defines_iff hc).mp h
  obtain ⟨cls', hcls', -, rfl⟩ := (Chain.defines_iff hc).mp h'
  rw [hcls.unique hcls']

/-- A supertype that loaders of the chain define is defined by the class file that its class was
read from. -/
theorem Supertype.From.defines (hc : c ∈ F.made) {s : Supertype}
    (h : s.From d F (· ∈ c.chains)) : c.Defines d s.type s.cls.decl :=
  (Chain.defines_iff hc).mpr ⟨s.cls, h.1, h.2, rfl⟩

/-- A kind of members: where a class declares them, which of them its users see, and how they
are referred to. -/
structure MemberKind (δ α : Type) where
  declared : ClassDecl → List δ
  visible : δ → Bool
  ref : TypeRef → δ → α

/-- Methods, of which the public ones are seen that are no initialisers. -/
def MemberKind.method : MemberKind MethodDecl MethodRef where
  declared := ClassDecl.methods
  visible m := m.isPublic && !m.isInitializer
  ref t m := ⟨t.name, m.name, m.descriptor, t.scope⟩

/-- Fields, of which the public ones are seen. -/
def MemberKind.field : MemberKind FieldDecl FieldRef where
  declared := ClassDecl.fields
  visible := FieldDecl.isPublic
  ref t g := ⟨t.name, g.name, g.descriptor, t.scope⟩

section Members

variable {δ : Type} {k : MemberKind δ α} {carries : δ → Bool}

/-- A reference is to this member of the class file that defines its type. -/
def MemberKind.Refers (k : MemberKind δ α) (d : Disk) (c : Chain) (a : α) (m : δ) : Prop :=
  ∃ t decl, c.Defines d t decl ∧ m ∈ k.declared decl ∧ a = k.ref t m

/-- What is listed for a type: members of class files that are seen, its own among them. -/
structure MemberKind.Listing (k : MemberKind δ α) (d : Disk) (c : Chain) (t : TypeRef)
    (all : List α) : Prop where
  sound : ∀ a ∈ all, ∃ m, k.Refers d c a m ∧ k.visible m = true
  own : ∀ decl, c.Defines d t decl → ∀ m ∈ k.declared decl, k.visible m = true →
    k.ref t m ∈ all

/-- The answer to whether a member satisfies a condition. -/
def MemberKind.Answer (k : MemberKind δ α) (d : Disk) (c : Chain) (carries : δ → Bool) (a : α)
    (b : Bool) : Prop :=
  ∀ m, k.Refers d c a m → b = carries m

/-- No class file that the loaders of a chain define a type from has a member twice. -/
def Chain.Distinct (d : Disk) (c : Chain) : Prop :=
  ∀ t decl, c.Defines d t decl → decl.Distinct

/-- It is enough if no class file on the disk has a member twice. -/
theorem Chain.distinct_of_classFiles
    (h : ∀ bytes ∈ d.classFiles, ∀ decl ∈ (ClassDecl.ofBytes bytes).toOption, decl.Distinct) :
    c.Distinct d := by
  rintro t decl ⟨p, -, -, bytes, hbytes, hdecl, -⟩
  exact h bytes (ClassDecl.mem_classFiles hbytes hdecl) decl (toOption_eq_some_iff.mpr hdecl)

/-- **The methods of a type** are members of class files that users see, its own among them. -/
theorem adds_methods_listing (hl₀ : l₀.Faithful d F) (hc : c ∈ F.made) (hdistinct : c.Distinct d)
    {t : TypeRef} (ht : t.From d F (· ∈ c.chains)) :
    Adds d F l₀ (methods d t) (MemberKind.method.Listing d c t) := by
  refine (adds_methods hl₀ c.upward_chains ht).mono fun all hall => ?_
  obtain ⟨ss, rfl, hss, cls, rest, rfl⟩ := hall
  refine ⟨fun a ha => ?_, fun decl hdecl m hm hvisible => ?_⟩
  · obtain ⟨s, hs, ha⟩ := List.mem_flatMap.mp (mem_of_mem_firstOfSignature ha)
    obtain ⟨m, hm, hoffers, rfl⟩ := Supertype.mem_methods.mp ha
    refine ⟨m, ⟨s.type, s.cls.decl, (hss s hs).defines hc, hm, rfl⟩, ?_⟩
    unfold Supertype.offers at hoffers
    rw [Bool.and_eq_true] at hoffers
    exact hoffers.1
  · -- the methods of the type itself come first, so nothing hides them
    have hfirst := hss _ List.mem_cons_self
    have heq : decl = cls.decl := hdecl.unique hc (hfirst.defines hc)
    subst heq
    rw [List.flatMap_cons]
    refine mem_firstOfSignature_of_nodup (Supertype.nodup_signatures (hdistinct t _ hdecl))
      (by simp) (Supertype.mem_methods.mpr ⟨m, hm, ?_, rfl⟩)
    unfold Supertype.offers
    rw [show (m.isPublic && !m.isInitializer) = true from hvisible]
    rfl

/-- **The fields of a type** are, too. -/
theorem adds_fields_listing (hl₀ : l₀.Faithful d F) (hc : c ∈ F.made) {t : TypeRef}
    (ht : t.From d F (· ∈ c.chains)) :
    Adds d F l₀ (fields d t) (MemberKind.field.Listing d c t) := by
  refine (adds_fields hl₀ c.upward_chains ht).mono fun all hall => ?_
  obtain ⟨ss, rfl, hss, cls, rest, rfl⟩ := hall
  refine ⟨fun a ha => ?_, fun decl hdecl g hg hvisible => ?_⟩
  · obtain ⟨s, hs, ha⟩ := List.mem_flatMap.mp ha
    obtain ⟨g, hg, hpublic, rfl⟩ := Supertype.mem_fields.mp ha
    exact ⟨g, ⟨s.type, s.cls.decl, (hss s hs).defines hc, hg, rfl⟩, hpublic⟩
  · have hfirst := hss _ List.mem_cons_self
    have heq : decl = cls.decl := hdecl.unique hc (hfirst.defines hc)
    subst heq
    exact List.mem_flatMap.mpr
      ⟨_, List.mem_cons_self, Supertype.mem_fields.mpr ⟨g, hg, hvisible, rfl⟩⟩

/-- The declaration that a method is looked up as is the one it refers to. -/
theorem Chain.Distinct.methodDecl_eq (hdistinct : c.Distinct d) (hc : c ∈ F.made) {m : MethodRef}
    {cls : DefinedClass} {decl decl' : MethodDecl} (hcls : cls.IsRead d F m.scope m.declaring)
    (hfind : cls.decl.methods.find?
      (fun n => n.name = m.name && n.descriptor = m.descriptor) = some decl)
    (hrefers : MemberKind.method.Refers d c m decl') : decl = decl' := by
  obtain ⟨t, declaring, hdefines, hdecl', rfl⟩ := hrefers
  obtain ⟨cls', hcls', -, rfl⟩ := (Chain.defines_iff hc).mp hdefines
  obtain rfl := hcls.unique hcls'
  have hfind' := (hdistinct t _ hdefines).find?_method hdecl'
  exact Option.some.inj (hfind.symm.trans hfind')

/-- Whether a method is annotated is answered by its declaration in the class file. -/
theorem adds_isMethodAnnotated_answer (hl₀ : l₀.Faithful d F) (hc : c ∈ F.made)
    (hdistinct : c.Distinct d) (name : String) (m : MethodRef) :
    Adds d F l₀ (isMethodAnnotated m name)
      (MemberKind.method.Answer d c (·.annotations.contains name) m) := by
  refine (adds_isMethodAnnotated hl₀ m name).mono fun b hb decl' hrefers => ?_
  obtain ⟨cls, decl, hcls, hfind, rfl⟩ := hb
  rw [hdistinct.methodDecl_eq hc hcls hfind hrefers]

/-- Whether a parameter of a method is annotated is answered by the same declaration. -/
theorem adds_parameterAnnotations_answer (hl₀ : l₀.Faithful d F) (hc : c ∈ F.made)
    (hdistinct : c.Distinct d) (name : String) (m : MethodRef) :
    Adds d F l₀ (do return (← parameterAnnotations m).any (·.contains name))
      (MemberKind.method.Answer d c (·.parameterAnnotations.any (·.contains name)) m) := by
  refine adds_bind (adds_parameterAnnotations hl₀ m) fun slots hslots =>
    adds_pure fun decl' hrefers => ?_
  obtain ⟨cls, decl, hcls, hfind, rfl⟩ := hslots
  rw [hdistinct.methodDecl_eq hc hcls hfind hrefers]

/-- Whether a field is annotated is answered by its declaration, if the class has one field of each
name. -/
theorem adds_isFieldAnnotated_answer (hl₀ : l₀.Faithful d F) (hc : c ∈ F.made)
    (hdistinct : c.Distinct d) (name : String) (g : FieldRef) :
    Adds d F l₀ (isFieldAnnotated g name)
      (MemberKind.field.Answer d c (·.annotations.contains name) g) := by
  refine (adds_isFieldAnnotated hl₀ g name).mono fun b hb decl hrefers => ?_
  obtain ⟨cls, hcls, rfl⟩ := hb
  obtain ⟨t, declaring, hdefines, hdecl, rfl⟩ := hrefers
  obtain ⟨cls', hcls', -, rfl⟩ := (Chain.defines_iff hc).mp hdefines
  obtain rfl := hcls.unique hcls'
  rw [Bool.eq_iff_iff, List.any_eq_true]
  constructor
  · rintro ⟨g', hg', hsame⟩
    rw [Bool.and_eq_true, beq_iff_eq] at hsame
    rw [← (hdistinct t _ hdefines).field_eq hg' hdecl hsame.1]
    exact hsame.2
  · intro hcarries
    exact ⟨decl, hdecl, by simpa [MemberKind.field] using hcarries⟩

end Members

namespace ClassIndex

variable {i : ClassIndex}

/-! ### Queries for members -/

/-- An index with which resolution agrees: it was built from the loaders of a chain, what its
resources hold is named after them, and no archive comes in between. -/
structure Consistent (d : Disk) (F : Loaders) (c : Chain) (f : Filter) (i : ClassIndex) :
    Prop where
  made : c ∈ F.made
  built : i.Built d c f
  regular : c.Regular d f
  named : ∀ e ∈ i.decls, ClassFile.resourceName e.2.name = e.1 ∧ "" ∉ Text.split '/' e.1
  lists : ∀ e ∈ i.decls, c.Lists d e.1

/-- **The type of an indexed class**, and the root that leads to it. -/
theorem Consistent.exists_type (h : i.Consistent d F c f) {e : String × ClassDecl}
    (he : e ∈ i.decls) :
    ∃ r, i.Holds r e.1 e.2 ∧ r.chain ∈ c.chains ∧ ({} : Linkage).class? d e.2.name r.chain =
      .ok (some (⟨e.2.name, r.scope⟩, ⟨e.2, r.chain⟩)) := by
  have hmade := h.built.made h.made
  obtain ⟨hname, hsegments⟩ := h.named e he
  obtain ⟨r, hr, -, hclass⟩ := class?_of_decl h.made h.built h.regular
    (hmade.mem_decls_iff.mp he) hname hsegments (h.lists e he)
  exact ⟨r, hr, h.built.chain_eq ▸ hmade.roots_spec.2 r hr.mem_roots, hclass⟩

section Members

variable {δ : Type} {k : MemberKind δ α} {carries : δ → Bool}
  {members : TypeRef → Linked (List α)}

/-- What asking for the members of one declaration yields: those listed for its type that
satisfy the condition. -/
def AnswersMembers (k : MemberKind δ α) (d : Disk) (F : Loaders) (c : Chain) (l₀ : Linkage)
    (members : TypeRef → Linked (List α)) (carries : δ → Bool) (q : Chain) (decl : ClassDecl)
    (as : List α) : Prop :=
  ((k.declared decl).any carries = false ∧ as = []) ∨
    (k.declared decl).any carries = true ∧
      ∃ t cls all l l', l₀.class? d decl.name q = .ok (some (t, cls)) ∧ l₀.Grows d F l ∧
        Runs (members t) l all l' ∧ k.Listing d c t all ∧
        (∀ a ∈ as, a ∈ all ∧ k.Answer d c carries a true) ∧
        ∀ a ∈ all, a ∈ as ∨ k.Answer d c carries a false

/-- What a matcher for members comes to at one declaration, from what listing members and testing
each of them come to. -/
theorem adds_membersWhere (hl₀ : l₀.Faithful d F) (hc : c ∈ F.made) {q : Chain}
    (hq : q ∈ c.chains) {mayHave : ClassDecl → Bool}
    (hmay : ∀ decl, mayHave decl = (k.declared decl).any carries) {holds : α → Linked Bool}
    (hmembers : ∀ t : TypeRef, t.From d F (· ∈ c.chains) →
      Adds d F l₀ (members t) (k.Listing d c t))
    (hholds : ∀ a, Adds d F l₀ (holds a) (k.Answer d c carries a)) (decl : ClassDecl) :
    Adds d F l₀ (membersWhere d mayHave members holds q decl)
      (AnswersMembers k d F c l₀ members carries q decl) := by
  have hqmade := F.mem_of_mem_chains hc hq
  unfold membersWhere
  rw [hmay]
  split
  · rename_i hnot
    refine adds_pure (Or.inl ⟨?_, rfl⟩)
    simpa using hnot
  · rename_i hmay'
    refine adds_bind (adds_lift (adds_resolve hqmade)) fun t ht => ?_
    obtain ⟨cls, hcls⟩ := ht
    have hfrom : t.From d F (· ∈ c.chains) :=
      from_of_class? c.upward_chains hqmade hq (hl₀.class?_eq hqmade ▸ hcls)
    refine adds_bind (adds_lift (hmembers t hfrom).with_run) fun all hall => ?_
    obtain ⟨hlisting, l, l', hl, hrun⟩ := hall
    refine (adds_filterM fun a _ => adds_lift (hholds a)).mono fun as has => ?_
    exact Or.inr ⟨by simpa using hmay', t, cls, all, l, l', hcls, hl, hrun, hlisting, has⟩

/-- **What a query for members finds** is what there is: every member that a declaration of
the index has and that satisfies the condition, and only members of class files that do, each
of them listed for the type of some class of the index. -/
structure FindsMembers (i : ClassIndex) (k : MemberKind δ α) (d : Disk) (F : Loaders) (c : Chain)
    (l : Linkage) (members : TypeRef → Linked (List α)) (carries : δ → Bool) (found : List α) :
    Prop where
  complete : ∀ e ∈ i.decls, ∀ m ∈ k.declared e.2, k.visible m = true → carries m = true →
    ∃ t l', Runs (resolve d e.2.name c) l t l' ∧ k.ref t m ∈ found
  sound : ∀ a ∈ found, ∃ m, k.Refers d c a m ∧ k.visible m = true ∧ carries m = true
  listed : ∀ a ∈ found, ∃ e ∈ i.decls, (k.declared e.2).any carries = true ∧
    ∃ t l', Runs (resolve d e.2.name c) l t l' ∧
      ∃ all m m', l.Grows d F m ∧ Runs (members t) m all m' ∧ a ∈ all

/-- **A query for members** that succeeds finds what there is. -/
theorem Consistent.findsMembers [DecidableEq α] (h : i.Consistent d F c f)
    (hl₀ : l₀.Faithful d F) {mayHave : ClassDecl → Bool}
    (hmay : ∀ decl, mayHave decl = (k.declared decl).any carries) {holds : α → Linked Bool}
    (hmembers : ∀ t : TypeRef, t.From d F (· ∈ c.chains) →
      Adds d F l₀ (members t) (k.Listing d c t))
    (hholds : ∀ a, Adds d F l₀ (holds a) (k.Answer d c carries a)) {found : List α} {l' : Linkage}
    (hrun : Runs (i.collect (membersWhere d mayHave members holds)) l₀ found l') :
    i.FindsMembers k d F c l₀ members carries found := by
  have hmade := h.built.made h.made
  have hchain : ∀ {r n decl}, i.Holds r n decl → r.chain ∈ c.chains := fun hr =>
    h.built.chain_eq ▸ hmade.roots_spec.2 _ hr.mem_roots
  have hfound : i.Gathers (AnswersMembers k d F c l₀ members carries) found :=
    ((adds_collect fun r n decl hr => adds_membersWhere hl₀ h.made (hchain hr) hmay hmembers
      hholds decl).of_runs (Linkage.Grows.refl ..) hrun).2
  constructor
  · intro e he m hm hvisible hcarries
    obtain ⟨r, hr, hrc, hclass⟩ := h.exists_type he
    have hrmade := F.mem_of_mem_chains h.made hrc
    have hdefines : c.Defines d ⟨e.2.name, r.scope⟩ e.2 :=
      (Chain.defines_iff h.made).mpr ⟨_, isRead_of_class? hrmade hclass, hrc, rfl⟩
    obtain ⟨as, has, hsub⟩ := hfound.complete r e.1 e.2 hr
    obtain ⟨hnone, -⟩ | ⟨-, t, cls, all, l, l', hcls, -, -, hlisting, -, hrest⟩ := has
    · rw [List.any_eq_false] at hnone
      exact absurd hcarries (hnone m hm)
    · rw [hl₀.class?_eq hrmade, hclass] at hcls
      cases hcls
      refine ⟨⟨e.2.name, r.scope⟩, _, runs_resolve_iff.mpr ⟨⟨e.2, r.chain⟩, ?_, rfl⟩, hsub ?_⟩
      · rw [hl₀.class?_eq h.made]
        exact Linkage.class?_of_mem_chains hrc hclass
      · -- the member is listed for its type, and the answer to it is not no
        have hmem := hlisting.own e.2 hdefines m hm hvisible
        refine (hrest _ hmem).resolve_right fun hfalse => ?_
        rw [← hfalse m ⟨_, _, hdefines, hm, rfl⟩] at hcarries
        cases hcarries
  · intro a ha
    obtain ⟨r, n, decl, as, hr, has, hmem⟩ := hfound.origin a ha
    obtain ⟨-, rfl⟩ | ⟨-, t, cls, all, l, l', -, -, -, hlisting, hsound, -⟩ := has
    · cases hmem
    · obtain ⟨hall, htrue⟩ := hsound a hmem
      obtain ⟨m, hrefers, hvisible⟩ := hlisting.sound a hall
      exact ⟨m, hrefers, hvisible, (htrue m hrefers).symm⟩
  · intro a ha
    obtain ⟨r, n, decl, as, hr, has, hmem⟩ := hfound.origin a ha
    obtain ⟨-, rfl⟩ | ⟨hany, t, cls, all, l, l', hcls, hgrows, hrun, -, hsound, -⟩ := has
    · cases hmem
    · have hfound := Linkage.class?_of_mem_chains (hchain hr) hcls
      exact ⟨(n, decl), hmade.mem_decls_iff.mpr hr.decl?_eq, hany, t, _,
        runs_resolve_iff.mpr ⟨cls, hfound, rfl⟩, all, l, l', hgrows, hrun, (hsound a hmem).1⟩

end Members

/-- **A query for types** that succeeds finds the types that resolution yields for the matching
declarations. -/
theorem Consistent.mem_types_iff (h : i.Consistent d F c f) (hl₀ : l₀.Faithful d F)
    {holds : ClassDecl → Bool} {ts : List TypeRef} {l' : Linkage}
    (hrun : Runs (i.collect (typeWhere d holds)) l₀ ts l') (t : TypeRef) :
    t ∈ ts ↔ ∃ e ∈ i.decls, holds e.2 = true ∧ ∃ l', Runs (resolve d e.2.name c) l₀ t l' := by
  have hmade := h.built.made h.made
  obtain ⟨-, -, -, hmem⟩ := (adds_collect_typeWhere hmade).of_runs (Linkage.Grows.refl ..) hrun
  rw [hmem]
  constructor
  · rintro ⟨r, n, decl, hr, hdecl, cls, hcls⟩
    have hrc := h.built.chain_eq ▸ hmade.roots_spec.2 r hr.mem_roots
    exact ⟨(n, decl), hmade.mem_decls_iff.mpr hr.decl?_eq, hdecl, _,
      runs_resolve_iff.mpr ⟨cls, Linkage.class?_of_mem_chains hrc hcls, rfl⟩⟩
  · rintro ⟨e, he, hdecl, l', hrun'⟩
    obtain ⟨r, hr, hrc, hclass⟩ := h.exists_type he
    obtain ⟨cls, hcls, -⟩ := runs_resolve_iff.mp hrun'
    rw [hl₀.class?_eq h.made, Linkage.class?_of_mem_chains hrc hclass] at hcls
    cases hcls
    refine ⟨r, e.1, e.2, hr, hdecl, ⟨e.2, r.chain⟩, ?_⟩
    rw [hl₀.class?_eq (F.mem_of_mem_chains h.made hrc)]
    exact hclass

/-! ### The queries for annotations -/

/-- **Queries for annotations are sound and complete.** Of an index with which resolution
agrees, and when no class file has a member twice, a query that succeeds finds the types of the
indexed classes that carry the annotation and no others; every member that such a class has and
that carries it; and only members that carry it in the class files of their types. -/
theorem annotations_sound_complete (hc : c ∈ F.made) {config : Config}
    (hi : build d c config = .ok i)
    (harchives : ∀ p ∈ c.chains, ∀ path ∈ p.loader.localPaths,
      d.isFile path = true → Root.isArchivePath path = true)
    (hprefixes : config.prefixes = [] ∨
      ∀ p ∈ c.chains, ∀ path ∈ p.loader.localPaths, d.isDirectory path = true)
    (hnamed : ∀ e ∈ i.decls, ClassFile.resourceName e.2.name = e.1 ∧ "" ∉ Text.split '/' e.1)
    (hlists : ∀ e ∈ i.decls, c.Lists d e.1) (hdistinct : c.Distinct d)
    {l : Linkage} (hl : l.Reached d F) (name : String) :
    (∀ ts l', Runs (i.annotatedTypes d name) l ts l' → ∀ t, t ∈ ts ↔
      ∃ e ∈ i.decls, e.2.isAnnotated name = true ∧ ∃ l', Runs (resolve d e.2.name c) l t l') ∧
    (∀ ms l', Runs (i.annotatedMethods d name) l ms l' →
      i.FindsMembers .method d F c l (methods d) (·.annotations.contains name) ms) ∧
    (∀ ms l', Runs (i.methodsWithAnnotatedParameter d name) l ms l' →
      i.FindsMembers .method d F c l (methods d)
        (·.parameterAnnotations.any (·.contains name)) ms) ∧
    ∀ gs l', Runs (i.annotatedFields d name) l gs l' →
      i.FindsMembers .field d F c l (fields d) (·.annotations.contains name) gs := by
  obtain ⟨resources, hresources, hof⟩ := bind_eq_ok_iff.mp hi
  obtain ⟨f, hf, hbuild⟩ := bind_eq_ok_iff.mp hresources
  obtain ⟨hclimbs, hnone⟩ := Config.compileClasses_spec hf
  have h : i.Consistent d F c f := ⟨hc, ⟨resources, hbuild, hof⟩,
    ⟨harchives, hprefixes.imp_left hnone, hclimbs⟩, hnamed, hlists⟩
  have hl₀ := hl.faithful
  have hmethods := fun t ht => adds_methods_listing (t := t) hl₀ hc hdistinct ht
  have hfields := fun t ht => adds_fields_listing (t := t) hl₀ hc ht
  refine ⟨fun ts l' hrun => ?_, fun ms l' hrun => ?_, fun ms l' hrun => ?_, fun gs l' hrun => ?_⟩
  · exact h.mem_types_iff hl₀ hrun
  · have hholds := adds_isMethodAnnotated_answer hl₀ hc hdistinct name
    exact h.findsMembers hl₀ (fun _ => rfl) hmethods hholds hrun
  · have hholds := adds_parameterAnnotations_answer hl₀ hc hdistinct name
    exact h.findsMembers hl₀ (fun _ => rfl) hmethods hholds hrun
  · have hholds := adds_isFieldAnnotated_answer hl₀ hc hdistinct name
    exact h.findsMembers hl₀ (fun _ => rfl) hfields hholds hrun

/-- The members of a class that shadows another are found, and those of the class that is
shadowed are not. -/
theorem annotations_sound_complete_shadowed :
    shadowLoader.1.Distinct shadowDisk ∧
    (∃ l', Runs (shadowIndex.annotatedTypes shadowDisk "Upper") {} [⟨"A", ⟨1⟩⟩] l' ∧
      ∃ l', Runs (resolve shadowDisk "A" shadowLoader.1) {} ⟨"A", ⟨1⟩⟩ l') ∧
    (∃ l', Runs (shadowIndex.annotatedMethods shadowDisk "Upper") {}
        [⟨"A", "m", "(I)V", ⟨1⟩⟩] l' ∧
      shadowIndex.FindsMembers .method shadowDisk shadowLoader.2 shadowLoader.1 {}
        (methods shadowDisk) (·.annotations.contains "Upper") [⟨"A", "m", "(I)V", ⟨1⟩⟩]) ∧
    (∃ l', Runs (shadowIndex.methodsWithAnnotatedParameter shadowDisk "Upper") {}
        [⟨"A", "m", "(I)V", ⟨1⟩⟩] l' ∧
      shadowIndex.FindsMembers .method shadowDisk shadowLoader.2 shadowLoader.1 {}
        (methods shadowDisk) (·.parameterAnnotations.any (·.contains "Upper"))
        [⟨"A", "m", "(I)V", ⟨1⟩⟩]) ∧
    ∃ l', Runs (shadowIndex.annotatedFields shadowDisk "Upper") {} [⟨"A", "f", "I", ⟨1⟩⟩] l' ∧
      shadowIndex.FindsMembers .field shadowDisk shadowLoader.2 shadowLoader.1 {}
        (fields shadowDisk) (·.annotations.contains "Upper") [⟨"A", "f", "I", ⟨1⟩⟩] := by
  have hdistinct : shadowLoader.1.Distinct shadowDisk := by
    refine Chain.distinct_of_classFiles ?_
    rw [Disk.classFiles_of_not_mem (by decide +kernel)]
    decide +kernel
  have hnamed : ∀ e ∈ shadowIndex.decls,
      ClassFile.resourceName e.2.name = e.1 ∧ "" ∉ Text.split '/' e.1 := by decide +kernel
  obtain ⟨htypes, hmethods, hparameters, hfields⟩ := annotations_sound_complete
    shadowLoader_made build_shadow
    (fun p hp path hpath h => by simp [shadowDisk_isFile p hp path hpath] at h) (Or.inl rfl)
    hnamed (fun _ _ => Chain.lists_of_not_isFile shadowDisk_isFile) hdistinct .start "Upper"
  have hts : (outcome (shadowIndex.annotatedTypes shadowDisk "Upper") {}).1.toOption =
      some [⟨"A", ⟨1⟩⟩] := by decide +kernel
  have hms : (outcome (shadowIndex.annotatedMethods shadowDisk "Upper") {}).1.toOption =
      some [⟨"A", "m", "(I)V", ⟨1⟩⟩] := by decide +kernel
  have hps : (outcome (shadowIndex.methodsWithAnnotatedParameter shadowDisk "Upper") {}).1.toOption
      = some [⟨"A", "m", "(I)V", ⟨1⟩⟩] := by decide +kernel
  have hgs : (outcome (shadowIndex.annotatedFields shadowDisk "Upper") {}).1.toOption =
      some [⟨"A", "f", "I", ⟨1⟩⟩] := by decide +kernel
  obtain ⟨l₁, hts⟩ := exists_runs_of_toOption hts
  obtain ⟨l₂, hms⟩ := exists_runs_of_toOption hms
  obtain ⟨l₃, hps⟩ := exists_runs_of_toOption hps
  obtain ⟨l₄, hgs⟩ := exists_runs_of_toOption hgs
  obtain ⟨e, he, -, hrun⟩ := (htypes _ _ hts ⟨"A", ⟨1⟩⟩).mp List.mem_cons_self
  obtain rfl : e = ("A.class", upperDecl) := by simpa [shadowIndex] using he
  exact ⟨hdistinct, ⟨l₁, hts, hrun⟩, ⟨l₂, hms, hmethods _ _ hms⟩,
    ⟨l₃, hps, hparameters _ _ hps⟩, l₄, hgs, hfields _ _ hgs⟩

/-- **An archive that finds what it does not list** hides an indexed class: the query succeeds
without the method of this class that carries the annotation. -/
theorem annotations_incomplete_unlisted :
    ∃ i, rawLoader.1 ∈ rawLoader.2.made ∧ build rawDisk rawLoader.1 rawConfig = .ok i ∧
      (∀ p ∈ rawLoader.1.chains, ∀ path ∈ p.loader.localPaths,
        rawDisk.isFile path = true → Root.isArchivePath path = true) ∧
      rawConfig.prefixes = [] ∧
      (∀ e ∈ i.decls, ClassFile.resourceName e.2.name = e.1 ∧ "" ∉ Text.split '/' e.1) ∧
      rawLoader.1.Distinct rawDisk ∧
      (∃ l', Runs (i.annotatedMethods rawDisk "M") {} [] l') ∧
      ∃ e ∈ i.decls, ∃ m ∈ e.2.methods, MemberKind.method.visible m = true ∧
        m.annotations.contains "M" = true := by
  obtain ⟨i, hbuild, hdecls, hroots⟩ := build_raw
  have hnamed : ∀ e ∈ [("É.class", rawDecl)],
      ClassFile.resourceName e.2.name = e.1 ∧ "" ∉ Text.split '/' e.1 := by decide +kernel
  have hdistinct : rawLoader.1.Distinct rawDisk := by
    have hfile : classFilesIn rawDecl.toBytes = [rawDecl.toBytes] :=
      classFilesIn_of_not_mem (by decide +kernel)
    refine Chain.distinct_of_classFiles ?_
    show ∀ bytes ∈ classFilesIn rawArchive ++ (classFilesIn rawDecl.toBytes ++ []), _
    rw [hfile]
    decide +kernel
  refine ⟨i, by simp [rawLoader, Loaders.add], hbuild, by decide +kernel, rfl, hdecls ▸ hnamed,
    hdistinct, ?_, ?_⟩
  · obtain ⟨⟨chain, f, roots⟩, decls⟩ := i
    subst hdecls hroots
    have hrun : (outcome ((⟨⟨rawLoader.1, ⟨[], []⟩, [⟨rawLoader.1, "/c", .directory,
        ["É.class"]⟩]⟩, [("É.class", rawDecl)]⟩ : ClassIndex).annotatedMethods rawDisk "M") {}
          ).1.toOption = some [] := by decide +kernel
    exact exists_runs_of_toOption hrun
  · rw [hdecls]
    exact ⟨_, List.mem_cons_self, _, List.mem_cons_self, rfl, rfl⟩

end ClassIndex

end Classpath
