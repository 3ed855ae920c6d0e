import Classpath.Proofs.Handles

/-!
# Annotations of Fields

A class file may hold several fields of one name, which differ in their descriptors. A field that
is handed out has its descriptor with it, but when it is asked whether it carries an annotation, its
class is searched by the name alone. So the answer is about all fields of that name in the class
that declares it: it is yes if the field carries the annotation, and also if only another field of
its name does. Fields that share their names with no other are not mistaken, whatever is hidden
further up and whatever classes of the same name there are in other scopes.

A query for annotated fields keeps those for which the answer is yes.

## Main definitions

* `FieldRef.Carries`, `FieldRef.NameCarries`: what is asked, and what is answered.
* `FieldRef.Sole`: fields for which this is the same.

## Main results

* `keeps_filterM`, `keeps_collect`: what the parts of a query leave behind, the query does.
* `field_annotations`: the answers about fields, and the fields that are found by them.
-/

namespace Classpath

variable {ε α : Type} {d d₀ : Disk} {F : Loaders} {l l' : Linkage}

/-! ### Queries -/

section Queries

variable {P : Linkage → Prop} {Q R : α → Linkage → Prop}

/-- A computation that is passed on from reflection to a query keeps what it keeps there. -/
theorem keeps_lift {asScan : LinkError → ScanError} {x : Linked α} (h : Keeps d F P x Q) :
    Keeps d F P (Query.lift asScan x) Q := by
  intro l hl hP
  obtain ⟨hgrows, hpost⟩ := h l hl hP
  rw [outcome_lift]
  revert hgrows hpost
  rcases outcome x l with ⟨_ | a, m⟩ <;> intro hgrows hpost
  · exact ⟨hgrows, fun b hb => by cases hb⟩
  · refine ⟨hgrows, fun b hb => ?_⟩
    cases hb
    exact hpost a rfl

/-- **Elements are tested** one after another: what the test says of those that pass still holds
when all are tested. -/
theorem keeps_filterM {as : List α} {holds : α → ExceptT ε (StateM Linkage) Bool}
    (hR : ∀ a (l l' : Linkage), l.Grows d F l' → R a l → R a l')
    (hQ : ∀ a (l l' : Linkage), l.Grows d F l' → Q a l → Q a l')
    (h : ∀ a ∈ as, Keeps d F (R a) (holds a) fun b l => b = true → Q a l) :
    Keeps d F (fun l => ∀ a ∈ as, R a l) (as.filterM holds) fun bs l => ∀ a ∈ bs, Q a l := by
  induction as with
  | nil =>
      rw [filterM_nil]
      exact keeps_pure (by simp)
  | cons a as ih =>
      obtain ⟨ha, has⟩ := List.forall_mem_cons.mp h
      rw [filterM_cons]
      -- what is known of the other elements is kept while this one is tested
      have hwaiting : ∀ l l' : Linkage, l.Grows d F l' →
          (∀ x ∈ a :: as, R x l) → ∀ x ∈ a :: as, R x l' :=
        fun l l' hgrows h x hx => hR x l l' hgrows (h x hx)
      refine keeps_bind (ha.frame (fun l h => h a List.mem_cons_self) hwaiting) fun passes _ => ?_
      -- and so is what is known of this one, while the others are
      have htested : ∀ l l' : Linkage, l.Grows d F l' →
          (passes = true → Q a l) ∧ (∀ x ∈ a :: as, R x l) →
            (passes = true → Q a l') ∧ ∀ x ∈ a :: as, R x l' :=
        fun l l' hgrows h => ⟨fun htrue => hQ a l l' hgrows (h.1 htrue), hwaiting l l' hgrows h.2⟩
      refine keeps_bind ((ih has).frame (fun l h => (List.forall_mem_cons.mp h.2).2) htested)
        fun bs _ => keeps_pure fun l h => ?_
      obtain ⟨hbs, ha, -⟩ := h
      cases passes with
      | true => exact List.forall_mem_cons.mpr ⟨ha rfl, hbs⟩
      | false => exact hbs

namespace ClassIndex

variable [DecidableEq α] {i : ClassIndex} {m : Matcher α}

/-- What is collected in one root has a property that is kept while classes are added, if the
answers for its declarations have. -/
theorem keeps_collectRoot {c : Chain}
    (hQ : ∀ a (l l' : Linkage), l.Grows d F l' → Q a l → Q a l')
    (hm : ∀ decl, Keeps d F (fun _ => True) (m c decl) fun as l => ∀ a ∈ as, Q a l)
    (resources : List String) (before : List α) :
    Keeps d F (fun l => ∀ a ∈ before, Q a l) (collectRoot i c m resources before)
      fun as l => ∀ a ∈ as, Q a l := by
  induction resources generalizing before with
  | nil => exact keeps_pure fun _ h => h
  | cons n resources ih =>
      unfold collectRoot
      split
      · exact keeps_throw
      · rename_i decl _
        refine keeps_bind ((hm decl).frame (R := fun l => ∀ a ∈ before, Q a l)
          (fun _ _ => trivial) fun l l' hgrows h a ha => hQ a l l' hgrows (h a ha))
          fun as _ => (ih _).mono (fun l h a ha => ?_) fun _ _ h => h
        obtain ha | ha := mem_union.mp ha
        · exact h.2 a ha
        · exact h.1 a ha

/-- **From one question to the query**: what is left behind with each thing found in one
declaration is left behind with all. -/
theorem keeps_collect (hQ : ∀ a (l l' : Linkage), l.Grows d F l' → Q a l → Q a l')
    (hm : ∀ r ∈ i.resources.roots, ∀ decl,
      Keeps d F (fun _ => True) (m r.chain decl) fun as l => ∀ a ∈ as, Q a l) :
    Keeps d F (fun _ => True) (i.collect m) fun as l => ∀ a ∈ as, Q a l := by
  have hroots : ∀ (roots : List Root) (before : List α), roots ⊆ i.resources.roots →
      Keeps d F (fun l => ∀ a ∈ before, Q a l) (collectRoots i m roots before)
        fun as l => ∀ a ∈ as, Q a l := by
    intro roots
    induction roots with
    | nil => exact fun before _ => keeps_pure fun _ h => h
    | cons r roots ih =>
        intro before hsub
        obtain ⟨hr, hrest⟩ := List.cons_subset.mp hsub
        exact keeps_bind (keeps_collectRoot hQ (hm r hr) r.resources before)
          fun as _ => ih as hrest
  exact (hroots _ [] (List.Subset.refl _)).mono (fun _ _ => by simp) fun _ _ h => h

/-- **Queries for members** leave behind what listing the members of a type and testing each of
them does. -/
theorem keeps_membersWhere (hi : i.Made F d₀) {mayHave : ClassDecl → Bool}
    {members : TypeRef → Linked (List α)} {holds : α → Linked Bool}
    (hR : ∀ a (l l' : Linkage), l.Grows d F l' → R a l → R a l')
    (hQ : ∀ a (l l' : Linkage), l.Grows d F l' → Q a l → Q a l')
    (hmembers : ∀ t, Keeps d F (fun _ => True) (members t) fun as l => ∀ a ∈ as, R a l)
    (hholds : ∀ a, Keeps d F (R a) (holds a) fun b l => b = true → Q a l) :
    Keeps d F (fun _ => True) (i.collect (membersWhere d mayHave members holds))
      fun as l => ∀ a ∈ as, Q a l := by
  refine keeps_collect hQ fun r hr decl => ?_
  unfold membersWhere
  split
  · exact keeps_pure (by simp)
  · refine keeps_bind (keeps_lift (keeps_resolve (hi.root_mem hr))) fun t _ => ?_
    refine keeps_bind ((keeps_lift (hmembers t)).mono (fun _ _ => trivial) fun _ _ h => h)
      fun all _ => ?_
    exact keeps_filterM hR hQ fun a _ => keeps_lift (hholds a)

end ClassIndex

end Queries

/-! ### What is asked and what is answered -/

namespace FieldRef

variable {f : FieldRef} {a : String}

/-- A field carries an annotation: the class that declares it has a field of its name and descriptor
that does. -/
def Carries (l : Linkage) (f : FieldRef) (a : String) : Prop :=
  ∃ c, l.find? f.scope f.declaring = some c ∧
    ∃ g ∈ c.decl.fields, g.name = f.name ∧ g.descriptor = f.descriptor ∧ a ∈ g.annotations

/-- The class that declares a field has one of its name, of whatever descriptor, that carries an
annotation. -/
def NameCarries (l : Linkage) (f : FieldRef) (a : String) : Prop :=
  ∃ c, l.find? f.scope f.declaring = some c ∧
    ∃ g ∈ c.decl.fields, g.name = f.name ∧ a ∈ g.annotations

/-- All fields of this name in the class that declares it have the descriptor of this one. -/
def Sole (l : Linkage) (f : FieldRef) : Prop :=
  ∀ c, l.find? f.scope f.declaring = some c →
    ∀ g ∈ c.decl.fields, g.name = f.name → g.descriptor = f.descriptor

/-- A field that carries an annotation has a name that does. -/
theorem Carries.nameCarries (h : f.Carries l a) : f.NameCarries l a := by
  obtain ⟨c, hc, g, hg, hname, -, ha⟩ := h
  exact ⟨c, hc, g, hg, hname, ha⟩

/-- If no other field shares its name, the name stands for the field. -/
theorem Sole.carries (hsole : f.Sole l) (h : f.NameCarries l a) : f.Carries l a := by
  obtain ⟨c, hc, g, hg, hname, ha⟩ := h
  exact ⟨c, hc, g, hg, hname, hsole c hc g hg hname, ha⟩

/-- A field of a class that is defined stays one. -/
theorem IsDeclared.grows (h : f.IsDeclared l) (hgrows : l.Grows d F l') : f.IsDeclared l' := by
  obtain ⟨c, hc, hdecl⟩ := h
  exact ⟨c, hgrows.kept hc, hdecl⟩

/-- A name that carries an annotation in a class that is defined does so while others are added. -/
theorem NameCarries.grows (h : f.NameCarries l a) (hgrows : l.Grows d F l') :
    f.NameCarries l' a := by
  obtain ⟨c, hc, hg⟩ := h
  exact ⟨c, hgrows.kept hc, hg⟩

/-- **What is answered**, at any time at which the class that declares the field is the same. -/
theorem IsDeclared.exists_answer (h : f.IsDeclared l) (a : String) :
    ∃ b, (∀ l', l.Kept l' → Runs (isFieldAnnotated f a) l' b l') ∧
      (b = true ↔ f.NameCarries l a) := by
  obtain ⟨c, hc, -⟩ := h
  refine ⟨_, fun l' hkept => runs_isFieldAnnotated (hkept hc) a, ?_⟩
  simp [NameCarries, hc]

/-- A field for which the answer is yes is one whose name carries the annotation. -/
theorem keeps_isFieldAnnotated (f : FieldRef) (a : String) :
    Keeps d F (fun _ => True) (isFieldAnnotated f a) fun b l => b = true → f.NameCarries l a := by
  refine keeps_bind keeps_definedClass fun c _ => keeps_pure fun l hc hb => ?_
  simpa [NameCarries, hc] using hb

end FieldRef

/-- **Annotations of fields.** At any time of a session, on whatever disks, let a type have its
fields. Each of them is declared by the class that is defined for it, and whenever it is asked later
on whether it carries an annotation, the answer is the same: yes if its class has a field of its
name that does. This is so if the field carries the annotation itself, and only then, unless its
class has fields of its name with other descriptors. And a query for annotated fields finds fields
whose names carry the annotation in their classes. -/
theorem field_annotations {changes : Disk → Disk → Prop} {d₀ : Disk}
    (h : Session changes F (d₀, {}) (d, l)) :
    (∀ t fs l', Runs (fields d t) l fs l' → ∀ f ∈ fs, f.IsDeclared l' ∧ ∀ a, ∃ b,
      (∀ w', Session changes F (d, l') w' → Runs (isFieldAnnotated f a) w'.2 b w'.2) ∧
        (b = true ↔ f.NameCarries l' a) ∧ (f.Carries l' a → b = true) ∧
        (f.Sole l' → (b = true ↔ f.Carries l' a))) ∧
    ∀ i d₁, ClassIndex.Made F d₁ i → ∀ a fs l', Runs (i.annotatedFields d a) l fs l' → ∀ f ∈ fs,
      f.IsDeclared l' ∧ f.NameCarries l' a ∧ (f.Sole l' → f.Carries l' a) := by
  obtain ⟨hl, -⟩ := h.spec Linkage.sound_empty
  constructor
  · intro t fs l' hrun f hf
    obtain ⟨-, hl', hfs⟩ := (keeps_fields t).of_runs hl trivial hrun
    refine ⟨hfs f hf, fun a => ?_⟩
    obtain ⟨b, hanswer, hb⟩ := (hfs f hf).exists_answer a
    refine ⟨b, fun w' hw' => hanswer _ (hw'.spec hl').2, hb, fun hcarries =>
      hb.mpr hcarries.nameCarries, fun hsole => hb.trans ⟨hsole.carries, fun hcarries =>
        hcarries.nameCarries⟩⟩
  · intro i d₁ hi a fs l' hrun f hf
    have hkeeps : Keeps d F (fun _ => True) (i.annotatedFields d a)
        fun fs l => ∀ f ∈ fs, f.IsDeclared l ∧ f.NameCarries l a := by
      refine ClassIndex.keeps_membersWhere (R := fun f l => f.IsDeclared l) hi
        (fun f l l' hgrows h => h.grows hgrows)
        (fun f l l' hgrows h => ⟨h.1.grows hgrows, h.2.grows hgrows⟩) keeps_fields fun f => ?_
      refine ((FieldRef.keeps_isFieldAnnotated f a).frame (R := fun l => f.IsDeclared l)
        (fun _ _ => trivial) fun l l' hgrows h => h.grows hgrows).mono (fun _ h => h) ?_
      exact fun b l h hb => ⟨h.2, h.1 hb⟩
    obtain ⟨-, -, hfs⟩ := hkeeps.of_runs hl trivial hrun
    obtain ⟨hdeclared, hname⟩ := hfs f hf
    exact ⟨hdeclared, hname, fun hsole => hsole.carries hname⟩

/-! ### Two fields of one name -/

/-- A class with two fields of one name, one of which carries an annotation, and one of another
name. -/
def twinDecl : ClassDecl :=
  ⟨"A", none, [], false, [],
    [⟨"x", true, "I", ["Key"]⟩, ⟨"x", true, "J", []⟩, ⟨"y", true, "J", []⟩], []⟩

/-- A disk with its class file. -/
def twinDisk : Disk where
  entries := [(["c"], .directory), (["c", "A.class"], .file 0)]
  contents := [twinDecl.toBytes]

/-- A loader for the directory of the class file. -/
def twinLoader : Chain × Loaders := Loaders.empty.add "app" [Url.ofPath "/c"] none

/-- The index of the loader. -/
def twinIndex : ClassIndex :=
  ⟨⟨twinLoader.1, ⟨[], [Pattern.classFiles]⟩, [⟨twinLoader.1, "/c", .directory, ["A.class"]⟩]⟩,
    [("A.class", twinDecl)]⟩

theorem twinLoader_made : twinLoader.1 ∈ twinLoader.2.made := by
  simp [twinLoader, Loaders.add]

theorem build_twin : ClassIndex.build twinDisk twinLoader.1 {} = .ok twinIndex := by
  have hf : Config.compileClasses {} = .ok ⟨[], [Pattern.classFiles]⟩ := by rfl
  have haccepts : Filter.accepts ⟨[], [Pattern.classFiles]⟩ "A.class" = true := by decide +kernel
  have hfiles : twinLoader.1.loader.localPaths = ["/c"] ∧ twinDisk.isDirectory "/c" = true ∧
      (twinDisk.walk "/c").toOption = some ["/c/A.class"] ∧
      Root.resourceName? "/c" "/c/A.class" = some "A.class" := by decide +kernel
  obtain ⟨hpaths, hdirectory, hwalk, hname⟩ := hfiles
  have hentry := ClassIndex.ofEntry?_of_file (c := twinLoader.1)
    (f := ⟨[], [Pattern.classFiles]⟩) hdirectory (toOption_eq_some_iff.mp hwalk) hname rfl haccepts
  have hread : (ClassIndex.readRoots twinDisk [⟨twinLoader.1, "/c", .directory, ["A.class"]⟩]
      []).toOption = some [("A.class", (⟨1⟩, twinDecl))] := by decide +kernel
  have hentries : List.Forall₂ (ClassIndex.OneEntry twinDisk ⟨[], [Pattern.classFiles]⟩)
      twinLoader.1.chains [some ⟨twinLoader.1, "/c", .directory, ["A.class"]⟩] :=
    .cons ⟨"/c", hpaths, hentry⟩ .nil
  exact ClassIndex.build_of_roots hf (ClassIndex.discover_of_entries hentries)
    (toOption_eq_some_iff.mp hread)

/-- A session in which the class was resolved. -/
def twinSession : Linkage := Operation.perform twinDisk (.resolve "A" twinLoader.1) {}

theorem twinSession_reached :
    Session (fun _ _ => True) twinLoader.2 (twinDisk, {}) (twinDisk, twinSession) :=
  .single (.perform twinLoader_made)

/-- What reflection and the query come to. -/
theorem twinSession_computes :
    (outcome (fields twinDisk ⟨"A", ⟨1⟩⟩) twinSession).1.toOption =
        some [⟨"A", "x", "I", ⟨1⟩⟩, ⟨"A", "x", "J", ⟨1⟩⟩, ⟨"A", "y", "J", ⟨1⟩⟩] ∧
      (outcome (fields twinDisk ⟨"A", ⟨1⟩⟩) twinSession).2.find? ⟨1⟩ "A" =
        some ⟨twinDecl, twinLoader.1⟩ ∧
      (outcome (twinIndex.annotatedFields twinDisk "Key") twinSession).1.toOption =
        some [⟨"A", "x", "I", ⟨1⟩⟩, ⟨"A", "x", "J", ⟨1⟩⟩] ∧
      (outcome (twinIndex.annotatedFields twinDisk "Key") twinSession).2.find? ⟨1⟩ "A" =
        some ⟨twinDecl, twinLoader.1⟩ := by decide +kernel

/-- A field that is alone with its name does not carry the annotation, and the answer is no. -/
theorem field_annotations_sole :
    ∃ l, Session (fun _ _ => True) twinLoader.2 (twinDisk, {}) (twinDisk, l) ∧
      ∃ fs l', Runs (fields twinDisk ⟨"A", ⟨1⟩⟩) l fs l' ∧ ⟨"A", "y", "J", ⟨1⟩⟩ ∈ fs ∧
        FieldRef.Sole l' ⟨"A", "y", "J", ⟨1⟩⟩ ∧
        Runs (isFieldAnnotated ⟨"A", "y", "J", ⟨1⟩⟩ "Key") l' false l' := by
  obtain ⟨hfields, hfind, -⟩ := twinSession_computes
  obtain ⟨l', hfields⟩ := exists_runs_of_toOption hfields
  rw [hfields] at hfind
  obtain ⟨hanswers, -⟩ := field_annotations twinSession_reached
  obtain ⟨-, hanswer⟩ := hanswers _ _ _ hfields ⟨"A", "y", "J", ⟨1⟩⟩ (by decide)
  obtain ⟨b, hruns, -, -, hb⟩ := hanswer "Key"
  have hsole : FieldRef.Sole l' ⟨"A", "y", "J", ⟨1⟩⟩ := by
    intro c hc
    obtain rfl : ⟨twinDecl, twinLoader.1⟩ = c := by simpa [hfind] using hc
    decide
  have hnot : b = false := by
    rw [Bool.eq_false_iff, ne_eq, hb hsole]
    rintro ⟨c, hc, hcarries⟩
    obtain rfl : ⟨twinDecl, twinLoader.1⟩ = c := by simpa [hfind] using hc
    revert hcarries
    decide
  exact ⟨_, twinSession_reached, _, l', hfields, by decide, hsole, hnot ▸ hruns _ .refl⟩

/-- **A field is taken for another one** of its name: it carries no annotation, the answer is yes,
and the query finds it. -/
theorem field_annotation_mistaken :
    ClassIndex.build twinDisk twinLoader.1 {} = .ok twinIndex ∧
      Session (fun _ _ => True) twinLoader.2 (twinDisk, {}) (twinDisk, twinSession) ∧
      (∃ fs l', Runs (fields twinDisk ⟨"A", ⟨1⟩⟩) twinSession fs l' ∧
        ⟨"A", "x", "J", ⟨1⟩⟩ ∈ fs ∧ Runs (isFieldAnnotated ⟨"A", "x", "J", ⟨1⟩⟩ "Key") l' true l' ∧
        ¬FieldRef.Carries l' ⟨"A", "x", "J", ⟨1⟩⟩ "Key") ∧
      ∃ fs l', Runs (twinIndex.annotatedFields twinDisk "Key") twinSession fs l' ∧
        ⟨"A", "x", "J", ⟨1⟩⟩ ∈ fs ∧ ¬FieldRef.Carries l' ⟨"A", "x", "J", ⟨1⟩⟩ "Key" := by
  obtain ⟨hfields, hfind, hquery, hfind'⟩ := twinSession_computes
  obtain ⟨l₁, hfields⟩ := exists_runs_of_toOption hfields
  obtain ⟨l₂, hquery⟩ := exists_runs_of_toOption hquery
  rw [hfields] at hfind
  rw [hquery] at hfind'
  have hnot : ∀ l : Linkage, l.find? ⟨1⟩ "A" = some ⟨twinDecl, twinLoader.1⟩ →
      ¬FieldRef.Carries l ⟨"A", "x", "J", ⟨1⟩⟩ "Key" := by
    rintro l hl ⟨c, hc, hcarries⟩
    obtain rfl : ⟨twinDecl, twinLoader.1⟩ = c := by simpa [hl] using hc
    revert hcarries
    decide
  refine ⟨build_twin, twinSession_reached, ⟨_, l₁, hfields, by decide, ?_, hnot l₁ hfind⟩,
    _, l₂, hquery, by decide, hnot l₂ hfind'⟩
  exact runs_isFieldAnnotated (l := l₁) (f := ⟨"A", "x", "J", ⟨1⟩⟩) hfind "Key"

end Classpath
