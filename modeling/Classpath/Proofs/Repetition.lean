import Classpath.Proofs.Implementers
import Classpath.Proofs.Removal

/-!
# Queries That Are Repeated

A query defines the classes it uses, and what it finds depends on these and on the names that it
looked for in vain. So where both are recalled, the query finds the same again, even after the
files are gone that it read the first time, and it defines nothing.

`Repeats d F w' x y` says this of two computations: whenever `x` runs, on the disk `d`, `y` comes
to the same on the disk and the classes `w'`, provided that these recall what `x` ended with. It
holds of sequences if it holds of their parts, so it is shown along the definitions of reflection
and queries. Where the supertypes of a class are collected, the two computations count their steps
differently, and both have enough: each step takes a new name, and there are only so many.

## Main results

* `Linkage.Names.length_le_of_grows`: how many names of classes a computation comes across.
* `repeats_supertypes`, `repeats_methods`, `repeats_fields`: reflection, repeated.
* `ClassIndex.repeats_collect`, `ClassIndex.repeats_subtypes`: queries, repeated.
* `ClassIndex.answers_survive_removal`: what a query found, it finds after removals.
-/

namespace Classpath

variable {ε α β : Type} {d : Disk} {F : Loaders} {l l₀ l₁ : Linkage} {w' : Disk × Linkage}

/-- Whenever `x` runs, it adds classes from the disk, and `y` comes to the same on a disk and
classes that recall what it ended with. -/
def Repeats (d : Disk) (F : Loaders) (w' : Disk × Linkage)
    (x y : ExceptT ε (StateM Linkage) α) : Prop :=
  ∀ l a l₁, l.Sound F → Runs x l a l₁ →
    l.Grows d F l₁ ∧ (Recalls F (d, l₁) w' → Runs y w'.2 a w'.2)

/-! ### Values, failures and sequences -/

section Rules

variable {x y : ExceptT ε (StateM Linkage) α} {f g : α → ExceptT ε (StateM Linkage) β}

/-- A value is the same again. -/
theorem repeats_pure {a : α} : Repeats d F w' (pure a : ExceptT ε (StateM Linkage) α) (pure a) := by
  intro l b l₁ _ hrun
  obtain ⟨rfl, rfl⟩ := runs_pure.mp hrun
  exact ⟨.refl .., fun _ => runs_pure.mpr ⟨rfl, rfl⟩⟩

theorem repeats_throw {e : ε} : Repeats d F w' (throw e : ExceptT ε (StateM Linkage) α) y :=
  fun _ _ _ _ hrun => absurd hrun runs_throw

/-- **Sequences**: what recalls the classes after both parts recalls those after the first. -/
theorem repeats_bind (hx : Repeats d F w' x y)
    (hf : ∀ a, (∃ l l₁, l.Sound F ∧ Runs x l a l₁) → Repeats d F w' (f a) (g a)) :
    Repeats d F w' (x >>= f) (y >>= g) := by
  intro l b l₂ hl hrun
  obtain ⟨a, l₁, hfirst, hrest⟩ := runs_bind.mp hrun
  obtain ⟨hgrows, hagain⟩ := hx l a l₁ hl hfirst
  obtain ⟨hgrows', hagain'⟩ := hf a ⟨l, l₁, hl, hfirst⟩ l₁ b l₂ (hl.grows hgrows) hrest
  refine ⟨hgrows.trans hgrows', fun hrecalls => runs_bind.mpr ⟨a, w'.2, ?_, hagain' hrecalls⟩⟩
  exact hagain ((Recalls.of_grows hgrows').trans hrecalls)

/-- A computation that is passed on from reflection to a query repeats there if it does in
reflection. -/
theorem repeats_lift {asScan : LinkError → ScanError} {x y : Linked α} (h : Repeats d F w' x y) :
    Repeats d F w' (Query.lift asScan x) (Query.lift asScan y) := by
  intro l a l₁ hl hrun
  have hfirst : Runs x l a l₁ := by
    unfold Runs at hrun ⊢
    rw [outcome_lift] at hrun
    revert hrun
    rcases outcome x l with ⟨_ | b, m⟩ <;> intro hrun
    · cases hrun
    · cases hrun
      rfl
  obtain ⟨hgrows, hagain⟩ := h l a l₁ hl hfirst
  refine ⟨hgrows, fun hrecalls => ?_⟩
  unfold Runs
  rw [outcome_lift, hagain hrecalls]

/-- To test the elements of a list repeats if every test does. -/
theorem repeats_filterM {as : List α} {holds holds' : α → ExceptT ε (StateM Linkage) Bool}
    (h : ∀ a, Repeats d F w' (holds a) (holds' a)) :
    Repeats d F w' (as.filterM holds) (as.filterM holds') := by
  induction as with
  | nil =>
      rw [filterM_nil, filterM_nil]
      exact repeats_pure
  | cons a as ih =>
      rw [filterM_cons, filterM_cons]
      exact repeats_bind (h a) fun _ _ => repeats_bind ih fun _ _ => repeats_pure

end Rules

/-! ### Resolution -/

/-- **Resolution**: a class that was found is defined, and a name that no loader had is one that
none has. -/
theorem repeats_resolve? {n : String} {c : Chain} (hc : c ∈ F.made) :
    Repeats d F w' (resolve? d n c) (resolve? w'.1 n c) := by
  intro l t l₁ _ hrun
  unfold Runs at hrun ⊢
  rw [outcome_resolve?] at hrun
  rw [outcome_resolve?]
  rcases hclass : l.class? d n c with _ | _ | ⟨t, cls⟩ <;> rw [hclass] at hrun
  · cases hrun
  · cases hrun
    refine ⟨.refl .., fun hrecalls => ?_⟩
    rw [hrecalls.class?_eq_none hc hclass]
    rfl
  · cases hrun
    have hgrows := Linkage.grows_define hc hclass
    refine ⟨hgrows, fun hrecalls => ?_⟩
    have hfind := hrecalls.kept (Linkage.find?_define_of_class? hclass)
    rw [← hgrows.class?_eq hc] at hclass
    rw [hrecalls.class?_eq_some hc hclass hfind]
    simp only [resolved, Linkage.define_of_find? hfind]

/-- A name that was resolved is resolved to the same type again. -/
theorem repeats_resolve {n : String} {c : Chain} (hc : c ∈ F.made) :
    Repeats d F w' (resolve d n c) (resolve w'.1 n c) := by
  refine repeats_bind (repeats_resolve? hc) fun t _ => ?_
  cases t with
  | none => exact repeats_throw
  | some t => exact repeats_pure

/-- The class of a type is looked up among the classes that are defined, which are the same ones
still. -/
theorem repeats_definedClass {s : Scope} {n : String} :
    Repeats d F w' (definedClass s n) (definedClass s n) := by
  intro l c l₁ _ hrun
  obtain ⟨hfind, rfl⟩ := runs_definedClass_iff.mp hrun
  exact ⟨.refl .., fun hrecalls => runs_definedClass_iff.mpr ⟨hrecalls.kept hfind, rfl⟩⟩

/-- The superclass of a class is found again, or again not found. -/
theorem repeats_superclass? {c : DefinedClass} (hc : c.chain ∈ F.made) :
    Repeats d F w' (c.superclass? d) (c.superclass? w'.1) := by
  unfold DefinedClass.superclass?
  split
  · exact repeats_pure
  · exact repeats_resolve? hc

/-! ### How many names there are -/

/-- A class that is found is one of those that are defined. -/
theorem Linkage.mem_defined_of_find? {s : Scope} {n : String} {c : DefinedClass}
    (h : l.find? s n = some c) : ((s, n), c) ∈ l.defined := by
  obtain ⟨front, back, hsplit, -⟩ := List.lookup_eq_some_iff.mp h
  rw [hsplit]
  simp

/-- There are no more names of classes than classes. -/
theorem Linkage.Names.length_le {names : List String} (h : l.Names names) :
    names.length ≤ l.defined.length := by
  have hsub : names ⊆ l.defined.map (·.1.2) := by
    intro n hn
    obtain ⟨s, c, hfind⟩ := h.defined n hn
    exact List.mem_map.mpr ⟨_, mem_defined_of_find? hfind, rfl⟩
  simpa using (h.nodup.subperm hsub).length_le

/-- **The names that a computation comes across** are those of classes that were defined before,
and those of class files on the disk. -/
theorem Linkage.Names.length_le_of_grows (hgrows : l₀.Grows d F l) {names : List String}
    (h : l.Names names) : names.length ≤ l₀.defined.length + d.capacity := by
  have hold : (names.filter fun n => n ∈ l₀.defined.map (·.1.2)).length ≤ l₀.defined.length := by
    have hsub : (names.filter fun n => n ∈ l₀.defined.map (·.1.2)) ⊆ l₀.defined.map (·.1.2) :=
      fun n hn => by simpa using (List.mem_filter.mp hn).2
    simpa using ((h.nodup.filter _).subperm hsub).length_le
  have hnew : (names.filter fun n => ¬n ∈ l₀.defined.map (·.1.2)).length ≤ d.capacity := by
    refine length_le_of_names (h.nodup.filter _) fun n hn => ?_
    obtain ⟨hn, hnot⟩ := List.mem_filter.mp hn
    replace hnot : n ∉ l₀.defined.map (·.1.2) := by simpa using hnot
    obtain ⟨s, c, hfind⟩ := h.defined n hn
    have hbefore : ¬l₀.find? s n = some c := fun hbefore =>
      hnot (List.mem_map.mpr ⟨_, mem_defined_of_find? hbefore, rfl⟩)
    obtain ⟨hmade, rfl, hown⟩ := (hgrows.added hfind).resolve_left hbefore
    have hread := (own?_eq_some_cases hown).resolve_left hbefore
    obtain ⟨bytes, decl, hbytes, hdecl, hname, -⟩ := own?_empty_eq_some_iff.mp hread
    exact ⟨bytes, ClassDecl.mem_classFiles hbytes hdecl, decl, hdecl, hname⟩
  calc names.length
      = (names.filter fun n => n ∈ l₀.defined.map (·.1.2)).length +
          (names.filter fun n => ¬n ∈ l₀.defined.map (·.1.2)).length := by
        simpa using List.length_eq_length_filter_add
          (fun n => decide (n ∈ l₀.defined.map (·.1.2))) (l := names)
    _ ≤ _ := Nat.add_le_add hold hnew

/-- Names of classes stay names of classes where these are kept. -/
theorem Linkage.Names.kept {l' : Linkage} {names : List String} (h : l.Names names)
    (hkept : l.Kept l') : l'.Names names where
  nodup := h.nodup
  defined n hn := by
    obtain ⟨s, c, hfind⟩ := h.defined n hn
    exact ⟨s, c, hkept hfind⟩

/-! ### Supertypes -/

/-- **The first loop**, repeated. Its names are those of classes: the first time there are no more
than were defined or lay on the disk, and later no more than are defined by then. -/
theorem repeats_superclasses (hbase : l₀.Grows d F l) (hl : l.Sound F) {steps steps' : Nat}
    {seen : List String} {t : TypeRef} {r : List Supertype × List String} (hseen : l.Names seen)
    (hsteps : l₀.defined.length + d.capacity < seen.length + steps)
    (hsteps' : w'.2.defined.length < seen.length + steps')
    (hrun : Runs (superclasses d steps seen t) l r l₁) (hrecalls : Recalls F (d, l₁) w') :
    Runs (superclasses w'.1 steps' seen t) w'.2 r w'.2 := by
  induction steps generalizing steps' seen t l r with
  | zero =>
      have := hseen.length_le_of_grows hbase
      omega
  | succ steps ih =>
      obtain ⟨hgrows, -, -⟩ := (keeps_superclasses _ seen t).of_runs hl hseen hrun
      have hkept : l.Kept w'.2 := ((Recalls.of_grows hgrows).trans hrecalls).kept
      cases steps' with
      | zero =>
          have := (hseen.kept hkept).length_le
          omega
      | succ steps' =>
          refine runs_superclasses_succ.mpr ?_
          cases runs_superclasses_succ.mp hrun with
          | known hmem => exact .known hmem
          | top hnew hc hparent =>
              obtain ⟨-, hparent'⟩ := repeats_superclass? (hl.made hc).1 _ _ _ hl hparent
              exact .top hnew (hkept hc) (hparent' hrecalls)
          | step hnew hc hparent hrest =>
              obtain ⟨hgrows₂, hparent'⟩ := repeats_superclass? (hl.made hc).1 _ _ _ hl hparent
              have hl₂ := hl.grows hgrows₂
              have hseen₂ := (hseen.cons hc hnew).grows hgrows₂
              obtain ⟨hgrows₁, -, -⟩ := (keeps_superclasses _ _ _).of_runs hl₂ hseen₂ hrest
              have hrecalls₂ := (Recalls.of_grows hgrows₁).trans hrecalls
              refine .step hnew (hkept hc) (hparent' hrecalls₂) ?_
              exact ih (hbase.trans hgrows₂) hl₂ hseen₂ (by rw [List.length_cons]; omega)
                (by rw [List.length_cons]; omega) hrest

/-- **The second loop**, repeated. The names taken are those seen that have a class. -/
theorem repeats_superinterfaces (hbase : l₀.Grows d F l) (hl : l.Sound F) {steps steps' : Nat}
    {seen taken : List String} {waiting : List (String × Chain)} {found : List Supertype}
    (hwaiting : ∀ w ∈ waiting, w.2 ∈ F.made) (htaken : l.Names taken) (hsub : taken ⊆ seen)
    (hsteps : waiting.length +
      interfaceBound * (l₀.defined.length + d.capacity - taken.length) < steps)
    (hsteps' : waiting.length + interfaceBound * (w'.2.defined.length - taken.length) < steps')
    (hrun : Runs (superinterfaces d steps seen waiting) l found l₁)
    (hrecalls : Recalls F (d, l₁) w') :
    Runs (superinterfaces w'.1 steps' seen waiting) w'.2 found w'.2 := by
  induction steps generalizing steps' seen taken waiting l found with
  | zero => omega
  | succ steps ih =>
      cases steps' with
      | zero => omega
      | succ steps' =>
          cases waiting with
          | nil =>
              obtain ⟨rfl, rfl⟩ := runs_pure.mp hrun
              exact runs_pure.mpr ⟨rfl, rfl⟩
          | cons w waiting =>
              obtain ⟨hw, hrest⟩ := List.forall_mem_cons.mp hwaiting
              rw [List.length_cons] at hsteps hsteps'
              refine runs_superinterfaces_cons.mpr ?_
              cases runs_superinterfaces_cons.mp hrun with
              | known hmem hspread =>
                  exact .known hmem (ih hbase hl hrest htaken hsub (by omega) (by omega) hspread)
              | missing hnew ht hspread =>
                  obtain ⟨hgrows₂, ht'⟩ := repeats_resolve? hw _ _ _ hl ht
                  have hl₂ := hl.grows hgrows₂
                  obtain ⟨hgrows₁, -, -⟩ :=
                    (keeps_superinterfaces _ _ hrest).of_runs hl₂ trivial hspread
                  refine .missing hnew (ht' ((Recalls.of_grows hgrows₁).trans hrecalls)) ?_
                  exact ih (hbase.trans hgrows₂) hl₂ hrest (htaken.grows hgrows₂)
                    (List.subset_cons_of_subset w.1 hsub) (by omega) (by omega) hspread
              | @found t c _ _ _ hnew ht hc hspread =>
                  obtain ⟨hgrows₂, ht'⟩ := repeats_resolve? hw _ _ _ hl ht
                  have hl₂ := hl.grows hgrows₂
                  have hbase₂ := hbase.trans hgrows₂
                  have hdefined : Supertype.IsDefined _ ⟨t, c, true⟩ := hc
                  have hmore : ∀ w' ∈ waiting ++ c.interfaces, w'.2 ∈ F.made :=
                    List.forall_mem_append.mpr ⟨hrest, hl₂.made_of_mem_interfaces hdefined⟩
                  obtain ⟨hgrows₁, -, -⟩ :=
                    (keeps_superinterfaces _ _ hmore).of_runs hl₂ trivial hspread
                  have hrecalls₂ := (Recalls.of_grows hgrows₁).trans hrecalls
                  have hname : t.name = w.1 :=
                    ((keeps_resolve? hw).of_runs hl trivial ht).2.2 t rfl |>.1
                  have htaken' := (htaken.grows hgrows₂).cons hc fun hnot =>
                    hnew (hname ▸ hsub hnot)
                  have hlist := hl₂.length_interfaces_le hdefined
                  refine .found hnew (ht' hrecalls₂) (hrecalls₂.kept hc) ?_
                  exact ih hbase₂ hl₂ hmore htaken' (hname ▸ List.cons_subset_cons _ hsub)
                    (ClassIndex.room_of_step (htaken'.length_le_of_grows hbase₂) hlist hsteps)
                    (ClassIndex.room_of_step (htaken'.kept hrecalls₂.kept).length_le hlist hsteps')
                    hspread

/-- **The supertypes of a type**, repeated. -/
theorem repeats_supertypes (t : TypeRef) :
    Repeats d F w' (supertypes d t) (supertypes w'.1 t) := by
  intro l all l₁ hl hrun
  obtain ⟨hgrows, -, -⟩ := (keeps_supertypes t).of_runs hl trivial hrun
  refine ⟨hgrows, fun hrecalls => ?_⟩
  unfold supertypes at hrun ⊢
  obtain ⟨_, l, hget, hloops⟩ := runs_bind.mp hrun
  obtain ⟨rfl, rfl⟩ := runs_get.mp hget
  obtain ⟨⟨above, seen⟩, l₂, hclasses, hloop⟩ := runs_bind.mp hloops
  obtain ⟨beside, _, hinterfaces, hend⟩ := runs_bind.mp hloop
  obtain ⟨rfl, rfl⟩ := runs_pure.mp hend
  obtain ⟨hgrows₂, hl₂, hdefined, hnames, hlength⟩ :=
    (keeps_superclasses _ [] t).of_runs hl l.names_nil hclasses
  have hwaiting : ∀ w ∈ ClassIndex.firstWaiting above, w.2 ∈ F.made :=
    List.forall_mem_flatMap.mpr fun s hs => hl₂.made_of_mem_interfaces (hdefined s hs)
  have hlist : ∀ s ∈ above, s.cls.interfaces.length ≤ interfaceBound :=
    fun s hs => hl₂.length_interfaces_le (hdefined s hs)
  obtain ⟨hgrows₁, -, -⟩ := (keeps_superinterfaces _ _ hwaiting).of_runs hl₂ trivial hinterfaces
  have hrecalls₂ := (Recalls.of_grows hgrows₁).trans hrecalls
  have hroom : l.defined.length + d.capacity < classBound d l := Nat.lt_succ_self _
  have hroom' : w'.2.defined.length < classBound w'.1 w'.2 := by
    show _ < w'.2.defined.length + w'.1.capacity + 1
    omega
  replace hlength : above.length ≤ seen.length := hlength
  refine runs_bind.mpr ⟨w'.2, w'.2, runs_get.mpr ⟨rfl, rfl⟩, ?_⟩
  refine runs_bind.mpr ⟨(above, seen), w'.2, ?_, ?_⟩
  · exact repeats_superclasses (.refl ..) hl l.names_nil (by simpa using hroom)
      (by simpa using hroom') hclasses hrecalls₂
  · refine runs_bind.mpr ⟨beside, w'.2, ?_, runs_pure.mpr ⟨rfl, rfl⟩⟩
    exact repeats_superinterfaces hgrows₂ hl₂ hwaiting hnames (List.Subset.refl _)
      (ClassIndex.enough_steps_of_room hlist hlength (hnames.length_le_of_grows hgrows₂) hroom)
      (ClassIndex.enough_steps_of_room hlist hlength (hnames.kept hrecalls₂.kept).length_le hroom')
      hinterfaces hrecalls

/-! ### Members -/

/-- The methods of a type, repeated: what hides what depends on the supertypes alone. -/
theorem repeats_methods (t : TypeRef) : Repeats d F w' (methods d t) (methods w'.1 t) :=
  repeats_bind (repeats_supertypes t) fun _ _ => repeats_pure

theorem repeats_fields (t : TypeRef) : Repeats d F w' (fields d t) (fields w'.1 t) :=
  repeats_bind (repeats_supertypes t) fun _ _ => repeats_pure

theorem repeats_methodDecl (m : MethodRef) : Repeats d F w' (methodDecl m) (methodDecl m) := by
  refine repeats_bind repeats_definedClass fun c _ => ?_
  split
  · exact repeats_pure
  · exact repeats_throw

/-! ### Queries -/

namespace ClassIndex

variable {i : ClassIndex} {d₀ : Disk} {holds : ClassDecl → Bool}

section Collect

variable [DecidableEq α] {m m' : Matcher α}

/-- What is collected in one root repeats if the question does at every declaration. -/
theorem repeats_collectRoot {c : Chain} {resources : List String} {found : List α}
    (hm : ∀ decl, Repeats d F w' (m c decl) (m' c decl)) :
    Repeats d F w' (collectRoot i c m resources found) (collectRoot i c m' resources found) := by
  induction resources generalizing found with
  | nil => exact repeats_pure
  | cons n resources ih =>
      unfold collectRoot
      split
      · exact repeats_throw
      · exact repeats_bind (hm _) fun _ _ => ih

/-- **From one question to the query**: it repeats if the question does, for each loader whose
roots are in the index. -/
theorem repeats_collect (hi : i.Made F d₀)
    (hm : ∀ c ∈ F.made, ∀ decl, Repeats d F w' (m c decl) (m' c decl)) :
    Repeats d F w' (i.collect m) (i.collect m') := by
  have hroots : ∀ (roots : List Root) (found : List α), roots ⊆ i.resources.roots →
      Repeats d F w' (collectRoots i m roots found) (collectRoots i m' roots found) := by
    intro roots
    induction roots with
    | nil => exact fun _ _ => repeats_pure
    | cons r roots ih =>
        intro found hsub
        obtain ⟨hr, hrest⟩ := List.cons_subset.mp hsub
        exact repeats_bind (repeats_collectRoot (hm _ (hi.root_mem hr))) fun _ _ => ih _ hrest
  exact hroots _ _ (List.Subset.refl _)

end Collect

/-- **Queries for types that match** repeat, since a name that was resolved is resolved again. -/
theorem repeats_typeWhere (hi : i.Made F d₀) :
    Repeats d F w' (i.collect (typeWhere d holds)) (i.collect (typeWhere w'.1 holds)) := by
  refine repeats_collect hi fun c hc decl => ?_
  unfold typeWhere
  split
  · exact repeats_bind (repeats_lift (repeats_resolve hc)) fun _ _ => repeats_pure
  · exact repeats_pure

/-- **Queries for members** repeat if the members of a type do and the test of each of them does.
-/
theorem repeats_membersWhere (hi : i.Made F d₀) [DecidableEq α]
    {members members' : TypeRef → Linked (List α)} {test : α → Linked Bool}
    (hmembers : ∀ t, Repeats d F w' (members t) (members' t))
    (htest : ∀ a, Repeats d F w' (test a) (test a)) :
    Repeats d F w' (i.collect (membersWhere d holds members test))
      (i.collect (membersWhere w'.1 holds members' test)) := by
  refine repeats_collect hi fun c hc decl => ?_
  unfold membersWhere
  split
  · exact repeats_pure
  · refine repeats_bind (repeats_lift (repeats_resolve hc)) fun t _ => ?_
    refine repeats_bind (repeats_lift (hmembers t)) fun _ _ => ?_
    exact repeats_filterM fun a => repeats_lift (htest a)

/-- A round of the search for subtypes, repeated in the same order. -/
theorem repeats_nextSubtypes (hi : i.Made F d₀) (known types next : List TypeRef) :
    Repeats d F w' (i.nextSubtypes d known types next) (i.nextSubtypes w'.1 known types next) := by
  induction types generalizing next with
  | nil => exact repeats_pure
  | cons t types ih => exact repeats_bind (repeats_typeWhere hi) fun _ _ => ih _

/-- All rounds, repeated: each begins with the types that the one before found again. -/
theorem repeats_closeSubtypes (hi : i.Made F d₀) (order : Order) (rounds : Nat)
    (found frontier : List TypeRef) :
    Repeats d F w' (i.closeSubtypes d order rounds found frontier)
      (i.closeSubtypes w'.1 order rounds found frontier) := by
  induction rounds generalizing found frontier with
  | zero => exact repeats_pure
  | succ rounds ih =>
      unfold closeSubtypes
      split
      · exact repeats_pure
      · exact repeats_bind (repeats_nextSubtypes hi _ _ _) fun _ _ => ih _ _

/-- **The search for subtypes**, repeated in the same order. -/
theorem repeats_subtypes (hi : i.Made F d₀) (order : Order) (name : String) :
    Repeats d F w' (i.subtypes d order name) (i.subtypes w'.1 order name) :=
  repeats_bind (repeats_typeWhere hi) fun _ _ => repeats_closeSubtypes hi order _ _ _

/-- The searches for what is below some types, repeated one after another. -/
theorem repeats_addSubtypes (hi : i.Made F d₀) (order : Order) (types found : List TypeRef) :
    Repeats d F w' (i.addSubtypes d order types found)
      (i.addSubtypes w'.1 order types found) := by
  induction types generalizing found with
  | nil => exact repeats_pure
  | cons t types ih => exact repeats_bind (repeats_subtypes hi order t.name) fun _ _ => ih _

/-- **The search for implementers**, repeated in the same order. -/
theorem repeats_implementers (hi : i.Made F d₀) (order : Order) (name : String) :
    Repeats d F w' (i.implementers d order name) (i.implementers w'.1 order name) :=
  repeats_bind (repeats_typeWhere hi) fun _ _ => repeats_addSubtypes hi order _ _

/-! ### Orders -/

section Order

variable {order order' : Order} {name : String} {l' : Linkage}

/-- In another order the search for subtypes finds the same types. -/
theorem exists_runs_subtypes (hi : i.Made F d₀) (horder : ∀ ts t, t ∈ order ts ↔ t ∈ ts)
    (horder' : ∀ ts t, t ∈ order' ts ↔ t ∈ ts) {S : List TypeRef}
    (hrun : Runs (i.subtypes d order name) l S l') :
    ∃ S' m, Runs (i.subtypes d order' name) l S' m ∧ ∀ t, t ∈ S' ↔ t ∈ S := by
  obtain ⟨-, -, hsearch, hmem⟩ := (adds_subtypes hi horder name).of_runs (.refl d F l) hrun
  obtain ⟨S', m, hrun'⟩ := (runs_subtypes_iff hi horder').mpr hsearch
  obtain ⟨-, -, -, hmem'⟩ := (adds_subtypes hi horder' name).of_runs (.refl d F l) hrun'
  exact ⟨S', m, hrun', fun t => (hmem' t).trans (hmem t).symm⟩

/-- In another order the search for implementers finds the same types. -/
theorem exists_runs_implementers (hi : i.Made F d₀) (horder : ∀ ts t, t ∈ order ts ↔ t ∈ ts)
    (horder' : ∀ ts t, t ∈ order' ts ↔ t ∈ ts) {R : List TypeRef}
    (hrun : Runs (i.implementers d order name) l R l') :
    ∃ R' m, Runs (i.implementers d order' name) l R' m ∧ ∀ t, t ∈ R' ↔ t ∈ R := by
  obtain ⟨-, -, hresolves, hsearch, hmem⟩ :=
    (adds_implementers hi horder name).of_runs (.refl d F l) hrun
  obtain ⟨R', m, hrun'⟩ := (runs_implementers_iff hi horder').mpr ⟨hresolves, hsearch⟩
  obtain ⟨-, -, -, -, hmem'⟩ := (adds_implementers hi horder' name).of_runs (.refl d F l) hrun'
  exact ⟨R', m, hrun', fun t => (hmem' t).trans (hmem t).symm⟩

end Order

/-! ### Answers -/

/-- What the query `ask` finds on a disk and with the classes as they are, `again` finds whatever
session of removals follows. -/
def Lasts (F : Loaders) (w : Disk × Linkage) (ask again : Disk → Query (List α)) : Prop :=
  ∀ as l₁, Runs (ask w.1) w.2 as l₁ → ∀ d' m, Session Disk.Removes F (w.1, l₁) (d', m) →
    ∃ as' m', Runs (again d') m as' m' ∧ ∀ a, a ∈ as' ↔ a ∈ as

/-- A query that repeats finds the same after a session of removals, since such a session recalls
what was found before it. -/
theorem lasts_of_repeats (hl : l.Sound F) {ask : Disk → Query (List α)}
    (h : ∀ w', Repeats d F w' (ask d) (ask w'.1)) : Lasts F (d, l) ask ask := by
  intro as l₁ hrun d' m hsession
  have hl₁ : l₁.Sound F := hl.grows (h (d, l₁) l as l₁ hl hrun).1
  obtain ⟨-, hagain⟩ := h (d', m) l as l₁ hl hrun
  exact ⟨as, m, hagain (recalls_of_session hsession hl₁), fun _ => Iff.rfl⟩

/-- What another query finds whenever the one does lasts as well. -/
theorem Lasts.other {w : Disk × Linkage} {ask again other : Disk → Query (List α)}
    (h : Lasts F w ask again)
    (hother : ∀ {d' m as m'}, Runs (again d') m as m' →
      ∃ as' m', Runs (other d') m as' m' ∧ ∀ a, a ∈ as' ↔ a ∈ as) : Lasts F w ask other := by
  intro as l₁ hrun d' m hsession
  obtain ⟨as', m', hagain, hmem⟩ := h as l₁ hrun d' m hsession
  obtain ⟨as'', m'', hother, hmem'⟩ := hother hagain
  exact ⟨as'', m'', hother, fun a => (hmem' a).trans (hmem a)⟩

/-- **Answers survive removals.** At any time of a session on a changing disk: what one of the
queries finds for some name, it finds again after any session of removals and other operations,
in whatever orders the searches go through the types of a frontier. -/
theorem answers_survive_removal (hi : i.Made F d₀) {dₛ : Disk}
    (hbefore : Session (fun _ _ => True) F (dₛ, {}) (d, l)) (name : String) :
    Lasts F (d, l) (annotatedMethods · i name) (annotatedMethods · i name) ∧
    Lasts F (d, l) (methodsWithAnnotatedParameter · i name)
      (methodsWithAnnotatedParameter · i name) ∧
    Lasts F (d, l) (annotatedFields · i name) (annotatedFields · i name) ∧
    Lasts F (d, l) (annotatedTypes · i name) (annotatedTypes · i name) ∧
    Lasts F (d, l) (directSubtypes · i name) (directSubtypes · i name) ∧
    Lasts F (d, l) (directImplementers · i name) (directImplementers · i name) ∧
    ∀ order order' : Order, (∀ ts t, t ∈ order ts ↔ t ∈ ts) → (∀ ts t, t ∈ order' ts ↔ t ∈ ts) →
      Lasts F (d, l) (subtypes · i order name) (subtypes · i order' name) ∧
      Lasts F (d, l) (implementers · i order name) (implementers · i order' name) := by
  obtain ⟨hl, -⟩ := Session.spec hbefore Linkage.sound_empty
  refine ⟨lasts_of_repeats hl fun _ => ?methods, lasts_of_repeats hl fun _ => ?parameters,
    lasts_of_repeats hl fun _ => ?fields, lasts_of_repeats hl fun _ => repeats_typeWhere hi,
    lasts_of_repeats hl fun _ => repeats_typeWhere hi,
    lasts_of_repeats hl fun _ => repeats_typeWhere hi, fun order order' horder horder' => ⟨?_, ?_⟩⟩
  case methods =>
    exact repeats_membersWhere hi repeats_methods fun m =>
      repeats_bind (repeats_methodDecl m) fun _ _ => repeats_pure
  case parameters =>
    exact repeats_membersWhere hi repeats_methods fun m =>
      repeats_bind (repeats_bind (repeats_methodDecl m) fun _ _ => repeats_pure)
        fun _ _ => repeats_pure
  case fields =>
    exact repeats_membersWhere hi repeats_fields fun f =>
      repeats_bind repeats_definedClass fun _ _ => repeats_pure
  · exact (lasts_of_repeats hl fun _ => repeats_subtypes hi order name).other
      (exists_runs_subtypes hi horder horder')
  · exact (lasts_of_repeats hl fun _ => repeats_implementers hi order name).other
      (exists_runs_implementers hi horder horder')

/-- A class that hides another one of its name, after its file is gone: it is found still, where a
new session would fail. -/
theorem answers_survive_removal_shadowed :
    ∃ d' l₁ m, Runs (shadowIndex.annotatedTypes shadowDisk "Upper") {} [⟨"A", ⟨1⟩⟩] l₁ ∧
      Session Disk.Removes shadowLoader.2 (shadowDisk, l₁) (d', l₁) ∧
      (outcome (shadowIndex.annotatedTypes d' "Upper") {}).1.toOption = none ∧
      ∃ ts, Runs (shadowIndex.annotatedTypes d' "Upper") l₁ ts m ∧ ∀ t, t ∈ ts ↔ t = ⟨"A", ⟨1⟩⟩ := by
  have htypes : (outcome (shadowIndex.annotatedTypes shadowDisk "Upper") {}).1.toOption =
      some [⟨"A", ⟨1⟩⟩] := by decide +kernel
  have hremoved : ((shadowDisk.remove "/p/A.class").toOption.map fun d' =>
      (outcome (shadowIndex.annotatedTypes d' "Upper") {}).1.toOption) = some none := by
    decide +kernel
  obtain ⟨l₁, htypes⟩ := exists_runs_of_toOption htypes
  obtain ⟨d', hremove, hfresh⟩ := Option.map_eq_some_iff.mp hremoved
  obtain ⟨resources, hresources, hof⟩ := bind_eq_ok_iff.mp build_shadow
  obtain ⟨f, -, hbuild⟩ := bind_eq_ok_iff.mp hresources
  have hi : shadowIndex.Made shadowLoader.2 shadowDisk :=
    ⟨shadowDisk, shadowLoader.1, f, resources, shadowLoader_made, hbuild, hof⟩
  have hsession : Session Disk.Removes shadowLoader.2 (shadowDisk, l₁) (d', l₁) :=
    .single (.change ⟨_, toOption_eq_some_iff.mp hremove⟩)
  have hstart : Session (fun _ _ => True) shadowLoader.2 (shadowDisk, {}) (shadowDisk, {}) := .refl
  obtain ⟨-, -, -, hlasts, -⟩ := answers_survive_removal hi hstart "Upper"
  obtain ⟨ts, m, hrun, hmem⟩ := hlasts _ _ htypes _ _ hsession
  exact ⟨d', l₁, m, htypes, hsession, hfresh, ts, hrun, fun t => by simpa using hmem t⟩

end ClassIndex

end Classpath
