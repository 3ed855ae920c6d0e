import Mathlib.Data.List.Perm.Subperm
import Classpath.Proofs.Additions
import Classpath.Proofs.IndexContent

/-!
# What a Query Collects

A query puts one question to every declaration that a root holds and collects the answers,
each once. The answer to one question is described by a relation `Q chain decl as` between
the loader that resolves the names of a declaration, the declaration, and what was found in
it; `Gathers i Q found` says that a list is what a query makes of such answers. One lemma
about the question then gives the lemma about the query (`adds_collect`), and so for the
queries that ask for types: what they find are the types that the lookup finds for the names
of the matching declarations (`adds_collect_typeWhere`), and they succeed if and only if it finds
a class for each of them (`runs_typeWhere_iff`).

## Main results

* `adds_collect`, `succeeds_collect`: from one question to the query.
* `adds_collect_typeWhere`, `runs_typeWhere_iff`: queries for types.
* `ClassIndex.Denotes.unique`: a name denotes one type in an index.
-/

namespace Classpath

variable {ε α : Type} {d d₀ : Disk} {F : Loaders} {l₀ : Linkage}

/-! ### Lists as sets -/

section Union

variable [DecidableEq α] {found more : List α}

/-- To join two lists joins what they hold. -/
@[simp] theorem mem_union {a : α} : a ∈ union found more ↔ a ∈ found ∨ a ∈ more := by
  unfold union
  induction more generalizing found with
  | nil => simp
  | cons b more ih =>
      rw [List.foldl_cons, ih, List.mem_cons]
      by_cases hb : b ∈ found
      · rw [if_pos (by simpa using hb)]
        constructor
        · exact fun h => h.imp_right Or.inr
        · rintro (h | rfl | h)
          · exact Or.inl h
          · exact Or.inl hb
          · exact Or.inr h
      · rw [if_neg (by simpa using hb), List.mem_append, List.mem_singleton, or_assoc]

/-- Nothing is in the union twice if nothing was in the first list twice. -/
theorem nodup_union (h : found.Nodup) : (union found more).Nodup := by
  unfold union
  induction more generalizing found with
  | nil => exact h
  | cons b more ih =>
      rw [List.foldl_cons]
      by_cases hb : b ∈ found
      · rw [if_pos (by simpa using hb)]
        exact ih h
      · rw [if_neg (by simpa using hb)]
        refine ih (List.Nodup.append h (List.nodup_singleton b) ?_)
        rwa [List.disjoint_singleton]

end Union

namespace ClassIndex

/-- What a query collects when the answers to its questions are described by `Q`. -/
structure Gathers (i : ClassIndex) (Q : Chain → ClassDecl → List α → Prop) (found : List α) :
    Prop where
  nodup : found.Nodup
  origin : ∀ a ∈ found, ∃ r n decl as, i.Holds r n decl ∧ Q r.chain decl as ∧ a ∈ as
  complete : ∀ r n decl, i.Holds r n decl → ∃ as, Q r.chain decl as ∧ as ⊆ found

/-- What is collected after the resources of some roots, on top of what was found before. -/
structure GathersFrom (before : List α) (asked : Chain → ClassDecl → Prop)
    (Q : Chain → ClassDecl → List α → Prop) (found : List α) : Prop where
  nodup : before.Nodup → found.Nodup
  kept : before ⊆ found
  origin : ∀ a ∈ found, a ∈ before ∨ ∃ c decl as, asked c decl ∧ Q c decl as ∧ a ∈ as
  complete : ∀ c decl, asked c decl → ∃ as, Q c decl as ∧ as ⊆ found

variable {Q : Chain → ClassDecl → List α → Prop}

theorem GathersFrom.nil (before : List α) {asked : Chain → ClassDecl → Prop}
    (h : ∀ c decl, ¬asked c decl) : GathersFrom before asked Q before :=
  ⟨id, List.Subset.refl _, fun _ ha => Or.inl ha, fun c decl ha => absurd ha (h c decl)⟩

/-- One question after another. -/
theorem GathersFrom.trans {before middle found : List α}
    {asked asked' asked'' : Chain → ClassDecl → Prop}
    (h : GathersFrom before asked Q middle) (h' : GathersFrom middle asked' Q found)
    (hasked : ∀ c decl, asked'' c decl ↔ asked c decl ∨ asked' c decl) :
    GathersFrom before asked'' Q found where
  nodup hb := h'.nodup (h.nodup hb)
  kept := List.Subset.trans h.kept h'.kept
  origin a ha := by
    obtain ha | ⟨c, decl, as, hask, hrest⟩ := h'.origin a ha
    · obtain ha | ⟨c, decl, as, hask, hrest⟩ := h.origin a ha
      · exact Or.inl ha
      · exact Or.inr ⟨c, decl, as, (hasked c decl).mpr (Or.inl hask), hrest⟩
    · exact Or.inr ⟨c, decl, as, (hasked c decl).mpr (Or.inr hask), hrest⟩
  complete c decl hask := by
    obtain hask | hask := (hasked c decl).mp hask
    · obtain ⟨as, hq, hsub⟩ := h.complete c decl hask
      exact ⟨as, hq, List.Subset.trans hsub h'.kept⟩
    · exact h'.complete c decl hask

section Collect

variable [DecidableEq α] {i : ClassIndex} {m : Matcher α}

/-- What is gathered from the resources of one root: the answers for their declarations. -/
theorem adds_collectRoot {c : Chain} {resources : List String} {before : List α}
    (hm : ∀ n ∈ resources, ∀ decl, i.decl? n = some decl → Adds d F l₀ (m c decl) (Q c decl)) :
    Adds d F l₀ (collectRoot i c m resources before)
      (GathersFrom before (fun c' decl => c' = c ∧ ∃ n ∈ resources, i.decl? n = some decl) Q) := by
  induction resources generalizing before with
  | nil => exact adds_pure (GathersFrom.nil _ (by simp))
  | cons n resources ih =>
      obtain ⟨hn, hrest⟩ := List.forall_mem_cons.mp hm
      unfold collectRoot
      cases hdecl : i.decl? n with
      | none => exact adds_throw
      | some decl =>
          refine adds_bind (hn decl hdecl) fun as has => (ih hrest).mono fun found hfound => ?_
          have hone : GathersFrom before (fun c' decl' => c' = c ∧ decl' = decl) Q
              (union before as) := by
            refine ⟨nodup_union, fun a ha => mem_union.mpr (Or.inl ha), fun a ha => ?_, ?_⟩
            · exact (mem_union.mp ha).imp_right fun ha => ⟨c, decl, as, ⟨rfl, rfl⟩, has, ha⟩
            · rintro _ _ ⟨rfl, rfl⟩
              exact ⟨as, has, fun a ha => mem_union.mpr (Or.inr ha)⟩
          refine hone.trans hfound fun c' decl' => ?_
          rw [List.exists_mem_cons_iff, hdecl, ← and_or_left, Option.some_inj, eq_comm (a := decl)]

/-- What is gathered from some roots: the answers for the declarations of each of them. -/
theorem adds_collectRoots {roots : List Root} {before : List α}
    (hm : ∀ r ∈ roots, ∀ n ∈ r.resources, ∀ decl, i.decl? n = some decl →
      Adds d F l₀ (m r.chain decl) (Q r.chain decl)) :
    Adds d F l₀ (collectRoots i m roots before)
      (GathersFrom before (fun c decl => ∃ r ∈ roots, c = r.chain ∧
        ∃ n ∈ r.resources, i.decl? n = some decl) Q) := by
  induction roots generalizing before with
  | nil => exact adds_pure (GathersFrom.nil _ (by simp))
  | cons r roots ih =>
      obtain ⟨hr, hrest⟩ := List.forall_mem_cons.mp hm
      refine adds_bind (adds_collectRoot hr) fun middle hmiddle => (ih hrest).mono fun found h => ?_
      exact hmiddle.trans h fun c decl => by rw [List.exists_mem_cons_iff]

/-- **From one question to the query**: what it collects. -/
theorem adds_collect
    (hm : ∀ r n decl, i.Holds r n decl → Adds d F l₀ (m r.chain decl) (Q r.chain decl)) :
    Adds d F l₀ (i.collect m) (Gathers i Q) := by
  refine (adds_collectRoots fun r hr n hn decl hdecl => hm r n decl ⟨hr, hn, hdecl⟩).mono
    fun found hfound => ?_
  refine ⟨hfound.nodup List.nodup_nil, fun a ha => ?_, fun r n decl h => ?_⟩
  · obtain ha | ⟨c, decl, as, ⟨r, hr, rfl, n, hn, hdecl⟩, hrest⟩ := hfound.origin a ha
    · cases ha
    · exact ⟨r, n, decl, as, ⟨hr, hn, hdecl⟩, hrest⟩
  · exact hfound.complete r.chain decl
      ⟨r, h.mem_roots, rfl, n, h.mem_resources, h.decl?_eq⟩

/-- Collecting in one root succeeds if the index has the declarations, and every question succeeds.
-/
theorem succeeds_collectRoot {c : Chain} {resources : List String} {before : List α}
    (hsome : ∀ n ∈ resources, ∃ decl, i.decl? n = some decl)
    (hm : ∀ n ∈ resources, ∀ decl, i.decl? n = some decl →
      Adds d F l₀ (m c decl) (Q c decl) ∧ Succeeds d F l₀ (m c decl)) :
    Succeeds d F l₀ (collectRoot i c m resources before) := by
  induction resources generalizing before with
  | nil => exact succeeds_pure
  | cons n resources ih =>
      obtain ⟨hn, hrest⟩ := List.forall_mem_cons.mp hm
      obtain ⟨⟨decl, hdecl⟩, hsome⟩ := List.forall_mem_cons.mp hsome
      unfold collectRoot
      rw [hdecl]
      obtain ⟨hadds, hsucceeds⟩ := hn decl hdecl
      exact succeeds_bind hsucceeds hadds fun as _ => ih hsome hrest

/-- **From one question to the query**: when it succeeds. -/
theorem succeeds_collect (hi : i.Made F d₀)
    (hm : ∀ r n decl, i.Holds r n decl →
      Adds d F l₀ (m r.chain decl) (Q r.chain decl) ∧ Succeeds d F l₀ (m r.chain decl)) :
    Succeeds d F l₀ (i.collect m) := by
  have hroots : ∀ (roots : List Root) (before : List α), roots ⊆ i.resources.roots →
      Succeeds d F l₀ (collectRoots i m roots before) := by
    intro roots
    induction roots with
    | nil => exact fun _ _ => succeeds_pure
    | cons r roots ih =>
        intro before hsub
        obtain ⟨hr, hrest⟩ := List.cons_subset.mp hsub
        have hask : ∀ n ∈ r.resources, ∀ decl, i.decl? n = some decl →
            Adds d F l₀ (m r.chain decl) (Q r.chain decl) ∧ Succeeds d F l₀ (m r.chain decl) :=
          fun n hn decl hdecl => hm r n decl ⟨hr, hn, hdecl⟩
        refine succeeds_bind (succeeds_collectRoot (fun n hn => hi.exists_decl? hr hn) hask)
          (adds_collectRoot fun n hn decl hdecl => (hask n hn decl hdecl).1) fun _ _ => ih _ hrest
  exact hroots _ _ (List.Subset.refl _)

end Collect

/-! ### Queries for types -/

/-- Some declaration of the index that satisfies a condition is of a class of this type, as
the lookup finds it. -/
def Denotes (i : ClassIndex) (d : Disk) (l : Linkage) (holds : ClassDecl → Bool)
    (t : TypeRef) : Prop :=
  ∃ r n decl, i.Holds r n decl ∧ holds decl = true ∧
    ∃ cls, l.class? d decl.name r.chain = .ok (some (t, cls))

/-- The lookup finds a class for each declaration of the index that satisfies a condition. -/
def Resolves (i : ClassIndex) (d : Disk) (l : Linkage) (holds : ClassDecl → Bool) : Prop :=
  ∀ r n decl, i.Holds r n decl → holds decl = true →
    ∃ found, l.class? d decl.name r.chain = .ok (some found)

variable {i : ClassIndex} {holds : ClassDecl → Bool}

/-- What asking for the type of one declaration yields. -/
def AnswersType (d : Disk) (l : Linkage) (holds : ClassDecl → Bool) (c : Chain)
    (decl : ClassDecl) (ts : List TypeRef) : Prop :=
  (holds decl = true → ∃ found, l.class? d decl.name c = .ok (some found)) ∧
    ∀ t, t ∈ ts ↔ holds decl = true ∧ ∃ cls, l.class? d decl.name c = .ok (some (t, cls))

/-- The question of a query for types: the name of a declaration that matches is resolved, and no
other. -/
theorem adds_typeWhere {c : Chain} (hc : c ∈ F.made) (decl : ClassDecl) :
    Adds d F l₀ (typeWhere d holds c decl) (AnswersType d l₀ holds c decl) := by
  unfold typeWhere
  split
  · rename_i hdecl
    refine adds_bind (adds_lift (adds_resolve hc)) fun t ht => adds_pure ?_
    obtain ⟨cls, hcls⟩ := ht
    refine ⟨fun _ => ⟨_, hcls⟩, fun t' => ?_⟩
    rw [List.mem_singleton]
    constructor
    · rintro rfl
      exact ⟨hdecl, cls, hcls⟩
    · rintro ⟨-, cls', hcls'⟩
      rw [hcls] at hcls'
      simp only [Except.ok.injEq, Option.some.injEq, Prod.mk.injEq] at hcls'
      exact hcls'.1.symm
  · rename_i hdecl
    exact adds_pure ⟨fun h => absurd h hdecl, fun t => by simp [hdecl]⟩

/-- **A query for types** that succeeds finds the types of the matching declarations, and the
lookup finds a class for each of these. -/
theorem adds_collect_typeWhere (hi : i.Made F d₀) :
    Adds d F l₀ (i.collect (typeWhere d holds)) fun ts =>
      ts.Nodup ∧ i.Resolves d l₀ holds ∧ ∀ t, t ∈ ts ↔ i.Denotes d l₀ holds t := by
  have hask : ∀ r n decl, i.Holds r n decl → Adds d F l₀ (typeWhere d holds r.chain decl)
      (AnswersType d l₀ holds r.chain decl) :=
    fun r _ decl h => adds_typeWhere (hi.root_mem h.mem_roots) decl
  refine (adds_collect hask).mono fun ts hts => ?_
  refine ⟨hts.nodup, fun r n decl h hdecl => ?_, fun t => ⟨fun ht => ?_, ?_⟩⟩
  · obtain ⟨as, has, -⟩ := hts.complete r n decl h
    exact has.1 hdecl
  · obtain ⟨r, n, decl, as, h, has, hmem⟩ := hts.origin t ht
    exact ⟨r, n, decl, h, (has.2 t).mp hmem⟩
  · rintro ⟨r, n, decl, h, hdecl⟩
    obtain ⟨as, has, hsub⟩ := hts.complete r n decl h
    exact hsub ((has.2 t).mpr hdecl)

/-- **A query for types** succeeds if the lookup finds a class for each matching
declaration. -/
theorem succeeds_collect_typeWhere (hi : i.Made F d₀) (h : i.Resolves d l₀ holds) :
    Succeeds d F l₀ (i.collect (typeWhere d holds)) := by
  refine succeeds_collect (Q := AnswersType d l₀ holds) hi fun r n decl hr =>
    ⟨adds_typeWhere (hi.root_mem hr.mem_roots) decl, ?_⟩
  unfold typeWhere
  split
  · rename_i hdecl
    obtain ⟨found, hfound⟩ := h r n decl hr hdecl
    have hmem := hi.root_mem hr.mem_roots
    exact succeeds_bind (succeeds_lift (succeeds_resolve hmem hfound))
      (adds_lift (adds_resolve hmem)) fun _ _ => succeeds_pure
  · exact succeeds_pure

/-- A query for types succeeds just when the names of all matching declarations resolve. -/
theorem runs_typeWhere_iff {l : Linkage} (hi : i.Made F d₀) :
    (∃ ts l', Runs (i.collect (typeWhere d holds)) l ts l') ↔ i.Resolves d l holds := by
  constructor
  · rintro ⟨ts, l', hrun⟩
    exact ((adds_collect_typeWhere hi).of_runs (Linkage.Grows.refl d F l) hrun).2.2.1
  · intro h
    exact (succeeds_collect_typeWhere hi h).runs (Linkage.Grows.refl d F l)

/-! ### The type of a name -/

/-- **A name denotes one type** in an index: of two loaders of a chain one is above the other,
and what the upper one finds the lower one finds too. -/
theorem Denotes.unique (hi : i.Made F d₀) {l : Linkage} {holds' : ClassDecl → Bool}
    {t t' : TypeRef} (h : i.Denotes d l holds t) (h' : i.Denotes d l holds' t')
    (hname : t.name = t'.name) : t = t' := by
  obtain ⟨r, n, decl, hr, -, cls, hcls⟩ := h
  obtain ⟨r', n', decl', hr', -, cls', hcls'⟩ := h'
  have hchains := hi.roots_spec.2
  have ht := Linkage.name_of_class? hcls
  have ht' := Linkage.name_of_class? hcls'
  rw [← ht] at hcls
  rw [← ht', ← hname] at hcls'
  have hfound : Except.ok (ε := LinkError) (some (t, cls)) = .ok (some (t', cls')) := by
    obtain hup | hup := Chain.chains_total (hchains r hr.mem_roots) (hchains r' hr'.mem_roots)
    · rw [← hcls', Linkage.class?_of_mem_chains hup hcls]
    · rw [← hcls, Linkage.class?_of_mem_chains hup hcls']
  simp only [Except.ok.injEq, Option.some.injEq, Prod.mk.injEq] at hfound
  exact hfound.1

/-- A type that an index denotes bears the name of one of its declarations. -/
theorem exists_decl_of_denotes (hi : i.Made F d₀) {l : Linkage} {t : TypeRef}
    (h : i.Denotes d l holds t) : ∃ e ∈ i.decls, holds e.2 = true ∧ e.2.name = t.name := by
  obtain ⟨r, n, decl, hr, hdecl, cls, hclass⟩ := h
  exact ⟨(n, decl), hi.mem_decls_iff.mpr hr.decl?_eq, hdecl,
    (Linkage.name_of_class? hclass).symm⟩

/-- A declaration that matches is of a type, if the query succeeds. -/
theorem exists_denotes_of_mem_decls (hi : i.Made F d₀) {l : Linkage}
    (hresolves : i.Resolves d l holds) {e : String × ClassDecl} (he : e ∈ i.decls)
    (hdecl : holds e.2 = true) : ∃ t, i.Denotes d l holds t ∧ t.name = e.2.name := by
  obtain ⟨r, hr⟩ := hi.exists_holds he
  obtain ⟨⟨t, cls⟩, hclass⟩ := hresolves r e.1 e.2 hr hdecl
  exact ⟨t, ⟨r, _, _, hr, hdecl, cls, hclass⟩, Linkage.name_of_class? hclass⟩

/-- Every type that an index leads to bears the name of a declaration. -/
theorem Denotes.name_mem (hi : i.Made F d₀) {l : Linkage} {t : TypeRef}
    (h : i.Denotes d l holds t) : t.name ∈ i.decls.map (·.2.name) := by
  obtain ⟨e, he, -, hname⟩ := exists_decl_of_denotes hi h
  exact List.mem_map.mpr ⟨e, he, hname⟩

/-- Different types of an index have different names. -/
theorem nodup_names_of_denotes (hi : i.Made F d₀) {l : Linkage} {ts : List TypeRef}
    (hnodup : ts.Nodup) (h : ∀ t ∈ ts, ∃ holds, i.Denotes d l holds t) :
    (ts.map (·.name)).Nodup := by
  refine List.Nodup.map_on (fun t ht t' ht' hname => ?_) hnodup
  obtain ⟨holds, ht⟩ := h t ht
  obtain ⟨holds', ht'⟩ := h t' ht'
  exact ht.unique hi ht' hname

/-- So there are at most as many of them as there are declarations. -/
theorem length_le_of_denotes (hi : i.Made F d₀) {l : Linkage} {ts : List TypeRef}
    (hnodup : ts.Nodup) (h : ∀ t ∈ ts, ∃ holds, i.Denotes d l holds t) :
    ts.length ≤ i.decls.length := by
  have hnames := nodup_names_of_denotes hi hnodup h
  have hsub : ts.map (·.name) ⊆ i.decls.map (·.2.name) := by
    intro name hname
    obtain ⟨t, ht, rfl⟩ := List.mem_map.mp hname
    obtain ⟨holds, ht⟩ := h t ht
    exact ht.name_mem hi
  have hle := (hnames.subperm hsub).length_le
  rwa [List.length_map, List.length_map] at hle

end ClassIndex

end Classpath
