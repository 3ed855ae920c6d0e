import Classpath.Proofs.Delegation

/-!
# What a Class Index Holds

A class index reads every resource of every root once, and of a resource that several roots
hold it keeps one declaration. The roots are gone through in the order of delegation with a
table from names to a scope and a declaration; `Kept` is the invariant of the table, for one
name: what stands there is from the first root of the scope that was entered last. Since
roots come in the order of delegation, the scope entered last is the one furthest up, so in
the end the table holds the declaration of the first root of the most distant loader.

## Main results

* `ClassIndex.lookup_insert`: the table after one more entry.
* `ClassIndex.kept_readRoots`: the invariant holds of the whole table.
* `ClassIndex.Made.decl?_spec`: which root the declaration of a resource is from.
* `ClassIndex.Made.exists_decl?`, `ClassIndex.Made.exists_holds`: every resource has a
  declaration, and every declaration a root.
* `ClassIndex.Made.mem_decls_iff`: the list of declarations as a table.
-/

namespace Classpath

/-- In a list in which every key stands once, looking a key up finds what stands beside it. -/
theorem lookup_eq_some_iff_mem {α β : Type} [DecidableEq α] {l : List (α × β)}
    (h : (l.map (·.1)).Nodup) {k : α} {v : β} : l.lookup k = some v ↔ (k, v) ∈ l := by
  induction l with
  | nil => simp
  | cons e l ih =>
      obtain ⟨k', v'⟩ := e
      rw [List.map_cons, List.nodup_cons] at h
      rw [List.lookup_cons, List.mem_cons]
      by_cases hk : k = k'
      · subst hk
        have hnot : (k, v) ∉ l := fun hmem => h.1 (List.mem_map.mpr ⟨_, hmem, rfl⟩)
        simp [hnot, eq_comm]
      · simp [beq_false_of_ne hk, hk, ih h.2]

/-- The declaration in the class file that a root holds as a resource. -/
def Root.decl (d : Disk) (r : Root) (name : String) : Except ScanError ClassDecl := do
  ClassIndex.parse name (← r.read d name)

namespace ClassIndex

/-- A root of an index holds a resource, and the index has a declaration for it. -/
structure Holds (i : ClassIndex) (r : Root) (resource : String) (decl : ClassDecl) : Prop where
  mem_roots : r ∈ i.resources.roots
  mem_resources : resource ∈ r.resources
  decl?_eq : i.decl? resource = some decl

/-- The class indexes that are made from files: the roots of a loader of `F` were found on one
disk, and their resources read from the disk `d`, which may be another. -/
def Made (F : Loaders) (d : Disk) (i : ClassIndex) : Prop :=
  ∃ (d₀ : Disk) (c : Chain) (f : Filter) (resources : ResourceIndex), c ∈ F.made ∧
    ResourceIndex.build d₀ c f = .ok resources ∧ ofResources d resources = .ok i

/-! ### The table of declarations -/

/-- The entry of the table for a name after one more root that holds it. -/
def overlay (scope : Scope) (decl : ClassDecl) : Option Scoped → Scoped
  | none => (scope, decl)
  | some (other, old) => if other = scope then (other, old) else (scope, decl)

/-- The entry for a name is of the scope of the last root that holds it. -/
theorem overlay_fst (s : Scope) (v : ClassDecl) (x : Option Scoped) :
    (overlay s v x).1 = s := by
  rcases x with _ | ⟨other, old⟩
  · rfl
  · unfold overlay
    dsimp only
    split
    · assumption
    · rfl

/-- Within one scope the declaration that came first stays. -/
theorem overlay_some_same (s : Scope) (v w : ClassDecl) :
    overlay s v (some (s, w)) = (s, w) := by simp [overlay]

theorem overlay_overlay (s : Scope) (v w : ClassDecl) (x : Option Scoped) :
    overlay s v (some (overlay s w x)) = overlay s w x := by
  have h := overlay_fst s w x
  rcases hx : overlay s w x with ⟨other, old⟩
  rw [hx] at h
  subst h
  exact overlay_some_same ..

/-- What is looked up in a table where the values under one name were replaced. -/
theorem lookup_map_replace {β : Type} (l : List (String × β)) (n k : String) (v : β) :
    (l.map fun e => if e.1 = n then (n, v) else e).lookup k =
      if k = n then (l.lookup k).map fun _ => v else l.lookup k := by
  induction l with
  | nil => simp
  | cons e l ih =>
      obtain ⟨k', w⟩ := e
      rw [List.map_cons, List.lookup_cons, ih, List.lookup_cons]
      by_cases hk' : k' = n
      · subst hk'
        by_cases hk : k = k'
        · simp [hk]
        · simp [hk, beq_false_of_ne hk]
      · by_cases hk : k = k'
        · subst hk
          simp [hk']
        · simp [hk', beq_false_of_ne hk]

/-- **The table after one more entry.** -/
theorem lookup_insert (s : Scope) (found : List (String × Scoped)) (e : String × ClassDecl)
    (k : String) :
    (insert s found e).lookup k =
      if k = e.1 then some (overlay s e.2 (found.lookup k)) else found.lookup k := by
  obtain ⟨n, v⟩ := e
  unfold insert
  dsimp only
  rcases hn : found.lookup n with _ | ⟨other, old⟩
  · dsimp only
    rw [List.lookup_append, List.lookup_cons, List.lookup_nil]
    by_cases hk : k = n
    · subst hk
      simp [hn, overlay]
    · simp [hk, beq_false_of_ne hk]
  · dsimp only
    by_cases hs : other = s
    · rw [if_pos hs]
      by_cases hk : k = n
      · subst hk
        simp [hn, overlay, hs]
      · simp [hk]
    · rw [if_neg hs, lookup_map_replace]
      by_cases hk : k = n
      · subst hk
        simp [hn, overlay, hs]
      · simp [hk]

/-- Names stand in the table once. -/
theorem nodup_insert {s : Scope} {found : List (String × Scoped)} {e : String × ClassDecl}
    (h : (found.map (·.1)).Nodup) : ((insert s found e).map (·.1)).Nodup := by
  obtain ⟨n, v⟩ := e
  unfold insert
  dsimp only
  rcases hn : found.lookup n with _ | ⟨other, old⟩
  · dsimp only
    rw [List.map_append, List.map_singleton]
    refine List.Nodup.append h (List.nodup_singleton n) ?_
    rw [List.disjoint_singleton]
    intro hmem
    obtain ⟨e, he, rfl⟩ := List.mem_map.mp hmem
    have := List.lookup_eq_none_iff.mp hn e he
    simp at this
  · dsimp only
    split
    · exact h
    · have hkeys : ((found.map fun e => if e.1 = n then (n, (s, v)) else e).map (·.1)) =
          found.map (·.1) := by
        rw [List.map_map]
        refine List.map_congr_left fun e _ => ?_
        by_cases he : e.1 = n <;> simp [he]
      rw [hkeys]
      exact h

/-- However many declarations are put into a table, each name stands in it once. -/
theorem nodup_foldl_insert {s : Scope} {entries : List (String × ClassDecl)}
    {found : List (String × Scoped)} (h : (found.map (·.1)).Nodup) :
    ((entries.foldl (insert s) found).map (·.1)).Nodup := by
  induction entries generalizing found with
  | nil => exact h
  | cons e entries ih => exact ih (nodup_insert h)

/-- The entries of a root leave other names alone. -/
theorem lookup_foldl_insert_of_notMem {s : Scope} {entries : List (String × ClassDecl)}
    {k : String} (hk : k ∉ entries.map (·.1)) (found : List (String × Scoped)) :
    (entries.foldl (insert s) found).lookup k = found.lookup k := by
  induction entries generalizing found with
  | nil => rfl
  | cons e entries ih =>
      rw [List.map_cons, List.mem_cons, not_or] at hk
      rw [List.foldl_cons, ih hk.2, lookup_insert, if_neg hk.1]

/-- The table after the entries of a root, for a name that it has one declaration for. -/
theorem lookup_foldl_insert_of_mem {s : Scope} {entries : List (String × ClassDecl)}
    {k : String} {v : ClassDecl} (hv : ∀ e ∈ entries, e.1 = k → e.2 = v)
    (hk : k ∈ entries.map (·.1)) (found : List (String × Scoped)) :
    (entries.foldl (insert s) found).lookup k = some (overlay s v (found.lookup k)) := by
  induction entries generalizing found with
  | nil => cases hk
  | cons e entries ih =>
      obtain ⟨he, hrest⟩ := List.forall_mem_cons.mp hv
      rw [List.foldl_cons]
      by_cases hmem : k ∈ entries.map (·.1)
      · rw [ih hrest hmem, lookup_insert]
        split
        · rename_i hke
          rw [he hke.symm, overlay_overlay]
        · rfl
      · have hke : k = e.1 := by
          rw [List.map_cons, List.mem_cons] at hk
          exact hk.resolve_right hmem
        rw [lookup_foldl_insert_of_notMem hmem, lookup_insert, if_pos hke, he hke.symm]

/-! ### The invariant of the table -/

/-- What the table has for a name when the roots `done` were read: the declaration from the
first root, of those that hold the name, in the scope of the last one. -/
def Kept (d : Disk) (name : String) (done : List Root) : Option Scoped → Prop
  | none => ∀ q ∈ done, name ∉ q.resources
  | some (s, v) => ∃ before r after, done = before ++ r :: after ∧
      name ∈ r.resources ∧ r.scope = s ∧ r.decl d name = .ok v ∧
      (∀ q ∈ before, name ∈ q.resources → q.scope ≠ s) ∧
      (∀ q ∈ after, name ∈ q.resources → q.scope = s)

variable {F : Loaders} {d : Disk} {name : String}

/-- A root that does not hold the name changes nothing. -/
theorem Kept.skip {done : List Root} {cur : Option Scoped} (h : Kept d name done cur)
    {q : Root} (hq : name ∉ q.resources) : Kept d name (done ++ [q]) cur := by
  rcases cur with _ | ⟨s, v⟩
  · intro p hp
    obtain hp | hp := List.mem_append.mp hp
    · exact h p hp
    · rwa [List.mem_singleton.mp hp]
  · obtain ⟨before, r, after, rfl, hr, hs, hdecl, hbefore, hafter⟩ := h
    refine ⟨before, r, after ++ [q], by simp, hr, hs, hdecl, hbefore, fun p hp hname => ?_⟩
    obtain hp | hp := List.mem_append.mp hp
    · exact hafter p hp hname
    · rw [List.mem_singleton.mp hp] at hname
      exact absurd hname hq

/-- A root that holds the name takes the place in the table, unless it is of the scope that
stands there. No root before it can be of its scope then: the loader whose scope stands there
would be above and below the loader of that scope. -/
theorem Kept.enter {done : List Root} {cur : Option Scoped} (h : Kept d name done cur)
    {q : Root} {v : ClassDecl} (hq : name ∈ q.resources) (hv : q.decl d name = .ok v)
    (hmade : ∀ p ∈ done ++ [q], p.chain ∈ F.made)
    (horder : (done ++ [q]).Pairwise fun a b => b.chain ∈ a.chain.chains) :
    Kept d name (done ++ [q]) (some (overlay q.scope v cur)) := by
  rcases cur with _ | ⟨s, w⟩
  · exact ⟨done, q, [], rfl, hq, rfl, hv, fun p hp hname => absurd hname (h p hp), by simp⟩
  · obtain ⟨before, r, after, rfl, hr, hs, hdecl, hbefore, hafter⟩ := h
    by_cases hsame : s = q.scope
    · have hover : overlay q.scope v (some (s, w)) = (s, w) := by simp [overlay, hsame]
      rw [hover]
      refine ⟨before, r, after ++ [q], by simp, hr, hs, hdecl, hbefore, fun p hp hname => ?_⟩
      obtain hp | hp := List.mem_append.mp hp
      · exact hafter p hp hname
      · rw [List.mem_singleton.mp hp, hsame]
    · have hover : overlay q.scope v (some (s, w)) = (q.scope, v) := by simp [overlay, hsame]
      rw [hover]
      refine ⟨before ++ r :: after, q, [], rfl, hq, rfl, hv, fun p hp hname hscope => ?_, by simp⟩
      rw [List.append_assoc, List.pairwise_append] at horder
      obtain ⟨-, hrest, hcross⟩ := horder
      have hp' := hp
      rw [List.mem_append, List.mem_cons] at hp
      obtain hp | rfl | hp := hp
      · have hpq : p.chain = q.chain :=
          F.eq_of_scope_eq (hmade p (List.mem_append_left _ hp')) (hmade q (by simp)) hscope
        have hrp : r.chain ∈ p.chain.chains := hcross p hp r (by simp)
        have hqr : q.chain ∈ r.chain.chains :=
          (List.pairwise_cons.mp hrest).1 q (by simp)
        have hqr' : q.chain = r.chain := Chain.chains_antisymm hqr (hpq ▸ hrp)
        apply hsame
        rw [← hs, Root.scope, Root.scope, hqr']
      · exact hsame (hs.symm.trans hscope)
      · exact hsame ((hafter p hp hname).symm.trans hscope)

/-- What reading each resource of a root yields. -/
theorem readEach_spec {r : Root} {entries : List (String × ClassDecl)}
    (h : r.readEach d parse = .ok entries) :
    (∀ e ∈ entries, r.decl d e.1 = .ok e.2) ∧ ∀ n, n ∈ entries.map (·.1) ↔ n ∈ r.resources := by
  have hstep : ∀ {n : String} {e : String × ClassDecl},
      (do let content ← r.read d n; return (n, ← parse n content)) = .ok e →
        e.1 = n ∧ r.decl d n = .ok e.2 := by
    intro n e he
    obtain ⟨content, hcontent, he⟩ := bind_eq_ok_iff.mp he
    obtain ⟨decl, hdecl, he⟩ := bind_eq_ok_iff.mp he
    rw [pure_eq_ok_iff] at he
    subst he
    exact ⟨rfl, bind_eq_ok_iff.mpr ⟨content, hcontent, hdecl⟩⟩
  constructor
  · intro e he
    obtain ⟨n, -, hn⟩ := exists_of_mem_mapM h he
    obtain ⟨rfl, hdecl⟩ := hstep hn
    exact hdecl
  · intro n
    constructor
    · intro hn
      obtain ⟨e, he, rfl⟩ := List.mem_map.mp hn
      obtain ⟨n, hmem, hn⟩ := exists_of_mem_mapM h he
      exact (hstep hn).1 ▸ hmem
    · intro hn
      obtain ⟨e, he, hstep'⟩ := exists_mem_of_mapM h hn
      exact List.mem_map.mpr ⟨e, he, (hstep hstep').1⟩

/-- **The invariant holds of the whole table.** -/
theorem kept_readRoots (done : List Root) {roots : List Root} {found out : List (String × Scoped)}
    (hread : readRoots d roots found = .ok out)
    (hmade : ∀ p ∈ done ++ roots, p.chain ∈ F.made)
    (horder : (done ++ roots).Pairwise fun a b => b.chain ∈ a.chain.chains)
    (hnodup : (found.map (·.1)).Nodup) (hkept : ∀ n, Kept d n done (found.lookup n)) :
    (out.map (·.1)).Nodup ∧ ∀ n, Kept d n (done ++ roots) (out.lookup n) := by
  induction roots generalizing done found with
  | nil =>
      cases hread
      rw [List.append_nil]
      exact ⟨hnodup, hkept⟩
  | cons r roots ih =>
      obtain ⟨entries, hentries, hread⟩ := bind_eq_ok_iff.mp hread
      obtain ⟨hdecls, hnames⟩ := readEach_spec hentries
      have hsplit : done ++ r :: roots = (done ++ [r]) ++ roots := by simp
      rw [hsplit] at hmade horder ⊢
      refine ih (done ++ [r]) hread hmade horder (nodup_foldl_insert hnodup) fun n => ?_
      by_cases hn : n ∈ entries.map (·.1)
      · obtain ⟨e, he, rfl⟩ := List.mem_map.mp hn
        have hsame : ∀ e' ∈ entries, e'.1 = e.1 → e'.2 = e.2 := by
          intro e' he' heq
          have := (hdecls e' he').symm.trans (heq ▸ hdecls e he)
          exact Except.ok.inj this
        rw [lookup_foldl_insert_of_mem hsame hn]
        exact (hkept e.1).enter ((hnames e.1).mp hn) (hdecls e he)
          (fun p hp => hmade p (List.mem_append_left _ hp)) (List.pairwise_append.mp horder).1
      · rw [lookup_foldl_insert_of_notMem hn]
        exact (hkept n).skip fun h => hn ((hnames n).mpr h)

/-! ### The declarations of an index -/

/-- The index that is made from some resources, by the table. -/
theorem ofResources_spec {resources : ResourceIndex} {i : ClassIndex}
    (h : ofResources d resources = .ok i) :
    i.resources = resources ∧ ∃ found, readRoots d resources.roots [] = .ok found ∧
      ((found.map (·.1)).Nodup →
        (i.decls.map (·.1)).Nodup ∧
        ∀ n, i.decl? n = (found.lookup n).map (·.2)) := by
  obtain ⟨found, hfound, h⟩ := bind_eq_ok_iff.mp h
  rw [pure_eq_ok_iff] at h
  subst h
  refine ⟨rfl, found, hfound, fun hnodup => ?_⟩
  have hperm := List.mergeSort_perm found fun a b => decide (a.1 ≤ b.1)
  have hkeys : ((found.mergeSort fun a b => decide (a.1 ≤ b.1)).map (·.1)).Nodup :=
    (hperm.map (·.1)).nodup_iff.mpr hnodup
  have hmap : (List.map (fun x : String × Scoped => x.1) <|
      found.mergeSort fun a b => decide (a.1 ≤ b.1)) =
      ((found.mergeSort fun a b => decide (a.1 ≤ b.1)).map
        fun (x : String × Scoped) => (x.1, x.2.2)).map (·.1) := by
    rw [List.map_map]
    rfl
  refine ⟨hmap ▸ hkeys, fun n => ?_⟩
  refine Option.ext fun v => ?_
  show List.lookup n _ = some v ↔ _
  rw [lookup_eq_some_iff_mem (hmap ▸ hkeys), Option.map_eq_some_iff]
  constructor
  · intro hmem
    obtain ⟨⟨k, s, w⟩, he, heq⟩ := List.mem_map.mp hmem
    simp only [Prod.mk.injEq] at heq
    obtain ⟨rfl, rfl⟩ := heq
    exact ⟨(s, w), (lookup_eq_some_iff_mem hnodup).mpr (hperm.mem_iff.mp he), rfl⟩
  · rintro ⟨⟨s, w⟩, hlookup, rfl⟩
    exact List.mem_map.mpr
      ⟨(n, s, w), hperm.mem_iff.mpr ((lookup_eq_some_iff_mem hnodup).mp hlookup), rfl⟩

/-- The loader that an index is for was made. -/
theorem Made.chain_mem {i : ClassIndex} (h : i.Made F d) : i.resources.chain ∈ F.made := by
  obtain ⟨d₀, c, f, resources, hc, hbuild, hof⟩ := h
  obtain ⟨roots, -, hresources⟩ := bind_eq_ok_iff.mp hbuild
  rw [pure_eq_ok_iff] at hresources
  rw [(ofResources_spec hof).1, hresources]
  exact hc

/-- The roots of an index come in the order of delegation. -/
theorem Made.roots_spec {i : ClassIndex} (h : i.Made F d) :
    i.resources.roots.Pairwise (fun a b => b.chain ∈ a.chain.chains) ∧
      ∀ r ∈ i.resources.roots, r.chain ∈ i.resources.chain.chains := by
  obtain ⟨d₀, c, f, resources, hc, hbuild, hof⟩ := h
  obtain ⟨roots, hroots, hresources⟩ := bind_eq_ok_iff.mp hbuild
  rw [pure_eq_ok_iff] at hresources
  rw [(ofResources_spec hof).1, hresources]
  exact Root.discover_pairwise hroots

theorem Made.root_mem {i : ClassIndex} (h : i.Made F d) {r : Root}
    (hr : r ∈ i.resources.roots) : r.chain ∈ F.made :=
  F.mem_of_mem_chains h.chain_mem (h.roots_spec.2 r hr)

/-- **The table of an index** has each name once, and under it what the roots leave when they are
gone through in turn. -/
theorem Made.table_spec {i : ClassIndex} (h : i.Made F d) :
    (i.decls.map (·.1)).Nodup ∧ ∃ found : List (String × Scoped),
      (∀ n, Kept d n i.resources.roots (found.lookup n)) ∧
      ∀ n, i.decl? n = (found.lookup n).map (·.2) := by
  obtain ⟨d₀, c, f, resources, hc, hbuild, hof⟩ := h
  have hmade : i.Made F d := ⟨d₀, c, f, resources, hc, hbuild, hof⟩
  obtain ⟨hres, found, hfound, hdecls⟩ := ofResources_spec hof
  rw [← hres] at hfound
  obtain ⟨hnodup, hkept⟩ := kept_readRoots [] hfound (fun p hp => hmade.root_mem hp)
    hmade.roots_spec.1 List.nodup_nil (fun n => by simp [Kept])
  obtain ⟨hkeys, hlookup⟩ := hdecls hnodup
  exact ⟨hkeys, found, hkept, hlookup⟩

/-- The list of declarations as a table. -/
theorem Made.mem_decls_iff {i : ClassIndex} (h : i.Made F d) {n : String} {v : ClassDecl} :
    (n, v) ∈ i.decls ↔ i.decl? n = some v :=
  (lookup_eq_some_iff_mem h.table_spec.1).symm

/-- **Which root a declaration is from**: of those that hold the resource, the first root of
the most distant loader. Every other root that holds it is of the same loader, and comes
later, or of one from which that loader is above. -/
theorem Made.decl?_spec {i : ClassIndex} (h : i.Made F d) {n : String} {v : ClassDecl}
    (hdecl : i.decl? n = some v) :
    ∃ before r after, i.resources.roots = before ++ r :: after ∧ n ∈ r.resources ∧
      r.decl d n = .ok v ∧
      (∀ q ∈ before, n ∈ q.resources → q.chain ≠ r.chain ∧ r.chain ∈ q.chain.chains) ∧
      (∀ q ∈ after, n ∈ q.resources → q.chain = r.chain) := by
  obtain ⟨-, found, hkept, hlookup⟩ := h.table_spec
  rw [hlookup, Option.map_eq_some_iff] at hdecl
  obtain ⟨⟨s, w⟩, hfind, rfl⟩ := hdecl
  have hn := hkept n
  rw [hfind] at hn
  obtain ⟨before, r, after, hsplit, hr, rfl, hv, hbefore, hafter⟩ := hn
  have horder := h.roots_spec.1
  rw [hsplit, List.pairwise_append] at horder
  have hmem : ∀ {q}, q ∈ before ++ r :: after → q.chain ∈ F.made :=
    fun hq => h.root_mem (hsplit ▸ hq)
  refine ⟨before, r, after, hsplit, hr, hv, fun q hq hname => ⟨fun heq => ?_, ?_⟩,
    fun q hq hname => ?_⟩
  · exact hbefore q hq hname (by rw [Root.scope, Root.scope, heq])
  · exact horder.2.2 q hq r (by simp)
  · exact F.eq_of_scope_eq (hmem (by simp [hq])) (hmem (by simp)) (hafter q hq hname)

/-- Every declaration is held by a root. -/
theorem Made.exists_holds {i : ClassIndex} (h : i.Made F d) {e : String × ClassDecl}
    (he : e ∈ i.decls) : ∃ r, i.Holds r e.1 e.2 := by
  have hdecl := h.mem_decls_iff.mp he
  obtain ⟨before, r, after, hroots, hn, -⟩ := h.decl?_spec hdecl
  have hr : r ∈ i.resources.roots := by
    rw [hroots]
    exact List.mem_append_right _ List.mem_cons_self
  exact ⟨r, hr, hn, hdecl⟩

/-- **Every resource has a declaration.** -/
theorem Made.exists_decl? {i : ClassIndex} (h : i.Made F d) {r : Root} {n : String}
    (hr : r ∈ i.resources.roots) (hn : n ∈ r.resources) : ∃ v, i.decl? n = some v := by
  obtain ⟨-, found, hkept, hlookup⟩ := h.table_spec
  rw [hlookup]
  rcases hfind : found.lookup n with _ | ⟨s, v⟩
  · have hk := hkept n
    rw [hfind] at hk
    exact absurd hn (hk r hr)
  · exact ⟨v, rfl⟩

end ClassIndex

end Classpath
