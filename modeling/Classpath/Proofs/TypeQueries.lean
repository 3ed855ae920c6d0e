import Classpath.Proofs.Dependence
import Classpath.Proofs.Implementers

/-!
# What Queries for Types Resolve

A query for types resolves the names of the declarations it is concerned with, each through the
loader of the root that holds it, and nothing else. It is concerned with those that match, and a
query for all subtypes with those that a chain of superclasses leads to. So it succeeds if and only
if all these names resolve, and then it finds the types they resolve to; if one does not, the error
bears its name. And it comes to the same whatever other classes there are, or are not.

Queries that ask for one thing come across the declarations root by root, and within a root in the
order of its resources (`ClassIndex.visited`). Their error is that of the first name that does not
resolve.

## Main definitions

* `ClassIndex.visited`: the declarations, with the roots that hold them.
* `ClassIndex.Under`, `ClassIndex.Within`: what the queries for all subtypes and for implementers
  are concerned with.
* `ClassIndex.Settles`: what is said of a query that is concerned with some declarations.

## Main results

* `ClassIndex.comes_collect`: what a query comes to, from what its questions do.
* `ClassIndex.alike_collect`, `ClassIndex.alike_subtypes`, `ClassIndex.alike_implementers`: what
  queries depend on.
* `ClassIndex.type_queries_settle`: the queries for types.
-/

namespace Classpath

open Relation (ReflTransGen)

namespace ClassIndex

variable {α : Type} {d d₀ : Disk} {F : Loaders} {N : String → Prop} {l : Linkage}
  {w w' : Disk × Linkage} {i : ClassIndex}

/-! ### The order of declarations -/

/-- The declarations of an index in the order in which queries come across them, each with the root
that holds it. -/
def visited (i : ClassIndex) : List (Root × ClassDecl) :=
  i.resources.roots.flatMap fun r => (r.resources.filterMap i.decl?).map (r, ·)

/-- What queries come across are the declarations that the roots of the index hold. -/
theorem mem_visited {q : Root × ClassDecl} : q ∈ i.visited ↔ ∃ n, i.Holds q.1 n q.2 := by
  unfold visited
  rw [List.mem_flatMap]
  constructor
  · rintro ⟨r, hr, hq⟩
    obtain ⟨decl, hdecl, rfl⟩ := List.mem_map.mp hq
    obtain ⟨n, hn, hdecl⟩ := List.mem_filterMap.mp hdecl
    exact ⟨n, hr, hn, hdecl⟩
  · rintro ⟨n, hr, hn, hdecl⟩
    exact ⟨q.1, hr, List.mem_map.mpr ⟨q.2, List.mem_filterMap.mpr ⟨n, hn, hdecl⟩, rfl⟩⟩

/-! ### What a query comes to -/

section Collect

variable [DecidableEq α]

/-- The answers to some questions, on top of what was found before. -/
def gathered (answer : Root × ClassDecl → Except ScanError (List α))
    (qs : List (Root × ClassDecl)) (before : List α) : Except ScanError (List α) :=
  (qs.mapM answer).map (·.foldl union before)

variable {answer : Root × ClassDecl → Except ScanError (List α)} {m : Matcher α}

/-- The first answer is joined to what was found before, and the others to that. -/
theorem gathered_cons (q : Root × ClassDecl) (qs : List (Root × ClassDecl)) (before : List α) :
    gathered answer (q :: qs) before =
      answer q >>= fun as => gathered answer qs (union before as) := by
  unfold gathered
  rw [List.mapM_cons]
  rcases answer q with e | as
  · rfl
  · rcases qs.mapM answer with e | found <;> rfl

/-- The answers to some questions are joined before those to further ones, unless one of them is an
error. -/
theorem gathered_append (qs qs' : List (Root × ClassDecl)) (before : List α) :
    gathered answer (qs ++ qs') before = gathered answer qs before >>= gathered answer qs' := by
  induction qs generalizing before with
  | nil => rfl
  | cons q qs ih =>
      rw [List.cons_append, gathered_cons, gathered_cons, bind_assoc]
      exact bind_congr fun as => ih _

/-- What a query comes to in one root: the answers for its resources, one after the other. -/
theorem comes_collectRoot {r : Root} {resources : List String} {before : List α}
    (hsome : ∀ n ∈ resources, ∃ decl, i.decl? n = some decl)
    (hm : ∀ decl ∈ resources.filterMap i.decl?, Comes F N w (m r.chain decl) (answer (r, decl))) :
    Comes F N w (collectRoot i r.chain m resources before)
      (gathered answer ((resources.filterMap i.decl?).map (r, ·)) before) := by
  induction resources generalizing before with
  | nil => exact comes_pure
  | cons n resources ih =>
      obtain ⟨⟨decl, hdecl⟩, hsome⟩ := List.forall_mem_cons.mp hsome
      rw [List.filterMap_cons_some hdecl] at hm ⊢
      obtain ⟨hfirst, hrest⟩ := List.forall_mem_cons.mp hm
      unfold collectRoot
      rw [hdecl, List.map_cons, gathered_cons]
      exact comes_bind hfirst fun as _ => ih hsome hrest

/-- What a query comes to in some roots of the index: the answers for each of them in turn. -/
theorem comes_collectRoots (hi : i.Made F d₀) {roots : List Root} {before : List α}
    (hroots : roots ⊆ i.resources.roots)
    (hm : ∀ q ∈ i.visited, Comes F N w (m q.1.chain q.2) (answer q)) :
    Comes F N w (collectRoots i m roots before) (gathered answer
      (roots.flatMap fun r => (r.resources.filterMap i.decl?).map (r, ·)) before) := by
  induction roots generalizing before with
  | nil => exact comes_pure
  | cons r roots ih =>
      obtain ⟨hr, hroots⟩ := List.cons_subset.mp hroots
      have hask : ∀ decl ∈ r.resources.filterMap i.decl?,
          Comes F N w (m r.chain decl) (answer (r, decl)) := by
        intro decl hdecl
        obtain ⟨n, hn, hdecl⟩ := List.mem_filterMap.mp hdecl
        exact hm (r, decl) (mem_visited.mpr ⟨n, hr, hn, hdecl⟩)
      rw [List.flatMap_cons, gathered_append]
      exact comes_bind (comes_collectRoot (fun n hn => hi.exists_decl? hr hn) hask)
        fun found _ => ih hroots

/-- **What a query comes to** is what its questions do, in the order in which the declarations are
come across. -/
theorem comes_collect (hi : i.Made F d₀)
    (hm : ∀ q ∈ i.visited, Comes F N w (m q.1.chain q.2) (answer q)) :
    Comes F N w (i.collect m) (gathered answer i.visited []) :=
  comes_collectRoots hi (List.Subset.refl _) hm

end Collect

/-! ### Questions for types -/

/-- The name of a declaration resolves through the loader of the root that holds it. -/
def Resolvable (d : Disk) (l : Linkage) (q : Root × ClassDecl) : Prop :=
  ∃ t l', Runs (resolve d q.2.name q.1.chain) l t l'

/-- The error of a query for the name of a declaration that does not resolve. -/
def Unresolved (d : Disk) (l : Linkage) (q : Root × ClassDecl) (e : ScanError) : Prop :=
  ∃ cause, Fails (resolve d q.2.name q.1.chain) l cause ∧
    e = .resolution q.2.name cause.message

/-- What is answered for one declaration: its type, if it matches. -/
def typesOf (w : Disk × Linkage) (holds : ClassDecl → Bool) (q : Root × ClassDecl) :
    Except ScanError (List TypeRef) :=
  if holds q.2 then
    (resolution w q.2.name q.1.chain).mapError (fun e => .resolution q.2.name e.message) >>=
      fun t => .ok [t]
  else .ok []

variable {holds : ClassDecl → Bool} {q : Root × ClassDecl} {e : ScanError}

/-- That a name resolves is that what it is resolved to is a type. -/
theorem resolvable_iff : Resolvable d l q ↔ ∃ t, resolution (d, l) q.2.name q.1.chain = .ok t := by
  unfold Resolvable Runs resolution
  constructor
  · rintro ⟨t, l', hrun⟩
    exact ⟨t, by rw [hrun]⟩
  · rintro ⟨t, ht⟩
    exact ⟨t, _, Prod.ext ht rfl⟩

/-- The error for a name is the failure of its resolution, worded as one of a scan. -/
theorem unresolved_iff : Unresolved d l q e ↔
    (resolution (d, l) q.2.name q.1.chain).mapError
      (fun e => ScanError.resolution q.2.name e.message) = .error e := by
  unfold Unresolved Fails
  change (∃ cause, resolution (d, l) q.2.name q.1.chain = .error cause ∧ _) ↔ _
  rcases resolution (d, l) q.2.name q.1.chain with cause | t
  · simp [Except.mapError, eq_comm]
  · simp [Except.mapError]

theorem not_resolvable_of_unresolved (h : Unresolved d l q e) : ¬Resolvable d l q := by
  rw [resolvable_iff]
  rintro ⟨t, ht⟩
  rw [unresolved_iff, ht] at h
  cases h

/-- There is an answer for a declaration unless it matches and its name does not resolve. -/
theorem exists_typesOf_iff :
    (∃ ts, typesOf (d, l) holds q = .ok ts) ↔ (holds q.2 = true → Resolvable d l q) := by
  unfold typesOf
  split
  · rename_i hdecl
    rw [resolvable_iff]
    simp [bind_eq_ok_iff, mapError_eq_ok_iff, hdecl]
  · rename_i hdecl
    simp [hdecl]

/-- And there is an error if it matches and this is the error of its name. -/
theorem typesOf_eq_error_iff :
    typesOf (d, l) holds q = .error e ↔ holds q.2 = true ∧ Unresolved d l q e := by
  unfold typesOf
  split
  · rename_i hdecl
    rw [bind_eq_error_iff, unresolved_iff]
    simp [hdecl]
  · rename_i hdecl
    simp [hdecl]

/-- **The error of the answers** is that of the first name that does not resolve. -/
theorem isFirst_of_gathered_error {qs : List (Root × ClassDecl)} {before : List TypeRef}
    (h : gathered (typesOf (d, l) holds) qs before = .error e) :
    ∃ q, IsFirst (fun q => holds q.2 = true ∧ ¬Resolvable d l q) qs q ∧ Unresolved d l q e := by
  have hfails : qs.mapM (typesOf (d, l) holds) = .error e := by
    unfold gathered at h
    rcases hqs : qs.mapM (typesOf (d, l) holds) with e' | found
    · rw [hqs] at h
      cases h
      rfl
    · rw [hqs] at h
      cases h
  obtain ⟨earlier, q, later, hsplit, hearlier, hq⟩ := mapM_eq_error_iff.mp hfails
  obtain ⟨hdecl, hunresolved⟩ := typesOf_eq_error_iff.mp hq
  refine ⟨q, ⟨earlier, later, hsplit, ⟨hdecl, not_resolvable_of_unresolved hunresolved⟩, ?_⟩,
    hunresolved⟩
  rintro b hb ⟨hmatch, hnot⟩
  exact hnot (exists_typesOf_iff.mp (hearlier b hb) hmatch)

/-- What a matcher for types comes to at a declaration: the name is resolved if the declaration
matches, and only then. -/
theorem comes_typeWhere (hr : q.1.chain ∈ F.made) (hn : holds q.2 = true → N q.2.name) :
    Comes F N w (typeWhere w.1 holds q.1.chain q.2) (typesOf w holds q) := by
  unfold typeWhere typesOf
  split
  · rename_i hdecl
    exact comes_bind (comes_lift (comes_resolve hr (hn hdecl))) fun t _ => comes_pure
  · exact comes_pure

/-! ### What queries depend on -/

/-- The names that a query is concerned with. -/
def Concerns (i : ClassIndex) (concerned : ClassDecl → Prop) (n : String) : Prop :=
  ∃ q ∈ i.visited, concerned q.2 ∧ q.2.name = n

/-- The error is that of a name that a query is concerned with, and that does not resolve. -/
def Breaks (i : ClassIndex) (w : Disk × Linkage) (concerned : ClassDecl → Prop)
    (e : ScanError) : Prop :=
  ∃ q ∈ i.visited, concerned q.2 ∧ Unresolved w.1 w.2 q e

/-- The loaders have the same under the names that a query is concerned with: the same classes are
defined, and the entries hold the same. -/
def SameFor (i : ClassIndex) (concerned : ClassDecl → Prop) (w w' : Disk × Linkage) : Prop :=
  ∀ q ∈ i.visited, concerned q.2 → ∀ p ∈ q.1.chain.chains,
    w'.2.find? p.scope q.2.name = w.2.find? p.scope q.2.name ∧
      p.loader.classBytes? w'.1 q.2.name = p.loader.classBytes? w.1 q.2.name

variable {concerned : ClassDecl → Prop}

/-- Where the loaders have the same under a name, it is resolved to the same type or fails in the
same way. -/
theorem SameFor.resolution_eq (h : i.SameFor concerned w w') (hq : q ∈ i.visited)
    (hconcerned : concerned q.2) :
    resolution w' q.2.name q.1.chain = resolution w q.2.name q.1.chain := by
  refine resolution_congr (Linkage.class?_congr fun p hp => ?_)
  obtain ⟨hfind, hbytes⟩ := h q hq hconcerned p hp
  unfold Linkage.own?
  rw [hfind, hbytes]

theorem gathered_congr {answer answer' : Root × ClassDecl → Except ScanError (List TypeRef)}
    {qs : List (Root × ClassDecl)} {before : List TypeRef}
    (h : ∀ q ∈ qs, answer' q = answer q) :
    gathered answer' qs before = gathered answer qs before := by
  induction qs generalizing before with
  | nil => rfl
  | cons q qs ih =>
      obtain ⟨hq, hqs⟩ := List.forall_mem_cons.mp h
      rw [gathered_cons, gathered_cons, hq]
      exact bind_congr fun ts => ih hqs

/-- **What a direct query comes to** is what resolution of the matching names does. -/
theorem comes_collect_typeWhere (hi : i.Made F d₀)
    (hconcerned : ∀ decl, holds decl = true → concerned decl) (w : Disk × Linkage) :
    Comes F (i.Concerns concerned) w (i.collect (typeWhere w.1 holds))
      (gathered (typesOf w holds) i.visited []) := by
  refine comes_collect hi fun q hq => comes_typeWhere ?_ ?_
  · obtain ⟨n, hr⟩ := mem_visited.mp hq
    exact hi.root_mem hr.mem_roots
  · exact fun hdecl => ⟨q, hq, hconcerned _ hdecl, rfl⟩

/-- **A direct query** depends on the names of the declarations that match. -/
theorem alike_collect (hi : i.Made F d₀) (hsame : i.SameFor concerned w w')
    (hconcerned : ∀ decl, holds decl = true → concerned decl) :
    Alike F (i.Concerns concerned) w w' (i.collect (typeWhere w.1 holds))
      (i.collect (typeWhere w'.1 holds))
      (fun ts => ∀ t ∈ ts, ∃ e ∈ i.decls, holds e.2 = true ∧ e.2.name = t.name)
      (i.Breaks w concerned) := by
  have hcomes := comes_collect_typeWhere hi hconcerned
  have hanswers : ∀ q ∈ i.visited, typesOf w' holds q = typesOf w holds q := by
    intro q hq
    unfold typesOf
    split
    · rename_i hdecl
      rw [hsame.resolution_eq hq (hconcerned _ hdecl)]
    · rfl
  refine ⟨gathered (typesOf w holds) i.visited [], hcomes w, ?_, fun ts hts t ht => ?_,
    fun e he => ?_⟩
  · rw [← gathered_congr hanswers]
    exact hcomes w'
  · have hrun : Runs (i.collect (typeWhere w.1 holds)) w.2 ts _ :=
      Prod.ext ((hcomes w).outcome.1.trans hts) rfl
    obtain ⟨-, -, -, hmem⟩ := (adds_collect_typeWhere hi).of_runs (.refl w.1 F w.2) hrun
    exact exists_decl_of_denotes hi ((hmem t).mp ht)
  · obtain ⟨q, hfirst, hunresolved⟩ := isFirst_of_gathered_error he
    exact ⟨q, hfirst.mem, hconcerned _ hfirst.holds.1, hunresolved⟩

/-! ### Queries for all subtypes -/

/-- A chain of superclasses leads from a declaration to a name, in one step or more. -/
def Under (i : ClassIndex) (name : String) (decl : ClassDecl) : Prop :=
  ∃ super, decl.directlyExtends super = true ∧ ReflTransGen i.Extends name super

variable {name : String}

theorem under_of_directlyExtends {decl : ClassDecl} (h : decl.directlyExtends name = true) :
    i.Under name decl :=
  ⟨name, h, ReflTransGen.refl⟩

/-- What is under a subtype is under the type. -/
theorem Under.of_reach {middle : String} {decl : ClassDecl}
    (hreach : ReflTransGen i.Extends name middle) (h : i.Under middle decl) :
    i.Under name decl := by
  obtain ⟨super, hdecl, hsuper⟩ := h
  exact ⟨super, hdecl, hreach.trans hsuper⟩

section Alike

variable (hi : i.Made F d₀) (hsame : i.SameFor concerned w w')

include hi hsame

/-- A search for direct subtypes, of a name that is reached, depends on names that the whole search
is concerned with, and finds types whose names are reached in their turn. -/
theorem alike_directSubtypes (hconcerned : ∀ decl, i.Under name decl → concerned decl)
    {middle : String} (hreach : ReflTransGen i.Extends name middle) :
    Alike F (i.Concerns concerned) w w' (i.directSubtypes w.1 middle)
      (i.directSubtypes w'.1 middle)
      (fun ts => ∀ t ∈ ts, ReflTransGen i.Extends name t.name) (i.Breaks w concerned) := by
  refine (alike_collect hi hsame fun decl hdecl =>
    hconcerned decl ((under_of_directlyExtends hdecl).of_reach hreach)).mono fun ts hts t ht => ?_
  obtain ⟨e, he, hdecl, hname⟩ := hts t ht
  exact hreach.tail ⟨e, he, by simpa [ClassDecl.directlyExtends] using hdecl, hname⟩

/-- **One round** leads from names that are reached to such names. -/
theorem alike_nextSubtypes (hconcerned : ∀ decl, i.Under name decl → concerned decl)
    (known types : List TypeRef) {next : List TypeRef}
    (htypes : ∀ s ∈ types, ReflTransGen i.Extends name s.name)
    (hnext : ∀ s ∈ next, ReflTransGen i.Extends name s.name) :
    Alike F (i.Concerns concerned) w w' (i.nextSubtypes w.1 known types next)
      (i.nextSubtypes w'.1 known types next)
      (fun ts => ∀ t ∈ ts, ReflTransGen i.Extends name t.name) (i.Breaks w concerned) := by
  induction types generalizing next with
  | nil => exact alike_pure hnext
  | cons s types ih =>
      obtain ⟨hs, htypes⟩ := List.forall_mem_cons.mp htypes
      refine alike_bind (alike_directSubtypes hi hsame hconcerned hs) fun direct hdirect =>
        ih htypes fun t ht => ?_
      obtain ht | ht := mem_union.mp ht
      · exact hnext t ht
      · exact hdirect t (List.mem_of_mem_filter ht)

/-- **All rounds** depend on the names under the type, whatever their number, as long as the types
on the frontier are reached. -/
theorem alike_closeSubtypes (hconcerned : ∀ decl, i.Under name decl → concerned decl)
    {order : Order} (horder : ∀ ts t, t ∈ order ts ↔ t ∈ ts) (rounds : Nat)
    {found frontier : List TypeRef}
    (hfrontier : ∀ s ∈ frontier, ReflTransGen i.Extends name s.name) :
    Alike F (i.Concerns concerned) w w' (i.closeSubtypes w.1 order rounds found frontier)
      (i.closeSubtypes w'.1 order rounds found frontier) (fun _ => True)
      (i.Breaks w concerned) := by
  -- the invariant is that the frontier holds only types whose names are reached
  induction rounds generalizing found frontier with
  | zero => exact alike_pure trivial
  | succ rounds ih =>
      unfold closeSubtypes
      split
      · exact alike_pure trivial
      · refine alike_bind (alike_nextSubtypes hi hsame hconcerned _ _ (fun s hs => ?_) (by simp))
          fun next hnext => ih hnext
        exact hfrontier s ((horder _ s).mp hs)

/-- **The search for subtypes** depends on the names of the declarations under the type. -/
theorem alike_subtypes {order : Order} (horder : ∀ ts t, t ∈ order ts ↔ t ∈ ts)
    (hconcerned : ∀ decl, i.Under name decl → concerned decl) :
    Alike F (i.Concerns concerned) w w' (i.subtypes w.1 order name) (i.subtypes w'.1 order name)
      (fun _ => True) (i.Breaks w concerned) :=
  alike_bind (alike_directSubtypes hi hsame hconcerned ReflTransGen.refl) fun _ hdirect =>
    alike_closeSubtypes hi hsame hconcerned horder _ hdirect

/-- The searches for what is below some types depend on the names under these. -/
theorem alike_addSubtypes {order : Order} (horder : ∀ ts t, t ∈ order ts ↔ t ∈ ts)
    {types found : List TypeRef}
    (hconcerned : ∀ s ∈ types, ∀ decl, i.Under s.name decl → concerned decl) :
    Alike F (i.Concerns concerned) w w' (i.addSubtypes w.1 order types found)
      (i.addSubtypes w'.1 order types found) (fun _ => True) (i.Breaks w concerned) := by
  induction types generalizing found with
  | nil => exact alike_pure trivial
  | cons s types ih =>
      obtain ⟨hs, htypes⟩ := List.forall_mem_cons.mp hconcerned
      exact alike_bind (alike_subtypes hi hsame horder hs) fun _ _ => ih htypes

end Alike

/-- A declaration lists an interface, or is under one that does. -/
def Within (i : ClassIndex) (name : String) (decl : ClassDecl) : Prop :=
  decl.directlyImplements name = true ∨
    ∃ e ∈ i.decls, e.2.directlyImplements name = true ∧ i.Under e.2.name decl

/-- **The search for implementers** depends on the names of the declarations that list the
interface, and of those under them. -/
theorem alike_implementers (hi : i.Made F d₀) (hsame : i.SameFor (i.Within name) w w')
    {order : Order} (horder : ∀ ts t, t ∈ order ts ↔ t ∈ ts) :
    Alike F (i.Concerns (i.Within name)) w w' (i.implementers w.1 order name)
      (i.implementers w'.1 order name) (fun _ => True) (i.Breaks w (i.Within name)) := by
  refine alike_bind (alike_collect hi hsame fun _ => Or.inl) fun direct hdirect =>
    alike_addSubtypes hi hsame horder fun s hs decl hunder => Or.inr ?_
  obtain ⟨e, he, hdecl, hname⟩ := hdirect s ((horder _ s).mp hs)
  exact ⟨e, he, hdecl, hname ▸ hunder⟩

/-! ### Successes and answers -/

/-- That a name resolves is that the loader or one above it has a class under it. -/
theorem resolvable_iff_class? :
    Resolvable d l q ↔ ∃ found, l.class? d q.2.name q.1.chain = .ok (some found) := by
  simp only [Resolvable, runs_resolve_iff]
  constructor
  · rintro ⟨t, _, cls, hclass, -⟩
    exact ⟨_, hclass⟩
  · rintro ⟨⟨t, cls⟩, hclass⟩
    exact ⟨t, _, cls, hclass, rfl⟩

/-- A direct query resolves if the name of each declaration that matches does. -/
theorem resolves_iff :
    i.Resolves d l holds ↔ ∀ q ∈ i.visited, holds q.2 = true → Resolvable d l q := by
  constructor
  · intro h q hq hdecl
    obtain ⟨n, hr⟩ := mem_visited.mp hq
    exact resolvable_iff_class?.mpr (h q.1 n q.2 hr hdecl)
  · intro h r n decl hr hdecl
    exact resolvable_iff_class?.mp (h (r, decl) (mem_visited.mpr ⟨n, hr⟩) hdecl)

/-- **The searches that make up the search for subtypes succeed** if the names of all declarations
under the type resolve. -/
theorem searchable_iff_resolvable (hi : i.Made F d₀) :
    i.Searchable d l name ↔ ∀ q ∈ i.visited, i.Under name q.2 → Resolvable d l q := by
  rw [searchable_iff hi]
  simp only [resolves_iff]
  constructor
  · rintro h q hq ⟨super, hdecl, hreach⟩
    exact h super hreach q hq hdecl
  · intro h n hreach q hq hdecl
    exact h q hq ⟨n, hdecl, hreach⟩

/-- The name of a declaration that a query is concerned with resolves to the type. -/
def Yields (i : ClassIndex) (d : Disk) (l : Linkage) (concerned : ClassDecl → Prop)
    (t : TypeRef) : Prop :=
  ∃ q ∈ i.visited, concerned q.2 ∧ ∃ l', Runs (resolve d q.2.name q.1.chain) l t l'

variable {t : TypeRef}

/-- The types that a query is to find, by the classes that the loaders have under the names. -/
theorem yields_iff : i.Yields d l concerned t ↔ ∃ r n decl, i.Holds r n decl ∧ concerned decl ∧
    ∃ cls, l.class? d decl.name r.chain = .ok (some (t, cls)) := by
  simp only [Yields, runs_resolve_iff]
  constructor
  · rintro ⟨q, hq, hconcerned, _, cls, hclass, -⟩
    obtain ⟨n, hr⟩ := mem_visited.mp hq
    exact ⟨q.1, n, q.2, hr, hconcerned, cls, hclass⟩
  · rintro ⟨r, n, decl, hr, hconcerned, cls, hclass⟩
    exact ⟨(r, decl), mem_visited.mpr ⟨n, hr⟩, hconcerned, _, cls, hclass, rfl⟩

/-- The types that a direct query finds are those that the matching names resolve to. -/
theorem denotes_iff_yields : i.Denotes d l holds t ↔ i.Yields d l (holds · = true) t :=
  yields_iff.symm

/-- The types below a name are those that the names of the declarations under it resolve to. -/
theorem below_iff_yields (hi : i.Made F d₀) (hsearch : i.Searchable d l name) :
    i.Below d l name t ↔ i.Yields d l (i.Under name) t := by
  rw [yields_iff]
  constructor
  · intro h
    cases h with
    | direct hdirect =>
        obtain ⟨r, n, decl, hr, hdecl, hclass⟩ := hdirect
        exact ⟨r, n, decl, hr, under_of_directlyExtends hdecl, hclass⟩
    | @step s _ hs hdirect =>
        obtain ⟨r, n, decl, hr, hdecl, hclass⟩ := hdirect
        exact ⟨r, n, decl, hr, ⟨s.name, hdecl, (hs.transGen hi).to_reflTransGen⟩, hclass⟩
  · rintro ⟨r, n, decl, hr, ⟨super, hdecl, hreach⟩, hclass⟩
    have hdirect : i.Denotes d l (·.directlyExtends super) t := ⟨r, n, decl, hr, hdecl, hclass⟩
    obtain rfl | hreach := Relation.reflTransGen_iff_eq_or_transGen.mp hreach
    · exact .direct hdirect
    · obtain ⟨s, hs, rfl⟩ := exists_below_of_transGen hi hsearch hreach
      exact .step hs hdirect

/-- The searches that make up the search for implementers succeed if the names that it is concerned
with resolve. -/
theorem implementable_iff_resolvable (hi : i.Made F d₀) :
    (i.Resolves d l (·.directlyImplements name) ∧
      ∀ s, i.Denotes d l (·.directlyImplements name) s → i.Searchable d l s.name) ↔
    ∀ q ∈ i.visited, i.Within name q.2 → Resolvable d l q := by
  constructor
  · rintro ⟨hresolves, hsearch⟩ q hq (hdecl | ⟨entry, hentry, hdecl, hunder⟩)
    · exact resolves_iff.mp hresolves q hq hdecl
    · obtain ⟨s, hs, hname⟩ := exists_denotes_of_mem_decls hi hresolves hentry hdecl
      exact (searchable_iff_resolvable hi).mp (hsearch s hs) q hq (hname ▸ hunder)
  · intro h
    refine ⟨resolves_iff.mpr fun q hq hdecl => h q hq (Or.inl hdecl), fun s hs => ?_⟩
    obtain ⟨entry, hentry, hdecl, hname⟩ := exists_decl_of_denotes hi hs
    exact (searchable_iff_resolvable hi).mpr fun q hq hunder =>
      h q hq (Or.inr ⟨entry, hentry, hdecl, hname ▸ hunder⟩)

/-- The direct implementers and the types below them are those that the names of the declarations
within the interface resolve to. -/
theorem implements_iff_yields (hi : i.Made F d₀)
    (hresolves : i.Resolves d l (·.directlyImplements name))
    (hsearch : ∀ s, i.Denotes d l (·.directlyImplements name) s → i.Searchable d l s.name) :
    (i.Denotes d l (·.directlyImplements name) t ∨
      ∃ s, i.Denotes d l (·.directlyImplements name) s ∧ i.Below d l s.name t) ↔
    i.Yields d l (i.Within name) t := by
  constructor
  · rintro (hdirect | ⟨s, hs, hbelow⟩)
    · obtain ⟨q, hq, hdecl, hrun⟩ := denotes_iff_yields.mp hdirect
      exact ⟨q, hq, Or.inl hdecl, hrun⟩
    · obtain ⟨entry, hentry, hdecl, hname⟩ := exists_decl_of_denotes hi hs
      obtain ⟨q, hq, hunder, hrun⟩ := (below_iff_yields hi (hsearch s hs)).mp hbelow
      exact ⟨q, hq, Or.inr ⟨entry, hentry, hdecl, hname ▸ hunder⟩, hrun⟩
  · rintro ⟨q, hq, hdecl | ⟨entry, hentry, hdecl, hunder⟩, hrun⟩
    · exact Or.inl (denotes_iff_yields.mpr ⟨q, hq, hdecl, hrun⟩)
    · obtain ⟨s, hs, hname⟩ := exists_denotes_of_mem_decls hi hresolves hentry hdecl
      exact Or.inr ⟨s, hs, (below_iff_yields hi (hsearch s hs)).mpr ⟨q, hq, hname ▸ hunder, hrun⟩⟩

/-! ### The queries for types -/

/-- What is said of a query for types that is started with the classes `l` and is concerned with
some declarations. -/
structure Settles (i : ClassIndex) (d : Disk) (l : Linkage) (concerned : ClassDecl → Prop)
    (x : Disk → Query (List TypeRef)) : Prop where
  /-- It succeeds if and only if their names resolve. -/
  succeeds : (∃ ts l', Runs (x d) l ts l') ↔
    ∀ q ∈ i.visited, concerned q.2 → Resolvable d l q
  /-- Then it finds what they resolve to. -/
  finds : ∀ ts l', Runs (x d) l ts l' → ts.Nodup ∧ ∀ t, t ∈ ts ↔ i.Yields d l concerned t
  /-- Otherwise the error bears one of the names. -/
  fails : ∀ e, Fails (x d) l e → i.Breaks (d, l) concerned e
  /-- Classes that are defined stay defined. -/
  keeps : ∀ s n cls, l.find? s n = some cls → (outcome (x d) l).2.find? s n = some cls
  /-- All others are under these names, also if the query fails. -/
  defines : ∀ s n cls, (outcome (x d) l).2.find? s n = some cls →
    l.find? s n = some cls ∨ i.Concerns concerned n
  /-- What the loaders have under other names makes no difference. -/
  unaffected : ∀ w', i.SameFor concerned (d, l) w' →
    (outcome (x w'.1) w'.2).1 = (outcome (x d) l).1

/-- The same of a query that asks for one thing: its error is that of the first of these names, in
the order of the roots and of their resources, that does not resolve. -/
structure SettlesInOrder (i : ClassIndex) (d : Disk) (l : Linkage) (concerned : ClassDecl → Prop)
    (x : Disk → Query (List TypeRef)) : Prop extends i.Settles d l concerned x where
  first : ∀ e, Fails (x d) l e → ∃ q,
    IsFirst (fun q => concerned q.2 ∧ ¬Resolvable d l q) i.visited q ∧ Unresolved d l q e

/-- **From what a query depends on** to what is said of it. -/
theorem settles_of_alike {x : Disk → Query (List TypeRef)}
    (halike : ∀ w', i.SameFor concerned (d, l) w' →
      ∃ P, Alike F (i.Concerns concerned) (d, l) w' (x d) (x w'.1) P (i.Breaks (d, l) concerned))
    (hsucceeds : (∃ ts l', Runs (x d) l ts l') ↔
      ∀ q ∈ i.visited, concerned q.2 → Resolvable d l q)
    (hfinds : ∀ ts l', Runs (x d) l ts l' → ts.Nodup ∧ ∀ t, t ∈ ts ↔ i.Yields d l concerned t) :
    i.Settles d l concerned x := by
  obtain ⟨-, r, hcomes, -, -, herror⟩ := halike (d, l) fun _ _ _ _ _ => ⟨rfl, rfl⟩
  obtain ⟨hr, hgrows⟩ := hcomes.outcome
  refine ⟨hsucceeds, hfinds, fun e he => herror e (hr.symm.trans he),
    fun s n cls => hgrows.grows.kept, fun s n cls => hgrows.named, fun w' hsame => ?_⟩
  obtain ⟨-, r', hcomes, hcomes', -⟩ := halike w' hsame
  exact hcomes'.outcome.1.trans hcomes.outcome.1.symm

/-- **Direct queries**: what is said of them, the order in which names are resolved included. -/
theorem settles_collect (hi : i.Made F d₀) (d : Disk) (l : Linkage) (holds : ClassDecl → Bool) :
    i.SettlesInOrder d l (holds · = true) fun d => i.collect (typeWhere d holds) where
  toSettles := by
    refine settles_of_alike (fun w' hsame => ⟨_, alike_collect hi hsame fun _ h => h⟩) ?_ ?_
    · rw [runs_typeWhere_iff hi, resolves_iff]
    · intro ts l' hrun
      obtain ⟨-, hnodup, -, hmem⟩ := (adds_collect_typeWhere hi).of_runs (.refl d F l) hrun
      exact ⟨hnodup, fun t => (hmem t).trans denotes_iff_yields⟩
  first e hfails := by
    have hcomes : Comes F (i.Concerns (holds · = true)) (d, l) (i.collect (typeWhere d holds)) _ :=
      comes_collect_typeWhere hi (fun _ h => h) (d, l)
    exact isFirst_of_gathered_error (hcomes.outcome.1.symm.trans hfails)

section Closures

variable {order : Order} (horder : ∀ ts t, t ∈ order ts ↔ t ∈ ts)

include horder

/-- **The search for subtypes** is concerned with the declarations under the type. -/
theorem settles_subtypes (hi : i.Made F d₀) (d : Disk) (l : Linkage) (name : String) :
    i.Settles d l (i.Under name) fun d => i.subtypes d order name := by
  refine settles_of_alike (fun w' hsame => ⟨_, alike_subtypes hi hsame horder fun _ h => h⟩) ?_ ?_
  · rw [runs_subtypes_iff hi horder, searchable_iff_resolvable hi]
  · intro ts l' hrun
    obtain ⟨-, hnodup, hsearch, hmem⟩ :=
      (adds_subtypes hi horder name).of_runs (.refl d F l) hrun
    exact ⟨hnodup, fun t => (hmem t).trans (below_iff_yields hi hsearch)⟩

/-- **The search for implementers** is concerned with the declarations within the interface. -/
theorem settles_implementers (hi : i.Made F d₀) (d : Disk) (l : Linkage) (name : String) :
    i.Settles d l (i.Within name) fun d => i.implementers d order name := by
  refine settles_of_alike (fun w' hsame => ⟨_, alike_implementers hi hsame horder⟩) ?_ ?_
  · rw [runs_implementers_iff hi horder, implementable_iff_resolvable hi]
  · intro ts l' hrun
    obtain ⟨-, hnodup, hresolves, hsearch, hmem⟩ :=
      (adds_implementers hi horder name).of_runs (.refl d F l) hrun
    exact ⟨hnodup, fun t => (hmem t).trans (implements_iff_yields hi hresolves hsearch)⟩

end Closures

/-- **Queries for types** resolve the names of the declarations that match, and for all subtypes
and implementers of those that chains of superclasses lead to. They succeed if and only if these
names resolve, and depend on nothing else. The error of those that ask for one thing is that of the
first name that does not resolve, in the order of the roots and of their resources. -/
theorem type_queries_settle (hi : i.Made F d₀) (d : Disk) (l : Linkage) {order : Order}
    (horder : ∀ ts t, t ∈ order ts ↔ t ∈ ts) (name : String) :
    i.SettlesInOrder d l (·.isAnnotated name = true) (fun d => i.annotatedTypes d name) ∧
    i.SettlesInOrder d l (·.directlyExtends name = true) (fun d => i.directSubtypes d name) ∧
    i.SettlesInOrder d l (·.directlyImplements name = true)
      (fun d => i.directImplementers d name) ∧
    i.Settles d l (i.Under name) (fun d => i.subtypes d order name) ∧
    i.Settles d l (i.Within name) (fun d => i.implementers d order name) :=
  ⟨settles_collect hi d l _, settles_collect hi d l _, settles_collect hi d l _,
    settles_subtypes horder hi d l name, settles_implementers horder hi d l name⟩

/-- The disk on which the class of discs is missing. -/
def discless : Disk := towerDisk thing [ellipse, figure, shape]

/-- Without discs, the class that lists an interface is still found. The search for what is below it
fails, and the error bears the name of the missing class. -/
theorem type_queries_settle_discless :
    (∃ l', Runs ((towerIndex thing figures).directImplementers discless "Figure") {}
      [⟨"Ellipse", ⟨4⟩⟩] l') ∧
    (∀ q ∈ (towerIndex thing figures).visited, q.2.directlyImplements "Figure" = true →
      Resolvable discless {} q) ∧
    Fails ((towerIndex thing figures).implementers discless id "Figure") {}
      (.resolution "Disc" "class not found: Disc") ∧
    (towerIndex thing figures).Breaks (discless, {}) ((towerIndex thing figures).Within "Figure")
      (.resolution "Disc" "class not found: Disc") := by
  have hdirect : (outcome ((towerIndex thing figures).directImplementers discless "Figure")
      {}).1.toOption = some [⟨"Ellipse", ⟨4⟩⟩] := by decide +kernel
  have hfails : Fails ((towerIndex thing figures).implementers discless id "Figure") {}
      (.resolution "Disc" "class not found: Disc") := by
    unfold Fails
    decide +kernel
  have horder : ∀ ts t, t ∈ (id : Order) ts ↔ t ∈ ts := fun _ _ => Iff.rfl
  obtain ⟨l', hdirect⟩ := exists_runs_of_toOption hdirect
  obtain ⟨-, -, himplementers, -, hall⟩ :=
    type_queries_settle figures_made discless {} horder "Figure"
  exact ⟨⟨l', hdirect⟩, himplementers.succeeds.mp ⟨_, l', hdirect⟩, hfails, hall.fails _ hfails⟩

end ClassIndex

end Classpath
