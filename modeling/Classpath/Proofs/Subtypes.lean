import Mathlib.Data.Set.Lattice
import Mathlib.Logic.Relation
import Mathlib.Order.Bounds.Basic
import Classpath.ClassFile.Written
import Classpath.Proofs.Collection

/-!
# The Closure of Subtypes

The search for all subtypes of a type goes round by round: the types found in earlier rounds,
and the frontier of those found in the last one. `Closing` is the invariant that relates the
two to the type the search began with: both together hold its direct subtypes and only types
below it, and what is directly below a found type is found or on the frontier. When the
frontier is empty, the found types are exactly those below, also where superclasses lead in a
circle.

Types of one index are told apart by their names, so there are no more of them than
declarations, and as each round but the last finds a new one, the rounds suffice: the search
always ends with an empty frontier, and more rounds would change nothing.

## Main results

* `ClassIndex.Closing.step`: what one round preserves.
* `ClassIndex.runs_subtypes_iff_rounds`, `ClassIndex.outcome_subtypesWithin`: the search ends by
  itself and not for want of rounds.
* `ClassIndex.adds_subtypes`, `ClassIndex.succeeds_subtypes`: what the search finds, and when.
* `ClassIndex.below_iff`: being below as a chain of declarations.
* `ClassIndex.subtypes_least_closed`: the search is the least closure.
-/

namespace Classpath

variable {α : Type} {d d₀ : Disk} {F : Loaders} {l : Linkage}

/-- What a query finds, when it starts with the classes `l`. -/
def Query.found (x : Query (List α)) (l : Linkage) : Set α :=
  {a | ∃ as l', Runs x l as l' ∧ a ∈ as}

/-- What a query finds is what one of its runs ends with, since there is only one. -/
theorem Query.found_eq {x : Query (List α)} {as : List α} {l' : Linkage}
    (h : Runs x l as l') : x.found l = {a | a ∈ as} := by
  ext a
  constructor
  · rintro ⟨bs, m, hrun, ha⟩
    obtain ⟨rfl, -⟩ := h.unique hrun
    exact ha
  · exact fun ha => ⟨as, l', h, ha⟩

namespace ClassIndex

/-- A declaration of the index with the second name names the first one as its superclass. -/
def Extends (i : ClassIndex) (super sub : String) : Prop :=
  ∃ e ∈ i.decls, e.2.superName = some super ∧ e.2.name = sub

/-- The types below a name: its direct subtypes, theirs, and so on. -/
inductive Below (i : ClassIndex) (d : Disk) (l : Linkage) (name : String) : TypeRef → Prop
  | direct {t : TypeRef} : i.Denotes d l (·.directlyExtends name) t → Below i d l name t
  | step {s t : TypeRef} : Below i d l name s → i.Denotes d l (·.directlyExtends s.name) t →
      Below i d l name t

/-- The searches for direct subtypes that the search for all of them consists of succeed. -/
structure Searchable (i : ClassIndex) (d : Disk) (l : Linkage) (name : String) : Prop where
  start : i.Resolves d l (·.directlyExtends name)
  below : ∀ s, i.Below d l name s → i.Resolves d l (·.directlyExtends s.name)

variable {i : ClassIndex} {name : String}

/-- A type below a name is one that some declaration of the index denotes. -/
theorem Below.denotes {t : TypeRef} (h : i.Below d l name t) :
    ∃ holds, i.Denotes d l holds t := by
  cases h with
  | direct h => exact ⟨_, h⟩
  | step _ h => exact ⟨_, h⟩

/-! ### One round -/

/-- **What a search for direct subtypes finds**: the types of the declarations that name the class
as their superclass, each once. -/
theorem adds_directSubtypes (hi : i.Made F d₀) (name : String) :
    Adds d F l (i.directSubtypes d name) fun ts =>
      ts.Nodup ∧ i.Resolves d l (·.directlyExtends name) ∧
        ∀ t, t ∈ ts ↔ i.Denotes d l (·.directlyExtends name) t :=
  adds_collect_typeWhere hi

/-- The search for direct subtypes succeeds if all names that it asks for resolve. -/
theorem succeeds_directSubtypes (hi : i.Made F d₀)
    (h : i.Resolves d l (·.directlyExtends name)) :
    Succeeds d F l (i.directSubtypes d name) :=
  succeeds_collect_typeWhere hi h

/-- The search for direct subtypes succeeds if the name of each of them resolves. -/
theorem runs_directSubtypes_iff (hi : i.Made F d₀) :
    (∃ ts l', Runs (i.directSubtypes d name) l ts l') ↔
      i.Resolves d l (·.directlyExtends name) :=
  runs_typeWhere_iff hi

/-- A query for types finds the types of the matching declarations. -/
theorem found_typeWhere (hi : i.Made F d₀) {holds : ClassDecl → Bool}
    (h : i.Resolves d l holds) :
    Query.found (i.collect (typeWhere d holds)) l = {t | i.Denotes d l holds t} := by
  obtain ⟨ts, l', hrun⟩ := (runs_typeWhere_iff hi).mpr h
  obtain ⟨-, -, -, hmem⟩ := (adds_collect_typeWhere hi).of_runs (Linkage.Grows.refl d F l) hrun
  rw [Query.found_eq hrun]
  exact Set.ext hmem

theorem found_directSubtypes (hi : i.Made F d₀) (h : i.Resolves d l (·.directlyExtends name)) :
    (i.directSubtypes d name).found l =
      {t | i.Denotes d l (·.directlyExtends name) t} :=
  found_typeWhere hi h

/-- What a round puts on the next frontier. -/
theorem adds_nextSubtypes (hi : i.Made F d₀) (known types next : List TypeRef) :
    Adds d F l (i.nextSubtypes d known types next) fun found =>
      (next.Nodup → found.Nodup) ∧
        (∀ s ∈ types, i.Resolves d l (·.directlyExtends s.name)) ∧
        ∀ t, t ∈ found ↔ t ∈ next ∨
          t ∉ known ∧ ∃ s ∈ types, i.Denotes d l (·.directlyExtends s.name) t := by
  induction types generalizing next with
  | nil => exact adds_pure ⟨id, by simp, by simp⟩
  | cons s types ih =>
      refine adds_bind (adds_directSubtypes hi s.name) fun direct hdirect => (ih _).mono ?_
      obtain ⟨-, hresolves, hmem⟩ := hdirect
      rintro found ⟨hnodup, hrest, hfound⟩
      refine ⟨fun h => hnodup (nodup_union h), List.forall_mem_cons.mpr ⟨hresolves, hrest⟩,
        fun t => ?_⟩
      rw [hfound, mem_union, List.mem_filter, hmem, List.exists_mem_cons_iff]
      simp only [Bool.not_eq_true', List.contains_eq_mem, decide_eq_false_iff_not]
      constructor
      · rintro ((h | ⟨h, hnew⟩) | ⟨hnew, h⟩)
        · exact Or.inl h
        · exact Or.inr ⟨hnew, Or.inl h⟩
        · exact Or.inr ⟨hnew, Or.inr h⟩
      · rintro (h | ⟨hnew, h | h⟩)
        · exact Or.inl (Or.inl h)
        · exact Or.inl (Or.inr ⟨h, hnew⟩)
        · exact Or.inr ⟨hnew, h⟩

/-- A round succeeds if the search for direct subtypes does for each type on the frontier. -/
theorem succeeds_nextSubtypes (hi : i.Made F d₀) {known types next : List TypeRef}
    (h : ∀ s ∈ types, i.Resolves d l (·.directlyExtends s.name)) :
    Succeeds d F l (i.nextSubtypes d known types next) := by
  induction types generalizing next with
  | nil => exact succeeds_pure
  | cons s types ih =>
      obtain ⟨hs, htypes⟩ := List.forall_mem_cons.mp h
      exact succeeds_bind (succeeds_directSubtypes hi hs) (adds_directSubtypes hi s.name)
        fun _ _ => ih htypes

/-! ### The invariant of the rounds -/

/-- **The invariant**: the types found so far and those on the frontier, for a search that
began with the subtypes of a name. -/
structure Closing (i : ClassIndex) (d : Disk) (l : Linkage) (name : String)
    (found frontier : List TypeRef) : Prop where
  nodup : (found ++ frontier).Nodup
  sound : ∀ t ∈ found ++ frontier, i.Below d l name t
  start : ∀ t, i.Denotes d l (·.directlyExtends name) t → t ∈ found ++ frontier
  resolves : ∀ s ∈ found, i.Resolves d l (·.directlyExtends s.name)
  closed : ∀ s ∈ found, ∀ t, i.Denotes d l (·.directlyExtends s.name) t → t ∈ found ++ frontier

variable {found frontier next : List TypeRef}

/-- **One round** preserves the invariant. -/
theorem Closing.step (h : i.Closing d l name found frontier) (hnodup : next.Nodup)
    (hresolves : ∀ s ∈ frontier, i.Resolves d l (·.directlyExtends s.name))
    (hnext : ∀ t, t ∈ next ↔ t ∉ found ++ frontier ∧
      ∃ s ∈ frontier, i.Denotes d l (·.directlyExtends s.name) t) :
    i.Closing d l name (found ++ frontier) next where
  nodup := by
    refine List.Nodup.append h.nodup hnodup fun t ht ht' => ?_
    exact ((hnext t).mp ht').1 ht
  sound t ht := by
    obtain ht | ht := List.mem_append.mp ht
    · exact h.sound t ht
    · obtain ⟨-, s, hs, hdirect⟩ := (hnext t).mp ht
      exact Below.step (h.sound s (List.mem_append_right _ hs)) hdirect
  start t ht := List.mem_append_left _ (h.start t ht)
  resolves s hs := by
    obtain hs | hs := List.mem_append.mp hs
    · exact h.resolves s hs
    · exact hresolves s hs
  closed s hs t ht := by
    obtain hs | hs := List.mem_append.mp hs
    · exact List.mem_append_left _ (h.closed s hs t ht)
    · -- a type directly below the frontier is known already or on the next frontier
      by_cases hknown : t ∈ found ++ frontier
      · exact List.mem_append_left _ hknown
      · exact List.mem_append_right _ ((hnext t).mpr ⟨hknown, s, hs, ht⟩)

/-- With nothing on the frontier the types found are those below the name. -/
theorem Closing.mem_iff (h : i.Closing d l name found []) (t : TypeRef) :
    t ∈ found ↔ i.Below d l name t := by
  constructor
  · exact fun ht => h.sound t (List.mem_append_left _ ht)
  · intro ht
    induction ht with
    | direct hdirect => simpa using h.start _ hdirect
    | step _ hdirect ih => simpa using h.closed _ ih _ hdirect

/-- There are no more types than declarations. -/
theorem Closing.length_le (hi : i.Made F d₀) (h : i.Closing d l name found frontier) :
    found.length + frontier.length ≤ i.decls.length := by
  rw [← List.length_append]
  exact length_le_of_denotes hi h.nodup fun t ht => (h.sound t ht).denotes

/-- **A round of the search** succeeds only in a way that preserves the invariant, in whatever
order it goes through the frontier. -/
theorem Closing.adds_round (hi : i.Made F d₀) {order : Order}
    (horder : ∀ ts t, t ∈ order ts ↔ t ∈ ts) (h : i.Closing d l name found frontier) :
    Adds d F l (i.nextSubtypes d (found ++ frontier) (order frontier) []) fun next =>
      i.Closing d l name (found ++ frontier) next := by
  refine (adds_nextSubtypes hi _ _ _).mono fun next hnext => ?_
  obtain ⟨hnodup, hresolves, hmem⟩ := hnext
  refine h.step (hnodup List.nodup_nil) ?_ fun t => ?_
  · exact fun s hs => hresolves s ((horder _ s).mpr hs)
  · rw [hmem]
    simp [horder]

/-- The rounds that are left after one of them are enough, since it had something on its
frontier, which counts as found from then on. -/
theorem rounds_of_round {rounds n : Nat} {s : TypeRef}
    (h : n < found.length + (rounds + 1)) : n < (found ++ s :: frontier).length + rounds := by
  rw [List.length_append, List.length_cons]
  omega

/-- **All rounds**: the invariant holds at the end, and nothing is left on the frontier. -/
theorem adds_closeSubtypes (hi : i.Made F d₀) {order : Order}
    (horder : ∀ ts t, t ∈ order ts ↔ t ∈ ts) (rounds : Nat)
    (h : i.Closing d l name found frontier) (hrounds : i.decls.length < found.length + rounds) :
    Adds d F l (i.closeSubtypes d order rounds found frontier) fun S =>
      i.Closing d l name S [] := by
  induction rounds generalizing found frontier with
  | zero =>
      have := h.length_le hi
      omega
  | succ rounds ih =>
      unfold closeSubtypes
      cases frontier with
      | nil => exact adds_pure h
      | cons s frontier =>
          exact adds_bind (h.adds_round hi horder) fun next hnext =>
            ih hnext (rounds_of_round hrounds)

/-- If the searches for direct subtypes succeed, no round fails. -/
theorem succeeds_closeSubtypes (hi : i.Made F d₀) {order : Order}
    (horder : ∀ ts t, t ∈ order ts ↔ t ∈ ts) (rounds : Nat)
    (h : i.Closing d l name found frontier) (hsearch : i.Searchable d l name) :
    Succeeds d F l (i.closeSubtypes d order rounds found frontier) := by
  induction rounds generalizing found frontier with
  | zero => exact succeeds_pure
  | succ rounds ih =>
      unfold closeSubtypes
      cases frontier with
      | nil => exact succeeds_pure
      | cons s frontier =>
          have hresolves : ∀ t ∈ order (s :: frontier),
              i.Resolves d l (·.directlyExtends t.name) := fun t ht =>
            hsearch.below t (h.sound t (List.mem_append_right _ ((horder _ t).mp ht)))
          exact succeeds_bind (succeeds_nextSubtypes hi hresolves) (h.adds_round hi horder)
            fun next hnext => ih hnext

/-! ### The end of the rounds -/

/-- **The search round by round**, from what is found and on the frontier to all that is found
in the end. There is a rule for an empty frontier and one for a round, and none for a search that
is cut off with something left on its frontier. -/
inductive Rounds (i : ClassIndex) (d : Disk) (order : Order) :
    (found frontier : List TypeRef) → Linkage → List TypeRef → Linkage → Prop
  | done {found : List TypeRef} {l : Linkage} : Rounds i d order found [] l found l
  | round {found frontier next S : List TypeRef} {l m l' : Linkage} (hleft : frontier ≠ [])
      (hnext : Runs (i.nextSubtypes d (found ++ frontier) (order frontier) []) l next m)
      (hrest : Rounds i d order (found ++ frontier) next m S l') :
      Rounds i d order found frontier l S l'

/-- **The search goes on to the end.** With more rounds than there are declarations, its runs
are those whose last frontier is empty. -/
theorem runs_closeSubtypes_iff (hi : i.Made F d₀) {order : Order}
    (horder : ∀ ts t, t ∈ order ts ↔ t ∈ ts) {rounds : Nat}
    (h : i.Closing d l name found frontier) (hrounds : i.decls.length < found.length + rounds)
    {m m' : Linkage} (hm : l.Grows d F m) {S : List TypeRef} :
    Runs (i.closeSubtypes d order rounds found frontier) m S m' ↔
      i.Rounds d order found frontier m S m' := by
  induction rounds generalizing found frontier m with
  | zero =>
      have := h.length_le hi
      omega
  | succ rounds ih =>
      unfold closeSubtypes
      constructor
      · intro hrun
        cases frontier with
        | nil =>
            obtain ⟨rfl, rfl⟩ := runs_pure.mp hrun
            exact .done
        | cons s frontier =>
            obtain ⟨next, m₁, hnext, hrest⟩ := runs_bind.mp hrun
            obtain ⟨hgrows, hclosing⟩ := (h.adds_round hi horder).of_runs hm hnext
            have hrest := (ih hclosing (rounds_of_round hrounds) (hm.trans hgrows)).mp hrest
            exact .round (List.cons_ne_nil _ _) hnext hrest
      · intro hsearch
        cases hsearch with
        | done => exact runs_pure.mpr ⟨rfl, rfl⟩
        | @round _ _ next _ _ m₁ _ hleft hnext hrest =>
            obtain ⟨s, frontier, rfl⟩ := List.exists_cons_of_ne_nil hleft
            obtain ⟨hgrows, hclosing⟩ := (h.adds_round hi horder).of_runs hm hnext
            refine runs_bind.mpr ⟨next, m₁, hnext, ?_⟩
            exact (ih hclosing (rounds_of_round hrounds) (hm.trans hgrows)).mpr hrest

/-- **Rounds that are not needed** change nothing: neither what is found, nor how the search
fails, nor which classes are defined by then. -/
theorem outcome_closeSubtypes (hi : i.Made F d₀) {order : Order}
    (horder : ∀ ts t, t ∈ order ts ↔ t ∈ ts) {rounds rounds' : Nat}
    (h : i.Closing d l name found frontier) (hrounds : i.decls.length < found.length + rounds)
    (hrounds' : i.decls.length < found.length + rounds') {m : Linkage} (hm : l.Grows d F m) :
    outcome (i.closeSubtypes d order rounds found frontier) m =
      outcome (i.closeSubtypes d order rounds' found frontier) m := by
  induction rounds generalizing rounds' found frontier m with
  | zero =>
      have := h.length_le hi
      omega
  | succ rounds ih =>
      cases rounds' with
      | zero =>
          have := h.length_le hi
          omega
      | succ rounds' =>
          unfold closeSubtypes
          cases frontier with
          | nil => rfl
          | cons s frontier =>
              refine outcome_bind_congr fun next m' hnext => ?_
              obtain ⟨hgrows, hclosing⟩ := (h.adds_round hi horder).of_runs hm hnext
              exact ih hclosing (rounds_of_round hrounds) (rounds_of_round hrounds')
                (hm.trans hgrows)

/-! ### The search as a whole -/

/-- The bound on the number of types is at least the number of declarations, since every
declaration is from some root, and every root from some loader. -/
theorem decls_length_le_typeBound (hi : i.Made F d₀) : i.decls.length ≤ i.typeBound := by
  rcases hdecls : i.decls with _ | ⟨⟨n, decl⟩, rest⟩
  · exact Nat.zero_le _
  · -- a declaration is from some root, and the chain of its loader is not empty
    obtain ⟨r, hholds⟩ := hi.exists_holds (hdecls ▸ List.mem_cons_self)
    have hr := hholds.mem_roots
    have hsum : 1 ≤ i.resources.roots.foldr (fun r n => r.chain.loaders.length + n) 0 := by
      cases hall : i.resources.roots with
      | nil =>
          rw [hall] at hr
          cases hr
      | cons r' roots =>
          rw [List.foldr_cons, Chain.loaders, List.length_cons]
          omega
    rw [← hdecls]
    calc i.decls.length = i.decls.length * 1 := (Nat.mul_one _).symm
      _ ≤ i.decls.length * i.resources.roots.foldr (fun r n => r.chain.loaders.length + n) 0 :=
          Nat.mul_le_mul_left _ hsum
      _ ≤ i.typeBound := Nat.le_succ _

/-- With the direct subtypes on the frontier and nothing found before, the invariant holds. -/
theorem closing_start {direct : List TypeRef} (hnodup : direct.Nodup)
    (hmem : ∀ t, t ∈ direct ↔ i.Denotes d l (·.directlyExtends name) t) :
    i.Closing d l name [] direct where
  nodup := hnodup
  sound t ht := Below.direct ((hmem t).mp ht)
  start t ht := (hmem t).mpr ht
  resolves := by simp
  closed := by simp

/-- The rounds that the search takes at most are enough from the start. -/
theorem rounds_start (hi : i.Made F d₀) :
    i.decls.length < ([] : List TypeRef).length + (i.typeBound + 1) := by
  have := decls_length_le_typeBound hi
  rw [List.length_nil]
  omega

/-- **What the search finds**: the types below the name, and each search it consists of
succeeded. -/
theorem adds_subtypes (hi : i.Made F d₀) {order : Order}
    (horder : ∀ ts t, t ∈ order ts ↔ t ∈ ts) (name : String) :
    Adds d F l (i.subtypes d order name) fun S =>
      S.Nodup ∧ i.Searchable d l name ∧ ∀ t, t ∈ S ↔ i.Below d l name t := by
  refine adds_bind (adds_directSubtypes hi name) fun direct hdirect => ?_
  obtain ⟨hnodup, hresolves, hmem⟩ := hdirect
  refine (adds_closeSubtypes hi horder _ (closing_start hnodup hmem)
    (rounds_start hi)).mono fun S hS => ?_
  have hsearch : i.Searchable d l name :=
    ⟨hresolves, fun s hs => hS.resolves s ((hS.mem_iff s).mpr hs)⟩
  exact ⟨by simpa using hS.nodup, hsearch, hS.mem_iff⟩

/-- **When the search succeeds**: if the searches it consists of do. -/
theorem succeeds_subtypes (hi : i.Made F d₀) {order : Order}
    (horder : ∀ ts t, t ∈ order ts ↔ t ∈ ts) (h : i.Searchable d l name) :
    Succeeds d F l (i.subtypes d order name) := by
  refine succeeds_bind (succeeds_directSubtypes hi h.start) (adds_directSubtypes hi name)
    fun direct hdirect => ?_
  exact succeeds_closeSubtypes hi horder _ (closing_start hdirect.1 hdirect.2.2) h

/-- The search for the types below a name, with so many rounds at most. -/
def subtypesWithin (d : Disk) (i : ClassIndex) (order : Order) (rounds : Nat) (name : String) :
    Query (List TypeRef) := do
  closeSubtypes d i order rounds [] (← i.directSubtypes d name)

/-- **The bound on the rounds is never what ends the search**: with any other number of rounds
above the number of declarations it comes to the same, failures and definitions of classes
included. -/
theorem outcome_subtypesWithin (hi : i.Made F d₀) {order : Order}
    (horder : ∀ ts t, t ∈ order ts ↔ t ∈ ts) {rounds : Nat} (hrounds : i.decls.length < rounds)
    (name : String) (l : Linkage) :
    outcome (i.subtypesWithin d order rounds name) l = outcome (i.subtypes d order name) l := by
  refine outcome_bind_congr fun direct l' hrun => ?_
  obtain ⟨hgrows, hnodup, -, hmem⟩ :=
    (adds_directSubtypes hi name).of_runs (Linkage.Grows.refl d F l) hrun
  exact outcome_closeSubtypes hi horder (closing_start hnodup hmem) (by simpa using hrounds)
    (rounds_start hi) hgrows

/-- **A run of the search** ends with nothing on its frontier. -/
theorem runs_subtypes_iff_rounds (hi : i.Made F d₀) {order : Order}
    (horder : ∀ ts t, t ∈ order ts ↔ t ∈ ts) {S : List TypeRef} {l' : Linkage} :
    Runs (i.subtypes d order name) l S l' ↔
      ∃ direct m, Runs (i.directSubtypes d name) l direct m ∧
        i.Rounds d order [] direct m S l' := by
  refine runs_bind.trans (exists_congr fun direct => exists_congr fun m => ?_)
  refine and_congr_right fun hrun => ?_
  obtain ⟨hgrows, hnodup, -, hmem⟩ :=
    (adds_directSubtypes hi name).of_runs (Linkage.Grows.refl d F l) hrun
  exact runs_closeSubtypes_iff hi horder (closing_start hnodup hmem) (rounds_start hi) hgrows

/-- **When the search for subtypes has a run**: if the searches it consists of succeed. -/
theorem runs_subtypes_iff (hi : i.Made F d₀) {order : Order}
    (horder : ∀ ts t, t ∈ order ts ↔ t ∈ ts) :
    (∃ S l', Runs (i.subtypes d order name) l S l') ↔ i.Searchable d l name := by
  constructor
  · rintro ⟨S, l', hrun⟩
    exact ((adds_subtypes hi horder name).of_runs (Linkage.Grows.refl d F l) hrun).2.2.1
  · intro h
    exact (succeeds_subtypes hi horder h).runs (Linkage.Grows.refl d F l)

/-- What the search finds is what is below the name. -/
theorem found_subtypes (hi : i.Made F d₀) {order : Order}
    (horder : ∀ ts t, t ∈ order ts ↔ t ∈ ts) (h : i.Searchable d l name) :
    (i.subtypes d order name).found l = {t | i.Below d l name t} := by
  obtain ⟨S, l', hrun⟩ := (runs_subtypes_iff hi horder).mpr h
  obtain ⟨-, -, -, hmem⟩ :=
    (adds_subtypes hi horder name).of_runs (Linkage.Grows.refl d F l) hrun
  rw [Query.found_eq hrun]
  exact Set.ext hmem

/-- The types below a name are the least set that the searches for direct subtypes do not lead
out of. -/
theorem isLeast_below (hi : i.Made F d₀) (h : i.Searchable d l name) :
    IsLeast {X : Set TypeRef | (i.directSubtypes d name).found l ⊆ X ∧
      ∀ s ∈ X, (i.directSubtypes d s.name).found l ⊆ X} {t | i.Below d l name t} := by
  constructor
  · constructor
    · rw [found_directSubtypes hi h.start]
      exact fun t ht => Below.direct ht
    · intro s hs
      rw [found_directSubtypes hi (h.below s hs)]
      exact fun t ht => Below.step hs ht
  · rintro X ⟨hstart, hclosed⟩ t ht
    induction ht with
    | direct hdirect =>
        refine hstart ?_
        rw [found_directSubtypes hi h.start]
        exact hdirect
    | step hs hdirect ih =>
        refine hclosed _ ih ?_
        rw [found_directSubtypes hi (h.below _ hs)]
        exact hdirect

/-! ### Chains of declarations -/

/-- A direct subtype names the class as its superclass in its declaration. -/
theorem extends_of_denotes (hi : i.Made F d₀) {t : TypeRef}
    (h : i.Denotes d l (·.directlyExtends name) t) : i.Extends name t.name := by
  obtain ⟨e, he, hdecl, hname⟩ := exists_decl_of_denotes hi h
  exact ⟨e, he, by simpa [ClassDecl.directlyExtends] using hdecl, hname⟩

/-- A declaration that names another class as its superclass is of a type, if the search for
the subtypes of that class succeeds. -/
theorem exists_denotes_of_extends (hi : i.Made F d₀) {sub : String}
    (hresolves : i.Resolves d l (·.directlyExtends name)) (h : i.Extends name sub) :
    ∃ t, i.Denotes d l (·.directlyExtends name) t ∧ t.name = sub := by
  obtain ⟨e, he, hsuper, rfl⟩ := h
  have hdecl : e.2.directlyExtends name = true := by
    simpa [ClassDecl.directlyExtends] using hsuper
  exact exists_denotes_of_mem_decls hi hresolves he hdecl

/-- At the end of each chain of declarations that begins at the name there is a type below it. -/
theorem exists_below_of_transGen (hi : i.Made F d₀) (hsearch : i.Searchable d l name)
    {sub : String} (h : Relation.TransGen i.Extends name sub) :
    ∃ t, i.Below d l name t ∧ t.name = sub := by
  induction h with
  | single hext =>
      obtain ⟨t, ht, hname⟩ := exists_denotes_of_extends hi hsearch.start hext
      exact ⟨t, Below.direct ht, hname⟩
  | tail _ hext ih =>
      obtain ⟨s, hs, rfl⟩ := ih
      obtain ⟨t, ht, hname⟩ := exists_denotes_of_extends hi (hsearch.below s hs) hext
      exact ⟨t, Below.step hs ht, hname⟩

/-- From a name to each type below it leads a chain of declarations. -/
theorem Below.transGen (hi : i.Made F d₀) {t : TypeRef} (h : i.Below d l name t) :
    Relation.TransGen i.Extends name t.name := by
  induction h with
  | direct hdirect => exact Relation.TransGen.single (extends_of_denotes hi hdirect)
  | step _ hdirect ih => exact ih.tail (extends_of_denotes hi hdirect)

/-- **Being below** is the end of a chain of declarations, each of which names the one before
it as its superclass, and being the type that the last one is resolved to. -/
theorem below_iff (hi : i.Made F d₀) (hsearch : i.Searchable d l name) {t : TypeRef} :
    i.Below d l name t ↔ Relation.TransGen i.Extends name t.name ∧
      i.Denotes d l (fun _ => true) t := by
  constructor
  · intro h
    refine ⟨h.transGen hi, ?_⟩
    obtain ⟨holds, r, n, decl, hr, -, hcls⟩ := h.denotes
    exact ⟨r, n, decl, hr, rfl, hcls⟩
  · rintro ⟨hchain, hdenotes⟩
    obtain ⟨s, hs, hname⟩ := exists_below_of_transGen hi hsearch hchain
    obtain ⟨holds, hs'⟩ := hs.denotes
    rwa [hdenotes.unique hi hs' hname.symm]

/-- The searches that the search for subtypes consists of are those for the names that chains of
declarations lead to. -/
theorem searchable_iff (hi : i.Made F d₀) :
    i.Searchable d l name ↔ ∀ n, Relation.ReflTransGen i.Extends name n →
      i.Resolves d l (·.directlyExtends n) := by
  constructor
  · intro h n hn
    obtain rfl | hn := Relation.reflTransGen_iff_eq_or_transGen.mp hn
    · exact h.start
    · obtain ⟨t, ht, rfl⟩ := exists_below_of_transGen hi h hn
      exact h.below t ht
  · intro h
    exact ⟨h name Relation.ReflTransGen.refl, fun s hs => h s.name (hs.transGen hi).to_reflTransGen⟩

/-- The types that an index leads to are those that the names of its declarations resolve to. -/
theorem denotes_iff_runs {t : TypeRef} :
    i.Denotes d l (fun _ => true) t ↔
      ∃ r n decl l', i.Holds r n decl ∧ Runs (resolve d decl.name r.chain) l t l' := by
  simp only [Denotes, runs_resolve_iff, true_and]
  constructor
  · rintro ⟨r, n, decl, hr, cls, hcls⟩
    exact ⟨r, n, decl, _, hr, cls, hcls, rfl⟩
  · rintro ⟨r, n, decl, _, hr, cls, hcls, -⟩
    exact ⟨r, n, decl, hr, cls, hcls⟩

/-! ### Implementers -/

/-- **What a search for direct implementers finds**: the types of the declarations that list the
interface, each once. -/
theorem adds_directImplementers (hi : i.Made F d₀) (name : String) :
    Adds d F l (i.directImplementers d name) fun ts =>
      ts.Nodup ∧ i.Resolves d l (·.directlyImplements name) ∧
        ∀ t, t ∈ ts ↔ i.Denotes d l (·.directlyImplements name) t :=
  adds_collect_typeWhere hi

/-- The search for direct implementers succeeds if the name of each of them resolves. -/
theorem runs_directImplementers_iff (hi : i.Made F d₀) :
    (∃ ts l', Runs (i.directImplementers d name) l ts l') ↔
      i.Resolves d l (·.directlyImplements name) :=
  runs_typeWhere_iff hi

theorem found_directImplementers (hi : i.Made F d₀)
    (h : i.Resolves d l (·.directlyImplements name)) :
    (i.directImplementers d name).found l =
      {t | i.Denotes d l (·.directlyImplements name) t} :=
  found_typeWhere hi h

/-- The searches for what is below some types add the types below each of them, each once. -/
theorem adds_addSubtypes (hi : i.Made F d₀) {order : Order}
    (horder : ∀ ts t, t ∈ order ts ↔ t ∈ ts) (types found : List TypeRef) :
    Adds d F l (i.addSubtypes d order types found) fun R =>
      (found.Nodup → R.Nodup) ∧ (∀ s ∈ types, i.Searchable d l s.name) ∧
        ∀ t, t ∈ R ↔ t ∈ found ∨ ∃ s ∈ types, i.Below d l s.name t := by
  induction types generalizing found with
  | nil => exact adds_pure ⟨id, by simp, by simp⟩
  | cons s types ih =>
      refine adds_bind (adds_subtypes hi horder s.name) fun S hS => (ih _).mono ?_
      rintro R ⟨hnodup, hsearch, hmem⟩
      refine ⟨fun h => hnodup (nodup_union h),
        List.forall_mem_cons.mpr ⟨hS.2.1, hsearch⟩, fun t => ?_⟩
      rw [hmem, mem_union, hS.2.2, List.exists_mem_cons_iff, or_assoc]

/-- They succeed if the search for each of these types does. -/
theorem succeeds_addSubtypes (hi : i.Made F d₀) {order : Order}
    (horder : ∀ ts t, t ∈ order ts ↔ t ∈ ts) {types found : List TypeRef}
    (h : ∀ s ∈ types, i.Searchable d l s.name) :
    Succeeds d F l (i.addSubtypes d order types found) := by
  induction types generalizing found with
  | nil => exact succeeds_pure
  | cons s types ih =>
      obtain ⟨hs, htypes⟩ := List.forall_mem_cons.mp h
      exact succeeds_bind (succeeds_subtypes hi horder hs) (adds_subtypes hi horder s.name)
        fun _ _ => ih htypes

/-- **What the search for implementers finds**: the direct ones, and the types below them. -/
theorem adds_implementers (hi : i.Made F d₀) {order : Order}
    (horder : ∀ ts t, t ∈ order ts ↔ t ∈ ts) (name : String) :
    Adds d F l (i.implementers d order name) fun R =>
      R.Nodup ∧ i.Resolves d l (·.directlyImplements name) ∧
        (∀ s, i.Denotes d l (·.directlyImplements name) s → i.Searchable d l s.name) ∧
        ∀ t, t ∈ R ↔ i.Denotes d l (·.directlyImplements name) t ∨
          ∃ s, i.Denotes d l (·.directlyImplements name) s ∧ i.Below d l s.name t := by
  refine adds_bind (adds_directImplementers hi name) fun direct hdirect => ?_
  obtain ⟨hnodup, hresolves, hdirect⟩ := hdirect
  refine (adds_addSubtypes hi horder _ _).mono fun R hR => ?_
  obtain ⟨hR, hsearch, hmem⟩ := hR
  refine ⟨hR hnodup, hresolves, fun s hs => hsearch s ((horder _ s).mpr ((hdirect s).mpr hs)),
    fun t => ?_⟩
  rw [hmem, hdirect]
  simp only [horder, hdirect]

/-- **When the search for implementers has a run**: if the direct search succeeds, and the search
for what is below each type that it finds. -/
theorem runs_implementers_iff (hi : i.Made F d₀) {order : Order}
    (horder : ∀ ts t, t ∈ order ts ↔ t ∈ ts) :
    (∃ R l', Runs (i.implementers d order name) l R l') ↔
      i.Resolves d l (·.directlyImplements name) ∧
        ∀ s, i.Denotes d l (·.directlyImplements name) s → i.Searchable d l s.name := by
  constructor
  · rintro ⟨R, l', hrun⟩
    obtain ⟨-, -, hresolves, hsearch, -⟩ :=
      (adds_implementers hi horder name).of_runs (Linkage.Grows.refl d F l) hrun
    exact ⟨hresolves, hsearch⟩
  · rintro ⟨hresolves, hsearch⟩
    refine Succeeds.runs (succeeds_bind (succeeds_collect_typeWhere hi hresolves)
      (adds_directImplementers hi name) fun direct hdirect => ?_) (Linkage.Grows.refl d F l)
    refine succeeds_addSubtypes hi horder fun s hs => hsearch s ?_
    exact (hdirect.2.2 s).mp ((horder _ s).mp hs)

/-- **The search for subtypes is the least closure.** It succeeds if the searches for direct
subtypes that it consists of do, in whatever order the types of a frontier are gone through,
and also where superclasses lead in a circle. What it finds is the least set that holds the
direct subtypes of the name and those of its own elements, and just as well the ends of the
chains of declarations that begin at the name. The implementers of an interface are the
direct ones and what the search finds for each of these. -/
theorem subtypes_least_closed (hi : i.Made F d₀) (l : Linkage) {order : Order}
    (horder : ∀ ts t, t ∈ order ts ↔ t ∈ ts) (name : String) :
    ((∃ S l', Runs (i.subtypes d order name) l S l') ↔
      ∀ n, Relation.ReflTransGen i.Extends name n →
        ∃ ts l', Runs (i.directSubtypes d n) l ts l') ∧
    (∀ S l', Runs (i.subtypes d order name) l S l' → S.Nodup ∧
      IsLeast {X : Set TypeRef | (i.directSubtypes d name).found l ⊆ X ∧
        ∀ s ∈ X, (i.directSubtypes d s.name).found l ⊆ X} {t | t ∈ S} ∧
      ∀ t, t ∈ S ↔ Relation.TransGen i.Extends name t.name ∧
        ∃ r n decl l', i.Holds r n decl ∧ Runs (resolve d decl.name r.chain) l t l') ∧
    ((∃ R l', Runs (i.implementers d order name) l R l') ↔
      (∃ ts l', Runs (i.directImplementers d name) l ts l') ∧
        ∀ s ∈ (i.directImplementers d name).found l,
          ∃ S l', Runs (i.subtypes d order s.name) l S l') ∧
    ∀ R l', Runs (i.implementers d order name) l R l' → R.Nodup ∧
      ∀ t, t ∈ R ↔ t ∈ (i.directImplementers d name).found l ∨
        ∃ s ∈ (i.directImplementers d name).found l, t ∈ (i.subtypes d order s.name).found l := by
  refine ⟨?_, fun S l' hrun => ?_, ?_, fun R l' hrun => ?_⟩
  · simp only [runs_subtypes_iff hi horder, searchable_iff hi, runs_directSubtypes_iff hi]
  · obtain ⟨-, hnodup, hsearch, hmem⟩ :=
      (adds_subtypes hi horder name).of_runs (Linkage.Grows.refl d F l) hrun
    refine ⟨hnodup, ?_, fun t => ?_⟩
    · have hset : {t | t ∈ S} = {t | i.Below d l name t} := Set.ext hmem
      rw [hset]
      exact isLeast_below hi hsearch
    · rw [hmem, below_iff hi hsearch, denotes_iff_runs]
  · rw [runs_implementers_iff hi horder, runs_directImplementers_iff hi]
    refine and_congr_right fun hresolves => ?_
    rw [found_directImplementers hi hresolves]
    simp only [runs_subtypes_iff hi horder, Set.mem_ofPred_eq]
  · obtain ⟨-, hnodup, hresolves, hsearch, hmem⟩ :=
      (adds_implementers hi horder name).of_runs (Linkage.Grows.refl d F l) hrun
    refine ⟨hnodup, fun t => ?_⟩
    rw [hmem, found_directImplementers hi hresolves]
    refine or_congr_right (exists_congr fun s => and_congr_right fun hs => ?_)
    rw [found_subtypes hi horder (hsearch s hs)]
    rfl

/-- A class that names itself as its superclass. -/
def loopDecl : ClassDecl := ⟨"A", some "A", [], false, [], [], []⟩

/-- A disk with the class file of this class. -/
def loopDisk : Disk where
  entries := [(["c"], .directory), (["c", "A.class"], .file 0)]
  contents := [loopDecl.toBytes]

/-- A loader for the directory of the class file. -/
def loopLoader : Chain × Loaders := Loaders.empty.add "app" [Url.ofPath "/c"] none

/-- The index of the class. -/
def loopIndex : Except ScanError ClassIndex := do
  ofResources loopDisk (← ResourceIndex.build loopDisk loopLoader.1 ⟨[], []⟩)

/-- A class below itself: the search ends, and finds the class. -/
theorem subtypes_least_closed_loop :
    ∃ (i : ClassIndex) (S : List TypeRef) (l' : Linkage), i.Made loopLoader.2 loopDisk ∧
      Runs (i.subtypes loopDisk id "A") {} S l' ∧
      IsLeast {X : Set TypeRef | (i.directSubtypes loopDisk "A").found {} ⊆ X ∧
        ∀ s ∈ X, (i.directSubtypes loopDisk s.name).found {} ⊆ X} {t | t ∈ S} ∧
      Relation.TransGen i.Extends "A" "A" := by
  have hrun : (loopIndex.toOption.map fun i =>
      (outcome (i.subtypes loopDisk id "A") {}).1.toOption) = some (some [⟨"A", ⟨1⟩⟩]) := by
    decide +kernel
  obtain ⟨i, hindex, hrun⟩ := Option.map_eq_some_iff.mp hrun
  obtain ⟨l', hrun⟩ := exists_runs_of_toOption hrun
  obtain ⟨resources, hbuild, hof⟩ := bind_eq_ok_iff.mp (toOption_eq_some_iff.mp hindex)
  have hi : i.Made loopLoader.2 loopDisk :=
    ⟨loopDisk, loopLoader.1, ⟨[], []⟩, resources, by simp [loopLoader, Loaders.add], hbuild, hof⟩
  obtain ⟨-, hfound, -⟩ := subtypes_least_closed hi {} (fun _ _ => Iff.rfl) "A"
  obtain ⟨-, hleast, hmem⟩ := hfound _ _ hrun
  exact ⟨i, _, l', hi, hrun, hleast, ((hmem _).mp List.mem_cons_self).1⟩

end ClassIndex

end Classpath
