import Classpath.Loader

/-!
# All loaders

The loaders made so far. They are numbered in the order in which they are made, and each one
delegates to loaders made before it, so no two of them share a scope and every delegation
comes to an end.

## Main definitions

* `Loaders`, `Loaders.add`, `Loaders.addPaths`.
* `Loaders.chain?`: the loader of a scope.

## Main results

* `Loaders.scopes_nodup`: a scope belongs to one loader.
* `Loaders.mem_of_mem_chains`: whatever a loader delegates to was made as well.
-/

namespace Classpath

/-- The loaders made so far, in order, each with the loaders above it. -/
structure Loaders where
  made : List Chain := []
  /-- The numbers of the scopes count from one. -/
  numbered : made.map (·.scope.number) = List.range' 1 made.length := by rfl
  /-- Parents are made first. -/
  closed : ∀ c ∈ made, ∀ p ∈ c.parent?, p ∈ made := by simp

namespace Loaders

/-- No loaders yet. -/
def empty : Loaders := {}

/-- The loader of a scope. -/
def chain? (l : Loaders) (scope : Scope) : Option Chain := l.made.find? (·.scope = scope)

/-- The scope of the next loader. -/
def nextScope (l : Loaders) : Scope := ⟨l.made.length + 1⟩

/-- A loader that delegates to another one, if any. -/
def chainUnder (loader : Loader) : Option Chain → Chain
  | none => ⟨loader, []⟩
  | some parent => ⟨loader, parent.loaders⟩

/-- The parent of a loader is the one it was put under. -/
@[simp] theorem parent?_chainUnder (loader : Loader) (parent : Option Chain) :
    (chainUnder loader parent).parent? = parent := by
  cases parent <;> rfl

/-- A loader is its own scope's. -/
@[simp] theorem scope_chainUnder (loader : Loader) (parent : Option Chain) :
    (chainUnder loader parent).scope = loader.scope := by
  cases parent <;> rfl

/-- A new loader under the one of a scope, and the loaders with it. -/
def add (l : Loaders) (name : String) (entries : List Url) (parent : Option Scope) :
    Chain × Loaders :=
  let above := parent.bind l.chain?
  let chain := chainUnder ⟨l.nextScope, name, entries⟩ above
  (chain, {
    made := l.made ++ [chain]
    numbered := by
      have scope : chain.scope.number = 1 + 1 * l.made.length := by
        simp [chain, nextScope, Nat.add_comm]
      rw [List.map_append, List.length_append, l.numbered, List.map_singleton,
        List.length_singleton, List.range'_concat, scope]
    closed := by
      intro c mem p parent
      rcases List.mem_append.1 mem with old | new
      · exact List.mem_append_left _ (l.closed c old p parent)
      · rw [List.mem_singleton.1 new, parent?_chainUnder] at parent
        obtain ⟨s, -, found⟩ := Option.bind_eq_some_iff.1 parent
        exact List.mem_append_left _ (List.mem_of_find?_eq_some found) })

/-- A new loader for paths as they are typed. -/
def addPaths (l : Loaders) (current name : String) (paths : List String)
    (parent : Option Scope) : Except LoaderError (Chain × Loaders) := do
  let loader ← Loader.ofPaths current l.nextScope name paths
  return l.add name loader.entries parent

/-! ### Scopes and delegation -/

/-- The scope of a loader belongs to no other one. -/
theorem scopes_nodup (l : Loaders) : (l.made.map (·.scope)).Nodup := by
  have numbers : ((l.made.map (·.scope)).map (·.number)).Nodup := by
    rw [List.map_map]
    exact l.numbered ▸ List.nodup_range'
  exact List.Pairwise.of_map _ (fun a b differ same => differ (by rw [same])) numbers

/-- The chains of a loader are its own and those of its parent. -/
theorem chains_eq (c : Chain) :
    c.chains = c :: (c.parent?.map Chain.chains).getD [] := by
  obtain ⟨loader, parents⟩ := c
  cases parents <;> rfl

/-- Whatever a loader delegates to was made as well. -/
theorem mem_of_mem_chains (l : Loaders) {c p : Chain} (made : c ∈ l.made)
    (above : p ∈ c.chains) : p ∈ l.made := by
  obtain ⟨loader, parents⟩ := c
  induction parents generalizing loader with
  | nil =>
    rw [chains_eq] at above
    exact (List.mem_singleton.1 above) ▸ made
  | cons parent parents ih =>
    rw [chains_eq] at above
    rcases List.mem_cons.1 above with rfl | above
    · exact made
    · exact ih parent (l.closed _ made ⟨parent, parents⟩ rfl) above

end Loaders

end Classpath
