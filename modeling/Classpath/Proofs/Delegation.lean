import Mathlib.Data.List.Nodup
import Classpath.ClassIndex.Basic
import Classpath.Loaders
import Classpath.Proofs.Success

/-!
# Roots in the Order of Delegation

A chain of loaders has a chain for itself and for each loader above it, and "is above or the
same" is a partial order on chains: `a ∈ c.chains` reads "`a` is above `c`, or is `c`". The
roots of a resource index come in this order, those of a loader before those of any loader
above it, and the roots of one loader in the order of its entries.

## Main results

* `Chain.chains_trans`, `Chain.chains_antisymm`: delegation is an order.
* `Loaders.eq_of_scope_eq`: a scope belongs to one loader.
* `Root.discover_pairwise`: later roots belong to the same loader or to one above.
-/

namespace Classpath

namespace Loaders

/-- A scope belongs to one loader. -/
theorem eq_of_scope_eq (F : Loaders) {a b : Chain} (ha : a ∈ F.made) (hb : b ∈ F.made)
    (h : a.scope = b.scope) : a = b :=
  List.inj_on_of_nodup_map F.scopes_nodup ha hb h

/-- The parent of a loader was made as well. -/
theorem parent_mem (F : Loaders) {x p : Loader} {ps : List Loader}
    (h : (⟨x, p :: ps⟩ : Chain) ∈ F.made) : (⟨p, ps⟩ : Chain) ∈ F.made :=
  F.closed _ h _ rfl

end Loaders

namespace Chain

/-- The chains of a loader: its own, and then those of the loader above it. -/
theorem chains_cons (x p : Loader) (ps : List Loader) :
    (⟨x, p :: ps⟩ : Chain).chains = ⟨x, p :: ps⟩ :: (⟨p, ps⟩ : Chain).chains :=
  Loaders.chains_eq _

theorem chains_single (x : Loader) : (⟨x, []⟩ : Chain).chains = [⟨x, []⟩] := rfl

theorem self_mem_chains (c : Chain) : c ∈ c.chains := by
  rw [Loaders.chains_eq]
  exact List.mem_cons_self

/-- A loader above another one has fewer loaders above itself. -/
theorem eq_or_length_lt_of_mem_chains {a c : Chain} (h : a ∈ c.chains) :
    a = c ∨ a.parents.length < c.parents.length := by
  obtain ⟨x, ps⟩ := c
  induction ps generalizing x with
  | nil =>
      rw [chains_single, List.mem_singleton] at h
      exact Or.inl h
  | cons p ps ih =>
      rw [chains_cons, List.mem_cons] at h
      obtain rfl | h := h
      · exact Or.inl rfl
      · right
        obtain rfl | hlt := ih p h
        · exact Nat.lt_succ_self _
        · exact Nat.lt_succ_of_lt hlt

/-- Two loaders that are above each other are the same. -/
theorem chains_antisymm {a c : Chain} (h : a ∈ c.chains) (h' : c ∈ a.chains) : a = c := by
  obtain heq | hlt := eq_or_length_lt_of_mem_chains h
  · exact heq
  · obtain heq | hlt' := eq_or_length_lt_of_mem_chains h'
    · exact heq.symm
    · omega

/-- What is above a loader above another one is above that one. -/
theorem chains_trans {a b c : Chain} (h : a ∈ b.chains) (h' : b ∈ c.chains) :
    a ∈ c.chains := by
  obtain ⟨x, ps⟩ := c
  induction ps generalizing x with
  | nil =>
      rw [chains_single, List.mem_singleton] at h'
      exact h' ▸ h
  | cons p ps ih =>
      rw [chains_cons, List.mem_cons] at h'
      obtain rfl | h' := h'
      · exact h
      · rw [chains_cons]
        exact List.mem_cons_of_mem _ (ih p h')

/-- The chains of a chain come in order, the nearest first. -/
theorem pairwise_chains (c : Chain) : c.chains.Pairwise fun a b => b ∈ a.chains := by
  obtain ⟨x, ps⟩ := c
  induction ps generalizing x with
  | nil => rw [chains_single]; exact List.pairwise_singleton ..
  | cons p ps ih =>
      rw [chains_cons]
      refine List.Pairwise.cons (fun b hb => ?_) (ih p)
      rw [chains_cons]
      exact List.mem_cons_of_mem _ hb

/-- Every loader stands in a chain once. -/
theorem nodup_chains (c : Chain) : c.chains.Nodup := by
  obtain ⟨x, ps⟩ := c
  induction ps generalizing x with
  | nil => rw [chains_single]; exact List.nodup_singleton _
  | cons p ps ih =>
      rw [chains_cons]
      refine List.nodup_cons.mpr ⟨fun hmem => ?_, ih p⟩
      obtain heq | hlt := eq_or_length_lt_of_mem_chains hmem
      · cases heq
      · simp only [List.length_cons] at hlt
        omega

/-- Of two loaders above another one, one is above the other. -/
theorem chains_total {a b c : Chain} (ha : a ∈ c.chains) (hb : b ∈ c.chains) :
    a ∈ b.chains ∨ b ∈ a.chains := by
  obtain ⟨x, ps⟩ := c
  induction ps generalizing x with
  | nil =>
      rw [chains_single, List.mem_singleton] at ha hb
      exact Or.inl (ha ▸ hb ▸ self_mem_chains _)
  | cons p ps ih =>
      have hself := chains_cons x p ps
      rw [hself, List.mem_cons] at ha hb
      obtain rfl | ha := ha
      · right
        obtain rfl | hb := hb
        · exact self_mem_chains _
        · rw [hself]; exact List.mem_cons_of_mem _ hb
      · obtain rfl | hb := hb
        · left
          rw [hself]; exact List.mem_cons_of_mem _ ha
        · exact ih p ha hb

end Chain

namespace Root

/-! ### The roots of a chain -/

/-- **What an entry comes to**: the root of a directory or of an archive, if it holds anything
that is admitted, and none for any other file. -/
theorem ofEntry?_cases {d : Disk} {c : Chain} {path : String} {f : Filter} {root? : Option Root}
    (h : ofEntry? d c path f = .ok root?) :
    (∃ loc names, d.stat path = .ok ⟨loc, .directory⟩ ∧ directoryNames d path f = .ok names ∧
      root? = if names.isEmpty then none else some ⟨c, path, .directory, names⟩) ∨
    (∃ loc id archive, d.stat path = .ok ⟨loc, .file id⟩ ∧ isArchivePath path = true ∧
      Archive.open_ (d.content id) = .ok archive ∧
      root? = if (archiveNames archive.names f).isEmpty then none
        else some ⟨c, path, .archive id archive, archiveNames archive.names f⟩) ∨
    (∃ loc id, d.stat path = .ok ⟨loc, .file id⟩ ∧ isArchivePath path = false ∧ root? = none) ∨
    ∃ loc target, d.stat path = .ok ⟨loc, .link target⟩ ∧ root? = none := by
  unfold ofEntry? at h
  split at h
  · cases h
  · cases h
  · rename_i loc hstat
    obtain ⟨names, hnames, h⟩ := bind_eq_ok_iff.mp h
    exact Or.inl ⟨loc, names, hstat, mapError_eq_ok_iff.mp hnames, pure_eq_ok_iff.mp h⟩
  · rename_i loc id hstat
    right
    split at h
    · rename_i hpath
      obtain ⟨archive, hopen, h⟩ := bind_eq_ok_iff.mp h
      exact Or.inl ⟨loc, id, archive, hstat, hpath, mapError_eq_ok_iff.mp hopen,
        pure_eq_ok_iff.mp h⟩
    · rename_i hpath
      exact Or.inr (Or.inl ⟨loc, id, hstat, by simpa using hpath, (Except.ok.inj h).symm⟩)
  · rename_i loc target hstat
    exact Or.inr (Or.inr (Or.inr ⟨loc, target, hstat, (Except.ok.inj h).symm⟩))

/-- An entry that comes to a root is a directory or an archive. -/
theorem ofEntry?_eq_some {d : Disk} {c : Chain} {path : String} {f : Filter} {r : Root}
    (h : ofEntry? d c path f = .ok (some r)) :
    (∃ loc names, d.stat path = .ok ⟨loc, .directory⟩ ∧ directoryNames d path f = .ok names ∧
      r = ⟨c, path, .directory, names⟩) ∨
    ∃ loc id archive, d.stat path = .ok ⟨loc, .file id⟩ ∧
      Archive.open_ (d.content id) = .ok archive ∧
      r = ⟨c, path, .archive id archive, archiveNames archive.names f⟩ := by
  have hsome : ∀ {names : List String} {r' : Root},
      some r = (if names.isEmpty then none else some r') → r = r' := by
    intro names r' h
    split at h
    · cases h
    · exact Option.some.inj h
  obtain ⟨loc, names, hstat, hnames, h⟩ | ⟨loc, id, archive, hstat, -, hopen, h⟩ |
    ⟨_, _, -, -, h⟩ | ⟨_, _, -, h⟩ := ofEntry?_cases h
  · exact Or.inl ⟨loc, names, hstat, hnames, hsome h⟩
  · exact Or.inr ⟨loc, id, archive, hstat, hopen, hsome h⟩
  · cases h
  · cases h

/-- What a directory comes to. -/
theorem ofEntry?_of_directoryNames {d : Disk} {c : Chain} {path : String} {f : Filter}
    {loc : Location} {names : List String} (hstat : d.stat path = .ok ⟨loc, .directory⟩)
    (hnames : directoryNames d path f = .ok names) :
    ofEntry? d c path f =
      .ok (if names.isEmpty then none else some ⟨c, path, .directory, names⟩) := by
  unfold ofEntry? ofDirectory?
  rw [hstat]
  dsimp only
  rw [hnames]
  rfl

/-- What an archive comes to. -/
theorem ofEntry?_of_archiveNames {d : Disk} {c : Chain} {path : String} {f : Filter}
    {loc : Location} {id : Nat} {archive : Archive} (hstat : d.stat path = .ok ⟨loc, .file id⟩)
    (hpath : isArchivePath path = true) (hopen : Archive.open_ (d.content id) = .ok archive) :
    ofEntry? d c path f = .ok (if (archiveNames archive.names f).isEmpty then none
      else some ⟨c, path, .archive id archive, archiveNames archive.names f⟩) := by
  unfold ofEntry? ofArchive?
  rw [hstat]
  dsimp only
  rw [if_pos hpath, hopen]
  rfl

/-- The root of an entry belongs to the loader that has the entry. -/
theorem chain_of_ofEntry? {d : Disk} {c : Chain} {path : String} {f : Filter} {r : Root}
    (h : ofEntry? d c path f = .ok (some r)) : r.chain = c := by
  obtain ⟨_, _, -, -, rfl⟩ | ⟨_, _, _, -, -, rfl⟩ := ofEntry?_eq_some h <;> rfl

/-- A loader with one entry has the root that the entry comes to. -/
theorem discoverOwn_of_entry {d : Disk} {c : Chain} {path : String} {f : Filter}
    {root? : Option Root} (hpaths : c.loader.localPaths = [path])
    (hroot : ofEntry? d c path f = .ok root?) : discoverOwn d c f = .ok root?.toList := by
  unfold discoverOwn
  rw [hpaths]
  cases root? <;> simp [hroot, bind, Except.bind, pure, Except.pure]

/-- The roots that are found for the entries of a loader bear its chain. -/
theorem chain_of_mem_discoverOwn {d : Disk} {c : Chain} {f : Filter} {roots : List Root}
    (h : discoverOwn d c f = .ok roots) {r : Root} (hr : r ∈ roots) : r.chain = c := by
  obtain ⟨found, hfound, hroots⟩ := bind_eq_ok_iff.mp h
  rw [pure_eq_ok_iff] at hroots
  rw [hroots] at hr
  obtain ⟨root?, hmem, hsome⟩ := List.mem_filterMap.mp hr
  obtain ⟨path, -, hpath⟩ := exists_of_mem_mapM hfound hmem
  exact chain_of_ofEntry? (hpath.trans (congrArg Except.ok hsome))

/-- The roots of a chain are those of its loaders, one loader after another. -/
theorem discover_eq_ok_iff {d : Disk} {c : Chain} {f : Filter} {roots : List Root} :
    discover d c f = .ok roots ↔
      ∃ groups, List.Forall₂ (fun p rs => discoverOwn d p f = .ok rs) c.chains groups ∧
        roots = groups.flatten := by
  unfold discover
  simp only [bind_eq_ok_iff, pure_eq_ok_iff, mapM_eq_ok_iff]

/-- Groups of roots, one for each of some loaders in order, are in order as a whole. -/
theorem pairwise_flatten {chains : List Chain} {groups : List (List Root)}
    (hgroups : List.Forall₂ (fun p rs => ∀ r ∈ rs, r.chain = p) chains groups)
    (hchains : chains.Pairwise fun a b => b ∈ a.chains) :
    groups.flatten.Pairwise (fun p q => q.chain ∈ p.chain.chains) ∧
      ∀ r ∈ groups.flatten, r.chain ∈ chains := by
  induction hgroups with
  | nil => exact ⟨List.Pairwise.nil, by simp⟩
  | @cons c rs chains groups hrs _ ih =>
      obtain ⟨habove, hchains⟩ := List.pairwise_cons.mp hchains
      obtain ⟨hpairs, hmem⟩ := ih hchains
      rw [List.flatten_cons]
      constructor
      · refine List.pairwise_append.mpr ⟨?_, hpairs, fun p hp q hq => ?_⟩
        · refine List.pairwise_of_forall_mem_list fun p hp q hq => ?_
          rw [hrs p hp, hrs q hq]
          exact Chain.self_mem_chains c
        · rw [hrs p hp]
          exact habove _ (hmem q hq)
      · intro r hr
        obtain hr | hr := List.mem_append.mp hr
        · rw [hrs r hr]
          exact List.mem_cons_self
        · exact List.mem_cons_of_mem _ (hmem r hr)

/-- **Roots come in the order of delegation**, and belong to loaders of the chain. -/
theorem discover_pairwise {d : Disk} {c : Chain} {f : Filter} {roots : List Root}
    (h : discover d c f = .ok roots) :
    roots.Pairwise (fun p q => q.chain ∈ p.chain.chains) ∧ ∀ r ∈ roots, r.chain ∈ c.chains := by
  obtain ⟨groups, hgroups, rfl⟩ := discover_eq_ok_iff.mp h
  refine pairwise_flatten (hgroups.imp ?_) c.pairwise_chains
  exact fun p rs hrs r hr => chain_of_mem_discoverOwn hrs hr

/-! ### Roots and entries -/

/-- Every entry of every loader was looked at, and its root, if it has one, is among those
found. -/
theorem ofEntry?_of_discover {d : Disk} {c p : Chain} {f : Filter} {roots : List Root}
    (h : discover d c f = .ok roots) (hp : p ∈ c.chains) {path : String}
    (hpath : path ∈ p.loader.localPaths) :
    ∃ root?, ofEntry? d p path f = .ok root? ∧ ∀ r ∈ root?, r ∈ roots ∧ r.chain = p := by
  obtain ⟨found, hfound, hroots⟩ := bind_eq_ok_iff.mp h
  rw [pure_eq_ok_iff] at hroots
  obtain ⟨own, hown, hdiscover⟩ := exists_mem_of_mapM hfound hp
  obtain ⟨entries, hentries, hfilter⟩ := bind_eq_ok_iff.mp hdiscover
  rw [pure_eq_ok_iff] at hfilter
  obtain ⟨root?, hmem, hroot⟩ := exists_mem_of_mapM hentries hpath
  refine ⟨root?, hroot, fun r hr => ⟨?_, ?_⟩⟩
  · rw [hroots]
    refine List.mem_flatten.mpr ⟨own, hown, ?_⟩
    rw [hfilter]
    exact List.mem_filterMap.mpr ⟨root?, hmem, hr⟩
  · exact chain_of_ofEntry? (hroot.trans (congrArg Except.ok hr))

/-- The roots of one loader in front of one of them are those of the entries in front. -/
theorem entries_of_discoverOwn {d : Disk} {c : Chain} {f : Filter} {before after : List Root}
    {r : Root} (h : discoverOwn d c f = .ok (before ++ r :: after)) :
    ∃ front path back, c.loader.localPaths = front ++ path :: back ∧
      ofEntry? d c path f = .ok (some r) ∧
      ∀ q ∈ front, ∃ root?, ofEntry? d c q f = .ok root? ∧
        ∀ s ∈ root?, s ∈ before ∧ s.chain = c := by
  obtain ⟨found, hfound, hroots⟩ := bind_eq_ok_iff.mp h
  rw [pure_eq_ok_iff, eq_comm, List.filterMap_eq_append_iff] at hroots
  obtain ⟨front, rest, rfl, hbefore, hrest⟩ := hroots
  obtain ⟨nones, root?, back, rfl, hnones, hroot, -⟩ := List.filterMap_eq_cons_iff.mp hrest
  rw [mapM_eq_ok_iff, ← List.append_assoc] at hfound
  obtain ⟨paths, path, more, hpaths, hfront, hpath⟩ := split_of_forall₂ hfound
  refine ⟨paths, path, more, hpaths, hpath.trans (congrArg Except.ok hroot), fun q hq => ?_⟩
  obtain ⟨root?, hmem, hroot?⟩ := exists_right_of_forall₂ hfront hq
  refine ⟨root?, hroot?, fun s hs => ⟨?_, chain_of_ofEntry? (hroot?.trans (congrArg _ hs))⟩⟩
  obtain hmem | hmem := List.mem_append.mp hmem
  · rw [← hbefore]
    exact List.mem_filterMap.mpr ⟨root?, hmem, hs⟩
  · rw [show root? = none from hnones root? hmem] at hs
    cases hs

/-- **The roots in front of one of them** are those of the entries in front. -/
theorem entries_of_discover {d : Disk} {c : Chain} {f : Filter} {before after : List Root}
    {r : Root} (h : discover d c f = .ok (before ++ r :: after)) :
    ∃ front path back, r.chain.loader.localPaths = front ++ path :: back ∧
      ofEntry? d r.chain path f = .ok (some r) ∧
      ∀ q ∈ front, ∃ root?, ofEntry? d r.chain q f = .ok root? ∧
        ∀ s ∈ root?, s ∈ before ∧ s.chain = r.chain := by
  obtain ⟨groups, hgroups, hroots⟩ := discover_eq_ok_iff.mp h
  obtain ⟨earlier, rs, rs', later, rfl, hbefore⟩ := split_of_flatten_eq hroots.symm
  obtain ⟨-, p, -, -, -, hown⟩ := split_of_forall₂ hgroups
  have hchain : r.chain = p := chain_of_mem_discoverOwn hown (by simp)
  obtain ⟨front, path, back, hpaths, hpath, hfront⟩ := entries_of_discoverOwn hown
  rw [hchain]
  refine ⟨front, path, back, hpaths, hpath, fun q hq => ?_⟩
  obtain ⟨root?, hroot?, hmem⟩ := hfront q hq
  refine ⟨root?, hroot?, fun s hs => ⟨?_, (hmem s hs).2⟩⟩
  rw [hbefore]
  exact List.mem_append_right _ (hmem s hs).1

/-- Every root that is found is that of some entry of its loader, which is one of the chain. -/
theorem exists_entry_of_mem_discover {d : Disk} {c : Chain} {f : Filter} {roots : List Root}
    (h : discover d c f = .ok roots) {r : Root} (hr : r ∈ roots) :
    r.chain ∈ c.chains ∧
      ∃ path ∈ r.chain.loader.localPaths, ofEntry? d r.chain path f = .ok (some r) := by
  refine ⟨(discover_pairwise h).2 r hr, ?_⟩
  obtain ⟨before, after, rfl⟩ := List.append_of_mem hr
  obtain ⟨front, path, back, hpaths, hentry, -⟩ := entries_of_discover h
  exact ⟨path, by simp [hpaths], hentry⟩

end Root

end Classpath
