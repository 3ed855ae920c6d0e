import Mathlib.Data.Finset.Card
import Classpath.Proofs.WalkContent

/-!
# How Deep a Walk Goes

A walk goes into a directory in one of two ways: through a link, and then the directory is none of
those that the walk is inside of, or one name down (`Disk.GoesTo`). Both ways there is less left to
go: fewer directories that the walk is not inside of, or the same ones and fewer entries further
down (`Disk.room_lt`). What is left at the start is less than the depth that walks are given, so
none of them ends for lack of depth, and a walk at any greater depth is the same.

## Main results

* `Disk.filesBelow_eq`: depths for which there is room make no difference.
* `Disk.walk_eq`: a walk as one at any depth that is great enough.
-/

namespace Classpath

namespace Disk

variable {d : Disk} {loc : Location} {path : String} {entry : Entry}
  {inside : List OpenDirectory} {depth depth' : Nat}

/-! ### What is left to go -/

/-- The locations with something directly below. -/
def holders (d : Disk) : Finset Location := (d.entries.map (·.1.dropLast)).toFinset

/-- The locations with something directly below that a walk is not inside of. -/
def unopened (d : Disk) (inside : List OpenDirectory) : Finset Location :=
  d.holders \ (inside.map (·.location)).toFinset

/-- The locations of entries that are longer than a location. -/
def deeper (d : Disk) (loc : Location) : Finset Location :=
  (d.entries.map (·.1)).toFinset.filter (loc.length < ·.length)

/-- A bound on the number of directories that a walk can still go into, one inside of the other:
below each unopened one there are at most all entries. -/
def room (d : Disk) (inside : List OpenDirectory) : Nat :=
  (d.unopened inside).card * (d.entries.length + 1) +
    match inside with
    | [] => d.entries.length
    | o :: _ => (d.deeper o.location).card

/-- Where a walk goes from the directories that it is inside of. -/
inductive GoesTo (d : Disk) : List OpenDirectory → Location → Prop where
  /-- To none of them, as through a link or at the start. -/
  | elsewhere {inside : List OpenDirectory} {loc : Location}
      (h : ∀ o ∈ inside, o.location ≠ loc) : GoesTo d inside loc
  /-- One name down. -/
  | down {o : OpenDirectory} {inside : List OpenDirectory} {s : String}
      (h : o.location ++ [s] ∈ d.entries.map (·.1)) : GoesTo d (o :: inside) (o.location ++ [s])

/-- There are no more locations further down than entries on the disk. -/
theorem card_deeper_le (d : Disk) (loc : Location) : (d.deeper loc).card ≤ d.entries.length :=
  calc (d.deeper loc).card
      ≤ (d.entries.map (·.1)).toFinset.card := Finset.card_filter_le ..
    _ ≤ (d.entries.map (·.1)).length := List.toFinset_card_le _
    _ = d.entries.length := List.length_map _

/-- One name further down there are fewer entries. -/
theorem card_deeper_lt {s : String} (h : loc ++ [s] ∈ d.entries.map (·.1)) :
    (d.deeper (loc ++ [s])).card < (d.deeper loc).card := by
  have hsub : d.deeper (loc ++ [s]) ⊆ d.deeper loc := by
    intro loc' hloc'
    obtain ⟨hmem, hlength⟩ := Finset.mem_filter.mp hloc'
    rw [List.length_append] at hlength
    exact Finset.mem_filter.mpr ⟨hmem, Nat.lt_of_le_of_lt (Nat.le_add_right ..) hlength⟩
  refine Finset.card_lt_card ((Finset.ssubset_iff_of_subset hsub).mpr ⟨loc ++ [s], ?_, ?_⟩)
  · exact Finset.mem_filter.mpr ⟨List.mem_toFinset.mpr h, by simp⟩
  · exact fun hself => Nat.lt_irrefl _ (Finset.mem_filter.mp hself).2

/-- A walk that goes into a location has that one less to go into. -/
theorem unopened_cons (d : Disk) (path : String) (loc : Location) (inside : List OpenDirectory) :
    d.unopened (⟨path, loc⟩ :: inside) = (d.unopened inside).erase loc := by
  unfold unopened
  rw [List.map_cons, List.toFinset_cons, Finset.sdiff_insert]

/-- **One step of the walk** leaves less room. -/
theorem room_lt (path : String) (hloc : loc ∈ d.holders) (h : d.GoesTo inside loc) :
    d.room (⟨path, loc⟩ :: inside) < d.room inside := by
  have hdeeper := card_deeper_le d loc
  cases h with
  | elsewhere h =>
      have hnew : loc ∈ d.unopened inside := by
        refine Finset.mem_sdiff.mpr ⟨hloc, fun hmem => ?_⟩
        obtain ⟨o, ho, heq⟩ := List.mem_map.mp (List.mem_toFinset.mp hmem)
        exact h o ho heq
      have hcard := Finset.card_erase_add_one hnew
      unfold room
      rw [unopened_cons, ← hcard, Nat.add_mul]
      dsimp only
      omega
  | @down o inside s h =>
      have hcard := Nat.mul_le_mul_right (d.entries.length + 1)
        (Finset.card_erase_le (s := d.unopened (o :: inside)) (a := o.location ++ [s]))
      have hless := card_deeper_lt h
      unfold room
      rw [unopened_cons]
      dsimp only
      omega

/-- At the start there is less room than walks are given. -/
theorem room_nil_lt (d : Disk) : d.room [] < d.walkDepth := by
  have hholders : (d.unopened []).card ≤ d.entries.length :=
    calc (d.unopened []).card
        ≤ d.holders.card := Finset.card_le_card Finset.sdiff_subset
      _ ≤ (d.entries.map (·.1.dropLast)).length := List.toFinset_card_le _
      _ = d.entries.length := List.length_map _
  calc d.room []
      = (d.unopened []).card * (d.entries.length + 1) + d.entries.length := rfl
    _ ≤ d.entries.length * (d.entries.length + 1) + d.entries.length :=
        Nat.add_le_add_right (Nat.mul_le_mul_right _ hholders) _
    _ = d.entries.length * (d.entries.length + 2) := by rw [← Nat.mul_succ]
    _ < d.walkDepth := Nat.mul_lt_mul_of_pos_right (by omega) (by omega)

/-! ### Depths -/

/-- What a directory lists stands directly below it. -/
theorem mem_holders {s : String} (h : (s, entry) ∈ d.childrenAt loc) : loc ∈ d.holders := by
  refine List.mem_toFinset.mpr (List.mem_map.mpr ⟨_, exists_of_mem_childrenAt h, ?_⟩)
  exact List.dropLast_concat

/-- Where the path of a directory that is listed in another one leads. -/
theorem Sound.location_of_child (hd : d.Sound) {s : String} {loc' : Location}
    (hstat : d.stat path = .ok ⟨loc, .directory⟩) (hchild : (s, .directory) ∈ d.childrenAt loc)
    (hstat' : d.stat (Path.join path s) = .ok ⟨loc', .directory⟩) : loc' = loc ++ [s] := by
  have hs := hd.fileName hchild
  obtain ⟨husable, hleads⟩ := stat_eq_ok_iff.mp hstat
  obtain ⟨links, hbelow⟩ := leads_below husable.ne_empty hleads
  have hone := (stat_eq_ok_iff.mp hstat').2
  rw [hbelow s hs.relative, Text.split_eq_singleton hs.no_slash, resolve_name hs.toIsName,
    if_neg (Nat.not_lt_of_le hs.short), hd.entry?_of_mem hchild] at hone
  dsimp only at hone
  rw [resolve_nil] at hone
  cases hone
  rfl

/-- A directory at a place is one that the walk goes to. -/
def Enterable (d : Disk) (inside : List OpenDirectory) (path : String) (entry : Entry) : Prop :=
  entry = .directory → ∀ loc, d.stat path = .ok ⟨loc, .directory⟩ → d.GoesTo inside loc

/-- A directory that a link leads to is none of those that the walk is inside of. -/
theorem Enterable.settled {entry' : Entry} (h : d.Enterable inside path entry)
    (hsettled : d.settled inside path entry = .ok entry') : d.Enterable inside path entry' := by
  cases entry with
  | directory =>
      cases hsettled
      exact h
  | file id =>
      cases hsettled
      exact h
  | link target =>
      rintro rfl loc hstat
      replace hsettled : d.followLink inside path = .ok .directory := hsettled
      unfold followLink at hsettled
      rw [hstat] at hsettled
      dsimp only at hsettled
      split at hsettled
      · cases hsettled
      · rename_i hnone
        exact .elsewhere fun o ho heq => by simpa [heq] using List.find?_eq_none.mp hnone o ho

/-- What is listed in a directory is one name down. -/
theorem Sound.enterable_child (hd : d.Sound) {s : String}
    (hstat : d.stat path = .ok ⟨loc, .directory⟩) (hchild : (s, entry) ∈ d.childrenAt loc) :
    d.Enterable (⟨path, loc⟩ :: inside) (Path.join path s) entry := by
  rintro rfl loc' hstat'
  rw [hd.location_of_child hstat hchild hstat']
  exact .down (List.mem_map_of_mem (exists_of_mem_childrenAt hchild))

/-- **Depths for which there is room** make no difference. -/
theorem filesBelow_eq (hd : d.Sound) (hdepth : d.room inside < depth)
    (hdepth' : d.room inside < depth') (hentry : d.Enterable inside path entry) :
    d.filesBelow depth inside path entry = d.filesBelow depth' inside path entry := by
  -- on the depth, which stays greater than the room that is left
  induction depth generalizing depth' inside path entry with
  | zero => omega
  | succ depth ih =>
      obtain ⟨depth', rfl⟩ : ∃ k, depth' = k + 1 := ⟨depth' - 1, by omega⟩
      rw [filesBelow_succ, filesBelow_succ]
      refine bind_congr_ok fun entry' hsettled => ?_
      cases entry' with
      | file id => rfl
      | link target => rfl
      | directory =>
          refine bind_congr_ok fun found hfound => ?_
          obtain ⟨loc, children⟩ := found
          rw [mapError_eq_ok_iff, listing_eq_ok_iff] at hfound
          obtain ⟨hstat, rfl⟩ := hfound
          have hgoes := hentry.settled hsettled rfl _ hstat
          refine congrArg (· >>= _) (mapM_congr fun child hchild => ?_)
          -- a directory without children leaves as much room, but the walk ends there
          have hroom := room_lt path (mem_holders hchild) hgoes
          exact ih (by omega) (by omega) (hd.enterable_child hstat hchild)

/-- **A walk** is one at any depth that is not less than the one walks are given. -/
theorem walk_eq (hd : d.Sound) (hdepth : d.walkDepth ≤ depth) :
    d.walk path = (d.lookup path false).mapError (.entry path) >>= fun found =>
      d.filesBelow depth [] path found.entry := by
  have hroom := room_nil_lt d
  refine bind_congr_ok fun found _ => ?_
  exact filesBelow_eq hd hroom (Nat.lt_of_lt_of_le hroom hdepth) fun _ _ _ => .elsewhere (by simp)

end Disk

end Classpath
