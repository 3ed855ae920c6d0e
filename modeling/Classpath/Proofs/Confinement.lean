import Classpath.Proofs.Containment
import Classpath.Proofs.DirectoryContent
import Classpath.Proofs.SortedNames
import Classpath.Proofs.WalkDepth

/-!
# What the Scan of a Directory Depends On

A walk looks up the path it begins at and those that names lead to from there, and nothing else. So
on two disks that look the same from a path on (`Disk.LooksSameFrom`) walks from there come to the
same, whether they succeed or fail. Neither what is in a file matters for this nor which file it is.

A directory is walked from places that the prefixes of a filter name. Since no prefix climbs, each
of these is the directory or a place below it, with one exception: what stands in front of the last
slash of a prefix may begin with a slash itself, and to join a path from the root to the directory
leaves the directory out. So a scan for a prefix such as `/out/x` walks `/out`, wherever the
directory is. A filter that a configuration is compiled to has no such prefix.

## Main results

* `Disk.LooksSameFrom.walk_eq`: what a walk depends on.
* `Disk.LooksSameFrom.of_noLinks`: directories without links that have the same.
* `Root.scans_within_directory`: where walks begin, and what the scan of a directory depends on.
* `Root.stray_walk`: a scan that depends on something outside of the directory.
-/

open Classpath.Path (IsName)

namespace Classpath

/-- A path itself, or a relative one joined to it that does not climb. -/
inductive Path.IsWithin (base : String) : String → Prop where
  | self : IsWithin base base
  | below (rel : String) (hrelative : isAbsolute rel = false) (hup : ".." ∉ Text.split '/' rel) :
      IsWithin base (join base rel)

namespace Path.IsWithin

theorem name (base : String) {s : String} (hs : IsName s) : IsWithin base (join base s) := by
  refine .below s hs.relative ?_
  rw [Text.split_eq_singleton hs.no_slash, List.mem_singleton]
  exact hs.ne_dots.symm

/-- What is within a path that is within another one is within that one. -/
theorem trans {a b c : String} (hab : IsWithin a b) (hbc : IsWithin b c) : IsWithin a c := by
  cases hab with
  | self => exact hbc
  | below rel hrelative hup =>
      cases hbc with
      | self => exact .below rel hrelative hup
      | below more hmore hupmore =>
          rw [join_assoc a hrelative hmore]
          exact .below _ (relative_join hrelative hmore) (up_notMem_join hmore hup hupmore)

end Path.IsWithin

/-- Two entries that are the same, but for which file it is. -/
inductive Entry.SameKind : Entry → Entry → Prop where
  | file (id id' : Nat) : SameKind (.file id) (.file id')
  | directory : SameKind .directory .directory
  | link (target : String) : SameKind (.link target) (.link target)

theorem Entry.SameKind.refl (entry : Entry) : entry.SameKind entry := by
  cases entry with
  | file id => exact .file id id
  | directory => exact .directory
  | link target => exact .link target

namespace Disk

/-- Two paths, or one path on two disks, lead to the same place. -/
structure Found.Same (found found' : Found) : Prop where
  location : found.location = found'.location
  entry : found.entry.SameKind found'.entry

/-- The same names are in two directories, with the same at each. -/
def SameChildren : List (String × Entry) → List (String × Entry) → Prop :=
  List.Forall₂ fun child child' => child.1 = child'.1 ∧ child.2.SameKind child'.2

/-- Two disks on which a path leads to the same place, whether or not a link at its end is followed,
and lists the same if this is a directory. -/
structure LooksSame (d d' : Disk) (path : String) : Prop where
  lookup : ∀ followLast,
    Corresponds Eq Found.Same (d.lookup path followLast) (d'.lookup path followLast)
  listing : Corresponds Eq (fun found found' => found.1 = found'.1 ∧ SameChildren found.2 found'.2)
    (d.listing path) (d'.listing path)

/-- Two disks that look the same at a path and at all that can be reached from it. -/
def LooksSameFrom (d d' : Disk) (path : String) : Prop :=
  ∀ place, Path.IsWithin path place → d.LooksSame d' place

variable {d d' : Disk} {loc : Location} {path : String} {entry entry' : Entry}
  {inside : List OpenDirectory} {depth : Nat}

/-- What looks the same from a path on does so at the path itself. -/
theorem LooksSameFrom.self (h : d.LooksSameFrom d' path) : d.LooksSame d' path := h path .self

/-- What looks the same from a path on does so from every place within it. -/
theorem LooksSameFrom.within (h : d.LooksSameFrom d' path) {place : String}
    (hplace : Path.IsWithin path place) : d.LooksSameFrom d' place :=
  fun _ hbelow => h _ (hplace.trans hbelow)

/-- Two disks that look the same at a path have the same there, at the ends of all links. -/
theorem LooksSame.stat (h : d.LooksSame d' path) :
    Corresponds Eq Found.Same (d.stat path) (d'.stat path) := h.lookup true

/-- So they agree on whether there is a directory. -/
theorem LooksSame.isDirectory_eq (h : d.LooksSame d' path) :
    d.isDirectory path = d'.isDirectory path := by
  have hstat := h.stat
  unfold isDirectory
  generalize d.stat path = x at hstat ⊢
  generalize d'.stat path = y at hstat ⊢
  cases hstat with
  | error he => rfl
  | @ok found found' hfound =>
      obtain ⟨loc, entry⟩ := found
      obtain ⟨loc', entry'⟩ := found'
      obtain ⟨-, hentry⟩ := hfound
      cases hentry <;> rfl

/-! ### Walks -/

/-- The same is at the end of a link. -/
theorem LooksSame.followLink (h : d.LooksSame d' path) :
    Corresponds Eq Entry.SameKind (d.followLink inside path) (d'.followLink inside path) := by
  have hstat := h.stat
  unfold Disk.followLink
  generalize d.stat path = x at hstat ⊢
  generalize d'.stat path = y at hstat ⊢
  cases hstat with
  | error he => exact .error (congrArg _ he)
  | @ok found found' hfound =>
      obtain ⟨loc, entry⟩ := found
      obtain ⟨loc', entry'⟩ := found'
      obtain ⟨rfl : loc = loc', hentry⟩ := hfound
      cases hentry with
      | file id id' => exact .ok (.file id id')
      | link target => exact .ok (.link target)
      | directory =>
          dsimp only
          split
          · exact .error rfl
          · exact .ok .directory

/-- What the walk takes an entry for, a link for what is at its end, is the same where the disks
look the same. -/
theorem LooksSame.settled (h : d.LooksSame d' path) (hentry : entry.SameKind entry') :
    Corresponds Eq Entry.SameKind (d.settled inside path entry)
      (d'.settled inside path entry') := by
  cases hentry with
  | file id id' => exact .ok (.file id id')
  | directory => exact .ok .directory
  | link target => exact h.followLink

/-- **One step of the walk** comes to the same if the walks of all that is below do. -/
theorem LooksSameFrom.entered_eq (hd : d.Sound) (h : d.LooksSameFrom d' path)
    (hbelow : ∀ inside place entry entry', d.LooksSameFrom d' place → entry.SameKind entry' →
      d.filesBelow depth inside place entry = d'.filesBelow depth inside place entry')
    (hentry : entry.SameKind entry') :
    d.entered depth inside path entry = d'.entered depth inside path entry' := by
  cases hentry with
  | file id id' => rfl
  | link target => rfl
  | directory =>
      refine (h.self.listing.mapError _).bind_eq fun found found' hfound hsame => ?_
      obtain ⟨loc, children⟩ := found
      obtain ⟨loc', children'⟩ := found'
      obtain ⟨rfl, hchildren⟩ := hsame
      rw [mapError_eq_ok_iff, listing_eq_ok_iff] at hfound
      obtain ⟨-, rfl⟩ := hfound
      refine congrArg (· >>= _) (mapM_congr_of_forall₂ hchildren ?_)
      rintro ⟨s, entry⟩ hchild ⟨s', entry'⟩ ⟨rfl, hentry⟩
      exact hbelow _ _ _ _ (h.within (.name path (hd.fileName hchild).toIsName)) hentry

/-- **A walk** at any depth comes to the same from a path on from which everything looks the
same. -/
theorem LooksSameFrom.filesBelow_eq (hd : d.Sound) (h : d.LooksSameFrom d' path)
    (hentry : entry.SameKind entry') :
    d.filesBelow depth inside path entry = d'.filesBelow depth inside path entry' := by
  induction depth generalizing inside path entry entry' with
  | zero => rfl
  | succ depth ih =>
      rw [filesBelow_succ, filesBelow_succ]
      exact (h.self.settled hentry).bind_eq fun _ _ _ hsettled =>
        h.entered_eq hd (fun _ _ _ _ => ih) hsettled

/-- **What a walk depends on**: how it looks from its start on. -/
theorem LooksSameFrom.walk_eq (hd : d.Sound) (hd' : d'.Sound) (h : d.LooksSameFrom d' path) :
    d.walk path = d'.walk path := by
  -- the disks may differ in their numbers of entries, so the walks are given different depths
  rw [Disk.walk_eq hd (Nat.le_max_left d.walkDepth d'.walkDepth),
    Disk.walk_eq hd' (Nat.le_max_right d.walkDepth d'.walkDepth)]
  exact ((h.self.lookup false).mapError _).bind_eq fun _ _ _ hfound =>
    h.filesBelow_eq hd hfound.entry

/-! ### Directories without links -/

/-- In a directory there is what the disk has one name further down. -/
theorem Sound.mem_childrenAt_iff (hd : d.Sound) {s : String} :
    (s, entry) ∈ d.childrenAt loc ↔ d.entry? (loc ++ [s]) = some entry :=
  ⟨hd.entry?_of_mem, mem_childrenAt⟩

/-- Nothing is listed twice in a directory. -/
theorem Sound.nodup_childrenAt (hd : d.Sound) (loc : Location) : (d.childrenAt loc).Nodup := by
  refine (List.mergeSort_perm _ _).nodup_iff.mpr (hd.nodup.of_map.filterMap ?_)
  rintro ⟨loc₁, entry₁⟩ ⟨loc₂, entry₂⟩ ⟨s, entry⟩ h₁ h₂
  rw [Option.mem_def, Option.ite_none_right_eq_some, Option.map_eq_some_iff] at h₁ h₂
  obtain ⟨hdrop₁, last₁, hlast₁, h₁⟩ := h₁
  obtain ⟨hdrop₂, last₂, hlast₂, h₂⟩ := h₂
  cases h₁
  cases h₂
  rw [← List.dropLast_append_getLast? s hlast₁, ← List.dropLast_append_getLast? s hlast₂, hdrop₁,
    hdrop₂]

/-- A directory is listed in the order of names. -/
theorem pairwise_childrenAt (d : Disk) (loc : Location) :
    (d.childrenAt loc).Pairwise fun a b => a.1 ≤ b.1 :=
  Text.pairwise_mergeSort (fun child : String × Entry => child.1) _

/-- What is listed in a directory depends on what is directly below it. -/
theorem Sound.childrenAt_congr (hd : d.Sound) (hd' : d'.Sound)
    (h : ∀ s, d.entry? (loc ++ [s]) = d'.entry? (loc ++ [s])) :
    d.childrenAt loc = d'.childrenAt loc := by
  have hmem : ∀ child, child ∈ d.childrenAt loc ↔ child ∈ d'.childrenAt loc := fun ⟨s, entry⟩ => by
    rw [hd.mem_childrenAt_iff, hd'.mem_childrenAt_iff, h s]
  have hperm : (d.childrenAt loc).Perm (d'.childrenAt loc) :=
    (List.perm_ext_iff_of_nodup (hd.nodup_childrenAt loc) (hd'.nodup_childrenAt loc)).mpr hmem
  refine hperm.eq_of_pairwise ?_ (pairwise_childrenAt d loc) (pairwise_childrenAt d' loc)
  rintro ⟨s, entry⟩ ⟨s', entry'⟩ hchild hchild' hle hge
  obtain rfl : s = s' := le_antisymm hle hge
  rw [hd.mem_childrenAt_iff] at hchild
  rw [← hmem, hd.mem_childrenAt_iff, hchild] at hchild'
  rw [Option.some.inj hchild']

/-- Two disks look the same at a path if it is looked up to the same place, and the same is listed
there. -/
theorem LooksSame.of_eq
    (hlookup : ∀ followLast, d.lookup path followLast = d'.lookup path followLast)
    (hchildren : ∀ loc, d.stat path = .ok ⟨loc, .directory⟩ →
      d.childrenAt loc = d'.childrenAt loc) : d.LooksSame d' path where
  lookup followLast := by
    rw [← hlookup]
    exact .refl (fun found => ⟨rfl, .refl found.entry⟩) _
  listing := by
    have hlisting : d.listing path = d'.listing path := by
      have hstat : d.stat path = d'.stat path := hlookup true
      unfold Disk.listing
      rw [← hstat]
      refine bind_congr_ok fun found hfound => ?_
      obtain ⟨loc, _ | _ | _⟩ := found
      · rfl
      · rw [hchildren loc hfound]
      · rfl
    rw [← hlisting]
    exact .refl (fun found => ⟨rfl, List.forall₂_same.mpr fun child _ => ⟨rfl, .refl child.2⟩⟩) _

/-- **Directories without links** look the same from their paths on if they have the same. -/
theorem LooksSameFrom.of_noLinks (hd : d.Sound) (hd' : d'.Sound)
    (hpath : ∀ followLast, d.lookup path followLast = .ok ⟨loc, .directory⟩)
    (hpath' : ∀ followLast, d'.lookup path followLast = .ok ⟨loc, .directory⟩)
    (hlinks : d.NoLinks loc) (hsame : ∀ loc', loc <+: loc' → d.entry? loc' = d'.entry? loc') :
    d.LooksSameFrom d' path := by
  have hchildren : ∀ {loc'}, loc <+: loc' → d.childrenAt loc' = d'.childrenAt loc' :=
    fun hloc' => hd.childrenAt_congr hd' fun s =>
      hsame _ (hloc'.trans (List.prefix_append _ [s]))
  obtain ⟨husable, hleads⟩ := stat_eq_ok_iff.mp (hpath true)
  obtain ⟨links, hbelow⟩ := resolve_below husable.ne_empty hleads
  obtain ⟨links', hbelow'⟩ := resolve_below husable.ne_empty (stat_eq_ok_iff.mp (hpath' true)).2
  intro place hplace
  cases hplace with
  | self =>
      refine .of_eq (fun followLast => (hpath followLast).trans (hpath' followLast).symm) ?_
      intro loc' hstat
      cases (hpath true).symm.trans hstat
      exact hchildren List.prefix_rfl
  | below rel hrelative hup =>
      refine .of_eq (fun followLast => lookup_congr ?_) fun loc' hstat => ?_
      · rw [hbelow followLast rel hrelative, hbelow' followLast rel hrelative]
        exact resolve_congr hup hlinks hsame
      · have hfound := (stat_eq_ok_iff.mp hstat).2
        rw [leads, hbelow true rel hrelative] at hfound
        exact hchildren (resolve_within hup hlinks hfound).1

end Disk

/-! ### Scans -/

/-- A path from the root is what stands in front of the last slash of a prefix. -/
def Filter.LeadsFromRoot (f : Filter) (place : String) : Prop :=
  Path.isAbsolute place = true ∧
    ∃ start ∈ f.prefixes, Filter.climbs start = false ∧ Root.directoryPart? start = some place

namespace Root

variable {d d' : Disk} {directory place : String} {f : Filter}

/-- The place where the walk for a prefix begins if there is a directory. -/
def startPlace (directory start : String) : String :=
  match directoryPart? start with
  | some part => Path.join directory part
  | none => directory

/-- Where the walk for a prefix begins: nowhere if the prefix climbs or leads to no directory, and
otherwise at its place. -/
theorem walkStart?_eq_ite (start : String) :
    walkStart? d directory start =
      if Filter.climbs start then none
      else if d.isDirectory (startPlace directory start) then some (startPlace directory start)
      else none := rfl

/-- **Where the walk for a prefix may begin.** -/
theorem startPlace_within {start : String} (hstart : start ∈ f.prefixes)
    (hclimbs : Filter.climbs start = false) :
    Path.IsWithin directory (startPlace directory start) ∨
      f.LeadsFromRoot (startPlace directory start) := by
  unfold startPlace
  cases hpart : directoryPart? start with
  | none => exact Or.inl .self
  | some part =>
      cases habsolute : Path.isAbsolute part with
      | false =>
          exact Or.inl (.below part habsolute (not_climbs_of_directoryPart? hpart hclimbs))
      | true =>
          dsimp only
          rw [Path.join_of_isAbsolute directory habsolute]
          exact Or.inr ⟨habsolute, start, hstart, hclimbs, hpart⟩

/-- Every walk begins within the directory, or at a path that a prefix spells from the root. -/
theorem within_of_mem_walkStarts (h : place ∈ walkStarts d directory f.prefixes) :
    Path.IsWithin directory place ∨ f.LeadsFromRoot place := by
  obtain ⟨-, rfl⟩ | ⟨start, hmem, hstart⟩ := mem_walkStarts_iff.mp h
  · exact Or.inl .self
  · rw [walkStart?_eq_ite, Option.ite_none_left_eq_some, Option.ite_none_right_eq_some] at hstart
    obtain ⟨hclimbs, -, hplace⟩ := hstart
    rw [← Option.some.inj hplace]
    exact startPlace_within hmem (Bool.eq_false_iff.mpr hclimbs)

/-- And wherever a prefix spells the path of a directory from the root, a walk does begin there. -/
theorem mem_walkStarts_of_leadsFromRoot (h : f.LeadsFromRoot place)
    (hplace : d.isDirectory place = true) : place ∈ walkStarts d directory f.prefixes := by
  obtain ⟨habsolute, start, hstart, hclimbs, hpart⟩ := h
  have hstartPlace : startPlace directory start = place := by
    unfold startPlace
    rw [hpart]
    exact Path.join_of_isAbsolute directory habsolute
  refine mem_walkStarts_iff.mpr (Or.inr ⟨start, hstart, ?_⟩)
  rw [walkStart?_eq_ite, hstartPlace, if_neg (by simp [hclimbs]), if_pos hplace]

/-- Two disks look the same wherever a walk for a directory and a filter may begin. -/
def LooksSameFor (d d' : Disk) (directory : String) (f : Filter) : Prop :=
  ∀ place, Path.IsWithin directory place ∨ f.LeadsFromRoot place → d.LooksSameFrom d' place

/-- Where two disks look the same, the walks for the prefixes begin at the same places. -/
theorem LooksSameFor.walkStarts_eq (h : LooksSameFor d d' directory f) :
    walkStarts d directory f.prefixes = walkStarts d' directory f.prefixes := by
  unfold walkStarts
  split
  · rfl
  · refine List.filterMap_congr fun start hstart => ?_
    rw [walkStart?_eq_ite, walkStart?_eq_ite]
    split
    · rfl
    · rename_i hclimbs
      have hplace := h _ (startPlace_within hstart (Bool.eq_false_iff.mpr hclimbs))
      rw [hplace.self.isDirectory_eq]

/-- And all of them together yield the same names, or fail in the same way. -/
theorem LooksSameFor.directoryNames_eq (hd : d.Sound) (hd' : d'.Sound)
    (h : LooksSameFor d d' directory f) :
    directoryNames d directory f = directoryNames d' directory f := by
  unfold directoryNames
  rw [← h.walkStarts_eq]
  refine congrArg (· >>= _) (mapM_congr fun place hplace => ?_)
  exact (h place (within_of_mem_walkStarts hplace)).walk_eq hd hd'

/-- No part of a prefix that a configuration is compiled to leads from the root. -/
theorem not_leadsFromRoot {config : Config}
    (hf : config.compileResources = .ok f ∨ config.compileClasses = .ok f) :
    ¬f.LeadsFromRoot place := by
  rintro ⟨habsolute, start, hstart, -, hpart⟩
  have hrelative := relative_of_directoryPart? hpart (Config.prefixes_spec hf start hstart).2
  rw [habsolute] at hrelative
  cases hrelative

/-- **Where the scan of a directory goes, and what it depends on.** Each walk begins at the
directory, at a relative path joined to it that does not climb, or at a path from the root in front
of the last slash of a prefix; and wherever such a path leads to a directory, a walk begins there.
Disks that look the same from the directory on, and from these paths, give the same root or the same
error. A configuration is compiled to filters that have no such paths. -/
theorem scans_within_directory (hd : d.Sound) (chain : Chain) (directory : String) (f : Filter) :
    (∀ place ∈ walkStarts d directory f.prefixes,
      Path.IsWithin directory place ∨ f.LeadsFromRoot place) ∧
    (∀ place, f.LeadsFromRoot place → d.isDirectory place = true →
      place ∈ walkStarts d directory f.prefixes) ∧
    (∀ d' : Disk, d'.Sound → d.LooksSameFrom d' directory →
      (∀ place, f.LeadsFromRoot place → d.LooksSameFrom d' place) →
        ofDirectory? d chain directory f = ofDirectory? d' chain directory f) ∧
    ∀ config : Config, config.compileResources = .ok f ∨ config.compileClasses = .ok f →
      ∀ place, ¬f.LeadsFromRoot place := by
  refine ⟨fun place => within_of_mem_walkStarts, fun place => mem_walkStarts_of_leadsFromRoot,
    fun d' hd' h hroot => ?_, fun config hf place => not_leadsFromRoot hf⟩
  have hsame : LooksSameFor d d' directory f := fun place hplace =>
    hplace.elim (fun hwithin => h.within hwithin) (hroot place)
  unfold ofDirectory?
  rw [hsame.directoryNames_eq hd hd']

/-- A disk with a file in a directory. -/
def calmDisk : Disk where
  entries := [(["c"], .directory), (["c", "com"], .directory), (["c", "com", "A.txt"], .file 0)]
  contents := [[]]

/-- The same disk with a link outside of the directory that leads nowhere. -/
def strayDisk : Disk where
  entries := (["out"], .directory) :: (["out", "gone"], .link "nowhere") :: calmDisk.entries
  contents := calmDisk.contents

/-- The link outside of the directory is not seen from the directory on. -/
theorem strayDisk_looksSameFrom : strayDisk.LooksSameFrom calmDisk "/c" := by
  have hsame : ∀ loc, ["c"] <+: loc → strayDisk.entry? loc = calmDisk.entry? loc := by
    rintro loc ⟨rest, rfl⟩
    simp [Disk.entry?, strayDisk, List.lookup_cons]
  have hlinks : strayDisk.NoLinks ["c"] := by
    intro loc target hloc hlink
    rw [hsame loc hloc, Disk.entry?] at hlink
    split at hlink
    · cases hlink
    · obtain ⟨front, back, hsplit, -⟩ := List.lookup_eq_some_iff.mp hlink
      have hmem : (loc, Entry.link target) ∈ calmDisk.entries := by simp [hsplit]
      simp [calmDisk] at hmem
  have hpath : ∀ followLast, strayDisk.lookup "/c" followLast = .ok ⟨["c"], .directory⟩ := by
    decide +kernel
  have hpath' : ∀ followLast, calmDisk.lookup "/c" followLast = .ok ⟨["c"], .directory⟩ := by
    decide +kernel
  exact .of_noLinks (by decide +kernel) (by decide +kernel) hpath hpath' hlinks hsame

/-- A scan for two prefixes, of which one leads from the root to a place in the directory. -/
theorem scans_within_directory_twice :
    strayDisk.Sound ∧ calmDisk.Sound ∧ strayDisk.LooksSameFrom calmDisk "/c" ∧
      (∀ place, Filter.LeadsFromRoot ⟨["com/A", "/c/com/x"], []⟩ place ↔ place = "/c/com") ∧
      (∀ place, ¬Filter.LeadsFromRoot ⟨["com/A"], []⟩ place) ∧
      walkStarts strayDisk "/c" ["com/A", "/c/com/x"] = ["/c/com", "/c/com"] ∧
      strayDisk.walk "/c/com" = .ok ["/c/com/A.txt"] ∧
      ofDirectory? strayDisk ⟨⟨⟨1⟩, "app", []⟩, []⟩ "/c" ⟨["com/A", "/c/com/x"], []⟩ =
        ofDirectory? calmDisk ⟨⟨⟨1⟩, "app", []⟩, []⟩ "/c" ⟨["com/A", "/c/com/x"], []⟩ := by
  have hd : strayDisk.Sound := by decide +kernel
  have hd' : calmDisk.Sound := by decide +kernel
  have hroot : ∀ place,
      Filter.LeadsFromRoot ⟨["com/A", "/c/com/x"], []⟩ place ↔ place = "/c/com" := by
    have hfirst : directoryPart? "com/A" = some "com" := by decide +kernel
    have hsecond : directoryPart? "/c/com/x" = some "/c/com" := by decide +kernel
    have hrelative : Path.isAbsolute "com" = false := by decide
    intro place
    constructor
    · rintro ⟨habsolute, start, hstart, -, hpart⟩
      obtain rfl | rfl : start = "com/A" ∨ start = "/c/com/x" := by simpa using hstart
      · rw [← Option.some.inj (hfirst.symm.trans hpart), hrelative] at habsolute
        cases habsolute
      · exact (Option.some.inj (hsecond.symm.trans hpart)).symm
    · rintro rfl
      exact ⟨by decide, "/c/com/x", by simp, by decide, hsecond⟩
  have hwithin : Path.IsWithin "/c" "/c/com" := .below "com" (by decide) (by decide)
  obtain ⟨-, -, hscan, -⟩ :=
    scans_within_directory hd ⟨⟨⟨1⟩, "app", []⟩, []⟩ "/c" ⟨["com/A", "/c/com/x"], []⟩
  obtain ⟨-, -, -, hcompiled⟩ :=
    scans_within_directory hd ⟨⟨⟨1⟩, "app", []⟩, []⟩ "/c" ⟨["com/A"], []⟩
  refine ⟨hd, hd', strayDisk_looksSameFrom, hroot, hcompiled ⟨["com/A"], []⟩ (Or.inl rfl),
    by decide +kernel, by decide +kernel,
    hscan calmDisk hd' strayDisk_looksSameFrom fun place hplace => ?_⟩
  rw [(hroot place).mp hplace]
  exact strayDisk_looksSameFrom.within hwithin

/-- **A walk outside of the directory.** The prefix `/out/x` admits nothing, but a scan for it walks
`/out`, which is not within the directory, and fails there at a link that leads nowhere. On a disk
without the link, which looks the same from the directory on, nothing is found. -/
theorem stray_walk :
    strayDisk.LooksSameFrom calmDisk "/c" ∧ walkStarts strayDisk "/c" ["/out/x"] = ["/out"] ∧
      ¬Path.IsWithin "/c" "/out" ∧
      ofDirectory? strayDisk ⟨⟨⟨1⟩, "app", []⟩, []⟩ "/c" ⟨["/out/x"], []⟩ =
        .error (.walk (.entry "/out/gone" .notFound)) ∧
      ofDirectory? calmDisk ⟨⟨⟨1⟩, "app", []⟩, []⟩ "/c" ⟨["/out/x"], []⟩ = .ok none := by
  refine ⟨strayDisk_looksSameFrom, by decide +kernel, fun hwithin => ?_, ?_, ?_⟩
  · generalize hout : "/out" = place at hwithin
    cases hwithin with
    | self => exact absurd hout (by decide)
    | below rel hrelative hup =>
        have hcomponents := Path.components_join (by decide : "/c" ≠ "") hrelative
        rw [← hout] at hcomponents
        have hnames : ["/", "out"] = ["/", "c"] ++ Path.names rel := hcomponents
        simp at hnames
  · have hstray : directoryNames strayDisk "/c" ⟨["/out/x"], []⟩ =
        .error (.entry "/out/gone" .notFound) := by decide +kernel
    exact ofDirectory?_error hstray
  · have hcalm : directoryNames calmDisk "/c" ⟨["/out/x"], []⟩ = .ok [] := by decide +kernel
    unfold ofDirectory?
    rw [hcalm]
    rfl

end Root

end Classpath
