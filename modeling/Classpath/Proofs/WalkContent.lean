import Mathlib.Data.List.Nodup
import Classpath.Proofs.Walk

/-!
# What a Walk Yields

On a sound disk, where each location is made of names and has one thing at it, a walk yields
nothing but files, each reached from its start by names (`Disk.exists_names_of_mem_walk`).
Together with `Disk.mem_walk` this says what a walk yields.

A walk goes by paths, and what it yields does not depend on how the path of its start is
written, but whether it succeeds does: paths that pass through empty segments and dots are
longer than they need to be, and a path may be too long to be looked up. `Disk.Alias` says that
one path is another way to write a second one. Below the two stands the same, and walking on
from the first succeeds if it does from the second, unless a path gets too long.

## Main results

* `Disk.exists_names_of_mem_walk`: whatever a walk yields is a file.
* `Disk.walk_again`: a walk from a place that a walk came to.
-/

open Classpath.Path (IsName)

namespace Classpath

instance (s : String) : Decidable (IsName s) :=
  decidable_of_iff (s ≠ "" ∧ s ≠ "." ∧ s ≠ ".." ∧ '/' ∉ s.toList)
    ⟨fun ⟨h₁, h₂, h₃, h₄⟩ => ⟨h₁, h₂, h₃, h₄⟩, fun ⟨h₁, h₂, h₃, h₄⟩ => ⟨h₁, h₂, h₃, h₄⟩⟩

/-- A name that an entry of a directory may have. -/
structure Path.IsFileName (s : String) : Prop extends IsName s where
  no_nul : '\x00' ∉ s.toList
  short : s.utf8ByteSize ≤ Disk.nameLimit

instance (s : String) : Decidable (Path.IsFileName s) :=
  decidable_of_iff (IsName s ∧ '\x00' ∉ s.toList ∧ s.utf8ByteSize ≤ Disk.nameLimit)
    ⟨fun ⟨h₁, h₂, h₃⟩ => ⟨h₁, h₂, h₃⟩, fun ⟨h₁, h₂, h₃⟩ => ⟨h₁, h₂, h₃⟩⟩

/-- What is in neither part of a joined path is not in it, unless it is a slash. -/
theorem Path.notMem_join {x : Char} (hx : x ≠ '/') {base p : String} (hbase : x ∉ base.toList)
    (hp : x ∉ p.toList) : x ∉ (join base p).toList := by
  have hslash : "/".toList = ['/'] := by decide
  unfold join
  split
  · exact hp
  · split
    · simp [String.toList_append, hbase, hp]
    · simp [String.toList_append, hslash, hbase, hp, hx]

/-- A character that is neither in a path nor in the names that lead on from it is not in the path
of what they lead to. -/
theorem Path.notMem_foldl_join {x : Char} (hx : x ≠ '/') {base : String} {names : List String}
    (hbase : x ∉ base.toList) (hnames : ∀ s ∈ names, x ∉ s.toList) :
    x ∉ (names.foldl join base).toList := by
  induction names generalizing base with
  | nil => exact hbase
  | cons s names ih =>
      obtain ⟨hs, hnames⟩ := List.forall_mem_cons.mp hnames
      exact ih (notMem_join hx hbase hs) hnames

/-- A joined path has a slash more than its parts. -/
theorem Path.size_join {base p : String} (hbase : base ≠ "")
    (hends : Text.endsWith base "/" = false) (hp : isAbsolute p = false) :
    (join base p).utf8ByteSize = base.utf8ByteSize + 1 + p.utf8ByteSize := by
  have hslash : "/".utf8ByteSize = 1 := by decide
  unfold join
  rw [if_neg (by simp [hp, hbase]), if_neg (by simp [hends]), String.utf8ByteSize_append,
    String.utf8ByteSize_append, hslash]

/-- A joined path takes at least as many bytes as its parts. -/
theorem Path.size_le_size_join {base p : String} (hbase : base ≠ "")
    (hp : isAbsolute p = false) :
    base.utf8ByteSize + p.utf8ByteSize ≤ (join base p).utf8ByteSize := by
  unfold join
  rw [if_neg (by simp [hp, hbase])]
  split
  · exact Nat.le_of_eq (String.utf8ByteSize_append ..).symm
  · rw [String.utf8ByteSize_append, String.utf8ByteSize_append]
    omega

open Classpath.Path (IsFileName)

namespace Disk

/-- Locations are made of names, and there is one thing at each. -/
structure Sound (d : Disk) : Prop where
  nodup : (d.entries.map (·.1)).Nodup
  names : ∀ e ∈ d.entries, ∀ s ∈ e.1, IsFileName s

instance (d : Disk) : Decidable d.Sound :=
  decidable_of_iff ((d.entries.map (·.1)).Nodup ∧ ∀ e ∈ d.entries, ∀ s ∈ e.1, IsFileName s)
    ⟨fun ⟨h₁, h₂⟩ => ⟨h₁, h₂⟩, fun ⟨h₁, h₂⟩ => ⟨h₁, h₂⟩⟩

variable {d : Disk} {loc : Location} {path : String} {entry : Entry} {names : List String}
  {files : List String} {inside inside' : List OpenDirectory} {depth depth' : Nat}

/-! ### Children -/

/-- What is listed in a directory is something that the disk has there. -/
theorem exists_of_mem_childrenAt {s : String} (h : (s, entry) ∈ d.childrenAt loc) :
    (loc ++ [s], entry) ∈ d.entries := by
  unfold childrenAt at h
  rw [List.mem_mergeSort, List.mem_filterMap] at h
  obtain ⟨⟨location, entry'⟩, hmem, h⟩ := h
  dsimp only at h
  split at h
  · rename_i hdrop
    obtain ⟨last, hlast, h⟩ := Option.map_eq_some_iff.mp h
    cases h
    rw [← hdrop, List.dropLast_append_getLast? s hlast]
    exact hmem
  · cases h

/-- What is listed in a directory has a name that a file may have. -/
theorem Sound.fileName (hd : d.Sound) {s : String} (h : (s, entry) ∈ d.childrenAt loc) :
    IsFileName s :=
  hd.names _ (exists_of_mem_childrenAt h) s (by simp)

/-- What is listed in a directory stands there. -/
theorem Sound.entry?_of_mem (hd : d.Sound) {s : String} (h : (s, entry) ∈ d.childrenAt loc) :
    d.entry? (loc ++ [s]) = some entry := by
  unfold entry?
  rw [if_neg (by simp), List.lookup_eq_some_iff]
  obtain ⟨before, after, hsplit⟩ := List.append_of_mem (exists_of_mem_childrenAt h)
  refine ⟨before, after, hsplit, fun e he => ?_⟩
  have hnodup := hd.nodup
  rw [hsplit, List.map_append, List.map_cons] at hnodup
  rw [bne_iff_ne]
  intro heq
  exact (List.nodup_append.mp hnodup).2.2 e.1 (List.mem_map_of_mem he) (loc ++ [s])
    List.mem_cons_self heq.symm

/-- What is listed in a directory is at its path. -/
theorem Sound.at_child (hd : d.Sound) (hpath : path ≠ "")
    (hleads : d.leads path = .ok ⟨loc, .directory⟩) {s : String}
    (h : (s, entry) ∈ d.childrenAt loc) : d.At (Path.join path s) entry := by
  have hs := hd.fileName h
  obtain ⟨links, hbelow⟩ := leads_below hpath hleads
  have hone := hbelow s hs.relative
  rw [Text.split_eq_singleton hs.no_slash] at hone
  exact at_join hs.toIsName hone hs.short (hd.entry?_of_mem h)

/-! ### What is found -/

/-- **Whatever a walk finds** below a place is a file that names lead to. -/
theorem exists_names_of_mem (hd : d.Sound) (hpath : path ≠ "") (hentry : d.At path entry)
    (hwalk : d.filesBelow depth inside path entry = .ok files) {file : String}
    (hfile : file ∈ files) :
    ∃ names : List String, (∀ s ∈ names, IsFileName s) ∧ file = names.foldl Path.join path ∧
      ∃ loc id, d.leads file = .ok ⟨loc, .file id⟩ := by
  induction depth generalizing inside path entry files with
  | zero => cases hwalk
  | succ depth ih =>
      obtain ⟨depth', loc, entry', hdepth, hleads, hentered⟩ := entered_of_filesBelow hentry hwalk
      obtain rfl := Nat.succ.inj hdepth
      cases entry' with
      | file id =>
          cases hentered
          obtain rfl := List.mem_singleton.mp hfile
          exact ⟨[], by simp, rfl, loc, id, hleads⟩
      | link target =>
          cases hentered
          cases hfile
      | directory =>
          obtain ⟨loc', groups, hstat, hgroups, rfl⟩ := entered_directory_iff.mp hentered
          obtain ⟨group, hgroup, hfile⟩ := List.mem_flatten.mp hfile
          obtain ⟨⟨s, child⟩, hchild, hbelow⟩ := exists_of_mem_mapM hgroups hgroup
          have hs := hd.fileName hchild
          obtain ⟨names, hnames, rfl, hfound⟩ :=
            ih (Path.join_ne_empty path hs.toIsName)
              (hd.at_child hpath (stat_eq_ok_iff.mp hstat).2 hchild) hbelow hfile
          exact ⟨s :: names, List.forall_mem_cons.mpr ⟨hs, hnames⟩, rfl, hfound⟩

/-- **Whatever a walk finds** is a file that names lead to from where the walk began. -/
theorem exists_names_of_mem_walk (hd : d.Sound) {found : Found}
    (hleads : d.leads path = .ok found) (hwalk : d.walk path = .ok files) {file : String}
    (hfile : file ∈ files) :
    ∃ names : List String, (∀ s ∈ names, IsFileName s) ∧ file = names.foldl Path.join path ∧
      ∃ loc id, d.leads file = .ok ⟨loc, .file id⟩ := by
  obtain ⟨husable, entry, hentry, hbelow⟩ := walk_eq_ok hwalk hleads
  exact exists_names_of_mem hd husable.ne_empty hentry hbelow hfile

/-! ### The same place on other ways -/

/-- Below two paths stands the same. -/
def SameBelow (d : Disk) (q c : String) : Prop :=
  ∀ (followLast : Bool) (ys : List String), ys ≠ [] →
    d.resolve followLast linkLimit (d.start q) (Text.split '/' q ++ ys) =
      d.resolve followLast linkLimit (d.start c) (Text.split '/' c ++ ys)

variable {q c : String}

/-- A name below both paths leads to the same place. -/
theorem SameBelow.leads_join (h : d.SameBelow q c) (hq : q ≠ "") (hc : c ≠ "") {s : String}
    (hs : IsName s) : d.leads (Path.join q s) = d.leads (Path.join c s) := by
  rw [leads_join_eq hq hs.relative, leads_join_eq hc hs.relative]
  exact h true _ (Text.split_ne_nil '/' s)

/-- And what stands below that place is the same by either path. -/
theorem SameBelow.join (h : d.SameBelow q c) (hq : q ≠ "") (hc : c ≠ "") {s : String}
    (hs : IsName s) : d.SameBelow (Path.join q s) (Path.join c s) := by
  intro followLast ys hys
  rw [start_join hq hs.relative, start_join hc hs.relative, Path.split_join hq hs.relative,
    Path.split_join hc hs.relative, List.append_assoc, List.append_assoc,
    resolve_trunk q (by simp [hys]), resolve_trunk c (by simp [hys])]
  exact h followLast _ (by simp [hys])

/-- If one of the paths leads to a directory, so does the other. -/
theorem SameBelow.leads_directory (h : d.SameBelow q c)
    (hleads : d.leads q = .ok ⟨loc, .directory⟩) : d.leads c = .ok ⟨loc, .directory⟩ := by
  -- a dot behind a path leads to the directory that the path leads to
  have hdot : ∀ (links : Nat) (at_ : Location),
      d.resolve true links at_ ["."] = .ok ⟨at_, .directory⟩ := by
    intro links at_
    rw [resolve_cons, if_pos (by simp), resolve_nil]
  have hsame := h true ["."] (by simp)
  obtain ⟨_, hnot, -⟩ | ⟨loc', _, hfirst, hrest⟩ :=
      resolve_append d linkLimit (d.start q) (Text.split '/' q)
  · exact absurd hleads (hnot loc)
  · rw [leads, hfirst] at hleads
    cases hleads
    rw [hrest _ _ (by simp), hdot] at hsame
    obtain ⟨_, -, hfail⟩ | ⟨loc', _, hfirst', hrest'⟩ :=
        resolve_append d linkLimit (d.start c) (Text.split '/' c)
    · rw [hfail _ _ (by simp)] at hsame
      cases hsame
    · rw [hrest' _ _ (by simp), hdot] at hsame
      cases hsame
      exact hfirst'

/-- The path `q` is another way to write `c`, and the same one if `plain` holds. -/
structure Alias (d : Disk) (plain : Prop) (q c : String) : Prop where
  no_nul : '\x00' ∉ q.toList
  ne_empty : q ≠ ""
  ne_empty' : c ≠ ""
  leads_eq : d.leads q = d.leads c
  below : d.SameBelow q c
  eq : plain → q = c

variable {plain : Prop}

/-- Another way to write a path is another way to write what is below it. -/
theorem Alias.join (h : d.Alias plain q c) {s : String} (hs : IsFileName s) :
    d.Alias plain (Path.join q s) (Path.join c s) where
  no_nul := Path.notMem_join (by decide) h.no_nul hs.no_nul
  ne_empty := Path.join_ne_empty q hs.toIsName
  ne_empty' := Path.join_ne_empty c hs.toIsName
  leads_eq := h.below.leads_join h.ne_empty h.ne_empty' hs.toIsName
  below := h.below.join h.ne_empty h.ne_empty' hs.toIsName
  eq hplain := congrArg (Path.join · s) (h.eq hplain)

/-! ### Walking again -/

/-- A walk succeeds, or it fails at a path that is too long, which does not happen if `plain`
holds. -/
def UnlessTooLong {α : Type} (plain : Prop) (x : Except WalkError α) : Prop :=
  (∃ a, x = .ok a) ∨ ¬plain ∧ ∃ path, x = .error (.entry path .nameTooLong) ∧
    pathLimit ≤ path.utf8ByteSize

variable {α β : Type}

/-- A sequence fails for a path that is too long only, if its parts do. -/
theorem UnlessTooLong.bind {x : Except WalkError α} {f : α → Except WalkError β}
    (hx : UnlessTooLong plain x) (hf : ∀ a, x = .ok a → UnlessTooLong plain (f a)) :
    UnlessTooLong plain (x >>= f) := by
  obtain ⟨a, rfl⟩ | ⟨hplain, path, rfl, hlong⟩ := hx
  · exact hf a rfl
  · exact Or.inr ⟨hplain, path, rfl, hlong⟩

/-- So does a step over a list, if it does at each element. -/
theorem UnlessTooLong.mapM {as : List α} {f : α → Except WalkError β}
    (h : ∀ a ∈ as, UnlessTooLong plain (f a)) : UnlessTooLong plain (as.mapM f) := by
  induction as with
  | nil => exact Or.inl ⟨[], rfl⟩
  | cons a as ih =>
      obtain ⟨ha, has⟩ := List.forall_mem_cons.mp h
      rw [List.mapM_cons]
      exact ha.bind fun b _ => (ih has).bind fun bs _ => Or.inl ⟨b :: bs, rfl⟩

/-- A path that is too long cannot be looked up. -/
theorem stat_of_long (hnul : '\x00' ∉ q.toList) (hne : q ≠ "")
    (hlong : pathLimit ≤ q.utf8ByteSize) : d.stat q = .error .nameTooLong := by
  unfold stat lookup
  rw [if_neg (by simpa using hnul), if_neg hne, if_pos hlong]

/-- What a path leads to, another way to write it leads to, unless that is too long. -/
theorem Alias.stat {found : Found} (h : d.Alias plain q c) (hstat : d.stat c = .ok found) :
    d.stat q = .ok found ∨
      ¬plain ∧ pathLimit ≤ q.utf8ByteSize ∧ d.stat q = .error .nameTooLong := by
  obtain ⟨husable, hleads⟩ := stat_eq_ok_iff.mp hstat
  by_cases hshort : q.utf8ByteSize < pathLimit
  · exact Or.inl (stat_eq_ok_iff.mpr ⟨⟨h.no_nul, h.ne_empty, hshort⟩, h.leads_eq.trans hleads⟩)
  · refine Or.inr ⟨fun hplain => hshort ?_, Nat.le_of_not_lt hshort,
      stat_of_long h.no_nul h.ne_empty (Nat.le_of_not_lt hshort)⟩
    rw [h.eq hplain]
    exact husable.short

/-- Of the directories that one walk is inside of, another one is inside of no others. -/
def Within (inside' inside : List OpenDirectory) : Prop :=
  ∀ o ∈ inside', ∃ p ∈ inside, p.location = o.location

theorem Within.cons (h : Within inside' inside) (q c : String) (loc : Location) :
    Within (⟨q, loc⟩ :: inside') (⟨c, loc⟩ :: inside) :=
  List.forall_mem_cons.mpr ⟨⟨_, List.mem_cons_self, rfl⟩, fun o ho =>
    have ⟨p, hp, hsame⟩ := h o ho
    ⟨p, List.mem_cons_of_mem _ hp, hsame⟩⟩

/-- What the walk took an entry for, it takes it for again by another path, unless that is too long
to follow a link at its end. -/
theorem settled_again {entry' : Entry} (halias : d.Alias plain q c)
    (hwithin : Within inside' inside) (h : d.settled inside c entry = .ok entry') :
    d.settled inside' q entry = .ok entry' ∨ ¬plain ∧ pathLimit ≤ q.utf8ByteSize ∧
      d.settled inside' q entry = .error (.entry q .nameTooLong) := by
  cases entry with
  | directory => exact Or.inl h
  | file id => exact Or.inl h
  | link target =>
      replace h : d.followLink inside c = .ok entry' := h
      show d.followLink inside' q = _ ∨ _ ∧ _ ∧ d.followLink inside' q = _
      unfold followLink at h ⊢
      rcases hstat : d.stat c with e | found
      · rw [hstat] at h
        cases h
      · rw [hstat] at h
        obtain hagain | ⟨hplain, hlong, hfail⟩ := halias.stat hstat
        · rw [hagain]
          obtain ⟨loc, e⟩ := found
          cases e with
          | file id => exact Or.inl h
          | link target => exact Or.inl h
          | directory =>
              left
              dsimp only at h ⊢
              split at h
              · cases h
              · rename_i hnone
                have hnone' : inside'.find? (·.location = loc) = none := by
                  rw [List.find?_eq_none] at hnone ⊢
                  intro o ho
                  obtain ⟨p, hp, hsame⟩ := hwithin o ho
                  rw [← hsame]
                  exact hnone p hp
                rw [hnone']
                exact h
        · rw [hfail]
          exact Or.inr ⟨hplain, hlong, rfl⟩

/-- Whenever a walk at some depth succeeds, one at another depth does, unless a path gets too
long. -/
def WalksAgain (d : Disk) (plain : Prop) (depth depth' : Nat) : Prop :=
  ∀ ⦃q c : String⦄ ⦃entry : Entry⦄ ⦃inside inside' : List OpenDirectory⦄
    ⦃files : List String⦄, d.Alias plain q c → Within inside' inside → d.At c entry →
    d.filesBelow depth inside c entry = .ok files →
    UnlessTooLong plain (d.filesBelow depth' inside' q entry)

/-- **What a walk entered** can be entered again. -/
theorem entered_again (hd : d.Sound) (ih : d.WalksAgain plain depth depth')
    (halias : d.Alias plain q c) (hwithin : Within inside' inside)
    (h : d.entered depth inside c entry = .ok files) :
    UnlessTooLong plain (d.entered depth' inside' q entry) := by
  cases entry with
  | file id => exact Or.inl ⟨_, rfl⟩
  | link target => exact Or.inl ⟨_, rfl⟩
  | directory =>
      obtain ⟨loc, groups, hstat, hgroups, -⟩ := entered_directory_iff.mp h
      unfold entered
      obtain hagain | ⟨hplain, hlong, hfail⟩ := halias.stat hstat
      · have hlisting : d.listing q = .ok (loc, d.childrenAt loc) :=
          listing_eq_ok_iff.mpr ⟨hagain, rfl⟩
        have hchildren : UnlessTooLong plain ((d.childrenAt loc).mapM fun child =>
            d.filesBelow depth' (⟨q, loc⟩ :: inside') (Path.join q child.1) child.2) := by
          refine UnlessTooLong.mapM fun child hchild => ?_
          obtain ⟨group, -, hgroup⟩ := exists_mem_of_mapM hgroups hchild
          exact ih (halias.join (hd.fileName hchild)) (hwithin.cons q c loc)
            (hd.at_child halias.ne_empty' (stat_eq_ok_iff.mp hstat).2 hchild) hgroup
        rw [hlisting]
        exact hchildren.bind fun groups _ => Or.inl ⟨groups.flatten, rfl⟩
      · right
        refine ⟨hplain, q, ?_, hlong⟩
        unfold listing
        rw [hfail]
        rfl

/-- **What a walk went through** can be walked again. -/
theorem walksAgain (hd : d.Sound) (hdepth : depth ≤ depth') : d.WalksAgain plain depth depth' := by
  induction depth generalizing depth' with
  | zero =>
      intro q c entry inside inside' files _ _ _ h
      cases h
  | succ depth ih =>
      intro q c entry inside inside' files halias hwithin hentry h
      obtain ⟨depth', rfl⟩ : ∃ k, depth' = k + 1 := ⟨depth' - 1, by omega⟩
      rw [filesBelow_succ] at h ⊢
      obtain ⟨entry', hsettled, h⟩ := bind_eq_ok_iff.mp h
      obtain hagain | ⟨hplain, hlong, hfail⟩ := settled_again halias hwithin hsettled
      · rw [hagain]
        exact entered_again hd (ih (Nat.le_of_succ_le_succ hdepth)) halias hwithin h
      · rw [hfail]
        exact Or.inr ⟨hplain, q, rfl, hlong⟩

/-- A walk from a directory enters it, also if it is at the end of a link. -/
theorem walk_directory (h : d.stat path = .ok ⟨loc, .directory⟩) :
    ∃ depth, d.walkDepth = depth + 1 ∧ d.walk path = d.entered depth [] path .directory := by
  have hbegin : ∃ found, d.lookup path false = .ok found ∧
      d.settled [] path found.entry = .ok .directory := by
    obtain hshort | ⟨at_, target, hshort⟩ := lookup_false_of_stat h
    · exact ⟨_, hshort, rfl⟩
    · refine ⟨_, hshort, ?_⟩
      show d.followLink [] path = _
      unfold followLink
      rw [h]
      rfl
  have hpos : 0 < d.walkDepth := Nat.mul_pos (by omega) (by omega)
  obtain ⟨depth, hdepth⟩ := Nat.exists_eq_succ_of_ne_zero (Nat.ne_of_gt hpos)
  obtain ⟨found, hfound, hsettled⟩ := hbegin
  refine ⟨depth, hdepth, ?_⟩
  unfold walk
  rw [hfound, hdepth]
  show d.filesBelow (depth + 1) [] path found.entry = _
  rw [filesBelow_succ, hsettled]
  rfl

/-- **A walk from a place that a walk came to**, on whatever way, succeeds as well, unless a
path gets too long. -/
theorem walk_again (hd : d.Sound) (hpath : path ≠ "") (hwalk : d.walk path = .ok files)
    (hnames : ∀ s ∈ names, IsName s) {place : String}
    (hplace : d.stat place = .ok ⟨loc, .directory⟩)
    (hsame : d.SameBelow place (names.foldl Path.join path))
    (hplain : plain → place = names.foldl Path.join path) :
    UnlessTooLong plain (d.walk place) := by
  obtain ⟨husable, hleads⟩ := stat_eq_ok_iff.mp hplace
  have hleads' := hsame.leads_directory hleads
  obtain ⟨found, hfound⟩ := exists_leads_of_foldl hpath hnames hleads'
  obtain ⟨-, entry, hentry, hbelow⟩ := walk_eq_ok hwalk hfound
  obtain ⟨depth, inside, entry', files', hdepth, hat, hvisit, -⟩ :=
    visits hpath hentry hbelow hnames hleads'
  obtain ⟨-, depth, _, rfl, hentered, -⟩ := filesBelow_directory hat hvisit hleads'
  have halias : d.Alias plain place (names.foldl Path.join path) :=
    ⟨husable.no_nul, husable.ne_empty, Path.foldl_join_ne_empty hpath hnames,
      hleads.trans hleads'.symm, hsame, hplain⟩
  obtain ⟨depth', hdepth', hwalk'⟩ := walk_directory hplace
  rw [hwalk']
  exact entered_again hd (walksAgain hd (by omega)) halias (fun o ho => by cases ho) hentered

end Disk

end Classpath
