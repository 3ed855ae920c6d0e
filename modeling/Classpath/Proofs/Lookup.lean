import Mathlib.Data.List.Basic
import Classpath.Disk.Walk
import Classpath.Proofs.Segments
import Classpath.Proofs.Success

/-!
# Where Paths Lead

A lookup goes through the segments of a path one by one, from location to location. Whatever
stands behind the first segments of a path, these have to lead to a directory, and the rest
is looked up from there (`Disk.resolve_append`): links that were followed on the way only
count against the number of links that may follow. So a path that goes on below another one
leads through a directory there (`Disk.exists_leads_of_join`), below which it is looked up
(`Disk.leads_below`).

## Main results

* `Disk.lookup_eq_ok_iff`: a lookup as a resolution of segments.
* `Disk.resolve_append`: the first segments of a path, and the rest.
* `Disk.lookup_false_of_stat`: what a path leads to if a link at its end is not followed.
* `Disk.resolve_below`, `Disk.leads_below`: joined paths below a directory.
-/

namespace Classpath

namespace Disk

/-- A path that can lead somewhere at all. -/
structure Usable (path : String) : Prop where
  no_nul : '\x00' ∉ path.toList
  ne_empty : path ≠ ""
  short : path.utf8ByteSize < pathLimit

/-- The location that a path begins at. -/
def start (d : Disk) (path : String) : Location :=
  if Path.isAbsolute path then [] else d.current

variable {d : Disk} {followLast : Bool} {links : Nat} {at_ loc : Location}
  {path : String} {found : Found}

/-- A path is looked up if it is usable, and its segments lead somewhere from where it begins. -/
theorem lookup_eq_ok_iff :
    d.lookup path followLast = .ok found ↔ Usable path ∧
      d.resolve followLast linkLimit (d.start path) (Text.split '/' path) = .ok found := by
  unfold lookup start
  constructor
  · intro h
    split at h
    · cases h
    · rename_i hnul
      split at h
      · cases h
      · rename_i hempty
        split at h
        · cases h
        · rename_i hlong
          exact ⟨⟨by simpa using hnul, hempty, Nat.lt_of_not_le hlong⟩, h⟩
  · rintro ⟨⟨hnul, hempty, hshort⟩, h⟩
    rw [if_neg (by simpa using hnul), if_neg hempty, if_neg (Nat.not_le_of_lt hshort)]
    exact h

/-- A lookup depends on where the segments of the path lead. -/
theorem lookup_congr {d' : Disk}
    (h : d.resolve followLast linkLimit (d.start path) (Text.split '/' path) =
      d'.resolve followLast linkLimit (d'.start path) (Text.split '/' path)) :
    d.lookup path followLast = d'.lookup path followLast := by
  unfold start at h
  unfold lookup
  dsimp only
  rw [h]

/-- Where the segments of a path lead, links followed, whether or not the path can be looked
up. -/
def leads (d : Disk) (path : String) : Except FileError Found :=
  d.resolve true linkLimit (d.start path) (Text.split '/' path)

/-- What is at the end of a path, links followed, is where its segments lead, if it is usable. -/
theorem stat_eq_ok_iff : d.stat path = .ok found ↔ Usable path ∧ d.leads path = .ok found :=
  lookup_eq_ok_iff

/-- A path is that of a file if it leads to one. -/
theorem isFile_eq_true_iff :
    d.isFile path = true ↔ ∃ loc id, d.stat path = .ok ⟨loc, .file id⟩ := by
  unfold isFile
  rcases d.stat path with _ | ⟨loc, _ | id | target⟩ <;> simp

/-- A path is that of a directory if it leads to one. -/
theorem isDirectory_eq_true_iff :
    d.isDirectory path = true ↔ ∃ loc, d.stat path = .ok ⟨loc, .directory⟩ := by
  unfold isDirectory
  rcases d.stat path with _ | ⟨loc, _ | id | target⟩ <;> simp

/-- What can be opened and read is the content of a file. -/
theorem openPath_eq_ok_ok_iff {bytes : Bytes} :
    d.openPath path = .ok (.ok bytes) ↔
      ∃ loc id, d.stat path = .ok ⟨loc, .file id⟩ ∧ d.content id = bytes := by
  unfold openPath
  rw [bind_eq_ok_iff]
  constructor
  · rintro ⟨⟨loc, entry⟩, hstat, h⟩
    cases entry with
    | file id =>
        cases h
        exact ⟨loc, id, hstat, rfl⟩
    | directory => cases h
    | link target => cases h
  · rintro ⟨loc, id, hstat, rfl⟩
    exact ⟨_, hstat, rfl⟩

/-- What is read under a path is the content of the file that it leads to. -/
theorem read_eq_ok_iff {bytes : Bytes} :
    d.read path = .ok bytes ↔
      ∃ loc id, d.stat path = .ok ⟨loc, .file id⟩ ∧ d.content id = bytes := by
  rw [← openPath_eq_ok_ok_iff]
  unfold read
  rw [bind_eq_ok_iff]
  constructor
  · rintro ⟨_, hopen, rfl⟩
    exact hopen
  · exact fun h => ⟨_, h, rfl⟩

/-! ### Segments one by one -/

/-- Where the segments lead when the way goes through a link. -/
def follow (d : Disk) (followLast : Bool) :
    Nat → Location → List String → Except FileError Found
  | 0, _, _ => .error .tooManyLinks
  | links + 1, at_, names => d.resolve followLast links at_ names

/-- To look up segments is to go through them one by one, with a lookup of its own where the way
leads through a link. -/
theorem resolve_eq (names : List String) :
    d.resolve followLast links at_ names =
      d.through followLast (d.follow followLast links) at_ names := by
  cases links <;> rfl

@[simp] theorem resolve_nil :
    d.resolve followLast links at_ [] = .ok ⟨at_, .directory⟩ := by
  rw [resolve_eq]
  rfl

/-- **One segment** of a path. -/
theorem resolve_cons (name : String) (rest : List String) :
    d.resolve followLast links at_ (name :: rest) =
      if name = "" || name = "." then d.resolve followLast links at_ rest
      else if name = ".." then d.resolve followLast links at_.dropLast rest
      else if nameLimit < name.utf8ByteSize then .error .nameTooLong
      else
        match d.entry? (at_ ++ [name]) with
        | none => .error .notFound
        | some .directory => d.resolve followLast links (at_ ++ [name]) rest
        | some (.file id) =>
          if rest = [] then .ok ⟨at_ ++ [name], .file id⟩ else .error .notDirectory
        | some (.link target) =>
          if rest = [] && !followLast then .ok ⟨at_ ++ [name], .link target⟩
          else d.follow followLast links (if Path.isAbsolute target then [] else at_)
            (Text.split '/' target ++ rest) := by
  simp only [resolve_eq]
  rfl

/-- **One name** of a path. -/
theorem resolve_name {name : String} (hname : Path.IsName name) (rest : List String) :
    d.resolve followLast links at_ (name :: rest) =
      if nameLimit < name.utf8ByteSize then .error .nameTooLong
      else
        match d.entry? (at_ ++ [name]) with
        | none => .error .notFound
        | some .directory => d.resolve followLast links (at_ ++ [name]) rest
        | some (.file id) =>
          if rest = [] then .ok ⟨at_ ++ [name], .file id⟩ else .error .notDirectory
        | some (.link target) =>
          if rest = [] && !followLast then .ok ⟨at_ ++ [name], .link target⟩
          else d.follow followLast links (if Path.isAbsolute target then [] else at_)
            (Text.split '/' target ++ rest) := by
  rw [resolve_cons, if_neg (by simp [hname.ne_empty, hname.ne_dot]), if_neg hname.ne_dots]

/-- How looking up the first segments of a path is related to looking up the whole: either
the first ones lead to no directory, and a path that goes on fails, or the rest is looked up
from there. -/
def Continues (d : Disk) (first : Except FileError Found)
    (whole : Bool → List String → Except FileError Found) : Prop :=
  (∃ e, (∀ loc, first ≠ .ok ⟨loc, .directory⟩) ∧
    ∀ followLast ys, ys ≠ [] → whole followLast ys = .error e) ∨
  ∃ loc links, first = .ok ⟨loc, .directory⟩ ∧
    ∀ followLast ys, ys ≠ [] → whole followLast ys = d.resolve followLast links loc ys

theorem continues_error (e : FileError) : d.Continues (.error e) fun _ _ => .error e := by
  refine Or.inl ⟨e, fun loc h => ?_, fun _ _ _ => rfl⟩
  cases h

/-- If the ways through links continue, so do those along segments, by induction on the segments
that come first. -/
theorem continues_of_follow
    (hfollow : ∀ at_ xs, d.Continues (d.follow true links at_ xs) fun followLast ys =>
      d.follow followLast links at_ (xs ++ ys)) (xs : List String) :
    d.Continues (d.resolve true links at_ xs) fun followLast ys =>
      d.resolve followLast links at_ (xs ++ ys) := by
  induction xs generalizing at_ with
  | nil => exact Or.inr ⟨at_, links, resolve_nil, fun _ _ _ => rfl⟩
  | cons name xs ih =>
      simp only [List.cons_append, resolve_cons]
      split
      · exact ih
      · split
        · exact ih
        · split
          · exact continues_error _
          · cases d.entry? (at_ ++ [name]) with
            | none => exact continues_error _
            | some entry =>
                cases entry with
                | directory => exact ih
                | file id =>
                    refine Or.inl ⟨.notDirectory, fun loc h => ?_, fun _ ys hys => ?_⟩
                    · dsimp only at h
                      split at h <;> cases h
                    · dsimp only
                      rw [if_neg (by simp [hys])]
                | link target =>
                    obtain ⟨e, hfirst, hwhole⟩ | ⟨loc, left, hfirst, hwhole⟩ :=
                      hfollow (if Path.isAbsolute target then [] else at_)
                        (Text.split '/' target ++ xs)
                    · refine Or.inl ⟨e, by simpa using hfirst, fun followLast ys hys => ?_⟩
                      simpa [hys, List.append_assoc] using hwhole followLast ys hys
                    · refine Or.inr ⟨loc, left, by simpa using hfirst, fun followLast ys hys => ?_⟩
                      simpa [hys, List.append_assoc] using hwhole followLast ys hys

/-- **The first segments lead where the whole goes on from**, by induction on the links that may be
followed. -/
theorem continues_resolve (links : Nat) (at_ : Location) (xs : List String) :
    d.Continues (d.resolve true links at_ xs) fun followLast ys =>
      d.resolve followLast links at_ (xs ++ ys) := by
  induction links generalizing at_ xs with
  | zero => exact continues_of_follow (fun _ _ => continues_error _) xs
  | succ links ih => exact continues_of_follow ih xs

/-- **The first segments of a path, and the rest.** Links on the way to the first ones count
against those that may follow. -/
theorem resolve_append (d : Disk) (links : Nat) (at_ : Location) (xs : List String) :
    (∃ e, (∀ loc, d.resolve true links at_ xs ≠ .ok ⟨loc, .directory⟩) ∧
      ∀ followLast ys, ys ≠ [] → d.resolve followLast links at_ (xs ++ ys) = .error e) ∨
    ∃ loc left, d.resolve true links at_ xs = .ok ⟨loc, .directory⟩ ∧
      ∀ followLast ys, ys ≠ [] →
        d.resolve followLast links at_ (xs ++ ys) = d.resolve followLast left loc ys :=
  continues_resolve links at_ xs

/-- An empty segment or a dot inside a path makes no difference. -/
theorem resolve_skip {s : String} (hs : s = "" ∨ s = ".") (xs : List String) {ys : List String}
    (hys : ys ≠ []) :
    d.resolve followLast links at_ (xs ++ s :: ys) =
      d.resolve followLast links at_ (xs ++ ys) := by
  obtain ⟨e, -, hwhole⟩ | ⟨loc, left, -, hwhole⟩ := resolve_append d links at_ xs
  · rw [hwhole _ _ (by simp), hwhole _ _ hys]
  · rw [hwhole _ _ (by simp), hwhole _ _ hys, resolve_cons, if_pos (by simpa using hs)]

/-- Inside a path only names and double dots count. -/
theorem resolve_filter (xs zs : List String) {ys : List String} (hys : ys ≠ []) :
    d.resolve followLast links at_ (xs ++ zs ++ ys) =
      d.resolve followLast links at_ (xs ++ (zs.filter fun s => s != "" && s != ".") ++ ys) := by
  induction zs generalizing xs with
  | nil => rfl
  | cons z zs ih =>
      by_cases hz : z = "" ∨ z = "."
      · rw [List.filter_cons_of_neg (by simpa [Classical.or_iff_not_imp_left] using hz), ← ih,
          List.append_assoc, List.cons_append, resolve_skip hz xs (by simp [hys]),
          List.append_assoc]
      · rw [List.filter_cons_of_pos (by simpa using hz), List.append_cons xs z zs, ih,
          List.append_cons xs z (List.filter _ zs)]

/-- Without following a link at the end, a path leads to what it leads to with following it,
or to a link. -/
def StopsShort (short far : Except FileError Found) : Prop :=
  ∀ found, far = .ok found → short = .ok found ∨ ∃ loc target, short = .ok ⟨loc, .link target⟩

/-- If the ways through links stop short of a last link only, so do those along segments. -/
theorem stopsShort_of_follow
    (hfollow : ∀ at_ names,
      StopsShort (d.follow false links at_ names) (d.follow true links at_ names))
    (names : List String) :
    StopsShort (d.resolve false links at_ names) (d.resolve true links at_ names) := by
  induction names generalizing at_ with
  | nil => exact fun _ h => Or.inl (by simpa using h)
  | cons name rest ih =>
      simp only [resolve_cons]
      split
      · exact ih
      · split
        · exact ih
        · split
          · exact fun _ h => Or.inl h
          · cases d.entry? (at_ ++ [name]) with
            | none => exact fun _ h => Or.inl h
            | some entry =>
                cases entry with
                | directory => exact ih
                | file id => exact fun _ h => Or.inl h
                | link target =>
                    by_cases hrest : rest = []
                    · exact fun _ _ => Or.inr ⟨at_ ++ [name], target, by simp [hrest]⟩
                    · simpa [hrest] using hfollow _ _

/-- **Not to follow a link at the end** makes a difference only if there is one, by induction on
the links that may be followed. -/
theorem stopsShort (links : Nat) (at_ : Location) (names : List String) :
    StopsShort (d.resolve false links at_ names) (d.resolve true links at_ names) := by
  induction links generalizing at_ names with
  | zero => exact stopsShort_of_follow (fun _ _ _ h => by cases h) names
  | succ links ih =>
      have hfollow : ∀ at_ names, StopsShort (d.follow false (links + 1) at_ names)
          (d.follow true (links + 1) at_ names) := ih
      exact stopsShort_of_follow hfollow names

/-- What a path leads to without following a link at its end is what it leads to at last, or a
link. -/
theorem lookup_false_of_stat (h : d.stat path = .ok found) :
    d.lookup path false = .ok found ∨
      ∃ loc target, d.lookup path false = .ok ⟨loc, .link target⟩ := by
  obtain ⟨husable, hresolve⟩ := stat_eq_ok_iff.mp h
  obtain hshort | ⟨loc, target, hshort⟩ := stopsShort _ _ _ found hresolve
  · exact Or.inl (lookup_eq_ok_iff.mpr ⟨husable, hshort⟩)
  · exact Or.inr ⟨loc, target, lookup_eq_ok_iff.mpr ⟨husable, hshort⟩⟩

/-! ### Joined paths -/

/-- An empty segment in front of others makes no difference, so the segments of a path may be
replaced by its trunk. -/
theorem resolve_trunk (base : String) {ys : List String} (hys : ys ≠ []) :
    d.resolve followLast links at_ (Path.trunk base ++ ys) =
      d.resolve followLast links at_ (Text.split '/' base ++ ys) := by
  obtain h | h := Path.split_eq_trunk base
  · rw [h]
  · rw [h, List.append_assoc, List.singleton_append, resolve_skip (Or.inl rfl) _ hys]

/-- A joined path begins where its first part does. -/
theorem start_join {base p : String} (hbase : base ≠ "") (hp : Path.isAbsolute p = false) :
    d.start (Path.join base p) = d.start base := by
  unfold start
  rw [Path.isAbsolute_join hbase hp]

/-- A path that leads somewhere has a first part that can. -/
theorem Usable.of_join {base p : String} (hbase : base ≠ "") (hp : Path.isAbsolute p = false)
    (h : Usable (Path.join base p)) : Usable base := by
  obtain ⟨rest, hrest⟩ : ∃ rest, Path.join base p = base ++ rest := by
    unfold Path.join
    rw [if_neg (by simp [hp, hbase])]
    split
    · exact ⟨p, rfl⟩
    · exact ⟨"/" ++ p, String.append_assoc ..⟩
  rw [hrest] at h
  refine ⟨fun hnul => h.no_nul ?_, hbase, Nat.lt_of_le_of_lt ?_ h.short⟩
  · rw [String.toList_append]
    exact List.mem_append_left _ hnul
  · rw [String.utf8ByteSize_append]
    exact Nat.le_add_right ..

/-- The segments of a joined path lead where those of both parts do. -/
theorem leads_join_eq {base p : String} (hbase : base ≠ "") (hp : Path.isAbsolute p = false) :
    d.leads (Path.join base p) =
      d.resolve true linkLimit (d.start base) (Text.split '/' base ++ Text.split '/' p) := by
  unfold leads
  rw [start_join hbase hp, Path.split_join hbase hp, resolve_trunk base (Text.split_ne_nil '/' p)]

/-- **Below a directory**, what is joined to its path is looked up from there. -/
theorem resolve_below {base : String} (hbase : base ≠ "")
    (h : d.leads base = .ok ⟨loc, .directory⟩) :
    ∃ links, ∀ followLast q, Path.isAbsolute q = false →
      d.resolve followLast linkLimit (d.start (Path.join base q))
          (Text.split '/' (Path.join base q)) =
        d.resolve followLast links loc (Text.split '/' q) := by
  obtain ⟨_, hnot, -⟩ | ⟨loc', links, hfirst, hrest⟩ :=
      resolve_append d linkLimit (d.start base) (Text.split '/' base)
  · exact absurd h (hnot loc)
  · rw [leads, hfirst] at h
    cases h
    refine ⟨links, fun followLast q hq => ?_⟩
    have hsplit := Text.split_ne_nil '/' q
    rw [start_join hbase hq, Path.split_join hbase hq, resolve_trunk base hsplit,
      hrest followLast _ hsplit]

/-- What is joined to the path of a directory is looked up from the directory, with the links that
are left. -/
theorem leads_below {base : String} (hbase : base ≠ "")
    (h : d.leads base = .ok ⟨loc, .directory⟩) :
    ∃ links, ∀ q, Path.isAbsolute q = false →
      d.leads (Path.join base q) = d.resolve true links loc (Text.split '/' q) := by
  obtain ⟨links, hbelow⟩ := resolve_below hbase h
  exact ⟨links, hbelow true⟩

/-- **A joined path** leads through a directory at its first part, if it leads somewhere. -/
theorem exists_leads_of_join {base p : String} (hbase : base ≠ "")
    (hp : Path.isAbsolute p = false) (h : d.leads (Path.join base p) = .ok found) :
    ∃ loc, d.leads base = .ok ⟨loc, .directory⟩ := by
  rw [leads_join_eq hbase hp] at h
  obtain ⟨_, -, hfail⟩ | ⟨loc, _, hfirst, -⟩ :=
      resolve_append d linkLimit (d.start base) (Text.split '/' base)
  · rw [hfail _ _ (Text.split_ne_nil '/' p)] at h
    cases h
  · exact ⟨loc, hfirst⟩

end Disk

end Classpath
