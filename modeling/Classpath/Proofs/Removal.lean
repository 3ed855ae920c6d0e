import Classpath.Proofs.Handles

/-!
# Removing Files

Whatever is removed from a disk, a path that still leads somewhere leads where it did before, and
to the same content (`Disk.Shrinks.lookup`). So an entry of a loader that holds nothing under a name
holds nothing under it afterwards, and nothing comes to light that was hidden before, be it another
class or a failure (`Disk.Shrinks.classBytes?`).

In a session that only removes files, whatever classes are defined meanwhile, all that lookups came
to stays known: classes that were defined, and loaders that had none under a name. This is
`Recalls F w w'`, for a disk and the classes defined on it at one time and at a later one.

## Main results

* `Disk.Shrinks.lookup`: where paths lead after a removal.
* `Recalls.class?_eq_none`, `Recalls.class?_eq_some`: lookups that are repeated.
* `recalls_of_session`: what a session of removals recalls.
-/

namespace Classpath

variable {d d' : Disk} {F : Loaders} {l l' : Linkage}

namespace Disk

variable {followLast : Bool} {links : Nat} {at_ : Location} {names : List String}
  {path resource : String} {found : Found}

/-- What is left of a disk: whatever is there was there before, and is the same. -/
structure Shrinks (d d' : Disk) : Prop where
  entry : ∀ {at_ : Location} {e : Entry}, d'.entry? at_ = some e → d.entry? at_ = some e
  contents_eq : d'.contents = d.contents
  current_eq : d'.current = d.current

/-- Something is removed from a disk. -/
def Removes (d d' : Disk) : Prop := ∃ path, d.remove path = .ok d'

/-- A location is looked up among some of the locations as among all of them, if it is one of
these. -/
theorem lookup_filter_key (p : Location → Bool) (entries : List (Location × Entry)) :
    (entries.filter fun e => p e.1).lookup at_ = if p at_ then entries.lookup at_ else none := by
  induction entries with
  | nil => simp
  | cons entry entries ih =>
      obtain ⟨key, e⟩ := entry
      rw [List.filter_cons, List.lookup_cons]
      by_cases hkey : at_ = key
      · subst hkey
        cases hp : p at_ <;> simp [hp, ih]
      · have hne : (at_ == key) = false := by simpa using hkey
        cases p key <;> simp [hne, List.lookup_cons, ih]

/-- **What a removal leaves** was there before. -/
theorem Removes.shrinks (h : d.Removes d') : d.Shrinks d' := by
  obtain ⟨path, h⟩ := h
  obtain ⟨found, -, h⟩ := bind_eq_ok_iff.mp h
  cases h
  refine ⟨fun {at_ e} hentry => ?_, rfl, rfl⟩
  unfold entry? at hentry ⊢
  split at hentry
  · rename_i hroot
    rwa [if_pos hroot]
  · rename_i hroot
    rw [if_neg hroot]
    rw [lookup_filter_key fun at_ => !found.location.isPrefixOf at_] at hentry
    split at hentry
    · exact hentry
    · cases hentry

namespace Shrinks

/-- Segments lead where they led before, if anywhere, if all do that a link may lead to. -/
theorem resolve_of_follow (h : d.Shrinks d')
    (hfollow : ∀ at_ names, d'.follow followLast links at_ names = .ok found →
      d.follow followLast links at_ names = .ok found) (names : List String) :
    d'.resolve followLast links at_ names = .ok found →
      d.resolve followLast links at_ names = .ok found := by
  induction names generalizing at_ with
  | nil => exact fun hfound => by simpa using hfound
  | cons name names ih =>
      simp only [resolve_cons]
      split
      · exact ih
      · split
        · exact ih
        · split
          · exact fun hfound => hfound
          · cases hentry : d'.entry? (at_ ++ [name]) with
            | none => exact fun hfound => by cases hfound
            | some entry =>
                rw [h.entry hentry]
                cases entry with
                | directory => exact ih
                | file id => exact fun hfound => hfound
                | link target =>
                    dsimp only
                    split
                    · exact fun hfound => hfound
                    · exact hfollow _ _

/-- **Segments** lead where they led before, if anywhere, through as many links. -/
theorem resolve (h : d.Shrinks d') (hfound : d'.resolve followLast links at_ names = .ok found) :
    d.resolve followLast links at_ names = .ok found := by
  induction links generalizing at_ names with
  | zero => exact h.resolve_of_follow (fun _ _ hnone => by cases hnone) names hfound
  | succ links ih =>
      have hfollow : ∀ at_ names, d'.follow followLast (links + 1) at_ names = .ok found →
          d.follow followLast (links + 1) at_ names = .ok found := fun _ _ => ih
      exact h.resolve_of_follow hfollow names hfound

/-- **A path** leads where it led before, if anywhere. -/
theorem lookup (h : d.Shrinks d') (hfound : d'.lookup path followLast = .ok found) :
    d.lookup path followLast = .ok found := by
  obtain ⟨husable, hfound⟩ := lookup_eq_ok_iff.mp hfound
  refine lookup_eq_ok_iff.mpr ⟨husable, h.resolve ?_⟩
  unfold start at hfound ⊢
  rwa [h.current_eq] at hfound

/-- What a path leads to, links followed, it led to before. -/
theorem stat (h : d.Shrinks d') (hfound : d'.stat path = .ok found) : d.stat path = .ok found :=
  h.lookup hfound

/-- What is a file was one before. -/
theorem isFile (h : d.Shrinks d') (hfile : d'.isFile path = true) : d.isFile path = true := by
  obtain ⟨loc, id, hstat⟩ := isFile_eq_true_iff.mp hfile
  exact isFile_eq_true_iff.mpr ⟨loc, id, h.stat hstat⟩

/-- The content of a file is what it was, whether or not something leads to it still. -/
theorem content_eq (h : d.Shrinks d') (id : Nat) : d'.content id = d.content id := by
  unfold content
  rw [h.contents_eq]

/-- **An entry that holds nothing** under a name holds nothing afterwards. -/
theorem entryBytes? (h : d.Shrinks d') (hnone : entryBytes? d path resource = .ok none) :
    Classpath.entryBytes? d' path resource = .ok none := by
  unfold Classpath.entryBytes? at hnone ⊢
  cases hstat : d'.stat path with
  | error e => rfl
  | ok found =>
      obtain ⟨loc, entry⟩ := found
      rw [h.stat hstat] at hnone
      cases entry with
      | directory =>
          dsimp only at hnone ⊢
          split at hnone
          · obtain ⟨_, -, hsome⟩ := map_eq_ok_iff.mp hnone
            cases hsome
          · rename_i hfile
            rw [if_neg fun hfile' => hfile (h.isFile hfile')]
      | file id =>
          dsimp only at hnone ⊢
          rw [h.content_eq]
          exact hnone
      | link target => rfl

/-- Entries that hold nothing under a name hold nothing afterwards. -/
theorem firstBytes? (h : d.Shrinks d') {paths : List String}
    (hnone : firstBytes? d resource paths = .ok none) :
    Classpath.firstBytes? d' resource paths = .ok none := by
  induction paths with
  | nil => rfl
  | cons path paths ih =>
      obtain ⟨_ | bytes, hpath, hrest⟩ := bind_eq_ok_iff.mp hnone
      · exact bind_eq_ok_iff.mpr ⟨none, h.entryBytes? hpath, ih hrest⟩
      · cases hrest

/-- A loader that finds no class file under a name finds none afterwards. -/
theorem classBytes? (h : d.Shrinks d') {x : Loader} {name : String}
    (hnone : x.classBytes? d name = .ok none) : x.classBytes? d' name = .ok none :=
  h.firstBytes? hnone

end Shrinks

end Disk

/-! ### Lookups that are repeated -/

namespace Linkage

/-- A loader has nothing under a name if nothing is defined there, nor held by its entries. -/
theorem own?_eq_none_iff {n : String} {c : Chain} :
    l.own? d n c = .ok none ↔
      l.find? c.scope n = none ∧ c.loader.classBytes? d n = .ok none := by
  rw [← own?_empty_eq_none_iff]
  cases hfind : l.find? c.scope n with
  | some cls => simp [own?_of_find? hfind]
  | none =>
      simp only [true_and]
      unfold own?
      rw [hfind]
      rfl

end Linkage

/-- At a later time a class that was defined is defined still, and a loader that had none under a
name still has none. -/
structure Recalls (F : Loaders) (w w' : Disk × Linkage) : Prop where
  kept : w.2.Kept w'.2
  absent : ∀ {n : String} {c : Chain}, c ∈ F.made →
    w.2.own? w.1 n c = .ok none → w'.2.own? w'.1 n c = .ok none

namespace Recalls

variable {w w' w'' : Disk × Linkage} {n : String} {c : Chain}

theorem refl (w : Disk × Linkage) : Recalls F w w := ⟨id, fun _ h => h⟩

theorem trans (h : Recalls F w w') (h' : Recalls F w' w'') : Recalls F w w'' where
  kept hfind := h'.kept (h.kept hfind)
  absent hc hnone := h'.absent hc (h.absent hc hnone)

/-- Classes that were added recall those from before, and hide no name that no loader had. -/
theorem of_grows (h : l.Grows d F l') : Recalls F (d, l) (d, l') where
  kept := h.kept
  absent hc hnone := (h.own?_eq hc).trans hnone

/-- A disk from which something was removed brings no class to a loader that had none. -/
theorem of_shrinks (h : d.Shrinks d') : Recalls F (d, l) (d', l) where
  kept := id
  absent _ hnone := by
    obtain ⟨hfind, hbytes⟩ := Linkage.own?_eq_none_iff.mp hnone
    exact Linkage.own?_eq_none_iff.mpr ⟨hfind, h.classBytes? hbytes⟩

/-- **A name that no loader had** is one that none has. -/
theorem class?_eq_none (h : Recalls F w w') (hc : c ∈ F.made)
    (hnone : w.2.class? w.1 n c = .ok none) : w'.2.class? w'.1 n c = .ok none := by
  rw [Linkage.class?_eq_none_iff] at hnone ⊢
  exact fun p hp => h.absent (F.mem_of_mem_chains hc hp) (hnone p hp)

/-- **A class that was found**, and is defined, is found again. -/
theorem class?_eq_some (h : Recalls F w w') (hc : c ∈ F.made) {t : TypeRef} {cls : DefinedClass}
    (hsome : w.2.class? w.1 n c = .ok (some (t, cls)))
    (hfind : w'.2.find? t.scope t.name = some cls) :
    w'.2.class? w'.1 n c = .ok (some (t, cls)) := by
  rw [Linkage.class?_eq_some_iff] at hsome ⊢
  obtain ⟨nearer, owner, farther, hsplit, hnone, -, rfl⟩ := hsome
  refine ⟨nearer, owner, farther, hsplit, fun p hp => ?_, Linkage.own?_of_find? hfind, rfl⟩
  refine h.absent (F.mem_of_mem_chains hc ?_) (hnone p hp)
  simp [hsplit, hp]

end Recalls

/-- **One step** of a session of removals. -/
theorem Session.Step.recalls {w w' : Disk × Linkage} (h : Session.Step Disk.Removes F w w')
    (hw : w.2.Sound F) : Recalls F w w' := by
  cases h with
  | change hremoves => exact .of_shrinks hremoves.shrinks
  | perform hop => exact .of_grows (hw.grows_perform hop)

/-- **A whole session** of removals. -/
theorem recalls_of_session {w w' : Disk × Linkage} (h : Session Disk.Removes F w w')
    (hw : w.2.Sound F) : Recalls F w w' := by
  induction h with
  | refl => exact .refl w
  | tail hsession hstep ih => exact ih.trans (hstep.recalls (Session.spec hsession hw).1)

end Classpath
