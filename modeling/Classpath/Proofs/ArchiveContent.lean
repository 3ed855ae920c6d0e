import Mathlib.Data.List.Infix
import Mathlib.Data.List.TakeWhile
import Classpath.Archive.Pack
import Classpath.Config
import Classpath.Proofs.Entries

/-!
# What the Root of an Archive Holds

The entries of an archive are tested one by one, but before that the archive as a whole: it is
passed over unless one of the prefixes is stored in it, as an entry or as a directory. The
second test is coarser than the first, so all it can do is take the whole answer away. It takes
away nothing that is admitted if the archive has an entry for each directory above its entries
and no prefix ends inside a segment of one (`Root.holdsPrefix_of_accepts`).

## Main results

* `Root.holdsPrefix_eq_true_iff`: when an archive is looked at.
* `Root.holdsPrefix_of_accepts`: where an admitted entry implies a stored prefix.
* `Root.archive_holds_admitted`: what the root of an archive holds.
* `Root.archive_passed_over`: an admitted entry that it does not hold.
-/

namespace Classpath

/-- A text is what is left of it without the copies of a character at its end, and these. -/
theorem Text.exists_trimEnd (c : Char) (s : String) :
    ∃ n, s.toList = (trimEnd c s).toList ++ List.replicate n c := by
  have hend : s.toList.reverse.takeWhile (· == c) =
      List.replicate (s.toList.reverse.takeWhile (· == c)).length c :=
    List.eq_replicate_of_mem fun x hx => by simpa using List.mem_takeWhile_imp hx
  refine ⟨(s.toList.reverse.takeWhile (· == c)).length, ?_⟩
  calc s.toList
      = (s.toList.reverse.takeWhile (· == c) ++ s.toList.reverse.dropWhile (· == c)).reverse := by
        rw [List.takeWhile_append_dropWhile, List.reverse_reverse]
    _ = (trimEnd c s).toList ++ (s.toList.reverse.takeWhile (· == c)).reverse := by
        rw [List.reverse_append, trimEnd, String.toList_ofList]
    _ = (trimEnd c s).toList ++ List.replicate _ c := by
        rw [hend, List.reverse_replicate, List.length_replicate]

namespace Root

variable {names : List String} {f : Filter} {name start : String}

/-- Where a prefix is stored: as the name of an entry, or as that of a directory, which ends
with a slash. -/
def Stores (names : List String) (start : String) : Prop :=
  start ∈ names ∨ Text.trimEnd '/' start ++ "/" ∈ names

/-- An archive is scanned if there are no prefixes, or if it stores one of them as a name or as a
directory. -/
theorem holdsPrefix_eq_true_iff {prefixes : List String} :
    holdsPrefix names prefixes = true ↔ prefixes = [] ∨ ∃ start ∈ prefixes, Stores names start := by
  unfold holdsPrefix Stores
  rw [Bool.or_eq_true, List.isEmpty_iff, List.any_eq_true]
  refine or_congr_right (exists_congr fun start => and_congr_right fun _ => ?_)
  rw [List.any_eq_true]
  constructor
  · rintro ⟨name, hname, h⟩
    obtain rfl | rfl : name = start ∨ name = Text.trimEnd '/' start ++ "/" := by simpa using h
    · exact Or.inl hname
    · exact Or.inr hname
  · rintro (h | h)
    · exact ⟨_, h, by simp⟩
    · exact ⟨_, h, by simp⟩

/-! ### Where nothing is lost -/

/-- An archive has an entry for each directory above its entries: with a name, each beginning
of it that ends with a slash. -/
def StoresDirectories (names : List String) : Prop :=
  ∀ name ∈ names, ∀ part ∈ name.toList.inits, part.getLast? = some '/' →
    String.ofList part ∈ names

instance (names : List String) : Decidable (StoresDirectories names) :=
  inferInstanceAs (Decidable (∀ name ∈ names, ∀ part ∈ name.toList.inits,
    part.getLast? = some '/' → String.ofList part ∈ names))

/-- A prefix ends where a segment does: an entry that begins with it is the prefix itself or
lies below the directory of this name. -/
def EndsSegment (names : List String) (start : String) : Prop :=
  ∀ name ∈ names, Text.startsWith name start = true →
    name = start ∨ Text.startsWith name (Text.trimEnd '/' start ++ "/") = true

instance (names : List String) (start : String) : Decidable (EndsSegment names start) :=
  inferInstanceAs (Decidable (∀ name ∈ names, Text.startsWith name start = true →
    name = start ∨ Text.startsWith name (Text.trimEnd '/' start ++ "/") = true))

/-- A prefix that ends with a slash ends a segment. -/
theorem endsSegment_append_slash (names : List String) (front : String) :
    EndsSegment names (front ++ "/") := by
  intro name _ hstart
  right
  have hslash : "/".toList = ['/'] := by decide
  have htrim : Text.trimEnd '/' (front ++ "/") = Text.trimEnd '/' front := by
    simp [Text.trimEnd, String.toList_append, hslash]
  obtain ⟨n, hn⟩ := Text.exists_trimEnd '/' front
  rw [htrim]
  refine List.isPrefixOf_iff_prefix.mpr
    (List.IsPrefix.trans ?_ (List.isPrefixOf_iff_prefix.mp hstart))
  rw [String.toList_append, String.toList_append, hn, hslash, List.append_assoc,
    ← List.replicate_succ', List.replicate_succ]
  exact ⟨List.replicate n '/', by simp⟩

/-- **An admitted entry implies a stored prefix** where directories are stored and prefixes end
with segments. -/
theorem holdsPrefix_of_accepts (hdirectories : StoresDirectories names)
    (hends : ∀ start ∈ f.prefixes, EndsSegment names start) (hname : name ∈ names)
    (haccepts : f.accepts name = true) : holdsPrefix names f.prefixes = true := by
  rw [holdsPrefix_eq_true_iff]
  refine (Filter.accepts_eq_true_iff.mp haccepts).1.imp_right fun ⟨start, hmem, hstart⟩ =>
    ⟨start, hmem, ?_⟩
  obtain rfl | hbelow := hends start hmem name hname hstart
  · exact Or.inl hname
  · right
    have hpart := hdirectories name hname (Text.trimEnd '/' start ++ "/").toList
      ((List.mem_inits _ _).mpr (List.isPrefixOf_iff_prefix.mp hbelow))
      (by simp [String.toList_append])
    rwa [String.ofList_toList] at hpart

/-! ### The root -/

/-- **What the root of an archive holds.** An archive that can be opened has a root, if any,
with the admitted entries that are no directories, all of them if there are no prefixes or one
is stored, and none otherwise. If it has an entry for each directory above its entries and the
prefixes end with segments, it is all of them in any case. -/
theorem archive_holds_admitted {d : Disk} {c : Chain} {path : String} {file : Nat}
    {archive : Archive} (hopen : Archive.open_ (d.content file) = .ok archive) (f : Filter) :
    ∃ root?, ofArchive? d c path file f = .ok root? ∧
      (∀ name, (∃ r ∈ root?, r.has name = true) ↔
        (f.prefixes = [] ∨ ∃ start ∈ f.prefixes, Stores archive.names start) ∧
          name ∈ archive.names ∧ Text.endsWith name "/" = false ∧ f.accepts name = true) ∧
      (StoresDirectories archive.names →
        (∀ start ∈ f.prefixes, EndsSegment archive.names start) →
          ∀ name, (∃ r ∈ root?, r.has name = true) ↔
            name ∈ archive.names ∧ Text.endsWith name "/" = false ∧ f.accepts name = true) := by
  have hroot : ofArchive? d c path file f = .ok
      (if (archiveNames archive.names f).isEmpty then none
        else some ⟨c, path, .archive file archive, archiveNames archive.names f⟩) := by
    unfold ofArchive?
    rw [hopen]
    rfl
  refine ⟨_, hroot, fun name => Iff.trans (exists_has_iff rfl rfl) ?_,
    fun hdirectories hends name => Iff.trans (exists_has_iff rfl rfl) ?_⟩
  · rw [mem_archiveNames, holdsPrefix_eq_true_iff]
  · rw [mem_archiveNames]
    exact and_iff_right_of_imp fun h => holdsPrefix_of_accepts hdirectories hends h.1 h.2.2

/-- An archive that stores its directories. -/
def storedArchive : Bytes :=
  Archive.pack [("com/", []), ("com/foo/", []), ("com/foo/A.class", []), ("B.class", [])]

/-- A scan of it for a prefix that is stored and one that is not. -/
theorem archive_holds_admitted_stored :
    ∃ archive root?, Archive.open_ storedArchive = .ok archive ∧
      ofArchive? ⟨[], [storedArchive], []⟩ ⟨⟨⟨1⟩, "app", []⟩, []⟩ "/a.jar" 0
        ⟨["com/foo/", "net"], []⟩ = .ok root? ∧
      (∃ r ∈ root?, r.has "com/foo/A.class" = true) ∧ ¬∃ r ∈ root?, r.has "B.class" = true := by
  have hnames : ((Archive.open_ storedArchive).toOption.map (·.names)) =
      some ["com/", "com/foo/", "com/foo/A.class", "B.class"] := by decide +kernel
  obtain ⟨archive, hopen, hnames⟩ := Option.map_eq_some_iff.mp hnames
  rw [toOption_eq_some_iff] at hopen
  obtain ⟨root?, hroot, -, hexact⟩ :=
    @archive_holds_admitted ⟨[], [storedArchive], []⟩ ⟨⟨⟨1⟩, "app", []⟩, []⟩ "/a.jar" 0 archive
      hopen ⟨["com/foo/", "net"], []⟩
  rw [hnames] at hexact
  have hdirectories : StoresDirectories
      ["com/", "com/foo/", "com/foo/A.class", "B.class"] := by decide
  have hends : ∀ start ∈ ["com/foo/", "net"], EndsSegment
      ["com/", "com/foo/", "com/foo/A.class", "B.class"] start := by
    simp only [List.forall_mem_cons, List.not_mem_nil, false_implies, implies_true, and_true]
    exact ⟨endsSegment_append_slash _ "com/foo", by decide⟩
  refine ⟨archive, root?, hopen, hroot, ?_, ?_⟩
  · exact (hexact hdirectories hends _).mpr (by decide)
  · exact fun h => absurd ((hexact hdirectories hends _).mp h) (by decide)

/-- An archive without directories, with an entry in `com/foobar`. -/
def plainArchive : Bytes := Archive.pack [("com/foobar/A.class", [])]

/-- **An archive that is passed over** although an entry of it is admitted. -/
theorem archive_passed_over :
    ∃ archive f, Archive.open_ plainArchive = .ok archive ∧
      Config.compileResources ⟨["com/foo"], []⟩ = .ok f ∧
      "com/foobar/A.class" ∈ archive.names ∧ Text.endsWith "com/foobar/A.class" "/" = false ∧
      f.accepts "com/foobar/A.class" = true ∧
      ofArchive? ⟨[], [plainArchive], []⟩ ⟨⟨⟨1⟩, "app", []⟩, []⟩ "/a.jar" 0 f = .ok none := by
  have hnames : ((Archive.open_ plainArchive).toOption.map (·.names)) =
      some ["com/foobar/A.class"] := by decide +kernel
  obtain ⟨archive, hopen, hnames⟩ := Option.map_eq_some_iff.mp hnames
  rw [toOption_eq_some_iff] at hopen
  have hf : Config.compileResources ⟨["com/foo"], []⟩ = .ok ⟨["com/foo"], []⟩ := by rfl
  refine ⟨archive, ⟨["com/foo"], []⟩, hopen, hf, ?_, by decide, by decide, ?_⟩
  · rw [hnames]
    exact List.mem_cons_self
  · have hcontent : Disk.content ⟨[], [plainArchive], []⟩ 0 = plainArchive := rfl
    have hresources : archiveNames ["com/foobar/A.class"] ⟨["com/foo"], []⟩ = [] := by decide
    unfold ofArchive?
    rw [hcontent, hopen]
    show Except.ok (if (archiveNames archive.names _).isEmpty then none else _) = _
    rw [hnames, hresources]
    rfl

end Root

end Classpath
