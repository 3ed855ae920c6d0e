import Classpath.Proofs.Compilation
import Classpath.Proofs.Segments

/-!
# Prefixes That Climb

A prefix climbs if one of its segments is `..`, backslashes read as slashes. It is the form of a
prefix that is checked, and the two forms differ here. The form of a path keeps all segments but
empty ones at the front, so a path climbs if its form does, and a configuration with such a path is
rejected, whatever its patterns are. The form of a package has no dots left: it never climbs, and
nothing is rejected (`Config.climbing_package_compiled`).

## Main definitions

* `Filter.Climbing`: prefixes that climb, as they are typed.
* `Filter.Plain`: prefixes as scans rely on them.
* `Config.CompilesTo`: what compiling comes to when no prefix is rejected.

## Main results

* `Filter.climbs_slashForm_iff`, `Filter.climbs_packageForm`: what the check sees of a prefix.
* `Config.climbing_rejected`: what compiling comes to.
-/

namespace Classpath

/-! ### Forms of prefixes -/

namespace Filter

/-- A prefix, as it is typed, leads upwards: with backslashes read as slashes, one of its segments
is `..`. -/
def Climbing (raw : String) : Prop := ".." ∈ Text.split '/' (Text.replace '\\' '/' raw)

/-- A prefix as scans rely on it: with slashes only, none of them at the front, and below the place
where it begins. -/
structure Plain (start : String) : Prop where
  no_backslash : '\\' ∉ start.toList
  relative : Path.isAbsolute start = false
  no_up : ".." ∉ Text.split '/' start

/-- A path climbs if one of its segments leads upwards. -/
theorem climbs_eq_true_iff {path : String} : climbs path = true ↔ ".." ∈ Text.split '/' path :=
  List.contains_iff_mem

/-- **The form of a path** climbs if the path does. -/
theorem climbs_slashForm_iff (raw : String) : climbs (slashForm raw) = true ↔ Climbing raw := by
  rw [climbs_eq_true_iff]
  exact Text.mem_split_trimStart_iff (by decide)

/-- **The form of a package** never climbs: its dots are slashes. -/
theorem climbs_packageForm (package : String) : climbs (packageForm package) = false := by
  have hdot : '.' ∉ (packageForm package).toList := fun h =>
    Text.notMem_replace_of_notMem (by decide) (Text.notMem_replace (by decide) package)
      (Text.mem_of_mem_trimStart h)
  rw [Bool.eq_false_iff, ne_eq, climbs_eq_true_iff]
  exact fun hup => hdot (Text.mem_of_mem_split hup (by decide))

/-- A form that does not climb is plain. -/
theorem plain_slashForm {path : String} (h : climbs (slashForm path) = false) :
    Plain (slashForm path) where
  no_backslash hmem := Text.notMem_replace (by decide) path (Text.mem_of_mem_trimStart hmem)
  relative := Text.isAbsolute_trimStart _
  no_up hup := Bool.false_ne_true (h.symm.trans (climbs_eq_true_iff.mpr hup))

end Filter

/-! ### Compilation -/

namespace Config

variable {form : String → String} {c : Config}

/-- A source that is no pattern. -/
def Malformed (source : String) : Prop := ∀ p, Pattern.compile source ≠ .ok p

/-- What compiling a configuration comes to when no prefix is rejected: it fails at the first
source that is no pattern, and otherwise yields a filter with the prefixes in their form, which is
plain. -/
structure CompilesTo (form : String → String) (c : Config) (x : Except ScanError Filter) :
    Prop where
  fails : ∀ source, IsFirst Malformed c.patterns source → x = .error (.pattern source)
  succeeds : (∀ source ∈ c.patterns, ¬Malformed source) →
    ∃ f, x = .ok f ∧ f.prefixes = c.prefixes.map form ∧ ∀ start ∈ f.prefixes, Filter.Plain start

/-- A source that is no expression, even between the anchors, is reported with its text. -/
theorem compilePattern_of_malformed {source : String} (h : Malformed source) :
    compilePattern source = .error (.pattern source) := by
  unfold compilePattern
  cases hp : Pattern.compile source with
  | error e => rfl
  | ok p => exact absurd hp (h p)

/-- Every other source compiles. -/
theorem exists_compilePattern {source : String} (h : ¬Malformed source) :
    ∃ p, compilePattern source = .ok p := by
  obtain ⟨p, hp⟩ := not_forall_not.mp h
  exact ⟨p, mapError_eq_ok_iff.mpr hp⟩

/-- **The first prefix whose form climbs** is the error, whatever the patterns are. -/
theorem compileAs_of_climbs {raw : String}
    (h : IsFirst (fun raw => Filter.climbs (form raw) = true) c.prefixes raw) :
    c.compileAs form = .error (.climbing raw) := by
  have hfirst : FirstFailure (checkedPrefix form) c.prefixes (.climbing raw) := by
    refine h.firstFailure (fun raw hclimbs => if_pos hclimbs) fun raw hclimbs => ?_
    exact ⟨_, checkedPrefix_eq_ok_iff.mpr ⟨by simpa using hclimbs, rfl⟩⟩
  exact bind_eq_error_iff.mpr (Or.inl (mapM_eq_error_iff.mpr hfirst))

/-- If no form climbs, the patterns decide. -/
theorem compilesTo_compileAs (hplain : ∀ raw ∈ c.prefixes, Filter.climbs (form raw) = false →
      Filter.Plain (form raw))
    (h : ∀ raw ∈ c.prefixes, Filter.climbs (form raw) = false) :
    c.CompilesTo form (c.compileAs form) := by
  have hprefixes : c.prefixes.mapM (checkedPrefix form) = .ok (c.prefixes.map form) := by
    rw [mapM_eq_ok_iff, List.forall₂_map_right_iff, List.forall₂_same]
    exact fun raw hraw => checkedPrefix_eq_ok_iff.mpr ⟨h raw hraw, rfl⟩
  constructor
  · intro source hfirst
    have hfails := mapM_eq_error_iff.mpr (hfirst.firstFailure
      (fun _ => compilePattern_of_malformed) fun _ => exists_compilePattern)
    exact bind_eq_error_iff.mpr (Or.inr ⟨_, hprefixes, bind_eq_error_iff.mpr (Or.inl hfails)⟩)
  · intro hsources
    obtain ⟨patterns, hpatterns⟩ := exists_mapM_eq_ok_iff.mpr fun source hsource =>
      exists_compilePattern (hsources source hsource)
    refine ⟨⟨_, patterns⟩, compileAs_eq_ok_iff.mpr ⟨hprefixes, hpatterns⟩, rfl, ?_⟩
    intro start hstart
    obtain ⟨raw, hraw, rfl⟩ := List.mem_map.mp hstart
    exact hplain raw hraw (h raw hraw)

/-- For class files, the pattern that is folded in changes neither errors nor prefixes. -/
theorem CompilesTo.compileClasses (h : c.CompilesTo Filter.packageForm
    (c.compileAs Filter.packageForm)) : c.CompilesTo Filter.packageForm c.compileClasses := by
  constructor
  · intro source hfirst
    rw [compileClasses_eq, h.fails source hfirst]
    rfl
  · intro hsources
    obtain ⟨f, hf, hprefixes, hplain⟩ := h.succeeds hsources
    refine ⟨⟨f.prefixes, Pattern.fold f.patterns Pattern.classFiles⟩, ?_, hprefixes, hplain⟩
    rw [compileClasses_eq, hf]
    rfl

/-- **Prefixes that climb are rejected** where they are paths. The error names the first of them,
whatever the patterns are; if there is none, compiling fails at the first source that is no pattern,
and otherwise yields plain prefixes. Where prefixes are packages none is rejected, and the rest is
the same. -/
theorem climbing_rejected (c : Config) :
    (∀ raw, IsFirst Filter.Climbing c.prefixes raw →
      c.compileResources = .error (.climbing raw)) ∧
    ((∀ raw ∈ c.prefixes, ¬Filter.Climbing raw) →
      c.CompilesTo Filter.slashForm c.compileResources) ∧
    c.CompilesTo Filter.packageForm c.compileClasses := by
  refine ⟨fun raw hfirst => ?_, fun hnone => ?_, ?_⟩
  · rw [compileResources_eq]
    refine compileAs_of_climbs ?_
    simpa only [Filter.climbs_slashForm_iff] using hfirst
  · rw [compileResources_eq]
    refine compilesTo_compileAs (fun _ _ => Filter.plain_slashForm) fun raw hraw => ?_
    rw [Bool.eq_false_iff, ne_eq, Filter.climbs_slashForm_iff]
    exact hnone raw hraw
  · refine CompilesTo.compileClasses (compilesTo_compileAs (fun raw _ => ?_) fun raw _ => ?_)
    · exact Filter.plain_slashForm
    · exact Filter.climbs_packageForm raw

/-- The second prefix climbs, by a backslash, and the pattern is none. -/
theorem climbing_rejected_second :
    IsFirst Filter.Climbing ["com/foo", "com\\..\\x"] "com\\..\\x" ∧
      (⟨["com/foo", "com\\..\\x"], ["("]⟩ : Config).compileResources =
        .error (.climbing "com\\..\\x") := by
  have hfirst : IsFirst Filter.Climbing ["com/foo", "com\\..\\x"] "com\\..\\x" := by
    refine ⟨["com/foo"], [], rfl, ?_, List.forall_mem_singleton.mpr ?_⟩ <;>
      unfold Filter.Climbing <;> decide
  exact ⟨hfirst, (climbing_rejected ⟨_, ["("]⟩).1 _ hfirst⟩

/-- **A package that climbs is compiled**: it becomes the prefix of what is beside it. -/
theorem climbing_package_compiled :
    IsFirst Filter.Climbing ["../outside"] "../outside" ∧
      (⟨["../outside"], []⟩ : Config).compileClasses = .ok ⟨["outside"], [Pattern.classFiles]⟩ := by
  refine ⟨⟨[], [], rfl, ?_, by simp⟩, rfl⟩
  unfold Filter.Climbing
  decide

end Config

end Classpath
