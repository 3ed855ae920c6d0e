import Classpath.Proofs.Prefixes
import Classpath.Proofs.WholeNames

/-!
# What a Configuration Is Compiled To

Both ways of compiling a configuration begin alike: its prefixes are brought into a form and
checked, and its patterns are compiled (`Config.compileAs`). Compilation for classes folds the
pattern of class files in afterwards, which comes to the same whether or not it is among the
patterns already (`Config.accepts_fold`).

So whether a configuration can be compiled, and what its filter admits, is a matter of which
prefixes and patterns it has, and not of their order or number.

## Main results

* `Config.compileResources_eq`, `Config.compileClasses_eq`: what both ways have in common.
* `Config.exists_compileAs_iff`: which configurations can be compiled.
* `Config.mem_prefixes_iff`, `Config.mem_patterns_iff`: what the filter consists of.
* `Config.accepts_fold`: what the pattern of class files adds.
-/

namespace Classpath

namespace Config

/-- The filter with the prefixes in a form and with the patterns as they are. -/
def compileAs (form : String → String) (c : Config) : Except ScanError Filter := do
  let prefixes ← c.prefixes.mapM (checkedPrefix form)
  let patterns ← c.patterns.mapM compilePattern
  return ⟨prefixes, patterns⟩

variable {form : String → String} {c : Config} {f : Filter}

theorem compileResources_eq (c : Config) : c.compileResources = c.compileAs Filter.slashForm := rfl

/-- To compile for classes is to compile with prefixes in the form of packages, and to add the
pattern for names of class files. -/
theorem compileClasses_eq (c : Config) :
    c.compileClasses = (c.compileAs Filter.packageForm).map fun f =>
      ⟨f.prefixes, Pattern.fold f.patterns .classFiles⟩ := by
  unfold compileClasses compileAs
  rcases c.prefixes.mapM (checkedPrefix Filter.packageForm) with _ | prefixes
  · rfl
  · rcases c.patterns.mapM compilePattern with _ | patterns <;> rfl

/-- A configuration compiles if every prefix does not climb and every pattern is one. -/
theorem compileAs_eq_ok_iff :
    c.compileAs form = .ok f ↔ c.prefixes.mapM (checkedPrefix form) = .ok f.prefixes ∧
      c.patterns.mapM compilePattern = .ok f.patterns := by
  unfold compileAs
  simp only [bind_eq_ok_iff, pure_eq_ok_iff]
  constructor
  · rintro ⟨prefixes, hprefixes, patterns, hpatterns, rfl⟩
    exact ⟨hprefixes, hpatterns⟩
  · rintro ⟨hprefixes, hpatterns⟩
    exact ⟨_, hprefixes, _, hpatterns, rfl⟩

/-- **Which configurations can be compiled**: those of which no prefix climbs and each pattern
can be. -/
theorem exists_compileAs_iff :
    (∃ f, c.compileAs form = .ok f) ↔
      (∀ raw ∈ c.prefixes, Filter.climbs (form raw) = false) ∧
        ∀ source ∈ c.patterns, ∃ p, compilePattern source = .ok p := by
  have hchecked : ∀ raw, (∃ start, checkedPrefix form raw = .ok start) ↔
      Filter.climbs (form raw) = false := by
    intro raw
    simp only [checkedPrefix_eq_ok_iff]
    constructor
    · rintro ⟨_, hclimbs, rfl⟩
      exact hclimbs
    · exact fun hclimbs => ⟨_, hclimbs, rfl⟩
  simp only [← hchecked, ← exists_mapM_eq_ok_iff]
  constructor
  · rintro ⟨f, hf⟩
    obtain ⟨hprefixes, hpatterns⟩ := compileAs_eq_ok_iff.mp hf
    exact ⟨⟨_, hprefixes⟩, _, hpatterns⟩
  · rintro ⟨⟨prefixes, hprefixes⟩, patterns, hpatterns⟩
    exact ⟨⟨prefixes, patterns⟩, compileAs_eq_ok_iff.mpr ⟨hprefixes, hpatterns⟩⟩

/-- The prefixes of the filter are those of the configuration in their form. -/
theorem mem_prefixes_iff (h : c.compileAs form = .ok f) {start : String} :
    start ∈ f.prefixes ↔ ∃ raw ∈ c.prefixes, form raw = start := by
  obtain ⟨hprefixes, -⟩ := compileAs_eq_ok_iff.mp h
  constructor
  · intro hstart
    obtain ⟨raw, hraw, hchecked⟩ := exists_of_mem_mapM hprefixes hstart
    exact ⟨raw, hraw, (checkedPrefix_eq_ok_iff.mp hchecked).2.symm⟩
  · rintro ⟨raw, hraw, rfl⟩
    obtain ⟨start, hstart, hchecked⟩ := exists_mem_of_mapM hprefixes hraw
    exact (checkedPrefix_eq_ok_iff.mp hchecked).2 ▸ hstart

/-- The patterns of the filter are those that the sources of the configuration compile to. -/
theorem mem_patterns_iff (h : c.compileAs form = .ok f) {p : Pattern} :
    p ∈ f.patterns ↔ ∃ source ∈ c.patterns, compilePattern source = .ok p := by
  obtain ⟨-, hpatterns⟩ := compileAs_eq_ok_iff.mp h
  constructor
  · exact exists_of_mem_mapM hpatterns
  · rintro ⟨source, hsource, hp⟩
    obtain ⟨p', hp', hcompiled⟩ := exists_mem_of_mapM hpatterns hsource
    rw [hp] at hcompiled
    cases hcompiled
    exact hp'

/-! ### The pattern of class files -/

/-- A pattern keeps the source that it was compiled from. -/
theorem source_of_compilePattern {source : String} {p : Pattern}
    (h : compilePattern source = .ok p) : p.source = source := by
  obtain ⟨_, -, rfl⟩ := map_eq_ok_iff.mp (mapError_eq_ok_iff.mp h)
  rfl

/-- A pattern that was compiled from the source of the one for class files is this one. -/
theorem eq_classFiles_of_mem (h : c.compileAs form = .ok f) {p : Pattern} (hp : p ∈ f.patterns)
    (hsource : p.source = Pattern.classFileSource) : p = .classFiles := by
  obtain ⟨source, -, hp⟩ := (mem_patterns_iff h).mp hp
  rw [← source_of_compilePattern hp, hsource] at hp
  unfold compilePattern at hp
  rw [Pattern.compile_classFileSource] at hp
  cases hp
  rfl

/-- **What the pattern of class files adds** to a filter: it has to match as well. -/
theorem accepts_fold (h : c.compileAs form = .ok f) (name : String) :
    Filter.accepts ⟨f.prefixes, Pattern.fold f.patterns .classFiles⟩ name =
      (f.accepts name && Pattern.classFiles.isMatch name) := by
  unfold Filter.accepts Pattern.matchAll Pattern.fold
  split
  · rename_i hany
    obtain ⟨p, hp, hsource⟩ := List.any_eq_true.mp hany
    obtain rfl := eq_classFiles_of_mem h hp (beq_iff_eq.mp hsource)
    rw [Bool.and_assoc]
    congr 1
    rw [Bool.eq_iff_iff, Bool.and_eq_true, List.all_eq_true]
    exact (and_iff_left_of_imp fun hall => hall _ hp).symm
  · simp only [List.all_append, List.all_cons, List.all_nil, Bool.and_true, Bool.and_assoc]

end Config

end Classpath
