import Classpath.Config
import Classpath.Path
import Classpath.Proofs.Success

/-!
# The Prefixes of a Filter

A configuration is compiled to a filter in one of two ways, and either way each prefix is brought
into its form and checked. What the scans rely on is common to both: no prefix climbs, and none
begins with a slash.

## Main results

* `Filter.accepts_eq_true_iff`: which names are admitted.
* `Config.checkedPrefix_eq_ok_iff`: what the check of one prefix says.
* `Config.prefixes_spec`: the prefixes of a compiled filter.
-/

namespace Classpath

/-- Without the slashes at its front, a text begins with none. -/
theorem Text.isAbsolute_trimStart (s : String) : Path.isAbsolute (trimStart '/' s) = false := by
  unfold Path.isAbsolute trimStart
  rw [String.toList_ofList]
  have hhead := List.head?_dropWhile_not (· == '/') s.toList
  cases hc : (s.toList.dropWhile (· == '/')).head? with
  | none => rfl
  | some c =>
      rw [hc] at hhead
      simpa using hhead

/-- A name is admitted if it begins with one of the prefixes, if there are any, and matches every
pattern. -/
theorem Filter.accepts_eq_true_iff {f : Filter} {name : String} :
    f.accepts name = true ↔
      (f.prefixes = [] ∨ ∃ start ∈ f.prefixes, Text.startsWith name start = true) ∧
        ∀ p ∈ f.patterns, p.isMatch name = true := by
  unfold accepts matchAnyPrefix Pattern.matchAll
  rw [Bool.and_eq_true, Bool.or_eq_true, List.isEmpty_iff, List.any_eq_true, List.all_eq_true]

/-- A path without backslashes and without a slash at its front is a prefix as it is. -/
theorem Filter.slashForm_eq {s : String} (hback : '\\' ∉ s.toList)
    (hrelative : Path.isAbsolute s = false) : slashForm s = s := by
  have hreplace : Text.replace '\\' '/' s = s := by
    have hmap : (s.toList.map fun c => if c = '\\' then '/' else c) = s.toList := by
      calc (s.toList.map fun c => if c = '\\' then '/' else c)
          = s.toList.map id :=
            List.map_congr_left fun c hc => if_neg fun h : c = '\\' => hback (h ▸ hc)
        _ = s.toList := List.map_id _
    rw [Text.replace, hmap, String.ofList_toList]
  have htrim : s.toList.dropWhile (· == '/') = s.toList := by
    unfold Path.isAbsolute at hrelative
    cases hs : s.toList with
    | nil => rfl
    | cons c cs =>
        rw [hs] at hrelative
        exact List.dropWhile_cons_of_neg (by simpa using hrelative)
  rw [slashForm, hreplace, Text.trimStart, htrim, String.ofList_toList]

/-- A prefix is accepted, in its form, if that does not climb. -/
theorem Config.checkedPrefix_eq_ok_iff {form : String → String} {raw start : String} :
    checkedPrefix form raw = .ok start ↔ Filter.climbs start = false ∧ start = form raw := by
  unfold checkedPrefix
  constructor
  · intro h
    split at h
    · cases h
    · rename_i hclimbs
      cases h
      exact ⟨by simpa using hclimbs, rfl⟩
  · rintro ⟨hclimbs, rfl⟩
    rw [if_neg (by simp [hclimbs])]

/-- **The prefixes of a compiled filter** do not climb and do not begin with a slash. -/
theorem Config.prefixes_spec {config : Config} {f : Filter}
    (hf : config.compileResources = .ok f ∨ config.compileClasses = .ok f) :
    ∀ start ∈ f.prefixes, Filter.climbs start = false ∧ Path.isAbsolute start = false := by
  have hchecked : ∀ {form : String → String} {prefixes : List String},
      (∀ s, Path.isAbsolute (form s) = false) →
      config.prefixes.mapM (checkedPrefix form) = .ok prefixes →
      ∀ start ∈ prefixes, Filter.climbs start = false ∧ Path.isAbsolute start = false := by
    intro form prefixes hform hprefixes start hstart
    obtain ⟨raw, -, hraw⟩ := exists_of_mem_mapM hprefixes hstart
    obtain ⟨hclimbs, rfl⟩ := checkedPrefix_eq_ok_iff.mp hraw
    exact ⟨hclimbs, hform raw⟩
  obtain hf | hf := hf
  · obtain ⟨prefixes, hprefixes, hf⟩ := bind_eq_ok_iff.mp hf
    obtain ⟨patterns, -, hf⟩ := bind_eq_ok_iff.mp hf
    cases hf
    exact hchecked (fun s => Text.isAbsolute_trimStart _) hprefixes
  · obtain ⟨prefixes, hprefixes, hf⟩ := bind_eq_ok_iff.mp hf
    obtain ⟨patterns, -, hf⟩ := bind_eq_ok_iff.mp hf
    cases hf
    exact hchecked (fun s => Text.isAbsolute_trimStart _) hprefixes

/-- A filter that a configuration is compiled to keeps the prefixes from climbing, and has
none if none were asked for. -/
theorem Config.compileClasses_spec {config : Config} {f : Filter}
    (h : config.compileClasses = .ok f) :
    (∀ start ∈ f.prefixes, Filter.climbs start = false) ∧
      (config.prefixes = [] → f.prefixes = []) := by
  refine ⟨fun start hstart => (prefixes_spec (Or.inr h) start hstart).1, fun hnone => ?_⟩
  obtain ⟨prefixes, hprefixes, h⟩ := bind_eq_ok_iff.mp h
  obtain ⟨patterns, -, h⟩ := bind_eq_ok_iff.mp h
  rw [pure_eq_ok_iff] at h
  rw [hnone, List.mapM_nil, pure_eq_ok_iff] at hprefixes
  rw [h, hprefixes]

end Classpath
