import Classpath.Filter
import Classpath.Proofs.Anchoring

/-!
# Patterns Match Whole Names

A pattern matches the names that its source describes as a whole, from the first character to the
last, and the source is an expression of its own. This holds of every source that can be compiled
and closes no group that it does not open (`Pattern.isMatch_iff_describes`).

A source that does close one, such as `a)|(b`, is no expression, and yet it may be compiled: the
group that it closes is the one around it. Then an anchor is left in each branch, and names match of
which only the beginning or the end is described (`Pattern.isMatch_beginning`).

## Main results

* `Regex.occurs_seqs_anchors`: an expression between the two ends of a text.
* `Pattern.isMatch_iff_describes`: the names that a pattern matches.
* `Pattern.compile_classFileSource`: what the pattern for names of class files is compiled to.
-/

namespace Classpath

namespace Regex

/-- Whether an expression describes a name as a whole. -/
def Describes (r : Regex) (name : String) : Prop :=
  let text := name.toList.toArray
  Spans text r 0 text.size

/-- The condition for the beginning of a text holds at its first position and at no other. -/
theorem textStart_holds_iff {text : Array Char} {i : Nat} (h : i ≤ text.size) {o : Option Char} :
    Look.textStart.holds (before text i) o = true ↔ i = 0 := by
  unfold before
  split
  · simp [Look.holds, *]
  · rename_i hi
    have hlt : i - 1 < text.size := by omega
    simp [Look.holds, hi, hlt]

/-- The condition for the end of a text holds behind its last character and nowhere else. -/
theorem textEnd_holds_iff {text : Array Char} {i : Nat} (h : i ≤ text.size) {o : Option Char} :
    Look.textEnd.holds o text[i]? = true ↔ i = text.size := by
  rw [Look.holds, Option.isNone_iff_eq_none, Array.getElem?_eq_none_iff]
  omega

/-- **Between the two ends of a text** an expression occurs if it describes all of it. -/
theorem occurs_seqs_anchors {r : Regex} (h : r.Limited) (name : String) :
    (seqs [.look .textStart, r, .look .textEnd]).occurs name = true ↔ r.Describes name := by
  have hlimited : (seqs [.look .textStart, r, .look .textEnd]).Limited := ⟨trivial, h, trivial⟩
  rw [occurs_iff hlimited]
  unfold Occurs Describes
  constructor
  · rintro ⟨i, j, hi, k, ⟨rfl, hstart⟩, l, hspans, rfl, hend⟩
    obtain rfl := (textStart_holds_iff hi).mp hstart
    obtain rfl := (textEnd_holds_iff ((leads_ends h).le_size hi hspans)).mp hend
    exact hspans
  · intro hspans
    exact ⟨0, _, Nat.zero_le _, 0, ⟨rfl, (textStart_holds_iff (Nat.zero_le _)).mpr rfl⟩, _, hspans,
      rfl, (textEnd_holds_iff (Nat.le_refl _)).mpr rfl⟩

end Regex

namespace Pattern

/-- What an anchored source spells is the expression of the compiled pattern. -/
theorem compile_of_parse {source : String} {r : Regex} (h : Regex.parse (anchored source) = .ok r) :
    compile source = .ok ⟨source, r⟩ := by
  rw [compile, h]
  rfl

/-- **A pattern matches whole names.** Of every source that can be compiled and closes no group that
it does not open: it is an expression of its own, a name matches if that expression describes it
from its first character to its last, and a filter with the pattern accepts only such names. -/
theorem isMatch_iff_describes {source : String} {p : Pattern} (h : compile source = .ok p)
    (hopened : Regex.parse source ≠ .error .unopenedGroup) :
    ∃ r, Regex.parse source = .ok r ∧
      (∀ name, p.isMatch name = true ↔ r.Describes name) ∧
      ∀ f : Filter, p ∈ f.patterns → ∀ name, f.accepts name = true → r.Describes name := by
  obtain ⟨r, hparse, hregex⟩ | hunopened := regex_of_compile h
  · have hmatch : ∀ name, p.isMatch name = true ↔ r.Describes name := by
      intro name
      rw [isMatch, hregex, Regex.occurs_seqs_anchors (Regex.limited_of_parse hparse)]
    refine ⟨r, hparse, hmatch, fun f hp name haccepts => ?_⟩
    obtain ⟨-, hall⟩ := (Bool.and_eq_true _ _).mp haccepts
    exact (hmatch name).mp (List.all_eq_true.mp hall p hp)
  · exact absurd hunopened hopened

/-- The expression that `a|ab` spells. -/
def alternation : Regex :=
  .alt (.chars (.single 'a')) (.seq (.chars (.single 'a')) (.chars (.single 'b')))

/-- The pattern of that source. -/
def alternationPattern : Pattern where
  source := "a|ab"
  regex := .seqs [.look .textStart, alternation, .look .textEnd]

/-- All of `ab` is described by the second branch of `a|ab`, and all of `abc` by neither. -/
theorem isMatch_iff_describes_alternation :
    ∃ p r, compile "a|ab" = .ok p ∧ Regex.parse "a|ab" = .ok r ∧
      r.Describes "ab" ∧ ¬r.Describes "abc" := by
  have hp : compile "a|ab" = .ok alternationPattern := compile_of_parse (by decide +kernel)
  have hparse : Regex.parse "a|ab" = .ok alternation := by decide +kernel
  have hshort : alternationPattern.isMatch "ab" = true := by decide +kernel
  have hlong : alternationPattern.isMatch "abc" = false := by decide +kernel
  obtain ⟨r, hr, hmatch, -⟩ := isMatch_iff_describes hp (by simp [hparse])
  refine ⟨_, r, hp, hr, (hmatch "ab").mp hshort, fun hdescribes => ?_⟩
  exact Bool.false_ne_true (hlong.symm.trans ((hmatch "abc").mpr hdescribes))

/-- A source that closes the group around it is no expression, but it is compiled, and it matches
what begins with its first branch. -/
theorem isMatch_beginning :
    ∃ p, compile "a)|(b" = .ok p ∧ Regex.parse "a)|(b" = .error .unopenedGroup ∧
      p.isMatch "axx" = true :=
  ⟨⟨"a)|(b", .alt (.seq (.look .textStart) (.chars (.single 'a')))
    (.seq (.chars (.single 'b')) (.look .textEnd))⟩, compile_of_parse (by decide +kernel),
    by decide +kernel, by decide +kernel⟩

/-- The pattern for names of class files is compiled as it is composed. -/
theorem compile_classFileSource : compile classFileSource = .ok classFiles :=
  compile_of_parse (by decide +kernel)

end Pattern

end Classpath
