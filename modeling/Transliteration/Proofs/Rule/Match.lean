import Transliteration.Proofs.Text.Position
import Transliteration.Rule

/-!
# When a rule applies

`matchBetween?_eq_some_iff` lists what has to hold for a rule to apply between two parts of a text,
and what the answer then is.  `matchAt?_eq` says the same of a position: where a character begins
there, the rule is asked between the parts before and after it, and elsewhere no rule applies.
-/

namespace Transliteration

namespace Pattern

/-- A match that ends where the text begins does not count. -/
theorem matchLength?_eq_some_iff {pattern : Pattern} {text : List Char} {width : Nat} :
    pattern.matchLength? text = some width ↔
      0 < width ∧ ∃ span, pattern.regex.find? text = some span ∧ span.stop = width := by
  unfold matchLength?
  rw [Option.filter_eq_some_iff, Option.map_eq_some_iff]
  simp [and_comm]

end Pattern

namespace Rule

/-- A rule applies if its main pattern matches and its conditions on the text before and after the
match hold. -/
theorem matchBetween?_eq_some_iff {rule : Rule} {before rest : List Char} {found : RuleMatch} :
    rule.matchBetween? before rest = some found ↔
      rule.main.matchLength? rest = some found.width ∧
      holds rule.before before = true ∧ holds rule.after (rest.drop found.width) = true ∧
      found.replacement =
        rule.replacementFor before (rest.take found.width) (rest.drop found.width) := by
  obtain ⟨width, replacement⟩ := found
  unfold matchBetween?
  cases hlength : rule.main.matchLength? rest with
  | none => simp
  | some length =>
      simp only [Option.ite_none_right_eq_some, Bool.and_eq_true, Option.some.injEq,
        RuleMatch.mk.injEq]
      constructor
      · rintro ⟨⟨hbefore, hafter⟩, rfl, rfl⟩
        exact ⟨rfl, hbefore, hafter, rfl⟩
      · rintro ⟨rfl, hbefore, hafter, rfl⟩
        exact ⟨⟨hbefore, hafter⟩, rfl, rfl⟩

/-- A rule that applies replaces at least one character. -/
theorem width_pos {rule : Rule} {before rest : List Char} {found : RuleMatch}
    (hfound : rule.matchBetween? before rest = some found) : 0 < found.width :=
  (Pattern.matchLength?_eq_some_iff.mp (matchBetween?_eq_some_iff.mp hfound).1).1

/-- At the position between two parts of a text a rule applies as it does between them. -/
theorem matchAt?_append (rule : Rule) (before rest : List Char) :
    rule.matchAt? (before ++ rest) (Utf8.length before) =
      (rule.matchBetween? before rest).map fun found =>
        (Utf8.length (rest.take found.width), found.replacement) := by
  rw [matchAt?, Utf8.splitAt?_append]

end Rule

end Transliteration
