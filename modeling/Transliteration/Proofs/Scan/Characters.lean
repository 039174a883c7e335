import Transliteration.Proofs.Json.Scalars
import Transliteration.Proofs.Pattern.Character
import Transliteration.Proofs.RuleSet.Isolation

/-!
# Rules for single characters

Where the main pattern of every rule is one character, a scan writes one piece after another for the
characters of a text (`Scan.exists_pieces`).  The piece for a character is one of the replacements
of a rule for that character, or the character itself.  A character is copied only if every rule for
it asks for something of the text around it.

## Strategy

A rule for one character replaces that character and never more, so a scan asks the rules at every
character of the text (`Scan.exists_piece`), and the pieces follow by induction on the text.
-/

namespace Transliteration

/-! ## Rules -/

namespace Rule

/-- All that the rule may write for a match. -/
def replacements (rule : Rule) : List String :=
  rule.replacement :: rule.exceptions.map RuleException.replacement

/-- The rule asks for nothing before or after a match. -/
def Unconditional (rule : Rule) : Prop :=
  ∀ text, holds rule.before text = true ∧ holds rule.after text = true

variable {rule : Rule} {c : Char} {before : List Char}

theorem replacementFor_mem (rule : Rule) (before span after : List Char) :
    rule.replacementFor before span after ∈ rule.replacements := by
  unfold replacementFor replacements
  split
  · next exception hexception =>
    exact List.mem_cons_of_mem _ (List.mem_map_of_mem (List.mem_of_find?_eq_some hexception))
  · exact List.mem_cons_self ..

theorem Alike.replacements_eq {other : Rule} (halike : rule.Alike other) :
    rule.replacements = other.replacements := by
  have hexceptions : rule.exceptions.map RuleException.replacement =
      other.exceptions.map RuleException.replacement := by
    rw [← List.forall₂_eq_eq_eq, List.forall₂_map_left_iff, List.forall₂_map_right_iff]
    exact halike.exceptions.imp fun _ _ hexception => hexception.replacement_eq
  rw [replacements, replacements, halike.replacement_eq, hexceptions]

/-- A rule for one character replaces that character and no more. -/
theorem of_matchBetween?_eq_some (hmain : rule.main.MatchesOnly c) {first : Char}
    {rest : List Char} {found : RuleMatch}
    (hfound : rule.matchBetween? before (first :: rest) = some found) :
    first = c ∧ found.width = 1 ∧ found.replacement ∈ rule.replacements := by
  obtain ⟨hlength, -, -, hreplacement⟩ := matchBetween?_eq_some_iff.mp hfound
  rw [hmain, List.head?_cons] at hlength
  split_ifs at hlength with hfirst
  exact ⟨Option.some.inj hfirst, (Option.some.inj hlength).symm,
    hreplacement ▸ rule.replacementFor_mem ..⟩

theorem isSome_matchBetween? (hmain : rule.main.MatchesOnly c) (hrule : rule.Unconditional)
    (before rest : List Char) : (rule.matchBetween? before (c :: rest)).isSome = true := by
  have hlength : rule.main.matchLength? (c :: rest) = some 1 := by
    rw [hmain, List.head?_cons, if_pos rfl]
  rw [matchBetween?, hlength]
  simp [(hrule before).1, (hrule rest).2]

end Rule

/-! ## Records -/

/-- All that the declared rule may write for a match. -/
def RuleRecord.replacements (record : RuleRecord) : List String :=
  record.replacement :: record.exceptions.map ExceptionRecord.replacement

theorem ExceptionRecord.replacements_of_mapM {records : List ExceptionRecord}
    {exceptions : List RuleException} (hbuild : records.mapM build = .ok exceptions) :
    exceptions.map RuleException.replacement = records.map replacement := by
  induction records generalizing exceptions with
  | nil => cases hbuild; rfl
  | cons record records ih =>
      rw [List.mapM_cons] at hbuild
      obtain ⟨exception, hexception, hbuild⟩ := exists_of_bind_eq_ok hbuild
      obtain ⟨others, hothers, hresult⟩ := exists_of_bind_eq_ok hbuild
      cases hresult
      rw [build_eq] at hexception
      obtain ⟨span, -, hexception⟩ := exists_of_bind_eq_ok hexception
      obtain ⟨before, -, hexception⟩ := exists_of_bind_eq_ok hexception
      obtain ⟨after, -, hresult⟩ := exists_of_bind_eq_ok hexception
      cases hresult
      rw [List.map_cons, List.map_cons, ih hothers]

/-- The rule is the one that is declared. -/
structure RuleRecord.Declares (record : RuleRecord) (rule : Rule) : Prop where
  main : Pattern.compile record.main .start = .ok rule.main
  replacements_eq : rule.replacements = record.replacements
  unconditional : record.before = none → record.after = none → rule.Unconditional

theorem RuleRecord.declares_of_rule?_eq_some {record : RuleRecord} {rule : Rule}
    (hrule : record.rule? = some rule) : record.Declares rule := by
  have hcompile : (record.compile.run {}).1 = .ok rule := by
    unfold rule? at hrule
    cases hrun : (record.compile.run {}).1 with
    | error error => rw [hrun] at hrule; cases hrule
    | ok found => rw [hrun] at hrule; cases hrule; rfl
  -- the rule is compiled by way of a cache, which agrees with building it piece by piece
  have hsame := (record.agrees_build {} PatternCache.faithful_empty).1
  obtain ⟨built, hbuilt⟩ := hsame.exists_ok_iff.mp ⟨rule, hcompile⟩
  have halike := hsame.related hcompile hbuilt
  rw [build_eq] at hbuilt
  obtain ⟨main, hmain, hbuilt⟩ := exists_of_bind_eq_ok hbuilt
  obtain ⟨before, hbefore, hbuilt⟩ := exists_of_bind_eq_ok hbuilt
  obtain ⟨after, hafter, hbuilt⟩ := exists_of_bind_eq_ok hbuilt
  obtain ⟨exceptions, hexceptions, hresult⟩ := exists_of_bind_eq_ok hbuilt
  cases hresult
  refine ⟨?_, ?_, ?_⟩
  · rw [halike.main_eq, hmain]
  · rw [halike.replacements_eq, Rule.replacements, RuleRecord.replacements,
      ExceptionRecord.replacements_of_mapM hexceptions]
  · intro hnoBefore hnoAfter text
    rw [halike.before, halike.after]
    rw [hnoBefore] at hbefore
    rw [hnoAfter] at hafter
    cases hbefore
    cases hafter
    exact ⟨rfl, rfl⟩

theorem RuleRecord.Declares.matchesOnly {record : RuleRecord} {rule : Rule}
    (hdeclares : record.Declares rule) {c : Char} (hplain : Regex.IsPlain c)
    (hmain : record.main.toList = [c]) : rule.main.MatchesOnly c := by
  obtain ⟨pattern, hcompile, honly⟩ := Pattern.exists_compile_character hplain hmain
  obtain rfl : pattern = rule.main := Except.ok.inj (hcompile.symm.trans hdeclares.main)
  exact honly

/-! ## Along a text -/

namespace Scan

variable {rules : List Rule}

/-- What rules for single characters may write for a character. -/
inductive Writes (rules : List Rule) (c : Char) : List Char → Prop
  | replaced {rule : Rule} {replacement : String} (hrule : rule ∈ rules)
      (hmain : rule.main.MatchesOnly c) (hreplacement : replacement ∈ rule.replacements) :
      Writes rules c replacement.toList
  | copied (hrules : ∀ rule ∈ rules, rule.main.MatchesOnly c → ¬ rule.Unconditional) :
      Writes rules c [c]

/-- At a character within the text the scan writes a piece for that character and goes on behind
it. -/
theorem exists_piece (hrules : ∀ rule ∈ rules, ∃ c, rule.main.MatchesOnly c)
    (before : List Char) (c next : Char) (rest : List Char) :
    ∃ piece, Writes rules c piece ∧
      replaceFrom rules before (c :: next :: rest) 0 =
        piece ++ replaceFrom rules (before ++ [c]) (next :: rest) 0 := by
  cases hfirst : firstMatch? rules before (c :: next :: rest) with
  | some found =>
      obtain ⟨rule, hrule, hfound⟩ := List.exists_of_findSome?_eq_some hfirst
      obtain ⟨_, hmain⟩ := hrules rule hrule
      obtain ⟨rfl, hwidth, hreplacement⟩ := Rule.of_matchBetween?_eq_some hmain hfound
      refine ⟨found.replacement.toList, .replaced hrule hmain hreplacement, ?_⟩
      rw [replaceFrom, hfirst]
      simp only [hwidth, Nat.sub_self]
  | none =>
      refine ⟨[c], .copied fun rule hrule hmain hunconditional => ?_, ?_⟩
      · have hnone := List.findSome?_eq_none_iff.mp hfirst rule hrule
        have hsome := Rule.isSome_matchBetween? hmain hunconditional before (next :: rest)
        rw [hnone] at hsome
        cases hsome
      · rw [replaceFrom, hfirst]
        rfl

theorem exists_pieces_from (hrules : ∀ rule ∈ rules, ∃ c, rule.main.MatchesOnly c)
    (before text : List Char) :
    ∃ pieces, List.Forall₂ (Writes rules) text pieces ∧
      replaceFrom rules before (text ++ [sentinel]) 0 = pieces.flatten := by
  induction text generalizing before with
  | nil => exact ⟨[], .nil, rfl⟩
  | cons c text ih =>
      obtain ⟨pieces, hpieces, hwritten⟩ := ih (before ++ [c])
      -- because of the sentinel another character follows this one
      obtain ⟨next, rest, hrest⟩ := List.exists_cons_of_ne_nil
        (List.append_ne_nil_of_right_ne_nil text (List.cons_ne_nil sentinel []))
      obtain ⟨piece, hpiece, hstep⟩ := exists_piece hrules before c next rest
      refine ⟨piece :: pieces, .cons hpiece hpieces, ?_⟩
      rw [List.cons_append, List.flatten_cons, ← hwritten, hrest, hstep]

/-- Rules for single characters write one piece after another for the characters of a text. -/
theorem exists_pieces (hrules : ∀ rule ∈ rules, ∃ c, rule.main.MatchesOnly c)
    (text : List Char) :
    ∃ pieces, List.Forall₂ (Writes rules) text pieces ∧ replace rules text = pieces.flatten :=
  exists_pieces_from hrules [sentinel] text

end Scan

end Transliteration
