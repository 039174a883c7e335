import Mathlib.Data.List.Forall2
import Transliteration.Proofs.Rule.Slices
import Transliteration.Proofs.Scan.Segmentation

/-!
# What a scan consumes

The main pattern of a rule and its conditions say where the rule applies and how much of the text it
takes.  Its replacement and its exceptions say what is written, and nothing else.

`consumption_unaffected` compares two lists of rules that differ in what they write only.  Along any
text they cut off the same segments at the same positions, each by the rule at the same index or by
copying the same character.

## Strategy

The first rule that applies at a position is found from the lengths that the rules would take there,
and these are the same for both lists (`Rule.SameConditions.lengthAt_eq`).  So a segment of the one
scan has a mirror image in the other (`Segment.exists_mirror`), which ends at the same position, and
the simulation goes on from there (`Segmented.exists_mirrored`).  Since rules leave only one way to
cut a text, what is found like that is what the other scan does.
-/

namespace Transliteration

/-! ## What a rule writes -/

/-- All conditions of the exception that are present hold. -/
structure RuleException.Holds (exception : RuleException) (before span after : List Char) :
    Prop where
  span : ∀ pattern ∈ exception.span, pattern.isMatch span = true
  before : ∀ pattern ∈ exception.before, pattern.isMatch before = true
  after : ∀ pattern ∈ exception.after, pattern.isMatch after = true

/-- What a rule writes for a match: the replacement of its first exception that holds, or its own if
none does. -/
inductive Rule.Writes (rule : Rule) (before span after : List Char) : String → Prop
  | exception {earlier later : List RuleException} {exception : RuleException}
      (hexceptions : rule.exceptions = earlier ++ exception :: later)
      (hearlier : ∀ other ∈ earlier, ¬ other.Holds before span after)
      (hholds : exception.Holds before span after) :
      Writes rule before span after exception.replacement
  | own (hnone : ∀ exception ∈ rule.exceptions, ¬ exception.Holds before span after) :
      Writes rule before span after rule.replacement

/-- Both rules ask for the same, so that they differ at most in what they write. -/
structure Rule.SameConditions (first second : Rule) : Prop where
  main_eq : first.main = second.main
  before_eq : first.before = second.before
  after_eq : first.after = second.after

/-- The number of bytes that the rule takes at a position, if it applies there. -/
def Rule.lengthAt? (rule : Rule) (text : List Char) (position : Nat) : Option Nat :=
  (rule.matchAt? text position).map Prod.fst

theorem Rule.holds_iff {condition : Option Pattern} {text : List Char} :
    holds condition text = true ↔ ∀ pattern ∈ condition, pattern.isMatch text = true := by
  cases condition with
  | none => simp [holds]
  | some pattern => simp [holds]

theorem RuleException.applies_iff {exception : RuleException} {before span after : List Char} :
    exception.applies before span after = true ↔ exception.Holds before span after := by
  simp only [applies, Bool.and_eq_true, Rule.holds_iff]
  constructor
  · intro happlies
    exact ⟨happlies.1.1, happlies.1.2, happlies.2⟩
  · intro hholds
    exact ⟨⟨hholds.span, hholds.before⟩, hholds.after⟩

namespace Rule

variable {rule : Rule} {text before span after : List Char} {position : Nat}

theorem writes_replacementFor (rule : Rule) (before span after : List Char) :
    rule.Writes before span after (rule.replacementFor before span after) := by
  unfold replacementFor
  split
  · next exception hfind =>
    obtain ⟨hholds, earlier, later, hexceptions, hearlier⟩ := List.find?_eq_some_iff_append.mp hfind
    apply Writes.exception hexceptions
    · intro other hother
      rw [← RuleException.applies_iff]
      simpa using hearlier other hother
    · exact RuleException.applies_iff.mp hholds
  · next hfind =>
    apply Writes.own
    intro exception hexception
    rw [← RuleException.applies_iff]
    exact List.find?_eq_none.mp hfind exception hexception

/-- What is written for a match at a position is a matter of the parts of the text there. -/
theorem writes_of_matchAt? {replacement : String}
    (hparts : Utf8.splitAt? text position = some (before, span ++ after))
    (hmatch : rule.matchAt? text position = some (Utf8.length span, replacement)) :
    rule.Writes before span after replacement := by
  obtain ⟨front, matched, rest, htext, hfront, hlength, -, -, -, rfl⟩ :=
    matchAt?_eq_some_iff.mp hmatch
  obtain ⟨hsplit, hbefore⟩ := Utf8.splitAt?_eq_some_iff.mp hparts
  obtain ⟨rfl, hrest⟩ := Utf8.eq_of_length_eq (htext.symm.trans hsplit) (hfront.trans hbefore.symm)
  obtain ⟨rfl, rfl⟩ := Utf8.eq_of_length_eq hrest hlength
  exact rule.writes_replacementFor ..

theorem lengthAt?_eq_none_iff : rule.lengthAt? text position = none ↔
    rule.matchAt? text position = none := Option.map_eq_none_iff

theorem SameConditions.width_eq {first second : Rule} (hsame : first.SameConditions second)
    (before rest : List Char) :
    (first.matchBetween? before rest).map RuleMatch.width =
      (second.matchBetween? before rest).map RuleMatch.width := by
  unfold matchBetween?
  rw [hsame.main_eq, hsame.before_eq, hsame.after_eq]
  split
  · rfl
  · dsimp only
    split <;> rfl

theorem SameConditions.lengthAt_eq {first second : Rule} (hsame : first.SameConditions second)
    (text : List Char) (position : Nat) :
    first.lengthAt? text position = second.lengthAt? text position := by
  unfold lengthAt? matchAt?
  split
  · rfl
  · next before rest hsplit =>
    -- the length is read off the width alone
    have hwidth := congrArg (Option.map fun width => Utf8.length (rest.take width))
      (hsame.width_eq before rest)
    rw [Option.map_map, Option.map_map] at hwidth ⊢
    exact hwidth

/-- Lists of rules that ask for the same take the same lengths, rule by rule. -/
theorem map_lengthAt_eq {rules others : List Rule}
    (hsame : List.Forall₂ SameConditions rules others) (text : List Char) (position : Nat) :
    rules.map (fun rule => rule.lengthAt? text position) =
      others.map fun rule => rule.lengthAt? text position := by
  induction hsame with
  | nil => rfl
  | cons hrule _ ih => rw [List.map_cons, List.map_cons, hrule.lengthAt_eq, ih]

/-- Where no rule of a list applies, none does that takes the same lengths. -/
theorem matchAt?_eq_none_of_map_lengthAt_eq {rules others : List Rule}
    (hlengths : rules.map (fun rule => rule.lengthAt? text position) =
      others.map fun rule => rule.lengthAt? text position)
    (hnone : ∀ rule ∈ rules, rule.matchAt? text position = none) :
    ∀ other ∈ others, other.matchAt? text position = none := by
  intro other hother
  have hlength : other.lengthAt? text position ∈
      others.map fun rule => rule.lengthAt? text position := List.mem_map_of_mem hother
  rw [← hlengths] at hlength
  obtain ⟨same, hmem, hsame⟩ := List.mem_map.mp hlength
  rw [lengthAt?_eq_none_iff.mpr (hnone same hmem)] at hsame
  exact lengthAt?_eq_none_iff.mp hsame.symm

end Rule

namespace Scan

/-! ## Mirror images -/

/-- What decides about a segment: the rule at an index, which is the first that applies where the
segment begins and writes the replacement for it, or no rule, and then a character is copied. -/
inductive Segment.Decided (rules : List Rule) (text : List Char) (segment : Segment) :
    Option Nat → Prop
  | replaced {index : Nat} {rule : Rule} {before after : List Char} {replacement : String}
      (hrule : rules[index]? = some rule)
      (hearlier : ∀ other ∈ rules.take index, other.matchAt? text segment.start = none)
      (hmatch : rule.matchAt? text segment.start = some (Utf8.length segment.span, replacement))
      (hparts : Utf8.splitAt? text segment.start = some (before, segment.span ++ after))
      (hwrites : rule.Writes before segment.span after replacement)
      (hwritten : segment.written = replacement.toList) : Decided rules text segment (some index)
  | copied {c : Char} (hnone : ∀ rule ∈ rules, rule.matchAt? text segment.start = none)
      (hspan : segment.span = [c]) (hwritten : segment.written = [c]) :
      Decided rules text segment none

/-- Both segments take in the same part of the text, each by the rule at the same index of its list
or by copying the same character. -/
structure Mirrors (rules others : List Rule) (text : List Char) (segment mirror : Segment) :
    Prop where
  start_eq : mirror.start = segment.start
  span_eq : mirror.span = segment.span
  decided : ∃ decision, segment.Decided rules text decision ∧ mirror.Decided others text decision

theorem Mirrors.stop_eq {rules others : List Rule} {text : List Char} {segment mirror : Segment}
    (hmirrors : Mirrors rules others text segment mirror) : mirror.stop = segment.stop := by
  rw [Segment.stop, Segment.stop, hmirrors.start_eq, hmirrors.span_eq]

theorem Segment.decided_of_replaced {text : List Char} {segment : Segment}
    {earlier later : List Rule} {rule : Rule} {replacement : String}
    (hlies : segment.LiesIn text)
    (hearlier : ∀ other ∈ earlier, other.matchAt? text segment.start = none)
    (hmatch : rule.matchAt? text segment.start = some (Utf8.length segment.span, replacement))
    (hwritten : segment.written = replacement.toList) :
    segment.Decided (earlier ++ rule :: later) text (some earlier.length) := by
  obtain ⟨before, after, hparts⟩ := hlies
  apply Decided.replaced _ _ hmatch hparts (Rule.writes_of_matchAt? hparts hmatch) hwritten
  · rw [List.getElem?_append_right (Nat.le_refl _), Nat.sub_self, List.getElem?_cons_zero]
  · rwa [List.take_left]

section

variable {rules others : List Rule} {text : List Char}

/-- A segment of one scan has a mirror image in the other. -/
theorem Segment.exists_mirror (hsame : List.Forall₂ Rule.SameConditions rules others)
    {segment : Segment} (hlies : segment.LiesIn text)
    (hfits : segment.Replaced rules text ∨ segment.Copied rules text) :
    ∃ mirror : Segment, (mirror.Replaced others text ∨ mirror.Copied others text) ∧
      Mirrors rules others text segment mirror := by
  have hlengths := Rule.map_lengthAt_eq hsame text segment.start
  rcases hfits with ⟨earlier, rule, later, replacement, rfl, hearlier, hmatch, hwritten⟩ |
    ⟨hnone, c, hspan, hwritten⟩
  · -- the other list falls into parts with the same lengths
    rw [List.map_append, List.map_cons, eq_comm] at hlengths
    obtain ⟨earlier', rest, rfl, hfront, hrest⟩ := List.map_eq_append_iff.mp hlengths
    obtain ⟨other, later', rfl, hother, -⟩ := List.map_eq_cons_iff.mp hrest
    have hearlier' : ∀ other ∈ earlier', other.matchAt? text segment.start = none :=
      Rule.matchAt?_eq_none_of_map_lengthAt_eq hfront.symm hearlier
    have hindex : earlier'.length = earlier.length := by
      simpa using congrArg List.length hfront
    have hlength : other.lengthAt? text segment.start = some (Utf8.length segment.span) := by
      rw [hother, Rule.lengthAt?, hmatch]
      rfl
    obtain ⟨⟨_, replacement'⟩, hmatch', rfl⟩ := Option.map_eq_some_iff.mp hlength
    let mirror : Segment := ⟨segment.start, segment.span, replacement'.toList⟩
    refine ⟨mirror, .inl ⟨earlier', other, later', replacement', rfl, hearlier', hmatch', rfl⟩,
      rfl, rfl, some earlier.length, ?_, ?_⟩
    · exact Segment.decided_of_replaced hlies hearlier hmatch hwritten
    · rw [← hindex]
      exact Segment.decided_of_replaced hlies hearlier' hmatch' rfl
  · have hnone' : ∀ other ∈ others, other.matchAt? text segment.start = none :=
      Rule.matchAt?_eq_none_of_map_lengthAt_eq hlengths hnone
    exact ⟨segment, .inr ⟨hnone', c, hspan, hwritten⟩, rfl, rfl, none,
      .copied hnone hspan hwritten, .copied hnone' hspan hwritten⟩

/-- Segment by segment, one scan mirrors the other up to the end of the text. -/
theorem Segmented.exists_mirrored (hsame : List.Forall₂ Rule.SameConditions rules others)
    {position : Nat} {segments : List Segment}
    (hsegments : Segmented rules text position segments) :
    ∃ mirrored, Segmented others text position mirrored ∧
      List.Forall₂ (Mirrors rules others (padded text)) segments mirrored := by
  induction hsegments with
  | done hend => exact ⟨[], .done hend, .nil⟩
  | @step segment rest hstart hlies hfits _ ih =>
      obtain ⟨mirror, hfits', hmirrors⟩ := Segment.exists_mirror hsame hlies hfits
      obtain ⟨mirrored, hmirrored, hrest⟩ := ih
      have hlies' : mirror.LiesIn (padded text) := by
        rw [Segment.LiesIn, hmirrors.start_eq, hmirrors.span_eq]
        exact hlies
      rw [← hmirrors.stop_eq] at hmirrored
      rw [← hmirrors.start_eq] at hstart ⊢
      exact ⟨mirror :: mirrored, .step hstart hlies' hfits' hmirrored, .cons hmirrors hrest⟩

/-- There is one way to cut a text, and the scan writes what is written for it. -/
theorem exists_unique_segmented (rules : List Rule) (text : List Char) :
    ∃ segments, (∀ list, Segmented rules text 1 list ↔ list = segments) ∧
      replace rules text = segments.flatMap Segment.written := by
  obtain ⟨segments, hsegments, hwritten⟩ :=
    exists_segmented rules text _ [sentinel] (text ++ [sentinel]) (Nat.le_refl _) rfl
  refine ⟨segments, fun list => ⟨hsegments.unique list, ?_⟩, hwritten⟩
  rintro rfl
  exact hsegments

end

/-- Replacements and exceptions have no part in what is consumed.

Of two lists whose rules have the same patterns, one by one, corresponding rules apply at the same
positions of any text and take the same number of bytes.  What a rule writes there is the
replacement of its first exception all of whose conditions hold for the parts of the text, or else
its own.  Along any text the two scans cut off the same segments, by the rule at the same index of
each list or by copying the same character, and each writes what its own rules say. -/
theorem consumption_unaffected {rules others : List Rule}
    (hsame : List.Forall₂ Rule.SameConditions rules others) (text : List Char) :
    (∀ position, List.Forall₂ (fun rule other =>
      (rule.matchAt? text position).map Prod.fst = (other.matchAt? text position).map Prod.fst)
        rules others) ∧
    (∀ (rule : Rule) position bytes replacement,
      rule.matchAt? text position = some (bytes, replacement) →
        ∃ before span after, text = before ++ (span ++ after) ∧ Utf8.length before = position ∧
          Utf8.length span = bytes ∧ rule.Writes before span after replacement) ∧
    ∃ segments mirrored,
      (∀ list, Segmented rules text 1 list ↔ list = segments) ∧
      (∀ list, Segmented others text 1 list ↔ list = mirrored) ∧
      replace rules text = segments.flatMap Segment.written ∧
      replace others text = mirrored.flatMap Segment.written ∧
      List.Forall₂ (Mirrors rules others (padded text)) segments mirrored := by
  refine ⟨?_, ?_, ?_⟩
  · intro position
    exact hsame.imp fun _ _ hrule => hrule.lengthAt_eq text position
  · intro rule position bytes replacement hmatch
    obtain ⟨before, span, after, htext, hbefore, hspan, -, -, -, rfl⟩ :=
      Rule.matchAt?_eq_some_iff.mp hmatch
    exact ⟨before, span, after, htext, hbefore, hspan, rule.writes_replacementFor ..⟩
  · obtain ⟨segments, hsegments, hwritten⟩ := exists_unique_segmented rules text
    obtain ⟨mirrored, hmirrored, hwritten'⟩ := exists_unique_segmented others text
    -- the mirrored list fits the other rules, and only one list does
    obtain ⟨found, hfound, hmirrors⟩ := ((hsegments segments).mpr rfl).exists_mirrored hsame
    obtain rfl := (hmirrored found).mp hfound
    exact ⟨segments, found, hsegments, hmirrored, hwritten, hwritten', hmirrors⟩

/-- Of two rules for `ab` one always writes `1`; the other writes nothing, except for a longer text
before `c`. -/
theorem consumption_unaffected_exception :
    ∃ main after, Pattern.compile "ab" .start = .ok main ∧ Pattern.compile "c" .start = .ok after ∧
      let rule : Rule := { main, replacement := "1" }
      let other : Rule :=
        { main, replacement := "", exceptions := [{ after := some after, replacement := "two " }] }
      List.Forall₂ Rule.SameConditions [rule] [other] ∧
        replace [rule] "abcab".toList = "1c1".toList ∧
        replace [other] "abcab".toList = "two c".toList ∧
        ∃ segments mirrored, Segmented [rule] "abcab".toList 1 segments ∧
          Segmented [other] "abcab".toList 1 mirrored ∧
          List.Forall₂ (Mirrors [rule] [other] (padded "abcab".toList)) segments mirrored := by
  -- the patterns are compiled once for everything that is evaluated
  have hrun : (Pattern.compile "ab" .start).toOption.bind (fun main =>
      (Pattern.compile "c" .start).toOption.map fun after =>
        (replace [{ main, replacement := "1" }] "abcab".toList,
          replace [{ main, replacement := "",
                     exceptions := [{ after := some after, replacement := "two " }] }]
            "abcab".toList)) = some ("1c1".toList, "two c".toList) := by
    decide +kernel
  cases hmain : Pattern.compile "ab" .start with
  | error error => rw [hmain] at hrun; cases hrun
  | ok main =>
      cases hafter : Pattern.compile "c" .start with
      | error error => rw [hmain, hafter] at hrun; cases hrun
      | ok after =>
          rw [hmain, hafter] at hrun
          obtain ⟨hwritten, hwritten'⟩ := Prod.mk.inj (Option.some.inj hrun)
          refine ⟨main, after, rfl, rfl, ?_⟩
          intro rule other
          have hsame : List.Forall₂ Rule.SameConditions [rule] [other] := .cons ⟨rfl, rfl, rfl⟩ .nil
          obtain ⟨-, -, segments, mirrored, hsegments, hmirrored, -, -, hmirrors⟩ :=
            consumption_unaffected hsame "abcab".toList
          exact ⟨hsame, hwritten, hwritten', segments, mirrored, (hsegments segments).mpr rfl,
            (hmirrored mirrored).mpr rfl, hmirrors⟩

end Scan

end Transliteration
