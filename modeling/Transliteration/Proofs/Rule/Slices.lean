import Transliteration.Proofs.Regex.Search
import Transliteration.Proofs.Rule.Match

/-!
# Slices of a text

A rule is applied at a position by taking slices of the text: what follows the position, what the
main pattern matches of it, and what comes before and after the match.  The ends of the last three
come from the match, and to ask for a slice that does not exist would be a fault.

`Rule.safe_at_every_position` says that this never happens, whatever the rule, the text and the
position are: the slices exist, the match has at least one byte and ends on a character boundary of
the text, and the rule sees nothing of the text but its slices.

## Strategy

A search finds nothing outside of the text that it is given (`Regex.stop_le_length_of_find?`), so a
match of the main pattern is a beginning of what follows the position
(`Pattern.matchBytes?_eq_some_iff`).  The text then falls into three parts, and each of the slices
is one or two of them (`Rule.applySlices_eq`).
-/

namespace Transliteration

namespace Utf8

/-! ## Boundaries and slices -/

/-- A character begins at the position, or the text ends there. -/
def IsBoundary (text : List Char) (position : Nat) : Prop :=
  ∃ before after, text = before ++ after ∧ length before = position

/-- The slice of a text between two positions.  There is none if the positions are in the wrong
order, or if one of them is within a character or beyond the end. -/
def slice? (text : List Char) (start stop : Nat) : Option (List Char) :=
  if start ≤ stop then do
    let (_, rest) ← splitAt? text start
    let (slice, _) ← splitAt? rest (stop - start)
    return slice
  else none

/-- The slice of a text between two positions, if it is a fault that there is none. -/
def slice (text : List Char) (start stop : Nat) : Except (Nat × Nat) (List Char) :=
  match slice? text start stop with
  | some part => .ok part
  | none => .error (start, stop)

variable {text before part after : List Char} {start stop position : Nat}

theorem IsBoundary.le_length (hboundary : IsBoundary text position) : position ≤ length text := by
  obtain ⟨before, after, rfl, rfl⟩ := hboundary
  rw [length_append]
  exact Nat.le_add_right ..

theorem isBoundary_iff :
    IsBoundary text position ↔ ∃ parts, splitAt? text position = some parts := by
  simp only [IsBoundary, Prod.exists, splitAt?_eq_some_iff]

/-- A slice is a part of the text that begins and ends at the two positions. -/
theorem slice?_eq_some_iff :
    slice? text start stop = some part ↔
      ∃ before after, text = before ++ (part ++ after) ∧ length before = start ∧
        start + length part = stop := by
  unfold slice?
  constructor
  · intro hslice
    obtain ⟨hle, hslice⟩ := Option.ite_none_right_eq_some.mp hslice
    obtain ⟨⟨before, rest⟩, hsplit, hslice⟩ := Option.bind_eq_some_iff.mp hslice
    obtain ⟨⟨slice, after⟩, hsplit', hslice⟩ := Option.bind_eq_some_iff.mp hslice
    cases hslice
    obtain ⟨rfl, hbefore⟩ := splitAt?_eq_some_iff.mp hsplit
    obtain ⟨rfl, hpart⟩ := splitAt?_eq_some_iff.mp hsplit'
    exact ⟨before, after, rfl, hbefore, by omega⟩
  · rintro ⟨before, after, rfl, rfl, rfl⟩
    rw [if_pos (Nat.le_add_right ..), splitAt?_append, Nat.add_sub_cancel_left]
    simp [splitAt?_append]

theorem slice_eq_ok (htext : text = before ++ (part ++ after)) (hbefore : length before = start)
    (hpart : start + length part = stop) : slice text start stop = .ok part := by
  have hslice : slice? text start stop = some part :=
    slice?_eq_some_iff.mpr ⟨before, after, htext, hbefore, hpart⟩
  rw [slice, hslice]

/-- What follows a position is a slice if the position is a boundary. -/
theorem slice?_rest_eq_some_iff :
    slice? text position (length text) = some part ↔
      ∃ before, text = before ++ part ∧ length before = position := by
  rw [slice?_eq_some_iff]
  constructor
  · rintro ⟨before, after, rfl, hbefore, hend⟩
    have hafter : after = [] := by
      by_contra hne
      have hpos := length_pos hne
      simp only [length_append] at hend
      omega
    exact ⟨before, by rw [hafter, List.append_nil], hbefore⟩
  · rintro ⟨before, rfl, rfl⟩
    exact ⟨before, [], by rw [List.append_nil], rfl, (length_append ..).symm⟩

end Utf8

/-! ## Matches of a pattern -/

namespace Pattern

variable {pattern : Pattern} {text : List Char} {bytes : Nat}

theorem matchLength?_le_length {width : Nat} (hlength : pattern.matchLength? text = some width) :
    width ≤ text.length := by
  obtain ⟨-, span, hfind, rfl⟩ := matchLength?_eq_some_iff.mp hlength
  exact Regex.stop_le_length_of_find? hfind

/-- The length of a match is that of a beginning of the text, which is not empty. -/
theorem matchBytes?_eq_some_iff :
    pattern.matchBytes? text = some bytes ↔
      ∃ span rest, text = span ++ rest ∧ Utf8.length span = bytes ∧ span ≠ [] ∧
        pattern.matchLength? text = some span.length := by
  unfold matchBytes?
  rw [Option.map_eq_some_iff]
  constructor
  · rintro ⟨width, hwidth, rfl⟩
    have hle := matchLength?_le_length hwidth
    have hpos := (matchLength?_eq_some_iff.mp hwidth).1
    have hlength : (text.take width).length = width := by
      rw [List.length_take]
      omega
    refine ⟨text.take width, text.drop width, (List.take_append_drop ..).symm, rfl, ?_, ?_⟩
    · apply List.ne_nil_of_length_pos
      rw [hlength]
      exact hpos
    · rw [hlength, hwidth]
  · rintro ⟨span, rest, rfl, rfl, -, hwidth⟩
    exact ⟨span.length, hwidth, by rw [List.take_left]⟩

end Pattern

/-! ## Rules -/

namespace Rule

/-- Applies the rule at a position by slices of the text.  A position that nothing can follow leads
to no match; any other slice has to exist. -/
def applySlices (rule : Rule) (text : List Char) (cursor : Nat) :
    Except (Nat × Nat) (Option (Nat × String)) :=
  match Utf8.slice? text cursor (Utf8.length text) with
  | none => .ok none
  | some rest =>
    match rule.main.matchBytes? rest with
    | none => .ok none
    | some bytes => do
      let span ← Utf8.slice text cursor (cursor + bytes)
      let before ← Utf8.slice text 0 cursor
      let after ← Utf8.slice text (cursor + bytes) (Utf8.length text)
      if holds rule.before before && holds rule.after after then
        return some (bytes, rule.replacementFor before span after)
      else return none

variable {rule : Rule} {text before span after rest : List Char} {cursor bytes : Nat}

theorem matchAt?_of_not_isBoundary (hcursor : ¬ Utf8.IsBoundary text cursor) :
    rule.matchAt? text cursor = none := by
  rw [Utf8.isBoundary_iff, not_exists] at hcursor
  have hnone : Utf8.splitAt? text cursor = none := Option.eq_none_iff_forall_ne_some.mpr hcursor
  rw [matchAt?, hnone]

/-- Where the main pattern does not match, the rule does not apply. -/
theorem matchAt?_of_not_matches (hmain : rule.main.matchBytes? rest = none) :
    rule.matchAt? (before ++ rest) (Utf8.length before) = none := by
  have hwidth : rule.main.matchLength? rest = none := Option.map_eq_none_iff.mp hmain
  rw [matchAt?_append, matchBetween?, hwidth]
  rfl

/-- Where the main pattern matches, the rest is a question about the three parts of the text. -/
theorem matchAt?_of_matches (hmain : rule.main.matchBytes? (span ++ after) = some bytes)
    (hspan : Utf8.length span = bytes) :
    rule.matchAt? (before ++ (span ++ after)) (Utf8.length before) =
      if holds rule.before before && holds rule.after after then
        some (bytes, rule.replacementFor before span after)
      else none := by
  obtain ⟨matched, left, hparts, hmatched, -, hwidth⟩ := Pattern.matchBytes?_eq_some_iff.mp hmain
  obtain ⟨rfl, rfl⟩ := Utf8.eq_of_length_eq hparts (hspan.trans hmatched.symm)
  rw [matchAt?_append, matchBetween?, hwidth]
  simp only [List.take_left, List.drop_left]
  split
  · rw [Option.map_some, List.take_left, hspan]
  · rfl

/-- No slice that a rule asks for is missing, and the answer is that of the rule. -/
theorem applySlices_eq (rule : Rule) (text : List Char) (cursor : Nat) :
    rule.applySlices text cursor = .ok (rule.matchAt? text cursor) := by
  unfold applySlices
  cases hrest : Utf8.slice? text cursor (Utf8.length text) with
  | none =>
      -- The slice from the position on exists exactly if the position is a boundary.
      have hcursor : ¬ Utf8.IsBoundary text cursor := by
        rintro ⟨before, after, htext, hbefore⟩
        have hsome := Utf8.slice?_rest_eq_some_iff.mpr ⟨before, htext, hbefore⟩
        rw [hrest] at hsome
        cases hsome
      rw [matchAt?_of_not_isBoundary hcursor]
  | some rest =>
      obtain ⟨before, rfl, rfl⟩ := Utf8.slice?_rest_eq_some_iff.mp hrest
      cases hmain : rule.main.matchBytes? rest with
      | none => simp only [hmain, matchAt?_of_not_matches hmain]
      | some bytes =>
          obtain ⟨span, after, rfl, hspan, -, -⟩ := Pattern.matchBytes?_eq_some_iff.mp hmain
          -- The match ends at a boundary too, so the other three slices exist.
          have hmatched : Utf8.slice (before ++ (span ++ after)) (Utf8.length before)
              (Utf8.length before + bytes) = .ok span :=
            Utf8.slice_eq_ok rfl rfl (by rw [hspan])
          have hbefore : Utf8.slice (before ++ (span ++ after)) 0 (Utf8.length before) =
              .ok before :=
            Utf8.slice_eq_ok (List.nil_append _).symm rfl (Nat.zero_add _)
          have hafter : Utf8.slice (before ++ (span ++ after)) (Utf8.length before + bytes)
              (Utf8.length (before ++ (span ++ after))) = .ok after := by
            have htext : before ++ (span ++ after) = (before ++ span) ++ (after ++ []) := by
              rw [List.append_nil, List.append_assoc]
            apply Utf8.slice_eq_ok htext
            · rw [Utf8.length_append, hspan]
            · simp only [Utf8.length_append, hspan, Nat.add_assoc]
          simp only [hmain, hmatched, hbefore, hafter, matchAt?_of_matches hmain hspan]
          exact apply_ite Except.ok _ _ _ |>.symm

/-- A rule applies at a position if the text falls into three parts there, of which the main pattern
matches the second one, and the answer depends on nothing else. -/
theorem matchAt?_eq_some_iff {replacement : String} :
    rule.matchAt? text cursor = some (bytes, replacement) ↔
      ∃ before span after, text = before ++ (span ++ after) ∧ Utf8.length before = cursor ∧
        Utf8.length span = bytes ∧ rule.main.matchBytes? (span ++ after) = some bytes ∧
        holds rule.before before = true ∧ holds rule.after after = true ∧
        replacement = rule.replacementFor before span after := by
  constructor
  · intro hmatch
    -- a rule that applies does so at a boundary, which gives the parts of the text
    have hcursor : Utf8.IsBoundary text cursor := by
      by_contra hcursor
      rw [matchAt?_of_not_isBoundary hcursor] at hmatch
      cases hmatch
    obtain ⟨before, rest, rfl, rfl⟩ := hcursor
    cases hmain : rule.main.matchBytes? rest with
    | none =>
        rw [matchAt?_of_not_matches hmain] at hmatch
        cases hmatch
    | some length =>
        obtain ⟨span, after, rfl, hspan, -, -⟩ := Pattern.matchBytes?_eq_some_iff.mp hmain
        rw [matchAt?_of_matches hmain hspan, Option.ite_none_right_eq_some, Bool.and_eq_true]
          at hmatch
        obtain ⟨⟨hbefore, hafter⟩, hanswer⟩ := hmatch
        cases hanswer
        exact ⟨before, span, after, rfl, rfl, hspan, hmain, hbefore, hafter, rfl⟩
  · rintro ⟨before, span, after, rfl, rfl, hspan, hmain, hbefore, hafter, rfl⟩
    rw [matchAt?_of_matches hmain hspan, hbefore, hafter]
    rfl

/-- How much a rule replaces depends on what comes before only through its condition on that. -/
theorem matchAt?_replace_before {other : List Char} (hbefore : holds rule.before before = true)
    (hother : holds rule.before other = true) (rest : List Char) :
    (rule.matchAt? (other ++ rest) (Utf8.length other)).map Prod.fst =
      (rule.matchAt? (before ++ rest) (Utf8.length before)).map Prod.fst := by
  cases hmain : rule.main.matchBytes? rest with
  | none => rw [matchAt?_of_not_matches hmain, matchAt?_of_not_matches hmain]
  | some bytes =>
      obtain ⟨span, after, rfl, hspan, -, -⟩ := Pattern.matchBytes?_eq_some_iff.mp hmain
      rw [matchAt?_of_matches hmain hspan, matchAt?_of_matches hmain hspan, hbefore, hother]
      split <;> rfl

/-- Rules are safe to apply at every position.

At a position that is beyond the end of the text or within a character no rule applies.  Taking the
text into slices by the positions that come from the match of the main pattern never asks for one
that does not exist.  Where a rule applies it takes at least one byte and ends at a boundary within
the text.  It applies if and only if the main pattern, which is told what follows the position and
nothing else, matches a beginning of that, and the conditions hold for the parts before and after.
So the same length is taken after any other beginning of the text for which the condition holds. -/
theorem safe_at_every_position (rule : Rule) (text : List Char) (cursor : Nat) :
    (Utf8.length text < cursor ∨ ¬ Utf8.IsBoundary text cursor →
      rule.matchAt? text cursor = none) ∧
    rule.applySlices text cursor = .ok (rule.matchAt? text cursor) ∧
    (∀ bytes replacement, rule.matchAt? text cursor = some (bytes, replacement) →
      1 ≤ bytes ∧ cursor + bytes ≤ Utf8.length text ∧ Utf8.IsBoundary text (cursor + bytes)) ∧
    (∀ bytes replacement, rule.matchAt? text cursor = some (bytes, replacement) ↔
      ∃ before span after, text = before ++ (span ++ after) ∧ Utf8.length before = cursor ∧
        Utf8.length span = bytes ∧ rule.main.matchBytes? (span ++ after) = some bytes ∧
        holds rule.before before = true ∧ holds rule.after after = true ∧
        replacement = rule.replacementFor before span after) ∧
    ∀ before other rest, text = before ++ rest → Utf8.length before = cursor →
      holds rule.before before = true → holds rule.before other = true →
        (rule.matchAt? (other ++ rest) (Utf8.length other)).map Prod.fst =
          (rule.matchAt? text cursor).map Prod.fst := by
  refine ⟨?_, rule.applySlices_eq text cursor, ?_, fun _ _ => matchAt?_eq_some_iff, ?_⟩
  · intro hcursor
    apply matchAt?_of_not_isBoundary
    rcases hcursor with hbeyond | hwithin
    · intro hboundary
      exact Nat.not_le.mpr hbeyond hboundary.le_length
    · exact hwithin
  · intro bytes replacement hmatch
    obtain ⟨before, span, after, rfl, rfl, hspan, hmain, -⟩ := matchAt?_eq_some_iff.mp hmatch
    obtain ⟨matched, left, hparts, hmatched, hne, -⟩ := Pattern.matchBytes?_eq_some_iff.mp hmain
    -- the match of the main pattern is made of whole characters
    have hboundary : Utf8.IsBoundary (before ++ (span ++ after)) (Utf8.length before + bytes) :=
      ⟨before ++ span, after, (List.append_assoc ..).symm, by rw [Utf8.length_append, hspan]⟩
    exact ⟨hmatched ▸ Utf8.length_pos hne, hboundary.le_length, hboundary⟩
  · rintro before other rest rfl rfl hbefore hother
    exact matchAt?_replace_before hbefore hother rest

end Rule

end Transliteration
