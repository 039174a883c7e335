import Transliteration.Proofs.Regex.Reading.Within
import Transliteration.Regex.Escape

/-!
# Escape sequences within a group

An escape sequence that is read to its end by itself is read the same within a group
(`sameRead_readEscape`).  Each lemma follows the clauses of its reader.
-/

namespace Transliteration.Regex

variable {more : List Char} {modes : Modes} {pattern left rest : List Char}

/-! ## Braces and numbers -/

theorem readBraced_close {bound : Nat} (hskip : skip modes pattern = '}' :: rest) :
    readBraced modes (bound + 1) pattern = some ([], rest) := by
  rw [readBraced, hskip]
  rfl

theorem readBraced_cons {bound : Nat} {c : Char} (hc : c ≠ '}')
    (hskip : skip modes pattern = c :: rest) :
    readBraced modes (bound + 1) pattern =
      (readBraced modes bound rest).map fun (text, rest) => (c :: text, rest) := by
  rw [readBraced, hskip]
  split
  case h_1 heq => cases heq
  case h_2 heq => exact absurd (List.cons.inj heq).1 hc
  case h_3 heq => cases heq; rfl

theorem readBraced_inGroup (hline : '\n' ∉ more) {bound bound' : Nat} (hbound : bound ≤ bound')
    {text : List Char} (hleft : InGroup more pattern left)
    (hread : readBraced modes bound pattern = some (text, rest)) :
    ∃ left', readBraced modes bound' left = some (text, left') ∧ InGroup more rest left' := by
  induction bound generalizing bound' pattern left text with
  | zero => cases hread
  | succ bound ih =>
      obtain ⟨bound', rfl⟩ : ∃ b, bound' = b + 1 := ⟨bound' - 1, by omega⟩
      have hbound' : bound ≤ bound' := Nat.le_of_succ_le_succ hbound
      cases hskip : skip modes pattern with
      | nil =>
          rw [readBraced, hskip] at hread
          cases hread
      | cons c pattern' =>
          obtain ⟨left', hskip', hleft', -⟩ := hleft.skip_cons hline hskip
          -- the closing brace is the pattern's own, for the parenthesis is none
          by_cases hc : c = '}'
          · subst hc
            rw [readBraced_close hskip] at hread
            cases hread
            exact ⟨left', readBraced_close hskip', hleft'⟩
          · rw [readBraced_cons hc hskip, Option.map_eq_some_iff] at hread
            obtain ⟨⟨text', rest'⟩, hread, heq⟩ := hread
            cases heq
            obtain ⟨left'', hread', hrest⟩ := ih hbound' hleft' hread
            refine ⟨left'', ?_, hrest⟩
            rw [readBraced_cons hc hskip', hread']
            rfl

theorem readHexDigits_inGroup (hline : '\n' ∉ more) {count : Nat} {digits : List Char}
    (hleft : InGroup more pattern left)
    (hread : readHexDigits modes count pattern = some (digits, rest)) :
    ∃ left', readHexDigits modes count left = some (digits, left') ∧ InGroup more rest left' := by
  induction count generalizing pattern left digits with
  | zero =>
      cases hread
      exact ⟨left, rfl, hleft⟩
  | succ count ih =>
      cases pattern with
      | nil => cases hread
      | cons c pattern =>
          obtain ⟨left, rfl, hrest⟩ := hleft.cons
          rw [readHexDigits, Option.map_eq_some_iff] at hread
          obtain ⟨⟨digits', rest'⟩, hread, heq⟩ := hread
          cases heq
          obtain ⟨left', hread', hend⟩ := ih (hrest.skip hline modes) hread
          refine ⟨left', ?_, hend⟩
          rw [readHexDigits, hread']
          rfl

/-! ## Escape sequences -/

theorem readHex_of_digits {letter : Char} {count : Nat}
    (hbrace : ∀ rest, skip modes pattern ≠ '{' :: rest) :
    readHex modes letter count pattern =
      match readHexDigits modes count (skip modes pattern) with
      | none => .error .badEscape
      | some (digits, rest) =>
        match charOfHex? digits with
        | none => .error .badEscape
        | some c =>
          if letter = 'x' ∧ !modes.unicode ∧ 0x80 ≤ c.toNat then .error .partOfCharacter
          else .ok (.char c, rest) := by
  rw [readHex]
  split
  case h_1 heq => exact absurd heq (hbrace _)
  case h_2 => rfl

theorem sameRead_readHex (hline : '\n' ∉ more) (letter : Char) (count : Nat)
    (hleft : InGroup more pattern left) :
    SameRead more (readHex modes letter count pattern) (readHex modes letter count left) := by
  have hstart := hleft.skip hline modes
  -- The digits stand between braces or their number is fixed.
  rcases hstart.front '{' (by decide) with
    ⟨pattern', left', hskip, hskip', hleft'⟩ | ⟨hnone, hnone'⟩
  · simp only [readHex, hskip, hskip']
    cases hbraced : readBraced modes (pattern'.length + 1) pattern' with
    | none => exact .error _
    | some described =>
        obtain ⟨digits, rest⟩ := described
        obtain ⟨left'', hbraced', hrest⟩ :=
          readBraced_inGroup hline (Nat.succ_le_succ hleft'.length_le) hleft' hbraced
        simp only [hbraced']
        cases charOfHex? digits with
        | none => exact .error _
        | some c => exact .ok ⟨rfl, hrest.skip hline modes⟩
  · rw [readHex_of_digits hnone, readHex_of_digits hnone']
    cases hdigits : readHexDigits modes count (skip modes pattern) with
    | none => exact .error _
    | some read =>
        obtain ⟨digits, rest⟩ := read
        obtain ⟨left'', hdigits', hrest⟩ := readHexDigits_inGroup hline hstart hdigits
        simp only [hdigits']
        cases charOfHex? digits with
        | none => exact .error _
        | some c => exact .ite (.error _) (.ok ⟨rfl, hrest⟩)

theorem sameRead_readDescription (hline : '\n' ∉ more) (hleft : InGroup more pattern left) :
    SameRead more (readDescription modes pattern) (readDescription modes left) := by
  unfold readDescription
  split
  case h_1 => exact .error _
  case h_2 pattern' hskip =>
    obtain ⟨left', hskip', hleft', -⟩ := hleft.skip_cons hline hskip
    simp only [hskip']
    cases hbraced : readBraced modes (pattern'.length + 1) pattern' with
    | none => exact .error _
    | some described =>
        obtain ⟨text, rest⟩ := described
        obtain ⟨left'', hbraced', hrest⟩ :=
          readBraced_inGroup hline (Nat.succ_le_succ hleft'.length_le) hleft' hbraced
        rw [hbraced']
        exact .ok ⟨rfl, hrest⟩
  case h_3 => exact .error _
  case h_4 c pattern' hbrace hescape hskip =>
    obtain ⟨left', hskip', hleft', -⟩ := hleft.skip_cons hline hskip
    rw [hskip']
    -- neither sign that could change the branch is the parenthesis
    split
    case h_1 heq => cases heq
    case h_2 heq => cases heq; exact (hbrace rfl).elim
    case h_3 heq => cases heq; exact (hescape rfl).elim
    case h_4 heq => cases heq; exact .ok ⟨rfl, hleft'.skip hline modes⟩

theorem sameRead_readProperty (hline : '\n' ∉ more) (negated : Bool)
    (hleft : InGroup more pattern left) :
    SameRead more (readProperty modes negated pattern) (readProperty modes negated left) := by
  unfold readProperty
  apply (sameRead_readDescription hline hleft).bind
  intro text rest left hleft
  exact .bind_left fun set => .ok ⟨rfl, hleft⟩

theorem readBoundary_of_ne (hbrace : ∀ rest, pattern ≠ '{' :: rest) :
    readBoundary modes pattern = .ok (.look (.word .boundary !modes.unicode), pattern) := by
  unfold readBoundary
  split
  case h_1 => exact absurd rfl (hbrace _)
  case h_2 => rfl

theorem sameRead_readBoundary (hline : '\n' ∉ more) (hleft : InGroup more pattern left) :
    SameRead more (readBoundary modes pattern) (readBoundary modes left) := by
  rcases hleft.front '{' (by decide) with ⟨pattern', _, rfl, rfl, hleft'⟩ | ⟨hnone, hnone'⟩
  · simp only [readBoundary]
    cases hskip : skip modes pattern' with
    | nil => exact .error _
    | cons c named =>
        obtain ⟨left'', hskip', hleft'', hnamed⟩ := hleft'.skip_cons hline hskip
        simp only [hskip']
        -- a brace that begins no name is left in the rest by both
        refine .ite ?_ (.ok ⟨rfl, hleft⟩)
        have hbound : named.length + 2 ≤ left''.length + 2 := by
          have hle := hleft''.length_le
          omega
        cases hbraced : readBraced modes (named.length + 2) (c :: named) with
        | none => exact .error _
        | some described =>
            obtain ⟨name, rest⟩ := described
            obtain ⟨last, hbraced', hrest⟩ := readBraced_inGroup hline hbound hnamed hbraced
            simp only [hbraced']
            cases namedEdge? name with
            | none => exact .error _
            | some edge => exact .ok ⟨rfl, hrest⟩
  · rw [readBoundary_of_ne hnone, readBoundary_of_ne hnone']
    exact .ok ⟨rfl, hleft⟩

theorem sameRead_readEscape (hline : '\n' ∉ more) (hleft : InGroup more pattern left) :
    SameRead more (readEscape modes pattern) (readEscape modes left) := by
  cases pattern with
  | nil => exact .error _
  | cons c pattern =>
      obtain ⟨left, rfl, hrest⟩ := hleft.cons
      -- Only these letters read further than the letter itself.
      by_cases hletter : c ∈ ['x', 'u', 'U', 'p', 'P', 'b']
      · simp only [List.mem_cons, List.not_mem_nil, or_false] at hletter
        rcases hletter with rfl | rfl | rfl | rfl | rfl | rfl
        · exact sameRead_readHex hline 'x' 2 hrest
        · exact sameRead_readHex hline 'u' 4 hrest
        · exact sameRead_readHex hline 'U' 8 hrest
        · exact sameRead_readProperty hline false hrest
        · exact sameRead_readProperty hline true hrest
        · exact sameRead_readBoundary hline hrest
      · simp only [List.mem_cons, List.not_mem_nil, or_false, not_or] at hletter
        obtain ⟨hx, hu, hU, hp, hP, hb⟩ := hletter
        rw [readEscape.eq_8 modes c pattern hx hu hU hp hP hb,
          readEscape.eq_8 modes c left hx hu hU hp hP hb]
        refine .ite (.ok ⟨rfl, hrest⟩) ?_
        cases control? c with
        | some c' => exact .ok ⟨rfl, hrest⟩
        | none =>
            cases letterLook? modes c with
            | some condition => exact .ok ⟨rfl, hrest⟩
            | none =>
                cases letterSet? modes c.toLower with
                | some set => exact .bind_left fun set => .ok ⟨rfl, hrest⟩
                | none => exact .error _

end Transliteration.Regex
