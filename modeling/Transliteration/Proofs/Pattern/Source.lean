import Transliteration.Pattern
import Transliteration.Proofs.Regex.Reading.Group

/-!
# A source with its anchor

The anchor is put around the source as text.  If the source is a pattern by itself, its expression
stands between the parentheses as a whole, and the anchor comes before or after it
(`Anchor.holds_of_readPattern`).  Otherwise a parenthesis in the source may close the group: the
anchor of `x)|(?:b` holds for the branch `x` only.
-/

namespace Transliteration

namespace Regex

/-! ## Reading what the anchor adds -/

section

variable {modes : Modes} {rest : List Char} {groups bound : Nat} {names : List (List Char)}
  {soFar : GroupSoFar}

theorem skip_of_not_verbose (hverbose : modes.verbose = false) (pattern : List Char) :
    skip modes pattern = pattern := by
  simp [skip, hverbose]

theorem readGroup_caret (hverbose : modes.verbose = false) (hlines : modes.multiLine = false) :
    readGroup (bound + 1) ⟨'^' :: rest, modes, groups, names⟩ soFar =
      readGroup bound ⟨rest, modes, groups, names⟩
        (soFar.add { expr := .look .textStart, levels := 0 }) := by
  simp [readGroup, skip_of_not_verbose hverbose, readAtom, caretLook, hlines, bind, Except.bind]

theorem readGroup_dollar (hverbose : modes.verbose = false) (hlines : modes.multiLine = false) :
    readGroup (bound + 1) ⟨'$' :: rest, modes, groups, names⟩ soFar =
      readGroup bound ⟨rest, modes, groups, names⟩
        (soFar.add { expr := .look .textEnd, levels := 0 }) := by
  simp [readGroup, skip_of_not_verbose hverbose, readAtom, dollarLook, hlines, bind, Except.bind]

theorem readGroup_nil (hverbose : modes.verbose = false) :
    readGroup (bound + 1) ⟨[], modes, groups, names⟩ soFar =
      .ok (soFar.close, ⟨[], modes, groups, names⟩) := by
  simp [readGroup, skip_of_not_verbose hverbose]

theorem readGroupHead_colon {state : ReaderState} (hverbose : state.modes.verbose = false) :
    readGroupHead state ('?' :: ':' :: rest) = .ok (.plain, { state with rest := rest }) := by
  rw [readGroupHead, skip_of_not_verbose hverbose]
  rfl

/-- A group without a number and without modes of its own. -/
theorem readGroup_open (hverbose : modes.verbose = false) :
    readGroup (bound + 1) ⟨'(' :: '?' :: ':' :: rest, modes, groups, names⟩ soFar =
      (readGroup bound ⟨rest, modes, groups + 1, names⟩ {}).bind fun (body, inner) =>
        match inner.rest with
        | ')' :: rest =>
          readGroup bound ⟨rest, modes, inner.groups, inner.names⟩
            (soFar.add { expr := body.expr, levels := body.levels + 1 })
        | _ => .error .unclosedGroup := by
  simp only [readGroup, skip_of_not_verbose hverbose]
  rw [readGroupHead_colon hverbose]
  rfl

/-- The expression of a pattern is that of its outermost group, which the end of the text closes. -/
theorem readPattern_eq_ok {pattern : List Char} {expr : Expr}
    (hread : readPattern modes pattern = .ok expr) :
    ∃ piece state, readGroup (pattern.length + 1) { rest := pattern, modes := modes } {} =
      .ok (piece, state) ∧ state.rest = [] ∧ piece.expr = expr := by
  unfold readPattern at hread
  cases hgroup : readGroup (pattern.length + 1) { rest := pattern, modes := modes } {} with
  | error fault => rw [hgroup] at hread; cases hread
  | ok read =>
      obtain ⟨piece, state⟩ := read
      rw [hgroup] at hread
      refine ⟨piece, state, rfl, ?_⟩
      cases hrest : state.rest with
      | cons c rest => simp [hrest, bind, Except.bind] at hread
      | nil =>
          by_cases hdeep : levelLimit < piece.levels
          · simp [hrest, hdeep, bind, Except.bind] at hread
          · simp [hrest, hdeep, bind, Except.bind, pure, Except.pure] at hread
            exact ⟨rfl, hread⟩

/-- A pattern that is read to its end by itself is read in a group up to the end of the group,
unless a comment takes that end. -/
theorem readGroup_of_readPattern {source : List Char} {expr : Expr} (more : List Char)
    (hline : '\n' ∉ more) (hcolon : ':' ∉ more) (groups : Nat)
    (hread : readPattern modes source = .ok expr)
    (hbound : source.length + 1 ≤ bound) :
    ∃ body after,
      readGroup bound ⟨source ++ ')' :: more, modes, groups, []⟩ {} = .ok (body, after) ∧
        (after.rest = ')' :: more ∨ after.rest = []) := by
  obtain ⟨piece, state, halone, hend, -⟩ := readPattern_eq_ok hread
  have hstate : Beside more { rest := source, modes := modes }
      ⟨source ++ ')' :: more, modes, groups, []⟩ := ⟨.next source, rfl, rfl⟩
  obtain ⟨⟨body, after⟩, hwithin, hafter⟩ :=
    parallel_readGroup hline hcolon hbound hstate rfl _ halone
  refine ⟨body, after, hwithin, ?_⟩
  have hleft := hafter.rest
  rw [hend] at hleft
  cases hrest : after.rest with
  | nil => exact .inr rfl
  | cons c rest =>
      rw [hrest] at hleft
      cases hleft
      exact .inl rfl

end

/-! ## What is known of the anchored expression -/

namespace Expr

theorem isAnchored_sequence (exprs : List Expr) :
    (sequence (.look .textStart :: exprs)).isAnchored = true := by
  have hparts : sequence (.look .textStart :: exprs) =
      ofParts (.look .textStart :: exprs.flatMap parts) := rfl
  rw [hparts]
  cases exprs.flatMap parts with
  | nil => rfl
  | cons part rest => simp [ofParts, isAnchored]

theorem isAnchoredAtEnd_ofParts (exprs : List Expr) :
    (ofParts (exprs ++ [.look .textEnd])).isAnchoredAtEnd = true := by
  induction exprs with
  | nil => rfl
  | cons expr exprs ih =>
      cases exprs with
      | nil => simp [ofParts, isAnchoredAtEnd]
      | cons second exprs =>
          rw [List.cons_append, List.cons_append, ofParts, isAnchoredAtEnd, ← List.cons_append, ih]
          · rfl
          · simp

theorem isAnchoredAtEnd_sequence (exprs : List Expr) :
    (sequence (exprs ++ [.look .textEnd])).isAnchoredAtEnd = true := by
  have hparts : sequence (exprs ++ [.look .textEnd]) =
      ofParts (exprs.flatMap parts ++ [.look .textEnd]) := by
    simp [sequence, parts]
  rw [hparts]
  exact isAnchoredAtEnd_ofParts _

end Expr

end Regex

namespace Anchor

theorem wrap_start (source : String) :
    Anchor.wrap source .start = '^' :: '(' :: '?' :: ':' :: (source.toList ++ [')']) := rfl

theorem wrap_finish (source : String) :
    Anchor.wrap source .finish = '(' :: '?' :: ':' :: (source.toList ++ [')', '$']) := rfl

/-- Whether all matches of an expression are known to be at the anchor. -/
def holds (expr : Regex.Expr) : Anchor → Bool
  | .start => expr.isAnchored
  | .finish => expr.isAnchoredAtEnd

/-- A source that is a pattern by itself is anchored as a whole. -/
theorem holds_of_readPattern {anchor : Anchor} {source : String} {expr expr' : Regex.Expr}
    (halone : Regex.readPattern { ignoreCase := true } source.toList = .ok expr)
    (hwrapped : Regex.readPattern { ignoreCase := true } (Anchor.wrap source anchor) = .ok expr') :
    anchor.holds expr' = true := by
  obtain ⟨piece, state, hgroup, -, rfl⟩ := Regex.readPattern_eq_ok hwrapped
  cases anchor with
  | start =>
      have hlength : (Anchor.wrap source .start).length + 1 = source.toList.length + 4 + 1 + 1 := by
        simp [wrap_start]
      obtain ⟨body, after, hbody, hafter⟩ :=
        Regex.readGroup_of_readPattern [] (by simp) (by simp) (0 + 1) halone
          (Nat.le_add_right (source.toList.length + 1) 3)
      rw [hlength, wrap_start, Regex.readGroup_caret rfl rfl, Regex.readGroup_open rfl,
        hbody] at hgroup
      simp only [Except.bind] at hgroup
      rcases hafter with hafter | hafter
      · simp only [hafter] at hgroup
        rw [Regex.readGroup_nil rfl] at hgroup
        cases hgroup
        exact Regex.Expr.isAnchored_sequence [body.expr]
      · -- a comment has taken the end of the group, so the group is never closed
        simp only [hafter] at hgroup
        cases hgroup
  | finish =>
      have hlength : (Anchor.wrap source .finish).length + 1 =
          source.toList.length + 3 + 1 + 1 + 1 := by
        simp [wrap_finish]
      obtain ⟨body, after, hbody, hafter⟩ :=
        Regex.readGroup_of_readPattern ['$'] (by simp) (by simp) (0 + 1) halone
          (Nat.le_add_right (source.toList.length + 1) 4)
      rw [hlength, wrap_finish, Regex.readGroup_open rfl, hbody] at hgroup
      simp only [Except.bind] at hgroup
      rcases hafter with hafter | hafter
      · simp only [hafter] at hgroup
        rw [Regex.readGroup_dollar rfl rfl, Regex.readGroup_nil rfl] at hgroup
        cases hgroup
        exact Regex.Expr.isAnchoredAtEnd_sequence [body.expr]
      · simp only [hafter] at hgroup
        cases hgroup

end Anchor

end Transliteration
