import Transliteration.Proofs.Pattern.Source
import Transliteration.Proofs.Regex.Search
import Transliteration.Proofs.Rule.Match

/-!
# Anchors

A pattern with an anchor promises to match where the anchor says (`Pattern.KeepsAnchor`).  Since a
search finds a match if there is one, and the leftmost one, a pattern keeps the promise if and only
if it matches at the anchor wherever it matches at all.

## Strategy

* A match of the pattern is one of a branch of its expression.  Where the branch is known to be
  anchored, the match is at the anchor; only the other ones, the loose branches, can fail
  (`keepsAnchor_iff_looseBranches`).
* A source that is a pattern by itself leaves no branch loose, because the anchor then stands at the
  whole (`Anchor.holds_of_readPattern`).
* A rule asks for a match of its patterns and nothing else, so what they promise holds wherever the
  rule applies (`holdsInRules_of_keepsAnchor`).
-/

namespace Transliteration

/-! ## Branches -/

namespace Regex.Expr

/-- What an expression matches one of its branches matches. -/
theorem matches_iff_branches {text : List Char} {expr : Expr} {i j : Nat} :
    expr.Matches text i j ↔ ∃ branch ∈ expr.branches, branch.Matches text i j := by
  induction expr generalizing i j with
  | alt left right ihleft ihright =>
      simp only [branches, Matches, ihleft, ihright, List.mem_append, or_and_right, exists_or]
  | _ => simp [branches]

end Regex.Expr

theorem Anchor.holds_alt (anchor : Anchor) (left right : Regex.Expr) :
    anchor.holds (.alt left right) = (anchor.holds left && anchor.holds right) := by
  cases anchor with
  | start => rfl
  | finish => rfl

theorem Anchor.holds_of_mem_branches {anchor : Anchor} {expr branch : Regex.Expr}
    (hholds : anchor.holds expr = true) (hbranch : branch ∈ expr.branches) :
    anchor.holds branch = true := by
  induction expr with
  | alt left right ihleft ihright =>
      rw [Anchor.holds_alt, Bool.and_eq_true_iff] at hholds
      rcases List.mem_append.mp hbranch with hbranch | hbranch
      · exact ihleft hholds.1 hbranch
      · exact ihright hholds.2 hbranch
  | _ => exact List.mem_singleton.mp hbranch ▸ hholds

namespace Pattern

variable {pattern : Pattern} {text : List Char}

/-! ## The law of the anchor -/

/-- The pattern matches the text between these places. -/
def Matches (pattern : Pattern) (text : List Char) (i j : Nat) : Prop :=
  pattern.regex.expr.Matches text i j

/-- The pattern matches where the anchor says. -/
def MatchesAtAnchor (pattern : Pattern) (text : List Char) : Prop :=
  match pattern.anchor with
  | .start => ∃ j, pattern.Matches text 0 j
  | .finish => ∃ i ≤ text.length, pattern.Matches text i text.length

/-- What a pattern with an anchor promises: at the start of a text, that the length of a match is
that of a beginning of the text, which it matches; at the end, that a match ends there. -/
def KeepsAnchor (pattern : Pattern) : Prop :=
  match pattern.anchor with
  | .start => ∀ text bytes, pattern.matchBytes? text = some bytes →
      ∃ span rest, text = span ++ rest ∧ Utf8.length span = bytes ∧
        pattern.regex.find? text = some ⟨0, span.length⟩ ∧ pattern.Matches text 0 span.length
  | .finish => ∀ text, pattern.isMatch text = true →
      ∃ i ≤ text.length, pattern.Matches text i text.length

/-- The branches that are not known to be anchored.  The anchor stands at one branch only if a
parenthesis in the source has closed its group, and it means something else after a mode switch. -/
def looseBranches (pattern : Pattern) : List Regex.Expr :=
  pattern.regex.expr.branches.filter fun branch => !pattern.anchor.holds branch

theorem compile_eq_ok {source : String} {anchor : Anchor}
    (hcompile : compile source anchor = .ok pattern) :
    ∃ expr, Regex.readPattern { ignoreCase := true } (anchor.wrap source) = .ok expr ∧
      pattern = ⟨source, anchor, Regex.ofExpr expr⟩ := by
  unfold compile Regex.compile at hcompile
  cases hread : Regex.readPattern { ignoreCase := true } (anchor.wrap source) with
  | error fault => simp [hread, bind, Except.bind] at hcompile
  | ok expr =>
      by_cases hlarge : expr.isTooLarge = true
      · simp [hread, hlarge, bind, Except.bind] at hcompile
      · simp [hread, hlarge, bind, Except.bind, pure, Except.pure] at hcompile
        exact ⟨expr, rfl, hcompile.symm⟩

/-- A search of a compiled pattern finds a match if there is one. -/
theorem isMatch_iff (hregex : pattern.regex = Regex.ofExpr pattern.regex.expr) :
    pattern.isMatch text = true ↔ ∃ i ≤ text.length, ∃ j, pattern.Matches text i j := by
  have hfirst := Regex.isFirst_find? pattern.regex.expr text
  rw [← hregex] at hfirst
  unfold isMatch
  cases hfind : pattern.regex.find? text with
  | none =>
      rw [hfind] at hfirst
      simp only [Option.isSome_none, Bool.false_eq_true, false_iff]
      rintro ⟨i, hi, j, hmatch⟩
      exact hfirst i (Nat.zero_le i) hi j hmatch
  | some span =>
      rw [hfind] at hfirst
      obtain ⟨-, hi, hmatch, -⟩ := hfirst
      simp only [Option.isSome_some, true_iff]
      exact ⟨span.start, hi, span.stop, hmatch⟩

/-- Where a match begins at the start of the text, so does the match that is found. -/
theorem find?_eq_of_matches_zero (hregex : pattern.regex = Regex.ofExpr pattern.regex.expr)
    {span : Regex.Span} (hfind : pattern.regex.find? text = some span)
    (hzero : ∃ j, pattern.Matches text 0 j) :
    span = ⟨0, span.stop⟩ ∧ pattern.Matches text 0 span.stop ∧ span.stop ≤ text.length := by
  have hfirst := Regex.isFirst_find? pattern.regex.expr text
  rw [← hregex, hfind] at hfirst
  obtain ⟨-, hi, hmatch, hbefore⟩ := hfirst
  have hstart : span.start = 0 := by
    obtain ⟨j, hj⟩ := hzero
    -- otherwise the search would have passed over the match at the start
    by_contra hne
    exact hbefore 0 (Nat.le_refl 0) (Nat.pos_of_ne_zero hne) j hj
  have hspan : span = ⟨0, span.stop⟩ := by rw [← hstart]
  rw [hstart] at hmatch hi
  exact ⟨hspan, hmatch, Regex.Expr.le_length_of_matches hmatch hi⟩

/-- The promise of the anchor is that a pattern that matches at all matches where the anchor
says. -/
theorem keepsAnchor_iff_matchesAtAnchor
    (hregex : pattern.regex = Regex.ofExpr pattern.regex.expr) :
    pattern.KeepsAnchor ↔ ∀ text, pattern.isMatch text = true → pattern.MatchesAtAnchor text := by
  unfold KeepsAnchor MatchesAtAnchor
  cases pattern.anchor with
  | finish => exact Iff.rfl
  | start =>
      simp only
      constructor
      · intro hlaw text hmatch
        obtain ⟨span, hfind⟩ := Option.isSome_iff_exists.mp hmatch
        by_cases hstop : 0 < span.stop
        · have hlength := matchLength?_eq_some_iff.mpr ⟨hstop, span, hfind, rfl⟩
          have hbytes : pattern.matchBytes? text = some (Utf8.length (text.take span.stop)) := by
            rw [matchBytes?, hlength]
            rfl
          obtain ⟨matched, -, -, -, -, hmatched⟩ := hlaw text _ hbytes
          exact ⟨matched.length, hmatched⟩
        · -- a match that ends at the start begins there
          have hfirst := Regex.isFirst_find? pattern.regex.expr text
          rw [← hregex, hfind] at hfirst
          obtain ⟨-, hi, hmatched, -⟩ := hfirst
          have hle := Regex.Expr.le_of_matches hmatched
          have hzero : span.start = 0 := by omega
          rw [hzero] at hmatched
          exact ⟨span.stop, hmatched⟩
      · intro hlaw text bytes hbytes
        unfold matchBytes? at hbytes
        obtain ⟨width, hwidth, rfl⟩ := Option.map_eq_some_iff.mp hbytes
        obtain ⟨hpos, span, hfind, rfl⟩ := matchLength?_eq_some_iff.mp hwidth
        have hmatch : pattern.isMatch text = true := by
          rw [isMatch, hfind]
          rfl
        obtain ⟨hspan, hmatched, hstop⟩ :=
          find?_eq_of_matches_zero hregex hfind (hlaw text hmatch)
        have hlength : (text.take span.stop).length = span.stop := by
          rw [List.length_take]
          omega
        refine ⟨text.take span.stop, text.drop span.stop, (List.take_append_drop ..).symm, rfl, ?_⟩
        rw [hlength, hfind]
        exact ⟨congrArg some hspan, hmatched⟩

/-- Only the loose branches can fail the promise. -/
theorem keepsAnchor_iff_looseBranches
    (hregex : pattern.regex = Regex.ofExpr pattern.regex.expr) :
    pattern.KeepsAnchor ↔ ∀ text, ∀ branch ∈ pattern.looseBranches,
      (∃ i ≤ text.length, ∃ j, branch.Matches text i j) → pattern.MatchesAtAnchor text := by
  rw [keepsAnchor_iff_matchesAtAnchor hregex]
  constructor
  · rintro hlaw text branch hbranch ⟨i, hi, j, hmatch⟩
    have hmem := (List.mem_filter.mp hbranch).1
    have hmatch' : pattern.Matches text i j :=
      Regex.Expr.matches_iff_branches.mpr ⟨branch, hmem, hmatch⟩
    exact hlaw text ((isMatch_iff hregex).mpr ⟨i, hi, j, hmatch'⟩)
  · intro hloose text hmatch
    obtain ⟨i, hi, j, hmatch⟩ := (isMatch_iff hregex).mp hmatch
    obtain ⟨branch, hbranch, hmatch'⟩ := Regex.Expr.matches_iff_branches.mp hmatch
    -- an anchored branch matches at the anchor itself; what a loose one does is the premise
    by_cases hholds : pattern.anchor.holds branch = true
    · unfold MatchesAtAnchor
      cases hanchor : pattern.anchor with
      | start =>
          rw [hanchor] at hholds
          obtain rfl := Regex.Expr.eq_zero_of_isAnchored hholds hi hmatch'
          exact ⟨j, hmatch⟩
      | finish =>
          rw [hanchor] at hholds
          obtain rfl := Regex.Expr.eq_length_of_isAnchoredAtEnd hholds hi hmatch'
          exact ⟨i, hi, hmatch⟩
    · have hmem : branch ∈ pattern.looseBranches := by
        rw [looseBranches, List.mem_filter]
        exact ⟨hbranch, by simpa using hholds⟩
      exact hloose text branch hmem ⟨i, hi, j, hmatch'⟩

/-! ## Rules -/

/-- What the promise of the anchor means where a rule applies: its main pattern matches the part of
the text that is replaced, from the cursor on, and its conditions match right before and right after
that part. -/
def HoldsInRules (pattern : Pattern) : Prop :=
  ∀ (rule : Rule) (text : List Char) (cursor bytes : Nat) (replacement : String),
    rule.matchAt? text cursor = some (bytes, replacement) →
    ∃ before span after, text = before ++ (span ++ after) ∧ Utf8.length before = cursor ∧
      Utf8.length span = bytes ∧
      (pattern.anchor = .start → rule.main = pattern →
        pattern.Matches (span ++ after) 0 span.length) ∧
      (pattern.anchor = .finish → rule.before = some pattern →
        ∃ i ≤ before.length, pattern.Matches before i before.length) ∧
      (pattern.anchor = .start → rule.after = some pattern → ∃ j, pattern.Matches after 0 j)

theorem holdsInRules_of_keepsAnchor (hregex : pattern.regex = Regex.ofExpr pattern.regex.expr)
    (hkeeps : pattern.KeepsAnchor) : pattern.HoldsInRules := by
  have hlaw := (keepsAnchor_iff_matchesAtAnchor hregex).mp hkeeps
  intro rule text cursor bytes replacement hrule
  unfold Rule.matchAt? at hrule
  cases hsplit : Utf8.splitAt? text cursor with
  | none => rw [hsplit] at hrule; cases hrule
  | some parts =>
      obtain ⟨before, rest⟩ := parts
      rw [hsplit] at hrule
      obtain ⟨found, hfound, heq⟩ := Option.map_eq_some_iff.mp hrule
      obtain ⟨hmain, hbefore, hafter, -⟩ := Rule.matchBetween?_eq_some_iff.mp hfound
      obtain ⟨rfl, rfl⟩ := Utf8.splitAt?_eq_some_iff.mp hsplit
      refine ⟨before, rest.take found.width, rest.drop found.width, ?_, rfl,
        (Prod.mk.inj heq).1, ?_, ?_, ?_⟩
      · rw [List.take_append_drop]
      · -- the main pattern is asked for the length of a match in what follows the cursor
        rintro hstart rfl
        obtain ⟨-, span, hfind, hwidth⟩ := matchLength?_eq_some_iff.mp hmain
        have hmatches := hlaw rest (by rw [isMatch, hfind]; rfl)
        unfold MatchesAtAnchor at hmatches
        rw [hstart] at hmatches
        obtain ⟨-, hmatched, hstop⟩ := find?_eq_of_matches_zero hregex hfind hmatches
        have hlength : (rest.take found.width).length = found.width := by
          rw [List.length_take]
          omega
        rw [List.take_append_drop, hlength, ← hwidth]
        exact hmatched
      · -- a condition is only asked whether it matches
        intro hfinish hcondition
        rw [hcondition] at hbefore
        have hmatches := hlaw before hbefore
        unfold MatchesAtAnchor at hmatches
        rw [hfinish] at hmatches
        exact hmatches
      · intro hstart hcondition
        rw [hcondition] at hafter
        have hmatches := hlaw _ hafter
        unfold MatchesAtAnchor at hmatches
        rw [hstart] at hmatches
        exact hmatches

/-- When a compiled pattern keeps the promise of its anchor.

It does so exactly if none of its loose branches matches in a text that has no match at the anchor.
There is no loose branch if the source is a pattern by itself.  What keeps the promise keeps it in
every rule. -/
theorem anchor_law {source : String} {anchor : Anchor} {pattern : Pattern}
    (hcompile : compile source anchor = .ok pattern) :
    (pattern.KeepsAnchor ↔ ∀ text, ∀ branch ∈ pattern.looseBranches,
      (∃ i ≤ text.length, ∃ j, branch.Matches text i j) → pattern.MatchesAtAnchor text) ∧
    ((∃ expr, Regex.readPattern { ignoreCase := true } source.toList = .ok expr) →
      pattern.looseBranches = [] ∧ pattern.KeepsAnchor) ∧
    (pattern.KeepsAnchor → pattern.HoldsInRules) := by
  obtain ⟨expr, hwrapped, rfl⟩ := compile_eq_ok hcompile
  refine ⟨keepsAnchor_iff_looseBranches rfl, ?_, holdsInRules_of_keepsAnchor rfl⟩
  rintro ⟨alone, halone⟩
  have hholds := Anchor.holds_of_readPattern halone hwrapped
  have hnone : looseBranches ⟨source, anchor, Regex.ofExpr expr⟩ = [] := by
    rw [looseBranches, List.filter_eq_nil_iff]
    intro branch hbranch
    simp [Anchor.holds_of_mem_branches hholds hbranch]
  refine ⟨hnone, (keepsAnchor_iff_looseBranches rfl).mpr ?_⟩
  rw [hnone]
  intro text branch hbranch
  cases hbranch

theorem anchor_law_alternation :
    ∃ pattern, compile "b|c" .start = .ok pattern ∧ pattern.KeepsAnchor ∧
      pattern.HoldsInRules := by
  have hcompiles : (compile "b|c" .start).toOption.isSome = true := by decide +kernel
  have halone : (Regex.readPattern { ignoreCase := true } "b|c".toList).toOption.isSome = true := by
    decide +kernel
  cases hcompile : compile "b|c" .start with
  | error error => rw [hcompile] at hcompiles; cases hcompiles
  | ok pattern =>
      obtain ⟨-, hsource, hrules⟩ := anchor_law hcompile
      cases hread : Regex.readPattern { ignoreCase := true } "b|c".toList with
      | error fault => rw [hread] at halone; cases halone
      | ok expr =>
          have hkeeps := (hsource ⟨expr, hread⟩).2
          exact ⟨pattern, rfl, hkeeps, hrules hkeeps⟩

/-- A match of an expression that ends at the end of the text is one of the expression with that
condition after it. -/
theorem not_matches_length_of_find?_eq_none {expr : Regex.Expr} {text : List Char}
    (hfind : (Regex.ofExpr (.seq expr (.look .textEnd))).find? text = none) :
    ∀ i ≤ text.length, ¬ expr.Matches text i text.length := by
  intro i hi hmatch
  have hfirst := Regex.isFirst_find? (.seq expr (.look .textEnd)) text
  rw [hfind] at hfirst
  refine hfirst i (Nat.zero_le i) hi text.length ⟨text.length, hmatch, rfl, ?_⟩
  simp [Regex.Look.HoldsAt, Regex.Look.holds]

/-- A parenthesis in the source closes the group of the anchor, and the anchor then holds for one
branch only: the other branch of the first pattern matches `b` after `a`, and that of the second
one matches `b` before `a`. -/
theorem anchor_lost :
    (∃ pattern, compile "x)|(?:b" .start = .ok pattern ∧
      pattern.matchBytes? "ab".toList = some 2 ∧
      pattern.regex.find? "ab".toList = some ⟨1, 2⟩) ∧
    ∃ pattern, compile "b)|(?:x" .finish = .ok pattern ∧
      pattern.isMatch "ba".toList = true ∧
      ∀ i ≤ "ba".toList.length, ¬ pattern.Matches "ba".toList i "ba".toList.length := by
  constructor
  · have hrun : (compile "x)|(?:b" .start).toOption.map (fun pattern =>
        (pattern.matchBytes? "ab".toList, pattern.regex.find? "ab".toList)) =
        some (some 2, some ⟨1, 2⟩) := by
      decide +kernel
    cases hcompile : compile "x)|(?:b" .start with
    | error error => rw [hcompile] at hrun; cases hrun
    | ok pattern =>
        rw [hcompile] at hrun
        obtain ⟨hbytes, hfind⟩ := Prod.mk.inj (Option.some.inj hrun)
        exact ⟨pattern, rfl, hbytes, hfind⟩
  -- that no match ends at the end of the text is one search, for such a match
  · have hrun : (compile "b)|(?:x" .finish).toOption.map (fun pattern =>
        (pattern.isMatch "ba".toList,
          (Regex.ofExpr (.seq pattern.regex.expr (.look .textEnd))).find? "ba".toList)) =
        some (true, none) := by
      decide +kernel
    cases hcompile : compile "b)|(?:x" .finish with
    | error error => rw [hcompile] at hrun; cases hrun
    | ok pattern =>
        rw [hcompile] at hrun
        obtain ⟨hmatch, hfind⟩ := Prod.mk.inj (Option.some.inj hrun)
        exact ⟨pattern, rfl, hmatch, not_matches_length_of_find?_eq_none hfind⟩

end Pattern

end Transliteration
