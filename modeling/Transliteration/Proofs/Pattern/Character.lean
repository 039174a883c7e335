import Transliteration.Proofs.Pattern.Anchoring

/-!
# Patterns of one character

A character that means nothing else in a pattern and has no other case is a pattern that matches
texts that begin with it, and of these one character (`Pattern.exists_compile_character`).

## Strategy

* A run of the case folding that has no member in a range and leads to none there adds nothing to
  the range.  Where that holds of all runs the range is closed under case
  (`Unicode.closeUnderCase_ofRange`).
* The reader is followed through the anchor, the one character and the end of its group.
* What the pattern matches is told from its expression, since a search finds the leftmost match.
-/

namespace Transliteration

/-! ## Characters without case -/

namespace Unicode

/-- The run neither takes a character from the range nor puts one there. -/
def FoldRun.Avoids (run : FoldRun) (lo hi : Nat) : Prop :=
  (hi < run.first ∨ run.last < lo) ∧
    (hi < run.target ∨ run.target + (run.last - run.first) < lo)

instance (run : FoldRun) (lo hi : Nat) : Decidable (run.Avoids lo hi) :=
  inferInstanceAs (Decidable (_ ∧ _))

/-- There is no other case of any character in the range. -/
def CaselessRange (lo hi : Nat) : Prop := ∀ run ∈ foldRuns, run.Avoids lo hi

instance (lo hi : Nat) : Decidable (CaselessRange lo hi) :=
  inferInstanceAs (Decidable (∀ run ∈ foldRuns, run.Avoids lo hi))

theorem CaselessRange.mono {lo hi lo' hi' : Nat} (hcaseless : CaselessRange lo hi)
    (hlo : lo ≤ lo') (hhi : hi' ≤ hi) : CaselessRange lo' hi' := by
  intro run hrun
  obtain ⟨hsource, htarget⟩ := hcaseless run hrun
  exact ⟨by omega, by omega⟩

theorem FoldRun.images_eq_nil {run : FoldRun} {lo hi : Nat}
    (hapart : hi < run.first ∨ run.last < lo) : run.images lo hi = [] := by
  have hempty : min hi run.last < max lo run.first := by omega
  simp only [images, hempty, if_true]

/-- Runs that have no member in a range leave it as it is. -/
theorem addImages_ofRange {runs : List FoldRun} {lo hi : Nat}
    (hapart : ∀ run ∈ runs, hi < run.first ∨ run.last < lo) :
    addImages runs (.ofRange lo hi) = .ofRange lo hi := by
  refine congrArg CharSet.mk (List.foldlRecOn (motive := (· = [(lo, hi)])) runs _ rfl ?_)
  rintro _ rfl run hrun
  simp only [CharSet.ofRange, List.foldl_cons, FoldRun.images_eq_nil (hapart run hrun),
    List.foldl_nil]

/-- A range without case is closed under case. -/
theorem closeUnderCase_ofRange {lo hi : Nat} (hcaseless : CaselessRange lo hi) :
    closeUnderCase (.ofRange lo hi) = .ofRange lo hi := by
  rw [closeUnderCase, closeUnder, addImages_ofRange fun run hrun => (hcaseless run hrun).1]
  refine addImages_ofRange fun inverse hinverse => ?_
  obtain ⟨run, hrun, rfl⟩ := List.mem_map.mp hinverse
  exact (hcaseless run hrun).2

end Unicode

/-! ## Reading the pattern -/

namespace Regex

/-- The character stands for itself alone in a pattern that ignores case. -/
structure IsPlain (c : Char) : Prop where
  notSpecial : isSpecial c = false
  caseless : Unicode.CaselessRange c.toNat c.toNat

variable {c : Char} {modes : Modes} {rest : List Char} {groups bound : Nat}
  {names : List (List Char)} {soFar : GroupSoFar}

theorem toNat_lt_of_isSpecial (hspecial : isSpecial c = true) : c.toNat < 0x80 := by
  have hascii : "\\.+*?()|[]\x7b\x7d^$#&-~".toList.all fun special => special.toNat < 0x80 := by
    decide
  simpa using List.all_eq_true.mp hascii c (List.contains_iff_mem.mp hspecial)

/-- A character beyond ASCII that has no other case stands for itself. -/
theorem isPlain_of_caseless (hlarge : 0x80 ≤ c.toNat)
    (hcaseless : Unicode.CaselessRange c.toNat c.toNat) : IsPlain c where
  notSpecial := by
    rw [Bool.eq_false_iff]
    intro hspecial
    have := toNat_lt_of_isSpecial hspecial
    omega
  caseless := hcaseless

theorem charExpr_of_isPlain (hplain : IsPlain c) (hunicode : modes.unicode = true) :
    charExpr modes c = .one (.singleton c) := by
  rw [charExpr, foldSet, hunicode, CharSet.singleton,
    Unicode.closeUnderCase_ofRange hplain.caseless]
  split <;> rfl

theorem ne_of_isPlain (hplain : IsPlain c) {special : Char} (hspecial : isSpecial special = true) :
    c ≠ special := by
  rintro rfl
  rw [hplain.notSpecial] at hspecial
  cases hspecial

theorem readAtom_of_isPlain (hplain : IsPlain c) :
    readAtom modes c rest = .ok (charExpr modes c, rest) := by
  rw [readAtom, if_neg (ne_of_isPlain hplain (by decide)),
    if_neg (ne_of_isPlain hplain (by decide)), if_neg (ne_of_isPlain hplain (by decide)),
    if_neg (ne_of_isPlain hplain (by decide))]

theorem readGroup_of_isPlain (hplain : IsPlain c) (hverbose : modes.verbose = false) :
    readGroup (bound + 1) ⟨c :: rest, modes, groups, names⟩ soFar =
      readGroup bound ⟨rest, modes, groups, names⟩
        (soFar.add { expr := charExpr modes c, levels := 0 }) := by
  rw [readGroup]
  simp only [skip_of_not_verbose hverbose]
  split
  case h_1 hnil => cases hnil
  case h_10 hrest =>
    cases hrest
    rw [readAtom_of_isPlain hplain]
    rfl
  all_goals
    rename_i hcons
    exact absurd (List.cons.inj hcons).1 (ne_of_isPlain hplain (by decide))

theorem readGroup_close (hverbose : modes.verbose = false) :
    readGroup (bound + 1) ⟨')' :: rest, modes, groups, names⟩ soFar =
      .ok (soFar.close, ⟨')' :: rest, modes, groups, names⟩) := by
  simp [readGroup, skip_of_not_verbose hverbose]

/-- The anchor and the character. -/
def Expr.atStart (c : Char) : Expr := .seq (.look .textStart) (.one (.singleton c))

theorem readPattern_of_isPlain (hplain : IsPlain c) :
    readPattern { ignoreCase := true } ['^', '(', '?', ':', c, ')'] =
      .ok (Expr.atStart c) := by
  unfold readPattern
  rw [List.length_cons, readGroup_caret rfl rfl]
  simp only [List.length_cons, List.length_nil]
  rw [readGroup_open rfl, readGroup_of_isPlain hplain rfl, readGroup_close rfl]
  simp only [Except.bind]
  rw [readGroup_nil rfl, charExpr_of_isPlain hplain rfl]
  rfl

/-- The pattern takes a few states only, however the character is written. -/
theorem isTooLarge_atStart (c : Char) : (Expr.atStart c).isTooLarge = false := by
  have hset (direction : Direction) (storage : Storage) :
      storage.addSet direction (.singleton c) = storage.add (utf8Width c.toNat) 0 := by
    rw [Storage.addSet, show (CharSet.singleton c).only? = some c.toNat from if_pos rfl]
  have hforward : (Expr.atStart c).storage .forward = ⟨utf8Width c.toNat + 5, 0⟩ := by
    simp +arith [Expr.storage, Expr.atStart, Expr.isAnchored, Expr.addTo, hset, Storage.addBranch,
      Storage.add]
  have hbackward : (Expr.atStart c).storage .backward = ⟨utf8Width c.toNat + 5, 16⟩ := by
    simp +arith [Expr.storage, Expr.atStart, Expr.isAnchoredAtEnd, Expr.isPlace, Expr.addTo, hset,
      Storage.addBranch, Storage.add]
  have hwidth : utf8Width c.toNat ≤ 4 := by
    unfold utf8Width
    split_ifs <;> omega
  simp only [Expr.isTooLarge, hforward, hbackward, Storage.isTooLarge, Storage.bytes, sizeLimit,
    Bool.or_eq_false_iff, decide_eq_false_iff_not]
  omega

/-! ## What the pattern matches -/

theorem contains_singleton {other : Char} :
    (CharSet.singleton c).contains other = true ↔ other = c := by
  simp only [CharSet.singleton, CharSet.ofRange, CharSet.contains, CharSet.containsCode,
    List.any_cons, List.any_nil, Bool.or_false, Bool.and_eq_true, decide_eq_true_iff,
    ← Char.toNat_inj]
  omega

theorem matches_atStart_iff {text : List Char} {i j : Nat} :
    (Expr.atStart c).Matches text i j ↔ i = 0 ∧ j = 1 ∧ text.head? = some c := by
  rw [List.head?_eq_getElem?]
  constructor
  · intro hmatch
    have hone := hmatch
    obtain ⟨_, ⟨rfl, -⟩, rfl, other, hother, hmem⟩ := hone
    obtain ⟨hi, -⟩ := List.getElem?_eq_some_iff.mp hother
    obtain rfl := Expr.eq_zero_of_isAnchored (rfl : (Expr.atStart c).isAnchored = true)
      (Nat.le_of_lt hi) hmatch
    rw [contains_singleton.mp hmem] at hother
    exact ⟨rfl, rfl, hother⟩
  · rintro ⟨rfl, rfl, hhead⟩
    exact ⟨0, ⟨rfl, rfl⟩, rfl, c, hhead, contains_singleton.mpr rfl⟩

end Regex

namespace Pattern

variable {c : Char}

/-- The pattern matches the character at the start of a text, and nothing else. -/
def MatchesOnly (pattern : Pattern) (c : Char) : Prop :=
  ∀ text, pattern.matchLength? text = if text.head? = some c then some 1 else none

theorem MatchesOnly.unique {pattern : Pattern} {other : Char} (hc : pattern.MatchesOnly c)
    (hother : pattern.MatchesOnly other) : c = other := by
  have hlength := (hc [c]).symm.trans (hother [c])
  simpa using hlength

/-- A character that stands for itself is a pattern for itself. -/
theorem exists_compile_character (hplain : Regex.IsPlain c) {source : String}
    (hsource : source.toList = [c]) :
    ∃ pattern, compile source .start = .ok pattern ∧ pattern.MatchesOnly c := by
  have hwrap : Anchor.wrap source .start = ['^', '(', '?', ':', c, ')'] := by
    rw [Anchor.wrap_start, hsource]
    rfl
  refine ⟨⟨source, .start, Regex.ofExpr (.atStart c)⟩, ?_, fun text => ?_⟩
  · rw [compile, hwrap, Regex.compile, Regex.readPattern_of_isPlain hplain]
    simp [bind, Except.bind, Regex.isTooLarge_atStart, pure, Except.pure]
  · have hfirst := Regex.isFirst_find? (.atStart c) text
    unfold matchLength?
    -- the anchored search finds the character at the start or nothing at all
    cases hfind : (Regex.ofExpr (.atStart c)).find? text with
    | none =>
        rw [hfind] at hfirst
        have hhead : text.head? ≠ some c := by
          intro hhead
          have hmatch := Regex.matches_atStart_iff.mpr ⟨rfl, rfl, hhead⟩
          exact hfirst 0 (Nat.le_refl 0) (Nat.zero_le _) 1 hmatch
        simp [hhead]
    | some span =>
        rw [hfind] at hfirst
        obtain ⟨-, -, hmatch, -⟩ := hfirst
        obtain ⟨-, hstop, hhead⟩ := Regex.matches_atStart_iff.mp hmatch
        simp [hhead, hstop]

end Pattern

end Transliteration
