import Mathlib.Data.List.Forall2
import Transliteration.Proofs.Decomposition.Results

/-!
# The constituents of a character

`decompose_constituents` says what decomposition makes of a text, whatever the formulas are.  Every
character is taken apart by itself, and its constituents are those that `Constituents` describes:

* a character that no formula covers stays as it is;
* otherwise the covering formulas are evaluated in the order in which they are declared
  (`Evaluated`).  The weight with index `j` of the formula at index `i` belongs to the result of the
  covering formula at index `j` for the same character if `j < i`, and counts nothing otherwise
  (`Formula.weighing`);
* each result is written as one character (`Written`): first those that could not be computed, then
  the others in ascending order.

The description leaves no choice: `Evaluated.unique` finds the results from the first to the last,
and two ascending arrangements of the same values are equal.
-/

namespace Transliteration

/-! ## What a formula sees -/

/-- The formula with the weights of the results before an index alone. -/
def Formula.weighing (formula : Formula) (index : Nat) : Formula :=
  { formula with
    weights := ⟨formula.weights.toList.filter fun entry => entry.1 < index,
      formula.weights.ascending.filter _⟩ }

theorem Formula.weightedSum_take (outcomes : List (Option Int64)) (index : Nat)
    (entries : List (Nat × Int64)) :
    ∀ sum, weightedSum (outcomes.take index) sum entries =
      weightedSum outcomes sum (entries.filter fun entry => entry.1 < index) := by
  induction entries with
  | nil => intro sum; rfl
  | cons entry rest ih =>
      intro sum
      obtain ⟨i, weight⟩ := entry
      by_cases hi : i < index
      · rw [List.filter_cons_of_pos (by simpa using hi), weightedSum, weightedSum,
          List.getElem?_take_of_lt hi]
        simp only [ih]
      · have hnone : (outcomes.take index)[i]? = none := by
          rw [List.getElem?_take, if_neg hi]
        rw [List.filter_cons_of_neg (by simpa using hi), weightedSum, hnone]
        exact ih sum

/-- A formula that is told the results before an index alone does without the weights of others. -/
theorem Formula.eval_take (formula : Formula) (code : Int64) (outcomes : List (Option Int64))
    (index : Nat) :
    formula.eval code (outcomes.take index) = (formula.weighing index).eval code outcomes := by
  rw [eval, weightedSum_take]
  rfl

namespace Decomposition

/-- The results of formulas for a code point, each computed from the results of those before it. -/
structure Evaluated (formulas : List Formula) (code : Int64) (outcomes : List (Option Int64)) :
    Prop where
  length_eq : outcomes.length = formulas.length
  outcome : ∀ (i : Nat) (formula : Formula), formulas[i]? = some formula →
    outcomes[i]? = some ((formula.weighing i).eval code outcomes)

/-- A value is written as the character with this code point, or as the replacement character if it
is negative, a surrogate or too large. -/
def Written (value : Int64) (c : Char) : Prop :=
  (c.toNat : Int) = value.toInt ∨
    c = '\uFFFD' ∧ (value.toInt < 0 ∨ (0xD800 ≤ value.toInt ∧ value.toInt ≤ 0xDFFF) ∨
      0x10FFFF < value.toInt)

/-- What a character is taken apart into. -/
inductive Constituents (formulas : List Formula) (c : Char) : List Char → Prop
  | uncovered (hnone : covering formulas (codeOf c) = []) : Constituents formulas c [c]
  | covered {outcomes : List (Option Int64)} {failed : Nat} {values : List Int64}
      {chars : List Char} (hsome : covering formulas (codeOf c) ≠ [])
      (houtcomes : Evaluated (covering formulas (codeOf c)) (codeOf c) outcomes)
      (hperm : (List.replicate failed none ++ values.map some).Perm outcomes)
      (hascending : values.Pairwise fun a b => a.toInt ≤ b.toInt)
      (hchars : List.Forall₂ Written values chars) :
      Constituents formulas c (List.replicate failed '\uFFFD' ++ chars)

/-! ## The results are determined -/

theorem evaluated_results (formulas : List Formula) (code : Int64) :
    Evaluated (covering formulas code) code (results code [] formulas) := by
  obtain ⟨new, hresults, hlength, hnew⟩ := results_eq code formulas []
  rw [hresults, List.nil_append]
  refine ⟨hlength, fun i formula hformula => ?_⟩
  rw [hnew i formula hformula, List.nil_append, Formula.eval_take]

/-- Results are found one after another, so there is only one list of them. -/
theorem Evaluated.unique {formulas : List Formula} {code : Int64}
    {outcomes others : List (Option Int64)} (houtcomes : Evaluated formulas code outcomes)
    (hothers : Evaluated formulas code others) : outcomes = others := by
  -- each result is computed from those before it, so the lists agree up to any index
  have htake : ∀ i, i ≤ formulas.length → outcomes.take i = others.take i := by
    intro i
    induction i with
    | zero => intro _; rfl
    | succ i ih =>
        intro hi
        have hformula : formulas[i]? = some formulas[i] := List.getElem?_eq_getElem hi
        have hprevious := ih (by omega)
        rw [List.take_add_one, List.take_add_one, hprevious, houtcomes.outcome i _ hformula,
          hothers.outcome i _ hformula, ← Formula.eval_take, ← Formula.eval_take, hprevious]
  have hall := htake formulas.length (Nat.le_refl _)
  rwa [← houtcomes.length_eq, List.take_length, houtcomes.length_eq, ← hothers.length_eq,
    List.take_length] at hall

/-! ## The characters are determined -/

/-- The code points of characters are those below the surrogates and those above. -/
theorem toNat_char (c : Char) : c.toNat < 0xD800 ∨ 0xDFFF < c.toNat ∧ c.toNat < 0x110000 := c.valid

theorem charOf?_eq_some_iff {value : Int64} {c : Char} :
    charOf? value = some c ↔ (c.toNat : Int) = value.toInt := by
  simp only [charOf?, Option.ite_none_right_eq_some, Option.some.injEq]
  constructor
  · rintro ⟨hvalid, rfl⟩
    have hnat : value.toInt.toNat.isValidChar := by
      unfold Nat.isValidChar
      omega
    have hchar : (Char.ofNat value.toInt.toNat).toNat = value.toInt.toNat := by
      rw [Char.ofNat, dif_pos hnat]
      rfl
    omega
  · intro hc
    have hchar := toNat_char c
    refine ⟨by omega, ?_⟩
    rw [← hc, Int.toNat_natCast, Char.ofNat_toNat]

theorem charOf?_eq_none_iff {value : Int64} :
    charOf? value = none ↔ value.toInt < 0 ∨ (0xD800 ≤ value.toInt ∧ value.toInt ≤ 0xDFFF) ∨
      0x10FFFF < value.toInt := by
  simp only [charOf?, ite_eq_right_iff, reduceCtorEq, imp_false]
  omega

theorem written_iff {value : Int64} {c : Char} : Written value c ↔ c = emit (some value) := by
  unfold Written emit
  rw [← charOf?_eq_some_iff, ← charOf?_eq_none_iff]
  cases hchar : charOf? value with
  | none => simp [hchar, replacement]
  | some d => simp [hchar, eq_comm]

theorem forall₂_written_iff {values : List Int64} {chars : List Char} :
    List.Forall₂ Written values chars ↔ chars = values.map fun value => emit (some value) := by
  induction values generalizing chars with
  | nil => simp
  | cons value values ih =>
      rw [List.map_cons, List.forall₂_cons_left_iff]
      constructor
      · rintro ⟨c, rest, hc, hrest, rfl⟩
        rw [written_iff.mp hc, ih.mp hrest]
      · rintro rfl
        exact ⟨_, _, written_iff.mpr rfl, ih.mpr rfl, rfl⟩

/-- An ascending arrangement of results is unique. -/
theorem eq_of_perm {failed failed' : Nat} {values values' : List Int64}
    (hperm : (List.replicate failed none ++ values.map some).Perm
      (List.replicate failed' none ++ values'.map some))
    (hvalues : values.Pairwise fun a b => a.toInt ≤ b.toInt)
    (hvalues' : values'.Pairwise fun a b => a.toInt ≤ b.toInt) :
    failed = failed' ∧ values = values' := by
  -- without the failed results the values are left, in some order
  have hvaluesPerm : values.Perm values' := by
    have := hperm.filterMap id
    simpa [List.filterMap_replicate] using this
  have hlength := hperm.length_eq
  simp only [List.length_append, List.length_replicate, List.length_map,
    hvaluesPerm.length_eq] at hlength
  refine ⟨by omega, ?_⟩
  exact hvaluesPerm.eq_of_pairwise (fun a b _ _ hab hba => Int64.toInt_inj.mp (by omega))
    hvalues hvalues'

/-! ## Decomposition -/

theorem value_piece_of_uncovered {formulas : List Formula} {c : Char}
    (hnone : covering formulas (codeOf c) = []) : (piece formulas c).value = [c] := by
  rw [piece, results_eq_nil_iff.mpr hnone]

theorem value_piece_of_covered {formulas : List Formula} {c : Char}
    (hsome : covering formulas (codeOf c) ≠ []) :
    (piece formulas c).value = (sort (results (codeOf c) [] formulas)).map emit := by
  rw [piece]
  split
  · next hnil => exact absurd (results_eq_nil_iff.mp hnil) hsome
  · rfl

/-- The description of the constituents fits one list of characters, which is what decomposition
makes of the character. -/
theorem constituents_iff (formulas : List Formula) (c : Char) (chars : List Char) :
    Constituents formulas c chars ↔ chars = (piece formulas c).value := by
  have hevaluated := evaluated_results formulas (codeOf c)
  obtain ⟨failed, values, hsort, hascending⟩ := sort_eq (results (codeOf c) [] formulas)
  constructor
  · intro hchars
    cases hchars with
    | uncovered hnone => rw [value_piece_of_uncovered hnone]
    | covered hsome houtcomes hperm hascending' hwritten =>
        obtain rfl := houtcomes.unique hevaluated
        have hperm := hperm.trans (sort_perm _).symm
        rw [hsort] at hperm
        obtain ⟨rfl, rfl⟩ := eq_of_perm hperm hascending' hascending
        rw [value_piece_of_covered hsome, hsort, forall₂_written_iff.mp hwritten]
        simp [emit, replacement]
  · rintro rfl
    by_cases hnone : covering formulas (codeOf c) = []
    · rw [value_piece_of_uncovered hnone]
      exact .uncovered hnone
    · rw [value_piece_of_covered hnone, hsort, List.map_append, List.map_replicate, List.map_map]
      refine .covered hnone hevaluated (hsort ▸ sort_perm _) hascending ?_
      exact forall₂_written_iff.mpr rfl

/-- Decomposition takes every character apart by itself, into the constituents that the formulas
leave no choice about: as many as there are formulas that cover the character, or the character
itself where there are none. -/
theorem decompose_constituents (formulas : List Formula) :
    ∃ pieceOf : Char → List Char,
      (∀ c chars, Constituents formulas c chars ↔ chars = pieceOf c) ∧
      (∀ c, covering formulas (codeOf c) ≠ [] →
        (pieceOf c).length = (covering formulas (codeOf c)).length) ∧
      (∀ text, (decompose formulas text).value = text.flatMap pieceOf) ∧
      ∀ first second, (decompose formulas (first ++ second)).value =
        (decompose formulas first).value ++ (decompose formulas second).value := by
  refine ⟨fun c => (piece formulas c).value, constituents_iff formulas, ?_, fun _ => rfl, ?_⟩
  · intro c hsome
    show (piece formulas c).value.length = _
    rw [value_piece_of_covered hsome, List.length_map, (sort_perm _).length_eq]
    exact (evaluated_results formulas (codeOf c)).length_eq
  · intro first second
    simp only [decompose, List.flatMap_append]

end Decomposition

end Transliteration
