import Transliteration.Proofs.Decomposition.Results

/-!
# The order of formulas

The order in which formulas are declared matters to decomposition only where a formula weighs the
results of others (`decompose_reorder`): each covering formula sees the results of those declared
before it, and what it does not weigh it does not see.  Ranks never matter.

## Strategy

* Without weights the results are those that the covering formulas have by themselves
  (`results_of_unweighted`), so another order of the formulas is another order of the results.
* What is written and reported for a character are sorted results, and so many equal warnings, so
  the order of the results does not matter (`piece_eq_of_perm`).
* Formulas that do not cover a character and the ranks of those that do have no part in its results
  (`results_covering`, `results_unranked`), so where the covering formulas keep their order the
  results are the same one by one.
-/

namespace Transliteration

/-! ## Formulas by themselves -/

/-- The formula without its rank. -/
def Formula.unranked (formula : Formula) : Formula := { formula with order := 0 }

@[simp] theorem Formula.weights_unranked (formula : Formula) :
    formula.unranked.weights = formula.weights := rfl

@[simp] theorem Formula.covers_unranked (formula : Formula) (code : Int64) :
    formula.unranked.covers code = formula.covers code := rfl

@[simp] theorem Formula.eval_unranked (formula : Formula) (code : Int64)
    (earlier : List (Option Int64)) :
    formula.unranked.eval code earlier = formula.eval code earlier := rfl

/-- A formula that weighs no results does not see them. -/
theorem Formula.eval_of_unweighted {formula : Formula} {code : Int64}
    (hweights : formula.weights.toList = []) (earlier : List (Option Int64)) :
    formula.eval code earlier = formula.eval code [] := by
  simp [Formula.eval, hweights, Formula.weightedSum]

namespace Decomposition

variable {formulas others : List Formula} {code : Int64}

theorem covering_unranked :
    covering (formulas.map Formula.unranked) code =
      (covering formulas code).map Formula.unranked := by
  rw [covering, List.filter_map]
  rfl

/-- The ranks of formulas have no part in the results. -/
theorem results_unranked (earlier : List (Option Int64)) :
    results code earlier (formulas.map Formula.unranked) = results code earlier formulas := by
  induction formulas generalizing earlier with
  | nil => rfl
  | cons formula formulas ih =>
      simp only [List.map_cons, results, Formula.covers_unranked, Formula.eval_unranked, ih]

/-- Formulas that do not cover the code point have no part in the results. -/
theorem results_covering (earlier : List (Option Int64)) :
    results code earlier (covering formulas code) = results code earlier formulas := by
  induction formulas generalizing earlier with
  | nil => rfl
  | cons formula formulas ih =>
      unfold covering at ih ⊢
      by_cases hcovers : formula.covers code
      · rw [List.filter_cons, if_pos hcovers, results, if_pos hcovers, results, if_pos hcovers]
        exact ih _
      · rw [List.filter_cons, if_neg hcovers, results, if_neg hcovers]
        exact ih _

/-! ## Formulas without weights -/

/-- Where no covering formula weighs other results each has the result it has by itself. -/
theorem results_of_unweighted
    (hweights : ∀ formula ∈ covering formulas code, formula.weights.toList = []) :
    results code [] formulas =
      (covering formulas code).map fun formula => formula.eval code [] := by
  obtain ⟨new, hresults, hlength, hnew⟩ := results_eq code formulas []
  rw [hresults, List.nil_append]
  apply List.ext_getElem?
  intro i
  rw [List.getElem?_map]
  cases hformula : (covering formulas code)[i]? with
  | none =>
      rw [List.getElem?_eq_none_iff, ← hlength] at hformula
      rw [List.getElem?_eq_none hformula]
      rfl
  | some formula =>
      rw [hnew i formula hformula, Formula.eval_of_unweighted
        (hweights formula (List.mem_of_getElem? hformula))]
      rfl

/-! ## The order of results -/

/-- Sorting forgets the order in which results come. -/
theorem sort_eq_of_perm {results others : List (Option Int64)} (hperm : results.Perm others) :
    sort results = sort others :=
  ((sort_perm results).trans (hperm.trans (sort_perm others).symm)).eq_of_pairwise
    (fun _ _ _ _ hab hba => precedes_antisymm hab hba) (pairwise_sort results)
    (pairwise_sort others)

/-- What a character is taken apart into, and what is reported about it, does not depend on the
order of its results. -/
theorem piece_eq_of_perm {c : Char}
    (hperm : (results (codeOf c) [] formulas).Perm (results (codeOf c) [] others)) :
    piece formulas c = piece others c := by
  have hsort := sort_eq_of_perm hperm
  have hfailed := (hperm.filter Option.isNone).length_eq
  unfold piece
  cases hfound : results (codeOf c) [] formulas with
  | nil =>
      rw [hfound] at hperm
      rw [hperm.symm.eq_nil]
  | cons result rest =>
      cases hothers : results (codeOf c) [] others with
      | nil =>
          rw [hothers] at hperm
          rw [hperm.eq_nil] at hfound
          cases hfound
      | cons result' rest' =>
          -- the warnings about results that could not be computed are all the same
          rw [hfound, hothers] at hsort hfailed
          simp only [List.map_const', hsort, hfailed]

/-! ## The order of formulas -/

/-- A character has the same results, in some order, from formulas in another order, if those that
cover it weigh no results or keep their order. -/
theorem results_perm
    (hsame : (formulas.map Formula.unranked).Perm (others.map Formula.unranked))
    (horder : (∀ formula ∈ covering formulas code, formula.weights.toList = []) ∨
      (covering formulas code).map Formula.unranked =
        (covering others code).map Formula.unranked) :
    (results code [] formulas).Perm (results code [] others) := by
  rcases horder with hweights | horder
  · have hcovering : ((covering formulas code).map Formula.unranked).Perm
        ((covering others code).map Formula.unranked) := by
      rw [← covering_unranked, ← covering_unranked]
      exact hsame.filter _
    have hweights' : ∀ formula ∈ covering others code, formula.weights.toList = [] := by
      intro formula hformula
      have hmem := hcovering.symm.subset (List.mem_map_of_mem hformula)
      obtain ⟨same, hsame, heq⟩ := List.mem_map.mp hmem
      have hsameWeights : same.unranked.weights = formula.unranked.weights := by rw [heq]
      rw [← Formula.weights_unranked formula, ← hsameWeights]
      exact hweights same hsame
    rw [results_of_unweighted hweights, results_of_unweighted hweights']
    have hresults := hcovering.map fun formula => formula.eval code []
    rwa [List.map_map, List.map_map] at hresults
  · rw [← results_covering, ← results_unranked, horder, results_unranked, results_covering]

/-- Another order of the formulas, and other ranks, make no difference to any text, if for every
character the formulas that cover it weigh no results or keep their order. -/
theorem decompose_reorder (formulas others : List Formula) (text : List Char)
    (hsame : (formulas.map Formula.unranked).Perm (others.map Formula.unranked))
    (horder : ∀ c : Char,
      (∀ formula ∈ covering formulas (codeOf c), formula.weights.toList = []) ∨
      (covering formulas (codeOf c)).map Formula.unranked =
        (covering others (codeOf c)).map Formula.unranked) :
    decompose formulas text = decompose others text := by
  have hpiece : piece formulas = piece others := by
    funext c
    exact piece_eq_of_perm (results_perm hsame (horder c))
  rw [decompose, decompose, hpiece]

/-- Of the formulas for `A` one fails, and they change places.  The second formula for `B` weighs
the result of the first one and stays behind it. -/
theorem decompose_reorder_overlapping :
    let fails : Formula := ⟨Int64.maxValue, 1, 1, 0, 0, 0x41, 0x41, .empty⟩
    let keeps : Formula := ⟨0, 1, 1, 0, 1, 0x41, 0x42, .empty⟩
    let weighs : Formula := ⟨0, 1, 1, 0, 2, 0x42, 0x42, Weights.empty.insert 0 1⟩
    decompose [fails, keeps, weighs] "AB".toList =
        decompose [{ keeps with order := 7 }, weighs, fails] "AB".toList ∧
      (decompose [fails, keeps, weighs] "AB".toList).value = "\uFFFDAB\u0084".toList := by
  intro fails keeps weighs
  refine ⟨decompose_reorder _ _ _ (by decide) fun c => ?_, by decide⟩
  by_cases hb : codeOf c = 0x42
  · exact .inr (by rw [hb]; decide)
  · -- the formula with a weight covers `B` only
    refine .inl fun formula hformula => ?_
    obtain ⟨hmem, hcovers⟩ := List.mem_filter.mp hformula
    simp only [List.mem_cons, List.not_mem_nil, or_false] at hmem
    rcases hmem with rfl | rfl | rfl
    · rfl
    · rfl
    · simp only [weighs, Formula.covers, Bool.and_eq_true, decide_eq_true_eq] at hcovers
      exact absurd (Int64.le_antisymm hcovers.2 hcovers.1) hb

end Decomposition

end Transliteration
