import Transliteration.Decomposition

/-!
# The results for one character

Two facts about the results that the formulas have for a character, from which everything about
decomposition follows.

* `results_eq` describes how they come about: one result for each formula that covers the code
  point, in the order of the formulas, computed from the results before it.
* `sort_perm` and `sort_eq` describe the order in which they are written: the same results, those
  without a value first and then the values in ascending order.
-/

namespace Transliteration.Decomposition

/-- The formulas that apply to a code point. -/
def covering (formulas : List Formula) (code : Int64) : List Formula :=
  formulas.filter fun formula => formula.covers code

/-! ## Evaluation -/

/-- The new results stand behind the earlier ones.  There is one for each covering formula, which
has seen the results before it. -/
theorem results_eq (code : Int64) (formulas : List Formula) :
    ∀ earlier, ∃ new, results code earlier formulas = earlier ++ new ∧
      new.length = (covering formulas code).length ∧
      ∀ (i : Nat) (formula : Formula), (covering formulas code)[i]? = some formula →
        new[i]? = some (formula.eval code (earlier ++ new.take i)) := by
  induction formulas with
  | nil => intro earlier; exact ⟨[], by simp [results], rfl, by simp [covering]⟩
  | cons formula formulas ih =>
      intro earlier
      by_cases hcovers : formula.covers code
      -- the result of this formula counts among the earlier ones for the next
      · obtain ⟨new, hresults, hlength, hnew⟩ := ih (earlier ++ [formula.eval code earlier])
        have hcovering : covering (formula :: formulas) code =
            formula :: covering formulas code := by simp [covering, hcovers]
        refine ⟨formula.eval code earlier :: new, ?_, ?_, ?_⟩
        · rw [results, if_pos hcovers, hresults, List.append_assoc, List.singleton_append]
        · rw [hcovering, List.length_cons, List.length_cons, hlength]
        · intro i other hother
          rw [hcovering] at hother
          cases i with
          | zero =>
              obtain rfl : formula = other := by simpa using hother
              simp
          | succ i =>
              have hi := hnew i other (by simpa using hother)
              simpa using hi
      · obtain ⟨new, hresults, hlength, hnew⟩ := ih earlier
        have hcovering : covering (formula :: formulas) code = covering formulas code := by
          simp [covering, hcovers]
        rw [results, if_neg hcovers, hcovering]
        exact ⟨new, hresults, hlength, hnew⟩

/-- A character that no formula covers has no results. -/
theorem results_eq_nil_iff {code : Int64} {formulas : List Formula} :
    results code [] formulas = [] ↔ covering formulas code = [] := by
  obtain ⟨new, hresults, hlength, -⟩ := results_eq code formulas []
  rw [hresults, List.nil_append, ← List.length_eq_zero_iff, hlength, List.length_eq_zero_iff]

/-! ## Sorting -/

theorem precedes_total (a b : Option Int64) : precedes a b = true ∨ precedes b a = true := by
  match a, b with
  | none, _ => exact .inl rfl
  | some _, none => exact .inr rfl
  | some a, some b => simpa [precedes] using Int64.le_total a b

theorem precedes_trans {a b c : Option Int64} (hab : precedes a b = true)
    (hbc : precedes b c = true) : precedes a c = true := by
  match a, b, c with
  | none, _, _ => rfl
  | some _, none, _ => simp [precedes] at hab
  | some _, some _, none => simp [precedes] at hbc
  | some a, some b, some c =>
      simp only [precedes, decide_eq_true_eq] at hab hbc ⊢
      exact Int64.le_trans hab hbc

theorem precedes_antisymm {a b : Option Int64} (hab : precedes a b = true)
    (hba : precedes b a = true) : a = b := by
  match a, b with
  | none, none => rfl
  | none, some _ => simp [precedes] at hba
  | some _, none => simp [precedes] at hab
  | some a, some b =>
      simp only [precedes, decide_eq_true_eq] at hab hba
      exact congrArg some (Int64.le_antisymm hab hba)

theorem insertResult_perm (result : Option Int64) (results : List (Option Int64)) :
    (insertResult result results).Perm (result :: results) := by
  induction results with
  | nil => exact .refl _
  | cons head rest ih =>
      rw [insertResult]
      split
      · exact .refl _
      · exact (ih.cons head).trans (.swap ..)

theorem pairwise_insertResult (result : Option Int64) {results : List (Option Int64)}
    (hsorted : results.Pairwise (precedes · ·)) :
    (insertResult result results).Pairwise (precedes · ·) := by
  induction results with
  | nil => simp [insertResult]
  | cons head rest ih =>
      obtain ⟨hhead, hrest⟩ := List.pairwise_cons.mp hsorted
      rw [insertResult]
      split
      · next hle =>
          refine List.pairwise_cons.mpr ⟨fun other hother => ?_, hsorted⟩
          rcases List.mem_cons.mp hother with rfl | hother
          · exact hle
          · exact precedes_trans hle (hhead other hother)
      · next hnot =>
          refine List.pairwise_cons.mpr ⟨fun other hother => ?_, ih hrest⟩
          rcases List.mem_cons.mp ((insertResult_perm result rest).mem_iff.mp hother) with
            rfl | hother
          · exact (precedes_total other head).resolve_left hnot
          · exact hhead other hother

/-- Sorting loses no result and adds none. -/
theorem sort_perm (results : List (Option Int64)) : (sort results).Perm results := by
  induction results with
  | nil => exact .refl _
  | cons result results ih =>
      exact (insertResult_perm result (sort results)).trans (ih.cons result)

theorem pairwise_sort (results : List (Option Int64)) :
    (sort results).Pairwise (precedes · ·) := by
  induction results with
  | nil => exact .nil
  | cons result results ih => exact pairwise_insertResult result ih

/-- Ordered results are some without a value and then the values in ascending order. -/
theorem eq_of_pairwise_precedes {results : List (Option Int64)}
    (hsorted : results.Pairwise (precedes · ·)) :
    ∃ (failed : Nat) (values : List Int64),
      results = List.replicate failed none ++ values.map some ∧
      values.Pairwise fun a b => a.toInt ≤ b.toInt := by
  induction results with
  | nil => exact ⟨0, [], rfl, .nil⟩
  | cons head rest ih =>
      obtain ⟨hhead, hrest⟩ := List.pairwise_cons.mp hsorted
      obtain ⟨failed, values, rfl, hvalues⟩ := ih hrest
      cases head with
      | none => exact ⟨failed + 1, values, by simp [List.replicate_succ], hvalues⟩
      | some value =>
          -- nothing without a value can stand behind a value
          have hfailed : failed = 0 := by
            cases failed with
            | zero => rfl
            | succ failed =>
                have := hhead none (by simp [List.replicate_succ])
                simp [precedes] at this
          subst hfailed
          refine ⟨0, value :: values, by simp,
            List.pairwise_cons.mpr ⟨fun other hother => ?_, hvalues⟩⟩
          have hle := hhead (some other) (by simpa using hother)
          simpa [precedes, Int64.le_iff_toInt_le] using hle

/-- Sorted, the results without a value come first and the values follow in ascending order. -/
theorem sort_eq (results : List (Option Int64)) :
    ∃ (failed : Nat) (values : List Int64),
      sort results = List.replicate failed none ++ values.map some ∧
      values.Pairwise fun a b => a.toInt ≤ b.toInt :=
  eq_of_pairwise_precedes (pairwise_sort results)

end Transliteration.Decomposition
