import Transliteration.Formula
import Transliteration.Proofs.Number.Checked

/-!
# The arithmetic of formulas

What a formula computes is told by integers of any size.  The result of a formula is the exact
result (`Formula.exactResult`), and there is none exactly if the formula asks for an earlier result
that has failed or if one of the intermediate integers does not have 64 bits
(`Formula.eval_exact`).

## Strategy

The weighted sum is the one step that is repeated, so its lemma (`weightedSum_eq_some_iff`) is by
induction on the weights, for every sum to start with.  The other steps are taken one after another
from the laws of the checked operations.
-/

namespace Transliteration.Formula

/-! ## The exact integers -/

/-- The products of the earlier results and their weights, in ascending order of their indices.
A result that has failed counts as zero here; it lets the formula fail anyway. -/
def products (earlier : List (Option Int64)) (entries : List (Nat × Int64)) : List Int :=
  entries.filterMap fun (index, weight) =>
    earlier[index]?.map fun result => (result.getD 0).toInt * weight.toInt

/-- The formula asks for an earlier result that has failed. -/
def AsksForFailure (earlier : List (Option Int64)) (entries : List (Nat × Int64)) : Prop :=
  ∃ entry ∈ entries, earlier[entry.1]? = some none

/-- The weighted sum of the earlier results. -/
def exactSum (formula : Formula) (earlier : List (Option Int64)) : Int :=
  (products earlier formula.weights.toList).sum

/-- The value that is reduced and divided. -/
def exactValue (formula : Formula) (code : Int64) (earlier : List (Option Int64)) : Int :=
  code.toInt + formula.exactSum earlier + formula.offset.toInt

/-- The value modulo the modulus, with the sign of the value. -/
def exactReduced (formula : Formula) (code : Int64) (earlier : List (Option Int64)) : Int :=
  if formula.modulus = 0 ∨ formula.modulus = 1 then formula.exactValue code earlier
  else (formula.exactValue code earlier).tmod formula.modulus.toInt

/-- The reduced value divided by the divisor and truncated toward zero. -/
def exactQuotient (formula : Formula) (code : Int64) (earlier : List (Option Int64)) : Int :=
  if formula.divisor = 0 then formula.exactReduced code earlier
  else (formula.exactReduced code earlier).tdiv formula.divisor.toInt

/-- The result. -/
def exactResult (formula : Formula) (code : Int64) (earlier : List (Option Int64)) : Int :=
  formula.exactQuotient code earlier + formula.intercept.toInt

/-! ## The weighted sum -/

variable {earlier : List (Option Int64)} {formula : Formula} {code : Int64}

/-- The sum and all the sums that adding the products to it one after another leads through have
64 bits. -/
def PartialSumsFit (sum : Int) (products : List Int) : Prop :=
  ∀ count, Checked.Fits (sum + (products.take count).sum)

theorem partialSumsFit_cons_iff {sum product : Int} {rest : List Int} :
    PartialSumsFit sum (product :: rest) ↔
      Checked.Fits sum ∧ PartialSumsFit (sum + product) rest := by
  constructor
  · intro hsums
    refine ⟨by simpa using hsums 0, fun count => ?_⟩
    simpa [Int.add_assoc] using hsums (count + 1)
  · rintro ⟨hsum, hrest⟩ count
    cases count with
    | zero => simpa using hsum
    | succ count => simpa [Int.add_assoc] using hrest count

/-- The weighted sum is exact, and it is there exactly if no failed result is asked for and all the
products and all the sums on the way have 64 bits. -/
theorem weightedSum_eq_some_iff {entries : List (Nat × Int64)} {sum weighted : Int64} :
    weightedSum earlier sum entries = some weighted ↔
      ¬ AsksForFailure earlier entries ∧
      (∀ product ∈ products earlier entries, Checked.Fits product) ∧
      PartialSumsFit sum.toInt (products earlier entries) ∧
      weighted.toInt = sum.toInt + (products earlier entries).sum := by
  induction entries generalizing sum with
  | nil => simp [weightedSum, AsksForFailure, products, PartialSumsFit, Checked.fits_toInt, eq_comm,
      ← Int64.toInt_inj]
  | cons entry rest ih =>
      obtain ⟨index, weight⟩ := entry
      cases hresult : earlier[index]? with
      -- a result that is not there is passed over
      | none => simp [weightedSum, hresult, ih, AsksForFailure, products]
      | some result =>
          cases result with
          | none => simp [weightedSum, hresult, AsksForFailure]
          | some result =>
              have hasks : AsksForFailure earlier ((index, weight) :: rest) ↔
                  AsksForFailure earlier rest := by
                simp [AsksForFailure, hresult]
              have hproducts : products earlier ((index, weight) :: rest) =
                  result.toInt * weight.toInt :: products earlier rest := by
                simp [products, hresult]
              -- The first product is split off, and the induction goes on from the next sum.
              rw [hasks, hproducts, partialSumsFit_cons_iff, List.forall_mem_cons, List.sum_cons,
                weightedSum, hresult]
              simp only [Option.bind_eq_bind, Option.bind_some, Option.bind_eq_some_iff, ih,
                Checked.mul?_eq_some_iff, Checked.add?_eq_some_iff]
              constructor
              · rintro ⟨product, hproduct, next, hnext, hrest, hfit, hsums, hweighted⟩
                rw [hnext, hproduct] at hsums hweighted
                refine ⟨hrest, ⟨hproduct ▸ Checked.fits_toInt product, hfit⟩,
                  ⟨Checked.fits_toInt sum, hsums⟩, ?_⟩
                rw [hweighted, Int.add_assoc]
              · rintro ⟨hrest, ⟨hproduct, hfit⟩, ⟨_, hsums⟩, hweighted⟩
                obtain ⟨product, hproduct⟩ := Checked.exists_toInt_eq_iff.mpr hproduct
                obtain ⟨next, hnext⟩ := Checked.exists_toInt_eq_iff.mpr (by simpa using hsums 0)
                rw [← hproduct] at hnext
                refine ⟨product, hproduct, next, hnext, hrest, hfit, ?_, ?_⟩
                · rwa [hnext, hproduct]
                · rw [hweighted, hnext, hproduct, Int.add_assoc]

/-! ## Reducing and dividing -/

/-- The value modulo the modulus, as far as it can be computed. -/
def reduced? (formula : Formula) (value : Int64) : Option Int64 :=
  if formula.modulus = 0 ∨ formula.modulus = 1 then some value
  else Checked.remainder? value formula.modulus

/-- The reduced value divided by the divisor, as far as it can be computed. -/
def quotient? (formula : Formula) (reduced : Int64) : Option Int64 :=
  if formula.divisor = 0 then some reduced else Checked.quotient? reduced formula.divisor

/-- Evaluation takes its five steps one after another. -/
theorem eval_eq_bind : formula.eval code earlier =
    (weightedSum earlier 0 formula.weights.toList).bind fun weighted =>
      (Checked.add? code weighted).bind fun sum =>
        (Checked.add? sum formula.offset).bind fun value =>
          (formula.reduced? value).bind fun reduced =>
            (formula.quotient? reduced).bind fun quotient =>
              Checked.add? quotient formula.intercept := by
  unfold eval reduced? quotient?
  split <;> split <;> rfl

/-- Without a modulus the value stays as it is, and with one only the least number can lack a
remainder. -/
theorem reduced?_eq_some_iff {value reduced : Int64} :
    formula.reduced? value = some reduced ↔
      ¬ (value.toInt = -2 ^ 63 ∧ formula.modulus.toInt = -1) ∧
        reduced.toInt = if formula.modulus = 0 ∨ formula.modulus = 1 then value.toInt
          else value.toInt.tmod formula.modulus.toInt := by
  unfold reduced?
  split
  · next hmodulus =>
    have hcorner : formula.modulus.toInt ≠ -1 := by
      rcases hmodulus with hmodulus | hmodulus <;> rw [hmodulus] <;> decide
    simp [hcorner, Int64.toInt_inj, eq_comm]
  · exact Checked.remainder?_eq_some_iff

theorem quotient?_eq_some_iff {reduced quotient : Int64} :
    formula.quotient? reduced = some quotient ↔
      quotient.toInt = if formula.divisor = 0 then reduced.toInt
        else reduced.toInt.tdiv formula.divisor.toInt := by
  unfold quotient?
  split
  · rw [Option.some_inj, Int64.toInt_inj, eq_comm]
  · exact Checked.quotient?_eq_some_iff

/-! ## The result -/

/-- All the integers on the way to the result have 64 bits. -/
structure Computable (formula : Formula) (code : Int64) (earlier : List (Option Int64)) : Prop where
  asks : ¬ AsksForFailure earlier formula.weights.toList
  products : ∀ product ∈ products earlier formula.weights.toList, Checked.Fits product
  sums : PartialSumsFit 0 (Formula.products earlier formula.weights.toList)
  weighted : Checked.Fits (code.toInt + formula.exactSum earlier)
  value : Checked.Fits (formula.exactValue code earlier)
  corner : ¬ (formula.exactValue code earlier = -2 ^ 63 ∧ formula.modulus.toInt = -1)
  quotient : Checked.Fits (formula.exactQuotient code earlier)

/-- A formula has a result if everything on the way to it has 64 bits, and the result is exact. -/
theorem eval_eq_some_iff {result : Int64} :
    formula.eval code earlier = some result ↔
      formula.Computable code earlier ∧ result.toInt = formula.exactResult code earlier := by
  simp only [eval_eq_bind, Option.bind_eq_some_iff, weightedSum_eq_some_iff,
    Checked.add?_eq_some_iff, reduced?_eq_some_iff, quotient?_eq_some_iff]
  constructor
  · rintro ⟨weighted, ⟨hasks, hproducts, hsums, hweighted⟩, sum, hsum, value, hvalue, reduced,
      ⟨hcorner, hreduced⟩, quotient, hquotient, hresult⟩
    -- each step is put in for the exact value that it has been computed from
    rw [hweighted, Int64.toInt_zero, Int.zero_add, ← exactSum] at hsum
    rw [hsum, ← exactValue] at hvalue
    rw [hvalue] at hcorner hreduced
    rw [← exactReduced] at hreduced
    rw [hreduced, ← exactQuotient] at hquotient
    rw [hquotient, ← exactResult] at hresult
    exact ⟨⟨hasks, hproducts, hsums, hsum ▸ Checked.fits_toInt sum,
      hvalue ▸ Checked.fits_toInt value, hcorner, hquotient ▸ Checked.fits_toInt quotient⟩, hresult⟩
  · rintro ⟨hcomputable, hresult⟩
    -- The steps are found one after another; a remainder is never too large.
    have hsum : Checked.Fits (formula.exactSum earlier) := by
      simpa [exactSum] using hcomputable.sums (products earlier formula.weights.toList).length
    obtain ⟨weighted, hweighted⟩ := Checked.exists_toInt_eq_iff.mpr hsum
    obtain ⟨sum, hsum⟩ := Checked.exists_toInt_eq_iff.mpr hcomputable.weighted
    obtain ⟨value, hvalue⟩ := Checked.exists_toInt_eq_iff.mpr hcomputable.value
    obtain ⟨reduced, hreduced⟩ :
        ∃ reduced : Int64, reduced.toInt = formula.exactReduced code earlier := by
      rw [Checked.exists_toInt_eq_iff, exactReduced, ← hvalue]
      split
      · exact Checked.fits_toInt value
      · exact Checked.fits_tmod
    obtain ⟨quotient, hquotient⟩ := Checked.exists_toInt_eq_iff.mpr hcomputable.quotient
    refine ⟨weighted, ⟨hcomputable.asks, hcomputable.products, hcomputable.sums, ?_⟩, sum, ?_,
      value, ?_, reduced, ⟨?_, ?_⟩, quotient, ?_, ?_⟩
    · rw [hweighted, Int64.toInt_zero, Int.zero_add, exactSum]
    · rw [hsum, hweighted]
    · rw [hvalue, hsum, exactValue]
    · exact hvalue ▸ hcomputable.corner
    · rw [hreduced, hvalue, exactReduced]
    · rw [hquotient, hreduced, exactQuotient]
    · rw [hresult, hquotient, exactResult]

/-- An exact result of 64 bits is the result, if everything on the way to it has 64 bits too. -/
theorem Computable.exists_eval_eq_some (hcomputable : formula.Computable code earlier)
    (hfits : Checked.Fits (formula.exactResult code earlier)) :
    ∃ result, formula.eval code earlier = some result ∧
      result.toInt = formula.exactResult code earlier := by
  obtain ⟨result, hresult⟩ := Checked.exists_toInt_eq_iff.mpr hfits
  exact ⟨result, eval_eq_some_iff.mpr ⟨hcomputable, hresult⟩, hresult⟩

/-- The arithmetic of a formula is exact.  A result is the true one, and no failed result has gone
into it.  There is none exactly if a failed result is asked for, whatever its weight, or if one of
the integers on the way does not have 64 bits, the quotient of the least number by minus one among
them even where only its remainder counts. -/
theorem eval_exact (formula : Formula) (code : Int64) (earlier : List (Option Int64)) :
    (∀ result, formula.eval code earlier = some result →
      (∀ entry ∈ formula.weights.toList, earlier[entry.1]? ≠ some none) ∧
      result.toInt = formula.exactQuotient code earlier + formula.intercept.toInt) ∧
    (formula.eval code earlier = none ↔
      (∃ entry ∈ formula.weights.toList, earlier[entry.1]? = some none) ∨
      (∃ product ∈ products earlier formula.weights.toList, ¬ Checked.Fits product) ∨
      (∃ count, ¬ Checked.Fits ((products earlier formula.weights.toList).take count).sum) ∨
      ¬ Checked.Fits (code.toInt + formula.exactSum earlier) ∨
      ¬ Checked.Fits (formula.exactValue code earlier) ∨
      ¬ Checked.Fits (formula.exactQuotient code earlier) ∨
      ¬ Checked.Fits (formula.exactQuotient code earlier + formula.intercept.toInt) ∨
      (formula.exactValue code earlier = -2 ^ 63 ∧ formula.modulus.toInt = -1)) := by
  constructor
  · intro result heval
    obtain ⟨hcomputable, hresult⟩ := eval_eq_some_iff.mp heval
    exact ⟨fun entry hentry hnone => hcomputable.asks ⟨entry, hentry, hnone⟩, hresult⟩
  · have hsome : (∃ result, formula.eval code earlier = some result) ↔
        formula.Computable code earlier ∧
          Checked.Fits (formula.exactQuotient code earlier + formula.intercept.toInt) := by
      simp only [eval_eq_some_iff, exists_and_left, Checked.exists_toInt_eq_iff, exactResult]
    -- the faults listed are the ways in which `Computable` and the last sum can fail
    rw [Option.eq_none_iff_forall_ne_some, ← not_exists, hsome]
    constructor
    · intro hnone
      refine Classical.byContradiction fun hfits => hnone ?_
      simp only [not_or, not_exists, not_and, Classical.not_not] at hfits
      obtain ⟨hasks, hproducts, hsums, hweighted, hvalue, hquotient, hresult, hcorner⟩ := hfits
      refine ⟨⟨?_, hproducts, fun count => ?_, hweighted, hvalue, ?_, hquotient⟩, hresult⟩
      · exact fun ⟨entry, hentry, hfailed⟩ => hasks entry hentry hfailed
      · simpa using hsums count
      · exact fun ⟨hvalue, hmodulus⟩ => hcorner hvalue hmodulus
    · rintro hfault ⟨hcomputable, hresult⟩
      rcases hfault with hasks | ⟨product, hmem, hlarge⟩ | ⟨count, hlarge⟩ | hlarge | hlarge |
        hlarge | hlarge | hcorner
      · exact hcomputable.asks hasks
      · exact hlarge (hcomputable.products product hmem)
      · exact hlarge (by simpa using hcomputable.sums count)
      · exact hlarge hcomputable.weighted
      · exact hlarge hcomputable.value
      · exact hlarge hcomputable.quotient
      · exact hlarge hresult
      · exact hcomputable.corner hcorner

/-- The remainder would be zero, but there is no quotient that it could belong to. -/
example :
    eval ⟨Int64.minValue, -1, 0, 0, 0, 0, 0, .empty⟩ 0 [] = none ∧
      eval ⟨Int64.minValue, -2, 0, 0, 0, 0, 0, .empty⟩ 0 [] = some 0 := by
  decide

end Transliteration.Formula
