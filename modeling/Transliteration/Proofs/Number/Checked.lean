import Mathlib.Algebra.Order.Ring.Int
import Transliteration.Number.Numeral

/-!
# Checked arithmetic is exact

The operations are told by the integers that their operands stand for: there is a result exactly if
the true one has 64 bits (`Fits`), and then it is the true one.  Of the two that divide, a quotient
is too large in one case only, and a remainder never is.
-/

namespace Transliteration.Checked

/-- The integer has 64 bits. -/
def Fits (n : Int) : Prop := -2 ^ 63 ≤ n ∧ n < 2 ^ 63

theorem fits_toInt (a : Int64) : Fits a.toInt := ⟨Int64.le_toInt a, Int64.toInt_lt a⟩

theorem ofInt?_eq_some_iff {n : Int} {a : Int64} : ofInt? n = some a ↔ a.toInt = n := by
  have hmin : Int64.minValue.toInt = -2 ^ 63 := rfl
  have hmax : Int64.maxValue.toInt = 2 ^ 63 - 1 := rfl
  unfold ofInt?
  rw [hmin, hmax, Option.ite_none_right_eq_some, Option.some_inj]
  constructor
  · rintro ⟨⟨hlo, hhi⟩, rfl⟩
    exact Int64.toInt_ofInt_of_le hlo (by omega)
  · rintro rfl
    obtain ⟨hlo, hhi⟩ := fits_toInt a
    exact ⟨⟨hlo, by omega⟩, Int64.ofInt_toInt a⟩

/-- The integers that have 64 bits are those that some number stands for. -/
theorem exists_toInt_eq_iff {n : Int} : (∃ a : Int64, a.toInt = n) ↔ Fits n := by
  constructor
  · rintro ⟨a, rfl⟩
    exact fits_toInt a
  · rintro ⟨hlo, hhi⟩
    exact ⟨Int64.ofInt n, Int64.toInt_ofInt_of_le hlo hhi⟩

theorem add?_eq_some_iff {a b c : Int64} : add? a b = some c ↔ c.toInt = a.toInt + b.toInt :=
  ofInt?_eq_some_iff

theorem mul?_eq_some_iff {a b c : Int64} : mul? a b = some c ↔ c.toInt = a.toInt * b.toInt :=
  ofInt?_eq_some_iff

theorem quotient?_eq_some_iff {a b c : Int64} :
    quotient? a b = some c ↔ c.toInt = a.toInt.tdiv b.toInt :=
  ofInt?_eq_some_iff

/-- A quotient is no larger than its dividend, so it has 64 bits unless the least number changes its
sign. -/
theorem fits_tdiv_iff {a b : Int64} :
    Fits (a.toInt.tdiv b.toInt) ↔ ¬ (a.toInt = -2 ^ 63 ∧ b.toInt = -1) := by
  constructor
  · rintro hfits ⟨ha, hb⟩
    rw [ha, hb] at hfits
    exact absurd hfits.2 (by decide)
  · intro hcorner
    obtain ⟨hlo, hhi⟩ := fits_toInt a
    have hle := Int.natAbs_tdiv_le_natAbs a.toInt b.toInt
    refine ⟨by omega, Int.not_le.mp fun hlarge => hcorner ?_⟩
    -- so large a quotient can only be that of the least number
    have ha : a.toInt = -2 ^ 63 := by omega
    have hquotient : a.toInt.tdiv b.toInt = 2 ^ 63 := by omega
    have hzero : b.toInt ≠ 0 := by
      intro hzero
      rw [hzero, Int.tdiv_zero] at hquotient
      cases hquotient
    have hparts := Int.tmod_add_mul_tdiv a.toInt b.toInt
    have hsign : 0 ≤ (-a.toInt).tmod b.toInt := Int.tmod_nonneg _ (by omega)
    rw [Int.neg_tmod] at hsign
    rw [hquotient, ha] at hparts
    rw [ha] at hsign
    have hrest : ((-2 ^ 63 : Int).tmod b.toInt).natAbs ≤ (2 ^ 63 : Nat) := by
      rw [Int.natAbs_tmod]
      exact Nat.mod_le _ _
    exact ⟨ha, by omega⟩

/-- A remainder lies between zero and its dividend, so it has 64 bits. -/
theorem fits_tmod {a b : Int64} : Fits (a.toInt.tmod b.toInt) := by
  obtain ⟨hlo, hhi⟩ := fits_toInt a
  have hle : (a.toInt.tmod b.toInt).natAbs ≤ a.toInt.natAbs := by
    rw [Int.natAbs_tmod]
    exact Nat.mod_le _ _
  rcases Int.le_total 0 a.toInt with hsign | hsign
  · have := Int.tmod_nonneg b.toInt hsign
    exact ⟨by omega, by omega⟩
  · have := Int.tmod_nonneg b.toInt (a := -a.toInt) (by omega)
    rw [Int.neg_tmod] at this
    exact ⟨by omega, by omega⟩

/-- There is a remainder wherever there is a quotient. -/
theorem remainder?_eq_some_iff {a b c : Int64} :
    remainder? a b = some c ↔
      ¬ (a.toInt = -2 ^ 63 ∧ b.toInt = -1) ∧ c.toInt = a.toInt.tmod b.toInt := by
  unfold remainder?
  rw [Option.bind_eq_some_iff, ← fits_tdiv_iff, ← exists_toInt_eq_iff]
  simp only [quotient?_eq_some_iff, ofInt?_eq_some_iff, exists_and_right]

end Transliteration.Checked
