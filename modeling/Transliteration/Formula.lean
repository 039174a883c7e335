import Transliteration.Number.Numeral

/-!
# Formulas

A formula computes one code point from the code point of a character:

```text
value  = code + Σ (earlier result j * weight j) + offset
result = (value modulo modulus) / divisor + intercept
```

The earlier results are those of the formulas applied to the same character before this one.  A
modulus of one (or zero) leaves the value as it is, and so does a divisor of zero.  The arithmetic
is that of 64-bit numbers and is checked at every step: a formula has no result where a step
overflows or where it asks for an earlier result that has failed.
-/

namespace Transliteration

/-- The weights of earlier results by their index, in ascending order. -/
structure Weights where
  toList : List (Nat × Int64)
  ascending : toList.Pairwise (·.1 < ·.1)
  deriving DecidableEq

namespace Weights

/-- No weights. -/
def empty : Weights := ⟨[], .nil⟩

/-- Gives the result at an index a weight, in place of the one it may have. -/
def insertEntry (index : Nat) (weight : Int64) : List (Nat × Int64) → List (Nat × Int64)
  | [] => [(index, weight)]
  | (i, w) :: rest =>
    if index < i then (index, weight) :: (i, w) :: rest
    else if index = i then (index, weight) :: rest
    else (i, w) :: insertEntry index weight rest

theorem mem_insertEntry {index : Nat} {weight : Int64} {entries : List (Nat × Int64)}
    {entry : Nat × Int64} (h : entry ∈ insertEntry index weight entries) :
    entry = (index, weight) ∨ entry ∈ entries := by
  induction entries with
  | nil => simpa [insertEntry] using h
  | cons head rest ih =>
    simp only [insertEntry] at h
    split at h
    · simpa using h
    · split at h
      · rcases List.mem_cons.mp h with h | h
        · exact .inl h
        · exact .inr (List.mem_cons_of_mem _ h)
      · rcases List.mem_cons.mp h with h | h
        · exact .inr (h ▸ List.mem_cons_self)
        · exact (ih h).imp id (List.mem_cons_of_mem _)

theorem pairwise_insertEntry {index : Nat} {weight : Int64} {entries : List (Nat × Int64)}
    (h : entries.Pairwise (·.1 < ·.1)) :
    (insertEntry index weight entries).Pairwise (·.1 < ·.1) := by
  induction entries with
  | nil => simp [insertEntry]
  | cons head rest ih =>
    obtain ⟨hhead, hrest⟩ := List.pairwise_cons.mp h
    simp only [insertEntry]
    split
    · next hlt =>
      refine List.pairwise_cons.mpr ⟨fun entry hentry => ?_, h⟩
      rcases List.mem_cons.mp hentry with rfl | hentry
      · exact hlt
      · exact Nat.lt_trans hlt (hhead entry hentry)
    · split
      · next heq =>
        exact List.pairwise_cons.mpr ⟨fun entry hentry => heq ▸ hhead entry hentry, hrest⟩
      · next hnot hne =>
        refine List.pairwise_cons.mpr ⟨fun entry hentry => ?_, ih hrest⟩
        rcases mem_insertEntry hentry with rfl | hentry
        · show head.1 < index
          omega
        · exact hhead entry hentry

/-- Gives the result at an index a weight, in place of the one it may have. -/
def insert (weights : Weights) (index : Nat) (weight : Int64) : Weights :=
  ⟨insertEntry index weight weights.toList, pairwise_insertEntry weights.ascending⟩

/-- The weights given one after another; the last one for an index counts. -/
def ofList (entries : List (Nat × Int64)) : Weights :=
  entries.foldl (fun weights (index, weight) => weights.insert index weight) .empty

end Weights

/-- A formula for one constituent of a character. -/
structure Formula where
  offset : Int64
  modulus : Int64
  divisor : Int64
  intercept : Int64
  /-- A rank among the formulas of a character, which has no influence on the outcome. -/
  order : Int64
  /-- The least code point that the formula applies to. -/
  least : Int64
  /-- The greatest code point that the formula applies to. -/
  greatest : Int64
  weights : Weights := .empty
  deriving DecidableEq

namespace Formula

/-- Whether the formula applies to a code point. -/
def covers (formula : Formula) (code : Int64) : Bool :=
  formula.least ≤ code && code ≤ formula.greatest

/-- Compares formulas by their rank alone. -/
def compareOrder (a b : Formula) : Ordering := compare a.order.toInt b.order.toInt

/-- The sum of the weighted results, in ascending order of their indices.  Weights of results that
are still to come count nothing. -/
def weightedSum (earlier : List (Option Int64)) (sum : Int64) : List (Nat × Int64) → Option Int64
  | [] => some sum
  | (index, weight) :: rest =>
    match earlier[index]? with
    | none => weightedSum earlier sum rest
    | some result => do
      -- an earlier result that has failed lets this formula fail as well
      let sum ← Checked.add? sum (← Checked.mul? (← result) weight)
      weightedSum earlier sum rest

/-- The result for a code point, given the earlier results for the same character. -/
def eval (formula : Formula) (code : Int64) (earlier : List (Option Int64)) : Option Int64 := do
  let weighted ← weightedSum earlier 0 formula.weights.toList
  let value ← Checked.add? (← Checked.add? code weighted) formula.offset
  let reduced ←
    if formula.modulus = 0 ∨ formula.modulus = 1 then some value
    else Checked.remainder? value formula.modulus
  let quotient ←
    if formula.divisor = 0 then some reduced else Checked.quotient? reduced formula.divisor
  Checked.add? quotient formula.intercept

end Formula

end Transliteration
