import Transliteration.Number.Binary64

/-!
# The fewest digits that read back

A floating point number is written with as few decimal digits as still determine it: of all decimal
fractions that round to the number, one with the fewest digits, and of those the nearest.
-/

namespace Transliteration.Binary64

/-- A decimal fraction in scientific notation: the first digit stands before the point, and the
whole is multiplied by a power of ten. -/
structure Scientific where
  digits : List Char
  exponent : Int
  deriving DecidableEq, Repr

/-- The number of decimal digits. -/
def digitCount (n : Nat) : Nat := (Nat.toDigits 10 n).length

/-- The exponent of the greatest power of ten that is at most the fraction, which is positive. -/
def decimalExponent (n d : Nat) : Int :=
  let guess := (digitCount n : Int) - digitCount d
  if d * Nat.pow 10 guess.toNat ≤ n * Nat.pow 10 (-guess).toNat then guess else guess - 1

/-- The multiple of a power of ten with so many units, as a fraction. -/
def decimalRatio (units : Nat) (exponent : Int) : Nat × Nat :=
  (units * Nat.pow 10 exponent.toNat, Nat.pow 10 (-exponent).toNat)

/-- Whether a multiple of a power of ten rounds to the number. -/
def readsBack (x : Binary64) (units : Nat) (exponent : Int) : Bool :=
  let (n, d) := decimalRatio units exponent
  ofRatio? n d == some x

/-- The nearest multiple of a power of ten that rounds to the number, if any does.  Of the multiples
on either side of the number one does whenever any does. -/
def nearestUnits? (x : Binary64) (exponent : Int) : Option Nat :=
  let n := x.numerator * Nat.pow 10 (-exponent).toNat
  let d := x.denominator * Nat.pow 10 exponent.toNat
  let nearest := divideNearest n d
  let below := n / d
  let other := if nearest = below then below + 1 else below
  [nearest, other].find? fun units => readsBack x units exponent

/-- The multiples of ever smaller powers of ten, until one of them rounds to the number. -/
def shortestFrom (x : Binary64) : Nat → Int → Option (Nat × Int)
  | 0, _ => none
  | bound + 1, exponent =>
    match nearestUnits? x exponent with
    | some units => some (units, exponent)
    | none => shortestFrom x bound (exponent - 1)

/-- The fewest decimal digits that determine the number; seventeen always do. -/
def shortest (x : Binary64) : Scientific :=
  let top := decimalExponent x.numerator x.denominator
  match shortestFrom x 17 top with
  | some (units, exponent) =>
    let digits := Nat.toDigits 10 units
    let significant := (digits.reverse.dropWhile (· == '0')).reverse
    ⟨if significant.isEmpty then ['0'] else significant, exponent + (digits.length - 1)⟩
  | none => ⟨['0'], 0⟩

/-- How decimal fractions are laid out. -/
structure Layout where
  /-- The least exponent that is written out with zeros instead. -/
  leastPlain : Int
  /-- The greatest exponent that is written out with zeros instead. -/
  greatestPlain : Int
  /-- What a whole number ends in. -/
  wholeEnd : List Char
  /-- What stands before an exponent that is not negative. -/
  plus : List Char
  /-- What stands before a negative exponent. -/
  minus : List Char

/-- Writes a decimal fraction. -/
def Scientific.render (layout : Layout) (x : Scientific) : List Char :=
  if x.exponent < layout.leastPlain ∨ layout.greatestPlain < x.exponent then
    let point := if x.digits.length = 1 then x.digits else x.digits.take 1 ++ '.' :: x.digits.drop 1
    let sign := if x.exponent < 0 then layout.minus else layout.plus
    point ++ sign ++ Nat.toDigits 10 x.exponent.natAbs
  else if x.exponent < 0 then
    ['0', '.'] ++ List.replicate (x.exponent.natAbs - 1) '0' ++ x.digits
  else
    let whole := x.exponent.toNat + 1
    if x.digits.length ≤ whole then
      x.digits ++ List.replicate (whole - x.digits.length) '0' ++ layout.wholeEnd
    else x.digits.take whole ++ '.' :: x.digits.drop whole

end Transliteration.Binary64
