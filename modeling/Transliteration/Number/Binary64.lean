/-!
# Floating point numbers

Finite numbers with 53 binary digits, as exact values: `mantissa * 2 ^ exponent`.  Every operation
computes the true result as a fraction and rounds it once, to the nearest number and in a tie to the
one with the even mantissa.
-/

namespace Transliteration

/-- A finite number that is not negative: the mantissa lies below `2 ^ 53`, and reaches `2 ^ 52`
unless the exponent is the least one, `-1074`. -/
structure Binary64 where
  mantissa : Nat
  exponent : Int
  deriving DecidableEq, Repr

namespace Binary64

/-- The number zero, whose exponent is the least one. -/
def zero : Binary64 := ⟨0, -1074⟩

/-- Whether the number is zero. -/
def isZero (x : Binary64) : Bool := x.mantissa == 0

/-- The numerator of the value as a fraction. -/
def numerator (x : Binary64) : Nat := x.mantissa <<< x.exponent.toNat

/-- The denominator of the value as a fraction, a power of two. -/
def denominator (x : Binary64) : Nat := 1 <<< (-x.exponent).toNat

/-- The quotient rounded to the nearest natural number, in a tie to the even one. -/
def divideNearest (n d : Nat) : Nat :=
  let quotient := n / d
  let twice := 2 * (n % d)
  if twice < d then quotient
  else if d < twice then quotient + 1
  else if quotient % 2 = 0 then quotient else quotient + 1

/-- The fraction in units of a power of two, as a fraction. -/
def scale (n d : Nat) (exponent : Int) : Nat × Nat :=
  (n <<< (-exponent).toNat, d <<< exponent.toNat)

/-- The exponent with which the mantissa of a fraction has 53 digits, or the least one there is. -/
def exponentOf (n d : Nat) : Int :=
  let guess := max (-1074) ((n.log2 : Int) - d.log2 - 52)
  let (a, b) := scale n d guess
  if a < b <<< 52 ∧ -1074 < guess then guess - 1 else guess

/-- The number nearest to a fraction, or none if the fraction is beyond the largest number. -/
def ofRatio? (n d : Nat) : Option Binary64 :=
  if n = 0 then some zero
  else
    let exponent := exponentOf n d
    let (a, b) := scale n d exponent
    let mantissa := divideNearest a b
    let rounded : Binary64 :=
      if mantissa = 1 <<< 53 then ⟨1 <<< 52, exponent + 1⟩ else ⟨mantissa, exponent⟩
    if 971 < rounded.exponent then none else some rounded

/-- The product, or none if it is too large. -/
def mul? (x y : Binary64) : Option Binary64 :=
  ofRatio? (x.numerator * y.numerator) (x.denominator * y.denominator)

/-- The quotient by a number that is not zero, or none if it is too large. -/
def div? (x y : Binary64) : Option Binary64 :=
  ofRatio? (x.numerator * y.denominator) (x.denominator * y.numerator)

/-- The number nearest to a power of ten. -/
def powerOfTen? (exponent : Nat) : Option Binary64 := ofRatio? (Nat.pow 10 exponent) 1

end Binary64

end Transliteration
