import Transliteration.Json.Value
import Transliteration.Number.Numeral
import Transliteration.Number.Shortest

/-!
# The values of JSON numbers

A number without point and exponent is an integer if 64 bits can hold it, signed or unsigned; minus
zero is none.  Every other number is a floating point number.

A floating point number is found by way of its first digits, as many as fit into 64 bits, and a
power of ten.  Both are rounded, and so is their product or quotient, so the result may differ in
its last digit from the number nearest to what is written.
-/

namespace Transliteration.NumberLiteral

/-- The largest value of the digits that are taken into account. -/
def largestSignificand : Nat := UInt64.size - 1

/-- The integer that is written, if it is one. -/
def integer? (literal : NumberLiteral) : Option Int :=
  if literal.fraction.isEmpty ∧ literal.exponent.isNone then
    let n := Numeral.ofDigits literal.whole
    if literal.negative then if 0 < n ∧ n ≤ 1 <<< 63 then some (-(n : Int)) else none
    else if n ≤ largestSignificand then some n
    else none
  else none

/-- Takes digits up while their value fits, and gives back those that are left. -/
def takeUp (significand : Nat) : List Nat → Nat × List Nat
  | [] => (significand, [])
  | digit :: rest =>
    if significand * 10 + digit ≤ largestSignificand then takeUp (significand * 10 + digit) rest
    else (significand, digit :: rest)

/-- The digits of the number that are taken into account, and the power of ten by which they are
multiplied.  Digits before the point that are left out still count as places. -/
def scaled (literal : NumberLiteral) : Nat × Int :=
  let (whole, left) := takeUp 0 literal.whole
  let (significand, ignored) := takeUp whole literal.fraction
  let places : Int := left.length - (literal.fraction.length - ignored.length : Nat)
  match literal.exponent with
  | none => (significand, places)
  | some exponent =>
    let shift : Int := Numeral.ofDigits exponent.digits
    (significand, if exponent.negative then places - shift else places + shift)

/-- The largest power of ten that a floating point number comes near. -/
def largestPower : Nat := 308

/-- Multiplies a number by a power of ten, in steps that floating point numbers allow.  After three
divisions by the largest power nothing is left of any number. -/
def shift? : Nat → Binary64 → Int → Option Binary64
  | bound, x, exponent =>
    if exponent.natAbs ≤ largestPower then do
      let power ← Binary64.powerOfTen? exponent.natAbs
      if 0 ≤ exponent then x.mul? power else x.div? power
    else if x.isZero then some x
    else if 0 ≤ exponent then none
    else
      match bound with
      | 0 => some Binary64.zero
      | bound + 1 => do
        let quotient ← x.div? (← Binary64.powerOfTen? largestPower)
        shift? bound quotient (exponent + largestPower)

/-- The floating point number, without its sign, or none if it is too large. -/
def magnitude? (literal : NumberLiteral) : Option Binary64 := do
  let (significand, exponent) := literal.scaled
  shift? 3 (← Binary64.ofRatio? significand 1) exponent

/-- Floating point numbers show that they are such: they have a point or an exponent.  Exponents
from -5 to 15 are written out. -/
def layout : Binary64.Layout where
  leastPlain := -5
  greatestPlain := 15
  wholeEnd := ['.', '0']
  plus := ['e', '+']
  minus := ['e', '-']

/-- A floating point number in its canonical writing. -/
def writeMagnitude (x : Binary64) : List Char :=
  if x.isZero then ['0', '.', '0'] else x.shortest.render layout

/-- An integer in decimal digits. -/
def writeInteger (n : Int) : List Char :=
  (if n < 0 then ['-'] else []) ++ Nat.toDigits 10 n.natAbs

/-- The one writing of the number's value, or none if it is out of range. -/
def canonical? (literal : NumberLiteral) : Option (List Char) :=
  match literal.integer? with
  | some n => some (writeInteger n)
  | none =>
    literal.magnitude?.map fun x =>
      (if literal.negative then ['-'] else []) ++ writeMagnitude x

end Transliteration.NumberLiteral
