/-!
# Numbers of 64 bits and numbers written with digits

Arithmetic on 64-bit numbers has no result where the true result does not fit.  Division truncates
toward zero, and a remainder takes the sign of the dividend; where the quotient does not fit there
is no remainder either.

A number that is written with decimal digits is read as a 64-bit number or as an index, if it fits.
Code points are written with hexadecimal digits.
-/

namespace Transliteration

/-! ## Checked arithmetic -/

namespace Checked

/-- The 64-bit number with this value, if there is one. -/
def ofInt? (n : Int) : Option Int64 :=
  if Int64.minValue.toInt ≤ n ∧ n ≤ Int64.maxValue.toInt then some (Int64.ofInt n) else none

/-- The sum. -/
def add? (a b : Int64) : Option Int64 := ofInt? (a.toInt + b.toInt)

/-- The product. -/
def mul? (a b : Int64) : Option Int64 := ofInt? (a.toInt * b.toInt)

/-- The quotient by a number that is not zero. -/
def quotient? (a b : Int64) : Option Int64 := ofInt? (a.toInt.tdiv b.toInt)

/-- The remainder that belongs to the quotient. -/
def remainder? (a b : Int64) : Option Int64 :=
  (quotient? a b).bind fun _ => ofInt? (a.toInt.tmod b.toInt)

end Checked

/-! ## Decimal digits -/

namespace Numeral

/-- The value of digits, the most significant first. -/
def ofDigits (digits : List Nat) : Nat := digits.foldl (fun n digit => n * 10 + digit) 0

/-- The value of a decimal digit. -/
def digit? (c : Char) : Option Nat :=
  if '0' ≤ c ∧ c ≤ '9' then some (c.toNat - '0'.toNat) else none

/-- The natural number written with decimal digits, of which there is at least one. -/
def natural? (text : List Char) : Option Nat :=
  if text.isEmpty then none else (text.mapM digit?).map ofDigits

/-- The integer written with decimal digits after an optional sign. -/
def integer? : List Char → Option Int
  | '-' :: digits => (natural? digits).map fun n => -(n : Int)
  | '+' :: digits => (natural? digits).map fun n => (n : Int)
  | digits => (natural? digits).map fun n => (n : Int)

/-- The 64-bit number written with decimal digits after an optional sign. -/
def int64? (text : List Char) : Option Int64 := (integer? text).bind Checked.ofInt?

/-- The largest index. -/
def largestIndex : Nat := 18446744073709551615

/-- The index written with decimal digits after an optional plus sign. -/
def index? (text : List Char) : Option Nat :=
  let digits := match text with
    | '+' :: digits => digits
    | digits => digits
  (natural? digits).filter (· ≤ largestIndex)

end Numeral

/-! ## Hexadecimal digits -/

/-- The value of a hexadecimal digit. -/
def hexDigit? (c : Char) : Option Nat :=
  if '0' ≤ c ∧ c ≤ '9' then some (c.toNat - '0'.toNat)
  else if 'a' ≤ c ∧ c ≤ 'f' then some (c.toNat - 'a'.toNat + 10)
  else if 'A' ≤ c ∧ c ≤ 'F' then some (c.toNat - 'A'.toNat + 10)
  else none

/-- The number written with the hexadecimal digits of the text; other characters are passed over. -/
def ofHex (digits : List Char) : Nat :=
  digits.foldl (fun n c => match hexDigit? c with | some d => n * 16 + d | none => n) 0

/-- The digits of a number, without leading zeros and with small letters. -/
def toHex (n : Nat) : List Char := Nat.toDigits 16 n

end Transliteration
