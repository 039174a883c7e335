/-!
# JSON values

A value keeps what its writing says: numbers stay as they are written, and the members of an object
keep their order and may repeat a name.

A string of JSON need not be a text.  Its writing may ask for half of a surrogate pair, and a
document that is not UTF-8 may hold bytes that belong to no character.  Such a string is kept as
`none`: it may be passed over, but not be used.
-/

namespace Transliteration

/-- The exponent of a number. -/
structure NumberExponent where
  negative : Bool
  digits : List Nat
  deriving DecidableEq, Repr

/-- A number as it is written with decimal digits. -/
structure NumberLiteral where
  negative : Bool := false
  /-- The digits before the point. -/
  whole : List Nat
  /-- The digits after the point, if there is one. -/
  fraction : List Nat := []
  exponent : Option NumberExponent := none
  deriving DecidableEq, Repr

/-- A JSON value. -/
inductive Json where
  | null
  | bool (value : Bool)
  | number (literal : NumberLiteral)
  | string (text : Option String)
  | array (items : List Json)
  | object (members : List (Option String × Json))
  deriving Repr

namespace Json

/-- The string with this text. -/
def ofText (text : String) : Json := .string (some text)

/-- The decimal digits of a number. -/
def digits (n : Nat) : List Nat := (Nat.toDigits 10 n).map (·.toNat - '0'.toNat)

/-- The number without sign, point and exponent. -/
def ofNat (n : Nat) : Json := .number { whole := digits n }

/-- The number without point and exponent. -/
def ofInt (n : Int) : Json := .number { negative := n < 0, whole := digits n.natAbs }

/-- The object with these members. -/
def ofFields (fields : List (String × Json)) : Json :=
  .object (fields.map fun (name, value) => (some name, value))

/-- What can be wrong with a document. -/
inductive Fault where
  | unfinished
  | unexpected
  | trailing
  | badNumber
  | controlCharacter
  | badEscape
  /-- A string is used that is no text. -/
  | notText
  /-- A number is used that is too large for a floating point number. -/
  | outOfRange
  /-- Values lie within each other more than 127 deep. -/
  | tooDeep
  | wrongKind (expected : String)
  | missingField (name : String)
  | repeatedField (name : String)
  /-- An array has more items than a record has fields. -/
  | tooManyItems
  deriving DecidableEq, Repr

/-- What to tell the author of the document. -/
def Fault.message : Fault → String
  | .unfinished => "the document ends within a value"
  | .unexpected => "unexpected character"
  | .trailing => "something follows the value"
  | .badNumber => "invalid number"
  | .controlCharacter => "control character within a string"
  | .badEscape => "invalid escape within a string"
  | .notText => "a string that is no text"
  | .outOfRange => "number out of range"
  | .tooDeep => "values nested too deeply"
  | .wrongKind expected => s!"invalid type: expected {expected}"
  | .missingField name => s!"missing field {name}"
  | .repeatedField name => s!"duplicate field {name}"
  | .tooManyItems => "too many items"

end Json

end Transliteration
