import Transliteration.Error
import Transliteration.Formula
import Transliteration.Json.Fields
import Transliteration.Number.Numeral
import Transliteration.Unicode.Class

/-!
# Records of formulas

The numbers of a formula are declared as JSON integers or as texts that spell an integer.  A record
may hold anything else in their place, or nothing at all; it is only when the formula is made that
this is an error, which names the first such field.
-/

namespace Transliteration

/-- What is declared where a number belongs. -/
inductive NumberField where
  | integer (value : Int64)
  | text (spelling : String)
  /-- Anything else, in its canonical writing. -/
  | other (writing : String)
  deriving DecidableEq, Repr

namespace NumberField

/-- A text without white space around it. -/
def trim (spelling : List Char) : List Char :=
  let isSpace := Unicode.whiteSpace.contains
  ((spelling.dropWhile isSpace).reverse.dropWhile isSpace).reverse

/-- The number that is declared, if one is. -/
def value? : NumberField → Option Int64
  | .integer value => some value
  | .text spelling => Numeral.int64? (trim spelling.toList)
  | .other _ => none

/-- How the field is shown in an error. -/
def shown : NumberField → String
  | .integer value => String.ofList (NumberLiteral.writeInteger value.toInt)
  | .text spelling => spelling
  | .other writing => writing

/-- Reads a value within which others may lie so deep. -/
def ofJson (room : Nat) (json : Json) : Except Json.Fault NumberField := do
  let writing ← json.canonical? room
  match json with
  | .string (some spelling) => return .text spelling
  | .number literal =>
    match literal.integer?.bind Checked.ofInt? with
    | some value => return .integer value
    | none => return .other writing
  | _ => return .other writing

end NumberField

/-- The weight of an earlier result as it is declared. -/
structure WeightRecord where
  index : Option NumberField := none
  weight : Option NumberField := none
  deriving DecidableEq, Repr

/-- A formula as it is declared. -/
structure FormulaRecord where
  offset : Option NumberField := none
  modulus : Option NumberField := none
  divisor : Option NumberField := none
  intercept : Option NumberField := none
  order : Option NumberField := none
  least : Option NumberField := none
  greatest : Option NumberField := none
  weights : List WeightRecord := []
  deriving DecidableEq, Repr

namespace FormulaRecord

/-! ## Making the formula -/

/-- The number that a field holds, or an error that names the field. -/
def number (language field : String) (declared : Option NumberField) : Except Error Int64 :=
  match declared with
  | none => .error (.badNumber language field "")
  | some declared =>
    match declared.value? with
    | some value => .ok value
    | none => .error (.badNumber language field declared.shown)

/-- A number that a division needs, which must not be zero. -/
def nonZero (language field : String) (declared : Option NumberField) : Except Error Int64 := do
  let value ← number language field declared
  if value = 0 then .error (.badNumber language field "0") else return value

/-- The number of an earlier result, which must not be negative. -/
def earlierIndex (language : String) (declared : Option NumberField) : Except Error Nat := do
  let field := "prev_factors.index"
  let value ← number language field declared
  match value.toInt with
  | .ofNat index => return index
  | .negSucc _ => .error (.badNumber language field (NumberField.integer value).shown)

/-- The weight of an earlier result. -/
def weight (language : String) (record : WeightRecord) : Except Error (Nat × Int64) := do
  let index ← earlierIndex language record.index
  return (index, ← number language "prev_factors.multiply_by" record.weight)

/-- Makes the formula of a language.  Fields are looked at in the order in which they are declared,
and the weights of earlier results after all others. -/
def toFormula (language : String) (record : FormulaRecord) : Except Error Formula := do
  let offset ← number language "offset" record.offset
  let modulus ← nonZero language "modulus" record.modulus
  let divisor ← nonZero language "divisor" record.divisor
  let intercept ← number language "intercept" record.intercept
  let order ← number language "order" record.order
  let least ← number language "range_min" record.least
  let greatest ← number language "range_max" record.greatest
  let weights := Weights.ofList (← record.weights.mapM (weight language))
  return { offset, modulus, divisor, intercept, order, least, greatest, weights }

/-! ## Reading the record -/

/-- How deep values may lie within a value that lies itself so deep in a document. -/
def roomAt (depth : Nat) : Nat := 127 - depth

/-- Reads the weight of an earlier result that lies so deep in a document. -/
def weightOfJson (depth : Nat) (json : Json) : Except Json.Fault WeightRecord := do
  let fields ← Json.Fields.of ["index", "multiply_by"] json
  let decode := NumberField.ofJson (roomAt depth)
  return {
    index := ← fields.named "index" decode
    weight := ← fields.named "multiply_by" decode }

/-- Reads a record that lies so deep in a document. -/
def ofJson (depth : Nat) (json : Json) : Except Json.Fault FormulaRecord := do
  let names := ["offset", "modulus", "divisor", "intercept", "order", "range_min", "range_max",
    "prev_factors"]
  let fields ← Json.Fields.of names json
  let decode := NumberField.ofJson (roomAt depth)
  return {
    offset := ← fields.named "offset" decode
    modulus := ← fields.named "modulus" decode
    divisor := ← fields.named "divisor" decode
    intercept := ← fields.named "intercept" decode
    order := ← fields.named "order" decode
    least := ← fields.named "range_min" decode
    greatest := ← fields.named "range_max" decode
    weights := ← fields.withDefault "prev_factors" [] (Json.list (weightOfJson (depth + 2))) }

end FormulaRecord

end Transliteration
