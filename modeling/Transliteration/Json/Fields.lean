import Transliteration.Json.Writer

/-!
# Records as JSON

A record is written as an object.  It may also be written as an array of its fields in the order in
which they are declared, the last of which may be left out where they have defaults.

An object may hold other members than the fields of the record; what they hold makes no difference.
A field may be given once only.
-/

namespace Transliteration.Json

/-- The fields that are given for a record. -/
structure Fields where
  given : List (String × Json)
  /-- Whether the record is written as an array. -/
  positional : Bool
  deriving Repr

namespace Fields

/-- The value that is given for a field. -/
def get? (fields : Fields) (name : String) : Option Json := fields.given.lookup name

/-- Collects the members whose names are among those of the fields. -/
def ofMembers (names : List String) (found : List (String × Json)) :
    List (Option String × Json) → Except Fault (List (String × Json))
  | [] => .ok found
  | (none, _) :: _ => .error .notText
  | (some name, value) :: members =>
    if name ∈ names then
      if (found.lookup name).isSome then .error (.repeatedField name)
      else ofMembers names ((name, value) :: found) members
    else ofMembers names found members

/-- Reads a value as a record with these fields. -/
def of (names : List String) : Json → Except Fault Fields
  | .object members => do return ⟨← ofMembers names [] members, false⟩
  | .array items =>
    if names.length < items.length then .error .tooManyItems else .ok ⟨names.zip items, true⟩
  | _ => .error (.wrongKind "record")

/-- A field that has to be given. -/
def required {α : Type} (fields : Fields) (name : String) (decode : Json → Except Fault α) :
    Except Fault α :=
  match fields.get? name with
  | some value => decode value
  | none => .error (.missingField name)

/-- A field that has a default. -/
def withDefault {α : Type} (fields : Fields) (name : String) (default : α)
    (decode : Json → Except Fault α) : Except Fault α :=
  match fields.get? name with
  | some value => decode value
  | none => .ok default

/-- Decodes a value that may be null. -/
def nullable {α : Type} (decode : Json → Except Fault α) : Json → Except Fault (Option α)
  | .null => .ok none
  | value => do return some (← decode value)

/-- A field that may be null or left out. -/
def optional {α : Type} (fields : Fields) (name : String) (decode : Json → Except Fault α) :
    Except Fault (Option α) :=
  fields.withDefault name none (nullable decode)

/-- A field that may be null, and may be left out of an object but not of an array. -/
def named {α : Type} (fields : Fields) (name : String) (decode : Json → Except Fault α) :
    Except Fault (Option α) :=
  if fields.positional then fields.required name (nullable decode) else fields.optional name decode

end Fields

/-! ## The kinds of values in fields -/

/-- A text. -/
def text : Json → Except Fault String
  | .string (some text) => .ok text
  | .string none => .error .notText
  | _ => .error (.wrongKind "string")

/-- One of the two truth values. -/
def flag : Json → Except Fault Bool
  | .bool value => .ok value
  | _ => .error (.wrongKind "boolean")

/-- An index, which is an integer of 64 bits without sign. -/
def index : Json → Except Fault Nat
  | .number literal =>
    match literal.integer? with
    | some (.ofNat n) => .ok n
    | _ => .error (.wrongKind "index")
  | _ => .error (.wrongKind "index")

/-- An array of values of one kind. -/
def list {α : Type} (decode : Json → Except Fault α) : Json → Except Fault (List α)
  | .array items => items.mapM decode
  | _ => .error (.wrongKind "array")

end Transliteration.Json
