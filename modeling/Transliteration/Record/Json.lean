import Transliteration.Json.Fields
import Transliteration.Record

/-!
# Records of rules as JSON

A record leaves out what is absent: conditions without a pattern, and an empty list of exceptions.
-/

namespace Transliteration

/-- A member for a field, unless the field is absent. -/
def Json.presentField (name : String) (value : Option String) : List (String × Json) :=
  (value.map fun text => (name, Json.ofText text)).toList

namespace ExceptionRecord

/-- An exception as JSON. -/
def toJson (record : ExceptionRecord) : Json :=
  Json.ofFields <|
    Json.presentField "original" record.span ++ Json.presentField "prefix" record.before ++
      Json.presentField "suffix" record.after ++ [("replacement", .ofText record.replacement)]

/-- Reads an exception.  All its fields may be left out. -/
def ofJson (json : Json) : Except Json.Fault ExceptionRecord := do
  let fields ← Json.Fields.of ["original", "prefix", "suffix", "replacement"] json
  return {
    span := ← fields.optional "original" Json.text
    before := ← fields.optional "prefix" Json.text
    after := ← fields.optional "suffix" Json.text
    replacement := ← fields.withDefault "replacement" "" Json.text }

end ExceptionRecord

namespace RuleRecord

/-- A rule as JSON. -/
def toJson (record : RuleRecord) : Json :=
  Json.ofFields <|
    [("original", .ofText record.main), ("replacement", .ofText record.replacement)] ++
      Json.presentField "prefix" record.before ++ Json.presentField "suffix" record.after ++
      if record.exceptions.isEmpty then []
      else [("exceptions", .array (record.exceptions.map ExceptionRecord.toJson))]

/-- Reads a rule.  Only its main pattern is required. -/
def ofJson (json : Json) : Except Json.Fault RuleRecord := do
  let fields ← Json.Fields.of ["original", "replacement", "prefix", "suffix", "exceptions"] json
  return {
    main := ← fields.required "original" Json.text
    replacement := ← fields.withDefault "replacement" "" Json.text
    before := ← fields.optional "prefix" Json.text
    after := ← fields.optional "suffix" Json.text
    exceptions := ← fields.withDefault "exceptions" [] (Json.list ExceptionRecord.ofJson) }

end RuleRecord

namespace ProfileRecord

/-- A profile as JSON. -/
def toJson (record : ProfileRecord) : Json :=
  Json.ofFields [
    ("name", .ofText record.name),
    ("transliterations", .array (record.transliterations.map RuleRecord.toJson))]

/-- Reads a profile.  Only its name is required. -/
def ofJson (json : Json) : Except Json.Fault ProfileRecord := do
  let fields ← Json.Fields.of ["name", "transliterations"] json
  return {
    name := ← fields.required "name" Json.text
    transliterations :=
      ← fields.withDefault "transliterations" [] (Json.list RuleRecord.ofJson) }

end ProfileRecord

end Transliteration
