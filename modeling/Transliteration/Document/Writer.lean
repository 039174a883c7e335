import Transliteration.Document

/-!
# Writing documents of rules

The rules of a language are written as a document declares them.  What a language has no use for is
left out: an empty list of formulas, and an empty list of weights.
-/

namespace Transliteration

/-- A formula as it is declared, with all numbers as integers. -/
def Formula.toJson (formula : Formula) : Json :=
  let weight (entry : Nat × Int64) : Json :=
    Json.ofFields [("index", .ofNat entry.1), ("multiply_by", .ofInt entry.2.toInt)]
  Json.ofFields <|
    [("offset", .ofInt formula.offset.toInt), ("modulus", .ofInt formula.modulus.toInt),
      ("divisor", .ofInt formula.divisor.toInt), ("intercept", .ofInt formula.intercept.toInt),
      ("order", .ofInt formula.order.toInt), ("range_min", .ofInt formula.least.toInt),
      ("range_max", .ofInt formula.greatest.toInt)] ++
    if formula.weights.toList.isEmpty then []
    else [("prev_factors", .array (formula.weights.toList.map weight))]

/-- A language with its rules. -/
structure Language where
  iso : String
  name : String
  rules : LanguageRules

namespace Language

/-- A language as a document declares it. -/
def toJson (language : Language) : Json :=
  Json.ofFields <|
    [("iso", .ofText language.iso), ("name", .ofText language.name)] ++
      (if language.rules.formulas.isEmpty then []
      else [("decompositions", .array (language.rules.formulas.map Formula.toJson))]) ++
      [("romanizations", .array (language.rules.profiles.map ProfileRecord.toJson)),
        ("transcriptions", .array (language.rules.transcriptions.map RuleRecord.toJson))]

/-- The document that declares some languages. -/
def document (languages : List Language) : String :=
  (Json.ofFields [("languages", .array (languages.map toJson))]).write .indented

end Language

end Transliteration
