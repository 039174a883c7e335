import Transliteration.Decomposition
import Transliteration.Record
import Transliteration.Scan

/-!
# The rules of a language

A text goes through three stages: it is decomposed by formulas, written in the Latin script by the
rules of a profile, and transcribed into sounds.  Each stage starts from the result of the one
before it, and may be told that the text has been through the earlier ones already.

A rule set is created without rules, and rules are loaded into it once.  Until then, and for every
stage that it has no rules for, a text stays as it is.
-/

namespace Transliteration

/-- The rules of a language as they are declared. -/
structure LanguageRules where
  transcriptions : List RuleRecord := []
  profiles : List ProfileRecord := []
  formulas : List Formula := []
  deriving DecidableEq

/-- Whether nothing is declared. -/
def LanguageRules.isEmpty (rules : LanguageRules) : Bool :=
  rules.transcriptions.isEmpty && rules.profiles.isEmpty && rules.formulas.isEmpty

/-- Writes a text in the Latin script. -/
def Profile.romanize (profile : Profile) (text : String) : String :=
  String.ofList (Scan.replace profile.rules text.toList)

/-- The rules of a language. -/
structure RuleSet where
  iso : String
  name : String
  transcriptions : List Rule := []
  profiles : List Profile := []
  formulas : List Formula := []
  /-- The index of the profile in use. -/
  selected : Option Nat := none
  loaded : Bool := false

namespace RuleSet

/-! ## Loading -/

/-- Reports that rules have been loaded already. -/
def alreadyLoaded (set : RuleSet) : LogEntry := ⟨.debug, s!"[{set.name}] 이미 로드됨, 건너뜀"⟩

/-- Reports what has been loaded, with the number of patterns that had to be compiled. -/
def loadSummary (set : RuleSet) (patterns errors : Nat) : LogEntry :=
  ⟨.debug, s!"[{set.name}] 로드 완료: 전사 규칙 {set.transcriptions.length}개, " ++
    s!"로마자 프로필 {set.profiles.length}개, 분해 공식 {set.formulas.length}개, " ++
    s!"패턴 {patterns}개, 에러 {errors}개"⟩

/-- Compiles the declared rules, unless rules have been loaded before.  Rules that do not compile
are left out, and their errors are part of the result. -/
def load (set : RuleSet) (rules : LanguageRules) : Logged (List Error × RuleSet) := do
  if set.loaded then
    Logged.report [set.alreadyLoaded]
    return ([], set)
  let (transcriptions, cache) ← RuleRecord.compileAll {} rules.transcriptions
  let ((profiles, profileErrors), cache) ← ProfileRecord.compileAll cache rules.profiles
  let errors := transcriptions.errors ++ profileErrors
  let filled := { set with
    transcriptions := transcriptions.rules
    profiles
    formulas := rules.formulas
    loaded := true }
  Logged.report [filled.loadSummary cache.size errors.length]
  return (errors, filled)

/-! ## Profiles -/

/-- The profile in use. -/
def profile? (set : RuleSet) : Option Profile := set.selected.bind fun index => set.profiles[index]?

/-- Uses the profile with this index.  If there is none, the selection stays as it is. -/
def select (set : RuleSet) (index : Nat) : Except Error Unit × RuleSet :=
  if index < set.profiles.length then (.ok (), { set with selected := some index })
  else (.error (.profileOutOfRange index set.profiles.length), set)

/-- Uses the first profile with this name.  If there is none, the selection stays as it is. -/
def selectByName (set : RuleSet) (name : String) : Except Error Unit × RuleSet :=
  match set.profiles.findIdx? fun profile => profile.name == name with
  | some index => (.ok (), { set with selected := some index })
  | none => (.error (.unknownProfile name), set)

/-- Uses no profile. -/
def clearProfile (set : RuleSet) : RuleSet := { set with selected := none }

/-! ## The stages -/

/-- Takes a text apart by the formulas. -/
def decompose (set : RuleSet) (text : String) : Logged String := do
  return String.ofList (← Decomposition.decompose set.formulas text.toList)

/-- Writes a text in the Latin script.  It is decomposed first unless it has been already. -/
def romanize (set : RuleSet) (text : String) (decomposed : Bool) : Logged String := do
  let text ← if decomposed then pure text else set.decompose text
  return match set.profile? with
    | some profile => profile.romanize text
    | none => text

/-- Transcribes a text.  It goes through the earlier stages first unless it has been through them
already. -/
def transcribe (set : RuleSet) (text : String) (decomposed romanized : Bool) : Logged String := do
  let text ←
    if romanized then (if decomposed then pure text else set.decompose text)
    else set.romanize text decomposed
  return String.ofList (Scan.replace set.transcriptions text.toList)

/-- What the three stages make of a text. -/
structure Stages where
  decomposed : String
  romanized : String
  transcribed : String
  deriving DecidableEq, Repr

/-- Takes a text through all stages, one after another. -/
def stages (set : RuleSet) (text : String) : Logged Stages := do
  let decomposed ← set.decompose text
  let romanized ← set.romanize decomposed true
  let transcribed ← set.transcribe romanized true true
  return { decomposed, romanized, transcribed }

end RuleSet

end Transliteration
