import Transliteration.Settings
import Transliteration.Text.Plain

/-!
# The program

The program is called with the path of a document of rules, the name of a language and the index of
a profile, each of which may be left out in favour of the settings.  Every line of the input is
written out after each of the three stages, with tabs between them.

What a run does is computed here as a value; reading and writing files is left to the caller.
Settings change only after a run has succeeded, and only in the language and profile that are
remembered.
-/

namespace Transliteration.CommandLine

/-! ## Arguments -/

/-- What the program is asked to do. -/
structure Request where
  rulesPath : String
  language : Option String
  profile : Option Nat
  deriving DecidableEq, Repr

/-- The path of the document and the arguments after it.  An argument is a path if it is the first
one and ends like one. -/
def splitPath (settings : Settings) : List String → String × List String
  | [] => (settings.rulesPath, [])
  | first :: rest =>
    if first.endsWith ".json" then (first, rest) else (settings.rulesPath, first :: rest)

/-- The path of the document that a run reads. -/
def rulesPath (settings : Settings) (arguments : List String) : String :=
  (splitPath settings arguments).1

/-- What the arguments ask for, and the settings where the arguments say nothing.  Further arguments
make no difference. -/
def Request.ofArguments (settings : Settings) (arguments : List String) : Except Error Request :=
  let (rulesPath, arguments) := splitPath settings arguments
  match arguments with
  | [] => .ok ⟨rulesPath, settings.language, settings.profile⟩
  | [language] => .ok ⟨rulesPath, some language, settings.profile⟩
  | language :: profile :: _ =>
    match Numeral.index? profile.toList with
    | some index => .ok ⟨rulesPath, some language, some index⟩
    | none => .error (.badProfileIndex profile)

/-! ## Preparing the rules -/

/-- Why a run fails, and what the user is told beside the error. -/
structure Failure where
  error : Error
  notice : List String := []
  deriving DecidableEq, Repr

/-- A part of a run. -/
abbrev Attempt := ExceptT Failure Logged

namespace Attempt

/-- Goes on with a result, or fails with its error. -/
def ofResult {α : Type} : Except Error α → Attempt α
  | .ok value => pure value
  | .error error => throw ⟨error, []⟩

/-- Goes on with the value of a result that was reported on, or fails with its error. -/
def ofReported {α : Type} (result : Except Error (Logged α)) : Attempt α := do
  ExceptT.lift (← ofResult result)

end Attempt

/-- The languages to choose from, for a user who has not chosen one. -/
def languageNotice (names : List String) : List String :=
  "언어를 지정해주세요. 사용 가능한 언어:" :: names.map ("  " ++ ·)

/-- The rules after an operation that has not failed. -/
def afterwards : Except Error Unit × RuleSet → Except Error RuleSet
  | (.ok (), rules) => .ok rules
  | (.error error, _) => .error error

/-- Uses the profile that is asked for, or else the first one if there is any. -/
def chooseProfile (rules : RuleSet) : Option Nat → Except Error RuleSet
  | some index => afterwards (rules.select index)
  | none => if rules.profiles.isEmpty then .ok rules else afterwards (rules.select 0)

/-- Reports the language and the profile in use. -/
def selectionMade (rules : RuleSet) : LogEntry :=
  let profile := rules.profile?.elim "-" Profile.name
  ⟨.info, s!"언어: {rules.name} ({rules.iso}), 프로필: {profile}"⟩

/-- Loads the rules that are asked for. -/
def prepare (settings : Settings) (arguments : List String) (files : String → FileContent) :
    Attempt RuleSet := do
  let request ← Attempt.ofResult (Request.ofArguments settings arguments)
  let loader : Loader := ⟨settings.showErrors⟩
  let loaded ← Attempt.ofReported (loader.loadFile request.rulesPath (files request.rulesPath))
  let registry := loaded.registry
  match request.language with
  | none => throw ⟨.noLanguage, languageNotice registry.names⟩
  | some language =>
    let (answer, registry) ← ExceptT.lift (registry.load language)
    let errors ← Attempt.ofResult answer
    Logged.report (loader.report errors)
    let rules ← Attempt.ofResult registry.getCurrent
    let rules ← Attempt.ofResult (chooseProfile rules request.profile)
    Logged.report [selectionMade rules]
    return rules

/-! ## Lines -/

/-- What is written for a line. -/
def writeStages (stages : RuleSet.Stages) : String :=
  s!"{stages.decomposed}\t{stages.romanized}\t{stages.transcribed}\n"

/-- The error for a line that is no text. -/
def badLine : Error := .file "stream did not contain valid UTF-8"

/-- What is written for lines up to the first that is no text, and the error for that one. -/
def processLines (rules : RuleSet) : List (List UInt8) → Logged (String × Option Error)
  | [] => pure ("", none)
  | line :: lines =>
    match Utf8.decode? line with
    | none => pure ("", some badLine)
    | some text => do
      let stages ← rules.stages text
      let (output, error) ← processLines rules lines
      return (writeStages stages ++ output, error)

/-! ## Runs -/

/-- What a run of the program finds. -/
structure World where
  arguments : List String := []
  settingsFile : FileContent
  files : String → FileContent
  input : List UInt8 := []

/-- What a run of the program leads to. -/
structure Outcome where
  succeeded : Bool
  output : String := ""
  /-- What the user is told beside the log. -/
  notice : List String := []
  log : List LogEntry := []
  /-- Settings to be saved in place of those in the file. -/
  settings : Option Settings := none
  deriving DecidableEq, Repr

/-- A failed run. -/
def Outcome.failed (failure : Failure) (output : String) (log : List LogEntry) : Outcome where
  succeeded := false
  output := output
  notice := failure.notice
  log := log ++ [⟨.error, failure.error.message⟩]

/-- The settings to be saved after a successful run, if they have changed. -/
def changedSettings (settings : Settings) (rules : RuleSet) : Option Settings :=
  if settings.remembers rules.name rules.selected then none
  else some (settings.remember rules.name rules.selected)

/-- Runs the program. -/
def run (world : World) : Outcome :=
  let settings := Settings.ofFile world.settingsFile
  match prepare settings.value world.arguments world.files with
  | ⟨.error failure, log⟩ => .failed failure "" (settings.log ++ log)
  | ⟨.ok rules, log⟩ =>
    let lines := processLines rules (Line.split world.input)
    let log := settings.log ++ log ++ lines.log
    match lines.value with
    | (output, some error) => .failed { error } output log
    | (output, none) =>
      { succeeded := true, output, log, settings := changedSettings settings.value rules }

namespace Outcome

/-- Reports that settings cannot be saved. -/
def notSaved (reason : String) : LogEntry :=
  ⟨.warn, s!"설정 저장 실패: {(Error.file reason).message}"⟩

/-- The outcome after an attempt to save the settings, which may have failed for some reason.  A
failed attempt is no failure of the run. -/
def afterSaving (outcome : Outcome) (fault : Option String) : Outcome :=
  match outcome.settings, fault with
  | some _, some reason =>
    { outcome with log := outcome.log ++ [notSaved reason], settings := none }
  | _, _ => outcome

/-- The file of settings after the run. -/
def settingsFile (outcome : Outcome) (before : FileContent) : FileContent :=
  outcome.settings.elim before Settings.toFile

/-- What is shown of the log: the entries that pass a filter, without control sequences. -/
def shownLog (outcome : Outcome) (filter : LogFilter) : List LogEntry :=
  (filter.apply outcome.log).map fun entry =>
    { entry with message := Plain.render entry.message }

/-- The exit code of the program. -/
def exitCode (outcome : Outcome) : UInt8 := if outcome.succeeded then 0 else 1

end Outcome

end Transliteration.CommandLine
