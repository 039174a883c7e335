import Transliteration.FormulaRecord
import Transliteration.Json.Reader
import Transliteration.Record.Json
import Transliteration.Registry

/-!
# Documents of rules

A document declares the rules of any number of languages.  From a document a registry is made in
which no language is loaded.  Formulas with a malformed number are left out, and so are languages
whose name has occurred before; everything else is kept.
-/

namespace Transliteration

/-- What an attempt to read a file yields. -/
inductive FileContent where
  /-- There is nothing to open at this path, or it may not be opened. -/
  | missing (reason : String)
  /-- What is at this path can be opened but not read, as a directory. -/
  | unreadable (reason : String)
  | bytes (content : List UInt8)
  deriving DecidableEq, Repr

/-- A language as it is declared. -/
structure LanguageDocument where
  iso : String
  name : String
  transcriptions : List RuleRecord := []
  profiles : List ProfileRecord := []
  formulas : List FormulaRecord := []
  deriving DecidableEq, Repr

/-- A document of rules. -/
structure RuleDocument where
  languages : List LanguageDocument := []
  deriving DecidableEq, Repr

/-! ## Reading documents -/

namespace LanguageDocument

/-- How deep a formula of a language lies in a document. -/
def formulaDepth : Nat := 5

/-- Reads a language.  Rules, profiles and formulas may be left out. -/
def ofJson (json : Json) : Except Json.Fault LanguageDocument := do
  let names := ["iso", "name", "transcriptions", "romanizations", "decompositions"]
  let fields ← Json.Fields.of names json
  return {
    iso := ← fields.required "iso" Json.text
    name := ← fields.required "name" Json.text
    transcriptions := ← fields.withDefault "transcriptions" [] (Json.list RuleRecord.ofJson)
    profiles := ← fields.withDefault "romanizations" [] (Json.list ProfileRecord.ofJson)
    formulas :=
      ← fields.withDefault "decompositions" [] (Json.list (FormulaRecord.ofJson formulaDepth)) }

end LanguageDocument

namespace RuleDocument

/-- Reads the languages of a document, which may be left out. -/
def ofJson (json : Json) : Except Json.Fault RuleDocument := do
  let fields ← Json.Fields.of ["languages"] json
  return { languages := ← fields.withDefault "languages" [] (Json.list LanguageDocument.ofJson) }

/-- Reads a document from symbols. -/
def ofSymbols (text : List Utf8.Symbol) : Except Error RuleDocument :=
  match Json.read text >>= ofJson with
  | .ok document => .ok document
  | .error fault => .error (.badDocument fault.message)

/-- Reads a document from a text. -/
def ofText (text : String) : Except Error RuleDocument := ofSymbols (Utf8.ofText text)

/-- Reads a document from a file. -/
def ofFile : FileContent → Except Error RuleDocument
  | .missing reason => .error (.file reason)
  | .unreadable reason => .error (.badDocument reason)
  | .bytes content => ofSymbols (Utf8.symbols content)

end RuleDocument

/-! ## Loading documents -/

/-- What loading a document leads to. -/
structure LoadedDocument where
  registry : Registry := {}
  /-- The errors of the formulas and languages that have been left out. -/
  errors : List Error := []

namespace LanguageDocument

/-- The formulas of a language and the errors of those that are left out. -/
def validFormulas (document : LanguageDocument) : List Formula × List Error :=
  document.formulas.foldr
    (fun record (formulas, errors) =>
      match record.toFormula document.name with
      | .ok formula => (formula :: formulas, errors)
      | .error error => (formulas, error :: errors))
    ([], [])

/-- The rules of a language as far as they are valid. -/
def rules (document : LanguageDocument) : LanguageRules where
  transcriptions := document.transcriptions
  profiles := document.profiles
  formulas := document.validFormulas.1

/-- Registers a language after others. -/
def register (loaded : LoadedDocument) (document : LanguageDocument) : LoadedDocument :=
  let errors := loaded.errors ++ document.validFormulas.2
  match loaded.registry.register document.iso document.name document.rules with
  | (.ok (), registry) => { registry, errors }
  | (.error error, registry) => { registry, errors := errors ++ [error] }

end LanguageDocument

/-- Registers the languages of a document. -/
def RuleDocument.register (document : RuleDocument) : LoadedDocument :=
  document.languages.foldl LanguageDocument.register {}

/-- A way to load documents. -/
structure Loader where
  /-- Whether errors are reported to the user, or only to those who look for them. -/
  showErrors : Bool := true
  deriving DecidableEq, Repr

namespace Loader

/-- Reports errors that arose from rules. -/
def report (loader : Loader) (errors : List Error) : List LogEntry :=
  errors.map fun error =>
    ⟨if loader.showErrors then .error else .debug, s!"규칙 로드 에러: {error.message}"⟩

/-- Loads a document. -/
def loadDocument (loader : Loader) (document : RuleDocument) : Logged LoadedDocument := do
  let loaded := document.register
  Logged.report (loader.report loaded.errors)
  return loaded

/-- Loads a document from a text. -/
def loadText (loader : Loader) (text : String) : Except Error (Logged LoadedDocument) := do
  return loader.loadDocument (← RuleDocument.ofText text)

/-- Reports that a document has been read. -/
def documentRead (path : String) : LogEntry := ⟨.debug, s!"규칙 문서 로드: {path}"⟩

/-- Loads a document from the file at a path. -/
def loadFile (loader : Loader) (path : String) (content : FileContent) :
    Except Error (Logged LoadedDocument) := do
  let document ← RuleDocument.ofFile content
  return do
    Logged.report [documentRead path]
    loader.loadDocument document

end Loader

end Transliteration
