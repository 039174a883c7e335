import Transliteration.Document

/-!
# Settings

What is kept from one run of the program to the next: where the rules are, how errors are reported,
and the language and profile that were used last.
-/

namespace Transliteration

/-- The settings of the program. -/
structure Settings where
  /-- Whether errors that arise from rules are reported to the user. -/
  showErrors : Bool := true
  /-- Where the document of rules is. -/
  rulesPath : String := "data/languages.json"
  /-- The language that was used last. -/
  language : Option String := none
  /-- The index of the profile that was used last. -/
  profile : Option Nat := none
  deriving DecidableEq, Repr

namespace Settings

/-! ## As JSON -/

/-- The settings as JSON. -/
def toJson (settings : Settings) : Json :=
  Json.ofFields [
    ("show_errors", .bool settings.showErrors),
    ("rules_path", .ofText settings.rulesPath),
    ("language", settings.language.elim .null Json.ofText),
    ("profile", settings.profile.elim .null Json.ofNat)]

/-- Reads settings.  What is left out is as it is in the standard settings. -/
def ofJson (json : Json) : Except Json.Fault Settings := do
  let fields ← Json.Fields.of ["show_errors", "rules_path", "language", "profile"] json
  let standard : Settings := {}
  return {
    showErrors := ← fields.withDefault "show_errors" standard.showErrors Json.flag
    rulesPath := ← fields.withDefault "rules_path" standard.rulesPath Json.text
    language := ← fields.optional "language" Json.text
    profile := ← fields.optional "profile" Json.index }

/-! ## As a file -/

/-- The directory of the settings below the home directory. -/
def relativeDirectory : String := ".config/transcripa"

/-- The name of the file of the settings. -/
def fileName : String := "config.json"

/-- The home directory of those who have none. -/
def sharedHome : String := "/var/tmp"

/-- The directory of the settings, told the home directory that is asked for and which paths are
directories.  A home directory has to be an absolute path of a directory. -/
def directory (home : Option String) (isDirectory : String → Bool) : String :=
  let home := (home.filter fun home => home.startsWith "/" && isDirectory home).getD sharedHome
  if home.endsWith "/" then home ++ relativeDirectory else home ++ "/" ++ relativeDirectory

/-- The file of the settings. -/
def path (home : Option String) (isDirectory : String → Bool) : String :=
  directory home isDirectory ++ "/" ++ fileName

/-- The content of the file for these settings. -/
def toText (settings : Settings) : String := settings.toJson.write .indented

/-- Reads settings from a text. -/
def ofText (text : String) : Except Json.Fault Settings := Json.read (Utf8.ofText text) >>= ofJson

/-- Reports that the settings cannot be read. -/
def defaultsUsed (fault : Json.Fault) : LogEntry :=
  ⟨.warn, s!"설정 파일 파싱 실패, 기본값 사용: {fault.message}"⟩

/-- The settings in a file.  Where they cannot be read the standard settings are used; only a text
that does not hold settings is worth a warning. -/
def ofFile : FileContent → Logged Settings
  | .bytes content =>
    match Utf8.decode? content with
    | none => pure {}
    | some text =>
      match ofText text with
      | .ok settings => pure settings
      | .error fault => ⟨{}, [defaultsUsed fault]⟩
  | _ => pure {}

/-- The file for these settings. -/
def toFile (settings : Settings) : FileContent := .bytes (Utf8.encode settings.toText.toList)

/-! ## The last selection -/

/-- Whether a language and a profile are those that were used last. -/
def remembers (settings : Settings) (language : String) (profile : Option Nat) : Bool :=
  settings.language == some language && settings.profile == profile

/-- Remembers a language and a profile as those that were used last. -/
def remember (settings : Settings) (language : String) (profile : Option Nat) : Settings :=
  { settings with language := some language, profile }

end Settings

end Transliteration
