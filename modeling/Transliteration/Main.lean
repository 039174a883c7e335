import Transliteration.CommandLine

/-!
# The command

`transliterate [RULES.json] [LANGUAGE [PROFILE]]` writes every line of the standard input after each
stage.  The variable `LOG_LEVEL` says which entries of the log are shown.
-/

namespace Transliteration.Command

/-- Reads what is at a path. -/
def readContent (path : String) : IO FileContent := do
  match ← (IO.FS.Handle.mk path .read).toBaseIO with
  | .error fault => return .missing (toString fault)
  | .ok handle =>
    match ← handle.readBinToEnd.toBaseIO with
    | .error fault => return .unreadable (toString fault)
    | .ok content => return .bytes content.toList

/-- Whether a path leads to a directory: it can be opened but not read. -/
def isDirectory (path : String) : IO Bool := do
  match ← readContent path with
  | .unreadable _ => return true
  | _ => return false

/-- Saves settings, and tells why if that is not possible. -/
def save (directory : String) (settings : Settings) : IO (Option String) := do
  let saving : IO Unit := do
    IO.FS.createDirAll directory
    IO.FS.writeFile (directory ++ "/" ++ Settings.fileName) settings.toText
  match ← saving.toBaseIO with
  | .error fault => return some (toString fault)
  | .ok () => return none

/-- Shows what the user is told. -/
def tell (outcome : CommandLine.Outcome) (filter : LogFilter) : IO Unit := do
  for line in outcome.notice do IO.eprintln line
  for entry in outcome.shownLog filter do IO.eprintln s!"[{entry.level.name}] {entry.message}"

/-- Runs the program.  The input is read only if the run can go on to it. -/
def run (arguments : List String) : IO CommandLine.Outcome := do
  let home ← IO.getEnv "HOME"
  let isHome ← isDirectory (home.getD "")
  let directory := Settings.directory home fun _ => isHome
  let settingsFile ← readContent (directory ++ "/" ++ Settings.fileName)
  let rulesPath := CommandLine.rulesPath (Settings.ofFile settingsFile).value arguments
  let rules ← readContent rulesPath
  let world : CommandLine.World := { arguments, settingsFile, files := fun _ => rules }
  let outcome := CommandLine.run world
  if !outcome.succeeded then return outcome
  let input ← (← IO.getStdin).readBinToEnd
  let outcome := CommandLine.run { world with input := input.toList }
  IO.print outcome.output
  match outcome.settings with
  | none => return outcome
  | some settings => return outcome.afterSaving (← save directory settings)

end Transliteration.Command

/-- Runs the program with the arguments it is called with, and ends with its exit code. -/
def main (arguments : List String) : IO UInt32 := do
  let filter := ((← IO.getEnv "LOG_LEVEL").map Transliteration.LogFilter.ofName).getD .standard
  let outcome ← Transliteration.Command.run arguments
  Transliteration.Command.tell outcome filter
  return outcome.exitCode.toUInt32
