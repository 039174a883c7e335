import Transliteration.Regex.Modes
import Transliteration.Unicode.Class

/-!
# White space and comments between the parts of a pattern

Only the verbose mode knows them; a comment runs from a number sign to the end of the line.
-/

namespace Transliteration.Regex

/-- White space, of any script. -/
def isBlank (c : Char) : Bool := Unicode.whiteSpace.contains c

/-- Drops white space and comments, told whether the text starts inside a comment. -/
def dropBlanks (inComment : Bool) : List Char → List Char
  | [] => []
  | c :: rest =>
    if inComment then dropBlanks (c != '\n') rest
    else if isBlank c then dropBlanks false rest
    else if c = '#' then dropBlanks true rest
    else c :: rest

/-- The pattern from its next part on. -/
def skip (modes : Modes) (pattern : List Char) : List Char :=
  if modes.verbose then dropBlanks false pattern else pattern

/-- The next character that is no white space, where a single number sign may stand before it. -/
def firstVisible? (afterSign : Bool) : List Char → Option Char
  | [] => none
  | c :: rest =>
    if isBlank c then firstVisible? afterSign rest
    else if !afterSign && c == '#' then firstVisible? true rest
    else some c

/-- The character to decide by whether a hyphen makes a range.  A comment is not passed over here:
past its sign it counts as text. -/
def peek (modes : Modes) (pattern : List Char) : Option Char :=
  if modes.verbose then (firstVisible? false pattern).or pattern.head? else pattern.head?

/-- The text up to a closing brace, without white space in verbose mode, and what follows the
brace. -/
def readBraced (modes : Modes) : Nat → List Char → Option (List Char × List Char)
  | 0, _ => none
  | bound + 1, pattern =>
    match skip modes pattern with
    | [] => none
    | '}' :: rest => some ([], rest)
    | c :: rest => (readBraced modes bound rest).map fun (text, rest) => (c :: text, rest)

end Transliteration.Regex
