/-!
# Modes of a pattern

A pattern can switch modes on and off for what follows, `(?i)`, or for a group, `(?i-s:...)`.
-/

namespace Transliteration.Regex

/-- Something that a pattern can switch on and off, by one letter. -/
inductive Mode where
  /-- `i`: letters match in either case. -/
  | ignoreCase
  /-- `m`: `^` and `$` match at the ends of lines too. -/
  | multiLine
  /-- `s`: the dot matches a line feed too. -/
  | dotAll
  /-- `U`: repetitions take as few rounds as possible, and as many after a question mark. -/
  | swapGreed
  /-- `u`: classes and word boundaries reach beyond ASCII. -/
  | unicode
  /-- `R`: a carriage return ends a line too. -/
  | crlf
  /-- `x`: white space means nothing and a number sign starts a comment. -/
  | verbose
  deriving DecidableEq, Repr

/-- The mode with this letter. -/
def Mode.ofLetter? : Char → Option Mode
  | 'i' => some .ignoreCase
  | 'm' => some .multiLine
  | 's' => some .dotAll
  | 'U' => some .swapGreed
  | 'u' => some .unicode
  | 'R' => some .crlf
  | 'x' => some .verbose
  | _ => none

/-- Which modes are on. -/
structure Modes where
  ignoreCase : Bool := false
  multiLine : Bool := false
  dotAll : Bool := false
  swapGreed : Bool := false
  unicode : Bool := true
  crlf : Bool := false
  verbose : Bool := false
  deriving DecidableEq, Repr

/-- Switches one mode on or off. -/
def Modes.set (modes : Modes) (on : Bool) : Mode → Modes
  | .ignoreCase => { modes with ignoreCase := on }
  | .multiLine => { modes with multiLine := on }
  | .dotAll => { modes with dotAll := on }
  | .swapGreed => { modes with swapGreed := on }
  | .unicode => { modes with unicode := on }
  | .crlf => { modes with crlf := on }
  | .verbose => { modes with verbose := on }

end Transliteration.Regex
