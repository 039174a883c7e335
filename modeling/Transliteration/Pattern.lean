import Transliteration.Error
import Transliteration.Regex
import Transliteration.Text.Utf8

/-!
# Patterns

A pattern is a regular expression with an anchor: it has to match where the text begins, or where it
ends.  The anchor is put around the source as text, and the whole is then compiled.
-/

namespace Transliteration

/-- Where a pattern has to match. -/
inductive Anchor where
  /-- At the start of the text: main patterns and what has to follow them. -/
  | start
  /-- At the end of the text: what has to come before a match. -/
  | finish
  deriving DecidableEq, Repr

/-- The source with its anchor. -/
def Anchor.wrap (source : String) : Anchor → List Char
  | .start => "^(?:".toList ++ source.toList ++ ")".toList
  | .finish => "(?:".toList ++ source.toList ++ ")$".toList

/-- A compiled pattern. -/
structure Pattern where
  source : String
  anchor : Anchor
  regex : Regex
  deriving Repr

namespace Pattern

/-- Compiles a pattern; letters match in either case. -/
def compile (source : String) (anchor : Anchor) : Except Error Pattern :=
  match Regex.compile (anchor.wrap source) with
  | .ok regex => .ok ⟨source, anchor, regex⟩
  | .error fault => .error (.badPattern source fault.message)

/-- Whether the pattern matches anywhere in the text. -/
def isMatch (pattern : Pattern) (text : List Char) : Bool := (pattern.regex.find? text).isSome

/-- The number of characters up to the end of the match.  A match that ends where the text begins
does not count. -/
def matchLength? (pattern : Pattern) (text : List Char) : Option Nat :=
  ((pattern.regex.find? text).map Regex.Span.stop).filter (0 < ·)

/-- The same number in bytes. -/
def matchBytes? (pattern : Pattern) (text : List Char) : Option Nat :=
  (pattern.matchLength? text).map fun width => Utf8.length (text.take width)

end Pattern

end Transliteration
