import Transliteration.Unicode.Class

/-!
# Conditions on a place in a text

Some parts of a pattern match no character but ask about the place they stand at.  All of them can
be decided from the character before the place and the character after it.
-/

namespace Transliteration.Regex

/-- What can be asked about a place with respect to words. -/
inductive WordEdge where
  /-- A word begins or ends here. -/
  | boundary
  /-- No word begins or ends here. -/
  | inside
  | start
  | finish
  /-- No word character stands before. -/
  | startHalf
  /-- No word character stands after. -/
  | finishHalf
  deriving DecidableEq, Repr

/-- A condition on a place in a text. -/
inductive Look where
  | textStart
  | textEnd
  | lineStart
  | lineEnd
  /-- Like `lineStart`, where a carriage return ends a line too and a pair with a line feed is one
  line end. -/
  | crlfLineStart
  | crlfLineEnd
  /-- A condition on words, which are made of ASCII characters alone if so asked. -/
  | word (edge : WordEdge) (ascii : Bool)
  deriving DecidableEq, Repr

/-- ASCII letters, digits and the underscore. -/
def asciiWordCharacters : CharSet := ⟨[(0x30, 0x39), (0x41, 0x5A), (0x5F, 0x5F), (0x61, 0x7A)]⟩

/-- Whether an edge lies between two places, told which of them hold a word character. -/
def WordEdge.holds (before after : Bool) : WordEdge → Bool
  | .boundary => before != after
  | .inside => before == after
  | .start => !before && after
  | .finish => before && !after
  | .startHalf => !before
  | .finishHalf => !after

/-- Whether the condition holds between these two neighbours; at the ends of the text one is
missing. -/
def Look.holds (previous next : Option Char) : Look → Bool
  | .textStart => previous.isNone
  | .textEnd => next.isNone
  | .lineStart => previous.isNone || previous == some '\n'
  | .lineEnd => next.isNone || next == some '\n'
  | .crlfLineStart => previous.isNone || previous == some '\n' ||
      (previous == some '\r' && next != some '\n')
  | .crlfLineEnd => next.isNone || next == some '\r' ||
      (next == some '\n' && previous != some '\r')
  | .word edge ascii =>
    let isWord := if ascii then asciiWordCharacters.contains else Unicode.wordCharacters.contains
    edge.holds (previous.any isWord) (next.any isWord)

end Transliteration.Regex
