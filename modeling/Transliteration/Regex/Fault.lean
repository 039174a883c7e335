/-!
# What can be wrong with a pattern
-/

namespace Transliteration.Regex

/-- Why a pattern is refused. -/
inductive Fault where
  | unclosedGroup
  | unopenedGroup
  | lookAround
  | badGroupName
  | badModes
  | nothingToRepeat
  | badCount
  | badEscape
  | unknownProperty
  | unclosedClass
  | badClassRange
  /-- Something that is no character stands in a class. -/
  | noCharacter
  /-- With classes limited to ASCII the pattern would match parts of characters. -/
  | partOfCharacter
  | tooDeep
  | tooLarge
  deriving DecidableEq, Repr

/-- What to tell the author of the pattern. -/
def Fault.message : Fault → String
  | .unclosedGroup => "regex parse error: unclosed group"
  | .unopenedGroup => "regex parse error: unopened group"
  | .lookAround => "regex parse error: look-around is not supported"
  | .badGroupName => "regex parse error: invalid or repeated group name"
  | .badModes => "regex parse error: invalid mode switch"
  | .nothingToRepeat => "regex parse error: repetition operator missing expression"
  | .badCount => "regex parse error: invalid repetition count"
  | .badEscape => "regex parse error: unrecognized or incomplete escape sequence"
  | .unknownProperty => "regex parse error: character property not found"
  | .unclosedClass => "regex parse error: unclosed character class"
  | .badClassRange => "regex parse error: invalid character class range"
  | .noCharacter => "regex parse error: a character class holds characters only"
  | .partOfCharacter => "regex parse error: pattern can match invalid UTF-8"
  | .tooDeep => "regex parse error: nested more than 250 levels deep"
  | .tooLarge => "Compiled regex exceeds size limit of 10485760 bytes."

end Transliteration.Regex
