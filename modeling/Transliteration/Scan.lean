import Transliteration.Rule

/-!
# Applying rules along a text

A text is gone through from left to right.  Where a rule applies, the first one in the list does:
its replacement is written and what it has matched is passed over.  Where none applies the character
is copied.

A blank stands before the text and another one after it, so that rules can ask for the ends of a
text as they ask for the ends of a word.  The first is never replaced; the second is not copied, but
a rule that begins within the text may run over it.
-/

namespace Transliteration.Scan

/-- Stands at both ends of a text. -/
def sentinel : Char := ' '

/-- The first rule that applies between two parts of a text. -/
def firstMatch? (rules : List Rule) (before rest : List Char) : Option RuleMatch :=
  rules.findSome? fun rule => rule.matchBetween? before rest

/-- Replaces what the rules match in a text up to the sentinel at its end, told what comes before it
and how many characters of it have been matched already. -/
def replaceFrom (rules : List Rule) (before : List Char) : List Char → Nat → List Char
  | [], _ => []
  | [_], _ => []
  | c :: next :: rest, matched + 1 => replaceFrom rules (before ++ [c]) (next :: rest) matched
  | c :: next :: rest, 0 =>
    match firstMatch? rules before (c :: next :: rest) with
    | some found =>
      -- the rest of the match is passed over before a rule is asked again
      found.replacement.toList ++ replaceFrom rules (before ++ [c]) (next :: rest) (found.width - 1)
    | none => c :: replaceFrom rules (before ++ [c]) (next :: rest) 0

/-- Replaces what the rules match in a text. -/
def replace (rules : List Rule) (text : List Char) : List Char :=
  replaceFrom rules [sentinel] (text ++ [sentinel]) 0

end Transliteration.Scan
