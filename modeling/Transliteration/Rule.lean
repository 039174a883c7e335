import Transliteration.Pattern
import Transliteration.Text.Utf8

/-!
# Rules

A rule replaces what its main pattern matches, provided that the text before and the text after are
as it asks.  Its exceptions put another replacement in the place of its own; they never change how
much of the text is replaced.
-/

namespace Transliteration

/-- Another replacement for a rule that applies.  A condition that is absent always holds. -/
structure RuleException where
  /-- A condition on what the main pattern has matched. -/
  span : Option Pattern := none
  before : Option Pattern := none
  after : Option Pattern := none
  replacement : String
  deriving Repr

/-- A rule that replaces parts of a text. -/
structure Rule where
  main : Pattern
  before : Option Pattern := none
  after : Option Pattern := none
  replacement : String
  exceptions : List RuleException := []
  deriving Repr

/-! ## Rules built step by step -/

namespace RuleException

/-- Asks for something of what the main pattern has matched. -/
def withSpan (exception : RuleException) (source : String) : Except Error RuleException := do
  return { exception with span := some (← Pattern.compile source .start) }

/-- Asks for something of the text before a match. -/
def withBefore (exception : RuleException) (source : String) : Except Error RuleException := do
  return { exception with before := some (← Pattern.compile source .finish) }

/-- Asks for something of the text after a match. -/
def withAfter (exception : RuleException) (source : String) : Except Error RuleException := do
  return { exception with after := some (← Pattern.compile source .start) }

end RuleException

namespace Rule

/-- The rule that replaces every match of a pattern. -/
def ofPattern (source replacement : String) : Except Error Rule := do
  return { main := ← Pattern.compile source .start, replacement }

/-- Asks for something of the text before a match. -/
def withBefore (rule : Rule) (source : String) : Except Error Rule := do
  return { rule with before := some (← Pattern.compile source .finish) }

/-- Asks for something of the text after a match. -/
def withAfter (rule : Rule) (source : String) : Except Error Rule := do
  return { rule with after := some (← Pattern.compile source .start) }

/-- Adds an exception, which counts only where none before it applies. -/
def withException (rule : Rule) (exception : RuleException) : Rule :=
  { rule with exceptions := rule.exceptions ++ [exception] }

end Rule

/-! ## Applying rules -/

/-- A rule that applies: how many characters it replaces, and by what. -/
structure RuleMatch where
  width : Nat
  replacement : String
  deriving DecidableEq, Repr

/-- Whether an optional condition holds for a text. -/
def Rule.holds (condition : Option Pattern) (text : List Char) : Bool :=
  condition.all fun pattern => pattern.isMatch text

/-- Whether all conditions of the exception hold. -/
def RuleException.applies (exception : RuleException) (before span after : List Char) : Bool :=
  Rule.holds exception.span span && Rule.holds exception.before before &&
    Rule.holds exception.after after

namespace Rule

/-- The replacement by the first exception that applies, or else by the rule itself. -/
def replacementFor (rule : Rule) (before span after : List Char) : String :=
  match rule.exceptions.find? fun exception => exception.applies before span after with
  | some exception => exception.replacement
  | none => rule.replacement

/-- Applies the rule between two parts of a text. -/
def matchBetween? (rule : Rule) (before rest : List Char) : Option RuleMatch :=
  match rule.main.matchLength? rest with
  | none => none
  | some width =>
    let span := rest.take width
    let after := rest.drop width
    if holds rule.before before && holds rule.after after then
      some ⟨width, rule.replacementFor before span after⟩
    else none

/-- Applies the rule at a position, counted in bytes like the length in the answer.  No rule applies
beyond the end of the text or within a character. -/
def matchAt? (rule : Rule) (text : List Char) (position : Nat) : Option (Nat × String) :=
  match Utf8.splitAt? text position with
  | none => none
  | some (before, rest) =>
    (rule.matchBetween? before rest).map fun found =>
      (Utf8.length (rest.take found.width), found.replacement)

end Rule

end Transliteration
