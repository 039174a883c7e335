import Transliteration.Regex.Look

/-!
# Regular expressions

An expression with its modes resolved: every character stands for the set of characters it matches,
every anchor for one condition.  Where an expression matches in several ways the order of
preference counts: the left branch before the right one, and more rounds of a greedy repetition
before fewer.
-/

namespace Transliteration.Regex

/-- A regular expression. -/
inductive Expr where
  | empty
  | look (condition : Look)
  /-- One character of the set. -/
  | one (set : CharSet)
  /-- A group whose extent is remembered, with its number in the pattern. -/
  | capture (index : Nat) (body : Expr)
  | seq (first second : Expr)
  /-- Either branch, the left one preferred. -/
  | alt (left right : Expr)
  /-- From `least` to `most` rounds of the body, as many as possible if greedy. -/
  | rounds (least : Nat) (most : Option Nat) (greedy : Bool) (body : Expr)
  deriving DecidableEq, Repr

namespace Expr

/-- The least number of characters in a match, or none if the expression is known to match
nowhere. -/
def minWidth : Expr → Option Nat
  | .empty => some 0
  | .look _ => some 0
  | .one set => if set.isEmpty then none else some 1
  | .capture _ body => body.minWidth
  | .seq first second => do return (← first.minWidth) + (← second.minWidth)
  | .alt left right => do return min (← left.minWidth) (← right.minWidth)
  | .rounds least _ _ body => do return least * (← body.minWidth)

/-- Whether the expression matches no character, only places. -/
def isPlace : Expr → Bool
  | .empty => true
  | .look _ => true
  | .one _ => false
  | .capture _ body => body.isPlace
  | .seq first second => first.isPlace && second.isPlace
  | .alt left right => left.isPlace && right.isPlace
  | .rounds least most _ body => (least == 0 && most == some 0) || body.isPlace

/-- Whether every match begins at the start of the text. -/
def isAnchored : Expr → Bool
  | .look .textStart => true
  | .capture _ body => body.isAnchored
  | .seq first second => first.isAnchored || (first.isPlace && second.isAnchored)
  | .alt left right => left.isAnchored && right.isAnchored
  | .rounds least _ _ body => least != 0 && body.isAnchored
  | _ => false

/-- Whether every match ends at the end of the text. -/
def isAnchoredAtEnd : Expr → Bool
  | .look .textEnd => true
  | .capture _ body => body.isAnchoredAtEnd
  | .seq first second => second.isAnchoredAtEnd || (second.isPlace && first.isAnchoredAtEnd)
  | .alt left right => left.isAnchoredAtEnd && right.isAnchoredAtEnd
  | .rounds least _ _ body => least != 0 && body.isAnchoredAtEnd
  | _ => false

end Expr

end Transliteration.Regex
