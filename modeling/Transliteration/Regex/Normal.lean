import Transliteration.Regex.Expr

/-!
# Building expressions in normal form

One way to match can be written in many ways.  The functions here build the whole from its parts so
that parts that make no difference disappear:

* a sequence has no empty part and no sequence as its first part, so it is the list of its parts
  from left to right; likewise an alternation and its branches;
* branches that are all single characters, or all larger sets, become one set;
* what all branches begin with stands in front of the alternation;
* rounds of a body that matches only places are at most one.

What can be matched stays the same.  The preferred match does too, except that a common beginning
that can match in several ways is matched before the branch is chosen: `.*?b|.*?c` takes in `cb` the
shorter match, which the second branch makes.
-/

namespace Transliteration.Regex.Expr

/-! ## Sequences -/

/-- The parts of a sequence, from left to right. -/
def parts : Expr → List Expr
  | .empty => []
  | .seq first second => first.parts ++ second.parts
  | expr => [expr]

/-- Joins parts, none of which is a sequence or empty. -/
def ofParts : List Expr → Expr
  | [] => .empty
  | [part] => part
  | part :: rest => .seq part (ofParts rest)

/-- One expression after another. -/
def sequence (exprs : List Expr) : Expr := ofParts (exprs.flatMap parts)

/-! ## Alternations -/

/-- The branches of an alternation, the preferred one first. -/
def branches : Expr → List Expr
  | .alt left right => left.branches ++ right.branches
  | expr => [expr]

/-- Joins branches, none of which is an alternation.  Without a branch nothing matches. -/
def ofBranches : List Expr → Expr
  | [] => .one .empty
  | [branch] => branch
  | branch :: rest => .alt branch (ofBranches rest)

/-- The set of an expression that matches one character of a set. -/
def set? : Expr → Option CharSet
  | .one set => some set
  | _ => none

/-- The code point of an expression that matches one certain character. -/
def char? (expr : Expr) : Option Nat := expr.set?.bind CharSet.only?

/-- The set of characters that branches match if all of them are single characters or none is. -/
def mergedSet? (exprs : List Expr) : Option CharSet :=
  if exprs.all (fun expr => expr.char?.isSome) || exprs.all (fun expr => expr.char?.isNone) then
    (exprs.mapM set?).map fun sets => sets.foldl CharSet.union .empty
  else none

/-- The first branch that leads to a match. -/
def firstOf (exprs : List Expr) : Expr :=
  match exprs.flatMap branches with
  | [branch] => branch
  | branches => (mergedSet? branches).elim (ofBranches branches) .one

/-! ## Common beginnings -/

/-- The parts of a sequence in runs: characters that follow each other belong together, and
everything else is alone. -/
def runs (expr : Expr) : List (List Expr) :=
  expr.parts.splitBy fun before after => before.char?.isSome && after.char?.isSome

/-- What two lists of runs begin with. -/
def commonRuns : List (List Expr) → List (List Expr) → List (List Expr)
  | a :: as, b :: bs => if a = b then a :: commonRuns as bs else []
  | _, _ => []

/-- The runs that all branches begin with, if each of them has several runs. -/
def sharedRuns (branches : List (List (List Expr))) : List (List Expr) :=
  match branches with
  | [] => []
  | first :: others =>
    if branches.all (fun runs => 1 < runs.length) then others.foldl commonRuns first else []

/-- An alternation, after what all branches have in common at their beginning. -/
def alternation (exprs : List Expr) : Expr :=
  let written := (exprs.flatMap branches).map runs
  let shared := sharedRuns written
  let rests := written.map fun runs => sequence (runs.drop shared.length).flatten
  sequence (shared.flatten ++ [firstOf rests])

/-! ## Repetitions -/

/-- Rounds of a body.  A second round at a place that the first one has reached without a character
adds nothing, so a body that matches only places goes round once at most. -/
def repeated (least : Nat) (most : Option Nat) (greedy : Bool) (body : Expr) : Expr :=
  let once := body.isPlace
  let least := if once then min least 1 else least
  let most := if once then some (min (most.getD 1) 1) else most
  if least = 0 ∧ most = some 0 then .empty
  else if least = 1 ∧ most = some 1 then body
  else .rounds least most greedy body

end Transliteration.Regex.Expr
