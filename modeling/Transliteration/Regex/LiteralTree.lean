/-!
# Trees of literals

Literals of which the first one that fits is taken make up a tree: those that begin with the same
byte share a branch.  Where a literal ends, those added before it still come first and those added
after it come last, so later ones no longer share the branches of earlier ones there.
-/

namespace Transliteration.Regex

/-- A tree of literals. -/
inductive LiteralTree where
  | leaf
  /-- The literals that begin with a byte, less that byte, beside others. -/
  | branch (byte : Nat) (below : LiteralTree) (others : LiteralTree)
  /-- The end of a literal, after the literals of a tree. -/
  | stop (before : LiteralTree)
  deriving DecidableEq, Repr

namespace LiteralTree

/-- Whether no literal goes on here. -/
def isLast : LiteralTree → Bool
  | .leaf => true
  | .stop .leaf => true
  | _ => false

/-- Ends a literal here.  A second end at the same place would make no difference. -/
def endHere : LiteralTree → LiteralTree
  | .stop .leaf => .stop .leaf
  | tree => .stop tree

/-- Changes what is below a byte, among the branches since the last end of a literal. -/
def goOn (byte : Nat) (change : LiteralTree → LiteralTree) : LiteralTree → LiteralTree
  | .branch other below others =>
    if other = byte then .branch other (change below) others
    else .branch other below (others.goOn byte change)
  | tree => .branch byte (change .leaf) tree

/-- Adds a literal after all others. -/
def add : List Nat → LiteralTree → LiteralTree
  | [], tree => tree.endHere
  | byte :: rest, tree => tree.goOn byte (add rest)

/-- The tree of some literals, in their order. -/
def ofLiterals (literals : List (List Nat)) : LiteralTree :=
  literals.foldl (fun tree literal => tree.add literal) .leaf

end LiteralTree

end Transliteration.Regex
