import Transliteration.Regex.Matcher
import Transliteration.Regex.Reader
import Transliteration.Regex.Size

/-!
# Compiled patterns

A pattern is read, measured and made ready for matching.  A search finds the leftmost match, and of
the matches that begin there the preferred one.
-/

namespace Transliteration

/-- A pattern ready for matching. -/
structure Regex where
  expr : Regex.Expr
  node : Regex.Node
  /-- The number of choices in the node. -/
  choices : Nat
  deriving Repr

namespace Regex

/-- Makes an expression ready for matching. -/
def ofExpr (expr : Expr) : Regex :=
  let (node, choices) := expr.toNode 0
  ⟨expr, node, choices⟩

/-- Compiles a pattern; letters match in either case unless the pattern says otherwise. -/
def compile (pattern : List Char) : Except Fault Regex := do
  let expr ← readPattern { ignoreCase := true } pattern
  if expr.isTooLarge then .error .tooLarge
  return ofExpr expr

/-- The leftmost match in a text. -/
def find? (regex : Regex) (text : List Char) : Option Span :=
  let seen := Seen.unused regex.choices
  if regex.expr.isAnchored then searchAtStart regex.node text seen
  else searchFrom regex.node 0 none text seen

end Regex

end Transliteration
