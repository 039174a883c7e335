import Transliteration.Regex.Expr

/-!
# Matching

The matcher tries the ways in which an expression can match in the order of preference and takes
the first one that leads to the end of the expression.

## Strategy

* A `Node` is an expression whose bounded repetitions are written out, with a number on every
  place where the matcher has a choice.
* `Node.run` is told what to do after the node and hands it every place where the node can end,
  the preferred one first, until something comes of it.
* A choice that has been made at some place of the text is not made again there (`Seen`): had it led
  to a match, the search would be over.  This bounds the work by the size of the expression times
  the length of the text, and it ends a loop whose body has matched nothing.
-/

namespace Transliteration.Regex

/-- An expression made ready for matching: each place where the matcher chooses has a number. -/
inductive Node where
  | empty
  | look (condition : Look)
  | one (set : CharSet)
  | seq (first second : Node)
  | choice (id : Nat) (first second : Node)
  /-- Any number of rounds of a body that cannot match without a character. -/
  | star (id : Nat) (greedy : Bool) (body : Node)
  /-- One round or more. -/
  | plus (id : Nat) (greedy : Bool) (body : Node)
  deriving Repr

namespace Node

/-- A choice between two nodes that prefers the first one if greedy and else the second one. -/
def prefer (id : Nat) (greedy : Bool) (first second : Node) : Node :=
  if greedy then .choice id first second else .choice id second first

/-- Puts some copies of a node in front of another one.  Every copy is built with numbers of its
own. -/
def prepend (build : Nat → Node × Nat) : Nat → Node × Nat → Node × Nat
  | 0, built => built
  | count + 1, (tail, next) =>
    let (copy, next) := build next
    prepend build count (.seq copy tail, next)

/-- Up to some copies of a node, each of them only after the one before. -/
def upTo (build : Nat → Node × Nat) (greedy : Bool) : Nat → Node × Nat → Node × Nat
  | 0, built => built
  | count + 1, (tail, next) =>
    let (copy, after) := build (next + 1)
    upTo build greedy count (prefer next greedy (.seq copy tail) .empty, after)

end Node

/-- The node of an expression, with numbers from `next` on, and the first number left over. -/
def Expr.toNode : Expr → Nat → Node × Nat
  | .empty, next => (.empty, next)
  | .look condition, next => (.look condition, next)
  | .one set, next => (.one set, next)
  | .capture _ body, next => body.toNode next
  | .seq first second, next =>
    let (first, next) := first.toNode next
    let (second, next) := second.toNode next
    (.seq first second, next)
  | .alt left right, next =>
    let (left, after) := left.toNode (next + 1)
    let (right, after) := right.toNode after
    (.choice next left right, after)
  | .rounds 0 none greedy body, next =>
    if body.minWidth.any (0 < ·) then
      let (body, after) := body.toNode (next + 1)
      (.star next greedy body, after)
    else
      let (body, after) := body.toNode (next + 2)
      (.prefer next greedy (.plus (next + 1) greedy body) .empty, after)
  | .rounds (least + 1) none greedy body, next =>
    let (last, after) := body.toNode (next + 1)
    Node.prepend (fun next => body.toNode next) least (.plus next greedy last, after)
  | .rounds least (some most) greedy body, next =>
    Node.prepend (fun next => body.toNode next) least
      (Node.upTo (fun next => body.toNode next) greedy (most - least) (.empty, next))

/-- A place in a text: how many characters come before it, the last of them, and those after. -/
structure Cursor where
  index : Nat
  previous : Option Char
  rest : List Char
  deriving DecidableEq, Repr

/-- The choices already made, as the bits of numbers: so many numbers for every place of the text,
in the order of the places. -/
structure Seen where
  width : Nat
  bits : Array Nat := #[]
  deriving DecidableEq, Repr

namespace Seen

/-- The number of bits that are kept in one number. -/
def wordSize : Nat := 32

/-- No choice has been made, where there are so many of them at every place. -/
def unused (choices : Nat) : Seen := { width := choices / wordSize + 1 }

/-- Which of the numbers holds the bit of a choice at a place. -/
def wordOf (seen : Seen) (id : Nat) (place : Cursor) : Nat :=
  place.index * seen.width + id / wordSize

/-- Whether a choice has been made at a place. -/
def contains (seen : Seen) (id : Nat) (place : Cursor) : Bool :=
  (seen.bits.getD (seen.wordOf id place) 0).testBit (id % wordSize)

/-- Notes that a choice is made at a place. -/
def insert (seen : Seen) (id : Nat) (place : Cursor) : Seen :=
  let word := seen.wordOf id place
  let missing := word + 1 - seen.bits.size
  { seen with
    bits := (seen.bits ++ Array.replicate missing 0).modify word (· ||| 1 <<< (id % wordSize)) }

end Seen

/-- How a search ends: at the end of a match, or with all choices made. -/
inductive Search where
  | found (stop : Cursor)
  | exhausted (seen : Seen)
  deriving Repr

/-- Goes on with another search where the first one has found nothing. -/
def Search.orElse : Search → (Seen → Search) → Search
  | .found stop, _ => .found stop
  | .exhausted seen, next => next seen

/-- What remains to be done from a place on. -/
abbrev Continue := Cursor → Seen → Search

namespace Node

/-- The end of a round of a loop: another round or what comes after, the greedy loop trying the
round first.  The text bounds the rounds: each of them takes a character or comes back to where the
one before it began, which is a choice already made. -/
def rounds (body : Continue → Continue) (id : Nat) (greedy : Bool) (next : Continue) :
    List Char → Continue
  | [], place, seen =>
    if seen.contains id place then .exhausted seen else next place (seen.insert id place)
  | _ :: bound, place, seen =>
    if seen.contains id place then .exhausted seen
    else
      let seen := seen.insert id place
      let again := body (rounds body id greedy next bound) place
      if greedy then (again seen).orElse (next place) else (next place seen).orElse again

/-- Matches the node at a place and goes on from where it ends. -/
def run : Node → Continue → Continue
  | .empty, next, place, seen => next place seen
  | .look condition, next, place, seen =>
    if condition.holds place.previous place.rest.head? then next place seen else .exhausted seen
  | .one set, next, place, seen =>
    match place.rest with
    | [] => .exhausted seen
    | c :: rest =>
      if set.contains c then next ⟨place.index + 1, some c, rest⟩ seen else .exhausted seen
  | .seq first second, next, place, seen => first.run (second.run next) place seen
  | .choice id first second, next, place, seen =>
    if seen.contains id place then .exhausted seen
    else (first.run next place (seen.insert id place)).orElse (second.run next place)
  | .star id greedy body, next, place, seen =>
    rounds (fun next => body.run next) id greedy next place.rest place seen
  | .plus id greedy body, next, place, seen =>
    body.run (rounds (fun next => body.run next) id greedy next place.rest) place seen

end Node

/-- Where a match begins and ends, counted in characters. -/
structure Span where
  start : Nat
  stop : Nat
  deriving DecidableEq, Repr

/-- The first match that begins at the place or after it. -/
def searchFrom (node : Node) (index : Nat) (previous : Option Char) :
    List Char → Seen → Option Span
  | [], seen =>
    match node.run (fun stop _ => .found stop) ⟨index, previous, []⟩ seen with
    | .found stop => some ⟨index, stop.index⟩
    | .exhausted _ => none
  | c :: rest, seen =>
    match node.run (fun stop _ => .found stop) ⟨index, previous, c :: rest⟩ seen with
    | .found stop => some ⟨index, stop.index⟩
    | .exhausted seen => searchFrom node (index + 1) (some c) rest seen

/-- The match that begins at the start of the text. -/
def searchAtStart (node : Node) (text : List Char) (seen : Seen) : Option Span :=
  match node.run (fun stop _ => .found stop) ⟨0, none, text⟩ seen with
  | .found stop => some ⟨0, stop.index⟩
  | .exhausted _ => none

end Transliteration.Regex
