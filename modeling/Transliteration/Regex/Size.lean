import Std.Data.TreeMap
import Transliteration.Regex.ByteRange
import Transliteration.Regex.LiteralTree
import Transliteration.Regex.Normal

/-!
# How large an expression is

A pattern of a few characters can stand for an expression of enormous size: three nested repetitions
of a thousand rounds are a thousand million copies of their body.  An expression is refused if an
automaton that matches it byte by byte takes more than ten mebibytes of storage, and likewise if
the automaton that matches it from right to left does.

A state takes 32 bytes, each labelled transition of a state with several of them 8, and each
alternative of a state that branches without a label 4.

## Strategy

* `Storage` is what an automaton takes so far.  Every expression has a function that adds what its
  own states take, in the order in which they are built.
* The order matters for sets beyond ASCII alone, since the states of a set are shared as far as a
  table of limited size remembers them, and the place of a state in the table depends on the
  numbers of the states that it leads to.
* Copies of an expression are built one by one until the limit is passed.
-/

namespace Transliteration.Regex

/-- The direction in which a text is matched. -/
inductive Direction where
  | forward
  | backward
  deriving DecidableEq, Repr

/-! ## Storage -/

/-- What an automaton takes: its states, and the bytes that they take beside the fixed number. -/
structure Storage where
  states : Nat := 0
  beside : Nat := 0
  deriving DecidableEq, Repr

/-- The greatest number of bytes that is accepted. -/
def sizeLimit : Nat := 10 * 1024 * 1024

namespace Storage

/-- The bytes that an automaton takes: 32 for each state and those beside. -/
def bytes (storage : Storage) : Nat := 32 * storage.states + storage.beside

/-- Whether the automaton takes more than is accepted. -/
def isTooLarge (storage : Storage) : Bool := sizeLimit < storage.bytes

/-- Adds states that together take so many bytes beside the fixed number. -/
def add (states beside : Nat) (storage : Storage) : Storage :=
  ⟨storage.states + states, storage.beside + beside⟩

/-- Adds so many copies, though none after the limit is passed. -/
def addCopies (copy : Storage → Storage) : Nat → Storage → Storage
  | 0, storage => storage
  | count + 1, storage =>
    if storage.isTooLarge then storage else addCopies copy count (copy storage)

end Storage

/-! ## Shared states -/

/-- A hash of some numbers: each of them in turn is mixed in and spread by a multiplication. -/
def hashOf (numbers : List Nat) : UInt64 :=
  numbers.foldl (fun hash n => (hash ^^^ n.toUInt64) * 1099511628211) 14695981039346656037

/-- An automaton together with a table of states that can be used again.  A state is described by
its transitions; its place in the table is the hash of the description, and it replaces another one
that was there. -/
structure Sharing where
  storage : Storage
  /-- The number of places in the table. -/
  places : Nat
  table : Std.TreeMap Nat (List Nat × Nat) := {}

/-- The number of the state with a description, which is a new one if the table does not have it. -/
def Sharing.state (description : List Nat) (beside : Nat) (sharing : Sharing) : Nat × Sharing :=
  let place := (hashOf description).toNat % sharing.places
  match sharing.table[place]? with
  | some (known, number) =>
    if known = description then (number, sharing) else built place
  | none => built place
where
  built (place : Nat) : Nat × Sharing :=
    let number := sharing.storage.states
    (number, { sharing with
      storage := sharing.storage.add 1 beside
      table := sharing.table.insert place (description, number) })

/-! ## Sets -/

/-- The state that reads one of the sequences, after which the automaton is in the target state, and
before it the states that this one leads to.  Sequences that begin with the same range come one
after another.  The bound is on their lengths. -/
def shareForward (target : Nat) : Nat → List ByteRanges → Sharing → Nat × Sharing
  | 0, _, sharing => (target, sharing)
  | bound + 1, sequences, sharing =>
    if sequences.head?.all List.isEmpty then (target, sharing)
    else
      let groups := sequences.splitBy fun a b => a.head? == b.head?
      let (description, sharing) := groups.foldl (fun (description, sharing) group =>
        let (next, sharing) := shareForward target bound (group.map List.tail) sharing
        let (lo, hi) := (group.head?.bind List.head?).getD (0, 0)
        (description ++ [lo, hi, next], sharing)) ([], sharing)
      sharing.state description (8 * groups.length)

/-- The states that read a sequence from its end, one for each range, after which the automaton is
in the target state. -/
def shareBackward (target : Nat) (sequence : ByteRanges) (sharing : Sharing) : Sharing :=
  (sequence.foldl (fun (next, sharing) (lo, hi) => sharing.state [next, lo, hi] 0)
    (target, sharing)).2

/-- Adds what one character of a set takes. -/
def Storage.addSet (direction : Direction) (set : CharSet) (storage : Storage) : Storage :=
  match set.only? with
  | some code => storage.add (utf8Width code) 0
  | none =>
    if set.isAscii then storage.add 2 (8 * set.ranges.length)
    else
      let sequences := byteRangesOf set
      match direction with
      | .forward =>
        let sharing : Sharing := { storage := storage.add 1 0, places := 10000 }
        (shareForward storage.states 4 sequences sharing).2.storage
      | .backward =>
        let sharing : Sharing :=
          { storage := storage.add 2 (4 * sequences.length), places := 1000 }
        (sequences.foldl (fun sharing sequence =>
          shareBackward (storage.states + 1) sequence sharing) sharing).storage

/-! ## Literals -/

/-- The bytes of an expression that matches one certain text. -/
def Expr.literal? : Expr → Option (List Nat)
  | .one set => set.only?.map utf8Bytes
  | .seq first second => do return (← first.literal?) ++ (← second.literal?)
  | _ => none

/-- The bytes of each branch of an alternation whose branches match one certain text each. -/
def Expr.literals? : Expr → Option (List (List Nat))
  | .alt left right => do return (← left.literals?) ++ (← right.literals?)
  | expr => expr.literal?.map fun literal => [literal]

/-- Adds what the branches at one place of a tree take, after some of the last group. -/
def LiteralTree.addGroup (count : Nat) (storage : Storage) : Storage :=
  if count = 0 then storage else storage.add 1 (4 + if count = 1 then 0 else 8 * count)

/-- Adds what a tree of literals takes below a state that branches.  The branches between two ends
of literals are one group. -/
def LiteralTree.addTo (storage : Storage) (count : Nat) : LiteralTree → Storage
  | .leaf => addGroup count storage
  | .stop before => before.addTo ((addGroup count storage).add 0 4) 0
  | .branch _ below others =>
    others.addTo (if below.isLast then storage else below.addTo (storage.add 1 0) 0) (count + 1)

/-- Adds what an alternation of literals takes. -/
def Storage.addLiterals (direction : Direction) (literals : List (List Nat))
    (storage : Storage) : Storage :=
  let inOrder := match direction with
    | .forward => literals
    | .backward => literals.map List.reverse
  (LiteralTree.ofLiterals inOrder).addTo (storage.add 2 0) 0

/-! ## Expressions -/

/-- Where an expression stands among the branches of an alternation. -/
inductive Branch where
  /-- It is the first branch or none. -/
  | first
  | second
  | later
  deriving DecidableEq, Repr

/-- Adds what joins a branch to the alternation: with the second one come the states before and
after the branches. -/
def Storage.addBranch (storage : Storage) : Branch → Storage
  | .first => storage
  | .second => storage.add 2 8
  | .later => storage.add 0 4

/-- Adds what an expression takes that stands at a place among branches. -/
def Expr.addTo (direction : Direction) : Expr → Branch → Storage → Storage
  | .empty, branch, storage => (storage.add 1 0).addBranch branch
  | .look _, branch, storage => (storage.add 1 0).addBranch branch
  | .one set, branch, storage => (storage.addSet direction set).addBranch branch
  | .capture _ body, branch, storage =>
    let storage := match direction with
      | .forward => (body.addTo direction .first (storage.add 1 0)).add 1 0
      | .backward => body.addTo direction .first storage
    storage.addBranch branch
  | .seq first second, branch, storage =>
    let storage := match direction with
      | .forward => second.addTo direction .first (first.addTo direction .first storage)
      | .backward => first.addTo direction .first (second.addTo direction .first storage)
    storage.addBranch branch
  | .alt left right, .first, storage =>
    match (Expr.alt left right).literals? with
    | some literals => storage.addLiterals direction literals
    | none => right.addTo direction .second (left.addTo direction .first storage)
  | .alt left right, branch, storage =>
    right.addTo direction .later ((left.addTo direction .first storage).addBranch branch)
  | .rounds least most _ body, branch, storage =>
    let copy (storage : Storage) : Storage := body.addTo direction .first storage
    let storage := match least, most with
      | 0, none =>
        if body.minWidth.any (0 < ·) then (copy (storage.add 1 4)).add 0 4
        else (copy storage).add 3 16
      | least, none => (storage.addCopies copy least).add 1 8
      | 0, some 1 => (copy (storage.add 1 0)).add 1 8
      | least, some most =>
        let storage := if least = 0 then storage.add 1 0 else storage.addCopies copy least
        if least = most then storage
        else (storage.add 1 0).addCopies (fun storage => copy (storage.add 1 8)) (most - least)
    storage.addBranch branch

/-- The storage of the automaton for an expression.  Around the expression there are states that
skip what precedes a match, unless matches begin only where the automaton begins to read, and that
remember where a match begins and ends. -/
def Expr.storage (expr : Expr) : Direction → Storage
  | .forward =>
    let skipping := if expr.isAnchored then Storage.add 1 0 else Storage.add 3 16
    (expr.addTo .forward .first ((skipping {}).add 1 0)).add 2 0
  | .backward =>
    let skipping := if expr.isAnchoredAtEnd then Storage.add 1 0 else Storage.add 3 16
    (expr.addTo .backward .first (skipping {})).add 1 0

/-- Whether an expression takes more storage than is accepted. -/
def Expr.isTooLarge (expr : Expr) : Bool :=
  (expr.storage .forward).isTooLarge || (expr.storage .backward).isTooLarge

end Transliteration.Regex
