import Transliteration.Regex.Bracket
import Transliteration.Regex.Normal

/-!
# Reading patterns

From the text of a pattern to its expression.  The modes in force where a part of the pattern stands
are worked into the expression at once: a mode switch holds up to the end of the group that it
stands in, across the branches of an alternation.

Next to the expression the reader counts levels: groups, repetitions, classes, and lists of several
parts or branches each take one.  A pattern may have 250 of them at most.
-/

namespace Transliteration.Regex

/-- A part of a pattern. -/
structure Piece where
  expr : Expr
  /-- The number of levels that its writing takes. -/
  levels : Nat
  /-- Whether it is a mode switch, which cannot be repeated. -/
  isSwitch : Bool := false
  deriving Repr

/-- What has been read of a group: the branches up to the last bar and the parts since then, latest
first. -/
structure GroupSoFar where
  branches : List Piece := []
  parts : List Piece := []
  deriving Repr

namespace GroupSoFar

/-- Adds a part. -/
def add (soFar : GroupSoFar) (piece : Piece) : GroupSoFar :=
  { soFar with parts := piece :: soFar.parts }

/-- Joins pieces, latest first.  Several of them lie one level below the whole. -/
def join (combine : List Expr → Expr) : List Piece → Piece
  | [] => { expr := combine [], levels := 0 }
  | [piece] => piece
  | pieces =>
    { expr := combine (pieces.reverse.map Piece.expr)
      levels := pieces.foldl (fun levels piece => max levels piece.levels) 0 + 1 }

/-- The branch being read. -/
def branch (soFar : GroupSoFar) : Piece := join .sequence soFar.parts

/-- Goes on after a bar. -/
def nextBranch (soFar : GroupSoFar) : GroupSoFar :=
  { branches := soFar.branch :: soFar.branches }

/-- All that has been read. -/
def close (soFar : GroupSoFar) : Piece := join .alternation (soFar.branch :: soFar.branches)

/-- Replaces the latest part by some rounds of it. -/
def repeatLast (soFar : GroupSoFar) (least : Nat) (most : Option Nat) (greedy : Bool) :
    Except Fault GroupSoFar :=
  match soFar.parts with
  | [] => .error .nothingToRepeat
  | last :: before =>
    if last.isSwitch then .error .nothingToRepeat
    else .ok { soFar with
      parts := ⟨.repeated least most greedy last.expr, last.levels + 1, false⟩ :: before }

end GroupSoFar

/-- How far the reader has come: the rest of the pattern, the modes in force there, and the number
and the names of the groups opened so far. -/
structure ReaderState where
  rest : List Char
  modes : Modes
  groups : Nat := 0
  names : List (List Char) := []
  deriving Repr

/-! ## Repetitions -/

/-- The digits of a number, between which the verbose mode allows blanks. -/
def readDigits (modes : Modes) : Nat → List Char → List Char × List Char
  | bound + 1, c :: rest =>
    if c.isDigit then
      let (digits, rest) := readDigits modes bound (skip modes rest)
      (c :: digits, rest)
    else ([], c :: rest)
  | _, rest => ([], rest)

/-- The largest number that a repetition may be counted to. -/
def largestCount : Nat := 4294967295

/-- A number of rounds, with blanks around it. -/
def readCount (modes : Modes) (pattern : List Char) : Except Fault (Nat × List Char) :=
  let pattern := pattern.dropWhile isBlank
  let (digits, rest) := readDigits modes pattern.length pattern
  let count := digits.foldl (fun n c => n * 10 + (c.toNat - '0'.toNat)) 0
  if digits.isEmpty ∨ largestCount < count then .error .badCount
  else .ok (count, rest.dropWhile isBlank)

/-- What stands between the braces of a counted repetition, up to the closing one. -/
def readCounts (modes : Modes) (pattern : List Char) :
    Except Fault ((Nat × Option Nat) × List Char) := do
  let (least, rest) ← readCount modes (skip modes pattern)
  match rest with
  | '}' :: rest => return ((least, some least), rest)
  | ',' :: rest =>
    match skip modes rest with
    | '}' :: rest => return ((least, none), rest)
    | rest =>
      let (most, rest) ← readCount modes rest
      match rest with
      | '}' :: rest => if least ≤ most then return ((least, some most), rest) else .error .badCount
      | _ => .error .badCount
  | _ => .error .badCount

/-- Whether a question mark follows, which turns the preference of a repetition around. -/
def readLazy : List Char → Bool × List Char
  | '?' :: rest => (true, rest)
  | rest => (false, rest)

/-- Repeats the latest part of the group. -/
def repeatPart (state : ReaderState) (soFar : GroupSoFar) (least : Nat) (most : Option Nat)
    (rest : List Char) : Except Fault (ReaderState × GroupSoFar) := do
  let (isLazy, rest) := readLazy rest
  let greedy := isLazy == state.modes.swapGreed
  return ({ state with rest := rest }, ← soFar.repeatLast least most greedy)

/-! ## Groups -/

/-- What an opening parenthesis opens. -/
inductive GroupHead where
  /-- A mode switch, which is closed already. -/
  | switch
  | plain
  | captured
  deriving DecidableEq, Repr

/-- The mode letters of a group up to its colon or closing parenthesis: the modes that result, the
number of signs read, and the rest from the colon or parenthesis on. -/
def readModes (negated : Bool) (used : List Mode) (signs : Nat) (modes : Modes) :
    List Char → Except Fault (Modes × Nat × List Char)
  | [] => .error .badModes
  | c :: rest =>
    if c = ':' ∨ c = ')' then .ok (modes, signs, c :: rest)
    else if c = '-' then
      match rest with
      | next :: _ =>
        if negated ∨ next = ':' ∨ next = ')' then .error .badModes
        else readModes true used (signs + 1) modes rest
      | [] => .error .badModes
    else match Mode.ofLetter? c with
      | none => .error .badModes
      | some mode =>
        if used.contains mode then .error .badModes
        else readModes negated (mode :: used) (signs + 1) (modes.set (!negated) mode) rest

/-- Whether the character may stand in the name of a group, and at its beginning if so asked. -/
def isNameChar (first : Bool) (c : Char) : Bool :=
  if first then c == '_' || Unicode.alphabetic.contains c
  else c == '_' || c == '.' || c == '[' || c == ']' || Unicode.alphabetic.contains c ||
    Unicode.numeric.contains c

/-- The name of a group, up to its closing angle bracket. -/
def readName (state : ReaderState) : Except Fault ReaderState :=
  let name := state.rest.takeWhile (· != '>')
  match state.rest.dropWhile (· != '>'), name with
  | '>' :: rest, first :: others =>
    if isNameChar true first && others.all (isNameChar false) && !state.names.contains name then
      .ok { state with rest := rest, names := name :: state.names }
    else .error .badGroupName
  | _, _ => .error .badGroupName

/-- What mode letters open, after the question mark: a mode switch, or else a group that the modes
hold in. -/
def readModeGroup (state : ReaderState) (pattern : List Char) :
    Except Fault (GroupHead × ReaderState) := do
  let (modes, signs, rest) ← readModes false [] 0 state.modes pattern
  match rest with
  | ')' :: rest =>
    if signs = 0 then .error .nothingToRepeat
    else return (.switch, { state with rest := rest, modes := modes })
  | rest => return (.plain, { state with rest := rest.drop 1, modes := modes })

/-- What follows an opening parenthesis up to the body of the group. -/
def readGroupHead (state : ReaderState) (pattern : List Char) :
    Except Fault (GroupHead × ReaderState) :=
  match skip state.modes pattern with
  | '?' :: '=' :: _ => .error .lookAround
  | '?' :: '!' :: _ => .error .lookAround
  | '?' :: '<' :: '=' :: _ => .error .lookAround
  | '?' :: '<' :: '!' :: _ => .error .lookAround
  | '?' :: 'P' :: '<' :: rest =>
    (readName { state with rest := rest }).map fun state => (.captured, state)
  | '?' :: '<' :: rest =>
    (readName { state with rest := rest }).map fun state => (.captured, state)
  | '?' :: rest => readModeGroup state rest
  | rest => .ok (.captured, { state with rest := rest })

/-! ## Atoms -/

/-- The dot. -/
def dotSet (modes : Modes) : CharSet :=
  if modes.dotAll then .all
  else if modes.crlf then CharSet.complement ⟨[(0x0A, 0x0A), (0x0D, 0x0D)]⟩
  else (CharSet.singleton '\n').complement

/-- What `^` asks. -/
def caretLook (modes : Modes) : Look :=
  if modes.multiLine then if modes.crlf then .crlfLineStart else .lineStart else .textStart

/-- What `$` asks. -/
def dollarLook (modes : Modes) : Look :=
  if modes.multiLine then if modes.crlf then .crlfLineEnd else .lineEnd else .textEnd

/-- The expression of a character: in ASCII mode only ASCII letters have two cases. -/
def charExpr (modes : Modes) (c : Char) : Expr := .one (foldSet modes (.singleton c))

/-- The expression of an atom. -/
def Atom.expr (modes : Modes) : Atom → Expr
  | .char c => charExpr modes c
  | .set members => .one members
  | .look condition => .look condition

/-- An atom that begins with the character and goes on in the rest. -/
def readAtom (modes : Modes) (c : Char) (rest : List Char) : Except Fault (Expr × List Char) :=
  if c = '\\' then
    (readEscape modes rest).map fun (atom, rest) => (atom.expr modes, rest)
  else if c = '.' then
    if modes.unicode then .ok (.one (dotSet modes), rest) else .error .partOfCharacter
  else if c = '^' then .ok (.look (caretLook modes), rest)
  else if c = '$' then .ok (.look (dollarLook modes), rest)
  else .ok (charExpr modes c, rest)

/-! ## Patterns -/

/-- The rest of a group, up to its closing parenthesis or the end of the pattern.  The bound is on
the number of parts still to come. -/
def readGroup : Nat → ReaderState → GroupSoFar → Except Fault (Piece × ReaderState)
  | 0, _, _ => .error .unclosedGroup
  | bound + 1, state, soFar =>
    match skip state.modes state.rest with
    | [] => .ok (soFar.close, { state with rest := [] })
    | ')' :: rest => .ok (soFar.close, { state with rest := ')' :: rest })
    | '|' :: rest => readGroup bound { state with rest := rest } soFar.nextBranch
    | '(' :: rest => do
      let (head, inner) ← readGroupHead state rest
      if head = .switch then
        readGroup bound inner (soFar.add { expr := .empty, levels := 0, isSwitch := true })
      else
        -- plain groups take a number too, although nothing is kept for them
        let (body, inner) ← readGroup bound { inner with groups := state.groups + 1 } {}
        match inner.rest with
        | ')' :: rest =>
          -- modes that are set within a group end with it
          let expr := if head = .captured then .capture state.groups body.expr else body.expr
          readGroup bound { inner with rest := rest, modes := state.modes }
            (soFar.add { expr := expr, levels := body.levels + 1 })
        | _ => .error .unclosedGroup
    | '[' :: rest => do
      let (member, rest) ← readClass state.modes rest
      readGroup bound { state with rest := rest }
        (soFar.add { expr := .one member.set, levels := member.levels })
    | '?' :: rest => do
      let (state, soFar) ← repeatPart state soFar 0 (some 1) rest
      readGroup bound state soFar
    | '*' :: rest => do
      let (state, soFar) ← repeatPart state soFar 0 none rest
      readGroup bound state soFar
    | '+' :: rest => do
      let (state, soFar) ← repeatPart state soFar 1 none rest
      readGroup bound state soFar
    | '{' :: rest => do
      let ((least, most), rest) ← readCounts state.modes rest
      let (state, soFar) ← repeatPart state soFar least most (skip state.modes rest)
      readGroup bound state soFar
    | c :: rest => do
      let (expr, rest) ← readAtom state.modes c rest
      readGroup bound { state with rest := rest } (soFar.add { expr := expr, levels := 0 })

/-- The number of levels that a pattern may have. -/
def levelLimit : Nat := 250

/-- The expression of a pattern that is read in the given modes. -/
def readPattern (modes : Modes) (pattern : List Char) : Except Fault Expr := do
  let (piece, state) ← readGroup (pattern.length + 1) { rest := pattern, modes } {}
  if !state.rest.isEmpty then .error .unopenedGroup
  else if levelLimit < piece.levels then .error .tooDeep
  else return piece.expr

end Transliteration.Regex
