import Transliteration.Json.Value
import Transliteration.Number.Numeral
import Transliteration.Text.Utf8

/-!
# Reading JSON

A document is read as symbols (`Utf8.Symbol`), so that bytes which belong to no character may stand
within strings.  Every reader takes what it needs off the front and gives back the rest.

Blanks, line feeds, carriage returns and tabs may stand between any two parts.  Nothing may follow
the last item of an array, nor the last member of an object, but its closing bracket.
-/

namespace Transliteration.Json

open Utf8 (Symbol)

/-! ## Blanks and words -/

/-- Whether the symbol may stand between any two parts of a document. -/
def isBlank (symbol : Symbol) : Bool :=
  symbol == some ' ' || symbol == some '\n' || symbol == some '\r' || symbol == some '\t'

/-- What is left after the blanks at the front. -/
def skipBlanks (text : List Symbol) : List Symbol := text.dropWhile isBlank

/-- Takes a word off the front. -/
def readWord (word : List Char) (text : List Symbol) : Except Fault (List Symbol) :=
  if (word.map some).isPrefixOf text then .ok (text.drop word.length) else .error .unexpected

/-! ## Numbers -/

/-- The digits at the front. -/
def takeDigits : List Symbol → List Nat × List Symbol
  | some c :: rest =>
    match Numeral.digit? c with
    | some digit => (digit :: (takeDigits rest).1, (takeDigits rest).2)
    | none => ([], some c :: rest)
  | text => ([], text)

/-- Some digits, at least one. -/
def readDigits (text : List Symbol) : Except Fault (List Nat × List Symbol) :=
  match takeDigits text with
  | ([], _) => .error .badNumber
  | found => .ok found

/-- The digits before the point.  A zero at the beginning stands alone. -/
def readWhole (text : List Symbol) : Except Fault (List Nat × List Symbol) :=
  match takeDigits text with
  | ([], _) => .error .badNumber
  | (0 :: _ :: _, _) => .error .badNumber
  | found => .ok found

/-- The digits after a point, if there is one. -/
def readFraction : List Symbol → Except Fault (List Nat × List Symbol)
  | some '.' :: rest => readDigits rest
  | text => .ok ([], text)

/-- The sign of an exponent, which may be left out. -/
def readSign : List Symbol → Bool × List Symbol
  | some '-' :: rest => (true, rest)
  | some '+' :: rest => (false, rest)
  | text => (false, text)

/-- The exponent, if there is one. -/
def readExponent (text : List Symbol) : Except Fault (Option NumberExponent × List Symbol) :=
  match text with
  | some c :: rest =>
    if c = 'e' ∨ c = 'E' then do
      let (negative, rest) := readSign rest
      let (digits, rest) ← readDigits rest
      return (some ⟨negative, digits⟩, rest)
    else .ok (none, text)
  | _ => .ok (none, text)

/-- A number without its sign. -/
def readUnsigned (negative : Bool) (text : List Symbol) :
    Except Fault (NumberLiteral × List Symbol) := do
  let (whole, rest) ← readWhole text
  let (fraction, rest) ← readFraction rest
  let (exponent, rest) ← readExponent rest
  return (⟨negative, whole, fraction, exponent⟩, rest)

/-- A number with its sign, which can only be a minus. -/
def readNumber : List Symbol → Except Fault (NumberLiteral × List Symbol)
  | some '-' :: rest => readUnsigned true rest
  | text => readUnsigned false text

/-! ## Strings -/

/-- A part of a string. -/
inductive Piece where
  /-- A symbol that stands for itself or is escaped by a letter. -/
  | symbol (symbol : Symbol)
  /-- A code unit of 16 bits, escaped by its number. -/
  | unit (unit : Nat)
  deriving DecidableEq, Repr

/-- The character that a letter after a backslash stands for. -/
def escaped? (c : Char) : Option Char :=
  match c with
  | '"' => some '"'
  | '\\' => some '\\'
  | '/' => some '/'
  | 'b' => some '\x08'
  | 'f' => some '\x0c'
  | 'n' => some '\n'
  | 'r' => some '\r'
  | 't' => some '\t'
  | _ => none

/-- The value of a hexadecimal digit among the symbols. -/
def hexSymbol? (symbol : Symbol) : Option Nat := symbol.bind hexDigit?

/-- The code unit with these four digits. -/
def unit? (a b c d : Symbol) : Option Nat := do
  let high := (← hexSymbol? a) * 16 + (← hexSymbol? b)
  let low := (← hexSymbol? c) * 16 + (← hexSymbol? d)
  return high * 256 + low

/-- The parts of a string up to its closing quotation mark. -/
def readPieces : List Symbol → Except Fault (List Piece × List Symbol)
  | [] => .error .unfinished
  | some '"' :: rest => .ok ([], rest)
  | some '\\' :: some 'u' :: a :: b :: c :: d :: rest =>
    match unit? a b c d with
    | some unit => do
      let (pieces, rest) ← readPieces rest
      return (.unit unit :: pieces, rest)
    | none => .error .badEscape
  | some '\\' :: some c :: rest =>
    match escaped? c with
    | some c => do
      let (pieces, rest) ← readPieces rest
      return (.symbol (some c) :: pieces, rest)
    | none => .error .badEscape
  | some '\\' :: _ => .error .badEscape
  | symbol :: rest =>
    if symbol.any (· < ' ') then .error .controlCharacter
    else do
      let (pieces, rest) ← readPieces rest
      return (.symbol symbol :: pieces, rest)

/-- Whether a unit is the first half of a surrogate pair. -/
def isLeading (unit : Nat) : Bool := 0xD800 ≤ unit && unit < 0xDC00

/-- Whether a unit is the second half of a surrogate pair. -/
def isTrailing (unit : Nat) : Bool := 0xDC00 ≤ unit && unit < 0xE000

/-- The character of a surrogate pair. -/
def ofPair (leading trailing : Nat) : Char :=
  Char.ofNat (0x10000 + (leading - 0xD800) * 0x400 + (trailing - 0xDC00))

/-- The text of a string, unless it has a byte that belongs to no character or half a pair. -/
def textOf? : List Piece → Option (List Char)
  | [] => some []
  | .symbol symbol :: rest => do return (← symbol) :: (← textOf? rest)
  | .unit unit :: rest =>
    if isLeading unit then
      match rest with
      | .unit second :: rest =>
        if isTrailing second then (textOf? rest).map (ofPair unit second :: ·) else none
      | _ => none
    else if isTrailing unit then none
    else (textOf? rest).map (Char.ofNat unit :: ·)

/-- A string after its opening quotation mark. -/
def readString (text : List Symbol) : Except Fault (Option String × List Symbol) := do
  let (pieces, rest) ← readPieces text
  return ((textOf? pieces).map String.ofList, rest)

/-! ## Values -/

/-- The name of a member and the colon after it. -/
def readName (text : List Symbol) : Except Fault (Option String × List Symbol) :=
  match skipBlanks text with
  | some '"' :: rest => do
    let (name, rest) ← readString rest
    match skipBlanks rest with
    | some ':' :: rest => return (name, rest)
    | [] => .error .unfinished
    | _ => .error .unexpected
  | [] => .error .unfinished
  | _ => .error .unexpected

mutual

/-- A value.  The bound is on the number of values that begin within each other or one after
another. -/
def readValue : Nat → List Symbol → Except Fault (Json × List Symbol)
  | 0, _ => .error .unfinished
  | bound + 1, text =>
    match skipBlanks text with
    | [] => .error .unfinished
    | some '"' :: rest => do
      let (text, rest) ← readString rest
      return (.string text, rest)
    | some '[' :: rest =>
      match skipBlanks rest with
      | some ']' :: rest => .ok (.array [], rest)
      | _ => do
        let (items, rest) ← readItems bound rest
        return (.array items, rest)
    | some '\x7b' :: rest =>
      match skipBlanks rest with
      | some '\x7d' :: rest => .ok (.object [], rest)
      | _ => do
        let (members, rest) ← readMembers bound rest
        return (.object members, rest)
    | some 'n' :: rest => do return (.null, ← readWord ['u', 'l', 'l'] rest)
    | some 't' :: rest => do return (.bool true, ← readWord ['r', 'u', 'e'] rest)
    | some 'f' :: rest => do return (.bool false, ← readWord ['a', 'l', 's', 'e'] rest)
    | symbol :: rest =>
      if symbol = some '-' ∨ (symbol.bind Numeral.digit?).isSome then do
        let (literal, rest) ← readNumber (symbol :: rest)
        return (.number literal, rest)
      else .error .unexpected

/-- The items of an array, at least one, up to the closing bracket. -/
def readItems : Nat → List Symbol → Except Fault (List Json × List Symbol)
  | 0, _ => .error .unfinished
  | bound + 1, text => do
    let (item, rest) ← readValue bound text
    match skipBlanks rest with
    | some ',' :: rest =>
      let (items, rest) ← readItems bound rest
      return (item :: items, rest)
    | some ']' :: rest => return ([item], rest)
    | [] => .error .unfinished
    | _ => .error .unexpected

/-- The members of an object, at least one, up to the closing brace. -/
def readMembers : Nat → List Symbol → Except Fault (List (Option String × Json) × List Symbol)
  | 0, _ => .error .unfinished
  | bound + 1, text => do
    let (name, rest) ← readName text
    let (value, rest) ← readValue bound rest
    match skipBlanks rest with
    | some ',' :: rest =>
      let (members, rest) ← readMembers bound rest
      return ((name, value) :: members, rest)
    | some '\x7d' :: rest => return ([(name, value)], rest)
    | [] => .error .unfinished
    | _ => .error .unexpected

end

/-- Reads a document, which is one value.  A value takes at least one symbol, and so does what
stands between two of them: twice as many steps as there are symbols are always enough. -/
def read (text : List Symbol) : Except Fault Json := do
  let (value, rest) ← readValue (2 * text.length + 1) text
  if (skipBlanks rest).isEmpty then return value else .error .trailing

end Transliteration.Json
