import Transliteration.Regex.Blank
import Transliteration.Regex.Fault
import Transliteration.Regex.Look
import Transliteration.Unicode.CaseFolding
import Transliteration.Unicode.NamedSet

/-!
# Escape sequences

A backslash makes a character out of a special one, names a set of characters, or asks about the
place that it stands at.
-/

namespace Transliteration.Regex

/-- The smallest parts of a pattern. -/
inductive Atom where
  | char (c : Char)
  | set (members : CharSet)
  | look (condition : Look)
  deriving DecidableEq, Repr

/-- The characters that mean something else than themselves somewhere in a pattern. -/
def isSpecial (c : Char) : Bool := "\\.+*?()|[]\x7b\x7d^$#&-~".toList.contains c

/-- Whether a backslash before the character leaves it as it is: any ASCII character that is neither
a letter, a digit nor an angle bracket. -/
def isEscapable (c : Char) : Bool :=
  isSpecial c || (c.toNat < 0x80 && !(c.isAlphanum || c == '<' || c == '>'))

/-- Closes a set under letter case where the mode asks for it. -/
def foldSet (modes : Modes) (set : CharSet) : CharSet :=
  if modes.ignoreCase then
    if modes.unicode then Unicode.closeUnderCase set else Unicode.closeUnderAsciiCase set
  else set

/-- Takes everything else instead of the set if it is negated.  Where classes are limited to ASCII
this would take in parts of characters, which no pattern may match. -/
def negateSet (modes : Modes) (negated : Bool) (set : CharSet) : Except Fault CharSet :=
  if negated then if modes.unicode then .ok set.complement else .error .partOfCharacter
  else .ok set

/-! ## Numbers -/

/-- The character with this code point. -/
def charOfCode? (code : Nat) : Option Char :=
  if code < 0xD800 ∨ (0xDFFF < code ∧ code < 0x110000) then some (Char.ofNat code) else none

/-- The character whose code point is written with these hexadecimal digits. -/
def charOfHex? (digits : List Char) : Option Char :=
  if digits.isEmpty || digits.any (fun c => (hexDigit? c).isNone) then none
  else charOfCode? (ofHex digits)

/-- Some hexadecimal digits, between which the verbose mode allows blanks. -/
def readHexDigits (modes : Modes) : Nat → List Char → Option (List Char × List Char)
  | 0, pattern => some ([], pattern)
  | _ + 1, [] => none
  | count + 1, c :: rest =>
    (readHexDigits modes count (skip modes rest)).map fun (digits, rest) => (c :: digits, rest)

/-- A character by its code point, after `\x`, `\u` or `\U` with so many digits. -/
def readHex (modes : Modes) (letter : Char) (count : Nat) (pattern : List Char) :
    Except Fault (Atom × List Char) :=
  match skip modes pattern with
  | '{' :: rest =>
    match readBraced modes (rest.length + 1) rest with
    | none => .error .badEscape
    | some (digits, rest) =>
      match charOfHex? digits with
      | none => .error .badEscape
      | some c => .ok (.char c, skip modes rest)
  | rest =>
    match readHexDigits modes count rest with
    | none => .error .badEscape
    | some (digits, rest) =>
      match charOfHex? digits with
      | none => .error .badEscape
      | some c =>
        if letter = 'x' ∧ !modes.unicode ∧ 0x80 ≤ c.toNat then .error .partOfCharacter
        else .ok (.char c, rest)

/-! ## Sets -/

/-- The sets that `\d`, `\s` and `\w` stand for. -/
def letterSet? (modes : Modes) : Char → Option CharSet
  | 'd' => some (if modes.unicode then Unicode.digits else .ofRange 0x30 0x39)
  | 's' => some (if modes.unicode then Unicode.whiteSpace else ⟨[(0x09, 0x0D), (0x20, 0x20)]⟩)
  | 'w' => some (if modes.unicode then Unicode.wordCharacters else asciiWordCharacters)
  | _ => none

/-- Splits a text at the first occurrence of a separator. -/
def splitFirst? (separator : List Char) : List Char → Option (List Char × List Char)
  | [] => none
  | c :: rest =>
    if separator.isPrefixOf (c :: rest) then some ([], (c :: rest).drop separator.length)
    else (splitFirst? separator rest).map fun (before, after) => (c :: before, after)

/-- A set as it is described between braces: by a name, or by a property and a value. -/
structure Description where
  set : CharSet
  /-- Whether it is the characters outside of the set that are meant. -/
  unequal : Bool
  deriving DecidableEq, Repr

/-- What stands in the braces of `\p{...}`: a name, or a property and a value with an equals sign, a
colon or an inequality sign between them. -/
def describe? (text : List Char) : Option Description :=
  let value? (unequal : Bool) (parts : List Char × List Char) : Option Description :=
    (Unicode.valueSet? (String.ofList parts.1) (String.ofList parts.2)).map fun set =>
      { set, unequal }
  match splitFirst? ['!', '='] text with
  | some parts => value? true parts
  | none =>
    match (splitFirst? [':'] text).orElse fun _ => splitFirst? ['='] text with
    | some parts => value? false parts
    | none => (Unicode.namedSet? (String.ofList text)).map fun set => { set, unequal := false }

/-- What describes the set of a property: one character, or what stands in braces. -/
def readDescription (modes : Modes) (pattern : List Char) :
    Except Fault (List Char × List Char) :=
  match skip modes pattern with
  | [] => .error .badEscape
  | '{' :: rest =>
    match readBraced modes (rest.length + 1) rest with
    | none => .error .badEscape
    | some described => .ok described
  | '\\' :: _ => .error .badEscape
  | c :: rest => .ok ([c], skip modes rest)

/-- The set with a description, or all characters outside of it.  An inequality in the description
turns this around. -/
def describedSet (modes : Modes) (negated : Bool) (text : List Char) : Except Fault CharSet :=
  if !modes.unicode then .error .partOfCharacter
  else match describe? text with
    | none => .error .unknownProperty
    | some description =>
      negateSet modes (negated != description.unequal) (foldSet modes description.set)

/-- The set of a property, after `\p`, or all characters outside of it, after `\P`. -/
def readProperty (modes : Modes) (negated : Bool) (pattern : List Char) :
    Except Fault (Atom × List Char) := do
  let (text, rest) ← readDescription modes pattern
  let set ← describedSet modes negated text
  return (.set set, rest)

/-! ## Places -/

/-- The edge that a word in braces after `\b` stands for. -/
def namedEdge? (name : List Char) : Option WordEdge :=
  match String.ofList name with
  | "start" => some .start
  | "end" => some .finish
  | "start-half" => some .startHalf
  | "end-half" => some .finishHalf
  | _ => none

/-- What follows `\b`.  Braces that begin with a letter or a hyphen name an edge; others are
repetition counts and stay where they are. -/
def readBoundary (modes : Modes) (pattern : List Char) : Except Fault (Atom × List Char) :=
  let plain := Atom.look (.word .boundary !modes.unicode)
  match pattern with
  | '{' :: rest =>
    match skip modes rest with
    | [] => .error .badEscape
    | c :: more =>
      if c.isAlpha || c == '-' then
        match readBraced modes (more.length + 2) (c :: more) with
        | none => .error .badEscape
        | some (name, rest) =>
          match namedEdge? name with
          | none => .error .badEscape
          | some edge => .ok (.look (.word edge !modes.unicode), rest)
      else .ok (plain, pattern)
  | _ => .ok (plain, pattern)

/-- The character that a letter after a backslash stands for. -/
def control? : Char → Option Char
  | 'a' => some '\x07'
  | 'f' => some '\x0C'
  | 't' => some '\t'
  | 'n' => some '\n'
  | 'r' => some '\r'
  | 'v' => some '\x0B'
  | _ => none

/-- The condition that a letter after a backslash stands for. -/
def letterLook? (modes : Modes) : Char → Option Look
  | 'A' => some .textStart
  | 'z' => some .textEnd
  | 'B' => some (.word .inside !modes.unicode)
  | '<' => some (.word .start !modes.unicode)
  | '>' => some (.word .finish !modes.unicode)
  | _ => none

/-- What follows a backslash. -/
def readEscape (modes : Modes) : List Char → Except Fault (Atom × List Char)
  | [] => .error .badEscape
  | 'x' :: rest => readHex modes 'x' 2 rest
  | 'u' :: rest => readHex modes 'u' 4 rest
  | 'U' :: rest => readHex modes 'U' 8 rest
  | 'p' :: rest => readProperty modes false rest
  | 'P' :: rest => readProperty modes true rest
  | 'b' :: rest => readBoundary modes rest
  | c :: rest =>
    if isEscapable c then .ok (.char c, rest)
    else match control? c with
      | some c => .ok (.char c, rest)
      | none =>
        match letterLook? modes c with
        | some condition => .ok (.look condition, rest)
        | none =>
          match letterSet? modes c.toLower with
          | some set => return (.set (← negateSet modes c.isUpper set), rest)
          | none => .error .badEscape

end Transliteration.Regex
