/-!
# Texts as bytes

Lengths and positions of a text are counted in the bytes of its UTF-8 encoding.  A position counts
only where a character begins or at the end of the text.

Bytes from outside need not be UTF-8.  They are read as symbols: a character for every well-formed
encoding of one, and a blank (`none`) for every byte that is part of no character.

Bytes are split into lines before they are decoded.  A line ends at a line feed, which is not part
of it; a carriage return before the line feed is not either.  What follows the last line feed is a
line if it is not empty, and keeps its carriage returns.
-/

namespace Transliteration

namespace Utf8

/-! ## Characters and their encodings -/

/-- The number of bytes in the encoding of a text. -/
def length : List Char → Nat
  | [] => 0
  | c :: rest => c.utf8Size + length rest

/-- The parts of a text before and after a position, or none where no character begins. -/
def splitAt? : List Char → Nat → Option (List Char × List Char)
  | text, 0 => some ([], text)
  | [], _ + 1 => none
  | c :: rest, position =>
    if position < c.utf8Size then none
    else (splitAt? rest (position - c.utf8Size)).map fun (before, after) => (c :: before, after)

/-- The encoding of a text. -/
def encode (text : List Char) : List UInt8 := text.flatMap String.utf8EncodeChar

/-- The lowest six bits of a byte that continues a character. -/
def continuation? (byte : UInt8) : Option Nat :=
  if 0x80 ≤ byte ∧ byte < 0xC0 then some (byte.toNat - 0x80) else none

/-- The character at the beginning of some bytes and the number of bytes it takes.  Every character
has one encoding, the shortest, and surrogates have none. -/
def decodeChar? : List UInt8 → Option (Char × Nat)
  | [] => none
  | a :: rest =>
    if a < 0x80 then some (Char.ofNat a.toNat, 1)
    else if a < 0xC2 then none
    else if a < 0xE0 then
      match rest with
      | b :: _ => do
        let b ← continuation? b
        return (Char.ofNat ((a.toNat - 0xC0) * 64 + b), 2)
      | _ => none
    else if a < 0xF0 then
      match rest with
      | b :: c :: _ => do
        let b ← continuation? b
        let c ← continuation? c
        let code := (a.toNat - 0xE0) * 4096 + b * 64 + c
        if code < 0x800 ∨ (0xD800 ≤ code ∧ code < 0xE000) then none else some (Char.ofNat code, 3)
      | _ => none
    else if a < 0xF5 then
      match rest with
      | b :: c :: d :: _ => do
        let b ← continuation? b
        let c ← continuation? c
        let d ← continuation? d
        let code := (a.toNat - 0xF0) * 262144 + b * 4096 + c * 64 + d
        if code < 0x10000 ∨ 0x110000 ≤ code then none else some (Char.ofNat code, 4)
      | _ => none
    else none

/-- A character of a text, or none for a byte that is part of no character. -/
abbrev Symbol := Option Char

/-- Reads bytes as symbols, told how many bytes still belong to the character before them. -/
def symbolsFrom : Nat → List UInt8 → List Symbol
  | _, [] => []
  | skip + 1, _ :: rest => symbolsFrom skip rest
  | 0, byte :: rest =>
    match decodeChar? (byte :: rest) with
    | some (c, width) => some c :: symbolsFrom (width - 1) rest
    | none => none :: symbolsFrom 0 rest

/-- Reads bytes as symbols. -/
def symbols (bytes : List UInt8) : List Symbol := symbolsFrom 0 bytes

/-- Every symbol of a text that is all characters. -/
def ofText (text : String) : List Symbol := text.toList.map some

/-- The text that some bytes encode, if they encode one. -/
def decode? (bytes : List UInt8) : Option String :=
  ((symbols bytes).mapM id).map String.ofList

end Utf8

/-! ## Lines -/

namespace Line

/-- The line without a carriage return at its end. -/
def dropReturn (line : List UInt8) : List UInt8 :=
  if line.getLast? = some 13 then line.dropLast else line

/-- Splits bytes into lines, told the bytes of the current line so far, latest first. -/
def splitFrom (current : List UInt8) : List UInt8 → List (List UInt8)
  | [] => if current.isEmpty then [] else [current.reverse]
  | byte :: rest =>
    if byte = 10 then dropReturn current.reverse :: splitFrom [] rest
    else splitFrom (byte :: current) rest

/-- The lines of some bytes. -/
def split (bytes : List UInt8) : List (List UInt8) := splitFrom [] bytes

end Line

end Transliteration
