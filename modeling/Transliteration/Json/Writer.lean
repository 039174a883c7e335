import Transliteration.Json.Number

/-!
# Writing JSON

The writing of a value keeps numbers as they are and members in their order.  The canonical writing
keeps values only: equal numbers and equal objects are written alike.

A string that is no text is written as half of a surrogate pair, which is no text either.
-/

namespace Transliteration.Json

/-! ## Strings -/

/-- A number below 256 as a code unit. -/
def writeUnit (n : Nat) : List Char :=
  ['\\', 'u', '0', '0', Nat.digitChar (n / 16), Nat.digitChar (n % 16)]

/-- A character within a string: quotation marks, backslashes and control characters are escaped. -/
def writeChar (c : Char) : List Char :=
  match c with
  | '"' => ['\\', '"']
  | '\\' => ['\\', '\\']
  | '\x08' => ['\\', 'b']
  | '\x0c' => ['\\', 'f']
  | '\n' => ['\\', 'n']
  | '\r' => ['\\', 'r']
  | '\t' => ['\\', 't']
  | c => if c < ' ' then writeUnit c.toNat else [c]

/-- Half of a surrogate pair. -/
def loneHalf : List Char := ['\\', 'u', 'd', '8', '0', '0']

/-- A string between quotation marks.  One that is no text is written as half of a surrogate pair.
-/
def writeString (text : Option String) : List Char :=
  let inside := match text with
    | some text => text.toList.flatMap writeChar
    | none => loneHalf
  ['"'] ++ inside ++ ['"']

/-! ## Values -/

/-- How values are laid out. -/
structure Style where
  /-- What stands before an item or a member so deep, and before the bracket that closes the value
  in which it lies. -/
  lineBreak : Nat → List Char
  colon : List Char

/-- Without blanks. -/
def Style.compact : Style := ⟨fun _ => [], [':']⟩

/-- An item or a member on a line, and two blanks before it for each value around it. -/
def Style.indented : Style :=
  ⟨fun depth => '\n' :: List.replicate (2 * depth) ' ', [':', ' ']⟩

/-- Digits as characters. -/
def writeDigits (digits : List Nat) : List Char := digits.map Nat.digitChar

/-- An exponent after its letter. -/
def writeExponent (exponent : NumberExponent) : List Char :=
  'e' :: (if exponent.negative then ['-'] else []) ++ writeDigits exponent.digits

/-- A number, digit by digit as it was read. -/
def writeNumber (literal : NumberLiteral) : List Char :=
  (if literal.negative then ['-'] else []) ++ writeDigits literal.whole ++
    (if literal.fraction.isEmpty then [] else '.' :: writeDigits literal.fraction) ++
    literal.exponent.elim [] writeExponent

mutual

/-- Writes a value that lies so deep within others. -/
def writeFrom (style : Style) (depth : Nat) : Json → List Char
  | .null => "null".toList
  | .bool true => "true".toList
  | .bool false => "false".toList
  | .number literal => writeNumber literal
  | .string text => writeString text
  | .array [] => ['[', ']']
  | .array (item :: items) =>
    ['['] ++ style.lineBreak (depth + 1) ++ writeFrom style (depth + 1) item ++
      writeItems style (depth + 1) items ++ style.lineBreak depth ++ [']']
  | .object [] => ['\x7b', '\x7d']
  | .object ((name, value) :: members) =>
    ['\x7b'] ++ style.lineBreak (depth + 1) ++ writeString name ++ style.colon ++
      writeFrom style (depth + 1) value ++ writeMembers style (depth + 1) members ++
      style.lineBreak depth ++ ['\x7d']

/-- Writes items after the first. -/
def writeItems (style : Style) (depth : Nat) : List Json → List Char
  | [] => []
  | item :: items =>
    [','] ++ style.lineBreak depth ++ writeFrom style depth item ++ writeItems style depth items

/-- Writes members after the first. -/
def writeMembers (style : Style) (depth : Nat) : List (Option String × Json) → List Char
  | [] => []
  | (name, value) :: members =>
    [','] ++ style.lineBreak depth ++ writeString name ++ style.colon ++
      writeFrom style depth value ++ writeMembers style depth members

end

/-- The writing of a value. -/
def write (style : Style) (value : Json) : String := String.ofList (writeFrom style 0 value)

/-! ## Canonical writing -/

/-- Puts a member at its place among those with smaller and larger names, in place of one with the
same name. -/
def insertMember (name : String) (value : List Char) :
    List (String × List Char) → List (String × List Char)
  | [] => [(name, value)]
  | (other, kept) :: rest =>
    if name < other then (name, value) :: (other, kept) :: rest
    else if name = other then (name, value) :: rest
    else (other, kept) :: insertMember name value rest

/-- Parts with commas between them. -/
def separated (parts : List (List Char)) : List Char := [','].intercalate parts

mutual

/-- The canonical writing of a value within which others may lie so deep: numbers by their values,
the members of an object by their names, the last one of several with a name, and no blanks.  There
is none if a string is no text or a number is out of range. -/
def canonicalFrom? (room : Nat) : Json → Except Fault (List Char)
  | .null => .ok "null".toList
  | .bool true => .ok "true".toList
  | .bool false => .ok "false".toList
  | .number literal =>
    match literal.canonical? with
    | some text => .ok text
    | none => .error .outOfRange
  | .string (some text) => .ok (writeString (some text))
  | .string none => .error .notText
  | .array items =>
    match room with
    | 0 => .error .tooDeep
    | room + 1 => do
      let parts ← canonicalItems? room items
      return ['['] ++ separated parts ++ [']']
  | .object members =>
    match room with
    | 0 => .error .tooDeep
    | room + 1 => do
      let entries ← canonicalMembers? room [] members
      let parts := entries.map fun (name, value) => writeString (some name) ++ [':'] ++ value
      return ['\x7b'] ++ separated parts ++ ['\x7d']

/-- The items of an array, each in its canonical writing. -/
def canonicalItems? (room : Nat) : List Json → Except Fault (List (List Char))
  | [] => .ok []
  | item :: items => do
    let part ← canonicalFrom? room item
    return part :: (← canonicalItems? room items)

/-- Adds the members of an object to those before them. -/
def canonicalMembers? (room : Nat) (found : List (String × List Char)) :
    List (Option String × Json) → Except Fault (List (String × List Char))
  | [] => .ok found
  | (none, _) :: _ => .error .notText
  | (some name, value) :: members => do
    let value ← canonicalFrom? room value
    canonicalMembers? room (insertMember name value found) members

end

/-- The canonical writing of a value within which others may lie so deep. -/
def canonical? (room : Nat) (value : Json) : Except Fault String :=
  (canonicalFrom? room value).map String.ofList

end Transliteration.Json
