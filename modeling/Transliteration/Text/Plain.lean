/-!
# Texts without control sequences

What a log shows goes to a terminal, which takes some sequences of characters for commands: change
the colour, set the title of the window.  No command may come out of the text of an entry, so the
sequences are taken out, and with them the control characters other than white space.

A sequence begins with the escape character; what follows it decides how the sequence goes on and
what ends it.
-/

namespace Transliteration.Plain

/-- Where in a sequence a text stands. -/
inductive Place where
  /-- Outside of sequences. -/
  | outside
  | afterEscape
  /-- After the escape character and further characters that call for one more. -/
  | awaitingFinal
  /-- In a sequence that begins with a square bracket. -/
  | control
  /-- At the start of a sequence that begins with `P`. -/
  | deviceStart
  | deviceParameters
  | deviceIntermediates
  /-- In the text of a device, which a string terminator ends. -/
  | deviceText
  /-- In a command of the system, which a bell ends. -/
  | systemCommand
  deriving DecidableEq, Repr

/-- Whether the code of the character lies between the two bounds. -/
def between (lo hi : Nat) (c : Char) : Bool := lo ≤ c.toNat && c.toNat ≤ hi

/-- Whether one of the bytes of the character in UTF-8 after the first one is `9C`, the string
terminator. -/
def hasTerminator (c : Char) : Bool :=
  let code := c.toNat
  (0x80 ≤ code && code % 64 == 0x1C) || (0x800 ≤ code && code / 64 % 64 == 0x1C) ||
    (0x10000 ≤ code && code / 4096 % 64 == 0x1C)

namespace Place

/-- What follows the escape character. -/
def ofFirst (c : Char) : Place :=
  match c with
  | '[' => .control
  | ']' => .systemCommand
  | 'P' => .deviceStart
  | 'X' | '^' | '_' => .deviceText
  | c =>
    if between 0x20 0x2F c then .awaitingFinal
    else if between 0x30 0x7E c then .outside
    else .afterEscape

/-- The place after a character.  Anywhere the escape character begins a sequence and two of the
control characters break it off. -/
def next (place : Place) (c : Char) : Place :=
  if c = '\x1B' then .afterEscape
  else if c = '\x18' ∨ c = '\x1A' then .outside
  else match place with
  | .outside => .outside
  | .afterEscape => ofFirst c
  | .awaitingFinal => if between 0x30 0x7E c then .outside else .awaitingFinal
  | .control => if between 0x40 0x7E c then .outside else .control
  | .deviceStart =>
    if between 0x20 0x2F c then .deviceIntermediates
    else if between 0x30 0x3F c then .deviceParameters
    else if between 0x40 0x7E c then .deviceText
    else .deviceStart
  | .deviceParameters =>
    if between 0x20 0x2F c then .deviceIntermediates
    else if between 0x3C 0x7E c then .deviceText
    else .deviceParameters
  | .deviceIntermediates => if between 0x30 0x7E c then .deviceText else .deviceIntermediates
  | .deviceText => if hasTerminator c then .outside else .deviceText
  | .systemCommand => if c = '\x07' then .outside else .systemCommand

end Place

/-- Whether the character is a control character that stands for white space. -/
def isBlankControl (c : Char) : Bool := c == '\t' || c == '\n' || c == '\x0C' || c == '\r'

/-- Whether the character is shown outside of sequences. -/
def isShown (c : Char) : Bool := isBlankControl c || (0x20 ≤ c.toNat && c != '\x7F')

/-- Whether the character is shown at a place.  White space is shown within the shorter kinds of
sequences, too. -/
def Place.shows : Place → Char → Bool
  | .outside, c => isShown c
  | .afterEscape, c => isBlankControl c
  | .awaitingFinal, c => isBlankControl c
  | .control, c => isBlankControl c
  | _, _ => false

/-- What is shown of a text that goes on at a place.  Once a character is shown, so are those after
it that would be shown outside of sequences; an interrupted sequence goes on after them, unless
one of them is beyond ASCII. -/
def strip (showing : Bool) (place : Place) : List Char → List Char
  | [] => []
  | c :: rest =>
    if showing && isShown c then
      c :: strip true (if c.toNat < 0x80 then place else .outside) rest
    else if place.shows c then c :: strip true (place.next c) rest
    else strip false (place.next c) rest

/-- A text without its control sequences. -/
def render (text : String) : String := String.ofList (strip false .outside text.toList)

end Transliteration.Plain
