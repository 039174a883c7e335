import Transliteration.CharSet
import Transliteration.Number.Numeral

/-!
# Tables of character properties

A table pairs the names of a property, separated by blanks, with the code points that have it.  They
are written as hexadecimal ranges, in rows such as `"41-5A 61-7A AA"`.

Names are matched loosely: letter case, blanks, hyphens, underscores and a leading `is` make no
difference, and neither do characters outside ASCII.
-/

namespace Transliteration

/-- The cells of a row, which a character separates. -/
def cells (separator : Char) : List Char → List (List Char)
  | [] => [[]]
  | c :: rest =>
    if c = separator then [] :: cells separator rest
    else match cells separator rest with
      | [] => [[c]]
      | cell :: others => (c :: cell) :: others

/-- The code point or the range of code points that is written in hexadecimal. -/
def rangeOfHex? (text : List Char) : Option (Nat × Nat) :=
  match cells '-' text with
  | [code] => some (ofHex code, ofHex code)
  | [lo, hi] => some (ofHex lo, ofHex hi)
  | _ => none

/-- The set written as rows of hexadecimal ranges, which ascend. -/
def CharSet.ofRows (rows : List String) : CharSet :=
  ⟨rows.flatMap fun row => (cells ' ' row.toList).filterMap rangeOfHex?⟩

namespace Unicode

/-- A name without what makes no difference between names.  The name `isc` is the one exception to
the rule about a leading `is`, since what is left of it would name something else. -/
def looseName (name : List Char) : List Char :=
  let strip (cs : List Char) : List Char :=
    (cs.filter fun c => c.toNat < 0x80 && !(c == ' ' || c == '_' || c == '-')).map Char.toLower
  match name with
  | i :: s :: rest =>
    if i.toLower = 'i' ∧ s.toLower = 's' then
      if strip rest = ['c'] then ['i', 's', 'c'] else strip rest
    else strip (i :: s :: rest)
  | short => strip short

/-- Whether one of the blank-separated names is the given one, loosely. -/
def named (names : String) (name : String) : Bool :=
  (cells ' ' names.toList).any fun candidate => looseName candidate == looseName name.toList

/-- The set that a table gives for a name. -/
def lookup (table : List (String × List String)) (name : String) : Option CharSet :=
  (table.find? fun (names, _) => named names name).map fun (_, rows) => CharSet.ofRows rows

end Unicode

end Transliteration
