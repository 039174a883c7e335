/-!
# Sets of characters

A set of characters is kept as an ascending list of code point ranges, so that a set of a hundred
thousand characters costs a few hundred pairs of numbers.  Surrogates are code points but no
characters: a range may run across them, and they never make a character a member.
-/

namespace Transliteration

/-- A set of characters as ranges of code points, both ends included, ascending and apart. -/
structure CharSet where
  ranges : List (Nat × Nat)
  deriving DecidableEq, Repr

namespace CharSet

/-- The largest code point. -/
def lastCodePoint : Nat := 0x10FFFF

/-- Adds the code points from `lo` to `hi` to ascending ranges, joining those that touch. -/
def insertRange (lo hi : Nat) : List (Nat × Nat) → List (Nat × Nat)
  | [] => [(lo, hi)]
  | (a, b) :: rest =>
    if hi + 1 < a then (lo, hi) :: (a, b) :: rest
    else if b + 1 < lo then (a, b) :: insertRange lo hi rest
    else insertRange (min lo a) (max hi b) rest

/-- The code points from `start` on that lie in none of the ascending ranges. -/
def gaps (start : Nat) : List (Nat × Nat) → List (Nat × Nat)
  | [] => if start ≤ lastCodePoint then [(start, lastCodePoint)] else []
  | (a, b) :: rest =>
    if start < a then (start, a - 1) :: gaps (b + 1) rest else gaps (b + 1) rest

/-- The set without characters. -/
def empty : CharSet := ⟨[]⟩

/-- The characters from code point `lo` to code point `hi`. -/
def ofRange (lo hi : Nat) : CharSet := ⟨[(lo, hi)]⟩

/-- The set of one character. -/
def singleton (c : Char) : CharSet := ofRange c.toNat c.toNat

/-- Whether there is no range. -/
def isEmpty (s : CharSet) : Bool := s.ranges.isEmpty

/-- Whether the code point lies in one of the ranges. -/
def containsCode (s : CharSet) (code : Nat) : Bool :=
  s.ranges.any fun (lo, hi) => lo ≤ code && code ≤ hi

/-- Whether the character lies in one of the ranges. -/
def contains (s : CharSet) (c : Char) : Bool := s.containsCode c.toNat

/-- The characters that are in either set. -/
def union (s t : CharSet) : CharSet :=
  ⟨t.ranges.foldl (fun found (lo, hi) => insertRange lo hi found) s.ranges⟩

/-- Every character that is not in the set. -/
def complement (s : CharSet) : CharSet := ⟨gaps 0 (insertRange 0xD800 0xDFFF s.ranges)⟩

/-- The characters that are in both sets. -/
def inter (s t : CharSet) : CharSet :=
  ⟨s.ranges.flatMap fun (a, b) => t.ranges.filterMap fun (c, d) =>
    if max a c ≤ min b d then some (max a c, min b d) else none⟩

/-- The characters that are in the first set only. -/
def diff (s t : CharSet) : CharSet := s.inter t.complement

/-- The characters in exactly one of the two sets. -/
def symmDiff (s t : CharSet) : CharSet := (s.diff t).union (t.diff s)

/-- Whether every character of the set is an ASCII character. -/
def isAscii (s : CharSet) : Bool := s.ranges.all fun (_, hi) => hi < 0x80

/-- The only code point of the set, when it has just one. -/
def only? (s : CharSet) : Option Nat :=
  match s.ranges with
  | [(lo, hi)] => if lo = hi then some lo else none
  | _ => none

/-- Every character. -/
def all : CharSet := empty.complement

end CharSet

end Transliteration
