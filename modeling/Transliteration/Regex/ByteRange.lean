import Transliteration.CharSet

/-!
# Sets of characters as byte ranges

A set of characters that is matched byte by byte becomes a list of sequences of byte ranges: a
character belongs to the set if the bytes that encode it lie in the ranges of one of the sequences,
one after another.
-/

namespace Transliteration.Regex

/-- The number of bytes that UTF-8 takes for a code point. -/
def utf8Width (code : Nat) : Nat :=
  if code < 0x80 then 1 else if code < 0x800 then 2 else if code < 0x10000 then 3 else 4

/-- The bytes of a code point in UTF-8. -/
def utf8Bytes (code : Nat) : List Nat :=
  match utf8Width code with
  | 1 => [code]
  | 2 => [0xC0 + code / 64, 0x80 + code % 64]
  | 3 => [0xE0 + code / 4096, 0x80 + code / 64 % 64, 0x80 + code % 64]
  | _ => [0xF0 + code / 262144, 0x80 + code / 4096 % 64, 0x80 + code / 64 % 64, 0x80 + code % 64]

/-- Where a range of code points has to be cut so that both parts are closer to being written as one
range of bytes after another: at a change of length, at the surrogates, or at the end of a block
of continuation bytes that only one end of the range respects. -/
def cut? (lo hi : Nat) : Option (Nat × Nat) :=
  let atLength := [0x80, 0x800, 0xD800, 0xE000, 0x10000].find? fun limit => lo < limit && limit ≤ hi
  match atLength with
  | some limit => some (limit - 1, limit)
  | none =>
    if hi < 0x80 then none
    else [64, 4096, 262144].findSome? fun block =>
      if lo / block = hi / block then none
      else if lo % block ≠ 0 then some (lo / block * block + block - 1, (lo / block + 1) * block)
      else if hi % block ≠ block - 1 then some (hi / block * block - 1, hi / block * block)
      else none

/-- A sequence of byte ranges, both ends included. -/
abbrev ByteRanges := List (Nat × Nat)

/-- The sequences of byte ranges that together are the code points of a range.  The bound is on the
number of cuts one after another, of which there are fewer than a dozen. -/
def byteRanges : Nat → Nat → Nat → List ByteRanges
  | 0, _, _ => []
  | bound + 1, lo, hi =>
    match cut? lo hi with
    | some (before, after) => byteRanges bound lo before ++ byteRanges bound after hi
    | none => if 0xD800 ≤ lo ∧ hi ≤ 0xDFFF then [] else [(utf8Bytes lo).zip (utf8Bytes hi)]

/-- The sequences of byte ranges that together are the set, in ascending order. -/
def byteRangesOf (set : CharSet) : List ByteRanges :=
  set.ranges.flatMap fun (lo, hi) => byteRanges 16 lo hi

end Transliteration.Regex
