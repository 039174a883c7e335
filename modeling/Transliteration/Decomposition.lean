import Transliteration.Formula
import Transliteration.Log
import Transliteration.Text.Utf8

/-!
# Decomposition

A character that formulas apply to is taken apart into one character for each of them, ordered by
code point.  Other characters stay as they are.  A result that is no character shows up as the
replacement character, and never without a warning.
-/

namespace Transliteration.Decomposition

/-- Stands for what has no character. -/
def replacement : Char := '\uFFFD'

/-- The code point of a character as a formula sees it. -/
def codeOf (c : Char) : Int64 := Int64.ofInt c.toNat

/-- The results of the formulas that apply to a code point, each of which sees those before it. -/
def results (code : Int64) (earlier : List (Option Int64)) : List Formula → List (Option Int64)
  | [] => earlier
  | formula :: rest =>
    if formula.covers code then results code (earlier ++ [formula.eval code earlier]) rest
    else results code earlier rest

/-- Whether a result comes before another one: those without a value come first. -/
def precedes : Option Int64 → Option Int64 → Bool
  | none, _ => true
  | some _, none => false
  | some a, some b => a ≤ b

/-- Puts a result at its place among ordered ones. -/
def insertResult (result : Option Int64) : List (Option Int64) → List (Option Int64)
  | [] => [result]
  | head :: rest =>
    if precedes result head then result :: head :: rest else head :: insertResult result rest

/-- The results in ascending order. -/
def sort (results : List (Option Int64)) : List (Option Int64) := results.foldr insertResult []

/-- The character with this code point, if there is one. -/
def charOf? (code : Int64) : Option Char :=
  let n := code.toInt
  if (0 ≤ n ∧ n < 0xD800) ∨ (0xE000 ≤ n ∧ n < 0x110000) then some (Char.ofNat n.toNat) else none

/-- The warning for a result that could not be computed. -/
def overflowWarning (c : Char) : LogEntry := ⟨.warn, s!"분해 공식 계산 범위 초과 ('{c}')"⟩

/-- The warning for a result that is no character. -/
def invalidWarning (c : Char) (code : Int64) : LogEntry :=
  ⟨.warn, s!"분해 결과가 유효한 코드포인트가 아님: {code.toInt} ('{c}')"⟩

/-- The character for a result. -/
def emit (result : Option Int64) : Char := (result.bind charOf?).getD replacement

/-- What a result of a character gives cause to report when it is written. -/
def emitWarnings (c : Char) : Option Int64 → List LogEntry
  | none => []
  | some code => if (charOf? code).isSome then [] else [invalidWarning c code]

/-- The constituents of one character.  Warnings about results that could not be computed come in
the order of the formulas, and before those about results that are no characters. -/
def piece (formulas : List Formula) (c : Char) : Logged (List Char) :=
  match results (codeOf c) [] formulas with
  | [] => ⟨[c], []⟩
  | found =>
    let sorted := sort found
    ⟨sorted.map emit,
      (found.filter Option.isNone).map (fun _ => overflowWarning c) ++
        sorted.flatMap (emitWarnings c)⟩

/-- Takes a text apart, character by character. -/
def decompose (formulas : List Formula) (text : List Char) : Logged (List Char) :=
  ⟨text.flatMap fun c => (piece formulas c).value, text.flatMap fun c => (piece formulas c).log⟩

end Transliteration.Decomposition
