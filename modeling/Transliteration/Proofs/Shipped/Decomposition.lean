import Transliteration.Proofs.Decomposition.Constituents
import Transliteration.Proofs.Document.Writing
import Transliteration.Proofs.Formula.Evaluation
import Transliteration.Proofs.Shipped.Syllables
import Transliteration.Shipped

/-!
# The formulas of Korean

The formulas that come with the library take the syllables of Hangul apart as the algorithm for them
does, and nothing is lost by it (`Korean.hangul_decomposition`).

## Strategy

* A formula computes in 64 bits, and on the code point of a syllable every step fits
  (`Formula.Computable`), so its result is the exact one.  For each formula the exact result is a
  part of the syllable (`exists_leading`, `exists_vowel`, `exists_final`).
* The formula for the vowel takes away what the leading consonant contributes, which it learns from
  an earlier result.  Another formula finds the vowel from the syllable alone
  (`exists_independentVowel`).  Nothing else is asked of the formula for the vowel when a character
  is taken apart (`piece_eq`), so this is shown once for both.
* The parts come in ascending order, so they stay where they are when the results are sorted.
* What becomes of a text is told by its characters, and is left to the algorithm.
-/

namespace Transliteration.Shipped.Korean

open Hangul (Syllable)

/-! ## The formulas one by one -/

/-- A formula for syllables. -/
def part (offset modulus divisor intercept order : Int64) (weights : Weights := .empty) :
    Formula where
  offset
  modulus
  divisor
  intercept
  order
  least := 0xAC00
  greatest := 0xD7A3
  weights

/-- The leading consonant from the syllable. -/
def leadingPart : Formula := part (-0xAC00) 1 588 0x1100 0

/-- The vowel from what the leading consonant leaves over. -/
def vowelPart : Formula := part (-0xAC00 + 0x1100 * 588) 1 28 0x1161 1 (.ofList [(0, -588)])

/-- The vowel from the syllable alone. -/
def independentVowelPart : Formula := part (-0xAC00) 588 28 0x1161 1

/-- The final consonant from the syllable, or the filler. -/
def finalPart : Formula := part (-0xAC00) 28 1 0x11A7 2

theorem formulas_eq : formulas = [leadingPart, vowelPart, finalPart] := by decide

/-- The formulas for the parts of a syllable, each of which starts from the syllable alone. -/
def independentFormulas : List Formula := [leadingPart, independentVowelPart, finalPart]

variable {syllable : Syllable} {code : Int64} {earlier : List (Option Int64)}

/-- The code point is that of a syllable. -/
def IsCode (syllable : Syllable) (code : Int64) : Prop :=
  code.toInt = 0xAC00 + (syllable.leading * 21 + syllable.vowel) * 28 + syllable.final

/-- A small quotient leads to a result. -/
theorem exists_eval_of_quotient {formula : Formula} {quotient : Nat}
    (hquotient : formula.exactQuotient code earlier = quotient) (hsmall : quotient < 28)
    (hintercept : 0 ≤ formula.intercept.toInt ∧ formula.intercept.toInt < 0x2000)
    (hcomputable : Checked.Fits (formula.exactQuotient code earlier) →
      formula.Computable code earlier) :
    ∃ result, formula.eval code earlier = some result ∧
      result.toInt = formula.intercept.toInt + quotient := by
  have hresult : formula.exactResult code earlier = formula.intercept.toInt + quotient := by
    rw [Formula.exactResult, hquotient, Int.add_comm]
  rw [← hresult]
  refine (hcomputable ?_).exists_eval_eq_some ?_
  · rw [hquotient]
    exact ⟨by omega, by omega⟩
  · rw [hresult]
    exact ⟨by omega, by omega⟩

section

variable {offset modulus divisor intercept order : Int64}

theorem exactValue_part : (part offset modulus divisor intercept order).exactValue code earlier =
    code.toInt + offset.toInt := by
  simp [Formula.exactValue, Formula.exactSum, Formula.products, part, Weights.empty]

/-- Without weights a formula has a result if the value and the quotient have 64 bits. -/
theorem computable_part (hvalue : Checked.Fits (code.toInt + offset.toInt))
    (hmodulus : modulus.toInt ≠ -1)
    (hquotient : Checked.Fits
      ((part offset modulus divisor intercept order).exactQuotient code earlier)) :
    (part offset modulus divisor intercept order).Computable code earlier where
  asks := by simp [Formula.AsksForFailure, part, Weights.empty]
  products := by simp [Formula.products, part, Weights.empty]
  sums := by simp [Formula.PartialSumsFit, Formula.products, part, Weights.empty, Checked.Fits]
  weighted := by
    simpa [Formula.exactSum, Formula.products, part, Weights.empty] using Checked.fits_toInt code
  value := by rwa [exactValue_part]
  corner hcorner := hmodulus hcorner.2
  quotient := hquotient

end

/-- The code point of a syllable is small. -/
theorem IsCode.fits (hcode : IsCode syllable code) :
    Checked.Fits (code.toInt + (-0xAC00 : Int64).toInt) := by
  have hoffset : (-0xAC00 : Int64).toInt = -0xAC00 := rfl
  unfold IsCode at hcode
  rw [hcode, hoffset]
  exact ⟨by omega, by omega⟩

theorem exists_leading (hcode : IsCode syllable code) (earlier : List (Option Int64)) :
    ∃ leading, leadingPart.eval code earlier = some leading ∧
      leading.toInt = 0x1100 + syllable.leading := by
  have hquotient : leadingPart.exactQuotient code earlier = (syllable.leading : Nat) := by
    unfold IsCode at hcode
    rw [Formula.exactQuotient, Formula.exactReduced, leadingPart, exactValue_part]
    show (code.toInt + -0xAC00).tdiv 588 = _
    rw [Int.tdiv_eq_ediv_of_nonneg (by omega)]
    omega
  exact exists_eval_of_quotient hquotient (by omega) (by decide)
    (computable_part hcode.fits (by decide))

theorem exists_independentVowel (hcode : IsCode syllable code) :
    ∃ vowel, independentVowelPart.eval code earlier = some vowel ∧
      vowel.toInt = 0x1161 + syllable.vowel := by
  have hquotient : independentVowelPart.exactQuotient code earlier = (syllable.vowel : Nat) := by
    unfold IsCode at hcode
    rw [Formula.exactQuotient, Formula.exactReduced, independentVowelPart, exactValue_part]
    show ((code.toInt + -0xAC00).tmod 588).tdiv 28 = _
    rw [Int.tmod_eq_emod_of_nonneg (by omega), Int.tdiv_eq_ediv_of_nonneg (by omega)]
    omega
  exact exists_eval_of_quotient hquotient (by omega) (by decide)
    (computable_part hcode.fits (by decide))

theorem exists_final (hcode : IsCode syllable code) (earlier : List (Option Int64)) :
    ∃ final, finalPart.eval code earlier = some final ∧
      final.toInt = 0x11A7 + syllable.final := by
  have hquotient : finalPart.exactQuotient code earlier = (syllable.final : Nat) := by
    unfold IsCode at hcode
    rw [Formula.exactQuotient, Formula.exactReduced, finalPart, exactValue_part]
    show ((code.toInt + -0xAC00).tmod 28).tdiv 1 = _
    rw [Int.tmod_eq_emod_of_nonneg (by omega), Int.tdiv_one]
    omega
  exact exists_eval_of_quotient hquotient (by omega) (by decide)
    (computable_part hcode.fits (by decide))

/-- The leading consonant is known, and what it contributes is taken away again. -/
theorem exists_vowel (hcode : IsCode syllable code) {leading : Int64}
    (hleading : leading.toInt = 0x1100 + syllable.leading) :
    ∃ vowel, vowelPart.eval code [some leading] = some vowel ∧
      vowel.toInt = 0x1161 + syllable.vowel := by
  have hproducts : Formula.products [some leading] vowelPart.weights.toList =
      [leading.toInt * -588] := rfl
  have hvalue : vowelPart.exactValue code [some leading] =
      syllable.vowel * 28 + syllable.final := by
    unfold IsCode at hcode
    rw [Formula.exactValue, Formula.exactSum, hproducts, List.sum_singleton]
    show code.toInt + leading.toInt * -588 + 2514944 = _
    omega
  have hquotient : vowelPart.exactQuotient code [some leading] = (syllable.vowel : Nat) := by
    rw [Formula.exactQuotient, Formula.exactReduced, hvalue]
    show ((syllable.vowel : Int) * 28 + syllable.final).tdiv 28 = _
    rw [Int.tdiv_eq_ediv_of_nonneg (by omega)]
    omega
  -- The weight takes away all syllables with an earlier leading consonant, and the offset the rest.
  have hcontribution : leading.toInt * -588 = -588 * (0x1100 + syllable.leading) := by
    rw [hleading, Int.mul_comm]
  unfold IsCode at hcode
  refine exists_eval_of_quotient hquotient (by omega) (by decide) fun hfits => {
    asks := ?_
    products := ?_
    sums := ?_
    weighted := ?_
    value := ?_
    corner := fun hcorner => absurd hcorner.2 (by decide)
    quotient := hfits }
  · rintro ⟨entry, hentry, hfailed⟩
    rw [show vowelPart.weights.toList = [(0, -588)] from rfl, List.mem_singleton] at hentry
    subst hentry
    cases hfailed
  · rw [hproducts, List.forall_mem_singleton, hcontribution]
    exact ⟨by omega, by omega⟩
  · rw [hproducts, hcontribution, Formula.partialSumsFit_cons_iff]
    refine ⟨⟨by decide, by decide⟩, fun count => ?_⟩
    rw [List.take_nil, List.sum_nil]
    exact ⟨by omega, by omega⟩
  · rw [Formula.exactSum, hproducts, List.sum_singleton, hcontribution]
    exact ⟨by omega, by omega⟩
  · rw [hvalue]
    exact ⟨by omega, by omega⟩

/-! ## Characters -/

theorem toInt_codeOf (c : Char) : (Decomposition.codeOf c).toInt = c.toNat := by
  have hsmall := Decomposition.toNat_char c
  have hlo : -2 ^ 63 ≤ (c.toNat : Int) := by omega
  have hhi : (c.toNat : Int) < 2 ^ 63 := by omega
  exact Int64.toInt_ofInt_of_le hlo hhi

theorem isCode_codeOf (syllable : Syllable) :
    IsCode syllable (Decomposition.codeOf syllable.char) := by
  rw [IsCode, toInt_codeOf, syllable.toNat_char]
  omega

theorem covers_part {offset modulus divisor intercept order : Int64} {weights : Weights}
    {c : Char} :
    (part offset modulus divisor intercept order weights).covers (Decomposition.codeOf c) = true ↔
      Hangul.IsSyllable c := by
  rw [Formula.covers, Bool.and_eq_true, decide_eq_true_iff, decide_eq_true_iff,
    Int64.le_iff_toInt_le, Int64.le_iff_toInt_le, toInt_codeOf]
  show (0xAC00 : Int) ≤ c.toNat ∧ (c.toNat : Int) ≤ 0xD7A3 ↔ _
  unfold Hangul.IsSyllable
  omega

theorem emit_eq (result : Int64) (n : Nat) (hresult : result.toInt = n) (hn : n < 0xD800) :
    Decomposition.emit (some result) = Char.ofNat n ∧
      (Decomposition.charOf? result).isSome := by
  have hchar : Decomposition.charOf? result = some (Char.ofNat n) := by
    rw [Decomposition.charOf?_eq_some_iff, hresult, Char.toNat_ofNat, if_pos (.inl hn)]
  rw [Decomposition.emit, Option.bind_some, hchar]
  exact ⟨rfl, rfl⟩

/-- Whatever the formula for the vowel is, if it finds the vowel the formulas take a syllable apart
into its parts and leave other characters alone. -/
theorem piece_eq {vowelFormula : Formula}
    (hcovers : ∀ c, vowelFormula.covers (Decomposition.codeOf c) = true ↔ Hangul.IsSyllable c)
    (hvowel : ∀ (syllable : Syllable) (code leading : Int64), IsCode syllable code →
      leading.toInt = 0x1100 + syllable.leading →
      ∃ vowel, vowelFormula.eval code [some leading] = some vowel ∧
        vowel.toInt = 0x1161 + syllable.vowel) (c : Char) :
    Decomposition.piece [leadingPart, vowelFormula, finalPart] c = ⟨Hangul.constituents c, []⟩ := by
  have hleadingCovers : leadingPart.covers (Decomposition.codeOf c) = true ↔ Hangul.IsSyllable c :=
    covers_part
  have hfinalCovers : finalPart.covers (Decomposition.codeOf c) = true ↔ Hangul.IsSyllable c :=
    covers_part
  rcases Hangul.cases_char c with ⟨syllable, rfl⟩ | hc
  · have hsyllable := syllable.isSyllable_char
    have hcode := isCode_codeOf syllable
    obtain ⟨leading, hleading, hleadingValue⟩ := exists_leading hcode []
    obtain ⟨vowel, hvowel, hvowelValue⟩ := hvowel syllable _ leading hcode hleadingValue
    obtain ⟨final, hfinal, hfinalValue⟩ :=
      exists_final hcode [some leading, some vowel]
    -- each formula sees the results of those before it
    have hresults : Decomposition.results (Decomposition.codeOf syllable.char) []
        [leadingPart, vowelFormula, finalPart] = [some leading, some vowel, some final] := by
      simp [Decomposition.results, hleadingCovers.mpr hsyllable, (hcovers _).mpr hsyllable,
        hfinalCovers.mpr hsyllable, hleading, hvowel, hfinal]
    -- the blocks of the three kinds of parts follow each other, so sorting changes nothing
    have hsort : Decomposition.sort [some leading, some vowel, some final] =
        [some leading, some vowel, some final] := by
      have hfirst : leading ≤ vowel := Int64.le_iff_toInt_le.mpr (by omega)
      have hsecond : vowel ≤ final := Int64.le_iff_toInt_le.mpr (by omega)
      simp [Decomposition.sort, Decomposition.insertResult, Decomposition.precedes, hfirst, hsecond]
    have hleadingChar := emit_eq leading (0x1100 + syllable.leading) (by omega) (by omega)
    have hvowelChar := emit_eq vowel (0x1161 + syllable.vowel) (by omega) (by omega)
    have hfinalChar := emit_eq final (0x11A7 + syllable.final) (by omega) (by omega)
    rw [Decomposition.piece, hresults]
    simp only [hsort, Hangul.constituents_char, Syllable.parts]
    simp [Decomposition.emitWarnings, hleadingChar, hvowelChar, hfinalChar]
  · rw [Decomposition.piece]
    have hresults : Decomposition.results (Decomposition.codeOf c) []
        [leadingPart, vowelFormula, finalPart] = [] := by
      simp [Decomposition.results, hleadingCovers, hcovers, hfinalCovers, hc]
    rw [hresults, Hangul.constituents_of_not_syllable hc]

/-! ## Texts -/

theorem decompose_eq {formulas : List Formula}
    (hpiece : ∀ c, Decomposition.piece formulas c = ⟨Hangul.constituents c, []⟩)
    (text : List Char) : Decomposition.decompose formulas text = ⟨Hangul.decompose text, []⟩ := by
  simp [Decomposition.decompose, hpiece, Hangul.decompose]

theorem decompose_formulas (text : List Char) :
    Decomposition.decompose formulas text = ⟨Hangul.decompose text, []⟩ := by
  rw [formulas_eq]
  exact decompose_eq
    (piece_eq (fun _ => covers_part) fun _ _ _ hcode hleading => exists_vowel hcode hleading) text

theorem decompose_independentFormulas (text : List Char) :
    Decomposition.decompose independentFormulas text = ⟨Hangul.decompose text, []⟩ :=
  decompose_eq (piece_eq (fun _ => covers_part) fun _ _ _ hcode _ => exists_independentVowel hcode)
    text

/-! ## Korean as it is loaded -/

/-- Korean as it comes with the library. -/
def language : Language := ⟨"kor", "Korean", rules⟩

theorem declarable_languages : ∀ language ∈ languages, language.Declarable := by decide +kernel

theorem nodup_names : (languages.map Language.name).Nodup := by decide

theorem language_mem_languages : language ∈ languages := List.mem_cons_self ..

theorem languageRules_korean (loader : Loader) :
    loader.languageRules document "Korean" = .ok language.ruleSet := by
  have hname : language.name = "Korean" := rfl
  rw [document, ← hname]
  exact loader.languageRules_document declarable_languages nodup_names language_mem_languages

theorem decompose_language (text : String) :
    language.ruleSet.decompose text = ⟨String.ofList (Hangul.decompose text.toList), []⟩ := by
  rw [RuleSet.decompose, Language.ruleSet, language, rules, decompose_formulas]
  rfl

/-- Korean texts are taken apart by the algorithm for the syllables of Hangul, and nothing is lost.

The formulas are those that come with the library, as they are loaded from its document.  They
replace each syllable by its leading consonant, its vowel and its final consonant, in this order,
and copy all other characters; they never fail.  So they do what the formulas do each of which
starts from the syllable alone.  They never write a replacement character for anything else, leave
nothing to be taken apart, and texts that contain no parts are put together again and hence told
apart. -/
theorem hangul_decomposition (loader : Loader) :
    ∃ set, loader.languageRules document "Korean" = .ok set ∧ set.formulas = formulas ∧
      (∃ pieceOf : Char → List Char,
        (∀ syllable : Syllable, pieceOf syllable.char = syllable.parts) ∧
        (∀ c, (∀ syllable : Syllable, c ≠ syllable.char) → pieceOf c = [c]) ∧
        ∀ text, set.decompose text = ⟨String.ofList (text.toList.flatMap pieceOf), []⟩) ∧
      (∀ text, set.decompose text =
        ({ set with formulas := independentFormulas } : RuleSet).decompose text) ∧
      (∀ text, (set.decompose text).value.toList.count Decomposition.replacement =
        text.toList.count Decomposition.replacement) ∧
      (∀ text, set.decompose (set.decompose text).value = set.decompose text) ∧
      (∀ text, (∀ c ∈ text.toList, ¬ Hangul.IsPart c) →
        Hangul.recompose (set.decompose text).value.toList = text.toList) ∧
      ∀ first second, (∀ c ∈ first.toList, ¬ Hangul.IsPart c) →
        (∀ c ∈ second.toList, ¬ Hangul.IsPart c) →
        (set.decompose first).value = (set.decompose second).value → first = second := by
  have hrecompose (text : String) (htext : ∀ c ∈ text.toList, ¬ Hangul.IsPart c) :
      Hangul.recompose (language.ruleSet.decompose text).value.toList = text.toList := by
    rw [decompose_language, String.toList_ofList, Hangul.recompose_decompose htext]
  -- the set equals the algorithm on every text, which has all of the properties
  refine ⟨language.ruleSet, languageRules_korean loader, rfl, ?_, ?_, ?_, ?_, hrecompose, ?_⟩
  · refine ⟨Hangul.constituents, Hangul.constituents_char, fun c hc => ?_, decompose_language⟩
    have hother := (Hangul.cases_char c).resolve_left fun ⟨syllable, heq⟩ => hc syllable heq
    exact Hangul.constituents_of_not_syllable hother
  · intro text
    rw [decompose_language, RuleSet.decompose, decompose_independentFormulas]
    rfl
  · intro text
    rw [decompose_language, String.toList_ofList]
    exact Hangul.count_decompose (by decide) (by decide) text.toList
  · intro text
    rw [decompose_language, decompose_language, String.toList_ofList, Hangul.decompose_decompose]
  · intro first second hfirst hsecond heq
    rw [← String.toList_inj, ← hrecompose first hfirst, heq, hrecompose second hsecond]

end Transliteration.Shipped.Korean
