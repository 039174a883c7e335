import Transliteration.RuleSet

/-!
# Korean

A syllable of Hangul is taken apart into its leading consonant, its vowel and its final consonant,
or the filler that stands for none.  Counted from the first syllable on, its number is
`(leading * 21 + vowel) * 28 + final`.  Two ways to romanize the parts are on offer.
-/

namespace Transliteration.Shipped.Korean

/-- The leading consonant, the vowel and the final consonant of a syllable.  The vowel is found by
taking away what the leading consonant contributes. -/
def formulas : List Formula := [
  { offset := -44032, modulus := 1, divisor := 588, intercept := 4352, order := 0
    least := 44032, greatest := 55203 },
  { offset := 2514944, modulus := 1, divisor := 28, intercept := 4449, order := 1
    least := 44032, greatest := 55203
    weights := .ofList [(0, -588)] },
  { offset := -44032, modulus := 28, divisor := 1, intercept := 4519, order := 2
    least := 44032, greatest := 55203 }]

/-- The Revised Romanization, which is official in South Korea. -/
def revisedRomanization : ProfileRecord where
  name := "Revised Romanization"
  transliterations := [
    { main := "ᆧ", replacement := "" },
    { main := "ᄅ", replacement := "l", before := some "ᆯ" },
    { main := "ᄀ", replacement := "g" },
    { main := "ᄁ", replacement := "kk" },
    { main := "ᄂ", replacement := "n" },
    { main := "ᄃ", replacement := "d" },
    { main := "ᄄ", replacement := "tt" },
    { main := "ᄅ", replacement := "r" },
    { main := "ᄆ", replacement := "m" },
    { main := "ᄇ", replacement := "b" },
    { main := "ᄈ", replacement := "pp" },
    { main := "ᄉ", replacement := "s" },
    { main := "ᄊ", replacement := "ss" },
    { main := "ᄋ", replacement := "" },
    { main := "ᄌ", replacement := "j" },
    { main := "ᄍ", replacement := "jj" },
    { main := "ᄎ", replacement := "ch" },
    { main := "ᄏ", replacement := "k" },
    { main := "ᄐ", replacement := "t" },
    { main := "ᄑ", replacement := "p" },
    { main := "ᄒ", replacement := "h" },
    { main := "ᅡ", replacement := "a" },
    { main := "ᅢ", replacement := "ae" },
    { main := "ᅣ", replacement := "ya" },
    { main := "ᅤ", replacement := "yae" },
    { main := "ᅥ", replacement := "eo" },
    { main := "ᅦ", replacement := "e" },
    { main := "ᅧ", replacement := "yeo" },
    { main := "ᅨ", replacement := "ye" },
    { main := "ᅩ", replacement := "o" },
    { main := "ᅪ", replacement := "wa" },
    { main := "ᅫ", replacement := "wae" },
    { main := "ᅬ", replacement := "oe" },
    { main := "ᅭ", replacement := "yo" },
    { main := "ᅮ", replacement := "u" },
    { main := "ᅯ", replacement := "wo" },
    { main := "ᅰ", replacement := "we" },
    { main := "ᅱ", replacement := "wi" },
    { main := "ᅲ", replacement := "yu" },
    { main := "ᅳ", replacement := "eu" },
    { main := "ᅴ", replacement := "ui" },
    { main := "ᅵ", replacement := "i" },
    { main := "ᆨ", replacement := "k"
      exceptions := [
        { after := some "ᄋ", replacement := "g" }] },
    { main := "ᆩ", replacement := "k"
      exceptions := [
        { after := some "ᄋ", replacement := "kk" }] },
    { main := "ᆪ", replacement := "k" },
    { main := "ᆫ", replacement := "n" },
    { main := "ᆬ", replacement := "n" },
    { main := "ᆭ", replacement := "n" },
    { main := "ᆮ", replacement := "t"
      exceptions := [
        { after := some "ᄋ", replacement := "d" }] },
    { main := "ᆯ", replacement := "l"
      exceptions := [
        { after := some "ᄋ", replacement := "r" }] },
    { main := "ᆰ", replacement := "k" },
    { main := "ᆱ", replacement := "m" },
    { main := "ᆲ", replacement := "l" },
    { main := "ᆳ", replacement := "l" },
    { main := "ᆴ", replacement := "l" },
    { main := "ᆵ", replacement := "p" },
    { main := "ᆶ", replacement := "l" },
    { main := "ᆷ", replacement := "m" },
    { main := "ᆸ", replacement := "p"
      exceptions := [
        { after := some "ᄋ", replacement := "b" }] },
    { main := "ᆹ", replacement := "p" },
    { main := "ᆺ", replacement := "t"
      exceptions := [
        { after := some "ᄋ", replacement := "s" }] },
    { main := "ᆻ", replacement := "t"
      exceptions := [
        { after := some "ᄋ", replacement := "ss" }] },
    { main := "ᆼ", replacement := "ng" },
    { main := "ᆽ", replacement := "t"
      exceptions := [
        { after := some "ᄋ", replacement := "j" }] },
    { main := "ᆾ", replacement := "t"
      exceptions := [
        { after := some "ᄋ", replacement := "ch" }] },
    { main := "ᆿ", replacement := "k"
      exceptions := [
        { after := some "ᄋ", replacement := "k" }] },
    { main := "ᇀ", replacement := "t"
      exceptions := [
        { after := some "ᄋ", replacement := "t" }] },
    { main := "ᇁ", replacement := "p"
      exceptions := [
        { after := some "ᄋ", replacement := "p" }] },
    { main := "ᇂ", replacement := "t" }]

/-- The McCune-Reischauer romanization, which voices lax consonants between voiced sounds. -/
def mcCuneReischauer : ProfileRecord where
  name := "McCune-Reischauer"
  transliterations := [
    { main := "ᆧ", replacement := "" },
    { main := "ᄅ", replacement := "l", before := some "ᆯ" },
    { main := "ᄉ", replacement := "sh", after := some "ᅵ" },
    { main := "ᄀ", replacement := "k"
      exceptions := [
        { before := some "[ᅡ-ᅵ]ᆧ|[ᆫᆯᆷᆼ]", replacement := "g" }] },
    { main := "ᄁ", replacement := "kk" },
    { main := "ᄂ", replacement := "n" },
    { main := "ᄃ", replacement := "t"
      exceptions := [
        { before := some "[ᅡ-ᅵ]ᆧ|[ᆫᆯᆷᆼ]", replacement := "d" }] },
    { main := "ᄄ", replacement := "tt" },
    { main := "ᄅ", replacement := "r" },
    { main := "ᄆ", replacement := "m" },
    { main := "ᄇ", replacement := "p"
      exceptions := [
        { before := some "[ᅡ-ᅵ]ᆧ|[ᆫᆯᆷᆼ]", replacement := "b" }] },
    { main := "ᄈ", replacement := "pp" },
    { main := "ᄉ", replacement := "s" },
    { main := "ᄊ", replacement := "ss" },
    { main := "ᄋ", replacement := "" },
    { main := "ᄌ", replacement := "ch"
      exceptions := [
        { before := some "[ᅡ-ᅵ]ᆧ|[ᆫᆯᆷᆼ]", replacement := "j" }] },
    { main := "ᄍ", replacement := "tch" },
    { main := "ᄎ", replacement := "ch'" },
    { main := "ᄏ", replacement := "k'" },
    { main := "ᄐ", replacement := "t'" },
    { main := "ᄑ", replacement := "p'" },
    { main := "ᄒ", replacement := "h" },
    { main := "ᅡ", replacement := "a" },
    { main := "ᅢ", replacement := "ae" },
    { main := "ᅣ", replacement := "ya" },
    { main := "ᅤ", replacement := "yae" },
    { main := "ᅥ", replacement := "ŏ" },
    { main := "ᅦ", replacement := "e" },
    { main := "ᅧ", replacement := "yŏ" },
    { main := "ᅨ", replacement := "ye" },
    { main := "ᅩ", replacement := "o" },
    { main := "ᅪ", replacement := "wa" },
    { main := "ᅫ", replacement := "wae" },
    { main := "ᅬ", replacement := "oe" },
    { main := "ᅭ", replacement := "yo" },
    { main := "ᅮ", replacement := "u" },
    { main := "ᅯ", replacement := "wŏ" },
    { main := "ᅰ", replacement := "we" },
    { main := "ᅱ", replacement := "wi" },
    { main := "ᅲ", replacement := "yu" },
    { main := "ᅳ", replacement := "ŭ" },
    { main := "ᅴ", replacement := "ŭi" },
    { main := "ᅵ", replacement := "i" },
    { main := "ᆨ", replacement := "k"
      exceptions := [
        { after := some "ᄋ", replacement := "g" }] },
    { main := "ᆩ", replacement := "k"
      exceptions := [
        { after := some "ᄋ", replacement := "kk" }] },
    { main := "ᆪ", replacement := "k" },
    { main := "ᆫ", replacement := "n" },
    { main := "ᆬ", replacement := "n" },
    { main := "ᆭ", replacement := "n" },
    { main := "ᆮ", replacement := "t"
      exceptions := [
        { after := some "ᄋ", replacement := "d" }] },
    { main := "ᆯ", replacement := "l"
      exceptions := [
        { after := some "ᄋ", replacement := "r" }] },
    { main := "ᆰ", replacement := "k" },
    { main := "ᆱ", replacement := "m" },
    { main := "ᆲ", replacement := "l" },
    { main := "ᆳ", replacement := "l" },
    { main := "ᆴ", replacement := "l" },
    { main := "ᆵ", replacement := "p" },
    { main := "ᆶ", replacement := "l" },
    { main := "ᆷ", replacement := "m" },
    { main := "ᆸ", replacement := "p"
      exceptions := [
        { after := some "ᄋ", replacement := "b" }] },
    { main := "ᆹ", replacement := "p" },
    { main := "ᆺ", replacement := "t"
      exceptions := [
        { after := some "ᄋ", replacement := "s" }] },
    { main := "ᆻ", replacement := "t"
      exceptions := [
        { after := some "ᄋ", replacement := "ss" }] },
    { main := "ᆼ", replacement := "ng" },
    { main := "ᆽ", replacement := "t"
      exceptions := [
        { after := some "ᄋ", replacement := "j" }] },
    { main := "ᆾ", replacement := "t"
      exceptions := [
        { after := some "ᄋ", replacement := "ch" }] },
    { main := "ᆿ", replacement := "k"
      exceptions := [
        { after := some "ᄋ", replacement := "k" }] },
    { main := "ᇀ", replacement := "t"
      exceptions := [
        { after := some "ᄋ", replacement := "t" }] },
    { main := "ᇁ", replacement := "p"
      exceptions := [
        { after := some "ᄋ", replacement := "p" }] },
    { main := "ᇂ", replacement := "t" }]

/-- How romanized Korean sounds. -/
def transcriptions : List RuleRecord := [
  { main := "ng", replacement := "ŋ", after := some "[^aeiouwy]" },
  { main := "kk", replacement := "k͈" },
  { main := "tt", replacement := "t͈" },
  { main := "pp", replacement := "p͈" },
  { main := "ss", replacement := "s͈" },
  { main := "jj", replacement := "t͡ɕ͈" },
  { main := "ch", replacement := "t͡ɕʰ" },
  { main := "wo", replacement := "wʌ" },
  { main := "eo", replacement := "ʌ" },
  { main := "eu", replacement := "ɯ" },
  { main := "ae", replacement := "ɛ" },
  { main := "oe", replacement := "ø" },
  { main := "ui", replacement := "ɰi" },
  { main := "g", replacement := "k"
    exceptions := [
      { before := some "[aeiounlm]", after := some "[aeiouwy]", replacement := "ɡ" }] },
  { main := "d", replacement := "t"
    exceptions := [
      { before := some "[aeiounlm]", after := some "[aeiouwy]", replacement := "d" }] },
  { main := "b", replacement := "p"
    exceptions := [
      { before := some "[aeiounlm]", after := some "[aeiouwy]", replacement := "b" }] },
  { main := "j", replacement := "t͡ɕ"
    exceptions := [
      { before := some "[aeiounlm]", after := some "[aeiouwy]", replacement := "d͡ʑ" }] },
  { main := "k", replacement := "kʰ"
    exceptions := [
      { after := some "[^aeiouwy]", replacement := "k̚" }] },
  { main := "t", replacement := "tʰ"
    exceptions := [
      { after := some "[^aeiouwy]", replacement := "t̚" }] },
  { main := "p", replacement := "pʰ"
    exceptions := [
      { after := some "[^aeiouwy]", replacement := "p̚" }] },
  { main := "s", replacement := "s"
    exceptions := [
      { after := some "i|wi", replacement := "ɕ" }] },
  { main := "r", replacement := "ɾ" },
  { main := "y", replacement := "j" }]

/-- All rules of Korean. -/
def rules : LanguageRules where
  transcriptions := transcriptions
  profiles := [revisedRomanization, mcCuneReischauer]
  formulas := formulas

end Transliteration.Shipped.Korean
