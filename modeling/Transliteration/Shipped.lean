import Transliteration.Document.Writer
import Transliteration.Shipped.Korean

/-!
# The languages that come with the library

Russian letters are romanized as they are; nothing is decomposed.  Korean has a module of its own.
-/

namespace Transliteration.Shipped

/-! ## Russian -/

namespace Russian

/-- The scientific romanization, with one letter for each sound where Latin letters allow it. -/
def scientific : ProfileRecord where
  name := "Scientific"
  transliterations := [
    { main := "а", replacement := "a" },
    { main := "б", replacement := "b" },
    { main := "в", replacement := "v" },
    { main := "г", replacement := "g" },
    { main := "д", replacement := "d" },
    { main := "е", replacement := "e" },
    { main := "ж", replacement := "ž" },
    { main := "з", replacement := "z" },
    { main := "и", replacement := "i" },
    { main := "й", replacement := "j" },
    { main := "к", replacement := "k" },
    { main := "л", replacement := "l" },
    { main := "м", replacement := "m" },
    { main := "н", replacement := "n" },
    { main := "о", replacement := "o" },
    { main := "п", replacement := "p" },
    { main := "р", replacement := "r" },
    { main := "с", replacement := "s" },
    { main := "т", replacement := "t" },
    { main := "у", replacement := "u" },
    { main := "ф", replacement := "f" },
    { main := "х", replacement := "x" },
    { main := "ц", replacement := "c" },
    { main := "ч", replacement := "č" },
    { main := "ш", replacement := "š" },
    { main := "щ", replacement := "šč" },
    { main := "ъ", replacement := "ʺ" },
    { main := "ы", replacement := "y" },
    { main := "ь", replacement := "ʹ" },
    { main := "э", replacement := "è" },
    { main := "ю", replacement := "ju" },
    { main := "я", replacement := "ja" }]

/-- How romanized Russian sounds. -/
def transcriptions : List RuleRecord := [
  { main := "šč", replacement := "ɕː" },
  { main := "ž", replacement := "ʐ" },
  { main := "š", replacement := "ʂ" },
  { main := "č", replacement := "tɕ" },
  { main := "c", replacement := "ts" },
  { main := "ju", replacement := "ju" },
  { main := "ja", replacement := "ja" },
  { main := "y", replacement := "ɨ" },
  { main := "x", replacement := "x" },
  { main := "o", replacement := "ɐ"
    exceptions := [
      { after := some "[^aeiouyè]*$", replacement := "o" }] }]

/-- All rules of Russian. -/
def rules : LanguageRules where
  transcriptions := transcriptions
  profiles := [scientific]

end Russian

/-! ## The document -/

/-- Every language that comes with the library. -/
def languages : List Language := [
  ⟨"kor", "Korean", Korean.rules⟩,
  ⟨"rus", "Russian", Russian.rules⟩]

/-- The document that declares them. -/
def document : String := Language.document languages

end Transliteration.Shipped
