import Transliteration.Unicode.Category
import Transliteration.Unicode.BinaryProperty

/-!
# Classes of characters that the library asks about by itself

Digits, white space and word characters are what a pattern writes as `\d`, `\s` and `\w`.  The
classes after them decide which names a group of a pattern may have and which characters are shown
as they are.

The tables of properties hold version 16.0 of the standard, by which patterns match.  Names of
groups and characters that are shown go by version 17.0, which added characters and changed nothing
in this respect about those assigned before.
-/

namespace Transliteration.Unicode

/-! ## Characters of the latest version -/

/-- The alphabetic characters that the latest version added. -/
def latestAlphabetic : CharSet := .ofRows [
  "88F C5C CDC A7CE-A7CF A7D2 A7D4 A7F1 10940-10959 10EC5-10EC7 10EFA-10EFB 11B60-11B67",
  "11DB0-11DDB 16EA0-16EB8 16EBB-16ED3 16FF2-16FF6 187F8-187FF 18D09-18D1E 18D80-18DF2",
  "1E6C0-1E6DE 1E6E0-1E6F5 1E6FE-1E6FF 2B73A-2B73F 2CEA2-2CEAD 323B0-33479"]

/-- The numbers that the latest version added. -/
def latestNumeric : CharSet := .ofRows [
  "11DE0-11DE9 16FF4-16FF6"]

/-- The characters that the latest version added and that show something of themselves. -/
def latestVisible : CharSet := .ofRows [
  "88F C5C CDC 20C1 2B96 A7CE-A7CF A7D2 A7D4 A7F1 FBC3-FBD2 FD90-FD91 FDC8-FDCE 10940-10959",
  "10EC5-10EC7 10ED0-10ED8 11B61 11B65 11B67 11DB0-11DDB 11DE0-11DE9 16EA0-16EB8 16EBB-16ED3",
  "16FF2-16FF6 187F8-187FF 18D09-18D1E 18D80-18DF2 1CCFA-1CCFC 1CEBA-1CED0 1CEE0-1CEF0",
  "1E6C0-1E6DE 1E6E0-1E6E2 1E6E4-1E6E5 1E6E7-1E6ED 1E6F0-1E6F4 1E6FE-1E6FF 1F6D8 1F777-1F77A",
  "1F8D0-1F8D8 1FA54-1FA57 1FA8A 1FA8E 1FAC8 1FACD 1FAEA 1FAEF 1FBFA 2B73A-2B73F 2CEA2-2CEAD",
  "323B0-33479"]

/-! ## Classes -/

/-- Decimal digits of any script. -/
def digits : CharSet := category "Nd"

/-- White space. -/
def whiteSpace : CharSet := binary "White_Space"

/-- What words are made of: letters, marks, decimal digits, connecting punctuation and the two
joiners. -/
def wordCharacters : CharSet :=
  ((binary "Alphabetic").union (categories ["Mn", "Mc", "Me", "Nd", "Pc"])).union
    (binary "Join_Control")

/-- Letters and what counts among them. -/
def alphabetic : CharSet := (binary "Alphabetic").union latestAlphabetic

/-- Numbers of any kind, among them fractions and letters that stand for numbers. -/
def numeric : CharSet := (categories ["Nd", "Nl", "No"]).union latestNumeric

/-- Characters that show nothing of themselves: controls, format characters, code points without a
character, private use, every separator, and fillers, which are meant to be passed over. -/
def invisible : CharSet :=
  (categories ["Cc", "Cf", "Co", "Cn", "Zl", "Zp", "Zs"]).union
    (binary "Default_Ignorable_Code_Point")

/-- Characters that join the one before them, such as combining accents.  The sound marks of
halfwidth Katakana, which are letters, do not count. -/
def joiners : CharSet := (binary "Grapheme_Extend").diff (category "Lm")

/-- Characters that cannot be told from a shown text: invisible ones and joiners.  The blank is
not among them. -/
def hidden : CharSet :=
  ((invisible.union joiners).diff (.singleton ' ')).diff latestVisible

end Transliteration.Unicode
