import Transliteration.Unicode.Class

/-!
# Errors

Applying rules to a text never fails.  Errors arise where rules are loaded and where a language or a
profile is chosen.

A text that was given and is to blame is shown between double quotation marks so that nothing in it
stays hidden: quotation marks and backslashes are escaped, and so is every character that shows
nothing of itself or would join the character before it.  Such a character is shown by its code
point.
-/

namespace Transliteration

/-! ## Texts in quotation marks -/

namespace Quoted

/-- A character as it is shown between quotation marks. -/
def showChar (c : Char) : List Char :=
  match c with
  | '"' => ['\\', '"']
  | '\\' => ['\\', '\\']
  | '\n' => ['\\', 'n']
  | '\r' => ['\\', 'r']
  | '\t' => ['\\', 't']
  | '\x00' => ['\\', '0']
  | c => if Unicode.hidden.contains c then ['\\', 'u', '{'] ++ toHex c.toNat ++ ['}'] else [c]

/-- A text between quotation marks. -/
def render (text : String) : String :=
  String.ofList (['"'] ++ text.toList.flatMap showChar ++ ['"'])

end Quoted

/-! ## Errors -/

/-- What can go wrong. -/
inductive Error where
  /-- A pattern is not well-formed, or too large. -/
  | badPattern (pattern reason : String)
  | unknownLanguage (name : String)
  /-- No language has been chosen. -/
  | noLanguage
  | duplicateLanguage (name : String)
  /-- There is no profile at this index, told how many there are. -/
  | profileOutOfRange (index count : Nat)
  | unknownProfile (name : String)
  /-- The argument that should be the index of a profile is no natural number. -/
  | badProfileIndex (argument : String)
  /-- A numeric field of a formula is absent or holds something else. -/
  | badNumber (language field value : String)
  /-- A file cannot be read or written. -/
  | file (reason : String)
  /-- A document cannot be read as JSON of the expected form. -/
  | badDocument (reason : String)
  deriving DecidableEq, Repr

/-- What to tell the user. -/
def Error.message : Error → String
  | .badPattern pattern reason => s!"패턴 컴파일 실패 '{pattern}': {reason}"
  | .unknownLanguage name => s!"알 수 없는 언어: {name}"
  | .noLanguage => "선택된 언어가 없습니다"
  | .duplicateLanguage name => s!"이미 등록된 언어: {name}"
  | .profileOutOfRange index count => s!"프로필 인덱스 범위 초과: {index} (프로필 수 {count})"
  | .unknownProfile name => s!"알 수 없는 프로필: {name}"
  | .badProfileIndex argument =>
    s!"프로필 인덱스는 0 이상의 정수여야 합니다: {Quoted.render argument}"
  | .badNumber language field value =>
    s!"[{language}] 분해 규칙의 숫자 필드 오류 {field}={Quoted.render value}"
  | .file reason => s!"파일 읽기 오류: {reason}"
  | .badDocument reason => s!"JSON 파싱 오류: {reason}"

/-- The error that lies behind this one. -/
def Error.cause? : Error → Option String
  | .file reason => some reason
  | _ => none

end Transliteration
