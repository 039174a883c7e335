import Transliteration.Json.Reader
import Transliteration.Json.Writer

/-!
# The grammar of JSON

What a document may look like, whatever it is read by.  A spelling is a sequence of symbols that
stands for a value.  A value has many of them: blanks may stand between any two parts, characters
may be escaped or not, and an exponent may have either letter and a plus sign or none.

The spelling of a string is one of pieces.  Each of them is spelled for itself, but it takes all of
them to tell whether they make a text, since a character may take two.
-/

namespace Transliteration

open Utf8 (Symbol)

/-- The digits of a number are as a reader accepts them. -/
structure NumberLiteral.WellFormed (literal : NumberLiteral) : Prop where
  whole_ne_nil : literal.whole ≠ []
  whole_digits : ∀ digit ∈ literal.whole, digit < 10
  /-- A zero at the beginning stands alone. -/
  leading_zero : ∀ second others, literal.whole ≠ 0 :: second :: others
  fraction_digits : ∀ digit ∈ literal.fraction, digit < 10
  exponent_ne_nil : ∀ exponent ∈ literal.exponent, exponent.digits ≠ []
  exponent_digits : ∀ exponent ∈ literal.exponent, ∀ digit ∈ exponent.digits, digit < 10

namespace Json

/-! ## Numbers -/

/-- The sign of an exponent, told whether it is negative. -/
inductive SpellsSign : List Char → Bool → Prop
  | absent : SpellsSign [] false
  | plus : SpellsSign ['+'] false
  | minus : SpellsSign ['-'] true

/-- What stands after all digits of a number that belong to no exponent. -/
inductive SpellsExponent : List Char → Option NumberExponent → Prop
  | absent : SpellsExponent [] none
  | present {letter : Char} {sign : List Char} {exponent : NumberExponent}
      (hletter : letter = 'e' ∨ letter = 'E') (hsign : SpellsSign sign exponent.negative) :
      SpellsExponent (letter :: (sign ++ writeDigits exponent.digits)) (some exponent)

/-- What stands after the digits before the point. -/
def writeFraction (fraction : List Nat) : List Char :=
  if fraction.isEmpty then [] else '.' :: writeDigits fraction

/-- A number: a sign, digits, and what stands after the point and after the letter of the exponent.
-/
inductive SpellsNumber : List Char → NumberLiteral → Prop
  | mk {literal : NumberLiteral} {exponent : List Char} (hliteral : literal.WellFormed)
      (hexponent : SpellsExponent exponent literal.exponent) :
      SpellsNumber ((if literal.negative then ['-'] else []) ++ (writeDigits literal.whole ++
        (writeFraction literal.fraction ++ exponent))) literal

/-! ## Strings -/

/-- A part of a string, as it stands for itself or is escaped. -/
inductive SpellsPiece : List Symbol → Piece → Prop
  /-- A symbol that stands for itself. -/
  | plain {symbol : Symbol} (hquote : symbol ≠ some '"') (hbackslash : symbol ≠ some '\\')
      (hcontrol : ∀ c ∈ symbol, ¬ c < ' ') : SpellsPiece [symbol] (.symbol symbol)
  /-- A character that is escaped by a letter. -/
  | letter {letter c : Char} (hletter : escaped? letter = some c) :
      SpellsPiece [some '\\', some letter] (.symbol (some c))
  /-- A code unit that is escaped by its number. -/
  | number {a b c d : Symbol} {unit : Nat} (hunit : unit? a b c d = some unit) :
      SpellsPiece [some '\\', some 'u', a, b, c, d] (.unit unit)

/-- Parts of a string one after another. -/
inductive SpellsPieces : List Symbol → List Piece → Prop
  | nil : SpellsPieces [] []
  | cons {first others : List Symbol} {piece : Piece} {pieces : List Piece}
      (hpiece : SpellsPiece first piece) (hpieces : SpellsPieces others pieces) :
      SpellsPieces (first ++ others) (piece :: pieces)

/-- A string with its quotation marks, and its text if it is one. -/
inductive SpellsString : List Symbol → Option String → Prop
  | mk {inside : List Symbol} {pieces : List Piece} (hpieces : SpellsPieces inside pieces) :
      SpellsString (some '"' :: (inside ++ [some '"'])) ((textOf? pieces).map String.ofList)

/-! ## Values -/

/-- Symbols that are all blank. -/
def Blanks (text : List Symbol) : Prop := ∀ symbol ∈ text, isBlank symbol = true

/-- An item of an array or a member of an object: the spelling of a value, what stands before it and
what stands after it. -/
structure Part where
  before : List Symbol
  spelling : List Symbol
  after : List Symbol
  value : Json

/-- The spelling of the value together with what stands around it. -/
def Part.text (part : Part) : List Symbol := part.before ++ (part.spelling ++ part.after)

/-- Parts with commas between them. -/
def joined (first : Part) (others : List Part) : List Symbol :=
  first.text ++ others.flatMap fun part => some ',' :: part.text

/-- The name of a member, with the colon after it and blanks around both. -/
inductive SpellsName : List Symbol → Option String → Prop
  | mk {before spelling between after : List Symbol} {name : Option String}
      (hbefore : Blanks before) (hname : SpellsString spelling name) (hbetween : Blanks between)
      (hafter : Blanks after) :
      SpellsName (before ++ (spelling ++ (between ++ some ':' :: after))) name

/-- A value without blanks around it. -/
inductive Spells : List Symbol → Json → Prop
  | null : Spells [some 'n', some 'u', some 'l', some 'l'] .null
  | isTrue : Spells [some 't', some 'r', some 'u', some 'e'] (.bool true)
  | isFalse : Spells [some 'f', some 'a', some 'l', some 's', some 'e'] (.bool false)
  | number {spelling : List Char} {literal : NumberLiteral}
      (hnumber : SpellsNumber spelling literal) :
      Spells (spelling.map some) (.number literal)
  | string {spelling : List Symbol} {text : Option String} (hstring : SpellsString spelling text) :
      Spells spelling (.string text)
  | emptyArray {blanks : List Symbol} (hblanks : Blanks blanks) :
      Spells (some '[' :: (blanks ++ [some ']'])) (.array [])
  | array {first : Part} {others : List Part}
      (hbefore : ∀ part ∈ first :: others, Blanks part.before)
      (hafter : ∀ part ∈ first :: others, Blanks part.after)
      (hvalues : ∀ part ∈ first :: others, Spells part.spelling part.value) :
      Spells (some '[' :: (joined first others ++ [some ']']))
        (.array ((first :: others).map Part.value))
  | emptyObject {blanks : List Symbol} (hblanks : Blanks blanks) :
      Spells (some '\x7b' :: (blanks ++ [some '\x7d'])) (.object [])
  | object {first : Option String × Part} {others : List (Option String × Part)}
      (hbefore : ∀ member ∈ first :: others, SpellsName member.2.before member.1)
      (hafter : ∀ member ∈ first :: others, Blanks member.2.after)
      (hvalues : ∀ member ∈ first :: others, Spells member.2.spelling member.2.value) :
      Spells (some '\x7b' :: (joined first.2 (others.map Prod.snd) ++ [some '\x7d']))
        (.object ((first :: others).map fun (name, part) => (name, part.value)))

/-- A document, which is one value with blanks around it. -/
inductive SpellsDocument : List Symbol → Json → Prop
  | mk {before spelling after : List Symbol} {value : Json} (hbefore : Blanks before)
      (hvalue : Spells spelling value) (hafter : Blanks after) :
      SpellsDocument (before ++ (spelling ++ after)) value

/-! ## Parts

Arrays and objects are put together from their last part to the first, since what stands after a
comma is spelled like what stands after the opening bracket. -/

theorem joined_nil (first : Part) : joined first [] = first.text := by
  simp [joined]

theorem joined_cons (first next : Part) (others : List Part) :
    joined first (next :: others) = first.text ++ some ',' :: joined next others := by
  simp [joined]

theorem Blanks.nil : Blanks [] := by
  simp [Blanks]

theorem Blanks.append {blanks others : List Symbol} (hblanks : Blanks blanks)
    (hothers : Blanks others) : Blanks (blanks ++ others) := by
  intro symbol hsymbol
  rcases List.mem_append.mp hsymbol with hsymbol | hsymbol
  · exact hblanks symbol hsymbol
  · exact hothers symbol hsymbol

theorem SpellsName.append_blanks {before blanks : List Symbol} {name : Option String}
    (hname : SpellsName before name) (hblanks : Blanks blanks) :
    SpellsName (before ++ blanks) name := by
  obtain ⟨hbefore, hstring, hbetween, hafter⟩ := hname
  simpa using SpellsName.mk hbefore hstring hbetween (hafter.append hblanks)

/-- Parts that spell the items of an array. -/
structure SpellsItems (first : Part) (others : List Part) (items : List Json) : Prop where
  before_blanks : ∀ part ∈ first :: others, Blanks part.before
  after_blanks : ∀ part ∈ first :: others, Blanks part.after
  spells : ∀ part ∈ first :: others, Spells part.spelling part.value
  items_eq : items = (first :: others).map Part.value

/-- Parts that spell the members of an object, with their names. -/
structure SpellsMembers (first : Option String × Part) (others : List (Option String × Part))
    (members : List (Option String × Json)) : Prop where
  names : ∀ member ∈ first :: others, SpellsName member.2.before member.1
  after_blanks : ∀ member ∈ first :: others, Blanks member.2.after
  spells : ∀ member ∈ first :: others, Spells member.2.spelling member.2.value
  members_eq : members = (first :: others).map fun (name, part) => (name, part.value)

section

variable {before spelling after : List Symbol} {value : Json}

theorem SpellsItems.singleton (hbefore : Blanks before) (hafter : Blanks after)
    (hspells : Spells spelling value) :
    SpellsItems ⟨before, spelling, after, value⟩ [] [value] where
  before_blanks := List.forall_mem_singleton.mpr hbefore
  after_blanks := List.forall_mem_singleton.mpr hafter
  spells := List.forall_mem_singleton.mpr hspells
  items_eq := rfl

theorem SpellsItems.cons (hbefore : Blanks before) (hafter : Blanks after)
    (hspells : Spells spelling value) {first : Part} {others : List Part} {items : List Json}
    (hothers : SpellsItems first others items) :
    SpellsItems ⟨before, spelling, after, value⟩ (first :: others) (value :: items) where
  before_blanks := List.forall_mem_cons.mpr ⟨hbefore, hothers.before_blanks⟩
  after_blanks := List.forall_mem_cons.mpr ⟨hafter, hothers.after_blanks⟩
  spells := List.forall_mem_cons.mpr ⟨hspells, hothers.spells⟩
  items_eq := congrArg (value :: ·) hothers.items_eq

theorem SpellsMembers.singleton {name : Option String} (hbefore : SpellsName before name)
    (hafter : Blanks after) (hspells : Spells spelling value) :
    SpellsMembers (name, ⟨before, spelling, after, value⟩) [] [(name, value)] where
  names := List.forall_mem_singleton.mpr hbefore
  after_blanks := List.forall_mem_singleton.mpr hafter
  spells := List.forall_mem_singleton.mpr hspells
  members_eq := rfl

theorem SpellsMembers.cons {name : Option String} (hbefore : SpellsName before name)
    (hafter : Blanks after) (hspells : Spells spelling value) {first : Option String × Part}
    {others : List (Option String × Part)} {members : List (Option String × Json)}
    (hothers : SpellsMembers first others members) :
    SpellsMembers (name, ⟨before, spelling, after, value⟩) (first :: others)
      ((name, value) :: members) where
  names := List.forall_mem_cons.mpr ⟨hbefore, hothers.names⟩
  after_blanks := List.forall_mem_cons.mpr ⟨hafter, hothers.after_blanks⟩
  spells := List.forall_mem_cons.mpr ⟨hspells, hothers.spells⟩
  members_eq := congrArg ((name, value) :: ·) hothers.members_eq

end

/-- Parts that spell items are an array between brackets. -/
theorem SpellsItems.spells_array {first : Part} {others : List Part} {items : List Json}
    (hparts : SpellsItems first others items) :
    Spells (some '[' :: (joined first others ++ [some ']'])) (.array items) := by
  rw [hparts.items_eq]
  exact .array hparts.before_blanks hparts.after_blanks hparts.spells

/-- Parts that spell members are an object between braces. -/
theorem SpellsMembers.spells_object {first : Option String × Part}
    {others : List (Option String × Part)} {members : List (Option String × Json)}
    (hparts : SpellsMembers first others members) :
    Spells (some '\x7b' :: (joined first.2 (others.map Prod.snd) ++ [some '\x7d']))
      (.object members) := by
  rw [hparts.members_eq]
  exact .object hparts.names hparts.after_blanks hparts.spells

end Json

end Transliteration
