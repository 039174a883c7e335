import Transliteration.Proofs.Json.Reading

/-!
# Reading values that have been written

Whatever is written is read back as the value that it was written for, as long as its numbers have
digits as a reader accepts them (`Faithful`).  The layout makes no difference, if it adds nothing
but blanks (`Style.Spaced`).

## Strategy

What is written for a value is one of its spellings (`spells_writeFrom`), and spellings are read.
The induction is on the value.  The items of an array and the members of an object are written one
after another, so each of the two takes an induction of its own, on those that come after the first.

A character is written as one piece, which stands for it whatever pieces come after it.
-/

namespace Transliteration.Json

open Utf8 (Symbol)

/-! ## Values and styles -/

/-- A value that can be told from its writing: its numbers have digits as a reader accepts them. -/
inductive Faithful : Json → Prop where
  | null : Faithful .null
  | bool (value : Bool) : Faithful (.bool value)
  | number {literal : NumberLiteral} (hliteral : literal.WellFormed) : Faithful (.number literal)
  | string (text : Option String) : Faithful (.string text)
  | array {items : List Json} (hitems : ∀ item ∈ items, Faithful item) : Faithful (.array items)
  | object {members : List (Option String × Json)}
      (hvalues : ∀ member ∈ members, Faithful member.2) : Faithful (.object members)

/-- A style that adds nothing but blanks. -/
structure Style.Spaced (style : Style) : Prop where
  lineBreak_blanks : ∀ depth, Blanks ((style.lineBreak depth).map some)
  colon_eq : ∃ blanks : List Char, style.colon = ':' :: blanks ∧ Blanks (blanks.map some)

theorem Style.compact_spaced : Style.compact.Spaced where
  lineBreak_blanks := by simp [Style.compact, Blanks]
  colon_eq := ⟨[], rfl, .nil⟩

theorem Style.indented_spaced : Style.indented.Spaced where
  lineBreak_blanks := by
    intro depth symbol hsymbol
    obtain ⟨c, hc, rfl⟩ := List.mem_map.mp hsymbol
    rcases List.mem_cons.mp hc with rfl | hspace
    · rfl
    · rw [List.eq_of_mem_replicate hspace]
      rfl
  colon_eq := ⟨[' '], rfl, by simp [Blanks, isBlank]⟩

/-! ## Strings -/

/-- Whether a piece of a string stands for a character, whatever pieces come after it. -/
def Piece.StandsFor (piece : Piece) (c : Char) : Prop :=
  ∀ pieces, textOf? (piece :: pieces) = (textOf? pieces).map (c :: ·)

theorem Piece.symbol_standsFor (c : Char) : (Piece.symbol (some c)).StandsFor c := by
  intro pieces
  rw [textOf?]
  cases textOf? pieces <;> rfl

theorem Piece.unit_standsFor {c : Char} (hc : c.toNat < 0xD800) :
    (Piece.unit c.toNat).StandsFor c := by
  intro pieces
  have hleading : isLeading c.toNat = false := by simp [isLeading]; omega
  have htrailing : isTrailing c.toNat = false := by simp [isTrailing]; omega
  rw [textOf?.eq_def]
  simp [hleading, htrailing]

theorem hexDigit?_digitChar {n : Nat} (hn : n < 16) : hexDigit? (Nat.digitChar n) = some n := by
  have hall : ∀ n < 16, hexDigit? (Nat.digitChar n) = some n := by decide
  exact hall n hn

theorem spellsPiece_writeUnit {n : Nat} (hn : n < 256) :
    SpellsPiece ((writeUnit n).map some) (.unit n) := by
  have hzero : hexSymbol? (some '0') = some 0 := rfl
  have hhigh : hexSymbol? (some (Nat.digitChar (n / 16))) = some (n / 16) :=
    hexDigit?_digitChar (by omega)
  have hlow : hexSymbol? (some (Nat.digitChar (n % 16))) = some (n % 16) :=
    hexDigit?_digitChar (by omega)
  refine .number ?_
  simp only [unit?, hzero, hhigh, hlow, Option.bind_eq_bind, Option.bind_some, Option.pure_def]
  congr 1
  omega

/-- A character is written as one piece, which stands for the character. -/
theorem exists_spellsPiece_writeChar (c : Char) :
    ∃ piece : Piece, SpellsPiece ((writeChar c).map some) piece ∧ piece.StandsFor c := by
  unfold writeChar
  -- seven characters are escaped by a letter, the other control characters by their numbers
  split
  · exact ⟨_, .letter rfl, Piece.symbol_standsFor _⟩
  · exact ⟨_, .letter rfl, Piece.symbol_standsFor _⟩
  · exact ⟨_, .letter rfl, Piece.symbol_standsFor _⟩
  · exact ⟨_, .letter rfl, Piece.symbol_standsFor _⟩
  · exact ⟨_, .letter rfl, Piece.symbol_standsFor _⟩
  · exact ⟨_, .letter rfl, Piece.symbol_standsFor _⟩
  · exact ⟨_, .letter rfl, Piece.symbol_standsFor _⟩
  split
  · next hcontrol =>
      have hcode : c.toNat < 32 := hcontrol
      exact ⟨_, spellsPiece_writeUnit (by omega), Piece.unit_standsFor (by omega)⟩
  · next hquote hbackslash _ _ _ _ _ hcontrol =>
      refine ⟨_, .plain ?_ ?_ ?_, Piece.symbol_standsFor c⟩
      · exact fun heq => hquote (Option.some_inj.mp heq)
      · exact fun heq => hbackslash (Option.some_inj.mp heq)
      · rintro _ ⟨⟩
        exact hcontrol

/-- What is written between quotation marks are pieces that stand for the text. -/
theorem exists_spellsPieces_written (text : List Char) :
    ∃ pieces, SpellsPieces ((text.flatMap writeChar).map some) pieces ∧
      textOf? pieces = some text := by
  induction text with
  | nil => exact ⟨[], .nil, rfl⟩
  | cons c text ih =>
      obtain ⟨pieces, hpieces, htext⟩ := ih
      obtain ⟨piece, hpiece, hstands⟩ := exists_spellsPiece_writeChar c
      refine ⟨piece :: pieces, ?_, ?_⟩
      · rw [List.flatMap_cons, List.map_append]
        exact .cons hpiece hpieces
      · rw [hstands, htext]
        rfl

/-- A string is spelled as it is written, also if it is no text. -/
theorem spellsString_writeString (string : Option String) :
    SpellsString ((writeString string).map some) string := by
  cases string with
  | none =>
      have hunit : unit? (some 'd') (some '8') (some '0') (some '0') = some 0xD800 := rfl
      exact .mk (.cons (.number hunit) .nil)
  | some text =>
      obtain ⟨pieces, hpieces, htext⟩ := exists_spellsPieces_written text.toList
      have hstring := SpellsString.mk hpieces
      rw [htext, Option.map_some, String.ofList_toList] at hstring
      simpa [writeString] using hstring

/-! ## Numbers -/

/-- A number is spelled as it is written. -/
theorem spellsNumber_writeNumber {literal : NumberLiteral} (hliteral : literal.WellFormed) :
    SpellsNumber (writeNumber literal) literal := by
  have hexponent : SpellsExponent (literal.exponent.elim [] writeExponent) literal.exponent := by
    cases literal.exponent with
    | none => exact .absent
    | some exponent =>
        refine .present (.inl rfl) ?_
        cases exponent.negative with
        | true => exact .minus
        | false => exact .absent
  have hspells := SpellsNumber.mk hliteral hexponent
  simpa only [writeNumber, writeFraction, List.append_assoc] using hspells

/-- The decimal digits of a number are those of a tenth of it and one more. -/
theorem digits_eq_if (n : Nat) :
    digits n = if n < 10 then [n] else digits (n / 10) ++ [n % 10] := by
  have hdigit : ∀ digit < 10, (Nat.digitChar digit).toNat - '0'.toNat = digit := fun _ =>
    Nat.toNat_digitChar_sub_48_of_lt_ten
  rw [digits, Nat.toDigits_eq_if (by omega)]
  split
  · rename_i hsmall
    rw [List.map_singleton, hdigit n hsmall]
  · rw [List.map_append, List.map_singleton, hdigit (n % 10) (Nat.mod_lt n (by omega)), digits]

theorem ofDigits_append_singleton (digits : List Nat) (digit : Nat) :
    Numeral.ofDigits (digits ++ [digit]) = Numeral.ofDigits digits * 10 + digit := by
  rw [Numeral.ofDigits, List.foldl_append]
  rfl

/-- The decimal digits of a number have the number as their value. -/
theorem ofDigits_digits (n : Nat) : Numeral.ofDigits (digits n) = n := by
  induction n using Nat.strongRecOn with
  | ind n ih =>
      rw [digits_eq_if]
      split
      · exact Nat.zero_add n
      · rw [ofDigits_append_singleton, ih (n / 10) (by omega)]
        omega

theorem digits_lt_ten (n : Nat) : ∀ digit ∈ digits n, digit < 10 := by
  induction n using Nat.strongRecOn with
  | ind n ih =>
      rw [digits_eq_if]
      intro digit hdigit
      split at hdigit
      · rw [List.mem_singleton] at hdigit
        omega
      · rcases List.mem_append.mp hdigit with htenth | hlast
        · exact ih (n / 10) (by omega) digit htenth
        · rw [List.mem_singleton] at hlast
          omega

/-- The digits of a number that is not zero begin with another digit than zero. -/
theorem digits_eq_cons {n : Nat} (hn : n ≠ 0) :
    ∃ digit others, digits n = (digit + 1) :: others := by
  induction n using Nat.strongRecOn with
  | ind n ih =>
      rw [digits_eq_if]
      split
      · exact ⟨n - 1, [], by rw [Nat.sub_add_cancel (by omega)]⟩
      · obtain ⟨digit, others, htenth⟩ := ih (n / 10) (by omega) (by omega)
        exact ⟨digit, others ++ [n % 10], by rw [htenth, List.cons_append]⟩

/-- The digits of a natural number are as a reader accepts them. -/
theorem wellFormed_digits (negative : Bool) (n : Nat) :
    NumberLiteral.WellFormed { negative, whole := digits n } where
  whole_ne_nil := by
    show digits n ≠ []
    rw [digits_eq_if]
    split
    · exact List.cons_ne_nil _ _
    · exact List.append_ne_nil_of_right_ne_nil _ (List.cons_ne_nil _ _)
  whole_digits := digits_lt_ten n
  leading_zero := by
    intro second others hzero
    by_cases hn : n = 0
    · subst hn
      cases hzero
    · obtain ⟨first, rest, hdigits⟩ := digits_eq_cons hn
      rw [show digits n = 0 :: second :: others from hzero] at hdigits
      cases hdigits
  fraction_digits := by simp
  exponent_ne_nil := by simp
  exponent_digits := by simp

/-! ## Values within each other -/

variable {style : Style}

/-- What is written for a value is one of its spellings. -/
def WrittenSpells (style : Style) (value : Json) : Prop :=
  ∀ depth, Spells ((writeFrom style depth value).map some) value

/-- The items of an array are written as parts, and what is to stand after the last of them. -/
theorem exists_spellsItems_written (hstyle : style.Spaced) {closing : List Char}
    (hclosing : Blanks (closing.map some)) {items : List Json}
    (hitems : ∀ item ∈ items, WrittenSpells style item) {item : Json}
    (hitem : WrittenSpells style item) (depth : Nat) :
    ∃ first others, SpellsItems first others (item :: items) ∧
      joined first others = (style.lineBreak depth ++ (writeFrom style depth item ++
        (writeItems style depth items ++ closing))).map some := by
  have hbreak := hstyle.lineBreak_blanks depth
  induction items generalizing item with
  | nil =>
      refine ⟨_, _, .singleton hbreak hclosing (hitem depth), ?_⟩
      simp [joined_nil, Part.text, writeItems]
  | cons next items ih =>
      obtain ⟨first, others, hparts, hjoined⟩ :=
        ih (fun item hitem => hitems item (List.mem_cons_of_mem _ hitem))
          (hitems next (List.mem_cons_self ..))
      refine ⟨_, _, .cons hbreak .nil (hitem depth) hparts, ?_⟩
      simp [joined_cons, hjoined, Part.text, writeItems]

/-- The name of a member is written with the colon after it. -/
theorem spellsName_written (hstyle : style.Spaced) (name : Option String) (depth : Nat) :
    SpellsName ((style.lineBreak depth ++ (writeString name ++ style.colon)).map some) name := by
  obtain ⟨blanks, hcolon, hblanks⟩ := hstyle.colon_eq
  have hname := SpellsName.mk (hstyle.lineBreak_blanks depth) (spellsString_writeString name) .nil
    hblanks
  simpa [hcolon] using hname

/-- The members of an object are written as parts, and what is to stand after the last of them. -/
theorem exists_spellsMembers_written (hstyle : style.Spaced) {closing : List Char}
    (hclosing : Blanks (closing.map some)) {members : List (Option String × Json)}
    (hvalues : ∀ member ∈ members, WrittenSpells style member.2) (name : Option String)
    {value : Json} (hvalue : WrittenSpells style value) (depth : Nat) :
    ∃ first others, SpellsMembers first others ((name, value) :: members) ∧
      joined first.2 (others.map Prod.snd) = (style.lineBreak depth ++ (writeString name ++
        (style.colon ++ (writeFrom style depth value ++
          (writeMembers style depth members ++ closing))))).map some := by
  have hname := spellsName_written hstyle name depth
  induction members generalizing name value with
  | nil =>
      refine ⟨_, _, .singleton hname hclosing (hvalue depth), ?_⟩
      simp [joined_nil, Part.text, writeMembers]
  | cons next members ih =>
      obtain ⟨nextName, nextValue⟩ := next
      obtain ⟨first, others, hparts, hjoined⟩ :=
        ih (fun member hmember => hvalues member (List.mem_cons_of_mem _ hmember)) nextName
          (hvalues (nextName, nextValue) (List.mem_cons_self ..))
          (spellsName_written hstyle nextName depth)
      refine ⟨_, _, .cons hname .nil (hvalue depth) hparts, ?_⟩
      simp [joined_cons, hjoined, Part.text, writeMembers]

/-- Every value is spelled as it is written, in every style that adds nothing but blanks. -/
theorem spells_writeFrom (hstyle : style.Spaced) {value : Json} (hvalue : Faithful value) :
    WrittenSpells style value := by
  induction hvalue with
  | null => exact fun depth => .null
  | bool value =>
      cases value with
      | true => exact fun depth => .isTrue
      | false => exact fun depth => .isFalse
  | number hliteral => exact fun depth => .number (spellsNumber_writeNumber hliteral)
  | string text => exact fun depth => .string (spellsString_writeString text)
  | @array items hitems ih =>
      intro depth
      -- the closing bracket stands on a line of its own, at the depth of the array
      have hclosing := hstyle.lineBreak_blanks depth
      cases items with
      | nil => exact .emptyArray .nil
      | cons item items =>
          obtain ⟨first, others, hparts, hjoined⟩ := exists_spellsItems_written hstyle hclosing
            (fun item hitem => ih item (List.mem_cons_of_mem _ hitem))
            (ih item (List.mem_cons_self ..)) (depth + 1)
          have hspells := hparts.spells_array
          rw [hjoined] at hspells
          simpa [writeFrom] using hspells
  | @object members hvalues ih =>
      intro depth
      have hclosing := hstyle.lineBreak_blanks depth
      cases members with
      | nil => exact .emptyObject .nil
      | cons member members =>
          obtain ⟨name, value⟩ := member
          obtain ⟨first, others, hparts, hjoined⟩ := exists_spellsMembers_written hstyle hclosing
            (fun member hmember => ih member (List.mem_cons_of_mem _ hmember)) name
            (ih (name, value) (List.mem_cons_self ..)) (depth + 1)
          have hspells := hparts.spells_object
          rw [hjoined] at hspells
          simpa [writeFrom] using hspells

/-- A document is read back from its writing, in every style that adds nothing but blanks. -/
theorem read_write (hstyle : style.Spaced) {value : Json} (hvalue : Faithful value) :
    read (Utf8.ofText (value.write style)) = .ok value := by
  have hdocument := SpellsDocument.mk .nil (spells_writeFrom hstyle hvalue 0) .nil
  rw [List.append_nil, List.nil_append] at hdocument
  rw [Utf8.ofText, write, String.toList_ofList]
  exact read_eq_ok_iff.mpr hdocument

end Transliteration.Json
