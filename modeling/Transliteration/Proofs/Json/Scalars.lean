import Transliteration.Proofs.Json.Grammar

/-!
# Reading strings and numbers

The readers of strings and numbers take off the front of a text what the grammar allows, and nothing
else.

Strings and their pieces show where they end.  The digits of a number do not: a number is read up to
where it goes on no further (`EndsNumber`).

## Strategy

There is a pair of lemmas for every reader.  One says that it reads what is spelled
(`readPieces_spelled`, `readNumber_spelled`), by induction on the spelling; the other that what it
has read is spelled by what it has taken off (`spells_of_readPieces`, `spells_of_readNumber`), along
the clauses of the reader.
-/

namespace Transliteration

open Utf8 (Symbol)

/-- A result that is a value went on from a value. -/
theorem exists_of_bind_eq_ok {ε α β : Type} {first : Except ε α} {next : α → Except ε β} {b : β}
    (hresult : first >>= next = .ok b) : ∃ a, first = .ok a ∧ next a = .ok b := by
  cases first with
  | error fault => cases hresult
  | ok a => exact ⟨a, rfl, hresult⟩

namespace Json

/-! ## Strings -/

/-- A piece is taken off the front, whatever comes after it. -/
theorem readPieces_piece {spelling : List Symbol} {piece : Piece}
    (hpiece : SpellsPiece spelling piece) (rest : List Symbol) :
    readPieces (spelling ++ rest) =
      (readPieces rest).map fun (pieces, rest) => (piece :: pieces, rest) := by
  cases hpiece with
  | plain hquote hbackslash hcontrol =>
      rename_i symbol
      have hany : symbol.any (· < ' ') = false := by
        cases symbol with
        | none => rfl
        | some c => simpa using hcontrol c rfl
      rw [List.singleton_append, readPieces]
      · simp [hany]
        rfl
      all_goals grind
  | letter hletter =>
      rename_i letter c
      -- the letter `u` begins a number, and it stands for no character
      have hunit : letter ≠ 'u' := by
        rintro rfl
        cases hletter
      rw [List.cons_append, List.singleton_append, readPieces, hletter]
      · rfl
      · exact fun _ _ _ _ _ _ hu => hunit hu
  | number hunit =>
      simp only [List.cons_append, List.nil_append]
      rw [readPieces, hunit]
      rfl

/-- Pieces are read up to the closing quotation mark. -/
theorem readPieces_spelled {spelling : List Symbol} {pieces : List Piece}
    (hpieces : SpellsPieces spelling pieces) (rest : List Symbol) :
    readPieces (spelling ++ some '"' :: rest) = .ok (pieces, rest) := by
  induction hpieces with
  | nil => rw [List.nil_append, readPieces]
  | cons hpiece hpieces ih =>
      rw [List.append_assoc, readPieces_piece hpiece, ih]
      rfl

/-- What a string was read from is spelled if its first piece is and those after it are. -/
theorem spells_of_readPieces_cons {first others rest : List Symbol} {piece : Piece}
    (hpiece : SpellsPiece first piece)
    (hothers : ∀ {pieces}, readPieces others = .ok (pieces, rest) →
      ∃ spelling, SpellsPieces spelling pieces ∧ others = spelling ++ some '"' :: rest)
    {pieces : List Piece}
    (hread : (do
      let (pieces, rest) ← readPieces others
      return (piece :: pieces, rest)) = Except.ok (pieces, rest)) :
    ∃ spelling, SpellsPieces spelling pieces ∧ first ++ others = spelling ++ some '"' :: rest := by
  obtain ⟨⟨pieces, rest⟩, hpieces, hresult⟩ := exists_of_bind_eq_ok hread
  cases hresult
  obtain ⟨spelling, hspelling, htext⟩ := hothers hpieces
  exact ⟨first ++ spelling, .cons hpiece hspelling, by rw [htext, List.append_assoc]⟩

/-- Pieces that have been read are spelled by what stands before the closing quotation mark. -/
theorem spells_of_readPieces {text rest : List Symbol} {pieces : List Piece}
    (hread : readPieces text = .ok (pieces, rest)) :
    ∃ spelling, SpellsPieces spelling pieces ∧ text = spelling ++ some '"' :: rest := by
  fun_induction readPieces text generalizing pieces with
  | case2 others =>
      cases hread
      exact ⟨[], .nil, rfl⟩
  | case3 a b c d others unit hunit ih => exact spells_of_readPieces_cons (.number hunit) ih hread
  | case5 letter others _ c hletter ih => exact spells_of_readPieces_cons (.letter hletter) ih hread
  | case9 symbol others hquote _ _ hbackslash hcontrol ih =>
      refine spells_of_readPieces_cons (.plain hquote hbackslash ?_) ih hread
      intro c hc hlt
      exact hcontrol (by simp [show symbol = some c from hc, hlt])
  | case1 | case4 | case6 | case7 | case8 => cases hread

/-- A string is read after its opening quotation mark. -/
theorem readString_spelled {inside : List Symbol} {pieces : List Piece}
    (hpieces : SpellsPieces inside pieces) (rest : List Symbol) :
    readString (inside ++ some '"' :: rest) =
      .ok ((textOf? pieces).map String.ofList, rest) := by
  rw [readString, readPieces_spelled hpieces]
  rfl

/-- A string that has been read is spelled by its opening quotation mark and what has been taken off
after it. -/
theorem spells_of_readString {text rest : List Symbol} {string : Option String}
    (hread : readString text = .ok (string, rest)) :
    ∃ spelling, SpellsString spelling string ∧ some '"' :: text = spelling ++ rest := by
  obtain ⟨⟨pieces, rest⟩, hpieces, hresult⟩ := exists_of_bind_eq_ok hread
  cases hresult
  obtain ⟨inside, hinside, rfl⟩ := spells_of_readPieces hpieces
  exact ⟨_, .mk hinside, by simp⟩

/-! ## Digits -/

theorem digit?_digitChar {digit : Nat} (hdigit : digit < 10) :
    Numeral.digit? (Nat.digitChar digit) = some digit := by
  have hall : ∀ digit < 10, Numeral.digit? (Nat.digitChar digit) = some digit := by decide
  exact hall digit hdigit

/-- A digit is written in one way only. -/
theorem eq_digitChar_of_digit? {c : Char} {digit : Nat} (hdigit : Numeral.digit? c = some digit) :
    digit < 10 ∧ c = Nat.digitChar digit := by
  unfold Numeral.digit? at hdigit
  split at hdigit
  · next hrange =>
      have hlow : '0'.toNat ≤ c.toNat := hrange.1
      have hhigh : c.toNat ≤ '9'.toNat := hrange.2
      obtain rfl : c.toNat - '0'.toNat = digit := Option.some.inj hdigit
      have hlt : c.toNat - '0'.toNat < 10 := by
        simp only [Char.reduceToNat] at hlow hhigh ⊢
        omega
      refine ⟨hlt, Char.toNat_inj.mp ?_⟩
      rw [Nat.toNat_digitChar_of_lt_ten hlt]
      simp only [Char.reduceToNat] at hlow ⊢
      omega
  · cases hdigit

/-- Digits are taken off the front up to a text that does not begin with one. -/
theorem takeDigits_spelled {digits : List Nat} {rest : List Symbol}
    (hdigits : ∀ digit ∈ digits, digit < 10) (hrest : takeDigits rest = ([], rest)) :
    takeDigits ((writeDigits digits).map some ++ rest) = (digits, rest) := by
  induction digits with
  | nil => exact hrest
  | cons digit digits ih =>
      have hfirst := digit?_digitChar (hdigits digit (List.mem_cons_self ..))
      have hothers := ih fun other hother => hdigits other (List.mem_cons_of_mem _ hother)
      simp only [writeDigits, List.map_cons, List.cons_append] at hothers ⊢
      rw [takeDigits, hfirst, hothers]

/-- What has been taken off are the digits, and a text is left that does not begin with one. -/
theorem spells_of_takeDigits (text : List Symbol) :
    (∀ digit ∈ (takeDigits text).1, digit < 10) ∧
      text = (writeDigits (takeDigits text).1).map some ++ (takeDigits text).2 := by
  fun_induction takeDigits text with
  | case1 c others digit hdigit ih =>
      obtain ⟨hlt, hc⟩ := eq_digitChar_of_digit? hdigit
      obtain ⟨hdigits, htext⟩ := ih
      refine ⟨?_, ?_⟩
      · rintro other hother
        rcases List.mem_cons.mp hother with rfl | hother
        · exact hlt
        · exact hdigits other hother
      · rw [writeDigits, List.map_cons, List.map_cons, List.cons_append, ← hc]
        exact congrArg _ htext
  | case2 c others hdigit => simp [writeDigits]
  | case3 text hother => simp [writeDigits]

theorem readDigits_spelled {digits : List Nat} {rest : List Symbol} (hsome : digits ≠ [])
    (hdigits : ∀ digit ∈ digits, digit < 10) (hrest : takeDigits rest = ([], rest)) :
    readDigits ((writeDigits digits).map some ++ rest) = .ok (digits, rest) := by
  rw [readDigits, takeDigits_spelled hdigits hrest]
  cases digits with
  | nil => exact absurd rfl hsome
  | cons digit digits => rfl

theorem spells_of_readDigits {text rest : List Symbol} {digits : List Nat}
    (hread : readDigits text = .ok (digits, rest)) :
    digits ≠ [] ∧ (∀ digit ∈ digits, digit < 10) ∧
      text = (writeDigits digits).map some ++ rest := by
  obtain ⟨hdigits, htext⟩ := spells_of_takeDigits text
  unfold readDigits at hread
  split at hread
  · cases hread
  · next hsome =>
      have hfound : takeDigits text = (digits, rest) := Except.ok.inj hread
      rw [hfound] at hdigits htext
      refine ⟨?_, hdigits, htext⟩
      rintro rfl
      exact hsome rest hfound

/-! ## Numbers -/

/-- A text that does not go on with a number before it. -/
structure EndsNumber (rest : List Symbol) : Prop where
  takeDigits_eq : takeDigits rest = ([], rest)
  readFraction_eq : readFraction rest = .ok ([], rest)
  readExponent_eq : readExponent rest = .ok (none, rest)

theorem takeDigits_cons {c : Char} (hc : Numeral.digit? c = none) (rest : List Symbol) :
    takeDigits (some c :: rest) = ([], some c :: rest) := by
  rw [takeDigits, hc]

theorem readFraction_cons {c : Char} (hc : c ≠ '.') (rest : List Symbol) :
    readFraction (some c :: rest) = .ok ([], some c :: rest) := by
  rw [readFraction]
  intro others hothers
  rw [List.cons.injEq, Option.some_inj] at hothers
  exact hc hothers.1

theorem endsNumber_nil : EndsNumber [] := ⟨rfl, rfl, rfl⟩

theorem endsNumber_cons {c : Char} (hdigit : Numeral.digit? c = none) (hpoint : c ≠ '.')
    (hexponent : ¬ (c = 'e' ∨ c = 'E')) (rest : List Symbol) : EndsNumber (some c :: rest) where
  takeDigits_eq := takeDigits_cons hdigit rest
  readFraction_eq := readFraction_cons hpoint rest
  readExponent_eq := by rw [readExponent, if_neg hexponent]

/-- A text that begins with digits begins with a character that is one. -/
theorem writeDigits_eq_cons {digits : List Nat} (hsome : digits ≠ [])
    (hdigits : ∀ digit ∈ digits, digit < 10) :
    ∃ c others, writeDigits digits = c :: others ∧ (Numeral.digit? c).isSome := by
  cases digits with
  | nil => exact absurd rfl hsome
  | cons digit digits =>
      refine ⟨_, _, rfl, ?_⟩
      rw [digit?_digitChar (hdigits digit (List.mem_cons_self ..))]
      rfl

theorem digit?_of_exponentLetter {letter : Char} (hletter : letter = 'e' ∨ letter = 'E') :
    Numeral.digit? letter = none := by
  rcases hletter with rfl | rfl <;> rfl

theorem readSign_spelled {sign : List Char} {negative : Bool} (hsign : SpellsSign sign negative)
    {digits : List Nat} (hsome : digits ≠ []) (hdigits : ∀ digit ∈ digits, digit < 10)
    (rest : List Symbol) :
    readSign ((sign ++ writeDigits digits).map some ++ rest) =
      (negative, (writeDigits digits).map some ++ rest) := by
  obtain ⟨c, others, hcons, hc⟩ := writeDigits_eq_cons hsome hdigits
  cases hsign with
  | plus => rfl
  | minus => rfl
  | absent =>
      rw [hcons, List.nil_append, List.map_cons, List.cons_append, readSign]
      · rintro _ ⟨rfl, -⟩
        cases hc
      · rintro _ ⟨rfl, -⟩
        cases hc

theorem spells_of_readSign {text rest : List Symbol} {negative : Bool}
    (hread : readSign text = (negative, rest)) :
    ∃ sign, SpellsSign sign negative ∧ text = sign.map some ++ rest := by
  unfold readSign at hread
  split at hread
  · cases hread
    exact ⟨['-'], .minus, rfl⟩
  · cases hread
    exact ⟨['+'], .plus, rfl⟩
  · cases hread
    exact ⟨[], .absent, rfl⟩

section

variable {literal : NumberLiteral} {exponent : List Char} {text rest : List Symbol}

/-- An exponent is read whichever way it is spelled. -/
theorem readExponent_spelled (hliteral : literal.WellFormed)
    (hexponent : SpellsExponent exponent literal.exponent) (hrest : EndsNumber rest) :
    readExponent (exponent.map some ++ rest) = .ok (literal.exponent, rest) := by
  cases hvalue : literal.exponent with
  | none =>
      rw [hvalue] at hexponent
      cases hexponent
      exact hrest.readExponent_eq
  | some value =>
      have hsome := hliteral.exponent_ne_nil value hvalue
      have hdigits := hliteral.exponent_digits value hvalue
      rw [hvalue] at hexponent
      cases hexponent with
      | present hletter hsign =>
          have hread := readDigits_spelled hsome hdigits hrest.takeDigits_eq
          rw [List.map_cons, List.cons_append, readExponent, if_pos hletter,
            readSign_spelled hsign hsome hdigits rest]
          simp only [hread]
          rfl

/-- What has been read as an exponent. -/
theorem spells_of_readExponent {value : Option NumberExponent}
    (hread : readExponent text = .ok (value, rest)) :
    (∃ exponent, SpellsExponent exponent value ∧ text = exponent.map some ++ rest) ∧
      ∀ found ∈ value, found.digits ≠ [] ∧ ∀ digit ∈ found.digits, digit < 10 := by
  unfold readExponent at hread
  split at hread
  · next letter others =>
      split at hread
      · next hletter =>
          rcases hsigned : readSign others with ⟨negative, signed⟩
          rw [hsigned] at hread
          obtain ⟨sign, hsign, hothers⟩ := spells_of_readSign hsigned
          obtain ⟨⟨digits, rest⟩, hdigits, hresult⟩ := exists_of_bind_eq_ok hread
          cases hresult
          obtain ⟨hsome, hlt, htext⟩ := spells_of_readDigits hdigits
          refine ⟨⟨_, .present hletter hsign, ?_⟩, ?_⟩
          · rw [hothers, htext]
            simp
          · intro found hfound
            cases hfound
            exact ⟨hsome, hlt⟩
      · cases hread
        exact ⟨⟨[], .absent, rfl⟩, by simp⟩
  · cases hread
    exact ⟨⟨[], .absent, rfl⟩, by simp⟩

/-- Digits end where an exponent begins. -/
theorem takeDigits_exponent {value : Option NumberExponent}
    (hexponent : SpellsExponent exponent value) (hrest : EndsNumber rest) :
    takeDigits (exponent.map some ++ rest) = ([], exponent.map some ++ rest) := by
  cases hexponent with
  | absent => exact hrest.takeDigits_eq
  | present hletter _ => exact takeDigits_cons (digit?_of_exponentLetter hletter) _

/-- The digits after a point are read. -/
theorem readFraction_spelled {fraction : List Nat} (hdigits : ∀ digit ∈ fraction, digit < 10)
    {value : Option NumberExponent} (hexponent : SpellsExponent exponent value)
    (hrest : EndsNumber rest) :
    readFraction ((writeFraction fraction).map some ++ (exponent.map some ++ rest)) =
      .ok (fraction, exponent.map some ++ rest) := by
  by_cases hfraction : fraction = []
  · rw [hfraction]
    cases hexponent with
    | absent => exact hrest.readFraction_eq
    | present hletter _ =>
        refine readFraction_cons ?_ _
        rintro rfl
        simp at hletter
  · rw [writeFraction, List.isEmpty_eq_false_iff.mpr hfraction]
    exact readDigits_spelled hfraction hdigits (takeDigits_exponent hexponent hrest)

theorem spells_of_readFraction {fraction : List Nat}
    (hread : readFraction text = .ok (fraction, rest)) :
    (∀ digit ∈ fraction, digit < 10) ∧ text = (writeFraction fraction).map some ++ rest := by
  unfold readFraction at hread
  split at hread
  · obtain ⟨hsome, hdigits, htext⟩ := spells_of_readDigits hread
    refine ⟨hdigits, ?_⟩
    rw [htext, writeFraction, List.isEmpty_eq_false_iff.mpr hsome]
    rfl
  · cases hread
    exact ⟨by simp, rfl⟩

/-- Digits end where a point begins. -/
theorem takeDigits_fraction (fraction : List Nat) {value : Option NumberExponent}
    (hexponent : SpellsExponent exponent value) (hrest : EndsNumber rest) :
    takeDigits ((writeFraction fraction).map some ++ (exponent.map some ++ rest)) =
      ([], (writeFraction fraction).map some ++ (exponent.map some ++ rest)) := by
  by_cases hfraction : fraction.isEmpty
  · rw [writeFraction, if_pos hfraction, List.map_nil, List.nil_append]
    exact takeDigits_exponent hexponent hrest
  · rw [writeFraction, if_neg hfraction]
    exact takeDigits_cons rfl _

/-- The digits before the point are read. -/
theorem readWhole_spelled (hliteral : literal.WellFormed) (hrest : takeDigits rest = ([], rest)) :
    readWhole ((writeDigits literal.whole).map some ++ rest) = .ok (literal.whole, rest) := by
  rw [readWhole, takeDigits_spelled hliteral.whole_digits hrest]
  split
  · rename_i heq
    exact absurd (congrArg Prod.fst heq) hliteral.whole_ne_nil
  · rename_i heq
    exact absurd (congrArg Prod.fst heq) (hliteral.leading_zero _ _)
  · rfl

theorem spells_of_readWhole {whole : List Nat} (hread : readWhole text = .ok (whole, rest)) :
    whole ≠ [] ∧ (∀ digit ∈ whole, digit < 10) ∧
      (∀ second others, whole ≠ 0 :: second :: others) ∧
      text = (writeDigits whole).map some ++ rest := by
  obtain ⟨hdigits, htext⟩ := spells_of_takeDigits text
  unfold readWhole at hread
  split at hread
  · cases hread
  · cases hread
  · next hsome hzero =>
      have hfound : takeDigits text = (whole, rest) := Except.ok.inj hread
      rw [hfound] at hdigits htext
      refine ⟨?_, hdigits, ?_, htext⟩
      · rintro rfl
        exact hsome rest hfound
      · rintro second others rfl
        exact hzero second others rest hfound

theorem readNumber_cons {c : Char} (hc : c ≠ '-') (rest : List Symbol) :
    readNumber (some c :: rest) = readUnsigned false (some c :: rest) := by
  rw [readNumber]
  intro others hothers
  rw [List.cons.injEq, Option.some_inj] at hothers
  exact hc hothers.1

/-- A number is read whichever way it is spelled, if nothing follows that belongs to a number. -/
theorem readNumber_spelled {spelling : List Char} (hspelling : SpellsNumber spelling literal)
    (hrest : EndsNumber rest) :
    readNumber (spelling.map some ++ rest) = .ok (literal, rest) := by
  obtain ⟨hliteral, hexponent⟩ := hspelling
  rename_i exponent
  have hwhole := readWhole_spelled hliteral (takeDigits_fraction literal.fraction hexponent hrest)
  have hfraction := readFraction_spelled hliteral.fraction_digits hexponent hrest
  have hvalue := readExponent_spelled hliteral hexponent hrest
  obtain ⟨c, others, hcons, hc⟩ :=
    writeDigits_eq_cons hliteral.whole_ne_nil hliteral.whole_digits
  obtain ⟨negative, whole, fraction, value⟩ := literal
  -- Behind the sign the three parts are read in turn, each up to where the next can begin.
  have hunsigned : ∀ negative, readUnsigned negative ((writeDigits whole).map some ++
      ((writeFraction fraction).map some ++ (exponent.map some ++ rest))) =
      .ok (⟨negative, whole, fraction, value⟩, rest) := by
    intro negative
    simp only [readUnsigned, hwhole, hfraction, hvalue, bind, Except.bind, pure, Except.pure]
  simp only [List.map_append, List.append_assoc]
  cases negative with
  | true => exact hunsigned true
  | false =>
      -- without a sign the first character is a digit
      have hsign : c ≠ '-' := by
        rintro rfl
        cases hc
      have hplain := hunsigned false
      rw [hcons, List.map_cons, List.cons_append] at hplain ⊢
      exact (readNumber_cons hsign _).trans hplain

theorem spells_of_readUnsigned {negative : Bool}
    (hread : readUnsigned negative text = .ok (literal, rest)) :
    ∃ spelling, SpellsNumber spelling literal ∧
      ((if negative then ['-'] else []).map some ++ text) = spelling.map some ++ rest := by
  obtain ⟨⟨whole, afterWhole⟩, hwhole, hread⟩ := exists_of_bind_eq_ok hread
  obtain ⟨⟨fraction, afterFraction⟩, hfraction, hread⟩ := exists_of_bind_eq_ok hread
  obtain ⟨⟨value, afterExponent⟩, hvalue, hresult⟩ := exists_of_bind_eq_ok hread
  cases hresult
  obtain ⟨hsome, hdigits, hzero, hwholeText⟩ := spells_of_readWhole hwhole
  obtain ⟨hfractionDigits, hfractionText⟩ := spells_of_readFraction hfraction
  obtain ⟨⟨exponent, hexponent, hexponentText⟩, hexponentDigits⟩ := spells_of_readExponent hvalue
  have hliteral : NumberLiteral.WellFormed ⟨negative, whole, fraction, value⟩ :=
    ⟨hsome, hdigits, hzero, hfractionDigits, fun found hfound => (hexponentDigits found hfound).1,
      fun found hfound => (hexponentDigits found hfound).2⟩
  refine ⟨_, .mk hliteral hexponent, ?_⟩
  rw [hwholeText, hfractionText, hexponentText]
  simp

/-- A number that has been read is spelled by what has been taken off. -/
theorem spells_of_readNumber (hread : readNumber text = .ok (literal, rest)) :
    ∃ spelling, SpellsNumber spelling literal ∧ text = spelling.map some ++ rest := by
  unfold readNumber at hread
  split at hread
  · exact spells_of_readUnsigned hread
  · exact spells_of_readUnsigned hread

end

end Json

end Transliteration
