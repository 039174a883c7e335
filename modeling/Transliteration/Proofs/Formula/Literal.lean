import Transliteration.Proofs.Formula.Position

/-!
# Numbers and their quoted forms

An integer in a record of a formula may stand between quotation marks or not.  Where it does not, it
is read as a JSON number.  This makes a difference in two cases (`requoted_ofJson`):

- Minus zero is a floating point number, which is refused wherever zero is not refused anyway.
- A number beyond all floating point numbers is no number at all: the record is not read, and nor
  is the document.  The text is refused for its field.

Otherwise both forms make the same formula or are refused for the same field, whatever else is
written for the record and whether it is written as an object or as an array.
-/

namespace Transliteration

/-! ## Integers as they are written -/

namespace NumberLiteral

/-- A sign, or none, and digits. -/
structure IsInteger (literal : NumberLiteral) : Prop where
  wellFormed : literal.WellFormed
  fraction_eq_nil : literal.fraction = []
  exponent_eq_none : literal.exponent = none

/-- The number as it is written, as a text. -/
def spelling (literal : NumberLiteral) : String := String.ofList (Json.writeNumber literal)

/-- The integer with the sign and these digits. -/
def value (literal : NumberLiteral) : Int :=
  if literal.negative then -(Nat.ofDigits 10 literal.whole.reverse : Nat)
  else (Nat.ofDigits 10 literal.whole.reverse : Nat)

/-- The literal `-0`. -/
def minusZero : NumberLiteral := { negative := true, whole := [0] }

variable {literal : NumberLiteral}

theorem IsInteger.spells (hliteral : literal.IsInteger) :
    Numeral.Spells (Json.writeNumber literal) literal.value := by
  obtain ⟨negative, whole, fraction, exponent⟩ := literal
  obtain ⟨hliteral, hfraction, hexponent⟩ := hliteral
  cases hfraction
  cases hexponent
  cases negative with
  | false =>
      have hspells := Numeral.Spells.unsigned hliteral.whole_ne_nil hliteral.whole_digits
      simpa [Json.writeNumber, Json.writeDigits, value] using hspells
  | true =>
      have hspells := Numeral.Spells.minus hliteral.whole_ne_nil hliteral.whole_digits
      simpa [Json.writeNumber, Json.writeDigits, value] using hspells

/-- Only a single zero is zero. -/
theorem WellFormed.whole_eq_zero (hliteral : literal.WellFormed)
    (hzero : Nat.ofDigits 10 literal.whole.reverse = 0) : literal.whole = [0] := by
  have hdigits := Nat.digits_zero_of_eq_zero (by decide : (10 : Nat) ≠ 0) hzero
  cases hwhole : literal.whole with
  | nil => exact absurd hwhole hliteral.whole_ne_nil
  | cons digit others =>
      obtain rfl : digit = 0 := hdigits digit (by simp [hwhole])
      cases others with
      | nil => rfl
      | cons second others => exact absurd hwhole (hliteral.leading_zero second others)

/-- The number is read unless it is minus zero or has more than 64 bits. -/
theorem IsInteger.bind_ofInt?_eq_some_iff (hliteral : literal.IsInteger)
    (hzero : literal ≠ minusZero) {n : Int64} :
    literal.integer?.bind Checked.ofInt? = some n ↔ n.toInt = literal.value := by
  obtain ⟨hlo, hhi⟩ := Checked.fits_toInt n
  -- Minus zero is the one number without significant digits that has a sign.
  have hwhole : literal.negative = true → Nat.ofDigits 10 literal.whole.reverse ≠ 0 := by
    intro hnegative hdigits
    refine hzero ?_
    obtain ⟨negative, whole, fraction, exponent⟩ := literal
    cases hnegative
    cases hliteral.fraction_eq_nil
    cases hliteral.exponent_eq_none
    cases hliteral.wellFormed.whole_eq_zero hdigits
    rfl
  have hplain : literal.fraction.isEmpty ∧ literal.exponent.isNone := by
    rw [hliteral.fraction_eq_nil, hliteral.exponent_eq_none]
    exact ⟨rfl, rfl⟩
  have hlargest : largestSignificand = 2 ^ 64 - 1 := rfl
  have hleast : 1 <<< 63 = 2 ^ 63 := rfl
  rw [integer?, if_pos hplain, Numeral.ofDigits_eq, value, hlargest, hleast]
  generalize Nat.ofDigits 10 literal.whole.reverse = digits at hwhole ⊢
  cases hsign : literal.negative with
  | true =>
      have hpositive : 0 < digits := Nat.pos_of_ne_zero (hwhole hsign)
      simp only [if_true]
      split
      · rw [Option.bind_some, Checked.ofInt?_eq_some_iff]
      · rw [Option.bind_none]
        -- a number that is not read for its size is below `Int64`, or above it
        refine iff_of_false (Option.some_ne_none n).symm ?_
        omega
  | false =>
      simp only [Bool.false_eq_true, if_false]
      split
      · rw [Option.bind_some, Checked.ofInt?_eq_some_iff]
      · rw [Option.bind_none]
        refine iff_of_false (Option.some_ne_none n).symm ?_
        omega

end NumberLiteral

/-! ## What is read -/

namespace NumberField

variable {literal : NumberLiteral}

/-- The text declares the number if it has 64 bits. -/
theorem declares_spelling_iff (hliteral : literal.IsInteger) {n : Int64} :
    Declares (.text literal.spelling) n ↔ n.toInt = literal.value := by
  obtain ⟨hsome, hnone⟩ := not_whiteSpace_of_spells hliteral.spells
  have htrim : trim (Json.writeNumber literal) = Json.writeNumber literal := by
    have htrim : trim ([] ++ (Json.writeNumber literal ++ [])) = Json.writeNumber literal :=
      trim_eq (by simp) hnone hsome (by simp)
    rwa [List.nil_append, List.append_nil] at htrim
  rw [← value?_eq_some_iff, value?, NumberLiteral.spelling, String.toList_ofList, htrim,
    Numeral.int64?, Numeral.integer?_eq_some_iff.mpr hliteral.spells, Option.bind_some,
    Checked.ofInt?_eq_some_iff]

/-- What is read in the place of a number: nothing if it is too large, and else a field that
declares it if it has 64 bits and is not minus zero. -/
inductive Reads (literal : NumberLiteral) : Except Json.Fault NumberField → Prop
  | tooLarge (hlarge : literal.canonical? = none)
      (hvalue : ∀ n : Int64, n.toInt ≠ literal.value) : Reads literal (.error .outOfRange)
  | minusZero (hzero : literal = .minusZero) : Reads literal (.ok (.other "-0.0"))
  | number {field : NumberField} (hrange : literal.canonical? ≠ none) (hzero : literal ≠ .minusZero)
      (hfield : ∀ n, field.Declares n ↔ n.toInt = literal.value) : Reads literal (.ok field)

theorem canonical?_minusZero : NumberLiteral.minusZero.canonical? = some "-0.0".toList := by
  decide +kernel

theorem reads_ofJson (hliteral : literal.IsInteger) (room : Nat) :
    Reads literal (ofJson room (.number literal)) := by
  by_cases hzero : literal = .minusZero
  · subst hzero
    have hread : ofJson room (.number .minusZero) = .ok (.other "-0.0") := by
      simp only [ofJson, Json.canonical?, Json.canonicalFrom?, canonical?_minusZero]
      rfl
    rw [hread]
    exact .minusZero rfl
  have hnumber := fun n => hliteral.bind_ofInt?_eq_some_iff hzero (n := n)
  -- A number without a canonical writing is too large for any field.  One with it is an integer of
  -- 64 bits or is kept in that writing, which declares nothing.
  cases hcanonical : literal.canonical? with
  | none =>
      have hread : ofJson room (.number literal) = .error .outOfRange := by
        simp only [ofJson, Json.canonical?, Json.canonicalFrom?, hcanonical]
        rfl
      have hinteger : literal.integer? = none := by
        cases hinteger : literal.integer? with
        | none => rfl
        | some n => simp [NumberLiteral.canonical?, hinteger] at hcanonical
      rw [hread]
      refine .tooLarge hcanonical fun n hn => ?_
      have hsome := (hnumber n).mpr hn
      rw [hinteger, Option.bind_none] at hsome
      cases hsome
  | some writing =>
      have hrange : literal.canonical? ≠ none := by simp [hcanonical]
      cases hvalue : literal.integer?.bind Checked.ofInt? with
      | some n =>
          have hread : ofJson room (.number literal) = .ok (.integer n) := by
            simp only [ofJson, Json.canonical?, Json.canonicalFrom?, hcanonical, hvalue]
            rfl
          rw [hread]
          refine .number hrange hzero fun m => ?_
          rw [← hnumber, hvalue, ← value?_eq_some_iff, value?]
      | none =>
          have hread : ofJson room (.number literal) = .ok (.other (String.ofList writing)) := by
            simp only [ofJson, Json.canonical?, Json.canonicalFrom?, hcanonical, hvalue]
            rfl
          rw [hread]
          refine .number hrange hzero fun m => ?_
          rw [← hnumber, hvalue, ← value?_eq_some_iff, value?]

end NumberField

namespace FormulaRecord

/-! ## A number and its quoted form -/

/-- Minus zero stands where it is looked at, and where zero would be taken. -/
structure MeetsMinusZero (literal : NumberLiteral) (position : Position) (record : FormulaRecord) :
    Prop where
  eq_minusZero : literal = .minusZero
  takesZero : position.demand ≠ .nonZero
  earlier : ∀ check ∈ record.checks.take position.rank, check.Passes

section

variable {language : String} {literal : NumberLiteral} {position : Position}
  {record : FormulaRecord} {field : NumberField}

theorem take_checks_declare (declared : Option NumberField) :
    (position.declare record declared).checks.take position.rank =
      record.checks.take position.rank := by
  rw [checks_declare, List.take_set_of_le (Nat.le_refl _)]

theorem declared_some_iff {n : Int64} : Declared (some field) n ↔ field.Declares n := by
  simp [Declared]

theorem sameOutcome_of_reads (hliteral : literal.IsInteger)
    (hwithin : position.rank < record.checks.length)
    (hreads : NumberField.Reads literal (.ok field))
    (hmeets : ¬ MeetsMinusZero literal position
      (position.declare record (some (.text literal.spelling)))) :
    SameOutcome language ((position.declare record (some field)).toFormula language)
      ((position.declare record (some (.text literal.spelling))).toFormula language) := by
  have htext := fun n => NumberField.declares_spelling_iff hliteral (n := n)
  cases hreads with
  | number _ _ hfield =>
      refine sameOutcome_declare fun n _ => ?_
      rw [declared_some_iff, declared_some_iff, hfield, htext]
  | minusZero hzero =>
      by_cases hdemand : position.demand = .nonZero
      · -- where zero is not admitted, no number is left that the text could declare
        refine sameOutcome_declare fun n hn => ?_
        rw [declared_some_iff, declared_some_iff, htext]
        refine iff_of_false nofun fun hvalue => ?_
        rw [hdemand] at hn
        rw [hzero] at hvalue
        exact hn (Int64.toInt_inj.mp hvalue)
      · refine sameOutcome_declare_of_earlier hwithin ?_ _ _
        by_contra hearlier
        push Not at hearlier
        exact hmeets ⟨hzero, hdemand, by rwa [take_checks_declare]⟩

theorem toFormula_of_meetsMinusZero (hliteral : literal.IsInteger)
    (hwithin : position.rank < record.checks.length)
    (hreads : NumberField.Reads literal (.ok field))
    (hmeets : MeetsMinusZero literal position
      (position.declare record (some (.text literal.spelling)))) :
    (position.declare record (some field)).toFormula language =
        .error (.badNumber language position.field "-0.0") ∧
      ∀ check ∈ (position.declare record (some (.text literal.spelling))).checks.take
        (position.rank + 1), check.Passes := by
  obtain ⟨hzero, hdemand, hearlier⟩ := hmeets
  rw [take_checks_declare] at hearlier
  have hfield : field = .other "-0.0" := by
    cases hreads with
    | minusZero => rfl
    | number _ hne => exact absurd hzero hne
  subst hfield
  refine ⟨toFormula_declare_other hwithin hearlier _, ?_⟩
  have hlength : (record.checks.take position.rank).length = position.rank :=
    List.length_take_of_le hwithin.le
  -- of the checks up to this one the earlier ones pass, and zero is admitted by this one
  rw [checks_declare_eq_append hwithin, List.take_append, hlength, Nat.add_sub_cancel_left,
    List.take_of_length_le (by omega), List.take_one]
  refine List.forall_mem_append.mpr ⟨hearlier, List.forall_mem_singleton.mpr ?_⟩
  refine ⟨0, ?_, ?_⟩
  · rw [declared_some_iff, NumberField.declares_spelling_iff hliteral, hzero]
    rfl
  · show position.demand.Admits 0
    cases hcase : position.demand with
    | any => trivial
    | nonZero => exact absurd hcase hdemand
    | natural => exact Int.le_refl 0

/-- A text that spells too large a number is refused. -/
theorem toFormula_of_tooLarge (hliteral : literal.IsInteger)
    (hwithin : position.rank < record.checks.length)
    (hlarge : ∀ n : Int64, n.toInt ≠ literal.value) :
    ∃ field shown, (position.declare record (some (.text literal.spelling))).toFormula language =
      .error (.badNumber language field shown) := by
  have hfails : ¬ NumberCheck.Passes
      ⟨position.field, some (.text literal.spelling), position.demand⟩ := by
    rintro ⟨n, hn, -⟩
    rw [declared_some_iff, NumberField.declares_spelling_iff hliteral] at hn
    exact hlarge n hn
  obtain ⟨error, hresult, _, check, _, shown, -, -, -, -, rfl⟩ :=
    exists_firstFailure language (position.declare record (some (.text literal.spelling)))
      ⟨_, by rw [checks_declare_eq_append hwithin]
             exact List.mem_append_right _ List.mem_cons_self, hfails⟩
  exact ⟨check.field, shown, hresult⟩

end

/-- A record with a number in a place and one with the text that spells it there, as they are
read. -/
structure Requoted (language : String) (literal : NumberLiteral) (position : Position)
    (bare quoted : Except Json.Fault FormulaRecord) : Prop where
  /-- Both are read, or neither is, unless the number is too large. -/
  fault_iff : literal.canonical? ≠ none → ∀ fault, bare = .error fault ↔ quoted = .error fault
  sameOutcome : ∀ first second, bare = .ok first → quoted = .ok second →
    ¬ MeetsMinusZero literal position second →
    SameOutcome language (first.toFormula language) (second.toFormula language)
  /-- Minus zero is refused, and the text is zero. -/
  minusZero : ∀ first second, bare = .ok first → quoted = .ok second →
    MeetsMinusZero literal position second →
    first.toFormula language = .error (.badNumber language position.field "-0.0") ∧
      ∀ check ∈ second.checks.take (position.rank + 1), check.Passes
  /-- A record with too large a number is not read at all, and the text is refused. -/
  tooLarge : literal.canonical? = none → (∀ first, bare ≠ .ok first) ∧
    ∀ second, quoted = .ok second → bare = .error .outOfRange ∧
      ∃ field shown, second.toFormula language = .error (.badNumber language field shown)

theorem requoted_ofJson {literal : NumberLiteral} (hliteral : literal.IsInteger)
    {position : Position} {writing : Json → Json} (hwriting : position.Writing writing)
    (depth : Nat) (language : String) :
    Requoted language literal position (ofJson depth (writing (.number literal)))
      (ofJson depth (writing (.string (some literal.spelling)))) := by
  -- The place is the same in both records, so it is enough to compare what is read in it.
  have hread : ∀ room, Follows
      (fun fault => fault = .outOfRange ∧ literal.canonical? = none ∧
        ∀ n : Int64, n.toInt ≠ literal.value)
      (fun first second => NumberField.Reads literal (.ok first) ∧
        second = .text literal.spelling)
      (NumberField.ofJson room (.number literal))
      (NumberField.ofJson room (.string (some literal.spelling))) := by
    intro room
    have hreads := NumberField.reads_ofJson hliteral room
    cases hfield : NumberField.ofJson room (.number literal) with
    | error fault =>
        rw [hfield] at hreads
        cases hreads with
        | tooLarge hlarge hvalue => exact .refused ⟨rfl, hlarge, hvalue⟩ _
    | ok field => exact .ok ⟨hfield ▸ hreads, rfl⟩
  have htext : ∀ room, Follows (fun _ => False)
      (fun first second => first = .text literal.spelling ∧ second = first)
      (NumberField.ofJson room (.string (some literal.spelling)))
      (NumberField.ofJson room (.string (some literal.spelling))) := fun room => .ok ⟨rfl, rfl⟩
  have hnumberNe : Json.number literal ≠ .null := nofun
  have htextNe : Json.string (some literal.spelling) ≠ .null := nofun
  have hfollows := follows_ofJson hwriting depth hnumberNe htextNe hread
  -- Where the bare number is refused, the record with the text is still to be known.
  have hself := follows_ofJson hwriting depth htextNe htextNe htext
  generalize ofJson depth (writing (.number literal)) = bare at hfollows
  generalize ofJson depth (writing (.string (some literal.spelling))) = quoted at hfollows hself
  have hquoted : ∀ second, quoted = .ok second → ∃ record, position.rank < record.checks.length ∧
      second = position.declare record (some (.text literal.spelling)) := by
    rintro second rfl
    cases hself with
    | ok hrelated =>
      obtain ⟨record, _, _, ⟨rfl, rfl⟩, hwithin, -, hsecond⟩ := hrelated
      exact ⟨record, hwithin, hsecond⟩
  -- Both are read, both are refused for something else, or the number alone is refused.
  cases hfollows with
  | ok hrelated =>
      obtain ⟨record, field, _, ⟨hreads, rfl⟩, hwithin, rfl, rfl⟩ := hrelated
      refine ⟨fun _ fault => by simp, ?_, ?_, fun hlarge => ?_⟩
      · rintro _ _ ⟨⟩ ⟨⟩ hmeets
        exact sameOutcome_of_reads hliteral hwithin hreads hmeets
      · rintro _ _ ⟨⟩ ⟨⟩ hmeets
        exact toFormula_of_meetsMinusZero hliteral hwithin hreads hmeets
      · cases hreads with
        | minusZero hzero =>
            subst hzero
            rw [NumberField.canonical?_minusZero] at hlarge
            cases hlarge
        | number hrange => exact absurd hlarge hrange
  | error fault =>
      refine ⟨fun _ _ => Iff.rfl, ?_, ?_, fun _ => ⟨by rintro _ ⟨⟩, by rintro _ ⟨⟩⟩⟩
      · rintro _ _ ⟨⟩
      · rintro _ _ ⟨⟩
  | refused hfault =>
      obtain ⟨rfl, hlarge, hvalue⟩ := hfault
      refine ⟨fun hrange => absurd hlarge hrange, ?_, ?_, fun _ => ⟨by rintro _ ⟨⟩, ?_⟩⟩
      · rintro _ _ ⟨⟩
      · rintro _ _ ⟨⟩
      intro second hsecond
      obtain ⟨record, hwithin, rfl⟩ := hquoted second hsecond
      exact ⟨rfl, toFormula_of_tooLarge hliteral hwithin hvalue⟩

/-- A record in which the offset alone is open. -/
def writeOffset (offset : Json) : Json :=
  .object [(some "offset", offset), (some "modulus", .ofNat 588), (some "divisor", .ofNat 28),
    (some "intercept", .ofNat 4449), (some "order", .ofNat 1), (some "range_min", .ofNat 44032),
    (some "range_max", .ofNat 55203)]

theorem requoted_negative :
    NumberLiteral.IsInteger { negative := true, whole := [4, 4, 0, 3, 2] } ∧
    Position.Writing (.number .offset) writeOffset ∧
    Requoted "Korean" { negative := true, whole := [4, 4, 0, 3, 2] } (.number .offset)
      (ofJson 0 (writeOffset (.number { negative := true, whole := [4, 4, 0, 3, 2] })))
      (ofJson 0 (writeOffset (.string (some "-44032")))) := by
  have hliteral : NumberLiteral.IsInteger { negative := true, whole := [4, 4, 0, 3, 2] } :=
    ⟨⟨by decide, by decide, nofun, nofun, nofun, nofun⟩, rfl, rfl⟩
  have hwriting : Position.Writing (.number .offset) writeOffset := .number (.member [] _)
  exact ⟨hliteral, hwriting, requoted_ofJson hliteral hwriting 0 "Korean"⟩

theorem ofJson_writeOffset (text : String) :
    ofJson 0 (writeOffset (.string (some text))) = .ok {
      offset := some (.text text), modulus := some (.integer 588), divisor := some (.integer 28),
      intercept := some (.integer 4449), order := some (.integer 1),
      least := some (.integer 44032), greatest := some (.integer 55203) } := rfl

theorem toFormula_of_offset {language : String} {record : FormulaRecord} {field : NumberField}
    (hoffset : record.offset = some field) (hvalue : field.value? = none) :
    record.toFormula language = .error (.badNumber language "offset" field.shown) := by
  simp only [toFormula, number, hoffset, hvalue]
  rfl

/-- A number of 400 digits. -/
def manyNines : NumberLiteral := { whole := List.replicate 400 9 }

/-- Minus zero is refused where the text is zero, and a number of many digits keeps the record from
being read where the text is refused for its field. -/
theorem quoted_differs :
    ((ofJson 0 (writeOffset (.number .minusZero))).map (toFormula "L") =
        .ok (.error (.badNumber "L" "offset" "-0.0")) ∧
      (ofJson 0 (writeOffset (.string (some "-0")))).map (toFormula "L") =
        .ok (.ok {
          offset := 0, modulus := 588, divisor := 28, intercept := 4449, order := 1, least := 44032,
          greatest := 55203 })) ∧
    ((ofJson 0 (writeOffset (.number manyNines))).map (toFormula "L") = .error .outOfRange ∧
      (ofJson 0 (writeOffset (.string (some manyNines.spelling)))).map (toFormula "L") =
        .ok (.error (.badNumber "L" "offset" manyNines.spelling))) := by
  have hzero : NumberLiteral.IsInteger .minusZero :=
    ⟨⟨by decide, by decide, nofun, nofun, nofun, nofun⟩, rfl, rfl⟩
  have hnines : manyNines.IsInteger :=
    ⟨⟨nofun, by decide +kernel, nofun, nofun, nofun, nofun⟩, rfl, rfl⟩
  refine ⟨⟨by decide +kernel, ?_⟩, by decide +kernel, ?_⟩
  · rw [ofJson_writeOffset, Except.map, toFormula_eq_ok_iff.mpr]
    have hoffset : Declared (some (.text "-0")) 0 :=
      ⟨_, rfl, (NumberField.declares_spelling_iff hzero).mpr rfl⟩
    exact ⟨hoffset, ⟨_, rfl, .integer _⟩, by decide, ⟨_, rfl, .integer _⟩, by decide,
      ⟨_, rfl, .integer _⟩, ⟨_, rfl, .integer _⟩, ⟨_, rfl, .integer _⟩, ⟨_, rfl, .integer _⟩,
      [], .nil, by simp [Weights.empty]⟩
  -- the text is not evaluated: no number of 64 bits has its value
  · have hvalue : (NumberField.text manyNines.spelling).value? = none := by
      rw [Option.eq_none_iff_forall_ne_some]
      intro n hn
      rw [NumberField.value?_eq_some_iff, NumberField.declares_spelling_iff hnines,
        ← hnines.bind_ofInt?_eq_some_iff (by decide)] at hn
      rw [show manyNines.integer? = none by decide +kernel] at hn
      cases hn
    rw [ofJson_writeOffset, Except.map, toFormula_of_offset rfl hvalue, NumberField.shown]

end FormulaRecord

end Transliteration
