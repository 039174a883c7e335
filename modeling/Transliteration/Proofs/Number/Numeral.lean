import Mathlib.Data.List.Induction
import Mathlib.Data.Nat.Digits.Defs
import Transliteration.Proofs.Json.RoundTrip
import Transliteration.Proofs.Number.Checked

/-!
# Written integers

An integer is written with decimal digits, of which there is at least one, after an optional sign
(`Spells`).  The reader takes every such text and no other one (`integer?_eq_some_iff`), and tells
the number if it has 64 bits (`int64?_eq_some_iff`).
-/

namespace Transliteration.Numeral

/-- Decimal digits after an optional sign, and the integer that they stand for. -/
inductive Spells : List Char → Int → Prop
  | unsigned {digits : List Nat} (hsome : digits ≠ []) (hdigits : ∀ digit ∈ digits, digit < 10) :
      Spells (digits.map Nat.digitChar) (Nat.ofDigits 10 digits.reverse : Nat)
  | plus {digits : List Nat} (hsome : digits ≠ []) (hdigits : ∀ digit ∈ digits, digit < 10) :
      Spells ('+' :: digits.map Nat.digitChar) (Nat.ofDigits 10 digits.reverse : Nat)
  | minus {digits : List Nat} (hsome : digits ≠ []) (hdigits : ∀ digit ∈ digits, digit < 10) :
      Spells ('-' :: digits.map Nat.digitChar) (-(Nat.ofDigits 10 digits.reverse : Nat))

/-- The value of digits is that of a positional numeral. -/
theorem ofDigits_eq (digits : List Nat) : ofDigits digits = Nat.ofDigits 10 digits.reverse := by
  induction digits using List.reverseRecOn with
  | nil => rfl
  | append_singleton digits digit ih =>
      rw [Json.ofDigits_append_singleton, ih, List.reverse_append, List.reverse_singleton,
        List.singleton_append, Nat.ofDigits_cons]
      omega

/-! ## Digits -/

theorem mapM_digit?_eq_some_iff {text : List Char} {digits : List Nat} :
    text.mapM digit? = some digits ↔
      (∀ digit ∈ digits, digit < 10) ∧ text = digits.map Nat.digitChar := by
  induction text generalizing digits with
  | nil =>
      simp only [List.mapM_nil, Option.pure_def, Option.some.injEq]
      constructor
      · rintro rfl
        simp
      · rintro ⟨-, hnil⟩
        exact (List.map_eq_nil_iff.mp hnil.symm).symm
  | cons c text ih =>
      rw [List.mapM_cons]
      simp only [Option.bind_eq_bind, Option.pure_def, Option.bind_eq_some_iff, Option.some.injEq]
      constructor
      · rintro ⟨digit, hdigit, others, hothers, rfl⟩
        obtain ⟨hlt, rfl⟩ := Json.eq_digitChar_of_digit? hdigit
        obtain ⟨hdigits, rfl⟩ := ih.mp hothers
        exact ⟨List.forall_mem_cons.mpr ⟨hlt, hdigits⟩, rfl⟩
      · rintro ⟨hdigits, htext⟩
        cases digits with
        | nil => cases htext
        | cons digit others =>
            obtain ⟨hlt, hothers⟩ := List.forall_mem_cons.mp hdigits
            obtain ⟨rfl, rfl⟩ := List.cons.inj htext
            exact ⟨digit, Json.digit?_digitChar hlt, others, ih.mpr ⟨hothers, rfl⟩, rfl⟩

theorem natural?_eq_some_iff {text : List Char} {n : Nat} :
    natural? text = some n ↔ ∃ digits : List Nat, digits ≠ [] ∧ (∀ digit ∈ digits, digit < 10) ∧
      text = digits.map Nat.digitChar ∧ n = Nat.ofDigits 10 digits.reverse := by
  unfold natural?
  split
  · next hempty =>
    rw [List.isEmpty_iff] at hempty
    subst hempty
    constructor
    · intro h
      cases h
    · rintro ⟨digits, hsome, -, htext, -⟩
      exact absurd (List.map_eq_nil_iff.mp htext.symm) hsome
  · next hsome =>
    rw [List.isEmpty_iff] at hsome
    simp only [Option.map_eq_some_iff, mapM_digit?_eq_some_iff, ofDigits_eq]
    constructor
    · rintro ⟨digits, ⟨hdigits, rfl⟩, rfl⟩
      exact ⟨digits, fun hnil => hsome (by rw [hnil, List.map_nil]), hdigits, rfl, rfl⟩
    · rintro ⟨digits, -, hdigits, htext, rfl⟩
      exact ⟨digits, ⟨hdigits, htext⟩, rfl⟩

/-! ## Integers -/

/-- A digit is no sign. -/
theorem digitChar_ne_sign {digit : Nat} (hdigit : digit < 10) :
    Nat.digitChar digit ≠ '-' ∧ Nat.digitChar digit ≠ '+' := by
  have hall : ∀ digit < 10, Nat.digitChar digit ≠ '-' ∧ Nat.digitChar digit ≠ '+' := by decide
  exact hall digit hdigit

theorem integer?_minus (digits : List Char) :
    integer? ('-' :: digits) = (natural? digits).map fun n : Nat => -(n : Int) := by
  rw [integer?]
  cases natural? digits <;> rfl

theorem integer?_plus (digits : List Char) :
    integer? ('+' :: digits) = (natural? digits).map fun n : Nat => (n : Int) := by
  rw [integer?]
  cases natural? digits <;> rfl

theorem integer?_of_ne_sign {text : List Char} (hminus : ∀ digits, text ≠ '-' :: digits)
    (hplus : ∀ digits, text ≠ '+' :: digits) :
    integer? text = (natural? text).map fun n : Nat => (n : Int) := by
  rw [integer?]
  · cases natural? text <;> rfl
  · exact hminus
  · exact hplus

/-- Every written integer is read, and nothing else. -/
theorem integer?_eq_some_iff {text : List Char} {n : Int} :
    integer? text = some n ↔ Spells text n := by
  constructor
  · intro hread
    by_cases hminus : ∃ digits, text = '-' :: digits
    · obtain ⟨rest, rfl⟩ := hminus
      rw [integer?_minus, Option.map_eq_some_iff] at hread
      obtain ⟨value, hvalue, rfl⟩ := hread
      obtain ⟨digits, hsome, hdigits, rfl, rfl⟩ := natural?_eq_some_iff.mp hvalue
      exact .minus hsome hdigits
    by_cases hplus : ∃ digits, text = '+' :: digits
    · obtain ⟨rest, rfl⟩ := hplus
      rw [integer?_plus, Option.map_eq_some_iff] at hread
      obtain ⟨value, hvalue, rfl⟩ := hread
      obtain ⟨digits, hsome, hdigits, rfl, rfl⟩ := natural?_eq_some_iff.mp hvalue
      exact .plus hsome hdigits
    · rw [integer?_of_ne_sign (not_exists.mp hminus) (not_exists.mp hplus),
        Option.map_eq_some_iff] at hread
      obtain ⟨value, hvalue, rfl⟩ := hread
      obtain ⟨digits, hsome, hdigits, rfl, rfl⟩ := natural?_eq_some_iff.mp hvalue
      exact .unsigned hsome hdigits
  · intro hspells
    cases hspells with
    | @unsigned digits hsome hdigits =>
        -- what begins with a digit does not begin with a sign
        have hsign : ∀ sign, sign = '-' ∨ sign = '+' →
            ∀ rest, digits.map Nat.digitChar ≠ sign :: rest := by
          intro sign hsign rest htext
          obtain ⟨digit, others, rfl, hdigit, -⟩ := List.map_eq_cons_iff.mp htext
          obtain ⟨hminus, hplus⟩ := digitChar_ne_sign (List.forall_mem_cons.mp hdigits).1
          rcases hsign with rfl | rfl
          · exact hminus hdigit
          · exact hplus hdigit
        rw [integer?_of_ne_sign (hsign '-' (.inl rfl)) (hsign '+' (.inr rfl)),
          natural?_eq_some_iff.mpr ⟨digits, hsome, hdigits, rfl, rfl⟩]
        rfl
    | plus hsome hdigits =>
        rw [integer?_plus, natural?_eq_some_iff.mpr ⟨_, hsome, hdigits, rfl, rfl⟩]
        rfl
    | minus hsome hdigits =>
        rw [integer?_minus, natural?_eq_some_iff.mpr ⟨_, hsome, hdigits, rfl, rfl⟩]
        rfl

theorem int64?_eq_some_iff {text : List Char} {value : Int64} :
    int64? text = some value ↔ Spells text value.toInt := by
  simp only [int64?, Option.bind_eq_some_iff, integer?_eq_some_iff, Checked.ofInt?_eq_some_iff]
  constructor
  · rintro ⟨n, hspells, rfl⟩
    exact hspells
  · intro hspells
    exact ⟨value.toInt, hspells, rfl⟩

end Transliteration.Numeral
