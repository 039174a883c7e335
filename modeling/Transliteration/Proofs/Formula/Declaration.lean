import Mathlib.Data.List.Forall2
import Mathlib.Data.List.TakeWhile
import Transliteration.FormulaRecord
import Transliteration.Proofs.Formula.Weights
import Transliteration.Proofs.Number.Numeral

/-!
# Formulas as they are declared

A record declares a formula if each of its fields declares the number that the formula has there
(`FormulaRecord.Declares`): as an integer of 64 bits, or as a text that spells one with an optional
sign and perhaps with white space around it.  Of several weights for one index the last one counts.
That formula is made of the record, and no other one (`FormulaRecord.toFormula_validates`).

Otherwise one of the checks fails that a record is put to (`FormulaRecord.checks`), and the error is
that of the first one that does (`FirstFailure`).

## Strategy

A step that makes some part of the formula runs some of the checks (`Validates`): it succeeds only
if they pass, and fails at the first one that does not.  Steps one after another run their checks
one after another (`Validates.bind`), so making the formula is put together from its steps.
-/

namespace Transliteration

/-! ## Steps that may fail -/

theorem bind_eq_ok_iff {ε α β : Type} {first : Except ε α} {next : α → Except ε β} {b : β} :
    first >>= next = .ok b ↔ ∃ a, first = .ok a ∧ next a = .ok b := by
  refine ⟨exists_of_bind_eq_ok, ?_⟩
  rintro ⟨a, rfl, hnext⟩
  exact hnext

theorem mapM_eq_ok_iff {ε ι β : Type} {make : ι → Except ε β} {declared : List ι}
    {made : List β} :
    declared.mapM make = .ok made ↔ List.Forall₂ (fun i b => make i = .ok b) declared made := by
  induction declared generalizing made with
  | nil => simp [pure, Except.pure, eq_comm]
  | cons i declared ih =>
      simp only [List.mapM_cons, bind_eq_ok_iff, ih, pure, Except.pure, Except.ok.injEq,
        List.forall₂_cons_left_iff]
      constructor
      · rintro ⟨b, hb, others, hothers, rfl⟩
        exact ⟨b, others, hb, hothers, rfl⟩
      · rintro ⟨b, others, hb, hothers, rfl⟩
        exact ⟨b, hb, others, hothers, rfl⟩

/-! ## Fields -/

namespace NumberField

/-- The field declares the number: as an integer, or by a text that spells it, with white space
around it. -/
inductive Declares : NumberField → Int64 → Prop
  | integer (value : Int64) : Declares (.integer value) value
  | text {before spelling after : List Char} {value : Int64}
      (hbefore : ∀ c ∈ before, Unicode.whiteSpace.contains c = true)
      (hspelling : Numeral.Spells spelling value.toInt)
      (hafter : ∀ c ∈ after, Unicode.whiteSpace.contains c = true) :
      Declares (.text (String.ofList (before ++ (spelling ++ after)))) value

/-- What is left of a text stands between white space. -/
theorem exists_trim (text : List Char) :
    ∃ before after, (∀ c ∈ before, Unicode.whiteSpace.contains c = true) ∧
      (∀ c ∈ after, Unicode.whiteSpace.contains c = true) ∧
      text = before ++ (trim text ++ after) := by
  have hleft := List.takeWhile_append_dropWhile (p := Unicode.whiteSpace.contains) (l := text)
  have hright := List.takeWhile_append_dropWhile (p := Unicode.whiteSpace.contains)
    (l := (text.dropWhile Unicode.whiteSpace.contains).reverse)
  refine ⟨text.takeWhile Unicode.whiteSpace.contains,
    ((text.dropWhile Unicode.whiteSpace.contains).reverse.takeWhile
      Unicode.whiteSpace.contains).reverse,
    fun c hc => List.mem_takeWhile_imp hc,
    fun c hc => List.mem_takeWhile_imp (List.mem_reverse.mp hc), ?_⟩
  rw [trim, ← List.reverse_append, hright, List.reverse_reverse, hleft]

/-- White space is taken off a text up to the first and the last of its other characters. -/
theorem trim_eq {before spelling after : List Char}
    (hbefore : ∀ c ∈ before, Unicode.whiteSpace.contains c = true)
    (hspelling : ∀ c ∈ spelling, Unicode.whiteSpace.contains c = false) (hsome : spelling ≠ [])
    (hafter : ∀ c ∈ after, Unicode.whiteSpace.contains c = true) :
    trim (before ++ (spelling ++ after)) = spelling := by
  have hkeep : ∀ text others, text ≠ [] → (∀ c ∈ text, Unicode.whiteSpace.contains c = false) →
      (text ++ others).dropWhile Unicode.whiteSpace.contains = text ++ others := by
    intro text others hsome htext
    cases text with
    | nil => exact absurd rfl hsome
    | cons c text => rw [List.cons_append, List.dropWhile_cons, htext c List.mem_cons_self]; rfl
  have hreverse : ∀ c ∈ spelling.reverse, Unicode.whiteSpace.contains c = false :=
    fun c hc => hspelling c (List.mem_reverse.mp hc)
  rw [trim, List.dropWhile_append_of_pos hbefore, hkeep spelling after hsome hspelling,
    List.reverse_append, List.dropWhile_append_of_pos fun c hc => hafter c (List.mem_reverse.mp hc)]
  have hkept := hkeep spelling.reverse [] (by simpa using hsome) hreverse
  rw [List.append_nil] at hkept
  rw [hkept, List.reverse_reverse]

/-- There is no white space in the spelling of an integer. -/
theorem not_whiteSpace_of_spells {spelling : List Char} {n : Int}
    (hspelling : Numeral.Spells spelling n) :
    spelling ≠ [] ∧ ∀ c ∈ spelling, Unicode.whiteSpace.contains c = false := by
  have hsigns : Unicode.whiteSpace.contains '+' = false ∧
      Unicode.whiteSpace.contains '-' = false := by decide +kernel
  have hdigit : ∀ digit < 10, Unicode.whiteSpace.contains (Nat.digitChar digit) = false := by
    decide +kernel
  have hall : ∀ digits : List Nat, (∀ digit ∈ digits, digit < 10) →
      ∀ c ∈ digits.map Nat.digitChar, Unicode.whiteSpace.contains c = false := by
    intro digits hdigits c hc
    obtain ⟨digit, hmem, rfl⟩ := List.mem_map.mp hc
    exact hdigit digit (hdigits digit hmem)
  cases hspelling with
  | unsigned hsome hdigits => exact ⟨by simpa using hsome, hall _ hdigits⟩
  | plus hsome hdigits =>
      exact ⟨List.cons_ne_nil _ _, List.forall_mem_cons.mpr ⟨hsigns.1, hall _ hdigits⟩⟩
  | minus hsome hdigits =>
      exact ⟨List.cons_ne_nil _ _, List.forall_mem_cons.mpr ⟨hsigns.2, hall _ hdigits⟩⟩

theorem value?_eq_some_iff {field : NumberField} {value : Int64} :
    field.value? = some value ↔ field.Declares value := by
  cases field with
  | integer other =>
      rw [value?, Option.some_inj]
      constructor
      · rintro rfl
        exact .integer other
      · rintro ⟨⟩
        rfl
  | text text =>
      rw [value?, Numeral.int64?_eq_some_iff]
      constructor
      · intro hspells
        obtain ⟨before, after, hbefore, hafter, htext⟩ := exists_trim text.toList
        have hdeclares := Declares.text hbefore hspells hafter
        rwa [← htext, String.ofList_toList] at hdeclares
      · intro hdeclares
        cases hdeclares with
        | text hbefore hspelling hafter =>
            -- a spelling neither begins nor ends with a blank, so trimming leaves it whole
            obtain ⟨hsome, hnone⟩ := not_whiteSpace_of_spells hspelling
            rwa [String.toList_ofList, trim_eq hbefore hnone hsome hafter]
  | other writing =>
      constructor
      · intro hvalue
        cases hvalue
      · rintro ⟨⟩

end NumberField

/-- A field that is there declares the number. -/
def Declared (declared : Option NumberField) (value : Int64) : Prop :=
  ∃ field, declared = some field ∧ field.Declares value

theorem Declared.unique {declared : Option NumberField} {value other : Int64}
    (hvalue : Declared declared value) (hother : Declared declared other) : value = other := by
  obtain ⟨field, rfl, hvalue⟩ := hvalue
  obtain ⟨_, ⟨⟩, hother⟩ := hother
  have hsome := NumberField.value?_eq_some_iff.mpr hvalue
  rw [NumberField.value?_eq_some_iff.mpr hother] at hsome
  exact (Option.some.inj hsome).symm

/-! ## Checks -/

/-- What is asked of a number. -/
inductive Demand where
  | any
  /-- A division needs it. -/
  | nonZero
  /-- It is the index of an earlier result. -/
  | natural
  deriving DecidableEq, Repr

/-- Whether a number is one that is asked for. -/
def Demand.Admits : Demand → Int64 → Prop
  | .any, _ => True
  | .nonZero, value => value ≠ 0
  | .natural, value => 0 ≤ value.toInt

/-- A field that is looked at, by its name in the record. -/
structure NumberCheck where
  field : String
  declared : Option NumberField
  demand : Demand := .any
  deriving DecidableEq, Repr

namespace NumberCheck

/-- The field declares a number, and one that is admitted. -/
def Passes (check : NumberCheck) : Prop :=
  ∃ value, Declared check.declared value ∧ check.demand.Admits value

/-- How an error shows what is wrong with a field: not at all if there is none, by its number if it
is one that is not admitted, and otherwise by what it holds. -/
inductive Shows : NumberCheck → String → Prop
  | absent {field : String} {demand : Demand} : Shows ⟨field, none, demand⟩ ""
  | zero {field : String} {declared : Option NumberField} (hzero : Declared declared 0) :
      Shows ⟨field, declared, .nonZero⟩ "0"
  | negative {field : String} {declared : Option NumberField} {value : Int64}
      (hvalue : Declared declared value) (hnegative : value.toInt < 0) :
      Shows ⟨field, declared, .natural⟩ (toString value.toInt)
  | text {field spelling : String} {demand : Demand}
      (hnone : ∀ value, ¬ (NumberField.text spelling).Declares value) :
      Shows ⟨field, some (.text spelling), demand⟩ spelling
  | other {field writing : String} {demand : Demand} :
      Shows ⟨field, some (.other writing), demand⟩ writing

end NumberCheck

/-- The error is that of the first check that fails. -/
def FirstFailure (language : String) (checks : List NumberCheck) (error : Error) : Prop :=
  ∃ before check after value, checks = before ++ check :: after ∧
    (∀ earlier ∈ before, earlier.Passes) ∧ ¬ check.Passes ∧ check.Shows value ∧
    error = .badNumber language check.field value

/-- A step that runs some checks: it succeeds only if all of them pass, and fails at the first one
that does not. -/
structure Validates (language : String) (checks : List NumberCheck) {α : Type}
    (step : Except Error α) : Prop where
  passes : ∀ a, step = .ok a → ∀ check ∈ checks, check.Passes
  failure : ∀ error, step = .error error → FirstFailure language checks error

namespace Validates

variable {α β : Type} {language : String} {checks others : List NumberCheck}

theorem ok (a : α) : Validates language [] (.ok a) where
  passes := by simp
  failure := by
    intro error herror
    cases herror

theorem bind {first : Except Error α} {next : α → Except Error β}
    (hfirst : Validates language checks first) (hnext : ∀ a, Validates language others (next a)) :
    Validates language (checks ++ others) (first >>= next) := by
  cases hresult : first with
  | error fault =>
      obtain ⟨before, check, after, value, rfl, hbefore, hcheck⟩ := hfirst.failure fault hresult
      refine ⟨by rintro b ⟨⟩, ?_⟩
      rintro error ⟨⟩
      exact ⟨before, check, after ++ others, value, by simp, hbefore, hcheck⟩
  | ok a =>
      have hpasses := hfirst.passes a hresult
      refine ⟨fun b hok => ?_, fun error herror => ?_⟩
      · exact List.forall_mem_append.mpr ⟨hpasses, (hnext a).passes b hok⟩
      · -- the checks of the first step have all passed before the one that fails
        obtain ⟨before, check, after, value, rfl, hbefore, hcheck⟩ := (hnext a).failure error herror
        exact ⟨checks ++ before, check, after, value, by simp,
          List.forall_mem_append.mpr ⟨hpasses, hbefore⟩, hcheck⟩

theorem cons {check : NumberCheck} {first : Except Error α} {next : α → Except Error β}
    (hfirst : Validates language [check] first) (hnext : ∀ a, Validates language others (next a)) :
    Validates language (check :: others) (first >>= next) :=
  hfirst.bind hnext

theorem mapM {ι : Type} {make : ι → Except Error β} {checksOf : ι → List NumberCheck}
    (hmake : ∀ i, Validates language (checksOf i) (make i)) (declared : List ι) :
    Validates language (declared.flatMap checksOf) (declared.mapM make) := by
  induction declared with
  | nil => exact ok []
  | cons i declared ih =>
      rw [List.mapM_cons, List.flatMap_cons]
      refine (hmake i).bind fun b => ?_
      have hothers := ih.bind fun bs => ok (b :: bs)
      rwa [List.append_nil] at hothers

/-- A single check. -/
theorem of_check {check : NumberCheck} {step : Except Error α}
    (hok : ∀ a, step = .ok a → check.Passes)
    (herror : ∀ error, step = .error error →
      ¬ check.Passes ∧ ∃ value, check.Shows value ∧ error = .badNumber language check.field value) :
    Validates language [check] step where
  passes := fun a hstep => List.forall_mem_singleton.mpr (hok a hstep)
  failure := fun error hstep => by
    obtain ⟨hfails, value, hshows, heq⟩ := herror error hstep
    exact ⟨[], check, [], value, rfl, by simp, hfails, hshows, heq⟩

end Validates

namespace FormulaRecord

variable {language field : String} {declared : Option NumberField}

/-! ## Numbers -/

theorem number_eq_ok_iff {value : Int64} :
    number language field declared = .ok value ↔ Declared declared value := by
  unfold number Declared
  cases declared with
  | none => simp
  | some declared =>
      simp only [Option.some.injEq, exists_eq_left', ← NumberField.value?_eq_some_iff]
      cases declared.value? with
      | none => simp
      | some other => simp

/-- A number that cannot be read is shown as it has been declared. -/
theorem shows_of_number_eq_error {error : Error} (demand : Demand)
    (herror : number language field declared = .error error) :
    (∀ value, ¬ Declared declared value) ∧
      ∃ shown, NumberCheck.Shows ⟨field, declared, demand⟩ shown ∧
        error = .badNumber language field shown := by
  have hnone : ∀ value, ¬ Declared declared value := by
    intro value hvalue
    rw [number_eq_ok_iff.mpr hvalue] at herror
    cases herror
  refine ⟨hnone, ?_⟩
  unfold number at herror
  -- the writing that is shown depends on the kind of the field
  cases declared with
  | none =>
      cases herror
      exact ⟨"", .absent, rfl⟩
  | some declared =>
      have hvalue : declared.value? = none := by
        rw [Option.eq_none_iff_forall_ne_some]
        exact fun value hvalue =>
          hnone value ⟨declared, rfl, NumberField.value?_eq_some_iff.mp hvalue⟩
      simp only [hvalue] at herror
      cases herror
      cases declared with
      | integer value => cases hvalue
      | text spelling =>
          exact ⟨spelling, .text fun value hdeclares => hnone value ⟨_, rfl, hdeclares⟩, rfl⟩
      | other writing => exact ⟨writing, .other, rfl⟩

/-- A number that is read and then tested is put to one check, if the test takes the numbers that
are admitted and shows the others. -/
theorem validates_test {α : Type} {demand : Demand} {test : Int64 → Except Error α}
    (hok : ∀ value a, test value = .ok a → demand.Admits value)
    (herror : ∀ value error, Declared declared value → test value = .error error →
      ¬ demand.Admits value ∧ ∃ shown, NumberCheck.Shows ⟨field, declared, demand⟩ shown ∧
        error = .badNumber language field shown) :
    Validates language [⟨field, declared, demand⟩]
      ((number language field declared).bind test) := by
  cases hnumber : number language field declared with
  | error fault =>
      obtain ⟨hnone, hshown⟩ := shows_of_number_eq_error demand hnumber
      refine .of_check (by rintro a ⟨⟩) ?_
      rintro error ⟨⟩
      exact ⟨fun ⟨value, hvalue, _⟩ => hnone value hvalue, hshown⟩
  | ok value =>
      have hvalue := number_eq_ok_iff.mp hnumber
      refine .of_check (fun a htest => ⟨value, hvalue, hok value a htest⟩) fun error htest => ?_
      obtain ⟨hrefused, hshown⟩ := herror value error hvalue htest
      refine ⟨?_, hshown⟩
      rintro ⟨other, hother, hadmitted⟩
      rw [hother.unique hvalue] at hadmitted
      exact hrefused hadmitted

theorem validates_number : Validates language [⟨field, declared, .any⟩]
    (number language field declared) := by
  have htest : number language field declared = (number language field declared).bind .ok := by
    cases number language field declared <;> rfl
  rw [htest]
  refine validates_test (fun _ _ _ => trivial) ?_
  rintro value error - ⟨⟩

theorem nonZero_eq : nonZero language field declared =
    (number language field declared).bind fun value =>
      if value = 0 then .error (.badNumber language field "0") else .ok value := rfl

/-- Zero is shown as such, however it is written. -/
theorem validates_nonZero : Validates language [⟨field, declared, .nonZero⟩]
    (nonZero language field declared) := by
  rw [nonZero_eq]
  refine validates_test (fun value a hok => ?_) fun value error hvalue herror => ?_
  · rintro rfl
    cases hok
  · split at herror
    · next hzero =>
      cases herror
      subst hzero
      exact ⟨fun hadmitted => hadmitted rfl, "0", .zero hvalue, rfl⟩
    · cases herror

/-- An integer is shown in decimal digits. -/
theorem shown_integer (value : Int64) :
    (NumberField.integer value).shown = toString value.toInt := by
  rw [NumberField.shown, NumberLiteral.writeInteger]
  cases value.toInt with
  | ofNat n =>
      have hnatural : ¬ Int.ofNat n < 0 := Int.not_lt.mpr (Int.natCast_nonneg n)
      rw [if_neg hnatural]
      rfl
  | negSucc n =>
      rw [if_pos (Int.negSucc_lt_zero n), String.ofList_append]
      rfl

theorem earlierIndex_eq : earlierIndex language declared =
    (number language "prev_factors.index" declared).bind fun value =>
      if 0 ≤ value.toInt then .ok value.toInt.toNat
      else .error (.badNumber language "prev_factors.index" (toString value.toInt)) := by
  unfold earlierIndex
  cases hnumber : number language "prev_factors.index" declared with
  | error error => simp only [hnumber, bind, Except.bind]
  | ok value =>
      simp only [hnumber, bind, Except.bind, shown_integer]
      cases value.toInt with
      | ofNat n => rfl
      | negSucc n => rfl

/-- A negative index is shown in decimal digits, however it is written. -/
theorem validates_earlierIndex :
    Validates language [⟨"prev_factors.index", declared, .natural⟩]
      (earlierIndex language declared) := by
  rw [earlierIndex_eq]
  refine validates_test (fun value index hok => ?_) fun value error hvalue herror => ?_
  · split at hok
    · next hnatural => exact hnatural
    · cases hok
  · split at herror
    · cases herror
    · next hnegative =>
      cases herror
      exact ⟨hnegative, _, .negative hvalue (by omega), rfl⟩

theorem bind_number_eq_ok_iff {α : Type} {test : Int64 → Except Error α} {a : α} :
    (number language field declared).bind test = .ok a ↔
      ∃ value, Declared declared value ∧ test value = .ok a := by
  simp only [← @number_eq_ok_iff language field]
  cases number language field declared with
  | error error => simp [Except.bind]
  | ok value => simp [Except.bind]

theorem nonZero_eq_ok_iff {value : Int64} :
    nonZero language field declared = .ok value ↔ Declared declared value ∧ value ≠ 0 := by
  rw [nonZero_eq, bind_number_eq_ok_iff]
  constructor
  · rintro ⟨other, hother, hok⟩
    split at hok
    · cases hok
    · next hzero =>
      cases hok
      exact ⟨hother, hzero⟩
  · rintro ⟨hvalue, hzero⟩
    exact ⟨value, hvalue, if_neg hzero⟩

theorem earlierIndex_eq_ok_iff {index : Nat} :
    earlierIndex language declared = .ok index ↔
      ∃ value, Declared declared value ∧ value.toInt = index := by
  rw [earlierIndex_eq, bind_number_eq_ok_iff]
  refine exists_congr fun value => and_congr_right fun _ => ?_
  constructor
  · intro hok
    split at hok
    · cases hok
      omega
    · cases hok
  · intro hvalue
    rw [hvalue, if_pos (Int.natCast_nonneg index), Int.toNat_natCast]

end FormulaRecord

/-! ## Weights -/

/-- The record declares the weight and the index of an earlier result. -/
def WeightRecord.Declares (record : WeightRecord) (entry : Nat × Int64) : Prop :=
  (∃ index, Declared record.index index ∧ index.toInt = entry.1) ∧ Declared record.weight entry.2

/-- What is checked of the weight of an earlier result. -/
def WeightRecord.checks (record : WeightRecord) : List NumberCheck :=
  [⟨"prev_factors.index", record.index, .natural⟩,
    ⟨"prev_factors.multiply_by", record.weight, .any⟩]

namespace FormulaRecord

variable {language : String}

theorem validates_weight (record : WeightRecord) :
    Validates language record.checks (weight language record) :=
  validates_earlierIndex.cons fun index => validates_number.cons fun value => .ok (index, value)

theorem weight_eq_ok_iff {record : WeightRecord} {entry : Nat × Int64} :
    weight language record = .ok entry ↔ record.Declares entry := by
  unfold weight WeightRecord.Declares
  simp only [bind_eq_ok_iff, number_eq_ok_iff, earlierIndex_eq_ok_iff, pure, Except.pure,
    Except.ok.injEq]
  constructor
  · rintro ⟨index, hindex, value, hvalue, rfl⟩
    exact ⟨hindex, hvalue⟩
  · rintro ⟨hindex, hvalue⟩
    exact ⟨entry.1, hindex, entry.2, hvalue, rfl⟩

/-! ## Formulas -/

/-- What is checked of a formula, in this order. -/
def checks (record : FormulaRecord) : List NumberCheck :=
  ⟨"offset", record.offset, .any⟩ :: ⟨"modulus", record.modulus, .nonZero⟩ ::
    ⟨"divisor", record.divisor, .nonZero⟩ :: ⟨"intercept", record.intercept, .any⟩ ::
    ⟨"order", record.order, .any⟩ :: ⟨"range_min", record.least, .any⟩ ::
    ⟨"range_max", record.greatest, .any⟩ :: record.weights.flatMap WeightRecord.checks

/-- The record declares the numbers of the formula, and weights of which the last one for an index
counts. -/
structure Declares (record : FormulaRecord) (formula : Formula) : Prop where
  offset : Declared record.offset formula.offset
  modulus : Declared record.modulus formula.modulus
  modulus_ne_zero : formula.modulus ≠ 0
  divisor : Declared record.divisor formula.divisor
  divisor_ne_zero : formula.divisor ≠ 0
  intercept : Declared record.intercept formula.intercept
  order : Declared record.order formula.order
  least : Declared record.least formula.least
  greatest : Declared record.greatest formula.greatest
  weights : ∃ entries, List.Forall₂ WeightRecord.Declares record.weights entries ∧
    ∀ entry, entry ∈ formula.weights.toList ↔ entries.reverse.lookup entry.1 = some entry.2

theorem validates_toFormula (language : String) (record : FormulaRecord) :
    Validates language record.checks (record.toFormula language) := by
  unfold toFormula
  refine validates_number.cons fun offset => ?_
  refine validates_nonZero.cons fun modulus => ?_
  refine validates_nonZero.cons fun divisor => ?_
  refine validates_number.cons fun intercept => ?_
  refine validates_number.cons fun order => ?_
  refine validates_number.cons fun least => ?_
  refine validates_number.cons fun greatest => ?_
  rw [← List.append_nil (record.weights.flatMap WeightRecord.checks)]
  exact (Validates.mapM validates_weight record.weights).bind fun weights => .ok _

theorem toFormula_eq_ok_iff {record : FormulaRecord} {formula : Formula} :
    record.toFormula language = .ok formula ↔ record.Declares formula := by
  unfold toFormula
  simp only [bind_eq_ok_iff, number_eq_ok_iff, nonZero_eq_ok_iff, mapM_eq_ok_iff, weight_eq_ok_iff,
    pure, Except.pure, Except.ok.injEq]
  constructor
  · rintro ⟨offset, hoffset, modulus, ⟨hmodulus, hmodulusNe⟩, divisor, ⟨hdivisor, hdivisorNe⟩,
      intercept, hintercept, order, horder, least, hleast, greatest, hgreatest, entries, hentries,
      rfl⟩
    exact ⟨hoffset, hmodulus, hmodulusNe, hdivisor, hdivisorNe, hintercept, horder, hleast,
      hgreatest, entries, hentries, fun entry => Weights.mem_ofList_iff⟩
  · rintro ⟨hoffset, hmodulus, hmodulusNe, hdivisor, hdivisorNe, hintercept, horder, hleast,
      hgreatest, entries, hentries, hweights⟩
    have hlist : Weights.ofList entries = formula.weights :=
      Weights.eq_of_mem_iff fun entry => Weights.mem_ofList_iff.trans (hweights entry).symm
    exact ⟨_, hoffset, _, ⟨hmodulus, hmodulusNe⟩, _, ⟨hdivisor, hdivisorNe⟩, _, hintercept, _,
      horder, _, hleast, _, hgreatest, entries, hentries, by rw [hlist]⟩

/-- What is made of a record.

The formula that it declares is made of it, and no other one; a record declares a formula exactly if
all its checks pass.  Otherwise the error is that of the first check that fails. -/
theorem toFormula_validates (language : String) (record : FormulaRecord) :
    (∀ formula, record.toFormula language = .ok formula ↔ record.Declares formula) ∧
    ((∃ formula, record.toFormula language = .ok formula) ↔
      ∀ check ∈ record.checks, check.Passes) ∧
    (∀ error, record.toFormula language = .error error →
      FirstFailure language record.checks error) := by
  have hvalidates := validates_toFormula language record
  refine ⟨fun formula => toFormula_eq_ok_iff, ⟨?_, fun hpass => ?_⟩, hvalidates.failure⟩
  · rintro ⟨formula, hformula⟩
    exact hvalidates.passes formula hformula
  · cases hresult : record.toFormula language with
    | ok formula => exact ⟨formula, rfl⟩
    | error error =>
        obtain ⟨before, check, after, shown, hchecks, -, hfails, -⟩ :=
          hvalidates.failure error hresult
        exact absurd (hpass check (by rw [hchecks]; simp)) hfails

/-- The zero is reported as such before the fields after it, whatever is wrong with them. -/
example :
    toFormula "L" {
      offset := some (.text " -0 ")
      modulus := some (.text "+00")
      divisor := some (.other "1.5") } = .error (.badNumber "L" "modulus" "0") := by
  decide +kernel

end FormulaRecord

end Transliteration
