import Transliteration.Proofs.Formula.Declaration
import Transliteration.Proofs.Json.Places

/-!
# The places of numbers in a record of a formula

A number of a formula stands in a place of its own (`Position`): it is read there, looked at in its
turn, and named in the errors.  So two records that differ in one place only are read alike as far
as the values there are (`follows_ofJson`), and have the same outcome if the two fields declare the
same numbers (`sameOutcome_declare`), or if the record is refused for a field before them
(`sameOutcome_declare_of_earlier`).

Outcomes are the same if both are the same formula or both are errors that name the same field.
What an error shows of the field may differ (`SameOutcome`).
-/

namespace Transliteration

/-! ## First failures -/

section

variable {language : String} {checks others : List NumberCheck} {error otherError : Error}

theorem firstFailure_cons {check : NumberCheck} :
    FirstFailure language (check :: checks) error ↔
      (¬ check.Passes ∧ ∃ shown, check.Shows shown ∧
        error = .badNumber language check.field shown) ∨
      (check.Passes ∧ FirstFailure language checks error) := by
  constructor
  · rintro ⟨before, failed, after, shown, hchecks, hbefore, hfails, hshows, heq⟩
    cases before with
    | nil =>
        obtain ⟨rfl, rfl⟩ := List.cons.inj hchecks
        exact .inl ⟨hfails, shown, hshows, heq⟩
    | cons first before =>
        obtain ⟨rfl, rfl⟩ := List.cons.inj hchecks
        obtain ⟨hpasses, hbefore⟩ := List.forall_mem_cons.mp hbefore
        exact .inr ⟨hpasses, before, failed, after, shown, rfl, hbefore, hfails, hshows, heq⟩
  · rintro (⟨hfails, shown, hshows, heq⟩ |
      ⟨hpasses, before, failed, after, shown, rfl, hbefore, hfails, hshows, heq⟩)
    · exact ⟨[], check, checks, shown, rfl, by simp, hfails, hshows, heq⟩
    · exact ⟨check :: before, failed, after, shown, rfl,
        List.forall_mem_cons.mpr ⟨hpasses, hbefore⟩, hfails, hshows, heq⟩

/-- Checks that pass and fail alike fail first at the same field. -/
theorem FirstFailure.same_field
    (hsame : List.Forall₂ (fun check other => check.field = other.field ∧
      (check.Passes ↔ other.Passes)) checks others)
    (hfirst : FirstFailure language checks error)
    (hsecond : FirstFailure language others otherError) :
    ∃ field shown other, error = .badNumber language field shown ∧
      otherError = .badNumber language field other := by
  induction hsame with
  | nil =>
      obtain ⟨before, _, _, _, hnil, -⟩ := hfirst
      cases before <;> cases hnil
  | cons hcheck hchecks ih =>
      rcases firstFailure_cons.mp hfirst with ⟨hfails, shown, -, rfl⟩ | ⟨hpasses, hfirst⟩
      · rcases firstFailure_cons.mp hsecond with ⟨-, other, -, rfl⟩ | ⟨hother, -⟩
        · exact ⟨_, shown, other, rfl, by rw [hcheck.1]⟩
        · exact absurd (hcheck.2.mpr hother) hfails
      · rcases firstFailure_cons.mp hsecond with ⟨hother, -⟩ | ⟨-, hsecond⟩
        · exact absurd (hcheck.2.mp hpasses) hother
        · exact ih hfirst hsecond

/-- A check that fails after others have passed is the first one. -/
theorem FirstFailure.shows {before after : List NumberCheck} {check : NumberCheck}
    (hbefore : ∀ earlier ∈ before, earlier.Passes) (hfails : ¬ check.Passes)
    (hfirst : FirstFailure language (before ++ check :: after) error) :
    ∃ shown, check.Shows shown ∧ error = .badNumber language check.field shown := by
  induction before with
  | nil =>
      rcases firstFailure_cons.mp hfirst with ⟨-, hshown⟩ | ⟨hpasses, -⟩
      · exact hshown
      · exact absurd hpasses hfails
  | cons first before ih =>
      obtain ⟨hpasses, hbefore⟩ := List.forall_mem_cons.mp hbefore
      rcases firstFailure_cons.mp hfirst with ⟨hfirst, -⟩ | ⟨-, hfirst⟩
      · exact absurd hpasses hfirst
      · exact ih hbefore hfirst

/-- A failure among the first checks is one of those alone. -/
theorem FirstFailure.of_append {before after : List NumberCheck}
    (hfails : ∃ check ∈ before, ¬ check.Passes)
    (hfirst : FirstFailure language (before ++ after) error) :
    FirstFailure language before error := by
  induction before with
  | nil => simp at hfails
  | cons first before ih =>
      rcases firstFailure_cons.mp hfirst with hshown | ⟨hpasses, hfirst⟩
      · exact firstFailure_cons.mpr (.inl hshown)
      · obtain ⟨check, hcheck, hnot⟩ := hfails
        rcases List.mem_cons.mp hcheck with rfl | hcheck
        · exact absurd hpasses hnot
        · exact firstFailure_cons.mpr (.inr ⟨hpasses, ih ⟨check, hcheck, hnot⟩ hfirst⟩)

end

theorem forall₂_set {α : Type} {Related : α → α → Prop} (hrefl : ∀ a, Related a a) {a b : α}
    (hab : Related a b) (items : List α) (place : Nat) :
    List.Forall₂ Related (items.set place a) (items.set place b) := by
  induction items generalizing place with
  | nil => exact .nil
  | cons item items ih =>
      cases place with
      | zero => exact .cons hab (List.forall₂_same.mpr fun a _ => hrefl a)
      | succ place => exact .cons (hrefl item) (ih place)

/-! ## The places of numbers in a record -/

namespace FormulaRecord

/-- The numbers of a formula apart from the weights of earlier results. -/
inductive NumberPlace where
  | offset
  | modulus
  | divisor
  | intercept
  | order
  | least
  | greatest
  deriving DecidableEq, Repr

namespace NumberPlace

/-- The name of the field, in records and in errors. -/
def name : NumberPlace → String
  | offset => "offset"
  | modulus => "modulus"
  | divisor => "divisor"
  | intercept => "intercept"
  | order => "order"
  | least => "range_min"
  | greatest => "range_max"

/-- How many fields are looked at before this one. -/
def rank : NumberPlace → Nat
  | offset => 0
  | modulus => 1
  | divisor => 2
  | intercept => 3
  | order => 4
  | least => 5
  | greatest => 6

/-- What is asked of the number: a division by it needs one that is not zero. -/
def demand : NumberPlace → Demand
  | modulus | divisor => .nonZero
  | _ => .any

/-- The field in this place of a record. -/
def get (record : FormulaRecord) : NumberPlace → Option NumberField
  | offset => record.offset
  | modulus => record.modulus
  | divisor => record.divisor
  | intercept => record.intercept
  | order => record.order
  | least => record.least
  | greatest => record.greatest

/-- The record with a field in this place. -/
def declare (record : FormulaRecord) (declared : Option NumberField) : NumberPlace → FormulaRecord
  | offset => { record with offset := declared }
  | modulus => { record with modulus := declared }
  | divisor => { record with divisor := declared }
  | intercept => { record with intercept := declared }
  | order => { record with order := declared }
  | least => { record with least := declared }
  | greatest => { record with greatest := declared }

/-- The number of a formula that is declared in this place. -/
def of (formula : Formula) : NumberPlace → Int64
  | offset => formula.offset
  | modulus => formula.modulus
  | divisor => formula.divisor
  | intercept => formula.intercept
  | order => formula.order
  | least => formula.least
  | greatest => formula.greatest

theorem get_declare (record : FormulaRecord) (declared : Option NumberField)
    (place other : NumberPlace) :
    other.get (place.declare record declared) =
      if other = place then declared else other.get record := by
  cases place <;> cases other <;> rfl

theorem weights_declare (record : FormulaRecord) (declared : Option NumberField)
    (place : NumberPlace) : (place.declare record declared).weights = record.weights := by
  cases place <;> rfl

theorem ext_get {first second : FormulaRecord} (hget : ∀ place, get first place = get second place)
    (hweights : first.weights = second.weights) : first = second := by
  obtain ⟨⟩ := first
  obtain ⟨⟩ := second
  cases hweights
  cases hget offset
  cases hget modulus
  cases hget divisor
  cases hget intercept
  cases hget order
  cases hget least
  cases hget greatest
  rfl

end NumberPlace

/-- The numbers of the weight of an earlier result. -/
inductive WeightPlace where
  | index
  | weight
  deriving DecidableEq, Repr

namespace WeightPlace

/-- The name of the field in a record. -/
def name : WeightPlace → String
  | index => "index"
  | weight => "multiply_by"

/-- The name in errors. -/
def field : WeightPlace → String
  | index => "prev_factors.index"
  | weight => "prev_factors.multiply_by"

/-- How many fields of the weight are looked at before this one. -/
def rank : WeightPlace → Nat
  | index => 0
  | weight => 1

/-- What is asked of the number: an index is not negative. -/
def demand : WeightPlace → Demand
  | index => .natural
  | weight => .any

/-- The weight with a field in this place. -/
def declare (declared : Option NumberField) (record : WeightRecord) : WeightPlace → WeightRecord
  | index => { record with index := declared }
  | weight => { record with weight := declared }

end WeightPlace

/-- The place of a number in a record. -/
inductive Position where
  | number (place : NumberPlace)
  | weight (entry : Nat) (place : WeightPlace)
  deriving DecidableEq, Repr

namespace Position

/-- The name in errors. -/
def field : Position → String
  | number place => place.name
  | weight _ place => place.field

/-- What is asked of the number in this place. -/
def demand : Position → Demand
  | number place => place.demand
  | weight _ place => place.demand

/-- How many fields are looked at before this one. -/
def rank : Position → Nat
  | number place => place.rank
  | weight entry place => 7 + (2 * entry + place.rank)

/-- The record with a field in this place. -/
def declare (record : FormulaRecord) (declared : Option NumberField) : Position → FormulaRecord
  | number place => place.declare record declared
  | weight entry place =>
    { record with weights := record.weights.modify entry (place.declare declared) }

end Position

/-! ## Checks -/

theorem checks_modify (place : WeightPlace) (declared : Option NumberField)
    (weights : List WeightRecord) (entry : Nat) :
    (weights.modify entry (place.declare declared)).flatMap WeightRecord.checks =
      (weights.flatMap WeightRecord.checks).set (2 * entry + place.rank)
        ⟨place.field, declared, place.demand⟩ := by
  induction weights generalizing entry with
  | nil => rw [List.modify_nil, List.flatMap_nil, List.set_nil]
  | cons weight weights ih =>
      cases entry with
      | zero => cases place <;> rfl
      | succ entry =>
          rw [List.modify_succ_cons, List.flatMap_cons, ih entry, List.flatMap_cons,
            show 2 * (entry + 1) + place.rank = 2 * entry + place.rank + 2 by omega]
          rfl

/-- A field is looked at in its place, and nothing else depends on it. -/
theorem checks_declare (record : FormulaRecord) (declared : Option NumberField)
    (position : Position) :
    (position.declare record declared).checks =
      record.checks.set position.rank ⟨position.field, declared, position.demand⟩ := by
  cases position with
  | number place => cases place <;> rfl
  | weight entry place =>
      simp only [Position.declare, checks, checks_modify, Position.rank, Nat.add_comm 7,
        List.set_cons_succ]
      rfl

/-! ## What is declared -/

theorem forall₂_modify {first second : WeightRecord → WeightRecord} {weights : List WeightRecord}
    {entries : List (Nat × Int64)}
    (hsame : ∀ weight entry, (first weight).Declares entry → (second weight).Declares entry)
    (entry : Nat)
    (hdeclares : List.Forall₂ WeightRecord.Declares (weights.modify entry first) entries) :
    List.Forall₂ WeightRecord.Declares (weights.modify entry second) entries := by
  induction weights generalizing entry entries with
  | nil => rwa [List.modify_nil] at hdeclares ⊢
  | cons weight weights ih =>
      cases entry with
      | zero =>
          rw [List.modify_zero_cons] at hdeclares ⊢
          cases hdeclares with
          | cons hweight hweights => exact .cons (hsame _ _ hweight) hweights
      | succ entry =>
          rw [List.modify_succ_cons] at hdeclares ⊢
          cases hdeclares with
          | cons hweight hweights => exact .cons hweight (ih entry hweights)

/-- The numbers of a formula are declared each in its place. -/
theorem declares_iff {record : FormulaRecord} {formula : Formula} :
    record.Declares formula ↔
      (∀ place : NumberPlace, Declared (place.get record) (place.of formula) ∧
        place.demand.Admits (place.of formula)) ∧
      ∃ entries, List.Forall₂ WeightRecord.Declares record.weights entries ∧
        ∀ entry, entry ∈ formula.weights.toList ↔
          entries.reverse.lookup entry.1 = some entry.2 := by
  constructor
  · rintro ⟨hoffset, hmodulus, hmodulusNe, hdivisor, hdivisorNe, hintercept, horder, hleast,
      hgreatest, hweights⟩
    refine ⟨fun place => ?_, hweights⟩
    cases place with
    | offset => exact ⟨hoffset, trivial⟩
    | modulus => exact ⟨hmodulus, hmodulusNe⟩
    | divisor => exact ⟨hdivisor, hdivisorNe⟩
    | intercept => exact ⟨hintercept, trivial⟩
    | order => exact ⟨horder, trivial⟩
    | least => exact ⟨hleast, trivial⟩
    | greatest => exact ⟨hgreatest, trivial⟩
  · rintro ⟨hnumbers, hweights⟩
    exact ⟨(hnumbers .offset).1, (hnumbers .modulus).1, (hnumbers .modulus).2,
      (hnumbers .divisor).1, (hnumbers .divisor).2, (hnumbers .intercept).1, (hnumbers .order).1,
      (hnumbers .least).1, (hnumbers .greatest).1, hweights⟩

/-- Two fields that declare the same number make the same formula. -/
theorem Declares.of_declare {record : FormulaRecord} {position : Position}
    {first second : Option NumberField} {formula : Formula}
    (hsame : ∀ n, position.demand.Admits n → Declared first n → Declared second n)
    (hdeclares : (position.declare record first).Declares formula) :
    (position.declare record second).Declares formula := by
  obtain ⟨hnumbers, entries, hentries, hweights⟩ := declares_iff.mp hdeclares
  refine declares_iff.mpr ?_
  cases position with
  | number place =>
      simp only [Position.declare, NumberPlace.get_declare, NumberPlace.weights_declare] at *
      refine ⟨fun other => ?_, entries, hentries, hweights⟩
      obtain ⟨hdeclared, hadmitted⟩ := hnumbers other
      split at hdeclared
      · next heq =>
        subst heq
        exact ⟨by rw [if_pos rfl]; exact hsame _ hadmitted hdeclared, hadmitted⟩
      · next hne => exact ⟨by rwa [if_neg hne], hadmitted⟩
  | weight entry place =>
      refine ⟨hnumbers, entries, forall₂_modify ?_ entry hentries, hweights⟩
      rintro weight declared ⟨⟨index, hindex, hnatural⟩, hweight⟩
      cases place with
      | index =>
          refine ⟨⟨index, hsame index ?_ hindex, hnatural⟩, hweight⟩
          -- an index is admitted if it is a natural number, which is part of what a record declares
          show 0 ≤ index.toInt
          omega
      | weight => exact ⟨⟨index, hindex, hnatural⟩, hsame _ trivial hweight⟩

/-! ## Outcomes -/

/-- Both records have the same formula, or are refused for fields of the same name. -/
inductive SameOutcome (language : String) : Except Error Formula → Except Error Formula → Prop
  | ok (formula : Formula) : SameOutcome language (.ok formula) (.ok formula)
  | error (field shown other : String) :
      SameOutcome language (.error (.badNumber language field shown))
        (.error (.badNumber language field other))

section

variable {language : String} {record : FormulaRecord} {position : Position}
  {first second : Option NumberField}

/-- A record some check of which fails is refused for the first one. -/
theorem exists_firstFailure (language : String) (record : FormulaRecord)
    (hfails : ∃ check ∈ record.checks, ¬ check.Passes) :
    ∃ error, record.toFormula language = .error error ∧
      FirstFailure language record.checks error := by
  obtain ⟨-, hpass, hfirst⟩ := toFormula_validates language record
  cases hresult : record.toFormula language with
  | ok formula =>
      obtain ⟨check, hcheck, hnot⟩ := hfails
      exact absurd (hpass.mp ⟨formula, hresult⟩ check hcheck) hnot
  | error error => exact ⟨error, rfl, hfirst error hresult⟩

theorem checks_declare_eq_append (hwithin : position.rank < record.checks.length)
    (declared : Option NumberField) :
    (position.declare record declared).checks = record.checks.take position.rank ++
      ⟨position.field, declared, position.demand⟩ :: record.checks.drop (position.rank + 1) := by
  rw [checks_declare, List.set_eq_take_append_cons_drop, if_pos hwithin]

/-- Fields that declare the same numbers, as far as those are admitted, have the same outcome. -/
theorem sameOutcome_declare
    (hsame : ∀ n, position.demand.Admits n → (Declared first n ↔ Declared second n)) :
    SameOutcome language ((position.declare record first).toFormula language)
      ((position.declare record second).toFormula language) := by
  have hok : ∀ formula, (position.declare record first).toFormula language = .ok formula ↔
      (position.declare record second).toFormula language = .ok formula := by
    intro formula
    rw [toFormula_eq_ok_iff, toFormula_eq_ok_iff]
    exact ⟨.of_declare fun n hn => (hsame n hn).mp, .of_declare fun n hn => (hsame n hn).mpr⟩
  cases hfirst : (position.declare record first).toFormula language with
  | ok formula =>
      rw [(hok formula).mp hfirst]
      exact .ok formula
  | error error =>
      cases hsecond : (position.declare record second).toFormula language with
      | ok formula =>
          rw [(hok formula).mpr hsecond] at hfirst
          cases hfirst
      | error other =>
          -- Both are refused for their first failing check, and the same checks pass in both.
          have hchecks : List.Forall₂ (fun check other : NumberCheck => check.field = other.field ∧
              (check.Passes ↔ other.Passes)) (position.declare record first).checks
              (position.declare record second).checks := by
            rw [checks_declare, checks_declare]
            refine forall₂_set (fun check => ⟨rfl, Iff.rfl⟩) ⟨rfl, ?_⟩ _ _
            exact exists_congr fun n => and_congr_left fun hn => hsame n hn
          obtain ⟨field, shown, otherShown, rfl, rfl⟩ := FirstFailure.same_field hchecks
            ((toFormula_validates language _).2.2 _ hfirst)
            ((toFormula_validates language _).2.2 _ hsecond)
          exact .error field shown otherShown

/-- The field makes no difference if the record is refused for one before it. -/
theorem sameOutcome_declare_of_earlier (hwithin : position.rank < record.checks.length)
    (hearlier : ∃ check ∈ record.checks.take position.rank, ¬ check.Passes)
    (first second : Option NumberField) :
    SameOutcome language ((position.declare record first).toFormula language)
      ((position.declare record second).toFormula language) := by
  have hfailure : ∀ declared, ∃ error,
      (position.declare record declared).toFormula language = .error error ∧
      FirstFailure language (record.checks.take position.rank) error := by
    intro declared
    have hchecks := checks_declare_eq_append hwithin declared
    obtain ⟨check, hcheck, hnot⟩ := hearlier
    obtain ⟨error, hresult, hfirst⟩ := exists_firstFailure language
      (position.declare record declared)
      ⟨check, by rw [hchecks]; exact List.mem_append_left _ hcheck, hnot⟩
    rw [hchecks] at hfirst
    exact ⟨error, hresult, hfirst.of_append ⟨check, hcheck, hnot⟩⟩
  obtain ⟨error, hfirst, hfirstFailure⟩ := hfailure first
  obtain ⟨other, hsecond, hsecondFailure⟩ := hfailure second
  obtain ⟨field, shown, otherShown, rfl, rfl⟩ := FirstFailure.same_field
    (List.forall₂_same.mpr fun check _ => ⟨rfl, Iff.rfl⟩) hfirstFailure hsecondFailure
  rw [hfirst, hsecond]
  exact .error field shown otherShown

/-- What declares no number is shown if nothing is wrong with the fields before it. -/
theorem toFormula_declare_other (hwithin : position.rank < record.checks.length)
    (hearlier : ∀ check ∈ record.checks.take position.rank, check.Passes) (writing : String) :
    (position.declare record (some (.other writing))).toFormula language =
      .error (.badNumber language position.field writing) := by
  have hnone : ∀ n, ¬ Declared (some (.other writing)) n := by
    rintro n ⟨field, ⟨⟩, ⟨⟩⟩
  have hchecks := checks_declare_eq_append hwithin (some (.other writing))
  have hfails : ¬ NumberCheck.Passes
      ⟨position.field, some (.other writing), position.demand⟩ :=
    fun ⟨n, hn, _⟩ => hnone n hn
  obtain ⟨error, hresult, hfirst⟩ := exists_firstFailure language
    (position.declare record (some (.other writing)))
    ⟨_, by rw [hchecks]; exact List.mem_append_right _ List.mem_cons_self, hfails⟩
  rw [hchecks] at hfirst
  obtain ⟨shown, hshown, rfl⟩ := hfirst.shows hearlier hfails
  rw [hresult]
  generalize position.demand = demand at hshown
  cases hshown with
  | zero hzero => exact absurd hzero (hnone 0)
  | negative hvalue => exact absurd hvalue (hnone _)
  | other => rfl

end

/-! ## Reading -/

/-- The names of the fields of a formula, in the order of an array. -/
def names : List String :=
  ["offset", "modulus", "divisor", "intercept", "order", "range_min", "range_max", "prev_factors"]

/-- The names of the fields of a weight, in the order of an array. -/
def weightNames : List String := ["index", "multiply_by"]

/-- Whatever is written for a record, with a value in this place. -/
inductive Position.Writing : Position → (Json → Json) → Prop
  | number {place : NumberPlace} {writing : Json → Json}
      (hwriting : Json.Fields.Place names place.name writing) : Writing (.number place) writing
  | weight {place : WeightPlace} {record weight : Json → Json}
      (hrecord : Json.Fields.Place names "prev_factors" record) (before after : List Json)
      (hweight : Json.Fields.Place weightNames place.name weight) :
      Writing (.weight before.length place) fun value =>
        record (.array (before ++ weight value :: after))

section

variable {value other : Json} {Refuses : Json.Fault → Prop}
  {Related : NumberField → NumberField → Prop}

/-- Two fields are the same but for those in one place. -/
def SameBut {Place : Type} (place : Place) (Related : NumberField → NumberField → Prop)
    (other : Place) (first second : Option NumberField) : Prop :=
  (other ≠ place → first = second) ∧
    (other = place → ∃ a b, Related a b ∧ first = some a ∧ second = some b)

open Json.Fields in
theorem follows_named {Place : Type} {name : Place → String} (hname : Function.Injective name)
    {place : Place} {fields others : Json.Fields}
    (hpositional : fields.positional = others.positional)
    (hdiffer : DifferIn (name place) value other fields.given others.given)
    (hvalue : value ≠ .null) (hother : other ≠ .null)
    {decode : Json → Except Json.Fault NumberField}
    (hread : Follows Refuses Related (decode value) (decode other)) (field : Place) :
    Follows Refuses (SameBut place Related field) (fields.named (name field) decode)
      (others.named (name field) decode) := by
  by_cases heq : field = place
  · subst heq
    rw [named_eq hdiffer.first_eq, named_eq hdiffer.second_eq, nullable_eq hvalue,
      nullable_eq hother]
    exact hread.bind fun a b hab =>
      .ok ⟨fun hne => absurd rfl hne, fun _ => ⟨a, b, hab, rfl, rfl⟩⟩
  · rw [named_eq_of_ne hpositional hdiffer (hname.ne heq)]
    exact .refl (fun a => ⟨fun _ => rfl, fun hsame => absurd hsame heq⟩) _

theorem NumberPlace.name_injective : Function.Injective NumberPlace.name := by
  intro place other hname
  cases place <;> cases other <;> first | rfl | exact absurd hname (by decide)

theorem WeightPlace.name_injective : Function.Injective WeightPlace.name := by
  intro place other hname
  cases place <;> cases other <;> first | rfl | exact absurd hname (by decide)

/-- Two records are the same but for one field, if their numbers and weights are. -/
theorem exists_declare_of_sameBut {place : NumberPlace} {first second : FormulaRecord}
    (hnumbers : ∀ other : NumberPlace,
      SameBut place Related other (other.get first) (other.get second))
    (hweights : first.weights = second.weights) :
    ∃ a b, Related a b ∧ first = place.declare first (some a) ∧
      second = place.declare first (some b) := by
  obtain ⟨a, b, hab, hfirst, hsecond⟩ := (hnumbers place).2 rfl
  refine ⟨a, b, hab, NumberPlace.ext_get (fun other => ?_) ?_,
    NumberPlace.ext_get (fun other => ?_) ?_⟩
  · rw [NumberPlace.get_declare]
    split
    · next heq => rw [heq, hfirst]
    · rfl
  · rw [NumberPlace.weights_declare]
  · rw [NumberPlace.get_declare]
    split
    · next heq => rw [heq, hsecond]
    · next hne => rw [(hnumbers other).1 hne]
  · rw [NumberPlace.weights_declare, hweights]

open Json.Fields in
theorem follows_ofJson_number {place : NumberPlace} {writing : Json → Json}
    (hwriting : Place names place.name writing) (depth : Nat)
    (hvalue : value ≠ .null) (hother : other ≠ .null)
    (hread : Follows Refuses Related (NumberField.ofJson (roomAt depth) value)
      (NumberField.ofJson (roomAt depth) other)) :
    Follows Refuses (fun first second => ∃ record a b, Related a b ∧
        first = place.declare record (some a) ∧ second = place.declare record (some b))
      (ofJson depth (writing value)) (ofJson depth (writing other)) := by
  have hnodup : names.Nodup := by decide
  have hmem : place.name ∈ names := by cases place <;> decide
  unfold ofJson
  refine (hwriting.follows hnodup hmem _ _).bind ?_
  rintro fields others ⟨hpositional, hdiffer⟩
  -- One field differs, and the reader takes the seven in turn; the weights are never that field.
  have hnamed := follows_named NumberPlace.name_injective hpositional hdiffer hvalue hother hread
  refine (hnamed .offset).bind fun offset offset' hoffset => ?_
  refine (hnamed .modulus).bind fun modulus modulus' hmodulus => ?_
  refine (hnamed .divisor).bind fun divisor divisor' hdivisor => ?_
  refine (hnamed .intercept).bind fun intercept intercept' hintercept => ?_
  refine (hnamed .order).bind fun order order' horder => ?_
  refine (hnamed .least).bind fun least least' hleast => ?_
  refine (hnamed .greatest).bind fun greatest greatest' hgreatest => ?_
  have hweightsName : "prev_factors" ≠ place.name := by cases place <;> decide
  rw [withDefault_eq_of_ne hdiffer hweightsName]
  refine (Follows.refl Eq.refl _).bind fun weights weights' hweights => .ok ?_
  refine ⟨_, exists_declare_of_sameBut (fun other => ?_) hweights⟩
  cases other with
  | offset => exact hoffset
  | modulus => exact hmodulus
  | divisor => exact hdivisor
  | intercept => exact hintercept
  | order => exact horder
  | least => exact hleast
  | greatest => exact hgreatest

open Json.Fields in
theorem follows_weightOfJson {place : WeightPlace} {writing : Json → Json}
    (hwriting : Place weightNames place.name writing) (depth : Nat)
    (hvalue : value ≠ .null) (hother : other ≠ .null)
    (hread : Follows Refuses Related (NumberField.ofJson (roomAt depth) value)
      (NumberField.ofJson (roomAt depth) other)) :
    Follows Refuses (fun first second => ∃ weight a b, Related a b ∧
        first = place.declare (some a) weight ∧ second = place.declare (some b) weight)
      (weightOfJson depth (writing value)) (weightOfJson depth (writing other)) := by
  have hnodup : weightNames.Nodup := by decide
  have hmem : place.name ∈ weightNames := by cases place <;> decide
  unfold weightOfJson
  refine (hwriting.follows hnodup hmem _ _).bind ?_
  rintro fields others ⟨hpositional, hdiffer⟩
  have hnamed := follows_named WeightPlace.name_injective hpositional hdiffer hvalue hother hread
  refine (hnamed .index).bind fun index index' hindex => ?_
  refine (hnamed .weight).bind fun weight weight' hweight => .ok ?_
  -- of the two fields of a weight one is given by the place and the other is equal in both
  cases place with
  | index =>
      obtain ⟨a, b, hab, rfl, rfl⟩ := hindex.2 rfl
      obtain rfl := hweight.1 (by decide)
      exact ⟨⟨none, weight⟩, a, b, hab, rfl, rfl⟩
  | weight =>
      obtain ⟨a, b, hab, rfl, rfl⟩ := hweight.2 rfl
      obtain rfl := hindex.1 (by decide)
      exact ⟨⟨index, none⟩, a, b, hab, rfl, rfl⟩

theorem length_checks (record : FormulaRecord) :
    record.checks.length = 7 + 2 * record.weights.length := by
  have hweights : ∀ weights : List WeightRecord,
      (weights.flatMap WeightRecord.checks).length = 2 * weights.length := by
    intro weights
    induction weights with
    | nil => rfl
    | cons weight weights ih =>
        rw [List.flatMap_cons, List.length_append, ih, List.length_cons]
        show 2 + 2 * weights.length = 2 * (weights.length + 1)
        omega
  simp only [checks, List.length_cons, hweights]
  omega

open Json.Fields in
/-- Records that differ in the value in one place are read alike, as far as the values are. -/
theorem follows_ofJson {position : Position} {writing : Json → Json}
    (hwriting : position.Writing writing) (depth : Nat)
    (hvalue : value ≠ .null) (hother : other ≠ .null)
    (hread : ∀ room, Follows Refuses Related (NumberField.ofJson room value)
      (NumberField.ofJson room other)) :
    Follows Refuses (fun first second => ∃ record a b, Related a b ∧
        position.rank < record.checks.length ∧
        first = position.declare record (some a) ∧ second = position.declare record (some b))
      (ofJson depth (writing value)) (ofJson depth (writing other)) := by
  cases hwriting with
  | @number place writing hwriting =>
      -- the seven fields come before all the weights
      refine (follows_ofJson_number hwriting depth hvalue hother (hread _)).mono ?_
      rintro first second ⟨record, a, b, hab, hfirst, hsecond⟩
      refine ⟨record, a, b, hab, ?_, hfirst, hsecond⟩
      have hrank : place.rank < 7 := by cases place <;> decide
      rw [length_checks]
      exact Nat.lt_add_right _ hrank
  | @weight place recordWriting weightWriting hrecord before after hweight =>
      unfold ofJson
      refine (hrecord.follows (by decide) (by decide) _ _).bind ?_
      rintro fields others ⟨hpositional, hdiffer⟩
      -- The differing value stands within the weights, so the other fields are read the same.
      have hnamed : ∀ place : NumberPlace, Follows Refuses (· = ·)
          (fields.named place.name (NumberField.ofJson (roomAt depth)))
          (others.named place.name (NumberField.ofJson (roomAt depth))) := by
        intro place
        have hplace : place.name ≠ "prev_factors" := by cases place <;> decide
        rw [named_eq_of_ne hpositional hdiffer hplace]
        exact .refl Eq.refl _
      refine (hnamed .offset).bind fun offset offset' hoffset => ?_
      refine (hnamed .modulus).bind fun modulus modulus' hmodulus => ?_
      refine (hnamed .divisor).bind fun divisor divisor' hdivisor => ?_
      refine (hnamed .intercept).bind fun intercept intercept' hintercept => ?_
      refine (hnamed .order).bind fun order order' horder => ?_
      refine (hnamed .least).bind fun least least' hleast => ?_
      refine (hnamed .greatest).bind fun greatest greatest' hgreatest => ?_
      subst hoffset hmodulus hdivisor hintercept horder hleast hgreatest
      rw [withDefault_eq hdiffer.first_eq, withDefault_eq hdiffer.second_eq]
      have hitem := follows_weightOfJson hweight (depth + 2) hvalue hother (hread _)
      refine (hitem.mapM before after).bind ?_
      rintro weights weights' ⟨front, first, second, back, hlength, ⟨weight, a, b, hab, rfl, rfl⟩,
        rfl, rfl⟩
      -- what is read before the differing weight has the length of what is written before it
      have hmodify : ∀ declared, (front ++ weight :: back).modify before.length
          (place.declare declared) = front ++ place.declare declared weight :: back := by
        intro declared
        rw [← hlength, List.modify_eq_take_cons_drop (by simp)]
        simp
      refine .ok ⟨{ offset, modulus, divisor, intercept, order, least, greatest,
                    weights := front ++ weight :: back }, a, b, hab, ?_, ?_, ?_⟩
      · have hrank : place.rank < 2 := by cases place <;> decide
        simp only [Position.rank, length_checks, List.length_append, List.length_cons]
        omega
      · simp only [Position.declare, hmodify]
      · simp only [Position.declare, hmodify]

end

end FormulaRecord

end Transliteration
