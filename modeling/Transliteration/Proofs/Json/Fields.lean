import Transliteration.Json.Fields
import Transliteration.Proofs.Json.RoundTrip

/-!
# The fields of records

What a value gives for the fields of a record (`Fields.Offers`) is what is found for them when it is
read: the members of an object give fields by their names, and the items of an array by their
places.  A field then holds what is given for it, or its default if nothing is (`Holds`).

So what is written for a record is read back if each of its fields is.  Indices are read back as far
as they have 64 bits, and no others are read at all.

## Strategy

The members of an object are collected in the reverse order, and those of other names are passed
over.  By induction on the members there are two facts about this: what is found for a field
(`lookup_of_ofMembers`), and when there is no fault (`exists_ofMembers_iff`).
-/

namespace Transliteration.Json

/-! ## Faithful values -/

/-- A value that may be absent is faithful if those that are present are. -/
theorem faithful_elim {α : Type} {encode : α → Json} (hencode : ∀ a, (encode a).Faithful)
    (value : Option α) : (value.elim .null encode).Faithful := by
  cases value with
  | none => exact .null
  | some a => exact hencode a

theorem faithful_ofText (value : String) : (ofText value).Faithful := .string (some value)

theorem faithful_ofNat (n : Nat) : (ofNat n).Faithful := .number (wellFormed_digits false n)

/-- An object is faithful if the values in its fields are. -/
theorem faithful_ofFields {fields : List (String × Json)}
    (hfields : ∀ field ∈ fields, field.2.Faithful) : (ofFields fields).Faithful := by
  refine .object ?_
  intro member hmember
  obtain ⟨field, hfield, rfl⟩ := List.mem_map.mp hmember
  exact hfields field hfield

/-! ## The fields that a value gives -/

namespace Fields

/-- No member gives a field that one before it gives. -/
def Unrepeated (names : List String) (members : List (Option String × Json)) : Prop :=
  members.Pairwise fun earlier later =>
    ∀ name ∈ names, earlier.1 = some name → later.1 ≠ some name

/-- What a value gives for fields with these names, if it is a record with such fields.  The members
of an object give fields by their names and the items of an array by their places. -/
inductive Offers (names : List String) : Json → (String → Json → Prop) → Prop
  | object {members : List (Option String × Json)}
      (htexts : ∀ member ∈ members, member.1.isSome) (hunrepeated : Unrepeated names members) :
      Offers names (.object members) fun name value => (some name, value) ∈ members
  | array {items : List Json} (hlength : items.length ≤ names.length) :
      Offers names (.array items) fun name value => (name, value) ∈ names.zip items

section

variable {names : List String} {found given : List (String × Json)}
  {members : List (Option String × Json)}

/-- What has been collected for a field has been given for it, or found before. -/
theorem lookup_of_ofMembers (hread : ofMembers names found members = .ok given) {name : String}
    (hname : name ∈ names) (value : Json) :
    given.lookup name = some value ↔
      found.lookup name = some value ∨ (some name, value) ∈ members := by
  fun_induction ofMembers names found members with
  | case1 found =>
      cases hread
      simp
  | case2 | case3 => cases hread
  | case4 found other otherValue members hother hnew ih =>
      rw [ih hread, List.lookup_cons]
      rw [Option.not_isSome_iff_eq_none] at hnew
      by_cases hsame : name = other
      · subst hsame
        simp [hnew, eq_comm]
      · simp [hsame, beq_false_of_ne hsame]
  | case5 found other otherValue members hother ih =>
      have hdifferent : name ≠ other := by
        rintro rfl
        exact hother hname
      rw [ih hread]
      simp [hdifferent]

theorem lookup_cons_eq_none {name other : String} {value : Json} :
    ((other, value) :: found).lookup name = none ↔ name ≠ other ∧ found.lookup name = none := by
  by_cases hsame : name = other
  · simp [hsame]
  · simp [List.lookup_cons, hsame, beq_false_of_ne hsame]

/-- Members are collected exactly if their names are texts and none of them gives a field that has
been found before. -/
theorem exists_ofMembers_iff :
    (∃ given, ofMembers names found members = .ok given) ↔
      (∀ member ∈ members, member.1.isSome) ∧ Unrepeated names members ∧
        ∀ member ∈ members, ∀ name ∈ names, member.1 = some name → found.lookup name = none := by
  fun_induction ofMembers names found members with
  | case1 found => simp [Unrepeated]
  | case2 found value members => simp
  | case3 found name value members hname hfound =>
      obtain ⟨earlier, hearlier⟩ := Option.isSome_iff_exists.mp hfound
      refine iff_of_false (by simp) ?_
      rintro ⟨-, -, hnew⟩
      have hnone := hnew _ (List.mem_cons_self ..) name hname rfl
      rw [hearlier] at hnone
      cases hnone
  | case4 found name value members hname hnew ih =>
      rw [Option.not_isSome_iff_eq_none] at hnew
      rw [ih, Unrepeated, Unrepeated, List.pairwise_cons]
      simp only [List.forall_mem_cons, lookup_cons_eq_none]
      -- that no later member gives the field again is asked for by either side in its own way
      grind
  | case5 found name value members hname ih =>
      rw [ih, Unrepeated, Unrepeated, List.pairwise_cons]
      simp only [List.forall_mem_cons]
      grind

/-- What stands at the place of a name is found by the name. -/
theorem lookup_zip (hnames : names.Nodup) (items : List Json) (name : String) (value : Json) :
    (names.zip items).lookup name = some value ↔ (name, value) ∈ names.zip items := by
  induction names generalizing items with
  | nil => simp
  | cons first names ih =>
      obtain ⟨hfirst, hnames⟩ := List.nodup_cons.mp hnames
      cases items with
      | nil => simp
      | cons item items =>
          rw [List.zip_cons_cons, List.lookup_cons, List.mem_cons]
          by_cases hsame : name = first
          · subst hsame
            have hother : (name, value) ∉ names.zip items :=
              fun hmem => hfirst (List.of_mem_zip hmem).1
            simp [hother, eq_comm]
          · simpa [hsame, beq_false_of_ne hsame] using ih hnames items

/-- What a value offers for a field is what is found for it. -/
theorem Offers.exists_of_eq_ok (hnames : names.Nodup) {json : Json} {gives : String → Json → Prop}
    (hoffers : Offers names json gives) :
    ∃ fields, Fields.of names json = .ok fields ∧
      ∀ name ∈ names, ∀ value, fields.get? name = some value ↔ gives name value := by
  cases hoffers with
  | object htexts hunrepeated =>
      rename_i members
      obtain ⟨given, hgiven⟩ : ∃ given, ofMembers names [] members = .ok given :=
        exists_ofMembers_iff.mpr ⟨htexts, hunrepeated, by simp⟩
      refine ⟨⟨given, false⟩, by rw [Fields.of, hgiven]; rfl, ?_⟩
      intro name hname value
      rw [get?, lookup_of_ofMembers hgiven hname]
      simp
  | array hlength =>
      rename_i items
      refine ⟨⟨names.zip items, true⟩, if_neg (Nat.not_lt.mpr hlength), ?_⟩
      intro name _ value
      exact lookup_zip hnames items name value

/-- What is read as a record is one. -/
theorem exists_offers_of_of_eq_ok {json : Json} {fields : Fields}
    (hread : Fields.of names json = .ok fields) : ∃ gives, Offers names json gives := by
  cases json with
  | object members =>
      obtain ⟨given, hgiven, -⟩ := exists_of_bind_eq_ok hread
      obtain ⟨htexts, hunrepeated, -⟩ := exists_ofMembers_iff.mp ⟨given, hgiven⟩
      exact ⟨_, .object htexts hunrepeated⟩
  | array items =>
      rw [Fields.of] at hread
      split at hread
      · cases hread
      · next hlength => exact ⟨_, .array (Nat.not_lt.mp hlength)⟩
  | null | bool _ | number _ | string _ => cases hread

/-- What has been written for the fields of a record is what is found for them, if no field has been
written twice. -/
theorem exists_of_ofFields_nodup (hnames : names.Nodup) {fields : List (String × Json)}
    (hfields : (fields.map Prod.fst).Nodup) :
    ∃ found, Fields.of names (ofFields fields) = .ok found ∧
      ∀ name ∈ names, ∀ value, found.get? name = some value ↔ (name, value) ∈ fields := by
  have htexts : ∀ member ∈ fields.map (fun field => (some field.1, field.2)),
      member.1.isSome := by
    intro member hmember
    obtain ⟨field, -, rfl⟩ := List.mem_map.mp hmember
    rfl
  have hunrepeated : Unrepeated names (fields.map fun field => (some field.1, field.2)) := by
    refine List.Pairwise.map _ ?_ (List.pairwise_map.mp hfields)
    rintro earlier later hdifferent name - hearlier hlater
    exact hdifferent (Option.some_inj.mp (hearlier.trans hlater.symm))
  obtain ⟨found, hfound, hget⟩ := (Offers.object htexts hunrepeated).exists_of_eq_ok hnames
  refine ⟨found, hfound, ?_⟩
  intro name hname value
  rw [hget name hname]
  simp

/-- Fields that have been written in their order have not been written twice. -/
theorem exists_of_ofFields (hnames : names.Nodup) {fields : List (String × Json)}
    (hfields : (fields.map Prod.fst).Sublist names) :
    ∃ found, Fields.of names (ofFields fields) = .ok found ∧
      ∀ name ∈ names, ∀ value, found.get? name = some value ↔ (name, value) ∈ fields :=
  exists_of_ofFields_nodup hnames (hnames.sublist hfields)

end

end Fields

/-! ## The kinds of values in fields -/

theorem text_eq_ok_iff {json : Json} {value : String} :
    text json = .ok value ↔ json = ofText value := by
  cases json with
  | string string => cases string <;> simp [text, ofText]
  | null | bool _ | number _ | array _ | object _ => simp [text, ofText]

theorem flag_eq_ok_iff {json : Json} {value : Bool} :
    flag json = .ok value ↔ json = .bool value := by
  cases json <;> simp [flag]

/-- A number that is an index: it is written without sign, point and exponent and has 64 bits. -/
inductive IsIndex : Json → Nat → Prop
  | mk {whole : List Nat} (hwhole : Numeral.ofDigits whole ≤ Numeral.largestIndex) :
      IsIndex (.number { whole }) (Numeral.ofDigits whole)

/-- A number is read as a natural number if it has neither sign nor point nor exponent. -/
theorem integer?_eq_some_iff {literal : NumberLiteral} {n : Nat} :
    literal.integer? = some (n : Int) ↔ IsIndex (.number literal) n := by
  have hlargest : Numeral.largestIndex = NumberLiteral.largestSignificand := rfl
  constructor
  · intro hinteger
    obtain ⟨negative, whole, fraction, exponent⟩ := literal
    simp only [NumberLiteral.integer?, List.isEmpty_iff, Option.isNone_iff_eq_none] at hinteger
    split at hinteger
    · next hplain =>
        obtain ⟨rfl, rfl⟩ := hplain
        cases negative with
        | true =>
            -- a number with a sign is never above zero, and minus zero is no integer
            rw [if_pos rfl] at hinteger
            split at hinteger
            · rw [Option.some_inj] at hinteger
              omega
            · cases hinteger
        | false =>
            rw [if_neg Bool.false_ne_true] at hinteger
            split at hinteger
            · next hle =>
                rw [Option.some_inj, Int.ofNat_inj] at hinteger
                rw [← hinteger]
                exact .mk (hlargest ▸ hle)
            · cases hinteger
    · cases hinteger
  · rintro ⟨hwhole⟩
    simp only [NumberLiteral.integer?]
    rw [if_pos ⟨rfl, rfl⟩, if_neg Bool.false_ne_true, if_pos (hlargest ▸ hwhole)]

theorem index_eq_ok_iff {json : Json} {n : Nat} : index json = .ok n ↔ IsIndex json n := by
  cases json with
  | number literal =>
      rw [← integer?_eq_some_iff, index]
      split
      · next m hinteger =>
          rw [hinteger, Except.ok.injEq, Option.some_inj]
          exact Int.ofNat_inj.symm
      · next hother =>
          refine iff_of_false (by simp) ?_
          exact fun hinteger => hother n hinteger
  | null | bool _ | string _ | array _ | object _ =>
      exact iff_of_false (by simp [index]) nofun

/-- An index that has been written has 64 bits. -/
theorem isIndex_ofNat {n : Nat} (hn : n ≤ Numeral.largestIndex) : IsIndex (ofNat n) n := by
  have hindex : IsIndex (ofNat n) (Numeral.ofDigits (digits n)) :=
    .mk (by rwa [ofDigits_digits])
  rwa [ofDigits_digits] at hindex

theorem IsIndex.le {json : Json} {n : Nat} (hindex : IsIndex json n) :
    n ≤ Numeral.largestIndex := by
  obtain ⟨hwhole⟩ := hindex
  exact hwhole

/-- A value that may be absent is null if it is, and otherwise is given as it is meant. -/
def OrNull {α : Type} (means : Json → α → Prop) (json : Json) (value : Option α) : Prop :=
  value.elim (json = .null) (means json)

theorem orNull_elim {α : Type} {means : Json → α → Prop} {encode : α → Json} {value : Option α}
    (hmeans : ∀ a ∈ value, means (encode a) a) :
    OrNull means (value.elim .null encode) value := by
  cases value with
  | none => rfl
  | some a => exact hmeans a rfl

theorem nullable_eq_ok_iff {α : Type} {decode : Json → Except Fault α}
    (hnull : ∀ a, decode .null ≠ .ok a) {json : Json} {value : Option α} :
    Fields.nullable decode json = .ok value ↔ OrNull (decode · = .ok ·) json value := by
  rw [Fields.nullable.eq_def]
  split
  · cases value with
    | none => simp [OrNull]
    | some a => simpa [OrNull] using hnull a
  · next hpresent =>
      cases value with
      | none =>
          -- a value that is there is never read as missing
          refine iff_of_false ?_ hpresent
          intro hread
          obtain ⟨a, -, hsome⟩ := exists_of_bind_eq_ok hread
          cases hsome
      | some a =>
          constructor
          · intro hread
            obtain ⟨_, hdecode, hsome⟩ := exists_of_bind_eq_ok hread
            cases hsome
            exact hdecode
          · intro hdecode
            rw [show decode json = .ok a from hdecode]
            rfl

/-- What is made of values one after another is what is made of each. -/
theorem mapM_map_eq_ok {ε α β γ : Type} {encode : β → α} {decode : α → Except ε γ} {make : β → γ}
    {values : List β} (hread : ∀ b ∈ values, decode (encode b) = .ok (make b)) :
    (values.map encode).mapM decode = .ok (values.map make) := by
  induction values with
  | nil => rfl
  | cons b values ih =>
      rw [List.forall_mem_cons] at hread
      rw [List.map_cons, List.mapM_cons, hread.1, ih hread.2]
      rfl

/-! ## What fields hold -/

/-- What a field holds: whatever is given for it stands for the value, and if nothing is given the
value is the default. -/
structure Holds {α : Type} (gives : Json → Prop) (means : Json → α → Prop) (default value : α) :
    Prop where
  means_of_gives : ∀ json, gives json → means json value
  eq_default : (∀ json, ¬ gives json) → value = default

/-- A field holds the one value that is given for it. -/
theorem holds_of_gives_iff {α : Type} {gives : Json → Prop} {means : Json → α → Prop} {json : Json}
    {default value : α} (hgives : ∀ other, gives other ↔ other = json) (hmeans : means json value) :
    Holds gives means default value where
  means_of_gives := by
    intro other hother
    rwa [(hgives other).mp hother]
  eq_default := fun hmissing => absurd ((hgives json).mpr rfl) (hmissing json)

namespace Fields

variable {α : Type} {fields : Fields} {name : String} {decode : Json → Except Fault α}
  {gives : Json → Prop}

theorem withDefault_eq_ok_iff (hget : ∀ json, fields.get? name = some json ↔ gives json)
    {default value : α} :
    fields.withDefault name default decode = .ok value ↔
      Holds gives (decode · = .ok ·) default value := by
  rw [withDefault]
  cases hfound : fields.get? name with
  | none =>
      -- either no value is given at all, or the one that is found is the only one
      have hmissing : ∀ json, ¬ gives json := by
        intro json hgives
        rw [(hget json).mpr hgives] at hfound
        cases hfound
      constructor
      · intro hdefault
        cases hdefault
        exact ⟨fun json hgives => absurd hgives (hmissing json), fun _ => rfl⟩
      · intro hholds
        rw [hholds.eq_default hmissing]
  | some json =>
      have hgives : gives json := (hget json).mp hfound
      constructor
      · intro hread
        refine ⟨?_, fun hmissing => absurd hgives (hmissing json)⟩
        intro other hother
        rw [← hget, hfound, Option.some_inj] at hother
        exact hother ▸ hread
      · intro hholds
        exact hholds.means_of_gives json hgives

/-- A field that has a default is read if nothing is given for it or what is given is. -/
theorem exists_withDefault (hget : ∀ json, fields.get? name = some json ↔ gives json) {default : α}
    (hread : ∀ json, gives json → ∃ value, decode json = .ok value) :
    ∃ value, fields.withDefault name default decode = .ok value := by
  rw [withDefault]
  cases hfound : fields.get? name with
  | none => exact ⟨default, rfl⟩
  | some json => exact hread json ((hget json).mp hfound)

theorem required_eq_ok (hget : ∀ json, fields.get? name = some json ↔ gives json) {json : Json}
    (hgives : gives json) : fields.required name decode = decode json := by
  rw [required, (hget json).mpr hgives]

end Fields

end Transliteration.Json
