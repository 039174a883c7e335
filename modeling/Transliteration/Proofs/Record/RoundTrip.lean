import Transliteration.Proofs.Json.Fields
import Transliteration.Record.Json

/-!
# Records that have been written

Exceptions, rules and profiles are read back from what has been written for them (`RoundTrips`),
whatever their texts and their lists are.  So nothing is lost where a record is written that has
been read, and writing it once more makes no difference.

A record leaves out what is absent.  That this loses nothing is because each field is left out just
where its default would be taken: a field that may be absent is left out only if it is, and not if
its text is empty, and exceptions are left out only if there are none.

## Strategy

For each of the three records there is the list of the fields that are written for it, whose names
are some of the record's fields in their order.  What is found for a field is then what the list
holds for it.
-/

namespace Transliteration

namespace Json

/-! ## Reading back -/

variable {α : Type}

/-- The text that is written for a value. -/
def print (style : Style) (toJson : α → Json) (a : α) : List Utf8.Symbol :=
  Utf8.ofText ((toJson a).write style)

/-- The value that is read from a text. -/
def parse (ofJson : Json → Except Fault α) (text : List Utf8.Symbol) : Except Fault α :=
  read text >>= ofJson

/-- Values are read back from what is written for them. -/
structure RoundTrips (style : Style) (toJson : α → Json) (ofJson : Json → Except Fault α) :
    Prop where
  parse_print : ∀ a, parse ofJson (print style toJson a) = .ok a
  /-- Different values are written differently. -/
  print_injective : Function.Injective (print style toJson)
  /-- A value that has been read and written is read as before, and a text that is refused still
  is. -/
  parse_print_parse : ∀ text,
    (parse ofJson text >>= fun a => parse ofJson (print style toJson a)) = parse ofJson text
  /-- A value that has been written and read is written as before. -/
  print_parse_print : ∀ a,
    (parse ofJson (print style toJson a)).map (print style toJson) = .ok (print style toJson a)

theorem roundTrips_of_faithful {style : Style} (hstyle : style.Spaced) {toJson : α → Json}
    {ofJson : Json → Except Fault α} (hfaithful : ∀ a, (toJson a).Faithful)
    (hread : ∀ a, ofJson (toJson a) = .ok a) : RoundTrips style toJson ofJson := by
  have hprint : ∀ a, parse ofJson (print style toJson a) = .ok a := by
    intro a
    rw [parse, print, read_write hstyle (hfaithful a)]
    exact hread a
  refine ⟨hprint, ?_, ?_, ?_⟩
  · intro a b heq
    have hsame := hprint a
    rw [heq, hprint b] at hsame
    exact (Except.ok.inj hsame).symm
  · intro text
    cases parse ofJson text with
    | error fault => rfl
    | ok a => exact hprint a
  · intro a
    rw [hprint a]
    rfl

/-! ## Fields that may be left out -/

theorem mem_presentField {name other : String} {text : Option String} {json : Json} :
    (name, json) ∈ presentField other text ↔ name = other ∧ text.map ofText = some json := by
  cases text <;> simp [presentField, eq_comm]

theorem keys_presentField (name : String) (text : Option String) :
    ((presentField name text).map Prod.fst).Sublist [name] := by
  cases text <;> simp [presentField]

theorem faithful_presentField (name : String) (text : Option String) :
    ∀ field ∈ presentField name text, field.2.Faithful := by
  rintro ⟨other, json⟩ hfield
  obtain ⟨-, hjson⟩ := mem_presentField.mp hfield
  obtain ⟨text, -, rfl⟩ := Option.map_eq_some_iff.mp hjson
  exact faithful_ofText text

namespace Fields

variable {fields : Fields} {name : String}

/-- A text that is left out where it is absent is read back, and is absent where it is left out. -/
theorem optional_text {text : Option String}
    (hget : ∀ json, fields.get? name = some json ↔ text.map ofText = some json) :
    fields.optional name Json.text = .ok text := by
  refine (withDefault_eq_ok_iff hget).mpr ⟨?_, ?_⟩
  · intro json hjson
    obtain ⟨value, rfl, rfl⟩ := Option.map_eq_some_iff.mp hjson
    rfl
  · intro hmissing
    cases text with
    | none => rfl
    | some value => exact absurd rfl (hmissing (ofText value))

theorem required_text {text : String}
    (hget : ∀ json, fields.get? name = some json ↔ json = ofText text) :
    fields.required name Json.text = .ok text :=
  required_eq_ok hget rfl

theorem withDefault_text {default text : String}
    (hget : ∀ json, fields.get? name = some json ↔ json = ofText text) :
    fields.withDefault name default Json.text = .ok text := by
  have hread : Json.text (ofText text) = .ok text := rfl
  exact (withDefault_eq_ok_iff hget).mpr (holds_of_gives_iff (fun _ => Iff.rfl) hread)

section

variable {β : Type} {encode : β → Json} {decode : Json → Except Fault α} {make : β → α}
  {values : List β} (hread : ∀ b ∈ values, decode (encode b) = .ok (make b))

include hread

/-- What is made of a list is made of its values one after another. -/
theorem withDefault_list_map {default : List α}
    (hget : ∀ json, fields.get? name = some json ↔ json = .array (values.map encode)) :
    fields.withDefault name default (list decode) = .ok (values.map make) :=
  (withDefault_eq_ok_iff hget).mpr
    (holds_of_gives_iff (fun _ => Iff.rfl) (mapM_map_eq_ok hread))

/-- So it is of a list that is left out where it is empty. -/
theorem withDefault_nonempty_map
    (hget : ∀ json, fields.get? name = some json ↔
      values ≠ [] ∧ json = .array (values.map encode)) :
    fields.withDefault name [] (list decode) = .ok (values.map make) := by
  refine (withDefault_eq_ok_iff hget).mpr ⟨?_, ?_⟩
  · rintro json ⟨-, rfl⟩
    exact mapM_map_eq_ok hread
  · intro hmissing
    cases values with
    | nil => rfl
    | cons b values => exact absurd ⟨List.cons_ne_nil _ _, rfl⟩ (hmissing _)

end

section

variable {encode : α → Json} {decode : Json → Except Fault α} {values : List α}
  (hread : ∀ a ∈ values, decode (encode a) = .ok a)

include hread

theorem withDefault_list {default : List α}
    (hget : ∀ json, fields.get? name = some json ↔ json = .array (values.map encode)) :
    fields.withDefault name default (list decode) = .ok values := by
  have hvalues : fields.withDefault name default (list decode) = .ok (values.map id) :=
    withDefault_list_map hread hget
  rwa [List.map_id] at hvalues

/-- A list that is left out where it is empty is read back, and is empty where it is left out. -/
theorem withDefault_nonempty
    (hget : ∀ json, fields.get? name = some json ↔
      values ≠ [] ∧ json = .array (values.map encode)) :
    fields.withDefault name [] (list decode) = .ok values := by
  have hvalues : fields.withDefault name [] (list decode) = .ok (values.map id) :=
    withDefault_nonempty_map hread hget
  rwa [List.map_id] at hvalues

end

end Fields

end Json

/-! ## Exceptions -/

namespace ExceptionRecord

/-- The fields that are written for an exception. -/
def written (record : ExceptionRecord) : List (String × Json) :=
  Json.presentField "original" record.span ++ Json.presentField "prefix" record.before ++
    Json.presentField "suffix" record.after ++ [("replacement", .ofText record.replacement)]

theorem toJson_eq (record : ExceptionRecord) : record.toJson = .ofFields record.written := rfl

theorem keys_written (record : ExceptionRecord) :
    (record.written.map Prod.fst).Sublist ["original", "prefix", "suffix", "replacement"] := by
  simp only [written, List.map_append]
  exact (((Json.keys_presentField _ _).append (Json.keys_presentField _ _)).append
    (Json.keys_presentField _ _)).append (.refl _)

theorem toJson_faithful (record : ExceptionRecord) : record.toJson.Faithful := by
  refine Json.faithful_ofFields ?_
  simp only [List.forall_mem_append, List.forall_mem_singleton]
  exact ⟨⟨⟨Json.faithful_presentField _ _, Json.faithful_presentField _ _⟩,
    Json.faithful_presentField _ _⟩, Json.faithful_ofText _⟩

/-- An exception is read back. -/
theorem ofJson_toJson (record : ExceptionRecord) : ofJson record.toJson = .ok record := by
  obtain ⟨found, hfound, hget⟩ := Json.Fields.exists_of_ofFields (by simp) record.keys_written
  have hspan : found.optional "original" Json.text = .ok record.span :=
    Json.Fields.optional_text (by simp [hget, written, Json.mem_presentField])
  have hbefore : found.optional "prefix" Json.text = .ok record.before :=
    Json.Fields.optional_text (by simp [hget, written, Json.mem_presentField])
  have hafter : found.optional "suffix" Json.text = .ok record.after :=
    Json.Fields.optional_text (by simp [hget, written, Json.mem_presentField])
  have hreplacement : found.withDefault "replacement" "" Json.text = .ok record.replacement :=
    Json.Fields.withDefault_text (by simp [hget, written, Json.mem_presentField])
  simp only [ofJson, toJson_eq, hfound, hspan, hbefore, hafter, hreplacement, bind, Except.bind,
    pure, Except.pure]

end ExceptionRecord

/-! ## Rules -/

namespace RuleRecord

/-- The fields that are written for a rule. -/
def written (record : RuleRecord) : List (String × Json) :=
  [("original", .ofText record.main), ("replacement", .ofText record.replacement)] ++
    Json.presentField "prefix" record.before ++ Json.presentField "suffix" record.after ++
    if record.exceptions.isEmpty then []
    else [("exceptions", .array (record.exceptions.map ExceptionRecord.toJson))]

theorem toJson_eq (record : RuleRecord) : record.toJson = .ofFields record.written := rfl

theorem keys_written (record : RuleRecord) :
    (record.written.map Prod.fst).Sublist
      ["original", "replacement", "prefix", "suffix", "exceptions"] := by
  have hexceptions : ((if record.exceptions.isEmpty then []
      else [("exceptions", Json.array (record.exceptions.map ExceptionRecord.toJson))]).map
        Prod.fst).Sublist ["exceptions"] := by
    split
    · exact List.nil_sublist _
    · exact .refl _
  simp only [written, List.map_append]
  have hfirst : (List.map Prod.fst [("original", Json.ofText record.main),
      ("replacement", Json.ofText record.replacement)]).Sublist ["original", "replacement"] :=
    .refl _
  exact ((hfirst.append (Json.keys_presentField _ _)).append (Json.keys_presentField _ _)).append
    hexceptions

theorem toJson_faithful (record : RuleRecord) : record.toJson.Faithful := by
  refine Json.faithful_ofFields ?_
  simp only [List.forall_mem_append, List.forall_mem_cons]
  refine ⟨⟨⟨⟨Json.faithful_ofText _, Json.faithful_ofText _, by simp⟩,
    Json.faithful_presentField _ _⟩, Json.faithful_presentField _ _⟩, ?_⟩
  split
  · simp
  · rw [List.forall_mem_singleton]
    refine .array ?_
    intro item hitem
    obtain ⟨exception, -, rfl⟩ := List.mem_map.mp hitem
    exact exception.toJson_faithful

/-- A rule is read back. -/
theorem ofJson_toJson (record : RuleRecord) : ofJson record.toJson = .ok record := by
  obtain ⟨found, hfound, hget⟩ := Json.Fields.exists_of_ofFields (by simp) record.keys_written
  have hmain : found.required "original" Json.text = .ok record.main :=
    Json.Fields.required_text (by simp [hget, written, Json.mem_presentField])
  have hreplacement : found.withDefault "replacement" "" Json.text = .ok record.replacement :=
    Json.Fields.withDefault_text (by simp [hget, written, Json.mem_presentField])
  have hbefore : found.optional "prefix" Json.text = .ok record.before :=
    Json.Fields.optional_text (by simp [hget, written, Json.mem_presentField])
  have hafter : found.optional "suffix" Json.text = .ok record.after :=
    Json.Fields.optional_text (by simp [hget, written, Json.mem_presentField])
  have hexceptions : found.withDefault "exceptions" [] (Json.list ExceptionRecord.ofJson) =
      .ok record.exceptions :=
    Json.Fields.withDefault_nonempty (fun exception _ => exception.ofJson_toJson)
      (by simp [hget, written, Json.mem_presentField])
  simp only [ofJson, toJson_eq, hfound, hmain, hreplacement, hbefore, hafter, hexceptions, bind,
    Except.bind, pure, Except.pure]

end RuleRecord

/-! ## Profiles -/

namespace ProfileRecord

/-- The fields that are written for a profile. -/
def written (record : ProfileRecord) : List (String × Json) := [
  ("name", .ofText record.name),
  ("transliterations", .array (record.transliterations.map RuleRecord.toJson))]

theorem toJson_eq (record : ProfileRecord) : record.toJson = .ofFields record.written := rfl

theorem toJson_faithful (record : ProfileRecord) : record.toJson.Faithful := by
  refine Json.faithful_ofFields ?_
  simp only [List.forall_mem_cons]
  refine ⟨Json.faithful_ofText _, .array ?_, by simp⟩
  intro item hitem
  obtain ⟨rule, -, rfl⟩ := List.mem_map.mp hitem
  exact rule.toJson_faithful

/-- A profile is read back. -/
theorem ofJson_toJson (record : ProfileRecord) : ofJson record.toJson = .ok record := by
  have hkeys : (record.written.map Prod.fst).Sublist ["name", "transliterations"] := .refl _
  obtain ⟨found, hfound, hget⟩ := Json.Fields.exists_of_ofFields (by simp) hkeys
  have hname : found.required "name" Json.text = .ok record.name :=
    Json.Fields.required_text (by simp [hget, written])
  have hrules : found.withDefault "transliterations" [] (Json.list RuleRecord.ofJson) =
      .ok record.transliterations :=
    Json.Fields.withDefault_list (fun rule _ => rule.ofJson_toJson) (by simp [hget, written])
  simp only [ofJson, toJson_eq, hfound, hname, hrules, bind, Except.bind, pure, Except.pure]

end ProfileRecord

/-! ## All three -/

/-- Exceptions, rules and profiles are read back from what is written for them, in every style that
adds nothing but blanks. -/
theorem records_roundTrip {style : Json.Style} (hstyle : style.Spaced) :
    Json.RoundTrips style ExceptionRecord.toJson ExceptionRecord.ofJson ∧
      Json.RoundTrips style RuleRecord.toJson RuleRecord.ofJson ∧
      Json.RoundTrips style ProfileRecord.toJson ProfileRecord.ofJson :=
  ⟨Json.roundTrips_of_faithful hstyle ExceptionRecord.toJson_faithful ExceptionRecord.ofJson_toJson,
    Json.roundTrips_of_faithful hstyle RuleRecord.toJson_faithful RuleRecord.ofJson_toJson,
    Json.roundTrips_of_faithful hstyle ProfileRecord.toJson_faithful ProfileRecord.ofJson_toJson⟩

/-- An empty condition and a control character are read back from the shortest writing. -/
theorem records_roundTrip_compact :
    let exception : ExceptionRecord := { after := some "" }
    let record : RuleRecord := { main := "\x00", before := some "", exceptions := [exception] }
    Json.Style.compact.Spaced ∧
      record.toJson.write .compact =
        "\x7b\"original\":\"\\u0000\",\"replacement\":\"\",\"prefix\":\"\"," ++
          "\"exceptions\":[\x7b\"suffix\":\"\",\"replacement\":\"\"\x7d]\x7d" ∧
      Json.parse RuleRecord.ofJson (Json.print .compact RuleRecord.toJson record) = .ok record := by
  intro exception record
  have hspaced := Json.Style.compact_spaced
  exact ⟨hspaced, by decide +kernel, (records_roundTrip hspaced).2.1.parse_print record⟩

end Transliteration
