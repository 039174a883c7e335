import Transliteration.Proofs.Json.Fields
import Transliteration.Proofs.Text.Decoding
import Transliteration.Settings

/-!
# Settings in a file

What is given for a field is what the settings hold, and a field for which nothing is given has its
default (`DescribedBy`).  A file that does not describe settings in this way, in one of its fields
or altogether, leaves the standard settings: nothing is taken over from it.

Settings are read back from the file to which they have been saved, whatever the texts in them are.
The one condition is on the index of the profile: a number in a file has 64 bits.  It is no
condition on settings that have been read from a file themselves.

## Strategy

Reading is turned into what the document says (`ofJson_eq_ok_iff_describedBy`), with one equivalence
for the record and one for each field.  Everything else follows from that.
-/

namespace Transliteration.Settings

open Json (Holds OrNull IsIndex)

/-! ## What a document says -/

/-- The names of the fields, in their order. -/
def fieldNames : List String := ["show_errors", "rules_path", "language", "profile"]

/-- A value is of the type of the field with a name, if there is one. -/
structure OfItsType (name : String) (json : Json) : Prop where
  showErrors : name = "show_errors" → ∃ flag, json = .bool flag
  rulesPath : name = "rules_path" → ∃ text, json = .ofText text
  language : name = "language" → json = .null ∨ ∃ text, json = .ofText text
  profile : name = "profile" → json = .null ∨ ∃ n, IsIndex json n

/-- Settings as they are described by what is given for their fields. -/
structure DescribedBy (settings : Settings) (gives : String → Json → Prop) : Prop where
  showErrors : Holds (gives "show_errors") (fun json flag => json = .bool flag) true
    settings.showErrors
  rulesPath : Holds (gives "rules_path") (fun json text => json = .ofText text)
    "data/languages.json" settings.rulesPath
  language : Holds (gives "language") (OrNull fun json text => json = .ofText text) none
    settings.language
  profile : Holds (gives "profile") (OrNull IsIndex) none settings.profile

section

variable {json : Json} {fields : Json.Fields} {gives : String → Json → Prop}

theorem ofJson_eq_ok (hfields : Json.Fields.of fieldNames json = .ok fields) {settings : Settings}
    (hshow : fields.withDefault "show_errors" true Json.flag = .ok settings.showErrors)
    (hpath : fields.withDefault "rules_path" "data/languages.json" Json.text =
      .ok settings.rulesPath)
    (hlanguage : fields.optional "language" Json.text = .ok settings.language)
    (hprofile : fields.optional "profile" Json.index = .ok settings.profile) :
    ofJson json = .ok settings := by
  rw [fieldNames] at hfields
  simp only [ofJson, hfields, hshow, hpath, hlanguage, hprofile, bind, Except.bind, pure,
    Except.pure]

variable (hget : ∀ name ∈ fieldNames, ∀ value, fields.get? name = some value ↔ gives name value)

include hget

theorem showErrors_eq_ok_iff {flag : Bool} :
    fields.withDefault "show_errors" true Json.flag = .ok flag ↔
      Holds (gives "show_errors") (fun json flag => json = .bool flag) true flag := by
  rw [Json.Fields.withDefault_eq_ok_iff (hget _ (by simp [fieldNames]))]
  simp only [Json.flag_eq_ok_iff]

theorem rulesPath_eq_ok_iff {path : String} :
    fields.withDefault "rules_path" "data/languages.json" Json.text = .ok path ↔
      Holds (gives "rules_path") (fun json text => json = .ofText text) "data/languages.json"
        path := by
  rw [Json.Fields.withDefault_eq_ok_iff (hget _ (by simp [fieldNames]))]
  simp only [Json.text_eq_ok_iff]

theorem language_eq_ok_iff {language : Option String} :
    fields.optional "language" Json.text = .ok language ↔
      Holds (gives "language") (OrNull fun json text => json = .ofText text) none language := by
  have hnull : ∀ text, Json.text .null ≠ .ok text := nofun
  rw [Json.Fields.optional, Json.Fields.withDefault_eq_ok_iff (hget _ (by simp [fieldNames]))]
  simp only [Json.nullable_eq_ok_iff hnull, Json.text_eq_ok_iff]

theorem profile_eq_ok_iff {profile : Option Nat} :
    fields.optional "profile" Json.index = .ok profile ↔
      Holds (gives "profile") (OrNull IsIndex) none profile := by
  have hnull : ∀ n, Json.index .null ≠ .ok n := nofun
  rw [Json.Fields.optional, Json.Fields.withDefault_eq_ok_iff (hget _ (by simp [fieldNames]))]
  simp only [Json.nullable_eq_ok_iff hnull, Json.index_eq_ok_iff]

/-- Settings are read from fields as they are described by them. -/
theorem ofJson_eq_ok_iff_describedBy (hfields : Json.Fields.of fieldNames json = .ok fields)
    {settings : Settings} : ofJson json = .ok settings ↔ settings.DescribedBy gives := by
  constructor
  · intro hread
    obtain ⟨found, hfound, hread⟩ := exists_of_bind_eq_ok hread
    obtain rfl : fields = found := Except.ok.inj (hfields.symm.trans hfound)
    obtain ⟨showErrors, hshow, hread⟩ := exists_of_bind_eq_ok hread
    obtain ⟨rulesPath, hpath, hread⟩ := exists_of_bind_eq_ok hread
    obtain ⟨language, hlanguage, hread⟩ := exists_of_bind_eq_ok hread
    obtain ⟨profile, hprofile, hread⟩ := exists_of_bind_eq_ok hread
    cases hread
    exact ⟨(showErrors_eq_ok_iff hget).mp hshow, (rulesPath_eq_ok_iff hget).mp hpath,
      (language_eq_ok_iff hget).mp hlanguage, (profile_eq_ok_iff hget).mp hprofile⟩
  · rintro ⟨hshow, hpath, hlanguage, hprofile⟩
    exact ofJson_eq_ok hfields ((showErrors_eq_ok_iff hget).mpr hshow)
      ((rulesPath_eq_ok_iff hget).mpr hpath) ((language_eq_ok_iff hget).mpr hlanguage)
      ((profile_eq_ok_iff hget).mpr hprofile)

/-- Settings are read if whatever is given for a field is of its type. -/
theorem exists_ofJson (hfields : Json.Fields.of fieldNames json = .ok fields)
    (htypes : ∀ name value, gives name value → OfItsType name value) :
    ∃ settings, ofJson json = .ok settings := by
  -- each field is read from its default or from a value of its type
  obtain ⟨showErrors, hshow⟩ :
      ∃ flag, fields.withDefault "show_errors" true Json.flag = .ok flag := by
    refine Json.Fields.exists_withDefault (hget _ (by simp [fieldNames])) ?_
    intro json hgives
    obtain ⟨flag, rfl⟩ := (htypes _ json hgives).showErrors rfl
    exact ⟨flag, rfl⟩
  obtain ⟨rulesPath, hpath⟩ :
      ∃ path, fields.withDefault "rules_path" "data/languages.json" Json.text = .ok path := by
    refine Json.Fields.exists_withDefault (hget _ (by simp [fieldNames])) ?_
    intro json hgives
    obtain ⟨path, rfl⟩ := (htypes _ json hgives).rulesPath rfl
    exact ⟨path, rfl⟩
  obtain ⟨language, hlanguage⟩ :
      ∃ language, fields.optional "language" Json.text = .ok language := by
    refine Json.Fields.exists_withDefault (hget _ (by simp [fieldNames])) ?_
    intro json hgives
    rcases (htypes _ json hgives).language rfl with rfl | ⟨language, rfl⟩
    · exact ⟨none, rfl⟩
    · exact ⟨some language, rfl⟩
  obtain ⟨profile, hprofile⟩ : ∃ profile, fields.optional "profile" Json.index = .ok profile := by
    refine Json.Fields.exists_withDefault (hget _ (by simp [fieldNames])) ?_
    intro json hgives
    rcases (htypes _ json hgives).profile rfl with rfl | ⟨n, hindex⟩
    · exact ⟨none, rfl⟩
    · have hnull : ∀ n, Json.index .null ≠ .ok n := nofun
      exact ⟨some n, (Json.nullable_eq_ok_iff hnull).mpr (Json.index_eq_ok_iff.mpr hindex)⟩
  exact ⟨⟨showErrors, rulesPath, language, profile⟩,
    ofJson_eq_ok hfields hshow hpath hlanguage hprofile⟩

end

/-- What describes settings is of the types of their fields. -/
theorem DescribedBy.ofItsType {settings : Settings} {gives : String → Json → Prop}
    (hsettings : settings.DescribedBy gives) {name : String} {json : Json}
    (hgives : gives name json) : OfItsType name json where
  showErrors := by
    rintro rfl
    exact ⟨_, hsettings.showErrors.means_of_gives json hgives⟩
  rulesPath := by
    rintro rfl
    exact ⟨_, hsettings.rulesPath.means_of_gives json hgives⟩
  language := by
    rintro rfl
    have hmeans := hsettings.language.means_of_gives json hgives
    cases hlanguage : settings.language with
    | none => exact .inl (by rwa [hlanguage] at hmeans)
    | some language => exact .inr ⟨language, by rwa [hlanguage] at hmeans⟩
  profile := by
    rintro rfl
    have hmeans := hsettings.profile.means_of_gives json hgives
    cases hprofile : settings.profile with
    | none => exact .inl (by rwa [hprofile] at hmeans)
    | some n => exact .inr ⟨n, by rwa [hprofile] at hmeans⟩

theorem nodup_fieldNames : fieldNames.Nodup := by decide

/-- What is read from JSON are settings that a record describes. -/
theorem describedBy_of_ofJson {json : Json} {settings : Settings}
    (hread : ofJson json = .ok settings) :
    ∃ gives, Json.Fields.Offers fieldNames json gives ∧ settings.DescribedBy gives := by
  obtain ⟨fields, hfields, -⟩ := exists_of_bind_eq_ok hread
  obtain ⟨gives, hoffers⟩ := Json.Fields.exists_offers_of_of_eq_ok hfields
  obtain ⟨fields, hfields, hget⟩ := hoffers.exists_of_eq_ok nodup_fieldNames
  exact ⟨gives, hoffers, (ofJson_eq_ok_iff_describedBy hget hfields).mp hread⟩

/-! ## Saving -/

/-- What is written for the fields. -/
def written (settings : Settings) : List (String × Json) := [
  ("show_errors", .bool settings.showErrors),
  ("rules_path", .ofText settings.rulesPath),
  ("language", settings.language.elim .null Json.ofText),
  ("profile", settings.profile.elim .null Json.ofNat)]

theorem toJson_faithful (settings : Settings) : settings.toJson.Faithful := by
  refine Json.faithful_ofFields ?_
  simp only [List.forall_mem_cons]
  refine ⟨.bool _, Json.faithful_ofText _, ?_, ?_, ?_⟩
  · exact Json.faithful_elim Json.faithful_ofText settings.language
  · exact Json.faithful_elim Json.faithful_ofNat settings.profile
  · intro field hfield
    cases hfield

/-- Settings are described by what is written for their fields if the index of their profile has
64 bits. -/
theorem describedBy_written {settings : Settings}
    (hprofile : ∀ index ∈ settings.profile, index ≤ Numeral.largestIndex) :
    settings.DescribedBy fun name json => (name, json) ∈ settings.written where
  showErrors := Json.holds_of_gives_iff (by simp [written]) rfl
  rulesPath := Json.holds_of_gives_iff (by simp [written]) rfl
  language := Json.holds_of_gives_iff (by simp [written]) (Json.orNull_elim fun _ _ => rfl)
  profile := Json.holds_of_gives_iff (by simp [written])
    (Json.orNull_elim fun index hindex => Json.isIndex_ofNat (hprofile index hindex))

/-- Settings are read back from JSON if the index of their profile has 64 bits. -/
theorem ofJson_toJson {settings : Settings}
    (hprofile : ∀ index ∈ settings.profile, index ≤ Numeral.largestIndex) :
    ofJson settings.toJson = .ok settings := by
  have hnames : (settings.written.map Prod.fst).Sublist fieldNames := .refl _
  obtain ⟨found, hfound, hget⟩ := Json.Fields.exists_of_ofFields nodup_fieldNames hnames
  exact (ofJson_eq_ok_iff_describedBy hget hfound).mpr (describedBy_written hprofile)

theorem ofText_toText {settings : Settings}
    (hprofile : ∀ index ∈ settings.profile, index ≤ Numeral.largestIndex) :
    ofText settings.toText = .ok settings := by
  rw [ofText, toText, Json.read_write Json.Style.indented_spaced settings.toJson_faithful]
  exact ofJson_toJson hprofile

/-! ## Reading a file -/

section

variable {text : List Char} {settings : Settings}

/-- The settings in a file are those in its text. -/
theorem ofFile_encode (htext : ofText (String.ofList text) = .ok settings) :
    ofFile (.bytes (Utf8.encode text)) = pure settings := by
  rw [ofFile, Utf8.decode?_encode]
  simp only [htext]

/-- A text that holds no settings is worth a warning. -/
theorem ofFile_encode_error {fault : Json.Fault}
    (htext : ofText (String.ofList text) = .error fault) :
    ofFile (.bytes (Utf8.encode text)) = ⟨{}, [defaultsUsed fault]⟩ := by
  rw [ofFile, Utf8.decode?_encode]
  simp only [htext]

/-- Settings are read from a text as they are described by the document that it spells. -/
theorem describedBy_of_ofText (htext : ofText (String.ofList text) = .ok settings) :
    ∃ json gives, Json.SpellsDocument (text.map some) json ∧
      Json.Fields.Offers fieldNames json gives ∧ settings.DescribedBy gives := by
  obtain ⟨json, hjson, hread⟩ := exists_of_bind_eq_ok htext
  rw [Json.read_eq_ok_iff, Utf8.ofText, String.toList_ofList] at hjson
  obtain ⟨gives, hoffers, hdescribed⟩ := describedBy_of_ofJson hread
  exact ⟨json, gives, hjson, hoffers, hdescribed⟩

/-- Settings are read from a text that spells a record, if what it gives is of the types of the
fields. -/
theorem exists_ofText {json : Json} {gives : String → Json → Prop}
    (hjson : Json.SpellsDocument (text.map some) json)
    (hoffers : Json.Fields.Offers fieldNames json gives)
    (htypes : ∀ name value, gives name value → OfItsType name value) :
    ∃ settings, ofText (String.ofList text) = .ok settings ∧ settings.DescribedBy gives := by
  obtain ⟨fields, hfields, hget⟩ := hoffers.exists_of_eq_ok nodup_fieldNames
  obtain ⟨settings, hsettings⟩ := exists_ofJson hget hfields htypes
  refine ⟨settings, ?_, (ofJson_eq_ok_iff_describedBy hget hfields).mp hsettings⟩
  rw [ofText, Utf8.ofText, String.toList_ofList, Json.read_eq_ok_iff.mpr hjson]
  exact hsettings

end

/-- Settings are read back from the file to which they have been saved. -/
theorem ofFile_toFile {settings : Settings}
    (hprofile : ∀ index ∈ settings.profile, index ≤ Numeral.largestIndex) :
    ofFile settings.toFile = pure settings := by
  refine ofFile_encode ?_
  rw [String.ofList_toList]
  exact ofText_toText hprofile

/-- The index of a profile that a document describes has 64 bits. -/
theorem DescribedBy.profile_le {settings : Settings} {gives : String → Json → Prop}
    (hsettings : settings.DescribedBy gives) :
    ∀ index ∈ settings.profile, index ≤ Numeral.largestIndex := by
  intro index hindex
  by_cases hgiven : ∃ json, gives "profile" json
  · obtain ⟨json, hgives⟩ := hgiven
    have hmeans := hsettings.profile.means_of_gives json hgives
    rw [hindex] at hmeans
    exact Json.IsIndex.le hmeans
  · have hnone := hsettings.profile.eq_default fun json hgives => hgiven ⟨json, hgives⟩
    rw [hnone] at hindex
    cases hindex

/-- The index of the profile in a file has 64 bits. -/
theorem profile_le_of_ofFile (content : FileContent) :
    ∀ index ∈ (ofFile content).value.profile, index ≤ Numeral.largestIndex := by
  have hstandard : ∀ index ∈ ({} : Settings).profile, index ≤ Numeral.largestIndex := by
    simp
  unfold ofFile
  split
  · split
    · exact hstandard
    · split
      · rename_i settings htext
        obtain ⟨json, -, hjson⟩ := exists_of_bind_eq_ok htext
        obtain ⟨gives, -, hdescribed⟩ := describedBy_of_ofJson hjson
        exact hdescribed.profile_le
      · exact hstandard
  · exact hstandard

/-- What the file of the settings holds.

Settings are read back from the file to which they have been saved.  A document that is a record
gives values for some of the fields, and if these are of the types of the fields, the settings are
those values and the defaults of the other fields.  Any other file leaves the standard settings, and
a warning if it is a text. -/
theorem file_holds_settings :
    (∀ settings : Settings, (∀ index ∈ settings.profile, index ≤ Numeral.largestIndex) →
      ofFile settings.toFile = pure settings) ∧
    (∀ (text : List Char) (json : Json) (gives : String → Json → Prop),
      Json.SpellsDocument (text.map some) json → Json.Fields.Offers fieldNames json gives →
      (∀ name value, gives name value → OfItsType name value) →
      ∃ settings, ofFile (.bytes (Utf8.encode text)) = pure settings ∧
        settings.DescribedBy gives) ∧
    (∀ (text : List Char) (json : Json), Json.SpellsDocument (text.map some) json →
      (∀ gives, Json.Fields.Offers fieldNames json gives →
        ∃ name value, gives name value ∧ ¬ OfItsType name value) →
      ∃ fault, ofFile (.bytes (Utf8.encode text)) = ⟨{}, [defaultsUsed fault]⟩) ∧
    (∀ text : List Char, (∀ json, ¬ Json.SpellsDocument (text.map some) json) →
      ∃ fault, ofFile (.bytes (Utf8.encode text)) = ⟨{}, [defaultsUsed fault]⟩) ∧
    (∀ content : List UInt8, (∀ text, Utf8.encode text ≠ content) →
      ofFile (.bytes content) = pure {}) ∧
    ∀ file : FileContent, (∀ content, file ≠ .bytes content) → ofFile file = pure {} := by
  refine ⟨fun settings hprofile => ofFile_toFile hprofile, ?_, ?_, ?_, ?_, ?_⟩
  · intro text json gives hjson hoffers htypes
    obtain ⟨settings, htext, hdescribed⟩ := exists_ofText hjson hoffers htypes
    exact ⟨settings, ofFile_encode htext, hdescribed⟩
  · intro text json hjson hwrong
    cases htext : ofText (String.ofList text) with
    | error fault => exact ⟨fault, ofFile_encode_error htext⟩
    | ok settings =>
        -- what describes the settings is of the right types, and the text spells nothing else
        obtain ⟨other, gives, hother, hoffers, hdescribed⟩ := describedBy_of_ofText htext
        obtain rfl := hjson.value_unique hother
        obtain ⟨name, value, hgives, htype⟩ := hwrong gives hoffers
        exact absurd (hdescribed.ofItsType hgives) htype
  · intro text hnone
    cases htext : ofText (String.ofList text) with
    | error fault => exact ⟨fault, ofFile_encode_error htext⟩
    | ok settings =>
        obtain ⟨json, gives, hjson, -, -⟩ := describedBy_of_ofText htext
        exact absurd hjson (hnone json)
  · intro content hnone
    have hdecode : Utf8.decode? content = none := by
      rw [Option.eq_none_iff_forall_ne_some]
      intro text htext
      exact hnone text.toList (Utf8.decode?_eq_some_iff.mp htext).symm
    rw [ofFile, hdecode]
  · intro file hfile
    cases file with
    | bytes content => exact absurd rfl (hfile content)
    | missing reason => rfl
    | unreadable reason => rfl

end Transliteration.Settings
