import Transliteration.Document
import Transliteration.Proofs.Log
import Transliteration.Proofs.Record.Building
import Transliteration.Proofs.Registry.Catalogue

/-!
# The languages of a document

A document may declare a language more than once, and formulas with malformed numbers.  Every
language is registered where its name occurs for the first time, with those of its formulas that can
be made; whatever is left out leads to one error.

## Strategy

What becomes of a language depends on the names before it and on nothing else, so a document is
looked at as a list of languages, each with the names before it (`RuleDocument.entries`).  Languages
are registered one after another, and the induction is on the document from its end: the last
language has all others before it (`entries_append`), and its name is registered already exactly if
one of them has it (`mem_names_firstOccurrences`).
-/

namespace Transliteration

/-! ## Formulas that cannot be made -/

/-- If there is no result, it is because of a number of this language. -/
def LacksNumber {α : Type} (language : String) (result : Except Error α) : Prop :=
  ∀ error, result = .error error → ∃ field value, error = .badNumber language field value

namespace LacksNumber

variable {α β : Type} {language : String}

theorem ok (a : α) : LacksNumber language (.ok a) := by
  intro error herror
  cases herror

theorem error (field value : String) :
    LacksNumber language (.error (.badNumber language field value) : Except Error α) := by
  intro error herror
  cases herror
  exact ⟨field, value, rfl⟩

theorem bind {first : Except Error α} {next : α → Except Error β}
    (hfirst : LacksNumber language first) (hnext : ∀ a, LacksNumber language (next a)) :
    LacksNumber language (first >>= next) := by
  cases first with
  | ok a => exact hnext a
  | error fault =>
      intro error herror
      cases herror
      exact hfirst fault rfl

theorem mapM {make : α → Except Error β} (hmake : ∀ a, LacksNumber language (make a))
    (declared : List α) : LacksNumber language (declared.mapM make) := by
  induction declared with
  | nil => exact ok []
  | cons a declared ih =>
      rw [List.mapM_cons]
      exact bind (hmake a) fun b => bind ih fun bs => ok (b :: bs)

end LacksNumber

namespace FormulaRecord

variable (language field : String) (declared : Option NumberField)

theorem lacksNumber_number : LacksNumber language (number language field declared) := by
  unfold number
  split
  · exact .error field ""
  · split
    · exact .ok _
    · exact .error field _

theorem lacksNumber_nonZero : LacksNumber language (nonZero language field declared) := by
  refine (lacksNumber_number language field declared).bind fun value => ?_
  split
  · exact .error field "0"
  · exact .ok value

theorem lacksNumber_earlierIndex : LacksNumber language (earlierIndex language declared) := by
  refine (lacksNumber_number language "prev_factors.index" declared).bind fun value => ?_
  split
  · exact .ok _
  · exact .error "prev_factors.index" _

theorem lacksNumber_weight (record : WeightRecord) :
    LacksNumber language (weight language record) := by
  refine (lacksNumber_earlierIndex language record.index).bind fun index => ?_
  exact (lacksNumber_number language _ record.weight).bind fun weight => .ok (index, weight)

/-- A formula that cannot be made lacks a number, and the error names its language. -/
theorem lacksNumber_toFormula (record : FormulaRecord) :
    LacksNumber language (record.toFormula language) := by
  unfold toFormula
  refine (lacksNumber_number language _ record.offset).bind fun offset => ?_
  refine (lacksNumber_nonZero language _ record.modulus).bind fun modulus => ?_
  refine (lacksNumber_nonZero language _ record.divisor).bind fun divisor => ?_
  refine (lacksNumber_number language _ record.intercept).bind fun intercept => ?_
  refine (lacksNumber_number language _ record.order).bind fun order => ?_
  refine (lacksNumber_number language _ record.least).bind fun least => ?_
  refine (lacksNumber_number language _ record.greatest).bind fun greatest => ?_
  exact (LacksNumber.mapM (lacksNumber_weight language) record.weights).bind fun weights => .ok _

end FormulaRecord

/-! ## One language -/

namespace LanguageDocument

/-- The formulas of a language that can be made. -/
def madeFormulas (language : LanguageDocument) : List Formula :=
  language.formulas.filterMap fun record => (record.toFormula language.name).toOption

/-- The errors of the formulas of a language that cannot be made. -/
def formulaErrors (language : LanguageDocument) : List Error :=
  language.formulas.filterMap fun record => failure? (record.toFormula language.name)

/-- The language without the formulas that cannot be made. -/
def valid (language : LanguageDocument) : LanguageDocument :=
  { language with
    formulas := language.formulas.filter fun record =>
      (failure? (record.toFormula language.name)).isNone }

/-- The rule set of a language as it is created. -/
def created (language : LanguageDocument) : RuleSet where
  iso := language.iso
  name := language.name

/-- The rules of a language as they are put off. -/
def deferral (language : LanguageDocument) : Option LanguageRules :=
  LanguageRules.deferral
    { transcriptions := language.transcriptions
      profiles := language.profiles
      formulas := language.madeFormulas }

/-- The language as it is registered. -/
def registered (language : LanguageDocument) : RegisteredLanguage where
  rules := language.created
  deferred := language.deferral

/-- The rules of a language as they stand among those that are put off. -/
def namedRules? (language : LanguageDocument) : Option (String × LanguageRules) :=
  language.deferral.map fun rules => (language.name, rules)

theorem validFormulas_eq (language : LanguageDocument) :
    language.validFormulas = (language.madeFormulas, language.formulaErrors) := by
  unfold validFormulas madeFormulas formulaErrors
  induction language.formulas with
  | nil => rfl
  | cons record records ih =>
      rw [List.foldr_cons, ih, List.filterMap_cons, List.filterMap_cons]
      cases record.toFormula language.name with
      | ok formula => rfl
      | error error => rfl

theorem rules_eq (language : LanguageDocument) :
    language.rules = ⟨language.transcriptions, language.profiles, language.madeFormulas⟩ := by
  rw [rules, validFormulas_eq]

theorem formulaErrors_valid (language : LanguageDocument) : language.valid.formulaErrors = [] := by
  rw [formulaErrors, List.filterMap_eq_nil_iff]
  intro record hrecord
  simpa [valid] using (List.mem_filter.mp hrecord).2

theorem madeFormulas_valid (language : LanguageDocument) :
    language.valid.madeFormulas = language.madeFormulas := by
  rw [madeFormulas, valid, List.filterMap_filter]
  refine List.filterMap_congr fun record _ => ?_
  cases record.toFormula language.name with
  | ok formula => rfl
  | error error => rfl

theorem namedRules?_valid (language : LanguageDocument) :
    language.valid.namedRules? = language.namedRules? := by
  rw [namedRules?, deferral, madeFormulas_valid]
  rfl

end LanguageDocument

/-! ## The languages of a document -/

namespace RuleDocument

/-- The languages of a document, each with the names of those before it. -/
def entries (document : RuleDocument) : List (List String × LanguageDocument) :=
  document.languages.zipIdx.map fun (language, index) =>
    ((document.languages.take index).map LanguageDocument.name, language)

/-- The languages whose names have not occurred before. -/
def firstOccurrences (document : RuleDocument) : List LanguageDocument :=
  (document.entries.filter fun (earlier, language) => language.name ∉ earlier).map Prod.snd

/-- The errors of a document: those of the formulas of a language come before the one about its
name. -/
def errors (document : RuleDocument) : List Error :=
  document.entries.flatMap fun (earlier, language) =>
    language.formulaErrors ++
      if language.name ∈ earlier then [.duplicateLanguage language.name] else []

/-- The document without the formulas that cannot be made, and without languages whose names have
occurred before. -/
def valid (document : RuleDocument) : RuleDocument :=
  ⟨document.firstOccurrences.map LanguageDocument.valid⟩

variable (languages : List LanguageDocument) (last : LanguageDocument)

/-- The last language has all others before it, and makes no difference to them. -/
theorem entries_append :
    entries ⟨languages ++ [last]⟩ =
      entries ⟨languages⟩ ++ [(languages.map LanguageDocument.name, last)] := by
  simp only [entries, List.zipIdx_append, List.map_append]
  congr 1
  · refine List.map_congr_left fun ⟨language, index⟩ hmem => ?_
    have hindex := List.snd_lt_of_mem_zipIdx hmem
    rw [List.take_append_of_le_length (by omega)]
  · simp

theorem firstOccurrences_append :
    firstOccurrences ⟨languages ++ [last]⟩ = firstOccurrences ⟨languages⟩ ++
      if last.name ∈ languages.map LanguageDocument.name then [] else [last] := by
  by_cases hname : last.name ∈ languages.map LanguageDocument.name
  · simp [firstOccurrences, entries_append, hname]
  · simp [firstOccurrences, entries_append, hname]

theorem errors_append :
    errors ⟨languages ++ [last]⟩ = errors ⟨languages⟩ ++ (last.formulaErrors ++
      if last.name ∈ languages.map LanguageDocument.name then [.duplicateLanguage last.name]
      else []) := by
  rw [errors, entries_append, List.flatMap_append, List.flatMap_singleton, errors]

/-- A name occurs for the first time where it occurs at all. -/
theorem mem_names_firstOccurrences {name : String} :
    name ∈ (firstOccurrences ⟨languages⟩).map LanguageDocument.name ↔
      name ∈ languages.map LanguageDocument.name := by
  induction languages using List.reverseRecOn with
  | nil => rfl
  | append_singleton languages last ih =>
      rw [firstOccurrences_append]
      by_cases hlast : last.name ∈ languages.map LanguageDocument.name
      · rw [if_pos hlast, List.append_nil, ih, List.map_append, List.mem_append]
        refine ⟨.inl, fun hname => hname.elim id fun hname => ?_⟩
        rw [List.mem_singleton.mp hname]
        exact hlast
      · rw [if_neg hlast, List.map_append, List.map_append, List.mem_append, List.mem_append, ih]

/-- No name occurs twice for the first time. -/
theorem nodup_firstOccurrences :
    ((firstOccurrences ⟨languages⟩).map LanguageDocument.name).Nodup := by
  induction languages using List.reverseRecOn with
  | nil => exact .nil
  | append_singleton languages last ih =>
      rw [firstOccurrences_append]
      by_cases hlast : last.name ∈ languages.map LanguageDocument.name
      · rw [if_pos hlast, List.append_nil]
        exact ih
      · rw [if_neg hlast, List.map_append]
        refine List.nodup_append.mpr ⟨ih, by simp, fun name hname other hother => ?_⟩
        rintro rfl
        rw [List.mem_singleton.mp hother, mem_names_firstOccurrences] at hname
        exact hlast hname

/-- Where no name occurs twice, no language has its name before it. -/
theorem not_mem_of_mem_entries (hnodup : (languages.map LanguageDocument.name).Nodup) :
    ∀ entry ∈ entries ⟨languages⟩, entry.2.name ∉ entry.1 := by
  induction languages using List.reverseRecOn with
  | nil => simp [entries]
  | append_singleton languages last ih =>
      rw [List.map_append, List.nodup_append] at hnodup
      obtain ⟨hbefore, -, hdistinct⟩ := hnodup
      intro entry hentry
      rw [entries_append, List.mem_append] at hentry
      rcases hentry with hentry | hentry
      · exact ih hbefore entry hentry
      · rw [List.mem_singleton.mp hentry]
        exact fun hname => hdistinct _ hname _ (List.mem_cons_self ..) rfl

theorem map_snd_entries (document : RuleDocument) :
    document.entries.map Prod.snd = document.languages := by
  simp [entries, Function.comp_def]

/-! ## Registering -/

/-- The registry of some languages none of which is current. -/
def registry (languages : List LanguageDocument) : Registry where
  languages := languages.map LanguageDocument.created
  deferrals := ⟨languages.filterMap LanguageDocument.namedRules?⟩
  current := none

theorem names_registry (languages : List LanguageDocument) :
    (registry languages).names = languages.map LanguageDocument.name := by
  simp only [Registry.names, registry, List.map_map]
  rfl

/-- What is put off are the rules of the languages. -/
theorem mem_deferrals {languages : List LanguageDocument} {name : String} {rules : LanguageRules} :
    (name, rules) ∈ (registry languages).deferrals.entries ↔
      ∃ language ∈ languages, language.name = name ∧ language.deferral = some rules := by
  rw [registry, List.mem_filterMap]
  constructor
  · rintro ⟨language, hlanguage, hentry⟩
    obtain ⟨_, hdeferral, heq⟩ := Option.map_eq_some_iff.mp hentry
    cases heq
    exact ⟨language, hlanguage, rfl, hdeferral⟩
  · rintro ⟨language, hlanguage, rfl, hdeferral⟩
    exact ⟨language, hlanguage, by rw [LanguageDocument.namedRules?, hdeferral]; rfl⟩

theorem mem_of_mem_deferrals {languages : List LanguageDocument} {name : String}
    (hname : name ∈ (registry languages).deferrals.names) :
    name ∈ languages.map LanguageDocument.name := by
  obtain ⟨⟨_, rules⟩, hentry, rfl⟩ := List.mem_map.mp hname
  obtain ⟨language, hlanguage, hname, -⟩ := mem_deferrals.mp hentry
  exact hname ▸ List.mem_map_of_mem hlanguage

/-- Where names are distinct, what is put off for a language are its own rules. -/
theorem deferrals_find? {languages : List LanguageDocument}
    (hnodup : (languages.map LanguageDocument.name).Nodup) {language : LanguageDocument}
    (hlanguage : language ∈ languages) :
    (registry languages).deferrals.find? language.name = language.deferral := by
  apply Option.ext
  intro rules
  constructor
  · intro hfind
    obtain ⟨other, hother, hname, hdeferral⟩ :=
      mem_deferrals.mp (Deferrals.mem_of_find? _ hfind)
    rwa [← List.inj_on_of_nodup_map hnodup hother hlanguage hname]
  · intro hdeferral
    have hentry := mem_deferrals.mpr ⟨language, hlanguage, rfl, hdeferral⟩
    cases hfind : (registry languages).deferrals.find? language.name with
    | none =>
        exact absurd (List.mem_map_of_mem hentry) ((Deferrals.find?_eq_none_iff _).mp hfind)
    | some found =>
        obtain ⟨other, hother, hname, hfound⟩ :=
          mem_deferrals.mp (Deferrals.mem_of_find? _ hfind)
        rw [List.inj_on_of_nodup_map hnodup hother hlanguage hname] at hfound
        exact hfound.symm.trans hdeferral

/-- The rules of a new language come after those of the others. -/
theorem deferrals_putOff (languages : List LanguageDocument)
    (hlast : last.name ∉ languages.map LanguageDocument.name) :
    (registry languages).deferrals.putOff last.name last.rules =
      (registry (languages ++ [last])).deferrals := by
  have hnone : (registry languages).deferrals.find? last.name = none :=
    (Deferrals.find?_eq_none_iff _).mpr fun hname => hlast (mem_of_mem_deferrals hname)
  -- Under a new name nothing is replaced, and the rules are put at the end, if there are any.
  have hentries : (registry (languages ++ [last])).deferrals.entries =
      (registry languages).deferrals.entries ++ last.namedRules?.toList := by
    rw [registry, List.filterMap_append, registry]
    cases hnamed : last.namedRules? <;> simp [hnamed]
  rw [Deferrals.putOff, LanguageDocument.rules_eq]
  split
  · next hempty =>
      have hnamed : last.namedRules? = none := by
        rw [LanguageDocument.namedRules?, LanguageDocument.deferral, LanguageRules.deferral,
          if_pos hempty]
        rfl
      rw [hnamed, Option.toList_none, List.append_nil] at hentries
      exact congrArg Deferrals.mk hentries.symm
  · next hempty =>
      have hnamed : last.namedRules? = some (last.name,
          ⟨last.transcriptions, last.profiles, last.madeFormulas⟩) := by
        rw [LanguageDocument.namedRules?, LanguageDocument.deferral, LanguageRules.deferral,
          if_neg hempty]
        rfl
      rw [hnamed, Option.toList_some] at hentries
      rw [Deferrals.insert, Deferrals.erase_of_find? _ hnone]
      exact congrArg Deferrals.mk hentries.symm

/-- A language is registered at the end if its name is new, and not at all otherwise. -/
theorem register_registry (languages : List LanguageDocument) (errors : List Error) :
    LanguageDocument.register ⟨registry languages, errors⟩ last =
      if last.name ∈ languages.map LanguageDocument.name then
        ⟨registry languages, errors ++ last.formulaErrors ++ [.duplicateLanguage last.name]⟩
      else ⟨registry (languages ++ [last]), errors ++ last.formulaErrors⟩ := by
  unfold LanguageDocument.register
  rw [LanguageDocument.validFormulas_eq]
  by_cases hlast : last.name ∈ languages.map LanguageDocument.name
  · rw [if_pos hlast, Registry.register_of_mem (by rwa [names_registry])]
  · rw [if_neg hlast, Registry.register_of_not_mem (by rwa [names_registry]),
      deferrals_putOff last languages hlast]
    simp [registry, LanguageDocument.created]

/-- Where names are distinct, a language is found as it is registered. -/
theorem find?_registry {languages : List LanguageDocument}
    (hnodup : (languages.map LanguageDocument.name).Nodup) (name : String) :
    (registry languages).find? name =
      (languages.find? fun language => language.name == name).map LanguageDocument.registered := by
  have hcreated : (registry languages).languages.find? (fun set => set.name == name) =
      (languages.find? fun language => language.name == name).map LanguageDocument.created := by
    rw [registry, List.find?_map]
    rfl
  rw [Registry.find?_eq, hcreated, Option.map_map]
  cases hfind : languages.find? fun language => language.name == name with
  | none => rfl
  | some language =>
      have hdeferral := deferrals_find? hnodup (List.mem_of_find?_eq_some hfind)
      exact congrArg (some <| RegisteredLanguage.mk language.created ·) hdeferral

/-- What registering leads to: the languages whose names occur for the first time, and the errors of
the document. -/
theorem register_eq (document : RuleDocument) :
    document.register = ⟨registry document.firstOccurrences, document.errors⟩ := by
  obtain ⟨languages⟩ := document
  induction languages using List.reverseRecOn with
  | nil => rfl
  | append_singleton languages last ih =>
      have hstep : register ⟨languages ++ [last]⟩ =
          LanguageDocument.register (register ⟨languages⟩) last := by
        simp [register]
      rw [hstep, ih, register_registry, firstOccurrences_append, errors_append]
      by_cases hlast : last.name ∈ languages.map LanguageDocument.name
      · rw [if_pos ((mem_names_firstOccurrences languages).mpr hlast), if_pos hlast, if_pos hlast,
          List.append_nil, List.append_assoc]
      · rw [if_neg fun hname => hlast ((mem_names_firstOccurrences languages).mp hname),
          if_neg hlast, if_neg hlast, List.append_nil]

/-! ## Documents that are valid -/

/-- In a valid document no language has its name before it. -/
theorem not_mem_of_mem_entries_valid (document : RuleDocument) :
    ∀ entry ∈ document.valid.entries, entry.2.name ∉ entry.1 := by
  refine not_mem_of_mem_entries document.valid.languages ?_
  rw [valid, List.map_map]
  exact nodup_firstOccurrences document.languages

theorem firstOccurrences_valid (document : RuleDocument) :
    document.valid.firstOccurrences = document.valid.languages := by
  rw [firstOccurrences, List.filter_eq_self.mpr, map_snd_entries]
  intro entry hentry
  simpa using document.not_mem_of_mem_entries_valid entry hentry

theorem errors_valid (document : RuleDocument) : document.valid.errors = [] := by
  rw [errors, List.flatMap_eq_nil_iff]
  rintro ⟨earlier, language⟩ hentry
  have hname : language.name ∉ earlier := document.not_mem_of_mem_entries_valid _ hentry
  have hlanguage : language ∈ document.valid.languages := by
    rw [← map_snd_entries]
    exact List.mem_map_of_mem hentry
  obtain ⟨declared, -, rfl⟩ := List.mem_map.mp hlanguage
  show declared.valid.formulaErrors ++ _ = []
  rw [if_neg hname, List.append_nil, LanguageDocument.formulaErrors_valid]

theorem registry_valid (document : RuleDocument) :
    registry document.valid.firstOccurrences = registry document.firstOccurrences := by
  rw [firstOccurrences_valid, registry, registry, valid, List.map_map, List.filterMap_map]
  congr 2
  exact List.filterMap_congr fun language _ => language.namedRules?_valid

end RuleDocument

/-- What loading a document leads to.

Every language is registered where its name occurs for the first time, in the order of the document,
under its own code, with all its rules and profiles and with those of its formulas that can be made.
For every language of the document the errors are those of the formulas that cannot be made, each
about a number of that language, followed by one about its name if it has occurred before.  What is
left out makes no difference to anything else: the document without it leads to the same registry,
and to no errors.  No language is loaded, and none is current. -/
theorem Loader.loadDocument_firstOccurrences (loader : Loader) (document : RuleDocument) :
    let loaded := (loader.loadDocument document).value
    loaded.registry =
      { languages := document.firstOccurrences.map fun language =>
          { iso := language.iso, name := language.name }
        deferrals := ⟨document.firstOccurrences.filterMap fun language =>
          (LanguageRules.deferral
            { transcriptions := language.transcriptions
              profiles := language.profiles
              formulas := language.formulas.filterMap fun record =>
                (record.toFormula language.name).toOption }).map fun rules =>
                  (language.name, rules)⟩
        current := none } ∧
    (loaded.errors = document.entries.flatMap fun (earlier, language) =>
        (language.formulas.filterMap fun record => failure? (record.toFormula language.name)) ++
          if language.name ∈ earlier then [.duplicateLanguage language.name] else []) ∧
    (∀ (record : FormulaRecord) name error, record.toFormula name = .error error →
      ∃ field value, error = .badNumber name field value) ∧
    (loader.loadDocument document.valid).value = { registry := loaded.registry, errors := [] } ∧
    ∀ set ∈ loaded.registry.languages, set.loaded = false := by
  intro loaded
  have hloaded : loaded = ⟨RuleDocument.registry document.firstOccurrences, document.errors⟩ :=
    document.register_eq
  -- The cleaned document is registered by the same law.
  have hvalid : (loader.loadDocument document.valid).value = document.valid.register := rfl
  refine ⟨congrArg LoadedDocument.registry hloaded, congrArg LoadedDocument.errors hloaded,
    fun record name error => record.lacksNumber_toFormula name error, ?_, ?_⟩
  · rw [hvalid, RuleDocument.register_eq, RuleDocument.registry_valid, RuleDocument.errors_valid,
      hloaded]
  · rw [hloaded]
    intro set hset
    obtain ⟨declared, -, rfl⟩ := List.mem_map.mp hset
    rfl

end Transliteration
