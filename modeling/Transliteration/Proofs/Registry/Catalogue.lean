import Transliteration.Proofs.Registry.Operation

/-!
# A registry as a catalogue

What the three things that a registry keeps say together can be said in one list, in which every
language stands with the rules that are put off for it, and the name of the current language.  That
is the catalogue of the registry, and operations on a registry are easier to follow on it: there is
no index that could point at another language, and no rules without a language they are for.

## Strategy

`catalogue_perform` is the refinement: on a well-formed registry an operation returns what it
returns on the catalogue, and the catalogue follows.  It rests on one lemma for each of the three
ways in which a registry is changed (`catalogue_register`, `catalogue_loadedAt`, `catalogue_putAt`),
and on the lemma that both find the same language (`find?_catalogue`).

What the operations make of a catalogue is told by `perform_cases`, and what is in it by `find?`.
-/

namespace Transliteration

/-- Rules as they are put off: where nothing is declared, nothing is. -/
def LanguageRules.deferral (rules : LanguageRules) : Option LanguageRules :=
  if rules.isEmpty then none else some rules

theorem LanguageRules.isEmpty_iff {rules : LanguageRules} : rules.isEmpty = true ↔ rules = {} := by
  obtain ⟨transcriptions, profiles, formulas⟩ := rules
  simp [LanguageRules.isEmpty, List.isEmpty_iff, and_assoc]

/-- Rules that are put off and those that are not are loaded alike. -/
@[simp] theorem LanguageRules.deferral_getD (rules : LanguageRules) :
    rules.deferral.getD {} = rules := by
  unfold deferral
  split
  · next hempty => exact (isEmpty_iff.mp hempty).symm
  · rfl

theorem LanguageRules.deferral_eq_some_iff {rules other : LanguageRules} :
    rules.deferral = some other ↔ rules ≠ {} ∧ other = rules := by
  unfold deferral
  split
  · next hempty => simp [isEmpty_iff.mp hempty]
  · next hempty =>
      have hne : rules ≠ {} := fun heq => hempty (isEmpty_iff.mpr heq)
      simp [hne, eq_comm]

/-- A language with the rules that are put off for it. -/
structure RegisteredLanguage where
  rules : RuleSet
  deferred : Option LanguageRules := none

namespace RegisteredLanguage

/-- The name of a language is that of its rule set. -/
def name (language : RegisteredLanguage) : String := language.rules.name

/-- Loads the rules that were put off. -/
def load (language : RegisteredLanguage) : Logged (List Error × RegisteredLanguage) := do
  let (errors, rules) ← language.rules.load (language.deferred.getD {})
  return (errors, { rules })

/-- The language after the rules that were put off have been loaded. -/
theorem load_value (language : RegisteredLanguage) :
    language.load.value =
      ((language.rules.load (language.deferred.getD {})).value.1,
        { rules := (language.rules.load (language.deferred.getD {})).value.2 }) := rfl

theorem name_load (language : RegisteredLanguage) : language.load.value.2.name = language.name :=
  (language.rules.load_labels _).1

end RegisteredLanguage

/-- The languages, each with the rules that are put off for it, and the name of the current one. -/
structure Catalogue where
  languages : List RegisteredLanguage := []
  current : Option String := none

namespace Catalogue

variable {catalogue : Catalogue} {name : String} {language : RegisteredLanguage}

/-- The names of the languages. -/
def names (catalogue : Catalogue) : List String := catalogue.languages.map RegisteredLanguage.name

/-- The language with this name. -/
def find? (catalogue : Catalogue) (name : String) : Option RegisteredLanguage :=
  catalogue.languages.find? fun language => language.name == name

/-- Replaces a language by one with the same name. -/
def replace (catalogue : Catalogue) (replacement : RegisteredLanguage) : Catalogue :=
  { catalogue with
    languages := catalogue.languages.map fun language =>
      if language.name = replacement.name then replacement else language }

/-! ## What is in a catalogue -/

theorem name_eq_of_find? (hfind : catalogue.find? name = some language) : language.name = name := by
  have hname := List.find?_some hfind
  simpa using hname

theorem mem_of_find? (hfind : catalogue.find? name = some language) :
    language ∈ catalogue.languages :=
  List.mem_of_find?_eq_some hfind

theorem find?_eq_none_iff : catalogue.find? name = none ↔ name ∉ catalogue.names := by
  simp [find?, names, List.find?_eq_none]

theorem mem_names_iff :
    name ∈ catalogue.names ↔ ∃ language, catalogue.find? name = some language := by
  cases hfind : catalogue.find? name with
  | none => simp [find?_eq_none_iff.mp hfind]
  | some language =>
      have hmem : name ∈ catalogue.names :=
        List.mem_map.mpr ⟨language, mem_of_find? hfind, name_eq_of_find? hfind⟩
      simp [hmem]

/-- With a new language at the end of a catalogue, what was found before is found as before. -/
theorem find?_append (other : String) :
    ({ catalogue with languages := catalogue.languages ++ [language] } : Catalogue).find? other =
      (catalogue.find? other).or (if language.name = other then some language else none) := by
  simp [find?, List.find?_append, List.find?_singleton]

theorem names_replace (replacement : RegisteredLanguage) :
    (catalogue.replace replacement).names = catalogue.names := by
  simp only [names, replace, List.map_map]
  apply List.map_congr_left
  intro language _
  by_cases hname : language.name = replacement.name <;> simp [hname]

/-- To replace a language changes what is found under its name and nothing else. -/
theorem find?_replace (replacement : RegisteredLanguage) (other : String) :
    (catalogue.replace replacement).find? other =
      if other = replacement.name then (catalogue.find? other).map fun _ => replacement
      else catalogue.find? other := by
  simp only [find?, replace]
  induction catalogue.languages with
  | nil => simp
  | cons head rest ih =>
      rw [List.map_cons]
      by_cases hhead : head.name = replacement.name
      · by_cases hother : other = replacement.name
        · simp [hhead, hother]
        · have hne : replacement.name ≠ other := Ne.symm hother
          have hne' : head.name ≠ other := hhead ▸ hne
          simpa [hhead, hother, hne] using ih
      · by_cases heq : head.name = other
        · have hother : other ≠ replacement.name := heq ▸ hhead
          simp [heq, hother]
        · simpa [hhead, heq] using ih

theorem find?_replace_self {replacement : RegisteredLanguage}
    (hfind : catalogue.find? replacement.name = some language) :
    (catalogue.replace replacement).find? replacement.name = some replacement := by
  simp [find?_replace, hfind]

theorem find?_replace_of_ne {replacement : RegisteredLanguage} (hne : name ≠ replacement.name) :
    (catalogue.replace replacement).find? name = catalogue.find? name := by
  simp [find?_replace, hne]

/-- Which language is current makes no difference to what is found. -/
@[simp] theorem find?_withCurrent (current : Option String) :
    ({ catalogue with current } : Catalogue).find? name = catalogue.find? name := rfl

@[simp] theorem names_withCurrent (current : Option String) :
    ({ catalogue with current } : Catalogue).names = catalogue.names := rfl

/-! ## Operations on a catalogue -/

/-- What an operation returns, and the catalogue after it. -/
def perform (catalogue : Catalogue) : Registry.Operation → Except Error (List Error) × Catalogue
  | .register iso name rules =>
    match catalogue.find? name with
    | some _ => (.error (.duplicateLanguage name), catalogue)
    | none => (.ok [], { catalogue with languages :=
        catalogue.languages ++ [{ rules := { iso, name }, deferred := rules.deferral }] })
  | .load name =>
    match catalogue.find? name with
    | none => (.error (.unknownLanguage name), catalogue)
    | some language => (.ok language.load.value.1,
        { catalogue.replace language.load.value.2 with current := some name })
  | .change chosen change =>
    match (chosen.or catalogue.current).bind catalogue.find? with
    | none => (.error (Registry.absent chosen), catalogue)
    | some language =>
      match language.rules.perform change with
      | (.error error, _) => (.error error, catalogue)
      | (.ok errors, rules) => (.ok errors, catalogue.replace { language with rules })

/-- What an operation can do: it fails and changes nothing, or a language with a new name is put at
the end, or a language is loaded and becomes the current one, or the rule set of a language is
replaced by what an operation makes of it. -/
theorem perform_cases (catalogue : Catalogue) (operation : Registry.Operation) :
    (∃ error, catalogue.perform operation = (.error error, catalogue)) ∨
    (∃ iso name rules, operation = .register iso name rules ∧ catalogue.find? name = none ∧
      catalogue.perform operation = (.ok [], { catalogue with languages :=
        catalogue.languages ++ [{ rules := { iso, name }, deferred := rules.deferral }] })) ∨
    (∃ name language, operation = .load name ∧ catalogue.find? name = some language ∧
      catalogue.perform operation = (.ok language.load.value.1,
        { catalogue.replace language.load.value.2 with current := some name })) ∨
    (∃ chosen change language errors rules, operation = .change chosen change ∧
      chosen.or catalogue.current = some language.name ∧
      catalogue.find? language.name = some language ∧
      language.rules.perform change = (.ok errors, rules) ∧
      catalogue.perform operation = (.ok errors, catalogue.replace { language with rules })) := by
  cases operation with
  | register iso name rules =>
      cases hfind : catalogue.find? name with
      | some language => exact .inl ⟨_, by rw [perform, hfind]⟩
      | none => exact .inr (.inl ⟨iso, name, rules, rfl, hfind, by rw [perform, hfind]⟩)
  | load name =>
      cases hfind : catalogue.find? name with
      | none => exact .inl ⟨_, by rw [perform, hfind]⟩
      | some language =>
          exact .inr (.inr (.inl ⟨name, language, rfl, hfind, by rw [perform, hfind]⟩))
  | change chosen change =>
      cases hfind : (chosen.or catalogue.current).bind catalogue.find? with
      | none => exact .inl ⟨_, by rw [perform, hfind]⟩
      | some language =>
          obtain ⟨name, hchosen, hname⟩ := Option.bind_eq_some_iff.mp hfind
          obtain rfl := name_eq_of_find? hname
          cases hchange : language.rules.perform change with
          | mk result rules =>
              cases result with
              | error error => exact .inl ⟨error, by simp only [perform, hfind, hchange]⟩
              | ok errors =>
                  exact .inr (.inr (.inr ⟨chosen, change, language, errors, rules, rfl, hchosen,
                    hname, hchange, by simp only [perform, hfind, hchange]⟩))

end Catalogue

namespace Registry

variable {registry : Registry} {name : String} {set : RuleSet}

/-! ## The catalogue of a registry -/

/-- A language of a registry with the rules that are put off for it. -/
def registered (registry : Registry) (set : RuleSet) : RegisteredLanguage where
  rules := set
  deferred := registry.deferrals.find? set.name

/-- The catalogue of a registry. -/
def catalogue (registry : Registry) : Catalogue where
  languages := registry.languages.map registry.registered
  current := registry.currentName?

/-- The language with this name, with the rules that are put off for it. -/
def find? (registry : Registry) (name : String) : Option RegisteredLanguage :=
  registry.catalogue.find? name

@[simp] theorem names_catalogue : registry.catalogue.names = registry.names := by
  rw [Catalogue.names, catalogue, List.map_map]
  rfl

theorem find?_eq (registry : Registry) (name : String) :
    registry.find? name =
      (registry.languages.find? fun set => set.name == name).map registry.registered := by
  rw [find?, Catalogue.find?, catalogue, List.find?_map]
  rfl

theorem find?_eq_none_iff : registry.find? name = none ↔ name ∉ registry.names := by
  rw [find?, Catalogue.find?_eq_none_iff, names_catalogue]

theorem mem_names_iff :
    name ∈ registry.names ↔ ∃ language, registry.find? name = some language := by
  rw [← names_catalogue, Catalogue.mem_names_iff]
  rfl

theorem name_eq_of_find? {language : RegisteredLanguage}
    (hfind : registry.find? name = some language) : language.name = name :=
  Catalogue.name_eq_of_find? hfind

theorem rules_mem_of_find? {language : RegisteredLanguage}
    (hfind : registry.find? name = some language) : language.rules ∈ registry.languages := by
  rw [find?_eq] at hfind
  obtain ⟨set, hset, rfl⟩ := Option.map_eq_some_iff.mp hfind
  exact List.mem_of_find?_eq_some hset

/-- A language stands in the catalogue where it stands in the registry. -/
theorem find?_of_position? {index : Nat} (hposition : registry.position? name = some index)
    (hset : registry.languages[index]? = some set) :
    registry.find? name = some (registry.registered set) := by
  rw [find?_eq, List.find?_eq_bind_findIdx?_getElem?]
  show Option.map _ ((registry.position? name).bind _) = _
  rw [hposition, Option.bind_some, hset]
  rfl

/-- What is found in the catalogue has a place in the registry. -/
theorem exists_of_find? {language : RegisteredLanguage}
    (hfind : registry.find? name = some language) :
    ∃ index set, set.name = name ∧ registry.position? name = some index ∧
      registry.languages[index]? = some set ∧ registry.locate? (some name) = some (index, set) ∧
      registry.registered set = language := by
  rcases registry.locate?_name_cases name with
    ⟨hname, -⟩ | ⟨index, set, hsetName, hposition, hset, hlocate⟩
  · rw [find?_eq_none_iff.mpr hname] at hfind
    cases hfind
  · have hsame := (find?_of_position? hposition hset).symm.trans hfind
    exact ⟨index, set, hsetName, hposition, hset, hlocate, Option.some.inj hsame⟩

theorem get_eq_ok {language : RegisteredLanguage} (hfind : registry.find? name = some language) :
    registry.get name = .ok language.rules := by
  obtain ⟨index, set, -, -, -, hlocate, rfl⟩ := exists_of_find? hfind
  rw [get, getOrCurrent, locate_eq_ok hlocate]
  rfl

theorem get_eq_error (hname : name ∉ registry.names) :
    registry.get name = .error (.unknownLanguage name) := by
  rcases registry.locate?_name_cases name with ⟨-, hlocate⟩ | ⟨index, set, rfl, -, hset, -⟩
  · rw [get, getOrCurrent, locate_eq_error hlocate]
    rfl
  · exact absurd (name_mem_names hset) hname

/-- The rules that are put off stand in the catalogue with the languages they are for, and all of
them do. -/
theorem deferrals_find?_eq (hregistry : registry.WellFormed) (name : String) :
    registry.deferrals.find? name =
      (registry.find? name).bind RegisteredLanguage.deferred := by
  rcases registry.locate?_name_cases name with
    ⟨hname, -⟩ | ⟨index, set, rfl, hposition, hset, -⟩
  · rw [find?_eq_none_iff.mpr hname]
    exact registry.deferrals.find?_eq_none_iff.mpr fun hmem =>
      hname (hregistry.deferrals_subset name hmem)
  · rw [find?_of_position? hposition hset]
    rfl

/-- The language that is located in the registry is the one that is chosen in its catalogue. -/
theorem find?_catalogue (hnodup : registry.names.Nodup) (chosen : Option String) :
    (chosen.or registry.catalogue.current).bind registry.catalogue.find? =
      (registry.locate? chosen).map fun found => registry.registered found.2 := by
  cases chosen with
  | some name =>
      rw [Option.some_or, Option.bind_some]
      rcases registry.locate?_name_cases name with
        ⟨hname, hlocate⟩ | ⟨index, set, -, hposition, hset, hlocate⟩
      · rw [hlocate]
        exact find?_eq_none_iff.mpr hname
      · rw [hlocate]
        exact find?_of_position? hposition hset
  | none =>
      show registry.currentName?.bind registry.find? = _
      rw [currentName?_eq]
      cases hlocate : registry.locate? none with
      | none => rfl
      | some found =>
          obtain ⟨index, set⟩ := found
          obtain ⟨-, hset⟩ := locate?_eq_some_iff.mp hlocate
          exact find?_of_position? (position?_name hnodup hset) hset

/-! ## The catalogue follows -/

/-- The language at a new end comes at the end of the catalogue, together with its rules.  None have
been put off for its name before. -/
theorem catalogue_register (hregistry : registry.WellFormed) (hname : name ∉ registry.names)
    (iso : String) (rules : LanguageRules) :
    ({ registry with
      languages := registry.languages ++ [{ iso, name }]
      deferrals := registry.deferrals.putOff name rules } : Registry).catalogue =
      { registry.catalogue with languages := registry.catalogue.languages ++
        [{ rules := { iso, name }, deferred := rules.deferral }] } := by
  -- A new name is not among those for which rules are put off, since these are registered.
  have hnone : registry.deferrals.find? name = none :=
    registry.deferrals.find?_eq_none_iff.mpr fun hmem =>
      hname (hregistry.deferrals_subset name hmem)
  have hnew : (registry.deferrals.putOff name rules).find? name = rules.deferral := by
    unfold Deferrals.putOff LanguageRules.deferral
    split
    · exact hnone
    · exact registry.deferrals.find?_insert_self rules
  have hold : ∀ set ∈ registry.languages,
      (registry.deferrals.putOff name rules).find? set.name =
        registry.deferrals.find? set.name := by
    intro set hset
    unfold Deferrals.putOff
    split
    · rfl
    · apply Deferrals.find?_insert_of_ne
      rintro rfl
      exact hname (List.mem_map_of_mem hset)
  -- the current index is that of an older language, which has kept its place
  have hcurrent : (registry.current.bind fun index =>
      (registry.languages ++ [({ iso, name } : RuleSet)])[index]?) =
        registry.current.bind fun index => registry.languages[index]? := by
    cases hindex : registry.current with
    | none => rfl
    | some index => exact List.getElem?_append_left (hregistry.current_lt index hindex)
  simp only [catalogue, currentName?, List.map_append, List.map_singleton, hcurrent,
    Catalogue.mk.injEq, and_true]
  congr 1
  · apply List.map_congr_left
    intro set hset
    simp only [registered, hold set hset]
  · simp only [registered, hnew]

/-- What a language has in its place is what it has under its name: the names are distinct. -/
theorem map_set {β : Type} (hnodup : registry.names.Nodup) {index : Nat} {next : RuleSet}
    (hset : registry.languages[index]? = some set) {before after : RuleSet → β}
    (hothers : ∀ other, other.name ≠ set.name → after other = before other) :
    (registry.languages.set index next).map after =
      registry.languages.map fun other =>
        if other.name = set.name then after next else before other := by
  apply List.ext_getElem?
  intro place
  rw [List.getElem?_map, List.getElem?_map, List.getElem?_set]
  -- Two languages in different places have different names.
  by_cases hplace : index = place
  · subst hplace
    obtain ⟨hindex, rfl⟩ := List.getElem?_eq_some_iff.mp hset
    simp [hindex]
  · rw [if_neg hplace]
    cases hother : registry.languages[place]? with
    | none => rfl
    | some other =>
        have hne : other.name ≠ set.name := by
          intro hname
          have hposition := position?_name hnodup hother
          rw [hname, position?_name hnodup hset] at hposition
          exact hplace (Option.some.inj hposition)
        simp [hne, hothers other hne]

/-- The current language is told by its index and the names. -/
theorem currentName?_eq_getElem? (registry : Registry) :
    registry.currentName? = registry.current.bind fun index => registry.names[index]? := by
  rw [currentName?]
  cases registry.current with
  | none => rfl
  | some index => simp [names]

theorem currentName?_loadedAt {index : Nat} (hset : registry.languages[index]? = some set) :
    (registry.loadedAt index set).currentName? = some set.name := by
  rw [currentName?_eq_getElem?, names_loadedAt hset]
  show registry.names[index]? = some set.name
  rw [names, List.getElem?_map, hset]
  rfl

/-- The language that has been loaded, as it then stands in the registry. -/
theorem registered_loadedAt (registry : Registry) (index : Nat) (set : RuleSet) :
    (registry.loadedAt index set).registered
      (set.load ((registry.deferrals.find? set.name).getD {})).value.2 =
        (registry.registered set).load.value.2 := by
  rw [registered, (set.load_labels _).1, RegisteredLanguage.load_value, registered, loadedAt,
    Deferrals.find?_erase_self]

theorem registered_loadedAt_of_ne {index : Nat} {other : RuleSet} (hne : other.name ≠ set.name) :
    (registry.loadedAt index set).registered other = registry.registered other := by
  simp only [registered, loadedAt, registry.deferrals.find?_erase_of_ne hne]

theorem catalogue_loadedAt (hregistry : registry.WellFormed) {index : Nat}
    (hset : registry.languages[index]? = some set) :
    (registry.loadedAt index set).catalogue =
      { registry.catalogue.replace (registry.registered set).load.value.2 with
        current := some set.name } := by
  have hname : (registry.registered set).load.value.2.name = set.name :=
    (registry.registered set).name_load
  have hlanguages : (registry.loadedAt index set).languages.map
      (registry.loadedAt index set).registered = registry.languages.map fun other =>
        if other.name = set.name then (registry.registered set).load.value.2
        else registry.registered other := by
    rw [← registered_loadedAt registry index set]
    exact map_set hregistry.names_nodup hset fun _ hne => registered_loadedAt_of_ne hne
  rw [catalogue, hlanguages, currentName?_loadedAt hset, Catalogue.replace, catalogue, List.map_map,
    hname]
  rfl

theorem catalogue_putAt (hregistry : registry.WellFormed) {index : Nat} {next : RuleSet}
    (hset : registry.languages[index]? = some set) (hname : next.name = set.name) :
    (registry.putAt index next).catalogue =
      registry.catalogue.replace { registry.registered set with rules := next } := by
  have hnext : registry.registered next = { registry.registered set with rules := next } := by
    rw [registered, hname]
    rfl
  have hlanguages : (registry.languages.set index next).map registry.registered =
      registry.languages.map fun other =>
        if other.name = set.name then { registry.registered set with rules := next }
        else registry.registered other := by
    rw [← hnext]
    exact map_set hregistry.names_nodup hset fun _ _ => rfl
  have hcurrent : (registry.putAt index next).currentName? = registry.currentName? := by
    rw [currentName?_eq_getElem?, currentName?_eq_getElem?, names_putAt hset hname]
    rfl
  rw [catalogue, hcurrent, Catalogue.replace, catalogue, List.map_map, RegisteredLanguage.name,
    hname]
  exact congrArg (Catalogue.mk · registry.currentName?) hlanguages

/-- An operation on a well-formed registry returns what it returns on the catalogue of the registry,
and leads to the registry that has the catalogue that it leads to. -/
theorem catalogue_perform (hregistry : registry.WellFormed) (operation : Operation) :
    registry.catalogue.perform operation =
      ((registry.perform operation).1, (registry.perform operation).2.catalogue) := by
  cases operation with
  | register iso name rules =>
      by_cases hname : name ∈ registry.names
      · obtain ⟨language, hfind⟩ := mem_names_iff.mp hname
        rw [find?] at hfind
        rw [Catalogue.perform, hfind, perform, register_of_mem hname]
        rfl
      · have hfind := find?_eq_none_iff.mpr hname
        rw [find?] at hfind
        rw [Catalogue.perform, hfind, perform, register_of_not_mem hname,
          catalogue_register hregistry hname]
        rfl
  | load name =>
      rcases registry.locate?_name_cases name with
        ⟨hname, hlocate⟩ | ⟨index, set, rfl, hposition, hset, hlocate⟩
      · have hfind := find?_eq_none_iff.mpr hname
        rw [find?] at hfind
        rw [Catalogue.perform, hfind, perform_load_eq_error hlocate]
      · have hfind := find?_of_position? hposition hset
        rw [find?] at hfind
        rw [Catalogue.perform, hfind, perform_load_eq hlocate, catalogue_loadedAt hregistry hset]
        rfl
  | change chosen change =>
      have hfind := find?_catalogue hregistry.names_nodup chosen
      cases hlocate : registry.locate? chosen with
      | none =>
          rw [hlocate, Option.map_none] at hfind
          rw [Catalogue.perform, hfind, perform_change_eq_error hlocate]
      | some found =>
          obtain ⟨index, set⟩ := found
          obtain ⟨-, hset⟩ := locate?_eq_some_iff.mp hlocate
          -- the registry puts the set back also after an error, but then it is the same set
          have hname := (set.perform_labels change).1
          rw [hlocate, Option.map_some] at hfind
          rw [Catalogue.perform, hfind, perform_change_eq hlocate]
          have hcatalogue := catalogue_putAt hregistry hset hname
          cases hchange : set.perform change with
          | mk result next =>
              rw [hchange] at hcatalogue
              cases result with
              | ok errors => simp [registered, hchange, hcatalogue]
              | error error =>
                  have herror : (set.perform change).1 = .error error := by rw [hchange]
                  have hnext : next = set := by
                    rw [← RuleSet.perform_eq_of_error herror, hchange]
                  simp [registered, hchange, hnext, putAt_self hset]

/-! ## What is found after a language has been loaded -/

/-- Loading changes what is found of the language that is loaded, and of no other. -/
theorem find?_loadedAt {index : Nat} (hposition : registry.position? set.name = some index)
    (hset : registry.languages[index]? = some set) (other : String) :
    (registry.loadedAt index set).find? other =
      if other = set.name then some (registry.registered set).load.value.2
      else registry.find? other := by
  -- Loading keeps the names, and with them the places.
  have hpositions : ∀ name,
      (registry.loadedAt index set).position? name = registry.position? name := by
    intro name
    rw [position?_eq, names_loadedAt hset, ← position?_eq]
  rcases registry.locate?_name_cases other with
    ⟨hother, -⟩ | ⟨place, found, rfl, hplace, hfound, -⟩
  · have hne : other ≠ set.name := fun heq => hother (heq ▸ name_mem_names hset)
    rw [if_neg hne, find?_eq_none_iff.mpr hother, find?_eq_none_iff, names_loadedAt hset]
    exact hother
  · by_cases hname : found.name = set.name
    · have hnow : (registry.loadedAt index set).languages[index]? =
          some (set.load ((registry.deferrals.find? set.name).getD {})).value.2 := by
        rw [loadedAt, List.getElem?_set_self (List.getElem?_eq_some_iff.mp hset).1]
      rw [hname, if_pos rfl, find?_of_position? ((hpositions _).trans hposition) hnow,
        registered_loadedAt]
    · have hne : index ≠ place := by
        rintro rfl
        rw [hset] at hfound
        exact hname (congrArg RuleSet.name (Option.some.inj hfound)).symm
      have hnow : (registry.loadedAt index set).languages[place]? = some found := by
        rw [loadedAt, List.getElem?_set_ne hne]
        exact hfound
      rw [if_neg hname, find?_of_position? ((hpositions _).trans hplace) hnow,
        registered_loadedAt_of_ne hname, find?_of_position? hplace hfound]

/-- A language that is loaded by way of the registry is found loaded, and its errors are returned.
No other language is affected. -/
theorem find?_perform_load {language : RegisteredLanguage}
    (hfind : registry.find? name = some language) :
    (registry.perform (.load name)).1 = .ok language.load.value.1 ∧
      ∀ other, (registry.perform (.load name)).2.find? other =
        if other = name then some language.load.value.2 else registry.find? other := by
  obtain ⟨index, set, rfl, hposition, hset, hlocate, rfl⟩ := exists_of_find? hfind
  rw [perform_load_eq hlocate]
  exact ⟨rfl, find?_loadedAt hposition hset⟩

/-- A language that has been loaded is the current one. -/
theorem getCurrent_perform_load {language : RegisteredLanguage}
    (hfind : registry.find? name = some language) :
    (registry.perform (.load name)).2.getCurrent = .ok language.load.value.2.rules := by
  obtain ⟨index, set, rfl, -, hset, hlocate, rfl⟩ := exists_of_find? hfind
  have hnow : (registry.loadedAt index set).locate? none =
      some (index, (registry.registered set).load.value.2.rules) := by
    apply locate?_eq_some_iff.mpr
    refine ⟨rfl, ?_⟩
    rw [loadedAt, List.getElem?_set_self (List.getElem?_eq_some_iff.mp hset).1]
    rfl
  rw [perform_load_eq hlocate, getCurrent, getOrCurrent, locate_eq_ok hnow]
  rfl

theorem perform_load_of_find?_eq_none (hfind : registry.find? name = none) :
    registry.perform (.load name) = (.error (.unknownLanguage name), registry) := by
  rcases registry.locate?_name_cases name with
    ⟨-, hlocate⟩ | ⟨index, set, -, hposition, hset, -⟩
  · exact perform_load_eq_error hlocate
  · rw [find?_of_position? hposition hset] at hfind
    cases hfind

end Registry

end Transliteration
