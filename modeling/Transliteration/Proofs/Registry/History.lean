import Transliteration.Proofs.Registry.Catalogue

/-!
# A registry and its history

Everything in a registry goes back to the operations that have been performed on it: the languages
to the registrations that succeeded, the current language to the last one that was loaded, and what
is in a language to the rules of its registration and to how it was loaded.

## Strategy

`Follows` says what has become of one language, told its registration and the events of the run.
An operation on the language itself is one of three (`Follows.registered`, `Follows.load`,
`Follows.change`), and one on another language leaves everything that `Follows` speaks of as it is
(`Follows.congr`).  `Recorded` puts the languages together.  It speaks of the catalogue of a
registry, and what an operation does to that is known (`catalogue_perform`): `Recorded.perform` is
the step and `recorded` the run.

Rules can be loaded into a rule set directly, behind the back of the registry.  The name of a
language is among `directLoadings` if that has been done by its name.  It makes no difference if it
is done to the current language, for that one has been loaded already.
-/

namespace Transliteration.Registry

/-! ## Events one after another -/

@[simp] theorem registration?_error (operation : Operation) (error : Error) :
    Event.registration? ⟨operation, .error error⟩ = none := by
  cases operation <;> rfl

@[simp] theorem loading?_error (operation : Operation) (error : Error) :
    Event.loading? ⟨operation, .error error⟩ = none := by
  cases operation <;> rfl

@[simp] theorem directLoading?_error (operation : Operation) (error : Error) :
    Event.directLoading? ⟨operation, .error error⟩ = none := by
  rcases operation with _ | _ | ⟨_ | _, _ | _⟩ <;> rfl

variable {events : List Event} {catalogue : Catalogue}

theorem registrations_append (event : Event) :
    registrations (events ++ [event]) = registrations events ++ event.registration?.toList := by
  rw [registrations, List.filterMap_append]
  cases hevent : event.registration? <;> simp [registrations, hevent]

theorem loadings_append (event : Event) :
    loadings (events ++ [event]) =
      loadings events ++ (event.loading?.map Prod.fst).toList := by
  rw [loadings, List.filterMap_append, List.map_append]
  cases hevent : event.loading? <;> simp [loadings, hevent]

theorem directLoadings_append (event : Event) :
    directLoadings (events ++ [event]) = directLoadings events ++ event.directLoading?.toList := by
  rw [directLoadings, List.filterMap_append]
  cases hevent : event.directLoading? <;> simp [directLoadings, hevent]

theorem loadingErrors_append_of_ne {event : Event} {name : String}
    (hne : ∀ loading, event.loading? = some loading → loading.1 ≠ name) :
    loadingErrors (events ++ [event]) name = loadingErrors events name := by
  rw [loadingErrors, List.filterMap_append, List.filter_append, List.flatMap_append]
  cases hevent : event.loading? with
  | none => simp [loadingErrors, hevent]
  | some loading => simp [loadingErrors, hevent, hne loading hevent]

theorem loadingErrors_append_self (name : String) (errors : List Error) :
    loadingErrors (events ++ [⟨.load name, .ok errors⟩]) name =
      loadingErrors events name ++ errors := by
  rw [loadingErrors, List.filterMap_append, List.filter_append, List.flatMap_append]
  simp [loadingErrors, Event.loading?]

/-- No errors have been returned for a language that has not been loaded. -/
theorem loadingErrors_eq_nil {name : String} (hname : name ∉ loadings events) :
    loadingErrors events name = [] := by
  rw [loadingErrors, List.filter_eq_nil_iff.mpr, List.flatMap_nil]
  intro loading hloading heq
  refine hname (List.mem_map.mpr ⟨loading, hloading, ?_⟩)
  simpa using heq

/-! ## What has become of a language -/

/-- The errors and the rule set that the rules of a registration lead to when they are loaded into a
new rule set at once. -/
def Registration.atOnce (registration : Registration) : List Error × RuleSet :=
  (RuleSet.load { iso := registration.iso, name := registration.name } registration.rules).value

/-- What a registered language is after some events. -/
structure Follows (events : List Event) (registration : Registration)
    (language : RegisteredLanguage) : Prop where
  name_eq : language.name = registration.name
  iso_eq : language.rules.iso = registration.iso
  consistent : language.rules.Consistent
  /-- Rules are put off until the language is loaded by way of the registry. -/
  deferred_eq : language.deferred =
    if registration.name ∈ loadings events then none else registration.rules.deferral
  loaded_iff : language.rules.loaded = true ↔
    registration.name ∈ loadings events ∨ registration.name ∈ directLoadings events
  /-- The rules are those of the registration, unless others have been loaded directly. -/
  sameRules : registration.name ∈ loadings events → registration.name ∉ directLoadings events →
    RuleSet.SameRules registration.atOnce.2 language.rules
  errors_eq : registration.name ∉ directLoadings events →
    loadingErrors events registration.name =
      if registration.name ∈ loadings events then registration.atOnce.1 else []

namespace Follows

variable {registration : Registration} {language : RegisteredLanguage}

/-- Events that have nothing to do with a language leave it as it is. -/
theorem congr (hfollows : Follows events registration language) {event : Event}
    (hloading : ∀ loading, event.loading? = some loading → loading.1 ≠ registration.name)
    (hdirect : event.directLoading? ≠ some registration.name) :
    Follows (events ++ [event]) registration language := by
  -- Of the event nothing is kept that bears on this language, so all that is recorded for it stays.
  have hloadings :
      registration.name ∈ loadings (events ++ [event]) ↔ registration.name ∈ loadings events := by
    rw [loadings_append, List.mem_append, or_iff_left]
    intro hmem
    obtain ⟨loading, hevent, hname⟩ := Option.map_eq_some_iff.mp (Option.mem_toList.mp hmem)
    exact hloading loading hevent hname
  have hdirectLoadings : registration.name ∈ directLoadings (events ++ [event]) ↔
      registration.name ∈ directLoadings events := by
    rw [directLoadings_append, List.mem_append, or_iff_left]
    intro hmem
    exact hdirect (Option.mem_toList.mp hmem)
  have herrors : loadingErrors (events ++ [event]) registration.name =
      loadingErrors events registration.name := loadingErrors_append_of_ne hloading
  exact {
    name_eq := hfollows.name_eq
    iso_eq := hfollows.iso_eq
    consistent := hfollows.consistent
    deferred_eq := by simpa only [hloadings] using hfollows.deferred_eq
    loaded_iff := by simpa only [hloadings, hdirectLoadings] using hfollows.loaded_iff
    sameRules := by simpa only [hloadings, hdirectLoadings] using hfollows.sameRules
    errors_eq := by
      simpa only [hloadings, hdirectLoadings, herrors] using hfollows.errors_eq }

/-- A language that has just been registered. -/
theorem registered {event : Event} (hloading : event.loading? = none)
    (hdirect : event.directLoading? = none) (hloadings : registration.name ∉ loadings events)
    (hdirectLoadings : registration.name ∉ directLoadings events) :
    Follows (events ++ [event]) registration
      { rules := { iso := registration.iso, name := registration.name }
        deferred := registration.rules.deferral } := by
  refine congr ?_ (by simp [hloading]) (by simp [hdirect])
  exact {
    name_eq := rfl
    iso_eq := rfl
    consistent := .created _ _
    deferred_eq := by rw [if_neg hloadings]
    loaded_iff := by simp [hloadings, hdirectLoadings]
    sameRules := fun hloaded => absurd hloaded hloadings
    errors_eq := fun _ => by rw [loadingErrors_eq_nil hloadings, if_neg hloadings] }

/-- The rule set of a language that has not been loaded is as it was created. -/
theorem rules_eq (hfollows : Follows events registration language)
    (hloadings : registration.name ∉ loadings events)
    (hdirectLoadings : registration.name ∉ directLoadings events) :
    language.rules = { iso := registration.iso, name := registration.name } := by
  have hloaded : language.rules.loaded = false := by
    rw [← Bool.not_eq_true, hfollows.loaded_iff]
    simp [hloadings, hdirectLoadings]
  have hset := hfollows.consistent
  have hname : language.rules.name = registration.name := hfollows.name_eq
  have hselected := hset.selected_eq hloaded
  have htranscriptions := hset.transcriptions_eq hloaded
  have hprofiles := hset.profiles_eq hloaded
  have hformulas := hset.formulas_eq hloaded
  have hiso := hfollows.iso_eq
  cases hrules : language.rules
  simp_all

/-- A language that is loaded for the first time takes up the rules of its registration. -/
theorem load_value_of_not_mem (hfollows : Follows events registration language)
    (hloadings : registration.name ∉ loadings events)
    (hdirectLoadings : registration.name ∉ directLoadings events) :
    language.load.value = (registration.atOnce.1, { rules := registration.atOnce.2 }) := by
  have hdeferred := hfollows.deferred_eq
  rw [if_neg hloadings] at hdeferred
  rw [RegisteredLanguage.load_value, hfollows.rules_eq hloadings hdirectLoadings, hdeferred,
    LanguageRules.deferral_getD]
  rfl

/-- A language that has been loaded stays as it is. -/
theorem load_value_of_mem (hfollows : Follows events registration language)
    (hloadings : registration.name ∈ loadings events) : language.load.value = ([], language) := by
  have hloaded := hfollows.loaded_iff.mpr (.inl hloadings)
  have hdeferred := hfollows.deferred_eq
  rw [if_pos hloadings] at hdeferred
  rw [RegisteredLanguage.load_value, RuleSet.load_of_loaded hloaded]
  cases language
  simp_all

/-- The language is loaded by way of the registry: the first time with the rules of its
registration, unless others have been loaded directly. -/
theorem load (hfollows : Follows events registration language) :
    Follows (events ++ [⟨.load registration.name, .ok language.load.value.1⟩]) registration
      language.load.value.2 := by
  have hmem : registration.name ∈
      loadings (events ++ [⟨.load registration.name, .ok language.load.value.1⟩]) := by
    simp [loadings_append, Event.loading?]
  have hdirectLoadings :
      directLoadings (events ++ [⟨.load registration.name, .ok language.load.value.1⟩]) =
        directLoadings events := by
    simp [directLoadings_append, Event.directLoading?]
  have hlabels := language.rules.load_labels (language.deferred.getD {})
  -- The first loading brings all the errors and the rules; every later one brings neither.
  have hresult : registration.name ∉ directLoadings events →
      loadingErrors events registration.name ++ language.load.value.1 = registration.atOnce.1 ∧
        RuleSet.SameRules registration.atOnce.2 language.load.value.2.rules := by
    intro hdirect
    have herrors := hfollows.errors_eq hdirect
    by_cases hloadings : registration.name ∈ loadings events
    · rw [if_pos hloadings] at herrors
      rw [hfollows.load_value_of_mem hloadings, herrors, List.append_nil]
      exact ⟨rfl, hfollows.sameRules hloadings hdirect⟩
    · rw [if_neg hloadings] at herrors
      rw [hfollows.load_value_of_not_mem hloadings hdirect, herrors]
      have hloaded : registration.atOnce.2.loaded = true := RuleSet.loaded_load _ _
      exact ⟨rfl, ⟨hloaded, hloaded⟩, rfl, rfl, rfl⟩
  exact {
    name_eq := hlabels.1.trans hfollows.name_eq
    iso_eq := hlabels.2.trans hfollows.iso_eq
    consistent := hfollows.consistent.load _
    deferred_eq := by rw [if_pos hmem]; rfl
    loaded_iff := by
      have hloaded : language.load.value.2.rules.loaded = true := RuleSet.loaded_load _ _
      simp [hloaded, hmem]
    sameRules := fun _ hdirect => (hresult (by rwa [hdirectLoadings] at hdirect)).2
    errors_eq := fun hdirect => by
      rw [if_pos hmem, loadingErrors_append_self]
      exact (hresult (by rwa [hdirectLoadings] at hdirect)).1 }

/-- The rule set of the language is changed. -/
theorem change (hfollows : Follows events registration language) {chosen : Option String}
    {operation : RuleSet.Operation} {errors : List Error} {rules : RuleSet}
    (hperform : language.rules.perform operation = (.ok errors, rules))
    (hchosen : chosen = some registration.name ∨
      chosen = none ∧ registration.name ∈ loadings events) :
    Follows (events ++ [⟨.change chosen operation, .ok errors⟩]) registration
      { language with rules } := by
  have hrules : (language.rules.perform operation).2 = rules := by rw [hperform]
  have hlabels := language.rules.perform_labels operation
  have hconsistent := hfollows.consistent.perform operation
  rw [hrules] at hlabels hconsistent
  have hloadings : loadings (events ++ [⟨.change chosen operation, .ok errors⟩]) =
      loadings events := by
    simp [loadings_append, Event.loading?]
  have herrors : loadingErrors (events ++ [⟨.change chosen operation, .ok errors⟩])
      registration.name = loadingErrors events registration.name :=
    loadingErrors_append_of_ne (by simp [Event.loading?])
  have hsubset : registration.name ∈ directLoadings events → registration.name ∈
      directLoadings (events ++ [⟨.change chosen operation, .ok errors⟩]) := by
    rw [directLoadings_append]
    exact List.mem_append_left _
  -- whatever is done to a loaded rule set, it is still loaded, with the same rules
  have hkept : language.rules.loaded = true → RuleSet.SameRules language.rules rules := by
    intro hloaded
    have hsame := RuleSet.sameRules_perform hloaded operation
    rwa [hrules] at hsame
  exact {
    name_eq := hlabels.1.trans hfollows.name_eq
    iso_eq := hlabels.2.trans hfollows.iso_eq
    consistent := hconsistent
    deferred_eq := by rw [hloadings]; exact hfollows.deferred_eq
    loaded_iff := by
      rw [hloadings]
      by_cases hloaded : language.rules.loaded = true
      · simp only [(hkept hloaded).loaded.2, true_iff]
        exact (hfollows.loaded_iff.mp hloaded).imp id hsubset
      · -- only loading rules loads a rule set, and then the language was chosen by its name
        have hbefore := hloaded
        rw [hfollows.loaded_iff, not_or] at hbefore
        obtain ⟨hnot, hdirect⟩ := hbefore
        obtain rfl := hchosen.resolve_right fun h => hnot h.2
        rw [directLoadings_append, List.mem_append]
        rcases language.rules.perform_cases operation with
          ⟨declared, rfl, hcase⟩ | ⟨error, hcase⟩ | ⟨selected, hselection, -, hcase⟩
        · have hnow : rules.loaded = true := by
            rw [← hrules, hcase]
            exact RuleSet.loaded_load _ _
          simp [Event.directLoading?, hnow]
        · rw [hperform] at hcase
          cases hcase
        · have hnow : rules.loaded = language.rules.loaded := by rw [← hrules, hcase]
          have hevent : Event.directLoading?
              ⟨.change (some registration.name) operation, .ok errors⟩ = none := by
            cases operation with
            | load declared => exact absurd rfl (hselection declared)
            | select index => rfl
            | selectByName wanted => rfl
            | clearProfile => rfl
          simp [hevent, hnow, hnot, hdirect, hloaded]
    sameRules := by
      rw [hloadings]
      intro hmem hdirect
      exact (hfollows.sameRules hmem (mt hsubset hdirect)).trans
        (hkept (hfollows.loaded_iff.mpr (.inl hmem)))
    errors_eq := by
      rw [hloadings, herrors]
      exact fun hdirect => hfollows.errors_eq (mt hsubset hdirect) }

end Follows

/-! ## The whole registry -/

/-- What the catalogue of a registry is after some events. -/
structure Recorded (events : List Event) (catalogue : Catalogue) : Prop where
  names_eq : catalogue.names = (registrations events).map Registration.name
  nodup : catalogue.names.Nodup
  current_eq : catalogue.current = (loadings events).getLast?
  loadings_subset : ∀ name ∈ loadings events, name ∈ catalogue.names
  directLoadings_subset : ∀ name ∈ directLoadings events, name ∈ catalogue.names
  follows : ∀ registration ∈ registrations events, ∃ language,
    catalogue.find? registration.name = some language ∧ Follows events registration language

namespace Recorded

theorem empty : Recorded [] {} where
  names_eq := rfl
  nodup := List.nodup_nil
  current_eq := rfl
  loadings_subset := by simp [loadings]
  directLoadings_subset := by simp [directLoadings]
  follows := by simp [registrations]

/-- Only registered languages are current. -/
theorem current_mem (hrecorded : Recorded events catalogue) {name : String}
    (hcurrent : catalogue.current = some name) : name ∈ loadings events := by
  rw [hrecorded.current_eq] at hcurrent
  exact List.mem_of_getLast? hcurrent

theorem perform_error (hrecorded : Recorded events catalogue) (operation : Operation)
    (error : Error) : Recorded (events ++ [⟨operation, .error error⟩]) catalogue where
  names_eq := by simpa [registrations_append] using hrecorded.names_eq
  nodup := hrecorded.nodup
  current_eq := by simpa [loadings_append] using hrecorded.current_eq
  loadings_subset := by simpa [loadings_append] using hrecorded.loadings_subset
  directLoadings_subset := by
    simpa [directLoadings_append] using hrecorded.directLoadings_subset
  follows := by
    simp only [registrations_append, registration?_error, Option.toList_none, List.append_nil]
    intro registration hregistration
    obtain ⟨language, hfind, hfollows⟩ := hrecorded.follows registration hregistration
    exact ⟨language, hfind, hfollows.congr (by simp) (by simp)⟩

theorem perform_register (hrecorded : Recorded events catalogue) {iso name : String}
    {rules : LanguageRules} (hnew : catalogue.find? name = none) :
    Recorded (events ++ [⟨.register iso name rules, .ok []⟩])
      { catalogue with languages :=
        catalogue.languages ++ [{ rules := { iso, name }, deferred := rules.deferral }] } := by
  have hname : name ∉ catalogue.names := Catalogue.find?_eq_none_iff.mp hnew
  have hnames : ({ catalogue with languages := catalogue.languages ++
      [{ rules := { iso, name }, deferred := rules.deferral }] } : Catalogue).names =
        catalogue.names ++ [name] := by
    simp [Catalogue.names, RegisteredLanguage.name]
  have hregistrations : registrations (events ++ [⟨.register iso name rules, .ok []⟩]) =
      registrations events ++ [⟨iso, name, rules⟩] := by
    simp [registrations_append, Event.registration?]
  exact {
    names_eq := by rw [hnames, hregistrations, List.map_append, hrecorded.names_eq]; rfl
    nodup := by
      rw [hnames, List.nodup_append]
      refine ⟨hrecorded.nodup, by simp, ?_⟩
      intro other hother _ hlast heq
      rw [heq, List.mem_singleton.mp hlast] at hother
      exact hname hother
    current_eq := by simpa [loadings_append, Event.loading?] using hrecorded.current_eq
    loadings_subset := by
      rw [hnames]
      intro other hother
      simp only [loadings_append, Event.loading?, Option.map_none, Option.toList_none,
        List.append_nil] at hother
      exact List.mem_append_left _ (hrecorded.loadings_subset other hother)
    directLoadings_subset := by
      rw [hnames]
      intro other hother
      simp only [directLoadings_append, Event.directLoading?, Option.toList_none,
        List.append_nil] at hother
      exact List.mem_append_left _ (hrecorded.directLoadings_subset other hother)
    follows := by
      rw [hregistrations]
      intro registration hregistration
      -- the languages before it are not affected, and the new one has no event yet
      rcases List.mem_append.mp hregistration with hold | hlast
      · obtain ⟨language, hfind, hfollows⟩ := hrecorded.follows registration hold
        refine ⟨language, ?_, hfollows.congr (by simp [Event.loading?])
          (by simp [Event.directLoading?])⟩
        rw [Catalogue.find?_append, hfind, Option.some_or]
      · obtain rfl := List.mem_singleton.mp hlast
        refine ⟨_, ?_, Follows.registered rfl rfl
          (fun hmem => hname (hrecorded.loadings_subset name hmem))
          (fun hmem => hname (hrecorded.directLoadings_subset name hmem))⟩
        rw [Catalogue.find?_append, hnew, Option.none_or]
        exact if_pos rfl }

theorem perform_load (hrecorded : Recorded events catalogue) {name : String}
    {language : RegisteredLanguage} (hfind : catalogue.find? name = some language) :
    Recorded (events ++ [⟨.load name, .ok language.load.value.1⟩])
      { catalogue.replace language.load.value.2 with current := some name } := by
  have hname : language.load.value.2.name = name :=
    language.name_load.trans (Catalogue.name_eq_of_find? hfind)
  have hregistrations : registrations (events ++ [⟨.load name, .ok language.load.value.1⟩]) =
      registrations events := by
    simp [registrations_append, Event.registration?]
  have hloadings : loadings (events ++ [⟨.load name, .ok language.load.value.1⟩]) =
      loadings events ++ [name] := by
    simp [loadings_append, Event.loading?]
  exact {
    names_eq := by
      rw [Catalogue.names_withCurrent, Catalogue.names_replace, hregistrations]
      exact hrecorded.names_eq
    nodup := by rw [Catalogue.names_withCurrent, Catalogue.names_replace]; exact hrecorded.nodup
    current_eq := by rw [hloadings, List.getLast?_concat]
    loadings_subset := by
      rw [hloadings, Catalogue.names_withCurrent, Catalogue.names_replace]
      intro other hother
      rcases List.mem_append.mp hother with hold | hlast
      · exact hrecorded.loadings_subset other hold
      · rw [List.mem_singleton.mp hlast]
        exact Catalogue.mem_names_iff.mpr ⟨language, hfind⟩
    directLoadings_subset := by
      simpa [directLoadings_append, Event.directLoading?, Catalogue.names_replace] using
        hrecorded.directLoadings_subset
    follows := by
      rw [hregistrations]
      intro registration hregistration
      obtain ⟨other, hother, hfollows⟩ := hrecorded.follows registration hregistration
      -- the event bears on one language, and `Follows.congr` has all the others
      by_cases hsame : registration.name = name
      · subst hsame
        obtain rfl : language = other := Option.some.inj (hfind.symm.trans hother)
        refine ⟨language.load.value.2, ?_, hfollows.load⟩
        rw [Catalogue.find?_withCurrent, ← hname]
        exact Catalogue.find?_replace_self (by rw [hname]; exact hfind)
      · refine ⟨other, ?_, hfollows.congr ?_ (by simp [Event.directLoading?])⟩
        · rw [Catalogue.find?_withCurrent, Catalogue.find?_replace_of_ne (by rwa [hname])]
          exact hother
        · intro loading hloading
          obtain rfl := Option.some.inj hloading
          exact Ne.symm hsame }

theorem perform_change (hrecorded : Recorded events catalogue) {chosen : Option String}
    {operation : RuleSet.Operation} {language : RegisteredLanguage} {errors : List Error}
    {rules : RuleSet} (hchosen : chosen.or catalogue.current = some language.name)
    (hfind : catalogue.find? language.name = some language)
    (hperform : language.rules.perform operation = (.ok errors, rules)) :
    Recorded (events ++ [⟨.change chosen operation, .ok errors⟩])
      (catalogue.replace { language with rules }) := by
  have hregistrations : registrations (events ++ [⟨.change chosen operation, .ok errors⟩]) =
      registrations events := by
    simp [registrations_append, Event.registration?]
  have hloadings : loadings (events ++ [⟨.change chosen operation, .ok errors⟩]) =
      loadings events := by
    simp [loadings_append, Event.loading?]
  have hname : rules.name = language.name := RuleSet.name_of_perform hperform
  -- Rules that are loaded directly are recorded for the language that was chosen.
  have hdirect : ∀ name,
      Event.directLoading? ⟨.change chosen operation, .ok errors⟩ = some name →
        name = language.name := by
    intro name hevent
    cases chosen with
    | none => cases operation <;> simp [Event.directLoading?] at hevent
    | some other =>
        cases operation <;> simp [Event.directLoading?] at hevent
        simpa [hevent] using hchosen
  exact {
    names_eq := by rw [Catalogue.names_replace, hregistrations]; exact hrecorded.names_eq
    nodup := by rw [Catalogue.names_replace]; exact hrecorded.nodup
    current_eq := by rw [hloadings]; exact hrecorded.current_eq
    loadings_subset := by rw [hloadings, Catalogue.names_replace]; exact hrecorded.loadings_subset
    directLoadings_subset := by
      rw [directLoadings_append, Catalogue.names_replace]
      intro name hmem
      rcases List.mem_append.mp hmem with hold | hlast
      · exact hrecorded.directLoadings_subset name hold
      · rw [hdirect name (Option.mem_toList.mp hlast)]
        exact Catalogue.mem_names_iff.mpr ⟨language, hfind⟩
    follows := by
      rw [hregistrations]
      intro registration hregistration
      obtain ⟨other, hother, hfollows⟩ := hrecorded.follows registration hregistration
      by_cases hsame : registration.name = language.name
      · rw [← hsame] at hfind
        obtain rfl : language = other := Option.some.inj (hfind.symm.trans hother)
        refine ⟨{ language with rules }, ?_, hfollows.change hperform ?_⟩
        · have hfound : catalogue.find? rules.name = some language := by
            rw [hname, ← hsame]; exact hfind
          rw [hsame, ← hname]
          exact Catalogue.find?_replace_self hfound
        · cases chosen with
          | some name => exact .inl (by rw [hsame]; simpa using hchosen)
          | none =>
              rw [Option.none_or] at hchosen
              exact .inr ⟨rfl, by rw [hsame]; exact hrecorded.current_mem hchosen⟩
      · refine ⟨other, ?_, hfollows.congr (by simp [Event.loading?]) ?_⟩
        · rw [Catalogue.find?_replace_of_ne (by rw [RegisteredLanguage.name, hname]; exact hsame)]
          exact hother
        · exact fun hevent => hsame (hdirect _ hevent) }

/-- Every operation keeps the record. -/
theorem perform (hrecorded : Recorded events catalogue) (operation : Operation) :
    Recorded (events ++ [⟨operation, (catalogue.perform operation).1⟩])
      (catalogue.perform operation).2 := by
  rcases catalogue.perform_cases operation with ⟨error, hperform⟩ |
    ⟨iso, name, rules, rfl, hnew, hperform⟩ | ⟨name, language, rfl, hfind, hperform⟩ |
    ⟨chosen, change, language, errors, rules, rfl, hchosen, hfind, hchange, hperform⟩
  · rw [hperform]; exact hrecorded.perform_error operation error
  · rw [hperform]; exact hrecorded.perform_register hnew
  · rw [hperform]; exact hrecorded.perform_load hfind
  · rw [hperform]; exact hrecorded.perform_change hchosen hfind hchange

/-- The language that is found under a name is that of the one registration with this name. -/
theorem exists_registration (hrecorded : Recorded events catalogue) {name : String}
    {language : RegisteredLanguage} (hfind : catalogue.find? name = some language) :
    ∃ registration ∈ registrations events, registration.name = name ∧
      Follows events registration language := by
  have hname : name ∈ catalogue.names := Catalogue.mem_names_iff.mpr ⟨language, hfind⟩
  rw [hrecorded.names_eq] at hname
  obtain ⟨registration, hregistration, rfl⟩ := List.mem_map.mp hname
  obtain ⟨other, hother, hfollows⟩ := hrecorded.follows registration hregistration
  obtain rfl : language = other := Option.some.inj (hfind.symm.trans hother)
  exact ⟨registration, hregistration, rfl, hfollows⟩

end Recorded

/-- The record of every run.  It can be kept on the catalogue because every registry of the run is
well-formed. -/
theorem recorded (operations : List Operation) :
    Recorded (Registry.events {} operations) (performAll {} operations).catalogue := by
  suffices hrun : (performAll {} operations).WellFormed ∧
      Recorded (Registry.events {} operations) (performAll {} operations).catalogue from hrun.2
  apply run_induction (motive := fun events registry =>
    registry.WellFormed ∧ Recorded events registry.catalogue)
  · exact ⟨WellFormed.empty, Recorded.empty⟩
  · rintro events registry operation ⟨hregistry, hrecorded⟩
    have hperform := hrecorded.perform operation
    rw [catalogue_perform hregistry operation] at hperform
    exact ⟨hregistry.perform operation, hperform⟩

end Transliteration.Registry
