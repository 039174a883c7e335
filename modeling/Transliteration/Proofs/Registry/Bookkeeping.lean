import Transliteration.Proofs.Registry.History

/-!
# The books of a registry

A registry keeps three things that have to go together: the languages in the order of their
registration, the rules that are put off for some of them, and the index of the current language.
`bookkeeping` says that they do after any sequence of operations, the changes of rule sets in place
among them, and that an operation that fails touches none of the three.

That they go together is `WellFormed`, and where they come from is read off the history
(`Recorded`).  What is left to show here is what a single operation does: it changes no language but
the one it is about, it only adds names at the end, and when it fails.
-/

namespace Transliteration.Registry

variable {registry : Registry}

/-! ## What an operation leaves as it is -/

/-- An operation changes no language but the one it is about, nor the rules that are put off for
any other. -/
theorem find?_perform_of_ne (hregistry : registry.WellFormed) {operation : Operation}
    {name : String} (htarget : operation.target? registry ≠ some name) :
    (registry.perform operation).2.find? name = registry.find? name := by
  have hcatalogue := catalogue_perform hregistry operation
  -- The catalogue tells which language an operation is about, and the registry follows it.
  suffices hfind : (registry.catalogue.perform operation).2.find? name = registry.find? name by
    rwa [hcatalogue] at hfind
  rcases registry.catalogue.perform_cases operation with ⟨error, hperform⟩ |
    ⟨iso, new, rules, rfl, hnew, hperform⟩ | ⟨loaded, language, rfl, hfind, hperform⟩ |
    ⟨chosen, change, language, errors, rules, rfl, hchosen, hfind, hchange, hperform⟩
  · rw [hperform]
    rfl
  · have hne : new ≠ name := fun heq => htarget (congrArg some heq)
    rw [hperform, Catalogue.find?_append, RegisteredLanguage.name, if_neg hne, Option.or_none]
    rfl
  · have hne : name ≠ loaded := fun heq => htarget (congrArg some heq.symm)
    rw [hperform, Catalogue.find?_withCurrent, Catalogue.find?_replace_of_ne]
    · rfl
    · rwa [language.name_load, Catalogue.name_eq_of_find? hfind]
  · have hne : name ≠ language.name := fun heq => htarget (heq ▸ hchosen)
    rw [hperform, Catalogue.find?_replace_of_ne]
    · rfl
    · rwa [RegisteredLanguage.name, RuleSet.name_of_perform hchange]

/-- What is found of a language in the catalogue decides what the registry has under its name. -/
theorem get_congr {other : Registry} {name : String}
    (hfind : other.find? name = registry.find? name) : other.get name = registry.get name := by
  cases hlanguage : registry.find? name with
  | none =>
      rw [get_eq_error (find?_eq_none_iff.mp hlanguage),
        get_eq_error (find?_eq_none_iff.mp (hfind.trans hlanguage))]
  | some language => rw [get_eq_ok hlanguage, get_eq_ok (hfind.trans hlanguage)]

/-- Names are only ever added, and at the end. -/
theorem names_prefix_perform (registry : Registry) (operation : Operation) :
    registry.names <+: (registry.perform operation).2.names := by
  -- Only a registration adds a name; loading and changing keep the name of the set they replace.
  have hadded : ∃ added, (registry.perform operation).2.names = registry.names ++ added := by
    rcases registry.perform_cases operation with ⟨error, hperform⟩ |
      ⟨iso, name, rules, rfl, -, hperform⟩ | ⟨index, set, rfl, -, hset, hperform⟩ |
      ⟨chosen, change, index, set, errors, next, rfl, -, hset, hchange, hperform⟩
    · exact ⟨[], by rw [hperform, List.append_nil]⟩
    · exact ⟨[name], by simp [hperform, names]⟩
    · exact ⟨[], by rw [hperform, names_loadedAt hset, List.append_nil]⟩
    · have hname := RuleSet.name_of_perform hchange
      exact ⟨[], by rw [hperform, names_putAt hset hname, List.append_nil]⟩
  obtain ⟨added, hnames⟩ := hadded
  exact ⟨added, hnames.symm⟩

theorem names_prefix_performAll (registry : Registry) (operations : List Operation) :
    registry.names <+: (registry.performAll operations).names := by
  induction operations generalizing registry with
  | nil => exact List.prefix_rfl
  | cons operation operations ih =>
      exact (registry.names_prefix_perform operation).trans (ih (registry.perform operation).2)

/-! ## When an operation fails -/

/-- A name is registered once only. -/
theorem perform_register_eq (registry : Registry) (iso name : String) (rules : LanguageRules) :
    (registry.perform (.register iso name rules)).1 =
      if name ∈ registry.names then .error (.duplicateLanguage name) else .ok [] := by
  by_cases hname : name ∈ registry.names
  · rw [if_pos hname, perform, register_of_mem hname]
    rfl
  · rw [if_neg hname, perform, register_of_not_mem hname]
    rfl

/-- A language can be loaded exactly if it is registered, and becomes the current one. -/
theorem perform_load_of_mem {name : String} (hname : name ∈ registry.names) :
    ∃ errors, (registry.perform (.load name)).1 = .ok errors ∧
      (registry.perform (.load name)).2.currentName? = some name := by
  rcases registry.locate?_name_cases name with
    ⟨hnot, -⟩ | ⟨index, set, rfl, -, hset, hlocate⟩
  · exact absurd hname hnot
  · rw [perform_load_eq hlocate]
    exact ⟨_, rfl, currentName?_loadedAt hset⟩

theorem perform_load_of_not_mem {name : String} (hname : name ∉ registry.names) :
    (registry.perform (.load name)).1 = .error (.unknownLanguage name) := by
  rw [perform_load_of_find?_eq_none (find?_eq_none_iff.mpr hname)]

/-- The rule set of a language is changed as far as there is one and the change does not fail. -/
theorem perform_change_fst (registry : Registry) (chosen : Option String)
    (change : RuleSet.Operation) :
    (registry.perform (.change chosen change)).1 =
      (registry.getOrCurrent chosen).bind fun set => (set.perform change).1 := by
  cases hlocate : registry.locate? chosen with
  | none =>
      rw [perform_change_eq_error hlocate, getOrCurrent, locate_eq_error hlocate]
      rfl
  | some found =>
      obtain ⟨index, set⟩ := found
      rw [perform_change_eq hlocate, getOrCurrent, locate_eq_ok hlocate]
      rfl

/-! ## Any sequence of operations -/

/-- What holds of a registry after any sequence of operations.

The names are those of the registrations that succeeded, in this order and each once, and later
operations add names at the end only.  Under a registered name the language with its own code is
found, and under no other name anything.  Rules are put off for registered languages only, for each
at most once, and they are those of the registration that succeeded.  The current index is that of a
language, which is the last one that was loaded by way of the registry; if there is none, none has
been loaded.

An operation changes no language but the one it is about, nor the rules that are put off for any
other.  If it fails it leaves the languages, the rules that are put off and the current index as
they were; and it fails exactly if a name is registered again, if a language is not registered or
not chosen, or if the change of a rule set fails. -/
theorem bookkeeping (operations : List Operation) :
    let registry := performAll {} operations
    let events := events {} operations
    (registry.names.Nodup ∧ registry.names = (registrations events).map Registration.name ∧
      ∀ later, registry.names <+: (registry.performAll later).names) ∧
    ((∀ registration ∈ registrations events, ∃ set, registry.get registration.name = .ok set ∧
        set.name = registration.name ∧ set.iso = registration.iso) ∧
      ∀ name, name ∉ registry.names → registry.get name = .error (.unknownLanguage name)) ∧
    (registry.deferrals.names.Nodup ∧
      (∀ name ∈ registry.deferrals.names, name ∈ registry.names) ∧
      ∀ name rules, registry.deferrals.find? name = some rules →
        ∃ iso, ⟨iso, name, rules⟩ ∈ registrations events) ∧
    (registry.currentName? = (loadings events).getLast? ∧
      (registry.current = none → registry.getCurrent = .error .noLanguage) ∧
      ∀ index, registry.current = some index → index < registry.languages.length ∧
        ∃ set, registry.languages[index]? = some set ∧ registry.currentName? = some set.name ∧
          registry.getCurrent = .ok set ∧ registry.get set.name = .ok set) ∧
    (∀ operation name, operation.target? registry ≠ some name →
      (registry.perform operation).2.get name = registry.get name ∧
        (registry.perform operation).2.deferrals.find? name = registry.deferrals.find? name) ∧
    (∀ operation error, (registry.perform operation).1 = .error error →
      (registry.perform operation).2.languages = registry.languages ∧
        (registry.perform operation).2.deferrals = registry.deferrals ∧
        (registry.perform operation).2.current = registry.current) ∧
    (∀ iso name rules, (registry.perform (.register iso name rules)).1 =
      if name ∈ registry.names then .error (.duplicateLanguage name) else .ok []) ∧
    (∀ name, (name ∈ registry.names → ∃ errors, (registry.perform (.load name)).1 = .ok errors ∧
        (registry.perform (.load name)).2.currentName? = some name) ∧
      (name ∉ registry.names →
        (registry.perform (.load name)).1 = .error (.unknownLanguage name))) ∧
    ∀ chosen change, (registry.perform (.change chosen change)).1 =
      (registry.getOrCurrent chosen).bind fun set => (set.perform change).1 := by
  intro registry events
  -- Names, registrations and the last language loaded are kept by the record of the run; where the
  -- three parts of the registry stand to each other, by its well-formedness.
  have hrecorded : Recorded events registry.catalogue := recorded operations
  have hregistry : registry.WellFormed := wellFormed operations
  refine ⟨⟨hregistry.names_nodup, ?_, registry.names_prefix_performAll⟩,
    ⟨?_, fun name hname => get_eq_error hname⟩,
    ⟨hregistry.deferrals_nodup, hregistry.deferrals_subset, ?_⟩, ⟨hrecorded.current_eq, ?_, ?_⟩,
    ?_, ?_, registry.perform_register_eq,
    fun name => ⟨perform_load_of_mem, perform_load_of_not_mem⟩, registry.perform_change_fst⟩
  · rw [← names_catalogue]
    exact hrecorded.names_eq
  · intro registration hregistration
    obtain ⟨language, hfind, hfollows⟩ := hrecorded.follows registration hregistration
    exact ⟨language.rules, get_eq_ok hfind, hfollows.name_eq, hfollows.iso_eq⟩
  · intro name rules hrules
    -- rules that are put off are found beside their language, which comes from a registration
    rw [deferrals_find?_eq hregistry, Option.bind_eq_some_iff] at hrules
    obtain ⟨language, hfind, hdeferred⟩ := hrules
    obtain ⟨registration, hregistration, rfl, hfollows⟩ := hrecorded.exists_registration hfind
    rw [hfollows.deferred_eq] at hdeferred
    split at hdeferred
    · cases hdeferred
    · obtain ⟨-, rfl⟩ := LanguageRules.deferral_eq_some_iff.mp hdeferred
      exact ⟨registration.iso, hregistration⟩
  · intro hcurrent
    rw [getCurrent, getOrCurrent, locate_eq_error (by rw [locate?, index?, hcurrent]; rfl)]
    rfl
  · intro index hcurrent
    have hlt := hregistry.current_lt index hcurrent
    have hset : registry.languages[index]? = some registry.languages[index] :=
      List.getElem?_eq_getElem hlt
    have hlocate : registry.locate? none = some (index, registry.languages[index]) :=
      locate?_eq_some_iff.mpr ⟨hcurrent, hset⟩
    refine ⟨hlt, _, hset, by rw [currentName?_eq, hlocate]; rfl, ?_, ?_⟩
    · rw [getCurrent, getOrCurrent, locate_eq_ok hlocate]
      rfl
    · exact get_eq_ok (find?_of_position? (position?_name hregistry.names_nodup hset) hset)
  · intro operation name htarget
    have hfind := find?_perform_of_ne hregistry htarget
    refine ⟨get_congr hfind, ?_⟩
    rw [deferrals_find?_eq (hregistry.perform operation), hfind, ← deferrals_find?_eq hregistry]
  · intro operation error herror
    rw [perform_eq_of_error herror]
    exact ⟨rfl, rfl, rfl⟩

end Transliteration.Registry
