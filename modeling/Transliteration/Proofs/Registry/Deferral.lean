import Transliteration.Proofs.Registry.History

/-!
# Rules that are put off

A language is registered with rules that are not looked at before the language is loaded.
`load_refines_atOnce` says that nothing is gained or lost by waiting: if rules are loaded by way of
the registry only, then the first time that a language is loaded leads to what its rules would have
led to at once, and every further time to nothing.  So it makes no difference in which order the
languages are loaded, or what is done in between.

Rules can also be loaded into the rule set of a registered language directly.  The registry is not
told of that, and if the language has not been loaded before, the rules that are put off for it are
stranded: they stay where they are although the language counts as loaded, and when it is loaded by
way of the registry they are thrown away.  `stranded_iff` says exactly when that happens, and
`deferral_law` what becomes of rules that are put off.

Both follow from what a run leaves of each language (`Follows`).
-/

namespace Transliteration.Registry

/-! ## Loading by way of the registry only -/

/-- Whether an operation loads rules into a rule set behind the back of the registry. -/
def Operation.loadsDirectly : Operation → Bool
  | .change _ (.load _) => true
  | _ => false

theorem mem_of_mem_events {registry : Registry} {operations : List Operation} {event : Event}
    (hevent : event ∈ registry.events operations) : event.operation ∈ operations := by
  induction operations generalizing registry with
  | nil => cases hevent
  | cons operation operations ih =>
      rcases List.mem_cons.mp hevent with rfl | hevent
      · exact List.mem_cons_self
      · exact List.mem_cons_of_mem _ (ih hevent)

theorem loadsDirectly_of_directLoading? {event : Event} {name : String}
    (hevent : event.directLoading? = some name) : event.operation.loadsDirectly = true := by
  unfold Event.directLoading? at hevent
  split at hevent
  · rfl
  · cases hevent

theorem directLoadings_eq_nil {operations : List Operation}
    (hdirect : ∀ operation ∈ operations, operation.loadsDirectly = false) :
    directLoadings (events {} operations) = [] := by
  rw [directLoadings, List.filterMap_eq_nil_iff]
  intro event hevent
  rw [Option.eq_none_iff_forall_ne_some]
  intro name hname
  have hloads := loadsDirectly_of_directLoading? hname
  rw [hdirect event.operation (mem_of_mem_events hevent)] at hloads
  cases hloads

/-- To load a language that has been loaded, and for which nothing is put off, is to make it the
current one. -/
theorem perform_load_again {registry : Registry} {name : String} {language : RegisteredLanguage}
    (hfind : registry.find? name = some language) (hloaded : language.rules.loaded = true)
    (hdeferred : language.deferred = none) :
    ∃ index, registry.position? name = some index ∧
      registry.perform (.load name) = (.ok [], { registry with current := some index }) := by
  obtain ⟨index, set, rfl, hposition, hset, hlocate, rfl⟩ := exists_of_find? hfind
  have hputBack : registry.languages.set index set = registry.languages :=
    congrArg Registry.languages (putAt_self hset)
  have hset' : set.loaded = true := hloaded
  refine ⟨index, hposition, ?_⟩
  rw [perform_load_eq hlocate, loadedAt, RuleSet.load_of_loaded hset', hputBack,
    registry.deferrals.erase_of_find? hdeferred]

/-- Rules that have been put off lead to what they would have led to at once.

The first time that a language is loaded, the errors and the rule set are those of its rules loaded
into a new rule set; every further time there are no errors, and nothing changes but the current
language.  In between the rules stay as they are.  Over the whole run every error is returned once,
and a run that loads the same language in another order ends with the same rules. -/
theorem load_refines_atOnce (operations : List Operation)
    (hdirect : ∀ operation ∈ operations, operation.loadsDirectly = false) :
    let registry := performAll {} operations
    let events := events {} operations
    ∀ registration ∈ registrations events,
      (registration.name ∉ loadings events →
        (registry.perform (.load registration.name)).1 = .ok registration.atOnce.1 ∧
        (registry.perform (.load registration.name)).2.find? registration.name =
          some { rules := registration.atOnce.2 }) ∧
      (registration.name ∈ loadings events →
        (∃ index, registry.position? registration.name = some index ∧
          registry.perform (.load registration.name) =
            (.ok [], { registry with current := some index })) ∧
        ∃ set, registry.get registration.name = .ok set ∧
          RuleSet.SameRules registration.atOnce.2 set) ∧
      loadingErrors events registration.name =
        (if registration.name ∈ loadings events then registration.atOnce.1 else []) ∧
      ∀ others, (∀ operation ∈ others, operation.loadsDirectly = false) →
        registration ∈ registrations (Registry.events {} others) →
        registration.name ∈ loadings events →
        registration.name ∈ loadings (Registry.events {} others) →
        ∃ set other, registry.get registration.name = .ok set ∧
          (performAll {} others).get registration.name = .ok other ∧
          RuleSet.SameRules set other := by
  intro registry events registration hregistration
  have hrecorded : Recorded events registry.catalogue := recorded operations
  obtain ⟨language, hfind, hfollows⟩ := hrecorded.follows registration hregistration
  -- No rules are loaded directly, so every loading that is recorded went by way of the registry.
  have hnone : registration.name ∉ directLoadings events := by
    simp [events, directLoadings_eq_nil hdirect]
  refine ⟨fun hloadings => ?_, fun hloadings => ⟨?_, language.rules, get_eq_ok hfind,
    hfollows.sameRules hloadings hnone⟩, hfollows.errors_eq hnone, ?_⟩
  · have hload := hfollows.load_value_of_not_mem hloadings hnone
    obtain ⟨herrors, hafter⟩ := find?_perform_load hfind
    rw [herrors, hafter, if_pos rfl, hload]
    exact ⟨rfl, rfl⟩
  · have hdeferred := hfollows.deferred_eq
    rw [if_pos hloadings] at hdeferred
    exact perform_load_again hfind (hfollows.loaded_iff.mpr (.inl hloadings)) hdeferred
  · intro others hothers hregistered hloadings hloadings'
    obtain ⟨other, hfind', hfollows'⟩ :=
      (recorded others).follows registration hregistered
    have hnone' : registration.name ∉ directLoadings (Registry.events {} others) := by
      simp [directLoadings_eq_nil hothers]
    -- either run ends with the rules that are loaded at once, however the other languages interfere
    have hsame := hfollows.sameRules hloadings hnone
    have hsame' := hfollows'.sameRules hloadings' hnone'
    exact ⟨language.rules, other.rules, get_eq_ok hfind, get_eq_ok hfind',
      ⟨hsame.loaded.2, hsame'.loaded.2⟩,
      hsame'.transcriptions_eq.trans hsame.transcriptions_eq.symm,
      hsame'.profiles_eq.trans hsame.profiles_eq.symm,
      hsame'.formulas_eq.trans hsame.formulas_eq.symm⟩

/-- Two languages are registered and one of them is loaded.  The other one, of whose rules one does
not compile, is loaded afterwards and leads to the error and to the rules that it would have led to
at once. -/
theorem load_refines_atOnce_later :
    let broken : Registration :=
      ⟨"tst", "Test", { transcriptions := [{ main := "(" }, { main := "a", replacement := "b" }] }⟩
    let operations : List Operation :=
      [.register broken.iso broken.name broken.rules, .register "ell" "Greek" {}, .load "Greek",
        .change (some "Test") (.select 0)]
    let registry := performAll {} operations
    broken.atOnce.1.length = 1 ∧ broken.atOnce.2.transcriptions.length = 1 ∧
      registry.currentName? = some "Greek" ∧
      (registry.perform (.load "Test")).1 = .ok broken.atOnce.1 ∧
      (registry.perform (.load "Test")).2.find? "Test" = some { rules := broken.atOnce.2 } := by
  intro broken operations registry
  refine ⟨by decide +kernel, by decide +kernel, rfl, ?_⟩
  have hregistered : broken ∈ registrations (events {} operations) :=
    List.mem_cons_self
  have hloadings : broken.name ∉ loadings (events {} operations) := by
    show "Test" ∉ ["Greek"]
    decide
  exact (load_refines_atOnce operations (by decide) broken hregistered).1 hloadings

/-! ## Loading behind the back of the registry -/

/-- A language that counts as loaded still has rules that are put off. -/
def Stranded (registry : Registry) (name : String) : Prop :=
  ∃ language, registry.find? name = some language ∧ language.rules.loaded = true ∧
    language.deferred ≠ none

/-- Rules are stranded exactly if the language was registered with some, and others have been loaded
into its rule set directly, by its name, before it was loaded by way of the registry. -/
theorem stranded_iff (operations : List Operation) (name : String) :
    (performAll {} operations).Stranded name ↔
      ∃ registration ∈ registrations (events {} operations), registration.name = name ∧
        registration.rules ≠ {} ∧ name ∉ loadings (events {} operations) ∧
        name ∈ directLoadings (events {} operations) := by
  have hrecorded := recorded operations
  constructor
  · rintro ⟨language, hfind, hloaded, hdeferred⟩
    obtain ⟨registration, hregistration, rfl, hfollows⟩ := hrecorded.exists_registration hfind
    -- rules are still put off only before the first loading, so the language was loaded directly
    rw [hfollows.deferred_eq] at hdeferred
    split at hdeferred
    · exact absurd rfl hdeferred
    · next hloadings =>
        obtain ⟨rules, hrules⟩ := Option.ne_none_iff_exists'.mp hdeferred
        obtain ⟨hne, -⟩ := LanguageRules.deferral_eq_some_iff.mp hrules
        exact ⟨registration, hregistration, rfl, hne, hloadings,
          (hfollows.loaded_iff.mp hloaded).resolve_left hloadings⟩
  · rintro ⟨registration, hregistration, rfl, hne, hloadings, hdirect⟩
    obtain ⟨language, hfind, hfollows⟩ := hrecorded.follows registration hregistration
    refine ⟨language, hfind, hfollows.loaded_iff.mpr (.inr hdirect), ?_⟩
    rw [hfollows.deferred_eq, if_neg hloadings,
      LanguageRules.deferral_eq_some_iff.mpr ⟨hne, rfl⟩]
    simp

/-- What becomes of rules that are put off.

A language counts as loaded and still has rules put off exactly if others have been loaded directly
before; so it never happens where rules are loaded by way of the registry only.  A language that has
not been loaded by way of the registry takes up its rules when it is, and its errors are returned,
unless they are stranded; then it keeps the rules it has, and its own are lost without a word. -/
theorem deferral_law (operations : List Operation) :
    let registry := performAll {} operations
    let events := events {} operations
    (∀ name, registry.Stranded name ↔ ∃ registration ∈ registrations events,
      registration.name = name ∧ registration.rules ≠ {} ∧ name ∉ loadings events ∧
        name ∈ directLoadings events) ∧
    ((∀ operation ∈ operations, operation.loadsDirectly = false) →
      ∀ name, ¬ registry.Stranded name) ∧
    ∀ registration ∈ registrations events, registration.rules ≠ {} →
      registration.name ∉ loadings events →
      let after := registry.perform (.load registration.name)
      (¬ registry.Stranded registration.name →
        after.1 = .ok registration.atOnce.1 ∧
        after.2.find? registration.name = some { rules := registration.atOnce.2 }) ∧
      (registry.Stranded registration.name →
        after.1 = .ok [] ∧ ∃ set, registry.get registration.name = .ok set ∧
          after.2.find? registration.name = some { rules := set }) := by
  intro registry events
  have hrecorded : Recorded events registry.catalogue := recorded operations
  refine ⟨stranded_iff operations, ?_, ?_⟩
  · intro hdirect name hstranded
    obtain ⟨_, -, -, -, -, hname⟩ := (stranded_iff operations name).mp hstranded
    rw [directLoadings_eq_nil hdirect] at hname
    cases hname
  · intro registration hregistration hne hloadings after
    obtain ⟨language, hfind, hfollows⟩ := hrecorded.follows registration hregistration
    have hafter := find?_perform_load hfind
    have hnow : after.2.find? registration.name = some language.load.value.2 := by
      rw [hafter.2, if_pos rfl]
    rw [show after.1 = _ from hafter.1, hnow]
    constructor
    · intro hkept
      -- its rules are still put off, so nothing but a direct loading could have stranded them
      have hdirect : registration.name ∉ directLoadings events := fun hdirect =>
        hkept ((stranded_iff operations _).mpr
          ⟨registration, hregistration, rfl, hne, hloadings, hdirect⟩)
      rw [hfollows.load_value_of_not_mem hloadings hdirect]
      exact ⟨rfl, rfl⟩
    · rintro ⟨other, hother, hloaded, -⟩
      obtain rfl : language = other := Option.some.inj (hfind.symm.trans hother)
      rw [RegisteredLanguage.load_value, RuleSet.load_of_loaded hloaded]
      exact ⟨rfl, language.rules, get_eq_ok hfind, rfl⟩

/-- A language is registered with a rule, and nothing is loaded into its rule set directly.  Now it
counts as loaded while its rule is still put off; and when it is loaded by way of the registry the
rule is gone, without an error and without ever having been in use. -/
theorem rules_lost :
    let rules : LanguageRules := { transcriptions := [{ main := "a", replacement := "b" }] }
    let registry := performAll {} [.register "tst" "Test" rules, .change (some "Test") (.load {})]
    let after := registry.perform (.load "Test")
    registry.Stranded "Test" ∧ registry.find? "Test" =
        some { rules := { iso := "tst", name := "Test", loaded := true }, deferred := some rules } ∧
      after.1 = .ok [] ∧ after.2.find? "Test" =
        some { rules := { iso := "tst", name := "Test", loaded := true } } ∧
      (RuleSet.transcribe { iso := "tst", name := "Test", loaded := true } "a" true true).value =
        "a" := by
  intro rules registry after
  refine ⟨⟨_, rfl, rfl, Option.some_ne_none rules⟩, rfl, rfl, rfl, ?_⟩
  rw [RuleSet.transcribe]
  simp [Scan.replace_nil]

end Transliteration.Registry
