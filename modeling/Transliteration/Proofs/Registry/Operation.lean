import Mathlib.Data.List.Induction
import Mathlib.Data.List.Nodup
import Transliteration.Proofs.RuleSet.Lifecycle
import Transliteration.Registry

/-!
# Operations on a registry

What can be done to a registry: languages are registered and loaded, and the rule set of a language
is changed in place, through its name or as the current one.

## Strategy

A registry keeps three things, and most operations write more than one of them.  `perform_cases`
says once what an operation can do to the three, and when; whoever needs to know what an operation
keeps goes through its four cases and never unfolds an operation again.  That the three go together
is `WellFormed`, which every operation keeps.

A run is remembered as the list of its events, and `run_induction` is the one induction over runs:
a statement about the events so far and the registry they lead to holds of every run if it holds at
the beginning and every operation keeps it.
-/

namespace Transliteration

namespace RuleSet

/-! ## Operations on a rule set -/

theorem load_labels (set : RuleSet) (rules : LanguageRules) :
    (set.load rules).value.2.name = set.name ∧ (set.load rules).value.2.iso = set.iso := by
  cases hloaded : set.loaded with
  | true => rw [load_of_loaded hloaded]; exact ⟨rfl, rfl⟩
  | false =>
      obtain ⟨transcriptions, profiles, hload⟩ := load_of_not_loaded hloaded rules
      rw [hload]
      exact ⟨rfl, rfl⟩

/-- Loading changes nothing about which profile is in use. -/
theorem load_selected (set : RuleSet) (rules : LanguageRules) :
    (set.load rules).value.2.selected = set.selected := by
  cases hloaded : set.loaded with
  | true => rw [load_of_loaded hloaded]
  | false =>
      obtain ⟨transcriptions, profiles, hload⟩ := load_of_not_loaded hloaded rules
      rw [hload]

/-- No operation changes what a rule set is called. -/
theorem perform_labels (set : RuleSet) (operation : Operation) :
    (set.perform operation).2.name = set.name ∧ (set.perform operation).2.iso = set.iso := by
  rcases set.perform_cases operation with ⟨rules, -, hperform⟩ | ⟨error, hperform⟩ |
    ⟨selected, -, -, hperform⟩
  · rw [hperform]; exact set.load_labels rules
  · rw [hperform]; exact ⟨rfl, rfl⟩
  · rw [hperform]; exact ⟨rfl, rfl⟩

theorem name_of_perform {set next : RuleSet} {operation : Operation}
    {result : Except Error (List Error)} (hperform : set.perform operation = (result, next)) :
    next.name = set.name := by
  have hname := (set.perform_labels operation).1
  rwa [hperform] at hname

end RuleSet

/-! ## Rules put off -/

namespace Deferrals

variable (deferrals : Deferrals) {name : String}

theorem find?_eq_none_iff : deferrals.find? name = none ↔ name ∉ deferrals.names := by
  rw [find?, Option.map_eq_none_iff, List.find?_eq_none, names, List.mem_map]
  simp only [beq_iff_eq, not_exists, not_and]

theorem mem_of_find? {rules : LanguageRules} (hfind : deferrals.find? name = some rules) :
    (name, rules) ∈ deferrals.entries := by
  obtain ⟨⟨other, _⟩, hentry, rfl⟩ := Option.map_eq_some_iff.mp hfind
  obtain rfl : other = name := by simpa using List.find?_some hentry
  exact List.mem_of_find?_eq_some hentry

theorem names_erase :
    (deferrals.erase name).names = deferrals.names.filter fun other => other != name := by
  rw [erase, names, names, List.filter_map]
  rfl

theorem mem_names_erase {other : String} :
    other ∈ (deferrals.erase name).names ↔ other ∈ deferrals.names ∧ other ≠ name := by
  simp [names_erase]

theorem names_insert (rules : LanguageRules) :
    (deferrals.insert name rules).names = (deferrals.erase name).names ++ [name] := by
  simp [insert, names]

@[simp] theorem find?_erase_self : (deferrals.erase name).find? name = none := by
  simp [find?_eq_none_iff, mem_names_erase]

theorem find?_erase_of_ne {other : String} (hne : other ≠ name) :
    (deferrals.erase name).find? other = deferrals.find? other := by
  rw [find?, find?, erase, List.find?_filter]
  congr 2
  funext entry
  by_cases hentry : entry.1 = other <;> simp [hentry, hne]

@[simp] theorem find?_insert_self (rules : LanguageRules) :
    (deferrals.insert name rules).find? name = some rules := by
  have hnone : (deferrals.erase name).find? name = none := deferrals.find?_erase_self
  rw [find?, Option.map_eq_none_iff] at hnone
  simp [find?, insert, List.find?_append, hnone]

theorem find?_insert_of_ne {other : String} (rules : LanguageRules) (hne : other ≠ name) :
    (deferrals.insert name rules).find? other = deferrals.find? other := by
  rw [← deferrals.find?_erase_of_ne hne]
  simp [find?, insert, List.find?_append, Ne.symm hne]

/-- There is nothing to forget for a language for which no rules are put off. -/
theorem erase_of_find? (hfind : deferrals.find? name = none) :
    deferrals.erase name = deferrals := by
  rw [find?_eq_none_iff] at hfind
  suffices hentries : (deferrals.entries.filter fun entry => entry.1 != name) =
      deferrals.entries by
    rw [erase, hentries]
  rw [List.filter_eq_self]
  intro entry hentry
  have hne : entry.1 ≠ name := fun heq => hfind (heq ▸ List.mem_map_of_mem hentry)
  simpa using hne

/-- Puts off rules as far as any are declared. -/
def putOff (name : String) (rules : LanguageRules) : Deferrals :=
  if rules.isEmpty then deferrals else deferrals.insert name rules

end Deferrals

namespace Registry

variable {registry : Registry} {name : String} {set : RuleSet}

/-! ## Where a language is -/

theorem position?_eq (registry : Registry) (name : String) :
    registry.position? name = registry.names.findIdx? fun other => other == name := by
  rw [position?, names, List.findIdx?_map]
  rfl

theorem position?_eq_none_iff : registry.position? name = none ↔ name ∉ registry.names := by
  simp [position?, names, List.findIdx?_eq_none_iff]

theorem isSome_position? : (registry.position? name).isSome = true ↔ name ∈ registry.names := by
  rw [Option.isSome_iff_ne_none, ne_eq, position?_eq_none_iff, not_not]

theorem exists_of_position? {index : Nat} (hposition : registry.position? name = some index) :
    ∃ set, registry.languages[index]? = some set ∧ set.name = name := by
  obtain ⟨hindex, hname, -⟩ := List.findIdx?_eq_some_iff_getElem.mp hposition
  exact ⟨registry.languages[index], List.getElem?_eq_getElem hindex, by simpa using hname⟩

theorem name_mem_names {index : Nat} (hset : registry.languages[index]? = some set) :
    set.name ∈ registry.names :=
  List.mem_map_of_mem (List.mem_of_getElem? hset)

/-- Where names are distinct, a language is found under its own name. -/
theorem position?_name (hnodup : registry.names.Nodup) {index : Nat}
    (hset : registry.languages[index]? = some set) : registry.position? set.name = some index := by
  obtain ⟨found, hfound⟩ := Option.isSome_iff_exists.mp
    (isSome_position?.mpr (name_mem_names hset))
  obtain ⟨other, hother, hname⟩ := exists_of_position? hfound
  have hnames : registry.names[found]? = registry.names[index]? := by
    rw [names, List.getElem?_map, List.getElem?_map, hother, hset]
    exact congrArg some hname
  have hlt : found < registry.names.length := by
    rw [names, List.length_map]
    exact (List.getElem?_eq_some_iff.mp hother).1
  rw [hfound, (List.getElem?_inj hlt hnodup).mp hnames]

theorem locate?_eq_some_iff {chosen : Option String} {index : Nat} :
    registry.locate? chosen = some (index, set) ↔
      registry.index? chosen = some index ∧ registry.languages[index]? = some set := by
  simp only [locate?, bind, pure, Option.bind_eq_some_iff, Option.some.injEq, Prod.mk.injEq]
  constructor
  · rintro ⟨_, hindex, _, hset, rfl, rfl⟩
    exact ⟨hindex, hset⟩
  · rintro ⟨hindex, hset⟩
    exact ⟨index, hindex, set, hset, rfl, rfl⟩

theorem locate_eq_ok {chosen : Option String} {index : Nat}
    (hlocate : registry.locate? chosen = some (index, set)) :
    registry.locate chosen = .ok (index, set) := by
  rw [locate, hlocate]

theorem locate_eq_error {chosen : Option String} (hlocate : registry.locate? chosen = none) :
    registry.locate chosen = .error (absent chosen) := by
  rw [locate, hlocate]

/-- A language is located by its name exactly if it is registered. -/
theorem locate?_name_cases (registry : Registry) (name : String) :
    (name ∉ registry.names ∧ registry.locate? (some name) = none) ∨
      ∃ index set, set.name = name ∧ registry.position? name = some index ∧
        registry.languages[index]? = some set ∧
        registry.locate? (some name) = some (index, set) := by
  cases hposition : registry.position? name with
  | none =>
      refine .inl ⟨position?_eq_none_iff.mp hposition, ?_⟩
      rw [locate?, index?, hposition]
      rfl
  | some index =>
      obtain ⟨set, hset, hname⟩ := exists_of_position? hposition
      exact .inr ⟨index, set, hname, rfl, hset, locate?_eq_some_iff.mpr ⟨hposition, hset⟩⟩

/-- The current language is located without a name. -/
theorem currentName?_eq (registry : Registry) :
    registry.currentName? = (registry.locate? none).map fun found => found.2.name := by
  rw [currentName?, locate?, index?]
  cases registry.current with
  | none => rfl
  | some index => cases hset : registry.languages[index]? <;> simp [hset]

/-! ## What is put in a place -/

theorem names_putAt {index : Nat} {next : RuleSet} (hset : registry.languages[index]? = some set)
    (hname : next.name = set.name) : (registry.putAt index next).names = registry.names := by
  obtain ⟨hindex, rfl⟩ := List.getElem?_eq_some_iff.mp hset
  show (registry.languages.set index next).map RuleSet.name = registry.names
  rw [List.map_set, hname, ← List.map_set, List.set_getElem_self]
  rfl

/-- A rule set that is put back in its own place leaves the registry as it is. -/
theorem putAt_self {index : Nat} (hset : registry.languages[index]? = some set) :
    registry.putAt index set = registry := by
  obtain ⟨hindex, rfl⟩ := List.getElem?_eq_some_iff.mp hset
  rw [putAt, List.set_getElem_self]

/-! ## Operations -/

/-- What can be done to a registry.  The rule set of a language is changed through the name of the
language, or without a name as the current one. -/
inductive Operation where
  | register (iso name : String) (rules : LanguageRules)
  | load (name : String)
  | change (name : Option String) (operation : RuleSet.Operation)

/-- The name of the language that an operation is about. -/
def Operation.target? (registry : Registry) : Operation → Option String
  | .register _ name _ => some name
  | .load name => some name
  | .change name _ => name.or registry.currentName?

/-- What an operation returns, and the registry after it. -/
def perform (registry : Registry) : Operation → Except Error (List Error) × Registry
  | .register iso name rules =>
    ((registry.register iso name rules).1.map fun _ => [], (registry.register iso name rules).2)
  | .load name => (registry.load name).value
  | .change chosen operation =>
    (registry.update chosen fun set => pure (set.perform operation)).value

/-- The registry after some operations, one after another. -/
def performAll (registry : Registry) (operations : List Operation) : Registry :=
  operations.foldl (fun registry operation => (registry.perform operation).2) registry

/-! ## What an operation does -/

theorem register_of_mem (hname : name ∈ registry.names) (iso : String) (rules : LanguageRules) :
    registry.register iso name rules = (.error (.duplicateLanguage name), registry) := by
  rw [register, if_pos (isSome_position?.mpr hname)]

theorem register_of_not_mem (hname : name ∉ registry.names) (iso : String)
    (rules : LanguageRules) : registry.register iso name rules =
      (.ok (), { registry with
        languages := registry.languages ++ [{ iso, name }]
        deferrals := registry.deferrals.putOff name rules }) := by
  rw [register, if_neg (mt isSome_position?.mp hname)]
  rfl

/-- The registry after the language at an index has been loaded. -/
def loadedAt (registry : Registry) (index : Nat) (set : RuleSet) : Registry :=
  let rules := (registry.deferrals.find? set.name).getD {}
  { languages := registry.languages.set index (set.load rules).value.2
    deferrals := registry.deferrals.erase set.name
    current := some index }

theorem perform_load_eq {index : Nat}
    (hlocate : registry.locate? (some set.name) = some (index, set)) :
    registry.perform (.load set.name) =
      (.ok (set.load ((registry.deferrals.find? set.name).getD {})).value.1,
        registry.loadedAt index set) := by
  rw [perform, load, locate_eq_ok hlocate]
  rfl

theorem perform_load_eq_error (hlocate : registry.locate? (some name) = none) :
    registry.perform (.load name) = (.error (.unknownLanguage name), registry) := by
  rw [perform, load, locate_eq_error hlocate]
  rfl

/-- The rule set is put back also after a change that has failed. -/
theorem perform_change_eq {chosen : Option String} {index : Nat}
    (hlocate : registry.locate? chosen = some (index, set)) (change : RuleSet.Operation) :
    registry.perform (.change chosen change) =
      ((set.perform change).1, registry.putAt index (set.perform change).2) := by
  rw [perform, update, locate_eq_ok hlocate]
  rfl

theorem perform_change_eq_error {chosen : Option String} (hlocate : registry.locate? chosen = none)
    (change : RuleSet.Operation) :
    registry.perform (.change chosen change) = (.error (absent chosen), registry) := by
  rw [perform, update, locate_eq_error hlocate]
  rfl

/-- What an operation can do to the three things that a registry keeps: it fails and changes
nothing; or a language with a new name is put at the end, and its rules are put off; or a language
is loaded, its rules are put off no longer, and it becomes the current one; or a rule set is
replaced by what an operation makes of it. -/
theorem perform_cases (registry : Registry) (operation : Operation) :
    (∃ error, registry.perform operation = (.error error, registry)) ∨
    (∃ iso name rules, operation = .register iso name rules ∧ name ∉ registry.names ∧
      registry.perform operation = (.ok [], { registry with
        languages := registry.languages ++ [{ iso, name }]
        deferrals := registry.deferrals.putOff name rules })) ∨
    (∃ index set, operation = .load set.name ∧ registry.position? set.name = some index ∧
      registry.languages[index]? = some set ∧ registry.perform operation =
        (.ok (set.load ((registry.deferrals.find? set.name).getD {})).value.1,
          registry.loadedAt index set)) ∨
    (∃ chosen change index set errors next, operation = .change chosen change ∧
      registry.index? chosen = some index ∧ registry.languages[index]? = some set ∧
      set.perform change = (.ok errors, next) ∧
      registry.perform operation = (.ok errors, registry.putAt index next)) := by
  cases operation with
  | register iso name rules =>
      by_cases hname : name ∈ registry.names
      · exact .inl ⟨_, by rw [perform, register_of_mem hname]; rfl⟩
      · exact .inr (.inl ⟨iso, name, rules, rfl, hname,
          by rw [perform, register_of_not_mem hname]; rfl⟩)
  | load name =>
      rcases registry.locate?_name_cases name with
        ⟨-, hlocate⟩ | ⟨index, set, rfl, hposition, hset, hlocate⟩
      · exact .inl ⟨_, perform_load_eq_error hlocate⟩
      · exact .inr (.inr (.inl ⟨index, set, rfl, hposition, hset, perform_load_eq hlocate⟩))
  | change chosen change =>
      cases hlocate : registry.locate? chosen with
      | none => exact .inl ⟨_, perform_change_eq_error hlocate change⟩
      | some found =>
          obtain ⟨index, set⟩ := found
          obtain ⟨hindex, hset⟩ := locate?_eq_some_iff.mp hlocate
          have hperform := perform_change_eq hlocate change
          cases hchange : (set.perform change).1 with
          | error error =>
              -- the rule set that is put back is the one that was there
              refine .inl ⟨error, ?_⟩
              rw [hperform, hchange, RuleSet.perform_eq_of_error hchange, putAt_self hset]
          | ok errors =>
              exact .inr (.inr (.inr ⟨chosen, change, index, set, errors, (set.perform change).2,
                rfl, hindex, hset, by rw [← hchange], by rw [hperform, hchange]⟩))

/-- An operation that fails changes nothing. -/
theorem perform_eq_of_error {operation : Operation} {error : Error}
    (herror : (registry.perform operation).1 = .error error) :
    (registry.perform operation).2 = registry := by
  rcases registry.perform_cases operation with ⟨_, hperform⟩ | ⟨_, _, _, rfl, -, hperform⟩ |
    ⟨_, _, rfl, -, -, hperform⟩ | ⟨_, _, _, _, _, _, rfl, -, -, -, hperform⟩
  · rw [hperform]
  all_goals rw [hperform] at herror; cases herror

theorem names_loadedAt {index : Nat} (hset : registry.languages[index]? = some set) :
    (registry.loadedAt index set).names = registry.names :=
  names_putAt hset (set.load_labels _).1

/-! ## How the three go together -/

/-- The names of the languages are distinct, rules are put off for languages that are registered and
only once for each, and the current index is that of a language. -/
structure WellFormed (registry : Registry) : Prop where
  names_nodup : registry.names.Nodup
  deferrals_nodup : registry.deferrals.names.Nodup
  deferrals_subset : ∀ name ∈ registry.deferrals.names, name ∈ registry.names
  current_lt : ∀ index, registry.current = some index → index < registry.languages.length

namespace WellFormed

theorem empty : WellFormed {} := by
  constructor <;> simp [names, Deferrals.names]

theorem register (hregistry : registry.WellFormed) {name : String} (hname : name ∉ registry.names)
    (iso : String) (rules : LanguageRules) : WellFormed { registry with
      languages := registry.languages ++ [{ iso, name }]
      deferrals := registry.deferrals.putOff name rules } where
  names_nodup := by
    show (registry.languages ++ [_]).map RuleSet.name |>.Nodup
    rw [List.map_append]
    exact hregistry.names_nodup.append (List.nodup_singleton name) (by simpa using hname)
  deferrals_nodup := by
    show (registry.deferrals.putOff name rules).names.Nodup
    unfold Deferrals.putOff
    split
    · exact hregistry.deferrals_nodup
    · rw [Deferrals.names_insert, Deferrals.names_erase]
      exact (hregistry.deferrals_nodup.filter _).append (List.nodup_singleton name) (by simp)
  deferrals_subset := by
    intro other hother
    have hnames : other ∈ registry.names ∨ other = name := by
      unfold Deferrals.putOff at hother
      split at hother
      · exact .inl (hregistry.deferrals_subset other hother)
      · rw [Deferrals.names_insert, List.mem_append, Deferrals.mem_names_erase] at hother
        exact hother.imp (fun h => hregistry.deferrals_subset other h.1) List.mem_singleton.mp
    simpa [names] using hnames
  current_lt := by
    intro index hindex
    have hlt := hregistry.current_lt index hindex
    simp only [List.length_append]
    omega

theorem loadedAt (hregistry : registry.WellFormed) {index : Nat} {set : RuleSet}
    (hset : registry.languages[index]? = some set) : (registry.loadedAt index set).WellFormed where
  names_nodup := by rw [names_loadedAt hset]; exact hregistry.names_nodup
  deferrals_nodup := by
    show (registry.deferrals.erase set.name).names.Nodup
    rw [Deferrals.names_erase]
    exact hregistry.deferrals_nodup.filter _
  deferrals_subset := by
    intro name hname
    rw [names_loadedAt hset]
    exact hregistry.deferrals_subset name (registry.deferrals.mem_names_erase.mp hname).1
  current_lt := by
    intro other hother
    cases hother
    simpa [Registry.loadedAt] using (List.getElem?_eq_some_iff.mp hset).1

theorem putAt (hregistry : registry.WellFormed) {index : Nat} {set next : RuleSet}
    (hset : registry.languages[index]? = some set) (hname : next.name = set.name) :
    (registry.putAt index next).WellFormed where
  names_nodup := by rw [names_putAt hset hname]; exact hregistry.names_nodup
  deferrals_nodup := hregistry.deferrals_nodup
  deferrals_subset := by rw [names_putAt hset hname]; exact hregistry.deferrals_subset
  current_lt := by simpa [Registry.putAt] using hregistry.current_lt

theorem perform (hregistry : registry.WellFormed) (operation : Operation) :
    (registry.perform operation).2.WellFormed := by
  rcases registry.perform_cases operation with ⟨error, hperform⟩ |
    ⟨iso, name, rules, rfl, hname, hperform⟩ | ⟨index, set, rfl, -, hset, hperform⟩ |
    ⟨chosen, change, index, set, errors, next, rfl, -, hset, hchange, hperform⟩
  · rw [hperform]; exact hregistry
  · rw [hperform]; exact hregistry.register hname iso rules
  · rw [hperform]; exact hregistry.loadedAt hset
  · rw [hperform]
    exact hregistry.putAt hset (RuleSet.name_of_perform hchange)

end WellFormed

/-! ## Runs -/

/-- An operation and what it returned. -/
structure Event where
  operation : Operation
  result : Except Error (List Error)

/-- What happens when some operations are performed one after another. -/
def events (registry : Registry) : List Operation → List Event
  | [] => []
  | operation :: operations =>
    ⟨operation, (registry.perform operation).1⟩ ::
      (registry.perform operation).2.events operations

theorem performAll_append (registry : Registry) (operations : List Operation)
    (operation : Operation) :
    registry.performAll (operations ++ [operation]) =
      ((registry.performAll operations).perform operation).2 := by
  simp [performAll]

theorem events_append (registry : Registry) (operations : List Operation)
    (operation : Operation) :
    registry.events (operations ++ [operation]) = registry.events operations ++
      [⟨operation, ((registry.performAll operations).perform operation).1⟩] := by
  induction operations generalizing registry with
  | nil => rfl
  | cons first operations ih =>
      rw [List.cons_append, events, ih, events]
      rfl

/-- What holds at the beginning and is kept by every operation holds after every run, of the events
of the run and the registry they lead to. -/
theorem run_induction {motive : List Event → Registry → Prop} (hstart : motive [] {})
    (hstep : ∀ events registry operation, motive events registry →
      motive (events ++ [⟨operation, (registry.perform operation).1⟩])
        (registry.perform operation).2)
    (operations : List Operation) :
    motive (events {} operations) (performAll {} operations) := by
  induction operations using List.reverseRecOn with
  | nil => exact hstart
  | append_singleton operations operation ih =>
      rw [events_append, performAll_append]
      exact hstep _ _ operation ih

theorem wellFormed (operations : List Operation) : (performAll {} operations).WellFormed :=
  run_induction (motive := fun _ registry => registry.WellFormed) WellFormed.empty
    (fun _ _ operation hregistry => hregistry.perform operation) operations

/-! ## What the events tell -/

/-- A language with the rules under which it was registered. -/
structure Registration where
  iso : String
  name : String
  rules : LanguageRules

/-- The registration that succeeded. -/
def Event.registration? : Event → Option Registration
  | ⟨.register iso name rules, .ok _⟩ => some ⟨iso, name, rules⟩
  | _ => none

/-- The language that was loaded by way of the registry, and the errors that were returned. -/
def Event.loading? : Event → Option (String × List Error)
  | ⟨.load name, .ok errors⟩ => some (name, errors)
  | _ => none

/-- The language into whose rule set rules were loaded directly, by its name. -/
def Event.directLoading? : Event → Option String
  | ⟨.change (some name) (.load _), .ok _⟩ => some name
  | _ => none

/-- The languages that were registered, in this order. -/
def registrations (events : List Event) : List Registration :=
  events.filterMap Event.registration?

/-- The names of the languages that were loaded by way of the registry, in this order. -/
def loadings (events : List Event) : List String :=
  (events.filterMap Event.loading?).map Prod.fst

/-- The errors that were returned when a language was loaded by way of the registry. -/
def loadingErrors (events : List Event) (name : String) : List Error :=
  ((events.filterMap Event.loading?).filter fun loading => loading.1 == name).flatMap Prod.snd

/-- The names of the languages into whose rule sets rules were loaded directly. -/
def directLoadings (events : List Event) : List String :=
  events.filterMap Event.directLoading?

end Registry

end Transliteration
