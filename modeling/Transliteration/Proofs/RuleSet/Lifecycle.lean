import Transliteration.Proofs.Log
import Transliteration.RuleSet

/-!
# The life of a rule set

A rule set is created empty.  From then on rules are loaded into it and profiles are selected, in
any order and with any result.  `lifecycle` says what holds after any sequence of these operations.

## Strategy

What every operation keeps is `Consistent`.  Loading replaces the profiles without a look at the
selected index, so the bound on the index alone is not kept; it is because a rule set that has not
been loaded has no profiles, and therefore no index either.  `Consistent.perform` is the step and
`Consistent.performAll` the run.

That nothing changes once rules have been loaded (`sameRules_performAll`) is a second induction,
from a rule set that is loaded already.
-/

namespace Transliteration

/-! ## Without rules -/

theorem Scan.replaceFrom_nil (before text : List Char) (c : Char) :
    Scan.replaceFrom [] before (text ++ [c]) 0 = text := by
  induction text generalizing before with
  | nil => rfl
  | cons head text ih =>
      -- a scan looks at the next character as well, for the last one is not copied
      obtain ⟨next, rest, hrest⟩ : ∃ next rest, text ++ [c] = next :: rest :=
        List.exists_cons_of_ne_nil (by simp)
      have htext := ih (before ++ [head])
      rw [hrest] at htext
      rw [List.cons_append, hrest, Scan.replaceFrom]
      show head :: _ = head :: text
      rw [htext]

/-- Without rules every character is copied. -/
theorem Scan.replace_nil (text : List Char) : Scan.replace [] text = text :=
  replaceFrom_nil [sentinel] text sentinel

/-- Without formulas every character stays as it is. -/
theorem Decomposition.decompose_nil (text : List Char) :
    Decomposition.decompose [] text = pure text := by
  apply Logged.ext
  · show text.flatMap (fun c => [c]) = text
    simp
  · show text.flatMap (fun _ => []) = []
    simp

namespace RuleSet

/-! ## Operations -/

/-- What can be done to a rule set. -/
inductive Operation where
  | load (rules : LanguageRules)
  | select (index : Nat)
  | selectByName (name : String)
  | clearProfile

/-- What an operation returns, and the rule set after it.  Only loading returns errors beside its
success. -/
def perform (set : RuleSet) : Operation → Except Error (List Error) × RuleSet
  | .load rules => (.ok (set.load rules).value.1, (set.load rules).value.2)
  | .select index => ((set.select index).1.map fun _ => [], (set.select index).2)
  | .selectByName name => ((set.selectByName name).1.map fun _ => [], (set.selectByName name).2)
  | .clearProfile => (.ok [], set.clearProfile)

/-- The rule set after some operations, one after another. -/
def performAll (set : RuleSet) (operations : List Operation) : RuleSet :=
  operations.foldl (fun set operation => (set.perform operation).2) set

/-! ## What an operation does -/

/-- Rules are loaded only once. -/
theorem load_of_loaded {set : RuleSet} (hloaded : set.loaded = true) (rules : LanguageRules) :
    (set.load rules).value = ([], set) := by
  unfold load
  rw [if_pos hloaded]
  rfl

/-- The first rules to be loaded take the place of what was there.  The selection stays. -/
theorem load_of_not_loaded {set : RuleSet} (hloaded : set.loaded = false) (rules : LanguageRules) :
    ∃ transcriptions profiles, (set.load rules).value.2 =
      { set with transcriptions, profiles, formulas := rules.formulas, loaded := true } := by
  unfold load
  rw [if_neg (by simp [hloaded])]
  exact ⟨_, _, rfl⟩

theorem loaded_load (set : RuleSet) (rules : LanguageRules) :
    (set.load rules).value.2.loaded = true := by
  cases hloaded : set.loaded with
  | true => rw [load_of_loaded hloaded]; exact hloaded
  | false =>
      obtain ⟨transcriptions, profiles, hload⟩ := load_of_not_loaded hloaded rules
      rw [hload]

/-- A profile is selected if there is one with the index.  Otherwise nothing is written. -/
theorem select_cases (set : RuleSet) (index : Nat) :
    (∃ error, set.select index = (.error error, set)) ∨
      index < set.profiles.length ∧
        set.select index = (.ok (), { set with selected := some index }) := by
  unfold select
  split
  · next hlt => exact .inr ⟨hlt, rfl⟩
  · exact .inl ⟨_, rfl⟩

theorem select_of_lt {set : RuleSet} {index : Nat} (hindex : index < set.profiles.length) :
    set.select index = (.ok (), { set with selected := some index }) := by
  rw [select, if_pos hindex]

/-- A selection that fails leaves the set as it is. -/
theorem select_eq_of_error {set : RuleSet} {index : Nat} {error : Error}
    (herror : (set.select index).1 = .error error) : set.select index = (.error error, set) := by
  rcases set.select_cases index with ⟨other, hselect⟩ | ⟨-, hselect⟩
  · rw [hselect] at herror
    cases herror
    exact hselect
  · rw [hselect] at herror
    cases herror

theorem selectByName_cases (set : RuleSet) (name : String) :
    (∃ error, set.selectByName name = (.error error, set)) ∨
      ∃ index < set.profiles.length,
        set.selectByName name = (.ok (), { set with selected := some index }) := by
  unfold selectByName
  cases hfind : set.profiles.findIdx? fun profile => profile.name == name with
  | none => exact .inl ⟨_, rfl⟩
  | some index =>
      obtain ⟨hindex, -, -⟩ := List.findIdx?_eq_some_iff_getElem.mp hfind
      exact .inr ⟨index, hindex, rfl⟩

theorem selectByName_eq_of_error {set : RuleSet} {name : String} {error : Error}
    (herror : (set.selectByName name).1 = .error error) :
    set.selectByName name = (.error error, set) := by
  rcases set.selectByName_cases name with ⟨other, hselect⟩ | ⟨index, -, hselect⟩
  · rw [hselect] at herror
    cases herror
    exact hselect
  · rw [hselect] at herror
    cases herror

/-- A profile is found by its name if there is one, and the first one is taken. -/
theorem selectByName_eq_ok_iff {set next : RuleSet} {name : String} :
    set.selectByName name = (.ok (), next) ↔
      ∃ earlier profile later, set.profiles = earlier ++ profile :: later ∧
        profile.name = name ∧ (∀ other ∈ earlier, other.name ≠ name) ∧
        next = { set with selected := some earlier.length } := by
  unfold selectByName
  cases hfind : set.profiles.findIdx? fun profile => profile.name == name with
  | none =>
      rw [List.findIdx?_eq_none_iff] at hfind
      refine ⟨fun h => by simp at h, ?_⟩
      rintro ⟨earlier, profile, later, hprofiles, hname, -, -⟩
      have hne := hfind profile (by simp [hprofiles])
      simp [hname] at hne
  | some index =>
      obtain ⟨hindex, hname, hearlier⟩ := List.findIdx?_eq_some_iff_getElem.mp hfind
      constructor
      · intro hnext
        simp only [Prod.mk.injEq, true_and] at hnext
        refine ⟨set.profiles.take index, set.profiles[index], set.profiles.drop (index + 1), ?_,
          by simpa using hname, fun other hother => ?_, ?_⟩
        · rw [List.getElem_cons_drop, List.take_append_drop]
        · obtain ⟨i, hi, rfl⟩ := List.mem_take_iff_getElem.mp hother
          simpa using hearlier i (by omega)
        · rw [List.length_take_of_le (by omega), hnext]
      · rintro ⟨earlier, profile, later, hprofiles, hname', hearlier', rfl⟩
        -- both indices are the first one with the name, so neither is before the other
        suffices index = earlier.length by rw [this]
        rcases Nat.lt_trichotomy index earlier.length with hlt | heq | hgt
        · have hne := hearlier' earlier[index] (List.getElem_mem hlt)
          simp [hprofiles, hlt, hne] at hname
        · exact heq
        · have hne := hearlier earlier.length hgt
          simp [hprofiles, hname'] at hne

/-- What an operation can do: it loads rules, or it fails and changes nothing, or it changes the
selection, to nothing or to the index of a profile. -/
theorem perform_cases (set : RuleSet) (operation : Operation) :
    (∃ rules, operation = .load rules ∧
      set.perform operation = (.ok (set.load rules).value.1, (set.load rules).value.2)) ∨
    (∃ error, set.perform operation = (.error error, set)) ∨
    (∃ selected, (∀ rules, operation ≠ .load rules) ∧
      (∀ index, selected = some index → index < set.profiles.length) ∧
      set.perform operation = (.ok [], { set with selected })) := by
  cases operation with
  | load rules => exact .inl ⟨rules, rfl, rfl⟩
  | select index =>
      right
      rw [perform]
      rcases set.select_cases index with ⟨error, hselect⟩ | ⟨hindex, hselect⟩
      · exact .inl ⟨error, by rw [hselect]; rfl⟩
      · exact .inr ⟨some index, by simp, by simpa using hindex, by rw [hselect]; rfl⟩
  | selectByName name =>
      right
      rw [perform]
      rcases set.selectByName_cases name with ⟨error, hselect⟩ | ⟨index, hindex, hselect⟩
      · exact .inl ⟨error, by rw [hselect]; rfl⟩
      · exact .inr ⟨some index, by simp, by simpa using hindex, by rw [hselect]; rfl⟩
  | clearProfile => exact .inr (.inr ⟨none, by simp, by simp, rfl⟩)

/-- An operation that fails changes nothing. -/
theorem perform_eq_of_error {set : RuleSet} {operation : Operation} {error : Error}
    (herror : (set.perform operation).1 = .error error) : (set.perform operation).2 = set := by
  rcases set.perform_cases operation with ⟨rules, -, hperform⟩ | ⟨_, hperform⟩ |
    ⟨selected, -, -, hperform⟩
  · rw [hperform] at herror; cases herror
  · rw [hperform]
  · rw [hperform] at herror; cases herror

/-! ## What every operation keeps -/

/-- The selected index belongs to a profile, and a rule set that has not been loaded has no rules
and no profiles. -/
structure Consistent (set : RuleSet) : Prop where
  selected_lt : ∀ index, set.selected = some index → index < set.profiles.length
  transcriptions_eq : set.loaded = false → set.transcriptions = []
  profiles_eq : set.loaded = false → set.profiles = []
  formulas_eq : set.loaded = false → set.formulas = []

namespace Consistent

variable {set : RuleSet}

theorem created (iso name : String) : Consistent { iso, name } := by
  constructor <;> simp

theorem selected_eq (hset : set.Consistent) (hloaded : set.loaded = false) :
    set.selected = none := by
  cases hselected : set.selected with
  | none => rfl
  | some index =>
      have hlt := hset.selected_lt index hselected
      rw [hset.profiles_eq hloaded] at hlt
      simp at hlt

/-- A change of the selection changes nothing else. -/
theorem withSelected (hset : set.Consistent) {selected : Option Nat}
    (hselected : ∀ index, selected = some index → index < set.profiles.length) :
    Consistent { set with selected } where
  selected_lt := hselected
  transcriptions_eq := hset.transcriptions_eq
  profiles_eq := hset.profiles_eq
  formulas_eq := hset.formulas_eq

theorem load (hset : set.Consistent) (rules : LanguageRules) :
    (set.load rules).value.2.Consistent := by
  cases hloaded : set.loaded with
  | true => rw [load_of_loaded hloaded]; exact hset
  | false =>
      obtain ⟨transcriptions, profiles, hload⟩ := load_of_not_loaded hloaded rules
      rw [hload]
      -- the profiles are new, but without profiles before there was no selected index
      have hselected := hset.selected_eq hloaded
      constructor <;> simp [hselected]

theorem perform (hset : set.Consistent) (operation : Operation) :
    (set.perform operation).2.Consistent := by
  rcases set.perform_cases operation with ⟨rules, -, hperform⟩ | ⟨error, hperform⟩ |
    ⟨selected, -, hselected, hperform⟩
  · rw [hperform]; exact hset.load rules
  · rw [hperform]; exact hset
  · rw [hperform]; exact hset.withSelected hselected

theorem performAll (hset : set.Consistent) (operations : List Operation) :
    (set.performAll operations).Consistent := by
  induction operations generalizing set with
  | nil => exact hset
  | cons operation operations ih => exact ih (hset.perform operation)

/-- There is a profile in use exactly if one is selected. -/
theorem isSome_profile? (hset : set.Consistent) :
    set.profile?.isSome = set.selected.isSome := by
  unfold profile?
  cases hselected : set.selected with
  | none => rfl
  | some index =>
      have hlt := hset.selected_lt index hselected
      simp [hlt]

end Consistent

/-! ## Once rules have been loaded -/

/-- Both rule sets are loaded and have the same rules, profiles and formulas. -/
structure SameRules (first second : RuleSet) : Prop where
  loaded : first.loaded = true ∧ second.loaded = true
  transcriptions_eq : second.transcriptions = first.transcriptions
  profiles_eq : second.profiles = first.profiles
  formulas_eq : second.formulas = first.formulas

theorem SameRules.trans {first second third : RuleSet} (h : SameRules first second)
    (h' : SameRules second third) : SameRules first third :=
  ⟨⟨h.loaded.1, h'.loaded.2⟩, h'.transcriptions_eq.trans h.transcriptions_eq,
    h'.profiles_eq.trans h.profiles_eq, h'.formulas_eq.trans h.formulas_eq⟩

theorem sameRules_perform {set : RuleSet} (hloaded : set.loaded = true) (operation : Operation) :
    SameRules set (set.perform operation).2 := by
  have hself : SameRules set set := ⟨⟨hloaded, hloaded⟩, rfl, rfl, rfl⟩
  rcases set.perform_cases operation with ⟨rules, -, hperform⟩ | ⟨error, hperform⟩ |
    ⟨selected, -, -, hperform⟩
  · rw [hperform, load_of_loaded hloaded]; exact hself
  · rw [hperform]; exact hself
  · rw [hperform]; exact ⟨⟨hloaded, hloaded⟩, rfl, rfl, rfl⟩

theorem sameRules_performAll {set : RuleSet} (hloaded : set.loaded = true)
    (operations : List Operation) : SameRules set (set.performAll operations) := by
  induction operations generalizing set with
  | nil => exact ⟨⟨hloaded, hloaded⟩, rfl, rfl, rfl⟩
  | cons operation operations ih =>
      have hstep := sameRules_perform hloaded operation
      exact hstep.trans (ih hstep.loaded.2)

/-! ## The stages of a rule set without rules -/

theorem stages_eq_pure {set : RuleSet} (htranscriptions : set.transcriptions = [])
    (hselected : set.selected = none) (hformulas : set.formulas = []) (text : String) :
    set.decompose text = pure text ∧
      (∀ decomposed, set.romanize text decomposed = pure text) ∧
      ∀ decomposed romanized, set.transcribe text decomposed romanized = pure text := by
  have hdecompose : set.decompose text = pure text := by
    rw [decompose, hformulas, Decomposition.decompose_nil]
    simp
  have hprofile : set.profile? = none := by simp [profile?, hselected]
  have hromanize : ∀ decomposed, set.romanize text decomposed = pure text := by
    intro decomposed
    cases decomposed <;> simp [romanize, hprofile, hdecompose]
  refine ⟨hdecompose, hromanize, fun decomposed romanized => ?_⟩
  have htranscribe : String.ofList (Scan.replace set.transcriptions text.toList) = text := by
    rw [htranscriptions, Scan.replace_nil, String.ofList_toList]
  cases decomposed <;> cases romanized <;>
    simp [transcribe, hdecompose, hromanize, htranscribe]

/-! ## Any sequence of operations -/

/-- What holds of a rule set after any sequence of operations: a selected index belongs to a
profile; before rules are loaded there are none, nothing is selected, and every stage leaves every
text as it is; loading always ends with rules loaded, only the first time counts, and nothing done
afterwards changes the rules; a selection that fails changes nothing, and by its name the first
profile of that name is selected. -/
theorem lifecycle (iso name : String) (operations : List Operation) :
    let set := performAll { iso, name } operations
    ((∀ index, set.selected = some index → index < set.profiles.length) ∧
      set.profile?.isSome = set.selected.isSome) ∧
    (set.loaded = false →
      (set.transcriptions = [] ∧ set.profiles = [] ∧ set.formulas = [] ∧ set.selected = none) ∧
      ∀ text, set.decompose text = pure text ∧
        (∀ decomposed, set.romanize text decomposed = pure text) ∧
        ∀ decomposed romanized, set.transcribe text decomposed romanized = pure text) ∧
    ((∀ rules, (set.perform (.load rules)).2.loaded = true) ∧
      (set.loaded = true →
        (∀ rules, set.perform (.load rules) = (.ok [], set)) ∧
        ∀ later, SameRules set (set.performAll later))) ∧
    ((∀ index error, (set.select index).1 = .error error →
        set.select index = (.error error, set) ∧
          set.perform (.select index) = (.error error, set)) ∧
      (∀ wanted error, (set.selectByName wanted).1 = .error error →
        set.selectByName wanted = (.error error, set) ∧
          set.perform (.selectByName wanted) = (.error error, set)) ∧
      ∀ wanted next, set.selectByName wanted = (.ok (), next) →
        set.perform (.selectByName wanted) = (.ok [], next) ∧
        ∃ earlier profile after, set.profiles = earlier ++ profile :: after ∧
          profile.name = wanted ∧ (∀ other ∈ earlier, other.name ≠ wanted) ∧
          next = { set with selected := some earlier.length }) := by
  intro set
  have hset : set.Consistent := (Consistent.created iso name).performAll operations
  refine ⟨⟨hset.selected_lt, hset.isSome_profile?⟩, fun hloaded => ?_, ⟨?_, fun hloaded => ?_⟩,
    ?_, ?_, ?_⟩
  -- without a selected profile the romanization is left out, and without rules the other stages
  · have hselected := hset.selected_eq hloaded
    exact ⟨⟨hset.transcriptions_eq hloaded, hset.profiles_eq hloaded, hset.formulas_eq hloaded,
      hselected⟩, stages_eq_pure (hset.transcriptions_eq hloaded) hselected
        (hset.formulas_eq hloaded)⟩
  · intro rules
    exact loaded_load set rules
  · refine ⟨fun rules => ?_, sameRules_performAll hloaded⟩
    rw [perform, load_of_loaded hloaded]
  · intro index error herror
    have hselect := select_eq_of_error herror
    exact ⟨hselect, by rw [perform, hselect]; rfl⟩
  · intro wanted error herror
    have hselect := selectByName_eq_of_error herror
    exact ⟨hselect, by rw [perform, hselect]; rfl⟩
  · intro wanted next hnext
    refine ⟨?_, selectByName_eq_ok_iff.mp hnext⟩
    rw [perform, hnext]
    rfl

end RuleSet

end Transliteration
