import Transliteration.Proofs.Record.Building
import Transliteration.Proofs.RuleSet.Lifecycle

/-!
# Rules that do not compile

When rules are loaded, those that have a pattern which does not compile are left out, each with one
error, and make no difference to any other rule.

## Strategy

One cache goes through all rules of a language, and a rule that is left out leaves those of its
patterns in it that come before its fault.  What saves the other rules is that no record depends on
the cache through which it is compiled (`RuleRecord.independent_compile`).  So every record has a
rule of its own or a fault of its own (`RuleRecord.compile_cases`), and what becomes of a list of
records is told record by record (`RuleRecord.value_compileAll`, `ProfileRecord.value_compileAll`).
-/

namespace Transliteration

/-! ## The fault of a record -/

/-- The patterns that have to compile for a rule, in the order in which they are declared: the main
one, and every condition of the rule and of its exceptions that is not empty. -/
def RuleRecord.required (record : RuleRecord) : List (String × Anchor) :=
  (record.main, .start) ::
    (declaredPatterns [(record.before, .finish), (record.after, .start)] ++
      record.exceptions.flatMap ExceptionRecord.patterns).filter fun (source, _) => source ≠ ""

/-- The error of the first pattern that has to compile and does not. -/
def RuleRecord.fault? (record : RuleRecord) : Option Error := firstFault? record.required

/-- Empty patterns are never at fault. -/
theorem firstFault?_filter (patterns : List (String × Anchor)) :
    firstFault? (patterns.filter fun (source, _) => source ≠ "") = firstFault? patterns := by
  induction patterns with
  | nil => rfl
  | cons head patterns ih =>
      obtain ⟨source, anchor⟩ := head
      by_cases hempty : source = ""
      · subst hempty
        obtain ⟨pattern, hcompile, -⟩ := Pattern.compile_empty anchor
        have hnone : failure? (Pattern.compile "" anchor) = none :=
          failure?_eq_none_iff.mpr ⟨pattern, hcompile⟩
        rw [List.filter_cons_of_neg (by simp), ih, firstFault?_cons, hnone, Option.none_or]
      · rw [List.filter_cons_of_pos (by simp [hempty]), firstFault?_cons, firstFault?_cons, ih]

theorem RuleRecord.fault?_eq (record : RuleRecord) :
    record.fault? = firstFault? record.patterns := by
  rw [fault?, required, firstFault?_cons, firstFault?_filter, ← firstFault?_cons, patterns,
    List.cons_append]

/-- The first pattern at fault, by its place among the patterns that have to compile. -/
theorem RuleRecord.fault?_eq_some_iff {record : RuleRecord} {error : Error} :
    record.fault? = some error ↔
      ∃ earlier source anchor later, record.required = earlier ++ (source, anchor) :: later ∧
        (∀ other ∈ earlier, ∃ pattern, Pattern.compile other.1 other.2 = .ok pattern) ∧
        Pattern.compile source anchor = .error error ∧
        ∃ reason, error = .badPattern source reason := by
  rw [fault?, firstFault?, List.findSome?_eq_some_iff]
  constructor
  · rintro ⟨earlier, ⟨source, anchor⟩, later, hrequired, hfault, hearlier⟩
    have hcompile := failure?_eq_some_iff.mp hfault
    exact ⟨earlier, source, anchor, later, hrequired,
      fun other hother => failure?_eq_none_iff.mp (hearlier other hother), hcompile,
      Pattern.exists_of_compile_eq_error hcompile⟩
  · rintro ⟨earlier, source, anchor, later, hrequired, hearlier, hcompile, -⟩
    exact ⟨earlier, (source, anchor), later, hrequired, failure?_eq_some_iff.mpr hcompile,
      fun other hother => failure?_eq_none_iff.mpr (hearlier other hother)⟩

theorem RuleRecord.fault?_eq_none_iff {record : RuleRecord} :
    record.fault? = none ↔
      ∀ required ∈ record.required, ∃ pattern,
        Pattern.compile required.1 required.2 = .ok pattern := by
  rw [fault?, firstFault?, List.findSome?_eq_none_iff]
  exact forall₂_congr fun required _ => failure?_eq_none_iff

/-! ## Records do not depend on the cache -/

theorem Compiling.independent_condition (source : Option String) (anchor : Anchor) :
    Independent (condition source anchor) := by
  unfold condition
  split
  · exact independent_pure none
  · exact independent_bind (independent_pattern _ anchor) fun pattern => independent_pure _

theorem ExceptionRecord.independent_compile (record : ExceptionRecord) :
    Compiling.Independent record.compile := by
  unfold compile
  refine Compiling.independent_bind (Compiling.independent_condition _ _) fun span => ?_
  refine Compiling.independent_bind (Compiling.independent_condition _ _) fun before => ?_
  refine Compiling.independent_bind (Compiling.independent_condition _ _) fun after => ?_
  exact Compiling.independent_pure _

theorem RuleRecord.independent_compile (record : RuleRecord) :
    Compiling.Independent record.compile := by
  unfold compile
  refine Compiling.independent_bind (Compiling.independent_pattern _ _) fun main => ?_
  refine Compiling.independent_bind (Compiling.independent_condition _ _) fun before => ?_
  refine Compiling.independent_bind (Compiling.independent_condition _ _) fun after => ?_
  refine Compiling.independent_bind
    (Compiling.independent_mapM ExceptionRecord.independent_compile _) fun exceptions => ?_
  exact Compiling.independent_pure _

/-- The rule of a record that is compiled on its own. -/
def RuleRecord.rule? (record : RuleRecord) : Option Rule := (record.compile.run {}).1.toOption

section

variable {cache : PatternCache}

theorem RuleRecord.run_compile (hcache : cache.Faithful) (record : RuleRecord) :
    (record.compile.run cache).1 = (record.compile.run {}).1 ∧
      (record.compile.run cache).2.Faithful :=
  ⟨(record.independent_compile cache hcache).1.eq, (record.independent_compile cache hcache).2⟩

/-- Through every faithful cache a record leads to its rule or to its fault, and never has both. -/
theorem RuleRecord.compile_cases (hcache : cache.Faithful) (record : RuleRecord) :
    (∃ rule, (record.compile.run cache).1 = .ok rule ∧
      record.rule? = some rule ∧ record.fault? = none) ∨
    ∃ error, (record.compile.run cache).1 = .error error ∧
      record.rule? = none ∧ record.fault? = some error := by
  obtain ⟨hsame, -⟩ := record.agrees_build cache hcache
  obtain ⟨hrun, -⟩ := record.run_compile hcache
  rw [rule?, ← hrun, fault?_eq, ← failure?_build]
  cases hcompile : (record.compile.run cache).1 with
  | ok rule =>
      obtain ⟨built, hbuilt⟩ := hsame.exists_ok_iff.mp ⟨rule, hcompile⟩
      exact .inl ⟨rule, rfl, rfl, failure?_eq_none_iff.mpr ⟨built, hbuilt⟩⟩
  | error error =>
      have hbuild := (hsame.eq_error_iff error).mp hcompile
      exact .inr ⟨error, rfl, rfl, failure?_eq_some_iff.mpr hbuild⟩

/-! ## Lists of records -/

/-- A list of records leads to the rules and to the faults that its records have on their own. -/
theorem RuleRecord.value_compileAll (hcache : cache.Faithful) (records : List RuleRecord) :
    (compileAll cache records).value.1 =
        ⟨records.filterMap rule?, records.filterMap fault?⟩ ∧
      (compileAll cache records).value.2.Faithful := by
  induction records generalizing cache with
  | nil => exact ⟨rfl, hcache⟩
  | cons record records ih =>
      obtain ⟨-, hnext⟩ := record.run_compile hcache
      have hcases := record.compile_cases hcache
      unfold compileAll
      generalize record.compile.run cache = answer at hnext hcases
      obtain ⟨result, next⟩ := answer
      obtain ⟨hothers, hfaithful⟩ := ih hnext
      rcases hcases with ⟨rule, rfl, hrule, hfault⟩ | ⟨error, rfl, hrule, hfault⟩
      · refine ⟨?_, hfaithful⟩
        simp [hothers, hrule, hfault]
      · refine ⟨?_, hfaithful⟩
        simp [hothers, hrule, hfault]

/-- The profile of a record, with those of its rules that compile. -/
def ProfileRecord.profile (record : ProfileRecord) : Profile :=
  ⟨record.name, record.transliterations.filterMap RuleRecord.rule?⟩

/-- Every profile is kept, and the faults of its records come in order. -/
theorem ProfileRecord.value_compileAll (hcache : cache.Faithful) (records : List ProfileRecord) :
    (compileAll cache records).value.1 =
        (records.map profile,
          (records.flatMap ProfileRecord.transliterations).filterMap RuleRecord.fault?) ∧
      (compileAll cache records).value.2.Faithful := by
  induction records generalizing cache with
  | nil => exact ⟨rfl, hcache⟩
  | cons record records ih =>
      obtain ⟨hrules, hnext⟩ := RuleRecord.value_compileAll hcache record.transliterations
      obtain ⟨hothers, hfaithful⟩ := ih hnext
      refine ⟨?_, hfaithful⟩
      simp [compileAll, hrules, hothers, profile]

end

/-! ## Loading rules -/

/-- All rules that are declared, in the order in which they are compiled. -/
def LanguageRules.records (rules : LanguageRules) : List RuleRecord :=
  rules.transcriptions ++ rules.profiles.flatMap ProfileRecord.transliterations

/-- The records that have no fault. -/
def RuleRecord.sound (records : List RuleRecord) : List RuleRecord :=
  records.filter fun record => record.fault?.isNone

/-- The declared rules without those at fault. -/
def LanguageRules.withoutFaults (rules : LanguageRules) : LanguageRules :=
  { rules with
    transcriptions := RuleRecord.sound rules.transcriptions
    profiles := rules.profiles.map fun profile =>
      { profile with transliterations := RuleRecord.sound profile.transliterations } }

theorem RuleRecord.isSome_rule? (record : RuleRecord) :
    record.rule?.isSome = record.fault?.isNone := by
  rcases record.compile_cases PatternCache.faithful_empty with
    ⟨rule, -, hrule, hfault⟩ | ⟨error, -, hrule, hfault⟩
  · simp [hrule, hfault]
  · simp [hrule, hfault]

theorem RuleRecord.filterMap_fault?_sound (records : List RuleRecord) :
    (sound records).filterMap fault? = [] := by
  rw [List.filterMap_eq_nil_iff]
  intro record hrecord
  simpa using (List.mem_filter.mp hrecord).2

theorem RuleRecord.filterMap_rule?_sound (records : List RuleRecord) :
    (sound records).filterMap rule? = records.filterMap rule? := by
  rw [sound, List.filterMap_filter]
  refine List.filterMap_congr fun record _ => ?_
  by_cases hfault : record.fault?.isNone
  · rw [if_pos hfault]
  · have hnone : record.rule?.isSome = false := by
      simpa [record.isSome_rule?, Option.isSome_iff_ne_none] using hfault
    rw [if_neg hfault, eq_comm]
    simpa using hnone

theorem ProfileRecord.profile_sound (record : ProfileRecord) :
    profile { record with transliterations := RuleRecord.sound record.transliterations } =
      record.profile := by
  simp only [profile, RuleRecord.filterMap_rule?_sound]

namespace RuleSet

/-- What loading leads to, rule by rule. -/
theorem value_load {set : RuleSet} (hloaded : set.loaded = false) (rules : LanguageRules) :
    (set.load rules).value = (rules.records.filterMap RuleRecord.fault?,
      { set with
        transcriptions := rules.transcriptions.filterMap RuleRecord.rule?
        profiles := rules.profiles.map ProfileRecord.profile
        formulas := rules.formulas
        loaded := true }) := by
  obtain ⟨htranscriptions, hcache⟩ :=
    RuleRecord.value_compileAll PatternCache.faithful_empty rules.transcriptions
  obtain ⟨hprofiles, -⟩ := ProfileRecord.value_compileAll hcache rules.profiles
  unfold load
  rw [if_neg (by simp [hloaded])]
  simp [htranscriptions, hprofiles, LanguageRules.records]

/-- Rules that are at fault may as well not have been declared. -/
theorem value_load_withoutFaults {set : RuleSet} (hloaded : set.loaded = false)
    (rules : LanguageRules) :
    (set.load rules.withoutFaults).value = ([], (set.load rules).value.2) := by
  have herrors : rules.withoutFaults.records.filterMap RuleRecord.fault? = [] := by
    simp [LanguageRules.records, LanguageRules.withoutFaults, List.flatMap_map,
      List.filterMap_flatMap, RuleRecord.filterMap_fault?_sound]
  rw [value_load hloaded, value_load hloaded, herrors]
  simp [LanguageRules.withoutFaults, RuleRecord.filterMap_rule?_sound, Function.comp_def,
    ProfileRecord.profile_sound]

/-- Rules that do not compile are kept apart from all others when rules are loaded.

Each of them leads to one error, which names the first of its patterns that does not compile, and
the errors come in the order in which the rules are declared: transcriptions first, and then profile
by profile.  The other rules are compiled and keep their order; so do the profiles, even those that
are left without a rule, and all formulas.  The rule set is the one that would have been loaded
without the rules at fault, and no rule depends on those that were compiled before it. -/
theorem load_isolates_faults {set : RuleSet} (hloaded : set.loaded = false)
    (rules : LanguageRules) :
    let errors := (set.load rules).value.1
    let loaded := (set.load rules).value.2
    (errors = rules.records.filterMap RuleRecord.fault? ∧
      ∀ (record : RuleRecord) error, record.fault? = some error ↔
        ∃ earlier source anchor later, record.required = earlier ++ (source, anchor) :: later ∧
          (∀ other ∈ earlier, ∃ pattern, Pattern.compile other.1 other.2 = .ok pattern) ∧
          Pattern.compile source anchor = .error error ∧
          ∃ reason, error = .badPattern source reason) ∧
    (loaded = { set with
        transcriptions := rules.transcriptions.filterMap RuleRecord.rule?
        profiles := rules.profiles.map fun record =>
          ⟨record.name, record.transliterations.filterMap RuleRecord.rule?⟩
        formulas := rules.formulas
        loaded := true } ∧
      ∀ record : RuleRecord, record.rule?.isSome ↔
        ∀ required ∈ record.required, ∃ pattern,
          Pattern.compile required.1 required.2 = .ok pattern) ∧
    (set.load rules.withoutFaults).value = ([], loaded) ∧
    ∀ (earlier : List RuleRecord) (record : RuleRecord),
      (record.compile.run (RuleRecord.compileAll {} earlier).value.2).1 =
        (record.compile.run {}).1 := by
  intro errors loaded
  have hload := value_load hloaded rules
  refine ⟨⟨congrArg Prod.fst hload, fun record error => RuleRecord.fault?_eq_some_iff⟩,
    ⟨congrArg Prod.snd hload, fun record => ?_⟩, value_load_withoutFaults hloaded rules,
    fun earlier record => ?_⟩
  · rw [record.isSome_rule?, Option.isNone_iff_eq_none, RuleRecord.fault?, firstFault?,
      List.findSome?_eq_none_iff]
    exact forall₂_congr fun required _ => failure?_eq_none_iff
  -- whatever has been compiled before is in the cache as it would be compiled now
  · have hcache := (RuleRecord.value_compileAll PatternCache.faithful_empty earlier).2
    exact (record.run_compile hcache).1

/-- Two rules of a language do not compile: one because of an exception, and the only one of its
profile.  What is left is one rule for transcriptions and a profile without rules. -/
theorem load_isolates_faults_exception :
    let set : RuleSet := { iso := "tst", name := "Test" }
    let broken : RuleRecord :=
      { main := "a", exceptions := [{ before := some "", after := some "(" }] }
    let rules : LanguageRules :=
      { transcriptions := [broken, { main := "a", replacement := "b" }],
        profiles := [{ name := "Latin", transliterations := [{ main := "[" }] }] }
    let loaded := (set.load rules).value
    set.loaded = false ∧
      loaded.1 = [.badPattern "(" Regex.Fault.unclosedGroup.message,
        .badPattern "[" Regex.Fault.unclosedClass.message] ∧
      loaded.2.transcriptions.length = 1 ∧
      loaded.2.profiles.map (fun profile => (profile.name, profile.rules.length)) =
        [("Latin", 0)] ∧
      (set.load rules.withoutFaults).value = ([], loaded.2) := by
  intro set broken rules loaded
  have hunloaded : set.loaded = false := rfl
  obtain ⟨⟨herrors, -⟩, ⟨hloaded, -⟩, hwithout, -⟩ := load_isolates_faults hunloaded rules
  refine ⟨hunloaded, herrors.trans ?_, ?_, ?_, hwithout⟩
  · decide +kernel
  · rw [hloaded]
    decide +kernel
  · rw [hloaded]
    decide +kernel

end RuleSet

end Transliteration
