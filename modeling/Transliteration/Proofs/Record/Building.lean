import Transliteration.Proofs.Pattern.Anchoring
import Transliteration.Proofs.Pattern.Cache
import Transliteration.Record

/-!
# Two ways to a rule

A record is made into a rule as a whole, through a cache and without its empty conditions, or step
by step, where an empty condition is a pattern like any other.  Both ways come to the same: the same
first pattern is at fault, or the two rules apply alike.

## Strategy

* The empty pattern matches every text at either anchor (`Pattern.compile_empty`), so a condition
  that is empty may as well be absent (`agrees_condition`).
* The steps come one after another in the order in which a record is compiled as a whole
  (`ExceptionRecord.build_eq`, `RuleRecord.build_eq`).  Both ways are then compared step by step,
  with the cache left aside (`Compiling.Agrees`).
* Where the steps end is read off the patterns of the record in their order (`failure?_build`).
-/

namespace Transliteration

/-! ## The empty pattern -/

/-- What has to hold where a pattern with this anchor matches. -/
def Anchor.look : Anchor → Regex.Look
  | .start => .textStart
  | .finish => .textEnd

/-- The empty pattern is nothing but its anchor, which every text has. -/
theorem Pattern.compile_empty (anchor : Anchor) :
    ∃ pattern, compile "" anchor = .ok pattern ∧ ∀ text, pattern.isMatch text = true := by
  have hexpr : (compile "" anchor).toOption.map (fun pattern => pattern.regex.expr) =
      some (.look anchor.look) := by
    cases anchor with
    | start => decide +kernel
    | finish => decide +kernel
  cases hcompile : compile "" anchor with
  | error error => rw [hcompile] at hexpr; cases hexpr
  | ok pattern =>
      rw [hcompile] at hexpr
      have hlook := Option.some.inj hexpr
      obtain ⟨expr, -, rfl⟩ := compile_eq_ok hcompile
      refine ⟨_, rfl, fun text => (isMatch_iff rfl).mpr ?_⟩
      change expr = _ at hlook
      subst hlook
      cases anchor with
      | start => exact ⟨0, Nat.zero_le _, 0, rfl, rfl⟩
      | finish =>
          refine ⟨text.length, Nat.le_refl _, text.length, rfl, ?_⟩
          simp [Anchor.look, Regex.Look.HoldsAt, Regex.Look.holds]

/-! ## Conditions -/

/-- Compiles a condition if there is one, be it empty or not. -/
def Pattern.ofCondition (condition : Option String) (anchor : Anchor) :
    Except Error (Option Pattern) :=
  match condition with
  | none => pure none
  | some source => do return some (← compile source anchor)

/-- Both conditions hold for the same texts. -/
def SameCondition (first second : Option Pattern) : Prop :=
  ∀ text, Rule.holds first text = Rule.holds second text

/-- It makes no difference whether a condition that is empty is left out or compiled. -/
theorem agrees_condition (condition : Option String) (anchor : Anchor) :
    Compiling.Agrees SameCondition (Compiling.condition condition anchor)
      (Pattern.ofCondition condition anchor) := by
  cases condition with
  | none => exact Compiling.agrees_pure fun _ => rfl
  | some source =>
      by_cases hempty : source = ""
      · subst hempty
        obtain ⟨pattern, hcompile, hmatch⟩ := Pattern.compile_empty anchor
        have hresult : Pattern.ofCondition (some "") anchor = pure (some pattern) := by
          rw [Pattern.ofCondition, hcompile]
          rfl
        rw [hresult]
        refine Compiling.agrees_pure (fun text => ?_)
        rw [Rule.holds, Rule.holds, Option.all_none, Option.all_some, hmatch]
      · have hkept : (some source).filter (· ≠ "") = some source := by simp [hempty]
        rw [Compiling.condition, hkept]
        refine Compiling.agrees_bind (Compiling.agrees_pattern source anchor) ?_
        rintro pattern _ rfl
        exact Compiling.agrees_pure fun _ => rfl

/-- A step that adds a condition, for a subject that has no such condition yet. -/
theorem withCondition_eq {α : Type} {add : α → String → Except Error α} {anchor : Anchor}
    {subject : α} (set : Option Pattern → α) (hnone : set none = subject)
    (hadd : ∀ source, add subject source =
      do return set (some (← Pattern.compile source anchor))) (condition : Option String) :
    withCondition add condition subject =
      do return set (← Pattern.ofCondition condition anchor) := by
  cases condition with
  | none => exact congrArg Except.ok hnone.symm
  | some source =>
      rw [withCondition, hadd, Pattern.ofCondition, bind_assoc]
      simp only [pure_bind]

/-! ## Rules that apply alike -/

/-- Both exceptions have the same replacement, and conditions that hold for the same texts. -/
structure RuleException.Alike (first second : RuleException) : Prop where
  span : SameCondition first.span second.span
  before : SameCondition first.before second.before
  after : SameCondition first.after second.after
  replacement_eq : first.replacement = second.replacement

/-- Both rules have the same main pattern and replacement, conditions that hold for the same texts,
and exceptions that are alike one by one. -/
structure Rule.Alike (first second : Rule) : Prop where
  main_eq : first.main = second.main
  before : SameCondition first.before second.before
  after : SameCondition first.after second.after
  replacement_eq : first.replacement = second.replacement
  exceptions : List.Forall₂ RuleException.Alike first.exceptions second.exceptions

theorem RuleException.Alike.applies_eq {first second : RuleException} (halike : first.Alike second)
    (before span after : List Char) :
    first.applies before span after = second.applies before span after := by
  rw [applies, applies, halike.span, halike.before, halike.after]

namespace Rule.Alike

variable {first second : Rule}

theorem replacementFor_eq (halike : first.Alike second) (before span after : List Char) :
    first.replacementFor before span after = second.replacementFor before span after := by
  -- Exceptions that correspond apply to the same parts, so the first ones that do correspond.
  have hfind : ∀ {exceptions exceptions' : List RuleException},
      List.Forall₂ RuleException.Alike exceptions exceptions' →
      ((exceptions.find? fun exception => exception.applies before span after).map
          RuleException.replacement) =
        (exceptions'.find? fun exception => exception.applies before span after).map
          RuleException.replacement := by
    intro exceptions exceptions' hexceptions
    induction hexceptions with
    | nil => rfl
    | @cons exception exception' _ _ hexception _ ih =>
        rw [List.find?_cons, List.find?_cons, hexception.applies_eq]
        cases exception'.applies before span after with
        | true => exact congrArg some hexception.replacement_eq
        | false => exact ih
  have hsame := hfind halike.exceptions
  unfold replacementFor
  rw [halike.replacement_eq]
  cases hfirst : first.exceptions.find? fun exception => exception.applies before span after with
  | none =>
      rw [hfirst, Option.map_none, eq_comm, Option.map_eq_none_iff] at hsame
      rw [hsame]
  | some exception =>
      rw [hfirst, Option.map_some, eq_comm, Option.map_eq_some_iff] at hsame
      obtain ⟨exception', hsecond, hreplacement⟩ := hsame
      rw [hsecond]
      exact hreplacement.symm

/-- Rules that are alike apply at the same places of a text, with the same answer. -/
theorem matchAt?_eq (halike : first.Alike second) (text : List Char) (position : Nat) :
    first.matchAt? text position = second.matchAt? text position := by
  have hbetween : ∀ before rest,
      first.matchBetween? before rest = second.matchBetween? before rest := by
    intro before rest
    unfold matchBetween?
    rw [halike.main_eq, halike.before]
    split
    · rfl
    · simp only [halike.after _, halike.replacementFor_eq]
  unfold matchAt?
  simp only [hbetween]

end Rule.Alike

/-! ## Step by step -/

/-- The steps that build an exception, in the order of its conditions. -/
theorem ExceptionRecord.build_eq (record : ExceptionRecord) :
    record.build = do
      let span ← Pattern.ofCondition record.span .start
      let before ← Pattern.ofCondition record.before .finish
      let after ← Pattern.ofCondition record.after .start
      return { span, before, after, replacement := record.replacement } := by
  have hspan := withCondition_eq (fun span : Option Pattern =>
    ({ span, replacement := record.replacement } : RuleException)) rfl
    (fun source => (rfl : RuleException.withSpan _ source = _)) record.span
  have hbefore := fun span => withCondition_eq (fun before : Option Pattern =>
    ({ span, before, replacement := record.replacement } : RuleException)) rfl
    (fun source => (rfl : RuleException.withBefore _ source = _)) record.before
  have hafter := fun span before => withCondition_eq (fun after : Option Pattern =>
    ({ span, before, after, replacement := record.replacement } : RuleException)) rfl
    (fun source => (rfl : RuleException.withAfter _ source = _)) record.after
  simp only [build, hspan, hbefore, hafter, bind_assoc, pure_bind]

theorem foldlM_withException (records : List ExceptionRecord) (rule : Rule) :
    records.foldlM (fun rule exception => do return rule.withException (← exception.build)) rule =
      do
        let exceptions ← records.mapM ExceptionRecord.build
        return { rule with exceptions := rule.exceptions ++ exceptions } := by
  induction records generalizing rule with
  | nil => simp
  | cons record records ih =>
      simp only [List.foldlM_cons, List.mapM_cons, bind_assoc, pure_bind]
      refine bind_congr fun exception => ?_
      rw [ih]
      refine bind_congr fun exceptions => ?_
      rw [Rule.withException, List.append_assoc, List.singleton_append]

/-- The steps that build a rule, in the order in which its patterns are declared. -/
theorem RuleRecord.build_eq (record : RuleRecord) :
    record.build = do
      let main ← Pattern.compile record.main .start
      let before ← Pattern.ofCondition record.before .finish
      let after ← Pattern.ofCondition record.after .start
      let exceptions ← record.exceptions.mapM ExceptionRecord.build
      return { main, before, after, replacement := record.replacement, exceptions } := by
  have hbefore := fun main => withCondition_eq (fun before : Option Pattern =>
    ({ main, before, replacement := record.replacement } : Rule)) rfl
    (fun source => (rfl : Rule.withBefore _ source = _)) record.before
  have hafter := fun main before => withCondition_eq (fun after : Option Pattern =>
    ({ main, before, after, replacement := record.replacement } : Rule)) rfl
    (fun source => (rfl : Rule.withAfter _ source = _)) record.after
  simp only [build, Rule.ofPattern, hbefore, hafter, foldlM_withException, bind_assoc, pure_bind,
    List.nil_append]

/-! ## As a whole -/

theorem ExceptionRecord.agrees_build (record : ExceptionRecord) :
    Compiling.Agrees RuleException.Alike record.compile record.build := by
  rw [build_eq]
  unfold compile
  refine Compiling.agrees_bind (agrees_condition record.span .start) fun span span' hspan => ?_
  refine Compiling.agrees_bind (agrees_condition record.before .finish)
    fun before before' hbefore => ?_
  refine Compiling.agrees_bind (agrees_condition record.after .start) fun after after' hafter => ?_
  exact Compiling.agrees_pure ⟨hspan, hbefore, hafter, rfl⟩

/-- A record that is compiled through a faithful cache comes to the same as one that is built step
by step. -/
theorem RuleRecord.agrees_build (record : RuleRecord) :
    Compiling.Agrees Rule.Alike record.compile record.build := by
  rw [build_eq]
  unfold compile
  refine Compiling.agrees_bind (Compiling.agrees_pattern record.main .start) ?_
  rintro main _ rfl
  refine Compiling.agrees_bind (agrees_condition record.before .finish)
    fun before before' hbefore => ?_
  refine Compiling.agrees_bind (agrees_condition record.after .start) fun after after' hafter => ?_
  refine Compiling.agrees_bind
    (Compiling.agrees_mapM ExceptionRecord.agrees_build record.exceptions)
    fun exceptions exceptions' hexceptions => ?_
  exact Compiling.agrees_pure ⟨rfl, hbefore, hafter, rfl, hexceptions⟩

/-! ## The pattern at fault -/

/-- The patterns among some conditions, in their order. -/
def declaredPatterns (conditions : List (Option String × Anchor)) : List (String × Anchor) :=
  conditions.filterMap fun (source, anchor) => source.map (·, anchor)

/-- The patterns of an exception in the order in which they are declared. -/
def ExceptionRecord.patterns (record : ExceptionRecord) : List (String × Anchor) :=
  declaredPatterns [(record.span, .start), (record.before, .finish), (record.after, .start)]

/-- The patterns of a rule and its exceptions in the order in which they are declared. -/
def RuleRecord.patterns (record : RuleRecord) : List (String × Anchor) :=
  (record.main, .start) ::
    declaredPatterns [(record.before, .finish), (record.after, .start)] ++
    record.exceptions.flatMap ExceptionRecord.patterns

/-- The error of a result, if it is one. -/
def failure? {α : Type} : Except Error α → Option Error
  | .ok _ => none
  | .error error => some error

/-- The error of the first of some patterns that does not compile. -/
def firstFault? (patterns : List (String × Anchor)) : Option Error :=
  patterns.findSome? fun (source, anchor) => failure? (Pattern.compile source anchor)

section

variable {α β : Type}

theorem failure?_eq_some_iff {result : Except Error α} {error : Error} :
    failure? result = some error ↔ result = .error error := by
  cases result <;> simp [failure?]

theorem failure?_eq_none_iff {result : Except Error α} :
    failure? result = none ↔ ∃ a, result = .ok a := by
  cases result <;> simp [failure?]

@[simp] theorem failure?_pure (a : α) : failure? (pure a : Except Error α) = none := rfl

/-- Where the error of a second step does not depend on the first, the errors come in order. -/
theorem failure?_bind {first : Except Error α} {next : α → Except Error β} {rest : Option Error}
    (hnext : ∀ a, failure? (next a) = rest) :
    failure? (first >>= next) = (failure? first).or rest := by
  cases first with
  | error error => rfl
  | ok a => exact hnext a

end

theorem firstFault?_append (first second : List (String × Anchor)) :
    firstFault? (first ++ second) = (firstFault? first).or (firstFault? second) :=
  List.findSome?_append

theorem firstFault?_cons (source : String) (anchor : Anchor) (patterns : List (String × Anchor)) :
    firstFault? ((source, anchor) :: patterns) =
      (failure? (Pattern.compile source anchor)).or (firstFault? patterns) := by
  rw [firstFault?, List.findSome?_cons]
  cases hfailure : failure? (Pattern.compile source anchor) with
  | none => simp only [hfailure, Option.none_or, firstFault?]
  | some error => simp only [hfailure, Option.some_or]

theorem firstFault?_declaredPatterns_cons (condition : Option String) (anchor : Anchor)
    (conditions : List (Option String × Anchor)) :
    firstFault? (declaredPatterns ((condition, anchor) :: conditions)) =
      (failure? (Pattern.ofCondition condition anchor)).or
        (firstFault? (declaredPatterns conditions)) := by
  cases condition with
  | none => rfl
  | some source =>
      have hfailure : failure? (Pattern.ofCondition (some source) anchor) =
          failure? (Pattern.compile source anchor) := by
        rw [Pattern.ofCondition, failure?_bind fun pattern => failure?_pure (some pattern),
          Option.or_none]
      rw [hfailure, ← firstFault?_cons]
      rfl

theorem ExceptionRecord.failure?_build (record : ExceptionRecord) :
    failure? record.build = firstFault? record.patterns := by
  rw [build_eq, patterns]
  simp only [firstFault?_declaredPatterns_cons]
  exact failure?_bind fun span => failure?_bind fun before => failure?_bind fun after => rfl

theorem failure?_mapM_build (records : List ExceptionRecord) :
    failure? (records.mapM ExceptionRecord.build) =
      firstFault? (records.flatMap ExceptionRecord.patterns) := by
  induction records with
  | nil => rfl
  | cons record records ih =>
      rw [List.mapM_cons, List.flatMap_cons, firstFault?_append, ← record.failure?_build, ← ih]
      refine failure?_bind fun exception => ?_
      rw [failure?_bind fun exceptions => failure?_pure (exception :: exceptions), Option.or_none]

/-- A rule that cannot be built has the error of its first pattern that does not compile. -/
theorem RuleRecord.failure?_build (record : RuleRecord) :
    failure? record.build = firstFault? record.patterns := by
  have hnone : firstFault? (declaredPatterns []) = none := rfl
  rw [build_eq, patterns, List.cons_append, firstFault?_cons, firstFault?_append,
    ← failure?_mapM_build]
  simp only [firstFault?_declaredPatterns_cons, hnone, Option.or_none, Option.or_assoc]
  refine failure?_bind fun main => failure?_bind fun before => failure?_bind fun after => ?_
  rw [failure?_bind fun exceptions => failure?_pure _, Option.or_none]

/-- A record that is compiled as a whole, through a cache that has been filled in any way, and one
that is built step by step come to the same.

Either both fail, and then with the same error, which names the first declared pattern that does not
compile; or both lead to rules that apply at the same places of every text, with the same answer.
In particular an empty condition, which is left out in one way, is compiled in the other to a
pattern that matches every text. -/
theorem RuleRecord.compile_agrees_with_build (record : RuleRecord)
    (calls : List (String × Anchor)) :
    let compiled := (record.compile.run (PatternCache.compileAll {} calls)).1
    ((∃ rule, compiled = .ok rule) ↔ ∃ rule, record.build = .ok rule) ∧
    (∀ error, compiled = .error error ↔ record.build = .error error) ∧
    (∀ error, record.build = .error error ↔
      ∃ earlier source anchor later, record.patterns = earlier ++ (source, anchor) :: later ∧
        (∀ other ∈ earlier, ∃ pattern, Pattern.compile other.1 other.2 = .ok pattern) ∧
        Pattern.compile source anchor = .error error ∧
        ∃ reason, error = .badPattern source reason) ∧
    (∀ rule built, compiled = .ok rule → record.build = .ok built →
      ∀ text position, rule.matchAt? text position = built.matchAt? text position) ∧
    ∀ anchor, ∃ pattern, Pattern.compile "" anchor = .ok pattern ∧
      ∀ text, pattern.isMatch text = true := by
  intro compiled
  have hfaithful := PatternCache.faithful_compileAll calls
  have hsame : SameResult Rule.Alike compiled record.build := (record.agrees_build _ hfaithful).1
  refine ⟨hsame.exists_ok_iff, hsame.eq_error_iff, fun error => ?_, ?_, Pattern.compile_empty⟩
  · rw [← failure?_eq_some_iff, record.failure?_build, firstFault?, List.findSome?_eq_some_iff]
    -- the first fault among the patterns is the one before which all others compile
    constructor
    · rintro ⟨earlier, ⟨source, anchor⟩, later, hpatterns, hfault, hearlier⟩
      have hcompile := failure?_eq_some_iff.mp hfault
      exact ⟨earlier, source, anchor, later, hpatterns,
        fun other hother => failure?_eq_none_iff.mp (hearlier other hother), hcompile,
        Pattern.exists_of_compile_eq_error hcompile⟩
    · rintro ⟨earlier, source, anchor, later, hpatterns, hearlier, hcompile, -⟩
      exact ⟨earlier, (source, anchor), later, hpatterns, failure?_eq_some_iff.mpr hcompile,
        fun other hother => failure?_eq_none_iff.mpr (hearlier other hother)⟩
  · intro rule built hrule hbuilt text position
    exact (hsame.related hrule hbuilt).matchAt?_eq text position

end Transliteration
