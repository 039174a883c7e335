import Transliteration.Log
import Transliteration.Pattern.Cache
import Transliteration.Rule

/-!
# Records of rules

Rules come as records whose patterns are still texts.  A record is compiled as a whole: one pattern
that does not compile spoils its rule, and the first such pattern is the one that is reported.  The
other rules of a list are kept, in their order.

A condition that is the empty text is as good as absent.
-/

namespace Transliteration

/-- An exception as it is declared. -/
structure ExceptionRecord where
  /-- A condition on what the main pattern has matched. -/
  span : Option String := none
  before : Option String := none
  after : Option String := none
  replacement : String := ""
  deriving DecidableEq, Repr

/-- A rule as it is declared. -/
structure RuleRecord where
  main : String
  replacement : String := ""
  before : Option String := none
  after : Option String := none
  exceptions : List ExceptionRecord := []
  deriving DecidableEq, Repr

/-- A way to write a language in the Latin script, as it is declared. -/
structure ProfileRecord where
  name : String
  transliterations : List RuleRecord := []
  deriving DecidableEq, Repr

/-- A way to write a language in the Latin script. -/
structure Profile where
  name : String
  rules : List Rule
  deriving Repr

/-- Compiles an optional condition. -/
def Compiling.condition (source : Option String) (anchor : Anchor) : Compiling (Option Pattern) :=
  match source.filter (· ≠ "") with
  | none => pure none
  | some source => do return some (← Compiling.pattern source anchor)

/-- Compiles the conditions of an exception, in the order in which they are declared. -/
def ExceptionRecord.compile (record : ExceptionRecord) : Compiling RuleException := do
  let span ← Compiling.condition record.span .start
  let before ← Compiling.condition record.before .finish
  let after ← Compiling.condition record.after .start
  return { span, before, after, replacement := record.replacement }

/-- Compiles a rule: its own patterns first, then those of its exceptions. -/
def RuleRecord.compile (record : RuleRecord) : Compiling Rule := do
  let main ← Compiling.pattern record.main .start
  let before ← Compiling.condition record.before .finish
  let after ← Compiling.condition record.after .start
  let exceptions ← record.exceptions.mapM ExceptionRecord.compile
  return { main, before, after, replacement := record.replacement, exceptions }

/-! ## Records one by one

A rule can also be built from its record step by step, and without a cache.  Then a condition that
is the empty text counts like any other. -/

/-- Goes on with a condition if there is one. -/
def withCondition {α : Type} (add : α → String → Except Error α) (condition : Option String)
    (subject : α) : Except Error α :=
  match condition with
  | none => .ok subject
  | some source => add subject source

/-- Builds an exception by adding its conditions one by one. -/
def ExceptionRecord.build (record : ExceptionRecord) : Except Error RuleException := do
  let exception : RuleException := { replacement := record.replacement }
  let exception ← withCondition RuleException.withSpan record.span exception
  let exception ← withCondition RuleException.withBefore record.before exception
  withCondition RuleException.withAfter record.after exception

/-- Builds a rule by adding its conditions and then its exceptions one by one. -/
def RuleRecord.build (record : RuleRecord) : Except Error Rule := do
  let rule ← Rule.ofPattern record.main record.replacement
  let rule ← withCondition Rule.withBefore record.before rule
  let rule ← withCondition Rule.withAfter record.after rule
  record.exceptions.foldlM (fun rule exception => do return rule.withException (← exception.build))
    rule

/-! ## Lists of records -/

/-- What compiling a list of rules has led to. -/
structure CompiledRules where
  rules : List Rule := []
  /-- The errors of the rules that have been left out. -/
  errors : List Error := []
  deriving Repr

/-- The warning for a rule that is left out. -/
def RuleRecord.skippedWarning (record : RuleRecord) (error : Error) : LogEntry :=
  ⟨.warn, s!"규칙 건너뜀 ('{record.main}'): {error.message}"⟩

/-- Compiles rules through a cache and leaves out those that do not compile. -/
def RuleRecord.compileAll (cache : PatternCache) :
    List RuleRecord → Logged (CompiledRules × PatternCache)
  | [] => pure ({}, cache)
  | record :: records => do
    match record.compile.run cache with
    | (.ok rule, cache) =>
      let (compiled, cache) ← compileAll cache records
      return ({ compiled with rules := rule :: compiled.rules }, cache)
    | (.error error, cache) =>
      Logged.report [record.skippedWarning error]
      let (compiled, cache) ← compileAll cache records
      return ({ compiled with errors := error :: compiled.errors }, cache)

/-- Compiles profiles through a cache.  A profile is kept even if all its rules are left out. -/
def ProfileRecord.compileAll (cache : PatternCache) :
    List ProfileRecord → Logged ((List Profile × List Error) × PatternCache)
  | [] => pure (([], []), cache)
  | record :: records => do
    let (compiled, cache) ← RuleRecord.compileAll cache record.transliterations
    let ((profiles, errors), cache) ← compileAll cache records
    return ((⟨record.name, compiled.rules⟩ :: profiles, compiled.errors ++ errors), cache)

end Transliteration
