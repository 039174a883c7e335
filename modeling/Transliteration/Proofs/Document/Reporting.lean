import Transliteration.Proofs.Document.Registration
import Transliteration.Proofs.RuleSet.Isolation

/-!
# Errors that are not to be shown

A loader can be told not to show the errors that arise from rules.  The errors that it reports
itself are hidden then: those of the formulas and languages of a document, and those that loading a
language returns.  A rule with a pattern that does not compile is not hidden, since a warning about
it has been given before its error is returned, where nobody knows what the loader was told.

## Strategy

Entries that are minor (`LogEntry.minor`) are never shown.  What is left of a log when they are
dropped is told level by level: for a list of records (`RuleRecord.log_compileAll`), for a rule set
(`RuleSet.major_load`), for one language of a registry (`Loader.major_loadLanguage`), and by
induction for any sequence of languages (`Loader.major_loadLanguages`).  What carries the induction
is `Registry.pending`: a language has records to be compiled until it is loaded for the first time.
-/

namespace Transliteration

/-! ## What is shown -/

/-- Entries for those who look for them. -/
def LogEntry.minor (entry : LogEntry) : Bool := entry.level == .debug

/-- The entries that are not minor. -/
def Logged.major {α : Type} (logged : Logged α) : List LogEntry :=
  logged.log.filter fun entry => !entry.minor

namespace Logged

variable {α β : Type}

@[simp] theorem major_pure (a : α) : (pure a : Logged α).major = [] := rfl

@[simp] theorem major_bind (first : Logged α) (next : α → Logged β) :
    (first >>= next).major = first.major ++ (next first.value).major := by
  simp [major]

@[simp] theorem major_map (f : α → β) (first : Logged α) : (f <$> first).major = first.major := by
  simp [major]

@[simp] theorem major_report (entries : List LogEntry) :
    (report entries).major = entries.filter fun entry => !entry.minor := rfl

/-- What is shown by default is never minor. -/
theorem apply_standard_major (logged : Logged α) :
    LogFilter.standard.apply logged.major = LogFilter.standard.apply logged.log := by
  rw [LogFilter.apply, LogFilter.apply, major, List.filter_filter]
  refine List.filter_congr fun entry _ => ?_
  obtain ⟨level, message⟩ := entry
  cases level <;> rfl

end Logged

/-! ## Rules that are skipped -/

/-- The warning that is given about a record, if it has a fault. -/
def RuleRecord.warning? (record : RuleRecord) : Option LogEntry :=
  record.fault?.map record.skippedWarning

/-- The warnings about some records, in their order. -/
def RuleRecord.warnings (records : List RuleRecord) : List LogEntry := records.filterMap warning?

theorem RuleRecord.warnings_append (first second : List RuleRecord) :
    warnings (first ++ second) = warnings first ++ warnings second :=
  List.filterMap_append

theorem RuleRecord.warnings_eq_nil_iff {records : List RuleRecord} :
    warnings records = [] ↔ ∀ record ∈ records, record.fault? = none := by
  simp [warnings, warning?, List.filterMap_eq_nil_iff]

theorem RuleRecord.level_of_mem_warnings {records : List RuleRecord} {entry : LogEntry}
    (hentry : entry ∈ warnings records) : entry.level = .warn := by
  obtain ⟨record, -, hwarning⟩ := List.mem_filterMap.mp hentry
  obtain ⟨error, -, rfl⟩ := Option.map_eq_some_iff.mp hwarning
  rfl

/-- No warning is minor. -/
theorem RuleRecord.filter_warnings (records : List RuleRecord) :
    (warnings records).filter (fun entry => !entry.minor) = warnings records := by
  rw [List.filter_eq_self]
  intro entry hentry
  rw [LogEntry.minor, level_of_mem_warnings hentry]
  rfl

section

variable {cache : PatternCache}

theorem RuleRecord.log_compileAll (hcache : cache.Faithful) (records : List RuleRecord) :
    (compileAll cache records).log = warnings records := by
  induction records generalizing cache with
  | nil => rfl
  | cons record records ih =>
      obtain ⟨-, hnext⟩ := record.run_compile hcache
      have hcases := record.compile_cases hcache
      unfold compileAll
      generalize record.compile.run cache = answer at hnext hcases
      obtain ⟨result, next⟩ := answer
      rcases hcases with ⟨rule, rfl, -, hfault⟩ | ⟨error, rfl, -, hfault⟩
      · simp [ih hnext, warnings, warning?, hfault]
      · simp [ih hnext, warnings, warning?, hfault]

theorem ProfileRecord.log_compileAll (hcache : cache.Faithful) (records : List ProfileRecord) :
    (compileAll cache records).log =
      RuleRecord.warnings (records.flatMap ProfileRecord.transliterations) := by
  induction records generalizing cache with
  | nil => rfl
  | cons record records ih =>
      obtain ⟨-, hnext⟩ := RuleRecord.value_compileAll hcache record.transliterations
      simp [compileAll, RuleRecord.log_compileAll hcache, ih hnext, RuleRecord.warnings_append]

end

/-- Of loading rules nothing is major but the warnings about those that are skipped. -/
theorem RuleSet.major_load (set : RuleSet) (rules : LanguageRules) :
    (set.load rules).major = if set.loaded then [] else RuleRecord.warnings rules.records := by
  obtain ⟨-, hcache⟩ :=
    RuleRecord.value_compileAll PatternCache.faithful_empty rules.transcriptions
  have htranscriptions := RuleRecord.log_compileAll PatternCache.faithful_empty rules.transcriptions
  have hprofiles := ProfileRecord.log_compileAll hcache rules.profiles
  have hsummary (loaded : RuleSet) (patterns errors : Nat) :
      (loaded.loadSummary patterns errors).minor = true := rfl
  unfold load
  cases set.loaded with
  | true => rfl
  | false =>
      rw [if_neg Bool.false_ne_true, if_neg Bool.false_ne_true]
      simp [LanguageRules.records, RuleRecord.warnings_append, Logged.major, htranscriptions,
        hprofiles, hsummary, RuleRecord.filter_warnings]

/-! ## Languages loaded one after another -/

namespace Loader

/-- Loads a language and reports the errors of its rules.  There is nothing to report of a name that
is not registered. -/
def loadLanguage (loader : Loader) (registry : Registry) (name : String) : Logged Registry := do
  let (answer, registry) ← registry.load name
  match answer with
  | .error _ => return registry
  | .ok errors =>
    Logged.report (loader.report errors)
    return registry

/-- Loads languages one after another and reports the errors of each. -/
def loadLanguages (loader : Loader) (registry : Registry) : List String → Logged Registry
  | [] => pure registry
  | name :: names => do
    let registry ← loader.loadLanguage registry name
    loader.loadLanguages registry names

end Loader

/-- The records that are compiled when the language with this name is loaded. -/
def Registry.pending (registry : Registry) (name : String) : List RuleRecord :=
  match registry.find? name with
  | none => []
  | some language => if language.rules.loaded then [] else (language.deferred.getD {}).records

namespace Loader

variable {loader : Loader}

/-- What a loader reports that is not to show errors is minor. -/
theorem filter_report (hhidden : loader.showErrors = false) (errors : List Error) :
    (loader.report errors).filter (fun entry => !entry.minor) = [] := by
  simp [report, hhidden, LogEntry.minor]

theorem major_loadLanguage (hhidden : loader.showErrors = false) (registry : Registry)
    (name : String) :
    (loader.loadLanguage registry name).major =
      RuleRecord.warnings (registry.pending name) := by
  unfold loadLanguage Registry.load
  rcases registry.locate?_name_cases name with
    ⟨hname, hlocate⟩ | ⟨index, set, rfl, hposition, hset, hlocate⟩
  · rw [Registry.locate_eq_error hlocate, Registry.pending, Registry.find?_eq_none_iff.mpr hname]
    rfl
  · have hpending : registry.pending set.name =
        if set.loaded then [] else ((registry.deferrals.find? set.name).getD {}).records := by
      rw [Registry.pending, Registry.find?_of_position? hposition hset]
      rfl
    have hload := set.major_load ((registry.deferrals.find? set.name).getD {})
    rw [Registry.locate_eq_ok hlocate, hpending]
    simp only [bind_pure_comp, bind_map_left, Logged.major_bind, Logged.major_map, hload,
      Logged.major_report, filter_report hhidden, List.append_nil]
    split <;> rfl

theorem value_loadLanguage (loader : Loader) (registry : Registry) (name : String) :
    (loader.loadLanguage registry name).value = (registry.perform (.load name)).2 := by
  rw [loadLanguage, Registry.perform, Logged.value_bind]
  cases (registry.load name).value with
  | mk answer after => cases answer <;> rfl

/-- A language that has been loaded has nothing left to be compiled, and no other language is
affected. -/
theorem pending_loadLanguage (loader : Loader) (registry : Registry) (name other : String) :
    (loader.loadLanguage registry name).value.pending other =
      if other = name then [] else registry.pending other := by
  rw [value_loadLanguage]
  cases hfind : registry.find? name with
  | none =>
      rw [Registry.perform_load_of_find?_eq_none hfind]
      by_cases hother : other = name
      · subst hother
        simp [Registry.pending, hfind]
      · simp [hother]
  | some language =>
      have hloaded : language.load.value.2.rules.loaded = true := language.rules.loaded_load _
      rw [Registry.pending, (Registry.find?_perform_load hfind).2]
      by_cases hother : other = name
      · simp [hother, hloaded]
      · simp [hother, Registry.pending]

end Loader

/-- Whether an element is dropped before or after its repetitions makes no difference. -/
theorem eraseDups_filter {α : Type} [BEq α] [LawfulBEq α] (keep : α → Bool) :
    ∀ list : List α, (list.filter keep).eraseDups = list.eraseDups.filter keep
  | [] => rfl
  | a :: rest => by
      have hlength : (rest.filter fun b => !b == a).length < (a :: rest).length :=
        Nat.lt_succ_of_le (List.length_filter_le _ _)
      have hother := eraseDups_filter keep (rest.filter fun b => !b == a)
      rw [List.filter_filter] at hother
      rw [List.eraseDups_cons, List.filter_cons, List.filter_cons, ← hother]
      cases hkeep : keep a with
      | true =>
          rw [if_pos rfl, if_pos rfl, List.eraseDups_cons, List.filter_filter]
          simp only [Bool.and_comm]
      | false =>
          rw [if_neg Bool.false_ne_true, if_neg Bool.false_ne_true]
          congr 1
          refine List.filter_congr fun b _ => ?_
          by_cases hb : b = a
          · simp [hb, hkeep]
          · simp [hb]
termination_by list => list.length
decreasing_by exact hlength

/-- What the first element contributes is not contributed again. -/
theorem flatMap_eraseDups_cons {α β : Type} [BEq α] [LawfulBEq α] (f : α → List β) (a : α)
    (list : List α) :
    (a :: list).eraseDups.flatMap f =
      f a ++ list.eraseDups.flatMap fun b => if b == a then [] else f b := by
  rw [List.eraseDups_cons, List.flatMap_cons, eraseDups_filter]
  congr 1
  induction list.eraseDups with
  | nil => rfl
  | cons b rest ih =>
      rw [List.filter_cons, List.flatMap_cons, ← ih]
      cases b == a with
      | true => rfl
      | false => rfl

/-- Of loading languages one after another nothing is major but the warnings about the rules that
are skipped, each given when its language is loaded for the first time. -/
theorem Loader.major_loadLanguages {loader : Loader} (hhidden : loader.showErrors = false)
    (registry : Registry) (names : List String) :
    (loader.loadLanguages registry names).major =
      names.eraseDups.flatMap fun name => RuleRecord.warnings (registry.pending name) := by
  induction names generalizing registry with
  | nil => rfl
  | cons name names ih =>
      rw [loadLanguages, Logged.major_bind, major_loadLanguage hhidden, ih, flatMap_eraseDups_cons]
      congr 1
      refine List.flatMap_congr fun other _ => ?_
      rw [pending_loadLanguage]
      by_cases hother : other = name
      · simp [hother, RuleRecord.warnings]
      · simp [hother]

/-! ## The languages of a document -/

/-- The rules that a language declares. -/
def LanguageDocument.records (language : LanguageDocument) : List RuleRecord :=
  language.transcriptions ++ language.profiles.flatMap ProfileRecord.transliterations

namespace RuleDocument

/-- The language that a document declares under a name: the first one that has it. -/
def language? (document : RuleDocument) (name : String) : Option LanguageDocument :=
  document.languages.find? fun language => language.name == name

/-- The warnings about the rules of some languages that are skipped.  A language is loaded once. -/
def warnings (document : RuleDocument) (names : List String) : List LogEntry :=
  names.eraseDups.flatMap fun name =>
    (document.language? name).elim [] fun language => RuleRecord.warnings language.records

theorem language?_append (languages : List LanguageDocument) (last : LanguageDocument)
    (name : String) :
    language? ⟨languages ++ [last]⟩ name =
      (language? ⟨languages⟩ name).or (if last.name = name then some last else none) := by
  simp [language?, List.find?_append, List.find?_singleton]

/-- A language whose name has occurred before is never the one that is found. -/
theorem find?_firstOccurrences (document : RuleDocument) (name : String) :
    (document.firstOccurrences.find? fun language => language.name == name) =
      document.language? name := by
  obtain ⟨languages⟩ := document
  induction languages using List.reverseRecOn with
  | nil => rfl
  | append_singleton languages last ih =>
      rw [firstOccurrences_append, language?_append, List.find?_append, ih]
      by_cases hlast : last.name ∈ languages.map LanguageDocument.name
      · rw [if_pos hlast, List.find?_nil, Option.or_none]
        by_cases hname : last.name = name
        · obtain ⟨language, hlanguage, hsame⟩ := List.mem_map.mp hlast
          have hfound : (language? ⟨languages⟩ name).isSome := by
            rw [language?, List.find?_isSome]
            exact ⟨language, hlanguage, by simp [hsame, hname]⟩
          rw [Option.or_of_isSome hfound]
        · rw [if_neg hname, Option.or_none]
      · simp [hlast, List.find?_singleton]

theorem pending_registry (document : RuleDocument) (name : String) :
    (registry document.firstOccurrences).pending name =
      (document.language? name).elim [] LanguageDocument.records := by
  have hfind : (registry document.firstOccurrences).find? name =
      (document.language? name).map LanguageDocument.registered := by
    rw [find?_registry (nodup_firstOccurrences document.languages), find?_firstOccurrences]
  rw [Registry.pending, hfind]
  cases document.language? name with
  | none => rfl
  | some language =>
      simp [LanguageDocument.registered, LanguageDocument.created, LanguageDocument.deferral,
        LanguageRules.records, LanguageDocument.records]

/-- A document gives cause to no warning if no rule of the languages that are loaded is at fault. -/
theorem warnings_eq_nil_iff {document : RuleDocument} {names : List String} :
    document.warnings names = [] ↔
      ∀ name ∈ names, ∀ language, document.language? name = some language →
        ∀ record ∈ language.records, record.fault? = none := by
  rw [warnings, List.flatMap_eq_nil_iff]
  simp only [List.mem_eraseDups]
  refine forall₂_congr fun name _ => ?_
  cases document.language? name with
  | none => simp
  | some language => simp [RuleRecord.warnings_eq_nil_iff]

/-- All warnings are shown by default. -/
theorem apply_standard_warnings (document : RuleDocument) (names : List String) :
    LogFilter.standard.apply (document.warnings names) = document.warnings names := by
  rw [LogFilter.apply, List.filter_eq_self]
  intro entry hentry
  obtain ⟨name, -, hentry⟩ := List.mem_flatMap.mp hentry
  cases hlanguage : document.language? name with
  | none => simp [hlanguage] at hentry
  | some language =>
      rw [hlanguage] at hentry
      rw [LogFilter.shows, RuleRecord.level_of_mem_warnings hentry]
      rfl

end RuleDocument

/-! ## Documents opened by a loader -/

/-- Where a document comes from. -/
inductive DocumentSource where
  | text (content : String)
  | file (path : String) (content : FileContent)

/-- The document that is read. -/
def DocumentSource.document : DocumentSource → Except Error RuleDocument
  | .text content => RuleDocument.ofText content
  | .file _ content => RuleDocument.ofFile content

namespace Loader

/-- Loads a document. -/
def loadSource (loader : Loader) : DocumentSource → Except Error (Logged LoadedDocument)
  | .text content => loader.loadText content
  | .file path content => loader.loadFile path content

/-- Loads languages from a document that has been loaded. -/
def continueWith (loader : Loader) (opened : Logged LoadedDocument) (names : List String) :
    Logged Registry := do
  let loaded ← opened
  loader.loadLanguages loaded.registry names

variable {loader : Loader}

/-- The languages of a document are opened without anything major, if errors are not to be shown. -/
theorem major_loadDocument (hhidden : loader.showErrors = false) (document : RuleDocument) :
    (loader.loadDocument document).major = [] := by
  simp [loadDocument, filter_report hhidden]

theorem value_loadDocument (loader : Loader) (document : RuleDocument) :
    (loader.loadDocument document).value.registry =
      RuleDocument.registry document.firstOccurrences :=
  congrArg LoadedDocument.registry document.register_eq

/-- Loading fails where reading fails and nowhere else. -/
theorem loadSource_cases (loader : Loader) (source : DocumentSource) :
    (∃ error, source.document = .error error ∧ loader.loadSource source = .error error) ∨
    ∃ document opened, source.document = .ok document ∧ loader.loadSource source = .ok opened ∧
      opened.value = (loader.loadDocument document).value ∧
      opened.major = (loader.loadDocument document).major := by
  cases source with
  | text content =>
      rw [loadSource, loadText, DocumentSource.document]
      cases RuleDocument.ofText content with
      | error error => exact .inl ⟨error, rfl, rfl⟩
      | ok document => exact .inr ⟨document, _, rfl, rfl, rfl, rfl⟩
  | file path content =>
      rw [loadSource, loadFile, DocumentSource.document]
      cases RuleDocument.ofFile content with
      | error error => exact .inl ⟨error, rfl, rfl⟩
      | ok document => exact .inr ⟨document, _, rfl, rfl, rfl, by rw [Logged.major_bind]; rfl⟩

theorem major_continueWith (hhidden : loader.showErrors = false) {document : RuleDocument}
    {opened : Logged LoadedDocument} (hvalue : opened.value = (loader.loadDocument document).value)
    (hmajor : opened.major = (loader.loadDocument document).major) (names : List String) :
    (loader.continueWith opened names).major = document.warnings names := by
  have hregistry : opened.value.registry = RuleDocument.registry document.firstOccurrences :=
    hvalue ▸ loader.value_loadDocument document
  rw [continueWith, Logged.major_bind, hmajor, major_loadDocument hhidden, List.nil_append,
    hregistry, major_loadLanguages hhidden, RuleDocument.warnings]
  refine List.flatMap_congr fun name _ => ?_
  rw [RuleDocument.pending_registry]
  cases document.language? name with
  | none => rfl
  | some language => rfl

/-- What is shown although errors are not to be shown.

Whatever document is loaded by a loader that does not show errors, and whatever languages are then
loaded from it and their errors reported, the entries that are not minor are those that are shown by
default: the warnings about the rules that are skipped, given when their language is loaded for the
first time.  Nothing is shown of formulas and languages that are left out.  So the errors stay
hidden exactly if no rule of the languages that are loaded has a pattern that does not compile. -/
theorem shown_of_hidden_errors (source : DocumentSource) (names : List String) :
    let loader : Loader := { showErrors := false }
    let loadings := (loader.loadSource source).map fun opened => loader.continueWith opened names
    loadings.map Logged.major =
        source.document.map (fun document => document.warnings names) ∧
    loadings.map (fun loading => LogFilter.standard.apply loading.log) =
        source.document.map (fun document => document.warnings names) ∧
    ∀ document : RuleDocument, document.warnings names = [] ↔
      ∀ name ∈ names, ∀ language, document.language? name = some language →
        ∀ record ∈ language.records, ∀ required ∈ record.required,
          ∃ pattern, Pattern.compile required.1 required.2 = .ok pattern := by
  intro loader loadings
  have hnothing (document : RuleDocument) : document.warnings names = [] ↔ _ :=
    document.warnings_eq_nil_iff
  simp only [RuleRecord.fault?_eq_none_iff] at hnothing
  rcases loader.loadSource_cases source with
    ⟨error, hdocument, hload⟩ | ⟨document, opened, hdocument, hload, hvalue, hmajor⟩
  · have hloadings : loadings = .error error := by simp [loadings, hload, Except.map]
    rw [hloadings, hdocument]
    exact ⟨rfl, rfl, hnothing⟩
  · have hloadings : loadings = .ok (loader.continueWith opened names) := by
      simp [loadings, hload, Except.map]
    have hcontinued : (loader.continueWith opened names).major = _ :=
      major_continueWith rfl hvalue hmajor names
    -- what is shown by default is what is not minor, and warnings are not
    have hshown := Logged.apply_standard_major (loader.continueWith opened names)
    rw [hcontinued, document.apply_standard_warnings] at hshown
    rw [hloadings, hdocument]
    exact ⟨congrArg Except.ok hcontinued, congrArg Except.ok hshown.symm, hnothing⟩

/-- An error that is not to be shown and is: of two rules one does not compile, and loading their
language gives a warning about it. -/
theorem hidden_error_shown :
    let source : DocumentSource := .text <|
      "\x7b\"languages\":[\x7b\"iso\":\"tst\",\"name\":\"Test\",\"transcriptions\":[" ++
      "\x7b\"original\":\"(\",\"replacement\":\"x\"\x7d," ++
      "\x7b\"original\":\"a\",\"replacement\":\"b\"\x7d]\x7d]\x7d"
    let loader : Loader := { showErrors := false }
    let broken : RuleRecord := { main := "(", replacement := "x" }
    let fault : Error := .badPattern "(" Regex.Fault.unclosedGroup.message
    ((loader.loadSource source).toOption.map fun opened =>
        LogFilter.standard.apply (loader.continueWith opened ["Test"]).log) =
      some [broken.skippedWarning fault] := by
  decide +kernel

end Loader

end Transliteration
