import Transliteration.Proofs.CommandLine.Output
import Transliteration.Proofs.Text.Decoding

/-!
# Runs that fail

A run fails at the first stage that goes wrong.  Five stages come before the input is read
(`World.Unprepared`), and in the last one a line of the input is no text (`World.Fails`).  The two
relations are written down from what a run finds, in the order of the stages, and they are exact:
rules cannot be prepared for these reasons only (`prepared_eq_error_iff`), and a run fails for these
reasons only (`succeeded_eq_false_iff`).

## Strategy

That a run fails at a stage is seen by going through the stages before it.  The converse needs no
second look at the program: either some stage goes wrong or all of them go well
(`exists_prepared_or_unprepared`), and no run does both.
-/

namespace Transliteration.CommandLine

/-! ## Attempts -/

namespace Attempt

variable {α β : Type}

theorem value_bind_of_ok {first : Attempt α} {next : α → Attempt β} {a : α}
    (hfirst : first.value = .ok a) : (first >>= next).value = (next a).value := by
  show (ExceptT.bindCont next first.value).value = _
  rw [hfirst]
  rfl

theorem value_bind_of_error {first : Attempt α} {next : α → Attempt β} {failure : Failure}
    (hfirst : first.value = .error failure) : (first >>= next).value = .error failure := by
  show (ExceptT.bindCont next first.value).value = _
  rw [hfirst]
  rfl

theorem value_ofResult_of_error {result : Except Error α} {error : Error}
    (hresult : result = .error error) : (ofResult result).value = .error { error } := by
  rw [hresult]
  rfl

theorem value_ofReported_of_error {result : Except Error (Logged α)} {error : Error}
    (hresult : result = .error error) : (ofReported result).value = .error { error } := by
  rw [hresult]
  rfl

end Attempt

/-! ## Stages -/

namespace World

variable (world : World)

/-- The settings that a run starts from. -/
def settings : Settings := (Settings.ofFile world.settingsFile).value

/-- What a run is asked to do. -/
abbrev request : Except Error Request := Request.ofArguments world.settings world.arguments

/-- How a run fails before it goes on to its input. -/
inductive Unprepared : Failure → Prop where
  /-- The argument after the language is no index. -/
  | badProfileIndex {path language argument : String} {others : List String}
      (harguments :
        splitPath world.settings world.arguments = (path, language :: argument :: others))
      (hindex : Numeral.index? argument.toList = none) :
      Unprepared { error := .badProfileIndex argument }
  /-- The document cannot be read, or is no document of rules. -/
  | badDocument {request : Request} {error : Error} (hrequest : world.request = .ok request)
      (hdocument : RuleDocument.ofFile (world.files request.rulesPath) = .error error) :
      Unprepared { error }
  /-- No language has been chosen, neither now nor before. -/
  | noLanguage {request : Request} {document : RuleDocument}
      (hrequest : world.request = .ok request)
      (hdocument : RuleDocument.ofFile (world.files request.rulesPath) = .ok document)
      (hlanguage : request.language = none) :
      Unprepared ⟨.noLanguage, languageNotice document.register.registry.names⟩
  /-- The document has no language with this name. -/
  | unknownLanguage {request : Request} {document : RuleDocument} {language : String}
      (hrequest : world.request = .ok request)
      (hdocument : RuleDocument.ofFile (world.files request.rulesPath) = .ok document)
      (hlanguage : request.language = some language)
      (hunknown : language ∉ document.register.registry.names) :
      Unprepared { error := .unknownLanguage language }
  /-- The language has no profile with this index. -/
  | profileOutOfRange {request : Request} {document : RuleDocument} {language : String}
      {rules : RuleSet} {index : Nat} (hrequest : world.request = .ok request)
      (hdocument : RuleDocument.ofFile (world.files request.rulesPath) = .ok document)
      (hlanguage : request.language = some language)
      (hrules : document.loaded? language = some rules)
      (hprofile : request.profile = some index) (hindex : rules.profiles.length ≤ index) :
      Unprepared { error := .profileOutOfRange index rules.profiles.length }

/-- How a run fails, and what it has written until then. -/
inductive Fails : Failure → String → Prop where
  /-- Before it goes on to its input it has written nothing. -/
  | unprepared {failure : Failure} (hfailure : world.Unprepared failure) : Fails failure ""
  /-- Before a line that is no text it has written the lines that come earlier. -/
  | badLine {rules : RuleSet} {read : List (List Char)} {line : List UInt8}
      {unread : List (List UInt8)} (hprepared : world.prepared = .ok rules)
      (hinput : Line.split world.input = read.map Utf8.encode ++ line :: unread)
      (hline : ∀ text, line ≠ Utf8.encode text) :
      Fails { error := badLine } (written rules read)

end World

/-! ## Requests -/

/-- A request cannot be made out if an argument should be the index of a profile and is not. -/
theorem ofArguments_eq_error_iff {settings : Settings} {arguments : List String} {error : Error} :
    Request.ofArguments settings arguments = .error error ↔
      ∃ path language argument others,
        splitPath settings arguments = (path, language :: argument :: others) ∧
          Numeral.index? argument.toList = none ∧ error = .badProfileIndex argument := by
  rcases hsplit : splitPath settings arguments with ⟨path, rest⟩
  simp only [Request.ofArguments, hsplit]
  constructor
  · intro herror
    split at herror
    · cases herror
    · cases herror
    · rename_i language argument others
      split at herror
      · cases herror
      · rename_i hindex
        cases herror
        exact ⟨path, language, argument, others, rfl, hindex, rfl⟩
  · rintro ⟨path', language, argument, others, hrest, hindex, rfl⟩
    cases hrest
    simp only [hindex]

/-- A profile cannot be chosen if one is asked for that the language does not have. -/
theorem chooseProfile_eq_error_iff {rules : RuleSet} {profile : Option Nat} {error : Error} :
    chooseProfile rules profile = .error error ↔
      ∃ index, profile = some index ∧ rules.profiles.length ≤ index ∧
        error = .profileOutOfRange index rules.profiles.length := by
  cases profile with
  | some index =>
      rw [chooseProfile, RuleSet.select]
      split
      · rename_i hindex
        simp only [afterwards, reduceCtorEq, Option.some.injEq, false_iff]
        rintro ⟨other, rfl, hlarge, -⟩
        exact Nat.not_le.mpr hindex hlarge
      · rename_i hindex
        constructor
        · intro herror
          cases herror
          exact ⟨index, rfl, Nat.le_of_not_lt hindex, rfl⟩
        · rintro ⟨other, hother, -, rfl⟩
          cases hother
          rfl
  | none =>
      rw [chooseProfile_eq_ok_iff.mpr ⟨by simp, rfl⟩]
      simp

/-! ## Preparing the rules -/

section Prepared

variable {world : World} {failure : Failure}

theorem value_loadFile {loader : Loader} {path : String} {content : FileContent}
    {document : RuleDocument} (hdocument : RuleDocument.ofFile content = .ok document) :
    (Attempt.ofReported (loader.loadFile path content)).value = .ok document.register :=
  Attempt.value_ofReported_eq_ok.mpr (loadFile_eq_ok.mpr ⟨document, hdocument, rfl⟩)

/-- A run for which a stage goes wrong fails with the error of that stage. -/
theorem prepared_of_unprepared (hfailure : world.Unprepared failure) :
    world.prepared = .error failure := by
  show (prepare world.settings world.arguments world.files).value = .error failure
  unfold prepare
  -- All stages before the one that goes wrong are passed, and then its error ends the run.
  cases hfailure with
  | badProfileIndex harguments hindex =>
      exact Attempt.value_bind_of_error <| Attempt.value_ofResult_of_error <|
        ofArguments_eq_error_iff.mpr ⟨_, _, _, _, harguments, hindex, rfl⟩
  | badDocument hrequest hdocument =>
      rw [Attempt.value_bind_of_ok (Attempt.value_ofResult_eq_ok.mpr hrequest)]
      refine Attempt.value_bind_of_error (Attempt.value_ofReported_of_error ?_)
      rw [Loader.loadFile, hdocument]
      rfl
  | noLanguage hrequest hdocument hlanguage =>
      rw [Attempt.value_bind_of_ok (Attempt.value_ofResult_eq_ok.mpr hrequest),
        Attempt.value_bind_of_ok (value_loadFile hdocument), hlanguage]
      rfl
  | unknownLanguage hrequest hdocument hlanguage hunknown =>
      rw [Attempt.value_bind_of_ok (Attempt.value_ofResult_eq_ok.mpr hrequest),
        Attempt.value_bind_of_ok (value_loadFile hdocument), hlanguage]
      have hload := Registry.perform_load_of_find?_eq_none (Registry.find?_eq_none_iff.mpr hunknown)
      rw [Attempt.value_bind_of_ok (Attempt.value_lift_eq_ok.mpr hload)]
      exact Attempt.value_bind_of_error (Attempt.value_ofResult_of_error rfl)
  | profileOutOfRange hrequest hdocument hlanguage hrules hprofile hindex =>
      obtain ⟨errors, herrors, hcurrent⟩ :=
        load_getCurrent_eq_ok.mpr (Option.map_eq_some_iff.mp hrules)
      rw [Attempt.value_bind_of_ok (Attempt.value_ofResult_eq_ok.mpr hrequest),
        Attempt.value_bind_of_ok (value_loadFile hdocument), hlanguage]
      simp only
      rw [Attempt.value_bind_of_ok (Attempt.value_lift_eq_ok.mpr rfl),
        Attempt.value_bind_of_ok (Attempt.value_ofResult_eq_ok.mpr herrors),
        Attempt.value_bind_of_ok (Attempt.value_report _),
        Attempt.value_bind_of_ok (Attempt.value_ofResult_eq_ok.mpr hcurrent)]
      exact Attempt.value_bind_of_error <| Attempt.value_ofResult_of_error <|
        chooseProfile_eq_error_iff.mpr ⟨_, hprofile, hindex, rfl⟩

/-- With a language of the document all that can still go wrong is the profile. -/
theorem prepared_of_loaded {request : Request} {document : RuleDocument} {language : String}
    {rules : RuleSet} (hrequest : world.request = .ok request)
    (hdocument : RuleDocument.ofFile (world.files request.rulesPath) = .ok document)
    (hlanguage : request.language = some language)
    (hrules : document.loaded? language = some rules) :
    world.prepared = (chooseProfile rules request.profile).mapError fun error => { error } := by
  cases hchosen : chooseProfile rules request.profile with
  | error error =>
      obtain ⟨index, hprofile, hindex, rfl⟩ := chooseProfile_eq_error_iff.mp hchosen
      exact prepared_of_unprepared <|
        .profileOutOfRange hrequest hdocument hlanguage hrules hprofile hindex
  | ok chosen =>
      exact value_prepare_eq_ok.mpr
        ⟨request, document, language, rules, hrequest, hdocument, hlanguage, hrules, hchosen⟩

/-- Either all stages go well or one of them goes wrong. -/
theorem exists_prepared_or_unprepared (world : World) :
    (∃ rules, world.prepared = .ok rules) ∨ ∃ failure, world.Unprepared failure := by
  -- The stages are gone through in their order until one goes wrong.
  cases hrequest : world.request with
  | error error =>
      obtain ⟨_, _, _, _, harguments, hindex, -⟩ := ofArguments_eq_error_iff.mp hrequest
      exact .inr ⟨_, .badProfileIndex harguments hindex⟩
  | ok request =>
      cases hdocument : RuleDocument.ofFile (world.files request.rulesPath) with
      | error error => exact .inr ⟨_, .badDocument hrequest hdocument⟩
      | ok document =>
          cases hlanguage : request.language with
          | none => exact .inr ⟨_, .noLanguage hrequest hdocument hlanguage⟩
          | some language =>
              cases hrules : document.loaded? language with
              | none =>
                  have hunknown : language ∉ document.register.registry.names :=
                    Registry.find?_eq_none_iff.mp (Option.map_eq_none_iff.mp hrules)
                  exact .inr ⟨_, .unknownLanguage hrequest hdocument hlanguage hunknown⟩
              | some rules =>
                  have hprepared := prepared_of_loaded hrequest hdocument hlanguage hrules
                  cases hchosen : chooseProfile rules request.profile with
                  | error error =>
                      obtain ⟨index, hprofile, hindex, -⟩ := chooseProfile_eq_error_iff.mp hchosen
                      exact .inr ⟨_, .profileOutOfRange hrequest hdocument hlanguage hrules
                        hprofile hindex⟩
                  | ok chosen =>
                      rw [hchosen] at hprepared
                      exact .inl ⟨chosen, hprepared⟩

/-- Rules cannot be prepared if a stage goes wrong, and not otherwise. -/
theorem prepared_eq_error_iff : world.prepared = .error failure ↔ world.Unprepared failure := by
  constructor
  · intro hprepared
    rcases exists_prepared_or_unprepared world with ⟨rules, hrules⟩ | ⟨other, hother⟩
    · rw [hprepared] at hrules
      cases hrules
    · have hsame := (prepared_of_unprepared hother).symm.trans hprepared
      cases hsame
      exact hother
  · exact prepared_of_unprepared

end Prepared

/-! ## Runs -/

/-- Bytes are no text if they encode none. -/
theorem decode?_eq_none_iff {bytes : List UInt8} :
    Utf8.decode? bytes = none ↔ ∀ text, bytes ≠ Utf8.encode text := by
  rw [Option.eq_none_iff_forall_ne_some]
  simp only [ne_eq, Utf8.decode?_eq_some_iff]
  exact ⟨fun h text => String.toList_ofList (l := text) ▸ h (String.ofList text),
    fun h text => h text.toList⟩

/-- Lines are all texts, or there is a first one that is none. -/
theorem exists_encoded_or_badLine (lines : List (List UInt8)) :
    (∃ read : List (List Char), lines = read.map Utf8.encode) ∨
      ∃ (read : List (List Char)) (line : List UInt8) (unread : List (List UInt8)),
        lines = read.map Utf8.encode ++ line :: unread ∧ ∀ text, line ≠ Utf8.encode text := by
  induction lines with
  | nil => exact .inl ⟨[], rfl⟩
  | cons line lines ih =>
      by_cases hline : ∃ text, line = Utf8.encode text
      · obtain ⟨text, rfl⟩ := hline
        rcases ih with ⟨read, rfl⟩ | ⟨read, bad, unread, rfl, hbad⟩
        · exact .inl ⟨text :: read, rfl⟩
        · exact .inr ⟨text :: read, bad, unread, rfl, hbad⟩
      · exact .inr ⟨[], line, lines, rfl, not_exists.mp hline⟩

variable {world : World} {failure : Failure} {output : String}

/-- The outcome of a run that fails. -/
theorem run_of_fails (hfails : world.Fails failure output) :
    ∃ log, run world = .failed failure output log := by
  rcases hprepare : prepare (Settings.ofFile world.settingsFile).value world.arguments
    world.files with ⟨result, log⟩
  have hresult : world.prepared = result := by rw [World.prepared, hprepare]
  cases hfails with
  | unprepared hfailure =>
      rw [prepared_eq_error_iff.mpr hfailure] at hresult
      subst hresult
      simp only [run, hprepare]
      exact ⟨_, rfl⟩
  | @badLine rules read line unread hprepared hinput hline =>
      rw [hprepared] at hresult
      subst hresult
      have hprocessed : (processLines rules (Line.split world.input)).value =
          (written rules read, some badLine) := by
        rw [hinput]
        exact value_processLines_of_badLine rules read (decode?_eq_none_iff.mpr hline) unread
      simp only [run, hprepare, hprocessed]
      exact ⟨_, rfl⟩

/-- A run does not succeed if it fails at one of the stages, and otherwise it does. -/
theorem succeeded_eq_false_iff :
    (run world).succeeded = false ↔ ∃ failure output, world.Fails failure output := by
  constructor
  · intro hrun
    cases hprepared : world.prepared with
    | error failure => exact ⟨failure, "", .unprepared (prepared_eq_error_iff.mp hprepared)⟩
    | ok rules =>
        rcases exists_encoded_or_badLine (Line.split world.input) with
          ⟨read, hread⟩ | ⟨read, line, unread, hinput, hline⟩
        · have hprocessed : world.processed rules = (written rules read, none) := by
            rw [World.processed, hread]
            exact value_processLines rules read
          rw [(run_of_processed hprepared hprocessed).1] at hrun
          cases hrun
        · exact ⟨_, _, .badLine hprepared hinput hline⟩
  · rintro ⟨failure, output, hfails⟩
    obtain ⟨log, hrun⟩ := run_of_fails hfails
    rw [hrun]
    rfl

end Transliteration.CommandLine
