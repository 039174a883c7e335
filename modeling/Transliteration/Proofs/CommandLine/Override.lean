import Transliteration.Proofs.CommandLine.Persistence

/-!
# Runs that leave nothing to the settings

A run whose arguments name a document, a language and a profile does not depend on the settings.
They may be missing, unreadable or whatever they like: the run succeeds or fails as it would without
them, and writes the same.  What they have a part in is the log, and the settings that are saved
afterwards (`explicit_arguments_override`).

## Strategy

Two runs with the same arguments are followed side by side.  What they are asked to do is the same
(`ofArguments_explicit`), so the settings come in only where errors are reported, and there they
choose a level.  Steps that come to the same value with the same messages are alike
(`Logged.Alike`), and to do such steps one after another is alike as well.  What a run goes on to
with its rules depends on the settings only for what is to be saved (`goOn_settings`).
-/

namespace Transliteration

/-! ## Computations that are alike -/

namespace Logged

variable {α β : Type}

/-- Both computations have the same value, and what they report differs at most in its levels. -/
structure Alike (first second : Logged α) : Prop where
  value_eq : first.value = second.value
  messages_eq : first.log.map LogEntry.message = second.log.map LogEntry.message

namespace Alike

theorem refl (logged : Logged α) : logged.Alike logged := ⟨rfl, rfl⟩

theorem report {entries others : List LogEntry}
    (hmessages : entries.map LogEntry.message = others.map LogEntry.message) :
    (Logged.report entries).Alike (Logged.report others) := ⟨rfl, hmessages⟩

theorem bind {first second : Logged α} {next next' : α → Logged β} (hfirst : first.Alike second)
    (hnext : (next first.value).Alike (next' first.value)) :
    (first >>= next).Alike (second >>= next') := by
  rw [hfirst.value_eq] at hnext
  constructor
  · rw [value_bind, value_bind, hfirst.value_eq, hnext.value_eq]
  · rw [log_bind, log_bind, List.map_append, List.map_append, hfirst.messages_eq,
      hfirst.value_eq, hnext.messages_eq]

end Alike

end Logged

namespace CommandLine

namespace Attempt

variable {α β : Type}

/-- Attempts that are alike go on alike. -/
theorem alike_bind {first second : Attempt α} {next next' : α → Attempt β}
    (hfirst : Logged.Alike first second)
    (hnext : ∀ a, first.value = .ok a → Logged.Alike (next a) (next' a)) :
    Logged.Alike (first >>= next : Attempt β) (second >>= next' : Attempt β) := by
  apply hfirst.bind
  cases hvalue : first.value with
  | ok a => exact hnext a hvalue
  | error failure => exact .refl _

theorem alike_lift {first second : Logged α} (halike : first.Alike second) :
    Logged.Alike (ExceptT.lift first : Attempt α) (ExceptT.lift second : Attempt α) :=
  halike.bind (.refl _)

end Attempt

/-! ## Requests -/

/-- Arguments for everything leave nothing to the settings. -/
theorem ofArguments_explicit {path : String} (hpath : path.endsWith ".json" = true)
    (settings : Settings) (language profile : String) (more : List String) :
    Request.ofArguments settings (path :: language :: profile :: more) =
      match Numeral.index? profile.toList with
      | some index => .ok ⟨path, some language, some index⟩
      | none => .error (.badProfileIndex profile) := by
  have hsplit : splitPath settings (path :: language :: profile :: more) =
      (path, language :: profile :: more) := by rw [splitPath, if_pos hpath]
  cases hindex : Numeral.index? profile.toList with
  | none => simp [Request.ofArguments, hsplit, hindex]
  | some index => simp [Request.ofArguments, hsplit, hindex]

theorem rulesPath_of_ofArguments_explicit {path : String} (hpath : path.endsWith ".json" = true)
    {settings : Settings} {language profile : String} {more : List String} {request : Request}
    (hrequest : Request.ofArguments settings (path :: language :: profile :: more) = .ok request) :
    request.rulesPath = path := by
  rw [ofArguments_explicit hpath] at hrequest
  split at hrequest
  · cases hrequest
    rfl
  · cases hrequest

/-! ## Preparing the rules -/

/-- A loader chooses the level of its reports and nothing else. -/
theorem messages_report (loader : Loader) (errors : List Error) :
    (loader.report errors).map LogEntry.message =
      errors.map fun error => s!"규칙 로드 에러: {error.message}" := by
  rw [Loader.report, List.map_map]
  rfl

theorem alike_report (loader other : Loader) (errors : List Error) :
    (Logged.report (loader.report errors)).Alike (Logged.report (other.report errors)) := by
  apply Logged.Alike.report
  rw [messages_report, messages_report]

theorem alike_loadFile (loader other : Loader) (path : String) (content : FileContent) :
    Logged.Alike (Attempt.ofReported (loader.loadFile path content))
      (Attempt.ofReported (other.loadFile path content)) := by
  unfold Loader.loadFile
  cases RuleDocument.ofFile content with
  | error error => exact .refl _
  | ok document =>
      apply Attempt.alike_lift
      apply Logged.Alike.bind (.refl _)
      exact (alike_report loader other document.register.errors).bind (.refl _)

/-- Runs that are asked to do the same with the same document prepare alike. -/
theorem alike_prepare {settings other : Settings} {arguments : List String}
    {files files' : String → FileContent}
    (hrequest : Request.ofArguments other arguments = Request.ofArguments settings arguments)
    (hfiles : ∀ request, Request.ofArguments settings arguments = .ok request →
      files' request.rulesPath = files request.rulesPath) :
    Logged.Alike (prepare settings arguments files) (prepare other arguments files') := by
  unfold prepare
  rw [hrequest]
  apply Attempt.alike_bind (.refl _)
  intro request hvalue
  rw [hfiles request (Attempt.value_ofResult_eq_ok.mp hvalue)]
  apply Attempt.alike_bind (alike_loadFile ..)
  intro loaded _
  cases request.language with
  | none => exact .refl _
  | some language =>
      apply Attempt.alike_bind (.refl _)
      rintro ⟨answer, registry⟩ _
      apply Attempt.alike_bind (.refl _)
      intro errors _
      apply Attempt.alike_bind (Attempt.alike_lift (alike_report ..))
      intro _ _
      exact .refl _

/-! ## Runs -/

/-- What a run goes on to with its rules, or without if it has failed to prepare any, and the log
from there on. -/
def goOn (settings : Settings) (input : List UInt8) : Except Failure RuleSet → Outcome
  | .error failure => .failed failure "" []
  | .ok rules =>
    let lines := processLines rules (Line.split input)
    match lines.value with
    | (output, some error) => .failed { error } output lines.log
    | (output, none) =>
      { succeeded := true, output, log := lines.log, settings := changedSettings settings rules }

/-- The settings have no part in what a run goes on to, except for those to be saved. -/
theorem goOn_settings (settings other : Settings) (input : List UInt8)
    (result : Except Failure RuleSet) :
    { goOn other input result with settings := none } =
      { goOn settings input result with settings := none } := by
  unfold goOn
  cases result with
  | error failure => rfl
  | ok rules =>
      dsimp only
      split
      · rfl
      · rfl

/-- A run reports on its settings and prepares its rules, and then it goes on. -/
theorem run_eq_goOn (world : World) :
    let prepared := prepare world.settings world.arguments world.files
    let outcome := goOn world.settings world.input prepared.value
    run world =
      { outcome with
        log := (Settings.ofFile world.settingsFile).log ++ (prepared.log ++ outcome.log) } := by
  unfold World.settings
  rcases hprepare : prepare (Settings.ofFile world.settingsFile).value world.arguments world.files
    with ⟨_ | rules, log⟩
  · simp only [run, hprepare, goOn, Outcome.failed, List.append_assoc, List.nil_append]
  · rcases hlines : processLines rules (Line.split world.input) with ⟨⟨output, _ | error⟩, lines⟩
    · simp only [run, hprepare, goOn, hlines, List.append_assoc]
    · simp only [run, hprepare, goOn, hlines, Outcome.failed, List.append_assoc]

/-- What two runs have in common that differ in their settings alone.  The log of each begins with
what is reported about its own settings, and goes on with the same messages. -/
structure SameOutput (first second : World) : Prop where
  succeeded_eq : (run second).succeeded = (run first).succeeded
  output_eq : (run second).output = (run first).output
  notice_eq : (run second).notice = (run first).notice
  log_eq : ∃ entries others,
    (run first).log = (Settings.ofFile first.settingsFile).log ++ entries ∧
      (run second).log = (Settings.ofFile second.settingsFile).log ++ others ∧
      others.map LogEntry.message = entries.map LogEntry.message

/-- Runs that prepare alike and have the same input have the same output. -/
theorem sameOutput_of_alike {first second : World} (hinput : second.input = first.input)
    (halike : Logged.Alike (prepare first.settings first.arguments first.files)
      (prepare second.settings second.arguments second.files)) : SameOutput first second := by
  have hsame := goOn_settings first.settings second.settings first.input
    (prepare first.settings first.arguments first.files).value
  rw [Outcome.mk.injEq] at hsame
  obtain ⟨hsucceeded, houtput, hnotice, hlog, -⟩ := hsame
  constructor
  case log_eq =>
    refine ⟨_, _, by rw [run_eq_goOn], by rw [run_eq_goOn], ?_⟩
    rw [← halike.value_eq, hinput, hlog, List.map_append, List.map_append, halike.messages_eq]
  all_goals
    rw [run_eq_goOn, run_eq_goOn, ← halike.value_eq, hinput]
    assumption

/-- Explicit arguments override the settings.

The arguments name a document, a language and the index of a profile, be they right or wrong, and
may go on.  Then whatever is in the file of settings, and whether settings can be saved afterwards
or not, a run on the same document and the same input leads to the same exit code, the same output
and the same notice to the user, for it prepares the same rules or fails in the same way.  The log
begins with what is reported about the settings themselves; what follows are the same messages. -/
theorem explicit_arguments_override (world : World) {path language profile : String}
    {more : List String} (harguments : world.arguments = path :: language :: profile :: more)
    (hpath : path.endsWith ".json" = true) (settingsFile : FileContent)
    (files : String → FileContent) (hfiles : files path = world.files path)
    (fault fault' : Option String) :
    let other : World := { world with settingsFile, files }
    let outcome := (run world).afterSaving fault
    let outcome' := (run other).afterSaving fault'
    outcome'.exitCode = outcome.exitCode ∧ outcome'.output = outcome.output ∧
      outcome'.notice = outcome.notice ∧ other.prepared = world.prepared ∧
      ∃ entries others,
        (run world).log = (Settings.ofFile world.settingsFile).log ++ entries ∧
        (run other).log = (Settings.ofFile settingsFile).log ++ others ∧
        others.map LogEntry.message = entries.map LogEntry.message := by
  intro other outcome outcome'
  -- The request is made of the arguments alone, and so the same document is read.
  have hrequest : Request.ofArguments other.settings world.arguments =
      Request.ofArguments world.settings world.arguments := by
    rw [harguments, ofArguments_explicit hpath, ofArguments_explicit hpath]
  -- The two runs report the same once the settings have been read.
  have halike : Logged.Alike (prepare world.settings world.arguments world.files)
      (prepare other.settings other.arguments other.files) := by
    apply alike_prepare hrequest
    intro request hrequest
    rw [harguments] at hrequest
    rw [rulesPath_of_ofArguments_explicit hpath hrequest]
    exact hfiles
  have hsame : SameOutput world other := sameOutput_of_alike rfl halike
  refine ⟨?_, ?_, ?_, halike.value_eq.symm, hsame.log_eq⟩
  · rw [Outcome.exitCode, Outcome.exitCode, Outcome.succeeded_afterSaving,
      Outcome.succeeded_afterSaving, hsame.succeeded_eq]
  · rw [Outcome.output_afterSaving, Outcome.output_afterSaving, hsame.output_eq]
  · rw [Outcome.notice_afterSaving, Outcome.notice_afterSaving, hsame.notice_eq]

/-- A run that is told everything. -/
def explicitRun : World where
  arguments := ["rules.json", "L", "1"]
  settingsFile := .missing "no such file"
  files := fun _ => .bytes <| Utf8.encode <| String.toList <|
    "\x7b\"languages\":[\x7b\"iso\":\"l\",\"name\":\"L\",\"romanizations\":[" ++
    "\x7b\"name\":\"P\",\"transliterations\":[]\x7d,\x7b\"name\":\"Q\",\"transliterations\":" ++
    "[\x7b\"original\":\"a\",\"replacement\":\"b\"\x7d]\x7d]\x7d]\x7d"
  input := Utf8.encode ['a', '\n']

/-- Settings that hide errors and ask for another document, another language, another profile. -/
def contrarySettings : Settings where
  showErrors := false
  rulesPath := "other.json"
  language := some "M"
  profile := some 0

theorem explicit_arguments_override_contrary :
    let other : World := { explicitRun with settingsFile := contrarySettings.toFile }
    "rules.json".endsWith ".json" = true ∧
      Settings.ofFile contrarySettings.toFile = pure contrarySettings ∧
      (run explicitRun).output = "a\tb\tb\n" ∧ (run other).output = "a\tb\tb\n" ∧
      (run explicitRun).exitCode = 0 ∧ (run other).exitCode = 0 := by
  intro other
  have hpath : "rules.json".endsWith ".json" = true := by decide +kernel
  have hrun : (run explicitRun).output = "a\tb\tb\n" ∧ (run explicitRun).exitCode = 0 := by
    decide +kernel
  have hsettings : Settings.ofFile contrarySettings.toFile = pure contrarySettings := by
    apply Settings.ofFile_toFile
    intro index hindex
    cases hindex
    exact Nat.zero_le _
  obtain ⟨hexit, houtput, -⟩ := explicit_arguments_override explicitRun rfl hpath
    contrarySettings.toFile explicitRun.files rfl none none
  rw [Outcome.afterSaving_none, Outcome.afterSaving_none] at hexit houtput
  exact ⟨hpath, hsettings, hrun.1, houtput.trans hrun.1, hrun.2, hexit.trans hrun.2⟩

end CommandLine

end Transliteration
