import Transliteration.CommandLine
import Transliteration.Proofs.Registry.Catalogue

/-!
# Runs that succeed

A run succeeds if every step of its preparation does and every line is a text.  What the steps
report on their way makes no difference to that, nor to what is written out.
-/

namespace Transliteration

/-! ## Languages of a document -/

/-- The rules of a language of a document after they have been loaded. -/
def RuleDocument.loaded? (document : RuleDocument) (name : String) : Option RuleSet :=
  (document.register.registry.find? name).map fun language => language.load.value.2.rules

/-! ## Choosing a profile -/

/-- The index of the first profile, if there is any. -/
def RuleSet.firstProfile? (rules : RuleSet) : Option Nat :=
  if rules.profiles.isEmpty then none else some 0

theorem RuleSet.lt_of_mem_firstProfile? {rules : RuleSet} {index : Nat}
    (hindex : index ∈ rules.firstProfile?) : index = 0 ∧ index < rules.profiles.length := by
  rw [firstProfile?] at hindex
  split at hindex
  · cases hindex
  · rename_i hprofiles
    cases hindex
    rw [List.isEmpty_iff] at hprofiles
    exact ⟨rfl, List.length_pos_iff.mpr hprofiles⟩

namespace CommandLine

theorem afterwards_select_eq_ok_iff {rules chosen : RuleSet} {index : Nat} :
    afterwards (rules.select index) = .ok chosen ↔
      index < rules.profiles.length ∧ chosen = { rules with selected := some index } := by
  rw [RuleSet.select]
  split
  · next hlt => simp [afterwards, hlt, eq_comm]
  · next hge => simp [afterwards, hge]

/-- A profile that is asked for has to be there.  It is then the one in use; where none is asked for
this is the first one, if there is any. -/
theorem chooseProfile_eq_ok_iff {rules chosen : RuleSet} {profile : Option Nat} :
    chooseProfile rules profile = .ok chosen ↔
      (∀ index ∈ profile, index < rules.profiles.length) ∧
        chosen =
          { rules with selected := (profile.or rules.firstProfile?).or rules.selected } := by
  cases profile with
  | some index =>
      rw [chooseProfile, afterwards_select_eq_ok_iff]
      simp
  | none =>
      rw [chooseProfile, RuleSet.firstProfile?]
      split
      · simpa using eq_comm
      · rename_i hprofiles
        rw [List.isEmpty_iff, ← ne_eq, ← List.length_pos_iff] at hprofiles
        rw [afterwards_select_eq_ok_iff]
        simp [hprofiles]

/-! ## Attempts -/

namespace Attempt

variable {α β : Type}

theorem value_bind_eq_ok {first : Attempt α} {next : α → Attempt β} {b : β} :
    (first >>= next).value = .ok b ↔ ∃ a, first.value = .ok a ∧ (next a).value = .ok b := by
  show (ExceptT.bindCont next first.value).value = .ok b ↔ _
  cases first.value with
  | ok a => simp [ExceptT.bindCont]
  | error failure => simp [ExceptT.bindCont]

theorem value_pure_eq_ok {a b : α} : (pure a : Attempt α).value = .ok b ↔ a = b := by
  show (Except.ok a : Except Failure α) = .ok b ↔ _
  simp

theorem value_ofResult_eq_ok {result : Except Error α} {a : α} :
    (ofResult result).value = .ok a ↔ result = .ok a := by
  cases result with
  | ok b => exact value_pure_eq_ok.trans (by simp)
  | error error =>
      constructor <;> intro h <;> cases h

theorem value_ofReported_eq_ok {result : Except Error (Logged α)} {a : α} :
    (ofReported result).value = .ok a ↔ ∃ logged, result = .ok logged ∧ logged.value = a := by
  cases result with
  | ok logged =>
      show (Except.ok logged.value : Except Failure α) = .ok a ↔ _
      simp
  | error error =>
      constructor
      · intro h
        cases h
      · rintro ⟨logged, h, -⟩
        cases h

theorem value_lift_eq_ok {logged : Logged α} {a : α} :
    (ExceptT.lift logged : Attempt α).value = .ok a ↔ logged.value = a := by
  show (Except.ok logged.value : Except Failure α) = .ok a ↔ _
  simp

theorem value_report (entries : List LogEntry) :
    (liftM (Logged.report entries) : Attempt Unit).value = .ok () := rfl

end Attempt

/-! ## Preparing the rules -/

theorem loadFile_eq_ok {loader : Loader} {path : String} {content : FileContent}
    {loaded : LoadedDocument} :
    (∃ logged, loader.loadFile path content = .ok logged ∧ logged.value = loaded) ↔
      ∃ document, RuleDocument.ofFile content = .ok document ∧ document.register = loaded := by
  unfold Loader.loadFile
  cases RuleDocument.ofFile content with
  | ok document =>
      constructor
      · rintro ⟨logged, hlogged, rfl⟩
        cases hlogged
        exact ⟨document, rfl, rfl⟩
      · rintro ⟨document, hdocument, rfl⟩
        cases hdocument
        exact ⟨_, rfl, rfl⟩
  | error error =>
      constructor
      · rintro ⟨logged, hlogged, -⟩
        cases hlogged
      · rintro ⟨document, hdocument, -⟩
        cases hdocument

/-- Loading a language succeeds if there is one with its name, and its rules are then the current
ones. -/
theorem load_getCurrent_eq_ok {registry : Registry} {name : String} {rules : RuleSet} :
    (∃ errors, (registry.load name).value.1 = .ok errors ∧
        (registry.load name).value.2.getCurrent = .ok rules) ↔
      ∃ language, registry.find? name = some language ∧ language.load.value.2.rules = rules := by
  have hperform : registry.perform (.load name) = (registry.load name).value := rfl
  cases hfind : registry.find? name with
  | none =>
      rw [← hperform, Registry.perform_load_of_find?_eq_none hfind]
      simp
  | some language =>
      rw [← hperform, (Registry.find?_perform_load hfind).1,
        Registry.getCurrent_perform_load hfind]
      simp

/-- The rules with which a run goes on: those of a language of the document that it is asked to
read, with the profile that it is asked to use. -/
theorem value_prepare_eq_ok {settings : Settings} {arguments : List String}
    {files : String → FileContent} {chosen : RuleSet} :
    (prepare settings arguments files).value = .ok chosen ↔ ∃ request document language rules,
      Request.ofArguments settings arguments = .ok request ∧
      RuleDocument.ofFile (files request.rulesPath) = .ok document ∧
      request.language = some language ∧ document.loaded? language = some rules ∧
      chooseProfile rules request.profile = .ok chosen := by
  simp only [prepare, Attempt.value_bind_eq_ok, Attempt.value_ofResult_eq_ok,
    Attempt.value_ofReported_eq_ok, loadFile_eq_ok]
  constructor
  · rintro ⟨request, hrequest, loaded, ⟨document, hdocument, rfl⟩, hchosen⟩
    cases hlanguage : request.language with
    | none =>
        rw [hlanguage] at hchosen
        cases hchosen
    | some language =>
        rw [hlanguage] at hchosen
        simp only [Attempt.value_bind_eq_ok, Attempt.value_ofResult_eq_ok,
          Attempt.value_lift_eq_ok, Attempt.value_pure_eq_ok] at hchosen
        obtain ⟨_, rfl, errors, herrors, _, -, rules, hcurrent, rules', hchosen, _, -, rfl⟩ :=
          hchosen
        -- the rules in use are those of the language just loaded
        obtain ⟨registered, hfind, rfl⟩ := load_getCurrent_eq_ok.mp ⟨errors, herrors, hcurrent⟩
        refine ⟨request, document, language, _, hrequest, hdocument, hlanguage, ?_, hchosen⟩
        rw [RuleDocument.loaded?, hfind, Option.map_some]
  · rintro ⟨request, document, language, rules, hrequest, hdocument, hlanguage, hloaded, hchosen⟩
    refine ⟨request, hrequest, document.register, ⟨document, hdocument, rfl⟩, ?_⟩
    obtain ⟨errors, herrors, hcurrent⟩ :=
      load_getCurrent_eq_ok.mpr (Option.map_eq_some_iff.mp hloaded)
    rw [hlanguage]
    simp only [Attempt.value_bind_eq_ok, Attempt.value_ofResult_eq_ok,
      Attempt.value_lift_eq_ok, Attempt.value_pure_eq_ok]
    exact ⟨_, rfl, errors, herrors, (), Attempt.value_report _, rules, hcurrent, chosen, hchosen,
      (), Attempt.value_report _, rfl⟩

/-! ## Runs -/

/-- The rules with which a run goes on to its input, unless it fails before that. -/
def World.prepared (world : World) : Except Failure RuleSet :=
  (prepare (Settings.ofFile world.settingsFile).value world.arguments world.files).value

/-- What a run writes, and the error of a line that is no text, with some rules. -/
def World.processed (world : World) (rules : RuleSet) : String × Option Error :=
  (processLines rules (Line.split world.input)).value

variable {world : World} {rules : RuleSet} {output : String}

/-- A run that goes on to its input, where every line is a text, succeeds. -/
theorem run_of_processed (hprepared : world.prepared = .ok rules)
    (hprocessed : world.processed rules = (output, none)) :
    (run world).succeeded = true ∧ (run world).output = output ∧
      (run world).settings = changedSettings (Settings.ofFile world.settingsFile).value rules := by
  rw [World.prepared] at hprepared
  rw [World.processed] at hprocessed
  rcases hprepare : prepare (Settings.ofFile world.settingsFile).value world.arguments
    world.files with ⟨result, log⟩
  rw [hprepare] at hprepared
  cases (show result = .ok rules from hprepared)
  simp only [run, hprepare, hprocessed]
  exact ⟨trivial, trivial, trivial⟩

/-- A run that succeeds goes on to its input, and every line there is a text. -/
theorem exists_processed (hrun : (run world).succeeded = true) :
    ∃ rules output, world.prepared = .ok rules ∧ world.processed rules = (output, none) := by
  rcases hprepare : prepare (Settings.ofFile world.settingsFile).value world.arguments
    world.files with ⟨result, log⟩
  have hprepared : world.prepared = result := by rw [World.prepared, hprepare]
  cases result with
  | error failure =>
      simp only [run, hprepare, Outcome.failed] at hrun
      cases hrun
  | ok rules =>
      rcases hprocessed : world.processed rules with ⟨output, fault⟩
      cases fault with
      | some error =>
          rw [World.processed] at hprocessed
          simp only [run, hprepare, hprocessed, Outcome.failed] at hrun
          cases hrun
      | none => exact ⟨rules, output, hprepared, hprocessed⟩

end CommandLine

end Transliteration
