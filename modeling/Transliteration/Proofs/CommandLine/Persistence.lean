import Transliteration.Proofs.CommandLine.Failure
import Transliteration.Proofs.CommandLine.Rerun

/-!
# When settings are saved

A run changes the file of settings after it has succeeded, and at no other time.  Where it fails,
at whatever stage and after however many lines, the file stays as it was.  Where it succeeds, the
file changes only if another language or another profile was in use than the settings tell, and then
in these two fields only.  An attempt to save the settings makes no difference to anything else,
even if it fails.
-/

namespace Transliteration.CommandLine

/-! ## Saving -/

namespace Outcome

variable (outcome : Outcome) (fault : Option String)

@[simp] theorem succeeded_afterSaving :
    (outcome.afterSaving fault).succeeded = outcome.succeeded := by
  unfold afterSaving
  split <;> rfl

@[simp] theorem output_afterSaving : (outcome.afterSaving fault).output = outcome.output := by
  unfold afterSaving
  split <;> rfl

@[simp] theorem notice_afterSaving : (outcome.afterSaving fault).notice = outcome.notice := by
  unfold afterSaving
  split <;> rfl

/-- Where there is nothing to save, nothing happens. -/
theorem afterSaving_of_settings_eq_none (hsettings : outcome.settings = none) :
    outcome.afterSaving fault = outcome := by
  unfold afterSaving
  split
  · rename_i hsome
    rw [hsettings] at hsome
    cases hsome
  · rfl

/-- Where nothing goes wrong, nothing is reported. -/
theorem afterSaving_none : outcome.afterSaving none = outcome := by
  unfold afterSaving
  split
  · contradiction
  · rfl

theorem exitCode_eq_zero_iff : outcome.exitCode = 0 ↔ outcome.succeeded = true := by
  rw [exitCode]
  split <;> simp_all

end Outcome

/-! ## The settings after a run -/

section

variable {settings : Settings} {rules : RuleSet}

/-- Settings that tell the language and the profile in use already are not saved. -/
theorem changedSettings_eq_none_iff :
    changedSettings settings rules = none ↔
      settings.language = some rules.name ∧ settings.profile = rules.selected := by
  simp [changedSettings, Settings.remembers]

/-- Settings that are saved differ from those before in the language and the profile only. -/
theorem changedSettings_of_ne
    (hne : ¬(settings.language = some rules.name ∧ settings.profile = rules.selected)) :
    changedSettings settings rules =
      some { settings with language := some rules.name, profile := rules.selected } := by
  have hremembers : ¬settings.remembers rules.name rules.selected = true := by
    simpa [Settings.remembers] using hne
  rw [changedSettings, if_neg hremembers]
  rfl

end

/-- What a run does to the file of settings.

A run fails at one of the stages and not otherwise, whether settings can be saved or not; then the
file stays as it was, and the output is what the run has written until then, which before a line
that is no text are the lines that come earlier.  A run that succeeds leaves the file alone if the
settings tell the language and the profile in use already.  If not, and if the file can be written,
it holds the settings as they were except for these two, and they are read back from it. -/
theorem settings_saved_after_success (world : World) (fault : Option String) :
    let outcome := (run world).afterSaving fault
    let file := outcome.settingsFile world.settingsFile
    (outcome.succeeded = false ↔ ∃ failure output, world.Fails failure output) ∧
    (∀ failure output, world.Fails failure output →
      outcome.exitCode = 1 ∧ outcome.output = output ∧ file = world.settingsFile) ∧
    (outcome.succeeded = true → outcome.exitCode = 0 ∧ ∃ rules, world.prepared = .ok rules ∧
      (world.settings.language = some rules.name ∧ world.settings.profile = rules.selected →
        file = world.settingsFile) ∧
      (¬(world.settings.language = some rules.name ∧ world.settings.profile = rules.selected) →
        fault = none →
        let saved : Settings :=
          { world.settings with language := some rules.name, profile := rules.selected }
        file = saved.toFile ∧ Settings.ofFile file = pure saved)) := by
  refine ⟨?_, ?_, ?_⟩
  · rw [Outcome.succeeded_afterSaving]
    exact succeeded_eq_false_iff
  · intro failure output hfails
    obtain ⟨log, hrun⟩ := run_of_fails hfails
    rw [hrun]
    exact ⟨rfl, rfl, rfl⟩
  · intro hsucceeded
    refine ⟨Outcome.exitCode_eq_zero_iff _ |>.mpr hsucceeded, ?_⟩
    rw [Outcome.succeeded_afterSaving] at hsucceeded
    obtain ⟨rules, output, hprepared, hprocessed⟩ := exists_processed hsucceeded
    have hsettings : (run world).settings = changedSettings world.settings rules :=
      (run_of_processed hprepared hprocessed).2.2
    refine ⟨rules, hprepared, ?_, ?_⟩
    -- the settings change exactly if the language or the profile differs from what they tell
    · intro hsame
      have hnone := hsettings.trans (changedSettings_eq_none_iff.mpr hsame)
      rw [Outcome.afterSaving_of_settings_eq_none _ _ hnone, Outcome.settingsFile, hnone]
      rfl
    · rintro hne rfl
      have hsaved := hsettings.trans (changedSettings_of_ne hne)
      rw [Outcome.afterSaving_none, Outcome.settingsFile, hsaved]
      exact ⟨rfl, Settings.ofFile_toFile (selected_le_of_prepared hprepared)⟩

end Transliteration.CommandLine
