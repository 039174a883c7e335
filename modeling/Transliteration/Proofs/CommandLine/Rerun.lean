import Transliteration.Proofs.CommandLine.Run
import Transliteration.Proofs.Document.Registration
import Transliteration.Proofs.Settings.File

/-!
# Running again

A run that succeeds remembers the language and the profile that it used, and the next run without
arguments does the same once more.

## Strategy

Two things have to meet.  The selection that a run remembers is read back from the file of settings
as it was (`value_ofFile_settingsFile`), for which the index of the profile must have 64 bits: it
comes from an argument, from settings or is zero.  And to ask for the profile that is in use is to
get the same rules again (`chooseProfile_selected`).  This holds because the languages of a document
have no profile in use from the beginning, so that without profiles there is nothing to remember.
-/

namespace Transliteration

/-! ## The languages of a document -/

/-- The languages of a document have no profile in use. -/
theorem RuleDocument.selected_eq_none {document : RuleDocument} {set : RuleSet}
    (hset : set ∈ document.register.registry.languages) : set.selected = none := by
  rw [register_eq] at hset
  obtain ⟨language, -, rfl⟩ := List.mem_map.mp hset
  rfl

/-- The rules of a language of a document have its name and no profile in use. -/
theorem RuleDocument.loaded?_eq_some {document : RuleDocument} {name : String} {rules : RuleSet}
    (hloaded : document.loaded? name = some rules) : rules.name = name ∧ rules.selected = none := by
  obtain ⟨language, hfind, rfl⟩ := Option.map_eq_some_iff.mp hloaded
  constructor
  · exact language.name_load.trans (Registry.name_eq_of_find? hfind)
  · rw [language.load_value]
    exact (language.rules.load_selected _).trans
      (RuleDocument.selected_eq_none (Registry.rules_mem_of_find? hfind))

/-! ## Choosing a profile -/

namespace CommandLine

/-- Whatever profile is asked for, to ask for the one that is then in use comes to the same.  It is
the one that is asked for, or the first. -/
theorem chooseProfile_selected {rules chosen : RuleSet} {profile : Option Nat}
    (hrules : rules.selected = none) (hchosen : chooseProfile rules profile = .ok chosen) :
    chosen.name = rules.name ∧ chooseProfile rules chosen.selected = .ok chosen ∧
      chosen.selected = profile.or chosen.firstProfile? ∧
      ∀ index ∈ chosen.selected, index < chosen.profiles.length := by
  obtain ⟨hprofile, rfl⟩ := chooseProfile_eq_ok_iff.mp hchosen
  rw [hrules, Option.or_none]
  have hrange : ∀ index ∈ profile.or rules.firstProfile?, index < rules.profiles.length := by
    intro index hindex
    rcases Option.or_eq_some_iff.mp hindex with hasked | ⟨-, hfirst⟩
    · exact hprofile index hasked
    · exact (RuleSet.lt_of_mem_firstProfile? hfirst).2
  refine ⟨rfl, chooseProfile_eq_ok_iff.mpr ⟨hrange, ?_⟩, rfl, hrange⟩
  rw [hrules, Option.or_none, Option.or_assoc, Option.or_self]

/-! ## Arguments -/

/-- An index among the arguments has 64 bits. -/
theorem le_of_index? {text : List Char} {index : Nat} (hindex : Numeral.index? text = some index) :
    index ≤ Numeral.largestIndex := by
  have hfilter := (Option.filter_eq_some_iff.mp hindex).2
  simpa using hfilter

theorem rulesPath_eq {settings : Settings} {arguments : List String}
    (hpath : ∀ first ∈ arguments.head?, first.endsWith ".json" = false) :
    rulesPath settings arguments = settings.rulesPath := by
  cases arguments with
  | nil => rfl
  | cons first others =>
      have hfirst := hpath first rfl
      simp [rulesPath, splitPath, hfirst]

/-- A request names the document that is read, and a profile whose index has 64 bits if that of the
settings has. -/
theorem ofArguments_eq_ok {settings : Settings} {arguments : List String} {request : Request}
    (hprofile : ∀ index ∈ settings.profile, index ≤ Numeral.largestIndex)
    (hrequest : Request.ofArguments settings arguments = .ok request) :
    request.rulesPath = rulesPath settings arguments ∧
      ∀ index ∈ request.profile, index ≤ Numeral.largestIndex := by
  rw [rulesPath]
  simp only [Request.ofArguments] at hrequest
  split at hrequest
  · cases hrequest
    exact ⟨rfl, hprofile⟩
  · cases hrequest
    exact ⟨rfl, hprofile⟩
  · split at hrequest
    · rename_i index hindex
      cases hrequest
      refine ⟨rfl, ?_⟩
      intro other hother
      cases hother
      exact le_of_index? hindex
    · cases hrequest

end CommandLine

/-! ## Remembering a selection -/

namespace Settings

theorem remember_of_remembers {settings : Settings} {language : String} {profile : Option Nat}
    (hremembers : settings.remembers language profile = true) :
    settings.remember language profile = settings := by
  simp only [remembers, Bool.and_eq_true, beq_iff_eq] at hremembers
  rw [remember, ← hremembers.1, ← hremembers.2]

theorem remembers_remember (settings : Settings) (language : String) (profile : Option Nat) :
    (settings.remember language profile).remembers language profile = true := by
  simp [remembers, remember]

end Settings

namespace CommandLine

variable {world : World} {rules : RuleSet} {output : String}

/-- The index of the profile with which a run goes on has 64 bits. -/
theorem selected_le_of_prepared (hprepared : world.prepared = .ok rules) :
    ∀ index ∈ rules.selected, index ≤ Numeral.largestIndex := by
  obtain ⟨request, document, language, base, hrequest, -, -, hbase, hchosen⟩ :=
    value_prepare_eq_ok.mp hprepared
  obtain ⟨-, hunselected⟩ := RuleDocument.loaded?_eq_some hbase
  obtain ⟨-, -, hselected, -⟩ := chooseProfile_selected hunselected hchosen
  obtain ⟨-, hprofile⟩ :=
    ofArguments_eq_ok (Settings.profile_le_of_ofFile world.settingsFile) hrequest
  intro index hindex
  rw [hselected] at hindex
  rcases Option.or_eq_some_iff.mp hindex with hrequested | ⟨-, hfirst⟩
  · exact hprofile index hrequested
  · rw [(RuleSet.lt_of_mem_firstProfile? hfirst).1]
    exact Nat.zero_le _

/-- After a run the file of settings tells the language and the profile that were in use, and
otherwise what it told before. -/
theorem value_ofFile_settingsFile {outcome : Outcome} {before : FileContent}
    (hselected : ∀ index ∈ rules.selected, index ≤ Numeral.largestIndex)
    (hsettings : outcome.settings = changedSettings (Settings.ofFile before).value rules) :
    (Settings.ofFile (outcome.settingsFile before)).value =
      (Settings.ofFile before).value.remember rules.name rules.selected := by
  rw [Outcome.settingsFile, hsettings, changedSettings]
  split
  · rename_i hremembers
    exact (Settings.remember_of_remembers hremembers).symm
  · rw [Option.elim_some, Settings.ofFile_toFile hselected]
    rfl

/-! ## Running again -/

/-- The same input once more, without arguments, after the settings of the first run have been
saved. -/
def World.again (world : World) (files : String → FileContent) : World where
  arguments := []
  settingsFile := (run world).settingsFile world.settingsFile
  files := files
  input := world.input

theorem Request.ofArguments_nil (settings : Settings) :
    ofArguments settings [] = .ok ⟨settings.rulesPath, settings.language, settings.profile⟩ := rfl

/-- The rules of a run are those of the next run, too, if that reads the same document. -/
theorem prepared_again {files : String → FileContent} {path : String}
    (hrules : rulesPath (Settings.ofFile world.settingsFile).value world.arguments = path)
    (hpath : (Settings.ofFile world.settingsFile).value.rulesPath = path)
    (hfiles : files path = world.files path) (hprepared : world.prepared = .ok rules)
    (hsettings : (run world).settings =
      changedSettings (Settings.ofFile world.settingsFile).value rules) :
    (Settings.ofFile (world.again files).settingsFile).value =
        (Settings.ofFile world.settingsFile).value.remember rules.name rules.selected ∧
      (world.again files).prepared = .ok rules := by
  obtain ⟨request, document, language, base, hrequest, hdocument, hlanguage, hbase, hchosen⟩ :=
    value_prepare_eq_ok.mp hprepared
  obtain ⟨hname, hunselected⟩ := RuleDocument.loaded?_eq_some hbase
  obtain ⟨hchosenName, hagain, -⟩ := chooseProfile_selected hunselected hchosen
  obtain ⟨hrequestPath, -⟩ :=
    ofArguments_eq_ok (Settings.profile_le_of_ofFile world.settingsFile) hrequest
  -- Whether the settings had to be saved or not, what is read afterwards is the same.
  have hremembered : (Settings.ofFile (world.again files).settingsFile).value =
      (Settings.ofFile world.settingsFile).value.remember rules.name rules.selected :=
    value_ofFile_settingsFile (selected_le_of_prepared hprepared) hsettings
  refine ⟨hremembered, ?_⟩
  rw [World.prepared, hremembered]
  refine value_prepare_eq_ok.mpr ⟨_, document, language, base, Request.ofArguments_nil _, ?_, ?_,
    hbase, hagain⟩
  · show RuleDocument.ofFile (files (Settings.ofFile world.settingsFile).value.rulesPath) = _
    rw [hpath, hfiles, ← hrules, ← hrequestPath]
    exact hdocument
  · show some rules.name = some language
    rw [hchosenName, hname]

/-- A run that succeeds is reproduced from what it remembers.  The same input and the same document
without any arguments lead to the same output by way of the same language and the same profile, if
any, and the file of settings stays as the first run left it.  The path of the document has to come
from the settings in the first place, for it is not remembered. -/
theorem rerun (world : World) (files : String → FileContent)
    (hpath : ∀ first ∈ world.arguments.head?, first.endsWith ".json" = false)
    (hfiles : files (rulesPath (Settings.ofFile world.settingsFile).value world.arguments) =
      world.files (rulesPath (Settings.ofFile world.settingsFile).value world.arguments))
    (hrun : (run world).succeeded = true) :
    (run (world.again files)).succeeded = true ∧
      (run (world.again files)).output = (run world).output ∧
      (∃ rules, world.prepared = .ok rules ∧ (world.again files).prepared = .ok rules) ∧
      (run (world.again files)).settings = none ∧
      (run (world.again files)).settingsFile ((run world).settingsFile world.settingsFile) =
        (run world).settingsFile world.settingsFile := by
  obtain ⟨rules, output, hprepared, hprocessed⟩ := exists_processed hrun
  obtain ⟨-, houtput, hsettings⟩ := run_of_processed hprepared hprocessed
  obtain ⟨hremembered, hagain⟩ :=
    prepared_again rfl (rulesPath_eq hpath).symm hfiles hprepared hsettings
  have hprocessedAgain : (world.again files).processed rules = (output, none) := hprocessed
  obtain ⟨hsucceeded, houtputAgain, hsettingsAgain⟩ := run_of_processed hagain hprocessedAgain
  have hunchanged : (run (world.again files)).settings = none := by
    rw [hsettingsAgain, hremembered, changedSettings, if_pos (Settings.remembers_remember ..)]
  refine ⟨hsucceeded, houtputAgain.trans houtput.symm, ⟨rules, hprepared, hagain⟩, hunchanged, ?_⟩
  rw [Outcome.settingsFile, hunchanged]
  rfl

/-- A run that uses the second profile of its language. -/
def secondProfile : World where
  arguments := ["L", "1"]
  settingsFile := .missing "no such file"
  files := fun _ => .bytes <| Utf8.encode <| String.toList <|
    "\x7b\"languages\":[\x7b\"iso\":\"l\",\"name\":\"L\",\"romanizations\":[" ++
    "\x7b\"name\":\"P\",\"transliterations\":[]\x7d,\x7b\"name\":\"Q\",\"transliterations\":" ++
    "[\x7b\"original\":\"a\",\"replacement\":\"b\"\x7d]\x7d]\x7d]\x7d"
  input := Utf8.encode ['a', '\n']

theorem rerun_secondProfile :
    (run secondProfile).succeeded = true ∧
      (run secondProfile).settings = some { language := some "L", profile := some 1 } ∧
      (run (secondProfile.again secondProfile.files)).succeeded = true ∧
      (run (secondProfile.again secondProfile.files)).output = "a\tb\tb\n" ∧
      (run (secondProfile.again secondProfile.files)).settings = none := by
  have hfirst : (run secondProfile).succeeded = true ∧
      (run secondProfile).output = "a\tb\tb\n" ∧
      (run secondProfile).settings = some { language := some "L", profile := some 1 } := by
    decide +kernel
  obtain ⟨hrun, houtput, hsettings⟩ := hfirst
  have hpath : ∀ first ∈ secondProfile.arguments.head?, first.endsWith ".json" = false := by
    intro first hfirst
    cases hfirst
    decide +kernel
  obtain ⟨hsucceeded, hagain, -, hunchanged, -⟩ :=
    rerun secondProfile secondProfile.files hpath rfl hrun
  exact ⟨hrun, hsettings, hsucceeded, hagain.trans houtput, hunchanged⟩

end CommandLine

end Transliteration
