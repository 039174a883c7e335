import Transliteration.Proofs.CommandLine.Failure
import Transliteration.Proofs.CommandLine.Rerun

/-!
# Running for another language

The profile that a run remembers is an index among the profiles of its own language.  The next run
falls back on this index whatever language it is for, and fails if that language has no profile
there.  So a language that is named alone may be refused after another one, although without any
settings its first profile would be used, or none if it has none.

## Strategy

The next run starts from what the first one remembers (`settings_next`), and reads the same
document.  It is then a matter of choosing a profile of the other language (`prepared_of_loaded`).
A name that ends like a path is taken for the path of the document, and then the run is for the
remembered language once more.
-/

namespace Transliteration.CommandLine

/-! ## Arguments -/

section

variable {settings : Settings} {name : String}

theorem ofArguments_language (hname : name.endsWith ".json" = false) :
    Request.ofArguments settings [name] =
      .ok ⟨rulesPath settings [name], some name, settings.profile⟩ := by
  simp [Request.ofArguments, rulesPath, splitPath, hname]

theorem ofArguments_path (hname : name.endsWith ".json" = true) :
    Request.ofArguments settings [name] =
      .ok ⟨rulesPath settings [name], settings.language, settings.profile⟩ := by
  simp [Request.ofArguments, rulesPath, splitPath, hname]

end

/-! ## Choosing a profile -/

/-- The choice of a profile fails only because of an index that is out of range. -/
theorem mapError_chooseProfile_eq_error_iff {rules : RuleSet} {profile : Option Nat}
    {index count : Nat} :
    ((chooseProfile rules profile).mapError fun error => ({ error } : Failure)) =
        .error { error := .profileOutOfRange index count } ↔
      profile = some index ∧ rules.profiles.length = count ∧ count ≤ index := by
  constructor
  · intro hfailed
    cases hchosen : chooseProfile rules profile with
    | ok chosen =>
        rw [hchosen] at hfailed
        cases hfailed
    | error error =>
        obtain ⟨other, hindex, hcount, rfl⟩ := chooseProfile_eq_error_iff.mp hchosen
        rw [hchosen] at hfailed
        cases hfailed
        exact ⟨hindex, rfl, hcount⟩
  · rintro ⟨hindex, rfl, hcount⟩
    rw [chooseProfile_eq_error_iff.mpr ⟨index, hindex, hcount, rfl⟩]
    rfl

/-- A profile can be chosen unless an index is asked for that is out of range. -/
theorem exists_mapError_chooseProfile_eq_ok_iff {rules : RuleSet} {profile : Option Nat} :
    (∃ chosen, ((chooseProfile rules profile).mapError fun error => ({ error } : Failure)) =
        .ok chosen) ↔ ∀ index ∈ profile, index < rules.profiles.length := by
  constructor
  · rintro ⟨chosen, hchosen⟩
    cases hchoice : chooseProfile rules profile with
    | ok other => exact (chooseProfile_eq_ok_iff.mp hchoice).1
    | error error =>
        rw [hchoice] at hchosen
        cases hchosen
  · intro hprofile
    rw [chooseProfile_eq_ok_iff.mpr ⟨hprofile, rfl⟩]
    exact ⟨_, rfl⟩

/-! ## The next run -/

/-- The document that a run reads. -/
def World.document (world : World) : Except Error RuleDocument :=
  RuleDocument.ofFile (world.files (rulesPath world.settings world.arguments))

/-- A run with the name of a language as its only argument, after the settings of the first run have
been saved. -/
def World.next (world : World) (name : String) (files : String → FileContent) (text : List Char) :
    World where
  arguments := [name]
  settingsFile := (run world).settingsFile world.settingsFile
  files := files
  input := Utf8.encode text

variable {world : World} {rules : RuleSet}

/-- The next run starts from the settings of the first with the selection that it remembers. -/
theorem settings_next {name : String} {files : String → FileContent} {text : List Char}
    (hprepared : world.prepared = .ok rules)
    (hsettings : (run world).settings = changedSettings world.settings rules) :
    (world.next name files text).settings =
      world.settings.remember rules.name rules.selected :=
  value_ofFile_settingsFile (selected_le_of_prepared hprepared) hsettings

section Next

variable {name : String} {files : String → FileContent} {text : List Char}
  {document : RuleDocument} {base other : RuleSet}

/-- A run for another language goes on to choose the remembered profile. -/
theorem prepared_next (hname : name.endsWith ".json" = false)
    (hsettings : (world.next name files text).settings =
      world.settings.remember rules.name rules.selected)
    (hnext : (world.next name files text).document = .ok document)
    (hother : document.loaded? name = some other) :
    (world.next name files text).prepared =
      (chooseProfile other rules.selected).mapError fun error => { error } := by
  have hrequest : (world.next name files text).request =
      .ok ⟨rulesPath (world.next name files text).settings [name], some name, rules.selected⟩ := by
    refine (ofArguments_language hname).trans ?_
    rw [hsettings]
    rfl
  exact prepared_of_loaded hrequest hnext rfl hother

/-- A run for a name that is taken for a path goes on as the first run did. -/
theorem prepared_next_of_path (hname : name.endsWith ".json" = true)
    (hsettings : (world.next name files text).settings =
      world.settings.remember rules.name rules.selected)
    (hnext : (world.next name files text).document = .ok document)
    (hbase : document.loaded? rules.name = some base)
    (hagain : chooseProfile base rules.selected = .ok rules) :
    (world.next name files text).prepared = .ok rules := by
  have hrequest : (world.next name files text).request =
      .ok ⟨rulesPath (world.next name files text).settings [name], some rules.name,
        rules.selected⟩ := by
    refine (ofArguments_path hname).trans ?_
    rw [hsettings]
    rfl
  exact (prepared_of_loaded hrequest hnext rfl hbase).trans (by rw [hagain]; rfl)

end Next

/-- When a remembered profile blocks another language.

After a run has succeeded, a run on the same document with the name of another of its languages as
the only argument fails because of a profile out of range if and only if the other language has no
profile at the index that the first run has remembered, and otherwise succeeds.  What is remembered
is the index that the first run was asked for or, if its language has any profile, the first one. -/
theorem remembered_profile_blocks_iff (world : World) (name : String)
    (files : String → FileContent) (text : List Char) (document : RuleDocument)
    (hrun : (run world).succeeded = true) (hdocument : world.document = .ok document)
    (hname : name ∈ document.register.registry.names)
    (hnext : (world.next name files text).document = .ok document) :
    ∃ request rules other, world.request = .ok request ∧ world.prepared = .ok rules ∧
      request.language = some rules.name ∧ document.loaded? name = some other ∧
      rules.selected = request.profile.or rules.firstProfile? ∧
      (∀ index ∈ rules.selected, index < rules.profiles.length) ∧
      (name.endsWith ".json" = false →
        (∀ index count, (world.next name files text).prepared =
            .error { error := .profileOutOfRange index count } ↔
          rules.selected = some index ∧ other.profiles.length = count ∧ count ≤ index) ∧
        ((run (world.next name files text)).succeeded = true ↔
          ∀ index ∈ rules.selected, index < other.profiles.length)) ∧
      (name.endsWith ".json" = true → (world.next name files text).prepared = .ok rules ∧
        (run (world.next name files text)).succeeded = true) := by
  obtain ⟨rules, output, hprepared, hprocessed⟩ := exists_processed hrun
  have hsettings : (world.next name files text).settings =
      world.settings.remember rules.name rules.selected :=
    settings_next hprepared (run_of_processed hprepared hprocessed).2.2
  obtain ⟨request, document', language, base, hrequest, hread, hlanguage, hbase, hchosen⟩ :=
    value_prepare_eq_ok.mp hprepared
  -- both runs read the document that is given
  have hpath : request.rulesPath = rulesPath world.settings world.arguments :=
    (ofArguments_eq_ok (Settings.profile_le_of_ofFile world.settingsFile) hrequest).1
  have hsame : document' = document := by
    rw [hpath] at hread
    exact Except.ok.inj (hread.symm.trans hdocument)
  subst hsame
  obtain ⟨hbaseName, hunselected⟩ := RuleDocument.loaded?_eq_some hbase
  obtain ⟨hrulesName, hagain, hselected, hrange⟩ := chooseProfile_selected hunselected hchosen
  obtain ⟨registered, hfind⟩ := Registry.mem_names_iff.mp hname
  have hother : document'.loaded? name = some registered.load.value.2.rules := by
    rw [RuleDocument.loaded?, hfind, Option.map_some]
  refine ⟨request, rules, _, hrequest, hprepared, ?_, hother, hselected, hrange, ?_, ?_⟩
  · rw [hlanguage, hrulesName, hbaseName]
  · intro hlanguageName
    -- the next run has the new language and the profile that was remembered with the old one
    have hchoice := prepared_next hlanguageName hsettings hnext hother
    refine ⟨fun index count => ?_, ?_⟩
    · rw [hchoice]
      exact mapError_chooseProfile_eq_error_iff
    · rw [succeeded_iff_of_text rfl, hchoice]
      exact exists_mapError_chooseProfile_eq_ok_iff
  · intro hpathName
    have hchoice : (world.next name files text).prepared = .ok rules := by
      refine prepared_next_of_path hpathName hsettings hnext ?_ hagain
      rw [hrulesName, hbaseName]
      exact hbase
    exact ⟨hchoice, (succeeded_iff_of_text rfl).mpr ⟨rules, hchoice⟩⟩

/-- A document with two languages, of which the first has one profile and the second has none. -/
def twoLanguages : RuleDocument where
  languages := [
    { iso := "a", name := "A", profiles := [{ name := "P" }] },
    { iso := "b", name := "B" }]

/-- A run for the first language of this document. -/
def firstLanguage : World where
  arguments := ["A"]
  settingsFile := .missing "no such file"
  files := fun _ => .bytes <| Utf8.encode <| String.toList <|
    "\x7b\"languages\":[\x7b\"iso\":\"a\",\"name\":\"A\",\"romanizations\":[" ++
    "\x7b\"name\":\"P\",\"transliterations\":[]\x7d]\x7d," ++
    "\x7b\"iso\":\"b\",\"name\":\"B\"\x7d]\x7d"
  input := Utf8.encode ['a', '\n']

/-- The same input for the second language. -/
def secondLanguage : World := firstLanguage.next "B" firstLanguage.files ['a', '\n']

theorem remembered_profile_blocks_iff_twoLanguages :
    (run firstLanguage).succeeded = true ∧ firstLanguage.document = .ok twoLanguages ∧
      "B" ∈ twoLanguages.register.registry.names ∧ secondLanguage.document = .ok twoLanguages ∧
      secondLanguage.prepared = .error { error := .profileOutOfRange 0 0 } ∧
      (run secondLanguage).succeeded = false := by
  have hrun : (run firstLanguage).succeeded = true := by decide +kernel
  have hdocument : firstLanguage.document = .ok twoLanguages := by decide +kernel
  have hname : "B" ∈ twoLanguages.register.registry.names := by decide +kernel
  have hnext : secondLanguage.document = .ok twoLanguages := by decide +kernel
  obtain ⟨request, rules, other, -, hprepared, -, hother, -, -, hlanguage, -⟩ :=
    remembered_profile_blocks_iff firstLanguage "B" firstLanguage.files ['a', '\n'] twoLanguages
      hrun hdocument hname hnext
  have hselected : rules.selected = some 0 := by
    have hfirst : firstLanguage.prepared.toOption.map RuleSet.selected = some (some 0) := by
      decide +kernel
    rw [hprepared] at hfirst
    exact Option.some.inj hfirst
  have hcount : other.profiles.length = 0 := by
    have hsecond : (twoLanguages.loaded? "B").map (·.profiles.length) = some 0 := by
      decide +kernel
    rw [hother] at hsecond
    exact Option.some.inj hsecond
  obtain ⟨hblocked, hsucceeded⟩ := hlanguage (by decide +kernel)
  have hfailed : ¬(run secondLanguage).succeeded = true := fun hsuccess =>
    Nat.not_lt_zero 0 (hcount ▸ hsucceeded.mp hsuccess 0 hselected)
  exact ⟨hrun, hdocument, hname, hnext, (hblocked 0 0).mpr ⟨hselected, hcount, Nat.le_refl 0⟩,
    Bool.eq_false_iff.mpr hfailed⟩

/-- A language that can be used by itself cannot be used after one that has a profile. -/
theorem remembered_profile_blocks :
    firstLanguage.document = .ok twoLanguages ∧ secondLanguage.document = .ok twoLanguages ∧
      twoLanguages.register.registry.names = ["A", "B"] ∧
      (run firstLanguage).succeeded = true ∧
      (run firstLanguage).settings = some { language := some "A", profile := some 0 } ∧
      (run secondLanguage).succeeded = false ∧
      (run secondLanguage).log.getLast? =
        some ⟨.error, (Error.profileOutOfRange 0 0).message⟩ ∧
      (run { firstLanguage with arguments := ["B"] }).succeeded = true := by
  decide +kernel

end Transliteration.CommandLine
