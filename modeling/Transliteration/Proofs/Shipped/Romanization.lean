import Transliteration.Proofs.Scan.Characters
import Transliteration.Proofs.Shipped.Decomposition

/-!
# The romanizations of Korean

Whichever of its profiles is in use, a romanized text has no syllable of Hangul and no part of one,
and everything else in the text is copied where it stands (`Korean.hangul_romanization`).

## Strategy

* The tables are checked once (`Korean.romanizesParts`): every rule is for one part, no replacement
  has a part or a syllable, and every part has a rule that asks for nothing around it.  The last
  is what keeps a part from being copied where the conditions of its other rules fail.
* All else holds of every table like that.  The text is taken apart, and the scan then writes one
  piece for every character (`Scan.exists_pieces`): a replacement for a part, and for any other
  character that character.
* The pieces for the parts of a syllable are put together again (`exists_grouped`).
-/

namespace Transliteration

namespace Hangul

/-! ## Parts -/

/-- The characters that are parts of syllables. -/
def partChars : List Char :=
  (List.range' 0x1100 19 ++ List.range' 0x1161 21 ++ List.range' 0x11A7 28).map Char.ofNat

theorem mem_partChars {c : Char} (hpart : IsPart c) : c ∈ partChars := by
  refine List.mem_map.mpr ⟨c.toNat, ?_, Char.ofNat_toNat c⟩
  simp only [List.mem_append, List.mem_range'_1]
  unfold IsPart at hpart
  omega

/-- The character is neither a syllable nor a part of one. -/
def IsOther (c : Char) : Prop := ¬ IsSyllable c ∧ ¬ IsPart c

instance : DecidablePred IsOther := fun c =>
  inferInstanceAs (Decidable (¬ IsSyllable c ∧ ¬ IsPart c))

theorem caselessRange_parts : Unicode.CaselessRange 0x1100 0x11FF := by decide +kernel

theorem isPlain_of_isPart {c : Char} (hpart : IsPart c) : Regex.IsPlain c := by
  unfold IsPart at hpart
  exact Regex.isPlain_of_caseless (by omega) (caselessRange_parts.mono (by omega) (by omega))

/-! ## Tables for the parts of syllables -/

/-- A table of rules that puts other characters in the place of every part of a syllable. -/
structure RomanizesParts (records : List RuleRecord) : Prop where
  sound : ∀ record ∈ records, record.fault? = none
  forParts : ∀ record ∈ records, ∃ part, IsPart part ∧ record.main.toList = [part]
  clean : ∀ record ∈ records, ∀ replacement ∈ record.replacements,
    ∀ c ∈ replacement.toList, IsOther c
  /-- Some rule for the part applies wherever it stands. -/
  complete : ∀ part, IsPart part → ∃ record ∈ records, record.main.toList = [part] ∧
    record.before = none ∧ record.after = none

/-- One of the rules writes this for the character. -/
def Replaces (records : List RuleRecord) (c : Char) (written : List Char) : Prop :=
  ∃ record ∈ records, record.main.toList = [c] ∧
    ∃ replacement ∈ record.replacements, written = replacement.toList

/-- What is written for a character of a text: replacements for the parts of a syllable, in their
order, or for a part that stands alone, and any other character itself. -/
inductive Romanizes (records : List RuleRecord) : Char → List Char → Prop
  | syllable {syllable : Syllable} {pieces : List (List Char)}
      (hparts : List.Forall₂ (Replaces records) syllable.parts pieces) :
      Romanizes records syllable.char pieces.flatten
  | part {c : Char} {written : List Char} (hpart : IsPart c)
      (hreplaces : Replaces records c written) : Romanizes records c written
  | other {c : Char} (hother : IsOther c) : Romanizes records c [c]

variable {records : List RuleRecord}

/-- A rule of the table is declared for one part and replaces it alone. -/
theorem RomanizesParts.exists_record (hrecords : RomanizesParts records) {rule : Rule}
    (hrule : rule ∈ records.filterMap RuleRecord.rule?) :
    ∃ record ∈ records, record.Declares rule ∧
      ∃ part, IsPart part ∧ record.main.toList = [part] ∧ rule.main.MatchesOnly part := by
  obtain ⟨record, hrecord, hrule⟩ := List.mem_filterMap.mp hrule
  obtain ⟨part, hpart, hmain⟩ := hrecords.forParts record hrecord
  have hdeclares := RuleRecord.declares_of_rule?_eq_some hrule
  exact ⟨record, hrecord, hdeclares, part, hpart, hmain,
    hdeclares.matchesOnly (isPlain_of_isPart hpart) hmain⟩

/-- Every part has a rule that replaces it wherever it stands. -/
theorem RomanizesParts.exists_unconditional (hrecords : RomanizesParts records) {part : Char}
    (hpart : IsPart part) :
    ∃ rule ∈ records.filterMap RuleRecord.rule?, rule.main.MatchesOnly part ∧
      rule.Unconditional := by
  obtain ⟨record, hrecord, hmain, hbefore, hafter⟩ := hrecords.complete part hpart
  have hsome : record.rule?.isSome = true := by
    rw [record.isSome_rule?, hrecords.sound record hrecord]
    rfl
  obtain ⟨rule, hrule⟩ := Option.isSome_iff_exists.mp hsome
  have hdeclares := RuleRecord.declares_of_rule?_eq_some hrule
  exact ⟨rule, List.mem_filterMap.mpr ⟨record, hrecord, hrule⟩,
    hdeclares.matchesOnly (isPlain_of_isPart hpart) hmain,
    hdeclares.unconditional hbefore hafter⟩

/-- What the rules of the table write for a character that is no syllable. -/
theorem RomanizesParts.of_writes (hrecords : RomanizesParts records) {c : Char}
    {written : List Char}
    (hwrites : Scan.Writes (records.filterMap RuleRecord.rule?) c written) :
    (IsPart c ∧ Replaces records c written) ∨ (¬ IsPart c ∧ written = [c]) := by
  cases hwrites with
  | replaced hrule hmain hreplacement =>
      obtain ⟨record, hrecord, hdeclares, part, hpart, hsource, honly⟩ :=
        hrecords.exists_record hrule
      obtain rfl := honly.unique hmain
      rw [hdeclares.replacements_eq] at hreplacement
      exact .inl ⟨hpart, record, hrecord, hsource, _, hreplacement, rfl⟩
  | copied hrules =>
      refine .inr ⟨fun hpart => ?_, rfl⟩
      obtain ⟨rule, hrule, hmain, hunconditional⟩ := hrecords.exists_unconditional hpart
      exact hrules rule hrule hmain hunconditional

/-! ## Texts -/

/-- Pieces for what the characters of a text are taken apart into are grouped by the characters. -/
theorem exists_grouped {Writes : Char → List Char → Prop} {text : List Char}
    {pieces : List (List Char)} (hpieces : List.Forall₂ Writes (decompose text) pieces) :
    ∃ written, List.Forall₂ (fun c written =>
        ∃ own, List.Forall₂ Writes (constituents c) own ∧ written = own.flatten) text written ∧
      pieces.flatten = written.flatten := by
  induction text generalizing pieces with
  | nil =>
      cases hpieces
      exact ⟨[], .nil, rfl⟩
  | cons c text ih =>
      have hown := List.forall₂_take (constituents c).length hpieces
      have hothers := List.forall₂_drop (constituents c).length hpieces
      rw [decompose_cons, List.take_left] at hown
      rw [decompose_cons, List.drop_left] at hothers
      obtain ⟨written, hwritten, hflatten⟩ := ih hothers
      refine ⟨_, .cons ⟨_, hown, rfl⟩ hwritten, ?_⟩
      rw [List.flatten_cons, ← hflatten, ← List.flatten_append, List.take_append_drop]

/-- What the rules of the table write for a character of the text is told from what they write for
its constituents. -/
theorem RomanizesParts.of_constituents (hrecords : RomanizesParts records) {c : Char}
    {pieces : List (List Char)}
    (hpieces : List.Forall₂ (Scan.Writes (records.filterMap RuleRecord.rule?)) (constituents c)
      pieces) : Romanizes records c pieces.flatten := by
  rcases cases_char c with ⟨syllable, rfl⟩ | hc
  · rw [constituents_char] at hpieces
    have hparts : ∀ part ∈ syllable.parts, IsPart part := fun _ => Syllable.isPart_of_mem_parts
    refine .syllable (((List.forall₂_and_left _ _).mpr ⟨hparts, hpieces⟩).imp ?_)
    rintro part piece ⟨hpart, hwrites⟩
    exact ((hrecords.of_writes hwrites).resolve_right fun h => h.1 hpart).2
  · rw [constituents_of_not_syllable hc] at hpieces
    cases hpieces with
    | cons hwrites hnil =>
      cases hnil
      rw [List.flatten_singleton]
      rcases hrecords.of_writes hwrites with ⟨hpart, hreplaces⟩ | ⟨hpart, rfl⟩
      · exact .part hpart hreplaces
      · exact .other ⟨hc, hpart⟩

/-- The scan of a text that has been taken apart writes one piece after another for the characters
of the text. -/
theorem RomanizesParts.exists_pieces (hrecords : RomanizesParts records) (text : List Char) :
    ∃ pieces, List.Forall₂ (Romanizes records) text pieces ∧
      Scan.replace (records.filterMap RuleRecord.rule?) (decompose text) = pieces.flatten := by
  have hrules : ∀ rule ∈ records.filterMap RuleRecord.rule?, ∃ c, rule.main.MatchesOnly c := by
    intro rule hrule
    obtain ⟨-, -, -, part, -, -, honly⟩ := hrecords.exists_record hrule
    exact ⟨part, honly⟩
  obtain ⟨pieces, hpieces, hwritten⟩ := Scan.exists_pieces hrules (decompose text)
  obtain ⟨grouped, hgrouped, hflatten⟩ := exists_grouped hpieces
  refine ⟨grouped, hgrouped.imp ?_, hwritten.trans hflatten⟩
  rintro c _ ⟨own, hown, rfl⟩
  exact hrecords.of_constituents hown

/-- What holds of all characters of every piece holds of all characters. -/
theorem forall_mem_flatten {Writes : Char → List Char → Prop} {Property : Char → Prop}
    {text : List Char} {pieces : List (List Char)} (hpieces : List.Forall₂ Writes text pieces)
    (hwrites : ∀ c piece, Writes c piece → ∀ d ∈ piece, Property d) :
    ∀ d ∈ pieces.flatten, Property d := by
  induction hpieces with
  | nil => exact List.forall_mem_nil _
  | cons hpiece _ ih =>
      rw [List.flatten_cons, List.forall_mem_append]
      exact ⟨hwrites _ _ hpiece, ih⟩

/-- Nothing of Hangul is written. -/
theorem RomanizesParts.isOther_of_romanizes (hrecords : RomanizesParts records) {c : Char}
    {written : List Char} (hwritten : Romanizes records c written) :
    ∀ d ∈ written, IsOther d := by
  have hreplaces : ∀ part piece, Replaces records part piece → ∀ d ∈ piece, IsOther d := by
    rintro part _ ⟨record, hrecord, -, replacement, hreplacement, rfl⟩
    exact hrecords.clean record hrecord replacement hreplacement
  cases hwritten with
  | syllable hparts => exact forall_mem_flatten hparts hreplaces
  | part _ hpiece => exact hreplaces c written hpiece
  | other hother => exact List.forall_mem_singleton.mpr hother

end Hangul

/-- With a profile in use a text is taken apart, and then the rules of the profile are applied. -/
theorem RuleSet.romanize_withSelected (set : RuleSet) {index : Nat} {profile : Profile}
    (hprofile : set.profiles[index]? = some profile) (text : String) :
    ({ set with selected := some index } : RuleSet).romanize text false =
      profile.romanize <$> set.decompose text := by
  have hselected : ({ set with selected := some index } : RuleSet).profile? = some profile :=
    hprofile
  rw [romanize, hselected]
  rfl

namespace Shipped.Korean

open Hangul

/-! ## The tables of Korean -/

/-- The text consists of one part.

The tables are gone through text by text here, because a property of all characters would be
decided by trying each of them. -/
def isPartText (source : String) : Bool :=
  source.toList.length == 1 && source.toList.all fun c => IsPart c

theorem exists_part {source : String} (hsource : isPartText source = true) :
    ∃ part, IsPart part ∧ source.toList = [part] := by
  rw [isPartText, Bool.and_eq_true, beq_iff_eq, List.length_eq_one_iff] at hsource
  obtain ⟨⟨part, hpart⟩, hall⟩ := hsource
  rw [hpart, List.all_cons, List.all_nil, Bool.and_true, decide_eq_true_iff] at hall
  exact ⟨part, hall, hpart⟩

/-- Every rule is for one part, and nothing of Hangul is in its replacements. -/
theorem clean_rules : ∀ profile ∈ rules.profiles, ∀ record ∈ profile.transliterations,
    isPartText record.main = true ∧
    ∀ replacement ∈ record.replacements, (replacement.toList.all fun c => IsOther c) = true := by
  decide +kernel

/-- Every part has a rule that asks for nothing around it. -/
theorem complete_rules : ∀ profile ∈ rules.profiles,
    (partChars.all fun part => ∃ record ∈ profile.transliterations,
      record.main = String.singleton part ∧ record.before = none ∧ record.after = none) = true := by
  decide +kernel

/-- The conditions on the text before a match. -/
def conditions : List (String × Anchor) :=
  [("ᆯ", .finish), ("[ᅡ-ᅵ]ᆧ|[ᆫᆯᆷᆼ]", .finish)]

/-- Every pattern is a part at the start of a text, or one of the conditions. -/
theorem required_rules : ∀ profile ∈ rules.profiles, ∀ record ∈ profile.transliterations,
    ∀ required ∈ record.required,
      (isPartText required.1 = true ∧ required.2 = .start) ∨ required ∈ conditions := by
  decide +kernel

theorem compile_conditions : ∀ condition ∈ conditions,
    (Pattern.compile condition.1 condition.2).toOption.isSome = true := by
  decide +kernel

theorem romanizesParts {profile : ProfileRecord} (hprofile : profile ∈ rules.profiles) :
    RomanizesParts profile.transliterations where
  sound := by
    intro record hrecord
    refine RuleRecord.fault?_eq_none_iff.mpr fun required hrequired => ?_
    -- the patterns of the parts compile like any character, and the conditions are few
    rcases required_rules profile hprofile record hrecord required hrequired with
      ⟨hsource, hanchor⟩ | hcondition
    · obtain ⟨part, hpart, hsource⟩ := exists_part hsource
      obtain ⟨pattern, hcompile, -⟩ :=
        Pattern.exists_compile_character (isPlain_of_isPart hpart) hsource
      exact ⟨pattern, hanchor ▸ hcompile⟩
    · have hsome := compile_conditions required hcondition
      cases hcompile : Pattern.compile required.1 required.2 with
      | error error => rw [hcompile] at hsome; cases hsome
      | ok pattern => exact ⟨pattern, rfl⟩
  forParts record hrecord := exists_part (clean_rules profile hprofile record hrecord).1
  clean := by
    intro record hrecord replacement hreplacement c hc
    have hall := (clean_rules profile hprofile record hrecord).2 replacement hreplacement
    exact of_decide_eq_true (List.all_eq_true.mp hall c hc)
  complete := by
    intro part hpart
    have hall := List.all_eq_true.mp (complete_rules profile hprofile) part (mem_partChars hpart)
    obtain ⟨record, hrecord, hmain, hconditions⟩ := of_decide_eq_true hall
    exact ⟨record, hrecord, by rw [hmain, String.toList_singleton], hconditions⟩

/-! ## Korean as it is loaded -/

theorem names_profiles :
    rules.profiles.map ProfileRecord.name = ["Revised Romanization", "McCune-Reischauer"] := rfl

theorem romanize_language {index : Nat} {record : ProfileRecord}
    (hrecord : rules.profiles[index]? = some record) (text : String) :
    ({ language.ruleSet with selected := some index } : RuleSet).romanize text false =
      ⟨String.ofList (Scan.replace (record.transliterations.filterMap RuleRecord.rule?)
        (Hangul.decompose text.toList)), []⟩ := by
  have hprofile : language.ruleSet.profiles[index]? = some record.profile := by
    rw [Language.ruleSet, List.getElem?_map]
    exact congrArg (Option.map ProfileRecord.profile) hrecord
  rw [RuleSet.romanize_withSelected _ hprofile, decompose_language]
  refine Logged.ext ?_ rfl
  rw [Logged.value_map, Profile.romanize, String.toList_ofList, ProfileRecord.profile]

/-- Either profile can be selected by its index and by its name. -/
theorem select_profile {index : Nat} {record : ProfileRecord}
    (hrecord : rules.profiles[index]? = some record) :
    language.ruleSet.select index = (.ok (), { language.ruleSet with selected := some index }) ∧
      language.ruleSet.selectByName record.name =
        (.ok (), { language.ruleSet with selected := some index }) := by
  have hprofiles : language.ruleSet.profiles = rules.profiles.map ProfileRecord.profile := rfl
  have hfind : language.ruleSet.profiles.findIdx? (fun profile => profile.name == record.name) =
      some index := by
    rw [hprofiles, List.findIdx?_map]
    match index, hrecord with
    | 0, rfl => rfl
    | 1, rfl => rfl
  constructor
  · apply RuleSet.select_of_lt
    rw [hprofiles, List.length_map]
    exact (List.getElem?_eq_some_iff.mp hrecord).1
  · rw [RuleSet.selectByName, hfind]

/-- Nothing of Hangul is left in a romanized text, and nothing else is changed in it.

Korean is loaded from the document that comes with the library.  It has two profiles, and with each
of them a text is romanized without fail.  What is written for a text are pieces, one for each of
its characters and in their order: replacements for the parts of a syllable, a replacement for a
part that stands alone, and the character itself for any other.  No piece contains a syllable or a
part. -/
theorem hangul_romanization (loader : Loader) :
    ∃ set, loader.languageRules document "Korean" = .ok set ∧
      set.profiles.map Profile.name = ["Revised Romanization", "McCune-Reischauer"] ∧
      ∀ index record, rules.profiles[index]? = some record →
        ∃ selected, set.select index = (.ok (), selected) ∧
          set.selectByName record.name = (.ok (), selected) ∧
          ∀ text, ∃ pieces, List.Forall₂ (Romanizes record.transliterations) text.toList pieces ∧
            selected.romanize text false = ⟨String.ofList pieces.flatten, []⟩ ∧
            ∀ c ∈ pieces.flatten, ¬ IsSyllable c ∧ ¬ IsPart c := by
  refine ⟨language.ruleSet, languageRules_korean loader, ?_, fun index record hrecord => ?_⟩
  · rw [← names_profiles, Language.ruleSet, List.map_map]
    rfl
  · obtain ⟨hselect, hselectByName⟩ := select_profile hrecord
    refine ⟨_, hselect, hselectByName, fun text => ?_⟩
    have hrecords := romanizesParts (List.mem_of_getElem? hrecord)
    obtain ⟨pieces, hpieces, hwritten⟩ := hrecords.exists_pieces text.toList
    refine ⟨pieces, hpieces, ?_, ?_⟩
    · rw [romanize_language hrecord, hwritten]
    · exact forall_mem_flatten hpieces fun _ _ hpiece => hrecords.isOther_of_romanizes hpiece

end Shipped.Korean

end Transliteration
