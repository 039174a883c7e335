import Transliteration.Document.Writer
import Transliteration.Proofs.Document.Registration
import Transliteration.Proofs.Number.Checked
import Transliteration.Proofs.Record.RoundTrip
import Transliteration.Proofs.RuleSet.Isolation

/-!
# Documents that have been written

The document that is written for some languages declares their rules, and loading it makes them
available: the rules of a language that is loaded from it are those for which it was written
(`Loader.languageRules_document`).

A formula can be declared if neither its modulus nor its divisor is zero and its weights are for
results that an index of 63 bits can reach (`Formula.Declarable`).  Zeros would count as one, but
are refused where a document declares them.

## Strategy

As for the other records there is the list of the fields that are written for a formula and for a
language.  A number is declared as an integer, which is read as the number that it was written for.
-/

namespace Transliteration

/-! ## Numbers -/

theorem Json.ofNat_eq_ofInt (n : Nat) : Json.ofNat n = Json.ofInt n := by
  have hsign : decide ((n : Int) < 0) = false := by simp
  rw [ofNat, ofInt, Int.natAbs_natCast, hsign]

theorem Json.faithful_ofInt (n : Int) : (Json.ofInt n).Faithful :=
  .number (wellFormed_digits _ n.natAbs)

/-- An integer of 64 bits is read as it has been written. -/
theorem NumberLiteral.integer?_ofInt {n : Int} (hfits : Checked.Fits n) :
    integer? { negative := n < 0, whole := Json.digits n.natAbs } = some n := by
  obtain ⟨hlo, hhi⟩ := hfits
  have hlargest : largestSignificand = 2 ^ 64 - 1 := rfl
  unfold integer?
  rw [if_pos ⟨rfl, rfl⟩, Json.ofDigits_digits]
  by_cases hsign : n < 0
  · rw [if_pos (by simp [hsign]), if_pos (by omega)]
    congr 1
    omega
  · rw [if_neg (by simp [hsign]), if_pos (by omega)]
    congr 1
    omega

theorem NumberField.ofJson_ofInt (room : Nat) (value : Int64) :
    ofJson room (.ofInt value.toInt) = .ok (.integer value) := by
  have hinteger := NumberLiteral.integer?_ofInt (Checked.fits_toInt value)
  have hvalue : Checked.ofInt? value.toInt = some value := Checked.ofInt?_eq_some_iff.mpr rfl
  have hwriting : ∃ writing, (Json.ofInt value.toInt).canonical? room = .ok writing := by
    rw [Json.ofInt, Json.canonical?, Json.canonicalFrom?, NumberLiteral.canonical?, hinteger]
    exact ⟨_, rfl⟩
  obtain ⟨writing, hwriting⟩ := hwriting
  rw [ofJson, hwriting]
  simp only [Json.ofInt, hinteger, Option.bind_some, hvalue]
  rfl

/-! ## Weights -/

namespace Weights

theorem insertEntry_of_lt {entries : List (Nat × Int64)} {index : Nat}
    (hlast : ∀ entry ∈ entries, entry.1 < index) (weight : Int64) :
    insertEntry index weight entries = entries ++ [(index, weight)] := by
  induction entries with
  | nil => rfl
  | cons entry rest ih =>
      rw [List.forall_mem_cons] at hlast
      rw [insertEntry, if_neg (by omega), if_neg (by omega), ih hlast.2, List.cons_append]

/-- Weights that are given in ascending order are kept as they are given. -/
theorem ofList_toList (weights : Weights) : ofList weights.toList = weights := by
  have hentries : ∀ entries : List (Nat × Int64), entries.Pairwise (·.1 < ·.1) →
      (ofList entries).toList = entries := by
    intro entries hascending
    induction entries using List.reverseRecOn with
    | nil => rfl
    | append_singleton entries last ih =>
        obtain ⟨hentries, -, hlast⟩ := List.pairwise_append.mp hascending
        have hkept : (ofList entries).toList = entries := ih hentries
        have hnext : (ofList (entries ++ [last])).toList =
            insertEntry last.1 last.2 (ofList entries).toList := by
          simp [ofList, insert]
        rw [hnext, hkept, insertEntry_of_lt]
        intro entry hentry
        exact hlast entry hentry last (List.mem_singleton_self _)
  obtain ⟨entries, hascending⟩ := weights
  have hkept := hentries entries hascending
  cases hlist : ofList entries with
  | mk kept hkeptAscending =>
      rw [hlist] at hkept
      cases hkept
      rfl

end Weights

/-! ## Formulas -/

/-- A field with a number is read as it has been written. -/
theorem Json.Fields.named_integer {fields : Fields} {name : String} {value : Int64}
    (hget : fields.get? name = some (.ofInt value.toInt)) (room : Nat) :
    fields.named name (NumberField.ofJson room) = .ok (some (.integer value)) := by
  have hread : nullable (NumberField.ofJson room) (.ofInt value.toInt) =
      .ok (some (.integer value)) := by
    show (do return some (← NumberField.ofJson room (.ofInt value.toInt))) = _
    rw [NumberField.ofJson_ofInt]
    rfl
  unfold named required optional withDefault
  rw [hget]
  split <;> exact hread

namespace Formula

/-- The record that declares a weight. -/
def weightRecord (entry : Nat × Int64) : WeightRecord where
  index := some (.integer (Int64.ofNat entry.1))
  weight := some (.integer entry.2)

/-- The record that declares the formula. -/
def record (formula : Formula) : FormulaRecord where
  offset := some (.integer formula.offset)
  modulus := some (.integer formula.modulus)
  divisor := some (.integer formula.divisor)
  intercept := some (.integer formula.intercept)
  order := some (.integer formula.order)
  least := some (.integer formula.least)
  greatest := some (.integer formula.greatest)
  weights := formula.weights.toList.map weightRecord

/-- Whether a document can declare the formula. -/
structure Declarable (formula : Formula) : Prop where
  modulus_ne_zero : formula.modulus ≠ 0
  divisor_ne_zero : formula.divisor ≠ 0
  index_lt : ∀ entry ∈ formula.weights.toList, entry.1 < 2 ^ 63

instance (formula : Formula) : Decidable formula.Declarable :=
  decidable_of_iff (formula.modulus ≠ 0 ∧ formula.divisor ≠ 0 ∧
      ∀ entry ∈ formula.weights.toList, entry.1 < 2 ^ 63)
    ⟨fun ⟨hmodulus, hdivisor, hindex⟩ => ⟨hmodulus, hdivisor, hindex⟩,
      fun ⟨hmodulus, hdivisor, hindex⟩ => ⟨hmodulus, hdivisor, hindex⟩⟩

/-- The fields that are written for a weight. -/
def writtenWeight (entry : Nat × Int64) : List (String × Json) :=
  [("index", .ofNat entry.1), ("multiply_by", .ofInt entry.2.toInt)]

/-- The fields that are written for a formula. -/
def written (formula : Formula) : List (String × Json) :=
  [("offset", .ofInt formula.offset.toInt), ("modulus", .ofInt formula.modulus.toInt),
    ("divisor", .ofInt formula.divisor.toInt), ("intercept", .ofInt formula.intercept.toInt),
    ("order", .ofInt formula.order.toInt), ("range_min", .ofInt formula.least.toInt),
    ("range_max", .ofInt formula.greatest.toInt)] ++
  if formula.weights.toList.isEmpty then []
  else [("prev_factors",
    .array (formula.weights.toList.map fun entry => .ofFields (writtenWeight entry)))]

theorem toJson_eq (formula : Formula) : formula.toJson = .ofFields formula.written := rfl

theorem weightOfJson_written (depth : Nat) {entry : Nat × Int64} (hindex : entry.1 < 2 ^ 63) :
    FormulaRecord.weightOfJson depth (.ofFields (writtenWeight entry)) =
      .ok (weightRecord entry) := by
  have hkeys : ((writtenWeight entry).map Prod.fst).Sublist ["index", "multiply_by"] := .refl _
  obtain ⟨found, hfound, hget⟩ := Json.Fields.exists_of_ofFields (by simp) hkeys
  have hnumber (name : String) (value : Int64)
      (hvalue : found.get? name = some (.ofInt value.toInt)) (room : Nat) :=
    Json.Fields.named_integer hvalue room
  have hplace := hnumber "index" (Int64.ofNat entry.1)
    (by simp [hget, writtenWeight, Int64.toInt_ofNat_of_lt hindex, Json.ofNat_eq_ofInt])
  have hweight := hnumber "multiply_by" entry.2 (by simp [hget, writtenWeight])
  simp only [FormulaRecord.weightOfJson, hfound, hplace, hweight, weightRecord, bind, Except.bind,
    pure, Except.pure]

theorem keys_written (formula : Formula) :
    (formula.written.map Prod.fst).Sublist ["offset", "modulus", "divisor", "intercept", "order",
      "range_min", "range_max", "prev_factors"] := by
  unfold written
  split
  · simp
  · exact .refl _

theorem toJson_faithful (formula : Formula) : formula.toJson.Faithful := by
  refine Json.faithful_ofFields ?_
  simp only [List.forall_mem_append, List.forall_mem_cons, Json.faithful_ofInt, true_and]
  refine ⟨by simp, ?_⟩
  split
  · simp
  · rw [List.forall_mem_singleton]
    refine .array fun item hitem => ?_
    obtain ⟨entry, -, rfl⟩ := List.mem_map.mp hitem
    exact Json.faithful_ofFields (by simp [Json.faithful_ofNat, Json.faithful_ofInt])

/-- The record of a formula is read back from what is written for the formula. -/
theorem ofJson_toJson {formula : Formula} (hdeclarable : formula.Declarable) (depth : Nat) :
    FormulaRecord.ofJson depth formula.toJson = .ok formula.record := by
  obtain ⟨found, hfound, hget⟩ := Json.Fields.exists_of_ofFields (by simp) formula.keys_written
  have hnumber (name : String) (value : Int64) (hname : name ∈ ["offset", "modulus", "divisor",
      "intercept", "order", "range_min", "range_max", "prev_factors"])
      (hwritten : (name, Json.ofInt value.toInt) ∈ formula.written) :
      found.named name (NumberField.ofJson (FormulaRecord.roomAt depth)) =
        .ok (some (.integer value)) :=
    Json.Fields.named_integer ((hget name hname _).mpr hwritten) _
  have hoffset := hnumber "offset" formula.offset (by simp) (by simp [written])
  have hmodulus := hnumber "modulus" formula.modulus (by simp) (by simp [written])
  have hdivisor := hnumber "divisor" formula.divisor (by simp) (by simp [written])
  have hintercept := hnumber "intercept" formula.intercept (by simp) (by simp [written])
  have horder := hnumber "order" formula.order (by simp) (by simp [written])
  have hleast := hnumber "range_min" formula.least (by simp) (by simp [written])
  have hgreatest := hnumber "range_max" formula.greatest (by simp) (by simp [written])
  have hweights : found.withDefault "prev_factors" []
      (Json.list (FormulaRecord.weightOfJson (depth + 2))) =
        .ok (formula.weights.toList.map weightRecord) :=
    Json.Fields.withDefault_nonempty_map
      (fun entry hentry => weightOfJson_written _ (hdeclarable.index_lt entry hentry))
      (by simp [hget, written])
  simp only [FormulaRecord.ofJson, toJson_eq, hfound, hoffset, hmodulus, hdivisor, hintercept,
    horder, hleast, hgreatest, hweights, record, bind, Except.bind, pure, Except.pure]

theorem weight_weightRecord (language : String) {entry : Nat × Int64}
    (hindex : entry.1 < 2 ^ 63) :
    FormulaRecord.weight language (weightRecord entry) = .ok entry := by
  have hplace : FormulaRecord.earlierIndex language (some (.integer (Int64.ofNat entry.1))) =
      .ok entry.1 := by
    have hvalue := Int64.toInt_ofNat_of_lt hindex
    simp [FormulaRecord.earlierIndex, FormulaRecord.number, NumberField.value?, hvalue, bind,
      Except.bind, pure, Except.pure]
  rw [FormulaRecord.weight, weightRecord, hplace]
  rfl

/-- The formula is made of its record. -/
theorem toFormula_record {formula : Formula} (hdeclarable : formula.Declarable)
    (language : String) : formula.record.toFormula language = .ok formula := by
  have hnumber (field : String) (value : Int64) :
      FormulaRecord.number language field (some (.integer value)) = .ok value := rfl
  have hnonZero {value : Int64} (field : String) (hvalue : value ≠ 0) :
      FormulaRecord.nonZero language field (some (.integer value)) = .ok value := by
    show (if value = 0 then _ else _) = _
    rw [if_neg hvalue]
    rfl
  have hweights : (formula.weights.toList.map weightRecord).mapM (FormulaRecord.weight language) =
      .ok formula.weights.toList := by
    have hmap : (formula.weights.toList.map weightRecord).mapM (FormulaRecord.weight language) =
        .ok (formula.weights.toList.map id) :=
      Json.mapM_map_eq_ok fun entry hentry =>
        weight_weightRecord language (hdeclarable.index_lt entry hentry)
    rwa [List.map_id] at hmap
  simp only [FormulaRecord.toFormula, record, hnumber, hnonZero _ hdeclarable.modulus_ne_zero,
    hnonZero _ hdeclarable.divisor_ne_zero, hweights, Weights.ofList_toList, bind, Except.bind,
    pure, Except.pure]

end Formula

/-! ## Languages -/

namespace Language

/-- The language as the document that is written for it declares it. -/
def declared (language : Language) : LanguageDocument where
  iso := language.iso
  name := language.name
  transcriptions := language.rules.transcriptions
  profiles := language.rules.profiles
  formulas := language.rules.formulas.map Formula.record

/-- Whether a document can declare the language. -/
def Declarable (language : Language) : Prop :=
  ∀ formula ∈ language.rules.formulas, formula.Declarable

instance (language : Language) : Decidable language.Declarable :=
  inferInstanceAs (Decidable (∀ formula ∈ language.rules.formulas, formula.Declarable))

/-- The fields that are written for a language. -/
def written (language : Language) : List (String × Json) :=
  [("iso", .ofText language.iso), ("name", .ofText language.name)] ++
    (if language.rules.formulas.isEmpty then []
    else [("decompositions", .array (language.rules.formulas.map Formula.toJson))]) ++
    [("romanizations", .array (language.rules.profiles.map ProfileRecord.toJson)),
      ("transcriptions", .array (language.rules.transcriptions.map RuleRecord.toJson))]

theorem toJson_eq (language : Language) : language.toJson = .ofFields language.written := rfl

theorem nodup_keys_written (language : Language) : (language.written.map Prod.fst).Nodup := by
  unfold written
  split <;> simp

theorem toJson_faithful (language : Language) : language.toJson.Faithful := by
  have harray {α : Type} {encode : α → Json} (hencode : ∀ a, (encode a).Faithful)
      (values : List α) : (Json.array (values.map encode)).Faithful := by
    refine .array fun item hitem => ?_
    obtain ⟨a, -, rfl⟩ := List.mem_map.mp hitem
    exact hencode a
  refine Json.faithful_ofFields ?_
  simp only [List.forall_mem_append, List.forall_mem_cons, Json.faithful_ofText, true_and,
    harray ProfileRecord.toJson_faithful, harray RuleRecord.toJson_faithful]
  refine ⟨⟨by simp, ?_⟩, by simp⟩
  split
  · simp
  · rw [List.forall_mem_singleton]
    exact harray Formula.toJson_faithful _

/-- What is written for a language declares it. -/
theorem ofJson_toJson {language : Language} (hdeclarable : language.Declarable) :
    LanguageDocument.ofJson language.toJson = .ok language.declared := by
  have hnames : ["iso", "name", "transcriptions", "romanizations", "decompositions"].Nodup := by
    simp
  obtain ⟨found, hfound, hget⟩ :=
    Json.Fields.exists_of_ofFields_nodup hnames language.nodup_keys_written
  have hiso : found.required "iso" Json.text = .ok language.iso :=
    Json.Fields.required_text (by simp [hget, written])
  have hname : found.required "name" Json.text = .ok language.name :=
    Json.Fields.required_text (by simp [hget, written])
  have htranscriptions : found.withDefault "transcriptions" [] (Json.list RuleRecord.ofJson) =
      .ok language.rules.transcriptions :=
    Json.Fields.withDefault_list (fun rule _ => rule.ofJson_toJson) (by simp [hget, written])
  have hprofiles : found.withDefault "romanizations" [] (Json.list ProfileRecord.ofJson) =
      .ok language.rules.profiles :=
    Json.Fields.withDefault_list (fun profile _ => profile.ofJson_toJson) (by simp [hget, written])
  have hformulas : found.withDefault "decompositions" []
      (Json.list (FormulaRecord.ofJson LanguageDocument.formulaDepth)) =
        .ok (language.rules.formulas.map Formula.record) :=
    Json.Fields.withDefault_nonempty_map
      (fun formula hformula => Formula.ofJson_toJson (hdeclarable formula hformula) _)
      (by simp [hget, written])
  simp only [LanguageDocument.ofJson, toJson_eq, hfound, hiso, hname, htranscriptions, hprofiles,
    hformulas, declared, bind, Except.bind, pure, Except.pure]

/-- A language is registered with the rules for which it was written. -/
theorem registered_declared {language : Language} (hdeclarable : language.Declarable) :
    language.declared.registered =
      ⟨{ iso := language.iso, name := language.name }, language.rules.deferral⟩ := by
  have hformulas : language.declared.madeFormulas = language.rules.formulas := by
    rw [LanguageDocument.madeFormulas, declared, List.filterMap_map]
    refine (List.filterMap_congr fun formula hformula => ?_).trans List.filterMap_some
    rw [Function.comp_apply, Formula.toFormula_record (hdeclarable formula hformula)]
    rfl
  rw [LanguageDocument.registered, LanguageDocument.deferral, hformulas]
  rfl

/-- The document that is written for some languages declares them. -/
theorem ofText_document {languages : List Language}
    (hdeclarable : ∀ language ∈ languages, language.Declarable) :
    RuleDocument.ofText (document languages) = .ok ⟨languages.map declared⟩ := by
  have hfaithful :
      (Json.ofFields [("languages", .array (languages.map toJson))]).Faithful := by
    refine Json.faithful_ofFields ?_
    rw [List.forall_mem_singleton]
    refine .array fun item hitem => ?_
    obtain ⟨language, -, rfl⟩ := List.mem_map.mp hitem
    exact language.toJson_faithful
  have hkeys : ([("languages", Json.array (languages.map toJson))].map Prod.fst).Sublist
      ["languages"] := .refl _
  obtain ⟨found, hfound, hget⟩ := Json.Fields.exists_of_ofFields (by simp) hkeys
  have hlanguages : found.withDefault "languages" [] (Json.list LanguageDocument.ofJson) =
      .ok (languages.map declared) :=
    Json.Fields.withDefault_list_map
      (fun language hlanguage => ofJson_toJson (hdeclarable language hlanguage)) (by simp [hget])
  have hread := Json.read_write Json.Style.indented_spaced hfaithful
  rw [RuleDocument.ofText, RuleDocument.ofSymbols, document, hread]
  simp only [RuleDocument.ofJson, hfound, hlanguages, bind, Except.bind, pure, Except.pure]

end Language

/-! ## Loading what has been written -/

/-- Where no name occurs twice every language is registered. -/
theorem RuleDocument.firstOccurrences_of_nodup {document : RuleDocument}
    (hnodup : (document.languages.map LanguageDocument.name).Nodup) :
    document.firstOccurrences = document.languages := by
  rw [firstOccurrences, List.filter_eq_self.mpr, map_snd_entries]
  intro entry hentry
  simpa using not_mem_of_mem_entries document.languages hnodup entry hentry

/-- Where no name occurs twice a language is found by its name. -/
theorem Language.find?_eq_some {languages : List Language}
    (hnodup : (languages.map Language.name).Nodup) {language : Language}
    (hlanguage : language ∈ languages) :
    (languages.find? fun other => other.name == language.name) = some language := by
  induction languages with
  | nil => cases hlanguage
  | cons first rest ih =>
      rw [List.map_cons, List.nodup_cons] at hnodup
      rcases List.mem_cons.mp hlanguage with rfl | hrest
      · exact List.find?_cons_of_pos (by simp)
      · have hname : first.name ≠ language.name :=
          fun heq => hnodup.1 (heq ▸ List.mem_map_of_mem hrest)
        rw [List.find?_cons_of_neg (by simpa using hname)]
        exact ih hnodup.2 hrest

/-- The rules of the language after they have been loaded. -/
def Language.ruleSet (language : Language) : RuleSet where
  iso := language.iso
  name := language.name
  transcriptions := language.rules.transcriptions.filterMap RuleRecord.rule?
  profiles := language.rules.profiles.map ProfileRecord.profile
  formulas := language.rules.formulas
  loaded := true

theorem Language.load_eq (language : Language) :
    (RuleSet.load { iso := language.iso, name := language.name } language.rules).value.2 =
      language.ruleSet :=
  congrArg Prod.snd (RuleSet.value_load rfl language.rules)

/-- The rules of a language that is loaded from a document. -/
def Loader.languageRules (loader : Loader) (content name : String) : Except Error RuleSet := do
  let loaded ← loader.loadText content
  let (answer, registry) := (loaded.value.registry.load name).value
  let _ ← answer
  registry.getCurrent

/-- The rules of a language that is loaded from the document that was written for it and others are
those for which it was written, as far as they compile. -/
theorem Loader.languageRules_document (loader : Loader) {languages : List Language}
    (hdeclarable : ∀ language ∈ languages, language.Declarable)
    (hnodup : (languages.map Language.name).Nodup) {language : Language}
    (hlanguage : language ∈ languages) :
    loader.languageRules (Language.document languages) language.name =
      .ok language.ruleSet := by
  let registered : RegisteredLanguage :=
    ⟨{ iso := language.iso, name := language.name }, language.rules.deferral⟩
  have hnames : ((languages.map Language.declared).map LanguageDocument.name).Nodup := by
    simpa [List.map_map, Function.comp_def, Language.declared] using hnodup
  -- The names are distinct, so every language of the document is registered.
  have hregistry : (RuleDocument.register ⟨languages.map Language.declared⟩).registry =
      RuleDocument.registry (languages.map Language.declared) := by
    rw [RuleDocument.register_eq, RuleDocument.firstOccurrences_of_nodup hnames]
  have hfind : (RuleDocument.registry (languages.map Language.declared)).find? language.name =
      some registered := by
    rw [RuleDocument.find?_registry hnames, List.find?_map]
    refine (congrArg (Option.map _ ∘ Option.map _) (Language.find?_eq_some hnodup hlanguage)).trans
      ?_
    exact congrArg some (Language.registered_declared (hdeclarable language hlanguage))
  have hanswer := (Registry.find?_perform_load hfind).1
  have hcurrent := Registry.getCurrent_perform_load hfind
  rw [RegisteredLanguage.load_value, LanguageRules.deferral_getD] at hcurrent
  rw [languageRules, loadText, Language.ofText_document hdeclarable]
  show (do
    let _ ← ((RuleDocument.register ⟨languages.map Language.declared⟩).registry.perform
      (.load language.name)).1
    ((RuleDocument.register ⟨languages.map Language.declared⟩).registry.perform
      (.load language.name)).2.getCurrent) = _
  rw [hregistry, hanswer, ← language.load_eq]
  exact hcurrent

end Transliteration
