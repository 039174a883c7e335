import Transliteration.Proofs.Decomposition.Constituents

/-!
# Warnings

A result that is no character is written as the replacement character, and nothing is written like
that without a warning.  Two places give warnings: one where a formula is evaluated, and another
where its result is written.  `decompose_warnings` says that between them every such result has
exactly one warning, and that there are no others.  So the replacement characters in the output can
be counted: those without a warning were copied from the text, or their code point was computed.

## Strategy

A result is of one of three kinds: it has failed, its value is no scalar value, or its value is the
code point of a character.  The first kind has a warning in the first place only
and the second kind in the second only (`flatMap_emitWarnings`), and just these are written as the
replacement character, along with those whose code point is its own (`count_map_emit`).  Sorting
makes no difference to what is counted, and texts are counted character by character.
-/

namespace Transliteration.Decomposition

/-! ## Kinds of results -/

/-- The number is the code point of a character: neither negative nor too large, nor a surrogate. -/
def IsScalar (value : Int64) : Prop :=
  0 ≤ value.toInt ∧ value.toInt ≤ 0x10FFFF ∧ ¬ (0xD800 ≤ value.toInt ∧ value.toInt ≤ 0xDFFF)

instance : DecidablePred IsScalar := fun value =>
  inferInstanceAs (Decidable (0 ≤ value.toInt ∧ value.toInt ≤ 0x10FFFF ∧
    ¬ (0xD800 ≤ value.toInt ∧ value.toInt ≤ 0xDFFF)))

/-- The result has been computed and is the code point of a character. -/
def isCharacter (result : Option Int64) : Bool := result.any fun value => decide (IsScalar value)

/-- The values among results that are the code point of no character. -/
def invalidValues (results : List (Option Int64)) : List Int64 :=
  (results.filterMap id).filter fun value => ¬ IsScalar value

theorem charOf?_eq_none_iff_not_isScalar {value : Int64} :
    charOf? value = none ↔ ¬ IsScalar value := by
  rw [charOf?_eq_none_iff, IsScalar]
  omega

theorem exists_charOf?_eq_some {value : Int64} (hvalue : IsScalar value) :
    ∃ c, charOf? value = some c := by
  apply Option.ne_none_iff_exists'.mp
  rw [ne_eq, charOf?_eq_none_iff_not_isScalar, not_not]
  exact hvalue

/-- A result is written as the replacement character if it is no character, or if it is the code
point of that one. -/
theorem emit_eq_replacement_iff {result : Option Int64} :
    emit result = '\uFFFD' ↔ isCharacter result = false ∨ result = some 0xFFFD := by
  have hreplacement : charOf? 0xFFFD = some '\uFFFD' := by decide
  cases result with
  | none => exact ⟨fun _ => .inl rfl, fun _ => rfl⟩
  | some value =>
      have hcharacter : isCharacter (some value) = decide (IsScalar value) := rfl
      rw [hcharacter, decide_eq_false_iff_not, Option.some.injEq, emit, Option.bind_some]
      by_cases hvalue : IsScalar value
      · obtain ⟨c, hc⟩ := exists_charOf?_eq_some hvalue
        rw [hc, Option.getD_some]
        constructor
        · rintro rfl
          rw [charOf?_eq_some_iff] at hc hreplacement
          exact .inr (Int64.toInt_inj.mp (hc.symm.trans hreplacement))
        · intro hwritten
          obtain rfl := hwritten.resolve_left (not_not_intro hvalue)
          exact Option.some.inj (hc.symm.trans hreplacement)
      · rw [charOf?_eq_none_iff_not_isScalar.mpr hvalue]
        exact ⟨fun _ => .inl hvalue, fun _ => rfl⟩

/-! ## Warnings about results -/

/-- When results are written there is a warning for each value that is invalid, and no other. -/
theorem flatMap_emitWarnings (c : Char) (results : List (Option Int64)) :
    results.flatMap (emitWarnings c) = (invalidValues results).map (invalidWarning c) := by
  unfold invalidValues
  induction results with
  | nil => rfl
  | cons result results ih =>
      rw [List.flatMap_cons, ih]
      cases result with
      | none => rfl
      | some value =>
          by_cases hvalue : IsScalar value
          · obtain ⟨d, hd⟩ := exists_charOf?_eq_some hvalue
            simp [emitWarnings, hd, hvalue]
          · have hnone := charOf?_eq_none_iff_not_isScalar.mpr hvalue
            simp [emitWarnings, hnone, hvalue]

/-- Every result that is no character is either failed or invalid. -/
theorem countP_not_isCharacter (results : List (Option Int64)) :
    (results.filter Option.isNone).length + (invalidValues results).length =
      results.countP fun result => !isCharacter result := by
  unfold invalidValues
  induction results with
  | nil => rfl
  | cons result results ih =>
      rw [List.countP_cons, ← ih]
      cases result with
      | none => simp [isCharacter, Nat.add_right_comm]
      | some value =>
          by_cases hvalue : IsScalar value
          · simp [isCharacter, hvalue]
          · simp [isCharacter, hvalue, Nat.add_assoc]

/-- The results that are written as the replacement character are those that are no character, and
those that are its own code point. -/
theorem count_map_emit (results : List (Option Int64)) :
    (results.map emit).count '\uFFFD' =
      (results.countP fun result => !isCharacter result) + results.count (some 0xFFFD) := by
  induction results with
  | nil => rfl
  | cons result results ih =>
      have hwritten : emit result = '\uFFFD' ↔ isCharacter result = false ∨ result = some 0xFFFD :=
        emit_eq_replacement_iff
      rw [List.map_cons, List.count_cons, ih, List.countP_cons, List.count_cons]
      simp only [beq_iff_eq, hwritten]
      -- the two kinds exclude each other
      by_cases hcharacter : isCharacter result = true
      · simp only [hcharacter, Bool.true_eq_false, false_or, Bool.not_true, Bool.false_eq_true,
          if_false, Nat.add_zero, Nat.add_assoc]
      · have hne : result ≠ some 0xFFFD := by
          rintro rfl
          exact hcharacter (by decide)
        simp only [hcharacter, hne, or_false, Bool.not_false, if_true, if_false]
        omega

theorem invalidValues_perm {results others : List (Option Int64)} (hperm : results.Perm others) :
    (invalidValues results).Perm (invalidValues others) :=
  (hperm.filterMap id).filter _

theorem pairwise_invalidValues_sort (results : List (Option Int64)) :
    (invalidValues (sort results)).Pairwise fun a b => a.toInt ≤ b.toInt := by
  obtain ⟨failed, values, hsort, hascending⟩ := sort_eq results
  have hvalues : (sort results).filterMap id = values := by
    rw [hsort, List.filterMap_append, List.filterMap_map]
    simp
  rw [invalidValues, hvalues]
  exact hascending.filter _

/-! ## Warnings about characters -/

variable {formulas : List Formula} {c : Char}

theorem evaluated_iff (formulas : List Formula) (code : Int64) (outcomes : List (Option Int64)) :
    Evaluated (covering formulas code) code outcomes ↔ outcomes = results code [] formulas := by
  constructor
  · intro houtcomes
    exact houtcomes.unique (evaluated_results formulas code)
  · rintro rfl
    exact evaluated_results formulas code

/-- A character has one warning for each formula that fails and then one for each invalid value. -/
theorem log_piece (formulas : List Formula) (c : Char) :
    (piece formulas c).log =
      ((results (codeOf c) [] formulas).filter Option.isNone).map (fun _ => overflowWarning c) ++
        (invalidValues (sort (results (codeOf c) [] formulas))).map (invalidWarning c) := by
  rw [← flatMap_emitWarnings, piece]
  split
  · next hnil =>
    rw [hnil]
    rfl
  · rfl

theorem length_log_piece (formulas : List Formula) (c : Char) :
    (piece formulas c).log.length =
      (results (codeOf c) [] formulas).countP fun result => !isCharacter result := by
  rw [log_piece, List.length_append, List.length_map, List.length_map,
    (invalidValues_perm (sort_perm _)).length_eq, countP_not_isCharacter]

/-- The replacement characters for a character: one for each warning, and those that were copied or
computed. -/
theorem count_piece (formulas : List Formula) (c : Char) :
    (piece formulas c).value.count '\uFFFD' =
      (piece formulas c).log.length +
        ([c].filter fun c => (covering formulas (codeOf c)).isEmpty).count '\uFFFD' +
        (results (codeOf c) [] formulas).count (some 0xFFFD) := by
  rw [length_log_piece]
  by_cases hnone : covering formulas (codeOf c) = []
  · rw [value_piece_of_uncovered hnone, results_eq_nil_iff.mpr hnone]
    simp [hnone]
  · rw [value_piece_of_covered hnone, count_map_emit, (sort_perm _).countP_eq,
      (sort_perm _).count_eq]
    simp [hnone]

theorem level_of_mem_log_piece {entry : LogEntry} (hentry : entry ∈ (piece formulas c).log) :
    entry.level = .warn := by
  rw [log_piece, List.mem_append, List.mem_map, List.mem_map] at hentry
  rcases hentry with ⟨_, -, rfl⟩ | ⟨_, -, rfl⟩
  · rfl
  · rfl

/-! ## Decomposition -/

theorem value_decompose_cons (formulas : List Formula) (c : Char) (text : List Char) :
    (decompose formulas (c :: text)).value =
      (piece formulas c).value ++ (decompose formulas text).value := rfl

theorem log_decompose_cons (formulas : List Formula) (c : Char) (text : List Char) :
    (decompose formulas (c :: text)).log =
      (piece formulas c).log ++ (decompose formulas text).log := rfl

theorem length_log_decompose (formulas : List Formula) (text : List Char) :
    (decompose formulas text).log.length =
      (text.flatMap fun c => results (codeOf c) [] formulas).countP
        fun result => !isCharacter result := by
  induction text with
  | nil => rfl
  | cons c text ih =>
      rw [log_decompose_cons, List.length_append, ih, length_log_piece, List.flatMap_cons,
        List.countP_append]

theorem count_decompose (formulas : List Formula) (text : List Char) :
    (decompose formulas text).value.count '\uFFFD' =
      (decompose formulas text).log.length +
        (text.filter fun c => (covering formulas (codeOf c)).isEmpty).count '\uFFFD' +
        (text.flatMap fun c => results (codeOf c) [] formulas).count (some 0xFFFD) := by
  induction text with
  | nil => rfl
  | cons c text ih =>
      have hcopied : ((c :: text).filter fun c => (covering formulas (codeOf c)).isEmpty) =
          ([c].filter fun c => (covering formulas (codeOf c)).isEmpty) ++
            text.filter fun c => (covering formulas (codeOf c)).isEmpty := by
        rw [← List.filter_append, List.singleton_append]
      rw [value_decompose_cons, log_decompose_cons, hcopied, List.flatMap_cons, List.count_append,
        List.count_append, List.count_append, List.length_append, count_piece, ih]
      omega

/-- No result is replaced without a warning.

Whatever the formulas are, every character has its results, one for each formula that covers it.
The log holds, character by character, one warning for each result that could not be computed, in
the order of the formulas, and then one for each value that is no scalar value, in ascending order,
and nothing else.  So it has as many entries as there are results that are no characters, and the
replacement characters in the output are as many as the warnings together with those that were
copied from characters that no formula covers and those that were computed as such. -/
theorem decompose_warnings (formulas : List Formula) :
    ∃ (outcomesOf : Char → List (Option Int64)) (invalidOf : Char → List Int64),
      (∀ c outcomes, Evaluated (covering formulas (codeOf c)) (codeOf c) outcomes ↔
        outcomes = outcomesOf c) ∧
      (∀ c,
        (invalidOf c).Perm (((outcomesOf c).filterMap id).filter fun value => ¬ IsScalar value) ∧
        (invalidOf c).Pairwise fun a b => a.toInt ≤ b.toInt) ∧
      ∀ text,
        ((decompose formulas text).log = text.flatMap fun c =>
          ((outcomesOf c).filter Option.isNone).map (fun _ => overflowWarning c) ++
            (invalidOf c).map (invalidWarning c)) ∧
        (∀ entry ∈ (decompose formulas text).log, entry.level = .warn) ∧
        (decompose formulas text).log.length =
          (text.flatMap outcomesOf).countP (fun result => !isCharacter result) ∧
        (decompose formulas text).value.count '\uFFFD' =
          (decompose formulas text).log.length +
            (text.filter fun c => (covering formulas (codeOf c)).isEmpty).count '\uFFFD' +
            (text.flatMap outcomesOf).count (some 0xFFFD) := by
  -- results and invalid values are those that the model computes, which are the only such lists
  refine ⟨fun c => results (codeOf c) [] formulas,
    fun c => invalidValues (sort (results (codeOf c) [] formulas)),
    fun c => evaluated_iff formulas (codeOf c), ?_, fun text => ⟨?_, ?_, ?_, ?_⟩⟩
  · intro c
    exact ⟨invalidValues_perm (sort_perm _), pairwise_invalidValues_sort _⟩
  · simp only [decompose, log_piece]
  · intro entry hentry
    obtain ⟨c, -, hpiece⟩ := List.mem_flatMap.mp hentry
    exact level_of_mem_log_piece hpiece
  · exact length_log_decompose formulas text
  · exact count_decompose formulas text

end Transliteration.Decomposition
