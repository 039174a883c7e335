import Transliteration.Proofs.CommandLine.Run
import Transliteration.Proofs.Log
import Transliteration.Proofs.Text.Lines

/-!
# What a run writes

Each stage of a rule set can be asked for by itself, with flags that tell which stages a text has
been through already.  A flag that is not set stands for the earlier stages and nothing else
(`RuleSet.romanize_false`, `RuleSet.transcribe_false`, `RuleSet.transcribe_not_romanized`).

A run takes its lines through the stages one after another, with every flag set.  What it writes for
a line is nevertheless what the stages give when each is asked for by itself with no flag set, and
this for every line on its own (`stageFlags_and_output`).
-/

namespace Transliteration

/-! ## Flags -/

namespace RuleSet

variable (set : RuleSet) (text : String)

theorem romanize_false :
    set.romanize text false = set.decompose text >>= fun text => set.romanize text true := by
  simp [romanize]

theorem transcribe_false (romanized : Bool) :
    set.transcribe text false romanized =
      set.decompose text >>= fun text => set.transcribe text true romanized := by
  cases romanized with
  | true => simp [transcribe]
  | false => simp [transcribe, set.romanize_false text]

theorem transcribe_not_romanized (decomposed : Bool) :
    set.transcribe text decomposed false =
      set.romanize text decomposed >>= fun text => set.transcribe text true true := by
  simp [transcribe]

/-- Taking a text through all stages gives what every stage gives by itself. -/
theorem value_stages :
    (set.stages text).value = ⟨(set.decompose text).value, (set.romanize text false).value,
      (set.transcribe text false false).value⟩ := by
  rw [set.transcribe_not_romanized, set.romanize_false]
  rfl

end RuleSet

/-! ## Lines -/

namespace CommandLine

/-- What is written for some lines. -/
def written (rules : RuleSet) (lines : List (List Char)) : String :=
  String.join (lines.map fun line => writeStages (rules.stages (String.ofList line)).value)

/-- What is written for a line is made up of what every stage gives by itself. -/
theorem writeStages_stages (rules : RuleSet) (text : String) :
    writeStages (rules.stages text).value =
      (rules.decompose text).value ++ "\t" ++ (rules.romanize text false).value ++ "\t" ++
        (rules.transcribe text false false).value ++ "\n" := by
  rw [rules.value_stages]
  rfl

/-- Lines of text are written one after another, and then whatever follows them. -/
theorem value_processLines_append (rules : RuleSet) (lines : List (List Char))
    (rest : List (List UInt8)) :
    (processLines rules (lines.map Utf8.encode ++ rest)).value =
      (written rules lines ++ (processLines rules rest).value.1,
        (processLines rules rest).value.2) := by
  induction lines with
  | nil => simp [written]
  | cons line lines ih =>
      rw [List.map_cons, List.cons_append, processLines, Utf8.decode?_encode]
      simp only [Logged.value_bind, Logged.value_pure, ih, written, List.map_cons, String.join_cons,
        String.append_assoc]

/-- Where every line is a text all of them are written. -/
theorem value_processLines (rules : RuleSet) (lines : List (List Char)) :
    (processLines rules (lines.map Utf8.encode)).value = (written rules lines, none) := by
  have happend := value_processLines_append rules lines []
  rw [List.append_nil] at happend
  rw [happend]
  simp [processLines]

/-- A line that is no text ends the run after the lines before it have been written. -/
theorem value_processLines_of_badLine (rules : RuleSet) (lines : List (List Char))
    {line : List UInt8} (hline : Utf8.decode? line = none) (rest : List (List UInt8)) :
    (processLines rules (lines.map Utf8.encode ++ line :: rest)).value =
      (written rules lines, some badLine) := by
  have hbad : (processLines rules (line :: rest)).value = ("", some badLine) := by
    rw [processLines, hline]
    rfl
  rw [value_processLines_append, hbad]
  simp

/-! ## Output -/

section

variable {world : World} {rules : RuleSet} {text : List Char}

/-- A run whose input is a text goes through all of its lines. -/
theorem processed_of_text {lines : List (List Char)} (hinput : world.input = Utf8.encode text)
    (hlines : Line.Splits text lines) : world.processed rules = (written rules lines, none) := by
  rw [World.processed, hinput, Line.split_encode hlines]
  exact value_processLines rules lines

/-- A run whose input is a text succeeds if rules can be prepared, and not otherwise. -/
theorem succeeded_iff_of_text (hinput : world.input = Utf8.encode text) :
    (run world).succeeded = true ↔ ∃ rules, world.prepared = .ok rules := by
  constructor
  · intro hrun
    obtain ⟨rules, -, hprepared, -⟩ := exists_processed hrun
    exact ⟨rules, hprepared⟩
  · rintro ⟨rules, hprepared⟩
    obtain ⟨lines, hlines⟩ := Line.exists_splits text
    exact (run_of_processed hprepared (processed_of_text hinput hlines)).1

end

/-- How the stages of a rule set and the output of a run hang together.

Whatever rules a rule set has been given, to ask for a stage without a flag is to ask for the stage
before it and then for the stage itself.  A run whose input is a text succeeds if its rules can be
prepared, and then writes, for every line of the text in order, what the three stages of these rules
give for this line alone. -/
theorem stageFlags_and_output :
    (∀ (set : RuleSet) (text : String),
      set.romanize text false = (set.decompose text >>= fun text => set.romanize text true) ∧
      (∀ romanized, set.transcribe text false romanized =
        set.decompose text >>= fun text => set.transcribe text true romanized) ∧
      ∀ decomposed, set.transcribe text decomposed false =
        set.romanize text decomposed >>= fun text => set.transcribe text true true) ∧
    ∀ (world : World) (text : List Char), world.input = Utf8.encode text →
      ((run world).succeeded = true ↔ ∃ rules, world.prepared = .ok rules) ∧
      ∃ lines, Line.Splits text lines ∧ (∀ others, Line.Splits text others → others = lines) ∧
        ∀ rules, world.prepared = .ok rules →
          (run world).output = String.join (lines.map fun line =>
            let line := String.ofList line
            (rules.decompose line).value ++ "\t" ++ (rules.romanize line false).value ++ "\t" ++
              (rules.transcribe line false false).value ++ "\n") := by
  refine ⟨fun set text => ⟨set.romanize_false text, set.transcribe_false text,
    set.transcribe_not_romanized text⟩, fun world text hinput => ?_⟩
  obtain ⟨lines, hlines⟩ := Line.exists_splits text
  refine ⟨succeeded_iff_of_text hinput, lines, hlines, fun others hothers => hothers.unique hlines,
    ?_⟩
  intro rules hprepared
  rw [(run_of_processed hprepared (processed_of_text hinput hlines)).2.1, written]
  simp only [writeStages_stages]

end CommandLine

end Transliteration
