import Transliteration.Regex.Blank
import Transliteration.Regex.Fault

/-!
# Reading within a group

Where a pattern is put in a group, a closing parenthesis comes after it and then perhaps more.  What
the readers take from the front of the pattern is the same as without the group.  What they leave is
the same too with the end of the group after it (`InGroup`), except that a comment at the end of the
pattern takes the end of the group with it.

`SameRead` says this of the answers of a reader.  It is put together along the clauses of the reader
by the lemmas here.  Where the converse holds as well, since a reader never takes in the end of the
group, both are said at once (`Together`).
-/

namespace Transliteration.Regex

/-- What is left of a pattern within a group, beside what is left of the pattern by itself. -/
inductive InGroup (more : List Char) : List Char → List Char → Prop where
  | next (rest : List Char) : InGroup more rest (rest ++ ')' :: more)
  /-- The end of the group stands in a comment. -/
  | swallowed : InGroup more [] []

variable {more : List Char}

theorem InGroup.cons {c : Char} {rest left : List Char} (hleft : InGroup more (c :: rest) left) :
    ∃ left', left = c :: left' ∧ InGroup more rest left' := by
  cases hleft with
  | next => exact ⟨rest ++ ')' :: more, rfl, .next rest⟩

/-! ## White space and comments -/

theorem isBlank_sign {c : Char} (hc : c ∈ [')', ']', '-', '{']) : isBlank c = false := by
  have hsigns : [')', ']', '-', '{'].any isBlank = false := by decide +kernel
  exact Bool.eq_false_iff.mpr (List.any_eq_false.mp hsigns c hc)

theorem isBlank_paren : isBlank ')' = false := isBlank_sign (by decide)

theorem dropBlanks_comment_eq_nil {text : List Char} (hline : '\n' ∉ text) :
    dropBlanks true text = [] := by
  induction text with
  | nil => rfl
  | cons c rest ih =>
      rw [List.mem_cons, not_or] at hline
      have hc : (c != '\n') = true := bne_iff_ne.mpr (Ne.symm hline.1)
      rw [dropBlanks, if_pos rfl, hc]
      exact ih hline.2

theorem inGroup_dropBlanks (hline : '\n' ∉ more) (inComment : Bool) (pattern : List Char) :
    InGroup more (dropBlanks inComment pattern)
      (dropBlanks inComment (pattern ++ ')' :: more)) := by
  induction pattern generalizing inComment with
  | nil =>
      -- A comment that is still open takes the parenthesis, and no line end comes to close it.
      cases inComment with
      | true =>
          have hline' : '\n' ∉ ')' :: more := by simpa using hline
          rw [List.nil_append, dropBlanks_comment_eq_nil hline']
          exact .swallowed
      | false =>
          have hstop : dropBlanks false (')' :: more) = ')' :: more := by
            simp [dropBlanks, isBlank_paren]
          rw [List.nil_append, hstop]
          exact .next []
  | cons c rest ih =>
      rw [List.cons_append]
      unfold dropBlanks
      split
      · exact ih _
      · split
        · exact ih _
        · split
          · exact ih _
          · exact .next (c :: rest)

theorem InGroup.skip (hline : '\n' ∉ more) (modes : Modes) {pattern left : List Char}
    (hleft : InGroup more pattern left) :
    InGroup more (Regex.skip modes pattern) (Regex.skip modes left) := by
  unfold Regex.skip
  cases hleft with
  | next =>
      split
      · exact inGroup_dropBlanks hline false pattern
      · exact .next pattern
  | swallowed =>
      split
      · exact .swallowed
      · exact .swallowed

theorem length_dropBlanks_le (inComment : Bool) (pattern : List Char) :
    (dropBlanks inComment pattern).length ≤ pattern.length := by
  induction pattern generalizing inComment with
  | nil => exact Nat.le_refl 0
  | cons c rest ih =>
      unfold dropBlanks
      split
      · exact Nat.le_succ_of_le (ih _)
      · split
        · exact Nat.le_succ_of_le (ih _)
        · split
          · exact Nat.le_succ_of_le (ih _)
          · exact Nat.le_refl _

theorem length_skip_le (modes : Modes) (pattern : List Char) :
    (Regex.skip modes pattern).length ≤ pattern.length := by
  unfold Regex.skip
  split
  · exact length_dropBlanks_le false pattern
  · exact Nat.le_refl _

theorem inGroup_dropWhile_isBlank {pattern left : List Char} (hleft : InGroup more pattern left) :
    InGroup more (pattern.dropWhile isBlank) (left.dropWhile isBlank) := by
  cases hleft with
  | swallowed => exact .swallowed
  | next =>
      induction pattern with
      | nil =>
          rw [List.nil_append, List.dropWhile_cons_of_neg (by simp [isBlank_paren])]
          exact .next []
      | cons c rest ih =>
          rw [List.cons_append, List.dropWhile_cons, List.dropWhile_cons]
          split
          · exact ih
          · exact .next (c :: rest)

variable {modes : Modes} {pattern left rest : List Char}

/-- Where something is left after white space and comments, it begins with the same character. -/
theorem InGroup.skip_cons (hline : '\n' ∉ more) (hleft : InGroup more pattern left) {c : Char}
    (hskip : Regex.skip modes pattern = c :: rest) :
    ∃ left', Regex.skip modes left = c :: left' ∧ InGroup more rest left' ∧
      InGroup more (c :: rest) (c :: left') := by
  have hskip' := hleft.skip hline modes
  rw [hskip] at hskip'
  obtain ⟨left', heq, hrest⟩ := hskip'.cons
  rw [heq] at hskip'
  exact ⟨left', heq, hrest, hskip'⟩

/-- Other characters than the parenthesis stand in front only where they did before. -/
theorem InGroup.ne_cons (hleft : InGroup more pattern left) {c : Char} (hc : c ≠ ')')
    (hpattern : ∀ rest, pattern ≠ c :: rest) : ∀ rest, left ≠ c :: rest := by
  intro rest heq
  cases hleft with
  | swallowed => cases heq
  | next =>
      -- what comes after an empty rest of the pattern is the parenthesis
      cases pattern with
      | nil => exact hc (List.cons.inj heq).1.symm
      | cons c' pattern => exact hpattern pattern (by rw [(List.cons.inj heq).1])

/-- Either the sign stands in front of both texts, or in front of neither. -/
theorem InGroup.front (hleft : InGroup more pattern left) (c : Char) (hc : c ≠ ')') :
    (∃ rest left', pattern = c :: rest ∧ left = c :: left' ∧ InGroup more rest left') ∨
      (∀ rest, pattern ≠ c :: rest) ∧ ∀ rest, left ≠ c :: rest := by
  by_cases hfront : ∃ rest, pattern = c :: rest
  · obtain ⟨rest, rfl⟩ := hfront
    obtain ⟨left', rfl, hrest⟩ := hleft.cons
    exact .inl ⟨rest, left', rfl, rfl, hrest⟩
  · have hnone : ∀ rest, pattern ≠ c :: rest := fun rest h => hfront ⟨rest, h⟩
    exact .inr ⟨hnone, hleft.ne_cons hc hnone⟩

theorem InGroup.ne_cons_cons (hleft : InGroup more pattern left) {c d : Char} (hc : c ≠ ')')
    (hd : d ≠ ')') (hpattern : ∀ rest, pattern ≠ c :: d :: rest) :
    ∀ rest, left ≠ c :: d :: rest := by
  intro rest heq
  cases pattern with
  | nil => exact hleft.ne_cons hc (fun _ h => by cases h) _ heq
  | cons c' pattern =>
      obtain ⟨left, rfl, hrest⟩ := hleft.cons
      obtain ⟨rfl, rfl⟩ := List.cons.inj heq
      exact hrest.ne_cons hd (fun rest h => hpattern rest (by rw [h])) rest rfl

theorem InGroup.ne_nil (hleft : InGroup more pattern left) (hpattern : pattern ≠ []) :
    left ≠ [] := by
  cases hleft with
  | swallowed => exact hpattern
  | next => simp

theorem InGroup.length_le (hleft : InGroup more pattern left) : pattern.length ≤ left.length := by
  cases hleft with
  | next => simp
  | swallowed => exact Nat.le_refl 0

theorem InGroup.dropWhile_cons {p : Char → Bool} {c : Char}
    (hleft : InGroup more pattern left) (hdrop : pattern.dropWhile p = c :: rest) :
    left.takeWhile p = pattern.takeWhile p ∧
      ∃ left', left.dropWhile p = c :: left' ∧ InGroup more rest left' := by
  cases hleft with
  | swallowed => cases hdrop
  | next =>
      have hsplit : pattern.takeWhile p ++ c :: rest = pattern := by
        rw [← hdrop, List.takeWhile_append_dropWhile]
      have hlength := congrArg List.length hsplit
      rw [List.length_append, List.length_cons] at hlength
      constructor
      · rw [List.takeWhile_append, if_neg (by omega)]
      · refine ⟨rest ++ ')' :: more, ?_, .next rest⟩
        simp [List.dropWhile_append, hdrop]

/-! ## Answers of readers -/

/-- Where the first answer is no fault the second is none either, and then they are related. -/
def Parallel {α β : Type} (R : α → β → Prop) (alone : Except Fault α) (within : Except Fault β) :
    Prop :=
  ∀ value, alone = .ok value → ∃ value', within = .ok value' ∧ R value value'

namespace Parallel

variable {α β γ δ : Type} {R : α → β → Prop} {S : γ → δ → Prop}

theorem error (fault : Fault) {within : Except Fault β} : Parallel R (.error fault) within := by
  intro value hread
  cases hread

theorem ok {value : α} {value' : β} (hrelated : R value value') :
    Parallel R (.ok value) (.ok value') := by
  intro read hread
  cases hread
  exact ⟨value', rfl, hrelated⟩

theorem bind {alone : Except Fault α} {within : Except Fault β} {next : α → Except Fault γ}
    {next' : β → Except Fault δ} (hfirst : Parallel R alone within)
    (hnext : ∀ value value', R value value' → Parallel S (next value) (next' value')) :
    Parallel S (alone >>= next) (within >>= next') := by
  intro last hread
  cases halone : alone with
  | error fault => rw [halone] at hread; cases hread
  | ok value =>
      obtain ⟨value', hwithin, hrelated⟩ := hfirst value halone
      rw [halone] at hread
      rw [hwithin]
      exact hnext value value' hrelated last hread

theorem map {alone : Except Fault α} {within : Except Fault β} {f : α → γ} {g : β → δ}
    (hfirst : Parallel R alone within)
    (hmap : ∀ value value', R value value' → S (f value) (g value')) :
    Parallel S (alone.map f) (within.map g) := by
  intro last hread
  cases halone : alone with
  | error fault => rw [halone] at hread; cases hread
  | ok value =>
      obtain ⟨value', hwithin, hrelated⟩ := hfirst value halone
      rw [halone] at hread
      cases hread
      exact ⟨g value', by rw [hwithin]; rfl, hmap value value' hrelated⟩

/-- A step that reads nothing. -/
theorem bind_left {step : Except Fault α} {next : α → Except Fault γ} {next' : α → Except Fault δ}
    (hnext : ∀ value, Parallel S (next value) (next' value)) :
    Parallel S (step >>= next) (step >>= next') := by
  cases step with
  | error fault => exact .error fault
  | ok value => exact hnext value

theorem ite {condition : Prop} [Decidable condition] {yes no : Except Fault α}
    {yes' no' : Except Fault β} (hyes : Parallel R yes yes') (hno : Parallel R no no') :
    Parallel R (if condition then yes else no) (if condition then yes' else no') := by
  by_cases hcondition : condition
  · rw [if_pos hcondition, if_pos hcondition]
    exact hyes
  · rw [if_neg hcondition, if_neg hcondition]
    exact hno

end Parallel

/-- Both answers are faults, or neither is and then they are related. -/
def Together {α β : Type} (R : α → β → Prop) (alone : Except Fault α) (within : Except Fault β) :
    Prop :=
  Parallel R alone within ∧ Parallel (fun value' value => R value value') within alone

namespace Together

variable {α β γ δ : Type} {R : α → β → Prop} {S : γ → δ → Prop}

theorem error (fault fault' : Fault) :
    Together R (.error fault : Except Fault α) (.error fault' : Except Fault β) :=
  ⟨.error fault, .error fault'⟩

theorem ok {value : α} {value' : β} (hrelated : R value value') :
    Together R (.ok value) (.ok value') :=
  ⟨.ok hrelated, .ok hrelated⟩

theorem bind {alone : Except Fault α} {within : Except Fault β} {next : α → Except Fault γ}
    {next' : β → Except Fault δ} (hfirst : Together R alone within)
    (hnext : ∀ value value', R value value' → Together S (next value) (next' value')) :
    Together S (alone >>= next) (within >>= next') :=
  ⟨hfirst.1.bind fun value value' h => (hnext value value' h).1,
    hfirst.2.bind fun value' value h => (hnext value value' h).2⟩

theorem ite {condition : Prop} [Decidable condition] {yes no : Except Fault α}
    {yes' no' : Except Fault β} (hyes : Together R yes yes') (hno : Together R no no') :
    Together R (if condition then yes else no) (if condition then yes' else no') :=
  ⟨hyes.1.ite hno.1, hyes.2.ite hno.2⟩

end Together

/-- What a reader answers within a group, beside its answer to the pattern by itself: the same value
if there is one, and then what is left. -/
def SameRead {α : Type} (more : List Char) :
    Except Fault (α × List Char) → Except Fault (α × List Char) → Prop :=
  Parallel fun alone within => alone.1 = within.1 ∧ InGroup more alone.2 within.2

theorem SameRead.bind {α β : Type} {S : β → β → Prop} {alone within : Except Fault (α × List Char)}
    {next next' : α × List Char → Except Fault β} (hsame : SameRead more alone within)
    (hnext : ∀ value rest left, InGroup more rest left →
      Parallel S (next (value, rest)) (next' (value, left))) :
    Parallel S (alone >>= next) (within >>= next') := by
  apply Parallel.bind hsame
  rintro ⟨value, rest⟩ ⟨value', left⟩ ⟨rfl, hleft⟩
  exact hnext value rest left hleft

end Transliteration.Regex
