import Transliteration.Proofs.Regex.Reading.Group
import Transliteration.Proofs.Regex.Reading.RetracingBracket

/-!
# Groups read back to a pattern by itself

A group that goes on up to its end is read the same without that end (`retraces_readGroup`).  The
readers of repetitions and of mode letters stop before a parenthesis in any case; a name can run on
past it, but then the group is not closed there.
-/

namespace Transliteration.Regex

variable {more : List Char} {modes : Modes} {pattern left rest : List Char}

/-- A reader that never looks beyond the end of the group. -/
theorem Retraces.of_together {α β : Type} {left : β → List Char} {Related : α → β → Prop}
    {alone : Except Fault α} {within : Except Fault β} (hread : Together Related alone within) :
    Retraces more left Related alone within :=
  fun value hvalue _ => hread.2 value hvalue

theorem retraces_readCounts (hline : '\n' ∉ more) (pattern : List Char) :
    Retraces more Prod.snd (fun alone within => alone.1 = within.1 ∧ InGroup more alone.2 within.2)
      (readCounts modes pattern) (readCounts modes (pattern ++ ')' :: more)) :=
  .of_together (together_readCounts hline (.next pattern))

/-! ## The head of a group -/

/-- Mode letters end before a colon or a parenthesis.  If that is the end of the group, nothing of
the group is left after it. -/
theorem retraces_readModes {negated : Bool} {used : List Mode} {signs : Nat} :
    Retraces more (fun value => value.2.2.tail)
      (fun alone within => alone.1 = within.1 ∧ alone.2.1 = within.2.1 ∧
        ∃ c rest, alone.2.2 = c :: rest ∧ within.2.2 = c :: (rest ++ ')' :: more))
      (readModes negated used signs modes pattern)
      (readModes negated used signs modes (pattern ++ ')' :: more)) := by
  induction pattern generalizing negated used signs modes with
  | nil =>
      have hleaves : Leaves (fun value => value.2.2.tail) more
          (readModes negated used signs modes (')' :: more)) := .ok (List.suffix_refl _)
      exact .past hleaves not_suffix_more
  | cons c pattern ih =>
      rw [List.cons_append]
      unfold readModes
      refine .ite (.ok ⟨rfl, rfl, c, pattern, rfl, rfl⟩) (.ite ?_ ?_)
      · cases pattern with
        | nil =>
            -- a sign is never the last of the mode letters
            simp only [List.nil_append, or_true, if_true]
            exact .error _
        | cons next pattern => exact .ite (.error _) ih
      · cases Mode.ofLetter? c with
        | none => exact .error _
        | some mode => exact .ite (.error _) ih

theorem InGroup.not_suffix_dropWhile {p : Char → Bool} (hleft : InGroup more pattern left)
    (hp : p ')' = true) (hdrop : pattern.dropWhile p = []) :
    ¬ ')' :: more <:+ left.dropWhile p := by
  cases hleft with
  | swallowed => exact not_suffix_nil
  | next =>
      rw [List.dropWhile_append, hdrop, List.isEmpty_nil, if_pos rfl, List.dropWhile_cons_of_pos hp]
      exact fun hsuffix => not_suffix_more (hsuffix.trans (List.dropWhile_suffix p))

/-- A name that is not closed in the group takes the end of the group with it. -/
theorem retraces_readName {state state' : ReaderState} (hstate : Beside more state state') :
    Retraces more ReaderState.rest (Beside more) (readName state) (readName state') := by
  cases hdrop : state.rest.dropWhile (· != '>') with
  | nil => exact .past leaves_readName (hstate.rest.not_suffix_dropWhile (by decide) hdrop)
  | cons c rest =>
      obtain ⟨htake, left, hdrop', hrest⟩ := hstate.rest.dropWhile_cons hdrop
      have hc : c = '>' := by
        have hnot := List.head?_dropWhile_not (· != '>') state.rest
        rw [hdrop] at hnot
        simpa using hnot
      subst hc
      simp only [readName, hdrop, hdrop', htake, hstate.names]
      cases state.rest.takeWhile (· != '>') with
      | nil => exact .error _
      | cons first others => exact .ite (.ok ⟨hrest, hstate.modes, rfl⟩) (.error _)

theorem retraces_readModeGroup {state state' : ReaderState} (hmodes : state'.modes = state.modes)
    (hnames : state'.names = state.names) :
    Retraces more (fun value => value.2.rest)
      (fun alone within => alone.1 = within.1 ∧ Beside more alone.2 within.2)
      (readModeGroup state pattern) (readModeGroup state' (pattern ++ ')' :: more)) := by
  unfold readModeGroup
  rw [hmodes]
  refine retraces_readModes.bind ?_ ?_
  · -- past the mode letters one character is left out at most
    rintro ⟨modes, signs, rest⟩
    simp only
    split
    · exact .ite (.error _) (.ok (List.suffix_refl _))
    · rw [List.drop_one]
      exact .ok (List.suffix_refl _)
  · -- the letters end within the group, at a colon or at a closing parenthesis
    rintro ⟨modes, signs, _⟩ ⟨_, _, _⟩ - ⟨rfl, rfl, c, rest, rfl, rfl⟩
    simp only
    by_cases hc : c = ')'
    · subst hc
      exact .ite (.error _) (.ok ⟨rfl, .next rest, rfl, hnames⟩)
    · split
      case h_1 heq => exact absurd (List.cons.inj heq).1 hc
      case h_2 =>
        split
        case h_1 heq => exact absurd (List.cons.inj heq).1 hc
        case h_2 => exact .ok ⟨rfl, .next rest, rfl, hnames⟩

theorem retraces_readGroupHead (hline : '\n' ∉ more) {state state' : ReaderState}
    (hmodes : state'.modes = state.modes) (hnames : state'.names = state.names) :
    Retraces more (fun value => value.2.rest)
      (fun alone within => alone.1 = within.1 ∧ Beside more alone.2 within.2)
      (readGroupHead state pattern) (readGroupHead state' (pattern ++ ')' :: more)) := by
  have hname : ∀ rest, Retraces more (fun value : GroupHead × ReaderState => value.2.rest)
      (fun alone within => alone.1 = within.1 ∧ Beside more alone.2 within.2)
      ((readName { state with rest := rest }).map fun state => (GroupHead.captured, state))
      ((readName { state' with rest := rest ++ ')' :: more }).map fun state =>
        (GroupHead.captured, state)) := by
    intro rest
    have hnamed : Beside more { state with rest := rest }
        { state' with rest := rest ++ ')' :: more } := ⟨.next rest, hmodes, hnames⟩
    exact (retraces_readName hnamed).map (fun _ => rfl) fun _ _ h => ⟨rfl, h⟩
  -- Blanks end before the added parenthesis, or a comment takes it and nothing is left to retrace.
  rcases skip_append_end hline state.modes pattern with hskip | hnil
  · have hskip : skip state'.modes (pattern ++ ')' :: more) =
        skip state.modes pattern ++ ')' :: more := by rw [hmodes, hskip]
    rw [readGroupHead]
    generalize skip state.modes pattern = first at hskip ⊢
    have hfirst : InGroup more first (first ++ ')' :: more) := .next first
    -- the head is chosen by the same signs, since none of them is a parenthesis
    split
    case h_1 | h_2 | h_3 | h_4 =>
      rw [readGroupHead, hskip]
      exact .error _
    case h_5 rest =>
      rw [readGroupHead, hskip]
      exact hname rest
    case h_6 rest hequal hexclamation =>
      have hrest : InGroup more rest (rest ++ ')' :: more) := .next rest
      rw [readGroupHead_name hskip (hrest.ne_cons (by decide) hequal)
        (hrest.ne_cons (by decide) hexclamation)]
      exact hname rest
    case h_7 rest hequal hexclamation _ _ hlong hshort =>
      have hrest : InGroup more rest (rest ++ ')' :: more) := .next rest
      rw [readGroupHead_modes hskip (hrest.ne_cons (by decide) hequal)
        (hrest.ne_cons (by decide) hexclamation) (hrest.ne_cons (by decide) hshort)
        (hrest.ne_cons_cons (by decide) (by decide) hlong)]
      exact retraces_readModeGroup hmodes hnames
    case h_8 _ _ _ _ _ _ hquestion =>
      have hquestion' := hfirst.ne_cons (by decide) hquestion
      rw [← hskip] at hquestion'
      rw [readGroupHead_plain hquestion', hskip]
      exact .ok ⟨rfl, hfirst, hmodes, hnames⟩
  · rw [← hmodes] at hnil
    have hquestion : ∀ tail, skip state'.modes (pattern ++ ')' :: more) ≠ '?' :: tail := by
      rw [hnil]
      exact fun tail heq => List.cons_ne_nil _ _ heq.symm
    rw [readGroupHead_plain hquestion, hnil]
    exact .past (.ok (List.suffix_refl _)) not_suffix_nil

theorem readAtom_of_append_end (hline : '\n' ∉ more) {c : Char} {expr : Expr}
    {after : List Char}
    (hread : readAtom modes c (rest ++ ')' :: more) = .ok (expr, after ++ ')' :: more)) :
    readAtom modes c rest = .ok (expr, after) ∨ ∃ atom, Dangling modes atom after := by
  unfold readAtom at hread ⊢
  by_cases hc : c = '\\'
  · rw [if_pos hc] at hread ⊢
    cases hescape : readEscape modes (rest ++ ')' :: more) with
    | error fault =>
        rw [hescape] at hread
        cases hread
    | ok read =>
        obtain ⟨atom, left⟩ := read
        rw [hescape] at hread
        obtain ⟨rfl, rfl⟩ := Prod.mk.inj (Except.ok.inj hread)
        -- an escape is the only atom that may come to nothing before the end
        rcases readEscape_of_append_end hline hescape with halone | hdangling
        · left
          rw [halone]
          rfl
        · exact .inr ⟨atom, hdangling⟩
  · -- all the other atoms are single characters
    rw [if_neg hc] at hread ⊢
    refine .inl (Retraces.of_append_end ?_ hread)
    refine .ite (.ite (.ok ⟨rfl, rfl⟩) (.error _)) (.ite (.ok ⟨rfl, rfl⟩) ?_)
    exact .ite (.ok ⟨rfl, rfl⟩) (.ok ⟨rfl, rfl⟩)

/-! ## Groups -/

/-- Wherever the reader of a group leaves its end, the reader of the pattern by itself has come as
far. -/
abbrev RetracesGroup (more : List Char)
    (alone within : Except Fault (Piece × ReaderState)) : Prop :=
  Retraces more (fun value => value.2.rest) (fun alone within => Beside more alone.2 within.2)
    alone within

/-- A brace that comes to nothing is no repetition either. -/
theorem readGroup_brace {bound : Nat} {state : ReaderState} {soFar : GroupSoFar}
    (hend : skip state.modes rest = []) (value : Piece × ReaderState) :
    readGroup bound { state with rest := '{' :: rest } soFar ≠ .ok value := by
  intro hread
  cases bound with
  | zero => cases hread
  | succ bound =>
      have hskip : skip state.modes ('{' :: rest) = '{' :: rest := by
        simp [skip, dropBlanks, isBlank_sign]
      have hcounts : readCounts state.modes rest = .error .badCount := by
        rw [readCounts, hend]
        rfl
      rw [readGroup, hskip] at hread
      simp only [hcounts] at hread
      cases hread

/-- What is left of a group is read back, as long as it is shorter than this. -/
def RetracesBelow (more : List Char) (length bound bound' : Nat) : Prop :=
  ∀ (state state' : ReaderState) (soFar soFar' : GroupSoFar), Beside more state state' →
    SameParts soFar soFar' → state.rest.length < length →
    RetracesGroup more (readGroup bound state soFar) (readGroup bound' state' soFar')

theorem RetracesBelow.mono {length shorter bound bound' : Nat}
    (hgroup : RetracesBelow more length bound bound') (hle : shorter ≤ length) :
    RetracesBelow more shorter bound bound' :=
  fun _ _ _ _ hstate hparts hlength =>
    hgroup _ _ _ _ hstate hparts (Nat.lt_of_lt_of_le hlength hle)

section

variable {length bound bound' : Nat} {state state' : ReaderState} {soFar soFar' : GroupSoFar}

/-- The body of an inner group may be closed by the end of the group only, and then nothing of the
group is left. -/
theorem retraces_afterBody {inner inner' : ReaderState}
    (hgroup : RetracesBelow more inner.rest.length bound bound')
    (hmodes : state'.modes = state.modes) (hparts : SameParts soFar soFar')
    (hinner : Beside more inner inner') (head : GroupHead) (body body' : Piece) :
    RetracesGroup more (afterBody bound state soFar head body inner)
      (afterBody bound' state' soFar' head body' inner') := by
  have hleft := hinner.rest
  cases hrest : inner.rest with
  | nil =>
      -- by itself the inner group is never closed
      refine .past (leaves_afterBody (leaves_readGroup bound') state' soFar' head body' inner') ?_
      rw [hrest] at hleft
      rcases hleft.eq_append_or_nil with hleft | hleft
      · rw [hleft]
        exact not_suffix_more
      · rw [hleft]
        exact not_suffix_nil
  | cons c rest =>
      rw [hrest] at hleft
      obtain ⟨left, hleft, hrest'⟩ := hleft.cons
      rw [afterBody, afterBody, hrest, hleft]
      by_cases hc : c = ')'
      · subst hc
        refine hgroup _ _ _ _ ⟨hrest', hmodes, hinner.names⟩ (hparts.add rfl) ?_
        rw [hrest]
        exact Nat.lt_succ_self _
      · split
        case h_1 heq => exact absurd (List.cons.inj heq).1 hc
        case h_2 =>
          split
          case h_1 heq => exact absurd (List.cons.inj heq).1 hc
          case h_2 => exact .error _

theorem retraces_afterHead {inner inner' : ReaderState}
    (hgroup : RetracesBelow more (inner.rest.length + 1) bound bound')
    (hmodes : state'.modes = state.modes) (hparts : SameParts soFar soFar')
    (hinner : Beside more inner inner') (head : GroupHead) :
    RetracesGroup more (afterHead bound state soFar head inner)
      (afterHead bound' state' soFar' head inner') := by
  refine .ite (hgroup _ _ _ _ hinner (hparts.add rfl) (Nat.lt_succ_self _)) ?_
  have hopened : Beside more { inner with groups := state.groups + 1 }
      { inner' with groups := state'.groups + 1 } := ⟨hinner.rest, hinner.modes, hinner.names⟩
  refine (hgroup _ _ _ _ hopened rfl (Nat.lt_succ_self _)).bind (fun (body, after) => ?_) ?_
  · exact (leaves_afterBody (leaves_readGroup bound') state' soFar' head body after).mono
      (List.tail_suffix _)
  · rintro ⟨body, after⟩ ⟨body', after'⟩ hread hafter
    have hlength : after.rest.length ≤ inner.rest.length :=
      (leaves_readGroup _ _ _ _ hread).length_le
    exact retraces_afterBody (hgroup.mono (Nat.le_succ_of_le hlength)) hmodes hparts hafter head
      body body'

theorem retraces_repetition (hgroup : RetracesBelow more length bound bound')
    (hstate : Beside more state state') (hparts : SameParts soFar soFar') {least : Nat}
    {most : Option Nat} (hleft : InGroup more rest left) (hlength : rest.length < length) :
    RetracesGroup more
      (repeatPart state soFar least most rest >>= fun read => readGroup bound read.1 read.2)
      (repeatPart state' soFar' least most left >>= fun read =>
        readGroup bound' read.1 read.2) := by
  refine (Retraces.of_together (together_repeatPart hstate hparts hleft)).bind
    (fun read => leaves_readGroup _ _ _) ?_
  rintro ⟨state, soFar⟩ ⟨state', soFar'⟩ hread ⟨hstate, hparts⟩
  exact hgroup _ _ _ _ hstate hparts
    (Nat.lt_of_le_of_lt (leaves_repeatPart _ hread).length_le hlength)

theorem retraces_afterAtom (hline : '\n' ∉ more) (hgroup : RetracesBelow more length bound bound')
    (hnames : state'.names = state.names) (hparts : SameParts soFar soFar') (c : Char)
    (hlength : rest.length < length) :
    RetracesGroup more
      (readAtom state.modes c rest >>= fun read =>
        readGroup bound { state with rest := read.2 } (soFar.add { expr := read.1, levels := 0 }))
      (readAtom state.modes c (rest ++ ')' :: more) >>= fun read =>
        readGroup bound' { state' with rest := read.2, modes := state.modes }
          (soFar'.add { expr := read.1, levels := 0 })) := by
  refine .bind_within (fun expr rest => leaves_readGroup _ _ _) fun expr after hatom => ?_
  have hshort : after.length ≤ rest.length := by
    have hle := (leaves_readAtom _ hatom).length_le
    simp only [List.length_append, List.length_cons] at hle
    omega
  have hafter := hgroup { state with rest := after }
    { state' with rest := after ++ ')' :: more, modes := state.modes }
    (soFar.add { expr := expr, levels := 0 }) (soFar'.add { expr := expr, levels := 0 })
    ⟨.next after, rfl, hnames⟩ (hparts.add rfl) (Nat.lt_of_le_of_lt hshort hlength)
  rcases readAtom_of_append_end hline hatom with halone | ⟨atom, hdangling⟩
  · rw [halone]
    exact hafter
  · -- the brace is not the name of a boundary, and it is no repetition either
    obtain ⟨rest, rfl, hend⟩ := hdangling.brace
    intro value hvalue hsuffix
    obtain ⟨value', halone, -⟩ := hafter value hvalue hsuffix
    exact absurd halone (readGroup_brace hend value')

end

theorem retraces_readGroup (hline : '\n' ∉ more) (hcolon : ':' ∉ more) {bound bound' : Nat}
    {state state' : ReaderState} {soFar soFar' : GroupSoFar} (hbound : state.rest.length < bound)
    (hstate : Beside more state state') (hparts : SameParts soFar soFar') :
    RetracesGroup more (readGroup bound state soFar) (readGroup bound' state' soFar') := by
  induction bound' generalizing bound state state' soFar soFar' with
  | zero => exact .error _
  | succ bound' ih =>
      obtain ⟨bound, rfl⟩ : ∃ b, bound = b + 1 := ⟨bound - 1, by omega⟩
      have hgroup : RetracesBelow more state.rest.length bound bound' :=
        fun other other' soFar soFar' hother hparts hlength => ih (by omega) hother hparts
      rcases (hstate.rest.skip hline state.modes).eq_append_or_nil with hskip | hnil
      · have hle := length_skip_le state.modes state.rest
        -- an inner group goes first, where the head and what comes after it are told apart
        by_cases hparen : ∃ rest, skip state.modes state.rest = '(' :: rest
        · obtain ⟨rest, hparen⟩ := hparen
          have hparen' : skip state'.modes state'.rest = '(' :: (rest ++ ')' :: more) := by
            rw [hstate.modes, hskip, hparen]
            rfl
          rw [hparen, List.length_cons] at hle
          rw [readGroup_paren hparen, readGroup_paren hparen']
          refine (retraces_readGroupHead hline hstate.modes hstate.names).bind
            (fun read => leaves_afterHead (leaves_readGroup bound') state' soFar' read.1 read.2) ?_
          rintro ⟨head, inner⟩ ⟨_, inner'⟩ hhead ⟨rfl, hinner⟩
          have hlength : inner.rest.length ≤ rest.length := (leaves_readGroupHead _ hhead).length_le
          have hshort : inner.rest.length + 1 ≤ state.rest.length := by omega
          exact retraces_afterHead (hgroup.mono hshort) hstate.modes hparts hinner head
        simp only [readGroup, hstate.modes, hskip]
        generalize skip state.modes state.rest = pattern at hle hparen ⊢
        split
        case h_1 => exact .ok ⟨.next [], rfl, hstate.names⟩
        case h_2 rest => exact .ok ⟨.next (')' :: rest), rfl, hstate.names⟩
        case h_3 rest => exact hgroup _ _ _ _ ⟨.next rest, rfl, hstate.names⟩ rfl hle
        case h_4 rest => exact absurd ⟨rest, rfl⟩ hparen
        case h_5 rest =>
          refine (retraces_readClass hline hcolon).bind_rest ?_ ?_
          · exact fun member rest => leaves_readGroup _ _ _
          · intro member after hread
            have hlength := (leaves_readClass _ hread).length_le
            exact hgroup _ _ _ _ ⟨.next after, rfl, hstate.names⟩ (hparts.add rfl)
              (Nat.lt_of_le_of_lt hlength hle)
        case h_6 rest => exact retraces_repetition hgroup hstate hparts (.next rest) hle
        case h_7 rest => exact retraces_repetition hgroup hstate hparts (.next rest) hle
        case h_8 rest => exact retraces_repetition hgroup hstate hparts (.next rest) hle
        case h_9 rest =>
          refine (retraces_readCounts hline rest).bind (fun read => ?_) ?_
          · exact (leaves_repeatPart.mono (skip_suffix state.modes read.2)).bind fun read =>
              leaves_readGroup _ _ _
          · rintro ⟨⟨least, most⟩, after⟩ ⟨_, left⟩ hread ⟨rfl, hleft⟩
            refine retraces_repetition hgroup hstate hparts (hleft.skip hline state.modes) ?_
            calc (skip state.modes after).length
                ≤ after.length := length_skip_le state.modes after
              _ ≤ rest.length := (leaves_readCounts _ hread).length_le
              _ < state.rest.length := hle
        case h_10 c rest hclose hbar hopen hclass hquestion hstar hplus hbrace =>
          -- for the other text the character is no sign either
          have hpattern : InGroup more (c :: rest) (c :: rest ++ ')' :: more) := .next (c :: rest)
          split
          case h_10 heq =>
            cases heq
            exact retraces_afterAtom hline hgroup hstate.names hparts c hle
          all_goals grind
      · -- nothing is left to read, so the end of the group is not left either
        have hend : readGroup (bound' + 1) state' soFar' =
            .ok (soFar'.close, { state' with rest := [] }) := by
          rw [readGroup, hstate.modes, hnil]
        rw [hend]
        exact .past (.ok (List.suffix_refl _)) not_suffix_nil

end Transliteration.Regex
