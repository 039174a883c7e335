import Transliteration.Proofs.Regex.Reading.Bracket
import Transliteration.Regex.Reader

/-!
# Groups within a group

Reading a group from the start of a pattern and reading it with more text behind it come to the same
pieces, states and errors, as long as the text behind it holds no line break and no colon
(`parallel_readGroup`).

## Strategy

Every reader of a part of a group is shown to run in parallel on the two texts, in the order in
which they call each other: counts, repetitions, the head of a group, atoms.  The group itself is
then an induction on the bound of its reader with one case for each sign.  The numbers that groups
are given differ and are not compared.
-/

namespace Transliteration.Regex

variable {more : List Char} {modes : Modes} {pattern left rest : List Char}

/-! ## Repetitions -/

theorem readDigits_of_not_isDigit {bound : Nat}
    (hdigit : ∀ c rest, pattern = c :: rest → c.isDigit = false) :
    readDigits modes bound pattern = ([], pattern) := by
  unfold readDigits
  split
  case h_1 c rest => rw [hdigit c rest rfl]; rfl
  case h_2 => rfl

/-- The end of the group is no digit. -/
theorem InGroup.not_isDigit (hleft : InGroup more pattern left)
    (hdigit : ∀ c rest, pattern = c :: rest → c.isDigit = false) :
    ∀ c rest, left = c :: rest → c.isDigit = false := by
  intro c rest hleft'
  cases pattern with
  | nil =>
      cases hleft with
      | swallowed => cases hleft'
      | next => cases hleft'; rfl
  | cons d pattern =>
      obtain ⟨left, rfl, -⟩ := hleft.cons
      cases hleft'
      exact hdigit _ _ rfl

theorem readDigits_inGroup (hline : '\n' ∉ more) (modes : Modes) {bound bound' : Nat}
    (hbound : pattern.length ≤ bound) (hbound' : left.length ≤ bound')
    (hleft : InGroup more pattern left) :
    ∃ left', readDigits modes bound' left = ((readDigits modes bound pattern).1, left') ∧
      InGroup more (readDigits modes bound pattern).2 left' := by
  induction bound generalizing bound' pattern left with
  | zero =>
      -- where the pattern ends, the other text goes on with a parenthesis, which is no digit
      obtain rfl : pattern = [] := List.eq_nil_of_length_eq_zero (Nat.le_zero.mp hbound)
      have hnone : ∀ c rest, ([] : List Char) = c :: rest → c.isDigit = false :=
        fun _ _ h => by cases h
      rw [readDigits_of_not_isDigit hnone, readDigits_of_not_isDigit (hleft.not_isDigit hnone)]
      exact ⟨left, rfl, hleft⟩
  | succ bound ih =>
      by_cases hdigit : ∃ c rest, pattern = c :: rest ∧ c.isDigit = true
      · obtain ⟨c, rest, rfl, hc⟩ := hdigit
        obtain ⟨left, rfl, hrest⟩ := hleft.cons
        obtain ⟨bound', rfl⟩ : ∃ b, bound' = b + 1 :=
          ⟨bound' - 1, by rw [List.length_cons] at hbound'; omega⟩
        have hle := Nat.le_trans (length_skip_le modes rest) (Nat.le_of_succ_le_succ hbound)
        have hle' := Nat.le_trans (length_skip_le modes left) (Nat.le_of_succ_le_succ hbound')
        obtain ⟨left', hread, hend⟩ := ih hle hle' (hrest.skip hline modes)
        simp only [readDigits, if_pos hc, hread]
        exact ⟨left', rfl, hend⟩
      · have hnone : ∀ c rest, pattern = c :: rest → c.isDigit = false := by
          intro c rest hpattern
          apply Bool.eq_false_iff.mpr
          exact fun hc => hdigit ⟨c, rest, hpattern, hc⟩
        rw [readDigits_of_not_isDigit hnone, readDigits_of_not_isDigit (hleft.not_isDigit hnone)]
        exact ⟨left, rfl, hleft⟩

theorem together_readCount (hline : '\n' ∉ more) (modes : Modes)
    (hleft : InGroup more pattern left) :
    Together (fun alone within => alone.1 = within.1 ∧ InGroup more alone.2 within.2)
      (readCount modes pattern) (readCount modes left) := by
  have hstart := inGroup_dropWhile_isBlank hleft
  obtain ⟨left', hdigits', hrest⟩ := readDigits_inGroup hline modes
    (Nat.le_refl (pattern.dropWhile isBlank).length) (Nat.le_refl (left.dropWhile isBlank).length)
    hstart
  simp only [readCount, hdigits']
  exact .ite (.error _ _) (.ok ⟨rfl, inGroup_dropWhile_isBlank hrest⟩)

/-- The counts of a repetition never take in the end of the group, so they are read in both texts
or in neither. -/
theorem together_readCounts (hline : '\n' ∉ more) (hleft : InGroup more pattern left) :
    Together (fun alone within => alone.1 = within.1 ∧ InGroup more alone.2 within.2)
      (readCounts modes pattern) (readCounts modes left) := by
  unfold readCounts
  apply (together_readCount hline modes (hleft.skip hline modes)).bind
  rintro ⟨least, rest⟩ ⟨_, left⟩ ⟨rfl, hleft⟩
  simp only at hleft ⊢
  -- Each sign looked for stands in both texts or in neither.
  rcases hleft.front '}' (by decide) with ⟨rest, left, rfl, rfl, hrest⟩ | ⟨hclose, hclose'⟩
  · exact .ok ⟨rfl, hrest⟩
  rcases hleft.front ',' (by decide) with ⟨rest, left, rfl, rfl, hrest⟩ | ⟨hcomma, hcomma'⟩
  · -- after the comma there is a closing brace or the greatest count
    have hskip := hrest.skip hline modes
    simp only
    generalize skip modes rest = rest at hskip ⊢
    generalize skip modes left = left at hskip ⊢
    rcases hskip.front '}' (by decide) with ⟨rest, left, rfl, rfl, hrest⟩ | ⟨hclose, hclose'⟩
    · exact .ok ⟨rfl, hrest⟩
    split
    case h_1 => exact absurd rfl (hclose _)
    case h_2 =>
      apply (together_readCount hline modes hskip).bind
      rintro ⟨most, rest⟩ ⟨_, left⟩ ⟨rfl, hleft⟩
      simp only at hleft ⊢
      rcases hleft.front '}' (by decide) with ⟨rest, left, rfl, rfl, hrest⟩ | ⟨hclose, hclose'⟩
      · exact .ite (.ok ⟨rfl, hrest⟩) (.error _ _)
      split
      case h_1 => exact absurd rfl (hclose _)
      case h_2 => exact .error _ _
  · split
    case h_1 => exact absurd rfl (hclose _)
    case h_2 => exact absurd rfl (hcomma _)
    case h_3 => exact .error _ _

/-! ## States of the reader -/

/-- The reader of a pattern within a group, beside the reader of the pattern by itself.  Groups may
have other numbers. -/
structure Beside (more : List Char) (alone within : ReaderState) : Prop where
  rest : InGroup more alone.rest within.rest
  modes : within.modes = alone.modes
  names : within.names = alone.names

/-- As far as the parts read may be repeated, they are the same. -/
def SameParts (alone within : GroupSoFar) : Prop :=
  within.parts.map Piece.isSwitch = alone.parts.map Piece.isSwitch

theorem SameParts.add {soFar soFar' : GroupSoFar} {piece piece' : Piece}
    (hparts : SameParts soFar soFar') (hpiece : piece'.isSwitch = piece.isSwitch) :
    SameParts (soFar.add piece) (soFar'.add piece') := by
  unfold SameParts GroupSoFar.add
  rw [List.map_cons, List.map_cons, hpiece, hparts]

theorem parallel_repeatLast {soFar soFar' : GroupSoFar} {least : Nat} {most : Option Nat}
    {greedy : Bool} (hparts : SameParts soFar soFar') :
    Parallel SameParts (soFar.repeatLast least most greedy)
      (soFar'.repeatLast least most greedy) := by
  obtain ⟨branches, parts⟩ := soFar
  obtain ⟨branches', parts'⟩ := soFar'
  cases parts with
  | nil => exact .error _
  | cons last before =>
      cases parts' with
      | nil => cases hparts
      | cons last' before' =>
          obtain ⟨hlast, hbefore⟩ := List.cons.inj hparts
          simp only [GroupSoFar.repeatLast, hlast]
          refine .ite (.error _) (.ok ?_)
          unfold SameParts
          rw [List.map_cons, List.map_cons, hbefore]

theorem readLazy_of_ne (hquestion : ∀ rest, pattern ≠ '?' :: rest) :
    readLazy pattern = (false, pattern) := by
  unfold readLazy
  split
  case h_1 => exact absurd rfl (hquestion _)
  case h_2 => rfl

theorem readLazy_inGroup (hleft : InGroup more pattern left) :
    ∃ left', readLazy left = ((readLazy pattern).1, left') ∧
      InGroup more (readLazy pattern).2 left' := by
  rcases hleft.front '?' (by decide) with ⟨_, left, rfl, rfl, hrest⟩ | ⟨hnone, hnone'⟩
  · exact ⟨left, rfl, hrest⟩
  · rw [readLazy_of_ne hnone, readLazy_of_ne hnone']
    exact ⟨left, rfl, hleft⟩

theorem together_repeatPart {state state' : ReaderState} {soFar soFar' : GroupSoFar} {least : Nat}
    {most : Option Nat} (hstate : Beside more state state') (hparts : SameParts soFar soFar')
    (hleft : InGroup more rest left) :
    Together (fun alone within => Beside more alone.1 within.1 ∧ SameParts alone.2 within.2)
      (repeatPart state soFar least most rest) (repeatPart state' soFar' least most left) := by
  obtain ⟨left', hlazy, hleft'⟩ := readLazy_inGroup hleft
  have hrepeat : Together SameParts
      (soFar.repeatLast least most ((readLazy rest).1 == state.modes.swapGreed))
      (soFar'.repeatLast least most ((readLazy rest).1 == state.modes.swapGreed)) :=
    ⟨parallel_repeatLast hparts, fun value hvalue =>
      (parallel_repeatLast hparts.symm value hvalue).imp fun _ h => ⟨h.1, h.2.symm⟩⟩
  simp only [repeatPart, hlazy, hstate.modes]
  apply hrepeat.bind
  intro soFar soFar' hparts
  exact .ok ⟨⟨hleft', rfl, hstate.names⟩, hparts⟩

/-! ## The head of a group -/

theorem parallel_readModes {negated : Bool} {used : List Mode} {signs : Nat}
    (hleft : InGroup more pattern left) :
    Parallel (fun alone within => alone.1 = within.1 ∧ alone.2.1 = within.2.1 ∧
        alone.2.2 ≠ [] ∧ InGroup more alone.2.2 within.2.2)
      (readModes negated used signs modes pattern) (readModes negated used signs modes left) := by
  induction pattern generalizing negated used signs modes left with
  | nil => exact .error _
  | cons c pattern ih =>
      obtain ⟨left, rfl, hrest⟩ := hleft.cons
      unfold readModes
      refine .ite (.ok ⟨rfl, rfl, List.cons_ne_nil _ _, hleft⟩) (.ite ?_ ?_)
      · cases pattern with
        | nil => exact .error _
        | cons next pattern =>
            obtain ⟨left, rfl, -⟩ := hrest.cons
            exact .ite (.error _) (ih hrest)
      · cases Mode.ofLetter? c with
        | none => exact .error _
        | some mode => exact .ite (.error _) (ih hrest)

theorem parallel_readName {state state' : ReaderState} (hstate : Beside more state state') :
    Parallel (Beside more) (readName state) (readName state') := by
  unfold readName
  cases hdrop : state.rest.dropWhile (· != '>') with
  | nil => exact .error _
  | cons c rest =>
      obtain ⟨htake, left, hdrop', hrest⟩ := hstate.rest.dropWhile_cons hdrop
      simp only [hdrop', htake, hstate.names]
      split
      case h_1 first others heq hname =>
        obtain ⟨rfl, rfl⟩ := List.cons.inj heq
        simp only [hname]
        refine .ite (.ok ?_) (.error _)
        exact ⟨hrest, hstate.modes, rfl⟩
      case h_2 => exact .error _

theorem parallel_readModeGroup {state state' : ReaderState} (hstate : Beside more state state')
    (hleft : InGroup more pattern left) :
    Parallel (fun alone within => alone.1 = within.1 ∧ Beside more alone.2 within.2)
      (readModeGroup state pattern) (readModeGroup state' left) := by
  unfold readModeGroup
  rw [hstate.modes]
  apply (parallel_readModes hleft).bind
  rintro ⟨modes, signs, rest⟩ ⟨modes', signs', left⟩ ⟨rfl, rfl, hnil, hrest⟩
  simp only
  by_cases hswitch : ∃ tail, rest = ')' :: tail
  · obtain ⟨rest, rfl⟩ := hswitch
    obtain ⟨left, rfl, hinner⟩ := hrest.cons
    refine .ite (.error _) (.ok ?_)
    exact ⟨rfl, hinner, rfl, hstate.names⟩
  · -- the modes are followed by a colon
    have hcolon : ∀ tail, rest ≠ ')' :: tail := fun tail h => hswitch ⟨tail, h⟩
    cases rest with
    | nil => exact absurd rfl hnil
    | cons c rest =>
        obtain ⟨left, rfl, hinner⟩ := hrest.cons
        have hc : c ≠ ')' := fun h => hcolon rest (by rw [h])
        split
        case h_1 heq => exact absurd (List.cons.inj heq).1 hc
        case h_2 =>
          split
          case h_1 heq => exact absurd (List.cons.inj heq).1 hc
          case h_2 => exact .ok ⟨rfl, hinner, rfl, hstate.names⟩

theorem readGroupHead_name {state : ReaderState}
    (hskip : skip state.modes pattern = '?' :: '<' :: rest) (hequal : ∀ tail, rest ≠ '=' :: tail)
    (hexclamation : ∀ tail, rest ≠ '!' :: tail) :
    readGroupHead state pattern =
      (readName { state with rest := rest }).map fun state => (.captured, state) := by
  rw [readGroupHead, hskip]
  split <;> grind

theorem readGroupHead_modes {state : ReaderState} (hskip : skip state.modes pattern = '?' :: rest)
    (hequal : ∀ tail, rest ≠ '=' :: tail) (hexclamation : ∀ tail, rest ≠ '!' :: tail)
    (hname : ∀ tail, rest ≠ '<' :: tail) (hname' : ∀ tail, rest ≠ 'P' :: '<' :: tail) :
    readGroupHead state pattern = readModeGroup state rest := by
  rw [readGroupHead, hskip]
  split <;> simp_all

theorem readGroupHead_plain {state : ReaderState}
    (hquestion : ∀ tail, skip state.modes pattern ≠ '?' :: tail) :
    readGroupHead state pattern =
      .ok (.captured, { state with rest := skip state.modes pattern }) := by
  rw [readGroupHead]
  split <;> simp_all

theorem parallel_readGroupHead (hline : '\n' ∉ more) {state state' : ReaderState}
    (hstate : Beside more state state') (hleft : InGroup more pattern left) :
    Parallel (fun alone within => alone.1 = within.1 ∧ Beside more alone.2 within.2)
      (readGroupHead state pattern) (readGroupHead state' left) := by
  have hskip := hleft.skip hline state.modes
  -- The two ways of writing a name come to the same reader of names.
  have hname : ∀ {rest left}, InGroup more rest left →
      Parallel (fun alone within => alone.1 = within.1 ∧ Beside more alone.2 within.2)
        ((readName { state with rest := rest }).map fun state => (GroupHead.captured, state))
        ((readName { state' with rest := left }).map fun state => (GroupHead.captured, state)) := by
    intro rest left hrest
    have hnamed : Beside more { state with rest := rest } { state' with rest := left } :=
      ⟨hrest, hstate.modes, hstate.names⟩
    exact (parallel_readName hnamed).map fun _ _ h => ⟨rfl, h⟩
  rw [readGroupHead]
  split
  case h_1 => exact .error _
  case h_2 => exact .error _
  case h_3 => exact .error _
  case h_4 => exact .error _
  -- each of the heads that follow is told by signs that the closing parenthesis is none of
  case h_5 rest heq =>
    rw [heq] at hskip
    obtain ⟨left₁, hskip', hleft₁⟩ := hskip.cons
    obtain ⟨left₂, rfl, hleft₂⟩ := hleft₁.cons
    obtain ⟨left₃, rfl, hrest⟩ := hleft₂.cons
    rw [← hstate.modes] at hskip'
    rw [readGroupHead, hskip']
    exact hname hrest
  case h_6 rest hequal hexclamation heq =>
    rw [heq] at hskip
    obtain ⟨left₁, hskip', hleft₁⟩ := hskip.cons
    obtain ⟨left₂, rfl, hrest⟩ := hleft₁.cons
    rw [← hstate.modes] at hskip'
    rw [readGroupHead_name hskip' (hrest.ne_cons (by decide) hequal)
      (hrest.ne_cons (by decide) hexclamation)]
    exact hname hrest
  case h_7 rest hequal hexclamation _ _ hlong hshort heq =>
    rw [heq] at hskip
    obtain ⟨left', hskip', hrest⟩ := hskip.cons
    rw [← hstate.modes] at hskip'
    rw [readGroupHead_modes hskip' (hrest.ne_cons (by decide) hequal)
      (hrest.ne_cons (by decide) hexclamation) (hrest.ne_cons (by decide) hshort)
      (hrest.ne_cons_cons (by decide) (by decide) hlong)]
    exact parallel_readModeGroup hstate hrest
  case h_8 _ _ _ _ _ _ hquestion =>
    have hquestion' := hskip.ne_cons (by decide) hquestion
    rw [← hstate.modes] at hquestion'
    rw [readGroupHead_plain hquestion', hstate.modes]
    exact .ok ⟨rfl, hskip, rfl, hstate.names⟩

theorem sameRead_readAtom (hline : '\n' ∉ more) {c : Char} (hleft : InGroup more rest left) :
    SameRead more (readAtom modes c rest) (readAtom modes c left) := by
  unfold readAtom
  refine .ite ?_ (.ite ?_ (.ite ?_ (.ite ?_ ?_)))
  · apply (sameRead_readEscape hline hleft).map
    rintro ⟨atom, rest⟩ ⟨atom', left⟩ ⟨rfl, hleft⟩
    exact ⟨rfl, hleft⟩
  · exact .ite (.ok ⟨rfl, hleft⟩) (.error _)
  · exact .ok ⟨rfl, hleft⟩
  · exact .ok ⟨rfl, hleft⟩
  · exact .ok ⟨rfl, hleft⟩

/-! ## Groups -/

theorem parallel_readGroup (hline : '\n' ∉ more) (hcolon : ':' ∉ more) {bound bound' : Nat}
    (hbound : bound ≤ bound') {state state' : ReaderState} {soFar soFar' : GroupSoFar}
    (hstate : Beside more state state') (hparts : SameParts soFar soFar') :
    Parallel (fun alone within => Beside more alone.2 within.2)
      (readGroup bound state soFar) (readGroup bound' state' soFar') := by
  induction bound generalizing bound' state state' soFar soFar' with
  | zero => exact .error _
  | succ bound ih =>
      obtain ⟨bound', rfl⟩ : ∃ b, bound' = b + 1 := ⟨bound' - 1, by omega⟩
      have hbound' : bound ≤ bound' := Nat.le_of_succ_le_succ hbound
      have hskip := hstate.rest.skip hline state.modes
      have hrepeat : ∀ {least most rest left}, InGroup more rest left →
          Parallel (fun alone within => Beside more alone.2 within.2)
            (repeatPart state soFar least most rest >>= fun read => readGroup bound read.1 read.2)
            (repeatPart state' soFar' least most left >>= fun read =>
              readGroup bound' read.1 read.2) := by
        intro least most rest left hleft
        apply (together_repeatPart hstate hparts hleft).1.bind
        rintro ⟨state, soFar⟩ ⟨state', soFar'⟩ ⟨hstate, hparts⟩
        exact ih hbound' hstate hparts
      simp only [readGroup, hstate.modes]
      generalize skip state.modes state.rest = pattern at hskip ⊢
      generalize skip state.modes state'.rest = left at hskip ⊢
      split
      case h_1 =>
        -- at its end the pattern is left by itself, and within a group the parenthesis stops it
        cases hskip with
        | swallowed => exact .ok ⟨.swallowed, rfl, hstate.names⟩
        | next => exact .ok ⟨.next [], rfl, hstate.names⟩
      case h_2 rest =>
        obtain ⟨left, rfl, hrest⟩ := hskip.cons
        exact .ok ⟨hskip, rfl, hstate.names⟩
      case h_3 rest =>
        obtain ⟨left, rfl, hrest⟩ := hskip.cons
        exact ih hbound' ⟨hrest, rfl, hstate.names⟩ rfl
      case h_4 rest =>
        -- a switch goes on in the same group; otherwise the body comes first, then its parenthesis
        obtain ⟨left, rfl, hrest⟩ := hskip.cons
        simp only
        apply (parallel_readGroupHead hline hstate hrest).bind
        rintro ⟨head, inner⟩ ⟨head', inner'⟩ ⟨rfl, hinner⟩
        refine .ite (ih hbound' hinner (hparts.add rfl)) ?_
        have hopened : Beside more { inner with groups := state.groups + 1 }
            { inner' with groups := state'.groups + 1 } := ⟨hinner.rest, hinner.modes, hinner.names⟩
        apply (ih hbound' hopened rfl).bind
        rintro ⟨body, after⟩ ⟨body', after'⟩ hafter
        simp only at hafter ⊢
        split
        case h_1 rest hrest =>
          have hclosed := hafter.rest
          rw [hrest] at hclosed
          obtain ⟨left, hleft, hrest⟩ := hclosed.cons
          simp only [hleft]
          exact ih hbound' ⟨hrest, rfl, hafter.names⟩ (hparts.add rfl)
        case h_2 => exact .error _
      case h_5 rest =>
        obtain ⟨left, rfl, hrest⟩ := hskip.cons
        apply (sameRead_readClass hline hcolon hrest).bind
        intro member rest left hleft
        exact ih hbound' ⟨hleft, rfl, hstate.names⟩ (hparts.add rfl)
      case h_6 rest =>
        obtain ⟨left, rfl, hrest⟩ := hskip.cons
        exact hrepeat hrest
      case h_7 rest =>
        obtain ⟨left, rfl, hrest⟩ := hskip.cons
        exact hrepeat hrest
      case h_8 rest =>
        obtain ⟨left, rfl, hrest⟩ := hskip.cons
        exact hrepeat hrest
      case h_9 rest =>
        obtain ⟨left, rfl, hrest⟩ := hskip.cons
        apply (together_readCounts hline hrest).1.bind
        rintro ⟨⟨least, most⟩, rest⟩ ⟨_, left⟩ ⟨rfl, hleft⟩
        exact hrepeat (hleft.skip hline state.modes)
      case h_10 c rest hclose hbar hopen hclass hquestion hstar hplus hbrace =>
        obtain ⟨left, rfl, hrest⟩ := hskip.cons
        -- for the other text the character is no sign either
        split
        case h_10 heq =>
          cases heq
          apply (sameRead_readAtom hline hrest).bind
          intro expr rest left hleft
          exact ih hbound' ⟨hleft, rfl, hstate.names⟩ (hparts.add rfl)
        all_goals grind

end Transliteration.Regex
