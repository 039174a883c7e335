import Transliteration.Proofs.Regex.Reading.Group
import Transliteration.Proofs.Regex.Reading.Suffix

/-!
# Other numbers and bounds

What a pattern is read as depends neither on the numbers that its groups are given nor on the bound
of the reader, as long as the bound is more than the length of the pattern
(`parallel_readGroup_alike`).  The parts before a pattern matter only as far as they may be
repeated.
-/

namespace Transliteration.Regex

/-- States from which a reader goes on in the same way. -/
structure Alike (one other : ReaderState) : Prop where
  rest : other.rest = one.rest
  modes : other.modes = one.modes
  names : other.names = one.names

/-- What is left by the reader of the second text is known besides. -/
theorem Parallel.leaving {α β : Type} {R : α → β → Prop} {left : β → List Char} {text : List Char}
    {alone : Except Fault α} {within : Except Fault β} (hread : Parallel R alone within)
    (hleaves : Leaves left text within) :
    Parallel (fun value value' => R value value' ∧ left value' <:+ text) alone within := by
  intro value hvalue
  obtain ⟨value', hvalue', hrelated⟩ := hread value hvalue
  exact ⟨value', hvalue', hrelated, hleaves value' hvalue'⟩

theorem Parallel.refl {α : Type} (read : Except Fault α) :
    Parallel (fun value value' => value' = value) read read :=
  fun value hvalue => ⟨value, hvalue, rfl⟩

variable {state state' : ReaderState} {soFar soFar' : GroupSoFar} {pattern rest : List Char}

/-! ## The head of a group -/

theorem parallel_readName_alike (halike : Alike state state') :
    Parallel Alike (readName state) (readName state') := by
  unfold readName
  rw [halike.rest, halike.names]
  simp only
  split
  · exact .ite (.ok ⟨rfl, halike.modes, rfl⟩) (.error _)
  · exact .error _

theorem parallel_readModeGroup_alike (halike : Alike state state') :
    Parallel (fun one other => other.1 = one.1 ∧ Alike one.2 other.2)
      (readModeGroup state pattern) (readModeGroup state' pattern) := by
  unfold readModeGroup
  rw [halike.modes]
  apply (Parallel.refl _).bind
  rintro ⟨modes, signs, rest⟩ _ rfl
  simp only
  split
  · exact .ite (.error _) (.ok ⟨rfl, rfl, rfl, halike.names⟩)
  · exact .ok ⟨rfl, rfl, rfl, halike.names⟩

theorem parallel_readGroupHead_alike (halike : Alike state state') :
    Parallel (fun one other => other.1 = one.1 ∧ Alike one.2 other.2)
      (readGroupHead state pattern) (readGroupHead state' pattern) := by
  have hname : ∀ {rest}, Parallel (fun one other => other.1 = one.1 ∧ Alike one.2 other.2)
      ((readName { state with rest := rest }).map fun state => (GroupHead.captured, state))
      ((readName { state' with rest := rest, modes := state.modes }).map fun state =>
        (GroupHead.captured, state)) := by
    intro rest
    have hnamed : Alike { state with rest := rest }
        { state' with rest := rest, modes := state.modes } := ⟨rfl, rfl, halike.names⟩
    exact (parallel_readName_alike hnamed).map fun _ _ h => ⟨rfl, h⟩
  unfold readGroupHead
  rw [halike.modes]
  split
  · exact .error _
  · exact .error _
  · exact .error _
  · exact .error _
  · exact hname
  · exact hname
  · exact parallel_readModeGroup_alike halike
  · exact .ok ⟨rfl, rfl, rfl, halike.names⟩

/-! ## Groups -/

theorem parallel_repeatPart_alike {least : Nat} {most : Option Nat} (halike : Alike state state')
    (hparts : SameParts soFar soFar') :
    Parallel (fun one other => Alike one.1 other.1 ∧ SameParts one.2 other.2)
      (repeatPart state soFar least most rest) (repeatPart state' soFar' least most rest) := by
  simp only [repeatPart, halike.modes]
  apply (parallel_repeatLast hparts).bind
  intro soFar soFar' hparts
  exact .ok ⟨⟨rfl, rfl, halike.names⟩, hparts⟩

theorem parallel_readGroup_alike {bound bound' : Nat} (hbound : state'.rest.length < bound')
    (halike : Alike state state') (hparts : SameParts soFar soFar') :
    Parallel (fun one other => Alike one.2 other.2)
      (readGroup bound state soFar) (readGroup bound' state' soFar') := by
  induction bound generalizing bound' state state' soFar soFar' with
  | zero => exact .error _
  | succ bound ih =>
      obtain ⟨bound', rfl⟩ : ∃ b, bound' = b + 1 := ⟨bound' - 1, by omega⟩
      -- Whatever is read next leaves less to read, so the second bound is still enough there.
      have honward : ∀ {one other : ReaderState} {soFar soFar'}, Alike one other →
          SameParts soFar soFar' → other.rest.length < state.rest.length →
          Parallel (fun one other => Alike one.2 other.2)
            (readGroup bound one soFar) (readGroup bound' other soFar') := by
        intro one other soFar soFar' hother hparts hlength
        rw [halike.rest] at hbound
        exact ih (by omega) hother hparts
      -- The signs `*`, `+`, `?` and the counts differ only in the bounds they set.
      have hrepeat : ∀ {least most rest}, rest.length < state.rest.length →
          Parallel (fun one other => Alike one.2 other.2)
            (repeatPart state soFar least most rest >>= fun read => readGroup bound read.1 read.2)
            (repeatPart state' soFar' least most rest >>= fun read =>
              readGroup bound' read.1 read.2) := by
        intro least most rest hlength
        apply ((parallel_repeatPart_alike halike hparts).leaving leaves_repeatPart).bind
        rintro ⟨one, soFar⟩ ⟨other, soFar'⟩ ⟨⟨hother, hparts⟩, hleft⟩
        exact honward hother hparts (Nat.lt_of_le_of_lt hleft.length_le hlength)
      have hle := length_skip_le state.modes state.rest
      simp only [readGroup, halike.modes, halike.rest]
      generalize skip state.modes state.rest = pattern at hle ⊢
      split
      case h_1 => exact .ok ⟨rfl, rfl, halike.names⟩
      case h_2 rest => exact .ok ⟨rfl, rfl, halike.names⟩
      case h_3 rest => exact honward ⟨rfl, rfl, halike.names⟩ rfl hle
      case h_4 rest =>
        -- A group is read in three steps: its head, its body, where only the number of the group
        -- can differ, and the closing parenthesis.
        apply ((parallel_readGroupHead_alike halike).leaving leaves_readGroupHead).bind
        rintro ⟨head, inner⟩ ⟨_, inner'⟩ ⟨⟨rfl, hinner⟩, hleft⟩
        have hshort := Nat.lt_of_le_of_lt hleft.length_le hle
        refine .ite (honward hinner (hparts.add rfl) hshort) ?_
        -- the counter of groups is what `Alike` does not compare
        have hopened : Alike { inner with groups := state.groups + 1 }
            { inner' with groups := state'.groups + 1 } := ⟨hinner.rest, hinner.modes, hinner.names⟩
        apply ((honward hopened rfl hshort).leaving (leaves_readGroup _ _ _)).bind
        rintro ⟨body, after⟩ ⟨body', after'⟩ ⟨hafter, hleft'⟩
        have hshort' := Nat.lt_of_le_of_lt hleft'.length_le hshort
        simp only at hafter hshort' ⊢
        -- both bodies end at the same rest, so either both are closed there or neither is
        rw [hafter.rest] at hshort' ⊢
        split
        case h_1 rest hrest =>
          rw [hrest] at hshort'
          exact honward ⟨rfl, rfl, hafter.names⟩ (hparts.add rfl) (Nat.lt_of_succ_lt hshort')
        case h_2 => exact .error _
      case h_5 rest =>
        apply ((Parallel.refl _).leaving leaves_readClass).bind
        rintro ⟨member, after⟩ _ ⟨rfl, hleft⟩
        exact honward ⟨rfl, rfl, halike.names⟩ (hparts.add rfl)
          (Nat.lt_of_le_of_lt hleft.length_le hle)
      case h_6 rest => exact hrepeat hle
      case h_7 rest => exact hrepeat hle
      case h_8 rest => exact hrepeat hle
      case h_9 rest =>
        apply ((Parallel.refl _).leaving leaves_readCounts).bind
        rintro ⟨⟨least, most⟩, after⟩ _ ⟨rfl, hleft⟩
        refine hrepeat ?_
        calc (skip state.modes after).length
            ≤ after.length := length_skip_le state.modes after
          _ ≤ rest.length := hleft.length_le
          _ < state.rest.length := hle
      case h_10 c rest _ _ _ _ _ _ _ _ =>
        apply ((Parallel.refl _).leaving leaves_readAtom).bind
        rintro ⟨expr, after⟩ _ ⟨rfl, hleft⟩
        exact honward ⟨rfl, rfl, halike.names⟩ (hparts.add rfl)
          (Nat.lt_of_le_of_lt hleft.length_le hle)

/-- The reader of a group comes to this rest of the pattern, and these names are taken then. -/
def ComesTo (bound : Nat) (state : ReaderState) (soFar : GroupSoFar) (rest : List Char)
    (names : List (List Char)) : Prop :=
  ∃ body after, readGroup bound state soFar = .ok (body, after) ∧ after.rest = rest ∧
    after.names = names

theorem ComesTo.alike {bound bound' : Nat} {names : List (List Char)}
    (hcomes : ComesTo bound state soFar rest names) (hbound : state'.rest.length < bound')
    (halike : Alike state state') (hparts : SameParts soFar soFar') :
    ComesTo bound' state' soFar' rest names := by
  obtain ⟨body, after, hread, hrest, hnames⟩ := hcomes
  obtain ⟨⟨body', after'⟩, hread', hafter⟩ :=
    parallel_readGroup_alike hbound halike hparts _ hread
  exact ⟨body', after', hread', hafter.rest.trans hrest, hafter.names.trans hnames⟩

theorem ComesTo.unique {bound : Nat} {other : List Char} {names others : List (List Char)}
    (hcomes : ComesTo bound state soFar rest names)
    (hother : ComesTo bound state soFar other others) : rest = other ∧ names = others := by
  obtain ⟨body, after, hread, rfl, rfl⟩ := hcomes
  obtain ⟨body', after', hread', rfl, rfl⟩ := hother
  rw [hread, Except.ok.injEq, Prod.mk.injEq] at hread'
  obtain ⟨-, rfl⟩ := hread'
  exact ⟨rfl, rfl⟩

end Transliteration.Regex
