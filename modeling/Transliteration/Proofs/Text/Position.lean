import Transliteration.Text.Utf8

/-!
# Positions in a text

A position is a number of bytes.  `splitAt?_eq_some_iff` says what it means that a character begins
at a position: the text falls into two parts, the first of which takes that many bytes.  Since every
character takes at least one byte (`length_pos`), a position determines the two parts, and a part of
a text is determined by where it begins and how long it is (`eq_of_length_eq`).
-/

namespace Transliteration.Utf8

@[simp] theorem length_nil : length [] = 0 := rfl

@[simp] theorem length_cons (c : Char) (text : List Char) :
    length (c :: text) = c.utf8Size + length text := rfl

@[simp] theorem length_append (first second : List Char) :
    length (first ++ second) = length first + length second := by
  induction first with
  | nil => simp
  | cons c first ih => simp [ih, Nat.add_assoc]

/-- Only the empty text takes no byte. -/
theorem length_pos {text : List Char} (hne : text ≠ []) : 0 < length text := by
  cases text with
  | nil => exact absurd rfl hne
  | cons c rest =>
      have hsize : 0 < c.utf8Size := Char.utf8Size_pos c
      rw [length_cons]
      omega

/-- A text splits at the position behind any of its beginnings. -/
theorem splitAt?_append (before after : List Char) :
    splitAt? (before ++ after) (length before) = some (before, after) := by
  induction before with
  | nil => simp [splitAt?]
  | cons c before ih =>
      have hsize : 0 < c.utf8Size := Char.utf8Size_pos c
      obtain ⟨position, hposition⟩ : ∃ position, c.utf8Size + length before = position + 1 :=
        ⟨c.utf8Size + length before - 1, by omega⟩
      have hrest : position + 1 - c.utf8Size = length before := by omega
      rw [length_cons, hposition, List.cons_append, splitAt?, if_neg (by omega), hrest, ih]
      · rfl
      · exact Nat.succ_ne_zero position

/-- A text splits at a position into exactly those two parts of which the first one takes so many
bytes. -/
theorem splitAt?_eq_some_iff {text before after : List Char} {position : Nat} :
    splitAt? text position = some (before, after) ↔
      text = before ++ after ∧ length before = position := by
  constructor
  · intro hsplit
    induction text, position using splitAt?.induct generalizing before after with
    | case1 text =>
        simp only [splitAt?, Option.some.injEq, Prod.mk.injEq] at hsplit
        obtain ⟨rfl, rfl⟩ := hsplit
        simp
    | case2 => simp [splitAt?] at hsplit
    | case3 c rest position hpos hlt =>
        rw [splitAt?, if_pos hlt] at hsplit
        · simp at hsplit
        · exact hpos
    | case4 c rest position hpos hge ih =>
        -- the character lies before the position
        rw [splitAt?, if_neg hge] at hsplit
        · obtain ⟨⟨front, back⟩, hrest, heq⟩ := Option.map_eq_some_iff.mp hsplit
          simp only [Prod.mk.injEq] at heq
          obtain ⟨rfl, rfl⟩ := heq
          obtain ⟨rfl, hlength⟩ := ih hrest
          refine ⟨rfl, ?_⟩
          rw [length_cons, hlength]
          omega
        · exact hpos
  · rintro ⟨rfl, rfl⟩
    exact splitAt?_append before after

/-- Two parts of a text that begin at the same place and take as many bytes are the same. -/
theorem eq_of_length_eq {first second after rest : List Char}
    (htext : first ++ after = second ++ rest) (hlength : length first = length second) :
    first = second ∧ after = rest := by
  have hfirst := splitAt?_append first after
  rw [htext, hlength, splitAt?_append] at hfirst
  simpa [eq_comm] using hfirst

end Transliteration.Utf8
