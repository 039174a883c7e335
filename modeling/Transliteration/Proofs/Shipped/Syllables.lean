import Mathlib

/-!
# The syllables of Hangul

A syllable of Hangul has a leading consonant, a vowel and a final consonant or the filler that
stands for none, each of which is a character of its own (`Syllable.parts`).  The syllables come in
one block, ordered by their parts (`Syllable.char`).

To take a text apart is to replace every syllable by its parts (`Hangul.decompose`).  Nothing is
lost by it where there have been no parts before (`recompose_decompose`), and nothing is left to be
taken apart (`decompose_decompose`).
-/

namespace Transliteration.Hangul

/-- A syllable by the numbers of its parts. -/
structure Syllable where
  leading : Fin 19
  vowel : Fin 21
  final : Fin 28
  deriving DecidableEq

namespace Syllable

/-- The character of the syllable. -/
def char (syllable : Syllable) : Char :=
  Char.ofNat (0xAC00 + (syllable.leading * 21 + syllable.vowel) * 28 + syllable.final)

/-- The characters of its parts. -/
def parts (syllable : Syllable) : List Char :=
  [Char.ofNat (0x1100 + syllable.leading), Char.ofNat (0x1161 + syllable.vowel),
    Char.ofNat (0x11A7 + syllable.final)]

end Syllable

/-- The character is a syllable. -/
def IsSyllable (c : Char) : Prop := 0xAC00 ≤ c.toNat ∧ c.toNat ≤ 0xD7A3

/-- The character is a part of syllables. -/
def IsPart (c : Char) : Prop :=
  (0x1100 ≤ c.toNat ∧ c.toNat ≤ 0x1112) ∨ (0x1161 ≤ c.toNat ∧ c.toNat ≤ 0x1175) ∨
    (0x11A7 ≤ c.toNat ∧ c.toNat ≤ 0x11C2)

instance : DecidablePred IsSyllable := fun c =>
  inferInstanceAs (Decidable (0xAC00 ≤ c.toNat ∧ c.toNat ≤ 0xD7A3))

instance : DecidablePred IsPart := fun c =>
  inferInstanceAs (Decidable ((0x1100 ≤ c.toNat ∧ c.toNat ≤ 0x1112) ∨
    (0x1161 ≤ c.toNat ∧ c.toNat ≤ 0x1175) ∨ (0x11A7 ≤ c.toNat ∧ c.toNat ≤ 0x11C2)))

/-- The syllable that a character is. -/
def syllable? (c : Char) : Option Syllable :=
  if h : IsSyllable c then
    have hlarge := h.1
    have hsmall := h.2
    some {
      leading := ⟨(c.toNat - 0xAC00) / 588, by omega⟩
      vowel := ⟨(c.toNat - 0xAC00) / 28 % 21, by omega⟩
      final := ⟨(c.toNat - 0xAC00) % 28, by omega⟩ }
  else none

/-- What a character is taken apart into. -/
def constituents (c : Char) : List Char := (syllable? c).elim [c] Syllable.parts

/-- Replaces every syllable by its parts. -/
def decompose (text : List Char) : List Char := text.flatMap constituents

/-- The syllable that has these parts. -/
def ofParts? (leading vowel final : Char) : Option Syllable :=
  if h : (0x1100 ≤ leading.toNat ∧ leading.toNat ≤ 0x1112) ∧
      (0x1161 ≤ vowel.toNat ∧ vowel.toNat ≤ 0x1175) ∧
      (0x11A7 ≤ final.toNat ∧ final.toNat ≤ 0x11C2) then
    have hbounds := h
    some {
      leading := ⟨leading.toNat - 0x1100, by omega⟩
      vowel := ⟨vowel.toNat - 0x1161, by omega⟩
      final := ⟨final.toNat - 0x11A7, by omega⟩ }
  else none

/-- Replaces the parts of a syllable by the syllable, wherever all three stand together. -/
def recompose : List Char → List Char
  | first :: second :: third :: rest =>
    match ofParts? first second third with
    | some syllable => syllable.char :: recompose rest
    | none => first :: recompose (second :: third :: rest)
  | short => short

/-! ## Syllables and their characters -/

theorem Syllable.toNat_char (syllable : Syllable) :
    syllable.char.toNat =
      0xAC00 + (syllable.leading * 21 + syllable.vowel) * 28 + syllable.final := by
  rw [char, Char.toNat_ofNat, if_pos (.inl (by omega))]

theorem Syllable.isSyllable_char (syllable : Syllable) : IsSyllable syllable.char := by
  unfold IsSyllable
  rw [syllable.toNat_char]
  omega

/-- A syllable is told from its character. -/
theorem syllable?_eq_some_iff {c : Char} {syllable : Syllable} :
    syllable? c = some syllable ↔ c = syllable.char := by
  unfold syllable?
  constructor
  · intro hsyllable
    split at hsyllable
    · next hc =>
      obtain ⟨hlarge, hsmall⟩ := hc
      cases hsyllable
      refine Char.toNat_inj.mp ?_
      rw [Syllable.toNat_char]
      show c.toNat = 0xAC00 + ((c.toNat - 0xAC00) / 588 * 21 + (c.toNat - 0xAC00) / 28 % 21) * 28 +
        (c.toNat - 0xAC00) % 28
      omega
    · cases hsyllable
  · rintro rfl
    rw [dif_pos syllable.isSyllable_char]
    obtain ⟨leading, vowel, final⟩ := syllable
    rw [Option.some_inj, Syllable.mk.injEq, Fin.ext_iff, Fin.ext_iff, Fin.ext_iff]
    simp only [Syllable.toNat_char]
    omega

theorem syllable?_eq_none_iff {c : Char} : syllable? c = none ↔ ¬ IsSyllable c := by
  unfold syllable?
  split <;> simp [*]

theorem constituents_char (syllable : Syllable) : constituents syllable.char = syllable.parts := by
  rw [constituents, syllable?_eq_some_iff.mpr rfl]
  rfl

theorem constituents_of_not_syllable {c : Char} (hc : ¬ IsSyllable c) : constituents c = [c] := by
  rw [constituents, syllable?_eq_none_iff.mpr hc]
  rfl

/-- A character is a syllable or stays as it is. -/
theorem cases_char (c : Char) :
    (∃ syllable : Syllable, c = syllable.char) ∨ ¬ IsSyllable c := by
  cases hsyllable : syllable? c with
  | some syllable => exact .inl ⟨syllable, syllable?_eq_some_iff.mp hsyllable⟩
  | none => exact .inr (syllable?_eq_none_iff.mp hsyllable)

/-! ## Parts -/

theorem Syllable.isPart_of_mem_parts {syllable : Syllable} {c : Char}
    (hc : c ∈ syllable.parts) : IsPart c := by
  simp only [parts, List.mem_cons, List.not_mem_nil, or_false] at hc
  unfold IsPart
  rcases hc with rfl | rfl | rfl
  · rw [Char.toNat_ofNat, if_pos (.inl (by omega))]
    omega
  · rw [Char.toNat_ofNat, if_pos (.inl (by omega))]
    omega
  · rw [Char.toNat_ofNat, if_pos (.inl (by omega))]
    omega

theorem not_isSyllable_of_isPart {c : Char} (hc : IsPart c) : ¬ IsSyllable c := by
  unfold IsPart at hc
  unfold IsSyllable
  omega

/-- A syllable is told from its parts. -/
theorem ofParts?_parts (syllable : Syllable) :
    ofParts? (Char.ofNat (0x1100 + syllable.leading)) (Char.ofNat (0x1161 + syllable.vowel))
      (Char.ofNat (0x11A7 + syllable.final)) = some syllable := by
  have hleading : (Char.ofNat (0x1100 + syllable.leading)).toNat = 0x1100 + syllable.leading := by
    rw [Char.toNat_ofNat, if_pos (.inl (by omega))]
  have hvowel : (Char.ofNat (0x1161 + syllable.vowel)).toNat = 0x1161 + syllable.vowel := by
    rw [Char.toNat_ofNat, if_pos (.inl (by omega))]
  have hfinal : (Char.ofNat (0x11A7 + syllable.final)).toNat = 0x11A7 + syllable.final := by
    rw [Char.toNat_ofNat, if_pos (.inl (by omega))]
  obtain ⟨leading, vowel, final⟩ := syllable
  unfold ofParts?
  rw [dif_pos (by omega), Option.some_inj, Syllable.mk.injEq, Fin.ext_iff, Fin.ext_iff, Fin.ext_iff]
  simp only [hleading, hvowel, hfinal]
  omega

theorem ofParts?_eq_none {first : Char} (hfirst : ¬ IsPart first) (second third : Char) :
    ofParts? first second third = none := by
  unfold ofParts?
  refine dif_neg fun h => hfirst (.inl h.1)

/-! ## Taking apart and putting together -/

@[simp] theorem decompose_nil : decompose [] = [] := rfl

theorem decompose_cons (c : Char) (text : List Char) :
    decompose (c :: text) = constituents c ++ decompose text := List.flatMap_cons

theorem not_isSyllable_of_mem_constituents {c other : Char} (hother : other ∈ constituents c) :
    ¬ IsSyllable other := by
  rcases cases_char c with ⟨syllable, rfl⟩ | hc
  · rw [constituents_char] at hother
    exact not_isSyllable_of_isPart (Syllable.isPart_of_mem_parts hother)
  · rw [constituents_of_not_syllable hc, List.mem_singleton] at hother
    rwa [hother]

/-- A text without syllables is left alone. -/
theorem decompose_eq_self {text : List Char} (htext : ∀ c ∈ text, ¬ IsSyllable c) :
    decompose text = text := by
  induction text with
  | nil => rfl
  | cons c text ih =>
      rw [List.forall_mem_cons] at htext
      rw [decompose_cons, constituents_of_not_syllable htext.1, ih htext.2, List.singleton_append]

theorem decompose_decompose (text : List Char) : decompose (decompose text) = decompose text := by
  refine decompose_eq_self fun c hc => ?_
  obtain ⟨other, -, hother⟩ := List.mem_flatMap.mp hc
  exact not_isSyllable_of_mem_constituents hother

/-- A character that is neither a syllable nor a part occurs as often as before. -/
theorem count_decompose {c : Char} (hsyllable : ¬ IsSyllable c) (hpart : ¬ IsPart c)
    (text : List Char) : (decompose text).count c = text.count c := by
  induction text with
  | nil => rfl
  | cons first text ih =>
      have hfirst : (constituents first).count c = [first].count c := by
        rcases cases_char first with ⟨syllable, rfl⟩ | hother
        · have hne : syllable.char ≠ c := fun heq => hsyllable (heq ▸ syllable.isSyllable_char)
          rw [constituents_char, List.count_eq_zero_of_not_mem, List.count_eq_zero_of_not_mem]
          · simpa using hne.symm
          · exact fun hmem => hpart (Syllable.isPart_of_mem_parts hmem)
        · rw [constituents_of_not_syllable hother]
      rw [decompose_cons, List.count_append, hfirst, ih, ← List.count_append, List.singleton_append]

theorem recompose_parts (syllable : Syllable) (rest : List Char) :
    recompose (syllable.parts ++ rest) = syllable.char :: recompose rest := by
  rw [Syllable.parts, List.cons_append, List.cons_append, List.cons_append, List.nil_append,
    recompose, ofParts?_parts]

theorem recompose_cons {c : Char} (hc : ¬ IsPart c) (rest : List Char) :
    recompose (c :: rest) = c :: recompose rest := by
  match rest with
  | [] => rfl
  | [_] => rfl
  | second :: third :: rest => rw [recompose, ofParts?_eq_none hc]

/-- A text that has no parts on their own is put together again. -/
theorem recompose_decompose {text : List Char} (htext : ∀ c ∈ text, ¬ IsPart c) :
    recompose (decompose text) = text := by
  induction text with
  | nil => rfl
  | cons c text ih =>
      rw [List.forall_mem_cons] at htext
      rw [decompose_cons]
      rcases cases_char c with ⟨syllable, rfl⟩ | hc
      · rw [constituents_char, recompose_parts, ih htext.2]
      · rw [constituents_of_not_syllable hc, List.singleton_append, recompose_cons htext.1,
          ih htext.2]

end Transliteration.Hangul
