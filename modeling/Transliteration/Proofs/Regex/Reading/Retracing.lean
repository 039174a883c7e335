import Transliteration.Proofs.Regex.Reading.Bracket
import Transliteration.Proofs.Regex.Reading.Suffix

/-!
# Reading back to a pattern by itself

A pattern stands in a group, so the end of the group comes after it and then perhaps more.  A reader
that leaves the end of the group has not looked beyond it, and it reads the same of the pattern by
itself (`Retraces`).

## Strategy

Readers leave an end of what they are given (`Leaves`).  So one that leaves the end of the group has
left it after every part that it has read, and the parts may be followed one by one; once a part
takes the end of the group there is nothing to show (`Retraces.past`).

Only one reader looks further than it reads: after a boundary a brace may begin the boundary's name,
and where the pattern ends with that brace it is an error by itself and none within a group
(`Dangling`).  But nothing goes on from there, neither a class nor a group.
-/

namespace Transliteration.Regex

/-- Wherever the reader within the group leaves the end of the group, the reader of the pattern by
itself has read the same. -/
def Retraces {α β : Type} (more : List Char) (left : β → List Char) (Related : α → β → Prop)
    (alone : Except Fault α) (within : Except Fault β) : Prop :=
  ∀ value, within = .ok value → ')' :: more <:+ left value →
    ∃ value', alone = .ok value' ∧ Related value' value

variable {more : List Char}

namespace Retraces

variable {α β γ δ : Type} {left : β → List Char} {left' : δ → List Char} {Related : α → β → Prop}
  {Onward : γ → δ → Prop} {alone : Except Fault α} {within : Except Fault β}

theorem error (fault : Fault) : Retraces more left Related alone (.error fault) := by
  rintro value ⟨⟩

theorem ok {value : α} {value' : β} (hrelated : Related value value') :
    Retraces more left Related (.ok value) (.ok value') := by
  rintro _ ⟨⟩ -
  exact ⟨value, rfl, hrelated⟩

/-- Nothing is to be shown of a reader that begins past the end of the group. -/
theorem past {text : List Char} (hread : Leaves left text within)
    (hpast : ¬ ')' :: more <:+ text) : Retraces more left Related alone within :=
  fun value hvalue hsuffix => absurd (hsuffix.trans (hread value hvalue)) hpast

theorem bind {next : α → Except Fault γ} {next' : β → Except Fault δ}
    (hfirst : Retraces more left Related alone within)
    (hleaves : ∀ value, Leaves left' (left value) (next' value))
    (hnext : ∀ value value', alone = .ok value → Related value value' →
      Retraces more left' Onward (next value) (next' value')) :
    Retraces more left' Onward (alone >>= next) (within >>= next') := by
  intro last hlast hsuffix
  cases hwithin : within with
  | error fault =>
      rw [hwithin] at hlast
      cases hlast
  | ok value' =>
      rw [hwithin] at hlast
      obtain ⟨value, halone, hrelated⟩ :=
        hfirst value' hwithin (hsuffix.trans (hleaves value' last hlast))
      obtain ⟨last', hlast', honward⟩ := hnext value value' halone hrelated last hlast hsuffix
      exact ⟨last', by rw [halone]; exact hlast', honward⟩

theorem map {f : α → γ} {g : β → δ} (hfirst : Retraces more left Related alone within)
    (hleft : ∀ value, left' (g value) = left value)
    (hmap : ∀ value value', Related value value' → Onward (f value) (g value')) :
    Retraces more left' Onward (alone.map f) (within.map g) := by
  intro last hlast hsuffix
  cases hwithin : within with
  | error fault =>
      rw [hwithin] at hlast
      cases hlast
  | ok value' =>
      rw [hwithin] at hlast
      cases hlast
      rw [hleft] at hsuffix
      obtain ⟨value, halone, hrelated⟩ := hfirst value' hwithin hsuffix
      exact ⟨f value, by rw [halone]; rfl, hmap value value' hrelated⟩

/-- A step that reads nothing. -/
theorem bind_left {ι : Type} {step : Except Fault ι} {next : ι → Except Fault α}
    {next' : ι → Except Fault β}
    (hnext : ∀ value, Retraces more left Related (next value) (next' value)) :
    Retraces more left Related (step >>= next) (step >>= next') := by
  cases step with
  | error fault => exact error fault
  | ok value => exact hnext value

theorem ite {condition : Prop} [Decidable condition] {yes no : Except Fault α}
    {yes' no' : Except Fault β} (hyes : Retraces more left Related yes yes')
    (hno : Retraces more left Related no no') :
    Retraces more left Related (if condition then yes else no)
      (if condition then yes' else no') := by
  by_cases hcondition : condition
  · rw [if_pos hcondition, if_pos hcondition]
    exact hyes
  · rw [if_neg hcondition, if_neg hcondition]
    exact hno

end Retraces

/-- The same value, and within the group its end after what is left. -/
def SameRest {α : Type} (more : List Char) (alone within : α × List Char) : Prop :=
  alone.1 = within.1 ∧ within.2 = alone.2 ++ ')' :: more

theorem append_end_inj {pattern rest : List Char}
    (heq : pattern ++ ')' :: more = rest ++ ')' :: more) : pattern = rest :=
  List.append_cancel_right heq

theorem Retraces.of_append_end {α : Type} {alone within : Except Fault (α × List Char)} {value : α}
    {rest : List Char} (hretraces : Retraces more Prod.snd (SameRest more) alone within)
    (hwithin : within = .ok (value, rest ++ ')' :: more)) : alone = .ok (value, rest) := by
  obtain ⟨⟨value', rest'⟩, halone, hvalue, heq⟩ := hretraces _ hwithin (List.suffix_append _ _)
  obtain rfl : value' = value := hvalue
  obtain rfl := append_end_inj heq
  exact halone

section

variable {α γ δ : Type} {left : δ → List Char} {Onward : γ → δ → Prop}
  {alone within : Except Fault (α × List Char)} {next : α × List Char → Except Fault γ}
  {next' : α × List Char → Except Fault δ}

/-- It is enough to look at what the reader within the group has read before its end. -/
theorem Retraces.bind_within (hleaves : ∀ value rest, Leaves left rest (next' (value, rest)))
    (hnext : ∀ value rest, within = .ok (value, rest ++ ')' :: more) →
      Retraces more left Onward (alone >>= next) (next' (value, rest ++ ')' :: more))) :
    Retraces more left Onward (alone >>= next) (within >>= next') := by
  intro last hlast hsuffix
  cases hwithin : within with
  | error fault =>
      rw [hwithin] at hlast
      cases hlast
  | ok read =>
      obtain ⟨value, text⟩ := read
      rw [hwithin] at hlast
      obtain ⟨rest, rfl⟩ := hsuffix.trans (hleaves value text last hlast)
      exact hnext value rest hwithin last hlast hsuffix

theorem Retraces.bind_rest (hfirst : Retraces more Prod.snd (SameRest more) alone within)
    (hleaves : ∀ value rest, Leaves left rest (next' (value, rest)))
    (hnext : ∀ value rest, alone = .ok (value, rest) →
      Retraces more left Onward (next (value, rest)) (next' (value, rest ++ ')' :: more))) :
    Retraces more left Onward (alone >>= next) (within >>= next') := by
  refine .bind_within hleaves fun value rest hwithin => ?_
  have halone := hfirst.of_append_end hwithin
  rw [halone]
  exact hnext value rest halone

end

variable {modes : Modes} {pattern rest text : List Char} {c : Char}

theorem not_suffix_more : ¬ ')' :: more <:+ more := by
  intro hsuffix
  have hle := hsuffix.length_le
  rw [List.length_cons] at hle
  omega

theorem not_suffix_nil : ¬ ')' :: more <:+ [] := by
  simp

/-! ## White space and braces -/

theorem InGroup.eq_append_or_nil {left : List Char} (hleft : InGroup more pattern left) :
    left = pattern ++ ')' :: more ∨ left = [] := by
  cases hleft with
  | next => exact .inl rfl
  | swallowed => exact .inr rfl

/-- What is skipped within a group is skipped without it, unless a comment takes the end of the
group. -/
theorem skip_append_end (hline : '\n' ∉ more) (modes : Modes) (pattern : List Char) :
    skip modes (pattern ++ ')' :: more) = skip modes pattern ++ ')' :: more ∨
      skip modes (pattern ++ ')' :: more) = [] :=
  ((InGroup.next pattern).skip hline modes).eq_append_or_nil

/-- Where the end of the group is left after white space and comments, it was left before. -/
theorem exists_of_suffix_skip (hline : '\n' ∉ more) (hsuffix : ')' :: more <:+ skip modes text) :
    ∃ pattern, text = pattern ++ ')' :: more ∧
      skip modes text = skip modes pattern ++ ')' :: more := by
  obtain ⟨pattern, rfl⟩ := hsuffix.trans (skip_suffix modes text)
  refine ⟨pattern, rfl, ?_⟩
  rcases skip_append_end hline modes pattern with heq | hnil
  · exact heq
  · rw [hnil] at hsuffix
    exact absurd hsuffix not_suffix_nil

theorem readBraced_of_append_end (hline : '\n' ∉ more) {bound bound' : Nat}
    (hbound : pattern.length < bound')
    (hread : readBraced modes bound (pattern ++ ')' :: more) = some (text, rest ++ ')' :: more)) :
    readBraced modes bound' pattern = some (text, rest) := by
  induction bound generalizing pattern text bound' with
  | zero => cases hread
  | succ bound ih =>
      obtain ⟨bound', rfl⟩ : ∃ b, bound' = b + 1 := ⟨bound' - 1, by omega⟩
      rcases skip_append_end hline modes pattern with hskip | hnil
      · cases hpattern : skip modes pattern with
        | nil =>
            -- the braces are closed past the end of the group
            rw [hpattern, List.nil_append] at hskip
            rw [readBraced_cons (by decide) hskip, Option.map_eq_some_iff] at hread
            obtain ⟨⟨text, after⟩, hread, heq⟩ := hread
            cases heq
            exact absurd ((List.suffix_append _ _).trans (readBraced_suffix hread)) not_suffix_more
        | cons c pattern' =>
            rw [hpattern, List.cons_append] at hskip
            by_cases hc : c = '}'
            · subst hc
              rw [readBraced_close hskip, Option.some_inj, Prod.mk.injEq] at hread
              obtain ⟨rfl, heq⟩ := hread
              rw [readBraced_close hpattern, append_end_inj heq]
            · rw [readBraced_cons hc hskip, Option.map_eq_some_iff] at hread
              obtain ⟨⟨text', after⟩, hread, heq⟩ := hread
              cases heq
              have hlength : pattern'.length < bound' := by
                have hle := length_skip_le modes pattern
                rw [hpattern, List.length_cons] at hle
                omega
              rw [readBraced_cons hc hpattern, ih hlength hread]
              rfl
      · rw [readBraced, hnil] at hread
        cases hread

theorem readHexDigits_of_append_end (hline : '\n' ∉ more) {count : Nat}
    (hread : readHexDigits modes count (pattern ++ ')' :: more) =
      some (text, rest ++ ')' :: more)) :
    readHexDigits modes count pattern = some (text, rest) := by
  induction count generalizing pattern text with
  | zero =>
      rw [readHexDigits, Option.some_inj, Prod.mk.injEq] at hread
      obtain ⟨rfl, heq⟩ := hread
      rw [readHexDigits, append_end_inj heq]
  | succ count ih =>
      cases pattern with
      | nil =>
          rw [List.nil_append, readHexDigits, Option.map_eq_some_iff] at hread
          obtain ⟨⟨text, after⟩, hread, heq⟩ := hread
          cases heq
          -- the first digit would be the parenthesis, and reading it leaves too little
          have hsuffix := (readHexDigits_suffix hread).trans (skip_suffix modes more)
          exact absurd ((List.suffix_append _ _).trans hsuffix) not_suffix_more
      | cons c pattern =>
          rw [List.cons_append, readHexDigits, Option.map_eq_some_iff] at hread
          obtain ⟨⟨text, after⟩, hread, heq⟩ := hread
          cases heq
          have hsuffix := (List.suffix_append _ _).trans (readHexDigits_suffix hread)
          obtain ⟨pattern', heq, hskip⟩ := exists_of_suffix_skip hline hsuffix
          obtain rfl := append_end_inj heq
          rw [hskip] at hread
          rw [readHexDigits, ih hread]
          rfl

/-! ## Escape sequences -/

theorem retraces_readHex (hline : '\n' ∉ more) (letter : Char) (count : Nat) :
    Retraces more Prod.snd (SameRest more) (readHex modes letter count pattern)
      (readHex modes letter count (pattern ++ ')' :: more)) := by
  -- Either the blanks before the digits end within the group, and the digits stand between braces
  -- or by themselves, or they take the end of the group with them.
  rcases skip_append_end hline modes pattern with hskip | hnil
  · by_cases hbrace : ∃ pattern', skip modes pattern = '{' :: pattern'
    · obtain ⟨pattern', hpattern⟩ := hbrace
      rw [hpattern, List.cons_append] at hskip
      simp only [readHex, hskip, hpattern]
      rintro ⟨atom, last⟩ hread hsuffix
      split at hread
      · cases hread
      · next digits after hbraced =>
        split at hread
        · cases hread
        · next c hhex =>
          cases hread
          obtain ⟨rest, rfl, hskip'⟩ := exists_of_suffix_skip hline hsuffix
          -- the closing brace was found before the end of the group
          rw [readBraced_of_append_end hline (Nat.lt_succ_self _) hbraced]
          simp only [hhex]
          exact ⟨_, rfl, rfl, hskip'⟩
    · have hnone : ∀ rest, skip modes pattern ≠ '{' :: rest := fun rest h => hbrace ⟨rest, h⟩
      have hnone' : ∀ rest, skip modes (pattern ++ ')' :: more) ≠ '{' :: rest := by
        rw [hskip]
        exact (InGroup.next _).ne_cons (by decide) hnone
      rw [readHex_of_digits hnone, readHex_of_digits hnone', hskip]
      rintro ⟨atom, last⟩ hread hsuffix
      split at hread
      · cases hread
      · next digits after hdigits =>
        split at hread
        · cases hread
        · next c hhex =>
          split at hread
          · cases hread
          · next hunicode =>
            cases hread
            obtain ⟨rest, rfl⟩ := hsuffix
            rw [readHexDigits_of_append_end hline hdigits]
            simp only [hhex, if_neg hunicode]
            exact ⟨_, rfl, rfl, rfl⟩
  · -- nothing is left of which digits could be read
    have hdigits : ∀ {digits rest}, readHexDigits modes count [] = some (digits, rest) →
        charOfHex? digits = none := by
      intro digits rest hread
      cases count with
      | zero =>
          cases hread
          rfl
      | succ count => cases hread
    rintro value hread -
    simp only [readHex, hnil] at hread
    split at hread
    · cases hread
    · next hread' =>
      simp only [hdigits hread'] at hread
      cases hread

theorem readDescription_of_ne (hbrace : c ≠ '{') (hescape : c ≠ '\\')
    (hskip : skip modes pattern = c :: rest) :
    readDescription modes pattern = .ok ([c], skip modes rest) := by
  rw [readDescription, hskip]
  split
  case h_1 heq => cases heq
  case h_2 heq => exact absurd (List.cons.inj heq).1 hbrace
  case h_3 heq => exact absurd (List.cons.inj heq).1 hescape
  case h_4 heq => cases heq; rfl

theorem retraces_readDescription (hline : '\n' ∉ more) :
    Retraces more Prod.snd (SameRest more) (readDescription modes pattern)
      (readDescription modes (pattern ++ ')' :: more)) := by
  rcases skip_append_end hline modes pattern with hskip | hnil
  · cases hpattern : skip modes pattern with
    | nil =>
        rw [hpattern, List.nil_append] at hskip
        -- the letter of the property would be the parenthesis itself
        rw [readDescription_of_ne (by decide) (by decide) hskip]
        exact .past (.ok (skip_suffix modes more)) not_suffix_more
    | cons c pattern' =>
        rw [hpattern, List.cons_append] at hskip
        by_cases hbrace : c = '{'
        · subst hbrace
          simp only [readDescription, hskip, hpattern]
          rintro ⟨text, _⟩ hread ⟨rest, rfl⟩
          split at hread
          · cases hread
          · next described hbraced =>
            cases hread
            rw [readBraced_of_append_end hline (Nat.lt_succ_self _) hbraced]
            exact ⟨_, rfl, rfl, rfl⟩
        · by_cases hescape : c = '\\'
          · subst hescape
            simp only [readDescription, hskip]
            exact .error _
          · rw [readDescription_of_ne hbrace hescape hskip,
              readDescription_of_ne hbrace hescape hpattern]
            rintro ⟨text, _⟩ hread hsuffix
            cases hread
            obtain ⟨rest, heq, hskip'⟩ := exists_of_suffix_skip hline hsuffix
            obtain rfl := append_end_inj heq
            exact ⟨_, rfl, rfl, hskip'⟩
  · simp only [readDescription, hnil]
    exact .error _

theorem retraces_readProperty (hline : '\n' ∉ more) (negated : Bool) :
    Retraces more Prod.snd (SameRest more) (readProperty modes negated pattern)
      (readProperty modes negated (pattern ++ ')' :: more)) := by
  unfold readProperty
  refine (retraces_readDescription hline).bind_rest (fun text rest => ?_) fun text rest _ => ?_
  · exact .bind_left fun set => .ok (List.suffix_refl _)
  · exact .bind_left fun set => .ok ⟨rfl, rfl⟩

/-- A boundary has been read, and a brace after it that could be the beginning of its name but comes
to nothing.  Only the end of the group keeps it from being the end of the pattern. -/
structure Dangling (modes : Modes) (atom : Atom) (rest : List Char) : Prop where
  isLook : ∃ condition, atom = .look condition
  brace : ∃ after, rest = '{' :: after ∧ skip modes after = []

theorem readBoundary_of_append_end (hline : '\n' ∉ more) {atom : Atom}
    (hread : readBoundary modes (pattern ++ ')' :: more) = .ok (atom, rest ++ ')' :: more)) :
    readBoundary modes pattern = .ok (atom, rest) ∨ Dangling modes atom rest := by
  -- A boundary is complete by itself, and only a brace after it makes the reader look further.
  by_cases hbrace : ∃ pattern', pattern = '{' :: pattern'
  · obtain ⟨pattern, rfl⟩ := hbrace
    simp only [readBoundary, List.cons_append] at hread ⊢
    rcases skip_append_end hline modes pattern with hskip | hnil
    · cases hpattern : skip modes pattern with
      | nil =>
          rw [hpattern, List.nil_append] at hskip
          simp only [hskip] at hread
          obtain ⟨rfl, heq⟩ := Prod.mk.inj (Except.ok.inj hread)
          -- the parenthesis begins no name, so the brace is left; by itself the pattern ends
          obtain rfl : '{' :: pattern = rest := append_end_inj heq
          exact .inr ⟨⟨_, rfl⟩, pattern, rfl, hpattern⟩
      | cons c pattern' =>
          rw [hpattern, List.cons_append] at hskip
          simp only [hskip] at hread
          left
          simp only
          split at hread
          · next hname =>
            rw [if_pos hname]
            split at hread
            · cases hread
            · next name after hbraced =>
              split at hread
              · cases hread
              · next edge hedge =>
                obtain ⟨rfl, rfl⟩ := Prod.mk.inj (Except.ok.inj hread)
                have halone : readBraced modes (pattern'.length + 2) (c :: pattern') =
                    some (name, rest) :=
                  readBraced_of_append_end hline (Nat.lt_succ_self _) hbraced
                simp only [halone, hedge]
          · next hname =>
            obtain ⟨rfl, heq⟩ := Prod.mk.inj (Except.ok.inj hread)
            -- the character after the brace begins no name for either reader
            obtain rfl : '{' :: pattern = rest := append_end_inj heq
            rw [if_neg hname]
    · simp only [hnil] at hread
      cases hread
  · have hnone : ∀ rest, pattern ≠ '{' :: rest := fun rest h => hbrace ⟨rest, h⟩
    rw [readBoundary_of_ne ((InGroup.next pattern).ne_cons (by decide) hnone), Except.ok.injEq,
      Prod.mk.injEq] at hread
    obtain ⟨rfl, heq⟩ := hread
    obtain rfl := append_end_inj heq
    exact .inl (readBoundary_of_ne hnone)

theorem readEscape_of_append_end (hline : '\n' ∉ more) {atom : Atom}
    (hread : readEscape modes (pattern ++ ')' :: more) = .ok (atom, rest ++ ')' :: more)) :
    readEscape modes pattern = .ok (atom, rest) ∨ Dangling modes atom rest := by
  cases pattern with
  | nil =>
      exact absurd ((List.suffix_append _ _).trans (leaves_readEscape _ hread)) not_suffix_more
  | cons c pattern =>
      rw [List.cons_append] at hread
      -- Six letters read on, and only the boundary with an exception.
      by_cases hletter : c ∈ ['x', 'u', 'U', 'p', 'P', 'b']
      · simp only [List.mem_cons, List.not_mem_nil, or_false] at hletter
        rcases hletter with rfl | rfl | rfl | rfl | rfl | rfl
        · exact .inl ((retraces_readHex hline 'x' 2).of_append_end hread)
        · exact .inl ((retraces_readHex hline 'u' 4).of_append_end hread)
        · exact .inl ((retraces_readHex hline 'U' 8).of_append_end hread)
        · exact .inl ((retraces_readProperty hline false).of_append_end hread)
        · exact .inl ((retraces_readProperty hline true).of_append_end hread)
        · exact readBoundary_of_append_end hline hread
      · simp only [List.mem_cons, List.not_mem_nil, or_false, not_or] at hletter
        obtain ⟨hx, hu, hU, hp, hP, hb⟩ := hletter
        rw [readEscape.eq_8 modes c _ hx hu hU hp hP hb] at hread
        rw [readEscape.eq_8 modes c pattern hx hu hU hp hP hb]
        refine .inl (Retraces.of_append_end ?_ hread)
        refine .ite (.ok ⟨rfl, rfl⟩) ?_
        cases control? c with
        | some c' => exact .ok ⟨rfl, rfl⟩
        | none =>
            cases letterLook? modes c with
            | some condition => exact .ok ⟨rfl, rfl⟩
            | none =>
                cases letterSet? modes c.toLower with
                | some set => exact .bind_left fun set => .ok ⟨rfl, rfl⟩
                | none => exact .error _

end Transliteration.Regex
