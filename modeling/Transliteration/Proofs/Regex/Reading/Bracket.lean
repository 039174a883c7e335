import Transliteration.Proofs.Regex.Reading.Escape
import Transliteration.Regex.Bracket

/-!
# Classes in brackets within a group

A class that is read to its closing bracket by itself is read the same within a group
(`sameRead_readClass`).  Where its parts are read they look at the character after them, which is
never the end of the group, because a class that reaches the end of the pattern is refused.

The name of a class such as `[:alpha:]` is looked for up to the next colon, so none may stand after
the group.
-/

namespace Transliteration.Regex

variable {more : List Char} {modes : Modes} {pattern left rest : List Char}

/-! ## Looking ahead -/

theorem firstVisible?_append (afterSign : Bool) {c : Char}
    (hfirst : firstVisible? afterSign pattern = some c) (tail : List Char) :
    firstVisible? afterSign (pattern ++ tail) = some c := by
  induction pattern generalizing afterSign with
  | nil => cases hfirst
  | cons c' pattern ih =>
      rw [List.cons_append]
      unfold firstVisible? at hfirst ⊢
      split
      case isTrue hblank => rw [if_pos hblank] at hfirst; exact ih _ hfirst
      case isFalse hblank =>
        rw [if_neg hblank] at hfirst
        split
        case isTrue hsign => rw [if_pos hsign] at hfirst; exact ih _ hfirst
        case isFalse hsign => rw [if_neg hsign] at hfirst; exact hfirst

theorem firstVisible?_paren (afterSign : Bool)
    (hfirst : firstVisible? afterSign pattern = none) :
    firstVisible? afterSign (pattern ++ ')' :: more) = some ')' := by
  induction pattern generalizing afterSign with
  | nil =>
      rw [List.nil_append, firstVisible?, isBlank_paren]
      simp
  | cons c pattern ih =>
      rw [List.cons_append]
      unfold firstVisible? at hfirst ⊢
      split
      case isTrue hblank => rw [if_pos hblank] at hfirst; exact ih _ hfirst
      case isFalse hblank =>
        rw [if_neg hblank] at hfirst
        split
        case isTrue hsign => rw [if_pos hsign] at hfirst; exact ih _ hfirst
        case isFalse hsign => rw [if_neg hsign] at hfirst; cases hfirst

/-- Whether a hyphen or a closing bracket comes next is not changed by the end of the group. -/
theorem peek_eq_some_iff (hleft : InGroup more pattern left) {c : Char} (hc : c ≠ ')')
    (hblank : isBlank c = false) (hsign : c ≠ '#') :
    peek modes left = some c ↔ peek modes pattern = some c := by
  cases hleft with
  | swallowed => exact Iff.rfl
  | next =>
      have hhead : (pattern ++ ')' :: more).head? = some c ↔ pattern.head? = some c := by
        cases pattern with
        | nil => simpa using hc.symm
        | cons c' pattern => rfl
      unfold peek
      by_cases hverbose : modes.verbose = true
      · rw [if_pos hverbose, if_pos hverbose]
        cases hfirst : firstVisible? false pattern with
        | some c' => rw [firstVisible?_append false hfirst]; rfl
        | none =>
            rw [firstVisible?_paren false hfirst]
            -- a character that is in sight cannot be the first one
            have hother : pattern.head? ≠ some c := by
              intro hhead
              cases pattern with
              | nil => cases hhead
              | cons c' pattern =>
                  cases hhead
                  simp [firstVisible?, hblank, hsign] at hfirst
            simp [hother, hc.symm]
      · rw [if_neg hverbose, if_neg hverbose]
        exact hhead

theorem peek_eq_bracket_or_hyphen (hleft : InGroup more pattern left) :
    (peek modes left == some ']' || peek modes left == some '-') =
      (peek modes pattern == some ']' || peek modes pattern == some '-') := by
  have hbracket : peek modes left = some ']' ↔ peek modes pattern = some ']' :=
    peek_eq_some_iff hleft (by decide) (isBlank_sign (by decide)) (by decide)
  have hhyphen : peek modes left = some '-' ↔ peek modes pattern = some '-' :=
    peek_eq_some_iff hleft (by decide) (isBlank_sign (by decide)) (by decide)
  rw [Bool.eq_iff_iff]
  simp only [Bool.or_eq_true, beq_iff_eq, hbracket, hhyphen]

/-! ## Members -/

theorem readMember_of_ne {c : Char} (hc : c ≠ '\\') :
    readMember modes (c :: rest) = .ok (.char c, rest) := by
  unfold readMember
  split
  case h_1 heq => cases heq
  case h_2 heq => exact absurd (List.cons.inj heq).1 hc
  case h_3 heq => cases heq; rfl

theorem sameRead_readMember (hline : '\n' ∉ more) (hleft : InGroup more pattern left) :
    SameRead more (readMember modes pattern) (readMember modes left) := by
  cases pattern with
  | nil => exact .error _
  | cons c pattern =>
      obtain ⟨left, rfl, hrest⟩ := hleft.cons
      by_cases hc : c = '\\'
      · subst hc
        exact sameRead_readEscape hline hrest
      · rw [readMember_of_ne hc, readMember_of_ne hc]
        exact .ok ⟨rfl, hrest⟩

theorem sameRead_single (atom : Atom) (hleft : InGroup more rest left) :
    SameRead more (readRange.single modes atom rest) (readRange.single modes atom left) := by
  cases atom with
  | char c =>
      simp only [readRange.single]
      cases memberChar modes c with
      | error fault => exact .error fault
      | ok c => exact .ok ⟨rfl, hleft⟩
  | set set => exact .ok ⟨rfl, hleft⟩
  | look condition => exact .error _

theorem sameRead_readRange (hline : '\n' ∉ more) (hleft : InGroup more pattern left) :
    SameRead more (readRange modes pattern) (readRange modes left) := by
  unfold readRange
  apply (sameRead_readMember hline hleft).bind
  intro first rest left hleft
  simp only
  cases hskip : skip modes rest with
  | nil => exact .error _
  | cons c rest =>
      obtain ⟨left', hskip', hrest, hall⟩ := hleft.skip_cons hline hskip
      rw [hskip']
      by_cases hc : c = '-'
      · subst hc
        -- a hyphen before the bracket that ends the class stands for itself
        simp only [peek_eq_bracket_or_hyphen hrest]
        refine .ite (sameRead_single first hall) ?_
        cases hskip2 : skip modes rest with
        | nil => exact .error _
        | cons c rest' =>
            obtain ⟨left'', hskip2', hrest', hall'⟩ := hrest.skip_cons hline hskip2
            simp only [hskip2']
            apply (sameRead_readMember hline hall').bind
            intro last rest left hleft
            -- A range has a character at either end.
            cases first with
            | char a =>
                cases last with
                | char b =>
                    refine .bind_left fun a => .bind_left fun b => ?_
                    exact .ite (.ok ⟨rfl, hleft⟩) (.error _)
                | set set => exact .error _
                | look condition => exact .error _
            | set set => exact .error _
            | look condition => exact .error _
      -- without a hyphen the first member stands alone
      · split
        case h_1 heq => cases heq
        case h_2 heq => exact absurd (List.cons.inj heq).1 hc
        case h_3 =>
          split
          case h_1 heq => cases heq
          case h_2 heq => exact absurd (List.cons.inj heq).1 hc
          case h_3 => exact sameRead_single first hall

/-! ## The beginning of a class -/

theorem readHyphens_of_ne {bound : Nat} {soFar : ClassSoFar}
    (hhyphen : ∀ rest, pattern ≠ '-' :: rest) :
    readHyphens modes bound pattern soFar = (pattern, soFar) := by
  unfold readHyphens
  split
  case h_1 => rfl
  case h_2 => exact absurd rfl (hhyphen _)
  case h_3 => rfl

theorem readHyphens_inGroup (hline : '\n' ∉ more) (modes : Modes) (soFar : ClassSoFar)
    {bound bound' : Nat} (hbound : pattern.length ≤ bound) (hbound' : left.length ≤ bound')
    (hleft : InGroup more pattern left) :
    ∃ left', readHyphens modes bound' left soFar =
        (left', (readHyphens modes bound pattern soFar).2) ∧
      InGroup more (readHyphens modes bound pattern soFar).1 left' := by
  induction bound generalizing bound' pattern left soFar with
  | zero =>
      obtain rfl : pattern = [] := List.eq_nil_of_length_eq_zero (Nat.le_zero.mp hbound)
      have hnone : ∀ rest, ([] : List Char) ≠ '-' :: rest := fun rest h => by cases h
      rw [readHyphens_of_ne hnone, readHyphens_of_ne (hleft.ne_cons (by decide) hnone)]
      exact ⟨left, rfl, hleft⟩
  | succ bound ih =>
      rcases hleft.front '-' (by decide) with ⟨_, _, rfl, rfl, hrest⟩ | ⟨hnone, hnone'⟩
      · obtain ⟨bound', rfl⟩ : ∃ b, bound' = b + 1 :=
          ⟨bound' - 1, by rw [List.length_cons] at hbound'; omega⟩
        simp only [readHyphens]
        apply ih
        · exact Nat.le_trans (length_skip_le ..) (Nat.le_of_succ_le_succ hbound)
        · exact Nat.le_trans (length_skip_le ..) (Nat.le_of_succ_le_succ hbound')
        · exact hrest.skip hline modes
      · rw [readHyphens_of_ne hnone, readHyphens_of_ne hnone']
        exact ⟨left, rfl, hleft⟩

theorem readCaret_of_ne (hcaret : ∀ rest, pattern ≠ '^' :: rest) :
    readCaret modes pattern = (false, pattern) := by
  unfold readCaret
  split
  case h_1 => exact absurd rfl (hcaret _)
  case h_2 => rfl

theorem readCaret_inGroup (hline : '\n' ∉ more) (hleft : InGroup more pattern left) :
    ∃ left', readCaret modes left = ((readCaret modes pattern).1, left') ∧
      InGroup more (readCaret modes pattern).2 left' := by
  rcases hleft.front '^' (by decide) with ⟨_, left, rfl, rfl, hrest⟩ | ⟨hnone, hnone'⟩
  · exact ⟨skip modes left, rfl, hrest.skip hline modes⟩
  · rw [readCaret_of_ne hnone, readCaret_of_ne hnone']
    exact ⟨left, rfl, hleft⟩

theorem readFirstBracket_of_ne {soFar : ClassSoFar} (hbracket : ∀ rest, pattern ≠ ']' :: rest) :
    readFirstBracket modes pattern soFar = (pattern, soFar) := by
  unfold readFirstBracket
  split
  case h_1 => exact absurd rfl (hbracket _)
  case h_2 => rfl

theorem readFirstBracket_inGroup (hline : '\n' ∉ more) (modes : Modes) (soFar : ClassSoFar)
    (hleft : InGroup more pattern left) :
    ∃ left', readFirstBracket modes left soFar =
        (left', (readFirstBracket modes pattern soFar).2) ∧
      InGroup more (readFirstBracket modes pattern soFar).1 left' := by
  rcases hleft.front ']' (by decide) with ⟨_, left, rfl, rfl, hrest⟩ | ⟨hnone, hnone'⟩
  · by_cases hmembers : soFar.members.isEmpty = true
    · simp only [readFirstBracket, if_pos hmembers]
      exact ⟨skip modes left, rfl, hrest.skip hline modes⟩
    · simp only [readFirstBracket, if_neg hmembers]
      exact ⟨']' :: left, rfl, hleft⟩
  · rw [readFirstBracket_of_ne hnone, readFirstBracket_of_ne hnone']
    exact ⟨left, rfl, hleft⟩

theorem readOpening_inGroup (hline : '\n' ∉ more) (modes : Modes)
    (hleft : InGroup more pattern left) :
    ∃ left', readOpening modes left =
        ((readOpening modes pattern).1, left', (readOpening modes pattern).2.2) ∧
      InGroup more (readOpening modes pattern).2.1 left' := by
  obtain ⟨left₁, hcaret', hleft₁⟩ := readCaret_inGroup hline (hleft.skip hline modes)
  cases hcaret : readCaret modes (skip modes pattern) with
  | mk negated pattern₁ =>
      rw [hcaret] at hcaret' hleft₁
      obtain ⟨left₂, hhyphens', hleft₂⟩ := readHyphens_inGroup hline modes ⟨none, []⟩
        (Nat.le_refl pattern₁.length) (Nat.le_refl left₁.length) hleft₁
      cases hhyphens : readHyphens modes pattern₁.length pattern₁ ⟨none, []⟩ with
      | mk pattern₂ soFar =>
          rw [hhyphens] at hhyphens' hleft₂
          obtain ⟨left₃, hbracket, hleft₃⟩ := readFirstBracket_inGroup hline modes soFar hleft₂
          simp only [readOpening, hcaret, hcaret', hhyphens, hhyphens', hbracket]
          exact ⟨left₃, rfl, hleft₃⟩

/-! ## Classes between colons -/

theorem readColonClass?_named_inGroup (hcolon : ':' ∉ more) (negated : Bool)
    (hleft : InGroup more pattern left) :
    (readColonClass?.named negated pattern = none ∧ readColonClass?.named negated left = none) ∨
      ∃ named set rest left', readColonClass?.named negated pattern = some (named, set, rest) ∧
        readColonClass?.named negated left = some (named, set, left') ∧
        InGroup more rest left' := by
  cases hname : pattern.dropWhile (· != ':') with
  | nil =>
      -- No colon closes the name, and the text after the pattern has none either.
      have hend : left.dropWhile (· != ':') = [] := by
        cases hleft with
        | swallowed => rfl
        | next =>
            have hall : ((')' :: more) ++ []).dropWhile (· != ':') = [] := by
              apply List.dropWhile_append_of_pos
              intro c hc
              apply bne_iff_ne.mpr
              rintro rfl
              exact hcolon (by simpa using hc)
            rw [List.append_nil] at hall
            simp [List.dropWhile_append, hname, hall]
      left
      simp [readColonClass?.named, hname, hend]
  | cons c after =>
      obtain ⟨htake, left', hdrop, hafter⟩ := hleft.dropWhile_cons hname
      by_cases hclosed : ∃ rest, c :: after = ':' :: ']' :: rest
      · obtain ⟨rest, hrest⟩ := hclosed
        cases hrest
        obtain ⟨left, rfl, hrest⟩ := hafter.cons
        simp only [readColonClass?.named, hname, hdrop, htake]
        cases colonSet? (pattern.takeWhile (· != ':')) with
        | none => exact .inl ⟨rfl, rfl⟩
        | some set => exact .inr ⟨negated, set, rest, left, rfl, rfl, hrest⟩
      · left
        simp only [readColonClass?.named, hname, hdrop]
        constructor
        · split
          case h_1 heq => exact absurd ⟨_, heq⟩ hclosed
          case h_2 => rfl
        · split
          case h_1 heq =>
            obtain ⟨rfl, rfl⟩ := List.cons.inj heq
            -- the bracket would have to be the closing parenthesis of the group
            have hbracket : ∀ rest, after ≠ ']' :: rest :=
              fun rest h => hclosed ⟨rest, by rw [h]⟩
            exact absurd rfl (hafter.ne_cons (by decide) hbracket _)
          case h_2 => rfl

theorem readColonClass?_of_ne (hcolon : ∀ rest, pattern ≠ ':' :: rest) :
    readColonClass? pattern = none := by
  unfold readColonClass?
  split
  case h_1 => exact absurd rfl (hcolon _)
  case h_2 => exact absurd rfl (hcolon _)
  case h_3 => rfl

theorem readColonClass?_colon_of_ne (hcaret : ∀ rest, pattern ≠ '^' :: rest) :
    readColonClass? (':' :: pattern) = readColonClass?.named false pattern := by
  unfold readColonClass?
  split
  case h_1 heq => exact absurd (List.cons.inj heq).2 (hcaret _)
  case h_2 heq => cases heq; rfl
  case h_3 hcolon => exact absurd rfl (hcolon _)

theorem readColonClass?_inGroup (hcolon : ':' ∉ more) (hleft : InGroup more pattern left) :
    (readColonClass? pattern = none ∧ readColonClass? left = none) ∨
      ∃ negated set rest left', readColonClass? pattern = some (negated, set, rest) ∧
        readColonClass? left = some (negated, set, left') ∧ InGroup more rest left' := by
  rcases hleft.front ':' (by decide) with ⟨pattern, _, rfl, rfl, hrest⟩ | ⟨hnone, hnone'⟩
  · rcases hrest.front '^' (by decide) with ⟨_, _, rfl, rfl, hrest'⟩ | ⟨hplain, hplain'⟩
    · exact readColonClass?_named_inGroup hcolon true hrest'
    · rw [readColonClass?_colon_of_ne hplain, readColonClass?_colon_of_ne hplain']
      exact readColonClass?_named_inGroup hcolon false hrest
  · exact .inl ⟨readColonClass?_of_ne hnone, readColonClass?_of_ne hnone'⟩

/-! ## Classes -/

theorem sameRead_readClassRest (hline : '\n' ∉ more) (hcolon : ':' ∉ more) {bound bound' : Nat}
    (hbound : bound ≤ bound') (negated : Bool) (soFar : ClassSoFar)
    (hleft : InGroup more pattern left) :
    SameRead more (readClassRest modes bound negated pattern soFar)
      (readClassRest modes bound' negated left soFar) := by
  induction bound generalizing bound' negated soFar pattern left with
  | zero => exact .error _
  | succ bound ih =>
      obtain ⟨bound', rfl⟩ : ∃ b, bound' = b + 1 := ⟨bound' - 1, by omega⟩
      have hbound' : bound ≤ bound' := Nat.le_of_succ_le_succ hbound
      simp only [readClassRest]
      -- The next characters choose the branch.  Where `left` goes on with the closing parenthesis
      -- it is no sign, so both readers take the same branch.
      have hskip := hleft.skip hline modes
      generalize skip modes pattern = pattern' at hskip ⊢
      generalize skip modes left = left' at hskip ⊢
      split
      case h_1 => exact .error _
      -- a class within the class, or the name of one between colons
      case h_2 rest =>
        obtain ⟨left, rfl, hrest⟩ := hskip.cons
        simp only
        rcases readColonClass?_inGroup hcolon hrest with
          ⟨hnone, hnone'⟩ | ⟨inner, set, rest', left', hsome, hsome', hrest'⟩
        · obtain ⟨left', hopening, hleft'⟩ := readOpening_inGroup hline modes hrest
          simp only [hnone, hnone', hopening]
          apply (ih hbound' _ _ hleft').bind
          intro member rest left hleft
          exact ih hbound' _ _ hleft
        · simp only [hsome, hsome']
          exact .bind_left fun set => ih hbound' _ _ hrest'
      case h_3 rest =>
        obtain ⟨left, rfl, hrest⟩ := hskip.cons
        exact .bind_left fun set => .ok ⟨rfl, hrest⟩
      -- the three operators of classes are written with two characters
      case h_4 rest =>
        obtain ⟨left, rfl, hsecond⟩ := hskip.cons
        obtain ⟨left, rfl, hrest⟩ := hsecond.cons
        exact ih hbound' _ _ hrest
      case h_5 rest =>
        obtain ⟨left, rfl, hsecond⟩ := hskip.cons
        obtain ⟨left, rfl, hrest⟩ := hsecond.cons
        exact ih hbound' _ _ hrest
      case h_6 rest =>
        obtain ⟨left, rfl, hsecond⟩ := hskip.cons
        obtain ⟨left, rfl, hrest⟩ := hsecond.cons
        exact ih hbound' _ _ hrest
      -- No sign was found in the pattern by itself, and so there is none in the other text.
      case h_7 hnil hopen hclose hboth hwithout honeOf =>
        split
        case h_1 => exact absurd rfl (hskip.ne_nil hnil)
        case h_2 => exact absurd rfl (hskip.ne_cons (by decide) hopen _)
        case h_3 => exact absurd rfl (hskip.ne_cons (by decide) hclose _)
        case h_4 => exact absurd rfl (hskip.ne_cons_cons (by decide) (by decide) hboth _)
        case h_5 => exact absurd rfl (hskip.ne_cons_cons (by decide) (by decide) hwithout _)
        case h_6 => exact absurd rfl (hskip.ne_cons_cons (by decide) (by decide) honeOf _)
        case h_7 =>
          apply (sameRead_readRange hline hskip).bind
          intro member rest left hleft
          exact ih hbound' _ _ hleft

theorem sameRead_readClass (hline : '\n' ∉ more) (hcolon : ':' ∉ more)
    (hleft : InGroup more pattern left) :
    SameRead more (readClass modes pattern) (readClass modes left) := by
  obtain ⟨left', hopening, hleft'⟩ := readOpening_inGroup hline modes hleft
  unfold readClass
  rw [hopening]
  exact sameRead_readClassRest hline hcolon (Nat.succ_le_succ hleft.length_le) _ _ hleft'

end Transliteration.Regex
