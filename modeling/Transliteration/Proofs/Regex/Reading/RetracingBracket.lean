import Transliteration.Proofs.Regex.Reading.Retracing

/-!
# Classes read back to a pattern by itself

A class that is closed before the end of the group is read the same without the group
(`retraces_readClass`).  The end of the group can be a member of a class, but then the class is
closed after it or not at all.
-/

namespace Transliteration.Regex

variable {more : List Char} {modes : Modes} {pattern rest text : List Char} {c : Char}

/-! ## Members -/

theorem readMember_of_append_end (hline : '\n' ∉ more) {atom : Atom}
    (hread : readMember modes (pattern ++ ')' :: more) = .ok (atom, rest ++ ')' :: more)) :
    readMember modes pattern = .ok (atom, rest) ∨ Dangling modes atom rest := by
  cases pattern with
  | nil =>
      exact absurd ((List.suffix_append _ _).trans (leaves_readMember _ hread)) not_suffix_more
  | cons c pattern =>
      rw [List.cons_append] at hread
      by_cases hc : c = '\\'
      · subst hc
        exact readEscape_of_append_end hline hread
      · rw [readMember_of_ne hc, Except.ok.injEq, Prod.mk.injEq] at hread
        obtain ⟨rfl, heq⟩ := hread
        obtain rfl := append_end_inj heq
        exact .inl (readMember_of_ne hc)

theorem retraces_single (atom : Atom) :
    Retraces more Prod.snd (SameRest more) (readRange.single modes atom rest)
      (readRange.single modes atom (rest ++ ')' :: more)) := by
  cases atom with
  | char c =>
      simp only [readRange.single]
      cases memberChar modes c with
      | error fault => exact .error fault
      | ok c => exact .ok ⟨rfl, rfl⟩
  | set set => exact .ok ⟨rfl, rfl⟩
  | look condition => exact .error _

theorem single_eq_ok {atom : Atom} {member : Leveled}
    (hread : readRange.single modes atom pattern = .ok (member, rest)) : rest = pattern := by
  cases atom with
  | char c =>
      simp only [readRange.single] at hread
      cases hchar : memberChar modes c with
      | error fault =>
          rw [hchar] at hread
          cases hread
      | ok c =>
          rw [hchar] at hread
          cases hread
          rfl
  | set set =>
      cases hread
      rfl
  | look condition => cases hread

theorem retraces_rangeBetween (first last : Atom) :
    Retraces more Prod.snd (SameRest more) (rangeBetween modes rest first last)
      (rangeBetween modes (rest ++ ')' :: more) first last) := by
  unfold rangeBetween
  split
  · exact .bind_left fun a => .bind_left fun b => .ite (.ok ⟨rfl, rfl⟩) (.error _)
  · exact .error _

theorem rangeBetween_look {first : Atom} {condition : Look} {read : Leveled × List Char} :
    rangeBetween modes rest first (.look condition) ≠ .ok read := by
  cases first <;> exact nofun

/-- Only characters and sets are members. -/
theorem afterMember_look {condition : Look} {read : Leveled × List Char} :
    afterMember modes (.look condition) pattern ≠ .ok read := by
  unfold afterMember
  intro hread
  split at hread
  · cases hread
  · split at hread
    · cases hread
    · split at hread
      · cases hread
      · next more hmore =>
        cases hlast : readMember modes (skip modes _) with
        | error fault =>
            rw [hlast] at hread
            cases hread
        | ok last =>
            rw [hlast] at hread
            cases hread
  · cases hread

theorem afterMember_of_ne {first : Atom} (hhyphen : c ≠ '-')
    (hskip : skip modes pattern = c :: rest) :
    afterMember modes first pattern = readRange.single modes first (c :: rest) := by
  rw [afterMember, hskip]
  split
  case h_1 heq => cases heq
  case h_2 heq => exact absurd (List.cons.inj heq).1 hhyphen
  case h_3 => rfl

theorem rangeBetween_of_append_end (hline : '\n' ∉ more) {first : Atom} {member : Leveled}
    (hread : (readMember modes (pattern ++ ')' :: more) >>= fun (last, rest) =>
      rangeBetween modes rest first last) = .ok (member, rest ++ ')' :: more)) :
    (readMember modes pattern >>= fun (last, rest) => rangeBetween modes rest first last) =
      .ok (member, rest) := by
  cases hlast : readMember modes (pattern ++ ')' :: more) with
  | error fault =>
      rw [hlast] at hread
      cases hread
  | ok value =>
      obtain ⟨last, after⟩ := value
      rw [hlast] at hread
      have hbetween :
          rangeBetween modes after first last = .ok (member, rest ++ ')' :: more) := hread
      have hsuffix : rest ++ ')' :: more <:+ after := leaves_rangeBetween first last _ hbetween
      obtain ⟨after, rfl⟩ := (List.suffix_append rest _).trans hsuffix
      have halone := (retraces_rangeBetween first last).of_append_end hbetween
      rcases readMember_of_append_end hline hlast with hmember | hdangling
      · rw [hmember]
        exact halone
      · obtain ⟨condition, rfl⟩ := hdangling.isLook
        exact absurd halone rangeBetween_look

/-- A member is read the same unless it stops right at the end of the group, where the pattern by
itself ends within the class. -/
theorem afterMember_of_append_end (hline : '\n' ∉ more) {first : Atom} {member : Leveled}
    (hrest : rest ≠ [])
    (hread : afterMember modes first (pattern ++ ')' :: more) = .ok (member, rest ++ ')' :: more)) :
    afterMember modes first pattern = .ok (member, rest) := by
  rcases skip_append_end hline modes pattern with hskip | hnil
  · cases hpattern : skip modes pattern with
    | nil =>
        rw [hpattern, List.nil_append] at hskip
        -- the member stops right at the end of the group, which `hrest` excludes
        rw [afterMember_of_ne (by decide) hskip] at hread
        exact absurd (@append_end_inj more rest [] (single_eq_ok hread)) hrest
    | cons c pattern' =>
        rw [hpattern, List.cons_append] at hskip
        by_cases hc : c = '-'
        · subst hc
          simp only [afterMember, hskip, peek_eq_bracket_or_hyphen (InGroup.next pattern')] at hread
          simp only [afterMember, hpattern]
          split at hread
          · next hpeek =>
            rw [if_pos hpeek]
            exact (retraces_single first).of_append_end hread
          · next hpeek =>
            rw [if_neg hpeek]
            rcases skip_append_end hline modes pattern' with hskip' | hnil'
            · cases hpattern' : skip modes pattern' with
              | nil =>
                  rw [hpattern', List.nil_append] at hskip'
                  simp only [hskip'] at hread
                  -- A range up to the parenthesis has been read past the end of the group.
                  have hleaves : Leaves Prod.snd more (readMember modes (')' :: more) >>=
                      fun (last, rest) => rangeBetween modes rest first last) :=
                    leaves_readMember.bind fun (last, _) => leaves_rangeBetween first last
                  exact absurd ((List.suffix_append _ _).trans (hleaves _ hread)) not_suffix_more
              | cons d text =>
                  rw [hpattern', List.cons_append] at hskip'
                  simp only [hskip', ← List.cons_append] at hread
                  exact rangeBetween_of_append_end hline hread
            · simp only [hnil'] at hread
              cases hread
        · rw [afterMember_of_ne hc hskip] at hread
          rw [afterMember_of_ne hc hpattern]
          exact (retraces_single first).of_append_end hread
  · simp only [afterMember, hnil] at hread
    cases hread

theorem readRange_of_append_end (hline : '\n' ∉ more) {member : Leveled} (hrest : rest ≠ [])
    (hread : readRange modes (pattern ++ ')' :: more) = .ok (member, rest ++ ')' :: more)) :
    readRange modes pattern = .ok (member, rest) := by
  rw [readRange_eq] at hread ⊢
  cases hfirst : readMember modes (pattern ++ ')' :: more) with
  | error fault =>
      rw [hfirst] at hread
      cases hread
  | ok value =>
      obtain ⟨first, after⟩ := value
      rw [hfirst] at hread
      have hafter : afterMember modes first after = .ok (member, rest ++ ')' :: more) := hread
      have hsuffix : rest ++ ')' :: more <:+ after := leaves_afterMember first _ hafter
      obtain ⟨after, rfl⟩ := (List.suffix_append rest _).trans hsuffix
      rcases readMember_of_append_end hline hfirst with hmember | hdangling
      · rw [hmember]
        exact afterMember_of_append_end hline hrest hafter
      · obtain ⟨condition, rfl⟩ := hdangling.isLook
        exact absurd hafter afterMember_look

theorem leaves_readClassRest_nil (bound : Nat) (negated : Bool) (soFar : ClassSoFar) :
    Leaves Prod.snd [] (readClassRest modes bound negated [] soFar) :=
  (leaves_readClassRest bound negated soFar).mono
    ((List.tail_suffix _).trans (skip_suffix modes []))

theorem skip_end (modes : Modes) : skip modes (')' :: more) = ')' :: more := by
  simp [skip, dropBlanks, isBlank_paren]

/-- The end of the group is a member of a class that goes on so far. -/
theorem leaves_readClassRest_end (bound : Nat) (negated : Bool) (soFar : ClassSoFar) :
    Leaves Prod.snd more (readClassRest modes bound negated (')' :: more) soFar) := by
  have hleaves := @leaves_readClassRest modes (')' :: more) bound negated soFar
  rwa [skip_end, List.tail_cons] at hleaves

theorem retraces_readClassRest (hline : '\n' ∉ more) (hcolon : ':' ∉ more) {bound bound' : Nat}
    (hbound : pattern.length < bound) (negated : Bool) (soFar : ClassSoFar) :
    Retraces more Prod.snd (SameRest more) (readClassRest modes bound negated pattern soFar)
      (readClassRest modes bound' negated (pattern ++ ')' :: more) soFar) := by
  induction bound' generalizing bound negated soFar pattern with
  | zero => exact .error _
  | succ bound' ih =>
      obtain ⟨bound, rfl⟩ : ∃ b, bound = b + 1 := ⟨bound - 1, by omega⟩
      have honward : ∀ {negated rest left soFar}, InGroup more rest left →
          rest.length < pattern.length →
          Retraces more Prod.snd (SameRest more) (readClassRest modes bound negated rest soFar)
            (readClassRest modes bound' negated left soFar) := by
        intro negated rest left soFar hleft hrest
        cases hleft with
        | next => exact ih (by omega) _ _
        | swallowed => exact .past (leaves_readClassRest_nil _ _ _) not_suffix_nil
      have hleaves :=
        @leaves_readClassRest modes (pattern ++ ')' :: more) (bound' + 1) negated soFar
      rcases skip_append_end hline modes pattern with hskip | hnil
      · have hle := length_skip_le modes pattern
        rw [hskip] at hleaves
        simp only [readClassRest, hskip] at hleaves ⊢
        generalize skip modes pattern = text at hleaves hle ⊢
        have htext : InGroup more text (text ++ ')' :: more) := .next text
        split
        case h_1 =>
          -- the end of the group would be a member of the class
          exact .past hleaves not_suffix_more
        case h_2 rest =>
          rw [List.length_cons] at hle
          simp only [List.cons_append]
          rcases readColonClass?_inGroup hcolon (.next rest) with
            ⟨hnone, hnone'⟩ | ⟨inner, set, after, left, hsome, hsome', hafter⟩
          · obtain ⟨left, hopening, hleft⟩ := readOpening_inGroup hline modes (.next rest)
            have hopened := (@readOpening_suffix modes rest).length_le
            simp only [hnone, hnone', hopening]
            refine (honward hleft (by omega)).bind_rest ?_ ?_
            · exact fun member after => (leaves_readClassRest _ _ _).mono
                ((List.tail_suffix _).trans (skip_suffix modes after))
            · intro member after halone
              have hafter := length_le_of_readClassRest halone
              have hlength : after.length < pattern.length := by omega
              exact honward (.next after) hlength
          · have hlength := (readColonClass?_suffix hsome).length_le
            simp only [hsome, hsome']
            exact .bind_left fun set => honward hafter (by omega)
        case h_3 rest => exact .bind_left fun set => .ok ⟨rfl, rfl⟩
        case h_4 rest =>
          simp only [List.length_cons] at hle
          exact honward (.next rest) (by omega)
        case h_5 rest =>
          simp only [List.length_cons] at hle
          exact honward (.next rest) (by omega)
        case h_6 rest =>
          simp only [List.length_cons] at hle
          exact honward (.next rest) (by omega)
        case h_7 hnil hopen hclose hboth hwithout honeOf =>
          split
          case h_1 heq => exact absurd heq (htext.ne_nil hnil)
          case h_2 heq => exact absurd heq (htext.ne_cons (by decide) hopen _)
          case h_3 heq => exact absurd heq (htext.ne_cons (by decide) hclose _)
          case h_4 heq => exact absurd heq (htext.ne_cons_cons (by decide) (by decide) hboth _)
          case h_5 heq => exact absurd heq (htext.ne_cons_cons (by decide) (by decide) hwithout _)
          case h_6 heq => exact absurd heq (htext.ne_cons_cons (by decide) (by decide) honeOf _)
          case h_7 =>
            refine .bind_within (fun member after => ?_) fun member rest hrange => ?_
            · exact (leaves_readClassRest _ _ _).mono
                ((List.tail_suffix _).trans (skip_suffix modes after))
            by_cases hrest : rest = []
            · subst hrest
              exact .past (leaves_readClassRest_end _ _ _) not_suffix_more
            · have halone := readRange_of_append_end hline hrest hrange
              have hlength := (leaves_readRange _ halone).length_le
              have hpositive := List.length_pos_iff.mpr hnil
              rw [List.length_tail] at hlength
              have hshort : rest.length < pattern.length := by
                simp only at hlength
                omega
              rw [halone]
              exact honward (.next rest) hshort
      · simp only [readClassRest, hnil]
        exact .error _

theorem retraces_readClass (hline : '\n' ∉ more) (hcolon : ':' ∉ more) :
    Retraces more Prod.snd (SameRest more) (readClass modes pattern)
      (readClass modes (pattern ++ ')' :: more)) := by
  obtain ⟨left, hopening, hleft⟩ := readOpening_inGroup hline modes (@InGroup.next more pattern)
  have hlength := (@readOpening_suffix modes pattern).length_le
  unfold readClass
  rw [hopening]
  generalize readOpening modes pattern = opening at hleft hlength ⊢
  obtain ⟨negated, rest, opened⟩ := opening
  simp only at hleft hlength ⊢
  cases hleft with
  | next => exact retraces_readClassRest hline hcolon (Nat.lt_succ_of_le hlength) _ _
  | swallowed => exact .past (leaves_readClassRest_nil _ _ _) not_suffix_nil

end Transliteration.Regex
