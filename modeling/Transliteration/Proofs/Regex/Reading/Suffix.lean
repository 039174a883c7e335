import Transliteration.Regex.Reader

/-!
# What readers leave

A reader takes something from the front of a text, and what it leaves is an end of the text.
`Leaves` says this of the answer of a reader.  It is put together along the clauses of the reader by
the lemmas here, in the order in which the readers call each other, up to `leaves_readGroup`.

Where a reader is sure to take the first character, what it leaves is an end of the text after it.
-/

namespace Transliteration.Regex

/-- If the reader has read something, what it leaves is an end of the text. -/
def Leaves {α : Type} (left : α → List Char) (text : List Char) (read : Except Fault α) : Prop :=
  ∀ value, read = .ok value → left value <:+ text

namespace Leaves

variable {α β : Type} {left : α → List Char} {left' : β → List Char} {text : List Char}
  {read : Except Fault α}

theorem error (fault : Fault) : Leaves left text (.error fault) := by
  rintro value ⟨⟩

theorem ok {value : α} (hsuffix : left value <:+ text) : Leaves left text (.ok value) := by
  rintro _ ⟨⟩
  exact hsuffix

theorem mono {other : List Char} (hread : Leaves left text read) (hsuffix : text <:+ other) :
    Leaves left other read :=
  fun value hvalue => (hread value hvalue).trans hsuffix

theorem bind {next : α → Except Fault β} (hread : Leaves left text read)
    (hnext : ∀ value, Leaves left' (left value) (next value)) :
    Leaves left' text (read >>= next) := by
  intro last hlast
  cases hvalue : read with
  | error fault =>
      rw [hvalue] at hlast
      cases hlast
  | ok value =>
      rw [hvalue] at hlast
      exact (hnext value last hlast).trans (hread value hvalue)

theorem map {f : α → β} (hread : Leaves left text read)
    (hsame : ∀ value, left' (f value) = left value) : Leaves left' text (read.map f) := by
  intro last hlast
  cases hvalue : read with
  | error fault =>
      rw [hvalue] at hlast
      cases hlast
  | ok value =>
      rw [hvalue] at hlast
      cases hlast
      rw [hsame]
      exact hread value hvalue

/-- A step that reads nothing. -/
theorem bind_left {γ : Type} {step : Except Fault γ} {next : γ → Except Fault α}
    (hnext : ∀ value, Leaves left text (next value)) : Leaves left text (step >>= next) := by
  cases step with
  | error fault => exact error fault
  | ok value => exact hnext value

theorem ite {condition : Prop} [Decidable condition] {yes no : Except Fault α}
    (hyes : Leaves left text yes) (hno : Leaves left text no) :
    Leaves left text (if condition then yes else no) := by
  split
  · exact hyes
  · exact hno

end Leaves

variable {modes : Modes} {pattern rest text : List Char} {c : Char}

/-! ## White space, braces and digits -/

theorem dropBlanks_suffix (inComment : Bool) (pattern : List Char) :
    dropBlanks inComment pattern <:+ pattern := by
  induction pattern generalizing inComment with
  | nil => exact List.suffix_refl _
  | cons c rest ih =>
      unfold dropBlanks
      split
      · exact (ih _).trans (List.suffix_cons c rest)
      · split
        · exact (ih _).trans (List.suffix_cons c rest)
        · split
          · exact (ih _).trans (List.suffix_cons c rest)
          · exact List.suffix_refl _

theorem skip_suffix (modes : Modes) (pattern : List Char) : skip modes pattern <:+ pattern := by
  unfold skip
  split
  · exact dropBlanks_suffix false pattern
  · exact List.suffix_refl _

/-- What comes after the first part of a text comes after its first character. -/
theorem suffix_tail_of_skip (hskip : skip modes pattern = c :: rest) : rest <:+ pattern.tail := by
  have hsuffix := skip_suffix modes pattern
  rw [hskip] at hsuffix
  cases pattern with
  | nil => cases List.suffix_nil.mp hsuffix
  | cons d pattern =>
      rcases List.suffix_cons_iff.mp hsuffix with heq | hsuffix
      · rw [(List.cons.inj heq).2]
        exact List.suffix_refl _
      · exact (List.suffix_cons c rest).trans hsuffix

theorem suffix_of_skip (hskip : skip modes pattern = c :: rest) : rest <:+ pattern :=
  (suffix_tail_of_skip hskip).trans (List.tail_suffix pattern)

theorem readBraced_suffix {bound : Nat}
    (hread : readBraced modes bound pattern = some (text, rest)) :
    rest <:+ pattern := by
  induction bound generalizing pattern text with
  | zero => cases hread
  | succ bound ih =>
      rw [readBraced] at hread
      split at hread
      · cases hread
      · next hskip =>
        cases hread
        exact suffix_of_skip hskip
      · next hskip =>
        rw [Option.map_eq_some_iff] at hread
        obtain ⟨⟨text, rest⟩, hread, heq⟩ := hread
        cases heq
        exact (ih hread).trans (suffix_of_skip hskip)

theorem readHexDigits_suffix {count : Nat}
    (hread : readHexDigits modes count pattern = some (text, rest)) : rest <:+ pattern := by
  induction count generalizing pattern text with
  | zero =>
      cases hread
      exact List.suffix_refl _
  | succ count ih =>
      cases pattern with
      | nil => cases hread
      | cons c pattern =>
          rw [readHexDigits, Option.map_eq_some_iff] at hread
          obtain ⟨⟨text, rest⟩, hread, heq⟩ := hread
          cases heq
          exact ((ih hread).trans (skip_suffix modes pattern)).trans (List.suffix_cons c pattern)

/-! ## Escape sequences -/

theorem leaves_readHex (letter : Char) (count : Nat) :
    Leaves Prod.snd pattern (readHex modes letter count pattern) := by
  unfold readHex
  split
  · next rest hskip =>
    split
    · exact .error _
    · next digits after hbraced =>
      split
      · exact .error _
      · refine .ok ((skip_suffix modes after).trans ?_)
        exact (readBraced_suffix hbraced).trans (suffix_of_skip hskip)
  · split
    · exact .error _
    · next digits after hdigits =>
      split
      · exact .error _
      · refine .ite (.error _) (.ok ?_)
        exact (readHexDigits_suffix hdigits).trans (skip_suffix modes pattern)

theorem leaves_readDescription : Leaves Prod.snd pattern (readDescription modes pattern) := by
  unfold readDescription
  split
  · exact .error _
  · next rest hskip =>
    split
    · exact .error _
    · next described hbraced =>
      exact .ok ((readBraced_suffix hbraced).trans (suffix_of_skip hskip))
  · exact .error _
  · next c rest _ _ hskip =>
    exact .ok ((skip_suffix modes rest).trans (suffix_of_skip hskip))

theorem leaves_readProperty (negated : Bool) :
    Leaves Prod.snd pattern (readProperty modes negated pattern) := by
  unfold readProperty
  refine leaves_readDescription.bind fun described => .bind_left fun set => .ok ?_
  exact List.suffix_refl _

theorem leaves_readBoundary : Leaves Prod.snd pattern (readBoundary modes pattern) := by
  unfold readBoundary
  split
  · next rest =>
    split
    · exact .error _
    · next c more hskip =>
      refine .ite ?_ (.ok (List.suffix_refl _))
      split
      · exact .error _
      · next name after hbraced =>
        split
        · exact .error _
        · refine .ok ((readBraced_suffix hbraced).trans ?_)
          rw [← hskip]
          exact (skip_suffix modes rest).trans (List.suffix_cons _ _)
  · exact .ok (List.suffix_refl _)

theorem leaves_readEscape : Leaves Prod.snd pattern.tail (readEscape modes pattern) := by
  unfold readEscape
  split
  · exact .error _
  · exact leaves_readHex 'x' 2
  · exact leaves_readHex 'u' 4
  · exact leaves_readHex 'U' 8
  · exact leaves_readProperty false
  · exact leaves_readProperty true
  · exact leaves_readBoundary
  · refine .ite (.ok (List.suffix_refl _)) ?_
    split
    · exact .ok (List.suffix_refl _)
    · split
      · exact .ok (List.suffix_refl _)
      · split
        · exact .bind_left fun set => .ok (List.suffix_refl _)
        · exact .error _

/-! ## Classes -/

theorem leaves_readMember : Leaves Prod.snd pattern.tail (readMember modes pattern) := by
  unfold readMember
  split
  · exact .error _
  · exact leaves_readEscape.mono (List.tail_suffix _)
  · exact .ok (List.suffix_refl _)

theorem leaves_single (atom : Atom) :
    Leaves Prod.snd pattern (readRange.single modes atom pattern) := by
  unfold readRange.single
  split
  · next c =>
    cases memberChar modes c with
    | error fault => exact .error fault
    | ok c => exact .ok (List.suffix_refl _)
  · exact .ok (List.suffix_refl _)
  · exact .error _

/-- The range between two members. -/
def rangeBetween (modes : Modes) (rest : List Char) :
    Atom → Atom → Except Fault (Leveled × List Char)
  | .char a, .char b =>
    memberChar modes a >>= fun a => memberChar modes b >>= fun b =>
      if a ≤ b then .ok (⟨.ofRange a.toNat b.toNat, 0⟩, rest) else .error .badClassRange
  | _, _ => .error .badClassRange

/-- What comes after a member of a class: perhaps a hyphen and the other end of a range. -/
def afterMember (modes : Modes) (first : Atom) (rest : List Char) :
    Except Fault (Leveled × List Char) :=
  match skip modes rest with
  | [] => .error .unclosedClass
  | '-' :: more =>
    if peek modes more == some ']' || peek modes more == some '-' then
      readRange.single modes first ('-' :: more)
    else
      match skip modes more with
      | [] => .error .unclosedClass
      | more => readMember modes more >>= fun (last, rest) => rangeBetween modes rest first last
  | rest => readRange.single modes first rest

theorem readRange_eq : readRange modes pattern =
    readMember modes pattern >>= fun (first, rest) => afterMember modes first rest := rfl

theorem leaves_rangeBetween (first last : Atom) :
    Leaves Prod.snd rest (rangeBetween modes rest first last) := by
  unfold rangeBetween
  split
  · exact .bind_left fun a => .bind_left fun b => .ite (.ok (List.suffix_refl _)) (.error _)
  · exact .error _

theorem leaves_afterMember (first : Atom) :
    Leaves Prod.snd rest (afterMember modes first rest) := by
  unfold afterMember
  split
  · exact .error _
  · next more hskip =>
    have hsuffix : more <:+ rest := suffix_of_skip hskip
    refine .ite ?_ ?_
    · refine (leaves_single first).mono ?_
      rw [← hskip]
      exact skip_suffix modes rest
    · split
      · exact .error _
      · refine (leaves_readMember.mono ((List.tail_suffix _).trans
          ((skip_suffix modes more).trans hsuffix))).bind ?_
        exact fun (last, after) => leaves_rangeBetween first last
  · exact (leaves_single first).mono (skip_suffix modes rest)

theorem leaves_readRange : Leaves Prod.snd pattern.tail (readRange modes pattern) := by
  rw [readRange_eq]
  exact leaves_readMember.bind fun (first, rest) => leaves_afterMember first

theorem readHyphens_suffix (bound : Nat) (soFar : ClassSoFar) :
    (readHyphens modes bound pattern soFar).1 <:+ pattern := by
  fun_induction readHyphens modes bound pattern soFar with
  | case1 pattern soFar => exact List.suffix_refl _
  | case2 bound rest soFar ih =>
      exact ih.trans ((skip_suffix modes rest).trans (List.suffix_cons _ _))
  | case3 bound pattern soFar => exact List.suffix_refl _

theorem readCaret_suffix : (readCaret modes pattern).2 <:+ pattern := by
  unfold readCaret
  split
  · next rest => exact (skip_suffix modes rest).trans (List.suffix_cons _ _)
  · exact List.suffix_refl _

theorem readFirstBracket_suffix (soFar : ClassSoFar) :
    (readFirstBracket modes pattern soFar).1 <:+ pattern := by
  fun_cases readFirstBracket modes pattern soFar with
  | case1 rest => exact (skip_suffix modes rest).trans (List.suffix_cons _ _)
  | case2 rest => exact List.suffix_refl _
  | case3 => exact List.suffix_refl _

theorem readOpening_suffix : (readOpening modes pattern).2.1 <:+ pattern :=
  (readFirstBracket_suffix _).trans <| (readHyphens_suffix _ _).trans <|
    readCaret_suffix.trans (skip_suffix modes pattern)

theorem readColonClass?_suffix {negated : Bool} {set : CharSet}
    (hread : readColonClass? pattern = some (negated, set, rest)) : rest <:+ pattern := by
  have hnamed : ∀ {named text}, readColonClass?.named named text = some (negated, set, rest) →
      rest <:+ text := by
    intro named text hread
    unfold readColonClass?.named at hread
    split at hread
    · next after hdrop =>
      rw [Option.map_eq_some_iff] at hread
      obtain ⟨set, -, heq⟩ := hread
      cases heq
      have hsuffix := List.dropWhile_suffix (l := text) (· != ':')
      rw [hdrop] at hsuffix
      exact ((List.suffix_cons _ _).trans (List.suffix_cons _ _)).trans hsuffix
    · cases hread
  unfold readColonClass? at hread
  split at hread
  · exact (hnamed hread).trans ((List.suffix_cons _ _).trans (List.suffix_cons _ _))
  · exact (hnamed hread).trans (List.suffix_cons _ _)
  · cases hread

/-- A class is never closed without a character. -/
theorem leaves_readClassRest (bound : Nat) (negated : Bool) (soFar : ClassSoFar) :
    Leaves Prod.snd (skip modes pattern).tail
      (readClassRest modes bound negated pattern soFar) := by
  induction bound generalizing negated pattern soFar with
  | zero => exact .error _
  | succ bound ih =>
      -- Wherever an inner class ends, the rest of the outer one is read behind it.
      have honward : ∀ {negated rest text soFar}, rest <:+ text →
          Leaves Prod.snd text (readClassRest modes bound negated rest soFar) :=
        fun hrest => (ih _ _).mono ((List.tail_suffix _).trans ((skip_suffix modes _).trans hrest))
      unfold readClassRest
      split
      · exact .error _
      · next rest hskip =>
        rw [hskip, List.tail_cons]
        split
        · next inner set after hcolon =>
          exact .bind_left fun set => honward (readColonClass?_suffix hcolon)
        · refine Leaves.bind (honward readOpening_suffix) ?_
          exact fun (member, after) => honward (List.suffix_refl _)
      · next rest hskip =>
        rw [hskip]
        exact .bind_left fun set => .ok (List.suffix_refl _)
      · next rest hskip =>
        rw [hskip]
        exact honward (List.suffix_cons _ _)
      · next rest hskip =>
        rw [hskip]
        exact honward (List.suffix_cons _ _)
      · next rest hskip =>
        rw [hskip]
        exact honward (List.suffix_cons _ _)
      · exact leaves_readRange.bind fun (member, after) => honward (List.suffix_refl _)

theorem length_le_of_readClassRest {bound : Nat} {negated : Bool} {soFar : ClassSoFar}
    {member : Leveled}
    (hread : readClassRest modes bound negated pattern soFar = .ok (member, rest)) :
    rest.length ≤ pattern.length :=
  (((leaves_readClassRest bound negated soFar _ hread).trans (List.tail_suffix _)).trans
    (skip_suffix modes pattern)).length_le

theorem leaves_readClass : Leaves Prod.snd pattern (readClass modes pattern) :=
  (leaves_readClassRest _ _ _).mono <|
    (List.tail_suffix _).trans ((skip_suffix modes _).trans readOpening_suffix)

/-! ## Repetitions -/

theorem readDigits_suffix (bound : Nat) : (readDigits modes bound pattern).2 <:+ pattern := by
  fun_induction readDigits modes bound pattern with
  | case1 bound c rest hdigit digits after hread ih =>
      rw [hread] at ih
      exact ih.trans ((skip_suffix modes rest).trans (List.suffix_cons _ _))
  | case2 => exact List.suffix_refl _
  | case3 => exact List.suffix_refl _

theorem leaves_readCount : Leaves Prod.snd pattern (readCount modes pattern) := by
  unfold readCount
  refine .ite (.error _) (.ok ?_)
  exact (List.dropWhile_suffix _).trans ((readDigits_suffix _).trans (List.dropWhile_suffix _))

theorem leaves_readCounts : Leaves Prod.snd pattern (readCounts modes pattern) := by
  unfold readCounts
  refine (leaves_readCount.mono (skip_suffix modes pattern)).bind ?_
  rintro ⟨least, rest⟩
  simp only
  split
  · exact .ok (List.suffix_cons _ _)
  · next rest =>
    split
    · next hskip => exact .ok ((suffix_of_skip hskip).trans (List.suffix_cons _ _))
    · refine (leaves_readCount.mono ((skip_suffix modes rest).trans (List.suffix_cons _ _))).bind ?_
      rintro ⟨most, after⟩
      simp only
      split
      · exact .ite (.ok (List.suffix_cons _ _)) (.error _)
      · exact .error _
  · exact .error _

theorem readLazy_suffix : (readLazy pattern).2 <:+ pattern := by
  unfold readLazy
  split
  · exact List.suffix_cons _ _
  · exact List.suffix_refl _

theorem leaves_repeatPart {state : ReaderState} {soFar : GroupSoFar} {least : Nat}
    {most : Option Nat} :
    Leaves (fun value => value.1.rest) pattern (repeatPart state soFar least most pattern) := by
  unfold repeatPart
  exact .bind_left fun soFar => .ok readLazy_suffix

/-! ## Groups -/

theorem leaves_readModes {negated : Bool} {used : List Mode} {signs : Nat} :
    Leaves (fun value => value.2.2) pattern (readModes negated used signs modes pattern) := by
  induction pattern generalizing negated used signs modes with
  | nil => exact .error _
  | cons c rest ih =>
      unfold readModes
      refine .ite (.ok (List.suffix_refl _)) (.ite ?_ ?_)
      · split
        · exact .ite (.error _) (ih.mono (List.suffix_cons _ _))
        · exact .error _
      · split
        · exact .error _
        · exact .ite (.error _) (ih.mono (List.suffix_cons _ _))

theorem leaves_readName {state : ReaderState} :
    Leaves ReaderState.rest (state.rest.dropWhile (· != '>')) (readName state) := by
  unfold readName
  simp only
  split
  · next hdrop _ =>
    refine .ite (.ok ?_) (.error _)
    rw [hdrop]
    exact List.suffix_cons _ _
  · exact .error _

theorem leaves_readModeGroup {state : ReaderState} :
    Leaves (fun value => value.2.rest) pattern (readModeGroup state pattern) := by
  unfold readModeGroup
  refine leaves_readModes.bind ?_
  rintro ⟨modes, signs, rest⟩
  simp only
  split
  · exact .ite (.error _) (.ok (List.suffix_cons _ _))
  · exact .ok (List.drop_suffix 1 _)

theorem leaves_readGroupHead {state : ReaderState} :
    Leaves (fun value => value.2.rest) pattern (readGroupHead state pattern) := by
  have hskip := skip_suffix state.modes pattern
  have hname : ∀ {rest}, rest <:+ pattern → Leaves (fun value => value.2.rest) pattern
      ((readName { state with rest := rest }).map fun state => (GroupHead.captured, state)) :=
    fun hrest => (leaves_readName.mono ((List.dropWhile_suffix _).trans hrest)).map fun _ => rfl
  unfold readGroupHead
  split
  · exact .error _
  · exact .error _
  · exact .error _
  · exact .error _
  · next rest heq =>
    refine hname (.trans ?_ hskip)
    rw [heq]
    exact ((List.suffix_cons _ _).trans (List.suffix_cons _ _)).trans (List.suffix_cons _ _)
  · next rest _ _ heq =>
    refine hname (.trans ?_ hskip)
    rw [heq]
    exact (List.suffix_cons _ _).trans (List.suffix_cons _ _)
  · next heq =>
    refine leaves_readModeGroup.mono (.trans ?_ hskip)
    rw [heq]
    exact List.suffix_cons _ _
  · exact .ok hskip

theorem leaves_readAtom : Leaves Prod.snd rest (readAtom modes c rest) := by
  unfold readAtom
  refine .ite ?_ (.ite ?_ (.ite (.ok (List.suffix_refl _)) (.ite (.ok (List.suffix_refl _))
    (.ok (List.suffix_refl _)))))
  · exact (leaves_readEscape.mono (List.tail_suffix _)).map fun _ => rfl
  · exact .ite (.ok (List.suffix_refl _)) (.error _)

/-- The rest of a group after the body of one that stands in it. -/
def afterBody (bound : Nat) (state : ReaderState) (soFar : GroupSoFar) (head : GroupHead)
    (body : Piece) (inner : ReaderState) : Except Fault (Piece × ReaderState) :=
  match inner.rest with
  | ')' :: rest =>
    readGroup bound { inner with rest := rest, modes := state.modes }
      (soFar.add {
        expr := if head = .captured then .capture state.groups body.expr else body.expr
        levels := body.levels + 1 })
  | _ => .error .unclosedGroup

/-- The rest of a group after the head of one that stands in it. -/
def afterHead (bound : Nat) (state : ReaderState) (soFar : GroupSoFar) (head : GroupHead)
    (inner : ReaderState) : Except Fault (Piece × ReaderState) :=
  if head = .switch then
    readGroup bound inner (soFar.add { expr := .empty, levels := 0, isSwitch := true })
  else
    readGroup bound { inner with groups := state.groups + 1 } {} >>= fun (body, inner) =>
      afterBody bound state soFar head body inner

theorem readGroup_paren {bound : Nat} {state : ReaderState} {soFar : GroupSoFar}
    (hskip : skip state.modes state.rest = '(' :: rest) :
    readGroup (bound + 1) state soFar =
      readGroupHead state rest >>= fun (head, inner) => afterHead bound state soFar head inner := by
  rw [readGroup, hskip]
  rfl

theorem leaves_afterBody {bound : Nat}
    (hgroup : ∀ state soFar, Leaves (fun value => value.2.rest) state.rest
      (readGroup bound state soFar))
    (state : ReaderState) (soFar : GroupSoFar) (head : GroupHead) (body : Piece)
    (inner : ReaderState) :
    Leaves (fun value => value.2.rest) inner.rest.tail
      (afterBody bound state soFar head body inner) := by
  unfold afterBody
  split
  · next hclose =>
    rw [hclose]
    exact hgroup _ _
  · exact .error _

theorem leaves_afterHead {bound : Nat}
    (hgroup : ∀ state soFar, Leaves (fun value => value.2.rest) state.rest
      (readGroup bound state soFar))
    (state : ReaderState) (soFar : GroupSoFar) (head : GroupHead) (inner : ReaderState) :
    Leaves (fun value => value.2.rest) inner.rest
      (afterHead bound state soFar head inner) := by
  refine .ite (hgroup _ _) ((hgroup _ _).bind fun (body, after) => ?_)
  exact (leaves_afterBody hgroup state soFar head body after).mono (List.tail_suffix _)

theorem leaves_readGroup (bound : Nat) (state : ReaderState) (soFar : GroupSoFar) :
    Leaves (fun value => value.2.rest) state.rest (readGroup bound state soFar) := by
  induction bound generalizing state soFar with
  | zero => exact .error _
  | succ bound ih =>
      have hsuffix := skip_suffix state.modes state.rest
      -- Every sign is followed by the rest of the same group, to which the hypothesis applies.
      have honward : ∀ {other : ReaderState} {soFar}, other.rest <:+ state.rest →
          Leaves (fun value => value.2.rest) state.rest (readGroup bound other soFar) :=
        fun hrest => (ih _ _).mono hrest
      have hrepeat : ∀ {least most rest}, rest <:+ state.rest →
          Leaves (fun value => value.2.rest) state.rest
            (repeatPart state soFar least most rest >>= fun read =>
              readGroup bound read.1 read.2) :=
        fun hrest => (leaves_repeatPart.mono hrest).bind fun read => ih _ _
      unfold readGroup
      split
      · exact .ok List.nil_suffix
      · next rest hskip =>
        rw [hskip] at hsuffix
        exact .ok hsuffix
      · next hskip => exact honward (suffix_of_skip hskip)
      · next rest hskip =>
        exact (leaves_readGroupHead.mono (suffix_of_skip hskip)).bind fun (head, inner) =>
          leaves_afterHead ih state soFar head inner
      · next rest hskip =>
        refine (leaves_readClass.mono (suffix_of_skip hskip)).bind ?_
        rintro ⟨member, after⟩
        exact ih _ _
      · next hskip => exact hrepeat (suffix_of_skip hskip)
      · next hskip => exact hrepeat (suffix_of_skip hskip)
      · next hskip => exact hrepeat (suffix_of_skip hskip)
      · next rest hskip =>
        refine (leaves_readCounts.mono (suffix_of_skip hskip)).bind ?_
        rintro ⟨⟨least, most⟩, after⟩
        exact (leaves_repeatPart.mono (skip_suffix state.modes after)).bind fun read => ih _ _
      · next c rest _ _ _ _ _ _ _ _ hskip =>
        refine (leaves_readAtom.mono (suffix_of_skip hskip)).bind ?_
        rintro ⟨expr, after⟩
        exact ih _ _

end Transliteration.Regex
