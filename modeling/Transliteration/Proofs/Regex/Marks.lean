import Mathlib.Order.Monotone.Defs
import Transliteration.Proofs.Regex.Nodes

/-!
# Choices passed over

A choice that the matcher has made at a place is marked and passed over there from then on, also
while it is still being tried.

* `Node.Fails` says that the marks and what comes after leave the node no way on from a place.
* `Node.Settled` says that a mark is rightly passed over: whatever the choice leads to fails.

A mark may well be settled by way of itself, as the mark of a loop whose body has matched nothing.
Still, once all marks are settled, a node that fails matches only up to where what comes after fails
too (`Node.dead_of_matches`): a match has finitely many rounds, so that one of them would have to
leave the marks first.
-/

namespace Transliteration.Regex

/-- The place of a text after so many characters. -/
def place (text : List Char) (i : Nat) : Cursor := ⟨i, previous text i, text.drop i⟩

/-- Which choices have been made at which places. -/
abbrev Marks := Nat → Nat → Prop

/-! ## Marks as bits -/

namespace Seen
/-- Whether there is a bit for the choice. -/
def Fits (seen : Seen) (id : Nat) : Prop := id / wordSize < seen.width

/-- The choices that have been made. -/
def marks (text : List Char) (seen : Seen) : Marks := fun id i =>
  seen.Fits id ∧ seen.contains id (place text i) = true

theorem width_insert (seen : Seen) (id : Nat) (cursor : Cursor) :
    (seen.insert id cursor).width = seen.width := rfl

theorem marks_unused (text : List Char) (choices id i : Nat) :
    ¬ (unused choices).marks text id i := by
  simp [marks, contains, unused]

/-- A number that is missing counts as zero, so that filling up makes no difference. -/
theorem getD_bits_insert (seen : Seen) (id : Nat) (cursor : Cursor) (word : Nat) :
    (seen.insert id cursor).bits.getD word 0 =
      if word = seen.wordOf id cursor then
        seen.bits.getD word 0 ||| 1 <<< (id % wordSize)
      else seen.bits.getD word 0 := by
  have hfilled : ∀ missing,
      ((seen.bits ++ Array.replicate missing 0)[word]?).getD 0 = seen.bits[word]?.getD 0 := by
    intro missing
    by_cases hword : word < seen.bits.size
    · rw [Array.getElem?_append_left hword]
    · rw [Array.getElem?_append_right (Nat.le_of_not_lt hword), Array.getElem?_replicate,
        Array.getElem?_eq_none (Nat.le_of_not_lt hword)]
      split <;> rfl
  simp only [insert, Array.getD_eq_getD_getElem?, Array.getElem?_modify]
  by_cases hword : word = seen.wordOf id cursor
  · have hlt : word < (seen.bits ++
        Array.replicate (seen.wordOf id cursor + 1 - seen.bits.size) 0).size := by
      rw [Array.size_append, Array.size_replicate]
      omega
    rw [if_pos hword.symm, if_pos hword, ← hfilled, Array.getElem?_eq_getElem hlt]
    rfl
  · rw [if_neg (Ne.symm hword), if_neg hword, hfilled]

theorem contains_insert (seen : Seen) (id other : Nat) (cursor cursor' : Cursor) :
    (seen.insert id cursor).contains other cursor' = true ↔
      (seen.wordOf other cursor' = seen.wordOf id cursor ∧ other % wordSize = id % wordSize) ∨
        seen.contains other cursor' = true := by
  have hword : (seen.insert id cursor).wordOf other cursor' = seen.wordOf other cursor' := rfl
  unfold contains
  rw [hword, getD_bits_insert]
  by_cases hsame : seen.wordOf other cursor' = seen.wordOf id cursor
  · rw [hsame, if_pos rfl, Nat.testBit_or, Nat.one_shiftLeft, Nat.testBit_two_pow, Bool.or_eq_true,
      decide_eq_true_iff, or_comm, eq_comm]
    simp
  · simp [hsame]

theorem wordOf_inj {seen : Seen} {id other : Nat} {cursor cursor' : Cursor} (hid : seen.Fits id)
    (hother : seen.Fits other) (hword : seen.wordOf other cursor' = seen.wordOf id cursor) :
    cursor'.index = cursor.index ∧ other / wordSize = id / wordSize := by
  unfold wordOf at hword
  -- the place and the block of choices are quotient and remainder of the number of the word
  have hpos : 0 < seen.width := Nat.lt_of_le_of_lt (Nat.zero_le _) hid
  have hdiv := congrArg (· / seen.width) hword
  have hmod := congrArg (· % seen.width) hword
  simp only [Nat.mul_comm _ seen.width, Nat.mul_add_div hpos, Nat.mul_add_mod,
    Nat.div_eq_of_lt hid, Nat.div_eq_of_lt hother, Nat.mod_eq_of_lt hid,
    Nat.mod_eq_of_lt hother] at hdiv hmod
  exact ⟨hdiv, hmod⟩

variable {text : List Char} {seen : Seen} {id : Nat}

theorem marks_insert (hid : seen.Fits id) {i other j : Nat} :
    (seen.insert id (place text i)).marks text other j ↔
      (other = id ∧ j = i) ∨ seen.marks text other j := by
  have hfits : (seen.insert id (place text i)).Fits other ↔ seen.Fits other := Iff.rfl
  unfold marks
  rw [hfits, contains_insert]
  constructor
  · rintro ⟨hother, ⟨hword, hbit⟩ | hold⟩
    · obtain ⟨hplace, hnumber⟩ := wordOf_inj hid hother hword
      left
      refine ⟨?_, hplace⟩
      rw [← Nat.div_add_mod other wordSize, ← Nat.div_add_mod id wordSize, hnumber, hbit]
    · exact .inr ⟨hother, hold⟩
  · rintro (⟨rfl, rfl⟩ | ⟨hother, hold⟩)
    · exact ⟨hid, .inl ⟨rfl, rfl⟩⟩
    · exact ⟨hother, .inr hold⟩

theorem marks_le_insert (hid : seen.Fits id) (i : Nat) :
    seen.marks text ≤ (seen.insert id (place text i)).marks text :=
  fun _ _ h => (marks_insert hid).mpr (.inr h)

theorem Fits.congr {seen' : Seen} (hwidth : seen'.width = seen.width) (hid : seen.Fits id) :
    seen'.Fits id := by
  unfold Fits
  rw [hwidth]
  exact hid

end Seen

/-! ## What fails and what is settled -/

section

variable (text : List Char)

/-- With these marks there is no way on from the place: every choice that the node makes there first
has been made, and where it makes none, what comes after is dead. -/
def Node.Fails (marks : Marks) : Node → (Nat → Prop) → Nat → Prop
  | .seq first second, dead, i => first.Fails marks (second.Fails marks dead) i
  | .choice id _ _, _, i => marks id i
  | .star id _ _, _, i => marks id i
  | .plus id _ body, _, i => body.Fails marks (marks id) i
  | node, dead, i => ∀ j, node.Matches text i j → dead j

/-- With these marks every choice of the node that has the number fails at the place.  At the end of
the text a loop need not try its body, which could only come back. -/
def Node.Settled (marks : Marks) : Node → (Nat → Prop) → Nat → Nat → Prop
  | .seq first second, dead, id, i =>
    first.Settled marks (second.Fails text marks dead) id i ∧ second.Settled marks dead id i
  | .choice id' first second, dead, id, i =>
    (id = id' → first.Fails text marks dead i ∧ second.Fails text marks dead i) ∧
      first.Settled marks dead id i ∧ second.Settled marks dead id i
  | .star id' _ body, dead, id, i =>
    (id = id' → (body.Fails text marks (marks id') i ∨ text.length ≤ i) ∧ dead i) ∧
      body.Settled marks (marks id') id i
  | .plus id' _ body, dead, id, i =>
    (id = id' → (body.Fails text marks (marks id') i ∨ text.length ≤ i) ∧ dead i) ∧
      body.Settled marks (marks id') id i
  | _, _, _, _ => True

end

variable {text : List Char}

namespace Node

theorem Fails.mono {marks marks' : Marks} (hmarks : marks ≤ marks') {node : Node} :
    ∀ {dead dead' : Nat → Prop}, dead ≤ dead' → ∀ i, node.Fails text marks dead i →
      node.Fails text marks' dead' i := by
  induction node with
  | empty => intro dead dead' hdead i hfails j hj; exact hdead j (hfails j hj)
  | look condition => intro dead dead' hdead i hfails j hj; exact hdead j (hfails j hj)
  | one set => intro dead dead' hdead i hfails j hj; exact hdead j (hfails j hj)
  | seq first second ihfirst ihsecond =>
      intro dead dead' hdead i
      exact ihfirst (ihsecond hdead) i
  | choice id first second _ _ => intro dead dead' _ i; exact hmarks id i
  | star id greedy body _ => intro dead dead' _ i; exact hmarks id i
  | plus id greedy body ih => intro dead dead' _ i; exact ih (hmarks id) i

theorem Settled.mono {marks marks' : Marks} (hmarks : marks ≤ marks') {node : Node} {id i : Nat} :
    ∀ {dead dead' : Nat → Prop}, dead ≤ dead' → node.Settled text marks dead id i →
      node.Settled text marks' dead' id i := by
  -- Both kinds of loop ask the same of a round.
  have hloop : ∀ {body : Node} {id' : Nat} {dead dead' : Nat → Prop}, dead ≤ dead' →
      (id = id' → (body.Fails text marks (marks id') i ∨ text.length ≤ i) ∧ dead i) →
      id = id' → (body.Fails text marks' (marks' id') i ∨ text.length ≤ i) ∧ dead' i := by
    intro body id' dead dead' hdead hround hid
    obtain ⟨hbody, hafter⟩ := hround hid
    exact ⟨hbody.imp_left (Fails.mono hmarks (hmarks id') i), hdead i hafter⟩
  induction node with
  | empty => intro dead dead' _ _; trivial
  | look condition => intro dead dead' _ _; trivial
  | one set => intro dead dead' _ _; trivial
  | seq first second ihfirst ihsecond =>
      intro dead dead' hdead hsettled
      exact ⟨ihfirst (Fails.mono hmarks hdead) hsettled.1, ihsecond hdead hsettled.2⟩
  | choice id' first second ihfirst ihsecond =>
      intro dead dead' hdead hsettled
      obtain ⟨hhere, hfirst, hsecond⟩ := hsettled
      refine ⟨fun hid => ?_, ihfirst hdead hfirst, ihsecond hdead hsecond⟩
      exact ⟨Fails.mono hmarks hdead i (hhere hid).1, Fails.mono hmarks hdead i (hhere hid).2⟩
  | star id' greedy body ih =>
      intro dead dead' hdead hsettled
      exact ⟨hloop hdead hsettled.1, ih (hmarks id') hsettled.2⟩
  | plus id' greedy body ih =>
      intro dead dead' hdead hsettled
      exact ⟨hloop hdead hsettled.1, ih (hmarks id') hsettled.2⟩

/-- Of a number that is not its own a node asks nothing. -/
theorem settled_of_not_mem {marks : Marks} {node : Node} {id i : Nat} (hid : id ∉ node.ids) :
    ∀ {dead : Nat → Prop}, node.Settled text marks dead id i := by
  induction node with
  | empty => intro dead; trivial
  | look condition => intro dead; trivial
  | one set => intro dead; trivial
  | seq first second ihfirst ihsecond =>
      intro dead
      simp only [ids, List.mem_append, not_or] at hid
      exact ⟨ihfirst hid.1, ihsecond hid.2⟩
  | choice id' first second ihfirst ihsecond =>
      intro dead
      simp only [ids, List.mem_cons, List.mem_append, not_or] at hid
      exact ⟨fun h => absurd h hid.1, ihfirst hid.2.1, ihsecond hid.2.2⟩
  | star id' greedy body ih =>
      intro dead
      simp only [ids, List.mem_cons, not_or] at hid
      exact ⟨fun h => absurd h hid.1, ih hid.2⟩
  | plus id' greedy body ih =>
      intro dead
      simp only [ids, List.mem_cons, not_or] at hid
      exact ⟨fun h => absurd h hid.1, ih hid.2⟩

/-- The rounds of a loop never leave the places that it has marked, so they end where what comes
after is dead. -/
theorem dead_of_rounds {marks dead : Nat → Prop} {fails : Nat → Prop} {body : Node}
    {count i j : Nat} (hsettled : ∀ k, marks k → (fails k ∨ text.length ≤ k) ∧ dead k)
    (hbody : ∀ k l, k ≤ text.length → fails k → body.Matches text k l → marks l)
    (hi : i ≤ text.length) (hmarks : marks i) (htimes : Times (body.Matches text) count i j) :
    dead j := by
  -- every round ends at a place that the loop has marked
  have hinvariant : marks j ∧ j ≤ text.length := by
    refine htimes.invariant (P := fun k => marks k ∧ k ≤ text.length) ?_ ⟨hmarks, hi⟩
    rintro k l ⟨hk, hlength⟩ hmatch
    have hlength' := le_length_of_matches hmatch hlength
    refine ⟨?_, hlength'⟩
    rcases (hsettled k hk).1 with hfails | hend
    · exact hbody k l hlength hfails hmatch
    · -- a round at the end of the text stays there
      have hle := le_of_matches hmatch
      obtain rfl : k = l := by omega
      exact hk
  exact (hsettled j hinvariant.1).2

/-- Where all marks are settled, a node that fails matches only up to where what comes after is
dead. -/
theorem dead_of_matches {marks : Marks} {node : Node} :
    ∀ {dead : Nat → Prop} {i j : Nat},
      (∀ id k, marks id k → node.Settled text marks dead id k) → i ≤ text.length →
      node.Fails text marks dead i → node.Matches text i j → dead j := by
  induction node with
  | empty => intro dead i j _ _ hfails hmatch; exact hfails j hmatch
  | look condition => intro dead i j _ _ hfails hmatch; exact hfails j hmatch
  | one set => intro dead i j _ _ hfails hmatch; exact hfails j hmatch
  | seq first second ihfirst ihsecond =>
      intro dead i j hsettled hi hfails hmatch
      obtain ⟨k, hfirst, hsecond⟩ := hmatch
      have hk : second.Fails text marks dead k :=
        ihfirst (fun id l h => (hsettled id l h).1) hi hfails hfirst
      exact ihsecond (fun id l h => (hsettled id l h).2) (le_length_of_matches hfirst hi) hk hsecond
  | choice id first second ihfirst ihsecond =>
      intro dead i j hsettled hi hfails hmatch
      obtain ⟨hleft, hright⟩ := (hsettled id i hfails).1 rfl
      rcases hmatch with hmatch | hmatch
      · exact ihfirst (fun id l h => (hsettled id l h).2.1) hi hleft hmatch
      · exact ihsecond (fun id l h => (hsettled id l h).2.2) hi hright hmatch
  | star id greedy body ih =>
      intro dead i j hsettled hi hfails hmatch
      obtain ⟨count, htimes⟩ := hmatch
      refine dead_of_rounds (fun k h => (hsettled id k h).1 rfl) ?_ hi hfails htimes
      intro k l hk hbody
      exact ih (fun id k h => (hsettled id k h).2) hk hbody
  | plus id greedy body ih =>
      intro dead i j hsettled hi hfails hmatch
      obtain ⟨count, k, hfirst, htimes⟩ := hmatch
      -- the first round ends where the loop is marked, and from there on it is a star
      have hbody : ∀ k l, k ≤ text.length → body.Fails text marks (marks id) k →
          body.Matches text k l → marks id l :=
        fun k l hk => ih (fun id k h => (hsettled id k h).2) hk
      exact dead_of_rounds (fun k h => (hsettled id k h).1 rfl) hbody
        (le_length_of_matches hfirst hi) (hbody i k hi hfails hfirst) htimes

end Node

end Transliteration.Regex
