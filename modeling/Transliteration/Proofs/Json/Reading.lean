import Transliteration.Proofs.Json.Scalars

/-!
# Reading documents

A document is read as a value exactly if it spells the value (`read_eq_ok_iff`).  So every text is a
spelling of one value at most, and a text that spells none is refused.

## Strategy

That a spelling is read (`Reads`) is shown by induction on the value that it spells, within a bound
that is no less than its length.  The parts of an array or an object are read one after another, so
each of the two takes an induction of its own, on the parts after the first.

That what has been read is spelled is shown by induction on the bound, for values, items and members
at once (`Sound`), since each reader calls the others with a smaller bound.
-/

namespace Transliteration.Json

open Utf8 (Symbol)

/-! ## Blanks -/

section

variable {blanks rest : List Symbol}

theorem skipBlanks_blanks (hblanks : Blanks blanks) :
    skipBlanks (blanks ++ rest) = skipBlanks rest :=
  List.dropWhile_append_of_pos hblanks

theorem skipBlanks_cons {symbol : Symbol} (hsymbol : isBlank symbol = false) :
    skipBlanks (symbol :: rest) = symbol :: rest := by
  rw [skipBlanks, List.dropWhile_cons_of_neg]
  simpa using hsymbol

/-- What is passed over are blanks. -/
theorem exists_skipBlanks (text : List Symbol) :
    ∃ blanks, Blanks blanks ∧ text = blanks ++ skipBlanks text :=
  ⟨text.takeWhile isBlank, List.all_eq_true.mp List.all_takeWhile,
    List.takeWhile_append_dropWhile.symm⟩

theorem readValue_blanks (hblanks : Blanks blanks) (bound : Nat) :
    readValue bound (blanks ++ rest) = readValue bound rest := by
  cases bound with
  | zero => rfl
  | succ bound => rw [readValue, readValue, skipBlanks_blanks hblanks]

theorem readItems_blanks (hblanks : Blanks blanks) (bound : Nat) :
    readItems bound (blanks ++ rest) = readItems bound rest := by
  cases bound with
  | zero => rfl
  | succ bound => rw [readItems, readItems, readValue_blanks hblanks]

/-- No number goes on after a blank. -/
theorem endsNumber_blanks (hblanks : Blanks blanks) (hrest : EndsNumber rest) :
    EndsNumber (blanks ++ rest) := by
  cases blanks with
  | nil => exact hrest
  | cons symbol blanks =>
      have hblank : isBlank symbol = true := hblanks symbol (List.mem_cons_self ..)
      simp only [isBlank, Bool.or_eq_true, beq_iff_eq] at hblank
      rcases hblank with ((rfl | rfl) | rfl) | rfl <;>
        exact endsNumber_cons rfl (by decide) (by decide) _

end

/-! ## Values that are spelled are read -/

/-- A spelling is read as a value, whatever comes after it. -/
def Reads (spelling : List Symbol) (value : Json) : Prop :=
  ∀ bound rest, spelling.length ≤ bound → EndsNumber rest →
    readValue (bound + 1) (spelling ++ rest) = .ok (value, rest)

/-- A part of an array or an object is read up to what closes it. -/
theorem Part.readValue_eq {part : Part} (hafter : Blanks part.after)
    (hreads : Reads part.spelling part.value) {bound : Nat} {rest : List Symbol}
    (hbound : part.text.length ≤ bound) (hrest : EndsNumber rest) :
    readValue (bound + 1) (part.spelling ++ (part.after ++ rest)) =
      .ok (part.value, part.after ++ rest) := by
  refine hreads bound _ ?_ (endsNumber_blanks hafter hrest)
  simp only [text, List.length_append] at hbound
  omega

/-! ### Items -/

section

variable {bound : Nat} {text rest after : List Symbol} {item : Json} {items : List Json}

theorem readItems_last (hitem : readValue bound text = .ok (item, rest))
    (hrest : skipBlanks rest = some ']' :: after) :
    readItems (bound + 1) text = .ok ([item], after) := by
  simp only [readItems, hitem, hrest, bind, Except.bind, pure, Except.pure]

theorem readItems_more {others : List Symbol} (hitem : readValue bound text = .ok (item, rest))
    (hrest : skipBlanks rest = some ',' :: others)
    (hitems : readItems bound others = .ok (items, after)) :
    readItems (bound + 1) text = .ok (item :: items, after) := by
  simp only [readItems, hitem, hrest, hitems, bind, Except.bind, pure, Except.pure]

end

/-- The items of an array are read if each of them is. -/
theorem readItems_spelled {first : Part} {others : List Part}
    (hbefore : ∀ part ∈ first :: others, Blanks part.before)
    (hafter : ∀ part ∈ first :: others, Blanks part.after)
    (hreads : ∀ part ∈ first :: others, Reads part.spelling part.value) {bound : Nat}
    (hbound : (joined first others).length ≤ bound) (rest : List Symbol) :
    readItems (bound + 2) (joined first others ++ some ']' :: rest) =
      .ok ((first :: others).map Part.value, rest) := by
  induction others generalizing first bound with
  | nil =>
      rw [List.forall_mem_singleton] at hbefore hafter hreads
      rw [joined_nil] at hbound
      have hvalue := Part.readValue_eq hafter hreads hbound
        (endsNumber_cons (c := ']') rfl (by decide) (by decide) rest)
      rw [joined_nil, Part.text, List.append_assoc, readItems_blanks hbefore, List.append_assoc]
      refine readItems_last hvalue ?_
      rw [skipBlanks_blanks hafter, skipBlanks_cons rfl]
  | cons next others ih =>
      have hblanks := hafter first (List.mem_cons_self ..)
      simp only [joined_cons, List.length_append, List.length_cons] at hbound
      -- the comma makes up for the step that is taken from one part to the next
      obtain ⟨bound, rfl⟩ := Nat.exists_eq_add_one_of_ne_zero (show bound ≠ 0 by omega)
      have hlength : first.text.length ≤ bound + 1 := by omega
      have hvalue := Part.readValue_eq hblanks (hreads first (List.mem_cons_self ..)) hlength
        (endsNumber_cons (c := ',') rfl (by decide) (by decide)
          (joined next others ++ some ']' :: rest))
      have hfewer : (joined next others).length ≤ bound := by omega
      have hothers := ih (fun part hpart => hbefore part (List.mem_cons_of_mem _ hpart))
        (fun part hpart => hafter part (List.mem_cons_of_mem _ hpart))
        (fun part hpart => hreads part (List.mem_cons_of_mem _ hpart)) hfewer
      rw [joined_cons, Part.text]
      simp only [List.append_assoc, List.cons_append]
      rw [readItems_blanks (hbefore first (List.mem_cons_self ..))]
      refine readItems_more hvalue ?_ hothers
      rw [skipBlanks_blanks hblanks, skipBlanks_cons rfl]

/-! ### Members -/

section

variable {bound : Nat} {text rest after : List Symbol} {name : Option String} {value : Json}
  {members : List (Option String × Json)}

theorem readMembers_last {named : List Symbol} (hname : readName text = .ok (name, named))
    (hvalue : readValue bound named = .ok (value, rest))
    (hrest : skipBlanks rest = some '\x7d' :: after) :
    readMembers (bound + 1) text = .ok ([(name, value)], after) := by
  simp only [readMembers, hname, hvalue, hrest, bind, Except.bind, pure, Except.pure]

theorem readMembers_more {named others : List Symbol} (hname : readName text = .ok (name, named))
    (hvalue : readValue bound named = .ok (value, rest))
    (hrest : skipBlanks rest = some ',' :: others)
    (hmembers : readMembers bound others = .ok (members, after)) :
    readMembers (bound + 1) text = .ok ((name, value) :: members, after) := by
  simp only [readMembers, hname, hvalue, hrest, hmembers, bind, Except.bind, pure, Except.pure]

end

/-- A name is read up to the colon after it. -/
theorem readName_spelled {before : List Symbol} {name : Option String}
    (hname : SpellsName before name) (rest : List Symbol) :
    ∃ blanks, Blanks blanks ∧ readName (before ++ rest) = .ok (name, blanks ++ rest) := by
  obtain ⟨hbefore, ⟨hpieces⟩, hbetween, hafter⟩ := hname
  rename_i before between after inside pieces
  have hstring := readString_spelled hpieces (between ++ some ':' :: (after ++ rest))
  have hcolon : isBlank (some ':') = false := rfl
  refine ⟨after, hafter, ?_⟩
  simp only [List.append_assoc, List.cons_append, List.nil_append]
  rw [readName, skipBlanks_blanks hbefore, skipBlanks_cons rfl]
  simp only [hstring, bind, Except.bind, skipBlanks_blanks hbetween, skipBlanks_cons hcolon]
  rfl

/-- The name of a member is read, and the value after it up to what closes the object. -/
theorem readMember_spelled {member : Option String × Part}
    (hbefore : SpellsName member.2.before member.1) (hafter : Blanks member.2.after)
    (hreads : Reads member.2.spelling member.2.value) {bound : Nat} {rest : List Symbol}
    (hbound : member.2.text.length ≤ bound) (hrest : EndsNumber rest) :
    ∃ named, readName (member.2.text ++ rest) = .ok (member.1, named) ∧
      readValue (bound + 1) named = .ok (member.2.value, member.2.after ++ rest) := by
  obtain ⟨blanks, hblanks, hname⟩ :=
    readName_spelled hbefore (member.2.spelling ++ (member.2.after ++ rest))
  refine ⟨_, ?_, (readValue_blanks hblanks _).trans (Part.readValue_eq hafter hreads hbound hrest)⟩
  rw [Part.text, List.append_assoc, List.append_assoc, hname]

/-- The members of an object are read if their values are. -/
theorem readMembers_spelled {first : Option String × Part} {others : List (Option String × Part)}
    (hbefore : ∀ member ∈ first :: others, SpellsName member.2.before member.1)
    (hafter : ∀ member ∈ first :: others, Blanks member.2.after)
    (hreads : ∀ member ∈ first :: others, Reads member.2.spelling member.2.value) {bound : Nat}
    (hbound : (joined first.2 (others.map Prod.snd)).length ≤ bound) (rest : List Symbol) :
    readMembers (bound + 2) (joined first.2 (others.map Prod.snd) ++ some '\x7d' :: rest) =
      .ok ((first :: others).map fun (name, part) => (name, part.value), rest) := by
  induction others generalizing first bound with
  | nil =>
      rw [List.forall_mem_singleton] at hbefore hafter hreads
      rw [List.map_nil, joined_nil] at hbound ⊢
      obtain ⟨named, hname, hvalue⟩ := readMember_spelled hbefore hafter hreads hbound
        (endsNumber_cons (c := '\x7d') rfl (by decide) (by decide) rest)
      refine readMembers_last hname hvalue ?_
      rw [skipBlanks_blanks hafter, skipBlanks_cons rfl]
  | cons next others ih =>
      have hblanks := hafter first (List.mem_cons_self ..)
      simp only [List.map_cons, joined_cons, List.length_append, List.length_cons] at hbound
      -- the comma makes up for the step that is taken from one part to the next
      obtain ⟨bound, rfl⟩ := Nat.exists_eq_add_one_of_ne_zero (show bound ≠ 0 by omega)
      have hfewer : (joined next.2 (others.map Prod.snd)).length ≤ bound := by omega
      have hothers := ih (fun member hmember => hbefore member (List.mem_cons_of_mem _ hmember))
        (fun member hmember => hafter member (List.mem_cons_of_mem _ hmember))
        (fun member hmember => hreads member (List.mem_cons_of_mem _ hmember)) hfewer
      have hlength : first.2.text.length ≤ bound + 1 := by omega
      obtain ⟨named, hname, hvalue⟩ := readMember_spelled (hbefore first (List.mem_cons_self ..))
        hblanks (hreads first (List.mem_cons_self ..)) hlength
        (endsNumber_cons (c := ',') rfl (by decide) (by decide)
          (joined next.2 (others.map Prod.snd) ++ some '\x7d' :: rest))
      rw [List.map_cons, joined_cons, List.append_assoc, List.cons_append]
      refine readMembers_more hname hvalue ?_ hothers
      rw [skipBlanks_blanks hblanks, skipBlanks_cons rfl]

/-! ### Values -/

/-- A number begins with a sign or a digit. -/
theorem SpellsNumber.eq_cons {spelling : List Char} {literal : NumberLiteral}
    (hnumber : SpellsNumber spelling literal) :
    ∃ c others, spelling = c :: others ∧ (c = '-' ∨ (Numeral.digit? c).isSome) := by
  obtain ⟨hliteral, -⟩ := hnumber
  obtain ⟨c, others, hcons, hc⟩ :=
    writeDigits_eq_cons hliteral.whole_ne_nil hliteral.whole_digits
  cases literal.negative with
  | true => exact ⟨'-', _, rfl, .inl rfl⟩
  | false => exact ⟨c, _, by rw [hcons]; rfl, .inr hc⟩

theorem ne_of_beginsNumber {c other : Char} (hc : c = '-' ∨ (Numeral.digit? c).isSome)
    (hsign : other ≠ '-') (hdigit : Numeral.digit? other = none) : c ≠ other := by
  rintro rfl
  rcases hc with rfl | hc
  · exact hsign rfl
  · rw [hdigit] at hc
    cases hc

theorem not_isBlank_of_beginsNumber {c : Char} (hc : c = '-' ∨ (Numeral.digit? c).isSome) :
    isBlank (some c) = false := by
  simp only [isBlank, Bool.or_eq_false_iff, beq_eq_false_iff_ne, ne_eq, Option.some_inj]
  refine ⟨⟨⟨?_, ?_⟩, ?_⟩, ?_⟩ <;> exact ne_of_beginsNumber hc (by decide) rfl

/-- A value begins with a symbol that neither is blank nor closes an array. -/
theorem Spells.eq_cons {spelling : List Symbol} {value : Json} (hspelling : Spells spelling value) :
    ∃ symbol others, spelling = symbol :: others ∧ isBlank symbol = false ∧ symbol ≠ some ']' := by
  cases hspelling with
  | number hnumber =>
      obtain ⟨c, others, rfl, hc⟩ := hnumber.eq_cons
      refine ⟨some c, _, rfl, not_isBlank_of_beginsNumber hc, ?_⟩
      exact fun heq => ne_of_beginsNumber hc (by decide) rfl (Option.some_inj.mp heq)
  | string hstring =>
      obtain ⟨hpieces⟩ := hstring
      exact ⟨_, _, rfl, rfl, by decide⟩
  | null | isTrue | isFalse | emptyArray | array | emptyObject | object =>
      exact ⟨_, _, rfl, rfl, by decide⟩

/-- An array with an item does not close before it. -/
theorem skipBlanks_joined_ne {first : Part} (hbefore : Blanks first.before)
    (hspelling : Spells first.spelling first.value) (others : List Part)
    (rest after : List Symbol) :
    skipBlanks (joined first others ++ rest) ≠ some ']' :: after := by
  obtain ⟨symbol, spelled, hcons, hblank, hbracket⟩ := hspelling.eq_cons
  rw [joined, Part.text, List.append_assoc, List.append_assoc, skipBlanks_blanks hbefore, hcons,
    List.append_assoc, List.cons_append, skipBlanks_cons hblank]
  intro heq
  exact hbracket (List.cons.inj heq).1

/-- A name begins with its quotation mark. -/
theorem SpellsName.eq_append {before : List Symbol} {name : Option String}
    (hname : SpellsName before name) :
    ∃ blanks others, Blanks blanks ∧ before = blanks ++ some '"' :: others := by
  obtain ⟨hblanks, ⟨-⟩, -, -⟩ := hname
  exact ⟨_, _, hblanks, rfl⟩

/-- An object with a member does not close before it. -/
theorem skipBlanks_joined_ne_of_spellsName {first : Part} {name : Option String}
    (hbefore : SpellsName first.before name) (others : List Part) (rest after : List Symbol) :
    skipBlanks (joined first others ++ rest) ≠ some '\x7d' :: after := by
  obtain ⟨blanks, named, hblanks, heq⟩ := hbefore.eq_append
  rw [joined, Part.text, heq, List.append_assoc, List.append_assoc, List.append_assoc,
    skipBlanks_blanks hblanks, List.cons_append, skipBlanks_cons rfl]
  intro heq
  cases heq

section

variable {bound : Nat} {rest after : List Symbol}

theorem readValue_string {text : Option String} (hread : readString rest = .ok (text, after)) :
    readValue (bound + 1) (some '"' :: rest) = .ok (.string text, after) := by
  have hquote : isBlank (some '"') = false := rfl
  simp only [readValue, skipBlanks_cons hquote, hread, bind, Except.bind, pure, Except.pure]

theorem readValue_array {items : List Json} (hitem : ∀ others, skipBlanks rest ≠ some ']' :: others)
    (hread : readItems bound rest = .ok (items, after)) :
    readValue (bound + 1) (some '[' :: rest) = .ok (.array items, after) := by
  have hbracket : isBlank (some '[') = false := rfl
  rw [readValue, skipBlanks_cons hbracket]
  simp only [hread]
  rfl

theorem readValue_object {members : List (Option String × Json)}
    (hmember : ∀ others, skipBlanks rest ≠ some '\x7d' :: others)
    (hread : readMembers bound rest = .ok (members, after)) :
    readValue (bound + 1) (some '\x7b' :: rest) = .ok (.object members, after) := by
  have hbrace : isBlank (some '\x7b') = false := rfl
  rw [readValue, skipBlanks_cons hbrace]
  simp only [hread]
  rfl

theorem readValue_number {c : Char} {literal : NumberLiteral}
    (hc : c = '-' ∨ (Numeral.digit? c).isSome)
    (hread : readNumber (some c :: rest) = .ok (literal, after)) :
    readValue (bound + 1) (some c :: rest) = .ok (.number literal, after) := by
  have hsome : some c = some '-' ∨ ((some c).bind Numeral.digit?).isSome := by
    simpa using hc
  rw [readValue, skipBlanks_cons (not_isBlank_of_beginsNumber hc)]
  split
  case h_1 heq => cases heq
  case h_8 heq =>
    obtain ⟨rfl, rfl⟩ := List.cons.inj heq
    rw [if_pos hsome, hread]
    rfl
  -- the characters with which other values begin
  all_goals
    rename_i heq
    have hother := Option.some_inj.mp (List.cons.inj heq).1
    exact absurd hother (ne_of_beginsNumber hc (by decide) rfl)

theorem readValue_emptyArray {blanks : List Symbol} (hblanks : Blanks blanks) :
    readValue (bound + 1) (some '[' :: (blanks ++ some ']' :: rest)) = .ok (.array [], rest) := by
  have hbracket : isBlank (some '[') = false := rfl
  rw [readValue, skipBlanks_cons hbracket]
  simp only [skipBlanks_blanks hblanks]
  rfl

theorem readValue_emptyObject {blanks : List Symbol} (hblanks : Blanks blanks) :
    readValue (bound + 1) (some '\x7b' :: (blanks ++ some '\x7d' :: rest)) =
      .ok (.object [], rest) := by
  have hbrace : isBlank (some '\x7b') = false := rfl
  rw [readValue, skipBlanks_cons hbrace]
  simp only [skipBlanks_blanks hblanks]
  rfl

end

/-- Every value that is spelled is read. -/
theorem reads_of_spells {spelling : List Symbol} {value : Json}
    (hspelling : Spells spelling value) : Reads spelling value := by
  induction hspelling with
  | null | isTrue | isFalse => exact fun bound rest hbound hrest => rfl
  | number hnumber =>
      intro bound rest hbound hrest
      have hread := readNumber_spelled hnumber hrest
      obtain ⟨c, others, rfl, hc⟩ := hnumber.eq_cons
      exact readValue_number hc hread
  | string hstring =>
      intro bound rest hbound hrest
      obtain ⟨hpieces⟩ := hstring
      simp only [List.cons_append, List.append_assoc, List.nil_append]
      exact readValue_string (readString_spelled hpieces rest)
  | emptyArray hblanks =>
      intro bound rest hbound hrest
      rw [List.cons_append, List.append_assoc, List.singleton_append]
      exact readValue_emptyArray hblanks
  | emptyObject hblanks =>
      intro bound rest hbound hrest
      rw [List.cons_append, List.append_assoc, List.singleton_append]
      exact readValue_emptyObject hblanks
  | @array first others hbefore hafter hvalues ih =>
      intro bound rest hbound hrest
      simp only [List.length_cons, List.length_append, List.length_nil] at hbound
      -- the brackets are not among the parts, which leaves a bound that is enough for them
      obtain ⟨bound, rfl⟩ : ∃ fewer, bound = fewer + 2 := ⟨bound - 2, by omega⟩
      have hlength : (joined first others).length ≤ bound := by omega
      have hitems := readItems_spelled hbefore hafter ih hlength rest
      rw [List.cons_append, List.append_assoc, List.singleton_append]
      refine readValue_array ?_ hitems
      exact skipBlanks_joined_ne (hbefore first (List.mem_cons_self ..))
        (hvalues first (List.mem_cons_self ..)) others _
  | @object first others hbefore hafter hvalues ih =>
      intro bound rest hbound hrest
      simp only [List.length_cons, List.length_append, List.length_nil] at hbound
      -- the brackets are not among the parts, which leaves a bound that is enough for them
      obtain ⟨bound, rfl⟩ : ∃ fewer, bound = fewer + 2 := ⟨bound - 2, by omega⟩
      have hlength : (joined first.2 (others.map Prod.snd)).length ≤ bound := by omega
      have hmembers := readMembers_spelled hbefore hafter ih hlength rest
      rw [List.cons_append, List.append_assoc, List.singleton_append]
      refine readValue_object ?_ hmembers
      exact skipBlanks_joined_ne_of_spellsName (hbefore first (List.mem_cons_self ..)) _ _

/-! ## Values that have been read are spelled -/

/-- Within a bound, what is read is spelled by what is taken off. -/
structure Sound (bound : Nat) : Prop where
  readValue : ∀ {text rest value}, readValue bound text = .ok (value, rest) →
    ∃ spelling, Spells spelling value ∧ skipBlanks text = spelling ++ rest
  readItems : ∀ {text rest items}, readItems bound text = .ok (items, rest) →
    ∃ first others, SpellsItems first others items ∧ text = joined first others ++ some ']' :: rest
  readMembers : ∀ {text rest members}, readMembers bound text = .ok (members, rest) →
    ∃ first others, SpellsMembers first others members ∧
      text = joined first.2 (others.map Prod.snd) ++ some '\x7d' :: rest

theorem eq_of_readWord {word : List Char} {text rest : List Symbol}
    (hread : readWord word text = .ok rest) : text = word.map some ++ rest := by
  unfold readWord at hread
  split at hread
  · next hprefix =>
      obtain ⟨others, rfl⟩ := List.isPrefixOf_iff_prefix.mp hprefix
      cases hread
      rw [List.drop_left' (List.length_map ..)]
  · cases hread

/-- A name that has been read is spelled by what has been taken off. -/
theorem spells_of_readName {text rest : List Symbol} {name : Option String}
    (hread : readName text = .ok (name, rest)) :
    ∃ before, SpellsName before name ∧ text = before ++ rest := by
  obtain ⟨blanks, hblanks, htext⟩ := exists_skipBlanks text
  unfold readName at hread
  split at hread
  · next others hquote =>
      obtain ⟨⟨string, between⟩, hstring, hread⟩ := exists_of_bind_eq_ok hread
      obtain ⟨spelling, hspelling, hothers⟩ := spells_of_readString hstring
      obtain ⟨gap, hgap, hbetween⟩ := exists_skipBlanks between
      dsimp only at hread
      split at hread
      · next hcolon =>
          cases hread
          refine ⟨_, .mk hblanks hspelling hgap .nil, ?_⟩
          rw [htext, hquote, hothers, hbetween, hcolon]
          simp
      all_goals cases hread
  all_goals cases hread

/-- What begins no other value is read as a number. -/
theorem spells_of_readValue_number {symbol : Symbol} {others rest : List Symbol} {value : Json}
    (hread : (if symbol = some '-' ∨ (symbol.bind Numeral.digit?).isSome then do
        let (literal, rest) ← readNumber (symbol :: others)
        return (Json.number literal, rest)
      else .error Fault.unexpected) = Except.ok (value, rest)) :
    ∃ spelling, Spells spelling value ∧ symbol :: others = spelling ++ rest := by
  split at hread
  · obtain ⟨⟨literal, rest⟩, hnumber, hresult⟩ := exists_of_bind_eq_ok hread
    cases hresult
    obtain ⟨spelling, hspelling, htext⟩ := spells_of_readNumber hnumber
    exact ⟨_, .number hspelling, htext⟩
  · cases hread

/-- A word has been read after its first letter. -/
theorem spells_of_readWord {first : Char} (word : List Char) {others rest : List Symbol}
    {value found : Json} (hword : Spells (some first :: word.map some) value)
    (hread : (do return (value, ← readWord word others)) = Except.ok (found, rest)) :
    ∃ spelling, Spells spelling found ∧ some first :: others = spelling ++ rest := by
  obtain ⟨rest, hrest, hresult⟩ := exists_of_bind_eq_ok hread
  cases hresult
  exact ⟨_, hword, by rw [eq_of_readWord hrest]; rfl⟩

/-- A value that has been read is spelled by what has been taken off after the blanks before it. -/
theorem spells_of_readValue {bound : Nat} (hsound : Sound bound) {text rest : List Symbol}
    {value : Json} (hread : readValue (bound + 1) text = .ok (value, rest)) :
    ∃ spelling, Spells spelling value ∧ skipBlanks text = spelling ++ rest := by
  rw [readValue] at hread
  split at hread
  case h_1 => cases hread
  case h_2 others htext =>
    obtain ⟨⟨string, rest⟩, hstring, hresult⟩ := exists_of_bind_eq_ok hread
    cases hresult
    obtain ⟨spelling, hspelling, hothers⟩ := spells_of_readString hstring
    exact ⟨spelling, .string hspelling, htext.trans hothers⟩
  -- brackets and braces: either they close at once, up to blanks, or the parts come first
  case h_3 others htext =>
    rw [htext]
    split at hread
    · next closed hclosed =>
        cases hread
        obtain ⟨blanks, hblanks, hothers⟩ := exists_skipBlanks others
        refine ⟨_, .emptyArray hblanks, ?_⟩
        rw [hothers, hclosed]
        simp
    · obtain ⟨⟨items, rest⟩, hitems, hresult⟩ := exists_of_bind_eq_ok hread
      cases hresult
      obtain ⟨first, parts, hparts, rfl⟩ := hsound.readItems hitems
      exact ⟨_, hparts.spells_array, by simp⟩
  case h_4 others htext =>
    rw [htext]
    split at hread
    · next closed hclosed =>
        cases hread
        obtain ⟨blanks, hblanks, hothers⟩ := exists_skipBlanks others
        refine ⟨_, .emptyObject hblanks, ?_⟩
        rw [hothers, hclosed]
        simp
    · obtain ⟨⟨members, rest⟩, hmembers, hresult⟩ := exists_of_bind_eq_ok hread
      cases hresult
      obtain ⟨first, parts, hparts, rfl⟩ := hsound.readMembers hmembers
      exact ⟨_, hparts.spells_object, by simp⟩
  -- the first letter decides between the three words, and all else is a number
  case h_5 htext => exact htext ▸ spells_of_readWord ['u', 'l', 'l'] .null hread
  case h_6 htext => exact htext ▸ spells_of_readWord ['r', 'u', 'e'] .isTrue hread
  case h_7 htext => exact htext ▸ spells_of_readWord ['a', 'l', 's', 'e'] .isFalse hread
  case h_8 htext => exact htext ▸ spells_of_readValue_number hread

/-- A value that has been read, with what is given before it and the blanks after it, is a part. -/
theorem exists_part {bound : Nat} (hsound : Sound bound) {text rest : List Symbol} {value : Json}
    (hread : readValue bound text = .ok (value, rest)) (before : List Symbol) :
    ∃ blanks spelling after, Blanks blanks ∧ Blanks after ∧ Spells spelling value ∧
      before ++ text =
        (Part.mk (before ++ blanks) spelling after value).text ++ skipBlanks rest := by
  obtain ⟨blanks, hblanks, htext⟩ := exists_skipBlanks text
  obtain ⟨after, hafter, hrest⟩ := exists_skipBlanks rest
  obtain ⟨spelling, hspelling, hvalue⟩ := hsound.readValue hread
  refine ⟨blanks, spelling, after, hblanks, hafter, hspelling, ?_⟩
  simp only [Part.text, List.append_assoc]
  rw [← hrest, ← hvalue, ← htext]

/-- Items that have been read are spelled by what has been taken off. -/
theorem spells_of_readItems {bound : Nat} (hsound : Sound bound) {text rest : List Symbol}
    {items : List Json} (hread : readItems (bound + 1) text = .ok (items, rest)) :
    ∃ first others, SpellsItems first others items ∧
      text = joined first others ++ some ']' :: rest := by
  rw [readItems] at hread
  obtain ⟨⟨item, left⟩, hitem, hread⟩ := exists_of_bind_eq_ok hread
  obtain ⟨blanks, spelling, after, hblanks, hafter, hspells, htext⟩ := exists_part hsound hitem []
  rw [List.nil_append] at htext
  dsimp only at hread
  split at hread
  · next others hcomma =>
      obtain ⟨⟨items, rest⟩, hitems, hresult⟩ := exists_of_bind_eq_ok hread
      cases hresult
      obtain ⟨first, parts, hparts, rfl⟩ := hsound.readItems hitems
      refine ⟨_, _, .cons hblanks hafter hspells hparts, ?_⟩
      rw [htext, hcomma, joined_cons, List.append_assoc, List.cons_append]
      rfl
  · next others hclosed =>
      cases hread
      refine ⟨_, _, .singleton hblanks hafter hspells, ?_⟩
      rw [htext, hclosed, joined_nil]
      rfl
  all_goals cases hread

/-- Members that have been read are spelled by what has been taken off. -/
theorem spells_of_readMembers {bound : Nat} (hsound : Sound bound) {text rest : List Symbol}
    {members : List (Option String × Json)}
    (hread : readMembers (bound + 1) text = .ok (members, rest)) :
    ∃ first others, SpellsMembers first others members ∧
      text = joined first.2 (others.map Prod.snd) ++ some '\x7d' :: rest := by
  rw [readMembers] at hread
  obtain ⟨⟨name, named⟩, hname, hread⟩ := exists_of_bind_eq_ok hread
  obtain ⟨⟨value, left⟩, hvalue, hread⟩ := exists_of_bind_eq_ok hread
  obtain ⟨before, hbefore, hnamed⟩ := spells_of_readName hname
  obtain ⟨blanks, spelling, after, hblanks, hafter, hspells, htext⟩ :=
    exists_part hsound hvalue before
  -- the blanks between the colon and the value are counted with the name
  have hname := hbefore.append_blanks hblanks
  dsimp only at hread
  split at hread
  · next others hcomma =>
      obtain ⟨⟨members, rest⟩, hmembers, hresult⟩ := exists_of_bind_eq_ok hread
      cases hresult
      obtain ⟨first, parts, hparts, rfl⟩ := hsound.readMembers hmembers
      refine ⟨_, _, .cons hname hafter hspells hparts, ?_⟩
      rw [hnamed, htext, hcomma, List.map_cons, joined_cons, List.append_assoc, List.cons_append]
  · next others hclosed =>
      cases hread
      refine ⟨_, _, .singleton hname hafter hspells, ?_⟩
      rw [hnamed, htext, hclosed, List.map_nil, joined_nil]
  all_goals cases hread

/-- Within every bound, what is read is spelled by what is taken off. -/
theorem sound (bound : Nat) : Sound bound := by
  induction bound with
  | zero => constructor <;> intro _ _ _ hread <;> cases hread
  | succ bound ih =>
      exact ⟨spells_of_readValue ih, spells_of_readItems ih, spells_of_readMembers ih⟩

/-! ## Documents -/

/-- A document is read as a value exactly if it spells the value. -/
theorem read_eq_ok_iff {text : List Symbol} {value : Json} :
    read text = .ok value ↔ SpellsDocument text value := by
  constructor
  · intro hread
    obtain ⟨⟨value, rest⟩, hvalue, hread⟩ := exists_of_bind_eq_ok hread
    obtain ⟨before, hbefore, htext⟩ := exists_skipBlanks text
    obtain ⟨after, hafter, hrest⟩ := exists_skipBlanks rest
    obtain ⟨spelling, hspelling, hspelled⟩ := (sound _).readValue hvalue
    dsimp only at hread
    split at hread
    · next hend =>
        cases hread
        rw [List.isEmpty_iff.mp hend, List.append_nil] at hrest
        rw [htext, hspelled, hrest]
        exact .mk hbefore hspelling hafter
    · cases hread
  · rintro ⟨hbefore, hspelling, hafter⟩
    rename_i before spelling after
    -- A number could run on into what follows, but only blanks do.
    have hends : EndsNumber after := by
      simpa using endsNumber_blanks hafter endsNumber_nil
    have hend : skipBlanks (after ++ []) = [] := skipBlanks_blanks hafter
    have hvalue := reads_of_spells hspelling
      (2 * (before ++ (spelling ++ after)).length) after
      (by simp only [List.length_append]; omega) hends
    rw [read, readValue_blanks hbefore, hvalue]
    rw [List.append_nil] at hend
    simp only [bind, Except.bind, hend]
    rfl

/-- A text spells one value at most. -/
theorem SpellsDocument.value_unique {text : List Symbol} {first second : Json}
    (hfirst : SpellsDocument text first) (hsecond : SpellsDocument text second) :
    first = second := by
  have hread := read_eq_ok_iff.mpr hfirst
  rw [read_eq_ok_iff.mpr hsecond] at hread
  exact (Except.ok.inj hread).symm

end Transliteration.Json
