import Transliteration.Proofs.Pattern.Source
import Transliteration.Proofs.Regex.Reading.Renumbering
import Transliteration.Proofs.Regex.Reading.RetracingGroup
import Transliteration.Proofs.RuleSet.Isolation

/-!
# Which sources compile

It is the source with its anchor that is compiled, and not the source.  The source is pasted between
parentheses, so what is accepted differs from what is a pattern by itself in two ways
(`wellFormed_wrap_iff`).

* A comment at the end of a source takes the closing parenthesis of the anchor with it.  Such a
  source is a pattern, but it is refused.
* A parenthesis in a source that opens nothing closes the group of the anchor.  Such a source is no
  pattern, but it is accepted if a later group that it leaves open is closed by the parenthesis of
  the anchor.

## Strategy

The reader of the whole comes to the source as to a group.  If it leaves the end of that group, the
source by itself is read the same (`retraces_readGroup`); if the source by itself is read, so it is
within the group (`parallel_readGroup`).  Between the two a comment has to be excluded, which is the
case if the source with the closing parenthesis is no pattern.
-/

namespace Transliteration

namespace Regex

variable {text rest : List Char} {names : List (List Char)}

/-- The text is read by itself up to this rest, and these names are given to its groups. -/
def ReadsUpTo (text rest : List Char) (names : List (List Char)) : Prop :=
  ComesTo (text.length + 1) { rest := text, modes := { ignoreCase := true } } {} rest names

/-- The text is a pattern, whatever its size. -/
def WellFormed (text : List Char) : Prop := ∃ names, ReadsUpTo text [] names

theorem ReadsUpTo.not_wellFormed {c : Char} (hreads : ReadsUpTo text (c :: rest) names) :
    ¬ WellFormed text := by
  rintro ⟨names', hwhole⟩
  cases (hreads.unique hwhole).1

/-- A pattern that is well-formed is compiled if it has no more levels than it may have and takes
no more space. -/
def WithinLimits (text : List Char) : Prop :=
  ∀ piece state, readGroup (text.length + 1) { rest := text, modes := { ignoreCase := true } } {} =
    .ok (piece, state) → piece.levels ≤ levelLimit ∧ piece.expr.isTooLarge = false

theorem exists_compile_eq_ok_iff :
    (∃ regex, Regex.compile text = .ok regex) ↔ WellFormed text ∧ WithinLimits text := by
  cases hread :
      readGroup (text.length + 1) { rest := text, modes := { ignoreCase := true } } {} with
  | error fault =>
      refine iff_of_false ?_ ?_
      · rintro ⟨regex, hregex⟩
        rw [Regex.compile, readPattern, hread] at hregex
        cases hregex
      · rintro ⟨⟨names, piece, state, hread', -⟩, -⟩
        rw [hread] at hread'
        cases hread'
  | ok read =>
      obtain ⟨piece, state⟩ := read
      have hwellFormed : WellFormed text ↔ state.rest = [] := by
        constructor
        · rintro ⟨names, body, after, hread', hend, -⟩
          rw [hread] at hread'
          cases hread'
          exact hend
        · exact fun hend => ⟨state.names, piece, state, hread, hend, rfl⟩
      have hlimits : WithinLimits text ↔
          piece.levels ≤ levelLimit ∧ piece.expr.isTooLarge = false := by
        simp [WithinLimits, hread]
      rw [hwellFormed, hlimits, Regex.compile, readPattern, hread]
      by_cases hend : state.rest = []
      · by_cases hdeep : levelLimit < piece.levels
        · simp [hend, hdeep, bind, Except.bind, Nat.not_le.mpr hdeep]
        · by_cases hlarge : piece.expr.isTooLarge = true
          · simp [hend, hdeep, hlarge, bind, Except.bind, pure, Except.pure]
          · simp [hend, hdeep, hlarge, bind, Except.bind, pure, Except.pure, Nat.not_lt.mp hdeep]
      · simp [hend, bind, Except.bind]

/-! ## A source with the end of a group -/

theorem not_suffix_of_not_mem {more rest : List Char} (hclose : ')' ∉ more) :
    ¬ ')' :: rest <:+ more :=
  fun hsuffix => hclose (hsuffix.subset List.mem_cons_self)

theorem beside_append_end {more : List Char} :
    Beside more { rest := text, modes := { ignoreCase := true } }
      { rest := text ++ ')' :: more, modes := { ignoreCase := true } } := ⟨.next text, rfl, rfl⟩

/-- With the end of a group behind it a text is read as far, unless a comment takes that end. -/
theorem ReadsUpTo.append_end {more : List Char} (hline : '\n' ∉ more) (hcolon : ':' ∉ more)
    (hreads : ReadsUpTo text rest names) :
    ReadsUpTo (text ++ ')' :: more) (rest ++ ')' :: more) names ∨
      rest = [] ∧ WellFormed (text ++ ')' :: more) := by
  obtain ⟨piece, state, halone, rfl, rfl⟩ := hreads
  have hbound : text.length + 1 ≤ (text ++ ')' :: more).length + 1 := by simp
  obtain ⟨⟨body, after⟩, hread, hbeside⟩ :=
    parallel_readGroup hline hcolon hbound beside_append_end rfl _ halone
  rcases hbeside.rest.eq_append_or_nil with hrest | hrest
  · exact .inl ⟨body, after, hread, hrest, hbeside.names⟩
  · refine .inr ⟨?_, after.names, body, after, hread, hrest, rfl⟩
    by_contra hne
    exact hbeside.rest.ne_nil hne hrest

/-- A text that is read no further than to the end of the group is read the same by itself. -/
theorem ReadsUpTo.of_append_end {more left : List Char} (hline : '\n' ∉ more) (hcolon : ':' ∉ more)
    (hreads : ReadsUpTo (text ++ ')' :: more) left names) (hsuffix : ')' :: more <:+ left) :
    ∃ rest, left = rest ++ ')' :: more ∧ ReadsUpTo text rest names := by
  obtain ⟨body, after, hread, rfl, rfl⟩ := hreads
  obtain ⟨⟨piece, state⟩, halone, hbeside⟩ := retraces_readGroup hline hcolon
    (Nat.lt_succ_self text.length) beside_append_end rfl _ hread hsuffix
  refine ⟨state.rest, ?_, piece, state, halone, rfl, hbeside.names.symm⟩
  refine hbeside.rest.eq_append_or_nil.resolve_right fun hnil : after.rest = [] => ?_
  rw [hnil] at hsuffix
  exact not_suffix_nil hsuffix

/-- A text with the end of a group behind it is read up to that end, or up to a parenthesis before
it, if the text by itself is read so far and no comment takes the end of the group. -/
theorem readsUpTo_append_end_iff {more : List Char} (hline : '\n' ∉ more) (hcolon : ':' ∉ more)
    (hclose : ')' ∉ more) :
    ReadsUpTo (text ++ ')' :: more) (')' :: rest) names ↔
      (rest = more ∧ ReadsUpTo text [] names ∧ ¬ WellFormed (text ++ ')' :: more)) ∨
      ∃ tail, rest = tail ++ ')' :: more ∧ ReadsUpTo text (')' :: tail) names := by
  constructor
  · intro hreads
    -- no parenthesis comes after the end of the group, so the reader has stopped there or before
    have hsuffix : ')' :: more <:+ ')' :: rest := by
      have hleaves : ')' :: rest <:+ text ++ ')' :: more := by
        obtain ⟨body, after, hread, hafter, -⟩ := hreads
        rw [← hafter]
        exact leaves_readGroup _ _ _ _ hread
      rcases List.suffix_or_suffix_of_suffix hleaves (List.suffix_append text _) with hshort | hlong
      · rcases List.suffix_cons_iff.mp hshort with heq | hshort
        · exact heq ▸ List.suffix_refl _
        · exact absurd hshort (not_suffix_of_not_mem hclose)
      · exact hlong
    obtain ⟨stop, hstop, halone⟩ := hreads.of_append_end hline hcolon hsuffix
    cases stop with
    | nil =>
        rw [List.nil_append, List.cons.injEq] at hstop
        exact .inl ⟨hstop.2, halone, hreads.not_wellFormed⟩
    | cons c tail =>
        rw [List.cons_append, List.cons.injEq] at hstop
        obtain ⟨rfl, hstop⟩ := hstop
        exact .inr ⟨tail, hstop, halone⟩
  · rintro (⟨rfl, halone, hnot⟩ | ⟨tail, rfl, halone⟩)
    · rcases halone.append_end hline hcolon with hreads | ⟨-, hwhole⟩
      · exact hreads
      · exact absurd hwhole hnot
    · rcases halone.append_end hline hcolon with hreads | ⟨hnil, -⟩
      · exact hreads
      · cases hnil

end Regex

open Regex

namespace Anchor

variable {anchor : Anchor} {source tail rest : List Char} {names : List (List Char)}

/-- What stands behind the parenthesis that closes the group of the anchor. -/
def after : Anchor → List Char
  | .start => []
  | .finish => ['$']

/-- What stands before the group of the anchor. -/
def before : Anchor → GroupSoFar
  | .start => ({} : GroupSoFar).add { expr := .look .textStart, levels := 0 }
  | .finish => {}

/-- What comes after the group of the anchor goes on to its end. -/
def GoesOn (anchor : Anchor) (names : List (List Char)) (rest : List Char) : Prop :=
  ∃ names', ComesTo (rest.length + 1)
    { rest := rest, modes := { ignoreCase := true }, names := names }
    (anchor.before.add { expr := .empty, levels := 0 }) [] names'

/-- A comment at the end of the source takes the end of the group of the anchor with it, so the
source with that end behind it is a pattern still. -/
def EndsInComment (anchor : Anchor) (source : List Char) : Prop :=
  WellFormed (source ++ ')' :: anchor.after)

/-- A parenthesis that opens nothing closes the group of the anchor, and what comes after it goes on
to the end of the whole. -/
def ClosesGroup (anchor : Anchor) (source : List Char) : Prop :=
  ∃ tail names, ReadsUpTo source (')' :: tail) names ∧
    anchor.GoesOn names (tail ++ ')' :: anchor.after)

/-- The source is a pattern with the anchor around it. -/
def Accepts (anchor : Anchor) (source : List Char) : Prop :=
  (WellFormed source ∧ ¬ anchor.EndsInComment source) ∨ anchor.ClosesGroup source

/-- Where it makes no difference that the source is pasted between parentheses. -/
theorem accepts_iff_wellFormed_iff :
    (anchor.Accepts source ↔ WellFormed source) ↔
      ¬ (WellFormed source ∧ anchor.EndsInComment source) ∧ ¬ anchor.ClosesGroup source := by
  have hexclusive : anchor.ClosesGroup source → ¬ WellFormed source := by
    rintro ⟨tail, names, hreads, -⟩
    exact hreads.not_wellFormed
  unfold Accepts
  by_cases hwhole : WellFormed source
  · have hinside : ¬ anchor.ClosesGroup source := fun hcloses => hexclusive hcloses hwhole
    simp [hwhole, hinside]
  · simp [hwhole]

theorem not_mem_after {c : Char} (hc : c ≠ '$') : c ∉ anchor.after := by
  cases anchor <;> simp [after, hc]

theorem goesOn_after : anchor.GoesOn names anchor.after := by
  refine ⟨names, ?_⟩
  cases anchor with
  | start => exact ⟨_, _, readGroup_nil rfl, rfl, rfl⟩
  | finish => exact ⟨_, _, (readGroup_dollar rfl rfl).trans (readGroup_nil rfl), rfl, rfl⟩

/-- The whole is read as a group that holds the source and what comes after its end. -/
theorem readGroup_wrap (anchor : Anchor) (source : String) :
    ∃ bound, (source.toList ++ ')' :: anchor.after).length < bound ∧
      readGroup ((anchor.wrap source).length + 1)
          { rest := anchor.wrap source, modes := { ignoreCase := true } } {} =
        (readGroup bound
          ⟨source.toList ++ ')' :: anchor.after, { ignoreCase := true }, 1, []⟩ {}).bind
          fun (body, inner) => match inner.rest with
            | ')' :: rest =>
              readGroup bound ⟨rest, { ignoreCase := true }, inner.groups, inner.names⟩
                (anchor.before.add { expr := body.expr, levels := body.levels + 1 })
            | _ => .error .unclosedGroup := by
  cases anchor with
  | start =>
      -- the sign of the anchor stands before the group, or after it within the bound
      refine ⟨source.toList.length + 4, by simp [after], ?_⟩
      have hlength : (wrap source .start).length + 1 = source.toList.length + 4 + 1 + 1 := by
        simp [wrap_start]
      rw [hlength, wrap_start, readGroup_caret rfl rfl, readGroup_open rfl]
      rfl
  | finish =>
      refine ⟨source.toList.length + 5, by simp [after], ?_⟩
      have hlength : (wrap source .finish).length + 1 = source.toList.length + 5 + 1 := by
        simp [wrap_finish]
      rw [hlength, wrap_finish, readGroup_open rfl]
      rfl

theorem wellFormed_wrap_iff_exists {source : String} :
    WellFormed (anchor.wrap source) ↔ ∃ rest names,
      ReadsUpTo (source.toList ++ ')' :: anchor.after) (')' :: rest) names ∧
        anchor.GoesOn names rest := by
  obtain ⟨bound, hbound, hwrap⟩ := anchor.readGroup_wrap source
  constructor
  -- Within the anchor groups have other numbers, which make no difference to how far is read.
  · rintro ⟨names', piece, state, hread, hend, -⟩
    rw [hwrap] at hread
    cases hbody : readGroup bound
        ⟨source.toList ++ ')' :: anchor.after, { ignoreCase := true }, 1, []⟩ {} with
    | error fault =>
        rw [hbody] at hread
        cases hread
    | ok read =>
        obtain ⟨body, inner⟩ := read
        rw [hbody] at hread
        simp only [Except.bind] at hread
        split at hread
        · next rest hrest =>
          refine ⟨rest, inner.names, ?_, ?_⟩
          · have hinner : ComesTo bound
                ⟨source.toList ++ ')' :: anchor.after, { ignoreCase := true }, 1, []⟩ {}
                (')' :: rest) inner.names := ⟨body, inner, hbody, hrest, rfl⟩
            exact hinner.alike (Nat.lt_succ_self _) ⟨rfl, rfl, rfl⟩ rfl
          · have houter : ComesTo bound
                ⟨rest, { ignoreCase := true }, inner.groups, inner.names⟩
                (anchor.before.add { expr := body.expr, levels := body.levels + 1 }) []
                state.names := ⟨piece, state, hread, hend, rfl⟩
            exact ⟨_, houter.alike (Nat.lt_succ_self _) ⟨rfl, rfl, rfl⟩ rfl⟩
        · cases hread
  · rintro ⟨rest, names, hreads, names', hgoes⟩
    have hinner : ComesTo bound
        ⟨source.toList ++ ')' :: anchor.after, { ignoreCase := true }, 1, []⟩ {}
        (')' :: rest) names :=
      hreads.alike hbound ⟨rfl, rfl, rfl⟩ rfl
    obtain ⟨body, inner, hbody, hrest, rfl⟩ := hinner
    -- the body leaves less than it began with, so the bound is enough for the rest
    have hshort : rest.length < bound := by
      have hlength := (leaves_readGroup _ _ _ _ hbody).length_le
      simp only [hrest, List.length_cons] at hlength
      omega
    have houter : ComesTo bound ⟨rest, { ignoreCase := true }, inner.groups, inner.names⟩
        (anchor.before.add { expr := body.expr, levels := body.levels + 1 }) [] names' :=
      hgoes.alike hshort ⟨rfl, rfl, rfl⟩ rfl
    obtain ⟨piece, state, hread, hend, -⟩ := houter
    refine ⟨state.names, piece, state, ?_, hend, rfl⟩
    rw [hwrap, hbody]
    simp only [Except.bind, hrest]
    exact hread

/-- Which sources are patterns with their anchor around them. -/
theorem wellFormed_wrap_iff {source : String} :
    WellFormed (anchor.wrap source) ↔ anchor.Accepts source.toList := by
  have hends := fun {rest names} => @readsUpTo_append_end_iff source.toList rest names anchor.after
    (not_mem_after (by decide)) (not_mem_after (by decide)) (not_mem_after (by decide))
  rw [wellFormed_wrap_iff_exists]
  constructor
  · rintro ⟨rest, names, hreads, hgoes⟩
    -- the parenthesis that ends the group is the added one, or one of the source
    rcases hends.mp hreads with ⟨rfl, halone, hnot⟩ | ⟨tail, rfl, halone⟩
    · exact .inl ⟨⟨names, halone⟩, hnot⟩
    · exact .inr ⟨tail, names, halone, hgoes⟩
  · rintro (⟨⟨names, halone⟩, hnot⟩ | ⟨tail, names, halone, hgoes⟩)
    · exact ⟨anchor.after, names, hends.mpr (.inl ⟨rfl, halone, hnot⟩), goesOn_after⟩
    · exact ⟨_, names, hends.mpr (.inr ⟨tail, rfl, halone⟩), hgoes⟩

end Anchor

namespace Pattern

/-- The source is a pattern with its anchor around it, and not too large for one. -/
def Accepted (source : String) (anchor : Anchor) : Prop :=
  anchor.Accepts source.toList ∧ WithinLimits (anchor.wrap source)

theorem exists_compile_eq_ok_iff {source : String} {anchor : Anchor} :
    (∃ pattern, compile source anchor = .ok pattern) ↔ Accepted source anchor := by
  rw [Accepted, ← Anchor.wellFormed_wrap_iff, ← Regex.exists_compile_eq_ok_iff, compile]
  cases Regex.compile (anchor.wrap source) with
  | error fault => exact iff_of_false (fun ⟨_, h⟩ => by cases h) fun ⟨_, h⟩ => by cases h
  | ok regex => exact iff_of_true ⟨_, rfl⟩ ⟨_, rfl⟩

theorem fault?_eq_none_iff_accepted {record : RuleRecord} :
    record.fault? = none ↔ ∀ required ∈ record.required, Accepted required.1 required.2 := by
  rw [RuleRecord.fault?_eq_none_iff]
  exact forall₂_congr fun required _ => exists_compile_eq_ok_iff

/-- Which patterns compile, and what this means for the rules of a language.

A source is accepted if it is a pattern by itself, or if a parenthesis in it closes the group of its
anchor and the rest of it goes on up to the end of the whole; but not if it ends in a comment, which
takes the end of that group.  Without such a comment or parenthesis just the patterns are accepted.
Any other source is reported with itself.  When rules are loaded, each one that needs it is left out
with an error, and a rule is kept if it needs no such source. -/
theorem compile_accepts (source : String) (anchor : Anchor) :
    ((∃ pattern, compile source anchor = .ok pattern) ↔ Accepted source anchor) ∧
    ((anchor.Accepts source.toList ↔ WellFormed source.toList) ↔
      ¬ (WellFormed source.toList ∧ anchor.EndsInComment source.toList) ∧
      ¬ anchor.ClosesGroup source.toList) ∧
    (∀ error, compile source anchor = .error error → ∃ reason, error = .badPattern source reason) ∧
    ∀ (set : RuleSet) (rules : LanguageRules), set.loaded = false → ∀ record ∈ rules.records,
      ((source, anchor) ∈ record.required → ¬ Accepted source anchor →
        record.rule? = none ∧ ∃ error ∈ (set.load rules).value.1, record.fault? = some error) ∧
      ((∀ required ∈ record.required, Accepted required.1 required.2) →
        record.rule?.isSome = true ∧ record.fault? = none) := by
  refine ⟨exists_compile_eq_ok_iff, Anchor.accepts_iff_wellFormed_iff,
    fun error => exists_of_compile_eq_error, ?_⟩
  intro set rules hloaded record hrecord
  have hkept := record.isSome_rule?
  -- A rule is kept if and only if none of its patterns is reported.
  constructor
  · intro hrequired hrefused
    have hfault : record.fault? ≠ none := by
      intro hnone
      exact hrefused (fault?_eq_none_iff_accepted.mp hnone _ hrequired)
    obtain ⟨error, herror⟩ := Option.ne_none_iff_exists'.mp hfault
    rw [herror, Option.isNone_some, Option.isSome_eq_false_iff, Option.isNone_iff_eq_none] at hkept
    refine ⟨hkept, error, ?_, herror⟩
    rw [RuleSet.value_load hloaded rules]
    exact List.mem_filterMap.mpr ⟨record, hrecord, herror⟩
  · intro haccepted
    have hnone := fault?_eq_none_iff_accepted.mpr haccepted
    rw [hnone] at hkept
    exact ⟨hkept, hnone⟩

/-- A parenthesis that opens nothing is accepted where the source leaves another one open, and a
pattern that ends in a comment is refused. -/
theorem compile_differs :
    ((∃ pattern, compile "x)|(?:b" .start = .ok pattern) ∧ ¬ WellFormed "x)|(?:b".toList) ∧
    WellFormed "(?x)a#".toList ∧ (compile "(?x)a#" .start).map Pattern.source =
      .error (.badPattern "(?x)a#" Fault.unclosedGroup.message) := by
  have hopen : (compile "x)|(?:b" .start).toOption.isSome = true := by decide +kernel
  -- by itself the source stops at its closing parenthesis
  have hstop : (readGroup 8 { rest := "x)|(?:b".toList, modes := { ignoreCase := true } } {}).map
      (fun read => read.2.rest) = .ok ")|(?:b".toList := by decide +kernel
  have hcomment : ((Regex.compile "(?x)a#".toList).toOption.isSome,
      (compile "(?x)a#" .start).map Pattern.source) =
      (true, .error (.badPattern "(?x)a#" Fault.unclosedGroup.message)) := by decide +kernel
  obtain ⟨halone, hwithin⟩ := Prod.mk.inj hcomment
  refine ⟨⟨?_, ?_⟩, ?_, hwithin⟩
  · cases hcompile : compile "x)|(?:b" .start with
    | error error => rw [hcompile] at hopen; cases hopen
    | ok pattern => exact ⟨pattern, rfl⟩
  · cases hread : readGroup 8 { rest := "x)|(?:b".toList, modes := { ignoreCase := true } } {} with
    | error fault => rw [hread] at hstop; cases hstop
    | ok read =>
        rw [hread] at hstop
        have hreads : ReadsUpTo "x)|(?:b".toList ")|(?:b".toList read.2.names :=
          ⟨read.1, read.2, hread, Except.ok.inj hstop, rfl⟩
        exact hreads.not_wellFormed
  · cases hcompile : Regex.compile "(?x)a#".toList with
    | error error => rw [hcompile] at halone; cases halone
    | ok regex => exact (Regex.exists_compile_eq_ok_iff.mp ⟨regex, hcompile⟩).1

end Pattern

end Transliteration
