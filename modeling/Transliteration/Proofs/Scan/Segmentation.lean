import Transliteration.Proofs.Rule.Match
import Transliteration.Scan

/-!
# What a scan does with a text

A scan cuts the text into segments, from left to right.  At the place where a segment begins the
first rule that applies there decides about it: the segment is what the rule matches, and the
replacement is written for it.  Where no rule applies the segment is one character, which is copied.

`replace_segmentation` states this for every text and every list of rules: there is exactly one way
to cut the text like that (`Segmented`), and what the scan writes is what is written for the
segments, one after another.

## Strategy

`Segmented` counts positions in bytes and asks the rules by position (`Rule.matchAt?`), whereas
`replaceFrom` goes along a list of characters.  Both come together at a place where the padded text
falls into what has been passed (`before`) and what is still to come:

* `replaceFrom_eq` jumps over characters that have been matched already, so that it is enough to
  look at `replaceFrom` where a new segment begins;
* `Rule.matchAt?_append` turns the question about a position into one about the two parts;
* `exists_segmented` is then an induction on the length of what is still to come.

The position grows with every segment because a match takes at least one character
(`Rule.width_pos`), and it never leaves the padded text because a span is a part of it.
-/

namespace Transliteration.Scan

/-! ## Segments -/

/-- The text with a sentinel at either end. -/
def padded (text : List Char) : List Char := sentinel :: text ++ [sentinel]

/-- The position of the sentinel at the end. -/
def finish (text : List Char) : Nat := Utf8.length (padded text) - sentinel.utf8Size

/-- A part of the padded text and what is written for it. -/
structure Segment where
  /-- The position where the part begins. -/
  start : Nat
  span : List Char
  written : List Char
  deriving DecidableEq, Repr

/-- The position right after the segment. -/
def Segment.stop (segment : Segment) : Nat := segment.start + Utf8.length segment.span

/-- The segment stands at its position in the text. -/
def Segment.LiesIn (segment : Segment) (text : List Char) : Prop :=
  ∃ before after, Utf8.splitAt? text segment.start = some (before, segment.span ++ after)

/-- The first rule that applies at the segment matches it, and its replacement is written. -/
def Segment.Replaced (rules : List Rule) (text : List Char) (segment : Segment) : Prop :=
  ∃ earlier rule later replacement,
    rules = earlier ++ rule :: later ∧
    (∀ other ∈ earlier, other.matchAt? text segment.start = none) ∧
    rule.matchAt? text segment.start = some (Utf8.length segment.span, replacement) ∧
    segment.written = replacement.toList

/-- No rule applies at the segment.  It is one character and is written as it is. -/
def Segment.Copied (rules : List Rule) (text : List Char) (segment : Segment) : Prop :=
  (∀ rule ∈ rules, rule.matchAt? text segment.start = none) ∧
    ∃ c, segment.span = [c] ∧ segment.written = [c]

/-- The segments follow each other from a position up to the end of the text.  Each of them begins
before the sentinel; the last one may take it in. -/
inductive Segmented (rules : List Rule) (text : List Char) : Nat → List Segment → Prop
  | done {position : Nat} (hend : position = finish text ∨ position = finish text + 1) :
      Segmented rules text position []
  | step {segment : Segment} {rest : List Segment} (hstart : segment.start < finish text)
      (hlies : segment.LiesIn (padded text))
      (hfits : segment.Replaced rules (padded text) ∨ segment.Copied rules (padded text))
      (hrest : Segmented rules text segment.stop rest) :
      Segmented rules text segment.start (segment :: rest)

/-- The positions where segments begin that follow each other from a position on, and the position
where the last of them ends. -/
def cuts : Nat → List Segment → List Nat
  | position, [] => [position]
  | position, segment :: rest => position :: cuts segment.stop rest

/-! ## One segment at a position -/

theorem Segment.Replaced.findSome? {rules : List Rule} {text : List Char} {segment : Segment}
    (hreplaced : segment.Replaced rules text) :
    ∃ replacement : String, segment.written = replacement.toList ∧
      rules.findSome? (fun rule => rule.matchAt? text segment.start) =
        some (Utf8.length segment.span, replacement) := by
  obtain ⟨earlier, rule, later, replacement, hrules, hearlier, hrule, hwritten⟩ := hreplaced
  exact ⟨replacement, hwritten,
    List.findSome?_eq_some_iff.mpr ⟨earlier, rule, later, hrules, hrule, hearlier⟩⟩

theorem Segment.Copied.findSome? {rules : List Rule} {text : List Char} {segment : Segment}
    (hcopied : segment.Copied rules text) :
    rules.findSome? (fun rule => rule.matchAt? text segment.start) = none :=
  List.findSome?_eq_none_iff.mpr hcopied.1

/-- Two parts of a text at the same position are the same if they are equally long. -/
theorem Segment.LiesIn.span_eq {text : List Char} {first second : Segment}
    (hfirst : first.LiesIn text) (hsecond : second.LiesIn text)
    (hstart : first.start = second.start)
    (hlength : Utf8.length first.span = Utf8.length second.span) : first.span = second.span := by
  obtain ⟨before, after, hfirst⟩ := hfirst
  obtain ⟨front, back, hsecond⟩ := hsecond
  rw [hstart, hsecond] at hfirst
  simp only [Option.some.injEq, Prod.mk.injEq] at hfirst
  exact (Utf8.eq_of_length_eq hfirst.2.symm hlength)|>.1

/-- The rules leave no choice about the segment at a position. -/
theorem Segment.eq_of_start_eq {rules : List Rule} {text : List Char} {first second : Segment}
    (hfirst : first.LiesIn text) (hsecond : second.LiesIn text)
    (hfits : first.Replaced rules text ∨ first.Copied rules text)
    (hfits' : second.Replaced rules text ∨ second.Copied rules text)
    (hstart : first.start = second.start) : first = second := by
  suffices first.span = second.span ∧ first.written = second.written by
    obtain ⟨start, span, written⟩ := first
    obtain ⟨start', span', written'⟩ := second
    simp_all
  -- the first rule that applies decides both, and a character is copied only where none does
  rcases hfits with hreplaced | hcopied <;> rcases hfits' with hreplaced' | hcopied'
  · obtain ⟨replacement, hwritten, hfound⟩ := hreplaced.findSome?
    obtain ⟨replacement', hwritten', hfound'⟩ := hreplaced'.findSome?
    rw [hstart, hfound'] at hfound
    simp only [Option.some.injEq, Prod.mk.injEq] at hfound
    obtain ⟨hlength, rfl⟩ := hfound
    exact ⟨hfirst.span_eq hsecond hstart hlength.symm, by rw [hwritten, hwritten']⟩
  · obtain ⟨replacement, -, hfound⟩ := hreplaced.findSome?
    rw [hstart, hcopied'.findSome?] at hfound
    simp at hfound
  · obtain ⟨replacement, -, hfound⟩ := hreplaced'.findSome?
    rw [← hstart, hcopied.findSome?] at hfound
    simp at hfound
  · obtain ⟨-, c, hspan, hwritten⟩ := hcopied
    obtain ⟨-, d, hspan', hwritten'⟩ := hcopied'
    obtain ⟨before, after, hfirst⟩ := hfirst
    obtain ⟨front, back, hsecond⟩ := hsecond
    rw [hstart, hsecond, hspan, hspan'] at hfirst
    simp only [Option.some.injEq, Prod.mk.injEq, List.cons_append, List.cons.injEq] at hfirst
    obtain ⟨-, rfl, -⟩ := hfirst
    exact ⟨by rw [hspan, hspan'], by rw [hwritten, hwritten']⟩

/-- A segment that begins within the text is not empty, since every match takes in a character. -/
theorem Segment.span_ne_nil {rules : List Rule} {text : List Char} {segment : Segment}
    (hstart : segment.start < Utf8.length text) (hlies : segment.LiesIn text)
    (hfits : segment.Replaced rules text ∨ segment.Copied rules text) : segment.span ≠ [] := by
  rcases hfits with ⟨-, rule, -, replacement, -, -, hrule, -⟩ | ⟨-, c, hspan, -⟩
  · obtain ⟨before, after, hsplit⟩ := hlies
    obtain ⟨htext, hbefore⟩ := Utf8.splitAt?_eq_some_iff.mp hsplit
    rw [htext, ← hbefore, Rule.matchAt?_append, Option.map_eq_some_iff] at hrule
    obtain ⟨found, hfound, heq⟩ := hrule
    have hlength : Utf8.length ((segment.span ++ after).take found.width) =
        Utf8.length segment.span := congrArg Prod.fst heq
    have hrest : segment.span ++ after ≠ [] := by
      intro hnil
      rw [htext, hnil, List.append_nil, hbefore] at hstart
      exact Nat.lt_irrefl _ hstart
    have htaken : (segment.span ++ after).take found.width ≠ [] := by
      have hwidth := Rule.width_pos hfound
      simp only [ne_eq, List.take_eq_nil_iff, not_or]
      exact ⟨Nat.ne_of_gt hwidth, hrest⟩
    intro hnil
    have hpos := Utf8.length_pos htaken
    rw [hlength, hnil] at hpos
    exact Nat.lt_irrefl _ hpos
  · simp [hspan]

/-! ## The padded text -/

@[simp] theorem sentinel_utf8Size : sentinel.utf8Size = 1 := rfl

theorem length_padded (text : List Char) : Utf8.length (padded text) = finish text + 1 := by
  simp only [finish, padded, sentinel_utf8Size, List.cons_append, Utf8.length_cons]
  omega

/-- What follows a position in the padded text is empty only at its very end, and one character long
only at the sentinel. -/
theorem position_of_rest {text before rest : List Char} (hpadded : before ++ rest = padded text) :
    (rest = [] ∧ Utf8.length before = finish text + 1) ∨
      (rest = [sentinel] ∧ Utf8.length before = finish text) ∨
      (∃ c next more, rest = c :: next :: more ∧ Utf8.length before < finish text) := by
  have hlength : Utf8.length before + Utf8.length rest = finish text + 1 := by
    rw [← length_padded, ← hpadded, Utf8.length_append]
  match rest with
  | [] => exact .inl ⟨rfl, by simpa using hlength⟩
  | [c] =>
      have hlast : c = sentinel := by
        have := congrArg List.getLast? hpadded
        simpa [padded, List.getLast?_append, List.getLast?_cons] using this
      subst hlast
      exact .inr (.inl ⟨rfl, by simpa using hlength⟩)
  | c :: next :: more =>
      have hc : 0 < c.utf8Size := Char.utf8Size_pos c
      have hnext : 0 < next.utf8Size := Char.utf8Size_pos next
      refine .inr (.inr ⟨c, next, more, rfl, ?_⟩)
      simp only [Utf8.length_cons] at hlength
      omega

/-! ## The scan -/

/-- Characters that have been matched already are passed over. -/
theorem replaceFrom_eq (rules : List Rule) (before rest : List Char) (matched : Nat) :
    replaceFrom rules before rest matched =
      replaceFrom rules (before ++ rest.take matched) (rest.drop matched) 0 := by
  induction matched generalizing before rest with
  | zero => simp
  | succ matched ih =>
      match rest with
      | [] => simp [replaceFrom]
      | [c] => simp [replaceFrom]
      | c :: next :: rest =>
          rw [replaceFrom, ih (before ++ [c]) (next :: rest)]
          simp

/-- From a place where a segment begins the scan writes that segment and goes on behind it. -/
theorem exists_segment (rules : List Rule) (before : List Char) (c next : Char)
    (more : List Char) :
    ∃ span after written, c :: next :: more = span ++ after ∧ span ≠ [] ∧
      replaceFrom rules before (c :: next :: more) 0 =
        written ++ replaceFrom rules (before ++ span) after 0 ∧
      (Segment.Replaced rules (before ++ c :: next :: more) ⟨Utf8.length before, span, written⟩ ∨
        Segment.Copied rules (before ++ c :: next :: more)
          ⟨Utf8.length before, span, written⟩) := by
  cases hfirst : firstMatch? rules before (c :: next :: more) with
  | none =>
      refine ⟨[c], next :: more, [c], rfl, by simp, by simp [replaceFrom, hfirst], .inr ⟨?_, c, ?_⟩⟩
      · intro rule hrule
        have hnone := List.findSome?_eq_none_iff.mp hfirst rule hrule
        rw [Rule.matchAt?_append, hnone]
        rfl
      · exact ⟨rfl, rfl⟩
  | some found =>
      obtain ⟨earlier, rule, later, hrules, hfound, hearlier⟩ :=
        List.findSome?_eq_some_iff.mp hfirst
      have hwidth := Rule.width_pos hfound
      refine ⟨(c :: next :: more).take found.width, (c :: next :: more).drop found.width,
        found.replacement.toList, (List.take_append_drop ..).symm, ?_, ?_,
        .inl ⟨earlier, rule, later, found.replacement, hrules, ?_, ?_, rfl⟩⟩
      · simp only [ne_eq, List.take_eq_nil_iff, not_or]
        exact ⟨Nat.ne_of_gt hwidth, by simp⟩
      · -- the scan passes over the match one character at a time
        obtain ⟨width, hsucc⟩ : ∃ width, found.width = width + 1 := ⟨found.width - 1, by omega⟩
        rw [replaceFrom, hfirst]
        simp only [hsucc, Nat.add_sub_cancel, List.take_succ_cons, List.drop_succ_cons]
        rw [replaceFrom_eq]
        simp
      · intro other hother
        rw [Rule.matchAt?_append, hearlier other hother]
        rfl
      · rw [Rule.matchAt?_append, hfound]
        rfl

/-- The rest of the padded text can be cut into segments, and the scan writes what is written for
them. -/
theorem exists_segmented (rules : List Rule) (text : List Char) :
    ∀ (bound : Nat) (before rest : List Char), rest.length ≤ bound → before ++ rest = padded text →
      ∃ segments, Segmented rules text (Utf8.length before) segments ∧
        replaceFrom rules before rest 0 = segments.flatMap Segment.written := by
  intro bound
  -- the characters still to come become fewer with every segment
  induction bound with
  | zero =>
      intro before rest hbound hpadded
      have hnil : rest = [] := List.eq_nil_of_length_eq_zero (by omega)
      subst hnil
      rcases position_of_rest hpadded with ⟨-, hposition⟩ | ⟨h, -⟩ | ⟨c, next, more, h, -⟩
      · exact ⟨[], .done (.inr hposition), rfl⟩
      · simp at h
      · simp at h
  | succ bound ih =>
      intro before rest hbound hpadded
      rcases position_of_rest hpadded with ⟨rfl, hposition⟩ | ⟨rfl, hposition⟩ |
        ⟨c, next, more, rfl, hposition⟩
      · exact ⟨[], .done (.inr hposition), rfl⟩
      · exact ⟨[], .done (.inl hposition), rfl⟩
      · obtain ⟨span, after, written, hrest, hspan, hwritten, hfits⟩ :=
          exists_segment rules before c next more
        have hshorter : after.length ≤ bound := by
          have hlength := congrArg List.length hrest
          have hpos := List.length_pos_iff.mpr hspan
          rw [List.length_append] at hlength
          omega
        obtain ⟨segments, hsegments, hflat⟩ := ih (before ++ span) after hshorter (by
          rw [List.append_assoc, ← hrest, hpadded])
        rw [hpadded] at hfits
        rw [Utf8.length_append] at hsegments
        refine ⟨⟨Utf8.length before, span, written⟩ :: segments, .step hposition ?_ hfits hsegments,
          ?_⟩
        · exact ⟨before, after, Utf8.splitAt?_eq_some_iff.mpr ⟨by rw [← hrest, hpadded], rfl⟩⟩
        · rw [hwritten, hflat]
          rfl

/-! ## What segments have in common -/

namespace Segmented

variable {rules : List Rule} {text : List Char} {position : Nat} {segments : List Segment}

/-- There is only one way to cut the text. -/
theorem unique (hsegments : Segmented rules text position segments) :
    ∀ others, Segmented rules text position others → others = segments := by
  induction hsegments with
  | done hend =>
      intro others hothers
      cases hothers with
      | done _ => rfl
      | step hstart _ _ _ => omega
  | @step segment rest hstart hlies hfits _ ih =>
      intro others hothers
      generalize hposition : segment.start = position at hothers
      cases hothers with
      | done hend =>
          -- the text does not end where a segment begins
          omega
      | step hstart' hlies' hfits' hrest' =>
          obtain rfl := Segment.eq_of_start_eq hlies hlies' hfits hfits' hposition
          rw [ih _ hrest']

/-- A segment begins within the padded text, and it is not empty. -/
theorem lt_stop {segment : Segment} (hstart : segment.start < finish text)
    (hlies : segment.LiesIn (padded text))
    (hfits : segment.Replaced rules (padded text) ∨ segment.Copied rules (padded text)) :
    segment.start < segment.stop := by
  have hspan := Segment.span_ne_nil (by rw [length_padded]; omega) hlies hfits
  have hpos := Utf8.length_pos hspan
  unfold Segment.stop
  omega

theorem le_of_mem_cuts (hsegments : Segmented rules text position segments) :
    ∀ cut ∈ cuts position segments, position ≤ cut := by
  induction hsegments with
  | done => simp [cuts]
  | step hstart hlies hfits _ ih =>
      intro cut hcut
      have hlt := lt_stop hstart hlies hfits
      rcases List.mem_cons.mp hcut with rfl | hcut
      · exact Nat.le_refl _
      · have := ih cut hcut
        omega

/-- Every segment ends further on than it begins. -/
theorem ascending (hsegments : Segmented rules text position segments) :
    (cuts position segments).Pairwise (· < ·) := by
  induction hsegments with
  | done => simp [cuts]
  | step hstart hlies hfits hrest ih =>
      have hlt := lt_stop hstart hlies hfits
      refine List.pairwise_cons.mpr ⟨fun cut hcut => ?_, ih⟩
      have := hrest.le_of_mem_cuts cut hcut
      omega

/-- A segment is the beginning of what follows its position. -/
theorem rest_eq {segment : Segment} (hlies : segment.LiesIn (padded text))
    {before rest : List Char} (hpadded : before ++ rest = padded text)
    (hbefore : Utf8.length before = segment.start) : ∃ after, rest = segment.span ++ after := by
  obtain ⟨front, after, hsplit⟩ := hlies
  rw [← hpadded, ← hbefore, Utf8.splitAt?_append] at hsplit
  simp only [Option.some.injEq, Prod.mk.injEq] at hsplit
  exact ⟨after, hsplit.2⟩

/-- A segment that covers all that follows its position is a match that runs over the sentinel. -/
theorem replaced_of_covers_all {segment : Segment} (hstart : segment.start < finish text)
    (hfits : segment.Replaced rules (padded text) ∨ segment.Copied rules (padded text))
    {before : List Char} (hpadded : before ++ segment.span = padded text)
    (hbefore : Utf8.length before = segment.start) :
    segment.Replaced rules (padded text) ∧
      ∃ covered, covered ≠ [] ∧ segment.span = covered ++ [sentinel] := by
  -- it begins before the sentinel, so that one character at least comes before it
  rcases position_of_rest hpadded with ⟨-, hposition⟩ | ⟨-, hposition⟩ |
    ⟨c, next, more, hspan, -⟩
  · omega
  · omega
  constructor
  · refine hfits.resolve_right fun hcopied => ?_
    obtain ⟨-, d, hsingle, -⟩ := hcopied
    rw [hspan] at hsingle
    simp at hsingle
  · have hlast : segment.span.getLast? = some sentinel := by
      have hends := congrArg List.getLast? hpadded
      rw [List.getLast?_append, hspan] at hends
      rw [hspan]
      simpa [padded, List.getLast?_cons] using hends
    obtain ⟨covered, hcovered⟩ := List.getLast?_eq_some_iff.mp hlast
    refine ⟨covered, ?_, hcovered⟩
    rintro rfl
    rw [hspan] at hcovered
    simp at hcovered

/-- The segments cover the rest of the text, up to the sentinel at the end.  The sentinel is covered
only by a match that begins before it. -/
theorem covers (hsegments : Segmented rules text position segments) :
    ∀ before rest, before ++ rest = padded text → Utf8.length before = position →
      rest = segments.flatMap Segment.span ++ [sentinel] ∨
      rest = segments.flatMap Segment.span ∧ (segments = [] ∨ ∃ init last covered,
        segments = init ++ [last] ∧ last.Replaced rules (padded text) ∧ covered ≠ [] ∧
        last.span = covered ++ [sentinel]) := by
  induction hsegments with
  | done hend =>
      intro before rest hpadded hbefore
      rcases position_of_rest hpadded with ⟨rfl, -⟩ | ⟨rfl, -⟩ | ⟨c, next, more, -, hlt⟩
      · exact .inr ⟨rfl, .inl rfl⟩
      · exact .inl rfl
      · omega
  | @step segment segments hstart hlies hfits hrest ih =>
      intro before rest hpadded hbefore
      obtain ⟨after, rfl⟩ := rest_eq hlies hpadded hbefore
      have hstop : Utf8.length (before ++ segment.span) = segment.stop := by
        rw [Utf8.length_append, hbefore, Segment.stop]
      rcases ih (before ++ segment.span) after (by rw [List.append_assoc, hpadded]) hstop with
        hafter | ⟨hafter, hnil | ⟨init, last, covered, hlast, hreplaced, hne, hspan⟩⟩
      · exact .inl (by rw [hafter, List.flatMap_cons, List.append_assoc])
      · -- nothing is left behind this segment, so it takes in the sentinel
        rw [hnil, List.flatMap_nil] at hafter
        rw [hafter, List.append_nil] at hpadded
        obtain ⟨hreplaced, covered, hne, hspan⟩ :=
          replaced_of_covers_all hstart hfits hpadded hbefore
        refine .inr ⟨by rw [hafter, hnil, List.flatMap_cons, List.flatMap_nil],
          .inr ⟨[], segment, covered, by rw [hnil]; rfl, hreplaced, hne, hspan⟩⟩
      · exact .inr ⟨by rw [hafter, List.flatMap_cons],
          .inr ⟨segment :: init, last, covered, by rw [hlast]; rfl, hreplaced, hne, hspan⟩⟩

/-- A character begins, or the text ends, wherever a segment begins or ends. -/
theorem splitAt?_of_mem_cuts (hsegments : Segmented rules text position segments) :
    ∀ before rest, before ++ rest = padded text → Utf8.length before = position →
      ∀ cut ∈ cuts position segments,
        ∃ front back, Utf8.splitAt? (padded text) cut = some (front, back) := by
  induction hsegments with
  | done _ =>
      intro before rest hpadded hbefore cut hcut
      obtain rfl := List.mem_singleton.mp hcut
      exact ⟨before, rest, Utf8.splitAt?_eq_some_iff.mpr ⟨hpadded.symm, hbefore⟩⟩
  | @step segment segments hstart hlies hfits hrest ih =>
      intro before rest hpadded hbefore cut hcut
      obtain ⟨after, rfl⟩ := rest_eq hlies hpadded hbefore
      rcases List.mem_cons.mp hcut with rfl | hcut
      · exact ⟨before, _, Utf8.splitAt?_eq_some_iff.mpr ⟨hpadded.symm, hbefore⟩⟩
      · refine ih (before ++ segment.span) after (by rw [List.append_assoc, hpadded]) ?_ cut hcut
        rw [Utf8.length_append, hbefore, Segment.stop]

end Segmented

/-! ## The whole text -/

/-- A scan cuts the text into segments, in the only way that the rules allow, and writes what is
written for them.  The segments begin behind the first sentinel and cover every character of the
text once and in order.  The sentinel at the end is never copied: it is left out, unless the last
match runs over it. -/
theorem replace_segmentation (rules : List Rule) (text : List Char) :
    ∃ segments : List Segment,
      Segmented rules text 1 segments ∧
      (∀ others, Segmented rules text 1 others → others = segments) ∧
      replace rules text = segments.flatMap Segment.written ∧
      (cuts 1 segments).Pairwise (· < ·) ∧
      (∀ cut ∈ cuts 1 segments, ∃ before after,
        Utf8.splitAt? (padded text) cut = some (before, after)) ∧
      (text = segments.flatMap Segment.span ∨
        text ++ [sentinel] = segments.flatMap Segment.span ∧ ∃ init last covered,
          segments = init ++ [last] ∧ last.Replaced rules (padded text) ∧ covered ≠ [] ∧
          last.span = covered ++ [sentinel]) := by
  have hpadded : [sentinel] ++ (text ++ [sentinel]) = padded text := rfl
  have hone : Utf8.length [sentinel] = 1 := rfl
  obtain ⟨segments, hsegments, hwritten⟩ :=
    exists_segmented rules text _ [sentinel] (text ++ [sentinel]) (Nat.le_refl _) hpadded
  rw [hone] at hsegments
  refine ⟨segments, hsegments, hsegments.unique, hwritten, hsegments.ascending,
    hsegments.splitAt?_of_mem_cuts _ _ hpadded hone, ?_⟩
  rcases hsegments.covers _ _ hpadded hone with hrest | ⟨hrest, rfl | hlast⟩
  · exact .inl (List.append_cancel_right hrest)
  · simp at hrest
  · exact .inr ⟨hrest, hlast⟩

end Transliteration.Scan
