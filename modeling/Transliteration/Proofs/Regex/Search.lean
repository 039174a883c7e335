import Transliteration.Proofs.Regex.Exploration
import Transliteration.Regex

/-!
# What a search of a text finds

A search finds a match of the expression if there is one, and the match that it finds begins as far
left as any (`Regex.isFirst_find?`).

## Strategy

The search starts at one place after another with the marks that it has made so far.  They stay
settled throughout (`Node.Closed`), so a search from one place that finds nothing shows that no
match begins there.  An expression that is known to match at the start of the text only is searched
for nowhere else, which is enough by `Expr.eq_zero_of_isAnchored`.
-/

namespace Transliteration

namespace Regex

variable {text : List Char}

/-- What a search from a place on should answer: a match that begins there or later, none beginning
between, or else that there is none. -/
def IsFirst (text : List Char) (Match : Nat → Nat → Prop) (i : Nat) : Option Span → Prop
  | some span =>
    i ≤ span.start ∧ span.start ≤ text.length ∧ Match span.start span.stop ∧
      ∀ k, i ≤ k → k < span.start → ∀ j, ¬ Match k j
  | none => ∀ k, i ≤ k → k ≤ text.length → ∀ j, ¬ Match k j

/-- A search that passes a character goes on with it as the one before. -/
theorem of_drop_eq_cons {i : Nat} {c : Char} {rest : List Char} (hrest : text.drop i = c :: rest) :
    i < text.length ∧ previous text (i + 1) = some c ∧ text.drop (i + 1) = rest := by
  have hlt : i < text.length := by
    have hlength := congrArg List.length hrest
    rw [List.length_drop, List.length_cons] at hlength
    omega
  rw [List.drop_eq_getElem_cons hlt, List.cons.injEq] at hrest
  exact ⟨hlt, (List.getElem?_eq_getElem hlt).trans (congrArg some hrest.1), hrest.2⟩

theorem IsFirst.of_succ {Match : Nat → Nat → Prop} {i : Nat} (hnone : ∀ j, ¬ Match i j)
    {answer : Option Span} (hfirst : IsFirst text Match (i + 1) answer) :
    IsFirst text Match i answer := by
  have hlater : ∀ {k j}, i ≤ k → Match k j → i + 1 ≤ k := by
    intro k j hik hmatch
    apply Nat.lt_of_le_of_ne hik
    rintro rfl
    exact hnone j hmatch
  cases answer with
  | none =>
      intro k hik hk j hmatch
      exact hfirst k (hlater hik hmatch) hk j hmatch
  | some span =>
      obtain ⟨hstart, hlength, hmatch, hbetween⟩ := hfirst
      refine ⟨Nat.le_of_succ_le hstart, hlength, hmatch, ?_⟩
      intro k hik hk j hmatch
      exact hbetween k (hlater hik hmatch) hk j hmatch

namespace Node

/-- Where nothing comes after the node, the mark of a choice at a place is settled. -/
def Justified (text : List Char) (node : Node) (marks : Marks) (id i : Nat) : Prop :=
  node.Settled text marks (fun _ => False) id i

theorem justified_monotone (node : Node) : Monotone (node.Justified text) :=
  fun _ _ hmarks _ _ hsettled => Settled.mono hmarks le_rfl hsettled

/-- A state in which a search of the node may start: all choices have a bit, and those made at a
place are rightly passed over there. -/
structure Closed (text : List Char) (node : Node) (seen : Seen) : Prop where
  fits : ∀ id ∈ node.ids, seen.Fits id
  justified : ∀ id i, seen.marks text id i → node.Justified text (seen.marks text) id i

variable {node : Node} {seen seen' : Seen} {i : Nat}

theorem closed_unused {choices : Nat} (hids : ∀ id ∈ node.ids, id < choices) :
    node.Closed text (Seen.unused choices) := by
  constructor
  · intro id hid
    have hle : id / Seen.wordSize ≤ choices / Seen.wordSize :=
      Nat.div_le_div_right (Nat.le_of_lt (hids id hid))
    exact Nat.lt_succ_of_le hle
  · intro id i hmarked
    exact absurd hmarked (Seen.marks_unused text choices id i)

/-- A search from one place that finds nothing shows that no match begins there. -/
theorem closed_of_run_eq_exhausted (hnodup : node.ids.Nodup) (hclosed : node.Closed text seen)
    (hi : i ≤ text.length)
    (hrun : node.run (fun stop _ => .found stop) (place text i) seen = .exhausted seen') :
    node.Closed text seen' ∧ ∀ j, ¬ node.Matches text i j := by
  have hfound : ExploresAfter text (node.Justified text) (fun stop _ => .found stop)
      (fun _ _ => False) i seen := by
    intro j _ _ seen' _ _ seen'' hrun
    cases hrun
  have hready : node.Ready text (node.Justified text) (fun stop _ => .found stop)
      (fun _ _ => False) i seen :=
    ⟨fun _ _ _ => le_rfl, hnodup, hclosed.fits, fun _ _ _ _ h => h, hi, hfound⟩
  obtain ⟨hextends, hfails⟩ := explores_run (justified_monotone node) hready seen' hrun
  -- the old marks rest on fewer marks than there are now, the new ones on those of the search
  have hjustified : ∀ id j, seen'.marks text id j →
      node.Justified text (seen'.marks text) id j := by
    intro id j hmarked
    rcases hextends.caused id j hmarked with hold | hnew
    · exact justified_monotone node hextends.marks id j (hclosed.justified id j hold)
    · exact hnew
  refine ⟨⟨fun id hid => (hclosed.fits id hid).congr hextends.width, hjustified⟩, ?_⟩
  intro j hmatch
  exact dead_of_matches hjustified hi hfails hmatch

theorem matches_of_run_eq_found {stop : Cursor}
    (hrun : node.run (fun stop _ => .found stop) (place text i) seen = .found stop) :
    node.Matches text i stop.index := by
  obtain ⟨j, seen', hmatch, hstop⟩ := exists_of_run_eq_found hrun
  cases hstop
  exact hmatch

/-- What a search from a place on finds is a match in the text, whatever marks it starts with. -/
theorem matches_of_searchFrom_eq_some {span : Span} :
    ∀ (rest : List Char) {i : Nat} {seen : Seen}, text.drop i = rest → i ≤ text.length →
      searchFrom node i (previous text i) rest seen = some span →
      span.start ≤ text.length ∧ node.Matches text span.start span.stop := by
  intro rest
  induction rest with
  | nil =>
      intro i seen hrest hi hfound
      have hplace : place text i = ⟨i, previous text i, []⟩ := by rw [place, hrest]
      rw [searchFrom, ← hplace] at hfound
      split at hfound
      case h_1 stop hrun =>
        cases hfound
        exact ⟨hi, matches_of_run_eq_found hrun⟩
      case h_2 seen' hrun => cases hfound
  | cons c rest ih =>
      intro i seen hrest hi hfound
      obtain ⟨hlt, hprevious, hrest'⟩ := of_drop_eq_cons hrest
      have hplace : place text i = ⟨i, previous text i, c :: rest⟩ := by rw [place, hrest]
      rw [searchFrom, ← hplace] at hfound
      split at hfound
      case h_1 stop hrun =>
        cases hfound
        exact ⟨hi, matches_of_run_eq_found hrun⟩
      case h_2 seen' hrun =>
        -- nothing is found from here, and the search goes on at the next place with its marks
        rw [← hprevious] at hfound
        exact ih hrest' hlt hfound

theorem isFirst_searchFrom (hnodup : node.ids.Nodup) :
    ∀ (rest : List Char) {i : Nat} {seen : Seen}, text.drop i = rest → i ≤ text.length →
      node.Closed text seen →
      IsFirst text (node.Matches text) i (searchFrom node i (previous text i) rest seen) := by
  intro rest
  induction rest with
  | nil =>
      intro i seen hrest hi hclosed
      have hend : i = text.length := by
        have hle := List.drop_eq_nil_iff.mp hrest
        omega
      have hplace : place text i = ⟨i, previous text i, []⟩ := by rw [place, hrest]
      rw [searchFrom, ← hplace]
      split
      case h_1 stop hrun =>
        exact ⟨Nat.le_refl i, hi, matches_of_run_eq_found hrun,
          fun k hik hki => absurd hki (Nat.not_lt.mpr hik)⟩
      case h_2 seen' hrun =>
        intro k hik hk j
        obtain rfl : k = i := by omega
        exact (closed_of_run_eq_exhausted hnodup hclosed hi hrun).2 j
  | cons c rest ih =>
      intro i seen hrest hi hclosed
      obtain ⟨hlt, hprevious, hrest'⟩ := of_drop_eq_cons hrest
      have hplace : place text i = ⟨i, previous text i, c :: rest⟩ := by rw [place, hrest]
      rw [searchFrom, ← hplace]
      split
      case h_1 stop hrun =>
        exact ⟨Nat.le_refl i, hi, matches_of_run_eq_found hrun,
          fun k hik hki => absurd hki (Nat.not_lt.mpr hik)⟩
      case h_2 seen' hrun =>
        -- the marks of a search that finds nothing stay closed, and no match begins here
        obtain ⟨hclosed', hnone⟩ := closed_of_run_eq_exhausted hnodup hclosed hi hrun
        rw [← hprevious]
        exact (ih hrest' hlt hclosed').of_succ hnone

theorem isFirst_searchAtStart (hnodup : node.ids.Nodup) (hclosed : node.Closed text seen)
    (hanchored : ∀ i j, i ≤ text.length → node.Matches text i j → i = 0) :
    IsFirst text (node.Matches text) 0 (searchAtStart node text seen) := by
  have hplace : place text 0 = ⟨0, none, text⟩ := rfl
  rw [searchAtStart, ← hplace]
  split
  case h_1 stop hrun =>
    exact ⟨Nat.le_refl 0, Nat.zero_le _, matches_of_run_eq_found hrun,
      fun k _ hk => absurd hk (Nat.not_lt_zero k)⟩
  case h_2 seen' hrun =>
    intro k _ hk j hmatch
    obtain rfl := hanchored k j hk hmatch
    exact (closed_of_run_eq_exhausted hnodup hclosed (Nat.zero_le _) hrun).2 j hmatch

end Node

/-- What a search finds lies within the text, whatever node and choices it is made with. -/
theorem stop_le_length_of_find? {regex : Regex} {span : Span}
    (hfind : regex.find? text = some span) :
    span.stop ≤ text.length := by
  suffices hmatch : span.start ≤ text.length ∧ regex.node.Matches text span.start span.stop from
    Node.le_length_of_matches hmatch.2 hmatch.1
  unfold find? at hfind
  dsimp only at hfind
  split at hfind
  · have hplace : place text 0 = ⟨0, none, text⟩ := rfl
    rw [searchAtStart, ← hplace] at hfind
    split at hfind
    case h_1 stop hrun =>
      cases hfind
      exact ⟨Nat.zero_le _, Node.matches_of_run_eq_found hrun⟩
    case h_2 seen hrun => cases hfind
  · exact Node.matches_of_searchFrom_eq_some text rfl (Nat.zero_le _) hfind

/-- A search answers with a match that begins as far left as any, or shows that there is none. -/
theorem isFirst_find? (expr : Expr) (text : List Char) :
    IsFirst text (expr.Matches text) 0 ((ofExpr expr).find? text) := by
  have hnumbered := numbered_toNode expr 0
  have hmatches : (expr.toNode 0).1.Matches text = expr.Matches text := by
    funext i j
    exact propext (matches_toNode expr 0 i j)
  have hclosed : (expr.toNode 0).1.Closed text (Seen.unused (expr.toNode 0).2) :=
    Node.closed_unused fun id hid => (hnumbered.mem_ids id hid).2
  unfold find? ofExpr
  rw [← hmatches]
  by_cases hanchored : expr.isAnchored = true
  · rw [if_pos hanchored]
    refine Node.isFirst_searchAtStart hnumbered.nodup hclosed ?_
    intro i j hi hmatch
    rw [hmatches] at hmatch
    exact Expr.eq_zero_of_isAnchored hanchored hi hmatch
  · rw [if_neg hanchored]
    exact Node.isFirst_searchFrom hnumbered.nodup text rfl (Nat.zero_le _) hclosed

end Regex

end Transliteration
