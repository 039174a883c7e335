import Transliteration.Regex.Matcher

/-!
# What an expression matches

`Expr.Matches` says between which places of a text an expression matches, and `Node.Matches` says it
of a node.  Neither knows anything about an order of preference or about how a match is found.

A place is the number of characters before it.  A match never goes back and never leaves the text
(`Node.le_of_matches`, `Node.le_length_of_matches`).
-/

namespace Transliteration.Regex

/-- The character before a place of the text. -/
def previous (text : List Char) : Nat → Option Char
  | 0 => none
  | place + 1 => text[place]?

/-- Whether the condition holds at a place of the text. -/
def Look.HoldsAt (text : List Char) (look : Look) (place : Nat) : Prop :=
  look.holds (previous text place) text[place]? = true

/-! ## Rounds -/

/-- So many steps of a relation one after another. -/
def Times (step : Nat → Nat → Prop) : Nat → Nat → Nat → Prop
  | 0, i, j => i = j
  | count + 1, i, j => ∃ k, step i k ∧ Times step count k j

section

variable {step : Nat → Nat → Prop}

theorem times_one {i j : Nat} : Times step 1 i j ↔ step i j := by
  simp [Times]

theorem times_add {first second i j : Nat} :
    Times step (first + second) i j ↔ ∃ k, Times step first i k ∧ Times step second k j := by
  induction first generalizing i with
  | zero => simp [Times]
  | succ first ih =>
      rw [Nat.succ_add]
      simp only [Times, ih]
      constructor
      · rintro ⟨k, hstep, l, hfirst, hsecond⟩
        exact ⟨l, ⟨k, hstep, hfirst⟩, hsecond⟩
      · rintro ⟨l, ⟨k, hstep, hfirst⟩, hsecond⟩
        exact ⟨k, hstep, l, hfirst, hsecond⟩

theorem Times.imp {step' : Nat → Nat → Prop} (himp : ∀ i j, step i j → step' i j) :
    ∀ {count i j : Nat}, Times step count i j → Times step' count i j
  | 0, _, _, htimes => htimes
  | _ + 1, _, _, ⟨k, hstep, hrest⟩ => ⟨k, himp _ _ hstep, hrest.imp himp⟩

/-- What every step keeps is kept by any number of them. -/
theorem Times.invariant {P : Nat → Prop} (hstep : ∀ i j, P i → step i j → P j) :
    ∀ {count i j : Nat}, Times step count i j → P i → P j
  | 0, _, _, htimes, hi => htimes ▸ hi
  | _ + 1, _, _, ⟨_, hfirst, hrest⟩, hi => hrest.invariant hstep (hstep _ _ hi hfirst)

theorem Times.le (hstep : ∀ i j, step i j → i ≤ j) {count i j : Nat}
    (htimes : Times step count i j) : i ≤ j :=
  htimes.invariant (P := fun k => i ≤ k) (fun _ _ hi h => Nat.le_trans hi (hstep _ _ h))
    (Nat.le_refl i)

end

/-! ## Matches of an expression -/

/-- The expression matches the text between these places.  Of a repetition there are `least` rounds
and then as many more as make `most` in all. -/
def Expr.Matches (text : List Char) : Expr → Nat → Nat → Prop
  | .empty, i, j => i = j
  | .look condition, i, j => i = j ∧ condition.HoldsAt text i
  | .one set, i, j => j = i + 1 ∧ ∃ c, text[i]? = some c ∧ set.contains c = true
  | .capture _ body, i, j => body.Matches text i j
  | .seq first second, i, j => ∃ k, first.Matches text i k ∧ second.Matches text k j
  | .alt left right, i, j => left.Matches text i j ∨ right.Matches text i j
  | .rounds least most _ body, i, j =>
    ∃ more, (∀ most', most = some most' → more ≤ most' - least) ∧
      Times (body.Matches text) (least + more) i j

/-- The node matches the text between these places. -/
def Node.Matches (text : List Char) : Node → Nat → Nat → Prop
  | .empty, i, j => i = j
  | .look condition, i, j => i = j ∧ condition.HoldsAt text i
  | .one set, i, j => j = i + 1 ∧ ∃ c, text[i]? = some c ∧ set.contains c = true
  | .seq first second, i, j => ∃ k, first.Matches text i k ∧ second.Matches text k j
  | .choice _ first second, i, j => first.Matches text i j ∨ second.Matches text i j
  | .star _ _ body, i, j => ∃ count, Times (body.Matches text) count i j
  | .plus _ _ body, i, j => ∃ count, Times (body.Matches text) (count + 1) i j

variable {text : List Char}

/-! ## Where matches lie -/

theorem Node.le_of_matches {node : Node} {i j : Nat} (hmatch : node.Matches text i j) : i ≤ j := by
  induction node generalizing i j with
  | empty => exact Nat.le_of_eq hmatch
  | look condition => exact Nat.le_of_eq hmatch.1
  | one set => rw [hmatch.1]; exact Nat.le_succ i
  | seq first second ihfirst ihsecond =>
      obtain ⟨k, hfirst, hsecond⟩ := hmatch
      exact Nat.le_trans (ihfirst hfirst) (ihsecond hsecond)
  | choice id first second ihfirst ihsecond => exact hmatch.elim ihfirst ihsecond
  | star id greedy body ih =>
      obtain ⟨count, hcount⟩ := hmatch
      exact hcount.le fun _ _ => ih
  | plus id greedy body ih =>
      obtain ⟨count, hcount⟩ := hmatch
      exact hcount.le fun _ _ => ih

theorem Node.le_length_of_matches {node : Node} {i j : Nat} (hmatch : node.Matches text i j)
    (hi : i ≤ text.length) : j ≤ text.length := by
  induction node generalizing i j with
  | empty => exact hmatch ▸ hi
  | look condition => exact hmatch.1 ▸ hi
  | one set =>
      obtain ⟨rfl, c, hc, -⟩ := hmatch
      obtain ⟨hlt, -⟩ := List.getElem?_eq_some_iff.mp hc
      exact hlt
  | seq first second ihfirst ihsecond =>
      obtain ⟨k, hfirst, hsecond⟩ := hmatch
      exact ihsecond hsecond (ihfirst hfirst hi)
  | choice id first second ihfirst ihsecond =>
      exact hmatch.elim (ihfirst · hi) (ihsecond · hi)
  | star id greedy body ih =>
      obtain ⟨count, hcount⟩ := hmatch
      exact hcount.invariant (fun _ _ hi h => ih h hi) hi
  | plus id greedy body ih =>
      obtain ⟨count, hcount⟩ := hmatch
      exact hcount.invariant (fun _ _ hi h => ih h hi) hi

end Transliteration.Regex
