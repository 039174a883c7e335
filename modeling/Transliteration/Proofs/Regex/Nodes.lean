import Transliteration.Proofs.Regex.Matches

/-!
# The node of an expression

Two facts about `Expr.toNode`, which writes out bounded repetitions and numbers the choices.

* `matches_toNode`: the node matches what the expression matches.
* `numbered_toNode`: no number occurs twice, and all of them lie between the two numbers that the
  building of the node starts and ends with.

Both are inductions on the expression.  The copies of a repeated body are built by `Node.prepend`
and `Node.upTo`, for which the two facts are shown for any way to build a copy.
-/

namespace Transliteration.Regex

/-- The numbers of the choices in a node. -/
def Node.ids : Node → List Nat
  | .empty => []
  | .look _ => []
  | .one _ => []
  | .seq first second => first.ids ++ second.ids
  | .choice id first second => id :: (first.ids ++ second.ids)
  | .star id _ body => id :: body.ids
  | .plus id _ body => id :: body.ids

/-! ## What the node matches -/

section

variable {text : List Char} {step : Nat → Nat → Prop} {build : Nat → Node × Nat}

@[simp] theorem Node.matches_prefer {id : Nat} {greedy : Bool} {first second : Node} {i j : Nat} :
    (Node.prefer id greedy first second).Matches text i j ↔
      first.Matches text i j ∨ second.Matches text i j := by
  cases greedy with
  | true => exact Iff.rfl
  | false => exact or_comm

/-- Copies in front of a node are rounds before it. -/
theorem Node.matches_prepend (hbuild : ∀ next i j, (build next).1.Matches text i j ↔ step i j) :
    ∀ (count : Nat) (built : Node × Nat) (i j : Nat),
      (Node.prepend build count built).1.Matches text i j ↔
        ∃ k, Times step count i k ∧ built.1.Matches text k j := by
  intro count
  induction count with
  | zero => intro built i j; simp [Node.prepend, Times]
  | succ count ih =>
      intro built i j
      obtain ⟨tail, next⟩ := built
      rw [Node.prepend, ih]
      simp only [Node.Matches, hbuild, times_add, times_one]
      constructor
      · rintro ⟨k, htimes, l, hstep, htail⟩
        exact ⟨l, ⟨k, htimes, hstep⟩, htail⟩
      · rintro ⟨l, ⟨k, htimes, hstep⟩, htail⟩
        exact ⟨k, htimes, l, hstep, htail⟩

/-- Optional copies in front of some optional rounds are more optional rounds. -/
theorem Node.matches_upTo (greedy : Bool)
    (hbuild : ∀ next i j, (build next).1.Matches text i j ↔ step i j) :
    ∀ (count : Nat) (built : Node × Nat) (some : Nat),
      (∀ i j, built.1.Matches text i j ↔ ∃ rounds ≤ some, Times step rounds i j) →
      ∀ i j, (Node.upTo build greedy count built).1.Matches text i j ↔
        ∃ rounds ≤ some + count, Times step rounds i j := by
  intro count
  induction count with
  | zero => intro built some hbuilt i j; exact hbuilt i j
  | succ count ih =>
      intro built some hbuilt i j
      obtain ⟨tail, next⟩ := built
      rw [Node.upTo, ih _ (some + 1), Nat.add_right_comm, Nat.add_assoc]
      intro i j
      simp only [Node.matches_prefer, Node.Matches, hbuild, hbuilt]
      -- the copy in front is taken, and the rounds behind it are one fewer, or none is
      constructor
      · rintro (⟨k, hstep, rounds, hle, htimes⟩ | rfl)
        · exact ⟨rounds + 1, by omega, k, hstep, htimes⟩
        · exact ⟨0, by omega, rfl⟩
      · rintro ⟨rounds, hle, htimes⟩
        cases rounds with
        | zero => exact .inr htimes
        | succ rounds =>
            obtain ⟨k, hstep, htimes⟩ := htimes
            exact .inl ⟨k, hstep, rounds, by omega, htimes⟩

/-- The node of an expression matches what the expression matches. -/
theorem matches_toNode (expr : Expr) :
    ∀ (next i j : Nat), (expr.toNode next).1.Matches text i j ↔ expr.Matches text i j := by
  induction expr with
  | empty => intro next i j; exact Iff.rfl
  | look condition => intro next i j; exact Iff.rfl
  | one set => intro next i j; exact Iff.rfl
  | capture index body ih => exact ih
  | seq first second ihfirst ihsecond =>
      intro next i j
      simp only [Expr.toNode, Node.Matches, Expr.Matches, ihfirst, ihsecond]
  | alt left right ihleft ihright =>
      intro next i j
      simp only [Expr.toNode, Node.Matches, Expr.Matches, ihleft, ihright]
  | rounds least most greedy body ih =>
      intro next i j
      have hbody : ∀ next, (body.toNode next).1.Matches text = body.Matches text := by
        intro next
        funext i j
        exact propext (ih next i j)
      match least, most with
      | 0, none =>
          simp only [Expr.Matches, reduceCtorEq, false_implies, implies_true, true_and,
            Nat.zero_add]
          rw [Expr.toNode]
          split
          · simp only [Node.Matches, hbody]
          · -- a body that may be empty is tried once first, so no round or one and more
            simp only [Node.matches_prefer, Node.Matches, hbody]
            constructor
            · rintro (⟨count, htimes⟩ | rfl)
              · exact ⟨count + 1, htimes⟩
              · exact ⟨0, rfl⟩
            · rintro ⟨count, htimes⟩
              cases count with
              | zero => exact .inr htimes
              | succ count => exact .inl ⟨count, htimes⟩
      | least + 1, none =>
          simp only [Expr.Matches, reduceCtorEq, false_implies, implies_true, true_and]
          rw [Expr.toNode, Node.matches_prepend ih]
          simp only [Node.Matches, hbody, ← exists_and_left]
          rw [exists_comm]
          simp only [← times_add, Nat.add_assoc, Nat.add_comm 1]
      | least, some most =>
          simp only [Expr.Matches, Option.some.injEq, forall_eq']
          rw [Expr.toNode, Node.matches_prepend ih]
          simp only [Node.matches_upTo greedy ih (most - least) (.empty, next) 0 (by
            intro i j
            simp [Node.Matches, Times]), Nat.zero_add]
          constructor
          · rintro ⟨k, hfirst, more, hle, hmore⟩
            exact ⟨more, hle, times_add.mpr ⟨k, hfirst, hmore⟩⟩
          · rintro ⟨more, hle, htimes⟩
            obtain ⟨k, hfirst, hmore⟩ := times_add.mp htimes
            exact ⟨k, hfirst, more, hle, hmore⟩

end

/-! ## How the choices are numbered -/

/-- No choice of the node that has been built has the number of another one, and the numbers lie
between the two given and left over. -/
structure Numbered (least : Nat) (built : Node × Nat) : Prop where
  nodup : built.1.ids.Nodup
  mem_ids : ∀ id ∈ built.1.ids, least ≤ id ∧ id < built.2
  le : least ≤ built.2

section

variable {least : Nat} {build : Nat → Node × Nat}

theorem Numbered.of_ids_eq_nil {node : Node} (hids : node.ids = []) :
    Numbered least (node, least) :=
  ⟨by simp [hids], by simp [hids], Nat.le_refl _⟩

/-- A node that is built after another one stands beside it. -/
theorem Numbered.seq {first second : Node × Nat} (hfirst : Numbered least first)
    (hsecond : Numbered first.2 second) : Numbered least (.seq first.1 second.1, second.2) := by
  refine ⟨List.nodup_append.mpr ⟨hfirst.nodup, hsecond.nodup, ?_⟩, ?_, ?_⟩
  · intro id hid other hother
    have hlt := (hfirst.mem_ids id hid).2
    have hle := (hsecond.mem_ids other hother).1
    omega
  · intro id hid
    have hle := hsecond.le
    have hleast := hfirst.le
    rcases List.mem_append.mp hid with hid | hid
    · have := hfirst.mem_ids id hid
      omega
    · have := hsecond.mem_ids id hid
      omega
  · exact Nat.le_trans hfirst.le hsecond.le

/-- In front of a node comes a copy that is built after it. -/
theorem Numbered.seq_swap {first second : Node × Nat} (hfirst : Numbered least first)
    (hsecond : Numbered first.2 second) : Numbered least (.seq second.1 first.1, second.2) := by
  obtain ⟨hnodup, hids, hle⟩ := hfirst.seq hsecond
  have hperm : (Node.seq second.1 first.1).ids.Perm (Node.seq first.1 second.1).ids :=
    List.perm_append_comm
  exact ⟨hperm.nodup_iff.mpr hnodup, fun id hid => hids id (hperm.mem_iff.mp hid), hle⟩

/-- Another choice takes the next number before its parts are numbered. -/
theorem Numbered.cons {node : Node} (built : Node × Nat) (next : Nat)
    (hbuilt : Numbered least built) (hids : node.ids.Perm (next :: built.1.ids))
    (hnext : least ≤ next ∧ next < built.2) (hfresh : next ∉ built.1.ids) :
    Numbered least (node, built.2) := by
  refine ⟨hids.nodup_iff.mpr (List.nodup_cons.mpr ⟨hfresh, hbuilt.nodup⟩), ?_, hbuilt.le⟩
  intro id hid
  rcases List.mem_cons.mp (hids.mem_iff.mp hid) with rfl | hid
  · exact hnext
  · exact hbuilt.mem_ids id hid

/-- A choice over a node that is built after it. -/
theorem Numbered.over {node : Node} {built : Node × Nat} (hbuilt : Numbered (least + 1) built)
    (hids : node.ids = least :: built.1.ids) : Numbered least (node, built.2) := by
  have hwider : Numbered least built := by
    refine ⟨hbuilt.nodup, fun id hid => ?_, Nat.le_of_succ_le hbuilt.le⟩
    obtain ⟨hle, hlt⟩ := hbuilt.mem_ids id hid
    exact ⟨Nat.le_of_succ_le hle, hlt⟩
  have hfresh : least ∉ built.1.ids := by
    intro hid
    exact Nat.lt_irrefl _ (hbuilt.mem_ids least hid).1
  exact hwider.cons built least (.of_eq hids) ⟨Nat.le_refl _, hbuilt.le⟩ hfresh

theorem Node.ids_prefer_perm (id : Nat) (greedy : Bool) (first second : Node) :
    (Node.prefer id greedy first second).ids.Perm (id :: (first.ids ++ second.ids)) := by
  cases greedy with
  | true => exact .refl _
  | false => exact List.perm_append_comm.cons id

theorem Numbered.prepend (hbuild : ∀ next, Numbered next (build next)) :
    ∀ (count : Nat) (built : Node × Nat), Numbered least built →
      Numbered least (Node.prepend build count built) := by
  intro count
  induction count with
  | zero => intro built hbuilt; exact hbuilt
  | succ count ih =>
      intro built hbuilt
      exact ih _ (hbuilt.seq_swap (hbuild built.2))

theorem Numbered.upTo (greedy : Bool) (hbuild : ∀ next, Numbered next (build next)) :
    ∀ (count : Nat) (built : Node × Nat), Numbered least built →
      Numbered least (Node.upTo build greedy count built) := by
  intro count
  induction count with
  | zero => intro built hbuilt; exact hbuilt
  | succ count ih =>
      intro built hbuilt
      obtain ⟨tail, next⟩ := built
      refine ih _ ?_
      -- the number `next` lies between those of the tail and those of the copy
      have hcopy := hbuild (next + 1)
      have hle := hbuilt.le
      have hgap : Numbered least (tail, next + 1) :=
        ⟨hbuilt.nodup, fun id hid => by have := hbuilt.mem_ids id hid; simp only at this ⊢; omega,
          by simp only at hle ⊢; omega⟩
      have hseq : Numbered least (.seq (build (next + 1)).1 tail, (build (next + 1)).2) :=
        hgap.seq_swap hcopy
      refine hseq.cons (.seq (build (next + 1)).1 tail, (build (next + 1)).2) next ?_ ?_ ?_
      · refine (Node.ids_prefer_perm ..).trans (.cons next ?_)
        simp [Node.ids]
      · have := hcopy.le
        simp only at hle ⊢
        omega
      · intro hid
        rcases List.mem_append.mp hid with hid | hid
        · have := (hcopy.mem_ids next hid).1
          omega
        · have := (hbuilt.mem_ids next hid).2
          exact Nat.lt_irrefl _ this

/-- The choices of the node of an expression have numbers of their own, from the given one on. -/
theorem numbered_toNode (expr : Expr) : ∀ next, Numbered next (expr.toNode next) := by
  induction expr with
  | empty => intro next; exact .of_ids_eq_nil rfl
  | look condition => intro next; exact .of_ids_eq_nil rfl
  | one set => intro next; exact .of_ids_eq_nil rfl
  | capture index body ih => exact ih
  | seq first second ihfirst ihsecond =>
      intro next
      exact (ihfirst next).seq (ihsecond _)
  | alt left right ihleft ihright =>
      intro next
      exact ((ihleft (next + 1)).seq (ihright _)).over rfl
  | rounds least most greedy body ih =>
      intro next
      match least, most with
      | 0, none =>
          rw [Expr.toNode]
          split
          · exact (ih (next + 1)).over rfl
          -- a body that may match nothing needs a choice of its own around its loop
          · have hplus : Numbered (next + 1)
                (Node.plus (next + 1) greedy (body.toNode (next + 2)).1,
                  (body.toNode (next + 2)).2) := (ih (next + 2)).over rfl
            have hchoice : Numbered next
                (.choice next (.plus (next + 1) greedy (body.toNode (next + 2)).1) .empty,
                  (body.toNode (next + 2)).2) := hplus.over (by simp [Node.ids])
            obtain ⟨hnodup, hids, hle⟩ := hchoice
            have hperm := Node.ids_prefer_perm next greedy
              (.plus (next + 1) greedy (body.toNode (next + 2)).1) .empty
            exact ⟨hperm.nodup_iff.mpr hnodup, fun id hid => hids id (hperm.mem_iff.mp hid), hle⟩
      | least + 1, none =>
          rw [Expr.toNode]
          exact .prepend ih least _ ((ih (next + 1)).over rfl)
      | least, some most =>
          rw [Expr.toNode]
          exact .prepend ih least _ (.upTo greedy ih _ _ (.of_ids_eq_nil rfl))

end

/-! ## Matches of an expression -/

namespace Expr

variable {text : List Char} {expr : Expr} {i j : Nat}

theorem le_of_matches (hmatch : expr.Matches text i j) : i ≤ j :=
  Node.le_of_matches ((matches_toNode expr 0 i j).mpr hmatch)

theorem le_length_of_matches (hmatch : expr.Matches text i j) (hi : i ≤ text.length) :
    j ≤ text.length :=
  Node.le_length_of_matches ((matches_toNode expr 0 i j).mpr hmatch) hi

/-- An expression that matches places only does not move on. -/
theorem eq_of_isPlace (hplace : expr.isPlace = true) (hmatch : expr.Matches text i j) : i = j := by
  induction expr generalizing i j with
  | empty => exact hmatch
  | look condition => exact hmatch.1
  | one set => simp [isPlace] at hplace
  | capture index body ih => exact ih hplace hmatch
  | seq first second ihfirst ihsecond =>
      obtain ⟨hfirst, hsecond⟩ := Bool.and_eq_true_iff.mp hplace
      obtain ⟨k, hik, hkj⟩ := hmatch
      exact (ihfirst hfirst hik).trans (ihsecond hsecond hkj)
  | alt left right ihleft ihright =>
      obtain ⟨hleft, hright⟩ := Bool.and_eq_true_iff.mp hplace
      exact hmatch.elim (ihleft hleft) (ihright hright)
  | rounds least most greedy body ih =>
      obtain ⟨more, hmore, htimes⟩ := hmatch
      rcases Bool.or_eq_true_iff.mp hplace with hnone | hbody
      · obtain ⟨rfl, rfl⟩ : least = 0 ∧ most = some 0 := by simpa using hnone
        obtain rfl : more = 0 := Nat.le_zero.mp (hmore 0 rfl)
        exact htimes
      · exact htimes.invariant (fun _ _ hk h => hk.trans (ih hbody h)) rfl

/-- What `isAnchored` finds out is true of every match. -/
theorem eq_zero_of_isAnchored (hanchored : expr.isAnchored = true) (hi : i ≤ text.length)
    (hmatch : expr.Matches text i j) : i = 0 := by
  induction expr generalizing i j with
  | empty => simp [isAnchored] at hanchored
  | look condition =>
      cases condition with
      | textStart =>
          have hnone : previous text i = none := by simpa [Look.HoldsAt, Look.holds] using hmatch.2
          cases i with
          | zero => rfl
          | succ i =>
              have := List.getElem?_eq_none_iff.mp hnone
              omega
      | _ => simp [isAnchored] at hanchored
  | one set => simp [isAnchored] at hanchored
  | capture index body ih => exact ih hanchored hi hmatch
  | seq first second ihfirst ihsecond =>
      obtain ⟨k, hik, hkj⟩ := hmatch
      rcases Bool.or_eq_true_iff.mp hanchored with hfirst | hsecond
      · exact ihfirst hfirst hi hik
      · obtain ⟨hplace, hsecond⟩ := Bool.and_eq_true_iff.mp hsecond
        -- the first part matches a place only, so the second one begins where it does
        obtain rfl := eq_of_isPlace hplace hik
        exact ihsecond hsecond hi hkj
  | alt left right ihleft ihright =>
      obtain ⟨hleft, hright⟩ := Bool.and_eq_true_iff.mp hanchored
      exact hmatch.elim (ihleft hleft hi) (ihright hright hi)
  | rounds least most greedy body ih =>
      obtain ⟨hleast, hbody⟩ := Bool.and_eq_true_iff.mp hanchored
      obtain ⟨more, -, htimes⟩ := hmatch
      -- at least one round is made
      obtain ⟨count, hcount⟩ : ∃ count, least + more = count + 1 :=
        ⟨least + more - 1, by simp at hleast; omega⟩
      rw [hcount] at htimes
      obtain ⟨k, hik, -⟩ := htimes
      exact ih hbody hi hik

/-- What `isAnchoredAtEnd` finds out is true of every match. -/
theorem eq_length_of_isAnchoredAtEnd (hanchored : expr.isAnchoredAtEnd = true)
    (hi : i ≤ text.length) (hmatch : expr.Matches text i j) : j = text.length := by
  induction expr generalizing i j with
  | empty => simp [isAnchoredAtEnd] at hanchored
  | look condition =>
      cases condition with
      | textEnd =>
          obtain ⟨rfl, hend⟩ := hmatch
          have hle : text.length ≤ i := by simpa [Look.HoldsAt, Look.holds] using hend
          omega
      | _ => simp [isAnchoredAtEnd] at hanchored
  | one set => simp [isAnchoredAtEnd] at hanchored
  | capture index body ih => exact ih hanchored hi hmatch
  | seq first second ihfirst ihsecond =>
      obtain ⟨k, hik, hkj⟩ := hmatch
      rcases Bool.or_eq_true_iff.mp hanchored with hsecond | hfirst
      · exact ihsecond hsecond (le_length_of_matches hik hi) hkj
      · obtain ⟨hplace, hfirst⟩ := Bool.and_eq_true_iff.mp hfirst
        obtain rfl := eq_of_isPlace hplace hkj
        exact ihfirst hfirst hi hik
  | alt left right ihleft ihright =>
      obtain ⟨hleft, hright⟩ := Bool.and_eq_true_iff.mp hanchored
      exact hmatch.elim (ihleft hleft hi) (ihright hright hi)
  | rounds least most greedy body ih =>
      obtain ⟨hleast, hbody⟩ := Bool.and_eq_true_iff.mp hanchored
      obtain ⟨more, -, htimes⟩ := hmatch
      obtain ⟨count, hcount⟩ : ∃ count, least + more = count + 1 :=
        ⟨least + more - 1, by simp at hleast; omega⟩
      rw [hcount] at htimes
      -- it is the last round that ends at the end of the text
      obtain ⟨k, hfirst, hlast⟩ := times_add.mp htimes
      have hk : k ≤ text.length :=
        hfirst.invariant (fun _ _ hk h => le_length_of_matches h hk) hi
      exact ih hbody hk (times_one.mp hlast)

end Expr

end Transliteration.Regex
