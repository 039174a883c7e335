import Transliteration.Proofs.Regex.Marks

/-!
# What the matcher explores

The matcher finds a match of a node exactly where there is one that what comes after goes on from.

## Strategy

* What a search finds lies after a match of the node: an induction on the node
  (`Node.exists_of_run_eq_found`).
* A search that finds nothing marks choices, and whoever marks one settles it before the search is
  over (`Node.explores_run`).  What the settling rests on may be marked later than the choice
  itself, so it is asked of the marks made in the end.
-/

namespace Transliteration.Regex

variable {text : List Char}

/-! ## Steps of a search -/

namespace Node

variable {next : Continue} {i : Nat} {seen : Seen}

theorem run_look {condition : Look} :
    (look condition).run next (place text i) seen =
      if condition.holds (previous text i) text[i]? then next (place text i) seen
      else .exhausted seen := by
  unfold run place
  rw [List.head?_drop]

theorem run_one_of_getElem? {set : CharSet} {c : Char} (hc : text[i]? = some c) :
    (one set).run next (place text i) seen =
      if set.contains c then next (place text (i + 1)) seen else .exhausted seen := by
  obtain ⟨hlt, rfl⟩ := List.getElem?_eq_some_iff.mp hc
  have hplace : place text (i + 1) = ⟨i + 1, some text[i], text.drop (i + 1)⟩ := by
    simp [place, previous, hlt]
  unfold run
  rw [hplace, place, List.drop_eq_getElem_cons hlt]

theorem run_one_of_length_le {set : CharSet} (hend : text.length ≤ i) :
    (one set).run next (place text i) seen = .exhausted seen := by
  unfold run place
  rw [List.drop_eq_nil_of_le hend]

end Node

/-! ## What a search does to the marks -/

/-- A search that has found nothing has taken no mark away, and has marked nothing without the given
cause, which may rest on all marks made by its end. -/
structure Extends (text : List Char) (Cause : Marks → Nat → Nat → Prop) (seen seen' : Seen) :
    Prop where
  width : seen'.width = seen.width
  marks : seen.marks text ≤ seen'.marks text
  caused : ∀ id i, seen'.marks text id i → seen.marks text id i ∨ Cause (seen'.marks text) id i

/-- If a search from the place finds nothing, it has extended the marks, and then the condition
holds there. -/
def Explores (text : List Char) (Cause : Marks → Nat → Nat → Prop) (next : Continue)
    (Dead : Marks → Nat → Prop) (i : Nat) (seen : Seen) : Prop :=
  ∀ seen', next (place text i) seen = .exhausted seen' →
    Extends text Cause seen seen' ∧ Dead (seen'.marks text) i

/-- The same at every place from a certain one on and however many marks have been added. -/
def ExploresAfter (text : List Char) (Cause : Marks → Nat → Nat → Prop) (next : Continue)
    (Dead : Marks → Nat → Prop) (i : Nat) (seen : Seen) : Prop :=
  ∀ j, i ≤ j → j ≤ text.length → ∀ seen' : Seen, seen'.width = seen.width →
    seen.marks text ≤ seen'.marks text → Explores text Cause next Dead j seen'

section

variable {Cause : Marks → Nat → Nat → Prop} {Dead Dead' : Marks → Nat → Prop}
  {seen seen' seen'' : Seen} {next next' : Continue} {i : Nat}

theorem Extends.refl (seen : Seen) : Extends text Cause seen seen :=
  ⟨rfl, fun _ _ h => h, fun _ _ h => .inl h⟩

theorem Extends.trans (hcause : Monotone Cause) (hfirst : Extends text Cause seen seen')
    (hsecond : Extends text Cause seen' seen'') : Extends text Cause seen seen'' := by
  refine ⟨hsecond.width.trans hfirst.width, le_trans hfirst.marks hsecond.marks, ?_⟩
  intro id i h
  rcases hsecond.caused id i h with h | h
  · exact (hfirst.caused id i h).imp_right (hcause hsecond.marks id i)
  · exact .inr h

/-- One search and then, if it finds nothing, another one. -/
theorem Explores.orElse (hcause : Monotone Cause) (hdead : Monotone Dead)
    (hfirst : Explores text Cause next Dead i seen)
    (hsecond : ∀ seen', seen'.width = seen.width → seen.marks text ≤ seen'.marks text →
      Explores text Cause next' Dead' i seen') :
    Explores text Cause (fun place seen => (next place seen).orElse (next' place))
      (fun marks i => Dead marks i ∧ Dead' marks i) i seen := by
  intro seen' hrun
  cases hnext : next (place text i) seen with
  | found stop => simp [hnext, Search.orElse] at hrun
  | exhausted between =>
      simp only [hnext, Search.orElse] at hrun
      obtain ⟨hextends, hdeadFirst⟩ := hfirst between hnext
      obtain ⟨hextends', hdeadSecond⟩ := hsecond between hextends.width hextends.marks seen' hrun
      exact ⟨hextends.trans hcause hextends', hdead hextends'.marks i hdeadFirst, hdeadSecond⟩

/-- A search that marks its choice first and passes it over where it is marked. -/
theorem Explores.choose {id : Nat} (next : Continue) (Dead : Marks → Nat → Prop)
    (hid : seen.Fits id)
    (hnext : ¬ seen.marks text id i →
      Explores text Cause next Dead i (seen.insert id (place text i)))
    (hcause : ∀ marks, Dead marks i → Cause marks id i) :
    Explores text Cause
      (fun place seen =>
        if seen.contains id place then .exhausted seen else next place (seen.insert id place))
      (fun marks => marks id) i seen := by
  intro seen' hrun
  by_cases hmarked : seen.contains id (place text i) = true
  · simp only [hmarked, if_true, Search.exhausted.injEq] at hrun
    subst hrun
    exact ⟨.refl seen, hid, hmarked⟩
  · simp only [if_neg hmarked] at hrun
    obtain ⟨hextends, hdead⟩ := hnext (fun h => hmarked h.2) seen' hrun
    refine ⟨⟨hextends.width, le_trans (Seen.marks_le_insert hid i) hextends.marks, ?_⟩, ?_⟩
    · -- of the new marks one is that of the choice, whose cause is what the search has shown
      intro other j h
      rcases hextends.caused other j h with h | h
      · rcases (Seen.marks_insert hid).mp h with ⟨rfl, rfl⟩ | h
        · exact .inr (hcause _ hdead)
        · exact .inl h
      · exact .inr h
    · exact hextends.marks id i ((Seen.marks_insert hid).mpr (.inl ⟨rfl, rfl⟩))

theorem ExploresAfter.mono {j : Nat} (hij : i ≤ j) (hwidth : seen'.width = seen.width)
    (hmarks : seen.marks text ≤ seen'.marks text)
    (hafter : ExploresAfter text Cause next Dead i seen) :
    ExploresAfter text Cause next Dead j seen' :=
  fun k hjk hk seen'' hwidth' hmarks' =>
    hafter k (Nat.le_trans hij hjk) hk seen'' (hwidth'.trans hwidth) (le_trans hmarks hmarks')

namespace Node

/-! ## The search of a node -/

/-- What the search of a node from a place on rests on: every mark of the node's own that is settled
has a cause, and whatever stands after the node explores. -/
structure Ready (text : List Char) (Cause : Marks → Nat → Nat → Prop) (node : Node)
    (next : Continue) (Dead : Marks → Nat → Prop) (i : Nat) (seen : Seen) : Prop where
  monotone : Monotone Dead
  nodup : node.ids.Nodup
  fits : ∀ id ∈ node.ids, seen.Fits id
  caused : ∀ marks id j, id ∈ node.ids → node.Settled text marks (Dead marks) id j →
    Cause marks id j
  inside : i ≤ text.length
  after : ExploresAfter text Cause next Dead i seen

namespace Ready

variable {node first second body : Node} {id j : Nat} {greedy : Bool}

theorem mono (hready : node.Ready text Cause next Dead i seen) (hij : i ≤ j)
    (hj : j ≤ text.length) (hwidth : seen'.width = seen.width)
    (hmarks : seen.marks text ≤ seen'.marks text) : node.Ready text Cause next Dead j seen' where
  monotone := hready.monotone
  nodup := hready.nodup
  fits := fun id hid => (hready.fits id hid).congr hwidth
  caused := hready.caused
  inside := hj
  after := hready.after.mono hij hwidth hmarks

theorem first_of_seq (hready : (seq first second).Ready text Cause next Dead i seen)
    (hsecond : ExploresAfter text Cause (second.run next)
      (fun marks => second.Fails text marks (Dead marks)) i seen) :
    first.Ready text Cause (second.run next) (fun marks => second.Fails text marks (Dead marks)) i
      seen where
  monotone := fun _ _ h => Fails.mono h (hready.monotone h)
  nodup := (List.nodup_append.mp hready.nodup).1
  fits := fun id hid => hready.fits id (List.mem_append_left _ hid)
  caused := by
    obtain ⟨-, -, hdisjoint⟩ := List.nodup_append.mp hready.nodup
    intro marks id j hid hsettled
    refine hready.caused marks id j (List.mem_append_left _ hid) ⟨hsettled, ?_⟩
    exact settled_of_not_mem fun h => hdisjoint id hid id h rfl
  inside := hready.inside
  after := hsecond

theorem second_of_seq (hready : (seq first second).Ready text Cause next Dead i seen) :
    second.Ready text Cause next Dead i seen where
  monotone := hready.monotone
  nodup := (List.nodup_append.mp hready.nodup).2.1
  fits := fun id hid => hready.fits id (List.mem_append_right _ hid)
  caused := by
    obtain ⟨-, -, hdisjoint⟩ := List.nodup_append.mp hready.nodup
    intro marks id j hid hsettled
    refine hready.caused marks id j (List.mem_append_right _ hid) ⟨?_, hsettled⟩
    exact settled_of_not_mem fun h => hdisjoint id h id hid rfl
  inside := hready.inside
  after := hready.after

/-- The first branch of a choice, once the choice is marked, may rest on its mark. -/
theorem left_of_choice (hready : (choice id first second).Ready text Cause next Dead i seen) :
    first.Ready text Cause next Dead i seen where
  monotone := hready.monotone
  nodup := (List.nodup_append.mp (List.nodup_cons.mp hready.nodup).2).1
  fits := fun other h => hready.fits other (List.mem_cons_of_mem _ (List.mem_append_left _ h))
  caused := by
    obtain ⟨hid, hrest⟩ := List.nodup_cons.mp hready.nodup
    obtain ⟨-, -, hdisjoint⟩ := List.nodup_append.mp hrest
    intro marks other j hother hsettled
    have hmem := List.mem_append_left second.ids hother
    refine hready.caused marks other j (List.mem_cons_of_mem _ hmem) ⟨?_, hsettled, ?_⟩
    · exact fun h => absurd (h ▸ hmem) hid
    · exact settled_of_not_mem fun h => hdisjoint other hother other h rfl
  inside := hready.inside
  after := hready.after

theorem right_of_choice (hready : (choice id first second).Ready text Cause next Dead i seen) :
    second.Ready text Cause next Dead i seen where
  monotone := hready.monotone
  nodup := (List.nodup_append.mp (List.nodup_cons.mp hready.nodup).2).2.1
  fits := fun other h => hready.fits other (List.mem_cons_of_mem _ (List.mem_append_right _ h))
  caused := by
    obtain ⟨hid, hrest⟩ := List.nodup_cons.mp hready.nodup
    obtain ⟨-, -, hdisjoint⟩ := List.nodup_append.mp hrest
    intro marks other j hother hsettled
    have hmem := List.mem_append_right first.ids hother
    refine hready.caused marks other j (List.mem_cons_of_mem _ hmem) ⟨?_, ?_, hsettled⟩
    · exact fun h => absurd (h ▸ hmem) hid
    · exact settled_of_not_mem fun h => hdisjoint other h other hother rfl
  inside := hready.inside
  after := hready.after

theorem caused_choice (hready : (choice id first second).Ready text Cause next Dead i seen)
    (marks : Marks) (hfails : first.Fails text marks (Dead marks) i ∧
      second.Fails text marks (Dead marks) i) : Cause marks id i := by
  obtain ⟨hid, -⟩ := List.nodup_cons.mp hready.nodup
  refine hready.caused marks id i (List.mem_cons_self ..) ⟨fun _ => hfails, ?_, ?_⟩
  · exact settled_of_not_mem fun h => hid (List.mem_append_left _ h)
  · exact settled_of_not_mem fun h => hid (List.mem_append_right _ h)

/-- The body of a loop is followed by the mark of the loop. -/
theorem body_of_star (hready : (star id greedy body).Ready text Cause next Dead i seen)
    (hrounds : ExploresAfter text Cause next' (fun marks => marks id) i seen) :
    body.Ready text Cause next' (fun marks => marks id) i seen where
  monotone := fun _ _ h => h id
  nodup := (List.nodup_cons.mp hready.nodup).2
  fits := fun other h => hready.fits other (List.mem_cons_of_mem _ h)
  caused := by
    obtain ⟨hid, -⟩ := List.nodup_cons.mp hready.nodup
    intro marks other j hother hsettled
    exact hready.caused marks other j (List.mem_cons_of_mem _ hother)
      ⟨fun h => absurd (h ▸ hother) hid, hsettled⟩
  inside := hready.inside
  after := hrounds

theorem caused_loop (hready : (star id greedy body).Ready text Cause next Dead i seen)
    (marks : Marks)
    (hround : (body.Fails text marks (marks id) i ∨ text.length ≤ i) ∧ Dead marks i) :
    Cause marks id i :=
  hready.caused marks id i (List.mem_cons_self ..)
    ⟨fun _ => hround, settled_of_not_mem (List.nodup_cons.mp hready.nodup).1⟩

/-- The two kinds of loops differ in how they begin only. -/
theorem star_of_plus (hready : (plus id greedy body).Ready text Cause next Dead i seen) :
    (star id greedy body).Ready text Cause next Dead i seen :=
  ⟨hready.monotone, hready.nodup, hready.fits, hready.caused, hready.inside, hready.after⟩

end Ready

/-- The rounds of a loop, where the bound leaves room for the rest of the text or else nothing
remains to be done. -/
theorem explores_rounds {id : Nat} {greedy : Bool} {body : Node} (hcause : Monotone Cause)
    (hbody : ∀ {next : Continue} {i : Nat} {seen : Seen},
      body.Ready text Cause next (fun marks => marks id) i seen →
      Explores text Cause (body.run next) (fun marks => body.Fails text marks (marks id)) i seen) :
    ∀ (bound : List Char) {i : Nat} {seen : Seen},
      (star id greedy body).Ready text Cause next Dead i seen →
      text.length ≤ i + bound.length ∨ seen.marks text id i →
      Explores text Cause (rounds (fun next => body.run next) id greedy next bound)
        (fun marks => marks id) i seen := by
  intro bound
  induction bound with
  | nil =>
      intro i seen hready hbound
      have hid := hready.fits id (List.mem_cons_self ..)
      refine Explores.choose next (fun marks i => text.length ≤ i ∧ Dead marks i) hid ?_ ?_
      · -- no character is left for a round, so it is enough to go on after the loop
        intro hmarked seen' hrun
        obtain ⟨hextends, hafter⟩ :=
          hready.after i (Nat.le_refl i) hready.inside (seen.insert id (place text i)) rfl
            (Seen.marks_le_insert hid i) seen' hrun
        exact ⟨hextends, hbound.resolve_right hmarked, hafter⟩
      · rintro marks ⟨hend, hafter⟩
        exact hready.caused_loop marks ⟨.inr hend, hafter⟩
  | cons c bound ih =>
      intro i seen hready hbound
      have hid := hready.fits id (List.mem_cons_self ..)
      have hfails : Monotone fun marks : Marks => body.Fails text marks (marks id) :=
        fun _ _ h => Fails.mono h (h id)
      have hround : ∀ {seen' : Seen}, ¬ seen.marks text id i → seen'.width = seen.width →
          (seen.insert id (place text i)).marks text ≤ seen'.marks text →
          Explores text Cause (body.run (rounds (fun next => body.run next) id greedy next bound))
            (fun marks => body.Fails text marks (marks id)) i seen' := by
        intro seen' hmarked hwidth hmarks
        have hready' := hready.mono (Nat.le_refl i) hready.inside hwidth
          (le_trans (Seen.marks_le_insert hid i) hmarks)
        apply hbody
        apply hready'.body_of_star
        intro j hij hj seen'' hwidth' hmarks'
        apply ih (hready'.mono hij hj hwidth' hmarks')
        -- a round that has matched nothing comes back to the mark just made
        by_cases hsame : i = j
        · subst hsame
          have hmark : (seen.insert id (place text i)).marks text id i :=
            (Seen.marks_insert hid).mpr (.inl ⟨rfl, rfl⟩)
          exact .inr (hmarks' id i (hmarks id i hmark))
        · have hroom := hbound.resolve_right hmarked
          rw [List.length_cons] at hroom
          left
          omega
      have hafter : ∀ {seen' : Seen}, seen'.width = seen.width →
          (seen.insert id (place text i)).marks text ≤ seen'.marks text →
          Explores text Cause next Dead i seen' := fun hwidth hmarks =>
        hready.after i (Nat.le_refl i) hready.inside _ hwidth
          (le_trans (Seen.marks_le_insert hid i) hmarks)
      cases greedy with
      | true =>
          refine Explores.choose
            (fun place seen => (body.run (rounds (fun next => body.run next) id true next bound)
              place seen).orElse (next place))
            (fun marks i => body.Fails text marks (marks id) i ∧ Dead marks i) hid ?_ ?_
          · intro hmarked
            exact (hround hmarked (Seen.width_insert ..) le_rfl).orElse hcause hfails
              fun _ => hafter
          · rintro marks ⟨hround, hrest⟩
            exact hready.caused_loop marks ⟨.inl hround, hrest⟩
      | false =>
          refine Explores.choose
            (fun place seen => (next place seen).orElse
              (body.run (rounds (fun next => body.run next) id false next bound) place))
            (fun marks i => Dead marks i ∧ body.Fails text marks (marks id) i) hid ?_ ?_
          · intro hmarked
            exact (hafter (Seen.width_insert ..) le_rfl).orElse hcause hready.monotone
              fun _ => hround hmarked
          · rintro marks ⟨hrest, hround⟩
            exact hready.caused_loop marks ⟨.inl hround, hrest⟩

/-- A node that goes on where nothing is matched, or nowhere. -/
theorem explores_look {condition : Look}
    (hready : (look condition).Ready text Cause next Dead i seen) :
    Explores text Cause ((look condition).run next)
      (fun marks => (look condition).Fails text marks (Dead marks)) i seen := by
  intro seen' hrun
  rw [run_look] at hrun
  by_cases hholds : condition.holds (previous text i) text[i]? = true
  · rw [if_pos hholds] at hrun
    obtain ⟨hextends, hdead⟩ :=
      hready.after i (Nat.le_refl i) hready.inside seen rfl le_rfl seen' hrun
    exact ⟨hextends, fun j hj => hj.1 ▸ hdead⟩
  · rw [if_neg hholds, Search.exhausted.injEq] at hrun
    exact hrun ▸ ⟨.refl seen, fun j hj => absurd hj.2 hholds⟩

theorem explores_one {set : CharSet} (hready : (one set).Ready text Cause next Dead i seen) :
    Explores text Cause ((one set).run next)
      (fun marks => (one set).Fails text marks (Dead marks)) i seen := by
  intro seen' hrun
  by_cases hlt : i < text.length
  · have hc := List.getElem?_eq_getElem hlt
    rw [run_one_of_getElem? hc] at hrun
    by_cases hset : set.contains text[i] = true
    · rw [if_pos hset] at hrun
      obtain ⟨hextends, hdead⟩ :=
        hready.after (i + 1) (Nat.le_succ i) hlt seen rfl le_rfl seen' hrun
      exact ⟨hextends, fun j hj => hj.1 ▸ hdead⟩
    · rw [if_neg hset, Search.exhausted.injEq] at hrun
      refine hrun ▸ ⟨.refl seen, fun j hj => ?_⟩
      obtain ⟨-, c, hc', hset'⟩ := hj
      exact absurd (Option.some.inj (hc.symm.trans hc') ▸ hset') hset
  · have hend := Nat.le_of_not_lt hlt
    rw [run_one_of_length_le hend, Search.exhausted.injEq] at hrun
    refine hrun ▸ ⟨.refl seen, fun j hj => ?_⟩
    obtain ⟨-, c, hc, -⟩ := hj
    rw [List.getElem?_eq_none hend] at hc
    cases hc

/-- A search that goes on after the node explores the node. -/
theorem explores_run {node : Node} (hcause : Monotone Cause) :
    ∀ {next : Continue} {Dead : Marks → Nat → Prop} {i : Nat} {seen : Seen},
      node.Ready text Cause next Dead i seen →
      Explores text Cause (node.run next) (fun marks => node.Fails text marks (Dead marks)) i
        seen := by
  induction node with
  | empty =>
      intro next Dead i seen hready seen' hrun
      obtain ⟨hextends, hdead⟩ :=
        hready.after i (Nat.le_refl i) hready.inside seen rfl le_rfl seen' hrun
      exact ⟨hextends, fun j hj => hj ▸ hdead⟩
  | look condition => intro next Dead i seen hready; exact explores_look hready
  | one set => intro next Dead i seen hready; exact explores_one hready
  | seq first second ihfirst ihsecond =>
      intro next Dead i seen hready
      apply ihfirst
      apply hready.first_of_seq
      intro j hij hj seen' hwidth hmarks
      exact ihsecond (hready.second_of_seq.mono hij hj hwidth hmarks)
  | choice id first second ihfirst ihsecond =>
      intro next Dead i seen hready
      have hid := hready.fits id (List.mem_cons_self ..)
      have hmarked := hready.mono (Nat.le_refl i) hready.inside
        (Seen.width_insert seen id (place text i)) (Seen.marks_le_insert hid i)
      refine Explores.choose
        (fun place seen => (first.run next place seen).orElse (second.run next place))
        (fun marks i =>
          first.Fails text marks (Dead marks) i ∧ second.Fails text marks (Dead marks) i)
        hid ?_ hready.caused_choice
      intro _
      refine (ihfirst hmarked.left_of_choice).orElse hcause
        (fun _ _ h => Fails.mono h (hready.monotone h)) ?_
      intro seen' hwidth hmarks
      exact ihsecond (hmarked.right_of_choice.mono (Nat.le_refl i) hready.inside hwidth hmarks)
  | star id greedy body ih =>
      intro next Dead i seen hready
      apply explores_rounds hcause ih (text.drop i) hready
      rw [List.length_drop]
      left
      omega
  | plus id greedy body ih =>
      intro next Dead i seen hready
      -- the first round goes by without a mark
      have hrounds : ExploresAfter text Cause
          (rounds (fun next => body.run next) id greedy next (text.drop i))
          (fun marks => marks id) i seen := by
        intro j hij hj seen' hwidth hmarks
        apply explores_rounds hcause ih (text.drop i)
          (hready.star_of_plus.mono hij hj hwidth hmarks)
        rw [List.length_drop]
        left
        omega
      exact ih (hready.star_of_plus.body_of_star hrounds)

end Node

end

/-! ## What a search finds -/

theorem Search.orElse_eq_found {first : Search} {next : Seen → Search} {stop : Cursor}
    (hfound : first.orElse next = .found stop) :
    first = .found stop ∨ ∃ seen, next seen = .found stop := by
  cases first with
  | found stop' => exact .inl hfound
  | exhausted seen => exact .inr ⟨seen, hfound⟩

namespace Node

variable {stop : Cursor}

theorem exists_of_rounds_eq_found {body : Node} {id : Nat} {greedy : Bool} {next : Continue}
    (hbody : ∀ {next : Continue} {i : Nat} {seen : Seen},
      body.run next (place text i) seen = .found stop →
      ∃ j seen', body.Matches text i j ∧ next (place text j) seen' = .found stop) :
    ∀ (bound : List Char) {i : Nat} {seen : Seen},
      rounds (fun next => body.run next) id greedy next bound (place text i) seen = .found stop →
      ∃ count j seen', Times (body.Matches text) count i j ∧
        next (place text j) seen' = .found stop := by
  intro bound
  induction bound with
  | nil =>
      intro i seen hrun
      rw [rounds] at hrun
      split at hrun
      case isTrue => cases hrun
      case isFalse => exact ⟨0, i, _, rfl, hrun⟩
  | cons c bound ih =>
      intro i seen hrun
      have hround : ∀ seen', body.run (rounds (fun next => body.run next) id greedy next bound)
          (place text i) seen' = .found stop →
          ∃ count j seen', Times (body.Matches text) count i j ∧
            next (place text j) seen' = .found stop := by
        intro seen' hround
        obtain ⟨k, between, hmatch, hrest⟩ := hbody hround
        -- the rounds that follow are bounded by one less
        obtain ⟨count, j, last, htimes, hnext⟩ := ih hrest
        exact ⟨count + 1, j, last, ⟨k, hmatch, htimes⟩, hnext⟩
      rw [rounds] at hrun
      split at hrun
      case isTrue => cases hrun
      case isFalse =>
        cases greedy with
        | true =>
            rcases Search.orElse_eq_found hrun with hrun | ⟨seen', hrun⟩
            · exact hround _ hrun
            · exact ⟨0, i, seen', rfl, hrun⟩
        | false =>
            rcases Search.orElse_eq_found hrun with hrun | ⟨seen', hrun⟩
            · exact ⟨0, i, _, rfl, hrun⟩
            · exact hround seen' hrun

/-- What a search finds lies after a match of the node. -/
theorem exists_of_run_eq_found {node : Node} :
    ∀ {next : Continue} {i : Nat} {seen : Seen}, node.run next (place text i) seen = .found stop →
      ∃ j seen', node.Matches text i j ∧ next (place text j) seen' = .found stop := by
  induction node with
  | empty => intro next i seen hrun; exact ⟨i, seen, rfl, hrun⟩
  | look condition =>
      intro next i seen hrun
      rw [run_look] at hrun
      split at hrun
      case isTrue hholds => exact ⟨i, seen, ⟨rfl, hholds⟩, hrun⟩
      case isFalse => cases hrun
  | one set =>
      intro next i seen hrun
      by_cases hlt : i < text.length
      · have hc := List.getElem?_eq_getElem hlt
        rw [run_one_of_getElem? hc] at hrun
        split at hrun
        case isTrue hset => exact ⟨i + 1, seen, ⟨rfl, _, hc, hset⟩, hrun⟩
        case isFalse => cases hrun
      · rw [run_one_of_length_le (Nat.le_of_not_lt hlt)] at hrun
        cases hrun
  | seq first second ihfirst ihsecond =>
      intro next i seen hrun
      -- the search goes on from where the first part ends, with the marks made by then
      obtain ⟨k, between, hfirst, hrest⟩ := ihfirst hrun
      obtain ⟨j, last, hsecond, hnext⟩ := ihsecond hrest
      exact ⟨j, last, ⟨k, hfirst, hsecond⟩, hnext⟩
  | choice id first second ihfirst ihsecond =>
      intro next i seen hrun
      rw [run] at hrun
      split at hrun
      case isTrue => cases hrun
      case isFalse =>
        rcases Search.orElse_eq_found hrun with hrun | ⟨seen', hrun⟩
        · obtain ⟨j, last, hfirst, hnext⟩ := ihfirst hrun
          exact ⟨j, last, .inl hfirst, hnext⟩
        · obtain ⟨j, last, hsecond, hnext⟩ := ihsecond hrun
          exact ⟨j, last, .inr hsecond, hnext⟩
  | star id greedy body ih =>
      intro next i seen hrun
      obtain ⟨count, j, last, htimes, hnext⟩ := exists_of_rounds_eq_found ih _ hrun
      exact ⟨j, last, ⟨count, htimes⟩, hnext⟩
  | plus id greedy body ih =>
      intro next i seen hrun
      obtain ⟨k, between, hfirst, hrest⟩ := ih hrun
      obtain ⟨count, j, last, htimes, hnext⟩ := exists_of_rounds_eq_found ih _ hrest
      exact ⟨j, last, ⟨count, k, hfirst, htimes⟩, hnext⟩

end Node

end Transliteration.Regex
