import Mathlib.Data.List.Forall2
import Transliteration.Pattern.Cache

/-!
# What a cache makes no difference to

A cache that holds only what compiling gives is faithful (`PatternCache.Faithful`), and it stays so
whatever is compiled through it.  A faithful cache answers as if there were none, and therefore so
does every computation that asks it for patterns.

## Strategy

A computation through a cache is compared with one that has none: whatever faithful cache it starts
from, it ends in a faithful one, and either both fail with the same error or both lead to related
values (`Compiling.Agrees`).  This is kept when computations follow one another (`agrees_bind`) and
when they go through a list (`agrees_mapM`), so that it has to be shown for a single pattern only
(`agrees_pattern`).  A computation that agrees with one without a cache leads to the same result
through every faithful cache (`Compiling.Independent`).
-/

namespace Transliteration

namespace Pattern

variable {source : String} {anchor : Anchor}

theorem source_of_compile {pattern : Pattern} (hcompile : compile source anchor = .ok pattern) :
    pattern.source = source ∧ pattern.anchor = anchor := by
  unfold compile at hcompile
  split at hcompile
  · cases hcompile
    exact ⟨rfl, rfl⟩
  · cases hcompile

/-- The error of a pattern that does not compile names its source. -/
theorem exists_of_compile_eq_error {error : Error}
    (hcompile : compile source anchor = .error error) :
    ∃ reason, error = .badPattern source reason := by
  unfold compile at hcompile
  split at hcompile
  · cases hcompile
  · cases hcompile
    exact ⟨_, rfl⟩

end Pattern

/-! ## The cache -/

namespace PatternCache

variable {cache : PatternCache}

/-- Every pattern in the cache is what compiling gives for its source and its anchor. -/
def Faithful (cache : PatternCache) : Prop :=
  ∀ pattern ∈ cache.patterns, Pattern.compile pattern.source pattern.anchor = .ok pattern

theorem Faithful.compile_of_find? (hcache : cache.Faithful) {source : String} {anchor : Anchor}
    {pattern : Pattern} (hfind : cache.find? source anchor = some pattern) :
    Pattern.compile source anchor = .ok pattern := by
  have hpattern := hcache pattern (List.mem_of_find?_eq_some hfind)
  have hkey := List.find?_some hfind
  simp only [Bool.and_eq_true, beq_iff_eq] at hkey
  rw [hkey.1, hkey.2] at hpattern
  exact hpattern

/-- A faithful cache answers as if there were none, and stays faithful. -/
theorem Faithful.compile (hcache : cache.Faithful) (source : String) (anchor : Anchor) :
    (cache.compile source anchor).1 = Pattern.compile source anchor ∧
      (cache.compile source anchor).2.Faithful := by
  unfold PatternCache.compile
  cases hfind : cache.find? source anchor with
  | some pattern => exact ⟨(hcache.compile_of_find? hfind).symm, hcache⟩
  | none =>
      cases hcompile : Pattern.compile source anchor with
      | error error => exact ⟨rfl, hcache⟩
      | ok pattern =>
          refine ⟨rfl, ?_⟩
          intro other hother
          rcases List.mem_cons.mp hother with rfl | hother
          · obtain ⟨hsource, hanchor⟩ := Pattern.source_of_compile hcompile
            rw [hsource, hanchor]
            exact hcompile
          · exact hcache other hother

/-- The cache after some patterns have been asked for, one after another. -/
def compileAll (cache : PatternCache) (calls : List (String × Anchor)) : PatternCache :=
  calls.foldl (fun cache call => (cache.compile call.1 call.2).2) cache

/-- A cache that has been filled by compiling is faithful. -/
theorem faithful_compileAll (calls : List (String × Anchor)) : (compileAll {} calls).Faithful := by
  have hfold : ∀ (calls : List (String × Anchor)) (cache : PatternCache), cache.Faithful →
      (cache.compileAll calls).Faithful := by
    intro calls
    induction calls with
    | nil => exact fun cache hcache => hcache
    | cons call calls ih => exact fun cache hcache => ih _ (hcache.compile call.1 call.2).2
  refine hfold calls {} ?_
  intro pattern hpattern
  cases hpattern

theorem faithful_empty : Faithful {} := faithful_compileAll []

end PatternCache

/-! ## Results -/

/-- Both results are the same error, or values that are related. -/
inductive SameResult {α β : Type} (Related : α → β → Prop) : Except Error α → Except Error β → Prop
  | error (error : Error) : SameResult Related (.error error) (.error error)
  | ok {a : α} {b : β} (hrelated : Related a b) : SameResult Related (.ok a) (.ok b)

namespace SameResult

variable {α β : Type} {Related : α → β → Prop} {first : Except Error α} {second : Except Error β}

theorem of_eq {first second : Except Error α} (heq : first = second) :
    SameResult (· = ·) first second := by
  subst heq
  cases first with
  | error error => exact .error error
  | ok a => exact .ok rfl

theorem exists_ok_iff (hsame : SameResult Related first second) :
    (∃ a, first = .ok a) ↔ ∃ b, second = .ok b := by
  cases hsame <;> simp

theorem eq_error_iff (hsame : SameResult Related first second) (error : Error) :
    first = .error error ↔ second = .error error := by
  cases hsame <;> simp

/-- Where only equal values are related, both results are equal. -/
theorem eq {first second : Except Error α} (hsame : SameResult (· = ·) first second) :
    first = second := by
  cases hsame with
  | error error => rfl
  | ok heq => rw [heq]

theorem related (hsame : SameResult Related first second) {a : α} {b : β} (hfirst : first = .ok a)
    (hsecond : second = .ok b) : Related a b := by
  cases hsame with
  | error error => cases hfirst
  | ok hrelated =>
      cases hfirst
      cases hsecond
      exact hrelated

end SameResult

/-! ## Computations through a cache -/

namespace Compiling

variable {α β γ δ : Type} {Related : α → β → Prop} {Related' : γ → δ → Prop}

/-- Through any faithful cache the computation leads to the same result as the one without a cache,
and leaves a faithful cache. -/
def Agrees (Related : α → β → Prop) (compiling : Compiling α) (result : Except Error β) : Prop :=
  ∀ cache, cache.Faithful →
    SameResult Related (compiling.run cache).1 result ∧ (compiling.run cache).2.Faithful

theorem agrees_pattern (source : String) (anchor : Anchor) :
    Agrees (· = ·) (pattern source anchor) (Pattern.compile source anchor) := by
  intro cache hcache
  obtain ⟨hresult, hfaithful⟩ := hcache.compile source anchor
  exact ⟨.of_eq hresult, hfaithful⟩

theorem agrees_pure {a : α} {b : β} (hrelated : Related a b) :
    Agrees Related (pure a) (pure b) :=
  fun _ hcache => ⟨.ok hrelated, hcache⟩

theorem agrees_bind {compiling : Compiling α} {result : Except Error β} {next : α → Compiling γ}
    {next' : β → Except Error δ} (hfirst : Agrees Related compiling result)
    (hnext : ∀ a b, Related a b → Agrees Related' (next a) (next' b)) :
    Agrees Related' (compiling >>= next) (result >>= next') := by
  intro cache hcache
  obtain ⟨hsame, hfaithful⟩ := hfirst cache hcache
  have hrun : (compiling >>= next).run cache =
      ExceptT.bindCont next (compiling.run cache).1 (compiling.run cache).2 := rfl
  rw [hrun]
  generalize (compiling.run cache).1 = answer at hsame
  cases hsame with
  | error error => exact ⟨.error error, hfaithful⟩
  | ok hrelated => exact hnext _ _ hrelated _ hfaithful

theorem agrees_mapM {ι : Type} {compile : ι → Compiling α} {build : ι → Except Error β}
    (hagrees : ∀ record, Agrees Related (compile record) (build record)) (records : List ι) :
    Agrees (List.Forall₂ Related) (records.mapM compile) (records.mapM build) := by
  induction records with
  | nil => exact agrees_pure .nil
  | cons record records ih =>
      rw [List.mapM_cons, List.mapM_cons]
      refine agrees_bind (hagrees record) fun a b hrelated => ?_
      refine agrees_bind ih fun as bs hothers => ?_
      exact agrees_pure (.cons hrelated hothers)

/-! ## Computations that a cache makes no difference to -/

/-- Through every faithful cache the computation leads to the result that it leads to through an
empty one, and leaves a faithful cache. -/
def Independent (compiling : Compiling α) : Prop := Agrees (· = ·) compiling (compiling.run {}).1

/-- A computation that agrees with one without a cache is independent of it. -/
theorem independent_of_agrees {compiling : Compiling α} {result : Except Error α}
    (hagrees : Agrees (· = ·) compiling result) : Independent compiling := by
  have hempty : (compiling.run {}).1 = result :=
    (hagrees {} PatternCache.faithful_empty).1.eq
  rw [Independent, hempty]
  exact hagrees

theorem independent_pattern (source : String) (anchor : Anchor) :
    Independent (pattern source anchor) :=
  independent_of_agrees (agrees_pattern source anchor)

theorem independent_pure (a : α) : Independent (pure a) := independent_of_agrees (agrees_pure rfl)

theorem independent_bind {compiling : Compiling α} {next : α → Compiling γ}
    (hfirst : Independent compiling) (hnext : ∀ a, Independent (next a)) :
    Independent (compiling >>= next) := by
  have hagrees : ∀ a b, a = b → Agrees (· = ·) (next a) ((next b).run {}).1 := by
    rintro a _ rfl
    exact hnext a
  exact independent_of_agrees (agrees_bind hfirst hagrees)

theorem independent_mapM {ι : Type} {compile : ι → Compiling α}
    (hcompile : ∀ record, Independent (compile record)) (records : List ι) :
    Independent (records.mapM compile) := by
  induction records with
  | nil => exact independent_pure []
  | cons record records ih =>
      rw [List.mapM_cons]
      refine independent_bind (hcompile record) fun a => ?_
      exact independent_bind ih fun as => independent_pure (a :: as)

end Compiling

end Transliteration
