import Mathlib.Data.Finset.Card
import Transliteration.Proofs.Pattern.Cache

/-!
# A cache and its history

Patterns are asked for one after another through a cache that was empty.  The main statement is
that this cannot be told from compiling each of them anew, and that the cache holds, once each, the
pairs of a source and an anchor that have been asked for and that compile.

## Strategy

`Remembers` relates a cache to the calls that have led to it.  What a call does to the keys of a
cache is a single equation, `keys_compile`; `Remembers.compile` is the step that it gives, and
`remembers_compileAll` the run.  The answers need only that the cache is faithful.
-/

namespace Transliteration

namespace Pattern

/-- What a cache tells a pattern from others by. -/
def key (pattern : Pattern) : String × Anchor := (pattern.source, pattern.anchor)

/-- The source compiles with the anchor. -/
def Compiles (call : String × Anchor) : Prop :=
  ∃ pattern, Pattern.compile call.1 call.2 = .ok pattern

variable {source : String} {anchor : Anchor}

theorem not_compiles_of_compile_eq_error {error : Error}
    (hcompile : compile source anchor = .error error) : ¬ Compiles (source, anchor) := by
  rintro ⟨pattern, hpattern⟩
  rw [hcompile] at hpattern
  cases hpattern

theorem key_of_compile {pattern : Pattern} (hcompile : compile source anchor = .ok pattern) :
    pattern.key = (source, anchor) := by
  obtain ⟨hsource, hanchor⟩ := source_of_compile hcompile
  rw [key, hsource, hanchor]

instance : DecidablePred Compiles := fun call =>
  match hcompile : Pattern.compile call.1 call.2 with
  | .ok pattern => .isTrue ⟨pattern, hcompile⟩
  | .error _ => .isFalse (not_compiles_of_compile_eq_error hcompile)

end Pattern

namespace PatternCache

variable {cache : PatternCache} {source : String} {anchor : Anchor}

/-! ## One call -/

/-- The keys of the patterns in the cache. -/
def keys (cache : PatternCache) : List (String × Anchor) := cache.patterns.map Pattern.key

theorem find?_eq_none_iff : cache.find? source anchor = none ↔ (source, anchor) ∉ cache.keys := by
  simp [find?, keys, Pattern.key]

/-- A call adds its own key, provided that the pattern compiles and is not there yet. -/
theorem keys_compile (cache : PatternCache) (source : String) (anchor : Anchor) :
    (cache.compile source anchor).2.keys =
      if (source, anchor) ∉ cache.keys ∧ Pattern.Compiles (source, anchor) then
        (source, anchor) :: cache.keys
      else cache.keys := by
  unfold PatternCache.compile
  cases hfind : cache.find? source anchor with
  | some pattern =>
      have hmem : (source, anchor) ∈ cache.keys := by
        by_contra hnot
        rw [find?_eq_none_iff.mpr hnot] at hfind
        cases hfind
      rw [if_neg fun hnew => hnew.1 hmem]
  | none =>
      have hnot := find?_eq_none_iff.mp hfind
      cases hcompile : Pattern.compile source anchor with
      | ok pattern =>
          rw [if_pos ⟨hnot, pattern, hcompile⟩, ← Pattern.key_of_compile hcompile]
          rfl
      | error error =>
          rw [if_neg fun hnew => Pattern.not_compiles_of_compile_eq_error hcompile hnew.2]

theorem nodup_keys_compile (hnodup : cache.keys.Nodup) (source : String) (anchor : Anchor) :
    (cache.compile source anchor).2.keys.Nodup := by
  rw [keys_compile]
  split_ifs with hnew
  · exact List.nodup_cons.mpr ⟨hnew.1, hnodup⟩
  · exact hnodup

theorem toFinset_keys_compile (cache : PatternCache) (source : String) (anchor : Anchor) :
    (cache.compile source anchor).2.keys.toFinset =
      if Pattern.Compiles (source, anchor) then insert (source, anchor) cache.keys.toFinset
      else cache.keys.toFinset := by
  rw [keys_compile]
  by_cases hmem : (source, anchor) ∈ cache.keys
  · rw [if_neg fun hnew => hnew.1 hmem, Finset.insert_eq_of_mem (List.mem_toFinset.mpr hmem),
      ite_self]
  · simp only [hmem, not_false_eq_true, true_and]
    rw [apply_ite List.toFinset, List.toFinset_cons]

/-- A call that fails leaves the cache as it is. -/
theorem Faithful.compile_of_eq_error (hcache : cache.Faithful) {error : Error}
    (hcompile : Pattern.compile source anchor = .error error) :
    cache.compile source anchor = (.error error, cache) := by
  unfold PatternCache.compile
  cases hfind : cache.find? source anchor with
  | some pattern =>
      rw [hcache.compile_of_find? hfind] at hcompile
      cases hcompile
  | none => simp only [hcompile]

/-! ## Calls one after another -/

/-- The answers to some calls, each through the cache that the ones before it have left. -/
def answers (cache : PatternCache) : List (String × Anchor) → List (Except Error Pattern)
  | [] => []
  | call :: calls =>
      (cache.compile call.1 call.2).1 :: answers (cache.compile call.1 call.2).2 calls

/-- Through a faithful cache, every call is answered as if it were the only one. -/
theorem Faithful.answers_eq (hcache : cache.Faithful) (calls : List (String × Anchor)) :
    cache.answers calls = calls.map fun call => Pattern.compile call.1 call.2 := by
  induction calls generalizing cache with
  | nil => rfl
  | cons call calls ih =>
      obtain ⟨hanswer, hnext⟩ := hcache.compile call.1 call.2
      rw [answers, List.map_cons, hanswer, ih hnext]

/-- The pairs of a source and an anchor among the calls that compile. -/
def compiled (calls : List (String × Anchor)) : Finset (String × Anchor) :=
  {call ∈ calls.toFinset | Pattern.Compiles call}

/-- The cache holds what has been compiled in these calls, and nothing twice. -/
structure Remembers (cache : PatternCache) (calls : List (String × Anchor)) : Prop where
  faithful : cache.Faithful
  nodup : cache.keys.Nodup
  toFinset : cache.keys.toFinset = compiled calls

theorem Remembers.size_eq {calls : List (String × Anchor)} (hcache : cache.Remembers calls) :
    cache.size = (compiled calls).card := by
  calc cache.size = cache.keys.length := by rw [keys, List.length_map, size]
    _ = cache.keys.toFinset.card := (List.toFinset_card_of_nodup hcache.nodup).symm
    _ = (compiled calls).card := by rw [hcache.toFinset]

theorem Remembers.isEmpty_iff {calls : List (String × Anchor)} (hcache : cache.Remembers calls) :
    cache.isEmpty = true ↔ ∀ call ∈ calls, ¬ Pattern.Compiles call := by
  calc cache.isEmpty = true ↔ cache.size = 0 := by
        rw [isEmpty, size, List.isEmpty_iff, List.length_eq_zero_iff]
    _ ↔ compiled calls = ∅ := by rw [hcache.size_eq, Finset.card_eq_zero]
    _ ↔ ∀ call ∈ calls, ¬ Pattern.Compiles call := by
        rw [compiled, Finset.filter_eq_empty_iff]
        simp only [List.mem_toFinset]

theorem compiled_append (calls : List (String × Anchor)) (call : String × Anchor) :
    compiled (calls ++ [call]) =
      if Pattern.Compiles call then insert call (compiled calls) else compiled calls := by
  unfold compiled
  rw [List.toFinset_append, List.toFinset_cons, List.toFinset_nil, Finset.union_comm,
    Finset.insert_union, Finset.empty_union, Finset.filter_insert]

/-- The step: one more call. -/
theorem Remembers.compile {calls : List (String × Anchor)} (hcache : cache.Remembers calls)
    (source : String) (anchor : Anchor) :
    (cache.compile source anchor).2.Remembers (calls ++ [(source, anchor)]) where
  faithful := (hcache.faithful.compile source anchor).2
  nodup := nodup_keys_compile hcache.nodup source anchor
  toFinset := by rw [toFinset_keys_compile, compiled_append, hcache.toFinset]

theorem compileAll_append (calls : List (String × Anchor)) (call : String × Anchor) :
    cache.compileAll (calls ++ [call]) =
      ((cache.compileAll calls).compile call.1 call.2).2 := by
  rw [compileAll, List.foldl_append]
  rfl

/-- The run: all calls on a new cache. -/
theorem remembers_compileAll (calls : List (String × Anchor)) :
    (compileAll {} calls).Remembers calls := by
  induction calls using List.reverseRecOn with
  | nil => exact ⟨faithful_empty, List.nodup_nil, rfl⟩
  | append_singleton calls call ih =>
      rw [compileAll_append]
      exact ih.compile call.1 call.2

/-! ## The main statement -/

/-- **A cache is transparent.**  Whatever has been asked for, every call on a cache that was new is
answered by what compiling gives: by the very pattern, which has this source and this anchor and
therefore matches alike in every text, or by the error, which names the source and leaves the cache
as it was.  The cache counts the distinct pairs that have been compiled, and is empty if there are
none. -/
theorem transparent (calls : List (String × Anchor)) :
    answers {} calls = (calls.map fun call => Pattern.compile call.1 call.2) ∧
      (compileAll {} calls).size = (compiled calls).card ∧
      ((compileAll {} calls).isEmpty = true ↔ ∀ call ∈ calls, ¬ Pattern.Compiles call) ∧
      ∀ source anchor,
        (∃ pattern, Pattern.compile source anchor = .ok pattern ∧
          ((compileAll {} calls).compile source anchor).1 = .ok pattern ∧
          pattern.source = source ∧ pattern.anchor = anchor) ∨
        ∃ reason, Pattern.compile source anchor = .error (.badPattern source reason) ∧
          (compileAll {} calls).compile source anchor =
            (.error (.badPattern source reason), compileAll {} calls) := by
  have hcache := remembers_compileAll calls
  refine ⟨faithful_empty.answers_eq calls, hcache.size_eq, hcache.isEmpty_iff, ?_⟩
  intro source anchor
  cases hcompile : Pattern.compile source anchor with
  | ok pattern =>
      obtain ⟨hsource, hanchor⟩ := Pattern.source_of_compile hcompile
      have hanswer : ((compileAll {} calls).compile source anchor).1 = .ok pattern :=
        (hcache.faithful.compile source anchor).1.trans hcompile
      exact .inl ⟨pattern, rfl, hanswer, hsource, hanchor⟩
  | error error =>
      obtain ⟨reason, rfl⟩ := Pattern.exists_of_compile_eq_error hcompile
      exact .inr ⟨reason, rfl, hcache.faithful.compile_of_eq_error hcompile⟩

-- One source takes a place for each of its anchors, and one that does not compile takes none.
example :
    (compileAll {} [("a", .start), ("a", .start), ("a", .finish), ("[", .start)]).size = 2 := by
  decide +kernel

end PatternCache

end Transliteration
