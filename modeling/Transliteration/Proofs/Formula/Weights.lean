import Mathlib.Data.List.Induction
import Transliteration.Formula

/-!
# Weights as a map

Weights that are given one after another hold, for each index, the last weight that has been given
for it (`mem_ofList_iff`), and nothing else tells weights apart (`eq_of_mem_iff`).
-/

namespace Transliteration.Weights

/-- An inserted weight takes the place of the one for its index. -/
theorem mem_insertEntry_iff {index : Nat} {weight : Int64} {entries : List (Nat × Int64)}
    (hascending : entries.Pairwise (·.1 < ·.1)) {entry : Nat × Int64} :
    entry ∈ insertEntry index weight entries ↔
      entry = (index, weight) ∨ (entry.1 ≠ index ∧ entry ∈ entries) := by
  induction entries with
  | nil => simp [insertEntry]
  | cons head rest ih =>
      obtain ⟨hhead, hrest⟩ := List.pairwise_cons.mp hascending
      have hlater : entry ∈ rest → head.1 < entry.1 := hhead entry
      rw [insertEntry]
      split
      · next hlt =>
        -- all the entries come after the index
        have hother : entry ∈ head :: rest → entry.1 ≠ index := by
          intro hentry
          rcases List.mem_cons.mp hentry with rfl | hentry
          · exact Nat.ne_of_gt hlt
          · exact Nat.ne_of_gt (Nat.lt_trans hlt (hlater hentry))
        rw [List.mem_cons]
        tauto
      · split
        · next heq =>
          rw [List.mem_cons, List.mem_cons]
          constructor
          · rintro (hentry | hentry)
            · exact .inl hentry
            · exact .inr ⟨by have := hlater hentry; omega, .inr hentry⟩
          · rintro (hentry | ⟨hne, rfl | hentry⟩)
            · exact .inl hentry
            · exact absurd heq.symm hne
            · exact .inr hentry
        · next hne =>
          rw [List.mem_cons, List.mem_cons, ih hrest]
          constructor
          · rintro (rfl | hentry | ⟨hother, hentry⟩)
            · exact .inr ⟨fun h => hne h.symm, .inl rfl⟩
            · exact .inl hentry
            · exact .inr ⟨hother, .inr hentry⟩
          · rintro (hentry | ⟨hother, rfl | hentry⟩)
            · exact .inr (.inl hentry)
            · exact .inl rfl
            · exact .inr (.inr ⟨hother, hentry⟩)

theorem mem_insert_iff {weights : Weights} {index : Nat} {weight : Int64}
    {entry : Nat × Int64} :
    entry ∈ (weights.insert index weight).toList ↔
      entry = (index, weight) ∨ (entry.1 ≠ index ∧ entry ∈ weights.toList) :=
  mem_insertEntry_iff weights.ascending

/-- The last weight that is given for an index counts. -/
theorem mem_ofList_iff {entries : List (Nat × Int64)} {entry : Nat × Int64} :
    entry ∈ (ofList entries).toList ↔ entries.reverse.lookup entry.1 = some entry.2 := by
  obtain ⟨index, weight⟩ := entry
  induction entries using List.reverseRecOn with
  | nil => simp [ofList, empty]
  | append_singleton entries last ih =>
      have hlast : ofList (entries ++ [last]) = (ofList entries).insert last.1 last.2 := by
        simp [ofList]
      rw [hlast, mem_insert_iff, ih, List.reverse_append, List.reverse_singleton,
        List.singleton_append, List.lookup_cons]
      obtain ⟨other, lastWeight⟩ := last
      by_cases hindex : index = other
      · subst hindex
        simp [eq_comm]
      · have hbeq : (index == other) = false := beq_false_of_ne hindex
        simp [hbeq, hindex, Prod.ext_iff]

/-- Weights with the same entries are equal. -/
theorem eq_of_mem_iff {weights others : Weights}
    (hsame : ∀ entry, entry ∈ weights.toList ↔ entry ∈ others.toList) : weights = others := by
  have hnodup : ∀ weights : Weights, weights.toList.Nodup := fun weights =>
    weights.ascending.imp fun hlt heq => absurd hlt (by rw [heq]; exact Nat.lt_irrefl _)
  have hperm := (List.perm_ext_iff_of_nodup (hnodup weights) (hnodup others)).mpr hsame
  have hlists : weights.toList = others.toList :=
    hperm.eq_of_pairwise (fun a b _ _ hab hba => absurd hab (Nat.lt_asymm hba))
      weights.ascending others.ascending
  cases weights
  cases others
  cases hlists
  rfl

end Transliteration.Weights
