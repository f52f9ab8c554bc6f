import Mathlib.Data.List.Sort
import Mathlib.Order.Basic

/-!
# EventPipeline.Sequences.TopBy

The entries of a list with the greatest keys.

`topBy` sorts and cuts. Where the keys are different its result is characterised by
`IsTop`, which does not mention the order of the list, and it may be computed from any part
of the list that has enough entries above each one it leaves out.
-/

namespace EventPipeline.Sequences

variable {α κ : Type} [LinearOrder κ]

/-- The first `k` entries in descending order of the key. -/
def topBy (key : α → κ) (k : Nat) (values : List α) : List α :=
  (values.insertionSort fun a b => key b ≤ key a).take k

/-- `top` has the `k` entries with the greatest keys, or all if there are fewer, in
descending order and each once. -/
structure IsTop (key : α → κ) (k : Nat) (values top : List α) : Prop where
  length : top.length = min k values.length
  descending : top.Pairwise fun a b => key b < key a
  subset : ∀ a ∈ top, a ∈ values
  greatest : ∀ other ∈ values, other ∉ top → ∀ a ∈ top, key other < key a

variable {key : α → κ} {k : Nat} {values all : List α}

/-- Sorting by different keys is strict: two neighbours are in order, and their keys differ. -/
theorem pairwise_insertionSort_lt (hnodup : (values.map key).Nodup) :
    (values.insertionSort fun a b => key b ≤ key a).Pairwise fun a b => key b < key a := by
  have : Std.Total fun (a b : α) => key b ≤ key a := ⟨fun a b => le_total (key b) (key a)⟩
  have : IsTrans α fun a b => key b ≤ key a := ⟨fun _ _ _ hab hbc => hbc.trans hab⟩
  have hsorted := List.pairwise_insertionSort (fun a b => key b ≤ key a) values
  have hdistinct : ((values.insertionSort fun a b => key b ≤ key a).map key).Nodup :=
    (((List.perm_insertionSort _ values).map key).nodup_iff).mpr hnodup
  rw [List.Nodup, List.pairwise_map] at hdistinct
  exact (hsorted.and hdistinct).imp fun h => lt_of_le_of_ne h.1 (Ne.symm h.2)

/-- Entries of the sorted list that are cut off are below the ones that are kept. -/
theorem topBy_greatest (hnodup : (values.map key).Nodup) {other : α} (hother : other ∈ values)
    (hout : other ∉ topBy key k values) : ∀ a ∈ topBy key k values, key other < key a := by
  have hsorted := pairwise_insertionSort_lt hnodup
  rw [← List.take_append_drop k (values.insertionSort _), List.pairwise_append] at hsorted
  have hmem : other ∈ values.insertionSort fun a b => key b ≤ key a :=
    (List.mem_insertionSort _).mpr hother
  rw [← List.take_append_drop k (values.insertionSort _), List.mem_append] at hmem
  exact fun a ha => hsorted.2.2 a ha other (hmem.resolve_left hout)

/-- The top of a part of a list is the top of the list, when every entry that is left out
has `k` entries above it in the part. -/
theorem isTop_topBy (hkeys : (values.map key).Nodup) (hall : (all.map key).Nodup)
    (hsubset : values ⊆ all)
    (habove : ∀ other ∈ all, other ∉ values →
      ∃ above : List α, above.Nodup ∧ above ⊆ values ∧ k ≤ above.length ∧
        ∀ a ∈ above, key other < key a) :
    IsTop key k all (topBy key k values) := by
  have hvalues : values.Nodup := List.Nodup.of_map key hkeys
  have hmem : ∀ a ∈ topBy key k values, a ∈ values := fun a ha =>
    (List.mem_insertionSort _).mp (List.mem_of_mem_take ha)
  have hlength : (topBy key k values).length = min k values.length := by
    rw [topBy, List.length_take, List.length_insertionSort]
  refine ⟨?_, (pairwise_insertionSort_lt hkeys).sublist (List.take_sublist k _),
    fun a ha => hsubset (hmem a ha), fun other hother hout a ha => ?_⟩
  · -- a part that leaves something out has at least `k` entries
    rw [hlength]
    by_cases hpart : all ⊆ values
    · have hperm := (List.subperm_of_subset hvalues hsubset).antisymm
        (List.subperm_of_subset (List.Nodup.of_map key hall) hpart)
      rw [hperm.length_eq]
    · simp only [List.subset_def, not_forall, exists_prop] at hpart
      obtain ⟨other, hother, hout⟩ := hpart
      obtain ⟨above, hnodup, habove_subset, hk, -⟩ := habove other hother hout
      have hle := (List.subperm_of_subset hnodup habove_subset).length_le
      have hle' := (List.subperm_of_subset hvalues hsubset).length_le
      omega
  · by_cases hin : other ∈ values
    · exact topBy_greatest hkeys hin hout a ha
    · -- were `a` not above `other`, the `k` entries above `other` would be kept with it
      by_contra hlt
      obtain ⟨above, hnodup, habove_subset, hk, habove_key⟩ := habove other hother hin
      have hkept : ∀ b ∈ above, b ∈ topBy key k values := by
        intro b hb
        by_contra hcut
        have := topBy_greatest hkeys (habove_subset hb) hcut a ha
        exact hlt ((habove_key b hb).trans this)
      have ha_out : a ∉ above := fun hmem => hlt (habove_key a hmem)
      have hmore := (List.subperm_of_subset (List.nodup_cons.mpr ⟨ha_out, hnodup⟩)
        (List.cons_subset.mpr ⟨ha, hkept⟩)).length_le
      rw [List.length_cons, hlength] at hmore
      omega

end EventPipeline.Sequences
