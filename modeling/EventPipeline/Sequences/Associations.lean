import Mathlib.Data.List.Dedup
import Mathlib.Data.List.Sort

/-!
# EventPipeline.Sequences.Associations

Association lists without repeated keys.

Python programs fill a dict in a loop and read it by key. Where no key comes twice it
does not matter whether a later entry replaces an earlier one, and the dict is the list
of its entries.
-/

namespace EventPipeline.Sequences

variable {κ α ι : Type} [BEq κ] [LawfulBEq κ]

theorem lookup_of_mem {entries : List (κ × α)} (hnodup : (entries.map (·.1)).Nodup) {entry : κ × α}
    (h : entry ∈ entries) : entries.lookup entry.1 = some entry.2 := by
  induction entries with
  | nil => simp at h
  | cons first entries ih =>
      obtain ⟨key, value⟩ := first
      rw [List.map_cons, List.nodup_cons] at hnodup
      rcases List.mem_cons.mp h with rfl | hrest
      · exact List.lookup_cons_self
      · have hne : (entry.1 == key) = false := by
          simp only [beq_eq_false_iff_ne, ne_eq]
          rintro rfl
          exact hnodup.1 (List.mem_map.mpr ⟨entry, hrest, rfl⟩)
        simpa only [List.lookup_cons, hne] using ih hnodup.2 hrest

theorem mem_of_lookup {entries : List (κ × α)} {key : κ} {value : α}
    (h : entries.lookup key = some value) : (key, value) ∈ entries := by
  obtain ⟨before, after, rfl, -⟩ := List.lookup_eq_some_iff.mp h
  exact List.mem_append_right _ List.mem_cons_self

theorem lookup_eq_none_of_not_mem {entries : List (κ × α)} {key : κ}
    (h : key ∉ entries.map (·.1)) : entries.lookup key = none := by
  rw [List.lookup_eq_none_iff]
  rintro entry hentry
  simp only [bne_iff_ne, ne_eq]
  rintro rfl
  exact h (List.mem_map_of_mem hentry)

/-- A loop that appends the entries with a new key collects all of them where no key comes
twice, whatever it does with a key it has. -/
theorem foldl_fresh {step : List (κ × α) → ι → List (κ × α)} {entry : ι → κ × α} {items : List ι}
    (hstep : ∀ result, ∀ item ∈ items, result.lookup (entry item).1 = none →
      step result item = result ++ [entry item])
    (hnodup : (items.map fun item => (entry item).1).Nodup) :
    items.foldl step [] = items.map entry := by
  suffices h : ∀ result : List (κ × α),
      (result.map (·.1) ++ items.map fun item => (entry item).1).Nodup →
        items.foldl step result = result ++ items.map entry by
    simpa using h [] (by simpa using hnodup)
  clear hnodup
  induction items with
  | nil => simp
  | cons item items ih =>
      intro result hnodup
      have hnew : (entry item).1 ∉ result.map (·.1) := fun hmem =>
        List.disjoint_of_nodup_append hnodup hmem List.mem_cons_self
      rw [List.foldl_cons, hstep result item List.mem_cons_self (lookup_eq_none_of_not_mem hnew),
        ih (fun result item' hitem' => hstep result item' (List.mem_cons_of_mem item hitem')),
        List.map_cons, List.append_assoc, List.singleton_append]
      simpa using hnodup

/-- Sorting by a key gives the one list that is sorted by it strictly. -/
theorem insertionSort_eq {r : α → α → Prop} [DecidableRel r] [Std.Total r] [IsTrans α r]
    {values sorted : List α} (hperm : values.Perm sorted) (hsorted : sorted.Pairwise r)
    (hanti : ∀ a ∈ sorted, ∀ b ∈ sorted, r a b → r b a → a = b) :
    values.insertionSort r = sorted := by
  have hsame : (values.insertionSort r).Perm sorted := (List.perm_insertionSort r values).trans hperm
  exact hsame.eq_of_pairwise (fun a b ha hb => hanti a (hsame.subset ha) b hb)
    (List.pairwise_insertionSort r values) hsorted

end EventPipeline.Sequences
