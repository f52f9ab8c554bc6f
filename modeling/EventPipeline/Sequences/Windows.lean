import Mathlib.Data.List.Dedup
import Mathlib.Data.List.Chain
import Mathlib.Data.Finset.Card

/-!
# EventPipeline.Sequences.Windows

Adjacent entries and sliding windows of a list.

A scan that looks at neighbours, or at every window of a fixed width, sees in a longer
list whatever it saw in a prefix. The lemmas here say so for the pairs, for the windows
and for the number of different values.
-/

namespace EventPipeline.Sequences

variable {α β : Type}

/-! ### Adjacent entries -/

/-- Every entry with the one after it. -/
def adjacent (values : List α) : List (α × α) := values.zip values.tail

@[simp] theorem adjacent_nil : adjacent ([] : List α) = [] := rfl

@[simp] theorem adjacent_singleton (a : α) : adjacent [a] = [] := rfl

@[simp] theorem adjacent_cons_cons (a b : α) (values : List α) :
    adjacent (a :: b :: values) = (a, b) :: adjacent (b :: values) := rfl

theorem mem_adjacent_append {xs : List α} (ys : List α) {pair : α × α} (h : pair ∈ adjacent xs) :
    pair ∈ adjacent (xs ++ ys) := by
  induction xs with
  | nil => simp at h
  | cons a xs ih =>
      cases xs with
      | nil => simp at h
      | cons b xs =>
          rw [adjacent_cons_cons, List.mem_cons] at h
          rw [List.cons_append, List.cons_append, adjacent_cons_cons, List.mem_cons]
          exact h.imp id ih

theorem adjacent_map (f : α → β) (values : List α) :
    adjacent (values.map f) = (adjacent values).map (Prod.map f f) := by
  rw [adjacent, adjacent, ← List.map_tail, List.zip_map]

/-- A relation between neighbours is a chain. -/
theorem forall_adjacent {R : α → α → Prop} {values : List α} :
    (∀ pair ∈ adjacent values, R pair.1 pair.2) ↔ values.IsChain R := by
  induction values with
  | nil => simp
  | cons a values ih =>
      cases values with
      | nil => simp
      | cons b values =>
          rw [adjacent_cons_cons, List.forall_mem_cons, ih, List.isChain_cons_cons]

/-- In an increasing list the neighbours are the entries with none between them. -/
theorem isChain_iff_between {R : α → α → Prop} {f : α → Int} {values : List α}
    (h : values.Pairwise fun a b => f a < f b) :
    values.IsChain R ↔ ∀ a ∈ values, ∀ b ∈ values, f a < f b →
      (∀ c ∈ values, f a < f c → f b ≤ f c) → R a b := by
  -- only the first two entries of the list are new neighbours
  induction values with
  | nil => simp
  | cons first values ih =>
      obtain ⟨hfirst, hrest⟩ := List.pairwise_cons.mp h
      cases values with
      | nil =>
          refine ⟨fun _ a ha b hb hlt => ?_, fun _ => List.isChain_singleton _⟩
          rw [List.mem_singleton.mp ha, List.mem_singleton.mp hb] at hlt
          exact absurd hlt (lt_irrefl _)
      | cons second values =>
          have hsecond := hfirst second List.mem_cons_self
          rw [List.isChain_cons_cons, ih hrest]
          constructor
          · intro ⟨hrel, hall⟩ a ha b hb hlt hbetween
            rcases List.mem_cons.mp hb with rfl | hbrest
            · rcases List.mem_cons.mp ha with rfl | harest
              · exact absurd hlt (lt_irrefl _)
              · exact absurd hlt (lt_asymm (hfirst a harest))
            rcases List.mem_cons.mp ha with rfl | harest
            · -- the second entry is not after `b`, which is not the first
              have hle := hbetween second (by simp) hsecond
              rcases List.mem_cons.mp hbrest with rfl | hlater
              · exact hrel
              · exact absurd ((List.pairwise_cons.mp hrest).1 b hlater) (not_lt.mpr hle)
            · exact hall a harest b hbrest hlt fun c hc => hbetween c (List.mem_cons_of_mem _ hc)
          · intro hall
            refine ⟨hall first List.mem_cons_self second (by simp) hsecond fun c hc hlt => ?_,
              fun a ha b hb hlt hbetween => ?_⟩
            · rcases List.mem_cons.mp hc with rfl | hc
              · exact absurd hlt (lt_irrefl _)
              · rcases List.mem_cons.mp hc with rfl | hc
                · exact le_refl _
                · exact ((List.pairwise_cons.mp hrest).1 c hc).le
            · refine hall a (List.mem_cons_of_mem _ ha) b (List.mem_cons_of_mem _ hb) hlt
                fun c hc hlt' => ?_
              rcases List.mem_cons.mp hc with rfl | hc
              · exact absurd hlt' (lt_asymm (hfirst a ha))
              · exact hbetween c hc hlt'

/-! ### Windows

A window is found by its start. More entries at the end of a list leave the windows that were
there where they are. -/

/-- The `width` entries from `start` on. -/
def windowAt (width : Nat) (values : List α) (start : Nat) : List α :=
  (values.drop start).take width

/-- The starts of the full windows that satisfy a test. -/
def matchingStarts (width : Nat) (test : List α → Bool) (values : List α) : List Nat :=
  (List.range (values.length + 1 - width)).filter fun start => test (windowAt width values start)

theorem mem_matchingStarts {width : Nat} {test : List α → Bool}
    {values : List α} {start : Nat} :
    start ∈ matchingStarts width test values ↔
      start + width ≤ values.length ∧ test (windowAt width values start) = true := by
  rw [matchingStarts, List.mem_filter, List.mem_range]
  exact and_congr_left fun _ => by omega

theorem windowAt_append {width start : Nat} {xs : List α} (ys : List α)
    (h : start + width ≤ xs.length) : windowAt width (xs ++ ys) start = windowAt width xs start := by
  rw [windowAt, List.drop_append_of_le_length (by omega), List.take_append_of_le_length]
  · rfl
  · rw [List.length_drop]
    omega

/-- A window that matches still matches in a longer list. -/
theorem mem_matchingStarts_append {width : Nat} {test : List α → Bool}
    {xs : List α} (ys : List α) {start : Nat} (h : start ∈ matchingStarts width test xs) :
    start ∈ matchingStarts width test (xs ++ ys) := by
  rw [mem_matchingStarts] at h ⊢
  refine ⟨?_, ?_⟩
  · rw [List.length_append]
    omega
  · rw [windowAt_append ys h.1]
    exact h.2

/-- A full window of three entries, spelled out. -/
theorem windowAt_three {values : List α} {start : Nat} (h : start + 3 ≤ values.length) :
    ∃ a b c, windowAt 3 values start = [a, b, c] ∧ values[start]? = some a ∧
      values[start + 1]? = some b ∧ values[start + 2]? = some c := by
  have hlen : 3 ≤ (values.drop start).length := by
    rw [List.length_drop]
    omega
  have hget : ∀ i, (values.drop start)[i]? = values[start + i]? := fun i => List.getElem?_drop
  cases hdrop : values.drop start with
  | nil => simp [hdrop] at hlen
  | cons a rest =>
      cases rest with
      | nil => simp [hdrop] at hlen
      | cons b rest =>
          cases rest with
          | nil => simp [hdrop] at hlen
          | cons c rest =>
              rw [hdrop] at hget
              exact ⟨a, b, c, by simp [windowAt, hdrop], (hget 0).symm, (hget 1).symm,
                (hget 2).symm⟩

/-! ### Different values -/

variable [DecidableEq α]

/-- The number of different values. -/
def distinct (values : List α) : Nat := values.dedup.length

/-- There is one value when there is an entry and all entries are equal. -/
theorem distinct_eq_one {values : List α} :
    distinct values = 1 ↔ values ≠ [] ∧ ∀ a ∈ values, ∀ b ∈ values, a = b := by
  rw [distinct, ← List.card_toFinset, Finset.card_eq_one]
  constructor
  · rintro ⟨c, hc⟩
    have hmem : ∀ a ∈ values, a = c := fun a ha => by
      simpa [hc] using List.mem_toFinset.mpr ha
    refine ⟨?_, fun a ha b hb => (hmem a ha).trans (hmem b hb).symm⟩
    rintro rfl
    simp at hc
  · rintro ⟨hne, hall⟩
    obtain ⟨c, hc⟩ := List.exists_mem_of_ne_nil values hne
    refine ⟨c, Finset.ext fun a => ?_⟩
    rw [List.mem_toFinset, Finset.mem_singleton]
    constructor
    · exact fun ha => hall a ha c hc
    · rintro rfl
      exact hc

/-- More than one value stays more than one. -/
theorem distinct_append_ne_one {xs : List α} (hne : xs ≠ []) (ys : List α)
    (h : distinct xs ≠ 1) : distinct (xs ++ ys) ≠ 1 := by
  intro hone
  refine h (distinct_eq_one.mpr ⟨hne, fun a ha b hb => ?_⟩)
  exact (distinct_eq_one.mp hone).2 a (List.mem_append_left _ ha) b (List.mem_append_left _ hb)

end EventPipeline.Sequences
