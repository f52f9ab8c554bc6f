import EventPipeline.Sequences.Windows

/-!
# EventPipeline.Sequences.Streaks

The scan that collects the streaks of flagged entries.

The entries have indices, and a streak is reported by its first index, its last index and
the number of its entries. The number says that the streak has no gap exactly when every
two neighbours in it have consecutive indices. Where entries are left out before the scan,
that is a condition on what was left out.
-/

namespace EventPipeline.Sequences

/-- A streak as it is reported. -/
structure Streak where
  start_index : Int
  end_index : Int
  capture_count : Nat
  deriving DecidableEq

/-- The report of the indices of a streak. -/
def Streak.ofIndices (indices : List Int) : Streak :=
  ⟨indices.headD 0, indices.getLastD 0, indices.length⟩

/-- The scan, with the indices of the streak it is in. -/
def streaks (current : List Int) : List (Int × Bool) → List Streak
  | [] => if current = [] then [] else [.ofIndices current]
  | (index, true) :: entries => streaks (current ++ [index]) entries
  | (_, false) :: entries =>
      if current = [] then streaks [] entries else .ofIndices current :: streaks [] entries

/-- The reported number of entries is the one between the reported indices. -/
def Streak.Contiguous (streak : Streak) : Prop :=
  (streak.capture_count : Int) = streak.end_index - streak.start_index + 1

/-! ### Consecutive indices -/

/-- Increasing indices span at least as many places as there are. -/
theorem length_le_span {a : Int} {rest : List Int} (h : (a :: rest).Pairwise (· < ·)) :
    (rest.length : Int) ≤ rest.getLastD a - a := by
  induction rest generalizing a with
  | nil => simp
  | cons b rest ih =>
      obtain ⟨hfirst, hrest⟩ := List.pairwise_cons.mp h
      have hspan := ih hrest
      have hlt := hfirst b List.mem_cons_self
      rw [List.length_cons, List.getLastD_cons]
      omega

/-- They span just as many when they are consecutive. -/
theorem length_eq_span {a : Int} {rest : List Int} (h : (a :: rest).Pairwise (· < ·)) :
    (rest.length : Int) = rest.getLastD a - a ↔
      (a :: rest).IsChain fun i j => j = i + 1 := by
  induction rest generalizing a with
  | nil => simp
  | cons b rest ih =>
      obtain ⟨hfirst, hrest⟩ := List.pairwise_cons.mp h
      have hspan := length_le_span hrest
      have hlt := hfirst b List.mem_cons_self
      rw [List.isChain_cons_cons, ← ih hrest, List.length_cons, List.getLastD_cons]
      omega

theorem contiguous_ofIndices {a : Int} {rest : List Int} (h : (a :: rest).Pairwise (· < ·)) :
    (Streak.ofIndices (a :: rest)).Contiguous ↔ (a :: rest).IsChain fun i j => j = i + 1 := by
  rw [← length_eq_span h, Streak.Contiguous, Streak.ofIndices, List.headD_cons,
    List.getLastD_cons, List.length_cons]
  constructor
  · intro heq
    push_cast at heq
    omega
  · intro heq
    push_cast
    omega

/-- Consecutive indices leave out none of the places they span. -/
theorem mem_of_isChain {a i : Int} {rest : List Int}
    (h : (a :: rest).IsChain fun i j => j = i + 1) (hfirst : a ≤ i)
    (hlast : i ≤ rest.getLastD a) : i ∈ a :: rest := by
  induction rest generalizing a with
  | nil =>
      have heq : i = a := le_antisymm hlast hfirst
      rw [heq]
      exact List.mem_cons_self
  | cons b rest ih =>
      rw [List.isChain_cons_cons] at h
      rw [List.getLastD_cons] at hlast
      rcases eq_or_lt_of_le hfirst with heq | hlt
      · rw [← heq]
        exact List.mem_cons_self
      · exact List.mem_cons_of_mem _ (ih h.2 (by omega) hlast)

/-! ### The streaks of a list

A scan collects the flagged entries between two unflagged ones. A streak is contiguous exactly
where the entries it was collected from are consecutive. -/

/-- A streak reports flagged entries that follow each other. -/
theorem mem_streaks {current : List Int} {entries : List (Int × Bool)} {streak : Streak}
    (h : streak ∈ streaks current entries) :
    ∃ a rest, streak = .ofIndices (a :: rest) ∧
      (a :: rest).Sublist (current ++ entries.map Prod.fst) ∧
      ∀ i ∈ a :: rest, i ∈ current ∨ (i, true) ∈ entries := by
  fun_induction streaks current entries with
  | case1 => simp at h
  | case2 current hne =>
      rw [List.mem_singleton] at h
      obtain ⟨a, rest, rfl⟩ := List.exists_cons_of_ne_nil hne
      exact ⟨a, rest, h, by simp, fun i hi => .inl hi⟩
  -- a flagged entry joins the streak that is collected
  | case3 current index entries ih =>
      obtain ⟨a, rest, heq, hsub, hmem⟩ := ih h
      refine ⟨a, rest, heq, by simpa using hsub, fun i hi => ?_⟩
      rcases hmem i hi with hcur | hentry
      · rcases List.mem_append.mp hcur with hcur | hindex
        · exact .inl hcur
        · rw [List.mem_singleton.mp hindex]
          exact .inr List.mem_cons_self
      · exact .inr (List.mem_cons_of_mem _ hentry)
  | case4 index entries ih =>
      obtain ⟨a, rest, heq, hsub, hmem⟩ := ih h
      refine ⟨a, rest, heq, ?_, fun i hi => ?_⟩
      · rw [List.nil_append] at hsub ⊢
        exact hsub.cons index
      · exact .inr (List.mem_cons_of_mem _ ((hmem i hi).resolve_left (by simp)))
  -- an unflagged one ends it: it is reported, and the next starts empty
  | case5 current index entries hne ih =>
      rcases List.mem_cons.mp h with heq | h
      · obtain ⟨a, rest, rfl⟩ := List.exists_cons_of_ne_nil hne
        exact ⟨a, rest, heq, List.sublist_append_left _ _, fun i hi => .inl hi⟩
      · obtain ⟨a, rest, heq, hsub, hmem⟩ := ih h
        refine ⟨a, rest, heq, ?_, fun i hi => ?_⟩
        · rw [List.nil_append] at hsub
          exact (hsub.cons index).trans (List.sublist_append_right _ _)
        · exact .inr (List.mem_cons_of_mem _ ((hmem i hi).resolve_left (by simp)))

/-- Flagged neighbours are consecutive. -/
def Unbroken (a b : Int × Bool) : Prop := a.2 = true → b.2 = true → b.1 = a.1 + 1

theorem isChain_unbroken_flagged {indices : List Int} :
    (indices.map fun i => (i, true)).IsChain Unbroken ↔
      indices.IsChain fun i j => j = i + 1 := by
  rw [List.isChain_map]
  exact List.IsChain.iff fun a b => by simp [Unbroken]

/-- The streaks have no gaps when flagged neighbours are consecutive. -/
theorem forall_contiguous {current : List Int} {entries : List (Int × Bool)}
    (h : (current ++ entries.map Prod.fst).Pairwise (· < ·)) :
    (∀ streak ∈ streaks current entries, streak.Contiguous) ↔
      ((current.map fun i => (i, true)) ++ entries).IsChain Unbroken := by
  fun_induction streaks current entries with
  | case1 => simp
  | case2 current hne =>
      obtain ⟨a, rest, rfl⟩ := List.exists_cons_of_ne_nil hne
      rw [List.append_nil, isChain_unbroken_flagged, ← contiguous_ofIndices (by simpa using h)]
      simp
  | case3 current index entries ih =>
      rw [ih (by simpa using h), List.map_append, List.append_assoc]
      rfl
  | case4 index entries ih =>
      rw [ih ((List.pairwise_cons.mp h).2), List.map_nil, List.nil_append, List.nil_append,
        List.isChain_cons]
      exact (and_iff_right fun b _ hflag => absurd hflag Bool.false_ne_true).symm
  | case5 current index entries hne ih =>
      obtain ⟨a, rest, rfl⟩ := List.exists_cons_of_ne_nil hne
      obtain ⟨hcurrent, hentries, _⟩ := List.pairwise_append.mp h
      rw [List.forall_mem_cons, contiguous_ofIndices hcurrent,
        ih ((List.pairwise_cons.mp hentries).2), List.map_nil, List.nil_append,
        List.isChain_append, isChain_unbroken_flagged, List.isChain_cons (x := (index, false))]
      -- an entry that is not flagged joins nothing on either side
      have hbefore : ∀ x ∈ ((a :: rest).map fun i => (i, true)).getLast?,
          ∀ y ∈ ((index, false) :: entries).head?, Unbroken x y := by
        intro x _ y hy
        rw [List.head?_cons, Option.mem_some_iff] at hy
        subst hy
        exact fun _ hflag => absurd hflag Bool.false_ne_true
      have hafter : ∀ y ∈ entries.head?, Unbroken (index, false) y :=
        fun y _ hflag => absurd hflag Bool.false_ne_true
      exact ⟨fun h => ⟨h.1, ⟨hafter, h.2⟩, hbefore⟩, fun h => ⟨h.1, h.2.1.2⟩⟩

end EventPipeline.Sequences
