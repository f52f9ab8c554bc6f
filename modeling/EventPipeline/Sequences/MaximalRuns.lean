import Mathlib.Data.List.Basic
import Mathlib.Data.List.Chain
import Mathlib.Data.List.Infix

/-!
# EventPipeline.Sequences.MaximalRuns

Runs of good entries, each linked to the one before it.

A program that watches a stream keeps where the current run began and forgets the rest.
What it keeps is right when the run is the longest one that ends at the last entry: an
entry that is good either extends it or begins a new one, and a bad entry leaves none.
-/

namespace EventPipeline.Sequences

variable {α : Type}

/-- A run: good entries, each linked to the one before it. -/
structure IsRun (good : α → Prop) (link : α → α → Prop) (run : List α) : Prop where
  ne_nil : run ≠ []
  good : ∀ a ∈ run, good a
  linked : run.IsChain link

/-- The longest run that ends where the values end. -/
structure MaximalRun (good : α → Prop) (link : α → α → Prop) (values run : List α) : Prop where
  isRun : IsRun good link run
  isSuffix : run <:+ values
  longest : ∀ other, IsRun good link other → other <:+ values → other <:+ run

variable {good : α → Prop} {link : α → α → Prop} {values run : List α} {a : α}

theorem isRun_singleton (h : good a) : IsRun good link [a] :=
  ⟨List.cons_ne_nil a [], by simpa using h, List.isChain_singleton a⟩

/-- A suffix of a list with one more entry ends with that entry. -/
theorem exists_concat_of_suffix {other : List α} (hne : other ≠ [])
    (h : other <:+ values ++ [a]) : ∃ front, other = front ++ [a] ∧ front <:+ values := by
  obtain ⟨front, last, rfl⟩ := (List.eq_nil_or_concat' other).resolve_left hne
  obtain ⟨before, hbefore⟩ := h
  rw [← List.append_assoc] at hbefore
  obtain ⟨hvalues, hlast⟩ := List.append_inj' hbefore rfl
  obtain rfl : last = a := by simpa using hlast
  exact ⟨front, rfl, before, hvalues⟩

/-- What comes before the last entry of a run is a run, and linked to it. -/
theorem IsRun.of_concat {front : List α} (h : IsRun good link (front ++ [a]))
    (hne : front ≠ []) : IsRun good link front ∧ ∀ b ∈ front.getLast?, link b a := by
  obtain ⟨hfront, -, hlink⟩ := List.isChain_append.mp h.linked
  exact ⟨⟨hne, fun b hb => h.good b (List.mem_append_left _ hb), hfront⟩,
    fun b hb => hlink b hb a rfl⟩

/-- There is at most one maximal run. -/
theorem MaximalRun.unique {other : List α} (h : MaximalRun good link values run)
    (hother : MaximalRun good link values other) : run = other :=
  (hother.longest run h.isRun h.isSuffix).eq_of_length_le
    (h.longest other hother.isRun hother.isSuffix).length_le

/-- A maximal run ends with the last entry, which is good. -/
theorem MaximalRun.getLast? (h : MaximalRun good link values run) :
    run.getLast? = values.getLast? := by
  obtain ⟨before, rfl⟩ := h.isSuffix
  rw [List.getLast?_append_of_ne_nil _ h.isRun.ne_nil]

/-- A good entry that is linked to the last one extends the run. -/
theorem MaximalRun.extend (h : MaximalRun good link values run) (hgood : good a)
    (hlink : ∀ b ∈ values.getLast?, link b a) :
    MaximalRun good link (values ++ [a]) (run ++ [a]) := by
  refine ⟨⟨by simp, ?_, ?_⟩, ?_, fun other hother hsuffix => ?_⟩
  · intro b hb
    rcases List.mem_append.mp hb with hb | hb
    · exact h.isRun.good b hb
    · obtain rfl := List.mem_singleton.mp hb
      exact hgood
  · refine List.isChain_append.mpr ⟨h.isRun.linked, List.isChain_singleton a, ?_⟩
    intro b hb c hc
    obtain rfl : a = c := by simpa using hc
    exact hlink b (h.getLast? ▸ hb)
  · obtain ⟨before, rfl⟩ := h.isSuffix
    exact ⟨before, by rw [List.append_assoc]⟩
  · obtain ⟨front, rfl, hfront⟩ := exists_concat_of_suffix hother.ne_nil hsuffix
    rcases eq_or_ne front [] with rfl | hne
    · exact List.suffix_append run [a]
    · obtain ⟨before, hbefore⟩ := h.longest front (hother.of_concat hne).1 hfront
      exact ⟨before, by rw [← List.append_assoc, hbefore]⟩

/-- A good entry that is not linked to a good one before it begins a run. -/
theorem maximalRun_restart (hgood : good a)
    (hlink : ∀ b ∈ values.getLast?, good b → ¬link b a) :
    MaximalRun good link (values ++ [a]) [a] := by
  refine ⟨isRun_singleton hgood, List.suffix_append values [a], fun other hother hsuffix => ?_⟩
  obtain ⟨front, rfl, hfront⟩ := exists_concat_of_suffix hother.ne_nil hsuffix
  rcases eq_or_ne front [] with rfl | hne
  · exact List.suffix_refl [a]
  · obtain ⟨hrun, hlinked⟩ := hother.of_concat hne
    obtain ⟨before, rfl⟩ := hfront
    have hlast := List.getLast?_eq_some_getLast hne
    refine absurd (hlinked _ hlast) (hlink _ ?_ (hrun.good _ (List.getLast_mem hne)))
    rw [List.getLast?_append_of_ne_nil _ hne]
    exact hlast

/-- A good last entry ends a maximal run. By induction from the left: the entry extends the run
that ends before it, or starts one. -/
theorem exists_maximalRun (hlast : values.getLast? = some a) (hgood : good a) :
    ∃ run, MaximalRun good link values run := by
  induction values using List.reverseRecOn generalizing a with
  | nil => simp at hlast
  | append_singleton values b ih =>
      obtain rfl : b = a := by simpa using hlast
      by_cases hlinked : ∃ c ∈ values.getLast?, good c ∧ link c b
      · obtain ⟨c, hc, hgood_c, hlink⟩ := hlinked
        obtain ⟨run, hrun⟩ := ih hc hgood_c
        refine ⟨run ++ [b], hrun.extend hgood fun d hd => ?_⟩
        obtain rfl := Option.some.inj (hc.symm.trans hd)
        exact hlink
      · exact ⟨[b], maximalRun_restart hgood fun c hc hgood_c hlink =>
          hlinked ⟨c, hc, hgood_c, hlink⟩⟩

/-- No run ends with an entry that is not good. -/
theorem not_maximalRun (hbad : ¬good a) : ¬MaximalRun good link (values ++ [a]) run := by
  intro h
  obtain ⟨front, rfl, -⟩ := exists_concat_of_suffix h.isRun.ne_nil h.isSuffix
  exact hbad (h.isRun.good a (by simp))

end EventPipeline.Sequences
