import EventPipeline.OpsAgent.ExperimentValidation
import EventPipeline.Sequences.MaximalRuns

/-!
# EventPipeline.Guarantees.SampledRecovery

When a sampled recovery window is complete.

The window keeps the last observation and where the current run of observations began. The
invariant is that this is the longest run of healthy observations that ends at the last
one, so completeness is a statement about the history and not about the fields.
-/

namespace EventPipeline.Guarantees

open EventPipeline.Python EventPipeline.OpsAgent EventPipeline.OpsAgent.Experiment
open EventPipeline.Sequences

/-! ### Healthy observations

The source reads a call into flat lists and checks them. What the checks say is stated over the
pods of the call with their containers. -/

/-- The observation is healthy. -/
def Healthy (observation : Observation) : Prop := observation.healthy = true

/-- Two entries name the same container of the same pod, with the same restart count. -/
structure SameEntry (a b : IdentityEntry) : Prop where
  pod : a.pod.eqItem b.pod = true
  uid : a.uid.eqItem b.uid = true
  container : a.container.eqItem b.container = true
  restart_count : a.restart_count.eqItem b.restart_count = true

/-- The observation follows the one before it: later, by at most `max_gap` seconds, and with
the same pods, containers and restart counts one by one. -/
structure Continues (scope : RecoveryScope) (previous current : Observation) : Prop where
  later : previous.timestamp.instant < current.timestamp.instant
  soon : (PyNumber.float (elapsedSeconds previous.timestamp current.timestamp)).le
    scope.max_gap = true
  unchanged : List.Forall₂ SameEntry previous.identity current.identity

theorem sameIdentity_iff {as bs : List IdentityEntry} :
    sameIdentity as bs = true ↔ List.Forall₂ SameEntry as bs := by
  induction as generalizing bs with
  | nil => cases bs <;> simp [sameIdentity]
  | cons a as ih =>
      cases bs with
      | nil => simp [sameIdentity]
      | cons b bs =>
          rw [List.forall₂_cons, ← ih]
          simp only [sameIdentity, Bool.and_eq_true]
          constructor
          · intro h
            exact ⟨⟨h.1.1.1.1, h.1.1.1.2, h.1.1.2, h.1.2⟩, h.2⟩
          · intro h
            exact ⟨⟨⟨⟨h.1.pod, h.1.uid⟩, h.1.container⟩, h.1.restart_count⟩, h.2⟩

/-- Time is kept in microseconds, so a gap is no rounding error: it is positive just when the
later observation is later. -/
theorem gapValid_iff {scope : RecoveryScope} {previous current : Aware} :
    gapValid scope (elapsedSeconds previous current) = true ↔
      previous.instant < current.instant ∧
        (PyNumber.float (elapsedSeconds previous current)).le scope.max_gap = true := by
  rw [gapValid, Bool.and_eq_true]
  refine and_congr_left fun _ => ?_
  have hgrid : ((current.instant - previous.instant : Int) / 1000000 : ℚ) ≤ 0 ∨
      2 ^ (-1074 : Int) ≤ ((current.instant - previous.instant : Int) / 1000000 : ℚ) := by
    rcases le_or_gt (current.instant - previous.instant) 0 with hle | hpos
    · exact Or.inl (div_nonpos_of_nonpos_of_nonneg (by exact_mod_cast hle) (by norm_num))
    · refine Or.inr ?_
      have hone : (1 : ℚ) ≤ (current.instant - previous.instant : Int) := by exact_mod_cast hpos
      calc (2 : ℚ) ^ (-1074 : Int) ≤ 2 ^ (-20 : Int) :=
            zpow_le_zpow_right₀ (by norm_num) (by norm_num)
        _ ≤ 1 / 1000000 := by norm_num
        _ ≤ _ := by gcongr
  rw [elapsedSeconds, PyFloat.zero_lt_ofRat hgrid, div_pos_iff_of_pos_right (by norm_num),
    Int.cast_pos, sub_pos]

theorem continues_iff {scope : RecoveryScope} {previous current : Observation} :
    Continues scope previous current ↔
      gapValid scope (elapsedSeconds previous.timestamp current.timestamp) = true ∧
        sameIdentity previous.identity current.identity = true := by
  rw [gapValid_iff, sameIdentity_iff]
  constructor
  · intro h
    exact ⟨⟨h.later, h.soon⟩, h.unchanged⟩
  · intro h
    exact ⟨h.1.1, h.1.2, h.2⟩

/-- The longest run of healthy observations, each continuing the one before it, that ends
with the last observation. -/
abbrev CurrentRun (scope : RecoveryScope) : List Observation → List Observation → Prop :=
  MaximalRun Healthy (Continues scope)

/-- The fields of the window are those of the history: the time and the identity of the last
observation, and the start of the run that is still going on, if there is one. -/
structure Tracks (scope : RecoveryScope) (window : Experiment.RecoveryWindow)
    (history : List Observation) : Prop where
  last : window.last = history.getLast?.map (·.timestamp)
  identity : window.identity = history.getLast?.map (·.identity)
  started : ∀ time, window.started = some time ↔ ∃ run first,
    CurrentRun scope history run ∧ run.head? = some first ∧ first.timestamp = time

section

variable {rt : ObservationRuntime} {scope : RecoveryScope} {window : Experiment.RecoveryWindow}
  {history : List Observation}

/-- Where the current run begins, if it is known which run that is. -/
theorem started_iff {run : List Observation} {first : Observation} {time : Aware}
    (hrun : CurrentRun scope history run) (hfirst : run.head? = some first) :
    (∃ run first, CurrentRun scope history run ∧ run.head? = some first ∧
      first.timestamp = time) ↔ first.timestamp = time := by
  constructor
  · rintro ⟨other, other_first, hother, hother_first, htime⟩
    obtain rfl := hrun.unique hother
    obtain rfl := Option.some.inj (hfirst.symm.trans hother_first)
    exact htime
  · exact fun htime => ⟨run, first, hrun, hfirst, htime⟩

/-- One observation keeps the fields those of the history. -/
theorem Tracks.observed (h : Tracks scope window history) (observation : Observation) :
    Tracks scope (window.observed scope observation).2 (history ++ [observation]) := by
  refine ⟨by simp [Experiment.RecoveryWindow.observed],
    by simp [Experiment.RecoveryWindow.observed], fun time => ?_⟩
  simp only [Experiment.RecoveryWindow.observed]
  by_cases hhealthy : observation.healthy = false
  · -- an unhealthy observation ends the run
    rw [if_pos hhealthy]
    refine ⟨fun h => by simp at h, ?_⟩
    rintro ⟨run, first, hrun, -⟩
    exact absurd hrun (not_maximalRun (by simp [Healthy, hhealthy]))
  · have hgood : Healthy observation := by simpa [Healthy] using hhealthy
    rw [if_neg hhealthy]
    by_cases hrestart : ((window.last.map fun last =>
          elapsedSeconds last observation.timestamp).all (gapValid scope)) = false ∨
        (window.identity.any fun identity => sameIdentity identity observation.identity) = false ∨
        window.started = none
    · -- the observation begins a run
      rw [if_pos hrestart]
      have hsingle : CurrentRun scope (history ++ [observation]) [observation] := by
        refine maximalRun_restart hgood fun previous hprevious hprevious_healthy hcontinues => ?_
        have hlast : history.getLast? = some previous := hprevious
        rw [h.last, h.identity, hlast] at hrestart
        obtain ⟨hvalid, hsame⟩ := continues_iff.mp hcontinues
        rcases hrestart with hgap | hkept | hstarted
        · simp [hvalid] at hgap
        · simp [hsame] at hkept
        · obtain ⟨run, hrun⟩ : ∃ run, CurrentRun scope history run :=
            exists_maximalRun hlast hprevious_healthy
          obtain ⟨first, hfirst⟩ :=
            Option.isSome_iff_exists.mp (List.isSome_head?.mpr hrun.isRun.ne_nil)
          have hsome := (h.started first.timestamp).mpr ⟨run, first, hrun, hfirst, rfl⟩
          rw [hstarted] at hsome
          simp at hsome
      rw [started_iff hsingle rfl, Option.some.injEq]
    · -- the observation extends the run
      rw [if_neg hrestart]
      simp only [not_or, Bool.not_eq_false] at hrestart
      obtain ⟨hgap, hkept, hstarted⟩ := hrestart
      obtain ⟨begun, hbegun⟩ := Option.ne_none_iff_exists'.mp hstarted
      obtain ⟨run, first, hrun, hfirst, rfl⟩ := (h.started begun).mp hbegun
      have hlinked : ∀ previous ∈ history.getLast?, Continues scope previous observation := by
        intro previous hprevious
        have hlast : history.getLast? = some previous := hprevious
        rw [h.last, hlast] at hgap
        rw [h.identity, hlast] at hkept
        exact continues_iff.mpr ⟨by simpa using hgap, by simpa using hkept⟩
      rw [hbegun, started_iff (hrun.extend hgood hlinked)
        (by rw [List.head?_append_of_ne_nil _ hrun.isRun.ne_nil, hfirst]), Option.some.injEq]

/-- What the calls that return have read. -/
def returned (rt : ObservationRuntime) (scope : RecoveryScope) (calls : List Call) :
    List Observation :=
  calls.filterMap fun call => (readObservation rt scope call).toOption

/-- After any calls the fields are those of the observations that returned. -/
theorem Tracks.after (h : Tracks scope window history) (calls : List Call) :
    Tracks scope (window.after rt scope calls) (history ++ returned rt scope calls) := by
  induction calls generalizing window history with
  | nil => simpa [Experiment.RecoveryWindow.after, returned] using h
  | cons call calls ih =>
      rw [Experiment.RecoveryWindow.after, Experiment.RecoveryWindow.observe]
      cases hread : readObservation rt scope call with
      | error e =>
          simpa [returned, hread, Bind.bind, Except.bind, Except.toOption] using ih h
      | ok observation =>
          have hnext := ih (h.observed observation)
          simpa [returned, hread, Bind.bind, Except.bind, pure, Except.pure, Except.toOption]
            using hnext

end

/-! ### Complete windows -/

end EventPipeline.Guarantees
