import EventPipeline.OpsAgent.RecoveryCalibration

/-!
# EventPipeline.Guarantees.StableReentry

When the stable re-entry windows are contiguous.

The scan for stable windows runs over the re-entry candidates. A capture before the peak, or
with an unsettled rate window, or with a number missing, is no candidate, so the scan does
not see it, and a window runs on across it. The windows are right when no such capture lies
between two stable ones.
-/

namespace EventPipeline.Guarantees

open EventPipeline.Python EventPipeline.OpsAgent EventPipeline.OpsAgent.RecoveryCalibration
open EventPipeline.Sequences

/-! ### Captures

The conditions are stated on the samples of the input, without the loop: which captures are
measured, which are stable, and where the peak is. -/

/-- The capture has a settled rate window and known produce, lag and slope. Without one of these
the analysis skips the capture. -/
structure Measured (sample : Dict) (reading : SampleReading) (produce lag slope : PyFloat) :
    Prop where
  read : readSample sample = .ok reading
  settled : RecoveryCalibration.isTrue (getOrNull sample "rate_window_settled") = true
  produce_known : reading.produce = some produce
  lag_known : reading.lag = some lag
  slope_known : reading.slope = some slope

/-- A capture with a settled window and known numbers is at the index. -/
def MeasuredAt (samples : List Dict) (index : Nat) : Prop :=
  ∃ sample reading produce lag slope, samples[index]? = some sample ∧
    Measured sample reading produce lag slope

/-- The capture at the index is measured, and meets the candidate's checks. -/
def CandidateAt (envelope : Dict) (samples : List Dict) (index : Nat)
    (candidate : ReentryCandidate) : Prop :=
  ∃ sample reading produce lag slope, samples[index]? = some sample ∧
    Measured sample reading produce lag slope ∧
    reentryCandidate envelope sample index reading produce lag slope = .ok candidate

/-- `limit` is the greatest value that the profile matched to the rate has seen of a
measurement. -/
def ProfileLimit (envelope : Dict) (rate : PyFloat) (measurement : String) (limit : PyFloat) :
    Prop :=
  ∃ name profiles, profileForRate envelope rate = .ok name ∧
    nested envelope "profiles" = .ok profiles ∧
    asNumber (getOrNull (guarded (getOrNull
      (guarded ((name.bind (Dict.get? profiles)).getD (.obj []))) measurement)) "max") =
        .ok (some limit)

/-- The five checks of the envelope on a measured capture. -/
structure FiveChecks (envelope sample : Dict) (reading : SampleReading)
    (produce lag slope : PyFloat) : Prop where
  lag_bounded : ∃ limit, ProfileLimit envelope produce "total_lag_records" limit ∧
    lag.le limit = true
  slope_bounded : ∃ limit, ProfileLimit envelope produce "lag_slope_records_per_second" limit ∧
    slope.le limit = true
  keeps_up : ∃ committed, reading.committed = some committed ∧ produce.le committed = true
  usable : getOrNull (guarded (getOrNull sample "evidence_quality")) "usable" = .bool true
  guardrail : ∃ postgres, nested sample "postgres" = .ok postgres ∧
    getOrNull postgres "readiness_body_status" = .str "ready" ∧
    getOrNull (guarded (getOrNull postgres "values")) "primary_reachable" = .bool true

/-- The capture at the index is measured, and meets all five checks. -/
def StableAt (envelope : Dict) (samples : List Dict) (index : Nat) : Prop :=
  ∃ sample reading produce lag slope, samples[index]? = some sample ∧
    Measured sample reading produce lag slope ∧
    FiveChecks envelope sample reading produce lag slope

theorem CandidateAt.measured {envelope : Dict} {samples : List Dict} {index : Nat}
    {candidate : ReentryCandidate} (h : CandidateAt envelope samples index candidate) :
    MeasuredAt samples index := by
  obtain ⟨sample, reading, produce, lag, slope, hsample, hmeasured, _⟩ := h
  exact ⟨sample, reading, produce, lag, slope, hsample, hmeasured⟩

/-- The index of the peak: the first of the greatest known lags from the end of the first
activation window on. -/
def PeakAt (samples : List Dict) (matched_activation_windows : List (List Json))
    (peak_index : Int) : Prop :=
  ∃ window windows start_index end_index lags peak_lag,
    matched_activation_windows = window :: windows ∧
    windowBounds window = .ok (start_index, end_index) ∧
    usableLag end_index (sliceFrom samples end_index) = .ok lags ∧
    peakLag lags = some (peak_index, peak_lag)

/-- From the peak on, no capture that is not measured lies between two stable ones with
only such captures in between. -/
def NoneSkipped (samples : List Dict) (envelope : Dict)
    (matched_activation_windows : List (List Json)) : Prop :=
  ∀ peak_index, PeakAt samples matched_activation_windows peak_index →
    ∀ i j : Nat, peak_index ≤ i → i < j → StableAt envelope samples i →
      StableAt envelope samples j → (∀ k, i < k → k < j → ¬MeasuredAt samples k) → j = i + 1

/-! ### The loop -/

theorem reentryCandidate_index {envelope sample : Dict} {index : Nat} {reading : SampleReading}
    {produce lag slope : PyFloat} {candidate : ReentryCandidate}
    (h : reentryCandidate envelope sample index reading produce lag slope = .ok candidate) :
    candidate.sequence_index = index := by
  simp only [reentryCandidate, OpsAgent.bind_ok, OpsAgent.pure_ok] at h
  obtain ⟨_, _, _, _, _, _, _, _, _, _, _, _, rfl⟩ := h
  rfl

theorem analyzeSample_index {envelope sample : Dict} {peak_index : Int} {index : Nat}
    {result : SampleResult} (h : analyzeSample envelope peak_index index sample = .ok result) :
    result.index = index := by
  simp only [analyzeSample, OpsAgent.bind_ok] at h
  obtain ⟨reading, _, h⟩ := h
  split_ifs at h
  · split at h
    · simp only [OpsAgent.bind_ok, OpsAgent.pure_ok] at h
      obtain ⟨_, _, rfl⟩ := h
      rfl
    · rw [OpsAgent.pure_ok] at h
      rw [← h]
  · rw [OpsAgent.pure_ok] at h
    rw [← h]

/-- A round collects a candidate from a measured capture from the peak on. -/
theorem analyzeSample_candidate {envelope sample : Dict} {peak_index : Int} {index : Nat}
    {candidate : ReentryCandidate} :
    (∃ result, analyzeSample envelope peak_index index sample = .ok result ∧
      result.candidate = some candidate) ↔
    peak_index ≤ index ∧ ∃ reading produce lag slope, Measured sample reading produce lag slope ∧
      reentryCandidate envelope sample index reading produce lag slope = .ok candidate := by
  constructor
  · intro ⟨result, h, hcandidate⟩
    simp only [analyzeSample, OpsAgent.bind_ok] at h
    obtain ⟨reading, hread, h⟩ := h
    -- before the peak, or without a settled reading, the round collects nothing
    split_ifs at h with hexamined
    · split at h
      · rename_i produce lag slope hproduce hlag hslope
        simp only [OpsAgent.bind_ok, OpsAgent.pure_ok] at h
        obtain ⟨found, hfound, rfl⟩ := h
        obtain rfl : found = candidate := Option.some.inj hcandidate
        exact ⟨hexamined.1, reading, produce, lag, slope,
          ⟨hread, hexamined.2, hproduce, hlag, hslope⟩, hfound⟩
      · rw [OpsAgent.pure_ok] at h
        rw [← h] at hcandidate
        cases hcandidate
    · rw [OpsAgent.pure_ok] at h
      rw [← h] at hcandidate
      cases hcandidate
  · intro ⟨hpeak, reading, produce, lag, slope, hmeasured, hcandidate⟩
    refine ⟨⟨index, reading, some candidate⟩, ?_, rfl⟩
    simp only [analyzeSample, OpsAgent.bind_ok]
    refine ⟨reading, hmeasured.read, ?_⟩
    rw [if_pos ⟨hpeak, hmeasured.settled⟩, hmeasured.produce_known, hmeasured.lag_known,
      hmeasured.slope_known]
    simp only [OpsAgent.bind_ok, OpsAgent.pure_ok]
    exact ⟨candidate, hcandidate, rfl⟩

/-- The results are those of the rounds. -/
theorem mem_analyzeSamples {envelope : Dict} {peak_index : Int} {first : Nat}
    {samples : List Dict} {results : List SampleResult}
    (h : analyzeSamples envelope peak_index first samples = .ok results) {result : SampleResult} :
    result ∈ results ↔ ∃ (offset : Nat) (sample : Dict), samples[offset]? = some sample ∧
      analyzeSample envelope peak_index (first + offset) sample = .ok result := by
  induction samples generalizing first results with
  | nil =>
      obtain rfl : [] = results := OpsAgent.pure_ok.mp h
      simp
  | cons sample samples ih =>
      simp only [analyzeSamples, OpsAgent.bind_ok, OpsAgent.pure_ok] at h
      obtain ⟨found, hfound, rest, hrest, rfl⟩ := h
      rw [List.mem_cons, ih hrest]
      constructor
      · rintro (rfl | ⟨offset, next, hnext, hresult⟩)
        · exact ⟨0, sample, rfl, hfound⟩
        · refine ⟨offset + 1, next, hnext, ?_⟩
          rw [← hresult, Nat.add_assoc, Nat.add_comm 1 offset]
      · intro ⟨offset, next, hnext, hresult⟩
        cases offset with
        | zero =>
            obtain rfl : sample = next := Option.some.inj hnext
            exact .inl (Except.ok.inj (hresult.symm.trans hfound))
        | succ offset =>
            refine .inr ⟨offset, next, hnext, ?_⟩
            rw [← hresult, Nat.add_assoc, Nat.add_comm 1 offset]

theorem analyzeSamples_ok {envelope : Dict} {peak_index : Int} {first : Nat}
    {samples : List Dict} {results : List SampleResult}
    (h : analyzeSamples envelope peak_index first samples = .ok results) {offset : Nat}
    {sample : Dict} (hsample : samples[offset]? = some sample) :
    ∃ result, analyzeSample envelope peak_index (first + offset) sample = .ok result := by
  induction samples generalizing first results offset with
  | nil => simp at hsample
  | cons next samples ih =>
      simp only [analyzeSamples, OpsAgent.bind_ok, OpsAgent.pure_ok] at h
      obtain ⟨found, hfound, rest, hrest, rfl⟩ := h
      cases offset with
      | zero =>
          obtain rfl : next = sample := Option.some.inj hsample
          exact ⟨found, hfound⟩
      | succ offset =>
          obtain ⟨result, hresult⟩ := ih hrest hsample
          refine ⟨result, ?_⟩
          rw [← hresult, Nat.add_assoc, Nat.add_comm 1 offset]

theorem analyzeSamples_pairwise {envelope : Dict} {peak_index : Int} {first : Nat}
    {samples : List Dict} {results : List SampleResult}
    (h : analyzeSamples envelope peak_index first samples = .ok results) :
    results.Pairwise fun a b => a.index < b.index := by
  induction samples generalizing first results with
  | nil =>
      obtain rfl : [] = results := OpsAgent.pure_ok.mp h
      exact List.Pairwise.nil
  | cons sample samples ih =>
      simp only [analyzeSamples, OpsAgent.bind_ok, OpsAgent.pure_ok] at h
      obtain ⟨found, hfound, rest, hrest, rfl⟩ := h
      refine List.pairwise_cons.mpr ⟨fun later hlater => ?_, ih hrest⟩
      obtain ⟨offset, next, _, hresult⟩ := (mem_analyzeSamples hrest).mp hlater
      rw [analyzeSample_index hfound, analyzeSample_index hresult]
      omega

/-! ### The candidates

The scan sees the candidates only. A capture that was not measured has none, and two candidates
beside each other need not be two captures beside each other. -/

section Candidates

variable {envelope : Dict} {samples : List Dict} {peak_index : Int} {results : List SampleResult}

theorem mem_candidates (h : analyzeSamples envelope peak_index 0 samples = .ok results)
    {candidate : ReentryCandidate} : candidate ∈ results.filterMap (·.candidate) ↔
      peak_index ≤ candidate.sequence_index ∧
        CandidateAt envelope samples candidate.sequence_index candidate := by
  rw [List.mem_filterMap]
  constructor
  · intro ⟨result, hresult, hcandidate⟩
    obtain ⟨index, sample, hsample, hround⟩ := (mem_analyzeSamples h).mp hresult
    rw [Nat.zero_add] at hround
    obtain ⟨hpeak, reading, produce, lag, slope, hmeasured, hcheck⟩ :=
      analyzeSample_candidate.mp ⟨result, hround, hcandidate⟩
    rw [reentryCandidate_index hcheck]
    exact ⟨hpeak, sample, reading, produce, lag, slope, hsample, hmeasured, hcheck⟩
  · intro ⟨hpeak, sample, reading, produce, lag, slope, hsample, hmeasured, hcheck⟩
    obtain ⟨result, hround, hcandidate⟩ := analyzeSample_candidate.mpr
      ⟨hpeak, reading, produce, lag, slope, hmeasured, hcheck⟩
    refine ⟨result, (mem_analyzeSamples h).mpr ⟨_, sample, hsample, ?_⟩, hcandidate⟩
    rw [Nat.zero_add]
    exact hround

/-- A round that does not raise makes a candidate of a measured capture. -/
theorem reentryCandidate_of_round {sample : Dict} {index : Nat} {reading : SampleReading}
    {produce lag slope : PyFloat} {result : SampleResult} (hpeak : peak_index ≤ index)
    (hmeasured : Measured sample reading produce lag slope)
    (hround : analyzeSample envelope peak_index index sample = .ok result) :
    ∃ candidate,
      reentryCandidate envelope sample index reading produce lag slope = .ok candidate := by
  simp only [analyzeSample, OpsAgent.bind_ok] at hround
  obtain ⟨read, hread, hround⟩ := hround
  obtain rfl : read = reading := Except.ok.inj (hread.symm.trans hmeasured.read)
  rw [if_pos ⟨hpeak, hmeasured.settled⟩, hmeasured.produce_known, hmeasured.lag_known,
    hmeasured.slope_known] at hround
  simp only [OpsAgent.bind_ok, OpsAgent.pure_ok] at hround
  obtain ⟨candidate, hcheck, _⟩ := hround
  exact ⟨candidate, hcheck⟩

/-- Every measured capture from the peak on has a candidate. -/
theorem exists_candidate (h : analyzeSamples envelope peak_index 0 samples = .ok results)
    {index : Nat} (hpeak : peak_index ≤ index) (hmeasured : MeasuredAt samples index) :
    ∃ candidate, CandidateAt envelope samples index candidate ∧
      candidate.sequence_index = index := by
  obtain ⟨sample, reading, produce, lag, slope, hsample, hmeasured⟩ := hmeasured
  obtain ⟨result, hround⟩ := analyzeSamples_ok h hsample
  rw [Nat.zero_add] at hround
  obtain ⟨candidate, hcheck⟩ := reentryCandidate_of_round hpeak hmeasured hround
  exact ⟨candidate, ⟨sample, reading, produce, lag, slope, hsample, hmeasured, hcheck⟩,
    reentryCandidate_index hcheck⟩

theorem candidates_pairwise (h : analyzeSamples envelope peak_index 0 samples = .ok results) :
    (results.filterMap (·.candidate)).Pairwise fun a b => a.sequence_index < b.sequence_index := by
  refine (List.pairwise_filterMap.mpr ?_)
  refine ((analyzeSamples_pairwise h).imp_of_mem fun {a b} ha hb hlt => ?_)
  have hindex : ∀ result ∈ results, ∀ candidate, result.candidate = some candidate →
      candidate.sequence_index = result.index := by
    intro result hresult candidate hcandidate
    obtain ⟨index, sample, _, hround⟩ := (mem_analyzeSamples h).mp hresult
    obtain ⟨_, _, _, _, _, _, hcheck⟩ :=
      analyzeSample_candidate.mp ⟨result, hround, hcandidate⟩
    rw [reentryCandidate_index hcheck, analyzeSample_index hround]
  intro candidate hcandidate later hlater
  rw [hindex a ha candidate hcandidate, hindex b hb later hlater]
  exact hlt

/-- What the scan for stable windows runs over. -/
def reentryEntries (results : List SampleResult) : List (Int × Bool) :=
  (results.filterMap (·.candidate)).map fun candidate =>
    ((candidate.sequence_index : Int), candidate.stable)

theorem reentryEntries_pairwise (h : analyzeSamples envelope peak_index 0 samples = .ok results) :
    (reentryEntries results).Pairwise fun a b => a.1 < b.1 :=
  List.pairwise_map.mpr ((candidates_pairwise h).imp fun hlt => Int.ofNat_lt.mpr hlt)

theorem mem_reentryEntries (h : analyzeSamples envelope peak_index 0 samples = .ok results)
    {index : Int} {stable : Bool} : (index, stable) ∈ reentryEntries results ↔
      ∃ (k : Nat) (candidate : ReentryCandidate), index = k ∧ peak_index ≤ k ∧
        CandidateAt envelope samples k candidate ∧ candidate.stable = stable := by
  rw [reentryEntries, List.mem_map]
  constructor
  · intro ⟨candidate, hmem, heq⟩
    obtain ⟨rfl, rfl⟩ := Prod.mk.inj heq
    obtain ⟨hpeak, hcandidate⟩ := (mem_candidates h).mp hmem
    exact ⟨_, candidate, rfl, hpeak, hcandidate, rfl⟩
  · intro ⟨k, candidate, hk, hpeak, hcandidate, hstable⟩
    have hindex : candidate.sequence_index = k := by
      obtain ⟨_, _, _, _, _, _, _, hcheck⟩ := hcandidate
      exact reentryCandidate_index hcheck
    refine ⟨candidate, (mem_candidates h).mpr ?_, by rw [hindex, hstable, hk]⟩
    rw [hindex]
    exact ⟨hpeak, hcandidate⟩

theorem isTrue_iff {value : Json} : RecoveryCalibration.isTrue value = true ↔
    value = .bool true := by
  cases value <;> simp [RecoveryCalibration.isTrue]

theorem within_iff {number : PyFloat} {limit : Option PyFloat} :
    within number limit = true ↔ ∃ bound, limit = some bound ∧ number.le bound = true := by
  cases limit <;> simp [within]

/-- Where the candidate of a capture can be made, its five flags are the five checks. -/
theorem reentryCandidate_stable {sample : Dict} {index : Nat} {reading : SampleReading}
    {produce lag slope : PyFloat} {candidate : ReentryCandidate}
    (h : reentryCandidate envelope sample index reading produce lag slope = .ok candidate) :
    candidate.stable = true ↔ FiveChecks envelope sample reading produce lag slope := by
  simp only [reentryCandidate, dbAcceptable, OpsAgent.bind_ok, OpsAgent.pure_ok] at h
  obtain ⟨name, hname, profiles, hprofiles, lag_max, hlag_max, _, _, slope_max, hslope_max, _,
    ⟨postgres, hpostgres, rfl⟩, rfl⟩ := h
  simp only [ReentryCandidate.stable, Bool.and_eq_true, within_iff, isTrue_iff, Json.pyEq_str,
    Option.any_eq_true]
  constructor
  · intro hall
    obtain ⟨⟨⟨⟨⟨lag_bound, rfl, hlag⟩, ⟨slope_bound, rfl, hslope⟩⟩, ⟨committed, hcommitted, hkeeps⟩⟩,
      husable⟩, hready, hprimary⟩ := hall
    exact ⟨⟨lag_bound, ⟨name, profiles, hname, hprofiles, hlag_max⟩, hlag⟩,
      ⟨slope_bound, ⟨name, profiles, hname, hprofiles, hslope_max⟩, hslope⟩,
      ⟨committed, hcommitted, hkeeps⟩, husable, ⟨postgres, hpostgres, hready, hprimary⟩⟩
  · intro hchecks
    -- what the checks read is what the candidate was made of
    have hlimit : ∀ {measurement : String} {limit : PyFloat} {read : Option PyFloat},
        ProfileLimit envelope produce measurement limit →
        asNumber (getOrNull (guarded (getOrNull
          (guarded ((name.bind (Dict.get? profiles)).getD (.obj []))) measurement)) "max") =
            .ok read → read = some limit := by
      intro measurement limit read hlimit hread
      obtain ⟨name', profiles', hname', hprofiles', hread'⟩ := hlimit
      obtain rfl := Except.ok.inj (hname.symm.trans hname')
      obtain rfl := Except.ok.inj (hprofiles.symm.trans hprofiles')
      exact Except.ok.inj (hread.symm.trans hread')
    obtain ⟨lag_bound, hlag_limit, hlag⟩ := hchecks.lag_bounded
    obtain ⟨slope_bound, hslope_limit, hslope⟩ := hchecks.slope_bounded
    obtain ⟨postgres', hpostgres', hready, hprimary⟩ := hchecks.guardrail
    obtain rfl := Except.ok.inj (hpostgres.symm.trans hpostgres')
    exact ⟨⟨⟨⟨⟨lag_bound, hlimit hlag_limit hlag_max, hlag⟩,
      ⟨slope_bound, hlimit hslope_limit hslope_max, hslope⟩⟩, hchecks.keeps_up⟩,
      hchecks.usable⟩, hready, hprimary⟩

/-- The stable captures from the peak on are those with a stable candidate. -/
theorem stableAt_iff (h : analyzeSamples envelope peak_index 0 samples = .ok results) {index : Nat}
    (hpeak : peak_index ≤ index) : StableAt envelope samples index ↔
      ∃ candidate, CandidateAt envelope samples index candidate ∧ candidate.stable = true := by
  constructor
  · intro hstable
    obtain ⟨sample, reading, produce, lag, slope, hsample, hmeasured, hchecks⟩ := hstable
    obtain ⟨result, hround⟩ := analyzeSamples_ok h hsample
    rw [Nat.zero_add] at hround
    obtain ⟨candidate, hcheck⟩ := reentryCandidate_of_round hpeak hmeasured hround
    exact ⟨candidate, ⟨sample, reading, produce, lag, slope, hsample, hmeasured, hcheck⟩,
      (reentryCandidate_stable hcheck).mpr hchecks⟩
  · intro hcandidate
    obtain ⟨candidate, ⟨sample, reading, produce, lag, slope, hsample, hmeasured, hcheck⟩,
      hstable⟩ := hcandidate
    exact ⟨sample, reading, produce, lag, slope, hsample, hmeasured,
      (reentryCandidate_stable hcheck).mp hstable⟩

/-- Stable neighbours among the candidates are consecutive captures. -/
theorem isChain_reentryEntries (h : analyzeSamples envelope peak_index 0 samples = .ok results) :
    (reentryEntries results).IsChain Unbroken ↔ ∀ i j : Nat, peak_index ≤ i → i < j →
      StableAt envelope samples i → StableAt envelope samples j →
      (∀ k, i < k → k < j → ¬MeasuredAt samples k) → j = i + 1 := by
  rw [isChain_iff_between (reentryEntries_pairwise h)]
  constructor
  · intro hall i j hpeak hlt hstable hstable' hnone
    obtain ⟨first, hfirst, hfirst_stable⟩ := (stableAt_iff h hpeak).mp hstable
    obtain ⟨second, hsecond, hsecond_stable⟩ := (stableAt_iff h (by omega)).mp hstable'
    have hunbroken := hall ((i : Int), true)
      ((mem_reentryEntries h).mpr ⟨i, first, rfl, hpeak, hfirst, hfirst_stable⟩) ((j : Int), true)
      ((mem_reentryEntries h).mpr ⟨j, second, rfl, by omega, hsecond, hsecond_stable⟩)
      (Int.ofNat_lt.mpr hlt) ?_
    · have heq : (j : Int) = i + 1 := hunbroken rfl rfl
      omega
    · -- an entry between them would be a measured capture
      intro ⟨index, stable⟩ hmem hbetween
      obtain ⟨k, candidate, rfl, _, hcandidate, _⟩ := (mem_reentryEntries h).mp hmem
      by_contra hbefore
      dsimp only at hbetween hbefore
      exact hnone k (by omega) (by omega) hcandidate.measured
  · intro hall ⟨a, a_stable⟩ ha ⟨b, b_stable⟩ hb hlt hbetween ha_stable hb_stable
    dsimp only at hlt ha_stable hb_stable ⊢
    subst ha_stable hb_stable
    obtain ⟨i, first, rfl, hpeak, hfirst, hfirst_stable⟩ := (mem_reentryEntries h).mp ha
    obtain ⟨j, second, rfl, _, hsecond, hsecond_stable⟩ := (mem_reentryEntries h).mp hb
    have hstable := (stableAt_iff h hpeak).mpr ⟨first, hfirst, hfirst_stable⟩
    have hstable' := (stableAt_iff h (by omega)).mpr ⟨second, hsecond, hsecond_stable⟩
    have heq := hall i j hpeak (by omega) hstable hstable' fun k hik hkj hmeasured => by
        obtain ⟨candidate, hcandidate, hindex⟩ := exists_candidate h (by omega) hmeasured
        have hle := hbetween ((k : Int), candidate.stable)
          ((mem_reentryEntries h).mpr ⟨k, candidate, rfl, by omega, hcandidate, rfl⟩)
          (Int.ofNat_lt.mpr hik)
        dsimp only at hle
        omega
    omega

end Candidates

/-! ### The windows -/

/-- An analysis scans the candidates of the loop from the peak on. -/
theorem analyze_ok {samples : List Dict} {envelope : Dict} {windows : List (List Json)}
    {analysis : Analysis}
    (h : analyzeRecoveryCandidates samples envelope windows = .ok (.analyzed analysis)) :
    ∃ peak_index results, PeakAt samples windows peak_index ∧
      analyzeSamples envelope peak_index 0 samples = .ok results ∧
      analysis.stable_reentry_window_candidates = streaks [] (reentryEntries results) := by
  simp only [analyzeRecoveryCandidates, OpsAgent.bind_ok] at h
  obtain ⟨_, _, h⟩ := h
  cases windows with
  | nil => simp [OpsAgent.pure_ok] at h
  | cons window windows =>
      simp only [OpsAgent.bind_ok] at h
      obtain ⟨⟨start_index, end_index⟩, hbounds, _, _, lags, hlags, h⟩ := h
      cases hpeak : peakLag lags with
      | none => simp [hpeak] at h
      | some peak =>
          obtain ⟨peak_index, peak_lag⟩ := peak
          simp only [hpeak, OpsAgent.bind_ok, OpsAgent.pure_ok, Report.analyzed.injEq] at h
          obtain ⟨_, _, results, hresults, rfl⟩ := h
          exact ⟨peak_index, results, ⟨window, windows, start_index, end_index, lags, peak_lag,
            rfl, hbounds, hlags, hpeak⟩, hresults, rfl⟩

theorem PeakAt.unique {samples : List Dict} {windows : List (List Json)} {a b : Int}
    (ha : PeakAt samples windows a) (hb : PeakAt samples windows b) : a = b := by
  obtain ⟨_, _, _, _, _, _, rfl, hbounds, hlags, hpeak⟩ := ha
  obtain ⟨_, _, _, _, _, _, hwindows, hbounds', hlags', hpeak'⟩ := hb
  obtain ⟨rfl, rfl⟩ := List.cons.inj hwindows
  obtain ⟨rfl, rfl⟩ := Prod.mk.inj (Except.ok.inj (hbounds.symm.trans hbounds'))
  obtain rfl := Except.ok.inj (hlags.symm.trans hlags')
  exact (Prod.mk.inj (Option.some.inj (hpeak.symm.trans hpeak'))).1

/-- The stable re-entry windows count the captures they span, and every capture in them is
stable, exactly when no capture was skipped between stable ones.

The windows are the streaks of the candidates (`analyze_ok`), and the candidates are in the order
of their captures, so a general fact about streaks says that all of them are contiguous just when
stable neighbours are consecutive numbers. `isChain_reentryEntries` reads that as a statement
about captures. A contiguous streak has one candidate for each index it spans, and that
candidate's five flags are the five checks (`reentryCandidate_stable`). -/
theorem stable_windows_contiguous_iff {samples : List Dict} {envelope : Dict}
    {matched_activation_windows : List (List Json)} {analysis : Analysis}
    (h : analyzeRecoveryCandidates samples envelope matched_activation_windows =
      .ok (.analyzed analysis)) :
    (∀ window ∈ analysis.stable_reentry_window_candidates,
      (window.capture_count : Int) = window.end_index - window.start_index + 1 ∧
      ∀ index : Nat, window.start_index ≤ index → index ≤ window.end_index →
        StableAt envelope samples index) ↔
    NoneSkipped samples envelope matched_activation_windows := by
  obtain ⟨peak_index, results, hpeak, hresults, hstreaks⟩ := analyze_ok h
  have hincreasing : ([] ++ (reentryEntries results).map Prod.fst).Pairwise (· < ·) :=
    List.pairwise_map.mpr (reentryEntries_pairwise hresults)
  have hcontiguous : (∀ window ∈ analysis.stable_reentry_window_candidates, window.Contiguous) ↔
      NoneSkipped samples envelope matched_activation_windows := by
    rw [hstreaks, forall_contiguous hincreasing, List.map_nil, List.nil_append,
      isChain_reentryEntries hresults]
    constructor
    · intro hall peak_index' hpeak'
      rw [hpeak'.unique hpeak]
      exact hall
    · exact fun hall => hall peak_index hpeak
  rw [← hcontiguous]
  refine ⟨fun hall window hwindow => (hall window hwindow).1, fun hall window hwindow =>
    ⟨hall window hwindow, fun index hfirst hlast => ?_⟩⟩
  -- a contiguous window leaves out none of the captures it spans
  have hwhole := hall window hwindow
  rw [hstreaks] at hwindow
  obtain ⟨a, rest, rfl, hsublist, hmem⟩ := mem_streaks hwindow
  rw [contiguous_ofIndices (hincreasing.sublist hsublist)] at hwhole
  rw [Streak.ofIndices, List.getLastD_cons] at hlast
  have hindex := mem_of_isChain hwhole hfirst hlast
  obtain ⟨k, candidate, hk, hpeak_le, hcandidate, hstable⟩ :=
    (mem_reentryEntries hresults).mp ((hmem _ hindex).resolve_left (by simp))
  obtain rfl : index = k := Int.ofNat.inj hk
  exact (stableAt_iff hresults hpeak_le).mpr ⟨candidate, hcandidate, hstable⟩

/-- A capture that meets all checks of `sampleEnvelope`. -/
def stableCapture (settled : Bool) : Dict :=
  [("kafka", .obj [("produce_rate_records_per_second", .int 5),
      ("committed_offset_rate_records_per_second", .int 6), ("total_lag", .int 3),
      ("lag_slope_records_per_second", .int (-1))]),
    ("worker", .obj [("desired_replicas", .int 1)]),
    ("rate_window_settled", .bool settled),
    ("evidence_quality", .obj [("usable", .bool true)]),
    ("postgres", .obj [("readiness_body_status", .str "ready"),
      ("values", .obj [("primary_reachable", .bool true)])])]

def sampleEnvelope : Dict :=
  [("profiles", .obj [("LOW", .obj [("status", .str "AVAILABLE"),
    ("actual_produce_rate_records_per_second", .obj [("median", .int 5)]),
    ("total_lag_records", .obj [("max", .int 4)]),
    ("lag_slope_records_per_second", .obj [("max", .int 0)])])])]

/-- The stable windows of a report. -/
def stableWindows : Except OpsExc Report → Option (List Streak)
  | .ok (.analyzed analysis) => some analysis.stable_reentry_window_candidates
  | _ => none

theorem analyzed_of_stableWindows {report : Except OpsExc Report} {windows : List Streak}
    (h : stableWindows report = some windows) : ∃ analysis, report = .ok (.analyzed analysis) ∧
      analysis.stable_reentry_window_candidates = windows := by
  cases report with
  | error error => cases h
  | ok report =>
      cases report with
      | noActivation => cases h
      | analyzed analysis => exact ⟨analysis, rfl, Option.some.inj h⟩

theorem stableWindows_skipped : stableWindows (analyzeRecoveryCandidates
    [stableCapture true, stableCapture false, stableCapture true] sampleEnvelope [[.int 0]]) =
    some [⟨0, 2, 2⟩] := by
  decide +kernel

/-- A window that counts two captures spans the unsettled one between them. -/
theorem stable_windows_skip_unsettled : ∃ analysis,
    analyzeRecoveryCandidates [stableCapture true, stableCapture false, stableCapture true]
      sampleEnvelope [[.int 0]] = .ok (.analyzed analysis) ∧
    ∃ window ∈ analysis.stable_reentry_window_candidates,
      (window.capture_count : Int) ≠ window.end_index - window.start_index + 1 := by
  obtain ⟨analysis, hanalysis, heq⟩ := analyzed_of_stableWindows stableWindows_skipped
  exact ⟨analysis, hanalysis, ⟨0, 2, 2⟩, by simp [heq], by decide⟩

/-- The unsettled capture at the end is skipped, but there is no stable one behind it. -/
theorem noneSkipped_trailing :
    NoneSkipped [stableCapture true, stableCapture true, stableCapture false] sampleEnvelope
      [[.int 0]] := by
  intro peak_index _ i j _ hlt _ hstable _
  obtain ⟨sample, reading, produce, lag, slope, hsample, hmeasured, -⟩ := hstable
  obtain ⟨hindex, -⟩ := List.getElem?_eq_some_iff.mp hsample
  simp only [List.length_cons, List.length_nil] at hindex
  have hlast : j ≠ 2 := by
    intro htwo
    subst htwo
    obtain rfl : stableCapture false = sample := Option.some.inj hsample
    exact absurd hmeasured.settled (by decide)
  omega

/-- Both sides of the equivalence occur: the windows are right where the unsettled capture is
the last one, and wrong where it lies between two stable ones. -/
theorem stable_windows_contiguous_iff_sample :
    (∃ analysis, analyzeRecoveryCandidates
      [stableCapture true, stableCapture true, stableCapture false] sampleEnvelope [[.int 0]] =
        .ok (.analyzed analysis) ∧
      analysis.stable_reentry_window_candidates = [⟨0, 1, 2⟩] ∧
      ∀ index : Nat, index ≤ 1 → StableAt sampleEnvelope
        [stableCapture true, stableCapture true, stableCapture false] index) ∧
    ¬NoneSkipped [stableCapture true, stableCapture false, stableCapture true] sampleEnvelope
      [[.int 0]] := by
  constructor
  · have htrailing : stableWindows (analyzeRecoveryCandidates
        [stableCapture true, stableCapture true, stableCapture false] sampleEnvelope [[.int 0]]) =
        some [⟨0, 1, 2⟩] := by decide +kernel
    obtain ⟨analysis, hanalysis, heq⟩ := analyzed_of_stableWindows htrailing
    have hwindow := (stable_windows_contiguous_iff hanalysis).mpr noneSkipped_trailing ⟨0, 1, 2⟩
      (by simp [heq])
    refine ⟨analysis, hanalysis, heq, fun index hindex => hwindow.2 index ?_ ?_⟩
    · show (0 : Int) ≤ index
      omega
    · show (index : Int) ≤ 1
      omega
  · obtain ⟨analysis, hanalysis, heq⟩ := analyzed_of_stableWindows stableWindows_skipped
    intro hnone
    have hcount :=
      ((stable_windows_contiguous_iff hanalysis).mpr hnone ⟨0, 2, 2⟩ (by simp [heq])).1
    simp at hcount

end EventPipeline.Guarantees
