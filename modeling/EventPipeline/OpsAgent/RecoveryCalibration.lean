import EventPipeline.OpsAgent.Calibration
import EventPipeline.Sequences.Streaks

/-!
# EventPipeline.OpsAgent.RecoveryCalibration

`analyze_recovery_candidates` of `ops_agent/recovery_calibration.py`.

The samples and the envelope are decoded JSON objects of any shape; what is read of them
is guarded in some places and raises in others. The one loop over the samples is taken
apart here: each sample is read, and what the loop collects is collected from the readings.
The texts of `candidate_semantics` are constant and left out.
-/

namespace EventPipeline.OpsAgent.RecoveryCalibration

open EventPipeline.Python EventPipeline.Sequences

/-! ### Numbers -/

/-- `_as_number(value)`; converting an integer may overflow. -/
def asNumber : Json → Except OpsExc (Option PyFloat)
  | .int z =>
      match Binary64.ofRat |(z : ℚ)| with
      | some mag => .ok (some (.finite (z < 0) mag))
      | none => .error .arithmeticError
  | .float f => .ok (if f.isFinite then some f else none)
  | _ => .ok none

/-- `a / b` of finite floats, `b` not zero. -/
def quotient : PyFloat → PyFloat → PyFloat
  | .finite neg mag, .finite neg' mag' =>
      .ofRat (PyFloat.toRat neg mag / PyFloat.toRat neg' mag')
  | _, _ => .nan

/-- `d.get(key, {})`, of which `get` is called. -/
def nested (d : Dict) (key : String) : Except OpsExc Dict :=
  match (d.get? key).getD (.obj []) with
  | .obj kvs => .ok kvs
  | _ => .error .attributeError

/-- The entries of a value that is a mapping, and none of another value. -/
def guarded (value : Json) : Dict :=
  match value with
  | .obj kvs => kvs
  | _ => []

/-- `value is True`. -/
def isTrue : Json → Bool
  | .bool b => b
  | _ => false

/-- The result of `estimated_drain_context`. -/
inductive EstimatedDrain
  | unavailable
  | noBacklog
  | notDraining
  | available (estimated_drain_seconds net_drain_rate_records_per_second : PyFloat)
  deriving DecidableEq

/-- `estimated_drain_context(total_lag, lag_slope)` of two numbers. -/
def estimatedDrainContext (lag slope : PyFloat) : EstimatedDrain :=
  if lag.le PyFloat.zero then .noBacklog
  else if PyFloat.zero.le slope then .notDraining
  else .available (quotient lag slope.abs) slope.abs

/-! ### The envelope

The profile of a rate is the available one whose median rate is nearest, and among those equally
near the first by name. -/

/-- A profile that is available, with its distance from a rate. -/
def profileCandidate (rate : PyFloat) (entry : PyStr × Json) :
    Except OpsExc (Option (PyFloat × PyStr)) :=
  match entry.2 with
  | .obj value =>
      if (getOrNull value "status").pyEq (.str "AVAILABLE") = true then
        match Dict.get? value "actual_produce_rate_records_per_second" with
        | some (.obj stats) => do
            let center ← asNumber (getOrNull stats "median")
            return center.map fun center => ((rate.sub center).abs, entry.1)
        | _ => return none
      else return none
  | _ => return none

/-- `a < b` of two candidates. -/
def candidateLt (a b : PyFloat × PyStr) : Bool :=
  a.1.lt b.1 || (a.1 = b.1 && decide (a.2 < b.2))

/-- `min(candidates)`, the first of the least. -/
def leastCandidate : List (PyFloat × PyStr) → Option (PyFloat × PyStr)
  | [] => none
  | first :: rest => some (rest.foldl (fun least next =>
      if candidateLt next least then next else least) first)

/-- `_profile_for_rate(envelope, rate)`. -/
def profileForRate (envelope : Dict) (rate : PyFloat) : Except OpsExc (Option PyStr) :=
  match Dict.get? envelope "profiles" with
  | some (.obj profiles) => do
      let candidates ← profiles.mapM (profileCandidate rate)
      return (leastCandidate (candidates.filterMap id)).map (·.2)
  | _ => return none

/-! ### Samples -/

/-- What the loop reads of every sample. -/
structure SampleReading where
  produce : Option PyFloat
  committed : Option PyFloat
  lag : Option PyFloat
  slope : Option PyFloat
  desired : Json

/-- The numbers of a sample. -/
def readSample (sample : Dict) : Except OpsExc SampleReading := do
  let kafka ← nested sample "kafka"
  let produce ← asNumber (getOrNull kafka "produce_rate_records_per_second")
  let committed ← asNumber (getOrNull kafka "committed_offset_rate_records_per_second")
  let lag ← asNumber (getOrNull kafka "total_lag")
  let slope ← asNumber (getOrNull kafka "lag_slope_records_per_second")
  let worker ← nested sample "worker"
  return ⟨produce, committed, lag, slope, getOrNull worker "desired_replicas"⟩

/-- An entry of `operating_envelope_reentry_candidates`. -/
structure ReentryCandidate where
  sequence_index : Nat
  matched_profile : Option PyStr
  within_observed_max_lag : Bool
  within_observed_p95_lag : Bool
  no_growth_above_observed_slope_max : Bool
  processing_keeps_up_with_ingress : Bool
  required_evidence_usable : Bool
  postgres_guardrail_candidate_acceptable : Bool
  estimated_drain : EstimatedDrain

/-- The five checks of a stable re-entry. -/
def ReentryCandidate.stable (candidate : ReentryCandidate) : Bool :=
  candidate.within_observed_max_lag && candidate.no_growth_above_observed_slope_max
    && candidate.processing_keeps_up_with_ingress && candidate.required_evidence_usable
    && candidate.postgres_guardrail_candidate_acceptable

/-- `value is not None and number <= value`. -/
def within (number : PyFloat) (limit : Option PyFloat) : Bool := limit.any number.le

/-- The guardrail of PostgreSQL; a missing or malformed observation is looked into. -/
def dbAcceptable (sample : Dict) : Except OpsExc Bool := do
  let postgres ← nested sample "postgres"
  return (getOrNull postgres "readiness_body_status").pyEq (.str "ready")
    && isTrue (getOrNull (guarded (getOrNull postgres "values")) "primary_reachable")

/-- The candidate of a sample with a settled window and known numbers. -/
def reentryCandidate (envelope : Dict) (sample : Dict) (index : Nat) (reading : SampleReading)
    (produce lag slope : PyFloat) : Except OpsExc ReentryCandidate := do
  let profile_name ← profileForRate envelope produce
  let profiles ← nested envelope "profiles"
  let profile := guarded ((profile_name.bind (Dict.get? profiles)).getD (.obj []))
  let lag_stats := guarded (getOrNull profile "total_lag_records")
  let slope_stats := guarded (getOrNull profile "lag_slope_records_per_second")
  let lag_max ← asNumber (getOrNull lag_stats "max")
  let lag_p95 ← asNumber (getOrNull lag_stats "p95_nearest_rank")
  let slope_max ← asNumber (getOrNull slope_stats "max")
  let db_acceptable ← dbAcceptable sample
  return {
    sequence_index := index
    matched_profile := profile_name
    within_observed_max_lag := within lag lag_max
    within_observed_p95_lag := within lag lag_p95
    no_growth_above_observed_slope_max := within slope slope_max
    processing_keeps_up_with_ingress := reading.committed.any produce.le
    required_evidence_usable :=
      isTrue (getOrNull (guarded (getOrNull sample "evidence_quality")) "usable")
    postgres_guardrail_candidate_acceptable := db_acceptable
    estimated_drain := estimatedDrainContext lag slope }

/-- What the loop keeps of a sample. -/
structure SampleResult where
  index : Nat
  reading : SampleReading
  candidate : Option ReentryCandidate

/-- The round of the loop for a sample. It is skipped before the peak, and where its rate
window has not settled or a number is missing. -/
def analyzeSample (envelope : Dict) (peak_index : Int) (index : Nat) (sample : Dict) :
    Except OpsExc SampleResult := do
  let reading ← readSample sample
  if peak_index ≤ index ∧ isTrue (getOrNull sample "rate_window_settled") = true then
    match reading.produce, reading.lag, reading.slope with
    | some produce, some lag, some slope => do
        let candidate ← reentryCandidate envelope sample index reading produce lag slope
        return ⟨index, reading, some candidate⟩
    | _, _, _ => return ⟨index, reading, none⟩
  else return ⟨index, reading, none⟩

/-- The loop over the samples. -/
def analyzeSamples (envelope : Dict) (peak_index : Int) :
    Nat → List Dict → Except OpsExc (List SampleResult)
  | _, [] => return []
  | index, sample :: samples => do
      let result ← analyzeSample envelope peak_index index sample
      let results ← analyzeSamples envelope peak_index (index + 1) samples
      return result :: results

/-- `scale_timing_context`: the samples at which the desired replicas change. -/
def scaleEvents : Json → List SampleResult → List (Nat × Json)
  | _, [] => []
  | previous_desired, result :: results =>
      if result.reading.desired.pyEq previous_desired = true then
        scaleEvents previous_desired results
      else (result.index, result.reading.desired) :: scaleEvents result.reading.desired results

/-- `produce_committed_balance_reversal_index`: the first sample from the peak on in which at
least as much is committed as is produced. -/
def balanceReversal (peak_index : Int) (results : List SampleResult) : Option Nat :=
  (results.find? fun result => decide (peak_index ≤ result.index)
    && result.reading.produce.any fun produce => result.reading.committed.any produce.le).map
      (·.index)

/-! ### The peak

The peak is looked for from the end of the first activation window on. -/

/-- `sequence[start:]`. -/
def sliceFrom {α : Type} (values : List α) (start : Int) : List α :=
  values.drop (if start < 0 then (values.length + start).toNat else start.toNat)

/-- `sequence[index]`. -/
def itemAt {α : Type} (values : List α) (index : Int) : Except OpsExc α :=
  let position := if index < 0 then values.length + index else index
  match (if position < 0 then none else values[position.toNat]?) with
  | some value => .ok value
  | none => .error .indexError

/-- A number of the Kafka summary of a sample. -/
def kafkaNumber (field : String) (sample : Dict) : Except OpsExc (Option PyFloat) := do
  let kafka ← nested sample "kafka"
  asNumber (getOrNull kafka field)

/-- The lags that are known, with their indices. -/
def usableLag : Int → List Dict → Except OpsExc (List (Int × PyFloat))
  | _, [] => return []
  | index, sample :: samples => do
      let lag ← kafkaNumber "total_lag" sample
      let rest ← usableLag (index + 1) samples
      return (lag.map fun lag => (index, lag)).toList ++ rest

/-- `max(usable_lag, key=…)`, the first of the greatest. -/
def peakLag : List (Int × PyFloat) → Option (Int × PyFloat)
  | [] => none
  | first :: rest => some (rest.foldl (fun peak next =>
      if peak.2.lt next.2 then next else peak) first)

/-- Whether the slope at an index is negative. -/
def negativeSlope (samples : List Dict) (index : Int) : Except OpsExc (Int × Bool) := do
  let sample ← itemAt samples index
  let slope ← kafkaNumber "lag_slope_records_per_second" sample
  return (index, slope.any (·.lt PyFloat.zero))

/-! ### The analysis -/

/-- What is reported as `ANALYZED`. -/
structure Analysis where
  matched_activation_windows : List (List Json)
  activation_end_index : Int
  peak_lag_records : PyFloat
  peak_lag_index : Int
  first_negative_lag_slope_index : Option Int
  negative_lag_slope_run_candidates : List Streak
  produce_committed_balance_reversal_index : Option Nat
  operating_envelope_reentry_candidates : List ReentryCandidate
  stable_reentry_window_candidates : List Streak
  scale_timing_context : List (Nat × Json)

/-- The report. -/
inductive Report
  | noActivation
  | analyzed (analysis : Analysis)

/-- `isinstance(index, int)`, and its value. -/
def windowIndex : Json → Option Int
  | .int z => some z
  | .bool b => some (if b then 1 else 0)
  | _ => none

/-- The bounds of the first activation window. -/
def windowBounds (window : List Json) : Except OpsExc (Int × Int) :=
  match window.mapM windowIndex with
  | some (start :: rest) => .ok (start, (start :: rest).getLastD start)
  | _ => .error (.valueError "activation window indexes are invalid")

/-- `analyze_recovery_candidates(samples, envelope, matched_activation_windows)`. -/
def analyzeRecoveryCandidates (samples : List Dict) (envelope : Dict)
    (matched_activation_windows : List (List Json)) : Except OpsExc Report := do
  ensure (samples ≠ []) (.valueError "recovery samples are required")
  match matched_activation_windows with
  | [] => return .noActivation
  | first_window :: _ => do
      let (start_index, end_index) ← windowBounds first_window
      ensure (¬(start_index < 0 ∨ (samples.length : Int) ≤ end_index))
        (.valueError "activation window is outside the capture sequence")
      let usable_lag ← usableLag end_index (sliceFrom samples end_index)
      match peakLag usable_lag with
      | none => .error (.valueError "activation sequence has no usable lag observations")
      | some (peak_index, peak_lag) => do
          let slopes ← ((List.range (samples.length - peak_index).toNat).map
            fun step : Nat => peak_index + step).mapM (negativeSlope samples)
          let results ← analyzeSamples envelope peak_index 0 samples
          let negative_runs := streaks [] slopes
          let candidates := results.filterMap (·.candidate)
          return .analyzed {
            matched_activation_windows := matched_activation_windows
            activation_end_index := end_index
            peak_lag_records := peak_lag
            peak_lag_index := peak_index
            first_negative_lag_slope_index := negative_runs.head?.map (·.start_index)
            negative_lag_slope_run_candidates := negative_runs
            produce_committed_balance_reversal_index := balanceReversal peak_index results
            operating_envelope_reentry_candidates := candidates
            stable_reentry_window_candidates := streaks []
              (candidates.map fun candidate => ((candidate.sequence_index : Int), candidate.stable))
            scale_timing_context := scaleEvents .null results }

end EventPipeline.OpsAgent.RecoveryCalibration
