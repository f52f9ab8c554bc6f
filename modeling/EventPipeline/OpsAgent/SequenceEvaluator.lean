import EventPipeline.OpsAgent.BacklogEvaluator

/-!
# EventPipeline.OpsAgent.SequenceEvaluator

`evaluate_bundle_sequence` of `ops_agent/sequence_evaluator.py`: one capture for each
bundle, the problems of the sequence and the windows that activate the core condition.

The fields of the policy are literals. The evaluation id is a digest of the evaluation
and its validators re-check what is built here, so neither is part of the result.
-/

namespace EventPipeline.OpsAgent.SequenceEvaluator

open EventPipeline.Python EventPipeline.Sequences
open EventPipeline.OpsAgent.Evaluator (ConditionResult OtherConditions OtherEvaluator
  BundleEvaluation BacklogFacts EvidenceDependencyTrace sameSet)

/-! ### Policy -/

/-- `activation_consecutive_capture_count`. -/
def activationConsecutiveCaptureCount : Nat := 3

/-- `activation_total_lag_floor_records`. -/
def activationTotalLagFloorRecords : Int := 7000

/-- `activation_lag_slope_floor_records_per_second`. -/
def activationLagSlopeFloorRecordsPerSecond : PyFloat := PyFloat.ofNat 100

/-- `_scope_issue_codes(bundle, policy)`. -/
def scopeIssueCodes (bundle : EvidenceBundle) : List PyStr :=
  codeIf (bundle.cluster_profile ≠ "local-ha") "SEQUENCE_CLUSTER_PROFILE_MISMATCH"
    ++ codeIf (bundle.scope.context ≠ some (PyStr.ofString "kind-messaging-ha"))
      "SEQUENCE_CONTEXT_MISMATCH"
    ++ codeIf (bundle.scope.namespace_ ≠ "messaging-app") "SEQUENCE_NAMESPACE_MISMATCH"
    ++ codeIf (bundle.scope.topic ≠ "message-ingress") "SEQUENCE_TOPIC_MISMATCH"
    ++ codeIf (bundle.scope.consumer_group ≠ "message-worker") "SEQUENCE_CONSUMER_GROUP_MISMATCH"
    ++ codeIf (bundle.context.policy_version ≠ "local-ha.evidence.v1")
      "SEQUENCE_SOURCE_POLICY_MISMATCH"

/-! ### Source identity -/

/-- The result of `_source_identity`. -/
structure SourceIdentity where
  identity : Option Sha256
  issues : List PyStr
  partition_set : List PyStr
  kafka_source_timestamp : Option Aware

/-- `_source_identity(bundle)`: the digest of where the evidence came from, or the issues for
which there is none. Unlike the one of the recovery it does not look at the application. -/
def sourceIdentity (rt : OpsRuntime) (bundle : EvidenceBundle) : Except OpsExc SourceIdentity := do
  let (endpoint, endpoint_issues) :=
    endpointIdentity rt bundle "prometheus" "SEQUENCE_PROMETHEUS"
  let items := kafkaItems bundle
  let exporter := onlyValue (items.map fun item => (item.label "job", item.label "instance"))
  let partition_set ← sortedByInt rt (items.filterMap (·.label "partition"))
  let source_timestamp := onlyTime (items.filterMap (·.source_timestamp))
  let issues := endpoint_issues
    ++ codeIf (exporter = none) "SEQUENCE_KAFKA_EXPORTER_IDENTITY_UNUSABLE"
    ++ codeIf (source_timestamp = none) "SEQUENCE_KAFKA_SOURCE_TIMESTAMP_UNUSABLE"
  match issues, endpoint, exporter with
  | [], some endpoint, some exporter =>
      return ⟨some (rt.sha256 (
        { cluster_profile := bundle.cluster_profile
          scope := bundle.scope
          source_sha := bundle.context.source_sha
          collector_tree_sha256 := bundle.context.collector_tree_sha256
          collector_version := bundle.context.collector_version
          tool_registry_version := bundle.context.tool_registry_version
          source_policy_version := bundle.context.policy_version
          prometheus_endpoint_identity_sha256 := endpoint.text
          kafka_exporter_identity := exporter
          partition_set := partition_set } : ConditionIdentity)), [], partition_set,
        source_timestamp⟩
  | _, _, _ => return ⟨none, sortedSet issues, partition_set, source_timestamp⟩

/-! ### Measurement

The measurement is over the same series as the summary of `ops_agent/calibration.py`, in a loop of
its own. -/

/-- `Decimal(str(sample[field]))` of every sample of a list. -/
def decimalsOf (rt : OpsRuntime) (field : String) (item : EvidenceItem) : Option (List ℚ) :=
  match item.metric.value with
  | .arr samples => samples.mapM (sampleDecimal rt field)
  | _ => none

/-- What the loop reads of one partition. -/
structure PartitionSamples where
  timestamps : List ℚ
  ends : List ℚ
  committed : List ℚ
  lag : List ℚ

/-- The samples of a partition; `none` is an error that is caught. -/
def partitionSamples (rt : OpsRuntime) (ends committed lag : List (PyStr × EvidenceItem))
    (partition : PyStr) : Option PartitionSamples := do
  let end_item ← ends.lookup partition
  let committed_item ← committed.lookup partition
  let lag_item ← lag.lookup partition
  let end_values ← decimalsOf rt "value" end_item
  let committed_values ← decimalsOf rt "value" committed_item
  let lag_values ← decimalsOf rt "value" lag_item
  let timestamps ← decimalsOf rt "timestamp" end_item
  return ⟨timestamps, end_values, committed_values, lag_values⟩

/-- `values[-1] - values[0]`. -/
def deltaOf (dec : DecimalArithmetic) (values : List ℚ) : Except OpsExc ℚ :=
  if values = [] then .error .indexError else dec (spread values)

/-- The variables of the loop. -/
structure MeasurementTotals where
  end_delta : ℚ
  committed_delta : ℚ
  lag_delta : ℚ
  latest_lag : ℚ
  window : Option ℚ
  issues : List PyStr

/-- One round of the loop. -/
def measurementStep (dec : DecimalArithmetic) (totals : MeasurementTotals)
    (samples : PartitionSamples) : Except OpsExc MeasurementTotals := do
  let observed_window ← deltaOf dec samples.timestamps
  let end_delta ← deltaOf dec samples.ends
  let end_total ← dec (totals.end_delta + end_delta)
  let committed_delta ← deltaOf dec samples.committed
  let committed_total ← dec (totals.committed_delta + committed_delta)
  let lag_delta ← deltaOf dec samples.lag
  let lag_total ← dec (totals.lag_delta + lag_delta)
  let latest_lag ← dec (totals.latest_lag + samples.lag.getLastD 0)
  let window := totals.window.getD observed_window
  return {
    end_delta := end_total
    committed_delta := committed_total
    lag_delta := lag_total
    latest_lag := latest_lag
    window := some window
    issues := totals.issues
      ++ codeIf (observed_window ≠ window) "SEQUENCE_KAFKA_WINDOW_MISMATCH" }

/-- The loop over the partitions; `none` is an error that is caught. -/
def measurementLoop (dec : DecimalArithmetic) (rt : OpsRuntime)
    (ends committed lag : List (PyStr × EvidenceItem)) :
    MeasurementTotals → List PyStr → Except OpsExc (Option MeasurementTotals)
  | totals, [] => return some totals
  | totals, partition :: partitions =>
      match partitionSamples rt ends committed lag partition with
      | none => return none
      | some samples => do
          let totals' ← measurementStep dec totals samples
          measurementLoop dec rt ends committed lag totals' partitions

/-- The first result of `_measurement`. -/
structure SequenceMeasurement where
  partition_set : List PyStr
  total_lag : ℚ
  lag_slope : ℚ
  produce_rate : ℚ
  committed_rate : ℚ
  rate_arithmetic_consistent : Bool

/-- The rates of the totals over the window. -/
def measuredTotals (dec : DecimalArithmetic) (partition_set : List PyStr)
    (totals : MeasurementTotals) : Except OpsExc (Option SequenceMeasurement × List PyStr) :=
  let failed : Option SequenceMeasurement × List PyStr :=
    (none, if totals.issues = [] then [PyStr.ofString "SEQUENCE_KAFKA_WINDOW_INVALID"]
      else sortedSet totals.issues)
  match totals.window with
  | none => return failed
  | some window =>
      if totals.issues ≠ [] ∨ window ≤ 0 then return failed
      else do
        let produce_rate ← dec (totals.end_delta / window)
        let committed_rate ← dec (totals.committed_delta / window)
        let lag_slope ← dec (totals.lag_delta / window)
        let difference ← dec (totals.end_delta - totals.committed_delta)
        let consistent := decide (difference = totals.lag_delta)
        return (some ⟨partition_set, totals.latest_lag, lag_slope, produce_rate, committed_rate,
            consistent⟩,
          codeIf (consistent = false) "SEQUENCE_RATE_LAG_ARITHMETIC_MISMATCH")

/-- `_measurement(bundle)`. It is called on a bundle whose required evidence has no
issue, so the samples are finite decimals; a sample that is not counts as invalid. -/
def measurement (dec : DecimalArithmetic) (rt : OpsRuntime) (bundle : EvidenceBundle) :
    Except OpsExc (Option SequenceMeasurement × List PyStr) :=
  let ends := itemsByPartition bundle "kafka_topic_partition_current_offset"
  let committed := itemsByPartition bundle "kafka_consumergroup_current_offset"
  let lag := itemsByPartition bundle "kafka_consumergroup_lag"
  let keys (family : List (PyStr × EvidenceItem)) : List PyStr := family.map (·.1)
  if ends = [] ∨ committed = [] ∨ lag = [] then
    return (none, [PyStr.ofString "SEQUENCE_KAFKA_MEASUREMENT_MISSING"])
  else if (sameSet (keys committed) (keys ends) && sameSet (keys lag) (keys ends)) = false then
    return (none, [PyStr.ofString "SEQUENCE_KAFKA_PARTITION_SET_MISMATCH"])
  else
    match sortedByInt rt (keys ends) with
    | .error _ => return (none, [PyStr.ofString "SEQUENCE_KAFKA_MEASUREMENT_INVALID"])
    | .ok partitions => do
        let result ← measurementLoop dec rt ends committed lag ⟨0, 0, 0, 0, none, []⟩ partitions
        match result with
        | none => return (none, [PyStr.ofString "SEQUENCE_KAFKA_MEASUREMENT_INVALID"])
        | some totals => measuredTotals dec partitions totals

/-! ### Captures -/

/-- `SequenceSourceBundleReference`. -/
structure SourceBundleReference where
  sequence_index : Nat
  bundle_id : PyStr
  incident_id : PyStr
  cluster_profile : PyStr
  collection_status : CollectionStatus
  collection_started_at : Aware
  collection_completed_at : Aware
  kafka_source_timestamp : Option Aware
  source_bundle_sha256 : Sha256

/-- `SequenceCaptureObservation`. -/
structure CaptureObservation where
  sequence_index : Nat
  bundle_id : PyStr
  source_bundle_sha256 : Sha256
  required_evidence_usable : Bool
  core_single_bundle_state : Option ConditionState
  reason_codes : List PyStr
  source_identity_sha256 : Option Sha256
  kafka_source_timestamp : Option Aware
  partition_set : List PyStr
  total_lag_records : Option Int
  lag_slope_60s_records_per_second : Option PyFloat
  produce_rate_60s_records_per_second : Option PyFloat
  committed_offset_rate_60s_records_per_second : Option PyFloat
  rate_arithmetic_consistent : Option Bool
  meets_lag_floor : Option Bool
  meets_slope_floor : Option Bool
  worker_context : Dict
  keda_context : Dict
  worker_stage_latency_context : Dict

/-- `_Capture`. -/
structure Capture where
  source_reference : SourceBundleReference
  observation : CaptureObservation
  single_evaluation : Option BundleEvaluation

/-- `int(value)`. -/
def truncated (value : ℚ) : Int := value.num.tdiv value.den

/-- `evaluate_bundle` and `_measurement` of a bundle in scope. -/
structure ScopedReading where
  single_evaluation : Option BundleEvaluation
  measurement : Option SequenceMeasurement
  measurement_issues : List PyStr

/-- The core condition has an evaluation and its required evidence no issue. -/
def ScopedReading.coreUsable (reading : ScopedReading) : Bool :=
  reading.single_evaluation.any fun evaluation => evaluation.core_backlog_pressure.Usable

/-- The evaluation of a bundle, where its scope is the policy's. -/
def readScoped (dec : DecimalArithmetic) (others : OtherEvaluator) (rt : OpsRuntime)
    (bundle : EvidenceBundle) : Except OpsExc ScopedReading :=
  if scopeIssueCodes bundle = [] then do
    let evaluation ← Evaluator.evaluateBundle dec others rt bundle
    if evaluation.core_backlog_pressure.Usable then do
      let (measured, issues) ← measurement dec rt bundle
      return ⟨some evaluation, measured, issues⟩
    else return ⟨some evaluation, none, []⟩
  else return ⟨none, none, []⟩

/-- The observation of a capture. -/
def captureObservation (rt : OpsRuntime) (bundle : EvidenceBundle) (sequence_index : Nat)
    (identity : SourceIdentity) (reading : ScopedReading) (summary : BundleSummary) :
    CaptureObservation :=
  let core := reading.single_evaluation.map (·.core_backlog_pressure)
  let total_lag := reading.measurement.map fun m => truncated m.total_lag
  let lag_slope := reading.measurement.map fun m => PyFloat.ofRat m.lag_slope
  { sequence_index := sequence_index
    bundle_id := bundle.bundle_id
    source_bundle_sha256 := rt.sha256 bundle
    required_evidence_usable := reading.coreUsable && reading.measurement.isSome
      && (scopeIssueCodes bundle).isEmpty && identity.issues.isEmpty
      && reading.measurement_issues.isEmpty
    core_single_bundle_state := core.map (·.state)
    reason_codes := sortedSet (scopeIssueCodes bundle ++ identity.issues
      ++ reading.measurement_issues
      ++ if reading.coreUsable then [] else (core.map (·.reason_codes)).getD [])
    source_identity_sha256 := identity.identity
    kafka_source_timestamp := identity.kafka_source_timestamp
    partition_set := identity.partition_set
    total_lag_records := total_lag
    lag_slope_60s_records_per_second := lag_slope
    produce_rate_60s_records_per_second :=
      reading.measurement.map fun m => PyFloat.ofRat m.produce_rate
    committed_offset_rate_60s_records_per_second :=
      reading.measurement.map fun m => PyFloat.ofRat m.committed_rate
    rate_arithmetic_consistent := reading.measurement.map (·.rate_arithmetic_consistent)
    meets_lag_floor := total_lag.map fun lag => decide (activationTotalLagFloorRecords ≤ lag)
    meets_slope_floor := lag_slope.map activationLagSlopeFloorRecordsPerSecond.le
    worker_context := summary.worker
    keda_context := summary.keda
    worker_stage_latency_context := summary.worker_db_persist_stage_latency }

/-- `_capture(bundle, index, policy)`. -/
def capture (dec : DecimalArithmetic) (others : OtherEvaluator) (rt : OpsRuntime)
    (bundle : EvidenceBundle) (sequence_index : Nat) : Except OpsExc Capture := do
  let identity ← sourceIdentity rt bundle
  let reading ← readScoped dec others rt bundle
  let summary ← summarizeBundle dec rt bundle
  let observation := captureObservation rt bundle sequence_index identity reading summary
  ensure (∀ lag ∈ observation.total_lag_records, 0 ≤ lag) (.validationError "total_lag_records")
  ensure (bundle.collection.started_at.instant ≤ bundle.collection.completed_at.instant)
    (.valueError "sequence collection start must not exceed completion")
  return {
    source_reference := {
      sequence_index := sequence_index
      bundle_id := bundle.bundle_id
      incident_id := bundle.incident_id
      cluster_profile := bundle.cluster_profile
      collection_status := bundle.collection.status
      collection_started_at := bundle.collection.started_at
      collection_completed_at := bundle.collection.completed_at
      kafka_source_timestamp := identity.kafka_source_timestamp
      source_bundle_sha256 := rt.sha256 bundle }
    observation := observation
    single_evaluation := reading.single_evaluation }

/-- `[_capture(bundle, index, policy) for index, bundle in enumerate(bundles)]`. -/
def capturesFrom (dec : DecimalArithmetic) (others : OtherEvaluator) (rt : OpsRuntime) :
    Nat → List EvidenceBundle → Except OpsExc (List Capture)
  | _, [] => return []
  | sequence_index, bundle :: bundles => do
      let first ← capture dec others rt bundle sequence_index
      let rest ← capturesFrom dec others rt (sequence_index + 1) bundles
      return first :: rest

/-! ### Problems -/

/-- The capture does not begin and end after the one before it. -/
def outOfOrder (captures : Capture × Capture) : Prop :=
  captures.2.source_reference.collection_started_at.instant
      ≤ captures.1.source_reference.collection_started_at.instant ∨
    captures.2.source_reference.collection_completed_at.instant
      ≤ captures.1.source_reference.collection_completed_at.instant

instance (captures : Capture × Capture) : Decidable (outOfOrder captures) := by
  unfold outOfOrder
  infer_instance

/-- Both times are there and the second does not follow the first. -/
def timesOutOfOrder : Option Aware × Option Aware → Bool
  | (some previous, some current) => current.instant ≤ previous.instant
  | _ => false

/-- The problems of a sequence of captures. -/
def sequenceProblems (captures : List Capture) : List PyStr :=
  let observations := captures.map (·.observation)
  let kafka_timestamps := observations.map (·.kafka_source_timestamp)
  let identities := observations.map (·.source_identity_sha256)
  codeIf (observations.length < activationConsecutiveCaptureCount)
      "SEQUENCE_CAPTURE_COUNT_INSUFFICIENT"
    ++ codeIf (observations.any (!·.required_evidence_usable) = true)
      "SEQUENCE_REQUIRED_EVIDENCE_UNUSABLE"
    ++ codeIf (∃ step ∈ adjacent captures, outOfOrder step)
      "SEQUENCE_CAPTURE_TIMESTAMPS_NOT_STRICTLY_INCREASING"
    ++ codeIf (none ∈ kafka_timestamps ∨ (adjacent kafka_timestamps).any timesOutOfOrder = true)
      "SEQUENCE_KAFKA_SOURCE_TIMESTAMPS_NOT_STRICTLY_INCREASING"
    ++ codeIf (none ∈ identities ∨ distinct identities ≠ 1) "SEQUENCE_SOURCE_IDENTITY_MISMATCH"
    ++ codeIf (distinct (observations.map (·.partition_set)) ≠ 1) "SEQUENCE_PARTITION_SET_MISMATCH"
    ++ codeIf (∃ observation ∈ observations, observation.rate_arithmetic_consistent ≠ some true)
      "SEQUENCE_RATE_LAG_ARITHMETIC_MISMATCH"

/-! ### Windows

A window is a number of consecutive captures, all of which are above the floors, with a lag that
grows from each to the next. -/

/-- The lag does not grow between two observations that have one. -/
def lagNotIncreasing (observations : CaptureObservation × CaptureObservation) : Bool :=
  match observations.1.total_lag_records, observations.2.total_lag_records with
  | some previous, some current => current ≤ previous
  | _, _ => false

/-- A window that activates. -/
def windowMatches (window : List CaptureObservation) : Bool :=
  window.all (fun item => item.meets_lag_floor = some true && item.meets_slope_floor = some true)
    && (adjacent window).all (!lagNotIncreasing ·)

/-- `matched_windows` of a sequence without problems. -/
def matchedWindows (observations : List CaptureObservation) : List (List Nat) :=
  (matchingStarts activationConsecutiveCaptureCount windowMatches observations).map
    fun start => List.range' start activationConsecutiveCaptureCount

/-! ### The sequence -/

/-- The facts of the core condition of a sequence. The measurements it repeats are those
of the observations, and the activation policy is constant. -/
structure SequenceFacts where
  ordered_capture_bundle_ids : List PyStr
  ordered_capture_digests : List Sha256
  matched_activation_windows : List (List Nat)
  latest_single_bundle_facts : BacklogFacts

/-- The `ConditionResult` of the core condition of a sequence. -/
structure CoreSequenceResult where
  state : ConditionState
  reason_codes : List PyStr
  evidence_ids : List PyStr
  required_evidence : List EvidenceDependencyTrace
  optional_evidence : List EvidenceDependencyTrace
  missing_required_dependencies : List PyStr
  stale_required_evidence_ids : List PyStr
  unknown_freshness_required_evidence_ids : List PyStr
  facts : SequenceFacts

/-- The state and the reason codes of a sequence. -/
def sequenceState (problems : List PyStr) (matched : List (List Nat)) (base : ConditionState) :
    ConditionState × List PyStr :=
  if problems ≠ [] then (.unknown, sortedSet problems)
  else if matched ≠ [] then
    (.present, [PyStr.ofString "CALIBRATED_THREE_CAPTURE_BACKLOG_ACTIVATION_OBSERVED",
      PyStr.ofString "LAG_RATE_ARITHMETIC_CONSISTENCY_CONFIRMED"])
  else if base = .absent then
    (.absent, [PyStr.ofString "LATEST_FULL_WINDOW_BACKLOG_ZERO_WITHOUT_SEQUENCE_ACTIVATION"])
  else (.unknown, [PyStr.ofString "CALIBRATED_BACKLOG_ACTIVATION_SEQUENCE_NOT_OBSERVED"])

/-- `_core_sequence_result(captures, policy, base)`. -/
def coreSequenceResult (captures : List Capture) (base : ConditionResult) : CoreSequenceResult :=
  let observations := captures.map (·.observation)
  let problems := sequenceProblems captures
  let matched := if problems = [] then matchedWindows observations else []
  let (state, reasons) := sequenceState problems matched base.state
  { state := state
    reason_codes := reasons
    evidence_ids := sortedSet ((captures.filterMap (·.single_evaluation)).flatMap
      (·.core_backlog_pressure.evidence_ids))
    required_evidence := base.required_evidence
    optional_evidence := base.optional_evidence
    missing_required_dependencies := base.missing_required_dependencies
    stale_required_evidence_ids := base.stale_required_evidence_ids
    unknown_freshness_required_evidence_ids := base.unknown_freshness_required_evidence_ids
    facts := {
      ordered_capture_bundle_ids := observations.map (·.bundle_id)
      ordered_capture_digests := observations.map (·.source_bundle_sha256)
      matched_activation_windows := matched
      latest_single_bundle_facts := base.facts } }

/-- `_no_backlog_assessment(conditions)`: the state and the reason. -/
def noBacklogAssessment (core concentration : ConditionState) : ConditionState × PyStr :=
  if core = .absent ∧ concentration = .absent then (.present, "BACKLOG_CONDITIONS_ABSENT")
  else if core = .present ∨ concentration = .present then
    (.absent, "BACKLOG_PRESSURE_CONDITION_PRESENT")
  else (.unknown, "BACKLOG_CONDITION_UNKNOWN")

/-- What `evaluate_bundle_sequence` returns. -/
structure SequenceEvaluation where
  evaluation_status : EvaluationStatus
  source_bundles : List SourceBundleReference
  capture_observations : List CaptureObservation
  core_backlog_pressure : CoreSequenceResult
  others : OtherConditions
  no_backlog_pressure_detected : ConditionState × PyStr

/-- The evaluation of captures, of which `latest` is the last that is compatible. -/
def sequenceEvaluation (captures : List Capture) (latest : BundleEvaluation) :
    SequenceEvaluation :=
  let core := coreSequenceResult captures latest.core_backlog_pressure
  let assessment :=
    noBacklogAssessment core.state latest.others.partition_lag_concentration_observed.1
  let states := [core.state, latest.others.partition_lag_concentration_observed.1,
    latest.others.db_degraded.1, latest.others.worker_replica_unavailable.1, assessment.1]
  { evaluation_status := if .unknown ∈ states then .partialResult else .complete
    source_bundles := captures.map (·.source_reference)
    capture_observations := captures.map (·.observation)
    core_backlog_pressure := core
    others := latest.others
    no_backlog_pressure_detected := assessment }

/-- `evaluate_bundle_sequence(bundles)`: one capture for each bundle, in order, and the evaluation
of the sequence. The conditions it passes on are those of the last bundle that could be evaluated.
-/
def evaluateBundleSequence (dec : DecimalArithmetic) (others : OtherEvaluator) (rt : OpsRuntime)
    (bundles : List EvidenceBundle) : Except OpsExc SequenceEvaluation := do
  ensure (bundles ≠ []) (.valueError "sequence evaluation requires at least one evidence bundle")
  ensure (bundles.length ≤ 256)
    (.valueError "sequence evaluation accepts at most 256 evidence bundles")
  let captures ← capturesFrom dec others rt 0 bundles
  match (captures.filterMap (·.single_evaluation)).getLast? with
  | none => .error (.valueError "sequence contains no bundle compatible with local-ha v2")
  | some latest => return sequenceEvaluation captures latest

end EventPipeline.OpsAgent.SequenceEvaluator
