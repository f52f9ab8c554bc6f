import EventPipeline.Python.Numeral
import EventPipeline.OpsAgent.IncidentModels

/-!
# EventPipeline.OpsAgent.RecoveryEvaluator

`evaluate_recovery` of `ops_agent/recovery_evaluator.py`: the loop over the captures and
the two passes over the states.

What the loop reads from one bundle is a `BundleReading`. The passes do not depend on
how a reading is obtained, so `evaluateRecoveryWith` takes the reader as a parameter.
-/

namespace EventPipeline.OpsAgent

open EventPipeline.Python

/-! ### Readings -/

/-- The first result of `_kafka_observation`. -/
structure Measurement where
  total_lag_records : Option PyNumber
  lag_slope_60s_records_per_second : Option PyFloat
  produce_rate_60s_records_per_second : Option PyFloat
  committed_offset_rate_60s_records_per_second : Option PyFloat
  rate_arithmetic_consistent : Option Bool
  partition_offsets : List (PyStr × PartitionOffsets)

/-- What the loop takes from one bundle: the results of `_source_identity`,
`_kafka_observation`, `_postgres_observation` and `summarize_bundle`. -/
structure BundleReading where
  condition_identity : Option Sha256
  recovery_identity : Option Sha256
  partition_set : List PyStr
  kafka_source : Option Aware
  identity_issues : List PyStr
  measurement : Measurement
  kafka_issues : List PyStr
  kafka_evidence_ids : List PyStr
  negative_points : List NegativeLagPoint
  postgres_ready : Option Bool
  postgres_context : Dict
  postgres_issues : List PyStr
  postgres_ids : List PyStr
  worker_context : Dict
  keda_context : Dict
  worker_stage_latency_context : Dict

/-! ### Inputs -/

/-- `_GLOBAL_INTEGRITY_ISSUES`. -/
def globalIntegrityIssues : List PyStr :=
  ["ACTIVATION_INCIDENT_IDENTITY_MISMATCH",
    "ACTIVATION_POLICY_MISMATCH",
    "ACTIVATION_SOURCE_IDENTITY_UNUSABLE",
    "ACTIVATION_STATE_NOT_PRESENT",
    "RECOVERY_BUNDLE_DIGEST_MISMATCH",
    "RECOVERY_CAPTURE_NOT_POST_ACTIVATION",
    "RECOVERY_COLLECTION_TIMESTAMPS_REORDERED",
    "RECOVERY_CONDITION_SOURCE_IDENTITY_MISMATCH",
    "RECOVERY_INCIDENT_IDENTITY_MISMATCH",
    "RECOVERY_OFFSET_DECREASE_OR_RESET",
    "RECOVERY_SCOPE_MISMATCH",
    "RECOVERY_SOURCE_IDENTITY_MISMATCH"]

/-- The digests the caller expects, each a lower-case SHA-256. -/
def parseDigests : List PyStr → Except OpsExc (List Sha256)
  | [] => .ok []
  | value :: values =>
      if h : value.length = 64 ∧ value.all isHexDigit = true then do
        let digests ← parseDigests values
        return ⟨value, h.1, h.2⟩ :: digests
      else .error (.valueError "source bundle digests must be lowercase SHA-256 values")

/-- `_logical_incident_matches(source_incident_id, incident_id)`. -/
def logicalIncidentMatches (source_incident_id incident_id : PyStr) : Bool :=
  source_incident_id = incident_id
    || source_incident_id.startsWith (incident_id ++ PyStr.ofString "-")

/-- The only source identity of the activation's captures. -/
def activationIdentity (activation : SequenceConditionEvaluation) : Option Sha256 :=
  match activation.sourceIdentities with
  | [identity] => some identity
  | _ => none

/-- `_activation_reference(activation)`: what an evaluation of the recovery names of its
activation. -/
def activationReference (activation : SequenceConditionEvaluation) :
    Except OpsExc RecoveryActivationReference := do
  ensure (activation.schema_version = "ops.conditions.v2") (.validationError "schema_version")
  return {
    schema_version := activation.schema_version
    evaluation_id := activation.evaluation_id
    evaluator_version := activation.evaluator_version
    ruleset_version := activation.ruleset_version
    policy_version := activation.policy.policy_version
    condition_state := activation.core_state
    source_bundle_digests := activation.sourceBundleDigests
    last_collection_completed_at := .aware activation.lastBundle.collection_completed_at
    last_kafka_source_timestamp := activation.lastBundle.kafka_source_timestamp.map .aware
    source_identity_sha256 := activationIdentity activation }

/-- A code, where the condition holds. -/
def codeIf (condition : Prop) [Decidable condition] (code : String) : List PyStr :=
  if condition then [PyStr.ofString code] else []

theorem mem_codeIf {condition : Prop} [Decidable condition] {code : String}
    {found : PyStr} :
    found ∈ codeIf condition code ↔ condition ∧ found = PyStr.ofString code := by
  unfold codeIf
  split_ifs with h <;> simp [h]

/-- The fields of the activation the policy fixes. -/
def activationMatchesPolicy (activation : SequenceConditionEvaluation)
    (policy : RecoveryEvaluationPolicy) : Bool :=
  activation.schema_version = policy.activation_schema_version
    && activation.evaluator_version = policy.activation_evaluator_version
    && activation.ruleset_version = policy.activation_ruleset_version
    && activation.policy.policy_version = policy.activation_policy_version
    && activation.policy.cluster_profile = policy.profile
    && activation.policy.context = policy.context
    && activation.policy.namespace_ = policy.namespace_
    && activation.policy.topic = policy.topic
    && activation.policy.consumer_group = policy.consumer_group

/-- `_activation_issues(activation, incident_id, policy)`. -/
def activationIssues (activation : SequenceConditionEvaluation) (incident_id : PyStr)
    (policy : RecoveryEvaluationPolicy) : List PyStr :=
  sortedSet (
    codeIf (activation.core_state ≠ .present) "ACTIVATION_STATE_NOT_PRESENT"
    ++ codeIf (activationMatchesPolicy activation policy = false) "ACTIVATION_POLICY_MISMATCH"
    ++ codeIf (activation.source_bundles.all
        (fun item => logicalIncidentMatches item.incident_id incident_id) = false)
      "ACTIVATION_INCIDENT_IDENTITY_MISMATCH"
    ++ codeIf (activation.sourceIdentities.length ≠ 1) "ACTIVATION_SOURCE_IDENTITY_UNUSABLE")

/-- `_scope_issues(bundle, policy)`. -/
def scopeIssues (bundle : EvidenceBundle) (policy : RecoveryEvaluationPolicy) : List PyStr :=
  if bundle.cluster_profile = policy.profile ∧ bundle.scope.context = some policy.context ∧
      bundle.scope.namespace_ = policy.namespace_ ∧ bundle.scope.topic = policy.topic ∧
      bundle.scope.consumer_group = policy.consumer_group ∧
      bundle.context.policy_version = policy.source_evidence_policy_version then []
  else [PyStr.ofString "RECOVERY_SCOPE_MISMATCH"]

/-! ### The capture loop

The loop carries the last time stamps, the offsets and the identity from capture to capture. A
global issue is latched: no capture after it is usable. -/

/-- What every capture is compared with. -/
structure CaptureSetting where
  incident_id : PyStr
  policy : RecoveryEvaluationPolicy
  activation_problems : List PyStr
  /-- `activation_reference.last_collection_completed_at`. -/
  activation_completed_at : Aware
  /-- `activation_reference.source_identity_sha256`. -/
  activation_identity : Option Sha256

/-- The variables the loop carries from capture to capture. -/
structure CaptureState where
  previous_collection : Aware
  previous_kafka_source : Option Aware
  expected_recovery_identity : Option Sha256
  stream_integrity_broken : Bool
  previous_partition_offsets : Option (List (PyStr × PartitionOffsets))

/-- The raw observation of a capture, before its state is known. -/
structure RawObservation where
  sequence_index : Nat
  bundle_id : PyStr
  source_bundle_sha256 : Sha256
  usable : Bool
  issue_codes : List PyStr
  reading : BundleReading

/-- The issue of the interval between two Kafka source timestamps. -/
def kafkaIntervalIssues (policy : RecoveryEvaluationPolicy) (kafka_source previous : Option Aware) :
    List PyStr :=
  match kafka_source, previous with
  | some source, some previous =>
      let interval := source.instant - previous.instant
      if interval ≤ 0 then [PyStr.ofString "RECOVERY_KAFKA_SOURCE_TIMESTAMPS_REORDERED"]
      else codeIf (¬(policy.captureIntervalMin ≤ interval ∧ interval ≤ policy.captureIntervalMax))
        "RECOVERY_CAPTURE_INTERVAL_OUTSIDE_TOLERANCE"
  | _, _ => [PyStr.ofString "RECOVERY_KAFKA_SOURCE_TIMESTAMP_UNUSABLE"]

/-- A partition is new, or one of its offsets has decreased. -/
def offsetsReset (previous : List (PyStr × PartitionOffsets))
    (entry : PyStr × PartitionOffsets) : Bool :=
  match previous.lookup entry.1 with
  | none => true
  | some before =>
      entry.2.end_offset < before.end_offset || entry.2.committed_offset < before.committed_offset

/-- The issue of the recovery identity: the first one found is the one expected from
then on. -/
def recoveryIdentityIssues (expected actual : Option Sha256) : List PyStr :=
  if expected = none ∧ actual ≠ none then []
  else codeIf (actual ≠ expected) "RECOVERY_SOURCE_IDENTITY_MISMATCH"

/-- `tuple(str(value) for value in range(expected_partition_count))`. -/
def expectedPartitions (policy : RecoveryEvaluationPolicy) : List PyStr :=
  (List.range policy.expected_partition_count).map natStr

/-- The issues of one capture, before the latch. -/
def captureIssues (setting : CaptureSetting) (state : CaptureState) (bundle : EvidenceBundle)
    (expected_digest actual_digest : Sha256) (reading : BundleReading) : List PyStr :=
  sortedSet (
    setting.activation_problems
    ++ scopeIssues bundle setting.policy
    ++ reading.identity_issues
    ++ reading.kafka_issues
    ++ reading.postgres_issues
    ++ codeIf (actual_digest ≠ expected_digest) "RECOVERY_BUNDLE_DIGEST_MISMATCH"
    ++ codeIf (logicalIncidentMatches bundle.incident_id setting.incident_id = false)
      "RECOVERY_INCIDENT_IDENTITY_MISMATCH"
    ++ codeIf (bundle.collection.started_at.instant ≤ setting.activation_completed_at.instant)
      "RECOVERY_CAPTURE_NOT_POST_ACTIVATION"
    ++ codeIf (bundle.collection.completed_at.instant ≤ state.previous_collection.instant)
      "RECOVERY_COLLECTION_TIMESTAMPS_REORDERED"
    ++ codeIf (reading.condition_identity ≠ setting.activation_identity)
      "RECOVERY_CONDITION_SOURCE_IDENTITY_MISMATCH"
    ++ recoveryIdentityIssues state.expected_recovery_identity reading.recovery_identity
    ++ codeIf (reading.partition_set ≠ expectedPartitions setting.policy)
      "RECOVERY_PARTITION_IDENTITY_MISMATCH"
    ++ kafkaIntervalIssues setting.policy reading.kafka_source state.previous_kafka_source
    ++ codeIf (∃ previous ∈ state.previous_partition_offsets,
        reading.measurement.partition_offsets.any (offsetsReset previous) = true)
      "RECOVERY_OFFSET_DECREASE_OR_RESET")

/-- Whether the stream is broken from this capture on. -/
def latched (broken : Bool) (issues : List PyStr) : Bool :=
  broken || issues.any (· ∈ globalIntegrityIssues)

/-- The issues of one capture. -/
def latchedIssues (broken : Bool) (issues : List PyStr) : List PyStr :=
  if latched broken issues then
    sortedSet (issues ++ [PyStr.ofString "RECOVERY_SEQUENCE_INTEGRITY_BROKEN"])
  else issues

/-- One round of the loop. -/
def captureStep (rt : OpsRuntime) (setting : CaptureSetting) (index : Nat) (state : CaptureState)
    (bundle : EvidenceBundle) (expected_digest : Sha256) (reading : BundleReading) :
    CaptureState × RecoverySourceBundleReference × RawObservation :=
  let actual_digest := rt.sha256 bundle
  let issues := captureIssues setting state bundle expected_digest actual_digest reading
  let codes := latchedIssues state.stream_integrity_broken issues
  ({ previous_collection := bundle.collection.completed_at
     previous_kafka_source := reading.kafka_source
     expected_recovery_identity :=
       if state.expected_recovery_identity = none then reading.recovery_identity
       else state.expected_recovery_identity
     stream_integrity_broken := latched state.stream_integrity_broken issues
     previous_partition_offsets :=
       if reading.measurement.partition_offsets = [] then state.previous_partition_offsets
       else some reading.measurement.partition_offsets },
   { sequence_index := index
     bundle_id := bundle.bundle_id
     source_incident_id := bundle.incident_id
     expected_source_bundle_sha256 := expected_digest
     actual_source_bundle_sha256 := actual_digest
     digest_matches := actual_digest = expected_digest
     collection_started_at := .aware bundle.collection.started_at
     collection_completed_at := .aware bundle.collection.completed_at
     kafka_source_timestamp := reading.kafka_source.map .aware },
   { sequence_index := index
     bundle_id := bundle.bundle_id
     source_bundle_sha256 := actual_digest
     usable := codes.isEmpty
     issue_codes := codes
     reading := reading })

/-- Reads one bundle under a policy. -/
abbrev BundleReader := RecoveryEvaluationPolicy → EvidenceBundle → Except OpsExc BundleReading

/-- The loop over the captures from an index on. -/
def captureLoop (rt : OpsRuntime) (read : BundleReader) (setting : CaptureSetting) :
    Nat → CaptureState → List (EvidenceBundle × Sha256) →
      Except OpsExc (List (RecoverySourceBundleReference × RawObservation))
  | _, _, [] => .ok []
  | index, state, (bundle, expected_digest) :: rest => do
      let reading ← read setting.policy bundle
      let (state', entry) := captureStep rt setting index state bundle expected_digest reading
      let entries ← captureLoop rt read setting (index + 1) state' rest
      return entry :: entries

/-! ### States of the captures

The state of a capture is that of the window that ends with it. The first pass knows ACTIVE,
RECOVERING and UNKNOWN only. -/

/-- `values[-count:]`. -/
def lastItems {α : Type} (count : Nat) (values : List α) : List α :=
  values.drop (values.length - count)

/-- `_draining(observation)`: the lag goes down, at least as much is committed as is produced, and
the rates agree with the lag. -/
def draining (m : Measurement) : Bool :=
  match m.lag_slope_60s_records_per_second, m.produce_rate_60s_records_per_second,
    m.committed_offset_rate_60s_records_per_second with
  | some slope, some produce, some committed =>
      slope.lt .zero && produce.le committed && m.rate_arithmetic_consistent = some true
  | _, _, _ => false

/-- `value == 0`, of a float. -/
def isZero (value : PyFloat) : Bool := value.le .zero && PyFloat.zero.le value

/-- The reason codes of unusable evidence. -/
def unknownReasons (candidate : List RawObservation) : List PyStr :=
  match sortedSet (candidate.flatMap (·.issue_codes)) with
  | [] => [PyStr.ofString "RECOVERY_REQUIRED_EVIDENCE_UNUSABLE"]
  | reasons => reasons

/-- The reason codes of a window that drains. -/
def drainingReasons (candidate : List RawObservation) : List PyStr :=
  [if candidate.all
      (fun item => item.reading.measurement.produce_rate_60s_records_per_second.any isZero) then
    PyStr.ofString "BACKLOG_DRAINING_WITH_ZERO_INGRESS"
  else PyStr.ofString "BACKLOG_DRAINING_UNDER_ACTIVE_INGRESS",
  PyStr.ofString "THREE_CONSECUTIVE_FRESH_DRAINING_CAPTURES",
  PyStr.ofString "COMMITTED_RATE_GUARDS_LAG_SLOPE_DIRECTION",
  PyStr.ofString "POSTGRES_READINESS_ACCEPTABLE"]

/-- The state after the last capture of a window, and its reason codes. -/
def windowState (required_count : Nat) (recovering_seen : Bool) (candidate : List RawObservation) :
    RecoveryState × List PyStr :=
  if candidate.any (fun item => !item.usable) then
    (.workerBacklogUnknown, unknownReasons candidate)
  else if candidate.length < required_count then
    (.workerBacklogActive, [PyStr.ofString "RECOVERY_WINDOW_INCOMPLETE_ACTIVE_REMAINS"])
  else if candidate.all (fun item => draining item.reading.measurement) then
    (.workerBacklogRecovering, drainingReasons candidate)
  else
    (.workerBacklogActive, [if recovering_seen then
      PyStr.ofString "BACKLOG_REGROWTH_OR_DRAIN_STOPPED_ACTIVE_REMAINS"
    else PyStr.ofString "RECOVERING_SEQUENCE_NOT_OBSERVED_ACTIVE_REMAINS"])

/-- A float as the `int` a lax integer field takes it for. -/
def floatAsInt : PyFloat → Except OpsExc Int
  | .finite neg mag =>
      let value := PyFloat.toRat neg mag
      if value.den = 1 ∧ -2 ^ 63 < value.num ∧ value.num < 2 ^ 63 then .ok value.num
      else .error (.validationError "total_lag_records")
  | _ => .error (.validationError "total_lag_records")

/-- The field `total_lag_records: int | None = Field(ge=0)`. -/
def parseTotalLag : Option PyNumber → Except OpsExc (Option Nat)
  | none => .ok none
  | some number => do
      let value ← match number with
        | .int value => .ok value
        | .float value => floatAsInt value
      ensure (0 ≤ value) (.validationError "total_lag_records")
      return some value.toNat

/-- `RecoveryCaptureObservation.model_validate` of a raw observation and its state. -/
def captureObservation (raw : RawObservation) (verdict : RecoveryState × List PyStr) :
    Except OpsExc RecoveryCaptureObservation := do
  let reading := raw.reading
  let measurement := reading.measurement
  let total_lag_records ← parseTotalLag measurement.total_lag_records
  return {
    sequence_index := raw.sequence_index
    bundle_id := raw.bundle_id
    source_bundle_sha256 := raw.source_bundle_sha256
    usable := raw.usable
    issue_codes := raw.issue_codes
    condition_source_identity_sha256 := reading.condition_identity
    recovery_source_identity_sha256 := reading.recovery_identity
    kafka_source_timestamp := reading.kafka_source.map .aware
    partition_set := reading.partition_set
    total_lag_records := total_lag_records
    lag_slope_60s_records_per_second := measurement.lag_slope_60s_records_per_second
    produce_rate_60s_records_per_second := measurement.produce_rate_60s_records_per_second
    committed_offset_rate_60s_records_per_second :=
      measurement.committed_offset_rate_60s_records_per_second
    rate_arithmetic_consistent := measurement.rate_arithmetic_consistent
    partition_offsets := measurement.partition_offsets
    postgres_ready := reading.postgres_ready
    postgres_context := reading.postgres_context
    worker_context := reading.worker_context
    keda_context := reading.keda_context
    worker_stage_latency_context := reading.worker_stage_latency_context
    required_evidence_ids := sortedSet (reading.kafka_evidence_ids ++ reading.postgres_ids)
    negative_exporter_lag := reading.negative_points
    derived_lag_evidence_ids := []
    state_after_capture := verdict.1
    state_reason_codes := verdict.2 }

/-- The first pass: the observations with their states, and the windows that drained. -/
def firstPass (required_count : Nat) (seen : List RawObservation) (recovering_seen : Bool) :
    List RawObservation → Except OpsExc (List (RecoveryCaptureObservation × List (List Nat)))
  | [] => .ok []
  | raw :: rest => do
      let candidate := lastItems required_count (seen ++ [raw])
      let verdict := windowState required_count recovering_seen candidate
      let observation ← captureObservation raw verdict
      let recovering := verdict.1 = .workerBacklogRecovering
      let entries ← firstPass required_count (seen ++ [raw]) (recovering_seen || recovering) rest
      return (observation, if recovering then [candidate.map (·.sequence_index)] else []) :: entries

/-! ### Recovery

The second pass looks for captures inside the envelope at the end of the sequence, after one that
was RECOVERING, and makes the last of them RECOVERED. -/

/-- `_within_recovered_envelope(observation, policy)`. -/
def withinRecoveredEnvelope (observation : RecoveryCaptureObservation)
    (policy : RecoveryEvaluationPolicy) : Bool :=
  policy.recovered_policy_status = .promoted
    && observation.usable
    && observation.postgres_ready = some true
    && observation.rate_arithmetic_consistent = some true
    && (match observation.total_lag_records, policy.recovered_total_lag_maximum with
      | some lag, some maximum => lag ≤ maximum
      | _, _ => false)
    && (match observation.lag_slope_60s_records_per_second, policy.recovered_lag_slope_maximum with
      | some slope, some maximum => slope.le maximum
      | _, _ => false)
    && (match observation.produce_rate_60s_records_per_second,
          policy.recovered_actual_produce_rate_minimum,
          policy.recovered_actual_produce_rate_maximum,
          observation.committed_offset_rate_60s_records_per_second with
      | some produce, some minimum, some maximum, some committed =>
          minimum.le produce && produce.le maximum && produce.le committed
      | _, _, _, _ => false)

/-- One round of the second pass: whether a draining window was seen, and the captures
in the envelope since. -/
def reentryStep (policy : RecoveryEvaluationPolicy) (pass : Bool × List Nat)
    (observation : RecoveryCaptureObservation) : Bool × List Nat :=
  let recovering_seen :=
    pass.1 || observation.state_after_capture = .workerBacklogRecovering
  (recovering_seen,
    if recovering_seen && withinRecoveredEnvelope observation policy then
      pass.2 ++ [observation.sequence_index]
    else [])

/-- `recovered_window`: the last captures of the current reentry, where it is long enough. Only
the second version of the policy has one. -/
def recoveredWindow (policy : RecoveryEvaluationPolicy)
    (observations : List RecoveryCaptureObservation) : List Nat :=
  if policy.isV2 then
    let current_reentry := (observations.foldl (reentryStep policy) (false, [])).2
    match policy.recovered_consecutive_capture_count with
    | some recovered_count =>
        if recovered_count ≤ current_reentry.length then lastItems recovered_count current_reentry
        else []
    | none => []
  else []

/-- The final observation of a recovered sequence. -/
def asRecovered (observation : RecoveryCaptureObservation) : RecoveryCaptureObservation :=
  { observation with
    state_after_capture := .workerBacklogRecovered
    state_reason_codes := ["MEDIUM_ENVELOPE_REENTRY_STABLE_THREE_CAPTURES",
      "REQUIRED_EVIDENCE_USABLE_AND_FRESH", "POSTGRES_READINESS_ACCEPTABLE",
      "GLOBAL_SYSTEM_HEALTH_NOT_INFERRED"] }

/-- The observations after the second pass. -/
def secondPass (policy : RecoveryEvaluationPolicy)
    (observations : List RecoveryCaptureObservation) : List RecoveryCaptureObservation :=
  if recoveredWindow policy observations = [] then observations
  else observations.dropLast ++ (observations.getLast?.map asRecovered).toList

/-- `recovery_completion`: how far the recovery has come, and the reasons that are reported for
it. -/
def recoveryCompletion (policy : RecoveryEvaluationPolicy) (state : RecoveryState) :
    RecoveryCompletion :=
  if policy.isV2 = false then ⟨.calibrationPending, ["INSUFFICIENT_VALID_REENTRY_WINDOWS"]⟩
  else if state = .workerBacklogRecovered then
    ⟨.complete, ["RECOVERING_PREVIOUSLY_OBSERVED", "MEDIUM_ENVELOPE_REENTRY_STABLE_THREE_CAPTURES",
      "POST_RECOVERY_REGRESSION_HANDLING_IS_FUTURE_WORK"]⟩
  else ⟨.inProgress, ["RECOVERED_STABLE_WINDOW_NOT_CURRENTLY_SATISFIED"]⟩

/-- The evaluation of the references and the observations after both passes. -/
def recoveryPayload (incident_id : PyStr) (activation : RecoveryActivationReference)
    (policy : RecoveryEvaluationPolicy) (references : List RecoverySourceBundleReference)
    (matched_windows : List (List Nat)) (recovered_window : List Nat)
    (observations : List RecoveryCaptureObservation) (final : RecoveryCaptureObservation) :
    RecoveryPayload :=
  let required_count := policy.recovering_consecutive_capture_count
  let count := observations.length
  let state := final.state_after_capture
  { evaluator_version :=
      if policy.isV2 then "ops.recovery.evaluator.v2" else "ops.recovery.evaluator.v1"
    ruleset_version := if policy.isV2 then "ops.recovery.rules.v2" else "ops.recovery.rules.v1"
    evaluation_status := if state = .workerBacklogUnknown then .partialResult else .complete
    incident_id := incident_id
    activation := activation
    policy := policy
    state := state
    reason_codes := final.state_reason_codes
    source_bundles := references
    observations := observations
    window :=
      { required_capture_count := required_count
        evaluated_sequence_indexes :=
          if recovered_window = [] then (List.range count).drop (count - required_count)
          else recovered_window
        matched_recovering_windows := matched_windows
        first_observed_at := references.head?.map (·.collection_completed_at)
        last_observed_at := references.getLast?.map (·.collection_completed_at)
        capture_count := references.length }
    evidence_ids :=
      sortedSet ((lastItems required_count observations).flatMap (·.required_evidence_ids))
    recovery_completion := recoveryCompletion policy state }

/-- The pairs of `zip(self.source_bundles, self.observations)`. -/
def validatePairs : List (RecoverySourceBundleReference × RecoveryCaptureObservation) →
    Except OpsExc Unit
  | [] => .ok ()
  | (source, observation) :: rest => do
      ensure (source.bundle_id = observation.bundle_id)
        (.valueError "recovery source and observation bundle mismatch")
      ensure (source.actual_source_bundle_sha256 = observation.source_bundle_sha256)
        (.valueError "recovery source and observation digest mismatch")
      validatePairs rest

/-- `validate_output_contract` of a recovery evaluation. -/
def RecoveryEvaluation.validate (rt : OpsRuntime) (value : RecoveryEvaluation) :
    Except OpsExc Unit := do
  let indexes := List.range value.source_bundles.length
  listLength "source_bundles" value.source_bundles 1 256
  listLength "observations" value.observations 1 256
  ensure (value.source_bundles.map (·.sequence_index) = indexes)
    (.valueError "source bundles must retain ordered sequence indexes")
  ensure (value.observations.map (·.sequence_index) = indexes)
    (.valueError "observations must retain ordered sequence indexes")
  validatePairs (value.source_bundles.zip value.observations)
  let is_v2 := value.policy.isV2
  ensure (value.evaluator_version = PyStr.ofString
      (if is_v2 then "ops.recovery.evaluator.v2" else "ops.recovery.evaluator.v1"))
    (.valueError "recovery evaluator version does not match policy")
  ensure (value.ruleset_version = PyStr.ofString
      (if is_v2 then "ops.recovery.rules.v2" else "ops.recovery.rules.v1"))
    (.valueError "recovery ruleset version does not match policy")
  ensure (¬(value.state = .workerBacklogRecovered ∧ is_v2 = false))
    (.valueError "recovery v1 must not emit RECOVERED")
  ensure (value.evaluation_status =
      if value.state = .workerBacklogUnknown then .partialResult else .complete)
    (.valueError "UNKNOWN must map to PARTIAL; determinate states to COMPLETE")
  ensure (value.recovery_completion.status =
      if is_v2 = false then .calibrationPending
      else if value.state = .workerBacklogRecovered then .complete else .inProgress)
    (.valueError "recovery completion status does not match state and policy")
  ensure (value.evidence_ids = sortedSet value.evidence_ids)
    (.valueError "recovery evidence IDs must be sorted and unique")
  value.verifyIntegrity rt

/-- The loop's variables before the first capture. -/
def firstCaptureState (activation : SequenceConditionEvaluation) (problems : List PyStr) :
    CaptureState :=
  { previous_collection := activation.lastBundle.collection_completed_at
    previous_kafka_source := activation.lastBundle.kafka_source_timestamp
    expected_recovery_identity := none
    stream_integrity_broken := !problems.isEmpty
    previous_partition_offsets := none }

/-- `evaluate_recovery(incident_id, activation_evaluation, bundles,
source_bundle_digests, policy)`. -/
def evaluateRecoveryWith (rt : OpsRuntime) (read : BundleReader) (incident_id : PyStr)
    (activation : SequenceConditionEvaluation) (bundles : List EvidenceBundle)
    (source_bundle_digests : List PyStr) (policy : RecoveryEvaluationPolicy) :
    Except OpsExc RecoveryEvaluation := do
  ensure (1 ≤ incident_id.length ∧ incident_id.length ≤ 256)
    (.valueError "incident_id must contain 1 to 256 characters")
  activation.verifyIntegrity rt
  ensure (bundles ≠ []) (.valueError "recovery evaluation requires post-activation bundles")
  ensure (bundles.length ≤ 256) (.valueError "recovery evaluation accepts at most 256 bundles")
  ensure (source_bundle_digests.length = bundles.length)
    (.valueError "one expected source bundle digest is required per bundle")
  let digests ← parseDigests source_bundle_digests
  let reference ← activationReference activation
  let problems := activationIssues activation incident_id policy
  let setting : CaptureSetting :=
    { incident_id := incident_id
      policy := policy
      activation_problems := problems
      activation_completed_at := activation.lastBundle.collection_completed_at
      activation_identity := activationIdentity activation }
  let captures ← captureLoop rt read setting 0 (firstCaptureState activation problems)
    (bundles.zip digests)
  let entries ← firstPass policy.recovering_consecutive_capture_count [] false
    (captures.map (·.2))
  let observations := entries.map (·.1)
  let recovered_window := recoveredWindow policy observations
  let observations := secondPass policy observations
  match observations.getLast? with
  | none => .error .indexError
  | some final => do
      let payload := recoveryPayload incident_id reference policy (captures.map (·.1))
        (entries.flatMap (·.2)) recovered_window observations final
      let evaluation : RecoveryEvaluation := ⟨payload, rt.sha256 payload⟩
      evaluation.validate rt
      return evaluation

end EventPipeline.OpsAgent
