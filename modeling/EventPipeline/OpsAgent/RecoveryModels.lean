import EventPipeline.OpsAgent.EvidenceModels

/-!
# EventPipeline.OpsAgent.RecoveryModels

`ops_agent/recovery_models.py`: the recovery policy, the observation of a capture and
the recovery evaluation.

Every field of a policy is a literal or fixed by its validator, so a policy is its
version and its fields are functions of it.
-/

namespace EventPipeline.OpsAgent

open EventPipeline.Python

/-! ### Enumerations -/

/-- `RecoveryState`. -/
inductive RecoveryState
  | workerBacklogActive | workerBacklogRecovering | workerBacklogUnknown | workerBacklogRecovered
  deriving DecidableEq

/-- `ConditionState`. -/
inductive ConditionState
  | present | absent | unknown
  deriving DecidableEq

/-- `EvaluationStatus`. -/
inductive EvaluationStatus
  | complete | partialResult
  deriving DecidableEq

/-- `RecoveryCompletionStatus`. -/
inductive RecoveryCompletionStatus
  | calibrationPending | inProgress | complete
  deriving DecidableEq

/-- `RecoveredPolicyStatus`. -/
inductive RecoveredPolicyStatus
  | calibrationPending | promoted
  deriving DecidableEq

/-! ### The policy -/

/-- `RecoveryEvaluationPolicy`, by its version. -/
inductive RecoveryEvaluationPolicy
  | v1 | v2
  deriving DecidableEq

namespace RecoveryEvaluationPolicy

def policy_version : RecoveryEvaluationPolicy → PyStr
  | v1 => "worker-backlog-local-ha.recovery.v1"
  | v2 => "worker-backlog-local-ha.recovery.v2"

/-- `policy_version.endswith(".v2")`. -/
def isV2 (policy : RecoveryEvaluationPolicy) : Bool :=
  (PyStr.ofString ".v2").reverse.isPrefixOf policy.policy_version.reverse

def profile (_ : RecoveryEvaluationPolicy) : PyStr := "local-ha"

def context (_ : RecoveryEvaluationPolicy) : PyStr := "kind-messaging-ha"

def namespace_ (_ : RecoveryEvaluationPolicy) : PyStr := "messaging-app"

def topic (_ : RecoveryEvaluationPolicy) : PyStr := "message-ingress"

def consumer_group (_ : RecoveryEvaluationPolicy) : PyStr := "message-worker"

def source_evidence_policy_version (_ : RecoveryEvaluationPolicy) : PyStr := "local-ha.evidence.v1"

def activation_schema_version (_ : RecoveryEvaluationPolicy) : PyStr := "ops.conditions.v2"

def activation_policy_version (_ : RecoveryEvaluationPolicy) : PyStr := "local-ha.conditions.v2"

def activation_evaluator_version (_ : RecoveryEvaluationPolicy) : PyStr := "ops.evaluator.v2"

def activation_ruleset_version (_ : RecoveryEvaluationPolicy) : PyStr := "ops.conditions.rules.v2"

def expected_partition_count (_ : RecoveryEvaluationPolicy) : Nat := 8

/-- `capture_interval_min_seconds`, in microseconds. -/
def captureIntervalMin (_ : RecoveryEvaluationPolicy) : Int := 9000000

/-- `capture_interval_max_seconds`, in microseconds. -/
def captureIntervalMax (_ : RecoveryEvaluationPolicy) : Int := 21000000

def recovering_consecutive_capture_count (_ : RecoveryEvaluationPolicy) : Nat := 3

def postgres_required_body_status (_ : RecoveryEvaluationPolicy) : PyStr := "ready"

def recovered_policy_status : RecoveryEvaluationPolicy → RecoveredPolicyStatus
  | v1 => .calibrationPending
  | v2 => .promoted

def recovered_total_lag_maximum : RecoveryEvaluationPolicy → Option Nat
  | v1 => none
  | v2 => some 22

def recovered_lag_slope_maximum : RecoveryEvaluationPolicy → Option PyFloat
  | v1 => none
  | v2 => some (.finite false .zero)

def recovered_actual_produce_rate_minimum : RecoveryEvaluationPolicy → Option PyFloat
  | v1 => none
  | v2 => some (.ofLexeme ⟨false, "74", some "98333333333333", none⟩)

def recovered_actual_produce_rate_maximum : RecoveryEvaluationPolicy → Option PyFloat
  | v1 => none
  | v2 => some (.ofLexeme ⟨false, "77", some "08333333333333", none⟩)

def recovered_consecutive_capture_count : RecoveryEvaluationPolicy → Option Nat
  | v1 => none
  | v2 => some 3

theorem isV2_iff {policy : RecoveryEvaluationPolicy} : policy.isV2 = true ↔ policy = v2 := by
  cases policy <;> decide

end RecoveryEvaluationPolicy

/-! ### Parts of an evaluation -/

/-- `RecoveryActivationReference`. -/
structure RecoveryActivationReference where
  schema_version : PyStr
  evaluation_id : Sha256
  evaluator_version : PyStr
  ruleset_version : PyStr
  policy_version : PyStr
  condition_state : ConditionState
  source_bundle_digests : List PyStr
  last_collection_completed_at : Timestamp
  last_kafka_source_timestamp : Option Timestamp
  source_identity_sha256 : Option Sha256

/-- `RecoverySourceBundleReference`. -/
structure RecoverySourceBundleReference where
  sequence_index : Nat
  bundle_id : PyStr
  source_incident_id : PyStr
  expected_source_bundle_sha256 : Sha256
  actual_source_bundle_sha256 : Sha256
  digest_matches : Bool
  collection_started_at : Timestamp
  collection_completed_at : Timestamp
  kafka_source_timestamp : Option Timestamp

/-- `NegativeLagPoint`. -/
structure NegativeLagPoint where
  evidence_id : PyStr
  partition : PyStr
  sample_index : Nat
  range_evaluation_timestamp : PyFloat
  exporter_lag_records : Int
  end_offset_records : Option Int
  committed_offset_records : Option Int

/-- The last offsets of a partition. -/
structure PartitionOffsets where
  end_offset : Int
  committed_offset : Int

/-- `RecoveryCaptureObservation`. -/
structure RecoveryCaptureObservation where
  sequence_index : Nat
  bundle_id : PyStr
  source_bundle_sha256 : Sha256
  usable : Bool
  issue_codes : List PyStr
  condition_source_identity_sha256 : Option Sha256
  recovery_source_identity_sha256 : Option Sha256
  kafka_source_timestamp : Option Timestamp
  partition_set : List PyStr
  total_lag_records : Option Nat
  lag_slope_60s_records_per_second : Option PyFloat
  produce_rate_60s_records_per_second : Option PyFloat
  committed_offset_rate_60s_records_per_second : Option PyFloat
  rate_arithmetic_consistent : Option Bool
  partition_offsets : List (PyStr × PartitionOffsets)
  postgres_ready : Option Bool
  postgres_context : Dict
  worker_context : Dict
  keda_context : Dict
  worker_stage_latency_context : Dict
  required_evidence_ids : List PyStr
  negative_exporter_lag : List NegativeLagPoint
  derived_lag_evidence_ids : List PyStr
  state_after_capture : RecoveryState
  state_reason_codes : List PyStr

/-- `RecoveryWindow`. -/
structure RecoveryWindow where
  required_capture_count : Nat
  evaluated_sequence_indexes : List Nat
  matched_recovering_windows : List (List Nat)
  first_observed_at : Option Timestamp
  last_observed_at : Option Timestamp
  capture_count : Nat

/-- `RecoveryCompletion`. -/
structure RecoveryCompletion where
  status : RecoveryCompletionStatus
  reason_codes : List PyStr

/-- What `recovery_evaluation_id` is the digest of. -/
structure RecoveryPayload where
  evaluator_version : PyStr
  ruleset_version : PyStr
  evaluation_status : EvaluationStatus
  incident_id : PyStr
  activation : RecoveryActivationReference
  policy : RecoveryEvaluationPolicy
  state : RecoveryState
  reason_codes : List PyStr
  source_bundles : List RecoverySourceBundleReference
  observations : List RecoveryCaptureObservation
  window : RecoveryWindow
  evidence_ids : List PyStr
  recovery_completion : RecoveryCompletion

/-- `RecoveryEvaluation`. Its quality block holds constants only. -/
structure RecoveryEvaluation extends RecoveryPayload where
  recovery_evaluation_id : Sha256

end EventPipeline.OpsAgent
