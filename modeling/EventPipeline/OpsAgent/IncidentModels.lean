import EventPipeline.Python.Numeral
import EventPipeline.OpsAgent.RecoveryModels

/-!
# EventPipeline.OpsAgent.IncidentModels

The artifacts of the incident lifecycle: the activation and the diagnosis it reads, of
`ops_agent/sequence_models.py` and `ops_agent/diagnosis_models.py`, and the incident
record of `ops_agent/incident_models.py` with its validators.

The activation and the diagnosis have many fields the lifecycle never looks at. They
stay in `rest`, since the artifact digests cover them.
-/

namespace EventPipeline.OpsAgent

open EventPipeline.Python

/-! ### The activation -/

/-- `SequenceSourceBundleReference`, whose timestamps its validator requires aware. -/
structure SequenceSourceBundleReference where
  incident_id : PyStr
  source_bundle_sha256 : Sha256
  collection_completed_at : Aware
  kafka_source_timestamp : Option Aware
  rest : Dict

/-- `SequenceCaptureObservation`. -/
structure SequenceCaptureObservation where
  source_identity_sha256 : Option Sha256
  rest : Dict

/-- `SequenceEvaluationPolicy`. -/
structure SequenceEvaluationPolicy where
  cluster_profile : PyStr
  policy_version : PyStr
  context : PyStr
  namespace_ : PyStr
  topic : PyStr
  consumer_group : PyStr
  rest : Dict

/-- What the id of a sequence evaluation is the digest of. -/
structure SequencePayload where
  schema_version : PyStr
  evaluator_version : PyStr
  ruleset_version : PyStr
  policy : SequenceEvaluationPolicy
  source_bundles : List SequenceSourceBundleReference
  capture_observations : List SequenceCaptureObservation
  /-- `conditions[CORE_BACKLOG_PRESSURE].state`. -/
  core_state : ConditionState
  rest : Dict

/-- `SequenceConditionEvaluation`. -/
structure SequenceConditionEvaluation extends SequencePayload where
  evaluation_id : Sha256
  source_bundles_length : 1 ≤ source_bundles.length ∧ source_bundles.length ≤ 256

namespace SequenceConditionEvaluation

/-- `source_bundles[-1]`. -/
def lastBundle (value : SequenceConditionEvaluation) : SequenceSourceBundleReference :=
  value.source_bundles.getLast (List.ne_nil_of_length_pos value.source_bundles_length.1)

/-- The source identities of the captures, as a set. -/
def sourceIdentities (value : SequenceConditionEvaluation) : List Sha256 :=
  (value.capture_observations.filterMap (·.source_identity_sha256)).dedup

/-- `[item.source_bundle_sha256 for item in source_bundles]`. -/
def sourceBundleDigests (value : SequenceConditionEvaluation) : List PyStr :=
  value.source_bundles.map (·.source_bundle_sha256.text)

end SequenceConditionEvaluation

/-! ### The diagnosis -/

/-- `DiagnosisStopReason`. -/
inductive DiagnosisStopReason
  | sufficientEvidence | insufficientEvidence | noUsefulToolRemaining | stepBudgetExhausted
  | toolError | validationFailure
  deriving DecidableEq

/-- `DiagnosisContext`. -/
structure DiagnosisContext where
  profile : PyStr
  cluster_context : PyStr
  source_bundle_digests : List PyStr
  rest : Dict

/-- `DiagnosisValidation`. -/
structure DiagnosisValidation where
  schema_valid : Bool
  citations_valid : Bool
  tool_calls_valid : Bool
  step_budget_valid : Bool
  stop_valid : Bool
  forbidden_claims_absent : Bool

/-- `all(validation.model_dump().values())`. -/
def DiagnosisValidation.all (v : DiagnosisValidation) : Bool :=
  v.schema_valid && v.citations_valid && v.tool_calls_valid && v.step_budget_valid && v.stop_valid
    && v.forbidden_claims_absent

/-- What `diagnosis_id` is the digest of. -/
structure DiagnosisIdentity where
  condition_evaluation_id : Sha256
  source_bundle_digests : List PyStr
  /-- `policy.model`. -/
  model : PyStr
  /-- `[item.tool_id for item in steps]`. -/
  tool_ids : List PyStr
  stop_reason : DiagnosisStopReason
  rest : Dict

/-- `DiagnosisRun`, whose `completed_at` its validator requires aware. -/
structure DiagnosisRun where
  diagnosis_id : Sha256
  condition_evaluation_id : Sha256
  context : DiagnosisContext
  /-- `policy.model`. -/
  model : PyStr
  /-- `[item.tool_id for item in steps]`. -/
  tool_ids : List PyStr
  stop_reason : DiagnosisStopReason
  completed_at : Aware
  validation : DiagnosisValidation
  output_repairs_used : Nat
  /-- The other fields of `_identity_payload`. -/
  identified : Dict
  rest : Dict

/-! ### The incident record -/

/-- `IncidentLifecycleState`. -/
inductive IncidentLifecycleState
  | detected | active | recovering | recovered | closed
  deriving DecidableEq

/-- `IncidentOutcome`. -/
inductive IncidentOutcome
  | recovered
  deriving DecidableEq

/-- `ObservationQuality`. -/
inductive ObservationQuality
  | usable | unknown
  deriving DecidableEq

/-- `IncidentEventType`. -/
inductive IncidentEventType
  | detected | active | diagnosisAttached | recoveryObserved | recovering | recovered | closed
  | observationUpdated
  deriving DecidableEq

/-- `IncidentDetection`. -/
structure IncidentDetection where
  condition_evaluation_id : Sha256
  policy_version : PyStr
  evaluator_version : PyStr
  ruleset_version : PyStr
  source_bundle_digests : List PyStr
  source_identity_sha256 : Sha256
  source_incident_id : Option PyStr
  artifact_sha256 : Sha256
  artifact_ref : Option ArtifactRef
  deriving DecidableEq

/-- `IncidentDiagnosis`. -/
structure IncidentDiagnosis where
  diagnosis_id : Sha256
  model : PyStr
  stop_reason : DiagnosisStopReason
  tool_names : List PyStr
  output_repairs_used : Nat
  completed_at : Aware
  artifact_sha256 : Sha256
  artifact_ref : Option ArtifactRef
  deriving DecidableEq

/-- `IncidentRecoveryEvaluation`. -/
structure IncidentRecoveryEvaluation where
  evaluation_id : Sha256
  state : RecoveryState
  observed_at : Aware
  policy_version : PyStr
  evaluator_version : PyStr
  ruleset_version : PyStr
  source_bundle_digests : List PyStr
  artifact_sha256 : Sha256
  artifact_ref : Option ArtifactRef
  deriving DecidableEq

/-- `IncidentRecovery`. -/
structure IncidentRecovery where
  policy_version : Option PyStr
  evaluations : List IncidentRecoveryEvaluation
  deriving DecidableEq

/-- `CurrentIncidentObservation`. -/
structure CurrentIncidentObservation where
  evaluation_state : RecoveryState
  evidence_quality : ObservationQuality
  reason_codes : List PyStr
  source_bundle_digest : Sha256
  observed_at : Aware
  deriving DecidableEq

/-- What the id of a timeline event is the digest of. -/
structure EventPayload where
  event_type : IncidentEventType
  observed_at : Aware
  artifact_id : PyStr
  lifecycle_state : IncidentLifecycleState
  reason_codes : List PyStr
  deriving DecidableEq

/-- `IncidentTimelineEvent`. -/
structure IncidentTimelineEvent extends EventPayload where
  event_id : Sha256
  deriving DecidableEq

/-- `IncidentProvenance`. -/
structure IncidentProvenance where
  source_sha : PyStr
  source_tree_sha256 : Sha256
  runtime_image : PyStr
  argocd_revision : PyStr
  deriving DecidableEq

/-- What `incident_record_sha256` is the digest of. -/
structure IncidentPayload where
  incident_id : PyStr
  incident_identity_sha256 : Sha256
  created_at : Aware
  detected_at : Aware
  closed_at : Option Aware
  lifecycle_state : IncidentLifecycleState
  outcome : Option IncidentOutcome
  detection : IncidentDetection
  diagnosis : Option IncidentDiagnosis
  recovery : IncidentRecovery
  current_observation : Option CurrentIncidentObservation
  timeline : List IncidentTimelineEvent
  provenance : IncidentProvenance
  deriving DecidableEq

/-- `IncidentRecord`. -/
structure IncidentRecord extends IncidentPayload where
  incident_record_sha256 : Sha256
  deriving DecidableEq

/-- `profile`, a literal of every record. -/
def IncidentPayload.profile (_ : IncidentPayload) : PyStr := "local-ha"

/-- What the identity of an incident is the digest of. -/
structure IncidentIdentity where
  condition_evaluation_id : Sha256
  source_bundle_digests : List PyStr
  source_identity_sha256 : Sha256
  source_incident_id : Option PyStr

/-! ### Digests

A digest is taken of a value, not of a text: equal values have equal digests, and nothing is said
about different ones. -/

/-- What the ops agent takes the digest of. -/
inductive Artifact
  | sequencePayload (value : SequencePayload)
  | sequence (value : SequenceConditionEvaluation)
  | diagnosisIdentity (value : DiagnosisIdentity)
  | diagnosis (value : DiagnosisRun)
  | event (value : EventPayload)
  | incidentIdentity (value : IncidentIdentity)
  | incident (value : IncidentPayload)
  | recoveryPayload (value : RecoveryPayload)
  | recovery (value : RecoveryEvaluation)
  | bundle (value : EvidenceBundle)
  | conditionIdentity (value : ConditionIdentity)
  | recoveryIdentity (value : RecoveryIdentity)
  | endpointIdentity (value : EndpointIdentity)

instance : Coe SequencePayload Artifact := ⟨.sequencePayload⟩

instance : Coe SequenceConditionEvaluation Artifact := ⟨.sequence⟩

instance : Coe DiagnosisIdentity Artifact := ⟨.diagnosisIdentity⟩

instance : Coe DiagnosisRun Artifact := ⟨.diagnosis⟩

instance : Coe EventPayload Artifact := ⟨.event⟩

instance : Coe IncidentIdentity Artifact := ⟨.incidentIdentity⟩

instance : Coe IncidentPayload Artifact := ⟨.incident⟩

instance : Coe RecoveryPayload Artifact := ⟨.recoveryPayload⟩

instance : Coe RecoveryEvaluation Artifact := ⟨.recovery⟩

instance : Coe EvidenceBundle Artifact := ⟨.bundle⟩

instance : Coe ConditionIdentity Artifact := ⟨.conditionIdentity⟩

instance : Coe RecoveryIdentity Artifact := ⟨.recoveryIdentity⟩

instance : Coe EndpointIdentity Artifact := ⟨.endpointIdentity⟩

/-- `urllib.parse.urlsplit(url)`, as far as the endpoint identity looks at it. -/
structure SplitUrl where
  scheme : PyStr
  netloc : PyStr
  hasCredentials : Bool
  hostname : Option PyStr
  /-- `none` where reading `port` raises a `ValueError`. -/
  port : Option (Option Nat)
  path : PyStr
  query : PyStr
  fragment : PyStr

/-- What the ops agent takes from the standard library. `sha256` is `canonical_sha256`
of a value: the SHA-256 of the canonical JSON text the value dumps to, so a function of
the value. -/
structure OpsRuntime where
  sha256 : Artifact → Sha256
  /-- `str.isdigit`. -/
  isdigit : PyStr → Bool
  /-- `str.upper` and `str.lower`. -/
  upper : PyStr → PyStr
  lower : PyStr → PyStr
  chars : CharTable
  /-- `str(value)` of a list or a dict. -/
  containerText : Json → PyStr
  /-- `repr` of a text. -/
  repr : PyStr → PyStr
  /-- `str` of a `Decimal`, which is kept by its value. -/
  decimalText : ℚ → PyStr
  /-- `datetime.isoformat`. -/
  isoformat : Aware → PyStr
  /-- `urlsplit`; `none` where it raises a `ValueError`. -/
  urlsplit : PyStr → Option SplitUrl

/-- `verify_integrity()` of a sequence evaluation. -/
def SequenceConditionEvaluation.verifyIntegrity (rt : OpsRuntime)
    (value : SequenceConditionEvaluation) : Except OpsExc Unit :=
  ensure (value.evaluation_id = rt.sha256 value.toSequencePayload)
    (.valueError "evaluation_id does not match the sequence payload")

/-- `verify_integrity()` of a diagnosis. -/
def DiagnosisRun.verifyIntegrity (rt : OpsRuntime) (run : DiagnosisRun) : Except OpsExc Unit :=
  ensure (run.diagnosis_id = rt.sha256 (⟨run.condition_evaluation_id,
      run.context.source_bundle_digests, run.model, run.tool_ids, run.stop_reason,
      run.identified⟩ : DiagnosisIdentity))
    (.valueError "diagnosis_id does not match the diagnosis payload")

/-- `verify_integrity()` of a recovery evaluation. -/
def RecoveryEvaluation.verifyIntegrity (rt : OpsRuntime) (value : RecoveryEvaluation) :
    Except OpsExc Unit :=
  ensure (value.recovery_evaluation_id = rt.sha256 value.toRecoveryPayload)
    (.valueError "recovery_evaluation_id does not match the payload")

/-- `incident_identity_sha256(detection)`: the digest of the activation an incident is about. The
same activation always has the same. -/
def incidentIdentitySha256 (rt : OpsRuntime) (detection : IncidentDetection) : Sha256 :=
  rt.sha256 (⟨detection.condition_evaluation_id, detection.source_bundle_digests,
    detection.source_identity_sha256, detection.source_incident_id⟩ : IncidentIdentity)

/-- `f"inc-{identity[:24]}"`. -/
def incidentIdOf (identity : Sha256) : PyStr := PyStr.ofString "inc-" ++ identity.text.take 24

/-! ### Validators

The validators of pydantic are functions that return or raise. A record is valid if the validator
of each of its parts returns, and that of the whole. -/

/-- The length bounds of a text field. -/
def textLength (field : String) (value : PyStr) (hi : Nat) : Except OpsExc Unit :=
  ensure (1 ≤ value.length ∧ value.length ≤ hi) (.validationError field)

/-- The length bounds of a list field. -/
def listLength {α : Type} (field : String) (value : List α) (lo hi : Nat) : Except OpsExc Unit :=
  ensure (lo ≤ value.length ∧ value.length ≤ hi) (.validationError field)

/-- The field checks of `IncidentDetection`. -/
def IncidentDetection.validate (value : IncidentDetection) : Except OpsExc Unit := do
  ensure (value.policy_version = "local-ha.conditions.v2") (.validationError "policy_version")
  ensure (value.evaluator_version = "ops.evaluator.v2") (.validationError "evaluator_version")
  ensure (value.ruleset_version = "ops.conditions.rules.v2") (.validationError "ruleset_version")
  listLength "source_bundle_digests" value.source_bundle_digests 1 256
  ensure (∀ id ∈ value.source_incident_id, 1 ≤ id.length ∧ id.length ≤ 256)
    (.validationError "source_incident_id")

/-- The field checks of `IncidentDiagnosis`. -/
def IncidentDiagnosis.validate (value : IncidentDiagnosis) : Except OpsExc Unit := do
  textLength "model" value.model 128
  listLength "tool_names" value.tool_names 0 8
  ensure (value.output_repairs_used ≤ 1) (.validationError "output_repairs_used")

/-- The field checks of `IncidentRecoveryEvaluation`. -/
def IncidentRecoveryEvaluation.validate (value : IncidentRecoveryEvaluation) :
    Except OpsExc Unit := do
  textLength "policy_version" value.policy_version 128
  textLength "evaluator_version" value.evaluator_version 128
  textLength "ruleset_version" value.ruleset_version 128
  listLength "source_bundle_digests" value.source_bundle_digests 1 256

/-- The quality of an observation of the state. -/
def qualityOf (state : RecoveryState) : ObservationQuality :=
  if state = .workerBacklogUnknown then .unknown else .usable

/-- The field checks and the validator of `CurrentIncidentObservation`. -/
def CurrentIncidentObservation.validate (value : CurrentIncidentObservation) :
    Except OpsExc Unit := do
  listLength "reason_codes" value.reason_codes 0 64
  ensure (value.evidence_quality = qualityOf value.evaluation_state)
    (.valueError "observation quality must match recovery evaluation state")

/-- The field checks and the validator of `IncidentTimelineEvent`. -/
def IncidentTimelineEvent.validate (rt : OpsRuntime) (value : IncidentTimelineEvent) :
    Except OpsExc Unit := do
  textLength "artifact_id" value.artifact_id 256
  listLength "reason_codes" value.reason_codes 1 32
  ensure (value.event_id = rt.sha256 value.toEventPayload)
    (.valueError "timeline event_id does not match event payload")

/-- A text that matches `^[0-9a-f]{7,64}$`. -/
def isRevision (value : PyStr) : Prop :=
  7 ≤ value.length ∧ value.length ≤ 64 ∧ value.all isHexDigit = true

instance (value : PyStr) : Decidable (isRevision value) := by
  unfold isRevision
  infer_instance

/-- The field checks of `IncidentProvenance`. -/
def IncidentProvenance.validate (value : IncidentProvenance) : Except OpsExc Unit := do
  ensure (isRevision value.source_sha) (.validationError "source_sha")
  textLength "runtime_image" value.runtime_image 512
  ensure (isRevision value.argocd_revision) (.validationError "argocd_revision")

/-- Run a check on every item. -/
def validateAll {α : Type} (check : α → Except OpsExc Unit) : List α → Except OpsExc Unit
  | [] => .ok ()
  | x :: xs => do
      check x
      validateAll check xs

namespace IncidentRecord

/-- The checks of the nested models and of the list bounds. -/
def validateFields (rt : OpsRuntime) (record : IncidentRecord) : Except OpsExc Unit := do
  record.detection.validate
  validateAll IncidentDiagnosis.validate record.diagnosis.toList
  listLength "evaluations" record.recovery.evaluations 0 256
  validateAll IncidentRecoveryEvaluation.validate record.recovery.evaluations
  validateAll CurrentIncidentObservation.validate record.current_observation.toList
  listLength "timeline" record.timeline 2 1024
  validateAll (IncidentTimelineEvent.validate rt) record.timeline
  record.provenance.validate

/-- `verify_integrity()` of an incident record. -/
def verifyIntegrity (rt : OpsRuntime) (record : IncidentRecord) : Except OpsExc Unit := do
  let identity := incidentIdentitySha256 rt record.detection
  ensure (record.incident_identity_sha256 = identity)
    (.valueError "incident identity digest does not match detection")
  ensure (record.incident_id = incidentIdOf identity)
    (.valueError "incident ID does not match deterministic identity")
  ensure (record.incident_record_sha256 = rt.sha256 record.toIncidentPayload)
    (.valueError "incident record digest does not match payload")

/-- The checks of a closed and of an open incident. -/
def validateClosure (record : IncidentRecord) : Except OpsExc Unit :=
  let event_types := record.timeline.map (·.event_type)
  if record.lifecycle_state = .closed then do
    ensure (record.outcome = some .recovered ∧ record.closed_at.isSome)
      (.valueError "closed incident requires recovered outcome and closed_at")
    ensure (.recovered ∈ event_types ∧ event_types.count .closed = 1)
      (.valueError "closed incident requires one recovered and closed event")
    ensure ((record.timeline.find? (·.event_type = .closed)).map (·.observed_at.instant)
        = record.closed_at.map (·.instant))
      (.valueError "closed_at must match the immutable CLOSED event")
  else
    ensure (record.outcome = none ∧ record.closed_at = none)
      (.valueError "open incident must not have outcome or closed_at")

/-- `IncidentRecord.validate_incident`, after the checks of the fields. -/
def validate (rt : OpsRuntime) (record : IncidentRecord) (skip_record_integrity : Bool) :
    Except OpsExc Unit := do
  record.validateFields rt
  ensure (record.created_at.instant ≤ record.detected_at.instant)
    (.valueError "incident creation must not follow detection")
  ensure (Chronological (record.timeline.map (·.observed_at)))
    (.valueError "incident timeline must be chronological")
  ensure (record.timeline.map (·.event_id)).Nodup
    (.valueError "incident timeline event IDs must be unique")
  ensure ((record.timeline.take 2).map (·.event_type) = [.detected, .active])
    (.valueError "incident timeline must begin with DETECTED then ACTIVE")
  ensure (record.recovery.evaluations.map (·.evaluation_id)).Nodup
    (.valueError "recovery evaluations must be idempotently unique")
  ensure (Chronological (record.recovery.evaluations.map (·.observed_at)))
    (.valueError "recovery evaluations must be chronological")
  record.validateClosure
  ensure (record.incident_identity_sha256 = incidentIdentitySha256 rt record.detection)
    (.valueError "incident identity digest does not match detection")
  ensure (record.incident_id = incidentIdOf (incidentIdentitySha256 rt record.detection))
    (.valueError "incident ID does not match deterministic identity")
  if skip_record_integrity then .ok () else record.verifyIntegrity rt

end IncidentRecord

end EventPipeline.OpsAgent
