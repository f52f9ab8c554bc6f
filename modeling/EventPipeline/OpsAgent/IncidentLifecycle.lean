import EventPipeline.OpsAgent.IncidentModels

/-!
# EventPipeline.OpsAgent.IncidentLifecycle

`ops_agent/incident_lifecycle.py`: an incident is created from an activation, and
diagnoses and recovery evaluations are attached to it.

Each function builds the next record and hands it to `_materialize`, which runs every
validator of the record and computes its digest. A record that goes through JSON and
back is the same record.
-/

namespace EventPipeline.OpsAgent

open EventPipeline.Python

/-! ### Helpers -/

/-- `value.rsplit("-", 1)`, where it has two parts. -/
def rsplitDash (value : PyStr) : Option (PyStr × PyStr) :=
  let parts := value.splitOn (CodePoint.ofChar '-')
  if 2 ≤ parts.length then
    some ([CodePoint.ofChar '-'].intercalate parts.dropLast, parts.getLastD [])
  else none

/-- The part of a value before its last dash, where digits follow. -/
def numberedParent (rt : OpsRuntime) (value : PyStr) : Option PyStr :=
  (rsplitDash value).bind fun (parent, number) => if rt.isdigit number then some parent else none

/-- `_source_incident_id(evaluation)`: the id all bundles share, or else the parent that all of
their numbered ids have. -/
def sourceIncidentId (rt : OpsRuntime) (evaluation : SequenceConditionEvaluation) :
    Except OpsExc PyStr :=
  let values := evaluation.source_bundles.map (·.incident_id)
  let error := OpsExc.valueError "incident activation requires one logical source incident ID"
  match values.dedup with
  | [value] => .ok value
  | _ =>
      let parents := values.map (numberedParent rt)
      if parents.all (·.isSome) then
        match (parents.filterMap id).dedup with
        | [parent] => .ok parent
        | _ => .error error
      else .error error

/-- `_event(...)`: an event of the timeline, whose id is the digest of the rest. -/
def event (rt : OpsRuntime) (payload : EventPayload) : IncidentTimelineEvent :=
  ⟨payload, rt.sha256 payload⟩

/-- `"0" * 64`. -/
def zeroDigest : Sha256 := ⟨List.replicate 64 (CodePoint.ofChar '0'), by simp, by decide⟩

/-- `_materialize(payload)`: a record of the payload. It is validated twice, as a draft without
its digest and with it. -/
def materialize (rt : OpsRuntime) (payload : IncidentPayload) : Except OpsExc IncidentRecord := do
  let draft : IncidentRecord := ⟨payload, zeroDigest⟩
  draft.validate rt true
  let record : IncidentRecord := ⟨payload, rt.sha256 payload⟩
  record.validate rt false
  return record

/-! ### Creation -/

/-- `create_incident(activation, provenance, activation_artifact_ref)`. -/
def createIncident (rt : OpsRuntime) (activation : SequenceConditionEvaluation)
    (provenance : IncidentProvenance) (activation_artifact_ref : Option PyStr) :
    Except OpsExc IncidentRecord := do
  activation.verifyIntegrity rt
  ensure (activation.core_state = .present)
    (.valueError "incident creation requires CORE_BACKLOG_PRESSURE=PRESENT")
  match activation.sourceIdentities with
  | [source_identity] => do
      let source_incident_id ← sourceIncidentId rt activation
      let artifact_ref ← parseReference activation_artifact_ref
      let detection : IncidentDetection :=
        { condition_evaluation_id := activation.evaluation_id
          policy_version := activation.policy.policy_version
          evaluator_version := activation.evaluator_version
          ruleset_version := activation.ruleset_version
          source_bundle_digests := activation.sourceBundleDigests
          source_identity_sha256 := source_identity
          source_incident_id := some source_incident_id
          artifact_sha256 := rt.sha256 activation
          artifact_ref := artifact_ref }
      detection.validate
      let identity := incidentIdentitySha256 rt detection
      let detected_at := activation.lastBundle.collection_completed_at
      let detected := event rt ⟨.detected, detected_at, activation.evaluation_id.text, .detected,
        ["DETERMINISTIC_CONDITION_PRESENT"]⟩
      let active := event rt ⟨.active, detected_at, activation.evaluation_id.text, .active,
        ["WORKER_BACKLOG_INCIDENT_ACTIVATED"]⟩
      provenance.validate
      materialize rt
        { incident_id := incidentIdOf identity
          incident_identity_sha256 := identity
          created_at := detected_at
          detected_at := detected_at
          closed_at := none
          lifecycle_state := .active
          outcome := none
          detection := detection
          diagnosis := none
          recovery := ⟨none, []⟩
          current_observation := none
          timeline := [detected, active]
          provenance := provenance }
  | _ => .error (.valueError "incident activation requires one complete source identity")

/-! ### Diagnosis -/

/-- The reference of a diagnosis in the record. -/
def diagnosisRef (rt : OpsRuntime) (run : DiagnosisRun) (artifact_ref : Option ArtifactRef) :
    IncidentDiagnosis :=
  { diagnosis_id := run.diagnosis_id
    model := run.model
    stop_reason := run.stop_reason
    tool_names := run.tool_ids
    output_repairs_used := run.output_repairs_used
    completed_at := run.completed_at
    artifact_sha256 := rt.sha256 run
    artifact_ref := artifact_ref }

/-- The record with a diagnosis attached. -/
def withDiagnosis (rt : OpsRuntime) (record : IncidentRecord) (run : DiagnosisRun)
    (artifact_ref : Option ArtifactRef) : IncidentPayload :=
  { record.toIncidentPayload with
    diagnosis := some (diagnosisRef rt run artifact_ref)
    timeline := record.timeline ++ [event rt ⟨.diagnosisAttached, run.completed_at,
      run.diagnosis_id.text, record.lifecycle_state, ["READ_ONLY_DIAGNOSIS_VALIDATED"]⟩] }

/-- `timeline[-1].observed_at` is later than the time. -/
def EndsAfter (record : IncidentRecord) (time : Aware) : Prop :=
  ∃ last ∈ record.timeline.getLast?, time.instant < last.observed_at.instant

instance (record : IncidentRecord) (time : Aware) : Decidable (EndsAfter record time) := by
  unfold EndsAfter
  infer_instance

/-- The checks of a first diagnosis. -/
def checkDiagnosis (record : IncidentRecord) (run : DiagnosisRun) : Except OpsExc Unit := do
  ensure (record.lifecycle_state ≠ .closed)
    (.valueError "new diagnosis cannot be attached after incident closure")
  ensure (run.condition_evaluation_id = record.detection.condition_evaluation_id)
    (.valueError "diagnosis condition evaluation does not match incident")
  ensure (run.context.profile = record.profile)
    (.valueError "diagnosis profile does not match incident")
  ensure (run.context.cluster_context = "kind-messaging-ha")
    (.valueError "diagnosis cluster context does not match local-ha incident")
  ensure (run.context.source_bundle_digests = record.detection.source_bundle_digests)
    (.valueError "diagnosis source bundle digests do not match detection")
  ensure (run.validation.all = true) (.valueError "diagnosis validator result must be fully valid")
  ensure (¬EndsAfter record run.completed_at)
    (.valueError "diagnosis would reorder the incident timeline")

/-- `attach_diagnosis(incident, diagnosis, artifact_ref)`. -/
def attachDiagnosis (rt : OpsRuntime) (record : IncidentRecord) (run : DiagnosisRun)
    (artifact_ref : Option PyStr) : Except OpsExc IncidentRecord := do
  record.verifyIntegrity rt
  run.verifyIntegrity rt
  match record.diagnosis with
  | some diagnosis =>
      if diagnosis.diagnosis_id = run.diagnosis_id then do
        ensure (diagnosis.artifact_sha256 = rt.sha256 run)
          (.valueError "duplicate diagnosis ID has a different digest")
        return record
      else .error (.valueError "incident already has a different diagnosis")
  | none => do
      checkDiagnosis record run
      let artifact_ref ← parseReference artifact_ref
      (diagnosisRef rt run artifact_ref).validate
      materialize rt (withDiagnosis rt record run artifact_ref)

/-! ### Recovery evaluations

An evaluation is checked against the incident and its activation, turned into a transition, and
written into the payload. The new record exists only if its own validators accept it. -/

/-- The checks of a new recovery evaluation against the incident. -/
def checkRecovery (record : IncidentRecord) (evaluation : RecoveryEvaluation) :
    Except OpsExc Unit := do
  ensure (some evaluation.incident_id = record.detection.source_incident_id)
    (.valueError "recovery incident identity does not match")
  ensure (evaluation.policy.profile = record.profile)
    (.valueError "recovery profile does not match incident")
  ensure (evaluation.policy.context = "kind-messaging-ha")
    (.valueError "recovery context does not match local-ha incident")
  ensure (evaluation.activation.evaluation_id = record.detection.condition_evaluation_id)
    (.valueError "recovery activation does not match incident detection")
  ensure (evaluation.activation.source_bundle_digests = record.detection.source_bundle_digests)
    (.valueError "recovery activation digests do not match incident detection")

/-- The chronology checks of a new recovery evaluation. -/
def checkRecoveryTime (record : IncidentRecord) (observed_at : Timestamp) :
    Except OpsExc Unit := do
  match record.recovery.evaluations.getLast? with
  | some last =>
      let reorders ← observed_at.lt last.observed_at
      ensure (reorders = false) (.valueError "recovery evaluation would reorder recovery history")
  | none => .ok ()
  match record.timeline.getLast? with
  | some last =>
      let reorders ← observed_at.lt last.observed_at
      ensure (reorders = false)
        (.valueError "recovery evaluation would reorder the incident timeline")
  | none => .error .indexError

/-- The reference of a recovery evaluation in the record. -/
def recoveryRef (rt : OpsRuntime) (evaluation : RecoveryEvaluation) (observed_at : Aware)
    (artifact_ref : Option ArtifactRef) : IncidentRecoveryEvaluation :=
  { evaluation_id := evaluation.recovery_evaluation_id
    state := evaluation.state
    observed_at := observed_at
    policy_version := evaluation.policy.policy_version
    evaluator_version := evaluation.evaluator_version
    ruleset_version := evaluation.ruleset_version
    source_bundle_digests := evaluation.source_bundles.map (·.actual_source_bundle_sha256.text)
    artifact_sha256 := rt.sha256 evaluation
    artifact_ref := artifact_ref }

/-- The observation the record shows after an evaluation. -/
def observationOf (evaluation : RecoveryEvaluation) (observed_at : Aware) (latest_digest : Sha256) :
    CurrentIncidentObservation :=
  ⟨evaluation.state, qualityOf evaluation.state, evaluation.reason_codes, latest_digest,
    observed_at⟩

/-- The event type, the next state and the reason codes of an evaluation. -/
def recoveryTransition (record : IncidentRecord) (evaluation : RecoveryEvaluation) :
    Except OpsExc (IncidentEventType × IncidentLifecycleState × List PyStr) :=
  if record.lifecycle_state = .closed then
    .ok (.observationUpdated, .closed,
      PyStr.ofString "CLOSED_LIFECYCLE_PRESERVED" :: evaluation.reason_codes)
  else
    match evaluation.state with
    | .workerBacklogActive => .ok (.recoveryObserved, .active, evaluation.reason_codes)
    | .workerBacklogRecovering => .ok (.recovering, .recovering, evaluation.reason_codes)
    | .workerBacklogUnknown =>
        .ok (.observationUpdated, record.lifecycle_state,
          PyStr.ofString "OBSERVATION_QUALITY_UNKNOWN" :: evaluation.reason_codes)
    | .workerBacklogRecovered =>
        if evaluation.policy.isV2 then .ok (.recovered, .recovered, evaluation.reason_codes)
        else .error (.valueError "only recovery v2 can close an incident")

/-- The record with a recovery evaluation attached. -/
def withRecovery (rt : OpsRuntime) (record : IncidentRecord) (evaluation : RecoveryEvaluation)
    (reference : IncidentRecoveryEvaluation) (observation : CurrentIncidentObservation)
    (transition : IncidentEventType × IncidentLifecycleState × List PyStr) : IncidentPayload :=
  let (event_type, next_state, reason_codes) := transition
  let observed_at := reference.observed_at
  let artifact_id := evaluation.recovery_evaluation_id.text
  let attached : IncidentPayload :=
    { record.toIncidentPayload with
      recovery := ⟨some evaluation.policy.policy_version,
        record.recovery.evaluations ++ [reference]⟩
      current_observation := some observation
      lifecycle_state := next_state
      timeline := record.timeline
        ++ [event rt ⟨event_type, observed_at, artifact_id, next_state, reason_codes⟩] }
  if next_state = .recovered then
    { attached with
      timeline := attached.timeline
        ++ [event rt ⟨.closed, observed_at, artifact_id, .closed,
          ["DETERMINISTIC_RECOVERY_V2_COMPLETE"]⟩]
      lifecycle_state := .closed
      outcome := some .recovered
      closed_at := some observed_at }
  else attached

/-- Attach an evaluation the record does not have yet. -/
def attachNewRecovery (rt : OpsRuntime) (record : IncidentRecord) (evaluation : RecoveryEvaluation)
    (artifact_ref : Option PyStr) : Except OpsExc IncidentRecord := do
  checkRecovery record evaluation
  match evaluation.source_bundles.getLast? with
  | none => .error .indexError
  | some latest => do
      checkRecoveryTime record latest.collection_completed_at
      let observed_at ← latest.collection_completed_at.requireAware
        "recovery observed_at must be timezone-aware"
      let artifact_ref ← parseReference artifact_ref
      let reference := recoveryRef rt evaluation observed_at artifact_ref
      reference.validate
      let observation := observationOf evaluation observed_at latest.actual_source_bundle_sha256
      observation.validate
      let transition ← recoveryTransition record evaluation
      materialize rt (withRecovery rt record evaluation reference observation transition)

/-- `attach_recovery_evaluation(incident, recovery, artifact_ref)`. -/
def attachRecoveryEvaluation (rt : OpsRuntime) (record : IncidentRecord)
    (evaluation : RecoveryEvaluation) (artifact_ref : Option PyStr) :
    Except OpsExc IncidentRecord := do
  record.verifyIntegrity rt
  evaluation.verifyIntegrity rt
  match record.recovery.evaluations.reverse.find?
      (·.evaluation_id = evaluation.recovery_evaluation_id) with
  | some existing => do
      ensure (existing.artifact_sha256 = rt.sha256 evaluation)
        (.valueError "duplicate recovery ID has a different digest")
      return record
  | none => attachNewRecovery rt record evaluation artifact_ref

end EventPipeline.OpsAgent
