import EventPipeline.OpsAgent.IncidentValidity
import EventPipeline.Guarantees.RecoveryEvaluation

/-!
# EventPipeline.Guarantees.RecoveryAttachment

When a recovery evaluation of an incident can be attached to it.

`history_attemptAll` keeps what the attachments have left in an incident over every
sequence of attempts, `evaluated_of_ok` says what `evaluate_recovery` returns, and
`validIncident_withRecovery` is the one place where the validators of the next record are
gone through. The evaluator bounds no list of reason codes, while a timeline event takes
at most 32.
-/

namespace EventPipeline.Guarantees

open EventPipeline.Python EventPipeline.OpsAgent

variable {rt : OpsRuntime}

/-! ### The record after an evaluation -/

/-- The payloads of the events an evaluation adds to the timeline. -/
def recoveryEvents (evaluation : RecoveryEvaluation) (observed_at : Aware)
    (transition : IncidentEventType × IncidentLifecycleState × List PyStr) : List EventPayload :=
  ⟨transition.1, observed_at, evaluation.recovery_evaluation_id.text, transition.2.1,
    transition.2.2⟩ ::
  (if transition.2.1 = .recovered then
    [⟨.closed, observed_at, evaluation.recovery_evaluation_id.text, .closed,
      ["DETERMINISTIC_RECOVERY_V2_COMPLETE"]⟩]
  else [])

section WithRecovery

variable {record : IncidentRecord} {evaluation : RecoveryEvaluation}
  {reference : IncidentRecoveryEvaluation} {observation : CurrentIncidentObservation}
  {transition : IncidentEventType × IncidentLifecycleState × List PyStr}

theorem withRecovery_timeline :
    (withRecovery rt record evaluation reference observation transition).timeline
      = record.timeline
        ++ (recoveryEvents evaluation reference.observed_at transition).map (event rt) := by
  obtain ⟨event_type, next_state, reason_codes⟩ := transition
  by_cases h : next_state = .recovered <;> simp [withRecovery, recoveryEvents, h]

theorem withRecovery_evaluations :
    (withRecovery rt record evaluation reference observation transition).recovery.evaluations
      = record.recovery.evaluations ++ [reference] := by
  obtain ⟨event_type, next_state, reason_codes⟩ := transition
  by_cases h : next_state = .recovered <;> simp [withRecovery, h]

theorem withRecovery_observation :
    (withRecovery rt record evaluation reference observation transition).current_observation
      = some observation := by
  obtain ⟨event_type, next_state, reason_codes⟩ := transition
  by_cases h : next_state = .recovered <;> simp [withRecovery, h]

theorem withRecovery_diagnosis :
    (withRecovery rt record evaluation reference observation transition).diagnosis
      = record.diagnosis := by
  obtain ⟨event_type, next_state, reason_codes⟩ := transition
  by_cases h : next_state = .recovered <;> simp [withRecovery, h]

/-- The parts of a record no evaluation touches. -/
theorem withRecovery_frame :
    let after := withRecovery rt record evaluation reference observation transition
    after.detection = record.detection ∧ after.provenance = record.provenance ∧
      after.created_at = record.created_at ∧ after.detected_at = record.detected_at ∧
      after.incident_identity_sha256 = record.incident_identity_sha256 ∧
      after.incident_id = record.incident_id := by
  obtain ⟨event_type, next_state, reason_codes⟩ := transition
  by_cases h : next_state = .recovered <;> simp [withRecovery, h]

theorem withRecovery_recovered (h : transition.2.1 = .recovered) :
    let after := withRecovery rt record evaluation reference observation transition
    after.lifecycle_state = .closed ∧ after.outcome = some .recovered ∧
      after.closed_at = some reference.observed_at := by
  obtain ⟨event_type, next_state, reason_codes⟩ := transition
  simp only at h
  simp [withRecovery, h]

theorem withRecovery_open (h : transition.2.1 ≠ .recovered) :
    let after := withRecovery rt record evaluation reference observation transition
    after.lifecycle_state = transition.2.1 ∧ after.outcome = record.outcome ∧
      after.closed_at = record.closed_at := by
  obtain ⟨event_type, next_state, reason_codes⟩ := transition
  simp only at h
  simp [withRecovery, h]

end WithRecovery

/-- The transitions of an evaluation. -/
inductive TransitionOf (record : IncidentRecord) (evaluation : RecoveryEvaluation) :
    IncidentEventType × IncidentLifecycleState × List PyStr → Prop
  | observed : record.lifecycle_state = .closed →
      TransitionOf record evaluation (.observationUpdated, .closed,
        PyStr.ofString "CLOSED_LIFECYCLE_PRESERVED" :: evaluation.reason_codes)
  | active : record.lifecycle_state ≠ .closed → evaluation.state = .workerBacklogActive →
      TransitionOf record evaluation (.recoveryObserved, .active, evaluation.reason_codes)
  | recovering : record.lifecycle_state ≠ .closed → evaluation.state = .workerBacklogRecovering →
      TransitionOf record evaluation (.recovering, .recovering, evaluation.reason_codes)
  | unknown : record.lifecycle_state ≠ .closed → evaluation.state = .workerBacklogUnknown →
      TransitionOf record evaluation (.observationUpdated, record.lifecycle_state,
        PyStr.ofString "OBSERVATION_QUALITY_UNKNOWN" :: evaluation.reason_codes)
  | recovered : record.lifecycle_state ≠ .closed → evaluation.state = .workerBacklogRecovered →
      evaluation.policy = .v2 →
      TransitionOf record evaluation (.recovered, .recovered, evaluation.reason_codes)

theorem recoveryTransition_eq_ok {record : IncidentRecord} {evaluation : RecoveryEvaluation}
    {transition : IncidentEventType × IncidentLifecycleState × List PyStr} :
    recoveryTransition record evaluation = .ok transition ↔
      TransitionOf record evaluation transition := by
  constructor
  · intro h
    unfold recoveryTransition at h
    -- a closed incident only observes; an open one follows the state of the evaluation
    by_cases hclosed : record.lifecycle_state = .closed
    · rw [if_pos hclosed] at h
      cases h
      exact .observed hclosed
    · rw [if_neg hclosed] at h
      cases hstate : evaluation.state with
      | workerBacklogActive =>
          rw [hstate] at h
          cases h
          exact .active hclosed hstate
      | workerBacklogRecovering =>
          rw [hstate] at h
          cases h
          exact .recovering hclosed hstate
      | workerBacklogUnknown =>
          rw [hstate] at h
          cases h
          exact .unknown hclosed hstate
      | workerBacklogRecovered =>
          rw [hstate] at h
          simp only at h
          split_ifs at h with hv2
          cases h
          exact .recovered hclosed hstate (RecoveryEvaluationPolicy.isV2_iff.mp hv2)
  · intro h
    cases h with
    | observed hclosed => simp [recoveryTransition, hclosed]
    | active hopen hstate => simp [recoveryTransition, hopen, hstate]
    | recovering hopen hstate => simp [recoveryTransition, hopen, hstate]
    | unknown hopen hstate => simp [recoveryTransition, hopen, hstate]
    | recovered hopen hstate hv2 =>
        simp [recoveryTransition, hopen, hstate, hv2, RecoveryEvaluationPolicy.isV2_iff]

/-- Every event of an evaluation carries its id and its time. -/
theorem mem_recoveryEvents {evaluation : RecoveryEvaluation} {observed_at : Aware}
    {transition : IncidentEventType × IncidentLifecycleState × List PyStr} {p : EventPayload}
    (h : p ∈ recoveryEvents evaluation observed_at transition) :
    p.artifact_id = evaluation.recovery_evaluation_id.text ∧ p.observed_at = observed_at := by
  unfold recoveryEvents at h
  rcases List.mem_cons.mp h with rfl | h
  · exact ⟨rfl, rfl⟩
  · split_ifs at h
    · rw [List.mem_singleton.mp h]
      exact ⟨rfl, rfl⟩
    · simp at h

/-! ### What the attempts leave in a record

The bounds of a record are on its timeline and on its evaluations. The history says how many
events there are for each of them, so that room for an evaluation is room for its events. -/

/-- A closed incident has one event more than its artifacts account for. -/
def closedCount (record : IncidentRecord) : Nat :=
  if record.lifecycle_state = .closed then 1 else 0

/-- What the attachments have left in a record. The two bounds on the length of the timeline count
the events by what they were added for, and `artifacts` and `times` tie every event of the
recovery to an evaluation of the record and back. -/
structure History (rt : OpsRuntime) (record : IncidentRecord) : Prop where
  valid : ValidIncident rt record.toIncidentPayload
  length : record.timeline.length ≤
    3 + record.recovery.evaluations.length + closedCount record
  undiagnosed : record.diagnosis = none →
    record.timeline.length ≤ 2 + record.recovery.evaluations.length + closedCount record
  artifacts : ∀ e ∈ record.timeline, e.event_type = .detected ∨ e.event_type = .active ∨
    e.event_type = .diagnosisAttached ∨
    ∃ x ∈ record.recovery.evaluations, e.artifact_id = x.evaluation_id.text
  times : ∀ x ∈ record.recovery.evaluations, ∃ e ∈ record.timeline, x.observed_at = e.observed_at

theorem history_createIncident {activation : SequenceConditionEvaluation}
    {provenance : IncidentProvenance} {artifact_ref : Option PyStr} {record : IncidentRecord}
    (h : createIncident rt activation provenance artifact_ref = .ok record) :
    History rt record := by
  simp only [createIncident, bind_ok] at h
  obtain ⟨_, -, _, -, h⟩ := h
  split at h
  · simp only [bind_ok] at h
    obtain ⟨source_incident_id, -, r, -, _, -, _, -, h⟩ := h
    obtain ⟨hvalid, rfl⟩ := materialize_eq_ok.mp h
    refine ⟨hvalid, ?_, fun _ => ?_, ?_, ?_⟩
    · simp [closedCount]
    · simp [closedCount]
    · simp [event]
    · simp
  · simp at h

theorem history_withDiagnosis {record record' : IncidentRecord} {run : DiagnosisRun}
    {r : Option ArtifactRef} (hhistory : History rt record) (hnone : record.diagnosis = none)
    (h : materialize rt (withDiagnosis rt record run r) = .ok record') : History rt record' := by
  obtain ⟨hvalid, rfl⟩ := materialize_eq_ok.mp h
  refine ⟨hvalid, ?_, ?_, ?_, ?_⟩
  · have hlength := hhistory.undiagnosed hnone
    simp only [withDiagnosis, List.length_append, List.length_singleton]
    simp only [closedCount] at hlength ⊢
    omega
  · simp [withDiagnosis]
  · intro e he
    rcases List.mem_append.mp he with he | he
    · exact hhistory.artifacts e he
    · rw [List.mem_singleton.mp he]
      exact Or.inr (Or.inr (Or.inl rfl))
  · intro x hx
    obtain ⟨e, he, htime⟩ := hhistory.times x hx
    exact ⟨e, List.mem_append_left _ he, htime⟩

theorem history_withRecovery {record record' : IncidentRecord} {evaluation : RecoveryEvaluation}
    {reference : IncidentRecoveryEvaluation} {observation : CurrentIncidentObservation}
    {transition : IncidentEventType × IncidentLifecycleState × List PyStr}
    (hhistory : History rt record)
    (hid : reference.evaluation_id = evaluation.recovery_evaluation_id)
    (htransition : recoveryTransition record evaluation = .ok transition)
    (h : materialize rt (withRecovery rt record evaluation reference observation transition)
      = .ok record') : History rt record' := by
  obtain ⟨hvalid, rfl⟩ := materialize_eq_ok.mp h
  -- a closing event is added only where the record closes
  have hevents : (recoveryEvents evaluation reference.observed_at transition).length
      + closedCount record ≤ 1 + closedCount
        ⟨withRecovery rt record evaluation reference observation transition,
          rt.sha256 (withRecovery rt record evaluation reference observation transition)⟩ := by
    by_cases hrecovered : transition.2.1 = .recovered
    · have hopen : record.lifecycle_state ≠ .closed := by
        cases recoveryTransition_eq_ok.mp htransition with
        | observed hclosed => simp at hrecovered
        | active hopen => exact hopen
        | recovering hopen => exact hopen
        | unknown hopen => exact hopen
        | recovered hopen => exact hopen
      simp [recoveryEvents, closedCount, hrecovered, hopen, (withRecovery_recovered hrecovered).1]
    · -- the state after an observation of a closed record is CLOSED again
      have hkept : record.lifecycle_state = .closed → transition.2.1 = .closed := by
        intro hclosed
        cases recoveryTransition_eq_ok.mp htransition with
        | observed => rfl
        | active hopen => exact absurd hclosed hopen
        | recovering hopen => exact absurd hclosed hopen
        | unknown hopen => exact absurd hclosed hopen
        | recovered hopen => exact absurd hclosed hopen
      simp only [recoveryEvents, if_neg hrecovered, List.length_singleton, closedCount,
        (withRecovery_open hrecovered).1]
      by_cases hclosed : record.lifecycle_state = .closed
      · simp [hclosed, hkept hclosed]
      · simp [hclosed]
  refine ⟨hvalid, ?_, fun hnone => ?_, ?_, ?_⟩
  · have hlength := hhistory.length
    simp only [withRecovery_timeline, withRecovery_evaluations, List.length_append, List.length_map,
      List.length_singleton] at hevents ⊢
    omega
  · have hlength := hhistory.undiagnosed (withRecovery_diagnosis ▸ hnone)
    simp only [withRecovery_timeline, withRecovery_evaluations, List.length_append, List.length_map,
      List.length_singleton] at hevents ⊢
    omega
  · -- the events of an evaluation name its id as their artifact
    intro e he
    rw [withRecovery_timeline] at he
    rw [withRecovery_evaluations]
    rcases List.mem_append.mp he with he | he
    · rcases hhistory.artifacts e he with htype | htype | htype | ⟨x, hx, hartifact⟩
      · exact Or.inl htype
      · exact Or.inr (Or.inl htype)
      · exact Or.inr (Or.inr (Or.inl htype))
      · exact Or.inr (Or.inr (Or.inr ⟨x, List.mem_append_left _ hx, hartifact⟩))
    · obtain ⟨p, hp, rfl⟩ := List.mem_map.mp he
      refine Or.inr (Or.inr (Or.inr ⟨reference, by simp, ?_⟩))
      rw [hid]
      exact (mem_recoveryEvents hp).1
  · -- the new reference has the time of its event
    intro x hx
    rw [withRecovery_evaluations] at hx
    rw [withRecovery_timeline]
    rcases List.mem_append.mp hx with hx | hx
    · obtain ⟨e, he, htime⟩ := hhistory.times x hx
      exact ⟨e, List.mem_append_left _ he, htime⟩
    · rw [List.mem_singleton.mp hx]
      refine ⟨event rt ⟨transition.1, reference.observed_at,
        evaluation.recovery_evaluation_id.text, transition.2.1, transition.2.2⟩, ?_, rfl⟩
      exact List.mem_append_right _ (List.mem_map_of_mem (List.mem_cons_self))

theorem history_attempt {record : IncidentRecord} (hhistory : History rt record) (a : Attempt) :
    History rt (attempt rt record a) := by
  unfold attempt
  cases h : attach rt record a with
  | error e => exact hhistory
  | ok record' =>
      cases a with
      | diagnosis run artifact_ref =>
          obtain ⟨-, ⟨rfl, -⟩ | ⟨hnone, -, r, hmaterialize⟩⟩ := attachDiagnosis_ok h
          · exact hhistory
          · exact history_withDiagnosis hhistory hnone hmaterialize
      | recovery evaluation artifact_ref =>
          obtain ⟨-, ⟨rfl, -⟩ | hnew⟩ := attachRecoveryEvaluation_ok h
          · exact hhistory
          · obtain ⟨-, observed_at, r, observation, transition, htransition, hmaterialize⟩ :=
              attachNewRecovery_ok hnew
            exact history_withRecovery hhistory rfl htransition hmaterialize

/-- Every record an incident goes through has its history. -/
theorem history_attemptAll {activation : SequenceConditionEvaluation}
    {provenance : IncidentProvenance} {artifact_ref : Option PyStr} {record : IncidentRecord}
    (hcreate : createIncident rt activation provenance artifact_ref = .ok record)
    (as : List Attempt) : History rt (attemptAll rt record as) := by
  induction as using List.reverseRecOn with
  | nil => exact history_createIncident hcreate
  | append_singleton as a ih =>
      rw [attemptAll_append]
      exact history_attempt ih a

/-! ### What the evaluator returns

An evaluation that was returned verifies, and its parts are within their bounds. What is left are
its reason codes, of which only an UNKNOWN evaluation can have many. -/

/-- What is known of an evaluation of an activation: it is intact and of this activation, and its
versions, its bundles and its reason codes are within the bounds of the models. Only an unknown
state has more than four reasons. -/
structure Evaluated (rt : OpsRuntime) (activation : SequenceConditionEvaluation)
    (incident_id : PyStr) (evaluation : RecoveryEvaluation) : Prop where
  integrity : evaluation.verifyIntegrity rt = .ok ()
  incident_id : evaluation.incident_id = incident_id
  evaluation_id : evaluation.activation.evaluation_id = activation.evaluation_id
  digests : evaluation.activation.source_bundle_digests = activation.sourceBundleDigests
  bundles : 1 ≤ evaluation.source_bundles.length ∧ evaluation.source_bundles.length ≤ 256
  evaluator_version : 1 ≤ evaluation.evaluator_version.length ∧
    evaluation.evaluator_version.length ≤ 128
  ruleset_version : 1 ≤ evaluation.ruleset_version.length ∧ evaluation.ruleset_version.length ≤ 128
  recovered : evaluation.state = .workerBacklogRecovered → evaluation.policy = .v2
  reasons : 1 ≤ evaluation.reason_codes.length
  few_reasons : evaluation.state ≠ .workerBacklogUnknown → evaluation.reason_codes.length ≤ 4

theorem unknownReasons_pos (candidate : List RawObservation) :
    1 ≤ (unknownReasons candidate).length := by
  unfold unknownReasons
  cases sortedSet (candidate.flatMap (·.issue_codes)) <;> simp

/-- The reason codes of a window: some, and at most four unless the state is UNKNOWN. -/
theorem windowState_reasons (required_count : Nat) (recovering_seen : Bool)
    (candidate : List RawObservation) :
    1 ≤ (windowState required_count recovering_seen candidate).2.length ∧
      ((windowState required_count recovering_seen candidate).1 ≠ .workerBacklogUnknown →
        (windowState required_count recovering_seen candidate).2.length ≤ 4) := by
  unfold windowState
  split_ifs
  · exact ⟨unknownReasons_pos candidate, by simp⟩
  · simp
  · simp [drainingReasons]
  · simp
  · simp

/-- Some reason codes, and few of them unless the state is UNKNOWN. -/
def ReasonsBounded (observation : RecoveryCaptureObservation) : Prop :=
  1 ≤ observation.state_reason_codes.length ∧
    (observation.state_after_capture ≠ .workerBacklogUnknown →
      observation.state_reason_codes.length ≤ 4)

theorem firstPass_reasons {required_count : Nat} {seen : List RawObservation}
    {recovering_seen : Bool} {raws : List RawObservation}
    {entries : List (RecoveryCaptureObservation × List (List Nat))}
    (h : firstPass required_count seen recovering_seen raws = .ok entries) :
    ∀ o ∈ entries.map (·.1), ReasonsBounded o := by
  induction raws generalizing seen recovering_seen entries with
  | nil =>
      cases h
      simp
  | cons raw raws ih =>
      simp only [firstPass, captureObservation, bind_ok, pure_ok] at h
      obtain ⟨observation, ⟨total_lag, -, rfl⟩, tail, htail, rfl⟩ := h
      intro o ho
      rcases List.mem_cons.mp ho with rfl | ho
      · exact windowState_reasons _ _ _
      · exact ih htail o ho

theorem secondPass_reasons {policy : RecoveryEvaluationPolicy}
    {observations : List RecoveryCaptureObservation} (h : ∀ o ∈ observations, ReasonsBounded o) :
    ∀ o ∈ secondPass policy observations, ReasonsBounded o := by
  intro o ho
  unfold secondPass at ho
  split_ifs at ho
  · exact h o ho
  · rcases List.mem_append.mp ho with ho | ho
    · exact h o (List.dropLast_subset _ ho)
    · obtain ⟨last, -, rfl⟩ := Option.map_eq_some_iff.mp (Option.mem_toList.mp ho)
      exact ⟨by simp [asRecovered], fun _ => by simp [asRecovered]⟩

theorem evaluated_of_ok {core : CoreEvaluator} {incident_id : PyStr}
    {activation : SequenceConditionEvaluation} {bundles : List EvidenceBundle}
    {digests : List PyStr} {policy : RecoveryEvaluationPolicy} {evaluation : RecoveryEvaluation}
    (h : evaluateRecovery rt core incident_id activation bundles digests policy
      = .ok evaluation) : Evaluated rt activation incident_id evaluation := by
  simp only [evaluateRecovery, evaluateRecoveryWith, bind_ok, ensure_eq_ok] at h
  obtain ⟨_, -, _, -, _, -, _, -, _, -, digests', -, reference, hreference, captures, -, entries,
    hpass, h⟩ := h
  simp only [activationReference, bind_ok, ensure_eq_ok, pure_ok] at hreference
  obtain ⟨_, -, rfl⟩ := hreference
  split at h
  · simp at h
  · rename_i final hfinal
    simp only [bind_ok, pure_ok] at h
    obtain ⟨_, hvalid, rfl⟩ := h
    simp only [RecoveryEvaluation.validate, bind_ok, ensure_eq_ok, listLength] at hvalid
    obtain ⟨_, hbundles, _, -, _, -, _, -, _, -, _, -, _, -, _, hv2, _, -, _, -, _, -, hverified⟩ :=
      hvalid
    have hreasons : ReasonsBounded final :=
      secondPass_reasons (firstPass_reasons hpass) final (List.mem_of_getLast? hfinal)
    refine ⟨hverified, rfl, rfl, rfl, hbundles, ?_, ?_, ?_, hreasons.1, hreasons.2⟩
    · simp only [recoveryPayload]
      split_ifs <;> decide
    · simp only [recoveryPayload]
      split_ifs <;> decide
    · intro hrecovered
      rw [← RecoveryEvaluationPolicy.isV2_iff]
      by_contra hnot
      exact hv2 ⟨hrecovered, by simpa using hnot⟩

/-! ### The new events

The ids of the events are digests of what they say. A collision of two digests is excluded by
hypothesis, and only for the events that are added. -/

/-- No new event has the digest of an event with another payload. -/
structure NoCollision (rt : OpsRuntime) (record : IncidentRecord) (payloads : List EventPayload) :
    Prop where
  earlier : ∀ p ∈ payloads, ∀ e ∈ record.timeline, rt.sha256 p = e.event_id → p = e.toEventPayload
  added : ∀ p ∈ payloads, ∀ q ∈ payloads, rt.sha256 p = rt.sha256 q → p = q

variable {record : IncidentRecord} {evaluation : RecoveryEvaluation} {observed_at : Aware}
  {transition : IncidentEventType × IncidentLifecycleState × List PyStr}

/-- An event is valid when its list of reason codes is neither empty nor too long. -/
theorem event_validate {p : EventPayload} :
    (event rt p).validate rt = .ok () ↔ (1 ≤ p.artifact_id.length ∧ p.artifact_id.length ≤ 256) ∧
      1 ≤ p.reason_codes.length ∧ p.reason_codes.length ≤ 32 := by
  simp only [IncidentTimelineEvent.validate, textLength, listLength, bind_ok, ensure_eq_ok,
    Unique.exists_iff]
  simp [event]

/-- An evaluation with few reason codes adds valid events only. -/
theorem recoveryEvents_valid {activation : SequenceConditionEvaluation} {incident_id : PyStr}
    (hevaluated : Evaluated rt activation incident_id evaluation)
    (hfew : evaluation.state = .workerBacklogUnknown → evaluation.reason_codes.length ≤ 31)
    (htransition : TransitionOf record evaluation transition) :
    ∀ p ∈ recoveryEvents evaluation observed_at transition, (event rt p).validate rt = .ok () := by
  have hcodes : 1 ≤ transition.2.2.length ∧ transition.2.2.length ≤ 32 := by
    have hsome := hevaluated.reasons
    have hbound : evaluation.reason_codes.length ≤ 31 := by
      by_cases hunknown : evaluation.state = .workerBacklogUnknown
      · exact hfew hunknown
      · exact (hevaluated.few_reasons hunknown).trans (by decide)
    cases htransition with
    | observed => simp only [List.length_cons]; omega
    | active => exact ⟨hsome, by simp only; omega⟩
    | recovering => exact ⟨hsome, by simp only; omega⟩
    | unknown => simp only [List.length_cons]; omega
    | recovered => exact ⟨hsome, by simp only; omega⟩
  intro p hp
  have hid := (mem_recoveryEvents hp).1
  rw [event_validate, hid, evaluation.recovery_evaluation_id.length_eq]
  refine ⟨by decide, ?_⟩
  unfold recoveryEvents at hp
  rcases List.mem_cons.mp hp with rfl | hp
  · exact hcodes
  · split_ifs at hp
    · rw [List.mem_singleton.mp hp]
      simp
    · simp at hp

/-- The type of a new event is none of an event that no evaluation adds. -/
theorem recoveryEvents_type (htransition : TransitionOf record evaluation transition) :
    ∀ p ∈ recoveryEvents evaluation observed_at transition, p.event_type ≠ .detected ∧
      p.event_type ≠ .active ∧ p.event_type ≠ .diagnosisAttached := by
  intro p hp
  unfold recoveryEvents at hp
  rcases List.mem_cons.mp hp with rfl | hp
  · cases htransition <;> simp
  · split_ifs at hp
    · rw [List.mem_singleton.mp hp]
      simp
    · simp at hp

theorem sha256_text_inj {a b : Sha256} (h : a.text = b.text) : a = b := by
  obtain ⟨text, length_eq, hex⟩ := a
  obtain ⟨text', length_eq', hex'⟩ := b
  obtain rfl : text = text' := h
  rfl

/-- The events of a new evaluation are new: they carry its id, and every earlier event of a
recovery carries the id of an evaluation that is in the record. -/
theorem recoveryEvents_new (hhistory : History rt record)
    (hnew : ∀ x ∈ record.recovery.evaluations,
      x.evaluation_id ≠ evaluation.recovery_evaluation_id)
    (htransition : TransitionOf record evaluation transition) :
    ∀ p ∈ recoveryEvents evaluation observed_at transition, ∀ e ∈ record.timeline,
      p ≠ e.toEventPayload := by
  rintro p hp e he rfl
  obtain ⟨hdetected, hactive, hdiagnosis⟩ := recoveryEvents_type htransition _ hp
  rcases hhistory.artifacts e he with htype | htype | htype | ⟨x, hx, hartifact⟩
  · exact hdetected htype
  · exact hactive htype
  · exact hdiagnosis htype
  · exact hnew x hx (sha256_text_inj (hartifact.symm.trans (mem_recoveryEvents hp).1))

theorem recoveryEvents_nodup (htransition : TransitionOf record evaluation transition) :
    (recoveryEvents evaluation observed_at transition).Nodup := by
  unfold recoveryEvents
  split_ifs with hrecovered
  · cases htransition with
    | recovered => simp
    | observed => simp at hrecovered
    | active => simp at hrecovered
    | recovering => simp at hrecovered
    | unknown => simp
  · simp

/-- The ids of the timeline stay apart exactly when no digest collides. -/
theorem eventIds_nodup (hhistory : History rt record)
    (hnew : ∀ x ∈ record.recovery.evaluations,
      x.evaluation_id ≠ evaluation.recovery_evaluation_id)
    (htransition : TransitionOf record evaluation transition) :
    ((record.timeline ++ (recoveryEvents evaluation observed_at transition).map (event rt)).map
        (·.event_id)).Nodup ↔
      NoCollision rt record (recoveryEvents evaluation observed_at transition) := by
  have hids : ((recoveryEvents evaluation observed_at transition).map (event rt)).map (·.event_id)
      = (recoveryEvents evaluation observed_at transition).map fun p : EventPayload => rt.sha256 p := by
    rw [List.map_map]
    rfl
  rw [List.map_append, hids, List.nodup_append]
  constructor
  · rintro ⟨-, hadded, hapart⟩
    refine ⟨fun p hp e he heq => ?_, fun p hp q hq heq => ?_⟩
    · exact absurd heq.symm (hapart _ (List.mem_map_of_mem he) _ (List.mem_map_of_mem hp))
    · exact List.inj_on_of_nodup_map hadded hp hq heq
  · rintro ⟨hearlier, hadded⟩
    refine ⟨hhistory.valid.event_ids, (recoveryEvents_nodup htransition).map_on ?_, ?_⟩
    · exact fun p hp q hq heq => hadded p hp q hq heq
    · intro a ha b hb heq
      obtain ⟨e, he, rfl⟩ := List.mem_map.mp ha
      obtain ⟨p, hp, rfl⟩ := List.mem_map.mp hb
      exact recoveryEvents_new hhistory hnew htransition p hp e he (hearlier p hp e he heq.symm)

/-! ### The next record

The validators of a record, one by one, on the record with the evaluation attached. -/

theorem instants_append {xs ys : List Aware} (hxs : OpsAgent.Chronological xs)
    (hys : OpsAgent.Chronological ys)
    (h : ∀ x ∈ xs, ∀ y ∈ ys, x.instant ≤ y.instant) : OpsAgent.Chronological (xs ++ ys) := by
  rw [chronological_iff] at hxs hys ⊢
  exact List.pairwise_append.mpr ⟨hxs, hys, h⟩

/-- No entry of a chronological list is later than its last one. -/
theorem instant_le_getLast {xs : List Aware} (hxs : OpsAgent.Chronological xs) {bound : Aware}
    (hlast : ∀ last ∈ xs.getLast?, last.instant ≤ bound.instant) :
    ∀ x ∈ xs, x.instant ≤ bound.instant := by
  rw [chronological_iff] at hxs
  induction xs using List.reverseRecOn with
  | nil => simp
  | append_singleton xs last ih =>
      rw [List.getLast?_concat] at hlast
      have hbound := hlast last rfl
      obtain ⟨-, -, hle⟩ := List.pairwise_append.mp hxs
      intro x hx
      rcases List.mem_append.mp hx with hx | hx
      · exact (hle x hx last (List.mem_singleton_self _)).trans hbound
      · rw [List.mem_singleton.mp hx]
        exact hbound

/-- The closure of the next record: an open incident is closed by a RECOVERED
evaluation, and a closed one keeps its closure. -/
theorem closedOnce_withRecovery {reference : IncidentRecoveryEvaluation}
    {observation : CurrentIncidentObservation} (hvalid : ValidIncident rt record.toIncidentPayload)
    (hopen : record.lifecycle_state ≠ .closed → ∀ e ∈ record.timeline, e.event_type ≠ .closed)
    (hstate : record.lifecycle_state ≠ .recovered)
    (htransition : TransitionOf record evaluation transition)
    (hclosed : (withRecovery rt record evaluation reference observation transition).lifecycle_state
      = .closed) :
    ClosedOnce (withRecovery rt record evaluation reference observation transition) := by
  cases htransition with
  -- closed before: the closure stays where it is, and the events come after it
  | observed hbefore =>
      obtain ⟨houtcome, hrecovered, hcount, time, htime, hfind⟩ := hvalid.closed hbefore
      refine ⟨houtcome, ?_, ?_, time, htime, ?_⟩
      · rw [withRecovery_timeline, List.map_append]
        exact List.mem_append_left _ hrecovered
      · rw [withRecovery_timeline, List.map_append, List.count_append, hcount]
        simp [recoveryEvents, event]
      · rw [withRecovery_timeline, List.find?_append]
        obtain ⟨e, he, heq⟩ := Option.map_eq_some_iff.mp hfind
        rw [he]
        simpa using heq
  | active => simp [withRecovery] at hclosed
  | recovering => simp [withRecovery] at hclosed
  | unknown hbefore =>
      simp only [withRecovery, if_neg hstate] at hclosed
      exact absurd hclosed hbefore
  -- an open record has no closing event, so that the one added is the only one
  | recovered hbefore =>
      have hevents := hopen hbefore
      have hnone : (record.timeline.find? (·.event_type = .closed)) = none :=
        List.find?_eq_none.mpr fun e he => by simpa using hevents e he
      have hcount : (record.timeline.map (·.event_type)).count .closed = 0 := by
        rw [List.count_eq_zero, List.mem_map]
        rintro ⟨e, he, htype⟩
        exact hevents e he htype
      refine ⟨rfl, ?_, ?_, reference.observed_at, rfl, ?_⟩
      · rw [withRecovery_timeline, List.map_append]
        exact List.mem_append_right _ (by simp [recoveryEvents, event])
      · rw [withRecovery_timeline, List.map_append, List.count_append, hcount]
        simp [recoveryEvents, event]
      · rw [withRecovery_timeline, List.find?_append, hnone]
        simp [recoveryEvents, event]

/-- An incident that stays open keeps no outcome: only a recovered evaluation sets one, and it
closes the incident. -/
theorem opened_withRecovery {reference : IncidentRecoveryEvaluation}
    {observation : CurrentIncidentObservation} (hvalid : ValidIncident rt record.toIncidentPayload)
    (htransition : TransitionOf record evaluation transition)
    (hopened : (withRecovery rt record evaluation reference observation transition).lifecycle_state
      ≠ .closed) :
    (withRecovery rt record evaluation reference observation transition).outcome = none ∧
      (withRecovery rt record evaluation reference observation transition).closed_at = none := by
  by_cases hrecovered : transition.2.1 = .recovered
  · exact absurd (withRecovery_recovered hrecovered).1 hopened
  · have hbefore : record.lifecycle_state ≠ .closed := by
      intro hclosed
      cases htransition with
      | observed => exact hopened (withRecovery_open hrecovered).1
      | active hopen => exact hopen hclosed
      | recovering hopen => exact hopen hclosed
      | unknown hopen => exact hopen hclosed
      | recovered hopen => exact hopen hclosed
    obtain ⟨-, houtcome, hclosed_at⟩ :=
      @withRecovery_open rt record evaluation reference observation transition hrecovered
    rw [houtcome, hclosed_at]
    exact hvalid.opened hbefore

/-- The validators accept the next record. Most of its fields are those of the record before; for
the others, `History` bounds the lengths, and the events are new and in order. -/
theorem validIncident_withRecovery {reference : IncidentRecoveryEvaluation}
    {observation : CurrentIncidentObservation} (hhistory : History rt record)
    (hopen : record.lifecycle_state ≠ .closed → ∀ e ∈ record.timeline, e.event_type ≠ .closed)
    (hstate : record.lifecycle_state ≠ .recovered)
    (hroom : record.recovery.evaluations.length < 256)
    (hnew : ∀ x ∈ record.recovery.evaluations,
      x.evaluation_id ≠ evaluation.recovery_evaluation_id)
    (hid : reference.evaluation_id = evaluation.recovery_evaluation_id)
    (hreference : reference.validate = .ok ()) (hobservation : observation.validate = .ok ())
    (htransition : TransitionOf record evaluation transition)
    (hevents : ∀ p ∈ recoveryEvents evaluation reference.observed_at transition,
      (event rt p).validate rt = .ok ())
    (horder : ∀ e ∈ record.timeline, e.observed_at.instant ≤ reference.observed_at.instant)
    (hcollision : NoCollision rt record
      (recoveryEvents evaluation reference.observed_at transition)) :
    ValidIncident rt (withRecovery rt record evaluation reference observation transition) := by
  have hvalid := hhistory.valid
  obtain ⟨hdetection, hprovenance, hcreated, hdetected, hidentity, hincident⟩ :=
    @withRecovery_frame rt record evaluation reference observation transition
  refine ⟨?_, ?_, ?_, ?_, ?_, ?_, ?_, ?_, ?_, ?_, ?_, ?_, ?_, ?_,
    closedOnce_withRecovery hvalid hopen hstate htransition, opened_withRecovery hvalid htransition,
    ?_, ?_⟩
  · rw [hdetection]
    exact hvalid.detection
  · rw [withRecovery_diagnosis]
    exact hvalid.diagnosis
  · rw [withRecovery_evaluations, List.length_append, List.length_singleton]
    exact hroom
  · intro x hx
    rw [withRecovery_evaluations] at hx
    rcases List.mem_append.mp hx with hx | hx
    · exact hvalid.evaluations x hx
    · rw [List.mem_singleton.mp hx]
      exact hreference
  · intro o ho
    rw [withRecovery_observation] at ho
    rw [List.mem_singleton.mp ho]
    exact hobservation
  · -- one event an evaluation and one for the closure: the bound follows from the count of both
    have hlength := hhistory.length
    have hadded : (recoveryEvents evaluation reference.observed_at transition).length ≤ 2 := by
      unfold recoveryEvents
      split_ifs <;> simp
    have hclosed : closedCount record ≤ 1 := by
      unfold closedCount
      split_ifs <;> simp
    have htwo := hvalid.timeline_length.1
    rw [withRecovery_timeline, List.length_append, List.length_map]
    omega
  · intro e he
    rw [withRecovery_timeline] at he
    rcases List.mem_append.mp he with he | he
    · exact hvalid.timeline e he
    · obtain ⟨p, hp, rfl⟩ := List.mem_map.mp he
      exact hevents p hp
  · rw [hprovenance]
    exact hvalid.provenance
  · rw [hcreated, hdetected]
    exact hvalid.created
  · -- the events have the time of the evaluation, which is not before the timeline
    rw [withRecovery_timeline, List.map_append]
    refine instants_append hvalid.chronological ?_ ?_
    · rw [chronological_iff, List.map_map, List.pairwise_map]
      refine List.pairwise_of_forall_mem_list fun p hp q hq => ?_
      show p.observed_at.instant ≤ q.observed_at.instant
      rw [(mem_recoveryEvents hp).2, (mem_recoveryEvents hq).2]
    · intro a ha b hb
      obtain ⟨e, he, rfl⟩ := List.mem_map.mp ha
      rw [List.map_map] at hb
      obtain ⟨p, hp, rfl⟩ := List.mem_map.mp hb
      show e.observed_at.instant ≤ p.observed_at.instant
      rw [(mem_recoveryEvents hp).2]
      exact horder e he
  · rw [withRecovery_timeline]
    exact (eventIds_nodup hhistory hnew htransition).mpr hcollision
  · rw [withRecovery_timeline, List.take_append_of_le_length hvalid.timeline_length.1]
    exact hvalid.first_events
  · -- the id of the evaluation is new
    rw [withRecovery_evaluations, List.map_append, List.nodup_append]
    refine ⟨hvalid.evaluation_ids, by simp, ?_⟩
    intro a ha b hb heq
    obtain ⟨x, hx, rfl⟩ := List.mem_map.mp ha
    rw [List.map_singleton, List.mem_singleton] at hb
    exact hnew x hx (heq.trans (hb.trans hid))
  · -- the time of an evaluation is that of an event, and the timeline is not after the new one
    rw [withRecovery_evaluations, List.map_append]
    refine instants_append hvalid.evaluation_times (by simp [chronological_iff]) ?_
    intro a ha b hb
    obtain ⟨x, hx, rfl⟩ := List.mem_map.mp ha
    rw [List.map_singleton, List.mem_singleton] at hb
    obtain ⟨e, he, htime⟩ := hhistory.times x hx
    rw [hb, htime]
    exact horder e he
  · rw [hidentity, hdetection]
    exact hvalid.identity
  · rw [hincident, hdetection]
    exact hvalid.incident_id

/-! ### Attaching

The conditions on the right are about the record and the evaluation as they are. The way from them
to a success goes through each check of the source, and the way back inverts the checks. -/

theorem parseReference_exists {artifact_ref : Option PyStr} :
    (∃ r, parseReference artifact_ref = .ok r) ↔
      ∀ value ∈ artifact_ref, ∃ normalized, validateReference value = .ok normalized := by
  cases artifact_ref with
  | none => simp [parseReference]
  | some value =>
      simp only [Option.mem_def, Option.some.injEq, forall_eq', parseReference]
      constructor
      · rintro ⟨r, h⟩
        split at h
        · rename_i normalized hok
          exact ⟨normalized, hok⟩
        · simp at h
      · rintro ⟨normalized, hok⟩
        split
        · exact ⟨_, rfl⟩
        · rename_i error herror
          rw [hok] at herror
          simp at herror

/-- What attaching a new evaluation comes down to: the checks of the function in their order, a
transition for the status, and a record that can be materialised. -/
theorem attachNewRecovery_eq_ok {latest : RecoverySourceBundleReference} {record' : IncidentRecord}
    {artifact_ref : Option PyStr} (hlatest : evaluation.source_bundles.getLast? = some latest)
    (htime : latest.collection_completed_at = .aware observed_at) :
    attachNewRecovery rt record evaluation artifact_ref = .ok record' ↔
      checkRecovery record evaluation = .ok () ∧
      checkRecoveryTime record (.aware observed_at) = .ok () ∧
      ∃ r, parseReference artifact_ref = .ok r ∧
        (recoveryRef rt evaluation observed_at r).validate = .ok () ∧
        (observationOf evaluation observed_at latest.actual_source_bundle_sha256).validate = .ok () ∧
        ∃ transition, TransitionOf record evaluation transition ∧
          materialize rt (withRecovery rt record evaluation (recoveryRef rt evaluation observed_at r)
            (observationOf evaluation observed_at latest.actual_source_bundle_sha256) transition)
              = .ok record' := by
  simp only [attachNewRecovery, hlatest, htime, bind_ok, Timestamp.requireAware,
    recoveryTransition_eq_ok, Unique.exists_iff, Except.ok.injEq, exists_eq_left']

/-- The evaluation is in the record. -/
def AlreadyAttached (rt : OpsRuntime) (record : IncidentRecord) (evaluation : RecoveryEvaluation) :
    Prop :=
  ∃ x ∈ record.recovery.evaluations, x.evaluation_id = evaluation.recovery_evaluation_id ∧
    x.artifact_sha256 = rt.sha256 evaluation

/-- The conditions on an evaluation that is not in the record. An unknown state may have at most
31 reason codes, since its event has one more and takes 32 of them; the reference has to be valid,
and no digest may collide. -/
structure CanAttach (rt : OpsRuntime) (record : IncidentRecord) (evaluation : RecoveryEvaluation)
    (observed_at : Aware) (artifact_ref : Option PyStr) : Prop where
  new : ∀ x ∈ record.recovery.evaluations, x.evaluation_id ≠ evaluation.recovery_evaluation_id
  few_reasons : evaluation.state = .workerBacklogUnknown → evaluation.reason_codes.length ≤ 31
  reference : ∀ value ∈ artifact_ref, ∃ normalized, validateReference value = .ok normalized
  digests : ∀ transition, TransitionOf record evaluation transition →
    NoCollision rt record (recoveryEvents evaluation observed_at transition)

section Attaching

variable {activation : SequenceConditionEvaluation} {incident_id : PyStr}
  {artifact_ref : Option PyStr}

/-- The evaluator's own evaluation passes the checks against the incident. -/
theorem checkRecovery_evaluated {as : List Attempt} (hlived : Lived rt activation as record)
    (hevaluated : Evaluated rt activation incident_id evaluation)
    (hincident : record.detection.source_incident_id = some incident_id) :
    checkRecovery record evaluation = .ok () := by
  simp only [checkRecovery, bind_ok, ensure_eq_ok]
  refine ⟨(), ?_, (), rfl, (), rfl, (), ?_, ?_⟩
  · rw [hevaluated.incident_id, hincident]
  · rw [hevaluated.evaluation_id, hlived.activation.1]
  · rw [hevaluated.digests, hlived.activation.2]

theorem checkRecoveryTime_ordered (hhistory : History rt record)
    (horder : ∀ e ∈ record.timeline, e.observed_at.instant ≤ observed_at.instant) :
    checkRecoveryTime record (.aware observed_at) = .ok () := by
  have hordered : ∀ e ∈ record.timeline, ¬observed_at.instant < e.observed_at.instant :=
    fun e he => not_lt.mpr (horder e he)
  have hne : record.timeline ≠ [] :=
    List.ne_nil_of_length_pos (Nat.lt_of_lt_of_le (by decide) hhistory.valid.timeline_length.1)
  obtain ⟨lastEvent, hlastEvent⟩ : ∃ e, record.timeline.getLast? = some e :=
    ⟨_, List.getLast?_eq_getLast_of_ne_nil hne⟩
  have hevent := hordered lastEvent (List.mem_of_getLast? hlastEvent)
  cases hlast : record.recovery.evaluations.getLast? with
  | none =>
      simp [checkRecoveryTime, hlast, hlastEvent, Timestamp.lt, hevent, ensure, bind, Except.bind]
  | some last =>
      obtain ⟨e, he, hsame⟩ := hhistory.times last (List.mem_of_getLast? hlast)
      have hevaluation := hsame ▸ hordered e he
      simp [checkRecoveryTime, hlast, hlastEvent, Timestamp.lt, hevent, hevaluation, ensure, bind,
        Except.bind]

theorem recoveryRef_validate (hevaluated : Evaluated rt activation incident_id evaluation)
    (r : Option ArtifactRef) : (recoveryRef rt evaluation observed_at r).validate = .ok () := by
  simp only [IncidentRecoveryEvaluation.validate, textLength, listLength, bind_ok, ensure_eq_ok]
  refine ⟨(), ?_, (), hevaluated.evaluator_version, (), hevaluated.ruleset_version, ?_⟩
  · show 1 ≤ evaluation.policy.policy_version.length ∧ evaluation.policy.policy_version.length ≤ 128
    cases evaluation.policy <;> decide
  · simpa [recoveryRef] using hevaluated.bundles

theorem observationOf_validate {digest : Sha256} :
    (observationOf evaluation observed_at digest).validate = .ok () ↔
      evaluation.reason_codes.length ≤ 64 := by
  simp only [CurrentIncidentObservation.validate, listLength, bind_ok, ensure_eq_ok,
    Unique.exists_iff]
  simp [observationOf]

/-- A new evaluation can be attached under these conditions. -/
theorem attach_of_canAttach {as : List Attempt} {latest : RecoverySourceBundleReference}
    (hlived : Lived rt activation as record) (hhistory : History rt record)
    (hroom : record.recovery.evaluations.length < 256)
    (hevaluated : Evaluated rt activation incident_id evaluation)
    (hincident : record.detection.source_incident_id = some incident_id)
    (hlatest : evaluation.source_bundles.getLast? = some latest)
    (htime : latest.collection_completed_at = .aware observed_at)
    (horder : ∀ e ∈ record.timeline, e.observed_at.instant ≤ observed_at.instant)
    (h : CanAttach rt record evaluation observed_at artifact_ref) :
    ∃ record', attachNewRecovery rt record evaluation artifact_ref = .ok record' := by
  obtain ⟨r, hr⟩ := parseReference_exists.mpr h.reference
  -- 31 codes leave room for the reason that an observation adds
  have hbound : evaluation.reason_codes.length ≤ 31 := by
    by_cases hunknown : evaluation.state = .workerBacklogUnknown
    · exact h.few_reasons hunknown
    · exact (hevaluated.few_reasons hunknown).trans (by decide)
  -- RECOVERED asks for the second policy, which an evaluation in that state has
  obtain ⟨transition, htransition⟩ : ∃ transition, TransitionOf record evaluation transition := by
    by_cases hclosed : record.lifecycle_state = .closed
    · exact ⟨_, .observed hclosed⟩
    · cases hstate : evaluation.state with
      | workerBacklogActive => exact ⟨_, .active hclosed hstate⟩
      | workerBacklogRecovering => exact ⟨_, .recovering hclosed hstate⟩
      | workerBacklogUnknown => exact ⟨_, .unknown hclosed hstate⟩
      | workerBacklogRecovered =>
          exact ⟨_, .recovered hclosed hstate (hevaluated.recovered hstate)⟩
  have hopen : record.lifecycle_state ≠ .closed →
      ∀ e ∈ record.timeline, e.event_type ≠ .closed := by
    intro hopen
    cases hlived.phase with
    | opened hstate hnone hnone' hevents => exact hevents
    | closed pre recovered closed post ev ref hclosed => exact absurd hclosed hopen
  have hobservation :
      (observationOf evaluation observed_at latest.actual_source_bundle_sha256).validate = .ok () :=
    observationOf_validate.mpr (hbound.trans (by decide))
  have hvalid : ValidIncident rt (withRecovery rt record evaluation
      (recoveryRef rt evaluation observed_at r)
      (observationOf evaluation observed_at latest.actual_source_bundle_sha256) transition) :=
    validIncident_withRecovery hhistory hopen hlived.phase.not_recovered hroom h.new rfl
      (recoveryRef_validate hevaluated r) hobservation htransition
      (recoveryEvents_valid hevaluated h.few_reasons htransition) horder
      (h.digests transition htransition)
  exact ⟨_, (attachNewRecovery_eq_ok hlatest htime).mpr
    ⟨checkRecovery_evaluated hlived hevaluated hincident,
      checkRecoveryTime_ordered hhistory horder, r, hr, recoveryRef_validate hevaluated r,
      hobservation, transition, htransition, materialize_eq_ok.mpr ⟨hvalid, rfl⟩⟩⟩

/-- An evaluation that was attached as a new one met the conditions. -/
theorem canAttach_of_attach {record' : IncidentRecord} {latest : RecoverySourceBundleReference}
    (hhistory : History rt record)
    (hnew : ∀ x ∈ record.recovery.evaluations,
      x.evaluation_id ≠ evaluation.recovery_evaluation_id)
    (hlatest : evaluation.source_bundles.getLast? = some latest)
    (htime : latest.collection_completed_at = .aware observed_at)
    (h : attachNewRecovery rt record evaluation artifact_ref = .ok record') :
    CanAttach rt record evaluation observed_at artifact_ref := by
  obtain ⟨-, -, r, hr, -, -, transition, htransition, hmaterialize⟩ :=
    (attachNewRecovery_eq_ok hlatest htime).mp h
  have hvalid := (materialize_eq_ok.mp hmaterialize).1
  have htimeline := hvalid.timeline
  have hids := hvalid.event_ids
  rw [withRecovery_timeline] at htimeline hids
  refine ⟨hnew, fun hunknown => ?_, parseReference_exists.mp ⟨r, hr⟩, fun transition' h' => ?_⟩
  · have hfirst := htimeline (event rt ⟨transition.1, observed_at,
      evaluation.recovery_evaluation_id.text, transition.2.1, transition.2.2⟩)
      (List.mem_append_right _ (List.mem_map_of_mem List.mem_cons_self))
    have hcodes := (event_validate.mp hfirst).2.2
    cases htransition with
    | observed => exact Nat.le_of_succ_le_succ hcodes
    | unknown => exact Nat.le_of_succ_le_succ hcodes
    | active hopen hstate => simp [hunknown] at hstate
    | recovering hopen hstate => simp [hunknown] at hstate
    | recovered hopen hstate => simp [hunknown] at hstate
  · have hsame := (recoveryTransition_eq_ok.mpr h').symm.trans
      (recoveryTransition_eq_ok.mpr htransition)
    rw [Except.ok.inj hsame]
    exact (eventIds_nodup hhistory hnew htransition).mp hids

/-- What was attached as a new evaluation was a new one. -/
theorem new_of_attach {record' : IncidentRecord} {latest : RecoverySourceBundleReference}
    (hlatest : evaluation.source_bundles.getLast? = some latest)
    (htime : latest.collection_completed_at = .aware observed_at)
    (h : attachNewRecovery rt record evaluation artifact_ref = .ok record') :
    ∀ x ∈ record.recovery.evaluations, x.evaluation_id ≠ evaluation.recovery_evaluation_id := by
  obtain ⟨-, -, r, -, -, -, transition, -, hmaterialize⟩ :=
    (attachNewRecovery_eq_ok hlatest htime).mp h
  have hids := (materialize_eq_ok.mp hmaterialize).1.evaluation_ids
  rw [withRecovery_evaluations, List.map_append, List.nodup_append] at hids
  intro x hx
  exact hids.2.2 _ (List.mem_map_of_mem hx) _ (List.mem_singleton_self _)

end Attaching

/-- **Attaching an evaluation of the incident.** In every record an incident goes
through, with room for one more evaluation, an evaluation of its activation that ends no
earlier than the timeline can be attached exactly when it is attached already or meets the
conditions: an UNKNOWN one has at most 31 reason codes.

The record is lived (`lived_attemptAll`) and has a history (`history_attemptAll`), whatever was
attempted before. `attachRecoveryEvaluation_ok` splits a success into the two cases on the right;
the other way an attached evaluation returns the record as it is, and `attach_of_canAttach` builds
the new record and checks each of its validators. -/
theorem recovery_attachment {core : CoreEvaluator} {activation : SequenceConditionEvaluation}
    {provenance : IncidentProvenance} {activation_ref artifact_ref : Option PyStr}
    {created : IncidentRecord} {incident_id : PyStr} {bundles : List EvidenceBundle}
    {digests : List PyStr} {policy : RecoveryEvaluationPolicy} {evaluation : RecoveryEvaluation}
    {latest : RecoverySourceBundleReference} {observed_at : Aware}
    (hcreate : createIncident rt activation provenance activation_ref = .ok created)
    (as : List Attempt)
    (hroom : (attemptAll rt created as).recovery.evaluations.length < 256)
    (hevaluate : evaluateRecovery rt core incident_id activation bundles digests policy
      = .ok evaluation)
    (hincident : (attemptAll rt created as).detection.source_incident_id = some incident_id)
    (hlatest : evaluation.source_bundles.getLast? = some latest)
    (htime : latest.collection_completed_at = .aware observed_at)
    (horder : ∀ e ∈ (attemptAll rt created as).timeline.getLast?,
      e.observed_at.instant ≤ observed_at.instant) :
    (∃ record', attachRecoveryEvaluation rt (attemptAll rt created as) evaluation artifact_ref
        = .ok record') ↔
      AlreadyAttached rt (attemptAll rt created as) evaluation ∨
        CanAttach rt (attemptAll rt created as) evaluation observed_at artifact_ref := by
  have hlived := lived_attemptAll (lived_createIncident hcreate) as
  have hhistory := history_attemptAll hcreate as
  have hevaluated := evaluated_of_ok hevaluate
  generalize attemptAll rt created as = record at *
  -- the timeline is ordered, so that its last event is the latest
  have horder' : ∀ e ∈ record.timeline, e.observed_at.instant ≤ observed_at.instant := by
    intro e he
    refine instant_le_getLast hhistory.valid.chronological ?_ _ (List.mem_map_of_mem he)
    rw [List.getLast?_map]
    intro last hlast
    obtain ⟨e', he', rfl⟩ := Option.map_eq_some_iff.mp hlast
    exact horder e' he'
  constructor
  · rintro ⟨record', h⟩
    by_cases hnew : ∀ x ∈ record.recovery.evaluations,
        x.evaluation_id ≠ evaluation.recovery_evaluation_id
    · obtain ⟨-, ⟨-, hattached⟩ | hattach⟩ := attachRecoveryEvaluation_ok h
      · exact Or.inl hattached
      · exact Or.inr (canAttach_of_attach hhistory hnew hlatest htime hattach)
    · obtain ⟨-, ⟨-, hattached⟩ | hattach⟩ := attachRecoveryEvaluation_ok h
      · exact Or.inl hattached
      · exact absurd (new_of_attach hlatest htime hattach) hnew
  · rintro (hattached | hcan)
    · exact ⟨record, attach_attached hlived (a := .recovery evaluation none)
        ⟨hevaluated.integrity, hattached⟩ artifact_ref⟩
    · obtain ⟨record', hattach⟩ := attach_of_canAttach hlived hhistory hroom hevaluated hincident
        hlatest htime horder' hcan
      -- no evaluation has this id: the attachment goes on to the new one
      have hfind : record.recovery.evaluations.reverse.find?
          (·.evaluation_id = evaluation.recovery_evaluation_id) = none :=
        List.find?_eq_none.mpr fun x hx => by simpa using hcan.new x (List.mem_reverse.mp hx)
      refine ⟨record', ?_⟩
      simp only [attachRecoveryEvaluation, hlived.integrity, hevaluated.integrity, bind,
        Except.bind, hfind]
      exact hattach

/-! ### Evaluations with many reason codes -/

/-- A runtime that tells apart the artifacts of an incident with one evaluation. -/
def attachmentRuntime : OpsRuntime :=
  { sampleOpsRuntime with
    sha256 := fun
      | .event ⟨.observationUpdated, _, _, _, _⟩ => repeatedDigest '6'
      | .recoveryPayload _ => repeatedDigest 'f'
      | artifact => sampleOpsRuntime.sha256 artifact }

/-- A bundle of another cluster, with a lag series for each of some partitions. -/
def strayBundle (partitions : Nat) : EvidenceBundle :=
  { sampleBundle 16 with
    cluster_profile := "local"
    evidence := (List.range partitions).map fun n =>
      sampleKafka "kafka_consumergroup_lag" (natStr n) 0 0 ⟨16000000, 0⟩ }

/-- The evaluation of one such bundle. -/
def strayEvaluation (partitions : Nat) : Except OpsExc RecoveryEvaluation :=
  evaluateRecovery attachmentRuntime (Evaluator.coreEvaluator decimalResult attachmentRuntime)
    "incident-1" sampleActivation [strayBundle partitions] [(repeatedDigest '0').text] .v2

/-- What the two results say about a fresh incident and the evaluation: whether it is
attached, its state and its number of codes. -/
def attachmentSummary (record : IncidentRecord) (evaluation : RecoveryEvaluation) :
    Bool × RecoveryState × Nat :=
  ((attachRecoveryEvaluation attachmentRuntime record evaluation none).isOk, evaluation.state,
    evaluation.reason_codes.length)

/-- The hypotheses of an attachment, at a fresh incident and an evaluation. -/
def FreshAttachment (record : IncidentRecord) (evaluation : RecoveryEvaluation) : Prop :=
  record.recovery.evaluations = [] ∧
    record.detection.source_incident_id = some (PyStr.ofString "incident-1") ∧
    (evaluation.source_bundles.getLast?.map (·.collection_completed_at)
      = some (.aware ⟨16000000, 0⟩)) ∧
    ∀ e ∈ record.timeline.getLast?, e.observed_at.instant ≤ 16000000

instance (record : IncidentRecord) (evaluation : RecoveryEvaluation) :
    Decidable (FreshAttachment record evaluation) := by
  unfold FreshAttachment
  infer_instance

/-- A fresh incident, the evaluation of some stray partitions, and what attaching it
gives. -/
def strayAttachment (partitions : Nat) : Except OpsExc ((Bool × RecoveryState × Nat) × Bool) := do
  let record ← createIncident attachmentRuntime sampleActivation sampleProvenance none
  let evaluation ← strayEvaluation partitions
  return (attachmentSummary record evaluation, decide (FreshAttachment record evaluation))

theorem strayAttachment_ok {partitions : Nat} {summary : Bool × RecoveryState × Nat}
    (h : (strayAttachment partitions).toOption = some (summary, true)) :
    ∃ record evaluation,
      createIncident attachmentRuntime sampleActivation sampleProvenance none = .ok record ∧
      strayEvaluation partitions = .ok evaluation ∧
      attachmentSummary record evaluation = summary ∧ FreshAttachment record evaluation := by
  cases hattachment : strayAttachment partitions with
  | error e => simp [hattachment, Except.toOption] at h
  | ok result =>
      obtain rfl : result = (summary, true) := by simpa [hattachment, Except.toOption] using h
      simp only [strayAttachment, bind_ok, pure_ok, Prod.mk.injEq, decide_eq_true_eq]
        at hattachment
      obtain ⟨record, hcreate, evaluation, hevaluate, hsummary, hfresh⟩ := hattachment
      exact ⟨record, evaluation, hcreate, hevaluate, hsummary, hfresh⟩

theorem strayAttachment_8 : (strayAttachment 8).toOption
    = some ((true, .workerBacklogUnknown, 19), true) := by
  decide +kernel

theorem strayAttachment_24 : (strayAttachment 24).toOption
    = some ((false, .workerBacklogUnknown, 36), true) := by
  decide +kernel

/-- A fresh incident takes the evaluation of eight stray partitions. -/
theorem recovery_attachment_sample :
    ∃ record evaluation,
      createIncident attachmentRuntime sampleActivation sampleProvenance none = .ok record ∧
      strayEvaluation 8 = .ok evaluation ∧ evaluation.state = .workerBacklogUnknown ∧
      (AlreadyAttached attachmentRuntime record evaluation ∨
        CanAttach attachmentRuntime record evaluation ⟨16000000, 0⟩ none) := by
  obtain ⟨record, evaluation, hcreate, hevaluate, hsummary, hempty, hincident, hlast, horder⟩ :=
    strayAttachment_ok strayAttachment_8
  obtain ⟨latest, hlatest, htime⟩ := Option.map_eq_some_iff.mp hlast
  simp only [attachmentSummary, Prod.mk.injEq] at hsummary
  obtain ⟨hattached, hunknown, -⟩ := hsummary
  cases hattach : attachRecoveryEvaluation attachmentRuntime record evaluation none with
  | error e => simp [hattach, Except.isOk, Except.toBool] at hattached
  | ok record' =>
      exact ⟨record, evaluation, hcreate, hevaluate, hunknown,
        (recovery_attachment hcreate [] (by simp [attemptAll, hempty]) hevaluate hincident hlatest
          htime horder).mp ⟨record', hattach⟩⟩

/-- An evaluation of a fresh incident that it cannot take: 24 stray partitions make 36
reason codes. -/
theorem recovery_not_attached :
    ∃ record evaluation,
      createIncident attachmentRuntime sampleActivation sampleProvenance none = .ok record ∧
      strayEvaluation 24 = .ok evaluation ∧ FreshAttachment record evaluation ∧
      evaluation.state = .workerBacklogUnknown ∧ evaluation.reason_codes.length = 36 ∧
      ∀ record', attachRecoveryEvaluation attachmentRuntime record evaluation none
        ≠ .ok record' := by
  obtain ⟨record, evaluation, hcreate, hevaluate, hsummary, hfresh⟩ :=
    strayAttachment_ok strayAttachment_24
  simp only [attachmentSummary, Prod.mk.injEq] at hsummary
  obtain ⟨hnot, hunknown, hcodes⟩ := hsummary
  refine ⟨record, evaluation, hcreate, hevaluate, hfresh, hunknown, hcodes, ?_⟩
  intro record' hattach
  simp [hattach, Except.isOk, Except.toBool] at hnot

end EventPipeline.Guarantees
