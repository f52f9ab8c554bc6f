import EventPipeline.OpsAgent.IncidentLifecycle

/-!
# EventPipeline.Guarantees.IncidentLifecycle

The life of an incident: any diagnoses and recovery evaluations, in any order and any
number of times, attached to what `create_incident` returned.

`attachDiagnosis_ok` and `attachRecoveryEvaluation_ok` say what a successful attachment
has done; the invariant `Lived` is kept by both, and `incident_lifecycle` collects what
it means for the record and for the next attempt.
-/

namespace EventPipeline.Guarantees

open EventPipeline.Python EventPipeline.OpsAgent

variable {rt : OpsRuntime}

/-! ### Attempts

An attempt is a diagnosis or a recovery evaluation with its reference. One that raises leaves the
record as it was, so that a life is a fold over the attempts. -/

/-- One attempt to attach an artifact. -/
inductive Attempt
  | diagnosis (run : DiagnosisRun) (artifact_ref : Option PyStr)
  | recovery (evaluation : RecoveryEvaluation) (artifact_ref : Option PyStr)

/-- The attempt under another reference. -/
def Attempt.withRef (artifact_ref : Option PyStr) : Attempt → Attempt
  | .diagnosis run _ => .diagnosis run artifact_ref
  | .recovery evaluation _ => .recovery evaluation artifact_ref

/-- What an attempt returns or raises. -/
def attach (rt : OpsRuntime) (record : IncidentRecord) : Attempt → Except OpsExc IncidentRecord
  | .diagnosis run artifact_ref => attachDiagnosis rt record run artifact_ref
  | .recovery evaluation artifact_ref => attachRecoveryEvaluation rt record evaluation artifact_ref

/-- The record after an attempt: an attempt that raises keeps the record. -/
def attempt (rt : OpsRuntime) (record : IncidentRecord) (a : Attempt) : IncidentRecord :=
  match attach rt record a with
  | .ok record' => record'
  | .error _ => record

/-- The record after a sequence of attempts. -/
def attemptAll (rt : OpsRuntime) (record : IncidentRecord) (as : List Attempt) : IncidentRecord :=
  as.foldl (attempt rt) record

theorem attemptAll_append (record : IncidentRecord) (as bs : List Attempt) :
    attemptAll rt record (as ++ bs) = attemptAll rt (attemptAll rt record as) bs :=
  List.foldl_append

/-! ### What a successful attachment has done -/

/-- A materialised record is the payload with its digest, and it is valid. -/
theorem materialize_ok {payload : IncidentPayload} {record : IncidentRecord}
    (h : materialize rt payload = .ok record) :
    record = ⟨payload, rt.sha256 payload⟩ ∧ record.validate rt false = .ok () := by
  simp only [materialize, bind_ok, pure_ok] at h
  obtain ⟨_, -, _, hvalid, rfl⟩ := h
  exact ⟨rfl, hvalid⟩

/-- A valid record is chronological, has its evaluations once each and verifies. -/
theorem validate_ok {record : IncidentRecord} (h : record.validate rt false = .ok ()) :
    Chronological (record.timeline.map (·.observed_at)) ∧
      (record.recovery.evaluations.map (·.evaluation_id)).Nodup ∧
      record.verifyIntegrity rt = .ok () := by
  simp only [IncidentRecord.validate, bind_ok, ensure_eq_ok, Bool.false_eq_true, if_false] at h
  obtain ⟨_, -, _, -, _, htimes, _, -, _, -, _, hids, _, -, _, -, _, -, _, -, hverified⟩ := h
  exact ⟨htimes, hids, hverified⟩

theorem attachDiagnosis_ok {record record' : IncidentRecord} {run : DiagnosisRun}
    {artifact_ref : Option PyStr} (h : attachDiagnosis rt record run artifact_ref = .ok record') :
    run.verifyIntegrity rt = .ok () ∧
      ((record' = record ∧ ∃ d, record.diagnosis = some d ∧ d.diagnosis_id = run.diagnosis_id ∧
          d.artifact_sha256 = rt.sha256 run) ∨
        (record.diagnosis = none ∧ record.lifecycle_state ≠ .closed ∧
          ∃ r, materialize rt (withDiagnosis rt record run r) = .ok record')) := by
  simp only [attachDiagnosis, bind_ok] at h
  obtain ⟨_, -, _, hrun, h⟩ := h
  refine ⟨hrun, ?_⟩
  split at h
  · rename_i d hd
    split_ifs at h with hid
    simp only [bind_ok, ensure_eq_ok, pure_ok] at h
    obtain ⟨_, hdigest, rfl⟩ := h
    exact Or.inl ⟨rfl, d, hd, hid, hdigest⟩
  · rename_i hnone
    simp only [bind_ok, checkDiagnosis, ensure_eq_ok] at h
    obtain ⟨_, ⟨_, hopen, -⟩, r, -, _, -, h⟩ := h
    exact Or.inr ⟨hnone, hopen, r, h⟩

/-- A new evaluation is of this incident and its activation. -/
structure EvaluationOf (record : IncidentRecord) (evaluation : RecoveryEvaluation) : Prop where
  incident_id : some evaluation.incident_id = record.detection.source_incident_id
  evaluation_id : evaluation.activation.evaluation_id = record.detection.condition_evaluation_id
  digests : evaluation.activation.source_bundle_digests = record.detection.source_bundle_digests

theorem attachNewRecovery_ok {record record' : IncidentRecord} {evaluation : RecoveryEvaluation}
    {artifact_ref : Option PyStr}
    (h : attachNewRecovery rt record evaluation artifact_ref = .ok record') :
    EvaluationOf record evaluation ∧ ∃ observed_at r observation transition,
      recoveryTransition record evaluation = .ok transition ∧
      materialize rt (withRecovery rt record evaluation (recoveryRef rt evaluation observed_at r)
        observation transition) = .ok record' := by
  simp only [attachNewRecovery, bind_ok] at h
  obtain ⟨_, hcheck, h⟩ := h
  simp only [checkRecovery, bind_ok, ensure_eq_ok] at hcheck
  obtain ⟨_, hincident, _, -, _, -, _, hactivation, hdigests⟩ := hcheck
  split at h
  · simp at h
  · simp only [bind_ok] at h
    obtain ⟨_, -, observed_at, -, r, -, _, -, _, -, transition, htransition, h⟩ := h
    exact ⟨⟨hincident, hactivation, hdigests⟩, observed_at, r, _, transition, htransition, h⟩

theorem attachRecoveryEvaluation_ok {record record' : IncidentRecord}
    {evaluation : RecoveryEvaluation} {artifact_ref : Option PyStr}
    (h : attachRecoveryEvaluation rt record evaluation artifact_ref = .ok record') :
    evaluation.verifyIntegrity rt = .ok () ∧
      ((record' = record ∧ ∃ x ∈ record.recovery.evaluations,
          x.evaluation_id = evaluation.recovery_evaluation_id ∧
          x.artifact_sha256 = rt.sha256 evaluation) ∨
        attachNewRecovery rt record evaluation artifact_ref = .ok record') := by
  simp only [attachRecoveryEvaluation, bind_ok] at h
  obtain ⟨_, -, _, hevaluation, h⟩ := h
  refine ⟨hevaluation, ?_⟩
  split at h
  · rename_i x hx
    simp only [bind_ok, ensure_eq_ok, pure_ok] at h
    obtain ⟨_, hdigest, rfl⟩ := h
    refine Or.inl ⟨rfl, x, List.mem_reverse.mp (List.mem_of_find?_eq_some hx), ?_, hdigest⟩
    simpa using List.find?_some hx
  · exact Or.inr h

/-! ### One attempt

What an attempt keeps, and the three ways in which a new evaluation changes an incident: it is
observed on one that is closed, it moves one that stays open, or it closes one that has recovered.
-/

/-- What an attempt keeps: the timeline and the evaluations grow at their ends, a
diagnosis stays, and a closed incident stays closed the way it was closed. -/
structure Extends (before after : IncidentRecord) : Prop where
  timeline : before.timeline <+: after.timeline
  evaluations : before.recovery.evaluations <+: after.recovery.evaluations
  detection : after.detection = before.detection
  diagnosis : ∀ d, before.diagnosis = some d → after.diagnosis = some d
  closed : before.lifecycle_state = .closed →
    after.lifecycle_state = .closed ∧ after.outcome = before.outcome ∧
      after.closed_at = before.closed_at ∧ after.diagnosis = before.diagnosis ∧
      ∃ added, after.timeline = before.timeline ++ added ∧
        ∀ e ∈ added, e.event_type = .observationUpdated

theorem Extends.refl (record : IncidentRecord) : Extends record record :=
  ⟨List.prefix_refl _, List.prefix_refl _, rfl, fun _ h => h,
    fun h => ⟨h, rfl, rfl, rfl, [], by simp, by simp⟩⟩

/-- The three ways a new evaluation changes an incident. -/
inductive RecoveryEffect (record record' : IncidentRecord) (evaluation : RecoveryEvaluation) : Prop
  | observed (e) : record.lifecycle_state = .closed → record'.lifecycle_state = .closed →
      record'.outcome = record.outcome → record'.closed_at = record.closed_at →
      record'.timeline = record.timeline ++ [e] → e.event_type = .observationUpdated →
      RecoveryEffect record record' evaluation
  | moved (e) : record.lifecycle_state ≠ .closed →
      (record'.lifecycle_state = .active ∨ record'.lifecycle_state = .recovering ∨
        record'.lifecycle_state = record.lifecycle_state) →
      record'.outcome = record.outcome → record'.closed_at = record.closed_at →
      record'.timeline = record.timeline ++ [e] → e.event_type ≠ .closed →
      e.event_type ≠ .diagnosisAttached → RecoveryEffect record record' evaluation
  | closed (recovered closed) : record.lifecycle_state ≠ .closed →
      record'.lifecycle_state = .closed → record'.outcome = some .recovered →
      record'.closed_at = some closed.observed_at →
      record'.timeline = record.timeline ++ [recovered, closed] →
      recovered.event_type = .recovered → closed.event_type = .closed →
      recovered.artifact_id = evaluation.recovery_evaluation_id.text →
      closed.artifact_id = evaluation.recovery_evaluation_id.text →
      evaluation.state = .workerBacklogRecovered → evaluation.policy = .v2 →
      RecoveryEffect record record' evaluation

/-- A new evaluation has one of the effects, and adds itself to the evaluations. -/
theorem recoveryEffect_of_ok {record record' : IncidentRecord} {evaluation : RecoveryEvaluation}
    {artifact_ref : Option PyStr} (hstate : record.lifecycle_state ≠ .recovered)
    (h : attachNewRecovery rt record evaluation artifact_ref = .ok record') :
    RecoveryEffect record record' evaluation ∧ record'.detection = record.detection ∧
      record'.diagnosis = record.diagnosis ∧ ∃ x, x.evaluation_id = evaluation.recovery_evaluation_id ∧
        x.artifact_sha256 = rt.sha256 evaluation ∧
        record'.recovery.evaluations = record.recovery.evaluations ++ [x] := by
  obtain ⟨-, observed_at, r, observation, transition, htransition, hmaterialize⟩ :=
    attachNewRecovery_ok h
  obtain ⟨rfl, -⟩ := materialize_ok hmaterialize
  unfold recoveryTransition at htransition
  by_cases hclosed : record.lifecycle_state = .closed
  · rw [if_pos hclosed] at htransition
    obtain rfl := Except.ok.inj htransition
    exact ⟨.observed _ hclosed rfl rfl rfl rfl rfl, rfl, rfl, _, rfl, rfl, rfl⟩
  · rw [if_neg hclosed] at htransition
    -- an open incident: the state of the evaluation decides the transition
    cases hevaluation : evaluation.state with
    | workerBacklogActive =>
        rw [hevaluation] at htransition
        obtain rfl := Except.ok.inj htransition
        exact ⟨.moved _ hclosed (Or.inl rfl) rfl rfl rfl (by simp [event]) (by simp [event]), rfl,
          rfl, _, rfl, rfl, rfl⟩
    | workerBacklogRecovering =>
        rw [hevaluation] at htransition
        obtain rfl := Except.ok.inj htransition
        exact ⟨.moved _ hclosed (Or.inr (Or.inl rfl)) rfl rfl rfl (by simp [event])
          (by simp [event]), rfl, rfl, _, rfl, rfl, rfl⟩
    | workerBacklogUnknown =>
        rw [hevaluation] at htransition
        obtain rfl := Except.ok.inj htransition
        simp only [withRecovery, if_neg hstate]
        exact ⟨.moved _ hclosed (Or.inr (Or.inr rfl)) rfl rfl rfl (by simp [event])
          (by simp [event]), trivial, trivial, _, rfl, rfl, rfl⟩
    | workerBacklogRecovered =>
        simp only [hevaluation] at htransition
        split_ifs at htransition with hv2
        obtain rfl := Except.ok.inj htransition
        exact ⟨.closed _ _ hclosed rfl rfl rfl (List.append_assoc _ _ _) rfl rfl rfl rfl
          hevaluation (RecoveryEvaluationPolicy.isV2_iff.mp hv2), rfl, rfl, _, rfl, rfl, rfl⟩

/-- A first diagnosis leaves everything but itself and its event alone. -/
theorem diagnosisEffect {record record' : IncidentRecord} {run : DiagnosisRun}
    {r : Option ArtifactRef} (h : materialize rt (withDiagnosis rt record run r) = .ok record') :
    record'.detection = record.detection ∧ record'.lifecycle_state = record.lifecycle_state ∧
      record'.outcome = record.outcome ∧ record'.closed_at = record.closed_at ∧
      record'.recovery = record.recovery ∧ record'.diagnosis = some (diagnosisRef rt run r) ∧
      ∃ e, record'.timeline = record.timeline ++ [e] ∧ e.event_type = .diagnosisAttached := by
  obtain ⟨rfl, -⟩ := materialize_ok h
  exact ⟨rfl, rfl, rfl, rfl, rfl, rfl, _, rfl, rfl⟩

/-! ### The invariant

An incident is open or closed, and a closed one knows the event, the evaluation and the reference
that it was closed by. Every attempt keeps that, and everything is read off it. -/

/-- Where an incident is in its life. A closed one was closed by an evaluation that was
attached to it, recovered, under a v2 policy. -/
inductive Phase (rt : OpsRuntime) (as : List Attempt) (record : IncidentRecord) : Prop
  | opened : record.lifecycle_state = .active ∨ record.lifecycle_state = .recovering →
      record.outcome = none → record.closed_at = none →
      (∀ e ∈ record.timeline, e.event_type ≠ .closed) → Phase rt as record
  | closed (pre recovered closed post) (evaluation : RecoveryEvaluation) (artifact_ref) :
      record.lifecycle_state = .closed → record.outcome = some .recovered →
      record.closed_at = some closed.observed_at →
      record.timeline = pre ++ recovered :: closed :: post →
      (∀ e ∈ pre, e.event_type ≠ .closed) → (∀ e ∈ post, e.event_type ≠ .closed) →
      recovered.event_type = .recovered → closed.event_type = .closed →
      recovered.artifact_id = evaluation.recovery_evaluation_id.text →
      closed.artifact_id = evaluation.recovery_evaluation_id.text →
      .recovery evaluation artifact_ref ∈ as →
      (∃ x ∈ record.recovery.evaluations, x.evaluation_id = evaluation.recovery_evaluation_id ∧
        x.artifact_sha256 = rt.sha256 evaluation) →
      evaluation.state = .workerBacklogRecovered → evaluation.policy = .v2 →
      EvaluationOf record evaluation → Phase rt as record

/-- The artifact of an attempt is in the record. -/
def Attached (rt : OpsRuntime) (record : IncidentRecord) : Attempt → Prop
  | .diagnosis run _ => run.verifyIntegrity rt = .ok () ∧ ∃ d, record.diagnosis = some d ∧
      d.diagnosis_id = run.diagnosis_id ∧ d.artifact_sha256 = rt.sha256 run
  | .recovery evaluation _ => evaluation.verifyIntegrity rt = .ok () ∧
      ∃ x ∈ record.recovery.evaluations, x.evaluation_id = evaluation.recovery_evaluation_id ∧
        x.artifact_sha256 = rt.sha256 evaluation

/-- What holds of an incident created from the activation, after the attempts. The record passes
its own integrity check and still names its activation, its timeline is chronological, an
evaluation is in it at most once, and a diagnosis has exactly one event. `phase` says how the
status follows from the attempts. -/
structure Lived (rt : OpsRuntime) (activation : SequenceConditionEvaluation) (as : List Attempt)
    (record : IncidentRecord) : Prop where
  integrity : record.verifyIntegrity rt = .ok ()
  chronological : Chronological (record.timeline.map (·.observed_at))
  evaluations : (record.recovery.evaluations.map (·.evaluation_id)).Nodup
  activation : record.detection.condition_evaluation_id = activation.evaluation_id ∧
    record.detection.source_bundle_digests = activation.sourceBundleDigests
  phase : Phase rt as record
  diagnoses : (record.timeline.map (·.event_type)).count .diagnosisAttached =
    if record.diagnosis.isSome then 1 else 0

variable {activation : SequenceConditionEvaluation}

theorem Phase.state {as : List Attempt} {record : IncidentRecord} (h : Phase rt as record) :
    record.lifecycle_state = .active ∨ record.lifecycle_state = .recovering ∨
      record.lifecycle_state = .closed := by
  cases h with
  | opened hstate => exact hstate.imp_right Or.inl
  | closed pre recovered closed post evaluation artifact_ref hstate => exact Or.inr (Or.inr hstate)

theorem Phase.not_recovered {as : List Attempt} {record : IncidentRecord} (h : Phase rt as record) :
    record.lifecycle_state ≠ .recovered := by
  rcases h.state with h | h | h <;> simp [h]

/-- A phase lasts while the incident only gains events that close nothing. -/
theorem Phase.append {as : List Attempt} {record record' : IncidentRecord} {a : Attempt}
    {added : List IncidentTimelineEvent} (h : Phase rt as record)
    (htimeline : record'.timeline = record.timeline ++ added)
    (hadded : ∀ e ∈ added, e.event_type ≠ .closed) (houtcome : record'.outcome = record.outcome)
    (hclosed : record'.closed_at = record.closed_at)
    (hstate : record'.lifecycle_state = record.lifecycle_state ∨
      (record.lifecycle_state ≠ .closed ∧
        (record'.lifecycle_state = .active ∨ record'.lifecycle_state = .recovering)))
    (hdetection : record'.detection = record.detection)
    (hevaluations : record.recovery.evaluations <+: record'.recovery.evaluations) :
    Phase rt (as ++ [a]) record' := by
  cases h with
  -- an open incident stays open, or moves between the two open states
  | opened hopen hnone hnone' hevents =>
      refine .opened ?_ (houtcome.trans hnone) (hclosed.trans hnone') fun e he => ?_
      · rcases hstate with hsame | ⟨-, hmoved⟩
        · rw [hsame]
          exact hopen
        · exact hmoved
      · rw [htimeline] at he
        exact (List.mem_append.mp he).elim (hevents e) (hadded e)
  -- a closed one keeps the evaluation and the events that closed it
  | closed pre recovered closed post evaluation artifact_ref hstate' hout hat htl hpre hpost hr hc
      hra hca hmem hx hev hv2 hof =>
      refine .closed pre recovered closed (post ++ added) evaluation artifact_ref ?_
        (houtcome.trans hout) (hclosed.trans hat) ?_ hpre ?_ hr hc hra hca
        (List.mem_append_left _ hmem) ?_ hev hv2 ?_
      · rcases hstate with hsame | ⟨hne, -⟩
        · exact hsame.trans hstate'
        · exact absurd hstate' hne
      · rw [htimeline, htl]
        simp
      · exact fun e he => (List.mem_append.mp he).elim (hpost e) (hadded e)
      · obtain ⟨x, hx, hrest⟩ := hx
        exact ⟨x, hevaluations.subset hx, hrest⟩
      · exact ⟨hdetection ▸ hof.incident_id, hdetection ▸ hof.evaluation_id,
          hdetection ▸ hof.digests⟩

/-- Creation starts a life. -/
theorem lived_createIncident {provenance : IncidentProvenance} {artifact_ref : Option PyStr}
    {record : IncidentRecord}
    (h : createIncident rt activation provenance artifact_ref = .ok record) :
    Lived rt activation [] record := by
  simp only [createIncident, bind_ok] at h
  obtain ⟨_, -, _, -, h⟩ := h
  split at h
  · simp only [bind_ok] at h
    obtain ⟨source_incident_id, -, r, -, _, -, _, -, h⟩ := h
    obtain ⟨hrecord, hvalid⟩ := materialize_ok h
    obtain ⟨hchronological, hids, hverified⟩ := validate_ok hvalid
    subst hrecord
    refine ⟨hverified, hchronological, hids, ⟨rfl, rfl⟩, .opened (Or.inl rfl) rfl rfl ?_, ?_⟩
    · simp [event]
    · simp [event]
  · simp at h

/-- A valid record keeps the unconditional part of the invariant. -/
theorem Lived.of_valid {as : List Attempt} {a : Attempt} {record record' : IncidentRecord}
    (h : Lived rt activation as record) (hvalid : record'.validate rt false = .ok ())
    (hdetection : record'.detection = record.detection) (hphase : Phase rt (as ++ [a]) record')
    (hdiagnoses : (record'.timeline.map (·.event_type)).count .diagnosisAttached =
      if record'.diagnosis.isSome then 1 else 0) : Lived rt activation (as ++ [a]) record' := by
  obtain ⟨hchronological, hids, hverified⟩ := validate_ok hvalid
  exact ⟨hverified, hchronological, hids, hdetection ▸ h.activation, hphase, hdiagnoses⟩

/-- An attempt that changes nothing. -/
theorem Lived.unchanged {as : List Attempt} {record : IncidentRecord}
    (h : Lived rt activation as record) (a : Attempt) : Lived rt activation (as ++ [a]) record :=
  ⟨h.integrity, h.chronological, h.evaluations, h.activation,
    h.phase.append (List.append_nil _).symm (by simp) rfl rfl (Or.inl rfl) rfl
      (List.prefix_refl _), h.diagnoses⟩

/-- Attaching a diagnosis keeps what holds of the record. A diagnosis that is there already
changes nothing; a new one adds its event and leaves the status as it is. -/
theorem lived_attachDiagnosis {as : List Attempt} {record record' : IncidentRecord}
    {run : DiagnosisRun} {artifact_ref : Option PyStr} (hlived : Lived rt activation as record)
    (h : attachDiagnosis rt record run artifact_ref = .ok record') :
    Lived rt activation (as ++ [.diagnosis run artifact_ref]) record' ∧ Extends record record' ∧
      Attached rt record' (.diagnosis run artifact_ref) := by
  obtain ⟨hrun, ⟨rfl, hd⟩ | ⟨hnone, hopen, r, hmaterialize⟩⟩ := attachDiagnosis_ok h
  · exact ⟨hlived.unchanged _, .refl _, hrun, hd⟩
  · obtain ⟨hdetection, hstate, houtcome, hclosed, hrecovery, hdiagnosis, e, htimeline, he⟩ :=
      diagnosisEffect hmaterialize
    have hphase : Phase rt (as ++ [.diagnosis run artifact_ref]) record' := by
      refine hlived.phase.append htimeline ?_ houtcome hclosed (Or.inl hstate) hdetection
        (hrecovery ▸ List.prefix_refl _)
      simp [he]
    have hdiagnoses : (record'.timeline.map (·.event_type)).count .diagnosisAttached =
        if record'.diagnosis.isSome then 1 else 0 := by
      have hbefore := hlived.diagnoses
      rw [hnone] at hbefore
      simp only [Option.isSome_none, Bool.false_eq_true, if_false] at hbefore
      rw [htimeline, List.map_append, List.count_append, hbefore, hdiagnosis]
      simp [he]
    refine ⟨hlived.of_valid (materialize_ok hmaterialize).2 hdetection hphase hdiagnoses,
      ⟨htimeline ▸ List.prefix_append _ _, hrecovery ▸ List.prefix_refl _, hdetection, ?_, ?_⟩,
      hrun, _, hdiagnosis, rfl, rfl⟩
    · simp [hnone]
    · exact fun hstate => absurd hstate hopen

/-- Attaching a recovery evaluation keeps what holds of the record. An evaluation that is there
already changes nothing; of a new one, the cases are those of its effect on the status. -/
theorem lived_attachRecoveryEvaluation {as : List Attempt} {record record' : IncidentRecord}
    {evaluation : RecoveryEvaluation} {artifact_ref : Option PyStr}
    (hlived : Lived rt activation as record)
    (h : attachRecoveryEvaluation rt record evaluation artifact_ref = .ok record') :
    Lived rt activation (as ++ [.recovery evaluation artifact_ref]) record' ∧
      Extends record record' ∧ Attached rt record' (.recovery evaluation artifact_ref) := by
  obtain ⟨hevaluation, ⟨rfl, hx⟩ | hnew⟩ := attachRecoveryEvaluation_ok h
  · exact ⟨hlived.unchanged _, .refl _, hevaluation, hx⟩
  · obtain ⟨heffect, hdetection, hdiagnosis, x, hxid, hxdigest, hevaluations⟩ :=
      recoveryEffect_of_ok hlived.phase.not_recovered hnew
    obtain ⟨hof, observed_at, r, observation, transition, -, hmaterialize⟩ :=
      attachNewRecovery_ok hnew
    have hvalid := (materialize_ok hmaterialize).2
    have hprefix : record.recovery.evaluations <+: record'.recovery.evaluations :=
      hevaluations ▸ List.prefix_append _ _
    have hxmem : x ∈ record'.recovery.evaluations := hevaluations ▸ by simp
    have hattached : Attached rt record' (.recovery evaluation artifact_ref) :=
      ⟨hevaluation, x, hxmem, hxid, hxdigest⟩
    -- whatever the evaluation adds to the timeline, it attaches no diagnosis
    have hdiagnoses : ∀ added : List IncidentTimelineEvent,
        record'.timeline = record.timeline ++ added →
        (∀ e ∈ added, e.event_type ≠ .diagnosisAttached) →
        (record'.timeline.map (·.event_type)).count .diagnosisAttached =
          if record'.diagnosis.isSome then 1 else 0 := by
      intro added htimeline hadded
      have hzero : (added.map (·.event_type)).count .diagnosisAttached = 0 := by
        rw [List.count_eq_zero, List.mem_map]
        rintro ⟨e, he, htype⟩
        exact hadded e he htype
      rw [htimeline, List.map_append, List.count_append, hzero, hdiagnosis, hlived.diagnoses,
        Nat.add_zero]
    cases heffect with
    | observed e hclosed hclosed' houtcome hat htimeline htype =>
        have hphase : Phase rt (as ++ [.recovery evaluation artifact_ref]) record' :=
          hlived.phase.append htimeline (by simp [htype]) houtcome hat
            (Or.inl (hclosed'.trans hclosed.symm)) hdetection hprefix
        refine ⟨hlived.of_valid hvalid hdetection hphase (hdiagnoses _ htimeline (by simp [htype])),
          ⟨htimeline ▸ List.prefix_append _ _, hprefix, hdetection, fun d hd => hdiagnosis.trans hd,
            fun _ => ⟨hclosed', houtcome, hat, hdiagnosis, [e], htimeline, by simp [htype]⟩⟩,
          hattached⟩
    | moved e hopen hmoved houtcome hat htimeline htype htype' =>
        have hphase : Phase rt (as ++ [.recovery evaluation artifact_ref]) record' := by
          refine hlived.phase.append htimeline (by simp [htype]) houtcome hat ?_ hdetection hprefix
          rcases hmoved with hmoved | hmoved | hmoved
          · exact Or.inr ⟨hopen, Or.inl hmoved⟩
          · exact Or.inr ⟨hopen, Or.inr hmoved⟩
          · exact Or.inl hmoved
        refine ⟨hlived.of_valid hvalid hdetection hphase
          (hdiagnoses _ htimeline (by simp [htype'])),
          ⟨htimeline ▸ List.prefix_append _ _, hprefix, hdetection, fun d hd => hdiagnosis.trans hd,
            fun hclosed => absurd hclosed hopen⟩, hattached⟩
    | closed recovered closed hopen hclosed' houtcome hat htimeline hr hc hra hca hstate hv2 =>
        -- an incident that is not closed yet has no event that closes it
        have hbefore : ∀ e ∈ record.timeline, e.event_type ≠ .closed := by
          cases hlived.phase with
          | opened hstate hnone hnone' hevents => exact hevents
          | closed pre r c post ev ref hclosed => exact absurd hclosed hopen
        have hphase : Phase rt (as ++ [.recovery evaluation artifact_ref]) record' :=
          .closed record.timeline recovered closed [] evaluation artifact_ref hclosed' houtcome hat
            htimeline hbefore (by simp) hr hc hra hca (by simp) ⟨x, hxmem, hxid, hxdigest⟩ hstate
            hv2 ⟨hdetection ▸ hof.incident_id, hdetection ▸ hof.evaluation_id,
              hdetection ▸ hof.digests⟩
        refine ⟨hlived.of_valid hvalid hdetection hphase
          (hdiagnoses _ htimeline (by simp [hr, hc])),
          ⟨htimeline ▸ List.prefix_append _ _, hprefix, hdetection, fun d hd => hdiagnosis.trans hd,
            fun hclosed => absurd hclosed hopen⟩, hattached⟩

/-- One attempt of either kind. -/
theorem lived_attach {as : List Attempt} {record record' : IncidentRecord} {a : Attempt}
    (hlived : Lived rt activation as record) (h : attach rt record a = .ok record') :
    Lived rt activation (as ++ [a]) record' ∧ Extends record record' ∧ Attached rt record' a := by
  cases a with
  | diagnosis run artifact_ref => exact lived_attachDiagnosis hlived h
  | recovery evaluation artifact_ref => exact lived_attachRecoveryEvaluation hlived h

theorem lived_attempt {as : List Attempt} {record : IncidentRecord}
    (hlived : Lived rt activation as record) (a : Attempt) :
    Lived rt activation (as ++ [a]) (attempt rt record a) ∧
      Extends record (attempt rt record a) := by
  unfold attempt
  split
  · rename_i record' h
    obtain ⟨hlived', hextends, -⟩ := lived_attach hlived h
    exact ⟨hlived', hextends⟩
  · exact ⟨hlived.unchanged a, .refl record⟩

/-! ### Every sequence of attempts -/

theorem lived_attemptAll {record : IncidentRecord} (hlived : Lived rt activation [] record)
    (as : List Attempt) : Lived rt activation as (attemptAll rt record as) := by
  induction as using List.reverseRecOn with
  | nil => exact hlived
  | append_singleton as a ih =>
      rw [attemptAll_append]
      exact (lived_attempt ih a).1

/-- What is attached stays attached, because an extension keeps the diagnosis and all evaluations.
-/
theorem Attached.of_extends {record record' : IncidentRecord} {a : Attempt}
    (h : Attached rt record a) (hextends : Extends record record') : Attached rt record' a := by
  cases a with
  | diagnosis run artifact_ref =>
      obtain ⟨hrun, d, hd, hrest⟩ := h
      exact ⟨hrun, d, hextends.diagnosis d hd, hrest⟩
  | recovery evaluation artifact_ref =>
      obtain ⟨hevaluation, x, hx, hrest⟩ := h
      exact ⟨hevaluation, x, hextends.evaluations.subset hx, hrest⟩

theorem attached_attemptAll {as : List Attempt} {record : IncidentRecord} {a : Attempt}
    (hlived : Lived rt activation as record) (h : Attached rt record a) (bs : List Attempt) :
    Attached rt (attemptAll rt record bs) a := by
  induction bs generalizing as record with
  | nil => exact h
  | cons b bs ih =>
      obtain ⟨hlived', hextends⟩ := lived_attempt hlived b
      exact ih hlived' (h.of_extends hextends)

/-- Attaching again what is attached returns the record as it is. -/
theorem attach_attached {as : List Attempt} {record : IncidentRecord} {a : Attempt}
    (hlived : Lived rt activation as record) (h : Attached rt record a)
    (artifact_ref : Option PyStr) : attach rt record (a.withRef artifact_ref) = .ok record := by
  cases a with
  | diagnosis run r =>
      obtain ⟨hrun, d, hd, hid, hdigest⟩ := h
      simp only [Attempt.withRef, attach, attachDiagnosis, hlived.integrity, hrun, hd, hid, hdigest]
      simp [bind, Except.bind, ensure, pure, Except.pure]
  | recovery evaluation r =>
      obtain ⟨hevaluation, x, hx, hid, hdigest⟩ := h
      have hfind : record.recovery.evaluations.reverse.find?
          (fun y => y.evaluation_id = evaluation.recovery_evaluation_id) = some x := by
        cases hfound : record.recovery.evaluations.reverse.find?
            (fun y => y.evaluation_id = evaluation.recovery_evaluation_id) with
        | none =>
            have hnone := List.find?_eq_none.mp hfound x (List.mem_reverse.mpr hx)
            simp [hid] at hnone
        | some y =>
            have hy := List.mem_reverse.mp (List.mem_of_find?_eq_some hfound)
            have hyid := List.find?_some hfound
            simp only [decide_eq_true_eq] at hyid
            rw [List.inj_on_of_nodup_map hlived.evaluations hy hx (hyid.trans hid.symm)]
      simp only [Attempt.withRef, attach, attachRecoveryEvaluation, hlived.integrity, hevaluation]
      simp only [bind, Except.bind, hfind, hdigest]
      simp [ensure, pure, Except.pure]

/-- **The life of an incident.** After any attempts the record is in a phase, in order,
with at most one diagnosis; one more attempt extends it; and an attempt that succeeded has
attached its artifact, which stays attached whatever follows: attaching it again, under any
reference, returns the record as it is.

The invariant is `Lived`, which every attempt keeps (`lived_attempt`) and which therefore holds
of the record before, at and after the attempt in question. The artifact is in the record right
after that attempt by `lived_attach`, and it is still there at the end since every later attempt
only extends the record (`attached_attemptAll`). -/
theorem incident_lifecycle {provenance : IncidentProvenance} {artifact_ref : Option PyStr}
    {record : IncidentRecord}
    (hcreate : createIncident rt activation provenance artifact_ref = .ok record)
    (as : List Attempt) :
    Lived rt activation as (attemptAll rt record as) ∧
      (∀ a, Extends (attemptAll rt record as) (attempt rt (attemptAll rt record as) a)) ∧
      ∀ pre a post record', as = pre ++ a :: post →
        attach rt (attemptAll rt record pre) a = .ok record' →
          Attached rt record' a ∧ Attached rt (attemptAll rt record as) a ∧
            ∀ artifact_ref, attach rt (attemptAll rt record as) (a.withRef artifact_ref)
              = .ok (attemptAll rt record as) := by
  have hlived := lived_attemptAll (lived_createIncident hcreate)
  refine ⟨hlived as, fun a => (lived_attempt (hlived as) a).2, ?_⟩
  intro pre a post record' hparts hattach
  subst hparts
  obtain ⟨hlived', -, hattached⟩ := lived_attach (hlived pre) hattach
  have hstep : attempt rt (attemptAll rt record pre) a = record' := by
    simp only [attempt, hattach]
  have hall : attemptAll rt record (pre ++ a :: post) = attemptAll rt record' post := by
    rw [attemptAll_append, attemptAll, List.foldl_cons, hstep]
    rfl
  have hkept := attached_attemptAll hlived' hattached post
  rw [← hall] at hkept
  exact ⟨hattached, hkept, attach_attached (hlived _) hkept⟩

/-- A digest of one repeated digit. -/
def repeatedDigest (c : Char) : Sha256 :=
  if h : isHexDigit (CodePoint.ofChar c) = true then
    ⟨List.replicate 64 (CodePoint.ofChar c), by simp, by simp [h]⟩
  else zeroDigest

/-- A runtime whose digests tell timeline events of different types apart. -/
def sampleOpsRuntime : OpsRuntime where
  sha256
    | .sequencePayload _ => repeatedDigest 'a'
    | .event ⟨.detected, _, _, _, _⟩ => repeatedDigest '1'
    | .event ⟨.active, _, _, _, _⟩ => repeatedDigest '2'
    | .event ⟨.diagnosisAttached, _, _, _, _⟩ => repeatedDigest '3'
    | .event ⟨.recovered, _, _, _, _⟩ => repeatedDigest '4'
    | .event ⟨.closed, _, _, _, _⟩ => repeatedDigest '5'
    | _ => repeatedDigest '0'
  isdigit := isDigits
  upper text := text.map fun c =>
    if 97 ≤ c.val ∧ c.val ≤ 122 then Fin.ofNat _ (c.val - 32) else c
  lower text := text.map lowerAscii
  chars := ⟨fun _ => false, fun _ => none⟩
  containerText _ := "[]"
  repr text := PyStr.ofString "'" ++ text ++ PyStr.ofString "'"
  decimalText value := intStr value.num
  isoformat _ := "1970-01-01T00:00:00+00:00"
  urlsplit _ := none

def sampleActivation : SequenceConditionEvaluation where
  schema_version := "ops.conditions.v2"
  evaluator_version := "ops.evaluator.v2"
  ruleset_version := "ops.conditions.rules.v2"
  policy := ⟨"local-ha", "local-ha.conditions.v2", "kind-messaging-ha", "messaging-app",
    "message-ingress", "message-worker", []⟩
  source_bundles := [⟨"incident-1", repeatedDigest 'b', ⟨1000000, 0⟩, none, []⟩]
  capture_observations := [⟨some (repeatedDigest 'c'), []⟩]
  core_state := .present
  rest := []
  evaluation_id := repeatedDigest 'a'
  source_bundles_length := by decide

def sampleProvenance : IncidentProvenance :=
  ⟨"abcdef0", repeatedDigest 'd', "worker:1", "abcdef0"⟩

def sampleDiagnosis : DiagnosisRun where
  diagnosis_id := repeatedDigest '0'
  condition_evaluation_id := repeatedDigest 'a'
  context := ⟨"local-ha", "kind-messaging-ha", [(repeatedDigest 'b').text], []⟩
  model := "model"
  tool_ids := []
  stop_reason := .sufficientEvidence
  completed_at := ⟨2000000, 0⟩
  validation := ⟨true, true, true, true, true, true⟩
  output_repairs_used := 0
  identified := []
  rest := []

def sampleRecovered : RecoveryEvaluation where
  evaluator_version := "ops.recovery.evaluator.v2"
  ruleset_version := "ops.recovery.rules.v2"
  evaluation_status := .complete
  incident_id := "incident-1"
  activation := ⟨"ops.conditions.v2", repeatedDigest 'a', "ops.evaluator.v2",
    "ops.conditions.rules.v2", "local-ha.conditions.v2", .present, [(repeatedDigest 'b').text],
    .aware ⟨1000000, 0⟩, none, some (repeatedDigest 'c')⟩
  policy := .v2
  state := .workerBacklogRecovered
  reason_codes := ["RECOVERED_ENVELOPE_HELD"]
  source_bundles := [⟨0, "bundle-1", "incident-1", repeatedDigest 'e', repeatedDigest 'e', true,
    .aware ⟨2000000, 0⟩, .aware ⟨3000000, 0⟩, none⟩]
  observations := []
  window := ⟨3, [0], [], none, none, 1⟩
  evidence_ids := []
  recovery_completion := ⟨.complete, []⟩
  recovery_evaluation_id := repeatedDigest '0'

def sampleAttempts : List Attempt :=
  [.diagnosis sampleDiagnosis none, .recovery sampleRecovered none]

/-- An incident that is diagnosed, recovers and is closed. -/
theorem incident_lifecycle_sample :
    ∃ record, createIncident sampleOpsRuntime sampleActivation sampleProvenance none = .ok record ∧
      (attemptAll sampleOpsRuntime record sampleAttempts).lifecycle_state = .closed ∧
      Lived sampleOpsRuntime sampleActivation sampleAttempts
        (attemptAll sampleOpsRuntime record sampleAttempts) := by
  have hstate : ((createIncident sampleOpsRuntime sampleActivation sampleProvenance none).map
      fun record => (attemptAll sampleOpsRuntime record sampleAttempts).lifecycle_state).toOption
        = some .closed := by decide +kernel
  obtain ⟨record, hcreate, hclosed⟩ := exists_of_map_toOption hstate
  exact ⟨record, hcreate, hclosed, (incident_lifecycle hcreate sampleAttempts).1⟩

end EventPipeline.Guarantees
