import EventPipeline.OpsAgent.IncidentLifecycle

/-!
# EventPipeline.OpsAgent.IncidentValidity

What the validators of an incident record accept, as one structure with a field for each
check, so that a proof can say which checks a change of the record touches.
-/

namespace EventPipeline.OpsAgent

open EventPipeline.Python

variable {rt : OpsRuntime}

/-- Every item passes the check. -/
theorem validateAll_eq_ok {α : Type} {check : α → Except OpsExc Unit} {xs : List α} {u : Unit} :
    validateAll check xs = .ok u ↔ ∀ x ∈ xs, check x = .ok () := by
  induction xs with
  | nil => simp [validateAll]
  | cons x xs ih => simp [validateAll, bind_ok, ih, Unique.exists_iff]

/-- A closed incident is closed once, by its CLOSED event, and an open one is not. -/
structure ClosedOnce (payload : IncidentPayload) : Prop where
  outcome : payload.outcome = some .recovered
  recovered : .recovered ∈ payload.timeline.map (·.event_type)
  closed : (payload.timeline.map (·.event_type)).count .closed = 1
  closed_at : ∃ time, payload.closed_at = some time ∧
    (payload.timeline.find? (·.event_type = .closed)).map (·.observed_at.instant)
      = some time.instant

/-- The payload of a record that passes every validator. -/
structure ValidIncident (rt : OpsRuntime) (payload : IncidentPayload) : Prop where
  detection : payload.detection.validate = .ok ()
  diagnosis : ∀ d ∈ payload.diagnosis.toList, d.validate = .ok ()
  evaluations_length : payload.recovery.evaluations.length ≤ 256
  evaluations : ∀ x ∈ payload.recovery.evaluations, x.validate = .ok ()
  observation : ∀ o ∈ payload.current_observation.toList, o.validate = .ok ()
  timeline_length : 2 ≤ payload.timeline.length ∧ payload.timeline.length ≤ 1024
  timeline : ∀ e ∈ payload.timeline, e.validate rt = .ok ()
  provenance : payload.provenance.validate = .ok ()
  created : payload.created_at.instant ≤ payload.detected_at.instant
  chronological : Chronological (payload.timeline.map (·.observed_at))
  event_ids : (payload.timeline.map (·.event_id)).Nodup
  first_events : (payload.timeline.take 2).map (·.event_type) = [.detected, .active]
  evaluation_ids : (payload.recovery.evaluations.map (·.evaluation_id)).Nodup
  evaluation_times : Chronological (payload.recovery.evaluations.map (·.observed_at))
  closed : payload.lifecycle_state = .closed → ClosedOnce payload
  opened : payload.lifecycle_state ≠ .closed → payload.outcome = none ∧ payload.closed_at = none
  identity : payload.incident_identity_sha256 = incidentIdentitySha256 rt payload.detection
  incident_id : payload.incident_id = incidentIdOf (incidentIdentitySha256 rt payload.detection)

theorem validateClosure_eq_ok {record : IncidentRecord} {u : Unit} :
    record.validateClosure = .ok u ↔
      (record.lifecycle_state = .closed → ClosedOnce record.toIncidentPayload) ∧
      (record.lifecycle_state ≠ .closed → record.outcome = none ∧ record.closed_at = none) := by
  unfold IncidentRecord.validateClosure
  by_cases hclosed : record.lifecycle_state = .closed
  · simp only [hclosed, if_true, bind_ok, ensure_eq_ok, ne_eq, not_true_eq_false,
      false_implies, and_true, true_implies]
    constructor
    · rintro ⟨_, ⟨houtcome, hsome⟩, _, ⟨hrecovered, hcount⟩, htime⟩
      obtain ⟨time, htime'⟩ := Option.isSome_iff_exists.mp hsome
      exact ⟨houtcome, hrecovered, hcount, time, htime', by rw [htime, htime']; rfl⟩
    · rintro ⟨houtcome, hrecovered, hcount, time, htime, hfind⟩
      exact ⟨(), ⟨houtcome, by simp [htime]⟩, (), ⟨hrecovered, hcount⟩, by rw [hfind, htime]; rfl⟩
  · simp [hclosed]

theorem verifyIntegrity_eq_ok {record : IncidentRecord} {u : Unit} :
    record.verifyIntegrity rt = .ok u ↔
      record.incident_identity_sha256 = incidentIdentitySha256 rt record.detection ∧
      record.incident_id = incidentIdOf (incidentIdentitySha256 rt record.detection) ∧
      record.incident_record_sha256 = rt.sha256 record.toIncidentPayload := by
  simp [IncidentRecord.verifyIntegrity, bind_ok]

/-- A record passes its validators when its payload is valid and, unless that is
skipped, its digest is that of the payload. -/
theorem validate_eq_ok {record : IncidentRecord} {skip : Bool} {u : Unit} :
    record.validate rt skip = .ok u ↔ ValidIncident rt record.toIncidentPayload ∧
      (skip = false → record.incident_record_sha256 = rt.sha256 record.toIncidentPayload) := by
  simp only [IncidentRecord.validate, IncidentRecord.validateFields, bind_ok, ensure_eq_ok,
    validateAll_eq_ok, listLength, validateClosure_eq_ok]
  constructor
  · rintro ⟨_, ⟨_, hdetection, _, hdiagnosis, _, hlength, _, hevaluations, _, hobservation, _,
      htimeline, _, hevents, hprovenance⟩, _, hcreated, _, hchronological, _, hids, _, hfirst, _,
      hevaluationIds, _, htimes, _, ⟨hclosed, hopened⟩, _, hidentity, _, hincident, hverify⟩
    refine ⟨⟨hdetection, hdiagnosis, hlength.2, hevaluations, hobservation, htimeline, hevents,
      hprovenance, hcreated, hchronological, hids, hfirst, hevaluationIds, htimes, hclosed, hopened,
      hidentity, hincident⟩, ?_⟩
    intro hskip
    rw [hskip, if_neg (by decide)] at hverify
    exact (verifyIntegrity_eq_ok.mp hverify).2.2
  · rintro ⟨h, hdigest⟩
    refine ⟨(), ⟨(), h.detection, (), h.diagnosis, (), ⟨Nat.zero_le _, h.evaluations_length⟩, (),
      h.evaluations, (), h.observation, (), h.timeline_length, (), h.timeline, h.provenance⟩, (),
      h.created, (), h.chronological, (), h.event_ids, (), h.first_events, (), h.evaluation_ids, (),
      h.evaluation_times, (), ⟨h.closed, h.opened⟩, (), h.identity, (), h.incident_id, ?_⟩
    cases skip with
    | true => trivial
    | false => exact verifyIntegrity_eq_ok.mpr ⟨h.identity, h.incident_id, hdigest rfl⟩

/-- A payload is materialised when it is valid. -/
theorem materialize_eq_ok {payload : IncidentPayload} {record : IncidentRecord} :
    materialize rt payload = .ok record ↔
      ValidIncident rt payload ∧ record = ⟨payload, rt.sha256 payload⟩ := by
  simp only [materialize, bind_ok, validate_eq_ok, pure_ok]
  constructor
  · rintro ⟨_, ⟨hvalid, -⟩, _, -, rfl⟩
    exact ⟨hvalid, rfl⟩
  · rintro ⟨hvalid, rfl⟩
    exact ⟨(), ⟨hvalid, by simp⟩, (), ⟨hvalid, fun _ => trivial⟩, rfl⟩

end EventPipeline.OpsAgent
