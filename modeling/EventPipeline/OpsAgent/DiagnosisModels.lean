import EventPipeline.OpsAgent.IncidentModels

/-!
# EventPipeline.OpsAgent.DiagnosisModels

`ops_agent/diagnosis_models.py`: the policy, the decision of the model, the steps and the
evidence of a diagnosis, and the record of the whole run.

What the model or an operator supplies is a type that only holds what its pydantic model
accepts. The record is built by the agent itself, so its validator is a function
(`DiagnosisRecord.validate`) that the agent has to get past.
-/

namespace EventPipeline.OpsAgent

open EventPipeline.Python

/-! ### Hypotheses -/

/-- `HypothesisName`. -/
inductive HypothesisName
  | hotKeySuspected | workerPathPressureSuspected | poisonRecordRetrySuspected
  | sequenceContentionSuspected | consumerRebalanceSuspected | insufficientEvidence
  deriving DecidableEq

/-- `HypothesisSupportStatus`. -/
inductive HypothesisSupportStatus
  | supported | insufficient | conflicted
  deriving DecidableEq

/-- `HypothesisResult`. -/
structure HypothesisResult where
  hypothesis : HypothesisName
  support_status : HypothesisSupportStatus
  reason_codes : List PyStr
  supporting_evidence_ids : List PyStr
  conflicting_evidence_ids : List PyStr
  evidence_gaps : List PyStr
  reason_codes_length : 1 ≤ reason_codes.length ∧ reason_codes.length ≤ 16
  supporting_length : supporting_evidence_ids.length ≤ 128
  conflicting_length : conflicting_evidence_ids.length ≤ 128
  gaps_length : evidence_gaps.length ≤ 32

/-- `AgentDecision`, with the unique names its validator asks for. -/
structure AgentDecision where
  hypotheses : List HypothesisResult
  stop_reason : DiagnosisStopReason
  hypotheses_length : 1 ≤ hypotheses.length ∧ hypotheses.length ≤ 6
  unique_hypotheses : (hypotheses.map (·.hypothesis)).Nodup

/-- `reason.value.upper()`. -/
def DiagnosisStopReason.code : DiagnosisStopReason → PyStr
  | sufficientEvidence => "SUFFICIENT_EVIDENCE"
  | insufficientEvidence => "INSUFFICIENT_EVIDENCE"
  | noUsefulToolRemaining => "NO_USEFUL_TOOL_REMAINING"
  | stepBudgetExhausted => "STEP_BUDGET_EXHAUSTED"
  | toolError => "TOOL_ERROR"
  | validationFailure => "VALIDATION_FAILURE"

/-! ### The policy -/

/-- `DiagnosisPolicy`; its other fields are literals. -/
structure DiagnosisPolicy where
  model : PyStr
  max_steps : Nat
  max_tool_calls : Nat
  max_output_tokens : Nat
  request_timeout_seconds : PyFloat
  max_retries : Nat
  max_output_repairs : Nat
  model_length : 1 ≤ model.length ∧ model.length ≤ 128
  max_steps_bounds : 1 ≤ max_steps ∧ max_steps ≤ 8
  max_tool_calls_bounds : 1 ≤ max_tool_calls ∧ max_tool_calls ≤ 8
  max_output_tokens_bounds : 256 ≤ max_output_tokens ∧ max_output_tokens ≤ 4096
  request_timeout_bounds : PyFloat.zero.lt request_timeout_seconds = true ∧
    request_timeout_seconds.le (PyFloat.ofNat 60) = true
  max_retries_bound : max_retries ≤ 2
  max_output_repairs_bound : max_output_repairs ≤ 1
  /-- `validate_budgets`. -/
  budgets : max_tool_calls ≤ max_steps

/-! ### Evidence and steps -/

/-- `DiagnosisEvidenceStatus`. -/
inductive DiagnosisEvidenceStatus
  | ok | partialResult | missing | error | unavailable
  deriving DecidableEq

/-- `evidence_status_summary(items)`: the status that all items share, and a partial result where
they differ. No items count as missing. -/
def evidenceStatusSummary (items : List EvidenceStatus) : DiagnosisEvidenceStatus :=
  if items.isEmpty then .missing
  else if items.all (· = .unavailable) then .unavailable
  else if items.all (· = .error) then .error
  else if items.all (· = .missing) then .missing
  else if items.all (· = .ok) then .ok
  else .partialResult

/-- `DiagnosisFreshness`. -/
structure DiagnosisFreshness where
  status : FreshnessStatus
  oldest_source_timestamp : Option Aware
  newest_source_timestamp : Option Aware
  max_age_seconds : Option PyFloat

/-- `DiagnosisEvidence`; `error_code` is never set. -/
structure DiagnosisEvidence where
  evidence_id : PyStr
  tool_id : PyStr
  status : DiagnosisEvidenceStatus
  observed_at : Aware
  freshness : DiagnosisFreshness
  source_evidence_ids : List PyStr
  source_bundle_digests : List PyStr
  semantic_type : PyStr
  summary : Dict

/-- The field checks of `DiagnosisEvidence`. -/
def DiagnosisEvidence.validate (value : DiagnosisEvidence) : Except OpsExc Unit := do
  textLength "evidence_id" value.evidence_id 256
  textLength "tool_id" value.tool_id 128
  ensure (∀ age ∈ value.freshness.max_age_seconds, PyFloat.zero.lt age = true)
    (.validationError "max_age_seconds")
  listLength "source_evidence_ids" value.source_evidence_ids 0 512
  listLength "source_bundle_digests" value.source_bundle_digests 1 256
  textLength "semantic_type" value.semantic_type 256

/-- `DiagnosisStep`. -/
structure DiagnosisStep where
  step : Nat
  tool_id : PyStr
  reason_code : PyStr
  requested_at : Aware
  returned_evidence_ids : List PyStr

/-- `DiagnosisUsage`. -/
structure DiagnosisUsage where
  input_tokens : Int
  output_tokens : Int
  total_tokens : Int
  api_requests : Nat
  deriving DecidableEq

/-- The field checks of `DiagnosisUsage`. -/
def DiagnosisUsage.validate (value : DiagnosisUsage) : Except OpsExc Unit := do
  ensure (0 ≤ value.input_tokens) (.validationError "input_tokens")
  ensure (0 ≤ value.output_tokens) (.validationError "output_tokens")
  ensure (0 ≤ value.total_tokens) (.validationError "total_tokens")

/-! ### The record of a run -/

/-- `DiagnosisValidationAttempt.phase`. -/
inductive AttemptPhase
  | initial | repair
  deriving DecidableEq

/-- `DiagnosisValidationAttempt`; its result is `INVALID` where it has an error, a code and
a message. -/
structure DiagnosisValidationAttempt where
  attempt : Nat
  phase : AttemptPhase
  response_id : PyStr
  error : Option (PyStr × PyStr)

/-- The field checks of `DiagnosisValidationAttempt`. -/
def DiagnosisValidationAttempt.validate (value : DiagnosisValidationAttempt) :
    Except OpsExc Unit := do
  textLength "response_id" value.response_id 256
  ensure (∀ e ∈ value.error, 1 ≤ e.1.length ∧ e.1.length ≤ 128) (.validationError "error_code")
  ensure (∀ e ∈ value.error, 1 ≤ e.2.length ∧ e.2.length ≤ 512) (.validationError "error_message")

/-- What the id of a diagnosis is the digest of. -/
structure DiagnosisRecordIdentity where
  condition_evaluation_id : Sha256
  source_bundle_digests : List PyStr
  policy : DiagnosisPolicy
  initial_evidence_ids : List PyStr
  additional_evidence : List DiagnosisEvidence
  /-- The number, the tool, the reason and the evidence of each step. -/
  steps : List (Nat × PyStr × PyStr × List PyStr)
  hypotheses : List HypothesisResult
  stop_reason : DiagnosisStopReason

/-- `DiagnosisRun`, with everything it holds; the lifecycle reads a part of it. -/
structure DiagnosisRecord where
  diagnosis_id : Sha256
  incident_id : PyStr
  condition_evaluation_id : Sha256
  context : DiagnosisContext
  policy : DiagnosisPolicy
  initial_evidence_ids : List PyStr
  additional_evidence : List DiagnosisEvidence
  steps : List DiagnosisStep
  hypotheses : List HypothesisResult
  stop_reason : DiagnosisStopReason
  steps_used : Nat
  started_at : Aware
  completed_at : Aware
  model_response_ids : List PyStr
  usage : DiagnosisUsage
  validation : DiagnosisValidation
  output_repairs_used : Nat
  validation_attempts : List DiagnosisValidationAttempt

/-- `_identity_payload()`. -/
def DiagnosisRecord.identity (run : DiagnosisRecord) : DiagnosisRecordIdentity where
  condition_evaluation_id := run.condition_evaluation_id
  source_bundle_digests := run.context.source_bundle_digests
  policy := run.policy
  initial_evidence_ids := run.initial_evidence_ids
  additional_evidence := run.additional_evidence
  steps := run.steps.map fun s => (s.step, s.tool_id, s.reason_code, s.returned_evidence_ids)
  hypotheses := run.hypotheses
  stop_reason := run.stop_reason

/-- `range(1, count + 1)`. -/
def oneTo (count : Nat) : List Nat := List.range' 1 count

/-- The field checks and `validate_run` of a diagnosis. -/
def DiagnosisRecord.validate (digest : DiagnosisRecordIdentity → Sha256) (run : DiagnosisRecord) :
    Except OpsExc Unit := do
  textLength "incident_id" run.incident_id 256
  listLength "initial_evidence_ids" run.initial_evidence_ids 0 1024
  listLength "additional_evidence" run.additional_evidence 0 16
  listLength "steps" run.steps 0 8
  listLength "model_response_ids" run.model_response_ids 0 10
  listLength "validation_attempts" run.validation_attempts 1 2
  ensure (run.started_at.instant ≤ run.completed_at.instant)
    (.valueError "diagnosis start must not exceed completion")
  ensure (run.steps_used = run.steps.length) (.valueError "steps_used must match recorded steps")
  ensure (run.steps_used ≤ run.policy.max_steps) (.valueError "diagnosis exceeded max_steps")
  ensure (run.steps.length ≤ run.policy.max_tool_calls)
    (.valueError "diagnosis exceeded max_tool_calls")
  ensure (run.output_repairs_used ≤ run.policy.max_output_repairs)
    (.valueError "diagnosis exceeded max_output_repairs")
  ensure (run.validation_attempts.length = run.output_repairs_used + 1)
    (.valueError "validation attempt count does not match output repairs")
  ensure (run.validation_attempts.map (·.attempt) = oneTo run.validation_attempts.length)
    (.valueError "validation attempts must be consecutive")
  ensure (run.validation_attempts.map (·.phase) =
      .initial :: if run.output_repairs_used = 0 then [] else [.repair])
    (.valueError "validation attempt phases do not match output repairs")
  ensure (∀ last ∈ run.validation_attempts.getLast?, last.error = none)
    (.valueError "completed diagnosis requires final valid output")
  ensure (run.output_repairs_used = 0 ∨ ∀ first ∈ run.validation_attempts.head?,
      first.error ≠ none)
    (.valueError "output repair requires an invalid initial result")
  ensure (run.model_response_ids.length = run.usage.api_requests)
    (.valueError "model response IDs must match API request count")
  ensure (run.steps.map (·.step) = oneTo run.steps.length)
    (.valueError "diagnosis steps must be consecutive")
  ensure (run.steps.flatMap (·.returned_evidence_ids) =
      run.additional_evidence.map (·.evidence_id))
    (.valueError "diagnosis step trace must match additional evidence")
  ensure (run.diagnosis_id = digest run.identity)
    (.valueError "diagnosis_id does not match the diagnosis payload")

/-- What the validator of a diagnosis asks for. -/
structure DiagnosisRecord.Valid (digest : DiagnosisRecordIdentity → Sha256)
    (run : DiagnosisRecord) : Prop where
  incident_id : 1 ≤ run.incident_id.length ∧ run.incident_id.length ≤ 256
  initial_length : run.initial_evidence_ids.length ≤ 1024
  evidence_length : run.additional_evidence.length ≤ 16
  steps_length : run.steps.length ≤ 8
  response_ids_length : run.model_response_ids.length ≤ 10
  attempts_length : 1 ≤ run.validation_attempts.length ∧ run.validation_attempts.length ≤ 2
  times : run.started_at.instant ≤ run.completed_at.instant
  steps_used : run.steps_used = run.steps.length
  max_steps : run.steps_used ≤ run.policy.max_steps
  max_tool_calls : run.steps.length ≤ run.policy.max_tool_calls
  max_output_repairs : run.output_repairs_used ≤ run.policy.max_output_repairs
  attempts_count : run.validation_attempts.length = run.output_repairs_used + 1
  attempts_numbered : run.validation_attempts.map (·.attempt) =
    oneTo run.validation_attempts.length
  phases : run.validation_attempts.map (·.phase) =
    .initial :: if run.output_repairs_used = 0 then [] else [.repair]
  last_valid : ∀ last ∈ run.validation_attempts.getLast?, last.error = none
  first_invalid : run.output_repairs_used = 0 ∨ ∀ first ∈ run.validation_attempts.head?,
    first.error ≠ none
  requests : run.model_response_ids.length = run.usage.api_requests
  steps_numbered : run.steps.map (·.step) = oneTo run.steps.length
  trace : run.steps.flatMap (·.returned_evidence_ids) =
    run.additional_evidence.map (·.evidence_id)
  identity : run.diagnosis_id = digest run.identity

theorem ops_bind_ok {x : Except OpsExc Unit} {f : Unit → Except OpsExc Unit} :
    (x >>= f) = .ok () ↔ x = .ok () ∧ f () = .ok () := by
  rw [bind_ok]
  constructor
  · rintro ⟨⟨⟩, hx, hf⟩
    exact ⟨hx, hf⟩
  · intro h
    exact ⟨(), h.1, h.2⟩

/-- The validator of a diagnosis returns exactly where all that it asks for holds. -/
theorem DiagnosisRecord.validate_ok {digest : DiagnosisRecordIdentity → Sha256}
    {run : DiagnosisRecord} {u : Unit} : run.validate digest = .ok u ↔ run.Valid digest := by
  obtain rfl : u = () := rfl
  unfold DiagnosisRecord.validate
  simp only [ops_bind_ok, textLength, listLength, ensure_eq_ok]
  constructor
  · rintro ⟨hincident, ⟨-, hinitial⟩, ⟨-, hevidence⟩, ⟨-, hsteps⟩, ⟨-, hresponses⟩, hattempts,
      htimes, hused, hmax, hcalls, hrepairs, hcount, hnumbered, hphases, hlast, hfirst, hrequests,
      hconsecutive, htrace, hidentity⟩
    exact ⟨hincident, hinitial, hevidence, hsteps, hresponses, hattempts, htimes, hused, hmax,
      hcalls, hrepairs, hcount, hnumbered, hphases, hlast, hfirst, hrequests, hconsecutive, htrace,
      hidentity⟩
  · intro h
    exact ⟨h.incident_id, ⟨Nat.zero_le _, h.initial_length⟩, ⟨Nat.zero_le _, h.evidence_length⟩,
      ⟨Nat.zero_le _, h.steps_length⟩, ⟨Nat.zero_le _, h.response_ids_length⟩, h.attempts_length,
      h.times, h.steps_used, h.max_steps, h.max_tool_calls, h.max_output_repairs,
      h.attempts_count, h.attempts_numbered, h.phases, h.last_valid, h.first_invalid, h.requests,
      h.steps_numbered, h.trace, h.identity⟩

end EventPipeline.OpsAgent
