import EventPipeline.OpsAgent.DiagnosisTools

/-!
# EventPipeline.OpsAgent.DiagnosisValidator

`DiagnosisOutputValidator.validate` of `ops_agent/diagnosis_validator.py`: the checks of the
trace, the checks of each hypothesis in turn, and the checks of the stop reason.
-/

namespace EventPipeline.OpsAgent

open EventPipeline.Python

/-- The result of a check. -/
abbrev Checked := Except ValidationFailure Unit

/-- `if problem: raise DiagnosisValidationError(code, message, details=details)`. -/
def refuseIf (problem : Prop) [Decidable problem] (code : String) (message : PyStr)
    (details : Dict := []) : Checked :=
  if problem then .error ⟨code, message, details⟩ else .ok ()

@[simp] theorem refuseIf_eq_ok {problem : Prop} [Decidable problem] {code : String}
    {message : PyStr} {details : Dict} {u : Unit} :
    refuseIf problem code message details = .ok u ↔ ¬ problem := by
  unfold refuseIf
  split_ifs with h <;> simp [h]

/-- A check that succeeds where two do. -/
theorem checked_bind_ok {x : Checked} {f : Unit → Checked} {u : Unit} :
    (x >>= f) = .ok u ↔ x = .ok () ∧ f () = .ok () := by
  cases x <;> simp [bind, Except.bind]

/-! ### Forbidden claims -/

/-- The alternatives of the pattern of forbidden claims. -/
def forbiddenClaims : List PyStr :=
  ["CORE_BACKLOG_PRESSURE_ABSENT", "CORE_BACKLOG_PRESSURE_UNKNOWN", "CONDITION_REEVALUAT",
    "RECOVERED", "RECOVERY_DECLAR", "REMEDIAT", "KUBECTL", "PROMQL", "SHELL", "SCALE_WORKER",
    "DELETE_POD", "ARGO_SYNC", "DLQ_REPLAY", "DB_RESTORE"]

/-- `re.search(pattern, text)` finds one. -/
def Forbidden (text : PyStr) : Prop := ∃ claim ∈ forbiddenClaims, claim <:+: text

instance (text : PyStr) : Decidable (Forbidden text) := by
  unfold Forbidden
  infer_instance

/-- `" ".join(texts)`. -/
def joinSpaces : List PyStr → PyStr
  | [] => []
  | [text] => text
  | text :: texts => text ++ PyStr.ofString " " ++ joinSpaces texts

/-- `structured_text`: the reason codes and the evidence gaps of a hypothesis, which is the text
the forbidden claims are looked for in, in upper case. -/
def structuredText (rt : DiagnosisRuntime) (hypothesis : HypothesisResult) : PyStr :=
  rt.upper (joinSpaces (hypothesis.reason_codes ++ hypothesis.evidence_gaps))

/-! ### The checks

The checks are made one after the other, and the first that fails is reported with its code and
its details. -/

/-- The first steps and pieces of evidence of a different tool. -/
def traceMismatch (steps : List DiagnosisStep) (evidence : List DiagnosisEvidence) : Prop :=
  ∃ pair ∈ steps.zip evidence, pair.1.tool_id ≠ pair.2.tool_id

instance (steps : List DiagnosisStep) (evidence : List DiagnosisEvidence) :
    Decidable (traceMismatch steps evidence) := by
  unfold traceMismatch
  infer_instance

/-- The checks of the steps and of the evidence they returned. -/
def checkTrace (policy : DiagnosisPolicy) (additional_evidence : List DiagnosisEvidence)
    (steps : List DiagnosisStep) : Checked := do
  refuseIf (policy.max_steps < steps.length ∨ policy.max_tool_calls < steps.length)
    "STEP_OR_TOOL_BUDGET_EXCEEDED" "step or tool-call budget exceeded"
  refuseIf (¬ (steps.map (·.tool_id)).Nodup) "REPEATED_TOOL_CALL"
    "repeated tool calls are forbidden"
  refuseIf (∃ step ∈ steps, (toolById step.tool_id).isNone = true) "NON_ALLOWLISTED_TOOL_CALL"
    "non-allowlisted tool call"
  refuseIf (additional_evidence.map (·.evidence_id) ≠ steps.flatMap (·.returned_evidence_ids))
    "STEP_EVIDENCE_TRACE_MISMATCH" "step evidence trace does not match tool results"
  refuseIf (¬ (additional_evidence.map (·.evidence_id)).Nodup) "DUPLICATE_DIAGNOSIS_EVIDENCE_ID"
    "diagnosis evidence IDs must be unique"
  refuseIf (traceMismatch steps additional_evidence) "TOOL_EVIDENCE_ID_MISMATCH"
    "tool step and evidence tool ID mismatch"

/-- The ids a hypothesis cites that are not known, sorted. -/
def unknownCitations (known : List PyStr) (hypothesis : HypothesisResult) : List PyStr :=
  sortedSet ((hypothesis.supporting_evidence_ids ++ hypothesis.conflicting_evidence_ids).filter
    fun id => id ∉ known)

/-- The names of the citation lists that are empty. -/
def missingCitationFields (hypothesis : HypothesisResult) : List Json :=
  (if hypothesis.supporting_evidence_ids = [] then [.str "supporting_evidence_ids"] else [])
    ++ (if hypothesis.conflicting_evidence_ids = [] then [.str "conflicting_evidence_ids"] else [])

/-- `CONSUMER_REBALANCE_TELEMETRY_UNAVAILABLE`. -/
def rebalanceGap : PyStr := "CONSUMER_REBALANCE_TELEMETRY_UNAVAILABLE"

/-- The checks of one hypothesis. -/
def checkHypothesis (rt : DiagnosisRuntime) (known : List PyStr) (index : Nat)
    (hypothesis : HypothesisResult) : Checked := do
  let position : Dict := [("hypothesis_index", .int index)]
  let unknown := unknownCitations known hypothesis
  refuseIf (Forbidden (structuredText rt hypothesis)) "FORBIDDEN_DIAGNOSIS_CLAIM"
    "model output contains a forbidden condition, recovery, or action claim" position
  refuseIf (unknown ≠ []) "UNKNOWN_EVIDENCE_CITATION"
    (PyStr.ofString "hypothesis cites unknown evidence IDs: " ++ rt.reprList unknown)
    (position ++ ([("unknown_evidence_ids", .arr (unknown.map .str))] : Dict))
  refuseIf (hypothesis.support_status = .supported ∧ hypothesis.supporting_evidence_ids = [])
    "SUPPORTED_REQUIRES_SUPPORTING_CITATION" "SUPPORTED hypothesis requires citations" position
  refuseIf (hypothesis.support_status = .conflicted ∧
      (hypothesis.supporting_evidence_ids = [] ∨ hypothesis.conflicting_evidence_ids = []))
    "CONFLICTED_REQUIRES_BOTH_CITATION_SIDES"
    "CONFLICTED hypothesis requires supporting and conflicting citations"
    (position ++ ([("missing_fields", .arr (missingCitationFields hypothesis))] : Dict))
  refuseIf (hypothesis.support_status = .insufficient ∧ hypothesis.evidence_gaps = [])
    "INSUFFICIENT_REQUIRES_EVIDENCE_GAP" "INSUFFICIENT hypothesis requires an evidence gap"
    position
  refuseIf (hypothesis.hypothesis = .consumerRebalanceSuspected ∧
      hypothesis.support_status ≠ .insufficient)
    "REBALANCE_TELEMETRY_UNAVAILABLE"
    "rebalance telemetry cannot support or exclude the hypothesis" position
  refuseIf (hypothesis.hypothesis = .consumerRebalanceSuspected ∧
      (hypothesis.supporting_evidence_ids ≠ [] ∨ hypothesis.conflicting_evidence_ids ≠ []))
    "REBALANCE_CITATIONS_FORBIDDEN"
    "unavailable rebalance telemetry cannot be cited as supporting or conflicting evidence" position
  refuseIf (hypothesis.hypothesis = .consumerRebalanceSuspected ∧
      rebalanceGap ∉ hypothesis.evidence_gaps)
    "REBALANCE_GAP_REQUIRED"
    "rebalance hypothesis must preserve unavailable telemetry gap" position

/-- The checks of the hypotheses from an index on. -/
def checkHypotheses (rt : DiagnosisRuntime) (known : List PyStr) :
    Nat → List HypothesisResult → Checked
  | _, [] => .ok ()
  | index, hypothesis :: rest => do
      checkHypothesis rt known index hypothesis
      checkHypotheses rt known (index + 1) rest

/-- `supported_causal`: a hypothesis other than insufficient evidence is called supported. -/
def supportedCausal (decision : AgentDecision) : Bool :=
  decision.hypotheses.any fun item =>
    item.hypothesis ≠ .insufficientEvidence && item.support_status = .supported

/-- The checks of the stop reason. -/
def checkStop (policy : DiagnosisPolicy) (decision : AgentDecision) (steps : List DiagnosisStep) :
    Checked := do
  refuseIf (decision.stop_reason = .sufficientEvidence ∧ supportedCausal decision = false)
    "SUFFICIENT_STOP_REQUIRES_SUPPORTED_CAUSE"
    "sufficient_evidence requires a supported causal hypothesis"
  refuseIf (decision.stop_reason = .insufficientEvidence ∧ supportedCausal decision = true)
    "INSUFFICIENT_STOP_CONFLICTS_WITH_SUPPORTED_CAUSE"
    "insufficient_evidence conflicts with a supported causal hypothesis"
  refuseIf (decision.stop_reason = .stepBudgetExhausted ∧ steps.length ≠ policy.max_steps)
    "STEP_BUDGET_STOP_REQUIRES_FULL_BUDGET"
    "step_budget_exhausted requires the complete step budget"

/-- What the validator returns. -/
def validDiagnosis : DiagnosisValidation := ⟨true, true, true, true, true, true⟩

/-- `DiagnosisOutputValidator().validate(...)`: first the trace, then the hypotheses one by one,
then the reason for stopping. The first check that fails is the error. -/
def validateDecision (rt : DiagnosisRuntime) (decision : AgentDecision) (policy : DiagnosisPolicy)
    (initial_evidence_ids : List PyStr) (additional_evidence : List DiagnosisEvidence)
    (steps : List DiagnosisStep) : Except ValidationFailure DiagnosisValidation := do
  checkTrace policy additional_evidence steps
  checkHypotheses rt (initial_evidence_ids ++ additional_evidence.map (·.evidence_id)) 0
    decision.hypotheses
  checkStop policy decision steps
  return validDiagnosis

/-! ### What the checks decide

Each group of checks succeeds exactly where a proposition about the decision holds, so that a
decision that was accepted can be used without its checks. -/

/-- What the validator asks of one hypothesis. -/
structure HypothesisOk (rt : DiagnosisRuntime) (known : List PyStr)
    (hypothesis : HypothesisResult) : Prop where
  claims : ¬ Forbidden (structuredText rt hypothesis)
  citations : ∀ id ∈ hypothesis.supporting_evidence_ids ++ hypothesis.conflicting_evidence_ids,
    id ∈ known
  supported : hypothesis.support_status = .supported → hypothesis.supporting_evidence_ids ≠ []
  conflicted : hypothesis.support_status = .conflicted →
    hypothesis.supporting_evidence_ids ≠ [] ∧ hypothesis.conflicting_evidence_ids ≠ []
  insufficient : hypothesis.support_status = .insufficient → hypothesis.evidence_gaps ≠ []
  rebalance : hypothesis.hypothesis = .consumerRebalanceSuspected →
    hypothesis.support_status = .insufficient ∧ hypothesis.supporting_evidence_ids = [] ∧
      hypothesis.conflicting_evidence_ids = [] ∧ rebalanceGap ∈ hypothesis.evidence_gaps

theorem unknownCitations_eq_nil {known : List PyStr} {hypothesis : HypothesisResult} :
    unknownCitations known hypothesis = [] ↔
      ∀ id ∈ hypothesis.supporting_evidence_ids ++ hypothesis.conflicting_evidence_ids,
        id ∈ known := by
  rw [List.eq_nil_iff_forall_not_mem]
  simp [unknownCitations, or_imp, forall_and]

theorem checkHypothesis_ok {rt : DiagnosisRuntime} {known : List PyStr} {index : Nat}
    {hypothesis : HypothesisResult} :
    checkHypothesis rt known index hypothesis = .ok () ↔ HypothesisOk rt known hypothesis := by
  unfold checkHypothesis
  simp only [checked_bind_ok, refuseIf_eq_ok, ne_eq, not_not, unknownCitations_eq_nil]
  constructor
  · rintro ⟨hclaims, hcitations, hsupported, hconflicted, hgap, hstatus, hcite, hrebalance⟩
    exact ⟨hclaims, hcitations, by tauto, by tauto, by tauto, by tauto⟩
  · rintro ⟨hclaims, hcitations, hsupported, hconflicted, hgap, hrebalance⟩
    exact ⟨hclaims, hcitations, by tauto, by tauto, by tauto, by tauto, by tauto, by tauto⟩

theorem checkHypotheses_ok {rt : DiagnosisRuntime} {known : List PyStr} {index : Nat}
    {hypotheses : List HypothesisResult} :
    checkHypotheses rt known index hypotheses = .ok () ↔
      ∀ hypothesis ∈ hypotheses, HypothesisOk rt known hypothesis := by
  induction hypotheses generalizing index with
  | nil => simp [checkHypotheses]
  | cons hypothesis rest ih =>
      rw [checkHypotheses, checked_bind_ok, checkHypothesis_ok, ih, List.forall_mem_cons]

/-- What the validator asks of the steps and the evidence. -/
structure TraceOk (policy : DiagnosisPolicy) (evidence : List DiagnosisEvidence)
    (steps : List DiagnosisStep) : Prop where
  max_steps : steps.length ≤ policy.max_steps
  max_tool_calls : steps.length ≤ policy.max_tool_calls
  unique : (steps.map (·.tool_id)).Nodup
  allowlisted : ∀ step ∈ steps, (toolById step.tool_id).isSome = true
  returned : evidence.map (·.evidence_id) = steps.flatMap (·.returned_evidence_ids)
  unique_ids : (evidence.map (·.evidence_id)).Nodup
  tools : ¬ traceMismatch steps evidence

theorem checkTrace_ok {policy : DiagnosisPolicy} {evidence : List DiagnosisEvidence}
    {steps : List DiagnosisStep} :
    checkTrace policy evidence steps = .ok () ↔ TraceOk policy evidence steps := by
  unfold checkTrace
  simp only [checked_bind_ok, refuseIf_eq_ok, not_or, not_lt, not_not, ne_eq, not_exists, not_and,
    Option.isNone_iff_eq_none]
  constructor
  · rintro ⟨⟨hsteps, hcalls⟩, hunique, hallow, hreturned, hids, htools⟩
    exact ⟨hsteps, hcalls, hunique, fun step hstep => Option.isSome_iff_ne_none.mpr
      (hallow step hstep), hreturned, hids, htools⟩
  · rintro ⟨hsteps, hcalls, hunique, hallow, hreturned, hids, htools⟩
    exact ⟨⟨hsteps, hcalls⟩, hunique, fun step hstep => Option.isSome_iff_ne_none.mp
      (hallow step hstep), hreturned, hids, htools⟩

/-- The validator accepts a decision. -/
def Accepted (rt : DiagnosisRuntime) (decision : AgentDecision) (policy : DiagnosisPolicy)
    (initial_evidence_ids : List PyStr) (additional_evidence : List DiagnosisEvidence)
    (steps : List DiagnosisStep) : Prop :=
  validateDecision rt decision policy initial_evidence_ids additional_evidence steps
    = .ok validDiagnosis

theorem validateDecision_ok {rt : DiagnosisRuntime} {decision : AgentDecision}
    {policy : DiagnosisPolicy} {initial_evidence_ids : List PyStr}
    {evidence : List DiagnosisEvidence} {steps : List DiagnosisStep}
    {validation : DiagnosisValidation} :
    validateDecision rt decision policy initial_evidence_ids evidence steps = .ok validation ↔
      validation = validDiagnosis ∧ TraceOk policy evidence steps ∧
        (∀ hypothesis ∈ decision.hypotheses,
          HypothesisOk rt (initial_evidence_ids ++ evidence.map (·.evidence_id)) hypothesis) ∧
        checkStop policy decision steps = .ok () := by
  rw [← checkTrace_ok, ← checkHypotheses_ok]
  unfold validateDecision
  cases checkTrace policy evidence steps with
  | error e => simp [bind, Except.bind]
  | ok _ =>
      cases checkHypotheses rt (initial_evidence_ids ++ evidence.map (·.evidence_id)) 0
          decision.hypotheses with
      | error e => simp [bind, Except.bind]
      | ok _ =>
          cases checkStop policy decision steps with
          | error e => simp [bind, Except.bind]
          | ok _ => simp [bind, Except.bind, pure, Except.pure, eq_comm]

end EventPipeline.OpsAgent
