import EventPipeline.OpsAgent.DiagnosisValidator

/-!
# EventPipeline.OpsAgent.DiagnosisAgent

`run_diagnosis` of `ops_agent/diagnosis_agent.py`.

The run has three parts: what is checked before the model is asked (`beginDiagnosis`), the
tool loop, and what is made of its decision (`finishDiagnosis`), with at most one repair.
The sequence evaluation that the run recomputes is a parameter.
-/

namespace EventPipeline.OpsAgent

open EventPipeline.Python EventPipeline.Concurrency

/-! ### The first request -/

/-- An index of a window, where it is an `int` in range. -/
def windowIndex (count : Nat) : Json → Option Nat
  | .int z => if 0 ≤ z ∧ z < count then some z.toNat else none
  | .bool b => if b.toNat < count then some b.toNat else none
  | _ => none

/-- The bundles of the activation window, or all of them. -/
def windowBundles (facts : Dict) (bundles : List EvidenceBundle) : List EvidenceBundle :=
  match firstWindow facts with
  | some window => (window.filterMap (windowIndex bundles.length)).filterMap (bundles[·]?)
  | none => bundles

/-- `consumer_rebalance_event`. -/
def isRebalanceItem (item : EvidenceItem) : Bool :=
  item.metric.name = PyStr.ofString "consumer_rebalance_event"

/-- `EvidenceStatus.value`. -/
def EvidenceStatus.text : EvidenceStatus → PyStr
  | ok => "OK"
  | missing => "MISSING"
  | error => "ERROR"
  | notApplicable => "NOT_APPLICABLE"
  | unavailable => "UNAVAILABLE"

/-- `list(dict.fromkeys(values))`. -/
def firstOccurrences (values : List PyStr) : List PyStr :=
  values.foldl (fun seen value => if value ∈ seen then seen else seen ++ [value]) []

/-- `_initial_evidence(evaluation, bundles)`. -/
def initialEvidence (evaluation : DiagnosisActivation) (bundles : List EvidenceBundle) :
    List PyStr × List Dict :=
  let items := (windowBundles evaluation.core_facts bundles).flatMap fun bundle =>
    bundle.evidence.filter isRebalanceItem
  (firstOccurrences (evaluation.core_evidence_ids ++ items.map (·.evidence_id)),
    items.map fun item => ([("evidence_id", .str item.evidence_id),
      ("status", .str item.status.text), ("semantic_type", .str item.semantic.type),
      ("notes", .str item.semantic.notes)] : Dict))

/-- `_activation_facts(core_facts)`: of the capture measurements only those in the first window
that matched. -/
def activationFacts (core_facts : Dict) : Dict :=
  let selected := match firstWindow core_facts, getOrNull core_facts "capture_measurements" with
    | some window, .arr measurements =>
        (window.filterMap (windowIndex measurements.length)).filterMap (measurements[·]?)
    | _, _ => []
  [("activation_policy", getOrNull core_facts "activation_policy"),
    ("matched_activation_windows", getOrNull core_facts "matched_activation_windows"),
    ("matched_capture_measurements", .arr selected),
    ("recovery_or_clearing_evaluated", .bool false)]

/-- What the run is given. -/
structure DiagnosisInput where
  bundles : List EvidenceBundle
  condition_evaluation : DiagnosisActivation
  policy : DiagnosisPolicy

/-- What the loop is given. -/
structure DiagnosisSetting where
  registry : DiagnosisToolRegistry
  policy : DiagnosisPolicy
  initial_evidence_ids : List PyStr

/-- What the loop carries from one response to the next. -/
structure DiagnosisState where
  history : List HistoryItem
  steps : List DiagnosisStep
  evidence : List DiagnosisEvidence
  response_ids : List PyStr
  usage : DiagnosisUsage

/-- The tools called so far. -/
def DiagnosisState.called (state : DiagnosisState) : List PyStr := state.steps.map (·.tool_id)

/-- The state before the first request. -/
def firstState (input : DiagnosisInput) : DiagnosisState :=
  let (initial_ids, unavailable) := initialEvidence input.condition_evaluation input.bundles
  { history := [.system,
      .request input.condition_evaluation.evaluation_id
        (activationFacts input.condition_evaluation.core_facts) initial_ids unavailable
        (toolSpecs.map (·.tool_id)) input.policy.max_steps input.policy.max_tool_calls]
    steps := []
    evidence := []
    response_ids := []
    usage := ⟨0, 0, 0, 0⟩ }

/-- The checks before the loop; `evaluate` is `evaluate_bundle_sequence`, as far as the id of
its result. -/
def beginDiagnosis (rt : DiagnosisRuntime) (evaluate : List EvidenceBundle → Except OpsExc Sha256)
    (input : DiagnosisInput) : Except OpsExc DiagnosisSetting := do
  let recomputed ← evaluate input.bundles
  ensure (recomputed = input.condition_evaluation.evaluation_id)
    (.valueError "condition evaluation does not match the ordered bundles")
  ensure (input.condition_evaluation.core_state = .present)
    (.valueError "Diagnosis Agent entry requires CORE_BACKLOG_PRESSURE=PRESENT")
  let registry ← DiagnosisToolRegistry.create rt input.bundles input.condition_evaluation
  return ⟨registry, input.policy, (initialEvidence input.condition_evaluation input.bundles).1⟩

/-! ### Responses -/

/-- The value of `item.get(key, default)` of an output item. -/
def itemField (item : Dict) (key : String) (default : Json) : Json := (item.get? key).getD default

/-- `item.get("type") == "function_call"`. -/
def isFunctionCall (item : Dict) : Bool :=
  (getOrNull item "type").pyEq (.str "function_call")

/-- `_safe_output_items(items)`; a type that is a list or a dict has no hash. -/
def safeOutputItems : List Dict → Except OpsExc (List HistoryItem)
  | [] => .ok []
  | item :: items => do
      let keep ← match getOrNull item "type" with
        | .arr _ | .obj _ => .error .typeError
        | .str type => .ok (decide (type ∈ ([("reasoning" : PyStr), "function_call", "message"])))
        | _ => .ok false
      let rest ← safeOutputItems items
      return if keep then .output item :: rest else rest

/-- The usage after one more response. -/
def DiagnosisUsage.add (usage : DiagnosisUsage) (response : ModelResponse) : DiagnosisUsage where
  input_tokens := usage.input_tokens + response.input_tokens
  output_tokens := usage.output_tokens + response.output_tokens
  total_tokens := usage.total_tokens + response.total_tokens
  api_requests := usage.api_requests + 1

/-- `client.create(payload)`: the one operation that asks the model. It answers or raises. -/
def createResponse (payload : ModelRequest) : Diagnosing ModelResponse := do
  let answer ← Prog.call (DiagnosisOp.create payload)
  match answer with
  | .ok response => return response
  | .error name => .throw (.client name)

/-- A request, and the state with the response counted. -/
def askModel (setting : DiagnosisSetting) (state : DiagnosisState) (history : List HistoryItem)
    (tools : List ToolSpec) : Diagnosing (ModelResponse × DiagnosisState) := do
  let response ← createResponse ⟨setting.policy, history, tools⟩
  let usage := state.usage.add response
  fromOps usage.validate
  return (response, { state with
    response_ids := state.response_ids ++ [response.response_id], usage := usage })

/-! ### The loop

A pass of the loop asks for a response and serves it. It goes on only after a tool was executed,
so that the tool calls that are left bound the recursion. -/

/-- `_fallback_decision(reason, gap)`. -/
def fallbackDecision (reason : DiagnosisStopReason) (gap : PyStr) : AgentDecision where
  hypotheses := [{
    hypothesis := .insufficientEvidence
    support_status := .insufficient
    reason_codes := [reason.code]
    supporting_evidence_ids := []
    conflicting_evidence_ids := []
    evidence_gaps := [gap]
    reason_codes_length := by simp
    supporting_length := by simp
    conflicting_length := by simp
    gaps_length := by simp }]
  stop_reason := reason
  hypotheses_length := by simp
  unique_hypotheses := by simp

/-- How the loop ends: with a decision of the model, or of the agent itself. -/
inductive LoopExit
  | answered (decision : AgentDecision)
  | budgetExhausted
  | toolError (tool_id : PyStr)

/-- The decision the loop leaves with. -/
def LoopExit.decision (rt : DiagnosisRuntime) : LoopExit → AgentDecision
  | .answered decision => decision
  | .budgetExhausted =>
      fallbackDecision .stepBudgetExhausted "STEP_BUDGET_EXHAUSTED_BEFORE_SUFFICIENT_EVIDENCE"
  | .toolError tool_id =>
      fallbackDecision .toolError (PyStr.ofString "TOOL_ERROR_" ++ rt.upper tool_id)

/-- The loop's next pass, where a tool call is left. -/
abbrev NextPass := Option (DiagnosisState → Diagnosing (LoopExit × DiagnosisState))

/-- The part of a pass that serves a function call. -/
def serveCall (rt : DiagnosisRuntime) (setting : DiagnosisSetting) (again : NextPass)
    (tools : List ToolSpec) (response : ModelResponse) (call : Dict) (state : DiagnosisState) :
    Diagnosing (LoopExit × DiagnosisState) :=
  match again with
  | none => return (.budgetExhausted, state)
  | some again =>
      if setting.policy.max_steps ≤ state.steps.length ∨ tools = [] then
        return (.budgetExhausted, state)
      else do
        let tool_id := strOf rt.toOpsRuntime (itemField call "name" (.str []))
        let arguments ← fromOps (match rt.jsonLoads (strOf rt.toOpsRuntime
            (itemField call "arguments" (.str "\x7b\x7d"))) with
          | some value => .ok value
          | none => .error (.valueError "tool arguments were not valid JSON"))
        fromOps (ensure (arguments.pyEq (.obj []) = true)
          (.valueError "diagnosis tools do not accept model-controlled arguments"))
        let requested_at ← Prog.call DiagnosisOp.now
        let result ← (setting.registry.execute rt state.called tool_id).attempt
        match result with
        | .error _ => return (.toolError tool_id, state)
        | .ok evidence => do
            let output ← fromOps (safeOutputItems response.output)
            again { state with
              evidence := state.evidence ++ [evidence]
              steps := state.steps ++ [{
                step := state.steps.length + 1
                tool_id := tool_id
                reason_code := ((toolById tool_id).map (·.reason_code)).getD []
                requested_at := requested_at
                returned_evidence_ids := [evidence.evidence_id] }]
              history := state.history ++ output
                ++ [.functionCallOutput (getOrNull call "call_id") evidence] }

/-- One pass of the `while` loop. `again` is the next pass; there is one as long as
`len(steps) < policy.max_tool_calls`. -/
def diagnosisPass (rt : DiagnosisRuntime) (setting : DiagnosisSetting) (again : NextPass)
    (state : DiagnosisState) : Diagnosing (LoopExit × DiagnosisState) := do
  let tools := if again.isSome then functionTools state.called else []
  let (response, state) ← askModel setting state state.history tools
  match response.output.filter isFunctionCall with
  | [call] => serveCall rt setting again tools response call state
  | _ :: _ :: _ => fromOps (.error (.valueError
      "Diagnosis Agent must request exactly one tool per step"))
  | [] =>
      match response.output_text with
      | none | some [] => fromOps (.error (.valueError
          "Diagnosis Agent returned neither a tool call nor structured output"))
      | some text =>
          match rt.parseDecision text with
          | some decision => return (.answered decision, state)
          | none => fromOps (.error (.valueError
              "Diagnosis Agent structured output failed schema validation"))

/-- The `while` loop; `calls` is what the steps leave of `policy.max_tool_calls`. -/
def diagnosisLoop (rt : DiagnosisRuntime) (setting : DiagnosisSetting) :
    Nat → DiagnosisState → Diagnosing (LoopExit × DiagnosisState)
  | 0, state => diagnosisPass rt setting none state
  | calls + 1, state => diagnosisPass rt setting (some (diagnosisLoop rt setting calls)) state

/-! ### The decision

A decision that the validator refuses is repaired once, if its error is one that the source lets
the model repair and the budget has a repair left. -/

/-- `_REPAIRABLE_VALIDATION_CODES`. -/
def repairableValidationCodes : List PyStr :=
  ["FORBIDDEN_DIAGNOSIS_CLAIM", "UNKNOWN_EVIDENCE_CITATION",
    "SUPPORTED_REQUIRES_SUPPORTING_CITATION", "CONFLICTED_REQUIRES_BOTH_CITATION_SIDES",
    "INSUFFICIENT_REQUIRES_EVIDENCE_GAP", "REBALANCE_TELEMETRY_UNAVAILABLE",
    "REBALANCE_CITATIONS_FORBIDDEN", "REBALANCE_GAP_REQUIRED",
    "SUFFICIENT_STOP_REQUIRES_SUPPORTED_CAUSE", "INSUFFICIENT_STOP_CONFLICTS_WITH_SUPPORTED_CAUSE",
    "STEP_BUDGET_STOP_REQUIRES_FULL_BUDGET"]

/-- A decision that has been validated, and how. -/
structure ValidatedDecision where
  decision : AgentDecision
  validation : DiagnosisValidation
  output_repairs_used : Nat
  validation_attempts : List DiagnosisValidationAttempt
  response_ids : List PyStr
  usage : DiagnosisUsage

/-- The decision a repair response holds. -/
def repairedDecision (rt : DiagnosisRuntime) (response : ModelResponse) :
    Except ValidationFailure AgentDecision :=
  if response.output.any isFunctionCall then
    .error ⟨"REPAIR_TOOL_CALL_FORBIDDEN", "output repair returned a forbidden tool call", []⟩
  else
    match response.output_text with
    | none | some [] => .error ⟨"REPAIR_STRUCTURED_OUTPUT_MISSING",
        "output repair returned no structured result", []⟩
    | some text =>
        match rt.parseDecision text with
        | some decision => .ok decision
        | none => .error ⟨"REPAIR_SCHEMA_INVALID",
            "output repair failed structured schema validation", []⟩

/-- A decision and its validation. -/
def validated (rt : DiagnosisRuntime) (setting : DiagnosisSetting) (state : DiagnosisState)
    (decision : AgentDecision) : Except ValidationFailure (AgentDecision × DiagnosisValidation) := do
  let validation ← validateDecision rt decision setting.policy setting.initial_evidence_ids
    state.evidence state.steps
  return (decision, validation)

/-- `response_ids[-1]`. -/
def DiagnosisState.lastResponse (state : DiagnosisState) : PyStr :=
  state.response_ids.getLast?.getD []

/-- The one repair of a decision that was refused. -/
def repairDecision (rt : DiagnosisRuntime) (setting : DiagnosisSetting) (state : DiagnosisState)
    (decision : AgentDecision) (initial_error : ValidationFailure) :
    Diagnosing ValidatedDecision := do
  let first : DiagnosisValidationAttempt :=
    { attempt := 1, phase := .initial, response_id := state.lastResponse
      error := some (initial_error.code, initial_error.message) }
  fromOps first.validate
  if setting.policy.max_output_repairs < 1 ∨ initial_error.code ∉ repairableValidationCodes then
    .throw (.contractFailure initial_error none)
  else do
    let evaluation_id := setting.registry.evaluation.evaluation_id
    let (response, state') ← askModel setting state (state.history ++
      [.assistant decision, .repair evaluation_id initial_error decision
        (sortedSet (setting.initial_evidence_ids ++ state.evidence.map (·.evidence_id)))]) []
    match (repairedDecision rt response).bind (validated rt setting state) with
    | .error final_error => .throw (.contractFailure initial_error (some final_error))
    | .ok (repaired, validation) => do
        let second : DiagnosisValidationAttempt :=
          { attempt := 2, phase := .repair, response_id := response.response_id, error := none }
        fromOps second.validate
        return ⟨repaired, validation, 1, [first, second], state'.response_ids, state'.usage⟩

/-- The first validation of the loop's decision, and the repair where it fails. -/
def settleDecision (rt : DiagnosisRuntime) (setting : DiagnosisSetting) (state : DiagnosisState)
    (decision : AgentDecision) : Diagnosing ValidatedDecision :=
  match validated rt setting state decision with
  | .ok (decision, validation) => do
      let first : DiagnosisValidationAttempt :=
        { attempt := 1, phase := .initial, response_id := state.lastResponse, error := none }
      fromOps first.validate
      return ⟨decision, validation, 0, [first], state.response_ids, state.usage⟩
  | .error initial_error => repairDecision rt setting state decision initial_error

/-- `scope.context or "unknown"`. -/
def contextName : Option PyStr → PyStr
  | none | some [] => "unknown"
  | some context => context

/-- `DiagnosisContext(...)`. -/
def diagnosisContext (input : DiagnosisInput) : Except OpsExc DiagnosisContext :=
  match input.bundles with
  | [] => .error .indexError
  | bundle :: _ => do
      let cluster_context := contextName bundle.scope.context
      textLength "profile" bundle.cluster_profile 64
      textLength "cluster_context" cluster_context 256
      textLength "namespace" bundle.scope.namespace_ 256
      textLength "topic" bundle.scope.topic 256
      textLength "consumer_group" bundle.scope.consumer_group 256
      let digests := input.condition_evaluation.sourceBundleDigests
      listLength "source_bundle_digests" digests 1 256
      return {
        profile := bundle.cluster_profile
        cluster_context := cluster_context
        source_bundle_digests := digests
        rest := [("namespace", .str bundle.scope.namespace_), ("topic", .str bundle.scope.topic),
          ("consumer_group", .str bundle.scope.consumer_group)] }

/-- The record of a settled decision. -/
def diagnosisRecord (rt : DiagnosisRuntime) (input : DiagnosisInput) (setting : DiagnosisSetting)
    (state : DiagnosisState) (settled : ValidatedDecision) (started_at completed_at : Aware) :
    Except OpsExc DiagnosisRecord := do
  let context ← diagnosisContext input
  let record (diagnosis_id : Sha256) : DiagnosisRecord :=
    { diagnosis_id := diagnosis_id
      incident_id := (input.bundles.head?.map (·.incident_id)).getD []
      condition_evaluation_id := input.condition_evaluation.evaluation_id
      context := context
      policy := setting.policy
      initial_evidence_ids := setting.initial_evidence_ids
      additional_evidence := state.evidence
      steps := state.steps
      hypotheses := settled.decision.hypotheses
      stop_reason := settled.decision.stop_reason
      steps_used := state.steps.length
      started_at := started_at
      completed_at := completed_at
      model_response_ids := settled.response_ids
      usage := settled.usage
      validation := settled.validation
      output_repairs_used := settled.output_repairs_used
      validation_attempts := settled.validation_attempts }
  -- the id covers no field that holds the id
  let run := record (rt.recordDigest (record input.condition_evaluation.evaluation_id).identity)
  run.validate rt.recordDigest
  return run

/-- What the run makes of the loop's decision. -/
def finishDiagnosis (rt : DiagnosisRuntime) (input : DiagnosisInput) (setting : DiagnosisSetting)
    (state : DiagnosisState) (started_at : Aware) (decision : AgentDecision) :
    Diagnosing DiagnosisRecord := do
  let settled ← settleDecision rt setting state decision
  let completed_at ← Prog.call DiagnosisOp.now
  fromOps (diagnosisRecord rt input setting state settled started_at completed_at)

/-- `run_diagnosis(bundles=..., condition_evaluation=..., client=..., policy=...)`. -/
def runDiagnosis (rt : DiagnosisRuntime) (evaluate : List EvidenceBundle → Except OpsExc Sha256)
    (input : DiagnosisInput) : Diagnosing DiagnosisRecord := do
  let started_at ← Prog.call DiagnosisOp.now
  let setting ← fromOps (beginDiagnosis rt evaluate input)
  let (exit, state) ← diagnosisLoop rt setting setting.policy.max_tool_calls (firstState input)
  finishDiagnosis rt input setting state started_at (exit.decision rt)

end EventPipeline.OpsAgent
