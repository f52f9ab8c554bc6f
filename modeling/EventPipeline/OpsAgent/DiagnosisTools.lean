import EventPipeline.Concurrency.Program
import EventPipeline.OpsAgent.Calibration
import EventPipeline.OpsAgent.DiagnosisModels

/-!
# EventPipeline.OpsAgent.DiagnosisTools

`ops_agent/diagnosis_tools.py`, and what a diagnosis asks of its surroundings.

A diagnosis is a program over three operations: the clock, the model client, and the
handler of a tool, which selects evidence items and summarises them. The handlers only
read; what one returns, or that it raises, is the answer of its operation, so the results
hold whatever the summaries are.
-/

namespace EventPipeline.OpsAgent

open EventPipeline.Python EventPipeline.Concurrency

/-! ### The runtime -/

/-- What an evidence id of a tool is the digest of. -/
structure ToolIdentity where
  tool_registry_version : PyStr
  tool_id : PyStr
  condition_evaluation_id : Sha256
  source_bundle_digests : List PyStr
  source_evidence_ids : List PyStr
  summary : Dict

/-- An upper-case letter, a space or an underscore. -/
def isUpperAscii (c : CodePoint) : Bool :=
  (65 ≤ c.val && c.val ≤ 90) || c.val = 32 || c.val = 95

/-- What a diagnosis takes from the standard library and from pydantic. `str.upper` maps the
characters of a text one by one, and leaves upper-case ASCII as it is. -/
structure DiagnosisRuntime extends OpsRuntime where
  upper_append : ∀ a b, upper (a ++ b) = upper a ++ upper b
  upper_ascii : ∀ text, text.all isUpperAscii = true → upper text = text
  /-- `canonical_sha256` of the identity of a tool's evidence. -/
  toolDigest : ToolIdentity → Sha256
  /-- `canonical_sha256` of the identity of a diagnosis. -/
  recordDigest : DiagnosisRecordIdentity → Sha256
  /-- `AgentDecision.model_validate_json(text)`. -/
  parseDecision : PyStr → Option AgentDecision
  /-- `json.loads(text)`; `none` where it raises. -/
  jsonLoads : PyStr → Option Json
  /-- `repr` of a list of strings. -/
  reprList : List PyStr → PyStr

/-! ### The activation a diagnosis starts from -/

/-- A sequence evaluation, with what a diagnosis reads beyond the lifecycle. -/
structure DiagnosisActivation extends SequenceConditionEvaluation where
  /-- `[item.bundle_id for item in source_bundles]`. -/
  bundle_ids : List PyStr
  /-- `evidence_ids` and `facts` of `conditions[CORE_BACKLOG_PRESSURE]`. -/
  core_evidence_ids : List PyStr
  core_facts : Dict

/-! ### The tools -/

/-- `ToolSpec`. -/
structure ToolSpec where
  tool_id : PyStr
  description : PyStr
  reason_code : PyStr
  deriving DecidableEq

/-- `TOOL_REGISTRY_VERSION`. -/
def toolRegistryVersion : PyStr := "ops.diagnosis.tools.v1"

/-- `TOOL_SPECS`. -/
def toolSpecs : List ToolSpec := [
  ⟨"get_partition_lag",
    "Return per-partition Kafka lag across the deterministic activation window.",
    "CHECK_PARTITION_LAG_DISTRIBUTION"⟩,
  ⟨"get_worker_stage_latency",
    "Return normalized Worker db_persist stage latency context; commit is excluded.",
    "CHECK_WORKER_PERSIST_STAGE"⟩,
  ⟨"get_worker_replica_status",
    "Return Worker desired/current/ready/available replica observations.",
    "CHECK_WORKER_REPLICA_PATH"⟩,
  ⟨"get_keda_status",
    "Return the Worker KEDA ScaledObject observations and conditions.",
    "CHECK_KEDA_ACTIVITY"⟩,
  ⟨"get_postgres_health",
    "Return normalized PostgreSQL HA readiness component observations.",
    "CHECK_POSTGRES_HEALTH"⟩,
  ⟨"get_application_readiness",
    "Return normalized application readiness observations.",
    "CHECK_APPLICATION_READINESS"⟩,
  ⟨"get_runtime_image",
    "Return desired Worker image and observed pod image identifiers.",
    "CHECK_RUNTIME_IMAGE_CONSISTENCY"⟩,
  ⟨"get_pod_restart_status",
    "Return Worker pod phase, readiness, restart, and last termination observations.",
    "CHECK_WORKER_RESTARTS"⟩,
  ⟨"get_argocd_status",
    "Return normalized Argo CD sync, health, revision, and reconciliation observations.",
    "CHECK_GITOPS_STATUS"⟩]

/-- `TOOL_BY_ID.get(tool_id)`: none for a name that is not on the list. -/
def toolById (tool_id : PyStr) : Option ToolSpec := toolSpecs.find? (·.tool_id = tool_id)

/-- `DiagnosisToolRegistry`, with the indexes of the activation window. -/
structure DiagnosisToolRegistry where
  bundles : List EvidenceBundle
  evaluation : DiagnosisActivation
  indexes : List Int

/-- `int(value)`. -/
def intOf (rt : OpsRuntime) : Json → Except OpsExc Int
  | .int z => .ok z
  | .bool b => .ok (if b then 1 else 0)
  | .float (.finite neg mag) =>
      let value := PyFloat.toRat neg mag
      .ok (value.num.tdiv value.den)
  | .float (.inf _) => .error .arithmeticError
  | .float .nan => .error (.valueError "cannot convert float NaN to integer")
  | .str text =>
      match parseInt rt.chars text with
      | some z => .ok z
      | none => .error (.valueError "invalid literal for int() with base 10")
  | _ => .error .typeError

/-- `values[index]`. -/
def pyIndex {α : Type} (values : List α) (index : Int) : Except OpsExc α :=
  let i := if index < 0 then index + values.length else index
  if i < 0 then .error .indexError
  else
    match values[i.toNat]? with
    | some value => .ok value
    | none => .error .indexError

/-- The bundles and the references of the activation agree, pair by pair. -/
def checkBundles (rt : DiagnosisRuntime) :
    List (EvidenceBundle × PyStr × SequenceSourceBundleReference) → Except OpsExc Unit
  | [] => .ok ()
  | (bundle, bundle_id, reference) :: rest => do
      ensure (bundle.bundle_id = bundle_id)
        (.valueError "condition evaluation bundle order mismatch")
      ensure (rt.sha256 bundle = reference.source_bundle_sha256)
        (.valueError "condition evaluation source bundle digest mismatch")
      checkBundles rt rest

/-- `windows[0]`, where `matched_activation_windows` is a list that begins with a list. -/
def firstWindow (facts : Dict) : Option (List Json) :=
  match getOrNull facts "matched_activation_windows" with
  | .arr (.arr window :: _) => some window
  | _ => none

/-- `DiagnosisToolRegistry(bundles=..., condition_evaluation=...)`. -/
def DiagnosisToolRegistry.create (rt : DiagnosisRuntime) (bundles : List EvidenceBundle)
    (evaluation : DiagnosisActivation) : Except OpsExc DiagnosisToolRegistry := do
  evaluation.verifyIntegrity rt.toOpsRuntime
  ensure (evaluation.core_state = .present)
    (.valueError "diagnosis requires CORE_BACKLOG_PRESSURE=PRESENT")
  ensure (bundles.length = evaluation.source_bundles.length)
    (.valueError "condition evaluation bundle count mismatch")
  checkBundles rt (bundles.zip (evaluation.bundle_ids.zip evaluation.source_bundles))
  match firstWindow evaluation.core_facts with
  | none => .error (.valueError "PRESENT condition lacks a matched activation window")
  | some window => do
      let indexes ← window.mapM (intOf rt.toOpsRuntime)
      return ⟨bundles, evaluation, indexes⟩

/-- `function_tools()`: what the model may still call, since no tool is called twice. -/
def functionTools (called : List PyStr) : List ToolSpec :=
  toolSpecs.filter fun spec => spec.tool_id ∉ called

/-! ### Evidence of a tool -/

/-- What a handler returns: the items it read and their summary. -/
abbrev ToolReading := List EvidenceItem × Dict

/-- `min(times)` and `max(times)`, of aware datetimes. -/
def earliest : List Aware → Option Aware
  | [] => none
  | t :: ts => some (ts.foldl (fun a b => if b.instant < a.instant then b else a) t)

def latest : List Aware → Option Aware
  | [] => none
  | t :: ts => some (ts.foldl (fun a b => if a.instant < b.instant then b else a) t)

/-- The freshness of the items together. -/
def itemsFreshness (items : List EvidenceItem) : FreshnessStatus :=
  if items.any (·.freshness.status = .stale) then .stale
  else if items ≠ [] ∧ items.all (·.freshness.status = .fresh) = true then .fresh
  else .unknown

/-- `max(max_ages) if max_ages else None`. -/
def oldestAge (items : List EvidenceItem) : Option PyFloat :=
  match items.filterMap (·.freshness.max_age_seconds) with
  | [] => none
  | age :: ages => some (ages.foldl PyFloat.maximum age)

/-- `f"diagnosis.{tool_id}.{canonical_sha256(identity)[:24]}"`. -/
def diagnosisEvidenceId (tool_id : PyStr) (digest : Sha256) : PyStr :=
  PyStr.ofString "diagnosis." ++ tool_id ++ PyStr.ofString "." ++ digest.text.take 24

/-- The evidence `execute` makes of a reading. -/
def toolEvidence (rt : DiagnosisRuntime) (registry : DiagnosisToolRegistry) (tool_id : PyStr)
    (reading : ToolReading) : Except OpsExc DiagnosisEvidence := do
  let (items, summary) := reading
  let selected ← registry.indexes.mapM (pyIndex registry.bundles)
  let references ← registry.indexes.mapM (pyIndex registry.evaluation.source_bundles)
  let digests := references.map (·.source_bundle_sha256.text)
  let source_timestamps := items.filterMap (·.source_timestamp)
  let source_evidence_ids := sortedSet (items.map (·.evidence_id))
  match latest (selected.map (·.collection.completed_at)) with
  | none => .error (.valueError "max() arg is an empty sequence")
  | some observed_at => do
      let evidence : DiagnosisEvidence :=
        { evidence_id := diagnosisEvidenceId tool_id (rt.toolDigest
            { tool_registry_version := toolRegistryVersion
              tool_id := tool_id
              condition_evaluation_id := registry.evaluation.evaluation_id
              source_bundle_digests := digests
              source_evidence_ids := source_evidence_ids
              summary := summary })
          tool_id := tool_id
          status := evidenceStatusSummary (items.map (·.status))
          observed_at := observed_at
          freshness :=
            { status := itemsFreshness items
              oldest_source_timestamp := earliest source_timestamps
              newest_source_timestamp := latest source_timestamps
              max_age_seconds := oldestAge items }
          source_evidence_ids := source_evidence_ids
          source_bundle_digests := digests
          semantic_type := PyStr.ofString "normalized_" ++ tool_id ++ PyStr.ofString "_observation"
          summary := summary }
      evidence.validate
      return evidence

/-! ### The surroundings

The model client, the clock and the handlers of the tools answer as they like. What they can raise
is part of the answers. -/

/-- What the validator found wrong with a decision. -/
structure ValidationFailure where
  code : PyStr
  message : PyStr
  details : Dict

/-- What a diagnosis raises. -/
inductive DiagnosisExc
  | ops (e : OpsExc)
  /-- An exception of the model client, by `type(exc).__name__`. -/
  | client (name : PyStr)
  /-- `DiagnosisOutputContractFailure`. -/
  | contractFailure (initial_error : ValidationFailure) (final_error : Option ValidationFailure)

/-- An entry of the history the model is sent; the JSON texts of the source are kept as what
they are the text of. -/
inductive HistoryItem
  | system
  | request (condition_evaluation_id : Sha256) (activation_facts : Dict)
      (initial_evidence_ids : List PyStr) (unavailable_telemetry : List Dict)
      (available_tools : List PyStr) (max_steps max_tool_calls : Nat)
  | output (item : Dict)
  | functionCallOutput (call_id : Json) (evidence : DiagnosisEvidence)
  | assistant (decision : AgentDecision)
  | repair (condition_evaluation_id : Sha256) (validation_error : ValidationFailure)
      (decision : AgentDecision) (allowed_evidence_ids : List PyStr)

/-- `_request_payload(policy=..., history=..., tools=...)`. -/
structure ModelRequest where
  policy : DiagnosisPolicy
  history : List HistoryItem
  tools : List ToolSpec

/-- `ModelResponse`, as far as it is read. -/
structure ModelResponse where
  response_id : PyStr
  output : List Dict
  output_text : Option PyStr
  input_tokens : Int
  output_tokens : Int
  total_tokens : Int

/-- What a diagnosis asks for. -/
inductive DiagnosisOp
  | now
  /-- `client.create(payload)`. -/
  | create (payload : ModelRequest)
  /-- The handler of a tool. -/
  | observe (tool_id : PyStr)

/-- What comes back. -/
abbrev DiagnosisOp.Res : DiagnosisOp → Type
  | .now => Aware
  | .create _ => Except PyStr ModelResponse
  | .observe _ => Except OpsExc ToolReading

/-- A program of the diagnosis agent. -/
abbrev Diagnosing (α : Type) := Prog DiagnosisOp DiagnosisOp.Res DiagnosisExc α

/-- A computation of the agent itself. -/
def fromOps {α : Type} : Except OpsExc α → Diagnosing α
  | .ok a => .ret a
  | .error e => .throw (.ops e)

/-- `registry.execute(tool_id)`, of a registry whose calls so far are `called`. -/
def DiagnosisToolRegistry.execute (rt : DiagnosisRuntime) (registry : DiagnosisToolRegistry)
    (called : List PyStr) (tool_id : PyStr) : Diagnosing DiagnosisEvidence := do
  fromOps (ensure ((toolById tool_id).isSome = true) (.valueError "tool is not allowlisted"))
  fromOps (ensure (tool_id ∉ called) (.valueError "tool may not be repeated"))
  let reading ← Prog.call (DiagnosisOp.observe tool_id)
  fromOps (reading.bind (toolEvidence rt registry tool_id))

end EventPipeline.OpsAgent
