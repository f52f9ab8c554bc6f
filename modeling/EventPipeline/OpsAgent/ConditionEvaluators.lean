import EventPipeline.OpsAgent.BacklogEvaluator

/-!
# EventPipeline.OpsAgent.ConditionEvaluators

The other three conditions of `ops_agent/evaluator.py`, the assessment over them, and
`evaluate_bundle` with all of its conditions.

An observation collects issues while its evidence is read; the readers here return what
they read together with the issues they add, in the order in which they add them. A
condition that reaches its verdict has passed the check that no required observation has an
issue.
-/

namespace EventPipeline.OpsAgent.Evaluator

open EventPipeline.Python EventPipeline.Sequences

/-! ### Dependencies -/

/-- `ConditionName`. -/
inductive ConditionName
  | coreBacklogPressure | partitionLagConcentrationObserved | dbDegraded | workerReplicaUnavailable
  deriving DecidableEq

def ConditionName.value : ConditionName → PyStr
  | coreBacklogPressure => "CORE_BACKLOG_PRESSURE"
  | partitionLagConcentrationObserved => "PARTITION_LAG_CONCENTRATION_OBSERVED"
  | dbDegraded => "DB_DEGRADED"
  | workerReplicaUnavailable => "WORKER_REPLICA_UNAVAILABLE"

/-- What the two views of the readiness response have in common. -/
def readinessSpec (name metric_name semantic_type : PyStr) : DependencySpec :=
  { name := name
    metric_names := [metric_name]
    requirement := .required
    source := some "application"
    tool_id := some "application.readiness.get.v1"
    semantic_type := some semantic_type
    freshness_basis := some "collector_time_http_response"
    freshness_max_age_seconds := some (PyFloat.ofNat 10)
    required_labels := [("endpoint", "/health/ready")] }

/-- `_APPLICATION_READINESS`. -/
def applicationReadiness : DependencySpec :=
  readinessSpec "application_readiness" "application_readiness_observation" "application_readiness"

/-- `_POSTGRES_RUNTIME`. -/
def postgresRuntime : DependencySpec :=
  readinessSpec "postgres_runtime_readiness" "application_postgres_runtime_observation"
    "application_postgres_runtime_observation"

/-- `_WORKER_DEPLOYMENT`. -/
def workerDeployment : DependencySpec :=
  { name := "worker_deployment"
    metric_names := ["kubernetes_worker_deployment_observation"]
    requirement := .required
    source := some "kubernetes"
    tool_id := some "k8s.worker_deployment.get.v1"
    semantic_type := some "worker_deployment_raw_observation"
    freshness_basis := some "collector_time_kubernetes_api_observation"
    freshness_max_age_seconds := some (PyFloat.ofNat 30)
    required_labels := [("deployment", "worker"), ("namespace", "messaging-app")] }

/-- `CONDITION_DEPENDENCIES[condition][DependencyRequirement.REQUIRED]`. -/
def requiredDependencies : ConditionName → List DependencySpec
  | .coreBacklogPressure => [endOffset, committedOffset, partitionLag]
  | .partitionLagConcentrationObserved => [partitionLag]
  | .dbDegraded => [applicationReadiness, postgresRuntime]
  | .workerReplicaUnavailable => [workerDeployment]

/-- `CONDITION_DEPENDENCIES[condition][DependencyRequirement.OPTIONAL]`. -/
def optionalDependencies : ConditionName → List DependencySpec
  | .coreBacklogPressure => coreOptional
  | .partitionLagConcentrationObserved => [
      optionalSpec "partition_end_offset_slope" ["kafka_topic_partition_current_offset"],
      optionalSpec "worker_terminal_processing" ["messaging_worker_processed_total"]]
  | .dbDegraded => [
      optionalSpec "event_persist_lag_samples"
        ["messaging_event_persist_lag_seconds_count", "messaging_event_persist_lag_seconds"],
      optionalSpec "worker_db_persist_stage_samples"
        ["messaging_worker_stage_latency_seconds_count",
          "messaging_worker_stage_latency_seconds"]]
  | .workerReplicaUnavailable => [
      optionalSpec "application_worker_summary" ["application_ops_summary_observation"],
      optionalSpec "worker_pods" ["kubernetes_worker_pod_observations"],
      optionalSpec "worker_scaled_object" ["kubernetes_worker_scaled_object_observation"]]

/-- `_evidence_index(bundle)`: the items of a metric, by evidence id. -/
def evidenceIndex (bundle : EvidenceBundle) (metric_name : PyStr) : List EvidenceItem :=
  (bundle.items metric_name).insertionSort fun a b => a.evidence_id ≤ b.evidence_id

/-- A dependency on one metric has the items of its index. -/
theorem dependencyItems_singleton {spec : DependencySpec} {metric_name : PyStr}
    (h : spec.metric_names = [metric_name]) (bundle : EvidenceBundle) :
    dependencyItems spec bundle = evidenceIndex bundle metric_name := by
  rw [dependencyItems, evidenceIndex, h, List.flatMap_singleton]

/-! ### Results

Each condition has facts of its own, so that the facts of a result are a case for each condition.
-/

/-- The facts of the concentration condition; the last two are there where there is lag. -/
structure ConcentrationFacts where
  partition_lag : List (PyStr × PyNumber)
  latest_total_lag_records : Option PyNumber
  maximum_total_lag_records : Option PyNumber
  maximum_partition_share : Option PyFloat
  maximum_partition_lag_records : Option PyNumber
  dominant_partitions : Option (List PyStr)

/-- What is read of the Postgres component. -/
structure PostgresReading where
  ha_mode : Option Bool
  primary_reachable : Option Bool
  standby_count : Option Nat
  sync_standby_count : Option Nat
  max_replication_delay_bytes : Option Nat

/-- `local_ha_guardrails`. -/
structure Guardrails where
  ha_mode_required : Bool
  min_ready_standbys : Nat
  min_sync_standbys : Nat
  max_replication_delay_bytes : Nat

/-- The facts of the database condition. -/
structure DatabaseFacts where
  observed : Option PostgresReading
  readiness_status : Option PyStr
  readiness_reasons : Option (List PyStr)
  local_ha_guardrails : Guardrails

/-- The facts of the worker condition. -/
structure WorkerFacts where
  generation : Option Nat
  observed_generation : Option Nat
  desired_replicas : Option Nat
  current_replicas : Option Nat
  available_replicas : Option Nat
  unavailable_grace_seconds : Nat

/-- The facts of a condition. -/
inductive ConditionFacts
  | backlog (facts : BacklogFacts)
  | concentration (facts : ConcentrationFacts)
  | database (facts : DatabaseFacts)
  | worker (facts : WorkerFacts)

/-- A `ConditionResult` with its name and the facts of its own condition. -/
structure ConditionReport where
  condition : ConditionName
  state : ConditionState
  reason_codes : List PyStr
  evidence_ids : List PyStr
  required_evidence : List EvidenceDependencyTrace
  optional_evidence : List EvidenceDependencyTrace
  missing_required_dependencies : List PyStr
  stale_required_evidence_ids : List PyStr
  unknown_freshness_required_evidence_ids : List PyStr
  facts : ConditionFacts

/-- The result of the core condition, as one among the others. -/
def ConditionResult.report (result : ConditionResult) : ConditionReport :=
  { condition := .coreBacklogPressure
    state := result.state
    reason_codes := result.reason_codes
    evidence_ids := result.evidence_ids
    required_evidence := result.required_evidence
    optional_evidence := result.optional_evidence
    missing_required_dependencies := result.missing_required_dependencies
    stale_required_evidence_ids := result.stale_required_evidence_ids
    unknown_freshness_required_evidence_ids := result.unknown_freshness_required_evidence_ids
    facts := .backlog result.facts }

/-- `_condition_result(...)`; `dict.fromkeys` keeps the first of equal reasons. -/
def conditionReport (rt : OpsRuntime) (condition : ConditionName) (state : ConditionState)
    (reason_codes : List PyStr) (required optional : List ObservedDependency)
    (facts : ConditionFacts) : ConditionReport :=
  let traces := required.map (·.trace rt)
  { condition := condition
    state := state
    reason_codes := reason_codes.eraseDups
    evidence_ids := sortedSet ((required.flatMap (·.items)).map (·.evidence_id))
    required_evidence := traces
    optional_evidence := optional.map (·.trace rt)
    missing_required_dependencies :=
      ((traces.filter (·.missing)).map (·.dependency)).insertionSort (· ≤ ·)
    stale_required_evidence_ids := sortedSet (traces.flatMap (·.stale_evidence_ids))
    unknown_freshness_required_evidence_ids :=
      sortedSet (traces.flatMap (·.unknown_freshness_evidence_ids))
    facts := facts }

/-- `_unknown_condition(...)`: the condition whose required evidence is unusable. Its reasons are
that, and the codes of the issues. -/
def unknownCondition (rt : OpsRuntime) (condition : ConditionName)
    (required optional : List ObservedDependency) (facts : ConditionFacts) : ConditionReport :=
  conditionReport rt condition .unknown
    ((condition.value ++ PyStr.ofString "_REQUIRED_EVIDENCE_UNUSABLE") :: allIssueCodes required)
    required optional facts

/-- `any(item.blocking for item in required)`, where all of them are required. -/
def blocked (required : List ObservedDependency) : Bool :=
  required.any fun observation => !observation.issues.isEmpty

/-! ### The concentration of the lag -/

/-- The verdict over a lag family without an issue. -/
def usableConcentration (dec : DecimalArithmetic) (rt : OpsRuntime)
    (lag : List (PyStr × EvidenceItem × Series)) (required optional : List ObservedDependency)
    (facts : ConcentrationFacts) : Except OpsExc ConditionReport := do
  let condition := ConditionName.partitionLagConcentrationObserved
  let totals ← totalLagSeries dec (lag.map (·.2.2.values)) (List.range expectedSampleCount)
  let maximum_total_lag := totals.foldl max (totals.headD 0)
  let latest_total := totals.getLastD 0
  let facts := { facts with
    latest_total_lag_records := some (numberOf latest_total)
    maximum_total_lag_records := some (numberOf maximum_total_lag) }
  if maximum_total_lag = 0 then
    return conditionReport rt condition .absent
      [PyStr.ofString "NO_LAG_TO_CONCENTRATE_FOR_FULL_WINDOW"] required optional
      (.concentration { facts with maximum_partition_share := some .zero })
  else do
    let latest_values := lag.map fun entry => (entry.1, entry.2.2.values.getLastD 0)
    let maximum_lag := (latest_values.map (·.2)).foldl max ((latest_values.map (·.2)).headD 0)
    let dominant := (latest_values.filter (·.2 = maximum_lag)).map (·.1)
    let share ← if 0 < latest_total then dec (maximum_lag / latest_total) else .ok 0
    return conditionReport rt condition .unknown
      [PyStr.ofString "PARTITION_LAG_OBSERVED_IN_WINDOW",
        PyStr.ofString "CONCENTRATION_POLICY_UNCALIBRATED"] required optional
      (.concentration { facts with
        maximum_partition_lag_records := some (numberOf maximum_lag)
        maximum_partition_share := some (PyFloat.ofRat share)
        dominant_partitions := some (dominant.insertionSort (· ≤ ·)) })

/-- `_evaluate_partition_concentration(bundle, index, policy)`. -/
def evaluatePartitionConcentration (dec : DecimalArithmetic) (rt : OpsRuntime)
    (bundle : EvidenceBundle) : Except OpsExc ConditionReport := do
  let condition := ConditionName.partitionLagConcentrationObserved
  let optional := (optionalDependencies condition).map (observeDependency · bundle)
  let (lag, observation) ← partitionValues dec rt bundle (observeDependency partitionLag bundle)
    true false false
  let facts : ConcentrationFacts := ⟨latestValues lag, none, none, none, none, none⟩
  if blocked [observation] = true then
    return unknownCondition rt condition [observation] optional (.concentration facts)
  else usableConcentration dec rt lag [observation] optional facts

/-! ### Fields

The database and the worker condition read fields of one mapping. A field that is missing or of
another type is an issue of the dependency, with its name in the detail. -/

/-- `_single_mapping_value(observation)`: the object of the one item that is `OK`. Several such
items are an issue, and so is a value that is no object; none at all is not. -/
def singleMappingValue (observation : ObservedDependency) : Option Dict × List EvidenceIssue :=
  match observation.items.filter (·.status = .ok) with
  | [] => (none, [])
  | [item] =>
      match item.metric.value with
      | .obj kvs => (some kvs, [])
      | _ => (none, itemIssues item [⟨PyStr.ofString "REQUIRED_VALUE_INVALID", none⟩])
  | _ => (none, familyIssues [⟨PyStr.ofString "REQUIRED_EVIDENCE_AMBIGUOUS", none⟩])

/-- The only item of an observation, where there is one. -/
def ObservedDependency.single (observation : ObservedDependency) : Option EvidenceItem :=
  match observation.items with
  | [item] => some item
  | _ => none

/-- Issues about the only item; where there are more they name none. -/
def singleIssues (observation : ObservedDependency) (findings : List Finding) :
    List EvidenceIssue :=
  findings.map (·.issue (observation.single.map (·.evidence_id)))

/-- Issues that name `observation.items[0]`. -/
def firstIssues (observation : ObservedDependency) (findings : List Finding) :
    List EvidenceIssue :=
  findings.map (·.issue (observation.items.head?.map (·.evidence_id)))

/-- The issue of a field that is missing or has another type. -/
def fieldIssue (value : Dict) (field_name : String) (observation : ObservedDependency) :
    List EvidenceIssue :=
  let code := if (Dict.get? value field_name).isNone then
    PyStr.ofString "REQUIRED_FIELD_MISSING" else PyStr.ofString "REQUIRED_FIELD_INVALID"
  singleIssues observation [⟨code, some (.plain (PyStr.ofString field_name))⟩]

/-- `_required_bool(value, field_name, observation)`. -/
def requiredBool (value : Dict) (field_name : String) (observation : ObservedDependency) :
    Option Bool × List EvidenceIssue :=
  match Dict.get? value field_name with
  | some (.bool b) => (some b, [])
  | _ => (none, fieldIssue value field_name observation)

/-- `_required_nonnegative_int(value, field_name, observation)`. -/
def requiredNonnegativeInt (value : Dict) (field_name : String)
    (observation : ObservedDependency) : Option Nat × List EvidenceIssue :=
  match Dict.get? value field_name with
  | some (.int (.ofNat n)) => (some n, [])
  | _ => (none, fieldIssue value field_name observation)

/-! ### The database -/

/-- `local_ha_min_ready_standbys`. -/
def minReadyStandbys : Nat := 2

/-- `local_ha_min_sync_standbys`. -/
def minSyncStandbys : Nat := 1

/-- `local_ha_max_replication_delay_bytes`. -/
def maxReplicationDelayBytes : Nat := 1048576

/-- The guardrails of the policy. -/
def localHaGuardrails : Guardrails :=
  ⟨true, minReadyStandbys, minSyncStandbys, maxReplicationDelayBytes⟩

/-- The fields of the Postgres component. -/
def readPostgres (value : Dict) (observation : ObservedDependency) :
    PostgresReading × List EvidenceIssue :=
  let (ha_mode, ha_issues) := requiredBool value "ha_mode" observation
  let (primary, primary_issues) := requiredBool value "primary_reachable" observation
  let (standby, standby_issues) := requiredNonnegativeInt value "standby_count" observation
  let (sync, sync_issues) := requiredNonnegativeInt value "sync_standby_count" observation
  let (delay, delay_issues) :=
    requiredNonnegativeInt value "max_replication_delay_bytes" observation
  (⟨ha_mode, primary, standby, sync, delay⟩,
    ha_issues ++ primary_issues ++ standby_issues ++ sync_issues ++ delay_issues)

/-- What is read of the readiness response. -/
structure ReadinessReading where
  body_status : Option PyStr
  reasons : Option (List PyStr)

/-- The reasons, where they are a list of strings. -/
def readReasons : Json → Option (List PyStr)
  | .arr xs => xs.mapM fun
      | .str reason => some reason
      | _ => none
  | _ => none

/-- `body_status`, where it is one of the three. -/
def readBodyStatus : Json → Option PyStr
  | .str status =>
      if status ∈ ([PyStr.ofString "ready", PyStr.ofString "degraded",
        PyStr.ofString "not_ready"] : List PyStr) then some status else none
  | _ => none

/-- `expected_http_status`. -/
def expectedHttpStatus (body_status : Option PyStr) : Nat :=
  if body_status = some (PyStr.ofString "not_ready") then 503 else 200

/-- `isinstance(http_status, int)` and the status that is expected. -/
def httpStatusMatches (body_status : Option PyStr) : Json → Bool
  | .int z => z = expectedHttpStatus body_status
  | _ => false

/-- `dict(nested_postgres) == dict(postgres_value)`, where there is one to compare with. -/
def nestedMatches (postgres_value : Option Dict) : Json → Bool
  | .obj nested => postgres_value.all fun value => (Json.obj nested).pyEq (.obj value)
  | _ => false

/-- The reasons in a body, and the findings about it. -/
def readBody (body_status : Option PyStr) (postgres_value : Option Dict) (body : Dict) :
    Option (List PyStr) × List Finding :=
  let status : Json := (body_status.map Json.str).getD .null
  let reasons := readReasons (getOrNull body "reason")
  (reasons,
    findingIf ((getOrNull body "status").pyEq status = false) "READINESS_STATUS_BODY_MISMATCH"
      ++ findingIf (reasons = none) "REQUIRED_READINESS_REASONS_INVALID"
      ++ findingIf (nestedMatches postgres_value (getOrNull body "postgres") = false)
        "READINESS_POSTGRES_COMPONENT_MISMATCH")

/-- `isinstance(raw_body, Mapping)`. -/
def asMapping : Json → Option Dict
  | .obj kvs => some kvs
  | _ => none

/-- The fields of the readiness response. -/
def readReadiness (rt : OpsRuntime) (value : Dict) (postgres_value : Option Dict)
    (observation : ObservedDependency) : ReadinessReading × List EvidenceIssue :=
  let body := asMapping (getOrNull value "body")
  let body_status := readBodyStatus (getOrNull value "body_status")
  let http_status := getOrNull value "http_status"
  let (reasons, body_findings) :=
    (body.map (readBody body_status postgres_value)).getD (none, [])
  (⟨body_status, reasons⟩, firstIssues observation (
    findingIf (body.isNone = true) "REQUIRED_READINESS_BODY_INVALID"
      ++ findingIf (body_status = none) "REQUIRED_READINESS_STATUS_INVALID"
      ++ findingIf (httpStatusMatches body_status http_status = false)
        "READINESS_HTTP_STATUS_MISMATCH"
        (some (.printed (natStr (expectedHttpStatus body_status)) (reprOf rt http_status)))
      ++ body_findings))

/-- The findings about two items that are not from one response. -/
def sameResponseFindings : Option EvidenceItem → Option EvidenceItem → List Finding
  | some readiness, some postgres =>
      findingIf (readiness.raw_ref = none ∨
          (readiness.raw_ref, readiness.raw_sha256) ≠ (postgres.raw_ref, postgres.raw_sha256))
        "READINESS_POSTGRES_RAW_SOURCE_MISMATCH"
      ++ findingIf (readiness.source_timestamp.map (·.instant) ≠
          postgres.source_timestamp.map (·.instant)) "READINESS_POSTGRES_TIMESTAMP_MISMATCH"
      ++ findingIf (readiness.collected_at.instant ≠ postgres.collected_at.instant)
        "READINESS_POSTGRES_COLLECTION_TIMESTAMP_MISMATCH"
  | _, _ => []

/-- `_POSTGRES_REASON_PREDICATES`: the reasons about Postgres, and what they say of it. -/
def degradationObserved (reading : PostgresReading) : List (PyStr × Bool) := [
  (PyStr.ofString "postgres_primary_unreachable", reading.primary_reachable = some false),
  (PyStr.ofString "postgres_ready_standbys_below_minimum",
    reading.standby_count.any (· < minReadyStandbys)),
  (PyStr.ofString "postgres_sync_standbys_below_minimum",
    reading.sync_standby_count.any (· < minSyncStandbys)),
  (PyStr.ofString "postgres_replication_delay_high",
    reading.max_replication_delay_bytes.any (maxReplicationDelayBytes < ·))]

/-- The reasons that start with `postgres_`. -/
def postgresReasons (reasons : List PyStr) : List PyStr :=
  reasons.filter (PyStr.ofString "postgres_").isPrefixOf

/-- Which observation an objection to readable evidence goes to. -/
inductive ReadinessView
  | readiness | postgres
  deriving DecidableEq

/-- The reasons about Postgres that the policy does not know. -/
def unknownPostgresReasons (reading : PostgresReading) (reasons : List PyStr) : List PyStr :=
  let known := (degradationObserved reading).map (·.1)
  sortedSet ((postgresReasons reasons).filter (· ∉ known))

/-- The reasons that say something else than the component. -/
def conflicts (reading : PostgresReading) (reasons : List PyStr) : List PyStr :=
  let conflicting := (degradationObserved reading).filter fun entry =>
    entry.2 != decide (entry.1 ∈ postgresReasons reasons)
  (conflicting.map (·.1)).insertionSort (· ≤ ·)

/-- The checks that follow the blocking one: each adds one issue and ends the evaluation. -/
def readinessObjection (reading : PostgresReading) (body_status : Option PyStr)
    (reasons : List PyStr) : Option (ReadinessView × Finding) :=
  if unknownPostgresReasons reading reasons ≠ [] then
    some (.readiness, ⟨PyStr.ofString "READINESS_POSTGRES_REASON_UNRECOGNIZED",
      some (.names (unknownPostgresReasons reading reasons))⟩)
  else if reading.ha_mode ≠ some true then
    some (.postgres, ⟨PyStr.ofString "LOCAL_HA_MODE_CONTRACT_MISMATCH",
      some (.haMode reading.ha_mode)⟩)
  else if conflicts reading reasons ≠ [] then
    some (.readiness, ⟨PyStr.ofString "READINESS_POSTGRES_REASON_COMPONENT_CONFLICT",
      some (.names (conflicts reading reasons))⟩)
  else if body_status = some (PyStr.ofString "ready") ∧ reasons ≠ [] then
    some (.readiness, ⟨PyStr.ofString "READINESS_READY_WITH_REASONS", none⟩)
  else if (body_status = some (PyStr.ofString "degraded") ∨
      body_status = some (PyStr.ofString "not_ready")) ∧ reasons = [] then
    some (.readiness, ⟨PyStr.ofString "READINESS_NON_READY_WITHOUT_REASONS", none⟩)
  else none

/-- The verdict over a readiness response that was read. -/
def usableReadiness (rt : OpsRuntime) (reading : PostgresReading) (body_status : Option PyStr)
    (reasons : List PyStr) (readiness postgres : ObservedDependency)
    (optional : List ObservedDependency) (facts : ConditionFacts) : ConditionReport :=
  let condition := ConditionName.dbDegraded
  match readinessObjection reading body_status reasons with
  | some (.readiness, finding) =>
      unknownCondition rt condition
        [readiness.addIssues (singleIssues readiness [finding]), postgres] optional facts
  | some (.postgres, finding) =>
      unknownCondition rt condition
        [readiness, postgres.addIssues (singleIssues postgres [finding])] optional facts
  | none =>
      match sortedSet (postgresReasons reasons) with
      | [] => conditionReport rt condition .absent
          [PyStr.ofString "NO_POSTGRES_DEGRADATION_REASON"] [readiness, postgres] optional facts
      | db_reasons => conditionReport rt condition .present
          (db_reasons.map fun reason =>
            PyStr.ofString "APPLICATION_READINESS_" ++ rt.upper reason)
          [readiness, postgres] optional facts

/-- `_evaluate_db_degraded(index, policy)`. -/
def evaluateDbDegraded (rt : OpsRuntime) (bundle : EvidenceBundle) : ConditionReport :=
  let condition := ConditionName.dbDegraded
  let readiness := observeDependency applicationReadiness bundle
  let postgres := observeDependency postgresRuntime bundle
  let optional := (optionalDependencies condition).map (observeDependency · bundle)
  let (readiness_value, readiness_issues) := singleMappingValue readiness
  let (postgres_value, postgres_issues) := singleMappingValue postgres
  let component := postgres_value.map (readPostgres · postgres)
  let response := readiness_value.map (readReadiness rt · postgres_value readiness)
  let reading : ReadinessReading := (response.map (·.1)).getD ⟨none, none⟩
  let postgres := postgres.addIssues (postgres_issues ++ (component.map (·.2)).getD [])
  let readiness := readiness.addIssues (readiness_issues ++ (response.map (·.2)).getD []
    ++ familyIssues (sameResponseFindings readiness.single postgres.single))
  let facts : DatabaseFacts :=
    ⟨component.map (·.1), reading.body_status, reading.reasons, localHaGuardrails⟩
  if blocked [readiness, postgres] = true then
    unknownCondition rt condition [readiness, postgres] optional (.database facts)
  else
    -- `assert reasons is not None`: without an issue the reasons were read
    usableReadiness rt ((component.map (·.1)).getD ⟨none, none, none, none, none⟩)
      reading.body_status (reading.reasons.getD []) readiness postgres optional (.database facts)

/-! ### The worker -/

/-- `worker_deployment_name`. -/
def workerDeploymentName : PyStr := "worker"

/-- `namespace`. -/
def policyNamespace : PyStr := "messaging-app"

/-- `worker_unavailable_grace_seconds`. -/
def workerUnavailableGraceSeconds : Nat := 120

/-- The finding about a field of the metadata that is not the one of the policy. -/
def scopeFinding (rt : OpsRuntime) (metadata : Dict) (field_name code : String)
    (expected : PyStr) : List Finding :=
  let actual := getOrNull metadata field_name
  findingIf (actual.pyEq (.str expected) = false) code
    (some (.printed (rt.repr expected) (reprOf rt actual)))

/-- The generation in the metadata of a deployment. -/
def readMetadata (rt : OpsRuntime) (value : Dict) (observation : ObservedDependency) :
    Option Nat × List EvidenceIssue :=
  match getOrNull value "metadata" with
  | .obj metadata =>
      let (generation, issues) := requiredNonnegativeInt metadata "generation" observation
      (generation, issues ++ firstIssues observation (
        scopeFinding rt metadata "name" "DEPLOYMENT_NAME_SCOPE_MISMATCH" workerDeploymentName
          ++ scopeFinding rt metadata "namespace" "DEPLOYMENT_NAMESPACE_SCOPE_MISMATCH"
            policyNamespace))
  | _ => (none, firstIssues observation
      [⟨PyStr.ofString "REQUIRED_DEPLOYMENT_METADATA_INVALID", none⟩])

/-- The fields of a deployment. -/
def readDeployment (rt : OpsRuntime) (value : Dict) (observation : ObservedDependency) :
    WorkerFacts × List EvidenceIssue :=
  let (generation, metadata_issues) := readMetadata rt value observation
  let (observed, observed_issues) :=
    requiredNonnegativeInt value "observed_generation" observation
  let (desired, desired_issues) := requiredNonnegativeInt value "desired_replicas" observation
  let (current, current_issues) := requiredNonnegativeInt value "current_replicas" observation
  let (available, available_issues) :=
    requiredNonnegativeInt value "available_replicas" observation
  (⟨generation, observed, desired, current, available, workerUnavailableGraceSeconds⟩,
    metadata_issues ++ observed_issues ++ desired_issues ++ current_issues ++ available_issues)

/-- The finding about two counts that were read and do not fit together. -/
def countFinding (left right : Option Nat) (fits : Nat → Nat → Bool) (code : String)
    (detail : Nat → Nat → IssueDetail) : List Finding :=
  match left, right with
  | some l, some r => findingIf (fits l r = false) code (some (detail l r))
  | _, _ => []

/-- The findings about counts that do not fit together. -/
def deploymentFindings (facts : WorkerFacts) : List Finding :=
  countFinding facts.generation facts.observed_generation (fun g o => g = o)
      "DEPLOYMENT_GENERATION_NOT_OBSERVED" .generation
    ++ countFinding facts.current_replicas facts.available_replicas (fun c a => a ≤ c)
      "DEPLOYMENT_REPLICA_COUNTS_INCOHERENT" .replicas

/-- The verdict over a deployment that was read. -/
def usableDeployment (rt : OpsRuntime) (desired current available : Nat)
    (required optional : List ObservedDependency) (facts : ConditionFacts) : ConditionReport :=
  let condition := ConditionName.workerReplicaUnavailable
  match codeIf (current < desired) "WORKER_CURRENT_REPLICA_SHORTFALL_OBSERVED"
      ++ codeIf (available < desired) "WORKER_AVAILABLE_REPLICA_SHORTFALL_OBSERVED" with
  | [] => conditionReport rt condition .absent
      [PyStr.ofString "ALL_DESIRED_WORKER_REPLICAS_AVAILABLE"] required optional facts
  | shortfall_reasons => conditionReport rt condition .unknown
      (shortfall_reasons ++ [PyStr.ofString "UNAVAILABLE_GRACE_NOT_PROVEN_BY_SINGLE_SNAPSHOT"])
      required optional facts

/-- `_evaluate_worker_unavailable(index, policy)`. -/
def evaluateWorkerUnavailable (rt : OpsRuntime) (bundle : EvidenceBundle) : ConditionReport :=
  let condition := ConditionName.workerReplicaUnavailable
  let observation := observeDependency workerDeployment bundle
  let optional := (optionalDependencies condition).map (observeDependency · bundle)
  let (value, value_issues) := singleMappingValue observation
  let (facts, field_issues) : WorkerFacts × List EvidenceIssue :=
    (value.map (readDeployment rt · observation)).getD
      (⟨none, none, none, none, none, workerUnavailableGraceSeconds⟩, [])
  let observation := observation.addIssues
    (value_issues ++ field_issues ++ firstIssues observation (deploymentFindings facts))
  if blocked [observation] = true then
    unknownCondition rt condition [observation] optional (.worker facts)
  else
    -- the assertion before the verdict: without an issue the three counts were read
    usableDeployment rt (facts.desired_replicas.getD 0) (facts.current_replicas.getD 0)
      (facts.available_replicas.getD 0) [observation] optional (.worker facts)

/-! ### The bundle -/

/-- The condition map of an evaluation, which has every condition. -/
structure Conditions where
  core_backlog_pressure : ConditionReport
  partition_lag_concentration_observed : ConditionReport
  db_degraded : ConditionReport
  worker_replica_unavailable : ConditionReport

/-- `conditions[name]`. -/
def Conditions.get (conditions : Conditions) : ConditionName → ConditionReport
  | .coreBacklogPressure => conditions.core_backlog_pressure
  | .partitionLagConcentrationObserved => conditions.partition_lag_concentration_observed
  | .dbDegraded => conditions.db_degraded
  | .workerReplicaUnavailable => conditions.worker_replica_unavailable

/-- `ConditionDependencyTrace`. -/
structure ConditionDependencyTrace where
  condition : ConditionName
  state : ConditionState
  reason_codes : List PyStr

/-- `AssessmentResult` of `NO_BACKLOG_PRESSURE_DETECTED`, the only assessment. -/
structure AssessmentResult where
  state : ConditionState
  reason_codes : List PyStr
  condition_dependencies : List ConditionDependencyTrace

/-- The state and the reason of the assessment over two condition states. -/
def noBacklogState (states : List ConditionState) : ConditionState × PyStr :=
  if states.all (· = .absent) = true then (.present, "BACKLOG_CONDITIONS_ABSENT")
  else if .present ∈ states then (.absent, "BACKLOG_PRESSURE_CONDITION_PRESENT")
  else (.unknown, "BACKLOG_CONDITION_UNKNOWN")

/-- `_no_backlog_assessment(conditions)`: derived from the states of the core condition and of the
partition concentration alone, which it names as its dependencies. -/
def noBacklogAssessment (conditions : Conditions) : AssessmentResult :=
  let dependencies := [conditions.get .coreBacklogPressure,
    conditions.get .partitionLagConcentrationObserved]
  let (state, reason) := noBacklogState (dependencies.map (·.state))
  { state := state
    reason_codes := [reason]
    condition_dependencies := dependencies.map fun report =>
      ⟨report.condition, report.state, report.reason_codes⟩ }

/-- `ConditionEvaluation`, without the references to its policy and its bundle. -/
structure ConditionEvaluation where
  evaluation_status : EvaluationStatus
  conditions : Conditions
  no_backlog_pressure_detected : AssessmentResult

/-- `evaluate_conditions`, the name `evaluate_bundle` also has: all the conditions. -/
def evaluateConditions (dec : DecimalArithmetic) (rt : OpsRuntime) (bundle : EvidenceBundle) :
    Except OpsExc ConditionEvaluation := do
  ensure (bundle.cluster_profile = "local-ha")
    (.valueError "evaluation policy cluster profile mismatch")
  ensure (inEvaluationScope bundle = true) (.valueError "evaluation policy scope mismatch")
  let core ← evaluateCoreBacklog dec rt bundle
  let concentration ← evaluatePartitionConcentration dec rt bundle
  let conditions : Conditions := ⟨core.report, concentration, evaluateDbDegraded rt bundle,
    evaluateWorkerUnavailable rt bundle⟩
  let no_backlog := noBacklogAssessment conditions
  let states := [conditions.core_backlog_pressure.state,
    conditions.partition_lag_concentration_observed.state, conditions.db_degraded.state,
    conditions.worker_replica_unavailable.state, no_backlog.state]
  return {
    evaluation_status := if .unknown ∈ states then .partialResult else .complete
    conditions := conditions
    no_backlog_pressure_detected := no_backlog }

/-- What the sequence evaluator reads of a condition it passes on. -/
def ConditionReport.reading (report : ConditionReport) : ConditionState × List PyStr :=
  (report.state, report.reason_codes)

/-- The other conditions, as the sequence evaluator reads them. -/
def otherConditions (dec : DecimalArithmetic) (rt : OpsRuntime) : OtherEvaluator := fun bundle => do
  let concentration ← evaluatePartitionConcentration dec rt bundle
  return ⟨concentration.reading, (evaluateDbDegraded rt bundle).reading,
    (evaluateWorkerUnavailable rt bundle).reading⟩

/-- With these evaluators `evaluateBundle` is the part of the evaluation that the sequence
evaluator reads. -/
theorem evaluateBundle_of_conditions {dec : DecimalArithmetic} {rt : OpsRuntime}
    {bundle : EvidenceBundle} {evaluation : ConditionEvaluation}
    (h : evaluateConditions dec rt bundle = .ok evaluation) :
    ∃ core, evaluation.conditions.core_backlog_pressure = core.report ∧
      evaluateBundle dec (otherConditions dec rt) rt bundle = .ok ⟨core,
        ⟨evaluation.conditions.partition_lag_concentration_observed.reading,
          evaluation.conditions.db_degraded.reading,
          evaluation.conditions.worker_replica_unavailable.reading⟩⟩ := by
  simp only [evaluateConditions, OpsAgent.bind_ok, ensure_eq_ok, exists_const] at h
  obtain ⟨hprofile, hscope, core, hcore, concentration, hconcentration, h⟩ := h
  obtain rfl := OpsAgent.pure_ok.mp h
  refine ⟨core, rfl, ?_⟩
  simp only [evaluateBundle, otherConditions, OpsAgent.bind_ok, ensure_eq_ok, exists_const]
  exact ⟨hprofile, hscope, core, hcore, _, ⟨concentration, hconcentration, rfl⟩, rfl⟩

/-- What `_kafka_observation` of `recovery_evaluator.py` reads of `evaluate_bundle`: the issue
codes and the evidence ids of what the core condition requires. -/
def coreEvaluator (dec : DecimalArithmetic) (rt : OpsRuntime) : CoreEvaluator := fun bundle => do
  let evaluation ← evaluateConditions dec rt bundle
  let required := evaluation.conditions.core_backlog_pressure.required_evidence
  return ⟨required.flatMap fun trace => trace.issues.map (·.code),
    required.flatMap (·.evidence_ids)⟩

end EventPipeline.OpsAgent.Evaluator
