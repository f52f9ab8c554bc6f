import EventPipeline.OpsAgent.Calibration
import EventPipeline.OpsAgent.RecoveryEvaluator

/-!
# EventPipeline.OpsAgent.BundleReading

What `evaluate_recovery` reads from one bundle: the source identities, the Kafka
measurement and the PostgreSQL readiness.

The condition evaluator, `evaluate_bundle`, checks the scope of the bundle before it
looks at the evidence. The check is here; the evaluation behind it is a parameter, of
which only the issues and the evidence ids of the core condition are read.
-/

namespace EventPipeline.OpsAgent

open EventPipeline.Python

/-! ### Endpoints

A bundle records the digest of the endpoint it was collected from. It is recomputed from the
recorded parts, and a bundle whose digest is another one is not usable. -/

/-- `ENDPOINT_IDENTITY_VERSION`. -/
def endpointIdentityVersion : PyStr := "ops.endpoint.v1"

/-- `_canonical_base_url(base_url)`; `none` is its `ValueError`. -/
def canonicalBaseUrl (rt : OpsRuntime) (base_url : PyStr) : Option PyStr := do
  let parsed ← rt.urlsplit base_url
  let scheme := rt.lower parsed.scheme
  if scheme ≠ PyStr.ofString "http" ∧ scheme ≠ PyStr.ofString "https" ∨ parsed.netloc = [] then none
  else if parsed.hasCredentials ∨ parsed.query ≠ [] ∨ parsed.fragment ≠ [] then none
  else do
    let hostname ← parsed.hostname
    let port ← parsed.port
    let host := rt.lower hostname
    let authority_host :=
      if CodePoint.ofChar ':' ∈ host then PyStr.ofString "[" ++ host ++ PyStr.ofString "]" else host
    let default_port := if scheme = PyStr.ofString "http" then 80 else 443
    let authority := match port with
      | none => authority_host
      | some port =>
          if port = default_port then authority_host
          else authority_host ++ PyStr.ofString ":" ++ natStr port
    let path := (parsed.path.reverse.dropWhile (· = CodePoint.ofChar '/')).reverse
    some (scheme ++ PyStr.ofString "://" ++ authority ++ path)

/-- A character of a host name. -/
def isHostChar (c : CodePoint) : Bool :=
  c.isDigit || (65 ≤ c.val && c.val ≤ 90) || (97 ≤ c.val && c.val ≤ 122)
    || c = CodePoint.ofChar '.' || c = CodePoint.ofChar '-'

/-- `_SAFE_HOST_HEADER.fullmatch(value)`. -/
def isSafeHostHeader (value : PyStr) : Bool :=
  !(value.takeWhile isHostChar).isEmpty
    && (match value.dropWhile isHostChar with
      | [] => true
      | c :: digits => c = CodePoint.ofChar ':' && isDigits digits && digits.length ≤ 5)

/-- `endpoint_provenance(...)["identity_sha256"]`; `none` is its `ValueError`. -/
def endpointProvenance (rt : OpsRuntime) (base_url : PyStr) (host_header : Option PyStr)
    (configuration_source : PyStr) : Option Sha256 := do
  if configuration_source = PyStr.ofString "policy" ∨
      configuration_source = PyStr.ofString "operator_override" then do
    let canonical_url ← canonicalBaseUrl rt base_url
    let canonical_host_header := host_header.map rt.lower
    if canonical_host_header.all isSafeHostHeader then
      some (rt.sha256 (⟨canonical_url, canonical_host_header⟩ : EndpointIdentity))
    else none
  else none

/-- The identity a mapping records, where it is the right one. -/
def recordedEndpoint (rt : OpsRuntime) (value : Dict) : Option Sha256 := do
  let base_url ← value.get? "base_url"
  let configuration_source ← value.get? "configuration_source"
  let host_header := match getOrNull value "host_header" with
    | .null => none
    | header => some (strOf rt header)
  let expected ← endpointProvenance rt (strOf rt base_url) host_header
    (strOf rt configuration_source)
  if (getOrNull value "identity_version").pyEq (.str endpointIdentityVersion) ∧
      (getOrNull value "identity_sha256").pyEq (.str expected.text) then some expected
  else none

/-- An endpoint item of the collector configuration. -/
def isEndpointItem (item : EvidenceItem) : Bool :=
  item.status = .ok && item.freshness.status = .fresh
    && item.source = PyStr.ofString "collector_configuration"
    && item.tool_id = PyStr.ofString "collector.endpoint.identity.v1"
    && item.semantic.type = PyStr.ofString "effective_source_endpoint_identity"

/-- `_endpoint_identity(bundle, collector_source)`; the codes begin with the upper-case
source. -/
def endpointIdentity (rt : OpsRuntime) (bundle : EvidenceBundle) (collector_source code : String) :
    Option Sha256 × List PyStr :=
  let issue (kind : String) : List PyStr :=
    [PyStr.ofString code ++ PyStr.ofString "_ENDPOINT_IDENTITY_" ++ PyStr.ofString kind]
  match (bundle.items "source_endpoint_identity").filter
      (·.label "collector_source" = some (PyStr.ofString collector_source)) with
  | [item] =>
      match isEndpointItem item, item.metric.value with
      | true, .obj value =>
          match recordedEndpoint rt value with
          | some identity => (some identity, [])
          | none => (none, issue "INVALID")
      | _, _ => (none, issue "UNUSABLE")
  | _ => (none, issue "MISSING")

/-! ### Source identity -/

/-- `_KAFKA_METRICS`. -/
def kafkaMetrics : List PyStr :=
  ["kafka_topic_partition_current_offset", "kafka_consumergroup_current_offset",
    "kafka_consumergroup_lag"]

/-- The items of the Kafka metrics whose status is OK. -/
def kafkaItems (bundle : EvidenceBundle) : List EvidenceItem :=
  (kafkaMetrics.flatMap bundle.items).filter (·.status = .ok)

/-- The only value of a set. -/
def onlyValue {α : Type} [DecidableEq α] (values : List α) : Option α :=
  match values.dedup with
  | [value] => some value
  | _ => none

/-- The only time of a set of aware datetimes, the first one that was added. -/
def onlyTime (times : List Aware) : Option Aware :=
  match times with
  | [] => none
  | time :: rest => if rest.all (·.instant = time.instant) then some time else none

/-- The result of `_source_identity`. -/
structure SourceIdentity where
  condition_identity : Option Sha256
  recovery_identity : Option Sha256
  partition_set : List PyStr
  source_timestamp : Option Aware
  issues : List PyStr

/-- `_source_identity(bundle)`: the digest of everything that says where the evidence came from.
It is none where one part is missing or ambiguous, and the issues say which. -/
def sourceIdentity (rt : OpsRuntime) (bundle : EvidenceBundle) : Except OpsExc SourceIdentity := do
  let (prometheus_endpoint, endpoint_issues) :=
    endpointIdentity rt bundle "prometheus" "PROMETHEUS"
  let (application_endpoint, application_issues) :=
    endpointIdentity rt bundle "application" "APPLICATION"
  let items := kafkaItems bundle
  let exporter_identity := onlyValue (items.map fun item => (item.label "job", item.label "instance"))
  let partition_set ← sortedByInt rt (items.filterMap (·.label "partition"))
  let source_timestamp := onlyTime (items.filterMap (·.source_timestamp))
  let issues := endpoint_issues ++ application_issues
    ++ codeIf (exporter_identity = none) "KAFKA_EXPORTER_IDENTITY_UNUSABLE"
    ++ codeIf (source_timestamp = none) "KAFKA_SOURCE_TIMESTAMP_UNUSABLE"
  let condition_identity : Option Sha256 := do
    let endpoint ← prometheus_endpoint
    let exporter ← exporter_identity
    if issues = [] then
      some (rt.sha256 (
        { cluster_profile := bundle.cluster_profile
          scope := bundle.scope
          source_sha := bundle.context.source_sha
          collector_tree_sha256 := bundle.context.collector_tree_sha256
          collector_version := bundle.context.collector_version
          tool_registry_version := bundle.context.tool_registry_version
          source_policy_version := bundle.context.policy_version
          prometheus_endpoint_identity_sha256 := endpoint.text
          kafka_exporter_identity := exporter
          partition_set := partition_set } : ConditionIdentity))
    else none
  let recovery_identity : Option Sha256 := do
    let condition ← condition_identity
    let application ← application_endpoint
    some (rt.sha256 (⟨condition, application.text⟩ : RecoveryIdentity))
  return ⟨condition_identity, recovery_identity, partition_set, source_timestamp, sortedSet issues⟩

/-! ### PostgreSQL

Two items come from one response: the response itself, and the component in it. The observation
reads the component, and asks that the copy of it in the body has the same fields. -/

/-- The issues of one readiness item. -/
def readinessItemIssues (item : EvidenceItem) (semantic : String) : List PyStr :=
  codeIf (item.status ≠ .ok) "POSTGRES_READINESS_STATUS_UNUSABLE"
    ++ codeIf (item.freshness.status ≠ .fresh) "POSTGRES_READINESS_NOT_FRESH"
    ++ codeIf (¬(item.source = PyStr.ofString "application" ∧
        item.tool_id = PyStr.ofString "application.readiness.get.v1" ∧
        item.semantic.type = PyStr.ofString semantic ∧
        item.label "endpoint" = some (PyStr.ofString "/health/ready")))
      "POSTGRES_READINESS_SELECTOR_MISMATCH"

/-- The two items come from one response. -/
def sameResponse (readiness postgres : EvidenceItem) : Prop :=
  readiness.source_timestamp.map (·.instant) = postgres.source_timestamp.map (·.instant) ∧
    readiness.collected_at.instant = postgres.collected_at.instant ∧
    readiness.raw_sha256 = postgres.raw_sha256 ∧ readiness.raw_sha256 ≠ none

instance (readiness postgres : EvidenceItem) : Decidable (sameResponse readiness postgres) := by
  unfold sameResponse
  infer_instance

/-- The result of `_postgres_observation`. -/
structure PostgresObservation where
  ready : Option Bool
  context : Dict
  issues : List PyStr
  evidence_ids : List PyStr

/-- A value that is `true`, the `is True` of the policy's checks. -/
def isTrue : Json → Bool
  | .bool true => true
  | _ => false

/-- The fields both views of the component must agree on. -/
def postgresFields : List String :=
  ["ha_mode", "primary_reachable", "standby_count", "sync_standby_count",
    "max_replication_delay_bytes"]

/-- The observation of two mappings, after the checks of the items. -/
def postgresValues (policy : RecoveryEvaluationPolicy) (evidence_ids item_issues : List PyStr)
    (readiness postgres : Dict) : PostgresObservation :=
  let (body, body_issues) : Dict × List PyStr := match getOrNull readiness "body" with
    | .obj kvs => (kvs, [])
    | _ => ([], [PyStr.ofString "POSTGRES_READINESS_BODY_INVALID"])
  let (reasons, reason_issues) : List Json × List PyStr := match getOrNull body "reason" with
    | .arr xs => (xs, [])
    | _ => ([], [PyStr.ofString "POSTGRES_READINESS_REASON_INVALID"])
  let (nested, nested_issues) : Dict × List PyStr := match getOrNull body "postgres" with
    | .obj kvs => (kvs, [])
    | _ => ([], [PyStr.ofString "POSTGRES_READINESS_NESTED_COMPONENT_INVALID"])
  let issues := item_issues ++ body_issues ++ reason_issues ++ nested_issues
    ++ codeIf (postgresFields.any
        (fun field => !(getOrNull nested field).pyEq (getOrNull postgres field)) = true)
      "POSTGRES_READINESS_COMPONENT_MISMATCH"
  let context : Dict := [
    (PyStr.ofString "http_status", getOrNull readiness "http_status"),
    (PyStr.ofString "readiness_body_status", getOrNull readiness "body_status"),
    (PyStr.ofString "readiness_reasons", .arr reasons)] ++ pickFields postgres postgresFields
  let status := Json.str policy.postgres_required_body_status
  let ready := issues.isEmpty
    && (getOrNull readiness "http_status").pyEq (.int 200)
    && (getOrNull readiness "body_status").pyEq status
    && (getOrNull body "status").pyEq status
    && reasons.isEmpty
    && isTrue (getOrNull postgres "ha_mode")
    && isTrue (getOrNull postgres "primary_reachable")
  { ready := some ready
    context := context
    issues := sortedSet
      (issues ++ codeIf (ready = false) "POSTGRES_REQUIRED_READINESS_NOT_ACCEPTABLE")
    evidence_ids := evidence_ids }

/-- `_postgres_observation(bundle, policy)`. -/
def postgresObservation (bundle : EvidenceBundle) (policy : RecoveryEvaluationPolicy) :
    PostgresObservation :=
  let readiness := bundle.items "application_readiness_observation"
  let postgres := bundle.items "application_postgres_runtime_observation"
  let evidence_ids := (readiness ++ postgres).map (·.evidence_id)
  match readiness, postgres with
  | [readiness_item], [postgres_item] =>
      let issues := readinessItemIssues readiness_item "application_readiness"
        ++ readinessItemIssues postgres_item "application_postgres_runtime_observation"
        ++ codeIf (¬sameResponse readiness_item postgres_item)
          "POSTGRES_READINESS_PROVENANCE_MISMATCH"
      match readiness_item.metric.value, postgres_item.metric.value with
      | .obj readiness_value, .obj postgres_value =>
          postgresValues policy evidence_ids issues readiness_value postgres_value
      | _, _ =>
          ⟨none, [], sortedSet (issues ++ [PyStr.ofString "POSTGRES_READINESS_VALUE_INVALID"]),
            evidence_ids⟩
  | _, _ => ⟨none, [], [PyStr.ofString "POSTGRES_READINESS_EVIDENCE_MISSING"], evidence_ids⟩

/-! ### Negative lag -/

/-- The OK items of a metric by partition; a later item replaces an earlier one. -/
def itemsByPartition (bundle : EvidenceBundle) (metric_name : PyStr) :
    List (PyStr × EvidenceItem) :=
  ((bundle.items metric_name).filter (·.status = .ok)).foldl (fun result item =>
    match item.label "partition" with
    | none => result
    | some partition =>
        if (result.lookup partition).isSome then
          result.map fun entry => if entry.1 = partition then (partition, item) else entry
        else result ++ [(partition, item)]) []

/-- `float(value)` of a sample's time stamp: `none` is an error that is caught. -/
def floatOf (rt : OpsRuntime) : Json → Except OpsExc (Option PyFloat)
  | .bool b => .ok (some (PyFloat.ofRat (if b then 1 else 0)))
  | .int z =>
      match PyFloat.ofRat z with
      | .inf _ => .error .arithmeticError
      | f => .ok (some f)
  | .float f => .ok (some f)
  | .str s => .ok (PyFloat.parse rt.chars s)
  | _ => .ok none

/-- `offset_value(source)` at a sample index. -/
def offsetValue (rt : OpsRuntime) (index : Nat) (source : Option EvidenceItem) : Option Int := do
  let item ← source
  let samples ← match item.metric.value with
    | .arr samples => some samples
    | _ => none
  let candidate ← samples[index]?
  let value ← sampleDecimal rt "value" candidate
  if value.den = 1 then some value.num else none

/-- The decimal value and the raw time stamp of a sample that has both. -/
def sampleParts (rt : OpsRuntime) : Json → Option (PyDecimal × Json)
  | .obj kvs => do
      let value ← Dict.get? kvs "value"
      let parsed ← PyDecimal.parse rt.chars (strOf rt value)
      let timestamp ← Dict.get? kvs "timestamp"
      some (parsed, timestamp)
  | _ => none

/-- The negative points of the samples of a partition, from an index on. -/
def negativePoints (rt : OpsRuntime) (evidence_id partition : PyStr)
    (end_item committed_item : Option EvidenceItem) :
    Nat → List Json → Except OpsExc (List NegativeLagPoint)
  | _, [] => .ok []
  | index, sample :: samples => do
      let timestamp ← match sampleParts rt sample with
        | some (_, timestamp) => floatOf rt timestamp
        | none => .ok none
      let rest ← negativePoints rt evidence_id partition end_item committed_item (index + 1) samples
      match sampleParts rt sample, timestamp with
      | some (.finite value, _), some timestamp =>
          if value < 0 ∧ value.den = 1 then
            return {
              evidence_id := evidence_id
              partition := partition
              sample_index := index
              range_evaluation_timestamp := timestamp
              exporter_lag_records := value.num
              end_offset_records := offsetValue rt index end_item
              committed_offset_records := offsetValue rt index committed_item } :: rest
          else return rest
      | _, _ => return rest

/-- The negative points of the lag items. -/
def lagItemPoints (rt : OpsRuntime) (ends committed : List (PyStr × EvidenceItem)) :
    List (PyStr × EvidenceItem) → Except OpsExc (List NegativeLagPoint)
  | [] => .ok []
  | (partition, item) :: items => do
      let points ← (match item.metric.value with
        | .arr samples => negativePoints rt item.evidence_id partition (ends.lookup partition)
            (committed.lookup partition) 0 samples
        | _ => .ok [])
      let rest ← lagItemPoints rt ends committed items
      return points ++ rest

/-- The points with the `int` of their partition. -/
def keyPoints (rt : OpsRuntime) : List NegativeLagPoint → Except OpsExc (List (Int × NegativeLagPoint))
  | [] => .ok []
  | point :: points =>
      match parseInt rt.chars point.partition with
      | some key => do
          let rest ← keyPoints rt points
          return (key, point) :: rest
      | none => .error (.valueError "invalid literal for int() with base 10")

/-- The order of the sorted points. -/
def pointLe (a b : Int × NegativeLagPoint) : Prop :=
  a.1 < b.1 ∨ a.1 = b.1 ∧ a.2.sample_index ≤ b.2.sample_index

instance : DecidableRel pointLe := fun a b => by
  unfold pointLe
  infer_instance

/-- `_negative_lag_points(bundle)`: the samples with a negative exporter lag, each with the two
offsets of its partition at that time, sorted. -/
def negativeLagPoints (rt : OpsRuntime) (bundle : EvidenceBundle) :
    Except OpsExc (List NegativeLagPoint) := do
  let ends := itemsByPartition bundle "kafka_topic_partition_current_offset"
  let committed := itemsByPartition bundle "kafka_consumergroup_current_offset"
  let lag := itemsByPartition bundle "kafka_consumergroup_lag"
  let points ← lagItemPoints rt ends committed lag
  let keyed ← keyPoints rt points
  return (keyed.insertionSort pointLe).map (·.2)

/-! ### Kafka

What recovery measures is the summary of the bundle, behind the issues of the condition evaluator
and the checks on the rates. -/

/-- What is read of the core condition of `evaluate_bundle`: the codes of its issues and
the ids of its evidence. -/
structure CoreReading where
  issue_codes : List PyStr
  evidence_ids : List PyStr

/-- The condition evaluator behind the scope check. -/
abbrev CoreEvaluator := EvidenceBundle → Except OpsExc CoreReading

/-- The scope the condition evaluator accepts. -/
def inEvaluationScope (bundle : EvidenceBundle) : Bool :=
  bundle.cluster_profile = PyStr.ofString "local-ha"
    && bundle.scope.context = some (PyStr.ofString "kind-messaging-ha")
    && bundle.scope.namespace_ = PyStr.ofString "messaging-app"
    && bundle.scope.topic = PyStr.ofString "message-ingress"
    && bundle.scope.consumer_group = PyStr.ofString "message-worker"
    && bundle.context.policy_version = PyStr.ofString "local-ha.evidence.v1"

/-- `evaluate_bundle(bundle, policy=EvaluationPolicy())`. -/
def evaluateBundle (core : CoreEvaluator) (bundle : EvidenceBundle) : Except OpsExc CoreReading :=
  if inEvaluationScope bundle then core bundle
  else .error (.valueError "evaluation policy scope mismatch")

/-- The issue codes and the evidence ids of the core condition. -/
def coreReading (core : CoreEvaluator) (bundle : EvidenceBundle) : Except OpsExc CoreReading :=
  match evaluateBundle core bundle with
  | .ok reading => .ok ⟨sortedSet reading.issue_codes, sortedSet reading.evidence_ids⟩
  | .error e =>
      if e.isValueError then
        .ok ⟨[PyStr.ofString "KAFKA_EVALUATION_SCOPE_INCOMPATIBLE"],
          ((kafkaMetrics.flatMap bundle.items).map (·.evidence_id)).insertionSort (· ≤ ·)⟩
      else .error e

/-- `summarize_bundle(bundle)["kafka"]`, where an error about the data leaves nothing. -/
def measuredKafka (rt : OpsRuntime) (bundle : EvidenceBundle) : Except OpsExc (Option KafkaSummary) :=
  match summarizeBundle decimalResult rt bundle with
  | .ok summary => .ok (some summary.kafka)
  | .error e => if e.isDataError then .ok none else .error e

/-- `abs((produce - committed) - slope) <= 1e-9`. -/
def ratesConsistent (produce committed slope : PyFloat) : Bool :=
  ((produce.sub committed).sub slope).abs.le (PyFloat.ofLexeme ⟨false, "1", none, some ⟨some true, "9"⟩⟩)

/-- The offsets of a partition, where both are integers. -/
def offsetsOf (entry : PyStr × PartitionSummary) : Option (PyStr × PartitionOffsets) :=
  match entry.2.end_offset, entry.2.committed_offset with
  | .int end_offset, .int committed_offset => some (entry.1, ⟨end_offset, committed_offset⟩)
  | _, _ => none

/-- The result of `_kafka_observation`. -/
structure KafkaObservation where
  measurement : Measurement
  issues : List PyStr
  evidence_ids : List PyStr
  negative_points : List NegativeLagPoint

/-- The measurement of a summary and its issues. -/
def measure (rt : OpsRuntime) (kafka : Option KafkaSummary) : Measurement × List PyStr :=
  let produce := kafka.bind (·.produce_rate_records_per_second)
  let committed := kafka.bind (·.committed_offset_rate_records_per_second)
  let slope := kafka.bind (·.lag_slope_records_per_second)
  let consistent := match produce, committed, slope with
    | some produce, some committed, some slope => some (ratesConsistent produce committed slope)
    | _, _, _ => none
  let anomalies := (kafka.map (·.anomalies)).getD []
  ({ total_lag_records := kafka.bind (·.total_lag)
     lag_slope_60s_records_per_second := slope
     produce_rate_60s_records_per_second := produce
     committed_offset_rate_60s_records_per_second := committed
     rate_arithmetic_consistent := consistent
     partition_offsets := ((kafka.map (·.per_partition)).getD []).filterMap offsetsOf },
   codeIf (kafka.isNone = true) "KAFKA_MEASUREMENT_INVALID"
    ++ anomalies.map (fun anomaly => PyStr.ofString "KAFKA_" ++ rt.upper anomaly)
    ++ codeIf (consistent = some false) "RECOVERY_RATE_LAG_ARITHMETIC_MISMATCH"
    ++ codeIf (consistent = none) "RECOVERY_RATE_MEASUREMENT_UNAVAILABLE")

/-- `_kafka_observation(bundle)`: the measurement of a bundle with everything that speaks against
it, the evaluator's issues and negative exporter lags included. -/
def kafkaObservation (rt : OpsRuntime) (core : CoreEvaluator) (bundle : EvidenceBundle) :
    Except OpsExc KafkaObservation := do
  let reading ← coreReading core bundle
  let negative_points ← negativeLagPoints rt bundle
  let kafka ← measuredKafka rt bundle
  let (measurement, issues) := measure rt kafka
  return {
    measurement := measurement
    issues := sortedSet (reading.issue_codes
      ++ codeIf (negative_points.isEmpty = false) "NEGATIVE_EXPORTER_LAG_INVALID" ++ issues)
    evidence_ids := reading.evidence_ids
    negative_points := negative_points }

/-! ### The reading -/

/-- What the loop of `evaluate_recovery` reads from one bundle. -/
def readBundle (rt : OpsRuntime) (core : CoreEvaluator) : BundleReader := fun policy bundle => do
  let identity ← sourceIdentity rt bundle
  let kafka ← kafkaObservation rt core bundle
  let postgres := postgresObservation bundle policy
  let summary ← summarizeBundle decimalResult rt bundle
  return {
    condition_identity := identity.condition_identity
    recovery_identity := identity.recovery_identity
    partition_set := identity.partition_set
    kafka_source := identity.source_timestamp
    identity_issues := identity.issues
    measurement := kafka.measurement
    kafka_issues := kafka.issues
    kafka_evidence_ids := kafka.evidence_ids
    negative_points := kafka.negative_points
    postgres_ready := postgres.ready
    postgres_context := postgres.context
    postgres_issues := postgres.issues
    postgres_ids := postgres.evidence_ids
    worker_context := summary.worker
    keda_context := summary.keda
    worker_stage_latency_context := summary.worker_db_persist_stage_latency }

/-- `evaluate_recovery(incident_id, activation_evaluation, bundles,
source_bundle_digests, policy)`. -/
def evaluateRecovery (rt : OpsRuntime) (core : CoreEvaluator) (incident_id : PyStr)
    (activation : SequenceConditionEvaluation) (bundles : List EvidenceBundle)
    (source_bundle_digests : List PyStr) (policy : RecoveryEvaluationPolicy) :
    Except OpsExc RecoveryEvaluation :=
  evaluateRecoveryWith rt (readBundle rt core) incident_id activation bundles source_bundle_digests
    policy

end EventPipeline.OpsAgent
