import EventPipeline.OpsAgent.BundleReading
import EventPipeline.OpsAgent.Issues
import EventPipeline.Sequences.Windows

/-!
# EventPipeline.OpsAgent.BacklogEvaluator

The core condition of `ops_agent/evaluator.py`: what `_observe_dependency` checks of the
three Kafka series families, and `_evaluate_core_backlog` over them.

A check that finds something names the values it compared in the detail of the issue. A
bundle has one item for an evidence id, so the dict by evidence id keeps every item of a
metric.
-/

namespace EventPipeline.OpsAgent.Evaluator

open EventPipeline.Python EventPipeline.Sequences

/-! ### Dependencies

A condition reads evidence through dependencies. Each names its metrics and the selectors that
their items must have; what a finding of it blocks depends on the requirement. -/

/-- `DependencyRequirement`. -/
inductive DependencyRequirement
  | required | optional
  deriving DecidableEq

def DependencyRequirement.value : DependencyRequirement → PyStr
  | required => "REQUIRED"
  | optional => "OPTIONAL"

/-- `DependencySpec`. -/
structure DependencySpec where
  name : PyStr
  metric_names : List PyStr
  requirement : DependencyRequirement
  partitioned : Bool := false
  source : Option PyStr := none
  tool_id : Option PyStr := none
  semantic_type : Option PyStr := none
  unit : Option PyStr := none
  window : Option PyStr := none
  aggregation : Option PyStr := none
  freshness_basis : Option PyStr := none
  freshness_max_age_seconds : Option PyFloat := none
  required_labels : List (PyStr × PyStr) := []

/-- What the three required families have in common. -/
def kafkaFamily (name metric_name semantic_type : PyStr) : DependencySpec :=
  { name := name
    metric_names := [metric_name]
    requirement := .required
    partitioned := true
    source := some "prometheus"
    tool_id := some (PyStr.ofString "prometheus." ++ metric_name ++ PyStr.ofString ".range.v1")
    semantic_type := some semantic_type
    unit := some "records"
    window := some "60s"
    aggregation := some "raw_range_samples"
    freshness_basis := some "prometheus_timestamp_function"
    freshness_max_age_seconds := some (PyFloat.ofNat 15)
    required_labels := [("job", "kafka-exporter")] }

/-- `_END_OFFSET`. -/
def endOffset : DependencySpec :=
  kafkaFamily "topic_end_offsets" "kafka_topic_partition_current_offset"
    "kafka_partition_end_offset_gauge"

/-- `_COMMITTED_OFFSET`. -/
def committedOffset : DependencySpec :=
  kafkaFamily "consumer_committed_offsets" "kafka_consumergroup_current_offset"
    "kafka_consumer_committed_offset_gauge"

/-- `_PARTITION_LAG`. -/
def partitionLag : DependencySpec :=
  kafkaFamily "consumer_partition_lag" "kafka_consumergroup_lag"
    "kafka_consumer_partition_lag_gauge"

/-- `_optional(name, *metric_names)`. -/
def optionalSpec (name : PyStr) (metric_names : List PyStr) : DependencySpec :=
  { name := name, metric_names := metric_names, requirement := .optional }

/-- The optional dependencies of the core condition. -/
def coreOptional : List DependencySpec := [
  optionalSpec "worker_terminal_processing" ["messaging_worker_processed_total"],
  optionalSpec "queue_wait_samples"
    ["messaging_queue_wait_seconds_count", "messaging_queue_wait_seconds"],
  optionalSpec "worker_db_persist_stage_samples"
    ["messaging_worker_stage_latency_seconds_count", "messaging_worker_stage_latency_seconds"],
  optionalSpec "worker_deployment" ["kubernetes_worker_deployment_observation"]]

/-- `_BLOCKING_SEMANTIC_FLAGS`. -/
def blockingSemanticFlags : List PyStr := [
  "counter_reset_or_decrease", "negative_value_preserved_not_zero",
  "non_finite_or_non_numeric_value", "offset_decrease", "partial_partition_coverage",
  "partition_set_mismatch", "source_timestamp_coverage_mismatch", "source_timestamp_missing",
  "source_timestamp_query_error"]

/-! ### Observation

The checks of one item, in the order of the source. -/

/-- A finding of a requirement, where the condition holds; its code starts with the
requirement. -/
def requirementFinding (requirement : DependencyRequirement) (condition : Prop)
    [Decidable condition] (code : PyStr) (detail : Option IssueDetail := none) : List Finding :=
  if condition then [⟨requirement.value ++ PyStr.ofString "_" ++ code, detail⟩] else []

@[simp] theorem requirementFinding_eq_nil {requirement : DependencyRequirement} {condition : Prop}
    [Decidable condition] {code : PyStr} {detail : Option IssueDetail} :
    requirementFinding requirement condition code detail = [] ↔ ¬condition := by
  unfold requirementFinding
  split_ifs with h <;> simp [h]

@[simp] theorem codeIf_eq_nil {condition : Prop} [Decidable condition] {code : String} :
    codeIf condition code = [] ↔ ¬condition := by
  unfold codeIf
  split_ifs with h <;> simp [h]


/-- `EvidenceStatus.value`. -/
def statusValue : EvidenceStatus → PyStr
  | .ok => "OK"
  | .missing => "MISSING"
  | .error => "ERROR"
  | .notApplicable => "NOT_APPLICABLE"
  | .unavailable => "UNAVAILABLE"

/-- `FreshnessStatus.value`. -/
def freshnessValue : FreshnessStatus → PyStr
  | .fresh => "FRESH"
  | .stale => "STALE"
  | .unknown => "UNKNOWN"
  | .notApplicable => "NOT_APPLICABLE"

/-- `expected is not None and actual != expected`. -/
def selectorMismatch {α : Type} [DecidableEq α] (expected actual : Option α) : Prop :=
  expected ≠ none ∧ actual ≠ expected

instance {α : Type} [DecidableEq α] (expected actual : Option α) :
    Decidable (selectorMismatch expected actual) := by
  unfold selectorMismatch
  infer_instance

/-- The finding about a selector that is not the expected one. -/
def selectorFinding (requirement : DependencyRequirement) (code : PyStr)
    (expected actual : Option PyStr) : List Finding :=
  requirementFinding requirement (selectorMismatch expected actual) code
    (some (.selector expected actual))

/-- The flags of an item that block its use. -/
def blockingFlags (item : EvidenceItem) : List PyStr :=
  sortedSet (item.semantic.flags.filter (· ∈ blockingSemanticFlags))

/-- The findings of `_observe_dependency` about one item. -/
def observedFindings (spec : DependencySpec) (item : EvidenceItem) : List Finding :=
  let found (condition : Prop) [Decidable condition] (code : PyStr) :=
    requirementFinding spec.requirement condition code
  let selector := selectorFinding spec.requirement
  found (item.status ≠ .ok) (PyStr.ofString "EVIDENCE_STATUS_" ++ statusValue item.status)
    ++ found (item.freshness.status = .stale) "EVIDENCE_STALE"
    ++ found (item.freshness.status ≠ .stale ∧ item.freshness.status ≠ .fresh)
      (PyStr.ofString "EVIDENCE_FRESHNESS_" ++ freshnessValue item.freshness.status)
    ++ selector "FRESHNESS_BASIS_MISMATCH" spec.freshness_basis (some item.freshness.basis)
    ++ requirementFinding spec.requirement
      (selectorMismatch spec.freshness_max_age_seconds item.freshness.max_age_seconds)
      "FRESHNESS_BOUND_MISMATCH"
      (some (.seconds spec.freshness_max_age_seconds item.freshness.max_age_seconds))
    ++ found (item.source_timestamp = none) "SOURCE_TIMESTAMP_MISSING"
    ++ findingIf (spec.requirement = .required ∧ (item.raw_ref = none ∨ item.raw_sha256 = none))
      "REQUIRED_RAW_REFERENCE_MISSING"
    ++ selector "SOURCE_SELECTOR_MISMATCH" spec.source (some item.source)
    ++ selector "TOOL_SELECTOR_MISMATCH" spec.tool_id (some item.tool_id)
    ++ selector "SEMANTIC_SELECTOR_MISMATCH" spec.semantic_type (some item.semantic.type)
    ++ selector "UNIT_SELECTOR_MISMATCH" spec.unit item.metric.unit
    ++ selector "WINDOW_SELECTOR_MISMATCH" spec.window item.metric.window
    ++ selector "AGGREGATION_SELECTOR_MISMATCH" spec.aggregation item.metric.aggregation
    ++ spec.required_labels.flatMap (fun label =>
        requirementFinding spec.requirement (item.label label.1 ≠ some label.2)
          "LABEL_SELECTOR_MISMATCH" (some (.label label.1 label.2 (item.label label.1))))
    ++ found (spec.partitioned = true ∧ item.coverage.complete ≠ some true)
      "PARTITION_COVERAGE_INCOMPLETE"
    ++ requirementFinding spec.requirement (blockingFlags item ≠ []) "SEMANTIC_ANOMALY"
      (some (.names (blockingFlags item)))

/-- `_ObservedDependency`; its `_issue_keys` keep an issue from being there twice. -/
structure ObservedDependency where
  spec : DependencySpec
  items : List EvidenceItem
  issues : List EvidenceIssue
  issues_nodup : issues.Nodup

/-- An observation with more issues. -/
def ObservedDependency.addIssues (observation : ObservedDependency)
    (issues : List EvidenceIssue) : ObservedDependency :=
  { observation with
    issues := addNew observation.issues issues
    issues_nodup := addNew_nodup observation.issues_nodup issues }

/-- The items of a dependency, by evidence id. -/
def dependencyItems (spec : DependencySpec) (bundle : EvidenceBundle) : List EvidenceItem :=
  (spec.metric_names.flatMap bundle.items).insertionSort fun a b => a.evidence_id ≤ b.evidence_id

/-- No selector of the dependency is given. -/
def unbound (spec : DependencySpec) : Prop :=
  spec.source = none ∧ spec.tool_id = none ∧ spec.semantic_type = none ∧ spec.unit = none ∧
    spec.window = none ∧ spec.aggregation = none ∧ spec.required_labels = []

instance (spec : DependencySpec) : Decidable (unbound spec) := by
  unfold unbound
  infer_instance

/-- `_observe_dependency(spec, index)`. -/
def observeDependency (spec : DependencySpec) (bundle : EvidenceBundle) : ObservedDependency :=
  let items := dependencyItems spec bundle
  ObservedDependency.addIssues ⟨spec, items, [], List.nodup_nil⟩ (
    if items = [] then familyIssues (requirementFinding spec.requirement True "EVIDENCE_MISSING")
    else familyIssues
        (findingIf (spec.requirement = .optional ∧ unbound spec) "OPTIONAL_SELECTOR_UNBOUND")
      ++ items.flatMap fun item => itemIssues item (observedFindings spec item))

/-- `EvidenceDependencyTrace`. -/
structure EvidenceDependencyTrace where
  dependency : PyStr
  requirement : DependencyRequirement
  accepted_metric_names : List PyStr
  evidence_ids : List PyStr
  usable_evidence_ids : List PyStr
  evidence_statuses : List (PyStr × EvidenceStatus)
  freshness_statuses : List (PyStr × FreshnessStatus)
  missing : Bool
  missing_evidence_ids : List PyStr
  stale_evidence_ids : List PyStr
  unknown_freshness_evidence_ids : List PyStr
  coverage_incomplete_evidence_ids : List PyStr
  semantic_anomaly_evidence_ids : List PyStr
  issues : List EvidenceIssue

/-- `text in value`. -/
def containsText (value text : PyStr) : Bool := value.tails.any (text.isPrefixOf ·)

/-- `_ObservedDependency.trace()`: what the result reports of a dependency. An item is usable if
it is `OK` and fresh, no issue names it, and no issue is about the whole family. -/
def ObservedDependency.trace (rt : OpsRuntime) (observation : ObservedDependency) :
    EvidenceDependencyTrace :=
  let items := observation.items
  let ids (keep : EvidenceItem → Bool) : List PyStr := (items.filter keep).map (·.evidence_id)
  let issueIds (keep : PyStr → Bool) : List PyStr :=
    sortedSet ((observation.issues.filter fun issue => keep issue.code).filterMap (·.evidence_id))
  { dependency := observation.spec.name
    requirement := observation.spec.requirement
    accepted_metric_names := observation.spec.metric_names
    evidence_ids := items.map (·.evidence_id)
    usable_evidence_ids := ids fun item =>
      item.status = .ok && item.freshness.status = .fresh
        && observation.issues.all (·.evidence_id ≠ none)
        && observation.issues.all (·.evidence_id ≠ some item.evidence_id)
    evidence_statuses := items.map fun item => (item.evidence_id, item.status)
    freshness_statuses := items.map fun item => (item.evidence_id, item.freshness.status)
    missing := items.isEmpty || items.any (·.status = .missing)
    missing_evidence_ids := ids (·.status = .missing)
    stale_evidence_ids := ids (·.freshness.status = .stale)
    unknown_freshness_evidence_ids := ids (·.freshness.status = .unknown)
    coverage_incomplete_evidence_ids := issueIds (containsText · "COVERAGE")
    semantic_anomaly_evidence_ids := issueIds (· = PyStr.ofString "REQUIRED_SEMANTIC_ANOMALY")
    issues := observation.issues.insertionSort fun a b => issueLe rt a b = true }

/-- A trace without an issue is one of an observation without an issue. -/
@[simp] theorem trace_issues_eq_nil {rt : OpsRuntime} {observation : ObservedDependency} :
    (observation.trace rt).issues = [] ↔ observation.issues = [] := by
  have hlength : (observation.trace rt).issues.length = observation.issues.length :=
    List.length_insertionSort _ _
  rw [← List.length_eq_zero_iff, hlength, List.length_eq_zero_iff]

/-! ### Samples

Samples are JSON values of any shape. The loop reads them in order, stops where one of them cannot
be read, and looks at the series as a whole only if it has got through. -/

/-- `kafka_expected_sample_count`. -/
def expectedSampleCount : Nat := 13

/-- `kafka_range_step_seconds`. -/
def rangeStepSeconds : ℚ := 5

/-- `kafka_range_window_seconds`. -/
def rangeWindowSeconds : ℚ := 60

/-- `kafka_range_collection_skew_seconds`. -/
def rangeCollectionSkewSeconds : ℚ := 1

/-- `kafka_source_to_range_end_max_seconds`. -/
def sourceToRangeEndMaxSeconds : ℚ := 5

/-- `freshness_age_tolerance_seconds`. -/
def freshnessAgeToleranceSeconds : PyFloat := PyFloat.ofRat (1 / 100)

/-- The time stamp and the value of a sample; the error is the code of its issue. -/
def readSample (rt : OpsRuntime) : Json → Except PyStr (ℚ × ℚ)
  | .obj kvs =>
      match Dict.get? kvs "timestamp", Dict.get? kvs "value" with
      | some timestamp, some value =>
          match PyDecimal.parse rt.chars (strOf rt timestamp),
            PyDecimal.parse rt.chars (strOf rt value) with
          | some (.finite timestamp), some (.finite value) => .ok (timestamp, value)
          | some _, some _ => .error "REQUIRED_SAMPLE_NON_FINITE"
          | _, _ => .error "REQUIRED_SAMPLE_NON_NUMERIC"
      | _, _ => .error "REQUIRED_SAMPLE_INVALID"
  | _ => .error "REQUIRED_SAMPLE_INVALID"

/-- The findings about the value of a sample. -/
def valueFindings (committed_offsets : Bool) (sample_index : Nat) (value : ℚ) : List Finding :=
  findingIf (value.den ≠ 1) "REQUIRED_RECORD_VALUE_NON_INTEGRAL"
      (some (.sampleValue sample_index value))
    ++ (if committed_offsets = true ∧ value = -1 then
          [⟨PyStr.ofString "COMMITTED_OFFSET_UNINITIALIZED", some (.sample sample_index)⟩]
        else findingIf (value < 0) "REQUIRED_NEGATIVE_VALUE"
          (some (.sampleValue sample_index value)))

/-- The loop over the samples from an index on: it stops at a sample that cannot be read, and
keeps the findings of the ones before. -/
def readSamples (rt : OpsRuntime) (committed_offsets : Bool) (sample_index : Nat) :
    List Json → Option (List (ℚ × ℚ)) × List Finding
  | [] => (some [], [])
  | sample :: samples =>
      match readSample rt sample with
      | .error code => (none, [⟨code, some (.sample sample_index)⟩])
      | .ok read =>
          let (rest, findings) := readSamples rt committed_offsets (sample_index + 1) samples
          (rest.map (read :: ·), valueFindings committed_offsets sample_index read.2 ++ findings)

/-- `any(current - previous != step ...)`. -/
def offGrid (dec : DecimalArithmetic) : List ℚ → Except OpsExc Bool
  | previous :: current :: timestamps => do
      let step ← dec (current - previous)
      -- `any` stops at the first step that is off
      if step ≠ rangeStepSeconds then return true else offGrid dec (current :: timestamps)
  | _ => return false

/-- `Decimal(str(time.timestamp()))`. -/
def epochDecimal (rt : OpsRuntime) (time : Aware) : Except OpsExc ℚ :=
  match PyDecimal.parse rt.chars (strOf rt (.float (PyFloat.ofRat (time.instant / 1000000)))) with
  | some (.finite value) => .ok value
  | _ => .error .arithmeticError

/-- `(completed_at - source_timestamp).total_seconds()`. -/
def expectedAge (completed source : Aware) : PyFloat :=
  PyFloat.ofRat ((completed.instant - source.instant : Int) / 1000000)

/-- The age of the freshness is not the one at the end of the collection. -/
def ageMismatch (completed source : Aware) (actual : Option PyFloat) : Prop :=
  ∀ age ∈ actual,
    freshnessAgeToleranceSeconds.lt (age.sub (expectedAge completed source)).abs = true

instance (completed source : Aware) (actual : Option PyFloat) :
    Decidable (ageMismatch completed source actual) := by
  unfold ageMismatch
  infer_instance

/-- The findings about the source time stamp of a series that ends at `range_end`. -/
def sourceTimeFindings (dec : DecimalArithmetic) (rt : OpsRuntime) (bundle : EvidenceBundle)
    (item : EvidenceItem) (range_end : ℚ) : Except OpsExc (List Finding) :=
  match item.source_timestamp with
  | none => return []
  | some source => do
      let source_epoch ← epochDecimal rt source
      let source_to_range_end ← dec (range_end - source_epoch)
      let completed := bundle.collection.completed_at
      return findingIf (source_to_range_end < 0 ∨ sourceToRangeEndMaxSeconds < source_to_range_end)
          "REQUIRED_RANGE_END_SOURCE_TIME_MISMATCH" (some (.delta source_to_range_end))
        ++ findingIf (ageMismatch completed source item.freshness.age_seconds)
          "REQUIRED_FRESHNESS_AGE_MISMATCH"
          (some (.seconds (some (expectedAge completed source)) item.freshness.age_seconds))

/-- The findings about a series that was read. -/
def seriesFindings (dec : DecimalArithmetic) (rt : OpsRuntime) (bundle : EvidenceBundle)
    (item : EvidenceItem) (require_monotonic : Bool) (parsed : Series) :
    Except OpsExc (List Finding) := do
  let range_end := parsed.timestamps.getLastD 0
  let off_grid ← offGrid dec parsed.timestamps
  let span ← dec (spread parsed.timestamps)
  let collected_epoch ← epochDecimal rt item.collected_at
  let range_end_delta ← dec (range_end - collected_epoch)
  let source_findings ← sourceTimeFindings dec rt bundle item range_end
  return findingIf (off_grid = true) "REQUIRED_SAMPLE_GRID_INVALID"
    ++ findingIf (span ≠ rangeWindowSeconds) "REQUIRED_SAMPLE_WINDOW_INVALID"
    ++ findingIf (rangeCollectionSkewSeconds < |range_end_delta|)
      "REQUIRED_RANGE_END_COLLECTION_TIME_MISMATCH" (some (.delta |range_end_delta|))
    ++ source_findings
    ++ findingIf (item.collected_at.instant < bundle.collection.started_at.instant ∨
        bundle.collection.completed_at.instant < item.collected_at.instant)
      "REQUIRED_COLLECTION_INTERVAL_MISMATCH"
    ++ findingIf (require_monotonic = true ∧ decreases parsed.values = true)
      "REQUIRED_OFFSET_DECREASE_OBSERVED"

/-- The finding about the number of samples, of which none are counted where the value is no
list. -/
def sampleCountFinding (item : EvidenceItem) (value_count : Option Nat) : Finding :=
  ⟨PyStr.ofString "REQUIRED_SAMPLE_COUNT_MISMATCH",
    some (.sampleCount expectedSampleCount value_count item.metric.sample_count)⟩

/-- `_parse_partition_series(...)`: the series, where there is one, and the findings about the
item. -/
def parsePartitionSeries (dec : DecimalArithmetic) (rt : OpsRuntime) (bundle : EvidenceBundle)
    (item : EvidenceItem) (committed_offsets require_monotonic : Bool) :
    Except OpsExc (Option Series × List Finding) :=
  match item.metric.value with
  | .arr samples =>
      if samples.length = expectedSampleCount ∧
          item.metric.sample_count = some expectedSampleCount then
        match readSamples rt committed_offsets 0 samples with
        | (none, findings) => return (none, findings)
        | (some read, findings) => do
            let parsed : Series := ⟨read.map (·.1), read.map (·.2)⟩
            let series_findings ← seriesFindings dec rt bundle item require_monotonic parsed
            return (some parsed, findings ++ series_findings)
      else return (none, [sampleCountFinding item (some samples.length)])
  | _ => return (none, [sampleCountFinding item none])

/-! ### Partitions

The items of a family are told apart by their partition label. The family has findings of its own:
labels that are missing, partitions that are there twice, and coverage of other partitions. -/

/-- `expected_partition_count`. -/
def expectedPartitionCount : Nat := 8

/-- The partitions of the topic. -/
def topicPartitions : List PyStr := (List.range expectedPartitionCount).map natStr

/-- `set(left) == set(right)`. -/
def sameSet (left right : List PyStr) : Bool := left.all (· ∈ right) && right.all (· ∈ left)

/-- `item.labels.get("consumergroup") or item.labels.get("consumer_group")`. -/
def observedGroup (item : EvidenceItem) : Option PyStr :=
  match item.label "consumergroup" with
  | some (c :: group) => some (c :: group)
  | _ => item.label "consumer_group"

/-- The findings about the labels and the coverage of an item with a partition. -/
def labelFindings (bundle : EvidenceBundle) (require_consumer_group : Bool) (partition : PyStr)
    (item : EvidenceItem) : List Finding :=
  findingIf (item.label "__name__" ≠ some item.metric.name) "REQUIRED_METRIC_LABEL_MISMATCH"
    ++ findingIf (item.label "topic" ≠ some bundle.scope.topic) "REQUIRED_TOPIC_SCOPE_MISMATCH"
      (some (.plain partition))
    ++ findingIf (require_consumer_group = true ∧
        observedGroup item ≠ some bundle.scope.consumer_group)
      "REQUIRED_CONSUMER_GROUP_SCOPE_MISMATCH" (some (.plain partition))
    ++ findingIf (item.coverage.expected_items = []) "REQUIRED_PARTITION_EXPECTATION_MISSING"
    ++ findingIf (item.coverage.expected_count ≠ some expectedPartitionCount ∨
        item.coverage.observed_count ≠ some expectedPartitionCount ∨
        sameSet item.coverage.expected_items topicPartitions = false ∨
        sameSet item.coverage.observed_items topicPartitions = false ∨
        item.coverage.missing_items ≠ [] ∨ item.coverage.extra_items ≠ [])
      "REQUIRED_PARTITION_COVERAGE_CONTRACT_MISMATCH"

/-- An item of a family with its partition and its series, where it has one. -/
structure PartitionSeries where
  partition : PyStr
  item : EvidenceItem
  parsed : Option Series

/-- The loop over the items of a family; only OK items count. -/
def partitionItems (dec : DecimalArithmetic) (rt : OpsRuntime) (bundle : EvidenceBundle)
    (require_consumer_group committed_offsets require_monotonic : Bool) :
    List EvidenceItem → Except OpsExc (List PartitionSeries × List EvidenceIssue)
  | [] => return ([], [])
  | item :: items =>
      if item.status = .ok then
        match item.label "partition" with
        | none => do
            let (entries, issues) ← partitionItems dec rt bundle require_consumer_group
              committed_offsets require_monotonic items
            return (entries, itemIssues item
              [⟨PyStr.ofString "REQUIRED_PARTITION_LABEL_MISSING", none⟩] ++ issues)
        | some partition => do
            let (parsed, findings) ←
              parsePartitionSeries dec rt bundle item committed_offsets require_monotonic
            let (entries, issues) ← partitionItems dec rt bundle require_consumer_group
              committed_offsets require_monotonic items
            return (⟨partition, item, parsed⟩ :: entries,
              itemIssues item (labelFindings bundle require_consumer_group partition item
                ++ findings) ++ issues)
      else partitionItems dec rt bundle require_consumer_group committed_offsets require_monotonic
        items

/-- `series_by_partition`: the first series of each partition. -/
def seriesByPartition (entries : List PartitionSeries) : List (PyStr × EvidenceItem × Series) :=
  entries.foldl (fun result entry =>
    match entry.parsed with
    | some parsed =>
        if (result.lookup entry.partition).isSome then result
        else result ++ [(entry.partition, entry.item, parsed)]
    | none => result) []

/-- `tuple(sorted(item.coverage.expected_items))` of the items that expect something. -/
def expectedSets (entries : List PartitionSeries) : List (List PyStr) :=
  (entries.map (·.item.coverage.expected_items)).filter (· ≠ [])
    |>.map (·.insertionSort (· ≤ ·))

/-- The finding about a family that expects other partitions than it has. -/
def coverageFindings (entries : List PartitionSeries) : List Finding :=
  let observed := entries.map (·.partition)
  match (expectedSets entries).dedup with
  | [expected] => findingIf (sameSet expected observed = false)
      "REQUIRED_PARTITION_COVERAGE_MISMATCH" (some (.coverage
        (sortedSet (expected.filter (· ∉ observed))) (sortedSet (observed.filter (· ∉ expected)))))
  | _ => []

/-- The partitions that are there more than once. -/
def duplicatePartitions (entries : List PartitionSeries) : List PyStr :=
  let partitions := entries.map (·.partition)
  sortedSet (partitions.filter fun partition => 1 < partitions.count partition)

/-- The findings about the family. -/
def familyFindings (rt : OpsRuntime) (entries : List PartitionSeries) : List Finding :=
  let items := entries.map (·.item)
  findingIf (duplicatePartitions entries ≠ []) "REQUIRED_DUPLICATE_PARTITION_SERIES"
      (some (.names (duplicatePartitions entries)))
    ++ findingIf (distinct (items.map fun item => (item.label "job", item.label "instance")) ≠ 1)
      "REQUIRED_EXPORTER_IDENTITY_MIXED"
    ++ findingIf (distinct (items.filterMap fun item => item.source_timestamp.map rt.isoformat) ≠ 1)
      "REQUIRED_SOURCE_TIMESTAMP_MIXED"
    ++ findingIf (distinct (items.map fun item => rt.isoformat item.collected_at) ≠ 1)
      "REQUIRED_COLLECTION_TIMESTAMP_MIXED"
    ++ findingIf (distinct (items.map fun item => (item.raw_ref, item.raw_sha256)) ≠ 1 ∨
        (items.head?.bind (·.raw_ref)) = none) "REQUIRED_RAW_SOURCE_MIXED"
    ++ findingIf (1 < distinct (expectedSets entries)) "REQUIRED_PARTITION_EXPECTATION_INCONSISTENT"
    ++ coverageFindings entries
    ++ findingIf (distinct ((seriesByPartition entries).map (·.2.2.timestamps)) ≠ 1)
      "REQUIRED_SAMPLE_GRID_MISMATCH"

/-- `_partition_values(...)`: the series of the family, and the observation with the
issues it adds. -/
def partitionValues (dec : DecimalArithmetic) (rt : OpsRuntime) (bundle : EvidenceBundle)
    (observation : ObservedDependency)
    (require_consumer_group committed_offsets require_monotonic : Bool) :
    Except OpsExc (List (PyStr × EvidenceItem × Series) × ObservedDependency) := do
  let (entries, issues) ← partitionItems dec rt bundle require_consumer_group committed_offsets
    require_monotonic observation.items
  return (seriesByPartition entries,
    observation.addIssues (issues ++ familyIssues (familyFindings rt entries)))

/-! ### The condition

The verdict is made after the issues of the families, those of the comparison point by point, and
those across the families. With any of these the condition is UNKNOWN. -/

/-- The facts of the core condition. -/
structure BacklogFacts where
  end_offsets : List (PyStr × PyNumber)
  committed_offsets : List (PyStr × PyNumber)
  partition_lag : List (PyStr × PyNumber)
  latest_total_lag_records : Option PyNumber
  maximum_total_lag_records : Option PyNumber
  window_all_zero : Option Bool

/-- `ConditionResult`. -/
structure ConditionResult where
  state : ConditionState
  reason_codes : List PyStr
  evidence_ids : List PyStr
  required_evidence : List EvidenceDependencyTrace
  optional_evidence : List EvidenceDependencyTrace
  missing_required_dependencies : List PyStr
  stale_required_evidence_ids : List PyStr
  unknown_freshness_required_evidence_ids : List PyStr
  facts : BacklogFacts

/-- `_condition_result(...)`: the state with the traces it was derived from. The lists of what is
missing, stale or of unknown freshness are those of the required dependencies. -/
def conditionResult (rt : OpsRuntime) (state : ConditionState) (reason_codes : List PyStr)
    (required optional : List ObservedDependency) (facts : BacklogFacts) : ConditionResult :=
  let traces := required.map (·.trace rt)
  { state := state
    reason_codes := reason_codes
    evidence_ids := sortedSet ((required.flatMap (·.items)).map (·.evidence_id))
    required_evidence := traces
    optional_evidence := optional.map (·.trace rt)
    missing_required_dependencies :=
      ((traces.filter (·.missing)).map (·.dependency)).insertionSort (· ≤ ·)
    stale_required_evidence_ids := sortedSet (traces.flatMap (·.stale_evidence_ids))
    unknown_freshness_required_evidence_ids :=
      sortedSet (traces.flatMap (·.unknown_freshness_evidence_ids))
    facts := facts }

/-- `_all_issue_codes(observations)`: the codes of all their issues, sorted, each code once. -/
def allIssueCodes (observations : List ObservedDependency) : List PyStr :=
  sortedSet ((observations.flatMap (·.issues)).map (·.code))

/-- The lags of a partition, from a sample on, that are not the difference of the offsets; a
committed offset of -1 has none. -/
def lagMismatches (dec : DecimalArithmetic) (partition : PyStr) :
    Nat → List ℚ → List ℚ → List ℚ → Except OpsExc (List Finding)
  | sample_index, e :: ends, c :: committed, l :: lag =>
      if c = -1 then lagMismatches dec partition (sample_index + 1) ends committed lag
      else do
        let expected_lag ← dec (e - c)
        let rest ← lagMismatches dec partition (sample_index + 1) ends committed lag
        return findingIf (expected_lag ≠ l) "KAFKA_OFFSET_LAG_ARITHMETIC_MISMATCH"
          (some (.lag partition sample_index e c l expected_lag)) ++ rest
  | _, _, _, _ => return []

/-- The issues of the loop over the partitions of the three families. -/
def arithmeticIssues (dec : DecimalArithmetic)
    (ends committed lag : List (PyStr × EvidenceItem × Series)) :
    List PyStr → Except OpsExc (List EvidenceIssue)
  | [] => return []
  | partition :: partitions =>
      match ends.lookup partition, committed.lookup partition, lag.lookup partition with
      | some (_, end_series), some (_, committed_series), some (lag_item, lag_series) => do
          let findings ←
            if end_series.timestamps = committed_series.timestamps ∧
                committed_series.timestamps = lag_series.timestamps then
              lagMismatches dec partition 0 end_series.values committed_series.values
                lag_series.values
            else .ok [⟨PyStr.ofString "KAFKA_REQUIRED_SAMPLE_GRID_MISMATCH",
              some (.partition partition)⟩]
          let rest ← arithmeticIssues dec ends committed lag partitions
          return itemIssues lag_item findings ++ rest
      | _, _, _ => .error .keyError

/-- `sum(values, Decimal(0))`. -/
def sumDecimals (dec : DecimalArithmetic) : ℚ → List ℚ → Except OpsExc ℚ
  | total, [] => .ok total
  | total, value :: values => do
      let total' ← dec (total + value)
      sumDecimals dec total' values

/-- `total_lag_series`, from the rows of the lag family. -/
def totalLagSeries (dec : DecimalArithmetic) (rows : List (List ℚ)) :
    List Nat → Except OpsExc (List ℚ)
  | [] => return []
  | sample_index :: indices => do
      let total ← sumDecimals dec 0 (rows.map fun row => row.getD sample_index 0)
      let rest ← totalLagSeries dec rows indices
      return total :: rest

/-- `_json_number(series.values[-1])` of a family, by partition. -/
def latestValues (family : List (PyStr × EvidenceItem × Series)) : List (PyStr × PyNumber) :=
  (family.insertionSort fun a b => a.1 ≤ b.1).map fun entry =>
    (entry.1, numberOf (entry.2.2.values.getLastD 0))

/-- The issues across the three families: those of the end offsets and those of the lag. -/
def crossIssues (dec : DecimalArithmetic) (rt : OpsRuntime)
    (ends committed lag : List (PyStr × EvidenceItem × Series)) :
    Except OpsExc (List EvidenceIssue × List EvidenceIssue) := do
  let keys (family : List (PyStr × EvidenceItem × Series)) : List PyStr := family.map (·.1)
  let families := ends ++ committed ++ lag
  let same := sameSet (keys ends) (keys committed) && sameSet (keys committed) (keys lag)
  let lag_issues ← if same = true then
      arithmeticIssues dec ends committed lag ((keys ends).insertionSort (· ≤ ·))
    else .ok []
  return (familyIssues (
    findingIf ((ends ≠ [] ∧ committed ≠ [] ∧ lag ≠ []) ∧ same = false)
        "KAFKA_REQUIRED_PARTITION_SET_MISMATCH"
      ++ findingIf (distinct (families.map fun entry =>
          (entry.2.1.label "job", entry.2.1.label "instance")) ≠ 1)
        "KAFKA_REQUIRED_EXPORTER_IDENTITY_MISMATCH"
      ++ findingIf (distinct (families.filterMap fun entry =>
          entry.2.1.source_timestamp.map rt.isoformat) ≠ 1)
        "KAFKA_REQUIRED_SOURCE_TIMESTAMP_MISMATCH"), lag_issues)

/-- The verdict over observations without an issue. -/
def usableBacklog (dec : DecimalArithmetic) (rt : OpsRuntime)
    (lag : List (PyStr × EvidenceItem × Series)) (required optional : List ObservedDependency)
    (facts : BacklogFacts) : Except OpsExc ConditionResult := do
  let totals ← totalLagSeries dec (lag.map (·.2.2.values)) (List.range expectedSampleCount)
  let all_zero := totals.all (· = 0)
  let facts := { facts with
    latest_total_lag_records := some (numberOf (totals.getLastD 0))
    maximum_total_lag_records := some (numberOf (totals.foldl max (totals.headD 0)))
    window_all_zero := some all_zero }
  if all_zero = true then
    return conditionResult rt .absent [PyStr.ofString "BACKLOG_ZERO_FOR_FULL_WINDOW"] required
      optional facts
  else
    return conditionResult rt .unknown [PyStr.ofString "BACKLOG_OBSERVED_IN_WINDOW",
      PyStr.ofString "PRESSURE_POLICY_UNCALIBRATED"] required optional facts

/-- `_evaluate_core_backlog(bundle, index, policy)`. -/
def evaluateCoreBacklog (dec : DecimalArithmetic) (rt : OpsRuntime) (bundle : EvidenceBundle) :
    Except OpsExc ConditionResult := do
  let optional := coreOptional.map (observeDependency · bundle)
  let (ends, end_observation) ← partitionValues dec rt bundle (observeDependency endOffset bundle)
    false false true
  let (committed, committed_observation) ← partitionValues dec rt bundle
    (observeDependency committedOffset bundle) true true true
  let (lag, lag_observation) ← partitionValues dec rt bundle (observeDependency partitionLag bundle)
    true false false
  let (end_issues, lag_issues) ← crossIssues dec rt ends committed lag
  let required := [end_observation.addIssues end_issues, committed_observation,
    lag_observation.addIssues lag_issues]
  let facts : BacklogFacts :=
    ⟨latestValues ends, latestValues committed, latestValues lag, none, none, none⟩
  if required.any (fun observation => !observation.issues.isEmpty) = true then
    return conditionResult rt .unknown
      (PyStr.ofString "CORE_BACKLOG_PRESSURE_REQUIRED_EVIDENCE_UNUSABLE" :: allIssueCodes required)
      required optional facts
  else usableBacklog dec rt lag required optional facts

/-! ### The bundle -/

/-- The other conditions of a bundle, which the sequence evaluator passes on. -/
structure OtherConditions where
  partition_lag_concentration_observed : ConditionState × List PyStr
  db_degraded : ConditionState × List PyStr
  worker_replica_unavailable : ConditionState × List PyStr

/-- The evaluators of the other conditions. -/
abbrev OtherEvaluator := EvidenceBundle → Except OpsExc OtherConditions

/-- `evaluate_bundle(bundle)`, as far as the sequence evaluator reads it. -/
structure BundleEvaluation where
  core_backlog_pressure : ConditionResult
  others : OtherConditions

/-- `evaluate_bundle(bundle, policy)`; the fields of the policy are literals. -/
def evaluateBundle (dec : DecimalArithmetic) (others : OtherEvaluator) (rt : OpsRuntime)
    (bundle : EvidenceBundle) : Except OpsExc BundleEvaluation := do
  ensure (bundle.cluster_profile = "local-ha")
    (.valueError "evaluation policy cluster profile mismatch")
  ensure (inEvaluationScope bundle = true) (.valueError "evaluation policy scope mismatch")
  let core ← evaluateCoreBacklog dec rt bundle
  let others ← others bundle
  return ⟨core, others⟩

/-- The required evidence of the core condition has no issue. -/
def ConditionResult.Usable (result : ConditionResult) : Prop :=
  ∀ trace ∈ result.required_evidence, trace.issues = []

instance (result : ConditionResult) : Decidable result.Usable := by
  unfold ConditionResult.Usable
  infer_instance

end EventPipeline.OpsAgent.Evaluator
