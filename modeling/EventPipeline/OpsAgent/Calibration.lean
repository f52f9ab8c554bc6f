import EventPipeline.OpsAgent.IncidentModels

/-!
# EventPipeline.OpsAgent.Calibration

`summarize_bundle` of `ops_agent/calibration.py`, with the parts of the summary that the
recovery evaluator reads.
-/

namespace EventPipeline.OpsAgent

open EventPipeline.Python

/-! ### Samples -/

/-- `str(value)` of a JSON value. -/
def strOf (rt : OpsRuntime) : Json → PyStr
  | .null => "None"
  | .bool b => if b then "True" else "False"
  | .int z => intStr z
  | .float (.inf neg) => if neg then "-inf" else "inf"
  | .float .nan => "nan"
  | .float f => f.repr
  | .str s => s
  | value => rt.containerText value

/-- `Decimal(str(sample[field]))`, where it is finite and nothing is raised. -/
def sampleDecimal (rt : OpsRuntime) (field : String) (sample : Json) : Option ℚ :=
  match sample with
  | .obj kvs =>
      match (Dict.get? kvs field).bind fun value => PyDecimal.parse rt.chars (strOf rt value) with
      | some (.finite value) => some value
      | _ => none
  | _ => none

/-- The time stamps and the values of a series. -/
structure Series where
  timestamps : List ℚ
  values : List ℚ
  deriving DecidableEq

/-- `values[-1] - values[0]`, exactly. -/
def spread (values : List ℚ) : ℚ := values.getLastD 0 - values.headD 0

/-- `_series(item)`: the samples of a fresh item, read as two lists. It takes two samples at
least, of which the last is later than the first. -/
def series (rt : OpsRuntime) (item : EvidenceItem) : Option Series :=
  if item.status = .ok ∧ item.freshness.status = .fresh then
    match item.metric.value with
    | .arr samples => do
        let timestamps ← samples.mapM (sampleDecimal rt "timestamp")
        let values ← samples.mapM (sampleDecimal rt "value")
        if 2 ≤ timestamps.length ∧ timestamps.headD 0 < timestamps.getLastD 0 then
          some ⟨timestamps, values⟩
        else none
    | _ => none
  else none

/-- `_partition_family(bundle, metric_name)`: the first series of each partition. -/
def partitionFamily (rt : OpsRuntime) (bundle : EvidenceBundle) (metric_name : PyStr) :
    List (PyStr × Series) :=
  (bundle.items metric_name).foldl (fun result item =>
    match item.label "partition", series rt item with
    | some partition, some parsed =>
        if (result.lookup partition).isSome then result else result ++ [(partition, parsed)]
    | _, _ => result) []

/-- The `int` of every text. -/
def parseInts (rt : OpsRuntime) : List PyStr → Except OpsExc (List (Int × PyStr))
  | [] => .ok []
  | value :: values =>
      match parseInt rt.chars value with
      | some key => do
          let rest ← parseInts rt values
          return (key, value) :: rest
      | none => .error (.valueError "invalid literal for int() with base 10")

/-- `sorted(set(values), key=int)`; texts of one number keep the order given. -/
def sortedByInt (rt : OpsRuntime) (values : List PyStr) : Except OpsExc (List PyStr) := do
  let keyed ← parseInts rt values.dedup
  return (keyed.insertionSort fun a b => a.1 ≤ b.1).map (·.2)

/-- Decimal arithmetic: the result of an operation, by its exact result. -/
abbrev DecimalArithmetic := ℚ → Except OpsExc ℚ

/-- The arithmetic of the default context. -/
def decimalResult : DecimalArithmetic := fun exact =>
  match decimalContext exact with
  | some value => .ok value
  | none => .error .arithmeticError

/-- Decimals as exact numbers. -/
def exactDecimal : DecimalArithmetic := .ok

@[simp] theorem exactDecimal_eq (exact : ℚ) : exactDecimal exact = .ok exact := rfl

/-- `_number(value)`: a whole decimal becomes an `int`, any other a `float`. -/
def numberOf (value : ℚ) : PyNumber :=
  if value.den = 1 then .int value.num else .float (PyFloat.ofRat value)

/-! ### Kafka

The summary adds up the three series of each partition. A partition whose series are missing or
lie on different grids adds nothing but an anomaly. -/

/-- An entry of `per_partition`. -/
structure PartitionSummary where
  end_offset : PyNumber
  committed_offset : PyNumber
  lag : PyNumber
  end_offset_delta : PyNumber
  committed_offset_delta : PyNumber
  lag_delta : PyNumber
  deriving DecidableEq

/-- The variables of the loop over the partitions. -/
structure KafkaTotals where
  produce_delta : ℚ
  committed_delta : ℚ
  lag_first : ℚ
  lag_latest : ℚ
  windows : List ℚ
  anomalies : List PyStr
  per_partition : List (PyStr × PartitionSummary)
  deriving DecidableEq

/-- `f"partition_{partition}_{kind}"`. -/
def partitionAnomaly (partition : PyStr) (kind : String) : PyStr :=
  PyStr.ofString "partition_" ++ partition ++ PyStr.ofString "_" ++ PyStr.ofString kind

/-- A later value is smaller than the one before. -/
def decreases (values : List ℚ) : Bool :=
  (values.zip values.tail).any fun (earlier, later) => later < earlier

/-- The anomalies of a partition with three series on one grid. -/
def seriesAnomalies (partition : PyStr) (ends committed lag : List ℚ)
    (consistent : Bool) : List PyStr :=
  let anomaly (condition : Bool) (kind : String) : List PyStr :=
    if condition then [partitionAnomaly partition kind] else []
  anomaly (decreases ends) "end_offset_decrease"
    ++ anomaly (decreases committed) "committed_offset_decrease"
    ++ anomaly (committed.any (· = -1)) "committed_uninitialized"
    ++ anomaly (ends.any (· < 0)) "negative_end_offset"
    ++ anomaly (committed.any (· < 0)) "negative_committed_offset"
    ++ anomaly (lag.any (· < 0)) "negative_lag"
    ++ anomaly (!consistent) "offset_lag_arithmetic_mismatch"

/-- Every lag is the difference of the offsets, as `decimal` computes it. -/
def lagConsistent (dec : DecimalArithmetic) : List ℚ → List ℚ → List ℚ → Except OpsExc Bool
  | e :: ends, c :: committed, l :: lag => do
      let difference ← dec (e - c)
      -- `any` stops at the first mismatch
      if l = difference then lagConsistent dec ends committed lag else return false
  | _, _, _ => return true

/-- One round of the loop over the partitions. -/
def partitionStep (dec : DecimalArithmetic) (ends committed lag : List (PyStr × Series))
    (totals : KafkaTotals) (partition : PyStr) : Except OpsExc KafkaTotals :=
  match ends.lookup partition, committed.lookup partition, lag.lookup partition with
  | some end_series, some committed_series, some lag_series =>
      if end_series.timestamps = committed_series.timestamps ∧
          committed_series.timestamps = lag_series.timestamps then do
        let window ← dec (spread end_series.timestamps)
        let end_delta ← dec (spread end_series.values)
        let current_delta ← dec (spread committed_series.values)
        let lag_delta ← dec (spread lag_series.values)
        let consistent ←
          lagConsistent dec end_series.values committed_series.values lag_series.values
        let produce_delta ← dec (totals.produce_delta + end_delta)
        let committed_delta ← dec (totals.committed_delta + current_delta)
        let lag_first ← dec (totals.lag_first + lag_series.values.headD 0)
        let lag_latest ← dec (totals.lag_latest + lag_series.values.getLastD 0)
        let summary : PartitionSummary :=
          ⟨numberOf (end_series.values.getLastD 0), numberOf (committed_series.values.getLastD 0),
            numberOf (lag_series.values.getLastD 0), numberOf end_delta, numberOf current_delta,
            numberOf lag_delta⟩
        return {
          produce_delta := produce_delta
          committed_delta := committed_delta
          lag_first := lag_first
          lag_latest := lag_latest
          windows := totals.windows ++ [window]
          anomalies := totals.anomalies ++ seriesAnomalies partition end_series.values
            committed_series.values lag_series.values consistent
          per_partition := totals.per_partition ++ [(partition, summary)] }
      else
        .ok { totals with
          anomalies := totals.anomalies ++ [partitionAnomaly partition "grid_mismatch"] }
  | _, _, _ =>
      .ok { totals with
        anomalies := totals.anomalies ++ [partitionAnomaly partition "family_missing"] }

/-- The loop over the partitions. -/
def partitionLoop (dec : DecimalArithmetic) (ends committed lag : List (PyStr × Series)) :
    KafkaTotals → List PyStr → Except OpsExc KafkaTotals
  | totals, [] => .ok totals
  | totals, partition :: partitions => do
      let totals' ← partitionStep dec ends committed lag totals partition
      partitionLoop dec ends committed lag totals' partitions

/-- The `kafka` part of a summary. -/
structure KafkaSummary where
  window_seconds : Option PyNumber
  produce_rate_records_per_second : Option PyFloat
  committed_offset_rate_records_per_second : Option PyFloat
  total_lag : Option PyNumber
  lag_slope_records_per_second : Option PyFloat
  per_partition : List (PyStr × PartitionSummary)
  anomalies : List PyStr

/-- A rate over the window, where there is one and no anomaly. -/
def windowRate (dec : DecimalArithmetic) (window : Option ℚ) (anomalies : List PyStr)
    (delta : Except OpsExc ℚ) : Except OpsExc (Option PyFloat) :=
  match window with
  | some window =>
      if 0 < window ∧ anomalies = [] then do
        let delta ← delta
        let rate ← dec (delta / window)
        return some (PyFloat.ofRat rate)
      else return none
  | none => return none

/-- The `kafka` part of `summarize_bundle(bundle)`. -/
def kafkaSummary (dec : DecimalArithmetic) (rt : OpsRuntime) (bundle : EvidenceBundle) :
    Except OpsExc KafkaSummary := do
  let ends := partitionFamily rt bundle "kafka_topic_partition_current_offset"
  let committed := partitionFamily rt bundle "kafka_consumergroup_current_offset"
  let lag := partitionFamily rt bundle "kafka_consumergroup_lag"
  let partitions ← sortedByInt rt ((ends ++ committed ++ lag).map (·.1))
  let totals ← partitionLoop dec ends committed lag ⟨0, 0, 0, 0, [], [], []⟩ partitions
  let window_seconds := match totals.windows.dedup with
    | [window] => some window
    | _ => none
  let anomalies := totals.anomalies
    ++ (if window_seconds = none then [PyStr.ofString "kafka_window_mismatch"] else [])
    ++ (if bundle.context.policy_version = "local-ha.evidence.v1" ∧
          totals.per_partition.length ≠ 8 then
        [PyStr.ofString "partition_coverage_incomplete"]
      else [])
  let produce_rate ← windowRate dec window_seconds anomalies (.ok totals.produce_delta)
  let committed_rate ← windowRate dec window_seconds anomalies (.ok totals.committed_delta)
  let lag_slope ← windowRate dec window_seconds anomalies
    (dec (totals.lag_latest - totals.lag_first))
  return {
    window_seconds := window_seconds.map numberOf
    produce_rate_records_per_second := produce_rate
    committed_offset_rate_records_per_second := committed_rate
    total_lag := if anomalies = [] then some (numberOf totals.lag_latest) else none
    lag_slope_records_per_second := lag_slope
    per_partition := totals.per_partition
    anomalies := sortedSet anomalies }

/-! ### Stage latency

A histogram is added up bucket by bucket over the items of the stage. Its bounds are decimals of
any kind, which is where a NaN can come in. -/

/-- The variables of the loop over the stage latency items. -/
structure StageTotals where
  count_delta : ℚ
  sum_delta : ℚ
  bucket_deltas : List (PyDecimal × ℚ)
  count_series : Nat
  sum_series : Nat
  counter_decrease : Bool
  source_timestamps : List PyStr

/-- `bucket_deltas[bound] = bucket_deltas.get(bound, Decimal(0)) + delta`. A quiet NaN is
a new key each time, and a signaling one cannot be hashed. -/
def addBucket (dec : DecimalArithmetic) (buckets : List (PyDecimal × ℚ)) (bound : PyDecimal)
    (delta : ℚ) : Except OpsExc (List (PyDecimal × ℚ)) :=
  match bound with
  | .nan true => .error .typeError
  | .nan false => do
      let total ← dec delta
      return buckets ++ [(bound, total)]
  | bound => do
      let total ← dec ((buckets.lookup bound).getD 0 + delta)
      return if (buckets.lookup bound).isSome then
          buckets.map fun (key, value) => if key = bound then (key, total) else (key, value)
        else buckets ++ [(bound, total)]

/-- `messaging_worker_stage_latency_seconds`. -/
def stageMetric : PyStr := "messaging_worker_stage_latency_seconds"

/-- An item of the `db_persist` stage. -/
def isStageItem (item : EvidenceItem) : Bool :=
  item.metric.name = stageMetric
    || (item.metric.name.startsWith (stageMetric ++ PyStr.ofString "_")
      && item.label "stage" = some (PyStr.ofString "db_persist"))

/-- `name.endswith(suffix)`. -/
def endsWith (name : PyStr) (suffix : String) : Bool :=
  (PyStr.ofString suffix).reverse.isPrefixOf name.reverse

/-- One matching item with its series. -/
def stageStep (dec : DecimalArithmetic) (rt : OpsRuntime) (totals : StageTotals)
    (item : EvidenceItem) (parsed : Series) : Except OpsExc StageTotals := do
  let delta ← dec (spread parsed.values)
  if delta < 0 then return { totals with counter_decrease := true }
  let totals := { totals with
    source_timestamps :=
      totals.source_timestamps ++ (item.source_timestamp.map rt.isoformat).toList }
  if endsWith item.metric.name "_count" then do
    let count_delta ← dec (totals.count_delta + delta)
    return { totals with count_delta := count_delta, count_series := totals.count_series + 1 }
  else if endsWith item.metric.name "_sum" then do
    let sum_delta ← dec (totals.sum_delta + delta)
    return { totals with sum_delta := sum_delta, sum_series := totals.sum_series + 1 }
  else if endsWith item.metric.name "_bucket" then
    match item.label "le" with
    | none => return totals
    | some raw_le =>
        if raw_le = PyStr.ofString "+Inf" then return totals
        else
          match PyDecimal.parse rt.chars raw_le with
          | none => return totals
          | some bound => do
              let bucket_deltas ← addBucket dec totals.bucket_deltas bound delta
              return { totals with bucket_deltas := bucket_deltas }
  else return totals

/-- The loop over the matching items. -/
def stageLoop (dec : DecimalArithmetic) (rt : OpsRuntime) :
    StageTotals → List EvidenceItem → Except OpsExc StageTotals
  | totals, [] => .ok totals
  | totals, item :: items =>
      match series rt item with
      | none => stageLoop dec rt totals items
      | some parsed => do
          let totals' ← stageStep dec rt totals item parsed
          stageLoop dec rt totals' items

/-- The smallest bound whose cumulative delta reaches the target. -/
def p95Bound (dec : DecimalArithmetic) (totals : StageTotals) : Except OpsExc (Option PyDecimal) :=
  if 0 < totals.count_delta ∧ totals.bucket_deltas ≠ [] then do
    let target ← dec (totals.count_delta * (95 / 100))
    let unordered := totals.bucket_deltas.any fun bucket => bucket.1 matches .nan _
    if unordered ∧ 2 ≤ totals.bucket_deltas.length then .error .arithmeticError
    else
      let buckets := totals.bucket_deltas.insertionSort fun a b => b.1.lt a.1 = false
      return (buckets.find? fun bucket => target ≤ bucket.2).map (·.1)
  else return none

/-- A number of a context. -/
def numberJson : PyNumber → Json
  | .int z => .int z
  | .float f => .float f

/-- `_number(value)` of a decimal that may not be finite. -/
def decimalNumber : PyDecimal → Except OpsExc Json
  | .finite value => .ok (numberJson (numberOf value))
  | .inf _ => .error .arithmeticError
  | .nan _ => .ok (.float .nan)

/-- The counts of the values of an enumeration that occur. -/
def statusCounts {α : Type} [DecidableEq α] (names : List (String × α)) (values : List α) : Json :=
  .obj ((names.filter fun name => name.2 ∈ values).map fun name =>
    (PyStr.ofString name.1, .int (values.count name.2)))

/-- `_histogram_stage_summary(bundle)`: how the `db_persist` stage was observed over the range
window, with the mean and the upper bound of the bucket that 95% of the observations reach. -/
def histogramStageSummary (dec : DecimalArithmetic) (rt : OpsRuntime) (bundle : EvidenceBundle) :
    Except OpsExc Dict := do
  let items := bundle.evidence.filter isStageItem
  let totals ← stageLoop dec rt ⟨0, 0, [], 0, 0, false, []⟩ items
  let bound ← p95Bound dec totals
  let status : String :=
    if totals.count_series = 0 ∧ totals.sum_series = 0 then
      if items.any (·.status = .ok) then "UNKNOWN"
      else if items.any (·.status = .error) then "ERROR"
      else "MISSING"
    else if 0 < totals.count_series ∧ 0 < totals.sum_series ∧ totals.counter_decrease = false then
      "OK"
    else "PARTIAL"
  let mean ← if 0 < totals.count_delta then
      (dec (totals.sum_delta / totals.count_delta)).map fun mean =>
        Json.float (PyFloat.ofRat mean)
    else .ok Json.null
  let p95 ← match bound with
    | some bound => decimalNumber bound
    | none => .ok Json.null
  return [
    ("status", .str status),
    ("semantic", .str "_persist_message_with_cursor stage only; transaction commit excluded"),
    ("observation_count_delta",
      if 0 < totals.count_series then numberJson (numberOf totals.count_delta) else .null),
    ("sum_seconds_delta",
      if 0 < totals.sum_series then numberJson (numberOf totals.sum_delta) else .null),
    ("mean_seconds", mean),
    ("p95_finite_bucket_upper_bound_seconds", p95),
    ("count_series", .int totals.count_series),
    ("sum_series", .int totals.sum_series),
    ("counter_decrease", .bool totals.counter_decrease),
    ("source_timestamps", .arr ((sortedSet totals.source_timestamps).map .str)),
    ("matching_evidence_items", .int items.length),
    ("evidence_status_counts", statusCounts
      [("OK", .ok), ("MISSING", .missing), ("ERROR", .error), ("NOT_APPLICABLE", .notApplicable),
        ("UNAVAILABLE", .unavailable)] (items.map (·.status))),
    ("freshness_status_counts", statusCounts
      [("FRESH", FreshnessStatus.fresh), ("STALE", .stale), ("UNKNOWN", .unknown),
        ("NOT_APPLICABLE", .notApplicable)] (items.map (·.freshness.status)))]

/-! ### The summary -/

/-- The value of the only item of a metric, where it is OK and a mapping. -/
def onlyMapping (bundle : EvidenceBundle) (metric_name : PyStr) : Option Dict :=
  match bundle.items metric_name with
  | [item] =>
      if item.status = .ok then
        match item.metric.value with
        | .obj kvs => some kvs
        | _ => none
      else none
  | _ => none

/-- `d.get(key)` as a value. -/
def getOrNull (d : Dict) (key : String) : Json := (d.get? key).getD .null

/-- The fields of a mapping under their names. -/
def pickFields (d : Dict) (names : List String) : Dict :=
  names.map fun name => (PyStr.ofString name, getOrNull d name)

/-- The conditions by type; what is not a mapping with a type is skipped. -/
def kedaConditions (rt : OpsRuntime) (scaled : Dict) : Except OpsExc Dict :=
  match (scaled.get? "conditions").getD (.arr []) with
  | .arr items => .ok (items.foldl (fun result condition =>
      match condition with
      | .obj kvs =>
          match getOrNull kvs "type" with
          | .null => result
          | type => result.set (strOf rt type) (.str (strOf rt (getOrNull kvs "status")))
      | _ => result) [])
  -- the keys of a dict and the characters of a string are no mappings
  | .obj _ => .ok []
  | .str _ => .ok []
  | _ => .error .typeError

/-- What the recovery evaluator reads of `summarize_bundle(bundle)`. -/
structure BundleSummary where
  kafka : KafkaSummary
  worker : Dict
  keda : Dict
  worker_db_persist_stage_latency : Dict

/-- `summarize_bundle(bundle)`: the totals of the topic, and beside them what is known of the
worker deployment, of KEDA and of the persist stage. -/
def summarizeBundle (dec : DecimalArithmetic) (rt : OpsRuntime) (bundle : EvidenceBundle) :
    Except OpsExc BundleSummary := do
  let kafka ← kafkaSummary dec rt bundle
  let deployment := (onlyMapping bundle "kubernetes_worker_deployment_observation").getD []
  let scaled := (onlyMapping bundle "kubernetes_worker_scaled_object_observation").getD []
  let conditions ← kedaConditions rt scaled
  let latency ← histogramStageSummary dec rt bundle
  return {
    kafka := kafka
    worker := pickFields deployment ["desired_replicas", "current_replicas", "ready_replicas",
      "available_replicas", "observed_generation"]
    keda := pickFields scaled ["scale_target_name", "min_replicas", "max_replicas",
        "polling_interval_seconds", "cooldown_period_seconds"]
      ++ [(PyStr.ofString "conditions", .obj conditions)]
    worker_db_persist_stage_latency := latency }

end EventPipeline.OpsAgent
