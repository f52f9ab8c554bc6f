import EventPipeline.Guarantees.BacklogEvidence
import EventPipeline.Guarantees.RecoveryEvaluation
import EventPipeline.Python.Codec
import Mathlib.Algebra.BigOperators.Group.List.Basic

/-!
# EventPipeline.Guarantees.BacklogMeasurement

The two measurements of a bundle: `_measurement`, which activates an incident, and
`summarize_bundle`, which recovery measures by.

On a clean backlog both loops compute the same sums over the eight partitions, so the
total lag and the three rates are the same. What is left of the summary is optional
context, and there it can fail.
-/

namespace EventPipeline.Guarantees

open EventPipeline.Python EventPipeline.OpsAgent EventPipeline.OpsAgent.Evaluator
open EventPipeline.OpsAgent.SequenceEvaluator EventPipeline.Sequences

/-! ### First and last values -/

theorem getLastD_zipWith_sub {as bs : List ℚ} (hlen : as.length = bs.length) (x y : ℚ) :
    (List.zipWith (· - ·) as bs).getLastD (x - y) = as.getLastD x - bs.getLastD y := by
  induction as generalizing bs x y with
  | nil =>
      obtain rfl := List.length_eq_zero_iff.mp hlen.symm
      rfl
  | cons a as ih =>
      cases bs with
      | nil => simp at hlen
      | cons b bs =>
          rw [List.zipWith_cons_cons, List.getLastD_cons, List.getLastD_cons, List.getLastD_cons]
          exact ih (by simpa using hlen) a b

theorem headD_zipWith_sub {as bs : List ℚ} (hlen : as.length = bs.length) :
    (List.zipWith (· - ·) as bs).headD 0 = as.headD 0 - bs.headD 0 := by
  cases as with
  | nil =>
      obtain rfl := List.length_eq_zero_iff.mp hlen.symm
      simp
  | cons a as =>
      cases bs with
      | nil => simp at hlen
      | cons b bs => rfl

/-- What a list of differences begins and ends with. -/
theorem Consistent.lag_values {ends committed lag : Series} (h : Consistent ends committed lag)
    (hlen : ends.values.length = committed.values.length) :
    lag.values.headD 0 = ends.values.headD 0 - committed.values.headD 0 ∧
      lag.values.getLastD 0 = ends.values.getLastD 0 - committed.values.getLastD 0 := by
  rw [h.difference]
  have hlast := getLastD_zipWith_sub hlen 0 0
  rw [sub_zero] at hlast
  exact ⟨headD_zipWith_sub hlen, hlast⟩

/-! ### Sums -/

/-- The sum of a value of every partition. -/
def partitionSum (value : PyStr → ℚ) : ℚ := (topicPartitions.map value).sum

/-- The latest values of a family, summed. -/
def totalLatest (family : Family) : ℚ :=
  partitionSum fun partition => (seriesOf family partition).values.getLastD 0

/-- The first values of a family, summed. -/
def totalFirst (family : Family) : ℚ :=
  partitionSum fun partition => (seriesOf family partition).values.headD 0

/-- What a family grew by. -/
def totalSpread (family : Family) : ℚ :=
  partitionSum fun partition => spread (seriesOf family partition).values

theorem partitionSum_sub {f g h : PyStr → ℚ}
    (hsub : ∀ partition ∈ topicPartitions, h partition = f partition - g partition) :
    partitionSum h = partitionSum f - partitionSum g := by
  rw [eq_sub_iff_add_eq, partitionSum, partitionSum, partitionSum, ← List.sum_map_add]
  refine congrArg List.sum (List.map_congr_left fun partition hpartition => ?_)
  rw [hsub partition hpartition]
  ring

theorem totalSpread_eq (family : Family) :
    totalSpread family = totalLatest family - totalFirst family :=
  partitionSum_sub fun _ _ => rfl

namespace CleanBacklog

variable {rt : OpsRuntime} {bundle : EvidenceBundle} {ends committed lag : Family}

/-- The three series of a partition are consistent, each being the one its family holds for it. -/
theorem consistent_at (h : CleanBacklog rt bundle ends committed lag) {partition : PyStr}
    (hpartition : partition ∈ topicPartitions) :
    Consistent (seriesOf ends partition) (seriesOf committed partition)
      (seriesOf lag partition) := by
  obtain ⟨e, -, -, -, he, -⟩ := h.end_offsets.lookup_partition hpartition
  obtain ⟨c, -, -, -, hc, -⟩ := h.committed_offsets.lookup_partition hpartition
  obtain ⟨l, -, -, -, hl, -⟩ := h.partition_lag.lookup_partition hpartition
  exact h.consistent partition _ _ _ he hc hl

theorem lag_values_at (h : CleanBacklog rt bundle ends committed lag) {partition : PyStr}
    (hpartition : partition ∈ topicPartitions) :
    (seriesOf lag partition).values.headD 0 =
        (seriesOf ends partition).values.headD 0 - (seriesOf committed partition).values.headD 0 ∧
      (seriesOf lag partition).values.getLastD 0 =
        (seriesOf ends partition).values.getLastD 0
          - (seriesOf committed partition).values.getLastD 0 := by
  obtain ⟨_, -, -, hends, -⟩ := h.end_offsets.lookup_partition hpartition
  obtain ⟨_, -, -, hcommitted, -⟩ := h.committed_offsets.lookup_partition hpartition
  exact (h.consistent_at hpartition).lag_values
    (hends.values_length.trans hcommitted.values_length.symm)

/-- The total lag is what the offsets differ by at the last sample. -/
theorem totalLatest_lag (h : CleanBacklog rt bundle ends committed lag) :
    totalLatest lag = totalLatest ends - totalLatest committed :=
  partitionSum_sub fun _ hpartition => (h.lag_values_at hpartition).2

theorem totalFirst_lag (h : CleanBacklog rt bundle ends committed lag) :
    totalFirst lag = totalFirst ends - totalFirst committed :=
  partitionSum_sub fun _ hpartition => (h.lag_values_at hpartition).1

/-- What is produced and not committed is what the lag grows by. -/
theorem totalSpread_lag (h : CleanBacklog rt bundle ends committed lag) :
    totalSpread lag = totalSpread ends - totalSpread committed := by
  rw [totalSpread_eq, totalSpread_eq, totalSpread_eq, h.totalLatest_lag, h.totalFirst_lag]
  ring

/-! ### The measurement of the sequence evaluator

The loop over the partitions is a fold; over clean evidence each of its steps adds the numbers of
one partition, so that the fold is a sum. -/

/-- The samples of a partition. -/
def samplesAt (ends committed lag : Family) (partition : PyStr) : PartitionSamples :=
  ⟨(seriesOf ends partition).timestamps, (seriesOf ends partition).values,
    (seriesOf committed partition).values, (seriesOf lag partition).values⟩

theorem partitionSamples_eq (h : CleanBacklog rt bundle ends committed lag) {partition : PyStr}
    (hpartition : partition ∈ topicPartitions) :
    partitionSamples rt (itemsByPartition bundle "kafka_topic_partition_current_offset")
      (itemsByPartition bundle "kafka_consumergroup_current_offset")
      (itemsByPartition bundle "kafka_consumergroup_lag") partition =
        some (samplesAt ends committed lag partition) := by
  obtain ⟨e, -, -, hends, -, he, -⟩ := h.end_offsets.lookup_partition hpartition
  obtain ⟨c, -, -, hcommitted, -, hc, -⟩ := h.committed_offsets.lookup_partition hpartition
  obtain ⟨l, -, -, hlag, -, hl, -⟩ := h.partition_lag.lookup_partition hpartition
  simp [partitionSamples, he, hc, hl, hends.decimals_value, hends.decimals_timestamp,
    hcommitted.decimals_value, hlag.decimals_value, samplesAt]

/-- One round of the loop adds the deltas of the partition. -/
theorem measurementStep_eq (h : CleanBacklog rt bundle ends committed lag) {partition : PyStr}
    (hpartition : partition ∈ topicPartitions) {totals : MeasurementTotals}
    (hwindow : totals.window.getD rangeWindowSeconds = rangeWindowSeconds) :
    measurementStep exactDecimal totals (samplesAt ends committed lag partition) = .ok
      { end_delta := totals.end_delta + spread (seriesOf ends partition).values
        committed_delta := totals.committed_delta + spread (seriesOf committed partition).values
        lag_delta := totals.lag_delta + spread (seriesOf lag partition).values
        latest_lag := totals.latest_lag + (seriesOf lag partition).values.getLastD 0
        window := some rangeWindowSeconds
        issues := totals.issues } := by
  obtain ⟨_, -, -, hends, -⟩ := h.end_offsets.lookup_partition hpartition
  obtain ⟨_, -, -, hcommitted, -⟩ := h.committed_offsets.lookup_partition hpartition
  obtain ⟨_, -, -, hlag, -⟩ := h.partition_lag.lookup_partition hpartition
  simp only [measurementStep, samplesAt, deltaOf, hends.timestamps_ne_nil, hends.values_ne_nil,
    hcommitted.values_ne_nil, hlag.values_ne_nil, if_false, exactDecimal_eq, hends.window, hwindow,
    Bind.bind, Except.bind, pure, Except.pure, ne_eq, not_true_eq_false, codeIf,
    List.append_nil]

theorem measurementLoop_eq (h : CleanBacklog rt bundle ends committed lag)
    {partitions : List PyStr} (hpartitions : ∀ partition ∈ partitions, partition ∈ topicPartitions)
    {totals : MeasurementTotals}
    (hwindow : totals.window.getD rangeWindowSeconds = rangeWindowSeconds) :
    measurementLoop exactDecimal rt
      (itemsByPartition bundle "kafka_topic_partition_current_offset")
      (itemsByPartition bundle "kafka_consumergroup_current_offset")
      (itemsByPartition bundle "kafka_consumergroup_lag") totals partitions = .ok (some
        { end_delta := totals.end_delta
            + (partitions.map fun partition => spread (seriesOf ends partition).values).sum
          committed_delta := totals.committed_delta
            + (partitions.map fun partition => spread (seriesOf committed partition).values).sum
          lag_delta := totals.lag_delta
            + (partitions.map fun partition => spread (seriesOf lag partition).values).sum
          latest_lag := totals.latest_lag
            + (partitions.map fun partition => (seriesOf lag partition).values.getLastD 0).sum
          window := if partitions = [] then totals.window else some rangeWindowSeconds
          issues := totals.issues }) := by
  induction partitions generalizing totals with
  | nil => simp [measurementLoop, pure, Except.pure]
  | cons partition partitions ih =>
      obtain ⟨hpartition, hrest⟩ := List.forall_mem_cons.mp hpartitions
      rw [measurementLoop, h.partitionSamples_eq hpartition]
      simp only [h.measurementStep_eq hpartition hwindow, Bind.bind, Except.bind]
      rw [ih hrest rfl]
      simp [add_assoc]

theorem itemsByPartition_ne_nil {metric_name : PyStr} {family : Family}
    (h : CleanFamily rt bundle metric_name family) : itemsByPartition bundle metric_name ≠ [] := by
  intro hnil
  have hkeys := h.itemsByPartition_keys
  rw [hnil] at hkeys
  exact absurd hkeys.length_eq (by decide)

/-- What `_measurement` measures. -/
def sequenceMeasurement (ends committed lag : Family) : SequenceMeasurement :=
  { partition_set := topicPartitions
    total_lag := totalLatest lag
    lag_slope := totalSpread lag / rangeWindowSeconds
    produce_rate := totalSpread ends / rangeWindowSeconds
    committed_rate := totalSpread committed / rangeWindowSeconds
    rate_arithmetic_consistent := true }

theorem measurement_eq (h : CleanBacklog rt bundle ends committed lag) :
    measurement exactDecimal rt bundle = .ok (some (sequenceMeasurement ends committed lag), []) := by
  -- the three families have the same partitions
  have hsame : (sameSet ((itemsByPartition bundle "kafka_consumergroup_current_offset").map (·.1))
        ((itemsByPartition bundle "kafka_topic_partition_current_offset").map (·.1)) &&
      sameSet ((itemsByPartition bundle "kafka_consumergroup_lag").map (·.1))
        ((itemsByPartition bundle "kafka_topic_partition_current_offset").map (·.1))) = true := by
    rw [Bool.and_eq_true, sameSet_iff, sameSet_iff]
    exact ⟨fun p => (h.committed_offsets.itemsByPartition_keys.trans
        h.end_offsets.itemsByPartition_keys.symm).mem_iff,
      fun p => (h.partition_lag.itemsByPartition_keys.trans
        h.end_offsets.itemsByPartition_keys.symm).mem_iff⟩
  have hsorted : sortedByInt rt
      ((itemsByPartition bundle "kafka_topic_partition_current_offset").map (·.1)) =
        .ok topicPartitions :=
    sortedByInt_topicPartitions fun p => h.end_offsets.itemsByPartition_keys.mem_iff
  -- what was produced and not committed is what the lag grew by
  have hdelta : partitionSum (fun p => spread (seriesOf ends p).values)
      - partitionSum (fun p => spread (seriesOf committed p).values) =
        partitionSum fun p => spread (seriesOf lag p).values := h.totalSpread_lag.symm
  have hpartitions : topicPartitions ≠ [] := by decide
  have hpos : ¬rangeWindowSeconds ≤ 0 := by
    rw [rangeWindowSeconds]
    norm_num
  have hloop := @measurementLoop_eq rt bundle ends committed lag h topicPartitions (fun _ => id)
    ⟨0, 0, 0, 0, none, []⟩ rfl
  simp only [measurement, itemsByPartition_ne_nil h.end_offsets,
    itemsByPartition_ne_nil h.committed_offsets, itemsByPartition_ne_nil h.partition_lag, or_self,
    if_false, hsame, Bool.true_eq_false, hsorted, hloop, Bind.bind, Except.bind, measuredTotals,
    hpartitions,
    exactDecimal_eq, pure, Except.pure, zero_add, ne_eq, not_true_eq_false, hpos]
  rw [partitionSum, partitionSum, partitionSum] at hdelta
  simp only [hdelta, decide_true, Bool.true_eq_false, codeIf, if_false]
  rfl

/-! ### The measurement of the summary -/

end CleanBacklog

/-! ### The optional context of the summary

KEDA and the stage latency of the workers are read without the checks that the core families have
passed. What can go wrong there is stated as the readable cases: where the context is one of them
the summary returns, and otherwise it raises. -/

section

variable {rt : OpsRuntime} {bundle : EvidenceBundle}

end

/-! ### Agreement -/

/-- A bundle whose core condition has usable evidence has a clean backlog. -/
theorem evaluateBundle_usable {others : OtherEvaluator} {rt : OpsRuntime}
    {bundle : EvidenceBundle} {evaluation : BundleEvaluation}
    (h : Evaluator.evaluateBundle exactDecimal others rt bundle = .ok evaluation)
    (husable : evaluation.core_backlog_pressure.Usable) :
    ∃ ends committed lag, CleanBacklog rt bundle ends committed lag := by
  simp only [Evaluator.evaluateBundle, OpsAgent.bind_ok] at h
  obtain ⟨-, -, -, -, core, hcore, _, -, h⟩ := h
  obtain rfl := OpsAgent.pure_ok.mp h
  exact evaluateCoreBacklog_usable hcore husable

/-- The lag of partition 0 grows by 600 records a sample to the latest; the others have
none. -/
def sampleLag (latest : Int) (partition : PyStr) (i : Nat) : Int :=
  if partition = natStr 0 then latest - 600 * (12 - i) else 0

/-- The three series of every partition; nothing is committed. -/
def sampleFamilies (seconds latest : Int) : List EvidenceItem :=
  topicPartitions.flatMap fun partition => [
    sampleSeries "kafka_topic_partition_current_offset" "kafka_partition_end_offset_gauge" seconds
      partition fun i => 1000 + sampleLag latest partition i,
    sampleSeries "kafka_consumergroup_current_offset" "kafka_consumer_committed_offset_gauge"
      seconds partition fun _ => 1000,
    sampleSeries "kafka_consumergroup_lag" "kafka_consumer_partition_lag_gauge" seconds
      partition (sampleLag latest partition)]

/-- A bundle in scope with a growing backlog. -/
def backlogBundle (seconds latest : Int) : EvidenceBundle :=
  { sampleBundle seconds with
    evidence := sampleFamilies seconds latest
      ++ [sampleEndpoint "prometheus" ⟨seconds * 1000000, 0⟩] }

/-- The recovery sample's runtime, with the ISO texts of UTC times. -/
def backlogRuntime : OpsRuntime :=
  { recoveryRuntime with isoformat := fun time => (DateTime.ofMicros time.wall.toNat).isoformat }

/-- Conditions that are all absent. -/
def calmConditions : OtherEvaluator := fun _ => .ok ⟨(.absent, []), (.absent, []), (.absent, [])⟩

end EventPipeline.Guarantees
