import EventPipeline.Guarantees.BacklogMeasurement
import EventPipeline.Guarantees.BacklogSequence
import Mathlib.Algebra.Ring.Subring.Basic

/-!
# EventPipeline.Guarantees.BacklogActivation

What an activated sequence says about the raw samples of its bundles.

Every capture of a sequence without problems has usable evidence, so its bundle has a
clean backlog and its measurement is a sum over the raw samples. The sums are integers.
That makes the lag floor exact, and it makes the slope floor a floor for the growth: a
growth of at most 5999 records a minute is well below 100 a second, and rounding to a float
does not pass the numbers in between.
-/

namespace EventPipeline.Guarantees

open EventPipeline.Python EventPipeline.OpsAgent EventPipeline.Sequences
open EventPipeline.OpsAgent.Evaluator (OtherEvaluator BundleEvaluation)
open EventPipeline.OpsAgent.SequenceEvaluator

/-! ### Raw samples

The samples of the bundle, read without any of the checks of the evaluator: the definitions here
state what the activation is about in terms of the bundle alone. -/

/-- The item of a metric for a partition, where there is exactly one. -/
def partitionItem (bundle : EvidenceBundle) (metric_name partition : PyStr) :
    Option EvidenceItem :=
  match (bundle.items metric_name).filter (·.label "partition" = some partition) with
  | [item] => some item
  | _ => none

/-- A field of the raw samples of a partition. -/
def rawSamples (rt : OpsRuntime) (bundle : EvidenceBundle) (metric_name : PyStr) (field : String)
    (partition : PyStr) : Option (List ℚ) :=
  (partitionItem bundle metric_name partition).bind (decimalsOf rt field)

/-- End offset minus committed offset of a partition, at the sample that is picked. -/
def rawPartitionBacklog (rt : OpsRuntime) (bundle : EvidenceBundle) (pick : List ℚ → Option ℚ)
    (partition : PyStr) : Option ℚ := do
  let ends ← rawSamples rt bundle "kafka_topic_partition_current_offset" "value" partition
  let committed ← rawSamples rt bundle "kafka_consumergroup_current_offset" "value" partition
  let end_offset ← pick ends
  let committed_offset ← pick committed
  return end_offset - committed_offset

/-- The backlog of a bundle: what the offsets of the eight partitions differ by. -/
def rawBacklog (rt : OpsRuntime) (bundle : EvidenceBundle) (pick : List ℚ → Option ℚ) :
    Option ℚ :=
  (Evaluator.topicPartitions.mapM (rawPartitionBacklog rt bundle pick)).map List.sum

/-- The samples of a metric span 60 seconds in every partition. -/
def SpansMinute (rt : OpsRuntime) (bundle : EvidenceBundle) (metric_name : PyStr) : Prop :=
  ∀ partition ∈ Evaluator.topicPartitions, ∃ timestamps,
    rawSamples rt bundle metric_name "timestamp" partition = some timestamps ∧
      spread timestamps = 60

theorem mapM_eq_some {α β : Type} {f : α → Option β} {g : α → β} {xs : List α}
    (h : ∀ x ∈ xs, f x = some (g x)) : xs.mapM f = some (xs.map g) := by
  induction xs with
  | nil => rfl
  | cons x xs ih =>
      obtain ⟨hx, hxs⟩ := List.forall_mem_cons.mp h
      rw [List.mapM_cons, hx, ih hxs]
      rfl

theorem head?_eq_headD {values : List ℚ} (h : values ≠ []) :
    values.head? = some (values.headD 0) := by
  cases values with
  | nil => exact absurd rfl h
  | cons value values => rfl

section

variable {rt : OpsRuntime} {bundle : EvidenceBundle}

/-- A clean family has one item for a partition, with its series. -/
theorem CleanFamily.partitionItem_eq {metric_name : PyStr} {family : Family}
    (h : CleanFamily rt bundle metric_name family) {partition : PyStr}
    (hpartition : partition ∈ Evaluator.topicPartitions) :
    ∃ item, partitionItem bundle metric_name partition = some item ∧
      CleanSeries rt item (seriesOf family partition) := by
  obtain ⟨item, hitem, hlabel, hclean, -⟩ := h.lookup_partition hpartition
  have hmem : item ∈ (bundle.items metric_name).filter (·.label "partition" = some partition) :=
    List.mem_filter.mpr ⟨hitem, by simpa using hlabel⟩
  have hcount : ((bundle.items metric_name).filter
      (·.label "partition" = some partition)).length = 1 := by
    have hone : ((bundle.items metric_name).map fun item =>
        (item.label "partition").getD []).count partition = 1 :=
      (h.labels_perm.count_eq partition).trans
        (List.count_eq_one_of_mem (by decide) hpartition)
    rw [List.count, List.countP_map, List.countP_eq_length_filter] at hone
    refine Eq.trans (congrArg List.length (List.filter_congr fun item hitem => ?_)) hone
    obtain ⟨entry, hentry, rfl⟩ := h.exists_entry hitem
    rw [Bool.eq_iff_iff]
    simp [h.label entry hentry]
  obtain ⟨only, honly⟩ := List.length_eq_one_iff.mp hcount
  rw [honly, List.mem_singleton] at hmem
  exact ⟨item, by rw [partitionItem, honly, hmem], hclean⟩

theorem CleanFamily.spansMinute {metric_name : PyStr} {family : Family}
    (h : CleanFamily rt bundle metric_name family) : SpansMinute rt bundle metric_name := by
  intro partition hpartition
  obtain ⟨item, hitem, hclean⟩ := h.partitionItem_eq hpartition
  exact ⟨_, by rw [rawSamples, hitem, Option.bind_some, hclean.decimals_timestamp], hclean.window⟩

namespace CleanBacklog

variable {ends committed lag : Family}

theorem rawPartitionBacklog_eq (h : CleanBacklog rt bundle ends committed lag) {partition : PyStr}
    (hpartition : partition ∈ Evaluator.topicPartitions) (pick : List ℚ → Option ℚ) :
    rawPartitionBacklog rt bundle pick partition =
      (pick (seriesOf ends partition).values).bind fun end_offset =>
        (pick (seriesOf committed partition).values).map fun committed_offset =>
          end_offset - committed_offset := by
  obtain ⟨e, he, hends⟩ := h.end_offsets.partitionItem_eq hpartition
  obtain ⟨c, hc, hcommitted⟩ := h.committed_offsets.partitionItem_eq hpartition
  simp only [rawPartitionBacklog, rawSamples, he, hc, Option.bind_some, hends.decimals_value,
    hcommitted.decimals_value, Option.bind_eq_bind, Option.pure_def, Option.map_eq_bind]
  rfl

theorem rawBacklog_eq (h : CleanBacklog rt bundle ends committed lag)
    {pick : List ℚ → Option ℚ} {value : List ℚ → ℚ}
    (hpick : ∀ values, values ≠ [] → pick values = some (value values))
    (hlag : ∀ partition ∈ Evaluator.topicPartitions, value (seriesOf lag partition).values =
      value (seriesOf ends partition).values - value (seriesOf committed partition).values) :
    rawBacklog rt bundle pick =
      some (partitionSum fun partition => value (seriesOf lag partition).values) := by
  have hall : ∀ partition ∈ Evaluator.topicPartitions,
      rawPartitionBacklog rt bundle pick partition =
        some (value (seriesOf lag partition).values) := by
    intro partition hpartition
    obtain ⟨_, -, hends⟩ := h.end_offsets.partitionItem_eq hpartition
    obtain ⟨_, -, hcommitted⟩ := h.committed_offsets.partitionItem_eq hpartition
    rw [h.rawPartitionBacklog_eq hpartition, hpick _ hends.values_ne_nil,
      hpick _ hcommitted.values_ne_nil, hlag partition hpartition]
    rfl
  have hmap : Evaluator.topicPartitions.mapM (rawPartitionBacklog rt bundle pick) =
      some (Evaluator.topicPartitions.map fun partition =>
        value (seriesOf lag partition).values) := mapM_eq_some hall
  rw [rawBacklog, hmap]
  rfl

/-- The total lag is the backlog at the last sample. -/
theorem rawBacklog_last (h : CleanBacklog rt bundle ends committed lag) :
    rawBacklog rt bundle List.getLast? = some (totalLatest lag) :=
  h.rawBacklog_eq (fun _ => getLast?_eq_getLastD) fun _ hpartition =>
    (h.lag_values_at hpartition).2

theorem rawBacklog_first (h : CleanBacklog rt bundle ends committed lag) :
    rawBacklog rt bundle List.head? = some (totalFirst lag) :=
  h.rawBacklog_eq (fun _ => head?_eq_headD) fun _ hpartition =>
    (h.lag_values_at hpartition).1

/-- Every value of a clean series is an integer, so every sum is. -/
theorem partitionSum_integral {value : PyStr → ℚ} (h : ∀ partition ∈ Evaluator.topicPartitions,
    value partition ∈ (Int.castRingHom ℚ).range) : ∃ n : Int, partitionSum value = n := by
  have hmem : partitionSum value ∈ (Int.castRingHom ℚ).range := by
    refine Subring.list_sum_mem _ fun term hterm => ?_
    obtain ⟨partition, hpartition, rfl⟩ := List.mem_map.mp hterm
    exact h partition hpartition
  obtain ⟨n, hn⟩ := hmem
  exact ⟨n, hn.symm⟩

theorem value_integral (h : CleanBacklog rt bundle ends committed lag) {partition : PyStr}
    (hpartition : partition ∈ Evaluator.topicPartitions) :
    (seriesOf lag partition).values.getLastD 0 ∈ (Int.castRingHom ℚ).range ∧
      (seriesOf lag partition).values.headD 0 ∈ (Int.castRingHom ℚ).range := by
  obtain ⟨_, -, hclean⟩ := h.partition_lag.partitionItem_eq hpartition
  have hmem : ∀ value ∈ (seriesOf lag partition).values, value ∈ (Int.castRingHom ℚ).range :=
    fun value hvalue => ⟨value.num, (Rat.den_eq_one_iff value).mp (hclean.integral value hvalue)⟩
  exact ⟨hmem _ (List.mem_of_getLast? (getLast?_eq_getLastD hclean.values_ne_nil)),
    hmem _ (List.mem_of_head? (head?_eq_headD hclean.values_ne_nil))⟩

theorem totalLatest_integral (h : CleanBacklog rt bundle ends committed lag) :
    ∃ n : Int, totalLatest lag = n :=
  partitionSum_integral fun _ hpartition => (h.value_integral hpartition).1

theorem totalSpread_integral (h : CleanBacklog rt bundle ends committed lag) :
    ∃ n : Int, totalSpread lag = n :=
  partitionSum_integral fun _ hpartition =>
    sub_mem (h.value_integral hpartition).1 (h.value_integral hpartition).2

end CleanBacklog

end

/-! ### Floors -/

theorem truncated_intCast (n : Int) : truncated (n : ℚ) = n := by simp [truncated]

/-- The greatest number the floor has to be told from: 6399/64, between 5999/60 and 100. -/
def belowSlopeFloor : Binary64 :=
  ⟨6399 * 2 ^ 40, -46, by norm_num, by norm_num, by norm_num, Or.inl (by norm_num)⟩

/-- The float 100. -/
def slopeFloor : Binary64 :=
  ⟨6400 * 2 ^ 40, -46, by norm_num, by norm_num, by norm_num, Or.inl (by norm_num)⟩

theorem slopeFloor_eq :
    activationLagSlopeFloorRecordsPerSecond = PyFloat.finite false slopeFloor := by
  have hvalue : slopeFloor.toRat = ((100 : Nat) : ℚ) := by norm_num [Binary64.toRat, slopeFloor]
  rw [activationLagSlopeFloorRecordsPerSecond, PyFloat.ofNat, ← hvalue, PyFloat.ofRat_toRat]

/-- A slope that reaches the floor is a growth of at least 6000 records a minute. -/
theorem growth_of_slope_floor {growth : Int} (h : activationLagSlopeFloorRecordsPerSecond.le
    (PyFloat.ofRat (growth / Evaluator.rangeWindowSeconds)) = true) : 6000 ≤ growth := by
  by_contra hlt
  have hgrowth : (growth : ℚ) ≤ 5999 := by
    have : growth ≤ 5999 := by omega
    exact_mod_cast this
  have hvalue : (growth : ℚ) / Evaluator.rangeWindowSeconds ≤ belowSlopeFloor.toRat := by
    have hbelow : belowSlopeFloor.toRat = 6399 / 64 := by
      norm_num [Binary64.toRat, belowSlopeFloor]
    rw [hbelow, Evaluator.rangeWindowSeconds, div_le_iff₀ (by norm_num)]
    linarith
  have hbound : belowSlopeFloor.toRat < slopeFloor.toRat := by
    norm_num [Binary64.toRat, belowSlopeFloor, slopeFloor]
  rw [slopeFloor_eq, PyFloat.le_ofRat_eq_false hvalue hbound] at h
  exact Bool.false_ne_true h

/-! ### Captures

A capture with usable evidence has the totals and the slope of the raw samples, and the timestamp
of its Kafka source. -/

section

variable {others : OtherEvaluator} {rt : OpsRuntime} {bundle : EvidenceBundle}

/-- `evaluate_bundle` returns and has no issue in the required evidence. -/
def EvidenceUsable (others : OtherEvaluator) (rt : OpsRuntime) (bundle : EvidenceBundle) : Prop :=
  ∃ evaluation, Evaluator.evaluateBundle exactDecimal others rt bundle = .ok evaluation ∧
    evaluation.core_backlog_pressure.Usable

/-- A reading with usable evidence is the measurement of a clean backlog. -/
theorem readScoped_usable {reading : ScopedReading}
    (h : readScoped exactDecimal others rt bundle = .ok reading)
    (husable : reading.coreUsable = true) :
    EvidenceUsable others rt bundle ∧ ∃ ends committed lag,
      CleanBacklog rt bundle ends committed lag ∧
        reading.measurement = some (CleanBacklog.sequenceMeasurement ends committed lag) := by
  unfold readScoped at h
  split_ifs at h with hscope
  · simp only [OpsAgent.bind_ok] at h
    obtain ⟨evaluation, hevaluation, h⟩ := h
    split_ifs at h with hcore
    · obtain ⟨ends, committed, lag, hclean⟩ := evaluateBundle_usable hevaluation hcore
      simp only [hclean.measurement_eq, OpsAgent.bind_ok, Except.ok.injEq, exists_eq_left'] at h
      obtain rfl := OpsAgent.pure_ok.mp h
      exact ⟨⟨evaluation, hevaluation, hcore⟩, ends, committed, lag, hclean, rfl⟩
    · obtain rfl := OpsAgent.pure_ok.mp h
      exact absurd (by simpa [ScopedReading.coreUsable] using husable) hcore
  · obtain rfl := OpsAgent.pure_ok.mp h
    simp [ScopedReading.coreUsable] at husable

/-- The parts of a capture: its times are those of the bundle, and its observation is made of the
identity and of the reading of the bundle. -/
theorem capture_ok {sequence_index : Nat} {c : Capture}
    (h : capture exactDecimal others rt bundle sequence_index = .ok c) :
    c.source_reference.collection_started_at = bundle.collection.started_at ∧
      c.source_reference.collection_completed_at = bundle.collection.completed_at ∧
      ∃ identity reading summary, SequenceEvaluator.sourceIdentity rt bundle = .ok identity ∧
        readScoped exactDecimal others rt bundle = .ok reading ∧
        c.observation =
          SequenceEvaluator.captureObservation rt bundle sequence_index identity reading summary := by
  simp only [capture, OpsAgent.bind_ok] at h
  obtain ⟨identity, hidentity, reading, hreading, summary, -, -, -, -, -, h⟩ := h
  obtain rfl := OpsAgent.pure_ok.mp h
  exact ⟨rfl, rfl, identity, reading, summary, hidentity, hreading, rfl⟩

/-- `kafka_source_timestamp` of a bundle. -/
def kafkaSourceTimestamp (bundle : EvidenceBundle) : Option Aware :=
  onlyTime ((kafkaItems bundle).filterMap (·.source_timestamp))

theorem sourceIdentity_timestamp {identity : SequenceEvaluator.SourceIdentity}
    (h : SequenceEvaluator.sourceIdentity rt bundle = .ok identity) :
    identity.kafka_source_timestamp = kafkaSourceTimestamp bundle := by
  simp only [SequenceEvaluator.sourceIdentity, OpsAgent.bind_ok] at h
  obtain ⟨partition_set, -, h⟩ := h
  split at h
  all_goals
    obtain rfl := OpsAgent.pure_ok.mp h
    rfl

theorem capture_timestamp {sequence_index : Nat} {c : Capture}
    (h : capture exactDecimal others rt bundle sequence_index = .ok c) :
    c.observation.kafka_source_timestamp = kafkaSourceTimestamp bundle := by
  obtain ⟨-, -, identity, reading, summary, hidentity, -, hobservation⟩ := capture_ok h
  rw [hobservation, ← sourceIdentity_timestamp hidentity]
  rfl

/-- What an observation with usable evidence says about the raw samples. -/
theorem capture_usable {sequence_index : Nat} {c : Capture}
    (h : capture exactDecimal others rt bundle sequence_index = .ok c)
    (husable : c.observation.required_evidence_usable = true) :
    EvidenceUsable others rt bundle ∧ ∃ ends committed lag,
      CleanBacklog rt bundle ends committed lag ∧
        c.observation.total_lag_records = some (truncated (totalLatest lag)) ∧
        c.observation.meets_lag_floor =
          some (decide (activationTotalLagFloorRecords ≤ truncated (totalLatest lag))) ∧
        c.observation.meets_slope_floor = some (activationLagSlopeFloorRecordsPerSecond.le
          (PyFloat.ofRat (totalSpread lag / Evaluator.rangeWindowSeconds))) := by
  obtain ⟨-, -, identity, reading, summary, -, hreading, hobservation⟩ := capture_ok h
  rw [hobservation] at husable ⊢
  simp only [SequenceEvaluator.captureObservation, Bool.and_eq_true] at husable
  obtain ⟨hevidence, ends, committed, lag, hclean, hmeasurement⟩ :=
    readScoped_usable hreading husable.1.1.1.1
  refine ⟨hevidence, ends, committed, lag, hclean, ?_⟩
  simp only [SequenceEvaluator.captureObservation, hmeasurement, Option.map_some,
    CleanBacklog.sequenceMeasurement,
    and_self]

end

/-- A bundle whose backlog, summed over the raw samples, is large and grew over a minute. -/
structure RawActivation (rt : OpsRuntime) (bundle : EvidenceBundle) (backlog : ℚ) : Prop where
  ends_minute : SpansMinute rt bundle "kafka_topic_partition_current_offset"
  committed_minute : SpansMinute rt bundle "kafka_consumergroup_current_offset"
  last : rawBacklog rt bundle List.getLast? = some backlog
  floor : 7000 ≤ backlog
  growth : ∃ first, rawBacklog rt bundle List.head? = some first ∧ 6000 ≤ backlog - first

/-- The floors of an observation are floors for the raw samples. -/
theorem capture_activated {others : OtherEvaluator} {rt : OpsRuntime} {bundle : EvidenceBundle}
    {sequence_index : Nat} {c : Capture}
    (h : capture exactDecimal others rt bundle sequence_index = .ok c)
    (husable : c.observation.required_evidence_usable = true)
    (hlag_floor : c.observation.meets_lag_floor = some true)
    (hslope_floor : c.observation.meets_slope_floor = some true) :
    ∃ backlog : Int, c.observation.total_lag_records = some backlog ∧
      RawActivation rt bundle backlog := by
  obtain ⟨-, ends, committed, lag, hclean, htotal, hlag, hslope⟩ := capture_usable h husable
  obtain ⟨backlog, hbacklog⟩ := hclean.totalLatest_integral
  obtain ⟨growth, hgrowth⟩ := hclean.totalSpread_integral
  rw [hbacklog, truncated_intCast] at htotal hlag
  rw [hgrowth] at hslope
  have hfloor : activationTotalLagFloorRecords ≤ backlog := by
    rw [hlag_floor] at hlag
    simpa using hlag.symm
  have hgrew : 6000 ≤ growth := by
    apply growth_of_slope_floor
    rw [hslope_floor] at hslope
    exact (Option.some.inj hslope).symm
  refine ⟨backlog, htotal, hclean.end_offsets.spansMinute, hclean.committed_offsets.spansMinute,
    ?_, by exact_mod_cast hfloor, totalFirst lag, hclean.rawBacklog_first, ?_⟩
  · rw [hclean.rawBacklog_last, hbacklog]
  · rw [← hbacklog, ← totalSpread_eq, hgrowth]
    exact_mod_cast hgrew

/-! ### Sequences

A sequence that reports no problem has captures in order, at increasing times, and with one
identity; the windows of the sequence are then windows of the bundles. -/

section

variable {others : OtherEvaluator} {rt : OpsRuntime}

theorem capturesFrom_forall₂ {bundles : List EvidenceBundle} {k : Nat} {captures : List Capture}
    (h : capturesFrom exactDecimal others rt k bundles = .ok captures) :
    List.Forall₂ (fun bundle c => ∃ i, capture exactDecimal others rt bundle i = .ok c)
      bundles captures := by
  induction bundles generalizing k captures with
  | nil =>
      obtain rfl := Except.ok.inj h
      exact List.Forall₂.nil
  | cons bundle bundles ih =>
      simp only [capturesFrom, OpsAgent.bind_ok, OpsAgent.pure_ok] at h
      obtain ⟨c, hc, rest, hrest, rfl⟩ := h
      exact List.Forall₂.cons ⟨k, hc⟩ (ih hrest)

theorem map_eq_of_forall₂ {α β γ : Type} {R : α → β → Prop} {f : α → γ} {g : β → γ}
    {xs : List α} {ys : List β} (h : List.Forall₂ R xs ys) (hR : ∀ x y, R x y → f x = g y) :
    xs.map f = ys.map g := by
  induction h with
  | nil => rfl
  | cons hxy _ ih => rw [List.map_cons, List.map_cons, hR _ _ hxy, ih]

/-- What a sequence without problems is: every capture is usable and has a Kafka time and a source
identity, the times never go back, and there is one identity and one set of partitions in all of
them. -/
structure OrderlyCaptures (captures : List Capture) : Prop where
  usable : ∀ c ∈ captures, c.observation.required_evidence_usable = true
  ordered : ∀ step ∈ adjacent captures, ¬outOfOrder step
  timed : none ∉ captures.map (·.observation.kafka_source_timestamp)
  kafka_ordered : ∀ step ∈ adjacent (captures.map (·.observation.kafka_source_timestamp)),
    timesOutOfOrder step = false
  identified : none ∉ captures.map (·.observation.source_identity_sha256)
  one_identity : distinct (captures.map (·.observation.source_identity_sha256)) = 1
  one_partition_set : distinct (captures.map (·.observation.partition_set)) = 1

theorem orderlyCaptures_of_no_problem {captures : List Capture}
    (h : sequenceProblems captures = []) : OrderlyCaptures captures := by
  simp only [sequenceProblems, List.append_eq_nil_iff, Evaluator.codeIf_eq_nil, List.map_map, not_or,
    not_not, Bool.not_eq_true, List.any_eq_false, List.any_map] at h
  obtain ⟨⟨⟨⟨⟨⟨-, husable⟩, hordered⟩, hkafka⟩, hidentity⟩, hpartitions⟩, -⟩ := h
  refine ⟨fun c hc => ?_, fun step hstep hout => hordered ⟨step, hstep, hout⟩, hkafka.1,
    fun step hstep => ?_, hidentity.1, hidentity.2, hpartitions⟩
  · simpa using husable c hc
  · simpa using hkafka.2 step hstep

/-- Both times are there and the second follows the first. -/
def TimesIncrease (previous current : Option Aware) : Prop :=
  ∃ s t, previous = some s ∧ current = some t ∧ s.instant < t.instant

instance : IsTrans (Option Aware) TimesIncrease where
  trans := by
    rintro _ _ _ ⟨s, t, rfl, rfl, hst⟩ ⟨t', u, ht', rfl, htu⟩
    obtain rfl := Option.some.inj ht'
    exact ⟨s, u, rfl, rfl, hst.trans htu⟩

namespace OrderlyCaptures

variable {captures : List Capture}

/-- Each capture begins and ends after all before it. -/
theorem pairwise (h : OrderlyCaptures captures) :
    (captures.map fun c => (c.source_reference.collection_started_at.instant,
      c.source_reference.collection_completed_at.instant)).Pairwise
        fun a b => a.1 < b.1 ∧ a.2 < b.2 := by
  have : IsTrans (Int × Int) fun a b => a.1 < b.1 ∧ a.2 < b.2 :=
    ⟨fun _ _ _ hab hbc => ⟨hab.1.trans hbc.1, hab.2.trans hbc.2⟩⟩
  rw [← List.isChain_iff_pairwise, ← forall_adjacent, adjacent_map, List.forall_mem_map]
  intro step hstep
  have hordered := h.ordered step hstep
  simp only [outOfOrder, not_or, not_le] at hordered
  exact hordered

theorem kafka_pairwise (h : OrderlyCaptures captures) :
    (captures.map (·.observation.kafka_source_timestamp)).Pairwise TimesIncrease := by
  rw [← List.isChain_iff_pairwise, ← forall_adjacent]
  rintro ⟨previous, current⟩ hstep
  have hprevious := h.timed
  have hmem := List.of_mem_zip hstep
  have hordered := h.kafka_ordered _ hstep
  cases previous with
  | none => exact absurd hmem.1 h.timed
  | some s =>
      cases current with
      | none => exact absurd (List.mem_of_mem_tail hmem.2) h.timed
      | some t => exact ⟨s, t, rfl, rfl, by simpa [timesOutOfOrder] using hordered⟩

theorem identity (h : OrderlyCaptures captures) :
    ∃ identity, ∀ c ∈ captures, c.observation.source_identity_sha256 = some identity := by
  obtain ⟨hne, hall⟩ := distinct_eq_one.mp h.one_identity
  obtain ⟨found, hfound⟩ := List.exists_mem_of_ne_nil _ hne
  cases found with
  | none => exact absurd hfound h.identified
  | some identity =>
      exact ⟨identity, fun c hc => hall _ (List.mem_map_of_mem hc) _ hfound⟩

theorem partition_set (h : OrderlyCaptures captures) :
    ∃ partition_set, ∀ c ∈ captures, c.observation.partition_set = partition_set := by
  obtain ⟨hne, hall⟩ := distinct_eq_one.mp h.one_partition_set
  obtain ⟨partition_set, hfound⟩ := List.exists_mem_of_ne_nil _ hne
  exact ⟨partition_set, fun c hc => hall _ (List.mem_map_of_mem hc) _ hfound⟩

end OrderlyCaptures

/-- Three observations that match, with lags, have growing lags. -/
theorem windowMatches_three {a b c : CaptureObservation}
    (h : windowMatches [a, b, c] = true) :
    (∀ observation ∈ [a, b, c], observation.meets_lag_floor = some true ∧
      observation.meets_slope_floor = some true) ∧
    ∀ x y z, a.total_lag_records = some x → b.total_lag_records = some y →
      c.total_lag_records = some z → x < y ∧ y < z := by
  simp only [windowMatches, Bool.and_eq_true, List.all_eq_true, decide_eq_true_eq,
    adjacent_cons_cons, adjacent_singleton, List.forall_mem_cons, Bool.not_eq_true'] at h
  refine ⟨by simpa using h.1, fun x y z hx hy hz => ?_⟩
  obtain ⟨-, hab, hbc, -⟩ := h
  simpa [lagNotIncreasing, hx, hy, hz] using And.intro hab hbc

/-- An activated sequence is an orderly one of usable captures, three of which in a row
have a backlog of at least 7000 records that grew by at least 6000 in their minute, and
from capture to capture.

A sequence that is present has no problem and a window that matched
(`coreSequenceResult_present`). No problem means orderly captures (`OrderlyCaptures`), one for
each bundle, and that carries the first seven parts over to the bundles. For the last, the window
names three captures whose measurements pass the floors, and `capture_activated` takes each of
them to the raw samples. -/
theorem activated_sequence_sound (others : OtherEvaluator) (rt : OpsRuntime)
    (bundles : List EvidenceBundle) {result : SequenceEvaluation}
    (h : evaluateBundleSequence exactDecimal others rt bundles = .ok result)
    (hpresent : result.core_backlog_pressure.state = .present) :
    (∀ bundle ∈ bundles, EvidenceUsable others rt bundle) ∧
      result.capture_observations.length = bundles.length ∧
      (∀ observation ∈ result.capture_observations,
        observation.required_evidence_usable = true) ∧
      bundles.Pairwise (fun a b =>
        a.collection.started_at.instant < b.collection.started_at.instant ∧
          a.collection.completed_at.instant < b.collection.completed_at.instant) ∧
      bundles.Pairwise (fun a b =>
        TimesIncrease (kafkaSourceTimestamp a) (kafkaSourceTimestamp b)) ∧
      (∃ identity, ∀ observation ∈ result.capture_observations,
        observation.source_identity_sha256 = some identity) ∧
      (∃ partition_set, ∀ observation ∈ result.capture_observations,
        observation.partition_set = partition_set) ∧
      ∃ start a b c, ∃ x y z : ℚ, bundles[start]? = some a ∧ bundles[start + 1]? = some b ∧
        bundles[start + 2]? = some c ∧ RawActivation rt a x ∧ RawActivation rt b y ∧
        RawActivation rt c z ∧ x < y ∧ y < z := by
  obtain ⟨captures, latest, -, hcaptures, -, rfl⟩ := evaluateBundleSequence_ok h
  obtain ⟨hproblems, hmatched⟩ := coreSequenceResult_present.mp hpresent
  have horderly := orderlyCaptures_of_no_problem hproblems
  have hbundles := capturesFrom_forall₂ hcaptures
  have hobservations : ∀ observation ∈ captures.map (·.observation),
      ∃ c ∈ captures, c.observation = observation := fun _ => List.mem_map.mp
  refine ⟨?_, ?_, ?_, ?_, ?_, ?_, ?_, ?_⟩
  · -- usable evidence
    intro bundle hbundle
    obtain ⟨i, hi⟩ := List.mem_iff_getElem?.mp hbundle
    obtain ⟨c, hc, _, hcapture⟩ := forall₂_getElem? hbundles.flip hi
    exact (capture_usable hcapture (horderly.usable c (List.mem_of_getElem? hc))).1
  · rw [sequenceEvaluation, List.length_map]
    exact hbundles.length_eq.symm
  · intro observation hobservation
    obtain ⟨c, hc, rfl⟩ := hobservations observation hobservation
    exact horderly.usable c hc
  · -- collection times
    have htimes := horderly.pairwise
    rw [← map_eq_of_forall₂ (f := fun bundle : EvidenceBundle =>
      (bundle.collection.started_at.instant, bundle.collection.completed_at.instant)) hbundles
      fun bundle c hcaptured => by
        obtain ⟨i, hcapture⟩ := hcaptured
        obtain ⟨hstarted, hcompleted, -⟩ := capture_ok hcapture
        rw [hstarted, hcompleted], List.pairwise_map] at htimes
    exact htimes
  · -- Kafka times
    have htimes := horderly.kafka_pairwise
    rw [← map_eq_of_forall₂ hbundles fun bundle c hcaptured => by
      obtain ⟨i, hcapture⟩ := hcaptured
      exact (capture_timestamp hcapture).symm, List.pairwise_map] at htimes
    exact htimes
  · obtain ⟨identity, hidentity⟩ := horderly.identity
    refine ⟨identity, fun observation hobservation => ?_⟩
    obtain ⟨c, hc, rfl⟩ := hobservations observation hobservation
    exact hidentity c hc
  · obtain ⟨partition_set, hpartitions⟩ := horderly.partition_set
    refine ⟨partition_set, fun observation hobservation => ?_⟩
    obtain ⟨c, hc, rfl⟩ := hobservations observation hobservation
    exact hpartitions c hc
  · -- a window that matched
    obtain ⟨window, hwindow⟩ := List.exists_mem_of_ne_nil _ hmatched
    obtain ⟨start, hstart, -⟩ := List.mem_map.mp hwindow
    obtain ⟨hlength, hmatches⟩ := mem_matchingStarts.mp hstart
    obtain ⟨a, b, c, hthree, ha, hb, hc⟩ := windowAt_three hlength
    rw [activationConsecutiveCaptureCount, hthree] at hmatches
    obtain ⟨hfloors, hgrows⟩ := windowMatches_three hmatches
    -- an observation of the window is that of the bundle at its place
    have hraw : ∀ (i : Nat) observation, (captures.map (·.observation))[i]? = some observation →
        observation ∈ [a, b, c] → ∃ bundle, bundles[i]? = some bundle ∧ ∃ backlog : Int,
          observation.total_lag_records = some backlog ∧ RawActivation rt bundle backlog := by
      intro i observation hi hmem
      obtain ⟨captured, hcaptured, rfl⟩ : ∃ captured, captures[i]? = some captured ∧
          captured.observation = observation := by simpa using hi
      obtain ⟨bundle, hbundle, _, hcapture⟩ := forall₂_getElem? hbundles hcaptured
      obtain ⟨hlag, hslope⟩ := hfloors _ hmem
      exact ⟨bundle, hbundle, capture_activated hcapture
        (horderly.usable captured (List.mem_of_getElem? hcaptured)) hlag hslope⟩
    obtain ⟨first, hfirst, x, hx, hrawx⟩ := hraw start a ha (by simp)
    obtain ⟨second, hsecond, y, hy, hrawy⟩ := hraw (start + 1) b hb (by simp)
    obtain ⟨third, hthird, z, hz, hrawz⟩ := hraw (start + 2) c hc (by simp)
    obtain ⟨hxy, hyz⟩ := hgrows x y z hx hy hz
    exact ⟨start, first, second, third, x, y, z, hfirst, hsecond, hthird, hrawx, hrawy, hrawz,
      by exact_mod_cast hxy, by exact_mod_cast hyz⟩

end

/-- The sample sequence activates, and every part holds of it. -/
theorem activated_sequence_sound_sample :
    ∃ start a b c, ∃ x y z : ℚ, growingBacklogs[start]? = some a ∧
      growingBacklogs[start + 1]? = some b ∧ growingBacklogs[start + 2]? = some c ∧
      RawActivation backlogRuntime a x ∧ RawActivation backlogRuntime b y ∧
      RawActivation backlogRuntime c z ∧ x < y ∧ y < z := by
  obtain ⟨result, hresult, hpresent⟩ := exists_activation activates_growingBacklogs
  obtain ⟨-, -, -, -, -, -, -, hwindow⟩ :=
    activated_sequence_sound calmConditions backlogRuntime growingBacklogs hresult hpresent
  exact hwindow

end EventPipeline.Guarantees
