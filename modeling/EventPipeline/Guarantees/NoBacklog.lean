import EventPipeline.Guarantees.ConditionEvidence
import Mathlib.Data.List.GetD

/-!
# EventPipeline.Guarantees.NoBacklog

The absence of a backlog, with exact decimals.

The verdict only looks at the total of the lag in every sample. The values of a clean family
are not negative, so a total of zero is a lag of zero in each partition, and the check across
the families turns that into equal offsets. The concentration condition reads the same lag
family once more and finds the same totals.
-/

namespace EventPipeline.Guarantees

open EventPipeline.Python EventPipeline.OpsAgent EventPipeline.OpsAgent.Evaluator
open EventPipeline.Sequences

/-! ### Totals

Rows of values that are not negative, whose sums are all zero, are rows of zeros. -/

theorem sumDecimals_exact (total : ℚ) (values : List ℚ) :
    sumDecimals exactDecimal total values = .ok (total + values.sum) := by
  induction values generalizing total with
  | nil => simp [sumDecimals]
  | cons value values ih =>
      rw [sumDecimals, exactDecimal_eq]
      simp only [Bind.bind, Except.bind]
      rw [ih, List.sum_cons, add_assoc]

theorem totalLagSeries_exact (rows : List (List ℚ)) (indices : List Nat) :
    totalLagSeries exactDecimal rows indices =
      .ok (indices.map fun i => (rows.map fun row => row.getD i 0).sum) := by
  induction indices with
  | nil => rfl
  | cons i indices ih =>
      rw [totalLagSeries, sumDecimals_exact, ih, zero_add]
      rfl

/-- Rows that are not negative and whose totals are zero are zero. -/
theorem eq_replicate_of_totals {rows : List (List ℚ)} {n : Nat}
    (hlength : ∀ row ∈ rows, row.length = n) (hnonneg : ∀ row ∈ rows, ∀ value ∈ row, 0 ≤ value)
    (htotals : ∀ i < n, (rows.map fun row => row.getD i 0).sum = 0) :
    ∀ row ∈ rows, row = List.replicate n 0 := by
  intro row hrow
  refine List.eq_replicate_iff.mpr ⟨hlength row hrow, fun value hvalue => ?_⟩
  obtain ⟨i, hi, rfl⟩ := List.mem_iff_getElem.mp hvalue
  have hentry : ∀ x ∈ rows.map (fun row => row.getD i 0), 0 ≤ x := by
    intro x hx
    obtain ⟨other, hother, rfl⟩ := List.mem_map.mp hx
    have hlt : i < other.length := by
      rw [hlength other hother, ← hlength row hrow]
      exact hi
    rw [List.getD_eq_getElem _ _ hlt]
    exact hnonneg other hother _ (List.getElem_mem hlt)
  have hzero := List.all_zero_of_le_zero_le_of_sum_eq_zero hentry
    (htotals i (hlength row hrow ▸ hi)) (List.mem_map_of_mem hrow)
  rwa [List.getD_eq_getElem _ _ hi] at hzero

theorem eq_of_zipWith_sub_eq_zero {xs ys : List ℚ} {n : Nat} (hxs : xs.length = n)
    (hys : ys.length = n) (h : List.zipWith (· - ·) xs ys = List.replicate n 0) : xs = ys := by
  induction n generalizing xs ys with
  | zero => rw [List.length_eq_zero_iff.mp hxs, List.length_eq_zero_iff.mp hys]
  | succ n ih =>
      cases xs with
      | nil => simp at hxs
      | cons x xs =>
          cases ys with
          | nil => simp at hys
          | cons y ys =>
              rw [List.zipWith_cons_cons, List.replicate_succ, List.cons.injEq] at h
              rw [sub_eq_zero.mp h.1, ih (by simpa using hxs) (by simpa using hys) h.2]

theorem foldl_max_zero {totals : List ℚ} (h : ∀ total ∈ totals, total = 0) :
    totals.foldl max (totals.headD 0) = 0 := by
  have hfold : ∀ start : ℚ, start = 0 → totals.foldl max start = 0 := by
    induction totals with
    | nil => exact fun start hstart => hstart
    | cons total totals ih =>
        intro start hstart
        rw [List.foldl_cons, hstart, h total List.mem_cons_self, max_self]
        exact ih (fun other hother => h other (List.mem_cons_of_mem _ hother)) 0 rfl
  apply hfold
  cases totals with
  | nil => rfl
  | cons total totals => exact h total List.mem_cons_self

/-! ### The two conditions -/

/-- The core condition is absent where every total is zero. -/
theorem usableBacklog_absent {dec : DecimalArithmetic} {rt : OpsRuntime} {lag : Family}
    {required optional : List ObservedDependency} {facts : BacklogFacts} {result : ConditionResult}
    (h : usableBacklog dec rt lag required optional facts = .ok result)
    (habsent : result.state = .absent) :
    ∃ totals, totalLagSeries dec (lag.map (·.2.2.values)) (List.range expectedSampleCount) =
      .ok totals ∧ ∀ total ∈ totals, total = 0 := by
  simp only [usableBacklog, OpsAgent.bind_ok] at h
  obtain ⟨totals, htotals, h⟩ := h
  refine ⟨totals, htotals, ?_⟩
  split_ifs at h with hzero
  · simpa using hzero
  · rw [← OpsAgent.pure_ok.mp h] at habsent
    simp [conditionResult] at habsent

/-- Over the same lag family the concentration condition is absent too. -/
theorem concentration_absent {dec : DecimalArithmetic} {rt : OpsRuntime} {bundle : EvidenceBundle}
    {lag : Family} {observation : ObservedDependency} {totals : List ℚ} {report : ConditionReport}
    (hlag : partitionValues dec rt bundle (observeDependency partitionLag bundle) true false false =
      .ok (lag, observation)) (hissues : observation.issues = [])
    (htotals : totalLagSeries dec (lag.map (·.2.2.values)) (List.range expectedSampleCount) =
      .ok totals) (hzero : ∀ total ∈ totals, total = 0)
    (h : evaluatePartitionConcentration dec rt bundle = .ok report) : report.state = .absent := by
  have hfree : blocked [observation] = false := blocked_eq_false.mpr (by simpa using hissues)
  simp only [evaluatePartitionConcentration, hlag, OpsAgent.bind_ok, Except.ok.injEq,
    exists_eq_left', hfree, Bool.false_eq_true, if_false, usableConcentration, htotals,
    foldl_max_zero hzero, if_true] at h
  rw [← OpsAgent.pure_ok.mp h]
  rfl

/-! ### The verdict -/

/-- The eight partitions have no lag in any of the thirteen samples: the end offsets and the
committed offsets are the same. -/
structure Drained (rt : OpsRuntime) (bundle : EvidenceBundle) : Prop where
  partitions : ∀ metric_name ∈ [endOffset, committedOffset, partitionLag].flatMap (·.metric_names),
    ((bundle.items metric_name).map fun item => (item.label "partition").getD []).Perm
      topicPartitions
  lag : ∀ item ∈ bundle.items "kafka_consumergroup_lag",
    SequenceEvaluator.decimalsOf rt "value" item = some (List.replicate expectedSampleCount 0)
  offsets : ∀ partition ∈ topicPartitions,
    ∃ end_item ∈ bundle.items "kafka_topic_partition_current_offset",
    ∃ committed_item ∈ bundle.items "kafka_consumergroup_current_offset", ∃ values : List ℚ,
      end_item.label "partition" = some partition ∧
      committed_item.label "partition" = some partition ∧
      values.length = expectedSampleCount ∧
      SequenceEvaluator.decimalsOf rt "value" end_item = some values ∧
      SequenceEvaluator.decimalsOf rt "value" committed_item = some values

theorem CleanBacklog.drained {rt : OpsRuntime} {bundle : EvidenceBundle}
    {ends committed lag : Family} (h : CleanBacklog rt bundle ends committed lag)
    (hzero : ∀ entry ∈ lag, entry.2.2.values = List.replicate expectedSampleCount 0) :
    Drained rt bundle := by
  refine ⟨?_, fun item hitem => ?_, fun partition hpartition => ?_⟩
  · simp only [endOffset, committedOffset, partitionLag, kafkaFamily, List.flatMap_cons,
      List.flatMap_nil, List.append_nil, List.singleton_append, List.forall_mem_cons]
    exact ⟨h.end_offsets.labels_perm, h.committed_offsets.labels_perm,
      h.partition_lag.labels_perm, by simp⟩
  · obtain ⟨entry, hentry, rfl⟩ := h.partition_lag.exists_entry hitem
    rw [(h.partition_lag.clean entry hentry).decimals_value, hzero entry hentry]
  · obtain ⟨e, he, hlabel_e, hclean_e, hlookup_e, -, -⟩ :=
      h.end_offsets.lookup_partition hpartition
    obtain ⟨c, hc, hlabel_c, hclean_c, hlookup_c, -, -⟩ :=
      h.committed_offsets.lookup_partition hpartition
    obtain ⟨l, -, -, -, hlookup_l, -, -⟩ := h.partition_lag.lookup_partition hpartition
    have hconsistent := h.consistent partition _ _ _ hlookup_e hlookup_c hlookup_l
    have hdifference := hconsistent.difference
    rw [hzero _ (mem_of_lookup hlookup_l)] at hdifference
    have hsame := eq_of_zipWith_sub_eq_zero hclean_e.values_length hclean_c.values_length
      hdifference.symm
    exact ⟨e, he, c, hc, _, hlabel_e, hlabel_c, hclean_e.values_length, hclean_e.decimals_value,
      hsame ▸ hclean_c.decimals_value⟩

theorem noBacklogState_present {states : List ConditionState} :
    (noBacklogState states).1 = .present ↔ ∀ state ∈ states, state = .absent := by
  unfold noBacklogState
  split_ifs with hall hpresent
  · simpa using hall
  · simpa using hall
  · simpa using hall

/-- The absence of the core condition is exact, and it is what the assessment says.

An absent core condition has usable evidence, so its three families are clean, and the totals of
the lag are zero at every sample. Lags are not negative, so each of them is zero
(`eq_replicate_of_totals`), and with it every committed offset is the end offset. The
concentration reads the same lag family and finds nothing to concentrate (`concentration_absent`).
-/
theorem no_backlog_exact (rt : OpsRuntime) (bundle : EvidenceBundle)
    (evaluation : ConditionEvaluation)
    (h : evaluateConditions exactDecimal rt bundle = .ok evaluation) :
    (evaluation.conditions.core_backlog_pressure.state = .absent →
      Drained rt bundle ∧
        evaluation.conditions.partition_lag_concentration_observed.state = .absent ∧
        evaluation.no_backlog_pressure_detected.state = .present) ∧
    (evaluation.no_backlog_pressure_detected.state = .present →
      evaluation.conditions.core_backlog_pressure.state = .absent) := by
  simp only [evaluateConditions, OpsAgent.bind_ok, ensure_eq_ok, exists_const] at h
  obtain ⟨-, -, core, hcore, concentration, hconcentration, h⟩ := h
  obtain rfl := OpsAgent.pure_ok.mp h
  -- the assessment is present exactly where both conditions are absent
  have hassessment : (noBacklogState [core.state, concentration.state]).1 = .present ↔
      core.state = .absent ∧ concentration.state = .absent := by
    rw [noBacklogState_present]
    simp
  refine ⟨fun habsent => ?_, fun hpresent => (hassessment.mp hpresent).1⟩
  have habsent : core.state = .absent := habsent
  have husable : core.Usable := (evaluateCoreBacklog_state hcore).2 (by simp [habsent])
  obtain ⟨ends, committed, lag, _, _, _, hfamilies, -, hverdict⟩ :=
    evaluateCoreBacklog_families hcore husable
  obtain ⟨totals, htotals, hzero⟩ := usableBacklog_absent hverdict habsent
  obtain ⟨observation, hlag, hissues⟩ := hfamilies.partition_lag
  -- the concentration reads the family that the core condition found clean
  have hconcentration_absent :=
    concentration_absent hlag hissues htotals hzero hconcentration
  refine ⟨?_, hconcentration_absent, hassessment.mpr ⟨habsent, hconcentration_absent⟩⟩
  have hclean := hfamilies.clean
  refine hclean.drained fun entry hentry => ?_
  rw [totalLagSeries_exact, Except.ok.injEq] at htotals
  -- rows of equal length, not negative, whose sums are zero: every lag is zero
  refine eq_replicate_of_totals ?_ ?_ (fun i hi => ?_) _
    (List.mem_map_of_mem (f := fun entry => entry.2.2.values) hentry)
  · rintro _ hrow
    obtain ⟨other, hother, rfl⟩ := List.mem_map.mp hrow
    exact (hclean.partition_lag.clean other hother).values_length
  · rintro _ hrow
    obtain ⟨other, hother, rfl⟩ := List.mem_map.mp hrow
    exact (hclean.partition_lag.clean other hother).nonneg
  · exact hzero _ (htotals ▸ List.mem_map.mpr ⟨i, List.mem_range.mpr hi, rfl⟩)

/-- A calm bundle is drained. -/
theorem no_backlog_exact_calm : Drained backlogRuntime (calmBundle (.int 40)) := by
  obtain ⟨evaluation, h, habsent⟩ := findsNoBacklog_iff.mp
    (by decide +kernel : findsNoBacklog exactDecimal (calmBundle (.int 40)) = true)
  exact ((no_backlog_exact backlogRuntime _ evaluation h).1 habsent).1

end EventPipeline.Guarantees
