import EventPipeline.Guarantees.BacklogMeasurement
import EventPipeline.OpsAgent.ConditionEvaluators

/-!
# EventPipeline.Guarantees.ConditionEvidence

A verdict about a condition needs sound evidence.

Every observation keeps the issues it started with, and a condition is decided only where
no required observation has one in the end. So a state other than UNKNOWN says that every
check of every required item passed. For the Kafka families the time stamps step by five
seconds as the decimal context subtracts them: it rounds to 28 digits, which a time stamp
with more digits can use to stay off the grid.
-/

namespace EventPipeline.Guarantees

open EventPipeline.Python EventPipeline.OpsAgent EventPipeline.OpsAgent.Evaluator
open EventPipeline.Sequences

/-! ### Required dependencies

Each condition names the metrics it depends on. A dependency without an issue has items in the
bundle, and each of them is as the dependency asks: its status, its freshness and its selectors,
which is what `Attested` records. -/

/-- An item with the status, the freshness and the selectors that a dependency asks for. -/
structure Attested (spec : DependencySpec) (item : EvidenceItem) : Prop where
  ok : item.status = .ok
  fresh : item.freshness.status = .fresh
  basis : ∀ basis ∈ spec.freshness_basis, item.freshness.basis = basis
  bound : ∀ bound ∈ spec.freshness_max_age_seconds, item.freshness.max_age_seconds = some bound
  source : ∀ source ∈ spec.source, item.source = source
  tool : ∀ tool_id ∈ spec.tool_id, item.tool_id = tool_id
  semantic : ∀ semantic_type ∈ spec.semantic_type, item.semantic.type = semantic_type
  unit : ∀ unit ∈ spec.unit, item.metric.unit = some unit
  window : ∀ window ∈ spec.window, item.metric.window = some window
  aggregation : ∀ aggregation ∈ spec.aggregation, item.metric.aggregation = some aggregation
  labels : ∀ label ∈ spec.required_labels, item.label label.1 = some label.2

theorem selectorMismatch_not {α : Type} [DecidableEq α] {expected actual : Option α}
    (h : ¬selectorMismatch expected actual) : ∀ value ∈ expected, actual = some value := by
  rintro value rfl
  by_contra hne
  exact h ⟨by simp, hne⟩

/-- An item without a finding is as the dependency asks. -/
theorem attested_of_observedFindings {spec : DependencySpec} {item : EvidenceItem}
    (h : observedFindings spec item = []) : Attested spec item := by
  obtain ⟨hok, hfresh⟩ := observedFindings_clean h
  simp only [observedFindings, selectorFinding, List.append_eq_nil_iff,
    requirementFinding_eq_nil, findingIf_eq_nil, List.flatMap_eq_nil_iff, ne_eq, not_not] at h
  obtain ⟨⟨⟨⟨⟨⟨⟨⟨⟨⟨⟨-, hbasis⟩, hbound⟩, -⟩, -⟩, hsource⟩, htool⟩, hsemantic⟩, hunit⟩, hwindow⟩,
    haggregation⟩, hlabels⟩ := h.1.1
  exact {
    ok := hok
    fresh := hfresh
    basis := fun basis hmem => Option.some.inj (selectorMismatch_not hbasis basis hmem)
    bound := selectorMismatch_not hbound
    source := fun source hmem => Option.some.inj (selectorMismatch_not hsource source hmem)
    tool := fun tool hmem => Option.some.inj (selectorMismatch_not htool tool hmem)
    semantic := fun type hmem => Option.some.inj (selectorMismatch_not hsemantic type hmem)
    unit := selectorMismatch_not hunit
    window := selectorMismatch_not hwindow
    aggregation := selectorMismatch_not haggregation
    labels := hlabels }

/-- The trace of a required dependency whose evidence passed every check: there is evidence for
one of its metrics, all of it is attested, and the trace names no issue. -/
structure DependencyAttested (bundle : EvidenceBundle) (spec : DependencySpec)
    (trace : EvidenceDependencyTrace) : Prop where
  dependency : trace.dependency = spec.name
  exists_item : ∃ item ∈ bundle.evidence, item.metric.name ∈ spec.metric_names
  items : ∀ item ∈ bundle.evidence, item.metric.name ∈ spec.metric_names → Attested spec item
  issues : trace.issues = []

theorem mem_dependencyItems {spec : DependencySpec} {bundle : EvidenceBundle}
    {item : EvidenceItem} :
    item ∈ dependencyItems spec bundle ↔
      item ∈ bundle.evidence ∧ item.metric.name ∈ spec.metric_names := by
  rw [dependencyItems, List.mem_insertionSort, List.mem_flatMap]
  constructor
  · rintro ⟨metric_name, hname, hitem⟩
    obtain ⟨hitem, heq⟩ := List.mem_filter.mp hitem
    exact ⟨hitem, of_decide_eq_true heq ▸ hname⟩
  · rintro ⟨hitem, hname⟩
    exact ⟨_, hname, List.mem_filter.mpr ⟨hitem, by simp⟩⟩

/-- An observation that ends without an issue attests its dependency. -/
theorem KeepsIssues.attested {rt : OpsRuntime} {bundle : EvidenceBundle} {spec : DependencySpec}
    {observation : ObservedDependency} (h : KeepsIssues bundle spec observation)
    (hissues : observation.issues = []) :
    DependencyAttested bundle spec (observation.trace rt) := by
  obtain ⟨hne, hfindings⟩ := observeDependency_clean (h.observed hissues)
  refine ⟨congrArg (·.name) h.spec_eq, ?_, fun item hitem hname => ?_,
    trace_issues_eq_nil.mpr hissues⟩
  · obtain ⟨item, hitem⟩ := List.exists_mem_of_ne_nil _ hne
    exact ⟨item, mem_dependencyItems.mp hitem⟩
  · exact attested_of_observedFindings
      (hfindings item (mem_dependencyItems.mpr ⟨hitem, hname⟩))

theorem forall₂_attested {rt : OpsRuntime} {bundle : EvidenceBundle} {specs : List DependencySpec}
    {required : List ObservedDependency}
    (h : List.Forall₂ (fun spec observation =>
      KeepsIssues bundle spec observation ∧ observation.issues = []) specs required) :
    List.Forall₂ (DependencyAttested bundle) specs (required.map (·.trace rt)) := by
  rw [List.forall₂_map_right_iff]
  exact h.imp fun spec observation hobservation => hobservation.1.attested hobservation.2

/-! ### Kafka families -/

/-- The time stamps step by five seconds, as the context subtracts them. -/
def StepGrid (dec : DecimalArithmetic) (grid : List ℚ) : Prop :=
  grid.length = expectedSampleCount ∧
    grid.IsChain fun previous current => dec (current - previous) = .ok rangeStepSeconds

/-- An item with thirteen samples at the times of a grid, whose values are finite integers
that are not negative. -/
structure SampledSeries (rt : OpsRuntime) (grid : List ℚ) (item : EvidenceItem) : Prop where
  samples : ∃ samples values, item.metric.value = .arr samples ∧
    samples.length = expectedSampleCount ∧
    samples.mapM (sampleDecimal rt "timestamp") = some grid ∧
    samples.mapM (sampleDecimal rt "value") = some values ∧
    ∀ value ∈ values, value.den = 1 ∧ 0 ≤ value

/-- A metric with one such series for each of the eight partitions. -/
structure SampledFamily (rt : OpsRuntime) (bundle : EvidenceBundle) (grid : List ℚ)
    (metric_name : PyStr) : Prop where
  partitions : ((bundle.items metric_name).map (·.label "partition")).Perm
    (topicPartitions.map some)
  series : ∀ item ∈ bundle.items metric_name, SampledSeries rt grid item

/-- A series that was read, with its grid. -/
def StepSeries (dec : DecimalArithmetic) (rt : OpsRuntime) (item : EvidenceItem)
    (parsed : Series) : Prop :=
  StepGrid dec parsed.timestamps ∧ SampledSeries rt parsed.timestamps item

theorem isChain_of_offGrid {dec : DecimalArithmetic} {timestamps : List ℚ}
    (h : offGrid dec timestamps = .ok false) :
    timestamps.IsChain fun previous current => dec (current - previous) = .ok rangeStepSeconds := by
  induction timestamps with
  | nil => exact .nil
  | cons previous timestamps ih =>
      cases timestamps with
      | nil => exact .singleton _
      | cons current timestamps =>
          rw [offGrid] at h
          obtain ⟨step, hstep, h⟩ := OpsAgent.bind_ok.mp h
          split_ifs at h with hoff
          · simp [pure, Except.pure] at h
          rw [not_not] at hoff
          exact List.isChain_cons_cons.mpr ⟨hoff ▸ hstep, ih h⟩

theorem reads_stepSeries (dec : DecimalArithmetic) (rt : OpsRuntime) (bundle : EvidenceBundle)
    (committed_offsets require_monotonic : Bool) :
    Reads dec rt bundle committed_offsets require_monotonic (StepSeries dec rt) := by
  intro item result _ _ h
  unfold parsePartitionSeries at h
  split at h
  · rename_i samples hvalue
    split_ifs at h with hcount
    · cases hread : readSamples rt committed_offsets 0 samples with
      | mk read findings =>
          cases read with
          | none =>
              simp only [hread, OpsAgent.pure_ok, Prod.mk.injEq] at h
              exact absurd h.2 (readSamples_none hread)
          | some read =>
              simp only [hread, OpsAgent.bind_ok, OpsAgent.pure_ok, Prod.mk.injEq,
                List.append_eq_nil_iff] at h
              obtain ⟨series_findings, hfindings, rfl, rfl, rfl⟩ := h
              obtain ⟨htimestamps, hvalues, hall⟩ := readSamples_clean hread
              simp only [seriesFindings, OpsAgent.bind_ok, OpsAgent.pure_ok,
                List.append_eq_nil_iff, findingIf_eq_nil, Bool.not_eq_true] at hfindings
              obtain ⟨off_grid, hgrid, _, -, _, -, _, -, _, -, ⟨⟨⟨⟨rfl, -⟩, -⟩, -⟩, -⟩, -⟩ :=
                hfindings
              refine ⟨_, rfl, ⟨?_, isChain_of_offGrid hgrid⟩, ⟨samples, read.map (·.2), hvalue,
                hcount.1, htimestamps, hvalues, hall⟩⟩
              exact (length_of_mapM htimestamps).trans hcount.1
    · simp [pure, Except.pure] at h
  · simp [pure, Except.pure] at h

/-- A family that was read is sampled on the grid of any of its series. -/
theorem ReadFamily.sampled {dec : DecimalArithmetic} {rt : OpsRuntime} {bundle : EvidenceBundle}
    {metric_name : PyStr} {family : Family}
    (h : ReadFamily bundle metric_name (StepSeries dec rt) family)
    {first : PyStr × EvidenceItem × Series} (hfirst : first ∈ family) :
    SampledFamily rt bundle first.2.2.timestamps metric_name := by
  constructor
  · refine (h.items.symm.map _).trans ?_
    rw [List.map_map]
    refine List.Perm.trans (List.Perm.of_eq ?_) (h.partitions.map some)
    rw [List.map_map]
    exact List.map_congr_left fun entry hentry => h.label entry hentry
  · intro item hitem
    obtain ⟨entry, hentry, rfl⟩ := List.mem_map.mp (h.items.mem_iff.mpr hitem)
    rw [h.grid first hfirst entry hentry]
    exact (h.read entry hentry).2

theorem ReadFamily.exists_lookup {bundle : EvidenceBundle} {metric_name : PyStr}
    {Read : EvidenceItem → Series → Prop} {family : Family}
    (h : ReadFamily bundle metric_name Read family) {partition : PyStr}
    (hpartition : partition ∈ topicPartitions) : ∃ entry, family.lookup partition = some entry := by
  obtain ⟨entry, hentry, rfl⟩ := List.mem_map.mp (h.partitions.mem_iff.mpr hpartition)
  exact ⟨entry.2, lookup_of_mem (h.partitions.nodup_iff.mpr (by decide)) hentry⟩

/-- The three families of a usable core condition are sampled on one grid. -/
theorem UsableFamilies.sampled {dec : DecimalArithmetic} {rt : OpsRuntime}
    {bundle : EvidenceBundle} {ends committed lag : Family}
    (h : UsableFamilies dec rt bundle ends committed lag) :
    ∃ grid, StepGrid dec grid ∧
      ∀ spec ∈ [endOffset, committedOffset, partitionLag], ∀ metric_name ∈ spec.metric_names,
        SampledFamily rt bundle grid metric_name := by
  obtain ⟨_, hends, hend_issues⟩ := h.end_offsets
  obtain ⟨_, hcommitted, hcommitted_issues⟩ := h.committed_offsets
  obtain ⟨_, hlag, hlag_issues⟩ := h.partition_lag
  have hread_ends := partitionValues_read rfl (reads_stepSeries _ _ _ _ _) hends hend_issues
  have hread_committed :=
    partitionValues_read rfl (reads_stepSeries _ _ _ _ _) hcommitted hcommitted_issues
  have hread_lag := partitionValues_read rfl (reads_stepSeries _ _ _ _ _) hlag hlag_issues
  -- one partition of all three families shows that their grids are one
  have hzero : natStr 0 ∈ topicPartitions := by decide
  obtain ⟨e, he⟩ := hread_ends.exists_lookup hzero
  obtain ⟨c, hc⟩ := hread_committed.exists_lookup hzero
  obtain ⟨l, hl⟩ := hread_lag.exists_lookup hzero
  obtain ⟨hec, hcl, -⟩ := crossIssues_arithmetic h.across hread_ends.partitions
    hread_committed.partitions hread_lag.partitions (natStr 0) e c l he hc hl
  have hsampled_ends := hread_ends.sampled (mem_of_lookup he)
  have hsampled_committed := hread_committed.sampled (mem_of_lookup hc)
  have hsampled_lag := hread_lag.sampled (mem_of_lookup hl)
  rw [← hcl, ← hec] at hsampled_lag
  rw [← hec] at hsampled_committed
  refine ⟨e.2.timestamps, (hread_ends.read _ (mem_of_lookup he)).1, ?_⟩
  simp only [List.forall_mem_cons, endOffset, committedOffset, partitionLag, kafkaFamily]
  exact ⟨⟨hsampled_ends, by simp⟩, ⟨hsampled_committed, by simp⟩, ⟨hsampled_lag, by simp⟩, by simp⟩

/-! ### The four conditions

A verdict other than UNKNOWN has passed every blocking check. One lemma a condition says which
evidence it rests on; the claim about the whole evaluation is assembled from the four. -/

@[simp] theorem conditionReport_state (rt : OpsRuntime) (condition : ConditionName)
    (state : ConditionState) (reason_codes : List PyStr)
    (required optional : List ObservedDependency) (facts : ConditionFacts) :
    (conditionReport rt condition state reason_codes required optional facts).state = state := rfl

@[simp] theorem conditionReport_required (rt : OpsRuntime) (condition : ConditionName)
    (state : ConditionState) (reason_codes : List PyStr)
    (required optional : List ObservedDependency) (facts : ConditionFacts) :
    (conditionReport rt condition state reason_codes required optional facts).required_evidence =
      required.map (·.trace rt) := rfl

@[simp] theorem unknownCondition_state (rt : OpsRuntime) (condition : ConditionName)
    (required optional : List ObservedDependency) (facts : ConditionFacts) :
    (unknownCondition rt condition required optional facts).state = .unknown := rfl

theorem blocked_eq_false {required : List ObservedDependency} :
    blocked required = false ↔ ∀ observation ∈ required, observation.issues = [] := by
  simp [blocked]

theorem usableBacklog_required {dec : DecimalArithmetic} {rt : OpsRuntime} {lag : Family}
    {required optional : List ObservedDependency} {facts : BacklogFacts} {result : ConditionResult}
    (h : usableBacklog dec rt lag required optional facts = .ok result) :
    result.required_evidence = required.map (·.trace rt) := by
  simp only [usableBacklog, OpsAgent.bind_ok] at h
  obtain ⟨totals, -, h⟩ := h
  split_ifs at h
  all_goals
    obtain rfl := OpsAgent.pure_ok.mp h
    rfl

/-- What a verdict about a condition rests on: an attested trace for each of its dependencies, in
their order, and, where all of them are partitioned, series for the eight partitions which are
sampled on one grid. -/
structure VerdictEvidence (dec : DecimalArithmetic) (rt : OpsRuntime) (bundle : EvidenceBundle)
    (specs : List DependencySpec) (traces : List EvidenceDependencyTrace) : Prop where
  attested : List.Forall₂ (DependencyAttested bundle) specs traces
  sampled : (∀ spec ∈ specs, spec.partitioned = true) → ∃ grid, StepGrid dec grid ∧
    ∀ spec ∈ specs, ∀ metric_name ∈ spec.metric_names, SampledFamily rt bundle grid metric_name

/-- The core condition, of which a single bundle shows at most the absence. -/
theorem coreBacklog_evidence {dec : DecimalArithmetic} {rt : OpsRuntime} {bundle : EvidenceBundle}
    {result : ConditionResult} (h : evaluateCoreBacklog dec rt bundle = .ok result)
    (hstate : result.state ≠ .unknown) :
    VerdictEvidence dec rt bundle (requiredDependencies .coreBacklogPressure)
      result.required_evidence := by
  obtain ⟨ends, committed, lag, required, optional, facts, hfamilies, hrequired, husable⟩ :=
    evaluateCoreBacklog_families h ((evaluateCoreBacklog_state h).2 hstate)
  rw [usableBacklog_required husable]
  exact ⟨forall₂_attested hrequired, fun _ => hfamilies.sampled⟩

theorem usableConcentration_required {dec : DecimalArithmetic} {rt : OpsRuntime} {lag : Family}
    {required optional : List ObservedDependency} {facts : ConcentrationFacts}
    {report : ConditionReport}
    (h : usableConcentration dec rt lag required optional facts = .ok report) :
    report.required_evidence = required.map (·.trace rt) := by
  simp only [usableConcentration, OpsAgent.bind_ok] at h
  obtain ⟨totals, -, h⟩ := h
  split_ifs at h
  · obtain rfl := OpsAgent.pure_ok.mp h
    rfl
  · obtain ⟨share, -, h⟩ := OpsAgent.bind_ok.mp h
    obtain rfl := OpsAgent.pure_ok.mp h
    rfl
  · obtain ⟨share, -, h⟩ := OpsAgent.bind_ok.mp h
    obtain rfl := OpsAgent.pure_ok.mp h
    rfl

/-- A decided concentration comes from a lag family without an issue. -/
theorem evaluatePartitionConcentration_usable {dec : DecimalArithmetic} {rt : OpsRuntime}
    {bundle : EvidenceBundle} {report : ConditionReport}
    (h : evaluatePartitionConcentration dec rt bundle = .ok report)
    (hstate : report.state ≠ .unknown) :
    ∃ lag observation optional facts, partitionValues dec rt bundle
        (observeDependency partitionLag bundle) true false false = .ok (lag, observation) ∧
      observation.issues = [] ∧
      usableConcentration dec rt lag [observation] optional facts = .ok report := by
  simp only [evaluatePartitionConcentration, OpsAgent.bind_ok] at h
  obtain ⟨⟨lag, observation⟩, hlag, h⟩ := h
  split_ifs at h with hblocked
  · obtain rfl := OpsAgent.pure_ok.mp h
    exact absurd rfl hstate
  · rw [Bool.not_eq_true, blocked_eq_false] at hblocked
    exact ⟨lag, observation, _, _, hlag, hblocked observation (by simp), h⟩

theorem concentration_evidence {dec : DecimalArithmetic} {rt : OpsRuntime}
    {bundle : EvidenceBundle} {report : ConditionReport}
    (h : evaluatePartitionConcentration dec rt bundle = .ok report)
    (hstate : report.state ≠ .unknown) :
    VerdictEvidence dec rt bundle (requiredDependencies .partitionLagConcentrationObserved)
      report.required_evidence := by
  obtain ⟨lag, observation, optional, facts, hlag, hissues, husable⟩ :=
    evaluatePartitionConcentration_usable h hstate
  rw [usableConcentration_required husable]
  refine ⟨forall₂_attested (.cons ⟨partitionValues_keepsIssues hlag, hissues⟩ .nil), fun _ => ?_⟩
  have hread := partitionValues_read rfl (reads_stepSeries _ _ _ _ _) hlag hissues
  obtain ⟨l, hl⟩ := hread.exists_lookup (by decide : natStr 0 ∈ topicPartitions)
  refine ⟨l.2.timestamps, (hread.read _ (mem_of_lookup hl)).1, ?_⟩
  simp only [requiredDependencies, List.forall_mem_singleton, partitionLag, kafkaFamily]
  exact hread.sampled (mem_of_lookup hl)

/-- A readiness response that is decided left no issue in either view. -/
theorem usableReadiness_required {rt : OpsRuntime} {reading : PostgresReading}
    {body_status : Option PyStr} {reasons : List PyStr} {readiness postgres : ObservedDependency}
    {optional : List ObservedDependency} {facts : ConditionFacts}
    (hstate : (usableReadiness rt reading body_status reasons readiness postgres optional
      facts).state ≠ .unknown) :
    (usableReadiness rt reading body_status reasons readiness postgres optional
      facts).required_evidence = [readiness.trace rt, postgres.trace rt] := by
  unfold usableReadiness at hstate ⊢
  cases hobjection : readinessObjection reading body_status reasons with
  | some objection =>
      obtain ⟨view, finding⟩ := objection
      cases view <;> simp [hobjection] at hstate
  | none =>
      dsimp only
      split <;> rfl

theorem dbDegraded_evidence {rt : OpsRuntime} {bundle : EvidenceBundle}
    (dec : DecimalArithmetic) (hstate : (evaluateDbDegraded rt bundle).state ≠ .unknown) :
    VerdictEvidence dec rt bundle (requiredDependencies .dbDegraded)
      (evaluateDbDegraded rt bundle).required_evidence := by
  refine ⟨?_, fun h => absurd (h _ List.mem_cons_self) (by decide)⟩
  unfold evaluateDbDegraded at hstate ⊢
  dsimp only at hstate ⊢
  split_ifs at hstate ⊢ with hblocked
  · exact absurd rfl hstate
  · rw [Bool.not_eq_true, blocked_eq_false] at hblocked
    rw [usableReadiness_required hstate]
    exact forall₂_attested (.cons
      ⟨(observeDependency_keepsIssues bundle applicationReadiness).addIssues _,
        hblocked _ (by simp)⟩ (.cons
      ⟨(observeDependency_keepsIssues bundle postgresRuntime).addIssues _,
        hblocked _ (by simp)⟩ .nil))

theorem usableDeployment_required (rt : OpsRuntime) (desired current available : Nat)
    (required optional : List ObservedDependency) (facts : ConditionFacts) :
    (usableDeployment rt desired current available required optional facts).required_evidence =
      required.map (·.trace rt) := by
  unfold usableDeployment
  dsimp only
  split <;> rfl

theorem workerUnavailable_evidence (dec : DecimalArithmetic) (rt : OpsRuntime)
    {bundle : EvidenceBundle} (hstate : (evaluateWorkerUnavailable rt bundle).state ≠ .unknown) :
    VerdictEvidence dec rt bundle (requiredDependencies .workerReplicaUnavailable)
      (evaluateWorkerUnavailable rt bundle).required_evidence := by
  refine ⟨?_, fun h => absurd (h _ List.mem_cons_self) (by decide)⟩
  unfold evaluateWorkerUnavailable at hstate ⊢
  dsimp only at hstate ⊢
  split_ifs at hstate ⊢ with hblocked
  · exact absurd rfl hstate
  · rw [Bool.not_eq_true, blocked_eq_false] at hblocked
    rw [usableDeployment_required]
    exact forall₂_attested (.cons
      ⟨(observeDependency_keepsIssues bundle workerDeployment).addIssues _,
        hblocked _ (by simp)⟩ .nil)

/-- Every verdict of an evaluation rests on evidence without an issue, whatever the decimal
arithmetic. -/
theorem evaluation_evidence {dec : DecimalArithmetic} {rt : OpsRuntime} {bundle : EvidenceBundle}
    {evaluation : ConditionEvaluation} (h : evaluateConditions dec rt bundle = .ok evaluation) :
    evaluation.conditions.core_backlog_pressure.state ≠ .present ∧
      ∀ condition, (evaluation.conditions.get condition).state ≠ .unknown →
        VerdictEvidence dec rt bundle (requiredDependencies condition)
          (evaluation.conditions.get condition).required_evidence := by
  simp only [evaluateConditions, OpsAgent.bind_ok, ensure_eq_ok, exists_const] at h
  obtain ⟨-, -, core, hcore, concentration, hconcentration, h⟩ := h
  obtain rfl := OpsAgent.pure_ok.mp h
  refine ⟨(evaluateCoreBacklog_state hcore).1, fun condition hstate => ?_⟩
  cases condition with
  | coreBacklogPressure => exact coreBacklog_evidence hcore hstate
  | partitionLagConcentrationObserved => exact concentration_evidence hconcentration hstate
  | dbDegraded => exact dbDegraded_evidence dec hstate
  | workerReplicaUnavailable => exact workerUnavailable_evidence dec rt hstate

/-! ### The grid

The evaluator compares the steps of a series with the nominal one by rounded decimals. What it
accepts is within the error of that rounding, and a series can be accepted although it is not
exactly on the grid. -/

/-- Two time stamps that the default context puts five seconds apart are so up to half a
unit of the 28th digit. -/
theorem step_error {previous current : ℚ}
    (h : decimalResult (current - previous) = .ok rangeStepSeconds) :
    |current - previous - rangeStepSeconds| ≤ 10 ^ (-27 : Int) / 2 := by
  unfold decimalResult at h
  split at h
  · rename_i value hvalue
    have hfive : value = 5 := Except.ok.inj h
    have hsmall : |value| < 10 ^ (1 : Int) := by
      rw [hfive]
      norm_num
    have herror := decimalContext_error (by norm_num) hvalue hsmall
    rw [hfive, show (1 : Int) - 28 = -27 by norm_num, abs_sub_comm] at herror
    exact herror
  · simp at h

/-- Thirteen time stamps that are five seconds apart up to the rounding of the default
context. -/
def RoundedGrid (grid : List ℚ) : Prop :=
  grid.length = expectedSampleCount ∧ grid.IsChain fun previous current =>
    |current - previous - rangeStepSeconds| ≤ 10 ^ (-27 : Int) / 2

theorem StepGrid.rounded {grid : List ℚ} (h : StepGrid decimalResult grid) : RoundedGrid grid :=
  ⟨h.1, h.2.imp fun _ _ => step_error⟩

/-- A single bundle never shows the core condition present. Where it decides a condition,
every required dependency has evidence, all of it as required and without an issue, and the
Kafka families have one series for each partition, on one grid of five-second steps up to
the rounding of the decimal context.

A required observation only gains issues, and a condition with one is UNKNOWN, so a decided one
has observations without any, from the first check on (`evaluation_evidence`). Each check that
found nothing then says something of its item (`attested_of_observedFindings`), and the samples
were read (`reads_stepSeries`). Only the steps of the grid are rounded (`StepGrid.rounded`). -/
theorem decided_condition_evidence (rt : OpsRuntime) (bundle : EvidenceBundle)
    (evaluation : ConditionEvaluation)
    (h : evaluateConditions decimalResult rt bundle = .ok evaluation) :
    evaluation.conditions.core_backlog_pressure.state ≠ .present ∧
      ∀ condition, (evaluation.conditions.get condition).state ≠ .unknown →
        List.Forall₂ (DependencyAttested bundle) (requiredDependencies condition)
          (evaluation.conditions.get condition).required_evidence ∧
        ((∀ spec ∈ requiredDependencies condition, spec.partitioned = true) →
          ∃ grid, RoundedGrid grid ∧ ∀ spec ∈ requiredDependencies condition,
            ∀ metric_name ∈ spec.metric_names, SampledFamily rt bundle grid metric_name) := by
  obtain ⟨hcore, hevidence⟩ := evaluation_evidence h
  refine ⟨hcore, fun condition hstate => ?_⟩
  obtain ⟨hattested, hsampled⟩ := hevidence condition hstate
  refine ⟨hattested, fun hpartitioned => ?_⟩
  obtain ⟨grid, hgrid, hfamilies⟩ := hsampled hpartitioned
  exact ⟨grid, hgrid.rounded, hfamilies⟩

/-- An item of a Kafka family whose value never changes; `first` is its first time stamp. -/
def calmSeries (first : Json) (name semantic : PyStr) (value : Int) (partition : PyStr) :
    EvidenceItem :=
  let item := sampleSeries name semantic 100 partition fun _ => value
  let sample (timestamp : Json) : Json := .obj [("timestamp", timestamp), ("value", .int value)]
  { item with metric := { item.metric with
      value := .arr (sample first :: (List.range 12).map fun i => sample (.int (45 + 5 * i))) } }

/-- A bundle in scope without a backlog. -/
def calmBundle (first : Json) : EvidenceBundle :=
  { sampleBundle 100 with
    evidence := topicPartitions.flatMap fun partition => [
      calmSeries first "kafka_topic_partition_current_offset" "kafka_partition_end_offset_gauge"
        1000 partition,
      calmSeries first "kafka_consumergroup_current_offset"
        "kafka_consumer_committed_offset_gauge" 1000 partition,
      calmSeries first "kafka_consumergroup_lag" "kafka_consumer_partition_lag_gauge" 0
        partition] }

/-- The evaluation finds no backlog. -/
def findsNoBacklog (dec : DecimalArithmetic) (bundle : EvidenceBundle) : Bool :=
  match evaluateConditions dec backlogRuntime bundle with
  | .ok evaluation => evaluation.conditions.core_backlog_pressure.state = .absent
  | .error _ => false

theorem findsNoBacklog_iff {dec : DecimalArithmetic} {bundle : EvidenceBundle} :
    findsNoBacklog dec bundle = true ↔
      ∃ evaluation, evaluateConditions dec backlogRuntime bundle = .ok evaluation ∧
        evaluation.conditions.core_backlog_pressure.state = .absent := by
  unfold findsNoBacklog
  cases evaluateConditions dec backlogRuntime bundle <;> simp

/-- The evidence behind the absence of a backlog in a calm bundle. -/
theorem decided_condition_evidence_calm :
    ∃ grid, RoundedGrid grid ∧
      SampledFamily backlogRuntime (calmBundle (.int 40)) grid "kafka_consumergroup_lag" := by
  obtain ⟨evaluation, h, habsent⟩ := findsNoBacklog_iff.mp
    (by decide +kernel : findsNoBacklog decimalResult (calmBundle (.int 40)) = true)
  obtain ⟨-, hdecided⟩ := decided_condition_evidence backlogRuntime _ evaluation h
  obtain ⟨-, hsampled⟩ := hdecided .coreBacklogPressure (by simp [Conditions.get, habsent])
  obtain ⟨grid, hgrid, hfamilies⟩ := hsampled (by decide)
  exact ⟨grid, hgrid, hfamilies partitionLag (by simp [requiredDependencies]) _ (by decide)⟩

/-- The first time stamp of this bundle has 31 digits and is not on the grid. -/
def offGridBundle : EvidenceBundle := calmBundle (.str "40.00000000000000000000000000001")

/-- The time stamps of its series. -/
def offGridTimes : List ℚ :=
  (40 + 1 / 10 ^ 29) :: (List.range 12).map fun i => 45 + 5 * (i : ℚ)

theorem offGridBundle_times : ((offGridBundle.items "kafka_consumergroup_lag").isEmpty = false ∧
    (offGridBundle.items "kafka_consumergroup_lag").all (fun item =>
      SequenceEvaluator.decimalsOf backlogRuntime "timestamp" item = some offGridTimes) = true) := by
  decide +kernel

/-- A decided condition does not need a grid of exact five-second steps: the context rounds
the first of these to five. -/
theorem decided_condition_off_grid : ∃ evaluation,
    evaluateConditions decimalResult backlogRuntime offGridBundle = .ok evaluation ∧
      evaluation.conditions.core_backlog_pressure.state = .absent ∧
      ¬∃ grid : List ℚ, (grid.length = expectedSampleCount ∧
          grid.IsChain fun previous current => current - previous = rangeStepSeconds) ∧
        ∀ spec ∈ requiredDependencies .coreBacklogPressure, ∀ metric_name ∈ spec.metric_names,
          SampledFamily backlogRuntime offGridBundle grid metric_name := by
  obtain ⟨evaluation, h, habsent⟩ := findsNoBacklog_iff.mp
    (by decide +kernel : findsNoBacklog decimalResult offGridBundle = true)
  refine ⟨evaluation, h, habsent, ?_⟩
  rintro ⟨grid, ⟨-, hchain⟩, hfamilies⟩
  have hfamily := hfamilies partitionLag (by simp [requiredDependencies])
    "kafka_consumergroup_lag" (by decide)
  obtain ⟨hne, hall⟩ := offGridBundle_times
  obtain ⟨item, hitem⟩ := List.exists_mem_of_ne_nil _
    (fun hnil => by simp [hnil] at hne : offGridBundle.items "kafka_consumergroup_lag" ≠ [])
  have htimes := of_decide_eq_true (List.all_eq_true.mp hall item hitem)
  obtain ⟨samples, values, hvalue, -, hread, -⟩ := (hfamily.series item hitem).samples
  simp only [SequenceEvaluator.decimalsOf, hvalue, hread, Option.some.injEq] at htimes
  rw [htimes, offGridTimes] at hchain
  norm_num [List.range, List.range.loop, rangeStepSeconds, List.isChain_cons_cons] at hchain

end EventPipeline.Guarantees
