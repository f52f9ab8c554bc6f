import EventPipeline.Guarantees.BacklogMeasurement
import EventPipeline.OpsAgent.ConditionEvaluators

/-!
# EventPipeline.Guarantees.EvidenceOrder

The order of the evidence in a bundle does not matter to its evaluation.

The evaluator reads evidence only through the items of a dependency, which are sorted by
evidence id. The ids of a bundle are unique, so the sorted list is the same for every order
of the evidence, and with it every observation, every issue and every fact.
-/

namespace EventPipeline.Guarantees

open EventPipeline.Python EventPipeline.OpsAgent EventPipeline.OpsAgent.Evaluator
open EventPipeline.Sequences

/-- The bundle with its evidence in another order. -/
abbrev reordered (bundle : EvidenceBundle) (evidence : List EvidenceItem) : EvidenceBundle :=
  { bundle with evidence := evidence }

section

variable {bundle : EvidenceBundle} {evidence : List EvidenceItem}

/-- Items with one id are one item. -/
theorem eq_of_evidence_id (hunique : (bundle.evidence.map (·.evidence_id)).Nodup)
    {a b : EvidenceItem} (ha : a ∈ bundle.evidence) (hb : b ∈ bundle.evidence)
    (h : a.evidence_id = b.evidence_id) : a = b :=
  List.inj_on_of_nodup_map hunique ha hb h

theorem items_reordered (hperm : evidence.Perm bundle.evidence) (metric_name : PyStr) :
    ((reordered bundle evidence).items metric_name).Perm (bundle.items metric_name) :=
  hperm.filter _

/-- A dependency has the same items in the same order. -/
theorem dependencyItems_reordered (hunique : (bundle.evidence.map (·.evidence_id)).Nodup)
    (hperm : evidence.Perm bundle.evidence) (spec : DependencySpec) :
    dependencyItems spec (reordered bundle evidence) = dependencyItems spec bundle := by
  have : Std.Total fun (a b : EvidenceItem) => a.evidence_id ≤ b.evidence_id :=
    ⟨fun a b => le_total a.evidence_id b.evidence_id⟩
  have : IsTrans EvidenceItem fun a b => a.evidence_id ≤ b.evidence_id := ⟨fun _ _ _ => le_trans⟩
  have hitems : (spec.metric_names.flatMap (reordered bundle evidence).items).Perm
      (spec.metric_names.flatMap bundle.items) := by
    induction spec.metric_names with
    | nil => exact List.Perm.refl _
    | cons metric_name rest ih =>
        rw [List.flatMap_cons, List.flatMap_cons]
        exact (items_reordered hperm metric_name).append ih
  have hmem : ∀ item ∈ dependencyItems spec bundle, item ∈ bundle.evidence := by
    intro item hitem
    rw [dependencyItems, List.mem_insertionSort, List.mem_flatMap] at hitem
    obtain ⟨metric_name, -, hitem⟩ := hitem
    exact List.mem_of_mem_filter hitem
  refine insertionSort_eq (hitems.trans (List.perm_insertionSort _ _).symm)
    (List.pairwise_insertionSort _ _) fun a ha b hb hab hba => ?_
  exact eq_of_evidence_id hunique (hmem a ha) (hmem b hb) (le_antisymm hab hba)

theorem observeDependency_reordered (hunique : (bundle.evidence.map (·.evidence_id)).Nodup)
    (hperm : evidence.Perm bundle.evidence) (spec : DependencySpec) :
    observeDependency spec (reordered bundle evidence) = observeDependency spec bundle := by
  simp only [observeDependency, dependencyItems_reordered hunique hperm]

/-- The index itself is the same. -/
theorem evidenceIndex_reordered (hunique : (bundle.evidence.map (·.evidence_id)).Nodup)
    (hperm : evidence.Perm bundle.evidence) :
    evidenceIndex (reordered bundle evidence) = evidenceIndex bundle := by
  funext metric_name
  have h := dependencyItems_reordered hunique hperm (optionalSpec metric_name [metric_name])
  rwa [dependencyItems_singleton rfl, dependencyItems_singleton rfl] at h

end

/-! ### The readers of a family -/

/-- A series is read against the scope and the collection of the bundle only. -/
theorem partitionItems_reordered (dec : DecimalArithmetic) (rt : OpsRuntime)
    (bundle : EvidenceBundle) (evidence : List EvidenceItem)
    (require_consumer_group committed_offsets require_monotonic : Bool)
    (items : List EvidenceItem) :
    partitionItems dec rt (reordered bundle evidence) require_consumer_group committed_offsets
        require_monotonic items =
      partitionItems dec rt bundle require_consumer_group committed_offsets require_monotonic
        items := by
  induction items with
  | nil => rfl
  | cons item items ih =>
      rw [partitionItems, partitionItems, ih]
      rfl

theorem partitionValues_reordered (dec : DecimalArithmetic) (rt : OpsRuntime)
    (bundle : EvidenceBundle) (evidence : List EvidenceItem) (observation : ObservedDependency)
    (require_consumer_group committed_offsets require_monotonic : Bool) :
    partitionValues dec rt (reordered bundle evidence) observation require_consumer_group
        committed_offsets require_monotonic =
      partitionValues dec rt bundle observation require_consumer_group committed_offsets
        require_monotonic := by
  rw [partitionValues, partitionValues, partitionItems_reordered]

/-! ### The evaluation -/

/-- The conditions and the assessments are the same for every order of the evidence, and so
is the index: every state, reason, fact, and every issue with its detail.

An observation is a function of the items of its dependency, which are sorted by ids that no
two of them share, so a permutation of the evidence leaves it as it is
(`observeDependency_reordered`). Beyond the observations the evaluators look at the scope and
the collection of the bundle only, so each of the four conditions is rewritten to itself. -/
theorem evaluation_order_independent (dec : DecimalArithmetic) (rt : OpsRuntime)
    (bundle : EvidenceBundle) (evidence : List EvidenceItem)
    (hunique : (bundle.evidence.map (·.evidence_id)).Nodup)
    (hperm : evidence.Perm bundle.evidence) :
    evidenceIndex { bundle with evidence := evidence } = evidenceIndex bundle ∧
      evaluateConditions dec rt { bundle with evidence := evidence } =
        evaluateConditions dec rt bundle := by
  have hcore : evaluateCoreBacklog dec rt (reordered bundle evidence) =
      evaluateCoreBacklog dec rt bundle := by
    simp only [evaluateCoreBacklog, partitionValues_reordered,
      observeDependency_reordered hunique hperm]
  have hconcentration : evaluatePartitionConcentration dec rt (reordered bundle evidence) =
      evaluatePartitionConcentration dec rt bundle := by
    simp only [evaluatePartitionConcentration, partitionValues_reordered,
      observeDependency_reordered hunique hperm]
  have hdatabase : evaluateDbDegraded rt (reordered bundle evidence) =
      evaluateDbDegraded rt bundle := by
    simp only [evaluateDbDegraded, observeDependency_reordered hunique hperm]
  have hworker : evaluateWorkerUnavailable rt (reordered bundle evidence) =
      evaluateWorkerUnavailable rt bundle := by
    simp only [evaluateWorkerUnavailable, observeDependency_reordered hunique hperm]
  have hscope : inEvaluationScope (reordered bundle evidence) = inEvaluationScope bundle := rfl
  refine ⟨evidenceIndex_reordered hunique hperm, ?_⟩
  simp only [evaluateConditions, hcore, hconcentration, hdatabase, hworker, hscope]

/-- A growing backlog with its evidence in reverse. -/
theorem evaluation_order_independent_reverse :
    evidenceIndex
          { backlogBundle 100 8000 with evidence := (backlogBundle 100 8000).evidence.reverse } =
        evidenceIndex (backlogBundle 100 8000) ∧
      evaluateConditions decimalResult backlogRuntime
          { backlogBundle 100 8000 with evidence := (backlogBundle 100 8000).evidence.reverse } =
        evaluateConditions decimalResult backlogRuntime (backlogBundle 100 8000) :=
  evaluation_order_independent decimalResult backlogRuntime (backlogBundle 100 8000)
    (backlogBundle 100 8000).evidence.reverse (by decide +kernel) (List.reverse_perm _)

end EventPipeline.Guarantees
