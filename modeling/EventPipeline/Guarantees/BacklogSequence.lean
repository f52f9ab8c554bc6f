import EventPipeline.Guarantees.BacklogMeasurement

/-!
# EventPipeline.Guarantees.BacklogSequence

What later captures do to the verdict over a sequence of bundles.

The captures of a longer sequence begin with those of the shorter one. Every problem but
the missing captures is about one capture or about two of them, and every window about
three, so each is still there in the longer sequence.
-/

namespace EventPipeline.Guarantees

open EventPipeline.Python EventPipeline.OpsAgent EventPipeline.Sequences
open EventPipeline.OpsAgent.Evaluator (OtherEvaluator ConditionResult)
open EventPipeline.OpsAgent.SequenceEvaluator

section

variable {dec : DecimalArithmetic} {others : OtherEvaluator} {rt : OpsRuntime}

/-! ### Captures -/

/-- What a returned evaluation is made of. -/
theorem evaluateBundleSequence_ok {bundles : List EvidenceBundle} {result : SequenceEvaluation}
    (h : evaluateBundleSequence dec others rt bundles = .ok result) :
    ∃ captures latest, bundles ≠ [] ∧ capturesFrom dec others rt 0 bundles = .ok captures ∧
      (captures.filterMap (·.single_evaluation)).getLast? = some latest ∧
      result = sequenceEvaluation captures latest := by
  simp only [evaluateBundleSequence, OpsAgent.bind_ok, ensure_eq_ok, exists_const] at h
  obtain ⟨hne, -, captures, hcaptures, h⟩ := h
  cases hlatest : (captures.filterMap (·.single_evaluation)).getLast? with
  | none => simp [hlatest] at h
  | some latest =>
      rw [hlatest] at h
      exact ⟨captures, latest, hne, hcaptures, hlatest, (Except.ok.inj h).symm⟩

theorem capturesFrom_append {xs ys : List EvidenceBundle} {k : Nat} {whole : List Capture}
    (h : capturesFrom dec others rt k (xs ++ ys) = .ok whole) :
    ∃ first rest, capturesFrom dec others rt k xs = .ok first ∧ whole = first ++ rest := by
  induction xs generalizing k whole with
  | nil => exact ⟨[], whole, rfl, rfl⟩
  | cons bundle xs ih =>
      simp only [List.cons_append, capturesFrom, OpsAgent.bind_ok, OpsAgent.pure_ok] at h ⊢
      obtain ⟨c, hc, tail, htail, rfl⟩ := h
      obtain ⟨first, rest, hfirst, rfl⟩ := ih htail
      exact ⟨c :: first, rest, ⟨c, hc, first, hfirst, rfl⟩, rfl⟩

theorem capturesFrom_append_ok {xs ys : List EvidenceBundle} {k : Nat} {first rest : List Capture}
    (hfirst : capturesFrom dec others rt k xs = .ok first)
    (hrest : capturesFrom dec others rt (k + xs.length) ys = .ok rest) :
    capturesFrom dec others rt k (xs ++ ys) = .ok (first ++ rest) := by
  induction xs generalizing k first with
  | nil =>
      obtain rfl := Except.ok.inj hfirst
      exact hrest
  | cons bundle xs ih =>
      simp only [capturesFrom, OpsAgent.bind_ok, OpsAgent.pure_ok] at hfirst
      obtain ⟨c, hc, tail, htail, rfl⟩ := hfirst
      have htail' : capturesFrom dec others rt (k + 1) (xs ++ ys) = .ok (tail ++ rest) := by
        apply ih htail
        rwa [List.length_cons, Nat.add_comm xs.length 1, ← Nat.add_assoc] at hrest
      simp only [List.cons_append, capturesFrom, hc, htail', Bind.bind, Except.bind, pure,
        Except.pure]

theorem capturesFrom_ne_nil {bundles : List EvidenceBundle} {k : Nat} {captures : List Capture}
    (hne : bundles ≠ []) (h : capturesFrom dec others rt k bundles = .ok captures) :
    captures ≠ [] := by
  cases bundles with
  | nil => exact absurd rfl hne
  | cons bundle bundles =>
      simp only [capturesFrom, OpsAgent.bind_ok, OpsAgent.pure_ok] at h
      obtain ⟨c, -, rest, -, rfl⟩ := h
      exact List.cons_ne_nil c rest

end

/-! ### Problems

Each problem is one of a capture or of two of them, so that it stays a problem of every longer
sequence. Only the count of the captures can stop being one. -/

/-- The problems other than too few captures. -/
def lastingProblems : List PyStr := [
  "SEQUENCE_REQUIRED_EVIDENCE_UNUSABLE",
  "SEQUENCE_CAPTURE_TIMESTAMPS_NOT_STRICTLY_INCREASING",
  "SEQUENCE_KAFKA_SOURCE_TIMESTAMPS_NOT_STRICTLY_INCREASING",
  "SEQUENCE_SOURCE_IDENTITY_MISMATCH",
  "SEQUENCE_PARTITION_SET_MISMATCH",
  "SEQUENCE_RATE_LAG_ARITHMETIC_MISMATCH"]

/-- A problem, but for the missing captures, is still there after more captures. -/
theorem sequenceProblems_append {first : List Capture} (hne : first ≠ []) (rest : List Capture)
    {problem : PyStr} (hlasting : problem ∈ lastingProblems)
    (h : problem ∈ sequenceProblems first) : problem ∈ sequenceProblems (first ++ rest) := by
  have hcount : problem ≠ PyStr.ofString "SEQUENCE_CAPTURE_COUNT_INSUFFICIENT" := by
    rintro rfl
    exact absurd hlasting (by decide)
  simp only [sequenceProblems, List.mem_append, mem_codeIf, hcount, and_false, false_or,
    List.map_append, List.any_append, Bool.or_eq_true] at h ⊢
  rcases h with ((((⟨h, hcode⟩ | ⟨⟨step, hstep, h⟩, hcode⟩) | ⟨h, hcode⟩) | ⟨h, hcode⟩) |
    ⟨h, hcode⟩) | ⟨⟨observation, hmem, h⟩, hcode⟩
  · -- unusable evidence
    exact Or.inl (Or.inl (Or.inl (Or.inl (Or.inl ⟨Or.inl h, hcode⟩))))
  · -- capture times
    exact Or.inl (Or.inl (Or.inl (Or.inl (Or.inr ⟨⟨step, mem_adjacent_append rest hstep, h⟩, hcode⟩))))
  · -- Kafka times
    refine Or.inl (Or.inl (Or.inl (Or.inr ⟨h.imp Or.inl ?_, hcode⟩)))
    simp only [List.any_eq_true]
    rintro ⟨pair, hpair, hout⟩
    exact ⟨pair, mem_adjacent_append _ hpair, hout⟩
  · -- identities
    exact Or.inl (Or.inl (Or.inr ⟨h.imp Or.inl
      (distinct_append_ne_one (by simpa using hne) _), hcode⟩))
  · -- partition sets
    exact Or.inl (Or.inr ⟨distinct_append_ne_one (by simpa using hne) _ h, hcode⟩)
  · -- arithmetic
    exact Or.inr ⟨⟨observation, Or.inl hmem, h⟩, hcode⟩

/-! ### The verdict

The state of a sequence is decided by its problems first and by its windows then, and both only
grow with the sequence. -/

/-- The condition is present when there is no problem and a window matches. -/
theorem coreSequenceResult_present {captures : List Capture} {base : ConditionResult} :
    (coreSequenceResult captures base).state = .present ↔
      sequenceProblems captures = [] ∧ matchedWindows (captures.map (·.observation)) ≠ [] := by
  by_cases hproblems : sequenceProblems captures = []
  · by_cases hmatched : matchedWindows (captures.map (·.observation)) = []
    · by_cases hbase : base.state = .absent <;>
        simp [coreSequenceResult, sequenceState, hproblems, hmatched, hbase]
    · simp [coreSequenceResult, sequenceState, hproblems, hmatched]
  · simp [coreSequenceResult, sequenceState, hproblems]

theorem coreSequenceResult_matched {captures : List Capture} {base : ConditionResult}
    (h : sequenceProblems captures = []) :
    (coreSequenceResult captures base).facts.matched_activation_windows =
      matchedWindows (captures.map (·.observation)) := by
  simp [coreSequenceResult, h]

/-- With a problem the condition is unknown, and the problems are the reasons. -/
theorem coreSequenceResult_problem {captures : List Capture} {base : ConditionResult}
    {problem : PyStr} (h : problem ∈ sequenceProblems captures) :
    (coreSequenceResult captures base).state = .unknown ∧
      problem ∈ (coreSequenceResult captures base).reason_codes := by
  have hne : sequenceProblems captures ≠ [] := List.ne_nil_of_mem h
  simp [coreSequenceResult, sequenceState, hne, h]

/-- A reason that is a problem comes from the captures. -/
theorem mem_sequenceProblems_of_reason {captures : List Capture} {base : ConditionResult}
    {problem : PyStr} (hlasting : problem ∈ lastingProblems)
    (h : problem ∈ (coreSequenceResult captures base).reason_codes) :
    problem ∈ sequenceProblems captures := by
  by_cases hproblems : sequenceProblems captures = []
  · -- the reasons of the other verdicts are no problems
    have hother : problem ∈ lastingProblems → problem ∉ [
        PyStr.ofString "CALIBRATED_THREE_CAPTURE_BACKLOG_ACTIVATION_OBSERVED",
        PyStr.ofString "LAG_RATE_ARITHMETIC_CONSISTENCY_CONFIRMED",
        PyStr.ofString "LATEST_FULL_WINDOW_BACKLOG_ZERO_WITHOUT_SEQUENCE_ACTIVATION",
        PyStr.ofString "CALIBRATED_BACKLOG_ACTIVATION_SEQUENCE_NOT_OBSERVED"] :=
      (by decide : ∀ code ∈ lastingProblems, code ∉ _) problem
    refine absurd ?_ (hother hlasting)
    simp only [coreSequenceResult, sequenceState, hproblems, ne_eq, not_true_eq_false,
      if_false, if_true] at h
    split_ifs at h <;> simp_all
  · simpa [coreSequenceResult, sequenceState, hproblems] using h

theorem mem_matchedWindows_append {first : List CaptureObservation}
    (rest : List CaptureObservation) {window : List Nat} (h : window ∈ matchedWindows first) :
    window ∈ matchedWindows (first ++ rest) := by
  obtain ⟨start, hstart, rfl⟩ := List.mem_map.mp h
  exact List.mem_map.mpr ⟨start, mem_matchingStarts_append rest hstart, rfl⟩

/-- More bundles never turn an activated sequence into an absent condition: they keep the
windows that matched, or bring a problem that makes the condition unknown. A problem of a
sequence, but for too few captures, stays a problem of every longer one.

The captures of the longer list begin with those of the shorter one (`capturesFrom_append`). A
window looks at three captures in a row only, so it is kept (`mem_matchedWindows_append`); each
lasting problem is about captures that are still there (`sequenceProblems_append`). -/
theorem sequence_verdict_stable (dec : DecimalArithmetic) (others : OtherEvaluator)
    (rt : OpsRuntime) (xs ys : List EvidenceBundle) {first whole : SequenceEvaluation}
    (hxs : evaluateBundleSequence dec others rt xs = .ok first)
    (hwhole : evaluateBundleSequence dec others rt (xs ++ ys) = .ok whole) :
    (first.core_backlog_pressure.state = .present →
        (whole.core_backlog_pressure.state = .present ∨
          whole.core_backlog_pressure.state = .unknown) ∧
        (whole.core_backlog_pressure.state = .present →
          ∀ window ∈ first.core_backlog_pressure.facts.matched_activation_windows,
            window ∈ whole.core_backlog_pressure.facts.matched_activation_windows)) ∧
      ∀ problem ∈ lastingProblems, problem ∈ first.core_backlog_pressure.reason_codes →
        whole.core_backlog_pressure.state = .unknown ∧
          problem ∈ whole.core_backlog_pressure.reason_codes := by
  obtain ⟨captures, latest, hne, hcaptures, -, rfl⟩ := evaluateBundleSequence_ok hxs
  obtain ⟨longer, latest', -, hlonger, -, rfl⟩ := evaluateBundleSequence_ok hwhole
  obtain ⟨_, rest, hfirst, rfl⟩ := capturesFrom_append hlonger
  -- the shorter list has one reading, which the longer one starts with
  obtain rfl := Except.ok.inj (hcaptures.symm.trans hfirst)
  simp only [sequenceEvaluation]
  refine ⟨fun hpresent => ?_, fun problem hlasting hreason => ?_⟩
  · obtain ⟨hproblems, hmatched⟩ := coreSequenceResult_present.mp hpresent
    obtain ⟨window, hwindow⟩ := List.exists_mem_of_ne_nil _ hmatched
    have hkept : ∀ window ∈ matchedWindows (captures.map (·.observation)),
        window ∈ matchedWindows ((captures ++ rest).map (·.observation)) := by
      intro window hwindow
      rw [List.map_append]
      exact mem_matchedWindows_append _ hwindow
    refine ⟨?_, fun hwhole window hwindow => ?_⟩
    · -- either the longer list is in order too, and present with the windows, or it is unknown
      by_cases hlater : sequenceProblems (captures ++ rest) = []
      · exact Or.inl (coreSequenceResult_present.mpr
          ⟨hlater, List.ne_nil_of_mem (hkept window hwindow)⟩)
      · obtain ⟨problem, hproblem⟩ := List.exists_mem_of_ne_nil _ hlater
        exact Or.inr (coreSequenceResult_problem hproblem).1
    · rw [coreSequenceResult_matched hproblems] at hwindow
      rw [coreSequenceResult_matched (coreSequenceResult_present.mp hwhole).1]
      exact hkept window hwindow
  · exact coreSequenceResult_problem (sequenceProblems_append (capturesFrom_ne_nil hne hcaptures)
      rest hlasting (mem_sequenceProblems_of_reason hlasting hreason))

/-! ### A sample sequence -/

/-- Three bundles of a backlog that grows. -/
def growingBacklogs : List EvidenceBundle :=
  [backlogBundle 100 8000, backlogBundle 200 9000, backlogBundle 300 10000]

/-- A bundle in scope without evidence. -/
def silentBundle : EvidenceBundle := { backlogBundle 400 11000 with evidence := [] }

/-- The evaluation of the bundles activates. -/
def activates (bundles : List EvidenceBundle) : Bool :=
  match evaluateBundleSequence exactDecimal calmConditions backlogRuntime bundles with
  | .ok evaluation => evaluation.core_backlog_pressure.state = .present
  | .error _ => false

theorem exists_activation {bundles : List EvidenceBundle} (h : activates bundles = true) :
    ∃ evaluation, evaluateBundleSequence exactDecimal calmConditions backlogRuntime bundles =
      .ok evaluation ∧ evaluation.core_backlog_pressure.state = .present := by
  unfold activates at h
  split at h
  · rename_i evaluation hevaluation
    exact ⟨evaluation, hevaluation, of_decide_eq_true h⟩
  · simp at h

theorem activates_growingBacklogs : activates growingBacklogs = true := by decide +kernel

/-- The silent bundle is captured after the three, with an evaluation. -/
def silentCaptured : Bool :=
  match capturesFrom exactDecimal calmConditions backlogRuntime 3 [silentBundle] with
  | .ok [c] => c.single_evaluation.isSome
  | _ => false

/-- An activated sequence to which a bundle without evidence is added. -/
theorem sequence_verdict_stable_sample : ∃ first whole,
    evaluateBundleSequence exactDecimal calmConditions backlogRuntime growingBacklogs = .ok first ∧
      evaluateBundleSequence exactDecimal calmConditions backlogRuntime
        (growingBacklogs ++ [silentBundle]) = .ok whole ∧
      first.core_backlog_pressure.state = .present ∧
      (whole.core_backlog_pressure.state = .present ∨
        whole.core_backlog_pressure.state = .unknown) := by
  obtain ⟨first, hfirst, hpresent⟩ := exists_activation activates_growingBacklogs
  obtain ⟨captures, latest, -, hcaptures, -, rfl⟩ := evaluateBundleSequence_ok hfirst
  obtain ⟨c, hc, last, hlast⟩ : ∃ c, capturesFrom exactDecimal calmConditions backlogRuntime 3
      [silentBundle] = .ok [c] ∧ ∃ last, c.single_evaluation = some last := by
    have hcaptured : silentCaptured = true := by decide +kernel
    unfold silentCaptured at hcaptured
    split at hcaptured
    · rename_i c hc
      exact ⟨c, hc, Option.isSome_iff_exists.mp hcaptured⟩
    · simp at hcaptured
  have hwhole : evaluateBundleSequence exactDecimal calmConditions backlogRuntime
      (growingBacklogs ++ [silentBundle]) = .ok (sequenceEvaluation (captures ++ [c]) last) := by
    have happend := capturesFrom_append_ok hcaptures hc
    simp only [evaluateBundleSequence, happend, OpsAgent.bind_ok, ensure_eq_ok, exists_const,
      Except.ok.injEq, exists_eq_left']
    refine ⟨by decide, by decide, ?_⟩
    simp [List.filterMap_append, hlast, pure, Except.pure]
  exact ⟨_, _, hfirst, hwhole, hpresent,
    ((sequence_verdict_stable _ _ _ _ _ hfirst hwhole).1 hpresent).1⟩

end EventPipeline.Guarantees
