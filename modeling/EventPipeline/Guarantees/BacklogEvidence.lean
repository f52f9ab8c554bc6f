import EventPipeline.OpsAgent.SequenceEvaluator
import EventPipeline.Sequences.Associations

/-!
# EventPipeline.Guarantees.BacklogEvidence

What a bundle looks like to which the evaluator has no objection.

Decimals are exact numbers here. `CleanFamily` is what the checks of one family leave:
one item for each of the eight partitions, with a series of thirteen integral samples over
sixty seconds. `CleanBacklog` adds what holds across the three families. The two
measurements of the bundle are computed from it.
-/

namespace EventPipeline.Guarantees

open EventPipeline.Python EventPipeline.OpsAgent EventPipeline.OpsAgent.Evaluator
open EventPipeline.Sequences

/-! ### Samples

A sample without a finding has a finite value that the rules of its metric allow. With no finding
at all, reading the samples gives back their values. -/

theorem readSample_ok {rt : OpsRuntime} {sample : Json} {read : ℚ × ℚ}
    (h : readSample rt sample = .ok read) :
    sampleDecimal rt "timestamp" sample = some read.1 ∧
      sampleDecimal rt "value" sample = some read.2 := by
  cases sample with
  | obj kvs =>
      simp only [readSample] at h
      cases htimestamp : Dict.get? kvs "timestamp" with
      | none => simp [htimestamp] at h
      | some timestamp =>
          cases hvalue : Dict.get? kvs "value" with
          | none => simp [htimestamp, hvalue] at h
          | some value =>
              simp only [htimestamp, hvalue] at h
              split at h
              · rename_i t v ht hv
                obtain rfl := Except.ok.inj h
                simp [sampleDecimal, htimestamp, hvalue, ht, hv]
              · simp at h
              · simp at h
  | null => simp [readSample] at h
  | bool b => simp [readSample] at h
  | int z => simp [readSample] at h
  | float f => simp [readSample] at h
  | str s => simp [readSample] at h
  | arr xs => simp [readSample] at h

theorem valueFindings_eq_nil {committed_offsets : Bool} {sample_index : Nat} {value : ℚ}
    (h : valueFindings committed_offsets sample_index value = []) :
    value.den = 1 ∧ 0 ≤ value := by
  simp only [valueFindings, List.append_eq_nil_iff, findingIf_eq_nil, ne_eq, not_not] at h
  refine ⟨h.1, ?_⟩
  have hsign := h.2
  split_ifs at hsign
  exact not_lt.mp (findingIf_eq_nil.mp hsign)

/-- The samples that are read are the decimals of the two fields. -/
theorem readSamples_clean {rt : OpsRuntime} {committed_offsets : Bool} {sample_index : Nat}
    {samples : List Json} {read : List (ℚ × ℚ)}
    (h : readSamples rt committed_offsets sample_index samples = (some read, [])) :
    samples.mapM (sampleDecimal rt "timestamp") = some (read.map (·.1)) ∧
      samples.mapM (sampleDecimal rt "value") = some (read.map (·.2)) ∧
      ∀ value ∈ read.map (·.2), value.den = 1 ∧ 0 ≤ value := by
  induction samples generalizing sample_index read with
  | nil =>
      obtain rfl : [] = read := by simpa [readSamples] using h
      simp
  | cons sample samples ih =>
      rw [readSamples] at h
      cases hsample : readSample rt sample with
      | error code => simp [hsample] at h
      | ok first =>
          obtain ⟨htimestamp, hvalue⟩ := readSample_ok hsample
          cases hrest : readSamples rt committed_offsets (sample_index + 1) samples with
          | mk rest findings =>
              simp only [hsample, hrest, Prod.mk.injEq, Option.map_eq_some_iff,
                List.append_eq_nil_iff] at h
              obtain ⟨⟨rest, rfl, rfl⟩, hfindings, rfl⟩ := h
              obtain ⟨htimestamps, hvalues, hall⟩ := ih hrest
              refine ⟨by simp [htimestamp, htimestamps], by simp [hvalue, hvalues], ?_⟩
              rw [List.map_cons, List.forall_mem_cons]
              exact ⟨valueFindings_eq_nil hfindings, hall⟩

/-- A sample that cannot be read leaves a finding. -/
theorem readSamples_none {rt : OpsRuntime} {committed_offsets : Bool} {sample_index : Nat}
    {samples : List Json} {findings : List Finding}
    (h : readSamples rt committed_offsets sample_index samples = (none, findings)) :
    findings ≠ [] := by
  induction samples generalizing sample_index findings with
  | nil => simp [readSamples] at h
  | cons sample samples ih =>
      rw [readSamples] at h
      cases hsample : readSample rt sample with
      | error code =>
          simp only [hsample, Prod.mk.injEq, true_and] at h
          simp [← h]
      | ok first =>
          cases hrest : readSamples rt committed_offsets (sample_index + 1) samples with
          | mk rest later =>
              simp only [hsample, hrest, Prod.mk.injEq, Option.map_eq_none_iff] at h
              obtain ⟨rfl, rfl⟩ := h
              simp [ih hrest]

/-! ### Series -/

/-- A series the evaluator has no objection to: the item is `OK` and fresh, and its samples are
the expected number of whole, nonnegative values over the whole range window. `parsed` holds what
was read of the samples. -/
structure CleanSeries (rt : OpsRuntime) (item : EvidenceItem) (parsed : Series) : Prop where
  ok : item.status = .ok
  fresh : item.freshness.status = .fresh
  samples : ∃ samples, item.metric.value = .arr samples ∧ samples.length = expectedSampleCount ∧
    samples.mapM (sampleDecimal rt "timestamp") = some parsed.timestamps ∧
    samples.mapM (sampleDecimal rt "value") = some parsed.values
  window : spread parsed.timestamps = rangeWindowSeconds
  integral : ∀ value ∈ parsed.values, value.den = 1
  nonneg : ∀ value ∈ parsed.values, 0 ≤ value

theorem length_of_mapM {α β : Type} {f : α → Option β} {xs : List α} {ys : List β}
    (h : xs.mapM f = some ys) : ys.length = xs.length := by
  induction xs generalizing ys with
  | nil =>
      obtain rfl : [] = ys := by simpa using h
      rfl
  | cons x xs ih =>
      rw [List.mapM_cons] at h
      cases hx : f x with
      | none => simp [hx] at h
      | some y =>
          cases hxs : xs.mapM f with
          | none => simp [hx, hxs] at h
          | some rest =>
              obtain rfl : y :: rest = ys := by simpa [hx, hxs] using h
              rw [List.length_cons, List.length_cons, ih hxs]

namespace CleanSeries

variable {rt : OpsRuntime} {item : EvidenceItem} {parsed : Series}

theorem timestamps_length (h : CleanSeries rt item parsed) :
    parsed.timestamps.length = expectedSampleCount := by
  obtain ⟨samples, -, hlen, htimestamps, -⟩ := h.samples
  rw [length_of_mapM htimestamps, hlen]

theorem values_length (h : CleanSeries rt item parsed) :
    parsed.values.length = expectedSampleCount := by
  obtain ⟨samples, -, hlen, -, hvalues⟩ := h.samples
  rw [length_of_mapM hvalues, hlen]

theorem timestamps_ne_nil (h : CleanSeries rt item parsed) : parsed.timestamps ≠ [] :=
  List.ne_nil_of_length_pos (by rw [h.timestamps_length]; decide)

theorem values_ne_nil (h : CleanSeries rt item parsed) : parsed.values ≠ [] :=
  List.ne_nil_of_length_pos (by rw [h.values_length]; decide)

theorem decimals_value (h : CleanSeries rt item parsed) :
    SequenceEvaluator.decimalsOf rt "value" item = some parsed.values := by
  obtain ⟨samples, hvalue, -, -, hvalues⟩ := h.samples
  simp only [SequenceEvaluator.decimalsOf, hvalue, hvalues]

theorem decimals_timestamp (h : CleanSeries rt item parsed) :
    SequenceEvaluator.decimalsOf rt "timestamp" item = some parsed.timestamps := by
  obtain ⟨samples, hvalue, -, htimestamps, -⟩ := h.samples
  simp only [SequenceEvaluator.decimalsOf, hvalue, htimestamps]

/-- The summary reads the same series: 13 samples over the whole window are more than the two it
asks for. -/
theorem series_eq (h : CleanSeries rt item parsed) : series rt item = some parsed := by
  obtain ⟨samples, hvalue, -, htimestamps, hvalues⟩ := h.samples
  have hlen : 2 ≤ parsed.timestamps.length := by
    rw [h.timestamps_length]
    decide
  have hspan : parsed.timestamps.headD 0 < parsed.timestamps.getLastD 0 := by
    have hwindow := h.window
    rw [spread, rangeWindowSeconds] at hwindow
    linarith
  simp only [series, h.ok, h.fresh, hvalue, htimestamps, hvalues, and_self, if_true,
    Option.bind_eq_bind, Option.bind_some]
  rw [if_pos ⟨hlen, hspan⟩]

end CleanSeries

/-- The last value of a series, as it is read and as it is written with a default. -/
theorem getLast?_eq_getLastD {values : List ℚ} (h : values ≠ []) :
    values.getLast? = some (values.getLastD 0) := by
  rw [List.getLast?_eq_some_getLast h, List.getLastD_eq_getLast?,
    List.getLast?_eq_some_getLast h, Option.getD_some]

theorem observedFindings_clean {spec : DependencySpec} {item : EvidenceItem}
    (h : observedFindings spec item = []) :
    item.status = .ok ∧ item.freshness.status = .fresh := by
  simp only [observedFindings, List.append_eq_nil_iff, requirementFinding_eq_nil, ne_eq,
    not_not] at h
  obtain ⟨⟨hstatus, hstale⟩, hfresh⟩ := h.1.1.1.1.1.1.1.1.1.1.1.1.1
  refine ⟨hstatus, ?_⟩
  by_contra hne
  exact hfresh ⟨hstale, hne⟩

theorem seriesFindings_clean {rt : OpsRuntime} {bundle : EvidenceBundle} {item : EvidenceItem}
    {require_monotonic : Bool} {parsed : Series}
    (h : seriesFindings exactDecimal rt bundle item require_monotonic parsed = .ok []) :
    spread parsed.timestamps = rangeWindowSeconds ∧
      (require_monotonic = true → decreases parsed.values = false) := by
  simp only [seriesFindings, exactDecimal_eq, OpsAgent.bind_ok, OpsAgent.pure_ok, Except.ok.injEq,
    exists_eq_left', List.append_eq_nil_iff, findingIf_eq_nil, ne_eq, not_not, not_and,
    Bool.not_eq_true] at h
  obtain ⟨-, -, -, -, -, -, ⟨⟨⟨⟨-, hwindow⟩, -⟩, -⟩, -⟩, hmonotonic⟩ := h
  exact ⟨hwindow, hmonotonic⟩

/-- A series with no finding about it. -/
theorem parsePartitionSeries_clean {rt : OpsRuntime} {bundle : EvidenceBundle}
    {item : EvidenceItem} {committed_offsets require_monotonic : Bool}
    {result : Option Series}
    (h : parsePartitionSeries exactDecimal rt bundle item committed_offsets require_monotonic =
      .ok (result, []))
    (hok : item.status = .ok) (hfresh : item.freshness.status = .fresh) :
    ∃ parsed, result = some parsed ∧ CleanSeries rt item parsed ∧
      (require_monotonic = true → decreases parsed.values = false) := by
  unfold parsePartitionSeries at h
  split at h
  · rename_i samples hvalue
    split_ifs at h with hcount
    · cases hread : readSamples rt committed_offsets 0 samples with
      | mk read findings =>
          cases read with
          | none =>
              simp only [hread, OpsAgent.pure_ok, Prod.mk.injEq] at h
              exact absurd h.2 (readSamples_none hread)
          | some read =>
              simp only [hread, OpsAgent.bind_ok, OpsAgent.pure_ok, Prod.mk.injEq,
                List.append_eq_nil_iff] at h
              obtain ⟨series_findings, hfindings, rfl, rfl, rfl⟩ := h
              obtain ⟨hwindow, hmonotonic⟩ := seriesFindings_clean hfindings
              obtain ⟨htimestamps, hvalues, hall⟩ := readSamples_clean hread
              exact ⟨_, rfl, ⟨hok, hfresh, ⟨samples, hvalue, hcount.1, htimestamps, hvalues⟩,
                hwindow, fun value hvalue => (hall value hvalue).1,
                fun value hvalue => (hall value hvalue).2⟩, hmonotonic⟩
    · simp [pure, Except.pure] at h
  · simp [pure, Except.pure] at h

/-! ### Families

A family is the items of one metric, read as series. Where that leaves no issue, its labels are
the partitions of the topic, each once, and every series of it is clean. -/

/-- A family of series by partition. -/
abbrev Family := List (PyStr × EvidenceItem × Series)

/-- A family the evaluator has no objection to: its entries are exactly the items of the metric in
the bundle, one for each of the topic's partitions and under the label of that partition, and
every series is clean. -/
structure CleanFamily (rt : OpsRuntime) (bundle : EvidenceBundle) (metric_name : PyStr)
    (family : Family) : Prop where
  items : (family.map (·.2.1)).Perm (bundle.items metric_name)
  partitions : (family.map (·.1)).Perm topicPartitions
  label : ∀ entry ∈ family, entry.2.1.label "partition" = some entry.1
  clean : ∀ entry ∈ family, CleanSeries rt entry.2.1 entry.2.2

/-- A series of a family that is read without a finding satisfies `Read`. -/
def Reads (dec : DecimalArithmetic) (rt : OpsRuntime) (bundle : EvidenceBundle)
    (committed_offsets require_monotonic : Bool) (Read : EvidenceItem → Series → Prop) : Prop :=
  ∀ item result, item.status = .ok → item.freshness.status = .fresh →
    parsePartitionSeries dec rt bundle item committed_offsets require_monotonic =
      .ok (result, []) → ∃ parsed, result = some parsed ∧ Read item parsed

/-- The loop over the items keeps all of them. -/
theorem partitionItems_clean {dec : DecimalArithmetic} {rt : OpsRuntime} {bundle : EvidenceBundle}
    {require_consumer_group committed_offsets require_monotonic : Bool}
    {Read : EvidenceItem → Series → Prop}
    (hreads : Reads dec rt bundle committed_offsets require_monotonic Read)
    {items : List EvidenceItem} {entries : List PartitionSeries}
    (h : partitionItems dec rt bundle require_consumer_group committed_offsets
      require_monotonic items = .ok (entries, []))
    (hall : ∀ item ∈ items, item.status = .ok ∧ item.freshness.status = .fresh) :
    entries.map (·.item) = items ∧ ∀ entry ∈ entries,
      entry.item.label "partition" = some entry.partition ∧
      labelFindings bundle require_consumer_group entry.partition entry.item = [] ∧
      ∃ parsed, entry.parsed = some parsed ∧ Read entry.item parsed := by
  induction items generalizing entries with
  | nil =>
      obtain rfl : [] = entries := by simpa [partitionItems, pure, Except.pure] using h
      simp
  | cons item items ih =>
      obtain ⟨hok, hfresh⟩ := hall item List.mem_cons_self
      rw [partitionItems, if_pos hok] at h
      cases hlabel : item.label "partition" with
      | none =>
          simp only [hlabel, OpsAgent.bind_ok, OpsAgent.pure_ok, Prod.mk.injEq] at h
          -- an item without a partition would have left an issue
          obtain ⟨rest, -, -, hissues⟩ := h
          simp [itemIssues] at hissues
      | some partition =>
          simp only [hlabel, OpsAgent.bind_ok, OpsAgent.pure_ok, Prod.mk.injEq,
            List.append_eq_nil_iff, itemIssues_eq_nil] at h
          obtain ⟨⟨parsed, findings⟩, hparse, ⟨rest, issues⟩, hrest, rfl, ⟨hlabels, rfl⟩, rfl⟩ := h
          obtain ⟨series, rfl, hread⟩ := hreads item parsed hok hfresh hparse
          obtain ⟨hitems, hentries⟩ := ih hrest fun item hitem =>
            hall item (List.mem_cons_of_mem _ hitem)
          refine ⟨by rw [List.map_cons, hitems], List.forall_mem_cons.mpr ⟨?_, hentries⟩⟩
          exact ⟨hlabel, hlabels, series, rfl, hread⟩

theorem sameSet_iff {left right : List PyStr} :
    sameSet left right = true ↔ ∀ value, value ∈ left ↔ value ∈ right := by
  simp only [sameSet, Bool.and_eq_true, List.all_eq_true, decide_eq_true_eq]
  exact ⟨fun h value => ⟨h.1 value, h.2 value⟩,
    fun h => ⟨fun value => (h value).mp, fun value => (h value).mpr⟩⟩

theorem labelFindings_clean {bundle : EvidenceBundle} {require_consumer_group : Bool}
    {partition : PyStr} {item : EvidenceItem}
    (h : labelFindings bundle require_consumer_group partition item = []) :
    item.coverage.expected_items ≠ [] ∧
      ∀ value, value ∈ item.coverage.expected_items ↔ value ∈ topicPartitions := by
  simp only [labelFindings, List.append_eq_nil_iff, findingIf_eq_nil, not_or,
    Bool.not_eq_false] at h
  exact ⟨h.1.2, sameSet_iff.mp h.2.2.2.1⟩

/-- No partition is there more than once. -/
theorem duplicatePartitions_eq_nil {entries : List PartitionSeries}
    (h : duplicatePartitions entries = []) : (entries.map (·.partition)).Nodup := by
  rw [List.nodup_iff_count_le_one]
  intro partition
  by_contra hcount
  have hmem : partition ∈ duplicatePartitions entries := by
    rw [duplicatePartitions, mem_sortedSet, List.mem_filter]
    exact ⟨List.count_pos_iff.mp (by omega), by simpa using hcount⟩
  rw [h] at hmem
  exact absurd hmem List.not_mem_nil

/-- The partitions of a family without a finding are the expected ones. -/
theorem familyFindings_clean {rt : OpsRuntime} {entries : List PartitionSeries}
    (h : familyFindings rt entries = []) (hne : entries ≠ [])
    (hexpected : ∀ entry ∈ entries, entry.item.coverage.expected_items ≠ [] ∧
      ∀ value, value ∈ entry.item.coverage.expected_items ↔ value ∈ topicPartitions) :
    (entries.map (·.partition)).Perm topicPartitions := by
  simp only [familyFindings, List.append_eq_nil_iff, findingIf_eq_nil, ne_eq, not_not, not_lt] at h
  obtain ⟨⟨⟨⟨⟨⟨⟨hduplicates, -⟩, -⟩, -⟩, -⟩, hone⟩, hcoverage⟩, -⟩ := h
  have hnodup := duplicatePartitions_eq_nil hduplicates
  -- every item expects the eight partitions, so there is one expectation
  obtain ⟨entry, hentry⟩ := List.exists_mem_of_ne_nil entries hne
  have hmem : ∀ expected ∈ expectedSets entries, ∀ value,
      value ∈ expected ↔ value ∈ topicPartitions := by
    intro expected hexpect value
    obtain ⟨items, hitems, rfl⟩ := List.mem_map.mp hexpect
    obtain ⟨other, hother, rfl⟩ := List.mem_map.mp (List.mem_of_mem_filter hitems)
    rw [List.mem_insertionSort]
    exact (hexpected other hother).2 value
  have hsets : expectedSets entries ≠ [] := by
    refine List.ne_nil_of_mem (List.mem_map_of_mem (List.mem_filter.mpr
      ⟨List.mem_map_of_mem hentry, ?_⟩))
    simpa using (hexpected entry hentry).1
  obtain ⟨expected, hdedup⟩ : ∃ expected, (expectedSets entries).dedup = [expected] := by
    refine List.length_eq_one_iff.mp (le_antisymm hone ?_)
    rw [Nat.one_le_iff_ne_zero, ne_eq, List.length_eq_zero_iff, List.dedup_eq_nil]
    exact hsets
  have hin : expected ∈ expectedSets entries := by
    rw [← List.mem_dedup, hdedup]
    exact List.mem_singleton_self expected
  have hsame : ∀ value, value ∈ expected ↔ value ∈ entries.map (·.partition) := by
    simp only [coverageFindings, hdedup, findingIf_eq_nil, Bool.not_eq_false] at hcoverage
    exact sameSet_iff.mp hcoverage
  rw [List.perm_ext_iff_of_nodup hnodup (by decide)]
  exact fun value => (hsame value).symm.trans (hmem expected hin value)

/-- An observation of a required dependency without an issue has items, and no finding about
any of them. -/
theorem observeDependency_clean {spec : DependencySpec} {bundle : EvidenceBundle}
    (h : (observeDependency spec bundle).issues = []) :
    dependencyItems spec bundle ≠ [] ∧
      ∀ item ∈ dependencyItems spec bundle, observedFindings spec item = [] := by
  simp only [observeDependency, ObservedDependency.addIssues, addNew_eq_nil, true_and] at h
  split_ifs at h with hne
  · simp [familyIssues, requirementFinding] at h
  · refine ⟨hne, fun item hitem => ?_⟩
    rw [List.append_eq_nil_iff, List.flatMap_eq_nil_iff] at h
    exact itemIssues_eq_nil.mp (h.2 item hitem)

theorem seriesByPartition_eq {Read : EvidenceItem → Series → Prop} {entries : List PartitionSeries}
    (hnodup : (entries.map (·.partition)).Nodup)
    (hparsed : ∀ entry ∈ entries, ∃ parsed, entry.parsed = some parsed ∧ Read entry.item parsed) :
    seriesByPartition entries =
      entries.map fun entry => (entry.partition, entry.item, entry.parsed.getD ⟨[], []⟩) := by
  refine foldl_fresh (fun result entry hentry hnew => ?_) hnodup
  obtain ⟨parsed, hsome, -⟩ := hparsed entry hentry
  simp only [hsome, Option.getD_some] at hnew ⊢
  rw [hnew]
  rfl

/-- A family with one series of each partition, read as `Read` says, on one grid. -/
structure ReadFamily (bundle : EvidenceBundle) (metric_name : PyStr)
    (Read : EvidenceItem → Series → Prop) (family : Family) : Prop where
  items : (family.map (·.2.1)).Perm (bundle.items metric_name)
  partitions : (family.map (·.1)).Perm topicPartitions
  label : ∀ entry ∈ family, entry.2.1.label "partition" = some entry.1
  read : ∀ entry ∈ family, Read entry.2.1 entry.2.2
  grid : ∀ a ∈ family, ∀ b ∈ family, a.2.2.timestamps = b.2.2.timestamps

/-- What the checks of one family leave. An empty list of issues means that each of the three
checks found nothing: the observation, the reading of every item and the comparison of the labels
and the grids. -/
theorem partitionValues_read {dec : DecimalArithmetic} {rt : OpsRuntime} {bundle : EvidenceBundle}
    {spec : DependencySpec} {metric_name : PyStr} (hspec : spec.metric_names = [metric_name])
    {require_consumer_group committed_offsets require_monotonic : Bool}
    {Read : EvidenceItem → Series → Prop}
    (hreads : Reads dec rt bundle committed_offsets require_monotonic Read)
    {family : Family} {observation : ObservedDependency}
    (h : partitionValues dec rt bundle (observeDependency spec bundle) require_consumer_group
      committed_offsets require_monotonic = .ok (family, observation))
    (hissues : observation.issues = []) : ReadFamily bundle metric_name Read family := by
  simp only [partitionValues, OpsAgent.bind_ok, OpsAgent.pure_ok, Prod.mk.injEq] at h
  obtain ⟨⟨entries, issues⟩, hitems, rfl, rfl⟩ := h
  simp only [ObservedDependency.addIssues, addNew_eq_nil, List.append_eq_nil_iff,
    familyIssues_eq_nil] at hissues
  -- no issue: none of the observation, none of an item, none of the family
  obtain ⟨hobserved, rfl, hfindings⟩ := hissues
  obtain ⟨hne, hall⟩ := observeDependency_clean hobserved
  obtain ⟨hmap, hentries⟩ := partitionItems_clean hreads hitems fun item hitem =>
    observedFindings_clean (hall item hitem)
  have hentries_ne : entries ≠ [] := by
    rintro rfl
    exact hne hmap.symm
  have hparsed : ∀ entry ∈ entries, ∃ parsed, entry.parsed = some parsed ∧
      Read entry.item parsed := fun entry hentry => (hentries entry hentry).2.2
  have hperm := familyFindings_clean hfindings hentries_ne fun entry hentry =>
    labelFindings_clean (hentries entry hentry).2.1
  have hseries := seriesByPartition_eq (hperm.nodup_iff.mpr (by decide)) hparsed
  have hgrid : distinct ((seriesByPartition entries).map (·.2.2.timestamps)) = 1 := by
    simp only [familyFindings, List.append_eq_nil_iff, findingIf_eq_nil, ne_eq,
      not_not] at hfindings
    exact hfindings.2
  rw [hseries] at hgrid ⊢
  refine ⟨?_, ?_, ?_, ?_, ?_⟩
  · -- the items, in the order of the evidence ids
    rw [List.map_map]
    have hsorted : (dependencyItems spec bundle).Perm (bundle.items metric_name) := by
      refine (List.perm_insertionSort _ _).trans ?_
      rw [hspec, List.flatMap_singleton]
    exact (List.Perm.of_eq hmap).trans hsorted
  · rw [List.map_map]
    exact hperm
  · rintro _ hmem
    obtain ⟨entry, hentry, rfl⟩ := List.mem_map.mp hmem
    exact (hentries entry hentry).1
  · rintro _ hmem
    obtain ⟨entry, hentry, rfl⟩ := List.mem_map.mp hmem
    obtain ⟨parsed, hsome, hread⟩ := hparsed entry hentry
    simpa only [hsome, Option.getD_some] using hread
  · intro a ha b hb
    exact (distinct_eq_one.mp hgrid).2 _ (List.mem_map_of_mem ha) _ (List.mem_map_of_mem hb)

/-- With exact decimals the family is clean: `partitionValues_read`, where what is read of an item
is a clean series. -/
theorem partitionValues_clean {rt : OpsRuntime} {bundle : EvidenceBundle}
    {name metric_name semantic_type : PyStr}
    {require_consumer_group committed_offsets require_monotonic : Bool} {family : Family}
    {observation : ObservedDependency}
    (h : partitionValues exactDecimal rt bundle
      (observeDependency (kafkaFamily name metric_name semantic_type) bundle)
      require_consumer_group committed_offsets require_monotonic = .ok (family, observation))
    (hissues : observation.issues = []) :
    CleanFamily rt bundle metric_name family ∧
      (require_monotonic = true → ∀ entry ∈ family, decreases entry.2.2.values = false) := by
  have hreads : Reads exactDecimal rt bundle committed_offsets require_monotonic
      fun item parsed => CleanSeries rt item parsed ∧
        (require_monotonic = true → decreases parsed.values = false) :=
    fun item result hok hfresh hparse => parsePartitionSeries_clean hparse hok hfresh
  have hread := partitionValues_read rfl hreads h hissues
  exact ⟨⟨hread.items, hread.partitions, hread.label, fun entry hentry =>
    (hread.read entry hentry).1⟩, fun hmonotonic entry hentry =>
      (hread.read entry hentry).2 hmonotonic⟩

/-! ### Across the families

The three families are compared point by point: at every sample the lag is the end offset less the
committed one. Where no comparison finds an issue, the numbers can be used without looking at the
evaluator again. -/

theorem lagMismatches_clean {partition : PyStr} {sample_index : Nat}
    {ends committed lag : List ℚ}
    (h : lagMismatches exactDecimal partition sample_index ends committed lag = .ok [])
    (hcommitted : ∀ value ∈ committed, 0 ≤ value) (hends : ends.length = lag.length)
    (hlen : committed.length = lag.length) : lag = List.zipWith (· - ·) ends committed := by
  induction lag generalizing sample_index ends committed with
  | nil =>
      obtain rfl := List.length_eq_zero_iff.mp hends
      rfl
  | cons l lag ih =>
      cases ends with
      | nil => simp at hends
      | cons e ends =>
          cases committed with
          | nil => simp at hlen
          | cons c committed =>
              have hc : c ≠ -1 := by
                have := hcommitted c List.mem_cons_self
                rintro rfl
                norm_num at this
              rw [lagMismatches, if_neg hc] at h
              simp only [exactDecimal_eq, OpsAgent.bind_ok, OpsAgent.pure_ok, Except.ok.injEq,
                exists_eq_left', List.append_eq_nil_iff, findingIf_eq_nil, ne_eq, not_not] at h
              obtain ⟨rest, hrest, hl, rfl⟩ := h
              rw [List.zipWith_cons_cons, hl, ← ih hrest
                (fun value hvalue => hcommitted value (List.mem_cons_of_mem c hvalue))
                (by simpa using hends) (by simpa using hlen)]

/-- The series of a partition agree across the families: they are sampled at the same times, and
the lag is the end offset less the committed one, sample by sample. -/
structure Consistent (ends committed lag : Series) : Prop where
  committed_grid : ends.timestamps = committed.timestamps
  lag_grid : committed.timestamps = lag.timestamps
  difference : lag.values = List.zipWith (· - ·) ends.values committed.values

/-- A bundle the evaluator has no objection to, with its three families. Each family is clean by
itself, the offsets never decrease, and the three series of a partition are consistent. -/
structure CleanBacklog (rt : OpsRuntime) (bundle : EvidenceBundle)
    (ends committed lag : Family) : Prop where
  end_offsets : CleanFamily rt bundle "kafka_topic_partition_current_offset" ends
  committed_offsets : CleanFamily rt bundle "kafka_consumergroup_current_offset" committed
  partition_lag : CleanFamily rt bundle "kafka_consumergroup_lag" lag
  ends_grow : ∀ entry ∈ ends, decreases entry.2.2.values = false
  committed_grow : ∀ entry ∈ committed, decreases entry.2.2.values = false
  consistent : ∀ partition e c l, ends.lookup partition = some e →
    committed.lookup partition = some c → lag.lookup partition = some l → Consistent e.2 c.2 l.2

theorem arithmeticIssues_clean {dec : DecimalArithmetic} {ends committed lag : Family}
    {partitions : List PyStr} (h : arithmeticIssues dec ends committed lag partitions = .ok []) :
    ∀ partition ∈ partitions, ∀ e c l, ends.lookup partition = some e →
      committed.lookup partition = some c → lag.lookup partition = some l →
      e.2.timestamps = c.2.timestamps ∧ c.2.timestamps = l.2.timestamps ∧
        lagMismatches dec partition 0 e.2.values c.2.values l.2.values = .ok [] := by
  induction partitions with
  | nil => simp
  | cons first partitions ih =>
      rw [arithmeticIssues] at h
      split at h
      · rename_i end_item end_series committed_item committed_series lag_item lag_series he hc hl
        split_ifs at h with hgrid
        · simp only [OpsAgent.bind_ok, OpsAgent.pure_ok, List.append_eq_nil_iff,
            itemIssues_eq_nil] at h
          obtain ⟨findings, hfindings, rest, hrest, rfl, rfl⟩ := h
          refine List.forall_mem_cons.mpr ⟨fun e c l he' hc' hl' => ?_, ih hrest⟩
          obtain rfl := Option.some.inj (he.symm.trans he')
          obtain rfl := Option.some.inj (hc.symm.trans hc')
          obtain rfl := Option.some.inj (hl.symm.trans hl')
          exact ⟨hgrid.1, hgrid.2, hfindings⟩
        · simp only [OpsAgent.bind_ok, OpsAgent.pure_ok, List.append_eq_nil_iff,
            itemIssues_eq_nil, Except.ok.injEq, exists_eq_left'] at h
          obtain ⟨rest, -, hfinding, -⟩ := h
          simp at hfinding
      · simp at h

/-- Families with the same partitions have no finding about a partition. -/
theorem crossIssues_arithmetic {dec : DecimalArithmetic} {rt : OpsRuntime}
    {ends committed lag : Family} (h : crossIssues dec rt ends committed lag = .ok ([], []))
    (hends : (ends.map (·.1)).Perm topicPartitions)
    (hcommitted : (committed.map (·.1)).Perm topicPartitions)
    (hlag : (lag.map (·.1)).Perm topicPartitions) :
    ∀ partition e c l, ends.lookup partition = some e → committed.lookup partition = some c →
      lag.lookup partition = some l →
      e.2.timestamps = c.2.timestamps ∧ c.2.timestamps = l.2.timestamps ∧
        lagMismatches dec partition 0 e.2.values c.2.values l.2.values = .ok [] := by
  have hsame : (sameSet (ends.map (·.1)) (committed.map (·.1)) &&
      sameSet (committed.map (·.1)) (lag.map (·.1))) = true := by
    rw [Bool.and_eq_true, sameSet_iff, sameSet_iff]
    exact ⟨fun p => (hends.trans hcommitted.symm).mem_iff,
      fun p => (hcommitted.trans hlag.symm).mem_iff⟩
  simp only [crossIssues, hsame, if_true, OpsAgent.bind_ok, OpsAgent.pure_ok, Prod.mk.injEq] at h
  obtain ⟨issues, hissues, -, rfl⟩ := h
  intro partition e c l he hc hl
  have hmem : partition ∈ (ends.map (·.1)).insertionSort (· ≤ ·) := by
    rw [List.mem_insertionSort]
    exact List.mem_map.mpr ⟨_, mem_of_lookup he, rfl⟩
  exact arithmeticIssues_clean hissues partition hmem e c l he hc hl

theorem crossIssues_clean {rt : OpsRuntime} {bundle : EvidenceBundle} {ends committed lag : Family}
    (h : crossIssues exactDecimal rt ends committed lag = .ok ([], []))
    (hends : CleanFamily rt bundle "kafka_topic_partition_current_offset" ends)
    (hcommitted : CleanFamily rt bundle "kafka_consumergroup_current_offset" committed)
    (hlag : CleanFamily rt bundle "kafka_consumergroup_lag" lag) :
    ∀ partition e c l, ends.lookup partition = some e → committed.lookup partition = some c →
      lag.lookup partition = some l → Consistent e.2 c.2 l.2 := by
  intro partition e c l he hc hl
  obtain ⟨hgrid, hlag_grid, hmismatches⟩ := crossIssues_arithmetic h hends.partitions
    hcommitted.partitions hlag.partitions partition e c l he hc hl
  have hclean := hlag.clean _ (mem_of_lookup hl)
  have hclean_ends := hends.clean _ (mem_of_lookup he)
  have hclean_committed := hcommitted.clean _ (mem_of_lookup hc)
  exact ⟨hgrid, hlag_grid, lagMismatches_clean hmismatches hclean_committed.nonneg
    (hclean_ends.values_length.trans hclean.values_length.symm)
    (hclean_committed.values_length.trans hclean.values_length.symm)⟩

theorem conditionResult_usable {rt : OpsRuntime} {state : ConditionState}
    {reason_codes : List PyStr} {required optional : List ObservedDependency}
    {facts : BacklogFacts} :
    (conditionResult rt state reason_codes required optional facts).Usable ↔
      ∀ observation ∈ required, observation.issues = [] := by
  simp [ConditionResult.Usable, conditionResult]

/-- An observation of a dependency to which issues may have been added: it still has the items
that were observed, and the issues of that observation come first among its own. -/
structure KeepsIssues (bundle : EvidenceBundle) (spec : DependencySpec)
    (observation : ObservedDependency) : Prop where
  spec_eq : observation.spec = spec
  items : observation.items = dependencyItems spec bundle
  issues : (observeDependency spec bundle).issues <+: observation.issues

theorem observeDependency_keepsIssues (bundle : EvidenceBundle) (spec : DependencySpec) :
    KeepsIssues bundle spec (observeDependency spec bundle) :=
  ⟨rfl, rfl, List.prefix_refl _⟩

theorem KeepsIssues.addIssues {bundle : EvidenceBundle} {spec : DependencySpec}
    {observation : ObservedDependency} (h : KeepsIssues bundle spec observation)
    (issues : List EvidenceIssue) : KeepsIssues bundle spec (observation.addIssues issues) :=
  ⟨h.spec_eq, h.items, h.issues.trans (prefix_addNew _ _)⟩

/-- Where no issue was added in the end, there was none at the start. -/
theorem KeepsIssues.observed {bundle : EvidenceBundle} {spec : DependencySpec}
    {observation : ObservedDependency} (h : KeepsIssues bundle spec observation)
    (hissues : observation.issues = []) : (observeDependency spec bundle).issues = [] :=
  List.prefix_nil.mp (hissues ▸ h.issues)

theorem partitionValues_keepsIssues {dec : DecimalArithmetic} {rt : OpsRuntime}
    {bundle : EvidenceBundle} {spec : DependencySpec}
    {require_consumer_group committed_offsets require_monotonic : Bool} {family : Family}
    {observation : ObservedDependency}
    (h : partitionValues dec rt bundle (observeDependency spec bundle) require_consumer_group
      committed_offsets require_monotonic = .ok (family, observation)) :
    KeepsIssues bundle spec observation := by
  simp only [partitionValues, OpsAgent.bind_ok, OpsAgent.pure_ok, Prod.mk.injEq] at h
  obtain ⟨⟨entries, issues⟩, -, -, rfl⟩ := h
  exact (observeDependency_keepsIssues bundle spec).addIssues _

/-- The families of a bundle whose checks left no issue. These are the conditions as the evaluator
computes them, each family on its own and then all three together; `UsableFamilies.clean` draws
from them what is known of the values. -/
structure UsableFamilies (dec : DecimalArithmetic) (rt : OpsRuntime) (bundle : EvidenceBundle)
    (ends committed lag : Family) : Prop where
  end_offsets : ∃ observation, partitionValues dec rt bundle (observeDependency endOffset bundle)
    false false true = .ok (ends, observation) ∧ observation.issues = []
  committed_offsets : ∃ observation, partitionValues dec rt bundle
    (observeDependency committedOffset bundle) true true true = .ok (committed, observation) ∧
      observation.issues = []
  partition_lag : ∃ observation, partitionValues dec rt bundle
    (observeDependency partitionLag bundle) true false false = .ok (lag, observation) ∧
      observation.issues = []
  across : crossIssues dec rt ends committed lag = .ok ([], [])

/-- Usable evidence of the core condition comes from usable families, and the verdict is
the one over their lag. -/
theorem evaluateCoreBacklog_families {dec : DecimalArithmetic} {rt : OpsRuntime}
    {bundle : EvidenceBundle} {result : ConditionResult}
    (h : evaluateCoreBacklog dec rt bundle = .ok result) (husable : result.Usable) :
    ∃ ends committed lag required optional facts, UsableFamilies dec rt bundle ends committed lag ∧
      List.Forall₂ (fun spec observation =>
        KeepsIssues bundle spec observation ∧ observation.issues = [])
          [endOffset, committedOffset, partitionLag] required ∧
      usableBacklog dec rt lag required optional facts = .ok result := by
  simp only [evaluateCoreBacklog, OpsAgent.bind_ok] at h
  obtain ⟨⟨ends, end_observation⟩, hends, ⟨committed, committed_observation⟩, hcommitted,
    ⟨lag, lag_observation⟩, hlag, ⟨end_issues, lag_issues⟩, hcross, h⟩ := h
  split_ifs at h with hblocked
  · -- a blocked condition keeps its issues in the result
    rw [← OpsAgent.pure_ok.mp h, conditionResult_usable] at husable
    obtain ⟨observation, hmem, hissues⟩ := List.any_eq_true.mp hblocked
    simp [husable observation hmem] at hissues
  · simp only [List.any_eq_true, not_exists, not_and, Bool.not_eq_true',
      List.isEmpty_iff, Bool.not_eq_false, List.forall_mem_cons, ObservedDependency.addIssues,
      addNew_eq_nil] at hblocked
    obtain ⟨⟨hend_issues, rfl⟩, hcommitted_issues, ⟨hlag_issues, rfl⟩, -⟩ := hblocked
    refine ⟨ends, committed, lag, _, _, _, ⟨⟨_, hends, hend_issues⟩,
      ⟨_, hcommitted, hcommitted_issues⟩, ⟨_, hlag, hlag_issues⟩, hcross⟩, ?_, h⟩
    refine .cons ⟨(partitionValues_keepsIssues hends).addIssues [], ?_⟩ (.cons
      ⟨partitionValues_keepsIssues hcommitted, hcommitted_issues⟩ (.cons
        ⟨(partitionValues_keepsIssues hlag).addIssues [], ?_⟩ .nil))
    · simp [ObservedDependency.addIssues, hend_issues]
    · simp [ObservedDependency.addIssues, hlag_issues]

/-- A single bundle never shows the core condition present, and a verdict about it has
usable evidence. -/
theorem evaluateCoreBacklog_state {dec : DecimalArithmetic} {rt : OpsRuntime}
    {bundle : EvidenceBundle} {result : ConditionResult}
    (h : evaluateCoreBacklog dec rt bundle = .ok result) :
    result.state ≠ .present ∧ (result.state ≠ .unknown → result.Usable) := by
  simp only [evaluateCoreBacklog, OpsAgent.bind_ok] at h
  obtain ⟨⟨ends, end_observation⟩, -, ⟨committed, committed_observation⟩, -,
    ⟨lag, lag_observation⟩, -, ⟨end_issues, lag_issues⟩, -, h⟩ := h
  split_ifs at h with hblocked
  · obtain rfl := OpsAgent.pure_ok.mp h
    simp [conditionResult]
  · simp only [usableBacklog, OpsAgent.bind_ok] at h
    obtain ⟨totals, -, h⟩ := h
    split_ifs at h
    all_goals
      obtain rfl := OpsAgent.pure_ok.mp h
      refine ⟨by simp [conditionResult], fun _ => conditionResult_usable.mpr fun observation hmem => ?_⟩
      by_contra hissues
      exact hblocked (List.any_eq_true.mpr ⟨observation, hmem, by simpa using hissues⟩)

/-- With exact decimals usable families are clean, each by itself (`partitionValues_clean`) and
then together (`crossIssues_clean`). -/
theorem UsableFamilies.clean {rt : OpsRuntime} {bundle : EvidenceBundle}
    {ends committed lag : Family} (h : UsableFamilies exactDecimal rt bundle ends committed lag) :
    CleanBacklog rt bundle ends committed lag := by
  obtain ⟨_, hends, hend_issues⟩ := h.end_offsets
  obtain ⟨_, hcommitted, hcommitted_issues⟩ := h.committed_offsets
  obtain ⟨_, hlag, hlag_issues⟩ := h.partition_lag
  obtain ⟨hclean_ends, hends_grow⟩ := partitionValues_clean hends hend_issues
  obtain ⟨hclean_committed, hcommitted_grow⟩ := partitionValues_clean hcommitted hcommitted_issues
  obtain ⟨hclean_lag, -⟩ := partitionValues_clean hlag hlag_issues
  exact ⟨hclean_ends, hclean_committed, hclean_lag, hends_grow rfl, hcommitted_grow rfl,
    crossIssues_clean h.across hclean_ends hclean_committed hclean_lag⟩

/-- The core condition has usable evidence only where the three families are clean. -/
theorem evaluateCoreBacklog_usable {rt : OpsRuntime} {bundle : EvidenceBundle}
    {result : ConditionResult} (h : evaluateCoreBacklog exactDecimal rt bundle = .ok result)
    (husable : result.Usable) :
    ∃ ends committed lag, CleanBacklog rt bundle ends committed lag := by
  obtain ⟨ends, committed, lag, _, _, _, hfamilies, -, -⟩ := evaluateCoreBacklog_families h husable
  exact ⟨ends, committed, lag, hfamilies.clean⟩

/-! ### Readers of a family -/

/-- The series of a partition. -/
def seriesOf (family : Family) (partition : PyStr) : Series :=
  ((family.lookup partition).map (·.2)).getD ⟨[], []⟩

namespace CleanFamily

variable {rt : OpsRuntime} {bundle : EvidenceBundle} {metric_name : PyStr} {family : Family}

theorem nodup (h : CleanFamily rt bundle metric_name family) : (family.map (·.1)).Nodup :=
  h.partitions.nodup_iff.mpr (by decide)

theorem exists_entry (h : CleanFamily rt bundle metric_name family) {item : EvidenceItem}
    (hitem : item ∈ bundle.items metric_name) : ∃ entry ∈ family, entry.2.1 = item :=
  List.mem_map.mp (h.items.mem_iff.mpr hitem)

theorem item_ok (h : CleanFamily rt bundle metric_name family) {item : EvidenceItem}
    (hitem : item ∈ bundle.items metric_name) : item.status = .ok := by
  obtain ⟨entry, hentry, rfl⟩ := h.exists_entry hitem
  exact (h.clean entry hentry).ok

/-- The labels of the items are the partitions, in the order of the bundle. -/
theorem labels_perm (h : CleanFamily rt bundle metric_name family) :
    ((bundle.items metric_name).map fun item => (item.label "partition").getD []).Perm
      topicPartitions := by
  refine (h.items.symm.map _).trans ?_
  rw [List.map_map]
  refine List.Perm.trans (List.Perm.of_eq (List.map_congr_left fun entry hentry => ?_)) h.partitions
  simp [h.label entry hentry]

/-- The sequence evaluator keeps every item: all of them are `OK`, and no two have the same label,
of which the dict would keep one. -/
theorem itemsByPartition_eq (h : CleanFamily rt bundle metric_name family) :
    itemsByPartition bundle metric_name = (bundle.items metric_name).map fun item =>
      ((item.label "partition").getD [], item) := by
  have hfilter : (bundle.items metric_name).filter (·.status = .ok) = bundle.items metric_name :=
    List.filter_eq_self.mpr fun item hitem => by simpa using h.item_ok hitem
  rw [itemsByPartition, hfilter]
  refine foldl_fresh (fun result item hitem hnew => ?_) (h.labels_perm.nodup_iff.mpr (by decide))
  obtain ⟨entry, hentry, rfl⟩ := h.exists_entry hitem
  simp only [h.label entry hentry, Option.getD_some] at hnew ⊢
  rw [hnew]
  rfl

/-- The summary keeps every series, since no two items have the same label. -/
theorem partitionFamily_eq (h : CleanFamily rt bundle metric_name family) :
    partitionFamily rt bundle metric_name = (bundle.items metric_name).map fun item =>
      ((item.label "partition").getD [], (series rt item).getD ⟨[], []⟩) := by
  refine foldl_fresh (fun result item hitem hnew => ?_) (h.labels_perm.nodup_iff.mpr (by decide))
  obtain ⟨entry, hentry, rfl⟩ := h.exists_entry hitem
  simp only [h.label entry hentry, (h.clean entry hentry).series_eq, Option.getD_some] at hnew ⊢
  rw [hnew]
  rfl

theorem itemsByPartition_keys (h : CleanFamily rt bundle metric_name family) :
    ((itemsByPartition bundle metric_name).map (·.1)).Perm topicPartitions := by
  rw [h.itemsByPartition_eq, List.map_map]
  exact h.labels_perm

theorem partitionFamily_keys (h : CleanFamily rt bundle metric_name family) :
    ((partitionFamily rt bundle metric_name).map (·.1)).Perm topicPartitions := by
  rw [h.partitionFamily_eq, List.map_map]
  exact h.labels_perm

/-- Every reader finds the item and the series of a partition. -/
theorem lookup_partition (h : CleanFamily rt bundle metric_name family) {partition : PyStr}
    (hpartition : partition ∈ topicPartitions) :
    ∃ item ∈ bundle.items metric_name, item.label "partition" = some partition ∧
      CleanSeries rt item (seriesOf family partition) ∧
      family.lookup partition = some (item, seriesOf family partition) ∧
      (itemsByPartition bundle metric_name).lookup partition = some item ∧
      (partitionFamily rt bundle metric_name).lookup partition =
        some (seriesOf family partition) := by
  obtain ⟨entry, hentry, rfl⟩ := List.mem_map.mp (h.partitions.mem_iff.mpr hpartition)
  obtain ⟨partition, item, parsed⟩ := entry
  have hlookup : family.lookup partition = some (item, parsed) := lookup_of_mem h.nodup hentry
  have hseries : seriesOf family partition = parsed := by simp [seriesOf, hlookup]
  have hitem : item ∈ bundle.items metric_name :=
    h.items.mem_iff.mp (List.mem_map.mpr ⟨_, hentry, rfl⟩)
  have hlabel : item.label "partition" = some partition := h.label _ hentry
  have hclean : CleanSeries rt item parsed := h.clean _ hentry
  rw [hseries]
  refine ⟨item, hitem, hlabel, hclean, hlookup, ?_, ?_⟩
  · have hmem : (partition, item) ∈ itemsByPartition bundle metric_name := by
      rw [h.itemsByPartition_eq]
      exact List.mem_map.mpr ⟨item, hitem, by simp [hlabel]⟩
    exact lookup_of_mem (h.itemsByPartition_keys.nodup_iff.mpr (by decide)) hmem
  · have hmem : (partition, parsed) ∈ partitionFamily rt bundle metric_name := by
      rw [h.partitionFamily_eq]
      exact List.mem_map.mpr ⟨item, hitem, by simp [hlabel, hclean.series_eq]⟩
    exact lookup_of_mem (h.partitionFamily_keys.nodup_iff.mpr (by decide)) hmem

end CleanFamily

/-! ### The order of the partitions -/

theorem parseInts_eq {rt : OpsRuntime} {key : PyStr → Int} {values : List PyStr}
    (h : ∀ value ∈ values, parseInt rt.chars value = some (key value)) :
    parseInts rt values = .ok (values.map fun value => (key value, value)) := by
  induction values with
  | nil => rfl
  | cons value values ih =>
      rw [parseInts, h value List.mem_cons_self]
      simp only [ih fun value hvalue => h value (List.mem_cons_of_mem _ hvalue)]
      rfl

theorem parseInt_topicPartitions (chars : CharTable) :
    ∀ partition ∈ topicPartitions,
      parseInt chars partition = some (natOfDigits partition : Int) := by
  intro partition hpartition
  obtain ⟨n, hn, rfl⟩ := List.mem_map.mp hpartition
  rw [List.mem_range, expectedPartitionCount] at hn
  interval_cases n <;> rfl

/-- The eight partitions, sorted by number, whatever order they come in. -/
theorem sortedByInt_topicPartitions {rt : OpsRuntime} {values : List PyStr}
    (h : ∀ value, value ∈ values ↔ value ∈ topicPartitions) :
    sortedByInt rt values = .ok topicPartitions := by
  have hkeys : ∀ value ∈ values.dedup, parseInt rt.chars value = some (natOfDigits value : Int) :=
    fun value hvalue => parseInt_topicPartitions rt.chars value
      ((h value).mp (List.mem_dedup.mp hvalue))
  have hperm : values.dedup.Perm topicPartitions :=
    (List.perm_ext_iff_of_nodup (List.nodup_dedup values) (by decide)).mpr fun value =>
      List.mem_dedup.trans (h value)
  have hsorted : (values.dedup.map fun value => ((natOfDigits value : Int), value)).insertionSort
      (fun a b => a.1 ≤ b.1) =
        topicPartitions.map fun value => ((natOfDigits value : Int), value) := by
    have : Std.Total fun (a b : Int × PyStr) => a.1 ≤ b.1 := ⟨fun a b => le_total a.1 b.1⟩
    have : IsTrans (Int × PyStr) fun a b => a.1 ≤ b.1 := ⟨fun _ _ _ => le_trans⟩
    exact insertionSort_eq (hperm.map _) (by decide) (by decide)
  rw [sortedByInt, parseInts_eq hkeys]
  simp only [Bind.bind, Except.bind, pure, Except.pure, hsorted, List.map_map]
  rfl

end EventPipeline.Guarantees
