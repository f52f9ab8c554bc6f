import EventPipeline.Guarantees.BacklogEvidence
import EventPipeline.Guarantees.SnapshotRequests
import EventPipeline.Sequences.Windows

/-!
# EventPipeline.Guarantees.SnapshotLag

The `lag` fact has a value exactly where the series of all partitions add up.

`ExactLag` says what the fact stands for: one topic and group, one series per partition, the
coverage of exactly these partitions, one grid, and the totals of its columns. `lag_ok` reads it
off a value of `_lag`, `lag_complete` finds a value where it holds.
-/

namespace EventPipeline.Guarantees

open EventPipeline.Python EventPipeline.OpsAgent EventPipeline.OpsAgent.ObservationFacts

/-! ### The lag fact

A series is a grid of time stamps and the values on it. `readSeries_ok` and `readSeries_ends`
are the two directions for one item, and the columns of the series add up by
`columnTotals_spec`. -/

theorem forall₂_of_mapM {α β : Type} {f : α → Except OpsExc β} {xs : List α} {ys : List β}
    (h : xs.mapM f = .ok ys) : List.Forall₂ (fun x y => f x = .ok y) xs ys := by
  induction xs generalizing ys with
  | nil =>
      obtain rfl : [] = ys := OpsAgent.pure_ok.mp h
      exact .nil
  | cons x xs ih =>
      simp only [List.mapM_cons, OpsAgent.bind_ok, OpsAgent.pure_ok] at h
      obtain ⟨y, hy, rest, hrest, rfl⟩ := h
      exact .cons hy (ih hrest)

theorem mapM_of_forall₂ {α β : Type} {f : α → Except OpsExc β} {xs : List α} {ys : List β}
    (h : List.Forall₂ (fun x y => f x = .ok y) xs ys) : xs.mapM f = .ok ys := by
  induction h with
  | nil => rfl
  | cons hfirst _ ih =>
      simp only [List.mapM_cons, OpsAgent.bind_ok, OpsAgent.pure_ok]
      exact ⟨_, hfirst, _, ih, rfl⟩

theorem finiteValues_some {decimals : List PyDecimal} {values : List ℚ} :
    finiteValues decimals = some values ↔ decimals = values.map .finite := by
  induction decimals generalizing values with
  | nil => cases values <;> simp [finiteValues]
  | cons decimal decimals ih =>
      rw [finiteValues] at ih
      simp only [finiteValues, List.mapM_cons, Option.bind_eq_bind, Option.bind_eq_some_iff]
      constructor
      · intro ⟨first, hfirst, rest, hrest, heq⟩
        obtain rfl : first :: rest = values := Option.some.inj heq
        split at hfirst
        · rw [List.map_cons, ← ih.mp hrest, Option.some.inj hfirst]
        · cases hfirst
      · intro heq
        cases values with
        | nil => cases heq
        | cons value values =>
            obtain ⟨rfl, hrest⟩ := List.cons.inj heq
            exact ⟨value, rfl, values, ih.mpr hrest, rfl⟩

theorem getD_zipWith {a b : List ℚ} (h : a.length = b.length) (i : Nat) :
    (List.zipWith (· + ·) a b).getD i 0 = a.getD i 0 + b.getD i 0 := by
  induction a generalizing b i with
  | nil =>
      obtain rfl : b = [] := List.eq_nil_of_length_eq_zero h.symm
      simp
  | cons x a ih =>
      cases b with
      | nil => cases h
      | cons y b =>
          cases i with
          | zero => rfl
          | succ i => exact ih (Nat.succ.inj h) i

/-- Every total is the sum of a column. By induction on the series that are left to add; all of
them have the same length, so no column is cut off. -/
theorem foldl_zipWith {n : Nat} {values : List ℚ} {series : List (List ℚ)}
    (hlength : values.length = n) (hseries : ∀ other ∈ series, other.length = n) :
    (series.foldl (List.zipWith (· + ·)) values).length = n ∧
    ∀ i, (series.foldl (List.zipWith (· + ·)) values).getD i 0 =
      values.getD i 0 + (series.map (·.getD i 0)).sum := by
  induction series generalizing values with
  | nil => exact ⟨hlength, fun i => (add_zero _).symm⟩
  | cons other series ih =>
      obtain ⟨hother, hrest⟩ := List.forall_mem_cons.mp hseries
      have hsame : values.length = other.length := hlength.trans hother.symm
      have hzip : (List.zipWith (· + ·) values other).length = n := by
        rw [List.length_zipWith, ← hsame, Nat.min_self, hlength]
      obtain ⟨hlen, hsum⟩ := ih hzip hrest
      refine ⟨hlen, fun i => ?_⟩
      rw [List.foldl_cons, hsum, getD_zipWith hsame, List.map_cons, List.sum_cons, add_assoc]

theorem columnTotals_spec {n : Nat} {series : List (List ℚ)} (hne : series ≠ [])
    (hseries : ∀ values ∈ series, values.length = n) :
    (columnTotals series).length = n ∧
    ∀ i, (columnTotals series).getD i 0 = (series.map (·.getD i 0)).sum := by
  obtain ⟨values, series, rfl⟩ := List.exists_cons_of_ne_nil hne
  obtain ⟨hfirst, hrest⟩ := List.forall_mem_cons.mp hseries
  obtain ⟨hlength, hsum⟩ := foldl_zipWith hfirst hrest
  refine ⟨hlength, fun i => ?_⟩
  rw [columnTotals, hsum, List.map_cons, List.sum_cons]

theorem foldl_max_spec (totals : List ℚ) (start : ℚ) :
    (totals.foldl max start = start ∨ totals.foldl max start ∈ totals) ∧
    start ≤ totals.foldl max start ∧ ∀ total ∈ totals, total ≤ totals.foldl max start := by
  induction totals generalizing start with
  | nil => exact ⟨.inl rfl, le_refl _, by simp⟩
  | cons total totals ih =>
      obtain ⟨hmem, hstart, hall⟩ := ih (max start total)
      refine ⟨?_, (le_max_left _ _).trans hstart,
        List.forall_mem_cons.mpr ⟨(le_max_right _ _).trans hstart, hall⟩⟩
      rw [List.foldl_cons, List.mem_cons]
      rcases hmem with heq | hmem
      · rcases max_choice start total with hmax | hmax
        · exact .inl (by rw [heq, hmax])
        · exact .inr (.inl (by rw [heq, hmax]))
      · exact .inr (.inr hmem)

theorem greatest_ok {totals : List ℚ} {peak : ℚ} (h : greatest totals = .ok peak) :
    peak ∈ totals ∧ ∀ total ∈ totals, total ≤ peak := by
  cases totals with
  | nil => cases h
  | cons total totals =>
      obtain rfl := Except.ok.inj h
      obtain ⟨hmem, hstart, hall⟩ := foldl_max_spec totals total
      refine ⟨?_, List.forall_mem_cons.mpr ⟨hstart, hall⟩⟩
      rcases hmem with heq | hmem
      · rw [heq]
        exact List.mem_cons_self
      · exact List.mem_cons_of_mem _ hmem

theorem greatest_ends {totals : List ℚ} (h : totals ≠ []) : ∃ peak, greatest totals = .ok peak := by
  obtain ⟨total, totals, rfl⟩ := List.exists_cons_of_ne_nil h
  exact ⟨_, rfl⟩

theorem lastOf_ends {values : List ℚ} (h : values ≠ []) :
    lastOf values = .ok (values.getLastD 0) := by
  rw [lastOf, getLast?_eq_getLastD h]

theorem lastOf_ok {values : List ℚ} {last : ℚ} (h : lastOf values = .ok last) :
    values ≠ [] ∧ last = values.getLastD 0 := by
  rw [lastOf] at h
  split at h
  · rename_i value hlast
    refine ⟨fun hnil => ?_, ?_⟩
    · rw [hnil] at hlast
      cases hlast
    · rw [← Except.ok.inj h, List.getLastD_eq_getLast?, hlast]
      rfl
  · cases h

theorem getLastD_eq_getD {values : List ℚ} {n : Nat} (h : values.length = n + 1) :
    values.getLastD 0 = values.getD n 0 := by
  rw [List.getLastD_eq_getLast?, List.getLast?_eq_getElem?, h, List.getD_eq_getElem?_getD]
  rfl

/-- The samples of a lag item are on the grid, finite and not negative, and the latest is
within the freshness bound. -/
structure SampledOn (rt : FactsRuntime) (observed_at : PyStr) (grid : List ℚ)
    (item : ProjectedEvidence) (values : List ℚ) : Prop where
  timestamps : readDecimals rt "timestamp" item.metric.value = .ok (grid.map .finite)
  values_read : readDecimals rt "value" item.metric.value = .ok (values.map .finite)
  length_eq : values.length = grid.length
  nonnegative : ∀ value ∈ values, 0 ≤ value
  latest_fresh : ∃ observed, timeOf rt (.str observed_at) = .ok observed ∧
    0 ≤ (observed : ℚ) / 1000000 - grid.getLastD 0 ∧
    decimalAgeWithin rt ((observed : ℚ) / 1000000 - grid.getLastD 0)
      item.freshness.max_age_seconds = .ok true

/-- What the lag fact says, and of which evidence. The items are fresh, of one topic and one
group, and stand for one partition each, with the coverage of exactly these; all are sampled on
one increasing grid. The fact is the total at its last time and the largest total at any time. -/
structure ExactLag (rt : FactsRuntime) (observed_at : PyStr) (items : List ProjectedEvidence)
    (partitions : List PyStr) (grid : List ℚ) (series : List (ProjectedEvidence × List ℚ))
    (value : LagValue) : Prop where
  nonempty : items ≠ []
  usable : ∀ item ∈ items, fresh item = true
  one_scope : value.topic ≠ [] ∧ value.consumer_group ≠ [] ∧
    ∀ item ∈ items, lagScope item = (some value.topic, some value.consumer_group)
  labelled : items.map (fun item => item.labels.lookup (PyStr.ofString "partition")) =
    partitions.map some
  one_each : partitions.Nodup
  reported : value.partitions.Perm partitions
  covered : ∀ item ∈ items, item.coverage.complete = some true ∧
    (∀ p, p ∈ item.coverage.expected_items ↔ p ∈ partitions) ∧
    (∀ p, p ∈ item.coverage.observed_items ↔ p ∈ partitions) ∧
    item.coverage.expected_count = some items.length ∧
    item.coverage.observed_count = some items.length
  grid_nonempty : grid ≠ []
  increasing : grid.Pairwise (· < ·)
  series_of : series.map Prod.fst = items
  sampled : ∀ entry ∈ series, SampledOn rt observed_at grid entry.1 entry.2
  latest_total : value.latest_total = (series.map fun entry => entry.2.getLastD 0).sum
  peak_bound : ∀ i < grid.length,
    (series.map fun entry => entry.2.getD i 0).sum ≤ value.window_peak_total
  peak_reached : ∃ i < grid.length,
    (series.map fun entry => entry.2.getD i 0).sum = value.window_peak_total
  /-- No total is beyond the range of a float. -/
  finite : ∀ i < grid.length,
    (PyFloat.ofRat (series.map fun entry => entry.2.getD i 0).sum).isFinite = true
  latest_timestamp : value.latest_sample_timestamp = grid.getLastD 0

section Lag

variable {rt : FactsRuntime}

theorem length_readDecimals {key : String} {value : Json} {entries : List Json}
    {decimals : List PyDecimal} (hiterate : iterate value = .ok entries)
    (h : readDecimals rt key value = .ok decimals) : decimals.length = entries.length := by
  simp only [readDecimals, OpsAgent.bind_ok] at h
  obtain ⟨entries', hiterate', hread⟩ := h
  obtain rfl := Except.ok.inj (hiterate.symm.trans hiterate')
  exact (forall₂_of_mapM hread).length_eq.symm

theorem latestFresh_true {age : ℚ} {max_age_seconds : Option PyFloat}
    (h : latestFresh rt age max_age_seconds = .ok true) :
    0 ≤ age ∧ decimalAgeWithin rt age max_age_seconds = .ok true := by
  unfold latestFresh at h
  split_ifs at h with hearly
  · cases h
  · exact ⟨not_lt.mp hearly, h⟩

theorem readSeries_ok {observed_at : PyStr} {partitions : List PyStr}
    {item : ProjectedEvidence} {grid values : List ℚ}
    (h : readSeries rt observed_at partitions item = .ok (grid, values)) :
    coversPartitions item.coverage partitions ∧ grid ≠ [] ∧ grid.Pairwise (· < ·) ∧
    SampledOn rt observed_at grid item values := by
  simp only [readSeries, OpsAgent.bind_ok, ensure_eq_ok] at h
  obtain ⟨_, hcovers, timestamps, htimestamps, decimals, hdecimals, h⟩ := h
  cases hgrid : finiteValues timestamps with
  | none => simp [hgrid] at h
  | some found =>
      cases hvalues : finiteValues decimals with
      | none => simp [hgrid, hvalues] at h
      | some numbers =>
          simp only [hgrid, hvalues, OpsAgent.bind_ok, ensure_eq_ok] at h
          obtain ⟨_, ⟨hnonempty, hnonneg, hordered⟩, observed, hobserved, h⟩ := h
          -- the grid has a last point, because it is not empty
          cases hlatest : found.getLast? with
          | none => exact absurd (List.getLast?_eq_none_iff.mp hlatest) hnonempty
          | some latest =>
              simp only [hlatest, OpsAgent.bind_ok, ensure_eq_ok, OpsAgent.pure_ok] at h
              obtain ⟨in_time, hfresh, _, rfl, heq⟩ := h
              obtain ⟨rfl, rfl⟩ := Prod.mk.inj heq
              have hlast : found.getLastD 0 = latest := by
                rw [List.getLastD_eq_getLast?, hlatest]
                rfl
              obtain ⟨hage, hwithin⟩ := latestFresh_true hfresh
              -- both readings go over the same entries
              have hlength : numbers.length = found.length := by
                simp only [readDecimals, OpsAgent.bind_ok] at htimestamps
                obtain ⟨entries, hiterate, hread⟩ := htimestamps
                have hother := length_readDecimals hiterate hdecimals
                have hsame := (forall₂_of_mapM hread).length_eq
                rw [finiteValues_some.mp hvalues, List.length_map] at hother
                rw [finiteValues_some.mp hgrid, List.length_map] at hsame
                omega
              refine ⟨hcovers, hnonempty, ?_, ⟨?_, ?_, hlength, ?_, ⟨observed, hobserved, ?_⟩⟩⟩
              · rw [List.all_eq_true] at hordered
                exact List.isChain_iff_pairwise.mp (Sequences.forall_adjacent.mp fun pair hpair =>
                  of_decide_eq_true (hordered pair hpair))
              · rw [htimestamps, finiteValues_some.mp hgrid]
              · rw [hdecimals, finiteValues_some.mp hvalues]
              · rw [List.all_eq_true] at hnonneg
                exact fun value hvalue => of_decide_eq_true (hnonneg value hvalue)
              · rw [hlast]
                exact ⟨hage, hwithin⟩

/-- Series on one grid have as many totals as the grid has samples, which is at least one. -/
theorem length_columnTotals {observed_at : PyStr} {partitions : List PyStr}
    {items : List ProjectedEvidence} {first : List ℚ × List ℚ} {rest : List (List ℚ × List ℚ)}
    (hall : List.Forall₂ (fun item read => readSeries rt observed_at partitions item = .ok read)
      items (first :: rest)) (hgrids : ∀ entry ∈ rest, entry.1 = first.1) :
    first.1 ≠ [] ∧ (columnTotals ((first :: rest).map Prod.snd)).length = first.1.length ∧
    ∀ i, (columnTotals ((first :: rest).map Prod.snd)).getD i 0 =
      (((first :: rest).map Prod.snd).map (·.getD i 0)).sum := by
  have hread : ∀ entry ∈ first :: rest, entry.1 ≠ [] ∧ entry.2.length = entry.1.length := by
    intro entry hentry
    obtain ⟨item, _, hitem⟩ := forall₂_mem_right hall hentry
    obtain ⟨_, hnonempty, _, hsampled⟩ := readSeries_ok hitem
    exact ⟨hnonempty, hsampled.length_eq⟩
  refine ⟨(hread first List.mem_cons_self).1, columnTotals_spec (by simp) ?_⟩
  intro values hvalues
  obtain ⟨entry, hentry, rfl⟩ := List.mem_map.mp hvalues
  rw [(hread entry hentry).2]
  rcases List.mem_cons.mp hentry with rfl | hentry
  · rfl
  · rw [hgrids entry hentry]

theorem partitions_labelled {items : List ProjectedEvidence} {partitions : List PyStr}
    (h : items.mapM partitionOf = .ok partitions) :
    items.map (fun item => item.labels.lookup (PyStr.ofString "partition")) =
      partitions.map some := by
  have hall := forall₂_of_mapM h
  clear h
  induction hall with
  | nil => rfl
  | cons hfirst _ ih =>
      rw [List.map_cons, List.map_cons, ih]
      rw [partitionOf] at hfirst
      split at hfirst
      · rename_i label hlookup
        rw [hlookup, Except.ok.inj hfirst]
      · cases hfirst

/-- One value after removing duplicates is the value of every entry. -/
theorem eq_of_dedup_singleton {α : Type} [DecidableEq α] {values : List α} {only : α}
    (h : values.dedup = [only]) {a : α} (ha : a ∈ values) : a = only := by
  have hmem := List.mem_dedup.mpr ha
  rw [h] at hmem
  exact List.mem_singleton.mp hmem

/-- The lag fact has a value only from series on one grid, and it is exact. -/
theorem lag_ok {observed_at : PyStr} {items : List ProjectedEvidence} {value : LagValue}
    (h : lag rt observed_at items = .ok value) : ∃ partitions grid series,
      ExactLag rt observed_at items partitions grid series value := by
  simp only [lag, OpsAgent.bind_ok, ensure_eq_ok] at h
  obtain ⟨_, ⟨hnonempty, hfresh⟩, partitions, hpartitions, _, hnodup, h⟩ := h
  split at h
  · rename_i t topic g group hscopes
    simp only [OpsAgent.bind_ok] at h
    obtain ⟨read, hread, h⟩ := h
    have hall := forall₂_of_mapM hread
    have hlabelled := partitions_labelled hpartitions
    have hcount : partitions.length = items.length := by
      simpa using (congrArg List.length hlabelled).symm
    cases read with
    | nil => simp at h
    | cons first rest =>
        simp only [OpsAgent.bind_ok, ensure_eq_ok, OpsAgent.pure_ok] at h
        obtain ⟨_, hgrids, _, hfinite, latest_total, hlatest, peak, hpeak, latest_timestamp,
          htimestamp, rfl⟩ := h
        rw [List.all_eq_true] at hgrids hfresh hfinite
        obtain ⟨hlengths, hzip⟩ := List.forall₂_iff_zip.mp hall
        have hgrid : ∀ entry ∈ first :: rest, entry.1 = first.1 :=
          List.forall_mem_cons.mpr ⟨rfl, fun entry hentry => of_decide_eq_true (hgrids entry hentry)⟩
        -- every item with the series read from it
        let series := (items.zip (first :: rest)).map fun entry => (entry.1, entry.2.2)
        have hitems : series.map Prod.fst = items := by
          rw [List.map_map]
          exact List.map_fst_zip hlengths.le
        have hseconds : series.map Prod.snd = (first :: rest).map Prod.snd := by
          rw [List.map_map]
          conv_rhs => rw [← List.map_snd_zip hlengths.ge, List.map_map]
          rfl
        have hcolumn : ∀ f : List ℚ → ℚ, (series.map fun entry => f entry.2) =
            ((first :: rest).map Prod.snd).map f := by
          intro f
          rw [← hseconds]
          exact List.map_map.symm
        have hsampled : ∀ entry ∈ series, coversPartitions entry.1.coverage partitions ∧
            first.1 ≠ [] ∧ first.1.Pairwise (· < ·) ∧
            SampledOn rt observed_at first.1 entry.1 entry.2 := by
          intro entry hentry
          obtain ⟨⟨item, grid, values⟩, hmem, rfl⟩ := List.mem_map.mp hentry
          have hsame : grid = first.1 := hgrid (grid, values) (List.of_mem_zip hmem).2
          have hread := readSeries_ok (hzip hmem)
          rw [hsame] at hread
          exact hread
        have hof_item : ∀ item ∈ items, ∃ entry ∈ series, entry.1 = item := by
          intro item hitem
          rw [← hitems] at hitem
          exact List.mem_map.mp hitem
        obtain ⟨item, hitem⟩ := List.exists_mem_of_ne_nil items hnonempty
        obtain ⟨entry, hentry, _⟩ := hof_item item hitem
        obtain ⟨_, hgrid_nonempty, hincreasing, _⟩ := hsampled entry hentry
        obtain ⟨_, htotals_length, htotals⟩ := length_columnTotals hall
          fun entry hentry => of_decide_eq_true (hgrids entry hentry)
        have htotal_mem : ∀ i < first.1.length,
            (columnTotals ((first :: rest).map Prod.snd)).getD i 0 ∈
              columnTotals ((first :: rest).map Prod.snd) := by
          intro i hi
          rw [← htotals_length] at hi
          rw [List.getD_eq_getElem?_getD, List.getElem?_eq_getElem hi, Option.getD_some]
          exact List.getElem_mem hi
        obtain ⟨n, hn⟩ := Nat.exists_eq_succ_of_ne_zero
          (mt List.eq_nil_of_length_eq_zero hgrid_nonempty)
        obtain ⟨hpeak_mem, hpeak_bound⟩ := greatest_ok hpeak
        refine ⟨partitions, first.1, series, hnonempty, hfresh, ⟨List.cons_ne_nil _ _,
          List.cons_ne_nil _ _, fun item hitem => ?_⟩, hlabelled, hnodup,
          List.perm_insertionSort _ _, fun item hitem => ?_, hgrid_nonempty, hincreasing, hitems,
          fun entry hentry => (hsampled entry hentry).2.2.2, ?_, fun i hi => ?_, ?_,
          fun i hi => ?_, (lastOf_ok htimestamp).2⟩
        · exact eq_of_dedup_singleton hscopes (List.mem_map_of_mem hitem)
        · obtain ⟨entry, hentry, rfl⟩ := hof_item item hitem
          obtain ⟨⟨hcomplete, hexpected, hobserved, hexpected_count, hobserved_count⟩, _⟩ :=
            hsampled entry hentry
          rw [hcount] at hexpected_count hobserved_count
          exact ⟨hcomplete, sameSet_iff.mp hexpected, sameSet_iff.mp hobserved, hexpected_count,
            hobserved_count⟩
        · rw [(lastOf_ok hlatest).2, getLastD_eq_getD (htotals_length.trans hn), htotals,
            ← hcolumn]
          refine congrArg List.sum (List.map_congr_left fun entry hentry => ?_)
          rw [getLastD_eq_getD ((hsampled entry hentry).2.2.2.length_eq.trans hn)]
        · rw [hcolumn (·.getD i 0), ← htotals]
          exact hpeak_bound _ (htotal_mem i hi)
        · obtain ⟨i, hi, hvalue⟩ := List.mem_iff_getElem.mp hpeak_mem
          refine ⟨i, by rw [← htotals_length]; exact hi, ?_⟩
          rw [hcolumn (·.getD i 0), ← htotals, List.getD_eq_getElem?_getD,
            List.getElem?_eq_getElem hi, hvalue, Option.getD_some]
        · rw [hcolumn (·.getD i 0), ← htotals]
          exact hfinite _ (htotal_mem i hi)
  · cases h

theorem partitionOf_labelled {items : List ProjectedEvidence} {partitions : List PyStr}
    (h : items.map (fun item => item.labels.lookup (PyStr.ofString "partition")) =
      partitions.map some) : items.mapM partitionOf = .ok partitions := by
  induction items generalizing partitions with
  | nil =>
      obtain rfl : partitions = [] := List.map_eq_nil_iff.mp h.symm
      rfl
  | cons item items ih =>
      cases partitions with
      | nil => cases h
      | cons label labels =>
          rw [List.map_cons, List.map_cons] at h
          obtain ⟨hfirst, hrest⟩ := List.cons.inj h
          simp only [List.mapM_cons, OpsAgent.bind_ok, OpsAgent.pure_ok]
          refine ⟨label, ?_, labels, ih hrest, rfl⟩
          rw [partitionOf, hfirst]

/-- One scope for all items. -/
theorem dedup_of_forall {α : Type} [DecidableEq α] {values : List α} {only : α}
    (hne : values ≠ []) (h : ∀ a ∈ values, a = only) : values.dedup = [only] := by
  rw [List.eq_replicate_of_mem h]
  exact List.replicate_dedup (mt List.eq_nil_of_length_eq_zero hne)

/-- A series that is sampled on a grid is read, where the coverage is of the partitions. -/
theorem readSeries_ends {observed_at : PyStr} {partitions : List PyStr}
    {item : ProjectedEvidence} {grid values : List ℚ}
    (hcovers : coversPartitions item.coverage partitions) (hnonempty : grid ≠ [])
    (hincreasing : grid.Pairwise (· < ·)) (hsampled : SampledOn rt observed_at grid item values) :
    readSeries rt observed_at partitions item = .ok (grid, values) := by
  obtain ⟨observed, hobserved, hage, hwithin⟩ := hsampled.latest_fresh
  have hchecks : grid ≠ [] ∧ values.all (0 ≤ ·) = true ∧
      (grid.zip grid.tail).all (fun pair => pair.1 < pair.2) = true := by
    refine ⟨hnonempty, ?_, ?_⟩
    · rw [List.all_eq_true]
      exact fun value hvalue => decide_eq_true (hsampled.nonnegative value hvalue)
    · rw [List.all_eq_true]
      exact fun pair hpair => decide_eq_true
        (Sequences.forall_adjacent.mpr (List.isChain_iff_pairwise.mpr hincreasing) pair hpair)
  have hfresh : latestFresh rt ((observed : ℚ) / 1000000 - grid.getLastD 0)
      item.freshness.max_age_seconds = .ok true := by
    rw [latestFresh, if_neg (not_lt.mpr hage)]
    exact hwithin
  simp only [readSeries, OpsAgent.bind_ok, ensure_eq_ok]
  refine ⟨(), hcovers, _, hsampled.timestamps, _, hsampled.values_read, ?_⟩
  simp only [finiteValues_some.mpr rfl, getLast?_eq_getLastD hnonempty, OpsAgent.bind_ok,
    ensure_eq_ok, OpsAgent.pure_ok]
  exact ⟨(), hchecks, observed, hobserved, true, hfresh, (), rfl, trivial⟩

/-- **And from all such series it has one.** Each condition of `ExactLag` is what one check of the
function asks for, and the checks are passed one after the other. -/
theorem lag_complete {observed_at : PyStr} {items : List ProjectedEvidence}
    {partitions : List PyStr} {grid : List ℚ} {series : List (ProjectedEvidence × List ℚ)}
    {value : LagValue} (h : ExactLag rt observed_at items partitions grid series value) :
    ∃ value', lag rt observed_at items = .ok value' := by
  obtain ⟨htopic, hgroup, hscope⟩ := h.one_scope
  obtain ⟨t, topic, htopic_eq⟩ := List.exists_cons_of_ne_nil htopic
  obtain ⟨g, group, hgroup_eq⟩ := List.exists_cons_of_ne_nil hgroup
  rw [htopic_eq, hgroup_eq] at hscope
  have hscopes : (items.map lagScope).dedup = [(some (t :: topic), some (g :: group))] := by
    refine dedup_of_forall (mt List.map_eq_nil_iff.mp h.nonempty) fun scope hmem => ?_
    obtain ⟨item, hitem, rfl⟩ := List.mem_map.mp hmem
    exact hscope item hitem
  have hcount : items.length = partitions.length := by
    simpa using congrArg List.length h.labelled
  have hseries_ne : series ≠ [] := by
    intro hnil
    rw [hnil] at h
    exact h.nonempty h.series_of.symm
  -- every item gives its series on the common grid
  have hread : items.mapM (readSeries rt observed_at partitions) =
      .ok (series.map fun entry => (grid, entry.2)) := by
    refine mapM_of_forall₂ ?_
    rw [← h.series_of, List.forall₂_map_left_iff, List.forall₂_map_right_iff,
      List.forall₂_same]
    intro entry hentry
    have hitem : entry.1 ∈ items := by
      rw [← h.series_of]
      exact List.mem_map_of_mem hentry
    obtain ⟨hcomplete, hexpected, hobserved, hexpected_count, hobserved_count⟩ :=
      h.covered entry.1 hitem
    rw [hcount] at hexpected_count hobserved_count
    exact readSeries_ends ⟨hcomplete, sameSet_iff.mpr hexpected, sameSet_iff.mpr hobserved,
      hexpected_count, hobserved_count⟩ h.grid_nonempty h.increasing (h.sampled entry hentry)
  obtain ⟨htotals_length, htotals⟩ := @columnTotals_spec grid.length _
    (mt List.map_eq_nil_iff.mp hseries_ne : series.map Prod.snd ≠ []) (by
      intro values hvalues
      obtain ⟨entry, hentry, rfl⟩ := List.mem_map.mp hvalues
      exact (h.sampled entry hentry).length_eq)
  have htotals_ne : columnTotals (series.map Prod.snd) ≠ [] := by
    intro hnil
    rw [hnil] at htotals_length
    exact h.grid_nonempty (List.eq_nil_of_length_eq_zero htotals_length.symm)
  have hfinite : (columnTotals (series.map Prod.snd)).all
      (fun total => (PyFloat.ofRat total).isFinite) = true := by
    rw [List.all_eq_true]
    intro total htotal
    obtain ⟨i, hi, rfl⟩ := List.mem_iff_getElem.mp htotal
    have hsum := htotals i
    rw [List.getD_eq_getElem?_getD, List.getElem?_eq_getElem hi, Option.getD_some,
      List.map_map] at hsum
    rw [hsum]
    exact h.finite i (htotals_length ▸ hi)
  obtain ⟨peak, hpeak⟩ := greatest_ends htotals_ne
  obtain ⟨first, rest, rfl⟩ := List.exists_cons_of_ne_nil hseries_ne
  refine ⟨⟨(columnTotals ((first :: rest).map Prod.snd)).getLastD 0, peak, grid.getLastD 0,
    partitions.insertionSort (· ≤ ·), t :: topic, g :: group⟩, ?_⟩
  simp only [lag, OpsAgent.bind_ok, ensure_eq_ok]
  refine ⟨(), ⟨h.nonempty, List.all_eq_true.mpr h.usable⟩, partitions,
    partitionOf_labelled h.labelled, (), h.one_each, ?_⟩
  rw [hscopes]
  simp only [OpsAgent.bind_ok]
  refine ⟨_, hread, ?_⟩
  have hsame : (rest.map fun entry => (grid, entry.2)).all
      (fun read => read.1 = grid) = true := by
    simp
  have hvalues : ((first :: rest).map fun entry => (grid, entry.2)).map (·.2) =
      (first :: rest).map Prod.snd := List.map_map
  rw [List.map_cons] at hvalues ⊢
  simp only [OpsAgent.bind_ok, ensure_eq_ok, OpsAgent.pure_ok, hvalues]
  exact ⟨(), hsame, (), hfinite, _, lastOf_ends htotals_ne, peak, hpeak, _,
    lastOf_ends h.grid_nonempty, rfl⟩

end Lag


end EventPipeline.Guarantees
