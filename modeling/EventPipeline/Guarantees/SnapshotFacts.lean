import EventPipeline.Guarantees.IncidentLifecycle
import EventPipeline.Guarantees.SnapshotLag

/-!
# EventPipeline.Guarantees.SnapshotFacts

The facts of a snapshot are exact, and unknown where anything is missing.

First no derivation raises what `derive` does not catch: the indexing of lists happens behind
checks that they are not empty. The values are those of `SnapshotRequests` and `SnapshotLag`,
where each derivation is inverted: a value is only returned from evidence that passed every
check, and always from such evidence.
-/

namespace EventPipeline.Guarantees

open EventPipeline.Python EventPipeline.OpsAgent EventPipeline.OpsAgent.ObservationFacts

/-! ### Exceptions

An `IndexError` is the one exception that `derive` lets through. Everything that is called inside
it is shown to raise none, by one rule for each way a computation is put together. -/

/-- What is raised leaves a fact unknown. -/
def Caught {α : Type} (x : Except OpsExc α) : Prop :=
  ∀ error, x = .error error → isFactError error = true

section Exceptions

variable {α β : Type}

@[simp] theorem caught_ok (a : α) : Caught (.ok a : Except OpsExc α) := by
  intro error h
  cases h

@[simp] theorem caught_pure (a : α) : Caught (pure a : Except OpsExc α) := caught_ok a

@[simp] theorem caught_error {error : OpsExc} :
    Caught (.error error : Except OpsExc α) ↔ isFactError error = true := by
  constructor
  · exact fun h => h error rfl
  · rintro h _ ⟨⟩
    exact h

theorem Caught.bind {x : Except OpsExc α} {f : α → Except OpsExc β} (hx : Caught x)
    (hf : ∀ a, x = .ok a → Caught (f a)) : Caught (x >>= f) := by
  cases x with
  | error error => exact caught_error.mpr (hx error rfl)
  | ok a => exact hf a rfl

theorem caught_ensure {condition : Prop} [Decidable condition] {error : OpsExc}
    (h : isFactError error = true) : Caught (ensure condition error) := by
  unfold ensure
  split_ifs
  · exact caught_ok _
  · exact caught_error.mpr h

theorem caught_mapM {f : α → Except OpsExc β} (h : ∀ a, Caught (f a)) (values : List α) :
    Caught (values.mapM f) := by
  induction values with
  | nil => exact caught_pure _
  | cons a values ih =>
      rw [List.mapM_cons]
      exact (h a).bind fun _ _ => ih.bind fun _ _ => caught_pure _

theorem caught_field (value : Json) (key : String) : Caught (field value key) := by
  unfold field
  split
  · split
    · exact caught_ok _
    · exact caught_error.mpr rfl
  · exact caught_error.mpr rfl

theorem caught_getMethod (value : Json) (key : String) (default : Json) :
    Caught (getMethod value key default) := by
  unfold getMethod
  split
  · exact caught_ok _
  · exact caught_error.mpr rfl

theorem caught_iterate (value : Json) : Caught (iterate value) := by
  unfold iterate
  split
  · exact caught_ok _
  · exact caught_ok _
  · exact caught_ok _
  · exact caught_error.mpr rfl

theorem caught_indexRows (entries : List (Json × Json)) (rows : List Json) :
    Caught (indexRows entries rows) := by
  induction rows generalizing entries with
  | nil => exact caught_pure _
  | cons row rows ih =>
      exact (caught_field _ _).bind fun _ _ => (caught_ensure rfl).bind fun _ _ => ih _

variable (rt : FactsRuntime)

theorem caught_timeOf (value : Json) : Caught (timeOf rt value) := by
  unfold timeOf
  split
  · split
    · exact caught_ok _
    · exact caught_error.mpr rfl
    · exact caught_error.mpr rfl
  · exact caught_error.mpr rfl

theorem caught_timely (start end_ : Int) (age : ℚ) (max_age_seconds : Option PyFloat) :
    Caught (timely start end_ age max_age_seconds) := by
  unfold timely
  split_ifs
  · exact caught_ok _
  · unfold ageWithin
    split
    · exact caught_ok _
    · exact caught_ok _
    · exact caught_ok _
    · exact caught_error.mpr rfl

theorem caught_persistenceOf (status_http body : Json) (events : List Json) (seconds : ℚ) :
    Caught (persistenceOf status_http body events seconds) := by
  refine (caught_getMethod _ _ _).bind fun status _ => ?_
  split_ifs
  · exact (caught_getMethod _ _ _).bind fun _ _ => (caught_ensure rfl).bind fun _ _ =>
      (caught_ensure rfl).bind fun _ _ => caught_pure _
  · exact caught_pure _
  · exact caught_pure _

theorem caught_readRequest (item : ProjectedEvidence) (states : List (Json × Json))
    (events : List Json) (identifier : PyStr) (receipt : Json) :
    Caught (readRequest rt item states events identifier receipt) := by
  refine (caught_field _ _).bind fun _ _ => (caught_ensure rfl).bind fun _ _ => ?_
  split
  · exact caught_error.mpr rfl
  · exact (caught_field _ _).bind fun _ _ => (caught_timeOf rt _).bind fun _ _ =>
      (caught_field _ _).bind fun _ _ => (caught_timeOf rt _).bind fun _ _ =>
      (caught_timeOf rt _).bind fun _ _ => (caught_timely _ _ _ _).bind fun _ _ =>
      (caught_ensure rfl).bind fun _ _ => (caught_getMethod _ _ _).bind fun _ _ =>
      (caught_getMethod _ _ _).bind fun _ _ => (caught_ensure rfl).bind fun _ _ =>
      (caught_field _ _).bind fun _ _ => (caught_persistenceOf _ _ _ _).bind fun _ _ =>
      caught_pure _

theorem caught_readRequests (item : ProjectedEvidence) (states : List (Json × Json))
    (events : List Json) (receipts : List (PyStr × Json)) :
    Caught (readRequests rt item states events receipts) := by
  induction receipts generalizing events with
  | nil => exact caught_pure _
  | cons receipt receipts ih =>
      exact (caught_readRequest rt _ _ _ _ _).bind fun _ _ => (ih _).bind fun _ _ => caught_pure _

theorem caught_requests (item : ProjectedEvidence) : Caught (requests rt item) := by
  refine (caught_field _ _).bind fun _ _ => (caught_field _ _).bind fun _ _ =>
    (caught_ensure rfl).bind fun _ _ => (caught_iterate _).bind fun _ _ =>
    (caught_indexRows _ _).bind fun _ _ => (caught_iterate _).bind fun _ _ =>
    (caught_indexRows _ _).bind fun _ _ => (caught_ensure rfl).bind fun _ _ => ?_
  split
  · exact caught_error.mpr rfl
  · exact (caught_readRequests rt _ _ _ _).bind fun _ _ => caught_pure _

theorem caught_decimalOf (value : Json) : Caught (decimalOf rt value) := by
  unfold decimalOf
  split
  · exact caught_ok _
  · exact caught_error.mpr rfl

theorem caught_readDecimals (key : String) (value : Json) :
    Caught (readDecimals rt key value) :=
  (caught_iterate _).bind fun _ _ => caught_mapM (fun _ => (caught_field _ _).bind fun _ _ =>
    caught_decimalOf rt _) _

theorem caught_latestFresh (age : ℚ) (max_age_seconds : Option PyFloat) :
    Caught (latestFresh rt age max_age_seconds) := by
  unfold latestFresh
  split_ifs
  · exact caught_ok _
  · refine (caught_decimalOf rt _).bind fun bound _ => ?_
    split
    · exact caught_pure _
    · exact caught_pure _
    · exact caught_error.mpr rfl

theorem caught_readSeries (observed_at : PyStr) (partitions : List PyStr)
    (item : ProjectedEvidence) : Caught (readSeries rt observed_at partitions item) := by
  refine (caught_ensure rfl).bind fun _ _ => (caught_readDecimals rt _ _).bind fun _ _ =>
    (caught_readDecimals rt _ _).bind fun _ _ => ?_
  split
  · rename_i grid values _ _
    refine (caught_ensure rfl).bind fun _ hchecked => (caught_timeOf rt _).bind fun _ _ => ?_
    split
    · rename_i hlast
      exact absurd (List.getLast?_eq_none_iff.mp hlast) (ensure_eq_ok.mp hchecked).1
    · exact (caught_latestFresh rt _ _).bind fun _ _ => (caught_ensure rfl).bind fun _ _ =>
        caught_pure _
  · exact caught_error.mpr rfl

theorem caught_blockingEdges (row : Json) : Caught (blockingEdges row) := by
  refine (caught_field _ _).bind fun pid _ => Caught.bind ?_ fun blocking _ => ?_
  · split
    · exact caught_field _ _
    · exact caught_error.mpr rfl
  · split
    · refine caught_mapM (fun blocker => ?_) _
      split
      · split_ifs
        · exact caught_error.mpr rfl
        · exact caught_ok _
      · exact caught_error.mpr rfl
    · exact caught_error.mpr rfl

theorem caught_checkCaptured (server_at : Json) : Caught (checkCaptured rt server_at) := by
  unfold checkCaptured
  split
  · exact caught_ok _
  · cases h : timeOf rt server_at with
    | error error => exact caught_error.mpr (caught_timeOf rt _ error h)
    | ok instant => exact caught_ok _

theorem caught_waits (item : ProjectedEvidence) : Caught (waits rt item) := by
  refine (caught_field _ _).bind fun rows _ => (caught_getMethod _ _ _).bind fun _ _ =>
    (caught_checkCaptured rt _).bind fun _ _ => ?_
  split
  · exact (caught_ensure rfl).bind fun _ _ => (caught_mapM caught_blockingEdges _).bind
      fun _ _ => caught_pure _
  · exact caught_error.mpr rfl

end Exceptions

/-! ### The snapshot

Each fact is known exactly where its derivation ends with a value. -/

/-- The evidence items of a metric. -/
def metricItems (context : Context) (metric : String) : List ProjectedEvidence :=
  context.evidence.filter fun item => item.metric.name = PyStr.ofString metric

/-- A derivation never raises, and its fact is known exactly where the items of the metric are
usable, as many as the derivation takes, and their value is derived. -/
theorem derive_ok {α : Type} (context : Context) (metric : String) (multiple : Bool)
    {transform : List ProjectedEvidence → Except OpsExc α}
    (h : ∀ items, items ≠ [] → Caught (transform items)) :
    ∃ fact, derive context metric multiple transform = .ok fact ∧
      ∀ value, fact.value = some value ↔ metricItems context metric ≠ [] ∧
        (∀ item ∈ metricItems context metric, fresh item = true) ∧
        (multiple = false → (metricItems context metric).length = 1) ∧
        transform (metricItems context metric) = .ok value := by
  unfold derive
  dsimp only
  rw [← metricItems]
  -- the items are not usable: the fact is unknown whatever the derivation would do
  split_ifs with hunusable
  · refine ⟨_, rfl, fun value => ⟨fun hvalue => absurd hvalue (by simp), ?_⟩⟩
    intro ⟨hnonempty, hfresh, hsingle, _⟩
    rcases hunusable with hnil | hstale | ⟨hmultiple, hmany⟩
    · exact absurd hnil hnonempty
    · exact absurd (List.all_eq_true.mpr hfresh) hstale
    · exact absurd (hsingle hmultiple) hmany
  · rw [not_or, not_or, not_not, List.all_eq_true] at hunusable
    obtain ⟨hnonempty, hfresh, hsingle⟩ := hunusable
    cases htransform : transform (metricItems context metric) with
    | ok value =>
        refine ⟨_, rfl, fun other => ⟨fun hother => ?_, fun hother => ?_⟩⟩
        · obtain rfl : value = other := Option.some.inj hother
          exact ⟨hnonempty, hfresh, fun hmultiple => not_ne_iff.mp fun hne =>
            hsingle ⟨hmultiple, hne⟩, rfl⟩
        · exact congrArg some (Except.ok.inj hother.2.2.2)
    -- an exception that `derive` catches makes the fact unknown
    | error error =>
        dsimp only
        rw [if_pos (h _ hnonempty error htransform)]
        refine ⟨_, rfl, fun value => ⟨fun hvalue => absurd hvalue (by simp), fun hvalue => ?_⟩⟩
        cases hvalue.2.2.2

theorem caught_onFirst {α : Type} {transform : ProjectedEvidence → Except OpsExc α}
    (h : ∀ item, Caught (transform item)) {items : List ProjectedEvidence} (hne : items ≠ []) :
    Caught (onFirst transform items) := by
  obtain ⟨item, items, rfl⟩ := List.exists_cons_of_ne_nil hne
  exact h item

theorem caught_lastOf {values : List ℚ} (h : values ≠ []) : Caught (lastOf values) := by
  unfold lastOf
  split
  · exact caught_ok _
  · rename_i hlast
    exact absurd (List.getLast?_eq_none_iff.mp hlast) h

theorem caught_partitionOf (item : ProjectedEvidence) : Caught (partitionOf item) := by
  unfold partitionOf
  split
  · exact caught_ok _
  · exact caught_error.mpr rfl

theorem caught_greatest (totals : List ℚ) : Caught (greatest totals) := by
  cases totals with
  | nil => exact caught_error.mpr rfl
  | cons total totals => exact caught_ok _

/-- The last entries that are taken are of lists that are not empty. -/
theorem caught_lag (rt : FactsRuntime) (observed_at : PyStr) (items : List ProjectedEvidence) :
    Caught (lag rt observed_at items) := by
  refine (caught_ensure rfl).bind fun _ hitems => (caught_mapM caught_partitionOf _).bind
    fun partitions _ => (caught_ensure rfl).bind fun _ _ => ?_
  split
  · refine (caught_mapM (caught_readSeries rt observed_at partitions) _).bind fun read hread => ?_
    have hall := forall₂_of_mapM hread
    cases read with
    | nil =>
        have hnil : items = [] := List.eq_nil_of_length_eq_zero hall.length_eq
        exact absurd hnil (ensure_eq_ok.mp hitems).1
    | cons first rest =>
        refine (caught_ensure rfl).bind fun _ hgrids => ?_
        rw [ensure_eq_ok, List.all_eq_true] at hgrids
        obtain ⟨hgrid, hlength, _⟩ := length_columnTotals hall
          fun entry hentry => of_decide_eq_true (hgrids entry hentry)
        have htotals : columnTotals ((first :: rest).map Prod.snd) ≠ [] := by
          intro hnil
          rw [hnil] at hlength
          exact hgrid (List.eq_nil_of_length_eq_zero hlength.symm)
        exact (caught_ensure rfl).bind fun _ _ => (caught_lastOf htotals).bind fun _ _ =>
          (caught_greatest _).bind fun _ _ => (caught_lastOf hgrid).bind fun _ _ => caught_pure _
  · exact caught_error.mpr rfl

/-- `build_facts` returns, whatever the values of the metrics are. The requests fact is known
exactly where there is one usable request item with a complete inventory whose polls can be
read, and then all its requests are accounted for; the requests are reported as persisted
exactly when all are known to be; and the lag fact is known exactly where the series share one
scope and one grid and cover their partitions, and then it is their exact total.

Nothing escapes `derive` (`caught_requests`, `caught_lag`, `caught_waits`), so each fact is known
exactly where its derivation ends with a value (`derive_ok`); the two derivations are inverted by
`requests_ok` and `lag_ok`, and found to end by `requests_complete` and `lag_complete`. -/
theorem buildFacts_exact (rt : FactsRuntime) (context : Context) :
    ∃ facts, buildFacts rt context = .ok facts ∧
    (∀ value, facts.requests.value = some value → ∃ item receipts polls,
      metricItems context "event_acceptance_and_persistence" = [item] ∧ fresh item = true ∧
      CompleteInventory rt item receipts polls ∧ ClassifiedRequests receipts polls value) ∧
    ((∃ value, facts.requests.value = some value) ↔ ∃ item receipts polls,
      metricItems context "event_acceptance_and_persistence" = [item] ∧ fresh item = true ∧
      CompleteInventory rt item receipts polls ∧ ReadableInventory polls) ∧
    (facts.request_state = .sampledRequestsPersisted ↔
      ∃ value, facts.requests.value = some value ∧
        ∀ id ∈ value.accepted_ids, id ∈ value.persisted_ids) ∧
    (∀ value, facts.lag.value = some value → ∃ partitions grid series,
      ExactLag rt context.observed_at (metricItems context "kafka_consumergroup_lag") partitions
        grid series value) ∧
    ((∃ value, facts.lag.value = some value) ↔ ∃ partitions grid series value,
      ExactLag rt context.observed_at (metricItems context "kafka_consumergroup_lag") partitions
        grid series value) := by
  obtain ⟨requests_fact, hrequests, hrequests_known⟩ :=
    derive_ok context "event_acceptance_and_persistence" false
      fun _ => caught_onFirst (caught_requests rt)
  obtain ⟨lag_fact, hlag, hlag_known⟩ :=
    derive_ok context "kafka_consumergroup_lag" true
      fun items _ => caught_lag rt context.observed_at items
  obtain ⟨waits_fact, hwaits, _⟩ :=
    derive_ok context "postgres_blocking_activity" false
      fun _ => caught_onFirst (caught_waits rt)
  -- a known value has one item, and its derivation has ended with it
  have hknown : ∀ value, requests_fact.value = some value → ∃ item receipts polls,
      metricItems context "event_acceptance_and_persistence" = [item] ∧ fresh item = true ∧
      CompleteInventory rt item receipts polls ∧ ReadableInventory polls ∧
        ClassifiedRequests receipts polls value := by
    intro value hvalue
    obtain ⟨_, hfresh, hsingle, htransform⟩ := (hrequests_known value).mp hvalue
    obtain ⟨item, hitem⟩ := List.length_eq_one_iff.mp (hsingle rfl)
    rw [hitem] at hfresh htransform
    obtain ⟨receipts, polls, hinventory, hreadable, hclassified⟩ := requests_ok htransform
    exact ⟨item, receipts, polls, hitem, hfresh item List.mem_cons_self, hinventory, hreadable,
      hclassified⟩
  have hlag_exact : ∀ value, lag_fact.value = some value → ∃ partitions grid series,
      ExactLag rt context.observed_at (metricItems context "kafka_consumergroup_lag") partitions
        grid series value := by
    intro value hvalue
    exact lag_ok ((hlag_known value).mp hvalue).2.2.2
  refine ⟨⟨context.observed_at, context.bundle_sha256, requestState requests_fact.value,
    requests_fact, lag_fact, waits_fact⟩, ?_, ?_, ⟨?_, ?_⟩, ?_, hlag_exact, ⟨?_, ?_⟩⟩
  · simp only [buildFacts, OpsAgent.bind_ok, OpsAgent.pure_ok]
    exact ⟨requests_fact, hrequests, lag_fact, hlag, waits_fact, hwaits, rfl⟩
  · intro value hvalue
    obtain ⟨item, receipts, polls, hitem, hfresh, hinventory, _, hclassified⟩ := hknown value hvalue
    exact ⟨item, receipts, polls, hitem, hfresh, hinventory, hclassified⟩
  · intro hvalue
    obtain ⟨value, hvalue⟩ := hvalue
    obtain ⟨item, receipts, polls, hitem, hfresh, hinventory, hreadable, _⟩ := hknown value hvalue
    exact ⟨item, receipts, polls, hitem, hfresh, hinventory, hreadable⟩
  · intro hinventory
    obtain ⟨item, receipts, polls, hitem, hfresh, hinventory, hreadable⟩ := hinventory
    -- the other way the checks are met, and the derivation ends
    obtain ⟨value, hvalue⟩ := requests_complete hinventory hreadable
    refine ⟨value, (hrequests_known value).mpr ?_⟩
    rw [hitem]
    exact ⟨List.cons_ne_nil _ _, by simpa using hfresh, fun _ => rfl, hvalue⟩
  · dsimp only
    cases hvalue : requests_fact.value with
    | none => simp [requestState]
    | some value =>
        obtain ⟨item, receipts, polls, _, _, hinventory, _, hclassified⟩ := hknown value hvalue
        -- persisted is counted against the receipts, whose ids have no repetition
        obtain ⟨rows, _, hby_id⟩ := hinventory.accepted
        rw [requestState_persisted_iff hclassified hby_id.ids_nodup]
        simp
  · intro hvalue
    obtain ⟨value, hvalue⟩ := hvalue
    obtain ⟨partitions, grid, series, hexact⟩ := hlag_exact value hvalue
    exact ⟨partitions, grid, series, value, hexact⟩
  · intro hexact
    obtain ⟨partitions, grid, series, value, hexact⟩ := hexact
    obtain ⟨total, htotal⟩ := lag_complete hexact
    exact ⟨total, (hlag_known total).mpr
      ⟨hexact.nonempty, hexact.usable, fun hsingle => absurd hsingle (by decide), htotal⟩⟩

/-- The times of the sample, by their texts. -/
def snapshotTimes : List (PyStr × Int) := [
  (PyStr.ofString "2026-06-04T10:00:00+00:00", 1780567200000000),
  (PyStr.ofString "2026-06-04T10:00:02+00:00", 1780567202000000),
  (PyStr.ofString "2026-06-04T10:00:05+00:00", 1780567205000000)]

def snapshotRuntime : FactsRuntime where
  ops := sampleOpsRuntime
  fromisoformat text := (snapshotTimes.lookup text).map .aware

/-- A usable item, collected at the last of the times. -/
def snapshotItem (evidence_id name : PyStr) (value : Json) (partitions : List PyStr)
    (labels : List (PyStr × PyStr)) : ProjectedEvidence where
  evidence_id := evidence_id
  freshness := ⟨.fresh, none, some (PyFloat.ofNat 30), "collected_at"⟩
  usable := true
  source_timestamp := some "2026-06-04T10:00:05Z"
  metric := ⟨name, value, none, none, none, none⟩
  labels := labels
  coverage := ⟨some partitions.length, some partitions.length, some true, partitions, partitions,
    [], [], none⟩

/-- A receipt. -/
def receiptOf (id : PyStr) : Json :=
  .obj [("request_id", .str id), ("http_status", .int 202), ("at", .str "2026-06-04T10:00:00Z")]

/-- The poll that found the event of a request. -/
def pollOf (id event_id : PyStr) : Json :=
  .obj [("request_id", .str id), ("http_status", .int 200), ("at", .str "2026-06-04T10:00:02Z"),
    ("body", .obj [("request_id", .str id), ("status", .str "persisted"),
      ("event_id", .str event_id)])]

/-- Samples one second apart. -/
def lagSamples (values : List Int) : Json :=
  .arr ((values.zipIdx 1780567200).map fun sample =>
    .obj [("timestamp", .int sample.2), ("value", .int sample.1)])

def lagItem (evidence_id partition : PyStr) (values : List Int) : ProjectedEvidence :=
  snapshotItem evidence_id "kafka_consumergroup_lag" (lagSamples values) ["0", "1"]
    [("partition", partition), ("topic", "message-ingress"), ("consumergroup", "message-worker")]

/-- Two requests, both persisted, and the lag of two partitions that drain. -/
def snapshotContext : Context where
  evidence := [
    snapshotItem "requests" "event_acceptance_and_persistence"
      (.obj [("accepted", .arr [receiptOf "r1", receiptOf "r2"]),
        ("status_polls", .arr [pollOf "r2" "e2", pollOf "r1" "e1"])]) [] [],
    lagItem "lag-0" "0" [4, 2, 0],
    lagItem "lag-1" "1" [1, 3, 0]]
  observed_at := "2026-06-04T10:00:05Z"
  bundle_sha256 := "00"

/-- Both facts of the context are known, and the evidence they stand for is there. -/
theorem buildFacts_exact_sample :
    ∃ facts, buildFacts snapshotRuntime snapshotContext = .ok facts ∧
    facts.request_state = .sampledRequestsPersisted ∧
    (∃ item receipts polls,
      metricItems snapshotContext "event_acceptance_and_persistence" = [item] ∧
      CompleteInventory snapshotRuntime item receipts polls ∧ ReadableInventory polls) ∧
    ∃ value partitions grid series, facts.lag.value = some value ∧
      (value.latest_total, value.window_peak_total) = (0, 5) ∧
      ExactLag snapshotRuntime snapshotContext.observed_at
        (metricItems snapshotContext "kafka_consumergroup_lag") partitions grid series value := by
  have hvalues : ((buildFacts snapshotRuntime snapshotContext).map fun facts =>
      (facts.request_state, facts.lag.value.map fun value =>
        (value.latest_total, value.window_peak_total))).toOption =
          some (.sampledRequestsPersisted, some (0, 5)) := by
    decide +kernel
  obtain ⟨facts, hfacts, -, hrequests, hstate, hlag, -⟩ :=
    buildFacts_exact snapshotRuntime snapshotContext
  rw [hfacts] at hvalues
  obtain ⟨hpersisted, htotals⟩ := Prod.mk.inj (Option.some.inj hvalues)
  obtain ⟨value, hvalue, htotal⟩ := Option.map_eq_some_iff.mp htotals
  obtain ⟨request, hrequest, -⟩ := hstate.mp hpersisted
  obtain ⟨item, receipts, polls, hitem, -, hinventory, hreadable⟩ :=
    hrequests.mp ⟨request, hrequest⟩
  obtain ⟨partitions, grid, series, hexact⟩ := hlag value hvalue
  exact ⟨facts, hfacts, hpersisted, ⟨item, receipts, polls, hitem, hinventory, hreadable⟩,
    value, partitions, grid, series, hvalue, htotal, hexact⟩

end EventPipeline.Guarantees
