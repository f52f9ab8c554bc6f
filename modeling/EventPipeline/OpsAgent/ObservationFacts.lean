import EventPipeline.OpsAgent.BacklogEvaluator
import EventPipeline.OpsAgent.ExperimentValidation

/-!
# EventPipeline.OpsAgent.ObservationFacts

`build_facts` of `ops_agent/observation_facts.py`.

The evidence has the shape that `prepare` projects, so its fields are typed; the value of a
metric is any JSON value, and what is read of it may raise anywhere. `derive` catches most
exceptions and leaves the fact unknown; an `IndexError` would end `build_facts`.

Decimals and floats are exact rationals here, as they are read from their texts. The
contract texts and the scope texts of the facts are constant and left out.
-/

namespace EventPipeline.OpsAgent.ObservationFacts

open EventPipeline.Python
open EventPipeline.OpsAgent.Experiment (truthy isContainer)
open EventPipeline.OpsAgent.Evaluator (sameSet)

/-! ### The context -/

/-- An entry of `context["evidence"]`. -/
structure ProjectedEvidence where
  evidence_id : PyStr
  freshness : Freshness
  usable : Bool
  /-- The text of the timestamp. -/
  source_timestamp : Option PyStr
  metric : MetricObservation
  labels : List (PyStr × PyStr)
  coverage : Coverage

/-- What `build_facts` reads of the context. -/
structure Context where
  evidence : List ProjectedEvidence
  observed_at : PyStr
  bundle_sha256 : PyStr

/-- What `datetime.fromisoformat` makes of a text: a naive time, or an aware one by its
microseconds from the epoch. -/
inductive ParsedTime
  | naive
  | aware (instant : Int)

/-- What is taken from the standard library. -/
structure FactsRuntime where
  ops : OpsRuntime
  /-- `datetime.fromisoformat`; `none` where it raises a `ValueError`. -/
  fromisoformat : PyStr → Option ParsedTime

variable (rt : FactsRuntime)

/-! ### JSON values of any shape

The values of the metrics have no schema. Every access of the source is a function that raises
what Python raises on a value of another shape. -/

/-- `value[key]`, which raises `KeyError` on an object without the key and `TypeError` on anything
else. -/
def field (value : Json) (key : String) : Except OpsExc Json :=
  match value with
  | .obj kvs =>
      match Dict.get? kvs key with
      | some found => .ok found
      | none => .error .keyError
  | _ => .error .typeError

/-- `value.get(key, default)`. -/
def getMethod (value : Json) (key : String) (default : Json) : Except OpsExc Json :=
  match value with
  | .obj kvs => .ok ((Dict.get? kvs key).getD default)
  | _ => .error .attributeError

/-- The items of an iteration over a value. -/
def iterate : Json → Except OpsExc (List Json)
  | .arr xs => .ok xs
  | .obj kvs => .ok (kvs.map fun entry => .str entry.1)
  | .str s => .ok (s.map fun c => .str [c])
  | _ => .error .typeError

/-- `value.replace("Z", "+00:00")`. -/
def replaceZulu (value : PyStr) : PyStr :=
  value.flatMap fun c => if c = CodePoint.ofChar 'Z' then PyStr.ofString "+00:00" else [c]

/-- `_time(value)`, as microseconds from the epoch. -/
def timeOf (value : Json) : Except OpsExc Int :=
  match value with
  | .str text =>
      match rt.fromisoformat (replaceZulu text) with
      | some (.aware instant) => .ok instant
      | some .naive => .error (.valueError "timestamp requires timezone")
      | none => .error (.valueError "Invalid isoformat string")
  | _ => .error (.valueError "timestamp must be a string")

/-- `(end - start).total_seconds()`. -/
def secondsBetween (start end_ : Int) : ℚ := ((end_ - start : Int) : ℚ) / 1000000

/-- `_fresh(item)`: usable evidence whose coverage has neither missing nor unexpected items. -/
def fresh (item : ProjectedEvidence) : Bool :=
  item.usable && item.coverage.missing_items.isEmpty && item.coverage.extra_items.isEmpty

/-! ### Requests

The receipts and the polls are put into dicts by the ids that they carry, and each receipt is then
judged with its poll. -/

/-- `d[key] = value` of a dict whose keys are any values with a hash. -/
def insertKey (key row : Json) : List (Json × Json) → List (Json × Json)
  | [] => [(key, row)]
  | entry :: entries =>
      if entry.1.eqItem key = true then (entry.1, row) :: entries
      else entry :: insertKey key row entries

/-- `{r["request_id"]: r for r in rows}`, onto the entries before. -/
def indexRows : List (Json × Json) → List Json → Except OpsExc (List (Json × Json))
  | entries, [] => return entries
  | entries, row :: rows => do
      let key ← field row "request_id"
      ensure (¬isContainer key = true) .typeError
      indexRows (insertKey key row entries) rows

/-- `set(receipts) == set(states)`. -/
def sameKeys (receipts states : List (Json × Json)) : Bool :=
  receipts.all (fun receipt => states.any fun state => state.1.eqItem receipt.1)
    && states.all fun state => receipts.any fun receipt => receipt.1.eqItem state.1

/-- The entries under their keys, where every key is a text and not empty. -/
def textKeys (entries : List (Json × Json)) : Option (List (PyStr × Json)) :=
  entries.mapM fun entry =>
    match entry.1 with
    | .str (c :: cs) => some (c :: cs, entry.2)
    | _ => none

/-- `persistence` of a request, with the identity of its event and the time to the poll. -/
inductive Persistence
  | confirmed (event : Json) (seconds : ℚ)
  | notYetObserved
  | unknown

/-- An entry of `per_request`. -/
structure RequestState where
  request_id : PyStr
  persistence : Persistence
  status_http : Json
  accepted_at : Json
  status_observed_at : Json

/-- `age <= max_age_seconds`. -/
def ageWithin (age : ℚ) : Option PyFloat → Except OpsExc Bool
  | some (.finite neg mag) => .ok (age ≤ PyFloat.toRat neg mag)
  | some (.inf neg) => .ok !neg
  | some .nan => .ok false
  | none => .error .typeError

/-- `not (start > end or not 0 <= age <= max_age_seconds)`. -/
def timely (start end_ : Int) (age : ℚ) (max_age_seconds : Option PyFloat) :
    Except OpsExc Bool :=
  if end_ < start ∨ age < 0 then .ok false else ageWithin age max_age_seconds

/-- `persistence` by the status code and the body of a poll. -/
def persistenceOf (status_http body : Json) (events : List Json) (seconds : ℚ) :
    Except OpsExc Persistence := do
  let status ← getMethod body "status" .null
  if status_http.pyEq (.int 200) = true ∧ status.pyEq (.str "persisted") = true then
    let event ← getMethod body "event_id" .null
    ensure (¬(truthy event = true ∧ isContainer event = true)) .typeError
    ensure (truthy event = true ∧ ¬events.any event.eqItem = true)
      (.valueError "missing or duplicate persisted event identity")
    return .confirmed event seconds
  else if status_http.pyEq (.int 404) = true ∨
      (status_http.pyEq (.int 200) = true ∧ status.pyEq (.str "queued") = true) then
    return .notYetObserved
  else return .unknown

/-- A round of the loop over the receipts. -/
def readRequest (item : ProjectedEvidence) (states : List (Json × Json)) (events : List Json)
    (identifier : PyStr) (receipt : Json) : Except OpsExc RequestState := do
  let http_status ← field receipt "http_status"
  ensure (http_status.pyEq (.int 202) = true) (.valueError "receipt is not an accepted event")
  match states.find? fun state => state.1.eqItem (.str identifier) with
  | none => .error .keyError
  | some (_, row) => do
      let accepted_at ← field receipt "at"
      let start ← timeOf rt accepted_at
      let status_observed_at ← field row "at"
      let end_ ← timeOf rt status_observed_at
      let collected ← timeOf rt ((item.source_timestamp.map Json.str).getD .null)
      let in_time ←
        timely start end_ (secondsBetween end_ collected) item.freshness.max_age_seconds
      ensure (in_time = true) (.valueError "invalid or stale request poll timestamp")
      let body ← getMethod row "body" (.obj [])
      let claimed ← getMethod body "request_id" (.str identifier)
      ensure (claimed.pyEq (.str identifier) = true)
        (.valueError "poll body request identity mismatch")
      let status_http ← field row "http_status"
      let persistence ← persistenceOf status_http body events (secondsBetween start end_)
      return ⟨identifier, persistence, status_http, accepted_at, status_observed_at⟩

/-- The events of the requests read so far. -/
def RequestState.event? (state : RequestState) : Option Json :=
  match state.persistence with
  | .confirmed event _ => some event
  | _ => none

/-- The loop over the receipts. -/
def readRequests (item : ProjectedEvidence) (states : List (Json × Json)) :
    List Json → List (PyStr × Json) → Except OpsExc (List RequestState)
  | _, [] => return []
  | events, (identifier, receipt) :: receipts => do
      let state ← readRequest rt item states events identifier receipt
      let rest ← readRequests item states (state.event?.toList ++ events) receipts
      return state :: rest

/-- The value of the `requests` fact. -/
structure RequestsValue where
  accepted_ids : List PyStr
  persisted_ids : List PyStr
  not_yet_persisted_ids : List PyStr
  unobservable_ids : List PyStr
  accepted_to_status_observed_seconds : List (PyStr × ℚ)
  per_request : List RequestState

/-- `sorted(…)` of the ids of the requests whose persistence is as tested. -/
def idsWith (test : Persistence → Bool) (states : List RequestState) : List PyStr :=
  ((states.filter fun state => test state.persistence).map
    (·.request_id)).insertionSort (· ≤ ·)

def Persistence.isConfirmed : Persistence → Bool
  | .confirmed _ _ => true
  | _ => false

def Persistence.isNotYet : Persistence → Bool
  | .notYetObserved => true
  | _ => false

def Persistence.isUnknown : Persistence → Bool
  | .unknown => true
  | _ => false

/-- `bounds`. -/
def boundOf (state : RequestState) : Option (PyStr × ℚ) :=
  match state.persistence with
  | .confirmed _ seconds => some (state.request_id, seconds)
  | _ => none

/-- The value of the fact, from the receipts by their ids and what was read of each. -/
def requestsValue (receipts : List (PyStr × Json)) (per_request : List RequestState) :
    RequestsValue where
  accepted_ids := (receipts.map (·.1)).insertionSort (· ≤ ·)
  persisted_ids := idsWith Persistence.isConfirmed per_request
  not_yet_persisted_ids := idsWith Persistence.isNotYet per_request
  unobservable_ids := idsWith Persistence.isUnknown per_request
  accepted_to_status_observed_seconds := per_request.filterMap boundOf
  per_request := per_request.insertionSort fun a b => a.request_id ≤ b.request_id

/-- `_requests(item)`: the receipts and the polls by the ids of their requests, which have to be
the same, and what became of every request. -/
def requests (item : ProjectedEvidence) : Except OpsExc RequestsValue := do
  let accepted ← field item.metric.value "accepted"
  let polls ← field item.metric.value "status_polls"
  ensure (truthy accepted = true ∧ item.coverage.complete = some true)
    (.valueError "complete nonempty request inventory required")
  let accepted_rows ← iterate accepted
  let receipts ← indexRows [] accepted_rows
  let poll_rows ← iterate polls
  let states ← indexRows [] poll_rows
  ensure (receipts.length = accepted_rows.length ∧ states.length = poll_rows.length ∧
    sameKeys receipts states = true) (.valueError "request identity coverage mismatch")
  match textKeys receipts with
  | none => .error (.valueError "request identity coverage mismatch")
  | some receipts => do
      let per_request ← readRequests rt item states [] receipts
      return requestsValue receipts per_request

/-! ### Lag -/

/-- `Decimal(str(value))`. -/
def decimalOf (value : Json) : Except OpsExc PyDecimal :=
  match PyDecimal.parse rt.ops.chars (strOf rt.ops value) with
  | some decimal => .ok decimal
  | none => .error .arithmeticError

/-- `[Decimal(str(s[key])) for s in value]`. -/
def readDecimals (key : String) (value : Json) : Except OpsExc (List PyDecimal) := do
  let entries ← iterate value
  entries.mapM fun entry => do
    let number ← field entry key
    decimalOf rt number

/-- The values, where all are finite. -/
def finiteValues (decimals : List PyDecimal) : Option (List ℚ) :=
  decimals.mapM fun
    | .finite value => some value
    | _ => none

/-- `age <= Decimal(str(max_age_seconds))`; a comparison with a NaN is an
`InvalidOperation`. -/
def decimalAgeWithin (age : ℚ) (max_age_seconds : Option PyFloat) : Except OpsExc Bool := do
  let bound ← decimalOf rt ((max_age_seconds.map Json.float).getD .null)
  match bound with
  | .finite value => return age ≤ value
  | .inf neg => return !neg
  | .nan _ => .error .arithmeticError

/-- `0 <= age <= Decimal(str(max_age_seconds))`. -/
def latestFresh (age : ℚ) (max_age_seconds : Option PyFloat) : Except OpsExc Bool :=
  if age < 0 then .ok false else decimalAgeWithin rt age max_age_seconds

/-- The coverage is of exactly these partitions. -/
def coversPartitions (coverage : Coverage) (partitions : List PyStr) : Prop :=
  coverage.complete = some true ∧ sameSet coverage.expected_items partitions = true ∧
  sameSet coverage.observed_items partitions = true ∧
  coverage.expected_count = some partitions.length ∧
  coverage.observed_count = some partitions.length

instance (coverage : Coverage) (partitions : List PyStr) :
    Decidable (coversPartitions coverage partitions) := by
  unfold coversPartitions
  infer_instance

/-- A round of the loop over the lag items: the grid of the samples, and their values. -/
def readSeries (observed_at : PyStr) (partitions : List PyStr) (item : ProjectedEvidence) :
    Except OpsExc (List ℚ × List ℚ) := do
  ensure (coversPartitions item.coverage partitions) (.valueError "incomplete partition coverage")
  let timestamps ← readDecimals rt "timestamp" item.metric.value
  let decimals ← readDecimals rt "value" item.metric.value
  match finiteValues timestamps, finiteValues decimals with
  | some grid, some values => do
      ensure (grid ≠ [] ∧ values.all (0 ≤ ·) = true ∧
        (grid.zip grid.tail).all (fun pair => pair.1 < pair.2) = true)
        (.valueError "invalid lag values or sample order")
      let observed ← timeOf rt (.str observed_at)
      match grid.getLast? with
      | none => .error .indexError
      | some latest => do
          let in_time ← latestFresh rt ((observed : ℚ) / 1000000 - latest)
            item.freshness.max_age_seconds
          ensure (in_time = true) (.valueError "latest lag sample is stale or in the future")
          return (grid, values)
  | _, _ => .error (.valueError "invalid lag values or sample order")

/-- `[sum(values) for values in zip(*series)]`. -/
def columnTotals : List (List ℚ) → List ℚ
  | [] => []
  | values :: series => series.foldl (List.zipWith (· + ·)) values

/-- `max(totals)`. -/
def greatest : List ℚ → Except OpsExc ℚ
  | [] => .error (.valueError "max() arg is an empty sequence")
  | total :: totals => .ok (totals.foldl max total)

/-- The value of the `lag` fact. -/
structure LagValue where
  latest_total : ℚ
  window_peak_total : ℚ
  latest_sample_timestamp : ℚ
  partitions : List PyStr
  topic : PyStr
  consumer_group : PyStr

/-- `e["labels"]["partition"]`. -/
def partitionOf (item : ProjectedEvidence) : Except OpsExc PyStr :=
  match item.labels.lookup (PyStr.ofString "partition") with
  | some label => .ok label
  | none => .error .keyError

/-- The topic and the consumer group of the labels. -/
def lagScope (item : ProjectedEvidence) : Option PyStr × Option PyStr :=
  (item.labels.lookup (PyStr.ofString "topic"),
    item.labels.lookup (PyStr.ofString "consumergroup"))

/-- `values[-1]`. -/
def lastOf (values : List ℚ) : Except OpsExc ℚ :=
  match values.getLast? with
  | some value => .ok value
  | none => .error .indexError

/-- `_lag(items, observed_at)`. -/
def lag (observed_at : PyStr) (items : List ProjectedEvidence) : Except OpsExc LagValue := do
  ensure (items ≠ [] ∧ items.all fresh = true) (.valueError "missing or unusable lag series")
  let partitions ← items.mapM partitionOf
  ensure partitions.Nodup (.valueError "duplicate partition or multiple consumer groups")
  match (items.map lagScope).dedup with
  | [(some (t :: topic), some (g :: group))] => do
      let read ← items.mapM (readSeries rt observed_at partitions)
      match read with
      | [] => .error .indexError
      | first :: rest => do
          ensure (rest.all (fun series => series.1 = first.1) = true)
            (.valueError "partition sample grids differ")
          let totals := columnTotals (read.map (·.2))
          -- `math.isfinite(float(total))`
          ensure (totals.all (fun total => (PyFloat.ofRat total).isFinite) = true)
            (.valueError "lag exceeds finite numeric range")
          let latest_total ← lastOf totals
          let window_peak_total ← greatest totals
          let latest_sample_timestamp ← lastOf first.1
          return {
            latest_total := latest_total
            window_peak_total := window_peak_total
            latest_sample_timestamp := latest_sample_timestamp
            partitions := partitions.insertionSort (· ≤ ·)
            topic := t :: topic
            consumer_group := g :: group }
  | _ => .error (.valueError "one explicit topic and consumer group required")

/-! ### Waits -/

/-- The value of the `database_waits` fact; an edge is a waiter and what blocks it. -/
structure WaitsValue where
  waiting_sessions : Nat
  blocking_edges : List (Int × Int)
  server_captured_at : Json
  collector_observed_at : Option PyStr

/-- The edges of a row. -/
def blockingEdges (row : Json) : Except OpsExc (List (Int × Int)) := do
  let pid ← field row "pid"
  let blocking ← (match pid with
    | .int _ => field row "blocking_pids"
    | _ => .error (.valueError "invalid wait graph"))
  match pid, blocking with
  | .int waiter, .arr blockers => blockers.mapM fun blocker =>
      match blocker with
      | .int z =>
          if z ≤ 0 ∨ waiter ≤ 0 then .error (.valueError "invalid process identity")
          else .ok (waiter, z)
      | _ => .error (.valueError "invalid process identity")
  | _, _ => .error (.valueError "invalid wait graph")

/-- `if server_at is not None: _time(server_at)`. -/
def checkCaptured (server_at : Json) : Except OpsExc Unit :=
  match server_at with
  | .null => .ok ()
  | value => (timeOf rt value).map fun _ => ()

/-- `waits(item)`: the processes that wait for a lock, with the edges to those that block them. -/
def waits (item : ProjectedEvidence) : Except OpsExc WaitsValue := do
  let rows ← field item.metric.value "waiting"
  let server_at ← getMethod item.metric.value "captured_at" .null
  checkCaptured rt server_at
  match rows with
  | .arr rows => do
      ensure (item.coverage.complete = some true) (.valueError "complete wait inventory required")
      let edges ← rows.mapM blockingEdges
      return ⟨rows.length, edges.flatten, server_at, item.source_timestamp⟩
  | _ => .error (.valueError "complete wait inventory required")

/-! ### Facts

A fact has a value or is unknown, and its derivation decides which: what it raises leaves the fact
unknown. -/

/-- A fact, which is `KNOWN` when it has a value. -/
structure Fact (α : Type) where
  evidence_ids : List PyStr
  value : Option α

/-- The exceptions that leave a fact unknown: `KeyError`, `TypeError`, `ValueError`,
`DecimalException`, `OverflowError` and `AttributeError`. -/
def isFactError : OpsExc → Bool
  | .indexError => false
  | _ => true

/-- `derive(name, metric, transform, multiple)`. -/
def derive {α : Type} (context : Context) (metric : String) (multiple : Bool)
    (transform : List ProjectedEvidence → Except OpsExc α) : Except OpsExc (Fact α) :=
  let items := context.evidence.filter fun item => item.metric.name = PyStr.ofString metric
  let evidence_ids := items.map (·.evidence_id)
  if items = [] ∨ ¬items.all fresh = true ∨ (multiple = false ∧ items.length ≠ 1) then
    .ok ⟨evidence_ids, none⟩
  else
    match transform items with
    | .ok value => .ok ⟨evidence_ids, some value⟩
    | .error error =>
        if isFactError error = true then .ok ⟨evidence_ids, none⟩ else .error error

/-- `transform(items[0])`, for a fact that is derived from one item. -/
def onFirst {α : Type} (transform : ProjectedEvidence → Except OpsExc α) :
    List ProjectedEvidence → Except OpsExc α
  | [] => .error .indexError
  | item :: _ => transform item

/-- `request_state`. -/
inductive RequestsState
  | unknown
  | acceptedRequestsPending
  | sampledRequestsPersisted
  deriving DecidableEq

/-- The state of the sampled requests, as far as it is known. -/
def requestState : Option RequestsValue → RequestsState
  | none => .unknown
  | some value =>
      if value.unobservable_ids ≠ [] then .unknown
      else if value.not_yet_persisted_ids ≠ [] then .acceptedRequestsPending
      else .sampledRequestsPersisted

/-- The facts of a snapshot. -/
structure Facts where
  observed_at : PyStr
  bundle_sha256 : PyStr
  request_state : RequestsState
  requests : Fact RequestsValue
  lag : Fact LagValue
  database_waits : Fact WaitsValue

/-- `build_facts(context)`: the three facts of a snapshot, each derived from the evidence of its
own tool, and the state of the requests. -/
def buildFacts (context : Context) : Except OpsExc Facts := do
  let requests ← derive context "event_acceptance_and_persistence" false (onFirst (requests rt))
  let lag ← derive context "kafka_consumergroup_lag" true (lag rt context.observed_at)
  let database_waits ← derive context "postgres_blocking_activity" false (onFirst (waits rt))
  return {
    observed_at := context.observed_at
    bundle_sha256 := context.bundle_sha256
    request_state := requestState requests.value
    requests := requests
    lag := lag
    database_waits := database_waits }

end EventPipeline.OpsAgent.ObservationFacts
