import EventPipeline.OpsAgent.Calibration

/-!
# EventPipeline.OpsAgent.ExperimentValidation

`RecoveryWindow` of `ops_agent/experiment_validation.py`.

A call of `observe` first reads its arguments, which are JSON values of any shape, and may
raise there; it then compares the observation with the three fields the window keeps.
Nothing is assigned before the reading is done, so a call that raises changes nothing.
-/

namespace EventPipeline.OpsAgent.Experiment

open EventPipeline.Python

/-! ### Scope -/

/-- What the constructor checks and keeps: the expected names as a set, and the primary. -/
structure RecoveryScope where
  expected : List PyStr
  primary_name : PyStr
  primary_uid : Json
  primary_restarts : Json
  seconds : PyNumber
  max_gap : PyNumber
  expected_nodup : expected.Nodup
  primary_mem : primary_name ∈ expected

/-- `RecoveryWindow(expected_names, primary_name, …)`. -/
def RecoveryScope.make (expected_names : List PyStr) (primary_name : PyStr)
    (primary_uid primary_restarts : Json) (seconds max_gap : PyNumber) :
    Except OpsExc RecoveryScope :=
  if h : primary_name ∈ expected_names.dedup then
    .ok ⟨expected_names.dedup, primary_name, primary_uid, primary_restarts, seconds, max_gap,
      List.nodup_dedup expected_names, h⟩
  else .error (.valueError "invalid recovery scope")

/-! ### Observations

The arguments are decoded JSON. Wherever the source would raise on a value of another shape the
reading raises too, before the window has changed. -/

/-- The entry of a container in the identity of an observation. -/
structure IdentityEntry where
  pod : Json
  uid : Json
  container : Json
  restart_count : Json

/-- What the window takes from the standard library. -/
structure ObservationRuntime where
  /-- `datetime.fromisoformat`; `none` where it raises a `ValueError`. -/
  fromisoformat : PyStr → Option Timestamp
  /-- `repr` of an identity entry. -/
  repr : IdentityEntry → PyStr

/-- The arguments of `observe`. -/
structure Call where
  pods : List Json
  http_status : Json
  health : Json
  captured_at : PyStr

/-- What `observe` reads from its arguments. -/
structure Observation where
  timestamp : Aware
  healthy : Bool
  identity : List IdentityEntry

/-- `bool(value)`. -/
def truthy : Json → Bool
  | .null => false
  | .bool b => b
  | .int z => z ≠ 0
  | .float (.finite _ mag) => mag ≠ Binary64.zero
  | .float _ => true
  | .str s => !s.isEmpty
  | .arr xs => !xs.isEmpty
  | .obj kvs => !kvs.isEmpty

/-- A value of which `get` is called. -/
def asDict : Json → Except OpsExc Dict
  | .obj kvs => .ok kvs
  | _ => .error .attributeError

/-- The containers of a pod, of each of which `get` is called. -/
def containersOf (pod : Dict) : Except OpsExc (List Dict) :=
  match (pod.get? "containers").getD (.arr []) with
  | .arr containers => containers.mapM asDict
  | .obj [] => .ok []
  | .str [] => .ok []
  | .obj _ => .error .attributeError
  | .str _ => .error .attributeError
  | _ => .error .typeError

/-- A list or a dict, which has no hash. -/
def isContainer : Json → Bool
  | .arr _ => true
  | .obj _ => true
  | _ => false

/-- `len(names) == len(self.expected) and set(names) == self.expected`. -/
def namesMatch (expected : List PyStr) (names : List Json) : Except OpsExc Bool :=
  if names.length = expected.length then
    if names.any isContainer = true then .error .typeError
    else .ok (names.all (fun
        | .str name => name ∈ expected
        | _ => false)
      && expected.all fun name => names.any fun
        | .str other => other = name
        | _ => false)
  else .ok false

/-- The conditions on a pod and its containers. -/
def podHealthy (entry : Dict × List Dict) : Bool :=
  truthy (getOrNull entry.1 "uid") && !entry.2.isEmpty
    && entry.2.all (fun container =>
      match getOrNull container "ready" with
      | .bool true => true
      | _ => false)
    && entry.2.all fun container =>
      match getOrNull container "restartCount" with
      | .int _ => true
      | _ => false

/-- The conditions on the primary: its uid, and one container with the restart count. -/
def primaryHealthy (scope : RecoveryScope) (entries : List (Dict × List Dict)) : Bool :=
  match entries.find? fun entry => (getOrNull entry.1 "name").pyEq (.str scope.primary_name) with
  | some (pod, [container]) => (getOrNull pod "uid").pyEq scope.primary_uid
      && (getOrNull container "restartCount").eqItem scope.primary_restarts
  | _ => false

/-- `http_status == 200 and health.get("status") == "ready"`. -/
def healthReady (http_status health : Json) : Except OpsExc Bool :=
  if http_status.pyEq (.int 200) = true then do
    let body ← asDict health
    return (getOrNull body "status").pyEq (.str "ready")
  else return false

/-- The identity entries of a pod. -/
def identityOf (entry : Dict × List Dict) : List IdentityEntry :=
  entry.2.map fun container => ⟨getOrNull entry.1 "name", getOrNull entry.1 "uid",
    getOrNull container "name", getOrNull container "restartCount"⟩

/-- `sorted(identity, key=repr)`. -/
def sortedIdentity (rt : ObservationRuntime) (identity : List IdentityEntry) :
    List IdentityEntry :=
  identity.insertionSort fun a b => rt.repr a ≤ rt.repr b

/-- The time of a call. -/
def readTimestamp (rt : ObservationRuntime) (captured_at : PyStr) : Except OpsExc Aware :=
  match rt.fromisoformat captured_at with
  | some (.aware timestamp) => .ok timestamp
  | some (.naive _) => .error (.valueError "timezone required")
  | none => .error (.valueError "Invalid isoformat string")

/-- A pod with its containers. -/
def readPod (pod : Dict) : Except OpsExc (Dict × List Dict) := do
  let containers ← containersOf pod
  return (pod, containers)

/-- `healthy` after the last condition. The health body is looked at only where all other
conditions hold. -/
def callHealthy (scope : RecoveryScope) (call : Call) (covered : Bool)
    (entries : List (Dict × List Dict)) : Except OpsExc Bool :=
  if (covered && entries.all podHealthy && primaryHealthy scope entries) = true then
    healthReady call.http_status call.health
  else .ok false

/-- The part of `observe` before it looks at the window. -/
def readObservation (rt : ObservationRuntime) (scope : RecoveryScope) (call : Call) :
    Except OpsExc Observation := do
  let timestamp ← readTimestamp rt call.captured_at
  let pods ← call.pods.mapM asDict
  let covered ← namesMatch scope.expected (pods.map (getOrNull · "name"))
  let entries ← pods.mapM readPod
  let healthy ← callHealthy scope call covered entries
  return ⟨timestamp, healthy, sortedIdentity rt (entries.flatMap identityOf)⟩

/-! ### The window

Three fields are kept between the calls: the last observation, its identity, and where the run
began. -/

/-- The fields `observe` assigns. -/
structure RecoveryWindow where
  started : Option Aware
  last : Option Aware
  identity : Option (List IdentityEntry)

/-- The fields before the first observation. -/
def RecoveryWindow.initial : RecoveryWindow := ⟨none, none, none⟩

/-- `(current - previous).total_seconds()`. -/
def elapsedSeconds (previous current : Aware) : PyFloat :=
  PyFloat.ofRat ((current.instant - previous.instant : Int) / 1000000)

/-- `0 < gap <= self.max_gap`. -/
def gapValid (scope : RecoveryScope) (gap : PyFloat) : Bool :=
  PyFloat.zero.lt gap && (PyNumber.float gap).le scope.max_gap

/-- The comparison of two identities as lists of tuples. -/
def sameIdentity : List IdentityEntry → List IdentityEntry → Bool
  | [], [] => true
  | a :: as, b :: bs => a.pod.eqItem b.pod && a.uid.eqItem b.uid
      && a.container.eqItem b.container && a.restart_count.eqItem b.restart_count
      && sameIdentity as bs
  | _, _ => false

/-- What `observe` returns. -/
structure Verdict where
  healthy : Bool
  gap_seconds : Option PyFloat
  cadence_valid : Bool
  sampled_stable_seconds : PyNumber
  complete : Bool

/-- The part of `observe` after the reading. -/
def RecoveryWindow.observed (scope : RecoveryScope) (window : RecoveryWindow)
    (observation : Observation) : Verdict × RecoveryWindow :=
  let gap := window.last.map fun last => elapsedSeconds last observation.timestamp
  let continuous := gap.all (gapValid scope)
  let kept := window.identity.any fun identity => sameIdentity identity observation.identity
  let started :=
    if observation.healthy = false then none
    else if continuous = false ∨ kept = false ∨ window.started = none then
      some observation.timestamp
    else window.started
  let elapsed : PyNumber :=
    match started with
    | some first => .float (elapsedSeconds first observation.timestamp)
    | none => .int 0
  (⟨observation.healthy, gap, continuous, elapsed,
      observation.healthy && scope.seconds.le elapsed⟩,
    ⟨started, some observation.timestamp, some observation.identity⟩)

/-- `observe(pods, http_status, health, captured_at)`. -/
def RecoveryWindow.observe (rt : ObservationRuntime) (scope : RecoveryScope)
    (window : RecoveryWindow) (call : Call) : Except OpsExc (Verdict × RecoveryWindow) := do
  let observation ← readObservation rt scope call
  return window.observed scope observation

/-- The window after some calls; a call that raises leaves it. -/
def RecoveryWindow.after (rt : ObservationRuntime) (scope : RecoveryScope) :
    RecoveryWindow → List Call → RecoveryWindow
  | window, [] => window
  | window, call :: calls =>
      match window.observe rt scope call with
      | .ok (_, next) => next.after rt scope calls
      | .error _ => window.after rt scope calls

end EventPipeline.OpsAgent.Experiment
