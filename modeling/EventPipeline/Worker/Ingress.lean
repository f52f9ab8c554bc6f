import EventPipeline.Worker.Envelope
import Mathlib.Data.List.TakeWhile

/-!
# EventPipeline.Worker.Ingress

`_validate_ingress_payload`: the gate every ingress record passes before it may
touch the database.

The source edits the decoded object while it checks it, and the caller still holds
that object when a check fails, so the model returns the edited object next to the
verdict. An accepted object becomes an `IngressJob`; `IngressJob.Valid` is what
every accepted job satisfies (`validateIngressPayload_valid`), and a valid job
written out as an object again is accepted unchanged
(`validateIngressPayload_of_reads`): normalisation is idempotent.
-/

namespace EventPipeline.Worker

open EventPipeline.Python EventPipeline.Portfolio

/-! ### Routes -/

/-- The `version` group of the route pattern. -/
inductive RouteVersion
  | v1 | v2
  deriving DecidableEq

/-- The `resource` group of the route pattern. -/
inductive RouteResource
  | streams | orders
  deriving DecidableEq

/-- The text before the stream id. -/
def routeHead : RouteVersion → RouteResource → PyStr
  | .v1, .streams => "POST:/v1/streams/"
  | .v1, .orders => "POST:/v1/orders/"
  | .v2, .streams => "POST:/v2/streams/"
  | .v2, .orders => "POST:/v2/orders/"

/-- The groups of a matched route. -/
structure IngressRoute where
  version : RouteVersion
  resource : RouteResource
  stream_id : Nat
  deriving DecidableEq

/-- `(?P<stream_id>[1-9][0-9]*)/events$`. -/
def matchStreamId (rest : PyStr) : Option Nat :=
  let digits := rest.takeWhile CodePoint.isDigit
  if digits ≠ [] ∧ digits.head? ≠ some (digitChar 0) ∧
      rest.dropWhile CodePoint.isDigit = PyStr.ofString "/events" then
    some (natOfDigits digits)
  else none

/-- One choice of version and resource. -/
def matchRouteHead (version : RouteVersion) (resource : RouteResource) (route : PyStr) :
    Option IngressRoute :=
  if (routeHead version resource).isPrefixOf route then
    (matchStreamId (route.drop (routeHead version resource).length)).map
      fun stream_id => ⟨version, resource, stream_id⟩
  else none

/-- `_INGRESS_ROUTE_RE.fullmatch(route)`: the four prefixes, tried in this order. -/
def matchIngressRoute (route : PyStr) : Option IngressRoute :=
  (matchRouteHead .v1 .streams route).or <| (matchRouteHead .v1 .orders route).or <|
    (matchRouteHead .v2 .streams route).or <| matchRouteHead .v2 .orders route

theorem matchStreamId_eq_some {rest : PyStr} {n : Nat} (h : matchStreamId rest = some n) :
    ∃ digits : PyStr, rest = digits ++ PyStr.ofString "/events" ∧ digits ≠ [] ∧
      (∀ c ∈ digits, c.isDigit = true) ∧ natOfDigits digits = n := by
  simp only [matchStreamId, Option.ite_none_right_eq_some, Option.some.injEq] at h
  obtain ⟨⟨hne, -, htail⟩, hn⟩ := h
  refine ⟨rest.takeWhile CodePoint.isDigit, ?_, hne, fun c hc => ?_, hn⟩
  · rw [← htail, List.takeWhile_append_dropWhile]
  · exact List.mem_takeWhile_imp hc

theorem matchRouteHead_eq_some {v : RouteVersion} {r : RouteResource} {route : PyStr}
    {m : IngressRoute} (h : matchRouteHead v r route = some m) :
    m.version = v ∧ m.resource = r ∧ ∃ digits : PyStr,
      route = routeHead v r ++ digits ++ PyStr.ofString "/events" ∧ digits ≠ [] ∧
        (∀ c ∈ digits, c.isDigit = true) ∧ natOfDigits digits = m.stream_id := by
  simp only [matchRouteHead, Option.ite_none_right_eq_some, Option.map_eq_some_iff] at h
  obtain ⟨hpre, n, hn, rfl⟩ := h
  obtain ⟨digits, hrest, hne, hdigits, hval⟩ := matchStreamId_eq_some hn
  refine ⟨rfl, rfl, digits, ?_, hne, hdigits, hval⟩
  rw [List.append_assoc, ← hrest]
  exact (List.prefix_iff_eq_append.mp (List.isPrefixOf_iff_prefix.mp hpre)).symm

/-- A matched route is its head, the digits of its stream, and `/events`. -/
theorem matchIngressRoute_eq_some {route : PyStr} {m : IngressRoute}
    (h : matchIngressRoute route = some m) :
    ∃ digits : PyStr,
      route = routeHead m.version m.resource ++ digits ++ PyStr.ofString "/events" ∧
        digits ≠ [] ∧ (∀ c ∈ digits, c.isDigit = true) ∧ natOfDigits digits = m.stream_id := by
  simp only [matchIngressRoute, Option.or_eq_some_iff] at h
  rcases h with h | ⟨-, h | ⟨-, h | ⟨-, h⟩⟩⟩ <;>
    obtain ⟨hv, hr, hdigits⟩ := matchRouteHead_eq_some h <;>
    exact hv ▸ hr ▸ hdigits

/-- Only version 2 routes lie under `POST:/v2/`, as the heads of the four kinds of routes show. -/
theorem matchIngressRoute_startsWith {route : PyStr} {m : IngressRoute}
    (h : matchIngressRoute route = some m) :
    PyStr.startsWith route "POST:/v2/" = true ↔ m.version = .v2 := by
  obtain ⟨digits, hroute, -⟩ := matchIngressRoute_eq_some h
  rw [hroute, List.append_assoc]
  have hlen : (PyStr.ofString "POST:/v2/").length ≤ (routeHead m.version m.resource).length := by
    cases m.version <;> cases m.resource <;> decide
  rw [PyStr.startsWith_append hlen]
  cases m.version <;> cases m.resource <;> decide

/-- A stream id is read back from its decimal text. -/
theorem matchStreamId_natStr {n : Nat} (hn : 0 < n) :
    matchStreamId (natStr n ++ PyStr.ofString "/events") = some n := by
  have htail : (PyStr.ofString "/events").takeWhile CodePoint.isDigit = [] := by rfl
  have htake : (natStr n ++ PyStr.ofString "/events").takeWhile CodePoint.isDigit = natStr n := by
    rw [List.takeWhile_append_of_pos fun c hc => natStr_isDigit hc, htail, List.append_nil]
  have hdrop : (natStr n ++ PyStr.ofString "/events").dropWhile CodePoint.isDigit
      = PyStr.ofString "/events" := by
    rw [List.dropWhile_append_of_pos fun c hc => natStr_isDigit hc]
    rfl
  obtain ⟨d, rest, hhead, hd, hten, -⟩ := natStr_head hn.ne'
  have hzero : (natStr n).head? ≠ some (digitChar 0) := by
    rw [hhead, List.head?_cons]
    intro heq
    have hval := congrArg Fin.val (Option.some.inj heq)
    rw [digitChar_val hten, digitChar_val (by norm_num)] at hval
    omega
  simp only [matchStreamId, htake, hdrop]
  rw [if_pos ⟨natStr_ne_nil n, hzero, trivial⟩, natOfDigits_natStr]

/-- The route of a stream is matched as written. -/
theorem matchIngressRoute_natStr (version : RouteVersion) (resource : RouteResource) {n : Nat}
    (hn : 0 < n) :
    matchIngressRoute (routeHead version resource ++ natStr n ++ PyStr.ofString "/events") =
      some ⟨version, resource, n⟩ := by
  have hself : ∀ v r, matchRouteHead v r (routeHead v r ++ natStr n ++ PyStr.ofString "/events") =
      some ⟨v, r, n⟩ := by
    intro v r
    rw [List.append_assoc, matchRouteHead, if_pos (by simp), List.drop_left,
      matchStreamId_natStr hn]
    rfl
  have hother : ∀ v r v' r', (v', r') ≠ (v, r) →
      matchRouteHead v' r' (routeHead v r ++ natStr n ++ PyStr.ofString "/events") = none := by
    intro v r v' r' hne
    rw [List.append_assoc, matchRouteHead, if_neg]
    intro hprefix
    obtain ⟨rest, hrest⟩ := List.isPrefixOf_iff_prefix.mp hprefix
    -- the first ten characters tell the four heads apart
    have hten := congrArg (List.take 10) hrest
    rw [List.take_append_of_le_length (by cases v' <;> cases r' <;> decide),
      List.take_append_of_le_length (by cases v <;> cases r <;> decide)] at hten
    refine hne ?_
    cases v <;> cases r <;> cases v' <;> cases r' <;> first | rfl | exact absurd hten (by decide)
  cases version <;> cases resource <;>
    simp only [matchIngressRoute, hself, hother, ne_eq, Prod.mk.injEq, reduceCtorEq, false_and,
      and_false, not_false_eq_true, Option.none_or, Option.some_or]

theorem matchIngressRoute_clean {route : PyStr} {m : IngressRoute}
    (h : matchIngressRoute route = some m) : route.Clean := by
  obtain ⟨digits, rfl, -, hdigits, -⟩ := matchIngressRoute_eq_some h
  have hhead : (routeHead m.version m.resource).Clean := by
    cases m.version <;> cases m.resource <;> decide
  have hmid : PyStr.Clean digits :=
    PyStr.clean_iff.mpr fun c hc => CodePoint.isDigit_clean (hdigits c hc)
  simp only [PyStr.clean_append]
  exact ⟨⟨hhead, hmid⟩, by decide⟩

/-! ### Jobs -/

/-- A normalised job, with the fields `mark_inline_retry` and `move_to_dlq` add to
it later. -/
structure IngressJob where
  request_id : PyStr
  route : PyStr
  room_id : Nat
  user_id : Nat
  room_seq : Option Nat
  schema_version : Nat
  event_type : PyStr
  payload : Dict
  metadata : Dict
  body : PyStr
  x_idempotency_key : Option PyStr
  retry_count : Nat
  replay_count : Nat
  next_retry_at : Option PyFloat
  queued_at : Option PyStr
  replayed_at : Option PyStr
  payment_id : Option PyStr
  failed_reason : Option PyStr
  failed_at : Option PyStr

/-- `None` or a string. -/
def optText : Option PyStr → Json
  | none => .null
  | some s => .str s

/-- `None` or an integer. -/
def optNat : Option Nat → Json
  | none => .null
  | some n => .int n

/-- `None` or a float. -/
def optFloat : Option PyFloat → Json
  | none => .null
  | some f => .float f

/-- An entry that is only there when it has a value. -/
def optEntry (key : PyStr) : Option PyStr → Dict
  | none => []
  | some s => [(key, .str s)]

/-- The dictionary the source passes around. -/
def IngressJob.toDict (job : IngressJob) : Dict :=
  ([("request_id", .str job.request_id), ("route", .str job.route),
    ("room_id", .int job.room_id), ("user_id", .int job.user_id),
    ("room_seq", optNat job.room_seq), ("schema_version", .int job.schema_version),
    ("event_type", .str job.event_type), ("payload", .obj job.payload),
    ("metadata", .obj job.metadata), ("body", .str job.body),
    ("x_idempotency_key", optText job.x_idempotency_key), ("retry_count", .int job.retry_count),
    ("replay_count", .int job.replay_count), ("next_retry_at", optFloat job.next_retry_at)] : Dict)
  ++ optEntry "queued_at" job.queued_at ++ optEntry "replayed_at" job.replayed_at
  ++ optEntry "payment_id" job.payment_id ++ optEntry "failed_reason" job.failed_reason
  ++ optEntry "failed_at" job.failed_at

/-! ### Validation

Validation fills the aliases in, reads the identity, reads the event, writes it back in its one
form, and reads the remaining fields. The object that is left is returned with the job. -/

/-- `_validate_alias_pair(payload, canonical, legacy)`. -/
def validateAliasPair (payload : Dict) (canonical legacy : String) : Except PyExc Unit :=
  match payload.get? canonical, payload.get? legacy with
  | some c, some l =>
      check (c.sameType l && c.pyEq l) ("Conflicting " ++ canonical ++ "/" ++ legacy)
  | _, _ => .ok ()

/-- The three alias pairs of an ingress payload. -/
def validateIngressAliases (job_payload : Dict) : Except PyExc Unit := do
  validateAliasPair job_payload "stream_id" "room_id"
  validateAliasPair job_payload "actor_id" "user_id"
  validateAliasPair job_payload "stream_seq" "room_seq"

/-- Copy a canonical field to its absent legacy name. -/
def fillAlias (canonical legacy : PyStr) (job_payload : Dict) : Dict :=
  match job_payload.get? legacy, job_payload.get? canonical with
  | none, some v => job_payload.set legacy v
  | _, _ => job_payload

/-- The object after its three aliases are filled in. -/
def fillIngressAliases (job_payload : Dict) : Dict :=
  fillAlias "stream_seq" "room_seq" <| fillAlias "actor_id" "user_id" <|
    fillAlias "stream_id" "room_id" job_payload

/-- The fields that say which request this is. -/
structure IngressIdentity where
  request_id : PyStr
  route : PyStr
  room_id : Nat
  user_id : Nat
  schema_version : Nat

/-- `not isinstance(v, bool) and isinstance(v, int) and 1 <= v <= 32_767`. -/
def schemaVersion : Json → Option Nat
  | .int z => if 1 ≤ z ∧ z ≤ 32767 then some z.toNat else none
  | _ => none

/-- The checks up to and including `schema_version`. -/
def ingressIdentity (job_payload : Dict) : Except PyExc IngressIdentity := do
  check (job_payload.has "request_id") "Ingress payload missing request_id"
  check (job_payload.has "route") "Ingress payload missing route"
  check (job_payload.has "room_id") "Ingress payload missing room_id"
  check (job_payload.has "user_id") "Ingress payload missing user_id"
  let request_id ← require ((job_payload.get? "request_id").bind (boundedText 80))
    "Invalid request_id"
  let route ← require ((job_payload.get? "route").bind (boundedText 500)) "Invalid route"
  let room_id ← require ((job_payload.get? "room_id").bind positiveBigint) "Invalid room_id"
  let user_id ← require ((job_payload.get? "user_id").bind positiveBigint) "Invalid user_id"
  let route_match ← require (matchIngressRoute route) "Invalid ingress route"
  check (route_match.stream_id = room_id) "Ingress route stream does not match room_id"
  check (route_match.version ≠ .v2 ∨ route_match.resource = .streams)
    "V2 ingress route must use streams"
  check (route_match.version ≠ .v2 ∨ job_payload.has "schema_version")
    "V2 ingress missing schema_version"
  let schema_version ← require
    (schemaVersion ((job_payload.get? "schema_version").getD (.int 1))) "Invalid schema_version"
  check (route_match.version ≠ .v2 ∨ schema_version = 2) "V2 ingress requires schema_version 2"
  return ⟨request_id, route, room_id, user_id, schema_version⟩

/-- The presence check of the payload. -/
def payloadPresent (job_payload : Dict) (schema_version : Nat) : Except PyExc Unit :=
  if 2 ≤ schema_version then
    check (job_payload.has "payload") "Generic ingress missing payload"
  else
    check (job_payload.has "payload" || job_payload.has "body") "Ingress payload missing payload"

/-- The presence check of the payload, then `_event_envelope`. -/
def ingressEvent (job_payload : Dict) (schema_version : Nat) :
    Except PyExc (PyStr × Dict × Dict) := do
  payloadPresent job_payload schema_version
  eventEnvelope job_payload

/-- The check of `payment_id`. -/
def paymentId : Json → Option PyStr := shortText 80

/-- `_validated_iso_timestamp` of a value that is not `None`. -/
def isoTimestamp (rt : Runtime) (v : Json) : Option PyStr :=
  (boundedText 64 v).filter rt.awareTimestamp

/-- The checks after the envelope, and the normalised job. -/
def ingressJob (rt : Runtime) (job_payload : Dict) (identity : IngressIdentity)
    (event_type : PyStr) (payload metadata : Dict) : Except PyExc IngressJob := do
  let idem_key ← optionalField job_payload "x_idempotency_key" (boundedText 128)
    "Invalid x_idempotency_key"
  let room_seq ← optionalField job_payload "room_seq" positiveBigint "Invalid room_seq"
  let retry_count ← require (nonnegativeBigint ((job_payload.get? "retry_count").getD (.int 0)))
    "Invalid retry_count"
  let replay_count ← require (nonnegativeBigint ((job_payload.get? "replay_count").getD (.int 0)))
    "Invalid replay_count"
  let _ ← optionalField job_payload "next_retry_at" (fun _ => (none : Option Unit))
    "Ingress next_retry_at must be null"
  let queued_at ← optionalField job_payload "queued_at" (isoTimestamp rt) "Invalid queued_at"
  let replayed_at ← optionalField job_payload "replayed_at" (isoTimestamp rt)
    "Invalid replayed_at"
  let payment_id ← optionalField job_payload "payment_id" paymentId "Invalid payment_id"
  return { identity with
    room_seq, event_type, payload, metadata, body := legacyBodyPreview payload,
    x_idempotency_key := idem_key, retry_count, replay_count, next_retry_at := none,
    queued_at, replayed_at, payment_id, failed_reason := none, failed_at := none }

/-- The object after the event fields are written back. -/
def writeEvent (job_payload : Dict) (event_type : PyStr) (payload metadata : Dict) : Dict :=
  (((job_payload.set "event_type" (.str event_type)).set "payload" (.obj payload)).set
    "metadata" (.obj metadata)).set "body" (.str (legacyBodyPreview payload))

/-- `_validate_ingress_payload` of an object: what is left in the object, and the
normalised job or the error. -/
def validateIngressObject (rt : Runtime) (job_payload : Dict) :
    Dict × Except PyExc IngressJob :=
  match validateIngressAliases job_payload with
  | .error e => (job_payload, .error e)
  | .ok () =>
      let job_payload := fillIngressAliases job_payload
      match ingressIdentity job_payload with
      | .error e => (job_payload, .error e)
      | .ok identity =>
          let job_payload := job_payload.set "schema_version" (.int identity.schema_version)
          match ingressEvent job_payload identity.schema_version with
          | .error e => (job_payload, .error e)
          | .ok (event_type, payload, metadata) =>
              let job_payload := writeEvent job_payload event_type payload metadata
              (job_payload, ingressJob rt job_payload identity event_type payload metadata)

/-- `_validate_ingress_payload(job_payload)`: the job, or the first check that fails. The dict is
normalised in place, so it is returned too. -/
def validateIngressPayload (rt : Runtime) : Json → Json × Except PyExc IngressJob
  | .obj d =>
      let (d', verdict) := validateIngressObject rt d
      (.obj d', verdict)
  | v => (v, .error (ValueError "Ingress payload must be a JSON object"))

/-! ### What validation accepts -/

/-- What every accepted job satisfies, and keeps through retries. -/
structure IngressJob.Valid (rt : Runtime) (job : IngressJob) : Prop where
  request_id : job.request_id ≠ [] ∧ job.request_id.length ≤ 80 ∧ job.request_id.hasNul = false
  route_length : job.route ≠ [] ∧ job.route.length ≤ 500
  route : ∃ m, matchIngressRoute job.route = some m ∧ m.stream_id = job.room_id ∧
    (m.version = .v2 → m.resource = .streams ∧ job.schema_version = 2)
  room_id : 0 < job.room_id ∧ job.room_id ≤ maxPostgresBigint
  user_id : 0 < job.user_id ∧ job.user_id ≤ maxPostgresBigint
  schema_version : 1 ≤ job.schema_version ∧ job.schema_version ≤ 32767
  event : EventOk (decide (2 ≤ job.schema_version)) job.event_type job.payload job.metadata
  body : job.body = legacyBodyPreview job.payload
  room_seq : ∀ n ∈ job.room_seq, 0 < n ∧ n ≤ maxPostgresBigint
  idem_key : ∀ k ∈ job.x_idempotency_key, k ≠ [] ∧ k.length ≤ 128 ∧ k.hasNul = false
  replay_count : job.replay_count ≤ maxPostgresBigint
  queued_at : ∀ t ∈ job.queued_at, isoTimestamp rt (.str t) = some t
  replayed_at : ∀ t ∈ job.replayed_at, isoTimestamp rt (.str t) = some t
  payment_id : ∀ p ∈ job.payment_id, p.length ≤ 80 ∧ p.hasNul = false

/-- A valid job as validation returns it, before any retry. -/
structure IngressJob.Normalised (rt : Runtime) (job : IngressJob) : Prop extends
    IngressJob.Valid rt job where
  retry_count : job.retry_count ≤ maxPostgresBigint
  next_retry_at : job.next_retry_at = none
  failed_reason : job.failed_reason = none
  failed_at : job.failed_at = none

theorem isGenericEnvelope_of {d : Dict} {n : Nat}
    (hv : d.get? "schema_version" = some (.int n))
    (hr : ∀ route, d.get? "route" = some (.str route) →
      route.startsWith "POST:/v2/" = true → 2 ≤ n) :
    isGenericEnvelope d = decide (2 ≤ n) := by
  unfold isGenericEnvelope
  simp only [hv]
  have hcast : ((2 : Int) ≤ (n : Int)) ↔ 2 ≤ n := by omega
  by_cases hn : 2 ≤ n
  · simp [hn, hcast]
  · simp only [hcast, hn, decide_false, Bool.false_or]
    split
    · rename_i route hroute
      exact Bool.eq_false_iff.mpr fun h => hn (hr route hroute h)
    · rfl

theorem schemaVersion_eq_some {v : Json} {n : Nat} :
    schemaVersion v = some n ↔ v = .int n ∧ 1 ≤ n ∧ n ≤ 32767 := by
  cases v <;> simp only [schemaVersion, reduceCtorEq, false_and]
  rename_i z
  split_ifs with h <;> simp only [Option.some.injEq, Json.int.injEq, false_iff] <;> omega

theorem paymentId_eq_some {v : Json} {s : PyStr} :
    paymentId v = some s ↔ v = .str s ∧ s.length ≤ 80 ∧ s.hasNul = false :=
  shortText_eq_some

theorem isoTimestamp_eq_some {rt : Runtime} {v : Json} {s : PyStr} :
    isoTimestamp rt v = some s ↔
      v = .str s ∧ s ≠ [] ∧ s.length ≤ 64 ∧ s.hasNul = false ∧ rt.awareTimestamp s = true := by
  simp only [isoTimestamp, Option.filter_eq_some_iff, boundedText_eq_some]
  tauto

theorem ingressIdentity_ok {d : Dict} {i : IngressIdentity} (h : ingressIdentity d = .ok i) :
    (i.request_id ≠ [] ∧ i.request_id.length ≤ 80 ∧ i.request_id.hasNul = false) ∧
    (i.route ≠ [] ∧ i.route.length ≤ 500) ∧
    (∃ m, matchIngressRoute i.route = some m ∧ m.stream_id = i.room_id ∧
      (m.version = .v2 → m.resource = .streams ∧ i.schema_version = 2)) ∧
    (0 < i.room_id ∧ i.room_id ≤ maxPostgresBigint) ∧
    (0 < i.user_id ∧ i.user_id ≤ maxPostgresBigint) ∧
    (1 ≤ i.schema_version ∧ i.schema_version ≤ 32767) ∧
    d.get? "route" = some (.str i.route) := by
  simp only [ingressIdentity, bind_eq_ok, require_eq_ok, check_eq_ok, Option.bind_eq_some_iff,
    boundedText_eq_some, positiveBigint_eq_some, schemaVersion_eq_some, decide_eq_true_eq] at h
  obtain ⟨-, -, -, -, -, -, -, -, rid, ⟨-, -, -, hrid⟩, route, ⟨-, hroute, rfl, hrne, hrlen, -⟩,
    room, ⟨-, -, -, hroom⟩, user, ⟨-, -, -, huser⟩, m, hm, -, hstream, -, hres, -, -, sv,
    ⟨-, hsv⟩, -, hv2, hret⟩ := h
  obtain rfl : _ = i := by simpa [pure, Except.pure] using hret
  refine ⟨hrid, ⟨hrne, hrlen⟩, ⟨m, hm, hstream, fun hv => ?_⟩, hroom, huser, hsv, hroute⟩
  exact ⟨by simpa [hv] using hres, by simpa [hv] using hv2⟩

/-- An accepted object gives a normalised job. Its fields are what the checks let through, and its
event was judged by the schema version that is written back. -/
theorem validateIngressObject_normalised {rt : Runtime} {d : Dict} {job : IngressJob}
    (h : (validateIngressObject rt d).2 = .ok job) : job.Normalised rt := by
  simp only [validateIngressObject] at h
  split at h
  · simp at h
  split at h
  · simp at h
  rename_i identity hidentity
  split at h
  · simp at h
  rename_i et p m hevent
  obtain ⟨hrid, hrlen, hroute, hroom, huser, hsv, hget⟩ := ingressIdentity_ok hidentity
  -- the envelope is judged by the version that is written back into the object
  have henvelope : EventOk (decide (2 ≤ identity.schema_version)) et p m := by
    have hgeneric : isGenericEnvelope
        ((fillIngressAliases d).set "schema_version" (.int identity.schema_version))
          = decide (2 ≤ identity.schema_version) := by
      refine isGenericEnvelope_of (Dict.get?_set_self _ _ _) fun route hr hstart => ?_
      rw [Dict.get?_set_of_ne (by simp), hget] at hr
      obtain rfl : identity.route = route := by simpa using hr
      obtain ⟨m, hm, -, hv2⟩ := hroute
      exact (hv2 ((matchIngressRoute_startsWith hm).mp hstart)).2.symm.le
    rw [← hgeneric]
    simp only [ingressEvent, bind_eq_ok] at hevent
    obtain ⟨-, -, hevent⟩ := hevent
    exact eventEnvelope_ok hevent
  simp only [ingressJob, bind_eq_ok, require_eq_ok, nonnegativeBigint_eq_some] at h
  obtain ⟨idem, hidem, seq, hseq, retry, ⟨-, hretry⟩, replay, ⟨-, hreplay⟩, -, -, queued,
    hqueued, replayed, hreplayed, payment, hpayment, hret⟩ := h
  obtain rfl : _ = job := by simpa [pure, Except.pure] using hret
  refine ⟨⟨hrid, hrlen, hroute, hroom, huser, hsv, henvelope, rfl, ?_, ?_, hreplay, ?_, ?_, ?_⟩,
    hretry, rfl, rfl, rfl⟩
  · intro n hn
    obtain ⟨v, -, hv⟩ := optionalField_ok hseq n hn
    exact (positiveBigint_eq_some.mp hv).2
  · intro k hk
    obtain ⟨v, -, hv⟩ := optionalField_ok hidem k hk
    exact (boundedText_eq_some.mp hv).2
  · intro t ht
    obtain ⟨v, -, hv⟩ := optionalField_ok hqueued t ht
    exact (isoTimestamp_eq_some.mp hv).1 ▸ hv
  · intro t ht
    obtain ⟨v, -, hv⟩ := optionalField_ok hreplayed t ht
    exact (isoTimestamp_eq_some.mp hv).1 ▸ hv
  · intro q hq
    obtain ⟨v, -, hv⟩ := optionalField_ok hpayment q hq
    exact (paymentId_eq_some.mp hv).2

theorem fillAlias_uniquePairs {canonical legacy : PyStr} {d : Dict} (h : Json.UniquePairs d) :
    Json.UniquePairs (fillAlias canonical legacy d) := by
  unfold fillAlias
  split
  · rename_i v _ hv
    exact h.set _ (h.get? hv)
  · exact h

/-- Python dicts repeat no key, and neither does the event of an accepted job. -/
theorem validateIngressObject_unique {rt : Runtime} {d : Dict} {job : IngressJob}
    (hd : Json.Unique (.obj d)) (h : (validateIngressObject rt d).2 = .ok job) :
    Json.Unique (.obj job.payload) ∧ Json.Unique (.obj job.metadata) := by
  simp only [validateIngressObject] at h
  split at h
  · simp at h
  split at h
  · simp at h
  rename_i identity hidentity
  split at h
  · simp at h
  rename_i et p m hevent
  have hfilled : Json.UniquePairs
      ((fillIngressAliases d).set "schema_version" (.int identity.schema_version)) :=
    Json.UniquePairs.set (fillAlias_uniquePairs <| fillAlias_uniquePairs <|
      fillAlias_uniquePairs hd.2) _ trivial
  simp only [ingressEvent, bind_eq_ok] at hevent
  obtain ⟨-, -, hevent⟩ := hevent
  simp only [ingressJob, bind_eq_ok] at h
  obtain ⟨_, -, _, -, _, -, _, -, _, -, _, -, _, -, _, -, hret⟩ := h
  obtain rfl : _ = job := by simpa [pure, Except.pure] using hret
  exact eventEnvelope_unique hfilled hevent

/-- A job `_validate_ingress_payload` has returned, of some decoded object. -/
structure ValidatedJob (rt : Runtime) where
  job : IngressJob
  validated : ∃ d, Json.Unique (.obj d) ∧ (validateIngressObject rt d).2 = .ok job

theorem ValidatedJob.normalised {rt : Runtime} (v : ValidatedJob rt) : v.job.Normalised rt := by
  obtain ⟨d, -, hd⟩ := v.validated
  exact validateIngressObject_normalised hd

theorem ValidatedJob.unique {rt : Runtime} (v : ValidatedJob rt) :
    Json.Unique (.obj v.job.metadata) := by
  obtain ⟨d, hunique, hd⟩ := v.validated
  exact (validateIngressObject_unique hunique hd).2

/-- The job of an object that is accepted. -/
def ValidatedJob.ofObject {rt : Runtime} (d : Dict) (hunique : Json.Unique (.obj d))
    (haccepted : (validateIngressObject rt d).2.isOk = true) : ValidatedJob rt :=
  match h : (validateIngressObject rt d).2 with
  | .ok job => ⟨job, d, hunique, h⟩
  | .error e => absurd haccepted (by simp [h, Except.isOk, Except.toBool])

theorem ValidatedJob.ofObject_validates {rt : Runtime} {d : Dict}
    (hunique : Json.Unique (.obj d)) (haccepted : (validateIngressObject rt d).2.isOk = true) :
    (validateIngressObject rt d).2 = .ok (ofObject d hunique haccepted).job := by
  unfold ofObject
  split
  · assumption
  · rename_i e h
    rw [h] at haccepted
    cases haccepted

/-! ### Normalisation is idempotent

A job that is printed and validated again is the same job. That is what lets a retry and a replay
carry the event on. -/

/-- The object holds the job's fields under their legacy names, and no canonical
alias. Further entries are allowed: validation does not read them. -/
structure Reads (d : Dict) (job : IngressJob) : Prop where
  request_id : d.get? "request_id" = some (.str job.request_id)
  route : d.get? "route" = some (.str job.route)
  room_id : d.get? "room_id" = some (.int job.room_id)
  user_id : d.get? "user_id" = some (.int job.user_id)
  room_seq : d.get? "room_seq" = some (optNat job.room_seq)
  schema_version : d.get? "schema_version" = some (.int job.schema_version)
  event_type : d.get? "event_type" = some (.str job.event_type)
  payload : d.get? "payload" = some (.obj job.payload)
  metadata : d.get? "metadata" = some (.obj job.metadata)
  x_idempotency_key : d.get? "x_idempotency_key" = some (optText job.x_idempotency_key)
  retry_count : d.get? "retry_count" = some (.int job.retry_count)
  replay_count : d.get? "replay_count" = some (.int job.replay_count)
  next_retry_at : d.get? "next_retry_at" = some (optFloat job.next_retry_at)
  queued_at : d.get? "queued_at" = job.queued_at.map .str
  replayed_at : d.get? "replayed_at" = job.replayed_at.map .str
  payment_id : d.get? "payment_id" = job.payment_id.map .str
  stream_id : d.get? "stream_id" = none
  actor_id : d.get? "actor_id" = none
  stream_seq : d.get? "stream_seq" = none

theorem get?_optEntry {key key' : PyStr} {o : Option PyStr} :
    (optEntry key o).get? key' = if key = key' then o.map .str else none := by
  cases o <;> simp [optEntry]

theorem IngressJob.toDict_reads (job : IngressJob) : Reads job.toDict job := by
  constructor <;> simp [toDict, Dict.get?_append, get?_optEntry]

theorem ingressIdentity_of_reads {rt : Runtime} {d : Dict} {job : IngressJob}
    (hd : Reads d job) (h : job.Valid rt) :
    ingressIdentity d =
      .ok ⟨job.request_id, job.route, job.room_id, job.user_id, job.schema_version⟩ := by
  obtain ⟨m, hm, hstream, hv2⟩ := h.route
  have hnul : job.route.hasNul = false := (matchIngressRoute_clean hm).1
  simp only [ingressIdentity, bind_eq_ok, require_eq_ok, check_eq_ok, Dict.has, hd.request_id,
    hd.route, hd.room_id, hd.user_id, hd.schema_version, Option.isSome_some, Option.bind_some,
    Option.getD_some, boundedText_eq_some, positiveBigint_eq_some, schemaVersion_eq_some,
    decide_eq_true_eq, true_and, exists_const]
  refine ⟨_, ⟨rfl, h.request_id⟩, _, ⟨rfl, h.route_length.1, h.route_length.2, hnul⟩, _,
    ⟨rfl, h.room_id⟩, _, ⟨rfl, h.user_id⟩, m, hm, hstream, ?_, Or.inr trivial, _,
    ⟨rfl, h.schema_version⟩, ?_, rfl⟩
  · exact or_iff_not_imp_left.mpr fun hv => (hv2 (not_not.mp hv)).1
  · exact or_iff_not_imp_left.mpr fun hv => (hv2 (not_not.mp hv)).2

theorem IngressJob.Valid.startsWith_v2 {rt : Runtime} {job : IngressJob} (h : job.Valid rt)
    (hstart : job.route.startsWith "POST:/v2/" = true) : 2 ≤ job.schema_version := by
  obtain ⟨m, hm, -, hv2⟩ := h.route
  exact (hv2 ((matchIngressRoute_startsWith hm).mp hstart)).2.symm.le

/-- The event of a job that is written out in an object is read back. -/
theorem eventEnvelope_of_reads {rt : Runtime} {d : Dict} {job : IngressJob}
    (hv : d.get? "schema_version" = some (.int job.schema_version))
    (hr : ∀ route, d.get? "route" = some (.str route) → route = job.route)
    (het : d.get? "event_type" = some (.str job.event_type))
    (hp : d.get? "payload" = some (.obj job.payload))
    (hm : d.get? "metadata" = some (.obj job.metadata)) (h : job.Valid rt) :
    eventEnvelope d = .ok (job.event_type, job.payload, job.metadata) := by
  refine eventEnvelope_of_ok het hp hm ?_
  rw [isGenericEnvelope_of hv fun route hroute hstart =>
    h.startsWith_v2 (hr route hroute ▸ hstart)]
  exact h.event

theorem optionalField_optText {d : Dict} {key : PyStr} {o : Option PyStr}
    {parse : Json → Option PyStr} {msg : String}
    (hget : d.get? key = some (optText o) ∨ d.get? key = o.map .str)
    (h : ∀ s ∈ o, parse (.str s) = some s) : optionalField d key parse msg = .ok o := by
  cases o with
  | none =>
      refine optionalField_absent ?_
      rcases hget with hget | hget
      · exact Or.inr hget
      · exact Or.inl hget
  | some s =>
      have hget' : d.get? key = some (.str s) := by rcases hget with hget | hget <;> exact hget
      exact optionalField_present hget' (by simp) (h s rfl)

/-- **Validation is idempotent.** An object that holds the fields of a normalised
job is accepted as that job. -/
theorem validateIngressObject_of_reads {rt : Runtime} {d : Dict} {job : IngressJob}
    (hd : Reads d job) (h : job.Normalised rt) : (validateIngressObject rt d).2 = .ok job := by
  -- the object holds its aliases: none is filled in and none differs
  have haliases : validateIngressAliases d = .ok () := by
    simp only [validateIngressAliases, validateAliasPair, hd.stream_id, hd.actor_id,
      hd.stream_seq]
    rfl
  have hfill : fillIngressAliases d = d := by
    simp [fillIngressAliases, fillAlias, hd.stream_id, hd.actor_id, hd.stream_seq]
  have hevent : ingressEvent (d.set "schema_version" (.int job.schema_version))
      job.schema_version = .ok (job.event_type, job.payload, job.metadata) := by
    have hhas : (d.set "schema_version" (.int job.schema_version)).has "payload" = true := by
      rw [Dict.has, Dict.get?_set_of_ne (by simp), hd.payload]
      rfl
    have henv : eventEnvelope (d.set "schema_version" (.int job.schema_version)) =
        .ok (job.event_type, job.payload, job.metadata) := by
      refine eventEnvelope_of_reads (Dict.get?_set_self _ _ _) ?_ ?_ ?_ ?_ h.toValid
      · intro route hroute
        rw [Dict.get?_set_of_ne (by simp), hd.route] at hroute
        simpa using hroute.symm
      · rw [Dict.get?_set_of_ne (by simp), hd.event_type]
      · rw [Dict.get?_set_of_ne (by simp), hd.payload]
      · rw [Dict.get?_set_of_ne (by simp), hd.metadata]
    have hpresent : payloadPresent (d.set "schema_version" (.int job.schema_version))
        job.schema_version = .ok () := by
      unfold payloadPresent
      split_ifs <;> simp [hhas]
    simp only [ingressEvent, bind_eq_ok]
    exact ⟨(), hpresent, henv⟩
  have hjob : ingressJob rt (writeEvent (d.set "schema_version" (.int job.schema_version))
      job.event_type job.payload job.metadata)
      ⟨job.request_id, job.route, job.room_id, job.user_id, job.schema_version⟩
      job.event_type job.payload job.metadata = .ok job := by
    -- what is written back are five keys, and each other field is still the one that was read
    have hget : ∀ key : PyStr, key ∉ (["schema_version", "event_type", "payload", "metadata",
        "body"] : List PyStr) →
        (writeEvent (d.set "schema_version" (.int job.schema_version)) job.event_type
          job.payload job.metadata).get? key = d.get? key := by
      intro key hkey
      simp only [List.mem_cons, not_or] at hkey
      obtain ⟨h₁, h₂, h₃, h₄, h₅, -⟩ := hkey
      rw [writeEvent, Dict.get?_set_of_ne (Ne.symm h₅), Dict.get?_set_of_ne (Ne.symm h₄),
        Dict.get?_set_of_ne (Ne.symm h₃), Dict.get?_set_of_ne (Ne.symm h₂),
        Dict.get?_set_of_ne (Ne.symm h₁)]
    have hseq : optionalField (writeEvent (d.set "schema_version" (.int job.schema_version))
        job.event_type job.payload job.metadata) "room_seq" positiveBigint "Invalid room_seq"
        = .ok job.room_seq := by
      have hread := (hget "room_seq" (by simp)).trans hd.room_seq
      cases hs : job.room_seq with
      | none => exact optionalField_absent (Or.inr (by rw [hread, hs]; rfl))
      | some n =>
          refine optionalField_present (hread.trans (by rw [hs])) (by simp [optNat]) ?_
          exact positiveBigint_eq_some.mpr ⟨rfl, h.room_seq n hs⟩
    simp only [ingressJob, bind_eq_ok, require_eq_ok]
    -- field by field, in the order of the checks
    refine ⟨job.x_idempotency_key, ?_, job.room_seq, hseq, job.retry_count, ?_,
      job.replay_count, ?_, none, ?_, job.queued_at, ?_, job.replayed_at, ?_, job.payment_id, ?_,
      ?_⟩
    · exact optionalField_optText
        (Or.inl ((hget _ (by simp)).trans hd.x_idempotency_key))
        fun s hs => boundedText_eq_some.mpr ⟨rfl, h.idem_key s hs⟩
    · rw [hget _ (by simp), hd.retry_count]
      exact nonnegativeBigint_eq_some.mpr ⟨rfl, h.retry_count⟩
    · rw [hget _ (by simp), hd.replay_count]
      exact nonnegativeBigint_eq_some.mpr ⟨rfl, h.replay_count⟩
    · refine optionalField_absent (Or.inr ?_)
      rw [hget _ (by simp), hd.next_retry_at, h.next_retry_at]
      rfl
    · exact optionalField_optText (Or.inr ((hget _ (by simp)).trans hd.queued_at)) h.queued_at
    · exact optionalField_optText (Or.inr ((hget _ (by simp)).trans hd.replayed_at))
        h.replayed_at
    · exact optionalField_optText (Or.inr ((hget _ (by simp)).trans hd.payment_id))
        fun s hs => paymentId_eq_some.mpr ⟨rfl, h.payment_id s hs⟩
    · have hbody := h.body
      have hnext := h.next_retry_at
      have hreason := h.failed_reason
      have hat := h.failed_at
      cases job
      simp_all [pure, Except.pure]
  simp only [validateIngressObject, haliases, hfill, ingressIdentity_of_reads hd h.toValid,
    hevent, hjob]

end EventPipeline.Worker
