import EventPipeline.Portfolio.Intake
import EventPipeline.Python.TextSize
import EventPipeline.Worker.Stored

/-!
# EventPipeline.Guarantees.Intake

The contract between the API and the worker: what an intake endpoint answers with 202 is
on the ingress topic in a form the worker's gate accepts, as the same event.

`Reads` of `Worker.Ingress` is about jobs the worker wrote; the three jobs of the API are
shaped differently (no schema version, canonical aliases, a legacy body), and
`IntakeJob` is what they have in common.
-/

namespace EventPipeline.Guarantees

open EventPipeline.Python EventPipeline.Portfolio EventPipeline.Worker EventPipeline.Concurrency

/-! ### Requests

The three endpoints have one shape: they check the request, build a job, and queue it. A request
carries what its own endpoint has been given. -/

/-- An accepted request of one of the three endpoints. -/
inductive IntakeRequest
  | event (stream_id : PostgresId) (payload : EventCreate)
  | genericEvent (stream_id : PostgresId) (payload : GenericEventCreate)
  | orderEvent (order_id : PostgresId) (payload : OrderEventCreate)

namespace IntakeRequest

/-- The endpoint that serves a request. -/
def handle (generic_events_v2_enabled : Bool) (x_idempotency_key : Option IdempotencyHeader)
    (current_user : PostgresId) : IntakeRequest → Intake ApiExc Dict
  | .event stream_id payload => createEvent stream_id payload x_idempotency_key current_user
  | .genericEvent stream_id payload =>
      createGenericEvent generic_events_v2_enabled stream_id payload x_idempotency_key
        current_user
  | .orderEvent order_id payload =>
      createOrderEvent order_id payload x_idempotency_key current_user

/-- The job an endpoint queues. -/
def job (x_idempotency_key : Option IdempotencyHeader) (current_user : PostgresId)
    (request_id queued_at : PyStr) : IntakeRequest → Dict
  | .event stream_id payload =>
      eventJob stream_id payload x_idempotency_key current_user request_id queued_at
  | .genericEvent stream_id payload =>
      genericEventJob stream_id payload x_idempotency_key current_user request_id queued_at
  | .orderEvent order_id payload =>
      orderEventJob order_id payload x_idempotency_key current_user request_id queued_at

/-- The endpoint is switched on. -/
def enabled (generic_events_v2_enabled : Bool) : IntakeRequest → Bool
  | .genericEvent _ _ => generic_events_v2_enabled
  | _ => true

/-- The stream of the path. -/
def streamId : IntakeRequest → Nat
  | .event stream_id _ | .genericEvent stream_id _ | .orderEvent stream_id _ => stream_id.value

/-- The type of the event; the plain endpoint has one type. -/
def eventType : IntakeRequest → PyStr
  | .event _ _ => "legacy.message"
  | .genericEvent _ payload => payload.event_type
  | .orderEvent _ payload => payload.event_type.text

/-- The payload of the event; a text body is an object with one field. -/
def payload : IntakeRequest → Dict
  | .event _ payload => [("text", .str payload.body.text)]
  | .genericEvent _ payload => payload.payload
  | .orderEvent _ payload => [("text", .str payload.body.text)]

/-- The metadata of the event. -/
def metadata : IntakeRequest → Dict
  | .event _ _ => []
  | .genericEvent _ payload => payload.metadata
  | .orderEvent _ payload => orderMetadata payload

end IntakeRequest

/-! ### What is sent -/

/-- Key and value of a record handed to the broker. -/
def sentIn : IntakeOp → Option (Bytes × Option Bytes)
  | .send key value => some (key, value)
  | _ => none

/-- The records a request hands to the broker, under given answers of the environment. -/
def sent {ε α : Type} (answer : (o : IntakeOp) → o.Res) (p : Intake ε α) :
    List (Bytes × Option Bytes) :=
  (Prog.trace answer p).1.filterMap sentIn

/-- The record is the request's job: it is what the producer's serializer makes of the
job, the consumer decodes it as the job, its key is the text of the stream id, and the
worker's gate accepts it as the event that was asked for. -/
structure ReadByWorker (rt : Runtime) (request : IntakeRequest)
    (x_idempotency_key : Option IdempotencyHeader) (current_user : PostgresId)
    (request_id queued_at : PyStr) (key : Bytes) (value : Option Bytes) : Prop where
  serialized : serializeJson
    (.obj (request.job x_idempotency_key current_user request_id queued_at)) = .ok value
  decoded : deserializeJson rt value =
    .json (.obj (request.job x_idempotency_key current_user request_id queued_at))
  key : utf8Decode key = some (natStr request.streamId)
  accepted : ∃ n, (validateIngressPayload rt (.obj
      (request.job x_idempotency_key current_user request_id queued_at))).2 = .ok n ∧
    n.request_id = request_id ∧ n.room_id = request.streamId ∧
    n.user_id = current_user.value ∧ n.event_type = request.eventType ∧
    n.payload = request.payload ∧ n.metadata = request.metadata ∧
    n.x_idempotency_key = x_idempotency_key.map (·.text)

/-! ### Texts -/

theorem eventRoute_clean {head : String} (hhead : (PyStr.ofString head).Clean) (n : Nat) :
    (eventRoute head n).Clean := by
  have htail : (PyStr.ofString "/events").Clean := by decide
  simp only [eventRoute, PyStr.clean_append]
  exact ⟨⟨hhead, natStr_clean n⟩, htail⟩

theorem natStr_id_length (id : PostgresId) : (natStr id.value).length ≤ 19 :=
  natStr_length_le (by norm_num) (lt_of_le_of_lt id.range.2 (by norm_num [maxPostgresBigint]))

theorem boundedText_of {n : Nat} {s : PyStr} (hclean : s.Clean) (hpos : 1 ≤ s.length)
    (hle : s.length ≤ n) : boundedText n (.str s) = some s :=
  boundedText_eq_some.mpr ⟨rfl, List.ne_nil_of_length_pos hpos, hle, hclean.1⟩

theorem isoTimestamp_nowIso (rt : Runtime) (now : Clock) :
    isoTimestamp rt (.str now.nowIso) = some now.nowIso :=
  isoTimestamp_eq_some.mpr ⟨rfl, DateTime.isoformat_ne_nil _, DateTime.isoformat_length now.in_range,
    now.nowIso_clean.1, rt.awareTimestamp_nowIso now⟩

/-! ### The gate

The worker's gate on a job of the API. The three jobs differ in their route and in how the event
is written; what they have in common is enough to pass all other checks. -/

/-- What the jobs of the three endpoints have in common: request `r`, route `path`, time
`time`, stream `room`, user `user` and idempotency key `idem`. -/
structure IntakeJob (rt : Runtime) (d : Dict) (r path time : PyStr) (room user : Nat)
    (idem : Option PyStr) : Prop where
  request_id : (d.get? "request_id").bind (boundedText 80) = some r
  route : (d.get? "route").bind (boundedText 500) = some path
  room_id : (d.get? "room_id").bind positiveBigint = some room
  user_id : (d.get? "user_id").bind positiveBigint = some user
  room_seq : d.get? "room_seq" = some .null
  idem_key : d.get? "x_idempotency_key" = some (optText idem)
  idem_key_ok : ∀ k ∈ idem, boundedText 128 (.str k) = some k
  queued_at : d.get? "queued_at" = some (.str time)
  queued_at_ok : isoTimestamp rt (.str time) = some time
  retry_count : d.get? "retry_count" = some (.int 0)
  replay_count : d.get? "replay_count" = none
  next_retry_at : d.get? "next_retry_at" = some .null
  replayed_at : d.get? "replayed_at" = none
  stream_seq : d.get? "stream_seq" = none
  stream_id : ∀ v, d.get? "stream_id" = some v → d.get? "room_id" = some v
  actor_id : ∀ v, d.get? "actor_id" = some v → d.get? "user_id" = some v
  payment_id : ∃ payment, optionalField d "payment_id" paymentId "Invalid payment_id" = .ok payment

section Gate

variable {rt : Runtime} {d p m : Dict} {r path time et : PyStr} {room user version : Nat}
variable {idem : Option PyStr} {groups : IngressRoute}

theorem get?_of_bind {α : Type} {o : Option Json} {f : Json → Option α} {a : α}
    (h : o.bind f = some a) : ∃ v, o = some v ∧ f v = some a := Option.bind_eq_some_iff.mp h

/-- An alias that repeats an integer is no conflict. -/
theorem validateAliasPair_int {canonical legacy : String} {n : Nat}
    (hlegacy : d.get? legacy = some (.int n))
    (h : ∀ v, d.get? canonical = some v → d.get? legacy = some v) :
    validateAliasPair d canonical legacy = .ok () := by
  unfold validateAliasPair
  cases hcanonical : d.get? canonical with
  | none => rfl
  | some v =>
      obtain rfl : v = .int n := Option.some.inj ((h v hcanonical).symm.trans hlegacy)
      simp [hlegacy, Json.sameType, Json.pyEq, Json.eqItem, Json.number?]

theorem fillAlias_of_present {canonical legacy : PyStr} {v : Json} (h : d.get? legacy = some v) :
    fillAlias canonical legacy d = d := by
  simp [fillAlias, h]

theorem IntakeJob.get?_room_id (h : IntakeJob rt d r path time room user idem) :
    d.get? "room_id" = some (.int room) := by
  obtain ⟨v, hv, hroom⟩ := get?_of_bind h.room_id
  rw [hv, (positiveBigint_eq_some.mp hroom).1]

theorem IntakeJob.get?_user_id (h : IntakeJob rt d r path time room user idem) :
    d.get? "user_id" = some (.int user) := by
  obtain ⟨v, hv, huser⟩ := get?_of_bind h.user_id
  rw [hv, (positiveBigint_eq_some.mp huser).1]

theorem IntakeJob.aliases
    (h : IntakeJob rt d r path time room user idem) :
    validateIngressAliases d = .ok () ∧ fillIngressAliases d = d := by
  constructor
  · have hseq : validateAliasPair d "stream_seq" "room_seq" = .ok () := by
      simp [validateAliasPair, h.stream_seq]
    simp only [validateIngressAliases, validateAliasPair_int h.get?_room_id h.stream_id,
      validateAliasPair_int h.get?_user_id h.actor_id, hseq]
    rfl
  · rw [fillIngressAliases, fillAlias_of_present h.get?_room_id, fillAlias_of_present h.get?_user_id,
      fillAlias_of_present h.room_seq]

theorem IntakeJob.identity
    (h : IntakeJob rt d r path time room user idem)
    (hroute : matchIngressRoute path = some groups) (hstream : groups.stream_id = room)
    (hversion : groups.version = .v2 →
      groups.resource = .streams ∧ d.has "schema_version" = true ∧ version = 2)
    (hschema : Worker.schemaVersion ((d.get? "schema_version").getD (.int 1)) =
      some version) :
    ingressIdentity d = .ok ⟨r, path, room, user, version⟩ := by
  have hhas : ∀ {key : PyStr} {α : Type} {f : Json → Option α} {a : α},
      (d.get? key).bind f = some a → d.has key = true := by
    intro key α f a hbind
    obtain ⟨v, hv, -⟩ := get?_of_bind hbind
    rw [Dict.has, hv]
    rfl
  simp only [ingressIdentity, bind_eq_ok, require_eq_ok, check_eq_ok, decide_eq_true_eq]
  refine ⟨(), hhas h.request_id, (), hhas h.route, (), hhas h.room_id, (), hhas h.user_id,
    r, h.request_id, path, h.route, room, h.room_id, user, h.user_id, groups,
    hroute, (), hstream, (), ?_, (), ?_, version, hschema, (), ?_, rfl⟩
  · exact or_iff_not_imp_left.mpr fun hv => (hversion (not_not.mp hv)).1
  · exact or_iff_not_imp_left.mpr fun hv => (hversion (not_not.mp hv)).2.1
  · exact or_iff_not_imp_left.mpr fun hv => (hversion (not_not.mp hv)).2.2

/-- **The gate on an API job.** A job of an endpoint whose route and event are in order
is accepted as that event. -/
theorem IntakeJob.validate
    (h : IntakeJob rt d r path time room user idem)
    (hroute : matchIngressRoute path = some groups) (hstream : groups.stream_id = room)
    (hversion : groups.version = .v2 →
      groups.resource = .streams ∧ d.has "schema_version" = true ∧ version = 2)
    (hschema : Worker.schemaVersion ((d.get? "schema_version").getD (.int 1)) =
      some version)
    (hevent : ingressEvent (d.set "schema_version" (.int version)) version =
      .ok (et, p, m)) :
    ∃ n, (validateIngressPayload rt (.obj d)).2 = .ok n ∧ n.request_id = r ∧
      n.room_id = room ∧ n.user_id = user ∧ n.event_type = et ∧ n.payload = p ∧
      n.metadata = m ∧ n.x_idempotency_key = idem := by
  obtain ⟨haliases, hfill⟩ := h.aliases
  have hidentity := h.identity hroute hstream hversion hschema
  -- what the validation writes into the job are the five fields of the event
  have hget : ∀ key : PyStr, key ∉ (["schema_version", "event_type", "payload", "metadata",
      "body"] : List PyStr) →
      (writeEvent (d.set "schema_version" (.int version)) et p m).get? key =
        d.get? key := by
    intro key hkey
    simp only [List.mem_cons, not_or] at hkey
    obtain ⟨h₁, h₂, h₃, h₄, h₅, -⟩ := hkey
    rw [writeEvent, Dict.get?_set_of_ne (Ne.symm h₅), Dict.get?_set_of_ne (Ne.symm h₄),
      Dict.get?_set_of_ne (Ne.symm h₃), Dict.get?_set_of_ne (Ne.symm h₂),
      Dict.get?_set_of_ne (Ne.symm h₁)]
  obtain ⟨payment, hpayment⟩ := h.payment_id
  -- the other fields are read as the endpoint wrote them
  have hjob : ingressJob rt (writeEvent (d.set "schema_version" (.int version)) et p m)
      ⟨r, path, room, user, version⟩ et p m = .ok
        { request_id := r, route := path, room_id := room, user_id := user,
          schema_version := version, room_seq := none, event_type := et, payload := p,
          metadata := m, body := legacyBodyPreview p, x_idempotency_key := idem,
          retry_count := 0, replay_count := 0, next_retry_at := none, queued_at := some time,
          replayed_at := none, payment_id := payment, failed_reason := none,
          failed_at := none } := by
    simp only [ingressJob, bind_eq_ok, require_eq_ok]
    refine ⟨idem, ?_, none, ?_, 0, ?_, 0, ?_, none, ?_, some time, ?_, none, ?_, payment,
      ?_, rfl⟩
    · exact optionalField_optText (Or.inl ((hget _ (by simp)).trans h.idem_key)) h.idem_key_ok
    · exact optionalField_absent (Or.inr ((hget _ (by simp)).trans h.room_seq))
    · rw [hget _ (by simp), h.retry_count]
      rfl
    · rw [hget _ (by simp), h.replay_count]
      rfl
    · exact optionalField_absent (Or.inr ((hget _ (by simp)).trans h.next_retry_at))
    · exact optionalField_present ((hget _ (by simp)).trans h.queued_at) (by simp) h.queued_at_ok
    · exact optionalField_absent (Or.inl ((hget _ (by simp)).trans h.replayed_at))
    · rw [← hpayment, optionalField, optionalField, hget _ (by simp)]
  have hverdict : (validateIngressPayload rt (.obj d)).2 =
      ingressJob rt (writeEvent (d.set "schema_version" (.int version)) et p m)
        ⟨r, path, room, user, version⟩ et p m := by
    simp only [validateIngressPayload, validateIngressObject, haliases, hfill, hidentity, hevent]
  exact ⟨_, hverdict.trans hjob, rfl, rfl, rfl, rfl, rfl, rfl, rfl⟩

end Gate

/-! ### The three jobs -/

section Jobs

variable {rt : Runtime} {stream_id current_user : PostgresId}
variable {x_idempotency_key : Option IdempotencyHeader} {r : PyStr} {now : Clock}

theorem headerJson_eq (header : Option IdempotencyHeader) :
    headerJson header = optText (header.map (·.text)) := by
  cases header <;> rfl

theorem header_ok (header : Option IdempotencyHeader) :
    ∀ k ∈ header.map (·.text), boundedText 128 (.str k) = some k := by
  intro k hk
  cases header with
  | none => cases hk
  | some header =>
      obtain rfl := Option.some.inj hk
      exact boundedText_of ⟨header.pattern, header.scalar⟩ header.length.1 header.length.2

theorem positiveBigint_id (id : PostgresId) : positiveBigint (.int id.value) = some id.value :=
  positiveBigint_eq_some.mpr ⟨rfl, id.range⟩

theorem eventRoute_ok {head : String} (hhead : (PyStr.ofString head).Clean)
    (hlength : (PyStr.ofString head).length ≤ 17) (id : PostgresId) :
    boundedText 500 (.str (eventRoute head id.value)) = some (eventRoute head id.value) := by
  have hdigits := natStr_id_length id
  have htail : (PyStr.ofString "/events").length = 7 := rfl
  refine boundedText_of (eventRoute_clean hhead _) ?_ ?_
  · simp only [eventRoute, List.length_append, htail]
    omega
  · simp only [eventRoute, List.length_append, htail]
    omega

theorem uuidText_ok (value : Nat) : boundedText 80 (.str (uuidText value)) = some (uuidText value) :=
  boundedText_of (uuidText_clean value) (by rw [uuidText_length]; norm_num)
    (by rw [uuidText_length]; norm_num)

theorem eventJob_intake (payload : EventCreate) (hr : boundedText 80 (.str r) = some r) :
    IntakeJob rt (eventJob stream_id payload x_idempotency_key current_user r now.nowIso) r
      (eventRoute "POST:/v1/streams/" stream_id.value) now.nowIso stream_id.value
      current_user.value (x_idempotency_key.map (·.text)) := by
  have hroute : boundedText 500 (.str (eventRoute "POST:/v1/streams/" stream_id.value)) = some _ :=
    eventRoute_ok (by decide) (by decide) stream_id
  constructor
  case request_id => simpa [eventJob] using hr
  case route => simpa [eventJob] using hroute
  case room_id => simpa [eventJob] using positiveBigint_id stream_id
  case user_id => simpa [eventJob] using positiveBigint_id current_user
  case idem_key => simp [eventJob, headerJson_eq]
  case idem_key_ok => exact header_ok x_idempotency_key
  case queued_at_ok => exact isoTimestamp_nowIso rt now
  case payment_id => exact ⟨none, optionalField_absent (Or.inl (by simp [eventJob]))⟩
  all_goals simp [eventJob]

theorem genericEventJob_intake (payload : GenericEventCreate)
    (hr : boundedText 80 (.str r) = some r) :
    IntakeJob rt (genericEventJob stream_id payload x_idempotency_key current_user r now.nowIso) r
      (eventRoute "POST:/v2/streams/" stream_id.value) now.nowIso stream_id.value
      current_user.value (x_idempotency_key.map (·.text)) := by
  have hroute : boundedText 500 (.str (eventRoute "POST:/v2/streams/" stream_id.value)) = some _ :=
    eventRoute_ok (by decide) (by decide) stream_id
  constructor
  case request_id => simpa [genericEventJob, genericAcceptedResponse] using hr
  case route => simpa [genericEventJob, genericAcceptedResponse] using hroute
  case room_id =>
      simpa [genericEventJob, genericAcceptedResponse] using positiveBigint_id stream_id
  case user_id =>
      simpa [genericEventJob, genericAcceptedResponse] using positiveBigint_id current_user
  case idem_key => simp [genericEventJob, genericAcceptedResponse, headerJson_eq]
  case idem_key_ok => exact header_ok x_idempotency_key
  case queued_at_ok => exact isoTimestamp_nowIso rt now
  case payment_id =>
      exact ⟨none, optionalField_absent
        (Or.inl (by simp [genericEventJob, genericAcceptedResponse]))⟩
  all_goals simp [genericEventJob, genericAcceptedResponse]

theorem paymentField_ok {d : Dict} (payment : Option (UnicodeScalarText 0 80))
    (h : d.get? "payment_id" = some (paymentJson payment)) :
    ∃ p, optionalField d "payment_id" paymentId "Invalid payment_id" = .ok p := by
  cases payment with
  | none => exact ⟨none, optionalField_absent (Or.inr h)⟩
  | some payment =>
      exact ⟨some payment.text, optionalField_present h (by simp [paymentJson])
        (paymentId_eq_some.mpr ⟨rfl, payment.length.2, payment.clean.1⟩)⟩

theorem orderEventJob_intake (payload : OrderEventCreate)
    (hr : boundedText 80 (.str r) = some r) :
    IntakeJob rt (orderEventJob stream_id payload x_idempotency_key current_user r now.nowIso) r
      (eventRoute "POST:/v1/orders/" stream_id.value) now.nowIso stream_id.value
      current_user.value (x_idempotency_key.map (·.text)) := by
  have hroute : boundedText 500 (.str (eventRoute "POST:/v1/orders/" stream_id.value)) = some _ :=
    eventRoute_ok (by decide) (by decide) stream_id
  constructor
  case request_id => simpa [orderEventJob] using hr
  case route => simpa [orderEventJob] using hroute
  case room_id => simpa [orderEventJob] using positiveBigint_id stream_id
  case user_id => simpa [orderEventJob] using positiveBigint_id current_user
  case idem_key => simp [orderEventJob, headerJson_eq]
  case idem_key_ok => exact header_ok x_idempotency_key
  case queued_at_ok => exact isoTimestamp_nowIso rt now
  case payment_id => exact paymentField_ok payload.payment_id (by simp [orderEventJob])
  all_goals simp [orderEventJob]

/-! ### The three events

A legacy job spells its event as a body, an order job spells it with its metadata, and a generic
job with its own payload. Each is read back as the event of its request. -/

/-- The size of an object that prints. -/
theorem jsonSize_eq {v : Json} (hs : Json.Sound v) (hp : Json.printable false v = true) :
    jsonSize v = some (utf8Size (Json.render .compact v)) := by
  have hclean := Json.render_compact_clean hs
  simp [jsonSize, Json.dumps, hp, utf8Encode, hclean.2, utf8Size]

/-- A text body as an object. -/
theorem objectOk_text (body : UnicodeScalarText 1 1000) :
    ObjectOk maxPayloadBytes [("text", .str body.text)] := by
  have hsound : Json.Sound (.obj [("text", .str body.text)]) :=
    ⟨⟨by decide, body.clean⟩, trivial⟩
  have hsize := Json.utf8Size_renderStr_le body.text
  have hhead : utf8Size (PyStr.ofString "\x7b" ++ Json.renderStr .compact "text" ++
      Json.DumpStyle.compact.keySep) = 8 := by decide
  have htail : utf8Size (PyStr.ofString "\x7d") = 1 := by decide
  have hlength := body.length.2
  refine ⟨hsound, by simp [Json.depth, Json.depthValues, maxJsonNestingDepth], _,
    jsonSize_eq hsound rfl, ?_⟩
  simp only [Json.render, Json.renderPairs, utf8Size_append, maxPayloadBytes] at hhead ⊢
  omega

theorem objectOk_nil : ObjectOk maxMetadataBytes [] :=
  ⟨trivial, by simp [Json.depth, Json.depthValues, maxJsonNestingDepth], _, rfl, by decide⟩

theorem classifyOrderEvent_short (et : PyStr) :
    (classifyOrderEvent et).Clean ∧ (classifyOrderEvent et).length ≤ 12 := by
  have hmap : ∀ p ∈ orderEventCategoryMap, PyStr.Clean p.2 ∧ p.2.length ≤ 12 := by decide
  unfold classifyOrderEvent
  cases hlookup : orderEventCategoryMap.lookup et with
  | none => decide
  | some category =>
      obtain ⟨before, after, hsplit, -⟩ := List.lookup_eq_some_iff.mp hlookup
      exact hmap (et, category) (by rw [hsplit]; simp)

theorem externalReferences_sound (payment : Option (UnicodeScalarText 0 80)) :
    Json.Sound (.obj (externalReferences payment)) ∧
      utf8Size (Json.render .compact (.obj (externalReferences payment))) ≤ 500 := by
  have hnil : Json.Sound (.obj []) ∧ utf8Size (Json.render .compact (.obj [])) ≤ 500 :=
    ⟨trivial, by decide⟩
  cases payment with
  | none => exact hnil
  | some payment =>
      simp only [externalReferences]
      split_ifs
      · exact hnil
      · refine ⟨⟨⟨by decide, payment.clean⟩, trivial⟩, ?_⟩
        have hsize := Json.utf8Size_renderStr_le payment.text
        have hkey : utf8Size (Json.renderStr .compact "payment") = 9 := by decide
        have hsep : utf8Size Json.DumpStyle.compact.keySep = 1 := by decide
        have hopen : utf8Size (PyStr.ofString "\x7b") = 1 := by decide
        have hclose : utf8Size (PyStr.ofString "\x7d") = 1 := by decide
        have hlength := payment.length.2
        simp only [Json.render, Json.renderPairs, utf8Size_append, hkey, hsep, hopen, hclose]
        omega

/-- The metadata of an order event is far below its limit. -/
theorem objectOk_orderMetadata (payload : OrderEventCreate) :
    ObjectOk maxMetadataBytes (orderMetadata payload) := by
  obtain ⟨hclean, hshort⟩ := classifyOrderEvent_short payload.event_type.text
  obtain ⟨hreferences, hbytes⟩ := externalReferences_sound payload.payment_id
  have hscenario : (PyStr.ofString "order-lifecycle").Clean := by decide
  have hsound : Json.Sound (.obj (orderMetadata payload)) :=
    ⟨⟨by decide, hscenario⟩, ⟨by decide, hclean⟩, ⟨by decide, hreferences⟩, trivial⟩
  have hflat : Json.depth (.obj (externalReferences payload.payment_id)) ≤ 1 := by
    cases payload.payment_id with
    | none => simp [externalReferences, Json.depth, Json.depthValues]
    | some payment =>
        simp only [externalReferences]
        split_ifs <;> simp [Json.depth, Json.depthValues]
  have hprints : Json.printable false (.obj (externalReferences payload.payment_id)) = true := by
    cases payload.payment_id with
    | none => rfl
    | some payment =>
        simp only [externalReferences]
        split_ifs <;> rfl
  have hprintable : Json.printable false (.obj (orderMetadata payload)) = true := by
    simp only [Json.printable] at hprints
    simp [orderMetadata, Json.printable, Json.printablePairs, hprints]
  -- the size: three keys and a text of known length, and two values with a bound
  have hclassification := Json.utf8Size_renderStr_le (classifyOrderEvent payload.event_type.text)
  have hkey₁ : utf8Size (Json.renderStr .compact "reference_scenario") = 20 := by decide
  have hvalue₁ : utf8Size (Json.renderStr .compact "order-lifecycle") = 17 := by decide
  have hkey₂ : utf8Size (Json.renderStr .compact "classification") = 16 := by decide
  have hkey₃ : utf8Size (Json.renderStr .compact "external_references") = 21 := by decide
  have hkeySep : utf8Size Json.DumpStyle.compact.keySep = 1 := by decide
  have hitemSep : utf8Size Json.DumpStyle.compact.itemSep = 1 := by decide
  have hopen : utf8Size (PyStr.ofString "\x7b") = 1 := by decide
  have hclose : utf8Size (PyStr.ofString "\x7d") = 1 := by decide
  refine ⟨hsound, ?_, _, jsonSize_eq hsound hprintable, ?_⟩
  · simp only [orderMetadata, Json.depth, Json.depthValues, maxJsonNestingDepth] at hflat ⊢
    omega
  · rw [Json.render, utf8Size_append, utf8Size_append, hopen, hclose, orderMetadata,
      Json.renderPairs_cons_cons, Json.renderPairs_cons_cons, Json.renderPairs]
    simp only [utf8Size_append, Json.render.eq_6, hkey₁, hvalue₁, hkey₂, hkey₃, hkeySep, hitemSep,
      maxMetadataBytes]
    omega

/-- A legacy job with a text body and nothing else to say about its event. -/
theorem ingressEvent_text {d : Dict} (body : UnicodeScalarText 1 1000)
    (hgeneric : isGenericEnvelope d = false) (htype : d.get? "event_type" = none)
    (hpayload : d.get? "payload" = none) (hbody : d.get? "body" = some (.str body.text))
    (hmetadata : d.get? "metadata" = none) (hcategory : d.get? "category" = none)
    (hpayment : d.get? "payment_id" = none) :
    ingressEvent d 1 = .ok ("legacy.message", [("text", .str body.text)], []) := by
  have hlegacy : boundedText 50 (.str "legacy.message") = some (PyStr.ofString "legacy.message") := by
    decide
  simp only [ingressEvent, bind_eq_ok]
  refine ⟨(), ?_, eventEnvelope_of_parts ?_ ?_ ?_ (objectOk_text body) objectOk_nil⟩
  · simp [payloadPresent, Dict.has, hbody]
  · simp only [envelopeEventType, rawEventType, htype, hgeneric, bind_eq_ok, require_eq_ok,
      check_eq_ok]
    exact ⟨_, rfl, _, hlegacy, (), rfl, rfl⟩
  · simp only [envelopePayload, hgeneric, hpayload, hbody]
    rfl
  · simp only [envelopeMetadata, hgeneric, hmetadata, legacyMetadata, hcategory, hpayment]
    rfl

/-- A job that spells out its event. -/
theorem ingressEvent_spelled {d : Dict} {et : PyStr} {p m : Dict} {version : Nat}
    (htype : d.get? "event_type" = some (.str et)) (hp : d.get? "payload" = some (.obj p))
    (hm : d.get? "metadata" = some (.obj m)) (h : EventOk (isGenericEnvelope d) et p m) :
    ingressEvent d version = .ok (et, p, m) := by
  simp only [ingressEvent, bind_eq_ok]
  refine ⟨(), ?_, eventEnvelope_of_ok htype hp hm h⟩
  unfold payloadPresent
  split_ifs <;> simp [Dict.has, hp]

/-- Only the v2 endpoint writes routes under `POST:/v2/`. -/
theorem not_v2_route {head : String}
    (hlength : (PyStr.ofString "POST:/v2/").length ≤ (PyStr.ofString head).length)
    (hhead : (PyStr.ofString head).startsWith "POST:/v2/" = false) (n : Nat) :
    (eventRoute head n).startsWith "POST:/v2/" = false := by
  rw [eventRoute, List.append_assoc, PyStr.startsWith_append hlength]
  exact hhead

theorem eventJob_event (payload : EventCreate) :
    ingressEvent ((eventJob stream_id payload x_idempotency_key current_user r
      now.nowIso).set "schema_version" (.int (1 : Nat))) 1 =
        .ok ("legacy.message", [("text", .str payload.body.text)], []) := by
  refine ingressEvent_text payload.body ?_
    ((Dict.get?_set_of_ne (by simp) _ _).trans (by simp [eventJob]))
    ((Dict.get?_set_of_ne (by simp) _ _).trans (by simp [eventJob]))
    ((Dict.get?_set_of_ne (by simp) _ _).trans (by simp [eventJob]))
    ((Dict.get?_set_of_ne (by simp) _ _).trans (by simp [eventJob]))
    ((Dict.get?_set_of_ne (by simp) _ _).trans (by simp [eventJob]))
    ((Dict.get?_set_of_ne (by simp) _ _).trans (by simp [eventJob]))
  refine (isGenericEnvelope_of (Dict.get?_set_self _ _ _) fun route hroute hstart => ?_).trans
    (by decide)
  rw [Dict.get?_set_of_ne (by simp)] at hroute
  obtain rfl : eventRoute "POST:/v1/streams/" stream_id.value = route := by
    simpa [eventJob] using hroute
  rw [not_v2_route (by decide) (by decide)] at hstart
  exact absurd hstart (by simp)

theorem orderEventJob_event (payload : OrderEventCreate) :
    ingressEvent ((orderEventJob stream_id payload x_idempotency_key current_user r
      now.nowIso).set "schema_version" (.int (1 : Nat))) 1 =
        .ok (payload.event_type.text, [("text", .str payload.body.text)],
          orderMetadata payload) := by
  have hgeneric : isGenericEnvelope ((orderEventJob stream_id payload x_idempotency_key
      current_user r now.nowIso).set "schema_version" (.int (1 : Nat))) = false := by
    refine (isGenericEnvelope_of (Dict.get?_set_self _ _ _) fun route hroute hstart => ?_).trans
      (by decide)
    rw [Dict.get?_set_of_ne (by simp)] at hroute
    obtain rfl : eventRoute "POST:/v1/orders/" stream_id.value = route := by
      simpa [orderEventJob] using hroute
    rw [not_v2_route (by decide) (by decide)] at hstart
    exact absurd hstart (by simp)
  refine ingressEvent_spelled
    ((Dict.get?_set_of_ne (by simp) _ _).trans (by simp [orderEventJob]))
    ((Dict.get?_set_of_ne (by simp) _ _).trans (by simp [orderEventJob]))
    ((Dict.get?_set_of_ne (by simp) _ _).trans (by simp [orderEventJob])) ?_
  rw [hgeneric]
  exact ⟨List.ne_nil_of_length_pos payload.event_type.length.1, payload.event_type.length.2,
    payload.event_type.clean.1, by simp, objectOk_text payload.body,
    objectOk_orderMetadata payload⟩

theorem GenericEventCreate.objects_ok (payload : GenericEventCreate) :
    ObjectOk maxPayloadBytes payload.payload ∧ ObjectOk maxMetadataBytes payload.metadata := by
  obtain ⟨hp, hpdepth⟩ := validateJsonStructure_ok.mp payload.payload_structure
  obtain ⟨hm, hmdepth⟩ := validateJsonStructure_ok.mp payload.metadata_structure
  exact ⟨⟨hp, hpdepth, payload.payload_bytes⟩, ⟨hm, hmdepth, payload.metadata_bytes⟩⟩

theorem genericEventJob_event (payload : GenericEventCreate) :
    ingressEvent ((genericEventJob stream_id payload x_idempotency_key current_user r
      now.nowIso).set "schema_version" (.int (2 : Nat))) 2 =
        .ok (payload.event_type, payload.payload, payload.metadata) := by
  obtain ⟨hp, hm⟩ := GenericEventCreate.objects_ok payload
  refine ingressEvent_spelled
    ((Dict.get?_set_of_ne (by simp) _ _).trans
      (by simp [genericEventJob, genericAcceptedResponse]))
    ((Dict.get?_set_of_ne (by simp) _ _).trans
      (by simp [genericEventJob, genericAcceptedResponse]))
    ((Dict.get?_set_of_ne (by simp) _ _).trans
      (by simp [genericEventJob, genericAcceptedResponse])) ?_
  have hclean := isGenericEventType_clean payload.event_type_pattern
  exact ⟨List.ne_nil_of_length_pos payload.event_type_length.1, payload.event_type_length.2,
    hclean.1, fun _ => payload.event_type_pattern, hp, hm⟩

end Jobs

/-! ### The contract -/

section Contract

variable {rt : Runtime} {current_user : PostgresId} {r : PyStr} {now : Clock}
variable {x_idempotency_key : Option IdempotencyHeader}

/-- The gate accepts the job of every request. -/
theorem IntakeRequest.accepted (request : IntakeRequest) (hr : boundedText 80 (.str r) = some r) :
    ∃ n, (validateIngressPayload rt (.obj
        (request.job x_idempotency_key current_user r now.nowIso))).2 = .ok n ∧
      n.request_id = r ∧ n.room_id = request.streamId ∧ n.user_id = current_user.value ∧
      n.event_type = request.eventType ∧ n.payload = request.payload ∧
      n.metadata = request.metadata ∧ n.x_idempotency_key = x_idempotency_key.map (·.text) := by
  cases request with
  | event stream_id payload =>
      refine (eventJob_intake payload hr).validate
        (matchIngressRoute_natStr .v1 .streams stream_id.range.1) rfl (by simp) ?_
        (eventJob_event payload)
      simp [eventJob, schemaVersion]
  | genericEvent stream_id payload =>
      refine (genericEventJob_intake payload hr).validate
        (matchIngressRoute_natStr .v2 .streams stream_id.range.1) rfl ?_ ?_
        (genericEventJob_event payload)
      · simp [genericEventJob, genericAcceptedResponse, Dict.has]
      · simp [genericEventJob, genericAcceptedResponse, schemaVersion]
  | orderEvent order_id payload =>
      refine (orderEventJob_intake payload hr).validate
        (matchIngressRoute_natStr .v1 .orders order_id.range.1) rfl (by simp) ?_
        (orderEventJob_event payload)
      simp [orderEventJob, schemaVersion]

theorem wireValue_header (header : Option IdempotencyHeader) : WireValue (headerJson header) := by
  cases header with
  | none => exact .null
  | some header => exact .text ⟨header.pattern, header.scalar⟩

theorem wireValue_id (id : PostgresId) : WireValue (.int id.value) :=
  .int (intFits_of_le id.range.2)

theorem wireValue_payment (payment : Option (UnicodeScalarText 0 80)) :
    WireValue (paymentJson payment) := by
  cases payment with
  | none => exact .null
  | some payment => exact .text payment.clean

theorem unique_text (s : PyStr) : Json.Unique (.obj [("text", .str s)]) := by
  simp [Json.Unique, Json.UniquePairs]

theorem unique_orderMetadata (payload : OrderEventCreate) :
    Json.Unique (.obj (orderMetadata payload)) := by
  have hreferences : Json.Unique (.obj (externalReferences payload.payment_id)) := by
    cases payload.payment_id with
    | none => simp [externalReferences, Json.Unique, Json.UniquePairs]
    | some payment =>
        simp only [externalReferences]
        split_ifs <;> simp [Json.Unique, Json.UniquePairs]
  exact ⟨by simp [orderMetadata], trivial, trivial, hreferences, trivial⟩

/-- The job of every request crosses the wire: its keys are distinct, and each of its values is
one that the wire carries, the objects because they were checked at the intake. -/
theorem IntakeRequest.wire (request : IntakeRequest) (hr : r.Clean) :
    Wire (.obj (request.job x_idempotency_key current_user r now.nowIso)) ∧
      Json.Unique (.obj (request.job x_idempotency_key current_user r now.nowIso)) := by
  have hone : WireValue (.int 1) := .int (by decide)
  have hzero : WireValue (.int 0) := .int (by decide)
  have htwo : WireValue (.int 2) := .int (by decide)
  have haccepted : WireValue (.str "accepted") := .text (by decide)
  have hqueued : WireValue (.str "queued") := .text (by decide)
  have hnow : WireValue (.str now.nowIso) := .text now.nowIso_clean
  have huser := wireValue_id current_user
  have hheader := wireValue_header x_idempotency_key
  -- for each endpoint: the keys of its job, and that every value can go over the wire
  cases request with
  | event stream_id payload =>
      have hkeys : (eventJob stream_id payload x_idempotency_key current_user r now.nowIso).keys =
        ["request_id", "route", "room_id", "user_id", "body", "room_seq", "x_idempotency_key",
          "queued_at", "retry_count", "next_retry_at"] := rfl
      refine wire_obj ?_ ?_ ?_
      · rw [IntakeRequest.job, hkeys]
        decide
      · rw [IntakeRequest.job, hkeys]
        decide
      · have hroute : WireValue (.str (eventRoute "POST:/v1/streams/" stream_id.value)) :=
          .text (eventRoute_clean (by decide) _)
        simp only [IntakeRequest.job, eventJob, List.forall_mem_cons]
        exact ⟨.text hr, hroute, wireValue_id stream_id, huser, .text payload.body.clean, .null,
          hheader, hnow, hzero, .null, by simp⟩
  | genericEvent stream_id payload =>
      have hkeys :
        (genericEventJob stream_id payload x_idempotency_key current_user r now.nowIso).keys =
        ["request_id", "status", "persistence", "stream_id", "actor_id", "event_type",
          "schema_version", "payload", "metadata", "queued_at", "route", "room_id", "user_id",
          "body", "room_seq", "x_idempotency_key", "retry_count", "next_retry_at"] := rfl
      obtain ⟨hp, hm⟩ := GenericEventCreate.objects_ok payload
      refine wire_obj ?_ ?_ ?_
      · rw [IntakeRequest.job, hkeys]
        decide
      · rw [IntakeRequest.job, hkeys]
        decide
      · have hroute : WireValue (.str (eventRoute "POST:/v2/streams/" stream_id.value)) :=
          .text (eventRoute_clean (by decide) _)
        simp only [IntakeRequest.job, genericEventJob, genericAcceptedResponse, List.cons_append,
          List.nil_append, List.forall_mem_cons]
        exact ⟨.text hr, haccepted, hqueued, wireValue_id stream_id, huser,
          .text (isGenericEventType_clean payload.event_type_pattern), htwo,
          hp.wireValue payload.payload_dict, hm.wireValue payload.metadata_dict, hnow,
          hroute, wireValue_id stream_id, huser, .text (legacyBodyPreview_clean hp.sound), .null,
          hheader, hzero, .null, by simp⟩
  | orderEvent order_id payload =>
      have hkeys :
        (orderEventJob order_id payload x_idempotency_key current_user r now.nowIso).keys =
        ["request_id", "route", "room_id", "user_id", "body", "room_seq", "x_idempotency_key",
          "queued_at", "retry_count", "next_retry_at", "schema_version", "event_type", "payload",
          "metadata", "category", "payment_id"] := rfl
      obtain ⟨hcategory, -⟩ := classifyOrderEvent_short payload.event_type.text
      refine wire_obj ?_ ?_ ?_
      · rw [IntakeRequest.job, hkeys]
        decide
      · rw [IntakeRequest.job, hkeys]
        decide
      · have hroute : WireValue (.str (eventRoute "POST:/v1/orders/" order_id.value)) :=
          .text (eventRoute_clean (by decide) _)
        simp only [IntakeRequest.job, orderEventJob, List.forall_mem_cons]
        exact ⟨.text hr, hroute, wireValue_id order_id, huser, .text payload.body.clean, .null,
          hheader, hnow, hzero, .null, hone, .text payload.event_type.clean,
          (objectOk_text payload.body).wireValue (unique_text _),
          (objectOk_orderMetadata payload).wireValue (unique_orderMetadata payload),
          .text hcategory, wireValue_payment payload.payment_id, by simp⟩

/-- Queueing a job that serializes is one send, under the text of its stream id. -/
theorem queueJob_eq {job : Dict} {room : Nat} {value : Option Bytes}
    (hroom : job.get? "room_id" = some (.int room)) (hvalue : serializeJson (.obj job) = .ok value) :
    ∃ key, utf8Decode key = some (natStr room) ∧
      queueJob job = .op (.send key value) fun answer =>
        match answer with
        | .ok () => .ret ()
        | .error _ => .throw (.httpException 503 "Kafka unavailable") := by
  obtain ⟨key, hkey⟩ := utf8Encode_plain (natStr_plain room)
  have hdecode : utf8Decode key = some (natStr room) := by
    have := utf8Decode_utf8Encode (natStr_plain room).ascii
    rwa [hkey] at this
  have hint : utf8Encode (intStr (room : Int)) = some key := hkey
  refine ⟨key, hdecode, ?_⟩
  simp only [queueJob, storeRequestAndQueueJob, hroom, publishIngressJob, hint, require, hvalue,
    Prog.ofExcept_ok, Prog.ret_bind, Prog.call_bind, Prog.attempt, Prog.op_bind]
  congr 1
  funext answer
  rcases answer with e | u <;> rfl

theorem IntakeRequest.get?_room_id (request : IntakeRequest) (time : PyStr) :
    (request.job x_idempotency_key current_user r time).get? "room_id" =
      some (.int request.streamId) := by
  cases request <;>
    simp [IntakeRequest.job, IntakeRequest.streamId, eventJob, genericEventJob,
      genericAcceptedResponse, orderEventJob]

/-- An endpoint that is switched on takes an id and the time, and queues its job. -/
theorem IntakeRequest.sent_handle (request : IntakeRequest) {flag : Bool}
    (henabled : request.enabled flag = true) (answer : (o : IntakeOp) → o.Res) :
    sent answer (request.handle flag x_idempotency_key current_user) =
      sent answer (queueJob (request.job x_idempotency_key current_user
        (uuidText (answer .uuid4)) (Clock.nowIso (answer .utcNow)))) := by
  have hqueue : ∀ (job response : Dict),
      sent answer (queueJob job >>= fun _ => (.ret response : Intake ApiExc Dict)) =
        sent answer (queueJob job) := by
    intro job response
    simp only [sent, Prog.trace_bind]
    rcases Prog.trace answer (queueJob job) with ⟨os, e | u⟩ <;> simp [Prog.trace]
  cases request with
  | event stream_id payload =>
      simp only [IntakeRequest.handle, createEvent, Intake.newRequestId, Intake.nowIso,
        Prog.call_bind, Prog.op_bind, Prog.pure_eq, Prog.ret_bind, sent, Prog.trace,
        List.filterMap_cons, sentIn]
      exact hqueue _ _
  | genericEvent stream_id payload =>
      have hflag : flag ≠ false := by simpa [IntakeRequest.enabled] using henabled
      rw [IntakeRequest.handle, createGenericEvent, if_neg hflag]
      simp only [Intake.newRequestId, Intake.nowIso, Prog.call_bind, Prog.op_bind, Prog.pure_eq,
        Prog.ret_bind, sent, Prog.trace, List.filterMap_cons, sentIn]
      exact hqueue _ _
  | orderEvent order_id payload =>
      simp only [IntakeRequest.handle, createOrderEvent, Intake.newRequestId, Intake.nowIso,
        Prog.call_bind, Prog.op_bind, Prog.pure_eq, Prog.ret_bind, sent, Prog.trace,
        List.filterMap_cons, sentIn]
      exact hqueue _ _

/-- **The API-to-worker contract.** A request of an endpoint that is switched on puts one
record on the ingress topic, and the worker reads that record as the event that was
asked for; an endpoint that is switched off sends nothing and answers with an error.

The job is built from values of the runtime that are clean, so it can go over the wire and comes
back as itself (`deserializeJson_serializeJson`); what is left is that the validation of the
worker accepts that object, which `IntakeRequest.accepted` shows endpoint by endpoint. -/
theorem intake_contract (rt : Runtime) (generic_events_v2_enabled : Bool)
    (x_idempotency_key : Option IdempotencyHeader) (current_user : PostgresId)
    (request : IntakeRequest) (answer : (o : IntakeOp) → o.Res) :
    (request.enabled generic_events_v2_enabled = true ∧ ∃ key value,
      sent answer (request.handle generic_events_v2_enabled x_idempotency_key current_user) =
        [(key, value)] ∧
      ReadByWorker rt request x_idempotency_key current_user (uuidText (answer .uuid4))
        (Clock.nowIso (answer .utcNow)) key value) ∨
    (request.enabled generic_events_v2_enabled = false ∧
      Prog.trace answer
          (request.handle generic_events_v2_enabled x_idempotency_key current_user) =
        ([], .error (.httpException 503 "Generic event v2 intake is not enabled"))) := by
  cases henabled : request.enabled generic_events_v2_enabled with
  | true =>
      have hclean := uuidText_clean (answer .uuid4)
      have hjob : Wire (.obj (request.job x_idempotency_key current_user
            (uuidText (answer .uuid4)) (Clock.nowIso (answer .utcNow)))) ∧
          Json.Unique (.obj (request.job x_idempotency_key current_user
            (uuidText (answer .uuid4)) (Clock.nowIso (answer .utcNow)))) :=
        request.wire hclean
      obtain ⟨hwire, hunique⟩ := hjob
      obtain ⟨value, hvalue⟩ := serializeJson_ok.mpr hwire
      obtain ⟨key, hkey, hqueue⟩ := queueJob_eq (request.get?_room_id _) hvalue
      refine Or.inl ⟨rfl, key, value, ?_, hvalue, ?_, hkey, ?_⟩
      · rw [request.sent_handle henabled, hqueue]
        simp only [sent, Prog.trace]
        -- the record is sent, whether or not Kafka acknowledges it
        generalize answer (.send key value) = delivered
        rcases delivered with e | u <;> rfl
      · exact deserializeJson_serializeJson rt hwire hunique hvalue
      · exact request.accepted (uuidText_ok _)
  | false =>
      cases request with
      | event stream_id payload => simp [IntakeRequest.enabled] at henabled
      | genericEvent stream_id payload =>
          have hflag : generic_events_v2_enabled = false := henabled
          refine Or.inr ⟨rfl, ?_⟩
          rw [hflag]
          rfl
      | orderEvent order_id payload => simp [IntakeRequest.enabled] at henabled

end Contract

end EventPipeline.Guarantees
