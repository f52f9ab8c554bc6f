import EventPipeline.Portfolio.DlqReplay
import EventPipeline.Worker.Persist

/-!
# EventPipeline.Portfolio.Intake

The intake endpoints of `portfolio/api.py`: from an accepted request body to a record on
the ingress topic.

The request schemas of `portfolio/schemas.py` are structures that carry their own
constraints, so a value of one is a body the schema has accepted.
-/

namespace EventPipeline.Portfolio

open EventPipeline.Python EventPipeline.Concurrency
open EventPipeline.Worker (jsonSize legacyBodyPreview classifyOrderEvent)

/-! ### Schemas

A request that has reached the endpoint has passed its schema. The types carry that: a text with
the bounds of its field, an id of the database, a header of the pattern. -/

/-- `UnicodeScalarText` with `min_length` and `max_length`. -/
structure UnicodeScalarText (minLength maxLength : Nat) where
  text : PyStr
  scalar : validateJsonStructure (.str text) = .ok ()
  length : minLength ≤ text.length ∧ text.length ≤ maxLength

theorem UnicodeScalarText.clean {a b : Nat} (t : UnicodeScalarText a b) : t.text.Clean :=
  (validateJsonStructure_ok.mp t.scalar).1

/-- `EventCreate`. -/
structure EventCreate where
  body : UnicodeScalarText 1 1000

/-- `GenericEventCreate`; its two objects are Python dicts. -/
structure GenericEventCreate where
  event_type : PyStr
  event_type_length : 1 ≤ event_type.length ∧ event_type.length ≤ 50
  event_type_pattern : isGenericEventType event_type = true
  payload : Dict
  payload_dict : Json.Unique (.obj payload)
  metadata : Dict
  metadata_dict : Json.Unique (.obj metadata)
  payload_structure : validateJsonStructure (.obj payload) = .ok ()
  metadata_structure : validateJsonStructure (.obj metadata) = .ok ()
  payload_bytes : ∃ n, jsonSize (.obj payload) = some n ∧ n ≤ 65536
  metadata_bytes : ∃ n, jsonSize (.obj metadata) = some n ∧ n ≤ 16384

/-- `OrderEventCreate`. -/
structure OrderEventCreate where
  event_type : UnicodeScalarText 1 50
  body : UnicodeScalarText 1 1000
  payment_id : Option (UnicodeScalarText 0 80)

/-- An id of the path or of the authenticated user, `1` to the largest `bigint`. -/
structure PostgresId where
  value : Nat
  range : 0 < value ∧ value ≤ maxPostgresBigint

/-- An `X-Idempotency-Key` header that passed `min_length=1`, `max_length=128` and the
pattern `^[^\x00]+$`; a text with surrogates is no string to the validator. -/
structure IdempotencyHeader where
  text : PyStr
  length : 1 ≤ text.length ∧ text.length ≤ 128
  pattern : text.hasNul = false
  scalar : text.hasSurrogate = false

/-! ### Publishing -/

/-- The effects of an intake request. -/
inductive IntakeOp
  | uuid4
  | utcNow
  /-- `producer.send(settings.kafka_ingress_topic, ...)` and its `future.get`. -/
  | send (key : Bytes) (value : Option Bytes)

/-- A UUID is its 128-bit number. -/
abbrev IntakeOp.Res : IntakeOp → Type
  | .uuid4 => Nat
  | .utcNow => Clock
  | .send _ _ => Except PyExc Unit

/-- An intake request that may raise `ε`. -/
abbrev Intake (ε α : Type) := Prog IntakeOp IntakeOp.Res ε α

/-- `str(UUID(int=value))`. -/
def uuidText (value : Nat) : PyStr :=
  let hex := (List.range 32).map fun i => Json.hexChar (value / 16 ^ (31 - i) % 16)
  hex.take 8 ++ PyStr.ofString "-" ++ (hex.drop 8).take 4 ++ PyStr.ofString "-"
    ++ (hex.drop 12).take 4 ++ PyStr.ofString "-" ++ (hex.drop 16).take 4 ++ PyStr.ofString "-"
    ++ hex.drop 20

theorem uuidText_clean (value : Nat) : (uuidText value).Clean := by
  have hhex : ∀ c ∈ (List.range 32).map fun i => Json.hexChar (value / 16 ^ (31 - i) % 16),
      c.Clean := by
    intro c hc
    obtain ⟨i, -, rfl⟩ := List.mem_map.mp hc
    have hdigit : value / 16 ^ (31 - i) % 16 < 16 := Nat.mod_lt _ (by norm_num)
    generalize value / 16 ^ (31 - i) % 16 = d at hdigit
    interval_cases d <;> decide
  have hclean := PyStr.clean_iff.mpr hhex
  have hdash : (PyStr.ofString "-").Clean := by decide
  have hpart : ∀ a b : Nat, PyStr.Clean ((((List.range 32).map fun i =>
      Json.hexChar (value / 16 ^ (31 - i) % 16)).drop a).take b) := fun a b =>
    hclean.sublist ((List.take_sublist b _).trans (List.drop_sublist a _))
  simp only [uuidText, PyStr.clean_append]
  exact ⟨⟨⟨⟨⟨⟨⟨⟨hclean.take 8, hdash⟩, hpart 8 4⟩, hdash⟩, hpart 12 4⟩, hdash⟩, hpart 16 4⟩,
    hdash⟩, hclean.sublist (List.drop_sublist 20 _)⟩

theorem uuidText_length (value : Nat) : (uuidText value).length = 36 := by
  have hdash : (PyStr.ofString "-").length = 1 := rfl
  simp [uuidText, hdash]

section Publishing

variable {ε : Type}

/-- `str(uuid4())`. -/
def Intake.newRequestId : Intake ε PyStr := do
  let value ← Prog.call IntakeOp.uuid4
  return uuidText value

/-- `datetime.now(timezone.utc).isoformat()`. -/
def Intake.nowIso : Intake ε PyStr := do
  let now ← Prog.call IntakeOp.utcNow
  return Clock.nowIso now

end Publishing

/-- `publish_ingress_job(key, payload)`: the producer's serializers, then the broker. -/
def publishIngressJob (key : Int) (payload : Dict) : Intake PyExc Unit := do
  let key ← Prog.ofExcept (require (utf8Encode (intStr key)) "surrogates not allowed")
  let value ← Prog.ofExcept (serializeJson (.obj payload))
  let sent ← Prog.call (IntakeOp.send key value)
  Prog.ofExcept sent

/-- `_store_request_and_queue_job(_request_id, _request_payload, job_payload)`. -/
def storeRequestAndQueueJob (job_payload : Dict) : Intake PyExc Unit :=
  match job_payload.get? "room_id" with
  | some (.int room_id) => publishIngressJob room_id job_payload
  | _ => .throw (ValueError "room_id")

/-- The `try` around it in every endpoint. -/
def queueJob (job_payload : Dict) : Intake ApiExc Unit := do
  let queued ← (storeRequestAndQueueJob job_payload).attempt
  match queued with
  | .ok () => return ()
  | .error _ => .throw (.httpException 503 "Kafka unavailable")

/-! ### Endpoints

Each endpoint builds a job out of the request, the user and the time, and hands it to the
producer. They differ in the route and in the event. -/

/-- `None` or the header's text. -/
def headerJson : Option IdempotencyHeader → Json
  | none => .null
  | some header => .str header.text

/-- `f"POST:/v1/streams/{stream_id}/events"` and its siblings. -/
def eventRoute (head : String) (stream_id : Nat) : PyStr :=
  PyStr.ofString head ++ natStr stream_id ++ PyStr.ofString "/events"

/-- The job of `create_event`. -/
def eventJob (stream_id : PostgresId) (payload : EventCreate)
    (x_idempotency_key : Option IdempotencyHeader) (current_user : PostgresId)
    (request_id queued_at : PyStr) : Dict :=
  [("request_id", .str request_id),
    ("route", .str (eventRoute "POST:/v1/streams/" stream_id.value)),
    ("room_id", .int stream_id.value), ("user_id", .int current_user.value),
    ("body", .str payload.body.text), ("room_seq", .null),
    ("x_idempotency_key", headerJson x_idempotency_key), ("queued_at", .str queued_at),
    ("retry_count", .int 0), ("next_retry_at", .null)]

/-- `create_event`: the intake of a message of a stream. The job is queued, and the answer only
says that it was. -/
def createEvent (stream_id : PostgresId) (payload : EventCreate)
    (x_idempotency_key : Option IdempotencyHeader) (current_user : PostgresId) :
    Intake ApiExc Dict := do
  let request_id ← Intake.newRequestId
  let queued_at ← Intake.nowIso
  queueJob (eventJob stream_id payload x_idempotency_key current_user request_id queued_at)
  return [("request_id", .str request_id), ("status", .str "accepted"),
    ("persistence", .str "queued"), ("stream_id", .int stream_id.value),
    ("user_id", .int current_user.value), ("body", .str payload.body.text),
    ("queued_at", .str queued_at)]

/-- `accepted_response` of `create_generic_event`. -/
def genericAcceptedResponse (stream_id : PostgresId) (payload : GenericEventCreate)
    (current_user : PostgresId) (request_id queued_at : PyStr) : Dict :=
  [("request_id", .str request_id), ("status", .str "accepted"),
    ("persistence", .str "queued"), ("stream_id", .int stream_id.value),
    ("actor_id", .int current_user.value), ("event_type", .str payload.event_type),
    ("schema_version", .int 2), ("payload", .obj payload.payload),
    ("metadata", .obj payload.metadata), ("queued_at", .str queued_at)]

/-- The job of `create_generic_event`: the response with the legacy aliases. -/
def genericEventJob (stream_id : PostgresId) (payload : GenericEventCreate)
    (x_idempotency_key : Option IdempotencyHeader) (current_user : PostgresId)
    (request_id queued_at : PyStr) : Dict :=
  genericAcceptedResponse stream_id payload current_user request_id queued_at ++
    ([("route", .str (eventRoute "POST:/v2/streams/" stream_id.value)),
      ("room_id", .int stream_id.value), ("user_id", .int current_user.value),
      ("body", .str (legacyBodyPreview payload.payload)), ("room_seq", .null),
      ("x_idempotency_key", headerJson x_idempotency_key), ("retry_count", .int 0),
      ("next_retry_at", .null)] : Dict)

/-- `create_generic_event`: the intake of a generic event, which is refused while it is switched
off. -/
def createGenericEvent (generic_events_v2_enabled : Bool) (stream_id : PostgresId)
    (payload : GenericEventCreate) (x_idempotency_key : Option IdempotencyHeader)
    (current_user : PostgresId) : Intake ApiExc Dict :=
  if generic_events_v2_enabled = false then
    .throw (.httpException 503 "Generic event v2 intake is not enabled")
  else do
    let request_id ← Intake.newRequestId
    let queued_at ← Intake.nowIso
    queueJob (genericEventJob stream_id payload x_idempotency_key current_user request_id
      queued_at)
    return genericAcceptedResponse stream_id payload current_user request_id queued_at

/-- `None` or the payment's text. -/
def paymentJson : Option (UnicodeScalarText 0 80) → Json
  | none => .null
  | some payment => .str payment.text

/-- `{"payment": payload.payment_id} if payload.payment_id else {}`. -/
def externalReferences : Option (UnicodeScalarText 0 80) → Dict
  | none => []
  | some payment => if payment.text = [] then [] else [("payment", .str payment.text)]

/-- `metadata` of an order event. -/
def orderMetadata (payload : OrderEventCreate) : Dict :=
  [("reference_scenario", .str "order-lifecycle"),
    ("classification", .str (classifyOrderEvent payload.event_type.text)),
    ("external_references", .obj (externalReferences payload.payment_id))]

/-- The job of `create_order_event`. -/
def orderEventJob (order_id : PostgresId) (payload : OrderEventCreate)
    (x_idempotency_key : Option IdempotencyHeader) (current_user : PostgresId)
    (request_id queued_at : PyStr) : Dict :=
  [("request_id", .str request_id),
    ("route", .str (eventRoute "POST:/v1/orders/" order_id.value)),
    ("room_id", .int order_id.value), ("user_id", .int current_user.value),
    ("body", .str payload.body.text), ("room_seq", .null),
    ("x_idempotency_key", headerJson x_idempotency_key), ("queued_at", .str queued_at),
    ("retry_count", .int 0), ("next_retry_at", .null), ("schema_version", .int 1),
    ("event_type", .str payload.event_type.text),
    ("payload", .obj [("text", .str payload.body.text)]),
    ("metadata", .obj (orderMetadata payload)),
    ("category", .str (classifyOrderEvent payload.event_type.text)),
    ("payment_id", paymentJson payload.payment_id)]

/-- `create_order_event`: the intake of an event of an order, whose id is the id of the stream. -/
def createOrderEvent (order_id : PostgresId) (payload : OrderEventCreate)
    (x_idempotency_key : Option IdempotencyHeader) (current_user : PostgresId) :
    Intake ApiExc Dict := do
  let request_id ← Intake.newRequestId
  let queued_at ← Intake.nowIso
  queueJob (orderEventJob order_id payload x_idempotency_key current_user request_id queued_at)
  return [("request_id", .str request_id), ("status", .str "accepted"),
    ("persistence", .str "queued"), ("order_id", .int order_id.value),
    ("stream_id", .int order_id.value), ("user_id", .int current_user.value),
    ("event_type", .str payload.event_type.text),
    ("category", .str (classifyOrderEvent payload.event_type.text)),
    ("body", .str payload.body.text), ("payment_id", paymentJson payload.payment_id),
    ("queued_at", .str queued_at)]

end EventPipeline.Portfolio
