import EventPipeline.Portfolio.StateStore
import EventPipeline.Worker.Ingress

/-!
# EventPipeline.Worker.Persist

`persist_ingress_job` of `worker/main.py`: the transaction that turns a validated
job into a message, an idempotency row, a request status and an outbox row.

The response travels as the dictionary the source builds, since a stored response
is read back by the same code: `_message_row_response` writes it,
`_validated_idempotency_response`, `persisted_status_payload` and
`notification_attempt_payload` read it.
-/

namespace EventPipeline.Worker

open EventPipeline.Python EventPipeline.Portfolio EventPipeline.Postgres
open EventPipeline.Concurrency

/-! ### Order classification -/

/-- `ORDER_EVENT_CATEGORY_MAP`. -/
def orderEventCategoryMap : List (PyStr × PyStr) :=
  [("payment_completed", "payment"), ("payment_failed", "payment"), ("order_created", "order"),
    ("order_cancelled", "order"), ("delivery_started", "delivery"),
    ("delivery_delayed", "delivery"), ("refund_requested", "refund"),
    ("refund_completed", "refund"), ("support_requested", "support")]

/-- `classify_order_event(event_type)`: the category of a type, `needs_review` for one that is not
in the map. -/
def classifyOrderEvent (event_type : PyStr) : PyStr :=
  (orderEventCategoryMap.lookup event_type).getD "needs_review"

/-- `_compatibility_text(value, max_length=...)`. -/
def compatibilityText (maxLength : Nat) : Json → Option PyStr
  | .str s => if s ≠ [] ∧ s.length ≤ maxLength then some s else none
  | _ => none

/-- `route.startswith("POST:/v1/orders/")`. -/
def IngressJob.isOrder (job : IngressJob) : Bool := job.route.startsWith "POST:/v1/orders/"

/-- `event_metadata` as it is stored: an order event carries its classification. -/
def storedMetadata (job : IngressJob) (event_type : PyStr) (metadata : Dict) : Dict :=
  if job.isOrder then metadata.set "classification" (.str (classifyOrderEvent event_type))
  else metadata

/-- `category` as it is stored. -/
def storedCategory (job : IngressJob) (event_type : PyStr) : Option PyStr :=
  if job.isOrder then some (classifyOrderEvent event_type) else none

/-- `external_references.get("payment")` of the metadata, where it is usable. -/
def externalPayment (metadata : Dict) : Option PyStr :=
  match metadata.get? "external_references" with
  | some (.obj references) => (Dict.get? references "payment").bind (compatibilityText 80)
  | _ => none

/-- `payment_id` as it is stored. -/
def storedPaymentId (job : IngressJob) (metadata : Dict) : Option PyStr :=
  if job.isOrder then
    ((job.payment_id.map Json.str).bind (compatibilityText 80)).or (externalPayment metadata)
  else none

/-! ### Responses -/

/-- `response[key]`, of a key every response has. -/
def responseField (response : Dict) (key : PyStr) : Json := (response.get? key).getD .null

/-- `value or default`, of a string. -/
def textOr (value default : PyStr) : PyStr := if value = [] then default else value

/-- `int(value or 1)`, of an integer or an absent value. -/
def versionOr1 : Option Json → Json
  | some (.int z) => if z = 0 then .int 1 else .int z
  | _ => .int 1

/-- `_message_row_response(row)`: the row as the API answers it, under the old names and the new.
-/
def messageRowResponse (row : MessageRow) : Dict :=
  [("id", .int row.id), ("request_id", .str row.request_id), ("status", .str "persisted"),
    ("room_id", .int row.room_id), ("room_seq", .int row.room_seq), ("user_id", .int row.user_id),
    ("actor_id", .int row.user_id), ("body", .str row.body),
    ("event_type", .str (textOr row.event_type "legacy.message")),
    ("category", optText row.category), ("payment_id", optText row.payment_id),
    ("schema_version", versionOr1 (some (.int row.schema_version))),
    ("payload", .obj row.payload), ("metadata", .obj row.metadata),
    ("created_at", .str row.created_at)]

/-- The checks of `_validated_idempotency_response` on the fields of a stored
response. -/
def idempotencyResponseOk (response : Dict) (expected_user_id expected_room_id : Nat) : Bool :=
  (["id", "room_id", "room_seq", "user_id"] : List PyStr).all
      (fun key => ((response.get? key).bind positiveBigint).isSome)
  && (response.get? "user_id").bind positiveBigint == some expected_user_id
  && (response.get? "room_id").bind positiveBigint == some expected_room_id
  && (match response.get? "actor_id" with
      | none | some .null => true
      | some v => positiveBigint v == some expected_user_id)
  && ((response.get? "request_id").bind (boundedText 80)).isSome
  && (match response.get? "body" with
      | some (.str body) => body.length ≤ 1000
      | _ => false)
  && (match response.get? "created_at" with
      | some (.str created_at) => created_at ≠ []
      | _ => false)
  && (schemaVersion ((response.get? "schema_version").getD (.int 1))).isSome
  && (eventEnvelope response).isOk

/-- `_validated_idempotency_response(cached_row, ...)`; `cached` is the
`response_json` of the row. -/
def validatedIdempotencyResponse (cached : Option Json)
    (expected_user_id expected_room_id : Nat) : Option Dict :=
  match cached with
  | some (.obj response) =>
      if idempotencyResponseOk response expected_user_id expected_room_id then some response
      else none
  | _ => none

/-- `response.get("_idempotency_hit")`, as a condition. -/
def isIdempotencyHit (response : Dict) : Bool :=
  match response.get? "_idempotency_hit" with
  | some (.bool hit) => hit
  | _ => false

/-! ### `_persist_message_with_cursor`

The sections of the function, each as a program of its own: the idempotency lookup, the request
lookup, the authorization, the counter, the insert. -/

/-- `idempotency_route`: the route with the actor, so that the keys of two users never meet. -/
def idempotencyRoute (route : PyStr) (user_id : Nat) : PyStr :=
  route ++ PyStr.ofString "|actor:" ++ natStr user_id

/-- The key of the idempotency row a job reads and writes. -/
def IngressJob.scopedKey (job : IngressJob) (key : PyStr) : IdempotencyKey :=
  (idempotencyRoute job.route job.user_id, key)

/-- `advisory_lock_key`: the compact JSON of the scoped key. -/
def advisoryLockKey (key : IdempotencyKey) : PyStr :=
  Json.render ⟨",", ":", true⟩ (.arr [.str key.1, .str key.2])

/-- `x_idempotency_key`, where it is not empty. -/
def IngressJob.idempotencyKey (job : IngressJob) : Option PyStr :=
  job.x_idempotency_key.filter fun key => key ≠ []

/-- The idempotency section: the stored response of the job's key, adopted from the
key without an actor where only that one exists. -/
def cachedResponse (job : IngressJob) (key : PyStr) : Transaction (Option Dict) := do
  execute (.advisoryXactLock (advisoryLockKey (job.scopedKey key)))
  let cached ← execute (.selectIdempotencyKey (job.scopedKey key).1 key)
  match validatedIdempotencyResponse cached job.user_id job.room_id with
  | some response => return some response
  | none =>
      let legacy_cached ← execute (.selectIdempotencyKey job.route key)
      match validatedIdempotencyResponse legacy_cached job.user_id job.room_id with
      | some response =>
          execute (.insertIdempotencyKey (job.scopedKey key).1 key (.obj response))
          return some response
      | none => return none

/-- The idempotency section, of a job with or without a key. -/
def idempotencyHit (job : IngressJob) : Transaction (Option Dict) :=
  match job.idempotencyKey with
  | some key => cachedResponse job key
  | none => return none

/-- The three authorization checks. -/
def authorizeEvent (job : IngressJob) : Transaction Unit := do
  let authorization ← execute (.selectAuthorization job.room_id job.user_id)
  if authorization.stream_exists = false then
    .throw (.ingressAuthorizationError "stream_not_found")
  else if authorization.actor_exists = false then
    .throw (.ingressAuthorizationError "actor_not_found")
  else if authorization.member_exists = false then
    .throw (.ingressAuthorizationError "membership_missing")
  else return ()

/-- The values of `INSERT INTO messages`. -/
def newMessage (job : IngressJob) (event_type : PyStr) (payload metadata : Dict)
    (room_seq : Nat) : NewMessage where
  request_id := job.request_id
  room_id := job.room_id
  user_id := job.user_id
  event_type := event_type
  category := storedCategory job event_type
  payment_id := storedPaymentId job (storedMetadata job event_type metadata)
  schema_version := job.schema_version
  payload := payload
  metadata := storedMetadata job event_type metadata
  body := legacyBodyPreview payload
  room_seq := room_seq

/-- `f"{head} room_id={room_id} room_seq={room_seq}"`. -/
def sequenceMessage (head : String) (room_id room_seq : Nat) : PyStr :=
  PyStr.ofString head ++ PyStr.ofString " room_id=" ++ natStr room_id
    ++ PyStr.ofString " room_seq=" ++ natStr room_seq

/-- An explicit `room_seq` below the one the counter gave: the job's own message, or
an error. -/
def ownDuplicate (job : IngressJob) (room_seq : Nat) : Transaction Dict := do
  let duplicate ← execute (.selectMessageBySeq job.room_id room_seq)
  match duplicate with
  | some duplicate =>
      if duplicate.request_id = job.request_id then return messageRowResponse duplicate
      else
        .throw (.valueError (sequenceMessage "Room sequence conflict" job.room_id room_seq))
  | none => .throw (.valueError (sequenceMessage "Room sequence is stale" job.room_id room_seq))

/-- Store the response under the job's key. -/
def rememberResponse (job : IngressJob) (response : Dict) : Transaction Unit :=
  match job.idempotencyKey with
  | some key => execute (.upsertIdempotencyKey (job.scopedKey key).1 key (.obj response))
  | none => return ()

/-- The message insert and the idempotency write after it. -/
def insertEvent (job : IngressJob) (message : NewMessage) : Transaction Dict := do
  let row ← execute (.insertMessage message)
  rememberResponse job (messageRowResponse row)
  return messageRowResponse row

/-- From the sequence counter to the response. -/
def sequenceEvent (job : IngressJob) (event_type : PyStr) (payload metadata : Dict) :
    Transaction Dict := do
  let expected_seq ← execute (.bumpRoomSequence job.room_id)
  let room_seq := job.room_seq.getD expected_seq
  if room_seq < expected_seq then ownDuplicate job room_seq
  else if expected_seq < room_seq then .throw (.roomSequenceGapError expected_seq room_seq)
  else insertEvent job (newMessage job event_type payload metadata room_seq)

/-- The request lookup and everything after it. -/
def persistRequest (job : IngressJob) (event_type : PyStr) (payload metadata : Dict) :
    Transaction Dict := do
  let existing ← execute (.selectMessageByRequestId job.request_id)
  match existing with
  | some existing =>
      if existing.room_id ≠ job.room_id ∨ existing.user_id ≠ job.user_id then
        .throw (.ingressAuthorizationError "request_identity_conflict")
      else return messageRowResponse existing
  | none =>
      authorizeEvent job
      sequenceEvent job event_type payload metadata

/-- `_persist_message_with_cursor(job_payload, cur)`. -/
def persistMessageWithCursor (job : IngressJob) : Transaction Dict := do
  let (event_type, payload, metadata) ← Prog.ofExcept (eventEnvelope job.toDict)
  let hit ← idempotencyHit job
  match hit with
  | some response => return response.set "_idempotency_hit" (.bool true)
  | none => persistRequest job event_type payload metadata

/-! ### `persist_ingress_job` -/

/-- `persisted_status_payload(request_id, response)`. -/
def persistedStatusPayload (request_id : PyStr) (response : Dict) : Except PyExc Dict := do
  let (event_type, payload, metadata) ← eventEnvelope response
  let body := match response.get? "body" with
    | some (.str body) => textOr body (legacyBodyPreview payload)
    | _ => legacyBodyPreview payload
  let head : Dict :=
    [("request_id", .str request_id), ("status", .str "persisted"),
      ("message_id", responseField response "id"), ("room_id", responseField response "room_id"),
      ("room_seq", responseField response "room_seq"),
      ("user_id", responseField response "user_id"),
      ("actor_id", responseField response "user_id"), ("body", .str body),
      ("created_at", responseField response "created_at")]
  let persisted_at : Dict := match response.get? "persisted_at" with
    | none | some .null => []
    | some v => [("persisted_at", v)]
  let event : Dict :=
    [("event_type", .str event_type), ("category", responseField response "category"),
      ("payment_id", responseField response "payment_id"),
      ("schema_version", versionOr1 (response.get? "schema_version")),
      ("payload", .obj payload), ("metadata", .obj metadata)]
  return head ++ persisted_at ++ event

/-- `notification_attempt_payload(message_response)`: what the outbox holds for a message, with
two previews of its body. -/
def notificationAttemptPayload (message_response : Dict) : Except PyExc Dict := do
  let (event_type, payload, metadata) ← eventEnvelope message_response
  return [("event_id", responseField message_response "id"),
    ("stream_id", responseField message_response "room_id"),
    ("message_id", responseField message_response "id"),
    ("room_id", responseField message_response "room_id"), ("event_type", .str event_type),
    ("payload_preview", .str ((legacyBodyPreview payload).take 120)),
    ("metadata", .obj metadata), ("body_preview", .str ((legacyBodyPreview payload).take 30))]

/-- An integer entry of a notification payload. -/
def intEntry (payload : Dict) (key : PyStr) : Nat :=
  match payload.get? key with
  | some (.int z) => z.toNat
  | _ => 0

/-- `enqueue_notification(cur, payload)`. -/
def enqueueNotification (payload : Dict) : Transaction Unit :=
  execute (.insertOutbox (intEntry payload "event_id") (intEntry payload "stream_id") payload)

/-- The status row and, for a message of this transaction, the outbox row. -/
def recordPersisted (job : IngressJob) (response : Dict) : Transaction Dict := do
  let persisted_at ← execute .nowIso
  let response := response.set "persisted_at" (.str persisted_at)
  let status_payload ← Prog.ofExcept (persistedStatusPayload job.request_id response)
  let _ ← upsertRequestStatus job.request_id status_payload
  if isIdempotencyHit response then return response
  else
    let payload ← Prog.ofExcept (notificationAttemptPayload response)
    enqueueNotification payload
    return response

/-- `persist_ingress_job(job_payload)` up to its commit. -/
def persistIngressJob (job : IngressJob) : Transaction Dict := do
  let response ← persistMessageWithCursor job
  recordPersisted job response

/-- What `persist_ingress_job` returns once the commit has gone through at
`persisted_at`. -/
def committedResponse (persisted_at : PyStr) (response : Dict) : Dict :=
  (response.set "persisted_at" (.str persisted_at)).filter fun p => p.1 ≠ "_idempotency_hit"

end EventPipeline.Worker
