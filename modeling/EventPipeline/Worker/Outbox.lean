import EventPipeline.Worker.Persist

/-!
# EventPipeline.Worker.Outbox

The two consumers of the outbox: `relay_once` of `worker/outbox.py`, which
publishes one pending row a transaction, and the notification side of
`worker/main.py`, which normalises a record and stores at most one attempt for
each message.
-/

namespace EventPipeline.Worker

open EventPipeline.Python EventPipeline.Portfolio EventPipeline.Postgres
open EventPipeline.Concurrency

/-! ### The relay -/

/-- The seconds until a failed row is tried again. -/
def retryDelaySeconds (attempts : Nat) : Nat := min 60 (2 ^ min attempts 6)

/-- `relay_once()`: takes one pending row, publishes it and marks it, published or failed. It
answers whether there was one. -/
def relayOnce : Transaction Bool := do
  let row ← execute .selectPendingOutbox
  match row with
  | none => return false
  | some row =>
      let sent ← execute (.publishNotification row.room_id row.payload)
      match sent with
      | .error exc =>
          execute (.updateOutboxFailed row.message_id exc.name (retryDelaySeconds row.attempts))
          return true
      | .ok () =>
          execute (.updateOutboxPublished row.message_id)
          return true

/-! ### Notification records -/

/-- What `_normalize_notification_payload` returns. -/
structure NotificationPayload where
  event_id : Nat
  stream_id : Nat
  event_type : PyStr
  payload_preview : PyStr
  metadata : Dict
  body_preview : PyStr

/-- The dictionary that is stored. -/
def NotificationPayload.toDict (n : NotificationPayload) : Dict :=
  [("event_id", .int n.event_id), ("stream_id", .int n.stream_id),
    ("message_id", .int n.event_id), ("room_id", .int n.stream_id),
    ("event_type", .str n.event_type), ("payload_preview", .str n.payload_preview),
    ("metadata", .obj n.metadata), ("body_preview", .str n.body_preview)]

/-- `payload.get(canonical, payload.get(legacy))`. -/
def aliased (payload : Dict) (canonical legacy : PyStr) : Option Json :=
  (payload.get? canonical).or (payload.get? legacy)

/-- `_normalize_notification_payload(payload)` of an object. -/
def normalizeNotificationObject (payload : Dict) : Except PyExc NotificationPayload := do
  validateAliasPair payload "event_id" "message_id"
  validateAliasPair payload "stream_id" "room_id"
  let event_id ← require ((aliased payload "event_id" "message_id").bind positiveBigint)
    "Invalid notification event_id"
  let stream_id ← require ((aliased payload "stream_id" "room_id").bind positiveBigint)
    "Invalid notification stream_id"
  let event_type ← require
    (boundedText 50 ((payload.get? "event_type").getD (.str "legacy.message")))
    "Invalid notification event_type"
  let body_preview ← require (shortText 30 ((payload.get? "body_preview").getD (.str [])))
    "Invalid notification body_preview"
  let payload_preview ← require
    (shortText 120 ((payload.get? "payload_preview").getD (.str body_preview)))
    "Invalid notification payload_preview"
  let metadata ← require (asObject ((payload.get? "metadata").getD (.obj [])))
    "Invalid notification metadata"
  validateJsonStructure (.obj metadata)
  let metadata_size ← require (jsonSize (.obj metadata)) "Invalid notification metadata"
  check (metadata_size ≤ maxMetadataBytes)
    "Notification metadata exceeds 16384 UTF-8 JSON bytes"
  return ⟨event_id, stream_id, event_type, payload_preview, metadata, body_preview⟩

/-- `_normalize_notification_payload(payload)`: a payload with its fields under either name, and
every one of them checked. -/
def normalizeNotificationPayload (payload : Json) : Except PyExc NotificationPayload :=
  match payload with
  | .obj d =>
      if isInvalidKafkaPayload payload then
        .error (ValueError "Notification payload must be a valid JSON object")
      else normalizeNotificationObject d
  | _ => .error (ValueError "Notification payload must be a valid JSON object")

/-- `raw if isinstance(raw, dict) else json.loads(raw)`, then the normalisation;
`none` where the record is rejected. -/
def notificationRecord (rt : Runtime) (raw : KafkaValue) : Option NotificationPayload :=
  match raw with
  | .invalid marker => (normalizeNotificationPayload (.obj marker)).toOption
  | .json (.str text) =>
      match loads ⟨rt.recursionLimit, true⟩ text with
      | .ok v => (normalizeNotificationPayload v).toOption
      | .error _ => none
  | .json v => (normalizeNotificationPayload v).toOption

/-- `insert_notification_attempt(cur, payload)`. -/
def insertNotificationAttempt (payload : NotificationPayload) : Transaction Unit := do
  let target_exists ← execute
    (.insertNotificationAttempt payload.event_id payload.stream_id payload.toDict)
  if target_exists then return ()
  else .throw .notificationTargetMissing

/-- The row a batch sends for a payload. -/
def NotificationPayload.row (payload : NotificationPayload) : AttemptRow :=
  ⟨payload.event_id, payload.stream_id, payload.toDict⟩

/-- `insert_notification_attempt_batch(cur, payloads)`. -/
def insertNotificationAttemptBatch (payloads : List NotificationPayload) :
    Transaction (List (Nat × Nat)) :=
  if payloads.isEmpty then return []
  else execute (.insertNotificationAttemptBatch (payloads.map (·.row)))

/-- The transaction of `handle_notification_job(raw)`; a rejected record opens none. -/
def handleNotificationJob (rt : Runtime) (raw : KafkaValue) : Transaction Unit :=
  match notificationRecord rt raw with
  | some payload => insertNotificationAttempt payload
  | none => return ()

/-- The transaction of `_process_notification_batch`: the records that normalise, in
one statement. -/
def processNotificationBatch (rt : Runtime) (raws : List KafkaValue) : Transaction Unit := do
  let _ ← insertNotificationAttemptBatch (raws.filterMap (notificationRecord rt))
  return ()

end EventPipeline.Worker
