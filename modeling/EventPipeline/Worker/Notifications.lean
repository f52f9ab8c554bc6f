import EventPipeline.Concurrency.Runs
import EventPipeline.Worker.Batch
import EventPipeline.Worker.Outbox

/-!
# EventPipeline.Worker.Notifications

The two ways `worker/main.py` has to process a poll of notification records: one record
after the other, and all of them in one statement.

A transaction is one operation here (`NotificationOp`); what it does inside is
`insertNotificationAttempt` and `insertNotificationAttemptBatch` of `Worker.Outbox`. The
result a record is counted under in `worker_processed_total` is returned with the record.
-/

namespace EventPipeline.Worker.Notifications

open EventPipeline.Python EventPipeline.Portfolio EventPipeline.Postgres
open EventPipeline.Concurrency

/-! ### What the worker asks for -/

/-- The effects of the notification worker. -/
inductive NotificationOp
  /-- One try of `store_attempt`: the insert and its commit. -/
  | insertAttempt (payload : NotificationPayload)
  /-- One try of `store_attempt_batch`. -/
  | insertAttemptBatch (payloads : List NotificationPayload)
  /-- `reconnect_pool()` and `time.sleep(1)`. -/
  | reconnect
  | commit (partition : TopicPartition) (offset : Nat)
  | seek (partition : TopicPartition) (offset : Nat)

/-- What comes back. -/
abbrev NotificationOp.Res : NotificationOp → Type
  | .insertAttempt _ => Except PyExc Unit
  | .insertAttemptBatch _ => Except PyExc (List (Nat × Nat))
  | .reconnect => Unit
  | .commit _ _ => Except PyExc Unit
  | .seek _ _ => Except PyExc Unit

/-- A program of the notification worker. -/
abbrev Notifying (α : Type) := Prog NotificationOp NotificationOp.Res PyExc α

/-- The consumer of the notification topic. -/
def notificationConsumer : Consumer NotificationOp NotificationOp.Res where
  commit partition offset := do
    let committed ← Prog.call (NotificationOp.commit partition offset)
    .ofExcept committed
  seek partition offset := do
    let sought ← Prog.call (NotificationOp.seek partition offset)
    .ofExcept sought

/-- A record of the notification topic. -/
abbrev NotificationRecord := ConsumerRecord KafkaValue

/-! ### One record -/

/-- What a record is counted under. -/
inductive NotificationResult
  | success | rejected
  deriving DecidableEq

/-- `isinstance(exc, DataError)`. -/
def isDataError : PyExc → Bool
  | .dataError _ => true
  | _ => false

/-- `store_attempt(payload)`: one insert, and one more after a reconnection where the first failed
for another reason than its data or its target. -/
def storeAttempt (payload : NotificationPayload) : Notifying Unit := do
  let first ← Prog.call (NotificationOp.insertAttempt payload)
  match first with
  | .ok () => return ()
  | .error e =>
      if isDataError e ∨ e = .notificationTargetMissing then .throw e
      else do
        Prog.call NotificationOp.reconnect
        let second ← Prog.call (NotificationOp.insertAttempt payload)
        .ofExcept second

/-- `handle_notification_job(raw)`: stores one attempt. A record that is invalid, or that the
database refuses for good, is rejected; any other error is raised. -/
def handleNotificationJob (rt : Runtime) (raw : KafkaValue) : Notifying NotificationResult :=
  match notificationRecord rt raw with
  | none => return .rejected
  | some payload => do
      let stored ← ((storeAttempt payload).attempt : Notifying (Except PyExc Unit))
      match stored with
      | .ok () => return .success
      | .error e =>
          if isDataError e ∨ e = .notificationTargetMissing then return .rejected else .throw e

/-- The records of a batch with what they were counted under. -/
abbrev Counted := List (NotificationRecord × NotificationResult)

/-- `_process_worker_batch(consumer, records, handle_notification_job, "notification")`, with
what each record is counted under. -/
def countedWorkerBatch (rt : Runtime) (records : Polled KafkaValue) : Notifying Counted :=
  processRecords notificationConsumer
    (fun message => handleNotificationJob rt message.value >>= fun result =>
      return (message, result))
    (fun total counted => total ++ [counted]) [] [] records.messages

/-- The batch loop of the source, with its results collected. -/
theorem processWorkerBatch_counted (rt : Runtime) (records : Polled KafkaValue) :
    processWorkerBatch notificationConsumer (fun message => handleNotificationJob rt message.value)
      records = countedWorkerBatch rt records >>= fun _ => .ret () :=
  processRecords_counted _ _ [] [] records.messages

/-! ### The batch -/

/-- `store_attempt_batch(payloads)`: a whole batch in one statement, with a second try of the same
kind. It returns the targets that the statement found. -/
def storeAttemptBatch (payloads : List NotificationPayload) : Notifying (List (Nat × Nat)) :=
  if payloads.isEmpty then return []
  else do
    let first ← Prog.call (NotificationOp.insertAttemptBatch payloads)
    match first with
    | .ok targets => return targets
    | .error e =>
        if isDataError e then .throw e
        else do
          Prog.call NotificationOp.reconnect
          let second ← Prog.call (NotificationOp.insertAttemptBatch payloads)
          .ofExcept second

/-- The result of a record whose batch was stored. -/
def batchResult (persisted_targets : List (Nat × Nat)) : Option NotificationPayload →
    NotificationResult
  | none => .rejected
  | some payload =>
      if (payload.event_id, payload.stream_id) ∈ persisted_targets then .success else .rejected

/-- The commits after a batch was stored. -/
def commitBatch (persisted_targets : List (Nat × Nat)) (failed_partitions : List TopicPartition)
    (total : Counted) : List (NotificationRecord × Option NotificationPayload) → Notifying Counted
  | [] => return total
  | (message, payload) :: rest =>
      if message.topicPartition ∈ failed_partitions then
        commitBatch persisted_targets failed_partitions total rest
      else do
        let committed ← ((commitProcessedRecord notificationConsumer message).attempt :
          Notifying (Except PyExc Unit))
        match committed with
        | .ok () =>
            commitBatch persisted_targets failed_partitions
              (total ++ [(message, batchResult persisted_targets payload)]) rest
        | .error _ => do
            seekFailedRecord notificationConsumer message
            commitBatch persisted_targets (message.topicPartition :: failed_partitions) total rest

/-- The rewind of every partition to its first record. -/
def rewindBatch : Polled KafkaValue → Notifying Unit
  | [] => return ()
  | (_, []) :: rest => rewindBatch rest
  | (_, first :: _) :: rest => do
      seekFailedRecord notificationConsumer first
      rewindBatch rest

/-- `_process_notification_batch(consumer, records)`, with what each record is counted
under. -/
def processNotificationBatch (rt : Runtime) (records : Polled KafkaValue) : Notifying Counted :=
  let messages := records.messages
  if messages.isEmpty then return []
  else do
    let normalized := messages.map fun message => (message, notificationRecord rt message.value)
    let stored ← ((storeAttemptBatch (normalized.filterMap (·.2))).attempt :
      Notifying (Except PyExc (List (Nat × Nat))))
    match stored with
    | .ok persisted_targets => commitBatch persisted_targets [] [] normalized
    | .error e =>
        if isDataError e then countedWorkerBatch rt records
        else do
          rewindBatch records
          return []

/-! ### The database and the broker -/

/-- The rows and the offsets the worker leaves behind. -/
structure NotificationWorld where
  tables : Tables
  ext : Ext
  committed : List (TopicPartition × Nat)

/-- A transaction that runs alone, and is committed where it raises nothing. -/
def transact {α : Type} (hash : PyStr → Int) (now : Nat) (choice : Choice)
    (transaction : Transaction α) (w : NotificationWorld) : Except PyExc α × NotificationWorld :=
  match (engine hash).atomically now choice transaction (Engine.begin w.tables w.ext now) with
  | .committed a v =>
      (.ok a, { w with tables := (engine hash).applyAll v.writes v.db, ext := v.ext })
  | .raised e => (.error e, w)
  | .stuck => (.error (.transient "LockNotAvailable"), w)

/-- Surroundings without transient errors: PostgreSQL answers each statement, and the broker
takes each commit. -/
def serve (hash : PyStr → Int) (now : Nat) (choice : Choice) :
    (o : NotificationOp) → NotificationWorld → o.Res × NotificationWorld
  | .insertAttempt payload, w =>
      transact hash now choice (insertNotificationAttempt payload) w
  | .insertAttemptBatch payloads, w =>
      transact hash now choice (insertNotificationAttemptBatch payloads) w
  | .reconnect, w => ((), w)
  | .commit partition offset, w =>
      (.ok (), { w with committed := w.committed ++ [(partition, offset)] })
  | .seek _ _, w => (.ok (), w)

end EventPipeline.Worker.Notifications
