import EventPipeline.Portfolio.EventEnvelope
import EventPipeline.Postgres.Jsonb
import Mathlib.Logic.Function.Basic

/-!
# EventPipeline.Postgres.Tables

The tables the services share, after migration 0009, and the row changes their
statements make.

A table with a single-column key that no guarantee enumerates is a partial
function; the messages, the outbox and the notification attempts are lists, since
the guarantees count their rows. The registry tables (`rooms`, `users`,
`room_members`) are never written by the pipeline and are predicates.

The `payload` and the `metadata` of a message are `jsonb` columns, and a row holds what
they give back (`EventPipeline.Postgres.Jsonb`): the worker prints and measures them
again. The other `jsonb` columns hold the value written to them. Their values are built
of rows that were read back and are read by their keys, so all that is lost of them is
the order of their own keys.
-/

namespace EventPipeline.Postgres

open EventPipeline.Python EventPipeline.Portfolio

/-- A row of `messages`. -/
structure MessageRow where
  id : Nat
  request_id : PyStr
  room_id : Nat
  user_id : Nat
  event_type : PyStr
  category : Option PyStr
  payment_id : Option PyStr
  schema_version : Nat
  payload : Dict
  metadata : Dict
  body : PyStr
  room_seq : Nat
  /-- `created_at.isoformat()`. -/
  created_at : PyStr

/-- The columns an `INSERT INTO messages` lists; `id` and `created_at` default. -/
structure NewMessage where
  request_id : PyStr
  room_id : Nat
  user_id : Nat
  event_type : PyStr
  category : Option PyStr
  payment_id : Option PyStr
  schema_version : Nat
  payload : Dict
  metadata : Dict
  body : PyStr
  room_seq : Nat

/-- The stored row, as `RETURNING` gives it back. -/
def NewMessage.toRow (m : NewMessage) (id : Nat) (created_at : PyStr) : MessageRow :=
  { m with
    id, created_at, payload := jsonbDict m.payload, metadata := jsonbDict m.metadata }

/-- The text columns of a new message. -/
def NewMessage.texts (m : NewMessage) : List PyStr :=
  [m.request_id, m.event_type, m.body] ++ m.category.toList ++ m.payment_id.toList

/-- The text columns of a row, and its time. -/
def MessageRow.texts (row : MessageRow) : List PyStr :=
  [row.request_id, row.event_type, row.body, row.created_at] ++ row.category.toList
    ++ row.payment_id.toList

theorem NewMessage.toRow_texts {m : NewMessage} {id : Nat} {created_at : PyStr}
    (h : ∀ text ∈ m.texts, text.Clean) (hat : created_at.Clean) :
    ∀ text ∈ (m.toRow id created_at).texts, text.Clean := by
  simp only [NewMessage.texts, MessageRow.texts, NewMessage.toRow, List.mem_append, List.mem_cons,
    List.not_mem_nil, or_false] at h ⊢
  rintro text ((hmem | hmem) | hmem)
  · rcases hmem with rfl | rfl | rfl | rfl
    · exact h _ (by simp)
    · exact h _ (by simp)
    · exact h _ (by simp)
    · exact hat
  · exact h text (Or.inl (Or.inr hmem))
  · exact h text (Or.inr hmem)

/-- A row of `notification_outbox`; times are microseconds since the epoch. -/
structure OutboxRow where
  message_id : Nat
  room_id : Nat
  payload : Dict
  next_attempt_at : Nat
  attempts : Nat
  last_error : Option String
  published_at : Option Nat

/-- A row of `notification_attempts`. -/
structure AttemptRow where
  message_id : Nat
  room_id : Nat
  payload : Dict

/-- A row of `request_statuses`. -/
structure StatusRow where
  user_id : Option Nat
  status_json : Json

/-- A row of `intake_idempotency_keys`. -/
structure IntakeRow where
  request_id : PyStr
  created_at : Nat
  deriving DecidableEq

/-- `route, idem_key`, the key of both idempotency tables. -/
abbrev IdempotencyKey := PyStr × PyStr

/-- The committed rows, or the rows one transaction sees. -/
structure Tables where
  rooms : Nat → Bool
  users : Nat → Bool
  room_members : Nat → Nat → Bool
  messages : List MessageRow
  room_sequences : Nat → Option Nat
  idempotency_keys : IdempotencyKey → Option Json
  request_statuses : PyStr → Option StatusRow
  intake_idempotency_keys : IdempotencyKey → Option IntakeRow
  notification_outbox : List OutboxRow
  notification_attempts : List AttemptRow

/-- Rooms, users and memberships with every other table empty. -/
def Tables.empty (rooms users : Nat → Bool) (room_members : Nat → Nat → Bool) : Tables where
  rooms := rooms
  users := users
  room_members := room_members
  messages := []
  room_sequences _ := none
  idempotency_keys _ := none
  request_statuses _ := none
  intake_idempotency_keys _ := none
  notification_outbox := []
  notification_attempts := []

namespace Tables

/-- `SELECT ... FROM messages WHERE request_id=%s`. -/
def messageByRequestId (t : Tables) (request_id : PyStr) : Option MessageRow :=
  t.messages.find? fun m => m.request_id = request_id

/-- `SELECT ... FROM messages WHERE room_id=%s AND room_seq=%s`. -/
def messageBySeq (t : Tables) (room_id room_seq : Nat) : Option MessageRow :=
  t.messages.find? fun m => m.room_id = room_id ∧ m.room_seq = room_seq

/-- The row of the outbox for a message. -/
def outboxRow (t : Tables) (message_id : Nat) : Option OutboxRow :=
  t.notification_outbox.find? fun o => o.message_id = message_id

/-- The counter of a room, `0` when the room has no row yet. -/
def lastSeq (t : Tables) (room_id : Nat) : Nat := (t.room_sequences room_id).getD 0

end Tables

/-! ### Row changes

A statement changes one row at a time, and a transaction keeps its changes in order until it
commits. -/

/-- One pending row change of a transaction. -/
inductive Write
  | putSequence (room_id last_seq : Nat)
  | insertMessage (row : MessageRow)
  | putIdempotency (key : IdempotencyKey) (response_json : Json)
  | putStatus (request_id : PyStr) (row : StatusRow)
  | insertOutbox (row : OutboxRow)
  | putOutbox (row : OutboxRow)
  | insertAttempt (row : AttemptRow)
  | putIntake (key : IdempotencyKey) (row : Option IntakeRow)

/-- What a row change does to the rows. -/
def Write.apply : Write → Tables → Tables
  | .putSequence room_id n, t =>
      { t with room_sequences := Function.update t.room_sequences room_id (some n) }
  | .insertMessage row, t => { t with messages := t.messages ++ [row] }
  | .putIdempotency key v, t =>
      { t with idempotency_keys := Function.update t.idempotency_keys key (some v) }
  | .putStatus request_id row, t =>
      { t with request_statuses := Function.update t.request_statuses request_id (some row) }
  | .insertOutbox row, t => { t with notification_outbox := t.notification_outbox ++ [row] }
  | .putOutbox row, t =>
      { t with notification_outbox :=
          t.notification_outbox.map fun o => if o.message_id = row.message_id then row else o }
  | .insertAttempt row, t =>
      { t with notification_attempts := t.notification_attempts ++ [row] }
  | .putIntake key row, t =>
      { t with intake_idempotency_keys := Function.update t.intake_idempotency_keys key row }

end EventPipeline.Postgres
