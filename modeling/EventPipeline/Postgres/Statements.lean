import EventPipeline.Postgres.Tables
import EventPipeline.Concurrency.Transactions
import EventPipeline.Portfolio.KafkaClient

/-!
# EventPipeline.Postgres.Statements

The statements the services send and what PostgreSQL answers at READ COMMITTED.

A statement sees the committed rows under its own transaction's writes. Writing a
row takes a lock kept to the end of the transaction. An `INSERT` waits for an open
transaction that is changing the same key; `UPDATE`, `DELETE` and `FOR UPDATE` wait
only for a row they can see, which is why a claim row has two locks: one for the
visible row and one for a change in progress. Waiting is `blocked`: the statement
runs again later, against the rows of that time.

A publish to Kafka from inside the relay's transaction is one more operation here:
its effect is outside the transaction and stays when that rolls back.
-/

namespace EventPipeline.Postgres

open EventPipeline.Python EventPipeline.Portfolio EventPipeline.Concurrency

/-- What open transactions lock. -/
inductive Lock
  /-- `pg_advisory_xact_lock`, by hash value. -/
  | advisory (hash : Int)
  | sequence (room_id : Nat)
  | message (id : Nat)
  | request (request_id : PyStr)
  | slot (room_id room_seq : Nat)
  | idempotency (key : IdempotencyKey)
  | status (request_id : PyStr)
  | outbox (message_id : Nat)
  | attempt (message_id : Nat)
  | intakeRow (key : IdempotencyKey)
  | intakeEntry (key : IdempotencyKey)
  deriving DecidableEq

/-- What lives outside transactions: the `messages.id` sequence, and the
notifications the broker has acknowledged. -/
structure Ext where
  nextId : Nat
  acknowledged : List (Nat × Dict)

/-- What the environment decides about one operation: whether the broker takes a
record and whether the client sees an error. -/
structure Choice where
  acknowledged : Bool
  raised : Option PyExc

/-- The registry rows an event is authorised against. -/
structure Authorization where
  stream_exists : Bool
  actor_exists : Bool
  member_exists : Bool

/-- One operation of a transaction. -/
inductive Stmt
  | nowIso
  | advisoryXactLock (key : PyStr)
  | selectIdempotencyKey (route idem_key : PyStr)
  | insertIdempotencyKey (route idem_key : PyStr) (response_json : Json)
  | upsertIdempotencyKey (route idem_key : PyStr) (response_json : Json)
  | selectMessageByRequestId (request_id : PyStr)
  | selectAuthorization (room_id user_id : Nat)
  | bumpRoomSequence (room_id : Nat)
  | selectMessageBySeq (room_id room_seq : Nat)
  | insertMessage (message : NewMessage)
  | upsertRequestStatus (request_id : PyStr) (owner_id : Nat) (status_json : Json)
  | insertOutbox (message_id room_id : Nat) (payload : Dict)
  | selectPendingOutbox
  | publishNotification (room_id : Nat) (payload : Dict)
  | updateOutboxFailed (message_id : Nat) (last_error : String) (delaySeconds : Nat)
  | updateOutboxPublished (message_id : Nat)
  | insertNotificationAttempt (event_id stream_id : Nat) (payload : Dict)
  | insertNotificationAttemptBatch (rows : List AttemptRow)
  | selectRequestStatus (request_id : PyStr)
  | insertReplayClaim (route idem_key claim_value : PyStr)
  | selectReplayClaimForUpdate (route idem_key : PyStr)
  | updateExpiredReplayClaim (route idem_key claim_value : PyStr)
  | updateReplayClaimPublished (route idem_key published claim_value : PyStr)
  | deleteReplayClaim (route idem_key claim_value : PyStr)

/-- What `fetchone` or `fetchall` returns after the operation. -/
@[reducible] def Stmt.Res : Stmt → Type
  | .nowIso => PyStr
  | .advisoryXactLock _ => Unit
  | .selectIdempotencyKey _ _ => Option Json
  | .insertIdempotencyKey _ _ _ => Unit
  | .upsertIdempotencyKey _ _ _ => Unit
  | .selectMessageByRequestId _ => Option MessageRow
  | .selectAuthorization _ _ => Authorization
  | .bumpRoomSequence _ => Nat
  | .selectMessageBySeq _ _ => Option MessageRow
  | .insertMessage _ => MessageRow
  | .upsertRequestStatus _ _ _ => Bool
  | .insertOutbox _ _ _ => Unit
  | .selectPendingOutbox => Option OutboxRow
  | .publishNotification _ _ => Except PyExc Unit
  | .updateOutboxFailed _ _ _ => Unit
  | .updateOutboxPublished _ => Unit
  | .insertNotificationAttempt _ _ _ => Bool
  | .insertNotificationAttemptBatch _ => List (Nat × Nat)
  | .selectRequestStatus _ => Option Json
  | .insertReplayClaim _ _ _ => Bool
  | .selectReplayClaimForUpdate _ _ => Option PyStr
  | .updateExpiredReplayClaim _ _ _ => Bool
  | .updateReplayClaimPublished _ _ _ _ => Bool
  | .deleteReplayClaim _ _ _ => Unit

/-- What one operation sees. -/
abbrev StmtEnv := Env Tables Ext Lock Choice

/-- What one transaction has done and sees. -/
abbrev TxView := View Tables Ext Write Lock

/-- What one operation answers. -/
abbrev StmtReply (R : Type) := Reply R PyExc Ext Write Lock

/-- `DLQ_REPLAY_CLAIM_LEASE_SECONDS`, in microseconds. -/
def claimLeaseMicros : Nat := 30 * 1000000

/-- The client sends text parameters as UTF-8 without NUL. -/
def encoded {R : Type} (params : List PyStr) (reply : StmtReply R) : StmtReply R :=
  if ∀ p ∈ params, PyStr.Clean p then reply else .failed .unicodeEncodeError

/-- Whether the text `json.dumps` prints for a value converts to `jsonb`: its
strings may hold neither NUL nor a lone surrogate. -/
def jsonbAccepts (v : Json) : Bool := (validateJsonStructure v (Json.depth v)).isOk

/-- A statement with `%s::jsonb` parameters. -/
def jsonb {R : Type} (values : List Json) (reply : StmtReply R) : StmtReply R :=
  if values.all jsonbAccepts then reply else .failed (.dataError "UntranslatableCharacter")

theorem jsonbAccepts_iff {v : Json} : jsonbAccepts v = true ↔ Json.Sound v := by
  have h : validateJsonStructure v (Json.depth v) = .ok () ↔ Json.Sound v := by
    simp [validateJsonStructure_ok]
  rw [← h, jsonbAccepts]
  cases validateJsonStructure v (Json.depth v) with
  | error e => simp [Except.isOk, Except.toBool]
  | ok u => simp [Except.isOk, Except.toBool]

/-- Wait while another transaction holds one of the locks. -/
def awaiting {R : Type} (env : StmtEnv) (locks : List Lock) (reply : StmtReply R) :
    StmtReply R :=
  if ∃ k ∈ locks, env.held k = true then .blocked else reply

/-- An answer that writes nothing and locks nothing. -/
def answer {R : Type} (env : StmtEnv) (r : R) : StmtReply R := .done r [] [] env.ext

/-- The check constraints of `messages`. -/
def NewMessage.checked (m : NewMessage) : Bool :=
  1 ≤ m.schema_version && m.schema_version ≤ 32767 &&
    (m.schema_version < 2 || (m.event_type.length ≤ 50 && isGenericEventType m.event_type))

/-- The unique keys of a new message. -/
def MessageRow.locks (row : MessageRow) : List Lock :=
  [.message row.id, .request row.request_id, .slot row.room_id row.room_seq]

/-- A unique key of `messages` is taken. -/
def MessageRow.conflicts (row : MessageRow) (t : Tables) : Bool :=
  t.messages.any fun m => m.id = row.id || m.request_id = row.request_id ||
    (m.room_id = row.room_id && m.room_seq = row.room_seq)

/-- `INSERT INTO messages`; the payload and the metadata have passed
`validate_json_structure`. -/
def execInsertMessage (m : NewMessage) (env : StmtEnv) : StmtReply MessageRow :=
  encoded m.texts <|
  let row := m.toRow env.ext.nextId (DateTime.ofMicros env.startedAt).isoformat
  awaiting env row.locks <|
  if maxPostgresBigint < row.id then .failed (.dataError "SequenceGeneratorLimitExceeded")
  else if m.checked = false then .failed (.integrityError "CheckViolation")
  else if env.view.rooms m.room_id = false ∨ env.view.users m.user_id = false then
    .failed (.integrityError "ForeignKeyViolation")
  else if row.conflicts env.view then .failed (.integrityError "UniqueViolation")
  else .done row [.insertMessage row] row.locks { env.ext with nextId := env.ext.nextId + 1 }

/-- `INSERT INTO room_sequences ... ON CONFLICT DO UPDATE ... RETURNING last_seq`. -/
def execBumpRoomSequence (room_id : Nat) (env : StmtEnv) : StmtReply Nat :=
  awaiting env [.sequence room_id] <|
  if env.view.rooms room_id = false then .failed (.integrityError "ForeignKeyViolation")
  else if maxPostgresBigint < env.view.lastSeq room_id + 1 then
    .failed (.dataError "NumericValueOutOfRange")
  else
    .done (env.view.lastSeq room_id + 1)
      [.putSequence room_id (env.view.lastSeq room_id + 1)] [.sequence room_id] env.ext

/-- `INSERT INTO request_statuses ... ON CONFLICT DO UPDATE ... WHERE` the row has
no owner or this one. -/
def execUpsertRequestStatus (request_id : PyStr) (owner_id : Nat) (status_json : Json)
    (env : StmtEnv) : StmtReply Bool :=
  encoded [request_id] <| awaiting env [.status request_id] <|
  match env.view.request_statuses request_id with
  | some ⟨some owner, _⟩ =>
      if owner = owner_id then
        .done true [.putStatus request_id ⟨some owner_id, status_json⟩] [.status request_id]
          env.ext
      else .done false [] [.status request_id] env.ext
  | _ =>
      .done true [.putStatus request_id ⟨some owner_id, status_json⟩] [.status request_id] env.ext

/-- `INSERT INTO notification_outbox ... ON CONFLICT (message_id) DO NOTHING`. -/
def execInsertOutbox (message_id room_id : Nat) (payload : Dict) (env : StmtEnv) :
    StmtReply Unit :=
  jsonb [.obj payload] <| awaiting env [.outbox message_id] <|
  if env.view.outboxRow message_id ≠ none then answer env ()
  else if (env.view.messages.all fun m => m.id ≠ message_id) || !env.view.rooms room_id then
    .failed (.integrityError "ForeignKeyViolation")
  else
    .done () [.insertOutbox ⟨message_id, room_id, payload, env.now, 0, none, none⟩]
      [.outbox message_id] env.ext

/-- A row the relay may take now. -/
def pending (env : StmtEnv) (o : OutboxRow) : Bool :=
  o.published_at.isNone && o.next_attempt_at ≤ env.now && !env.held (.outbox o.message_id)

/-- `ORDER BY next_attempt_at, message_id`. -/
def OutboxRow.before (a b : OutboxRow) : Bool :=
  a.next_attempt_at < b.next_attempt_at ||
    (a.next_attempt_at == b.next_attempt_at && a.message_id ≤ b.message_id)

/-- The first row in that order. -/
def firstRow : List OutboxRow → Option OutboxRow
  | [] => none
  | o :: rest =>
      match firstRow rest with
      | none => some o
      | some p => if o.before p then some o else some p

/-- `SELECT ... LIMIT 1 FOR UPDATE SKIP LOCKED`. -/
def execSelectPendingOutbox (env : StmtEnv) : StmtReply (Option OutboxRow) :=
  match firstRow (env.view.notification_outbox.filter (pending env)) with
  | none => answer env none
  | some o => .done (some o) [] [.outbox o.message_id] env.ext

/-- The broker's record of an acknowledged notification. -/
def Ext.acknowledge (x : Ext) (room_id : Nat) (payload : Dict) : Ext :=
  { x with acknowledged := x.acknowledged ++ [(room_id, payload)] }

/-- `publish_notification_job`: the producer serializes the payload, sends it, and
waits for the acknowledgement, which the broker may have given before the client
raises. -/
def execPublishNotification (room_id : Nat) (payload : Dict) (env : StmtEnv) :
    StmtReply (Except PyExc Unit) :=
  match serializeJson (.obj payload), env.choice.raised with
  | .error e, _ => answer env (.error e)
  | .ok _, none => .done (.ok ()) [] [] (env.ext.acknowledge room_id payload)
  | .ok _, some e =>
      .done (.error e) [] []
        (if env.choice.acknowledged then env.ext.acknowledge room_id payload else env.ext)

/-- `SET attempts=attempts+1, last_error=%s, next_attempt_at=...`. -/
def OutboxRow.failed (last_error : String) (delaySeconds now : Nat) (o : OutboxRow) : OutboxRow :=
  { o with
    attempts := o.attempts + 1, last_error := some last_error,
    next_attempt_at := now + 1000000 * delaySeconds }

/-- `SET published_at=clock_timestamp(), attempts=attempts+1, last_error=NULL`. -/
def OutboxRow.published (now : Nat) (o : OutboxRow) : OutboxRow :=
  { o with attempts := o.attempts + 1, last_error := none, published_at := some now }

/-- `UPDATE notification_outbox ... WHERE message_id=%s`. -/
def execUpdateOutbox (message_id : Nat) (change : OutboxRow → OutboxRow) (env : StmtEnv) :
    StmtReply Unit :=
  match env.view.outboxRow message_id with
  | none => answer env ()
  | some o =>
      awaiting env [.outbox message_id] <|
      if 2147483647 ≤ o.attempts then .failed (.dataError "NumericValueOutOfRange")
      else .done () [.putOutbox (change o)] [.outbox message_id] env.ext

/-- The message an attempt names exists. -/
def hasTarget (t : Tables) (event_id stream_id : Nat) : Bool :=
  t.messages.any fun m => m.id = event_id ∧ m.room_id = stream_id

/-- `ON CONFLICT (message_id)` of an attempt. -/
def hasAttempt (t : Tables) (message_id : Nat) : Bool :=
  t.notification_attempts.any fun a => a.message_id = message_id

/-- One row per target: the first of the rows that name it. -/
def distinctTargets : List AttemptRow → List AttemptRow
  | [] => []
  | a :: rest =>
      a :: (distinctTargets rest).filter fun b =>
        ¬(b.message_id = a.message_id ∧ b.room_id = a.room_id)

/-- The rows of a batch that name an existing message. -/
def batchTargets (rows : List AttemptRow) (t : Tables) : List AttemptRow :=
  distinctTargets (rows.filter fun a => hasTarget t a.message_id a.room_id)

/-- `WITH targets ... INSERT INTO notification_attempts ... ON CONFLICT DO NOTHING`,
for a list of incoming rows; returns the targets. -/
def execInsertAttempts (rows : List AttemptRow) (env : StmtEnv) : StmtReply (List AttemptRow) :=
  let targets := batchTargets rows env.view
  jsonb (rows.map fun a => .obj a.payload) <|
  awaiting env (targets.map fun a => .attempt a.message_id) <|
  let fresh := targets.filter fun a => !hasAttempt env.view a.message_id
  .done targets (fresh.map .insertAttempt) (fresh.map fun a => .attempt a.message_id) env.ext

/-- The answer of a reply, changed. -/
def mapReply {R : Type} (R' : Type) (f : R → R') : StmtReply R → StmtReply R'
  | .blocked => .blocked
  | .failed e => .failed e
  | .done r ws ls x => .done (f r) ws ls x

/-- `INSERT INTO intake_idempotency_keys ... ON CONFLICT DO NOTHING RETURNING`. A row
lock is only held on a row somebody can see, so the second wait never happens. -/
def execInsertReplayClaim (key : IdempotencyKey) (claim_value : PyStr) (env : StmtEnv) :
    StmtReply Bool :=
  awaiting env [.intakeEntry key] <|
  match env.view.intake_idempotency_keys key with
  | some _ => answer env false
  | none =>
      awaiting env [.intakeRow key] <|
      .done true [.putIntake key (some ⟨claim_value, env.startedAt⟩)]
        [.intakeRow key, .intakeEntry key] env.ext

/-- An `UPDATE` or `DELETE` of the row with this key, where it satisfies `cond`; a
change in progress on a visible row holds its row lock too. -/
def execChangeReplayClaim {R : Type} (key : IdempotencyKey) (cond : IntakeRow → Bool)
    (row : Option IntakeRow) (changed unchanged : R) (env : StmtEnv) : StmtReply R :=
  match env.view.intake_idempotency_keys key with
  | none => answer env unchanged
  | some old =>
      if cond old then
        awaiting env [.intakeRow key, .intakeEntry key] <|
        .done changed [.putIntake key row] [.intakeRow key, .intakeEntry key] env.ext
      else answer env unchanged

/-- What PostgreSQL answers; `hash` is `hashtextextended(..., 0)`. -/
def exec (hash : PyStr → Int) : (s : Stmt) → StmtEnv → StmtReply s.Res
  | .nowIso, env => answer env (R := PyStr) (DateTime.ofMicros env.now).isoformat
  | .advisoryXactLock key, env =>
      awaiting env [.advisory (hash key)] <| .done (R := Unit) () [] [.advisory (hash key)] env.ext
  | .selectIdempotencyKey route idem_key, env =>
      encoded [route, idem_key] <|
      answer (R := Option Json) env (env.view.idempotency_keys (route, idem_key))
  | .insertIdempotencyKey route idem_key v, env =>
      encoded [route, idem_key] <| jsonb [v] <| awaiting env [.idempotency (route, idem_key)] <|
      if env.view.idempotency_keys (route, idem_key) = none then
        .done (R := Unit) () [.putIdempotency (route, idem_key) v] [.idempotency (route, idem_key)]
          env.ext
      else answer (R := Unit) env ()
  | .upsertIdempotencyKey route idem_key v, env =>
      encoded [route, idem_key] <| jsonb [v] <| awaiting env [.idempotency (route, idem_key)] <|
      .done (R := Unit) () [.putIdempotency (route, idem_key) v] [.idempotency (route, idem_key)]
        env.ext
  | .selectMessageByRequestId request_id, env =>
      encoded [request_id] <|
      answer (R := Option MessageRow) env (env.view.messageByRequestId request_id)
  | .selectAuthorization room_id user_id, env =>
      answer (R := Authorization) env
        ⟨env.view.rooms room_id, env.view.users user_id, env.view.room_members room_id user_id⟩
  | .bumpRoomSequence room_id, env => execBumpRoomSequence room_id env
  | .selectMessageBySeq room_id room_seq, env =>
      answer (R := Option MessageRow) env (env.view.messageBySeq room_id room_seq)
  | .insertMessage m, env => execInsertMessage m env
  | .upsertRequestStatus request_id owner_id status_json, env =>
      execUpsertRequestStatus request_id owner_id status_json env
  | .insertOutbox message_id room_id payload, env =>
      execInsertOutbox message_id room_id payload env
  | .selectPendingOutbox, env => execSelectPendingOutbox env
  | .publishNotification room_id payload, env => execPublishNotification room_id payload env
  | .updateOutboxFailed message_id last_error delaySeconds, env =>
      execUpdateOutbox message_id (.failed last_error delaySeconds env.now) env
  | .updateOutboxPublished message_id, env =>
      execUpdateOutbox message_id (.published env.now) env
  | .insertNotificationAttempt event_id stream_id payload, env =>
      mapReply Bool (fun targets => targets ≠ [])
        (execInsertAttempts [⟨event_id, stream_id, payload⟩] env)
  | .insertNotificationAttemptBatch rows, env =>
      mapReply (List (Nat × Nat)) (List.map fun a => (a.message_id, a.room_id))
        (execInsertAttempts rows env)
  | .selectRequestStatus request_id, env =>
      encoded [request_id] <|
      answer (R := Option Json) env ((env.view.request_statuses request_id).map (·.status_json))
  | .insertReplayClaim route idem_key claim_value, env =>
      encoded [route, idem_key, claim_value] <|
      execInsertReplayClaim (route, idem_key) claim_value env
  | .selectReplayClaimForUpdate route idem_key, env =>
      encoded [route, idem_key] <|
      match env.view.intake_idempotency_keys (route, idem_key) with
      | none => answer (R := Option PyStr) env none
      | some row =>
          awaiting env [.intakeRow (route, idem_key)] <|
          .done (R := Option PyStr) (some row.request_id) [] [.intakeRow (route, idem_key)] env.ext
  | .updateExpiredReplayClaim route idem_key claim_value, env =>
      encoded [route, idem_key, claim_value] <|
      execChangeReplayClaim (R := Bool) (route, idem_key)
        (fun row => row.created_at + claimLeaseMicros < env.startedAt)
        (some ⟨claim_value, env.startedAt⟩) true false env
  | .updateReplayClaimPublished route idem_key published claim_value, env =>
      encoded [route, idem_key, published, claim_value] <|
      execChangeReplayClaim (R := Bool) (route, idem_key)
        (fun row => row.request_id = claim_value) (some ⟨published, env.startedAt⟩) true false env
  | .deleteReplayClaim route idem_key claim_value, env =>
      encoded [route, idem_key, claim_value] <|
      execChangeReplayClaim (R := Unit) (route, idem_key)
        (fun row => row.request_id = claim_value) none () () env

/-- The database engine; ids of messages are also drawn by transactions that roll
back. -/
def engine (hash : PyStr → Int) :
    Engine Stmt Stmt.Res PyExc Tables Ext Write Lock Choice where
  apply := Write.apply
  exec := exec hash
  drift x x' := x.nextId ≤ x'.nextId ∧ x'.acknowledged = x.acknowledged

end EventPipeline.Postgres
