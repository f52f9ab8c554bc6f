import EventPipeline.Guarantees.DeadLetter
import EventPipeline.Guarantees.Idempotency
import EventPipeline.Guarantees.Offsets
import EventPipeline.Guarantees.Pagination

/-!
# EventPipeline.Guarantees.IngressProcess

The ingress worker as one process: the log of the topic, the consumer and its offsets, the
handler with its retries, and a database that other workers use at the same time.

A batch is `processWorkerBatch` over `handleIngressRecord`, with a mark where the loop takes a
record up and one where the handler has returned; the marks only let the state say which record
an operation belongs to. The two transactions of the handler are commits of the `WorkerSystem`,
among any steps of others. Every operation may be answered as the clock, the brokers and the
database can: a commit may take effect and still raise, the process may die between any two
operations, and a new consumer resumes at the committed offsets.
-/

namespace EventPipeline.Guarantees

open EventPipeline.Python EventPipeline.Portfolio EventPipeline.Postgres EventPipeline.Worker
open EventPipeline.Concurrency

namespace IngressProcess

open DeadLetter

/-! ### The program of a batch

The consumer's program contains the handler's, so that its operations are those of the handler and
its own. The marks around a handler do nothing in the source: they tell the state which record is
being handled. -/

/-- What the consumer asks for: what its handler asks for, and the marks. -/
inductive ConsumerOp
  | takeUp (message : ConsumerRecord KafkaValue)
  | returned (message : ConsumerRecord KafkaValue)
  | run (op : IngressOp)

/-- The answers. -/
abbrev ConsumerOp.Res : ConsumerOp → Type
  | .takeUp _ => Unit
  | .returned _ => Unit
  | .run op => op.Res

/-- A program of the consumer. -/
abbrev Consuming (α : Type) := Prog ConsumerOp ConsumerOp.Res PyExc α

/-- A program of the handler, as a part of the consumer's. -/
def consuming {α : Type} : Handling α → Consuming α
  | .ret a => .ret a
  | .throw e => .throw e
  | .op o k => .op (.run o) fun r => consuming (k r)

/-- The consumer of the batch. -/
def ingressConsumer : Consumer ConsumerOp ConsumerOp.Res where
  commit partition offset := consuming do
    let reply ← Prog.call (IngressOp.commit partition offset)
    .ofExcept reply
  seek partition offset := consuming do
    let reply ← Prog.call (IngressOp.seek partition offset)
    .ofExcept reply

/-- `_handle_ingress_record`, between its marks. -/
def markedHandler (rt : Runtime) (settings : IngressSettings)
    (message : ConsumerRecord KafkaValue) : Consuming IngressOutcome := do
  Prog.call (ConsumerOp.takeUp message)
  let outcome ← consuming (handleIngressRecord rt settings message)
  Prog.call (ConsumerOp.returned message)
  return outcome

/-- `_process_worker_batch(consumer, records, _handle_ingress_record, ...)`. -/
def ingressBatch (rt : Runtime) (settings : IngressSettings) (records : Polled KafkaValue) :
    Consuming Unit :=
  processWorkerBatch ingressConsumer (markedHandler rt settings) records

/-! ### Transactions among those of other workers

The worker waits for its transaction while the database goes on with those of others. A commit may
take effect and still raise, where its answer is lost; the statements are about what the tables
hold, not about what the worker was told. -/

section Transactions

variable {rt : Runtime} (hash : PyStr → Int)

/-- Any steps of the database and its clients. -/
def Others (s s' : WorkerSystem rt) : Prop := ∃ h, WorkerRun rt hash s h s'

/-- How a transaction ends for the worker that asked for it, with the rows its commit adds. A
commit that took effect may still raise; a connection that is lost before it leaves nothing. -/
inductive Transacts (task : Task rt) :
    WorkerSystem rt → Except PyExc Answer → List MessageRow → WorkerSystem rt → Prop
  | committed {s s₁ s₂ s' : WorkerSystem rt} {answer : Answer} {rows : List MessageRow}
      (before : Others hash s s₁)
      (commit : Step (engine hash) (program rt) s₁ (.committed task answer) s₂)
      (adds : s₂.db.messages = s₁.db.messages ++ rows) (after : Others hash s₂ s') :
      Transacts task s (.ok answer) rows s'
  | unacknowledged {s s₁ s₂ s' : WorkerSystem rt} {answer : Answer} {rows : List MessageRow}
      (before : Others hash s s₁)
      (commit : Step (engine hash) (program rt) s₁ (.committed task answer) s₂)
      (adds : s₂.db.messages = s₁.db.messages ++ rows) (after : Others hash s₂ s')
      (name : String) : Transacts task s (.error (.transient name)) rows s'
  | rolledBack {s s₁ s₂ s' : WorkerSystem rt} {e : PyExc} (before : Others hash s s₁)
      (rollback : Step (engine hash) (program rt) s₁ (.rolledBack task (some e)) s₂)
      (after : Others hash s₂ s') : Transacts task s (.error e) [] s'
  | unavailable {s s' : WorkerSystem rt} (others : Others hash s s') (name : String) :
      Transacts task s (.error (.transient name)) [] s'

/-- `job` is `n` after some retries, which the transaction does not look at. -/
def IsRetry (n job : IngressJob) : Prop :=
  job = { n with retry_count := job.retry_count, next_retry_at := job.next_retry_at }

/-- What the worker gets back of `persist_ingress_job`. -/
def PersistReply : Except PyExc Answer → Except PyExc Dict → Prop
  | .ok (.response response), reply =>
      ∃ persisted_at, reply = .ok (committedResponse persisted_at response)
  | .ok _, _ => False
  | .error e, reply => reply = .error e

/-- What it gets back of `store_request_status`. -/
def StatusReply : Except PyExc Answer → Except PyExc Dict → Prop
  | .ok _, reply => ∃ status, reply = .ok status
  | .error e, reply => reply = .error e

/-- What an operation does to the database: `rows` are the messages it adds. -/
def SystemAnswers (s s' : WorkerSystem rt) (rows : List MessageRow) :
    (op : IngressOp) → op.Res → Prop
  | .persistIngressJob job, reply => ∃ v : ValidatedJob rt, IsRetry v.job job ∧
      ∃ outcome, Transacts hash (.persist v) s outcome rows s' ∧ PersistReply outcome reply
  | .storeRequestStatus request_id payload, reply => ∃ outcome,
      Transacts hash (.status request_id payload) s outcome rows s' ∧ StatusReply outcome reply
  | _, _ => Others hash s s' ∧ rows = []

end Transactions

/-! ### The state of the process -/

/-- The database, the dead-letter topic and the consumer group, and for the statements about a
run: the record that was taken up last with what was asked for since, and what every record
inserted. -/
structure IngressWorld (rt : Runtime) where
  system : WorkerSystem rt
  deadLetters : List (Nat × Dict)
  group : Group KafkaValue
  current : Option (ConsumerRecord KafkaValue)
  log : IngressLog
  inserted : List (ConsumerRecord KafkaValue × MessageRow)

/-- A dead letter that is not acknowledged may have been taken. -/
def LettersAnswer (l l' : List (Nat × Dict)) : (op : IngressOp) → op.Res → Prop
  | .publishDlqJob key payload, .ok () => l' = l ++ [(key, payload)]
  | .publishDlqJob key payload, .error _ => l' = l ∨ l' = l ++ [(key, payload)]
  | _, _ => l' = l

/-- An offset commit that raises may have taken effect. -/
def GroupAnswer (g g' : Group KafkaValue) : (op : IngressOp) → op.Res → Prop
  | .commit partition offset, .ok () =>
      g' = { g with committed := Function.update g.committed partition (some offset) }
  | .commit partition offset, .error _ =>
      g' = g ∨ g' = { g with committed := Function.update g.committed partition (some offset) }
  | .seek partition offset, .ok () =>
      g' = { g with position := Function.update g.position partition offset }
  | _, _ => g' = g

/-- Rows of the record that was taken up last. -/
def IngressWorld.about {rt : Runtime} (w : IngressWorld rt) (rows : List MessageRow) :
    List (ConsumerRecord KafkaValue × MessageRow) :=
  match w.current with
  | some message => rows.map (message, ·)
  | none => []

/-- One operation of the handler or the loop. The database, the letters and the consumer group
each answer what is addressed to them. At any other operation the letters and the group stay as
they are, and only other transactions change the database. The rows that the operation committed
are put down to the record at hand. -/
structure IngressWorld.Does {rt : Runtime} (hash : PyStr → Int) (w : IngressWorld rt)
    (op : IngressOp) (r : op.Res) (rows : List MessageRow) (w' : IngressWorld rt) : Prop where
  system : SystemAnswers hash w.system w'.system rows op r
  deadLetters : LettersAnswer w.deadLetters w'.deadLetters op r
  group : GroupAnswer w.group w'.group op r
  current : w'.current = w.current
  log : w'.log = w.log ++ [⟨op, r⟩]
  inserted : w'.inserted = w.inserted ++ w.about rows

/-- One operation of a batch. -/
def IngressWorld.step {rt : Runtime} (hash : PyStr → Int) :
    (o : ConsumerOp) → IngressWorld rt → o.Res → IngressWorld rt → Prop
  | .takeUp message, w, _, w' => w' = { w with current := some message, log := [] }
  | .returned message, w, _, w' =>
      w' = { w with group := { w.group with returned := insert message w.group.returned } }
  | .run op, w, r, w' => ∃ rows, w.Does hash op r rows w'

/-- The process: poll, run the batch, and rebuild the consumer when the batch raises or the
process dies at any point. -/
def ingressProcess (rt : Runtime) (settings : IngressSettings) (hash : PyStr → Int)
    (log : Set (ConsumerRecord KafkaValue)) :
    Driver ConsumerOp ConsumerOp.Res PyExc Unit (IngressWorld rt) where
  step := IngressWorld.step hash
  starts w p w' := ∃ records, Fetched log w.group records ∧ p = ingressBatch rt settings records ∧
    w' = { w with group := w.group.advanced records }
  ends _ w w' := w' = w
  throws _ w w' := w' = { w with group := w.group.rebuilt }
  crashes w w' := w' = { w with group := w.group.rebuilt }

/-- Nothing consumed yet, in a database with rooms, users and memberships only. -/
def IngressWorld.fresh (rt : Runtime) (rooms users : Nat → Bool) (members : Nat → Nat → Bool) :
    IngressWorld rt :=
  ⟨emptySystem rt rooms users members, [], .fresh, none, [], []⟩

/-! ### What becomes of a record

The handler returns after one of three ends: the event is stored, the database has refused it for
a reason that lasts, or a dead letter about it was acknowledged. -/

/-- The request of a job is stored, or the response of another event of its user under its
key. -/
def Stored (t : Tables) (job : IngressJob) : Prop :=
  ∃ row ∈ t.messages, row.room_id = job.room_id ∧ (row.request_id = job.request_id ∨
    row.user_id = job.user_id ∧ ∃ key, job.idempotencyKey = some key ∧
      t.idempotency_keys (job.scopedKey key) = some (.obj (messageRowResponse row)))

/-- The row that stores an event, column by column, but for the number, the id and the time that
the database gives it: a job that asks for a number gets that number. -/
structure EventRow (job : IngressJob) (row : MessageRow) : Prop where
  row_eq : row = (newMessage job job.event_type job.payload job.metadata row.room_seq).toRow
    row.id row.created_at
  asked : ∀ seq ∈ job.room_seq, seq = row.room_seq

theorem EventRow.request_id {job : IngressJob} {row : MessageRow} (h : EventRow job row) :
    row.request_id = job.request_id := by
  rw [h.row_eq]
  rfl

theorem EventRow.room_id {job : IngressJob} {row : MessageRow} (h : EventRow job row) :
    row.room_id = job.room_id := by
  rw [h.row_eq]
  rfl

/-- What the handler leaves of a record when it returns. -/
inductive Delivered {rt : Runtime} (w : IngressWorld rt) (m : ConsumerRecord KafkaValue) : Prop
  /-- The event is in the database. -/
  | stored (n : IngressJob) (hread : (readIngress rt m.value).2 = .ok n)
      (hstored : Stored w.system.db n)
  /-- The event cannot be stored, for one of the reasons of `Refusal`, and by
  `Refusal.of_grows` never can be. -/
  | refused (n : IngressJob) (hread : (readIngress rt m.value).2 = .ok n)
      (hrefusal : Refusal w.system.db n)
  /-- The event is a dead letter. -/
  | deadLetter (n : IngressJob) (hread : (readIngress rt m.value).2 = .ok n) (job : IngressJob)
      (hjob : IsRetry n job) (reason failed_at : PyStr)
      (hletter : (n.room_id, (job.deadLettered reason failed_at).toDict) ∈ w.deadLetters)
  /-- The value is no event, and the diagnostics of it are a dead letter. -/
  | unread (reason : PyStr) (hread : (readIngress rt m.value).2 = .error reason)
      (kept : InvalidIngress)
      (hletter : (kept.room_id, invalidIngressPayload rt (readIngress rt m.value).1 kept)
        ∈ w.deadLetters)
  /-- The event has another key than its stream, and the diagnostics of it are a dead letter. -/
  | misplaced (n : IngressJob) (hread : (readIngress rt m.value).2 = .ok n) (kept : InvalidIngress)
      (hletter : (kept.room_id, invalidIngressPayload rt (.json (.obj n.toDict)) kept)
        ∈ w.deadLetters)

end IngressProcess

end EventPipeline.Guarantees
