import EventPipeline.Guarantees.IngressProcess
import EventPipeline.Guarantees.Redelivery

/-!
# EventPipeline.Guarantees.IngressRuns

What one operation and one run of the ingress handler do.

A transaction of the handler is a commit among those of others: a new row has a new request id
and the next number of its stream, and a `ValueError` has a reason that lasts
(`Transacts.effect`). The handler persists nothing but retries of the job it read, under the key
of its stream (`asks_handleIngressRecord`), and it returns only after a response, a `ValueError`
or an acknowledged dead letter (`handleIngressRecord_returns`). `IsRetry.persistIngressJob` and
`readIngress_validated` say that the answers of the database in `SystemAnswers` are those the
handler can get.
-/

namespace EventPipeline.Guarantees

open EventPipeline.Python EventPipeline.Portfolio EventPipeline.Postgres EventPipeline.Worker
open EventPipeline.Concurrency EventPipeline.Concurrency.Prog

namespace IngressProcess

open DeadLetter InlineRetry

/-! ### The database

What the commit lemmas of the pipeline say of one transaction, put between the steps that other
workers take before and after it. -/

section Database

variable {rt : Runtime} {hash : PyStr → Int} {rooms users : Nat → Bool}
  {members : Nat → Nat → Bool}

/-- The systems the workers reach. -/
def Reached (hash : PyStr → Int) (rooms users : Nat → Bool) (members : Nat → Nat → Bool)
    (s : WorkerSystem rt) : Prop :=
  Others hash (emptySystem rt rooms users members) s

theorem Stored.of_grows {t t' : Tables} {x x' : Ext} {job : IngressJob} (h : Stored t job)
    (hgrows : Grows t x t' x') : Stored t' job := by
  obtain ⟨row, hrow, hroom, hid⟩ := h
  refine ⟨row, hgrows.messages hrow, hroom, hid.imp_right ?_⟩
  intro hkey
  obtain ⟨huser, key, hkey, hvalue⟩ := hkey
  exact ⟨huser, key, hkey, hgrows.idempotency _ _ hvalue⟩

theorem Others.trans {a b c : WorkerSystem rt} (h : Others hash a b) (h' : Others hash b c) :
    Others hash a c := by
  obtain ⟨log, hrun⟩ := h
  obtain ⟨log', hrun'⟩ := h'
  exact ⟨_, hrun.trans hrun'⟩

theorem Others.of_step {s s' : WorkerSystem rt} {e : WorkerEvent rt}
    (h : Step (engine hash) (program rt) s e s') : Others hash s s' :=
  ⟨_, Run.nil.snoc h⟩

theorem Reached.good {s : WorkerSystem rt} (h : Reached hash rooms users members s) :
    (pipeline hash).Good (fun _ => True) (TaskPost (fun _ => True) hash) TaskRefused s := by
  obtain ⟨log, hrun⟩ := h
  exact workerRun_good hrun fun _ _ => trivial

theorem Reached.inOrder {s : WorkerSystem rt} (h : Reached hash rooms users members s) :
    InOrder s.db := by
  obtain ⟨log, hrun⟩ := h
  exact inOrder_run hrun

/-- Whatever runs on, the tables only grow. -/
theorem Reached.grows {s s' : WorkerSystem rt} (h : Reached hash rooms users members s)
    (hon : Others hash s s') : Grows s.db s.ext s'.db s'.ext := by
  obtain ⟨log, hrun⟩ := hon
  induction hrun with
  | nil => exact .of_le (Ext.Le.refl _)
  | snoc hrun hstep ih =>
      exact ih.trans ((Reached.good (h.trans ⟨_, hrun⟩)).grows taskPost_justifies hstep)

/-- What the commits of a task have to say about the row they add: it is the event of the job, its
request has no row yet, and its number is above every number of its room. -/
structure NewRow (t : Tables) (job : IngressJob) (row : MessageRow) : Prop where
  event : EventRow job row
  request_fresh : ∀ m ∈ t.messages, m.request_id ≠ row.request_id
  room_next : ∀ m ∈ t.messages, m.room_id = row.room_id → m.room_seq < row.room_seq

/-- **A commit of `persist_ingress_job`** stores its event, and adds at most one row: a new
request, at the end of its stream. -/
theorem persist_commit {v : ValidatedJob rt} {answer : Answer} {s s' : WorkerSystem rt}
    (h : Reached hash rooms users members s)
    (hcommit : Step (engine hash) (program rt) s (.committed (.persist v) answer) s') :
    Stored s'.db v.job ∧ (s'.db.messages = s.db.messages ∨
      ∃ row, s'.db.messages = s.db.messages ++ [row] ∧ NewRow s.db v.job row) := by
  cases step_effect h.good hcommit with
  | persisted v' response view he hdb hpost hafter =>
      obtain ⟨rfl, rfl⟩ : v' = v ∧ Answer.response response = answer := by
        cases he
        exact ⟨rfl, rfl⟩
      have horder := h.inOrder
      rw [← hdb] at horder ⊢
      rw [hafter]
      -- only the last of the ways to end adds a row
      cases hpost with
      | hit key m st hstored hresponds hst hw =>
          have hsame := (sameRows_status hash hst view.db).1
          rw [hw]
          refine ⟨⟨m, hsame.messages ▸ hstored.mem, hstored.room_id,
            Or.inr ⟨hstored.user_id, key, hstored.key_eq, ?_⟩⟩, Or.inl hsame.messages⟩
          rw [hsame.idempotency]
          exact hstored.stored
      | existing m st hnone hm hrid hroom huser hresponds hst hw =>
          have hsame := (sameRows_status hash hst view.db).1
          rw [hw]
          exact ⟨⟨m, hsame.messages ▸ hm, hroom, Or.inl hrid⟩, Or.inl hsame.messages⟩
      | ownDuplicate n seq m st hnone hn hlock hseq hlt hm hrid hroom hmseq hok hresponds hst hw =>
          have hsame := sameRows_sequence hash hst v'.job.room_id n view.db
          rw [hw]
          exact ⟨⟨m, hsame.messages ▸ hm, hroom, Or.inl hrid⟩, Or.inl hsame.messages⟩
      | fresh n row st o hnone hfresh hmok hresponds hst hfor hpub hw =>
          have hadds := addsRow_fresh hash hst n row o view.db
          rw [hw]
          have hmem : row ∈ view.db.messages ++ [row] := by simp
          refine ⟨⟨row, hadds.messages ▸ hmem, hfresh.room_id, Or.inl hfresh.request_id⟩,
            Or.inr ⟨row, hadds.messages, ⟨?_, ?_⟩, hfresh.request_fresh, fun m hm hroom => ?_⟩⟩
          · obtain ⟨id, created_at, -, rfl⟩ := hfresh.row_eq
            rfl
          · intro seq hseq
            exact (hfresh.asked seq hseq).trans hfresh.room_seq.symm
          -- the row has the next number of its stream, and those before it are not past the counter
          have hle := horder.counter m hm
          rw [hroom, hfresh.room_id] at hle
          have hnext := hfresh.counter
          have hseq := hfresh.room_seq
          omega
  | stored request_id payload owner view he hdb hpost hafter => cases he
  | other hpersist hstatus hsame hstatuses => exact absurd rfl (hpersist v answer)

/-- A status commit adds no message: of the steps of the workers only a commit of `persist` does.
-/
theorem status_commit {request_id : PyStr} {payload : Dict} {answer : Answer}
    {s s' : WorkerSystem rt} (h : Reached hash rooms users members s)
    (hcommit : Step (engine hash) (program rt) s
      (.committed (.status request_id payload) answer) s') :
    s'.db.messages = s.db.messages := by
  rcases step_tables h.good hcommit with ⟨v, response, view, he, -⟩ | hsame
  · cases he
  · exact hsame.messages

/-- What a transaction of the worker has done when it ends. An answer means that the event is
stored, a `ValueError` that it was refused, and whatever the end, at most one row has been added,
the event of the job. -/
structure Effect (s : WorkerSystem rt) (job : IngressJob) (outcome : Except PyExc Answer)
    (rows : List MessageRow) (s' : WorkerSystem rt) : Prop where
  stored : ∀ answer, outcome = .ok answer → Stored s'.db job
  refused : ∀ e, outcome = .error e → e.isValueError = true → Refusal s'.db job
  rows : rows = [] ∨ ∃ row, rows = [row] ∧ row ∈ s'.db.messages ∧ NewRow s.db job row

theorem NewRow.of_grows {t t' : Tables} {x x' : Ext} {job : IngressJob} {row : MessageRow}
    (h : NewRow t' job row) (hgrows : Grows t x t' x') : NewRow t job row :=
  ⟨h.event, fun m hm => h.request_fresh m (hgrows.messages hm),
    fun m hm => h.room_next m (hgrows.messages hm)⟩

theorem Transacts.others {task : Task rt} {s s' : WorkerSystem rt}
    {outcome : Except PyExc Answer} {rows : List MessageRow}
    (h : Transacts hash task s outcome rows s') : Others hash s s' := by
  cases h with
  | committed before commit adds after => exact (before.trans (.of_step commit)).trans after
  | unacknowledged before commit adds after name =>
      exact (before.trans (.of_step commit)).trans after
  | rolledBack before rollback after => exact (before.trans (.of_step rollback)).trans after
  | unavailable others name => exact others

/-- A commit among the steps of others. What is stored at the commit is still stored after them,
and the row it added is new with respect to the rows before them. -/
theorem persist_rows {v : ValidatedJob rt} {answer : Answer} {rows : List MessageRow}
    {s s₁ s₂ s' : WorkerSystem rt} (h : Reached hash rooms users members s)
    (before : Others hash s s₁)
    (hcommit : Step (engine hash) (program rt) s₁ (.committed (.persist v) answer) s₂)
    (adds : s₂.db.messages = s₁.db.messages ++ rows) (after : Others hash s₂ s') :
    Stored s'.db v.job ∧
      (rows = [] ∨ ∃ row, rows = [row] ∧ row ∈ s'.db.messages ∧ NewRow s.db v.job row) := by
  have h₁ : Reached hash rooms users members s₁ := Others.trans h before
  have h₂ : Reached hash rooms users members s₂ := Others.trans h₁ (.of_step hcommit)
  have hgrows := h₂.grows after
  obtain ⟨hstored, hrows⟩ := persist_commit h₁ hcommit
  refine ⟨hstored.of_grows hgrows, ?_⟩
  rcases hrows with hsame | ⟨row, hadds, hnew⟩
  · left
    rw [adds] at hsame
    simpa using hsame
  · right
    rw [adds] at hadds
    obtain rfl := List.append_cancel_left hadds
    refine ⟨row, rfl, hgrows.messages ?_, hnew.of_grows (h.grows before)⟩
    rw [adds]
    simp

/-- A rollback with a `ValueError` among the steps of others: the reason is still there. -/
theorem persist_refused {v : ValidatedJob rt} {e : PyExc} {s s₁ s₂ s' : WorkerSystem rt}
    (h : Reached hash rooms users members s) (before : Others hash s s₁)
    (hrollback : Step (engine hash) (program rt) s₁ (.rolledBack (.persist v) (some e)) s₂)
    (after : Others hash s₂ s') (he : e.isValueError = true) : Refusal s'.db v.job := by
  have h₁ : Reached hash rooms users members s₁ := Others.trans h before
  obtain ⟨view, hdb, hrefused⟩ := h₁.good.rollback_reason hrollback
  have hrefusal : Refusal s₁.db v.job := hdb ▸ hrefused he
  exact hrefusal.of_grows (h₁.grows ((Others.of_step hrollback).trans after))

/-- A lost connection is no refusal. -/
theorem transient_refused {answer : Type} (name : String) {goal : Prop} (e : PyExc)
    (h : (.error (.transient name) : Except PyExc answer) = .error e)
    (he : e.isValueError = true) : goal := by
  cases h
  cases he

theorem Transacts.effect {v : ValidatedJob rt} {s s' : WorkerSystem rt}
    {outcome : Except PyExc Answer} {rows : List MessageRow}
    (h : Transacts hash (.persist v) s outcome rows s') (hs : Reached hash rooms users members s) :
    Effect s v.job outcome rows s' := by
  cases h with
  | committed before commit adds after =>
      obtain ⟨hstored, hrows⟩ := persist_rows hs before commit adds after
      exact ⟨fun _ _ => hstored, fun _ hfailed => (by cases hfailed), hrows⟩
  | unacknowledged before commit adds after name =>
      obtain ⟨-, hrows⟩ := persist_rows hs before commit adds after
      exact ⟨fun _ hok => (by cases hok), transient_refused name, hrows⟩
  | rolledBack before rollback after =>
      refine ⟨fun _ hok => (by cases hok), fun e hfailed he => ?_, Or.inl rfl⟩
      cases hfailed
      exact persist_refused hs before rollback after he
  | unavailable others name =>
      exact ⟨fun _ hok => (by cases hok), transient_refused name, Or.inl rfl⟩

theorem Transacts.status_rows {request_id : PyStr} {payload : Dict} {s s' : WorkerSystem rt}
    {outcome : Except PyExc Answer} {rows : List MessageRow}
    (h : Transacts hash (.status request_id payload) s outcome rows s')
    (hs : Reached hash rooms users members s) : rows = [] := by
  have hcommit : ∀ {answer : Answer} {s₁ s₂ : WorkerSystem rt}, Others hash s s₁ →
      Step (engine hash) (program rt) s₁ (.committed (.status request_id payload) answer) s₂ →
      s₂.db.messages = s₁.db.messages ++ rows → rows = [] := by
    intro answer s₁ s₂ before commit adds
    have hsame := status_commit (Others.trans hs before) commit
    rw [adds] at hsame
    simpa using hsame
  cases h with
  | committed before commit adds after => exact hcommit before commit adds
  | unacknowledged before commit adds after name => exact hcommit before commit adds
  | rolledBack before rollback after => rfl
  | unavailable others name => rfl

/-- Every operation leaves a system the workers reach: it is answered by a transaction among
others, or by no transaction at all. -/
theorem SystemAnswers.others {s s' : WorkerSystem rt} {rows : List MessageRow} {op : IngressOp}
    {r : op.Res} (h : SystemAnswers hash s s' rows op r) : Others hash s s' := by
  cases op with
  | persistIngressJob job =>
      obtain ⟨v, -, outcome, htransacts, -⟩ := h
      exact htransacts.others
  | storeRequestStatus request_id payload =>
      obtain ⟨outcome, htransacts, -⟩ := h
      exact htransacts.others
  | _ => exact h.1

/-- An operation that is no `persist_ingress_job` adds no message. -/
theorem SystemAnswers.rows_eq_nil {s s' : WorkerSystem rt} {rows : List MessageRow}
    {op : IngressOp} {r : op.Res} (h : SystemAnswers hash s s' rows op r)
    (hs : Reached hash rooms users members s) (hop : ∀ job, op ≠ .persistIngressJob job) :
    rows = [] := by
  cases op with
  | persistIngressJob job => exact absurd rfl (hop job)
  | storeRequestStatus request_id payload =>
      obtain ⟨outcome, htransacts, -⟩ := h
      exact htransacts.status_rows hs
  | _ => exact h.2

end Database

/-! ### The handler

The handler of a record asks for its own job only, or a retry of it, and under the key of its
stream. That is read off its program (`asks_handleIngressRecord`); what it has done when it
returns is read off a run. -/

section HandlerRuns

variable {rt : Runtime} {settings : IngressSettings}

theorem IsRetry.refl (n : IngressJob) : IsRetry n n := rfl

theorem IsRetry.retried {n job : IngressJob} (h : IsRetry n job) (next_retry_at : PyFloat) :
    IsRetry n (job.retried next_retry_at) := by
  rw [IsRetry, h]
  rfl

theorem IsRetry.room_id {n job : IngressJob} (h : IsRetry n job) : job.room_id = n.room_id := by
  rw [h]

theorem IsRetry.stored {n job : IngressJob} (h : IsRetry n job) {t : Tables} :
    Stored t job ↔ Stored t n := by
  rw [h]
  rfl

theorem IsRetry.symm {n job : IngressJob} (h : IsRetry n job) : IsRetry job n := by
  rw [h]
  rfl

theorem IsRetry.trans {n n' job : IngressJob} (h : IsRetry n job) (h' : IsRetry job n') :
    IsRetry n n' := by
  rw [IsRetry, h', h]

/-- What validation has found out about a job holds of its retries. -/
theorem IsRetry.valid {n job : IngressJob} (h : IsRetry n job) (hn : n.Valid rt) :
    job.Valid rt := by
  rw [h]
  exact ⟨hn.request_id, hn.route_length, hn.route, hn.room_id, hn.user_id, hn.schema_version,
    hn.event, hn.body, hn.room_seq, hn.idem_key, hn.replay_count, hn.queued_at, hn.replayed_at,
    hn.payment_id⟩

/-- The persist transaction of a retry is that of the job: the event is read from fields that a
retry does not touch. -/
theorem IsRetry.persistIngressJob {n job : IngressJob} (h : IsRetry n job) (hn : n.Valid rt) :
    Worker.persistIngressJob job = Worker.persistIngressJob n := by
  have hevent : eventEnvelope job.toDict = eventEnvelope n.toDict := by
    rw [eventEnvelope_toDict (h.valid hn), eventEnvelope_toDict hn, h]
  have hhit : idempotencyHit job = idempotencyHit n := by
    rw [h]
    rfl
  have hown : ownDuplicate job = ownDuplicate n := by
    funext room_seq
    rw [h]
    refine congrArg (Prog.op _) (funext fun duplicate => ?_)
    cases duplicate with
    | none => rfl
    | some duplicate => rfl
  have hsequence : sequenceEvent job = sequenceEvent n := by
    funext event_type payload metadata
    unfold sequenceEvent
    rw [hown, h]
    rfl
  have hrequest : persistRequest job = persistRequest n := by
    funext event_type payload metadata
    unfold persistRequest
    rw [hsequence, h]
    refine congrArg (Prog.op _) (funext fun existing => ?_)
    cases existing with
    | none => rfl
    | some existing => rfl
  have hrecord : recordPersisted job = recordPersisted n := by
    rw [h]
    rfl
  unfold Worker.persistIngressJob persistMessageWithCursor
  rw [hevent, hhit, hrequest, hrecord]

/-- A reason to refuse a job does not look at its retries. -/
theorem IsRetry.refusal {n job : IngressJob} (h : IsRetry n job) {t : Tables}
    (hrefusal : Refusal t job) : Refusal t n := by
  rw [h] at hrefusal
  cases hrefusal with
  | unsendable text htext hclean => exact .unsendable text htext hclean
  | streamNotFound h => exact .streamNotFound h
  | actorNotFound h => exact .actorNotFound h
  | membershipMissing h => exact .membershipMissing h
  | requestIdentityConflict m hm hid hother => exact .requestIdentityConflict m hm hid hother
  | sequenceTaken seq hseq hle hother => exact .sequenceTaken seq hseq hle hother
  | statusOwner owner howned hother => exact .statusOwner owner howned hother
  | storedForm h => exact .storedForm h

theorem IsRetry.eventRow {n job : IngressJob} (h : IsRetry n job) {row : MessageRow}
    (hrow : EventRow job row) : EventRow n row := by
  rw [h] at hrow
  exact ⟨hrow.row_eq, hrow.asked⟩

/-- The key of a record is the text of a stream id. -/
def Keyed (m : ConsumerRecord KafkaValue) (room_id : Nat) : Prop :=
  ∃ key, m.key = some key ∧ utf8Decode key = some (natStr room_id)

/-- What the handler of a record may ask for: retries of its own job, under the key of its
stream, and nothing of the consumer. -/
def Asks (rt : Runtime) (m : ConsumerRecord KafkaValue) : IngressOp → Prop
  | .persistIngressJob job => ∃ n, (readIngress rt m.value).2 = .ok n ∧ Keyed m n.room_id ∧
      IsRetry n job
  | .commit _ _ => False
  | .seek _ _ => False
  | _ => True

variable {m : ConsumerRecord KafkaValue}

theorem asks_updateRequestStatus (request_id : PyStr) (payload : Dict) :
    Only (Asks rt m) (updateRequestStatus request_id payload) :=
  Only.call_bind trivial fun _ => trivial

theorem asks_publishDlqJob (key : Nat) (payload : Dict) :
    Only (Asks rt m) (publishDlqJob key payload) :=
  Only.call_bind trivial fun sent => Only.ofExcept sent

theorem asks_awaitNextRetry (job : IngressJob) : Only (Asks rt m) (awaitNextRetry job) := by
  unfold awaitNextRetry
  split
  · trivial
  · refine Only.call_bind trivial fun now => ?_
    split
    · exact Only.call_bind trivial fun _ => ⟨trivial, fun _ => trivial⟩
    · trivial

theorem asks_markInlineRetry (job : IngressJob) :
    Only (Asks rt m) (markInlineRetry settings job) := by
  unfold markInlineRetry
  refine Only.call_bind trivial fun now => ?_
  dsimp only
  split
  · exact (asks_updateRequestStatus _ _).bind fun _ => trivial
  · trivial

theorem asks_giveUp (job : IngressJob) (reason : PyStr) :
    Only (Asks rt m) (giveUp job reason) := by
  unfold giveUp moveToDlq
  refine Only.bind (Only.call_bind trivial fun now => ?_) fun _ => trivial
  exact (asks_publishDlqJob _ _).bind fun _ => asks_updateRequestStatus _ _

theorem asks_moveInvalid (raw : KafkaValue) (reason : PyStr) :
    Only (Asks rt m) (moveInvalidIngressToDlq rt raw reason) := by
  have hrequest : Only (Asks rt m) (invalidRequestId (raw.asDict.getD [])) := by
    unfold invalidRequestId
    split
    · trivial
    · exact Only.call_bind trivial fun _ => trivial
  unfold moveInvalidIngressToDlq
  refine hrequest.bind fun request_id => Only.call_bind trivial fun now => ?_
  refine (asks_publishDlqJob _ _).bind fun _ => ?_
  split
  · exact asks_updateRequestStatus _ _
  · trivial

theorem asks_persistPass {n job : IngressJob} (hread : (readIngress rt m.value).2 = .ok n)
    (hkey : Keyed m n.room_id) (hjob : IsRetry n job)
    {again : Again settings job}
    (hagain : ∀ next hlt, IsRetry n next → Only (Asks rt m) (again next hlt)) :
    Only (Asks rt m) (persistPass settings job again) := by
  have hretry : ∀ reason, Only (Asks rt m) (retryOrGiveUp settings job reason again) := by
    intro reason
    unfold retryOrGiveUp
    split
    · exact asks_giveUp job reason
    · exact (asks_markInlineRetry job).bind fun marked =>
        Only.call_bind trivial fun _ => hagain _ _ (hjob.retried marked.1)
  have hreject : ∀ reason, Only (Asks rt m) (rejectJob job reason) := fun reason =>
    (asks_updateRequestStatus _ _).bind fun _ => trivial
  unfold persistPass
  refine (asks_awaitNextRetry job).bind fun _ => ?_
  refine Only.call_bind ⟨n, hread, hkey, hjob⟩ fun response => ?_
  cases response with
  | ok _ => trivial
  | error e =>
      dsimp only
      cases persistFailure e with
      | unauthorized => exact hreject _
      | invalid message => exact hreject _
      | badData name => exact asks_giveUp _ _
      | sequenceGap => exact hretry _
      | transient name => exact hretry _
      | uncaught e => trivial

theorem asks_persistLoop {n job : IngressJob} (hread : (readIngress rt m.value).2 = .ok n)
    (hkey : Keyed m n.room_id) (hjob : IsRetry n job) :
    Only (Asks rt m) (persistLoop settings job) := by
  induction job using persistLoop.induct settings with
  | case1 job ih =>
      rw [persistLoop]
      exact asks_persistPass hread hkey hjob fun next hlt hnext => ih next hlt hnext

/-- The key the handler compares. -/
theorem keyed_of_matches {room_id : Nat}
    (h : KafkaKey.matches room_id (match m.key with
      | none => .null
      | some key => .bytes key) = true) : Keyed m room_id := by
  cases hkey : m.key with
  | none => simp [hkey, KafkaKey.matches] at h
  | some key => exact ⟨key, hkey, by simpa [hkey, KafkaKey.matches] using h⟩

/-- An event under the key of its stream goes into the loop. -/
theorem handleIngressRecord_accepted {n : IngressJob} (hread : (readIngress rt m.value).2 = .ok n)
    (hkeyed : Keyed m n.room_id) :
    handleIngressRecord rt settings m = persistLoop settings n := by
  obtain ⟨key, hkey, hroom⟩ := hkeyed
  have hmatches : (KafkaKey.bytes key).matches n.room_id = true := decide_eq_true hroom
  unfold handleIngressRecord handleIngressJob
  rw [hkey]
  split
  · rename_i reason h
    rw [h] at hread
    cases hread
  · rename_i job h
    rw [h] at hread
    cases hread
    exact if_pos hmatches

theorem asks_handleIngressRecord : Only (Asks rt m) (handleIngressRecord rt settings m) := by
  unfold handleIngressRecord handleIngressJob
  split
  · exact (asks_moveInvalid _ _).bind fun _ => trivial
  · rename_i raw job hread
    split_ifs with hkey
    · exact asks_persistLoop (by rw [hread]) (keyed_of_matches hkey) (.refl job)
    · exact (asks_moveInvalid _ _).bind fun _ => trivial

/-- The jobs the handler persists are validated, as the answers of the database suppose, for
the values the deserializer gives. -/
theorem readIngress_validated {bytes : Option Bytes} {n : IngressJob}
    (hread : (readIngress rt (deserializeJson rt bytes)).2 = .ok n) :
    ∃ v : ValidatedJob rt, v.job = n := by
  have hobject : ∀ {d : Dict}, Json.Unique (.obj d) →
      (validateIngressObject rt d).2.mapError PyExc.message = .ok n →
      ∃ v : ValidatedJob rt, v.job = n := by
    intro d hunique hjob
    cases hverdict : (validateIngressObject rt d).2 with
    | error e => simp [hverdict, Except.mapError] at hjob
    | ok job =>
        obtain rfl : job = n := by simpa [hverdict, Except.mapError] using hjob
        exact ⟨⟨job, d, hunique, hverdict⟩, rfl⟩
  cases hvalue : deserializeJson rt bytes with
  | invalid marker => simp [hvalue, readIngress] at hread
  | json v =>
      have hunique := (deserializeJson_json hvalue).2.2
      rw [hvalue] at hread
      -- an object, or a text that is one once it is decoded
      cases v with
      | obj d =>
          simp only [readIngress] at hread
          split_ifs at hread
          exact hobject hunique hread
      | str text =>
          simp only [readIngress] at hread
          split at hread
          · cases hread
          · rename_i decoded hdecoded
            split_ifs at hread
            cases decoded with
            | obj d => exact hobject (loads_unique hdecoded) hread
            | _ => cases hread
      | _ => cases hread

/-- What a handler that returns has asked for. -/
inductive Settled (rt : Runtime) (m : ConsumerRecord KafkaValue) (log : IngressLog) : Prop
  | persisted (n job : IngressJob) (hread : (readIngress rt m.value).2 = .ok n)
      (hjob : IsRetry n job) (response : Dict)
      (hasked : (⟨.persistIngressJob job, .ok response⟩ : Event _ _) ∈ log)
  | refused (n job : IngressJob) (hread : (readIngress rt m.value).2 = .ok n)
      (hjob : IsRetry n job) (e : PyExc)
      (hasked : (⟨.persistIngressJob job, .error e⟩ : Event _ _) ∈ log)
      (hrefused : e.isValueError = true)
  | deadLetter (n job : IngressJob) (hread : (readIngress rt m.value).2 = .ok n)
      (hjob : IsRetry n job) (reason failed_at : PyStr)
      (hasked : (⟨.publishDlqJob n.room_id (job.deadLettered reason failed_at).toDict, .ok ()⟩ :
        Event _ _) ∈ log)
  | unread (reason : PyStr) (hread : (readIngress rt m.value).2 = .error reason)
      (kept : InvalidIngress)
      (hasked : (⟨.publishDlqJob kept.room_id
        (invalidIngressPayload rt (readIngress rt m.value).1 kept), .ok ()⟩ : Event _ _) ∈ log)
  | misplaced (n : IngressJob) (hread : (readIngress rt m.value).2 = .ok n) (kept : InvalidIngress)
      (hasked : (⟨.publishDlqJob kept.room_id
        (invalidIngressPayload rt (.json (.obj n.toDict)) kept), .ok ()⟩ : Event _ _) ∈ log)

variable {log : IngressLog} {outcome : IngressOutcome}

theorem Settled.mono {log' : IngressLog} (h : Settled rt m log) (hsub : log ⊆ log') :
    Settled rt m log' := by
  cases h with
  | persisted n job hread hjob response hasked =>
      exact .persisted n job hread hjob response (hsub hasked)
  | refused n job hread hjob e hasked hrefused =>
      exact .refused n job hread hjob e (hsub hasked) hrefused
  | deadLetter n job hread hjob reason failed_at hasked =>
      exact .deadLetter n job hread hjob reason failed_at (hsub hasked)
  | unread reason hread kept hasked => exact .unread reason hread kept (hsub hasked)
  | misplaced n hread kept hasked => exact .misplaced n hread kept (hsub hasked)

/-- A publication that returns is acknowledged. -/
theorem publishDlqJob_returns {key : Nat} {payload : Dict}
    (h : Runs (publishDlqJob key payload) log (.ok ())) :
    (⟨.publishDlqJob key payload, .ok ()⟩ : Event _ _) ∈ log := by
  obtain ⟨sent, rest, rfl, hsent⟩ := Runs.call_cases h
  cases sent with
  | ok done => exact List.mem_cons_self
  | error e => cases hsent

theorem giveUp_returns {job : IngressJob} {reason : PyStr}
    (h : Runs (giveUp job reason) log (.ok outcome)) :
    ∃ failed_at, (⟨.publishDlqJob job.room_id (job.deadLettered reason failed_at).toDict, .ok ()⟩ :
      Event _ _) ∈ log := by
  unfold giveUp moveToDlq at h
  obtain ⟨e, he, -⟩ | ⟨_, before, after, hmove, -, rfl⟩ := Runs.bind_cases h
  · cases he
  obtain ⟨now, rest, rfl, hrest⟩ := Runs.call_cases hmove
  obtain ⟨e, he, -⟩ | ⟨_, published, stored, hpublish, -, rfl⟩ := Runs.bind_cases hrest
  · cases he
  exact ⟨Clock.nowIso now, by simp [publishDlqJob_returns hpublish]⟩

theorem moveInvalid_returns {raw : KafkaValue} {reason : PyStr}
    (h : Runs (moveInvalidIngressToDlq rt raw reason) log (.ok ())) :
    ∃ kept : InvalidIngress, (⟨.publishDlqJob kept.room_id (invalidIngressPayload rt raw kept),
      .ok ()⟩ : Event _ _) ∈ log := by
  unfold moveInvalidIngressToDlq at h
  obtain ⟨e, he, -⟩ | ⟨request_id, before, after, -, hafter, rfl⟩ := Runs.bind_cases h
  · cases he
  obtain ⟨now, rest, rfl, hrest⟩ := Runs.call_cases hafter
  obtain ⟨e, he, -⟩ | ⟨_, published, stored, hpublish, -, rfl⟩ := Runs.bind_cases hrest
  · cases he
  have hasked := publishDlqJob_returns hpublish
  exact ⟨_, List.mem_append_right _ (List.mem_cons_of_mem _ (List.mem_append_left _ hasked))⟩

/-- What the handler rejects is a `ValueError`. -/
theorem isValueError_of_persistFailure {e : PyExc} (h : persistFailure e = .unauthorized ∨
    ∃ message, persistFailure e = .invalid message) : e.isValueError = true := by
  cases e with
  | ingressAuthorizationError reason => rfl
  | _ =>
      simp only [persistFailure] at h
      first | rfl | simp [PyExc.isValueError] at h

/-- One pass of the loop that returns. -/
theorem persistPass_returns {n job : IngressJob} (hread : (readIngress rt m.value).2 = .ok n)
    (hjob : IsRetry n job) {again : Again settings job}
    (h : Runs (persistPass settings job again) log (.ok outcome))
    (hagain : ∀ next hlt log', IsRetry n next → Runs (again next hlt) log' (.ok outcome) →
      Settled rt m log') : Settled rt m log := by
  have hgiveUp : ∀ {log : IngressLog} {reason},
      Runs (giveUp job reason) log (.ok outcome) → Settled rt m log := by
    intro log reason hrun
    obtain ⟨failed_at, hasked⟩ := giveUp_returns hrun
    rw [hjob.room_id] at hasked
    exact .deadLetter n job hread hjob reason failed_at hasked
  have hretry : ∀ {log : IngressLog} {reason},
      Runs (retryOrGiveUp settings job reason again) log (.ok outcome) → Settled rt m log := by
    intro log reason hrun
    unfold retryOrGiveUp at hrun
    split at hrun
    · exact hgiveUp hrun
    · obtain ⟨e, he, -⟩ | ⟨marked, before, rest, -, hpause, rfl⟩ := Runs.bind_cases hrun
      · cases he
      obtain ⟨_, rest, rfl, hnext⟩ := Runs.call_cases hpause
      refine (hagain _ _ rest (hjob.retried marked.1) hnext).mono ?_
      exact List.subset_append_of_subset_right _ (List.subset_cons_self _ _)
  unfold persistPass at h
  obtain ⟨e, he, -⟩ | ⟨_, before, rest, -, hrest, rfl⟩ := Runs.bind_cases h
  · cases he
  obtain ⟨response, after, rfl, hafter⟩ := Runs.call_cases hrest
  have hsub : after ⊆ before ++ ⟨.persistIngressJob job, response⟩ :: after :=
    List.subset_append_of_subset_right _ (List.subset_cons_self _ _)
  have hasked : (⟨.persistIngressJob job, response⟩ : Event IngressOp IngressOp.Res) ∈
      before ++ ⟨.persistIngressJob job, response⟩ :: after := by simp
  -- the answer of the database says how the record was settled
  cases response with
  | ok response => exact .persisted n job hread hjob response hasked
  | error e =>
      dsimp only at hafter
      cases hcaught : persistFailure e with
      | unauthorized =>
          exact .refused n job hread hjob e hasked (isValueError_of_persistFailure (by simp [hcaught]))
      | invalid message =>
          exact .refused n job hread hjob e hasked (isValueError_of_persistFailure (by simp [hcaught]))
      | badData name =>
          rw [hcaught] at hafter
          exact (hgiveUp hafter).mono hsub
      | sequenceGap =>
          rw [hcaught] at hafter
          exact (hretry hafter).mono hsub
      | transient name =>
          rw [hcaught] at hafter
          exact (hretry hafter).mono hsub
      | uncaught e' =>
          rw [hcaught] at hafter
          cases hafter

theorem persistLoop_returns {n job : IngressJob} (hread : (readIngress rt m.value).2 = .ok n)
    (hjob : IsRetry n job) (h : Runs (persistLoop settings job) log (.ok outcome)) :
    Settled rt m log := by
  induction job using persistLoop.induct settings generalizing log with
  | case1 job ih =>
      rw [persistLoop] at h
      exact persistPass_returns hread hjob h fun next hlt log' hnext hrun => ih next hlt hnext hrun

/-- **A handler that returns** has a response or a `ValueError` of the transaction, or an
acknowledged dead letter. -/
theorem handleIngressRecord_returns
    (h : Runs (handleIngressRecord rt settings m) log (.ok outcome)) : Settled rt m log := by
  unfold handleIngressRecord handleIngressJob at h
  have hmoved : ∀ {raw reason}, Runs (moveInvalidIngressToDlq rt raw reason >>= fun _ =>
      .ret IngressOutcome.dlq) log (.ok outcome) → ∃ kept : InvalidIngress,
      (⟨.publishDlqJob kept.room_id (invalidIngressPayload rt raw kept), .ok ()⟩ :
        Event _ _) ∈ log := by
    intro raw reason hrun
    obtain ⟨e, he, -⟩ | ⟨_, before, after, hmove, -, rfl⟩ := Runs.bind_cases hrun
    · cases he
    obtain ⟨kept, hasked⟩ := moveInvalid_returns hmove
    exact ⟨kept, List.mem_append_left _ hasked⟩
  split at h
  · rename_i raw reason hread
    obtain ⟨kept, hasked⟩ := hmoved h
    exact .unread reason (by rw [hread]) kept (by rwa [hread])
  · rename_i raw job hread
    split_ifs at h
    · exact persistLoop_returns (by rw [hread]) (.refl job) h
    · obtain ⟨kept, hasked⟩ := hmoved h
      exact .misplaced job (by rw [hread]) kept hasked

end HandlerRuns

end IngressProcess

end EventPipeline.Guarantees
