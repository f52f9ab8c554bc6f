import EventPipeline.Postgres.Statements

/-!
# EventPipeline.Postgres.Locking

The locking discipline of the statements: which locks a row change is under, and
what a lock keeps as it is while somebody else commits.

Every statement lemma reads `.exec … = .done …` backwards: what the answer was,
what was written and what was locked. `discipline` packs the locks, with an
invariant and an order of growth of the caller's choice, as a `Protocol`.
-/

namespace EventPipeline.Postgres

open EventPipeline.Python EventPipeline.Portfolio EventPipeline.Concurrency

/-- A transaction that has written nothing sees the committed rows. -/
theorem visible_nil {hash : PyStr → Int} {v : TxView} (hw : v.writes = []) :
    (engine hash).visible v = v.db := by
  rw [Engine.visible, hw, Engine.applyAll_nil]

/-! ### Answers read backwards

An answer of a statement says what it found and what it will write. There is one lemma for each
statement, and no proof about a transaction looks into the engine. -/

section Done

variable {R : Type} {env : StmtEnv} {r r' : R} {ws : List Write} {ls : List Lock} {x : Ext}

@[simp] theorem encoded_eq_done {ps : List PyStr} {reply : StmtReply R} :
    encoded ps reply = .done r ws ls x ↔ (∀ p ∈ ps, PyStr.Clean p) ∧ reply = .done r ws ls x := by
  unfold encoded
  split_ifs with h
  · exact ⟨fun h' => ⟨h, h'⟩, And.right⟩
  · simp [h]

@[simp] theorem jsonb_eq_done {vs : List Json} {reply : StmtReply R} :
    jsonb vs reply = .done r ws ls x ↔ (∀ v ∈ vs, Json.Sound v) ∧ reply = .done r ws ls x := by
  have h : vs.all jsonbAccepts = true ↔ ∀ v ∈ vs, Json.Sound v := by simp [jsonbAccepts_iff]
  unfold jsonb
  split_ifs with hv <;> simp [← h, hv]

@[simp] theorem awaiting_eq_done {locks : List Lock} {reply : StmtReply R} :
    awaiting env locks reply = .done r ws ls x ↔
      (∀ k ∈ locks, env.held k = false) ∧ reply = .done r ws ls x := by
  have hfree : (∀ k ∈ locks, env.held k = false) ↔ ¬∃ k ∈ locks, env.held k = true := by simp
  rw [hfree]
  unfold awaiting
  split_ifs with h <;> simp [h]

@[simp] theorem answer_eq_done :
    answer env r' = .done r ws ls x ↔ r = r' ∧ ws = [] ∧ ls = [] ∧ x = env.ext := by
  rw [answer, Reply.done.injEq]
  constructor
  · rintro ⟨rfl, rfl, rfl, rfl⟩
    exact ⟨rfl, rfl, rfl, rfl⟩
  · rintro ⟨rfl, rfl, rfl, rfl⟩
    exact ⟨rfl, rfl, rfl, rfl⟩

end Done

section Statements

variable {hash : PyStr → Int} {env : StmtEnv} {ws : List Write} {ls : List Lock} {x : Ext}

theorem exec_nowIso {r : PyStr} (h : (engine hash).exec .nowIso env = .done r ws ls x) :
    r = (DateTime.ofMicros env.now).isoformat ∧ ws = [] ∧ ls = [] ∧ x = env.ext :=
  answer_eq_done.mp h

theorem exec_advisoryXactLock {key : PyStr} {u : Unit}
    (h : (engine hash).exec (.advisoryXactLock key) env = .done u ws ls x) :
    ws = [] ∧ ls = [.advisory (hash key)] ∧ x = env.ext ∧
      env.held (.advisory (hash key)) = false := by
  simp only [engine, exec, awaiting_eq_done, Reply.done.injEq, List.mem_singleton, forall_eq] at h
  obtain ⟨hfree, -, rfl, rfl, rfl⟩ := h
  exact ⟨rfl, rfl, rfl, hfree⟩

theorem exec_selectIdempotencyKey {route idem_key : PyStr} {r : Option Json}
    (h : (engine hash).exec (.selectIdempotencyKey route idem_key) env = .done r ws ls x) :
    r = env.view.idempotency_keys (route, idem_key) ∧ ws = [] ∧ ls = [] ∧ x = env.ext :=
  answer_eq_done.mp (encoded_eq_done.mp h).2

theorem exec_upsertIdempotencyKey {route idem_key : PyStr} {v : Json} {u : Unit}
    (h : (engine hash).exec (.upsertIdempotencyKey route idem_key v) env = .done u ws ls x) :
    ws = [.putIdempotency (route, idem_key) v] ∧ ls = [.idempotency (route, idem_key)] ∧
      x = env.ext ∧ env.held (.idempotency (route, idem_key)) = false := by
  simp only [engine, exec, encoded_eq_done, jsonb_eq_done, awaiting_eq_done, Reply.done.injEq,
    List.mem_singleton, forall_eq] at h
  obtain ⟨-, -, hfree, -, rfl, rfl, rfl⟩ := h
  exact ⟨rfl, rfl, rfl, hfree⟩

theorem exec_selectMessageByRequestId {request_id : PyStr} {r : Option MessageRow}
    (h : (engine hash).exec (.selectMessageByRequestId request_id) env = .done r ws ls x) :
    r = env.view.messageByRequestId request_id ∧ ws = [] ∧ ls = [] ∧ x = env.ext :=
  answer_eq_done.mp (encoded_eq_done.mp h).2

theorem exec_selectAuthorization {room_id user_id : Nat} {r : Authorization}
    (h : (engine hash).exec (.selectAuthorization room_id user_id) env = .done r ws ls x) :
    r = ⟨env.view.rooms room_id, env.view.users user_id, env.view.room_members room_id user_id⟩ ∧
      ws = [] ∧ ls = [] ∧ x = env.ext :=
  answer_eq_done.mp h

theorem exec_selectMessageBySeq {room_id room_seq : Nat} {r : Option MessageRow}
    (h : (engine hash).exec (.selectMessageBySeq room_id room_seq) env = .done r ws ls x) :
    r = env.view.messageBySeq room_id room_seq ∧ ws = [] ∧ ls = [] ∧ x = env.ext :=
  answer_eq_done.mp h

theorem exec_selectRequestStatus {request_id : PyStr} {r : Option Json}
    (h : (engine hash).exec (.selectRequestStatus request_id) env = .done r ws ls x) :
    r = (env.view.request_statuses request_id).map (·.status_json) ∧ ws = [] ∧ ls = [] ∧
      x = env.ext :=
  answer_eq_done.mp (encoded_eq_done.mp h).2

theorem exec_bumpRoomSequence {room_id n : Nat}
    (h : (engine hash).exec (.bumpRoomSequence room_id) env = .done n ws ls x) :
    n = env.view.lastSeq room_id + 1 ∧ n ≤ maxPostgresBigint ∧
      ws = [.putSequence room_id n] ∧ ls = [.sequence room_id] ∧ x = env.ext ∧
      env.held (.sequence room_id) = false := by
  simp only [engine, exec, execBumpRoomSequence, awaiting_eq_done, List.mem_singleton, forall_eq] at h
  obtain ⟨hfree, h⟩ := h
  split_ifs at h with hroom hmax
  simp only [Reply.done.injEq] at h
  obtain ⟨rfl, rfl, rfl, rfl⟩ := h
  exact ⟨rfl, by omega, rfl, rfl, rfl, hfree⟩

theorem exec_insertMessage {m : NewMessage} {row : MessageRow}
    (h : (engine hash).exec (.insertMessage m) env = .done row ws ls x) :
    row = m.toRow env.ext.nextId (DateTime.ofMicros env.startedAt).isoformat ∧
      row.id ≤ maxPostgresBigint ∧ m.checked = true ∧ row.conflicts env.view = false ∧
      (∀ p ∈ m.texts, PyStr.Clean p) ∧
      ws = [.insertMessage row] ∧ ls = row.locks ∧
      x = { env.ext with nextId := env.ext.nextId + 1 } ∧ ∀ k ∈ row.locks, env.held k = false := by
  simp only [engine, exec, execInsertMessage, encoded_eq_done, awaiting_eq_done] at h
  obtain ⟨hclean, hfree, h⟩ := h
  split_ifs at h with hid hchecked hfk hconflict
  simp only [Reply.done.injEq] at h
  obtain ⟨rfl, rfl, rfl, rfl⟩ := h
  exact ⟨rfl, Nat.le_of_not_lt hid, by simpa using hchecked, by simpa using hconflict, hclean, rfl,
    rfl, rfl, hfree⟩

theorem exec_upsertRequestStatus {request_id : PyStr} {owner_id : Nat} {status : Json} {b : Bool}
    (h : (engine hash).exec (.upsertRequestStatus request_id owner_id status) env = .done b ws ls x) :
    ls = [.status request_id] ∧ x = env.ext ∧ env.held (.status request_id) = false ∧
      request_id.Clean ∧
      ((b = true ∧ ws = [.putStatus request_id ⟨some owner_id, status⟩] ∧
          ∀ row, env.view.request_statuses request_id = some row →
            row.user_id = none ∨ row.user_id = some owner_id) ∨
        (b = false ∧ ws = [] ∧ ∃ row owner, env.view.request_statuses request_id = some row ∧
          row.user_id = some owner ∧ owner ≠ owner_id)) := by
  simp only [engine, exec, execUpsertRequestStatus, encoded_eq_done, awaiting_eq_done,
    List.mem_singleton, forall_eq] at h
  obtain ⟨hclean, hfree, h⟩ := h
  split at h
  · rename_i owner old hold
    split_ifs at h with howner <;> simp only [Reply.done.injEq] at h <;>
      obtain ⟨rfl, rfl, rfl, rfl⟩ := h
    · refine ⟨rfl, rfl, hfree, hclean, Or.inl ⟨rfl, rfl, fun row hrow => ?_⟩⟩
      obtain rfl : _ = row := Option.some.inj (hold.symm.trans hrow)
      exact Or.inr (by rw [howner])
    · exact ⟨rfl, rfl, hfree, hclean, Or.inr ⟨rfl, rfl, _, owner, hold, rfl, howner⟩⟩
  · rename_i hother
    simp only [Reply.done.injEq] at h
    obtain ⟨rfl, rfl, rfl, rfl⟩ := h
    refine ⟨rfl, rfl, hfree, hclean, Or.inl ⟨rfl, rfl, fun row hrow => Or.inl ?_⟩⟩
    obtain ⟨owner, old⟩ := row
    cases owner with
    | none => rfl
    | some owner => exact absurd hrow (hother owner old)

theorem exec_insertOutbox {message_id room_id : Nat} {payload : Dict} {u : Unit}
    (h : (engine hash).exec (.insertOutbox message_id room_id payload) env = .done u ws ls x) :
    x = env.ext ∧ env.held (.outbox message_id) = false ∧
      ((env.view.outboxRow message_id ≠ none ∧ ws = [] ∧ ls = []) ∨
        (env.view.outboxRow message_id = none ∧ ls = [.outbox message_id] ∧
          ws = [.insertOutbox ⟨message_id, room_id, payload, env.now, 0, none, none⟩])) := by
  simp only [engine, exec, execInsertOutbox, jsonb_eq_done, awaiting_eq_done, List.mem_singleton,
    forall_eq] at h
  obtain ⟨-, hfree, h⟩ := h
  split_ifs at h with hrow hfk
  · simp only [answer_eq_done] at h
    obtain ⟨-, rfl, rfl, rfl⟩ := h
    exact ⟨rfl, hfree, Or.inl ⟨hrow, rfl, rfl⟩⟩
  · simp only [Reply.done.injEq] at h
    obtain ⟨-, rfl, rfl, rfl⟩ := h
    exact ⟨rfl, hfree, Or.inr ⟨not_not.mp hrow, rfl, rfl⟩⟩

theorem firstRow_mem {rows : List OutboxRow} {o : OutboxRow} (h : firstRow rows = some o) :
    o ∈ rows := by
  induction rows with
  | nil => simp [firstRow] at h
  | cons a rest ih =>
      rw [firstRow] at h
      split at h
      · simp only [Option.some.injEq] at h
        simp [h]
      · rename_i p hp
        split_ifs at h <;> obtain rfl := Option.some.inj h
        · simp
        · exact List.mem_cons_of_mem _ (ih hp)

theorem firstRow_eq_none {rows : List OutboxRow} : firstRow rows = none ↔ rows = [] := by
  cases rows with
  | nil => simp [firstRow]
  | cons a rest =>
      rw [firstRow]
      split
      · simp
      · split_ifs <;> simp

theorem exec_selectPendingOutbox {r : Option OutboxRow}
    (h : (engine hash).exec .selectPendingOutbox env = .done r ws ls x) :
    ws = [] ∧ x = env.ext ∧
      ((r = none ∧ ls = [] ∧ ∀ o ∈ env.view.notification_outbox, pending env o = false) ∨
        ∃ o, r = some o ∧ ls = [.outbox o.message_id] ∧ o ∈ env.view.notification_outbox ∧
          pending env o = true) := by
  simp only [engine, exec, execSelectPendingOutbox] at h
  split at h
  · rename_i hnone
    rw [firstRow_eq_none, List.filter_eq_nil_iff] at hnone
    simp only [answer_eq_done] at h
    obtain ⟨rfl, rfl, rfl, rfl⟩ := h
    exact ⟨rfl, rfl, Or.inl ⟨rfl, rfl, by simpa using hnone⟩⟩
  · rename_i o ho
    simp only [Reply.done.injEq] at h
    obtain ⟨rfl, rfl, rfl, rfl⟩ := h
    have := List.mem_filter.mp (firstRow_mem ho)
    exact ⟨rfl, rfl, Or.inr ⟨o, rfl, rfl, this.1, this.2⟩⟩

theorem exec_publishNotification {room_id : Nat} {payload : Dict} {r : Except PyExc Unit}
    (h : (engine hash).exec (.publishNotification room_id payload) env = .done r ws ls x) :
    ws = [] ∧ ls = [] ∧
      ((x = env.ext ∧ r ≠ .ok ()) ∨
        (x = env.ext.acknowledge room_id payload ∧ ∃ b, serializeJson (.obj payload) = .ok b)) := by
  simp only [engine, exec, execPublishNotification] at h
  split at h
  · simp only [answer_eq_done] at h
    obtain ⟨rfl, rfl, rfl, rfl⟩ := h
    exact ⟨rfl, rfl, Or.inl ⟨rfl, by simp⟩⟩
  · rename_i b hb _
    simp only [Reply.done.injEq] at h
    obtain ⟨rfl, rfl, rfl, rfl⟩ := h
    exact ⟨rfl, rfl, Or.inr ⟨rfl, b, hb⟩⟩
  · rename_i b e hb _
    simp only [Reply.done.injEq] at h
    obtain ⟨rfl, rfl, rfl, rfl⟩ := h
    refine ⟨rfl, rfl, ?_⟩
    split_ifs
    · exact Or.inr ⟨rfl, b, hb⟩
    · exact Or.inl ⟨rfl, by simp⟩

theorem exec_updateOutboxFailed (message_id : Nat) (last_error : String) (delay : Nat) :
    (engine hash).exec (.updateOutboxFailed message_id last_error delay) env =
      execUpdateOutbox message_id (.failed last_error delay env.now) env := rfl

theorem exec_updateOutboxPublished (message_id : Nat) :
    (engine hash).exec (.updateOutboxPublished message_id) env =
      execUpdateOutbox message_id (.published env.now) env := rfl

theorem execUpdateOutbox_done {message_id : Nat} {change : OutboxRow → OutboxRow} {u : Unit}
    (h : execUpdateOutbox message_id change env = .done u ws ls x) :
    x = env.ext ∧
      ((env.view.outboxRow message_id = none ∧ ws = [] ∧ ls = []) ∨
        ∃ o, env.view.outboxRow message_id = some o ∧ ws = [.putOutbox (change o)] ∧
          ls = [.outbox message_id] ∧ env.held (.outbox message_id) = false) := by
  unfold execUpdateOutbox at h
  split at h
  · rename_i hnone
    simp only [answer_eq_done] at h
    obtain ⟨-, rfl, rfl, rfl⟩ := h
    exact ⟨rfl, Or.inl ⟨hnone, rfl, rfl⟩⟩
  · rename_i o ho
    simp only [awaiting_eq_done, List.mem_singleton, forall_eq] at h
    obtain ⟨hfree, h⟩ := h
    split_ifs at h
    simp only [Reply.done.injEq] at h
    obtain ⟨-, rfl, rfl, rfl⟩ := h
    exact ⟨rfl, Or.inr ⟨o, ho, rfl, rfl, hfree⟩⟩

/-- The attempts a batch adds: one for each target that has none. -/
def freshAttempts (rows : List AttemptRow) (t : Tables) : List AttemptRow :=
  (batchTargets rows t).filter fun a => !hasAttempt t a.message_id

theorem execInsertAttempts_done {rows targets : List AttemptRow}
    (h : execInsertAttempts rows env = .done targets ws ls x) :
    x = env.ext ∧ targets = batchTargets rows env.view ∧
      ws = (freshAttempts rows env.view).map .insertAttempt ∧
      ls = (freshAttempts rows env.view).map (fun a => .attempt a.message_id) ∧
      ∀ a ∈ freshAttempts rows env.view, env.held (.attempt a.message_id) = false := by
  simp only [execInsertAttempts, jsonb_eq_done, awaiting_eq_done, Reply.done.injEq] at h
  obtain ⟨-, hfree, rfl, rfl, rfl, rfl⟩ := h
  refine ⟨rfl, rfl, rfl, rfl, fun a ha => hfree _ (List.mem_map_of_mem ?_)⟩
  exact (List.mem_filter.mp ha).1

theorem mapReply_eq_done {R R' : Type} {f : R → R'} {reply : StmtReply R} {r : R'} :
    mapReply R' f reply = .done r ws ls x ↔ ∃ r₀, reply = .done r₀ ws ls x ∧ r = f r₀ := by
  cases reply with
  | blocked => simp [mapReply]
  | failed e => simp [mapReply]
  | done r₀ ws' ls' x' =>
      simp only [mapReply, Reply.done.injEq]
      constructor
      · rintro ⟨rfl, rfl, rfl, rfl⟩
        exact ⟨r₀, ⟨rfl, rfl, rfl, rfl⟩, rfl⟩
      · rintro ⟨_, ⟨rfl, rfl, rfl, rfl⟩, rfl⟩
        exact ⟨rfl, rfl, rfl, rfl⟩

theorem exec_insertReplayClaim {route idem_key value : PyStr} {b : Bool}
    (h : (engine hash).exec (.insertReplayClaim route idem_key value) env = .done b ws ls x) :
    x = env.ext ∧
      ((b = false ∧ ws = [] ∧ ls = [] ∧
          ∃ row, env.view.intake_idempotency_keys (route, idem_key) = some row) ∨
        (b = true ∧ env.view.intake_idempotency_keys (route, idem_key) = none ∧
          ws = [.putIntake (route, idem_key) (some ⟨value, env.startedAt⟩)] ∧
          ls = [.intakeRow (route, idem_key), .intakeEntry (route, idem_key)] ∧
          ∀ k ∈ ls, env.held k = false)) := by
  simp only [engine, exec, execInsertReplayClaim, encoded_eq_done, awaiting_eq_done,
    List.mem_singleton, forall_eq] at h
  obtain ⟨-, hentry, h⟩ := h
  split at h
  · rename_i row hrow
    simp only [answer_eq_done] at h
    obtain ⟨rfl, rfl, rfl, rfl⟩ := h
    exact ⟨rfl, Or.inl ⟨rfl, rfl, rfl, row, hrow⟩⟩
  · rename_i hnone
    simp only [awaiting_eq_done, List.mem_singleton, forall_eq, Reply.done.injEq] at h
    obtain ⟨hrow, rfl, rfl, rfl, rfl⟩ := h
    exact ⟨rfl, Or.inr ⟨rfl, hnone, rfl, rfl, by simp [hrow, hentry]⟩⟩

theorem exec_selectReplayClaimForUpdate {route idem_key : PyStr} {r : Option PyStr}
    (h : (engine hash).exec (.selectReplayClaimForUpdate route idem_key) env = .done r ws ls x) :
    ws = [] ∧ x = env.ext ∧
      ((r = none ∧ ls = [] ∧ env.view.intake_idempotency_keys (route, idem_key) = none) ∨
        ∃ row, r = some row.request_id ∧ ls = [.intakeRow (route, idem_key)] ∧
          env.view.intake_idempotency_keys (route, idem_key) = some row ∧
          env.held (.intakeRow (route, idem_key)) = false) := by
  simp only [engine, exec, encoded_eq_done] at h
  obtain ⟨-, h⟩ := h
  split at h
  · rename_i hnone
    simp only [answer_eq_done] at h
    obtain ⟨rfl, rfl, rfl, rfl⟩ := h
    exact ⟨rfl, rfl, Or.inl ⟨rfl, rfl, hnone⟩⟩
  · rename_i row hrow
    simp only [awaiting_eq_done, List.mem_singleton, forall_eq, Reply.done.injEq] at h
    obtain ⟨hfree, rfl, rfl, rfl, rfl⟩ := h
    exact ⟨rfl, rfl, Or.inr ⟨row, rfl, rfl, hrow, hfree⟩⟩

theorem execChangeReplayClaim_done {R : Type} {key : IdempotencyKey} {cond : IntakeRow → Bool}
    {row : Option IntakeRow} {changed unchanged r : R}
    (h : execChangeReplayClaim key cond row changed unchanged env = .done r ws ls x) :
    x = env.ext ∧
      ((r = unchanged ∧ ws = [] ∧ ls = [] ∧
          ∀ old, env.view.intake_idempotency_keys key = some old → cond old = false) ∨
        (r = changed ∧ ws = [.putIntake key row] ∧ ls = [.intakeRow key, .intakeEntry key] ∧
          (∀ k ∈ ls, env.held k = false) ∧
          ∃ old, env.view.intake_idempotency_keys key = some old ∧ cond old = true)) := by
  unfold execChangeReplayClaim at h
  split at h
  · rename_i hnone
    simp only [answer_eq_done] at h
    obtain ⟨rfl, rfl, rfl, rfl⟩ := h
    exact ⟨rfl, Or.inl ⟨rfl, rfl, rfl, by simp [hnone]⟩⟩
  · rename_i old hold
    split_ifs at h with hcond
    · simp only [awaiting_eq_done, Reply.done.injEq] at h
      obtain ⟨hfree, rfl, rfl, rfl, rfl⟩ := h
      exact ⟨rfl, Or.inr ⟨rfl, rfl, rfl, hfree, old, hold, hcond⟩⟩
    · simp only [answer_eq_done] at h
      obtain ⟨rfl, rfl, rfl, rfl⟩ := h
      refine ⟨rfl, Or.inl ⟨rfl, rfl, rfl, fun old' hold' => ?_⟩⟩
      obtain rfl : old = old' := Option.some.inj (hold.symm.trans hold')
      simpa using hcond

/-! ### Refusals

A statement can fail in many ways, but with a `ValueError` only where the client cannot send a
text of it. `exec_valueError` says so of every statement. -/

/-- The text parameters of a statement. -/
def Stmt.texts : Stmt → List PyStr
  | .selectIdempotencyKey route idem_key | .insertIdempotencyKey route idem_key _
  | .upsertIdempotencyKey route idem_key _ | .selectReplayClaimForUpdate route idem_key =>
      [route, idem_key]
  | .selectMessageByRequestId request_id | .upsertRequestStatus request_id _ _
  | .selectRequestStatus request_id => [request_id]
  | .insertMessage message => message.texts
  | .insertReplayClaim route idem_key claim_value
  | .updateExpiredReplayClaim route idem_key claim_value
  | .deleteReplayClaim route idem_key claim_value => [route, idem_key, claim_value]
  | .updateReplayClaimPublished route idem_key published claim_value =>
      [route, idem_key, published, claim_value]
  | _ => []

/-- A reply that raises a `ValueError` only for one of the texts. -/
def RaisesFor {R : Type} (texts : List PyStr) (reply : StmtReply R) : Prop :=
  ∀ e, reply = .failed e → e.isValueError = true → ∃ text ∈ texts, ¬text.Clean

section RaisesFor

variable {R : Type} {texts : List PyStr} {reply reply' : StmtReply R}

theorem raisesFor_done {r : R} : RaisesFor texts (.done r ws ls x) := by
  intro e h
  cases h

theorem raisesFor_answer {r : R} : RaisesFor texts (answer env r) := raisesFor_done

theorem raisesFor_failed {e : PyExc} (he : e.isValueError = false) :
    RaisesFor texts (.failed e : StmtReply R) := by
  intro e' h he'
  cases h
  simp [he] at he'

theorem raisesFor_awaiting {locks : List Lock} (h : RaisesFor texts reply) :
    RaisesFor texts (awaiting env locks reply) := by
  intro e hfailed
  unfold awaiting at hfailed
  split_ifs at hfailed
  exact h e hfailed

theorem raisesFor_jsonb {values : List Json} (h : RaisesFor texts reply) :
    RaisesFor texts (jsonb values reply) := by
  unfold jsonb
  split_ifs
  · exact h
  · exact raisesFor_failed rfl

theorem raisesFor_encoded (h : RaisesFor texts reply) : RaisesFor texts (encoded texts reply) := by
  intro e hfailed he
  unfold encoded at hfailed
  split_ifs at hfailed with hclean
  · exact h e hfailed he
  · simpa using hclean

theorem raisesFor_ite {c : Prop} [Decidable c] (h : RaisesFor texts reply)
    (h' : RaisesFor texts reply') : RaisesFor texts (if c then reply else reply') := by
  split_ifs
  · exact h
  · exact h'

theorem raisesFor_mapReply {R' : Type} {f : R → R'} (h : RaisesFor texts reply) :
    RaisesFor texts (mapReply R' f reply) := by
  intro e hfailed he
  cases reply with
  | blocked => cases hfailed
  | failed e' =>
      cases hfailed
      exact h e rfl he
  | done r ws ls x => cases hfailed

theorem raisesFor_updateOutbox {message_id : Nat} {change : OutboxRow → OutboxRow} :
    RaisesFor texts (execUpdateOutbox message_id change env) := by
  unfold execUpdateOutbox
  split
  · exact raisesFor_answer
  · exact raisesFor_awaiting (raisesFor_ite (raisesFor_failed rfl) raisesFor_done)

theorem raisesFor_insertAttempts {rows : List AttemptRow} :
    RaisesFor texts (execInsertAttempts rows env) :=
  raisesFor_jsonb (raisesFor_awaiting raisesFor_done)

theorem raisesFor_changeReplayClaim {key : IdempotencyKey} {cond : IntakeRow → Bool}
    {row : Option IntakeRow} {changed unchanged : R} :
    RaisesFor texts (execChangeReplayClaim key cond row changed unchanged env) := by
  unfold execChangeReplayClaim
  split
  · exact raisesFor_answer
  · exact raisesFor_ite (raisesFor_awaiting raisesFor_done) raisesFor_answer

end RaisesFor

/-- **A statement raises a `ValueError` only for a text** that the client cannot send. -/
theorem exec_valueError {s : Stmt} {e : PyExc} (h : (engine hash).exec s env = .failed e)
    (he : e.isValueError = true) : ∃ text ∈ s.texts, ¬text.Clean := by
  -- the reply is built from checks: only `encoded` raises for a text of the statement
  have hreply : RaisesFor s.texts ((engine hash).exec s env) := by
    cases s with
    | nowIso | selectAuthorization | selectMessageBySeq => exact raisesFor_answer
    | advisoryXactLock => exact raisesFor_awaiting raisesFor_done
    | selectIdempotencyKey | selectMessageByRequestId | selectRequestStatus =>
        exact raisesFor_encoded raisesFor_answer
    | insertIdempotencyKey =>
        exact raisesFor_encoded (raisesFor_jsonb (raisesFor_awaiting
          (raisesFor_ite raisesFor_done raisesFor_answer)))
    | upsertIdempotencyKey =>
        exact raisesFor_encoded (raisesFor_jsonb (raisesFor_awaiting raisesFor_done))
    | bumpRoomSequence =>
        exact raisesFor_awaiting (raisesFor_ite (raisesFor_failed rfl)
          (raisesFor_ite (raisesFor_failed rfl) raisesFor_done))
    | insertMessage =>
        exact raisesFor_encoded (raisesFor_awaiting (raisesFor_ite (raisesFor_failed rfl)
          (raisesFor_ite (raisesFor_failed rfl) (raisesFor_ite (raisesFor_failed rfl)
            (raisesFor_ite (raisesFor_failed rfl) raisesFor_done)))))
    | upsertRequestStatus =>
        refine raisesFor_encoded (raisesFor_awaiting ?_)
        split
        · exact raisesFor_ite raisesFor_done raisesFor_done
        · exact raisesFor_done
    | insertOutbox =>
        exact raisesFor_jsonb (raisesFor_awaiting (raisesFor_ite raisesFor_answer
          (raisesFor_ite (raisesFor_failed rfl) raisesFor_done)))
    | selectPendingOutbox =>
        simp only [engine, exec, execSelectPendingOutbox]
        split
        · exact raisesFor_answer
        · exact raisesFor_done
    | publishNotification =>
        simp only [engine, exec, execPublishNotification]
        split
        · exact raisesFor_answer
        · exact raisesFor_done
        · exact raisesFor_done
    | updateOutboxFailed | updateOutboxPublished => exact raisesFor_updateOutbox
    | insertNotificationAttempt | insertNotificationAttemptBatch =>
        exact raisesFor_mapReply raisesFor_insertAttempts
    | insertReplayClaim =>
        refine raisesFor_encoded (raisesFor_awaiting ?_)
        split
        · exact raisesFor_answer
        · exact raisesFor_awaiting raisesFor_done
    | selectReplayClaimForUpdate =>
        refine raisesFor_encoded ?_
        split
        · exact raisesFor_answer
        · exact raisesFor_awaiting raisesFor_done
    | updateExpiredReplayClaim | updateReplayClaimPublished | deleteReplayClaim =>
        exact raisesFor_encoded raisesFor_changeReplayClaim
  exact hreply e h he

end Statements

/-! ### What every statement keeps

Ids that were drawn and records that were acknowledged are outside the transaction. A rollback
does not take them back, and no statement does. -/

/-- The state outside transactions only grows. -/
structure Ext.Le (x x' : Ext) : Prop where
  nextId : x.nextId ≤ x'.nextId
  acknowledged : x.acknowledged ⊆ x'.acknowledged

theorem Ext.Le.refl (x : Ext) : x.Le x := ⟨le_refl _, fun _ h => h⟩

theorem Ext.Le.trans {x y z : Ext} (h : x.Le y) (h' : y.Le z) : x.Le z :=
  ⟨h.nextId.trans h'.nextId, fun _ ha => h'.acknowledged (h.acknowledged ha)⟩

theorem Ext.le_acknowledge (x : Ext) (room_id : Nat) (payload : Dict) :
    x.Le (x.acknowledge room_id payload) :=
  ⟨le_refl _, fun _ h => List.mem_append_left _ h⟩

/-- What a statement may do to it: only a publish adds to the acknowledged records. -/
structure Ext.Step (s : Stmt) (x x' : Ext) : Prop extends Ext.Le x x' where
  only : ∀ p ∈ x'.acknowledged, p ∈ x.acknowledged ∨ s = .publishNotification p.1 p.2

theorem Ext.Step.refl (s : Stmt) (x : Ext) : Ext.Step s x x := ⟨Ext.Le.refl x, fun _ => Or.inl⟩

/-- A statement takes only locks nobody else holds, and never undoes what is outside
its transaction. -/
theorem exec_done {hash : PyStr → Int} {env : StmtEnv} {s : Stmt} {r : s.Res} {ws : List Write}
    {ls : List Lock} {x : Ext} (h : (engine hash).exec s env = .done r ws ls x) :
    (∀ k ∈ ls, env.held k = false) ∧ Ext.Step s env.ext x := by
  -- what a statement locks was free; only a new id and a publication outlive a rollback
  cases s with
  | bumpRoomSequence room_id =>
      obtain ⟨-, -, -, rfl, rfl, hfree⟩ := exec_bumpRoomSequence h
      exact ⟨by simpa using hfree, Ext.Step.refl _ _⟩
  | insertMessage m =>
      obtain ⟨-, -, -, -, -, -, rfl, rfl, hfree⟩ := exec_insertMessage h
      exact ⟨hfree, ⟨Nat.le_succ _, fun _ h => h⟩, fun _ => Or.inl⟩
  | upsertRequestStatus request_id owner_id status =>
      obtain ⟨rfl, rfl, hfree, -⟩ := exec_upsertRequestStatus h
      exact ⟨by simpa using hfree, Ext.Step.refl _ _⟩
  | insertOutbox message_id room_id payload =>
      obtain ⟨rfl, hfree, ⟨-, -, rfl⟩ | ⟨-, rfl, -⟩⟩ := exec_insertOutbox h
      · exact ⟨by simp, Ext.Step.refl _ _⟩
      · exact ⟨by simpa using hfree, Ext.Step.refl _ _⟩
  | selectPendingOutbox =>
      obtain ⟨-, rfl, ⟨-, rfl, -⟩ | ⟨o, -, rfl, -, hpending⟩⟩ := exec_selectPendingOutbox h
      · exact ⟨by simp, Ext.Step.refl _ _⟩
      · simp only [pending, Bool.and_eq_true, Bool.not_eq_true'] at hpending
        exact ⟨by simpa using hpending.2, Ext.Step.refl _ _⟩
  | publishNotification room_id payload =>
      obtain ⟨-, rfl, ⟨rfl, -⟩ | ⟨rfl, -⟩⟩ := exec_publishNotification h
      · exact ⟨by simp, Ext.Step.refl _ _⟩
      · refine ⟨by simp, env.ext.le_acknowledge room_id payload, fun p hp => ?_⟩
        rcases List.mem_append.mp hp with hp | hp
        · exact Or.inl hp
        · obtain rfl := List.mem_singleton.mp hp
          exact Or.inr rfl
  | updateOutboxFailed message_id last_error delay =>
      obtain ⟨rfl, ⟨-, -, rfl⟩ | ⟨o, -, -, rfl, hfree⟩⟩ := execUpdateOutbox_done h
      · exact ⟨by simp, Ext.Step.refl _ _⟩
      · exact ⟨by simpa using hfree, Ext.Step.refl _ _⟩
  | updateOutboxPublished message_id =>
      obtain ⟨rfl, ⟨-, -, rfl⟩ | ⟨o, -, -, rfl, hfree⟩⟩ := execUpdateOutbox_done h
      · exact ⟨by simp, Ext.Step.refl _ _⟩
      · exact ⟨by simpa using hfree, Ext.Step.refl _ _⟩
  | insertNotificationAttempt event_id stream_id payload =>
      obtain ⟨targets, h, -⟩ := mapReply_eq_done.mp h
      obtain ⟨rfl, -, -, rfl, hfree⟩ := execInsertAttempts_done h
      exact ⟨by simpa using hfree, Ext.Step.refl _ _⟩
  | insertNotificationAttemptBatch rows =>
      obtain ⟨targets, h, -⟩ := mapReply_eq_done.mp h
      obtain ⟨rfl, -, -, rfl, hfree⟩ := execInsertAttempts_done h
      exact ⟨by simpa using hfree, Ext.Step.refl _ _⟩
  | insertReplayClaim route idem_key value =>
      obtain ⟨rfl, ⟨-, -, rfl, -⟩ | ⟨-, -, -, -, hfree⟩⟩ := exec_insertReplayClaim h
      · exact ⟨by simp, Ext.Step.refl _ _⟩
      · exact ⟨hfree, Ext.Step.refl _ _⟩
  | updateExpiredReplayClaim route idem_key value =>
      obtain ⟨-, h⟩ := encoded_eq_done.mp h
      obtain ⟨rfl, ⟨-, -, rfl, -⟩ | ⟨-, -, -, hfree, -⟩⟩ := execChangeReplayClaim_done h
      · exact ⟨by simp, Ext.Step.refl _ _⟩
      · exact ⟨hfree, Ext.Step.refl _ _⟩
  | updateReplayClaimPublished route idem_key published value =>
      obtain ⟨-, h⟩ := encoded_eq_done.mp h
      obtain ⟨rfl, ⟨-, -, rfl, -⟩ | ⟨-, -, -, hfree, -⟩⟩ := execChangeReplayClaim_done h
      · exact ⟨by simp, Ext.Step.refl _ _⟩
      · exact ⟨hfree, Ext.Step.refl _ _⟩
  | deleteReplayClaim route idem_key value =>
      obtain ⟨-, h⟩ := encoded_eq_done.mp h
      obtain ⟨rfl, ⟨-, -, rfl, -⟩ | ⟨-, -, -, hfree, -⟩⟩ := execChangeReplayClaim_done h
      · exact ⟨by simp, Ext.Step.refl _ _⟩
      · exact ⟨hfree, Ext.Step.refl _ _⟩
  | selectReplayClaimForUpdate route idem_key =>
      obtain ⟨-, rfl, ⟨-, rfl, -⟩ | ⟨row, -, rfl, -, hfree⟩⟩ := exec_selectReplayClaimForUpdate h
      · exact ⟨by simp, Ext.Step.refl _ _⟩
      · exact ⟨by simpa using hfree, Ext.Step.refl _ _⟩
  | advisoryXactLock key =>
      obtain ⟨-, rfl, rfl, hfree⟩ := exec_advisoryXactLock h
      exact ⟨by simpa using hfree, Ext.Step.refl _ _⟩
  | insertIdempotencyKey route idem_key v =>
      simp only [engine, exec, encoded_eq_done, jsonb_eq_done, awaiting_eq_done] at h
      obtain ⟨-, -, hfree, h⟩ := h
      split_ifs at h
      · simp only [Reply.done.injEq] at h
        obtain ⟨-, -, rfl, rfl⟩ := h
        exact ⟨hfree, Ext.Step.refl _ _⟩
      · simp only [answer_eq_done] at h
        obtain ⟨-, -, rfl, rfl⟩ := h
        exact ⟨by simp, Ext.Step.refl _ _⟩
  | upsertIdempotencyKey route idem_key v =>
      obtain ⟨-, rfl, rfl, hfree⟩ := exec_upsertIdempotencyKey h
      exact ⟨by simpa using hfree, Ext.Step.refl _ _⟩
  | nowIso | selectAuthorization | selectMessageBySeq =>
      simp only [engine, exec, answer_eq_done] at h
      obtain ⟨-, -, rfl, rfl⟩ := h
      exact ⟨by simp, Ext.Step.refl _ _⟩
  | selectIdempotencyKey | selectMessageByRequestId | selectRequestStatus =>
      simp only [engine, exec, encoded_eq_done, answer_eq_done] at h
      obtain ⟨-, -, -, rfl, rfl⟩ := h
      exact ⟨by simp, Ext.Step.refl _ _⟩

/-! ### The discipline

A lock stands for the rows that nobody else changes while it is held. Each row change is under the
locks of its row, most of which the statement takes itself. -/

/-- The locks a row change is under. An idempotency row is under the advisory lock of
its key, `advisory key`, by the program and not by the statement. -/
def Write.keys (advisory : IdempotencyKey → Int) : Write → List Lock
  | .putSequence room_id _ => [.sequence room_id]
  | .insertMessage row => .sequence row.room_id :: row.locks
  | .putIdempotency key _ => [.advisory (advisory key), .idempotency key]
  | .putStatus request_id _ => [.status request_id]
  | .insertOutbox row => [.outbox row.message_id]
  | .putOutbox row => [.outbox row.message_id]
  | .insertAttempt row => [.attempt row.message_id]
  | .putIntake key _ => [.intakeRow key, .intakeEntry key]

/-- What stays as it is while somebody else holds the lock. -/
def Lock.Same (advisory : IdempotencyKey → Int) : Lock → Tables → Tables → Prop
  | .advisory h, t, t' => ∀ key, advisory key = h → t.idempotency_keys key = t'.idempotency_keys key
  | .sequence room_id, t, t' =>
      t.room_sequences room_id = t'.room_sequences room_id ∧
        (t.messages.filter fun m => m.room_id = room_id)
          = t'.messages.filter fun m => m.room_id = room_id
  | .message id, t, t' =>
      (t.messages.filter fun m => m.id = id) = t'.messages.filter fun m => m.id = id
  | .request request_id, t, t' =>
      (t.messages.filter fun m => m.request_id = request_id)
        = t'.messages.filter fun m => m.request_id = request_id
  | .slot room_id room_seq, t, t' =>
      (t.messages.filter fun m => m.room_id = room_id ∧ m.room_seq = room_seq)
        = t'.messages.filter fun m => m.room_id = room_id ∧ m.room_seq = room_seq
  | .idempotency key, t, t' => t.idempotency_keys key = t'.idempotency_keys key
  | .status request_id, t, t' => t.request_statuses request_id = t'.request_statuses request_id
  | .outbox id, t, t' =>
      (t.notification_outbox.filter fun o => o.message_id = id)
        = t'.notification_outbox.filter fun o => o.message_id = id
  | .attempt id, t, t' =>
      (t.notification_attempts.filter fun a => a.message_id = id)
        = t'.notification_attempts.filter fun a => a.message_id = id
  | .intakeRow key, t, t' | .intakeEntry key, t, t' =>
      t.intake_idempotency_keys key = t'.intake_idempotency_keys key

variable {advisory : IdempotencyKey → Int}

theorem Lock.Same.refl (k : Lock) (t : Tables) : k.Same advisory t t := by
  cases k <;> simp [Lock.Same]

theorem Lock.Same.trans {k : Lock} {a b c : Tables} (h : k.Same advisory a b)
    (h' : k.Same advisory b c) : k.Same advisory a c := by
  cases k with
  | advisory x => exact fun key hkey => (h key hkey).trans (h' key hkey)
  | sequence room_id => exact ⟨h.1.trans h'.1, h.2.trans h'.2⟩
  | _ => exact Eq.trans h h'

theorem filter_putOutbox {rows : List OutboxRow} {row : OutboxRow} {id : Nat}
    (h : id ≠ row.message_id) :
    ((rows.map fun o => if o.message_id = row.message_id then row else o).filter
      fun o => o.message_id = id) = rows.filter fun o => o.message_id = id := by
  induction rows with
  | nil => rfl
  | cons o rows ih =>
      by_cases ho : o.message_id = row.message_id
      · have hne : ¬o.message_id = id := fun hid => h (hid.symm.trans ho)
        simp only [List.map_cons, ho, if_true, List.filter_cons, h.symm, decide_false, ih]
        rfl
      · simp only [List.map_cons, ho, if_false, List.filter_cons, ih]

/-- A row change leaves everything alone that is under other locks. -/
theorem Write.same_apply (k : Lock) (w : Write) (t : Tables) (h : k ∉ w.keys advisory) :
    k.Same advisory t (w.apply t) := by
  cases w with
  | putSequence room_id n =>
      cases k <;> simp_all [Lock.Same, Write.apply, Write.keys]
  | insertMessage row =>
      cases k <;>
        simp only [Lock.Same, Write.apply, Write.keys, MessageRow.locks, List.filter_append,
          List.mem_cons, List.not_mem_nil, or_false, not_or] at h ⊢ <;>
        grind
  | putIdempotency key v =>
      -- the advisory lock of a key stands for all keys with its hash
      cases k with
      | advisory x =>
          intro key' hkey'
          have hne : key' ≠ key := by
            rintro rfl
            simp [Write.keys, hkey'] at h
          simp [Write.apply, hne]
      | _ => simp_all [Lock.Same, Write.apply, Write.keys]
  | putStatus request_id row =>
      cases k <;> simp_all [Lock.Same, Write.apply, Write.keys]
  | insertOutbox row =>
      cases k <;>
        simp only [Lock.Same, Write.apply, Write.keys, List.filter_append, List.mem_singleton]
          at h ⊢ <;>
        grind
  | putOutbox row =>
      cases k with
      -- the row of another message
      | outbox id =>
          have hne : id ≠ row.message_id := by simpa [Write.keys] using h
          exact (filter_putOutbox hne).symm
      | _ => simp [Lock.Same, Write.apply]
  | insertAttempt row =>
      cases k <;>
        simp only [Lock.Same, Write.apply, Write.keys, List.filter_append, List.mem_singleton]
          at h ⊢ <;>
        grind
  | putIntake key row =>
      cases k <;> simp_all [Lock.Same, Write.apply, Write.keys]

/-- The locking discipline with an invariant and an order of growth that survive what
happens outside transactions. -/
def discipline (hash : PyStr → Int) (advisory : IdempotencyKey → Int) (Asks : Stmt → Tables → Prop)
    (Inv : Tables → Ext → Prop) (Grows : Tables → Ext → Tables → Ext → Prop)
    (inv_step : ∀ s t x x', Ext.Step s x x' → Asks s t → Inv t x → Inv t x')
    (inv_drift : ∀ t x x', x.nextId ≤ x'.nextId → x'.acknowledged = x.acknowledged →
      Inv t x → Inv t x')
    (grows_ext : ∀ t x x', x.Le x' → Grows t x t x')
    (grows_trans : ∀ a x b y c z, Grows a x b y → Grows b y c z → Grows a x c z) :
    Protocol (engine hash) where
  keys := Write.keys advisory
  Asks := Asks
  Same := Lock.Same advisory
  Inv := Inv
  Grows := Grows
  same_refl := Lock.Same.refl
  same_trans _ _ _ _ := Lock.Same.trans
  grows_refl t x := grows_ext t x x (Ext.Le.refl x)
  grows_trans := grows_trans
  same_apply := Write.same_apply
  exec_free _ _ _ _ _ _ h := (exec_done h).1
  exec_ext s env _ _ _ x t h hasks hinv :=
    have hstep := (exec_done h).2
    ⟨inv_step s t env.ext x hstep hasks hinv, grows_ext t env.ext x hstep.toLe⟩
  drift_ext x x' t h hinv :=
    ⟨inv_drift t x x' h.1 h.2 hinv, grows_ext t x x' ⟨h.1, fun _ ha => h.2 ▸ ha⟩⟩

end EventPipeline.Postgres
