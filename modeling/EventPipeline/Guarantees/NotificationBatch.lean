import EventPipeline.Worker.Notifications
import EventPipeline.Worker.System

/-!
# EventPipeline.Guarantees.NotificationBatch

A batch of notification records stored in one statement is the batch stored record by record.

Both programs run against the same database and the same broker, without transient errors.
Record by record, the effect is a fold (`runAgainst_countedRecords`); in one statement, it is
a set of targets and the rows of it that are new (`serve_insertAttemptBatch`). The two agree
on the pairs of message and room they leave, since the id of a message has one room.
-/

namespace EventPipeline.Guarantees

open EventPipeline.Python EventPipeline.Portfolio EventPipeline.Postgres EventPipeline.Worker
open EventPipeline.Worker.Notifications EventPipeline.Concurrency
open EventPipeline.Concurrency.Prog

namespace NotificationBatch

variable {hash : PyStr → Int} {now : Nat} {choice : Choice} {rt : Runtime}

/-! ### One statement

Nobody else is at the database. The statement then does not wait, and the whole transaction is a
function of the rows: what it answers, and which rows it adds. -/

/-- PostgreSQL takes the payload as `jsonb`. -/
def accepted (payload : NotificationPayload) : Bool := jsonbAccepts (.obj payload.toDict)

/-- The message of a payload exists. -/
def targeted (t : Tables) (payload : NotificationPayload) : Bool :=
  hasTarget t payload.event_id payload.stream_id

/-- The rows of a batch that are new. -/
def freshRows (rows : List AttemptRow) (t : Tables) : List AttemptRow :=
  (batchTargets rows t).filter fun a => !hasAttempt t a.message_id

/-- The rows after a batch was stored. -/
def withAttempts (t : Tables) (rows : List AttemptRow) : Tables :=
  { t with notification_attempts := t.notification_attempts ++ rows }

/-- The statement, where nobody else holds a lock: it does not wait, so it inserts the rows that
are new, or fails because JSONB does not take one of the payloads. -/
theorem execInsertAttempts_alone {rows : List AttemptRow} {env : StmtEnv}
    (halone : ∀ lock, env.held lock = false) :
    execInsertAttempts rows env =
      if rows.all fun a => jsonbAccepts (.obj a.payload) then
        .done (batchTargets rows env.view) ((freshRows rows env.view).map .insertAttempt)
          ((freshRows rows env.view).map fun a => .attempt a.message_id) env.ext
      else .failed (.dataError "UntranslatableCharacter") := by
  have hwait : ¬ ∃ lock ∈ (batchTargets rows env.view).map fun a => Lock.attempt a.message_id,
      env.held lock = true := by
    rintro ⟨lock, -, hheld⟩
    rw [halone] at hheld
    cases hheld
  unfold execInsertAttempts jsonb awaiting
  dsimp only
  rw [if_neg hwait, List.all_map]
  rfl

/-- What the first statement of a transaction answers, as the engine is asked for it. -/
theorem exec_begin {s : Stmt} {w : NotificationWorld} {reply : StmtReply s.Res}
    (h : exec hash s ⟨w.tables, w.ext, fun _ => false, now, now, choice⟩ = reply) :
    (engine hash).exec s ⟨(engine hash).visible (Engine.begin w.tables w.ext now),
      (Engine.begin w.tables w.ext now : View _ _ Write Lock).ext, fun _ => false,
      (Engine.begin w.tables w.ext now : View _ _ Write Lock).startedAt, now, choice⟩
      = reply :=
  h

/-- The statement of a transaction raises. -/
theorem transact_failed {α : Type} {s : Stmt} {f : s.Res → Transaction α} {w : NotificationWorld}
    {e : PyExc}
    (h : exec hash s ⟨w.tables, w.ext, fun _ => false, now, now, choice⟩ = .failed e) :
    transact hash now choice (Prog.call s >>= f) w = (.error e, w) := by
  have hraised : (engine hash).atomically now choice (Prog.call s >>= f)
      (Engine.begin w.tables w.ext now) = .raised e := by
    rw [Prog.call_bind, Engine.atomically_op, exec_begin h]
  unfold transact
  rw [hraised]

/-- The statement of a transaction answers, and the transaction ends. -/
theorem transact_done {α : Type} {s : Stmt} {f : s.Res → Transaction α} {w : NotificationWorld}
    {r : s.Res} {rows : List AttemptRow} {locks : List Lock} {a : α}
    (h : exec hash s ⟨w.tables, w.ext, fun _ => false, now, now, choice⟩ =
      .done r (rows.map .insertAttempt) locks w.ext) (hf : f r = .ret a) :
    transact hash now choice (Prog.call s >>= f) w =
      (.ok a, { w with tables := withAttempts w.tables rows }) := by
  have hcommitted : (engine hash).atomically now choice (Prog.call s >>= f)
      (Engine.begin w.tables w.ext now) = .committed a
        (Engine.extend (Engine.begin w.tables w.ext now) (rows.map .insertAttempt) locks w.ext) := by
    rw [Prog.call_bind, Engine.atomically_op, exec_begin h]
    dsimp only
    rw [hf]
    rfl
  unfold transact
  rw [hcommitted]
  simp only [Engine.extend, Engine.begin, List.nil_append, applyAll_insertAttempts, withAttempts]

/-- The statement of a transaction answers, and the transaction raises. -/
theorem transact_throws {α : Type} {s : Stmt} {f : s.Res → Transaction α} {w : NotificationWorld}
    {r : s.Res} {writes : List Write} {locks : List Lock} {e : PyExc}
    (h : exec hash s ⟨w.tables, w.ext, fun _ => false, now, now, choice⟩ =
      .done r writes locks w.ext) (hf : f r = .throw e) :
    transact hash now choice (Prog.call s >>= f) w = (.error e, w) := by
  have hraised : (engine hash).atomically now choice (Prog.call s >>= f)
      (Engine.begin w.tables w.ext now) = .raised e := by
    rw [Prog.call_bind, Engine.atomically_op, exec_begin h]
    dsimp only
    rw [hf]
    rfl
  unfold transact
  rw [hraised]

theorem batchTargets_singleton (row : AttemptRow) (t : Tables) :
    batchTargets [row] t = if hasTarget t row.message_id row.room_id then [row] else [] := by
  unfold batchTargets
  rw [List.filter_singleton]
  cases hasTarget t row.message_id row.room_id <;> rfl

/-- What `store_attempt` does to the database: it adds the row of the payload, if it is new, for a
target that exists, and raises otherwise without any effect. -/
theorem serve_insertAttempt (payload : NotificationPayload) (w : NotificationWorld) :
    serve hash now choice (.insertAttempt payload) w =
      if accepted payload then
        if targeted w.tables payload then
          (.ok (), { w with tables := withAttempts w.tables (freshRows [payload.row] w.tables) })
        else (.error .notificationTargetMissing, w)
      else (.error (.dataError "UntranslatableCharacter"), w) := by
  have hexec := @execInsertAttempts_alone [payload.row]
    ⟨w.tables, w.ext, fun _ => false, now, now, choice⟩ (fun _ => rfl)
  -- the reply of one record is the list of its targets, turned into a yes or no
  have hreply : exec hash
      (.insertNotificationAttempt payload.event_id payload.stream_id payload.toDict)
      ⟨w.tables, w.ext, fun _ => false, now, now, choice⟩ =
      mapReply Bool (fun targets => targets ≠ [])
        (execInsertAttempts [payload.row] ⟨w.tables, w.ext, fun _ => false, now, now, choice⟩) := rfl
  rw [hexec] at hreply
  show transact hash now choice (insertNotificationAttempt payload) w = _
  -- JSONB refuses a text it cannot hold before the message is looked for
  cases haccepted : accepted payload with
  | false =>
      rw [if_neg (by simpa [accepted, NotificationPayload.row] using haccepted)] at hreply
      exact transact_failed hreply
  | true =>
      rw [if_pos (by simpa [accepted, NotificationPayload.row] using haccepted)] at hreply
      rw [batchTargets_singleton] at hreply
      -- no target: `store_attempt` raises, and the transaction is rolled back
      cases htarget : targeted w.tables payload with
      | false =>
          rw [if_neg (by simpa [targeted, NotificationPayload.row] using htarget)] at hreply
          exact transact_throws hreply rfl
      | true =>
          rw [if_pos (by simpa [targeted, NotificationPayload.row] using htarget)] at hreply
          exact transact_done hreply rfl

/-- What `store_attempt_batch` does to the database: one statement adds the new rows of the whole
batch, or, where one payload is refused, none. -/
theorem serve_insertAttemptBatch {payloads : List NotificationPayload} (hne : payloads ≠ [])
    (w : NotificationWorld) :
    serve hash now choice (.insertAttemptBatch payloads) w =
      if payloads.all accepted then
        (.ok ((batchTargets (payloads.map (·.row)) w.tables).map fun a =>
            (a.message_id, a.room_id)),
          { w with tables := withAttempts w.tables (freshRows (payloads.map (·.row)) w.tables) })
      else (.error (.dataError "UntranslatableCharacter"), w) := by
  have hexec := @execInsertAttempts_alone (payloads.map (·.row))
    ⟨w.tables, w.ext, fun _ => false, now, now, choice⟩ (fun _ => rfl)
  -- one statement for the whole batch, whose reply names the pairs it found
  have hreply : exec hash (.insertNotificationAttemptBatch (payloads.map (·.row)))
      ⟨w.tables, w.ext, fun _ => false, now, now, choice⟩ =
      mapReply (List (Nat × Nat)) (List.map fun a => (a.message_id, a.room_id))
        (execInsertAttempts (payloads.map (·.row))
          ⟨w.tables, w.ext, fun _ => false, now, now, choice⟩) := rfl
  rw [hexec, List.all_map] at hreply
  -- the empty batch would not reach the database
  have hcall : insertNotificationAttemptBatch payloads =
      (Prog.call (.insertNotificationAttemptBatch (payloads.map (·.row))) >>= fun r => .ret r :
        Transaction (List (Nat × Nat))) := by
    unfold insertNotificationAttemptBatch
    rw [if_neg (by simpa using hne)]
    rfl
  show transact hash now choice (insertNotificationAttemptBatch payloads) w = _
  rw [hcall]
  cases haccepted : payloads.all accepted with
  | false =>
      rw [if_neg (by simpa [accepted, NotificationPayload.row] using haccepted)] at hreply
      exact transact_failed hreply
  | true =>
      rw [if_pos (by simpa [accepted, NotificationPayload.row] using haccepted)] at hreply
      exact transact_done hreply rfl

/-! ### Record by record

The effect of a record on the rows, and what it is counted under, are functions of the payload and
the rows. The loop is a fold of them. -/

/-- What a record is counted under, by the rows of the database. -/
def resultOf (t : Tables) : Option NotificationPayload → NotificationResult
  | none => .rejected
  | some payload => if accepted payload ∧ targeted t payload then .success else .rejected

/-- The rows after a record. -/
def afterRecord (t : Tables) : Option NotificationPayload → Tables
  | none => t
  | some payload =>
      if accepted payload ∧ targeted t payload then withAttempts t (freshRows [payload.row] t)
      else t

theorem runAgainst_storeAttempt (payload : NotificationPayload) (w : NotificationWorld) :
    runAgainst (serve hash now choice) (storeAttempt payload) w =
      serve hash now choice (.insertAttempt payload) w := by
  unfold storeAttempt
  rw [Prog.call_bind, runAgainst_op, serve_insertAttempt]
  cases accepted payload with
  | false => rfl
  | true =>
      cases targeted w.tables payload with
      | false => rfl
      | true => rfl

theorem runAgainst_handleNotificationJob (raw : KafkaValue) (w : NotificationWorld) :
    runAgainst (serve hash now choice) (Notifications.handleNotificationJob rt raw) w =
      (.ok (resultOf w.tables (notificationRecord rt raw)),
        { w with tables := afterRecord w.tables (notificationRecord rt raw) }) := by
  unfold Notifications.handleNotificationJob
  cases notificationRecord rt raw with
  | none => rfl
  | some payload =>
      dsimp only
      rw [runAgainst_bind, runAgainst_attempt, runAgainst_storeAttempt, serve_insertAttempt]
      cases haccepted : accepted payload with
      | false => simp [resultOf, afterRecord, haccepted, isDataError]
      | true =>
          cases htarget : targeted w.tables payload with
          | false => simp [resultOf, afterRecord, htarget]
          | true => simp [resultOf, afterRecord, haccepted, htarget]

/-- The offset after a record. -/
def offsetAfter (message : NotificationRecord) : TopicPartition × Nat :=
  (message.topicPartition, message.offset + 1)

theorem runAgainst_commit (message : NotificationRecord) (w : NotificationWorld) :
    runAgainst (serve hash now choice) (commitProcessedRecord notificationConsumer message) w =
      (.ok (), { w with committed := w.committed ++ [offsetAfter message] }) :=
  rfl

/-- The handler of one record, and what it was counted under. -/
def countRecord (rt : Runtime) (message : NotificationRecord) :
    Notifying (NotificationRecord × NotificationResult) :=
  Notifications.handleNotificationJob rt message.value >>= fun result => return (message, result)

theorem runAgainst_settleRecord (message : NotificationRecord) (w : NotificationWorld) :
    runAgainst (serve hash now choice)
        (settleRecord notificationConsumer (countRecord rt) message) w =
      (.ok (some (message, resultOf w.tables (notificationRecord rt message.value))),
        { w with
          tables := afterRecord w.tables (notificationRecord rt message.value)
          committed := w.committed ++ [offsetAfter message] }) := by
  unfold settleRecord countRecord
  rw [runAgainst_bind, runAgainst_attempt, runAgainst_bind, runAgainst_bind,
    runAgainst_handleNotificationJob]
  dsimp only
  rw [pure_eq, runAgainst_ret]
  dsimp only
  rw [runAgainst_bind, runAgainst_commit]
  rfl

theorem afterRecord_messages (t : Tables) (payload : Option NotificationPayload) :
    (afterRecord t payload).messages = t.messages := by
  cases payload with
  | none => rfl
  | some payload =>
      simp only [afterRecord]
      split_ifs
      · rfl
      · rfl

/-- The message of a payload is looked up in a table nothing here writes. -/
theorem targeted_congr {t t' : Tables} (h : t'.messages = t.messages)
    (payload : NotificationPayload) : targeted t' payload = targeted t payload := by
  unfold targeted hasTarget
  rw [h]

theorem resultOf_congr {t t' : Tables} (h : t'.messages = t.messages)
    (payload : Option NotificationPayload) : resultOf t' payload = resultOf t payload := by
  cases payload with
  | none => rfl
  | some payload =>
      simp only [resultOf, targeted_congr h]

/-- The records of a batch, normalised. -/
def normalized (rt : Runtime) (messages : List NotificationRecord) :
    List (Option NotificationPayload) :=
  messages.map fun message => notificationRecord rt message.value

/-- What each record of a batch is counted under. -/
def results (rt : Runtime) (t : Tables) (messages : List NotificationRecord) :
    Notifications.Counted :=
  messages.map fun message => (message, resultOf t (notificationRecord rt message.value))

/-- The effect of the loop over the records, by induction on them: it changes the attempts only,
and what the result of a later record depends on are the messages. -/
theorem runAgainst_countedRecords (messages : List NotificationRecord)
    (total : Notifications.Counted) (w : NotificationWorld) :
    runAgainst (serve hash now choice)
        (processRecords notificationConsumer (countRecord rt)
          (fun total counted => total ++ [counted]) [] total messages) w =
      (.ok (total ++ results rt w.tables messages),
        { w with
          tables := (normalized rt messages).foldl afterRecord w.tables
          committed := w.committed ++ messages.map offsetAfter }) := by
  induction messages generalizing total w with
  | nil => simp [processRecords, results, normalized]
  | cons message messages ih =>
      rw [processRecords, if_neg List.not_mem_nil, runAgainst_bind, runAgainst_settleRecord]
      dsimp only
      rw [ih]
      have hresults : results rt (afterRecord w.tables (notificationRecord rt message.value))
          messages = results rt w.tables messages :=
        List.map_congr_left fun m _ => by rw [resultOf_congr (afterRecord_messages _ _)]
      rw [hresults]
      simp [results, normalized]

/-! ### In one statement -/

/-- The effect of the commits after a batch was stored. -/
theorem runAgainst_commitBatch (targets : List (Nat × Nat))
    (records : List (NotificationRecord × Option NotificationPayload))
    (total : Notifications.Counted) (w : NotificationWorld) :
    runAgainst (serve hash now choice) (commitBatch targets [] total records) w =
      (.ok (total ++ records.map fun record => (record.1, batchResult targets record.2)),
        { w with committed := w.committed ++ records.map fun record => offsetAfter record.1 }) := by
  induction records generalizing total w with
  | nil => simp [commitBatch]
  | cons record records ih =>
      obtain ⟨message, payload⟩ := record
      rw [commitBatch, if_neg List.not_mem_nil, runAgainst_bind, runAgainst_attempt,
        runAgainst_commit]
      dsimp only
      rw [ih]
      simp

/-! ### The pairs of message and room

The two programs store attempts in another order and under other ids. What they agree on is the
set of pairs of message and room, which is what the table says to its readers. -/

/-- The message and the room of an attempt. -/
def pairOf (row : AttemptRow) : Nat × Nat := (row.message_id, row.room_id)

/-- The pairs in `notification_attempts`. -/
def attemptPairs (t : Tables) : List (Nat × Nat) := t.notification_attempts.map pairOf

/-- The message of a pair has no attempt yet. -/
def unattempted (t : Tables) (payload : NotificationPayload) : Prop :=
  hasAttempt t payload.event_id = false

theorem mem_distinctTargets_pairs {rows : List AttemptRow} {pair : Nat × Nat} :
    pair ∈ (distinctTargets rows).map pairOf ↔ pair ∈ rows.map pairOf := by
  induction rows with
  | nil => rfl
  | cons row rows ih =>
      rw [distinctTargets, List.map_cons, List.map_cons, List.mem_cons, List.mem_cons, ← ih]
      constructor
      · rintro (rfl | hmem)
        · exact .inl rfl
        · obtain ⟨other, hother, rfl⟩ := List.mem_map.mp hmem
          exact .inr (List.mem_map_of_mem (List.mem_filter.mp hother).1)
      · rintro (rfl | hmem)
        · exact .inl rfl
        · by_cases hsame : pair = pairOf row
          · exact .inl hsame
          · obtain ⟨other, hother, rfl⟩ := List.mem_map.mp hmem
            refine .inr (List.mem_map_of_mem (List.mem_filter.mpr ⟨hother, ?_⟩))
            simpa [pairOf, imp_iff_not_or] using hsame

theorem mem_batchTargets_pairs {payloads : List NotificationPayload} {t : Tables}
    {pair : Nat × Nat} :
    pair ∈ (batchTargets (payloads.map (·.row)) t).map pairOf ↔
      ∃ payload ∈ payloads, targeted t payload = true ∧
        pair = (payload.event_id, payload.stream_id) := by
  unfold batchTargets
  rw [mem_distinctTargets_pairs]
  constructor
  · intro hmem
    obtain ⟨row, hrow, rfl⟩ := List.mem_map.mp hmem
    obtain ⟨hrow, htarget⟩ := List.mem_filter.mp hrow
    obtain ⟨payload, hpayload, rfl⟩ := List.mem_map.mp hrow
    exact ⟨payload, hpayload, htarget, rfl⟩
  · rintro ⟨payload, hpayload, htarget, rfl⟩
    exact List.mem_map.mpr ⟨payload.row, List.mem_filter.mpr
      ⟨List.mem_map_of_mem hpayload, htarget⟩, rfl⟩

theorem mem_freshRows_pairs {payloads : List NotificationPayload} {t : Tables}
    {pair : Nat × Nat} :
    pair ∈ (freshRows (payloads.map (·.row)) t).map pairOf ↔
      ∃ payload ∈ payloads, targeted t payload = true ∧ unattempted t payload ∧
        pair = (payload.event_id, payload.stream_id) := by
  constructor
  · intro hmem
    obtain ⟨row, hrow, rfl⟩ := List.mem_map.mp hmem
    obtain ⟨hrow, hfresh⟩ := List.mem_filter.mp hrow
    obtain ⟨payload, hpayload, htarget, hpair⟩ :=
      mem_batchTargets_pairs.mp (List.mem_map_of_mem hrow)
    refine ⟨payload, hpayload, htarget, ?_, hpair⟩
    rw [pairOf, Prod.mk.injEq] at hpair
    simpa [unattempted, hpair.1] using hfresh
  · rintro ⟨payload, hpayload, htarget, hfresh, rfl⟩
    obtain ⟨row, hrow, hpair⟩ :=
      List.mem_map.mp (mem_batchTargets_pairs.mpr ⟨payload, hpayload, htarget, rfl⟩)
    refine List.mem_map.mpr ⟨row, List.mem_filter.mpr ⟨hrow, ?_⟩, hpair⟩
    rw [pairOf, Prod.mk.injEq] at hpair
    rw [hpair.1]
    simpa [unattempted] using hfresh

/-- The id of a message names one message. -/
def UniqueIds (t : Tables) : Prop := (t.messages.map (·.id)).Nodup

/-- The target of a message id has one room. -/
theorem UniqueIds.room_eq {t : Tables} (h : UniqueIds t) {p q : NotificationPayload}
    (hp : targeted t p = true) (hq : targeted t q = true) (hid : p.event_id = q.event_id) :
    p.stream_id = q.stream_id := by
  simp only [targeted, hasTarget, List.any_eq_true, decide_eq_true_eq] at hp hq
  obtain ⟨m, hm, hmid, hmroom⟩ := hp
  obtain ⟨m', hm', hmid', hmroom'⟩ := hq
  have heq : m = m' := List.inj_on_of_nodup_map h hm hm' (by rw [hmid, hmid', hid])
  rw [← hmroom, ← hmroom', heq]

/-- A payload that adds an attempt to the rows. -/
def Adds (t : Tables) (payload : NotificationPayload) : Prop :=
  accepted payload = true ∧ targeted t payload = true ∧ unattempted t payload

theorem mem_withAttempts_pairs {t : Tables} {rows : List AttemptRow} {pair : Nat × Nat} :
    pair ∈ attemptPairs (withAttempts t rows) ↔ pair ∈ attemptPairs t ∨ pair ∈ rows.map pairOf := by
  simp [attemptPairs, withAttempts]

theorem mem_afterRecord_pairs {t : Tables} {payload : NotificationPayload} {pair : Nat × Nat} :
    pair ∈ attemptPairs (afterRecord t (some payload)) ↔
      pair ∈ attemptPairs t ∨ (Adds t payload ∧ pair = (payload.event_id, payload.stream_id)) := by
  have hfresh := @mem_freshRows_pairs [payload] t pair
  simp only [List.map_cons, List.map_nil, List.mem_singleton, exists_eq_left] at hfresh
  simp only [afterRecord]
  split_ifs with hstored
  · rw [mem_withAttempts_pairs, hfresh]
    simp [Adds, hstored]
  · have hnot : ¬ Adds t payload := fun hadds => hstored ⟨hadds.1, hadds.2.1⟩
    simp [hnot]

theorem hasAttempt_iff {t : Tables} {message_id : Nat} :
    hasAttempt t message_id = true ↔ ∃ room_id, (message_id, room_id) ∈ attemptPairs t := by
  simp only [hasAttempt, List.any_eq_true, decide_eq_true_eq, attemptPairs, List.mem_map, pairOf,
    Prod.mk.injEq]
  constructor
  · rintro ⟨row, hrow, rfl⟩
    exact ⟨row.room_id, row, hrow, rfl, rfl⟩
  · rintro ⟨room_id, row, hrow, hid, -⟩
    exact ⟨row, hrow, hid⟩

/-- A message without an attempt had none before, since attempts are only added. -/
theorem unattempted.before {t : Tables} {first payload : NotificationPayload}
    (h : unattempted (afterRecord t (some first)) payload) : unattempted t payload := by
  by_contra hnot
  obtain ⟨room_id, hmem⟩ := hasAttempt_iff.mp (Bool.eq_true_of_not_eq_false hnot)
  have hafter : hasAttempt (afterRecord t (some first)) payload.event_id = true :=
    hasAttempt_iff.mpr ⟨room_id, mem_afterRecord_pairs.mpr (.inl hmem)⟩
  rw [unattempted, hafter] at h
  cases h

/-- A message that has an attempt after a record, and had none before, is the record's. -/
theorem attempted_by_first {t : Tables} {first payload : NotificationPayload}
    (h : unattempted t payload) (hafter : ¬ unattempted (afterRecord t (some first)) payload) :
    Adds t first ∧ payload.event_id = first.event_id := by
  obtain ⟨room_id, hmem⟩ := hasAttempt_iff.mp (Bool.eq_true_of_not_eq_false hafter)
  rcases mem_afterRecord_pairs.mp hmem with hbefore | ⟨hadds, hpair⟩
  · rw [unattempted, hasAttempt_iff.mpr ⟨room_id, hbefore⟩] at h
    cases h
  · exact ⟨hadds, (Prod.mk.inj hpair).1⟩

/-- Record by record, the pairs are those that were there and those of the records that name an
existing message without an attempt. -/
theorem mem_foldl_afterRecord {records : List (Option NotificationPayload)} {t : Tables}
    (hunique : UniqueIds t) {pair : Nat × Nat} :
    pair ∈ attemptPairs (records.foldl afterRecord t) ↔
      pair ∈ attemptPairs t ∨ ∃ payload, some payload ∈ records ∧ Adds t payload ∧
        pair = (payload.event_id, payload.stream_id) := by
  -- one record after the other: what the first adds is there for the rest
  induction records generalizing t with
  | nil => simp
  | cons record records ih =>
      have hmessages := afterRecord_messages t record
      rw [List.foldl_cons, ih (by rw [UniqueIds, hmessages]; exact hunique)]
      cases record with
      | none => simp [afterRecord]
      | some first =>
          rw [mem_afterRecord_pairs]
          constructor
          · -- what a later record adds, it adds to the tables before the first one too
            rintro ((hmem | ⟨hadds, rfl⟩) | ⟨payload, hpayload, hadds, rfl⟩)
            · exact .inl hmem
            · exact .inr ⟨first, List.mem_cons_self .., hadds, rfl⟩
            · refine .inr ⟨payload, List.mem_cons_of_mem _ hpayload, ⟨hadds.1, ?_, ?_⟩, rfl⟩
              · rw [← targeted_congr hmessages]
                exact hadds.2.1
              · exact hadds.2.2.before
          · rintro (hmem | ⟨payload, hpayload, hadds, rfl⟩)
            · exact .inl (.inl hmem)
            · rcases List.mem_cons.mp hpayload with heq | hrest
              · cases heq
                exact .inl (.inr ⟨hadds, rfl⟩)
              · -- a later record adds its pair unless the first one took the message
                by_cases hlater : unattempted (afterRecord t (some first)) payload
                · refine .inr ⟨payload, hrest, ⟨hadds.1, ?_, hlater⟩, rfl⟩
                  rw [targeted_congr hmessages]
                  exact hadds.2.1
                · -- the first record took the message, and with it the room
                  obtain ⟨hfirst, hid⟩ := attempted_by_first hadds.2.2 hlater
                  refine .inl (.inr ⟨hfirst, ?_⟩)
                  rw [hid, hunique.room_eq hadds.2.1 hfirst.2.1 hid]

/-! ### The two programs

Each of the programs is executed to its end, and the ends are compared. -/

/-- The effect of `store_attempt_batch`: that of its one statement, since the statement fails only
for its data, which is not tried again. -/
theorem runAgainst_storeAttemptBatch (payloads : List NotificationPayload)
    (w : NotificationWorld) :
    runAgainst (serve hash now choice) (storeAttemptBatch payloads) w =
      if payloads.all accepted then
        (.ok ((batchTargets (payloads.map (·.row)) w.tables).map pairOf),
          { w with tables := withAttempts w.tables (freshRows (payloads.map (·.row)) w.tables) })
      else (.error (.dataError "UntranslatableCharacter"), w) := by
  unfold storeAttemptBatch
  by_cases hempty : payloads = []
  · subst hempty
    simp [batchTargets, distinctTargets, freshRows, withAttempts]
  · rw [if_neg (by simpa using hempty), Prog.call_bind, runAgainst_op,
      serve_insertAttemptBatch hempty]
    cases payloads.all accepted with
    | false => rfl
    | true => rfl

/-- In one statement, a record is counted under what it is counted under by itself. -/
theorem batchResult_eq {payloads : List NotificationPayload} {t : Tables}
    {payload : Option NotificationPayload} (hall : payloads.all accepted = true)
    (hmem : ∀ p, payload = some p → p ∈ payloads) :
    batchResult ((batchTargets (payloads.map (·.row)) t).map pairOf) payload =
      resultOf t payload := by
  cases payload with
  | none => rfl
  | some p =>
      have hp := hmem p rfl
      have haccepted : accepted p = true := List.all_eq_true.mp hall p hp
      have htargets : (p.event_id, p.stream_id) ∈
          (batchTargets (payloads.map (·.row)) t).map pairOf ↔ targeted t p = true := by
        rw [mem_batchTargets_pairs]
        constructor
        · rintro ⟨q, -, htarget, hpair⟩
          obtain ⟨hid, hroom⟩ := Prod.mk.inj hpair
          rw [targeted, hid, hroom]
          exact htarget
        · intro htarget
          exact ⟨p, hp, htarget, rfl⟩
      simp only [batchResult, resultOf, htargets, haccepted, true_and]

/-- Both runs count every record alike, commit the same offsets, and leave the same pairs in
`notification_attempts`. -/
structure SameEffect (fast slow : Except PyExc Notifications.Counted × NotificationWorld) : Prop where
  results : fast.1 = slow.1
  committed : fast.2.committed = slow.2.committed
  attempts : ∀ pair, pair ∈ attemptPairs fast.2.tables ↔ pair ∈ attemptPairs slow.2.tables

/-- The payloads of a batch. -/
def payloads (rt : Runtime) (messages : List NotificationRecord) : List NotificationPayload :=
  (messages.map fun message => (message, notificationRecord rt message.value)).filterMap (·.2)

theorem mem_payloads {messages : List NotificationRecord} {payload : NotificationPayload} :
    payload ∈ payloads rt messages ↔ some payload ∈ normalized rt messages := by
  simp [payloads, normalized]

/-- The targets of a batch, and the database after it was stored. -/
def batchPairs (rt : Runtime) (messages : List NotificationRecord) (t : Tables) :
    List (Nat × Nat) :=
  (batchTargets ((payloads rt messages).map (·.row)) t).map pairOf

def storedWorld (rt : Runtime) (messages : List NotificationRecord) (w : NotificationWorld) :
    NotificationWorld :=
  { w with
    tables := withAttempts w.tables (freshRows ((payloads rt messages).map (·.row)) w.tables) }

/-- The batch where every payload is accepted. The results and the offsets agree one by one, and
the attempts as a set: both ways add the new rows of the targets that exist. -/
theorem sameEffect_stored {messages : List NotificationRecord} {w : NotificationWorld}
    (hunique : UniqueIds w.tables) (hall : (payloads rt messages).all accepted = true) :
    SameEffect
      (runAgainst (serve hash now choice)
        (commitBatch (batchPairs rt messages w.tables) [] []
          (messages.map fun message => (message, notificationRecord rt message.value)))
        (storedWorld rt messages w))
      (.ok (results rt w.tables messages),
        { w with
          tables := (normalized rt messages).foldl afterRecord w.tables
          committed := w.committed ++ messages.map offsetAfter }) := by
  rw [runAgainst_commitBatch]
  refine ⟨?_, ?_, fun pair => ?_⟩
  · rw [List.nil_append, List.map_map]
    refine congrArg Except.ok (List.map_congr_left fun message hmessage => ?_)
    refine congrArg (Prod.mk message) (batchResult_eq hall fun p hp => ?_)
    exact mem_payloads.mpr (List.mem_map.mpr ⟨message, hmessage, hp⟩)
  · show w.committed ++ List.map _ (List.map _ messages) = w.committed ++ messages.map offsetAfter
    rw [List.map_map]
    rfl
  · show pair ∈ attemptPairs (withAttempts w.tables _) ↔ _
    rw [mem_foldl_afterRecord hunique, mem_withAttempts_pairs, mem_freshRows_pairs]
    refine or_congr_right (exists_congr fun payload => ?_)
    rw [mem_payloads]
    constructor
    · rintro ⟨hmem, htarget, hfresh, hpair⟩
      exact ⟨hmem, ⟨List.all_eq_true.mp hall _ (mem_payloads.mpr hmem), htarget, hfresh⟩, hpair⟩
    · rintro ⟨hmem, hadds, hpair⟩
      exact ⟨hmem, hadds.2.1, hadds.2.2, hpair⟩

end NotificationBatch

open NotificationBatch in
/-- **One statement for a batch is the batch record by record.** Without transient errors, both
count every record of the batch alike, commit the same offsets, and leave the same pairs of
message and room.

Both sides are executed. The loop over the records has one effect for each of them
(`runAgainst_countedRecords`), the statement over the batch inserts all rows at once or is refused
for one of them (`runAgainst_storeAttemptBatch`); in the second case the batch falls back to the
loop, and in the first the rows are compared by `sameEffect_stored`. -/
theorem notification_batch_equals_records (hash : PyStr → Int) (now : Nat) (choice : Choice)
    (rt : Runtime) (records : Polled KafkaValue) (w : NotificationWorld)
    (hunique : UniqueIds w.tables) :
    let slow := runAgainst (serve hash now choice) (countedWorkerBatch rt records) w
    SameEffect (runAgainst (serve hash now choice)
        (Notifications.processNotificationBatch rt records) w) slow ∧
      (∃ counted, slow.1 = .ok counted ∧ counted.map Prod.fst = records.messages) ∧
      runAgainst (serve hash now choice) (processWorkerBatch notificationConsumer
        (fun message => Notifications.handleNotificationJob rt message.value) records) w =
          (.ok (), slow.2) := by
  have hslow : runAgainst (serve hash now choice) (countedWorkerBatch rt records) w = _ :=
    runAgainst_countedRecords records.messages [] w
  rw [List.nil_append] at hslow
  refine ⟨?_, ?_, ?_⟩
  · rw [hslow]
    unfold Notifications.processNotificationBatch
    dsimp only
    split_ifs with hempty
    · rw [List.isEmpty_iff.mp hempty]
      exact ⟨rfl, (List.append_nil _).symm, fun _ => Iff.rfl⟩
    · rw [runAgainst_bind, runAgainst_attempt]
      have hstored : runAgainst (serve hash now choice)
          (storeAttemptBatch (payloads rt records.messages)) w = _ :=
        runAgainst_storeAttemptBatch (payloads rt records.messages) w
      rw [payloads] at hstored
      rw [hstored]
      split_ifs with hall
      · exact sameEffect_stored hunique hall
      · -- one row that PostgreSQL refuses sends the batch to the handler of records
        show SameEffect (runAgainst (serve hash now choice) (countedWorkerBatch rt records) w) _
        rw [hslow]
        exact ⟨rfl, rfl, fun _ => Iff.rfl⟩
  · rw [hslow]
    exact ⟨_, rfl, (List.map_map ..).trans (List.map_id _)⟩
  · rw [processWorkerBatch_counted, runAgainst_bind, hslow]
    rfl

/-- A record of the sample batch. -/
def sampleNotification (partition offset event_id stream_id : Nat) : NotificationRecord :=
  ⟨"message-notifications", partition, offset, none,
    .json (.obj [("event_id", .int event_id), ("stream_id", .int stream_id)])⟩

/-- A database with one message. -/
def oneMessage : NotificationWorld where
  tables := { Tables.empty (fun _ => true) (fun _ => true) (fun _ _ => true) with
    messages := [⟨7, "req-1", 1, 1, "order", none, none, 1, [], [], "body", 1,
      "1970-01-01T00:00:00+00:00"⟩] }
  ext := ⟨8, []⟩
  committed := []

open NotificationBatch in
/-- A batch of two partitions: an event twice, the event with another stream, and a record
without an event. -/
theorem notification_batch_equals_records_sample :
    SameEffect
      (runAgainst (serve (fun _ => 0) 0 ⟨true, none⟩)
        (Notifications.processNotificationBatch .sample
          [(⟨"message-notifications", 0⟩, [sampleNotification 0 0 7 1, sampleNotification 0 1 7 2]),
            (⟨"message-notifications", 1⟩, [sampleNotification 1 0 7 1, sampleNotification 1 1 0 0])])
        oneMessage)
      (runAgainst (serve (fun _ => 0) 0 ⟨true, none⟩)
        (countedWorkerBatch .sample
          [(⟨"message-notifications", 0⟩, [sampleNotification 0 0 7 1, sampleNotification 0 1 7 2]),
            (⟨"message-notifications", 1⟩, [sampleNotification 1 0 7 1, sampleNotification 1 1 0 0])])
        oneMessage) :=
  (notification_batch_equals_records (fun _ => 0) 0 ⟨true, none⟩ .sample _ oneMessage
    (List.nodup_singleton 7)).1

end EventPipeline.Guarantees
