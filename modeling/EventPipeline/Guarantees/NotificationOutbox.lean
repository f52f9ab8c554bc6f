import EventPipeline.Worker.System

/-!
# EventPipeline.Guarantees.NotificationOutbox

No notification is lost and none has two effects: messages and outbox rows match one
to one, a row is marked published only after an acknowledgement and can be selected
until then, a message has at most one attempt, and what the relay publishes is what
the notification consumer accepts.
-/

namespace EventPipeline.Guarantees

open EventPipeline.Python EventPipeline.Portfolio EventPipeline.Postgres
open EventPipeline.Concurrency EventPipeline.Worker

/-! ### The order of the relay's selection

The relay takes the row that is due first. A row that is not taken is behind another one. -/

theorem before_refl (o : OutboxRow) : o.before o = true := by
  simp [OutboxRow.before]

theorem before_trans {a b c : OutboxRow} (h : a.before b = true) (h' : b.before c = true) :
    a.before c = true := by
  simp only [OutboxRow.before, Bool.or_eq_true, Bool.and_eq_true, decide_eq_true_eq,
    beq_iff_eq] at *
  omega

theorem before_of_not {a b : OutboxRow} (h : a.before b = false) : b.before a = true := by
  simp only [OutboxRow.before, Bool.or_eq_false_iff, Bool.and_eq_false_iff, Bool.or_eq_true,
    Bool.and_eq_true, decide_eq_false_iff_not, decide_eq_true_eq, beq_eq_false_iff_ne,
    beq_iff_eq] at *
  omega

/-- `ORDER BY ... LIMIT 1` returns a least row. -/
theorem firstRow_before {rows : List OutboxRow} {p : OutboxRow} (h : firstRow rows = some p) :
    ∀ o ∈ rows, p.before o = true := by
  induction rows generalizing p with
  | nil => simp
  | cons a rest ih =>
      intro o ho
      rw [firstRow] at h
      split at h
      · rename_i hnone
        obtain rfl := Option.some.inj h
        rw [firstRow_eq_none.mp hnone, List.mem_singleton] at ho
        exact ho ▸ before_refl a
      · rename_i q hq
        split_ifs at h with haq <;> obtain rfl := Option.some.inj h
        · rcases List.mem_cons.mp ho with rfl | ho
          · exact before_refl o
          · exact before_trans haq (ih hq o ho)
        · rcases List.mem_cons.mp ho with rfl | ho
          · exact before_of_not (by simpa using haq)
          · exact ih hq o ho

/-! ### The guarantee -/

/-- Messages and outbox rows match one to one, by id and room. Both directions are said with the
list of the matching rows, so that neither a missing row nor a second one is possible. -/
structure OneToOne (t : Tables) : Prop where
  row : ∀ m ∈ t.messages, ∃ o,
    (t.notification_outbox.filter fun o => o.message_id = m.id) = [o] ∧ o.room_id = m.room_id
  message : ∀ o ∈ t.notification_outbox, ∃ m,
    (t.messages.filter fun m => m.id = o.message_id) = [m] ∧ m.room_id = o.room_id

/-- A relay that asks for a row at a time and among open transactions like these. -/
structure CanSelect (t : Tables) (o : OutboxRow) (env : StmtEnv) : Prop where
  view : env.view = t
  due : o.next_attempt_at ≤ env.now
  free : env.held (.outbox o.message_id) = false

/-- A row is published after an acknowledgement of its payload, and until then the
relay selects it or a row that is due before it. -/
structure PublishedOrPending (hash : PyStr → Int) (t : Tables) (x : Ext) : Prop where
  acknowledged : ∀ o ∈ t.notification_outbox, o.published_at ≠ none →
    (o.room_id, o.payload) ∈ x.acknowledged
  selectable : ∀ o ∈ t.notification_outbox, o.published_at = none → ∀ env, CanSelect t o env →
    pending env o = true ∧ ∃ p ls, (engine hash).exec .selectPendingOutbox env
      = .done (some p) [] ls env.ext ∧ p.before o = true

/-- At most one attempt for a message, and only for messages. -/
structure OneAttempt (t : Tables) : Prop where
  unique : (t.notification_attempts.map (·.message_id)).Nodup
  target : ∀ a ∈ t.notification_attempts,
    ∃ m ∈ t.messages, m.id = a.message_id ∧ m.room_id = a.room_id

/-- What is published reaches the consumer as a record it does not reject. -/
def Accepted (rt : Runtime) (payload : Dict) : Prop :=
  ∃ bytes, serializeJson (.obj payload) = .ok bytes ∧
    ∃ n, notificationRecord rt (deserializeJson rt bytes) = some n

theorem filter_eq_singleton {α β : Type} [DecidableEq β] {f : α → β} {rows : List α} {a : α}
    (hnodup : (rows.map f).Nodup) (ha : a ∈ rows) : (rows.filter fun b => f b = f a) = [a] := by
  induction rows with
  | nil => simp at ha
  | cons b rows ih =>
      rw [List.map_cons, List.nodup_cons] at hnodup
      rcases List.mem_cons.mp ha with rfl | ha
      · have hnil : (rows.filter fun b => f b = f a) = [] := by
          rw [List.filter_eq_nil_iff]
          intro c hc heq
          exact hnodup.1 (of_decide_eq_true heq ▸ List.mem_map_of_mem hc)
        simp [hnil]
      · have hne : ¬f b = f a := fun heq => hnodup.1 (heq ▸ List.mem_map_of_mem ha)
        simp [hne, ih hnodup.2 ha]

section Inv

variable {t : Tables} {x : Ext}

theorem oneToOne_of_inv (h : Inv t x) : OneToOne t where
  row m hm := by
    obtain ⟨o, ho, hfor⟩ := h.exists_outbox hm
    refine ⟨o, ?_, hfor.room_id⟩
    rw [← hfor.message_id]
    exact filter_eq_singleton (h.outboxIds ▸ h.ids) ho
  message o ho := by
    obtain ⟨m, hm, hfor⟩ := h.exists_message ho
    refine ⟨m, ?_, hfor.room_id.symm⟩
    rw [hfor.message_id]
    exact filter_eq_singleton h.ids hm

theorem publishedOrPending_of_inv (hash : PyStr → Int) (h : Inv t x) :
    PublishedOrPending hash t x where
  acknowledged o ho hpub := by
    obtain ⟨m, -, hfor⟩ := h.exists_message ho
    exact hfor.published hpub
  selectable o ho hpub env henv := by
    have hpending : pending env o = true := by
      simp [pending, hpub, henv.due, henv.free]
    have hmem : o ∈ env.view.notification_outbox.filter (pending env) :=
      List.mem_filter.mpr ⟨henv.view ▸ ho, hpending⟩
    refine ⟨hpending, ?_⟩
    cases hfirst : firstRow (env.view.notification_outbox.filter (pending env)) with
    | none => exact absurd hmem (by simp [firstRow_eq_none.mp hfirst])
    | some p =>
        refine ⟨p, [.outbox p.message_id], ?_, firstRow_before hfirst o hmem⟩
        simp only [engine, exec, execSelectPendingOutbox, hfirst]

theorem accepted_of_message (rt : Runtime) {m : MessageRow} (hok : MessageOk m) :
    Accepted rt (notificationOf m) := by
  have hwire := notificationOf_wire hok
  obtain ⟨bytes, hbytes⟩ := serializeJson_ok.mpr hwire
  refine ⟨bytes, hbytes, hok.notification, ?_⟩
  rw [deserializeJson_serializeJson rt hwire (notificationOf_unique hok) hbytes]
  simp only [notificationRecord, normalizeNotificationPayload_notificationOf hok]
  rfl

end Inv

/-- **The transactional outbox.** From empty tables, whatever persist, relay and
notification transactions do among each other, with any publish failure and any
crash.

The first three are parts of the invariant of the pipeline (`workerRun_inv`). The last is a
precondition of the publishing statement: the relay asks it only for a message it has read, and
the messages of the table have payloads the consumer accepts. -/
theorem notificationOutbox_reliable {rt : Runtime} {hash : PyStr → Int} {rooms users : Nat → Bool}
    {members : Nat → Nat → Bool}
    {h : List (Transition Stmt Stmt.Res PyExc Answer (Task rt) Tables Ext Write Lock)}
    {s : WorkerSystem rt} (hrun : WorkerRun rt hash (emptySystem rt rooms users members) h s) :
    OneToOne s.db ∧ PublishedOrPending hash s.db s.ext ∧ OneAttempt s.db ∧
      ∀ t ∈ h, ∀ l room_id payload r,
        t.event = .ran l (.publishNotification room_id payload) r → Accepted rt payload := by
  have hinv := workerRun_inv hrun
  refine ⟨oneToOne_of_inv hinv, publishedOrPending_of_inv hash hinv,
    ⟨hinv.attempts, hinv.targets⟩, ?_⟩
  intro t ht l room_id payload r hevent
  obtain ⟨h', -, hrun', hstep⟩ := hrun.of_mem ht
  have hgood : (pipeline hash).Good (fun _ => True) (TaskPost (fun _ => True) hash) TaskRefused
      t.before :=
    workerRun_good hrun' fun _ _ => trivial
  rw [hevent] at hstep
  obtain ⟨m, hm, -, rfl⟩ := hgood.asks hstep
  exact accepted_of_message rt (hgood.inv.messages m hm)

/-- One event stored, published, acknowledged and attempted. -/
def sampleScript : List (Action (Task .sample) Choice) :=
  wholeTransaction 0 (.persist sampleJob) 7 ++ wholeTransaction 1 .relay 3 ++
    wholeTransaction 2
      (.notification (.json (.obj [("event_id", .int 1), ("stream_id", .int 7)]))) 1

theorem notificationOutbox_reliable_sample :
    ∃ s : WorkerSystem .sample,
      ((s.db.notification_outbox.map (·.published_at.isSome)) = [true] ∧
        s.db.notification_attempts.length = 1) ∧
      OneToOne s.db ∧ PublishedOrPending (fun _ => 0) s.db s.ext ∧ OneAttempt s.db := by
  have hplay : ((play (engine fun _ => 0) (program .sample) sampleScript sampleSim).map fun p =>
      (p.2.db.notification_outbox.map (·.published_at.isSome),
        p.2.db.notification_attempts.length)) = some ([true], 1) := by decide +kernel
  obtain ⟨p, hp, hstate⟩ := Option.map_eq_some_iff.mp hplay
  obtain ⟨h, hrun, -⟩ := sampleRun hp
  obtain ⟨hone, hpublished, hattempt, -⟩ := notificationOutbox_reliable hrun
  exact ⟨p.2.toSystem, Prod.ext_iff.mp hstate, hone, hpublished, hattempt⟩

end EventPipeline.Guarantees
