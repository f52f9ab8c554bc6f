import EventPipeline.Guarantees.IngressProgress

/-!
# EventPipeline.Guarantees.IngressSafety

Whole runs of the ingress worker, with failures and restarts anywhere.

`Kept` is what holds at every point of a run, `Batching` what the loop over a batch keeps on
top of it. One operation of a handler keeps both (`Taken.does`): a new row comes from the
record that was taken up last, which is behind no record that inserted one before. A handler
that returns has left its record in the database or in the dead letters, or there is a reason
why it cannot be stored (`Settled.delivered`).
-/

namespace EventPipeline.Guarantees

open EventPipeline.Python EventPipeline.Portfolio EventPipeline.Postgres EventPipeline.Worker
open EventPipeline.Concurrency EventPipeline.Concurrency.Prog

/-- What Kafka promises about the log of a topic: one record at an offset, and the records of a
key in one partition. -/
structure TopicLog {ν : Type} (log : Set (ConsumerRecord ν)) : Prop where
  offsets : ∀ a ∈ log, ∀ b ∈ log, a.topicPartition = b.topicPartition → a.offset = b.offset → a = b
  keys : ∀ a ∈ log, ∀ b ∈ log, a.key ≠ none → a.key = b.key → a.topicPartition = b.topicPartition

/-- A poll that returns one record, the next one of its partition. -/
theorem TopicLog.fetched {ν : Type} {log : Set (ConsumerRecord ν)} (hlog : TopicLog log)
    {g : Group ν} {m : ConsumerRecord ν} (hm : m ∈ log)
    (hnext : g.position m.topicPartition = m.offset) :
    Fetched log g [(m.topicPartition, [m])] := by
  refine ⟨⟨by simp, by simp, by simp⟩, ?_, ?_⟩
  · intro m' hm'
    obtain rfl : m' = m := by simpa [Polled.messages] using hm'
    exact ⟨hm, hnext.le⟩
  · intro last hlast m' hm' hpartition hle hoffset
    obtain rfl : last = m := by simpa [Polled.messages] using hlast
    rw [hpartition, hnext] at hle
    obtain rfl : m' = last := hlog.offsets m' hm' last hm hpartition (by omega)
    exact hlast

namespace IngressProcess

open DeadLetter InlineRetry

variable {rt : Runtime} {settings : IngressSettings} {hash : PyStr → Int}
  {rooms users : Nat → Bool} {members : Nat → Nat → Bool}
  {log : Set (ConsumerRecord KafkaValue)} {failed : List TopicPartition}
  {message : ConsumerRecord KafkaValue} {messages : List (ConsumerRecord KafkaValue)}
  {w w' : IngressWorld rt}

/-! ### What a run keeps

`Kept` holds in every state: a record whose handler has returned was delivered, an offset is
committed only behind such records, and the rows that were inserted are the events of their
records, in the order of the log. The other invariants are about the batch and the record that is
being handled. -/

/-- The records that inserted a row. -/
def IngressWorld.done (w : IngressWorld rt) : Set (ConsumerRecord KafkaValue) :=
  {m | ∃ row, (m, row) ∈ w.inserted}

/-- The row that a record inserted is the event of the record. -/
structure Inserts (log : Set (ConsumerRecord KafkaValue)) (w : IngressWorld rt)
    (p : ConsumerRecord KafkaValue × MessageRow) : Prop where
  logged : p.1 ∈ log
  stored : p.2 ∈ w.system.db.messages
  event : ∃ n, (readIngress rt p.1.value).2 = .ok n ∧ Keyed p.1 n.room_id ∧ EventRow n p.2

/-- Two rows in the order they were inserted: they belong to two requests, and where their records
are of one partition or they are of one room, the offsets or the numbers are in that order too. -/
structure Follows (p q : ConsumerRecord KafkaValue × MessageRow) : Prop where
  request_id : p.2.request_id ≠ q.2.request_id
  offset : p.1.topicPartition = q.1.topicPartition → p.1.offset < q.1.offset
  room_seq : p.2.room_id = q.2.room_id → p.2.room_seq < q.2.room_seq

/-- The invariant of a run: the database is reachable, every committed offset is safe, and every
record whose handler returned is delivered. The rows inserted so far are the events of their
records, and follow each other in the order of the insertions. -/
structure Kept (hash : PyStr → Int) (rooms users : Nat → Bool) (members : Nat → Nat → Bool)
    (log : Set (ConsumerRecord KafkaValue)) (w : IngressWorld rt) : Prop where
  reached : Reached hash rooms users members w.system
  committed : CommittedSafe log w.group
  trails : Trails log w.done w.group
  delivered : ∀ m ∈ w.group.returned, Delivered w m
  inserts : ∀ p ∈ w.inserted, Inserts log w p
  ordered : w.inserted.Pairwise Follows

/-- The invariant of the loop over a batch: that of the run, with what is known of the partitions
that failed and of the records that are left of the batch. -/
structure Batching (hash : PyStr → Int) (rooms users : Nat → Bool) (members : Nat → Nat → Bool)
    (log : Set (ConsumerRecord KafkaValue)) (failed : List TopicPartition)
    (messages : List (ConsumerRecord KafkaValue)) (w : IngressWorld rt) : Prop where
  kept : Kept hash rooms users members log w
  underway : Underway log failed messages w.group
  paced : Paced log failed messages w.done w.group
  logged : ∀ m ∈ messages, m ∈ log

/-- What was asked for the record that was taken up last has left its traces. -/
structure Recorded (w : IngressWorld rt) (m : ConsumerRecord KafkaValue) : Prop where
  current : w.current = some m
  persisted : ∀ job response,
    (⟨.persistIngressJob job, .ok response⟩ : Event _ _) ∈ w.log → Stored w.system.db job
  refused : ∀ job e, (⟨.persistIngressJob job, .error e⟩ : Event _ _) ∈ w.log →
    e.isValueError = true → Refusal w.system.db job
  letters : ∀ key payload, (⟨.publishDlqJob key payload, .ok ()⟩ : Event _ _) ∈ w.log →
    (key, payload) ∈ w.deadLetters

/-- The handler of the next record is running. -/
structure Taken (hash : PyStr → Int) (rooms users : Nat → Bool) (members : Nat → Nat → Bool)
    (log : Set (ConsumerRecord KafkaValue)) (failed : List TopicPartition)
    (message : ConsumerRecord KafkaValue) (messages : List (ConsumerRecord KafkaValue))
    (w : IngressWorld rt) : Prop where
  batching : Batching hash rooms users members log failed (message :: messages) w
  opened : message.topicPartition ∉ failed
  recorded : Recorded w message

/-! ### Growth

No operation takes anything back: rows, dead letters and marks are only added. Whatever was
delivered before an operation is delivered after it. -/

/-- What a world holds, the next one holds too. -/
structure Grown (w w' : IngressWorld rt) : Prop where
  database : Grows w.system.db w.system.ext w'.system.db w'.system.ext
  deadLetters : w.deadLetters ⊆ w'.deadLetters

/-- A change of the group and of the marks only. -/
theorem Grown.of_same (hsystem : w'.system = w.system) (hletters : w'.deadLetters = w.deadLetters) :
    Grown w w' where
  database := hsystem ▸ .of_le (Ext.Le.refl _)
  deadLetters := hletters ▸ List.Subset.refl _

theorem Delivered.grown {m : ConsumerRecord KafkaValue} (h : Delivered w m) (hgrown : Grown w w') :
    Delivered w' m := by
  cases h with
  | stored n hread hstored => exact .stored n hread (hstored.of_grows hgrown.database)
  | refused n hread hrefusal => exact .refused n hread (hrefusal.of_grows hgrown.database)
  | deadLetter n hread job hjob reason failed_at hletter =>
      exact .deadLetter n hread job hjob reason failed_at (hgrown.deadLetters hletter)
  | unread reason hread kept hletter => exact .unread reason hread kept (hgrown.deadLetters hletter)
  | misplaced n hread kept hletter => exact .misplaced n hread kept (hgrown.deadLetters hletter)

theorem Inserts.grown {p : ConsumerRecord KafkaValue × MessageRow} (h : Inserts log w p)
    (hgrown : Grown w w') : Inserts log w' p :=
  ⟨h.logged, hgrown.database.messages h.stored, h.event⟩

theorem LettersAnswer.subset {l l' : List (Nat × Dict)} {op : IngressOp} {r : op.Res}
    (h : LettersAnswer l l' op r) : l ⊆ l' := by
  cases op with
  | publishDlqJob key payload =>
      cases r with
      | ok done =>
          rw [show l' = l ++ [(key, payload)] from h]
          exact List.subset_append_left _ _
      | error e =>
          rcases (h : l' = l ∨ l' = l ++ [(key, payload)]) with rfl | rfl
          · exact List.Subset.refl _
          · exact List.subset_append_left _ _
  | _ => exact (show l' = l from h) ▸ List.Subset.refl _

theorem IngressWorld.Does.grown {op : IngressOp} {r : op.Res} {rows : List MessageRow}
    (h : w.Does hash op r rows w') (hreached : Reached hash rooms users members w.system) :
    Grown w w' where
  database := hreached.grows h.system.others
  deadLetters := h.deadLetters.subset

/-- Any operation keeps the invariant, where what it does to the group and inserts does. -/
theorem Kept.does {op : IngressOp} {r : op.Res} {rows : List MessageRow}
    (h : Kept hash rooms users members log w) (hdoes : w.Does hash op r rows w')
    (hcommitted : CommittedSafe log w'.group) (htrails : Trails log w'.done w'.group)
    (hreturned : w'.group.returned = w.group.returned)
    (hinserts : ∀ p ∈ w.about rows, Inserts log w' p)
    (hordered : ∀ p ∈ w.inserted, ∀ q ∈ w.about rows, Follows p q)
    (hrows : (w.about rows).Pairwise Follows) : Kept hash rooms users members log w' where
  reached := h.reached.trans hdoes.system.others
  committed := hcommitted
  trails := htrails
  delivered m hm := (h.delivered m (hreturned ▸ hm)).grown (hdoes.grown h.reached)
  inserts p hp := by
    rw [hdoes.inserted] at hp
    rcases List.mem_append.mp hp with hold | hnew
    · exact (h.inserts p hold).grown (hdoes.grown h.reached)
    · exact hinserts p hnew
  ordered := by
    rw [hdoes.inserted, List.pairwise_append]
    exact ⟨h.ordered, hrows, hordered⟩

/-! ### One operation of a handler -/

theorem IngressWorld.about_eq (hcurrent : w.current = some message) (rows : List MessageRow) :
    w.about rows = rows.map (message, ·) := by
  simp [IngressWorld.about, hcurrent]

/-- What an operation of a handler inserts is the event of its record. -/
theorem rows_of_asks {op : IngressOp} {r : op.Res} {rows : List MessageRow}
    (hreached : Reached hash rooms users members w.system) (hasks : Asks rt message op)
    (hdoes : w.Does hash op r rows w') :
    rows = [] ∨ ∃ row n, rows = [row] ∧ row ∈ w'.system.db.messages ∧
      (readIngress rt message.value).2 = .ok n ∧ Keyed message n.room_id ∧
      NewRow w.system.db n row := by
  by_cases hop : ∃ job, op = .persistIngressJob job
  · obtain ⟨job, rfl⟩ := hop
    obtain ⟨n, hread, hkey, hn⟩ := hasks
    obtain ⟨v, hv, outcome, htransacts, -⟩ := hdoes.system
    refine (htransacts.effect hreached).rows.imp_right fun hrow => ?_
    obtain ⟨row, rfl, hmem, hnew⟩ := hrow
    exact ⟨row, n, rfl, hmem, hread, hkey, (hn.trans hv.symm).eventRow hnew.event,
      hnew.request_fresh, hnew.room_next⟩
  · left
    exact hdoes.system.rows_eq_nil hreached fun job heq => hop ⟨job, heq⟩

theorem group_of_asks {op : IngressOp} {r : op.Res} {g g' : Group KafkaValue}
    (hasks : Asks rt message op) (h : GroupAnswer g g' op r) : g' = g := by
  cases op with
  | commit partition offset => exact hasks.elim
  | seek partition offset => exact hasks.elim
  | _ => exact h

/-- What was asked has left its traces, whatever was asked. -/
theorem Recorded.does {op : IngressOp} {r : op.Res} {rows : List MessageRow}
    (h : Recorded w message) (hreached : Reached hash rooms users members w.system)
    (hdoes : w.Does hash op r rows w') : Recorded w' message := by
  -- the three traces: what was stored, what was refused, and the letters
  have hgrown := hdoes.grown hreached
  refine ⟨hdoes.current.trans h.current, ?_, ?_, ?_⟩
  · intro job response hmem
    rw [hdoes.log] at hmem
    rcases List.mem_append.mp hmem with hold | hnew
    · exact (h.persisted job response hold).of_grows hgrown.database
    · cases List.mem_singleton.mp hnew
      obtain ⟨v, hv, outcome, htransacts, hreply⟩ := hdoes.system
      cases outcome with
      | error e => cases hreply
      | ok answer => exact hv.stored.mpr ((htransacts.effect hreached).stored answer rfl)
  · intro job e hmem he
    rw [hdoes.log] at hmem
    rcases List.mem_append.mp hmem with hold | hnew
    · exact (h.refused job e hold he).of_grows hgrown.database
    · cases List.mem_singleton.mp hnew
      obtain ⟨v, hv, outcome, htransacts, hreply⟩ := hdoes.system
      cases outcome with
      | error e' =>
          cases hreply
          exact hv.symm.refusal ((htransacts.effect hreached).refused e rfl he)
      | ok answer =>
          cases answer with
          | response response =>
              obtain ⟨persisted_at, heq⟩ := hreply
              cases heq
          | _ => exact hreply.elim
  · intro key payload hmem
    rw [hdoes.log] at hmem
    rcases List.mem_append.mp hmem with hold | hnew
    · exact hgrown.deadLetters (h.letters key payload hold)
    · cases List.mem_singleton.mp hnew
      have hletters : w'.deadLetters = w.deadLetters ++ [(key, payload)] := hdoes.deadLetters
      rw [hletters]
      simp

theorem IngressWorld.Does.done {op : IngressOp} {r : op.Res} {rows : List MessageRow}
    (hdoes : w.Does hash op r rows w') (hcurrent : w.current = some message) :
    w'.done = if rows = [] then w.done else insert message w.done := by
  ext m
  simp only [IngressWorld.done, Set.mem_ofPred_eq, hdoes.inserted, IngressWorld.about_eq hcurrent,
    List.mem_append, List.mem_map, Prod.mk.injEq]
  cases rows with
  | nil => simp
  | cons row rows =>
      simp only [List.cons_ne_nil, if_false, Set.mem_insert_iff, Set.mem_ofPred_eq]
      constructor
      · intro hm
        obtain ⟨row', hold | ⟨_, _, heq, _⟩⟩ := hm
        · exact Or.inr ⟨row', hold⟩
        · exact Or.inl heq.symm
      · intro hm
        rcases hm with rfl | ⟨row', hold⟩
        · exact ⟨row, Or.inr ⟨row, by simp⟩⟩
        · exact ⟨row', Or.inl hold⟩

/-- **One operation of a handler** keeps the invariant. No handler touches the consumer group; a
row is added only where the record is persisted, and then it follows the rows there are. -/
theorem Taken.does (hlog : TopicLog log) {op : IngressOp} {r : op.Res} {rows : List MessageRow}
    (h : Taken hash rooms users members log failed message messages w)
    (hasks : Asks rt message op) (hdoes : w.Does hash op r rows w') :
    Taken hash rooms users members log failed message messages w' := by
  have hkept := h.batching.kept
  have hgroup : w'.group = w.group := group_of_asks hasks hdoes.group
  have hlogged : message ∈ log := h.batching.logged message (by simp)
  have habout := IngressWorld.about_eq h.recorded.current rows
  have hpaced : Paced log failed (message :: messages) w'.done w'.group := by
    rw [hgroup, hdoes.done h.recorded.current]
    split_ifs
    · exact h.batching.paced
    · exact h.batching.paced.insert h.batching.underway h.opened
  have hunderway : Underway log failed (message :: messages) w'.group :=
    hgroup ▸ h.batching.underway
  refine ⟨⟨?_, hunderway, hpaced, h.batching.logged⟩, h.opened,
    h.recorded.does hkept.reached hdoes⟩
  rcases rows_of_asks hkept.reached hasks hdoes with rfl | ⟨row, n, rfl, hrow, hread, hkey, hnew⟩
  · refine hkept.does hdoes hunderway.committed hpaced.trails (by rw [hgroup]) ?_ ?_ ?_ <;>
    simp [habout]
  · refine hkept.does hdoes hunderway.committed hpaced.trails (by rw [hgroup]) ?_ ?_
      (by simp [habout])
    · intro p hp
      rw [habout] at hp
      obtain rfl : p = (message, row) := by simpa using hp
      exact ⟨hlogged, hrow, n, hread, hkey, hnew.event⟩
    · intro p hp q hq
      rw [habout] at hq
      obtain rfl : q = (message, row) := by simpa using hq
      have hinserts := hkept.inserts p hp
      refine ⟨hnew.request_fresh p.2 hinserts.stored, ?_, hnew.room_next p.2 hinserts.stored⟩
      intro hsame
      have hle : p.1.offset ≤ message.offset :=
        h.batching.paced.follows p.1 ⟨p.2, hp⟩ message (.head h.opened) hsame.symm
      refine hle.lt_of_ne fun heq => ?_
      -- the record of an earlier row is not taken up for another one
      obtain ⟨n', hread', -, hevent⟩ := hinserts.event
      rw [hlog.offsets p.1 hinserts.logged message hlogged hsame heq, hread] at hread'
      cases hread'
      exact hnew.request_fresh p.2 hinserts.stored
        (hevent.request_id.trans hnew.event.request_id.symm)

/-- A handler that returns has delivered its record. The five ends of a handler are those of
`Delivered`, and what was asked for in the log has been recorded. -/
theorem Settled.delivered (h : Settled rt message w.log) (hrecorded : Recorded w message) :
    Delivered w message := by
  cases h with
  | persisted n job hread hjob response hasked =>
      exact .stored n hread (hjob.stored.mp (hrecorded.persisted job response hasked))
  | refused n job hread hjob e hasked hrefused =>
      exact .refused n hread (hjob.refusal (hrecorded.refused job e hasked hrefused))
  | deadLetter n job hread hjob reason failed_at hasked =>
      exact .deadLetter n hread job hjob reason failed_at (hrecorded.letters _ _ hasked)
  | unread reason hread kept hasked =>
      exact .unread reason hread kept (hrecorded.letters _ _ hasked)
  | misplaced n hread kept hasked => exact .misplaced n hread kept (hrecorded.letters _ _ hasked)

/-! ### One batch

The loop is verified by the rules of `Sat`, with the state of the process as the environment: a
handler that returns has delivered its record, and only then is its offset committed. -/

/-- The environment of a batch inside the process. -/
abbrev ingressEnvironment (hash : PyStr → Int) (rooms users : Nat → Bool)
    (members : Nat → Nat → Bool) (log : Set (ConsumerRecord KafkaValue)) :
    World ConsumerOp ConsumerOp.Res (IngressWorld rt) :=
  .alone (IngressWorld.step hash) (Kept hash rooms users members log)

theorem ingressEnvironment_refl (w : IngressWorld rt) :
    (ingressEnvironment hash rooms users members log).rely w w := rfl

/-- A part of the handler, as far as the state sees it: every operation keeps `J`, and the log
of the state is that of the run. -/
theorem sat_consuming {α : Type} {P : IngressOp → Prop} {J : IngressWorld rt → Prop}
    (hkept : ∀ w, J w → Kept hash rooms users members log w)
    (hstep : ∀ op r w rows w', P op → J w → w.Does hash op r rows w' → J w') {p : Handling α}
    (honly : Only P p) (hw : J w) :
    Sat (ingressEnvironment hash rooms users members log)
      (fun a w' => J w' ∧ ∃ events, w'.log = w.log ++ events ∧ Runs p events (.ok a))
      (fun _ w' => J w') (consuming p) w := by
  induction p generalizing w with
  | ret a => exact (sat_alone_ret _ _).mpr ⟨hw, [], by simp, .ret a⟩
  | throw e => exact (sat_alone_throw _ _).mpr hw
  | op o k ih =>
      refine (sat_alone_op _ _ _).mpr fun r w' hdoes => ?_
      obtain ⟨rows, hdoes⟩ := hdoes
      have hw' : J w' := hstep o r w rows w' honly.1 hw hdoes
      refine ⟨hkept w' hw', (ih r (honly.2 r) hw').mono ?_ fun _ _ h => h⟩
      intro a w'' h
      obtain ⟨hw'', events, hlog, hruns⟩ := h
      refine ⟨hw'', ⟨o, r⟩ :: events, ?_, runs_op_iff.mpr ⟨r, events, rfl, hruns⟩⟩
      rw [hlog, hdoes.log, List.append_assoc]
      rfl

/-- The handler of the next record has returned, and maybe its commit took effect. -/
structure Finished (hash : PyStr → Int) (rooms users : Nat → Bool) (members : Nat → Nat → Bool)
    (log : Set (ConsumerRecord KafkaValue)) (failed : List TopicPartition)
    (message : ConsumerRecord KafkaValue) (messages : List (ConsumerRecord KafkaValue))
    (w : IngressWorld rt) : Prop where
  batching : Batching hash rooms users members log failed (message :: messages) w
  handled : Handled log failed message messages w.group

/-- Taking a record up changes nothing but the marks. -/
theorem Batching.takeUp (h : Batching hash rooms users members log failed (message :: messages) w)
    (hopen : message.topicPartition ∉ failed) :
    Taken hash rooms users members log failed message messages
      { w with current := some message, log := [] } := by
  have hkept : Kept hash rooms users members log
      { w with current := some message, log := [] } := by
    refine ⟨h.kept.reached, h.kept.committed, h.kept.trails, ?_, ?_, h.kept.ordered⟩
    · intro m hm
      exact (h.kept.delivered m hm).grown (.of_same rfl rfl)
    · intro p hp
      exact (h.kept.inserts p hp).grown (.of_same rfl rfl)
  exact ⟨⟨hkept, h.underway, h.paced, h.logged⟩, hopen, rfl, by simp, by simp, by simp⟩

/-- The handler returns: its record joins those that returned, and this is the one new delivery
the invariant asks about. -/
theorem Taken.return (h : Taken hash rooms users members log failed message messages w)
    (hdelivered : Delivered w message) :
    Finished hash rooms users members log failed message messages
      { w with group := { w.group with returned := insert message w.group.returned } } := by
  have hhandled := h.batching.underway.handle h.opened
  have hkept := h.batching.kept
  have hgrown : Grown w
      { w with group := { w.group with returned := insert message w.group.returned } } :=
    .of_same rfl rfl
  refine ⟨⟨⟨hkept.reached, hhandled.underway.committed, hkept.trails, ?_, ?_, hkept.ordered⟩,
    hhandled.underway, h.batching.paced.of_same rfl rfl, h.batching.logged⟩, hhandled⟩
  · intro m hm
    rcases hm with rfl | hm
    · exact hdelivered.grown hgrown
    · exact (hkept.delivered m hm).grown hgrown
  · exact fun p hp => (hkept.inserts p hp).grown hgrown

/-- The handler of a record leaves it delivered: every operation keeps `Taken`, and the log with
which it returns is settled (`handleIngressRecord_returns`). -/
theorem Taken.handler (hlog : TopicLog log)
    (h : Taken hash rooms users members log failed message messages w) (hempty : w.log = []) :
    Sat (ingressEnvironment hash rooms users members log)
      (fun _ w' => Taken hash rooms users members log failed message messages w' ∧
        Delivered w' message)
      (fun _ w' => Batching hash rooms users members log failed (message :: messages) w')
      (consuming (handleIngressRecord rt settings message)) w := by
  have hstep : ∀ op r w rows w', Asks rt message op →
      Taken hash rooms users members log failed message messages w →
      w.Does hash op r rows w' →
      Taken hash rooms users members log failed message messages w' :=
    fun _ _ _ _ _ hasks h hdoes => h.does hlog hasks hdoes
  refine (sat_consuming (fun _ h => h.batching.kept) hstep asks_handleIngressRecord h).mono ?_
    fun _ _ h => h.batching
  intro outcome w' h'
  obtain ⟨htaken, events, hevents, hruns⟩ := h'
  rw [hempty, List.nil_append] at hevents
  have hsettled : Settled rt message w'.log := hevents ▸ handleIngressRecord_returns hruns
  exact ⟨htaken, hsettled.delivered htaken.recorded⟩

theorem sat_markedHandler (hlog : TopicLog log)
    (h : Batching hash rooms users members log failed (message :: messages) w)
    (hopen : message.topicPartition ∉ failed) :
    Sat (ingressEnvironment hash rooms users members log)
      (fun _ => Finished hash rooms users members log failed message messages)
      (fun _ w => Batching hash rooms users members log failed (message :: messages) w)
      (markedHandler rt settings message) w := by
  refine (sat_alone_op _ _ _).mpr fun _ w' hw' => ?_
  have htaken : Taken hash rooms users members log failed message messages w' :=
    hw' ▸ h.takeUp hopen
  have hempty : w'.log = [] := by rw [show w' = _ from hw']
  refine ⟨htaken.batching.kept,
    Sat.bind (p := consuming (handleIngressRecord rt settings message)) ingressEnvironment_refl
      (htaken.handler hlog hempty) fun outcome w'' hw'' => ?_⟩
  refine (sat_alone_op _ _ _).mpr fun _ w₃ hw₃ => ?_
  have hfinished : Finished hash rooms users members log failed message messages w₃ :=
    hw₃ ▸ hw''.1.return hw''.2
  exact ⟨hfinished.batching.kept, (sat_alone_ret _ _).mpr hfinished⟩

/-- An operation of the loop itself, which inserts nothing. -/
theorem Batching.does {op : IngressOp} {r : op.Res} {rows : List MessageRow}
    (h : Batching hash rooms users members log failed messages w)
    (hdoes : w.Does hash op r rows w') (hop : ∀ job, op ≠ .persistIngressJob job)
    {failed' : List TopicPartition} {messages' : List (ConsumerRecord KafkaValue)}
    (hunderway : Underway log failed' messages' w'.group)
    (hpaced : Paced log failed' messages' w.done w'.group)
    (hreturned : w'.group.returned = w.group.returned) (hsub : messages' ⊆ messages) :
    Batching hash rooms users members log failed' messages' w' := by
  have hrows : rows = [] := hdoes.system.rows_eq_nil h.kept.reached hop
  have habout : w.about rows = [] := by
    rw [hrows, IngressWorld.about]
    split <;> rfl
  have hdone : w'.done = w.done := by
    simp [IngressWorld.done, hdoes.inserted, habout]
  rw [← hdone] at hpaced
  refine ⟨?_, hunderway, hpaced, fun m hm => h.logged m (hsub hm)⟩
  exact h.kept.does hdoes hunderway.committed hpaced.trails hreturned (by simp [habout])
    (by simp [habout]) (by simp [habout])

/-- The commit after a handler, which may raise and still take effect. -/
theorem sat_commit (h : Finished hash rooms users members log failed message messages w) :
    Sat (ingressEnvironment hash rooms users members log)
      (fun _ => Batching hash rooms users members log failed messages)
      (fun _ w => Batching hash rooms users members log failed (message :: messages) w ∧
        message.topicPartition ∉ failed)
      (commitProcessedRecord ingressConsumer message) w := by
  have hb := h.batching
  have hopen := h.handled.opened
  refine (sat_alone_op _ _ _).mpr fun r w' hw' => ?_
  obtain ⟨rows, hdoes⟩ := hw'
  have hpersist : ∀ job, IngressOp.commit message.topicPartition (message.offset + 1) ≠
      .persistIngressJob job := by simp
  -- a commit that raised may have moved the offset or not
  have hunchanged : w'.group = w.group →
      Batching hash rooms users members log failed (message :: messages) w' := fun hgroup =>
    hb.does hdoes hpersist (hgroup ▸ hb.underway) (hgroup ▸ hb.paced) (by rw [hgroup])
      (List.Subset.refl _)
  have hcommitted : w'.group = w.group.committing message →
      Batching hash rooms users members log failed (message :: messages) w' := fun hgroup =>
    hb.does hdoes hpersist (hgroup ▸ h.handled.commit.underway)
      (hgroup ▸ hb.paced.commit hb.underway hopen) (by rw [hgroup]; rfl) (List.Subset.refl _)
  cases r with
  | ok done =>
      have hgroup : w'.group = w.group.committing message := hdoes.group
      have hnext : Batching hash rooms users members log failed messages w' := by
        refine hb.does hdoes hpersist (hgroup ▸ h.handled.commit.next) ?_ (by rw [hgroup]; rfl)
          (List.subset_cons_self _ _)
        rw [hgroup]
        exact (hb.paced.commit hb.underway hopen).next ((covered_committing rfl).mpr le_rfl)
      exact ⟨hnext.kept, (sat_alone_ret _ _).mpr hnext⟩
  | error e =>
      have hsame : Batching hash rooms users members log failed (message :: messages) w' := by
        rcases (hdoes.group : w'.group = w.group ∨ w'.group = w.group.committing message) with
          hgroup | hgroup
        · exact hunchanged hgroup
        · exact hcommitted hgroup
      exact ⟨hsame.kept, (sat_alone_throw _ _).mpr ⟨hsame, hopen⟩⟩

/-- The rewind to a record that failed. If it raises, the positions are as before; if not, the
partition stands at the record again and counts as failed. -/
theorem sat_seek (h : Batching hash rooms users members log failed (message :: messages) w)
    (hopen : message.topicPartition ∉ failed) :
    Sat (ingressEnvironment hash rooms users members log)
      (fun _ => Batching hash rooms users members log (message.topicPartition :: failed) messages)
      (fun _ w => Kept hash rooms users members log w)
      (seekFailedRecord ingressConsumer message) w := by
  refine (sat_alone_op _ _ _).mpr fun r w' hw' => ?_
  obtain ⟨rows, hdoes⟩ := hw'
  have hpersist : ∀ job, IngressOp.seek message.topicPartition message.offset ≠
      .persistIngressJob job := by simp
  cases r with
  | ok done =>
      have hgroup : w'.group = w.group.rewound message := hdoes.group
      have hnext : Batching hash rooms users members log (message.topicPartition :: failed)
          messages w' :=
        h.does hdoes hpersist (hgroup ▸ h.underway.rewind hopen)
          (hgroup ▸ h.paced.rewind h.underway hopen) (by rw [hgroup]; rfl)
          (List.subset_cons_self _ _)
      exact ⟨hnext.kept, (sat_alone_ret _ _).mpr hnext⟩
  | error e =>
      have hgroup : w'.group = w.group := hdoes.group
      have hsame : Batching hash rooms users members log failed (message :: messages) w' :=
        h.does hdoes hpersist (hgroup ▸ h.underway) (hgroup ▸ h.paced) (by rw [hgroup])
          (List.Subset.refl _)
      exact ⟨hsame.kept, (sat_alone_throw _ _).mpr hsame.kept⟩

/-- The loop over a batch keeps `Batching` from record to record, by the rule of
`process_records`; at its end nothing of the batch is left. -/
theorem sat_ingressBatch (hlog : TopicLog log) {records : Polled KafkaValue}
    (h : Batching hash rooms users members log [] records.messages w) :
    Sat (ingressEnvironment hash rooms users members log)
      (fun _ => Batching hash rooms users members log [] [])
      (fun _ w => Kept hash rooms users members log w) (ingressBatch rt settings records) w := by
  have hloop : Sat (ingressEnvironment hash rooms users members log)
      (fun _ w => ∃ failed, Batching hash rooms users members log failed [] w)
      (fun _ w => Kept hash rooms users members log w) (ingressBatch rt settings records) w := by
    refine sat_processRecords ingressEnvironment_refl
      (J := Batching hash rooms users members log) ?_ ?_ ?_ h
    · intro failed w w' hw h
      exact hw ▸ h
    · intro failed message messages w h hfailed
      exact ⟨h.kept, h.underway.skip hfailed, h.paced.skip hfailed,
        fun m hm => h.logged m (List.mem_cons_of_mem _ hm)⟩
    · intro failed message messages w h hopen
      refine sat_settleRecord ingressEnvironment_refl
        (H := Finished hash rooms users members log failed message messages)
        (G := fun w => Batching hash rooms users members log failed (message :: messages) w ∧
          message.topicPartition ∉ failed) ?_ (fun _ => sat_commit) ?_ ?_ ?_
      · exact (sat_markedHandler hlog h hopen).mono (fun _ _ h => h) fun _ _ h => ⟨h, hopen⟩
      · exact fun _ h => sat_seek h.1 h.2
      · exact fun w w' hw h => hw ▸ h
      · exact fun w w' hw h => hw ▸ h
  refine hloop.mono ?_ fun _ _ h => h
  intro _ w hw
  obtain ⟨failed, hw⟩ := hw
  exact ⟨hw.kept, ⟨hw.kept.committed, fun m hm hlt => Or.inl (hw.underway.idle.position m hm hlt),
    by simp, by simp⟩, hw.paced.idle, by simp⟩

/-! ### Whole runs

A poll starts a batch from what is kept, a crash ends it anywhere, and the rebuilt consumer begins
at the committed offsets. `invariant_of_idle` makes one induction of the three. -/

theorem batching_fresh (rt : Runtime) : Batching hash rooms users members log [] []
    (IngressWorld.fresh rt rooms users members) where
  kept :=
    { reached := ⟨[], .nil⟩
      committed := idle_fresh.committed
      trails := fun p hp => by simp [IngressWorld.done, IngressWorld.fresh] at hp
      delivered := fun m hm => by simp [IngressWorld.fresh, Group.fresh] at hm
      inserts := fun p hp => by simp [IngressWorld.fresh] at hp
      ordered := List.Pairwise.nil }
  underway := ⟨idle_fresh.committed, fun m hm hlt => Or.inl (idle_fresh.position m hm hlt),
    by simp, by simp⟩
  paced := by
    have hnone : (IngressWorld.fresh rt rooms users members).done = ∅ := by
      simp [IngressWorld.done, IngressWorld.fresh]
    rw [hnone]
    exact paced_fresh
  logged := by simp

/-- A poll changes nothing but the positions: the records it returns are the next ones of their
partitions. -/
theorem Batching.poll {records : Polled KafkaValue}
    (h : Batching hash rooms users members log [] [] w)
    (hfetched : Fetched log w.group records) :
    Batching hash rooms users members log [] records.messages
      { w with group := w.group.advanced records } := by
  have hgrown : Grown w { w with group := w.group.advanced records } :=
    .of_same rfl rfl
  refine ⟨⟨h.kept.reached, h.kept.committed, h.kept.trails, ?_, ?_, h.kept.ordered⟩,
    h.underway.idle.poll hfetched, h.paced.poll hfetched, fun m hm => (hfetched.stored m hm).1⟩
  · exact fun m hm => (h.kept.delivered m hm).grown hgrown
  · exact fun p hp => (h.kept.inserts p hp).grown hgrown

/-- A rebuilt consumer starts over from what is kept. -/
theorem Kept.rebuilt (h : Kept hash rooms users members log w) :
    Batching hash rooms users members log [] [] { w with group := w.group.rebuilt } := by
  have hidle := h.committed.rebuilt
  have hgrown : Grown w { w with group := w.group.rebuilt } :=
    .of_same rfl rfl
  refine ⟨⟨h.reached, h.committed, h.trails, ?_, ?_, h.ordered⟩,
    ⟨hidle.committed, fun m hm hlt => Or.inl (hidle.position m hm hlt), by simp, by simp⟩,
    h.trails.rebuilt, by simp⟩
  · exact fun m hm => (h.delivered m hm).grown hgrown
  · exact fun p hp => (h.inserts p hp).grown hgrown

/-- The invariant holds in every state of the process. -/
theorem ingress_kept (hlog : TopicLog log) {c : Option (Consuming Unit)}
    (hreach : (ingressProcess rt settings hash log).Reaches
      (none, .fresh rt rooms users members) (c, w)) :
    Kept hash rooms users members log w := by
  have hidle : ∀ w : IngressWorld rt, Batching hash rooms users members log [] [] w →
      Kept hash rooms users members log w := fun _ h => h.kept
  refine (ingressProcess rt settings hash log).invariant_of_idle
    (Q := fun _ => Batching hash rooms users members log [] [])
    (E := fun _ => Kept hash rooms users members log) hidle ?_ ?_ ?_ ?_ (batching_fresh rt) hreach
  · intro w p w' h hstart
    obtain ⟨records, hfetched, rfl, rfl⟩ := hstart
    have hpolled := h.poll hfetched
    exact ⟨hpolled.kept, sat_ingressBatch hlog hpolled⟩
  · intro _ w w' _ h hend
    exact hend ▸ h
  · intro _ w w' h _ hthrow
    exact hthrow ▸ h.rebuilt
  · intro w w' h hcrash
    exact hcrash ▸ h.rebuilt

/-- Two inserted rows are in `Follows` one way or the other, so that the numbers of a stream are in
the order of the offsets of a partition. -/
theorem Kept.offset_lt_iff (h : Kept hash rooms users members log w)
    {p q : ConsumerRecord KafkaValue × MessageRow} (hp : p ∈ w.inserted) (hq : q ∈ w.inserted)
    (hpartition : p.1.topicPartition = q.1.topicPartition) (hroom : p.2.room_id = q.2.room_id) :
    p.1.offset < q.1.offset ↔ p.2.room_seq < q.2.room_seq := by
  rcases eq_or_ne p q with rfl | hne
  · simp
  have heither : w.inserted.Pairwise fun p q => Follows p q ∨ Follows q p :=
    h.ordered.imp fun hfollows => Or.inl hfollows
  have hsymm : Std.Symm fun p q : ConsumerRecord KafkaValue × MessageRow =>
      Follows p q ∨ Follows q p := ⟨fun _ _ => Or.symm⟩
  rcases heither.forall hp hq hne with hpq | hqp
  · exact iff_of_true (hpq.offset hpartition) (hpq.room_seq hroom)
  · have hoffset := hqp.offset hpartition.symm
    have hseq := hqp.room_seq hroom.symm
    omega

end IngressProcess

open IngressProcess in
/-- **Exactly once, and in the order of the log.** In every run, with failures, lost
acknowledgements and restarts anywhere, no request has two rows. Of two rows of a stream that
were inserted for records of one partition, the smaller number belongs to the smaller offset. A
record below a committed offset had a handler that returned, and it has been delivered.

All of it is read off `Kept`: the table's invariant comes with the reachable database, two
inserted rows are in `Follows` one way or the other (`Kept.offset_lt_iff`), and an offset is
committed only behind handlers that returned. -/
theorem ingress_exactlyOnce {rt : Runtime} {settings : IngressSettings} {hash : PyStr → Int}
    {rooms users : Nat → Bool} {members : Nat → Nat → Bool}
    {log : Set (ConsumerRecord KafkaValue)} (hlog : TopicLog log) {c : Option (Consuming Unit)}
    {w : IngressWorld rt} (hreach : (ingressProcess rt settings hash log).Reaches
      (none, .fresh rt rooms users members) (c, w)) :
    ((w.system.db.messages.map (·.request_id)).Nodup ∧
        (w.inserted.map (·.2.request_id)).Nodup ∧
        ∀ p ∈ w.inserted, p.1 ∈ log ∧ p.2 ∈ w.system.db.messages) ∧
      (∀ p ∈ w.inserted, ∀ q ∈ w.inserted, p.1.topicPartition = q.1.topicPartition →
        p.2.room_id = q.2.room_id → (p.1.offset < q.1.offset ↔ p.2.room_seq < q.2.room_seq)) ∧
      ∀ m ∈ log, ∀ n, w.group.committed m.topicPartition = some n → m.offset < n →
        m ∈ w.group.returned ∧ Delivered w m := by
  have hkept := ingress_kept hlog hreach
  refine ⟨⟨hkept.reached.good.inv.request_ids, ?_, ?_⟩, ?_, ?_⟩
  · exact List.pairwise_map.mpr (hkept.ordered.imp fun h => h.request_id)
  · exact fun p hp => ⟨(hkept.inserts p hp).logged, (hkept.inserts p hp).stored⟩
  · exact fun p hp q hq hpartition hroom => hkept.offset_lt_iff hp hq hpartition hroom
  · intro m hm n hn hlt
    have hreturned := hkept.committed m hm n hn hlt
    exact ⟨hreturned, hkept.delivered m hreturned⟩

namespace IngressProcess

/-- The first record of a topic and the one behind it: two events of a user for stream 7. -/
def firstRecord : ConsumerRecord KafkaValue :=
  ⟨"message-ingress", 0, 0, some [55], .json (.obj (sampleObject "r1" .null .null))⟩

def secondRecord : ConsumerRecord KafkaValue :=
  ⟨"message-ingress", 0, 1, some [55], .json (.obj (sampleObject "r2" .null .null))⟩

theorem secondRecord_accepted :
    (validateIngressObject .sample (sampleObject "r2" .null .null)).2.isOk = true := by
  decide +kernel

/-- The event of `secondRecord`. -/
def secondJob : ValidatedJob .sample := plainJob "r2" secondRecord_accepted

theorem firstRecord_read : (readIngress .sample firstRecord.value).2 = .ok sampleJob.job :=
  readIngress_plainJob _ _

theorem secondRecord_read : (readIngress .sample secondRecord.value).2 = .ok secondJob.job :=
  readIngress_plainJob _ _

/-- The topic with these two records. -/
def twoRecords : Set (ConsumerRecord KafkaValue) := {firstRecord, secondRecord}

theorem twoRecords_log : TopicLog twoRecords := by
  have hpartition : ∀ a ∈ twoRecords, a.topicPartition = ⟨"message-ingress", 0⟩ := by
    intro a ha
    rcases ha with rfl | rfl <;> rfl
  refine ⟨?_, fun a ha b hb _ _ => (hpartition a ha).trans (hpartition b hb).symm⟩
  intro a ha b hb _ hoffset
  rcases ha with rfl | rfl <;> rcases hb with rfl | rfl
  · rfl
  · exact absurd hoffset (by decide)
  · exact absurd hoffset (by decide)
  · rfl

/-- The process at this topic. -/
abbrev twoRecordsProcess :=
  ingressProcess .sample ⟨5, PyFloat.ofNat 1⟩ (fun _ => 0) twoRecords

/-- The small system with nothing consumed. -/
abbrev freshWorld : IngressWorld .sample :=
  .fresh .sample (· == 7) (· == 3) fun room user => room == 7 && user == 3

/-- Both records are polled, stored, numbered and committed. -/
theorem twoRecords_reaches : ∃ w : IngressWorld .sample,
    twoRecordsProcess.Reaches (none, freshWorld) (none, w) ∧
    w.group.committed ⟨"message-ingress", 0⟩ = some 2 ∧
    w.inserted.map (fun p => (p.1, p.2.room_seq)) = [(firstRecord, 1), (secondRecord, 2)] := by
  have hplay : ((play (engine fun _ => 0) (program .sample)
      (wholeTransaction 0 (.persist sampleJob) 7) sampleSim).bind fun p =>
        (play (engine fun _ => 0) (program .sample)
          (wholeTransaction 0 (.persist secondJob) 7) p.2).map fun q =>
            (p.2.db.messages.map (·.room_seq), q.2.db.messages.map (·.room_seq)))
      = some ([1], [1, 2]) := by decide +kernel
  -- the two transactions, played one after the other
  obtain ⟨⟨es, σ⟩, hfirst, hplay⟩ := Option.bind_eq_some_iff.mp hplay
  obtain ⟨⟨es', σ'⟩, hsecond, hstate⟩ := Option.map_eq_some_iff.mp hplay
  obtain ⟨hseqs, hseqs'⟩ := Prod.mk.inj hstate
  have hlength : σ.db.messages.length = 1 := by simpa using congrArg List.length hseqs
  have hlength' : σ'.db.messages.length = 2 := by simpa using congrArg List.length hseqs'
  have hreached : Reached (fun _ => 0) (· == 7) (· == 3) (fun room user => room == 7 && user == 3)
      sampleSim.toSystem := ⟨[], .nil⟩
  obtain ⟨hist, hrun, -⟩ := play_run hfirst
  obtain ⟨response, row, hrow, htransacts⟩ := transacts_of_play hreached hfirst hlength
  obtain ⟨response', row', hrow', htransacts'⟩ := transacts_of_play (hreached.trans ⟨hist, hrun⟩)
    hsecond (by rw [hlength', hlength])
  have hfresh : twoRecordsProcess.Reaches (none, freshWorld) (none, freshWorld) := .refl
  obtain ⟨w, hreach, hsystem, hinserted, hposition, -⟩ := reaches_stored hfresh
    (TopicLog.fetched twoRecords_log (Or.inl rfl) rfl) firstRecord_read rfl (by decide +kernel)
    (by decide +kernel) htransacts
  obtain ⟨w', hreach', -, hinserted', -, hcommitted⟩ := reaches_stored hreach
    (TopicLog.fetched twoRecords_log (Or.inr rfl) hposition) secondRecord_read rfl
    (by decide +kernel) (by decide +kernel) (hsystem ▸ htransacts')
  refine ⟨w', hreach', hcommitted, ?_⟩
  have hnumbers : [row.room_seq, row'.room_seq] = [1, 2] := by
    rw [← hseqs', hrow', hrow]
    rfl
  simp only [List.cons.injEq, and_true] at hnumbers
  rw [hinserted', hinserted]
  show [(firstRecord, row.room_seq), (secondRecord, row'.room_seq)] = _
  rw [hnumbers.1, hnumbers.2]

end IngressProcess

open IngressProcess in
/-- Two records that were stored and committed, with their numbers in the order of their
offsets. -/
theorem ingress_exactlyOnce_sample : ∃ w : IngressWorld .sample, ∃ first second : MessageRow,
    w.inserted = [(firstRecord, first), (secondRecord, second)] ∧
    (w.system.db.messages.map (·.request_id)).Nodup ∧
    (firstRecord.offset < secondRecord.offset ↔ first.room_seq < second.room_seq) ∧
    (firstRecord ∈ w.group.returned ∧ Delivered w firstRecord) ∧
    secondRecord ∈ w.group.returned ∧ Delivered w secondRecord := by
  obtain ⟨w, hreach, hcommitted, hinserted⟩ := twoRecords_reaches
  obtain ⟨⟨hunique, -, -⟩, horder, hdelivered⟩ := ingress_exactlyOnce twoRecords_log hreach
  -- the two rows, which the numbered list names
  obtain ⟨⟨_, first⟩, rest, hrows, hfirst, hrest⟩ := List.map_eq_cons_iff.mp hinserted
  obtain ⟨⟨_, second⟩, rest', hrows', hsecond, hnone⟩ := List.map_eq_cons_iff.mp hrest
  obtain ⟨rfl, hone⟩ := Prod.mk.inj hfirst
  obtain ⟨rfl, htwo⟩ := Prod.mk.inj hsecond
  rw [hrows', List.map_eq_nil_iff.mp hnone] at hrows
  have hkept := ingress_kept twoRecords_log hreach
  have hroom : first.room_id = second.room_id := by
    obtain ⟨n, hread, -, hevent⟩ := (hkept.inserts (firstRecord, first) (by simp [hrows])).event
    obtain ⟨n', hread', -, hevent'⟩ := (hkept.inserts (secondRecord, second) (by simp [hrows])).event
    obtain rfl := Except.ok.inj (hread.symm.trans firstRecord_read)
    obtain rfl := Except.ok.inj (hread'.symm.trans secondRecord_read)
    rw [hevent.room_id, hevent'.room_id]
    decide +kernel
  refine ⟨w, first, second, hrows, hunique, ?_, ?_, ?_⟩
  · exact horder (firstRecord, first) (by simp [hrows]) (secondRecord, second) (by simp [hrows])
      rfl hroom
  · exact hdelivered firstRecord (Or.inl rfl) 2 hcommitted (by decide)
  · exact hdelivered secondRecord (Or.inr rfl) 2 hcommitted (by decide)

end EventPipeline.Guarantees
