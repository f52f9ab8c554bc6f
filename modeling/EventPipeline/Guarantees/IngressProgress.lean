import EventPipeline.Guarantees.IngressRuns

/-!
# EventPipeline.Guarantees.IngressProgress

How the ingress worker gets on: a record whose event the database takes is polled, stored and
committed in one batch.

The safety of `IngressSafety` says what holds in every run; this module says that the runs meant
there exist. `reaches_stored` follows the next record of a topic through one batch, given a
transaction that stores its event; `transacts_of_play` gets such transactions from scripts.
-/

namespace EventPipeline.Guarantees

open EventPipeline.Python EventPipeline.Portfolio EventPipeline.Postgres EventPipeline.Worker
open EventPipeline.Concurrency EventPipeline.Concurrency.Prog

namespace IngressProcess

open DeadLetter InlineRetry

variable {rt : Runtime} {settings : IngressSettings} {hash : PyStr → Int}
  {log : Set (ConsumerRecord KafkaValue)} {m : ConsumerRecord KafkaValue}

/-! ### The handler

The first pass of the loop over a new job sleeps nowhere, so the transaction is the first thing
that the handler asks for; a response is also the last. -/

/-- An event under the key of its stream goes to the database at once. -/
theorem handleIngressRecord_persists {n : IngressJob} {key : Bytes}
    (hread : (readIngress rt m.value).2 = .ok n)
    (hkey : m.key = some key) (hroom : utf8Decode key = some (natStr n.room_id))
    (hnew : n.next_retry_at = none) :
    ∃ k, handleIngressRecord rt settings m = .op (.persistIngressJob n) k ∧
      ∀ response, k (.ok response) = .ret .success := by
  rw [handleIngressRecord_accepted hread ⟨key, hkey, hroom⟩, persistLoop]
  unfold persistPass awaitNextRetry
  rw [hnew]
  exact ⟨_, rfl, fun response => rfl⟩

/-- A value that is accepted and not marked is read as its job. -/
theorem readIngress_ofObject {d : Dict} (hunique : Json.Unique (.obj d))
    (haccepted : (validateIngressObject rt d).2.isOk = true)
    (hmarked : isInvalidKafkaPayload (.obj d) = false) :
    (readIngress rt (.json (.obj d))).2 =
      .ok (ValidatedJob.ofObject d hunique haccepted).job := by
  have hjob := ValidatedJob.ofObject_validates hunique haccepted
  simp [readIngress, hmarked, hjob, Except.mapError]

theorem readIngress_plainJob (request_id : PyStr) (haccepted : (validateIngressObject .sample
    (sampleObject request_id .null .null)).2.isOk = true) :
    (readIngress .sample (.json (.obj (sampleObject request_id .null .null)))).2 =
      .ok (plainJob request_id haccepted).job :=
  readIngress_ofObject _ haccepted rfl

/-! ### A batch of one record

`settling` is the batch from where its handler runs on. It is stated of any handler program, so
that the steps of the handler can be followed one by one with the rest of the batch behind them. -/

/-- What is left of a batch whose last record is in its handler. -/
def settling (m : ConsumerRecord KafkaValue) (handler : Handling IngressOutcome) :
    Consuming Unit := do
  let _ ← settleRecord ingressConsumer (fun message => do
    let outcome ← consuming handler
    Prog.call (ConsumerOp.returned message)
    return outcome) m
  return ()

theorem ingressBatch_single : ingressBatch rt settings [(m.topicPartition, [m])] =
    .op (.takeUp m) fun _ => settling m (handleIngressRecord rt settings m) := by
  unfold ingressBatch processWorkerBatch
  show processRecords _ _ _ _ _ [m] = _
  rw [processRecords, if_neg List.not_mem_nil]
  show Prog.op (ConsumerOp.takeUp m) _ = _
  refine congrArg _ (funext fun _ => ?_)
  refine congrArg (Prog.bind _) (funext fun outcome => ?_)
  cases outcome <;> rfl

theorem settling_op (o : IngressOp) (k : o.Res → Handling IngressOutcome) :
    settling m (.op o k) = .op (.run o) fun r => settling m (k r) := rfl

theorem settling_ret (outcome : IngressOutcome) : ∃ k, settling m (.ret outcome) =
      .op (.returned m) (fun _ => .op (.run (.commit m.topicPartition (m.offset + 1))) k) ∧
    k (.ok ()) = .ret () :=
  ⟨_, rfl, rfl⟩

/-! ### From the poll to the commit -/

variable {w : IngressWorld rt} {start : Option (Consuming Unit) × IngressWorld rt}


variable {w : IngressWorld rt} {start : Option (Consuming Unit) × IngressWorld rt}

/-- One operation of the handler or of the loop. -/
theorem reaches_does {op : IngressOp} {r : op.Res} {rows : List MessageRow} {w' : IngressWorld rt}
    {k : op.Res → Consuming Unit}
    (hreach : (ingressProcess rt settings hash log).Reaches start (some (.op (.run op) k), w))
    (hdoes : w.Does hash op r rows w') :
    (ingressProcess rt settings hash log).Reaches start (some (k r), w') :=
  hreach.tail (.run ⟨rows, hdoes⟩)

/-- The next record is polled, stored at the first try and committed. -/
theorem reaches_stored {v : ValidatedJob rt} {response : Dict} {row : MessageRow}
    {s : WorkerSystem rt}
    (hreach : (ingressProcess rt settings hash log).Reaches start (none, w))
    (hfetched : Fetched log w.group [(m.topicPartition, [m])])
    (hread : (readIngress rt m.value).2 = .ok v.job) (hkey : m.key = some key)
    (hroom : utf8Decode key = some (natStr v.job.room_id)) (hnew : v.job.next_retry_at = none)
    (hstored : Transacts hash (.persist v) w.system (.ok (.response response)) [row] s) :
    ∃ w' : IngressWorld rt, (ingressProcess rt settings hash log).Reaches start (none, w') ∧
      w'.system = s ∧ w'.inserted = w.inserted ++ [(m, row)] ∧
      w'.group.position m.topicPartition = m.offset + 1 ∧
      w'.group.committed m.topicPartition = some (m.offset + 1) := by
  have hothers : ∀ s : WorkerSystem rt, Others hash s s := fun s => ⟨[], .nil⟩
  have hpersists : ∃ k, handleIngressRecord rt settings m = .op (.persistIngressJob v.job) k ∧
      ∀ response, k (.ok response) = .ret .success :=
    handleIngressRecord_persists hread hkey hroom hnew
  -- the worlds of the run, in order: polled, taken up, persisted, returned, committed
  obtain ⟨k, hhandler, hk⟩ := hpersists
  obtain ⟨k', hlast, hk'⟩ := settling_ret (m := m) .success
  have hpolled := hreach.tail (.start ⟨_, hfetched, rfl, rfl⟩)
  rw [ingressBatch_single, hhandler] at hpolled
  have htaken := hpolled.tail (Driver.Step.run (o := ConsumerOp.takeUp m) (r := ()) rfl)
  rw [settling_op] at htaken
  let reply : Except PyExc Dict := .ok (committedResponse [] response)
  let w₁ : IngressWorld rt := { w with
    group := w.group.advanced [(m.topicPartition, [m])], current := some m, log := [] }
  let w₂ : IngressWorld rt := { w₁ with
    system := s, log := [⟨.persistIngressJob v.job, reply⟩], inserted := w.inserted ++ [(m, row)] }
  have hdoes : w₁.Does hash (.persistIngressJob v.job) reply [row] w₂ :=
    { system := ⟨v, rfl, .ok (.response response), hstored, [], rfl⟩
      deadLetters := rfl, group := rfl, current := rfl, log := rfl, inserted := rfl }
  have hpersisted := reaches_does htaken hdoes
  rw [hk, hlast] at hpersisted
  have hreturned := hpersisted.tail (Driver.Step.run (o := ConsumerOp.returned m) (r := ()) rfl)
  let w₃ : IngressWorld rt := { w₂ with
    group := { w₂.group with returned := insert m w₂.group.returned } }
  -- the handler has returned, so the offset behind the record is committed
  let committing : IngressOp := .commit m.topicPartition (m.offset + 1)
  let w₄ : IngressWorld rt := { w₃ with
    group := w₃.group.committing m, log := w₃.log ++ [⟨committing, (.ok () : Except PyExc Unit)⟩] }
  have hcommits : w₃.Does hash committing (.ok () : Except PyExc Unit) [] w₄ :=
    { system := ⟨hothers s, rfl⟩
      deadLetters := rfl, group := rfl, current := rfl, log := rfl
      inserted := (List.append_nil _).symm }
  have hcommitted := reaches_does hreturned hcommits
  rw [hk'] at hcommitted
  refine ⟨w₄, hcommitted.tail (.finish rfl), rfl, rfl, ?_, Function.update_self ..⟩
  simp [w₄, w₃, w₂, w₁, Group.committing, Group.advanced, advancedPosition, Polled.messages]

/-- A transaction that plays in one piece and adds a row, as the worker gets it. -/
theorem transacts_of_play {rooms users : Nat → Bool} {members : Nat → Nat → Bool}
    {v : ValidatedJob .sample} {n : Nat} {es : List (WorkerEvent .sample)}
    {σ σ' : Sim Stmt Stmt.Res PyExc Answer (Task .sample) Tables Ext Write Lock}
    (hreached : Reached hash rooms users members σ.toSystem)
    (hplay : play (engine hash) (program .sample) (wholeTransaction 0 (.persist v) n) σ =
      some (es, σ'))
    (hadds : σ'.db.messages.length = σ.db.messages.length + 1) :
    ∃ response row, σ'.db.messages = σ.db.messages ++ [row] ∧
      Transacts hash (.persist v) σ.toSystem (.ok (.response response)) [row] σ'.toSystem := by
  obtain ⟨hist, s, a, hrun, hdb, hcommit⟩ := play_transaction hplay
  have hmessages : s.db.messages = σ.db.messages := by rw [hdb]
  have hs : Reached hash rooms users members s := hreached.trans ⟨hist, hrun⟩
  obtain ⟨response, rfl⟩ : ∃ response, a = .response response := by
    cases step_effect hs.good hcommit with
    | persisted v' response view he hdb hpost hafter =>
        cases he
        exact ⟨response, rfl⟩
    | stored request_id payload owner view he hdb hpost hafter => cases he
    | other hpersist hstatus hsame hstatuses => exact absurd rfl (hpersist v a)
  rcases (persist_commit hs hcommit).2 with hsame | ⟨row, hrow, -⟩
  · have hlength : σ'.db.messages.length = s.db.messages.length := congrArg List.length hsame
    rw [hmessages] at hlength
    omega
  · refine ⟨response, row, hmessages ▸ hrow, ?_⟩
    exact .committed ⟨hist, hrun⟩ hcommit hrow ⟨[], .nil⟩

end IngressProcess

end EventPipeline.Guarantees
