import EventPipeline.Worker.Batch
import Mathlib.Data.Set.Insert

/-!
# EventPipeline.Guarantees.Offsets

What both batch loops guarantee about offsets, for any handler and any broker.

A handler is one operation here (`BatchOp.handle`) that returns or raises as the
environment decides, and so do the commit and the rewind. A commit that raises may have
taken effect. The broker keeps the committed offsets and the consumer its positions;
`consumerProcess` polls, runs a batch, and rebuilds the consumer after a batch that raised
or was cut off.

What a loop guarantees within one batch is stated over the operations it performs
(`Prog.trace`), for every answer to each of them. A batch asks for no operation twice, so
a function of the operation is as general as any environment.
-/

namespace EventPipeline.Guarantees

open EventPipeline.Python EventPipeline.Portfolio EventPipeline.Concurrency
open EventPipeline.Worker

variable {ν ρ β : Type}

/-! ### The environment of a batch

Handlers, commits and rewinds are operations, and the environment decides how each of them ends. A
commit has three ends, because one that raises for the client may have taken effect at the broker.
-/

/-- What a batch asks its environment for. -/
inductive BatchOp (ν : Type)
  | pingDb
  | handle (message : ConsumerRecord ν)
  | commit (partition : TopicPartition) (offset : Nat)
  | seek (partition : TopicPartition) (offset : Nat)

/-- How an offset commit ends for the client. -/
inductive CommitReply
  | done
  | raised (exc : PyExc) (tookEffect : Bool)

/-- The answers. -/
abbrev BatchOp.Res (ρ : Type) : BatchOp ν → Type
  | .pingDb => Bool
  | .handle _ => Except PyExc ρ
  | .commit _ _ => CommitReply
  | .seek _ _ => Except PyExc Unit

/-- A program over these operations. -/
abbrev Batch (ν ρ α : Type) := Prog (BatchOp ν) (BatchOp.Res ρ) PyExc α

/-- The partition an operation is about. -/
def BatchOp.partition? : BatchOp ν → Option TopicPartition
  | .pingDb => none
  | .handle message => some message.topicPartition
  | .commit partition _ => some partition
  | .seek partition _ => some partition

/-- The consumer of such a program. -/
def batchConsumer : Consumer (BatchOp ν) (BatchOp.Res ρ) where
  commit partition offset := do
    let reply ← Prog.call (BatchOp.commit partition offset)
    match reply with
    | .done => return ()
    | .raised e _ => .throw e
  seek partition offset := do
    let reply ← Prog.call (BatchOp.seek partition offset)
    .ofExcept reply

/-- The handler, as one operation. -/
def handleRecord (message : ConsumerRecord ν) : Batch ν ρ ρ := do
  let reply ← Prog.call (BatchOp.handle message)
  .ofExcept reply

/-- `_process_worker_batch` in this environment. -/
def workerBatch (records : Polled ν) : Batch ν ρ Unit :=
  processWorkerBatch batchConsumer handleRecord records

/-- `_process_replay_batch` in this environment. -/
def replayBatch (records : Polled ν) : Batch ν Bool Nat :=
  processReplayBatch (Prog.call BatchOp.pingDb) batchConsumer handleRecord records

/-! ### The consumer group

The group is all that outlives a batch: the committed offsets, the positions of the consumer, and,
for the statements only, the records whose handler has returned. -/

/-- The committed offsets at the broker, where the consumer fetches next, and the records
whose handler has returned. -/
structure Group (ν : Type) where
  committed : TopicPartition → Option Nat
  position : TopicPartition → Nat
  returned : Set (ConsumerRecord ν)

/-- What an operation does to the group. -/
def BatchOp.apply (w : Group ν) : (o : BatchOp ν) → BatchOp.Res ρ o → Group ν
  | .pingDb, _ => w
  | .handle message, .ok _ => { w with returned := insert message w.returned }
  | .handle _, .error _ => w
  | .commit partition offset, .done =>
      { w with committed := Function.update w.committed partition (some offset) }
  | .commit partition offset, .raised _ true =>
      { w with committed := Function.update w.committed partition (some offset) }
  | .commit _ _, .raised _ false => w
  | .seek partition offset, .ok () =>
      { w with position := Function.update w.position partition offset }
  | .seek _ _, .error _ => w

/-- A new group that reads from the earliest record. -/
def Group.fresh : Group ν := ⟨fun _ => none, fun _ => 0, ∅⟩

/-- A rebuilt consumer resumes at the committed offsets. -/
def Group.rebuilt (w : Group ν) : Group ν :=
  { w with position := fun p => (w.committed p).getD 0 }

/-- A polled batch has one entry a partition, with its records in offset order. -/
structure WellFormed (records : Polled ν) : Prop where
  keys : (records.map (·.1)).Nodup
  own : ∀ p ∈ records, ∀ m ∈ p.2, m.topicPartition = p.1
  ordered : ∀ p ∈ records, p.2.Pairwise fun a b => a.offset < b.offset

/-- Fetched records are the next ones of the log, none left out. `log` is every record
the topic will ever hold; one that is not written yet is not polled yet. -/
structure Fetched (log : Set (ConsumerRecord ν)) (w : Group ν) (records : Polled ν) : Prop where
  wellFormed : WellFormed records
  stored : ∀ m ∈ records.messages, m ∈ log ∧ w.position m.topicPartition ≤ m.offset
  gapless : ∀ last ∈ records.messages, ∀ m ∈ log, m.topicPartition = last.topicPartition →
    w.position m.topicPartition ≤ m.offset → m.offset ≤ last.offset → m ∈ records.messages

/-- The position of a partition after a poll: behind its last fetched record. -/
def advancedPosition (w : Group ν) (records : Polled ν) (p : TopicPartition) : Nat :=
  match (records.messages.filter fun m => m.topicPartition = p).getLast? with
  | some last => last.offset + 1
  | none => w.position p

/-- The group after a poll. -/
def Group.advanced (w : Group ν) (records : Polled ν) : Group ν :=
  { w with position := advancedPosition w records }

/-- The process around a batch loop: poll, run the batch, and rebuild the consumer when
the batch raises or the process dies at any point. -/
def consumerProcess (log : Set (ConsumerRecord ν)) (batch : Polled ν → Batch ν ρ β) :
    Driver (BatchOp ν) (BatchOp.Res ρ) PyExc β (Group ν) where
  step o w r w' := w' = o.apply w r
  starts w p w' := ∃ records, Fetched log w records ∧ p = batch records ∧ w' = w.advanced records
  ends _ w w' := w' = w
  throws _ w w' := w' = w.rebuilt
  crashes w w' := w' = w.rebuilt

/-! ### What a loop guarantees

The guarantee is about one batch and about whole runs. It is stated for any loop over the
operations, and then proved of the two loops of the source. -/

/-- A record failed in a batch: its handler raised, or the commit after it did. -/
def Failed (answer : (o : BatchOp ν) → BatchOp.Res ρ o) (ops : List (BatchOp ν))
    (m : ConsumerRecord ν) : Prop :=
  (.handle m ∈ ops ∧ ∃ e, answer (.handle m) = .error e) ∨
    (.commit m.topicPartition (m.offset + 1) ∈ ops ∧
      ∃ e t, answer (.commit m.topicPartition (m.offset + 1)) = .raised e t)

/-- The group after a list of operations. -/
def Group.after (answer : (o : BatchOp ν) → BatchOp.Res ρ o) (w : Group ν)
    (ops : List (BatchOp ν)) : Group ν :=
  ops.foldl (fun w o => o.apply w (answer o)) w

/-- A batch without the entry of one partition. -/
def withoutPartition (records : Polled ν) (p : TopicPartition) : Polled ν :=
  records.filter fun entry => entry.1 ≠ p

/-- The rewind of a partition raises nowhere in a batch. -/
def Rewinds (answer : (o : BatchOp ν) → BatchOp.Res ρ o) (records : Polled ν)
    (p : TopicPartition) : Prop :=
  ∀ m ∈ records.messages, m.topicPartition = p → answer (.seek p m.offset) = .ok ()

/-- **Offset safety** of a batch loop. -/
structure OffsetSafe (batch : Polled ν → Batch ν ρ β) : Prop where
  /-- In every reachable state of the process, the handlers of all records below a
  committed offset have returned. -/
  committed : ∀ (log : Set (ConsumerRecord ν)) c w,
    (consumerProcess log batch).Reaches (none, .fresh) (c, w) →
    ∀ m ∈ log, ∀ n, w.committed m.topicPartition = some n → m.offset < n → m ∈ w.returned
  /-- After a record has failed, no later record of its partition is handled. -/
  stops : ∀ records answer, WellFormed records → ∀ m ∈ records.messages,
    Failed answer (Prog.trace answer (batch records)).1 m →
    ∀ m' ∈ records.messages, m'.topicPartition = m.topicPartition → m.offset < m'.offset →
      .handle m' ∉ (Prog.trace answer (batch records)).1
  /-- Unless its rewind raises, a partition that failed stands at the record that failed after the
  operations of the batch. Where the rewind of another partition raises, the exception leaves the
  batch, and the consumer is rebuilt from the committed offsets. -/
  rewinds : ∀ records answer, WellFormed records → ∀ m ∈ records.messages,
    Failed answer (Prog.trace answer (batch records)).1 m →
    answer (.seek m.topicPartition m.offset) = .ok () →
    ∀ w : Group ν,
      (w.after answer (Prog.trace answer (batch records)).1).position m.topicPartition = m.offset
  /-- Unless its own rewind raises, a partition makes no difference to the others. -/
  isolates : ∀ records answer, WellFormed records → ∀ p, Rewinds answer records p →
    (Prog.trace answer (batch (withoutPartition records p))).1 =
      (Prog.trace answer (batch records)).1.filter fun o => o.partition? ≠ some p

/-! ### The committed offset over whole runs

Inside a batch a position is ahead of what has been handled: the invariant `Underway` says what is
still to come. It is kept by each of the operations, so that a crash between any two of them
leaves a committed offset with nothing unhandled below it. -/

section Runs

variable {log : Set (ConsumerRecord ν)} {w : Group ν}

/-- The handlers of all records below a committed offset have returned. -/
def CommittedSafe (log : Set (ConsumerRecord ν)) (w : Group ν) : Prop :=
  ∀ m ∈ log, ∀ n, w.committed m.topicPartition = some n → m.offset < n → m ∈ w.returned

/-- Between two batches nothing below a position is missing either. -/
structure Idle (log : Set (ConsumerRecord ν)) (w : Group ν) : Prop where
  committed : CommittedSafe log w
  position : ∀ m ∈ log, m.offset < w.position m.topicPartition → m ∈ w.returned

/-- Inside a batch, what is below a position has returned or is still to come, the latter
only for a partition that has not failed. -/
structure Underway (log : Set (ConsumerRecord ν)) (failed : List TopicPartition)
    (messages : List (ConsumerRecord ν)) (w : Group ν) : Prop where
  committed : CommittedSafe log w
  behind : ∀ m ∈ log, m.offset < w.position m.topicPartition →
    m ∈ w.returned ∨ (m ∈ messages ∧ m.topicPartition ∉ failed)
  ahead : ∀ m ∈ messages, m.topicPartition ∉ failed → m.offset < w.position m.topicPartition
  ordered : messages.Pairwise fun a b => a.topicPartition = b.topicPartition → a.offset < b.offset

/-- The environment of a batch inside the process. -/
abbrev groupWorld (log : Set (ConsumerRecord ν)) (ρ : Type) :
    Prog.World (BatchOp ν) (BatchOp.Res ρ) (Group ν) :=
  .alone (fun o w r w' => w' = o.apply w r) (CommittedSafe log)

theorem groupWorld_refl (w : Group ν) : (groupWorld log ρ).rely w w := rfl

/-- Once the handler of the next record has returned, everything up to that record has. -/
theorem Underway.returned {failed : List TopicPartition} {message : ConsumerRecord ν}
    {messages : List (ConsumerRecord ν)} (h : Underway log failed (message :: messages) w)
    (hfailed : message.topicPartition ∉ failed) {m : ConsumerRecord ν} (hm : m ∈ log)
    (hp : m.topicPartition = message.topicPartition) (hle : m.offset ≤ message.offset) :
    m ∈ w.returned ∨ m = message := by
  have hposition : message.offset < w.position message.topicPartition :=
    h.ahead message (by simp) hfailed
  rcases h.behind m hm (hp ▸ lt_of_le_of_lt hle hposition) with hreturned | ⟨hnext, -⟩
  · exact Or.inl hreturned
  · rcases List.mem_cons.mp hnext with rfl | hlater
    · exact Or.inr rfl
    · have hlt := (List.pairwise_cons.mp h.ordered).1 m hlater hp.symm
      exact absurd hle (not_le.mpr hlt)

/-- A record whose partition has failed is passed over. -/
theorem Underway.skip {failed : List TopicPartition} {message : ConsumerRecord ν}
    {messages : List (ConsumerRecord ν)} (h : Underway log failed (message :: messages) w)
    (hfailed : message.topicPartition ∈ failed) : Underway log failed messages w where
  committed := h.committed
  behind m hm hlt := by
    rcases h.behind m hm hlt with hreturned | ⟨hnext, hopen⟩
    · exact Or.inl hreturned
    · rcases List.mem_cons.mp hnext with rfl | hlater
      · exact absurd hfailed hopen
      · exact Or.inr ⟨hlater, hopen⟩
  ahead m hm := h.ahead m (List.mem_cons_of_mem _ hm)
  ordered := (List.pairwise_cons.mp h.ordered).2

/-- The next record has been handled: its handler has returned, and the record is still the first
of those that are left. This is the state in which its offset is committed. -/
structure Handled (log : Set (ConsumerRecord ν)) (failed : List TopicPartition)
    (message : ConsumerRecord ν) (messages : List (ConsumerRecord ν)) (w : Group ν) : Prop where
  underway : Underway log failed (message :: messages) w
  opened : message.topicPartition ∉ failed
  done : message ∈ w.returned

/-- The handler returns, so its record joins those that returned and nothing else changes. -/
theorem Underway.handle {failed : List TopicPartition} {message : ConsumerRecord ν}
    {messages : List (ConsumerRecord ν)} (h : Underway log failed (message :: messages) w)
    (hopen : message.topicPartition ∉ failed) :
    Handled log failed message messages { w with returned := insert message w.returned } where
  underway :=
    { committed := fun m hm n hn hlt => Set.mem_insert_of_mem _ (h.committed m hm n hn hlt)
      behind := fun m hm hlt => (h.behind m hm hlt).imp_left (Set.mem_insert_of_mem _)
      ahead := h.ahead
      ordered := h.ordered }
  opened := hopen
  done := Set.mem_insert _ _

/-- Everything up to a handled record has returned. -/
theorem Handled.returned {failed : List TopicPartition} {message : ConsumerRecord ν}
    {messages : List (ConsumerRecord ν)} (h : Handled log failed message messages w)
    {m : ConsumerRecord ν} (hm : m ∈ log) (hp : m.topicPartition = message.topicPartition)
    (hle : m.offset ≤ message.offset) : m ∈ w.returned := by
  rcases h.underway.returned h.opened hm hp hle with hreturned | rfl
  · exact hreturned
  · exact h.done

/-- The offset after a handled record may be committed. -/
theorem Handled.commit {failed : List TopicPartition} {message : ConsumerRecord ν}
    {messages : List (ConsumerRecord ν)} (h : Handled log failed message messages w) :
    Handled log failed message messages
      { w with committed :=
          Function.update w.committed message.topicPartition (some (message.offset + 1)) } where
  underway :=
    { committed := by
        intro m hm n hn hlt
        simp only [Function.update_apply] at hn
        split_ifs at hn with hp
        · obtain rfl := Option.some.inj hn
          exact h.returned hm hp (Nat.lt_succ_iff.mp hlt)
        · exact h.underway.committed m hm n hn hlt
      behind := h.underway.behind
      ahead := h.underway.ahead
      ordered := h.underway.ordered }
  opened := h.opened
  done := h.done

/-- The loop goes on behind a handled record: what is below the positions has returned, or is one
of the records that are still left. -/
theorem Handled.next {failed : List TopicPartition} {message : ConsumerRecord ν}
    {messages : List (ConsumerRecord ν)} (h : Handled log failed message messages w) :
    Underway log failed messages w where
  committed := h.underway.committed
  behind m hm hlt := by
    rcases h.underway.behind m hm hlt with hreturned | ⟨hnext, hopen⟩
    · exact Or.inl hreturned
    · rcases List.mem_cons.mp hnext with rfl | hlater
      · exact Or.inl h.done
      · exact Or.inr ⟨hlater, hopen⟩
  ahead m hm := h.underway.ahead m (List.mem_cons_of_mem _ hm)
  ordered := (List.pairwise_cons.mp h.underway.ordered).2

/-- A rewind to the record that failed. Below the new position everything of the partition has
returned, so nothing that is skipped from here on is lost. -/
theorem Underway.rewind {failed : List TopicPartition} {message : ConsumerRecord ν}
    {messages : List (ConsumerRecord ν)} (h : Underway log failed (message :: messages) w)
    (hopen : message.topicPartition ∉ failed) :
    Underway log (message.topicPartition :: failed) messages
      { w with position :=
          Function.update w.position message.topicPartition message.offset } where
  committed := h.committed
  behind m hm hlt := by
    simp only [Function.update_apply] at hlt
    split_ifs at hlt with hp
    · rcases h.returned hopen hm hp hlt.le with hreturned | rfl
      · exact Or.inl hreturned
      · exact absurd hlt (lt_irrefl _)
    · rcases h.behind m hm hlt with hreturned | ⟨hnext, hopen'⟩
      · exact Or.inl hreturned
      · rcases List.mem_cons.mp hnext with rfl | hlater
        · exact absurd rfl hp
        · exact Or.inr ⟨hlater, by simp [hp, hopen']⟩
  ahead m hm hm' := by
    rw [List.mem_cons, not_or] at hm'
    simp only [Function.update_apply, hm'.1, if_false]
    exact h.ahead m (List.mem_cons_of_mem _ hm) hm'.2
  ordered := (List.pairwise_cons.mp h.ordered).2

open Prog in
/-- One record keeps the batch underway. The three parts are the operations of `settle_record`:
the handler, the commit, which may take effect and still raise, and the rewind. -/
theorem sat_settle {failed : List TopicPartition} {message : ConsumerRecord ν}
    {messages : List (ConsumerRecord ν)} (h : Underway log failed (message :: messages) w)
    (hopen : message.topicPartition ∉ failed) :
    Sat (groupWorld log ρ) (fun r w => match r with
        | some _ => Underway log failed messages w
        | none => Underway log (message.topicPartition :: failed) messages w)
      (fun _ => CommittedSafe log) (settleRecord batchConsumer handleRecord message) w := by
  refine sat_settleRecord groupWorld_refl
    (G := fun w => Underway log failed (message :: messages) w ∧ message.topicPartition ∉ failed)
    (H := Handled log failed message messages) ?_ ?_ ?_ ?_ ?_
  · -- the handler
    refine (sat_alone_op _ _ _).mpr fun r w' hw' => ?_
    subst hw'
    cases r with
    | ok outcome =>
        have hhandled := h.handle hopen
        exact ⟨hhandled.underway.committed, (sat_alone_ret _ _).mpr hhandled⟩
    | error e => exact ⟨h.committed, (sat_alone_throw _ _).mpr ⟨h, hopen⟩⟩
  · -- the commit, which may take effect and still raise
    intro w hw
    refine (sat_alone_op _ _ _).mpr fun r w' hw' => ?_
    subst hw'
    cases r with
    | done => exact ⟨hw.commit.underway.committed, (sat_alone_ret _ _).mpr hw.commit.next⟩
    | raised e tookEffect =>
        cases tookEffect with
        | true =>
            exact ⟨hw.commit.underway.committed,
              (sat_alone_throw _ _).mpr ⟨hw.commit.underway, hopen⟩⟩
        | false => exact ⟨hw.underway.committed, (sat_alone_throw _ _).mpr ⟨hw.underway, hopen⟩⟩
  · -- the rewind
    rintro w ⟨hw, -⟩
    refine (sat_alone_op _ _ _).mpr fun r w' hw' => ?_
    subst hw'
    cases r with
    | ok done => exact ⟨hw.committed, (sat_alone_ret _ _).mpr (hw.rewind hopen)⟩
    | error e => exact ⟨hw.committed, (sat_alone_throw _ _).mpr hw.committed⟩
  · rintro w w' rfl hw
    exact hw
  · rintro w w' rfl hw
    exact hw

/-! #### From one poll to the next -/

/-- Fetched records of one partition are in offset order. -/
theorem WellFormed.messages_ordered {records : Polled ν} (h : WellFormed records) :
    records.messages.Pairwise fun a b =>
      a.topicPartition = b.topicPartition → a.offset < b.offset := by
  refine List.pairwise_flatMap.mpr ⟨fun p hp => ?_, ?_⟩
  · refine (h.ordered p hp).imp ?_
    intro a b hlt _
    exact hlt
  · refine (List.pairwise_map.mp h.keys).imp_of_mem ?_
    intro p q hp hq hne a ha b hb heq
    exact absurd ((h.own p hp a ha).symm.trans (heq.trans (h.own q hq b hb))) hne

/-- The last fetched record of a partition is the one with the largest offset. -/
theorem WellFormed.le_last {records : Polled ν} (h : WellFormed records) {p : TopicPartition}
    {last m : ConsumerRecord ν}
    (hlast : (records.messages.filter fun m => m.topicPartition = p).getLast? = some last)
    (hm : m ∈ records.messages) (hp : m.topicPartition = p) : m.offset ≤ last.offset := by
  obtain ⟨before, hsplit⟩ := List.getLast?_eq_some_iff.mp hlast
  have hmem : m ∈ before ++ [last] := by
    rw [← hsplit]
    exact List.mem_filter.mpr ⟨hm, by simpa using hp⟩
  have hmemLast : last ∈ records.messages.filter fun m => m.topicPartition = p := by
    rw [hsplit]
    simp
  have hpLast : last.topicPartition = p := by simpa using (List.mem_filter.mp hmemLast).2
  have hordered := h.messages_ordered.filter fun m => m.topicPartition = p
  rw [hsplit, List.pairwise_append] at hordered
  rcases List.mem_append.mp hmem with hbefore | hself
  · exact (hordered.2.2 m hbefore last (by simp) (hp.trans hpLast.symm)).le
  · obtain rfl := List.mem_singleton.mp hself
    exact le_rfl

/-- The batch right after its poll. A poll returns the records from the positions on without a
gap, so what is below the new positions was below the old ones or is in the batch. -/
theorem Idle.poll {records : Polled ν} (h : Idle log w) (hfetched : Fetched log w records) :
    Underway log [] records.messages (w.advanced records) where
  committed := h.committed
  behind m hm hlt := by
    simp only [Group.advanced, advancedPosition] at hlt
    split at hlt
    · rename_i last hlast
      have hmem := List.mem_filter.mp (List.mem_of_getLast? hlast)
      have hp : m.topicPartition = last.topicPartition := by
        have := hmem.2
        simp only [decide_eq_true_eq] at this
        exact this.symm
      by_cases hold : m.offset < w.position m.topicPartition
      · exact Or.inl (h.position m hm hold)
      · exact Or.inr ⟨hfetched.gapless last hmem.1 m hm hp (not_lt.mp hold)
          (Nat.lt_succ_iff.mp hlt), by simp⟩
    · exact Or.inl (h.position m hm hlt)
  ahead m hm _ := by
    simp only [Group.advanced, advancedPosition]
    split
    · rename_i last hlast
      exact Nat.lt_succ_of_le (hfetched.wellFormed.le_last hlast hm rfl)
    · rename_i hnone
      have hmem : m ∈ records.messages.filter fun m' => m'.topicPartition = m.topicPartition :=
        List.mem_filter.mpr ⟨hm, by simp⟩
      rw [List.getLast?_eq_none_iff.mp hnone] at hmem
      simp at hmem
  ordered := hfetched.wellFormed.messages_ordered

/-- After a batch that did not raise the process is idle again. -/
theorem Underway.idle {failed : List TopicPartition} (h : Underway log failed [] w) :
    Idle log w where
  committed := h.committed
  position m hm hlt := (h.behind m hm hlt).resolve_right (by simp)

/-- A rebuilt consumer misses nothing: it starts at the committed offsets, and the handlers of all
records below them have returned. -/
theorem CommittedSafe.rebuilt (h : CommittedSafe log w) : Idle log w.rebuilt where
  committed := h
  position m hm hlt := by
    simp only [Group.rebuilt] at hlt
    cases hn : w.committed m.topicPartition with
    | none => simp [hn] at hlt
    | some n =>
        rw [hn] at hlt
        exact h m hm n hn hlt

theorem idle_fresh : Idle log (Group.fresh : Group ν) where
  committed m _ n hn := by simp [Group.fresh] at hn
  position m _ hlt := by simp [Group.fresh] at hlt

/-- A batch loop that keeps the batch underway commits nothing unhandled in any run. -/
theorem committedSafe_of_sat {batch : Polled ν → Batch ν ρ β}
    (hbatch : ∀ records (w : Group ν), Underway log [] records.messages w →
      Prog.Sat (groupWorld log ρ) (fun _ => Idle log) (fun _ => CommittedSafe log)
        (batch records) w)
    {c : Option (Batch ν ρ β)} {w : Group ν}
    (hreach : (consumerProcess log batch).Reaches (none, .fresh) (c, w)) :
    CommittedSafe log w := by
  have hidle : ∀ w : Group ν, Idle log w → CommittedSafe log w := fun _ h => h.committed
  refine (consumerProcess log batch).invariant_of_idle (Q := fun _ => Idle log)
    (E := fun _ => CommittedSafe log) hidle ?_ ?_ ?_ ?_ idle_fresh hreach
  · rintro w p w' hidle ⟨records, hfetched, rfl, rfl⟩
    have hunderway := hidle.poll hfetched
    exact ⟨hunderway.committed, hbatch records _ hunderway⟩
  · rintro _ w w' _ hidle rfl
    exact hidle
  · rintro _ w w' hsafe _ rfl
    exact hsafe.rebuilt
  · rintro w w' hsafe rfl
    exact hsafe.rebuilt

open Prog in
/-- The loop over the records keeps the batch underway. -/
theorem sat_batchLoop {σ : Type} {tally : σ → ρ → σ} {total : σ}
    {messages : List (ConsumerRecord ν)} (h : Underway log [] messages w) :
    Sat (groupWorld log ρ) (fun _ => Idle log) (fun _ => CommittedSafe log)
      (processRecords batchConsumer handleRecord tally [] total messages) w := by
  have hloop : Sat (groupWorld log ρ) (fun _ w => ∃ failed, Underway log failed [] w)
      (fun _ => CommittedSafe log)
      (processRecords batchConsumer handleRecord tally [] total messages) w := by
    refine sat_processRecords groupWorld_refl (J := Underway log) ?_ ?_ ?_ h
    · rintro failed w w' rfl hw
      exact hw
    · intro failed message messages w hw hfailed
      exact hw.skip hfailed
    · intro failed message messages w hw hopen
      exact sat_settle hw hopen
  refine hloop.mono ?_ fun _ _ hw => hw
  rintro _ w ⟨failed, hw⟩
  exact hw.idle

end Runs

/-! ### One batch, operation by operation

Against fixed answers a batch is a list of operations. `Loops` is the shape of that list, record
by record, and the remaining clauses are inductions on it. -/

section Traces

variable {σ : Type} {answer : (o : BatchOp ν) → BatchOp.Res ρ o} {tally : σ → ρ → σ}

/-- The operations before a rewind: the handler raised, or the commit after it did. -/
inductive Raises (answer : (o : BatchOp ν) → BatchOp.Res ρ o) (m : ConsumerRecord ν) :
    List (BatchOp ν) → Prop
  | handler (e) : answer (.handle m) = .error e → Raises answer m [.handle m]
  | commit (r e t) : answer (.handle m) = .ok r →
      answer (.commit m.topicPartition (m.offset + 1)) = .raised e t →
      Raises answer m [.handle m, .commit m.topicPartition (m.offset + 1)]

/-- What one record does. -/
abbrev settled (answer : (o : BatchOp ν) → BatchOp.Res ρ o) (m : ConsumerRecord ν) :
    List (BatchOp ν) × Except PyExc (Option ρ) :=
  Prog.trace answer (settleRecord batchConsumer handleRecord m)

/-- What the loop does from some point on. -/
abbrev looped (answer : (o : BatchOp ν) → BatchOp.Res ρ o) (tally : σ → ρ → σ)
    (failed : List TopicPartition) (total : σ) (messages : List (ConsumerRecord ν)) :
    List (BatchOp ν) × Except PyExc σ :=
  Prog.trace answer (processRecords batchConsumer handleRecord tally failed total messages)

/-- How the loop goes, record by record. -/
inductive Loops (answer : (o : BatchOp ν) → BatchOp.Res ρ o) (tally : σ → ρ → σ) :
    List TopicPartition → σ → List (ConsumerRecord ν) → List (BatchOp ν) × Except PyExc σ → Prop
  | nil {failed total} : Loops answer tally failed total [] ([], .ok total)
  | skip {failed total m messages out} : m.topicPartition ∈ failed →
      Loops answer tally failed total messages out →
      Loops answer tally failed total (m :: messages) out
  | done {failed total m messages r ops res} : m.topicPartition ∉ failed →
      answer (.handle m) = .ok r →
      answer (.commit m.topicPartition (m.offset + 1)) = .done →
      Loops answer tally failed (tally total r) messages (ops, res) →
      Loops answer tally failed total (m :: messages)
        (.handle m :: .commit m.topicPartition (m.offset + 1) :: ops, res)
  | rewound {failed total m messages before ops res} : m.topicPartition ∉ failed →
      Raises answer m before → answer (.seek m.topicPartition m.offset) = .ok () →
      Loops answer tally (m.topicPartition :: failed) total messages (ops, res) →
      Loops answer tally failed total (m :: messages)
        (before ++ .seek m.topicPartition m.offset :: ops, res)
  | lost {failed total m messages before e} : m.topicPartition ∉ failed →
      Raises answer m before → answer (.seek m.topicPartition m.offset) = .error e →
      Loops answer tally failed total (m :: messages)
        (before ++ [.seek m.topicPartition m.offset], .error e)

variable {failed : List TopicPartition} {total : σ} {m : ConsumerRecord ν}
  {messages : List (ConsumerRecord ν)} {ops : List (BatchOp ν)}

theorem settled_done {r : ρ} (hhandle : answer (.handle m) = .ok r)
    (hcommit : answer (.commit m.topicPartition (m.offset + 1)) = .done) :
    settled answer m =
      ([.handle m, .commit m.topicPartition (m.offset + 1)], .ok (some r)) := by
  simp only [settled, settleRecord, handleRecord, commitProcessedRecord, batchConsumer,
    Prog.call_bind, Prog.op_bind, Prog.attempt, Prog.trace, hhandle, hcommit, Prog.ofExcept_ok,
    Prog.ret_bind, Prog.pure_eq]

theorem settled_raises (h : Raises answer m ops) :
    settled answer m = match answer (.seek m.topicPartition m.offset) with
      | .ok () => (ops ++ [.seek m.topicPartition m.offset], .ok none)
      | .error e => (ops ++ [.seek m.topicPartition m.offset], .error e) := by
  cases h with
  | handler e hhandle =>
      simp only [settled, settleRecord, handleRecord, seekFailedRecord, batchConsumer,
        Prog.call_bind, Prog.op_bind, Prog.attempt, Prog.trace, hhandle, Prog.ofExcept_error,
        Prog.throw_bind, Prog.ret_bind]
      cases answer (.seek m.topicPartition m.offset) <;> rfl
  | commit r e t hhandle hcommit =>
      simp only [settled, settleRecord, handleRecord, commitProcessedRecord, seekFailedRecord,
        batchConsumer, Prog.call_bind, Prog.op_bind, Prog.attempt, Prog.trace, hhandle, hcommit,
        Prog.ofExcept_ok, Prog.throw_bind, Prog.ret_bind]
      cases answer (.seek m.topicPartition m.offset) <;> rfl

/-- The loop goes as the program says, by induction on its rounds. A round is one settled record,
and `settled_done` and `settled_raises` say what its operations are. -/
theorem Loops.trace {out : List (BatchOp ν) × Except PyExc σ}
    (h : Loops answer tally failed total messages out) :
    looped answer tally failed total messages = out := by
  induction h with
  | nil => rfl
  | skip hfailed _ ih =>
      simp only [looped, processRecords, hfailed, if_true]
      exact ih
  | done hfailed hhandle hcommit _ ih =>
      have hs := settled_done hhandle hcommit
      simp only [looped, processRecords, hfailed, if_false, Prog.trace_bind] at ih ⊢
      simp only [settled] at hs
      simp [hs, ih]
  | rewound hfailed hraises hseek _ ih =>
      have hs := settled_raises hraises
      simp only [looped, processRecords, hfailed, if_false, Prog.trace_bind] at ih ⊢
      simp only [settled, hseek] at hs
      simp [hs, ih]
  | lost hfailed hraises hseek =>
      have hs := settled_raises hraises
      simp only [looped, processRecords, hfailed, if_false, Prog.trace_bind]
      simp only [settled, hseek] at hs
      simp [hs]

/-- A record is settled, or it raises: in its handler, or in the commit of its offset. -/
theorem done_or_raises (answer : (o : BatchOp ν) → BatchOp.Res ρ o) (m : ConsumerRecord ν) :
    (∃ r, answer (.handle m) = .ok r ∧
      answer (.commit m.topicPartition (m.offset + 1)) = .done) ∨
    ∃ ops, Raises answer m ops := by
  cases hhandle : answer (.handle m) with
  | error e => exact Or.inr ⟨_, .handler e hhandle⟩
  | ok r =>
      cases hcommit : answer (.commit m.topicPartition (m.offset + 1)) with
      | done => exact Or.inl ⟨r, rfl, rfl⟩
      | raised e t => exact Or.inr ⟨_, .commit r e t hhandle hcommit⟩

theorem loops_looped (failed : List TopicPartition) (total : σ)
    (messages : List (ConsumerRecord ν)) :
    Loops answer tally failed total messages (looped answer tally failed total messages) := by
  obtain ⟨out, hout⟩ : ∃ out, Loops answer tally failed total messages out := by
    induction messages generalizing failed total with
    | nil => exact ⟨_, .nil⟩
    | cons m messages ih =>
        by_cases hfailed : m.topicPartition ∈ failed
        · obtain ⟨out, hout⟩ := ih failed total
          exact ⟨out, .skip hfailed hout⟩
        · rcases done_or_raises answer m with ⟨r, hhandle, hcommit⟩ | ⟨before, hraises⟩
          · obtain ⟨out, hout⟩ := ih failed (tally total r)
            exact ⟨_, .done hfailed hhandle hcommit hout⟩
          · cases hseek : answer (.seek m.topicPartition m.offset) with
            | error e => exact ⟨_, .lost hfailed hraises hseek⟩
            | ok u =>
                obtain ⟨out, hout⟩ := ih (m.topicPartition :: failed) total
                exact ⟨_, .rewound hfailed hraises hseek hout⟩
  exact hout.trace ▸ hout

/-- An operation about one record. -/
inductive About (m : ConsumerRecord ν) : BatchOp ν → Prop
  | handle : About m (.handle m)
  | commit : About m (.commit m.topicPartition (m.offset + 1))
  | seek : About m (.seek m.topicPartition m.offset)

theorem About.partition? {o : BatchOp ν} (h : About m o) :
    o.partition? = some m.topicPartition := by
  cases h <;> rfl

theorem Raises.about (h : Raises answer m ops) : ∀ o ∈ ops, About m o := by
  intro o ho
  cases h with
  | handler e hhandle =>
      obtain rfl := List.mem_singleton.mp ho
      exact .handle
  | commit r e t hhandle hcommit =>
      rcases List.mem_pair.mp ho with rfl | rfl
      · exact .handle
      · exact .commit

theorem Raises.about_rewind (h : Raises answer m ops) :
    ∀ o ∈ ops ++ [.seek m.topicPartition m.offset], About m o := by
  intro o ho
  rcases List.mem_append.mp ho with ho | ho
  · exact h.about o ho
  · obtain rfl := List.mem_singleton.mp ho
    exact .seek

/-- The loop only touches records still to come, of partitions that have not failed. -/
theorem Loops.about {out : List (BatchOp ν) × Except PyExc σ}
    (h : Loops answer tally failed total messages out) {o : BatchOp ν} (ho : o ∈ out.1) :
    ∃ m ∈ messages, m.topicPartition ∉ failed ∧ About m o := by
  induction h with
  | nil => simp at ho
  | skip hfailed _ ih =>
      obtain ⟨m', hm', hopen, habout⟩ := ih ho
      exact ⟨m', List.mem_cons_of_mem _ hm', hopen, habout⟩
  | @done failed total m messages r ops res hfailed _ _ _ ih =>
      rcases List.mem_cons.mp ho with rfl | ho
      · exact ⟨m, by simp, hfailed, .handle⟩
      · rcases List.mem_cons.mp ho with rfl | ho
        · exact ⟨m, by simp, hfailed, .commit⟩
        · obtain ⟨m', hm', hopen, habout⟩ := ih ho
          exact ⟨m', List.mem_cons_of_mem _ hm', hopen, habout⟩
  | @rewound failed total m messages before ops res hfailed hraises _ _ ih =>
      rcases List.mem_append.mp ho with ho | ho
      · exact ⟨m, by simp, hfailed, hraises.about o ho⟩
      · rcases List.mem_cons.mp ho with rfl | ho
        · exact ⟨m, by simp, hfailed, .seek⟩
        · obtain ⟨m', hm', hopen, habout⟩ := ih ho
          exact ⟨m', List.mem_cons_of_mem _ hm', fun h => hopen (List.mem_cons_of_mem _ h), habout⟩
  | @lost failed total m messages before e hfailed hraises _ =>
      rcases List.mem_append.mp ho with ho | ho
      · exact ⟨m, by simp, hfailed, hraises.about o ho⟩
      · obtain rfl := List.mem_singleton.mp ho
        exact ⟨m, by simp, hfailed, .seek⟩

/-! #### A failed record -/

/-- Records of one partition come in offset order. -/
abbrev Ordered (messages : List (ConsumerRecord ν)) : Prop :=
  messages.Pairwise fun a b => a.topicPartition = b.topicPartition → a.offset < b.offset

/-- A record that failed is one the batch still had to come to. -/
theorem Loops.failed_mem {res : Except PyExc σ} {m : ConsumerRecord ν}
    (h : Loops answer tally failed total messages (ops, res)) (hfailed : Failed answer ops m) :
    ∃ m' ∈ messages, m'.topicPartition ∉ failed ∧ m'.topicPartition = m.topicPartition ∧
      m'.offset = m.offset := by
  rcases hfailed with ⟨hmem, -⟩ | ⟨hmem, -⟩
  · obtain ⟨m', hm', hopen, habout⟩ := h.about hmem
    cases habout
    exact ⟨m, hm', hopen, rfl, rfl⟩
  · obtain ⟨m', hm', hopen, habout⟩ := h.about hmem
    generalize ho : BatchOp.commit m.topicPartition (m.offset + 1) = o at habout
    cases habout with
    | commit =>
        rw [BatchOp.commit.injEq] at ho
        exact ⟨m', hm', hopen, ho.1.symm, Nat.succ.inj ho.2.symm⟩
    | handle | seek => simp at ho

/-- What one record did is not a failure of another record. -/
theorem Failed.of_about {before : List (BatchOp ν)} {m m' : ConsumerRecord ν}
    (hbefore : ∀ o ∈ before, About m' o) (h : Failed answer (before ++ ops) m) :
    (m'.topicPartition = m.topicPartition ∧ m'.offset = m.offset) ∨ Failed answer ops m := by
  rcases h with ⟨hmem, hraised⟩ | ⟨hmem, hraised⟩
  · rcases List.mem_append.mp hmem with hmem | hmem
    · cases hbefore _ hmem
      exact Or.inl ⟨rfl, rfl⟩
    · exact Or.inr (Or.inl ⟨hmem, hraised⟩)
  · rcases List.mem_append.mp hmem with hmem | hmem
    · have habout := hbefore _ hmem
      generalize ho : BatchOp.commit m.topicPartition (m.offset + 1) = o at habout
      cases habout with
      | commit =>
          rw [BatchOp.commit.injEq] at ho
          exact Or.inl ⟨ho.1.symm, Nat.succ.inj ho.2.symm⟩
      | handle | seek => simp at ho
    · exact Or.inr (Or.inr ⟨hmem, hraised⟩)

theorem not_failed_nil {m : ConsumerRecord ν} : ¬ Failed answer [] m := by
  rintro (⟨hnil, -⟩ | ⟨hnil, -⟩) <;> simp at hnil

/-- Where only one record was touched, only it can have failed. -/
theorem failed_of_about {before : List (BatchOp ν)} {m m' : ConsumerRecord ν}
    (hbefore : ∀ o ∈ before, About m' o) (h : Failed answer before m) :
    m'.topicPartition = m.topicPartition ∧ m'.offset = m.offset := by
  rw [← List.append_nil before] at h
  exact (h.of_about hbefore).resolve_right not_failed_nil

/-- A settled record has not failed, so what failed in a longer trace failed after it. -/
theorem Failed.of_done {r : ρ} {m m' : ConsumerRecord ν} (hhandle : answer (.handle m') = .ok r)
    (hcommit : answer (.commit m'.topicPartition (m'.offset + 1)) = .done)
    (h : Failed answer
      (.handle m' :: .commit m'.topicPartition (m'.offset + 1) :: ops) m) :
    Failed answer ops m := by
  rcases h with ⟨hmem, e, he⟩ | ⟨hmem, e, t, he⟩
  · refine Or.inl ⟨?_, e, he⟩
    rcases List.mem_cons.mp hmem with heq | hmem
    · obtain rfl := BatchOp.handle.inj heq
      rw [hhandle] at he
      cases he
    · exact (List.mem_cons.mp hmem).resolve_left (by simp)
  · refine Or.inr ⟨?_, e, t, he⟩
    rcases List.mem_cons.mp ((List.mem_cons.mp hmem).resolve_left (by simp)) with heq | hmem
    · obtain ⟨hp, hoffset⟩ := BatchOp.commit.inj heq
      rw [hp, hoffset, hcommit] at he
      cases he
    · exact hmem

/-- **No later record of a failed partition is handled.** -/
theorem Loops.stops {res : Except PyExc σ}
    (h : Loops answer tally failed total messages (ops, res)) (hordered : Ordered messages)
    {m m' : ConsumerRecord ν} (hfailed : Failed answer ops m)
    (hp : m'.topicPartition = m.topicPartition) (hlt : m.offset < m'.offset) :
    .handle m' ∉ ops := by
  generalize hout : (ops, res) = out at h
  induction h generalizing ops res with
  | nil =>
      obtain ⟨rfl, rfl⟩ := Prod.mk.inj hout
      simp
  | skip _ _ ih => exact ih (List.pairwise_cons.mp hordered).2 hfailed hout
  | @done failed total m₀ messages r ops' res' hopen hhandle hcommit hloop ih =>
      obtain ⟨rfl, rfl⟩ := Prod.mk.inj hout
      have hlater := hfailed.of_done hhandle hcommit
      intro hmem
      rcases List.mem_cons.mp hmem with heq | hmem
      · -- the later record came before the one that failed
        obtain rfl := BatchOp.handle.inj heq
        obtain ⟨m₁, hm₁, -, hp₁, hoffset⟩ := hloop.failed_mem hlater
        have hbefore := (List.pairwise_cons.mp hordered).1 m₁ hm₁ (hp.trans hp₁.symm)
        exact absurd hlt (not_lt.mpr (hoffset ▸ hbefore.le))
      · exact ih (List.pairwise_cons.mp hordered).2 hlater rfl
          ((List.mem_cons.mp hmem).resolve_left (by simp))
  | @rewound failed total m₀ messages before ops' res' hopen hraises hseek hloop ih =>
      obtain ⟨rfl, rfl⟩ := Prod.mk.inj hout
      have habout := hraises.about_rewind
      rw [List.append_cons] at hfailed ⊢
      intro hmem
      rcases List.mem_append.mp hmem with hmem | hmem
      · cases habout _ hmem
        rcases hfailed.of_about habout with ⟨-, hoffset⟩ | hlater
        · exact absurd hlt (by rw [hoffset]; exact lt_irrefl _)
        · obtain ⟨m₁, -, hopen₁, hp₁, -⟩ := hloop.failed_mem hlater
          exact hopen₁ (by rw [hp₁, ← hp]; simp)
      · rcases hfailed.of_about habout with ⟨hp₀, -⟩ | hlater
        · obtain ⟨m₁, -, hopen₁, habout₁⟩ := hloop.about hmem
          cases habout₁
          exact hopen₁ (by rw [hp, ← hp₀]; simp)
        · exact ih (List.pairwise_cons.mp hordered).2 hlater rfl hmem
  | @lost failed total m₀ messages before e hopen hraises hseek =>
      obtain ⟨rfl, rfl⟩ := Prod.mk.inj hout
      intro hmem
      have habout := hraises.about_rewind
      cases habout _ hmem
      obtain ⟨-, hoffset⟩ := failed_of_about habout hfailed
      exact absurd hlt (by rw [hoffset]; exact lt_irrefl _)

theorem Group.after_append (w : Group ν) (ops ops' : List (BatchOp ν)) :
    w.after answer (ops ++ ops') = (w.after answer ops).after answer ops' :=
  List.foldl_append

/-- Only a rewind of its partition moves a position. -/
theorem BatchOp.apply_position (w : Group ν) (o : BatchOp ν) (r : BatchOp.Res ρ o)
    (p : TopicPartition) (h : o.partition? ≠ some p) : (o.apply w r).position p = w.position p := by
  cases o with
  | pingDb => rfl
  | handle message => cases r <;> rfl
  | commit partition offset =>
      cases r with
      | done => rfl
      | raised e t => cases t <;> rfl
  | seek partition offset =>
      cases r with
      | error e => rfl
      | ok u =>
          have hne : p ≠ partition := fun heq => h (by simp [BatchOp.partition?, heq])
          simp [BatchOp.apply, hne]

theorem Group.after_position {w : Group ν} {p : TopicPartition}
    (h : ∀ o ∈ ops, o.partition? ≠ some p) : (w.after answer ops).position p = w.position p := by
  induction ops generalizing w with
  | nil => rfl
  | cons o ops ih =>
      have hhead := BatchOp.apply_position w o (answer o) p (h o (by simp))
      exact (ih fun o' ho' => h o' (List.mem_cons_of_mem _ ho')).trans hhead

/-- **A failed partition continues at the record that failed.** -/
theorem Loops.rewinds {res : Except PyExc σ}
    (h : Loops answer tally failed total messages (ops, res)) {m : ConsumerRecord ν}
    (hfailed : Failed answer ops m) (hrewind : answer (.seek m.topicPartition m.offset) = .ok ())
    (w : Group ν) : (w.after answer ops).position m.topicPartition = m.offset := by
  generalize hout : (ops, res) = out at h
  induction h generalizing ops res w with
  | nil =>
      obtain ⟨rfl, -⟩ := Prod.mk.inj hout
      exact absurd hfailed not_failed_nil
  | skip _ _ ih => exact ih hfailed w hout
  | @done failed total m₀ messages r ops' res' hopen hhandle hcommit hloop ih =>
      obtain ⟨rfl, rfl⟩ := Prod.mk.inj hout
      exact ih (hfailed.of_done hhandle hcommit) _ rfl
  | @rewound failed total m₀ messages before ops' res' hopen hraises hseek hloop ih =>
      obtain ⟨rfl, rfl⟩ := Prod.mk.inj hout
      have habout := hraises.about_rewind
      rw [List.append_cons] at hfailed ⊢
      rw [Group.after_append]
      rcases hfailed.of_about habout with ⟨hp, hoffset⟩ | hlater
      · -- the rest of the batch leaves the failed partition alone
        rw [Group.after_position, Group.after_append, ← hp, ← hoffset]
        · simp [Group.after, BatchOp.apply, hseek]
        · intro o ho
          obtain ⟨m₁, -, hopen₁, habout₁⟩ := hloop.about ho
          rw [habout₁.partition?]
          rintro heq
          exact hopen₁ (by rw [Option.some.inj heq, ← hp]; simp)
      · exact ih hlater _ rfl
  | @lost failed total m₀ messages before e hopen hraises hseek =>
      obtain ⟨rfl, rfl⟩ := Prod.mk.inj hout
      obtain ⟨hp, hoffset⟩ := failed_of_about hraises.about_rewind hfailed
      rw [hp, hoffset, hrewind] at hseek
      cases hseek

/-! #### A partition that is not there -/

/-- The operations outside one partition. -/
def elsewhere (p : TopicPartition) (ops : List (BatchOp ν)) : List (BatchOp ν) :=
  ops.filter fun o => o.partition? ≠ some p

theorem elsewhere_of_about {p : TopicPartition} (h : ∀ o ∈ ops, About m o)
    (hp : m.topicPartition = p) : elsewhere p ops = [] := by
  refine List.filter_eq_nil_iff.mpr fun o ho => ?_
  simp [(h o ho).partition?, hp]

theorem elsewhere_of_about_ne {p : TopicPartition} (h : ∀ o ∈ ops, About m o)
    (hp : m.topicPartition ≠ p) : elsewhere p ops = ops := by
  refine List.filter_eq_self.mpr fun o ho => ?_
  simp [(h o ho).partition?, hp]

theorem elsewhere_append (p : TopicPartition) (ops ops' : List (BatchOp ν)) :
    elsewhere p (ops ++ ops') = elsewhere p ops ++ elsewhere p ops' :=
  List.filter_append ..

/-- **Without one partition the loop does the same for the others**, as long as the
partition's own rewind does not raise. -/
theorem Loops.isolates {out : List (BatchOp ν) × Except PyExc σ} {p : TopicPartition}
    (h : Loops answer tally failed total messages out)
    (hrewinds : ∀ m ∈ messages, m.topicPartition = p → answer (.seek p m.offset) = .ok ())
    (failed' : List TopicPartition) (total' : σ)
    (hfailed : ∀ q, q ≠ p → (q ∈ failed' ↔ q ∈ failed)) :
    ∃ res, Loops answer tally failed' total'
      (messages.filter fun m => m.topicPartition ≠ p) (elsewhere p out.1, res) := by
  induction h generalizing failed' total' with
  | nil => exact ⟨_, .nil⟩
  | @skip failed total m messages out hm _ ih =>
      obtain ⟨res, hloop⟩ := ih (fun m' hm' => hrewinds m' (List.mem_cons_of_mem _ hm')) failed'
        total' hfailed
      by_cases hp : m.topicPartition = p
      · rw [List.filter_cons_of_neg (by simpa using hp)]
        exact ⟨res, hloop⟩
      · rw [List.filter_cons_of_pos (by simpa using hp)]
        exact ⟨res, .skip ((hfailed _ hp).mpr hm) hloop⟩
  | @done failed total m messages r ops res hopen hhandle hcommit _ ih =>
      have hrest := ih fun m' hm' => hrewinds m' (List.mem_cons_of_mem _ hm')
      by_cases hp : m.topicPartition = p
      · obtain ⟨res, hloop⟩ := hrest failed' total' hfailed
        rw [List.filter_cons_of_neg (by simpa using hp)]
        refine ⟨res, ?_⟩
        simpa [elsewhere, BatchOp.partition?, hp] using hloop
      · obtain ⟨res, hloop⟩ := hrest failed' (tally total' r) hfailed
        rw [List.filter_cons_of_pos (by simpa using hp)]
        refine ⟨res, ?_⟩
        have hdone := Loops.done (fun hm => hopen ((hfailed _ hp).mp hm)) hhandle hcommit hloop
        simpa [elsewhere, BatchOp.partition?, hp] using hdone
  | @rewound failed total m messages before ops res hopen hraises hseek _ ih =>
      have hrest := ih fun m' hm' => hrewinds m' (List.mem_cons_of_mem _ hm')
      rw [List.append_cons, elsewhere_append]
      by_cases hp : m.topicPartition = p
      · have hsame : ∀ q, q ≠ p → (q ∈ failed' ↔ q ∈ m.topicPartition :: failed) := by
          intro q hq
          rw [List.mem_cons, hfailed q hq, hp, or_iff_right hq]
        obtain ⟨res, hloop⟩ := hrest failed' total' hsame
        rw [List.filter_cons_of_neg (by simpa using hp), elsewhere_of_about hraises.about_rewind hp]
        exact ⟨res, hloop⟩
      · have hsame : ∀ q, q ≠ p →
            (q ∈ m.topicPartition :: failed' ↔ q ∈ m.topicPartition :: failed) := by
          intro q hq
          rw [List.mem_cons, List.mem_cons, hfailed q hq]
        obtain ⟨res, hloop⟩ := hrest (m.topicPartition :: failed') total' hsame
        rw [List.filter_cons_of_pos (by simpa using hp),
          elsewhere_of_about_ne hraises.about_rewind hp, ← List.append_cons]
        exact ⟨res, .rewound (fun hm => hopen ((hfailed _ hp).mp hm)) hraises hseek hloop⟩
  | @lost failed total m messages before e hopen hraises hseek =>
      by_cases hp : m.topicPartition = p
      · rw [← hp] at hrewinds
        rw [hrewinds m (by simp) rfl] at hseek
        cases hseek
      · rw [List.filter_cons_of_pos (by simpa using hp),
          elsewhere_of_about_ne hraises.about_rewind hp]
        exact ⟨_, .lost (fun hm => hopen ((hfailed _ hp).mp hm)) hraises hseek⟩

end Traces

/-! ### Both batch loops -/

section Safety

variable {σ : Type} {answer : (o : BatchOp ν) → BatchOp.Res ρ o}

/-- The records without one partition are those of the batch without its entry. -/
theorem messages_withoutPartition {records : Polled ν} (h : WellFormed records)
    (p : TopicPartition) :
    (withoutPartition records p).messages =
      records.messages.filter fun m => m.topicPartition ≠ p := by
  have hentries : ∀ entries : Polled ν, (∀ q ∈ entries, ∀ m ∈ q.2, m.topicPartition = q.1) →
      (withoutPartition entries p).messages =
        entries.messages.filter fun m => m.topicPartition ≠ p := by
    intro entries
    induction entries with
    | nil => exact fun _ => rfl
    | cons entry entries ih =>
        intro hown
        have hrest := ih fun q hq => hown q (List.mem_cons_of_mem _ hq)
        have hself : ∀ m ∈ entry.2, m.topicPartition = entry.1 := hown entry (by simp)
        simp only [withoutPartition, Polled.messages, List.flatMap_cons, List.filter_append]
          at hrest ⊢
        by_cases hp : entry.1 = p
        · have hdrop : entry.2.filter (fun m => m.topicPartition ≠ p) = [] :=
            List.filter_eq_nil_iff.mpr (by simpa [hp] using hself)
          rw [List.filter_cons_of_neg (by simpa using hp), hrest, hdrop, List.nil_append]
        · have hkeep : ∀ m ∈ entry.2, decide (m.topicPartition ≠ p) = true := by
            intro m hm
            simpa [hself m hm] using hp
          rw [List.filter_cons_of_pos (by simpa using hp), List.flatMap_cons, hrest,
            List.filter_eq_self.mpr hkeep]
  exact hentries records h.own

/-- A batch loop over a whole batch leaves every other partition alone. -/
theorem looped_isolates {tally : σ → ρ → σ} {total : σ} {records : Polled ν}
    (h : WellFormed records) {p : TopicPartition} (hrewinds : Rewinds answer records p) :
    (looped answer tally [] total (withoutPartition records p).messages).1 =
      elsewhere p (looped answer tally [] total records.messages).1 := by
  obtain ⟨res, hloop⟩ := (loops_looped [] total records.messages).isolates hrewinds [] total
    fun _ _ => Iff.rfl
  rw [messages_withoutPartition h, hloop.trace]

/-- **The worker's batch loop is offset safe.** -/
theorem workerBatch_safe : OffsetSafe (workerBatch : Polled ν → Batch ν ρ Unit) where
  committed _ _ _ hreach := committedSafe_of_sat (fun _ _ h => sat_batchLoop h) hreach
  stops records _ hrecords _ _ hfailed _ _ hp hlt :=
    (loops_looped [] () records.messages).stops hrecords.messages_ordered hfailed hp hlt
  rewinds records _ _ _ _ hfailed hrewind w :=
    (loops_looped [] () records.messages).rewinds hfailed hrewind w
  isolates _ _ hrecords _ hrewinds := looped_isolates hrecords hrewinds

/-- What the replayer's batch does after its check of the database. -/
theorem trace_replayBatch (answer : (o : BatchOp ν) → BatchOp.Res Bool o) (records : Polled ν) :
    Prog.trace answer (replayBatch records) =
      if answer .pingDb then
        (.pingDb :: (looped answer countMoved [] 0 records.messages).1,
          (looped answer countMoved [] 0 records.messages).2)
      else ([.pingDb], .error (.transient "ReplayDatabaseUnavailable")) := by
  simp only [replayBatch, processReplayBatch, Prog.call_bind, Prog.trace]
  split_ifs <;> rfl

theorem failed_cons_pingDb {answer : (o : BatchOp ν) → BatchOp.Res ρ o} {ops : List (BatchOp ν)}
    {m : ConsumerRecord ν} (h : Failed answer (.pingDb :: ops) m) : Failed answer ops m :=
  h.imp (And.imp_left fun hmem => (List.mem_cons.mp hmem).resolve_left (by simp))
    (And.imp_left fun hmem => (List.mem_cons.mp hmem).resolve_left (by simp))

theorem not_failed_pingDb {answer : (o : BatchOp ν) → BatchOp.Res ρ o} {m : ConsumerRecord ν} :
    ¬ Failed answer [.pingDb] m := by
  rintro (⟨hmem, -⟩ | ⟨hmem, -⟩) <;> simp at hmem

open Prog in
/-- **The replayer's batch loop is offset safe.** It is the common loop behind a check of the
database; where that check raises, no record is touched. -/
theorem replayBatch_safe : OffsetSafe (replayBatch : Polled ν → Batch ν Bool Nat) where
  committed _ _ _ hreach := by
    refine committedSafe_of_sat (fun _ _ h => ?_) hreach
    refine (sat_alone_op _ _ _).mpr fun available w' hw' => ?_
    subst hw'
    refine ⟨h.committed, ?_⟩
    cases available with
    | true => exact sat_batchLoop h
    | false => exact (sat_alone_throw _ _).mpr h.committed
  stops records _ hrecords _ _ hfailed _ _ hp hlt := by
    rw [trace_replayBatch] at hfailed ⊢
    split_ifs at hfailed ⊢ with hping
    · have hstop := (loops_looped [] 0 records.messages).stops hrecords.messages_ordered
        (failed_cons_pingDb hfailed) hp hlt
      simpa using hstop
    · simp
  rewinds records _ _ _ _ hfailed hrewind w := by
    rw [trace_replayBatch] at hfailed ⊢
    split_ifs at hfailed ⊢ with hping
    · exact (loops_looped [] 0 records.messages).rewinds (failed_cons_pingDb hfailed) hrewind w
    · exact absurd hfailed not_failed_pingDb
  isolates _ _ hrecords _ hrewinds := by
    rw [trace_replayBatch, trace_replayBatch]
    split_ifs with hping
    · rw [List.filter_cons_of_pos (by simp [BatchOp.partition?]), looped_isolates hrecords hrewinds]
      rfl
    · simp [BatchOp.partition?]

/-- **Offsets are safe.** Under both loops, for every handler and broker, no committed
offset passes a record whose handler has not returned; a failed record ends its partition
for the batch and, unless its rewind raises, is where it continues; and a partition whose
rewind does not raise makes no difference to the others.

What is committed is an invariant of the polls (`Idle`), carried through a batch record by record
(`Underway`, `sat_settle`). The other three are about one batch and its answers: `Loops` relates
the records to the operations of the loop, and each clause is one induction over it. -/
theorem offsets_safe :
    OffsetSafe (workerBatch : Polled ν → Batch ν ρ Unit) ∧
      OffsetSafe (replayBatch : Polled ν → Batch ν Bool Nat) :=
  ⟨workerBatch_safe, replayBatch_safe⟩

/-- One record of partition 0 and one of partition 1. -/
def twoPartitions : Polled Unit :=
  [(⟨"message-ingress", 0⟩, [⟨"message-ingress", 0, 10, none, ()⟩]),
    (⟨"message-ingress", 1⟩, [⟨"message-ingress", 1, 20, none, ()⟩])]

/-- The handler raises on partition 0, and so does every rewind. -/
def seekRaises : (o : BatchOp Unit) → BatchOp.Res Unit o
  | .pingDb => true
  | .handle message => if message.partition = 0 then .error (.transient "RuntimeError") else .ok ()
  | .commit _ _ => .done
  | .seek _ _ => .error (.kafkaError "IllegalStateError")

/-- Where the rewind raises, the record of partition 1, which is handled and committed when
partition 0 is not there, is not even looked at. -/
theorem offsets_safe_seek_raises :
    ¬ ∀ (records : Polled Unit) (answer : (o : BatchOp Unit) → BatchOp.Res Unit o)
      (p : TopicPartition), WellFormed records →
      (Prog.trace answer (workerBatch (withoutPartition records p))).1 =
        (Prog.trace answer (workerBatch records)).1.filter fun o => o.partition? ≠ some p := by
  intro h
  have hrecords : WellFormed twoPartitions := ⟨by decide, by decide, by decide⟩
  have hlength := congrArg List.length
    (h twoPartitions seekRaises ⟨"message-ingress", 0⟩ hrecords)
  revert hlength
  decide

end Safety

end EventPipeline.Guarantees
