import EventPipeline.Concurrency.Runs
import EventPipeline.Portfolio.KafkaClient

/-!
# EventPipeline.Worker.Batch

The batch loops of `worker/main.py` and `worker/dlq_replayer.py`: what is done with the
records one poll returned.

Both loops treat a record alike. The handler runs, the offset after the record is
committed, and where either raises, the partition is rewound to the record and left
alone for the rest of the batch. A rewind that raises ends the batch, and with it the
consumer. `processRecords` is that loop; the two sources differ in what they count.
-/

namespace EventPipeline.Worker

open EventPipeline.Python EventPipeline.Portfolio EventPipeline.Concurrency

/-- `TopicPartition`. -/
structure TopicPartition where
  topic : String
  partition : Nat
  deriving DecidableEq

/-- A record as a consumer hands it over; `ν` is the type of deserialized values. -/
structure ConsumerRecord (ν : Type) where
  topic : String
  partition : Nat
  offset : Nat
  key : Option Bytes
  value : ν
  deriving DecidableEq

variable {Op : Type} {Res : Op → Type} {ν ρ σ : Type}

/-- `_topic_partition(message)`: where the record is from, which its offset belongs to. -/
def ConsumerRecord.topicPartition (message : ConsumerRecord ν) : TopicPartition :=
  ⟨message.topic, message.partition⟩

/-- The calls of a consumer that move offsets. Each of them may raise. -/
structure Consumer (Op : Type) (Res : Op → Type) where
  commit : TopicPartition → Nat → Prog Op Res PyExc Unit
  seek : TopicPartition → Nat → Prog Op Res PyExc Unit

/-- `_commit_processed_record(consumer, message)`. -/
def commitProcessedRecord (consumer : Consumer Op Res) (message : ConsumerRecord ν) :
    Prog Op Res PyExc Unit :=
  consumer.commit message.topicPartition (message.offset + 1)

/-- `_seek_failed_record(consumer, message)`. -/
def seekFailedRecord (consumer : Consumer Op Res) (message : ConsumerRecord ν) :
    Prog Op Res PyExc Unit :=
  consumer.seek message.topicPartition message.offset

/-- What both loops do with one record: the `try` around the handler and the commit, and
the rewind of every `except` branch, which may itself raise. Returns what the handler
returned, or `none` for a record that failed. -/
def settleRecord (consumer : Consumer Op Res)
    (handler : ConsumerRecord ν → Prog Op Res PyExc ρ) (message : ConsumerRecord ν) :
    Prog Op Res PyExc (Option ρ) := do
  let outcome ← ((do
    let outcome ← handler message
    commitProcessedRecord consumer message
    return outcome).attempt : Prog Op Res PyExc (Except PyExc ρ))
  match outcome with
  | .ok outcome => return some outcome
  | .error _ => do
      seekFailedRecord consumer message
      return none

/-- The loop over the records of a batch. `failed_partitions` is the set of that name;
`tally` is what the loop adds up of the handlers' results. -/
def processRecords (consumer : Consumer Op Res)
    (handler : ConsumerRecord ν → Prog Op Res PyExc ρ) (tally : σ → ρ → σ)
    (failed_partitions : List TopicPartition) (total : σ) :
    List (ConsumerRecord ν) → Prog Op Res PyExc σ
  | [] => return total
  | message :: messages =>
      if message.topicPartition ∈ failed_partitions then
        processRecords consumer handler tally failed_partitions total messages
      else do
        let outcome ← settleRecord consumer handler message
        match outcome with
        | some outcome =>
            processRecords consumer handler tally failed_partitions (tally total outcome) messages
        | none =>
            processRecords consumer handler tally (message.topicPartition :: failed_partitions)
              total messages

/-- What `consumer.poll` returns, in the order the dictionary iterates. -/
abbrev Polled (ν : Type) := List (TopicPartition × List (ConsumerRecord ν))

/-- `for messages in records.values(): for message in messages`. -/
def Polled.messages (records : Polled ν) : List (ConsumerRecord ν) := records.flatMap (·.2)

/-- `_process_worker_batch(consumer, records, handler, ...)`. -/
def processWorkerBatch (consumer : Consumer Op Res)
    (handler : ConsumerRecord ν → Prog Op Res PyExc ρ) (records : Polled ν) :
    Prog Op Res PyExc Unit :=
  processRecords consumer handler (fun _ _ => ()) [] () records.messages

/-- `if replayed: moved += 1`. -/
def countMoved (moved : Nat) (replayed : Bool) : Nat := if replayed then moved + 1 else moved

/-- `_process_replay_batch(consumer, records)`; `replay_one` is the one of the source,
applied to the value of the record. The branch for `ReplayClaimInProgress` rewinds
outside a `try`, which raises what the other branch raises again. -/
def processReplayBatch (pingDb : Prog Op Res PyExc Bool) (consumer : Consumer Op Res)
    (replay_one : ConsumerRecord ν → Prog Op Res PyExc Bool) (records : Polled ν) :
    Prog Op Res PyExc Nat := do
  let available ← pingDb
  if available then processRecords consumer replay_one countMoved [] 0 records.messages
  else .throw (.transient "ReplayDatabaseUnavailable")

/-! ### Rules

A record is settled by its handler and the commit after it, or it fails and its partition is put
aside. The rule for the loop asks for an invariant that both ends keep. -/

section Rules

open Prog

variable {W : Type} {m : World Op Res W} {consumer : Consumer Op Res}
  {handler : ConsumerRecord ν → Prog Op Res PyExc ρ} {tally : σ → ρ → σ}

/-- One record: the handler reaches `H`, from which the commit reaches `K`; where either
raises `G` holds, from which the rewind reaches `R`. -/
theorem sat_settleRecord (hrefl : ∀ w, m.rely w w) {message : ConsumerRecord ν} {w : W}
    {H K G R X : W → Prop} (hhandler : Sat m (fun _ => H) (fun _ => G) (handler message) w)
    (hcommit : ∀ w, H w →
      Sat m (fun _ => K) (fun _ => G) (commitProcessedRecord consumer message) w)
    (hseek : ∀ w, G w → Sat m (fun _ => R) (fun _ => X) (seekFailedRecord consumer message) w)
    (hrely : ∀ w w', m.rely w w' → K w → K w') (hrely' : ∀ w w', m.rely w w' → R w → R w') :
    Sat m (fun r w => match r with | some _ => K w | none => R w) (fun _ => X)
      (settleRecord consumer handler message) w := by
  have htry : Sat m (fun _ => K) (fun _ => G)
      (do let outcome ← handler message
          commitProcessedRecord consumer message
          return outcome) w := by
    refine Sat.bind hrefl hhandler fun outcome w hw => ?_
    exact Sat.bind hrefl (hcommit w hw) fun _ w hk w' hw' => hrely w w' hw' hk
  refine Sat.bind hrefl htry.attempt fun outcome w hw => ?_
  cases outcome with
  | ok outcome => exact fun w' hw' => hrely w w' hw' hw
  | error e => exact Sat.bind hrefl (hseek w hw) fun _ w hr w' hw' => hrely' w w' hw' hr

/-- The loop: `J` relates the failed partitions and the records still to come to the
world, and every record keeps it. -/
theorem sat_processRecords (hrefl : ∀ w, m.rely w w)
    {J : List TopicPartition → List (ConsumerRecord ν) → W → Prop} {X : W → Prop}
    (hrely : ∀ failed w w', m.rely w w' → J failed [] w → J failed [] w')
    (hskip : ∀ failed message messages w, J failed (message :: messages) w →
      message.topicPartition ∈ failed → J failed messages w)
    (hsettle : ∀ failed message messages w, J failed (message :: messages) w →
      message.topicPartition ∉ failed →
      Sat m (fun r w => match r with
          | some _ => J failed messages w
          | none => J (message.topicPartition :: failed) messages w) (fun _ => X)
        (settleRecord consumer handler message) w)
    {failed : List TopicPartition} {total : σ} {messages : List (ConsumerRecord ν)} {w : W}
    (h : J failed messages w) :
    Sat m (fun _ w => ∃ failed, J failed [] w) (fun _ => X)
      (processRecords consumer handler tally failed total messages) w := by
  induction messages generalizing failed total w with
  | nil => exact fun w' hw' => ⟨failed, hrely failed w w' hw' h⟩
  | cons message messages ih =>
      unfold processRecords
      split_ifs with hfailed
      · exact ih (hskip failed message messages w h hfailed)
      · refine Sat.bind hrefl (hsettle failed message messages w h hfailed) fun r w hw => ?_
        cases r with
        | some outcome => exact ih hw
        | none => exact ih hw

end Rules

/-! ### What the loop adds up -/

/-- Returning the record with its result changes nothing else. -/
theorem settleRecord_counted (consumer : Consumer Op Res)
    (handler : ConsumerRecord ν → Prog Op Res PyExc ρ) (message : ConsumerRecord ν) :
    settleRecord consumer (fun m => handler m >>= fun result => .ret (m, result)) message =
      settleRecord consumer handler message >>= fun result =>
        .ret (result.map fun r => (message, r)) := by
  have htry : (do
      let outcome ← handler message >>= fun result => .ret (message, result)
      commitProcessedRecord consumer message
      return outcome : Prog Op Res PyExc (ConsumerRecord ν × ρ)) =
      (do
        let outcome ← handler message
        commitProcessedRecord consumer message
        return outcome) >>= fun result => .ret (message, result) := by
    simp only [Prog.bind_assoc, Prog.pure_eq, Prog.ret_bind]
  unfold settleRecord
  rw [htry, Prog.attempt_map, Prog.bind_assoc, Prog.bind_assoc]
  refine congrArg _ (funext fun outcome => ?_)
  cases outcome with
  | ok outcome => rfl
  | error e => simp [Except.map, Prog.bind_assoc]

/-- The loop that collects the results does what the loop that drops them does. -/
theorem processRecords_counted (consumer : Consumer Op Res)
    (handler : ConsumerRecord ν → Prog Op Res PyExc ρ) (failed : List TopicPartition)
    (total : List (ConsumerRecord ν × ρ)) (messages : List (ConsumerRecord ν)) :
    processRecords consumer handler (fun _ _ => ()) failed () messages =
      processRecords consumer (fun m => handler m >>= fun result => .ret (m, result))
        (fun total counted => total ++ [counted]) failed total messages >>= fun _ => .ret () := by
  induction messages generalizing failed total with
  | nil => rfl
  | cons message messages ih =>
      unfold processRecords
      split_ifs
      · exact ih failed total
      · rw [settleRecord_counted, Prog.bind_assoc, Prog.bind_assoc]
        refine congrArg _ (funext fun outcome => ?_)
        cases outcome with
        | none => exact ih _ total
        | some result => exact ih failed _

end EventPipeline.Worker
