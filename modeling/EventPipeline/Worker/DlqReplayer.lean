import EventPipeline.Portfolio.DlqReplay

/-!
# EventPipeline.Worker.DlqReplayer

`replay_one` of `worker/dlq_replayer.py`: the automatic replay of one DLQ record.
-/

namespace EventPipeline.Worker

open EventPipeline.Python EventPipeline.Portfolio EventPipeline.Concurrency

/-- Why a record is passed over, by the label of `dlq_replay_total`. -/
inductive ReplaySkip
  | skipped_invalid_payload | skipped_max_replay | skipped_persisted | skipped_published
  deriving DecidableEq

/-- A record the replayer asks a claim for. -/
structure ReplayCandidate where
  request_id : PyStr
  room_id : Nat
  replay_count : Nat
  job_payload : Dict

/-- `_has_conflicting_event_aliases(payload)`, written out once more in this file. -/
def hasConflictingEventAliases (payload : Dict) : Bool :=
  Portfolio.hasConflictingEventAliases payload

/-- `raw if isinstance(raw, dict) else json.loads(raw)`: a string value is decoded once
more, anything else but an object is no text. -/
def replayPayload (rt : Runtime) : KafkaValue → Option Json
  | .invalid marker => some (.obj marker)
  | .json (.obj d) => some (.obj d)
  | .json (.str text) => (loads ⟨rt.recursionLimit, true⟩ text).toOption
  | .json _ => none

/-- `job_payload["room_id"] = job_payload["stream_id"]` where only the latter is there. -/
def fillRoomId (job_payload : Dict) : Dict :=
  match job_payload.get? "room_id", job_payload.get? "stream_id" with
  | none, some stream_id => job_payload.set "room_id" stream_id
  | _, _ => job_payload

/-- The checks of `replay_one` on an object, in the source's order. -/
def replayObject (dlq_replay_max_count : Int) (job_payload : Dict) :
    Except ReplaySkip ReplayCandidate :=
  if isInvalidKafkaPayload (.obj job_payload) then .error .skipped_invalid_payload
  else if ¬ (validateJsonStructure (.obj job_payload) maxJsonWireNestingDepth).isOk then
    .error .skipped_invalid_payload
  else if hasConflictingEventAliases job_payload then .error .skipped_invalid_payload
  else
    let job_payload := fillRoomId job_payload
    match (job_payload.get? "request_id").bind (boundedText 80),
        (job_payload.get? "room_id").bind positiveBigint with
    | some request_id, some room_id =>
        match nonnegativeBigint ((job_payload.get? "replay_count").getD (.int 0)) with
        | none => .error .skipped_invalid_payload
        | some replay_count =>
            if dlq_replay_max_count ≤ replay_count then .error .skipped_max_replay
            else if maxPostgresBigint ≤ replay_count then .error .skipped_max_replay
            else .ok ⟨request_id, room_id, replay_count, job_payload⟩
    | _, _ => .error .skipped_invalid_payload

/-- The part of `replay_one` before the claim. -/
def replayCandidate (rt : Runtime) (dlq_replay_max_count : Int) (raw : KafkaValue) :
    Except ReplaySkip ReplayCandidate :=
  match replayPayload rt raw with
  | some (.obj job_payload) => replayObject dlq_replay_max_count job_payload
  | _ => .error .skipped_invalid_payload

/-- The record as it goes back to the ingress topic. -/
def ReplayCandidate.republished (c : ReplayCandidate) (replayed_at : PyStr) : Dict :=
  (((c.job_payload.set "replay_count" (.int (c.replay_count + 1 : Nat))).set
    "replayed_at" (.str replayed_at)).set "retry_count" (.int 0)).set "next_retry_at" .null

/-- The part of `replay_one` under a claim. A claim that cannot be released or settled
is only logged. -/
def republish (c : ReplayCandidate) (owner_token : PyStr) : Replay PyExc Bool := do
  let replayed_at ← Replay.now
  let published ← Replay.publish c.room_id (c.republished replayed_at)
  match published with
  | .error e => do
      let _ ← Replay.release c.request_id c.replay_count owner_token
      .throw e
  | .ok () => do
      let _ ← Replay.mark c.request_id c.replay_count owner_token
      return true

/-- `replay_one(raw)`: a candidate is claimed before it is published. Where another owner holds
the claim, it raises. -/
def replayOne (rt : Runtime) (dlq_replay_max_count : Int) (raw : KafkaValue) :
    Replay PyExc Bool :=
  match replayCandidate rt dlq_replay_max_count raw with
  | .error _ => return false
  | .ok c => do
      let answer ← Replay.claim c.request_id c.replay_count
      match answer with
      | .error e => .throw e
      | .ok (.persisted, _) => return false
      | .ok (.published, _) => return false
      | .ok (.claimed, some owner_token) => republish c owner_token
      | .ok _ => .throw .replayClaimInProgress

end EventPipeline.Worker
