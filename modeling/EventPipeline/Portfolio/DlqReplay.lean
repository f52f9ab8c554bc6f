import EventPipeline.Concurrency.Program
import EventPipeline.Portfolio.KafkaClient
import EventPipeline.Portfolio.StateStore

/-!
# EventPipeline.Portfolio.DlqReplay

The DLQ part of `portfolio/api.py`: the summary an operator sees of a dead-lettered
record, and the manual replay of one.

A replay is a program over what it asks of the database and of Kafka (`ReplayOp`), so
that the manual replay here and the automatic replayer of the worker can be compared
by what they ask for.
-/

namespace EventPipeline.Portfolio

open EventPipeline.Python EventPipeline.Concurrency

/-! ### What a replay asks for -/

/-- The effects of a replay. -/
inductive ReplayOp
  | claimDlqReplay (request_id : PyStr) (replay_generation : Nat)
  | nowIso
  | publishIngressJob (key : Nat) (payload : Dict)
  | releaseDlqReplayClaim (request_id : PyStr) (replay_generation : Nat) (owner_token : PyStr)
  | markDlqReplayPublished (request_id : PyStr) (replay_generation : Nat) (owner_token : PyStr)

/-- What comes back; every call but the clock may raise. -/
abbrev ReplayOp.Res : ReplayOp → Type
  | .claimDlqReplay _ _ => Except PyExc (ClaimState × Option PyStr)
  | .nowIso => PyStr
  | .publishIngressJob _ _ => Except PyExc Unit
  | .releaseDlqReplayClaim _ _ _ => Except PyExc Unit
  | .markDlqReplayPublished _ _ _ => Except PyExc Bool

/-- A replay that may raise `ε`. -/
abbrev Replay (ε α : Type) := Prog ReplayOp ReplayOp.Res ε α

section Asking

variable {ε : Type}

abbrev Replay.claim (request_id : PyStr) (replay_generation : Nat) :
    Replay ε (Except PyExc (ClaimState × Option PyStr)) :=
  Prog.call (ReplayOp.claimDlqReplay request_id replay_generation)

abbrev Replay.now : Replay ε PyStr := Prog.call ReplayOp.nowIso

abbrev Replay.publish (key : Nat) (payload : Dict) : Replay ε (Except PyExc Unit) :=
  Prog.call (ReplayOp.publishIngressJob key payload)

abbrev Replay.release (request_id : PyStr) (replay_generation : Nat) (owner_token : PyStr) :
    Replay ε (Except PyExc Unit) :=
  Prog.call (ReplayOp.releaseDlqReplayClaim request_id replay_generation owner_token)

abbrev Replay.mark (request_id : PyStr) (replay_generation : Nat) (owner_token : PyStr) :
    Replay ε (Except PyExc Bool) :=
  Prog.call (ReplayOp.markDlqReplayPublished request_id replay_generation owner_token)

end Asking

/-- What an endpoint raises. -/
inductive ApiExc
  | httpException (status_code : Nat) (detail : String)
  | raised (exc : PyExc)

/-! ### Reading untrusted fields

A record of the DLQ may hold anything. The readers of its fields never raise, and return a default
for what is malformed. -/

/-- `_safe_int(value, default=..., minimum=...)`. -/
def safeInt (default minimum : Int) : Json → Int
  | .int parsed =>
      if parsed < minimum then default
      else if maxPostgresBigint < parsed then default
      else parsed
  | _ => default

/-- `_safe_optional_positive_int(value)`. -/
def safeOptionalPositiveInt (value : Json) : Option Nat :=
  let parsed := safeInt 0 1 value
  if 0 < parsed ∧ parsed ≤ maxPostgresBigint then some parsed.toNat else none

/-- `_safe_optional_nonnegative_int(value)`. -/
def safeOptionalNonnegativeInt : Json → Option Nat := nonnegativeBigint

/-- `_safe_optional_text(value, max_length=...)`; `pyRepr` is the `repr` of a value, or
`none` where it raises. -/
def safeOptionalText (pyRepr : Json → Option PyStr) (max_length : Nat) (value : Json) :
    Option PyStr :=
  let text := match value with
    | .null => none
    | .str s => some s
    | v => pyRepr v
  (text.map (List.take max_length)).filter fun t => (validateJsonStructure (.str t)).isOk

/-- `_selected_event_field(payload, canonical, legacy)`. -/
def selectedEventField (payload : Dict) (canonical legacy : PyStr) : Json :=
  match payload.get? canonical with
  | some v => v
  | none => (payload.get? legacy).getD .null

/-- Both spellings of a field are there and differ. -/
def aliasConflict (payload : Dict) (canonical legacy : PyStr) : Bool :=
  match payload.get? canonical, payload.get? legacy with
  | some c, some l => !(c.sameType l && c.pyEq l)
  | _, _ => false

/-- `_has_conflicting_event_aliases(payload)`: one of the three fields with two names has two
values. -/
def hasConflictingEventAliases (payload : Dict) : Bool :=
  aliasConflict payload "stream_id" "room_id" || aliasConflict payload "actor_id" "user_id" ||
    aliasConflict payload "stream_seq" "room_seq"

/-! ### The summary -/

/-- `isinstance(value, dict)` of a record value; the marker class is a `dict`. -/
def KafkaValue.asDict : KafkaValue → Option Dict
  | .json (.obj d) => some d
  | .json _ => none
  | .invalid marker => some marker

/-- The value as `repr` shows it. -/
def KafkaValue.toJson : KafkaValue → Json
  | .json v => v
  | .invalid marker => .obj marker

/-- An item of `list_recent_topic_messages`. -/
structure DlqRecord where
  topic : Json
  partition : Json
  offset : Json
  timestamp : Json
  key : Json
  value : KafkaValue

/-- A summarised item. -/
structure DlqItem where
  topic : Option PyStr
  partition : Option Nat
  offset : Option Nat
  timestamp : Option Nat
  key : Option PyStr
  request_id : Option PyStr
  stream_id : Option Nat
  user_id : Option Nat
  failed_reason : Option PyStr
  retry_count : Int
  replay_count : Int
  replayable : Bool
  max_replay_count : Int
  failed_at : Option PyStr
  replayed_at : Option PyStr
  payload : Dict

/-- What stands for a value that is no object or not sound. -/
def unrepresentable (pyRepr : Json → Option PyStr) (raw_value : KafkaValue) : Dict :=
  [(invalidKafkaPayloadMarker, .bool true),
    ("raw_preview", .str (((safeOptionalText pyRepr 500 raw_value.toJson).filter (· ≠ [])).getD
      "unrepresentable payload"))]

/-- The object a summary reads. -/
def summaryValue (pyRepr : Json → Option PyStr) (raw_value : KafkaValue) : Dict × Bool :=
  let value := raw_value.asDict.getD (unrepresentable pyRepr raw_value)
  if (validateJsonStructure (.obj value) maxJsonWireNestingDepth).isOk then (value, false)
  else (unrepresentable pyRepr raw_value, true)

/-- A counter that is no integer or out of range. -/
def invalidCounter (raw : Json) : Bool := (nonnegativeBigint raw).isNone

/-- `_summarize_dlq_item(item)`: a dead letter as the endpoint lists it. A field that a replay
needs and that cannot be read makes it not replayable. -/
def summarizeDlqItem (pyRepr : Json → Option PyStr) (dlq_replay_max_count : Int)
    (item : DlqRecord) : DlqItem :=
  let (value, structure_invalid) := summaryValue pyRepr item.value
  let request_id := (value.get? "request_id").bind (boundedText 80)
  let stream_id := safeOptionalPositiveInt (selectedEventField value "stream_id" "room_id")
  let user_id := safeOptionalPositiveInt (selectedEventField value "actor_id" "user_id")
  let retry_raw := (value.get? "retry_count").getD (.int 0)
  let replay_raw := (value.get? "replay_count").getD (.int 0)
  let retry_count := safeInt 0 0 retry_raw
  let replay_count := safeInt 0 0 replay_raw
  let invalid_counters := invalidCounter retry_raw || invalidCounter replay_raw
  let invalid_payload := structure_invalid || isInvalidKafkaPayload (.obj value) ||
    hasConflictingEventAliases value || request_id.isNone || stream_id.isNone ||
    user_id.isNone || invalid_counters
  let text (max_length : Nat) (key : PyStr) :=
    safeOptionalText pyRepr max_length ((value.get? key).getD .null)
  { topic := safeOptionalText pyRepr 200 item.topic
    partition := safeOptionalNonnegativeInt item.partition
    offset := safeOptionalNonnegativeInt item.offset
    timestamp := safeOptionalNonnegativeInt item.timestamp
    key := safeOptionalText pyRepr 500 item.key
    request_id, stream_id, user_id
    failed_reason := ((text 500 "failed_reason").filter (· ≠ [])).or
      (if invalid_payload then some "invalid_dlq_payload" else none)
    retry_count, replay_count
    replayable := !invalid_payload && decide (replay_count < dlq_replay_max_count)
    max_replay_count := dlq_replay_max_count
    failed_at := text 100 "failed_at"
    replayed_at := text 100 "replayed_at"
    payload := value }

/-! ### The manual replay

From the item on, the endpoint refuses it for the guards that the summary shows, and claims,
publishes and settles the claim in this order. -/

/-- The 409 of both guards. -/
def blockedByReplayGuard : ApiExc := .httpException 409 "DLQ event is blocked by replay guard"

/-- `type(count) is int and 0 <= count < min(dlq_replay_max_count, _MAX_POSTGRES_BIGINT)`. -/
def belowReplayGuard (dlq_replay_max_count : Int) : Json → Option Nat
  | .int count =>
      if 0 ≤ count ∧ count < min dlq_replay_max_count maxPostgresBigint then some count.toNat
      else none
  | _ => none

/-- `_claim_manual_replay(item)`: the generation and the owner token. -/
def claimManualReplay (dlq_replay_max_count : Int) (item : DlqItem) :
    Replay ApiExc (Nat × PyStr) :=
  if item.replayable = false then .throw blockedByReplayGuard
  else
    let request_id := item.request_id.getD "None"
    match belowReplayGuard dlq_replay_max_count (.int item.replay_count) with
    | none => .throw blockedByReplayGuard
    | some replay_generation => do
        let answer ← Replay.claim request_id replay_generation
        match answer with
        | .error e => .throw (.raised e)
        | .ok (.persisted, _) => .throw (.httpException 409 "DLQ event is already persisted")
        | .ok (.published, _) => .throw (.httpException 409 "DLQ replay was already requested")
        | .ok (.claimed, some owner_token) => return (replay_generation, owner_token)
        | .ok _ => .throw (.httpException 409 "DLQ replay is already in progress")

/-- The answer of the replay endpoint. -/
structure DlqReplayResponse where
  request_id : Json
  stream_id : Nat
  replay_count : Nat
  replayed_at : PyStr

/-- `_replay_dlq_payload(item)`: the checks of a replay by hand, and the record it publishes,
which counts one replay more and starts its retries anew. -/
def replayDlqPayload (dlq_replay_max_count : Int) (item : DlqItem) :
    Replay ApiExc DlqReplayResponse :=
  if item.replayable = false then .throw blockedByReplayGuard
  else
    match safeOptionalPositiveInt (selectedEventField item.payload "stream_id" "room_id") with
    | none => .throw (.httpException 409 "DLQ event is missing stream id")
    | some stream_id =>
        match belowReplayGuard dlq_replay_max_count
            ((item.payload.get? "replay_count").getD (.int 0)) with
        | none => .throw blockedByReplayGuard
        | some current_replay_count => do
            let replay_count := current_replay_count + 1
            let replayed_at ← Replay.now
            let payload := (((item.payload.set "replay_count" (.int replay_count)).set
              "replayed_at" (.str replayed_at)).set "retry_count" (.int 0)).set
              "next_retry_at" .null
            let published ← Replay.publish stream_id payload
            match published with
            | .error _ => .throw (.httpException 503 "Kafka unavailable")
            | .ok () =>
                let request_id := (payload.get? "request_id").getD .null
                return ⟨request_id, stream_id, replay_count, replayed_at⟩

/-- `replay_ingress_dlq_event` from the item on: claim, replay, and settle the claim.
A claim that cannot be settled is only logged. -/
def replayIngressDlqEvent (dlq_replay_max_count : Int) (request_id : PyStr) (item : DlqItem) :
    Replay ApiExc DlqReplayResponse := do
  let (replay_generation, owner_token) ← claimManualReplay dlq_replay_max_count item
  let result ← (replayDlqPayload dlq_replay_max_count item).attempt
  match result with
  | .error e => do
      let _ ← Replay.release request_id replay_generation owner_token
      .throw e
  | .ok response => do
      let _ ← Replay.mark request_id replay_generation owner_token
      return response

/-! ### What the reading functions decide -/

theorem safeOptionalPositiveInt_eq (v : Json) : safeOptionalPositiveInt v = positiveBigint v := by
  cases v with
  | int z =>
      simp only [safeOptionalPositiveInt, safeInt, positiveBigint]
      split_ifs <;> first | rfl | omega
  | _ => simp [safeOptionalPositiveInt, safeInt, positiveBigint]

theorem safeInt_of_nonnegative {v : Json} {n : Nat} (h : nonnegativeBigint v = some n) :
    safeInt 0 0 v = n := by
  obtain ⟨rfl, hn⟩ := nonnegativeBigint_eq_some.mp h
  have hsmall : ¬ ((maxPostgresBigint : Int) < n) := by omega
  have hpos : ¬ ((n : Int) < 0) := by omega
  simp only [safeInt, if_neg hpos, if_neg hsmall]

theorem invalidCounter_eq_false {v : Json} :
    invalidCounter v = false ↔ ∃ n, nonnegativeBigint v = some n := by
  cases h : nonnegativeBigint v <;> simp [invalidCounter, h]

theorem belowReplayGuard_eq_some {max : Int} {v : Json} {n : Nat} :
    belowReplayGuard max v = some n ↔
      v = .int n ∧ (n : Int) < max ∧ n < maxPostgresBigint := by
  cases v with
  | int z =>
      simp only [belowReplayGuard]
      split_ifs with h <;> simp only [Option.some.injEq, Json.int.injEq, false_iff] <;> omega
  | _ => simp [belowReplayGuard]

theorem isOk_iff {v : Json} {n : Nat} :
    (validateJsonStructure v n).isOk = true ↔ validateJsonStructure v n = .ok () := by
  cases h : validateJsonStructure v n <;> simp [Except.isOk, Except.toBool]

end EventPipeline.Portfolio
