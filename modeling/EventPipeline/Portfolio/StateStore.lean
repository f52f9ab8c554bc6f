import EventPipeline.Portfolio.KafkaClient
import EventPipeline.Postgres.Statements

/-!
# EventPipeline.Portfolio.StateStore

`portfolio/state_store.py`: request statuses and DLQ replay claims, as transaction
programs over the statements they send. A connection that is left without
`commit()` rolls back; where the source returns that way nothing has been written,
so the program simply returns.
-/

namespace EventPipeline.Portfolio

open EventPipeline.Python EventPipeline.Postgres EventPipeline.Concurrency

/-- A transaction of the services. -/
abbrev Transaction (α : Type) := Prog Stmt Stmt.Res PyExc α

/-- Send one statement. -/
def execute (s : Stmt) : Transaction s.Res := Prog.call s

/-! ### Request statuses -/

/-- `_normalized_request_status(request_id, payload)`. -/
def normalizedRequestStatus (request_id : PyStr) (payload : Dict) :
    Except PyExc (Nat × Dict) := do
  let _ ← require (boundedText 80 (.str request_id)) "Invalid request status request_id"
  check (((payload.get? "request_id").getD (.str request_id)).pyEq (.str request_id))
    "Request status request_id mismatch"
  let actor_id ← optionalField payload "actor_id" positiveBigint "Invalid request status actor_id"
  let user_id ← optionalField payload "user_id" positiveBigint "Invalid request status user_id"
  check (actor_id = none ∨ user_id = none ∨ actor_id = user_id)
    "Conflicting request status actor_id/user_id"
  let owner_id ← require (actor_id.or user_id) "Request status owner is missing"
  let status := ((payload.set "request_id" (.str request_id)).set "user_id" (.int owner_id)).set
    "actor_id" (.int owner_id)
  validateJsonStructure (.obj status) maxJsonWireNestingDepth
  return (owner_id, status)

/-- `upsert_request_status(cur, request_id, payload)`. -/
def upsertRequestStatus (request_id : PyStr) (payload : Dict) : Transaction Dict := do
  let (owner_id, status) ← Prog.ofExcept (normalizedRequestStatus request_id payload)
  let row ← execute (.upsertRequestStatus request_id owner_id (.obj status))
  if row then return status
  else .throw .requestStatusOwnerConflict

/-- `store_request_status(request_id, payload)`, a transaction of its own. -/
def storeRequestStatus (request_id : PyStr) (payload : Dict) : Transaction Dict :=
  upsertRequestStatus request_id payload

/-! ### DLQ replay claims

A claim is a row whose key names the request and the generation, and whose value names the owner.
The three calls insert, mark and delete it, each under the value that it expects to find. -/

/-- `DLQ_REPLAY_CLAIM_ROUTE`. -/
def dlqReplayClaimRoute : PyStr := "POST:/v1/dlq/ingress/replay"

/-- `_validate_replay_claim_identity(request_id, replay_generation)`. -/
def validateReplayClaimIdentity (request_id : PyStr) (replay_generation : Nat) :
    Except PyExc Unit := do
  let _ ← require (boundedText 80 (.str request_id)) "Invalid DLQ replay request_id"
  validateJsonStructure (.str request_id)
  check (replay_generation ≤ maxPostgresBigint) "Invalid DLQ replay generation"

/-- `_dlq_replay_claim_key(request_id, replay_generation)`. -/
def dlqReplayClaimKey (request_id : PyStr) (replay_generation : Nat) : Except PyExc PyStr := do
  validateReplayClaimIdentity request_id replay_generation
  return request_id ++ PyStr.ofString ":" ++ natStr replay_generation

/-- `_dlq_replay_claim_value(request_id, owner_token)`. -/
def dlqReplayClaimValue (request_id owner_token : PyStr) : Except PyExc PyStr := do
  validateReplayClaimIdentity request_id 0
  let _ ← require (boundedText 80 (.str owner_token)) "Invalid DLQ replay owner token"
  validateJsonStructure (.str owner_token)
  return PyStr.ofString "claimed:" ++ owner_token ++ PyStr.ofString ":" ++ request_id

/-- `f"published:{request_id}"`. -/
def dlqReplayPublishedValue (request_id : PyStr) : PyStr :=
  PyStr.ofString "published:" ++ request_id

/-- The first component of what `claim_dlq_replay` returns; `claimed` comes with
the owner token. -/
inductive ClaimState
  | persisted | claimed | published | in_progress
  deriving DecidableEq

/-- `status_payload` of a stored status: a stored string is decoded once more. -/
def decodedStatus (rt : Runtime) : Json → Except PyExc Json
  | .str text =>
      match loads ⟨rt.recursionLimit, true⟩ text with
      | .ok v => .ok v
      | .error .jsonDecodeError => .ok .null
      | .error .valueError =>
          .error (ValueError "Exceeds the limit (4300 digits) for integer string conversion")
      | .error .recursionError => .error (.transient "RecursionError")
  | v => .ok v

/-- `status_payload.get("status") == "persisted"` of an object. -/
def isPersistedStatus : Json → Bool
  | .obj status => ((Dict.get? status "status").getD .null).pyEq (.str "persisted")
  | _ => false

/-- `claim_dlq_replay(request_id, replay_generation)`; `owner_token` is the text of
its `uuid4()`. -/
def claimDlqReplay (rt : Runtime) (request_id : PyStr) (replay_generation : Nat)
    (owner_token : PyStr) : Transaction ClaimState := do
  let claim_key ← Prog.ofExcept (dlqReplayClaimKey request_id replay_generation)
  let claim_value ← Prog.ofExcept (dlqReplayClaimValue request_id owner_token)
  let row ← execute (.selectRequestStatus request_id)
  let status_payload ← Prog.ofExcept (decodedStatus rt (row.getD .null))
  if isPersistedStatus status_payload then return .persisted
  else
    let inserted ← execute (.insertReplayClaim dlqReplayClaimRoute claim_key claim_value)
    if inserted then return .claimed
    else
      let existing ← execute (.selectReplayClaimForUpdate dlqReplayClaimRoute claim_key)
      let existing_value := existing.getD []
      if existing_value.startsWith "published:" || !existing_value.startsWith "claimed:" then
        return .published
      else
        let taken ← execute
          (.updateExpiredReplayClaim dlqReplayClaimRoute claim_key claim_value)
        if taken then return .claimed else return .in_progress

/-- `mark_dlq_replay_published(request_id, replay_generation, owner_token)`. -/
def markDlqReplayPublished (request_id : PyStr) (replay_generation : Nat)
    (owner_token : PyStr) : Transaction Bool := do
  let claim_key ← Prog.ofExcept (dlqReplayClaimKey request_id replay_generation)
  let claim_value ← Prog.ofExcept (dlqReplayClaimValue request_id owner_token)
  execute (.updateReplayClaimPublished dlqReplayClaimRoute claim_key
    (dlqReplayPublishedValue request_id) claim_value)

/-- `release_dlq_replay_claim(request_id, replay_generation, owner_token)`. -/
def releaseDlqReplayClaim (request_id : PyStr) (replay_generation : Nat)
    (owner_token : PyStr) : Transaction Unit := do
  let claim_key ← Prog.ofExcept (dlqReplayClaimKey request_id replay_generation)
  let claim_value ← Prog.ofExcept (dlqReplayClaimValue request_id owner_token)
  execute (.deleteReplayClaim dlqReplayClaimRoute claim_key claim_value)

end EventPipeline.Portfolio
