import EventPipeline.Portfolio.Intake
import EventPipeline.Python.Arithmetic
import EventPipeline.Worker.Batch

/-!
# EventPipeline.Worker.Handler

`handle_ingress_job` of `worker/main.py` and what it does with a record it cannot persist:
the inline retries, the two ways into the DLQ, and the request statuses on the way.

The handler is a program over what it asks of the clock, the database and Kafka
(`IngressOp`). A transaction is one operation here; what it does inside is
`persistIngressJob` of `Worker.Persist` and `storeRequestStatus` of `Portfolio.StateStore`.
Metrics, logging and the reconnect between two tries, whose errors are swallowed, are left
out.
-/

namespace EventPipeline.Worker

open EventPipeline.Python EventPipeline.Portfolio EventPipeline.Concurrency

/-! ### What the handler asks for -/

/-- The effects of the ingress worker. -/
inductive IngressOp
  | utcNow
  | uuid4
  /-- `time.time()`. -/
  | time
  /-- The `time.sleep(delay)` between two tries. -/
  | sleep (seconds : PyFloat)
  /-- The `time.sleep` at the top of the loop, up to `next_retry_at`. -/
  | awaitRetry (seconds : PyFloat)
  | persistIngressJob (job : IngressJob)
  | storeRequestStatus (request_id : PyStr) (payload : Dict)
  | publishDlqJob (key : Nat) (payload : Dict)
  | commit (partition : TopicPartition) (offset : Nat)
  | seek (partition : TopicPartition) (offset : Nat)

/-- What comes back. -/
abbrev IngressOp.Res : IngressOp → Type
  | .utcNow => Clock
  | .uuid4 => Nat
  | .time => Clock
  | .sleep _ => Unit
  | .awaitRetry _ => Unit
  | .persistIngressJob _ => Except PyExc Dict
  | .storeRequestStatus _ _ => Except PyExc Dict
  | .publishDlqJob _ _ => Except PyExc Unit
  | .commit _ _ => Except PyExc Unit
  | .seek _ _ => Except PyExc Unit

/-- A program of the ingress worker. -/
abbrev Handling (α : Type) := Prog IngressOp IngressOp.Res PyExc α

/-- `publish_dlq_job(key, payload)`. -/
def publishDlqJob (key : Nat) (payload : Dict) : Handling Unit := do
  let sent ← Prog.call (IngressOp.publishDlqJob key payload)
  .ofExcept sent

/-- `update_request_status(request_id, payload)`: whatever the database raises is logged. -/
def updateRequestStatus (request_id : PyStr) (payload : Dict) : Handling Unit := do
  let _ ← Prog.call (IngressOp.storeRequestStatus request_id payload)
  return ()

/-- The settings the handler reads. -/
structure IngressSettings where
  ingress_max_retries : Int
  ingress_retry_base_delay_seconds : PyFloat

/-! ### Statuses -/

/-- `_PUBLIC_INGRESS_AUTHORIZATION_REJECTION`. -/
def publicIngressAuthorizationRejection : PyStr := "Event authorization rejected"

/-- The status of a rejected job. -/
def failedStatus (job : IngressJob) (failed_reason : PyStr) : Dict :=
  [("request_id", .str job.request_id), ("status", .str "failed"), ("room_id", .int job.room_id),
    ("user_id", .int job.user_id), ("failed_reason", .str failed_reason)]

/-- The status of a job that went to the DLQ. -/
def failedDlqStatus (job : IngressJob) (failed_reason failed_at : PyStr) : Dict :=
  [("request_id", .str job.request_id), ("status", .str "failed_dlq"),
    ("room_id", .int job.room_id), ("user_id", .int job.user_id),
    ("failed_reason", .str failed_reason), ("retry_count", .int job.retry_count),
    ("failed_at", .str failed_at)]

/-- The status of a job that waits for its next try. -/
def queuedStatus (job : IngressJob) (next_retry_at : PyStr) : Dict :=
  [("request_id", .str job.request_id), ("status", .str "queued"), ("room_id", .int job.room_id),
    ("user_id", .int job.user_id), ("room_seq", optNat job.room_seq),
    ("retry_count", .int job.retry_count), ("next_retry_at", .str next_retry_at)]

/-! ### `move_to_dlq` -/

/-- The job as `move_to_dlq` leaves it. -/
def IngressJob.deadLettered (job : IngressJob) (failed_reason failed_at : PyStr) : IngressJob :=
  { job with failed_reason := some failed_reason, failed_at := some failed_at }

/-- `move_to_dlq(job_payload, reason)`. -/
def moveToDlq (job : IngressJob) (reason : PyStr) : Handling Unit := do
  let now ← Prog.call IngressOp.utcNow
  let failed_at := Clock.nowIso now
  publishDlqJob job.room_id (job.deadLettered reason failed_at).toDict
  updateRequestStatus job.request_id (failedDlqStatus job reason failed_at)

/-! ### `mark_inline_retry` -/

/-- `_MAX_INLINE_RETRY_DELAY_SECONDS`. -/
def maxInlineRetryDelaySeconds : PyFloat := PyFloat.ofNat 60

/-- `base_delay`: the configured delay, or one second for one that is no positive number. -/
def retryBaseDelay (configured : PyFloat) : PyFloat :=
  if configured.isFinite = false ∨ configured.le PyFloat.zero then PyFloat.ofNat 1 else configured

/-- `delay`, of the new `retry_count`. -/
def retryDelay (configured : PyFloat) (retry_count : Nat) : PyFloat :=
  let exponent := min (retry_count - 1) 20
  ((retryBaseDelay configured).mul (PyFloat.ofNat (2 ^ exponent))).minimum
    maxInlineRetryDelaySeconds

/-- `time.time()`, of a reading of the clock. -/
def clockTime (now : Clock) : PyFloat := PyFloat.ofRat (now.micros / 1000000)

/-- `datetime.fromtimestamp(seconds, tz=timezone.utc).isoformat()`; `none` where it raises. -/
def timestampIso : PyFloat → Option PyStr
  | .finite neg mag =>
      let micros := Binary64.roundHalfEven (mag.toRat * 1000000)
      if (neg = false ∨ micros = 0) ∧ micros < maxMicros then
        some (DateTime.ofMicros micros).isoformat
      else none
  | _ => none

/-- The job as `mark_inline_retry` leaves it. -/
def IngressJob.retried (job : IngressJob) (next_retry_at : PyFloat) : IngressJob :=
  { job with retry_count := job.retry_count + 1, next_retry_at := some next_retry_at }

/-- `mark_inline_retry(job_payload)`: the job it leaves and the delay it returns. -/
def markInlineRetry (settings : IngressSettings) (job : IngressJob) :
    Handling (PyFloat × PyFloat) := do
  let delay := retryDelay settings.ingress_retry_base_delay_seconds (job.retry_count + 1)
  let now ← Prog.call IngressOp.time
  let next_retry_at := (clockTime now).add delay
  match timestampIso next_retry_at with
  | some text => do
      updateRequestStatus job.request_id (queuedStatus (job.retried next_retry_at) text)
      return (next_retry_at, delay)
  | none => return (next_retry_at, delay)

/-! ### `move_invalid_ingress_to_dlq` -/

/-- `type(raw).__name__` of a record value. -/
def rawTypeName : KafkaValue → String
  | .invalid _ => "InvalidKafkaPayload"
  | .json .null => "NoneType"
  | .json (.bool _) => "bool"
  | .json (.int _) => "int"
  | .json (.float _) => "float"
  | .json (.str _) => "str"
  | .json (.arr _) => "list"
  | .json (.obj _) => "dict"

/-- `raw.encode("utf-8", errors="replace")`. -/
def utf8Replace (s : PyStr) : Bytes :=
  s.flatMap fun c => if c.isSurrogate then utf8Char (CodePoint.ofChar '?') else utf8Char c

/-- `raw_bytes`: the bytes of a rejected value, whose size, digest and beginning its dead letter
reports. -/
def rawBytes : KafkaValue → Bytes
  | .json (.str text) => utf8Replace text
  | raw =>
      let value := match raw with
        | .invalid marker => .obj marker
        | .json v => v
      match (Json.dumps .compact false value).bind utf8Encode with
      | some bytes => bytes
      | none => utf8Replace (PyStr.ofString ("<" ++ rawTypeName raw ++ ":unserializable>"))

/-- `sys.maxsize`: no Python object is longer. -/
def sysMaxsize : Nat := 9223372036854775807

/-- `len(data)`. -/
def pyLen (data : Bytes) : Nat := min data.length sysMaxsize

/-- What a DLQ record says about a value that was not accepted. -/
structure Diagnostics where
  source : PyStr
  size_bytes : Int
  sha256 : PyStr
  preview : Bytes

/-- The diagnostics of a value that was decoded, or that is text. -/
def plainDiagnostics (rt : Runtime) (raw : KafkaValue) : Diagnostics where
  source := match raw with
    | .json (.str _) => "raw_input_bytes"
    | _ => "normalized_json"
  size_bytes := pyLen (rawBytes raw)
  sha256 := rt.sha256 (rawBytes raw)
  preview := (rawBytes raw).take 1024

/-- A lower-case hexadecimal digit. -/
def isHexDigit (c : CodePoint) : Bool :=
  (48 ≤ c.val && c.val ≤ 57) || (97 ≤ c.val && c.val ≤ 102)

/-- The diagnostics of bytes that were not decoded, as far as the marker has them. -/
def markerDiagnostics (rt : Runtime) (marker : Dict) : Diagnostics :=
  let plain := plainDiagnostics rt (.invalid marker)
  { source := "kafka_raw_bytes"
    size_bytes := match marker.get? "raw_size" with
      | some (.int size) => if 0 ≤ size then size else plain.size_bytes
      | _ => plain.size_bytes
    sha256 := match marker.get? "raw_sha256" with
      | some (.str digest) =>
          if digest.length = 64 ∧ ∀ c ∈ digest, isHexDigit c = true then digest else plain.sha256
      | _ => plain.sha256
    preview := match marker.get? "raw_base64" with
      | some (.str text) => ((base64Decode text).map (List.take 1024)).getD plain.preview
      | _ => plain.preview }

/-- The diagnostics of a record value. -/
def diagnostics (rt : Runtime) : KafkaValue → Diagnostics
  | .invalid marker => markerDiagnostics rt marker
  | raw => plainDiagnostics rt raw

/-- `str(reason).replace("\x00", "\\0")[:300]`. -/
def safeReason (reason : PyStr) : PyStr :=
  (reason.flatMap fun c => if c.val = 0 then PyStr.ofString "\\0" else [c]).take 300

/-- `_safe_nonnegative_int(source.get(key, 0))`. -/
def safeNonnegativeInt (source : Dict) (key : PyStr) : Nat :=
  (nonnegativeBigint ((source.get? key).getD (.int 0))).getD 0

/-- What `move_invalid_ingress_to_dlq` keeps of a value. -/
structure InvalidIngress where
  request_id : PyStr
  room_id : Nat
  user_id : Option Nat
  failed_reason : PyStr
  failed_at : PyStr

/-- The record it publishes. -/
def invalidIngressPayload (rt : Runtime) (raw : KafkaValue) (kept : InvalidIngress) : Dict :=
  let source := raw.asDict.getD []
  let diagnostic := diagnostics rt raw
  [("request_id", .str kept.request_id), ("room_id", .int kept.room_id),
    ("user_id", optNat kept.user_id), (invalidKafkaPayloadMarker, .bool true),
    ("failed_reason", .str kept.failed_reason), ("failed_at", .str kept.failed_at),
    ("retry_count", .int (safeNonnegativeInt source "retry_count")),
    ("replay_count", .int (safeNonnegativeInt source "replay_count")),
    ("diagnostic_source", .str diagnostic.source),
    ("diagnostic_size_bytes", .int diagnostic.size_bytes),
    ("diagnostic_sha256", .str diagnostic.sha256),
    ("diagnostic_preview_base64", .str (base64Encode diagnostic.preview))]

/-- The status it stores for a known user. -/
def invalidIngressStatus (kept : InvalidIngress) (user_id : Nat) : Dict :=
  ([("request_id", .str kept.request_id), ("status", .str "failed_dlq"),
    ("user_id", .int user_id), ("failed_reason", .str kept.failed_reason),
    ("failed_at", .str kept.failed_at)] : Dict)
  ++ (if 0 < kept.room_id then ([("room_id", .int kept.room_id)] : Dict) else [])

/-- `request_id`, made up where the value has none. -/
def invalidRequestId (source : Dict) : Handling PyStr :=
  match (source.get? "request_id").bind (boundedText 80) with
  | some request_id => return request_id
  | none => do
      let value ← Prog.call IngressOp.uuid4
      return PyStr.ofString "invalid-" ++ uuidText value

/-- `move_invalid_ingress_to_dlq(raw, reason)`. -/
def moveInvalidIngressToDlq (rt : Runtime) (raw : KafkaValue) (reason : PyStr) :
    Handling Unit := do
  let source := raw.asDict.getD []
  let request_id ← invalidRequestId source
  let now ← Prog.call IngressOp.utcNow
  let kept : InvalidIngress :=
    { request_id
      room_id := ((source.get? "room_id").bind positiveBigint).getD 0
      user_id := (source.get? "user_id").bind positiveBigint
      failed_reason := PyStr.ofString "invalid_ingress:" ++ safeReason reason
      failed_at := Clock.nowIso now }
  publishDlqJob kept.room_id (invalidIngressPayload rt raw kept)
  match kept.user_id with
  | some user_id => updateRequestStatus kept.request_id (invalidIngressStatus kept user_id)
  | none => return ()

/-! ### `handle_ingress_job`

The loop goes on after an exception that a later try may not meet, as long as a retry is left. All
other ends return, but for an exception that no clause catches or that a publication raises. -/

/-- What the handler returns. -/
inductive IngressOutcome
  | success | rejected | dlq
  deriving DecidableEq

/-- The `except` clauses around `persist_ingress_job`, in the source's order. -/
inductive PersistFailure
  | unauthorized
  | invalid (message : PyStr)
  | badData (name : String)
  | sequenceGap
  | transient (name : String)
  | uncaught (exc : PyExc)

/-- The clause that catches an exception. -/
def persistFailure : PyExc → PersistFailure
  | .ingressAuthorizationError _ => .unauthorized
  | .dataError name => .badData name
  | .roomSequenceGapError _ _ => .sequenceGap
  | .transient name => .transient name
  | .replayClaimInProgress => .transient "ReplayClaimInProgress"
  | e => if e.isValueError then .invalid e.message else .uncaught e

/-- `time.sleep(...)` at the top of the loop. -/
def awaitNextRetry (job : IngressJob) : Handling Unit :=
  match job.next_retry_at with
  | none => return ()
  | some next_retry_at => do
      let now ← Prog.call IngressOp.time
      if (clockTime now).lt next_retry_at then do
        let now ← Prog.call IngressOp.time
        Prog.call (IngressOp.awaitRetry
          ((PyFloat.zero.maximum (next_retry_at.sub (clockTime now))).minimum
            maxInlineRetryDelaySeconds))
      else return ()

/-- The status and the outcome of a rejected job. -/
def rejectJob (job : IngressJob) (failed_reason : PyStr) : Handling IngressOutcome := do
  updateRequestStatus job.request_id (failedStatus job failed_reason)
  return .rejected

/-- The DLQ record and the outcome of a job that is given up. -/
def giveUp (job : IngressJob) (reason : PyStr) : Handling IngressOutcome := do
  moveToDlq job reason
  return .dlq

/-- The tries `retry_count` leaves, the measure by which the loop ends. -/
def triesLeft (settings : IngressSettings) (job : IngressJob) : Nat :=
  (settings.ingress_max_retries - job.retry_count).toNat

theorem triesLeft_eq_succ {settings : IngressSettings} {job : IngressJob}
    (h : ¬settings.ingress_max_retries ≤ job.retry_count) (next_retry_at : PyFloat) :
    triesLeft settings job = triesLeft settings (job.retried next_retry_at) + 1 := by
  show (settings.ingress_max_retries - job.retry_count).toNat =
    (settings.ingress_max_retries - (job.retry_count + 1 : Nat)).toNat + 1
  omega

theorem triesLeft_retried {settings : IngressSettings} {job : IngressJob}
    (h : ¬settings.ingress_max_retries ≤ job.retry_count) (next_retry_at : PyFloat) :
    triesLeft settings (job.retried next_retry_at) < triesLeft settings job := by
  rw [triesLeft_eq_succ h next_retry_at]
  exact Nat.lt_succ_self _

/-- The passes of the loop that may follow one over `job`: those over a job with fewer tries
left. -/
abbrev Again (settings : IngressSettings) (job : IngressJob) : Type :=
  (next : IngressJob) → triesLeft settings next < triesLeft settings job → Handling IngressOutcome

/-- The two retry branches: a `retry_count` that has reached `ingress_max_retries` gives the job
up, otherwise the next pass of the loop follows the pause. -/
def retryOrGiveUp (settings : IngressSettings) (job : IngressJob) (reason : PyStr)
    (again : Again settings job) : Handling IngressOutcome :=
  if h : settings.ingress_max_retries ≤ job.retry_count then giveUp job reason
  else do
    let marked ← markInlineRetry settings job
    Prog.call (IngressOp.sleep marked.2)
    again (job.retried marked.1) (triesLeft_retried h marked.1)

/-- One pass of the `while True` loop; `again` is the next one. -/
def persistPass (settings : IngressSettings) (job : IngressJob) (again : Again settings job) :
    Handling IngressOutcome := do
  awaitNextRetry job
  let response ← Prog.call (IngressOp.persistIngressJob job)
  match response with
  | .ok _ => return .success
  | .error e =>
      match persistFailure e with
      | .unauthorized => rejectJob job publicIngressAuthorizationRejection
      | .invalid message => rejectJob job message
      | .badData name => giveUp job (PyStr.ofString ("invalid_persistence_data:" ++ name))
      | .sequenceGap => retryOrGiveUp settings job "room_sequence_gap" again
      | .transient name =>
          retryOrGiveUp settings job (PyStr.ofString ("transient_error_max_retries:" ++ name))
            again
      | .uncaught e => .throw e

/-- The `while True` loop. -/
def persistLoop (settings : IngressSettings) (job : IngressJob) : Handling IngressOutcome :=
  persistPass settings job fun next _ => persistLoop settings next
termination_by triesLeft settings job

/-- What the first `try` of the handler makes of a record value: the value as it is now,
since validation edits a decoded object in place, and the job or `str(exc)`. -/
def readIngress (rt : Runtime) : KafkaValue → KafkaValue × Except PyStr IngressJob
  | .invalid marker => (.invalid marker, .error "Kafka payload is marked as invalid")
  | .json (.obj d) =>
      if isInvalidKafkaPayload (.obj d) then
        (.json (.obj d), .error "Kafka payload is marked as invalid")
      else
        let (d', verdict) := validateIngressObject rt d
        (.json (.obj d'), verdict.mapError PyExc.message)
  | .json (.str text) =>
      match loads ⟨rt.recursionLimit, true⟩ text with
      | .error _ => (.json (.str text), .error (PyStr.ofString (rt.decodeErrorText text)))
      | .ok decoded =>
          if isInvalidKafkaPayload decoded then
            (.json (.str text), .error "Kafka payload is marked as invalid")
          else (.json (.str text), (validateIngressPayload rt decoded).2.mapError PyExc.message)
  | raw =>
      (raw, .error (PyStr.ofString
        ("the JSON object must be str, bytes or bytearray, not " ++ rawTypeName raw)))

/-- A record key as `handle_ingress_job` may be given it. -/
inductive KafkaKey
  | unset
  | null
  | bytes (key : Bytes)
  | text (key : PyStr)
  | int (key : Int)

/-- `normalized_kafka_key != str(job_payload["room_id"])` holds of no key that is unset. -/
def KafkaKey.matches (room_id : Nat) : KafkaKey → Bool
  | .unset => true
  | .null => false
  | .bytes key => utf8Decode key = some (natStr room_id)
  | .text key => key = natStr room_id
  | .int key => intStr key = natStr room_id

/-- `handle_ingress_job(raw, kafka_key=...)`. -/
def handleIngressJob (rt : Runtime) (settings : IngressSettings) (raw : KafkaValue)
    (kafka_key : KafkaKey) : Handling IngressOutcome :=
  match readIngress rt raw with
  | (raw, .error reason) => do
      moveInvalidIngressToDlq rt raw reason
      return .dlq
  | (_, .ok job) =>
      if kafka_key.matches job.room_id then persistLoop settings job
      else do
        moveInvalidIngressToDlq rt (.json (.obj job.toDict)) "kafka_key_stream_id_mismatch"
        return .dlq

/-- `_handle_ingress_record(message)`: the job is the value of the record, which is checked
against its key. -/
def handleIngressRecord (rt : Runtime) (settings : IngressSettings)
    (message : ConsumerRecord KafkaValue) : Handling IngressOutcome :=
  handleIngressJob rt settings message.value
    (match message.key with
      | none => .null
      | some key => .bytes key)

end EventPipeline.Worker
