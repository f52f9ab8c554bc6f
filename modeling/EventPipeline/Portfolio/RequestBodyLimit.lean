import EventPipeline.Python.Codec
import EventPipeline.Python.Numeral

/-!
# EventPipeline.Portfolio.RequestBodyLimit

`RequestBodyLimitMiddleware` of `portfolio/main.py`.

`receive` answers with the messages of the server in their order, so a call is a function
of the list of messages. What the application sees is the channel it is called with, whose
answers are those of `replay_receive`.
-/

namespace EventPipeline.Portfolio.RequestBodyLimit

open EventPipeline.Python

/-! ### Messages -/

/-- A message of the server; a field that is missing has its default. -/
inductive Message
  | request (body : Option Bytes) (more_body : Option Bool)
  | disconnect
  /-- A message of another type. -/
  | other
  deriving DecidableEq

/-- `message.get("body", b"")`. -/
def Message.body : Message → Bytes
  | .request body _ => body.getD []
  | _ => []

/-- `message.get("more_body", False)`. -/
def Message.moreBody : Message → Bool
  | .request _ more_body => more_body.getD false
  | _ => false

/-- The connection scope, as far as the middleware looks at it. -/
structure Scope where
  isHttp : Bool
  headers : List (Bytes × Bytes)

/-- The middleware with its limit, which the constructor checks. -/
structure Middleware where
  max_body_bytes : Nat
  positive : 1 ≤ max_body_bytes

/-! ### The declared length -/

/-- `name.lower() == b"content-length"`. -/
def isContentLength (name : Bytes) : Bool :=
  name.map (fun b => if 65 ≤ b.toNat ∧ b.toNat ≤ 90 then b + 32 else b) =
    "content-length".toList.map fun c => UInt8.ofNat c.toNat

/-- `raw_value.decode("ascii")`. -/
def decodeAscii (raw_value : Bytes) : Option PyStr :=
  raw_value.mapM fun b => if b.toNat < 128 then some (Fin.ofNat _ b.toNat) else none

/-- `int(raw_value.decode("ascii"))`; `none` is the error that is caught. Beyond ASCII
there is nothing to look up. -/
def contentLength (raw_value : Bytes) : Option Int :=
  (decodeAscii raw_value).bind (parseInt ⟨fun _ => false, fun _ => none⟩)

/-- A declared length is above the limit. The loop ends at a length it cannot read. -/
def declaresTooMuch (limit : Nat) : List (Bytes × Bytes) → Bool
  | [] => false
  | (name, raw_value) :: headers =>
      if isContentLength name = true then
        match contentLength raw_value with
        | none => false
        | some length => (limit : Int) < length || declaresTooMuch limit headers
      else declaresTooMuch limit headers

/-! ### The body -/

/-- How the loop over `receive` ends. -/
inductive BodyRead
  | complete (body : Bytes)
  | disconnected (body : Bytes)
  | tooLarge
  /-- The server has not sent a final message yet. -/
  | waiting
  deriving DecidableEq

/-- The loop over `receive`, with the bytes so far. -/
def readBody (limit : Nat) (body : Bytes) : List Message → BodyRead
  | [] => .waiting
  | .disconnect :: _ => .disconnected body
  | .other :: messages => readBody limit body messages
  | .request chunk more_body :: messages =>
      let body := body ++ (Message.request chunk more_body).body
      if limit < body.length then .tooLarge
      else if (Message.request chunk more_body).moreBody = true then readBody limit body messages
      else .complete body

/-! ### The application -/

/-- The state `replay_receive` closes over. -/
structure Replay where
  body : Bytes
  disconnected : Bool
  delivered : Bool
  deriving DecidableEq

/-- `replay_receive()`: the buffered body in one message, and after it the disconnection; of a
client that has gone only the disconnection. -/
def Replay.receive (replay : Replay) : Message × Replay :=
  if replay.delivered then (.disconnect, replay)
  else if replay.disconnected then (.disconnect, { replay with delivered := true })
  else (.request (some replay.body) (some false), { replay with delivered := true })

/-- The first answers of `replay_receive`. -/
def Replay.answers (replay : Replay) : Nat → List Message
  | 0 => []
  | n + 1 => replay.receive.1 :: replay.receive.2.answers n

/-- What a call does. -/
inductive Outcome
  /-- The application is called with the server's own channel. -/
  | passed
  /-- The application is called with a channel of its own. -/
  | called (replay : Replay)
  /-- A response is sent and the application is not called. -/
  | responded (status_code : Nat) (detail : String)
  | waiting
  deriving DecidableEq

/-- The response to a body that is too large. -/
def tooLargeResponse : Outcome :=
  .responded 413 "Request body exceeds the configured limit"

/-- `__call__(scope, receive, send)`. -/
def Middleware.call (middleware : Middleware) (scope : Scope) (messages : List Message) :
    Outcome :=
  if scope.isHttp = false then .passed
  else if declaresTooMuch middleware.max_body_bytes scope.headers = true then tooLargeResponse
  else
    match readBody middleware.max_body_bytes [] messages with
    | .complete body => .called ⟨body, false, false⟩
    | .disconnected body => .called ⟨body, true, false⟩
    | .tooLarge => tooLargeResponse
    | .waiting => .waiting

end EventPipeline.Portfolio.RequestBodyLimit
