import EventPipeline.Concurrency.Keyset
import EventPipeline.Postgres.Tables

/-!
# EventPipeline.Portfolio.ListEvents

`GET /streams/{stream_id}/events` of `portfolio/api.py`: one page of a stream, the
newest events first.
-/

namespace EventPipeline.Portfolio

open EventPipeline.Python EventPipeline.Postgres EventPipeline.Concurrency

/-- `HTTPException(status_code, detail)`. -/
structure HTTPException where
  status_code : Nat
  detail : String
  deriving DecidableEq

/-- `_ensure_room_member(cur, room_id, user_id)`. -/
def ensureRoomMember (t : Tables) (room_id user_id : Nat) : Except HTTPException Unit :=
  if t.rooms room_id && t.room_members room_id user_id then .ok ()
  else .error ⟨404, "Stream not found"⟩

/-- `_event_row_to_response(row)`; `payload` and `metadata` are objects in every row. -/
def eventRowToResponse (row : MessageRow) : Dict :=
  [("id", .int row.id), ("request_id", .str row.request_id), ("stream_id", .int row.room_id),
    ("stream_seq", .int row.room_seq), ("user_id", .int row.user_id),
    ("actor_id", .int row.user_id),
    ("event_type",
      .str (if row.event_type = [] then PyStr.ofString "legacy.message" else row.event_type)),
    ("category", (row.category.map Json.str).getD .null),
    ("payment_id", (row.payment_id.map Json.str).getD .null), ("body", .str row.body),
    ("schema_version", .int (if row.schema_version = 0 then 1 else row.schema_version)),
    ("payload", .obj row.payload), ("metadata", .obj row.metadata),
    ("created_at", .str row.created_at)]

/-- The messages of a stream, as they were inserted. -/
def roomMessages (t : Tables) (stream_id : Nat) : List MessageRow :=
  t.messages.filter fun m => m.room_id = stream_id

/-- `list_events(stream_id, limit, before_id, current_user)`: the items it returns. -/
def listEvents (t : Tables) (stream_id limit : Nat) (before_id : Option Nat) (user_id : Nat) :
    Except HTTPException (List Dict) := do
  ensureRoomMember t stream_id user_id
  let rows := Keyset.page MessageRow.id before_id limit (roomMessages t stream_id)
  return rows.map eventRowToResponse

end EventPipeline.Portfolio
