import EventPipeline.Worker.Outbox

/-!
# EventPipeline.Worker.Stored

A stored message read back. `MessageOk` is what every message the pipeline commits
satisfies, and the response made from such a row passes every reader of it: the
idempotency lookup, the status payload, the notification payload, and at the far
end of the outbox the notification consumer.
-/

namespace EventPipeline.Worker

open EventPipeline.Python EventPipeline.Portfolio EventPipeline.Postgres

/-! ### Stored messages -/

/-- What every stored message satisfies. -/
structure MessageOk (row : MessageRow) : Prop where
  id : 0 < row.id ∧ row.id ≤ maxPostgresBigint
  room_id : 0 < row.room_id ∧ row.room_id ≤ maxPostgresBigint
  user_id : 0 < row.user_id ∧ row.user_id ≤ maxPostgresBigint
  room_seq : 0 < row.room_seq ∧ row.room_seq ≤ maxPostgresBigint
  request_id : row.request_id ≠ [] ∧ row.request_id.length ≤ 80 ∧ row.request_id.Clean
  schema_version : 1 ≤ row.schema_version ∧ row.schema_version ≤ 32767
  event : EventOk (decide (2 ≤ row.schema_version)) row.event_type row.payload row.metadata
  texts : ∀ text ∈ row.texts, text.Clean
  body : row.body ≠ [] ∧ row.body.length ≤ 1000
  created_at : row.created_at ≠ []
  unique : Json.Unique (.obj row.metadata)

/-- A response made from a row, with or without the two entries added later. -/
def Responds (response : Dict) (row : MessageRow) : Prop :=
  ∀ key : PyStr, key ≠ "persisted_at" → key ≠ "_idempotency_hit" →
    Dict.get? response key = (messageRowResponse row).get? key

theorem responds_messageRowResponse (row : MessageRow) : Responds (messageRowResponse row) row :=
  fun _ _ _ => rfl

theorem Responds.set_persisted_at {response : Dict} {row : MessageRow} (h : Responds response row)
    (v : Json) : Responds (response.set "persisted_at" v) row := by
  intro key hkey hkey'
  rw [Dict.get?_set_of_ne (Ne.symm hkey), h key hkey hkey']

theorem Responds.set_hit {response : Dict} {row : MessageRow} (h : Responds response row)
    (v : Json) : Responds (response.set "_idempotency_hit" v) row := by
  intro key hkey hkey'
  rw [Dict.get?_set_of_ne (Ne.symm hkey'), h key hkey hkey']

theorem isIdempotencyHit_messageRowResponse (row : MessageRow) :
    isIdempotencyHit (messageRowResponse row) = false := by
  simp [isIdempotencyHit, messageRowResponse]

theorem isIdempotencyHit_set_persisted_at (response : Dict) (v : Json) :
    isIdempotencyHit (response.set "persisted_at" v) = isIdempotencyHit response := by
  rw [isIdempotencyHit, Dict.get?_set_of_ne (by simp), isIdempotencyHit]

theorem isIdempotencyHit_set_hit (response : Dict) :
    isIdempotencyHit (response.set "_idempotency_hit" (.bool true)) = true := by
  rw [isIdempotencyHit, Dict.get?_set_self]

section Read

variable {response : Dict} {row : MessageRow}

theorem versionOr1_of_pos {n : Nat} (h : 1 ≤ n) : versionOr1 (some (.int n)) = .int n := by
  have : ¬(n : Int) = 0 := by omega
  simp only [versionOr1, this, if_false]

theorem textOr_of_ne {s default : PyStr} (h : s ≠ []) : textOr s default = s := by
  simp [textOr, h]

theorem Responds.get? (h : Responds response row) {key : PyStr} (hkey : key ≠ "persisted_at")
    (hkey' : key ≠ "_idempotency_hit") :
    Dict.get? response key = Dict.get? (messageRowResponse row) key := h key hkey hkey'

theorem Responds.payload (h : Responds response row) :
    Dict.get? response "payload" = some (.obj row.payload) := by
  simp [h.get?, messageRowResponse]

theorem Responds.user_id (h : Responds response row) :
    Dict.get? response "user_id" = some (.int row.user_id) := by
  simp [h.get?, messageRowResponse]

theorem Responds.metadata (h : Responds response row) :
    Dict.get? response "metadata" = some (.obj row.metadata) := by
  simp [h.get?, messageRowResponse]

theorem Responds.event_type (h : Responds response row) (htype : row.event_type ≠ []) :
    Dict.get? response "event_type" = some (.str row.event_type) := by
  simp [h.get?, messageRowResponse, textOr_of_ne htype]

theorem Responds.version (h : Responds response row) (hv : 1 ≤ row.schema_version) :
    Dict.get? response "schema_version" = some (.int row.schema_version) := by
  simp [h.get?, messageRowResponse, versionOr1_of_pos hv]

theorem Responds.generic (h : Responds response row) (hv : 1 ≤ row.schema_version) :
    isGenericEnvelope response = decide (2 ≤ row.schema_version) := by
  refine isGenericEnvelope_of (h.version hv) fun route hroute => ?_
  simp [h.get?, messageRowResponse] at hroute

/-- The event of a stored message is read back from its response. -/
theorem Responds.eventEnvelope (h : Responds response row) (hok : MessageOk row) :
    eventEnvelope response = .ok (row.event_type, row.payload, row.metadata) := by
  refine eventEnvelope_of_ok (h.event_type hok.event.type_ne_nil) h.payload h.metadata ?_
  rw [h.generic hok.schema_version.1]
  exact hok.event

/-- Only an accepted event is read back at all. -/
theorem Responds.eventOk {r : PyStr × Dict × Dict} (h : Responds response row)
    (hv : 1 ≤ row.schema_version) (htype : row.event_type ≠ [])
    (hr : Worker.eventEnvelope response = .ok r) :
    EventOk (decide (2 ≤ row.schema_version)) row.event_type row.payload row.metadata := by
  obtain ⟨et, p, m⟩ := r
  have hevent := eventEnvelope_ok hr
  rw [h.generic hv] at hevent
  have hspelled := eventEnvelope_spelled (h.event_type htype) h.payload h.metadata hr
  simp only [Prod.mk.injEq] at hspelled
  obtain ⟨rfl, rfl, rfl⟩ := hspelled
  exact hevent

/-! ### The idempotency lookup -/

/-- **The stored response is accepted again** for its own user and room. -/
theorem idempotencyResponseOk_messageRowResponse (hok : MessageOk row) :
    idempotencyResponseOk (messageRowResponse row) row.user_id row.room_id = true := by
  have hbig : ∀ {n : Nat}, 0 < n ∧ n ≤ maxPostgresBigint → positiveBigint (.int n) = some n :=
    fun h => positiveBigint_eq_some.mpr ⟨rfl, h⟩
  have hrid : boundedText 80 (.str row.request_id) = some row.request_id :=
    boundedText_eq_some.mpr ⟨rfl, hok.request_id.1, hok.request_id.2.1, hok.request_id.2.2.1⟩
  have hsv : schemaVersion (.int row.schema_version) = some row.schema_version :=
    schemaVersion_eq_some.mpr ⟨rfl, hok.schema_version⟩
  have hbody : row.body.length ≤ 1000 := hok.body.2
  have henv := (responds_messageRowResponse row).eventEnvelope hok
  simp only [idempotencyResponseOk, henv]
  simp [messageRowResponse, versionOr1_of_pos hok.schema_version.1, hbig hok.id, hbig hok.room_id,
    hbig hok.user_id, hbig hok.room_seq, hrid, hsv, hbody, hok.created_at, Except.isOk,
    Except.toBool]

theorem validatedIdempotencyResponse_messageRowResponse (hok : MessageOk row) :
    validatedIdempotencyResponse (some (.obj (messageRowResponse row))) row.user_id row.room_id
      = some (messageRowResponse row) := by
  simp [validatedIdempotencyResponse, idempotencyResponseOk_messageRowResponse hok]

/-! ### The status and the notification -/

/-- The status row of a stored message. -/
def persistedStatus (row : MessageRow) (request_id persisted_at : PyStr) : Dict :=
  [("request_id", .str request_id), ("status", .str "persisted"), ("message_id", .int row.id),
    ("room_id", .int row.room_id), ("room_seq", .int row.room_seq), ("user_id", .int row.user_id),
    ("actor_id", .int row.user_id), ("body", .str row.body), ("created_at", .str row.created_at),
    ("persisted_at", .str persisted_at), ("event_type", .str row.event_type),
    ("category", optText row.category), ("payment_id", optText row.payment_id),
    ("schema_version", .int row.schema_version), ("payload", .obj row.payload),
    ("metadata", .obj row.metadata)]

theorem optText_sound {text : Option PyStr} (h : ∀ s ∈ text.toList, s.Clean) :
    Json.Sound (optText text) := by
  cases text with
  | none => trivial
  | some s => exact h s (by simp)

/-- The status of a stored message fits its column. -/
theorem persistedStatus_sound (hok : MessageOk row) {request_id persisted_at : PyStr}
    (hclean : request_id.Clean) (hat : persisted_at.Clean) :
    Json.Sound (.obj (persistedStatus row request_id persisted_at)) ∧
      Json.depth (.obj (persistedStatus row request_id persisted_at)) ≤ maxJsonWireNestingDepth := by
  have htexts := hok.texts
  constructor
  · have hkeys : ∀ key ∈ (["request_id", "status", "message_id", "room_id", "room_seq", "user_id",
        "actor_id", "body", "created_at", "persisted_at", "event_type", "category", "payment_id",
        "schema_version", "payload", "metadata"] : List PyStr), key.Clean := by decide
    have hstatus : PyStr.Clean "persisted" := by decide
    refine Json.soundPairs_iff.mpr fun p hp => ⟨hkeys _ (List.mem_map_of_mem hp), ?_⟩
    simp only [persistedStatus, List.mem_cons, List.not_mem_nil, or_false] at hp
    rcases hp with rfl | rfl | rfl | rfl | rfl | rfl | rfl | rfl | rfl | rfl | rfl | rfl | rfl |
      rfl | rfl | rfl
    -- numbers need nothing; the texts are those of the row
    any_goals exact trivial
    · exact hclean
    · exact hstatus
    · exact htexts _ (by simp [MessageRow.texts])
    · exact htexts _ (by simp [MessageRow.texts])
    · exact hat
    · exact htexts _ (by simp [MessageRow.texts])
    · exact optText_sound fun s hs => htexts s (by simp [MessageRow.texts, hs])
    · exact optText_sound fun s hs => htexts s (by simp [MessageRow.texts, hs])
    · exact hok.event.payload.sound
    · exact hok.event.metadata.sound
  · have hcategory : ∀ text : Option PyStr, Json.depth (optText text) = 0 := by
      intro text
      cases text <;> rfl
    have hpayload := hok.event.payload.shallow
    have hmetadata := hok.event.metadata.shallow
    simp only [persistedStatus, Json.depth, Json.depthValues, hcategory, maxJsonWireNestingDepth]
      at hpayload hmetadata ⊢
    omega

/-- The notification of a stored message. -/
def notificationOf (row : MessageRow) : Dict :=
  [("event_id", .int row.id), ("stream_id", .int row.room_id), ("message_id", .int row.id),
    ("room_id", .int row.room_id), ("event_type", .str row.event_type),
    ("payload_preview", .str ((legacyBodyPreview row.payload).take 120)),
    ("metadata", .obj row.metadata),
    ("body_preview", .str ((legacyBodyPreview row.payload).take 30))]

theorem Responds.persistedStatusPayload (h : Responds response row) (hok : MessageOk row)
    {request_id persisted_at : PyStr}
    (hat : Dict.get? response "persisted_at" = some (.str persisted_at)) :
    persistedStatusPayload request_id response
      = .ok (persistedStatus row request_id persisted_at) := by
  have hbody : Dict.get? response "body" = some (.str row.body) := by
    simp [h.get?, messageRowResponse]
  have hne : row.body ≠ [] := hok.body.1
  simp only [Worker.persistedStatusPayload, h.eventEnvelope hok, hbody, hat,
    h.version hok.schema_version.1, versionOr1_of_pos hok.schema_version.1, textOr_of_ne hne]
  simp [h.get?, responseField, messageRowResponse, persistedStatus, pure, Except.pure, bind,
    Except.bind]

/-- The status of a stored message passes the checks of `upsert_request_status`, for the
user of the message. -/
theorem normalizedRequestStatus_persistedStatus (hok : MessageOk row)
    {request_id persisted_at : PyStr} (hid : request_id ≠ [] ∧ request_id.length ≤ 80)
    (hclean : request_id.Clean) (hat : persisted_at.Clean) :
    normalizedRequestStatus request_id (persistedStatus row request_id persisted_at)
      = .ok (row.user_id, persistedStatus row request_id persisted_at) := by
  have htext : boundedText 80 (.str request_id) = some request_id :=
    boundedText_eq_some.mpr ⟨rfl, hid.1, hid.2, hclean.1⟩
  have huser : positiveBigint (.int row.user_id) = some row.user_id :=
    positiveBigint_eq_some.mpr ⟨rfl, hok.user_id⟩
  have hactor : optionalField (persistedStatus row request_id persisted_at) "actor_id"
      positiveBigint "Invalid request status actor_id" = .ok (some row.user_id) :=
    optionalField_present (by simp [persistedStatus]) (by simp) huser
  have howner : optionalField (persistedStatus row request_id persisted_at) "user_id"
      positiveBigint "Invalid request status user_id" = .ok (some row.user_id) :=
    optionalField_present (by simp [persistedStatus]) (by simp) huser
  have hsame : ((Dict.get? (persistedStatus row request_id persisted_at) "request_id").getD
      (.str request_id)).pyEq (.str request_id) = true := by
    simp [persistedStatus, Json.pyEq, Json.eqItem]
  have hset : ((Dict.set (persistedStatus row request_id persisted_at) "request_id"
      (.str request_id)).set "user_id" (.int row.user_id)).set "actor_id" (.int row.user_id)
      = persistedStatus row request_id persisted_at := by
    simp [persistedStatus, Dict.set]
  simp only [normalizedRequestStatus, bind_eq_ok, require_eq_ok, check_eq_ok]
  refine ⟨request_id, htext, (), hsame, _, hactor, _, howner, (), by simp, row.user_id, rfl, (), ?_,
    ?_⟩
  · rw [hset]
    exact validateJsonStructure_ok.mpr (persistedStatus_sound hok hclean hat)
  · rw [hset]
    rfl

theorem Responds.notificationAttemptPayload (h : Responds response row) (hok : MessageOk row) :
    notificationAttemptPayload response = .ok (notificationOf row) := by
  simp only [Worker.notificationAttemptPayload, h.eventEnvelope hok]
  simp [h.get?, responseField, messageRowResponse, notificationOf, pure, Except.pure, bind,
    Except.bind]

end Read

/-! ### The far end of the outbox

What the relay publishes is read by the notification consumer. It accepts the notification of
every stored message. -/

theorem intFits_of_le {n : Nat} (h : n ≤ maxPostgresBigint) : Json.intFits n = true := by
  have hlength : (natStr n).length ≤ 19 := by
    unfold natStr
    split_ifs
    · decide
    · rw [List.length_map, List.length_reverse, Nat.digits_length_le_iff (by norm_num)]
      exact lt_of_le_of_lt h (by norm_num [maxPostgresBigint])
  rw [Json.intFits, Json.maxIntDigits, Int.natAbs_natCast]
  exact decide_eq_true (hlength.trans (by norm_num))

theorem ObjectOk.printable {n : Nat} {d : Dict} (h : ObjectOk n d) :
    Json.printable false (.obj d) = true := by
  obtain ⟨size, hsize, -⟩ := h.size
  simp only [jsonSize, Json.dumps] at hsize
  by_contra hp
  simp [hp] at hsize

/-- An object of an accepted job goes over the wire. -/
theorem ObjectOk.wireValue {n : Nat} {d : Dict} (h : ObjectOk n d)
    (hunique : Json.Unique (.obj d)) : WireValue (.obj d) :=
  ⟨h.sound, h.shallow, h.printable, hunique⟩

theorem legacyBodyPreview_clean {payload : Dict} (h : Json.Sound (.obj payload)) :
    (legacyBodyPreview payload).Clean := by
  unfold legacyBodyPreview
  split
  · rename_i value hv
    exact (previewText_sound h hv).take 1000
  · dsimp only
    split_ifs
    · decide
    · exact (Json.render_compact_clean h).take 1000

section Notification

variable {row : MessageRow}

/-- The notification of a stored message crosses the wire. -/
theorem notificationOf_wire (hok : MessageOk row) : Wire (.obj (notificationOf row)) := by
  have hpreview := legacyBodyPreview_clean hok.event.payload.sound
  have hmeta := hok.event.metadata
  refine ⟨?_, ?_, ?_⟩
  · have hkeys : ∀ key ∈ (["event_id", "stream_id", "message_id", "room_id", "event_type",
        "payload_preview", "metadata", "body_preview"] : List PyStr), key.Clean := by decide
    refine Json.soundPairs_iff.mpr fun p hp => ⟨hkeys _ (List.mem_map_of_mem hp), ?_⟩
    simp only [notificationOf, List.mem_cons, List.not_mem_nil, or_false] at hp
    rcases hp with rfl | rfl | rfl | rfl | rfl | rfl | rfl | rfl
    · trivial
    · trivial
    · trivial
    · trivial
    · exact hok.texts _ (by simp [MessageRow.texts])
    · exact hpreview.take 120
    · exact hmeta.sound
    · exact hpreview.take 30
  · have hdepth : Json.depth (.obj (notificationOf row)) = 1 + Json.depth (.obj row.metadata) := by
      simp [notificationOf, Json.depth, Json.depthValues]
    have := hmeta.shallow
    simp only [maxJsonWireNestingDepth]
    omega
  · simp [notificationOf, Json.printable, Json.printablePairs, intFits_of_le hok.id.2,
      intFits_of_le hok.room_id.2]
    simpa [Json.printable] using hmeta.printable

theorem notificationOf_unique (hok : MessageOk row) : Json.Unique (.obj (notificationOf row)) := by
  refine ⟨by simp [notificationOf], Json.uniquePairs_iff.mpr fun p hp => ?_⟩
  simp only [notificationOf, List.mem_cons, List.not_mem_nil, or_false] at hp
  rcases hp with rfl | rfl | rfl | rfl | rfl | rfl | rfl | rfl
  any_goals trivial
  exact hok.unique

/-- The normalised notification of a stored message. -/
def MessageOk.notification (_ : MessageOk row) : NotificationPayload where
  event_id := row.id
  stream_id := row.room_id
  event_type := row.event_type
  payload_preview := (legacyBodyPreview row.payload).take 120
  metadata := row.metadata
  body_preview := (legacyBodyPreview row.payload).take 30

/-- **The notification consumer accepts what the outbox holds.** Each check of the normalisation
is met by a part of `MessageOk`, which every stored row satisfies. -/
theorem normalizeNotificationPayload_notificationOf (hok : MessageOk row) :
    normalizeNotificationPayload (.obj (notificationOf row)) = .ok hok.notification := by
  have hpreview := legacyBodyPreview_clean hok.event.payload.sound
  have hmarker : isInvalidKafkaPayload (.obj (notificationOf row)) = false := by
    simp [isInvalidKafkaPayload, invalidKafkaPayloadMarker, notificationOf]
  obtain ⟨size, hsize, hle⟩ := hok.event.metadata.size
  have hid : positiveBigint (.int row.id) = some row.id := positiveBigint_eq_some.mpr ⟨rfl, hok.id⟩
  have hroom : positiveBigint (.int row.room_id) = some row.room_id :=
    positiveBigint_eq_some.mpr ⟨rfl, hok.room_id⟩
  have htype : boundedText 50 (.str row.event_type) = some row.event_type :=
    boundedText_eq_some.mpr ⟨rfl, hok.event.type_ne_nil, hok.event.type_length,
      hok.event.type_nul⟩
  have hshort : ∀ n, shortText n (.str ((legacyBodyPreview row.payload).take n))
      = some ((legacyBodyPreview row.payload).take n) := fun n =>
    shortText_eq_some.mpr ⟨rfl, by simp, (hpreview.take n).1⟩
  simp only [normalizeNotificationPayload, hmarker, Bool.false_eq_true, if_false,
    normalizeNotificationObject, bind_eq_ok, require_eq_ok, check_eq_ok,
    validateJsonStructure_ok, asObject_eq_some]
  refine ⟨(), ?_, (), ?_, row.id, ?_, row.room_id, ?_, row.event_type, ?_, _, ?_, _, ?_,
    row.metadata, ?_, (), ⟨hok.event.metadata.sound, hok.event.metadata.shallow⟩, size, hsize, (),
    by simpa using hle, rfl⟩
  · simp [validateAliasPair, notificationOf, Json.sameType, Json.pyEq, Json.eqItem, Json.number?]
  · simp [validateAliasPair, notificationOf, Json.sameType, Json.pyEq, Json.eqItem, Json.number?]
  · simpa [aliased, notificationOf] using hid
  · simpa [aliased, notificationOf] using hroom
  · simpa [notificationOf] using htype
  · simpa [notificationOf] using hshort 30
  · simpa [notificationOf] using hshort 120
  · simp [notificationOf]

end Notification

end EventPipeline.Worker
