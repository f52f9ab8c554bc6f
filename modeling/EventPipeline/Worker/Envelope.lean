import EventPipeline.Portfolio.Fields
import EventPipeline.Python.Runtime

/-!
# EventPipeline.Worker.Envelope

The event inside a job: `_event_envelope` and `_legacy_body_preview` of
`worker/main.py`.

`_event_envelope` reads a type, a payload and a metadata object out of a job or of
a stored response, and refuses what PostgreSQL or the next reader would not take.
`EventOk` says what it accepts; `eventEnvelope_ok` and `eventEnvelope_of_ok` are
the two directions, and everything later in the pipeline that reads an event again
goes through them.
-/

namespace EventPipeline.Worker

open EventPipeline.Python EventPipeline.Portfolio

/-! ### The event

An event can be written in an envelope of its own or in the legacy fields of the job. Both are
read into one type, a payload and metadata. -/

/-- The UTF-8 length of the compact form of a value; `none` where printing or
encoding it raises. -/
def jsonSize (v : Json) : Option Nat := do
  let text ← Json.dumps .compact false v
  let bytes ← utf8Encode text
  return bytes.length

/-- `isinstance(schema_version, int) and not isinstance(schema_version, bool) and
schema_version >= 2`, or a route under `POST:/v2/`; `str()` of a route that is no
string never begins that way. -/
def isGenericEnvelope (job_payload : Dict) : Bool :=
  (match job_payload.get? "schema_version" with
    | some (.int z) => 2 ≤ z
    | _ => false)
  || (match job_payload.get? "route" with
    | some (.str route) => route.startsWith "POST:/v2/"
    | _ => false)

/-- `_event_envelope`: the type field before its checks. -/
def rawEventType (job_payload : Dict) : Except PyExc Json :=
  match job_payload.get? "event_type" with
  | some v => .ok v
  | none =>
      if isGenericEnvelope job_payload then
        .error (ValueError "Generic envelope missing event_type")
      else .ok (.str "legacy.message")

/-- `_event_envelope`: the type field. -/
def envelopeEventType (job_payload : Dict) : Except PyExc PyStr := do
  let value ← rawEventType job_payload
  let event_type ← require (boundedText 50 value) "Invalid event_type"
  check (!isGenericEnvelope job_payload || isGenericEventType event_type)
    "Invalid generic event_type"
  return event_type

/-- `_event_envelope`: the payload field before its type check. -/
def envelopePayload (job_payload : Dict) : Except PyExc Json :=
  if isGenericEnvelope job_payload then
    require (job_payload.get? "payload") "Generic envelope missing payload"
  else
    match job_payload.get? "payload", job_payload.get? "body" with
    | none, some body | some .null, some body => .ok (.obj [("text", body)])
    | none, none | some .null, none => .ok .null
    | some v, _ => .ok v

/-- `metadata` of a legacy job that has none: its category and payment fields. -/
def legacyMetadata (job_payload : Dict) : Dict :=
  let metadata : Dict :=
    match job_payload.get? "category" with
    | none | some .null => []
    | some category => [("classification", category)]
  match job_payload.get? "payment_id" with
  | none | some .null => metadata
  | some payment => metadata.set "external_references" (.obj [("payment", payment)])

/-- `_event_envelope`: the metadata field before its type check. -/
def envelopeMetadata (job_payload : Dict) : Json :=
  match job_payload.get? "metadata" with
  | none => .obj (if isGenericEnvelope job_payload then [] else legacyMetadata job_payload)
  | some .null =>
      if isGenericEnvelope job_payload then .null else .obj (legacyMetadata job_payload)
  | some v => v

/-- The largest payload, in bytes of compact UTF-8 JSON. -/
def maxPayloadBytes : Nat := 65536

/-- The largest metadata object. -/
def maxMetadataBytes : Nat := 16384

/-- `_event_envelope(job_payload)`: the type, the payload and the metadata of an event. Both
objects have to be well formed, and no larger than their limit as JSON. -/
def eventEnvelope (job_payload : Dict) : Except PyExc (PyStr × Dict × Dict) := do
  let event_type ← envelopeEventType job_payload
  let payload ← envelopePayload job_payload
  let payload ← require (asObject payload) "Invalid payload"
  let metadata ← require (asObject (envelopeMetadata job_payload)) "Invalid metadata"
  validateJsonStructure (.obj payload)
  validateJsonStructure (.obj metadata)
  let payload_size ← require (jsonSize (.obj payload))
    "Payload and metadata must contain finite JSON values"
  let metadata_size ← require (jsonSize (.obj metadata))
    "Payload and metadata must contain finite JSON values"
  check (payload_size ≤ maxPayloadBytes) "Payload exceeds 65536 UTF-8 JSON bytes"
  check (metadata_size ≤ maxMetadataBytes) "Metadata exceeds 16384 UTF-8 JSON bytes"
  return (event_type, payload, metadata)

/-- The first of the text keys that holds a non-empty string. -/
def previewText (payload : Dict) : List PyStr → Option PyStr
  | [] => none
  | key :: keys =>
      match payload.get? key with
      | some (.str s) => if s = [] then previewText payload keys else some s
      | _ => previewText payload keys

/-- `_legacy_body_preview(payload)`, of a payload `_event_envelope` has returned. -/
def legacyBodyPreview (payload : Dict) : PyStr :=
  match previewText payload ["message", "text", "description"] with
  | some value => value.take 1000
  | none =>
      let text := (Json.render .compact (.obj payload)).take 1000
      if text = [] then "{}" else text

/-! ### What the envelope accepts -/

/-- A JSON object that fits a `jsonb` column and its size limit. -/
structure ObjectOk (maxBytes : Nat) (d : Dict) : Prop where
  sound : Json.Sound (.obj d)
  shallow : Json.depth (.obj d) ≤ maxJsonNestingDepth
  size : ∃ n, jsonSize (.obj d) = some n ∧ n ≤ maxBytes

/-- The type, payload and metadata of an accepted event. -/
structure EventOk (generic : Bool) (event_type : PyStr) (payload metadata : Dict) : Prop where
  type_ne_nil : event_type ≠ []
  type_length : event_type.length ≤ 50
  type_nul : event_type.hasNul = false
  type_generic : generic = true → isGenericEventType event_type = true
  payload : ObjectOk maxPayloadBytes payload
  metadata : ObjectOk maxMetadataBytes metadata

theorem envelopeEventType_ok {d : Dict} {et : PyStr} (h : envelopeEventType d = .ok et) :
    et ≠ [] ∧ et.length ≤ 50 ∧ et.hasNul = false ∧
      (isGenericEnvelope d = true → isGenericEventType et = true) := by
  simp only [envelopeEventType, bind_eq_ok, require_eq_ok, check_eq_ok, boundedText_eq_some] at h
  obtain ⟨v, -, t, ⟨-, hne, hlen, hnul⟩, -, hgen, hret⟩ := h
  obtain rfl : t = et := by simpa [pure, Except.pure] using hret
  refine ⟨hne, hlen, hnul, fun hg => ?_⟩
  simpa [hg] using hgen

/-- What `_event_envelope` returns is an accepted event: every check it has passed is a part of
`EventOk`. -/
theorem eventEnvelope_ok {d : Dict} {et : PyStr} {p m : Dict}
    (h : eventEnvelope d = .ok (et, p, m)) : EventOk (isGenericEnvelope d) et p m := by
  simp only [eventEnvelope, bind_eq_ok, require_eq_ok, check_eq_ok, asObject_eq_some,
    validateJsonStructure_ok, decide_eq_true_eq] at h
  obtain ⟨et', htype, v, -, p', -, m', -, -, hp, -, hm, ps, hps, ms, hms, -, hple, -, hmle,
    hret⟩ := h
  simp only [pure, Except.pure, Except.ok.injEq, Prod.mk.injEq] at hret
  obtain ⟨rfl, rfl, rfl⟩ := hret
  obtain ⟨hne, hlen, hnul, hgen⟩ := envelopeEventType_ok htype
  exact ⟨hne, hlen, hnul, hgen, ⟨hp.1, hp.2, ps, hps, hple⟩, ⟨hm.1, hm.2, ms, hms, hmle⟩⟩

/-- An event is accepted when each of its three parts is. -/
theorem eventEnvelope_of_parts {d : Dict} {et : PyStr} {p m : Dict}
    (htype : envelopeEventType d = .ok et) (hpayload : envelopePayload d = .ok (.obj p))
    (hmetadata : envelopeMetadata d = .obj m) (hp : ObjectOk maxPayloadBytes p)
    (hm : ObjectOk maxMetadataBytes m) : eventEnvelope d = .ok (et, p, m) := by
  obtain ⟨ps, hps, hple⟩ := hp.size
  obtain ⟨ms, hms, hmle⟩ := hm.size
  simp only [eventEnvelope, htype, hpayload, hmetadata, bind_eq_ok, require_eq_ok, check_eq_ok,
    asObject_eq_some, validateJsonStructure_ok, decide_eq_true_eq]
  exact ⟨et, rfl, _, rfl, p, rfl, m, rfl, (), ⟨hp.sound, hp.shallow⟩, (),
    ⟨hm.sound, hm.shallow⟩, ps, hps, ms, hms, (), hple, (), hmle, rfl⟩

/-- A type that is spelled out and accepted is read as it is. -/
theorem envelopeEventType_of_ok {d : Dict} {et : PyStr}
    (htype : d.get? "event_type" = some (.str et)) (hne : et ≠ []) (hlength : et.length ≤ 50)
    (hnul : et.hasNul = false)
    (hgeneric : isGenericEnvelope d = true → isGenericEventType et = true) :
    envelopeEventType d = .ok et := by
  have hbounded : boundedText 50 (.str et) = some et :=
    boundedText_eq_some.mpr ⟨rfl, hne, hlength, hnul⟩
  have hgen : (!isGenericEnvelope d || isGenericEventType et) = true := by
    cases hg : isGenericEnvelope d with
    | false => rfl
    | true => simpa using hgeneric hg
  simp only [envelopeEventType, bind_eq_ok, require_eq_ok, check_eq_ok]
  exact ⟨_, by simp [rawEventType, htype], et, hbounded, (), hgen, rfl⟩

/-- An object that spells out an accepted event is read back as that event. -/
theorem eventEnvelope_of_ok {d : Dict} {et : PyStr} {p m : Dict}
    (htype : d.get? "event_type" = some (.str et)) (hp : d.get? "payload" = some (.obj p))
    (hm : d.get? "metadata" = some (.obj m)) (h : EventOk (isGenericEnvelope d) et p m) :
    eventEnvelope d = .ok (et, p, m) := by
  have htype' : envelopeEventType d = .ok et :=
    envelopeEventType_of_ok htype h.type_ne_nil h.type_length h.type_nul h.type_generic
  have hpayload : envelopePayload d = .ok (.obj p) := by
    unfold envelopePayload
    split_ifs <;> simp [hp]
  have hmetadata : envelopeMetadata d = .obj m := by simp [envelopeMetadata, hm]
  exact eventEnvelope_of_parts htype' hpayload hmetadata h.payload h.metadata

/-- An object that spells out an event is read as that event or not at all. -/
theorem eventEnvelope_spelled {d : Dict} {et : PyStr} {p m : Dict} {r : PyStr × Dict × Dict}
    (htype : d.get? "event_type" = some (.str et)) (hp : d.get? "payload" = some (.obj p))
    (hm : d.get? "metadata" = some (.obj m)) (h : eventEnvelope d = .ok r) : r = (et, p, m) := by
  have hpayload : envelopePayload d = .ok (.obj p) := by
    unfold envelopePayload
    split_ifs <;> simp [hp]
  have hmetadata : envelopeMetadata d = .obj m := by simp [envelopeMetadata, hm]
  simp only [eventEnvelope, envelopeEventType, rawEventType, htype, hpayload, hmetadata,
    bind_eq_ok, require_eq_ok, check_eq_ok, asObject_eq_some, boundedText_eq_some] at h
  obtain ⟨et', ⟨v, hv, t, ⟨hstr, -⟩, -, -, hret⟩, w, hw, p', hobj, m', hobj', -, -, -, -, -, -,
    -, -, -, -, -, -, hr⟩ := h
  simp only [pure, Except.pure, Except.ok.injEq] at hv hw hret hr
  subst hv hw hret hr
  simp only [Json.obj.injEq, Json.str.injEq] at hobj hobj' hstr
  rw [hobj, hobj', hstr]

/-- No object in an event repeats a key, when none in the job does. -/
theorem eventEnvelope_unique {d : Dict} {et : PyStr} {p m : Dict} (hd : Json.UniquePairs d)
    (h : eventEnvelope d = .ok (et, p, m)) : Json.Unique (.obj p) ∧ Json.Unique (.obj m) := by
  simp only [eventEnvelope, bind_eq_ok, require_eq_ok, asObject_eq_some] at h
  obtain ⟨et', -, v, hv, p', rfl, m', hm, -, -, -, -, -, -, -, -, -, -, -, -, hret⟩ := h
  simp only [pure, Except.pure, Except.ok.injEq, Prod.mk.injEq] at hret
  obtain ⟨-, rfl, rfl⟩ := hret
  -- the legacy metadata has two keys of its own, and values of the job
  have hlegacy : Json.Unique (.obj (legacyMetadata d)) := by
    have hcategory : Json.Unique (.obj (match d.get? "category" with
        | none | some .null => []
        | some category => [("classification", category)])) := by
      split
      · exact ⟨by simp, trivial⟩
      · exact ⟨by simp, trivial⟩
      · rename_i category _ hcategory
        exact ⟨by simp, hd.get? hcategory, trivial⟩
    unfold legacyMetadata
    dsimp only
    split
    · exact hcategory
    · exact hcategory
    · rename_i payment _ hpayment
      exact hcategory.set _ ⟨by simp, hd.get? hpayment, trivial⟩
  constructor
  · -- a payload is a value of the job, or one value under a new key
    simp only [envelopePayload] at hv
    split_ifs at hv
    · exact hd.get? (require_eq_ok.mp hv)
    · split at hv
      · rename_i body _ hbody
        obtain rfl : [(_, body)] = p' := by simpa using hv
        exact ⟨by simp, hd.get? hbody, trivial⟩
      · rename_i body _ hbody
        obtain rfl : [(_, body)] = p' := by simpa using hv
        exact ⟨by simp, hd.get? hbody, trivial⟩
      · simp at hv
      · simp at hv
      · rename_i w hw _ _
        obtain rfl : w = .obj p' := by simpa using hv
        exact hd.get? hw
  · simp only [envelopeMetadata] at hm
    split at hm
    · split_ifs at hm <;> obtain rfl := Json.obj.inj hm
      · exact ⟨by simp, trivial⟩
      · exact hlegacy
    · split_ifs at hm
      obtain rfl := Json.obj.inj hm
      exact hlegacy
    · rename_i w _ hw
      exact hm ▸ hd.get? hw

/-! ### The preview -/

theorem previewText_sound {payload : Dict} {keys : List PyStr} {s : PyStr}
    (h : Json.Sound (.obj payload)) (hs : previewText payload keys = some s) : s.Clean := by
  induction keys with
  | nil => simp [previewText] at hs
  | cons key keys ih =>
      rw [previewText] at hs
      split at hs
      · rename_i t ht
        split_ifs at hs with hnil
        · exact ih hs
        · obtain rfl := Option.some.inj hs
          have := (Json.soundPairs_iff.mp h) _ (Dict.get?_eq_some_mem ht)
          exact this.2
      · exact ih hs

theorem previewText_ne_nil {payload : Dict} {keys : List PyStr} {s : PyStr}
    (hs : previewText payload keys = some s) : s ≠ [] := by
  induction keys with
  | nil => simp [previewText] at hs
  | cons key keys ih =>
      rw [previewText] at hs
      split at hs
      · split_ifs at hs with hnil
        · exact ih hs
        · obtain rfl := Option.some.inj hs
          exact hnil
      · exact ih hs

theorem legacyBodyPreview_length (payload : Dict) : (legacyBodyPreview payload).length ≤ 1000 := by
  unfold legacyBodyPreview
  split
  · simp
  · dsimp only
    split_ifs
    · decide
    · simp

theorem legacyBodyPreview_ne_nil (payload : Dict) : legacyBodyPreview payload ≠ [] := by
  unfold legacyBodyPreview
  split
  · rename_i value hv
    cases value with
    | nil => exact absurd rfl (previewText_ne_nil hv)
    | cons c cs => simp
  · dsimp only
    split_ifs with h
    · decide
    · exact h

end EventPipeline.Worker
