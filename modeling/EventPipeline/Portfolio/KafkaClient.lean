import EventPipeline.Portfolio.Fields
import EventPipeline.Python.JsonRoundTrip
import EventPipeline.Python.JsonUnique
import EventPipeline.Python.Runtime

/-!
# EventPipeline.Portfolio.KafkaClient

`portfolio/kafka_client.py`: record values on their way to and from Kafka.

The producer refuses what the consumer would mark as invalid, so a record one
service publishes reaches the next one as the value that was published
(`deserializeJson_serializeJson`).
-/

namespace EventPipeline.Portfolio

open EventPipeline.Python

/-- `INVALID_KAFKA_PAYLOAD_MARKER`. -/
def invalidKafkaPayloadMarker : PyStr := "__invalid_kafka_payload__"

/-- A record value as a consumer delivers it. A tombstone is `None`, the value of a
JSON `null`; `InvalidKafkaPayload` is a class of its own in the source. -/
inductive KafkaValue
  | json (v : Json)
  | invalid (marker : Dict)

/-- `_serialize_json(value)`: the bytes of a value, with an error for one that is too deep or that
JSON cannot carry. `None` is sent as no value. -/
def serializeJson : Json → Except PyExc (Option Bytes)
  | .null => .ok none
  | value => do
      validateJsonStructure value maxJsonWireNestingDepth
      let text ← require (Json.dumps .wire false value)
        "Exceeds the limit (4300 digits) for integer string conversion"
      let bytes ← require (utf8Encode text) "surrogates not allowed"
      return some bytes

/-- The marker for bytes that are no valid record. -/
def invalidKafkaPayload (rt : Runtime) (value : Bytes) (decode_error : String) : Dict :=
  [(invalidKafkaPayloadMarker, .bool true), ("decode_error", .str decode_error),
    ("raw_base64", .str (base64Encode (value.take 2048))), ("raw_size", .int value.length),
    ("raw_sha256", .str (rt.sha256 value))]

/-- `json.loads(text, parse_constant=_reject_nonfinite_json)`. -/
def loadsFinite (rt : Runtime) (text : PyStr) : Except JsonError Json :=
  loads ⟨rt.recursionLimit, false⟩ text

/-- `_decode_json(value, validate_structure=...)`. -/
def decodeJson (rt : Runtime) (validate_structure : Bool) : Option Bytes → KafkaValue
  | none => .json .null
  | some value =>
      match utf8Decode value with
      | none => .invalid (invalidKafkaPayload rt value "UnicodeDecodeError")
      | some text =>
          match loadsFinite rt text with
          | .error e => .invalid (invalidKafkaPayload rt value e.name)
          | .ok decoded =>
              match validate_structure, validateJsonStructure decoded maxJsonWireNestingDepth with
              | true, .error _ => .invalid (invalidKafkaPayload rt value "ValueError")
              | _, _ => .json decoded

/-- `_deserialize_json(value)`: never raises. What cannot be decoded becomes a marker with the
error. -/
def deserializeJson (rt : Runtime) : Option Bytes → KafkaValue := decodeJson rt true

/-- `is_invalid_kafka_payload(value)` of a decoded value. -/
def isInvalidKafkaPayload : Json → Bool
  | .obj d =>
      match Dict.get? d invalidKafkaPayloadMarker with
      | some (.bool true) => true
      | _ => false
  | _ => false

/-! ### What crosses the wire

A value that the producer takes is decoded as itself. `Wire` is what that asks of a value: it
prints, it is shallow enough, and no object of it repeats a key. -/

/-- A value every service can publish and read back. -/
structure Wire (v : Json) : Prop where
  sound : Json.Sound v
  shallow : Json.depth v ≤ maxJsonWireNestingDepth
  printable : Json.printable false v = true

/-- A value that may stand in a record of its own or in an object around it. -/
structure WireValue (v : Json) : Prop where
  sound : Json.Sound v
  shallow : Json.depth v ≤ maxJsonNestingDepth
  printable : Json.printable false v = true
  unique : Json.Unique v

theorem WireValue.null : WireValue .null := ⟨trivial, by simp [Json.depth], rfl, trivial⟩

theorem WireValue.text {s : PyStr} (h : s.Clean) : WireValue (.str s) :=
  ⟨h, by simp [Json.depth], rfl, trivial⟩

theorem WireValue.int {z : Int} (h : Json.intFits z = true) : WireValue (.int z) :=
  ⟨trivial, by simp [Json.depth], h, trivial⟩

theorem depthValues_le {kvs : List (PyStr × Json)} {n : Nat} (h : ∀ p ∈ kvs, Json.depth p.2 ≤ n) :
    Json.depthValues kvs ≤ n := by
  induction kvs with
  | nil => simp [Json.depthValues]
  | cons p rest ih =>
      obtain ⟨k, v⟩ := p
      rw [List.forall_mem_cons] at h
      exact max_le h.1 (ih h.2)

theorem printablePairs_iff {allowNan : Bool} {kvs : List (PyStr × Json)} :
    Json.printablePairs allowNan kvs = true ↔ ∀ p ∈ kvs, Json.printable allowNan p.2 = true := by
  induction kvs with
  | nil => simp [Json.printablePairs]
  | cons p rest ih =>
      obtain ⟨k, v⟩ := p
      simp [Json.printablePairs, ih]

/-- An object of such values with clean keys, each once, is a record. -/
theorem wire_obj {d : Dict} (hkeys : ∀ key ∈ d.keys, key.Clean) (hnodup : d.keys.Nodup)
    (hvalues : ∀ p ∈ d, WireValue p.2) : Wire (.obj d) ∧ Json.Unique (.obj d) := by
  have hdepth : Json.depthValues d ≤ maxJsonNestingDepth :=
    depthValues_le fun p hp => (hvalues p hp).shallow
  refine ⟨⟨?_, ?_, ?_⟩, hnodup, ?_⟩
  · exact Json.soundPairs_iff.mpr fun p hp =>
      ⟨hkeys p.1 (List.mem_map_of_mem hp), (hvalues p hp).sound⟩
  · simp only [Json.depth, maxJsonWireNestingDepth]
    omega
  · exact printablePairs_iff.mpr fun p hp => (hvalues p hp).printable
  · exact Json.uniquePairs_iff.mpr fun p hp => (hvalues p hp).unique

theorem utf8Encode_plain {s : PyStr} (h : s.Plain) : ∃ bytes, utf8Encode s = some bytes := by
  refine ⟨s.flatMap utf8Char, ?_⟩
  rw [utf8Encode, if_neg]
  rw [h.clean.2]
  simp

/-- The producer accepts exactly the values of bounded depth that print. -/
theorem serializeJson_ok {v : Json} : (∃ bytes, serializeJson v = .ok bytes) ↔ Wire v := by
  have hnull : Wire .null := ⟨trivial, by simp [Json.depth], rfl⟩
  have hother : v ≠ .null → ((∃ bytes, serializeJson v = .ok bytes) ↔ Wire v) := by
    intro hne
    have hunfold : serializeJson v = (do
        validateJsonStructure v maxJsonWireNestingDepth
        let text ← require (Json.dumps .wire false v)
          "Exceeds the limit (4300 digits) for integer string conversion"
        let bytes ← require (utf8Encode text) "surrogates not allowed"
        return some bytes) := by
      cases v <;> first | exact absurd rfl hne | rfl
    rw [hunfold]
    simp only [bind_eq_ok, require_eq_ok, validateJsonStructure_ok, Json.dumps]
    constructor
    · rintro ⟨_, -, ⟨hs, hd⟩, text, htext, -⟩
      split_ifs at htext with hp
      exact ⟨hs, hd, hp⟩
    · rintro ⟨hs, hd, hp⟩
      obtain ⟨bytes, hbytes⟩ := utf8Encode_plain (Json.render_wire_plain hs)
      exact ⟨some bytes, (), ⟨hs, hd⟩, _, if_pos hp, bytes, hbytes, rfl⟩
  by_cases hv : v = .null
  · subst hv
    exact ⟨fun _ => hnull, fun _ => ⟨none, rfl⟩⟩
  · exact hother hv

/-- **The wire round trip.** A published value is decoded as itself. -/
theorem deserializeJson_serializeJson (rt : Runtime) {v : Json} (h : Wire v)
    (hu : Json.Unique v) {bytes : Option Bytes} (hbytes : serializeJson v = .ok bytes) :
    deserializeJson rt bytes = .json v := by
  have hloads : loadsFinite rt (Json.render .wire v) = .ok v := by
    have hlimit : Json.depth v ≤ rt.recursionLimit := by
      have := rt.recursionLimit_wide
      have := h.shallow
      simp only [maxJsonWireNestingDepth, maxJsonNestingDepth] at this
      omega
    exact loads_render h.sound hu h.printable hlimit
  have hvalid : validateJsonStructure v maxJsonWireNestingDepth = .ok () :=
    validateJsonStructure_ok.mpr ⟨h.sound, h.shallow⟩
  have hsome : ∀ b, utf8Encode (Json.render .wire v) = some b →
      deserializeJson rt (some b) = .json v := by
    intro b hb
    have hdecode : utf8Decode b = some (Json.render .wire v) := by
      have := utf8Decode_utf8Encode (Json.render_wire_plain h.sound).ascii
      rwa [hb] at this
    simp only [deserializeJson, decodeJson, hdecode, hloads, hvalid]
  cases v with
  | null => obtain rfl := Except.ok.inj hbytes; rfl
  | _ =>
      simp only [serializeJson, bind_eq_ok, require_eq_ok, Json.dumps, h.printable, if_true,
        Option.some.injEq] at hbytes
      obtain ⟨-, -, text, rfl, b, hb, hret⟩ := hbytes
      obtain rfl : some b = bytes := by simpa [pure, Except.pure] using hret
      exact hsome b hb

/-- What a consumer delivers as a value is sound, shallow and repeats no key. -/
theorem deserializeJson_json {rt : Runtime} {bytes : Option Bytes} {v : Json}
    (h : deserializeJson rt bytes = .json v) :
    Json.Sound v ∧ Json.depth v ≤ maxJsonWireNestingDepth ∧ Json.Unique v := by
  cases bytes with
  | none =>
      obtain rfl : Json.null = v := by simpa [deserializeJson, decodeJson] using h
      exact ⟨trivial, by simp [Json.depth], trivial⟩
  | some value =>
      simp only [deserializeJson, decodeJson] at h
      split at h
      · simp at h
      · split at h
        · simp at h
        · rename_i decoded hdecoded
          split at h
          · simp at h
          · rename_i hvalid
            obtain rfl : decoded = v := by simpa using h
            cases hv : validateJsonStructure decoded maxJsonWireNestingDepth with
            | error e => exact absurd hv (hvalid e rfl)
            | ok u =>
                obtain ⟨hs, hd⟩ := validateJsonStructure_ok.mp hv
                exact ⟨hs, hd, loads_unique hdecoded⟩

end EventPipeline.Portfolio
