import EventPipeline.Python.Json
import EventPipeline.Python.Codec

/-!
# EventPipeline.Portfolio.EventEnvelope

`portfolio/event_envelope.py`: the structural checks every JSON value passes on
its way in and out, and the exceptions the services tell apart. The source walks
a value with an explicit stack; on a decoded value, which is a tree, the last
child pushed is visited first, so the recursion below visits items from the last
to the first and checks all keys of an object before any of its values.
-/

namespace EventPipeline.Portfolio

open EventPipeline.Python

/-! ### Exceptions -/

/-- The exceptions the services raise or tell apart in an `except` clause. -/
inductive PyExc
  | valueError (msg : PyStr)
  /-- A text parameter the client encoding cannot represent; a `ValueError`. -/
  | unicodeEncodeError
  /-- `IngressAuthorizationError(ValueError)`. -/
  | ingressAuthorizationError (reason : PyStr)
  /-- `RequestStatusOwnerConflict(ValueError)`. -/
  | requestStatusOwnerConflict
  /-- `NotificationTargetMissing(ValueError)`. -/
  | notificationTargetMissing
  /-- `RoomSequenceGapError(RuntimeError)`. -/
  | roomSequenceGapError (expected got : Int)
  /-- `psycopg2.DataError` and its subclasses, by `type(exc).__name__`. -/
  | dataError (name : String)
  /-- `psycopg2.IntegrityError` and its subclasses. -/
  | integrityError (name : String)
  /-- `OperationalError`, `InterfaceError` or a plain `RuntimeError`. -/
  | transient (name : String)
  | replayClaimInProgress
  /-- A `KafkaError`: the broker refused a record, or did not answer in time. -/
  | kafkaError (name : String)
  deriving DecidableEq

/-- A `ValueError` with a literal message. -/
def ValueError (msg : String) : PyExc := .valueError msg

/-- `isinstance(exc, ValueError)`. -/
def PyExc.isValueError : PyExc → Bool
  | .valueError _ | .unicodeEncodeError | .ingressAuthorizationError _
  | .requestStatusOwnerConflict | .notificationTargetMissing => true
  | _ => false

/-- `str(exc)` of the exceptions whose text reaches a status row. -/
def PyExc.message : PyExc → PyStr
  | .valueError msg => msg
  | .unicodeEncodeError => "'utf-8' codec can't encode characters: surrogates not allowed"
  | .ingressAuthorizationError reason => reason
  | .requestStatusOwnerConflict => "Request status owner conflict"
  | .notificationTargetMissing => "Notification target event is missing"
  | _ => []

/-- `type(exc).__name__`. -/
def PyExc.name : PyExc → String
  | .valueError _ => "ValueError"
  | .unicodeEncodeError => "UnicodeEncodeError"
  | .ingressAuthorizationError _ => "IngressAuthorizationError"
  | .requestStatusOwnerConflict => "RequestStatusOwnerConflict"
  | .notificationTargetMissing => "NotificationTargetMissing"
  | .roomSequenceGapError _ _ => "RoomSequenceGapError"
  | .replayClaimInProgress => "ReplayClaimInProgress"
  | .dataError name | .integrityError name | .transient name | .kafkaError name => name

/-! ### Event types -/

/-- `[A-Za-z0-9]`. -/
def isAlphanumeric (c : CodePoint) : Bool :=
  c.isDigit || (65 ≤ c.val && c.val ≤ 90) || (97 ≤ c.val && c.val ≤ 122)

/-- `[A-Za-z0-9._:-]`. -/
def isEventTypeChar (c : CodePoint) : Bool :=
  isAlphanumeric c || c.val = 46 || c.val = 95 || c.val = 58 || c.val = 45

/-- `is_generic_event_type`: a full match of `^[A-Za-z0-9][A-Za-z0-9._:-]*$`. -/
def isGenericEventType : PyStr → Bool
  | [] => false
  | c :: rest => isAlphanumeric c && rest.all isEventTypeChar

theorem isEventTypeChar_clean {c : CodePoint} (h : isEventTypeChar c = true) : c.Clean := by
  have hval : 45 ≤ c.val ∧ c.val ≤ 122 := by
    simp only [isEventTypeChar, isAlphanumeric, CodePoint.isDigit, Bool.or_eq_true,
      Bool.and_eq_true, decide_eq_true_eq] at h
    omega
  refine ⟨by omega, ?_⟩
  simp only [CodePoint.isSurrogate, Bool.and_eq_false_iff, decide_eq_false_iff_not, not_le]
  omega

theorem isGenericEventType_clean {s : PyStr} (h : isGenericEventType s = true) : s.Clean := by
  cases s with
  | nil => simp [isGenericEventType] at h
  | cons c rest =>
      simp only [isGenericEventType, Bool.and_eq_true, List.all_eq_true] at h
      refine PyStr.clean_cons.mpr ⟨isEventTypeChar_clean ?_, ?_⟩
      · simp [isEventTypeChar, h.1]
      · exact PyStr.clean_iff.mpr fun d hd => isEventTypeChar_clean (h.2 d hd)

/-! ### JSON structure

A decoded value is a tree, so that the stack of the source is a recursion. The check is of every
string, every key and every float, and of the depth. -/

/-- `MAX_JSON_NESTING_DEPTH`. -/
def maxJsonNestingDepth : Nat := 64

/-- `MAX_JSON_WIRE_NESTING_DEPTH`: one more level for the record around an event. -/
def maxJsonWireNestingDepth : Nat := maxJsonNestingDepth + 1

/-- The check of one string value. -/
def checkText (s : PyStr) : Except PyExc Unit :=
  if s.hasNul then
    .error (ValueError "JSON strings and object keys must not contain NUL characters")
  else if s.hasSurrogate then
    .error (ValueError "JSON strings and object keys must contain valid Unicode scalars")
  else .ok ()

/-- The check of the keys of one object, in insertion order. -/
def checkKeys : List (PyStr × Json) → Except PyExc Unit
  | [] => .ok ()
  | (k, _) :: rest => do
      checkText k
      checkKeys rest

/-- A container at depth `depth` is allowed. -/
def checkDepth (maxDepth depth : Nat) : Except PyExc Unit :=
  if maxDepth < depth then
    .error (.valueError (PyStr.ofString "JSON nesting must not exceed " ++ natStr maxDepth
      ++ PyStr.ofString " container levels"))
  else .ok ()

mutual
/-- One popped stack entry and everything below it. -/
def checkStructure (maxDepth parentDepth : Nat) : Json → Except PyExc Unit
  | .str s => checkText s
  | .float f => if f.isFinite then .ok () else .error (ValueError "JSON numbers must be finite")
  | .arr xs => do
      checkDepth maxDepth (parentDepth + 1)
      checkItems maxDepth (parentDepth + 1) xs
  | .obj kvs => do
      checkDepth maxDepth (parentDepth + 1)
      checkKeys kvs
      checkValues maxDepth (parentDepth + 1) kvs
  | _ => .ok ()
/-- The items of an array, last pushed first. -/
def checkItems (maxDepth depth : Nat) : List Json → Except PyExc Unit
  | [] => .ok ()
  | x :: xs => do
      checkItems maxDepth depth xs
      checkStructure maxDepth depth x
/-- The values of an object, last pushed first. -/
def checkValues (maxDepth depth : Nat) : List (PyStr × Json) → Except PyExc Unit
  | [] => .ok ()
  | (_, v) :: rest => do
      checkValues maxDepth depth rest
      checkStructure maxDepth depth v
end

/-- `validate_json_structure(value, max_depth=...)`. -/
def validateJsonStructure (value : Json) (maxDepth : Nat := maxJsonNestingDepth) :
    Except PyExc Unit :=
  checkStructure maxDepth 0 value

/-! ### What the check decides -/

theorem add_max_le {d a b m : Nat} : d + max a b ≤ m ↔ d + a ≤ m ∧ d + b ≤ m := by
  omega

theorem checkText_ok {s : PyStr} : checkText s = .ok () ↔ s.Clean := by
  unfold checkText PyStr.Clean
  cases s.hasNul <;> cases s.hasSurrogate <;> simp

theorem checkDepth_ok {maxDepth depth : Nat} :
    checkDepth maxDepth depth = .ok () ↔ depth ≤ maxDepth := by
  unfold checkDepth
  split_ifs with h
  · simpa using h
  · simpa using h

theorem bind_ok_unit {x : Except PyExc Unit} {y : Except PyExc Unit} :
    (x >>= fun _ => y) = .ok () ↔ x = .ok () ∧ y = .ok () := by
  cases x with
  | error e => simp [bind, Except.bind]
  | ok u => simp [bind, Except.bind]

theorem checkKeys_ok {kvs : List (PyStr × Json)} :
    checkKeys kvs = .ok () ↔ ∀ p ∈ kvs, p.1.Clean := by
  induction kvs with
  | nil => simp [checkKeys]
  | cons p rest ih =>
      obtain ⟨k, v⟩ := p
      rw [checkKeys, bind_ok_unit, checkText_ok, ih]
      simp

mutual
/-- The structural check accepts exactly the sound values within the depth. -/
theorem checkStructure_ok {maxDepth d : Nat} (hd : d ≤ maxDepth) : ∀ v : Json,
    checkStructure maxDepth d v = .ok () ↔ Json.Sound v ∧ d + Json.depth v ≤ maxDepth
  | .null => by simpa [checkStructure, Json.Sound, Json.depth] using hd
  | .bool b => by simpa [checkStructure, Json.Sound, Json.depth] using hd
  | .int z => by simpa [checkStructure, Json.Sound, Json.depth] using hd
  | .float f => by
      cases hf : f.isFinite <;> simp [checkStructure, Json.Sound, Json.depth, hf, hd]
  | .str s => by simp [checkStructure, Json.Sound, Json.depth, checkText_ok, hd]
  | .arr xs => by
      rw [checkStructure, bind_ok_unit, checkDepth_ok, Json.Sound, Json.depth]
      constructor
      · rintro ⟨h, hxs⟩
        obtain ⟨hs, hle⟩ := (checkItems_ok h xs).mp hxs
        exact ⟨hs, by omega⟩
      · rintro ⟨hs, hle⟩
        have h : d + 1 ≤ maxDepth := by omega
        exact ⟨h, (checkItems_ok h xs).mpr ⟨hs, by omega⟩⟩
  | .obj kvs => by
      rw [checkStructure, bind_ok_unit, bind_ok_unit, checkDepth_ok, checkKeys_ok, Json.Sound,
        Json.depth]
      constructor
      · rintro ⟨h, hk, hv⟩
        obtain ⟨hs, hle⟩ := (checkValues_ok h kvs).mp hv
        exact ⟨Json.soundPairs_iff.mpr fun p hp => ⟨hk p hp, hs p hp⟩, by omega⟩
      · rintro ⟨hs, hle⟩
        have h : d + 1 ≤ maxDepth := by omega
        rw [Json.soundPairs_iff] at hs
        exact ⟨h, fun p hp => (hs p hp).1,
          (checkValues_ok h kvs).mpr ⟨fun p hp => (hs p hp).2, by omega⟩⟩
theorem checkItems_ok {maxDepth d : Nat} (hd : d ≤ maxDepth) : ∀ xs : List Json,
    checkItems maxDepth d xs = .ok () ↔ Json.SoundItems xs ∧ d + Json.depthItems xs ≤ maxDepth
  | [] => by simpa [checkItems, Json.SoundItems, Json.depthItems] using hd
  | x :: xs => by
      rw [checkItems, bind_ok_unit, checkItems_ok hd xs, checkStructure_ok hd x, Json.SoundItems,
        Json.depthItems, add_max_le]
      tauto
theorem checkValues_ok {maxDepth d : Nat} (hd : d ≤ maxDepth) : ∀ kvs : List (PyStr × Json),
    checkValues maxDepth d kvs = .ok () ↔
      (∀ p ∈ kvs, Json.Sound p.2) ∧ d + Json.depthValues kvs ≤ maxDepth
  | [] => by simpa [checkValues, Json.depthValues] using hd
  | (k, v) :: rest => by
      rw [checkValues, bind_ok_unit, checkValues_ok hd rest, checkStructure_ok hd v,
        Json.depthValues, add_max_le]
      simp only [List.mem_cons, forall_eq_or_imp]
      tauto
end

/-- `validate_json_structure` accepts exactly the sound values of bounded depth. -/
theorem validateJsonStructure_ok {v : Json} {maxDepth : Nat} {u : Unit} :
    validateJsonStructure v maxDepth = .ok u ↔ Json.Sound v ∧ Json.depth v ≤ maxDepth := by
  rw [validateJsonStructure, checkStructure_ok (Nat.zero_le _), Nat.zero_add]

end EventPipeline.Portfolio
