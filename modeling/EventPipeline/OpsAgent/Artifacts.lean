import EventPipeline.Python.Json
import Mathlib.Data.List.Sort

/-!
# EventPipeline.OpsAgent.Artifacts

What the artifacts of the ops agent are made of: digests, timestamps and
repository-relative references.

The pydantic models check these on every construction. Here a digest, an aware
timestamp and a reference are types that only hold accepted values, so that a model
built from them has passed those checks.
-/

namespace EventPipeline.OpsAgent

open EventPipeline.Python

/-! ### Errors -/

/-- What the ops agent raises: a `ValueError` of its own, the `ValidationError` of a
pydantic field, or what a built-in operation raises. -/
inductive OpsExc
  | valueError (message : String)
  | validationError (field : String)
  | typeError
  | indexError
  | keyError
  | attributeError
  /-- `OverflowError` or a signal of `decimal`. -/
  | arithmeticError
  deriving DecidableEq

/-- `except ValueError`, which a `ValidationError` is. -/
def OpsExc.isValueError : OpsExc → Bool
  | valueError _ => true
  | validationError _ => true
  | _ => false

/-- `except (KeyError, TypeError, ValueError)`. -/
def OpsExc.isDataError : OpsExc → Bool
  | keyError => true
  | typeError => true
  | e => e.isValueError

/-- `if not condition: raise error`. -/
def ensure (condition : Prop) [Decidable condition] (error : OpsExc) : Except OpsExc Unit :=
  if condition then .ok () else .error error

@[simp] theorem ensure_eq_ok {condition : Prop} [Decidable condition] {error : OpsExc} {u : Unit} :
    ensure condition error = .ok u ↔ condition := by
  unfold ensure
  split_ifs with h <;> simp [h]

/-- A computation that raises nothing has raised nothing at any point. -/
theorem bind_ok {α β : Type} {x : Except OpsExc α} {f : α → Except OpsExc β} {b : β} :
    (x >>= f) = .ok b ↔ ∃ a, x = .ok a ∧ f a = .ok b := by
  cases x <;> simp [bind, Except.bind]

theorem pure_ok {α : Type} {a b : α} : (pure a : Except OpsExc α) = .ok b ↔ a = b := by
  simp [pure, Except.pure]

/-- A result of which something is known is there. -/
theorem exists_of_map_toOption {α β : Type} {result : Except OpsExc α} {f : α → β} {b : β}
    (h : (result.map f).toOption = some b) : ∃ a, result = .ok a ∧ f a = b := by
  cases result with
  | error e => cases h
  | ok a => exact ⟨a, rfl, Option.some.inj h⟩

/-! ### Digests -/

/-- A digit of a lower-case hexadecimal text. -/
def isHexDigit (c : CodePoint) : Bool :=
  (0x30 ≤ c.val && c.val ≤ 0x39) || (0x61 ≤ c.val && c.val ≤ 0x66)

/-- A text that matches `^[0-9a-f]{64}$`. -/
structure Sha256 where
  text : PyStr
  length_eq : text.length = 64
  hex : text.all isHexDigit = true
  deriving DecidableEq

/-! ### Timestamps -/

/-- A timezone-aware `datetime`: wall-clock microseconds and the UTC offset in minutes. -/
structure Aware where
  wall : Int
  offset : Int
  deriving DecidableEq

/-- The instant in UTC, by which aware datetimes are compared. -/
def Aware.instant (t : Aware) : Int := t.wall - 60000000 * t.offset

/-- A `datetime`, aware or naive. -/
inductive Timestamp
  | aware (t : Aware)
  | naive (wall : Int)
  deriving DecidableEq

/-- `value.utcoffset() is None` raises; the error is the model's. -/
def Timestamp.requireAware (message : String) : Timestamp → Except OpsExc Aware
  | .aware t => .ok t
  | .naive _ => .error (.valueError message)

/-- `left < right`, where the right side is aware. -/
def Timestamp.lt (left : Timestamp) (right : Aware) : Except OpsExc Bool :=
  match left with
  | .aware t => .ok (decide (t.instant < right.instant))
  | .naive _ => .error .typeError

/-- `times == sorted(times)`. -/
def Chronological (times : List Aware) : Prop :=
  times.map Aware.instant = (times.map Aware.instant).mergeSort fun a b => decide (a ≤ b)

/-- A list is chronological when no time precedes an earlier entry's. -/
theorem chronological_iff {times : List Aware} :
    Chronological times ↔ times.Pairwise fun a b => a.instant ≤ b.instant := by
  rw [← List.pairwise_map (f := Aware.instant) (R := (· ≤ ·))]
  constructor
  · intro h
    rw [Chronological] at h
    rw [h]
    have hsorted : ((times.map Aware.instant).mergeSort fun a b => decide (a ≤ b)).Pairwise
        fun a b => decide (a ≤ b) = true :=
      List.pairwise_mergeSort (by simpa using fun a b c => Int.le_trans)
        (by simpa using Int.le_total) _
    exact hsorted.imp (by simp)
  · intro h
    exact (List.mergeSort_of_pairwise (h.imp (by simp))).symm

instance (times : List Aware) : Decidable (Chronological times) :=
  decidable_of_iff (times.Pairwise fun a b => a.instant ≤ b.instant) chronological_iff.symm

/-! ### Code lists -/

/-- `sorted(set(values))`. -/
def sortedSet (values : List PyStr) : List PyStr := values.dedup.insertionSort (· ≤ ·)

@[simp] theorem mem_sortedSet {values : List PyStr} {value : PyStr} :
    value ∈ sortedSet values ↔ value ∈ values := by
  simp [sortedSet]

/-! ### References -/

/-- The parts of `PurePosixPath(value)` below its root. -/
def pathParts (value : PyStr) : List PyStr :=
  (value.splitOn (CodePoint.ofChar '/')).filter fun part => part ≠ [] ∧ part ≠ PyStr.ofString "."

/-- `value.replace("\\", "/")`. -/
def forwardSlashes (value : PyStr) : PyStr :=
  value.map fun c => if c = CodePoint.ofChar '\\' then CodePoint.ofChar '/' else c

/-- `_validate_reference(value)`, of a value that is not `None`. -/
def validateReference (value : PyStr) : Except OpsExc PyStr :=
  let normalized := forwardSlashes value
  let error := OpsExc.valueError "artifact references must be repository-relative"
  if normalized.head? = some (CodePoint.ofChar '/') then .error error
  else
    match pathParts normalized with
    | [] => .error .indexError
    | part :: parts =>
        if CodePoint.ofChar ':' ∈ part ∨ PyStr.ofString ".." ∈ part :: parts then .error error
        else .ok normalized

theorem forwardSlashes_idem (value : PyStr) :
    forwardSlashes (forwardSlashes value) = forwardSlashes value := by
  have hslash : CodePoint.ofChar '/' ≠ CodePoint.ofChar '\\' := by decide
  simp only [forwardSlashes, List.map_map]
  refine List.map_congr_left fun c _ => ?_
  by_cases hc : c = CodePoint.ofChar '\\' <;> simp [hc, hslash]

/-- A normalised reference is accepted as it is. -/
theorem validateReference_idem {value normalized : PyStr}
    (h : validateReference value = .ok normalized) : validateReference normalized = .ok normalized := by
  obtain rfl : forwardSlashes value = normalized := by
    simp only [validateReference] at h
    split_ifs at h
    split at h
    · simp at h
    · split_ifs at h
      exact Except.ok.inj h
  rw [← h, validateReference, validateReference, forwardSlashes_idem]

/-- A reference the models accept and no longer change. -/
structure ArtifactRef where
  text : PyStr
  accepted : validateReference text = .ok text
  deriving DecidableEq

/-- An optional reference of a model, normalised. -/
def parseReference : Option PyStr → Except OpsExc (Option ArtifactRef)
  | none => .ok none
  | some value =>
      match h : validateReference value with
      | .ok normalized => .ok (some ⟨normalized, validateReference_idem h⟩)
      | .error error => .error error

end EventPipeline.OpsAgent
