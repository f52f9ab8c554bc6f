import EventPipeline.Portfolio.EventEnvelope

/-!
# EventPipeline.Portfolio.Fields

The field checks the services write out inline, each as a function from a JSON
value to the checked value: bounded text, `bigint` columns, optional fields. The
two error combinators raise the `ValueError` a failed check raises.
-/

namespace EventPipeline.Portfolio

open EventPipeline.Python

/-- `_MAX_POSTGRES_BIGINT`. -/
def maxPostgresBigint : Nat := 9223372036854775807

/-- A non-empty string of at most `maxLength` characters without NUL. -/
def boundedText (maxLength : Nat) : Json → Option PyStr
  | .str s => if s ≠ [] ∧ s.length ≤ maxLength ∧ s.hasNul = false then some s else none
  | _ => none

/-- A string of at most `maxLength` characters without NUL, possibly empty. -/
def shortText (maxLength : Nat) : Json → Option PyStr
  | .str s => if s.length ≤ maxLength ∧ s.hasNul = false then some s else none
  | _ => none

/-- An integer, not a boolean, from `1` to the largest `bigint`. -/
def positiveBigint : Json → Option Nat
  | .int z => if 0 < z ∧ z ≤ maxPostgresBigint then some z.toNat else none
  | _ => none

/-- An integer, not a boolean, from `0` to the largest `bigint`. -/
def nonnegativeBigint : Json → Option Nat
  | .int z => if 0 ≤ z ∧ z ≤ maxPostgresBigint then some z.toNat else none
  | _ => none

/-- `if not condition: raise ValueError(msg)`. -/
def check (condition : Bool) (msg : String) : Except PyExc Unit :=
  if condition then .ok () else .error (ValueError msg)

/-- The value of a field check, or `ValueError(msg)`. -/
def require {α : Type} (value : Option α) (msg : String) : Except PyExc α :=
  match value with
  | some a => .ok a
  | none => .error (ValueError msg)

/-- `isinstance(value, dict)`. -/
def asObject : Json → Option Dict
  | .obj d => some d
  | _ => none

/-- A field that may be absent or null. -/
def optionalField {α : Type} (job_payload : Dict) (key : PyStr) (parse : Json → Option α)
    (msg : String) : Except PyExc (Option α) :=
  match job_payload.get? key with
  | none | some .null => .ok none
  | some v => (require (parse v) msg).map some

theorem bind_eq_ok {ε α β : Type} {x : Except ε α} {f : α → Except ε β} {b : β} :
    (x >>= f) = .ok b ↔ ∃ a, x = .ok a ∧ f a = .ok b := by
  cases x with
  | error e => simp [bind, Except.bind]
  | ok a => simp [bind, Except.bind]

@[simp] theorem check_eq_ok {c : Bool} {msg : String} {u : Unit} :
    check c msg = .ok u ↔ c = true := by
  cases c <;> simp [check]

@[simp] theorem require_eq_ok {α : Type} {v : Option α} {msg : String} {a : α} :
    require v msg = .ok a ↔ v = some a := by
  cases v <;> simp [require]

theorem boundedText_eq_some {n : Nat} {v : Json} {s : PyStr} :
    boundedText n v = some s ↔
      v = .str s ∧ s ≠ [] ∧ s.length ≤ n ∧ s.hasNul = false := by
  cases v <;> simp only [boundedText, reduceCtorEq, false_and]
  rename_i t
  split_ifs with h
  · simp only [Option.some.injEq, Json.str.injEq]
    constructor
    · rintro rfl
      exact ⟨rfl, h⟩
    · exact fun h' => h'.1
  · simp only [Json.str.injEq, false_iff]
    rintro ⟨rfl, h'⟩
    exact h h'

theorem shortText_eq_some {n : Nat} {v : Json} {s : PyStr} :
    shortText n v = some s ↔ v = .str s ∧ s.length ≤ n ∧ s.hasNul = false := by
  cases v <;> simp only [shortText, reduceCtorEq, false_and]
  rename_i t
  split_ifs with h
  · simp only [Option.some.injEq, Json.str.injEq]
    constructor
    · rintro rfl
      exact ⟨rfl, h⟩
    · exact fun h' => h'.1
  · simp only [Json.str.injEq, false_iff]
    rintro ⟨rfl, h'⟩
    exact h h'

theorem positiveBigint_eq_some {v : Json} {n : Nat} :
    positiveBigint v = some n ↔ v = .int n ∧ 0 < n ∧ n ≤ maxPostgresBigint := by
  cases v <;> simp only [positiveBigint, reduceCtorEq, false_and]
  rename_i z
  split_ifs with h <;> simp only [Option.some.injEq, Json.int.injEq, false_iff] <;> omega

theorem nonnegativeBigint_eq_some {v : Json} {n : Nat} :
    nonnegativeBigint v = some n ↔ v = .int n ∧ n ≤ maxPostgresBigint := by
  cases v <;> simp only [nonnegativeBigint, reduceCtorEq, false_and]
  rename_i z
  split_ifs with h <;> simp only [Option.some.injEq, Json.int.injEq, false_iff] <;> omega

theorem asObject_eq_some {v : Json} {d : Dict} : asObject v = some d ↔ v = .obj d := by
  cases v <;> simp [asObject]

/-- What an optional field that is accepted holds. -/
theorem optionalField_ok {α : Type} {d : Dict} {key : PyStr} {parse : Json → Option α}
    {msg : String} {o : Option α} (h : optionalField d key parse msg = .ok o) :
    ∀ a ∈ o, ∃ v, d.get? key = some v ∧ parse v = some a := by
  unfold optionalField at h
  split at h
  · simp only [Except.ok.injEq] at h
    simp [← h]
  · simp only [Except.ok.injEq] at h
    simp [← h]
  · rename_i v _ hv
    cases hp : parse v with
    | none => simp [hp, require, Except.map] at h
    | some a =>
        simp only [hp, require, Except.map, Except.ok.injEq] at h
        subst h
        rintro b ⟨⟩
        exact ⟨v, hv, hp⟩

theorem optionalField_absent {α : Type} {d : Dict} {key : PyStr} {parse : Json → Option α}
    {msg : String} (h : d.get? key = none ∨ d.get? key = some .null) :
    optionalField d key parse msg = .ok none := by
  unfold optionalField
  rcases h with h | h <;> simp [h]

theorem optionalField_present {α : Type} {d : Dict} {key : PyStr} {parse : Json → Option α}
    {msg : String} {v : Json} {a : α} (h : d.get? key = some v) (hv : v ≠ .null)
    (hp : parse v = some a) : optionalField d key parse msg = .ok (some a) := by
  unfold optionalField
  split
  · simp_all
  · simp_all
  · rename_i w _ hw
    obtain rfl : v = w := by simpa [h] using hw
    simp [hp, require, Except.map]

end EventPipeline.Portfolio
