import EventPipeline.Python.Arithmetic
import EventPipeline.Python.Codec

/-!
# EventPipeline.Python.Runtime

The services of the interpreter and its standard library that the program calls
but whose inner workings none of its guarantees depend on. Each is a field, with
what the program relies on as a law next to it.
-/

namespace EventPipeline.Python

/-- Microseconds from the epoch to the end of year 9999, the last instant a
`datetime` can hold. -/
def maxMicros : Nat := 253402300800000000

/-- The interpreter the services run on. -/
structure Runtime where
  /-- Container levels `json.loads` opens before it raises `RecursionError`. -/
  recursionLimit : Nat
  recursionLimit_wide : 66 ≤ recursionLimit
  /-- `datetime.fromisoformat` accepts the text, with a UTC offset and a finite
  `timestamp()`. -/
  awareTimestamp : PyStr → Bool
  awareTimestamp_isoformat : ∀ t < maxMicros,
    awareTimestamp (DateTime.ofMicros t).isoformat = true
  /-- `hashlib.sha256(data).hexdigest()`. -/
  sha256 : Bytes → PyStr
  sha256_clean : ∀ data, (sha256 data).Clean
  /-- `str(exc)` of the error a text that is no JSON document raises. -/
  decodeErrorText : PyStr → String

/-- A runtime for concrete runs: every text it is asked about is a timestamp, and the
digest is that of no data. -/
def Runtime.sample : Runtime where
  recursionLimit := 1000
  recursionLimit_wide := by decide
  awareTimestamp _ := true
  awareTimestamp_isoformat _ _ := rfl
  sha256 _ := "e3b0c44298fc1c149afbf4c8996fb92427ae41e4649b934ca495991b7852b855"
  sha256_clean _ := by decide
  decodeErrorText _ := "Expecting value: line 1 column 1 (char 0)"

/-- A reading of the system clock, in microseconds since the epoch. -/
structure Clock where
  micros : Nat
  in_range : micros < maxMicros

/-- `datetime.now(timezone.utc).isoformat()`. -/
def Clock.nowIso (c : Clock) : PyStr := (DateTime.ofMicros c.micros).isoformat

/-- A time in seconds is a finite float below `2 ^ 38`. -/
theorem Clock.seconds_finite (c : Clock) :
    ∃ neg mag, PyFloat.ofRat (c.micros / 1000000) = .finite neg mag ∧
      mag.toRat ≤ (Binary64.pow2 38 (by decide) (by decide)).toRat := by
  refine PyFloat.ofRat_finite ?_
  have hrange : c.micros < 253402300800000000 := c.in_range
  rw [Binary64.pow2_toRat, abs_of_nonneg (by positivity), div_le_iff₀ (by norm_num)]
  norm_num
  omega

theorem Clock.nowIso_clean (c : Clock) : c.nowIso.Clean := DateTime.isoformat_clean _

theorem Runtime.awareTimestamp_nowIso (rt : Runtime) (c : Clock) :
    rt.awareTimestamp c.nowIso = true :=
  rt.awareTimestamp_isoformat c.micros c.in_range

end EventPipeline.Python
