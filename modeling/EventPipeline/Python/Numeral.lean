import EventPipeline.Python.Arithmetic

/-!
# EventPipeline.Python.Numeral

The texts `int`, `float` and `decimal.Decimal` read as numbers.

A `decimal.Decimal` is kept by its exact value. The arithmetic of the default context
rounds a result to 28 digits and raises where it is too large, which
`decimalContext` does to the exact result.
-/

namespace EventPipeline.Python

/-- What the interpreter knows about characters beyond ASCII. -/
structure CharTable where
  isSpace : CodePoint → Bool
  decimal : CodePoint → Option Nat

namespace CharTable

variable (table : CharTable)

/-- `Py_UNICODE_ISSPACE(character)`. -/
def space (c : CodePoint) : Bool :=
  (9 ≤ c.val && c.val ≤ 13) || (28 ≤ c.val && c.val ≤ 32) || (128 ≤ c.val && table.isSpace c)

/-- The white space around an `int` and a `float`. A space beyond ASCII is made a blank
first, and `Py_ISSPACE` does not count the separators from `\x1c` to `\x1f`. -/
def numeralSpace (c : CodePoint) : Bool :=
  (9 ≤ c.val && c.val ≤ 13) || c.val = 32 || (128 ≤ c.val && table.isSpace c)

/-- A text without the white space at its ends. -/
def strip (isSpace : CodePoint → Bool) (text : PyStr) : PyStr :=
  ((text.dropWhile isSpace).reverse.dropWhile isSpace).reverse

/-- An ASCII character, or the ASCII digit of a decimal digit. -/
def toAscii (c : CodePoint) : Option CodePoint :=
  if c.val < 128 then some c else (table.decimal c).map digitChar

end CharTable

/-- A lower-case ASCII letter for an upper-case one. -/
def lowerAscii (c : CodePoint) : CodePoint :=
  if 65 ≤ c.val ∧ c.val ≤ 90 then Fin.ofNat _ (c.val + 32) else c

/-! ### Numerals -/

/-- What a numeral denotes, before its sign. -/
inductive Numeral
  | infinity
  | nan (signaling : Bool)
  | number (int frac : PyStr) (exp : Int)

/-- Whether a text begins with a minus, and what follows its sign. -/
def splitSign : PyStr → Bool × PyStr
  | [] => (false, [])
  | c :: cs =>
      if c = CodePoint.ofChar '-' then (true, cs)
      else if c = CodePoint.ofChar '+' then (false, cs)
      else (false, c :: cs)

/-- A nonempty text of ASCII digits. -/
def isDigits (text : PyStr) : Bool := !text.isEmpty && text.all CodePoint.isDigit

/-- An exponent, after its `e`. -/
def parseExponent (text : PyStr) : Option Int :=
  let (neg, digits) := splitSign text
  if isDigits digits then
    some (if neg then -(natOfDigits digits : Int) else natOfDigits digits)
  else none

/-- Digits with an optional point and an optional exponent. -/
def parseNumber (text : PyStr) : Option Numeral :=
  let mantissa := text.takeWhile (· ≠ CodePoint.ofChar 'e')
  let int := mantissa.takeWhile (· ≠ CodePoint.ofChar '.')
  let frac := (mantissa.dropWhile (· ≠ CodePoint.ofChar '.')).drop 1
  if isDigits (int ++ frac) then
    match text.dropWhile (· ≠ CodePoint.ofChar 'e') with
    | [] => some (.number int frac 0)
    | _ :: exponent => (parseExponent exponent).map (.number int frac)
  else none

/-- The words for infinity. -/
def isInfinity (text : PyStr) : Bool :=
  text = PyStr.ofString "inf" || text = PyStr.ofString "infinity"

/-- The exact value of a numeral that is a number. -/
def numberValue (int frac : PyStr) (exp : Int) : ℚ :=
  natOfDigits (int ++ frac) * 10 ^ (exp - frac.length)

/-! ### Readers -/

/-- Every underscore stands between two digits. -/
def underscoresBetweenDigits (text : PyStr) : Bool :=
  let parts := text.splitOn (CodePoint.ofChar '_')
  parts.dropLast.all (fun part => part.getLast?.any CodePoint.isDigit)
    && parts.tail.all (fun part => part.head?.any CodePoint.isDigit)

/-- A text without its underscores. -/
def dropUnderscores (text : PyStr) : PyStr := text.filter (· ≠ CodePoint.ofChar '_')

/-- `int(text)`; `none` is the `ValueError`. -/
def parseInt (table : CharTable) (text : PyStr) : Option Int := do
  let ascii ← (CharTable.strip table.numeralSpace text).mapM table.toAscii
  let (neg, rest) := splitSign ascii
  let digits := dropUnderscores rest
  if underscoresBetweenDigits rest ∧ isDigits digits ∧ digits.length ≤ 4300 then
    some (if neg then -(natOfDigits digits : Int) else natOfDigits digits)
  else none

/-- `float(text)`; `none` is the `ValueError`. -/
def PyFloat.parse (table : CharTable) (text : PyStr) : Option PyFloat := do
  let ascii ← (CharTable.strip table.numeralSpace text).mapM table.toAscii
  let (neg, rest) := splitSign (ascii.map lowerAscii)
  if underscoresBetweenDigits rest then
    let rest := dropUnderscores rest
    if isInfinity rest then some (.inf neg)
    else if rest = PyStr.ofString "nan" then some .nan
    else
      match parseNumber rest with
      | some (.number int frac exp) =>
          some (match Binary64.ofRat (numberValue int frac exp) with
            | some mag => .finite neg mag
            | none => .inf neg)
      | _ => none
  else none

/-! ### Decimals

A `Decimal` may be infinite or a NaN, quiet or signaling. Arithmetic rounds to the 28 digits of
the default context. -/

/-- A `decimal.Decimal`, by its value. -/
inductive PyDecimal
  | finite (value : ℚ)
  | inf (neg : Bool)
  | nan (signaling : Bool)
  deriving DecidableEq

/-- `a < b`, of decimals that are not NaN. -/
def PyDecimal.lt : PyDecimal → PyDecimal → Bool
  | .inf true, .inf true => false
  | .inf true, _ => true
  | .finite a, .finite b => a < b
  | .finite _, .inf false => true
  | _, _ => false

/-- The exponent range of an exact conversion. -/
def maxDecimalExponent : Int := 999999999999999999

/-- `Decimal(text)`; `none` is the `InvalidOperation`. -/
def PyDecimal.parse (table : CharTable) (text : PyStr) : Option PyDecimal := do
  let ascii ← (dropUnderscores (CharTable.strip table.space text)).mapM table.toAscii
  let (neg, rest) := splitSign (ascii.map lowerAscii)
  if isInfinity rest then some (.inf neg)
  else if rest.take 3 = PyStr.ofString "nan" ∧ (rest.drop 3).all CodePoint.isDigit = true then
    some (.nan false)
  else if rest.take 4 = PyStr.ofString "snan" ∧ (rest.drop 4).all CodePoint.isDigit = true then
    some (.nan true)
  else
    match parseNumber rest with
    | some (.number int frac exp) =>
        let coefficient := natOfDigits (int ++ frac)
        let exponent := exp - frac.length
        if coefficient = 0 then some (.finite 0)
        else if exponent + (natStr coefficient).length - 1 ≤ maxDecimalExponent ∧
            -(2 * maxDecimalExponent) < exponent then
          let value := numberValue int frac exp
          some (.finite (if neg then -value else value))
        else none
    | _ => none

/-- The result of an operation in the default context: 28 digits, ties to even; `none`
is `Overflow`. -/
def decimalContext (exact : ℚ) : Option ℚ :=
  if exact = 0 then some 0
  else
    let exponent := max (Int.log 10 |exact| - 27) (-1000026)
    let rounded := Binary64.roundHalfEven (|exact| / 10 ^ exponent) * (10 : ℚ) ^ exponent
    if 999999 < Int.log 10 rounded then none else some (if exact < 0 then -rounded else rounded)

/-- The exponent at which a magnitude below `10 ^ k` was rounded. -/
theorem decimalExponent_le {x : ℚ} (hx : 0 < x) {k : Int} (hk : -999998 ≤ k)
    (h : (Binary64.roundHalfEven (x / 10 ^ max (Int.log 10 x - 27) (-1000026)) : ℚ) *
      10 ^ max (Int.log 10 x - 27) (-1000026) < 10 ^ k) :
    max (Int.log 10 x - 27) (-1000026) ≤ k - 28 := by
  by_contra hlarge
  obtain ⟨e, he⟩ : ∃ e, max (Int.log 10 x - 27) (-1000026) = e := ⟨_, rfl⟩
  rw [he] at h hlarge
  have hexp : e + (27 : Nat) = Int.log 10 x := by
    push_cast
    omega
  have hlog : (10 : ℚ) ^ Int.log 10 x ≤ x := by
    simpa using Int.zpow_log_le_self (b := 10) (by norm_num) hx
  -- the magnitude has at least 28 digits before the rounding, so it keeps them
  have hdigits : 10 ^ 27 ≤ Binary64.roundHalfEven (x / 10 ^ e) := by
    apply Binary64.le_roundHalfEven
    rw [le_div_iff₀ (by positivity)]
    refine le_trans (le_of_eq ?_) hlog
    rw [← hexp, zpow_add₀ (by norm_num), zpow_natCast, mul_comm]
    push_cast
    rfl
  refine absurd h (not_lt.mpr ?_)
  calc (10 : ℚ) ^ k ≤ 10 ^ (e + (27 : Nat)) :=
        zpow_le_zpow_right₀ (by norm_num) (by push_cast; omega)
    _ = ((10 ^ 27 : Nat) : ℚ) * 10 ^ e := by
        rw [zpow_add₀ (by norm_num), zpow_natCast, mul_comm]
        norm_num
    _ ≤ Binary64.roundHalfEven (x / 10 ^ e) * 10 ^ e := by
        gcongr

/-- A result below `10 ^ k` is within half a unit of its 28th digit of the exact one. -/
theorem decimalContext_error {exact value : ℚ} {k : Int} (hk : -999998 ≤ k)
    (h : decimalContext exact = some value) (hvalue : |value| < 10 ^ k) :
    |value - exact| ≤ 10 ^ (k - 28) / 2 := by
  unfold decimalContext at h
  by_cases hzero : exact = 0
  · rw [if_pos hzero] at h
    obtain rfl := Option.some.inj h
    rw [hzero, sub_zero, abs_zero]
    positivity
  rw [if_neg hzero] at h
  dsimp only at h
  have hpos : 0 < |exact| := abs_pos.mpr hzero
  have hexp := fun hlt => decimalExponent_le hpos hk hlt
  -- the exponent of the last of the 28 digits, or the least one there is
  obtain ⟨e, he⟩ : ∃ e, max (Int.log 10 |exact| - 27) (-1000026) = e := ⟨_, rfl⟩
  rw [he] at h hexp
  obtain ⟨rounded, hrounded⟩ : ∃ rounded,
      (Binary64.roundHalfEven (|exact| / 10 ^ e) : ℚ) * 10 ^ e = rounded := ⟨_, rfl⟩
  have hnear := Binary64.abs_roundHalfEven_mul_sub_le hpos.le (by positivity : (0 : ℚ) < 10 ^ e)
  have hnonneg : 0 ≤ rounded := by
    rw [← hrounded]
    positivity
  rw [hrounded] at h hexp hnear
  -- the sign is put back after the rounding, so that the distance is that of the absolute values
  have hmove : |value| = rounded ∧ |value - exact| = |rounded - (|exact|)| := by
    split_ifs at h with _ hneg
    · obtain rfl := Option.some.inj h
      rw [abs_neg, abs_of_nonneg hnonneg, abs_of_neg hneg, ← abs_neg]
      exact ⟨rfl, congrArg _ (by ring)⟩
    · obtain rfl := Option.some.inj h
      rw [abs_of_nonneg hnonneg, abs_of_nonneg (not_lt.mp hneg)]
      exact ⟨rfl, rfl⟩
  rw [hmove.2]
  rw [hmove.1] at hvalue
  have hunit : (10 : ℚ) ^ e ≤ 10 ^ (k - 28) := zpow_le_zpow_right₀ (by norm_num) (hexp hvalue)
  linarith
/-- A Python `int | float`. -/
inductive PyNumber
  | int (value : Int)
  | float (value : PyFloat)
  deriving DecidableEq

/-- `a <= b`, which compares exact values. -/
def PyNumber.le : PyNumber → PyNumber → Bool
  | int a, int b => a ≤ b
  | float a, float b => a.le b
  | int a, float (.finite neg mag) => (a : ℚ) ≤ PyFloat.toRat neg mag
  | float (.finite neg mag), int b => PyFloat.toRat neg mag ≤ (b : ℚ)
  | int _, float (.inf neg) => !neg
  | float (.inf neg), int _ => neg
  | _, _ => false

end EventPipeline.Python
