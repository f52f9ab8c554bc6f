import EventPipeline.Python.Text
import Mathlib.Data.Int.Log
import Mathlib.Data.Rat.Floor
import Mathlib.Algebra.Order.Field.Power
import Mathlib.Tactic.Positivity
import Mathlib.Tactic.FieldSimp
import Mathlib.Tactic.Linarith

/-!
# EventPipeline.Python.Float

Python's `float`: IEEE 754 binary64 with exact rational values. `Binary64.ofRat`
is correct rounding (nearest, ties to even), which is what both `float(text)` and
the arithmetic operators do; `Binary64.shortest` searches the shortest decimal
that rounds back, which is what `repr` prints. The two meet in
`PyFloat.ofLexeme_reprLexeme`: reading a printed float gives the float back.
-/

namespace EventPipeline.Python

/-! ### Magnitudes

A magnitude is a mantissa and an exponent in the one form that the format allows, so that equal
values are equal magnitudes. -/

/-- The magnitude of a finite binary64 value, `man * 2 ^ exp`, in canonical form. -/
structure Binary64 where
  man : Nat
  exp : Int
  man_lt : man < 2 ^ 53
  exp_ge : -1074 ≤ exp
  exp_le : exp ≤ 971
  canonical : 2 ^ 52 ≤ man ∨ exp = -1074
  deriving DecidableEq

namespace Binary64

/-- The exact value of a magnitude. -/
def toRat (b : Binary64) : ℚ := b.man * 2 ^ b.exp

/-- Zero is the subnormal with mantissa zero. -/
def zero : Binary64 := ⟨0, -1074, by norm_num, le_refl _, by norm_num, Or.inr rfl⟩

/-- Rounding to the nearest integer, ties to even. -/
def roundHalfEven (q : ℚ) : Nat :=
  let f := ⌊q⌋₊
  if q - f < 1 / 2 then f
  else if 1 / 2 < q - f then f + 1
  else if f % 2 = 0 then f else f + 1

theorem roundHalfEven_natCast (n : Nat) : roundHalfEven (n : ℚ) = n := by
  simp [roundHalfEven]

theorem le_roundHalfEven {n : Nat} {q : ℚ} (h : (n : ℚ) ≤ q) : n ≤ roundHalfEven q := by
  have hf : n ≤ ⌊q⌋₊ := Nat.le_floor h
  unfold roundHalfEven
  dsimp only
  split_ifs <;> omega

theorem roundHalfEven_le {n : Nat} {q : ℚ} (h : q < n) : roundHalfEven q ≤ n := by
  have hf : ⌊q⌋₊ + 1 ≤ n ∨ n = 0 := by
    rcases Nat.eq_zero_or_pos n with hn | hn
    · exact Or.inr hn
    · exact Or.inl ((Nat.floor_lt' hn.ne').mpr h)
  rcases hf with hf | rfl
  · unfold roundHalfEven
    dsimp only
    split_ifs <;> omega
  · have hq : q < 0 := by simpa using h
    have h0 : ⌊q⌋₊ = 0 := Nat.floor_of_nonpos hq.le
    have hlt : q - ((0 : Nat) : ℚ) < 1 / 2 := by
      push_cast
      linarith
    simp only [roundHalfEven, h0]
    rw [if_pos hlt]

theorem abs_roundHalfEven_sub_le {q : ℚ} (hq : 0 ≤ q) :
    |(roundHalfEven q : ℚ) - q| ≤ 1 / 2 := by
  have hfloor : (⌊q⌋₊ : ℚ) ≤ q := Nat.floor_le hq
  have hceil : q < ⌊q⌋₊ + 1 := Nat.lt_floor_add_one q
  unfold roundHalfEven
  dsimp only
  rw [abs_le]
  split_ifs <;> push_cast <;> constructor <;> linarith

/-- Rounding to a unit moves a value by half a unit at most. -/
theorem abs_roundHalfEven_mul_sub_le {x unit : ℚ} (hx : 0 ≤ x) (hunit : 0 < unit) :
    |roundHalfEven (x / unit) * unit - x| ≤ unit / 2 := by
  have hfactor : roundHalfEven (x / unit) * unit - x =
      (roundHalfEven (x / unit) - x / unit) * unit := by
    rw [sub_mul, div_mul_cancel₀ _ hunit.ne']
  have hround := abs_roundHalfEven_sub_le (div_nonneg hx hunit.le)
  rw [hfactor, abs_mul, abs_of_pos hunit]
  linarith [mul_le_mul_of_nonneg_right hround hunit.le]

/-- The binary exponent of a positive rational, bounded below by the subnormals. -/
def exponent (q : ℚ) : Int := max (Int.log 2 q - 52) (-1074)

theorem le_scaled {q : ℚ} (hq : 0 < q) (h : exponent q ≠ -1074) :
    ((2 ^ 52 : Nat) : ℚ) ≤ q / 2 ^ exponent q := by
  have he : exponent q = Int.log 2 q - 52 := by
    simp only [exponent] at h ⊢
    omega
  have hlog : (2 : ℚ) ^ Int.log 2 q ≤ q := by
    have := Int.zpow_log_le_self (b := 2) (by norm_num) hq
    simpa using this
  rw [le_div_iff₀ (by positivity)]
  calc ((2 ^ 52 : Nat) : ℚ) * 2 ^ exponent q = 2 ^ (52 + exponent q) := by
        rw [zpow_add₀ (by norm_num)]
        norm_num
    _ = 2 ^ Int.log 2 q := by rw [he]; congr 1; ring
    _ ≤ q := hlog

/-- Correct rounding of a nonnegative rational; `none` is overflow. -/
def ofRat (q : ℚ) : Option Binary64 :=
  if hq : 0 < q then
    let e := exponent q
    let m := roundHalfEven (q / 2 ^ e)
    if hm : m < 2 ^ 53 then
      if he : e ≤ 971 then
        some ⟨m, e, hm, le_max_right _ _, he, by
          by_cases h : exponent q = -1074
          · exact Or.inr h
          · exact Or.inl (le_roundHalfEven (le_scaled hq h))⟩
      else none
    -- rounding carried into the next binade
    else if he : e + 1 ≤ 971 then
      some ⟨2 ^ 52, e + 1, by norm_num, (le_max_right _ _).trans (Int.le_add_one le_rfl), he,
        Or.inl (le_refl _)⟩
    else none
  else some zero

theorem exponent_toRat {b : Binary64} (hb : 0 < b.man) : exponent b.toRat = b.exp := by
  have hpos : 0 < b.toRat := by
    unfold toRat
    positivity
  have hlt : b.toRat < 2 ^ (b.exp + 53) := by
    unfold toRat
    rw [zpow_add₀ (by norm_num), mul_comm]
    have h53 : (b.man : ℚ) < 2 ^ (53 : Int) := by exact_mod_cast b.man_lt
    exact mul_lt_mul_of_pos_left h53 (by positivity)
  have hlog : Int.log 2 b.toRat < b.exp + 53 :=
    (Int.lt_zpow_iff_log_lt (b := 2) (by norm_num) hpos).mp (by simpa using hlt)
  rcases b.canonical with hc | hc
  · have hge : (2 : ℚ) ^ (b.exp + 52) ≤ b.toRat := by
      unfold toRat
      rw [zpow_add₀ (by norm_num), mul_comm]
      have h52 : (2 : ℚ) ^ (52 : Int) ≤ b.man := by exact_mod_cast hc
      exact mul_le_mul_of_nonneg_right h52 (by positivity)
    have hlog' : b.exp + 52 ≤ Int.log 2 b.toRat :=
      (Int.zpow_le_iff_le_log (b := 2) (by norm_num) hpos).mp (by simpa using hge)
    have := b.exp_ge
    simp only [exponent]
    omega
  · simp only [exponent]
    omega

/-- Rounding a representable value changes nothing: the exponent that is chosen for it is its own,
and in units of that the value is an integer. -/
theorem ofRat_toRat (b : Binary64) : ofRat b.toRat = some b := by
  rcases Nat.eq_zero_or_pos b.man with h0 | hb
  · obtain ⟨m, e, hm, h1, h2, hc⟩ := b
    obtain rfl : m = 0 := h0
    obtain rfl : e = -1074 := by
      rcases hc with hc | hc
      · norm_num at hc
      · exact hc
    simp [ofRat, toRat, zero]
  · have hpos : 0 < b.toRat := by
      unfold toRat
      positivity
    have hdiv : b.toRat / 2 ^ b.exp = b.man := by
      unfold toRat
      rw [mul_div_assoc, div_self (by positivity), mul_one]
    simp only [ofRat, hpos, dif_pos, exponent_toRat hb, hdiv, roundHalfEven_natCast, b.man_lt,
      b.exp_le]

theorem roundHalfEven_le_of_le {n : Nat} {q : ℚ} (h : q ≤ n) : roundHalfEven q ≤ n := by
  rcases h.lt_or_eq with hlt | rfl
  · exact roundHalfEven_le hlt
  · exact (roundHalfEven_natCast n).le

theorem exponent_mono {q r : ℚ} (hq : 0 < q) (h : q ≤ r) : exponent q ≤ exponent r := by
  unfold exponent
  have hlog := Int.log_mono_right (b := 2) hq h
  omega

theorem toRat_nonneg (b : Binary64) : 0 ≤ b.toRat := by
  unfold toRat
  positivity

/-- Rounding does not pass a representable value. In units of the exponent that is chosen for `q`
the bound is an integer, and rounding to an integer does not pass one. -/
theorem ofRat_le {q : ℚ} {b : Binary64} (h : q ≤ b.toRat) :
    ∃ c, ofRat q = some c ∧ c.toRat ≤ b.toRat := by
  by_cases hq : 0 < q
  · have hb : 0 < b.man := by
      rcases Nat.eq_zero_or_pos b.man with h0 | hpos
      · rw [toRat, h0] at h
        simp only [Nat.cast_zero, zero_mul] at h
        exact absurd hq (not_lt.mpr h)
      · exact hpos
    have hexp : exponent q ≤ b.exp := exponent_toRat hb ▸ exponent_mono hq h
    -- in units of `2 ^ exponent q` the bound is an integer
    obtain ⟨k, hk⟩ := Int.le.dest hexp
    have hbound : b.toRat = ((b.man * 2 ^ k : Nat) : ℚ) * 2 ^ exponent q := by
      rw [toRat, ← hk, zpow_add₀ (by norm_num), zpow_natCast]
      push_cast
      ring
    have hround : roundHalfEven (q / 2 ^ exponent q) ≤ b.man * 2 ^ k := by
      apply roundHalfEven_le_of_le
      rw [div_le_iff₀ (by positivity), ← hbound]
      exact h
    have hscale : ∀ m : Nat, m ≤ b.man * 2 ^ k → (m : ℚ) * 2 ^ exponent q ≤ b.toRat := by
      intro m hm
      rw [hbound]
      exact mul_le_mul_of_nonneg_right (by exact_mod_cast hm) (by positivity)
    rw [ofRat, dif_pos hq]
    dsimp only
    split_ifs with hm he he
    · exact ⟨_, rfl, hscale _ hround⟩
    · exact absurd (hexp.trans b.exp_le) he
    · -- carried: the rounded mantissa is `2 ^ 53`, written `2 ^ 52` a binade up
      refine ⟨_, rfl, ?_⟩
      have hcarry := hscale (2 ^ 53) ((not_lt.mp hm).trans hround)
      calc (((2 ^ 52 : Nat) : ℚ)) * 2 ^ (exponent q + 1)
          = ((2 ^ 53 : Nat) : ℚ) * 2 ^ exponent q := by
            rw [zpow_add_one₀ (by norm_num)]
            push_cast
            ring
        _ ≤ b.toRat := hcarry
    · have hlt := b.man_lt
      have hle := b.exp_le
      have hk0 : k ≠ 0 := by
        rintro rfl
        omega
      omega
  · refine ⟨zero, by simp [ofRat, hq], ?_⟩
    simpa [toRat, zero] using b.toRat_nonneg

/-! ### Shortest decimals

`repr` prints the shortest decimal that is read back as the float. It is found among the decimals
of each length next to the exact value. -/

/-- The value of the decimal `d * 10 ^ e`. -/
def decimal (d : Nat × Int) : ℚ := d.1 * 10 ^ d.2

/-- The `n`-digit decimals next to `q`, the closer one first. -/
def candidates (q : ℚ) (n : Nat) : List (Nat × Int) :=
  let e := Int.log 10 q - n + 1
  let f := ⌊q / 10 ^ e⌋₊
  if roundHalfEven (q / 10 ^ e) = f then [(f, e), (f + 1, e)] else [(f + 1, e), (f, e)]

/-- The exact decimal expansion of a magnitude, `2 ^ -k = 5 ^ k * 10 ^ -k`. -/
def exactDecimal (b : Binary64) : Nat × Int :=
  match b.exp with
  | .ofNat k => (b.man * 2 ^ k, 0)
  | .negSucc k => (b.man * 5 ^ (k + 1), -(k + 1 : Nat))

/-- Drop trailing zeros of the digit string. -/
def stripZeros : Nat → Nat × Int → Nat × Int
  | 0, d => d
  | fuel + 1, d => if d.1 % 10 = 0 ∧ d.1 ≠ 0 then stripZeros fuel (d.1 / 10, d.2 + 1) else d

/-- The shortest decimal that rounds to `b`; seventeen digits always do. -/
def shortest (b : Binary64) : Nat × Int :=
  let found := ((List.range 17).flatMap fun n => candidates b.toRat (n + 1)).find? fun d =>
    ofRat (decimal d) = some b
  stripZeros 400 (found.getD b.exactDecimal)

theorem decimal_exactDecimal (b : Binary64) : decimal b.exactDecimal = b.toRat := by
  unfold exactDecimal toRat
  cases b.exp with
  | ofNat k => simp [decimal]
  | negSucc k =>
      have h10 : (10 : ℚ) ^ (k + 1) = 5 ^ (k + 1) * 2 ^ (k + 1) := by
        rw [← mul_pow]
        norm_num
      simp only [decimal, zpow_negSucc, zpow_neg, zpow_natCast, h10]
      push_cast
      field_simp

theorem decimal_stripZeros (fuel : Nat) (d : Nat × Int) :
    decimal (stripZeros fuel d) = decimal d := by
  induction fuel generalizing d with
  | zero => rfl
  | succ fuel ih =>
      unfold stripZeros
      split_ifs with h
      · rw [ih]
        obtain ⟨m, e⟩ := d
        have hm : m = 10 * (m / 10) := (Nat.mul_div_cancel' (Nat.dvd_of_mod_eq_zero h.1)).symm
        have hq : (m : ℚ) = 10 * ((m / 10 : Nat) : ℚ) := by exact_mod_cast hm
        simp only [decimal, zpow_add_one₀ (by norm_num : (10 : ℚ) ≠ 0), hq]
        ring
      · rfl

/-- The printed decimal rounds back to the value it was printed for. -/
theorem ofRat_shortest (b : Binary64) : ofRat (decimal b.shortest) = some b := by
  unfold shortest
  rw [decimal_stripZeros]
  cases h : List.find? _ _ with
  | none => rw [Option.getD_none, decimal_exactDecimal, ofRat_toRat]
  | some d => simpa using List.find?_some h

theorem ofRat_zero : ofRat 0 = some zero := by simp [ofRat]

theorem shortest_pos {b : Binary64} (hb : b ≠ zero) : 0 < b.shortest.1 := by
  rcases Nat.eq_zero_or_pos b.shortest.1 with h | h
  · have := ofRat_shortest b
    simp only [decimal, h, Nat.cast_zero, zero_mul, ofRat_zero, Option.some.injEq] at this
    exact absurd this.symm hb
  · exact h

end Binary64

/-! ### Floats -/

/-- A Python `float`. -/
inductive PyFloat
  | finite (neg : Bool) (mag : Binary64)
  | inf (neg : Bool)
  | nan
  deriving DecidableEq

/-- The exponent part of a float literal: an optional sign and digits. -/
structure ExponentPart where
  sign : Option Bool
  digits : PyStr
  deriving DecidableEq

/-- The parts of a JSON number with a fraction or an exponent. -/
structure FloatLexeme where
  neg : Bool
  int : PyStr
  frac : Option PyStr
  exp : Option ExponentPart
  deriving DecidableEq

namespace FloatLexeme

/-- The signed exponent a literal writes. -/
def expVal (l : FloatLexeme) : Int :=
  match l.exp with
  | none => 0
  | some ⟨some true, ds⟩ => -(natOfDigits ds : Int)
  | some ⟨_, ds⟩ => natOfDigits ds

/-- The exact magnitude a literal denotes. -/
def value (l : FloatLexeme) : ℚ :=
  let frac := l.frac.getD []
  natOfDigits (l.int ++ frac) * 10 ^ (l.expVal - frac.length)

/-- The text of a literal. -/
def text (l : FloatLexeme) : PyStr :=
  (if l.neg then PyStr.ofString "-" else []) ++ l.int
    ++ (match l.frac with | none => [] | some ds => PyStr.ofString "." ++ ds)
    ++ (match l.exp with
        | none => []
        | some e => PyStr.ofString "e"
            ++ (match e.sign with
                | none => []
                | some true => PyStr.ofString "-"
                | some false => PyStr.ofString "+")
            ++ e.digits)

end FloatLexeme

namespace PyFloat

/-- `math.isfinite`. -/
def isFinite : PyFloat → Bool
  | finite _ _ => true
  | _ => false

/-- `float(text)` for a literal: round the exact value it denotes. -/
def ofLexeme (l : FloatLexeme) : PyFloat :=
  match Binary64.ofRat l.value with
  | some b => .finite l.neg b
  | none => .inf l.neg

/-- `k` zero digits. -/
def zeros (k : Nat) : PyStr := List.replicate k (digitChar 0)

/-- A printed exponent: always signed, at least two digits. -/
def exponentPart (x : Int) : ExponentPart :=
  let xs := natStr x.natAbs
  ⟨some (decide (x < 0)), if xs.length < 2 then zeros 1 ++ xs else xs⟩

/-- Lay out the digits `d * 10 ^ e` the way `repr` does: positional while the
decimal point falls in `(-4, 16]`, with an exponent otherwise. -/
def layout (neg : Bool) (d : Nat) (e : Int) : FloatLexeme :=
  let ds := natStr d
  let decpt := ds.length + e
  if -4 < decpt ∧ decpt ≤ 16 then
    if decpt ≤ 0 then
      ⟨neg, natStr 0, some (zeros (-decpt).toNat ++ ds), none⟩
    else if ds.length ≤ decpt then
      ⟨neg, ds ++ zeros e.toNat, some (zeros 1), none⟩
    else
      ⟨neg, ds.take decpt.toNat, some (ds.drop decpt.toNat), none⟩
  else
    ⟨neg, ds.take 1, if ds.length ≤ 1 then none else some (ds.drop 1),
      some (exponentPart (decpt - 1))⟩

/-- The literal `repr` prints for a finite float. -/
def reprLexeme (neg : Bool) (b : Binary64) : FloatLexeme :=
  if b = Binary64.zero then ⟨neg, natStr 0, some (zeros 1), none⟩
  else layout neg b.shortest.1 b.shortest.2

/-- `float.__repr__`, with the JavaScript names `json.dumps` uses for the rest. -/
def repr : PyFloat → PyStr
  | finite neg b => (reprLexeme neg b).text
  | inf false => PyStr.ofString "Infinity"
  | inf true => PyStr.ofString "-Infinity"
  | nan => PyStr.ofString "NaN"

/-! ### Reading a printed float back

A literal denotes an exact decimal, and reading rounds it. The printed literal denotes the decimal
that was chosen, which rounds to the float. -/

theorem natOfDigits_append (s t : PyStr) :
    natOfDigits (s ++ t) = natOfDigits s * 10 ^ t.length + natOfDigits t := by
  have go : ∀ (t : PyStr) (acc : Nat), t.foldl (fun acc c => 10 * acc + c.digitVal) acc =
      acc * 10 ^ t.length + natOfDigits t := by
    intro t
    induction t with
    | nil => intro acc; simp [natOfDigits]
    | cons c t ih =>
        intro acc
        have h0 : natOfDigits (c :: t) = c.digitVal * 10 ^ t.length + natOfDigits t := by
          simp only [natOfDigits, List.foldl_cons, Nat.mul_zero, Nat.zero_add]
          exact ih c.digitVal
        rw [List.foldl_cons, ih, h0, List.length_cons, pow_succ]
        ring
  rw [natOfDigits, List.foldl_append]
  exact go t _

theorem natOfDigits_zeros (k : Nat) : natOfDigits (zeros k) = 0 := by
  induction k with
  | zero => rfl
  | succ k ih =>
      have : zeros (k + 1) = zeros 1 ++ zeros k := by simp [zeros, List.replicate_succ]
      rw [this, natOfDigits_append, ih]
      simp [zeros, natOfDigits, digitVal_digitChar]

@[simp] theorem zeros_length (k : Nat) : (zeros k).length = k := by simp [zeros]

theorem natOfDigits_padded (n : Nat) :
    natOfDigits (if (natStr n).length < 2 then zeros 1 ++ natStr n else natStr n) = n := by
  split_ifs
  · rw [natOfDigits_append, natOfDigits_zeros, natOfDigits_natStr]
    simp
  · exact natOfDigits_natStr n

theorem expVal_exponentPart {neg : Bool} {ds : PyStr} {frac : Option PyStr} (x : Int) :
    FloatLexeme.expVal ⟨neg, ds, frac, some (exponentPart x)⟩ = x := by
  by_cases hneg : x < 0
  · simp only [FloatLexeme.expVal, exponentPart, hneg, decide_true, natOfDigits_padded]
    omega
  · simp only [FloatLexeme.expVal, exponentPart, hneg, decide_false, natOfDigits_padded]
    omega

/-- The laid-out literal denotes the decimal it was laid out for. -/
theorem layout_value (neg : Bool) (d : Nat) (e : Int) :
    (layout neg d e).value = d * 10 ^ e := by
  have hlen : 0 < (natStr d).length := List.length_pos_of_ne_nil (natStr_ne_nil d)
  unfold layout
  dsimp only
  by_cases hpos : -4 < ((natStr d).length : Int) + e ∧ ((natStr d).length : Int) + e ≤ 16
  · rw [if_pos hpos]
    by_cases hle : ((natStr d).length : Int) + e ≤ 0
    · -- `0.000ddd`
      have hexp : (0 : Int) - ((-((natStr d).length + e)).toNat + (natStr d).length : Nat) = e := by
        omega
      rw [if_pos hle]
      simp only [FloatLexeme.value, FloatLexeme.expVal, Option.getD_some, natOfDigits_append,
        natOfDigits_natStr, natOfDigits_zeros, List.length_append, zeros_length, hexp]
      simp
    rw [if_neg hle]
    by_cases hge : ((natStr d).length : Int) ≤ (natStr d).length + e
    · -- `ddd000.0`
      have he : ((e.toNat : Nat) : Int) = e := by omega
      have hpow : (10 : ℚ) ^ e = 10 ^ e.toNat := by
        rw [← zpow_natCast, he]
      rw [if_pos hge]
      simp only [FloatLexeme.value, FloatLexeme.expVal, Option.getD_some, natOfDigits_append,
        natOfDigits_natStr, natOfDigits_zeros, zeros_length, hpow]
      push_cast
      norm_num
      ring
    · -- `dd.ddd`
      have hsplit : (natStr d).take ((natStr d).length + e).toNat
          ++ (natStr d).drop ((natStr d).length + e).toNat = natStr d := List.take_append_drop _ _
      have hexp : (0 : Int) - ((natStr d).length - ((natStr d).length + e).toNat : Nat) = e := by
        omega
      rw [if_neg hge]
      simp only [FloatLexeme.value, FloatLexeme.expVal, Option.getD_some, hsplit,
        natOfDigits_natStr, List.length_drop, hexp]
  · -- `d.ddde±xx`
    rw [if_neg hpos]
    by_cases h1 : (natStr d).length ≤ 1
    · have htake : (natStr d).take 1 = natStr d := List.take_of_length_le h1
      have hexp : ((natStr d).length + e - 1 : Int) - ((0 : Nat) : Int) = e := by omega
      simp only [FloatLexeme.value, expVal_exponentPart, h1, if_true, Option.getD_none,
        List.append_nil, htake, natOfDigits_natStr, List.length_nil, hexp]
    · have hexp : ((natStr d).length + e - 1 : Int) - ((natStr d).length - 1 : Nat) = e := by omega
      simp only [FloatLexeme.value, expVal_exponentPart, h1, if_false, Option.getD_some,
        List.take_append_drop, natOfDigits_natStr, List.length_drop, hexp]

theorem layout_neg (neg : Bool) (d : Nat) (e : Int) : (layout neg d e).neg = neg := by
  unfold layout
  dsimp only
  split_ifs <;> rfl

/-- `float(repr(x)) == x` for a finite `x`: `repr` writes a decimal that rounds to `x`. -/
theorem ofLexeme_reprLexeme (neg : Bool) (b : Binary64) :
    ofLexeme (reprLexeme neg b) = .finite neg b := by
  unfold reprLexeme
  split_ifs with hz
  · subst hz
    have hv : FloatLexeme.value ⟨neg, natStr 0, some (zeros 1), none⟩ = 0 := by
      simp only [FloatLexeme.value, Option.getD_some, natOfDigits_append, natOfDigits_natStr,
        natOfDigits_zeros]
      simp
    simp [ofLexeme, hv, Binary64.ofRat_zero]
  · have hv : (layout neg b.shortest.1 b.shortest.2).value = Binary64.decimal b.shortest :=
      layout_value neg _ _
    simp only [ofLexeme, hv, Binary64.ofRat_shortest, layout_neg]

end PyFloat

end EventPipeline.Python
