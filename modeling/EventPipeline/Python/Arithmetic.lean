import EventPipeline.Python.Float

/-!
# EventPipeline.Python.Arithmetic

The comparisons and the arithmetic of Python's `float`. A `nan` compares with nothing.
-/

namespace EventPipeline.Python.PyFloat

/-- The exact value of a finite float. -/
def toRat (neg : Bool) (mag : Binary64) : ℚ := if neg then -mag.toRat else mag.toRat

/-- `a <= b`. -/
def le : PyFloat → PyFloat → Bool
  | nan, _ => false
  | _, nan => false
  | inf true, _ => true
  | _, inf false => true
  | inf false, _ => false
  | _, inf true => false
  | finite neg mag, finite neg' mag' => decide (toRat neg mag ≤ toRat neg' mag')

/-- `a < b`. -/
def lt (a b : PyFloat) : Bool := a.le b && !b.le a

/-- `0.0`. -/
def zero : PyFloat := finite false Binary64.zero

/-- `float(value)` of a number with that exact value, other than an `int`. -/
def ofRat (value : ℚ) : PyFloat :=
  match Binary64.ofRat |value| with
  | some mag => finite (value < 0) mag
  | none => inf (value < 0)

/-- `a - b`. -/
def sub : PyFloat → PyFloat → PyFloat
  | nan, _ => nan
  | _, nan => nan
  | inf neg, inf neg' => if neg = neg' then nan else inf neg
  | inf neg, _ => inf neg
  | _, inf neg => inf !neg
  | finite neg mag, finite neg' mag' =>
      let difference := toRat neg mag - toRat neg' mag'
      -- an exact zero is positive, but for `-0.0 - 0.0`
      if difference = 0 then finite (neg && !neg' && mag = Binary64.zero) Binary64.zero
      else ofRat difference

/-- `a + b`. -/
def add : PyFloat → PyFloat → PyFloat
  | nan, _ => nan
  | _, nan => nan
  | inf neg, inf neg' => if neg = neg' then inf neg else nan
  | inf neg, _ => inf neg
  | _, inf neg => inf neg
  | finite neg mag, finite neg' mag' =>
      let sum := toRat neg mag + toRat neg' mag'
      -- an exact zero is positive, but for `-0.0 + -0.0`
      if sum = 0 then finite (neg && neg') Binary64.zero else ofRat sum

/-- `a * b`. -/
def mul : PyFloat → PyFloat → PyFloat
  | nan, _ => nan
  | _, nan => nan
  | inf neg, inf neg' => inf (neg != neg')
  | inf neg, finite neg' mag => if mag.man = 0 then nan else inf (neg != neg')
  | finite neg mag, inf neg' => if mag.man = 0 then nan else inf (neg != neg')
  | finite neg mag, finite neg' mag' =>
      match Binary64.ofRat (mag.toRat * mag'.toRat) with
      | some product => finite (neg != neg') product
      | none => inf (neg != neg')

/-- `min(a, b)`. -/
def minimum (a b : PyFloat) : PyFloat := if b.lt a then b else a

/-- `max(a, b)`. -/
def maximum (a b : PyFloat) : PyFloat := if a.lt b then b else a

/-- `float(n)` of a nonnegative integer. -/
def ofNat (n : Nat) : PyFloat := ofRat n

/-- `abs(a)`. -/
def abs : PyFloat → PyFloat
  | finite _ mag => finite false mag
  | inf _ => inf false
  | nan => nan

/-! ### Order -/

theorem le_total_of_ne_nan {a b : PyFloat} (ha : a ≠ nan) (hb : b ≠ nan) :
    a.le b = true ∨ b.le a = true := by
  cases a with
  | nan => exact absurd rfl ha
  | inf neg =>
      cases neg <;> cases b with
      | nan => exact absurd rfl hb
      | inf neg' => cases neg' <;> simp [le]
      | finite neg' mag' => simp [le]
  | finite neg mag =>
      cases b with
      | nan => exact absurd rfl hb
      | inf neg' => cases neg' <;> simp [le]
      | finite neg' mag' =>
          simp only [le, decide_eq_true_eq]
          exact le_total _ _

theorem le_refl_of_ne_nan {a : PyFloat} (ha : a ≠ nan) : a.le a = true :=
  (le_total_of_ne_nan ha ha).elim id id

theorem le_of_lt {a b : PyFloat} (h : a.lt b = true) : a.le b = true := by
  simp only [lt, Bool.and_eq_true] at h
  exact h.1

/-- What is not below is at least, of two numbers. -/
theorem le_of_not_lt {a b : PyFloat} (ha : a ≠ nan) (hb : b ≠ nan) (h : ¬ a.lt b = true) :
    b.le a = true := by
  rcases le_total_of_ne_nan ha hb with hab | hba
  · simpa [lt, hab] using h
  · exact hba

theorem minimum_le_right {a b : PyFloat} (ha : a ≠ nan) (hb : b ≠ nan) :
    (a.minimum b).le b = true := by
  unfold minimum
  split_ifs with h
  · exact le_refl_of_ne_nan hb
  · exact le_of_not_lt hb ha h

/-- A minimum is one of the two. -/
theorem minimum_cases {P : PyFloat → Prop} {a b : PyFloat} (ha : P a) (hb : P b) :
    P (a.minimum b) := by
  unfold minimum
  split_ifs
  · exact hb
  · exact ha

/-- `max(0, a)` is a number, whatever `a` is. -/
theorem zero_maximum_ne_nan (a : PyFloat) : zero.maximum a ≠ nan := by
  unfold maximum
  split_ifs with h
  · rintro rfl
    simp [lt, le, zero] at h
  · simp [zero]

theorem zero_le_maximum (a : PyFloat) : zero.le (zero.maximum a) = true := by
  unfold maximum
  split_ifs with h
  · exact le_of_lt h
  · exact le_refl_of_ne_nan (by simp [zero])

theorem zero_lt_finite {mag : Binary64} (h : 0 < mag.man) :
    zero.lt (finite false mag) = true := by
  have hmag : 0 < mag.toRat := by
    unfold Binary64.toRat
    positivity
  have hzero : Binary64.zero.toRat = 0 := by simp [Binary64.toRat, Binary64.zero]
  simp only [lt, le, zero, toRat, hzero, Bool.and_eq_true, Bool.not_eq_true',
    decide_eq_true_eq, decide_eq_false_iff_not, not_le]
  exact ⟨hmag.le, hmag⟩

end EventPipeline.Python.PyFloat

namespace EventPipeline.Python.Binary64

/-! ### Rounding of positive numbers

Rounding keeps the order, so that what lies between two floats rounds to something between them.
-/

/-- A value that is at least the least positive float does not round to zero. -/
theorem ofRat_man_pos {q : ℚ} (hq : 2 ^ (-1074 : Int) ≤ q) {b : Binary64}
    (h : ofRat q = some b) : 0 < b.man := by
  have hpos : 0 < q := lt_of_lt_of_le (by positivity) hq
  have hround : 0 < roundHalfEven (q / 2 ^ exponent q) := by
    by_cases he : exponent q = -1074
    · have hone : ((1 : Nat) : ℚ) ≤ q / 2 ^ exponent q := by
        rw [he, Nat.cast_one, le_div_iff₀ (by positivity), one_mul]
        exact hq
      exact le_roundHalfEven hone
    · exact lt_of_lt_of_le (by norm_num) (le_roundHalfEven (le_scaled hpos he))
  unfold ofRat at h
  rw [dif_pos hpos] at h
  dsimp only at h
  split_ifs at h with hm he he
  · cases h
    exact hround
  · cases h
    norm_num

theorem le_toRat {b : Binary64} (hb : 0 < b.man) : 2 ^ (-1074 : Int) ≤ b.toRat := by
  have hone : (1 : ℚ) ≤ b.man := by exact_mod_cast hb
  have hexp : (2 : ℚ) ^ (-1074 : Int) ≤ 2 ^ b.exp := zpow_le_zpow_right₀ (by norm_num) b.exp_ge
  calc (2 : ℚ) ^ (-1074 : Int) ≤ 2 ^ b.exp := hexp
    _ = 1 * 2 ^ b.exp := (one_mul _).symm
    _ ≤ b.man * 2 ^ b.exp := mul_le_mul_of_nonneg_right hone (by positivity)

theorem pow2_man_lt : 2 ^ 52 < 2 ^ 53 := by norm_num

/-- A power of two, as a float. -/
def pow2 (e : Int) (hlow : -1022 ≤ e) (hhigh : e ≤ 1023) : Binary64 :=
  ⟨2 ^ 52, e - 52, pow2_man_lt, by omega, by omega, Or.inl le_rfl⟩

theorem pow2_toRat (e : Int) (hlow : -1022 ≤ e) (hhigh : e ≤ 1023) :
    (pow2 e hlow hhigh).toRat = 2 ^ e := by
  rw [pow2, Binary64.toRat, zpow_sub₀ (by norm_num)]
  push_cast
  field_simp

end EventPipeline.Python.Binary64

namespace EventPipeline.Python.PyFloat

theorem ofRat_toRat (mag : Binary64) : ofRat mag.toRat = finite false mag := by
  rw [ofRat, abs_of_nonneg mag.toRat_nonneg, Binary64.ofRat_toRat]
  simp [mag.toRat_nonneg]

/-- A value that is no smaller than the least positive float keeps its sign. -/
theorem zero_lt_ofRat {value : ℚ} (hvalue : value ≤ 0 ∨ 2 ^ (-1074 : Int) ≤ value) :
    zero.lt (ofRat value) = true ↔ 0 < value := by
  constructor
  · intro h
    by_contra hle
    rw [not_lt] at hle
    have hmag : ∀ mag : Binary64, (finite true mag).le zero = true := by
      intro mag
      have hnonneg := mag.toRat_nonneg
      simpa [le, zero, toRat, Binary64.toRat, Binary64.zero] using hnonneg
    rcases hle.lt_or_eq with hneg | rfl
    · unfold ofRat at h
      rw [decide_eq_true hneg] at h
      cases hround : Binary64.ofRat |value| with
      | none => simp [hround, lt, le, zero] at h
      | some mag => simp [hround, lt, hmag mag] at h
    · simp [ofRat, Binary64.ofRat_zero, lt, le, zero] at h
  · intro hpos
    have hgrid : 2 ^ (-1074 : Int) ≤ value := hvalue.resolve_left hpos.not_ge
    unfold ofRat
    rw [decide_eq_false hpos.not_gt, abs_of_pos hpos]
    cases hround : Binary64.ofRat value with
    | none => simp [lt, le, zero]
    | some mag => exact zero_lt_finite (Binary64.ofRat_man_pos hgrid hround)
/-- A number no larger than a float in size rounds to a finite float no larger. -/
theorem ofRat_finite {value : ℚ} {bound : Binary64} (h : |value| ≤ bound.toRat) :
    ∃ neg c, ofRat value = finite neg c ∧ c.toRat ≤ bound.toRat := by
  obtain ⟨c, hround, hc⟩ := Binary64.ofRat_le h
  exact ⟨value < 0, c, by rw [ofRat, hround], hc⟩

/-- A sum of two floats within a bound is finite where the doubled bound is a float. -/
theorem add_finite {neg neg' : Bool} {mag mag' bound double : Binary64}
    (h : mag.toRat ≤ bound.toRat) (h' : mag'.toRat ≤ bound.toRat)
    (hdouble : bound.toRat + bound.toRat ≤ double.toRat) :
    ((finite neg mag).add (finite neg' mag')).isFinite = true := by
  have habs : ∀ (neg : Bool) (mag : Binary64), |toRat neg mag| = mag.toRat := by
    intro neg mag
    cases neg <;> simp [toRat, abs_of_nonneg mag.toRat_nonneg]
  have hsum : |toRat neg mag + toRat neg' mag'| ≤ double.toRat :=
    calc |toRat neg mag + toRat neg' mag'|
        ≤ |toRat neg mag| + |toRat neg' mag'| := abs_add_le _ _
      _ ≤ bound.toRat + bound.toRat := by
        rw [habs, habs]
        exact add_le_add h h'
      _ ≤ double.toRat := hdouble
  simp only [add]
  split_ifs with hzero
  · rfl
  · obtain ⟨sign, c, hround, -⟩ := ofRat_finite hsum
    rw [hround]
    rfl

/-- A number up to a float rounds to less than any greater float. -/
theorem le_ofRat_eq_false {value : ℚ} {bound mag : Binary64} (hvalue : value ≤ bound.toRat)
    (hbound : bound.toRat < mag.toRat) : (finite false mag).le (ofRat value) = false := by
  have hpos : 0 < mag.toRat := lt_of_le_of_lt bound.toRat_nonneg hbound
  rw [ofRat]
  by_cases hneg : value < 0
  · cases Binary64.ofRat |value| with
    | none => simp [hneg, le]
    | some c =>
        have hc := c.toRat_nonneg
        simp only [hneg, decide_true, le, toRat, Bool.false_eq_true, if_false, if_true,
          decide_eq_false_iff_not, not_le]
        linarith
  · obtain ⟨c, hround, hc⟩ := Binary64.ofRat_le hvalue
    rw [abs_of_nonneg (not_lt.mp hneg), hround]
    simp only [hneg, decide_false, le, toRat, Bool.false_eq_true, if_false,
      decide_eq_false_iff_not, not_le]
    exact lt_of_le_of_lt hc hbound

/-- The float of a small power of two. -/
theorem ofNat_two_pow {e : Nat} (he : e ≤ 52) :
    ofNat (2 ^ e) = finite false ⟨2 ^ 52, (e : Int) - 52, by decide, by omega, by omega,
      Or.inl (le_refl _)⟩ := by
  have hval : (Binary64.mk (2 ^ 52) ((e : Int) - 52) (by norm_num) (by omega) (by omega)
      (Or.inl (le_refl _))).toRat = |((2 ^ e : Nat) : ℚ)| := by
    rw [abs_of_nonneg (by positivity), Binary64.toRat, zpow_sub₀ (by norm_num)]
    push_cast
    field_simp
    norm_num
  have hneg : ¬ ((2 ^ e : Nat) : ℚ) < 0 := not_lt.mpr (by positivity)
  simp only [ofNat, ofRat, ← hval, Binary64.ofRat_toRat, hneg, decide_false]

/-- The product of a positive float and a small power of two is positive; it may be
infinite. -/
theorem zero_lt_mul_two_pow {mag : Binary64} (hmag : 0 < mag.man) {e : Nat} (he : e ≤ 52) :
    zero.lt ((finite false mag).mul (ofNat (2 ^ e))) = true := by
  have hfactor : (1 : ℚ) ≤ (Binary64.mk (2 ^ 52) ((e : Int) - 52) (by norm_num) (by omega)
      (by omega) (Or.inl (le_refl _))).toRat := by
    rw [Binary64.toRat, zpow_sub₀ (by norm_num)]
    push_cast
    field_simp
    norm_num
    exact one_le_pow₀ (by norm_num)
  have hproduct := (Binary64.le_toRat hmag).trans (le_mul_of_one_le_right
    (lt_of_lt_of_le (by positivity) (Binary64.le_toRat hmag)).le hfactor)
  rw [ofNat_two_pow he]
  simp only [mul]
  cases h : Binary64.ofRat _ with
  | none => simp [lt, le, zero]
  | some product => exact zero_lt_finite (Binary64.ofRat_man_pos hproduct h)

end EventPipeline.Python.PyFloat
