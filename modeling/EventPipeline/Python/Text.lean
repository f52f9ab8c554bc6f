import Mathlib.Data.Nat.Digits.Lemmas
import Mathlib.Data.List.Basic

/-!
# EventPipeline.Python.Text

Python's `str` as a list of code points. A Lean `String` holds Unicode scalar
values only, while a Python `str` may also hold lone surrogates (`json.loads`
builds them from `\ud800`-style escapes), and several checks of the worker are
about exactly that difference. Literals are written as Lean strings and coerced
with `PyStr.ofString`, which is injective, so literal comparisons stay with
`simp`.
-/

namespace EventPipeline.Python

/-- A Unicode code point, surrogates included. -/
abbrev CodePoint := Fin 0x110000

/-- A Python `str`. -/
abbrev PyStr := List CodePoint

instance CodePoint.neZero : NeZero 0x110000 := ⟨by decide⟩

instance : LawfulBEq CodePoint := inferInstance

instance : LawfulBEq PyStr := inferInstance

/-- The code point of a Lean character. -/
def CodePoint.ofChar (c : Char) : CodePoint :=
  ⟨c.toNat, by
    rcases c.valid with h | h
    · exact lt_trans (show c.val.toNat < 0xd800 from h) (by norm_num)
    · exact h.2⟩

theorem CodePoint.ofChar_injective : Function.Injective CodePoint.ofChar := by
  intro a b h
  simp only [CodePoint.ofChar, Fin.mk.injEq] at h
  exact Char.ext (UInt32.toNat_inj.mp h)

/-- A literal of the source. -/
def PyStr.ofString (s : String) : PyStr := s.toList.map CodePoint.ofChar

instance : Coe String PyStr := ⟨PyStr.ofString⟩

@[simp] theorem PyStr.ofString_inj {a b : String} :
    PyStr.ofString a = PyStr.ofString b ↔ a = b := by
  constructor
  · intro h
    exact String.toList_inj.mp (List.map_injective_iff.mpr CodePoint.ofChar_injective h)
  · rintro rfl
    rfl

/-! ### Surrogates and NUL -/

/-- `"\ud800" <= character <= "\udfff"`. -/
def CodePoint.isSurrogate (c : CodePoint) : Bool := 0xd800 ≤ c.val && c.val ≤ 0xdfff

/-- `"\x00" in value`. -/
def PyStr.hasNul (s : PyStr) : Bool := s.any fun c => c.val == 0

/-- Some code point of `s` is a surrogate. -/
def PyStr.hasSurrogate (s : PyStr) : Bool := s.any CodePoint.isSurrogate

/-- A string PostgreSQL and the wire encoder both take: no NUL, no surrogate. -/
def PyStr.Clean (s : PyStr) : Prop := s.hasNul = false ∧ s.hasSurrogate = false

instance (s : PyStr) : Decidable s.Clean := inferInstanceAs (Decidable (_ ∧ _))

/-- `value.startswith(prefix)`. -/
def PyStr.startsWith (s pre : PyStr) : Bool := pre.isPrefixOf s

/-- A code point that may occur in a clean string. -/
def CodePoint.Clean (c : CodePoint) : Prop := c.val ≠ 0 ∧ c.isSurrogate = false

instance (c : CodePoint) : Decidable c.Clean := inferInstanceAs (Decidable (_ ∧ _))

/-- A short enough prefix test only looks at the head of a text. -/
theorem PyStr.startsWith_append {pre head rest : PyStr} (hlen : pre.length ≤ head.length) :
    PyStr.startsWith (head ++ rest) pre = PyStr.startsWith head pre := by
  rw [Bool.eq_iff_iff, PyStr.startsWith, PyStr.startsWith, List.isPrefixOf_iff_prefix,
    List.isPrefixOf_iff_prefix]
  constructor
  · exact fun h => List.prefix_of_prefix_length_le h (List.prefix_append _ _) hlen
  · exact fun h => h.trans (List.prefix_append _ _)

theorem PyStr.clean_iff {s : PyStr} : s.Clean ↔ ∀ c ∈ s, c.Clean := by
  simp only [PyStr.Clean, CodePoint.Clean, hasNul, hasSurrogate, List.any_eq_false]
  constructor
  · rintro ⟨hn, hs⟩ c hc
    exact ⟨by simpa using hn c hc, by simpa using hs c hc⟩
  · intro h
    exact ⟨fun c hc => by simpa using (h c hc).1, fun c hc => by simpa using (h c hc).2⟩

@[simp] theorem PyStr.clean_nil : PyStr.Clean [] := ⟨rfl, rfl⟩

@[simp] theorem PyStr.clean_cons {c : CodePoint} {s : PyStr} :
    PyStr.Clean (c :: s) ↔ c.Clean ∧ s.Clean := by
  simp [PyStr.clean_iff]

@[simp] theorem PyStr.clean_append {s t : PyStr} :
    PyStr.Clean (s ++ t) ↔ s.Clean ∧ t.Clean := by
  simp only [PyStr.clean_iff, List.mem_append, or_imp, forall_and]

theorem PyStr.Clean.sublist {s t : PyStr} (h : t.Clean) (hs : s.Sublist t) : s.Clean :=
  PyStr.clean_iff.mpr fun c hc => PyStr.clean_iff.mp h c (hs.subset hc)

theorem PyStr.Clean.take {s : PyStr} (h : s.Clean) (n : Nat) : PyStr.Clean (s.take n) :=
  h.sublist (List.take_sublist n s)

/-- A source literal has no surrogate. -/
theorem CodePoint.ofChar_isSurrogate (c : Char) : (CodePoint.ofChar c).isSurrogate = false := by
  simp only [CodePoint.ofChar, CodePoint.isSurrogate, Bool.and_eq_false_iff]
  rcases c.valid with h | h
  · exact Or.inl (decide_eq_false (not_le.mpr h))
  · exact Or.inr (decide_eq_false (not_le.mpr h.1))

theorem PyStr.ofString_hasSurrogate (s : String) : (PyStr.ofString s).hasSurrogate = false := by
  simp [PyStr.hasSurrogate, PyStr.ofString, CodePoint.ofChar_isSurrogate]

/-! ### Decimal text -/

/-- An ASCII code point. -/
def CodePoint.ascii (n : Nat) (h : n < 128 := by decide) : CodePoint := ⟨n, by omega⟩

/-- The code point of a decimal digit. -/
def digitChar (d : Nat) : CodePoint := Fin.ofNat _ (48 + d)

/-- `"0" <= character <= "9"`. -/
def CodePoint.isDigit (c : CodePoint) : Bool := 48 ≤ c.val && c.val ≤ 57

/-- The value of a decimal digit. -/
def CodePoint.digitVal (c : CodePoint) : Nat := c.val - 48

theorem digitChar_val {d : Nat} (h : d < 10) : (digitChar d).val = 48 + d := by
  simp only [digitChar, Fin.ofNat]
  omega

theorem digitChar_isDigit {d : Nat} (h : d < 10) : (digitChar d).isDigit = true := by
  simp only [CodePoint.isDigit, digitChar_val h, Bool.and_eq_true, decide_eq_true_eq]
  omega

theorem digitVal_digitChar {d : Nat} (h : d < 10) : (digitChar d).digitVal = d := by
  simp only [CodePoint.digitVal, digitChar_val h]
  omega

/-- `str(n)` for a natural number. -/
def natStr (n : Nat) : PyStr :=
  if n = 0 then [digitChar 0] else (Nat.digits 10 n).reverse.map digitChar

/-- `str(z)` for an integer. -/
def intStr : Int → PyStr
  | .ofNat n => natStr n
  | .negSucc n => CodePoint.ofChar '-' :: natStr (n + 1)

/-- `int(digits)` for a run of decimal digits. -/
def natOfDigits (ds : PyStr) : Nat := ds.foldl (fun acc c => 10 * acc + c.digitVal) 0

theorem natStr_isDigit {n : Nat} {c : CodePoint} (h : c ∈ natStr n) : c.isDigit = true := by
  unfold natStr at h
  split at h
  · obtain rfl : c = digitChar 0 := by simpa using h
    exact digitChar_isDigit (by norm_num)
  · obtain ⟨d, hd, rfl⟩ := List.mem_map.mp h
    exact digitChar_isDigit (Nat.digits_lt_base (by norm_num) (List.mem_reverse.mp hd))

theorem natStr_ne_nil (n : Nat) : natStr n ≠ [] := by
  unfold natStr
  split
  · simp
  · rename_i h
    simpa [Nat.digits_eq_nil_iff_eq_zero] using h

/-- Reading big-endian digits back is `Nat.ofDigits` of the reversed list. -/
theorem natOfDigits_reverse_map (ds : List Nat) (h : ∀ d ∈ ds, d < 10) :
    natOfDigits (ds.reverse.map digitChar) = Nat.ofDigits 10 ds := by
  unfold natOfDigits
  rw [List.map_reverse, List.foldl_reverse]
  induction ds with
  | nil => rfl
  | cons d ds ih =>
      have hd : d < 10 := h d (by simp)
      simp only [List.map_cons, List.foldr_cons, Nat.ofDigits_cons, digitVal_digitChar hd]
      rw [ih fun e he => h e (by simp [he])]
      omega

theorem natOfDigits_natStr (n : Nat) : natOfDigits (natStr n) = n := by
  unfold natStr
  split
  · rename_i h
    subst h
    rfl
  · rw [natOfDigits_reverse_map _ fun d hd => Nat.digits_lt_base (by norm_num) hd,
      Nat.ofDigits_digits]

theorem natStr_injective : Function.Injective natStr := by
  intro m n h
  rw [← natOfDigits_natStr m, h, natOfDigits_natStr]

/-- `str(n)` starts with a zero only when `n` is zero. -/
theorem natStr_head {n : Nat} (hn : n ≠ 0) :
    ∃ d rest, natStr n = digitChar d :: rest ∧ 1 ≤ d ∧ d < 10 ∧
      ∀ c ∈ rest, c.isDigit = true := by
  have hne : Nat.digits 10 n ≠ [] := Nat.digits_ne_nil_iff_ne_zero.mpr hn
  have hlast := Nat.getLast_digit_ne_zero 10 hn
  obtain ⟨ds, d, hsplit⟩ := List.eq_nil_or_concat (Nat.digits 10 n) |>.resolve_left hne
  have hstr : natStr n = digitChar d :: ds.reverse.map digitChar := by
    simp [natStr, hn, hsplit]
  refine ⟨d, _, hstr, ?_, ?_, ?_⟩
  · have : (Nat.digits 10 n).getLast hne = d := by simp [hsplit]
    omega
  · exact Nat.digits_lt_base (by norm_num) (by rw [hsplit]; simp : d ∈ Nat.digits 10 n)
  · intro c hc
    exact natStr_isDigit (n := n) (by rw [hstr]; exact List.mem_cons_of_mem _ hc)

theorem CodePoint.isDigit_clean {c : CodePoint} (h : c.isDigit = true) : c.Clean := by
  simp only [CodePoint.isDigit, Bool.and_eq_true, decide_eq_true_eq] at h
  refine ⟨by omega, ?_⟩
  simp only [CodePoint.isSurrogate, Bool.and_eq_false_iff, decide_eq_false_iff_not, not_le]
  omega

theorem natStr_clean (n : Nat) : (natStr n).Clean :=
  PyStr.clean_iff.mpr fun _ hc => CodePoint.isDigit_clean (natStr_isDigit hc)

end EventPipeline.Python
