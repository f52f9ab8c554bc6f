import EventPipeline.Python.JsonRoundTrip
import EventPipeline.Python.Runtime

/-!
# EventPipeline.Python.TextSize

How long printed text is: the UTF-8 length of a text and of a printed JSON string,
and the length of decimal text and of timestamps.
-/

namespace EventPipeline.Python

/-! ### UTF-8 lengths -/

/-- `len(text.encode("utf-8"))` of a text without surrogates. -/
def utf8Size (s : PyStr) : Nat := (s.flatMap utf8Char).length

@[simp] theorem utf8Size_nil : utf8Size [] = 0 := rfl

@[simp] theorem utf8Size_append (s t : PyStr) : utf8Size (s ++ t) = utf8Size s + utf8Size t := by
  simp [utf8Size]

theorem utf8Size_cons (c : CodePoint) (s : PyStr) :
    utf8Size (c :: s) = (utf8Char c).length + utf8Size s := by
  simp [utf8Size]

theorem utf8Char_length_le (c : CodePoint) : (utf8Char c).length ≤ 4 := by
  unfold utf8Char
  dsimp only
  split_ifs <;> simp

theorem PyStr.Ascii.utf8Size {s : PyStr} (h : s.Ascii) : utf8Size s = s.length := by
  induction s with
  | nil => rfl
  | cons c s ih =>
      have hc : (utf8Char c).length = 1 := by
        have hsmall : c.val < 0x80 := h c (by simp)
        simp [utf8Char, hsmall]
      rw [utf8Size_cons, hc, ih fun d hd => h d (List.mem_cons_of_mem c hd), List.length_cons]
      omega

theorem utf8Encode_length {s : PyStr} {data : Bytes} (h : utf8Encode s = some data) :
    data.length = utf8Size s := by
  unfold utf8Encode at h
  split_ifs at h
  rw [← Option.some.inj h, utf8Size]

/-! ### Printed strings -/

namespace Json

theorem escape_length_le (c : CodePoint) : (escape false c).length ≤ 6 := by
  unfold escape
  simp only [Bool.false_and, Bool.false_eq_true, if_false]
  split_ifs <;> simp [escapeChar, escapeUnit]

/-- A code point is printed in at most six bytes. -/
theorem utf8Size_escape_le (c : CodePoint) : utf8Size (escape false c) ≤ 6 := by
  rcases escape_cases false c with hplain | ⟨hself, -⟩
  · rw [hplain.ascii.utf8Size]
    exact escape_length_le c
  · rw [hself, utf8Size_cons, utf8Size_nil]
    have := utf8Char_length_le c
    omega

theorem utf8Size_escaped_le (s : PyStr) : utf8Size (s.flatMap (escape false)) ≤ 6 * s.length := by
  induction s with
  | nil => simp
  | cons c s ih =>
      rw [List.flatMap_cons, utf8Size_append, List.length_cons]
      have := utf8Size_escape_le c
      omega

/-- A string is printed in at most six bytes a code point, and its quotes. -/
theorem utf8Size_renderStr_le (s : PyStr) :
    utf8Size (renderStr .compact s) ≤ 2 + 6 * s.length := by
  have hquote : utf8Size (PyStr.ofString "\"") = 1 := by decide
  have := utf8Size_escaped_le s
  simp only [renderStr, DumpStyle.compact, utf8Size_append, hquote]
  omega

end Json

/-! ### Decimal text -/

theorem natStr_length_le {n k : Nat} (hk : 0 < k) (h : n < 10 ^ k) : (natStr n).length ≤ k := by
  unfold natStr
  split_ifs
  · exact hk
  · rwa [List.length_map, List.length_reverse, Nat.digits_length_le_iff (by norm_num)]

theorem padded_length_le {width n k : Nat} (hk : 0 < k) (hwidth : width ≤ k) (h : n < 10 ^ k) :
    (padded width n).length ≤ k := by
  have := natStr_length_le hk h
  simp only [padded, List.length_append, List.length_replicate]
  omega

/-! ### Timestamps -/

/-- Crude bounds on a civil date, which are enough to bound the length of its text. -/
theorem civilOfDays_bounds (days : Nat) :
    (civilOfDays days).1 ≤ days + 865565 ∧ (civilOfDays days).2.1 < 10000 ∧
      (civilOfDays days).2.2 ≤ 146097 := by
  unfold civilOfDays
  dsimp only
  have hera : (days + 719468) / 146097 * 400 ≤ days + 719468 := by omega
  have hdoe : (days + 719468) % 146097 < 146097 := Nat.mod_lt _ (by norm_num)
  generalize (days + 719468) / 146097 * 400 = era at hera
  generalize (days + 719468) % 146097 = doe at hdoe
  have hyoe : (doe - doe / 1460 + doe / 36524 - doe / 146096) / 365 ≤ 146096 := by omega
  generalize (doe - doe / 1460 + doe / 36524 - doe / 146096) / 365 = yoe at hyoe
  have hdoy : doe - (365 * yoe + yoe / 4 - yoe / 100) < 146097 := by omega
  generalize doe - (365 * yoe + yoe / 4 - yoe / 100) = doy at hdoy
  have hmp : (5 * doy + 2) / 153 < 4775 := by omega
  generalize (5 * doy + 2) / 153 = mp at hmp
  refine ⟨?_, ?_, ?_⟩
  · split_ifs <;> omega
  · split_ifs <;> omega
  · omega

/-- The length of a timestamp, by the lengths of its parts. -/
theorem DateTime.isoformat_length_le {t : DateTime} (hyear : (padded 4 t.year).length ≤ 7)
    (hmonth : (padded 2 t.month).length ≤ 4) (hday : (padded 2 t.day).length ≤ 6)
    (hhour : t.hour < 100) (hminute : t.minute < 100) (hsecond : t.second < 100)
    (hmicrosecond : t.microsecond < 1000000) : t.isoformat.length ≤ 64 := by
  have hclock : ∀ n, n < 100 → (padded 2 n).length ≤ 2 := fun n hn =>
    padded_length_le (by norm_num) (by norm_num) (by omega)
  have hfraction : (padded 6 t.microsecond).length ≤ 6 :=
    padded_length_le (by norm_num) (by norm_num) (by omega)
  have h1 := hclock t.hour hhour
  have h2 := hclock t.minute hminute
  have h3 := hclock t.second hsecond
  have hdash : (PyStr.ofString "-").length = 1 := rfl
  have ht : (PyStr.ofString "T").length = 1 := rfl
  have hcolon : (PyStr.ofString ":").length = 1 := rfl
  have hdot : (PyStr.ofString ".").length = 1 := rfl
  have hzone : (PyStr.ofString "+00:00").length = 6 := rfl
  unfold DateTime.isoformat
  split_ifs
  · simp only [List.length_append, List.length_nil, hdash, ht, hcolon, hzone]
    omega
  · simp only [List.length_append, hdash, ht, hcolon, hdot, hzone]
    omega

/-- A timestamp the clock can read has at most 64 characters. -/
theorem DateTime.isoformat_length {t : Nat} (h : t < maxMicros) :
    (DateTime.ofMicros t).isoformat.length ≤ 64 := by
  have hbound : t < 253402300800000000 := h
  obtain ⟨hyear, hmonth, hday⟩ := civilOfDays_bounds (t / 1000000 / 86400)
  have hdays : t / 1000000 / 86400 ≤ 2932896 := by omega
  refine isoformat_length_le ?_ ?_ ?_ ?_ ?_ ?_ ?_
  · exact padded_length_le (by norm_num) (by norm_num) (hyear.trans_lt (by omega))
  · exact padded_length_le (by norm_num) (by norm_num) hmonth
  · exact padded_length_le (by norm_num) (by norm_num) (hday.trans_lt (by norm_num))
  · show t / 1000000 % 86400 / 3600 < 100
    omega
  · show t / 1000000 % 3600 / 60 < 100
    omega
  · show t / 1000000 % 60 < 100
    omega
  · show t % 1000000 < 1000000
    omega

end EventPipeline.Python
