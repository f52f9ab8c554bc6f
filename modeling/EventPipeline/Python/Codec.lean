import EventPipeline.Python.Text

/-!
# EventPipeline.Python.Codec

Bytes and text: strict UTF-8, base64 and the ISO 8601 form `datetime.isoformat`
prints. The UTF-8 decoder follows the well-formed byte sequences of the Unicode
standard, so overlong forms, encoded surrogates and values past `U+10FFFF` are
refused as Python's strict decoder refuses them.
-/

namespace EventPipeline.Python

/-- Python `bytes`. -/
abbrev Bytes := List UInt8

/-! ### UTF-8

The encoder refuses surrogates, and the decoder takes only the shortest form of a code point, as
the codec of Python does. -/

/-- The UTF-8 bytes of one code point. -/
def utf8Char (c : CodePoint) : Bytes :=
  let n := c.val
  if n < 0x80 then [UInt8.ofNat n]
  else if n < 0x800 then [UInt8.ofNat (0xc0 + n / 0x40), UInt8.ofNat (0x80 + n % 0x40)]
  else if n < 0x10000 then
    [UInt8.ofNat (0xe0 + n / 0x1000), UInt8.ofNat (0x80 + n / 0x40 % 0x40),
      UInt8.ofNat (0x80 + n % 0x40)]
  else
    [UInt8.ofNat (0xf0 + n / 0x40000), UInt8.ofNat (0x80 + n / 0x1000 % 0x40),
      UInt8.ofNat (0x80 + n / 0x40 % 0x40), UInt8.ofNat (0x80 + n % 0x40)]

/-- `text.encode("utf-8")`; `none` is the `UnicodeEncodeError` of a surrogate. -/
def utf8Encode (s : PyStr) : Option Bytes :=
  if s.hasSurrogate then none else some (s.flatMap utf8Char)

/-- A continuation byte. -/
def isContinuation (b : UInt8) : Bool := 0x80 ≤ b.toNat && b.toNat ≤ 0xbf

/-- `data.decode("utf-8")`; `none` is the `UnicodeDecodeError`. -/
def utf8Decode : Bytes → Option PyStr
  | [] => some []
  | b :: rest =>
      let n := b.toNat
      if n < 0x80 then (utf8Decode rest).map (Fin.ofNat _ n :: ·)
      else if 0xc2 ≤ n ∧ n ≤ 0xdf then
        match rest with
        | b1 :: rest' =>
            if isContinuation b1 then
              (utf8Decode rest').map
                (Fin.ofNat _ ((n - 0xc0) * 0x40 + (b1.toNat - 0x80)) :: ·)
            else none
        | [] => none
      else if 0xe0 ≤ n ∧ n ≤ 0xef then
        match rest with
        | b1 :: b2 :: rest' =>
            let v := (n - 0xe0) * 0x1000 + (b1.toNat - 0x80) * 0x40 + (b2.toNat - 0x80)
            if isContinuation b1 && isContinuation b2 && 0x800 ≤ v
                && !(0xd800 ≤ v && v ≤ 0xdfff) then
              (utf8Decode rest').map (Fin.ofNat _ v :: ·)
            else none
        | _ => none
      else if 0xf0 ≤ n ∧ n ≤ 0xf4 then
        match rest with
        | b1 :: b2 :: b3 :: rest' =>
            let v := (n - 0xf0) * 0x40000 + (b1.toNat - 0x80) * 0x1000
              + (b2.toNat - 0x80) * 0x40 + (b3.toNat - 0x80)
            if isContinuation b1 && isContinuation b2 && isContinuation b3
                && 0x10000 ≤ v && v ≤ 0x10ffff then
              (utf8Decode rest').map (Fin.ofNat _ v :: ·)
            else none
        | _ => none
      else none

theorem utf8Decode_ascii {b : UInt8} (h : b.toNat < 0x80) (rest : Bytes) :
    utf8Decode (b :: rest) = (utf8Decode rest).map (Fin.ofNat _ b.toNat :: ·) := by
  rw [utf8Decode.eq_def]
  simp only [h, if_true]

/-- A text of ASCII code points. -/
def PyStr.Ascii (s : PyStr) : Prop := ∀ c ∈ s, c.val < 0x80

theorem PyStr.Ascii.hasSurrogate {s : PyStr} (h : s.Ascii) : s.hasSurrogate = false := by
  simp only [PyStr.hasSurrogate, List.any_eq_false, CodePoint.isSurrogate, Bool.and_eq_true,
    decide_eq_true_eq, not_and, not_le]
  intro c hc
  have := h c hc
  omega

/-- ASCII text survives the trip through bytes, where every code point is one byte and every byte
below 128 a code point. -/
theorem utf8Decode_utf8Encode {s : PyStr} (h : s.Ascii) :
    (utf8Encode s).bind utf8Decode = some s := by
  have hs : utf8Encode s = some (s.flatMap utf8Char) := by
    simp [utf8Encode, h.hasSurrogate]
  rw [hs, Option.bind_some]
  clear hs
  induction s with
  | nil => rfl
  | cons c s ih =>
      have hc : c.val < 0x80 := h c (by simp)
      have hn : (UInt8.ofNat c.val).toNat = c.val := by
        simp only [UInt8.toNat_ofNat']
        omega
      have hch : utf8Char c = [UInt8.ofNat c.val] := by simp [utf8Char, hc]
      have hf : (Fin.ofNat 0x110000 c.val) = c := by simp
      rw [List.flatMap_cons, hch, List.singleton_append, utf8Decode_ascii (by omega), hn, hf,
        ih fun d hd => h d (by simp [hd]), Option.map_some]

/-- The base64 alphabet. -/
def base64Char (n : Nat) : CodePoint :=
  if n < 26 then Fin.ofNat _ (65 + n)
  else if n < 52 then Fin.ofNat _ (97 + (n - 26))
  else if n < 62 then Fin.ofNat _ (48 + (n - 52))
  else if n = 62 then CodePoint.ofChar '+'
  else CodePoint.ofChar '/'

/-- `base64.b64encode(data).decode("ascii")`. -/
def base64Encode : Bytes → PyStr
  | [] => []
  | [a] =>
      let n := a.toNat * 16
      [base64Char (n / 64), base64Char (n % 64), CodePoint.ofChar '=', CodePoint.ofChar '=']
  | [a, b] =>
      let n := (a.toNat * 256 + b.toNat) * 4
      [base64Char (n / 4096), base64Char (n / 64 % 64), base64Char (n % 64),
        CodePoint.ofChar '=']
  | a :: b :: c :: rest =>
      let n := a.toNat * 65536 + b.toNat * 256 + c.toNat
      base64Char (n / 262144) :: base64Char (n / 4096 % 64) :: base64Char (n / 64 % 64)
        :: base64Char (n % 64) :: base64Encode rest

/-- The value of a character of the alphabet. -/
def base64Value (c : CodePoint) : Option Nat :=
  let n := c.val
  if 65 ≤ n ∧ n ≤ 90 then some (n - 65)
  else if 97 ≤ n ∧ n ≤ 122 then some (n - 97 + 26)
  else if 48 ≤ n ∧ n ≤ 57 then some (n - 48 + 52)
  else if c = CodePoint.ofChar '+' then some 62
  else if c = CodePoint.ofChar '/' then some 63
  else none

/-- The bytes of a run of sextets; a last group of two or three needs its padding. -/
def base64Bytes (pads : Nat) : List Nat → Option Bytes
  | [] => some []
  | [_] => none
  | [a, b] => if 2 ≤ pads then some [UInt8.ofNat (a * 4 + b / 16)] else none
  | [a, b, c] =>
      if 1 ≤ pads then some [UInt8.ofNat (a * 4 + b / 16), UInt8.ofNat (b % 16 * 16 + c / 4)]
      else none
  | a :: b :: c :: d :: rest =>
      (base64Bytes pads rest).map fun bytes =>
        UInt8.ofNat (a * 4 + b / 16) :: UInt8.ofNat (b % 16 * 16 + c / 4)
          :: UInt8.ofNat (c % 4 * 64 + d) :: bytes

/-- `base64.b64decode(text, validate=True)`; `none` is the `binascii.Error`. -/
def base64Decode (text : PyStr) : Option Bytes :=
  let data := text.takeWhile fun c => (base64Value c).isSome
  let padding := text.dropWhile fun c => (base64Value c).isSome
  if padding.length ≤ 2 ∧ ∀ c ∈ padding, c = CodePoint.ofChar '=' then
    base64Bytes padding.length (data.filterMap base64Value)
  else none

/-! ### Timestamps -/

/-- A calendar date and time of day in UTC. -/
structure DateTime where
  year : Nat
  month : Nat
  day : Nat
  hour : Nat
  minute : Nat
  second : Nat
  microsecond : Nat
  deriving DecidableEq

/-- `n` in at least `width` decimal digits. -/
def padded (width n : Nat) : PyStr :=
  List.replicate (width - (natStr n).length) (digitChar 0) ++ natStr n

/-- `value.isoformat()` of an aware UTC datetime. -/
def DateTime.isoformat (t : DateTime) : PyStr :=
  padded 4 t.year ++ PyStr.ofString "-" ++ padded 2 t.month ++ PyStr.ofString "-"
    ++ padded 2 t.day ++ PyStr.ofString "T" ++ padded 2 t.hour ++ PyStr.ofString ":"
    ++ padded 2 t.minute ++ PyStr.ofString ":" ++ padded 2 t.second
    ++ (if t.microsecond = 0 then [] else PyStr.ofString "." ++ padded 6 t.microsecond)
    ++ PyStr.ofString "+00:00"

/-- The civil date of a day count since 1970-01-01. -/
def civilOfDays (days : Nat) : Nat × Nat × Nat :=
  let z := days + 719468
  let era := z / 146097
  let doe := z % 146097
  let yoe := (doe - doe / 1460 + doe / 36524 - doe / 146096) / 365
  let doy := doe - (365 * yoe + yoe / 4 - yoe / 100)
  let mp := (5 * doy + 2) / 153
  let month := if mp < 10 then mp + 3 else mp - 9
  (yoe + era * 400 + (if month ≤ 2 then 1 else 0), month, doy - (153 * mp + 2) / 5 + 1)

/-- The UTC datetime of a microsecond count since the epoch. -/
def DateTime.ofMicros (t : Nat) : DateTime :=
  let secs := t / 1000000
  let (y, m, d) := civilOfDays (secs / 86400)
  ⟨y, m, d, secs % 86400 / 3600, secs % 3600 / 60, secs % 60, t % 1000000⟩

theorem padded_clean (width n : Nat) : (padded width n).Clean := by
  refine PyStr.clean_append.mpr ⟨PyStr.clean_iff.mpr fun c hc => ?_, natStr_clean n⟩
  obtain ⟨-, rfl⟩ := List.mem_replicate.mp hc
  exact CodePoint.isDigit_clean (digitChar_isDigit (by norm_num))

theorem DateTime.isoformat_clean (t : DateTime) : t.isoformat.Clean := by
  have hdash : (PyStr.ofString "-").Clean := by decide
  have ht : (PyStr.ofString "T").Clean := by decide
  have hcolon : (PyStr.ofString ":").Clean := by decide
  have hdot : (PyStr.ofString ".").Clean := by decide
  have hzone : (PyStr.ofString "+00:00").Clean := by decide
  unfold DateTime.isoformat
  split_ifs <;> simp [padded_clean, hdash, ht, hcolon, hdot, hzone]

theorem DateTime.isoformat_ne_nil (t : DateTime) : t.isoformat ≠ [] := by
  have hzone : PyStr.ofString "+00:00" ≠ [] := by decide
  simp [DateTime.isoformat, hzone]

end EventPipeline.Python
