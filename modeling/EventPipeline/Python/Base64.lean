import EventPipeline.Python.Codec
import Mathlib.Data.List.DropRight

/-!
# EventPipeline.Python.Base64

The round trip of `base64`, with and without padding.

Bytes are cut into groups of six bits (`sextets`), each printed as one character; the printed
length says how many bytes the last group has, so the padding carries no information and can
be left out. Both directions meet at the list of groups.
-/

namespace EventPipeline.Python

/-! ### Groups of six bits -/

/-- The groups of six bits, the last one filled up with zeros. -/
def sextets : Bytes → List Nat
  | [] => []
  | [a] => [a.toNat / 4, a.toNat % 4 * 16]
  | [a, b] => [a.toNat / 4, a.toNat % 4 * 16 + b.toNat / 16, b.toNat % 16 * 4]
  | a :: b :: c :: rest =>
      a.toNat / 4 :: (a.toNat % 4 * 16 + b.toNat / 16) :: (b.toNat % 16 * 4 + c.toNat / 64)
        :: c.toNat % 64 :: sextets rest

/-- How many characters of padding the text of `data` has. -/
def base64Pads (data : Bytes) : Nat := (3 - data.length % 3) % 3

/-- The characters of padding. -/
def padding (n : Nat) : PyStr := List.replicate n (CodePoint.ofChar '=')

theorem sextets_lt {data : Bytes} : ∀ n ∈ sextets data, n < 64 := by
  induction data using sextets.induct with
  | case1 => simp [sextets]
  | case2 a =>
      have ha := a.toNat_lt
      simp only [sextets, List.forall_mem_cons, List.not_mem_nil, false_implies, implies_true,
        and_true]
      omega
  | case3 a b =>
      have ha := a.toNat_lt
      have hb := b.toNat_lt
      simp only [sextets, List.forall_mem_cons, List.not_mem_nil, false_implies, implies_true,
        and_true]
      omega
  | case4 a b c rest ih =>
      have ha := a.toNat_lt
      have hb := b.toNat_lt
      have hc := c.toNat_lt
      simp only [sextets, List.forall_mem_cons]
      exact ⟨by omega, by omega, by omega, by omega, ih⟩

theorem base64Pads_cons (a b c : UInt8) (rest : Bytes) :
    base64Pads (a :: b :: c :: rest) = base64Pads rest := by
  simp only [base64Pads, List.length_cons]
  omega

/-- The number of groups and the padding fill up to four characters. -/
theorem sextets_length (data : Bytes) :
    (4 - (sextets data).length % 4) % 4 = base64Pads data ∧
      (sextets data).length = (4 * data.length + 2) / 3 := by
  induction data using sextets.induct with
  | case1 => decide
  | case2 a => simp [sextets, base64Pads]
  | case3 a b => simp [sextets, base64Pads]
  | case4 a b c rest ih =>
      rw [base64Pads_cons]
      simp only [sextets, List.length_cons]
      omega

theorem base64Encode_eq (data : Bytes) :
    base64Encode data = (sextets data).map base64Char ++ padding (base64Pads data) := by
  -- three bytes are four sextets; the cases are those of the last group
  induction data using sextets.induct with
  | case1 => rfl
  | case2 a =>
      -- one byte is left: its low bits are filled with four zeros
      have hhigh : a.toNat * 16 / 64 = a.toNat / 4 := by omega
      have hlow : a.toNat * 16 % 64 = a.toNat % 4 * 16 := by omega
      simp only [base64Encode, sextets, hhigh, hlow]
      rfl
  | case3 a b =>
      -- two bytes are left: two zeros fill the third sextet
      have ha := a.toNat_lt
      have hb := b.toNat_lt
      have h₁ : (a.toNat * 256 + b.toNat) * 4 / 4096 = a.toNat / 4 := by omega
      have h₂ : (a.toNat * 256 + b.toNat) * 4 / 64 % 64 = a.toNat % 4 * 16 + b.toNat / 16 := by
        omega
      have h₃ : (a.toNat * 256 + b.toNat) * 4 % 64 = b.toNat % 16 * 4 := by omega
      simp only [base64Encode, sextets, h₁, h₂, h₃]
      rfl
  | case4 a b c rest ih =>
      have ha := a.toNat_lt
      have hb := b.toNat_lt
      have hc := c.toNat_lt
      have h₁ : (a.toNat * 65536 + b.toNat * 256 + c.toNat) / 262144 = a.toNat / 4 := by omega
      have h₂ : (a.toNat * 65536 + b.toNat * 256 + c.toNat) / 4096 % 64
          = a.toNat % 4 * 16 + b.toNat / 16 := by omega
      have h₃ : (a.toNat * 65536 + b.toNat * 256 + c.toNat) / 64 % 64
          = b.toNat % 16 * 4 + c.toNat / 64 := by omega
      have h₄ : (a.toNat * 65536 + b.toNat * 256 + c.toNat) % 64 = c.toNat % 64 := by omega
      simp only [base64Encode, sextets, h₁, h₂, h₃, h₄, base64Pads_cons, ih, List.map_cons,
        List.cons_append]

/-- The groups of `data` are read as `data`. The cases are those of the encoding: no byte is left,
one or two, or a full group of three. -/
theorem base64Bytes_sextets (data : Bytes) :
    base64Bytes (base64Pads data) (sextets data) = some data := by
  have hself : ∀ a : UInt8, UInt8.ofNat a.toNat = a := fun a => UInt8.ofNat_toNat
  induction data using sextets.induct with
  | case1 => rfl
  | case2 a =>
      have hbyte : a.toNat / 4 * 4 + a.toNat % 4 * 16 / 16 = a.toNat := by omega
      simp only [sextets, base64Bytes, hbyte, hself]
      rfl
  | case3 a b =>
      have hb := b.toNat_lt
      have h₁ : a.toNat / 4 * 4 + (a.toNat % 4 * 16 + b.toNat / 16) / 16 = a.toNat := by omega
      have h₂ : (a.toNat % 4 * 16 + b.toNat / 16) % 16 * 16 + b.toNat % 16 * 4 / 4 = b.toNat := by
        omega
      simp only [sextets, base64Bytes, h₁, h₂, hself]
      rfl
  | case4 a b c rest ih =>
      have hb := b.toNat_lt
      have hc := c.toNat_lt
      have h₁ : a.toNat / 4 * 4 + (a.toNat % 4 * 16 + b.toNat / 16) / 16 = a.toNat := by omega
      have h₂ : (a.toNat % 4 * 16 + b.toNat / 16) % 16 * 16
          + (b.toNat % 16 * 4 + c.toNat / 64) / 4 = b.toNat := by omega
      have h₃ : (b.toNat % 16 * 4 + c.toNat / 64) % 4 * 64 + c.toNat % 64 = c.toNat := by omega
      simp only [sextets, base64Bytes, base64Pads_cons, ih, Option.map_some, h₁, h₂, h₃, hself]

/-! ### Characters -/

theorem base64Value_base64Char {n : Nat} (h : n < 64) : base64Value (base64Char n) = some n := by
  have hall : ∀ n < 64, base64Value (base64Char n) = some n := by decide
  exact hall n h

theorem base64Value_pad : base64Value (CodePoint.ofChar '=') = none := by decide

/-- The value of a text of characters, and what is left of it after them. -/
theorem base64_split {groups : List Nat} (h : ∀ n ∈ groups, n < 64) (pads : Nat) :
    ((groups.map base64Char ++ padding pads).takeWhile fun c => (base64Value c).isSome)
        = groups.map base64Char ∧
      ((groups.map base64Char ++ padding pads).dropWhile fun c => (base64Value c).isSome)
        = padding pads ∧ (groups.map base64Char).filterMap base64Value = groups := by
  induction groups with
  | nil => cases pads <;> simp [padding, List.replicate_succ, base64Value_pad]
  | cons n rest ih =>
      rw [List.forall_mem_cons] at h
      obtain ⟨htake, hdrop, hvalues⟩ := ih h.2
      have hn := base64Value_base64Char h.1
      refine ⟨?_, ?_, ?_⟩
      · simp [hn, htake]
      · simp [hn, hdrop]
      · rw [List.map_cons, List.filterMap_cons_some hn, hvalues]

theorem base64Decode_sextets (data : Bytes) :
    base64Decode ((sextets data).map base64Char ++ padding (base64Pads data)) = some data := by
  have hlt : ∀ n ∈ sextets data, n < 64 := sextets_lt
  obtain ⟨htake, hdrop, hvalues⟩ := base64_split hlt (base64Pads data)
  have hlength : (padding (base64Pads data)).length = base64Pads data := by simp [padding]
  have hpads : base64Pads data ≤ 2 := by
    unfold base64Pads
    omega
  have hequals : ∀ c ∈ padding (base64Pads data), c = CodePoint.ofChar '=' :=
    fun c hc => (List.mem_replicate.mp hc).2
  simp only [base64Decode, htake, hdrop, hvalues, hlength]
  rw [if_pos ⟨hpads, hequals⟩, base64Bytes_sextets]

/-! ### The alphabet for URLs

The last two characters are others, and the padding is left out. It can be put back, because the
length of the text says how much of it there was. -/

/-- `b"+/"` as `b"-_"`. -/
def toUrlsafe (c : CodePoint) : CodePoint :=
  if c = CodePoint.ofChar '+' then CodePoint.ofChar '-'
  else if c = CodePoint.ofChar '/' then CodePoint.ofChar '_'
  else c

/-- `b"-_"` as `b"+/"`. -/
def ofUrlsafe (c : CodePoint) : CodePoint :=
  if c = CodePoint.ofChar '-' then CodePoint.ofChar '+'
  else if c = CodePoint.ofChar '_' then CodePoint.ofChar '/'
  else c

/-- `base64.urlsafe_b64encode(data).decode("ascii")`. -/
def urlsafeB64Encode (data : Bytes) : PyStr := (base64Encode data).map toUrlsafe

/-- `base64.b64decode(text, altchars=b"-_", validate=True)`. -/
def urlsafeB64Decode (text : PyStr) : Option Bytes := base64Decode (text.map ofUrlsafe)

/-- `text.rstrip("=")`. -/
def stripPadding (text : PyStr) : PyStr := text.rdropWhile (· = CodePoint.ofChar '=')

/-- `"=" * (-len(text) % 4)`. -/
def missingPadding (text : PyStr) : PyStr := padding ((4 - text.length % 4) % 4)

/-- `[A-Za-z0-9_-]`. -/
def isUrlsafeChar (c : CodePoint) : Bool :=
  (65 ≤ c.val && c.val ≤ 90) || (97 ≤ c.val && c.val ≤ 122) || (48 ≤ c.val && c.val ≤ 57)
    || c = CodePoint.ofChar '_' || c = CodePoint.ofChar '-'

theorem ofUrlsafe_base64Char {n : Nat} (h : n < 64) :
    ofUrlsafe (toUrlsafe (base64Char n)) = base64Char n := by
  have hall : ∀ n < 64, ofUrlsafe (toUrlsafe (base64Char n)) = base64Char n := by decide
  exact hall n h

theorem isUrlsafeChar_base64Char {n : Nat} (h : n < 64) :
    isUrlsafeChar (toUrlsafe (base64Char n)) = true := by
  have hall : ∀ n < 64, isUrlsafeChar (toUrlsafe (base64Char n)) = true := by decide
  exact hall n h

/-- The text of `data` without its padding. -/
def urlsafeText (data : Bytes) : PyStr := (sextets data).map fun n => toUrlsafe (base64Char n)

theorem urlsafeText_isUrlsafeChar (data : Bytes) :
    ∀ c ∈ urlsafeText data, isUrlsafeChar c = true := by
  intro c hc
  obtain ⟨n, hn, rfl⟩ := List.mem_map.mp hc
  exact isUrlsafeChar_base64Char (sextets_lt n hn)

theorem stripPadding_urlsafeB64Encode (data : Bytes) :
    stripPadding (urlsafeB64Encode data) = urlsafeText data := by
  have hpad : (padding (base64Pads data)).map toUrlsafe = padding (base64Pads data) := by
    rw [padding, List.map_replicate]
    rfl
  rw [urlsafeB64Encode, base64Encode_eq, List.map_append, List.map_map, hpad]
  have hkeep : stripPadding (urlsafeText data) = urlsafeText data := by
    rw [stripPadding, List.rdropWhile_eq_self_iff]
    intro hne hlast
    have hsafe := urlsafeText_isUrlsafeChar data _ (List.getLast_mem hne)
    rw [of_decide_eq_true hlast] at hsafe
    exact absurd hsafe (by decide)
  have hall : ∀ n (text : PyStr), stripPadding (text ++ padding n) = stripPadding text := by
    intro n text
    induction n with
    | zero => simp [padding]
    | succ n ih =>
        have hsucc : text ++ padding (n + 1) = (text ++ padding n) ++ [CodePoint.ofChar '='] := by
          rw [padding, List.replicate_succ', ← List.append_assoc]
          rfl
        rw [hsucc, stripPadding, List.rdropWhile_concat_pos _ _ _ (by simp)]
        exact ih
  exact (hall _ _).trans hkeep

/-- **The round trip without padding**: it is put back from the length of the text. -/
theorem urlsafeB64Decode_urlsafeText (data : Bytes) :
    urlsafeB64Decode (urlsafeText data ++ missingPadding (urlsafeText data)) = some data := by
  have hlength : (urlsafeText data).length = (sextets data).length := by simp [urlsafeText]
  have hpad : (missingPadding (urlsafeText data)).map ofUrlsafe = padding (base64Pads data) := by
    rw [missingPadding, hlength, (sextets_length data).1, padding, List.map_replicate]
    rfl
  have htext : (urlsafeText data).map ofUrlsafe = (sextets data).map base64Char := by
    rw [urlsafeText, List.map_map]
    exact List.map_congr_left fun n hn => ofUrlsafe_base64Char (sextets_lt n hn)
  rw [urlsafeB64Decode, List.map_append, hpad, htext, base64Decode_sextets]

theorem urlsafeText_ne_nil {data : Bytes} (h : data ≠ []) : urlsafeText data ≠ [] := by
  intro hnil
  have hlength := (sextets_length data).2
  have hzero : (sextets data).length = 0 := by
    simpa [urlsafeText] using congrArg List.length hnil
  have hpos := List.length_pos_iff.mpr h
  omega

end EventPipeline.Python
