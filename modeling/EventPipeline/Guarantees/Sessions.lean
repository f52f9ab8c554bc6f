import EventPipeline.Portfolio.Auth
import EventPipeline.Python.TextSize

/-!
# EventPipeline.Guarantees.Sessions

Passwords, access tokens, and the accounts behind them.

A stored hash and a token are texts with separators that none of their parts contains, so each
is split into the parts it was made of; the parts are read back by the round trips of Base64,
of decimal numbers and of JSON. `verifyPassword` and `decodeAccessToken` are then decided by
one comparison of digests. The last section runs the account endpoints: sign-ups and logins in
any order, with every token presented at any time.
-/

namespace EventPipeline.Guarantees

open EventPipeline.Python EventPipeline.Portfolio

namespace Sessions

/-! ### Segments -/

theorem b64urlEncode_eq (data : Bytes) : b64urlEncode data = urlsafeText data :=
  stripPadding_urlsafeB64Encode data

theorem b64urlDecode_b64urlEncode (data : Bytes) :
    b64urlDecode (b64urlEncode data) = some data := by
  rw [b64urlEncode_eq]
  exact urlsafeB64Decode_urlsafeText data

theorem isSegment_b64urlEncode {data : Bytes} (h : data ≠ []) :
    isSegment (b64urlEncode data) = true := by
  rw [b64urlEncode_eq]
  simpa [isSegment, urlsafeText_ne_nil h] using urlsafeText_isUrlsafeChar data

theorem b64urlEncode_length (data : Bytes) :
    (b64urlEncode data).length = (4 * data.length + 2) / 3 := by
  rw [b64urlEncode_eq, urlsafeText, List.length_map, (sextets_length data).2]

/-- A separator is no character of a segment. -/
theorem not_mem_segment {c : CodePoint} (hc : isUrlsafeChar c = false) (data : Bytes) :
    c ∉ b64urlEncode data := by
  intro hmem
  rw [b64urlEncode_eq] at hmem
  rw [urlsafeText_isUrlsafeChar data c hmem] at hc
  cases hc

/-- Nor of a number. -/
theorem not_mem_natStr {c : CodePoint} (hc : c.isDigit = false) (n : Nat) : c ∉ natStr n := by
  intro hmem
  rw [natStr_isDigit hmem] at hc
  cases hc

/-! ### Decimal numbers -/

theorem digit_not_space (table : CharTable) {c : CodePoint} (h : c.isDigit = true) :
    table.numeralSpace c = false := by
  simp only [CodePoint.isDigit, Bool.and_eq_true, decide_eq_true_eq] at h
  simp only [CharTable.numeralSpace, Bool.or_eq_false_iff, Bool.and_eq_false_iff,
    decide_eq_false_iff_not]
  omega

theorem strip_digits (table : CharTable) {text : PyStr} (h : ∀ c ∈ text, c.isDigit = true) :
    CharTable.strip table.numeralSpace text = text := by
  have hkeep : ∀ s : PyStr, (∀ c ∈ s, c.isDigit = true) → s.dropWhile table.numeralSpace = s := by
    intro s hs
    cases s with
    | nil => rfl
    | cons c rest =>
        rw [List.dropWhile_cons_of_neg]
        simp [digit_not_space table (hs c List.mem_cons_self)]
  rw [CharTable.strip, hkeep text h, hkeep text.reverse fun c hc => h c (List.mem_reverse.mp hc),
    List.reverse_reverse]

theorem mapM_toAscii (table : CharTable) {text : PyStr} (h : ∀ c ∈ text, c.isDigit = true) :
    text.mapM table.toAscii = some text := by
  induction text with
  | nil => rfl
  | cons c rest ih =>
      have hc : c.val < 128 := by
        have := h c List.mem_cons_self
        simp only [CodePoint.isDigit, Bool.and_eq_true, decide_eq_true_eq] at this
        omega
      have hself : table.toAscii c = some c := by rw [CharTable.toAscii, if_pos hc]
      rw [List.mapM_cons, hself, ih fun d hd => h d (List.mem_cons_of_mem c hd)]
      rfl

/-- `int(str(n))` is `n`, up to the limit of the conversion. -/
theorem parseInt_natStr (table : CharTable) {n : Nat} (h : (natStr n).length ≤ 4300) :
    parseInt table (natStr n) = some (n : Int) := by
  have hdigits : ∀ c ∈ natStr n, c.isDigit = true := fun c hc => natStr_isDigit hc
  -- a digit is no sign, no underscore and no blank: nothing is stripped from it
  have hsign : splitSign (natStr n) = (false, natStr n) := by
    cases hn : natStr n with
    | nil => rfl
    | cons c rest =>
        have hc := hdigits c (by rw [hn]; exact List.mem_cons_self)
        have hminus : c ≠ CodePoint.ofChar '-' := by
          rintro rfl
          exact absurd hc (by decide)
        have hplus : c ≠ CodePoint.ofChar '+' := by
          rintro rfl
          exact absurd hc (by decide)
        rw [splitSign, if_neg hminus, if_neg hplus]
  have hbar : CodePoint.ofChar '_' ∉ natStr n := not_mem_natStr (by decide) n
  have hdrop : dropUnderscores (natStr n) = natStr n := by
    rw [dropUnderscores, List.filter_eq_self]
    intro c hc
    refine decide_eq_true fun heq => ?_
    rw [heq] at hc
    exact hbar hc
  have hbetween : underscoresBetweenDigits (natStr n) = true := by
    rw [underscoresBetweenDigits, List.splitOn_eq_singleton hbar]
    rfl
  have hall : isDigits (natStr n) = true := by
    simpa [isDigits, natStr_ne_nil n] using hdigits
  simp only [parseInt, strip_digits table hdigits, mapM_toAscii table hdigits,
    Option.bind_eq_bind, Option.bind_some, hsign, hdrop, hbetween, hall, h, natOfDigits_natStr,
    and_self, if_true, Bool.false_eq_true, if_false]

theorem utf8Encode_clean {s : PyStr} (h : s.Clean) : utf8Encode s = some (s.flatMap utf8Char) := by
  rw [utf8Encode, if_neg]
  rw [h.2]
  simp

/-! ### A concrete service

The digests of two accounts are written out, as `hashlib` computes them. No sample looks at any
other. -/

/-- The 32 bytes of a digest, from the number they write. -/
def digestBytes (digest : Nat) : Bytes :=
  (List.range 32).map fun i => UInt8.ofNat (digest / 256 ^ (31 - i))

@[simp] theorem length_digestBytes (digest : Nat) : (digestBytes digest).length = 32 := by
  simp [digestBytes]

def accountSettings : AuthSettings where
  secret_key := "0123456789abcdef0123456789abcdef"
  token_ttl_seconds := 3600
  token_ttl_range := by decide
  password_iterations := 600000
  password_iterations_range := by decide

theorem accountSettings_key :
    utf8Encode accountSettings.secret_key = some (accountSettings.secret_key.flatMap utf8Char) :=
  utf8Encode_clean (by decide)

def accountTable : CharTable := ⟨fun _ => false, fun _ => none⟩

/-- The salts of the two accounts. -/
def accountSalt (first : Nat) : Bytes := (List.range 16).map fun i => UInt8.ofNat (first + i)

theorem length_accountSalt (first : Nat) : (accountSalt first).length = 16 := by
  simp [accountSalt]

/-- The signed part of the token of the operator at the first second, and of the observer's a
minute later. -/
def signedTexts : List Bytes := [
  asciiBytes (PyStr.ofString "eyJhbGciOiJIUzI1NiIsInR5cCI6IkpXVCJ9."
    ++ PyStr.ofString "eyJleHAiOjM2MDEsInN1YiI6IjciLCJ1c2VybmFtZSI6Im9wZXJhdG9yIn0"),
  asciiBytes (PyStr.ofString "eyJhbGciOiJIUzI1NiIsInR5cCI6IkpXVCJ9."
    ++ PyStr.ofString "eyJleHAiOjM2NjEsInN1YiI6IjgiLCJ1c2VybmFtZSI6Im9ic2VydmVyIn0")]

/-- HMAC with SHA-256 under the key of the service, of the two texts. -/
def signatures : List (Bytes × Nat) := signedTexts.zip [
  0xbb5d209491bdd9c6219ffa6f16125d383c280332f962afddc176bb28cdc7495e,
  0x75e0c0f6d418e6179221db0f68d9ff5526754568bac4605da84f62082fed4e1c]

/-- PBKDF2 with SHA-256 and 600000 iterations, of the two passwords under the two salts. -/
def derivedKeys : List ((Bytes × Bytes) × Nat) := [
  ((asciiBytes "correct horse", accountSalt 1),
    0x357495d87bf0d1ae1abd3887f3e5d031bccefcbba72af2b0a7695dd6eb45440d),
  ((asciiBytes "battery staple", accountSalt 1),
    0x4c6e29d93ea0c249825310052d8344800123b2bb8a7186725e2476c3eaa4be83),
  ((asciiBytes "battery staple", accountSalt 17),
    0x7443318d705546fc069dddae51757d5251b8c1136cebd68004e8c11672ebd250),
  ((asciiBytes "correct horse", accountSalt 17),
    0x8ff15ccec2592005f21fb72eacd92a45b2f338ca6f3656551d1f8dd646c18858)]

/-- The digests of `hashlib` for what the two accounts do, and zeroes for anything else. -/
def accountCrypto : Crypto where
  hmac key message :=
    if key = asciiBytes accountSettings.secret_key then
      digestBytes ((signatures.lookup message).getD 0)
    else digestBytes 0
  hmac_length key message := by
    split_ifs
    · exact length_digestBytes _
    · exact length_digestBytes _
  pbkdf2 password salt iterations :=
    if iterations = 600000 then digestBytes ((derivedKeys.lookup (password, salt)).getD 0)
    else digestBytes 0
  pbkdf2_length password salt iterations := by
    split_ifs
    · exact length_digestBytes _
    · exact length_digestBytes _

def accountPayload : AccountRequest where
  username := ⟨"operator", by decide, by decide⟩
  password := ⟨"correct horse", by decide, by decide⟩

def observerPayload : AccountRequest where
  username := ⟨"observer", by decide, by decide⟩
  password := ⟨"battery staple", by decide, by decide⟩

def accountClock : Clock := ⟨1000000, by decide⟩

/-- A minute later. -/
def laterClock : Clock := ⟨61000000, by decide⟩

/-! ### Passwords

A stored hash is four texts joined by a separator that is in none of them. It is split into the
same four again, and the derivation it asks for is the one it was made by. -/

section Passwords

variable (crypto : Crypto) (settings : AuthSettings) (table : CharTable)

/-- A stored hash is split into what it was made of. -/
theorem splitHash_passwordHashText (salt digest : Bytes) :
    splitHash table (passwordHashText settings salt digest) =
      some (PyStr.ofString "pbkdf2_sha256", (settings.password_iterations : Int), b64urlEncode salt,
        b64urlEncode digest) := by
  have htext : passwordHashText settings salt digest =
      [CodePoint.ofChar '$'].intercalate [PyStr.ofString "pbkdf2_sha256",
        natStr settings.password_iterations, b64urlEncode salt, b64urlEncode digest] := by
    have halgorithm : PyStr.ofString "pbkdf2_sha256$"
        = PyStr.ofString "pbkdf2_sha256" ++ [CodePoint.ofChar '$'] := by decide
    have hdollar : PyStr.ofString "$" = [CodePoint.ofChar '$'] := by decide
    simp [passwordHashText, halgorithm, hdollar, List.intercalate]
  have hparts : (passwordHashText settings salt digest).splitOn (CodePoint.ofChar '$') =
      [PyStr.ofString "pbkdf2_sha256", natStr settings.password_iterations, b64urlEncode salt,
        b64urlEncode digest] := by
    rw [htext]
    refine List.splitOn_intercalate _ ?_ (by simp)
    simp only [List.forall_mem_cons, List.not_mem_nil, false_implies, implies_true, and_true]
    exact ⟨by decide, not_mem_natStr (by decide) _, not_mem_segment (by decide) _,
      not_mem_segment (by decide) _⟩
  have hlength : (natStr settings.password_iterations).length ≤ 4300 := by
    have hsmall : (natStr settings.password_iterations).length ≤ 7 :=
      natStr_length_le (by norm_num)
        (settings.password_iterations_range.2.trans_lt (by norm_num))
    omega
  simp only [splitHash, hparts, parseInt_natStr table hlength, Option.map_some]

/-- The text of a hash is read back as the parts it was made of, which are within the bounds that
the reading checks. -/
theorem readHash_passwordHashText {salt digest : Bytes} (hsalt : salt.length = 16)
    (hdigest : digest.length = 32) :
    readHash table (passwordHashText settings salt digest) =
      some ⟨settings.password_iterations, salt, digest⟩ := by
  have hrange : (legacyPasswordIterations : Int) ≤ (settings.password_iterations : Int) ∧
      (settings.password_iterations : Int) ≤ maxPasswordIterations := by
    have := settings.password_iterations_range
    simp only [legacyPasswordIterations, maxPasswordIterations]
    omega
  simp [readHash, splitHash_passwordHashText, b64urlDecode_b64urlEncode, hrange, hsalt, hdigest]

theorem passwordHashText_ne_nil (salt digest : Bytes) :
    passwordHashText settings salt digest ≠ [] := by
  have : PyStr.ofString "pbkdf2_sha256$" ≠ [] := by decide
  simp [passwordHashText, this]

/-- The derivation that a stored hash of the module asks for. -/
theorem derivation_passwordHashText {salt digest : Bytes} (hsalt : salt.length = 16)
    (hdigest : digest.length = 32) (password : PyStr) :
    derivation table password (some (passwordHashText settings salt digest)) =
      if password.Clean then
        (utf8Encode password).map fun bytes =>
          (bytes, ⟨settings.password_iterations, salt, digest⟩)
      else none := by
  have hclean : (validateJsonStructure (.str password)).isOk = true ↔ password.Clean := by
    rw [isOk_iff, validateJsonStructure_ok]
    simp [Json.Sound, Json.depth]
  by_cases hp : password.Clean
  · simp only [derivation, Option.filter, passwordHashText_ne_nil, ne_eq, not_false_eq_true,
      decide_true, if_true, Option.bind_eq_bind, Option.bind_some,
      readHash_passwordHashText settings table hsalt hdigest, hclean.mpr hp, guard_true, hp]
    cases utf8Encode password <;> rfl
  · have hfalse : (validateJsonStructure (.str password)).isOk = false :=
      Bool.eq_false_iff.mpr fun h => hp (hclean.mp h)
    simp [derivation, hfalse, hp]

/-- **A password is verified by its own hash**, and another one only by a collision: under the
hash of `password`, `verify_password` accepts exactly the texts the database could hold whose
bytes derive the same digest with the same salt and iterations.

The stored text is read back as what it was written from (`derivation_passwordHashText`), so the
comparison is one between two digests. -/
theorem hashPassword_verifies {salt : Bytes} (hsalt : salt.length = 16) (password : PyStr) :
    (password.Clean ↔ ∃ stored, hashPassword crypto settings salt password = .ok stored) ∧
      ∀ stored, hashPassword crypto settings salt password = .ok stored → ∀ attempt,
        (verifyPassword crypto table attempt (some stored) = true ↔ attempt.Clean ∧
          crypto.pbkdf2 (attempt.flatMap utf8Char) salt settings.password_iterations =
            crypto.pbkdf2 (password.flatMap utf8Char) salt settings.password_iterations) := by
  have hvalid : validateJsonStructure (.str password) = .ok () ↔ password.Clean := by
    rw [validateJsonStructure_ok]
    simp [Json.Sound, Json.depth]
  -- hashing succeeds on the passwords that can be encoded, with the text of the digest
  have hhash : ∀ stored, hashPassword crypto settings salt password = .ok stored ↔
      password.Clean ∧ stored = passwordHashText settings salt
        (crypto.pbkdf2 (password.flatMap utf8Char) salt settings.password_iterations) := by
    intro stored
    simp only [hashPassword, bind_eq_ok, hvalid]
    constructor
    · rintro ⟨-, hclean, hstored⟩
      rw [utf8Encode_clean hclean] at hstored
      exact ⟨hclean, (Except.ok.inj hstored).symm⟩
    · rintro ⟨hclean, rfl⟩
      exact ⟨(), hclean, by rw [utf8Encode_clean hclean]⟩
  refine ⟨⟨fun hclean => ⟨_, (hhash _).mpr ⟨hclean, rfl⟩⟩, ?_⟩, ?_⟩
  · rintro ⟨stored, hstored⟩
    exact ((hhash stored).mp hstored).1
  · intro stored hstored attempt
    obtain ⟨-, rfl⟩ := (hhash stored).mp hstored
    simp only [verifyPassword, derivation_passwordHashText settings table hsalt
      (crypto.pbkdf2_length _ _ _)]
    -- an attempt that cannot be encoded is refused before it is hashed
    by_cases hattempt : attempt.Clean
    · rw [if_pos hattempt, utf8Encode_clean hattempt]
      simp [hattempt]
    · simp [hattempt]

/-- The password of an account verifies, and the password of the other one does not. -/
theorem hashPassword_verifies_sample :
    ∃ stored, hashPassword accountCrypto accountSettings (accountSalt 1)
        accountPayload.password.text = .ok stored ∧
      verifyPassword accountCrypto accountTable accountPayload.password.text (some stored)
        = true ∧
      verifyPassword accountCrypto accountTable observerPayload.password.text (some stored)
        = false := by
  have hverifies := hashPassword_verifies accountCrypto accountSettings accountTable
    (length_accountSalt 1) accountPayload.password.text
  obtain ⟨stored, hstored⟩ := hverifies.1.mp accountPayload.password.clean
  refine ⟨stored, hstored, ?_, ?_⟩
  · exact (hverifies.2 stored hstored accountPayload.password.text).mpr
      ⟨accountPayload.password.clean, rfl⟩
  · refine Bool.eq_false_iff.mpr fun hother => ?_
    have hcollision := ((hverifies.2 stored hstored observerPayload.password.text).mp hother).2
    -- the digests of the two passwords differ in their first byte
    exact absurd hcollision (by decide +kernel)

theorem dummyPasswordHash_derivation (attempt : PyStr) :
    derivation table attempt (some (dummyPasswordHash crypto settings)) =
      if attempt.Clean then
        (utf8Encode attempt).map fun bytes => (bytes, ⟨settings.password_iterations,
          asciiBytes "portfolio-dummy!", crypto.pbkdf2 (asciiBytes "invalid-password")
            (asciiBytes "portfolio-dummy!") settings.password_iterations⟩)
      else none :=
  derivation_passwordHashText settings table (by decide) (crypto.pbkdf2_length _ _ _) attempt

end Passwords

/-! ### The texts of a token -/

section Tokens

variable {crypto : Crypto} {settings : AuthSettings} {rt : Runtime}

theorem readable_tokenStyle : JsonLoads.Readable tokenStyle :=
  ⟨⟨[], by decide, by simp [JsonLoads.Blank]⟩, ⟨[], by decide, by simp [JsonLoads.Blank]⟩⟩

theorem render_token_plain {v : Json} (hv : v.Sound) : (Json.render tokenStyle v).Plain :=
  have hprints : Json.PrintsIn tokenStyle CodePoint.Plain :=
    ⟨fun _ h => h, PyStr.plain_ofString (by decide), PyStr.plain_ofString (by decide),
      by simp [tokenStyle]⟩
  hprints.render v hv

/-- A flat object is read back from its segment. -/
theorem segmentJson_tokenJson {d : Dict} {bytes : Bytes} (h : tokenJson d = some bytes)
    (hsound : Json.Sound (.obj (d.insertionSort fun a b => keyLe a b)))
    (hunique : Json.Unique (.obj (d.insertionSort fun a b => keyLe a b)))
    (hprint : Json.printable false (.obj (d.insertionSort fun a b => keyLe a b)) = true)
    (hdepth : Json.depth (.obj (d.insertionSort fun a b => keyLe a b)) ≤ 66) :
    segmentJson rt (b64urlEncode bytes) =
      some (.obj (d.insertionSort fun a b => keyLe a b)) := by
  obtain ⟨text, htext, hbytes⟩ := Option.bind_eq_some_iff.mp h
  have hrender : text = Json.render tokenStyle (.obj (d.insertionSort fun a b => keyLe a b)) := by
    unfold Json.dumps at htext
    split_ifs at htext
    exact (Option.some.inj htext).symm
  have hdecode : utf8Decode bytes = some text := by
    have hascii := (render_token_plain hsound).ascii
    rw [← hrender] at hascii
    have hround := utf8Decode_utf8Encode hascii
    rwa [hbytes, Option.bind_some] at hround
  have hloads : loads ⟨rt.recursionLimit, true⟩ text =
      .ok (.obj (d.insertionSort fun a b => keyLe a b)) := by
    rw [hrender]
    exact loads_render_style readable_tokenStyle hsound hunique hprint
      (hdepth.trans rt.recursionLimit_wide)
  simp only [segmentJson, b64urlDecode_b64urlEncode, Option.bind_eq_bind, Option.bind_some, hdecode,
    hloads, Except.toOption]

/-- The payload of a new token, in the order of its keys. -/
def sortedPayload (settings : AuthSettings) (user_id : Nat) (username : PyStr) (now : Clock) :
    Dict :=
  [("exp", .int (intTime now + settings.token_ttl_seconds : Nat)),
    ("sub", .str (natStr user_id)), ("username", .str username)]

theorem tokenPayload_sorted (user_id : Nat) (username : PyStr) (now : Clock) :
    (tokenPayload settings user_id username now).insertionSort (fun a b => keyLe a b) =
      sortedPayload settings user_id username now := by
  have h₁ : PyStr.ofString "username" ≤ PyStr.ofString "exp" ↔ False := by decide
  have h₂ : PyStr.ofString "sub" ≤ PyStr.ofString "exp" ↔ False := by decide
  have h₃ : PyStr.ofString "sub" ≤ PyStr.ofString "username" ↔ True := by decide
  simp [tokenPayload, sortedPayload, keyLe, h₁, h₂, h₃]

theorem tokenHeader_sorted :
    tokenHeader.insertionSort (fun a b => keyLe a b) = tokenHeader := by
  have h : PyStr.ofString "alg" ≤ PyStr.ofString "typ" ↔ True := by decide
  simp [tokenHeader, keyLe, h]

/-! ### Their lengths

A token has to fit the limit of the decoder. Its payload has three entries, whose lengths are
bounded by those of the expiry, the id and the name. -/

theorem escape_length_ascii_le (c : CodePoint) : (Json.escape true c).length ≤ 12 := by
  unfold Json.escape
  split_ifs <;> simp [Json.escapeChar, Json.escapeUnit]

theorem renderStr_length_le (s : PyStr) :
    (Json.renderStr tokenStyle s).length ≤ 12 * s.length + 2 := by
  have hchars : (s.flatMap (Json.escape true)).length ≤ 12 * s.length := by
    induction s with
    | nil => simp
    | cons c rest ih =>
        have hc := escape_length_ascii_le c
        rw [List.flatMap_cons, List.length_append, List.length_cons]
        omega
  have hquote : (PyStr.ofString "\"").length = 1 := by decide
  simp only [Json.renderStr, List.length_append, hquote]
  have hstyle : tokenStyle.ensureAscii = true := rfl
  rw [hstyle]
  omega

theorem intTime_le (now : Clock) : intTime now ≤ 2 ^ 38 := by
  obtain ⟨neg, mag, htime, hmag⟩ := now.seconds_finite
  rw [Binary64.pow2_toRat] at hmag
  rw [intTime, htime]
  cases neg with
  | true => simp
  | false =>
      refine Nat.floor_le_of_le (hmag.trans (le_of_eq ?_))
      norm_num

/-- When a new token expires. -/
def expiry (settings : AuthSettings) (now : Clock) : Nat :=
  intTime now + settings.token_ttl_seconds

theorem expiry_lt (now : Clock) : expiry settings now < 10 ^ 12 := by
  have htime := intTime_le now
  have httl := settings.token_ttl_range.2
  simp only [expiry]
  omega

theorem sortedPayload_length {user_id : Nat} (hid : user_id ≤ maxPostgresBigint)
    {username : PyStr} (hlength : username.length ≤ 30) (now : Clock) :
    (Json.render tokenStyle (.obj (sortedPayload settings user_id username now))).length
      ≤ 1000 := by
  have hexp : (intStr ((intTime now + settings.token_ttl_seconds : Nat) : Int)).length ≤ 12 :=
    natStr_length_le (by norm_num) (expiry_lt now)
  have hsub : (natStr user_id).length ≤ 19 :=
    natStr_length_le (by norm_num) (lt_of_le_of_lt hid (by norm_num [maxPostgresBigint]))
  have hkey₁ := renderStr_length_le (PyStr.ofString "exp")
  have hkey₂ := renderStr_length_le (PyStr.ofString "sub")
  have hkey₃ := renderStr_length_le (PyStr.ofString "username")
  have hvalue₂ := renderStr_length_le (natStr user_id)
  have hvalue₃ := renderStr_length_le username
  have hlen : (PyStr.ofString "exp").length = 3 ∧ (PyStr.ofString "sub").length = 3 ∧
      (PyStr.ofString "username").length = 8 ∧ (PyStr.ofString "\x7b").length = 1 ∧
      (PyStr.ofString "\x7d").length = 1 ∧ tokenStyle.itemSep.length = 1 ∧
      tokenStyle.keySep.length = 1 := by decide
  simp only [sortedPayload, Json.render, Json.renderPairs_cons_cons, Json.renderPairs,
    List.length_append, hlen]
  omega

/-! ### A token is read back

Each part of a token is read back as what it was written from. What remains to compare is the
clock with the expiry. -/

theorem sortedPayload_sound {username : PyStr} (hclean : username.Clean) (user_id : Nat)
    (now : Clock) : Json.Sound (.obj (sortedPayload settings user_id username now)) := by
  refine Json.soundPairs_iff.mpr ?_
  simp only [sortedPayload, List.forall_mem_cons, List.not_mem_nil, false_implies, implies_true,
    and_true]
  exact ⟨⟨by decide, trivial⟩, ⟨by decide, natStr_clean user_id⟩, by decide, hclean⟩

theorem sortedPayload_unique (user_id : Nat) (username : PyStr) (now : Clock) :
    Json.Unique (.obj (sortedPayload settings user_id username now)) :=
  ⟨by simp [sortedPayload, Dict.keys], by simp [sortedPayload, Json.UniquePairs, Json.Unique]⟩

theorem sortedPayload_printable (user_id : Nat) (username : PyStr) (now : Clock) :
    Json.printable false (.obj (sortedPayload settings user_id username now)) = true := by
  have hfits : Json.intFits ((intTime now + settings.token_ttl_seconds : Nat) : Int) = true := by
    have hlength : (natStr (intTime now + settings.token_ttl_seconds)).length ≤ 12 :=
      natStr_length_le (by norm_num) (expiry_lt now)
    rw [Json.intFits, Int.natAbs_natCast, Json.maxIntDigits]
    exact decide_eq_true (by omega)
  simp only [sortedPayload, Json.printable, Json.printablePairs, hfits, Bool.and_self]

/-- The payload segment of a new token: its JSON is ASCII, at most 1000 bytes long, and read back
as the same object. -/
theorem tokenJson_tokenPayload {user_id : Nat} (hid : user_id ≤ maxPostgresBigint)
    {username : PyStr} (hclean : username.Clean) (hlength : username.length ≤ 30) (now : Clock) :
    ∃ bytes, tokenJson (tokenPayload settings user_id username now) = some bytes ∧
      bytes ≠ [] ∧ bytes.length ≤ 1000 ∧ segmentJson rt (b64urlEncode bytes) =
        some (.obj (sortedPayload settings user_id username now)) := by
  have hsound : Json.Sound (.obj (sortedPayload settings user_id username now)) :=
    sortedPayload_sound hclean user_id now
  -- the token is ASCII: its text escapes everything else
  have hplain := render_token_plain hsound
  obtain ⟨bytes, hbytes⟩ := utf8Encode_plain hplain
  have hfinite : Json.printable false (.obj (sortedPayload settings user_id username now))
      = true := sortedPayload_printable user_id username now
  have hprintable : Json.printable true (.obj (sortedPayload settings user_id username now))
      = true := by
    simpa [sortedPayload, Json.printable, Json.printablePairs] using hfinite
  have hjson : tokenJson (tokenPayload settings user_id username now) = some bytes := by
    rw [tokenJson, tokenPayload_sorted, Json.dumps, if_pos hprintable, Option.bind_some, hbytes]
  -- one byte a character, so that the length of the text bounds the bytes
  have hsize : bytes.length = (Json.render tokenStyle
      (.obj (sortedPayload settings user_id username now))).length := by
    rw [utf8Encode_length hbytes, hplain.ascii.utf8Size]
  have hpos : 0 < (Json.render tokenStyle
      (.obj (sortedPayload settings user_id username now))).length := by
    simp [Json.render, PyStr.ofString]
  refine ⟨bytes, hjson, ?_, ?_, ?_⟩
  · rintro rfl
    simp only [List.length_nil] at hsize
    omega
  · rw [hsize]
    exact sortedPayload_length hid hlength now
  · have hread := @segmentJson_tokenJson rt _ _ hjson
    rw [tokenPayload_sorted] at hread
    exact hread hsound (sortedPayload_unique user_id username now) hfinite
      (by simp [sortedPayload, Json.depth, Json.depthValues])

/-- The header segment of every token. -/
theorem tokenJson_tokenHeader :
    ∃ bytes, tokenJson tokenHeader = some bytes ∧ bytes ≠ [] ∧ bytes.length ≤ 1000 ∧
      segmentJson rt (b64urlEncode bytes) = some (.obj tokenHeader) := by
  have hsize : (tokenJson tokenHeader).map List.length = some 27 := by
    rw [tokenJson, tokenHeader_sorted]
    decide +kernel
  obtain ⟨bytes, hbytes, hlength⟩ := Option.map_eq_some_iff.mp hsize
  refine ⟨bytes, hbytes, ?_, by omega, ?_⟩
  · rintro rfl
    cases hlength
  · have hread := @segmentJson_tokenJson rt _ _ hbytes
    rw [tokenHeader_sorted] at hread
    refine hread ?_ ?_ (by decide) (by simp [tokenHeader, Json.depth, Json.depthValues])
    · have halg : (PyStr.ofString "HS256").Clean := by decide
      have htyp : (PyStr.ofString "JWT").Clean := by decide
      exact ⟨⟨by decide, halg⟩, ⟨by decide, htyp⟩, trivial⟩
    · exact ⟨by decide, trivial, trivial, trivial⟩

/-- The claims of a new token. -/
def newClaims (settings : AuthSettings) (user_id : Nat) (username : PyStr) (now : Clock) :
    TokenClaims :=
  ⟨sortedPayload settings user_id username now, expiry settings now, user_id, username⟩

/-- They pass every check, where the expiry is a time a `datetime` can hold. -/
theorem readClaims_new {user_id : Nat} (hid : 1 ≤ user_id ∧ user_id ≤ maxPostgresBigint)
    {username : PyStr} (hclean : username.Clean)
    (hlength : 1 ≤ username.length ∧ username.length ≤ 30) (created : Clock) {segment : PyStr}
    (hsegment : segmentJson rt segment =
      some (.obj (sortedPayload settings user_id username created))) :
    readClaims rt segment =
      if expiry settings created ≤ maxUnixTimestamp then
        some (newClaims settings user_id username created)
      else none := by
  have hstructure : (validateJsonStructure
      (.obj (sortedPayload settings user_id username created))).isOk = true :=
    isOk_iff.mpr (validateJsonStructure_ok.mpr ⟨sortedPayload_sound hclean user_id created,
      by simp [sortedPayload, Json.depth, Json.depthValues, maxJsonNestingDepth]⟩)
  have hexp : Dict.get? (sortedPayload settings user_id username created) "exp" =
      some (.int (expiry settings created : Nat)) := by
    simp [sortedPayload, expiry]
  have hsub : Dict.get? (sortedPayload settings user_id username created) "sub" =
      some (.str (natStr user_id)) := by
    simp [sortedPayload]
  have hname : Dict.get? (sortedPayload settings user_id username created) "username" =
      some (.str username) := by
    simp [sortedPayload]
  have hsubject : tokenSubject (.str (natStr user_id)) = some user_id := by
    -- an id of the database has at most 19 digits, far below the limit of `int()`
    have hdigits : isDigits (natStr user_id) = true := by
      simpa [isDigits, natStr_ne_nil user_id] using fun c hc => natStr_isDigit hc
    have hshort : (natStr user_id).length ≤ 4300 := by
      have : (natStr user_id).length ≤ 19 :=
        natStr_length_le (by norm_num) (lt_of_le_of_lt hid.2 (by norm_num [maxPostgresBigint]))
      omega
    rw [tokenSubject, natOfDigits_natStr, if_pos ⟨hdigits, hshort, rfl, hid⟩]
  have husername : tokenUsername (.str username) = some username := by
    rw [tokenUsername, if_pos hlength]
  have hpos : 0 < expiry settings created := by
    have := settings.token_ttl_range.1
    simp only [expiry]
    omega
  simp only [readClaims, hsegment, Option.bind_eq_bind, Option.bind_some, asObject, hstructure,
    guard_true, hexp, hsub, hname, hsubject, husername, expiresAt]
  -- `expiresAt` ends at the last time a `datetime` can hold
  by_cases hmax : expiry settings created ≤ maxUnixTimestamp
  · rw [if_pos hmax, if_pos ⟨by exact_mod_cast hpos, by exact_mod_cast hmax⟩]
    simp [newClaims]
  · have hlarge : ¬ ((expiry settings created : Nat) : Int) ≤ maxUnixTimestamp := by
      exact_mod_cast hmax
    rw [if_neg hmax, if_neg fun h => hlarge h.2]
    rfl

/-- The text of a token, of the bytes of its parts. -/
def tokenText (header payload signature : Bytes) : PyStr :=
  signingInput (b64urlEncode header) (b64urlEncode payload) ++ PyStr.ofString "."
    ++ b64urlEncode signature

theorem tokenText_splitOn (header payload signature : Bytes) :
    (tokenText header payload signature).splitOn (CodePoint.ofChar '.') =
      [b64urlEncode header, b64urlEncode payload, b64urlEncode signature] := by
  have htext : tokenText header payload signature = [CodePoint.ofChar '.'].intercalate
      [b64urlEncode header, b64urlEncode payload, b64urlEncode signature] := by
    have hdot : PyStr.ofString "." = [CodePoint.ofChar '.'] := by decide
    simp [tokenText, signingInput, hdot, List.intercalate]
  rw [htext]
  refine List.splitOn_intercalate _ ?_ (by simp)
  simp only [List.forall_mem_cons, List.not_mem_nil, false_implies, implies_true, and_true]
  exact ⟨not_mem_segment (by decide) _, not_mem_segment (by decide) _,
    not_mem_segment (by decide) _⟩

theorem tokenText_length (header payload signature : Bytes) :
    (tokenText header payload signature).length = (4 * header.length + 2) / 3
      + (4 * payload.length + 2) / 3 + (4 * signature.length + 2) / 3 + 2 := by
  have hdot : (PyStr.ofString ".").length = 1 := by decide
  simp only [tokenText, signingInput, List.length_append, b64urlEncode_length, hdot]
  omega

/-- A token is taken apart again, since no segment is empty or contains a dot. -/
theorem readToken_tokenText {header payload signature : Bytes} (hheader : header ≠ [])
    (hpayload : payload ≠ []) (hsignature : signature.length = 32)
    (hread : segmentJson rt (b64urlEncode header) = some (.obj tokenHeader)) :
    readToken rt (tokenText header payload signature) =
      some ⟨b64urlEncode header, b64urlEncode payload, signature⟩ := by
  have hne : signature ≠ [] := by
    rintro rfl
    cases hsignature
  have hok : headerOk (.obj tokenHeader) = true := by decide +kernel
  simp [readToken, tokenText_splitOn, isSegment_b64urlEncode hheader,
    isSegment_b64urlEncode hpayload, isSegment_b64urlEncode hne, hread, hok,
    b64urlDecode_b64urlEncode, hsignature]

/-- What the next theorems suppose of a user: an id of the database, and a name a token can
carry. -/
structure Signable (user_id : Nat) (username : PyStr) : Prop where
  id : 1 ≤ user_id ∧ user_id ≤ maxPostgresBigint
  clean : username.Clean
  length : 1 ≤ username.length ∧ username.length ≤ 30

theorem signable_operator : Signable 7 (PyStr.ofString "operator") :=
  ⟨by decide, by decide, by decide⟩

theorem expiry_accountClock : expiry accountSettings accountClock = 3601 := by
  decide +kernel

/-- A new token, and how it is decoded at any time. -/
theorem decode_created (crypto : Crypto) (settings : AuthSettings) (rt : Runtime) {key : Bytes}
    (hkey : utf8Encode settings.secret_key = some key) (created : Clock) {user_id : Nat}
    {username : PyStr} (h : Signable user_id username) :
    ∃ token, createAccessToken crypto settings created user_id username = .ok token ∧
      ∀ now, decodeAccessToken crypto settings rt now token =
        if maxUnixTimestamp < expiry settings created then .error invalidAccessToken
        else if expiry settings created ≤ intTime now then
          .error (.httpException 401 "Access token expired")
        else .ok (newClaims settings user_id username created) := by
  obtain ⟨header, hheader, hheaderNe, hheaderLe, hheaderRead⟩ := @tokenJson_tokenHeader rt
  obtain ⟨payload, hpayload, hpayloadNe, hpayloadLe, hpayloadRead⟩ :=
    @tokenJson_tokenPayload settings rt user_id h.id.2 username h.clean h.length.2 created
  have hsignature := crypto.hmac_length key
    (asciiBytes (signingInput (b64urlEncode header) (b64urlEncode payload)))
  refine ⟨tokenText header payload (tokenSignature crypto key (b64urlEncode header)
    (b64urlEncode payload)), ?_, ?_⟩
  · have hid : (1 : Int) ≤ user_id ∧ (user_id : Int) ≤ maxPostgresBigint := by
      exact_mod_cast h.id
    have hvalid : validateJsonStructure (.str username) = .ok () :=
      validateJsonStructure_ok.mpr ⟨h.clean, by simp [Json.depth]⟩
    simp only [createAccessToken, bind_eq_ok, check_eq_ok, require_eq_ok, Int.toNat_natCast]
    exact ⟨(), decide_eq_true hid, (), decide_eq_true h.length, (), hvalid, header, hheader,
      payload, hpayload, by rw [hkey]; rfl⟩
  · intro now
    have hlength := tokenText_length header payload (tokenSignature crypto key
      (b64urlEncode header) (b64urlEncode payload))
    -- the three segments of a token together stay under the limit
    have hsize : ¬ (tokenText header payload (tokenSignature crypto key (b64urlEncode header)
        (b64urlEncode payload)) = [] ∨ maxAccessTokenLength < (tokenText header payload
          (tokenSignature crypto key (b64urlEncode header) (b64urlEncode payload))).length) := by
      rw [tokenSignature] at hlength ⊢
      rw [not_or, not_lt]
      refine ⟨fun hnil => ?_, ?_⟩
      · rw [hnil, List.length_nil] at hlength
        omega
      · simp only [maxAccessTokenLength]
        omega
    rw [decodeAccessToken, if_neg hsize]
    simp only [readToken_tokenText hheaderNe hpayloadNe hsignature hheaderRead, hkey,
      readClaims_new h.id h.clean h.length created hpayloadRead, tokenSignature, ne_eq,
      not_true_eq_false, if_false]
    -- an expiry that no `datetime` holds leaves no claims: the token is invalid
    by_cases hmax : expiry settings created ≤ maxUnixTimestamp
    · rw [if_pos hmax, if_neg (not_lt.mpr hmax)]
      rfl
    · rw [if_neg hmax, if_pos (not_le.mp hmax)]

/-! ### What an accepted token says

The other direction starts from any text: each step of the decoder is inverted, and together they
say how an accepted token is made. -/

/-- The token is signed under the key, and its payload claims what the service returns. -/
structure Authentic (crypto : Crypto) (key : Bytes) (rt : Runtime) (token : PyStr)
    (claims : TokenClaims) : Prop where
  signed : ∃ header_segment payload_segment signature_segment header,
    token = header_segment ++ PyStr.ofString "." ++ payload_segment ++ PyStr.ofString "."
      ++ signature_segment ∧
    isSegment header_segment = true ∧ isSegment payload_segment = true ∧
    isSegment signature_segment = true ∧
    segmentJson rt header_segment = some header ∧ headerOk header = true ∧
    b64urlDecode signature_segment
      = some (tokenSignature crypto key header_segment payload_segment) ∧
    segmentJson rt payload_segment = some (.obj claims.payload)
  structured : validateJsonStructure (.obj claims.payload) = .ok ()
  exp : Dict.get? claims.payload "exp" = some (.int claims.expires_at)
  exp_range : 0 < claims.expires_at ∧ claims.expires_at ≤ maxUnixTimestamp
  sub : Dict.get? claims.payload "sub" = some (.str (natStr claims.user_id))
  sub_range : 1 ≤ claims.user_id ∧ claims.user_id ≤ maxPostgresBigint
  username : Dict.get? claims.payload "username" = some (.str claims.username)
  username_length : 1 ≤ claims.username.length ∧ claims.username.length ≤ 30

theorem not_dot_mem_of_isSegment {segment : PyStr} (h : isSegment segment = true) :
    CodePoint.ofChar '.' ∉ segment := by
  intro hmem
  simp only [isSegment, Bool.and_eq_true, List.all_eq_true] at h
  exact absurd (h.2 _ hmem) (by decide)

theorem readToken_eq_some {token : PyStr} {signed : SignedToken} :
    readToken rt token = some signed ↔ ∃ signature_segment header,
      token = signed.header_segment ++ PyStr.ofString "." ++ signed.payload_segment
        ++ PyStr.ofString "." ++ signature_segment ∧
      isSegment signed.header_segment = true ∧ isSegment signed.payload_segment = true ∧
      isSegment signature_segment = true ∧ segmentJson rt signed.header_segment = some header ∧
      headerOk header = true ∧ b64urlDecode signature_segment = some signed.signature ∧
      signed.signature.length = 32 := by
  have hdot : PyStr.ofString "." = [CodePoint.ofChar '.'] := by decide
  have hjoin : ∀ a b c : PyStr, [CodePoint.ofChar '.'].intercalate [a, b, c] =
      a ++ PyStr.ofString "." ++ b ++ PyStr.ofString "." ++ c := by
    intro a b c
    simp [hdot, List.intercalate]
  constructor
  · intro h
    unfold readToken at h
    split at h
    · rename_i header_segment payload_segment signature_segment hsplit
      simp only [Option.bind_eq_bind, Option.bind_eq_some_iff, Option.guard_eq_some',
        exists_const] at h
      obtain ⟨⟨hh, hp, hs⟩, header, hheader, hok, signature, hsignature, hlength, hret⟩ := h
      obtain rfl := Option.some.inj hret
      refine ⟨signature_segment, header, ?_, hh, hp, hs, hheader, hok, hsignature, hlength⟩
      rw [← hjoin, ← hsplit, List.intercalate_splitOn]
    · cases h
  · rintro ⟨signature_segment, header, rfl, hh, hp, hs, hheader, hok, hsignature, hlength⟩
    -- no segment has a dot, so that the split finds the three that were joined
    have hsplit : (signed.header_segment ++ PyStr.ofString "." ++ signed.payload_segment
        ++ PyStr.ofString "." ++ signature_segment).splitOn (CodePoint.ofChar '.') =
          [signed.header_segment, signed.payload_segment, signature_segment] := by
      rw [← hjoin]
      refine List.splitOn_intercalate _ ?_ (by simp)
      simp only [List.forall_mem_cons, List.not_mem_nil, false_implies, implies_true, and_true]
      exact ⟨not_dot_mem_of_isSegment hh, not_dot_mem_of_isSegment hp,
        not_dot_mem_of_isSegment hs⟩
    simp only [readToken, hsplit]
    simp [hh, hp, hs, hheader, hok, hsignature, hlength]

theorem tokenSubject_eq_some {v : Json} {n : Nat} :
    tokenSubject v = some n ↔ v = .str (natStr n) ∧ 1 ≤ n ∧ n ≤ maxPostgresBigint := by
  cases v with
  | str subject =>
      simp only [tokenSubject, Option.ite_none_right_eq_some, Option.some.injEq, Json.str.injEq]
      constructor
      · rintro ⟨⟨-, -, hself, hrange⟩, rfl⟩
        exact ⟨hself, hrange⟩
      · rintro ⟨rfl, hrange⟩
        have hdigits : isDigits (natStr n) = true := by
          simpa [isDigits, natStr_ne_nil n] using fun c hc => natStr_isDigit hc
        have hshort : (natStr n).length ≤ 19 :=
          natStr_length_le (by norm_num) (lt_of_le_of_lt hrange.2 (by norm_num [maxPostgresBigint]))
        rw [natOfDigits_natStr]
        exact ⟨⟨hdigits, by omega, rfl, hrange⟩, rfl⟩
  | _ => simp [tokenSubject]

theorem expiresAt_eq_some {v : Json} {n : Nat} :
    expiresAt v = some n ↔ v = .int n ∧ 0 < n ∧ n ≤ maxUnixTimestamp := by
  cases v with
  | int z =>
      simp only [expiresAt, Option.ite_none_right_eq_some, Option.some.injEq, Json.int.injEq]
      omega
  | _ => simp [expiresAt]

theorem tokenUsername_eq_some {v : Json} {s : PyStr} :
    tokenUsername v = some s ↔ v = .str s ∧ 1 ≤ s.length ∧ s.length ≤ 30 := by
  cases v with
  | str username =>
      simp only [tokenUsername, Option.ite_none_right_eq_some, Option.some.injEq, Json.str.injEq]
      constructor
      · rintro ⟨hlength, rfl⟩
        exact ⟨rfl, hlength⟩
      · rintro ⟨rfl, hlength⟩
        exact ⟨hlength, rfl⟩
  | _ => simp [tokenUsername]

theorem readClaims_eq_some {segment : PyStr} {claims : TokenClaims} :
    readClaims rt segment = some claims ↔
      segmentJson rt segment = some (.obj claims.payload) ∧
      validateJsonStructure (.obj claims.payload) = .ok () ∧
      (Dict.get? claims.payload "exp" = some (.int claims.expires_at) ∧
        0 < claims.expires_at ∧ claims.expires_at ≤ maxUnixTimestamp) ∧
      (Dict.get? claims.payload "sub" = some (.str (natStr claims.user_id)) ∧
        1 ≤ claims.user_id ∧ claims.user_id ≤ maxPostgresBigint) ∧
      Dict.get? claims.payload "username" = some (.str claims.username) ∧
        1 ≤ claims.username.length ∧ claims.username.length ≤ 30 := by
  simp only [readClaims, Option.bind_eq_bind, Option.bind_eq_some_iff, Option.guard_eq_some',
    exists_const, asObject_eq_some, isOk_iff, expiresAt_eq_some, tokenSubject_eq_some,
    tokenUsername_eq_some]
  constructor
  · rintro ⟨payload, ⟨v, hv, rfl⟩, hstructured, e, ⟨ve, hve, rfl, he⟩, i, ⟨vi, hvi, rfl, hi⟩, u,
      ⟨vu, hvu, rfl, hu⟩, hret⟩
    obtain rfl := Option.some.inj hret
    exact ⟨hv, hstructured, ⟨hve, he⟩, ⟨hvi, hi⟩, hvu, hu⟩
  · rintro ⟨hv, hstructured, ⟨hve, he⟩, ⟨hvi, hi⟩, hvu, hu⟩
    exact ⟨_, ⟨_, hv, rfl⟩, hstructured, _, ⟨_, hve, rfl, he⟩, _, ⟨_, hvi, rfl, hi⟩, _,
      ⟨_, hvu, rfl, hu⟩, rfl⟩

/-- **What an access token is.** Under a secret that can be encoded, the tokens the service
accepts are exactly those of at most 4096 characters that are signed under it, claim an expiry
in the future, an id of the database in its only spelling and a name; whatever else is
presented is answered with a 401.

Both directions take the four steps of the function one after the other: the length, the three
segments (`readToken_eq_some`), the signature, the claims (`readClaims_eq_some`). -/
theorem decodeAccessToken_authentic (crypto : Crypto) (settings : AuthSettings) (rt : Runtime)
    {key : Bytes} (hkey : utf8Encode settings.secret_key = some key) (now : Clock) (token : PyStr) :
    (∀ claims, decodeAccessToken crypto settings rt now token = .ok claims ↔
      token.length ≤ maxAccessTokenLength ∧ Authentic crypto key rt token claims ∧
        intTime now < claims.expires_at) ∧
    ∀ e, decodeAccessToken crypto settings rt now token = .error e →
      ∃ detail, e = .httpException 401 detail := by
  constructor
  · intro claims
    constructor
    · -- what a token passed on its way to its claims
      intro h
      unfold decodeAccessToken at h
      split_ifs at h with hlength
      rw [not_or, not_lt] at hlength
      split at h
      · cases h
      · rename_i signed hsigned
        rw [hkey] at h
        dsimp only at h
        split_ifs at h with hsignature
        split at h
        · cases h
        · rename_i read hread
          split_ifs at h with hexpired
          obtain rfl := Except.ok.inj h
          rw [ne_eq, not_not] at hsignature
          obtain ⟨signature_segment, header, htoken, hh, hp, hs, hheader, hok, hdecode, -⟩ :=
            readToken_eq_some.mp hsigned
          obtain ⟨hpayload, hstructured, ⟨he, her⟩, ⟨hi, hir⟩, hu, hur⟩ :=
            readClaims_eq_some.mp hread
          exact ⟨hlength.2, ⟨⟨_, _, signature_segment, header, htoken, hh, hp, hs, hheader, hok,
            by rw [hdecode, hsignature], hpayload⟩, hstructured, he, her, hi, hir, hu, hur⟩,
            not_le.mp hexpired⟩
    · -- and back: an authentic token passes every step
      rintro ⟨hlength, hauthentic, halive⟩
      obtain ⟨header_segment, payload_segment, signature_segment, header, htoken, hh, hp, hs,
        hheader, hok, hdecode, hpayload⟩ := hauthentic.signed
      have hne : token ≠ [] := by
        rw [htoken]
        simp [PyStr.ofString]
      have hread : readToken rt token = some ⟨header_segment, payload_segment,
          tokenSignature crypto key header_segment payload_segment⟩ :=
        readToken_eq_some.mpr ⟨signature_segment, header, htoken, hh, hp, hs, hheader, hok,
          hdecode, crypto.hmac_length _ _⟩
      have hclaims : readClaims rt payload_segment = some claims :=
        readClaims_eq_some.mpr ⟨hpayload, hauthentic.structured,
          ⟨hauthentic.exp, hauthentic.exp_range⟩, ⟨hauthentic.sub, hauthentic.sub_range⟩,
          hauthentic.username, hauthentic.username_length⟩
      rw [decodeAccessToken, if_neg (not_or.mpr ⟨hne, not_lt.mpr hlength⟩)]
      simp only [hread, hkey, hclaims, ne_eq, not_true_eq_false, if_false,
        if_neg (not_le.mpr halive)]
  · -- every way out of the function is a 401
    intro e h
    unfold decodeAccessToken at h
    -- too long or empty
    split_ifs at h with hlength
    · exact ⟨_, (Except.error.inj h).symm⟩
    split at h
    · exact ⟨_, (Except.error.inj h).symm⟩
    · rw [hkey] at h
      dsimp only at h
      split_ifs at h with hsignature
      · exact ⟨_, (Except.error.inj h).symm⟩
      split at h
      · exact ⟨_, (Except.error.inj h).symm⟩
      · split_ifs at h with hexpired
        exact ⟨_, (Except.error.inj h).symm⟩

/-- A token of the concrete service is signed by it, and claims what it was made of. -/
theorem decodeAccessToken_authentic_sample :
    ∃ token, Authentic accountCrypto (accountSettings.secret_key.flatMap utf8Char) .sample token
      (newClaims accountSettings 7 "operator" accountClock) := by
  obtain ⟨token, -, hdecode⟩ := decode_created accountCrypto accountSettings .sample
    accountSettings_key accountClock signable_operator
  have hok : decodeAccessToken accountCrypto accountSettings .sample accountClock token =
      .ok (newClaims accountSettings 7 "operator" accountClock) := by
    have htime : intTime accountClock = 1 := by decide +kernel
    rw [hdecode accountClock, expiry_accountClock, htime]
    rfl
  exact ⟨token, ((decodeAccessToken_authentic accountCrypto accountSettings .sample
    accountSettings_key accountClock token).1 _).mp hok |>.2.1⟩

/-- **A new token is a session of its user.** `create_access_token` succeeds, and
`get_current_user` gives the id and the name back from its token, at every time before the
expiry and at none from then on; an expiry that no `datetime` holds makes the token useless.

The token is decoded to the claims it was made from as long as they are alive (`decode_created`):
its three segments come apart at the dots, and its signature is its own. -/
theorem getCurrentUser_created (crypto : Crypto) (settings : AuthSettings) (rt : Runtime)
    {key : Bytes} (hkey : utf8Encode settings.secret_key = some key) (created : Clock)
    {user_id : Nat} {username : PyStr} (h : Signable user_id username) {scheme : PyStr}
    (hscheme : scheme.map lowerAscii = PyStr.ofString "bearer") :
    ∃ token, createAccessToken crypto settings created user_id username = .ok token ∧
      ∀ now, getCurrentUser crypto settings rt now (some ⟨scheme, token⟩) =
        if maxUnixTimestamp < expiry settings created then .error invalidAccessToken
        else if expiry settings created ≤ intTime now then
          .error (.httpException 401 "Access token expired")
        else .ok ⟨user_id, username⟩ := by
  obtain ⟨token, htoken, hdecode⟩ := decode_created crypto settings rt hkey created h
  refine ⟨token, htoken, fun now => ?_⟩
  simp only [getCurrentUser, hscheme, ne_eq, not_true_eq_false, if_false, hdecode now]
  split_ifs <;> rfl

/-- A minute later the session is open. -/
theorem getCurrentUser_created_sample :
    ∃ token, createAccessToken accountCrypto accountSettings accountClock 7 "operator"
        = .ok token ∧
      getCurrentUser accountCrypto accountSettings .sample laterClock
        (some ⟨"Bearer", token⟩) = .ok ⟨7, "operator"⟩ := by
  have hscheme : (PyStr.ofString "Bearer").map lowerAscii = PyStr.ofString "bearer" := by decide
  obtain ⟨token, htoken, huser⟩ := getCurrentUser_created accountCrypto accountSettings .sample
    accountSettings_key accountClock signable_operator hscheme
  refine ⟨token, htoken, ?_⟩
  have htime : intTime laterClock = 61 := by decide +kernel
  rw [huser, expiry_accountClock, htime]
  rfl

end Tokens

/-! ### Accounts

Every step adds a row or a session, and the accounts stay sound. Logins are then a computation
with the row that the name finds. -/

/-- An account, with the password and the salt its hash was made of. -/
structure SignUp where
  id : Nat
  username : PyStr
  password : PyStr
  salt : Bytes

/-- A login that was answered with a token. -/
structure Session where
  token : PyStr
  user : CurrentUser
  created : Clock

/-- The rows of the accounts, with the sign-ups and the logins so far. -/
structure Accounts where
  users : List UserRow
  signUps : List SignUp
  sessions : List Session

section Accounts

variable (crypto : Crypto) (settings : AuthSettings) (table : CharTable)

/-- A request that succeeds; a refused one changes nothing. The sequence gives no id twice. -/
inductive AccountStep : Accounts → Accounts → Prop
  | created {s : Accounts} (payload : AccountRequest) {salt : Bytes} (hsalt : salt.length = 16)
      {id : Nat} (hid : 1 ≤ id ∧ id ≤ maxPostgresBigint) (hfresh : ∀ row ∈ s.users, row.id ≠ id)
      {users : List UserRow} {user : CurrentUser}
      (h : createUser crypto settings salt s.users id payload = .ok (users, user)) :
      AccountStep s
        ⟨users, s.signUps ++ [⟨id, payload.username.text, payload.password.text, salt⟩],
          s.sessions⟩
  | loggedIn {s : Accounts} (payload : AccountRequest) (now : Clock) {token : PyStr}
      {user : CurrentUser}
      (h : login crypto settings table now (findUser s.users payload.username.text) payload =
        .ok (token, user)) :
      AccountStep s ⟨s.users, s.signUps, s.sessions ++ [⟨token, user, now⟩]⟩

/-- The states of a service that started without accounts. -/
def AccountRun (s : Accounts) : Prop :=
  Relation.ReflTransGen (AccountStep crypto settings table) ⟨[], [], []⟩ s

/-- The digest that a password gets under the salt of a sign-up. -/
def SignUp.digest (signUp : SignUp) (password : PyStr) : Bytes :=
  crypto.pbkdf2 (password.flatMap utf8Char) signUp.salt settings.password_iterations

/-- The row of a sign-up. -/
def SignUp.row (signUp : SignUp) : UserRow :=
  ⟨signUp.id, signUp.username, some (passwordHashText settings signUp.salt
    (signUp.digest crypto settings signUp.password))⟩

/-- What every run keeps of its accounts. The rows are those of the sign-ups, with distinct ids
and names and a full salt each, and the token of every session was created for one of the rows. -/
structure Accounts.Sound (s : Accounts) : Prop where
  rows : s.users = s.signUps.map (SignUp.row crypto settings)
  signable : ∀ signUp ∈ s.signUps, Signable signUp.id signUp.username
  salts : ∀ signUp ∈ s.signUps, signUp.salt.length = 16
  ids : (s.users.map (·.id)).Nodup
  usernames : (s.users.map (·.username)).Nodup
  sessions : ∀ session ∈ s.sessions,
    (∃ row ∈ s.users, session.user = ⟨row.id, row.username⟩) ∧
      createAccessToken crypto settings session.created session.user.id session.user.username
        = .ok session.token

theorem nodup_append_singleton {β : Type} {l : List β} {b : β} (h : l.Nodup) (hb : b ∉ l) :
    (l ++ [b]).Nodup :=
  List.nodup_append.mpr ⟨h, List.nodup_singleton b, fun a ha c hc heq => by
    rw [List.mem_singleton] at hc
    exact hb (hc ▸ heq ▸ ha)⟩

variable {crypto settings table}

theorem hashPassword_eq {salt : Bytes} {password stored : PyStr} (hclean : password.Clean)
    (h : hashPassword crypto settings salt password = .ok stored) :
    stored = passwordHashText settings salt
      (crypto.pbkdf2 (password.flatMap utf8Char) salt settings.password_iterations) := by
  obtain ⟨-, -, hstored⟩ := bind_eq_ok.mp h
  rw [utf8Encode_clean hclean] at hstored
  exact (Except.ok.inj hstored).symm

/-- A sign-up adds the row of its account, under a name that was free. -/
theorem createUser_eq_ok {salt : Bytes} {users users' : List UserRow} {id : Nat}
    {payload : AccountRequest} {user : CurrentUser}
    (h : createUser crypto settings salt users id payload = .ok (users', user)) :
    (∀ row ∈ users, row.username ≠ payload.username.text) ∧
      users' = users ++ [SignUp.row crypto settings
        ⟨id, payload.username.text, payload.password.text, salt⟩] := by
  unfold createUser at h
  split at h
  · cases h
  · rename_i stored hstored
    split at h
    · cases h
    · rename_i inserted hinserted
      obtain ⟨rfl, -⟩ := Prod.mk.inj (Except.ok.inj h)
      unfold insertUser at hinserted
      split_ifs at hinserted with hany
      refine ⟨fun row hrow heq => hany (List.any_eq_true.mpr ⟨row, hrow, decide_eq_true heq⟩), ?_⟩
      rw [← Option.some.inj hinserted, SignUp.row, SignUp.digest,
        ← hashPassword_eq payload.password.clean hstored]

theorem findUser_eq_some {users : List UserRow} {username : PyStr} {row : UserRow}
    (h : findUser users username = some row) : row ∈ users ∧ row.username = username :=
  ⟨List.mem_of_find?_eq_some h, by simpa using List.find?_some h⟩

/-- A login is answered for the row of the name, with a token of its account. -/
theorem login_eq_ok {now : Clock} {users : List UserRow} {payload : AccountRequest}
    {token : PyStr} {user : CurrentUser}
    (h : login crypto settings table now (findUser users payload.username.text) payload =
      .ok (token, user)) :
    (∃ row ∈ users, user = ⟨row.id, row.username⟩) ∧
      createAccessToken crypto settings now user.id user.username = .ok token := by
  unfold login at h
  split at h
  · cases h
  · rename_i authenticated hauthenticated
    split at h
    · cases h
    · rename_i access_token htoken
      obtain ⟨rfl, rfl⟩ := Prod.mk.inj (Except.ok.inj h)
      refine ⟨?_, htoken⟩
      simp only [authenticateUser] at hauthenticated
      split at hauthenticated
      · rename_i row hrow
        split_ifs at hauthenticated with hvalid
        exact ⟨row, (findUser_eq_some hrow).1, (Option.some.inj hauthenticated).symm⟩
      · cases hauthenticated

theorem AccountStep.sound {s s' : Accounts} (h : AccountStep crypto settings table s s')
    (hs : s.Sound crypto settings) : s'.Sound crypto settings := by
  cases h with
  | created payload hsalt hid hfresh hcreate =>
      obtain ⟨hfree, rfl⟩ := createUser_eq_ok hcreate
      -- a new row: the id and the name are free, and the salt is a new one
      have hname := payload.username.length
      constructor
      · rw [hs.rows, List.map_append, List.map_singleton]
      · intro signUp hmem
        rcases List.mem_append.mp hmem with hold | hnew
        · exact hs.signable signUp hold
        · rw [List.mem_singleton.mp hnew]
          exact ⟨hid, payload.username.clean, le_trans (by decide) hname.1, hname.2⟩
      · intro signUp hmem
        rcases List.mem_append.mp hmem with hold | hnew
        · exact hs.salts signUp hold
        · rw [List.mem_singleton.mp hnew]
          exact hsalt
      · rw [List.map_append, List.map_singleton]
        refine nodup_append_singleton hs.ids fun hmem => ?_
        obtain ⟨row, hrow, heq⟩ := List.mem_map.mp hmem
        exact hfresh row hrow heq
      · rw [List.map_append, List.map_singleton]
        refine nodup_append_singleton hs.usernames fun hmem => ?_
        obtain ⟨row, hrow, heq⟩ := List.mem_map.mp hmem
        exact hfree row hrow heq
      · intro session hsession
        obtain ⟨⟨row, hrow, huser⟩, htoken⟩ := hs.sessions session hsession
        exact ⟨⟨row, List.mem_append_left _ hrow, huser⟩, htoken⟩
  | loggedIn payload now hlogin =>
      -- a login adds a session and no row
      refine ⟨hs.rows, hs.signable, hs.salts, hs.ids, hs.usernames, fun session hsession => ?_⟩
      rcases List.mem_append.mp hsession with hold | hnew
      · exact hs.sessions session hold
      · rw [List.mem_singleton.mp hnew]
        exact login_eq_ok hlogin

theorem AccountRun.sound {s : Accounts} (h : AccountRun crypto settings table s) :
    s.Sound crypto settings := by
  induction h with
  | refl =>
      exact ⟨rfl, by simp, by simp, List.nodup_nil, List.nodup_nil, by simp⟩
  | tail _ hstep ih => exact hstep.sound ih

/-- The query by name finds the row of the account. -/
theorem Accounts.Sound.findUser {s : Accounts} (hs : s.Sound crypto settings) {signUp : SignUp}
    (h : signUp ∈ s.signUps) :
    Portfolio.findUser s.users signUp.username = some (signUp.row crypto settings) := by
  have hmem : signUp.row crypto settings ∈ s.users := by
    rw [hs.rows]
    exact List.mem_map_of_mem h
  cases hfind : Portfolio.findUser s.users signUp.username with
  | none =>
      have := List.find?_eq_none.mp hfind _ hmem
      simp [SignUp.row] at this
  | some row =>
      obtain ⟨hrow, hname⟩ := findUser_eq_some hfind
      rw [List.inj_on_of_nodup_map hs.usernames hrow hmem hname]

theorem Accounts.Sound.findUser_eq_none {s : Accounts} (hs : s.Sound crypto settings)
    {username : PyStr} (h : ∀ signUp ∈ s.signUps, signUp.username ≠ username) :
    Portfolio.findUser s.users username = none := by
  refine List.find?_eq_none.mpr fun row hrow hname => ?_
  rw [hs.rows] at hrow
  obtain ⟨signUp, hmem, rfl⟩ := List.mem_map.mp hrow
  exact h signUp hmem (of_decide_eq_true hname)

/-- The password of a request is verified by the hash of an account where the digests agree. -/
theorem verifyPassword_row {signUp : SignUp} (hsalt : signUp.salt.length = 16)
    (payload : AccountRequest) :
    verifyPassword crypto table payload.password.text (signUp.row crypto settings).password_hash =
      decide (signUp.digest crypto settings payload.password.text =
        signUp.digest crypto settings signUp.password) := by
  have hclean := payload.password.clean
  simp only [verifyPassword, SignUp.row, SignUp.digest, derivation_passwordHashText settings table
    hsalt (crypto.pbkdf2_length _ _ _), if_pos hclean, utf8Encode_clean hclean, Option.map_some]
  exact decide_eq_decide.mpr Iff.rfl

/-- A login of an account that exists. It is decided by the two digests, which are made with the
salt of the account and the parameters of the settings. -/
theorem login_signUp (rt : Runtime) {key : Bytes}
    (hkey : utf8Encode settings.secret_key = some key) {s : Accounts}
    (hs : s.Sound crypto settings) {signUp : SignUp} (h : signUp ∈ s.signUps)
    {payload : AccountRequest} (hname : signUp.username = payload.username.text) (now : Clock) :
    ∃ token, createAccessToken crypto settings now signUp.id signUp.username = .ok token ∧
      login crypto settings table now (findUser s.users payload.username.text) payload =
        if signUp.digest crypto settings payload.password.text =
            signUp.digest crypto settings signUp.password then
          .ok (token, ⟨signUp.id, signUp.username⟩)
        else .error (.httpException 401 "Invalid username or password") := by
  obtain ⟨token, htoken, -⟩ :=
    decode_created crypto settings rt hkey now (hs.signable signUp h)
  refine ⟨token, htoken, ?_⟩
  rw [← hname, hs.findUser h]
  simp only [login, authenticateUser, storedHash,
    verifyPassword_row (hs.salts signUp h) payload, decide_eq_true_eq]
  by_cases hdigest : signUp.digest crypto settings payload.password.text =
      signUp.digest crypto settings signUp.password
  · simp only [hdigest, if_true, SignUp.row, htoken]
  · simp only [hdigest, if_false]

theorem hashPassword_request (salt : Bytes) (payload : AccountRequest) :
    hashPassword crypto settings salt payload.password.text =
      .ok (passwordHashText settings salt (crypto.pbkdf2
        (payload.password.text.flatMap utf8Char) salt settings.password_iterations)) := by
  rw [hashPassword, payload.password.scalar, utf8Encode_clean payload.password.clean]
  rfl

/-- A sign-up under a free name. -/
theorem createUser_free {salt : Bytes} {users : List UserRow} {id : Nat}
    {payload : AccountRequest} (h : ∀ row ∈ users, row.username ≠ payload.username.text) :
    createUser crypto settings salt users id payload =
      .ok (users ++ [SignUp.row crypto settings
        ⟨id, payload.username.text, payload.password.text, salt⟩],
        ⟨id, payload.username.text⟩) := by
  have hfree : users.any (fun row => row.username = payload.username.text) = false := by
    simpa using h
  simp only [createUser, hashPassword_request, insertUser, hfree, Bool.false_eq_true, if_false,
    SignUp.row, SignUp.digest]

/-- And under a name that is taken. -/
theorem createUser_taken {salt : Bytes} {users : List UserRow} {id : Nat}
    {payload : AccountRequest} {row : UserRow} (hrow : row ∈ users)
    (h : row.username = payload.username.text) :
    createUser crypto settings salt users id payload =
      .error (.httpException 409 "Username already exists") := by
  have htaken : users.any (fun row => row.username = payload.username.text) = true :=
    List.any_eq_true.mpr ⟨row, hrow, decide_eq_true h⟩
  simp only [createUser, hashPassword_request, insertUser, htaken, if_true]

end Accounts

end Sessions

open Sessions

/-- What the accounts of a service answer for. -/
structure Sessions.Accounts.Served (crypto : Crypto) (settings : AuthSettings)
    (table : CharTable) (rt : Runtime) (s : Accounts) : Prop where
  /-- An id or a name is that of one account. -/
  distinct : (s.users.map (·.id)).Nodup ∧ (s.users.map (·.username)).Nodup
  /-- The name of an account is taken. -/
  taken : ∀ signUp ∈ s.signUps, ∀ payload : AccountRequest,
    signUp.username = payload.username.text → ∀ salt id,
      createUser crypto settings salt s.users id payload =
        .error (.httpException 409 "Username already exists")
  /-- It logs in with the passwords of the digest it signed up with. -/
  known : ∀ signUp ∈ s.signUps, ∀ payload : AccountRequest,
    signUp.username = payload.username.text → ∀ now, ∃ token,
      createAccessToken crypto settings now signUp.id signUp.username = .ok token ∧
      login crypto settings table now (findUser s.users payload.username.text) payload =
        if signUp.digest crypto settings payload.password.text =
            signUp.digest crypto settings signUp.password then
          .ok (token, ⟨signUp.id, signUp.username⟩)
        else .error (.httpException 401 "Invalid username or password")
  /-- Nobody logs in under another name. -/
  unknown : ∀ payload : AccountRequest,
    (∀ signUp ∈ s.signUps, signUp.username ≠ payload.username.text) → ∀ now,
      login crypto settings table now (findUser s.users payload.username.text) payload =
        .error (.httpException 401 "Invalid username or password")
  /-- A token is a session of one account until it expires, and of no other at any time. -/
  sessions : ∀ session ∈ s.sessions, ∃ signUp ∈ s.signUps,
    session.user = ⟨signUp.id, signUp.username⟩ ∧ ∀ scheme now,
      scheme.map lowerAscii = PyStr.ofString "bearer" →
      getCurrentUser crypto settings rt now (some ⟨scheme, session.token⟩) =
        if maxUnixTimestamp < expiry settings session.created then .error invalidAccessToken
        else if expiry settings session.created ≤ intTime now then
          .error (.httpException 401 "Access token expired")
        else .ok session.user

/-- **Accounts keep their owners.** After any sign-ups and logins, in any order, every account
is reached by its own name and password and by no other, and every token that was handed out
stands for the account that logged in.

The invariant is `Sound` (`AccountRun.sound`): the rows of the table are those of the sign-ups,
with distinct ids and names, and each session has the token of a row. The clauses are then about
one request to a sound state. -/
theorem accountRun_served (crypto : Crypto) (settings : AuthSettings) (table : CharTable)
    (rt : Runtime) {key : Bytes} (hkey : utf8Encode settings.secret_key = some key) {s : Accounts}
    (h : AccountRun crypto settings table s) : s.Served crypto settings table rt := by
  have hs := h.sound
  constructor
  · exact ⟨hs.ids, hs.usernames⟩
  · intro signUp hsignUp payload hname salt id
    have hrow : signUp.row crypto settings ∈ s.users := by
      rw [hs.rows]
      exact List.mem_map_of_mem hsignUp
    exact createUser_taken hrow hname
  · intro signUp hsignUp payload hname now
    exact login_signUp rt hkey hs hsignUp hname now
  · intro payload hunknown now
    rw [hs.findUser_eq_none hunknown]
    rfl
  · intro session hsession
    obtain ⟨⟨row, hrow, huser⟩, htoken⟩ := hs.sessions session hsession
    rw [hs.rows] at hrow
    obtain ⟨signUp, hsignUp, rfl⟩ := List.mem_map.mp hrow
    refine ⟨signUp, hsignUp, huser, fun scheme now hscheme => ?_⟩
    rw [huser] at htoken ⊢
    obtain ⟨token, hcreated, hdecode⟩ :=
      decode_created crypto settings rt hkey session.created (hs.signable signUp hsignUp)
    obtain rfl : session.token = token := Except.ok.inj (htoken.symm.trans hcreated)
    simp only [getCurrentUser, hscheme, ne_eq, not_true_eq_false, if_false, hdecode now]
    split_ifs <;> rfl

/-- A login of an account with the password it signed up with, at any time. -/
theorem Sessions.AccountRun.login {s : Accounts} {signUp : SignUp}
    (h : AccountRun accountCrypto accountSettings accountTable s) (payload : AccountRequest)
    (hsignUp : signUp ∈ s.signUps)
    (hname : signUp.username = payload.username.text)
    (hpassword : signUp.password = payload.password.text) (now : Clock) :
    ∃ session : Session, session.user = ⟨signUp.id, signUp.username⟩ ∧ session.created = now ∧
      AccountRun accountCrypto accountSettings accountTable
        ⟨s.users, s.signUps, s.sessions ++ [session]⟩ := by
  obtain ⟨token, -, hlogin⟩ := @login_signUp _ _ accountTable .sample _ accountSettings_key _
    h.sound _ hsignUp payload hname now
  rw [if_pos (by rw [hpassword])] at hlogin
  exact ⟨⟨token, ⟨signUp.id, signUp.username⟩, now⟩, rfl, rfl,
    h.tail (AccountStep.loggedIn payload now hlogin)⟩

/-- Two accounts, which both logged in. -/
theorem Sessions.exists_session :
    ∃ s, AccountRun accountCrypto accountSettings accountTable s ∧
      s.signUps = [⟨7, accountPayload.username.text, accountPayload.password.text, accountSalt 1⟩,
        ⟨8, observerPayload.username.text, observerPayload.password.text, accountSalt 17⟩] ∧
      s.sessions.map (·.user) = [⟨7, accountPayload.username.text⟩,
        ⟨8, observerPayload.username.text⟩] := by
  have hfirst : AccountRun accountCrypto accountSettings accountTable _ :=
    Relation.ReflTransGen.single (AccountStep.created accountPayload (length_accountSalt 1)
      (⟨by decide, by decide⟩ : 1 ≤ 7 ∧ 7 ≤ maxPostgresBigint) (by simp)
      (createUser_free (by simp)))
  have hboth : AccountRun accountCrypto accountSettings accountTable _ :=
    hfirst.tail (AccountStep.created observerPayload (length_accountSalt 17)
      (⟨by decide, by decide⟩ : 1 ≤ 8 ∧ 8 ≤ maxPostgresBigint)
      (by simp [SignUp.row]) (createUser_free (by simp [SignUp.row]; decide)))
  obtain ⟨operator, huser, -, hlogged⟩ := hboth.login accountPayload
    List.mem_cons_self rfl rfl accountClock
  obtain ⟨observer, huser', -, hrun⟩ := hlogged.login observerPayload
    (List.mem_cons_of_mem _ List.mem_cons_self) rfl rfl laterClock
  exact ⟨_, hrun, rfl, by simp [huser, huser']⟩

theorem accountRun_served_sample :
    ∃ s : Accounts, s.sessions.map (·.user) = [⟨7, accountPayload.username.text⟩,
        ⟨8, observerPayload.username.text⟩] ∧
      s.Served accountCrypto accountSettings accountTable .sample := by
  obtain ⟨s, hrun, -, hsessions⟩ := exists_session
  exact ⟨s, hsessions, accountRun_served accountCrypto accountSettings accountTable .sample
    accountSettings_key hrun⟩

/-- **Every login costs the same**: one derivation, with the configured iterations and a salt of
16 bytes, whether the name exists, and whatever the password.

The hash is that of the account, or the dummy hash of the source, which is read once here
(`dummyPasswordHash_derivation`). -/
theorem login_derivation (crypto : Crypto) (settings : AuthSettings) (table : CharTable)
    {s : Accounts} (h : AccountRun crypto settings table s) (payload : AccountRequest) :
    ∃ salt expected, salt.length = 16 ∧
      derivation table payload.password.text
          (storedHash crypto settings (findUser s.users payload.username.text)) =
        some (payload.password.text.flatMap utf8Char,
          ⟨settings.password_iterations, salt, expected⟩) := by
  have hs := h.sound
  have hclean := payload.password.clean
  by_cases hknown : ∃ signUp ∈ s.signUps, signUp.username = payload.username.text
  · obtain ⟨signUp, hsignUp, hname⟩ := hknown
    rw [← hname, hs.findUser hsignUp]
    refine ⟨signUp.salt, signUp.digest crypto settings signUp.password,
      hs.salts signUp hsignUp, ?_⟩
    rw [storedHash, SignUp.row, SignUp.digest, derivation_passwordHashText settings table
      (hs.salts signUp hsignUp) (crypto.pbkdf2_length _ _ _), if_pos hclean,
      utf8Encode_clean hclean]
    rfl
  · rw [hs.findUser_eq_none fun signUp hsignUp hname => hknown ⟨signUp, hsignUp, hname⟩]
    refine ⟨asciiBytes "portfolio-dummy!", crypto.pbkdf2 (asciiBytes "invalid-password")
      (asciiBytes "portfolio-dummy!") settings.password_iterations, by decide, ?_⟩
    rw [storedHash, dummyPasswordHash_derivation, if_pos hclean, utf8Encode_clean hclean]
    rfl

theorem login_derivation_sample :
    ∃ s : Accounts, s.sessions.map (·.user) = [⟨7, accountPayload.username.text⟩,
        ⟨8, observerPayload.username.text⟩] ∧ ∃ salt expected, salt.length = 16 ∧
      derivation accountTable accountPayload.password.text (storedHash accountCrypto
          accountSettings (findUser s.users accountPayload.username.text)) =
        some (accountPayload.password.text.flatMap utf8Char,
          ⟨accountSettings.password_iterations, salt, expected⟩) := by
  obtain ⟨s, hrun, -, hsessions⟩ := exists_session
  exact ⟨s, hsessions, login_derivation accountCrypto accountSettings accountTable hrun
    accountPayload⟩

end EventPipeline.Guarantees
