import EventPipeline.Portfolio.Intake
import EventPipeline.Python.Base64
import EventPipeline.Python.Numeral

/-!
# EventPipeline.Portfolio.Auth

`portfolio/auth.py`: password hashes and access tokens, and the account endpoints of
`portfolio/api.py` on top of them.

HMAC and PBKDF2 are parameters (`Crypto`): the code relies on their digest length only. A
reading of the clock, the salt of a new hash and the row a query finds are arguments. `none`
stands for the exceptions that the `except` clause around the step lists.
-/

namespace EventPipeline.Portfolio

open EventPipeline.Python

/-- The functions of `hashlib` and `hmac` with SHA-256. -/
structure Crypto where
  /-- `hmac.new(key, message, sha256).digest()`. -/
  hmac : Bytes → Bytes → Bytes
  hmac_length : ∀ key message, (hmac key message).length = 32
  /-- `pbkdf2_hmac("sha256", password, salt, iterations)`. -/
  pbkdf2 : Bytes → Bytes → Nat → Bytes
  pbkdf2_length : ∀ password salt iterations, (pbkdf2 password salt iterations).length = 32

/-- The settings of the module, which refuses to load with others. -/
structure AuthSettings where
  secret_key : PyStr
  token_ttl_seconds : Nat
  token_ttl_range : 1 ≤ token_ttl_seconds ∧ token_ttl_seconds ≤ 2592000
  password_iterations : Nat
  password_iterations_range : 120000 ≤ password_iterations ∧ password_iterations ≤ 2000000

/-- `int(time.time())`, of a reading of the clock. -/
def intTime (now : Clock) : Nat :=
  match PyFloat.ofRat (now.micros / 1000000) with
  | .finite false mag => ⌊mag.toRat⌋₊
  | _ => 0

/-- `_b64url_encode(data)`: the URL-safe alphabet, without padding. -/
def b64urlEncode (data : Bytes) : PyStr := stripPadding (urlsafeB64Encode data)

/-- `_b64url_decode(data)`; `none` is the `binascii.Error` or the `ValueError`. -/
def b64urlDecode (data : PyStr) : Option Bytes := urlsafeB64Decode (data ++ missingPadding data)

/-! ### Passwords

The stored text names the scheme, the iterations, the salt and the digest. Older texts leave the
iterations out, and are read with the number that was in use then. -/

/-- `_LEGACY_PASSWORD_ITERATIONS`. -/
def legacyPasswordIterations : Nat := 120000

/-- `_MAX_PASSWORD_ITERATIONS`. -/
def maxPasswordIterations : Nat := 2000000

/-- The stored text of a salt and a digest. -/
def passwordHashText (settings : AuthSettings) (salt digest : Bytes) : PyStr :=
  PyStr.ofString "pbkdf2_sha256$" ++ natStr settings.password_iterations ++ PyStr.ofString "$"
    ++ b64urlEncode salt ++ PyStr.ofString "$" ++ b64urlEncode digest

/-- `hash_password(password)`, with the salt `secrets.token_bytes(16)` gave. -/
def hashPassword (crypto : Crypto) (settings : AuthSettings) (salt : Bytes) (password : PyStr) :
    Except PyExc PyStr := do
  validateJsonStructure (.str password)
  match utf8Encode password with
  | none => .error .unicodeEncodeError
  | some bytes =>
      .ok (passwordHashText settings salt
        (crypto.pbkdf2 bytes salt settings.password_iterations))

/-- The parts of a stored hash. -/
structure StoredHash where
  iterations : Nat
  salt : Bytes
  expected : Bytes

/-- `stored_hash.split("$")` with its three or four parts, `int(iterations_raw)` read. -/
def splitHash (table : CharTable) (stored_hash : PyStr) : Option (PyStr × Int × PyStr × PyStr) :=
  match stored_hash.splitOn (CodePoint.ofChar '$') with
  | [algorithm, salt_raw, digest_raw] =>
      some (algorithm, legacyPasswordIterations, salt_raw, digest_raw)
  | [algorithm, iterations_raw, salt_raw, digest_raw] =>
      (parseInt table iterations_raw).map fun iterations =>
        (algorithm, iterations, salt_raw, digest_raw)
  | _ => none

/-- `verify_password` up to the checks of the lengths. -/
def readHash (table : CharTable) (stored_hash : PyStr) : Option StoredHash := do
  let (algorithm, iterations, salt_raw, digest_raw) ← splitHash table stored_hash
  guard (algorithm = PyStr.ofString "pbkdf2_sha256")
  guard ((legacyPasswordIterations : Int) ≤ iterations ∧ iterations ≤ maxPasswordIterations)
  let salt ← b64urlDecode salt_raw
  let expected ← b64urlDecode digest_raw
  guard (salt.length = 16 ∧ expected.length = 32)
  return ⟨iterations.toNat, salt, expected⟩

/-- What `verify_password` derives a key from, where it derives one; an absent or empty hash
has no parts. -/
def derivation (table : CharTable) (password : PyStr) (stored_hash : Option PyStr) :
    Option (Bytes × StoredHash) := do
  let stored_hash ← stored_hash.filter (· ≠ [])
  let hash ← readHash table stored_hash
  guard (validateJsonStructure (.str password)).isOk
  let password_bytes ← utf8Encode password
  return (password_bytes, hash)

/-- `verify_password(password, stored_hash)`. -/
def verifyPassword (crypto : Crypto) (table : CharTable) (password : PyStr)
    (stored_hash : Option PyStr) : Bool :=
  match derivation table password stored_hash with
  | none => false
  | some (bytes, hash) => crypto.pbkdf2 bytes hash.salt hash.iterations = hash.expected

/-- The bytes of an ASCII literal. -/
def asciiBytes (s : PyStr) : Bytes := s.map fun c => UInt8.ofNat c.val

/-- `_dummy_password_hash()`: what the password is compared with where there is no user, so that
this takes as long as with one. -/
def dummyPasswordHash (crypto : Crypto) (settings : AuthSettings) : PyStr :=
  passwordHashText settings (asciiBytes "portfolio-dummy!")
    (crypto.pbkdf2 (asciiBytes "invalid-password") (asciiBytes "portfolio-dummy!")
      settings.password_iterations)

/-! ### Access tokens

A token has three segments: the header, the claims, and an HMAC over the first two. The decoder
takes a token apart in this order and answers whatever it does not accept with a 401. -/

/-- `separators=(",", ":")`. -/
def tokenStyle : Json.DumpStyle := ⟨",", ":", true⟩

/-- The order of the keys of a sorted object. -/
def keyLe (a b : PyStr × Json) : Bool := decide (a.1 ≤ b.1)

/-- `json.dumps(value, separators=(",", ":"), sort_keys=True).encode("utf-8")` of an object
without nested objects; `none` where it raises. -/
def tokenJson (value : Dict) : Option Bytes :=
  (Json.dumps tokenStyle true (.obj (value.insertionSort fun a b => keyLe a b))).bind utf8Encode

/-- The header of every token. -/
def tokenHeader : Dict := [("alg", .str "HS256"), ("typ", .str "JWT")]

/-- The payload of a new token. -/
def tokenPayload (settings : AuthSettings) (user_id : Nat) (username : PyStr) (now : Clock) :
    Dict :=
  [("sub", .str (natStr user_id)), ("username", .str username),
    ("exp", .int (intTime now + settings.token_ttl_seconds : Nat))]

/-- `f"{header_segment}.{payload_segment}"`. -/
def signingInput (header_segment payload_segment : PyStr) : PyStr :=
  header_segment ++ PyStr.ofString "." ++ payload_segment

/-- The signature of two segments. -/
def tokenSignature (crypto : Crypto) (key : Bytes) (header_segment payload_segment : PyStr) :
    Bytes :=
  crypto.hmac key (asciiBytes (signingInput header_segment payload_segment))

/-- `create_access_token(user_id, username)`. -/
def createAccessToken (crypto : Crypto) (settings : AuthSettings) (now : Clock) (user_id : Int)
    (username : PyStr) : Except PyExc PyStr := do
  check (1 ≤ user_id ∧ user_id ≤ maxPostgresBigint) "Invalid token subject"
  check (1 ≤ username.length ∧ username.length ≤ 30) "Invalid token username"
  validateJsonStructure (.str username)
  let header ← require (tokenJson tokenHeader) "surrogates not allowed"
  let payload ← require (tokenJson (tokenPayload settings user_id.toNat username now))
    "surrogates not allowed"
  match utf8Encode settings.secret_key with
  | none => .error .unicodeEncodeError
  | some key =>
      .ok (signingInput (b64urlEncode header) (b64urlEncode payload) ++ PyStr.ofString "."
        ++ b64urlEncode (tokenSignature crypto key (b64urlEncode header) (b64urlEncode payload)))

/-- The three segments of a token and its signature. -/
structure SignedToken where
  header_segment : PyStr
  payload_segment : PyStr
  signature : Bytes

/-- `segment and _B64URL_SEGMENT_RE.fullmatch(segment)`. -/
def isSegment (segment : PyStr) : Bool := segment ≠ [] && segment.all isUrlsafeChar

/-- `json.loads(_b64url_decode(segment).decode("utf-8"))`, none where one of the steps raises. -/
def segmentJson (rt : Runtime) (segment : PyStr) : Option Json := do
  let bytes ← b64urlDecode segment
  let text ← utf8Decode bytes
  (loads ⟨rt.recursionLimit, true⟩ text).toOption

/-- The checks of a decoded header. -/
def headerOk : Json → Bool
  | .obj header =>
      (match Dict.get? header "alg" with
        | some (.str alg) => alg = PyStr.ofString "HS256"
        | _ => false)
      && (match Dict.get? header "typ" with
        | some (.str typ) => typ = PyStr.ofString "JWT"
        | _ => false)
      && (validateJsonStructure (.obj header)).isOk
  | _ => false

/-- The first `try` of `decode_access_token`. -/
def readToken (rt : Runtime) (token : PyStr) : Option SignedToken :=
  match token.splitOn (CodePoint.ofChar '.') with
  | [header_segment, payload_segment, signature_segment] => do
      guard (isSegment header_segment ∧ isSegment payload_segment ∧ isSegment signature_segment)
      let header ← segmentJson rt header_segment
      guard (headerOk header)
      let signature ← b64urlDecode signature_segment
      guard (signature.length = 32)
      return ⟨header_segment, payload_segment, signature⟩
  | _ => none

/-- The claims `decode_access_token` checks, with the payload it returns. -/
structure TokenClaims where
  payload : Dict
  expires_at : Nat
  user_id : Nat
  username : PyStr

/-- `_MAX_UNIX_TIMESTAMP`. -/
def maxUnixTimestamp : Nat := 253402300799

/-- The checks of `exp`. -/
def expiresAt : Json → Option Nat
  | .int z => if 0 < z ∧ z ≤ maxUnixTimestamp then some z.toNat else none
  | _ => none

/-- The checks of `sub`: a nonempty ASCII decimal that is its own `str(int(subject))`. -/
def tokenSubject : Json → Option Nat
  | .str subject =>
      if isDigits subject ∧ subject.length ≤ 4300 ∧ subject = natStr (natOfDigits subject) ∧
          1 ≤ natOfDigits subject ∧ natOfDigits subject ≤ maxPostgresBigint then
        some (natOfDigits subject)
      else none
  | _ => none

/-- The checks of `username`. -/
def tokenUsername : Json → Option PyStr
  | .str username => if 1 ≤ username.length ∧ username.length ≤ 30 then some username else none
  | _ => none

/-- The second `try` of `decode_access_token`. -/
def readClaims (rt : Runtime) (payload_segment : PyStr) : Option TokenClaims := do
  let payload ← (segmentJson rt payload_segment).bind asObject
  guard (validateJsonStructure (.obj payload)).isOk
  let expires_at ← (payload.get? "exp").bind expiresAt
  let user_id ← (payload.get? "sub").bind tokenSubject
  let username ← (payload.get? "username").bind tokenUsername
  return ⟨payload, expires_at, user_id, username⟩

/-- `_MAX_ACCESS_TOKEN_LENGTH`. -/
def maxAccessTokenLength : Nat := 4096

/-- The 401 of a token that is not accepted. -/
def invalidAccessToken : ApiExc := .httpException 401 "Invalid access token"

/-- `decode_access_token(token)`; the source returns the payload only. -/
def decodeAccessToken (crypto : Crypto) (settings : AuthSettings) (rt : Runtime) (now : Clock)
    (token : PyStr) : Except ApiExc TokenClaims :=
  if token = [] ∨ maxAccessTokenLength < token.length then .error invalidAccessToken
  else
    match readToken rt token with
    | none => .error invalidAccessToken
    | some signed =>
        match utf8Encode settings.secret_key with
        | none => .error (.raised .unicodeEncodeError)
        | some key =>
            if tokenSignature crypto key signed.header_segment signed.payload_segment
                ≠ signed.signature then
              .error invalidAccessToken
            else
              match readClaims rt signed.payload_segment with
              | none => .error invalidAccessToken
              | some claims =>
                  if claims.expires_at ≤ intTime now then
                    .error (.httpException 401 "Access token expired")
                  else .ok claims

/-- The credentials of a request: the scheme and the token. -/
structure Credentials where
  scheme : PyStr
  credentials : PyStr

/-- The user a request is made by. -/
structure CurrentUser where
  id : Nat
  username : PyStr
  deriving DecidableEq

/-- `get_current_user(credentials)`; no character beyond ASCII is a letter of `bearer` in
lower case. -/
def getCurrentUser (crypto : Crypto) (settings : AuthSettings) (rt : Runtime) (now : Clock)
    (credentials : Option Credentials) : Except ApiExc CurrentUser :=
  match credentials with
  | none => .error (.httpException 401 "Missing bearer token")
  | some credentials =>
      if credentials.scheme.map lowerAscii ≠ PyStr.ofString "bearer" then
        .error (.httpException 401 "Invalid authentication scheme")
      else
        (decodeAccessToken crypto settings rt now credentials.credentials).map fun claims =>
          ⟨claims.user_id, claims.username⟩

/-! ### Accounts

The query by name finds one row at most. A login with an unknown name derives a key all the same,
of a hash that belongs to nobody. -/

/-- A row of `users`. -/
structure UserRow where
  id : Nat
  username : PyStr
  password_hash : Option PyStr

/-- `UserCreate` and `LoginRequest`, which have the same fields. -/
structure AccountRequest where
  username : UnicodeScalarText 2 30
  password : UnicodeScalarText 8 128

/-- The row `SELECT … FROM users WHERE username=%s` finds. -/
def findUser (users : List UserRow) (username : PyStr) : Option UserRow :=
  users.find? (·.username = username)

/-- The hash `authenticate_user` compares with: that of the row, or the dummy. -/
def storedHash (crypto : Crypto) (settings : AuthSettings) (user : Option UserRow) :
    Option PyStr :=
  match user with
  | some row => row.password_hash
  | none => some (dummyPasswordHash crypto settings)

/-- `authenticate_user(username, password)`, of the row the query finds. -/
def authenticateUser (crypto : Crypto) (settings : AuthSettings) (table : CharTable)
    (user : Option UserRow) (password : PyStr) : Option CurrentUser :=
  let password_valid := verifyPassword crypto table password (storedHash crypto settings user)
  match user with
  | some row => if password_valid then some ⟨row.id, row.username⟩ else none
  | none => none

/-- `login(payload)`, of the row the query finds: the token and the user. -/
def login (crypto : Crypto) (settings : AuthSettings) (table : CharTable) (now : Clock)
    (user : Option UserRow) (payload : AccountRequest) : Except ApiExc (PyStr × CurrentUser) :=
  match authenticateUser crypto settings table user payload.password.text with
  | none => .error (.httpException 401 "Invalid username or password")
  | some user =>
      match createAccessToken crypto settings now user.id user.username with
      | .error e => .error (.raised e)
      | .ok access_token => .ok (access_token, user)

/-- The `INSERT INTO users`, with the id the sequence gives: `none` is the unique violation on
`username`. -/
def insertUser (users : List UserRow) (id : Nat) (username password_hash : PyStr) :
    Option (List UserRow) :=
  if users.any (·.username = username) then none
  else some (users ++ [⟨id, username, some password_hash⟩])

/-- `create_user(payload)`, with the salt of the hash and the id of the sequence: the rows
after it, and the new account. -/
def createUser (crypto : Crypto) (settings : AuthSettings) (salt : Bytes)
    (users : List UserRow) (id : Nat) (payload : AccountRequest) :
    Except ApiExc (List UserRow × CurrentUser) :=
  match hashPassword crypto settings salt payload.password.text with
  | .error e => .error (.raised e)
  | .ok password_hash =>
      match insertUser users id payload.username.text password_hash with
      | none => .error (.httpException 409 "Username already exists")
      | some users => .ok (users, ⟨id, payload.username.text⟩)

end EventPipeline.Portfolio
