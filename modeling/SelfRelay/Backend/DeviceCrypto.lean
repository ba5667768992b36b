import SelfRelay.Backend.SignalingMessage
import SelfRelay.Backend.DeviceAuth
import SelfRelay.Lib.KeyOrder
import SelfRelay.Protocol.Base64Url
import SelfRelay.Python.Dumps

/-!
# Device proofs

The functions of `device_crypto.py` that build a challenge and the message that a device signs.  A
`datetime` is aware and given by its microseconds since 1970; the recursion limit is a parameter, as
for `json.dumps`.
-/

namespace SelfRelay.Backend

open Python

/-- What the functions raise. -/
inductive CryptoFailure where
  /-- `DeviceCryptoError` -/
  | deviceCrypto (message : String)
  | other (error : PyError)
  deriving DecidableEq, Repr

/-! ## Timestamps -/

/-- The year, month and day that lie the given number of days after 1970-01-01.  Years are counted
from March, in eras of 400 years. -/
def civilDate (days : ℕ) : ℕ × ℕ × ℕ :=
  let shifted := days + 719468
  let day := shifted % 146097
  let year := (day - day / 1460 + day / 36524 - day / 146096) / 365
  let yearDay := day - (365 * year + year / 4 - year / 100)
  let march := (5 * yearDay + 2) / 153
  let month := if march < 10 then march + 3 else march - 9
  (shifted / 146097 * 400 + year + (if month ≤ 2 then 1 else 0), month,
    yearDay - (153 * march + 2) / 5 + 1)

example : civilDate 0 = (1970, 1, 1) ∧ civilDate 11016 = (2000, 2, 29) ∧
    civilDate 20833 = (2027, 1, 15) := by decide

/-- The digits of a number, with zeros before them. -/
def padded (width n : ℕ) : PyStr :=
  List.replicate (width - (decimal n).length) 0x30 ++ decimal n

/-- `normalize_timestamp` -/
def normalizeTimestamp (time : Timestamp) : PyStr :=
  let seconds := time / 1000000
  let (year, month, day) := civilDate (seconds / 86400)
  padded 4 year ++ py "-" ++ padded 2 month ++ py "-" ++ padded 2 day ++ py "T" ++
    padded 2 (seconds / 3600 % 24) ++ py ":" ++ padded 2 (seconds / 60 % 60) ++ py ":" ++
    padded 2 (seconds % 60) ++ py "." ++ padded 6 (time % 1000000) ++ py "Z"

/-- `encode_base64url` -/
def encodeBase64url (value : Bytea) : PyStr := (encodeBase64Url value).map UInt16.toNat

/-! ## Canonical JSON -/

mutual

/-- `normalize`, with `depth` containers that may still be opened.  A value of another type or a key
that is no text cannot be built here. -/
def normalize (depth : ℕ) : PyValue → Except CryptoFailure PyValue
  | .none => .ok .none
  | .bool value => .ok (.bool value)
  | .int value => .ok (.int value)
  | .str value => .ok (.str value)
  | .float value =>
    if value.value?.isSome then .ok (.float value)
    else .error (.deviceCrypto "non-finite JSON numbers are not supported")
  | .list items =>
    match depth with
    | 0 => .error (.other .recursionError)
    | depth + 1 => (normalizeItems depth items).map .list
  | .dict items =>
    match depth with
    | 0 => .error (.other .recursionError)
    | depth + 1 => (normalizeMembers depth items).map .dict

def normalizeItems (depth : ℕ) : List PyValue → Except CryptoFailure (List PyValue)
  | [] => .ok []
  | item :: items => do
    let item ← normalize depth item
    let items ← normalizeItems depth items
    return item :: items

def normalizeMembers (depth : ℕ) : PyDict → Except CryptoFailure PyDict
  | [] => .ok []
  | (key, nested) :: items => do
    let nested ← normalize depth nested
    let items ← normalizeMembers depth items
    return (key, nested) :: items

end

mutual

/-- The value with the items of every dictionary in the order of their keys. -/
def sortKeys : PyValue → PyValue
  | .list items => .list (sortKeysItems items)
  | .dict items =>
    .dict ((sortKeysMembers items).insertionSort fun a b => KeyOrder.lexLe a.1 b.1)
  | .none => .none
  | .bool value => .bool value
  | .int value => .int value
  | .float value => .float value
  | .str value => .str value

def sortKeysItems : List PyValue → List PyValue
  | [] => []
  | item :: items => sortKeys item :: sortKeysItems items

def sortKeysMembers : PyDict → PyDict
  | [] => []
  | (key, value) :: items => (key, sortKeys value) :: sortKeysMembers items

end

/-- `json.dumps(value, ensure_ascii=False, sort_keys=True, separators=(",", ":"), allow_nan=False)`
of a value without non-finite numbers. -/
def dumpsSorted (depth : ℕ) (value : PyValue) : Except PyError PyStr :=
  dumps false depth (sortKeys value)

/-- `text.encode("utf-8")` -/
def encodeUtf8 (text : PyStr) : Except CryptoFailure Bytea :=
  if encodable text then .ok (text.flatMap utf8Sequence) else .error (.other .unicodeEncodeError)

/-- The text of the `try` block of `canonical_json_bytes`. -/
def canonicalText (depth : ℕ) (value : PyValue) : Except CryptoFailure PyStr := do
  let normalized ← normalize depth value
  (dumpsSorted depth normalized).mapError .other

/-- `canonical_json_bytes`.  A `DeviceCryptoError` is a `ValueError`, a `RecursionError` is not. -/
def canonicalJsonBytes (depth : ℕ) (value : PyValue) : Except CryptoFailure Bytea :=
  match canonicalText depth value with
  | .ok encoded => encodeUtf8 encoded
  | .error (.other .recursionError) => .error (.other .recursionError)
  | .error _ => .error (.deviceCrypto "value cannot be canonicalized")

/-! ## Challenges -/

/-- The length check on a nonce. -/
def requireNonce (nonce : Bytea) : Except CryptoFailure Unit :=
  if nonce.length = 32 then .ok ()
  else .error (.deviceCrypto "challenge nonce must contain 256 bits")

/-- `challenge_payload`.  The attributes of the account are `None` when it has none. -/
def challengePayload (challenge : DeviceChallengeRecord) (accountId : Option Uuid)
    (accountEpoch : Option ℤ) (deviceId : Uuid) (nonce : Bytea) : Except CryptoFailure PyDict :=
  match accountId, accountEpoch with
  | some accountId, some accountEpoch =>
    if challenge.deviceId = deviceId then do
      requireNonce nonce
      return [(py "account_device_epoch", .int accountEpoch),
        (py "account_id", .str (uuidText accountId)),
        (py "challenge_id", .str (uuidText challenge.id)),
        (py "challenge_version", .int 1),
        (py "device_id", .str (uuidText deviceId)),
        (py "expires_at", .str (normalizeTimestamp challenge.expiresAt)),
        (py "issued_at", .str (normalizeTimestamp challenge.createdAt)),
        (py "nonce", .str (encodeBase64url nonce)),
        (py "origin", .str (py challenge.origin)),
        (py "protocol_version", .int 1)]
    else .error (.deviceCrypto "challenge and device do not match")
  | _, _ => .error (.deviceCrypto "account record is incomplete")

/-- The `str` of a method. -/
def EnrollmentMethod.text : EnrollmentMethod → PyStr
  | email => py "email"
  | deviceLink => py "device_link"

/-- `registration_payload`, with the values that `RegistrationChallenge.payload` gives it. -/
def registrationPayload (challenge : RegistrationChallenge) : Except CryptoFailure PyDict := do
  requireNonce challenge.nonce
  if challenge.fingerprint.length = 32 then
    return [(py "account_device_epoch", .int challenge.epoch),
      (py "account_id", .str (uuidText challenge.accountId)),
      (py "challenge_id", .str (uuidText challenge.challengeId)),
      (py "challenge_version", .int 1),
      (py "device_fingerprint", .str (encodeBase64url challenge.fingerprint)),
      (py "device_id", .str (uuidText challenge.deviceId)),
      (py "expires_at", .str (normalizeTimestamp challenge.expiresAt)),
      (py "issued_at", .str (normalizeTimestamp challenge.issuedAt)),
      (py "nonce", .str (encodeBase64url challenge.nonce)),
      (py "origin", .str (py challenge.origin)),
      (py "protocol_version", .int 1),
      (py "enrollment_method", .str challenge.enrollmentMethod.text),
      (py "fallback", .bool challenge.fallback)]
  else .error (.deviceCrypto "device fingerprint must be a SHA-256 digest")

/-- `b"e2e-secure-file-transfer/device-auth/v1\x00"` -/
def signedMessagePrefix : Bytea :=
  ("e2e-secure-file-transfer/device-auth/v1".toList.map fun c => UInt8.ofNat c.toNat) ++ [0]

/-- `signed_message` -/
def signedMessage (depth : ℕ) (payload : PyDict) : Except CryptoFailure Bytea := do
  let body ← canonicalJsonBytes depth (.dict payload)
  return signedMessagePrefix ++ body

end SelfRelay.Backend
