import SelfRelay.Backend.SignalingBudget
import SelfRelay.Python.Value

/-!
# Signaling messages

The checks that `presence.py` makes on a message dictionary: `_canonical_uuid`, `_message_expiry`
and `_parse_signaling_message`.  A check may raise, on text that has no UTF-8 encoding or on values
that are nested too deep for the encoder; `depth` is the number of containers that the encoder may
open.
-/

namespace SelfRelay.Backend

open Python

/-! ## Identifiers -/

/-- The 32 hexadecimal digits of an id. -/
def uuidDigits (id : Uuid) : PyStr :=
  (List.range 32).map fun i => Python.hexDigit (id.value.toNat / 16 ^ (31 - i) % 16)

/-- `str(id)` -/
def uuidText (id : Uuid) : PyStr :=
  let digits := uuidDigits id
  digits.take 8 ++ 0x2d :: (digits.drop 8).take 4 ++ 0x2d :: (digits.drop 12).take 4 ++
    0x2d :: (digits.drop 16).take 4 ++ 0x2d :: digits.drop 20

/-- The value of a hexadecimal digit. -/
def digitValue (c : ℕ) : Option ℕ :=
  if 0x30 ≤ c ∧ c ≤ 0x39 then some (c - 0x30)
  else if 0x61 ≤ c ∧ c ≤ 0x66 then some (c - 0x57)
  else if 0x41 ≤ c ∧ c ≤ 0x46 then some (c - 0x37)
  else none

/-- `UUID(text)` on 32 hexadecimal digits with any hyphens.  The other spellings that it reads are
not those of `str`. -/
def parseUuid (text : PyStr) : Option Uuid := do
  let digits ← (text.filter (· ≠ 0x2d)).mapM digitValue
  if digits.length = 32 then
    return ⟨BitVec.ofNat 128 (digits.foldl (fun n d => n * 16 + d) 0)⟩
  else none

/-- `_canonical_uuid` -/
def canonicalUuid : PyValue → Option Uuid
  | .str text => (parseUuid text).filter fun id => uuidText id = text
  | _ => none

theorem canonicalUuid_eq_some {value : PyValue} {id : Uuid} (h : canonicalUuid value = some id) :
    value = .str (uuidText id) := by
  cases value with
  | str text =>
    have htext := (Option.filter_eq_some_iff.1 h).2
    rw [of_decide_eq_true htext]
  | none | bool | int | float | list | dict => cases h

/-! ## Expiry -/

/-- The time after the last one of the year 9999. -/
def endOfTime : Timestamp := 253402300800 * 1000000

/-- `datetime.fromtimestamp(millis / 1000, tz=UTC)`: the quotient is a double, and its fraction is
rounded to microseconds. -/
def fromTimestamp (millis : ℕ) : Option Timestamp :=
  match JsNumber.ofRat false (millis / 1000) with
  | .finite seconds =>
    match JsNumber.ofRat false ((seconds - ⌊seconds⌋) * 1000000) with
    | .finite micros =>
      let time := (⌊seconds⌋ * 1000000 + JsNumber.roundHalfEven micros).toNat
      if time < endOfTime then some time else none
    | _ => none
  | _ => none

/-- `_message_expiry` -/
def messageExpiry (value : PyValue) (now : Timestamp) : Option Timestamp :=
  match value with
  | .int (.ofNat millis) => (fromTimestamp millis).filter fun time => now < time
  | _ => none

theorem messageExpiry_eq_some {value : PyValue} {now time : Timestamp}
    (h : messageExpiry value now = some time) :
    ∃ millis : ℕ, value = .int millis ∧ fromTimestamp millis = some time ∧ now < time := by
  unfold messageExpiry at h
  split at h
  · obtain ⟨htime, hlt⟩ := Option.filter_eq_some_iff.1 h
    exact ⟨_, rfl, htime, of_decide_eq_true hlt⟩
  · cases h

/-! ## Types and envelope -/

namespace SignalingType

/-- The text of a type. -/
def name : SignalingType → String
  | sdpOffer => "sdp_offer"
  | sdpAnswer => "sdp_answer"
  | iceCandidate => "ice_candidate"
  | handshakeOffer => "handshake_offer"
  | handshakeAnswer => "handshake_answer"

def all : List SignalingType :=
  [sdpOffer, sdpAnswer, iceCandidate, handshakeOffer, handshakeAnswer]

/-- The type that a value names. -/
def ofValue (value : PyValue) : Option SignalingType :=
  all.find? fun type => value.eqStr (py type.name)

theorem ofValue_eq_some {value : PyValue} {type : SignalingType} (h : ofValue value = some type) :
    value = .str (py type.name) := by
  have hfound := List.find?_some h
  exact PyValue.eqStr_eq_true hfound

end SignalingType

/-- `SIGNALING_MESSAGE_TYPES` -/
def signalingMessageTypes : List String := SignalingType.all.map SignalingType.name

/-- `MAX_SIGNALING_SDP_BYTES` -/
def maxSignalingSdpBytes : ℕ := 12 * 1024

/-- `MAX_SIGNALING_ICE_CANDIDATE_BYTES` -/
def maxSignalingIceCandidateBytes : ℕ := 2048

/-- `MAX_SIGNALING_HANDSHAKE_BYTES` -/
def maxSignalingHandshakeBytes : ℕ := 8 * 1024

/-- The keys of every message. -/
def envelope : List String :=
  ["type", "v", "transfer_id", "sender_device_id", "recipient_device_id", "expires_at"]

/-- What `_parse_signaling_message` returns. -/
structure ParsedSignaling where
  transfer : Uuid
  sender : Uuid
  recipient : Uuid
  type : SignalingType
  deriving DecidableEq, Repr

/-! ## Bodies -/

/-- The body of an offer or answer. -/
def checkDescription (message : PyDict) : Except PyError Bool :=
  if message.keysEq (envelope ++ ["sdp"]) then
    match message.get "sdp" with
    | .str sdp =>
      if sdp = [] then .ok false else (utf8Length sdp).map fun n => n ≤ maxSignalingSdpBytes
    | _ => .ok false
  else .ok false

/-- The fields of a handshake that name the transfer. -/
def checkCore (core : PyDict) (parsed : ParsedSignaling) : Bool :=
  (core.get "type").eqStr (py parsed.type.name) && (core.get "v").eqInt 1 &&
    (core.get "transfer_id").eqStr (uuidText parsed.transfer) &&
    (core.get "sender_device_id").eqStr (uuidText parsed.sender) &&
    (core.get "recipient_device_id").eqStr (uuidText parsed.recipient)

/-- The handshake object, which has its two fields. -/
def checkHandshakeObject (depth : ℕ) (handshake : PyDict) (parsed : ParsedSignaling) :
    Except PyError Bool :=
  match handshake.get "signature" with
  | .str signature =>
    if signature = [] then .ok false
    else do
      if 256 < (← utf8Length signature) then return false
      match handshake.get "core" with
      | .dict core =>
        if core.isEmpty then return false
        let text ← dumps false depth (.dict handshake)
        if maxSignalingHandshakeBytes < (← utf8Length text) then return false
        return checkCore core parsed
      | _ => return false
  | _ => .ok false

/-- The body of a handshake message. -/
def checkHandshake (depth : ℕ) (message : PyDict) (parsed : ParsedSignaling) :
    Except PyError Bool :=
  if message.keysEq (envelope ++ ["handshake"]) then
    match message.get "handshake" with
    | .dict handshake =>
      if PyDict.keysEq handshake ["core", "signature"] then
        checkHandshakeObject depth handshake parsed
      else .ok false
    | _ => .ok false
  else .ok false

/-- A text of at most 128 bytes that may be missing. -/
def checkOptionalText : PyValue → Except PyError Bool
  | .none => .ok true
  | .str text => (utf8Length text).map fun n => n ≤ 128
  | _ => .ok false

/-- An index that may be missing. -/
def checkLineIndex : PyValue → Bool
  | .none => true
  | .int n => 0 ≤ n && n ≤ 65535
  | _ => false

/-- The fields of an ICE candidate, which has a candidate. -/
def checkCandidateFields (message : PyDict) : Except PyError Bool :=
  match message.get "candidate" with
  | .str candidate =>
    if candidate = [] then .ok false
    else do
      if maxSignalingIceCandidateBytes < (← utf8Length candidate) then return false
      if !(← checkOptionalText (message.get "sdp_mid")) then return false
      if !(← checkOptionalText (message.get "username_fragment")) then return false
      return checkLineIndex (message.get "sdp_mline_index")
  | _ => .ok false

/-- The body of an ICE candidate. -/
def checkCandidate (message : PyDict) : Except PyError Bool :=
  if message.keysIn
    (envelope ++ ["candidate", "sdp_mid", "sdp_mline_index", "username_fragment"]) &&
      message.contains "candidate" then
    checkCandidateFields message
  else .ok false

/-- The body of a message, by its type. -/
def checkBody (depth : ℕ) (message : PyDict) (parsed : ParsedSignaling) : Except PyError Bool :=
  match parsed.type with
  | .sdpOffer | .sdpAnswer => checkDescription message
  | .handshakeOffer | .handshakeAnswer => checkHandshake depth message parsed
  | .iceCandidate => checkCandidate message

/-! ## `_parse_signaling_message` -/

/-- The version of a message: 1, but not `True`. -/
def isVersionOne : PyValue → Bool
  | .bool _ => false
  | value => value.eqInt 1

/-- The envelope of a message whose type is known. -/
def parseEnvelope (message : PyDict) (now : Timestamp) : Option ParsedSignaling := do
  let type ← SignalingType.ofValue (message.get "type")
  if !isVersionOne (message.get "v") then none
  let transfer ← canonicalUuid (message.get "transfer_id")
  let sender ← canonicalUuid (message.get "sender_device_id")
  let recipient ← canonicalUuid (message.get "recipient_device_id")
  if sender = recipient then none
  let _ ← messageExpiry (message.get "expires_at") now
  return { transfer, sender, recipient, type }

/-- `_parse_signaling_message` -/
def parseSignalingMessage (depth : ℕ) (message : PyDict) (now : Timestamp) :
    Except PyError (Option ParsedSignaling) := do
  if !(← (message.get "type").inSet signalingMessageTypes) then return none
  match parseEnvelope message now with
  | none => return none
  | some parsed =>
    if ← checkBody depth message parsed then return some parsed else return none

end SelfRelay.Backend
