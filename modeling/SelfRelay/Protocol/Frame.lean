import SelfRelay.Lib.BigEndian
import SelfRelay.Protocol.Uuid

/-!
# Encrypted frames

The frame codec of `transferProtocol.ts`: the fixed 31-byte authenticated header
(`encodeFrameHeader`, `parseFrameHeader`), the nonce rule (`frameNonce`), and the two halves of
`encryptFrame` and `decryptFrame` around their `await` of Web Crypto.  A call that reached Web
Crypto is an `EncryptCall` or a `DecryptCall`; the second half takes what the promise settled to,
`none` for a rejection.
-/

namespace SelfRelay

def transferProtocolVersion : ℕ := 1
def frameHeaderBytes : ℕ := 31
def frameTagBytes : ℕ := 16
def maxFramePlaintextBytes : ℕ := 64 * 1024
def maxFrameBytes : ℕ := frameHeaderBytes + maxFramePlaintextBytes + frameTagBytes
def maxFrameCounter : ℕ := 2 ^ 64 - 1
def confirmationBytes : ℕ := 32

inductive FrameDirection where
  | s2r
  | r2s
  deriving DecidableEq, Repr

inductive FrameType where
  | confirm
  | fileOffer
  | accept
  | manifest
  | chunk
  | complete
  | receipt
  | cancel
  | error
  deriving DecidableEq, Repr

/-- `FrameHeader`.  A counter or length is a nonnegative integer here: the range checks of the
source refuse every other number. -/
structure FrameHeader where
  v : ℕ
  transferId : JsString
  direction : FrameDirection
  type : FrameType
  counter : ℕ
  plaintextLength : ℕ
  deriving DecidableEq, Repr

namespace FrameDirection

/-- `oppositeDirection` -/
def opposite : FrameDirection → FrameDirection
  | s2r => r2s
  | r2s => s2r

@[simp] theorem opposite_opposite (d : FrameDirection) : d.opposite.opposite = d := by
  cases d <;> rfl

/-- `frameDirectionCode` -/
def code : FrameDirection → UInt8
  | s2r => 0
  | r2s => 1

/-- `codeToFrameDirection` -/
def ofCode (code : UInt8) : Checked FrameDirection :=
  if code = 0 then .ok s2r
  else if code = 1 then .ok r2s
  else .error (protocolError "Frame direction is invalid." "invalid_frame")

@[simp] theorem ofCode_code (d : FrameDirection) : ofCode d.code = .ok d := by
  cases d <;> rfl

end FrameDirection

namespace FrameType

/-- `FRAME_TYPE_TO_CODE` -/
def code : FrameType → UInt8
  | confirm => 0
  | manifest => 1
  | chunk => 2
  | complete => 3
  | receipt => 4
  | cancel => 5
  | error => 6
  | fileOffer => 7
  | accept => 8

/-- `FRAME_CODE_TO_TYPE` -/
def ofCode (code : UInt8) : Option FrameType :=
  [confirm, manifest, chunk, complete, receipt, cancel, error, fileOffer, accept][code.toNat]?

@[simp] theorem ofCode_code (t : FrameType) : ofCode t.code = some t := by
  cases t <;> rfl

/-- The directions in which a frame type may travel. -/
def travels : FrameType → FrameDirection → Bool
  | fileOffer, d | manifest, d | chunk, d | complete, d => d = .s2r
  | receipt, d | accept, d => d = .r2s
  | confirm, _ | cancel, _ | error, _ => true

end FrameType

/-- `validateFrameTypeDirection` -/
def validateFrameTypeDirection (direction : FrameDirection) (type : FrameType) : Checked Unit := do
  throwIf ((type = .fileOffer ∨ type = .manifest ∨ type = .chunk ∨ type = .complete) ∧
      direction ≠ .s2r)
    (protocolError "Frame type is not valid for this direction." "invalid_frame")
  throwIf ((type = .receipt ∨ type = .accept) ∧ direction ≠ .r2s)
    (protocolError "Frame type is not valid for this direction." "invalid_frame")

theorem validateFrameTypeDirection_eq_ok {direction : FrameDirection} {type : FrameType}
    {u : Unit} :
    validateFrameTypeDirection direction type = .ok u ↔ type.travels direction = true := by
  cases direction <;> cases type <;> simp [validateFrameTypeDirection, FrameType.travels]

/-- `requireFrameCounter` -/
def requireFrameCounter (value : ℕ) : Checked ℕ := do
  throwIf (value > maxFrameCounter)
    (protocolError "Frame counter is outside the uint64 range." "invalid_counter")
  return value

/-- `requireFrameLength` -/
def requireFrameLength (value : ℕ) : Checked ℕ := do
  throwIf (value > maxFramePlaintextBytes)
    (protocolError "Frame plaintext length is invalid." "invalid_length")
  return value

/-! ## The header codec -/

namespace FrameHeader

/-- The 31 bytes written by `encodeFrameHeader` once its checks passed. -/
def bytes (header : FrameHeader) : Bytes :=
  UInt8.ofNat transferProtocolVersion :: (uuidBytes header.transferId ++
    header.direction.code :: header.type.code ::
      (BigEndian.encode 8 header.counter ++ BigEndian.encode 4 header.plaintextLength))

/-- What `encodeFrameHeader` requires of a header. -/
structure Valid (header : FrameHeader) : Prop where
  version : header.v = transferProtocolVersion
  uuid : isUuid header.transferId = true
  counter_le : header.counter ≤ maxFrameCounter
  length_le : header.plaintextLength ≤ maxFramePlaintextBytes
  travels : header.type.travels header.direction = true

end FrameHeader

/-- `encodeFrameHeader` -/
def encodeFrameHeader (header : FrameHeader) : Checked Bytes := do
  throwIf (header.v ≠ transferProtocolVersion)
    (protocolError "Frame version is unsupported." "unsupported_version")
  let transferId ← requireUuid header.transferId "transfer_id"
  let counter ← requireFrameCounter header.counter
  let plaintextLength ← requireFrameLength header.plaintextLength
  validateFrameTypeDirection header.direction header.type
  let id ← uuidToBytes transferId
  return UInt8.ofNat transferProtocolVersion :: (id ++
    header.direction.code :: header.type.code ::
      (BigEndian.encode 8 counter ++ BigEndian.encode 4 plaintextLength))

/-- `parseFrameHeader` -/
def parseFrameHeader (bytes : Bytes) : Checked FrameHeader := do
  throwIf (bytes.length ≠ frameHeaderBytes)
    (protocolError "Frame header has an invalid length." "invalid_length")
  throwIf ((bytes.getD 0 0).toNat ≠ transferProtocolVersion)
    (protocolError "Frame version is unsupported." "unsupported_version")
  let direction ← FrameDirection.ofCode (bytes.getD 17 0)
  let some type := FrameType.ofCode (bytes.getD 18 0)
    | .error (protocolError "Frame type is invalid." "invalid_frame")
  let counter := BigEndian.decode (slice bytes 19 27)
  let plaintextLength := BigEndian.decode (slice bytes 27 31)
  let _ ← requireFrameLength plaintextLength
  validateFrameTypeDirection direction type
  let transferId ← bytesToUuid (slice bytes 1 17)
  return { v := transferProtocolVersion, transferId, direction, type, counter, plaintextLength }

theorem encodeFrameHeader_eq_ok {header : FrameHeader} {b : Bytes} :
    encodeFrameHeader header = .ok b ↔ header.Valid ∧ b = header.bytes := by
  simp only [encodeFrameHeader, requireUuid, requireFrameCounter, requireFrameLength, uuidToBytes,
    bind_eq_ok, throwIf_eq_ok, pure_eq_ok, validateFrameTypeDirection_eq_ok, FrameHeader.bytes]
  constructor
  · rintro ⟨-, hv, _, ⟨-, hid, rfl⟩, _, ⟨-, hc, rfl⟩, _, ⟨-, hl, rfl⟩, -, ht, _, ⟨-, -, rfl⟩, rfl⟩
    exact ⟨⟨by simpa using hv, by simpa using hid, by simpa using hc, by simpa using hl, ht⟩, rfl⟩
  · rintro ⟨⟨hv, hid, hc, hl, ht⟩, rfl⟩
    exact ⟨(), by simpa using hv, _, ⟨(), by simpa using hid, rfl⟩, _, ⟨(), by simpa using hc, rfl⟩,
      _, ⟨(), by simpa using hl, rfl⟩, (), ht, _, ⟨(), by simpa using hid, rfl⟩, rfl⟩

namespace FrameHeader

section Layout

variable {header : FrameHeader} (uuid : isUuid header.transferId = true)
include uuid

theorem length_bytes : header.bytes.length = frameHeaderBytes := by
  simp [bytes, length_uuidBytes uuid, frameHeaderBytes]

theorem slice_id : slice header.bytes 1 17 = uuidBytes header.transferId := by
  simp [bytes, slice, length_uuidBytes uuid]

theorem getD_direction : header.bytes.getD 17 0 = header.direction.code := by
  simp [bytes, length_uuidBytes uuid]

theorem getD_type : header.bytes.getD 18 0 = header.type.code := by
  simp [bytes, length_uuidBytes uuid]

theorem slice_counter : slice header.bytes 19 27 = BigEndian.encode 8 header.counter := by
  simp [bytes, slice, List.take_append, List.drop_append, length_uuidBytes uuid]

theorem slice_length : slice header.bytes 27 31 = BigEndian.encode 4 header.plaintextLength := by
  simp [bytes, slice, List.drop_append, length_uuidBytes uuid, List.drop_of_length_le,
    List.take_of_length_le]

/-- Reading back the bytes of a header whose fields are in range: only the direction of its type is
left to check. -/
theorem parse_bytes_eq_ok {parsed : FrameHeader} (version : header.v = transferProtocolVersion)
    (counter_le : header.counter ≤ maxFrameCounter)
    (length_le : header.plaintextLength ≤ maxFramePlaintextBytes) :
    parseFrameHeader header.bytes = .ok parsed ↔
      header.type.travels header.direction = true ∧ parsed = header := by
  have hcounter : BigEndian.decode (slice header.bytes 19 27) = header.counter := by
    rw [slice_counter uuid]
    exact BigEndian.decode_encode_of_lt (lt_of_le_of_lt counter_le (by decide))
  have hlength : BigEndian.decode (slice header.bytes 27 31) = header.plaintextLength := by
    rw [slice_length uuid]
    exact BigEndian.decode_encode_of_lt (lt_of_le_of_lt length_le (by decide))
  have hversion : (header.bytes.getD 0 0).toNat = transferProtocolVersion := rfl
  simp only [parseFrameHeader, bind_eq_ok, throwIf_eq_ok, requireFrameLength, pure_eq_ok,
    getD_direction uuid, getD_type uuid, slice_id uuid, FrameDirection.ofCode_code,
    FrameType.ofCode_code, hcounter, hlength, validateFrameTypeDirection_eq_ok,
    bytesToUuid_uuidBytes uuid, Except.ok.injEq]
  constructor
  · rintro ⟨-, -, -, -, _, rfl, _, -, -, htravels, _, rfl, rfl⟩
    exact ⟨htravels, by rw [← version]⟩
  · rintro ⟨htravels, rfl⟩
    refine ⟨(), not_not.2 (length_bytes uuid), (), not_not.2 hversion, _, rfl, _,
      ⟨(), not_lt.2 length_le, rfl⟩, (), htravels, _, rfl, ?_⟩
    rw [← version]

end Layout

theorem Valid.parse_bytes {header : FrameHeader} (valid : header.Valid) :
    parseFrameHeader header.bytes = .ok header :=
  (parse_bytes_eq_ok valid.uuid valid.version valid.counter_le valid.length_le).2
    ⟨valid.travels, rfl⟩

theorem bytes_injective {h k : FrameHeader} (hh : h.Valid) (hk : k.Valid) (e : h.bytes = k.bytes) :
    h = k := by
  have := hh.parse_bytes
  rw [e, hk.parse_bytes] at this
  exact (Except.ok.inj this).symm

end FrameHeader

/-! ## Nonces -/

/-- `frameNonce` -/
def frameNonce (noncePrefix : Bytes) (counter : ℕ) : Checked Bytes := do
  throwIf (noncePrefix.length ≠ 4)
    (protocolError "Frame nonce prefix must be 4 bytes." "invalid_nonce")
  let normalizedCounter ← requireFrameCounter counter
  return noncePrefix ++ BigEndian.encode 8 normalizedCounter

theorem frameNonce_eq_ok {noncePrefix nonce : Bytes} {counter : ℕ} :
    frameNonce noncePrefix counter = .ok nonce ↔
      noncePrefix.length = 4 ∧ counter ≤ maxFrameCounter ∧
        nonce = noncePrefix ++ BigEndian.encode 8 counter := by
  simp only [frameNonce, requireFrameCounter, bind_eq_ok, throwIf_eq_ok, pure_eq_ok]
  constructor
  · rintro ⟨-, hp, _, ⟨-, hc, rfl⟩, rfl⟩
    exact ⟨by simpa using hp, by simpa using hc, rfl⟩
  · rintro ⟨hp, hc, rfl⟩
    exact ⟨(), by simpa using hp, _, ⟨(), by simpa using hc, rfl⟩, rfl⟩

/-- A nonce determines the prefix and the counter it was built from. -/
theorem frameNonce_inj {p q nonce : Bytes} {c d : ℕ} (hp : frameNonce p c = .ok nonce)
    (hq : frameNonce q d = .ok nonce) : p = q ∧ c = d := by
  obtain ⟨lp, hc, rfl⟩ := frameNonce_eq_ok.1 hp
  obtain ⟨lq, hd, h⟩ := frameNonce_eq_ok.1 hq
  obtain ⟨rfl, he⟩ := List.append_inj h (lp.trans lq.symm)
  refine ⟨rfl, BigEndian.encode_injective (lt_of_le_of_lt hc (by decide))
    (lt_of_le_of_lt hd (by decide)) he⟩

/-! ## Encryption -/

/-- A pending `subtle.encrypt` of `encryptFrame`. -/
structure EncryptCall where
  key : CryptoKey
  noncePrefix : Bytes
  iv : Bytes
  header : FrameHeader
  additionalData : Bytes
  plaintext : Bytes
  deriving DecidableEq, Repr

/-- `encryptFrame` up to its `await`. -/
def encryptFrame (key : CryptoKey) (noncePrefix : Bytes) (header : FrameHeader)
    (plaintext : Bytes) : Checked EncryptCall := do
  throwIf (header.plaintextLength ≠ plaintext.length)
    (protocolError "Frame plaintext length does not match the header." "invalid_length")
  let additionalData ← encodeFrameHeader header
  let iv ← frameNonce noncePrefix header.counter
  return { key, noncePrefix, iv, header, additionalData, plaintext }

/-- `encryptFrame` after its `await`. -/
def encryptFrameResume (call : EncryptCall) (result : Option Bytes) : Checked Bytes :=
  match result with
  | none => .error (protocolError "Unable to encrypt the frame." "crypto_failure")
  | some ciphertext => do
    throwIf (ciphertext.length ≠ call.plaintext.length + frameTagBytes)
      (protocolError "AES-GCM returned an invalid frame." "crypto_failure")
    return call.additionalData ++ ciphertext

theorem encryptFrame_eq_ok {key : CryptoKey} {noncePrefix plaintext : Bytes} {header : FrameHeader}
    {call : EncryptCall} :
    encryptFrame key noncePrefix header plaintext = .ok call ↔
      header.plaintextLength = plaintext.length ∧ header.Valid ∧ noncePrefix.length = 4 ∧
        call = ⟨key, noncePrefix, noncePrefix ++ BigEndian.encode 8 header.counter, header,
          header.bytes, plaintext⟩ := by
  simp only [encryptFrame, bind_eq_ok, throwIf_eq_ok, pure_eq_ok, encodeFrameHeader_eq_ok,
    frameNonce_eq_ok, ne_eq, not_not]
  constructor
  · rintro ⟨-, hl, _, ⟨hv, rfl⟩, _, ⟨hp, -, rfl⟩, rfl⟩
    exact ⟨hl, hv, hp, rfl⟩
  · rintro ⟨hl, hv, hp, rfl⟩
    exact ⟨(), hl, _, ⟨hv, rfl⟩, _, ⟨hp, hv.counter_le, rfl⟩, rfl⟩

theorem encryptFrameResume_eq_ok {call : EncryptCall} {result : Option Bytes} {frame : Bytes} :
    encryptFrameResume call result = .ok frame ↔ ∃ ciphertext, result = some ciphertext ∧
      ciphertext.length = call.plaintext.length + frameTagBytes ∧
        frame = call.additionalData ++ ciphertext := by
  cases result with
  | none => simp [encryptFrameResume]
  | some ciphertext =>
    simp only [encryptFrameResume, bind_eq_ok, throwIf_eq_ok, pure_eq_ok, Option.some.injEq, ne_eq,
      not_not]
    constructor
    · rintro ⟨-, hl, rfl⟩
      exact ⟨ciphertext, rfl, hl, rfl⟩
    · rintro ⟨_, rfl, hl, rfl⟩
      exact ⟨(), hl, rfl⟩

/-! ## Decryption -/

/-- `splitFrame` -/
def splitFrame (bytes : Bytes) : Checked (FrameHeader × Bytes) := do
  throwIf (bytes.length < frameHeaderBytes + frameTagBytes ∨ bytes.length > maxFrameBytes)
    (protocolError "Frame has an invalid length." "invalid_length")
  let header ← parseFrameHeader (slice bytes 0 frameHeaderBytes)
  throwIf (bytes.length ≠ frameHeaderBytes + header.plaintextLength + frameTagBytes)
    (protocolError "Frame length does not match its header." "invalid_length")
  return (header, bytes.drop frameHeaderBytes)

/-- A pending `subtle.decrypt` of `decryptFrame`. -/
structure DecryptCall where
  key : CryptoKey
  iv : Bytes
  header : FrameHeader
  additionalData : Bytes
  ciphertext : Bytes
  deriving DecidableEq, Repr

/-- `decryptFrame` up to its `await`, with the three expectations that `receiveFrame` passes. -/
def decryptFrame (key : CryptoKey) (noncePrefix frame : Bytes) (expectedTransferId : JsString)
    (expectedDirection : FrameDirection) (expectedCounter : ℕ) : Checked DecryptCall := do
  let (header, ciphertext) ← splitFrame frame
  throwIf (header.transferId ≠ expectedTransferId)
    (protocolError "Frame transfer identifier does not match." "identity_mismatch")
  throwIf (header.direction ≠ expectedDirection)
    (protocolError "Frame direction does not match." "direction_mismatch")
  let actualCounter ← requireFrameCounter header.counter
  let expected ← requireFrameCounter expectedCounter
  throwIf (actualCounter ≠ expected)
    (protocolError "Frame counter is out of order." "counter_mismatch")
  let iv ← frameNonce noncePrefix header.counter
  let additionalData ← encodeFrameHeader header
  return { key, iv, header, additionalData, ciphertext }

/-- `decryptFrame` after its `await`. -/
def decryptFrameResume (call : DecryptCall) (result : Option Bytes) : Checked Bytes :=
  match result with
  | none => .error (protocolError "Frame authentication failed." "authentication_failed")
  | some plaintext => do
    throwIf (plaintext.length ≠ call.header.plaintextLength)
      (protocolError "Frame plaintext length does not match." "invalid_length")
    return plaintext

theorem splitFrame_eq_ok {frame ciphertext : Bytes} {header : FrameHeader}
    (h : splitFrame frame = .ok (header, ciphertext)) :
    parseFrameHeader (slice frame 0 frameHeaderBytes) = .ok header ∧
      ciphertext = frame.drop frameHeaderBytes ∧
      ciphertext.length = header.plaintextLength + frameTagBytes := by
  simp only [splitFrame, bind_eq_ok, throwIf_eq_ok, pure_eq_ok, Prod.mk.injEq] at h
  obtain ⟨-, -, header', hparse, -, hlen, rfl, rfl⟩ := h
  refine ⟨hparse, rfl, ?_⟩
  rw [List.length_drop]
  omega

/-- A frame put together from a header in range and a ciphertext of the right length is taken
apart again, unless its type may not travel in its direction. -/
theorem splitFrame_append {header parsed : FrameHeader} {ciphertext rest : Bytes}
    (uuid : isUuid header.transferId = true) (version : header.v = transferProtocolVersion)
    (counter_le : header.counter ≤ maxFrameCounter)
    (length_le : header.plaintextLength ≤ maxFramePlaintextBytes)
    (hlen : ciphertext.length = header.plaintextLength + frameTagBytes) :
    splitFrame (header.bytes ++ ciphertext) = .ok (parsed, rest) ↔
      header.type.travels header.direction = true ∧ parsed = header ∧ rest = ciphertext := by
  have hbytes := FrameHeader.length_bytes uuid
  have hslice : slice (header.bytes ++ ciphertext) 0 frameHeaderBytes = header.bytes := by
    simp [slice, ← hbytes]
  have hdrop : (header.bytes ++ ciphertext).drop frameHeaderBytes = ciphertext := by
    rw [← hbytes, List.drop_left]
  simp only [splitFrame, bind_eq_ok, throwIf_eq_ok, pure_eq_ok, hslice, hdrop, List.length_append,
    hbytes, hlen, FrameHeader.parse_bytes_eq_ok uuid version counter_le length_le, Prod.mk.injEq]
  constructor
  · rintro ⟨-, -, _, ⟨ht, rfl⟩, -, -, rfl, rfl⟩
    exact ⟨ht, rfl, rfl⟩
  · rintro ⟨ht, rfl, rfl⟩
    refine ⟨(), ?_, _, ⟨ht, rfl⟩, (), by omega, rfl, rfl⟩
    simp only [maxFrameBytes]
    omega

theorem decryptFrame_eq_ok {key : CryptoKey} {noncePrefix frame : Bytes} {id : JsString}
    {direction : FrameDirection} {counter : ℕ} {call : DecryptCall} :
    decryptFrame key noncePrefix frame id direction counter = .ok call ↔
      ∃ header ciphertext, splitFrame frame = .ok (header, ciphertext) ∧
        header.transferId = id ∧ header.direction = direction ∧ header.counter = counter ∧
        noncePrefix.length = 4 ∧ header.Valid ∧
        call = ⟨key, noncePrefix ++ BigEndian.encode 8 counter, header, header.bytes,
          ciphertext⟩ := by
  simp only [decryptFrame, requireFrameCounter, bind_eq_ok, throwIf_eq_ok, pure_eq_ok,
    encodeFrameHeader_eq_ok, frameNonce_eq_ok, ne_eq, not_not, Prod.exists]
  constructor
  · rintro ⟨header, ciphertext, hs, -, hid, -, hd, _, ⟨-, -, rfl⟩, _, ⟨-, -, rfl⟩, -, rfl, _,
      ⟨hp, -, rfl⟩, _, ⟨hv, rfl⟩, rfl⟩
    exact ⟨header, ciphertext, hs, hid, hd, rfl, hp, hv, rfl⟩
  · rintro ⟨header, ciphertext, hs, hid, hd, rfl, hp, hv, rfl⟩
    have hc : ¬ header.counter > maxFrameCounter := not_lt.2 hv.counter_le
    exact ⟨header, ciphertext, hs, (), hid, (), hd, _, ⟨(), hc, rfl⟩, _, ⟨(), hc, rfl⟩, (), rfl, _,
      ⟨hp, hv.counter_le, rfl⟩, _, ⟨hv, rfl⟩, rfl⟩

theorem decryptFrameResume_eq_ok {call : DecryptCall} {result : Option Bytes} {plaintext : Bytes} :
    decryptFrameResume call result = .ok plaintext ↔
      result = some plaintext ∧ plaintext.length = call.header.plaintextLength := by
  cases result with
  | none => simp [decryptFrameResume]
  | some opened =>
    simp only [decryptFrameResume, bind_eq_ok, throwIf_eq_ok, pure_eq_ok, Option.some.injEq, ne_eq,
      not_not]
    constructor
    · rintro ⟨-, hl, rfl⟩
      exact ⟨rfl, hl⟩
    · rintro ⟨rfl, hl⟩
      exact ⟨(), hl, rfl⟩

end SelfRelay
