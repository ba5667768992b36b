import SelfRelay.Lib.Sha256
import SelfRelay.Protocol.Base64Url
import SelfRelay.Protocol.CanonicalJson
import SelfRelay.Protocol.Uuid
import SelfRelay.Protocol.WebCrypto

/-!
# The handshake

The signed offer and answer of `transferProtocol.ts`, with the functions that build and check them,
and the key material that both sides derive from the two messages.

A message is a JSON value, since every function reads it as `unknown`; a validated core is a
record.  A safe integer is read as a natural number.  This loses only `-0`, which is accepted for
`0` and which neither a comparison nor the canonical text tells apart from it.
-/

namespace SelfRelay

/-! ## Messages -/

/-- The fields that the offer and the answer share, and that the answer repeats. -/
structure HandshakeIdentity where
  transferId : JsString
  accountEpoch : ℕ
  senderDeviceId : JsString
  recipientDeviceId : JsString
  deriving DecidableEq, Repr

structure HandshakeOfferCore extends HandshakeIdentity where
  senderEphemeralSpki : JsString
  senderNonce : JsString
  issuedAt : ℕ
  expiresAt : ℕ
  deriving DecidableEq, Repr

structure HandshakeAnswerCore extends HandshakeIdentity where
  offerHash : JsString
  recipientEphemeralSpki : JsString
  recipientNonce : JsString
  issuedAt : ℕ
  expiresAt : ℕ
  deriving DecidableEq, Repr

/-- The object of an offer core. -/
def HandshakeOfferCore.json (core : HandshakeOfferCore) : Json :=
  .object [(js "v", numberField 1), (js "type", .string (js "handshake_offer")),
    (js "transfer_id", .string core.transferId),
    (js "account_epoch", numberField core.accountEpoch),
    (js "sender_device_id", .string core.senderDeviceId),
    (js "recipient_device_id", .string core.recipientDeviceId),
    (js "sender_ephemeral_spki", .string core.senderEphemeralSpki),
    (js "sender_nonce", .string core.senderNonce), (js "issued_at", numberField core.issuedAt),
    (js "expires_at", numberField core.expiresAt)]

/-- The object of an answer core. -/
def HandshakeAnswerCore.json (core : HandshakeAnswerCore) : Json :=
  .object [(js "v", numberField 1), (js "type", .string (js "handshake_answer")),
    (js "transfer_id", .string core.transferId),
    (js "account_epoch", numberField core.accountEpoch),
    (js "sender_device_id", .string core.senderDeviceId),
    (js "recipient_device_id", .string core.recipientDeviceId),
    (js "offer_hash", .string core.offerHash),
    (js "recipient_ephemeral_spki", .string core.recipientEphemeralSpki),
    (js "recipient_nonce", .string core.recipientNonce),
    (js "issued_at", numberField core.issuedAt),
    (js "expires_at", numberField core.expiresAt)]

/-- `SignedMessageOptions` -/
structure SignedMessageOptions where
  transferId : JsString
  accountEpoch : JsNumber
  senderDeviceId : JsString
  recipientDeviceId : JsString
  issuedAt : Option JsNumber
  expiresAt : JsNumber
  nonce : Option Bytes
  signingKey : CryptoKey
  ephemeralKeyPair : Option CryptoKeyPair

/-- `HandshakeAnswerOptions`: the offer is the signed message or its core. -/
structure HandshakeAnswerOptions extends SignedMessageOptions where
  offer : Json

structure HandshakeExpectations where
  transferId : Option JsString
  accountEpoch : Option JsNumber
  senderDeviceId : Option JsString
  recipientDeviceId : Option JsString
  now : Option JsNumber

structure HandshakeAnswerExpectations extends HandshakeExpectations where
  offer : Json

/-- The result of `createHandshakeOffer` and `createHandshakeAnswer`. -/
structure SignedHandshake (Core : Type) where
  core : Core
  signature : JsString
  ephemeralKeyPair : CryptoKeyPair

namespace Handshake

def invalidHandshake (message : String) : ProtocolError := protocolError message "invalid_handshake"

/-! ## Fields -/

/-- A key inside an error message.  A lone surrogate, which no Lean string has, is left out. -/
def keyText (key : JsString) : String :=
  String.ofList ((codePoints key).filterMap fun c =>
    if c.isValidChar then some (Char.ofNat c) else none)

/-- `isPlainRecord`, or the error to throw. -/
def plainRecord (value : Option Json) (error : ProtocolError) : Checked Members :=
  match value with
  | some (.object members) => .ok members
  | _ => .error error

/-- `requireSafeInteger` -/
def requireSafeInteger (value : Option Json) (name : String) : Checked ℕ :=
  let error := invalidHandshake (name ++ " must be a safe integer.")
  match value with
  | some (.number n) =>
    match n.value? with
    | some q => if n.isSafeInteger ∧ 0 ≤ q then .ok q.num.natAbs else .error error
    | none => .error error
  | _ => .error error

/-- `requireUuid` -/
def requireUuid (value : Option Json) (name : String) : Checked JsString :=
  match value with
  | some (.string s) => SelfRelay.requireUuid s name
  | _ => .error (invalidHandshake (name ++ " must be a lowercase UUID."))

/-- A base64url string whose bytes pass a test on their number. -/
def requireBase64 (value : Option Json) (name : String) (maximumBytes : ℕ) (length : ℕ → Bool) :
    Checked JsString :=
  match value with
  | some (.string s) => do
    let bytes ← decodeBase64Url s maximumBytes
    throwIf (length bytes.length = false) (invalidHandshake (name ++ " has an invalid length."))
    return s
  | _ => .error (invalidHandshake (name ++ " must be base64url."))

/-- `requireFixedBase64` -/
def requireFixedBase64 (value : Option Json) (name : String) (length : ℕ) : Checked JsString :=
  requireBase64 value name (max length 1024) fun n => n = length

/-- `requireSpkiBase64` -/
def requireSpkiBase64 (value : Option Json) (name : String) : Checked JsString :=
  requireBase64 value name 1024 fun n => 1 ≤ n && n ≤ 1024

/-- `requireExactKeys` -/
def requireExactKeys (value : Members) (keys : List String) : Checked Unit :=
  match (objectKeys value).find? fun key => !(keys.map js).contains key with
  | some key => .error (protocolError
      ("Signed message contains an unknown field: " ++ keyText key ++ ".") "extra_field")
  | none =>
    match keys.find? fun key => !(value.map Prod.fst).contains (js key) with
    | some key =>
      .error (protocolError ("Signed message is missing field: " ++ key ++ ".") "missing_field")
    | none => .ok ()

def offerKeys : List String :=
  ["v", "type", "transfer_id", "account_epoch", "sender_device_id", "recipient_device_id",
    "sender_ephemeral_spki", "sender_nonce", "issued_at", "expires_at"]

def answerKeys : List String :=
  ["v", "type", "transfer_id", "account_epoch", "sender_device_id", "recipient_device_id",
    "offer_hash", "recipient_ephemeral_spki", "recipient_nonce", "issued_at", "expires_at"]

/-! ## Validation -/

/-- `expiresAt <= now` -/
def isExpired (expiresAt : ℕ) (now : JsNumber) : Bool := (JsNumber.ofNat expiresAt).le now

/-- `validateExpiry` -/
def validateExpiry (issuedAt expiresAt : ℕ) (now : JsNumber) : Checked Unit :=
  throwIf (expiresAt ≤ issuedAt ∨ isExpired expiresAt now)
    (protocolError "Handshake message has expired." "expired_handshake")

/-- `validateHandshakeOfferCore` -/
def validateHandshakeOfferCore (value : Option Json) (now : JsNumber) :
    Checked HandshakeOfferCore := do
  let value ← plainRecord value (invalidHandshake "Handshake offer must be an object.")
  requireExactKeys value offerKeys
  throwIf (isOne (field value "v") = false ∨
    isString (field value "type") "handshake_offer" = false)
    (protocolError "Handshake offer version or type is unsupported." "unsupported_version")
  let issuedAt ← requireSafeInteger (field value "issued_at") "issued_at"
  let expiresAt ← requireSafeInteger (field value "expires_at") "expires_at"
  validateExpiry issuedAt expiresAt now
  let transferId ← requireUuid (field value "transfer_id") "transfer_id"
  let accountEpoch ← requireSafeInteger (field value "account_epoch") "account_epoch"
  let senderDeviceId ← requireUuid (field value "sender_device_id") "sender_device_id"
  let recipientDeviceId ← requireUuid (field value "recipient_device_id") "recipient_device_id"
  let senderEphemeralSpki ←
    requireSpkiBase64 (field value "sender_ephemeral_spki") "sender_ephemeral_spki"
  let senderNonce ← requireFixedBase64 (field value "sender_nonce") "sender_nonce" 32
  return {
    transferId := transferId
    accountEpoch, senderDeviceId, recipientDeviceId, senderEphemeralSpki, senderNonce, issuedAt
    expiresAt }

/-- `validateHandshakeAnswerCore` -/
def validateHandshakeAnswerCore (value : Option Json) (now : JsNumber) :
    Checked HandshakeAnswerCore := do
  let value ← plainRecord value (invalidHandshake "Handshake answer must be an object.")
  requireExactKeys value answerKeys
  throwIf (isOne (field value "v") = false ∨
    isString (field value "type") "handshake_answer" = false)
    (protocolError "Handshake answer version or type is unsupported." "unsupported_version")
  let issuedAt ← requireSafeInteger (field value "issued_at") "issued_at"
  let expiresAt ← requireSafeInteger (field value "expires_at") "expires_at"
  validateExpiry issuedAt expiresAt now
  let transferId ← requireUuid (field value "transfer_id") "transfer_id"
  let accountEpoch ← requireSafeInteger (field value "account_epoch") "account_epoch"
  let senderDeviceId ← requireUuid (field value "sender_device_id") "sender_device_id"
  let recipientDeviceId ← requireUuid (field value "recipient_device_id") "recipient_device_id"
  let offerHash ← requireFixedBase64 (field value "offer_hash") "offer_hash" 32
  let recipientEphemeralSpki ←
    requireSpkiBase64 (field value "recipient_ephemeral_spki") "recipient_ephemeral_spki"
  let recipientNonce ← requireFixedBase64 (field value "recipient_nonce") "recipient_nonce" 32
  return {
    transferId := transferId
    accountEpoch, senderDeviceId, recipientDeviceId, offerHash, recipientEphemeralSpki
    recipientNonce, issuedAt, expiresAt }

/-- `signedWrapper` -/
def signedWrapper (value : Json) : Checked (Option Json × JsString) := do
  let value ← plainRecord (some value)
    (invalidHandshake "Signed handshake message must be an object.")
  requireExactKeys value ["core", "signature"]
  match field value "signature" with
  | some (.string text) => do
    let signature ← decodeBase64Url text p256SignatureBytes
    throwIf (signature.length ≠ p256SignatureBytes)
      (invalidSignature "Handshake signature must be 64-byte P1363.")
    return (field value "core", text)
  | _ => .error (invalidSignature "Handshake signature must be base64url.")

/-- `offerCoreFrom`; `dateNow` is what `Date.now()` returns in it. -/
def offerCoreFrom (value : Json) (dateNow : JsNumber) : Checked HandshakeOfferCore :=
  match value.get? (js "core") with
  | some core => validateHandshakeOfferCore (some core) dateNow
  | none => validateHandshakeOfferCore (some value) dateNow

/-! ## Creation -/

/-- `assertMessageOptions`: the issue time, the expiry and the nonce.  `dateNow` and `random` are
the results of `Date.now()` and `randomBytes(32)`. -/
def assertMessageOptions (options : SignedMessageOptions) (dateNow : JsNumber) (random : Bytes) :
    Checked (ℕ × ℕ × Bytes) := do
  let issuedAt ← requireSafeInteger (some (.number (options.issuedAt.getD dateNow))) "issued_at"
  let expiresAt ← requireSafeInteger (some (.number options.expiresAt)) "expires_at"
  throwIf (expiresAt ≤ issuedAt) (invalidHandshake "Handshake expiry must be after issue time.")
  let nonce := options.nonce.getD random
  throwIf (nonce.length ≠ 32) (invalidHandshake "Handshake nonce must be 32 bytes.")
  return (issuedAt, expiresAt, nonce)

/-- `callerEphemeralTransferIds` -/
abbrev EphemeralTransferIds := List (JsString × JsString)

/-- `reserveCallerEphemeralKeyPair` -/
def reserveCallerEphemeralKeyPair (ephemeralKeyPair : Option CryptoKeyPair) (transferId : JsString)
    (publicSpki : Bytes) (ids : EphemeralTransferIds) : Checked EphemeralTransferIds :=
  match ephemeralKeyPair with
  | none => .ok ids
  | some _ => do
    let publicKeyId := encodeBase64Url publicSpki
    throwIf (∃ reserved ∈ ids.lookup publicKeyId, reserved ≠ transferId)
      (protocolError "Caller-supplied ephemeral key material cannot be reused across transfers."
        "ephemeral_key_reuse")
    return (publicKeyId, transferId) :: ids

/-- The caller's key pair or a new one, with its public SPKI.  `generated` is the outcome of
`generateP256AgreementKeyPair`. -/
def ephemeralKey (crypto : HandshakeCrypto) (options : SignedMessageOptions)
    (generated : Option CryptoKeyPair) : Checked (CryptoKeyPair × Bytes) :=
  match options.ephemeralKeyPair <|> generated with
  | none => .error (protocolError "Unable to generate a P-256 agreement key." "crypto_failure")
  | some pair => do
    let spki ← crypto.exportSpki pair.publicKey
    return (pair, spki)

/-- The signature over a validated core, and the result with it. -/
def signCore {Core : Type} (crypto : HandshakeCrypto) (signingKey : CryptoKey) (core : Core)
    (json : Json) (ephemeralKeyPair : CryptoKeyPair) : Checked (SignedHandshake Core) := do
  let message ← canonicalJsonBytes json
  let signature ← crypto.signP256 signingKey message
  return { core, signature := encodeBase64Url signature, ephemeralKeyPair }

/-- `createHandshakeOffer`.  The reserved identifiers stay reserved when a later step fails. -/
def createHandshakeOffer (crypto : HandshakeCrypto) (options : SignedMessageOptions)
    (dateNow : JsNumber) (random : Bytes) (generated : Option CryptoKeyPair)
    (ids : EphemeralTransferIds) :
    EphemeralTransferIds × Checked (SignedHandshake HandshakeOfferCore) :=
  let prepared : Checked _ := do
    let (issuedAt, expiresAt, nonce) ← assertMessageOptions options dateNow random
    let (pair, spki) ← ephemeralKey crypto options generated
    let transferId ← SelfRelay.requireUuid options.transferId "transfer_id"
    let ids ← reserveCallerEphemeralKeyPair options.ephemeralKeyPair transferId spki ids
    return (ids, issuedAt, expiresAt, nonce, pair, spki)
  match prepared with
  | .error error => (ids, .error error)
  | .ok (ids, issuedAt, expiresAt, nonce, pair, spki) =>
    (ids, do
      let core : Json :=
        .object [(js "v", numberField 1), (js "type", .string (js "handshake_offer")),
        (js "transfer_id", .string options.transferId),
        (js "account_epoch", .number options.accountEpoch),
        (js "sender_device_id", .string options.senderDeviceId),
        (js "recipient_device_id", .string options.recipientDeviceId),
        (js "sender_ephemeral_spki", .string (encodeBase64Url spki)),
        (js "sender_nonce", .string (encodeBase64Url nonce)),
        (js "issued_at", numberField issuedAt),
        (js "expires_at", numberField expiresAt)]
      let validCore ← validateHandshakeOfferCore (some core) (.ofNat issuedAt)
      signCore crypto options.signingKey validCore validCore.json pair)

/-- What `createHandshakeAnswer` does before it reserves the key pair.  `Date.now()` is read first
for the offer and then for the issue time. -/
def prepareHandshakeAnswer (crypto : HandshakeCrypto) (options : HandshakeAnswerOptions)
    (dateNow issueNow : JsNumber) (random : Bytes) (generated : Option CryptoKeyPair) :
    Checked (HandshakeOfferCore × (ℕ × ℕ × Bytes) × CryptoKeyPair × Bytes) := do
  let offer ← offerCoreFrom options.offer dateNow
  let message ← assertMessageOptions options.toSignedMessageOptions issueNow random
  throwIf (offer.transferId ≠ options.transferId ∨ offer.senderDeviceId ≠ options.senderDeviceId ∨
      offer.recipientDeviceId ≠ options.recipientDeviceId ∨
      (JsNumber.ofNat offer.accountEpoch).strictEq options.accountEpoch = false)
    (protocolError "Handshake answer identities do not match the offer." "identity_mismatch")
  throwIf (message.2.1 > offer.expiresAt)
    (invalidHandshake "Handshake answer cannot outlive the offer.")
  let ephemeral ← ephemeralKey crypto options.toSignedMessageOptions generated
  return (offer, message, ephemeral)

/-- What `createHandshakeAnswer` does after it reserved the key pair. -/
def completeHandshakeAnswer (crypto : HandshakeCrypto) (signingKey : CryptoKey)
    (offer : HandshakeOfferCore) (message : ℕ × ℕ × Bytes) (ephemeral : CryptoKeyPair × Bytes) :
    Checked (SignedHandshake HandshakeAnswerCore) := do
  let offerBytes ← canonicalJsonBytes offer.json
  let core : HandshakeAnswerCore := {
    toHandshakeIdentity := offer.toHandshakeIdentity
    offerHash := encodeBase64Url (Sha256.hash offerBytes)
    recipientEphemeralSpki := encodeBase64Url ephemeral.2
    recipientNonce := encodeBase64Url message.2.2
    issuedAt := message.1
    expiresAt := message.2.1 }
  let validCore ← validateHandshakeAnswerCore (some core.json) (.ofNat message.1)
  signCore crypto signingKey validCore validCore.json ephemeral.1

/-- `createHandshakeAnswer` -/
def createHandshakeAnswer (crypto : HandshakeCrypto) (options : HandshakeAnswerOptions)
    (dateNow issueNow : JsNumber) (random : Bytes) (generated : Option CryptoKeyPair)
    (ids : EphemeralTransferIds) :
    EphemeralTransferIds × Checked (SignedHandshake HandshakeAnswerCore) :=
  let prepared : Checked _ := do
    let (offer, message, ephemeral) ←
      prepareHandshakeAnswer crypto options dateNow issueNow random generated
    let ids ←
      reserveCallerEphemeralKeyPair options.ephemeralKeyPair offer.transferId ephemeral.2 ids
    return (ids, offer, message, ephemeral)
  match prepared with
  | .error error => (ids, .error error)
  | .ok (ids, offer, message, ephemeral) =>
    (ids, completeHandshakeAnswer crypto options.signingKey offer message ephemeral)

/-! ## Acceptance -/

/-- `assertExpectedIdentity` -/
def assertExpectedIdentity (message : HandshakeIdentity) (expected : HandshakeExpectations) :
    Checked Unit := do
  throwIf (∃ id ∈ expected.transferId, message.transferId ≠ id)
    (protocolError "Handshake transfer identifier does not match." "identity_mismatch")
  throwIf (∃ epoch ∈ expected.accountEpoch,
      (JsNumber.ofNat message.accountEpoch).strictEq epoch = false)
    (protocolError "Handshake account epoch does not match." "identity_mismatch")
  throwIf (∃ id ∈ expected.senderDeviceId, message.senderDeviceId ≠ id)
    (protocolError "Handshake sender does not match." "identity_mismatch")
  throwIf (∃ id ∈ expected.recipientDeviceId, message.recipientDeviceId ≠ id)
    (protocolError "Handshake recipient does not match." "identity_mismatch")

/-- The signature check of both assertions. -/
def assertSigned (crypto : WebCrypto) (publicKey : SigningPublicKey) (core : Json)
    (signature : JsString) (message : String) : Checked Unit := do
  let key ← crypto.resolveSigningKey publicKey
  let bytes ← canonicalJsonBytes core
  let signature ← decodeBase64Url signature p256SignatureBytes
  throwIf (crypto.verifyP256 key bytes signature = false) (invalidSignature message)

/-- The check that an ephemeral SPKI is a P-256 key. -/
def assertEphemeral (crypto : WebCrypto) (spki : JsString) : Checked Unit := do
  let bytes ← decodeBase64Url spki 1024
  let _ ← crypto.importP256Spki bytes .agreement
  return ()

/-- `assertValidHandshakeOffer` -/
def assertValidHandshakeOffer (crypto : WebCrypto) (value : Json)
    (senderPublicKey : SigningPublicKey) (expectations : HandshakeExpectations)
    (dateNow : JsNumber) : Checked HandshakeOfferCore := do
  let (value, signature) ← signedWrapper value
  let core ← validateHandshakeOfferCore value (expectations.now.getD dateNow)
  assertExpectedIdentity core.toHandshakeIdentity expectations
  assertSigned crypto senderPublicKey core.json signature "Handshake offer signature is invalid."
  assertEphemeral crypto core.senderEphemeralSpki
  return core

/-- `assertValidHandshakeAnswer`.  `Date.now()` is read for the offer and, unless the expectations
give a time, for the answer. -/
def assertValidHandshakeAnswer (crypto : WebCrypto) (value : Json)
    (recipientPublicKey : SigningPublicKey) (expectations : HandshakeAnswerExpectations)
    (offerNow dateNow : JsNumber) : Checked HandshakeAnswerCore := do
  let (value, signature) ← signedWrapper value
  let offer ← offerCoreFrom expectations.offer offerNow
  let core ← validateHandshakeAnswerCore value (expectations.now.getD dateNow)
  assertExpectedIdentity core.toHandshakeIdentity expectations.toHandshakeExpectations
  throwIf (core.toHandshakeIdentity ≠ offer.toHandshakeIdentity)
    (protocolError "Handshake answer identities do not match the offer." "identity_mismatch")
  throwIf (core.expiresAt > offer.expiresAt)
    (invalidHandshake "Handshake answer cannot outlive the offer.")
  let offerBytes ← canonicalJsonBytes offer.json
  let offerHash ← decodeBase64Url core.offerHash 32
  throwIf (Sha256.hash offerBytes ≠ offerHash)
    (protocolError "Handshake answer is bound to another offer." "offer_mismatch")
  assertSigned crypto recipientPublicKey core.json signature
    "Handshake answer signature is invalid."
  assertEphemeral crypto core.recipientEphemeralSpki
  return core

/-! ## Key material -/

def transcriptDomain : JsString := js "secure-transfer/v1/transcript"

def keyDerivationDomain : JsString := js "secure-transfer/v1/"

/-- `transcriptBytes` -/
def transcriptBytes (offer answer : Json) : Checked Bytes := do
  let offer ← validateHandshakeOfferCore (some offer) JsNumber.minSafeInteger
  let offerBytes ← canonicalJsonBytes offer.json
  let answer ← validateHandshakeAnswerCore (some answer) JsNumber.minSafeInteger
  let answerBytes ← canonicalJsonBytes answer.json
  return textEncode transcriptDomain ++ 0 :: offerBytes ++ 0 :: answerBytes

/-- `transcriptHash` -/
def transcriptHash (offer answer : Json) : Checked Bytes := do
  let bytes ← transcriptBytes offer answer
  return Sha256.hash bytes

structure DerivedHandshakeMaterial where
  transcriptHash : Bytes
  s2rKey : CryptoKey
  r2sKey : CryptoKey
  s2rNoncePrefix : Bytes
  r2sNoncePrefix : Bytes
  confirmation : Bytes
  role : Option TransferRole
  sendKey : Option CryptoKey
  receiveKey : Option CryptoKey
  sendNoncePrefix : Option Bytes
  receiveNoncePrefix : Option Bytes
  deriving DecidableEq, Repr

structure DeriveHandshakeMaterialOptions where
  offer : Json
  answer : Json
  localEphemeralPrivateKey : CryptoKey
  remoteEphemeralSpki : Bytes
  role : Option TransferRole

/-- `hkdfExpand` -/
def hkdfExpand (crypto : HandshakeCrypto) (ikm salt : Bytes) (labelSuffix : String) (length : ℕ) :
    Outcome Bytes :=
  (crypto.hkdf ikm salt (textEncode (keyDerivationDomain ++ js labelSuffix)) length).mapError .other

/-- What `deriveHandshakeMaterial` checks before it touches the private key: the transcript and the
peer's public key. -/
def checkedTranscript (crypto : WebCrypto) (options : DeriveHandshakeMaterialOptions) :
    Checked (Bytes × CryptoKey) := do
  let offer ← validateHandshakeOfferCore (some options.offer) JsNumber.minSafeInteger
  let answer ← validateHandshakeAnswerCore (some options.answer) JsNumber.minSafeInteger
  throwIf (offer.toHandshakeIdentity ≠ answer.toHandshakeIdentity)
    (protocolError "Handshake transcript identities do not match." "identity_mismatch")
  let transcript ← transcriptHash offer.json answer.json
  let remotePublicKey ← crypto.importP256Spki options.remoteEphemeralSpki .agreement
  return (transcript, remotePublicKey)

/-- The two directional keys, nonce prefixes and the confirmation of a shared secret. -/
def expandSecret (crypto : HandshakeCrypto) (sharedSecret transcript : Bytes) :
    Outcome DerivedHandshakeMaterial := do
  let s2rKeyBytes ← hkdfExpand crypto sharedSecret transcript "s2r-key" 32
  let r2sKeyBytes ← hkdfExpand crypto sharedSecret transcript "r2s-key" 32
  let s2rNoncePrefix ← hkdfExpand crypto sharedSecret transcript "s2r-nonce-prefix" 4
  let r2sNoncePrefix ← hkdfExpand crypto sharedSecret transcript "r2s-nonce-prefix" 4
  let confirmation ← hkdfExpand crypto sharedSecret transcript "confirmation" 32
  let s2rKey ← (crypto.importAesKey s2rKeyBytes).mapError .other
  let r2sKey ← (crypto.importAesKey r2sKeyBytes).mapError .other
  return {
    transcriptHash := transcript
    s2rKey, r2sKey, s2rNoncePrefix, r2sNoncePrefix, confirmation
    role := none
    sendKey := none
    receiveKey := none
    sendNoncePrefix := none
    receiveNoncePrefix := none }

/-- The fields that a role adds to the material. -/
def DerivedHandshakeMaterial.forRole (m : DerivedHandshakeMaterial) :
    Option TransferRole → DerivedHandshakeMaterial
  | none => m
  | some .sender =>
    { m with
      role := some .sender
      sendKey := some m.s2rKey
      receiveKey := some m.r2sKey
      sendNoncePrefix := some m.s2rNoncePrefix
      receiveNoncePrefix := some m.r2sNoncePrefix }
  | some .recipient =>
    { m with
      role := some .recipient
      sendKey := some m.r2sKey
      receiveKey := some m.s2rKey
      sendNoncePrefix := some m.r2sNoncePrefix
      receiveNoncePrefix := some m.s2rNoncePrefix }

/-- `deriveHandshakeMaterial`.  The expansions run at once in the source; when several of them
reject, the first in this order is reported here. -/
def deriveHandshakeMaterial (crypto : HandshakeCrypto) (options : DeriveHandshakeMaterialOptions) :
    Outcome DerivedHandshakeMaterial := do
  let (transcript, remotePublicKey) ← (checkedTranscript crypto.toWebCrypto options).outcome
  let sharedSecret ←
    (crypto.ecdh remotePublicKey options.localEphemeralPrivateKey).mapError .other
  let material ← expandSecret crypto sharedSecret transcript
  return material.forRole options.role

/-! ## What validation accepts -/

section Validation

open JsNumber

attribute [local simp] plainRecord requireSafeInteger requireUuid requireBase64

/-- A record whose keys are the expected ones, in their order. -/
theorem requireExactKeys_of_keys {members : Members} {keys : List String}
    (h : members.map Prod.fst = keys.map js) (hkeys : ∀ key ∈ keys, arrayIndex? (js key) = none) :
    requireExactKeys members keys = .ok () := by
  have hkeys' : ∀ key ∈ keys.map js, arrayIndex? key = none := by simpa using hkeys
  have hindices : (keys.map js).filterMap arrayIndex? = [] := List.filterMap_eq_nil_iff.2 hkeys'
  have hobject : objectKeys members = keys.map js := by
    simp only [objectKeys, h, hindices, List.insertionSort_nil, List.map_nil, List.nil_append]
    exact List.filter_eq_self.2 fun key hkey => by rw [hkeys' key hkey]; rfl
  have hextra : (objectKeys members).find? (fun key => !(keys.map js).contains key) = none := by
    rw [hobject, List.find?_eq_none]
    intro key hkey
    simpa using hkey
  have hmissing : keys.find? (fun key => !(members.map Prod.fst).contains (js key)) = none := by
    rw [h, List.find?_eq_none]
    intro key hkey
    simpa using List.mem_map_of_mem hkey
  rw [requireExactKeys, hextra]
  dsimp only
  rw [hmissing]

theorem offerKeys_plain : ∀ key ∈ offerKeys, arrayIndex? (js key) = none := by decide +kernel
theorem answerKeys_plain : ∀ key ∈ answerKeys, arrayIndex? (js key) = none := by decide +kernel

theorem requireSafeInteger_numberField {n : ℕ} (h : n ≤ maxSafeInteger) (name : String) :
    requireSafeInteger (some (numberField n)) name = .ok n := by
  have hsafe : (JsNumber.ofNat n).isSafeInteger = true := by
    simp [JsNumber.ofNat, isSafeInteger, value?, h]
  have hvalue : (JsNumber.ofNat n).value? = some (n : ℚ) := rfl
  simp [requireSafeInteger, numberField, hsafe, hvalue]

theorem requireSafeInteger_le {value : Option Json} {name : String} {n : ℕ}
    (h : requireSafeInteger value name = .ok n) : n ≤ maxSafeInteger := by
  unfold requireSafeInteger at h
  split at h
  · rename_i number
    dsimp only at h
    split at h
    · rename_i q hq
      split_ifs at h with hsafe
      obtain rfl := Except.ok.inj h
      have hsafe := hsafe.1
      simp only [isSafeInteger, hq, Bool.and_eq_true, decide_eq_true_eq] at hsafe
      exact hsafe.2
    · cases h
  · cases h

/-- What a reader returned, it returns again. -/
theorem requireSafeInteger_again {value : Option Json} {name : String} {n : ℕ}
    (h : requireSafeInteger value name = .ok n) :
    requireSafeInteger (some (numberField n)) name = .ok n :=
  requireSafeInteger_numberField (requireSafeInteger_le h) name

theorem requireUuid_again {value : Option Json} {name : String} {s : JsString}
    (h : requireUuid value name = .ok s) : requireUuid (some (.string s)) name = .ok s := by
  unfold requireUuid at h
  split at h
  · have hs := h
    simp only [SelfRelay.requireUuid, bind_eq_ok, pure_eq_ok] at hs
    obtain ⟨_, _, rfl⟩ := hs
    exact h
  · cases h

theorem requireBase64_again {value : Option Json} {name : String} {maximumBytes : ℕ}
    {length : ℕ → Bool} {s : JsString} (h : requireBase64 value name maximumBytes length = .ok s) :
    requireBase64 (some (.string s)) name maximumBytes length = .ok s := by
  unfold requireBase64 at h
  split at h
  · have hs := h
    simp only [bind_eq_ok, pure_eq_ok] at hs
    obtain ⟨_, _, _, _, rfl⟩ := hs
    exact h
  · cases h

theorem plainRecord_eq_ok {value : Option Json} {error : ProtocolError} {members : Members} :
    plainRecord value error = .ok members ↔ value = some (.object members) := by
  unfold plainRecord
  split <;> simp_all

theorem eq_of_requireSafeInteger {name : String} {m n : ℕ}
    (h : requireSafeInteger (some (numberField n)) name = .ok m) : m = n := by
  have hvalue : (JsNumber.ofNat n).value? = some (n : ℚ) := rfl
  simp only [requireSafeInteger, numberField, hvalue] at h
  split_ifs at h
  exact (Except.ok.inj h).symm

theorem eq_of_requireUuid {name : String} {s t : JsString}
    (h : requireUuid (some (.string s)) name = .ok t) : t = s := by
  simp only [requireUuid, SelfRelay.requireUuid, bind_eq_ok, pure_eq_ok] at h
  obtain ⟨_, _, rfl⟩ := h
  rfl

theorem eq_of_requireBase64 {name : String} {maximumBytes : ℕ} {length : ℕ → Bool} {s t : JsString}
    (h : requireBase64 (some (.string s)) name maximumBytes length = .ok t) : t = s := by
  simp only [requireBase64, bind_eq_ok, pure_eq_ok] at h
  obtain ⟨_, _, _, _, rfl⟩ := h
  rfl

/-- The fields that the two kinds of message share, as validation reads them. -/
structure MessageFields (members : Members) (expected : List String) (name : String)
    (identity : HandshakeIdentity) (issue expiry : ℕ) : Prop where
  keys : requireExactKeys members expected = .ok ()
  version : isOne (field members "v") = true
  type : isString (field members "type") name = true
  issuedAt : requireSafeInteger (field members "issued_at") "issued_at" = .ok issue
  expiresAt : requireSafeInteger (field members "expires_at") "expires_at" = .ok expiry
  issued : issue < expiry
  transferId : requireUuid (field members "transfer_id") "transfer_id" = .ok identity.transferId
  accountEpoch : requireSafeInteger (field members "account_epoch") "account_epoch" =
    .ok identity.accountEpoch
  senderDeviceId : requireUuid (field members "sender_device_id") "sender_device_id" =
    .ok identity.senderDeviceId
  recipientDeviceId : requireUuid (field members "recipient_device_id") "recipient_device_id" =
    .ok identity.recipientDeviceId

/-- The members of an offer that validation accepts. -/
structure OfferFields (members : Members) (core : HandshakeOfferCore) : Prop extends
    MessageFields members offerKeys "handshake_offer" core.toHandshakeIdentity core.issuedAt
      core.expiresAt where
  senderEphemeralSpki : requireSpkiBase64 (field members "sender_ephemeral_spki")
    "sender_ephemeral_spki" = .ok core.senderEphemeralSpki
  senderNonce : requireFixedBase64 (field members "sender_nonce") "sender_nonce" 32 =
    .ok core.senderNonce

/-- The members of an answer that validation accepts. -/
structure AnswerFields (members : Members) (core : HandshakeAnswerCore) : Prop extends
    MessageFields members answerKeys "handshake_answer" core.toHandshakeIdentity core.issuedAt
      core.expiresAt where
  offerHash : requireFixedBase64 (field members "offer_hash") "offer_hash" 32 = .ok core.offerHash
  recipientEphemeralSpki : requireSpkiBase64 (field members "recipient_ephemeral_spki")
    "recipient_ephemeral_spki" = .ok core.recipientEphemeralSpki
  recipientNonce : requireFixedBase64 (field members "recipient_nonce") "recipient_nonce" 32 =
    .ok core.recipientNonce

variable {value : Option Json} {now now' : JsNumber} {offer offer' : HandshakeOfferCore}
  {answer answer' : HandshakeAnswerCore}

theorem validateHandshakeOfferCore_eq_ok : validateHandshakeOfferCore value now = .ok offer ↔
    ∃ members, value = some (.object members) ∧ OfferFields members offer ∧
      isExpired offer.expiresAt now = false := by
  simp only [validateHandshakeOfferCore, validateExpiry, bind_eq_ok, pure_eq_ok, throwIf_eq_ok,
    plainRecord_eq_ok, not_or, Bool.not_eq_false, not_le, Bool.not_eq_true]
  constructor
  · rintro ⟨members, hmembers, _, hkeys, _, ⟨hversion, htype⟩, issuedAt, hissuedAt, expiresAt,
      hexpiresAt, _, ⟨hissued, hexpired⟩, transferId, htransferId, accountEpoch, haccountEpoch,
      senderDeviceId, hsender, recipientDeviceId, hrecipient, spki, hspki, nonce, hnonce, rfl⟩
    exact ⟨members, hmembers, ⟨⟨hkeys, hversion, htype, hissuedAt, hexpiresAt, hissued, htransferId,
      haccountEpoch, hsender, hrecipient⟩, hspki, hnonce⟩, hexpired⟩
  · rintro ⟨members, hmembers, h, hexpired⟩
    exact ⟨members, hmembers, _, h.keys, (), ⟨h.version, h.type⟩, _, h.issuedAt, _, h.expiresAt, (),
      ⟨h.issued, hexpired⟩, _, h.transferId, _, h.accountEpoch, _, h.senderDeviceId, _,
      h.recipientDeviceId, _, h.senderEphemeralSpki, _, h.senderNonce, rfl⟩

theorem validateHandshakeAnswerCore_eq_ok : validateHandshakeAnswerCore value now = .ok answer ↔
    ∃ members, value = some (.object members) ∧ AnswerFields members answer ∧
      isExpired answer.expiresAt now = false := by
  simp only [validateHandshakeAnswerCore, validateExpiry, bind_eq_ok, pure_eq_ok, throwIf_eq_ok,
    plainRecord_eq_ok, not_or, Bool.not_eq_false, not_le, Bool.not_eq_true]
  constructor
  · rintro ⟨members, hmembers, _, hkeys, _, ⟨hversion, htype⟩, issuedAt, hissuedAt, expiresAt,
      hexpiresAt, _, ⟨hissued, hexpired⟩, transferId, htransferId, accountEpoch, haccountEpoch,
      senderDeviceId, hsender, recipientDeviceId, hrecipient, hash, hhash, spki, hspki, nonce,
      hnonce, rfl⟩
    exact ⟨members, hmembers, ⟨⟨hkeys, hversion, htype, hissuedAt, hexpiresAt, hissued, htransferId,
      haccountEpoch, hsender, hrecipient⟩, hhash, hspki, hnonce⟩, hexpired⟩
  · rintro ⟨members, hmembers, h, hexpired⟩
    exact ⟨members, hmembers, _, h.keys, (), ⟨h.version, h.type⟩, _, h.issuedAt, _, h.expiresAt, (),
      ⟨h.issued, hexpired⟩, _, h.transferId, _, h.accountEpoch, _, h.senderDeviceId, _,
      h.recipientDeviceId, _, h.offerHash, _, h.recipientEphemeralSpki, _, h.recipientNonce, rfl⟩

/-- A validated offer is valid again, at any time before it expires. -/
theorem validateHandshakeOfferCore_json (h : validateHandshakeOfferCore value now = .ok offer)
    (hexpired : isExpired offer.expiresAt now' = false) :
    validateHandshakeOfferCore (some offer.json) now' = .ok offer := by
  obtain ⟨members, -, h, -⟩ := validateHandshakeOfferCore_eq_ok.1 h
  refine validateHandshakeOfferCore_eq_ok.2 ⟨_, rfl, ⟨?_, requireBase64_again h.senderEphemeralSpki,
    requireBase64_again h.senderNonce⟩, hexpired⟩
  exact ⟨requireExactKeys_of_keys rfl offerKeys_plain, rfl, rfl,
    requireSafeInteger_again h.issuedAt,
    requireSafeInteger_again h.expiresAt, h.issued, requireUuid_again h.transferId,
    requireSafeInteger_again h.accountEpoch, requireUuid_again h.senderDeviceId,
    requireUuid_again h.recipientDeviceId⟩

/-- A validated answer is valid again, at any time before it expires. -/
theorem validateHandshakeAnswerCore_json (h : validateHandshakeAnswerCore value now = .ok answer)
    (hexpired : isExpired answer.expiresAt now' = false) :
    validateHandshakeAnswerCore (some answer.json) now' = .ok answer := by
  obtain ⟨members, -, h, -⟩ := validateHandshakeAnswerCore_eq_ok.1 h
  refine validateHandshakeAnswerCore_eq_ok.2 ⟨_, rfl, ⟨?_, requireBase64_again h.offerHash,
    requireBase64_again h.recipientEphemeralSpki, requireBase64_again h.recipientNonce⟩, hexpired⟩
  exact ⟨requireExactKeys_of_keys rfl answerKeys_plain, rfl, rfl,
    requireSafeInteger_again h.issuedAt, requireSafeInteger_again h.expiresAt, h.issued,
    requireUuid_again h.transferId, requireSafeInteger_again h.accountEpoch,
    requireUuid_again h.senderDeviceId, requireUuid_again h.recipientDeviceId⟩

/-- Only the expiry depends on the time. -/
theorem validateHandshakeOfferCore_now (h : validateHandshakeOfferCore value now = .ok offer)
    (hexpired : isExpired offer.expiresAt now' = false) :
    validateHandshakeOfferCore value now' = .ok offer := by
  obtain ⟨members, hvalue, hfields, -⟩ := validateHandshakeOfferCore_eq_ok.1 h
  exact validateHandshakeOfferCore_eq_ok.2 ⟨members, hvalue, hfields, hexpired⟩

theorem validateHandshakeOfferCore_unique (h : validateHandshakeOfferCore value now = .ok offer)
    (h' : validateHandshakeOfferCore value now' = .ok offer') : offer = offer' := by
  -- no comparison with `NaN` holds, so nothing is expired at that time
  have hnan : validateHandshakeOfferCore value .nan = .ok offer :=
    validateHandshakeOfferCore_now h rfl
  have hnan' : validateHandshakeOfferCore value .nan = .ok offer' :=
    validateHandshakeOfferCore_now h' rfl
  exact Except.ok.inj (hnan.symm.trans hnan')

/-- Validation returns the core that it was given. -/
theorem eq_of_validateHandshakeAnswerCore
    (h : validateHandshakeAnswerCore (some answer.json) now = .ok answer') : answer' = answer := by
  obtain ⟨members, hmembers, h, -⟩ := validateHandshakeAnswerCore_eq_ok.1 h
  obtain rfl := Json.object.inj (Option.some.inj hmembers)
  have htransferId := eq_of_requireUuid h.transferId
  have hepoch := eq_of_requireSafeInteger h.accountEpoch
  have hsender := eq_of_requireUuid h.senderDeviceId
  have hrecipient := eq_of_requireUuid h.recipientDeviceId
  have hhash := eq_of_requireBase64 h.offerHash
  have hspki := eq_of_requireBase64 h.recipientEphemeralSpki
  have hnonce := eq_of_requireBase64 h.recipientNonce
  have hissuedAt := eq_of_requireSafeInteger h.issuedAt
  have hexpiresAt := eq_of_requireSafeInteger h.expiresAt
  obtain ⟨⟨_, _, _, _⟩, _, _, _, _, _⟩ := answer
  obtain ⟨⟨_, _, _, _⟩, _, _, _, _, _⟩ := answer'
  simp_all

/-- Nothing is expired at the smallest safe integer. -/
theorem isExpired_minSafeInteger (expiresAt : ℕ) :
    isExpired expiresAt minSafeInteger = false := by
  have hmin : (-(maxSafeInteger : ℚ)) < expiresAt := by
    have : (0 : ℚ) < maxSafeInteger := by norm_num [maxSafeInteger]
    have : (0 : ℚ) ≤ expiresAt := Nat.cast_nonneg _
    linarith
  simp [isExpired, JsNumber.le, JsNumber.lt, strictEq, minSafeInteger, JsNumber.ofNat, value?,
    hmin.le, hmin.ne']

/-- A message that expires later is not expired either. -/
theorem isExpired_mono {m n : ℕ} (h : m ≤ n) (hexpired : isExpired m now = false) :
    isExpired n now = false := by
  have hcast : (m : ℚ) ≤ n := Nat.cast_le.2 h
  unfold isExpired JsNumber.le JsNumber.lt at *
  cases now with
  | finite q =>
    simp only [value?, strictEq, JsNumber.ofNat, Bool.or_eq_false_iff,
      decide_eq_false_iff_not, not_lt, Option.isSome_some, Bool.true_and, Option.some.injEq]
      at hexpired ⊢
    exact ⟨hexpired.1.trans hcast, fun heq => hexpired.2 (le_antisymm (heq ▸ hcast) hexpired.1)⟩
  | negZero =>
    simp only [value?, strictEq, JsNumber.ofNat, Bool.or_eq_false_iff,
      decide_eq_false_iff_not, not_lt, Option.isSome_some, Bool.true_and, Option.some.injEq]
      at hexpired ⊢
    exact ⟨hexpired.1.trans hcast, fun heq => hexpired.2 (le_antisymm (heq ▸ hcast) hexpired.1)⟩
  | infinity negative => cases negative <;> simp_all [value?, strictEq, JsNumber.ofNat]
  | nan => rfl

end Validation

end Handshake

end SelfRelay
