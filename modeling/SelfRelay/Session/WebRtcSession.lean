import SelfRelay.Lib.Run
import SelfRelay.Protocol.Handshake

/-!
# The WebRTC session

`WebRtcTestSession` as a step function.  A call of `start` or `handleSignal`, and the sending of a
local candidate, is an entry of `calls` that says which `await` it is suspended in; nothing is ever
removed from `calls`, so an index identifies a call.  An event is a call of a public method, an
event of the peer connection, of a data channel or of the timer, or the continuation of a suspended
call.

What the browser and the signaling socket answer, the clock and fresh randomness are part of the
event.  The handshake functions are the ones of `Protocol.Handshake`, over one `HandshakeCrypto`.
Callbacks and the relay status, which nothing here reads, are left out.
-/

namespace SelfRelay

/-! ## Messages -/

/-- The fields of `TransferRequest` that a session reads; `expiresAt` is
`new Date(expires_at).getTime()`. -/
structure SessionTransfer where
  transferId : JsString
  senderDeviceId : JsString
  recipientDeviceId : JsString
  expiresAt : JsNumber
  deriving DecidableEq, Repr

/-- `RTCIceCandidateInit` -/
structure IceCandidate where
  candidate : JsString
  sdpMid : Option JsString
  sdpMLineIndex : Option JsNumber
  usernameFragment : Option JsString
  deriving DecidableEq, Repr

/-- What a `SignalingEnvelope` carries, by its type. -/
inductive SignalPayload where
  | sdpOffer (sdp : JsString)
  | sdpAnswer (sdp : JsString)
  | iceCandidate (candidate : IceCandidate)
  | handshakeOffer (handshake : Json)
  | handshakeAnswer (handshake : Json)

/-- The fields of `SignalingEnvelope` that a session reads. -/
structure SignalingEnvelope where
  transferId : JsString
  senderDeviceId : JsString
  recipientDeviceId : JsString
  payload : SignalPayload

/-- `envelopeFields` with a payload. -/
def SessionTransfer.envelope (transfer : SessionTransfer) (payload : SignalPayload) :
    SignalingEnvelope where
  transferId := transfer.transferId
  senderDeviceId := transfer.senderDeviceId
  recipientDeviceId := transfer.recipientDeviceId
  payload := payload

/-- `MAX_PENDING_ICE_CANDIDATES` -/
def maxPendingIceCandidates : ℕ := 64

/-! ## State -/

/-- `WebRtcTestState` -/
inductive WebRtcTestState where
  | idle
  | negotiating
  | connected
  | failed
  | closed
  deriving DecidableEq, Repr

/-- The states in which `setState` clears the negotiation timer. -/
def WebRtcTestState.settled : WebRtcTestState → Bool
  | .connected | .failed | .closed => true
  | .idle | .negotiating => false

/-- The options that a session keeps. -/
structure SessionOptions where
  transfer : SessionTransfer
  role : TransferRole
  signingKey : Option CryptoKey
  peerSigningPublicKey : Option SigningPublicKey
  accountEpoch : Option JsNumber

/-- The keys of an authenticated handshake, once all of them are found to be there. -/
structure HandshakeKeys where
  signingKey : CryptoKey
  peerSigningPublicKey : SigningPublicKey
  accountEpoch : JsNumber

def SessionOptions.handshakeKeys (options : SessionOptions) : Option HandshakeKeys := do
  return ⟨← options.signingKey, ← options.peerSigningPublicKey, ← options.accountEpoch⟩

/-- Where a call is suspended. -/
inductive SessionCall where
  /-- `start` awaits `createHandshakeOffer`, then `emitSignal`. -/
  | creatingOffer (keys : HandshakeKeys)
  | emittingOffer
  /-- `handleSignal` on a handshake offer awaits the functions
  of the handshake, then `emitSignal`. -/
  | validatingOffer (keys : HandshakeKeys) (handshake : Json)
  | creatingAnswer (keys : HandshakeKeys) (handshake : Json) (offer : HandshakeOfferCore)
  | derivingRecipient (options : Handshake.DeriveHandshakeMaterialOptions)
    (answer : SignedHandshake HandshakeAnswerCore)
  | emittingAnswer
  /-- `handleSignal` on a handshake answer, with the offer and the epoch that it read. -/
  | validatingAnswer (peerSigningPublicKey : SigningPublicKey) (accountEpoch : JsNumber)
    (handshake : Json) (offer : SignedHandshake HandshakeOfferCore)
  | derivingSender (options : Handshake.DeriveHandshakeMaterialOptions)
  /-- `startNegotiation` -/
  | creatingSdpOffer
  | settingLocalOffer (sdp : JsString)
  | emittingSdpOffer
  /-- `handleSignal` on an SDP message; a recipient goes on to answer. -/
  | settingRemoteDescription (answers : Bool)
  /-- `flushCandidates` awaits `addIceCandidate`, with the candidates that are left. -/
  | flushing (rest : List IceCandidate) (answers : Bool)
  | creatingSdpAnswer
  | settingLocalAnswer (sdp : JsString)
  | emittingSdpAnswer
  /-- `handleIceCandidate` awaits `addIceCandidate`. -/
  | addingCandidate
  /-- The signal of a local candidate. -/
  | emittingCandidate
  /-- `start` returned. -/
  | started (result : Outcome Unit)
  /-- `handleSignal` returned. -/
  | returned (result : Outcome Bool)
  | finished

/-- The fields of `WebRtcTestSession` with its suspended calls, and what it did so far. -/
structure Session where
  options : SessionOptions
  stateValue : WebRtcTestState
  /-- The data channels that were attached. -/
  dataChannels : ℕ
  remoteDescriptionReady : Bool
  pendingCandidates : List IceCandidate
  started : Bool
  handshakeOffer : Option (SignedHandshake HandshakeOfferCore)
  handshakeEphemeralPrivateKey : Option CryptoKey
  materialValue : Option Handshake.DerivedHandshakeMaterial
  /-- The negotiation timer is armed. -/
  negotiationTimer : Bool
  calls : List SessionCall
  /-- The messages passed to `sendSignal`. -/
  signals : List SignalingEnvelope
  /-- The candidates passed to `addIceCandidate`. -/
  addedCandidates : List IceCandidate
  /-- The calls of `deriveHandshakeMaterial`. -/
  derivations : List Handshake.DeriveHandshakeMaterialOptions
  /-- The values of `materialValue`, each of which is passed to `onHandshake`. -/
  handshakes : List Handshake.DerivedHandshakeMaterial
  /-- The calls of `startNegotiation`. -/
  negotiations : ℕ

namespace Session

/-- The constructor. -/
def initial (options : SessionOptions) : Session where
  options := options
  stateValue := .idle
  dataChannels := 0
  remoteDescriptionReady := false
  pendingCandidates := []
  started := false
  handshakeOffer := none
  handshakeEphemeralPrivateKey := none
  materialValue := none
  negotiationTimer := false
  calls := []
  signals := []
  addedCandidates := []
  derivations := []
  handshakes := []
  negotiations := 0

/-- `setState` -/
def setState (s : Session) (state : WebRtcTestState) : Session :=
  if state = s.stateValue then s
  else
    { s with
      stateValue := state
      negotiationTimer := if state.settled then false else s.negotiationTimer }

/-- `armNegotiationTimeout` -/
def armNegotiationTimeout (s : Session) : Session := { s with negotiationTimer := true }

/-- `attachDataChannel` -/
def attachDataChannel (s : Session) : Session := { s with dataChannels := s.dataChannels + 1 }

/-- `emitSignal` up to its `await`. -/
def emitSignal (s : Session) (payload : SignalPayload) : Session :=
  { s with signals := s.signals ++ [s.options.transfer.envelope payload] }

def addCall (s : Session) (call : SessionCall) : Session := { s with calls := s.calls ++ [call] }

def setCall (s : Session) (call : ℕ) (next : SessionCall) : Session :=
  { s with calls := s.calls.set call next }

/-- The assignments that `start` and the SDP messages share. -/
def negotiate (s : Session) : Session :=
  ({ s with started := true }.setState .negotiating).armNegotiationTimeout

/-! ## Calls up to their first `await` -/

/-- `start` -/
def start (s : Session) : Session :=
  if s.started = true ∨ s.stateValue = .closed then s.addCall (.started (.ok ()))
  else
    match s.options.role, s.options.handshakeKeys with
    | .recipient, _ => s.negotiate.addCall (.started (.ok ()))
    | .sender, some keys => s.negotiate.addCall (.creatingOffer keys)
    | .sender, none => (s.negotiate.setState .failed).addCall
        (.started (.error (.other "Authenticated handshake material is required.")))

/-- The message names the transfer of the session and its devices. -/
def addressed (s : Session) (message : SignalingEnvelope) : Prop :=
  message.transferId = s.options.transfer.transferId ∧
    message.senderDeviceId = s.options.transfer.senderDeviceId ∧
    message.recipientDeviceId = s.options.transfer.recipientDeviceId

instance (s : Session) (message : SignalingEnvelope) : Decidable (s.addressed message) :=
  inferInstanceAs (Decidable (_ ∧ _ ∧ _))

/-- `handleIceCandidate` -/
def handleIceCandidate (s : Session) (candidate : IceCandidate) : Session :=
  if s.remoteDescriptionReady = false then
    if s.pendingCandidates.length ≥ maxPendingIceCandidates then
      s.addCall (.returned (.error (.other "The ICE candidate queue is full.")))
    else
      { s with pendingCandidates := s.pendingCandidates ++ [candidate] }.addCall
        (.returned (.ok true))
  else
    { s with addedCandidates := s.addedCandidates ++ [candidate] }.addCall .addingCandidate

/-- `handleSignal` -/
def handleSignal (s : Session) (message : SignalingEnvelope) : Session :=
  if s.stateValue = .closed ∨ ¬ s.addressed message then s.addCall (.returned (.ok false))
  else
    match message.payload with
    | .iceCandidate candidate => s.handleIceCandidate candidate
    | .handshakeOffer handshake =>
      match s.options.role, s.options.handshakeKeys with
      | .recipient, some keys => s.addCall (.validatingOffer keys handshake)
      | _, _ => s.addCall (.returned (.ok false))
    | .handshakeAnswer handshake =>
      match s.options.role, s.handshakeOffer, s.handshakeEphemeralPrivateKey,
        s.options.peerSigningPublicKey, s.options.accountEpoch with
      | .sender, some offer, some _, some key, some epoch =>
        s.addCall (.validatingAnswer key epoch handshake offer)
      | _, _, _, _, _ => s.addCall (.returned (.ok false))
    | .sdpOffer _ =>
      match s.options.role with
      | .recipient => s.negotiate.addCall (.settingRemoteDescription true)
      | .sender => s.negotiate.addCall (.returned (.ok false))
    | .sdpAnswer _ =>
      match s.options.role with
      | .sender => s.negotiate.addCall (.settingRemoteDescription false)
      | .recipient => s.negotiate.addCall (.returned (.ok false))

/-- `close` -/
def close (s : Session) : Session :=
  if s.stateValue = .closed then s else { s with negotiationTimer := false }.setState .closed

/-! ## Continuations -/

/-- What an `await` of a call yields. -/
inductive Settlement where
  /-- A function of the handshake ran, with what it read of the clock, `randomBytes(32)` and the
  outcome of `generateP256AgreementKeyPair`. -/
  | computed (dateNow laterNow : JsNumber) (random : Bytes) (generated : Option CryptoKeyPair)
  /-- An operation of the peer connection resolved, with the SDP text that it yields or leaves. -/
  | resolved (sdp : Option JsString)
  /-- `sendSignal` resolved; `false` when the socket is offline. -/
  | sent (delivered : Bool)
  | rejected (error : Thrown)

/-- `emitSignal` after its `await`. -/
def emitted : Settlement → Option (Outcome Unit)
  | .sent true => some (.ok ())
  | .sent false => some (.error (.other "The presence socket is offline."))
  | .rejected error => some (.error error)
  | .computed .. | .resolved _ => none

/-- A call of `handleSignal` ends with `emitSignal`. -/
def returnedAfterEmit (outcome : Settlement) : Option SessionCall :=
  (emitted outcome).map fun result => .returned (result.map fun _ => true)

section Continuations

variable (crypto : HandshakeCrypto)

def offerOptions (transfer : SessionTransfer) (keys : HandshakeKeys) : SignedMessageOptions where
  transferId := transfer.transferId
  accountEpoch := keys.accountEpoch
  senderDeviceId := transfer.senderDeviceId
  recipientDeviceId := transfer.recipientDeviceId
  issuedAt := none
  expiresAt := transfer.expiresAt
  nonce := none
  signingKey := keys.signingKey
  ephemeralKeyPair := none

def answerOptions (transfer : SessionTransfer) (keys : HandshakeKeys) (handshake : Json)
    (offer : HandshakeOfferCore) : HandshakeAnswerOptions where
  toSignedMessageOptions :=
    { offerOptions transfer keys with expiresAt := .ofNat offer.expiresAt }
  offer := handshake

def expectations (transfer : SessionTransfer) (accountEpoch : JsNumber) :
    HandshakeExpectations where
  transferId := some transfer.transferId
  accountEpoch := some accountEpoch
  senderDeviceId := some transfer.senderDeviceId
  recipientDeviceId := some transfer.recipientDeviceId
  now := none

/-- The signed message as the peer reads it: the key pair is not enumerable. -/
def signedMessage (core : Json) (signature : JsString) : Json := signedJson core signature

/-- `start` after `createHandshakeOffer`. -/
def createdOffer (s : Session) (keys : HandshakeKeys) (dateNow : JsNumber) (random : Bytes)
    (generated : Option CryptoKeyPair) : Session × SessionCall :=
  match (Handshake.createHandshakeOffer crypto (offerOptions s.options.transfer keys) dateNow random
      generated []).2 with
  | .error error => (s.setState .failed, .started (.error (.protocol error)))
  | .ok offer =>
    ({ s with
        handshakeOffer := some offer
        handshakeEphemeralPrivateKey := some offer.ephemeralKeyPair.privateKey }.emitSignal
      (.handshakeOffer (signedMessage offer.core.json offer.signature)), .emittingOffer)

/-- The outcome of `assertValidHandshakeOffer` in `handleSignal`. -/
def checkOffer (s : Session) (keys : HandshakeKeys) (handshake : Json) (dateNow : JsNumber) :
    Checked HandshakeOfferCore :=
  Handshake.assertValidHandshakeOffer crypto.toWebCrypto handshake keys.peerSigningPublicKey
    (expectations s.options.transfer keys.accountEpoch) dateNow

/-- The outcome of `assertValidHandshakeAnswer` in `handleSignal`. -/
def checkAnswer (s : Session) (peerSigningPublicKey : SigningPublicKey) (accountEpoch : JsNumber)
    (handshake : Json) (offer : SignedHandshake HandshakeOfferCore) (offerNow dateNow : JsNumber) :
    Checked HandshakeAnswerCore :=
  Handshake.assertValidHandshakeAnswer crypto.toWebCrypto handshake peerSigningPublicKey
    { expectations s.options.transfer accountEpoch with
      offer := signedMessage offer.core.json offer.signature } offerNow dateNow

/-- A call of `deriveHandshakeMaterial` begins. -/
def beginDerivation (s : Session) (options : Handshake.DeriveHandshakeMaterialOptions) : Session :=
  { s with derivations := s.derivations ++ [options] }

/-- `handleSignal` on an offer after `createHandshakeAnswer`. -/
def createdAnswer (s : Session) (keys : HandshakeKeys) (handshake : Json)
    (offer : HandshakeOfferCore)
    (dateNow issueNow : JsNumber) (random : Bytes) (generated : Option CryptoKeyPair) :
    Session × SessionCall :=
  match (Handshake.createHandshakeAnswer crypto
    (answerOptions s.options.transfer keys handshake offer)
      dateNow issueNow random generated []).2 with
  | .error error => (s, .returned (.error (.protocol error)))
  | .ok answer =>
    match decodeBase64Url offer.senderEphemeralSpki 1024 with
    | .error error => (s, .returned (.error (.protocol error)))
    | .ok spki =>
      let options : Handshake.DeriveHandshakeMaterialOptions := {
        offer := offer.json
        answer := answer.core.json
        localEphemeralPrivateKey := answer.ephemeralKeyPair.privateKey
        remoteEphemeralSpki := spki
        role := some .recipient }
      (s.beginDerivation options, .derivingRecipient options answer)

/-- `handleSignal` on an answer after `assertValidHandshakeAnswer`: the offer and
the key are read again. -/
def validatedAnswer (s : Session) (answer : HandshakeAnswerCore) : Session × SessionCall :=
  match s.handshakeOffer, s.handshakeEphemeralPrivateKey,
    decodeBase64Url answer.recipientEphemeralSpki 1024 with
  | some offer, some key, .ok spki =>
    let options : Handshake.DeriveHandshakeMaterialOptions := {
      offer := offer.core.json
      answer := answer.json
      localEphemeralPrivateKey := key
      remoteEphemeralSpki := spki
      role := some .sender }
    (s.beginDerivation options, .derivingSender options)
  | some _, some _, .error error => (s, .returned (.error (.protocol error)))
  | _, _, _ => (s, .returned (.error (.other "Cannot read properties of null (reading 'core')")))

/-- The material is assigned and passed to `onHandshake`. -/
def derivedMaterial (s : Session) (material : Handshake.DerivedHandshakeMaterial) : Session :=
  { s with materialValue := some material, handshakes := s.handshakes ++ [material] }

/-- `startNegotiation` up to its first `await`.  `createDataChannel` does not throw. -/
def startNegotiation (s : Session) : Session × SessionCall :=
  let s := { s with negotiations := s.negotiations + 1 }
  if s.options.role ≠ .sender then (s, .returned (.ok true))
  else (s.attachDataChannel, .creatingSdpOffer)

/-- The next candidate of `flushCandidates`, or what comes after it. -/
def flushNext (s : Session) (answers : Bool) : List IceCandidate → Session × SessionCall
  | candidate :: rest =>
    ({ s with addedCandidates := s.addedCandidates ++ [candidate] }, .flushing rest answers)
  | [] => (s, if answers then .creatingSdpAnswer else .returned (.ok true))

/-- After `setRemoteDescription`: the queue is taken and its first candidate is added.  An empty
queue is awaited like any other. -/
def flushCandidates (s : Session) (answers : Bool) : Session × SessionCall :=
  let pending := s.pendingCandidates
  let s := { s with remoteDescriptionReady := true, pendingCandidates := [] }
  match pending with
  | [] => (s, .flushing [] answers)
  | _ :: _ => s.flushNext answers pending

/-- After `setLocalDescription`: the description that the connection has, or
the one it was given. -/
def emitDescription (s : Session) (sdp : JsString) (localSdp : Option JsString) (name : String)
    (payload : JsString → SignalPayload) (next : SessionCall) : Session × SessionCall :=
  let text := localSdp.getD sdp
  if text = [] then
    (s, .returned (.error (.other ("The browser did not create an SDP " ++ name ++ "."))))
  else (s.emitSignal (payload text), next)

/-- A suspended call goes on. -/
def continueCall (s : Session) (call : SessionCall) (outcome : Settlement) :
    Option (Session × SessionCall) :=
  match call, outcome with
  | .creatingOffer keys, .computed dateNow _ random generated =>
    some (s.createdOffer crypto keys dateNow random generated)
  | .emittingOffer, outcome => (emitted outcome).map fun
    | .ok () => (s, .started (.ok ()))
    | .error error => (s.setState .failed, .started (.error error))
  | .validatingOffer keys handshake, .computed dateNow _ _ _ =>
    match s.checkOffer crypto keys handshake dateNow with
    | .error error => some (s, .returned (.error (.protocol error)))
    | .ok offer => some (s, .creatingAnswer keys handshake offer)
  | .creatingAnswer keys handshake offer, .computed dateNow issueNow random generated =>
    some (s.createdAnswer crypto keys handshake offer dateNow issueNow random generated)
  | .derivingRecipient options answer, .computed .. =>
    match Handshake.deriveHandshakeMaterial crypto options with
    | .error error => some (s, .returned (.error error))
    | .ok material =>
      some ((s.derivedMaterial material).emitSignal
        (.handshakeAnswer (signedMessage answer.core.json answer.signature)), .emittingAnswer)
  | .validatingAnswer key epoch handshake offer, .computed offerNow dateNow _ _ =>
    match s.checkAnswer crypto key epoch handshake offer offerNow dateNow with
    | .error error => some (s, .returned (.error (.protocol error)))
    | .ok answer => some (s.validatedAnswer answer)
  | .derivingSender options, .computed .. =>
    match Handshake.deriveHandshakeMaterial crypto options with
    | .error error => some (s, .returned (.error error))
    | .ok material => some (s.derivedMaterial material).startNegotiation
  | .creatingSdpOffer, .resolved sdp => some (s, .settingLocalOffer (sdp.getD []))
  | .settingLocalOffer sdp, .resolved localSdp =>
    some (s.emitDescription sdp localSdp "offer" .sdpOffer .emittingSdpOffer)
  | .settingRemoteDescription answers, .resolved _ => some (s.flushCandidates answers)
  | .flushing rest answers, .resolved _ => some (s.flushNext answers rest)
  | .creatingSdpAnswer, .resolved sdp => some (s, .settingLocalAnswer (sdp.getD []))
  | .settingLocalAnswer sdp, .resolved localSdp =>
    some (s.emitDescription sdp localSdp "answer" .sdpAnswer .emittingSdpAnswer)
  | .addingCandidate, .resolved _ => some (s, .returned (.ok true))
  | .creatingSdpOffer, .rejected error | .settingLocalOffer _, .rejected error
  | .settingRemoteDescription _, .rejected error | .flushing _ _, .rejected error
  | .creatingSdpAnswer, .rejected error | .settingLocalAnswer _, .rejected error
  | .addingCandidate, .rejected error => some (s, .returned (.error error))
  | .emittingAnswer, outcome | .emittingSdpOffer, outcome | .emittingSdpAnswer, outcome =>
    (returnedAfterEmit outcome).map fun call => (s, call)
  | .emittingCandidate, outcome => (emitted outcome).map fun
    | .ok () => (s, .finished)
    | .error _ => (s.setState .failed, .finished)
  | _, _ => none

/-! ## Steps -/

inductive SessionEvent where
  /-- The public methods. -/
  | start
  | signal (message : SignalingEnvelope)
  | close
  /-- The handlers of the peer connection. -/
  | iceCandidate (candidate : IceCandidate)
  | dataChannel
  | connectionState (state : WebRtcTestState)
  /-- The handlers of a data channel. -/
  | channelOpen
  | channelError
  | channelClose
  /-- The negotiation timer fires. -/
  | timeout
  /-- A suspended call goes on. -/
  | resume (call : ℕ) (outcome : Settlement)

/-- The step an event makes; `none` when the event cannot occur. -/
def step (s : Session) : SessionEvent → Option Session
  | .start => some s.start
  | .signal message => some (s.handleSignal message)
  | .close => some s.close
  | .iceCandidate candidate =>
    some ((s.emitSignal (.iceCandidate candidate)).addCall .emittingCandidate)
  | .dataChannel => some s.attachDataChannel
  -- `connectionState` has no other value that the handler reacts to
  | .connectionState state => if state.settled then some (s.setState state) else some s
  | .channelOpen =>
    if s.dataChannels = 0 then none
    else some ({ s with negotiationTimer := false }.setState .connected)
  | .channelError => if s.dataChannels = 0 then none else some (s.setState .failed)
  | .channelClose => if s.dataChannels = 0 then none else some (s.setState .closed)
  | .timeout =>
    if s.negotiationTimer then
      let s := { s with negotiationTimer := false }
      some (if s.stateValue = .negotiating then s.setState .failed else s)
    else none
  | .resume call outcome => do
    let (s, next) ← s.continueCall crypto (← s.calls[call]?) outcome
    return s.setCall call next

end Continuations

end Session

end SelfRelay
