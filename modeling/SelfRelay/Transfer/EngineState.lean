import SelfRelay.Protocol.Stream
import SelfRelay.Protocol.WebCrypto
import SelfRelay.Transfer.Digest
import SelfRelay.Transfer.Payload

/-!
# The state of a file transfer engine

The fields of `FileTransferEngine` with the calls that are suspended in it.  The engine runs on one
thread and gives it up at every `await`; what it is in the middle of is data here.  A call of
`sendFrame` is an entry of `sends`, a call of a public method is an entry of `threads`, and the
message being processed by the receive queue is `receiving`.  Nothing is ever removed from `sends`
and `threads`, so an index identifies a call.

This file has the operations that run without giving up the thread; `Transfer.Engine` puts them
together into the steps of the engine.  Callbacks (`onStateChange` and the like) are left out: they
are handed to the engine by its owner.
-/

namespace SelfRelay

/-! ## Values -/

/-- `FileTransferState` -/
inductive FileTransferState where
  | idle
  | confirming
  | ready
  | sending
  | receiving
  | completed
  | cancelled
  | failed
  | closed
  deriving DecidableEq, Repr

/-- The four states of `isTerminal`. -/
def FileTransferState.isTerminal : FileTransferState → Bool
  | .completed | .cancelled | .failed | .closed => true
  | .idle | .confirming | .ready | .sending | .receiving => false

/-- A promise that the engine settles itself. -/
inductive Deferred (α : Type) where
  | pending
  | fulfilled (value : α)
  | rejected (error : ProtocolError)
  deriving DecidableEq, Repr

/-- The state of a data channel. -/
inductive ReadyState where
  | connecting
  | opened
  | closing
  | closed
  deriving DecidableEq, Repr

/-- A data channel: its buffer, and every frame ever passed to `send`. -/
structure DataChannel where
  readyState : ReadyState
  bufferedAmount : ℕ
  sent : List Bytes
  deriving DecidableEq, Repr

/-- The data of a message event. -/
inductive MessageData where
  | text
  | blob (bytes : Bytes)
  | buffer (bytes : Bytes)
  | other
  deriving DecidableEq, Repr

/-- `channelBytes`, for a blob that can be read. -/
def channelBytes : MessageData → Checked Bytes
  | .text => .error (protocolError "Text frames are not supported." "invalid_frame")
  | .blob bytes | .buffer bytes => .ok bytes
  | .other => .error (protocolError "Data-channel payload is invalid." "invalid_frame")

/-- The blob that is sent: `size`, `name` when it is a file, and `type`. -/
structure SourceFile where
  size : ℕ
  name : Option JsString
  type : JsString
  deriving DecidableEq, Repr

/-- `ReceivedFile` without its download URL. -/
structure ReceivedFile where
  blob : Bytes
  fileName : JsString
  mediaType : JsString
  byteCount : ℕ
  sha256 : JsString
  deriving DecidableEq, Repr

/-! ## Handshake material -/

/-- `TransferMaterial`: the optional fields of `DerivedHandshakeMaterial` included. -/
structure TransferMaterial where
  confirmation : Bytes
  transcriptHash : Bytes
  sendKey : Option CryptoKey
  receiveKey : Option CryptoKey
  sendNoncePrefix : Option Bytes
  receiveNoncePrefix : Option Bytes
  s2rKey : Option CryptoKey
  r2sKey : Option CryptoKey
  s2rNoncePrefix : Option Bytes
  r2sNoncePrefix : Option Bytes
  deriving DecidableEq, Repr

/-- The result of `resolveMaterial`. -/
structure DirectionalKeys where
  sendKey : CryptoKey
  receiveKey : CryptoKey
  sendNoncePrefix : Bytes
  receiveNoncePrefix : Bytes
  deriving DecidableEq, Repr

/-- `resolveMaterial` -/
def resolveMaterial (material : TransferMaterial) (role : TransferRole) :
    Checked DirectionalKeys :=
  let sendKey := material.sendKey <|>
    (if role = .sender then material.s2rKey else material.r2sKey)
  let receiveKey := material.receiveKey <|>
    (if role = .sender then material.r2sKey else material.s2rKey)
  let sendNoncePrefix := material.sendNoncePrefix <|>
    (if role = .sender then material.s2rNoncePrefix else material.r2sNoncePrefix)
  let receiveNoncePrefix := material.receiveNoncePrefix <|>
    (if role = .sender then material.r2sNoncePrefix else material.s2rNoncePrefix)
  match sendKey, receiveKey, sendNoncePrefix, receiveNoncePrefix with
  | some sendKey, some receiveKey, some sendNoncePrefix, some receiveNoncePrefix =>
    .ok { sendKey, receiveKey, sendNoncePrefix, receiveNoncePrefix }
  | _, _, _, _ =>
    .error (protocolError "Directional handshake material is incomplete." "invalid_material")

/-! ## The inbound registry -/

/-- `InboundTransferRegistry`: the transfer that each device is receiving. -/
structure InboundTransferRegistry where
  active : List (JsString × JsString)
  deriving DecidableEq, Repr

namespace InboundTransferRegistry

def get? (registry : InboundTransferRegistry) (deviceId : JsString) : Option JsString :=
  (registry.active.find? fun entry => entry.1 = deviceId).map Prod.snd

def erase (registry : InboundTransferRegistry) (deviceId : JsString) : InboundTransferRegistry :=
  ⟨registry.active.filter fun entry => entry.1 ≠ deviceId⟩

/-- `reserve` -/
def reserve (registry : InboundTransferRegistry) (deviceId transferId : JsString) :
    Checked InboundTransferRegistry := do
  throwIf (∃ existing ∈ registry.get? deviceId, existing ≠ transferId)
    (protocolError "The device already has an inbound transfer." "inbound_busy")
  return ⟨(registry.erase deviceId).active ++ [(deviceId, transferId)]⟩

/-- `release` -/
def release (registry : InboundTransferRegistry) (deviceId transferId : JsString) :
    InboundTransferRegistry :=
  if registry.get? deviceId = some transferId then registry.erase deviceId else registry

end InboundTransferRegistry

/-! ## Suspended calls -/

/-- How far a call of `sendFrame` got. -/
inductive SendStatus where
  /-- `createFrame` awaits `encrypt`. -/
  | encrypting (call : EncryptCall)
  /-- `createFrame` returned the frame. -/
  | created (call : EncryptCall) (frame : Bytes)
  /-- The frame waits for buffer capacity. -/
  | waiting (call : EncryptCall) (frame : Bytes)
  /-- The wait for capacity was fulfilled. -/
  | passed (call : EncryptCall) (frame : Bytes)
  /-- The wait for capacity was rejected. -/
  | refused (call : EncryptCall) (error : ProtocolError)
  /-- The call settled. -/
  | settled (result : Outcome Unit)
  deriving DecidableEq, Repr

/-- How far a call of `start` or `sendConfirmation` got. -/
inductive StartPc where
  /-- It awaits a call of `sendFrame`; the owner made that call and reacts to its failure. -/
  | confirming (send : ℕ) (owner : Bool)
  | returned (result : Outcome Unit)
  deriving DecidableEq, Repr

/-- How far a call of `sendFile` got. -/
inductive SendFilePc where
  | starting (pc : StartPc)
  /-- `waitForConfirmation` returned at once, or awaits the confirmation promise. -/
  | waitingConfirmation (immediate : Bool)
  | signingOffer (manifest : TransferManifest) (core : FileOfferCore)
  | sendingOffer (manifest : TransferManifest) (send : ℕ)
  | awaitingAcceptance (manifest : TransferManifest) (promise : ℕ)
  | sendingManifest (send : ℕ)
  | reading (offset chunkCount : ℕ) (digest : IncrementalSha256)
  | sendingChunk (send offset chunkCount : ℕ) (digest : IncrementalSha256)
  | signingComplete (core : FileComplete)
  | sendingComplete (core : FileComplete) (send : ℕ)
  | awaitingReceipt (promise : ℕ)
  | returned (result : Outcome TransferReceipt)
  deriving DecidableEq, Repr

/-- How far a call of `sendTerminalFrame` got. -/
inductive TerminalPc where
  | starting (pc : StartPc)
  | sending (send : ℕ)
  | returned
  deriving DecidableEq, Repr

/-- A call of a public method, or of `start` by the channel. -/
inductive Thread where
  /-- `void this.start().catch(…fail…)` -/
  | opening (pc : StartPc)
  | starting (pc : StartPc)
  | accepting (send : ℕ)
  | terminating (type : FrameType) (code : JsString) (state : FileTransferState) (pc : TerminalPc)
  | sendFile (file : SourceFile) (fileName : Option JsString) (pc : SendFilePc)
  | finished
  deriving DecidableEq, Repr

/-- How far the processing of a message got. -/
inductive ReceivePc where
  | reading (data : MessageData)
  | decrypting (call : DecryptCall)
  | received (header : FrameHeader) (plaintext : Bytes)
  | confirming (pc : StartPc)
  | importingOffer (offer : SignedFileOffer)
  | verifyingOffer (offer : SignedFileOffer) (key : CryptoKey) (message signature : Bytes)
  | accepting (send : ℕ)
  | importingComplete (core : FileComplete) (signature : Bytes)
  | verifyingComplete (core : FileComplete) (key : CryptoKey) (message signature : Bytes)
  | sendingReceipt (received : ReceivedFile) (send : ℕ)
  | threw (error : Thrown)
  deriving DecidableEq, Repr

/-! ## The engine -/

/-- What an engine is constructed with, once checked. -/
structure EngineOptions where
  transferId : JsString
  role : TransferRole
  confirmation : Bytes
  transcriptHash : Bytes
  keys : DirectionalKeys
  signingKey : Option CryptoKey
  senderSigningPublicKey : Option SigningPublicKey
  chunkSize : ℕ
  highWaterMark : ℕ
  lowWaterMark : ℕ
  inboundDeviceId : Option JsString
  deriving DecidableEq, Repr

/-- A call of `verifyP256` that returned true, with the record it was made for. -/
structure Verified (α : Type) where
  core : α
  key : CryptoKey
  message : Bytes
  signature : Bytes
  deriving DecidableEq, Repr

/-- What the engine verified and accepted so far; no function reads it. -/
structure History where
  offers : List (Verified FileOfferCore)
  /-- The manifests `handleManifest` accepted. -/
  manifests : List TransferManifest
  /-- The plaintexts `handleChunk` accepted. -/
  chunks : List Bytes
  completions : List (Verified FileComplete)
  deriving DecidableEq, Repr

/-- The fields of `FileTransferEngine` with its suspended calls. -/
structure Engine where
  options : EngineOptions
  channel : DataChannel
  registry : InboundTransferRegistry
  stream : FrameStream
  accepted : Bool
  acceptanceSent : Bool
  remoteAccepted : Bool
  stateValue : FileTransferState
  started : Bool
  confirmationPromise : Option (Deferred Unit)
  /-- `confirmationResolve` and `confirmationReject` are set. -/
  confirmationSettles : Bool
  sentConfirmationPromise : Option ℕ
  completionSent : Bool
  receipts : List (Deferred TransferReceipt)
  receiptPromise : Option ℕ
  /-- The promise that `receiptResolve` and `receiptReject` settle. -/
  receiptSettles : Option ℕ
  acceptances : List (Deferred Unit)
  acceptancePromise : Option ℕ
  /-- The promise that `acceptanceResolve` and `acceptanceReject` settle. -/
  acceptanceSettles : Option ℕ
  offeredManifest : Option TransferManifest
  manifest : Option TransferManifest
  sentCompletion : Option FileComplete
  receiverDigest : Option IncrementalSha256
  receiverChunks : List Bytes
  receivedBytes : ℕ
  receivedChunks : ℕ
  receivedFile : Option ReceivedFile
  terminalError : Option ProtocolError
  sends : List SendStatus
  threads : List Thread
  queue : List MessageData
  receiving : Option ReceivePc
  /-- The reason for which `receiveQueue` is rejected. -/
  queueError : Option Thrown
  history : History
  deriving DecidableEq, Repr

namespace Engine

def isTerminal (e : Engine) : Bool := e.stateValue.isTerminal

def setState (e : Engine) (state : FileTransferState) : Engine := { e with stateValue := state }

/-- `cleanupReceiverChunksOnly` -/
def cleanupReceiverChunksOnly (e : Engine) : Engine :=
  { e with receiverChunks := [], receiverDigest := none }

/-- `cleanupReceiver` -/
def cleanupReceiver (e : Engine) : Engine :=
  { e.cleanupReceiverChunksOnly with manifest := none, receivedBytes := 0, receivedChunks := 0 }

/-- `releaseInbound` -/
def releaseInbound (e : Engine) : Engine :=
  { e with registry := match e.options.inboundDeviceId with
    | some deviceId => e.registry.release deviceId e.options.transferId
    | none => e.registry }

/-- Settle a promise of a table. -/
def settle {α : Type} (table : List (Deferred α)) (promise : Option ℕ) (value : Deferred α) :
    List (Deferred α) :=
  match promise with
  | some i => table.set i value
  | none => table

/-- `rejectPending` -/
def rejectPending (e : Engine) (error : ProtocolError) : Engine :=
  { e with
    confirmationPromise :=
      if e.confirmationSettles then some (.rejected error) else e.confirmationPromise
    confirmationSettles := false
    receipts := settle e.receipts e.receiptSettles (.rejected error)
    receiptSettles := none
    acceptances := settle e.acceptances e.acceptanceSettles (.rejected error)
    acceptanceSettles := none }

/-- The error of a call on an engine that is over. -/
def notAvailable (e : Engine) : ProtocolError :=
  e.terminalError.getD (protocolError "The transfer is not available." "invalid_state")

/-! ## Sending -/

/-- What `sendFrame` does before its first `await`: the status of the call and the stream. -/
def sendFrameStart (e : Engine) (type : FrameType) (plaintext : Bytes) (confirmation : Bool) :
    FrameStream × SendStatus :=
  let throws (error : ProtocolError) := SendStatus.settled (.error (.protocol error))
  if e.isTerminal then (e.stream, throws e.notAvailable)
  else if e.channel.readyState ≠ .opened then
    (e.stream, throws (protocolError "The data channel is not open." "channel_not_open"))
  else if !confirmation && !e.stream.isConfirmed then
    (e.stream, throws (protocolError "Peer confirmation is required." "confirmation_required"))
  else
    match e.stream.createFrame e.options.keys.sendKey e.options.keys.sendNoncePrefix type
        plaintext with
    | (stream, .error error) => (stream, throws error)
    | (stream, .ok call) => (stream, .encrypting call)

/-- `sendFrame` up to its first `await`, with the index of the call. -/
def sendFrame (e : Engine) (type : FrameType) (plaintext : Bytes) (confirmation : Bool) :
    Engine × ℕ :=
  let (stream, status) := e.sendFrameStart type plaintext confirmation
  ({ e with stream, sends := e.sends ++ [status] }, e.sends.length)

/-- `sendFrame` with a payload that is still to be serialised. -/
def sendJson (e : Engine) (type : FrameType) (payload : Json) : Engine × Outcome ℕ :=
  match canonicalJsonBytes payload with
  | .error error => (e, .error (.protocol error))
  | .ok bytes =>
    let (e, send) := e.sendFrame type bytes false
    (e, .ok send)

/-- `sendConfirmation` up to its first `await`. -/
def sendConfirmation (e : Engine) : Engine × StartPc :=
  match e.sentConfirmationPromise with
  | some send => (e, .confirming send false)
  | none =>
    if e.stream.nextSendCounter ≠ 0 then (e, .returned (.ok ()))
    else
      let (e, send) := e.sendFrame .confirm e.options.confirmation true
      ({ e with sentConfirmationPromise := some send }, .confirming send true)

/-- The assignments of `start`. -/
def markStarted (e : Engine) : Engine :=
  { e with
    started := true
    stateValue := if e.stateValue = .idle then .confirming else e.stateValue }

/-- `start` up to its first `await`. -/
def start (e : Engine) : Engine × StartPc :=
  if e.isTerminal then (e, .returned (.ok ()))
  else if e.channel.readyState ≠ .opened then (e.markStarted, .returned (.ok ()))
  else e.markStarted.sendConfirmation

/-- The outcome of a call of `sendFrame` that settled. -/
def sendResult (e : Engine) (send : ℕ) : Option (Outcome Unit) :=
  match e.sends[send]? with
  | some (.settled result) => some result
  | _ => none

/-- Go on after `await this.sendFrame(…)`, once that call settled. -/
def afterSend {α : Type} (e : Engine) (send : ℕ) (onError : Thrown → α) (next : α) : Option α :=
  (e.sendResult send).map fun
    | .ok () => next
    | .error error => onError error

theorem afterSend_cases {α : Type} {e : Engine} {send : ℕ} {onError : Thrown → α} {next r : α}
    (h : e.afterSend send onError next = some r) :
    e.sendResult send = some (.ok ()) ∧ r = next ∨
      ∃ error, e.sendResult send = some (.error error) ∧ r = onError error := by
  obtain ⟨result, hresult, hr⟩ := Option.map_eq_some_iff.1 h
  cases result with
  | ok u => exact .inl ⟨hresult, hr.symm⟩
  | error error => exact .inr ⟨error, hresult, hr.symm⟩

/-- `start` or `sendConfirmation` after the frame it awaits settled. -/
def resumeStart (e : Engine) (send : ℕ) (owner : Bool) : Option (Engine × StartPc) :=
  e.afterSend send
    (fun error => (if owner then { e with sentConfirmationPromise := none } else e,
      .returned (.error error)))
    (e, .returned (.ok ()))

/-! ## Failing -/

def addThread (e : Engine) (thread : Thread) : Engine := { e with threads := e.threads ++ [thread] }

/-- `sendTerminalFrame` up to its first `await`. -/
def sendTerminalFrame (e : Engine) (type : FrameType) (code : JsString)
    (state : FileTransferState) : Engine :=
  if e.isTerminal then e
  else
    let safeCode := if isSafeCode code then code else js "transfer_failed"
    e.start.1.addThread (.terminating type safeCode state (.starting e.start.2))

/-- The `finally` block of `sendTerminalFrame`. -/
def finishTerminal (e : Engine) (code : JsString) (state : FileTransferState) : Engine :=
  ((e.cleanupReceiver.releaseInbound).setState state).rejectPending
    ⟨"The transfer was cancelled.", code⟩

/-- `fail`; whether the owner is notified makes no difference here. -/
def fail (e : Engine) (error : Thrown) (sendWire : Bool) : Engine :=
  if e.isTerminal then e
  else
    let failure := error.failure
    let e := { e with terminalError := some failure }
    let e := ((e.cleanupReceiver.releaseInbound).rejectPending failure).setState .failed
    if sendWire && e.stream.isConfirmed && e.channel.readyState = .opened then
      e.sendTerminalFrame .error failure.code .failed
    else e

end Engine

end SelfRelay
