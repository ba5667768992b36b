import SelfRelay.Transfer.EngineState

/-!
# The file transfer engine

`FileTransferEngine` as a step function.  An event is a call of a public method, an event of the
data channel, or the continuation of a suspended call once what it awaits has settled; between two
events the engine is at rest.  The outcomes of Web Crypto and of reading the file are part of the
event, so that every interleaving and every outcome is a run.

`encrypted`, `capacity` and `transmit` are the three continuations of `sendFrame`; `resume`,
`signed` and `sliced` continue a call of a public method; `dequeue` starts the next message of the
receive queue and the events after it carry its processing on.
-/

namespace SelfRelay

/-- What the engine uses of the JavaScript runtime. -/
structure Runtime where
  unicode : Unicode
  crypto : WebCrypto

/-! ## Construction -/

/-- The options of the constructor that it checks. -/
structure ConstructorOptions where
  transferId : JsString
  role : TransferRole
  material : TransferMaterial
  signingKey : Option CryptoKey
  senderSigningPublicKey : Option SigningPublicKey
  chunkSize : Option ℤ
  maxMessageSize : Option ℤ
  highWaterMark : ℤ
  lowWaterMark : ℤ
  accepted : Bool
  inboundDeviceId : Option JsString
  deriving DecidableEq, Repr

/-- `validateWatermarks` -/
def validateWatermarks (high low : ℤ) : Checked Unit :=
  throwIf (high > JsNumber.maxSafeInteger ∨ high ≤ 0 ∨ low < 0 ∨ low ≥ high)
    (protocolError "Data-channel watermarks are invalid." "invalid_backpressure")

/-- The chunk size that the constructor settles on. -/
def resolveChunkSize (chunkSize maxMessageSize : Option ℤ) : Checked ℕ := do
  let negotiatedMaximum : ℤ := match maxMessageSize with
    | none => maxChunkSize
    | some size => size - 31 - 16
  throwIf (negotiatedMaximum > JsNumber.maxSafeInteger ∨ negotiatedMaximum < 1)
    (protocolError "The negotiated message size is invalid." "invalid_chunk_size")
  let chunkSize := chunkSize.getD (min defaultChunkSize negotiatedMaximum)
  throwIf (chunkSize < 1 ∨ chunkSize > maxChunkSize ∨ chunkSize > negotiatedMaximum)
    (protocolError "The chunk size is invalid." "invalid_chunk_size")
  return chunkSize.toNat

/-- The checks of the constructor. -/
def checkOptions (o : ConstructorOptions) : Checked EngineOptions := do
  let keys ← resolveMaterial o.material o.role
  throwIf (o.material.confirmation.length ≠ 32 ∨ o.material.transcriptHash.length ≠ 32)
    (protocolError "Handshake confirmation material is invalid." "invalid_material")
  throwIf (o.role = .sender ∧ o.signingKey = none)
    (protocolError "A sender signing key is required." "invalid_material")
  throwIf (o.role = .recipient ∧ o.senderSigningPublicKey = none)
    (protocolError "A sender verification key is required." "invalid_material")
  let chunkSize ← resolveChunkSize o.chunkSize o.maxMessageSize
  validateWatermarks o.highWaterMark o.lowWaterMark
  return {
    transferId := o.transferId
    role := o.role
    confirmation := o.material.confirmation
    transcriptHash := o.material.transcriptHash
    keys
    signingKey := o.signingKey
    senderSigningPublicKey := o.senderSigningPublicKey
    chunkSize
    highWaterMark := o.highWaterMark.toNat
    lowWaterMark := o.lowWaterMark.toNat
    -- an empty identifier is falsy, like a missing one
    inboundDeviceId := o.inboundDeviceId.filter (· ≠ []) }

namespace Engine

/-- The engine whose constructor finished its checks. -/
def initial (options : EngineOptions) (accepted : Bool) (stream : FrameStream)
    (registry : InboundTransferRegistry) (readyState : ReadyState) : Engine where
  options := options
  channel := ⟨readyState, 0, []⟩
  registry := registry
  stream := stream
  accepted := accepted
  acceptanceSent := false
  remoteAccepted := false
  stateValue := .idle
  started := false
  confirmationPromise := none
  confirmationSettles := false
  sentConfirmationPromise := none
  completionSent := false
  receipts := []
  receiptPromise := none
  receiptSettles := none
  acceptances := []
  acceptancePromise := none
  acceptanceSettles := none
  offeredManifest := none
  manifest := none
  sentCompletion := none
  receiverDigest := none
  receiverChunks := []
  receivedBytes := 0
  receivedChunks := 0
  receivedFile := none
  terminalError := none
  sends := []
  threads := []
  queue := []
  receiving := none
  queueError := none
  history := ⟨[], [], [], []⟩

/-- `void this.start().catch((error) => this.fail(error))` -/
def onOpen (e : Engine) : Engine := e.start.1.addThread (.opening e.start.2)

/-- A recipient reserves the device that it receives for. -/
def reserveInbound (options : EngineOptions) (registry : InboundTransferRegistry) :
    Checked InboundTransferRegistry :=
  match options.role, options.inboundDeviceId with
  | .recipient, some deviceId => registry.reserve deviceId options.transferId
  | _, _ => .ok registry

/-- The constructor, on a channel in the given state. -/
def construct (o : ConstructorOptions) (registry : InboundTransferRegistry)
    (readyState : ReadyState) : Checked Engine := do
  let options ← checkOptions o
  let direction := if o.role = .sender then .s2r else .r2s
  let stream ← FrameStream.create o.transferId direction (some o.material.confirmation)
  let registry ← reserveInbound options registry
  let e := initial options o.accepted stream registry readyState
  return if readyState = .opened then e.onOpen else e

/-! ## Public methods -/

/-- `accept` up to its `await`: nothing to await when the acceptance was already sent. -/
def accept (e : Engine) : Engine × Outcome (Option ℕ) :=
  if e.options.role ≠ .recipient ∨ e.offeredManifest = none ∨ e.manifest ≠ none then
    (e, .error (.protocol (protocolError "The transfer cannot be accepted in its current state."
      "invalid_state")))
  else if e.acceptanceSent then ({ e with accepted := true }, .ok none)
  else
    let (e, send) :=
      ({ e with accepted := true }).sendJson .accept (acceptJson e.options.transferId)
    (e, send.map some)

def setReadyState (e : Engine) (readyState : ReadyState) : Engine :=
  { e with channel := { e.channel with readyState } }

/-- `close` -/
def close (e : Engine) : Engine :=
  if e.stateValue = .closed then e
  else
    let readyState := if e.channel.readyState = .closed then .closed else .closing
    let e := (e.cleanupReceiver.releaseInbound).rejectPending
      (protocolError "The transfer was closed." "closed")
    (e.setState .closed).setReadyState readyState

/-- The checks of `sendFile` before it starts. -/
def checkSendFile (e : Engine) (file : SourceFile) : Checked Unit := do
  throwIf (e.options.role ≠ .sender)
    (protocolError "Only the sender can send a file." "invalid_state")
  throwIf (e.isTerminal = true ∨ e.completionSent = true) e.notAvailable
  throwIf (file.size > maxTransferBytes)
    (protocolError "The selected file is too large." "file_too_large")
  throwIf (e.options.signingKey = none)
    (protocolError "A sender signing key is required." "invalid_material")

/-- `sendFile` up to its first `await`. -/
def sendFile (e : Engine) (file : SourceFile) (fileName : Option JsString) : Engine :=
  match e.checkSendFile file with
  | .error error => e.addThread (.sendFile file fileName (.returned (.error (.protocol error))))
  | .ok _ => e.start.1.addThread (.sendFile file fileName (.starting e.start.2))

/-! ## The course of `sendFile` -/

section SendFile

variable (unicode : Unicode)

/-- Call `sendFrame` and go on to await it; a payload that cannot be serialised throws. -/
def sendOrThrow (e : Engine) (type : FrameType) (payload : Json) (next : ℕ → SendFilePc) :
    Engine × SendFilePc :=
  match e.sendJson type payload with
  | (e, .error error) => (e, .returned (.error error))
  | (e, .ok send) => (e, next send)

/-- The acceptance promise, made before the offer is signed. -/
def expectAcceptance (e : Engine) : Engine :=
  { e with
    acceptances := e.acceptances ++ [.pending]
    acceptancePromise := some e.acceptances.length
    acceptanceSettles := some e.acceptances.length }

/-- `sendFile` after the confirmation: the manifest, the acceptance promise
and the offer to sign. -/
def prepareOffer (e : Engine) (file : SourceFile) (fileName : Option JsString) :
    Engine × SendFilePc :=
  let manifest : TransferManifest := {
    fileName := sanitizeFileName unicode (fileName <|> file.name)
    mediaType := sanitizeMediaType (some file.type)
    byteCount := file.size
    chunkSize := e.options.chunkSize }
  let core : FileOfferCore := {
    transferId := e.options.transferId
    fileName := manifest.fileName
    mediaType := manifest.mediaType
    byteCount := manifest.byteCount }
  match canonicalJsonBytes core.json with
  | .error error => (e.expectAcceptance, .returned (.error (.protocol error)))
  | .ok _ => (e.expectAcceptance, .signingOffer manifest core)

/-- The head of the loop over the chunks: read the next one, or prepare the completion. -/
def nextChunk (e : Engine) (file : SourceFile) (offset chunkCount : ℕ)
    (digest : IncrementalSha256) : Engine × SendFilePc :=
  if offset < file.size then (e, .reading offset chunkCount digest)
  else
    match digest.digest with
    | .error error => (e, .returned (.error (.protocol error)))
    | .ok (output, _) =>
      let core : FileComplete := {
        transferId := e.options.transferId
        byteCount := file.size
        chunkCount
        sha256 := encodeBase64Url output
        transcriptHash := encodeBase64Url e.options.transcriptHash }
      match canonicalJsonBytes core.json with
      | .error error =>
        ({ e with sentCompletion := some core }, .returned (.error (.protocol error)))
      | .ok _ => ({ e with sentCompletion := some core }, .signingComplete core)

/-- `sendFile` after a promise of the engine or a call of `sendFrame` settled. -/
def resumeSendFile (e : Engine) (file : SourceFile) (fileName : Option JsString)
    (pc : SendFilePc) : Option (Engine × SendFilePc) :=
  let throws (error : Thrown) : Engine × SendFilePc := (e, .returned (.error error))
  match pc with
  | .starting (.confirming send owner) =>
    (e.resumeStart send owner).map fun (e, pc) => (e, .starting pc)
  | .starting (.returned (.error error)) => some (e, .returned (.error error))
  | .starting (.returned (.ok ())) =>
    if e.stream.isConfirmed then some (e, .waitingConfirmation true)
    else
      match e.confirmationPromise with
      | some _ => some (e, .waitingConfirmation false)
      | none =>
        some ({ e with confirmationPromise := some .pending, confirmationSettles := true },
          .waitingConfirmation false)
  | .waitingConfirmation true => some (e.prepareOffer unicode file fileName)
  | .waitingConfirmation false =>
    match e.confirmationPromise with
    | some (.fulfilled ()) => some (e.prepareOffer unicode file fileName)
    | some (.rejected error) => some (e, .returned (.error (.protocol error)))
    | _ => none
  | .sendingOffer manifest send =>
    e.afterSend send throws (e, .awaitingAcceptance manifest (e.acceptancePromise.getD 0))
  | .awaitingAcceptance manifest promise =>
    match e.acceptances[promise]? with
    | some (.fulfilled ()) =>
      if e.isTerminal then some (e, .returned (.error (.protocol e.notAvailable)))
      else some ((e.setState .sending).sendOrThrow .manifest manifest.json .sendingManifest)
    | some (.rejected error) => some (e, .returned (.error (.protocol error)))
    | _ => none
  | .sendingManifest send => e.afterSend send throws (e.nextChunk file 0 0 .new)
  | .sendingChunk send offset chunkCount digest =>
    e.afterSend send throws (e.nextChunk file offset chunkCount digest)
  | .sendingComplete _ send =>
    e.afterSend send throws (e, .awaitingReceipt (e.receiptPromise.getD 0))
  | .awaitingReceipt promise =>
    match e.receipts[promise]? with
    | some (.fulfilled receipt) => some (e, .returned (.ok receipt))
    | some (.rejected error) => some (e, .returned (.error (.protocol error)))
    | _ => none
  | .signingOffer .. | .reading .. | .signingComplete .. | .returned _ => none

/-- The receipt promise, made before the completion is sent. -/
def expectReceipt (e : Engine) : Engine :=
  { e with
    receipts := e.receipts ++ [.pending]
    receiptPromise := some e.receipts.length
    receiptSettles := some e.receipts.length
    completionSent := true }

/-- `sendFile` after `signP256`. -/
def signedSendFile (e : Engine) : Option Bytes → SendFilePc → Option (Engine × SendFilePc)
  | some signature, .signingOffer manifest core =>
    some (e.sendOrThrow .fileOffer (signedJson core.json (encodeBase64Url signature))
      (.sendingOffer manifest))
  | some signature, .signingComplete core =>
    some (e.expectReceipt.sendOrThrow .complete (signedJson core.json (encodeBase64Url signature))
      (.sendingComplete core))
  | none, .signingOffer .. | none, .signingComplete .. =>
    some (e, .returned (.error (.protocol
      (protocolError "Unable to create the ECDSA signature." "crypto_failure"))))
  | _, _ => none

/-- `sendFile` after `readSlice`. -/
def slicedSendFile (e : Engine) (file : SourceFile) (slice : Option Bytes) :
    SendFilePc → Option (Engine × SendFilePc)
  | .reading offset chunkCount digest =>
    let nextOffset := min (offset + e.options.chunkSize) file.size
    match slice with
    | none => some (e, .returned (.error (.protocol
        (protocolError "The file could not be read." "file_read_failed"))))
    | some chunk =>
      if chunk.length ≠ nextOffset - offset then
        some (e, .returned (.error (.protocol
          (protocolError "The file changed while reading." "file_read_failed"))))
      else
        match digest.update chunk with
        | .error error => some (e, .returned (.error (.protocol error)))
        | .ok digest =>
          let (e, send) := e.sendFrame .chunk chunk false
          some (e, .sendingChunk send nextOffset (chunkCount + 1) digest)
  | _ => none

end SendFile

/-! ## The other calls -/

/-- The name of a terminal frame type. -/
def terminalName (type : FrameType) : String := if type = .cancel then "cancel" else "error"

/-- `sendTerminalFrame` after one of its `await`s. -/
def resumeTerminal (e : Engine) (type : FrameType) (code : JsString) (state : FileTransferState) :
    TerminalPc → Option (Engine × TerminalPc)
  | .starting (.confirming send owner) =>
    (e.resumeStart send owner).map fun (e, pc) => (e, .starting pc)
  | .starting (.returned (.error _)) => some (e.finishTerminal code state, .returned)
  | .starting (.returned (.ok ())) =>
    if e.stream.isConfirmed then
      match e.sendJson type (terminalJson (js (terminalName type)) code) with
      | (e, .error _) => some (e.finishTerminal code state, .returned)
      | (e, .ok send) => some (e, .sending send)
    else some (e.finishTerminal code state, .returned)
  | .sending send =>
    (e.sendResult send).map fun _ => (e.finishTerminal code state, .returned)
  | .returned => none

/-- The continuation of a call of a public method. -/
def resumeThread (unicode : Unicode) (e : Engine) : Thread → Option (Engine × Thread)
  | .opening (.confirming send owner) =>
    (e.resumeStart send owner).map fun (e, pc) => (e, .opening pc)
  | .opening (.returned (.ok ())) => some (e, .finished)
  | .opening (.returned (.error error)) => some (e.fail error true, .finished)
  | .starting (.confirming send owner) =>
    (e.resumeStart send owner).map fun (e, pc) => (e, .starting pc)
  | .starting (.returned _) => some (e, .finished)
  | .accepting send =>
    e.afterSend send (fun _ => (e, .finished)) ({ e with acceptanceSent := true }, .finished)
  | .terminating type code state pc =>
    (e.resumeTerminal type code state pc).map fun (e, pc) => (e, .terminating type code state pc)
  | .sendFile file fileName pc =>
    (e.resumeSendFile unicode file fileName pc).map fun (e, pc) => (e, .sendFile file fileName pc)
  | .finished => none

/-- Replace a suspended call. -/
def setThread (e : Engine) (thread : ℕ) (next : Thread) : Engine :=
  { e with threads := e.threads.set thread next }

/-! ## Handlers

A handler returns the engine with how far the processing of the message got; `none` is the end. -/

/-- A handler that throws. -/
def throwing (e : Engine) (error : ProtocolError) : Engine × Option ReceivePc :=
  (e, some (.threw (.protocol error)))

/-- `handleConfirmation` once the own confirmation is sent or on its way. -/
def finishConfirmation (e : Engine) : Engine :=
  if e.stream.isConfirmed then
    { e with
      confirmationPromise :=
        if e.confirmationSettles then some (.fulfilled ()) else e.confirmationPromise
      confirmationSettles := false
      stateValue := if e.stateValue = .confirming then .ready else e.stateValue }
  else e

/-- `handleConfirmation` -/
def handleConfirmation (e : Engine) : Engine × Option ReceivePc :=
  match e.sentConfirmationPromise with
  | some _ => (e.finishConfirmation, none)
  | none =>
    let (e, pc) := e.sendConfirmation
    (e, some (.confirming pc))

/-- The checks of `handleAccept`. -/
def checkAcceptance (e : Engine) (value : Bytes) : Checked Unit := do
  throwIf (e.options.role ≠ .sender ∨ e.remoteAccepted = true)
    (protocolError "The file acceptance is not expected." "invalid_state")
  checkAccept e.options.transferId value

/-- `handleAccept` -/
def handleAccept (e : Engine) (value : Bytes) : Engine × Option ReceivePc :=
  match e.checkAcceptance value with
  | .error error => e.throwing error
  | .ok _ =>
    ({ e with
      remoteAccepted := true
      acceptances := settle e.acceptances e.acceptanceSettles (.fulfilled ())
      acceptanceSettles := none
      stateValue := if e.stateValue = .confirming ∨ e.stateValue = .ready then .ready
        else e.stateValue }, none)

/-- The checks of `handleChunk`: the manifest and the digest that it works with. -/
def checkChunk (e : Engine) (chunk : Bytes) : Checked IncrementalSha256 :=
  match e.manifest, e.receiverDigest with
  | some manifest, some digest => do
    throwIf (e.options.role ≠ .recipient)
      (protocolError "A chunk arrived before the manifest." "invalid_state")
    let remaining := manifest.byteCount - e.receivedBytes
    throwIf (remaining = 0 ∨ chunk.length = 0 ∨ chunk.length > manifest.chunkSize ∨
      chunk.length > remaining) (protocolError "Chunk size is invalid." "invalid_chunk")
    throwIf (chunk.length ≠ remaining ∧ chunk.length ≠ manifest.chunkSize)
      (protocolError "A non-final chunk has the wrong size." "invalid_chunk")
    return digest
  | _, _ => .error (protocolError "A chunk arrived before the manifest." "invalid_state")

/-- `handleChunk` -/
def handleChunk (e : Engine) (chunk : Bytes) : Engine × Option ReceivePc :=
  match e.checkChunk chunk >>= fun digest => digest.update chunk with
  | .error error => e.throwing error
  | .ok digest =>
    ({ e with
      receiverDigest := some digest
      receiverChunks := e.receiverChunks ++ [chunk]
      receivedBytes := e.receivedBytes + chunk.length
      receivedChunks := e.receivedChunks + 1
      history := { e.history with chunks := e.history.chunks ++ [chunk] } }, none)

/-- The checks of `handleReceipt`. -/
def checkReceipt (e : Engine) (value : Bytes) : Checked TransferReceipt := do
  throwIf (e.options.role ≠ .sender ∨ e.completionSent = false)
    (protocolError "Receipt arrived before completion." "invalid_state")
  let receipt ← parseReceipt value
  throwIf (receipt.transferId ≠ e.options.transferId)
    (protocolError "Receipt transfer identifier does not match." "identity_mismatch")
  throwIf (¬ ∃ sent ∈ e.sentCompletion,
      receipt.byteCount = sent.byteCount ∧ receipt.sha256 = sent.sha256)
    (protocolError "Receipt does not match the sent file." "receipt_mismatch")
  return receipt

/-- `handleReceipt` -/
def handleReceipt (e : Engine) (value : Bytes) : Engine × Option ReceivePc :=
  match e.checkReceipt value with
  | .error error => e.throwing error
  | .ok receipt =>
    let e := { e with
      receipts := settle e.receipts e.receiptSettles (.fulfilled receipt)
      receiptSettles := none }
    (e.setState .completed, none)

/-- `handleTerminalPayload` -/
def handleTerminalPayload (e : Engine) (value : Bytes) (type : FrameType) :
    Engine × Option ReceivePc :=
  match parseTerminal (terminalName type) value with
  | .error error => e.throwing error
  | .ok code =>
    let message := if type = .cancel then "The peer cancelled the transfer."
      else "The peer reported a transfer error."
    (e.fail (.protocol ⟨message, code⟩) false, none)

section Recipient

variable (runtime : Runtime)

/-- The checks of `handleFileOffer` before its first `await`. -/
def checkFileOffer (e : Engine) (value : Bytes) : Checked SignedFileOffer := do
  throwIf (e.options.role ≠ .recipient ∨ e.offeredManifest ≠ none ∨ e.manifest ≠ none)
    (protocolError "The file offer is not expected." "invalid_state")
  let offer ← parseFileOffer runtime.unicode value
  throwIf (offer.core.transferId ≠ e.options.transferId)
    (protocolError "File offer transfer identifier does not match." "identity_mismatch")
  return offer

/-- The message and the signature that `handleFileOffer` verifies. -/
def offerArguments (offer : SignedFileOffer) : Checked (Bytes × Bytes) := do
  return (← canonicalJsonBytes offer.core.json, ← decodeBase64Url offer.signature 64)

/-- `handleFileOffer` with the public key at hand. -/
def verifyOffer (e : Engine) (offer : SignedFileOffer) (key : CryptoKey) :
    Engine × Option ReceivePc :=
  match offerArguments offer with
  | .error error => e.throwing error
  | .ok (message, signature) => (e, some (.verifyingOffer offer key message signature))

/-- `handleFileOffer` -/
def handleFileOffer (e : Engine) (value : Bytes) : Engine × Option ReceivePc :=
  match e.checkFileOffer runtime value with
  | .error error => e.throwing error
  | .ok offer =>
    match e.options.senderSigningPublicKey with
    | some (.key key) => e.verifyOffer offer key
    | _ => (e, some (.importingOffer offer))

/-- `handleFileOffer` after `verifyP256`. -/
def verifiedOffer (e : Engine) (offer : SignedFileOffer) (key : CryptoKey)
    (message signature : Bytes) : Engine × Option ReceivePc :=
  if runtime.crypto.verifyP256 key message signature = false then
    e.throwing (protocolError "File offer signature is invalid." "invalid_signature")
  else
    let e := { e with
      offeredManifest := some offer.manifest
      history := { e.history with
        offers := e.history.offers ++ [Verified.mk offer.core key message signature] } }
    if e.accepted then
      match e.accept with
      | (e, .error error) => (e, some (.threw error))
      | (e, .ok none) => (e, none)
      | (e, .ok (some send)) => (e, some (.accepting send))
    else (e, none)

/-- What `handleManifest` checks before it stores the manifest. -/
def checkManifest (e : Engine) (value : Bytes) : Checked (TransferManifest × TransferManifest) := do
  throwIf (e.options.role ≠ .recipient)
    (protocolError "A sender cannot receive a manifest." "invalid_state")
  throwIf (e.accepted = false) (protocolError "The transfer was not accepted." "not_accepted")
  match e.offeredManifest with
  | none => .error (protocolError "A signed file offer is required." "offer_required")
  | some offered =>
    throwIf (e.manifest ≠ none) (protocolError "The manifest was duplicated." "invalid_state")
    return (offered, ← parseManifest runtime.unicode value)

/-- `handleManifest`; the manifest is stored before it is compared with the offer. -/
def handleManifest (e : Engine) (value : Bytes) : Engine × Option ReceivePc :=
  match e.checkManifest runtime value with
  | .error error => e.throwing error
  | .ok (offered, manifest) =>
    let e := { e with manifest := some manifest }
    if manifest.fileName ≠ offered.fileName ∨ manifest.mediaType ≠ offered.mediaType ∨
        manifest.byteCount ≠ offered.byteCount then
      e.throwing (protocolError "The manifest does not match the signed file offer."
        "offer_mismatch")
    else
      let e := { e with
        receiverDigest := some .new
        history := { e.history with manifests := e.history.manifests ++ [manifest] } }
      (e.setState .receiving, none)

/-- What `handleComplete` checks before it asks for the digest. -/
def checkComplete (e : Engine) (value : Bytes) :
    Checked (FileComplete × Bytes × IncrementalSha256) :=
  match e.manifest, e.receiverDigest with
  | some manifest, some digest => do
    throwIf (e.options.role ≠ .recipient)
      (protocolError "Completion arrived before the manifest." "invalid_state")
    let (core, signature) ← parseComplete value
    throwIf (core.transferId ≠ e.options.transferId ∨ core.byteCount ≠ manifest.byteCount ∨
        core.chunkCount ≠ e.receivedChunks ∨ e.receivedBytes ≠ manifest.byteCount)
      (protocolError "Completion counts do not match the received file." "digest_mismatch")
    let transcript ← decodeBase64Url core.transcriptHash 32
    throwIf (transcript ≠ e.options.transcriptHash)
      (protocolError "Completion transcript does not match." "transcript_mismatch")
    return (core, signature, digest)
  | _, _ => .error (protocolError "Completion arrived before the manifest." "invalid_state")

/-- `handleComplete` with the public key at hand. -/
def verifyComplete (e : Engine) (core : FileComplete) (signature : Bytes) (key : CryptoKey) :
    Engine × Option ReceivePc :=
  match canonicalJsonBytes core.json with
  | .error error => e.throwing error
  | .ok message => (e, some (.verifyingComplete core key message signature))

/-- `handleComplete` once the digest of the received chunks is computed. -/
def compareDigest (e : Engine) (core : FileComplete) (signature output : Bytes) :
    Engine × Option ReceivePc :=
  match decodeBase64Url core.sha256 32 with
  | .error error => e.throwing error
  | .ok expected =>
    if output ≠ expected then
      e.throwing (protocolError "The received file digest does not match." "digest_mismatch")
    else
      match e.options.senderSigningPublicKey with
      | some (.key key) => e.verifyComplete core signature key
      | _ => (e, some (.importingComplete core signature))

/-- `handleComplete` -/
def handleComplete (e : Engine) (value : Bytes) : Engine × Option ReceivePc :=
  match e.checkComplete value with
  | .error error => e.throwing error
  | .ok (core, signature, digest) =>
    match digest.digest with
    | .error error => e.throwing error
    | .ok (output, digest) =>
      ({ e with receiverDigest := some digest }).compareDigest core signature output

/-- `handleComplete` after `verifyP256`.  A manifest that was cleaned up meanwhile throws when its
media type is read. -/
def verifiedComplete (e : Engine) (core : FileComplete) (key : CryptoKey)
    (message signature : Bytes) : Engine × Option ReceivePc :=
  if runtime.crypto.verifyP256 key message signature = false then
    e.throwing (protocolError "Completion signature is invalid." "invalid_signature")
  else
    let e := { e with history := { e.history with
      completions := e.history.completions ++ [Verified.mk core key message signature] } }
    match e.manifest with
    | none => (e, some (.threw (.other
        "Cannot read properties of undefined (reading 'media_type')")))
    | some manifest =>
      let received : ReceivedFile := {
        blob := e.receiverChunks.flatten
        fileName := manifest.fileName
        mediaType := manifest.mediaType
        byteCount := e.receivedBytes
        sha256 := core.sha256 }
      let receipt : TransferReceipt := {
        transferId := e.options.transferId
        byteCount := e.receivedBytes
        sha256 := core.sha256 }
      match e.sendJson .receipt receipt.json with
      | (e, .error error) => (e, some (.threw error))
      | (e, .ok send) => (e, some (.sendingReceipt received send))

/-- `importP256Spki` of the sender's key; a key that is not given as bytes is not imported. -/
def importSenderKey (e : Engine) : Option (Checked CryptoKey) :=
  match e.options.senderSigningPublicKey with
  | some (.spki bytes) => some (runtime.crypto.importP256Spki bytes .signing)
  | _ => none

/-- The dispatch of `handleMessage` on the type of the frame. -/
def handleFrame (e : Engine) (header : FrameHeader) (plaintext : Bytes) :
    Engine × Option ReceivePc :=
  match header.type with
  | .confirm => e.handleConfirmation
  | .fileOffer => e.handleFileOffer runtime plaintext
  | .accept => e.handleAccept plaintext
  | .manifest => e.handleManifest runtime plaintext
  | .chunk => e.handleChunk plaintext
  | .complete => e.handleComplete plaintext
  | .receipt => e.handleReceipt plaintext
  | .cancel => e.handleTerminalPayload plaintext .cancel
  | .error => e.handleTerminalPayload plaintext .error

end Recipient

/-- A handler after the call of `sendFrame` that it awaits settled. -/
def resumeHandler (e : Engine) (pc : ReceivePc) : Option (Engine × Option ReceivePc) :=
  let throws (error : Thrown) : Engine × Option ReceivePc := (e, some (.threw error))
  match pc with
  | .confirming (.confirming send owner) =>
    (e.resumeStart send owner).map fun (e, pc) => (e, some (.confirming pc))
  | .confirming (.returned (.ok ())) => some (e.finishConfirmation, none)
  | .confirming (.returned (.error error)) => some (throws error)
  | .accepting send => e.afterSend send throws ({ e with acceptanceSent := true }, none)
  | .sendingReceipt received send =>
    e.afterSend send throws
      (({ e with receivedFile := some received }).cleanupReceiverChunksOnly.setState
        .completed, none)
  | _ => none

/-! ## The channel -/

/-- `createFrame` returned or threw: the next status of the call, with the stream. -/
def encryptedSend (e : Engine) (result : Option Bytes) :
    SendStatus → Option (FrameStream × SendStatus)
  | .encrypting call =>
    match e.stream.createFrameResume call result with
    | (stream, .error error) => some (stream, .settled (.error (.protocol error)))
    | (stream, .ok frame) => some (stream, .created call frame)
  | _ => none

def channelClosed : ProtocolError := protocolError "The data channel is closed." "channel_closed"

/-- `waitForDataChannelCapacity` up to the promise it returns. -/
def waitForDataChannelCapacity (e : Engine) : SendStatus → Option SendStatus
  | .created call frame =>
    if e.channel.readyState = .closed ∨ e.channel.readyState = .closing then
      some (.refused call channelClosed)
    else if e.channel.bufferedAmount < e.options.highWaterMark then some (.passed call frame)
    else some (.waiting call frame)
  | _ => none

/-- The end of `sendFrame`: the next status of the call, with the channel. -/
def transmitSend (channel : DataChannel) : SendStatus → Option (DataChannel × SendStatus)
  | .passed _ frame =>
    if channel.readyState ≠ .opened then
      some (channel, .settled (.error (.protocol
        (protocolError "The data channel is not open." "channel_closed"))))
    else
      some ({ channel with
        bufferedAmount := channel.bufferedAmount + frame.length
        sent := channel.sent ++ [frame] }, .settled (.ok ()))
  | .refused _ error => some (channel, .settled (.error (.protocol error)))
  | _ => none

/-- Settle every wait for capacity; the handlers of the channel chain all of them. -/
def settleWaits (sends : List SendStatus) (next : EncryptCall → Bytes → SendStatus) :
    List SendStatus :=
  sends.map fun
    | .waiting call frame => next call frame
    | status => status

end Engine

/-! ## Steps -/

inductive EngineEvent where
  /-- The public methods. -/
  | start
  | accept
  | reject (code : JsString)
  | sendFile (file : SourceFile) (fileName : Option JsString)
  | close
  /-- `handleMessage` -/
  | message (data : MessageData)
  /-- The channel changes its state or its buffer. -/
  | opened
  | closing
  | closed
  | errored
  | drained (bufferedAmount : ℕ)
  | bufferedAmountLow
  /-- A call of `sendFrame` goes on: after `encrypt`, to
  `waitForDataChannelCapacity`, to the end. -/
  | encrypted (send : ℕ) (result : Option Bytes)
  | capacity (send : ℕ)
  | transmit (send : ℕ)
  /-- A call of a public method goes on, after `signP256` and `readSlice` with their outcome. -/
  | resume (thread : ℕ)
  | signed (thread : ℕ) (signature : Option Bytes)
  | sliced (thread : ℕ) (slice : Option Bytes)
  /-- The receive queue goes on. -/
  | dequeue
  | bytesRead (failure : Option String)
  | decrypted (result : Option Bytes)
  | handle
  | imported
  | verified
  | resumeHandler
  | caught
  deriving DecidableEq, Repr

namespace Engine

variable (runtime : Runtime)

/-- Go on with the message being processed. -/
def goOn (step : Engine × Option ReceivePc) : Engine := { step.1 with receiving := step.2 }

/-- Go on with a call of `sendFrame`. -/
def setSend (e : Engine) (send : ℕ) (status : SendStatus) : Engine :=
  { e with sends := e.sends.set send status }

/-- `channelBytes` and the first segment of `receiveFrame`. -/
def readMessage (e : Engine) (data : MessageData) (failure : Option String) : ReceivePc :=
  match data, failure with
  | .blob _, some message => .threw (.other message)
  | data, _ =>
    match channelBytes data >>= fun bytes =>
        e.stream.receiveFrame e.options.keys.receiveKey e.options.keys.receiveNoncePrefix bytes with
    | .error error => .threw (.protocol error)
    | .ok call => .decrypting call

/-- The second segment of `receiveFrame`. -/
def openFrame (e : Engine) (call : DecryptCall) (result : Option Bytes) :
    Engine × Option ReceivePc :=
  match e.stream.receiveFrameResume call result with
  | (stream, .error error) => ({ e with stream }, some (.threw (.protocol error)))
  | (stream, .ok (header, plaintext)) => ({ e with stream }, some (.received header plaintext))

/-- `receiveQueue.then(…)` for the next message: the callback does not run when
the queue is rejected. -/
def dequeueMessage (e : Engine) : Option Engine :=
  match e.receiving, e.queue with
  | none, data :: queue =>
    let e := { e with queue }
    match e.queueError with
    | some error => some (e.fail error true)
    | none => some { e with receiving := some (.reading data) }
  | _, _ => none

/-- The step an event makes; `none` when the event cannot occur. -/
def step (e : Engine) : EngineEvent → Option Engine
  | .start => some (e.start.1.addThread (.starting e.start.2))
  | .accept =>
    match e.accept with
    | (e, .ok (some send)) => some (e.addThread (.accepting send))
    | (e, _) => some e
  | .reject code => some (e.sendTerminalFrame .cancel code .cancelled)
  | .sendFile file fileName => some (e.sendFile file fileName)
  | .close => some e.close
  | .message data => some (if e.isTerminal then e else { e with queue := e.queue ++ [data] })
  | .opened =>
    if e.channel.readyState = .connecting then some (e.setReadyState .opened).onOpen else none
  | .closing =>
    if e.channel.readyState = .closed then none else some (e.setReadyState .closing)
  | .closed =>
    if e.channel.readyState = .closed then none
    else
      let e := e.setReadyState .closed
      let e := e.fail (.protocol (protocolError "The data channel closed." "channel_closed")) true
      some { e with sends := settleWaits e.sends fun call _ => .refused call channelClosed }
  | .errored =>
    let error := protocolError "The data channel failed." "channel_failed"
    let e := e.fail (.protocol error) true
    some { e with sends := settleWaits e.sends fun call _ => .refused call error }
  | .drained bufferedAmount =>
    if bufferedAmount ≤ e.channel.bufferedAmount then
      some { e with channel := { e.channel with bufferedAmount } }
    else none
  | .bufferedAmountLow =>
    if e.channel.bufferedAmount ≤ e.options.lowWaterMark then
      some { e with sends := settleWaits e.sends .passed }
    else some e
  | .encrypted send result => do
    let (stream, status) ← e.encryptedSend result (← e.sends[send]?)
    return { e.setSend send status with stream }
  | .capacity send => do
    return e.setSend send (← e.waitForDataChannelCapacity (← e.sends[send]?))
  | .transmit send => do
    let (channel, status) ← transmitSend e.channel (← e.sends[send]?)
    return { e.setSend send status with channel }
  | .resume thread => do
    let (e, next) ← e.resumeThread runtime.unicode (← e.threads[thread]?)
    return e.setThread thread next
  | .signed thread signature => do
    match ← e.threads[thread]? with
    | .sendFile file fileName pc =>
      let (e, pc) ← e.signedSendFile signature pc
      return e.setThread thread (.sendFile file fileName pc)
    | _ => none
  | .sliced thread slice => do
    match ← e.threads[thread]? with
    | .sendFile file fileName pc =>
      let (e, pc) ← e.slicedSendFile file slice pc
      return e.setThread thread (.sendFile file fileName pc)
    | _ => none
  | .dequeue => e.dequeueMessage
  | .bytesRead failure =>
    match e.receiving with
    | some (.reading data) => some { e with receiving := some (e.readMessage data failure) }
    | _ => none
  | .decrypted result =>
    match e.receiving with
    | some (.decrypting call) => some (goOn (e.openFrame call result))
    | _ => none
  | .handle =>
    match e.receiving with
    | some (.received header plaintext) => some (goOn (e.handleFrame runtime header plaintext))
    | _ => none
  | .imported =>
    match e.receiving, e.importSenderKey runtime with
    | some (.importingOffer _), some (.error error)
    | some (.importingComplete _ _), some (.error error) => some (goOn (e.throwing error))
    | some (.importingOffer offer), some (.ok key) => some (goOn (e.verifyOffer offer key))
    | some (.importingComplete core signature), some (.ok key) =>
      some (goOn (e.verifyComplete core signature key))
    | _, _ => none
  | .verified =>
    match e.receiving with
    | some (.verifyingOffer offer key message signature) =>
      some (goOn (e.verifiedOffer runtime offer key message signature))
    | some (.verifyingComplete core key message signature) =>
      some (goOn (e.verifiedComplete runtime core key message signature))
    | _ => none
  | .resumeHandler => do return goOn (← e.resumeHandler (← e.receiving))
  | .caught =>
    match e.receiving with
    | some (.threw error) =>
      some { e.fail error true with receiving := none, queueError := some error }
    | _ => none

end Engine

end SelfRelay
