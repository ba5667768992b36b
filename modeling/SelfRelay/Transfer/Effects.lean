import SelfRelay.Lib.Run
import SelfRelay.Transfer.Moves

/-!
# What the operations of the engine change

An operation of the engine touches the sending side in one way only: it calls `sendFrame` at most
once (`Posts`).  This file proves that for every operation that is not a continuation of
`sendFrame` itself, so that results about frames never look into the operations.

`fail_eq` is the observation behind the failure reports: `fail` sets the state before it asks for
the terminal frame, and `sendTerminalFrame` does nothing on an engine that is over.
-/

namespace SelfRelay

open StepSystem

namespace Engine

variable {e e' : Engine}

/-! ## Construction -/

/-- A constructed engine is the initial one, started when the channel is already open. -/
theorem construct_cases {o : ConstructorOptions} {registry : InboundTransferRegistry}
    {readyState : ReadyState} (h : construct o registry readyState = .ok e) :
    ∃ options stream registry', checkOptions o = .ok options ∧
      FrameStream.create o.transferId (if o.role = .sender then .s2r else .r2s)
        (some o.material.confirmation) = .ok stream ∧
      (readyState ≠ .opened ∧ e = initial options o.accepted stream registry' readyState ∨
        readyState = .opened ∧
          e = (initial options o.accepted stream registry' readyState).onOpen) := by
  simp only [construct, bind_eq_ok, pure_eq_ok] at h
  obtain ⟨options, hoptions, stream, hstream, registry', _, rfl⟩ := h
  refine ⟨options, stream, registry', hoptions, hstream, ?_⟩
  split_ifs with hopen
  · exact .inr ⟨hopen, rfl⟩
  · exact .inl ⟨hopen, rfl⟩

theorem highWaterMark_pos {o : ConstructorOptions} {options : EngineOptions}
    (h : checkOptions o = .ok options) : 0 < options.highWaterMark := by
  simp only [checkOptions, validateWatermarks, bind_eq_ok, pure_eq_ok, throwIf_eq_ok] at h
  obtain ⟨keys, _, -, -, -, -, -, -, chunkSize, _, -, hmarks, rfl⟩ := h
  show 0 < o.highWaterMark.toNat
  omega

/-! ## Failing -/

/-- `fail` never gets to send a frame. -/
theorem fail_eq (e : Engine) (error : Thrown) (sendWire : Bool) :
    e.fail error sendWire = if e.isTerminal then e else
      ((({ e with
        terminalError := some error.failure }).cleanupReceiver.releaseInbound).rejectPending
        error.failure).setState .failed := by
  unfold fail
  by_cases h : e.isTerminal = true
  · rw [if_pos h, if_pos h]
  · rw [if_neg h, if_neg h]
    simp only [sendTerminalFrame, isTerminal, setState, FileTransferState.isTerminal, if_true,
      ite_self]

/-! ## Calls of `sendFrame` -/

/-- What a call of `sendFrame` does to the stream and leaves as its status: it throws and changes
nothing, or it reserves a counter on an open channel, and then throws or suspends. -/
inductive Posted (keys : DirectionalKeys) (channel : DataChannel) (s : FrameStream)
    (type : FrameType) : FrameStream → SendStatus → Prop
  | thrown (error : Thrown) : Posted keys channel s type s (.settled (.error error))
  | burned (error : Thrown) (hopen : channel.readyState = .opened) :
    Posted keys channel s type { s with sendCounter := ⟨s.sendCounter.nextValue + 1⟩ }
      (.settled (.error error))
  | suspended {t : FrameStream} {body : Bytes} {call : EncryptCall}
    (hopen : channel.readyState = .opened)
    (hcall : s.createFrame keys.sendKey keys.sendNoncePrefix type body = (t, .ok call)) :
    Posted keys channel s type t (.encrypting call)

theorem posted_sendFrameStart (e : Engine) (type : FrameType) (body : Bytes) (confirmation : Bool) :
    Posted e.options.keys e.channel e.stream type (e.sendFrameStart type body confirmation).1
      (e.sendFrameStart type body confirmation).2 := by
  unfold sendFrameStart
  by_cases hover : e.isTerminal = true
  · rw [if_pos hover]
    exact .thrown _
  by_cases hopen : e.channel.readyState ≠ .opened
  · rw [if_neg hover, if_pos hopen]
    exact .thrown _
  by_cases hconfirmed : (!confirmation && !e.stream.isConfirmed) = true
  · rw [if_neg hover, if_neg hopen, if_pos hconfirmed]
    exact .thrown _
  rw [if_neg hover, if_neg hopen, if_neg hconfirmed]
  rw [ne_eq, not_not] at hopen
  rcases e.stream.createFrame_cases e.options.keys.sendKey e.options.keys.sendNoncePrefix type body
    with ⟨error, h⟩ | ⟨_, _, h⟩
  · rw [h]
    exact .thrown _
  · rcases hcall : encryptFrame e.options.keys.sendKey e.options.keys.sendNoncePrefix
      (e.stream.headerFor type e.stream.sendCounter.nextValue body) body with error | call
    · rw [h, hcall]
      exact .burned _ hopen
    · rw [hcall] at h
      rw [h]
      exact .suspended hopen h

/-- A frame of this type may be on its way: `error` frames are the business of
`sendTerminalFrame`. -/
def MayPost (e : Engine) (type : FrameType) : Prop :=
  type = .error → ∃ code state pc, Thread.terminating .error code state pc ∈ e.threads

/-- The operation leaves the channel and the other calls alone and calls
`sendFrame` at most once. -/
structure Posts (e e' : Engine) : Prop where
  options : e'.options = e.options
  channel : e'.channel = e.channel
  threads : e'.threads = e.threads
  sends : e'.stream = e.stream ∧ e'.sends = e.sends ∨
    ∃ type status, e.MayPost type ∧
      Posted e.options.keys e.channel e.stream type e'.stream status ∧
      e'.sends = e.sends ++ [status]

/-- The fields that belong to receiving. -/
structure Receiver where
  offeredManifest : Option TransferManifest
  manifest : Option TransferManifest
  receiverDigest : Option IncrementalSha256
  receiverChunks : List Bytes
  receivedBytes : ℕ
  receivedChunks : ℕ
  receivedFile : Option ReceivedFile
  history : History

def receiver (e : Engine) : Receiver where
  offeredManifest := e.offeredManifest
  manifest := e.manifest
  receiverDigest := e.receiverDigest
  receiverChunks := e.receiverChunks
  receivedBytes := e.receivedBytes
  receivedChunks := e.receivedChunks
  receivedFile := e.receivedFile
  history := e.history

/-- The operation does to the receiving side nothing, or a cleanup. -/
structure Cleans (e e' : Engine) : Prop extends Posts e e' where
  receiver : e'.receiver = e.receiver ∨ e'.receiver = e.cleanupReceiver.receiver
  receiving : e'.receiving = e.receiving

/-- The operation also respects the state of an engine that is over. -/
structure Serves (e e' : Engine) : Prop extends Cleans e e' where
  ended : e.isTerminal = true → e'.stateValue = e.stateValue

theorem Posts.quiet (ho : e'.options = e.options) (hc : e'.channel = e.channel)
    (ht : e'.threads = e.threads) (hs : e'.stream = e.stream) (hl : e'.sends = e.sends) :
    Posts e e' :=
  ⟨ho, hc, ht, .inl ⟨hs, hl⟩⟩

theorem Posts.refl (e : Engine) : Posts e e := .quiet rfl rfl rfl rfl rfl

/-- An operation that touches neither the sending nor the receiving side nor the state. -/
theorem Serves.quiet (ho : e'.options = e.options) (hc : e'.channel = e.channel)
    (ht : e'.threads = e.threads) (hs : e'.stream = e.stream) (hl : e'.sends = e.sends)
    (hr : e'.receiver = e.receiver) (hp : e'.receiving = e.receiving)
    (hv : e'.stateValue = e.stateValue) : Serves e e' :=
  ⟨⟨.quiet ho hc ht hs hl, .inl hr, hp⟩, fun _ => hv⟩

theorem Serves.refl (e : Engine) : Serves e e := .quiet rfl rfl rfl rfl rfl rfl rfl rfl

theorem serves_sendFrame (e : Engine) (type : FrameType) (h : e.MayPost type) (body : Bytes)
    (confirmation : Bool) : Serves e (e.sendFrame type body confirmation).1 :=
  ⟨⟨⟨rfl, rfl, rfl, .inr ⟨type, _, h, posted_sendFrameStart e type body confirmation, rfl⟩⟩,
    .inl rfl, rfl⟩, fun _ => rfl⟩

theorem serves_sendJson (e : Engine) (type : FrameType) (h : e.MayPost type) (payload : Json) :
    Serves e (e.sendJson type payload).1 := by
  unfold sendJson
  cases canonicalJsonBytes payload with
  | error error => exact .refl e
  | ok bytes => exact serves_sendFrame e type h bytes false

/-- A payload that cannot be serialised leaves the engine as it was. -/
theorem sendJson_error {type : FrameType} {payload : Json} {error : Thrown}
    (h : e.sendJson type payload = (e', .error error)) : e' = e := by
  unfold sendJson at h
  split at h <;> cases h
  rfl

theorem serves_fail (e : Engine) (error : Thrown) (sendWire : Bool) :
    Serves e (e.fail error sendWire) := by
  rw [fail_eq]
  split_ifs with hover
  · exact .refl e
  · exact ⟨⟨.quiet rfl rfl rfl rfl rfl, .inr rfl, rfl⟩, fun h => absurd h hover⟩

theorem mayPost_of_ne (e : Engine) (type : FrameType) (h : type ≠ .error) : e.MayPost type :=
  fun he => absurd he h

/-! The operations that call `sendFrame` change other fields before and after; what they do to the
sending side is read off the call. -/

theorem serves_sendConfirmation (e : Engine) : Serves e e.sendConfirmation.1 := by
  unfold sendConfirmation
  split
  · exact .refl e
  · split_ifs
    · exact .refl e
    · have h := serves_sendFrame e .confirm (e.mayPost_of_ne .confirm (by decide))
        e.options.confirmation true
      exact ⟨⟨⟨h.options, h.channel, h.threads, h.sends⟩, h.receiver, h.receiving⟩, h.ended⟩

theorem serves_start (e : Engine) : Serves e e.start.1 := by
  unfold start
  split_ifs with hover
  · exact .refl e
  · exact ⟨⟨.quiet rfl rfl rfl rfl rfl, .inl rfl, rfl⟩, fun h => absurd h hover⟩
  · have h := serves_sendConfirmation e.markStarted
    exact ⟨⟨⟨h.options, h.channel, h.threads, h.sends⟩, h.receiver, h.receiving⟩,
      fun h => absurd h hover⟩

theorem serves_resumeStart {send : ℕ} {owner : Bool} {pc : StartPc}
    (h : e.resumeStart send owner = some (e', pc)) : Serves e e' := by
  rcases afterSend_cases h with ⟨_, h⟩ | ⟨error, _, h⟩
  · cases h
    exact .refl e
  · cases owner <;> cases h
    · exact .refl e
    · exact .quiet rfl rfl rfl rfl rfl rfl rfl rfl

theorem cleans_finishTerminal (e : Engine) (code : JsString) (state : FileTransferState) :
    Cleans e (e.finishTerminal code state) := ⟨.quiet rfl rfl rfl rfl rfl, .inr rfl, rfl⟩

theorem serves_accept (e : Engine) : Serves e e.accept.1 := by
  unfold accept
  split_ifs
  · exact .refl e
  · exact .quiet rfl rfl rfl rfl rfl rfl rfl rfl
  · have h := serves_sendJson { e with accepted := true } .accept
      (mayPost_of_ne _ .accept (by decide)) (acceptJson e.options.transferId)
    exact ⟨⟨⟨h.options, h.channel, h.threads, h.sends⟩, h.receiver, h.receiving⟩, h.ended⟩

section SendFile

variable {unicode : Unicode} {file : SourceFile} {fileName : Option JsString} {pc pc' : SendFilePc}

theorem serves_sendOrThrow (e : Engine) (type : FrameType) (htype : type ≠ .error) (payload : Json)
    (next : ℕ → SendFilePc) : Serves e (e.sendOrThrow type payload next).1 := by
  have h := serves_sendJson e type (e.mayPost_of_ne type htype) payload
  unfold sendOrThrow
  split <;> rename_i hsend <;> rwa [hsend] at h

theorem serves_prepareOffer (e : Engine) (unicode : Unicode) (file : SourceFile)
    (fileName : Option JsString) : Serves e (e.prepareOffer unicode file fileName).1 := by
  unfold prepareOffer
  dsimp only
  split <;> exact .quiet rfl rfl rfl rfl rfl rfl rfl rfl

theorem serves_nextChunk (e : Engine) (file : SourceFile) (offset chunkCount : ℕ)
    (digest : IncrementalSha256) : Serves e (e.nextChunk file offset chunkCount digest).1 := by
  unfold nextChunk
  split_ifs
  · exact .refl e
  · split
    · exact .refl e
    · dsimp only
      split <;> exact .quiet rfl rfl rfl rfl rfl rfl rfl rfl

theorem serves_afterSend {send : ℕ} {next : Engine × SendFilePc}
    (h : e.afterSend send (fun error => (e, .returned (.error error))) next = some (e', pc'))
    (hnext : Serves e next.1) : Serves e e' := by
  rcases afterSend_cases h with ⟨_, h⟩ | ⟨error, _, h⟩
  · rwa [← h] at hnext
  · cases h
    exact .refl e

theorem serves_resumeSendFile (h : e.resumeSendFile unicode file fileName pc = some (e', pc')) :
    Serves e e' := by
  cases pc with
  | starting pc =>
    rcases pc with ⟨send, owner⟩ | (error | ⟨⟨⟩⟩)
    · obtain ⟨⟨e₁, pc₁⟩, h₁, h₂⟩ := Option.map_eq_some_iff.1 h
      cases h₂
      exact serves_resumeStart h₁
    · cases h
      exact .refl e
    · unfold resumeSendFile at h
      dsimp only at h
      split at h
      · cases h
        exact .refl e
      · split at h <;> cases h
        · exact .refl e
        · exact .quiet rfl rfl rfl rfl rfl rfl rfl rfl
  | waitingConfirmation immediate =>
    have hoffer := serves_prepareOffer e unicode file fileName
    cases immediate with
    | true =>
      rw [Option.some.inj h] at hoffer
      exact hoffer
    | false =>
      unfold resumeSendFile at h
      dsimp only at h
      split at h
      · rw [Option.some.inj h] at hoffer
        exact hoffer
      · cases h
        exact .refl e
      · cases h
  | sendingOffer manifest send => exact serves_afterSend h (.refl e)
  | awaitingAcceptance manifest promise =>
    unfold resumeSendFile at h
    dsimp only at h
    split at h
    · split_ifs at h with hover
      · cases h
        exact .refl e
      · have hpost := serves_sendOrThrow (e.setState .sending) .manifest (by decide)
          manifest.json .sendingManifest
        rw [Option.some.inj h] at hpost
        exact ⟨⟨⟨hpost.options, hpost.channel, hpost.threads, hpost.sends⟩, hpost.receiver,
          hpost.receiving⟩,
          fun h => absurd h hover⟩
    · cases h
      exact .refl e
    · cases h
  | sendingManifest send => exact serves_afterSend h (serves_nextChunk e file 0 0 .new)
  | sendingChunk send offset chunkCount digest =>
    exact serves_afterSend h (serves_nextChunk e file offset chunkCount digest)
  | sendingComplete core send => exact serves_afterSend h (.refl e)
  | awaitingReceipt promise =>
    unfold resumeSendFile at h
    dsimp only at h
    split at h <;> cases h <;> exact .refl e
  | signingOffer | reading | signingComplete | returned => cases h

theorem serves_signedSendFile {signature : Option Bytes}
    (h : e.signedSendFile signature pc = some (e', pc')) : Serves e e' := by
  unfold signedSendFile at h
  split at h
  case h_1 signature manifest core =>
    have hpost := serves_sendOrThrow e .fileOffer (by decide)
      (signedJson core.json (encodeBase64Url signature)) (.sendingOffer manifest)
    rwa [Option.some.inj h] at hpost
  case h_2 signature core =>
    have hpost := serves_sendOrThrow e.expectReceipt .complete (by decide)
      (signedJson core.json (encodeBase64Url signature)) (.sendingComplete core)
    rw [Option.some.inj h] at hpost
    exact ⟨⟨⟨hpost.options, hpost.channel, hpost.threads, hpost.sends⟩, hpost.receiver,
      hpost.receiving⟩, hpost.ended⟩
  all_goals cases h
  all_goals exact .refl e

theorem serves_slicedSendFile {slice : Option Bytes}
    (h : e.slicedSendFile file slice pc = some (e', pc')) : Serves e e' := by
  unfold slicedSendFile at h
  split at h
  · dsimp only at h
    split at h
    · cases h
      exact .refl e
    · split_ifs at h
      · cases h
        exact .refl e
      · split at h <;> cases h
        · exact .refl e
        · exact serves_sendFrame e .chunk (e.mayPost_of_ne .chunk (by decide)) _ false
  · cases h

end SendFile

theorem cleans_resumeTerminal {type : FrameType} {code : JsString} {state : FileTransferState}
    {pc pc' : TerminalPc} (hthread : Thread.terminating type code state pc ∈ e.threads)
    (h : e.resumeTerminal type code state pc = some (e', pc')) : Cleans e e' := by
  cases pc with
  | starting pc =>
    rcases pc with ⟨send, owner⟩ | (error | ⟨⟨⟩⟩)
    · obtain ⟨⟨e₁, pc₁⟩, h₁, h₂⟩ := Option.map_eq_some_iff.1 h
      cases h₂
      exact (serves_resumeStart h₁).toCleans
    · cases h
      exact cleans_finishTerminal e code state
    · unfold resumeTerminal at h
      dsimp only at h
      split_ifs at h
      · split at h <;> rename_i hsend <;> cases h
        · rw [sendJson_error hsend]
          exact cleans_finishTerminal e code state
        · have hpost := serves_sendJson e type (fun ht => ⟨code, state, _, ht ▸ hthread⟩)
            (terminalJson (js (terminalName type)) code)
          rw [hsend] at hpost
          exact hpost.toCleans
      · cases h
        exact cleans_finishTerminal e code state
  | sending send =>
    obtain ⟨_, _, h₂⟩ := Option.map_eq_some_iff.1 h
    cases h₂
    exact cleans_finishTerminal e code state
  | returned => cases h

theorem cleans_resumeThread {unicode : Unicode} {thread thread' : Thread}
    (hthread : thread ∈ e.threads) (h : e.resumeThread unicode thread = some (e', thread')) :
    Cleans e e' := by
  unfold resumeThread at h
  split at h
  case h_1 | h_4 =>
    obtain ⟨⟨e₁, pc₁⟩, h₁, h₂⟩ := Option.map_eq_some_iff.1 h
    cases h₂
    exact (serves_resumeStart h₁).toCleans
  case h_2 | h_5 =>
    cases h
    exact (Serves.refl e).toCleans
  case h_3 =>
    cases h
    exact (serves_fail e _ true).toCleans
  case h_6 =>
    rcases afterSend_cases h with ⟨_, h⟩ | ⟨error, _, h⟩ <;> cases h
    · exact ⟨.quiet rfl rfl rfl rfl rfl, .inl rfl, rfl⟩
    · exact (Serves.refl e).toCleans
  case h_7 =>
    obtain ⟨⟨e₁, pc₁⟩, h₁, h₂⟩ := Option.map_eq_some_iff.1 h
    cases h₂
    exact cleans_resumeTerminal hthread h₁
  case h_8 =>
    obtain ⟨⟨e₁, pc₁⟩, h₁, h₂⟩ := Option.map_eq_some_iff.1 h
    cases h₂
    exact (serves_resumeSendFile h₁).toCleans
  case h_9 => cases h

/-! ## Handlers -/

section Handlers

variable (runtime : Runtime) (value : Bytes)

theorem posts_finishConfirmation (e : Engine) : Posts e e.finishConfirmation := by
  unfold finishConfirmation
  split
  · exact .quiet rfl rfl rfl rfl rfl
  · exact .refl e

theorem posts_handleConfirmation (e : Engine) : Posts e e.handleConfirmation.1 := by
  unfold handleConfirmation
  split
  · exact posts_finishConfirmation e
  · exact (serves_sendConfirmation e).toPosts

theorem posts_handleAccept (e : Engine) : Posts e (e.handleAccept value).1 := by
  unfold handleAccept
  split <;> exact .quiet rfl rfl rfl rfl rfl

theorem posts_handleChunk (e : Engine) : Posts e (e.handleChunk value).1 := by
  unfold handleChunk
  split <;> exact .quiet rfl rfl rfl rfl rfl

theorem posts_handleReceipt (e : Engine) : Posts e (e.handleReceipt value).1 := by
  unfold handleReceipt
  split <;> exact .quiet rfl rfl rfl rfl rfl

theorem posts_handleTerminalPayload (e : Engine) (type : FrameType) :
    Posts e (e.handleTerminalPayload value type).1 := by
  unfold handleTerminalPayload
  split
  · exact .refl e
  · exact (serves_fail e _ false).toPosts

theorem posts_verifyOffer (e : Engine) (offer : SignedFileOffer) (key : CryptoKey) :
    Posts e (e.verifyOffer offer key).1 := by
  unfold verifyOffer
  split <;> exact .refl e

theorem posts_handleFileOffer (e : Engine) : Posts e (e.handleFileOffer runtime value).1 := by
  unfold handleFileOffer
  split
  · exact .refl e
  · split
    · exact posts_verifyOffer e _ _
    · exact .refl e

theorem posts_verifiedOffer (e : Engine) (offer : SignedFileOffer) (key : CryptoKey)
    (message signature : Bytes) :
    Posts e (e.verifiedOffer runtime offer key message signature).1 := by
  unfold verifiedOffer
  split_ifs
  · exact .refl e
  · dsimp only
    split_ifs
    · have h := serves_accept { e with
        offeredManifest := some offer.manifest
        history := { e.history with
          offers := e.history.offers ++ [Verified.mk offer.core key message signature] } }
      split <;> rename_i haccept <;> rw [haccept] at h <;>
        exact ⟨h.options, h.channel, h.threads, h.sends⟩
    · exact .quiet rfl rfl rfl rfl rfl

theorem posts_handleManifest (e : Engine) : Posts e (e.handleManifest runtime value).1 := by
  unfold handleManifest
  split
  · exact .refl e
  · dsimp only
    split_ifs <;> exact .quiet rfl rfl rfl rfl rfl

theorem posts_verifyComplete (e : Engine) (core : FileComplete) (signature : Bytes)
    (key : CryptoKey) : Posts e (e.verifyComplete core signature key).1 := by
  unfold verifyComplete
  split <;> exact .refl e

theorem posts_compareDigest (e : Engine) (core : FileComplete) (signature output : Bytes) :
    Posts e (e.compareDigest core signature output).1 := by
  unfold compareDigest
  split
  · exact .refl e
  · split_ifs
    · exact .refl e
    · split
      · exact posts_verifyComplete e _ _ _
      · exact .refl e

theorem posts_handleComplete (e : Engine) : Posts e (e.handleComplete value).1 := by
  unfold handleComplete
  split
  · exact .refl e
  case h_2 core signature digest hcheck =>
    split
    · exact .refl e
    case h_2 output digest hdigest =>
      have h := posts_compareDigest { e with receiverDigest := some digest } core signature output
      exact ⟨h.options, h.channel, h.threads, h.sends⟩

theorem posts_verifiedComplete (e : Engine) (core : FileComplete) (key : CryptoKey)
    (message signature : Bytes) :
    Posts e (e.verifiedComplete runtime core key message signature).1 := by
  unfold verifiedComplete
  split_ifs
  · exact .refl e
  · dsimp only
    split
    · exact .quiet rfl rfl rfl rfl rfl
    · have h := serves_sendJson { e with history := { e.history with
        completions := e.history.completions ++ [Verified.mk core key message signature] } }
        .receipt (mayPost_of_ne _ .receipt (by decide))
        (TransferReceipt.mk e.options.transferId e.receivedBytes core.sha256).json
      split <;> rename_i hsend <;> rw [hsend] at h <;>
        exact ⟨h.options, h.channel, h.threads, h.sends⟩

theorem posts_handleFrame (e : Engine) (header : FrameHeader) (plaintext : Bytes) :
    Posts e (e.handleFrame runtime header plaintext).1 := by
  unfold handleFrame
  split
  · exact posts_handleConfirmation e
  · exact posts_handleFileOffer runtime plaintext e
  · exact posts_handleAccept plaintext e
  · exact posts_handleManifest runtime plaintext e
  · exact posts_handleChunk plaintext e
  · exact posts_handleComplete plaintext e
  · exact posts_handleReceipt plaintext e
  · exact posts_handleTerminalPayload plaintext e .cancel
  · exact posts_handleTerminalPayload plaintext e .error

theorem posts_resumeHandler {pc : ReceivePc} {r : Engine × Option ReceivePc}
    (h : e.resumeHandler pc = some r) : Posts e r.1 := by
  unfold resumeHandler at h
  dsimp only at h
  split at h
  · obtain ⟨⟨e₁, pc₁⟩, h₁, h₂⟩ := Option.map_eq_some_iff.1 h
    cases h₂
    exact (serves_resumeStart h₁).toPosts
  · cases h
    exact posts_finishConfirmation e
  · cases h
    exact .refl e
  · rcases afterSend_cases h with ⟨_, h⟩ | ⟨error, _, h⟩ <;> cases h <;>
      exact .quiet rfl rfl rfl rfl rfl
  · rcases afterSend_cases h with ⟨_, h⟩ | ⟨error, _, h⟩ <;> cases h <;>
      exact .quiet rfl rfl rfl rfl rfl
  · cases h

end Handlers

end Engine

/-! ## Calls of public methods -/

/-- The terminal frame that a call of `sendTerminalFrame` is for, with the state it ends in. -/
def Thread.terminates : Thread → Option (FrameType × FileTransferState)
  | terminating type _ state _ => some (type, state)
  | opening _ | starting _ | accepting _ | sendFile .. | finished => none

/-- The call is in `start`. -/
def SendFilePc.starts : SendFilePc → Bool
  | starting _ => true
  | _ => false

/-- A call of `sendFile` that is in `start`. -/
def Thread.startsFile : Thread → Bool
  | sendFile _ _ pc => pc.starts
  | _ => false

/-- The calls stay, a call is made, or a call goes on; `reject` is the only public method that calls
`sendTerminalFrame`, and only a sender starts in `sendFile`. -/
inductive ThreadStep (role : TransferRole) (threads : List Thread) : List Thread → Prop
  | same : ThreadStep role threads threads
  | added {thread : Thread}
    (h : thread.terminates = none ∨ thread.terminates = some (.cancel, .cancelled))
    (hfile : thread.startsFile = true → role = .sender) :
    ThreadStep role threads (threads ++ [thread])
  | resumed {i : ℕ} {thread thread' : Thread} (hthread : threads[i]? = some thread)
    (h : thread'.terminates = thread.terminates)
    (hfile : thread'.startsFile = true → thread.startsFile = true) :
    ThreadStep role threads (threads.set i thread')

variable {role : TransferRole}

theorem ThreadStep.of_eq {threads threads' : List Thread} (h : threads' = threads) :
    ThreadStep role threads threads' := by
  rw [h]
  exact .same

theorem ThreadStep.startsFile {threads threads' : List Thread}
    (h : ThreadStep role threads threads')
    (hrole : ∀ thread ∈ threads, thread.startsFile = true → role = .sender) :
    ∀ thread ∈ threads', thread.startsFile = true → role = .sender := by
  cases h with
  | same => exact hrole
  | @added thread _ hfile =>
    intro thread' hmem
    rcases List.mem_append.1 hmem with hmem | hmem
    · exact hrole thread' hmem
    · rw [List.mem_singleton.1 hmem]
      exact hfile
  | @resumed i thread next hthread _ hfile =>
    intro thread' hmem hstarts
    rcases List.mem_or_eq_of_mem_set hmem with hmem | rfl
    · exact hrole thread' hmem hstarts
    · exact hrole thread (List.mem_of_getElem? hthread) (hfile hstarts)

/-- What holds of a cancellation and of the calls before the step holds of the calls after it. -/
theorem ThreadStep.forall_terminates {P : FrameType → FileTransferState → Prop}
    {threads threads' : List Thread} (h : ThreadStep role threads threads')
    (hcancel : P .cancel .cancelled)
    (hP : ∀ thread ∈ threads, ∀ t ∈ thread.terminates, P t.1 t.2) :
    ∀ thread ∈ threads', ∀ t ∈ thread.terminates, P t.1 t.2 := by
  cases h with
  | same => exact hP
  | @added thread h _ =>
    intro thread' hmem t ht
    rcases List.mem_append.1 hmem with hmem | hmem
    · exact hP thread' hmem t ht
    · rw [List.mem_singleton.1 hmem] at ht
      rcases h with h | h <;> rw [h] at ht <;> cases ht
      exact hcancel
  | @resumed i thread next hthread h _ =>
    intro thread' hmem t ht
    rcases List.mem_or_eq_of_mem_set hmem with hmem | rfl
    · exact hP thread' hmem t ht
    · exact hP thread (List.mem_of_getElem? hthread) t (h ▸ ht)

/-- The events of the receive queue. -/
def EngineEvent.receives : EngineEvent → Bool
  | .dequeue | .bytesRead _ | .decrypted _ | .handle | .imported | .verified | .resumeHandler
  | .caught => true
  | _ => false

namespace Engine

variable {runtime : Runtime} {e e' : Engine} {event : EngineEvent}

theorem threadStep_onOpen (e : Engine) :
    ThreadStep e.options.role e.threads e.onOpen.threads := by
  unfold onOpen addThread
  rw [(serves_start e).threads]
  exact .added (.inl rfl) (by rintro ⟨⟩)

theorem terminates_resumeThread {unicode : Unicode} {thread thread' : Thread}
    (h : e.resumeThread unicode thread = some (e', thread')) :
    thread'.terminates = thread.terminates := by
  unfold resumeThread at h
  split at h
  case h_1 | h_4 | h_7 | h_8 =>
    obtain ⟨⟨e₁, pc₁⟩, _, h₂⟩ := Option.map_eq_some_iff.1 h
    cases h₂
    rfl
  case h_2 | h_3 | h_5 =>
    cases h
    rfl
  case h_6 => rcases afterSend_cases h with ⟨_, h⟩ | ⟨error, _, h⟩ <;> cases h <;> rfl
  case h_9 => cases h

section SendFile

variable {unicode : Unicode} {file : SourceFile} {fileName : Option JsString} {pc pc' : SendFilePc}

theorem prepareOffer_starts (e : Engine) (unicode : Unicode) (file : SourceFile)
    (fileName : Option JsString) : (e.prepareOffer unicode file fileName).2.starts = false := by
  unfold prepareOffer
  dsimp only
  split <;> rfl

theorem sendOrThrow_starts (e : Engine) (type : FrameType) (payload : Json) (next : ℕ → SendFilePc)
    (hnext : ∀ send, (next send).starts = false) :
    (e.sendOrThrow type payload next).2.starts = false := by
  unfold sendOrThrow
  split
  · rfl
  · exact hnext _

theorem starts_nextChunk {send offset chunkCount : ℕ} {digest : IncrementalSha256}
    (h : e.afterSend send (fun error => (e, .returned (.error error)))
      (e.nextChunk file offset chunkCount digest) = some (e', pc')) : pc'.starts = false := by
  rcases afterSend_cases h with ⟨_, h⟩ | ⟨error, _, h⟩
  · unfold nextChunk at h
    split_ifs at h
    · cases h
      rfl
    · split at h
      · cases h
        rfl
      · dsimp only at h
        split at h <;> cases h <;> rfl
  · cases h
    rfl

/-- A call of `sendFile` never goes back to `start`. -/
theorem starts_resumeSendFile (h : e.resumeSendFile unicode file fileName pc = some (e', pc')) :
    pc.starts = true ∨ pc'.starts = false := by
  have hoffer : e.prepareOffer unicode file fileName = (e', pc') → pc'.starts = false := by
    intro h
    have hpc := prepareOffer_starts e unicode file fileName
    rwa [h] at hpc
  cases pc with
  | starting pc => exact .inl rfl
  | waitingConfirmation immediate =>
    right
    cases immediate with
    | true => exact hoffer (Option.some.inj h)
    | false =>
      unfold resumeSendFile at h
      dsimp only at h
      split at h
      · exact hoffer (Option.some.inj h)
      · cases h
        rfl
      · cases h
  | sendingOffer manifest send =>
    rcases afterSend_cases h with ⟨_, h⟩ | ⟨error, _, h⟩ <;> cases h <;> exact .inr rfl
  | awaitingAcceptance manifest promise =>
    right
    unfold resumeSendFile at h
    dsimp only at h
    split at h
    · split_ifs at h with hover
      · cases h
        rfl
      · have hpc :=
          sendOrThrow_starts (e.setState .sending) .manifest manifest.json .sendingManifest
          fun _ => rfl
        rwa [Option.some.inj h] at hpc
    · cases h
      rfl
    · cases h
  | sendingManifest send => exact .inr (starts_nextChunk h)
  | sendingChunk send offset chunkCount digest => exact .inr (starts_nextChunk h)
  | sendingComplete core send =>
    rcases afterSend_cases h with ⟨_, h⟩ | ⟨error, _, h⟩ <;> cases h <;> exact .inr rfl
  | awaitingReceipt promise =>
    unfold resumeSendFile at h
    dsimp only at h
    split at h <;> cases h <;> exact .inr rfl
  | signingOffer | reading | signingComplete | returned => cases h

theorem starts_signedSendFile {signature : Option Bytes}
    (h : e.signedSendFile signature pc = some (e', pc')) : pc'.starts = false := by
  unfold signedSendFile at h
  split at h
  case h_1 signature manifest core =>
    have hpc := sendOrThrow_starts e .fileOffer (signedJson core.json (encodeBase64Url signature))
      (.sendingOffer manifest) fun _ => rfl
    rwa [Option.some.inj h] at hpc
  case h_2 signature core =>
    have hpc := sendOrThrow_starts e.expectReceipt .complete
      (signedJson core.json (encodeBase64Url signature)) (.sendingComplete core) fun _ => rfl
    rwa [Option.some.inj h] at hpc
  all_goals cases h
  all_goals rfl

theorem starts_slicedSendFile {slice : Option Bytes}
    (h : e.slicedSendFile file slice pc = some (e', pc')) : pc'.starts = false := by
  unfold slicedSendFile at h
  split at h
  · dsimp only at h
    split at h
    · cases h
      rfl
    · split_ifs at h
      · cases h
        rfl
      · split at h <;> cases h <;> rfl
  · cases h

end SendFile

theorem startsFile_resumeThread {unicode : Unicode} {thread thread' : Thread}
    (h : e.resumeThread unicode thread = some (e', thread')) (hstarts : thread'.startsFile = true) :
    thread.startsFile = true := by
  unfold resumeThread at h
  split at h
  case h_8 file fileName pc =>
    obtain ⟨⟨e₁, pc₁⟩, h₁, h₂⟩ := Option.map_eq_some_iff.1 h
    cases h₂
    rcases starts_resumeSendFile h₁ with hpc | hpc
    · exact hpc
    · rw [Thread.startsFile, hpc] at hstarts
      cases hstarts
  case h_1 | h_4 | h_7 =>
    obtain ⟨⟨e₁, pc₁⟩, _, h₂⟩ := Option.map_eq_some_iff.1 h
    cases h₂
    cases hstarts
  case h_2 | h_3 | h_5 =>
    cases h
    cases hstarts
  case h_6 => rcases afterSend_cases h with ⟨_, h⟩ | ⟨error, _, h⟩ <;> cases h <;> cases hstarts
  case h_9 => cases h

/-! ## What an event leaves alone -/

/-- The options stay, the channel opens once, the calls change one at a time, and only the receive
queue goes on with the message being processed. -/
structure Advances (event : EngineEvent) (e e' : Engine) : Prop where
  options : e'.options = e.options
  channel : event = .opened ∨ e'.channel.readyState = e.channel.readyState ∨
    e'.channel.readyState ≠ .opened
  threads : ThreadStep e.options.role e.threads e'.threads
  receiving : event.receives = false → e'.receiving = e.receiving

namespace Advances

theorem quiet (ho : e'.options = e.options)
    (hc : e'.channel.readyState = e.channel.readyState ∨ e'.channel.readyState ≠ .opened)
    (ht : e'.threads = e.threads) (hr : e'.receiving = e.receiving) : Advances event e e' :=
  ⟨ho, .inr hc, .of_eq ht, fun _ => hr⟩

/-- The channel stays as it is. -/
theorem channel_eq (h : e'.channel = e.channel) : event = .opened ∨
    e'.channel.readyState = e.channel.readyState ∨ e'.channel.readyState ≠ .opened :=
  .inr (.inl (congrArg DataChannel.readyState h))

theorem addThread {thread : Thread} (h : Cleans e e')
    (ht : thread.terminates = none ∨ thread.terminates = some (.cancel, .cancelled))
    (hfile : thread.startsFile = true → e.options.role = .sender) :
    Advances event e (e'.addThread thread) := by
  refine ⟨h.options, channel_eq h.channel, ?_, fun _ => h.receiving⟩
  unfold Engine.addThread
  rw [h.threads]
  exact .added ht hfile

theorem setThread {i : ℕ} {thread thread' : Thread} (h : Cleans e e')
    (hthread : e.threads[i]? = some thread) (ht : thread'.terminates = thread.terminates)
    (hfile : thread'.startsFile = true → thread.startsFile = true) :
    Advances event e (e'.setThread i thread') := by
  refine ⟨h.options, channel_eq h.channel, ?_, fun _ => h.receiving⟩
  unfold Engine.setThread
  rw [h.threads]
  exact .resumed hthread ht hfile

theorem goOn {r : Engine × Option ReceivePc} (hevent : event.receives = true) (h : Posts e r.1) :
    Advances event e (goOn r) :=
  ⟨h.options, channel_eq h.channel, .of_eq h.threads,
    fun hfalse => absurd hevent (by simp [hfalse])⟩

end Advances

theorem transmitSend_readyState {channel channel' : DataChannel} {s t : SendStatus}
    (h : transmitSend channel s = some (channel', t)) :
    channel'.readyState = channel.readyState := by
  unfold transmitSend at h
  split at h
  · split_ifs at h <;> cases h <;> rfl
  · cases h
    rfl
  · cases h

theorem step_advances (h : e.step runtime event = some e') : Advances event e e' := by
  cases step_moves h with
  | start => exact .addThread (serves_start e).toCleans (.inl rfl) (by rintro ⟨⟩)
  | acceptSends haccept =>
    have hserves := serves_accept e
    rw [haccept] at hserves
    exact .addThread hserves.toCleans (.inl rfl) (by rintro ⟨⟩)
  | acceptReturns haccept =>
    have hserves := serves_accept e
    rw [haccept] at hserves
    exact ⟨hserves.options, Advances.channel_eq hserves.channel, .of_eq hserves.threads,
      fun _ => hserves.receiving⟩
  | reject => exact .addThread (serves_start e).toCleans (.inr rfl) (by rintro ⟨⟩)
  | sendFileRefused => exact .addThread (Serves.refl e).toCleans (.inl rfl) (by rintro ⟨⟩)
  | sendFile hcheck =>
    refine .addThread (serves_start e).toCleans (.inl rfl) fun _ => ?_
    simp only [checkSendFile, bind_eq_ok, throwIf_eq_ok, not_not, ne_eq] at hcheck
    obtain ⟨_, hrole, _⟩ := hcheck
    exact hrole
  | close hclosed hready =>
    refine .quiet rfl (.inr ?_) rfl rfl
    simp only [setReadyState, hready]
    split <;> decide
  | opened =>
    have hserves := serves_start (e.setReadyState .opened)
    exact ⟨hserves.options, .inl rfl, threadStep_onOpen (e.setReadyState .opened),
      fun _ => hserves.receiving⟩
  | closing => exact .quiet rfl (.inr (by simp [setReadyState])) rfl rfl
  | closed =>
    have hserves := serves_fail (e.setReadyState .closed)
      (.protocol (protocolError "The data channel closed." "channel_closed")) true
    refine .quiet hserves.options (.inr ?_) hserves.threads hserves.receiving
    rw [refuseWaits, hserves.channel]
    simp [setReadyState]
  | @errored error =>
    have hserves := serves_fail e (.protocol error) true
    exact ⟨hserves.options, Advances.channel_eq hserves.channel, .of_eq hserves.threads,
      fun _ => hserves.receiving⟩
  | rejectLate | closeAgain | messageLate | message | drained | capacityFreed | capacityKept
  | encrypted | capacity => exact .quiet rfl (.inl rfl) rfl rfl
  | transmit _ hnext => exact .quiet rfl (.inl (transmitSend_readyState hnext)) rfl rfl
  | resume hthread hnext =>
    exact .setThread (cleans_resumeThread (List.mem_of_getElem? hthread) hnext) hthread
      (terminates_resumeThread hnext) (startsFile_resumeThread hnext)
  | signed hthread hnext =>
    exact .setThread (serves_signedSendFile hnext).toCleans hthread rfl
      (by simp [Thread.startsFile, starts_signedSendFile hnext])
  | sliced hthread hnext =>
    exact .setThread (serves_slicedSendFile hnext).toCleans hthread rfl
      (by simp [Thread.startsFile, starts_slicedSendFile hnext])
  | @dequeueRefused _ queue error =>
    have hserves := serves_fail { e with queue } error true
    exact ⟨hserves.options, Advances.channel_eq hserves.channel, .of_eq hserves.threads,
      fun h => by cases h⟩
  | dequeue | bytesRead => exact ⟨rfl, Advances.channel_eq rfl, .same, fun h => by cases h⟩
  | decrypted =>
    unfold openFrame
    split <;> exact ⟨rfl, Advances.channel_eq rfl, .same, fun h => by cases h⟩
  | handle => exact .goOn rfl (posts_handleFrame runtime e _ _)
  | offerKeyRefused | completeKeyRefused => exact .goOn rfl (.refl e)
  | offerKey => exact .goOn rfl (posts_verifyOffer e _ _)
  | completeKey => exact .goOn rfl (posts_verifyComplete e _ _ _)
  | verifiedOffer => exact .goOn rfl (posts_verifiedOffer runtime e _ _ _ _)
  | verifiedComplete => exact .goOn rfl (posts_verifiedComplete runtime e _ _ _ _)
  | resumeHandler _ hnext => exact .goOn rfl (posts_resumeHandler hnext)
  | @caught error =>
    have hserves := serves_fail e error true
    exact ⟨hserves.options, Advances.channel_eq hserves.channel, .of_eq hserves.threads,
      fun h => by cases h⟩

/-! ## Concrete runs -/

/-- The events lead from a constructed engine to a state with the property. -/
def Reaches (step : Engine → EngineEvent → Option Engine) (o : ConstructorOptions)
    (readyState : ReadyState) (es : List EngineEvent) (P : Engine → Prop) : Prop :=
  ∃ e₀ ∈ (construct o ⟨[]⟩ readyState).toOption, ∃ e ∈ exec step e₀ es, P e

instance {step : Engine → EngineEvent → Option Engine} {o : ConstructorOptions}
    {readyState : ReadyState} {es : List EngineEvent} {P : Engine → Prop} [DecidablePred P] :
    Decidable (Reaches step o readyState es P) :=
  inferInstanceAs (Decidable (∃ e₀ ∈ _, ∃ e ∈ _, P e))

theorem Reaches.exec {step : Engine → EngineEvent → Option Engine} {o : ConstructorOptions}
    {readyState : ReadyState} {es : List EngineEvent} {P : Engine → Prop}
    (h : Reaches step o readyState es P) :
    ∃ e₀ e, construct o ⟨[]⟩ readyState = .ok e₀ ∧ StepSystem.exec step e₀ es = some e ∧ P e := by
  obtain ⟨e₀, he₀, e, he, hP⟩ := h
  refine ⟨e₀, e, ?_, he, hP⟩
  generalize construct o ⟨[]⟩ readyState = constructed at he₀
  cases constructed with
  | error error => cases he₀
  | ok e₁ => rw [Option.some.inj he₀]

/-- A runtime whose signatures always verify. -/
def sampleRuntime : Runtime where
  unicode := ⟨id, id⟩
  crypto := {
    importKey := fun _ raw => some ⟨raw⟩
    exportKey := fun key => some key.material
    verify := fun _ _ _ => some true }

def sampleId : JsString := js "123e4567-e89b-42d3-a456-426614174000"

/-- The options of a transfer with a small send buffer. -/
def sampleOptions (role : TransferRole) : ConstructorOptions where
  transferId := sampleId
  role := role
  material := {
    confirmation := List.replicate 32 1
    transcriptHash := List.replicate 32 2
    sendKey := none
    receiveKey := none
    sendNoncePrefix := none
    receiveNoncePrefix := none
    s2rKey := some ⟨[3]⟩
    r2sKey := some ⟨[4]⟩
    s2rNoncePrefix := some [0, 0, 0, 5]
    r2sNoncePrefix := some [0, 0, 0, 6] }
  signingKey := some ⟨[7]⟩
  senderSigningPublicKey := some (.key ⟨[8]⟩)
  chunkSize := none
  maxMessageSize := none
  highWaterMark := 60
  lowWaterMark := 0
  accepted := true
  inboundDeviceId := none

/-- A frame of the peer, with a ciphertext of zeros. -/
def sampleFrame (direction : FrameDirection) (type : FrameType) (counter : ℕ) (body : Bytes) :
    Bytes :=
  (FrameHeader.mk transferProtocolVersion sampleId direction type counter body.length).bytes ++
    List.replicate (body.length + frameTagBytes) 0

/-- The frame arrives and is read and decrypted. -/
def sampleReceive (direction : FrameDirection) (type : FrameType) (counter : ℕ) (body : Bytes) :
    List EngineEvent :=
  [.message (.buffer (sampleFrame direction type counter body)), .dequeue, .bytesRead none,
    .decrypted (some body)]

/-- A call of `sendFrame` gets a ciphertext of zeros for a plaintext of this length. -/
def sampleEncrypted (send length : ℕ) : EngineEvent :=
  .encrypted send (some (List.replicate (length + frameTagBytes) 0))

/-- The confirmations are exchanged on an open channel. -/
def sampleConfirm (peer : FrameDirection) : List EngineEvent :=
  [sampleEncrypted 0 32, .capacity 0, .transmit 0, .resume 0, .resume 0] ++
    sampleReceive peer .confirm 0 (List.replicate 32 1) ++ [.handle]

/-- Three bytes, which are cut into a piece of two and one of one. -/
def sampleContent : Bytes := [0x61, 0x62, 0x63]

def sampleFile : SourceFile := ⟨3, some (js "a"), js "text/plain"⟩

def sampleManifest : TransferManifest := ⟨js "a", js "text/plain", 3, 2⟩

def sampleCore : FileOfferCore := ⟨sampleId, js "a", js "text/plain", 3⟩

def sampleComplete : FileComplete :=
  ⟨sampleId, 3, 2, encodeBase64Url (Sha256.hash sampleContent),
    encodeBase64Url (List.replicate 32 2)⟩

def samplePayload (payload : Json) : Bytes := (canonicalJsonBytes payload).toOption.getD []

/-- The signed offer of the file arrives, and the acceptance is sent. -/
def sampleOffer : List EngineEvent :=
  sampleReceive .s2r .fileOffer 1
    (samplePayload (signedJson sampleCore.json (encodeBase64Url (List.replicate 64 9)))) ++
  [.handle, .verified, .drained 0, sampleEncrypted 1 (samplePayload (acceptJson sampleId)).length,
    .capacity 1, .transmit 1, .resumeHandler]

end Engine

end SelfRelay
