import SelfRelay.Transfer.Outbox

/-!
# What a step passes to `sendFrame`

An event calls `sendFrame` at most once.  `Course` is what a call of `sendFile` does from one
`await` to the next, with the frame that it passes on the way, and `Origin` says where every other
frame comes from. `step_courseStep` is the inversion of the step function in these terms.
-/

namespace SelfRelay

namespace Engine

variable {runtime : Runtime} {e e' : Engine} {event : EngineEvent}

/-! ## Calls of `sendFrame` -/

/-- What a call of `sendFrame` does with a frame: it throws before `createFrame`, `createFrame`
throws, or the call awaits `encrypt`. -/
inductive Issued (keys : DirectionalKeys) (s : FrameStream) (type : FrameType) (body : Bytes) :
    FrameStream → SendStatus → Prop
  | thrown (error : ProtocolError) : Issued keys s type body s (.settled (.error (.protocol error)))
  | failed {t : FrameStream} {error : ProtocolError}
    (h : s.createFrame keys.sendKey keys.sendNoncePrefix type body = (t, .error error)) :
    Issued keys s type body t (.settled (.error (.protocol error)))
  | suspended {t : FrameStream} {call : EncryptCall}
    (h : s.createFrame keys.sendKey keys.sendNoncePrefix type body = (t, .ok call)) :
    Issued keys s type body t (.encrypting call)

theorem issued_sendFrameStart (e : Engine) (type : FrameType) (body : Bytes) (confirmation : Bool) :
    Issued e.options.keys e.stream type body (e.sendFrameStart type body confirmation).1
      (e.sendFrameStart type body confirmation).2 := by
  unfold sendFrameStart
  dsimp only
  split_ifs
  · exact .thrown _
  · exact .thrown _
  · exact .thrown _
  · split
    case h_1 t error hcreate => exact .failed hcreate
    case h_2 t call hcreate => exact .suspended hcreate

/-- The step calls `sendFrame` with this frame, or not at all; the other calls stay. -/
inductive Passes (e e' : Engine) : Option (FrameType × Bytes) → Prop
  | nothing (h : e'.sends = e.sends) : Passes e e' none
  | frame {type : FrameType} {body : Bytes} {status : SendStatus}
    (hissued : Issued e.options.keys e.stream type body e'.stream status)
    (hsends : e'.sends = e.sends ++ [status]) : Passes e e' (some (type, body))

namespace Passes

/-- Only the keys, the stream and the calls matter. -/
theorem congr {e₁ e₁' : Engine} {frame : Option (FrameType × Bytes)} (h : Passes e₁ e₁' frame)
    (hoptions : e₁.options = e.options) (hstream : e₁.stream = e.stream)
    (hsends : e₁.sends = e.sends)
    (hstream' : e'.stream = e₁'.stream) (hsends' : e'.sends = e₁'.sends) : Passes e e' frame := by
  cases h with
  | nothing h => exact .nothing (by rw [hsends', h, hsends])
  | frame hissued h =>
    rw [hoptions, hstream, ← hstream'] at hissued
    exact .frame hissued (by rw [hsends', h, hsends])

theorem sendFrame (e : Engine) (type : FrameType) (body : Bytes) (confirmation : Bool) :
    Passes e (e.sendFrame type body confirmation).1 (some (type, body)) :=
  .frame (issued_sendFrameStart e type body confirmation) rfl

end Passes

/-- A payload that can be serialised is passed on. -/
theorem sendJson_cases (e : Engine) (type : FrameType) (payload : Json) :
    (∃ error, canonicalJsonBytes payload = .error error ∧
      e.sendJson type payload = (e, .error (.protocol error))) ∨
    ∃ body, canonicalJsonBytes payload = .ok body ∧
      e.sendJson type payload = ((e.sendFrame type body false).1, .ok e.sends.length) := by
  unfold sendJson
  cases hbytes : canonicalJsonBytes payload with
  | error error => exact .inl ⟨error, rfl, rfl⟩
  | ok body => exact .inr ⟨body, rfl, rfl⟩

/-! ## Frames that no call of `sendFile` passes -/

/-- Where a frame comes from that no call of `sendFile` passes, in the state after the step. -/
inductive Origin (e' : Engine) : FrameType → Bytes → Prop
  | confirmation : Origin e' .confirm e'.options.confirmation
  | acceptance {body : Bytes} (hrole : e'.options.role = .recipient)
      (haccepted : e'.accepted = true)
    (hbody : canonicalJsonBytes (acceptJson e'.options.transferId) = .ok body) : Origin e'
      .accept body
  | receipt {received : ReceivedFile} {send : ℕ} {body : Bytes}
    (hreceiving : e'.receiving = some (.sendingReceipt received send))
    (hbody : canonicalJsonBytes (TransferReceipt.mk e'.options.transferId received.byteCount
      received.sha256).json = .ok body) : Origin e' .receipt body
  | terminal {type : FrameType} {code : JsString} {body : Bytes} (htype : type = .cancel ∨
      type = .error)
    (hbody : canonicalJsonBytes (terminalJson (js (terminalName type)) code) = .ok body) :
    Origin e' type body

theorem Origin.congr {type : FrameType} {body : Bytes} (h : Origin e type body)
    (hoptions : e'.options = e.options) (haccepted : e'.accepted = e.accepted)
    (hreceiving : e'.receiving = e.receiving) : Origin e' type body := by
  cases h with
  | confirmation =>
    rw [← hoptions]
    exact .confirmation
  | acceptance hrole h hbody =>
    exact .acceptance (hoptions ▸ hrole) (haccepted ▸ h) (hoptions ▸ hbody)
  | receipt h hbody => exact .receipt (hreceiving ▸ h) (hoptions ▸ hbody)
  | terminal htype hbody => exact .terminal htype hbody

/-- What the step passes has one of these origins. -/
def PassesApart (e e' : Engine) : Prop :=
  ∃ frame, Passes e e' frame ∧ ∀ f ∈ frame, Origin e' f.1 f.2

namespace PassesApart

theorem of_sends (h : e'.sends = e.sends) : PassesApart e e' :=
  ⟨none, .nothing h, fun _ hf => by cases hf⟩

/-- At most the own confirmation is passed. -/
theorem sendConfirmation (e : Engine) :
    ∃ frame, Passes e e.sendConfirmation.1 frame ∧ ∀ f ∈ frame,
      f = (.confirm, e.options.confirmation) := by
  unfold Engine.sendConfirmation
  split
  · exact ⟨none, .nothing rfl, fun _ hf => by cases hf⟩
  · split_ifs
    · exact ⟨none, .nothing rfl, fun _ hf => by cases hf⟩
    · refine ⟨_, (Passes.sendFrame e .confirm e.options.confirmation true).congr rfl rfl rfl
        rfl rfl, ?_⟩
      rintro f ⟨⟩
      rfl

theorem start (e : Engine) :
    ∃ frame, Passes e e.start.1 frame ∧ ∀ f ∈ frame, f = (.confirm, e.options.confirmation) := by
  unfold Engine.start
  split_ifs
  · exact ⟨none, .nothing rfl, fun _ hf => by cases hf⟩
  · exact ⟨none, .nothing rfl, fun _ hf => by cases hf⟩
  · obtain ⟨frame, hpasses, hframe⟩ := sendConfirmation e.markStarted
    exact ⟨frame, hpasses.congr rfl rfl rfl rfl rfl, hframe⟩

/-- A step that begins with `start` or `sendConfirmation`. -/
theorem of_confirm {d : Engine}
    (h : ∃ frame, Passes e d frame ∧ ∀ f ∈ frame, f = (.confirm, e.options.confirmation))
    (hoptions : e'.options = e.options) (hstream : e'.stream = d.stream)
    (hsends : e'.sends = d.sends) :
    PassesApart e e' := by
  obtain ⟨frame, hpasses, hframe⟩ := h
  refine ⟨frame, hpasses.congr rfl rfl rfl hstream hsends, fun f hf => ?_⟩
  rw [hframe f hf, ← hoptions]
  exact .confirmation

end PassesApart

/-- What a call of `accept` passes, and what it leaves. -/
theorem accept_cases (e : Engine) :
    e.accept.1.sends = e.sends ∨ ∃ body, e.options.role = .recipient ∧ e.accept.1.accepted = true ∧
      canonicalJsonBytes (acceptJson e.options.transferId) = .ok body ∧
      Passes e e.accept.1 (some (.accept, body)) := by
  unfold accept
  split_ifs with hstate
  · exact .inl rfl
  · exact .inl rfl
  · dsimp only
    rcases sendJson_cases { e with accepted := true } .accept (acceptJson e.options.transferId) with
      ⟨error, _, hsend⟩ | ⟨body, hbody, hsend⟩ <;> rw [hsend]
    · exact .inl rfl
    · have hrole : e.options.role = .recipient := by
        by_contra hrole
        exact hstate (.inl hrole)
      exact .inr ⟨body, hrole, rfl, hbody,
        (Passes.sendFrame { e with accepted := true } .accept body false).congr rfl rfl rfl rfl rfl⟩

/-- The rest of a step after `accept`. -/
theorem PassesApart.of_accept {d : Engine} (hoptions₁ : d.options = e.options)
    (hstream₁ : d.stream = e.stream) (hsends₁ : d.sends = e.sends)
    (hoptions : e'.options = e.options) (hstream : e'.stream = d.accept.1.stream)
    (hsends : e'.sends = d.accept.1.sends) (haccepted : e'.accepted = d.accept.1.accepted) :
    PassesApart e e' := by
  rcases accept_cases d with h | ⟨body, hrole, hafter, hbody, hpasses⟩
  · exact .of_sends (by rw [hsends, h, hsends₁])
  · refine ⟨_, hpasses.congr hoptions₁ hstream₁ hsends₁ hstream hsends, ?_⟩
    rintro f ⟨⟩
    refine .acceptance ?_ (haccepted.trans hafter) ?_
    · rw [hoptions, ← hoptions₁, hrole]
    · rw [hoptions, ← hoptions₁, hbody]

/-! ## The course of `sendFile` -/

/-- The manifest that `sendFile` writes for a file. -/
def manifestOf (e : Engine) (unicode : Unicode) (file : SourceFile) (fileName : Option JsString) :
    TransferManifest where
  fileName := sanitizeFileName unicode (fileName <|> file.name)
  mediaType := sanitizeMediaType (some file.type)
  byteCount := file.size
  chunkSize := e.options.chunkSize

/-- The part of the offer that `sendFile` signs. -/
def offerOf (e : Engine) (manifest : TransferManifest) : FileOfferCore where
  transferId := e.options.transferId
  fileName := manifest.fileName
  mediaType := manifest.mediaType
  byteCount := manifest.byteCount

/-- The completion that `sendFile` signs. -/
def completionOf (e : Engine) (file : SourceFile) (chunkCount : ℕ) (output : Bytes) :
    FileComplete where
  transferId := e.options.transferId
  byteCount := file.size
  chunkCount := chunkCount
  sha256 := encodeBase64Url output
  transcriptHash := encodeBase64Url e.options.transcriptHash

end Engine

/-- The call has not prepared its manifest. -/
def SendFilePc.waits : SendFilePc → Bool
  | starting _ | waitingConfirmation _ => true
  | _ => false

/-- The frame before the next head of the loop over the chunks, and the variables of the loop. -/
def SendFilePc.loop : SendFilePc → Option (ℕ × ℕ × ℕ × IncrementalSha256)
  | sendingManifest send => some (send, 0, 0, .new)
  | sendingChunk send offset chunkCount digest => some (send, offset, chunkCount, digest)
  | _ => none

namespace Engine

variable {runtime : Runtime} {e e' : Engine} {event : EngineEvent}

/-- A call of `sendFile` goes on to its next `await`, and the frame it passes on the way. -/
inductive Course (unicode : Unicode) (e : Engine) (event : EngineEvent) (i : ℕ) (file : SourceFile)
    (fileName : Option JsString) : SendFilePc → SendFilePc → Option (FrameType × Bytes) → Prop
  | threw {pc : SendFilePc} {error : Thrown} :
    Course unicode e event i file fileName pc (.returned (.error error)) none
  | waited {pc pc' : SendFilePc} (hpc : pc.waits = true) (hpc' : pc'.waits = true) :
    Course unicode e event i file fileName pc pc' none
  | prepared {immediate : Bool} {message : Bytes}
    (hmessage : canonicalJsonBytes (e.offerOf (e.manifestOf unicode file fileName)).json =
      .ok message) :
    Course unicode e event i file fileName (.waitingConfirmation immediate)
      (.signingOffer (e.manifestOf unicode file fileName)
        (e.offerOf (e.manifestOf unicode file fileName)))
      none
  | offered {manifest : TransferManifest} {core : FileOfferCore} {signature body : Bytes}
    (hbody : canonicalJsonBytes (signedJson core.json (encodeBase64Url signature)) = .ok body) :
    Course unicode e event i file fileName (.signingOffer manifest core)
      (.sendingOffer manifest e.sends.length) (some (.fileOffer, body))
  | offerSent {manifest : TransferManifest} {send : ℕ} (hsend : e.sendResult send = some (.ok ())) :
    Course unicode e event i file fileName (.sendingOffer manifest send)
      (.awaitingAcceptance manifest (e.acceptancePromise.getD 0)) none
  | accepted {manifest : TransferManifest} {promise : ℕ} {body : Bytes}
    (hpromise : e.acceptances[promise]? = some (.fulfilled ()))
    (hbody : canonicalJsonBytes manifest.json = .ok body) :
    Course unicode e event i file fileName (.awaitingAcceptance manifest promise)
      (.sendingManifest e.sends.length) (some (.manifest, body))
  | looped {pc : SendFilePc} {send offset chunkCount : ℕ} {digest : IncrementalSha256}
    (hpc : pc.loop = some (send, offset, chunkCount, digest))
    (hsend : e.sendResult send = some (.ok ()))
    (hoffset : offset < file.size) :
    Course unicode e event i file fileName pc (.reading offset chunkCount digest) none
  | read {offset chunkCount : ℕ} {digest digest' : IncrementalSha256} {chunk : Bytes}
    (hevent : event = .sliced i (some chunk))
    (hlength : chunk.length = min (offset + e.options.chunkSize) file.size - offset)
    (hupdate : digest.update chunk = .ok digest') :
    Course unicode e event i file fileName (.reading offset chunkCount digest)
      (.sendingChunk e.sends.length (min (offset + e.options.chunkSize) file.size)
        (chunkCount + 1) digest')
      (some (.chunk, chunk))
  | digested {pc : SendFilePc} {send offset chunkCount : ℕ} {digest digest' : IncrementalSha256}
    {output : Bytes} (hpc : pc.loop = some (send, offset, chunkCount, digest))
    (hsend : e.sendResult send = some (.ok ())) (hoffset : file.size ≤ offset)
    (hdigest : digest.digest = .ok (output, digest')) :
    Course unicode e event i file fileName pc
      (.signingComplete (e.completionOf file chunkCount output)) none
  | completed {core : FileComplete} {signature body : Bytes}
    (hbody : canonicalJsonBytes (signedJson core.json (encodeBase64Url signature)) = .ok body) :
    Course unicode e event i file fileName (.signingComplete core)
      (.sendingComplete core e.sends.length)
      (some (.complete, body))
  | completionSent {core : FileComplete} {send : ℕ} (hsend : e.sendResult send = some (.ok ())) :
    Course unicode e event i file fileName (.sendingComplete core send)
      (.awaitingReceipt (e.receiptPromise.getD 0)) none
  | confirmed {promise : ℕ} {receipt : TransferReceipt}
    (hpromise : e.receipts[promise]? = some (.fulfilled receipt)) :
    Course unicode e event i file fileName (.awaitingReceipt promise) (.returned (.ok receipt)) none

/-- A call of `sendFile` goes on, and the rest of the engine with it. -/
def Courses (unicode : Unicode) (e : Engine) (event : EngineEvent) (i : ℕ) (file : SourceFile)
    (fileName : Option JsString) (pc : SendFilePc) (e' : Engine) (pc' : SendFilePc) : Prop :=
  ∃ frame, Course unicode e event i file fileName pc pc' frame ∧ Passes e e' frame

section SendFile

variable {unicode : Unicode} {i : ℕ} {file : SourceFile} {fileName : Option JsString}
  {pc pc' : SendFilePc}

theorem Courses.threw {error : Thrown} (h : e'.sends = e.sends) :
    Courses unicode e event i file fileName pc e' (.returned (.error error)) :=
  ⟨none, .threw, .nothing h⟩

/-- `sendFile` writes a payload to `sendFrame`, or throws because it cannot be serialised. -/
theorem courses_sendOrThrow {d : Engine} {type : FrameType} {payload : Json} {next : ℕ → SendFilePc}
    (hoptions : d.options = e.options) (hstream : d.stream = e.stream) (hsends : d.sends = e.sends)
    (hnext : ∀ body, canonicalJsonBytes payload = .ok body →
      Course unicode e event i file fileName pc (next e.sends.length) (some (type, body)))
    (h : d.sendOrThrow type payload next = (e', pc')) :
    Courses unicode e event i file fileName pc e' pc' := by
  unfold sendOrThrow at h
  rcases sendJson_cases d type payload with ⟨error, _, hsend⟩ | ⟨body, hbody, hsend⟩ <;>
    rw [hsend] at h <;>
    cases h
  · exact .threw hsends
  · rw [hsends]
    exact ⟨_, hnext body hbody, (Passes.sendFrame d type body false).congr hoptions hstream
      hsends rfl rfl⟩

theorem courses_nextChunk {send offset chunkCount : ℕ} {digest : IncrementalSha256}
    (hpc : pc.loop = some (send, offset, chunkCount, digest))
    (h : e.afterSend send (fun error => (e, .returned (.error error)))
      (e.nextChunk file offset chunkCount digest) = some (e', pc')) :
    Courses unicode e event i file fileName pc e' pc' := by
  rcases afterSend_cases h with ⟨hsend, h⟩ | ⟨error, _, h⟩
  · unfold nextChunk at h
    split_ifs at h with hoffset
    · cases h
      exact ⟨none, .looped hpc hsend hoffset, .nothing rfl⟩
    · split at h
      · cases h
        exact .threw rfl
      case h_2 output digest' hdigest =>
        dsimp only at h
        split at h <;> cases h
        · exact .threw rfl
        · exact ⟨none, .digested hpc hsend (Nat.le_of_not_lt hoffset) hdigest, .nothing rfl⟩
  · cases h
    exact .threw rfl

theorem courses_prepareOffer {immediate : Bool}
    (h : e.prepareOffer unicode file fileName = (e', pc')) :
    Courses unicode e event i file fileName (.waitingConfirmation immediate) e' pc' := by
  unfold prepareOffer at h
  dsimp only at h
  split at h <;> cases h
  · exact .threw rfl
  case h_2 message hmessage => exact ⟨none, .prepared hmessage, .nothing rfl⟩

theorem courses_resumeSendFile (h : e.resumeSendFile unicode file fileName pc = some (e', pc')) :
    Courses unicode e event i file fileName pc e' pc' := by
  cases pc with
  | starting pc =>
    rcases pc with ⟨send, owner⟩ | (error | ⟨⟨⟩⟩)
    · obtain ⟨⟨e₁, pc₁⟩, h₁, h₂⟩ := Option.map_eq_some_iff.1 h
      cases h₂
      refine ⟨none, .waited rfl rfl, .nothing ?_⟩
      rcases afterSend_cases h₁ with ⟨_, h₁⟩ | ⟨error, _, h₁⟩
      · cases h₁
        rfl
      · cases owner <;> cases h₁ <;> rfl
    · cases h
      exact .threw rfl
    · unfold resumeSendFile at h
      dsimp only at h
      split at h
      · cases h
        exact ⟨none, .waited rfl rfl, .nothing rfl⟩
      · split at h <;> cases h <;> exact ⟨none, .waited rfl rfl, .nothing rfl⟩
  | waitingConfirmation immediate =>
    cases immediate with
    | true => exact courses_prepareOffer (Option.some.inj h)
    | false =>
      unfold resumeSendFile at h
      dsimp only at h
      split at h
      · exact courses_prepareOffer (Option.some.inj h)
      · cases h
        exact .threw rfl
      · cases h
  | sendingOffer manifest send =>
    rcases afterSend_cases h with ⟨hsend, h⟩ | ⟨error, _, h⟩ <;> cases h
    · exact ⟨none, .offerSent hsend, .nothing rfl⟩
    · exact .threw rfl
  | awaitingAcceptance manifest promise =>
    unfold resumeSendFile at h
    dsimp only at h
    split at h
    case h_1 hpromise =>
      split_ifs at h
      · cases h
        exact .threw rfl
      · exact courses_sendOrThrow (d := e.setState .sending) rfl rfl rfl
          (fun body hbody => .accepted hpromise hbody) (Option.some.inj h)
    · cases h
      exact .threw rfl
    · cases h
  | sendingManifest send => exact courses_nextChunk rfl h
  | sendingChunk send offset chunkCount digest => exact courses_nextChunk rfl h
  | sendingComplete core send =>
    rcases afterSend_cases h with ⟨hsend, h⟩ | ⟨error, _, h⟩ <;> cases h
    · exact ⟨none, .completionSent hsend, .nothing rfl⟩
    · exact .threw rfl
  | awaitingReceipt promise =>
    unfold resumeSendFile at h
    dsimp only at h
    split at h
    case h_1 receipt hpromise =>
      cases h
      exact ⟨none, .confirmed hpromise, .nothing rfl⟩
    · cases h
      exact .threw rfl
    · cases h
  | signingOffer | reading | signingComplete | returned => cases h

theorem courses_signedSendFile {signature : Option Bytes}
    (h : e.signedSendFile signature pc = some (e', pc')) :
    Courses unicode e event i file fileName pc e' pc' := by
  unfold signedSendFile at h
  split at h
  case h_1 signature manifest core =>
    exact courses_sendOrThrow rfl rfl rfl (fun body hbody => .offered hbody) (Option.some.inj h)
  case h_2 signature core =>
    exact courses_sendOrThrow (d := e.expectReceipt) rfl rfl rfl (fun body hbody =>
      .completed hbody)
      (Option.some.inj h)
  all_goals cases h
  all_goals exact .threw rfl

theorem courses_slicedSendFile {slice : Option Bytes}
    (h : e.slicedSendFile file slice pc = some (e', pc')) :
    Courses unicode e (.sliced i slice) i file fileName pc e' pc' := by
  unfold slicedSendFile at h
  split at h
  · dsimp only at h
    split at h
    · cases h
      exact .threw rfl
    case h_2 chunk =>
      split_ifs at h with hlength
      · cases h
        exact .threw rfl
      · split at h <;> cases h
        · exact .threw rfl
        case h_2 digest' hupdate =>
          refine ⟨_, .read rfl (not_not.1 hlength) hupdate, ?_⟩
          exact (Passes.sendFrame e .chunk chunk false).congr rfl rfl rfl rfl rfl
  · cases h

end SendFile

/-! ## The other calls -/

theorem resumeStart_sends {send : ℕ} {owner : Bool} {pc : StartPc}
    (h : e.resumeStart send owner = some (e', pc)) : e'.sends = e.sends := by
  rcases afterSend_cases h with ⟨_, h⟩ | ⟨error, _, h⟩
  · cases h
    rfl
  · cases owner <;> cases h <;> rfl

theorem fail_sends (e : Engine) (error : Thrown) (sendWire : Bool) :
    (e.fail error sendWire).sends = e.sends := (fail_line e error sendWire).2.1

/-- A terminal frame is passed once the own confirmation is sent. -/
theorem apart_resumeTerminal {type : FrameType} {code : JsString} {state : FileTransferState}
    {pc pc' : TerminalPc} (htype : type = .cancel ∨ type = .error) (hafter : e'.options = e.options)
    (h : e.resumeTerminal type code state pc = some (e', pc')) : PassesApart e e' := by
  cases pc with
  | starting pc =>
    rcases pc with ⟨send, owner⟩ | (error | ⟨⟨⟩⟩)
    · obtain ⟨⟨e₁, pc₁⟩, h₁, h₂⟩ := Option.map_eq_some_iff.1 h
      cases h₂
      exact .of_sends (resumeStart_sends h₁)
    · cases h
      exact .of_sends rfl
    · unfold resumeTerminal at h
      dsimp only at h
      rcases sendJson_cases e type (terminalJson (js (terminalName type)) code) with
        ⟨error, _, hsend⟩ | ⟨body, hbody, hsend⟩ <;> rw [hsend] at h
      · split_ifs at h <;> cases h <;> exact .of_sends rfl
      · split_ifs at h <;> cases h
        · refine ⟨_, Passes.sendFrame e type body false, ?_⟩
          rintro f ⟨⟩
          exact .terminal htype hbody
        · exact .of_sends rfl
  | sending send =>
    obtain ⟨_, _, h₂⟩ := Option.map_eq_some_iff.1 h
    cases h₂
    exact .of_sends rfl
  | returned => cases h

/-! ## Handlers -/

section Handlers

variable {header : FrameHeader} {value : Bytes}

theorem apart_handleConfirmation (e : Engine) : PassesApart e (goOn e.handleConfirmation) := by
  unfold handleConfirmation
  split
  · refine .of_sends ?_
    unfold finishConfirmation goOn
    split <;> rfl
  · exact .of_confirm (PassesApart.sendConfirmation e) (serves_sendConfirmation e).options rfl rfl

theorem verifyOffer_sends (e : Engine) (offer : SignedFileOffer) (key : CryptoKey) :
    (e.verifyOffer offer key).1.sends = e.sends := by
  unfold verifyOffer
  split <;> rfl

theorem verifyComplete_sends (e : Engine) (core : FileComplete) (signature : Bytes)
    (key : CryptoKey) :
    (e.verifyComplete core signature key).1.sends = e.sends := by
  unfold verifyComplete
  split <;> rfl

theorem handleFileOffer_sends (e : Engine) (runtime : Runtime) (value : Bytes) :
    (e.handleFileOffer runtime value).1.sends = e.sends := by
  unfold handleFileOffer
  split
  · rfl
  · split
    · exact verifyOffer_sends e _ _
    · rfl

theorem handleComplete_sends (e : Engine) (value : Bytes) :
    (e.handleComplete value).1.sends = e.sends := by
  unfold handleComplete compareDigest
  split
  · rfl
  · split
    · rfl
    · split
      · rfl
      · split_ifs
        · rfl
        · split
          · exact verifyComplete_sends _ _ _ _
          · rfl

/-- Only `handleConfirmation` calls `sendFrame` before it gives up the thread. -/
theorem handleFrame_sends (e : Engine) (runtime : Runtime) (htype : header.type ≠ .confirm) :
    (e.handleFrame runtime header value).1.sends = e.sends := by
  unfold handleFrame
  split
  case h_1 hconfirm => exact absurd hconfirm htype
  case h_2 => exact handleFileOffer_sends e runtime value
  case h_3 =>
    unfold handleAccept
    split <;> rfl
  case h_4 =>
    unfold handleManifest
    split
    · rfl
    · dsimp only
      split_ifs <;> rfl
  case h_5 =>
    unfold handleChunk
    split <;> rfl
  case h_6 => exact handleComplete_sends e value
  case h_7 =>
    unfold handleReceipt
    split <;> rfl
  all_goals
    unfold handleTerminalPayload
    split
    · rfl
    · exact fail_sends e _ false

theorem apart_handleFrame (e : Engine) (runtime : Runtime) (header : FrameHeader) (value : Bytes) :
    PassesApart e (goOn (e.handleFrame runtime header value)) := by
  by_cases htype : header.type = .confirm
  · unfold handleFrame
    rw [htype]
    exact apart_handleConfirmation e
  · exact .of_sends (handleFrame_sends e runtime htype)

theorem apart_verifiedOffer (e : Engine) (runtime : Runtime) (offer : SignedFileOffer)
    (key : CryptoKey)
    (message signature : Bytes) :
    PassesApart e (goOn (e.verifiedOffer runtime offer key message signature)) := by
  unfold verifiedOffer
  split_ifs
  · exact .of_sends rfl
  · let e₁ : Engine := { e with
      offeredManifest := some offer.manifest
      history := { e.history with
        offers := e.history.offers ++ [Verified.mk offer.core key message signature] } }
    have hoptions := (serves_accept e₁).options
    have haccept : ∀ pc, PassesApart e (goOn (e₁.accept.1, pc)) := fun pc =>
      .of_accept (d := e₁) rfl rfl rfl hoptions rfl rfl rfl
    show PassesApart e (goOn (if e₁.accepted then _ else _))
    split_ifs
    · split <;> rename_i hresult <;> rw [hresult] at haccept <;> exact haccept _
    · exact .of_sends rfl

theorem apart_verifiedComplete (e : Engine) (runtime : Runtime) (core : FileComplete)
    (key : CryptoKey)
    (message signature : Bytes) :
    PassesApart e (goOn (e.verifiedComplete runtime core key message signature)) := by
  unfold verifiedComplete
  split_ifs
  · exact .of_sends rfl
  · let e₁ : Engine := { e with history := { e.history with
      completions := e.history.completions ++ [Verified.mk core key message signature] } }
    dsimp only
    split
    · exact .of_sends rfl
    · rcases sendJson_cases e₁ .receipt
        (TransferReceipt.mk e.options.transferId e.receivedBytes core.sha256).json with
        ⟨error, _, hsend⟩ | ⟨body, hbody, hsend⟩ <;> rw [hsend]
      · exact .of_sends rfl
      · refine ⟨_, (Passes.sendFrame e₁ .receipt body false).congr rfl rfl rfl rfl rfl, ?_⟩
        rintro f ⟨⟩
        exact .receipt rfl hbody

theorem resumeHandler_sends {pc : ReceivePc} {next : Engine × Option ReceivePc}
    (h : e.resumeHandler pc = some next) : next.1.sends = e.sends := by
  unfold resumeHandler at h
  dsimp only at h
  split at h
  · obtain ⟨⟨e₁, pc₁⟩, h₁, h₂⟩ := Option.map_eq_some_iff.1 h
    cases h₂
    exact resumeStart_sends h₁
  · cases h
    unfold finishConfirmation
    split <;> rfl
  · cases h
    rfl
  · rcases afterSend_cases h with ⟨_, h⟩ | ⟨error, _, h⟩ <;> cases h <;> rfl
  · rcases afterSend_cases h with ⟨_, h⟩ | ⟨error, _, h⟩ <;> cases h <;> rfl
  · cases h

end Handlers

end Engine

/-! ## Steps -/

/-- The call of `sendFile`, if the thread is one. -/
def Thread.course : Thread → Option (SourceFile × Option JsString × SendFilePc)
  | sendFile file fileName pc => some (file, fileName, pc)
  | opening _ | starting _ | accepting _ | terminating .. | finished => none

/-- The events that go on with calls of `sendFrame`. -/
def EngineEvent.moves : EngineEvent → Bool
  | .closed | .errored | .bufferedAmountLow | .encrypted .. | .capacity _ | .transmit _ => true
  | _ => false

namespace Engine

variable {runtime : Runtime} {e e' : Engine} {event : EngineEvent}

/-- The call of `sendFile` with this index. -/
def courseAt (e : Engine) (i : ℕ) : Option (SourceFile × Option JsString × SendFilePc) :=
  e.threads[i]?.bind Thread.course

theorem courseAt_addThread (e : Engine) {thread : Thread} (h : thread.course = none) (i : ℕ) :
    (e.addThread thread).courseAt i = e.courseAt i := by
  unfold courseAt addThread
  dsimp only
  rw [List.getElem?_append]
  split_ifs with hi
  · rfl
  · rw [List.getElem?_eq_none (Nat.le_of_not_lt hi), List.getElem?_singleton]
    split_ifs <;> simp [h]

theorem courseAt_setThread {e : Engine} {j : ℕ} {thread next : Thread}
    (hthread : e.threads[j]? = some thread) (h : thread.course = none)
    (h' : next.course = none) (i : ℕ) :
    (e.setThread j next).courseAt i = e.courseAt i := by
  unfold courseAt setThread
  dsimp only
  rw [List.getElem?_set]
  split_ifs with hi hlt
  · subst hi
    simp [hthread, h, h']
  · subst hi
    rw [List.getElem?_eq_none (Nat.le_of_not_lt hlt)]
  · rfl

/-- What a step does to the calls of `sendFile`, and what it passes to `sendFrame`. -/
inductive CourseStep (unicode : Unicode) (event : EngineEvent) (e e' : Engine) : Prop
  /-- No call of `sendFile` goes on. -/
  | apart (hcourses : ∀ i, e'.courseAt i = e.courseAt i) (hpasses : PassesApart e e')
  /-- Calls of `sendFrame` go on. -/
  | moved (hevent : event.moves = true) (hthreads : e'.threads = e.threads)
    (hlength : e'.sends.length = e.sends.length)
  /-- `sendFile` is called. -/
  | called {file : SourceFile} {fileName : Option JsString} {pc : SendFilePc}
    (hevent : event = .sendFile file fileName)
    (hpc : (∃ error, e.checkSendFile file = .error error ∧
      pc = .returned (.error (.protocol error))) ∨
      e.checkSendFile file = .ok () ∧ pc.waits = true)
    (hthreads : e'.threads = e.threads ++ [.sendFile file fileName pc]) (hpasses : PassesApart e e')
  /-- A call of `sendFile` goes on. -/
  | went {i : ℕ} {file : SourceFile} {fileName : Option JsString} {pc pc' : SendFilePc}
    (hthread : e.threads[i]? = some (.sendFile file fileName pc))
    (hthreads : e'.threads = e.threads.set i (.sendFile file fileName pc'))
    (hcourses : Courses unicode e event i file fileName pc e' pc')

namespace CourseStep

variable {unicode : Unicode}

theorem of_threads (hthreads : e'.threads = e.threads) (h : PassesApart e e') :
    CourseStep unicode event e e' := by
  refine .apart (fun i => ?_) h
  unfold courseAt
  rw [hthreads]

/-- A thread that is no call of `sendFile` is added. -/
theorem addThread {e₁ : Engine} {thread : Thread} (hthreads : e₁.threads = e.threads)
    (hthread : thread.course = none) (h : PassesApart e (e₁.addThread thread)) :
    CourseStep unicode event e (e₁.addThread thread) := by
  refine .apart (fun i => ?_) h
  rw [courseAt_addThread e₁ hthread]
  unfold courseAt
  rw [hthreads]

/-- A thread that is no call of `sendFile` goes on. -/
theorem setThread {e₁ : Engine} {i : ℕ} {thread next : Thread} (hthreads : e₁.threads = e.threads)
    (hthread : e.threads[i]? = some thread) (hcourse : thread.course = none)
    (hnext : next.course = none)
    (h : PassesApart e (e₁.setThread i next)) :
    CourseStep unicode event e (e₁.setThread i next) := by
  refine .apart (fun j => ?_) h
  rw [courseAt_setThread (by rw [hthreads, hthread]) hcourse hnext]
  unfold courseAt
  rw [hthreads]

/-- A handler that calls no `sendFrame`. -/
theorem goOn {r : Engine × Option ReceivePc} (hthreads : r.1.threads = e.threads)
    (h : r.1.sends = e.sends) : CourseStep unicode event e (goOn r) :=
  .of_threads hthreads (.of_sends h)

end CourseStep

theorem Courses.set {unicode : Unicode} {i : ℕ} {file : SourceFile} {fileName : Option JsString}
    {pc pc' : SendFilePc} {e₁ : Engine}
    (hthread : e.threads[i]? = some (.sendFile file fileName pc))
    (hthreads : e₁.threads = e.threads) (h : Courses unicode e event i file fileName pc e₁ pc') :
    CourseStep unicode event e (e₁.setThread i (.sendFile file fileName pc')) := by
  obtain ⟨frame, hcourse, hpasses⟩ := h
  refine .went hthread ?_ ⟨frame, hcourse, hpasses.congr rfl rfl rfl rfl rfl⟩
  unfold Engine.setThread
  rw [hthreads]

/-- `sendTerminalFrame` is called for terminal frames only. -/
def TerminalTypes (e : Engine) : Prop :=
  ∀ thread ∈ e.threads, ∀ t ∈ thread.terminates, t.1 = .cancel ∨ t.1 = .error

theorem terminalTypes_step (h : e.TerminalTypes) (hstep : e.step runtime event = some e') :
    e'.TerminalTypes :=
  (step_advances hstep).threads.forall_terminates (P := fun type _ => type = .cancel ∨
    type = .error)
    (.inl rfl) h

theorem terminalTypes_construct {o : ConstructorOptions} {registry : InboundTransferRegistry}
    {readyState : ReadyState} (h : construct o registry readyState = .ok e) : e.TerminalTypes := by
  obtain ⟨options, stream, registry', _, _, hcases⟩ := construct_cases h
  rcases hcases with ⟨_, rfl⟩ | ⟨_, rfl⟩
  · exact List.forall_mem_nil _
  · exact (threadStep_onOpen _).forall_terminates (P := fun type _ => type = .cancel ∨
      type = .error)
      (.inl rfl) (List.forall_mem_nil _)

/-- A thread goes on that is no call of `sendFile`. -/
theorem courseStep_resumeThread {unicode : Unicode} {i : ℕ} {thread thread' : Thread}
    (hterminal : e.TerminalTypes) (hthread : e.threads[i]? = some thread)
    (h : e.resumeThread unicode thread = some (e', thread')) :
    CourseStep unicode event e (e'.setThread i thread') := by
  have hthreads := (cleans_resumeThread (List.mem_of_getElem? hthread) h).threads
  unfold resumeThread at h
  split at h
  case h_1 | h_4 =>
    obtain ⟨⟨e₁, pc₁⟩, h₁, h₂⟩ := Option.map_eq_some_iff.1 h
    cases h₂
    exact .setThread hthreads hthread rfl rfl
      (.of_sends (resumeStart_sends h₁ : e'.sends = e.sends))
  case h_2 | h_5 =>
    cases h
    exact .setThread hthreads hthread rfl rfl (.of_sends rfl)
  case h_3 error =>
    cases h
    exact .setThread hthreads hthread rfl rfl (.of_sends (fail_sends e error true))
  case h_6 =>
    rcases afterSend_cases h with ⟨_, h⟩ | ⟨error, _, h⟩ <;> cases h <;>
      exact .setThread hthreads hthread rfl rfl (.of_sends rfl)
  case h_7 type code state pc =>
    have hresume : e.resumeThread unicode (.terminating type code state pc) =
      some (e', thread') := h
    have hoptions := (cleans_resumeThread (List.mem_of_getElem? hthread) hresume).options
    obtain ⟨⟨e₁, pc₁⟩, h₁, h₂⟩ := Option.map_eq_some_iff.1 h
    cases h₂
    have htype := hterminal _ (List.mem_of_getElem? hthread) (type, state) rfl
    obtain ⟨frame, hpasses, horigin⟩ := apart_resumeTerminal htype hoptions h₁
    exact .setThread hthreads hthread rfl rfl ⟨frame, hpasses.congr rfl rfl rfl rfl rfl,
      fun f hf => (horigin f hf).congr rfl rfl rfl⟩
  case h_8 file fileName pc =>
    obtain ⟨⟨e₁, pc₁⟩, h₁, h₂⟩ := Option.map_eq_some_iff.1 h
    cases h₂
    exact (courses_resumeSendFile h₁).set hthread hthreads
  case h_9 => cases h

theorem apart_start (hoptions : e'.options = e.options) (hstream : e'.stream = e.start.1.stream)
    (hsends : e'.sends = e.start.1.sends) : PassesApart e e' :=
  .of_confirm (PassesApart.start e) hoptions hstream hsends

/-- What a step does to the calls of `sendFile`, and what it passes. -/
theorem step_courseStep (hterminal : e.TerminalTypes) (h : e.step runtime event = some e') :
    CourseStep runtime.unicode event e e' := by
  cases step_moves h with
  | start | reject =>
    exact .addThread (serves_start e).threads rfl (apart_start (serves_start e).options rfl rfl)
  | @acceptSends e₁ send haccept =>
    have hserves := serves_accept e
    rw [haccept] at hserves
    exact .addThread hserves.threads rfl (.of_accept (d := e) rfl rfl rfl hserves.options
      (congrArg (·.1.stream) haccept.symm) (congrArg (·.1.sends) haccept.symm)
      (congrArg (·.1.accepted) haccept.symm))
  | acceptReturns haccept =>
    have hserves := serves_accept e
    rw [haccept] at hserves
    exact .of_threads hserves.threads (.of_accept (d := e) rfl rfl rfl hserves.options
      (congrArg (·.1.stream) haccept.symm) (congrArg (·.1.sends) haccept.symm)
      (congrArg (·.1.accepted) haccept.symm))
  | @sendFileRefused file fileName error hcheck =>
    exact .called rfl (.inl ⟨error, hcheck, rfl⟩) rfl (.of_sends rfl)
  | @sendFile file fileName hcheck =>
    have hpasses : PassesApart e
        (e.start.1.addThread (.sendFile file fileName (.starting e.start.2))) :=
      apart_start (serves_start e).options rfl rfl
    have hwaits : (SendFilePc.starting e.start.2).waits = true := rfl
    refine .called rfl (.inr ⟨hcheck, hwaits⟩) ?_ hpasses
    unfold addThread
    rw [(serves_start e).threads]
  | opened =>
    let e₁ := e.setReadyState .opened
    have hserves := serves_start e₁
    obtain ⟨frame, hpasses, hframe⟩ := PassesApart.start e₁
    exact .addThread hserves.threads rfl (.of_confirm (d := e₁.start.1)
      ⟨frame, hpasses.congr rfl rfl rfl rfl rfl, hframe⟩ hserves.options rfl rfl)
  | closed =>
    have hserves := serves_fail (e.setReadyState .closed)
      (.protocol (protocolError "The data channel closed." "channel_closed")) true
    refine .moved rfl hserves.threads ?_
    dsimp only [refuseWaits, settleWaits]
    rw [List.length_map, fail_sends]
    rfl
  | @errored error =>
    refine .moved rfl (serves_fail e (.protocol error) true).threads ?_
    dsimp only [refuseWaits, settleWaits]
    rw [List.length_map, fail_sends]
  | capacityFreed => exact .moved rfl rfl (List.length_map _)
  | capacityKept => exact .moved rfl rfl rfl
  | encrypted | capacity | transmit => exact .moved rfl rfl List.length_set
  | resume hthread hnext => exact courseStep_resumeThread hterminal hthread hnext
  | signed hthread hnext =>
    exact (courses_signedSendFile hnext).set hthread (serves_signedSendFile hnext).threads
  | sliced hthread hnext =>
    exact (courses_slicedSendFile hnext).set hthread (serves_slicedSendFile hnext).threads
  | @dequeueRefused _ queue error =>
    exact .of_threads (serves_fail { e with queue } error true).threads
      (.of_sends (fail_sends _ error true))
  | decrypted =>
    unfold openFrame
    split <;> exact .of_threads rfl (.of_sends rfl)
  | handle =>
    exact .of_threads (posts_handleFrame runtime e _ _).threads (apart_handleFrame e runtime _ _)
  | offerKeyRefused | completeKeyRefused => exact .goOn rfl rfl
  | offerKey => exact .goOn (posts_verifyOffer e _ _).threads (verifyOffer_sends e _ _)
  | completeKey => exact .goOn (posts_verifyComplete e _ _ _).threads (verifyComplete_sends e _ _ _)
  | verifiedOffer =>
    exact .of_threads (posts_verifiedOffer runtime e _ _ _ _).threads
      (apart_verifiedOffer e runtime _ _ _ _)
  | verifiedComplete =>
    exact .of_threads (posts_verifiedComplete runtime e _ _ _ _).threads
      (apart_verifiedComplete e runtime _ _ _ _)
  | resumeHandler _ hnext =>
    exact .goOn (posts_resumeHandler hnext).threads (resumeHandler_sends hnext)
  | @caught error =>
    exact .of_threads (serves_fail e error true).threads (.of_sends (fail_sends e error true))
  | rejectLate | closeAgain | close | messageLate | message | closing | drained | dequeue
  | bytesRead => exact .of_threads rfl (.of_sends rfl)

end Engine

end SelfRelay
