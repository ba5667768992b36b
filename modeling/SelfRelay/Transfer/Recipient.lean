import SelfRelay.Transfer.Partition
import SelfRelay.Transfer.Sender

/-!
# What an engine makes of the frames it receives

`Hears` is the inversion of the step function as far as the message being received and the history
go.  From it the chunks that were accepted are the chunks that were received, as long as no handler
threw, and a prefix of them afterwards; every accepted manifest was received (`Heard`).  What a
recipient encrypts answers what it heard: an acceptance only once the transfer was accepted, a
receipt only once a file was vouched for (`Answers`).
-/

namespace SelfRelay

open StepSystem

/-- The frame that waits for its handler. -/
def ReceivePc.frame : ReceivePc → Option (FrameType × Bytes)
  | received header plaintext => some (header.type, plaintext)
  | reading _ | decrypting _ | confirming _ | importingOffer _ | verifyingOffer .. | accepting _
  | importingComplete .. | verifyingComplete .. | sendingReceipt .. | threw _ => none

theorem ReceivePc.frame_of_handles {pc : Option ReceivePc} (h : pc.all handles = true) :
    pc.bind frame = none := by
  cases pc with
  | none => rfl
  | some pc => cases pc <;> first | rfl | cases h

/-- The later history goes on from the earlier one. -/
structure History.Before (h h' : History) : Prop where
  offers : h.offers <+: h'.offers
  manifests : h.manifests <+: h'.manifests
  chunks : h.chunks <+: h'.chunks
  completions : h.completions <+: h'.completions

namespace History.Before

variable {h h' h'' : History}

theorem refl (h : History) : h.Before h :=
  ⟨List.prefix_rfl, List.prefix_rfl, List.prefix_rfl, List.prefix_rfl⟩

theorem trans (h₁ : h.Before h') (h₂ : h'.Before h'') : h.Before h'' :=
  ⟨h₁.1.trans h₂.1, h₁.2.trans h₂.2, h₁.3.trans h₂.3, h₁.4.trans h₂.4⟩

end History.Before

namespace Engine

variable {runtime : Runtime} {e e' : Engine} {event : EngineEvent}

/-- The frame that waits for its handler. -/
def heard (e : Engine) : Option (FrameType × Bytes) := e.receiving.bind ReceivePc.frame

/-- The receive queue was not rejected, and will not be by the handler that is running. -/
def Listens (e : Engine) : Prop := e.queueError = none ∧ ∀ error, e.receiving ≠ some (.threw error)

/-- What the receive queue and the recipient decided. -/
def inbound (e : Engine) : Option Thrown × History × Bool := (e.queueError, e.history, e.accepted)

/-! ## Operations that hear nothing -/

theorem sendJson_inbound (e : Engine) (type : FrameType) (payload : Json) :
    (e.sendJson type payload).1.inbound = e.inbound := by
  unfold sendJson
  split <;> rfl

theorem sendConfirmation_inbound (e : Engine) : e.sendConfirmation.1.inbound = e.inbound := by
  unfold sendConfirmation
  split
  · rfl
  · split_ifs <;> rfl

theorem start_inbound (e : Engine) : e.start.1.inbound = e.inbound := by
  unfold start
  split_ifs
  · rfl
  · rfl
  · exact sendConfirmation_inbound e.markStarted

theorem fail_inbound (e : Engine) (error : Thrown) (sendWire : Bool) :
    (e.fail error sendWire).inbound = e.inbound := by
  rw [fail_eq]
  split_ifs <;> rfl

theorem accept_inbound (e : Engine) :
    e.accept.1.inbound = e.inbound ∨ e.accept.1.inbound = (e.queueError, e.history, true) := by
  unfold accept
  split_ifs
  · exact .inl rfl
  · exact .inr rfl
  · exact .inr (sendJson_inbound { e with accepted := true } _ _)

theorem resumeStart_inbound {send : ℕ} {owner : Bool} {pc : StartPc}
    (h : e.resumeStart send owner = some (e', pc)) : e'.inbound = e.inbound := by
  rcases afterSend_cases h with ⟨_, h⟩ | ⟨error, _, h⟩
  · cases h
    rfl
  · cases owner <;> cases h <;> rfl

theorem resumeTerminal_inbound {type : FrameType} {code : JsString} {state : FileTransferState}
    {pc pc' : TerminalPc} (h : e.resumeTerminal type code state pc = some (e', pc')) :
    e'.inbound = e.inbound := by
  cases pc with
  | starting pc =>
    rcases pc with ⟨send, owner⟩ | (error | ⟨⟨⟩⟩)
    · obtain ⟨⟨e₁, pc₁⟩, h₁, h₂⟩ := Option.map_eq_some_iff.1 h
      cases h₂
      exact resumeStart_inbound h₁
    · cases h
      rfl
    · unfold resumeTerminal at h
      dsimp only at h
      have hsend := sendJson_inbound e type (terminalJson (js (terminalName type)) code)
      split_ifs at h
      · split at h <;> rename_i hresult <;> rw [hresult] at hsend <;> cases h
        · exact hsend
        · exact hsend
      · cases h
        rfl
  | sending send =>
    obtain ⟨_, _, h₂⟩ := Option.map_eq_some_iff.1 h
    cases h₂
    rfl
  | returned => cases h

section SendFile

variable {unicode : Unicode} {file : SourceFile} {fileName : Option JsString} {pc pc' : SendFilePc}

theorem sendOrThrow_inbound (e : Engine) (type : FrameType) (payload : Json)
    (next : ℕ → SendFilePc) :
    (e.sendOrThrow type payload next).1.inbound = e.inbound := by
  have h := sendJson_inbound e type payload
  unfold sendOrThrow
  split <;> rename_i hsend <;> rwa [hsend] at h

theorem prepareOffer_inbound (e : Engine) (unicode : Unicode) (file : SourceFile)
    (fileName : Option JsString) : (e.prepareOffer unicode file fileName).1.inbound =
      e.inbound := by
  unfold prepareOffer
  dsimp only
  split <;> rfl

theorem nextChunk_inbound (e : Engine) (file : SourceFile) (offset chunkCount : ℕ)
    (digest : IncrementalSha256) : (e.nextChunk file offset chunkCount digest).1.inbound =
      e.inbound := by
  unfold nextChunk
  split_ifs
  · rfl
  · split
    · rfl
    · dsimp only
      split <;> rfl

theorem afterSend_inbound {send : ℕ} {next : Engine × SendFilePc}
    (h : e.afterSend send (fun error => (e, .returned (.error error))) next = some (e', pc'))
    (hnext : next.1.inbound = e.inbound) : e'.inbound = e.inbound := by
  rcases afterSend_cases h with ⟨_, h⟩ | ⟨error, _, h⟩
  · rwa [← h] at hnext
  · cases h
    rfl

theorem resumeSendFile_inbound (h : e.resumeSendFile unicode file fileName pc = some (e', pc')) :
    e'.inbound = e.inbound := by
  cases pc with
  | starting pc =>
    rcases pc with ⟨send, owner⟩ | (error | ⟨⟨⟩⟩)
    · obtain ⟨⟨e₁, pc₁⟩, h₁, h₂⟩ := Option.map_eq_some_iff.1 h
      cases h₂
      exact resumeStart_inbound h₁
    · cases h
      rfl
    · unfold resumeSendFile at h
      dsimp only at h
      split at h
      · cases h
        rfl
      · split at h <;> cases h <;> rfl
  | waitingConfirmation immediate =>
    have hoffer := prepareOffer_inbound e unicode file fileName
    cases immediate with
    | true =>
      rw [Option.some.inj h] at hoffer
      exact hoffer
    | false =>
      unfold resumeSendFile at h
      dsimp only at h
      split at h
      · rw [Option.some.inj h] at hoffer
        exact hoffer
      · cases h
        rfl
      · cases h
  | sendingOffer manifest send => exact afterSend_inbound h rfl
  | awaitingAcceptance manifest promise =>
    unfold resumeSendFile at h
    dsimp only at h
    split at h
    · split_ifs at h
      · cases h
        rfl
      · have hsend :=
          sendOrThrow_inbound (e.setState .sending) .manifest manifest.json .sendingManifest
        rw [Option.some.inj h] at hsend
        exact hsend
    · cases h
      rfl
    · cases h
  | sendingManifest send => exact afterSend_inbound h (nextChunk_inbound e file 0 0 .new)
  | sendingChunk send offset chunkCount digest =>
    exact afterSend_inbound h (nextChunk_inbound e file offset chunkCount digest)
  | sendingComplete core send => exact afterSend_inbound h rfl
  | awaitingReceipt promise =>
    unfold resumeSendFile at h
    dsimp only at h
    split at h <;> cases h <;> rfl
  | signingOffer | reading | signingComplete | returned => cases h

theorem signedSendFile_inbound {signature : Option Bytes}
    (h : e.signedSendFile signature pc = some (e', pc')) : e'.inbound = e.inbound := by
  unfold signedSendFile at h
  split at h
  case h_1 signature manifest core =>
    have hsend :=
      sendOrThrow_inbound e .fileOffer (signedJson core.json (encodeBase64Url signature))
      (.sendingOffer manifest)
    rwa [Option.some.inj h] at hsend
  case h_2 signature core =>
    have hsend := sendOrThrow_inbound e.expectReceipt .complete
      (signedJson core.json (encodeBase64Url signature)) (.sendingComplete core)
    rwa [Option.some.inj h] at hsend
  all_goals cases h
  all_goals rfl

theorem slicedSendFile_inbound {slice : Option Bytes}
    (h : e.slicedSendFile file slice pc = some (e', pc')) : e'.inbound = e.inbound := by
  unfold slicedSendFile at h
  split at h
  · dsimp only at h
    split at h
    · cases h
      rfl
    · split_ifs at h
      · cases h
        rfl
      · split at h <;> cases h <;> rfl
  · cases h

end SendFile

theorem resumeThread_inbound {unicode : Unicode} {thread thread' : Thread}
    (h : e.resumeThread unicode thread = some (e', thread')) : e'.inbound = e.inbound := by
  unfold resumeThread at h
  split at h
  case h_1 | h_4 =>
    obtain ⟨⟨e₁, pc₁⟩, h₁, h₂⟩ := Option.map_eq_some_iff.1 h
    cases h₂
    exact resumeStart_inbound h₁
  case h_2 | h_5 =>
    cases h
    rfl
  case h_3 =>
    cases h
    exact fail_inbound e _ true
  case h_6 => rcases afterSend_cases h with ⟨_, h⟩ | ⟨error, _, h⟩ <;> cases h <;> rfl
  case h_7 =>
    obtain ⟨⟨e₁, pc₁⟩, h₁, h₂⟩ := Option.map_eq_some_iff.1 h
    cases h₂
    exact resumeTerminal_inbound h₁
  case h_8 =>
    obtain ⟨⟨e₁, pc₁⟩, h₁, h₂⟩ := Option.map_eq_some_iff.1 h
    cases h₂
    exact resumeSendFile_inbound h₁
  case h_9 => cases h

/-! ## Handlers -/

/-- What a handler does: it takes a manifest or a chunk, or leaves the history
alone; then a chunk throws. -/
inductive Handles (runtime : Runtime) (e : Engine) (type : FrameType) (plaintext : Bytes)
    (next : Engine × Option ReceivePc) : Prop
  | kept (hinbound : next.1.inbound = e.inbound)
    (hchunk : type = .chunk → ∃ error, next.2 = some (.threw error))
  | manifest {manifest : TransferManifest} (htype : type = .manifest)
    (hparse : parseManifest runtime.unicode plaintext = .ok manifest)
    (hinbound : next.1.inbound = (e.queueError,
      { e.history with manifests := e.history.manifests ++ [manifest] }, e.accepted))
  | chunk (htype : type = .chunk) (hnext : next.2 = none)
    (hinbound : next.1.inbound = (e.queueError,
      { e.history with chunks := e.history.chunks ++ [plaintext] }, e.accepted))

theorem finishConfirmation_inbound (e : Engine) : e.finishConfirmation.inbound = e.inbound := by
  unfold finishConfirmation
  split <;> rfl

theorem handleConfirmation_inbound (e : Engine) : e.handleConfirmation.1.inbound = e.inbound := by
  unfold handleConfirmation
  split
  · exact finishConfirmation_inbound e
  · exact sendConfirmation_inbound e

theorem verifyOffer_inbound (e : Engine) (offer : SignedFileOffer) (key : CryptoKey) :
    (e.verifyOffer offer key).1.inbound = e.inbound := by
  unfold verifyOffer
  split <;> rfl

theorem verifyComplete_inbound (e : Engine) (core : FileComplete) (signature : Bytes)
    (key : CryptoKey) :
    (e.verifyComplete core signature key).1.inbound = e.inbound := by
  unfold verifyComplete
  split <;> rfl

theorem handleFileOffer_inbound (e : Engine) (value : Bytes) :
    (e.handleFileOffer runtime value).1.inbound = e.inbound := by
  unfold handleFileOffer
  split
  · rfl
  · split
    · exact verifyOffer_inbound e _ _
    · rfl

theorem handleComplete_inbound (e : Engine) (value : Bytes) :
    (e.handleComplete value).1.inbound = e.inbound := by
  unfold handleComplete compareDigest
  split
  · rfl
  · split
    · rfl
    · split
      · rfl
      · split_ifs
        · rfl
        · split
          · exact verifyComplete_inbound _ _ _ _
          · rfl

theorem handles_handleFrame (runtime : Runtime) (e : Engine) (header : FrameHeader)
    (plaintext : Bytes) :
    Handles runtime e header.type plaintext (e.handleFrame runtime header plaintext) := by
  unfold handleFrame
  cases header.type with
  | confirm => exact .kept (handleConfirmation_inbound e) FrameType.noConfusion
  | fileOffer => exact .kept (handleFileOffer_inbound e plaintext) FrameType.noConfusion
  | accept =>
    refine .kept ?_ FrameType.noConfusion
    dsimp only [handleAccept]
    split <;> rfl
  | manifest =>
    dsimp only [handleManifest]
    split
    · exact .kept rfl FrameType.noConfusion
    case h_2 offered manifest hcheck =>
      split_ifs
      · exact .kept rfl FrameType.noConfusion
      · exact .manifest rfl (checkManifest_eq_ok hcheck).2 rfl
  | chunk =>
    dsimp only [handleChunk]
    split
    · exact .kept rfl fun _ => ⟨_, rfl⟩
    · exact .chunk rfl rfl rfl
  | complete => exact .kept (handleComplete_inbound e plaintext) FrameType.noConfusion
  | receipt =>
    refine .kept ?_ FrameType.noConfusion
    dsimp only [handleReceipt]
    split <;> rfl
  | cancel =>
    refine .kept ?_ FrameType.noConfusion
    dsimp only [handleTerminalPayload]
    split
    · rfl
    · exact fail_inbound e _ false
  | error =>
    refine .kept ?_ FrameType.noConfusion
    dsimp only [handleTerminalPayload]
    split
    · rfl
    · exact fail_inbound e _ false

/-! ## Steps -/

/-- What a step does to the message being received. -/
inductive Hears (runtime : Runtime) (event : EngineEvent) (e e' : Engine) : Prop
  /-- The message stays where it is. -/
  | kept (hevent : ∀ result, event ≠ .decrypted result) (hreceiving : e'.receiving = e.receiving)
    (hqueue : e'.queueError = e.queueError) (hhistory : e'.history = e.history)
    (haccepted : e.accepted = true → e'.accepted = true)
  /-- Its processing goes on, but in no handler. -/
  | went (hevent : ∀ result, event ≠ .decrypted result) (hbefore : e.heard = none)
      (hafter : e'.heard = none)
    (hlistens : e'.Listens → e.Listens) (hqueue : e'.queueError = none ∨ e'.receiving = none)
    (hmanifests : e'.history.manifests = e.history.manifests)
    (hchunks : e'.history.chunks = e.history.chunks) (hhistory : e.history.Before e'.history)
    (haccepted : e.accepted = true → e'.accepted = true)
  /-- `receiveFrame` returns or throws. -/
  | decrypted {call : DecryptCall} {result : Option Bytes} (hevent : event = .decrypted result)
    (hreceiving : e.receiving = some (.decrypting call)) (he : e' = goOn (e.openFrame call result))
  /-- The frame is handled. -/
  | handled {header : FrameHeader} {plaintext : Bytes} (hevent : event = .handle)
    (hreceiving : e.receiving = some (.received header plaintext))
    (he : e' = goOn (e.handleFrame runtime header plaintext))

namespace Hears

/-- An operation outside of the receive queue. -/
theorem of_inbound (hevent : ∀ result, event ≠ .decrypted result)
    (hreceiving : e'.receiving = e.receiving)
    (hinbound : e'.inbound = e.inbound) : Hears runtime event e e' := by
  simp only [inbound, Prod.mk.injEq] at hinbound
  obtain ⟨hqueue, hhistory, haccepted⟩ := hinbound
  exact .kept hevent hreceiving hqueue hhistory fun h => haccepted.trans h

/-- The processing of a message goes on and leaves the history alone. -/
theorem of_quiet (hevent : ∀ result, event ≠ .decrypted result) (hbefore : e.heard = none)
    (hafter : e'.heard = none) (hlistens : e'.Listens → e.Listens)
    (hqueue : e'.queueError = none ∨ e'.receiving = none) (hhistory : e'.history = e.history)
    (haccepted : e'.accepted = e.accepted) : Hears runtime event e e' :=
  .went hevent hbefore hafter hlistens hqueue (congrArg _ hhistory) (congrArg _ hhistory)
    (hhistory ▸ .refl _) fun h => haccepted.trans h

end Hears

/-- `receiveFrame` returns a frame or throws. -/
theorem openFrame_cases (e : Engine) (call : DecryptCall) (result : Option Bytes) :
    (e.openFrame call result).1.inbound = e.inbound ∧
      ((∃ error, (e.openFrame call result).2 = some (.threw error)) ∨
        ∃ header plaintext, (e.openFrame call result).2 = some (.received header plaintext)) := by
  unfold openFrame
  split
  · exact ⟨rfl, .inl ⟨_, rfl⟩⟩
  · exact ⟨rfl, .inr ⟨_, _, rfl⟩⟩

/-- A message is being received, so the queue was not rejected. -/
theorem listens_of_receiving {pc : ReceivePc} (hqueue : e.queueError = none ∨ e.receiving = none)
    (hreceiving : e.receiving = some pc) (hpc : ∀ error, pc ≠ .threw error) :
    e.queueError = none ∧ e.Listens := by
  rcases hqueue with hqueue | hnone
  · refine ⟨hqueue, hqueue, fun error herror => hpc error ?_⟩
    exact Option.some.inj (hreceiving.symm.trans herror)
  · rw [hnone] at hreceiving
    cases hreceiving

/-- No manifest and no chunk is taken. -/
structure Decides (e e' : Engine) : Prop where
  queueError : e'.queueError = e.queueError
  history : e.history.Before e'.history
  manifests : e'.history.manifests = e.history.manifests
  chunks : e'.history.chunks = e.history.chunks
  accepted : e.accepted = true → e'.accepted = true

namespace Decides

theorem refl (e : Engine) : Decides e e := ⟨rfl, .refl _, rfl, rfl, id⟩

theorem congr {d : Engine} (h : Decides e d) (hinbound : e'.inbound = d.inbound) :
    Decides e e' := by
  simp only [inbound, Prod.mk.injEq] at hinbound
  obtain ⟨hqueue, hhistory, haccepted⟩ := hinbound
  exact ⟨hqueue.trans h.queueError, hhistory ▸ h.history, hhistory ▸ h.manifests,
    hhistory ▸ h.chunks,
    fun he => haccepted.trans (h.accepted he)⟩

end Decides

theorem decides_accept (e : Engine) : Decides e e.accept.1 := by
  rcases accept_inbound e with h | h
  · exact (Decides.refl e).congr h
  · have haccepted : Decides e { e with accepted := true } := ⟨rfl, .refl _, rfl, rfl, fun _ => rfl⟩
    exact haccepted.congr h

theorem decides_verifiedOffer (e : Engine) (offer : SignedFileOffer) (key : CryptoKey)
    (message signature : Bytes) :
    Decides e (e.verifiedOffer runtime offer key message signature).1 := by
  unfold verifiedOffer
  split_ifs
  · exact .refl e
  · let e₁ : Engine := { e with
      offeredManifest := some offer.manifest
      history := { e.history with
        offers := e.history.offers ++ [Verified.mk offer.core key message signature] } }
    have hoffered : Decides e e₁ :=
      ⟨rfl, ⟨List.prefix_append _ _, List.prefix_rfl, List.prefix_rfl, List.prefix_rfl⟩,
        rfl, rfl, id⟩
    have haccept := decides_accept e₁
    have hboth : Decides e e₁.accept.1 :=
      ⟨haccept.queueError, hoffered.history.trans haccept.history, haccept.manifests,
        haccept.chunks,
        haccept.accepted⟩
    dsimp only
    split_ifs
    · split <;> rename_i hresult <;> rw [hresult] at hboth <;> exact hboth
    · exact hoffered

theorem decides_verifiedComplete (e : Engine) (core : FileComplete) (key : CryptoKey)
    (message signature : Bytes) :
    Decides e (e.verifiedComplete runtime core key message signature).1 := by
  unfold verifiedComplete
  split_ifs
  · exact .refl e
  · let e₁ : Engine := { e with history := { e.history with
      completions := e.history.completions ++ [Verified.mk core key message signature] } }
    have hcompleted : Decides e e₁ :=
      ⟨rfl, ⟨List.prefix_rfl, List.prefix_rfl, List.prefix_rfl, List.prefix_append _ _⟩,
        rfl, rfl, id⟩
    dsimp only
    split
    · exact hcompleted
    · have hsend := fun payload => hcompleted.congr (sendJson_inbound e₁ .receipt payload)
      split <;> rename_i hresult <;> exact (congrArg Prod.fst hresult) ▸ hsend _

theorem resumeHandler_inbound {pc : ReceivePc} {next : Engine × Option ReceivePc}
    (h : e.resumeHandler pc = some next) :
    next.1.inbound = e.inbound ∧ pc.frame = none ∧ ∀ error, pc ≠ .threw error := by
  unfold resumeHandler at h
  dsimp only at h
  split at h
  · obtain ⟨⟨e₁, pc₁⟩, h₁, h₂⟩ := Option.map_eq_some_iff.1 h
    cases h₂
    exact ⟨resumeStart_inbound h₁, rfl, fun _ => ReceivePc.noConfusion⟩
  · cases h
    exact ⟨finishConfirmation_inbound e, rfl, fun _ => ReceivePc.noConfusion⟩
  · cases h
    exact ⟨rfl, rfl, fun _ => ReceivePc.noConfusion⟩
  · rcases afterSend_cases h with ⟨_, h⟩ | ⟨error, _, h⟩ <;> cases h <;>
      exact ⟨rfl, rfl, fun _ => ReceivePc.noConfusion⟩
  · rcases afterSend_cases h with ⟨_, h⟩ | ⟨error, _, h⟩ <;> cases h <;>
      exact ⟨rfl, rfl, fun _ => ReceivePc.noConfusion⟩
  · cases h

/-- The processing of a message goes on. -/
theorem Hears.of_decides {next : Engine × Option ReceivePc} {pc : ReceivePc}
    (hevent : ∀ result, event ≠ .decrypted result)
    (hqueue : e.queueError = none ∨ e.receiving = none)
    (hreceiving : e.receiving = some pc) (hframe : pc.frame = none)
    (hpc : ∀ error, pc ≠ .threw error)
    (hnext : next.2.all ReceivePc.handles = true) (h : Decides e next.1) :
    Hears runtime event e (goOn next) := by
  obtain ⟨hnone, hlistens⟩ := listens_of_receiving hqueue hreceiving hpc
  refine .went hevent ?_ (ReceivePc.frame_of_handles hnext) (fun _ => hlistens)
    (.inl (h.queueError.trans hnone))
    h.manifests h.chunks h.history h.accepted
  rw [heard, hreceiving]
  exact hframe

theorem hears_of_receives (hqueue : e.queueError = none ∨ e.receiving = none)
    (hreceives : event.receives = true) (h : e.step runtime event = some e') :
    Hears runtime event e e' := by
  have hdecides : ∀ {next : Engine × Option ReceivePc} {pc : ReceivePc}, e.receiving = some pc →
      pc.handles = true → (∀ error, pc ≠ .threw error) → next.1.inbound = e.inbound →
      next.2.all ReceivePc.handles = true → Hears runtime .imported e (goOn next) := by
    intro next pc hreceiving hpc hthrew hnext hhandles
    refine .of_decides (fun _ => EngineEvent.noConfusion) hqueue hreceiving ?_ hthrew hhandles
      ((Decides.refl e).congr hnext)
    have hframe : (some pc).all ReceivePc.handles = true := hpc
    exact ReceivePc.frame_of_handles hframe
  cases step_moves h with
  | @dequeueRefused _ queue error =>
    exact .of_inbound (fun _ => EngineEvent.noConfusion)
      (serves_fail { e with queue } error true).receiving (fail_inbound { e with queue } error true)
  | dequeue hidle _ herror =>
    have hheard : e.heard = none := by rw [heard, hidle]; rfl
    refine .of_quiet (fun _ => EngineEvent.noConfusion) hheard rfl ?_ (.inl herror) rfl rfl
    exact fun _ => ⟨herror, fun error h => by rw [hidle] at h; cases h⟩
  | @bytesRead failure data hpc =>
    obtain ⟨hnone, hlistens⟩ := listens_of_receiving hqueue hpc fun _ => ReceivePc.noConfusion
    refine .of_quiet (fun _ => EngineEvent.noConfusion) (by rw [heard, hpc]; rfl) ?_
      (fun _ => hlistens) (.inl hnone) rfl rfl
    show (e.readMessage data failure).frame = none
    unfold readMessage
    split
    · rfl
    · split <;> rfl
  | decrypted hpc => exact .decrypted rfl hpc rfl
  | handle hpc => exact .handled rfl hpc rfl
  | offerKeyRefused hpc | completeKeyRefused hpc =>
    exact hdecides hpc rfl (fun _ => ReceivePc.noConfusion) rfl rfl
  | offerKey hpc =>
    refine hdecides hpc rfl (fun _ => ReceivePc.noConfusion) (verifyOffer_inbound e _ _) ?_
    unfold verifyOffer
    split <;> rfl
  | completeKey hpc =>
    refine hdecides hpc rfl (fun _ => ReceivePc.noConfusion) (verifyComplete_inbound e _ _ _) ?_
    unfold verifyComplete
    split <;> rfl
  | verifiedOffer hpc =>
    exact .of_decides (fun _ => EngineEvent.noConfusion) hqueue hpc rfl
      (fun _ => ReceivePc.noConfusion) (verified_handles h) (decides_verifiedOffer e _ _ _ _)
  | verifiedComplete hpc =>
    exact .of_decides (fun _ => EngineEvent.noConfusion) hqueue hpc rfl
      (fun _ => ReceivePc.noConfusion) (verified_handles h) (decides_verifiedComplete e _ _ _ _)
  | resumeHandler hpc hnext =>
    obtain ⟨hinbound, hframe, hthrew⟩ := resumeHandler_inbound hnext
    exact .of_decides (fun _ => EngineEvent.noConfusion) hqueue hpc hframe hthrew
      (resumeHandler_handles hnext) ((Decides.refl e).congr hinbound)
  | @caught error hpc =>
    have hinbound := fail_inbound e error true
    simp only [inbound, Prod.mk.injEq] at hinbound
    refine .of_quiet (fun _ => EngineEvent.noConfusion) (by rw [heard, hpc]; rfl) rfl ?_
      (.inr rfl) hinbound.2.1 hinbound.2.2
    rintro ⟨hnone, _⟩
    cases hnone
  | _ => cases hreceives

/-- What a step does to the message being received. -/
theorem step_hears (hqueue : e.queueError = none ∨ e.receiving = none)
    (h : e.step runtime event = some e') : Hears runtime event e e' := by
  by_cases hreceives : event.receives = true
  · exact hears_of_receives hqueue hreceives h
  have hreceiving := (step_advances h).receiving (Bool.eq_false_of_not_eq_true hreceives)
  have hevent : ∀ result, event ≠ .decrypted result := by
    rintro result rfl
    exact hreceives rfl
  -- apart from `accept` no event outside of the receive queue decides anything
  have hquiet : e'.inbound = e.inbound → Hears runtime event e e' := .of_inbound hevent hreceiving
  cases step_moves h with
  | acceptSends haccept | acceptReturns haccept =>
    have hdecides := decides_accept e
    have hhistory : e.accept.1.history = e.history := by
      rcases accept_inbound e with h | h <;> exact congrArg (·.2.1) h
    rw [haccept] at hdecides hhistory
    exact .kept hevent hreceiving hdecides.queueError hhistory hdecides.accepted
  | start | reject | sendFile => exact hquiet (start_inbound e)
  | opened => exact hquiet (start_inbound (e.setReadyState .opened))
  | closed => exact hquiet (fail_inbound (e.setReadyState .closed) _ true)
  | errored => exact hquiet (fail_inbound e _ true)
  | rejectLate | sendFileRefused | closeAgain | close | messageLate | message | closing | drained
  | capacityFreed | capacityKept | encrypted | capacity | transmit => exact hquiet rfl
  | resume _ hnext =>
    have hinbound := resumeThread_inbound hnext
    exact hquiet hinbound
  | signed _ hnext =>
    have hinbound := signedSendFile_inbound hnext
    exact hquiet hinbound
  | sliced _ hnext =>
    have hinbound := slicedSendFile_inbound hnext
    exact hquiet hinbound
  | _ => exact absurd rfl hreceives

/-- The history only grows, and an acceptance is not taken back. -/
theorem step_before (hqueue : e.queueError = none ∨ e.receiving = none)
    (h : e.step runtime event = some e') :
    e.history.Before e'.history ∧ (e.accepted = true → e'.accepted = true) := by
  have hinbound : ∀ {d : Engine}, d.inbound = e.inbound →
      e.history.Before d.history ∧ (e.accepted = true → d.accepted = true) := fun hd =>
    have hdecides := (Decides.refl e).congr hd
    ⟨hdecides.history, hdecides.accepted⟩
  cases step_hears hqueue h with
  | kept _ _ _ hhistory haccepted => exact ⟨hhistory ▸ .refl _, haccepted⟩
  | went _ _ _ _ _ _ _ hhistory haccepted => exact ⟨hhistory, haccepted⟩
  | @decrypted call result _ _ he =>
    subst he
    exact hinbound (e.openFrame_cases call result).1
  | @handled header plaintext _ _ he =>
    subst he
    cases handles_handleFrame runtime e header plaintext with
    | kept hsame => exact hinbound hsame
    | manifest _ _ hsame =>
      simp only [inbound, Prod.mk.injEq] at hsame
      refine ⟨?_, fun haccepted => hsame.2.2.trans haccepted⟩
      show e.history.Before (e.handleFrame runtime header plaintext).1.history
      rw [hsame.2.1]
      exact ⟨List.prefix_rfl, List.prefix_append _ _, List.prefix_rfl, List.prefix_rfl⟩
    | chunk _ _ hsame =>
      simp only [inbound, Prod.mk.injEq] at hsame
      refine ⟨?_, fun haccepted => hsame.2.2.trans haccepted⟩
      show e.history.Before (e.handleFrame runtime header plaintext).1.history
      rw [hsame.2.1]
      exact ⟨List.prefix_rfl, List.prefix_rfl, List.prefix_append _ _, List.prefix_rfl⟩

end Engine

/-! ## Sides -/

namespace Side

variable {runtime : Runtime} {s t : Side} {event : EngineEvent}

/-- Only the outcome of `decrypt` adds to what was received. -/
theorem received_quiet (h : s.step runtime event = some t)
    (hevent : ∀ result, event ≠ .decrypted result) :
    t.received = s.received := by
  obtain ⟨e, _, rfl⟩ := Option.map_eq_some_iff.1 h
  have hreturned : e.returned event = [] := by
    unfold Engine.returned
    split
    · exact absurd rfl (hevent _)
    · rfl
  rw [hreturned, List.append_nil]

/-- What the history holds was received. -/
structure Heard (runtime : Runtime) (s : Side) : Prop where
  heard : ∀ f ∈ s.engine.heard, f ∈ s.received
  queue : s.engine.queueError = none ∨ s.engine.receiving = none
  /-- As long as the engine listens, it has handled every chunk but the one that
  waits for its handler. -/
  chunks : s.engine.Listens →
    s.engine.history.chunks ++ chunksOf s.engine.heard.toList = chunksOf s.received
  chunks_prefix : s.engine.history.chunks <+: chunksOf s.received
  manifests : ∀ manifest ∈ s.engine.history.manifests, ∃ body, (.manifest, body) ∈ s.received ∧
    parseManifest runtime.unicode body = .ok manifest

namespace Heard

/-- A frame is handled. -/
theorem handled (h : s.Heard runtime) {header : FrameHeader} {plaintext : Bytes}
    (hreceiving : s.engine.receiving = some (.received header plaintext))
    (hreceived : t.received = s.received)
    (he : t.engine = Engine.goOn (s.engine.handleFrame runtime header plaintext)) :
    t.Heard runtime := by
  have hheard : s.engine.heard = some (header.type, plaintext) := by
    rw [Engine.heard, hreceiving]; rfl
  have hmem : (header.type, plaintext) ∈ s.received := h.heard _ hheard
  obtain ⟨hnone, hlistens⟩ := Engine.listens_of_receiving h.queue hreceiving fun _ =>
    ReceivePc.noConfusion
  have hall := h.chunks hlistens
  rw [hheard, Option.toList_some] at hall
  have hafter : t.engine.heard = none := by
    rw [Engine.heard, he]
    exact ReceivePc.frame_of_handles (Engine.handleFrame_handles s.engine runtime header plaintext)
  have hinbound : t.engine.inbound = (s.engine.handleFrame runtime header plaintext).1.inbound := by
    rw [he]; rfl
  have hnext : t.engine.receiving = (s.engine.handleFrame runtime header plaintext).2 := by
    rw [he]; rfl
  cases Engine.handles_handleFrame runtime s.engine header plaintext with
  | kept hsame hchunk =>
    rw [hsame] at hinbound
    simp only [Engine.inbound, Prod.mk.injEq] at hinbound
    obtain ⟨hqueue, hhistory, _⟩ := hinbound
    refine ⟨by simp [hafter], .inl (hqueue.trans hnone), fun hlistens' => ?_, ?_, ?_⟩
    · by_cases htype : header.type = .chunk
      · obtain ⟨error, hthrew⟩ := hchunk htype
        exact absurd (hnext.trans hthrew) (hlistens'.2 error)
      · rw [hafter, hhistory, hreceived, ← hall]
        simp [chunksOf, htype]
    · rw [hhistory, hreceived]
      exact h.chunks_prefix
    · rw [hhistory, hreceived]
      exact h.manifests
  | @manifest manifest htype hparse hsame =>
    rw [hsame] at hinbound
    simp only [Engine.inbound, Prod.mk.injEq] at hinbound
    obtain ⟨hqueue, hhistory, _⟩ := hinbound
    refine ⟨by simp [hafter], .inl (hqueue.trans hnone), fun _ => ?_, ?_, ?_⟩
    · rw [hafter, hhistory, hreceived, ← hall]
      simp [chunksOf, htype]
    · rw [hhistory, hreceived]
      exact h.chunks_prefix
    · rw [hhistory, hreceived]
      refine List.forall_mem_append.2
        ⟨h.manifests, List.forall_mem_singleton.2 ⟨plaintext, ?_, hparse⟩⟩
      rwa [htype] at hmem
  | chunk htype _ hsame =>
    rw [hsame] at hinbound
    simp only [Engine.inbound, Prod.mk.injEq] at hinbound
    obtain ⟨hqueue, hhistory, _⟩ := hinbound
    have hchunks : t.engine.history.chunks = chunksOf t.received := by
      rw [hhistory, hreceived, ← hall]
      simp [chunksOf, htype]
    refine ⟨by simp [hafter], .inl (hqueue.trans hnone), fun _ => ?_, ?_, ?_⟩
    · simp [hafter, hchunks, chunksOf]
    · rw [hchunks]
    · rw [hhistory, hreceived]
      exact h.manifests

theorem step (h : s.Heard runtime) (hstep : s.step runtime event = some t) : t.Heard runtime := by
  cases Engine.step_hears h.queue (step_engine hstep) with
  | kept hevent hreceiving hqueue hhistory =>
    have hreceived := received_quiet hstep hevent
    have hheard : t.engine.heard = s.engine.heard := by rw [Engine.heard, hreceiving, Engine.heard]
    have hlistens : t.engine.Listens → s.engine.Listens := by
      unfold Engine.Listens
      rw [hqueue, hreceiving]
      exact id
    refine ⟨?_, ?_, fun hl => ?_, ?_, ?_⟩
    · rw [hheard, hreceived]
      exact h.heard
    · rw [hqueue, hreceiving]
      exact h.queue
    · rw [hheard, hhistory, hreceived]
      exact h.chunks (hlistens hl)
    · rw [hhistory, hreceived]
      exact h.chunks_prefix
    · rw [hhistory, hreceived]
      exact h.manifests
  | went hevent hbefore hafter hlistens hqueue hmanifests hchunks =>
    have hreceived := received_quiet hstep hevent
    refine ⟨by simp [hafter], hqueue, fun hl => ?_, ?_, ?_⟩
    · have hall := h.chunks (hlistens hl)
      rw [hbefore] at hall
      rw [hafter, hchunks, hreceived, hall]
    · rw [hchunks, hreceived]
      exact h.chunks_prefix
    · rw [hmanifests, hreceived]
      exact h.manifests
  | @decrypted call result hevent hreceiving he =>
    subst hevent
    obtain ⟨hnone, hlistens⟩ := Engine.listens_of_receiving h.queue hreceiving fun _ =>
      ReceivePc.noConfusion
    have hall := h.chunks hlistens
    have hbefore : s.engine.heard = none := by rw [Engine.heard, hreceiving]; rfl
    rw [hbefore, Option.toList_none] at hall
    have hreceived : t.received = s.received ++ t.engine.returned (.decrypted result) := by
      obtain ⟨e, _, rfl⟩ := Option.map_eq_some_iff.1 hstep
      rfl
    obtain ⟨hinbound, hcases⟩ := s.engine.openFrame_cases call result
    have hafter : t.engine.inbound = s.engine.inbound := by rw [he]; exact hinbound
    have hnext : t.engine.receiving = (s.engine.openFrame call result).2 := by rw [he]; rfl
    simp only [Engine.inbound, Prod.mk.injEq] at hafter
    obtain ⟨hqueue, hhistory, _⟩ := hafter
    rcases hcases with ⟨error, hresult⟩ | ⟨header, plaintext, hresult⟩ <;> rw [hresult] at hnext
    · have hreturned : t.received = s.received := by simp [hreceived, Engine.returned, hnext]
      have hafter : t.engine.heard = none := by rw [Engine.heard, hnext]; rfl
      refine ⟨by simp [hafter], .inl (hqueue.trans hnone), fun hl => absurd hnext (hl.2 _), ?_, ?_⟩
      · rw [hhistory, hreturned]
        exact h.chunks_prefix
      · rw [hhistory, hreturned]
        exact h.manifests
    · have hreturned : t.received = s.received ++ [(header.type, plaintext)] := by
        simp [hreceived, Engine.returned, hnext]
      have hafter : t.engine.heard = some (header.type, plaintext) := by
        rw [Engine.heard, hnext]; rfl
      refine ⟨by simp [hafter, hreturned], .inl (hqueue.trans hnone), fun _ => ?_, ?_, ?_⟩
      · rw [hafter, hhistory, hreturned, chunksOf_append, ← hall]
        simp [chunksOf]
      · rw [hhistory, hreturned, chunksOf_append]
        exact h.chunks_prefix.trans (List.prefix_append _ _)
      · rw [hhistory, hreturned]
        intro manifest hmanifest
        obtain ⟨body, hbody, hparse⟩ := h.manifests manifest hmanifest
        exact ⟨body, List.mem_append_left _ hbody, hparse⟩
  | handled hevent hreceiving he =>
    exact h.handled hreceiving
      (received_quiet hstep fun result hr => by rw [hevent] at hr; cases hr) he

theorem of_construct {o : ConstructorOptions} {registry : InboundTransferRegistry}
    {readyState : ReadyState}
    {e : Engine} (h : Engine.construct o registry readyState = .ok e) : (of e).Heard runtime := by
  have hnew : ∀ e : Engine, e.receiving = none → e.inbound.1 = none →
    e.inbound.2.1 = ⟨[], [], [], []⟩ →
      (of e).Heard runtime := by
    intro e hreceiving hqueue hhistory
    have hheard : (of e).engine.heard = none := by
      show e.receiving.bind ReceivePc.frame = none
      rw [hreceiving]
      rfl
    have hhistory : (of e).engine.history = ⟨[], [], [], []⟩ := hhistory
    refine ⟨by simp [hheard], .inr hreceiving, fun _ => ?_, ?_, ?_⟩
    · rw [hheard, hhistory]
      rfl
    · rw [hhistory]
      exact List.nil_prefix
    · rw [hhistory]
      exact List.forall_mem_nil _
  obtain ⟨options, stream, registry', _, _, hcases⟩ := Engine.construct_cases h
  rcases hcases with ⟨_, rfl⟩ | ⟨_, rfl⟩
  · exact hnew _ rfl rfl rfl
  · let e₀ := Engine.initial options o.accepted stream registry' readyState
    have hinbound : e₀.onOpen.inbound = e₀.inbound := Engine.start_inbound e₀
    refine hnew _ ((Engine.serves_start e₀).receiving : e₀.onOpen.receiving = none) ?_ ?_
    · rw [hinbound]
      rfl
    · rw [hinbound]
      rfl

end Heard

/-! ## Answers -/

/-- What was encrypted answers what was heard. -/
structure Answers (runtime : Runtime) (s : Side) : Prop where
  acceptances : ∀ body, (.accept, body) ∈ s.sealed → s.engine.accepted = true
  /-- A file was vouched for when a receipt was encrypted. -/
  receipts : ∀ body, (.receipt, body) ∈ s.sealed → ∃ file h, h.Before s.engine.history ∧
    Engine.Vouched runtime s.engine.options h file ∧ canonicalJsonBytes (TransferReceipt.mk
      s.engine.options.transferId file.byteCount file.sha256).json = .ok body

namespace Answers

/-- A frame that is no answer is encrypted, or one with its reasons. -/
theorem extend (h : s.Answers runtime) (hoptions : t.engine.options = s.engine.options)
    (hhistory : s.engine.history.Before t.engine.history)
    (haccepted : s.engine.accepted = true → t.engine.accepted = true) {l : List (FrameType × Bytes)}
    (hsealed : t.sealed = s.sealed ++ l) (hreceiving : Engine.ReceivingInvariant runtime t.engine)
    (hl : ∀ f ∈ l, f.1.carries = true ∨ t.engine.Origin f.1 f.2) : t.Answers runtime := by
  refine ⟨fun body hbody => ?_, fun body hbody => ?_⟩ <;> rw [hsealed] at hbody <;>
    rcases List.mem_append.1 hbody with hbefore | hnew
  · exact haccepted (h.acceptances body hbefore)
  · rcases hl _ hnew with hcarries | horigin
    · cases hcarries
    · cases horigin with
      | acceptance _ haccepted => exact haccepted
      | terminal htype => rcases htype with htype | htype <;> cases htype
  · obtain ⟨file, history, hearlier, hvouched, hjson⟩ := h.receipts body hbefore
    rw [hoptions]
    exact ⟨file, history, hearlier.trans hhistory, hvouched, hjson⟩
  · rcases hl _ hnew with hcarries | horigin
    · cases hcarries
    · cases horigin with
      | @receipt file send _ hsending hjson =>
        have hprocessing := hreceiving.processing
        rw [hsending] at hprocessing
        exact ⟨file, _, .refl _, hprocessing.2, hjson⟩
      | terminal htype => rcases htype with htype | htype <;> cases htype

theorem step (h : s.Answers runtime) (hheard : s.Heard runtime) (hterminal : s.engine.TerminalTypes)
    (hreceiving : Engine.ReceivingInvariant runtime s.engine)
    (hstep : s.step runtime event = some t) :
    t.Answers runtime := by
  have hengine := step_engine hstep
  have hoptions := (Engine.step_advances hengine).options
  obtain ⟨hhistory, haccepted⟩ := Engine.step_before hheard.queue hengine
  have hafter := Engine.receivingInvariant_step hreceiving hengine
  have hpassed : ∀ frame, Engine.Passes s.engine t.engine frame →
      (∀ f ∈ frame, f.1.carries = true ∨ t.engine.Origin f.1 f.2) → t.Answers runtime := by
    intro frame hpasses hframe
    rcases sealed_passes (step_encryptions hstep) hpasses with ⟨hsame, _⟩ | ⟨f, rfl, hsealed⟩
    · exact h.extend hoptions hhistory haccepted (by rw [hsame, List.append_nil]) hafter
        (List.forall_mem_nil _)
    · exact h.extend hoptions hhistory haccepted hsealed hafter
        (List.forall_mem_singleton.2 (hframe f rfl))
  cases Engine.step_courseStep hterminal hengine with
  | apart _ hpasses | called _ _ _ hpasses =>
    obtain ⟨frame, hpasses, horigin⟩ := hpasses
    exact hpassed frame hpasses fun f hf => .inr (horigin f hf)
  | went _ _ hcourses =>
    obtain ⟨frame, hcourse, hpasses⟩ := hcourses
    exact hpassed frame hpasses fun f hf => .inl (hcourse.carries f hf).1
  | moved _ _ hlength =>
    refine h.extend hoptions hhistory haccepted (l := []) ?_ hafter (List.forall_mem_nil _)
    rw [sealed, step_encryptions hstep, Engine.newCalls_of_length hlength, List.append_nil,
      List.append_nil]
    rfl

theorem of_construct {o : ConstructorOptions} {registry : InboundTransferRegistry}
    {readyState : ReadyState}
    {e : Engine} (h : Engine.construct o registry readyState = .ok e) : (of e).Answers runtime := by
  have hconfirm := sealed_of h
  constructor
  · intro body hbody
    cases hconfirm _ hbody
  · intro body hbody
    cases hconfirm _ hbody

end Answers

end Side

end SelfRelay
