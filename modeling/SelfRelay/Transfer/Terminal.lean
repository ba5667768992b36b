import SelfRelay.Transfer.Effects

/-!
# Terminal states

`handleMessage` asks whether the transfer is over when a message is enqueued, and
`sendTerminalFrame` when it is called.  Both go on later, after awaits, and then set the state
without asking again. `lateState` is the state that an event sets in this way; a transfer that is
over stays so in every run without such an event (`stateValue_step_of_terminal`).
-/

namespace SelfRelay

open StepSystem

namespace Engine

variable {runtime : Runtime} {e e' : Engine} {event : EngineEvent} {es : List EngineEvent}

/-! ## Writes that ask nobody -/

/-- `handleManifest` takes the manifest. -/
def acceptsManifest (runtime : Runtime) (e : Engine) (value : Bytes) : Bool :=
  match e.checkManifest runtime value with
  | .ok (offered, manifest) =>
    manifest.fileName = offered.fileName ∧ manifest.mediaType = offered.mediaType ∧
      manifest.byteCount = offered.byteCount
  | .error _ => false

/-- `sendTerminalFrame` goes to its `finally` block. -/
def endsTerminal (e : Engine) (type : FrameType) (code : JsString) : TerminalPc → Bool
  | .starting (.confirming _ _) | .returned => false
  | .starting (.returned (.error _)) => true
  | .starting (.returned (.ok ())) => !e.stream.isConfirmed ||
    (canonicalJsonBytes (terminalJson (js (terminalName type)) code)).toOption.isNone
  | .sending send => (e.sendResult send).isSome

/-- The state that the event sets whatever the state is. -/
def lateState (runtime : Runtime) (e : Engine) : EngineEvent → Option FileTransferState
  | .handle =>
    match e.receiving with
    | some (.received header plaintext) =>
      if header.type = .manifest ∧ e.acceptsManifest runtime plaintext then some .receiving
      else if header.type = .receipt ∧ (e.checkReceipt plaintext).toOption.isSome then
        some .completed
      else none
    | _ => none
  | .resumeHandler =>
    match e.receiving with
    | some (.sendingReceipt _ send) =>
      if e.sendResult send = some (.ok ()) then some .completed else none
    | _ => none
  | .resume thread =>
    match e.threads[thread]? with
    | some (.terminating type code state pc) =>
      if e.endsTerminal type code pc then some state else none
    | _ => none
  | _ => none

/-- The transfer is over, and the event sets another state. -/
def LateWrite (runtime : Runtime) (e : Engine) (event : EngineEvent) : Prop :=
  e.isTerminal = true ∧ ∃ state ∈ e.lateState runtime event, state ≠ e.stateValue

instance : Decidable (LateWrite runtime e event) := inferInstanceAs (Decidable (_ ∧ _))

/-! ## What the operations do to the state of an engine that is over -/

section Handlers

variable (hover : e.isTerminal = true)

include hover

theorem stateValue_ne_of_terminal : e.stateValue ≠ .confirming ∧ e.stateValue ≠ .ready := by
  constructor <;> intro h <;> simp [isTerminal, h, FileTransferState.isTerminal] at hover

theorem finishConfirmation_stateValue : e.finishConfirmation.stateValue = e.stateValue := by
  unfold finishConfirmation
  split
  · exact if_neg (stateValue_ne_of_terminal hover).1
  · rfl

theorem handleConfirmation_stateValue : e.handleConfirmation.1.stateValue = e.stateValue := by
  unfold handleConfirmation
  split
  · exact finishConfirmation_stateValue hover
  · exact (serves_sendConfirmation e).ended hover

theorem handleAccept_stateValue (value : Bytes) :
    (e.handleAccept value).1.stateValue = e.stateValue := by
  unfold handleAccept
  split
  · rfl
  · apply if_neg
    rintro (h | h)
    · exact (stateValue_ne_of_terminal hover).1 h
    · exact (stateValue_ne_of_terminal hover).2 h

theorem handleTerminalPayload_stateValue (value : Bytes) (type : FrameType) :
    (e.handleTerminalPayload value type).1.stateValue = e.stateValue := by
  unfold handleTerminalPayload
  split
  · rfl
  · exact (serves_fail e _ false).ended hover

theorem verifiedOffer_stateValue (runtime : Runtime) (offer : SignedFileOffer) (key : CryptoKey)
    (message signature : Bytes) :
    (e.verifiedOffer runtime offer key message signature).1.stateValue = e.stateValue := by
  unfold verifiedOffer
  split_ifs
  · rfl
  · dsimp only
    split_ifs
    · have h := (serves_accept { e with
        offeredManifest := some offer.manifest
        history := { e.history with
          offers := e.history.offers ++ [Verified.mk offer.core key message signature] }
            }).ended hover
      split <;> rename_i haccept <;> rw [haccept] at h <;> exact h
    · rfl

theorem verifiedComplete_stateValue (runtime : Runtime) (core : FileComplete) (key : CryptoKey)
    (message signature : Bytes) :
    (e.verifiedComplete runtime core key message signature).1.stateValue = e.stateValue := by
  unfold verifiedComplete
  split_ifs
  · rfl
  · dsimp only
    split
    · rfl
    · have h := (serves_sendJson { e with history := { e.history with
        completions := e.history.completions ++ [Verified.mk core key message signature] } }
        .receipt (mayPost_of_ne _ .receipt (by decide))
        (TransferReceipt.mk e.options.transferId e.receivedBytes core.sha256).json).ended hover
      split <;> rename_i hsend <;> rw [hsend] at h <;> exact h

end Handlers

theorem verifyOffer_fst (e : Engine) (offer : SignedFileOffer) (key : CryptoKey) :
    (e.verifyOffer offer key).1 = e := by
  unfold verifyOffer
  split <;> rfl

theorem verifyComplete_fst (e : Engine) (core : FileComplete) (signature : Bytes)
    (key : CryptoKey) : (e.verifyComplete core signature key).1 = e := by
  unfold verifyComplete
  split <;> rfl

theorem handleFileOffer_fst (e : Engine) (runtime : Runtime) (value : Bytes) :
    (e.handleFileOffer runtime value).1 = e := by
  unfold handleFileOffer
  split
  · rfl
  · split
    · exact verifyOffer_fst e _ _
    · rfl

theorem compareDigest_fst (e : Engine) (core : FileComplete) (signature output : Bytes) :
    (e.compareDigest core signature output).1 = e := by
  unfold compareDigest
  split
  · rfl
  · split_ifs
    · rfl
    · split
      · exact verifyComplete_fst e _ _ _
      · rfl

theorem handleComplete_stateValue (e : Engine) (value : Bytes) :
    (e.handleComplete value).1.stateValue = e.stateValue := by
  unfold handleComplete
  split
  · rfl
  · split
    · rfl
    · rw [compareDigest_fst]

theorem handleChunk_stateValue (e : Engine) (value : Bytes) :
    (e.handleChunk value).1.stateValue = e.stateValue := by
  unfold handleChunk
  split <;> rfl

/-- `handleManifest` sets the state exactly when it takes the manifest. -/
theorem handleManifest_stateValue (e : Engine) (runtime : Runtime) (value : Bytes) :
    (e.handleManifest runtime value).1.stateValue =
      if e.acceptsManifest runtime value then .receiving else e.stateValue := by
  unfold handleManifest acceptsManifest
  split <;> rename_i hcheck <;> rw [hcheck]
  · rfl
  · dsimp only
    split_ifs <;> simp_all [throwing, setState]

theorem handleReceipt_stateValue (e : Engine) (value : Bytes) :
    (e.handleReceipt value).1.stateValue =
      if (e.checkReceipt value).toOption.isSome then .completed else e.stateValue := by
  unfold handleReceipt
  split <;> rename_i hcheck <;> rw [hcheck] <;> rfl

/-- What the handler of a frame does to the state of an engine that is over. -/
theorem handleFrame_stateValue {header : FrameHeader} {plaintext : Bytes}
    (hover : e.isTerminal = true) (hreceiving : e.receiving = some (.received header plaintext)) :
    (e.handleFrame runtime header plaintext).1.stateValue =
      (e.lateState runtime .handle).getD e.stateValue := by
  simp only [lateState, hreceiving]
  cases htype : header.type with
  | manifest =>
    simp only [handleFrame, htype, handleManifest_stateValue]
    split_ifs <;> simp_all
  | receipt =>
    simp only [handleFrame, htype, handleReceipt_stateValue]
    split_ifs <;> simp_all
  | confirm => simp [handleFrame, htype, handleConfirmation_stateValue hover]
  | fileOffer => simp [handleFrame, htype, handleFileOffer_fst]
  | accept => simp [handleFrame, htype, handleAccept_stateValue hover]
  | chunk => simp [handleFrame, htype, handleChunk_stateValue]
  | complete => simp [handleFrame, htype, handleComplete_stateValue]
  | cancel | error => simp [handleFrame, htype, handleTerminalPayload_stateValue hover]

theorem resumeHandler_stateValue {pc : ReceivePc} {r : Engine × Option ReceivePc}
    (hover : e.isTerminal = true) (hreceiving : e.receiving = some pc)
    (h : e.resumeHandler pc = some r) :
    r.1.stateValue = (e.lateState runtime .resumeHandler).getD e.stateValue := by
  simp only [lateState, hreceiving]
  unfold resumeHandler at h
  dsimp only at h
  split at h
  · obtain ⟨⟨e₁, pc₁⟩, h₁, h₂⟩ := Option.map_eq_some_iff.1 h
    cases h₂
    exact (serves_resumeStart h₁).ended hover
  · cases h
    exact finishConfirmation_stateValue hover
  · cases h
    rfl
  · rcases afterSend_cases h with ⟨_, h⟩ | ⟨error, _, h⟩ <;> cases h <;> rfl
  · rcases afterSend_cases h with ⟨hok, h⟩ | ⟨error, herror, h⟩ <;> cases h
    · simp [hok, cleanupReceiverChunksOnly, setState]
    · simp [herror]
  · cases h

theorem resumeTerminal_stateValue {type : FrameType} {code : JsString} {state : FileTransferState}
    {pc pc' : TerminalPc} (hover : e.isTerminal = true)
    (h : e.resumeTerminal type code state pc = some (e', pc')) :
    e'.stateValue = if e.endsTerminal type code pc then state else e.stateValue := by
  cases pc with
  | starting pc =>
    rcases pc with ⟨send, owner⟩ | (error | ⟨⟨⟩⟩)
    · obtain ⟨⟨e₁, pc₁⟩, h₁, h₂⟩ := Option.map_eq_some_iff.1 h
      cases h₂
      exact (serves_resumeStart h₁).ended hover
    · cases h
      rfl
    · simp only [resumeTerminal, sendJson] at h
      split_ifs at h with hconfirmed
      · split at h <;> rename_i hsend <;> cases h <;> split at hsend <;> rename_i hjson <;>
          cases hsend
        · simp [endsTerminal, hjson, Except.toOption, finishTerminal, rejectPending, setState]
        · simp [endsTerminal, hjson, Except.toOption, hconfirmed, sendFrame]
      · cases h
        simp [endsTerminal, hconfirmed, finishTerminal, rejectPending, setState]
  | sending send =>
    obtain ⟨result, hresult, h₂⟩ := Option.map_eq_some_iff.1 h
    cases h₂
    simp [endsTerminal, hresult, finishTerminal, rejectPending, setState]
  | returned => cases h

theorem resumeThread_stateValue (runtime : Runtime) {unicode : Unicode} {i : ℕ}
    {thread thread' : Thread}
    (hover : e.isTerminal = true) (hthread : e.threads[i]? = some thread)
    (h : e.resumeThread unicode thread = some (e', thread')) :
    e'.stateValue = (e.lateState runtime (.resume i)).getD e.stateValue := by
  simp only [lateState, hthread]
  unfold resumeThread at h
  split at h
  case h_1 | h_4 =>
    obtain ⟨⟨e₁, pc₁⟩, h₁, h₂⟩ := Option.map_eq_some_iff.1 h
    cases h₂
    exact (serves_resumeStart h₁).ended hover
  case h_2 | h_5 =>
    cases h
    rfl
  case h_3 =>
    cases h
    exact (serves_fail e _ true).ended hover
  case h_6 =>
    rcases afterSend_cases h with ⟨_, h⟩ | ⟨error, _, h⟩ <;> cases h <;> rfl
  case h_7 =>
    obtain ⟨⟨e₁, pc₁⟩, h₁, h₂⟩ := Option.map_eq_some_iff.1 h
    cases h₂
    rw [resumeTerminal_stateValue hover h₁]
    dsimp only
    split_ifs <;> rfl
  case h_8 =>
    obtain ⟨⟨e₁, pc₁⟩, h₁, h₂⟩ := Option.map_eq_some_iff.1 h
    cases h₂
    exact (serves_resumeSendFile h₁).ended hover
  case h_9 => cases h

/-! ## Runs -/

theorem goOn_stateValue (r : Engine × Option ReceivePc) : (goOn r).stateValue = r.1.stateValue :=
  rfl

/-- The state after a step of an engine that is over: `close` closes, a late write writes, and
nothing else changes it. -/
theorem stateValue_step_of_terminal (hover : e.isTerminal = true)
    (h : e.step runtime event = some e') :
    e'.stateValue = if event = .close then .closed
      else (e.lateState runtime event).getD e.stateValue := by
  cases step_moves h with
  | closeAgain hclosed => exact hclosed
  | close => rfl
  | resume hthread hnext =>
    have hstate := resumeThread_stateValue runtime hover hthread hnext
    exact hstate
  | handle hpc => exact handleFrame_stateValue hover hpc
  | resumeHandler hpc hnext => exact resumeHandler_stateValue hover hpc hnext
  | start | sendFile => exact (serves_start e).ended hover
  | acceptSends haccept | acceptReturns haccept =>
    have hstate := (serves_accept e).ended hover
    rw [haccept] at hstate
    exact hstate
  | reject hlive => exact absurd hover hlive
  | opened => exact (serves_start (e.setReadyState .opened)).ended hover
  | closed => exact (serves_fail (e.setReadyState .closed) _ true).ended hover
  | errored | caught => exact (serves_fail e _ true).ended hover
  | signed _ hnext => exact (serves_signedSendFile hnext).ended hover
  | sliced _ hnext => exact (serves_slicedSendFile hnext).ended hover
  | @dequeueRefused _ queue => exact (serves_fail { e with queue } _ true).ended hover
  | decrypted =>
    rw [goOn_stateValue]
    unfold openFrame
    split <;> rfl
  | offerKey =>
    rw [goOn_stateValue, verifyOffer_fst]
    rfl
  | completeKey =>
    rw [goOn_stateValue, verifyComplete_fst]
    rfl
  | verifiedOffer => exact verifiedOffer_stateValue hover runtime _ _ _ _
  | verifiedComplete => exact verifiedComplete_stateValue hover runtime _ _ _ _
  | rejectLate | sendFileRefused | messageLate | message | closing | drained | capacityFreed
  | capacityKept | encrypted | capacity | transmit | dequeue | bytesRead | offerKeyRefused
  | completeKeyRefused => rfl

/-- The state stays, or `close` moves it to `closed`. -/
def Kept (event : EngineEvent) (e e' : Engine) : Prop :=
  e'.stateValue = e.stateValue ∨ event = .close ∧ e'.stateValue = .closed

theorem kept_iff_not_lateWrite (hover : e.isTerminal = true) (h : e.step runtime event = some e') :
    Kept event e e' ↔ ¬ LateWrite runtime e event := by
  have hstate := stateValue_step_of_terminal hover h
  unfold Kept LateWrite
  by_cases hclose : event = .close
  · rw [if_pos hclose] at hstate
    subst hclose
    simp [hstate, lateState]
  · rw [if_neg hclose] at hstate
    cases hlate : e.lateState runtime event with
    | none => simp [hstate, hlate]
    | some state => simp [hstate, hlate, hclose, hover]

theorem Kept.isTerminal (h : Kept event e e') (hover : e.isTerminal = true) :
    e'.isTerminal = true := by
  rcases h with h | ⟨_, h⟩
  · unfold Engine.isTerminal
    rwa [h]
  · unfold Engine.isTerminal
    rw [h]
    rfl

/-- A transfer that is over stays over, in the same state unless it is closed, in every run without
a late write; and a late write is exactly a step that breaks this. -/
theorem terminal_kept_iff_no_late_write (hover : e.isTerminal = true) :
    (∀ es e', Run (fun a event b => Step (step runtime) a event b ∧ ¬ LateWrite runtime a event)
      e es e' → e'.isTerminal = true ∧
        (e'.stateValue = e.stateValue ∨ .close ∈ es ∧ e'.stateValue = .closed)) ∧
    ∀ event e', e.step runtime event = some e' →
    (Kept event e e' ↔ ¬ LateWrite runtime e event) := by
  constructor
  · intro es e' hrun
    induction hrun with
    | nil e => exact ⟨hover, .inl rfl⟩
    | @cons e e₁ e' event es hstep _ ih =>
      have hkept := (kept_iff_not_lateWrite hover hstep.1).2 hstep.2
      obtain ⟨hover', hstate⟩ := ih (hkept.isTerminal hover)
      refine ⟨hover', ?_⟩
      rcases hstate with hsame | ⟨hmem, hclosed⟩
      · rcases hkept with hsame' | ⟨rfl, hclosed⟩
        · exact .inl (hsame.trans hsame')
        · exact .inr ⟨List.mem_cons_self, hsame.trans hclosed⟩
      · exact .inr ⟨List.mem_cons_of_mem _ hmem, hclosed⟩
  · intro event e' hstep
    exact kept_iff_not_lateWrite hover hstep

/-! ## A manifest after the cancellation -/

/-- `reject` is called, the manifest arrives, and the cancellation is sent while the manifest is
being decrypted. -/
def sampleCancel : List EngineEvent :=
  [.reject (js "rejected"), .resume 1, .resume 1] ++
  (sampleReceive .s2r .manifest 2 (samplePayload sampleManifest.json)).take 3 ++
  [.drained 0, sampleEncrypted 2 41, .capacity 2, .transmit 2, .resume 1]

/-- The manifest is decrypted and handled. -/
def sampleLateManifest : List EngineEvent :=
  [.decrypted (some (samplePayload sampleManifest.json)), .handle]

theorem terminal_kept_sample :
    ∃ e₀ e e', construct (sampleOptions .recipient) ⟨[]⟩ .opened = .ok e₀ ∧
      Run (Step (step sampleRuntime)) e₀ (sampleConfirm .s2r ++ sampleOffer ++ sampleCancel) e ∧
      e.stateValue = .cancelled ∧
      Run (fun a event b => Step (step sampleRuntime) a event b ∧ ¬ LateWrite sampleRuntime a event)
        e [.start, .close] e' ∧
      e'.isTerminal = true ∧
      (e'.stateValue = e.stateValue ∨
        .close ∈ [EngineEvent.start, .close] ∧ e'.stateValue = .closed) := by
  have h : Reaches (step sampleRuntime) (sampleOptions .recipient) .opened
      (sampleConfirm .s2r ++ sampleOffer ++ sampleCancel) fun e => e.stateValue = .cancelled ∧
        (exec (fun a event => if ¬ LateWrite sampleRuntime a event then step sampleRuntime a event
          else none) e [.start, .close]).isSome = true := by
    decide +kernel
  obtain ⟨e₀, e, he₀, hexec, hstate, hsome⟩ := h.exec
  obtain ⟨e', he'⟩ := Option.isSome_iff_exists.1 hsome
  have hrun := Run.of_exec_guarded he'
  have hover : e.isTerminal = true := by
    unfold isTerminal
    rw [hstate]
    rfl
  exact ⟨e₀, e, e', he₀, .of_exec hexec, hstate, hrun,
    (terminal_kept_iff_no_late_write hover).1 _ e' hrun⟩

/-- The manifest moves a cancelled transfer to `receiving`. -/
theorem late_manifest_receiving :
    ∃ e₀ e e', construct (sampleOptions .recipient) ⟨[]⟩ .opened = .ok e₀ ∧
      Run (Step (step sampleRuntime)) e₀ (sampleConfirm .s2r ++ sampleOffer ++ sampleCancel) e ∧
      e.stateValue = .cancelled ∧
      Run (Step (step sampleRuntime)) e sampleLateManifest e' ∧ e'.stateValue = .receiving := by
  have h : Reaches (step sampleRuntime) (sampleOptions .recipient) .opened
      (sampleConfirm .s2r ++ sampleOffer ++ sampleCancel) fun e => e.stateValue = .cancelled ∧
        ∃ e' ∈ exec (step sampleRuntime) e sampleLateManifest, e'.stateValue = .receiving := by
    decide +kernel
  obtain ⟨e₀, e, he₀, hexec, hstate, e', he', hstate'⟩ := h.exec
  exact ⟨e₀, e, e', he₀, .of_exec hexec, hstate, .of_exec he', hstate'⟩

end Engine

end SelfRelay
