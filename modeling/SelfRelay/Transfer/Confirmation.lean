import SelfRelay.Transfer.Outbox
import SelfRelay.Transfer.Settlement

/-!
# The confirmation of the peer

The calls that wait for the confirmation are woken by `handleConfirmation` only, and only when the
own confirmation is recorded as sent at that moment.  It is recorded once it is encrypted, so the
wake-up is lost when the confirmation of the peer is handled while the own one is in `encrypt`
(`confirmsEarly`).  In every other run a confirmed engine that processes no message has left
`confirming`, and no call waits.
-/

namespace SelfRelay

open StepSystem

/-- The status of a call of `sendFrame` before the own confirmation is recorded: the confirmation
itself, or a failure. -/
def SendStatus.unsent : SendStatus → Bool
  | encrypting call => call.header.type = .confirm
  | settled (.error _) => true
  | created .. | waiting .. | passed .. | refused .. | settled (.ok ()) => false

/-- Such a call only goes on by the outcome of `encrypt`. -/
theorem SendStatus.Shifts.eq_of_unsent {s t : SendStatus} (h : s.Shifts t) (hs : s.unsent = true) :
    t = s := by
  rcases h with h | ⟨hframe | ⟨call, error, rfl⟩, _⟩
  · exact h
  · cases s with
    | encrypting | refused | settled => cases hframe
    | created | waiting | passed => cases hs
  · cases hs

/-- The engine is past the exchange of the confirmations. -/
def FileTransferState.past : FileTransferState → Bool
  | .idle | .confirming => false
  | .ready | .sending | .receiving | .completed | .cancelled | .failed | .closed => true

theorem FileTransferState.past_of_isTerminal {state : FileTransferState}
    (h : state.isTerminal = true) : state.past = true := by
  cases state with
  | idle | confirming => cases h
  | ready | sending | receiving | completed | cancelled | failed | closed => rfl

/-- `receiveFrame` leaves the sending side of the stream alone. -/
theorem FrameStream.receiveFrameResume_send (s : FrameStream) (call : DecryptCall)
    (result : Option Bytes) : ∃ receiveCounter receivedConfirmation receivedType,
      (s.receiveFrameResume call result).1 =
        { s with receiveCounter, receivedConfirmation, receivedType } := by
  rcases s.receiveFrameResume_cases call result with
    ⟨_, h⟩ | ⟨_, _, _, _, _, ⟨_, _, h⟩ | ⟨_, h⟩⟩ <;> rw [h] <;> exact ⟨_, _, _, rfl⟩

namespace Engine

variable {runtime : Runtime} {e e' : Engine} {event : EngineEvent}

/-! ## What the sending side keeps -/

namespace LineStep

/-- The confirmation that is expected never changes. -/
theorem confirmation_eq (h : LineStep event e e') :
    e'.stream.confirmation = e.stream.confirmation := by
  cases h with
  | posted _ hposted =>
    rcases hposted with ⟨hstream, _⟩ | ⟨type, status, _, hposted, _⟩
    · rw [hstream]
    · generalize e'.stream = stream at hposted
      cases hposted with
      | thrown | burned => rfl
      | suspended _ hcall =>
        obtain ⟨_, _, _, _, _, rfl, _⟩ := FrameStream.createFrame_eq_ok.1 hcall
        rfl
  | shifted _ hstream _ | unsealed _ _ hstream _ | sent _ _ hstream _ => rw [hstream]
  | sealed _ _ _ hstream _ =>
    rw [hstream]
    rfl
  | @received call result _ _ _ hstream _ =>
    obtain ⟨_, _, _, hsend⟩ := e.stream.receiveFrameResume_send call result
    rw [hstream, hsend]

/-- A counter is never given back, and a recorded confirmation stays recorded. -/
theorem sent_mono (h : LineStep event e e') :
    (e.stream.nextSendCounter ≠ 0 → e'.stream.nextSendCounter ≠ 0) ∧
      (e.stream.sentConfirmation = true → e'.stream.sentConfirmation = true) := by
  cases h with
  | posted _ hposted =>
    rcases hposted with ⟨hstream, _⟩ | ⟨type, status, _, hposted, _⟩
    · rw [hstream]
      exact ⟨id, id⟩
    · generalize e'.stream = stream at hposted
      cases hposted with
      | thrown => exact ⟨id, id⟩
      | burned => exact ⟨fun _ => Nat.succ_ne_zero _, id⟩
      | suspended _ hcall =>
        obtain ⟨_, _, _, _, _, rfl, _⟩ := FrameStream.createFrame_eq_ok.1 hcall
        exact ⟨fun _ => Nat.succ_ne_zero _, id⟩
  | shifted _ hstream _ | unsealed _ _ hstream _ | sent _ _ hstream _ =>
    rw [hstream]
    exact ⟨id, id⟩
  | sealed _ _ _ hstream _ =>
    rw [hstream]
    exact ⟨id, fun hsent => by simp [FrameStream.sentCounterApplied, hsent]⟩
  | @received call result _ _ _ hstream _ =>
    obtain ⟨_, _, _, hsend⟩ := e.stream.receiveFrameResume_send call result
    rw [hstream, hsend]
    exact ⟨id, id⟩

theorem unsent_of (h : LineStep event e e') (hsent : e'.stream.sentConfirmation = false) :
    e.stream.sentConfirmation = false := by
  by_contra hrecorded
  rw [h.sent_mono.2 (Bool.not_eq_false _ ▸ hrecorded)] at hsent
  cases hsent

/-- The confirmation of the peer is recorded when its frame is opened. -/
theorem received_eq (h : LineStep event e e') :
    e'.stream.receivedConfirmation = e.stream.receivedConfirmation ∨
      ∃ result call, event = .decrypted result ∧ e.receiving = some (.decrypting call) := by
  cases h with
  | posted _ hposted =>
    left
    rcases hposted with ⟨hstream, _⟩ | ⟨type, status, _, hposted, _⟩
    · rw [hstream]
    · generalize e'.stream = stream at hposted
      cases hposted with
      | thrown | burned => rfl
      | suspended _ hcall =>
        obtain ⟨_, _, _, _, _, rfl, _⟩ := FrameStream.createFrame_eq_ok.1 hcall
        rfl
  | shifted _ hstream _ | unsealed _ _ hstream _ | sent _ _ hstream _ =>
    exact .inl (by rw [hstream])
  | sealed _ _ _ hstream _ =>
    left
    rw [hstream]
    rfl
  | received hevent hcall _ _ _ => exact .inr ⟨_, _, hevent, hcall⟩

end LineStep

/-! ## The own confirmation -/

/-- Some call of `sendFrame` awaits `encrypt`. -/
def encrypts (e : Engine) : Bool := e.sends.any fun s => match s with
  | .encrypting _ => true
  | _ => false

theorem encrypts_of_mem {send : ℕ} {call : EncryptCall}
    (h : e.sends[send]? = some (.encrypting call)) : e.encrypts = true :=
  List.any_eq_true.2 ⟨_, List.mem_of_getElem? h, rfl⟩

theorem encrypts_append {status : SendStatus} (hsends : e'.sends = e.sends ++ [status])
    (hstatus : ∀ call, status ≠ .encrypting call) (h : e.encrypts = false) :
    e'.encrypts = false := by
  unfold encrypts at h ⊢
  rw [hsends, List.any_append, h, Bool.false_or]
  cases status with
  | encrypting call => exact absurd rfl (hstatus call)
  | created | waiting | passed | refused | settled => rfl

/-- The own confirmation is recorded when `encrypt` returns. -/
theorem LineStep.encrypts_of_sent (h : LineStep event e e')
    (hsent : e'.stream.sentConfirmation = true) :
    e.stream.sentConfirmation = true ∨ e.encrypts = true := by
  cases h with
  | posted _ hposted =>
    left
    rcases hposted with ⟨hstream, _⟩ | ⟨type, status, _, hposted, _⟩
    · exact hstream ▸ hsent
    · generalize e'.stream = stream at hposted hsent
      cases hposted with
      | thrown | burned => exact hsent
      | suspended _ hcall =>
        obtain ⟨_, _, _, _, _, rfl, _⟩ := FrameStream.createFrame_eq_ok.1 hcall
        exact hsent
  | shifted _ hstream _ | unsealed _ _ hstream _ | sent _ _ hstream _ =>
    exact .inl (hstream ▸ hsent)
  | sealed _ hsend _ _ _ => exact .inr (encrypts_of_mem hsend)
  | @received call result _ _ _ hstream _ =>
    obtain ⟨_, _, _, hsend⟩ := e.stream.receiveFrameResume_send call result
    rw [hstream, hsend] at hsent
    exact .inl hsent

/-- The confirmation took its counter and is not in `encrypt` any more. -/
def Exhausted (e : Engine) : Prop := e.stream.nextSendCounter ≠ 0 ∧ e.encrypts = false

/-- The own confirmation is the first frame: as long as it is not recorded, no other call of
`sendFrame` gets far. -/
structure ConfirmFirst (e : Engine) : Prop where
  confirmation : e.stream.confirmation = some e.options.confirmation
  length : e.options.confirmation.length = confirmationBytes
  fresh : e.stream.nextSendCounter = 0 →
    e.stream.sentType = none ∧ e.stream.sentConfirmation = false ∧ e.encrypts = false
  unsent : e.stream.sentConfirmation = false → ∀ s ∈ e.sends, s.unsent = true

namespace ConfirmFirst

/-- Before the confirmation is recorded, calls that go on with their frames are none. -/
theorem shifts_eq (h : e.ConfirmFirst) (hsent : e.stream.sentConfirmation = false)
    {sends : List SendStatus} (hshifts : List.Forall₂ SendStatus.Shifts e.sends sends) :
    sends = e.sends := by
  have hunsent := h.unsent hsent
  generalize e.sends = calls at hshifts hunsent
  induction hshifts with
  | nil => rfl
  | cons hst _ ih =>
    rw [List.forall_mem_cons] at hunsent
    rw [hst.eq_of_unsent hunsent.1, ih hunsent.2]

/-- What `createFrame` starts with is the confirmation, or comes after it. -/
theorem confirms_of_createFrame {t : FrameStream} {key : CryptoKey} {noncePrefix body : Bytes}
    {type : FrameType} {call : EncryptCall}
    (hcall : e.stream.createFrame key noncePrefix type body = (t, .ok call)) :
    (e.stream.sentConfirmation = true ∨ call.header.type = .confirm ∧
      e.stream.nextSendCounter = 0) ∧
      t = { e.stream with sendCounter := ⟨e.stream.sendCounter.nextValue + 1⟩ } := by
  obtain ⟨hcheck, _, _, _, _, ht, rfl⟩ := FrameStream.createFrame_eq_ok.1 hcall
  obtain ⟨_, _, hconfirm, hother⟩ := FrameStream.checkCreate_eq_ok.1 hcheck
  refine ⟨?_, ht⟩
  by_cases htype : type = .confirm
  · exact .inr ⟨htype, (hconfirm htype).2.1⟩
  · exact .inl (hother htype).1

/-- Nothing is sent before the confirmation is recorded. -/
theorem unsent_line (h : e.ConfirmFirst) (hline : LineStep event e e')
    (hsent : e'.stream.sentConfirmation = false) : ∀ s ∈ e'.sends, s.unsent = true := by
  cases hline with
  | posted _ hposted =>
    rcases hposted with ⟨hstream, hsends⟩ | ⟨type, status, _, hposted, hsends⟩
    · rw [hsends]
      exact h.unsent (hstream ▸ hsent)
    · rw [hsends, List.forall_mem_append, List.forall_mem_singleton]
      generalize e'.stream = stream at hposted hsent
      cases hposted with
      | thrown error | burned error _ => exact ⟨h.unsent hsent, rfl⟩
      | @suspended _ body call hopen hcall =>
        obtain ⟨hconfirms, rfl⟩ := confirms_of_createFrame hcall
        refine ⟨h.unsent hsent, ?_⟩
        rcases hconfirms with hconfirms | ⟨htype, _⟩
        · rw [show e.stream.sentConfirmation = false from hsent] at hconfirms
          cases hconfirms
        · exact decide_eq_true htype
  | shifted _ hstream hshifts =>
    rw [hstream] at hsent
    rw [h.shifts_eq hsent hshifts]
    exact h.unsent hsent
  | @sealed send call frame _ hsend _ hstream _ =>
    rw [hstream] at hsent
    obtain ⟨hbefore, htype⟩ := Bool.or_eq_false_iff.1 hsent
    have hconfirm := h.unsent hbefore _ (List.mem_of_getElem? hsend)
    rw [SendStatus.unsent, htype] at hconfirm
    cases hconfirm
  | unsealed _ _ hstream hsends =>
    rw [hsends]
    intro s hs
    rcases List.mem_or_eq_of_mem_set hs with hs | rfl
    · exact h.unsent (hstream ▸ hsent) s hs
    · rfl
  | sent _ hsend hstream _ =>
    cases h.unsent (hstream ▸ hsent) _ (List.mem_of_getElem? hsend)
  | @received call result _ _ _ hstream hsends =>
    obtain ⟨_, _, _, hsend⟩ := e.stream.receiveFrameResume_send call result
    rw [hstream, hsend] at hsent
    rw [hsends]
    exact h.unsent hsent

/-- The confirmation takes the first counter. -/
theorem fresh_line (h : e.ConfirmFirst) (hline : LineStep event e e')
    (hcounter : e'.stream.nextSendCounter = 0) :
    e'.stream.sentType = none ∧ e'.stream.sentConfirmation = false ∧ e'.encrypts = false := by
  cases hline with
  | posted _ hposted =>
    rcases hposted with ⟨hstream, hsends⟩ | ⟨type, status, _, hposted, hsends⟩
    · unfold encrypts
      rw [hstream, hsends]
      exact h.fresh (hstream ▸ hcounter)
    · generalize e'.stream = stream at hposted hcounter
      cases hposted with
      | thrown error =>
        obtain ⟨htype, hsent, hencrypts⟩ := h.fresh hcounter
        exact ⟨htype, hsent, encrypts_append hsends (by simp) hencrypts⟩
      | burned error _ => cases hcounter
      | suspended hopen hcall =>
        obtain ⟨_, rfl⟩ := confirms_of_createFrame hcall
        cases hcounter
  | shifted _ hstream hshifts =>
    rw [hstream] at hcounter
    obtain ⟨htype, hsent, hencrypts⟩ := h.fresh hcounter
    unfold encrypts
    rw [hstream, h.shifts_eq hsent hshifts]
    exact ⟨htype, hsent, hencrypts⟩
  | sealed _ hsend _ hstream _ | unsealed _ hsend hstream _ =>
    rw [hstream] at hcounter
    have hnone := (h.fresh hcounter).2.2
    rw [encrypts_of_mem hsend] at hnone
    cases hnone
  | sent _ hsend hstream _ =>
    rw [hstream] at hcounter
    cases h.unsent (h.fresh hcounter).2.1 _ (List.mem_of_getElem? hsend)
  | @received call result _ _ _ hstream hsends =>
    obtain ⟨_, _, _, hsend⟩ := e.stream.receiveFrameResume_send call result
    unfold encrypts
    rw [hstream, hsend] at hcounter ⊢
    rw [hsends]
    exact h.fresh hcounter

theorem line (h : e.ConfirmFirst) (hoptions : e'.options = e.options)
    (hline : LineStep event e e') : e'.ConfirmFirst where
  confirmation := by
    rw [hline.confirmation_eq, hoptions]
    exact h.confirmation
  length := hoptions ▸ h.length
  fresh := h.fresh_line hline
  unsent := h.unsent_line hline

/-- The confirmation passes the checks of `createFrame` as the first frame. -/
theorem createFrame_counter (h : e.ConfirmFirst) (hcounter : e.stream.nextSendCounter = 0)
    (key : CryptoKey) (noncePrefix : Bytes) :
    (e.stream.createFrame key noncePrefix .confirm e.options.confirmation).1.nextSendCounter ≠
      0 := by
  obtain ⟨htype, hsent, _⟩ := h.fresh hcounter
  have hcheck : e.stream.checkCreate .confirm e.options.confirmation = .ok () := by
    refine FrameStream.checkCreate_eq_ok.2 ⟨rfl, ?_, fun _ => ⟨hsent, hcounter, h.length, ?_⟩,
      fun hne => absurd rfl hne⟩
    · rw [htype]
      rfl
    · intro value hvalue
      rw [h.confirmation] at hvalue
      exact (Option.some.inj hvalue).symm
  have hreserve : e.stream.sendCounter.reserve = .ok (e.stream.sendCounter.nextValue, _) :=
    FrameCounter.reserve_eq_ok.2 ⟨le_of_eq_of_le hcounter (Nat.zero_le _), rfl, rfl⟩
  simp only [FrameStream.createFrame, hcheck, hreserve]
  exact Nat.succ_ne_zero _

/-- A confirmation that is sent on an open channel takes its counter. -/
theorem sendFrame_counter (h : e.ConfirmFirst) (hcounter : e.stream.nextSendCounter = 0)
    (hover : e.isTerminal = false) (hopen : e.channel.readyState = .opened) :
    (e.sendFrame .confirm e.options.confirmation true).1.stream.nextSendCounter ≠ 0 := by
  have hcreate :=
    h.createFrame_counter hcounter e.options.keys.sendKey e.options.keys.sendNoncePrefix
  have hstream : (e.sendFrame .confirm e.options.confirmation true).1.stream =
      (e.stream.createFrame e.options.keys.sendKey e.options.keys.sendNoncePrefix .confirm
        e.options.confirmation).1 := by
    simp only [sendFrame, sendFrameStart, hover, hopen, Bool.false_eq_true, if_false, ne_eq,
      not_true_eq_false, Bool.not_true, Bool.false_and]
    split <;> rename_i hframe <;> rw [hframe]
  rw [hstream]
  exact hcreate

/-- `start` makes the promise of the confirmation only together with a frame. -/
theorem start_confirming (h : e.ConfirmFirst) :
    e.start.1.sentConfirmationPromise = e.sentConfirmationPromise ∨
      e.start.1.stream.nextSendCounter ≠ 0 := by
  unfold start
  split_ifs with hover hopen
  · exact .inl rfl
  · exact .inl rfl
  · unfold sendConfirmation
    split
    · exact .inl rfl
    · split_ifs with hcounter
      · exact .inl rfl
      · right
        have hmarked : e.markStarted.ConfirmFirst := ⟨h.confirmation, h.length, h.fresh, h.unsent⟩
        have hover' : e.markStarted.isTerminal = false := by
          unfold markStarted isTerminal
          dsimp only
          split
          · rfl
          · exact Bool.not_eq_true _ ▸ hover
        exact hmarked.sendFrame_counter (not_not.1 hcounter) hover' (not_not.1 hopen)

/-- A confirmation that failed is not sent again. -/
theorem exhausted_line (h : e.ConfirmFirst) (hline : LineStep event e e') (hexhausted : e.Exhausted)
    (hsent : e'.stream.sentConfirmation = false) : e'.Exhausted := by
  refine ⟨hline.sent_mono.1 hexhausted.1, ?_⟩
  have hbefore := hline.unsent_of hsent
  cases hline with
  | posted _ hposted =>
    rcases hposted with ⟨_, hsends⟩ | ⟨type, status, _, hposted, hsends⟩
    · unfold encrypts
      rw [hsends]
      exact hexhausted.2
    · refine encrypts_append hsends ?_ hexhausted.2
      generalize e'.stream = stream at hposted
      cases hposted with
      | thrown | burned => rintro call ⟨⟩
      | suspended _ hcall =>
        obtain ⟨hrecorded | ⟨_, hcounter⟩, _⟩ := confirms_of_createFrame hcall
        · rw [hbefore] at hrecorded
          cases hrecorded
        · exact absurd hcounter hexhausted.1
  | shifted _ _ hshifts =>
    unfold encrypts
    rw [h.shifts_eq hbefore hshifts]
    exact hexhausted.2
  | sealed _ hsend _ _ _ | unsealed _ hsend _ _ =>
    have hnone := hexhausted.2
    rw [encrypts_of_mem hsend] at hnone
    cases hnone
  | sent _ hsend _ _ => cases h.unsent hbefore _ (List.mem_of_getElem? hsend)
  | received _ _ _ _ hsends =>
    unfold encrypts
    rw [hsends]
    exact hexhausted.2

/-- Nothing is sent on a channel that is not open. -/
theorem idle_line (h : e.ConfirmFirst) (hline : LineStep event e e')
    (hopen : e'.channel.readyState ≠ .opened) (hsent : e.stream.sentConfirmation = false)
    (hencrypts : e.encrypts = false) : e'.stream.sentConfirmation = false ∧
      e'.encrypts = false := by
  constructor
  · by_contra hrecorded
    rcases hline.encrypts_of_sent (Bool.not_eq_false _ ▸ hrecorded) with hnone | hnone
    · rw [hsent] at hnone
      cases hnone
    · rw [hencrypts] at hnone
      cases hnone
  · cases hline with
    | posted _ hposted =>
      rcases hposted with ⟨_, hsends⟩ | ⟨type, status, _, hposted, hsends⟩
      · unfold encrypts
        rw [hsends]
        exact hencrypts
      · refine encrypts_append hsends ?_ hencrypts
        generalize e'.stream = stream at hposted
        cases hposted with
        | thrown | burned => rintro call ⟨⟩
        | suspended hopened _ => exact absurd hopened hopen
    | shifted _ _ hshifts =>
      unfold encrypts
      rw [h.shifts_eq hsent hshifts]
      exact hencrypts
    | sealed _ hsend _ _ _ | unsealed _ hsend _ _ =>
      rw [encrypts_of_mem hsend] at hencrypts
      cases hencrypts
    | sent _ hsend _ _ => cases h.unsent hsent _ (List.mem_of_getElem? hsend)
    | received _ _ _ _ hsends =>
      unfold encrypts
      rw [hsends]
      exact hencrypts

end ConfirmFirst

/-! ## The handler of the confirmation -/

/-- The confirmation of the peer is being handled, or a handler threw and will end the transfer. -/
def handling (e : Engine) : Bool := e.receiving.any fun pc => match pc with
  | .received header _ => header.type = .confirm
  | .confirming _ | .threw _ => true
  | _ => false

theorem isTerminal_fail (e : Engine) (error : Thrown) (sendWire : Bool) :
    (e.fail error sendWire).isTerminal = true := by
  rw [fail_eq]
  split_ifs with hover
  · exact hover
  · rfl

theorem step_handlesConfirm (h : e.handlesConfirm event = true)
    (hstep : e.step runtime event = some e') : e' = goOn e.handleConfirmation := by
  simp only [handlesConfirm, Bool.and_eq_true, decide_eq_true_eq, Option.any_eq_true] at h
  obtain ⟨rfl, pc, hreceiving, hpc⟩ := h
  cases pc with
  | received header plaintext =>
    have htype : header.type = .confirm := of_decide_eq_true hpc
    simp only [step, hreceiving, handleFrame, htype] at hstep
    exact (Option.some.inj hstep).symm
  | reading | decrypting | confirming | importingOffer | verifyingOffer | accepting
  | importingComplete | verifyingComplete | sendingReceipt | threw => cases hpc

/-- A handler that awaits the own confirmation goes on once it settled. -/
theorem step_awaitsOwn {send : ℕ} {owner : Bool}
    (h : e.receiving = some (.confirming (.confirming send owner)))
    (hstep : e.step runtime .resumeHandler = some e') :
    e.sendResult send = some (.ok ()) ∧
        e' = { e with receiving := some (.confirming (.returned (.ok ()))) } ∨
      ∃ error, e' = { (if owner then { e with sentConfirmationPromise := none } else e) with
        receiving := some (.confirming (.returned (.error error))) } := by
  simp only [step, h, Option.bind_eq_bind, Option.bind_some, Option.bind_eq_some_iff,
    resumeHandler] at hstep
  obtain ⟨r, hr, hstep⟩ := hstep
  obtain ⟨⟨e₁, pc₁⟩, hresume, rfl⟩ := Option.map_eq_some_iff.1 hr
  cases hstep
  rcases afterSend_cases hresume with ⟨hsend, hr⟩ | ⟨error, _, hr⟩ <;> cases hr
  · exact .inl ⟨hsend, rfl⟩
  · exact .inr ⟨error, rfl⟩

/-- The handler goes on until it throws or finishes. -/
theorem step_handling (h : e.handling = true) (hstep : e.step runtime event = some e') :
    e'.handling = true ∨ e'.isTerminal = true ∨ e.handlesConfirm event = true ∨
      event = .resumeHandler ∧ e.receiving = some (.confirming (.returned (.ok ()))) := by
  by_cases hreceives : event.receives = false
  · left
    unfold handling
    rwa [(step_advances hstep).receiving hreceives]
  simp only [handling, Option.any_eq_true] at h
  obtain ⟨pc, hreceiving, hpc⟩ := h
  cases step_moves hstep with
  | dequeueRefused hidle | dequeue hidle => cases hidle.symm.trans hreceiving
  | handle hreceived =>
    obtain rfl := Option.some.inj (hreceived.symm.trans hreceiving)
    refine .inr (.inr (.inl ?_))
    simpa [handlesConfirm, hreceiving] using hpc
  | @resumeHandler pc' next hreceived hnext =>
    obtain rfl := Option.some.inj (hreceived.symm.trans hreceiving)
    cases pc' with
    | confirming pc =>
      rcases pc with ⟨send, owner⟩ | (error | ⟨⟨⟩⟩)
      · left
        rcases step_awaitsOwn hreceiving hstep with ⟨_, hafter⟩ | ⟨error, hafter⟩ <;>
          rw [hafter] <;> rfl
      · cases hnext
        exact .inl rfl
      · exact .inr (.inr (.inr ⟨rfl, hreceiving⟩))
    | accepting | sendingReceipt => cases hpc
    | _ => cases hnext
  | @caught error => exact .inr (.inl (isTerminal_fail e error true))
  | bytesRead hreceived | decrypted hreceived | offerKeyRefused hreceived
  | completeKeyRefused hreceived | offerKey hreceived | completeKey hreceived
  | verifiedOffer hreceived | verifiedComplete hreceived =>
    obtain rfl := Option.some.inj (hreceived.symm.trans hreceiving)
    cases hpc
  | _ => exact absurd rfl hreceives

/-- Only the confirmation of the peer makes a handler send the own one. -/
theorem handleFrame_confirming {header : FrameHeader} {plaintext : Bytes} {pc : StartPc}
    (h : (e.handleFrame runtime header plaintext).2 = some (.confirming pc)) :
    header.type = .confirm := by
  cases htype : header.type with
  | confirm => rfl
  | fileOffer =>
    simp only [handleFrame, htype, handleFileOffer, verifyOffer] at h
    split at h
    · cases h
    · split at h
      · split at h <;> cases h
      · cases h
  | accept =>
    simp only [handleFrame, htype, handleAccept] at h
    split at h <;> cases h
  | manifest =>
    simp only [handleFrame, htype, handleManifest] at h
    split at h
    · cases h
    · split_ifs at h
      cases h
  | chunk =>
    simp only [handleFrame, htype, handleChunk] at h
    split at h <;> cases h
  | complete =>
    simp only [handleFrame, htype, handleComplete, compareDigest, verifyComplete] at h
    split at h
    · cases h
    · split at h
      · cases h
      · split at h
        · cases h
        · split_ifs at h
          · cases h
          · split at h
            · split at h <;> cases h
            · cases h
  | receipt =>
    simp only [handleFrame, htype, handleReceipt] at h
    split at h <;> cases h
  | cancel | error =>
    simp only [handleFrame, htype, handleTerminalPayload] at h
    split at h <;> cases h

/-- How a handler comes to await the own confirmation. -/
theorem step_confirmingPc {pc : StartPc} (hstep : e.step runtime event = some e')
    (hpc : e'.receiving = some (.confirming pc)) :
    event.receives = false ∧ e.receiving = some (.confirming pc) ∨ e.handlesConfirm event = true ∨
      event = .resumeHandler ∧
        ∃ send owner, e.receiving = some (.confirming (.confirming send owner)) := by
  by_cases hreceives : event.receives = false
  · exact .inl ⟨hreceives, (step_advances hstep).receiving hreceives ▸ hpc⟩
  right
  cases step_moves hstep with
  | @dequeueRefused _ queue error hidle =>
    rw [(serves_fail { e with queue } error true).receiving] at hpc
    cases hidle.symm.trans hpc
  | dequeue | offerKeyRefused | completeKeyRefused | caught => cases hpc
  | bytesRead =>
    simp only [readMessage] at hpc
    split at hpc
    · cases hpc
    · split at hpc <;> cases hpc
  | decrypted =>
    simp only [goOn, openFrame] at hpc
    split at hpc <;> cases hpc
  | handle hreceiving =>
    left
    simp [handlesConfirm, hreceiving, handleFrame_confirming hpc]
  | offerKey =>
    simp only [goOn, verifyOffer] at hpc
    split at hpc <;> cases hpc
  | completeKey =>
    simp only [goOn, verifyComplete] at hpc
    split at hpc <;> cases hpc
  | verifiedOffer =>
    simp only [goOn, verifiedOffer] at hpc
    split_ifs at hpc
    · cases hpc
    · split at hpc <;> cases hpc
  | verifiedComplete =>
    simp only [goOn, verifiedComplete] at hpc
    split_ifs at hpc
    · cases hpc
    · split at hpc
      · cases hpc
      · split at hpc <;> cases hpc
  | resumeHandler hreceiving hnext =>
    unfold resumeHandler at hnext
    dsimp only at hnext
    split at hnext
    · exact .inr ⟨rfl, _, _, hreceiving⟩
    · cases hnext
      cases hpc
    · cases hnext
      cases hpc
    · rcases afterSend_cases hnext with ⟨_, h⟩ | ⟨error, _, h⟩ <;> cases h <;> cases hpc
    · rcases afterSend_cases hnext with ⟨_, h⟩ | ⟨error, _, h⟩ <;> cases h <;> cases hpc
    · cases hnext
  | _ => exact absurd rfl hreceives

/-- The confirmation of the peer is handled as soon as it is recorded. -/
theorem step_received (hstep : e.step runtime event = some e') :
    e'.stream.receivedConfirmation = e.stream.receivedConfirmation ∨ e'.handling = true := by
  rcases (step_line hstep).received_eq with hsame | ⟨result, call, rfl, hcall⟩
  · exact .inl hsame
  · simp only [step, hcall] at hstep
    cases hstep
    unfold openFrame
    rcases e.stream.receiveFrameResume_cases call result with
      ⟨_, h⟩ | ⟨_, _, _, _, _, ⟨_, _, h⟩ | ⟨_, h⟩⟩ <;> rw [h]
    · exact .inr rfl
    · exact .inr rfl
    · by_cases htype : call.header.type = .confirm
      · exact .inr (decide_eq_true htype)
      · left
        simp [goOn, htype]

/-- A started engine is not idle. -/
theorem start_state (e : Engine) : e.start.1.stateValue ≠ .idle := by
  unfold start
  split_ifs with hover
  · intro hidle
    rw [isTerminal, hidle] at hover
    cases hover
  · unfold markStarted
    dsimp only
    split <;> simp_all
  · obtain ⟨confirming, hledger⟩ := sendConfirmation_ledger e.markStarted
    have hstate : e.markStarted.sendConfirmation.1.stateValue = e.markStarted.stateValue :=
      congrArg Ledger.state hledger
    rw [hstate]
    unfold markStarted
    dsimp only
    split <;> simp_all

/-- `start` by an event makes the promise of the confirmation only together with a frame. -/
theorem ConfirmFirst.step_starts (h : e.ConfirmFirst) (hstarts : event.starts = true)
    (hstep : e.step runtime event = some e') :
    e'.sentConfirmationPromise = e.sentConfirmationPromise ∨ e'.stream.nextSendCounter ≠ 0 := by
  cases step_moves hstep with
  | start | reject | sendFile => exact h.start_confirming
  | rejectLate | sendFileRefused => exact .inl rfl
  | opened =>
    have hopened : (e.setReadyState .opened).ConfirmFirst :=
      ⟨h.confirmation, h.length, h.fresh, h.unsent⟩
    exact hopened.start_confirming
  | _ => cases hstarts

/-! ## What the waits come to -/

/-- The transfer is over, or was on the receiving side before: a manifest that is taken after the
end brings the engine back. -/
def Past (e : Engine) : Prop :=
  e.isTerminal = true ∨ e.options.role = .recipient ∧ e.stateValue.past = true

/-- The confirmation is over: the state moved on, and nobody waits. -/
def Settled (e : Engine) : Prop :=
  e.stateValue.past = true ∧ e.confirmationPromise ≠ some .pending

namespace Effect

variable {l : Ledger} {awaited : Option Awaited}

theorem past_state (h : Effect runtime e event l awaited) (hpast : e.stateValue.past = true) :
    l.state.past = true := by
  cases h with
  | kept hproceeds _ =>
    cases hproceeds with
    | same => exact hpast
    | started hidle =>
      rw [hidle] at hpast
      cases hpast
    | sending => rfl
  | ended _ hstate => exact FileTransferState.past_of_isTerminal hstate
  | manifest | completed | receipt => rfl
  | confirmed _ | accepted _ =>
    dsimp only
    split
    · rfl
    · exact hpast
  | awaitConfirmation | expectAcceptance | awaitAcceptance | expectReceipt | awaitReceipt =>
    exact hpast

theorem idle_state (h : Effect runtime e event l awaited) (hidle : l.state = .idle) :
    e.stateValue = .idle := by
  cases h with
  | kept hproceeds _ =>
    generalize hstate : e.stateValue = state at hproceeds
    cases hproceeds with
    | same => exact hidle
    | started | sending => cases hidle
  | ended _ hstate =>
    dsimp only at hidle
    rw [hidle] at hstate
    cases hstate
  | manifest | completed | receipt => cases hidle
  | confirmed _ | accepted _ =>
    dsimp only at hidle
    split at hidle
    · cases hidle
    · exact hidle
  | awaitConfirmation | expectAcceptance | awaitAcceptance | expectReceipt | awaitReceipt =>
    exact hidle

theorem past (h : Effect runtime e event l awaited) (hpast : e.Past) :
    l.state.isTerminal = true ∨ e.options.role = .recipient ∧ l.state.past = true := by
  rcases hpast with hover | ⟨hrole, hpast⟩
  · cases h with
    | kept hproceeds _ => exact .inl (hproceeds.isTerminal_eq.trans hover)
    | ended _ hstate => exact .inl hstate
    | manifest _ _ haccepts => exact .inr ⟨role_of_acceptsManifest haccepts, rfl⟩
    | completed | receipt => exact .inl rfl
    | confirmed _ =>
      left
      dsimp only
      split <;> rename_i hstate
      · rw [isTerminal, hstate] at hover
        cases hover
      · exact hover
    | accepted _ =>
      left
      dsimp only
      split <;> rename_i hstate
      · rcases hstate with hstate | hstate <;> rw [isTerminal, hstate] at hover <;> cases hover
      · exact hover
    | awaitConfirmation | expectAcceptance | awaitAcceptance | expectReceipt | awaitReceipt =>
      exact .inl hover
  · exact .inr ⟨hrole, h.past_state hpast⟩

/-- A call begins to wait only in `sendFile`, before the confirmations are exchanged. -/
theorem pending (h : Effect runtime e event l awaited)
    (hpending : l.promises.confirmationPromise = some .pending) :
    e.confirmationPromise = some .pending ∨
      e.stream.isConfirmed = false ∧ ∃ thread ∈ e.threads, thread.startsFile = true := by
  cases h with
  | awaitConfirmation hthread hconfirmed =>
    exact .inr ⟨hconfirmed, _, List.mem_of_getElem? hthread, rfl⟩
  | ended _ _ | confirmed _ =>
    left
    simp only [Promises.reject, Promises.confirm] at hpending
    split at hpending
    · cases hpending
    · exact hpending
  | kept | manifest | completed | receipt | accepted | expectAcceptance | awaitAcceptance
  | expectReceipt | awaitReceipt => exact .inl hpending

/-- A promise that is waited for has its resolver. -/
theorem settles (h : Effect runtime e event l awaited)
    (hsettles : e.confirmationPromise = some .pending → e.confirmationSettles = true)
    (hpending : l.promises.confirmationPromise = some .pending) :
    l.promises.confirmationSettles = true := by
  cases h with
  | awaitConfirmation hthread hconfirmed =>
    simp only [Promises.expectConfirmation] at hpending ⊢
    split at hpending
    · exact hsettles hpending
    · rfl
  | ended _ _ | confirmed _ =>
    simp only [Promises.reject, Promises.confirm] at hpending
    split at hpending <;> rename_i hresolver
    · cases hpending
    · exact absurd (hsettles hpending) hresolver
  | kept | manifest | completed | receipt | accepted | expectAcceptance | awaitAcceptance
  | expectReceipt | awaitReceipt => exact hsettles hpending

theorem mayConfirm (h : Effect runtime e event l awaited) : e.MayConfirm event l.confirming := by
  cases h with
  | kept _ hconfirming => exact hconfirming
  | ended | manifest | completed | receipt | confirmed | accepted | awaitConfirmation
  | expectAcceptance | awaitAcceptance | expectReceipt | awaitReceipt => exact .inl rfl

end Effect

/-- What every run keeps in which no confirmation is handled early. -/
structure Wakes (e : Engine) : Prop where
  terminates : e.EndsTerminal
  first : e.ConfirmFirst
  files : ∀ thread ∈ e.threads, thread.startsFile = true → e.options.role = .sender
  idle : e.stateValue = .idle → e.channel.readyState ≠ .opened ∧
    e.stream.sentConfirmation = false ∧ e.encrypts = false
  waits : e.options.role = .recipient → e.confirmationPromise ≠ some .pending
  settles : e.confirmationPromise = some .pending → e.confirmationSettles = true
  /-- A confirmation without a frame is one that a handler sent too soon, and awaits. -/
  own : e.sentConfirmationPromise ≠ none → e.stream.nextSendCounter ≠ 0 ∨
    ∃ send, e.receiving = some (.confirming (.confirming send true))
  returned : e.receiving = some (.confirming (.returned (.ok ()))) →
    e.stream.sentConfirmation = false → e.Exhausted
  received : e.stream.receivedConfirmation = true → e.stream.sentConfirmation = false →
    e.handling = true ∨ e.Past ∨ e.Exhausted
  confirmed : e.stream.isConfirmed = true → e.handling = true ∨ e.Past ∨ e.Settled

/-- The confirmation of the peer is handled while the own one awaits `encrypt`. -/
def confirmsEarly (e : Engine) (event : EngineEvent) : Bool :=
  e.handlesConfirm event && !e.stream.isConfirmed && e.encrypts

/-- `handleConfirmation` sends the own confirmation, or finishes. -/
theorem handleConfirmation_cases (e : Engine) :
    e.sentConfirmationPromise ≠ none ∧ e.handleConfirmation = (e.finishConfirmation, none) ∨
      e.sentConfirmationPromise = none ∧ e.stream.nextSendCounter ≠ 0 ∧
        e.handleConfirmation = (e, some (.confirming (.returned (.ok ())))) ∨
      e.sentConfirmationPromise = none ∧
        ∃ e₁ send, e.handleConfirmation = (e₁, some (.confirming (.confirming send true))) := by
  unfold handleConfirmation
  split <;> rename_i hpromise
  · exact .inl ⟨by simp [hpromise], rfl⟩
  · unfold sendConfirmation
    rw [hpromise]
    dsimp only
    split_ifs with hcounter
    · exact .inr (.inl ⟨rfl, hcounter, rfl⟩)
    · exact .inr (.inr ⟨rfl, _, _, rfl⟩)

theorem Wakes.counter_of_handlesConfirm (h : e.Wakes) (hconfirm : e.handlesConfirm event = true)
    (hown : e.sentConfirmationPromise ≠ none) : e.stream.nextSendCounter ≠ 0 := by
  rcases h.own hown with hcounter | ⟨send, hreceiving⟩
  · exact hcounter
  · simp [handlesConfirm, hreceiving] at hconfirm

/-- How the handler of the confirmation ends. -/
theorem Wakes.handled (h : e.Wakes) (hearly : e.confirmsEarly event = false)
    (hhandling : e.handling = true) (hstep : e.step runtime event = some e') :
    e'.handling = true ∨ e'.isTerminal = true ∨ e' = goOn (e.finishConfirmation, none) ∧
      (e.stream.sentConfirmation = false → e.Exhausted) := by
  rcases step_handling hhandling hstep with hnext | hover | hconfirm | ⟨rfl, hreceiving⟩
  · exact .inl hnext
  · exact .inr (.inl hover)
  · have hstep' := step_handlesConfirm hconfirm hstep
    rcases e.handleConfirmation_cases with ⟨hown, heq⟩ | ⟨_, _, heq⟩ | ⟨_, e₁, send, heq⟩
    · refine .inr (.inr ⟨hstep'.trans (congrArg goOn heq), fun hsent => ?_⟩)
      refine ⟨h.counter_of_handlesConfirm hconfirm hown, ?_⟩
      simpa [confirmsEarly, hconfirm, FrameStream.isConfirmed, hsent] using hearly
    · left
      rw [hstep', heq]
      rfl
    · left
      rw [hstep', heq]
      rfl
  · refine .inr (.inr ⟨?_, h.returned hreceiving⟩)
    simp only [step, hreceiving, resumeHandler] at hstep
    exact (Option.some.inj hstep).symm

theorem Wakes.settled_finishConfirmation (h : e.Wakes) (hconfirmed : e.stream.isConfirmed = true) :
    (goOn (e.finishConfirmation, none)).Settled := by
  have hidle : e.stateValue ≠ .idle := by
    intro hidle
    have hsent := (h.idle hidle).2.1
    rw [FrameStream.isConfirmed, hsent] at hconfirmed
    cases hconfirmed
  unfold finishConfirmation
  rw [if_pos hconfirmed]
  constructor
  · dsimp only [goOn]
    split <;> rename_i hstate
    · rfl
    · cases hvalue : e.stateValue with
      | idle => exact absurd hvalue hidle
      | confirming => exact absurd hvalue hstate
      | ready | sending | receiving | completed | cancelled | failed | closed => rfl
  · dsimp only [goOn]
    split <;> rename_i hsettles
    · rintro ⟨⟩
    · exact fun hpending => hsettles (h.settles hpending)

/-! ## Steps -/

namespace Wakes

variable (h : e.Wakes) (hstep : e.step runtime event = some e')

include h hstep

theorem effect : ∃ awaited, Effect runtime e event e'.ledger awaited := by
  obtain ⟨awaited, heffect, _⟩ := (step_effect h.terminates hstep).effect
  exact ⟨awaited, heffect⟩

theorem idle_step (hidle : e'.stateValue = .idle) : e'.channel.readyState ≠ .opened ∧
    e'.stream.sentConfirmation = false ∧ e'.encrypts = false := by
  obtain ⟨awaited, heffect⟩ := h.effect hstep
  obtain ⟨hopen, hsent, hencrypts⟩ := h.idle (heffect.idle_state hidle)
  have hopen' : e'.channel.readyState ≠ .opened := by
    rcases (step_advances hstep).channel with rfl | hsame | hclosed
    · simp only [step] at hstep
      split_ifs at hstep
      cases hstep
      exact absurd hidle (start_state (e.setReadyState .opened))
    · rwa [hsame]
    · exact hclosed
  exact ⟨hopen', h.first.idle_line (step_line hstep) hopen' hsent hencrypts⟩

theorem waits_step (hrole : e'.options.role = .recipient) :
    e'.confirmationPromise ≠ some .pending := by
  rw [(step_advances hstep).options] at hrole
  obtain ⟨awaited, heffect⟩ := h.effect hstep
  intro hpending
  rcases heffect.pending hpending with hbefore | ⟨_, thread, hthread, hstarts⟩
  · exact h.waits hrole hbefore
  · rw [h.files thread hthread hstarts] at hrole
    cases hrole

theorem past_step (hpast : e.Past) : e'.Past := by
  obtain ⟨awaited, heffect⟩ := h.effect hstep
  rcases heffect.past hpast with hover | ⟨hrole, hstate⟩
  · exact .inl hover
  · exact .inr ⟨(step_advances hstep).options ▸ hrole, hstate⟩

theorem settled_step (hsettled : e.Settled) (hconfirmed : e.stream.isConfirmed = true) :
    e'.Settled := by
  obtain ⟨awaited, heffect⟩ := h.effect hstep
  refine ⟨heffect.past_state hsettled.1, fun hpending => ?_⟩
  rcases heffect.pending hpending with hbefore | ⟨hnot, _⟩
  · exact hsettled.2 hbefore
  · rw [hconfirmed] at hnot
    cases hnot

/-- A handler that awaits a confirmation without a frame goes on awaiting it, or gives it up. -/
theorem own_step (hown : e'.sentConfirmationPromise ≠ none) : e'.stream.nextSendCounter ≠ 0 ∨
    ∃ send, e'.receiving = some (.confirming (.confirming send true)) := by
  have hsame : e'.sentConfirmationPromise = e.sentConfirmationPromise →
      e'.stream.nextSendCounter ≠ 0 ∨
        ∃ send, e'.receiving = some (.confirming (.confirming send true)) := by
    intro hsame
    rcases h.own (hsame ▸ hown) with hcounter | ⟨send, hreceiving⟩
    · exact .inl ((step_line hstep).sent_mono.1 hcounter)
    by_cases hreceives : event.receives = false
    · exact .inr ⟨send, (step_advances hstep).receiving hreceives ▸ hreceiving⟩
    cases event with
    | resumeHandler =>
      rcases step_awaitsOwn hreceiving hstep with ⟨hresult, rfl⟩ | ⟨error, rfl⟩
      · left
        intro hcounter
        have hunsent := h.first.unsent (h.first.fresh hcounter).2.1
        unfold sendResult at hresult
        split at hresult <;> cases hresult
        rename_i hsend
        cases hunsent _ (List.mem_of_getElem? hsend)
      · exact absurd rfl hown
    | dequeue => simp [step, dequeueMessage, hreceiving] at hstep
    | bytesRead | decrypted | handle | imported | verified | caught =>
      simp [step, hreceiving] at hstep
    | _ => exact absurd rfl hreceives
  obtain ⟨awaited, heffect⟩ := h.effect hstep
  rcases heffect.mayConfirm with heq | hnone | hstarts | hconfirm
  · exact hsame heq
  · exact absurd hnone hown
  · rcases h.first.step_starts hstarts hstep with heq | hcounter
    · exact hsame heq
    · exact .inl hcounter
  · have hstep' := step_handlesConfirm hconfirm hstep
    rcases e.handleConfirmation_cases with ⟨hbefore, _⟩ | ⟨hnone, _, heq⟩ | ⟨_, e₁, send, heq⟩
    · exact .inl ((step_line hstep).sent_mono.1 (h.counter_of_handlesConfirm hconfirm hbefore))
    · rw [hstep', heq] at hown
      exact absurd hnone hown
    · right
      rw [hstep', heq]
      exact ⟨send, rfl⟩

variable (hearly : e.confirmsEarly event = false)

include hearly

theorem returned_step (hreceiving : e'.receiving = some (.confirming (.returned (.ok ()))))
    (hsent : e'.stream.sentConfirmation = false) : e'.Exhausted := by
  have hbefore := (step_line hstep).unsent_of hsent
  apply h.first.exhausted_line (step_line hstep) ?_ hsent
  rcases step_confirmingPc hstep hreceiving with
    ⟨_, hreceiving'⟩ | hconfirm | ⟨rfl, send, owner, hpc⟩
  · exact h.returned hreceiving' hbefore
  · have hstep' := step_handlesConfirm hconfirm hstep
    rcases e.handleConfirmation_cases with ⟨_, heq⟩ | ⟨_, hcounter, heq⟩ | ⟨_, e₁, send, heq⟩
    · rw [hstep', heq] at hreceiving
      cases hreceiving
    · refine ⟨hcounter, ?_⟩
      simpa [confirmsEarly, hconfirm, FrameStream.isConfirmed, hbefore] using hearly
    · rw [hstep', heq] at hreceiving
      cases hreceiving
  · rcases step_awaitsOwn hpc hstep with ⟨hresult, _⟩ | ⟨error, rfl⟩
    · have hunsent := h.first.unsent hbefore
      unfold sendResult at hresult
      split at hresult <;> cases hresult
      rename_i hsend
      cases hunsent _ (List.mem_of_getElem? hsend)
    · cases hreceiving

theorem received_step (hreceived : e'.stream.receivedConfirmation = true)
    (hsent : e'.stream.sentConfirmation = false) : e'.handling = true ∨ e'.Past ∨ e'.Exhausted := by
  have hbefore := (step_line hstep).unsent_of hsent
  have hexhausted : e.Exhausted → e'.Exhausted := fun hexhausted =>
    h.first.exhausted_line (step_line hstep) hexhausted hsent
  rcases step_received hstep with hsame | hhandling
  · rcases h.received (hsame ▸ hreceived) hbefore with hhandling | hpast | hdone
    · rcases h.handled hearly hhandling hstep with hnext | hover | ⟨_, hdone⟩
      · exact .inl hnext
      · exact .inr (.inl (.inl hover))
      · exact .inr (.inr (hexhausted (hdone hbefore)))
    · exact .inr (.inl (h.past_step hstep hpast))
    · exact .inr (.inr (hexhausted hdone))
  · exact .inl hhandling

theorem confirmed_step (hconfirmed : e'.stream.isConfirmed = true) :
    e'.handling = true ∨ e'.Past ∨ e'.Settled := by
  obtain ⟨hsent, hreceived⟩ := Bool.and_eq_true_iff.1 hconfirmed
  rcases step_received hstep with hsame | hhandling
  · rw [hsame] at hreceived
    by_cases hbefore : e.stream.sentConfirmation = true
    · -- The confirmations were exchanged before: only the end of the handler settles the waits.
      have hboth : e.stream.isConfirmed = true := by
        rw [FrameStream.isConfirmed, hbefore, hreceived]
        rfl
      rcases h.confirmed hboth with hhandling | hpast | hsettled
      · rcases h.handled hearly hhandling hstep with hnext | hover | ⟨rfl, _⟩
        · exact .inl hnext
        · exact .inr (.inl (.inl hover))
        · exact .inr (.inr (h.settled_finishConfirmation hboth))
      · exact .inr (.inl (h.past_step hstep hpast))
      · exact .inr (.inr (h.settled_step hstep hsettled hboth))
    · -- The own confirmation is recorded by this step, while the handler still awaits it.
      rw [Bool.not_eq_true] at hbefore
      have hencrypts : e.encrypts = true := by
        rcases (step_line hstep).encrypts_of_sent hsent with hrecorded | hencrypts
        · rw [hbefore] at hrecorded
          cases hrecorded
        · exact hencrypts
      rcases h.received hreceived hbefore with hhandling | hpast | hdone
      · rcases h.handled hearly hhandling hstep with hnext | hover | ⟨rfl, hdone⟩
        · exact .inl hnext
        · exact .inr (.inl (.inl hover))
        · rw [(hdone hbefore).2] at hencrypts
          cases hencrypts
      · exact .inr (.inl (h.past_step hstep hpast))
      · rw [hdone.2] at hencrypts
        cases hencrypts
  · exact .inl hhandling

theorem step : e'.Wakes where
  terminates := endsTerminal_step h.terminates hstep
  first := h.first.line (step_advances hstep).options (step_line hstep)
  files := by
    rw [(step_advances hstep).options]
    exact (step_advances hstep).threads.startsFile h.files
  idle := h.idle_step hstep
  waits := h.waits_step hstep
  settles := by
    obtain ⟨awaited, heffect⟩ := h.effect hstep
    exact heffect.settles h.settles
  own := h.own_step hstep
  returned := h.returned_step hstep hearly
  received := h.received_step hstep hearly
  confirmed := h.confirmed_step hstep hearly

end Wakes

/-! ## Runs -/

/-- A step in which no confirmation is handled early. -/
def TimelyStep (runtime : Runtime) (e : Engine) (event : EngineEvent) (e' : Engine) : Prop :=
  Step (step runtime) e event e' ∧ e.confirmsEarly event = false

theorem wakes_initial {o : ConstructorOptions} {options : EngineOptions} {stream : FrameStream}
    {registry : InboundTransferRegistry} {readyState : ReadyState}
    (hoptions : checkOptions o = .ok options)
    (hstream : FrameStream.create o.transferId (if o.role = .sender then .s2r else .r2s)
      (some o.material.confirmation) = .ok stream) (hopen : readyState ≠ .opened) :
    (initial options o.accepted stream registry readyState).Wakes := by
  simp only [checkOptions, bind_eq_ok, pure_eq_ok, throwIf_eq_ok, not_or, not_not] at hoptions
  obtain ⟨keys, _, _, ⟨hlength, _⟩, _, _, _, _, chunkSize, _, _, _, rfl⟩ := hoptions
  simp only [FrameStream.create, bind_eq_ok, pure_eq_ok] at hstream
  obtain ⟨id, _, _, _, rfl⟩ := hstream
  exact {
    terminates := List.forall_mem_nil _
    first := {
      confirmation := rfl
      length := hlength
      fresh := fun _ => ⟨rfl, rfl, rfl⟩
      unsent := fun _ => List.forall_mem_nil _ }
    files := List.forall_mem_nil _
    idle := fun _ => ⟨hopen, rfl, rfl⟩
    waits := by rintro _ ⟨⟩
    settles := by rintro ⟨⟩
    own := fun hown => absurd rfl hown
    returned := by rintro ⟨⟩
    received := by rintro ⟨⟩
    confirmed := by rintro ⟨⟩ }

theorem wakes_construct (runtime : Runtime) {o : ConstructorOptions}
    {registry : InboundTransferRegistry} {readyState : ReadyState}
    (h : construct o registry readyState = .ok e) : e.Wakes := by
  obtain ⟨options, stream, registry', hoptions, hstream, hcases⟩ := construct_cases h
  rcases hcases with ⟨hopen, rfl⟩ | ⟨rfl, rfl⟩
  · exact wakes_initial hoptions hstream hopen
  · -- On an open channel the constructor does what `onopen` does later otherwise.
    have hwakes : (initial options o.accepted stream registry' .connecting).Wakes :=
      wakes_initial hoptions hstream (by decide)
    have hstep : (initial options o.accepted stream registry' .connecting).step runtime .opened =
      some (initial options o.accepted stream registry' .opened).onOpen := rfl
    exact hwakes.step hstep rfl

/-- Once both confirmations are recorded, an engine that is not over and processes no message is
past `confirming`, and no call waits for the confirmation, in every run in which no confirmation is
handled early. -/
theorem confirmation_wakes (runtime : Runtime) {o : ConstructorOptions}
    {registry : InboundTransferRegistry} {readyState : ReadyState} {e₀ e : Engine}
    {es : List EngineEvent} (h : construct o registry readyState = .ok e₀)
    (hrun : Run (TimelyStep runtime) e₀ es e) (hover : e.isTerminal = false)
    (hconfirmed : e.stream.isConfirmed = true) (hreceiving : e.receiving = none) :
    e.stateValue ≠ .confirming ∧
      ∀ thread ∈ e.threads, thread.awaited = some .confirmation →
      e.promises.pending .confirmation = false := by
  have hwakes : e.Wakes :=
    hrun.invariant (wakes_construct runtime h) fun _ _ _ hs ⟨hstep, hearly⟩ =>
    hs.step hstep hearly
  have hsettled : e.stateValue.past = true ∧ e.confirmationPromise ≠ some .pending := by
    rcases hwakes.confirmed hconfirmed with hhandling | (hterminal | ⟨hrole, hpast⟩) | hsettled
    · simp [handling, hreceiving] at hhandling
    · rw [hover] at hterminal
      cases hterminal
    · exact ⟨hpast, hwakes.waits hrole⟩
    · exact hsettled
  constructor
  · intro hstate
    have hpast := hsettled.1
    rw [hstate] at hpast
    cases hpast
  · intro thread _ _
    exact decide_eq_false hsettled.2

/-! ## A wake-up that is lost -/

/-- No operation or handler is under way, other than calls that wait for the confirmation. -/
def onlyWaits (e : Engine) : Bool :=
  e.atRest && e.threads.all fun t => match t with
    | .finished | .terminating _ _ _ .returned | .sendFile _ _ (.returned _)
    | .sendFile _ _ (.waitingConfirmation false) => true
    | _ => false

/-- The confirmation of the peer arrives. -/
def peerConfirms : List EngineEvent :=
  sampleReceive .r2s .confirm 0 (List.replicate 32 1) ++ [.handle]

/-- The own confirmation is encrypted and sent, and the call of `start` returns. -/
def ownConfirms : List EngineEvent :=
  [sampleEncrypted 0 32, .capacity 0, .transmit 0, .resume 1, .resume 1]

/-- `sendFile` waits for the confirmation while the channel opens. -/
def waitsForPeer : List EngineEvent := [.sendFile sampleFile none, .resume 0, .opened]

theorem confirmation_wakes_sender :
    ∃ e₀ e, construct (sampleOptions .sender) ⟨[]⟩ .connecting = .ok e₀ ∧
      Run (TimelyStep sampleRuntime) e₀ (waitsForPeer ++ ownConfirms ++ peerConfirms) e ∧
      e.isTerminal = false ∧ e.stream.isConfirmed = true ∧ e.onlyWaits = true ∧
      e.threads.map Thread.awaited = [some .confirmation, none] ∧
      (e.stateValue ≠ .confirming ∧ ∀ thread ∈ e.threads, thread.awaited = some .confirmation →
        e.promises.pending .confirmation = false) := by
  have h : Reaches (fun a event => if a.confirmsEarly event = false then step sampleRuntime a event
      else none) (sampleOptions .sender) .connecting (waitsForPeer ++ ownConfirms ++ peerConfirms)
      fun e => e.isTerminal = false ∧ e.stream.isConfirmed = true ∧ e.onlyWaits = true ∧
        e.threads.map Thread.awaited = [some .confirmation, none] ∧ e.receiving = none := by
    decide +kernel
  obtain ⟨e₀, e, he₀, hexec, hover, hconfirmed, hrest, hthreads, hreceiving⟩ := h.exec
  have hrun := Run.of_exec_guarded hexec
  exact ⟨e₀, e, he₀, hrun, hover, hconfirmed, hrest, hthreads,
    confirmation_wakes sampleRuntime he₀ hrun hover hconfirmed hreceiving⟩

/-- The confirmation of the peer is handled while the own one is in `encrypt`: both are recorded in
the end, but the state stays, and the call waits for ever. -/
theorem confirmation_lost :
    ∃ e₀ e, construct (sampleOptions .sender) ⟨[]⟩ .connecting = .ok e₀ ∧
      Run (Step (step sampleRuntime)) e₀ (waitsForPeer ++ peerConfirms ++ ownConfirms) e ∧
      e.isTerminal = false ∧ e.stream.isConfirmed = true ∧ e.onlyWaits = true ∧
      e.stateValue = .confirming ∧
      ∃ thread ∈ e.threads, thread.awaited = some .confirmation ∧
        e.promises.pending .confirmation = true := by
  have h : Reaches (step sampleRuntime) (sampleOptions .sender) .connecting
      (waitsForPeer ++ peerConfirms ++ ownConfirms) fun e =>
        e.isTerminal = false ∧ e.stream.isConfirmed = true ∧ e.onlyWaits = true ∧
        e.stateValue = .confirming ∧ e.threads.map Thread.awaited = [some .confirmation, none] ∧
        e.promises.pending .confirmation = true := by
    decide +kernel
  obtain ⟨e₀, e, he₀, hexec, hover, hconfirmed, hrest, hstate, hthreads, hpending⟩ := h.exec
  refine ⟨e₀, e, he₀, .of_exec hexec, hover, hconfirmed, hrest, hstate, ?_⟩
  have hmem : some .confirmation ∈ e.threads.map Thread.awaited := by simp [hthreads]
  obtain ⟨thread, hthread, hawaited⟩ := List.mem_map.1 hmem
  exact ⟨thread, hthread, hawaited, hpending⟩

end Engine

end SelfRelay
