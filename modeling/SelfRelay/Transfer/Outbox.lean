import SelfRelay.Transfer.Effects

/-!
# The outbox

What is left of an engine when only its frames matter: the next counter, the watermark, whether the
channel is open, the calls of `sendFrame` and the frames passed to `channel.send`.  `Outbox.Step`
lists all that can happen to it, and `Engine.step_outbox` is the refinement: whatever event occurs,
the outbox of the engine makes one of these steps.  Facts about frames are proved on the outbox.
-/

namespace SelfRelay

namespace EncryptCall

/-- What holds of a call of `createFrame` that reached `encrypt`. -/
structure WellFormed (call : EncryptCall) : Prop where
  valid : call.header.Valid
  data : call.additionalData = call.header.bytes
  length : call.header.plaintextLength = call.plaintext.length

/-- The frame that `createFrame` returns for a call: the header and a ciphertext. -/
def Seals (call : EncryptCall) (frame : Bytes) : Prop :=
  ∃ ciphertext, ciphertext.length = call.plaintext.length + frameTagBytes ∧
    frame = call.additionalData ++ ciphertext

/-- A frame of the call is taken apart into its header. -/
theorem WellFormed.splitFrame_eq {call : EncryptCall} (h : call.WellFormed) {frame : Bytes}
    (hframe : call.Seals frame) :
    ∃ ciphertext, splitFrame frame = .ok (call.header, ciphertext) := by
  obtain ⟨ciphertext, hlen, rfl⟩ := hframe
  refine ⟨ciphertext, ?_⟩
  rw [h.data, splitFrame_append h.valid.uuid h.valid.version h.valid.counter_le h.valid.length_le
    (h.length ▸ hlen)]
  exact ⟨h.valid.travels, rfl, rfl⟩

end EncryptCall

namespace SendStatus

/-- The call still has a frame to send, or will have one. -/
def live : SendStatus → Option EncryptCall
  | encrypting call | created call _ | waiting call _ | passed call _ => some call
  | refused _ _ | settled _ => none

/-- The frame the call waits to send. -/
def frame : SendStatus → Option Bytes
  | created _ frame | waiting _ frame | passed _ frame => some frame
  | encrypting _ | refused _ _ | settled _ => none

/-- A call goes on or stays where it is: it gets its frame, keeps it, or is given up. -/
def Moves (s t : SendStatus) : Prop :=
  t.live = none ∨ t.live = s.live ∧
    (t.frame = s.frame ∨ ∃ call frame, s = encrypting call ∧ t.frame = some frame ∧
      call.Seals frame)

theorem Moves.refl (s : SendStatus) : Moves s s := .inr ⟨rfl, .inl rfl⟩

/-- A call that is on its way after the move was on its way before. -/
theorem Moves.live_eq {s t : SendStatus} {call : EncryptCall} (h : s.Moves t)
    (ht : t.live = some call) : s.live = some call := by
  rcases h with hnone | ⟨heq, _⟩
  · rw [hnone] at ht
    cases ht
  · exact heq ▸ ht

/-- The frame of a call was there before, or was just sealed by the call. -/
theorem Moves.seals {s t : SendStatus} {call : EncryptCall} {frame : Bytes} (h : s.Moves t)
    (ht : t.live = some call) (hframe : t.frame = some frame)
    (hs : s.frame = some frame → call.Seals frame) : call.Seals frame := by
  have hlive := h.live_eq ht
  rcases h with hnone | ⟨_, hsame | ⟨call', frame', rfl, hframe', hseals⟩⟩
  · rw [hnone] at ht
    cases ht
  · exact hs (hsame ▸ hframe)
  · cases hlive
    cases hframe'.symm.trans hframe
    exact hseals

/-- A call that has its frame, or was refused, goes on; another call stays where it is. -/
def Shifts (s t : SendStatus) : Prop :=
  t = s ∨ (s.frame.isSome = true ∨ ∃ call error, s = refused call error) ∧
    (t.live = none ∨ t.live = s.live ∧ t.frame = s.frame)

theorem Shifts.moves {s t : SendStatus} (h : s.Shifts t) : s.Moves t := by
  rcases h with rfl | ⟨_, hnone | ⟨hlive, hframe⟩⟩
  · exact .refl _
  · exact .inl hnone
  · exact .inr ⟨hlive, .inl hframe⟩

end SendStatus

/-- Where a call moved from. -/
theorem exists_moves {calls calls' : List SendStatus}
    (h : List.Forall₂ SendStatus.Moves calls calls') {t : SendStatus} (ht : t ∈ calls') :
    ∃ s ∈ calls, s.Moves t := by
  obtain ⟨i, hi, rfl⟩ := List.mem_iff_getElem.1 ht
  have hlt : i < calls.length := h.length_eq ▸ hi
  exact ⟨_, List.getElem_mem hlt, h.get hlt hi⟩

structure Outbox where
  nextCounter : ℕ
  highWaterMark : ℕ
  opened : Bool
  calls : List SendStatus
  sent : List Bytes

namespace Outbox

/-- One step; `allowed` restricts the types of the frames that may be created in it. -/
inductive Step (allowed : FrameType → Prop) (o : Outbox) : Outbox → Prop
  /-- Calls of `sendFrame` go on. -/
  | moved {opened : Bool} {calls : List SendStatus}
    (h : List.Forall₂ SendStatus.Moves o.calls calls) : Step allowed o { o with opened, calls }
  /-- A call of `sendFrame` throws at once, before or after it reserved a counter. -/
  | thrown {nextCounter : ℕ} {opened : Bool} {error : Thrown}
    (h : nextCounter = o.nextCounter ∨ nextCounter = o.nextCounter + 1) :
    Step allowed o { o with nextCounter, opened, calls := o.calls ++ [.settled (.error error)] }
  /-- A call of `sendFrame` reserves a counter on an open channel and awaits `encrypt`. -/
  | reserved {call : EncryptCall} (hallowed : allowed call.header.type)
    (hcounter : call.header.counter = o.nextCounter) (hcall : call.WellFormed) :
    Step allowed o
      { o with
        nextCounter := o.nextCounter + 1
        opened := true
        calls := o.calls ++ [.encrypting call] }
  /-- A call of `sendFrame` passes its frame to the channel. -/
  | sent {send : ℕ} {call : EncryptCall} {opened : Bool} {frame : Bytes}
    (h : o.calls[send]? = some (.passed call frame)) :
    Step allowed o
      { o with opened, calls := o.calls.set send (.settled (.ok ())), sent := o.sent ++ [frame] }

theorem Step.refl (allowed : FrameType → Prop) (o : Outbox) (opened : Bool) :
    Step allowed o { o with opened } :=
  .moved (List.forall₂_same.2 fun s _ => .refl s)

/-- One call goes on. -/
theorem Step.set {allowed : FrameType → Prop} {o : Outbox} {opened : Bool} {send : ℕ}
    {s t : SendStatus} (h : o.calls[send]? = some s) (hmove : s.Moves t) :
    Step allowed o { o with opened, calls := o.calls.set send t } := by
  apply Step.moved
  apply List.forall₂_iff_get.2
  refine ⟨by simp, fun i h₁ h₂ => ?_⟩
  simp only [List.get_eq_getElem, List.getElem_set]
  split_ifs with hi
  · subst hi
    obtain ⟨hlt, hs⟩ := List.getElem?_eq_some_iff.1 h
    rw [hs]
    exact hmove
  · exact .refl _

end Outbox

namespace Engine

variable {e e' : Engine} {runtime : Runtime} {event : EngineEvent}

def outbox (e : Engine) : Outbox where
  nextCounter := e.stream.nextSendCounter
  highWaterMark := e.options.highWaterMark
  opened := e.channel.readyState = .opened
  calls := e.sends
  sent := e.channel.sent

theorem receiveFrameResume_sendCounter (s : FrameStream) (call : DecryptCall)
    (result : Option Bytes) : (s.receiveFrameResume call result).1.sendCounter = s.sendCounter := by
  rcases s.receiveFrameResume_cases call result with
    ⟨_, h⟩ | ⟨_, _, _, _, _, ⟨_, _, h⟩ | ⟨_, h⟩⟩ <;> rw [h]

/-! ## The stream and the calls of `sendFrame` -/

/-- What an event does to the stream and to the calls of `sendFrame`. -/
inductive LineStep (event : EngineEvent) (e e' : Engine) : Prop
  /-- `sendFrame` is called, or nothing happens. -/
  | posted (hsent : e'.channel.sent = e.channel.sent)
    (h : e'.stream = e.stream ∧ e'.sends = e.sends ∨ ∃ type status, e.MayPost type ∧
      Posted e.options.keys e'.channel e.stream type e'.stream status ∧
      e'.sends = e.sends ++ [status])
  /-- Calls go on with their frames. -/
  | shifted (hsent : e'.channel.sent = e.channel.sent) (hstream : e'.stream = e.stream)
    (h : List.Forall₂ SendStatus.Shifts e.sends e'.sends)
  /-- `createFrame` returns. -/
  | sealed {send : ℕ} {call : EncryptCall} {frame : Bytes}
      (hsent : e'.channel.sent = e.channel.sent)
    (hsend : e.sends[send]? = some (.encrypting call)) (hframe : call.Seals frame)
    (hstream : e'.stream = e.stream.sentCounterApplied call.header.type)
    (hsends : e'.sends = e.sends.set send (.created call frame))
  /-- `createFrame` throws. -/
  | unsealed {send : ℕ} {call : EncryptCall} {error : Thrown}
    (hsent : e'.channel.sent = e.channel.sent)
    (hsend : e.sends[send]? = some (.encrypting call)) (hstream : e'.stream = e.stream)
    (hsends : e'.sends = e.sends.set send (.settled (.error error)))
  /-- A call passes its frame to the channel. -/
  | sent {send : ℕ} {call : EncryptCall} {frame : Bytes}
    (hsent : e'.channel.sent = e.channel.sent ++ [frame])
    (hsend : e.sends[send]? = some (.passed call frame)) (hstream : e'.stream = e.stream)
    (hsends : e'.sends = e.sends.set send (.settled (.ok ())))
  /-- `receiveFrame` goes on. -/
  | received {call : DecryptCall} {result : Option Bytes} (hevent : event = .decrypted result)
    (hcall : e.receiving = some (.decrypting call)) (hsent : e'.channel.sent = e.channel.sent)
    (hstream : e'.stream = (e.stream.receiveFrameResume call result).1)
      (hsends : e'.sends = e.sends)

namespace LineStep

theorem quiet (hsent : e'.channel.sent = e.channel.sent) (hstream : e'.stream = e.stream)
    (hsends : e'.sends = e.sends) : LineStep event e e' := .posted hsent (.inl ⟨hstream, hsends⟩)

/-- Another engine with the same stream and calls made the step. -/
theorem of_posts {e₁ : Engine} (h : Posts e₁ e') (hoptions : e₁.options = e.options)
    (hsent : e₁.channel.sent = e.channel.sent) (hthreads : e₁.threads = e.threads)
    (hstream : e₁.stream = e.stream) (hsends : e₁.sends = e.sends) : LineStep event e e' := by
  refine .posted (by rw [h.channel, hsent]) ?_
  rcases h.sends with ⟨hs, hl⟩ | ⟨type, status, hmay, hposted, hl⟩
  · exact .inl ⟨hs.trans hstream, hl.trans hsends⟩
  · right
    rw [hoptions, ← h.channel, hstream] at hposted
    unfold MayPost at hmay
    rw [hthreads] at hmay
    exact ⟨type, status, hmay, hposted, by rw [hl, hsends]⟩

theorem of_calls (h : Posts e e') : LineStep event e e' := of_posts h rfl rfl rfl rfl rfl

/-- Only the channel, the stream and the calls of `sendFrame` matter. -/
theorem congr {e₁ : Engine} (h : LineStep event e e₁) (hchannel : e'.channel = e₁.channel)
    (hstream : e'.stream = e₁.stream) (hsends : e'.sends = e₁.sends) : LineStep event e e' := by
  cases h with
  | posted hsent h => exact .posted (hchannel ▸ hsent) (by rwa [hchannel, hstream, hsends])
  | shifted hsent h₁ h => exact .shifted (hchannel ▸ hsent) (hstream.trans h₁) (hsends ▸ h)
  | sealed hsent hsend hframe h₁ h₂ =>
    exact .sealed (hchannel ▸ hsent) hsend hframe (hstream.trans h₁) (hsends.trans h₂)
  | unsealed hsent hsend h₁ h₂ =>
    exact .unsealed (hchannel ▸ hsent) hsend (hstream.trans h₁) (hsends.trans h₂)
  | sent hsent hsend h₁ h₂ =>
    exact .sent (hchannel ▸ hsent) hsend (hstream.trans h₁) (hsends.trans h₂)
  | received hevent hcall hsent h₁ h₂ =>
    exact .received hevent hcall (hchannel ▸ hsent) (hstream.trans h₁) (hsends.trans h₂)

theorem goOn {r : Engine × Option ReceivePc} (h : LineStep event e r.1) :
    LineStep event e (goOn r) :=
  h.congr rfl rfl rfl

/-- One call goes on. -/
theorem set {send : ℕ} {s t : SendStatus} (hsent : e'.channel.sent = e.channel.sent)
    (hstream : e'.stream = e.stream) (hsend : e.sends[send]? = some s) (hshift : s.Shifts t)
    (hsends : e'.sends = e.sends.set send t) : LineStep event e e' := by
  refine .shifted hsent hstream ?_
  rw [hsends]
  apply List.forall₂_iff_get.2
  refine ⟨by simp, fun i h₁ h₂ => ?_⟩
  simp only [List.get_eq_getElem, List.getElem_set]
  split_ifs with hi
  · subst hi
    obtain ⟨hlt, hs⟩ := List.getElem?_eq_some_iff.1 hsend
    rw [hs]
    exact hshift
  · exact .inl rfl

end LineStep

/-- Settling the waits moves each call. -/
theorem shifts_settleWaits (sends : List SendStatus) {next : EncryptCall → Bytes → SendStatus}
    (hnext : ∀ call frame, (SendStatus.waiting call frame).Shifts (next call frame)) :
    List.Forall₂ SendStatus.Shifts sends (settleWaits sends next) := by
  unfold settleWaits
  rw [List.forall₂_map_right_iff]
  apply List.forall₂_same.2
  intro s _
  cases s with
  | waiting call frame => exact hnext call frame
  | encrypting | created | passed | refused | settled => exact .inl rfl

theorem waitForDataChannelCapacity_shifts {s t : SendStatus}
    (h : e.waitForDataChannelCapacity s = some t) : s.Shifts t := by
  cases s with
  | created call frame =>
    simp only [waitForDataChannelCapacity] at h
    split_ifs at h <;> cases h
    · exact .inr ⟨.inl rfl, .inl rfl⟩
    · exact .inr ⟨.inl rfl, .inr ⟨rfl, rfl⟩⟩
    · exact .inr ⟨.inl rfl, .inr ⟨rfl, rfl⟩⟩
  | encrypting | waiting | passed | refused | settled => cases h

/-- What `fail` leaves of the stream, the channel and the calls of `sendFrame`. -/
theorem fail_line (e : Engine) (error : Thrown) (sendWire : Bool) :
    (e.fail error sendWire).stream = e.stream ∧ (e.fail error sendWire).sends = e.sends ∧
      (e.fail error sendWire).channel = e.channel := by
  rw [fail_eq]
  split <;> exact ⟨rfl, rfl, rfl⟩

/-- Every wait for capacity settles after `fail`. -/
theorem line_settleWaits (channel : DataChannel) (hsent : channel.sent = e.channel.sent)
    (error : Thrown) {next : EncryptCall → Bytes → SendStatus}
    (hnext : ∀ call frame, (SendStatus.waiting call frame).Shifts (next call frame))
    (hstream : e'.stream = (({ e with channel } : Engine).fail error true).stream)
    (hchannel : e'.channel = (({ e with channel } : Engine).fail error true).channel)
    (hsends : e'.sends = settleWaits (({ e with channel } : Engine).fail error true).sends next) :
    LineStep event e e' := by
  obtain ⟨hs, hl, hc⟩ := fail_line { e with channel } error true
  refine .shifted ?_ (hstream.trans hs) ?_
  · rw [hchannel, hc]
    exact hsent
  · rw [hsends, hl]
    exact shifts_settleWaits e.sends hnext

theorem step_line (h : e.step runtime event = some e') : LineStep event e e' := by
  cases step_moves h with
  | start | reject | sendFile =>
    exact (LineStep.of_calls (serves_start e).toPosts).congr rfl rfl rfl
  | acceptSends haccept | acceptReturns haccept =>
    have hline : LineStep .accept e e.accept.1 := .of_calls (serves_accept e).toPosts
    rw [haccept] at hline
    exact hline.congr rfl rfl rfl
  | opened =>
    have hposts := (serves_start (e.setReadyState .opened)).toPosts
    exact (LineStep.of_posts (e := e) hposts rfl rfl rfl rfl rfl).congr rfl rfl rfl
  | closed =>
    exact line_settleWaits { e.channel with readyState := .closed } rfl _
      (fun _ _ => .inr ⟨.inl rfl, .inl rfl⟩) rfl rfl rfl
  | errored =>
    exact line_settleWaits e.channel rfl _ (fun _ _ => .inr ⟨.inl rfl, .inl rfl⟩) rfl rfl rfl
  | capacityFreed =>
    exact .shifted rfl rfl (shifts_settleWaits e.sends fun _ _ => .inr ⟨.inl rfl, .inr ⟨rfl, rfl⟩⟩)
  | @encrypted _ _ status _ _ hsend hnext =>
    cases status with
    | encrypting call =>
      simp only [encryptedSend] at hnext
      split at hnext <;> rename_i hresume <;> cases hnext
      · exact .unsealed rfl hsend (FrameStream.createFrameResume_error hresume) rfl
      · obtain ⟨hstream, ciphertext, _, hlen, hframe⟩ :=
          FrameStream.createFrameResume_eq_ok.1 hresume
        exact .sealed rfl hsend ⟨ciphertext, hlen, hframe⟩ hstream rfl
    | created | waiting | passed | refused | settled => cases hnext
  | capacity hsend hnext => exact .set rfl rfl hsend (waitForDataChannelCapacity_shifts hnext) rfl
  | @transmit _ status _ _ hsend hnext =>
    cases status with
    | passed call frame =>
      simp only [transmitSend] at hnext
      split_ifs at hnext <;> cases hnext
      · exact .set rfl rfl hsend (.inr ⟨.inl rfl, .inl rfl⟩) rfl
      · exact .sent rfl hsend rfl rfl
    | refused call error =>
      cases hnext
      exact .set rfl rfl hsend (.inr ⟨.inr ⟨call, error, rfl⟩, .inl rfl⟩) rfl
    | encrypting | created | waiting | settled => cases hnext
  | resume hthread hnext =>
    have hcleans := cleans_resumeThread (List.mem_of_getElem? hthread) hnext
    exact (LineStep.of_calls hcleans.toPosts).congr rfl rfl rfl
  | signed _ hnext =>
    exact (LineStep.of_calls (serves_signedSendFile hnext).toPosts).congr rfl rfl rfl
  | sliced _ hnext =>
    exact (LineStep.of_calls (serves_slicedSendFile hnext).toPosts).congr rfl rfl rfl
  | @dequeueRefused _ queue error =>
    obtain ⟨hs, hl, hc⟩ := fail_line { e with queue } error true
    exact .quiet (congrArg DataChannel.sent hc) hs hl
  | @decrypted result call hpc =>
    have hline : LineStep (.decrypted result) e (e.openFrame call result).1 := by
      unfold openFrame
      split <;> rename_i hopen
      all_goals
        have hstream := congrArg Prod.fst hopen.symm
        exact .received rfl hpc rfl hstream rfl
    exact hline.goOn
  | handle => exact (LineStep.of_calls (posts_handleFrame runtime e _ _)).goOn
  | offerKey => exact (LineStep.of_calls (posts_verifyOffer e _ _)).goOn
  | completeKey => exact (LineStep.of_calls (posts_verifyComplete e _ _ _)).goOn
  | verifiedOffer => exact (LineStep.of_calls (posts_verifiedOffer runtime e _ _ _ _)).goOn
  | verifiedComplete => exact (LineStep.of_calls (posts_verifiedComplete runtime e _ _ _ _)).goOn
  | resumeHandler _ hnext => exact (LineStep.of_calls (posts_resumeHandler hnext)).goOn
  | @caught error =>
    obtain ⟨hs, hl, hc⟩ := fail_line e error true
    exact .quiet (congrArg DataChannel.sent hc) hs hl
  | rejectLate | sendFileRefused | closeAgain | close | messageLate | message | closing | drained
  | capacityKept | dequeue | bytesRead | offerKeyRefused | completeKeyRefused =>
    exact .quiet rfl rfl rfl

/-! ## The outbox of an engine -/

theorem Posted.outbox {opened : Bool} {type : FrameType} {stream : FrameStream}
    {status : SendStatus}
    {channel : DataChannel} (hmay : e.MayPost type)
    (hopened : opened = (channel.readyState = .opened))
    (h : Posted e.options.keys channel e.stream type stream status) :
    Outbox.Step e.MayPost e.outbox
      { e.outbox with
        nextCounter := stream.nextSendCounter, opened, calls := e.sends ++ [status] } := by
  cases h with
  | thrown error => exact .thrown (.inl rfl)
  | burned error _ => exact .thrown (.inr rfl)
  | suspended hopen hcall =>
    obtain ⟨hcheck, hle, hid, hlen, _, rfl, rfl⟩ := FrameStream.createFrame_eq_ok.1 hcall
    have hvalid : (e.stream.headerFor type e.stream.sendCounter.nextValue _).Valid :=
      ⟨rfl, hid, hle, hlen, (FrameStream.checkCreate_eq_ok.1 hcheck).1⟩
    have hopened : opened = true := by
      rw [hopen] at hopened
      simpa using hopened
    rw [hopened]
    exact .reserved hmay rfl ⟨hvalid, rfl, rfl⟩

/-- What happens to the stream and the calls of `sendFrame` is a step of the outbox. -/
theorem LineStep.outbox (h : LineStep event e e') (hoptions : e'.options = e.options) :
    Outbox.Step e.MayPost e.outbox e'.outbox := by
  have houtbox : ∀ {nextCounter : ℕ} {sends : List SendStatus} {sent : List Bytes},
      e'.stream.nextSendCounter = nextCounter → e'.sends = sends → e'.channel.sent = sent →
      e'.outbox = {
        nextCounter
        highWaterMark := e.outbox.highWaterMark
        opened := e'.channel.readyState = .opened
        calls := sends
        sent } := by
    intro nextCounter sends sent hcounter hsends hsent
    unfold Engine.outbox
    rw [hcounter, hsends, hsent, hoptions]
  cases h with
  | posted hsent h =>
    rcases h with ⟨hstream, hsends⟩ | ⟨type, status, hmay, hposted, hsends⟩
    · rw [houtbox (congrArg FrameStream.nextSendCounter hstream) hsends hsent]
      exact .refl _ _ _
    · rw [houtbox rfl hsends hsent]
      exact Posted.outbox hmay (by simp) hposted
  | shifted hsent hstream hshifts =>
    rw [houtbox (congrArg FrameStream.nextSendCounter hstream) rfl hsent]
    exact .moved (hshifts.imp fun _ _ => SendStatus.Shifts.moves)
  | @sealed send call frame hsent hsend hframe hstream hsends =>
    rw [houtbox (congrArg FrameStream.nextSendCounter hstream) hsends hsent]
    have hmoves : (SendStatus.encrypting call).Moves (.created call frame) :=
      .inr ⟨rfl, .inr ⟨call, frame, rfl, rfl, hframe⟩⟩
    exact .set hsend hmoves
  | @unsealed send call error hsent hsend hstream hsends =>
    rw [houtbox (congrArg FrameStream.nextSendCounter hstream) hsends hsent]
    have hmoves : (SendStatus.encrypting call).Moves (.settled (.error error)) := .inl rfl
    exact .set hsend hmoves
  | sent hsent hsend hstream hsends =>
    rw [houtbox (congrArg FrameStream.nextSendCounter hstream) hsends hsent]
    exact .sent hsend
  | @received call result _ _ hsent hstream hsends =>
    have hcounter : e'.stream.nextSendCounter = e.stream.nextSendCounter := by
      unfold FrameStream.nextSendCounter
      rw [hstream, receiveFrameResume_sendCounter]
    rw [houtbox hcounter hsends hsent]
    exact .refl _ _ _

theorem Posts.outbox (h : Posts e e') : Outbox.Step e.MayPost e.outbox e'.outbox :=
  (LineStep.of_calls h : LineStep .start e e').outbox h.options

/-- The outbox of the engine only makes steps of an outbox. -/
theorem step_outbox (h : e.step runtime event = some e') :
    Outbox.Step e.MayPost e.outbox e'.outbox :=
  (step_line h).outbox (step_advances h).options

end Engine

end SelfRelay
