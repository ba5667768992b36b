import SelfRelay.Lib.Entries
import SelfRelay.Protocol.Endpoint
import SelfRelay.Transfer.Course

/-!
# An engine is an endpoint

`Endpoint` is one side of a channel as far as `createFrame` and `receiveFrame` go.  A `Side` is a
file transfer engine with a record of its calls of Web Crypto, and `Side.endpoint` forgets
everything else about it. `Side.step_endpoint` is the refinement: an event of the engine is one
event of the endpoint, or leaves it alone. So every run of an engine has the nonce discipline of an
endpoint (`engine_nonces_distinct`).
-/

namespace SelfRelay

open StepSystem

/-! ## Suspended calls -/

/-- The call of `createFrame` that awaits `encrypt`. -/
def SendStatus.suspended : SendStatus → Option EncryptCall
  | encrypting call => some call
  | created .. | waiting .. | passed .. | refused .. | settled _ => none

theorem SendStatus.Shifts.suspended_eq {s t : SendStatus} (h : s.Shifts t) :
    t.suspended = s.suspended := by
  rcases h with rfl | ⟨hs, ht⟩
  · rfl
  · have hbefore : s.suspended = none := by
      rcases hs with hframe | ⟨call, error, rfl⟩
      · cases s with
        | encrypting => cases hframe
        | created | waiting | passed | refused | settled => rfl
      · rfl
    rw [hbefore]
    cases t with
    | encrypting call =>
      rcases ht with hlive | ⟨hlive, hframe⟩
      · cases hlive
      · rcases hs with hsome | ⟨call', error, rfl⟩
        · rw [← hframe] at hsome
          cases hsome
        · cases hlive
    | created | waiting | passed | refused | settled => rfl

/-- The call of `receiveFrame` that awaits `decrypt`. -/
def ReceivePc.decryptCall : ReceivePc → Option DecryptCall
  | decrypting call => some call
  | reading _ | received .. | confirming _ | importingOffer _ | verifyingOffer .. | accepting _
  | importingComplete .. | verifyingComplete .. | sendingReceipt .. | threw _ => none

/-- The message is past `receiveFrame`, and being handled. -/
def ReceivePc.handles : ReceivePc → Bool
  | reading _ | decrypting _ | received .. => false
  | confirming _ | importingOffer _ | verifyingOffer .. | accepting _ | importingComplete ..
  | verifyingComplete ..
  | sendingReceipt .. | threw _ => true

theorem ReceivePc.decryptCall_of_handles {pc : Option ReceivePc} (h : pc.all handles = true) :
    pc.bind decryptCall = none := by
  cases pc with
  | none => rfl
  | some pc => cases pc <;> first | rfl | cases h

/-- The event settles a call of `decrypt`. -/
def StreamEvent.decrypts : StreamEvent → Bool
  | decrypted .. => true
  | createFrame .. | encrypted .. | receiveFrame .. => false

/-- A new endpoint, or one that has just called `createFrame`. -/
def Endpoint.Starts (p : Endpoint) (direction : FrameDirection) : Prop :=
  ∃ id confirmation, p = .new id direction confirmation ∨
    ∃ f : StreamEvent, f.decrypts = false ∧ (Endpoint.new id direction confirmation).step f = some p

theorem Endpoint.Starts.run {p : Endpoint} {direction : FrameDirection} (h : p.Starts direction) :
    ∃ id confirmation fs, Run (Step Endpoint.step) (.new id direction confirmation) fs p := by
  obtain ⟨id, confirmation, rfl | ⟨f, _, hf⟩⟩ := h
  · exact ⟨id, confirmation, [], .nil _⟩
  · exact ⟨id, confirmation, [f], .single hf⟩

namespace Engine

variable {runtime : Runtime} {e e' : Engine} {event : EngineEvent}

/-! ## What the events do to the suspended calls -/

/-- The calls of `createFrame` that await `encrypt`. -/
def encryptCalls (e : Engine) : List EncryptCall := e.sends.filterMap SendStatus.suspended

/-- The call of `receiveFrame` that awaits `decrypt`. -/
def decryptCall (e : Engine) : Option DecryptCall := e.receiving.bind ReceivePc.decryptCall

theorem suspended_settleWaits (sends : List SendStatus) {next : EncryptCall → Bytes → SendStatus}
    (hnext : ∀ call frame, (SendStatus.waiting call frame).Shifts (next call frame)) :
    (settleWaits sends next).filterMap SendStatus.suspended =
      sends.filterMap SendStatus.suspended :=
  Entries.filterMap_eq_of_forall₂ ((shifts_settleWaits sends hnext).imp fun _ _ h => h.suspended_eq)

/-- Of the events that go on with calls of `sendFrame`, only `encrypted`
touches the suspended ones. -/
theorem moves_suspended (hevent : event.moves = true)
    (hencrypted : ∀ send result, event ≠ .encrypted send result)
    (h : e.step runtime event = some e') :
    e'.stream = e.stream ∧ e'.encryptCalls = e.encryptCalls := by
  cases step_moves h with
  | closed =>
    have hline := fail_line (e.setReadyState .closed)
      (.protocol (protocolError "The data channel closed." "channel_closed")) true
    refine ⟨hline.1, ?_⟩
    refine (suspended_settleWaits _ fun _ _ => .inr ⟨.inl rfl, .inl rfl⟩).trans ?_
    rw [hline.2.1]
    rfl
  | @errored error =>
    have hline := fail_line e (.protocol error) true
    refine ⟨hline.1, ?_⟩
    refine (suspended_settleWaits _ fun _ _ => .inr ⟨.inl rfl, .inl rfl⟩).trans ?_
    rw [hline.2.1]
    rfl
  | capacityFreed =>
    exact ⟨rfl, suspended_settleWaits _ fun _ _ => .inr ⟨.inl rfl, .inr ⟨rfl, rfl⟩⟩⟩
  | capacityKept => exact ⟨rfl, rfl⟩
  | encrypted => exact absurd rfl (hencrypted _ _)
  | capacity hsend hnext =>
    exact ⟨rfl,
      Entries.filterMap_set_eq hsend (waitForDataChannelCapacity_shifts hnext).suspended_eq⟩
  | transmit hsend hnext =>
    refine ⟨rfl, Entries.filterMap_set_eq hsend ?_⟩
    unfold transmitSend at hnext
    split at hnext
    · split_ifs at hnext <;> cases hnext <;> rfl
    · cases hnext
      rfl
    · cases hnext
  | _ => cases hevent

/-- The stream stays when no call of `sendFrame` goes on and none is made. -/
theorem stream_eq_of_sends_eq (h : e.step runtime event = some e') (hsends : e'.sends = e.sends)
    (hevent : ∀ result, event ≠ .decrypted result) : e'.stream = e.stream := by
  cases step_line h with
  | posted _ hposted =>
    rcases hposted with ⟨hstream, _⟩ | ⟨type, status, _, _, hposted⟩
    · exact hstream
    · rw [hsends] at hposted
      have hlength := congrArg List.length hposted
      simp at hlength
  | shifted _ hstream _ => exact hstream
  | @sealed send call frame _ hsend _ _ hset =>
    have hlt := (List.getElem?_eq_some_iff.1 hsend).1
    rw [hset] at hsends
    rw [← hsends, List.getElem?_set_self hlt] at hsend
    cases hsend
  | @unsealed send call error _ hsend _ hset =>
    have hlt := (List.getElem?_eq_some_iff.1 hsend).1
    rw [hset] at hsends
    rw [← hsends, List.getElem?_set_self hlt] at hsend
    cases hsend
  | sent _ _ hstream _ => exact hstream
  | received hdecrypted => exact absurd hdecrypted (hevent _)

theorem handleConfirmation_handles (e : Engine) :
    e.handleConfirmation.2.all ReceivePc.handles = true := by
  unfold handleConfirmation
  split <;> rfl

/-- A handler never goes back to `receiveFrame`. -/
theorem handleFrame_handles (e : Engine) (runtime : Runtime) (header : FrameHeader)
    (value : Bytes) :
    (e.handleFrame runtime header value).2.all ReceivePc.handles = true := by
  unfold handleFrame
  split
  · exact handleConfirmation_handles e
  · unfold handleFileOffer verifyOffer
    split
    · rfl
    · split
      · split <;> rfl
      · rfl
  · unfold handleAccept
    split <;> rfl
  · unfold handleManifest
    split
    · rfl
    · dsimp only
      split_ifs <;> rfl
  · unfold handleChunk
    split <;> rfl
  · unfold handleComplete compareDigest verifyComplete
    split
    · rfl
    · split
      · rfl
      · split
        · rfl
        · split_ifs
          · rfl
          · split
            · split <;> rfl
            · rfl
  · unfold handleReceipt
    split <;> rfl
  all_goals
    unfold handleTerminalPayload
    split <;> rfl

theorem verified_handles (h : e.step runtime .verified = some e') :
    e'.receiving.all ReceivePc.handles = true := by
  cases step_moves h with
  | verifiedOffer =>
    unfold goOn verifiedOffer
    split_ifs
    · rfl
    · dsimp only
      split_ifs
      · split <;> rfl
      · rfl
  | verifiedComplete =>
    unfold goOn verifiedComplete
    split_ifs
    · rfl
    · dsimp only
      split
      · rfl
      · split <;> rfl

theorem resumeHandler_handles {pc : ReceivePc} {next : Engine × Option ReceivePc}
    (h : e.resumeHandler pc = some next) : next.2.all ReceivePc.handles = true := by
  unfold resumeHandler at h
  dsimp only at h
  split at h
  · obtain ⟨⟨e₁, pc₁⟩, _, h₂⟩ := Option.map_eq_some_iff.1 h
    cases h₂
    rfl
  · cases h
    rfl
  · cases h
    rfl
  · rcases afterSend_cases h with ⟨_, h⟩ | ⟨error, _, h⟩ <;> cases h <;> rfl
  · rcases afterSend_cases h with ⟨_, h⟩ | ⟨error, _, h⟩ <;> cases h <;> rfl
  · cases h

/-- Only `bytesRead` and `decrypted` touch the call of `receiveFrame`. -/
theorem step_decryptCall (h : e.step runtime event = some e')
    (hread : ∀ failure, event ≠ .bytesRead failure)
    (hdecrypted : ∀ result, event ≠ .decrypted result) : e'.decryptCall = e.decryptCall := by
  by_cases hreceives : event.receives = false
  · rw [decryptCall, (step_advances h).receiving hreceives]
    rfl
  -- a handler is suspended elsewhere, before and after
  have hhandles : ∀ {pc : ReceivePc} {next : Engine × Option ReceivePc}, e.receiving = some pc →
      pc.decryptCall = none → next.2.all ReceivePc.handles = true →
      (goOn next).decryptCall = e.decryptCall := by
    intro pc next hreceiving hpc hnext
    have hbefore : e.decryptCall = none := by rw [decryptCall, hreceiving]; exact hpc
    exact (ReceivePc.decryptCall_of_handles hnext).trans hbefore.symm
  cases step_moves h with
  | bytesRead => exact absurd rfl (hread _)
  | decrypted => exact absurd rfl (hdecrypted _)
  | @dequeueRefused _ queue error =>
    unfold decryptCall
    rw [(serves_fail { e with queue } error true).receiving]
  | dequeue hidle =>
    unfold decryptCall
    rw [hidle]
    rfl
  | handle hpc => exact hhandles hpc rfl (handleFrame_handles e runtime _ _)
  | offerKeyRefused hpc | completeKeyRefused hpc => exact hhandles hpc rfl rfl
  | offerKey hpc =>
    refine hhandles hpc rfl ?_
    unfold verifyOffer
    split <;> rfl
  | completeKey hpc =>
    refine hhandles hpc rfl ?_
    unfold verifyComplete
    split <;> rfl
  | verifiedOffer hpc | verifiedComplete hpc => exact hhandles hpc rfl (verified_handles h)
  | @resumeHandler pc next hpc hnext =>
    refine hhandles hpc ?_ (resumeHandler_handles hnext)
    cases pc with
    | decrypting call => cases hnext
    | _ => rfl
  | caught hpc =>
    unfold decryptCall
    rw [hpc]
    rfl
  | _ => exact absurd rfl hreceives

/-! ## The record -/

/-- The calls of `encrypt` that were made since an earlier state. -/
def newCalls (e e' : Engine) : List EncryptCall :=
  (e'.sends.drop e.sends.length).filterMap SendStatus.suspended

theorem newCalls_of_length (h : e'.sends.length = e.sends.length) : e.newCalls e' = [] := by
  rw [newCalls, ← h, List.drop_length]
  rfl

/-- A frame that is passed to `sendFrame` makes a call of `encrypt`, or the call throws at once. -/
theorem Passes.newCalls_cases {frame : Option (FrameType × Bytes)} (h : Passes e e' frame) :
    e.newCalls e' = [] ∧ (∀ f ∈ frame, ∃ error, e'.sends = e.sends ++ [.settled (.error error)]) ∨
      ∃ type body call, frame = some (type, body) ∧ e.newCalls e' = [call] ∧
        e'.sends = e.sends ++ [.encrypting call] ∧
        e.stream.createFrame e.options.keys.sendKey e.options.keys.sendNoncePrefix type body =
          (e'.stream, .ok call) := by
  have hnew : ∀ status, e'.sends = e.sends ++ [status] →
      e.newCalls e' = status.suspended.toList := by
    intro status hsends
    rw [newCalls, hsends, List.drop_left]
    cases hs : status.suspended <;> simp [hs]
  cases h with
  | nothing hsends => exact .inl ⟨newCalls_of_length (by rw [hsends]), fun _ hf => by cases hf⟩
  | @frame type body status hissued hsends =>
    have hcalls := hnew status hsends
    generalize hstream : e'.stream = stream at hissued
    cases hissued with
    | thrown error => exact .inl ⟨hcalls, fun _ _ => ⟨_, hsends⟩⟩
    | failed _ => exact .inl ⟨hcalls, fun _ _ => ⟨_, hsends⟩⟩
    | suspended hcreate => exact .inr ⟨type, body, _, rfl, hcalls, hsends, hcreate⟩

theorem CourseStep.passes {unicode : Unicode} (h : CourseStep unicode event e e') :
    e.newCalls e' = [] ∨ ∃ frame, Passes e e' frame := by
  cases h with
  | apart _ hpasses =>
    obtain ⟨frame, hpasses, _⟩ := hpasses
    exact .inr ⟨frame, hpasses⟩
  | called _ _ _ hpasses =>
    obtain ⟨frame, hpasses, _⟩ := hpasses
    exact .inr ⟨frame, hpasses⟩
  | went _ _ hcourses =>
    obtain ⟨frame, _, hpasses⟩ := hcourses
    exact .inr ⟨frame, hpasses⟩
  | moved _ _ hlength => exact .inl (newCalls_of_length hlength)

/-- The keys of an engine. -/
def Keyed (e : Engine) (call : EncryptCall) : Prop :=
  call.key = e.options.keys.sendKey ∧ call.noncePrefix = e.options.keys.sendNoncePrefix

theorem newCalls_keyed (hterminal : e.TerminalTypes) (h : e.step runtime event = some e') :
    ∀ call ∈ e.newCalls e', e.Keyed call := by
  rcases (step_courseStep hterminal h).passes with hnil | ⟨frame, hpasses⟩
  · simp [hnil]
  · rcases hpasses.newCalls_cases with ⟨hnil, _⟩ | ⟨type, body, call, _, hnew, _, hcreate⟩
    · simp [hnil]
    · obtain ⟨_, _, _, _, _, _, rfl⟩ := FrameStream.createFrame_eq_ok.1 hcreate
      simp [hnew, Keyed]

/-- The call of `encrypt` that the event fulfils, with the ciphertext. -/
def fulfilled (e : Engine) : EngineEvent → List (EncryptCall × Bytes)
  | .encrypted send (some ciphertext) =>
    ((e.sends[send]?.bind SendStatus.suspended).map fun call => (call, ciphertext)).toList
  | _ => []

/-- What `receiveFrame` returned in the event that led to this state. -/
def returned (e : Engine) : EngineEvent → List (FrameType × Bytes)
  | .decrypted _ =>
    match e.receiving with
    | some (.received header plaintext) => [(header.type, plaintext)]
    | _ => []
  | _ => []

end Engine

/-- An engine with a record of its calls of Web Crypto; no step of the engine reads the record. -/
structure Side where
  engine : Engine
  /-- Every invocation of `encrypt`, in order. -/
  encryptions : List EncryptCall
  /-- The invocations of `encrypt` that were fulfilled, with the ciphertext. -/
  encrypted : List (EncryptCall × Bytes)
  /-- What `receiveFrame` returned, in order. -/
  received : List (FrameType × Bytes)
  deriving DecidableEq, Repr

namespace Side

variable {runtime : Runtime} {s t : Side} {event : EngineEvent}

/-- The record of an engine that was just constructed. -/
def of (e : Engine) : Side := ⟨e, e.encryptCalls, [], []⟩

/-- The step of the engine, with the record. -/
def step (runtime : Runtime) (s : Side) (event : EngineEvent) : Option Side :=
  (s.engine.step runtime event).map fun e => {
    engine := e
    encryptions := s.encryptions ++ s.engine.newCalls e
    encrypted := s.encrypted ++ s.engine.fulfilled event
    received := s.received ++ e.returned event }

/-- The frames that `createFrame` returned: those whose ciphertext has the right length. -/
def created (s : Side) : List (EncryptCall × Bytes) :=
  (s.encrypted.filter fun x => x.2.length = x.1.plaintext.length + frameTagBytes).map fun x =>
    (x.1, x.1.additionalData ++ x.2)

/-- The endpoint that the engine is, as far as frames go. -/
def endpoint (s : Side) : Endpoint where
  stream := s.engine.stream
  encrypting := s.engine.encryptCalls
  decrypting := s.engine.decryptCall.toList
  encryptions := s.encryptions
  encrypted := s.encrypted
  created := s.created
  received := s.received

theorem step_engine (h : s.step runtime event = some t) :
    s.engine.step runtime event = some t.engine := by
  obtain ⟨e, he, rfl⟩ := Option.map_eq_some_iff.1 h
  exact he

/-! ## Refinement -/

/-- A ciphertext of the right length makes a frame. -/
theorem created_append_ok {call : EncryptCall} {ciphertext : Bytes}
    (hlen : ciphertext.length = call.plaintext.length + frameTagBytes) :
    created { s with encrypted := s.encrypted ++ [(call, ciphertext)] } =
      s.created ++ [(call, call.additionalData ++ ciphertext)] := by
  simp [created, List.filter_append, hlen]

theorem created_append_lost {call : EncryptCall} {result : Option Bytes}
    (hlost : ∀ c ∈ result, c.length ≠ call.plaintext.length + frameTagBytes) :
    created { s with encrypted := s.encrypted ++ result.toList.map (Prod.mk call) } =
      s.created := by
  cases result with
  | none => simp [created]
  | some c =>
    have hc := hlost c rfl
    simp [created, List.filter_append, hc]

/-- The outcome of `encrypt` arrives. -/
theorem endpoint_encrypted {send : ℕ} {result : Option Bytes}
    (h : s.step runtime (.encrypted send result) = some t) :
    ∃ place, s.endpoint.step (.encrypted place result) = some t.endpoint := by
  obtain ⟨e, he, rfl⟩ := Option.map_eq_some_iff.1 h
  simp only [Engine.step, Option.bind_eq_bind, Option.bind_eq_some_iff] at he
  obtain ⟨status, hstatus, ⟨stream, next⟩, hnext, he⟩ := he
  cases he
  cases status with
  | encrypting call =>
    have hnone : next.suspended = none := by
      simp only [Engine.encryptedSend] at hnext
      split at hnext <;> cases hnext <;> rfl
    obtain ⟨place, hplace, hset⟩ :=
      Entries.exists_eraseIdx_filterMap (f := SendStatus.suspended) (t := next)
      (show (SendStatus.encrypting call).suspended = some call from rfl) hnone hstatus
    have hplace' : s.endpoint.encrypting[place]? = some call := hplace
    have hfulfilled : s.engine.fulfilled (.encrypted send result) =
        result.toList.map (Prod.mk call) := by
      cases result with
      | none => rfl
      | some c => simp [Engine.fulfilled, hstatus, SendStatus.suspended]
    have hnew : s.engine.newCalls { s.engine.setSend send next with stream } = [] :=
      Engine.newCalls_of_length List.length_set
    refine ⟨place, ?_⟩
    simp only [Endpoint.step, hplace', Option.bind_eq_bind, Option.bind_some, hfulfilled]
    simp only [Engine.encryptedSend] at hnext
    have hstream : s.endpoint.stream = s.engine.stream := rfl
    rw [hstream]
    rcases hresume : s.engine.stream.createFrameResume call result with ⟨stream', error | frame⟩ <;>
      rw [hresume] at hnext <;> cases hnext
    · have hlost : ∀ c ∈ result, c.length ≠ call.plaintext.length + frameTagBytes := by
        rintro c hc hlen
        have hok : s.engine.stream.createFrameResume call result = (_, .ok _) :=
          FrameStream.createFrameResume_eq_ok.2 ⟨rfl, c, hc, hlen, rfl⟩
        cases congrArg Prod.snd (hok.symm.trans hresume)
      have hcreated := created_append_lost (s := s) hlost
      simp only [endpoint, Engine.encryptCalls, Engine.decryptCall, Engine.setSend,
        Option.some.injEq,
        Endpoint.mk.injEq, Engine.returned, List.append_nil, and_true, true_and] at hset hnew ⊢
      refine ⟨hset.symm, ?_, ?_⟩
      · rw [hnew, List.append_nil]
      · exact hcreated.symm
    · obtain ⟨_, ciphertext, rfl, hlen, rfl⟩ := FrameStream.createFrameResume_eq_ok.1 hresume
      have hcreated := created_append_ok (s := s) hlen
      simp only [endpoint, Engine.encryptCalls, Engine.decryptCall, Engine.setSend,
        Option.some.injEq,
        Endpoint.mk.injEq, Engine.returned, List.append_nil, and_true, true_and] at hset hnew ⊢
      refine ⟨hset.symm, ?_, ?_⟩
      · rw [hnew, List.append_nil]
      · exact hcreated.symm
  | created | waiting | passed | refused | settled => cases hnext

/-- The outcome of `decrypt` arrives. -/
theorem endpoint_decrypted {result : Option Bytes}
    (h : s.step runtime (.decrypted result) = some t) :
    s.endpoint.step (.decrypted 0 result) = some t.endpoint := by
  obtain ⟨e, he, rfl⟩ := Option.map_eq_some_iff.1 h
  simp only [Engine.step] at he
  split at he <;> cases he
  rename_i call hcall
  have hdecrypt : s.engine.decryptCall = some call := by
    rw [Engine.decryptCall, hcall]
    rfl
  have hplace : s.endpoint.decrypting[0]? = some call := by
    show s.engine.decryptCall.toList[0]? = some call
    rw [hdecrypt]
    rfl
  have herased : s.endpoint.decrypting.eraseIdx 0 = [] := by
    show s.engine.decryptCall.toList.eraseIdx 0 = []
    rw [hdecrypt]
    rfl
  have hstream : s.endpoint.stream = s.engine.stream := rfl
  simp only [Endpoint.step, hplace, herased, Option.bind_eq_bind, Option.bind_some, hstream,
    Engine.openFrame]
  rcases s.engine.stream.receiveFrameResume call result with
    ⟨stream, error | ⟨header, plaintext⟩⟩ <;>
    simp [endpoint, created, Engine.goOn, Engine.newCalls, Engine.encryptCalls, Engine.decryptCall,
      Engine.fulfilled,
      Engine.returned, ReceivePc.decryptCall]

/-- A message was read: `receiveFrame` is called with its bytes, or the reading fails. -/
theorem endpoint_bytesRead {failure : Option String}
    (h : s.step runtime (.bytesRead failure) = some t) :
    t.endpoint = s.endpoint ∨ ∃ f : StreamEvent, f.decrypts = false ∧
      s.endpoint.step f = some t.endpoint := by
  obtain ⟨e, he, rfl⟩ := Option.map_eq_some_iff.1 h
  simp only [Engine.step] at he
  split at he <;> cases he
  rename_i data hdata
  have hbefore : s.engine.decryptCall = none := by
    rw [Engine.decryptCall, hdata]
    rfl
  -- the record and everything but the call of `receiveFrame` stay
  have hkept : ∀ pc, (({
      engine := { s.engine with receiving := some pc }
      encryptions := s.encryptions ++ s.engine.newCalls { s.engine with receiving := some pc }
      encrypted := s.encrypted ++ s.engine.fulfilled (.bytesRead failure)
      received := s.received ++ ({ s.engine with receiving := some pc } : Engine).returned
        (.bytesRead failure) } : Side).endpoint) =
      { s.endpoint with decrypting := pc.decryptCall.toList } := by
    intro pc
    simp [endpoint, created, Engine.newCalls, Engine.encryptCalls, Engine.decryptCall,
      Engine.fulfilled,
      Engine.returned]
  have hsame : ({ s.endpoint with decrypting := [] } : Endpoint) = s.endpoint := by
    simp [endpoint, hbefore]
  rw [hkept]
  unfold Engine.readMessage
  split
  · exact .inl hsame
  · split
    · exact .inl hsame
    case h_2 call hcall =>
      obtain ⟨bytes, _, hreceive⟩ := bind_eq_ok.1 hcall
      refine .inr
        ⟨.receiveFrame s.engine.options.keys.receiveKey s.engine.options.keys.receiveNoncePrefix
        bytes, rfl, ?_⟩
      have hstream : s.endpoint.stream = s.engine.stream := rfl
      have hdecrypting : s.endpoint.decrypting = [] := by simp [endpoint, hbefore]
      simp [Endpoint.step, hstream, hreceive, hdecrypting, ReceivePc.decryptCall]

/-- Only `encrypted` and `decrypted` add to the rest of the record. -/
theorem endpoint_quiet {e : Engine} (hfulfilled : s.engine.fulfilled event = [])
    (hreturned : e.returned event = []) (hstream : e.stream = s.engine.stream)
    (hcalls : e.encryptCalls = s.engine.encryptCalls)
    (hdecrypt : e.decryptCall = s.engine.decryptCall)
    (hlength : e.sends.length = s.engine.sends.length) :
    endpoint {
      engine := e
      encryptions := s.encryptions ++ s.engine.newCalls e
      encrypted := s.encrypted ++ s.engine.fulfilled event
      received := s.received ++ e.returned event } = s.endpoint := by
  rw [hfulfilled, hreturned, Engine.newCalls_of_length hlength]
  simp [endpoint, created, hstream, hcalls, hdecrypt]

/-- The step calls `sendFrame`. -/
theorem endpoint_passes {e : Engine} {frame : Option (FrameType × Bytes)}
    (hpasses : Engine.Passes s.engine e frame) (hfulfilled : s.engine.fulfilled event = [])
    (hreturned : e.returned event = [])
    (hstream : e.sends = s.engine.sends → e.stream = s.engine.stream)
    (hdecrypt : e.decryptCall = s.engine.decryptCall) :
    let t : Side := {
      engine := e
      encryptions := s.encryptions ++ s.engine.newCalls e
      encrypted := s.encrypted ++ s.engine.fulfilled event
      received := s.received ++ e.returned event }
    t.endpoint = s.endpoint ∨ ∃ f : StreamEvent, f.decrypts = false ∧
        s.endpoint.step f = some t.endpoint := by
  intro t
  cases hpasses with
  | nothing hsends =>
    have hcalls : e.encryptCalls = s.engine.encryptCalls := by
      rw [Engine.encryptCalls, hsends]
      rfl
    exact .inl (endpoint_quiet hfulfilled hreturned (hstream hsends) hcalls hdecrypt
      (by rw [hsends]))
  | @frame type body status hissued hsends =>
    have ht : t.endpoint = { s.endpoint with
        stream := e.stream
        encrypting := s.endpoint.encrypting ++ status.suspended.toList
        encryptions := s.endpoint.encryptions ++ status.suspended.toList } := by
      have hnew : [status].filterMap SendStatus.suspended = status.suspended.toList := by
        cases hs : status.suspended <;> simp [hs]
      simp [t, endpoint, created, hfulfilled, hreturned, hsends, hdecrypt, Engine.newCalls,
        Engine.encryptCalls, hnew]
    rw [ht]
    generalize e.stream = stream at hissued
    cases hissued with
    | thrown error => exact .inl (by simp [SendStatus.suspended, endpoint])
    | @failed stream error hcreate =>
      refine .inr
        ⟨.createFrame s.engine.options.keys.sendKey s.engine.options.keys.sendNoncePrefix type
        body, rfl, ?_⟩
      have hcreate' : s.endpoint.stream.createFrame _ _ _ _ = _ := hcreate
      simp [Endpoint.step, hcreate', SendStatus.suspended]
    | @suspended stream call hcreate =>
      refine .inr
        ⟨.createFrame s.engine.options.keys.sendKey s.engine.options.keys.sendNoncePrefix type
        body, rfl, ?_⟩
      have hcreate' : s.endpoint.stream.createFrame _ _ _ _ = _ := hcreate
      simp [Endpoint.step, hcreate', SendStatus.suspended]

/-- An event of the engine is one event of the endpoint, or leaves it as it is; only the outcome of
`decrypt` is the outcome of `decrypt`. -/
theorem step_endpoint (hterminal : s.engine.TerminalTypes) (h : s.step runtime event = some t) :
    t.endpoint = s.endpoint ∨ ∃ f : StreamEvent, s.endpoint.step f = some t.endpoint ∧
      (f.decrypts = false ∨ ∃ result, event = .decrypted result ∧ f = .decrypted 0 result) := by
  have hquiet : ∀ {t : Side}, (t.endpoint = s.endpoint ∨
      ∃ f : StreamEvent, f.decrypts = false ∧ s.endpoint.step f = some t.endpoint) →
      t.endpoint = s.endpoint ∨ ∃ f : StreamEvent, s.endpoint.step f = some t.endpoint ∧
        (f.decrypts = false ∨ ∃ result, event = .decrypted result ∧ f = .decrypted 0 result) := by
    rintro t (hsame | ⟨f, hf, hstep⟩)
    · exact .inl hsame
    · exact .inr ⟨f, hstep, .inl hf⟩
  by_cases hencrypted : ∃ send result, event = .encrypted send result
  · obtain ⟨send, result, rfl⟩ := hencrypted
    obtain ⟨place, hplace⟩ := endpoint_encrypted h
    exact .inr ⟨_, hplace, .inl rfl⟩
  by_cases hdecrypted : ∃ result, event = .decrypted result
  · obtain ⟨result, rfl⟩ := hdecrypted
    exact .inr ⟨_, endpoint_decrypted h, .inr ⟨result, rfl, rfl⟩⟩
  by_cases hread : ∃ failure, event = .bytesRead failure
  · obtain ⟨failure, rfl⟩ := hread
    exact hquiet (endpoint_bytesRead h)
  simp only [not_exists] at hencrypted hdecrypted hread
  obtain ⟨e, he, rfl⟩ := Option.map_eq_some_iff.1 h
  have hfulfilled : s.engine.fulfilled event = [] := by
    unfold Engine.fulfilled
    split
    · exact absurd rfl (hencrypted _ _)
    · rfl
  have hreturned : e.returned event = [] := by
    unfold Engine.returned
    split
    · exact absurd rfl (hdecrypted _)
    · rfl
  have hdecrypt := Engine.step_decryptCall he hread hdecrypted
  have hstream := fun hsends => Engine.stream_eq_of_sends_eq he hsends hdecrypted
  cases Engine.step_courseStep hterminal he with
  | apart _ hpasses =>
    obtain ⟨frame, hpasses, _⟩ := hpasses
    exact hquiet (endpoint_passes hpasses hfulfilled hreturned hstream hdecrypt)
  | called _ _ _ hpasses =>
    obtain ⟨frame, hpasses, _⟩ := hpasses
    exact hquiet (endpoint_passes hpasses hfulfilled hreturned hstream hdecrypt)
  | went _ _ hcourses =>
    obtain ⟨frame, _, hpasses⟩ := hcourses
    exact hquiet (endpoint_passes hpasses hfulfilled hreturned hstream hdecrypt)
  | moved hevent _ hlength =>
    obtain ⟨hstream, hcalls⟩ := Engine.moves_suspended hevent hencrypted he
    exact .inl (endpoint_quiet hfulfilled hreturned hstream hcalls hdecrypt hlength)

/-! ## Runs -/

/-- The record never stands in the way of the engine. -/
theorem exists_run {e e' : Engine} {es : List EngineEvent}
    (h : Run (Step (Engine.step runtime)) e es e')
    {s : Side} (hs : s.engine = e) : ∃ t :
    Side, t.engine = e' ∧ Run (Step (step runtime)) s es t := by
  induction h generalizing s with
  | nil => exact ⟨s, hs, .nil s⟩
  | @cons a b c event es hstep hrun ih =>
    subst hs
    have hstep' : ∃ t : Side, t.engine = b ∧ s.step runtime event = some t := by
      unfold step
      rw [show s.engine.step runtime event = some b from hstep]
      exact ⟨_, rfl, rfl⟩
    obtain ⟨t, ht, hst⟩ := hstep'
    obtain ⟨u, hu, hrun'⟩ := ih ht
    exact ⟨u, hu, .cons hst hrun'⟩

/-- The endpoint of an engine that was just constructed has called `createFrame` at most. -/
theorem endpoint_of {o : ConstructorOptions} {registry : InboundTransferRegistry}
    {readyState : ReadyState} {e : Engine} (h : Engine.construct o registry readyState = .ok e) :
    (of e).endpoint.Starts (if o.role = .sender then .s2r else .r2s) := by
  obtain ⟨options, stream, registry', _, hstream, hcases⟩ := Engine.construct_cases h
  simp only [FrameStream.create, bind_eq_ok, pure_eq_ok] at hstream
  obtain ⟨id, _, _, _, rfl⟩ := hstream
  refine ⟨id, some o.material.confirmation, ?_⟩
  rcases hcases with ⟨_, rfl⟩ | ⟨rfl, rfl⟩
  · exact .inl rfl
  · let e₀ := Engine.initial options o.accepted
      (.fresh id (if o.role = .sender then .s2r else .r2s) (some o.material.confirmation))
        registry' .opened
    obtain ⟨frame, hpasses, _⟩ := Engine.PassesApart.start e₀
    have hpasses' : Engine.Passes e₀ e₀.onOpen frame := hpasses.congr rfl rfl rfl rfl rfl
    have hkept : e₀.onOpen.sends = e₀.sends → e₀.onOpen.stream = e₀.stream := by
      intro hsends
      cases hpasses' with
      | nothing _ =>
        show e₀.start.1.stream = e₀.stream
        rcases (Engine.serves_start e₀).sends with ⟨hs, _⟩ | ⟨type, status, _, _, hl⟩
        · exact hs
        · have hsame : e₀.start.1.sends = e₀.sends := hsends
          rw [hl] at hsame
          exact absurd (congrArg List.length hsame) (by simp)
      | frame _ hl =>
        rw [hl] at hsends
        exact absurd (congrArg List.length hsends) (by simp)
    have hdecrypt : e₀.onOpen.decryptCall = e₀.decryptCall := by
      show e₀.start.1.decryptCall = e₀.decryptCall
      unfold Engine.decryptCall
      rw [(Engine.serves_start e₀).receiving]
    have hquiet : e₀.fulfilled .start = [] ∧ e₀.onOpen.returned .start = [] := ⟨rfl, rfl⟩
    have hend := endpoint_passes (s := of e₀) hpasses' hquiet.1 hquiet.2 hkept hdecrypt
    have hnew : (of e₀).endpoint = .new id (if o.role = .sender then .s2r else .r2s)
      (some o.material.confirmation) := rfl
    rw [← hnew]
    exact hend

/-- A run of the engine is a run of the endpoint. -/
theorem run_endpoint {es : List EngineEvent} (hterminal : s.engine.TerminalTypes)
    (h : Run (Step (step runtime)) s es t) :
    ∃ fs, Run (Step Endpoint.step) s.endpoint fs t.endpoint := by
  induction h with
  | nil => exact ⟨[], .nil _⟩
  | cons hstep _ ih =>
    obtain ⟨fs, hfs⟩ := ih (Engine.terminalTypes_step hterminal (step_engine hstep))
    rcases step_endpoint hterminal hstep with hsame | ⟨event, hevent, _⟩
    · exact ⟨fs, hsame ▸ hfs⟩
    · exact ⟨event :: fs, .cons hevent hfs⟩

/-! ## The calls of `encrypt` -/

theorem step_encryptions (h : s.step runtime event = some t) :
    t.encryptions = s.encryptions ++ s.engine.newCalls t.engine := by
  obtain ⟨e, _, rfl⟩ := Option.map_eq_some_iff.1 h
  rfl

/-- Every call of `encrypt` uses the keys that the engine was constructed with. -/
theorem keyed_step (hterminal : s.engine.TerminalTypes)
    (hkeys : ∀ call ∈ s.encryptions, s.engine.Keyed call)
    (h : s.step runtime event = some t) : ∀ call ∈ t.encryptions, t.engine.Keyed call := by
  have hoptions := (Engine.step_advances (step_engine h)).options
  rw [step_encryptions h]
  unfold Engine.Keyed
  rw [hoptions]
  exact List.forall_mem_append.2 ⟨hkeys, Engine.newCalls_keyed hterminal (step_engine h)⟩

theorem keyed_of {o : ConstructorOptions} {registry : InboundTransferRegistry}
    {readyState : ReadyState}
    {e : Engine} (h : Engine.construct o registry readyState = .ok e) :
    ∀ call ∈ (of e).encryptions, e.Keyed call := by
  obtain ⟨options, stream, registry', _, _, hcases⟩ := Engine.construct_cases h
  rcases hcases with ⟨_, rfl⟩ | ⟨_, rfl⟩
  · exact List.forall_mem_nil _
  · let e₀ := Engine.initial options o.accepted stream registry' readyState
    obtain ⟨frame, hpasses, _⟩ := Engine.PassesApart.start e₀
    have hpasses' : Engine.Passes e₀ e₀.onOpen frame := hpasses.congr rfl rfl rfl rfl rfl
    have hoptions : e₀.onOpen.options = e₀.options := (Engine.serves_start e₀).options
    show ∀ call ∈ e₀.newCalls e₀.onOpen, e₀.onOpen.Keyed call
    unfold Engine.Keyed
    rw [hoptions]
    rcases hpasses'.newCalls_cases with ⟨hnil, _⟩ | ⟨type, body, call, _, hnew, _, hcreate⟩
    · simp [hnil]
    · obtain ⟨_, _, _, _, _, _, rfl⟩ := FrameStream.createFrame_eq_ok.1 hcreate
      simp [hnew]

/-- An engine never uses a nonce twice: in every run its calls of `encrypt` share the key and the
prefix of the handshake, and their nonces are distinct, however the calls of `sendFrame` overlap and
whatever fails. -/
theorem engine_nonces_distinct {o : ConstructorOptions} {registry : InboundTransferRegistry}
    {readyState : ReadyState} {e : Engine} {es : List EngineEvent}
    (h : Engine.construct o registry readyState = .ok e)
    (hrun : Run (Step (step runtime)) (of e) es t) :
    (∀ call ∈ t.encryptions, call.key = e.options.keys.sendKey ∧
      call.noncePrefix = e.options.keys.sendNoncePrefix ∧
      frameNonce call.noncePrefix call.header.counter = .ok call.iv) ∧
    (t.encryptions.map EncryptCall.iv).Nodup := by
  obtain ⟨id, confirmation, fs, hfs⟩ := (endpoint_of h).run
  obtain ⟨fs', hfs'⟩ := run_endpoint (Engine.terminalTypes_construct h) hrun
  obtain ⟨_, hdistinct, hnonce, _⟩ := Endpoint.encrypt_nonces_distinct (hfs.append hfs')
  have hkeyed : t.engine.options = e.options ∧ t.engine.TerminalTypes ∧
      ∀ call ∈ t.encryptions, t.engine.Keyed call := by
    refine hrun.invariant (I := fun s => s.engine.options = e.options ∧ s.engine.TerminalTypes ∧
      ∀ call ∈ s.encryptions, s.engine.Keyed call) ⟨rfl, Engine.terminalTypes_construct h,
        keyed_of h⟩ ?_
    rintro a event b ⟨hoptions, hterminal, hkeys⟩ hstep
    exact ⟨(Engine.step_advances (step_engine hstep)).options.trans hoptions,
      Engine.terminalTypes_step hterminal (step_engine hstep), keyed_step hterminal hkeys hstep⟩
  refine ⟨fun call hcall => ?_, hdistinct⟩
  obtain ⟨hkey, hprefix⟩ := hkeyed.2.2 call hcall
  rw [hkeyed.1] at hkey hprefix
  exact ⟨hkey, hprefix, (hnonce call hcall).2⟩

/-- The confirmations are exchanged, and two calls of `reject` overlap in `encrypt`. -/
def overlappingRejects : List EngineEvent :=
  Engine.sampleConfirm .r2s ++ [.reject (js "rejected"), .reject (js "rejected"),
    .resume 1, .resume 1,
    .resume 2, .resume 2]

theorem engine_nonces_distinct_sample :
    ∃ e s, Engine.construct (Engine.sampleOptions .sender) ⟨[]⟩ .opened = .ok e ∧
      Run (Step (step Engine.sampleRuntime)) (of e) overlappingRejects s ∧
      s.encryptions.length = 3 ∧
      (∀ call ∈ s.encryptions, call.key = e.options.keys.sendKey ∧
        call.noncePrefix = e.options.keys.sendNoncePrefix ∧
        frameNonce call.noncePrefix call.header.counter = .ok call.iv) ∧
      (s.encryptions.map EncryptCall.iv).Nodup := by
  have h : Engine.Reaches (Engine.step Engine.sampleRuntime)
    (Engine.sampleOptions .sender) .opened []
      fun e => ∃ s ∈ exec (step Engine.sampleRuntime) (of e) overlappingRejects,
          s.encryptions.length = 3 := by
    decide +kernel
  obtain ⟨e, _, he, hnil, s, hexec, hlength⟩ := h.exec
  cases hnil
  have hrun := Run.of_exec hexec
  exact ⟨e, s, he, hrun, hlength, engine_nonces_distinct he hrun⟩

end Side

end SelfRelay
