import SelfRelay.Session.OneHandshake

/-!
# Closed sessions

`start` and `handleSignal` look whether the session is closed, and so does the close handler of a
data channel.  The other callers of `setState` do not: the handlers of the peer connection, the open
and error handlers of a data channel, and the calls that were awaiting when the session was closed
(`reopens`).  A closed session stays closed exactly as long as none of these takes effect
(`closed_session_iff`).
-/

namespace SelfRelay

open StepSystem

namespace Session

variable {crypto : HandshakeCrypto} {s s' : Session} {event : SessionEvent}

/-- A suspended call goes on to report a failure: the offer can not be created, or a signal of
`start` or of a local candidate is not delivered. -/
def fails (crypto : HandshakeCrypto) (s : Session) (call : SessionCall)
    (outcome : Settlement) : Bool :=
  match call, outcome with
  | .creatingOffer keys, .computed dateNow _ random generated =>
    (Handshake.createHandshakeOffer crypto (offerOptions s.options.transfer keys) dateNow
      random generated
      []).2.toOption.isNone
  | .emittingOffer, .sent delivered | .emittingCandidate, .sent delivered => !delivered
  | .emittingOffer, .rejected _ | .emittingCandidate, .rejected _ => true
  | _, _ => false

/-- The event reports another state to a closed session. -/
def reopens (crypto : HandshakeCrypto) (s : Session) : SessionEvent → Bool
  | .connectionState state => state = .connected || state = .failed
  | .channelOpen | .channelError => true
  | .resume i outcome => s.calls[i]?.any fun call => s.fails crypto call outcome
  | _ => false

/-- A closed session has no timer. -/
def Untimed (s : Session) : Prop := s.stateValue = .closed → s.negotiationTimer = false

/-- The state and the timer stay. -/
structure SameState (s s' : Session) : Prop where
  state : s'.stateValue = s.stateValue
  timer : s'.negotiationTimer = s.negotiationTimer

/-! ## What an event does to the state -/

theorem setState_stateValue (s : Session) (state : WebRtcTestState) :
    (s.setState state).stateValue = state := by
  unfold setState
  split
  · rename_i heq
    exact heq.symm
  · rfl

theorem untimed_setState (hs : s.Untimed) (state : WebRtcTestState) :
    (s.setState state).Untimed := by
  intro hclosed
  rw [setState_stateValue] at hclosed
  subst hclosed
  unfold setState
  split
  · rename_i heq
    exact hs heq.symm
  · rfl

theorem SameState.untimed (h : SameState s s') (hs : s.Untimed) : s'.Untimed := by
  intro hclosed
  rw [h.timer]
  exact hs (h.state.symm.trans hclosed)

/-- How a suspended call goes on: it reports a failure, or keeps the state. -/
def Continues (crypto : HandshakeCrypto) (s : Session) (call : SessionCall) (outcome : Settlement)
    (s' : Session) : Prop :=
  (s.fails crypto call outcome = true ∧ s' = s.setState .failed) ∨
    (s.fails crypto call outcome = false ∧ SameState s s')

theorem continues_createdOffer (keys : HandshakeKeys) (dateNow laterNow : JsNumber) (random : Bytes)
    (generated : Option CryptoKeyPair) :
    Continues crypto s (.creatingOffer keys) (.computed dateNow laterNow random generated)
      (s.createdOffer crypto keys dateNow random generated).1 := by
  unfold createdOffer
  split
  · rename_i herror
    exact .inl ⟨by simp [fails, herror, Except.toOption], rfl⟩
  · rename_i hok
    exact .inr ⟨by simp [fails, hok, Except.toOption], rfl, rfl⟩

/-- `emitSignal` throws in a call that reports it. -/
theorem emitted_error (s : Session) (crypto : HandshakeCrypto) {call : SessionCall}
    (hcall : call = .emittingOffer ∨ call = .emittingCandidate)
    {outcome : Settlement} {result : Outcome Unit} (h : emitted outcome = some result) :
    s.fails crypto call outcome = result.toOption.isNone := by
  obtain rfl | rfl := hcall <;> cases outcome with
  | sent delivered =>
    cases delivered <;> cases h <;> rfl
  | rejected error =>
    cases h
    rfl
  | _ => cases h

theorem sameState_flushCandidates (answers : Bool) : SameState s (s.flushCandidates answers).1 := by
  unfold flushCandidates
  dsimp only
  split
  · exact ⟨rfl, rfl⟩
  · rename_i hpending
    rw [hpending]
    exact ⟨rfl, rfl⟩

theorem continueCall_state {call : SessionCall} {outcome : Settlement} {r : Session × SessionCall}
    (h : s.continueCall crypto call outcome = some r) : Continues crypto s call outcome r.1 := by
  unfold continueCall at h
  split at h
  case h_1 keys dateNow laterNow random generated =>
    rw [← Option.some.inj h]
    exact continues_createdOffer keys dateNow laterNow random generated
  case h_2 outcome =>
    obtain ⟨result, hresult, rfl⟩ := Option.map_eq_some_iff.1 h
    have hfails := emitted_error s crypto (.inl rfl) hresult
    rcases result with error | ⟨⟩
    · exact .inl ⟨hfails, rfl⟩
    · exact .inr ⟨hfails, rfl, rfl⟩
  case h_3 | h_5 =>
    split at h <;> cases h <;> exact .inr ⟨rfl, rfl, rfl⟩
  case h_4 keys handshake offer dateNow issueNow random generated =>
    rw [← Option.some.inj h]
    refine .inr ⟨rfl, ?_⟩
    unfold createdAnswer
    split
    · exact ⟨rfl, rfl⟩
    · split <;> exact ⟨rfl, rfl⟩
  case h_6 =>
    split at h
    · cases h
      exact .inr ⟨rfl, rfl, rfl⟩
    · rw [← Option.some.inj h]
      refine .inr ⟨rfl, ?_⟩
      unfold validatedAnswer
      split <;> exact ⟨rfl, rfl⟩
  case h_7 =>
    split at h
    · cases h
      exact .inr ⟨rfl, rfl, rfl⟩
    · rw [← Option.some.inj h]
      refine .inr ⟨rfl, ?_⟩
      unfold startNegotiation
      dsimp only
      split <;> exact ⟨rfl, rfl⟩
  case h_9 | h_13 =>
    rw [← Option.some.inj h]
    refine .inr ⟨rfl, ?_⟩
    unfold emitDescription
    dsimp only
    split <;> exact ⟨rfl, rfl⟩
  case h_10 answers _ =>
    rw [← Option.some.inj h]
    exact .inr ⟨rfl, sameState_flushCandidates answers⟩
  case h_11 rest answers _ =>
    rw [← Option.some.inj h]
    refine .inr ⟨rfl, ?_⟩
    cases rest <;> exact ⟨rfl, rfl⟩
  case h_8 | h_12 | h_14 | h_15 | h_16 | h_17 | h_18 | h_19 | h_20 | h_21 =>
    cases h
    exact .inr ⟨rfl, rfl, rfl⟩
  case h_22 | h_23 | h_24 =>
    obtain ⟨next, -, rfl⟩ := Option.map_eq_some_iff.1 h
    exact .inr ⟨rfl, rfl, rfl⟩
  case h_25 outcome =>
    obtain ⟨result, hresult, rfl⟩ := Option.map_eq_some_iff.1 h
    have hfails := emitted_error s crypto (.inr rfl) hresult
    rcases result with error | ⟨⟩
    · exact .inl ⟨hfails, rfl⟩
    · exact .inr ⟨hfails, rfl, rfl⟩
  case h_26 => cases h

theorem Continues.untimed {call : SessionCall} {outcome : Settlement}
    (h : Continues crypto s call outcome s') (hs : s.Untimed) : s'.Untimed := by
  rcases h with ⟨-, rfl⟩ | ⟨-, hsame⟩
  · exact untimed_setState hs .failed
  · exact hsame.untimed hs

theorem untimed_addCall (hs : s.Untimed) (call : SessionCall) : (s.addCall call).Untimed := hs

/-- A session that negotiates is not closed. -/
theorem untimed_negotiate (s : Session) : s.negotiate.Untimed := by
  intro hclosed
  have hstate : s.negotiate.stateValue = .negotiating :=
    setState_stateValue { s with started := true } _
  exact absurd (hstate.symm.trans hclosed) (by decide)

theorem untimed_start (hs : s.Untimed) : s.start.Untimed := by
  unfold start
  split_ifs
  · exact hs
  · split
    · exact untimed_negotiate s
    · exact untimed_negotiate s
    · exact untimed_addCall (untimed_setState (untimed_negotiate s) .failed) _

theorem untimed_handleSignal (hs : s.Untimed) (message : SignalingEnvelope) :
    (s.handleSignal message).Untimed := by
  unfold handleSignal
  split
  · exact hs
  · split
    · unfold handleIceCandidate
      split_ifs <;> exact hs
    · split <;> exact hs
    · split <;> exact hs
    · split <;> exact untimed_negotiate s
    · split <;> exact untimed_negotiate s

/-- The timer is off whenever the session is closed. -/
theorem untimed_step (hs : s.Untimed) (h : s.step crypto event = some s') : s'.Untimed := by
  have hoff : Untimed { s with negotiationTimer := false } := fun _ => rfl
  cases event with
  | start =>
    cases h
    exact untimed_start hs
  | signal message =>
    cases h
    exact untimed_handleSignal hs message
  | close =>
    cases h
    unfold close
    split
    · exact hs
    · exact untimed_setState hoff .closed
  | iceCandidate candidate | dataChannel =>
    cases h
    exact hs
  | connectionState state =>
    simp only [step] at h
    split_ifs at h <;> cases h
    · exact untimed_setState hs state
    · exact hs
  | channelOpen =>
    obtain ⟨-, h⟩ := Option.ite_none_left_eq_some.1 h
    obtain rfl := Option.some.inj h
    exact untimed_setState hoff .connected
  | channelError | channelClose =>
    obtain ⟨-, h⟩ := Option.ite_none_left_eq_some.1 h
    obtain rfl := Option.some.inj h
    exact untimed_setState hs _
  | timeout =>
    obtain ⟨-, h⟩ := Option.ite_none_right_eq_some.1 h
    obtain rfl := Option.some.inj h
    dsimp only
    split_ifs
    · exact untimed_setState hoff .failed
    · exact hoff
  | resume i outcome =>
    simp only [step, Option.bind_eq_bind, Option.bind_eq_some_iff] at h
    obtain ⟨call, -, ⟨s₁, next⟩, hcontinue, h⟩ := h
    cases h
    exact (continueCall_state hcontinue).untimed hs

/-- A closed session stays closed, unless the event reports another state. -/
theorem closed_step (hclosed : s.stateValue = .closed) (htimer : s.negotiationTimer = false)
    (h : s.step crypto event = some s') :
    s'.stateValue = .closed ↔ s.reopens crypto event = false := by
  cases event with
  | start =>
    cases h
    simp [start, hclosed, addCall, reopens]
  | signal message =>
    cases h
    simp [handleSignal, hclosed, addCall, reopens]
  | close =>
    cases h
    simp [close, hclosed, reopens]
  | iceCandidate candidate | dataChannel =>
    cases h
    exact iff_of_true hclosed rfl
  | connectionState state =>
    simp only [step] at h
    split_ifs at h with hsettled <;> cases h
    · rw [setState_stateValue]
      cases state with
      | idle | negotiating => cases hsettled
      | connected | failed | closed => simp [reopens]
    · cases state <;> simp_all [reopens, WebRtcTestState.settled]
  | channelOpen | channelError =>
    obtain ⟨-, h⟩ := Option.ite_none_left_eq_some.1 h
    obtain rfl := Option.some.inj h
    rw [setState_stateValue]
    simp [reopens]
  | channelClose =>
    obtain ⟨-, h⟩ := Option.ite_none_left_eq_some.1 h
    obtain rfl := Option.some.inj h
    exact iff_of_true (setState_stateValue s _) rfl
  | timeout =>
    -- there is no timer to fire
    rw [step, htimer] at h
    cases h
  | resume i outcome =>
    simp only [step, Option.bind_eq_bind, Option.bind_eq_some_iff] at h
    obtain ⟨call, hcall, ⟨s₁, next⟩, hcontinue, h⟩ := h
    cases h
    rw [reopens, hcall, Option.any_some]
    change s₁.stateValue = .closed ↔ _
    rcases continueCall_state hcontinue with ⟨hfails, heq⟩ | ⟨hfails, hsame⟩
    · dsimp only at heq
      rw [heq, setState_stateValue, hfails]
      decide
    · exact iff_of_true (hsame.state.trans hclosed) hfails

/-! ## Runs -/

theorem untimed_run {options : SessionOptions} {es : List SessionEvent}
    (hrun : Run (Step (step crypto)) (initial options) es s) : s.Untimed :=
  hrun.invariant (fun _ => rfl) fun _ _ _ hs hstep => untimed_step hs hstep

/-- A session that was closed in any run is closed, with its timer off, in every state that follows,
exactly when no event reports another state. -/
theorem closed_session_iff (crypto : HandshakeCrypto) (options : SessionOptions)
    {es fs : List SessionEvent} {t : Session}
    (hrun : Run (Step (step crypto)) (initial options) es s)
    (hclosed : s.stateValue = .closed) :
    Run (fun a event b => Step (step crypto) a event b ∧
        b.stateValue = .closed ∧ b.negotiationTimer = false) s fs t ↔
      Run (fun a event b => Step (step crypto) a event b ∧ a.reopens crypto event = false)
        s fs t := by
  have hstart : s.stateValue = .closed ∧ s.negotiationTimer = false :=
    ⟨hclosed, untimed_run hrun hclosed⟩
  constructor
  · intro hrun'
    refine hrun'.mono_of (I := fun a => a.stateValue = .closed ∧ a.negotiationTimer = false)
      hstart ?_ ?_
    · exact fun a event b _ hstep => hstep.2
    · exact fun a event b ha hstep => ⟨hstep.1, (closed_step ha.1 ha.2 hstep.1).1 hstep.2.1⟩
  · intro hrun'
    have hkept : ∀ a event b, a.stateValue = .closed ∧ a.negotiationTimer = false →
        Step (step crypto) a event b ∧ a.reopens crypto event = false →
        b.stateValue = .closed ∧ b.negotiationTimer = false := by
      rintro a event b ⟨ha, htimer⟩ ⟨hstep, hreopens⟩
      have hb := (closed_step ha htimer hstep).2 hreopens
      exact ⟨hb, untimed_step (fun _ => htimer) hstep hb⟩
    exact hrun'.mono_of hstart hkept fun a event b ha hstep => ⟨hstep.1, hkept a event b ha hstep⟩

/-! ## A session that is reopened -/

def sampleCandidate : IceCandidate := ⟨js "candidate:1", none, none, none⟩

/-- A local candidate is being sent when the session is closed. -/
def closedWhileSending : List SessionEvent := [.iceCandidate sampleCandidate, .close]

/-- The signal is delivered, and the peer connection reports that it is closed. -/
theorem closed_session_iff_delivered : ∃ s t,
    Run (Step (step sampleCrypto)) (initial sampleSender) closedWhileSending s ∧
      Run (fun a event b => Step (step sampleCrypto) a event b ∧
        b.stateValue = .closed ∧ b.negotiationTimer = false) s
        [.resume 0 (.sent true), .connectionState .closed, .start] t := by
  have hrun : (exec (step sampleCrypto) (initial sampleSender) closedWhileSending).any (fun s =>
      s.stateValue = .closed && (exec (fun a event =>
        if a.reopens sampleCrypto event = false then step sampleCrypto a event else none) s
          [.resume 0 (.sent true), .connectionState .closed, .start]).isSome) = true := by
    decide +kernel
  obtain ⟨s, hexec, hclosed⟩ := (Option.any_eq_true _ _).1 hrun
  obtain ⟨hclosed, hsome⟩ := Bool.and_eq_true_iff.1 hclosed
  obtain ⟨t, hexec'⟩ := Option.isSome_iff_exists.1 hsome
  have hrun := Run.of_exec hexec
  exact ⟨s, t, hrun,
    (closed_session_iff sampleCrypto sampleSender hrun (of_decide_eq_true hclosed)).2
    (Run.of_exec_guarded hexec')⟩

/-- The signal is not delivered: the closed session fails, and the next SDP message has it negotiate
under a timer. -/
theorem closed_session_iff_undelivered : ∃ s t u,
    Run (Step (step sampleCrypto)) (initial sampleSender) closedWhileSending s ∧
      s.stateValue = .closed ∧
      Run (Step (step sampleCrypto)) s [.resume 0 (.sent false)] t ∧ t.stateValue = .failed ∧
      Run (Step (step sampleCrypto)) t
        [.signal (sampleTransfer.envelope (.sdpAnswer (js "v=0")))] u ∧
      u.stateValue = .negotiating ∧ u.negotiationTimer = true := by
  refine ⟨_, _, _, Run.of_exec rfl, rfl, Run.of_exec rfl, rfl, Run.of_exec rfl, ?_, ?_⟩
  · decide +kernel
  · decide +kernel

end Session

end SelfRelay
