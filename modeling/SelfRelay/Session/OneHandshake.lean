import SelfRelay.Lib.Entries
import SelfRelay.Session.WebRtcSession

/-!
# One handshake per transfer

A session takes every handshake message that passes its validation: nothing in `handleSignal` asks
whether an earlier one was taken.  `Tally` counts what that comes to, the derivations, the
materials handed to `onHandshake` and the negotiations.  Each of them happens at most once in every
run in which no message passes its validation after another one was taken (`replays`).
-/

namespace SelfRelay

open StepSystem

/-- The call took an offer and is about to derive. -/
def SessionCall.answers : SessionCall → Bool
  | creatingAnswer .. => true
  | _ => false

/-- The call awaits `deriveHandshakeMaterial`. -/
def SessionCall.derives : SessionCall → Bool
  | derivingRecipient .. | derivingSender _ => true
  | _ => false

/-- How often the session derived, assigned its material and started negotiating. -/
structure Tally where
  derivations : ℕ
  handshakes : ℕ
  negotiations : ℕ

namespace Session

variable {crypto : HandshakeCrypto} {s s' : Session} {event : SessionEvent}

def tally (s : Session) : Tally := ⟨s.derivations.length, s.handshakes.length, s.negotiations⟩

/-- A handshake message was taken: the session derives from it, or is about to. -/
def accepted (s : Session) : Bool := !s.derivations.isEmpty || s.calls.any SessionCall.answers

/-- A handshake message passes its validation after another one was taken. -/
def replays (crypto : HandshakeCrypto) (s : Session) : SessionEvent → Bool
  | .resume call (.computed dateNow laterNow _ _) =>
    match s.calls[call]? with
    | some (.validatingOffer keys handshake) =>
      s.accepted && (s.checkOffer crypto keys handshake dateNow).toOption.isSome
    | some (.validatingAnswer key epoch handshake offer) =>
      s.accepted &&
        (s.checkAnswer crypto key epoch handshake offer dateNow laterNow).toOption.isSome
    | _ => false
  | _ => false

/-! ## What a call does -/

/-- How a call goes on and what it counts. -/
inductive CallStep (s : Session) (call next : SessionCall) (s' : Session) : Prop
  /-- Nothing is counted, and the call is through with the handshake. -/
  | idle (htally : s'.tally = s.tally) (hanswers : next.answers = false)
      (hderives : next.derives = false)
  /-- An offer passes its validation. -/
  | validated (hfresh : s.accepted = false) (htally : s'.tally = s.tally)
      (hanswers : next.answers = true)
    (hderives : next.derives = false)
  /-- The derivation begins: the answer to an offer is made, or an answer passes its validation. -/
  | derivation (hcall : call.answers = true ∨ s.accepted = false)
    (htally : s'.tally = { s.tally with derivations := s.tally.derivations + 1 })
    (hanswers : next.answers = false)
  /-- The material is there. -/
  | handshake {negotiations : ℕ} (hcall : call.derives = true) (hle : negotiations ≤ 1)
    (htally : s'.tally = { s.tally with
      handshakes := s.tally.handshakes + 1
      negotiations := s.tally.negotiations + negotiations })
    (hanswers : next.answers = false) (hderives : next.derives = false)

theorem setState_calls (s : Session) (state : WebRtcTestState) :
    (s.setState state).calls = s.calls := by
  unfold setState
  split <;> rfl

theorem setState_tally (s : Session) (state : WebRtcTestState) :
    (s.setState state).tally = s.tally := by
  unfold setState
  split <;> rfl

/-- The calls stay but for the one that goes on. -/
def Goes (s : Session) (call : SessionCall) (r : Session × SessionCall) : Prop :=
  r.1.calls = s.calls ∧ CallStep s call r.2 r.1

theorem Goes.idle {call next : SessionCall} (hcalls : s'.calls = s.calls)
    (htally : s'.tally = s.tally)
    (hanswers : next.answers = false) (hderives : next.derives = false) : Goes s call (s', next) :=
  ⟨hcalls, .idle htally hanswers hderives⟩

section Calls

variable {call : SessionCall}

theorem createdOffer_goes (keys : HandshakeKeys) (dateNow : JsNumber) (random : Bytes)
    (generated : Option CryptoKeyPair) :
    Goes s call (s.createdOffer crypto keys dateNow random generated) := by
  unfold createdOffer
  split
  · exact .idle (setState_calls s _) (setState_tally s _) rfl rfl
  · exact .idle rfl rfl rfl rfl

theorem createdAnswer_goes (keys : HandshakeKeys) (handshake : Json) (offer : HandshakeOfferCore)
    (dateNow issueNow : JsNumber) (random : Bytes) (generated : Option CryptoKeyPair)
    (hcall : call.answers = true) :
    Goes s call (s.createdAnswer crypto keys handshake offer dateNow issueNow random
      generated) := by
  unfold createdAnswer
  split
  · exact .idle rfl rfl rfl rfl
  · split
    · exact .idle rfl rfl rfl rfl
    · refine ⟨rfl, .derivation (.inl hcall) ?_ rfl⟩
      simp [tally, beginDerivation]

theorem validatedAnswer_goes (answer : HandshakeAnswerCore) (hfresh : s.accepted = false) :
    Goes s call (s.validatedAnswer answer) := by
  unfold validatedAnswer
  split
  · refine ⟨rfl, .derivation (.inr hfresh) ?_ rfl⟩
    simp [tally, beginDerivation]
  · exact .idle rfl rfl rfl rfl
  · exact .idle rfl rfl rfl rfl

theorem derivedMaterial_tally (material : Handshake.DerivedHandshakeMaterial) :
    (s.derivedMaterial material).tally =
      { s.tally with handshakes := s.tally.handshakes + 1 } := by
  simp [tally, derivedMaterial]

theorem startNegotiation_goes (material : Handshake.DerivedHandshakeMaterial)
    (hcall : call.derives = true) : Goes s call (s.derivedMaterial material).startNegotiation := by
  have htally : { (s.derivedMaterial material).tally with negotiations := s.negotiations + 1 } =
      { s.tally with
        handshakes := s.tally.handshakes + 1, negotiations := s.tally.negotiations + 1 } := by
    rw [derivedMaterial_tally]
    rfl
  unfold startNegotiation
  dsimp only
  split
  · exact ⟨rfl, .handshake hcall le_rfl htally rfl rfl⟩
  · exact ⟨rfl, .handshake hcall le_rfl htally rfl rfl⟩

theorem flushNext_goes (answers : Bool) (rest : List IceCandidate) :
    Goes s call (s.flushNext answers rest) := by
  cases rest with
  | nil => cases answers <;> exact .idle rfl rfl rfl rfl
  | cons candidate rest => exact .idle rfl rfl rfl rfl

theorem flushCandidates_goes (answers : Bool) : Goes s call (s.flushCandidates answers) := by
  unfold flushCandidates
  dsimp only
  split
  · exact .idle rfl rfl rfl rfl
  · rename_i hpending
    rw [hpending]
    exact .idle rfl rfl rfl rfl

theorem emitDescription_goes {next : SessionCall} (sdp : JsString) (localSdp : Option JsString)
    (name : String) (payload : JsString → SignalPayload) (hanswers : next.answers = false)
    (hderives : next.derives = false) :
    Goes s call (s.emitDescription sdp localSdp name payload next) := by
  unfold emitDescription
  dsimp only
  split
  · exact .idle rfl rfl rfl rfl
  · exact .idle rfl rfl hanswers hderives

/-- A suspended call goes on, not with a replay. -/
theorem continueCall_goes {i : ℕ} {outcome : Settlement} {r : Session × SessionCall}
    (hcall : s.calls[i]? = some call) (hreplays : s.replays crypto (.resume i outcome) = false)
    (h : s.continueCall crypto call outcome = some r) : Goes s call r := by
  unfold continueCall at h
  split at h
  case h_1 keys dateNow _ random generated =>
    rw [← Option.some.inj h]
    exact createdOffer_goes keys dateNow random generated
  case h_2 =>
    obtain ⟨result, _, rfl⟩ := Option.map_eq_some_iff.1 h
    rcases result with error | ⟨⟩
    · exact .idle (setState_calls s _) (setState_tally s _) rfl rfl
    · exact .idle rfl rfl rfl rfl
  case h_3 keys handshake dateNow _ _ _ =>
    split at h <;> rename_i hcheck <;> cases h
    · exact .idle rfl rfl rfl rfl
    · refine ⟨rfl, .validated ?_ rfl rfl rfl⟩
      simpa [replays, hcall, hcheck, Except.toOption] using hreplays
  case h_4 keys handshake offer dateNow issueNow random generated =>
    rw [← Option.some.inj h]
    exact createdAnswer_goes keys handshake offer dateNow issueNow random generated rfl
  case h_5 options answer _ _ _ _ =>
    split at h <;> cases h
    · exact .idle rfl rfl rfl rfl
    · rename_i material _
      exact ⟨rfl, .handshake rfl (Nat.zero_le 1) (derivedMaterial_tally (s := s) material) rfl rfl⟩
  case h_6 key epoch handshake offer offerNow dateNow _ _ =>
    split at h
    · cases h
      exact .idle rfl rfl rfl rfl
    · rename_i answer hcheck
      rw [← Option.some.inj h]
      apply validatedAnswer_goes answer
      simpa [replays, hcall, hcheck, Except.toOption] using hreplays
  case h_7 options _ _ _ _ =>
    split at h
    · cases h
      exact .idle rfl rfl rfl rfl
    · rename_i material _
      rw [← Option.some.inj h]
      exact startNegotiation_goes material rfl
  case h_9 sdp localSdp | h_13 sdp localSdp =>
    rw [← Option.some.inj h]
    exact emitDescription_goes sdp localSdp _ _ rfl rfl
  case h_10 answers _ =>
    rw [← Option.some.inj h]
    exact flushCandidates_goes answers
  case h_11 rest answers _ =>
    rw [← Option.some.inj h]
    exact flushNext_goes answers rest
  case h_8 | h_12 | h_14 | h_15 | h_16 | h_17 | h_18 | h_19 | h_20 | h_21 =>
    cases h
    exact .idle rfl rfl rfl rfl
  case h_22 | h_23 | h_24 =>
    obtain ⟨next, hnext, rfl⟩ := Option.map_eq_some_iff.1 h
    obtain ⟨result, _, rfl⟩ := Option.map_eq_some_iff.1 hnext
    exact .idle rfl rfl rfl rfl
  case h_25 =>
    obtain ⟨result, _, rfl⟩ := Option.map_eq_some_iff.1 h
    rcases result with error | ⟨⟩
    · exact .idle (setState_calls s _) (setState_tally s _) rfl rfl
    · exact .idle rfl rfl rfl rfl
  case h_26 => cases h

end Calls

/-! ## What an event does -/

/-- A call is made that is not in the middle of a handshake, or the calls
stay; nothing is counted. -/
structure Adds (s s' : Session) : Prop where
  tally : s'.tally = s.tally
  calls : s'.calls = s.calls ∨
    ∃ call : SessionCall, call.answers = false ∧ call.derives = false ∧ s'.calls = s.calls ++ [call]

theorem adds_addCall {call : SessionCall} (hcalls : s'.calls = s.calls)
    (htally : s'.tally = s.tally)
    (hanswers : call.answers = false) (hderives : call.derives = false) :
    Adds s (s'.addCall call) :=
  ⟨htally, .inr ⟨call, hanswers, hderives, by rw [addCall, hcalls]⟩⟩

theorem adds_setState (hcalls : s'.calls = s.calls) (htally : s'.tally = s.tally)
    (state : WebRtcTestState) : Adds s (s'.setState state) :=
  ⟨(setState_tally s' state).trans htally, .inl ((setState_calls s' state).trans hcalls)⟩

theorem negotiate_calls (s : Session) : s.negotiate.calls = s.calls :=
  setState_calls { s with started := true } .negotiating

theorem negotiate_tally (s : Session) : s.negotiate.tally = s.tally :=
  setState_tally { s with started := true } .negotiating

theorem adds_start (s : Session) : Adds s s.start := by
  unfold start
  split_ifs
  · exact adds_addCall rfl rfl rfl rfl
  · split
    · exact adds_addCall (negotiate_calls s) (negotiate_tally s) rfl rfl
    · exact adds_addCall (negotiate_calls s) (negotiate_tally s) rfl rfl
    · exact adds_addCall ((setState_calls _ _).trans (negotiate_calls s))
        ((setState_tally _ _).trans (negotiate_tally s)) rfl rfl

theorem adds_handleIceCandidate (s : Session) (candidate : IceCandidate) :
    Adds s (s.handleIceCandidate candidate) := by
  unfold handleIceCandidate
  split_ifs <;> exact adds_addCall rfl rfl rfl rfl

theorem adds_handleSignal (s : Session) (message : SignalingEnvelope) :
    Adds s (s.handleSignal message) := by
  unfold handleSignal
  split
  · exact adds_addCall rfl rfl rfl rfl
  · split
    · exact adds_handleIceCandidate s _
    · split <;> exact adds_addCall rfl rfl rfl rfl
    · split <;> exact adds_addCall rfl rfl rfl rfl
    · split <;> exact adds_addCall (negotiate_calls s) (negotiate_tally s) rfl rfl
    · split <;> exact adds_addCall (negotiate_calls s) (negotiate_tally s) rfl rfl

/-- A call goes on, or is made. -/
theorem step_cases (h : s.step crypto event = some s') (hreplays : s.replays crypto event = false) :
    Adds s s' ∨ ∃ i call next, s.calls[i]? = some call ∧ s'.calls = s.calls.set i next ∧
      CallStep s call next s' := by
  cases event with
  | start =>
    cases h
    exact .inl (adds_start s)
  | signal message =>
    cases h
    exact .inl (adds_handleSignal s message)
  | close =>
    cases h
    left
    unfold close
    split
    · exact ⟨rfl, .inl rfl⟩
    · apply adds_setState <;> rfl
  | iceCandidate candidate =>
    cases h
    exact .inl (adds_addCall rfl rfl rfl rfl)
  | dataChannel =>
    cases h
    exact .inl ⟨rfl, .inl rfl⟩
  | connectionState state =>
    simp only [step] at h
    split_ifs at h <;> cases h
    · exact .inl (adds_setState rfl rfl state)
    · exact .inl ⟨rfl, .inl rfl⟩
  | channelOpen =>
    simp only [step] at h
    split_ifs at h
    cases h
    left
    apply adds_setState <;> rfl
  | channelError =>
    simp only [step] at h
    split_ifs at h
    cases h
    left
    apply adds_setState <;> rfl
  | channelClose =>
    simp only [step] at h
    split_ifs at h
    cases h
    exact .inl (adds_setState rfl rfl .closed)
  | timeout =>
    simp only [step] at h
    split_ifs at h <;> cases h
    · left
      apply adds_setState <;> rfl
    · exact .inl ⟨rfl, .inl rfl⟩
  | resume i outcome =>
    simp only [step, Option.bind_eq_bind, Option.bind_eq_some_iff] at h
    obtain ⟨call, hcall, ⟨s₁, next⟩, hcontinue, h⟩ := h
    cases h
    obtain ⟨hcalls, hstep⟩ := continueCall_goes hcall hreplays hcontinue
    refine .inr ⟨i, call, next, hcall, ?_, ?_⟩
    · show s₁.calls.set i next = s.calls.set i next
      rw [show s₁.calls = s.calls from hcalls]
    · cases hstep with
      | idle htally hanswers hderives => exact .idle htally hanswers hderives
      | validated hfresh htally hanswers hderives =>
        exact .validated hfresh htally hanswers hderives
      | derivation hcall htally hanswers => exact .derivation hcall htally hanswers
      | handshake hcall hle htally hanswers hderives =>
        exact .handshake hcall hle htally hanswers hderives

/-! ## Runs -/

/-- At most one handshake is under way, and what was counted comes from it. -/
structure Single (s : Session) : Prop where
  derivations : s.tally.derivations + s.calls.countP SessionCall.answers ≤ 1
  handshakes : s.tally.handshakes + s.calls.countP SessionCall.derives ≤ s.tally.derivations
  negotiations : s.tally.negotiations ≤ s.tally.handshakes

theorem accepted_eq_false (h : s.accepted = false) :
    s.tally.derivations = 0 ∧ s.calls.countP SessionCall.answers = 0 := by
  simp only [accepted, Bool.or_eq_false_iff, Bool.not_eq_false', List.isEmpty_iff] at h
  refine ⟨by simp [tally, h.1], ?_⟩
  rw [List.countP_eq_zero]
  simpa using h.2

theorem single_step (hs : s.Single) (h : s.step crypto event = some s')
    (hreplays : s.replays crypto event = false) : s'.Single := by
  obtain ⟨hderivations, hhandshakes, hnegotiations⟩ := hs
  rcases step_cases h hreplays with ⟨htally, hcalls⟩ | ⟨i, call, next, hcall, hcalls, hstep⟩
  · have hcount : ∀ p : SessionCall → Bool, (∀ call : SessionCall, call.answers = false →
        call.derives = false → p call = false) → s'.calls.countP p = s.calls.countP p := by
      intro p hp
      rcases hcalls with hcalls | ⟨call, hanswers, hderives, hcalls⟩
      · rw [hcalls]
      · rw [hcalls, List.countP_append, List.countP_singleton, hp call hanswers hderives]
        rfl
    refine ⟨?_, ?_, ?_⟩ <;> rw [htally]
    · rw [hcount _ fun _ h _ => h]
      exact hderivations
    · rw [hcount _ fun _ _ h => h]
      exact hhandshakes
    · exact hnegotiations
  · have hanswer := Entries.countP_set_add hcall next SessionCall.answers
    have hderive := Entries.countP_set_add hcall next SessionCall.derives
    rw [← hcalls] at hanswer hderive
    cases hstep with
    | idle htally hanswers hderives =>
      rw [hanswers, Bool.toNat_false] at hanswer
      rw [hderives, Bool.toNat_false] at hderive
      refine ⟨?_, ?_, ?_⟩ <;> rw [htally] <;> omega
    | validated hfresh htally hanswers hderives =>
      obtain ⟨hnone, hcount⟩ := accepted_eq_false hfresh
      rw [hanswers, Bool.toNat_true] at hanswer
      rw [hderives, Bool.toNat_false] at hderive
      refine ⟨?_, ?_, ?_⟩ <;> rw [htally] <;> omega
    | derivation hcall htally hanswers =>
      have hderives := Bool.toNat_le next.derives
      rw [hanswers, Bool.toNat_false] at hanswer
      rcases hcall with hcall | hfresh
      · rw [hcall, Bool.toNat_true] at hanswer
        refine ⟨?_, ?_, ?_⟩ <;> rw [htally] <;> dsimp only <;> omega
      · obtain ⟨hnone, hcount⟩ := accepted_eq_false hfresh
        refine ⟨?_, ?_, ?_⟩ <;> rw [htally] <;> dsimp only <;> omega
    | handshake hcall hle htally hanswers hderives =>
      rw [hanswers, Bool.toNat_false] at hanswer
      rw [hderives, hcall, Bool.toNat_false, Bool.toNat_true] at hderive
      refine ⟨?_, ?_, ?_⟩ <;> rw [htally] <;> dsimp only <;> omega

theorem single_initial (options : SessionOptions) : (initial options).Single :=
  ⟨Nat.zero_le 1, le_rfl, le_rfl⟩

/-- The session derives, assigns its material and starts negotiating at most once, in every run in
which no handshake message is replayed. -/
theorem one_handshake (crypto : HandshakeCrypto) (options : SessionOptions) {es : List SessionEvent}
    (hrun : Run (fun a event b => Step (step crypto) a event b ∧ a.replays crypto event = false)
      (initial options) es s) :
    s.derivations.length ≤ 1 ∧ s.handshakes.length ≤ 1 ∧ s.negotiations ≤ 1 := by
  have hsingle : s.Single :=
    hrun.invariant (single_initial options) fun _ _ _ hs ⟨hstep, hreplays⟩ =>
    single_step hs hstep hreplays
  obtain ⟨hderivations, hhandshakes, hnegotiations⟩ := hsingle
  simp only [tally] at hderivations hhandshakes hnegotiations
  exact ⟨by omega, by omega, by omega⟩

/-! ## A replayed answer -/

/-- Web Crypto with keys of one byte, where every signature verifies. -/
def sampleCrypto : HandshakeCrypto where
  importKey _ raw := some ⟨raw⟩
  exportKey key := some key.material
  verify _ _ _ := some true
  sign _ _ := some (List.replicate 64 1)
  ecdh _ _ := .ok [9]
  hkdf _ _ _ length := .ok (List.replicate length 0)
  importAesKey raw := .ok ⟨raw⟩

def sampleTransfer : SessionTransfer where
  transferId := js "11111111-1111-4111-8111-111111111111"
  senderDeviceId := js "22222222-2222-4222-8222-222222222222"
  recipientDeviceId := js "33333333-3333-4333-8333-333333333333"
  expiresAt := .ofNat 2

def sampleSender : SessionOptions where
  transfer := sampleTransfer
  role := .sender
  signingKey := some ⟨[1]⟩
  peerSigningPublicKey := some (.key ⟨[2]⟩)
  accountEpoch := some (.ofNat 1)

/-- An answer to the offer of the session below. -/
def sampleAnswer : HandshakeAnswerCore where
  transferId := sampleTransfer.transferId
  accountEpoch := 1
  senderDeviceId := sampleTransfer.senderDeviceId
  recipientDeviceId := sampleTransfer.recipientDeviceId
  offerHash := js "LDPZYiGvaZ9IOqPx9y-yQSwf_ZvEbCdswFpfFofNfYA"
  recipientEphemeralSpki := js "BQ"
  recipientNonce := encodeBase64Url (List.replicate 32 0)
  issuedAt := 1
  expiresAt := 2

/-- The answer is delivered, validated and derived from. -/
def deliverAnswer (call : ℕ) : List SessionEvent :=
  [.signal (sampleTransfer.envelope (.handshakeAnswer
      (signedMessage sampleAnswer.json (encodeBase64Url (List.replicate 64 1))))),
    .resume call (.computed (.ofNat 1) (.ofNat 1) [] none),
    .resume call (.computed (.ofNat 1) (.ofNat 1) [] none)]

/-- The session starts, offers a handshake and gets the answer. -/
def sampleHandshake : List SessionEvent :=
  [.start, .resume 0 (.computed (.ofNat 0) (.ofNat 0) (List.replicate 32 0) (some ⟨⟨[3]⟩, ⟨[4]⟩⟩)),
    .resume 0 (.sent true)] ++ deliverAnswer 1

/-- The answer is taken, and taken again. -/
theorem sampleHandshake_twice :
    ∃ s ∈ exec (fun a event => if a.replays sampleCrypto event = false then
      step sampleCrypto a event
      else none) (initial sampleSender) sampleHandshake,
    s.derivations.length = 1 ∧ s.handshakes.length = 1 ∧ s.negotiations = 1 ∧
    ∃ t ∈ exec (step sampleCrypto) s (deliverAnswer 2),
      t.derivations.length = 2 ∧ t.handshakes.length = 2 ∧ t.negotiations = 2 := by
  decide +kernel

theorem one_handshake_sender :
    ∃ s, Run (fun a event b => Step (step sampleCrypto) a event b ∧
        a.replays sampleCrypto event = false) (initial sampleSender) sampleHandshake s ∧
      (s.derivations.length = 1 ∧ s.handshakes.length = 1 ∧ s.negotiations = 1) ∧
      (s.derivations.length ≤ 1 ∧ s.handshakes.length ≤ 1 ∧ s.negotiations ≤ 1) := by
  obtain ⟨s, hs, hderivations, hhandshakes, hnegotiations, _⟩ := sampleHandshake_twice
  have hrun := Run.of_exec_guarded hs
  exact ⟨s, hrun, ⟨hderivations, hhandshakes, hnegotiations⟩,
    one_handshake sampleCrypto sampleSender hrun⟩

/-- The same answer is delivered twice: the session derives twice, replaces its material and
negotiates twice. -/
theorem replayed_answer :
    ∃ s, Run (Step (step sampleCrypto)) (initial sampleSender)
      (sampleHandshake ++ deliverAnswer 2) s ∧
      s.derivations.length = 2 ∧ s.handshakes.length = 2 ∧ s.negotiations = 2 := by
  obtain ⟨s, hs, _, _, _, t, ht, hcounts⟩ := sampleHandshake_twice
  have hrun : Run (Step (step sampleCrypto)) (initial sampleSender) sampleHandshake s :=
    (Run.of_exec_guarded hs).mono fun _ _ _ h => h.1
  exact ⟨t, hrun.append (Run.of_exec ht), hcounts⟩

end Session

end SelfRelay
