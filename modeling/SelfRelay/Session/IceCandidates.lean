import SelfRelay.Session.OneHandshake
import Mathlib.Data.List.Count

/-!
# ICE candidates

A candidate that `handleSignal` takes is in the queue, in a flush that is under way, or was passed
to `addIceCandidate`; a flush whose `addIceCandidate` rejects loses the rest.  `IceBalance` counts
these places for each candidate, and every step keeps the balance (`iceBalance_step`).  The
candidates of messages that `handleSignal` turns down, because the session is closed or the message
is not for it, are in none of them (`candidates_once`).
-/

namespace SelfRelay

open StepSystem

/-- The candidates that a suspended flush has yet to pass on. -/
def SessionCall.held : SessionCall → List IceCandidate
  | flushing rest _ => rest
  | _ => []

/-- The call awaits `addIceCandidate`. -/
def SessionCall.adds : SessionCall → Bool
  | flushing _ _ | addingCandidate => true
  | _ => false

/-- A session with what happened to its candidates. -/
structure IceState where
  session : Session
  /-- The candidates whose calls of `handleSignal` returned `true` or await `addIceCandidate`. -/
  taken : List IceCandidate
  /-- The candidates that a flush left when its `addIceCandidate` rejected. -/
  lost : List IceCandidate
  /-- A call of `addIceCandidate` rejected. -/
  rejected : Bool
  /-- A call of `setRemoteDescription` resolved. -/
  described : Bool

namespace IceState

def initial (options : SessionOptions) : IceState where
  session := .initial options
  taken := []
  lost := []
  rejected := false
  described := false

/-- The candidate of a message, where the call of `handleSignal` that it made neither threw nor
returned `false`. -/
def takenBy (next : Session) : Session.SessionEvent → List IceCandidate
  | .signal message =>
    match message.payload, next.calls.getLast? with
    | .iceCandidate candidate, some (.returned (.ok true)) => [candidate]
    | .iceCandidate candidate, some .addingCandidate => [candidate]
    | _, _ => []
  | _ => []

/-- What the continuation of a call means for the candidates. -/
def observed (x : IceState) : Session.SessionEvent → IceState
  | .resume i outcome =>
    match x.session.calls[i]?, outcome with
    | some (.settingRemoteDescription _), .resolved _ => { x with described := true }
    | some call, .rejected _ =>
      if call.adds then { x with rejected := true, lost := x.lost ++ call.held } else x
    | _, _ => x
  | _ => x

def step (crypto : HandshakeCrypto) (x : IceState) (event : Session.SessionEvent) :
    Option IceState :=
  (x.session.step crypto event).map fun session =>
    { x.observed event with session, taken := x.taken ++ takenBy session event }

end IceState

namespace Session

variable {crypto : HandshakeCrypto} {s s' : Session}

/-- The candidates that the flushes under way have yet to pass on. -/
def heldCandidates (s : Session) : List IceCandidate := s.calls.flatMap SessionCall.held

/-- The queue, the candidates that were passed on and the calls stay. -/
structure SameQueue (s s' : Session) : Prop where
  ready : s'.remoteDescriptionReady = s.remoteDescriptionReady
  pending : s'.pendingCandidates = s.pendingCandidates
  added : s'.addedCandidates = s.addedCandidates
  calls : s'.calls = s.calls

/-- No place of the balance changes. -/
structure SameIce (s s' : Session) : Prop where
  ready : s'.remoteDescriptionReady = s.remoteDescriptionReady
  pending : s'.pendingCandidates = s.pendingCandidates
  added : s'.addedCandidates = s.addedCandidates
  held : s'.heldCandidates = s.heldCandidates

theorem sameQueue_setState (s : Session) (state : WebRtcTestState) :
    SameQueue s (s.setState state) := by
  unfold setState
  split <;> exact ⟨rfl, rfl, rfl, rfl⟩

theorem SameQueue.sameIce (h : SameQueue s s') : SameIce s s' :=
  ⟨h.ready, h.pending, h.added, by rw [heldCandidates, h.calls, heldCandidates]⟩

theorem sameIce_setState (s : Session) (state : WebRtcTestState) : SameIce s (s.setState state) :=
  (sameQueue_setState s state).sameIce

theorem SameIce.trans {s'' : Session} (h : SameIce s s') (h' : SameIce s' s'') : SameIce s s'' :=
  ⟨h'.ready.trans h.ready, h'.pending.trans h.pending, h'.added.trans h.added, h'.held.trans h.held⟩

theorem sameIce_addCall {call : SessionCall} (hcall : call.held = []) :
    SameIce s (s.addCall call) :=
  ⟨rfl, rfl, rfl, by simp [heldCandidates, addCall, hcall]⟩

theorem sameIce_negotiate (s : Session) : SameIce s s.negotiate := by
  obtain ⟨hready, hpending, hadded, hcalls⟩ :=
    sameQueue_setState { s with started := true } .negotiating
  exact SameQueue.sameIce ⟨hready, hpending, hadded, hcalls⟩

theorem sameIce_start (s : Session) : SameIce s s.start := by
  unfold start
  split_ifs
  · exact sameIce_addCall rfl
  · split
    · exact (sameIce_negotiate s).trans (sameIce_addCall rfl)
    · exact (sameIce_negotiate s).trans (sameIce_addCall rfl)
    · exact (sameIce_negotiate s).trans ((sameIce_setState _ .failed).trans (sameIce_addCall rfl))

/-! ## How a call goes on -/

/-- What the continuation of a call does to the candidates. -/
inductive IceStep (s : Session) (call : SessionCall) (outcome : Settlement)
  (r : Session × SessionCall) :
    Prop
  /-- The queue is taken by a flush. -/
  | flush (answers : Bool) (sdp : Option JsString)
      (hcall : call = .settingRemoteDescription answers)
    (houtcome : outcome = .resolved sdp) (hr : r = s.flushCandidates answers)
  /-- A flush goes on. -/
  | next (rest : List IceCandidate) (answers : Bool) (sdp : Option JsString)
    (hcall : call = .flushing rest answers) (houtcome : outcome = .resolved sdp)
    (hr : r = s.flushNext answers rest)
  /-- A call of `addIceCandidate` rejects. -/
  | rejected (error : Thrown) (hcall : call.adds = true) (houtcome : outcome = .rejected error)
    (hsame : SameQueue s r.1) (hheld : r.2.held = [])
  | other (hcall : call.held = []) (hsame : SameQueue s r.1) (hheld : r.2.held = [])
    (hother : ∀ answers sdp, call = .settingRemoteDescription answers → outcome ≠ .resolved sdp)

theorem continueCall_ice {call : SessionCall} {outcome : Settlement} {r : Session × SessionCall}
    (h : s.continueCall crypto call outcome = some r) : IceStep s call outcome r := by
  unfold continueCall at h
  split at h
  case h_1 keys dateNow laterNow random generated =>
    rw [← Option.some.inj h]
    unfold createdOffer
    split
    · exact .other rfl (sameQueue_setState s .failed) rfl nofun
    · exact .other rfl ⟨rfl, rfl, rfl, rfl⟩ rfl nofun
  case h_2 | h_25 =>
    obtain ⟨result, -, rfl⟩ := Option.map_eq_some_iff.1 h
    rcases result with error | ⟨⟩
    · exact .other rfl (sameQueue_setState s .failed) rfl nofun
    · exact .other rfl ⟨rfl, rfl, rfl, rfl⟩ rfl nofun
  case h_3 | h_5 =>
    split at h <;> cases h <;> exact .other rfl ⟨rfl, rfl, rfl, rfl⟩ rfl nofun
  case h_4 =>
    rw [← Option.some.inj h]
    unfold createdAnswer
    split
    · exact .other rfl ⟨rfl, rfl, rfl, rfl⟩ rfl nofun
    · split <;> exact .other rfl ⟨rfl, rfl, rfl, rfl⟩ rfl nofun
  case h_6 =>
    split at h
    · cases h
      exact .other rfl ⟨rfl, rfl, rfl, rfl⟩ rfl nofun
    · rw [← Option.some.inj h]
      unfold validatedAnswer
      split <;> exact .other rfl ⟨rfl, rfl, rfl, rfl⟩ rfl nofun
  case h_7 =>
    split at h
    · cases h
      exact .other rfl ⟨rfl, rfl, rfl, rfl⟩ rfl nofun
    · rw [← Option.some.inj h]
      unfold startNegotiation
      dsimp only
      split <;> exact .other rfl ⟨rfl, rfl, rfl, rfl⟩ rfl nofun
  case h_9 | h_13 =>
    rw [← Option.some.inj h]
    unfold emitDescription
    dsimp only
    split <;> exact .other rfl ⟨rfl, rfl, rfl, rfl⟩ rfl nofun
  case h_10 answers sdp =>
    exact .flush answers sdp rfl rfl (Option.some.inj h).symm
  case h_11 rest answers sdp =>
    exact .next rest answers sdp rfl rfl (Option.some.inj h).symm
  case h_18 | h_21 =>
    cases h
    exact .rejected _ rfl rfl ⟨rfl, rfl, rfl, rfl⟩ rfl
  case h_8 | h_12 | h_14 | h_15 | h_16 | h_17 | h_19 | h_20 =>
    cases h
    exact .other rfl ⟨rfl, rfl, rfl, rfl⟩ rfl nofun
  case h_22 | h_23 | h_24 =>
    obtain ⟨next, hnext, rfl⟩ := Option.map_eq_some_iff.1 h
    obtain ⟨result, -, rfl⟩ := Option.map_eq_some_iff.1 hnext
    exact .other rfl ⟨rfl, rfl, rfl, rfl⟩ rfl nofun
  case h_26 => cases h

theorem count_held_set (c : IceCandidate) {calls : List SessionCall} {i : ℕ} {call : SessionCall}
    (h : calls[i]? = some call) (next : SessionCall) :
    ((calls.set i next).flatMap SessionCall.held).count c + call.held.count c =
      (calls.flatMap SessionCall.held).count c + next.held.count c := by
  induction calls generalizing i with
  | nil => cases h
  | cons first calls ih =>
    cases i with
    | zero =>
      obtain rfl := Option.some.inj h
      simp only [List.set_cons_zero, List.flatMap_cons, List.count_append]
      omega
    | succ i =>
      have hrest := ih h
      simp only [List.set_cons_succ, List.flatMap_cons, List.count_append]
      omega

/-- A call that holds nothing becomes one that holds nothing. -/
theorem held_set {calls : List SessionCall} {i : ℕ} {call next : SessionCall}
    (h : calls[i]? = some call)
    (hcall : call.held = []) (hnext : next.held = []) :
    (calls.set i next).flatMap SessionCall.held = calls.flatMap SessionCall.held := by
  induction calls generalizing i with
  | nil => cases h
  | cons first calls ih =>
    cases i with
    | zero =>
      obtain rfl := Option.some.inj h
      rw [List.set_cons_zero, List.flatMap_cons, List.flatMap_cons, hcall, hnext]
    | succ i =>
      rw [List.set_cons_succ, List.flatMap_cons, List.flatMap_cons, ih h]

theorem sameIce_setCall {i : ℕ} {call next : SessionCall} (hsame : SameQueue s s')
    (h : s.calls[i]? = some call) (hcall : call.held = []) (hnext : next.held = []) :
    SameIce s (s'.setCall i next) := by
  refine ⟨hsame.ready, hsame.pending, hsame.added, ?_⟩
  rw [heldCandidates, setCall, hsame.calls]
  exact held_set h hcall hnext

end Session

/-! ## The balance -/

/-- Each candidate that was taken is in one place. -/
structure IceBalance (x : IceState) : Prop where
  conserved : ∀ c, x.taken.count c = x.session.addedCandidates.count c +
    x.session.pendingCandidates.count c + x.session.heldCandidates.count c + x.lost.count c
  bounded : x.session.pendingCandidates.length ≤ maxPendingIceCandidates
  /-- Nothing is passed on before the remote description is ready, and nothing is queued after. -/
  early : x.session.remoteDescriptionReady = false →
    x.session.addedCandidates = [] ∧ x.session.heldCandidates = []
  drained : x.session.remoteDescriptionReady = true → x.session.pendingCandidates = []
  described : x.described = x.session.remoteDescriptionReady
  kept : x.rejected = false → x.lost = []

section Balance

variable {crypto : HandshakeCrypto} {x y : IceState}

theorem iceBalance_initial (options : SessionOptions) : IceBalance (.initial options) where
  conserved _ := rfl
  bounded := Nat.zero_le _
  early _ := ⟨rfl, rfl⟩
  drained := nofun
  described := rfl
  kept _ := rfl

theorem IceBalance.same {session : Session} (h : IceBalance x)
    (hsame : Session.SameIce x.session session) :
    IceBalance { x with session } where
  conserved c := by
    dsimp only
    rw [hsame.added, hsame.pending, hsame.held]
    exact h.conserved c
  bounded := hsame.pending ▸ h.bounded
  early hready := by
    dsimp only
    rw [hsame.added, hsame.held]
    exact h.early (hsame.ready ▸ hready)
  drained hready := hsame.pending ▸ h.drained (hsame.ready ▸ hready)
  described := h.described.trans hsame.ready.symm
  kept := h.kept

/-- A call is made that takes no candidate. -/
theorem IceBalance.unmoved {session : Session} {event : Session.SessionEvent} (h : IceBalance x)
    (hsame : Session.SameIce x.session session) (htaken : IceState.takenBy session event = []) :
    IceBalance { x with session, taken := x.taken ++ IceState.takenBy session event } := by
  rw [htaken, List.append_nil]
  exact h.same hsame

theorem takenBy_addCall (session : Session) (call : SessionCall) (message : SignalingEnvelope)
    (hcall : ∀ candidate, message.payload = .iceCandidate candidate →
      call ≠ .returned (.ok true) ∧ call ≠ .addingCandidate) :
    IceState.takenBy (session.addCall call) (.signal message) = [] := by
  have hlast : (session.addCall call).calls.getLast? = some call := List.getLast?_concat
  unfold IceState.takenBy
  dsimp only
  split
  · rename_i candidate hpayload hreturned
    exact absurd (Option.some.inj (hlast.symm.trans hreturned)) (hcall candidate hpayload).1
  · rename_i candidate hpayload hadding
    exact absurd (Option.some.inj (hlast.symm.trans hadding)) (hcall candidate hpayload).2
  · rfl

/-- A candidate is queued. -/
theorem IceBalance.queued {candidate : IceCandidate} (h : IceBalance x)
    (hready : x.session.remoteDescriptionReady = false)
    (hroom : ¬ x.session.pendingCandidates.length ≥ maxPendingIceCandidates) :
    IceBalance { x with
      session := Session.addCall { x.session with
        pendingCandidates := x.session.pendingCandidates ++ [candidate] } (.returned (.ok true))
      taken := x.taken ++ [candidate] } := by
  have hheld : Session.heldCandidates (Session.addCall { x.session with
      pendingCandidates := x.session.pendingCandidates ++ [candidate] } (.returned (.ok true))) =
        x.session.heldCandidates := by
    simp [Session.heldCandidates, Session.addCall, SessionCall.held]
  refine ⟨fun c => ?_, ?_, ?_, ?_, ?_, h.kept⟩
  · have hc := h.conserved c
    dsimp only
    rw [hheld, List.count_append]
    simp only [Session.addCall, List.count_append]
    omega
  · simp only [Session.addCall, List.length_append, List.length_singleton]
    omega
  · intro _
    dsimp only
    rw [hheld]
    exact h.early hready
  · exact fun hready' => absurd (hready.symm.trans hready') Bool.false_ne_true
  · exact h.described

/-- A candidate is passed on. -/
theorem IceBalance.passed {candidate : IceCandidate} (h : IceBalance x)
    (hready : x.session.remoteDescriptionReady = true) :
    IceBalance { x with
      session := Session.addCall { x.session with
        addedCandidates := x.session.addedCandidates ++ [candidate] } .addingCandidate
      taken := x.taken ++ [candidate] } := by
  have hheld : Session.heldCandidates (Session.addCall { x.session with
      addedCandidates := x.session.addedCandidates ++ [candidate] } .addingCandidate) =
        x.session.heldCandidates := by
    simp [Session.heldCandidates, Session.addCall, SessionCall.held]
  refine ⟨fun c => ?_, h.bounded, ?_, h.drained, h.described, h.kept⟩
  · have hc := h.conserved c
    dsimp only
    rw [hheld, List.count_append]
    simp only [Session.addCall, List.count_append]
    omega
  · exact fun hready' => absurd (hready'.symm.trans hready) Bool.false_ne_true

theorem iceBalance_signal (h : IceBalance x) (message : SignalingEnvelope) :
    IceBalance { x with
      session := x.session.handleSignal message
      taken := x.taken ++ IceState.takenBy (x.session.handleSignal message)
        (.signal message) } := by
  unfold Session.handleSignal
  split_ifs with hdown
  · exact h.unmoved (Session.sameIce_addCall rfl) (takenBy_addCall _ _ _ fun _ _ => ⟨nofun, nofun⟩)
  · split
    case h_1 candidate hpayload =>
      unfold Session.handleIceCandidate
      split_ifs with hready hfull
      · exact h.unmoved (Session.sameIce_addCall rfl) (takenBy_addCall _ _ _ fun _ _ =>
          ⟨nofun, nofun⟩)
      · have htaken : IceState.takenBy (Session.addCall { x.session with
            pendingCandidates :=
              x.session.pendingCandidates ++ [candidate] } (.returned (.ok true)))
            (.signal message) = [candidate] := by
          simp [IceState.takenBy, Session.addCall, hpayload]
        rw [htaken]
        exact h.queued hready hfull
      · have htaken : IceState.takenBy (Session.addCall { x.session with
            addedCandidates := x.session.addedCandidates ++ [candidate] } .addingCandidate)
            (.signal message) = [candidate] := by
          simp [IceState.takenBy, Session.addCall, hpayload]
        rw [htaken]
        exact h.passed (by simpa using hready)
    case h_2 | h_3 =>
      rename_i hpayload
      split <;> exact h.unmoved (Session.sameIce_addCall rfl)
        (takenBy_addCall _ _ _ fun _ hother => by rw [hpayload] at hother; cases hother)
    case h_4 | h_5 =>
      rename_i hpayload
      split <;> exact h.unmoved ((Session.sameIce_negotiate _).trans (Session.sameIce_addCall rfl))
        (takenBy_addCall _ _ _ fun _ hother => by rw [hpayload] at hother; cases hother)

/-- A continuation that moves no candidate. -/
theorem observed_of_held {i : ℕ} {call : SessionCall} {outcome : Session.Settlement}
    (hcall : x.session.calls[i]? = some call) (hheld : call.held = [])
    (hother : ∀ answers sdp, call = .settingRemoteDescription answers → outcome ≠ .resolved sdp)
    (h : IceBalance x) :
    IceBalance (x.observed (.resume i outcome)) ∧
      (x.observed (.resume i outcome)).session = x.session := by
  unfold IceState.observed
  dsimp only
  rw [hcall]
  split
  · rename_i answers sdp hsome
    exact absurd rfl (hother answers sdp (Option.some.inj hsome))
  · rename_i hsome
    obtain rfl := Option.some.inj hsome
    split_ifs
    · refine ⟨⟨?_, h.bounded, h.early, h.drained, h.described, nofun⟩, rfl⟩
      rw [hheld, List.append_nil]
      exact h.conserved
    · exact ⟨h, rfl⟩
  · exact ⟨h, rfl⟩

/-- The queue is taken: its first candidate is passed on, and the rest is held. -/
theorem IceBalance.flushed {i : ℕ} {answers : Bool} (h : IceBalance x)
    (hcall : x.session.calls[i]? = some (.settingRemoteDescription answers)) :
    IceBalance { x with
      described := true
      session := (x.session.flushCandidates answers).1.setCall i
        (x.session.flushCandidates answers).2 } := by
  have hset := fun c next => Session.count_held_set c hcall next
  unfold Session.flushCandidates
  dsimp only
  split
  case h_1 hempty =>
    refine ⟨fun c => ?_, Nat.zero_le _, nofun, fun _ => rfl, rfl, h.kept⟩
    have hc := h.conserved c
    have hheld := hset c (.flushing [] answers)
    simp only [Session.setCall, Session.heldCandidates, SessionCall.held, List.count_nil,
      hempty] at hc hheld ⊢
    omega
  case h_2 candidate rest hqueue =>
    rw [hqueue]
    refine ⟨fun c => ?_, Nat.zero_le _, nofun, fun _ => rfl, rfl, h.kept⟩
    have hc := h.conserved c
    have hheld := hset c (.flushing rest answers)
    rw [hqueue, List.count_cons] at hc
    simp only [Session.flushNext, Session.setCall, Session.heldCandidates, SessionCall.held,
      List.count_nil,
      List.count_append, List.count_singleton] at hc hheld ⊢
    omega

theorem IceBalance.next {i : ℕ} {answers : Bool} {rest : List IceCandidate} (h : IceBalance x)
    (hcall : x.session.calls[i]? = some (.flushing rest answers)) :
    IceBalance { x with
      session := (x.session.flushNext answers rest).1.setCall i
        (x.session.flushNext answers rest).2 } := by
  cases rest with
  | nil =>
    have hnext : SessionCall.held (if answers then .creatingSdpAnswer else
        .returned (.ok true)) = [] := by
      cases answers <;> rfl
    exact h.same (Session.sameIce_setCall ⟨rfl, rfl, rfl, rfl⟩ hcall rfl hnext)
  | cons candidate rest =>
    have hmem : candidate ∈ x.session.heldCandidates :=
      List.mem_flatMap.2 ⟨_, List.mem_of_getElem? hcall, List.mem_cons_self⟩
    refine ⟨fun c => ?_, h.bounded, fun hready => ?_, h.drained, h.described, h.kept⟩
    · have hc := h.conserved c
      have hheld := Session.count_held_set c hcall (.flushing rest answers)
      simp only [Session.flushNext, Session.setCall, Session.heldCandidates, SessionCall.held,
        List.count_append, List.count_nil, List.count_cons] at hc hheld ⊢
      omega
    · -- nothing is held before the remote description is ready
      exact absurd ((h.early hready).2 ▸ hmem) List.not_mem_nil

/-- A flush is cut short: what it held is lost. -/
theorem IceBalance.cut {i : ℕ} {call next : SessionCall} {session : Session} (h : IceBalance x)
    (hcall : x.session.calls[i]? = some call) (hsame : Session.SameQueue x.session session)
    (hnext : next.held = []) :
    IceBalance { x with
      rejected := true
      lost := x.lost ++ call.held
      session := session.setCall i next } := by
  have hheld := fun c => Session.count_held_set c hcall next
  refine ⟨fun c => ?_, hsame.pending ▸ h.bounded, fun hready => ?_, fun hready => ?_,
    h.described.trans hsame.ready.symm, nofun⟩
  · have hc := h.conserved c
    have hheld := hheld c
    simp only [Session.setCall, Session.heldCandidates, hsame.added, hsame.pending,
      hsame.calls, hnext,
      List.count_append, List.count_nil] at hc hheld ⊢
    omega
  · obtain ⟨hadded, hnone⟩ := h.early (hsame.ready ▸ hready)
    refine ⟨hsame.added.trans hadded, ?_⟩
    have hcallHeld : call.held = [] := by
      refine List.eq_nil_iff_forall_not_mem.2 fun c hc => ?_
      have hmem : c ∈ x.session.heldCandidates :=
        List.mem_flatMap.2 ⟨call, List.mem_of_getElem? hcall, hc⟩
      exact List.not_mem_nil (hnone ▸ hmem)
    exact (Session.sameIce_setCall hsame hcall hcallHeld hnext).held.trans hnone
  · exact hsame.pending.trans (h.drained (hsame.ready ▸ hready))

theorem observed_taken (x : IceState) (event : Session.SessionEvent) :
    (x.observed event).taken = x.taken := by
  unfold IceState.observed
  split
  · split
    · rfl
    · split_ifs <;> rfl
    · rfl
  · rfl

theorem iceBalance_resume (h : IceBalance x) {i : ℕ} {call : SessionCall}
    {outcome : Session.Settlement}
    {r : Session × SessionCall} (hcall : x.session.calls[i]? = some call)
    (hstep : Session.IceStep x.session call outcome r) :
    IceBalance { x.observed (.resume i outcome) with session := r.1.setCall i r.2 } := by
  cases hstep with
  | flush answers sdp hflush houtcome hr =>
    subst hflush houtcome hr
    have hobserved : x.observed (.resume i (.resolved sdp)) = { x with described := true } := by
      simp [IceState.observed, hcall]
    rw [hobserved]
    exact h.flushed hcall
  | next rest answers sdp hflushing houtcome hr =>
    subst hflushing houtcome hr
    have hobserved : x.observed (.resume i (.resolved sdp)) = x := by
      simp [IceState.observed, hcall]
    rw [hobserved]
    exact h.next hcall
  | rejected error hadds houtcome hsame hheld =>
    subst houtcome
    have hobserved : x.observed (.resume i (.rejected error)) =
        { x with rejected := true, lost := x.lost ++ call.held } := by
      simp [IceState.observed, hcall, hadds]
    rw [hobserved]
    exact h.cut hcall hsame hheld
  | other hnone hsame hheld hother =>
    obtain ⟨hobserved, hsession⟩ := observed_of_held hcall hnone hother h
    refine hobserved.same ?_
    rw [hsession]
    exact Session.sameIce_setCall hsame hcall hnone hheld

/-- Every step keeps the balance. -/
theorem iceBalance_step (h : IceBalance x) {event : Session.SessionEvent}
    (hstep : x.step crypto event = some y) : IceBalance y := by
  obtain ⟨session, hsession, rfl⟩ := Option.map_eq_some_iff.1 hstep
  have hoff : Session.SameIce x.session { x.session with negotiationTimer := false } :=
    ⟨rfl, rfl, rfl, rfl⟩
  cases event with
  | start =>
    cases hsession
    exact h.unmoved (Session.sameIce_start _) rfl
  | signal message =>
    cases hsession
    exact iceBalance_signal h message
  | close =>
    cases hsession
    refine h.unmoved ?_ rfl
    unfold Session.close
    split
    · exact ⟨rfl, rfl, rfl, rfl⟩
    · exact hoff.trans (Session.sameIce_setState _ .closed)
  | iceCandidate candidate =>
    cases hsession
    refine h.unmoved (Session.SameIce.trans ?_ (Session.sameIce_addCall rfl)) rfl
    exact ⟨rfl, rfl, rfl, rfl⟩
  | dataChannel =>
    cases hsession
    exact h.unmoved ⟨rfl, rfl, rfl, rfl⟩ rfl
  | connectionState state =>
    simp only [Session.step] at hsession
    split_ifs at hsession <;> cases hsession
    · exact h.unmoved (Session.sameIce_setState _ state) rfl
    · exact h.unmoved ⟨rfl, rfl, rfl, rfl⟩ rfl
  | channelOpen =>
    obtain ⟨-, hsession⟩ := Option.ite_none_left_eq_some.1 hsession
    obtain rfl := Option.some.inj hsession
    exact h.unmoved (hoff.trans (Session.sameIce_setState _ .connected)) rfl
  | channelError | channelClose =>
    obtain ⟨-, hsession⟩ := Option.ite_none_left_eq_some.1 hsession
    obtain rfl := Option.some.inj hsession
    exact h.unmoved (Session.sameIce_setState _ _) rfl
  | timeout =>
    obtain ⟨-, hsession⟩ := Option.ite_none_right_eq_some.1 hsession
    obtain rfl := Option.some.inj hsession
    refine h.unmoved ?_ rfl
    dsimp only
    split_ifs
    · exact hoff.trans (Session.sameIce_setState _ .failed)
    · exact hoff
  | resume i outcome =>
    simp only [Session.step, Option.bind_eq_bind, Option.bind_eq_some_iff] at hsession
    obtain ⟨call, hcall, ⟨s₁, next⟩, hcontinue, hsession⟩ := hsession
    cases hsession
    have hbalance := iceBalance_resume h hcall (Session.continueCall_ice hcontinue)
    rw [show IceState.takenBy (s₁.setCall i next) (.resume i outcome) = [] from rfl,
      List.append_nil,
      ← observed_taken x (.resume i outcome)]
    exact hbalance

/-- In every run the queue holds at most 64 candidates, no candidate is passed to `addIceCandidate`
before a `setRemoteDescription` has resolved, and none that was taken is passed on more than once.
Once the description is set and while no `addIceCandidate` has rejected, each is passed on exactly
once, but for those that a flush is about to pass on. -/
theorem candidates_once (crypto : HandshakeCrypto) (options : SessionOptions)
    {events : List Session.SessionEvent}
    (hrun : Run (Step (IceState.step crypto)) (.initial options) events x) :
    x.session.pendingCandidates.length ≤ maxPendingIceCandidates ∧
      (x.session.addedCandidates ≠ [] → x.described = true) ∧
      (∀ c, x.session.addedCandidates.count c ≤ x.taken.count c) ∧
      (x.described = true → x.rejected = false →
        (∀ c, x.session.addedCandidates.count c + x.session.heldCandidates.count
          c = x.taken.count c) ∧
          ((∀ call ∈ x.session.calls, call.held = []) →
            ∀ c, x.session.addedCandidates.count c = x.taken.count c)) := by
  have hbalance : IceBalance x :=
    hrun.invariant (iceBalance_initial options) fun _ _ _ h hstep => iceBalance_step h hstep
  refine ⟨hbalance.bounded, fun hadded => ?_, fun c => ?_, fun hdescribed hrejected => ?_⟩
  · rw [hbalance.described]
    by_contra hready
    exact hadded (hbalance.early (by simpa using hready)).1
  · have hc := hbalance.conserved c
    omega
  · have hconserved : ∀ c, x.session.addedCandidates.count c + x.session.heldCandidates.count c =
        x.taken.count c := by
      intro c
      have hc := hbalance.conserved c
      rw [hbalance.drained (hbalance.described ▸ hdescribed), hbalance.kept hrejected] at hc
      simp only [List.count_nil] at hc
      omega
    refine ⟨hconserved, fun hnone c => ?_⟩
    have hheld : x.session.heldCandidates = [] := List.flatMap_eq_nil_iff.2 hnone
    simpa [hheld] using hconserved c

end Balance

/-! ## Candidates around an offer -/

namespace IceState

def recipientOptions : SessionOptions := { Session.sampleSender with role := .recipient }

def sdpOffer : Session.SessionEvent :=
  .signal (Session.sampleTransfer.envelope (.sdpOffer (js "v=0")))

def candidate (text : String) : IceCandidate := ⟨js text, none, none, none⟩

/-- A candidate of the transfer arrives. -/
def arrives (text : String) : Session.SessionEvent :=
  .signal (Session.sampleTransfer.envelope (.iceCandidate (candidate text)))

/-- Candidates arrive before the offer, while it is set, and during the flush. -/
theorem candidates_once_around : ∃ x,
    Run (Step (step Session.sampleCrypto)) (initial recipientOptions)
      [arrives "a", sdpOffer, arrives "b", .resume 1 (.resolved none), arrives "c",
        .resume 1 (.resolved none), .resume 1 (.resolved none)] x ∧
      ∀ c, x.session.addedCandidates.count c = [candidate "a", candidate "b",
        candidate "c"].count c := by
  have hrun : (exec (step Session.sampleCrypto) (initial recipientOptions)
      [arrives "a", sdpOffer, arrives "b", .resume 1 (.resolved none), arrives "c",
        .resume 1 (.resolved none), .resume 1 (.resolved none)]).any (fun x =>
          decide (x.described = true ∧
          x.rejected = false ∧ (∀ call ∈ x.session.calls, call.held = []) ∧
            x.taken = [candidate "a", candidate "b", candidate "c"])) = true := by
    decide +kernel
  obtain ⟨x, hexec, hx⟩ := (Option.any_eq_true _ _).1 hrun
  obtain ⟨hdescribed, hrejected, hnone, htaken⟩ := of_decide_eq_true hx
  have hrun := Run.of_exec hexec
  refine ⟨x, hrun, fun c => ?_⟩
  rw [← htaken]
  exact ((candidates_once _ _ hrun).2.2.2 hdescribed hrejected).2 hnone c

/-- The remote description is set when the session is closed.  The call for the next candidate
returns `false`, and the candidate is not passed on. -/
theorem candidates_once_closed : ∃ x,
    Run (Step (step Session.sampleCrypto)) (initial recipientOptions)
      [sdpOffer, .resume 0 (.resolved none), .resume 0 (.resolved none), .close, arrives "a"] x ∧
      x.described = true ∧ x.rejected = false ∧
      x.session.calls.getLast? = some (.returned (.ok false)) ∧
      x.session.addedCandidates.count (candidate "a") = 0 :=
  ⟨_, Run.of_exec rfl, rfl, rfl, rfl, rfl⟩

end IceState

end SelfRelay
