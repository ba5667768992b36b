import SelfRelay.Client.PresenceClient
import Mathlib.Tactic.SplitIfs

/-!
# Wedged presence clients

A client is sound if something will move it on: its attempt to connect awaits a ticket or a socket
that it listens to, and a running client that has not failed has a socket, a request or a timer.
Four events break this (`wedges`).  `stop` detaches the handlers of a connecting socket and leaves
its promise in `openingPromise`, where the next `start` finds it.  An attempt that fails after the
last permitted one sets the status `failed` and leaves a pending timer alone, and `onclose` of a
connecting socket starts such a timer itself before the attempt fails.  A socket that begins to
close leaves the client with nothing but the close event to come.  Without these events every
reachable client is sound (`never_wedged_iff`).
-/

namespace SelfRelay

open StepSystem

namespace PresenceSocketClient

variable {s s' : PresenceSocketClient} {event : PresenceEvent} {i j : ℕ}

/-- The socket is open or connecting. -/
def Alive (s : PresenceSocketClient) (i : ℕ) : Prop :=
  (s.sockets i).readyState = .connecting ∨ (s.sockets i).readyState = .opened

structure Sound (s : PresenceSocketClient) : Prop where
  opening : s.openingPromise ≠ none →
    s.openingPromise = some .ticket ∨ ∃ i, s.sockets i = ⟨.connecting, true⟩
  running : s.running = true → s.currentStatus ≠ .failed →
    s.socketState = some .opened ∨ s.socketState = some .connecting ∨
      s.openingPromise = some .ticket ∨ s.reconnectTimer = true
  single : ∀ i j, s.Alive i → s.Alive j → i = j
  quiet : s.currentStatus = .failed ∨ s.currentStatus = .idle → s.reconnectTimer = false

/-- The next failed attempt is one too many. -/
def Exhausted (s : PresenceSocketClient) : Prop :=
  s.running = true ∧ s.maxReconnectAttempts ≤ s.reconnectAttempts

/-- The event leaves the client unsound. -/
def wedges (s : PresenceSocketClient) : PresenceEvent → Prop
  | .stop => s.socketState = some .connecting
  | .closing i => s.socket = some i ∧ s.reconnectTimer = false
  | .ticketFailed => s.Exhausted ∧ s.reconnectTimer = true
  | .error i => s.sockets i = ⟨.connecting, true⟩ ∧ s.Exhausted ∧ s.reconnectTimer = true
  | .closed i => s.sockets i = ⟨.connecting, true⟩ ∧ s.Exhausted
  | _ => False

/-- The fields of a client that has not been wedged agree.  The client may
have to go on connecting. -/
structure Consistent (s : PresenceSocketClient) : Prop where
  alive : ∀ i, s.Alive i → s.socket = some i
  listening : ∀ i, s.socket = some i → (s.sockets i).listening = true
  opening : ∀ i, s.openingPromise = some (.socket i) ↔
    s.socket = some i ∧ (s.sockets i).readyState = .connecting
  ticket : s.openingPromise = some .ticket → ∀ i, ¬ s.Alive i
  running : ∀ i, s.Alive i → s.running = true
  online : ∀ i, (s.sockets i).readyState = .opened → s.currentStatus ≠ .failed
  timer : s.reconnectTimer = true → s.running = true ∧ s.currentStatus ≠ .failed
  status : s.running = true → s.currentStatus ≠ .idle

/-- A consistent client that waits for the next attempt has asked for a ticket or set the timer. -/
structure Settled (s : PresenceSocketClient) : Prop extends Consistent s where
  waiting : s.running = true → s.currentStatus ≠ .failed → (∀ i, ¬ s.Alive i) →
    s.openingPromise = some .ticket ∨ s.reconnectTimer = true

theorem settled_initial (maxReconnectAttempts : ℕ) : (initial maxReconnectAttempts).Settled where
  alive := by simp [initial, Alive]
  listening := by simp [initial]
  opening := by simp [initial]
  ticket := by simp [initial]
  running := by simp [initial, Alive]
  online := by simp [initial]
  timer := by simp [initial]
  status := by simp [initial]
  waiting := by simp [initial]

theorem socketState_eq {state : SocketState} :
    s.socketState = some state ↔ ∃ i, s.socket = some i ∧ (s.sockets i).readyState = state := by
  simp [socketState]

theorem Settled.sound (hs : s.Settled) : s.Sound where
  opening := by
    intro hopening
    cases hcase : s.openingPromise with
    | none => exact absurd hcase hopening
    | some opening =>
      cases opening with
      | ticket => exact .inl rfl
      | socket i =>
        obtain ⟨hsocket, hconnecting⟩ := (hs.opening i).1 hcase
        exact .inr ⟨i, by rw [← hconnecting, ← hs.listening i hsocket]⟩
  running := by
    intro hrunning hfailed
    by_cases halive : ∃ i, s.Alive i
    · obtain ⟨i, hi⟩ := halive
      have hsocket := hs.alive i hi
      rcases hi with hconnecting | hopened
      · exact .inr (.inl (socketState_eq.2 ⟨i, hsocket, hconnecting⟩))
      · exact .inl (socketState_eq.2 ⟨i, hsocket, hopened⟩)
    · exact .inr (.inr (hs.waiting hrunning hfailed (not_exists.1 halive)))
  single := by
    intro i j hi hj
    exact Option.some.inj ((hs.alive i hi).symm.trans (hs.alive j hj))
  quiet := by
    intro hstatus
    by_contra htimer
    rw [Bool.not_eq_false] at htimer
    obtain ⟨hrunning, hfailed⟩ := hs.timer htimer
    exact hstatus.elim hfailed (hs.status hrunning)

/-! ## Connecting -/

theorem Consistent.run (hs : s.Consistent) (hrunning : s.running = false) : s.run.Consistent where
  alive := hs.alive
  listening := hs.listening
  opening := hs.opening
  ticket := hs.ticket
  running _ _ := rfl
  online i hi := absurd (hs.running i (.inr hi)) (Bool.not_eq_true _ ▸ hrunning)
  timer htimer := absurd (hs.timer htimer).1 (Bool.not_eq_true _ ▸ hrunning)
  status := by
    intro _
    unfold PresenceSocketClient.run setStatus
    dsimp only
    split <;> decide

/-- A consistent client that does not have an attempt under way is given one by `connect`. -/
theorem Consistent.connect (hs : s.Consistent) : s.connect.Settled := by
  -- the client after it is marked as running
  obtain ⟨a, ha, hrunning, heq⟩ : ∃ a : PresenceSocketClient, a.Consistent ∧ a.running = true ∧
      s.connect = if a.socketState = some .opened then a
        else if a.openingPromise.isSome then a else a.openSocket := by
    cases hrun : s.running with
    | true => exact ⟨s, hs, hrun, by simp [PresenceSocketClient.connect, hrun]⟩
    | false => exact ⟨s.run, hs.run hrun, rfl, by simp [PresenceSocketClient.connect, hrun]⟩
  rw [heq]
  split_ifs with hopened hopening
  · obtain ⟨i, -, hi⟩ := socketState_eq.1 hopened
    exact ⟨ha, fun _ _ hdead => absurd (.inr hi) (hdead i)⟩
  · refine ⟨ha, fun _ _ hdead => .inl ?_⟩
    obtain ⟨opening, hcase⟩ := Option.isSome_iff_exists.1 hopening
    cases opening with
    | ticket => exact hcase
    | socket i => exact absurd (.inl ((ha.opening i).1 hcase).2) (hdead i)
  · have hnone : a.openingPromise = none := Option.not_isSome_iff_eq_none.1 hopening
    have hdead : ∀ i, ¬ a.Alive i := by
      intro i hi
      have hsocket := ha.alive i hi
      rcases hi with hconnecting | hopen
      · exact Option.some_ne_none _ (((ha.opening i).2 ⟨hsocket, hconnecting⟩).symm.trans hnone)
      · exact hopened (socketState_eq.2 ⟨i, hsocket, hopen⟩)
    rw [openSocket, if_pos hrunning]
    exact
      { alive := ha.alive
        listening := ha.listening
        opening := fun i => iff_of_false nofun fun h => hdead i (.inl h.2)
        ticket := fun _ => hdead
        running := ha.running
        online := ha.online
        timer := ha.timer
        status := ha.status
        waiting := fun _ _ _ => .inl rfl }

theorem Settled.start (hs : s.Settled) : s.start.Settled := by
  unfold PresenceSocketClient.start
  split_ifs with hrunning
  · exact hs
  · exact (hs.run (Bool.eq_false_iff.2 hrunning)).connect

theorem Settled.timeout (hs : s.Settled) : s.timeout.Settled := by
  have hoff : Consistent { s with reconnectTimer := false } :=
    { hs.toConsistent with timer := nofun }
  exact hoff.connect

/-! ## Sockets -/

theorem alive_setSocket {socket : PresenceSocket} : (s.setSocket i socket).Alive j ↔
    if j = i then socket.readyState = .connecting ∨ socket.readyState = .opened else s.Alive j := by
  unfold Alive setSocket
  dsimp only
  split_ifs with h
  · rw [h, Function.update_self]
  · rw [Function.update_of_ne h]

/-- A socket that is not the client's changes its state. -/
theorem Settled.setSocket (hs : s.Settled) {socket : PresenceSocket} (hsocket : s.socket ≠ some i)
    (hdead : ¬ (socket.readyState = .connecting ∨ socket.readyState = .opened)) :
    (s.setSocket i socket).Settled := by
  have halive : ∀ j, (s.setSocket i socket).Alive j ↔ s.Alive j := by
    intro j
    rw [alive_setSocket]
    split_ifs with h
    · subst h
      exact iff_of_false hdead fun hj => hsocket (hs.alive j hj)
    · rfl
  have hother : ∀ j, s.socket = some j → (s.setSocket i socket).sockets j = s.sockets j :=
    fun j hj => Function.update_of_ne (fun h : j = i => hsocket (h ▸ hj)) _ _
  exact
    { alive := fun j hj => hs.alive j ((halive j).1 hj)
      listening := by
        intro j hj
        rw [hother j hj]
        exact hs.listening j hj
      opening := by
        intro j
        rw [show (s.setSocket i socket).openingPromise = s.openingPromise from rfl, hs.opening]
        refine and_congr_right fun hj => ?_
        rw [hother j hj]
      ticket := fun hticket j hj => hs.ticket hticket j ((halive j).1 hj)
      running := fun j hj => hs.running j ((halive j).1 hj)
      online := fun j hj => by
        have hsame := hother j (hs.alive j ((halive j).1 (.inr hj)))
        exact hs.online j (hsame ▸ hj)
      timer := hs.timer
      status := hs.status
      waiting := fun hrunning hfailed hnone =>
        hs.waiting hrunning hfailed fun j hj => hnone j ((halive j).2 hj) }

/-- Where the client's socket is no longer open or connecting, no socket is. -/
theorem Consistent.not_alive_setSocket (hs : s.Consistent) {socket : PresenceSocket}
    (hsocket : s.socket = some i)
    (hdead : ¬ (socket.readyState = .connecting ∨ socket.readyState = .opened)) (j : ℕ) :
    ¬ (s.setSocket i socket).Alive j := by
  rw [alive_setSocket]
  split_ifs with h
  · exact hdead
  · exact fun hj => h (Option.some.inj ((hs.alive j hj).symm.trans hsocket))

/-- The client gives up its socket and the attempt that awaits it. -/
theorem Settled.release (hs : s.Settled) (socket : PresenceSocket) (hsocket : s.socket = some i)
    (hdead : ¬ (socket.readyState = .connecting ∨ socket.readyState = .opened)) :
    Consistent { s.setSocket i socket with socket := none, openingPromise := none } where
  alive j hj := absurd hj (hs.not_alive_setSocket hsocket hdead j)
  listening := nofun
  opening := by simp
  ticket := nofun
  running j hj := absurd hj (hs.not_alive_setSocket hsocket hdead j)
  online j hj := absurd (.inr hj) (hs.not_alive_setSocket hsocket hdead j)
  timer := hs.timer
  status := hs.status

theorem Settled.not_opening (hs : s.Settled) (hsocket : s.socket = some i)
    (hconnecting : (s.sockets i).readyState ≠ .connecting) (j : ℕ) :
    s.openingPromise ≠ some (.socket j) := by
  intro hcase
  obtain ⟨hj, hstate⟩ := (hs.opening j).1 hcase
  obtain rfl := Option.some.inj (hsocket.symm.trans hj)
  exact hconnecting hstate

theorem scheduleReconnect_eq (hrunning : s.running = true) :
    s.scheduleReconnect = { s with reconnectTimer := true } := by
  cases htimer : s.reconnectTimer with
  | true =>
    rw [scheduleReconnect, htimer, Bool.or_true, if_pos rfl]
    exact htimer ▸ rfl
  | false => simp [scheduleReconnect, hrunning, htimer]

/-- The close handler of the client's socket. -/
theorem Consistent.handleSocketClosed (hs : Consistent { s with socket := none })
    (hsocket : s.socket = some i) : (s.handleSocketClosed i).Settled := by
  rw [PresenceSocketClient.handleSocketClosed, if_neg (not_not.2 hsocket)]
  dsimp only
  split_ifs with hrunning
  · rw [scheduleReconnect_eq (by exact hrunning)]
    exact
      { alive := hs.alive
        listening := hs.listening
        opening := hs.opening
        ticket := hs.ticket
        running := hs.running
        online := fun _ _ => by simp [setStatus]
        timer := fun _ => ⟨hrunning, by simp [setStatus]⟩
        status := fun _ => by simp [setStatus]
        waiting := fun _ _ _ => .inr rfl }
  · exact ⟨hs, fun h => absurd h hrunning⟩

theorem handleSocketClosed_of_ne (hsocket : s.socket ≠ some i) : s.handleSocketClosed i = s :=
  if_pos hsocket

/-- An attempt fails that the client has no socket of, and not as one too many under a timer. -/
theorem Consistent.openFailed (hs : Consistent { s with openingPromise := none })
    (hdead : ∀ i, ¬ s.Alive i)
    (hroom : s.Exhausted → s.reconnectTimer = false) : s.openFailed.Settled := by
  unfold PresenceSocketClient.openFailed
  dsimp only
  split_ifs with hrunning hattempts
  · rw [scheduleReconnect_eq (by exact hrunning)]
    exact
      { alive := hs.alive
        listening := hs.listening
        opening := hs.opening
        ticket := hs.ticket
        running := hs.running
        online := fun _ _ => by simp [setStatus]
        timer := fun _ => ⟨hrunning, by simp [setStatus]⟩
        status := fun _ => by simp [setStatus]
        waiting := fun _ _ _ => .inr rfl }
  · have htimer : s.reconnectTimer = false :=
      hroom ⟨hrunning, Nat.le_of_lt_succ (Nat.lt_of_not_le hattempts)⟩
    exact
      { alive := hs.alive
        listening := hs.listening
        opening := hs.opening
        ticket := hs.ticket
        running := hs.running
        online := fun i hi => absurd (.inr hi) (hdead i)
        timer := fun h => Bool.noConfusion (h.symm.trans htimer)
        status := fun _ => by simp [setStatus]
        waiting := fun _ hfailed => absurd rfl hfailed }
  · exact ⟨hs, fun h => absurd h hrunning⟩

theorem openFailed_socket (s : PresenceSocketClient) : s.openFailed.socket = s.socket := by
  unfold PresenceSocketClient.openFailed scheduleReconnect setStatus
  dsimp only
  split_ifs <;> rfl

/-! ## Events -/

theorem stop_of_none (hsocket : s.socket = none) : s.stop =
    { s with running := false, reconnectTimer := false, reconnectAttempts := 0, currentStatus :=
      .idle } := by
  simp only [PresenceSocketClient.stop, hsocket]
  rfl

theorem stop_of_some (hsocket : s.socket = some i) : s.stop =
    { s.setSocket i ⟨(s.sockets i).readyState.shut, false⟩ with
      socket := none, running := false, reconnectTimer := false, reconnectAttempts := 0,
      currentStatus := .idle } := by
  simp only [PresenceSocketClient.stop, hsocket]
  rfl

theorem Settled.stop (hs : s.Settled) (hconnecting : s.socketState ≠ some .connecting) :
    s.stop.Settled := by
  cases hsocket : s.socket with
  | none =>
    have hdead : ∀ i, ¬ s.Alive i := fun i hi => by simp [hs.alive i hi] at hsocket
    rw [stop_of_none hsocket]
    exact
      { alive := hs.alive
        listening := hs.listening
        opening := hs.opening
        ticket := hs.ticket
        running := fun i hi => absurd hi (hdead i)
        online := fun i hi => absurd (.inr hi) (hdead i)
        timer := nofun
        status := nofun
        waiting := nofun }
  | some i =>
    have hstate : (s.sockets i).readyState ≠ .connecting :=
      fun h => hconnecting (socketState_eq.2 ⟨i, hsocket, h⟩)
    have hdead : ¬ ((s.sockets i).readyState.shut = .connecting ∨
        (s.sockets i).readyState.shut = .opened) := by
      cases (s.sockets i).readyState <;> decide
    have hnone : ∀ j, ¬ (s.setSocket i ⟨(s.sockets i).readyState.shut, false⟩).Alive j :=
      hs.not_alive_setSocket hsocket hdead
    rw [stop_of_some hsocket]
    exact
      { alive := fun j hj => absurd hj (hnone j)
        listening := nofun
        opening := fun j => iff_of_false (hs.not_opening hsocket hstate j) nofun
        ticket := fun _ => hnone
        running := fun j hj => absurd hj (hnone j)
        online := fun j hj => absurd (.inr hj) (hnone j)
        timer := nofun
        status := nofun
        waiting := nofun }

theorem Settled.ticketIssued (hs : s.Settled) (hticket : s.openingPromise = some .ticket) :
    s.ticketIssued.Settled := by
  have hdead := hs.ticket hticket
  unfold PresenceSocketClient.ticketIssued
  split_ifs with hrunning
  · have halive : ∀ j, (s.setSocket s.created ⟨.connecting, true⟩).Alive j → j = s.created := by
      intro j hj
      rw [alive_setSocket] at hj
      split_ifs at hj with h
      · exact h
      · exact absurd hj (hdead j)
    exact
      { alive := fun j hj => congrArg some (halive j hj).symm
        listening := by
          intro j hj
          obtain rfl := Option.some.inj hj
          simp [PresenceSocketClient.setSocket]
        opening := by
          intro j
          constructor
          · intro hj
            obtain rfl := Opening.socket.inj (Option.some.inj hj)
            exact ⟨rfl, by simp [PresenceSocketClient.setSocket]⟩
          · rintro ⟨hj, -⟩
            obtain rfl := Option.some.inj hj
            rfl
        ticket := nofun
        running := fun _ _ => hrunning
        online := by
          intro j hj
          obtain rfl := halive j (.inr hj)
          simp [PresenceSocketClient.setSocket] at hj
        timer := hs.timer
        status := hs.status
        waiting := fun _ _ hnone => absurd (.inl (by simp [PresenceSocketClient.setSocket]))
          (hnone s.created) }
  · exact
      { alive := hs.alive
        listening := hs.listening
        opening := fun j => iff_of_false nofun fun h => hdead j (.inl h.2)
        ticket := nofun
        running := hs.running
        online := hs.online
        timer := hs.timer
        status := hs.status
        waiting := fun h => absurd h hrunning }

theorem Settled.ticketFailed (hs : s.Settled) (hticket : s.openingPromise = some .ticket)
    (hroom : s.Exhausted → s.reconnectTimer = false) : s.openFailed.Settled := by
  have hdead := hs.ticket hticket
  have hcleared : Consistent { s with openingPromise := none } :=
    { hs.toConsistent with
      opening := fun i => iff_of_false nofun fun h => hdead i (.inl h.2)
      ticket := nofun }
  exact hcleared.openFailed hdead hroom

theorem Settled.socketOpened (hs : s.Settled)
    (hconnecting : (s.sockets i).readyState = .connecting) :
    (s.socketOpened i).Settled := by
  have hsocket := hs.alive i (.inl hconnecting)
  have hrunning := hs.running i (.inl hconnecting)
  unfold PresenceSocketClient.socketOpened
  dsimp only
  rw [if_pos (hs.listening i hsocket)]
  exact
    { alive := by
        intro j hj
        change (s.setSocket i _).Alive j at hj
        rw [alive_setSocket] at hj
        split_ifs at hj with h
        · exact h ▸ hsocket
        · exact hs.alive j hj
      listening := by
        intro j hj
        obtain rfl := Option.some.inj (hsocket.symm.trans hj)
        simpa [PresenceSocketClient.setSocket, setStatus] using hs.listening i hsocket
      opening := by
        refine fun j => iff_of_false nofun ?_
        rintro ⟨hj, hstate⟩
        obtain rfl := Option.some.inj (hsocket.symm.trans hj)
        simp [PresenceSocketClient.setSocket, setStatus] at hstate
      ticket := nofun
      running := fun _ _ => hrunning
      online := fun _ _ => by simp [setStatus]
      timer := fun htimer => ⟨(hs.timer htimer).1, by simp [setStatus]⟩
      status := fun _ => by simp [setStatus]
      waiting := fun _ _ hnone =>
        absurd (.inr (by simp [PresenceSocketClient.setSocket, setStatus])) (hnone i) }

/-- The client's socket begins to close under a timer. -/
theorem Settled.socketClosing (hs : s.Settled) (hopened : (s.sockets i).readyState = .opened)
    (htimer : s.reconnectTimer = true) : (s.socketClosing i).Settled := by
  have hsocket := hs.alive i (.inr hopened)
  have hnone : ∀ j, ¬ (s.socketClosing i).Alive j := hs.not_alive_setSocket hsocket (by simp)
  exact
    { alive := fun j hj => absurd hj (hnone j)
      listening := by
        intro j hj
        obtain rfl := Option.some.inj (hsocket.symm.trans hj)
        simpa [PresenceSocketClient.socketClosing, PresenceSocketClient.setSocket]
          using hs.listening i hsocket
      opening := fun j => iff_of_false (hs.not_opening hsocket (by rw [hopened]; decide) j)
        fun h => hnone j (.inl h.2)
      ticket := fun _ => hnone
      running := fun j hj => absurd hj (hnone j)
      online := fun j hj => absurd (.inr hj) (hnone j)
      timer := hs.timer
      status := hs.status
      waiting := fun _ _ _ => .inr htimer }

/-! ## The end of a socket -/

/-- The socket of the event is closed. -/
def shutSocket (s : PresenceSocketClient) (i : ℕ) : PresenceSocketClient :=
  s.setSocket i ⟨.closed, (s.sockets i).listening⟩

theorem not_alive_closed {listening : Bool} :
    ¬ ((⟨.closed, listening⟩ : PresenceSocket).readyState = .connecting ∨
      (⟨.closed, listening⟩ : PresenceSocket).readyState = .opened) := by
  simp

theorem handleSocketClosed_socket (hsocket : s.socket = some i) :
    (s.handleSocketClosed i).socket = none := by
  unfold PresenceSocketClient.handleSocketClosed scheduleReconnect setStatus
  rw [if_neg (not_not.2 hsocket)]
  dsimp only
  split_ifs <;> rfl

theorem handleSocketClosed_exhausted : (s.handleSocketClosed i).Exhausted ↔ s.Exhausted := by
  unfold PresenceSocketClient.handleSocketClosed scheduleReconnect setStatus Exhausted
  dsimp only
  split_ifs <;> rfl

theorem handleSocketClosed_timer (hsocket : s.socket = some i) (hrunning : s.running = true) :
    (s.handleSocketClosed i).reconnectTimer = true := by
  rw [PresenceSocketClient.handleSocketClosed, if_neg (not_not.2 hsocket)]
  dsimp only
  rw [if_pos hrunning, scheduleReconnect_eq (by exact hrunning)]

/-- The handler does not look at the attempt under way. -/
theorem handleSocketClosed_opening : { s.handleSocketClosed i with openingPromise := none } =
    { s with openingPromise := none }.handleSocketClosed i := by
  unfold PresenceSocketClient.handleSocketClosed scheduleReconnect setStatus
  dsimp only
  split_ifs <;> rfl

theorem socketError_connecting (hs : s.Settled)
    (hconnecting : (s.sockets i).readyState = .connecting) :
    s.socketError i = { s.shutSocket i with socket := none }.openFailed := by
  have hsocket := hs.alive i (.inl hconnecting)
  have hdrop : (s.shutSocket i).dropSocket i = { s.shutSocket i with socket := none } :=
    if_pos hsocket
  have hnone : { s.shutSocket i with socket := none }.openFailed.socket ≠ some i := by
    rw [openFailed_socket]
    nofun
  rw [socketError, if_pos (hs.listening i hsocket), if_pos hconnecting]
  change (((s.shutSocket i).dropSocket i).openFailed).handleSocketClosed i = _
  rw [hdrop, handleSocketClosed_of_ne hnone]

theorem socketClosed_connecting (hs : s.Settled)
    (hconnecting : (s.sockets i).readyState = .connecting) :
    s.socketClosed i = ((s.shutSocket i).handleSocketClosed i).openFailed := by
  have hsocket := hs.alive i (.inl hconnecting)
  have hnone : ((s.shutSocket i).handleSocketClosed i).socket ≠ some i := by
    rw [handleSocketClosed_socket (by exact hsocket)]
    nofun
  rw [socketClosed, if_pos (hs.listening i hsocket), if_pos hconnecting]
  change (((s.shutSocket i).handleSocketClosed i).dropSocket i).openFailed = _
  rw [dropSocket, if_neg hnone]

theorem socketError_of_ne (hconnecting : (s.sockets i).readyState ≠ .connecting) :
    s.socketError i = if (s.sockets i).listening then (s.shutSocket i).handleSocketClosed i
      else s.shutSocket i := by
  simp [socketError, shutSocket, hconnecting]

theorem socketClosed_of_ne (hconnecting : (s.sockets i).readyState ≠ .connecting) :
    s.socketClosed i = if (s.sockets i).listening then (s.shutSocket i).handleSocketClosed i
      else s.shutSocket i := by
  simp [socketClosed, shutSocket, hconnecting]

/-- A socket that is not connecting closes. -/
theorem Settled.shutSocket (hs : s.Settled) (hconnecting : (s.sockets i).readyState ≠ .connecting) :
    (if (s.sockets i).listening then (s.shutSocket i).handleSocketClosed i
      else s.shutSocket i).Settled := by
  by_cases hsocket : s.socket = some i
  · have hnone : ∀ j, ¬ (s.shutSocket i).Alive j := hs.not_alive_setSocket hsocket not_alive_closed
    have hcleared : Consistent { s.shutSocket i with socket := none } :=
      { alive := fun j hj => absurd hj (hnone j)
        listening := nofun
        opening := fun j => iff_of_false (hs.not_opening hsocket hconnecting j) nofun
        ticket := fun _ => hnone
        running := fun j hj => absurd hj (hnone j)
        online := fun j hj => absurd (.inr hj) (hnone j)
        timer := hs.timer
        status := hs.status }
    rw [if_pos (hs.listening i hsocket)]
    exact hcleared.handleSocketClosed hsocket
  · rw [handleSocketClosed_of_ne (by exact hsocket), ite_self]
    exact hs.setSocket hsocket not_alive_closed

theorem Settled.socketError (hs : s.Settled)
    (hroom : s.sockets i = ⟨.connecting, true⟩ → s.Exhausted → s.reconnectTimer = false) :
    (s.socketError i).Settled := by
  by_cases hconnecting : (s.sockets i).readyState = .connecting
  · have hsocket := hs.alive i (.inl hconnecting)
    have hreleased := hs.release ⟨.closed, (s.sockets i).listening⟩ hsocket not_alive_closed
    have hlistening : s.sockets i = ⟨.connecting, true⟩ := by
      rw [← hconnecting, ← hs.listening i hsocket]
    rw [socketError_connecting hs hconnecting]
    exact Consistent.openFailed hreleased (hs.not_alive_setSocket hsocket not_alive_closed)
      (hroom hlistening)
  · rw [socketError_of_ne hconnecting]
    exact hs.shutSocket hconnecting

theorem Settled.socketClosed (hs : s.Settled)
    (hroom : s.sockets i = ⟨.connecting, true⟩ → ¬ s.Exhausted) : (s.socketClosed i).Settled := by
  by_cases hconnecting : (s.sockets i).readyState = .connecting
  · have hsocket := hs.alive i (.inl hconnecting)
    have hreleased := hs.release ⟨.closed, (s.sockets i).listening⟩ hsocket not_alive_closed
    have hlistening : s.sockets i = ⟨.connecting, true⟩ := by
      rw [← hconnecting, ← hs.listening i hsocket]
    have hhandled : Settled { (s.shutSocket i).handleSocketClosed i with
        openingPromise := none } := by
      rw [handleSocketClosed_opening]
      exact Consistent.handleSocketClosed (s := { s.shutSocket i with openingPromise := none })
        hreleased hsocket
    have hnone : ∀ j, ¬ ((s.shutSocket i).handleSocketClosed i).Alive j := by
      intro j hj
      have hfree : ((s.shutSocket i).handleSocketClosed i).socket = some j := hhandled.alive j hj
      rw [handleSocketClosed_socket (by exact hsocket)] at hfree
      cases hfree
    rw [socketClosed_connecting hs hconnecting]
    exact hhandled.toConsistent.openFailed hnone fun h =>
      absurd (handleSocketClosed_exhausted.1 h) (hroom hlistening)
  · rw [socketClosed_of_ne hconnecting]
    exact hs.shutSocket hconnecting

/-! ## Steps -/

theorem settled_step (hs : s.Settled) (hwedges : ¬ s.wedges event) (h : s.step event = some s') :
    s'.Settled := by
  cases event with
  | start =>
    cases h
    exact hs.start
  | connect =>
    cases h
    exact hs.connect
  | stop =>
    cases h
    exact hs.stop hwedges
  | ticketIssued =>
    obtain ⟨hticket, h⟩ := Option.ite_none_right_eq_some.1 h
    cases h
    exact hs.ticketIssued hticket
  | ticketFailed =>
    obtain ⟨hticket, h⟩ := Option.ite_none_right_eq_some.1 h
    cases h
    exact hs.ticketFailed hticket fun hexhausted =>
      Bool.eq_false_iff.2 fun htimer => hwedges ⟨hexhausted, htimer⟩
  | opened i =>
    obtain ⟨hconnecting, h⟩ := Option.ite_none_right_eq_some.1 h
    cases h
    exact hs.socketOpened hconnecting
  | closing i =>
    obtain ⟨hopened, h⟩ := Option.ite_none_right_eq_some.1 h
    cases h
    have hsocket := hs.alive i (.inr hopened)
    exact hs.socketClosing hopened (Bool.of_not_eq_false fun htimer => hwedges ⟨hsocket, htimer⟩)
  | error i =>
    obtain ⟨-, h⟩ := Option.ite_none_right_eq_some.1 h
    cases h
    exact hs.socketError fun hsocket hexhausted =>
      Bool.eq_false_iff.2 fun htimer => hwedges ⟨hsocket, hexhausted, htimer⟩
  | closed i =>
    obtain ⟨-, h⟩ := Option.ite_none_right_eq_some.1 h
    cases h
    exact hs.socketClosed fun hsocket hexhausted => hwedges ⟨hsocket, hexhausted⟩
  | timeout =>
    obtain ⟨-, h⟩ := Option.ite_none_right_eq_some.1 h
    cases h
    exact hs.timeout

/-- One failure too many under a timer. -/
theorem unsound_openFailed (hexhausted : s.Exhausted) (htimer : s.reconnectTimer = true) :
    ¬ s.openFailed.Sound := by
  have hfailed : s.openFailed = { s with
      reconnectAttempts := s.reconnectAttempts + 1, currentStatus := .failed, openingPromise :=
        none } := by
    unfold PresenceSocketClient.openFailed
    dsimp only
    rw [if_pos hexhausted.1, if_neg (Nat.not_le_of_lt (Nat.lt_succ_of_le hexhausted.2))]
    rfl
  intro hsound
  rw [hfailed] at hsound
  exact Bool.noConfusion (htimer.symm.trans (hsound.quiet (.inl rfl)))

/-- A socket that begins to close while nothing else is under way. -/
theorem unsound_socketClosing (hs : s.Settled) (hopened : (s.sockets i).readyState = .opened)
    (htimer : s.reconnectTimer = false) : ¬ (s.socketClosing i).Sound := by
  have hsocket := hs.alive i (.inr hopened)
  have hstate : (s.socketClosing i).socketState = some .closing :=
    socketState_eq.2 ⟨i, hsocket, by simp [PresenceSocketClient.socketClosing, setSocket]⟩
  intro hsound
  rcases hsound.running (hs.running i (.inr hopened)) (hs.online i hopened) with h | h | h | h
  · simp [hstate] at h
  · simp [hstate] at h
  · exact hs.ticket h i (.inr hopened)
  · exact Bool.noConfusion (htimer.symm.trans h)

/-- The promise under way awaits a socket that has lost its handlers. -/
structure Stuck (s : PresenceSocketClient) : Prop where
  dead : ∀ i, ¬ s.Alive i
  socket : s.socket = none
  opening : ∃ i, s.openingPromise = some (.socket i)
  timer : s.reconnectTimer = false

theorem Stuck.not_sound (hs : s.Stuck) : ¬ s.Sound := by
  obtain ⟨i, hopening⟩ := hs.opening
  intro hsound
  obtain hticket | ⟨j, hj⟩ := hsound.opening (by simp [hopening])
  · simp [hopening] at hticket
  · exact hs.dead j (.inl (by rw [hj]))

/-- Stopping a client while its socket is connecting. -/
theorem stuck_stop (hs : s.Settled) (hconnecting : s.socketState = some .connecting) :
    s.stop.Stuck := by
  obtain ⟨i, hsocket, hstate⟩ := socketState_eq.1 hconnecting
  have hdead : ¬ ((s.sockets i).readyState.shut = .connecting ∨
      (s.sockets i).readyState.shut = .opened) := by
    rw [hstate]
    decide
  have hnone : ∀ j, ¬ (s.setSocket i ⟨(s.sockets i).readyState.shut, false⟩).Alive j :=
    hs.not_alive_setSocket hsocket hdead
  rw [stop_of_some hsocket]
  exact
    { dead := hnone
      socket := rfl
      opening := ⟨i, (hs.opening i).2 ⟨hsocket, hstate⟩⟩
      timer := rfl }

theorem Stuck.connect (hs : s.Stuck) : s.connect.Stuck := by
  have hrun : (if s.running then s else s.run).Stuck := by
    split_ifs
    · exact hs
    · exact ⟨hs.dead, hs.socket, hs.opening, hs.timer⟩
  have hclosed : (if s.running then s else s.run).socketState ≠ some .opened := by
    simp [socketState, hrun.socket]
  obtain ⟨i, hopening⟩ := hrun.opening
  unfold PresenceSocketClient.connect
  dsimp only
  rw [if_neg hclosed, if_pos (by rw [hopening, Option.isSome_some])]
  exact hrun

theorem Stuck.shutSocket (hs : s.Stuck) : (s.shutSocket i).Stuck where
  dead := by
    intro j
    rw [PresenceSocketClient.shutSocket, alive_setSocket]
    split
    · exact not_alive_closed
    · exact hs.dead j
  socket := hs.socket
  opening := hs.opening
  timer := hs.timer

/-- Nothing moves a stuck client on. -/
theorem stuck_step (hs : s.Stuck) (h : s.step event = some s') : s'.Stuck := by
  obtain ⟨i, hopening⟩ := hs.opening
  have hclose : ∀ i, (if (s.sockets i).listening then (s.shutSocket i).handleSocketClosed i
      else s.shutSocket i).Stuck := by
    intro i
    rw [handleSocketClosed_of_ne (by rw [hs.shutSocket.socket]; nofun), ite_self]
    exact hs.shutSocket
  cases event with
  | start =>
    cases h
    unfold PresenceSocketClient.start
    split_ifs
    · exact hs
    · have hrun : s.run.Stuck := ⟨hs.dead, hs.socket, hs.opening, hs.timer⟩
      exact hrun.connect
  | connect =>
    cases h
    exact hs.connect
  | stop =>
    cases h
    rw [stop_of_none hs.socket]
    exact ⟨hs.dead, hs.socket, hs.opening, rfl⟩
  | ticketIssued | ticketFailed =>
    obtain ⟨hticket, -⟩ := Option.ite_none_right_eq_some.1 h
    simp [hopening] at hticket
  | opened j =>
    obtain ⟨hconnecting, -⟩ := Option.ite_none_right_eq_some.1 h
    exact absurd (.inl hconnecting) (hs.dead j)
  | closing j =>
    obtain ⟨hopened, -⟩ := Option.ite_none_right_eq_some.1 h
    exact absurd (.inr hopened) (hs.dead j)
  | error j =>
    obtain ⟨-, h⟩ := Option.ite_none_right_eq_some.1 h
    cases h
    rw [socketError_of_ne fun h => hs.dead j (.inl h)]
    exact hclose j
  | closed j =>
    obtain ⟨-, h⟩ := Option.ite_none_right_eq_some.1 h
    cases h
    rw [socketClosed_of_ne fun h => hs.dead j (.inl h)]
    exact hclose j
  | timeout =>
    obtain ⟨htimer, -⟩ := Option.ite_none_right_eq_some.1 h
    simp [hs.timer] at htimer

theorem stuck_run {es : List PresenceEvent} (hs : s.Stuck)
    (hrun : Run (Step step) s es s') : s'.Stuck :=
  hrun.invariant hs fun _ _ _ ha hstep => stuck_step ha hstep

theorem unsound_step (hs : s.Settled) (hwedges : s.wedges event) (h : s.step event = some s') :
    ¬ s'.Sound := by
  cases event with
  | stop =>
    cases h
    exact (stuck_stop hs hwedges).not_sound
  | ticketFailed =>
    obtain ⟨-, h⟩ := Option.ite_none_right_eq_some.1 h
    cases h
    exact unsound_openFailed hwedges.1 hwedges.2
  | closing i =>
    obtain ⟨hopened, h⟩ := Option.ite_none_right_eq_some.1 h
    cases h
    exact unsound_socketClosing hs hopened hwedges.2
  | error i =>
    obtain ⟨-, h⟩ := Option.ite_none_right_eq_some.1 h
    obtain ⟨hsocket, hexhausted, htimer⟩ := hwedges
    cases h
    rw [socketError_connecting hs (by rw [hsocket])]
    exact unsound_openFailed hexhausted htimer
  | closed i =>
    obtain ⟨-, h⟩ := Option.ite_none_right_eq_some.1 h
    obtain ⟨hsocket, hexhausted⟩ := hwedges
    have hconnecting : (s.sockets i).readyState = .connecting := by rw [hsocket]
    have hcurrent : s.socket = some i := hs.alive i (.inl hconnecting)
    cases h
    rw [socketClosed_connecting hs hconnecting]
    exact unsound_openFailed (handleSocketClosed_exhausted.2 hexhausted)
      (handleSocketClosed_timer hcurrent hexhausted.1)
  | start | connect | ticketIssued | opened | timeout => exact hwedges.elim

/-! ## Runs -/

/-- A client is sound in every state that a run reaches exactly when no event of the run is one of
the four that wedge it. -/
theorem never_wedged_iff (maxReconnectAttempts : ℕ) {es : List PresenceEvent} :
    Run (fun a event b => Step step a event b ∧ b.Sound) (initial maxReconnectAttempts) es s ↔
      Run (fun a event b => Step step a event b ∧ ¬ a.wedges event)
        (initial maxReconnectAttempts) es s := by
  have hkept : ∀ a event b, a.Settled → Step step a event b ∧ ¬ a.wedges event → b.Settled :=
    fun a event b ha hstep => settled_step ha hstep.2 hstep.1
  have hsafe : ∀ a event b, a.Settled → Step step a event b ∧ b.Sound → ¬ a.wedges event :=
    fun a event b ha hstep hwedges => unsound_step ha hwedges hstep.1 hstep.2
  constructor
  · intro hrun
    refine hrun.mono_of (settled_initial maxReconnectAttempts) ?_ ?_
    · exact fun a event b ha hstep => hkept a event b ha ⟨hstep.1, hsafe a event b ha hstep⟩
    · exact fun a event b ha hstep => ⟨hstep.1, hsafe a event b ha hstep⟩
  · intro hrun
    refine hrun.mono_of (settled_initial maxReconnectAttempts) hkept ?_
    exact fun a event b ha hstep => ⟨hstep.1, (hkept a event b ha hstep).sound⟩

/-! ## Three wedged clients -/

/-- A client that is stopped while its socket is connecting. -/
def stoppedWhileConnecting : List PresenceEvent := [.start, .ticketIssued, .stop]

/-- A client with one reconnect attempt, whose second socket closes before it opens. -/
def closedBeforeOpening : List PresenceEvent :=
  [.start, .ticketFailed, .timeout, .ticketIssued, .closed 0]

/-- A client whose open socket begins to close. -/
def closingWhileOnline : List PresenceEvent := [.start, .ticketIssued, .opened 0, .closing 0]

/-- The first client is unsound whatever follows, also when it is started again; the second has
failed and will go on; the third is online with nothing but a closing socket. -/
theorem never_wedged_iff_stopped :
    (∃ s t, Run (Step step) (initial 5) stoppedWhileConnecting s ∧ Run (Step step) s [.start] t ∧
      t.running = true ∧ t.currentStatus = .connecting ∧
      ∀ es u, Run (Step step) t es u → ¬ u.Sound ∧ u.socketState = none) ∧
    (∃ s, Run (Step step) (initial 1) closedBeforeOpening s ∧
      s.currentStatus = .failed ∧ s.reconnectTimer = true ∧ ¬ s.Sound) ∧
    ∃ s, Run (Step step) (initial 5) closingWhileOnline s ∧
      s.running = true ∧ s.currentStatus = .online ∧ s.socketState = some .closing ∧
      s.openingPromise = none ∧ s.reconnectTimer = false ∧ ¬ s.Sound := by
  refine ⟨?_, ?_, ?_⟩
  · have hconnecting : Run (fun a event b => Step step a event b ∧ ¬ a.wedges event) (initial 5)
        [.start, .ticketIssued] _ := .cons ⟨rfl, id⟩ (.cons ⟨rfl, id⟩ (.nil _))
    have hstuck := stuck_stop (hconnecting.invariant (settled_initial 5) fun _ _ _ ha hstep =>
      settled_step ha hstep.2 hstep.1) rfl
    refine ⟨_, _, Run.of_exec rfl, .cons rfl (.nil _), rfl, rfl, fun es u hrun => ?_⟩
    have hstarted := stuck_step hstuck (show step _ .start = some _ from rfl)
    have hu := stuck_run hstarted hrun
    exact ⟨hu.not_sound, by rw [socketState, hu.socket, Option.map_none]⟩
  · refine ⟨_, Run.of_exec rfl, rfl, rfl, fun hsound => ?_⟩
    exact Bool.noConfusion (hsound.quiet (.inl rfl))
  · have hopened : Run (fun a event b => Step step a event b ∧ ¬ a.wedges event) (initial 5)
        [.start, .ticketIssued, .opened 0] _ :=
      .cons ⟨rfl, id⟩ (.cons ⟨rfl, id⟩ (.cons ⟨rfl, id⟩ (.nil _)))
    have hsettled := hopened.invariant (settled_initial 5) fun _ _ _ ha hstep =>
      settled_step ha hstep.2 hstep.1
    exact ⟨_, Run.of_exec rfl, rfl, rfl, rfl, rfl, rfl, unsound_socketClosing hsettled rfl rfl⟩

end PresenceSocketClient

end SelfRelay
