import SelfRelay.Backend.WebSocketAdmission

/-!
# A ticket admits one socket

The invariant behind `ticket_admits_one_socket`: the record of a ticket that a call holds is marked,
and no two calls hold one record.  The history of an accepted socket is read backwards, from the
step that looked its session up to the step that consumed its ticket, and from there to the one that
issued it.
-/

namespace SelfRelay.Backend

open StepSystem

/-! ## Tickets over a step -/

namespace WebSocketTickets

/-- The record of a ticket is there. -/
def Has (tickets : WebSocketTickets) (ticket : WebSocketTicketRecord) : Prop :=
  ∃ record, tickets.records.get ticket.id = some record ∧ record.sessionId = ticket.sessionId

/-- The record of a ticket is there, and marked. -/
def Marked (tickets : WebSocketTickets) (ticket : WebSocketTicketRecord) : Prop :=
  ∃ record, tickets.records.get ticket.id = some record ∧ record.sessionId = ticket.sessionId ∧
    record.consumedAt ≠ none

/-- The records stay, for the same sessions, and marked if they were. -/
structure Keeps (tickets tickets' : WebSocketTickets) : Prop where
  keyed : tickets.Keyed → tickets'.Keyed
  record : ∀ id record, tickets.records.get id = some record →
    ∃ record', tickets'.records.get id = some record' ∧ record'.sessionId = record.sessionId ∧
      (record.consumedAt ≠ none → record'.consumedAt ≠ none)

variable {tickets tickets' : WebSocketTickets} {now : Timestamp} {ticket : WebSocketTicketRecord}

theorem Keeps.refl : tickets.Keeps tickets :=
  ⟨fun h => h, fun _ record h => ⟨record, h, rfl, fun h => h⟩⟩

theorem Takes.marked (h : tickets.Takes now tickets' ticket) : tickets'.Marked ticket := by
  obtain ⟨record, -, -, -, rfl, rfl⟩ := h
  exact ⟨_, Dict.get_set, rfl, nofun⟩

theorem Takes.keeps (h : tickets.Takes now tickets' ticket) : tickets.Keeps tickets' := by
  obtain ⟨record, hget, -, -, rfl, rfl⟩ := h
  constructor
  · intro hkeyed id other hother
    by_cases heq : id = record.id
    · rw [heq, Dict.get_set] at hother
      cases hother
      exact heq.symm
    · rw [Dict.get_set_ne heq] at hother
      exact hkeyed id other hother
  · intro id other hother
    by_cases heq : id = record.id
    · obtain rfl := Option.some.inj (hget.symm.trans (heq ▸ hother))
      refine ⟨record.consumed now, ?_, rfl, fun _ => Option.some_ne_none _⟩
      rw [heq]
      exact Dict.get_set
    · exact ⟨other, by rwa [Dict.get_set_ne heq], rfl, fun h => h⟩

theorem Adds.keeps {session id : Uuid} (h : tickets.Adds tickets' session id) :
    tickets.Keeps tickets' := by
  obtain ⟨ticket, hid, -, -, hnew, hrecords⟩ := h
  constructor
  · intro hkeyed id' other hother
    rw [hrecords] at hother
    by_cases heq : id' = id
    · rw [heq, Dict.get_set] at hother
      cases hother
      exact hid.trans heq.symm
    · rw [Dict.get_set_ne heq] at hother
      exact hkeyed id' other hother
  · intro id' other hother
    have hne : id' ≠ id := by
      rintro rfl
      cases hnew.symm.trans hother
    refine ⟨other, ?_, rfl, fun h => h⟩
    rwa [hrecords, Dict.get_set_ne hne]

theorem Has.mono (h : tickets.Has ticket) (hkeeps : tickets.Keeps tickets') :
    tickets'.Has ticket := by
  obtain ⟨record, hget, hsession⟩ := h
  obtain ⟨record', hget', hsession', -⟩ := hkeeps.record _ _ hget
  exact ⟨record', hget', hsession'.trans hsession⟩

theorem Marked.mono (h : tickets.Marked ticket) (hkeeps : tickets.Keeps tickets') :
    tickets'.Marked ticket := by
  obtain ⟨record, hget, hsession, hmarked⟩ := h
  obtain ⟨record', hget', hsession', hmarked'⟩ := hkeeps.record _ _ hget
  exact ⟨record', hget', hsession'.trans hsession, hmarked' hmarked⟩

/-- A marked record is not taken again. -/
theorem Takes.not_marked (h : tickets.Takes now tickets' ticket) {other : WebSocketTicketRecord}
    (hother : tickets.Marked other) : other.id ≠ ticket.id := by
  obtain ⟨record, hget, hnone, -, rfl, -⟩ := h
  obtain ⟨record', hget', -, hmarked⟩ := hother
  intro hid
  obtain rfl := Option.some.inj (hget.symm.trans (hid ▸ hget' : tickets.records.get record.id = _))
  exact hmarked hnone

end WebSocketTickets

/-! ## The invariant -/

namespace WebSocketState

/-- A session has the id, and is usable or has ended. -/
def Known (s : WebSocketState) (session : Uuid) : Prop :=
  ∃ row ∈ s.db.sessions, row.id = session ∧
    (row.ended s.now = true ∨ row.usable s.db s.now = true)

/-- What holds of a call. -/
def CallOk (s : WebSocketState) : WebSocketCall → Prop
  | .check record _ => s.tickets.Has record
  | .take record _ => s.tickets.Has record ∧ s.Known record.sessionId
  | .lookup ticket => s.tickets.Marked ticket
  | .accept ticket session | .register ticket session | .turnedAway ticket session =>
    s.tickets.Marked ticket ∧ session.id = ticket.sessionId
  | .serve ticket session connection =>
    s.tickets.Marked ticket ∧ session.id = ticket.sessionId ∧
      connection.accountId = session.userId ∧
      connection.deviceId = session.deviceId ∧ connection.sessionId = session.id
  | .consume _ | .refused => True

structure Sound (backing : Backing) (s : WebSocketState) : Prop where
  consistent : backing.Consistent s.db s.now
  keyed : s.tickets.Keyed
  calls : ∀ call ∈ s.calls, s.CallOk call
  once : ∀ (place place' : ℕ) (call call' : WebSocketCall) (ticket ticket' : WebSocketTicketRecord),
    s.calls[place]? = some call → s.calls[place']? = some call' → call.holds = some ticket →
    call'.holds = some ticket' → ticket.id = ticket'.id → place = place'

section Steps

variable {backing : Backing} {heartbeatTimeout : Timestamp} {s t : WebSocketState}
  {e : WebSocketEvent}

theorem sound_initial {db : Database} {now : Timestamp} (h : backing.Consistent db now) :
    (initial db now).Sound backing where
  consistent := h
  keyed := by rintro _ _ ⟨⟩
  calls := by rintro _ ⟨⟩
  once := by rintro _ _ _ _ _ _ ⟨⟩

theorem CallOk.marked {call : WebSocketCall} (h : s.CallOk call) {ticket : WebSocketTicketRecord}
    (hholds : call.holds = some ticket) : s.tickets.Marked ticket := by
  cases call with
  | lookup =>
    obtain rfl := Option.some.inj hholds
    exact h
  | accept =>
    obtain rfl := Option.some.inj hholds
    exact h.1
  | register =>
    obtain rfl := Option.some.inj hholds
    exact h.1
  | turnedAway =>
    obtain rfl := Option.some.inj hholds
    exact h.1
  | serve =>
    obtain rfl := Option.some.inj hholds
    exact h.1
  | _ => cases hholds

theorem CallOk.mono {call : WebSocketCall} (h : s.CallOk call)
    (htickets : s.tickets.Keeps t.tickets)
    (hdb : s.db.Follows s.now t.db t.now) : t.CallOk call := by
  cases call with
  | consume => trivial
  | refused => trivial
  | check => exact WebSocketTickets.Has.mono h htickets
  | take =>
    obtain ⟨hhas, row, hrow, hid, hrow'⟩ := h
    obtain ⟨row', hmem, hbecomes⟩ := hdb.becomes row hrow
    refine ⟨hhas.mono htickets, row', hmem, hbecomes.id.trans hid, ?_⟩
    exact hrow'.elim (fun hended => .inl (hbecomes.ended hended)) hbecomes.usable
  | lookup => exact WebSocketTickets.Marked.mono h htickets
  | accept => exact ⟨h.1.mono htickets, h.2⟩
  | register => exact ⟨h.1.mono htickets, h.2⟩
  | turnedAway => exact ⟨h.1.mono htickets, h.2⟩
  | serve => exact ⟨h.1.mono htickets, h.2⟩

end Steps

end WebSocketState

section Moves

variable {backing : Backing} {s t : WebSocketState} {e : WebSocketEvent} {place : ℕ}
  {call call' : WebSocketCall} {tickets : WebSocketTickets}

/-- What a call holds after a step: what it held, nothing, or the record that the step has taken. -/
theorem Moves.holds (h : Moves backing s place e call tickets call') :
    call'.holds = call.holds ∨ call'.holds = none ∨
      ∃ ticket, call'.holds = some ticket ∧ s.tickets.Takes s.now tickets ticket := by
  cases h with
  | refused => exact .inr (.inl rfl)
  | read => exact .inr (.inl rfl)
  | checked => exact .inr (.inl rfl)
  | consumed htakes => exact .inr (.inr ⟨_, rfl, htakes⟩)
  | taken htakes => exact .inr (.inr ⟨_, rfl, htakes⟩)
  | found => exact .inl rfl
  | accepted => exact .inl rfl
  | registered => exact .inl rfl
  | turnedAway => exact .inl rfl

theorem Moves.keeps (h : Moves backing s place e call tickets call') : s.tickets.Keeps tickets := by
  cases h with
  | consumed htakes => exact htakes.keeps
  | taken htakes => exact htakes.keeps
  | _ => exact .refl

theorem Moves.callOk (h : Moves backing s place e call tickets call') (hs : s.Sound backing)
    (hcall : s.CallOk call) (htickets : t.tickets = tickets) (hdb : t.db = s.db)
    (hnow : t.now = s.now) :
    t.CallOk call' := by
  have hkeeps : s.tickets.Keeps t.tickets := htickets ▸ h.keeps
  cases h with
  | refused => trivial
  | read hget =>
    obtain ⟨record, hget', hsession, -⟩ := hkeeps.record _ _ hget
    exact ⟨record, hget', hsession⟩
  | checked hfound howner =>
    obtain ⟨hsession, hid, husable⟩ := Backing.findCurrentById_spec hs.consistent hfound
    refine ⟨WebSocketTickets.Has.mono hcall hkeeps, ?_⟩
    rw [WebSocketState.Known, hdb, hnow]
    exact ⟨_, hsession, hid, .inr husable⟩
  | consumed htakes => exact (htickets ▸ htakes).marked
  | taken htakes => exact (htickets ▸ htakes).marked
  | found hfound =>
    exact ⟨WebSocketTickets.Marked.mono hcall hkeeps,
      (Backing.findCurrentById_spec hs.consistent hfound).2.1.symm ▸ rfl⟩
  | accepted => exact ⟨hcall.1.mono hkeeps, hcall.2⟩
  | registered => exact ⟨hcall.1.mono hkeeps, hcall.2, rfl, rfl, rfl⟩
  | turnedAway => exact ⟨hcall.1.mono hkeeps, hcall.2⟩

end Moves

namespace WebSocketState

section Runs

variable {backing : Backing} {heartbeatTimeout : Timestamp} {s t : WebSocketState}
  {e : WebSocketEvent}

/-- A call that is in the list after a step of another call was in it before. -/
theorem set_cases {calls : List WebSocketCall} {place place' : ℕ} {call call' : WebSocketCall}
    (h : (calls.set place call)[place']? = some call') :
    place' = place ∧ call' = call ∨ place' ≠ place ∧ calls[place']? = some call' := by
  rw [List.getElem?_set] at h
  split at h
  · rename_i heq
    split at h
    · exact .inl ⟨heq.symm, (Option.some.inj h).symm⟩
    · cases h
  · rename_i hne
    exact .inr ⟨Ne.symm hne, h⟩

theorem Sound.step (hs : s.Sound backing) (hstep : Step (step backing heartbeatTimeout) s e t) :
    t.Sound backing := by
  obtain ⟨place, call, call', hcall, hmoves, hcalls, hdb, hnow⟩ |
      ⟨account, session, tokenHash, created, expiresAt, id, -, hissue, hcalls, hdb, hnow⟩ |
      ⟨htickets, hcalls, hfollows, hconsistent⟩ := step_cases hs.keyed hstep
  · have hfollows : s.db.Follows s.now t.db t.now := by
      rw [hdb, hnow]
      exact .refl
    refine ⟨by rw [hdb, hnow]; exact hs.consistent, hmoves.keeps.keyed hs.keyed, ?_, ?_⟩
    · intro other hother
      rw [hcalls] at hother
      obtain hold | rfl := List.mem_or_eq_of_mem_set hother
      · exact (hs.calls other hold).mono hmoves.keeps hfollows
      · exact hmoves.callOk hs (hs.calls call (List.mem_of_getElem? hcall)) rfl hdb hnow
    · -- the record that is taken was not marked, so no other call holds it
      have hother : ∀ {place' : ℕ} {other : WebSocketCall} {ticket ticket' : WebSocketTicketRecord},
          place' ≠ place → s.calls[place']? = some other → other.holds = some ticket →
          call'.holds = some ticket' → ticket.id ≠ ticket'.id := by
        intro place' other ticket ticket' hne hother hholds hholds' hid
        have hmarked := (hs.calls other (List.mem_of_getElem? hother)).marked hholds
        obtain hsame | hnone | ⟨taken, htaken, htakes⟩ := hmoves.holds
        · exact hne (hs.once _ _ _ _ _ _ hother hcall hholds (hsame.symm.trans hholds') hid)
        · cases hnone.symm.trans hholds'
        · obtain rfl := Option.some.inj (htaken.symm.trans hholds')
          exact htakes.not_marked hmarked hid
      intro i j callᵢ callⱼ ticket ticket' hi hj hholds hholds' hid
      rw [hcalls] at hi hj
      obtain ⟨rfl, rfl⟩ | ⟨hne, hi'⟩ := set_cases hi
      · obtain ⟨rfl, -⟩ | ⟨hne', hj⟩ := set_cases hj
        · rfl
        · exact (hother hne' hj hholds' hholds hid.symm).elim
      · obtain ⟨rfl, rfl⟩ | ⟨-, hj⟩ := set_cases hj
        · exact (hother hne hi' hholds hholds' hid).elim
        · exact hs.once _ _ _ _ _ _ hi' hj hholds hholds' hid
  · have hkeeps : s.tickets.Keeps t.tickets := by
      obtain hsame | ⟨hadds, -⟩ := hissue
      · rw [hsame]
        exact .refl
      · exact hadds.keeps
    have hfollows : s.db.Follows s.now t.db t.now := by
      rw [hdb, hnow]
      exact .refl
    refine ⟨by rw [hdb, hnow]; exact hs.consistent, hkeeps.keyed hs.keyed, ?_, ?_⟩
    · rw [hcalls]
      exact fun call hcall => (hs.calls call hcall).mono hkeeps hfollows
    · rw [hcalls]
      exact hs.once
  · have hkeeps : s.tickets.Keeps t.tickets := htickets ▸ .refl
    refine ⟨hconsistent hs.consistent, htickets ▸ hs.keyed, ?_, ?_⟩
    · intro call hcall
      obtain hsame | ⟨tokenHash, happend⟩ := hcalls
      · exact (hs.calls call (hsame ▸ hcall)).mono hkeeps hfollows
      · rw [happend] at hcall
        obtain hold | hnew := List.mem_append.1 hcall
        · exact (hs.calls call hold).mono hkeeps hfollows
        · obtain rfl := List.mem_singleton.1 hnew
          trivial
    · have hold : ∀ {place : ℕ} {call : WebSocketCall} {ticket : WebSocketTicketRecord},
          t.calls[place]? = some call → call.holds = some ticket → s.calls[place]? = some call := by
        intro place call ticket hcall hholds
        obtain hsame | ⟨tokenHash, happend⟩ := hcalls
        · rwa [hsame] at hcall
        · rw [happend] at hcall
          rw [List.getElem?_append] at hcall
          split at hcall
          · exact hcall
          · obtain rfl := List.mem_singleton.1 (List.mem_of_getElem? hcall)
            cases hholds
      intro i j callᵢ callⱼ ticket ticket' hi hj hholds hholds' hid
      exact hs.once _ _ _ _ _ _ (hold hi hholds) (hold hj hholds') hholds hholds' hid

theorem Sound.run {es : List WebSocketEvent} (hs : s.Sound backing)
    (hrun : Run (Step (WebSocketState.step backing heartbeatTimeout)) s es t) : t.Sound backing :=
  hrun.invariant hs fun _ _ _ h hstep => h.step hstep

theorem step_follows (hs : s.Sound backing) (hstep : Step (step backing heartbeatTimeout) s e t) :
    s.db.Follows s.now t.db t.now := by
  obtain ⟨-, -, -, -, -, -, hdb, hnow⟩ | ⟨-, -, -, -, -, -, -, -, -, hdb, hnow⟩ | ⟨-, -,
      hfollows, -⟩ :=
    step_cases hs.keyed hstep
  · rw [hdb, hnow]
    exact .refl
  · rw [hdb, hnow]
    exact .refl
  · exact hfollows

theorem follows_of_run {es : List WebSocketEvent} (hs : s.Sound backing)
    (hrun : Run (Step (step backing heartbeatTimeout)) s es t) : s.db.Follows s.now t.db t.now :=
  hrun.related hs (fun _ _ _ h hstep => h.step hstep) (fun _ => .refl) (fun h h' => h.trans h')
    fun _ _ _ h hstep => step_follows h hstep

/-- A session over a run, and what it becomes. -/
theorem becomes_of_run {es : List WebSocketEvent} (hs : s.Sound backing)
    (hrun : Run (Step (step backing heartbeatTimeout)) s es t) {row session : SessionRecord}
    (hrow : row ∈ s.db.sessions) (hsession : session ∈ t.db.sessions) (hid : row.id = session.id) :
    row.Becomes s.db s.now t.db t.now session := by
  obtain ⟨row', hrow', hbecomes⟩ := (follows_of_run hs hrun).becomes row hrow
  obtain rfl : row' = session :=
    List.inj_on_of_nodup_map (hs.run hrun).consistent.ids hrow' hsession (hbecomes.id.trans hid)
  exact hbecomes

/-- A call is as it was, has just come, or moves. -/
theorem call_cases {place : ℕ} {call' : WebSocketCall} (hs : s.Sound backing)
    (hstep : Step (step backing heartbeatTimeout) s e t) (hcall' : t.calls[place]? = some call') :
    s.calls[place]? = some call' ∨ (∃ tokenHash, call' = .consume tokenHash) ∨
      ∃ call, s.calls[place]? = some call ∧ Moves backing s place e call t.tickets call' := by
  obtain ⟨place', call, call'', hcall, hmoves, hcalls, -⟩ | ⟨-, -, -, -, -, -, -, -, hcalls, -⟩ |
      ⟨-, hcalls | ⟨tokenHash, hcalls⟩, -⟩ := step_cases hs.keyed hstep
  · rw [hcalls] at hcall'
    obtain ⟨rfl, rfl⟩ | ⟨-, hold⟩ := set_cases hcall'
    · exact .inr (.inr ⟨call, hcall, hmoves⟩)
    · exact .inl hold
  · exact .inl (hcalls ▸ hcall')
  · exact .inl (hcalls ▸ hcall')
  · rw [hcalls, List.getElem?_append] at hcall'
    split at hcall'
    · exact .inl hcall'
    · exact .inr (.inl ⟨tokenHash, List.mem_singleton.1 (List.mem_of_getElem? hcall')⟩)

end Runs

/-! ## The history of a socket -/

/-- The step creates the ticket, for the account and the id of a session; the row of the session has
its account and its device. -/
def IssuedFor (ticket : WebSocketTicketRecord) (session : SessionRecord) (s : WebSocketState)
    (e : WebSocketEvent) : Prop :=
  (∃ tokenHash created expiresAt,
      e = .issue session.userId session.id tokenHash created expiresAt ticket.id) ∧
    ∃ row ∈ s.db.sessions, row.id = session.id ∧ row.userId = session.userId ∧
      row.deviceId = session.deviceId

/-- The call consumes the ticket, which is neither consumed nor expired, and
whose session is usable. -/
def ConsumedBy (place : ℕ) (ticket : WebSocketTicketRecord) (s : WebSocketState)
    (e : WebSocketEvent) :
    Prop :=
  (e = .consume place ∨ e = .take place) ∧
    (∃ record, s.tickets.records.get ticket.id = some record ∧ record.consumedAt = none ∧
      s.now < record.expiresAt) ∧
    ∃ row ∈ s.db.sessions, row.id = ticket.sessionId ∧ row.usable s.db s.now = true

/-- The call looks the session of the ticket up, which is usable. -/
def FoundBy (place : ℕ) (ticket : WebSocketTicketRecord) (session : SessionRecord)
    (s : WebSocketState)
    (e : WebSocketEvent) : Prop :=
  e = .lookup place ∧ session.id = ticket.sessionId ∧ session ∈ s.db.sessions ∧
    session.usable s.db s.now = true

section History

variable {backing : Backing} {heartbeatTimeout : Timestamp} {s t : WebSocketState}
  {es : List WebSocketEvent} {place : ℕ} {ticket : WebSocketTicketRecord} {session : SessionRecord}

theorem exists_found (hs : s.Sound backing) (hempty : s.calls = [])
    (hrun : Run (Step (step backing heartbeatTimeout)) s es t) {call : WebSocketCall}
    (hcall : t.calls[place]? = some call) (hfound : call.found = some (ticket, session)) :
    ∃ pre e post u v, es = pre ++ e :: post ∧ Run (Step (step backing heartbeatTimeout)) s pre u ∧
      Step (step backing heartbeatTimeout) u e v ∧
      Run (Step (step backing heartbeatTimeout)) v post t ∧
      u.calls[place]? = some (.lookup ticket) ∧ FoundBy place ticket session u e := by
  obtain ⟨pre, e, post, u, v, rfl, hpre, hstep, hpost, hu, call', hcall', hfound'⟩ :=
    hrun.exists_step (Q := fun s => ∃ call, s.calls[place]? = some call ∧
      call.found = some (ticket, session)) (by simp [hempty]) ⟨call, hcall, hfound⟩
  refine ⟨pre, e, post, u, v, rfl, hpre, hstep, hpost, ?_⟩
  have husound := hs.run hpre
  obtain hold | ⟨tokenHash, rfl⟩ | ⟨old, hold, hmoves⟩ := call_cases husound hstep hcall'
  · exact (hu ⟨call', hold, hfound'⟩).elim
  · cases hfound'
  · have hnot : old.found ≠ some (ticket, session) := fun h => hu ⟨old, hold, h⟩
    generalize v.tickets = tickets at hmoves
    cases hmoves with
    | found h =>
      cases hfound'
      obtain ⟨hmem, hid, husable⟩ := Backing.findCurrentById_spec husound.consistent h
      exact ⟨hold, rfl, hid, hmem, husable⟩
    | accepted => exact (hnot hfound').elim
    | registered => exact (hnot hfound').elim
    | turnedAway => exact (hnot hfound').elim
    | _ => cases hfound'

theorem exists_consumed (hs : s.Sound backing) (hempty : s.calls = [])
    (hrun : Run (Step (step backing heartbeatTimeout)) s es t) {call : WebSocketCall}
    (hcall : t.calls[place]? = some call) (hholds : call.holds = some ticket)
    (hsession : session ∈ t.db.sessions) (hid : session.id = ticket.sessionId)
    (husable : session.usable t.db t.now = true) :
    ∃ pre e post u v, es = pre ++ e :: post ∧ Run (Step (step backing heartbeatTimeout)) s pre u ∧
      Step (step backing heartbeatTimeout) u e v ∧
      Run (Step (step backing heartbeatTimeout)) v post t ∧
      u.tickets.Has ticket ∧ ConsumedBy place ticket u e := by
  obtain ⟨pre, e, post, u, v, rfl, hpre, hstep, hpost, hu, call', hcall', hholds'⟩ :=
    hrun.exists_step (Q := fun s => ∃ call, s.calls[place]? = some call ∧ call.holds = some ticket)
      (by simp [hempty]) ⟨call, hcall, hholds⟩
  refine ⟨pre, e, post, u, v, rfl, hpre, hstep, hpost, ?_⟩
  have husound := hs.run hpre
  obtain hold | ⟨tokenHash, rfl⟩ | ⟨old, hold, hmoves⟩ := call_cases husound hstep hcall'
  · exact (hu ⟨call', hold, hholds'⟩).elim
  · cases hholds'
  · have hnot : old.holds ≠ some ticket := fun h => hu ⟨old, hold, h⟩
    generalize v.tickets = tickets at hmoves
    cases hmoves with
    | consumed htakes hrow =>
      cases hholds'
      obtain ⟨record, hget, hnone, hexpires, rfl, -⟩ := htakes
      exact ⟨⟨record, hget, rfl⟩, .inl rfl, ⟨record, hget, hnone, hexpires⟩, hrow⟩
    | taken htakes hsame =>
      cases hholds'
      obtain ⟨record, hget, hnone, hexpires, rfl, -⟩ := htakes
      refine ⟨⟨record, hget, rfl⟩, .inr rfl, ⟨record, hget, hnone, hexpires⟩, ?_⟩
      -- the session was checked before, and has not ended since: it has not ended when it is looked
      -- up
      obtain ⟨⟨record', hget', hsession'⟩, row, hrow, hrowid, hrow'⟩ :=
        husound.calls _ (List.mem_of_getElem? hold)
      rw [← hsame] at hget'
      obtain rfl := Option.some.inj (hget.symm.trans hget')
      have hbecomes := becomes_of_run husound (.cons hstep hpost) hrow hsession
        ((hrowid.trans hsession'.symm).trans hid.symm)
      refine ⟨row, hrow, hrowid.trans hsession'.symm, hrow'.resolve_left fun hended => ?_⟩
      exact SessionRecord.not_ended_of_usable husable (hbecomes.ended hended)
    | found => exact (hnot hholds').elim
    | accepted => exact (hnot hholds').elim
    | registered => exact (hnot hholds').elim
    | turnedAway => exact (hnot hholds').elim
    | _ => cases hholds'

/-- A step that makes a ticket known is the one that issues it. -/
theorem exists_issued (hs : s.Sound backing) (hempty : s.tickets = .empty)
    (hrun : Run (Step (step backing heartbeatTimeout)) s es t) (hhas : t.tickets.Has ticket) :
    ∃ pre e post u v, es = pre ++ e :: post ∧ Run (Step (step backing heartbeatTimeout)) s pre u ∧
      Step (step backing heartbeatTimeout) u e v ∧
      Run (Step (step backing heartbeatTimeout)) v post t ∧
      ∃ account tokenHash created expiresAt,
        e = .issue account ticket.sessionId tokenHash created expiresAt ticket.id ∧
        ∃ row ∈ u.db.sessions, row.id = ticket.sessionId ∧ row.userId = account := by
  have hnone : ¬ s.tickets.Has ticket := by
    rw [hempty]
    rintro ⟨record, ⟨⟩, -⟩
  obtain ⟨pre, e, post, u, v, rfl, hpre, hstep, hpost, hu, record, hget, hsession⟩ :=
    hrun.exists_step (Q := fun s => s.tickets.Has ticket) hnone hhas
  refine ⟨pre, e, post, u, v, rfl, hpre, hstep, hpost, ?_⟩
  have husound := hs.run hpre
  have htakes : ∀ {taken : WebSocketTicketRecord}, ¬ u.tickets.Takes u.now v.tickets taken := by
    rintro taken ⟨record', hget', -, -, rfl, hv⟩
    rw [hv] at hget
    by_cases heq : ticket.id = record'.id
    · obtain rfl := Option.some.inj (Dict.get_set.symm.trans (heq ▸ hget))
      exact hu ⟨record', heq ▸ hget', hsession⟩
    · rw [Dict.get_set_ne heq] at hget
      exact hu ⟨record, hget, hsession⟩
  obtain ⟨place, call, call', -, hmoves, -⟩ |
      ⟨account, session, tokenHash, created, expiresAt, id, rfl, hissue, -⟩ | ⟨hsame, -⟩ :=
    step_cases husound.keyed hstep
  · exfalso
    generalize htickets : v.tickets = tickets at hmoves hget htakes
    cases hmoves with
    | consumed h => exact htakes h
    | taken h => exact htakes h
    | _ => exact hu ⟨record, hget, hsession⟩
  · obtain hsame | ⟨⟨added, rfl, rfl, -, -, hrecords⟩, hrow⟩ := hissue
    · exact (hu ⟨record, hsame ▸ hget, hsession⟩).elim
    · rw [hrecords] at hget
      by_cases heq : ticket.id = added.id
      · rw [heq, Dict.get_set] at hget
        cases hget
        rw [← hsession, heq]
        exact ⟨account, tokenHash, created, expiresAt, rfl, hrow⟩
      · rw [Dict.get_set_ne heq] at hget
        exact (hu ⟨record, hget, hsession⟩).elim
  · exact (hu ⟨record, hsame ▸ hget, hsession⟩).elim

/-- Over any run: a ticket leads to at most one accepted socket.  It was issued for the session of
the socket, then consumed by the call while it was neither consumed nor expired and its session was
usable, and then the session was looked up and still usable; the connection
is that of the session. -/
theorem ticket_admits_one_socket {db : Database} {now : Timestamp} (hdb : backing.Consistent db now)
    (hrun : Run (Step (step backing heartbeatTimeout)) (initial db now) es t) :
    (∀ (place place' : ℕ) (call call' : WebSocketCall) (ticket ticket' : WebSocketTicketRecord)
        (session session' : SessionRecord), t.calls[place]? = some call →
          t.calls[place']? = some call' →
        call.accepted = some (ticket, session) → call'.accepted = some (ticket', session') →
        ticket.id = ticket'.id → place = place') ∧
      ∀ (place : ℕ) (call : WebSocketCall) (ticket : WebSocketTicketRecord)
        (session : SessionRecord),
        t.calls[place]? = some call → call.accepted = some (ticket, session) →
        Passes (Step (step backing heartbeatTimeout))
            [IssuedFor ticket session, ConsumedBy place ticket, FoundBy place ticket session]
            (initial db now) es t ∧
          ∀ connection, call = .serve ticket session connection →
            connection.accountId = session.userId ∧ connection.deviceId = session.deviceId ∧
              connection.sessionId = session.id := by
  have hs := sound_initial hdb
  have ht := hs.run hrun
  have hfound : ∀ {call : WebSocketCall} {ticket : WebSocketTicketRecord} {session : SessionRecord},
      call.accepted = some (ticket, session) →
      call.found = some (ticket, session) ∧ call.holds = some ticket := by
    intro call ticket session haccepted
    cases call with
    | register => exact ⟨haccepted, by cases haccepted; rfl⟩
    | turnedAway => exact ⟨haccepted, by cases haccepted; rfl⟩
    | serve => exact ⟨haccepted, by cases haccepted; rfl⟩
    | _ => cases haccepted
  refine ⟨?_, ?_⟩
  · intro place place' call call' ticket ticket' session session' hcall hcall' haccepted
      haccepted' hid
    exact ht.once _ _ _ _ _ _ hcall hcall' (hfound haccepted).2 (hfound haccepted').2 hid
  · intro place call ticket session hcall haccepted
    refine ⟨?_, ?_⟩
    · obtain ⟨pre₂, e₂, post₂, u₂, v₂, rfl, hpre₂, hstep₂, hpost₂, hlookup, hfoundBy⟩ :=
        exists_found hs rfl hrun hcall (hfound haccepted).1
      obtain ⟨-, hsession, hmem, husable⟩ := id hfoundBy
      obtain ⟨pre₁, e₁, post₁, u₁, v₁, rfl, hpre₁, hstep₁, hpost₁, hhas, hconsumedBy⟩ :=
        exists_consumed hs rfl hpre₂ hlookup rfl hmem hsession husable
      obtain ⟨pre₀, e₀, post₀, u₀, v₀, rfl, hpre₀, hstep₀, hpost₀, account, tokenHash,
        created, expiresAt,
        hissue, row, hrow, hrowid, haccount⟩ := exists_issued hs rfl hpre₁ hhas
      have hbecomes :=
        becomes_of_run (hs.run hpre₀) ((Run.cons hstep₀ hpost₀).append (.cons hstep₁ hpost₁))
        hrow hmem (hrowid.trans hsession.symm)
      have hissuedFor : IssuedFor ticket session u₀ e₀ := by
        rw [← haccount, ← hbecomes.user, ← hsession] at hissue
        exact ⟨⟨tokenHash, created, expiresAt, hissue⟩, row, hrow, hrowid.trans hsession.symm,
          hbecomes.user.symm, hbecomes.device.symm⟩
      have hpasses : Passes (Step (step backing heartbeatTimeout)) [] (initial db now)
        pre₀ u₀ := hpre₀
      exact ((hpasses.snoc hissuedFor hstep₀ hpost₀).snoc hconsumedBy hstep₁ hpost₁).snoc
        hfoundBy hstep₂
        hpost₂
    · rintro connection rfl
      exact (ht.calls _ (List.mem_of_getElem? hcall)).2.2

end History

/-- Two calls present one ticket of the in-memory repository, and both read it
before either takes it. -/
def presentedTwice : List WebSocketEvent :=
  [.issue ⟨1⟩ ⟨5⟩ (List.replicate 32 7) 5 9 ⟨11⟩, .connect (List.replicate 32 7),
    .connect (List.replicate 32 7), .consume 0, .consume 1, .check 0, .check 1, .take 1, .take 0,
    .lookup 1, .accept 1, .register 1 ⟨20⟩]

theorem sessionDatabase_consistent (backing : Backing) : backing.Consistent sessionDatabase 5 :=
  ⟨by decide, fun _ => by decide⟩

/-- The ticket that they present, as it is consumed. -/
def presentedTicket : WebSocketTicketRecord :=
  (WebSocketTicketRepository.inserted 5 ⟨5⟩ (List.replicate 32 7) 9 ⟨11⟩).consumed 5

/-- The second call is admitted, and the first one is refused. -/
theorem ticket_admits_one_socket_presented_twice : ∃ t connection,
    Run (Step (step .memory 60)) (initial sessionDatabase 5) presentedTwice t ∧
      t.calls = [.refused, .serve presentedTicket sessionDatabase.session connection] ∧
      Passes (Step (step .memory 60))
        [IssuedFor presentedTicket sessionDatabase.session, ConsumedBy 1 presentedTicket,
          FoundBy 1 presentedTicket sessionDatabase.session]
        (initial sessionDatabase 5) presentedTwice t := by
  have hexec : (exec (step .memory 60) (initial sessionDatabase 5) presentedTwice).any (fun t =>
      t.calls = [.refused, .serve presentedTicket sessionDatabase.session
        ((initial sessionDatabase 5).connection sessionDatabase.session ⟨20⟩)]) = true := by
    decide +kernel
  obtain ⟨t, hexec, hcalls⟩ := (Option.any_eq_true _ _).1 hexec
  have hrun := Run.of_exec hexec
  have hcalls := of_decide_eq_true hcalls
  have hserve := congrArg (·[1]?) hcalls
  exact ⟨t, _, hrun, hcalls,
    ((ticket_admits_one_socket (sessionDatabase_consistent .memory) hrun).2 1 _ _ _ hserve rfl).1⟩

end WebSocketState

end SelfRelay.Backend
