import SelfRelay.Backend.SocketAdmission
import SelfRelay.Backend.WebSocketTickets
import SelfRelay.Lib.Passes

/-!
# The handshake of `websocket_presence`

A call presents a ticket, consumes it, looks its session up, accepts the socket and registers it,
and any number of calls interleave with each other, with the revocation of sessions and devices,
with the clock and with whatever else the presence manager does.  `ticket_admits_one_socket` says
that a ticket leads to at most one accepted socket, and what happened before: the ticket was issued
for the session of the socket, it was consumed while it was neither consumed nor expired and its
session was usable, and the session was still usable when it was looked up.
-/

namespace SelfRelay.Backend

open StepSystem

/-! ## The calls -/

/-- The connection that a call registers. -/
structure AdmittedConnection extends ActiveConnection where
  sessionId : Uuid
  deriving DecidableEq, Repr

/-- A call of `websocket_presence`, at what it does next. -/
inductive WebSocketCall where
  | consume (tokenHash : Bytea)
  /-- In memory: await the check of the session. -/
  | check (ticket : WebSocketTicketRecord) (owner : Uuid)
  /-- In memory: take the record under the lock. -/
  | take (ticket : WebSocketTicketRecord) (owner : Uuid)
  | lookup (ticket : WebSocketTicketRecord)
  | accept (ticket : WebSocketTicketRecord) (session : SessionRecord)
  /-- The socket is accepted. -/
  | register (ticket : WebSocketTicketRecord) (session : SessionRecord)
  /-- The socket was accepted, and `register` raised `ConnectionLimitError`. -/
  | turnedAway (ticket : WebSocketTicketRecord) (session : SessionRecord)
  | serve (ticket : WebSocketTicketRecord) (session : SessionRecord)
      (connection : AdmittedConnection)
  /-- Closed before it was accepted. -/
  | refused
  deriving DecidableEq, Repr

namespace WebSocketCall

/-- The ticket that the call has consumed. -/
def holds : WebSocketCall → Option WebSocketTicketRecord
  | lookup ticket | accept ticket _ | register ticket _ | turnedAway ticket _ | serve ticket _ _ =>
    some ticket
  | _ => none

/-- The ticket and the session that the call has found. -/
def found : WebSocketCall → Option (WebSocketTicketRecord × SessionRecord)
  | accept ticket session | register ticket session | turnedAway ticket session
  | serve ticket session _ => some (ticket, session)
  | _ => none

/-- The ticket and the session of an accepted socket. -/
def accepted : WebSocketCall → Option (WebSocketTicketRecord × SessionRecord)
  | register ticket session | turnedAway ticket session | serve ticket session _ =>
    some (ticket, session)
  | _ => none

end WebSocketCall

structure WebSocketState where
  db : Database
  now : Timestamp
  tickets : WebSocketTickets
  presence : PresenceSystem
  calls : List WebSocketCall

inductive WebSocketEvent where
  | clock (now : Timestamp)
  /-- Another request writes sessions or devices. -/
  | store (op : BackingCall)
  /-- A ticket is created; in memory, `created` is the time that `create` read before its check. -/
  | issue (account session : Uuid) (tokenHash : Bytea) (created expiresAt : Timestamp) (id : Uuid)
  /-- A critical section of the presence manager other than `register`. -/
  | socket (event : SocketEvent)
  | connect (tokenHash : Bytea)
  | consume (call : ℕ)
  | check (call : ℕ)
  | take (call : ℕ)
  | lookup (call : ℕ)
  | accept (call : ℕ)
  /-- `register`, with the id of the new connection. -/
  | register (call : ℕ) (id : Uuid)

def SocketEvent.isRegister : SocketEvent → Bool
  | .register _ => true
  | _ => false

namespace WebSocketState

def initial (db : Database) (now : Timestamp) : WebSocketState := ⟨db, now, .empty, .initial, []⟩

variable (backing : Backing) (heartbeatTimeout : Timestamp) (s : WebSocketState)

/-- The tickets after `create`.  The awaited check of the in-memory repository has returned a
session of the account. -/
def issued (account session : Uuid) (tokenHash : Bytea) (created expiresAt : Timestamp)
    (id : Uuid) :
    WebSocketTickets :=
  match backing with
  | .sql =>
    match WebSocketTicketRepository.create s.tickets s.db s.now account session tokenHash
      expiresAt id
      with
    | .error _ => s.tickets
    | .ok (tickets, _) => tickets
  | .memory =>
    InMemoryWebSocketTicketRepository.insert s.tickets account
      (WebSocketTicketRepository.inserted created session tokenHash expiresAt id)

/-- What `create` has checked before it writes, in memory; ids are new. -/
def mayIssue (account session : Uuid) (tokenHash : Bytea) (created expiresAt : Timestamp)
    (id : Uuid) :
    Bool :=
  (s.tickets.records.get id).isNone &&
    match backing with
    | .sql => true
    | .memory =>
      created ≤ s.now && created < expiresAt && tokenHash.length = 32 &&
        s.db.sessions.any fun row => row.id = session && row.userId = account

/-- The first step of `consume_for_socket`: the statement, or the read of the record. -/
def consumed (tokenHash : Bytea) : WebSocketTickets × WebSocketCall :=
  match backing with
  | .sql =>
    match WebSocketTicketRepository.consumeForSocket s.tickets s.db s.now tokenHash with
    | .ok (tickets, some ticket) => (tickets, .lookup ticket)
    | .ok (tickets, none) => (tickets, .refused)
    | .error _ => (s.tickets, .refused)
  | .memory =>
    match InMemoryWebSocketTicketRepository.recordForToken s.tickets tokenHash with
    | some (record, owner) =>
      if InMemoryWebSocketTicketRepository.isUsable s.now record then
        (s.tickets, .check record owner)
      else (s.tickets, .refused)
    | none => (s.tickets, .refused)

/-- `_session_is_current` -/
def checked (record : WebSocketTicketRecord) (owner : Uuid) : WebSocketCall :=
  match backing.findCurrentById s.db s.now record.sessionId with
  | some session => if session.userId = owner then .take record owner else .refused
  | none => .refused

/-- The locked section of `_consume`. -/
def taken (record : WebSocketTicketRecord) (owner : Uuid) : WebSocketTickets × WebSocketCall :=
  match InMemoryWebSocketTicketRepository.take s.tickets s.now record owner with
  | some (tickets, ticket) => (tickets, .lookup ticket)
  | none => (s.tickets, .refused)

/-- `find_current_by_id` for the session of the ticket. -/
def lookedUp (ticket : WebSocketTicketRecord) : WebSocketCall :=
  match backing.findCurrentById s.db s.now ticket.sessionId with
  | some session => .accept ticket session
  | none => .refused

/-- The connection of a session. -/
def connection (session : SessionRecord) (id : Uuid) : AdmittedConnection where
  id := id
  accountId := session.userId
  deviceId := session.deviceId
  lastHeartbeatAt := s.now
  sessionId := session.id

/-- What a call is after `register`. -/
def registered (ticket : WebSocketTicketRecord) (session : SessionRecord) (id : Uuid) :
    WebSocketCall :=
  match (s.presence.maps.register (s.connection session id).toActiveConnection).1 with
  | .ok _ => .serve ticket session (s.connection session id)
  | .error _ => .turnedAway ticket session

/-- The call at a place goes on. -/
def proceed (place : ℕ) (call : WebSocketCall) : WebSocketState :=
  { s with calls := s.calls.set place call }

def step : WebSocketEvent → Option WebSocketState
  | .clock now => if s.now ≤ now then some { s with now } else none
  | .store op => (backing.call s.db s.now op).map fun db => { s with db }
  | .issue account session tokenHash created expiresAt id =>
    if s.mayIssue backing account session tokenHash created expiresAt id then
      some { s with tickets := s.issued backing account session tokenHash created expiresAt id }
    else none
  | .socket event =>
    if event.isRegister then none
    else (s.presence.step heartbeatTimeout event).map fun presence => { s with presence }
  | .connect tokenHash => some { s with calls := s.calls ++ [.consume tokenHash] }
  | .consume place =>
    match s.calls[place]? with
    | some (.consume tokenHash) =>
      some ({ s with tickets := (s.consumed backing tokenHash).1 }.proceed place
        (s.consumed backing tokenHash).2)
    | _ => none
  | .check place =>
    match s.calls[place]? with
    | some (.check record owner) => some (s.proceed place (s.checked backing record owner))
    | _ => none
  | .take place =>
    match s.calls[place]? with
    | some (.take record owner) =>
      some ({ s with tickets := (s.taken record owner).1 }.proceed place (s.taken record owner).2)
    | _ => none
  | .lookup place =>
    match s.calls[place]? with
    | some (.lookup ticket) => some (s.proceed place (s.lookedUp backing ticket))
    | _ => none
  | .accept place =>
    match s.calls[place]? with
    | some (.accept ticket session) => some (s.proceed place (.register ticket session))
    | _ => none
  | .register place id =>
    match s.calls[place]? with
    | some (.register ticket session) =>
      (s.presence.step heartbeatTimeout
        (.register (s.connection session id).toActiveConnection)).map
        fun presence => { s with presence }.proceed place (s.registered ticket session id)
    | _ => none

end WebSocketState

/-! ## What a step does -/

/-- What a step does to a call and to the tickets. -/
inductive Moves (backing : Backing) (s : WebSocketState) (place : ℕ) :
    WebSocketEvent → WebSocketCall → WebSocketTickets → WebSocketCall → Prop
  | refused {e : WebSocketEvent} {call : WebSocketCall} (haccepted : call.accepted = none) :
    Moves backing s place e call s.tickets .refused
  | read {tokenHash : Bytea} {record : WebSocketTicketRecord} {owner : Uuid}
    (hget : s.tickets.records.get record.id = some record) :
    Moves backing s place (.consume place) (.consume tokenHash) s.tickets (.check record owner)
  | checked {record : WebSocketTicketRecord} {owner : Uuid} {session : SessionRecord}
    (hfound : backing.findCurrentById s.db s.now record.sessionId = some session)
    (howner : session.userId = owner) :
    Moves backing s place (.check place) (.check record owner) s.tickets (.take record owner)
  | consumed {tokenHash : Bytea} {tickets : WebSocketTickets} {ticket : WebSocketTicketRecord}
    (htakes : s.tickets.Takes s.now tickets ticket)
    (hsession : ∃ row ∈ s.db.sessions, row.id = ticket.sessionId ∧ row.usable s.db s.now = true) :
    Moves backing s place (.consume place) (.consume tokenHash) tickets (.lookup ticket)
  | taken {record ticket : WebSocketTicketRecord} {owner : Uuid} {tickets : WebSocketTickets}
    (htakes : s.tickets.Takes s.now tickets ticket) (hid : ticket.id = record.id) :
    Moves backing s place (.take place) (.take record owner) tickets (.lookup ticket)
  | found {ticket : WebSocketTicketRecord} {session : SessionRecord}
    (hfound : backing.findCurrentById s.db s.now ticket.sessionId = some session) :
    Moves backing s place (.lookup place) (.lookup ticket) s.tickets (.accept ticket session)
  | accepted {ticket : WebSocketTicketRecord} {session : SessionRecord} :
    Moves backing s place (.accept place) (.accept ticket session) s.tickets
      (.register ticket session)
  | registered {ticket : WebSocketTicketRecord} {session : SessionRecord} {id : Uuid} :
    Moves backing s place (.register place id) (.register ticket session) s.tickets
      (.serve ticket session (s.connection session id))
  | turnedAway {ticket : WebSocketTicketRecord} {session : SessionRecord} {id : Uuid} :
    Moves backing s place (.register place id) (.register ticket session) s.tickets
      (.turnedAway ticket session)

namespace WebSocketState

section Steps

variable {backing : Backing} {heartbeatTimeout : Timestamp} {s t : WebSocketState}
  {e : WebSocketEvent}

theorem issued_cases {account session id : Uuid} {tokenHash : Bytea} {created expiresAt : Timestamp}
    (hmay : s.mayIssue backing account session tokenHash created expiresAt id = true) :
    s.issued backing account session tokenHash created expiresAt id = s.tickets ∨
      s.tickets.Adds (s.issued backing account session tokenHash created expiresAt id) session id ∧
        ∃ row ∈ s.db.sessions, row.id = session ∧ row.userId = account := by
  obtain ⟨hnew, hmay⟩ := Bool.and_eq_true_iff.1 hmay
  cases backing with
  | sql =>
    simp only [issued]
    split
    · exact .inl rfl
    · rename_i hcreate
      obtain ⟨hadds, row, hrow, haccount, hid, -⟩ := WebSocketTicketRepository.create_ok hcreate
      exact .inr ⟨hadds, row, hrow, hid, haccount⟩
  | memory =>
    simp only [Bool.and_eq_true, List.any_eq_true, decide_eq_true_eq] at hmay
    obtain hsame | hadds := InMemoryWebSocketTicketRepository.insert_cases account
      (WebSocketTicketRepository.inserted created session tokenHash expiresAt id)
      (Option.isNone_iff_eq_none.1 hnew) rfl
    · exact .inl hsame
    · exact .inr ⟨hadds, hmay.2⟩

theorem consumed_moves (hkeyed : s.tickets.Keyed) (place : ℕ) (tokenHash : Bytea) :
    Moves backing s place (.consume place) (.consume tokenHash) (s.consumed backing tokenHash).1
      (s.consumed backing tokenHash).2 := by
  cases backing with
  | sql =>
    simp only [consumed]
    split
    · rename_i hconsume
      obtain ⟨htakes, hsession⟩ := WebSocketTicketRepository.consumeForSocket_ok hkeyed hconsume
      exact .consumed htakes hsession
    · rename_i hconsume
      obtain rfl := WebSocketTicketRepository.consumeForSocket_none hconsume
      exact .refused rfl
    · exact .refused rfl
  | memory =>
    simp only [consumed]
    split
    · rename_i hread
      split
      · exact .read (InMemoryWebSocketTicketRepository.recordForToken_some hkeyed hread)
      · exact .refused rfl
    · exact .refused rfl

theorem checked_moves (place : ℕ) (record : WebSocketTicketRecord) (owner : Uuid) :
    Moves backing s place (.check place) (.check record owner) s.tickets
      (s.checked backing record owner) := by
  unfold checked
  split
  · rename_i hfound
    split
    · rename_i howner
      exact .checked hfound howner
    · exact .refused rfl
  · exact .refused rfl

theorem taken_moves (hkeyed : s.tickets.Keyed) (place : ℕ) (record : WebSocketTicketRecord)
    (owner : Uuid) :
    Moves backing s place (.take place) (.take record owner) (s.taken record owner).1
      (s.taken record owner).2 := by
  unfold taken
  split
  · rename_i htake
    obtain ⟨htakes, hid⟩ := InMemoryWebSocketTicketRepository.take_some hkeyed htake
    exact .taken htakes hid
  · exact .refused rfl

theorem lookedUp_moves (place : ℕ) (ticket : WebSocketTicketRecord) :
    Moves backing s place (.lookup place)
      (.lookup ticket) s.tickets (s.lookedUp backing ticket) := by
  unfold lookedUp
  split
  · rename_i hfound
    exact .found hfound
  · exact .refused rfl

theorem registered_moves (place : ℕ) (ticket : WebSocketTicketRecord) (session : SessionRecord)
    (id : Uuid) :
    Moves backing s place (.register place id) (.register ticket session) s.tickets
      (s.registered ticket session id) := by
  unfold registered
  split
  · exact .registered
  · exact .turnedAway

/-- A step is one of a call, or issues a ticket, or is one of the rest of the application. -/
theorem step_cases (hkeyed : s.tickets.Keyed) (hstep : Step (step backing heartbeatTimeout) s e t) :
    (∃ place call call', s.calls[place]? = some call ∧
      Moves backing s place e call t.tickets call' ∧
        t.calls = s.calls.set place call' ∧ t.db = s.db ∧ t.now = s.now) ∨
      (∃ account session tokenHash created expiresAt id,
        e = .issue account session tokenHash created expiresAt id ∧
        (t.tickets = s.tickets ∨ s.tickets.Adds t.tickets session id ∧
          ∃ row ∈ s.db.sessions, row.id = session ∧ row.userId = account) ∧
        t.calls = s.calls ∧ t.db = s.db ∧ t.now = s.now) ∨
      t.tickets = s.tickets ∧
      (t.calls = s.calls ∨ ∃ tokenHash, t.calls = s.calls ++ [.consume tokenHash]) ∧
        s.db.Follows s.now t.db t.now ∧
        (backing.Consistent s.db s.now → backing.Consistent t.db t.now) := by
  cases e with
  | clock now =>
    obtain ⟨hle, heq⟩ := Option.ite_none_right_eq_some.1 hstep
    obtain rfl := Option.some.inj heq
    exact .inr (.inr ⟨rfl, .inl rfl, .clock hle, fun h => h.clock hle⟩)
  | store op =>
    obtain ⟨db, hcall, rfl⟩ := Option.map_eq_some_iff.1 hstep
    exact .inr (.inr ⟨rfl, .inl rfl, Backing.call_follows hcall, fun h => h.call hcall⟩)
  | issue account session tokenHash created expiresAt id =>
    obtain ⟨hmay, heq⟩ := Option.ite_none_right_eq_some.1 hstep
    obtain rfl := Option.some.inj heq
    exact .inr (.inl ⟨_, _, _, _, _, _, rfl, issued_cases hmay, rfl, rfl, rfl⟩)
  | socket event =>
    obtain ⟨-, heq⟩ := Option.ite_none_left_eq_some.1 hstep
    obtain ⟨presence, -, rfl⟩ := Option.map_eq_some_iff.1 heq
    exact .inr (.inr ⟨rfl, .inl rfl, .refl, fun h => h⟩)
  | connect tokenHash =>
    obtain rfl := Option.some.inj hstep
    exact .inr (.inr ⟨rfl, .inr ⟨tokenHash, rfl⟩, .refl, fun h => h⟩)
  | consume place =>
    simp only [Step, step] at hstep
    split at hstep
    · rename_i hcall
      obtain rfl := Option.some.inj hstep
      exact .inl ⟨place, _, _, hcall, consumed_moves hkeyed place _, rfl, rfl, rfl⟩
    · cases hstep
  | check place =>
    simp only [Step, step] at hstep
    split at hstep
    · rename_i hcall
      obtain rfl := Option.some.inj hstep
      exact .inl ⟨place, _, _, hcall, checked_moves place _ _, rfl, rfl, rfl⟩
    · cases hstep
  | take place =>
    simp only [Step, step] at hstep
    split at hstep
    · rename_i hcall
      obtain rfl := Option.some.inj hstep
      exact .inl ⟨place, _, _, hcall, taken_moves hkeyed place _ _, rfl, rfl, rfl⟩
    · cases hstep
  | lookup place =>
    simp only [Step, step] at hstep
    split at hstep
    · rename_i hcall
      obtain rfl := Option.some.inj hstep
      exact .inl ⟨place, _, _, hcall, lookedUp_moves place _, rfl, rfl, rfl⟩
    · cases hstep
  | accept place =>
    simp only [Step, step] at hstep
    split at hstep
    · rename_i hcall
      obtain rfl := Option.some.inj hstep
      exact .inl ⟨place, _, _, hcall, .accepted, rfl, rfl, rfl⟩
    · cases hstep
  | register place id =>
    simp only [Step, step] at hstep
    split at hstep
    · rename_i hcall
      obtain ⟨presence, -, rfl⟩ := Option.map_eq_some_iff.1 hstep
      exact .inl ⟨place, _, _, hcall, registered_moves place _ _ id, rfl, rfl, rfl⟩
    · cases hstep

end Steps

end WebSocketState

end SelfRelay.Backend
