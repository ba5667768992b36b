import SelfRelay.Backend.SessionStores
import SelfRelay.Lib.Dict

/-!
# WebSocket tickets

`WebSocketTicketRepository` consumes a ticket with one conditional `UPDATE`.  The in-memory
repository reads the record, awaits the check of its session, and then takes the record under a
lock, where it looks at it again: these are three steps of a handshake.  Both end in the same way: a
record that was neither consumed nor expired is marked (`WebSocketTickets.Takes`).
-/

namespace SelfRelay.Backend

/-- A row of `private.websocket_tickets`. -/
structure WebSocketTicketRecord where
  id : Uuid
  sessionId : Uuid
  tokenHash : Bytea
  createdAt : Timestamp
  expiresAt : Timestamp
  consumedAt : Option Timestamp
  deriving DecidableEq, Repr

/-- The `CHECK` constraints of `private.websocket_tickets`. -/
def WebSocketTicketRecord.check (ticket : WebSocketTicketRecord) : Bool :=
  ticket.tokenHash.length = 32 && ticket.createdAt < ticket.expiresAt &&
    ticket.consumedAt.all fun consumedAt => ticket.createdAt ≤ consumedAt

/-- The tickets.  The owners and the index by token hash are those of the in-memory repository. -/
structure WebSocketTickets where
  records : Dict Uuid WebSocketTicketRecord
  accounts : Dict Uuid Uuid
  byTokenHash : Dict Bytea Uuid

def WebSocketTickets.empty : WebSocketTickets := ⟨∅, ∅, ∅⟩

/-- `replace(record, consumed_at=current)` -/
def WebSocketTicketRecord.consumed (now : Timestamp) (ticket : WebSocketTicketRecord) :
    WebSocketTicketRecord :=
  { ticket with consumedAt := some now }

namespace WebSocketTicketRepository

variable (tickets : WebSocketTickets) (db : Database) (now : Timestamp)

/-- The row that `create` inserts. -/
def inserted (session : Uuid) (tokenHash : Bytea) (expiresAt : Timestamp) (id : Uuid) :
    WebSocketTicketRecord where
  id := id
  sessionId := session
  tokenHash := tokenHash
  createdAt := now
  expiresAt := expiresAt
  consumedAt := none

/-- `create`, with the id that the database draws. -/
def create (account session : Uuid) (tokenHash : Bytea) (expiresAt : Timestamp) (id : Uuid) :
    Except RepositoryError (WebSocketTickets × WebSocketTicketRecord) :=
  if db.sessions.any (SessionRepository.selectsUsable db now account session) then
    let ticket := inserted now session tokenHash expiresAt id
    if ticket.check = false then .error (.rejected .check)
    else if (tickets.records.get id).isSome ||
        tickets.records.values.any (fun other => other.tokenHash = tokenHash) then
      .error (.rejected .unique)
    else .ok ({ tickets with records := tickets.records.set id ticket }, ticket)
  else .error .noRow

/-- The `WHERE` clause of `consume_for_socket`. -/
def consumable (tokenHash : Bytea) (ticket : WebSocketTicketRecord) : Bool :=
  ticket.tokenHash = tokenHash && ticket.consumedAt.isNone && now < ticket.expiresAt &&
    db.sessions.any fun s => s.id = ticket.sessionId && s.usable db now

/-- `consume_for_socket`.  The token hashes of the rows are unique. -/
def consumeForSocket (tokenHash : Bytea) :
    Except RepositoryError (WebSocketTickets × Option WebSocketTicketRecord) :=
  match tickets.records.values.find? (consumable db now tokenHash) with
  | none => .ok (tickets, none)
  | some ticket =>
    if (ticket.consumed now).check = false then .error (.rejected .check)
    else
      .ok ({ tickets with records := tickets.records.set ticket.id (ticket.consumed now) },
        some (ticket.consumed now))

end WebSocketTicketRepository

namespace InMemoryWebSocketTicketRepository

variable (tickets : WebSocketTickets) (now : Timestamp)

/-- The locked section of `create`. -/
def insert (account : Uuid) (ticket : WebSocketTicketRecord) : WebSocketTickets :=
  if (tickets.byTokenHash.get ticket.tokenHash).isSome then tickets
  else
    { records := tickets.records.set ticket.id ticket
      accounts := tickets.accounts.set ticket.id account
      byTokenHash := tickets.byTokenHash.set ticket.tokenHash ticket.id }

/-- `_record_for_token` -/
def recordForToken (tokenHash : Bytea) : Option (WebSocketTicketRecord × Uuid) := do
  let id ← tickets.byTokenHash.get tokenHash
  let record ← tickets.records.get id
  let owner ← tickets.accounts.get id
  return (record, owner)

/-- `_is_usable` -/
def isUsable (record : WebSocketTicketRecord) : Bool :=
  record.consumedAt.isNone && now < record.expiresAt

/-- The locked section of `_consume`. -/
def take (record : WebSocketTicketRecord) (owner : Uuid) :
    Option (WebSocketTickets × WebSocketTicketRecord) :=
  match tickets.records.get record.id with
  | none => none
  | some latest =>
    if latest.consumedAt.isSome || latest.expiresAt ≤ now ||
        tickets.accounts.get record.id ≠ some owner then none
    else
      some ({ tickets with records := tickets.records.set latest.id (latest.consumed now) },
        latest.consumed now)

end InMemoryWebSocketTicketRepository

/-! ## What the calls do -/

namespace WebSocketTickets

/-- The records are under their ids. -/
def Keyed (tickets : WebSocketTickets) : Prop :=
  ∀ id ticket, tickets.records.get id = some ticket → ticket.id = id

/-- A record that was neither consumed nor expired is marked and returned. -/
def Takes (tickets : WebSocketTickets) (now : Timestamp) (tickets' : WebSocketTickets)
    (ticket : WebSocketTicketRecord) : Prop :=
  ∃ record, tickets.records.get record.id = some record ∧ record.consumedAt = none ∧
    now < record.expiresAt ∧ ticket = record.consumed now ∧
    tickets' = { tickets with records := tickets.records.set record.id ticket }

/-- A record is added under a new id, for a session. -/
def Adds (tickets tickets' : WebSocketTickets) (session id : Uuid) : Prop :=
  ∃ ticket, ticket.id = id ∧ ticket.sessionId = session ∧ ticket.consumedAt = none ∧
    tickets.records.get id = none ∧ tickets'.records = tickets.records.set id ticket

end WebSocketTickets

section Calls

variable {tickets tickets' : WebSocketTickets} {db : Database} {now : Timestamp}

theorem WebSocketTicketRepository.create_ok {account session id : Uuid} {tokenHash : Bytea}
    {expiresAt : Timestamp} {ticket : WebSocketTicketRecord}
    (h : create tickets db now account session tokenHash expiresAt id = .ok (tickets', ticket)) :
    tickets.Adds tickets' session id ∧
      ∃ s ∈ db.sessions, s.userId = account ∧ s.id = session ∧ s.usable db now = true := by
  unfold create at h
  split at h
  · rename_i hany
    obtain ⟨s, hs, hselected⟩ := List.any_eq_true.1 hany
    dsimp only at h
    split at h
    · cases h
    split at h
    · cases h
    · rename_i hunique
      cases h
      simp only [Bool.or_eq_true, not_or, Option.not_isSome_iff_eq_none] at hunique
      exact ⟨⟨_, rfl, rfl, rfl, hunique.1, rfl⟩, s, hs, selectsUsable_iff.1 hselected⟩
  · cases h

/-- The one statement takes a record whose session is usable. -/
theorem WebSocketTicketRepository.consumeForSocket_ok {tokenHash : Bytea}
    {ticket : WebSocketTicketRecord} (hkeyed : tickets.Keyed)
    (h : consumeForSocket tickets db now tokenHash = .ok (tickets', some ticket)) :
    tickets.Takes now tickets' ticket ∧
      ∃ s ∈ db.sessions, s.id = ticket.sessionId ∧ s.usable db now = true := by
  unfold consumeForSocket at h
  split at h
  · cases h
  · rename_i record hfind
    obtain ⟨id, hget⟩ := Dict.mem_values.1 (List.mem_of_find?_eq_some hfind)
    have hselected := List.find?_some hfind
    simp only [consumable, Bool.and_eq_true, decide_eq_true_eq, Option.isNone_iff_eq_none,
      List.any_eq_true] at hselected
    obtain ⟨⟨⟨-, hconsumed⟩, hexpires⟩, hsession⟩ := hselected
    split at h
    · cases h
    · cases h
      exact ⟨⟨record, (hkeyed id record hget).symm ▸ hget, hconsumed, hexpires, rfl, rfl⟩, hsession⟩

/-- The statement that selects no row changes nothing. -/
theorem WebSocketTicketRepository.consumeForSocket_none {tokenHash : Bytea}
    (h : consumeForSocket tickets db now tokenHash = .ok (tickets', none)) :
    tickets' = tickets := by
  unfold consumeForSocket at h
  split at h
  · cases h
    rfl
  · split at h <;> cases h

theorem InMemoryWebSocketTicketRepository.recordForToken_some {tokenHash : Bytea}
    {record : WebSocketTicketRecord} {owner : Uuid} (hkeyed : tickets.Keyed)
    (h : recordForToken tickets tokenHash = some (record, owner)) :
    tickets.records.get record.id = some record := by
  obtain ⟨id, -, h⟩ := Option.bind_eq_some_iff.1 h
  obtain ⟨record', hget, h⟩ := Option.bind_eq_some_iff.1 h
  obtain ⟨owner', -, h⟩ := Option.bind_eq_some_iff.1 h
  cases h
  exact (hkeyed id record hget).symm ▸ hget

theorem InMemoryWebSocketTicketRepository.take_some {record ticket : WebSocketTicketRecord}
    {owner : Uuid} (hkeyed : tickets.Keyed)
    (h : take tickets now record owner = some (tickets', ticket)) :
    tickets.Takes now tickets' ticket ∧ ticket.id = record.id := by
  unfold take at h
  split at h
  · cases h
  · rename_i latest hget
    have hid := hkeyed _ _ hget
    split at h
    · cases h
    · rename_i hguard
      cases h
      simp only [Bool.or_eq_true, not_or, Option.not_isSome_iff_eq_none, decide_eq_true_eq,
        Nat.not_le] at hguard
      exact ⟨⟨latest, hid.symm ▸ hget, hguard.1.1, hguard.1.2, rfl, rfl⟩, hid⟩

/-- The locked section of `create` adds the record, or finds its token hash and changes nothing. -/
theorem InMemoryWebSocketTicketRepository.insert_cases (account : Uuid)
    (ticket : WebSocketTicketRecord) (hnew : tickets.records.get ticket.id = none)
    (hconsumed : ticket.consumedAt = none) :
    insert tickets account ticket = tickets ∨
      tickets.Adds (insert tickets account ticket) ticket.sessionId ticket.id := by
  unfold insert
  split
  · exact .inl rfl
  · exact .inr ⟨ticket, rfl, rfl, hconsumed, hnew, rfl⟩

end Calls

end SelfRelay.Backend
