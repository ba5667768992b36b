import SelfRelay.Backend.Authentication
import SelfRelay.Backend.SessionExpiry

/-!
# The two session stores

The application runs on the tables, or, for tests, on `InMemorySessionRepository` and
`InMemoryDeviceRepository`, which hold the same records.  The in-memory session store knows no
devices: it checks a session's own columns only, and a device that is logged out or revoked takes
its sessions with it.  `Database.Follows` says what becomes of the sessions over a call of either
store: a session that was usable stays so or has ended, and one that has ended stays so.
-/

namespace SelfRelay.Backend

/-! ## The calls -/

/-- A call of `InMemorySessionRepository` or `InMemoryDeviceRepository` that ends sessions or keeps
them alive. -/
inductive MemoryOperation where
  | touchLastSeen (account session : Uuid)
  | replaceCsrfHash (account session : Uuid) (csrfHash : Bytea)
  | revoke (account session : Uuid) (reason : String)
  | revokeByTokenHash (account : Uuid) (tokenHash : Bytea) (reason : String)
  | revokeForDevice (account device : Uuid) (reason : String)
  | revokeForAccount (account : Uuid) (reason : String)
  | revokeWithSessions (account device : Uuid) (reason : String)
  | logoutWithSessions (account device : Uuid) (reason : String)
  | revokeAllForAccount (account : Uuid) (reason : String)

namespace InMemorySessionRepository

/-- The session of an account, while it has not ended. -/
def selectsUsable (now : Timestamp) (account session : Uuid) (s : SessionRecord) : Bool :=
  s.userId = account && s.id = session && !s.ended now

/-- `find_current_by_id` -/
def findCurrentById (db : Database) (now : Timestamp) (session : Uuid) : Option SessionRecord :=
  db.sessions.find? fun s => s.id = session && !s.ended now

end InMemorySessionRepository

namespace InMemoryDeviceRepository

/-- A device of the account that is not revoked. -/
def selectsNotRevoked (account device : Uuid) (d : DeviceRecord) : Bool :=
  DeviceRepository.selectsId account device d && d.status ≠ .revoked

/-- An active device of the account. -/
def selectsActive (account : Uuid) (d : DeviceRecord) : Bool :=
  d.userId = account && d.status = .active

def revoked (now : Timestamp) (d : DeviceRecord) : DeviceRecord :=
  { d with status := .revoked, revokedAt := some now }

end InMemoryDeviceRepository

open InMemoryDeviceRepository in
/-- What a call writes to devices and sessions.  A device takes its sessions with it. -/
def MemoryOperation.updates (db : Database) (now : Timestamp) :
    MemoryOperation → Update DeviceRecord × Update SessionRecord
  | .touchLastSeen account session =>
    (.nothing, ⟨InMemorySessionRepository.selectsUsable now account session,
      SessionRecord.touched now⟩)
  | .replaceCsrfHash account session csrfHash =>
    (.nothing, ⟨InMemorySessionRepository.selectsUsable now account session,
      fun s => { s with csrfHash }⟩)
  | .revoke account session reason =>
    (.nothing, ⟨SessionRepository.selectsId account session, SessionRecord.revoked now reason⟩)
  | .revokeByTokenHash account tokenHash reason =>
    (.nothing, ⟨fun s => SessionRepository.selectsTokenHash account tokenHash s && !s.ended now,
      SessionRecord.revoked now reason⟩)
  | .revokeForDevice account device reason =>
    (.nothing, ⟨SessionRepository.selectsDevice account device, SessionRecord.revoked now reason⟩)
  | .revokeForAccount account reason =>
    (.nothing, ⟨SessionRepository.selectsAccount account, SessionRecord.revoked now reason⟩)
  | .revokeWithSessions account device reason =>
    (⟨selectsNotRevoked account device, revoked now⟩,
      ⟨fun s => db.devices.any (selectsNotRevoked account device) &&
        SessionRepository.selectsDevice account device s, SessionRecord.revoked now reason⟩)
  | .logoutWithSessions account device reason =>
    (⟨selectsNotRevoked account device, fun d => { d with status := .inactive }⟩,
      ⟨fun s => db.devices.any (DeviceRepository.selectsId account device) &&
        SessionRepository.selectsDevice account device s, SessionRecord.revoked now reason⟩)
  | .revokeAllForAccount account reason =>
    (⟨selectsActive account, revoked now⟩,
      ⟨fun s => db.devices.any (fun d => selectsActive account d && d.id = s.deviceId) &&
        SessionRepository.selectsAccount account s, SessionRecord.revoked now reason⟩)

/-- The stores after a call. -/
def MemoryOperation.perform (db : Database) (now : Timestamp) (op : MemoryOperation) : Database :=
  { db with
    devices := (op.updates db now).1.apply db.devices
    sessions := (op.updates db now).2.apply db.sessions }

/-- What the application runs on. -/
inductive Backing where
  | sql
  | memory
  deriving DecidableEq, Repr

/-- A call that another request makes. -/
inductive BackingCall where
  | session (op : SessionOperation)
  | device (op : DeviceOperation)
  | memory (op : MemoryOperation)

namespace Backing

/-- The records after a call; one that raises leaves them as they are. -/
def call : Backing → Database → Timestamp → BackingCall → Option Database
  | sql, db, now, .session op =>
    match SessionRepository.perform db now op with
    | .error _ => some db
    | .ok (db, _) => some db
  | sql, db, now, .device op =>
    match DeviceRepository.perform db now op with
    | .error _ => some db
    | .ok (db, _) => some db
  | memory, db, now, .memory op => some (op.perform db now)
  | _, _, _, _ => none

/-- `find_current_by_id` -/
def findCurrentById : Backing → Database → Timestamp → Uuid → Option SessionRecord
  | sql => SessionRepository.findCurrentById
  | memory => InMemorySessionRepository.findCurrentById

/-- The ids of the sessions are unique; in memory, a session that has not ended belongs to an active
device, in the epoch of its account. -/
structure Consistent (backing : Backing) (db : Database) (now : Timestamp) : Prop where
  ids : (db.sessions.map (·.id)).Nodup
  usable : backing = .memory → ∀ s ∈ db.sessions, s.ended now = false → s.usable db now = true

end Backing

/-! ## What becomes of the sessions -/

/-- A later version of a session. -/
structure SessionRecord.Becomes (db : Database) (now : Timestamp) (s : SessionRecord)
  (db' : Database)
    (now' : Timestamp) (s' : SessionRecord) : Prop where
  id : s'.id = s.id
  user : s'.userId = s.userId
  device : s'.deviceId = s.deviceId
  ended : s.ended now = true → s'.ended now' = true
  usable : s.usable db now = true → s'.ended now' = true ∨ s'.usable db' now' = true

/-- Every session is still there, in a later version. -/
structure Database.Follows (db : Database) (now : Timestamp) (db' : Database) (now' : Timestamp) :
    Prop where
  becomes : ∀ s ∈ db.sessions, ∃ s' ∈ db'.sessions, s.Becomes db now db' now' s'

section Follows

variable {db db' : Database} {now now' : Timestamp} {s : SessionRecord}

theorem SessionRecord.usable_iff_ended : s.usable db now = true ↔
    s.ended now = false ∧ db.accountAt s.userId s.epoch = true ∧
      db.deviceAt s.userId s.deviceId s.epoch = true := by
  simp [SessionRecord.usable, SessionRecord.ended, and_assoc]

theorem SessionRecord.Becomes.refl : s.Becomes db now db now s :=
  ⟨rfl, rfl, rfl, fun h => h, .inr⟩

theorem SessionRecord.Becomes.trans {db'' : Database} {now'' : Timestamp} {s' s'' : SessionRecord}
    (h : s.Becomes db now db' now' s') (h' : s'.Becomes db' now' db'' now'' s'') :
    s.Becomes db now db'' now'' s'' where
  id := h'.id.trans h.id
  user := h'.user.trans h.user
  device := h'.device.trans h.device
  ended hs := h'.ended (h.ended hs)
  usable hs := (h.usable hs).elim (fun hended => .inl (h'.ended hended)) h'.usable

theorem Database.Follows.refl : db.Follows now db now := ⟨fun s hs => ⟨s, hs, .refl⟩⟩

theorem Database.Follows.trans {db'' : Database} {now'' : Timestamp} (h : db.Follows now db' now')
    (h' : db'.Follows now' db'' now'') : db.Follows now db'' now'' := by
  refine ⟨fun s hs => ?_⟩
  obtain ⟨s', hs', hbecomes⟩ := h.becomes s hs
  obtain ⟨s'', hs'', hbecomes'⟩ := h'.becomes s' hs'
  exact ⟨s'', hs'', hbecomes.trans hbecomes'⟩

/-- Where the account and the device of a session stay as they were, it is usable until it ends. -/
theorem SessionRecord.Becomes.of_backed {s' : SessionRecord} (hid : s'.id = s.id)
    (huser : s'.userId = s.userId) (hdevice : s'.deviceId = s.deviceId)
    (hepoch : s'.epoch = s.epoch)
    (hended : s.ended now = true → s'.ended now' = true)
    (haccount : db.accountAt s.userId s.epoch = true → db'.accountAt s.userId s.epoch = true)
    (hactive : s'.ended now' = false → db.deviceAt s.userId s.deviceId s.epoch = true →
      db'.deviceAt s.userId s.deviceId s.epoch = true) : s.Becomes db now db' now' s' := by
  refine ⟨hid, huser, hdevice, hended, fun husable => ?_⟩
  obtain ⟨-, haccount', hdevice'⟩ := SessionRecord.usable_iff_ended.1 husable
  cases hended' : s'.ended now' with
  | true => exact .inl rfl
  | false =>
    refine .inr (SessionRecord.usable_iff_ended.2 ⟨hended', ?_, ?_⟩)
    · rw [huser, hepoch]
      exact haccount haccount'
    · rw [huser, hdevice, hepoch]
      exact hactive hended' hdevice'

theorem Database.Follows.clock (h : now ≤ now') : db.Follows now db now' :=
  ⟨fun s hs => ⟨s, hs, .of_backed rfl rfl rfl rfl (SessionRecord.Later.clock h).ended (fun h => h)
    fun _ h => h⟩⟩

theorem Database.Follows.update {u : Update SessionRecord}
    (hdb : db'.sessions = u.apply db.sessions)
    (h : ∀ s ∈ db.sessions, s.Becomes db now db' now (u.row s)) : db.Follows now db' now :=
  ⟨fun s hs => ⟨u.row s, hdb ▸ Update.mem_apply.2 ⟨s, hs, rfl⟩, h s hs⟩⟩

/-! ### The tables -/

theorem SessionOperation.same_row {op : SessionOperation} {u : Update SessionRecord}
    (hu : op.update db now = some u) : (u.row s).userId = s.userId ∧
      (u.row s).deviceId = s.deviceId ∧
      (u.row s).epoch = s.epoch := by
  have hset : ∀ s, (u.set s).userId = s.userId ∧ (u.set s).deviceId = s.deviceId ∧
      (u.set s).epoch = s.epoch := by
    intro s
    cases op with
    | create => cases hu
    | _ =>
      cases hu
      exact ⟨rfl, rfl, rfl⟩
  exact ⟨Update.row_column _ (fun s => (hset s).1) s, Update.row_column _ (fun s => (hset s).2.1) s,
    Update.row_column _ (fun s => (hset s).2.2) s⟩

theorem DeviceOperation.same_row (op : DeviceOperation) :
    ((op.updates now).2.row s).userId = s.userId ∧
      ((op.updates now).2.row s).deviceId = s.deviceId := by
  have hset : ∀ s, ((op.updates now).2.set s).userId = s.userId ∧
      ((op.updates now).2.set s).deviceId = s.deviceId := by
    intro s
    cases op <;> exact ⟨rfl, rfl⟩
  exact ⟨Update.row_column _ (fun s => (hset s).1) s, Update.row_column _ (fun s => (hset s).2) s⟩

theorem SessionRepository.follows {op : SessionOperation} {response : SessionResponse}
    (h : perform db now op = .ok (db', response)) : db.Follows now db' now := by
  obtain ⟨new, -, -, rfl⟩ | ⟨u, hu, -, rfl⟩ := perform_cases h
  · refine ⟨fun s hs => ⟨s, List.mem_append_left _ hs, ?_⟩⟩
    exact .of_backed rfl rfl rfl rfl (fun h => h) (fun h => h) fun _ h => h
  · refine .update rfl fun s _ => ?_
    obtain ⟨huser, hdevice, hepoch⟩ := op.same_row hu
    exact .of_backed (op.later hu).id huser hdevice hepoch (op.later hu).ended (fun h => h)
      fun _ h => h

/-- A call that ends a usable session revokes it. -/
theorem DeviceOperation.revokes {op : DeviceOperation} (hends : op.ends s = true)
    (hs : s.revokedAt = none) : ((op.updates now).2.row s).ended now = true := by
  have hrow : ∀ {reason : String}, (op.updates now).2.selected s = true →
      (op.updates now).2.set s = s.revoked now reason →
      ((op.updates now).2.row s).ended now = true := by
    intro reason hselected hset
    rw [Update.row_of_selected hselected, hset]
    exact SessionRecord.ended_iff.2 (.inl rfl)
  have hnone : s.revokedAt.isNone = true := Option.isNone_iff_eq_none.2 hs
  cases op with
  | revokeWithSessions account device reason =>
    exact hrow (Bool.and_eq_true_iff.2 ⟨hends, hnone⟩) rfl
  | logoutWithSessions account device reason =>
    exact hrow (Bool.and_eq_true_iff.2 ⟨hends, hnone⟩) rfl
  | revokeAllForAccount account reason => exact hrow (Bool.and_eq_true_iff.2 ⟨hends, hnone⟩) rfl
  | _ => cases hends

theorem DeviceRepository.follows {op : DeviceOperation} {response : DeviceResponse}
    (h : perform db now op = .ok (db', response)) : db.Follows now db' now := by
  have hkeeps : ∀ s ∈ db.sessions, op.ends s = false → s.usable db now = true →
      s.usable db' now = true := fun s hs hends husable => (keeps_usable h hs hends husable).2
  obtain ⟨new, -, rfl⟩ | ⟨-, -, ⟨-, rfl⟩ | rfl⟩ := perform_cases h
  · refine ⟨fun s hs => ⟨s, hs, rfl, rfl, rfl, fun h => h, fun husable => .inr ?_⟩⟩
    obtain ⟨hended, haccount, hdevice⟩ := SessionRecord.usable_iff_ended.1 husable
    obtain ⟨d, hd, hactive⟩ := Database.deviceAt_iff.1 hdevice
    exact SessionRecord.usable_iff_ended.2 ⟨hended, haccount,
      Database.deviceAt_iff.2 ⟨d, List.mem_append_left _ hd, hactive⟩⟩
  · exact .refl
  · refine .update rfl fun s hs => ?_
    obtain ⟨huser, hdevice⟩ := op.same_row (s := s)
    refine ⟨(op.later).id, huser, hdevice, (op.later).ended, fun husable => ?_⟩
    cases hends : op.ends s with
    | true => exact .inl (op.revokes hends (SessionRecord.usable_iff.1 husable).1)
    | false =>
      rw [op.session_row hends]
      exact .inr (hkeeps s hs hends husable)

/-! ### The in-memory stores -/

namespace MemoryOperation

theorem same_row (op : MemoryOperation) : ((op.updates db now).2.row s).id = s.id ∧
    ((op.updates db now).2.row s).userId = s.userId ∧
    ((op.updates db now).2.row s).deviceId = s.deviceId ∧
    ((op.updates db now).2.row s).epoch = s.epoch := by
  have hset : ∀ s, ((op.updates db now).2.set s).id = s.id ∧
      ((op.updates db now).2.set s).userId = s.userId ∧
      ((op.updates db now).2.set s).deviceId = s.deviceId ∧
      ((op.updates db now).2.set s).epoch = s.epoch := by
    intro s
    cases op <;> exact ⟨rfl, rfl, rfl, rfl⟩
  exact ⟨Update.row_column _ (fun s => (hset s).1) s, Update.row_column _ (fun s => (hset s).2.1) s,
    Update.row_column _ (fun s => (hset s).2.2.1) s,
    Update.row_column _ (fun s => (hset s).2.2.2) s⟩

theorem ended_row (op : MemoryOperation) (h : s.ended now = true) :
    ((op.updates db now).2.row s).ended now = true := by
  by_cases hselected : (op.updates db now).2.selected s = true
  · rw [Update.row_of_selected hselected]
    -- activity is only written to sessions that have not ended
    have hactive : ∀ {account session : Uuid},
        InMemorySessionRepository.selectsUsable now account session s ≠ true := by
      intro account session hselects
      simp [InMemorySessionRepository.selectsUsable, h] at hselects
    have hrevoked : ∀ reason, (s.revoked now reason).ended now = true :=
      fun _ => SessionRecord.ended_iff.2 (.inl rfl)
    cases op with
    | touchLastSeen account session => exact (hactive hselected).elim
    | replaceCsrfHash account session csrfHash => exact (hactive hselected).elim
    | _ => exact hrevoked _
  · rw [Update.row_of_not_selected (Bool.eq_false_iff.2 hselected)]
    exact h

/-- A call that changes an active device revokes its sessions. -/
theorem revokes {op : MemoryOperation} {d : DeviceRecord} (hd : d ∈ db.devices)
    (hselected : (op.updates db now).1.selected d = true) (huser : d.userId = s.userId)
    (hid : d.id = s.deviceId) (hs : s.revokedAt = none) :
    ((op.updates db now).2.row s).ended now = true := by
  have hrow : ∀ {reason : String}, (op.updates db now).2.selected s = true →
      (op.updates db now).2.set s = s.revoked now reason →
      ((op.updates db now).2.row s).ended now = true := by
    intro reason hselected hset
    rw [Update.row_of_selected hselected, hset]
    exact SessionRecord.ended_iff.2 (.inl rfl)
  have hany : ∀ {p : DeviceRecord → Bool}, p d = true → db.devices.any p = true :=
    fun hp => List.any_eq_true.2 ⟨d, hd, hp⟩
  cases op with
  | revokeWithSessions account device reason =>
    refine hrow (Bool.and_eq_true_iff.2 ⟨hany hselected, ?_⟩) rfl
    simp only [updates, InMemoryDeviceRepository.selectsNotRevoked, DeviceRepository.selectsId,
      Bool.and_eq_true, decide_eq_true_eq] at hselected
    simp [SessionRepository.selectsDevice, ← huser, ← hid, hselected, hs]
  | logoutWithSessions account device reason =>
    refine hrow (Bool.and_eq_true_iff.2 ⟨hany (Bool.and_eq_true_iff.1 hselected).1, ?_⟩) rfl
    simp only [updates, InMemoryDeviceRepository.selectsNotRevoked, DeviceRepository.selectsId,
      Bool.and_eq_true, decide_eq_true_eq] at hselected
    simp [SessionRepository.selectsDevice, ← huser, ← hid, hselected, hs]
  | revokeAllForAccount account reason =>
    refine hrow (Bool.and_eq_true_iff.2
      ⟨hany (Bool.and_eq_true_iff.2 ⟨hselected, decide_eq_true hid⟩), ?_⟩) rfl
    simp only [updates, InMemoryDeviceRepository.selectsActive, Bool.and_eq_true,
      decide_eq_true_eq] at hselected
    simp [SessionRepository.selectsAccount, ← huser, hselected, hs]
  | _ => cases hselected

theorem becomes (op : MemoryOperation) :
    s.Becomes db now (op.perform db now) now ((op.updates db now).2.row s) := by
  obtain ⟨hid, huser, hdevice, hepoch⟩ := op.same_row (s := s)
  refine .of_backed hid huser hdevice hepoch op.ended_row (fun h => h) fun hended hactive => ?_
  have hrevoked : s.revokedAt = none := by
    by_contra h
    have hs : s.ended now = true := SessionRecord.ended_iff.2 (.inl (Option.isSome_iff_ne_none.2 h))
    exact Bool.false_ne_true (hended.symm.trans (op.ended_row hs))
  obtain ⟨d, hd, huser, hid, hstatus, hepoch⟩ := Database.deviceAt_iff.1 hactive
  have hkept : (op.updates db now).1.selected d = false := by
    by_contra h
    have hrow := op.revokes hd (Bool.eq_true_of_not_eq_false h) huser hid hrevoked
    exact Bool.false_ne_true (hended.symm.trans hrow)
  have hmem : d ∈ (op.perform db now).devices :=
    Update.mem_apply.2 ⟨d, hd, Update.row_of_not_selected hkept⟩
  exact Database.deviceAt_iff.2 ⟨d, hmem, huser, hid, hstatus, hepoch⟩

end MemoryOperation

/-! ### Both -/

namespace Backing

variable {backing : Backing}

theorem call_cases {op : BackingCall} (h : backing.call db now op = some db') :
    db' = db ∨ (∃ op response, backing = .sql ∧ SessionRepository.perform db now op = .ok
      (db', response)) ∨
      (∃ op response, backing = .sql ∧ DeviceRepository.perform db now op = .ok (db', response)) ∨
      ∃ op : MemoryOperation, backing = .memory ∧ db' = op.perform db now := by
  cases backing with
  | sql =>
    cases op with
    | session op =>
      simp only [call] at h
      split at h
      · exact .inl (Option.some.inj h).symm
      · rename_i hperform
        cases h
        exact .inr (.inl ⟨op, _, rfl, hperform⟩)
    | device op =>
      simp only [call] at h
      split at h
      · exact .inl (Option.some.inj h).symm
      · rename_i hperform
        cases h
        exact .inr (.inr (.inl ⟨op, _, rfl, hperform⟩))
    | memory op => cases h
  | memory =>
    cases op with
    | session op => cases h
    | device op => cases h
    | memory op => exact .inr (.inr (.inr ⟨op, rfl, (Option.some.inj h).symm⟩))

theorem call_follows {op : BackingCall} (h : backing.call db now op = some db') :
    db.Follows now db' now := by
  obtain rfl | ⟨op, response, -, hperform⟩ | ⟨op, response, -, hperform⟩ | ⟨op, -, rfl⟩ :=
    call_cases h
  · exact .refl
  · exact SessionRepository.follows hperform
  · exact DeviceRepository.follows hperform
  · exact .update rfl fun s _ => op.becomes

theorem Consistent.call {op : BackingCall} (hdb : backing.Consistent db now)
    (h : backing.call db now op = some db') : backing.Consistent db' now := by
  obtain rfl | ⟨op, response, rfl, hperform⟩ | ⟨op, response, rfl, hperform⟩ | ⟨op, rfl, rfl⟩ :=
    call_cases h
  · exact hdb
  · exact ⟨(SessionRepository.carries hperform).ids hdb.ids, nofun⟩
  · exact ⟨(DeviceRepository.carries hperform).ids hdb.ids, nofun⟩
  · constructor
    · have hids : (op.perform db now).sessions.map (·.id) = db.sessions.map (·.id) :=
        Update.map_apply (fun s => op.same_row.1) db.sessions
      exact hids ▸ hdb.ids
    · intro _ s' hs' hended
      obtain ⟨s, hs, rfl⟩ := Update.mem_apply.1 hs'
      have hbecomes : s.Becomes db now (op.perform db now) now ((op.updates db now).2.row s) :=
        op.becomes
      have hs'' : s.ended now = false :=
        Bool.eq_false_iff.2 fun h => Bool.false_ne_true (hended.symm.trans (hbecomes.ended h))
      refine (hbecomes.usable (hdb.usable rfl s hs hs'')).resolve_left fun h => ?_
      exact Bool.false_ne_true (hended.symm.trans h)

theorem Consistent.clock (hdb : backing.Consistent db now) (h : now ≤ now') :
    backing.Consistent db now' := by
  refine ⟨hdb.ids, fun hmemory s hs hended => ?_⟩
  have hs' : s.ended now = false := Bool.eq_false_iff.2 fun hpast =>
    Bool.false_ne_true (hended.symm.trans ((SessionRecord.Later.clock h).ended hpast))
  obtain ⟨-, hbacked⟩ := SessionRecord.usable_iff_ended.1 (hdb.usable hmemory s hs hs')
  exact SessionRecord.usable_iff_ended.2 ⟨hended, hbacked⟩

/-- The session that is found is usable: its account and its device are current with it. -/
theorem findCurrentById_spec {session : Uuid} (hdb : backing.Consistent db now)
    (h : backing.findCurrentById db now session = some s) :
    s ∈ db.sessions ∧ s.id = session ∧ s.usable db now = true := by
  cases backing with
  | sql =>
    have hselected := List.find?_some h
    simp only [Bool.and_eq_true, decide_eq_true_eq] at hselected
    exact ⟨List.mem_of_find?_eq_some h, hselected⟩
  | memory =>
    have hmem := List.mem_of_find?_eq_some h
    have hselected := List.find?_some h
    simp only [Bool.and_eq_true, decide_eq_true_eq, Bool.not_eq_true'] at hselected
    exact ⟨hmem, hselected.1, hdb.usable rfl s hmem hselected.2⟩

end Backing

end Follows

end SelfRelay.Backend
