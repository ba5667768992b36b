import SelfRelay.Backend.SessionStores

/-!
# Logging out under `READ COMMITTED`

`SessionRepository.create` is one statement: it reads the device in its own snapshot, and the
foreign key takes a key-share lock, which the `UPDATE` of a status does not conflict with.
`logout_with_sessions` updates the device, then the sessions that are committed, and commits.  A
session whose insert overlaps the time from the second statement of a logout to its commit is not
revoked, and becomes usable when the device is registered again.  Where no insert for the device
does, every session whose insert was started before the commit is revoked for good
(`logout_revokes_for_good`).  All other transactions are one step each.
-/

namespace SelfRelay.Backend

open StepSystem

/-- A transaction of `logout_with_sessions` that has updated its device. -/
structure OpenLogout where
  account : Uuid
  device : Uuid
  /-- `CURRENT_TIMESTAMP` of the transaction. -/
  begun : Timestamp
  /-- The sessions that the second statement has updated. -/
  updated : Option (List Uuid)
  deriving DecidableEq, Repr

namespace OpenLogout

/-- The row is the device's that is logged out. -/
def locks (logout : OpenLogout) : DeviceRecord → Bool :=
  DeviceRepository.selectsId logout.account logout.device

/-- The session is one of the device. -/
def covers (logout : OpenLogout) (s : SessionRecord) : Bool :=
  s.userId = logout.account && s.deviceId = logout.device

/-- The second statement has run, and selected the row. -/
def locksSession (logout : OpenLogout) (s : SessionRecord) : Bool :=
  logout.updated.any (s.id ∈ ·)

/-- The row versions that the transaction has written become visible. -/
def commit (logout : OpenLogout) (db : Database) : Database :=
  { db with
    devices := (Update.mk logout.locks DeviceRepository.loggedOut).apply db.devices
    sessions := (Update.mk logout.locksSession (SessionRecord.revoked logout.begun "logout")).apply
      db.sessions }

end OpenLogout

structure ReadCommittedState where
  /-- The committed rows. -/
  db : Database
  now : Timestamp
  /-- The rows of inserts that are not committed. -/
  inserts : List SessionRecord
  logouts : List OpenLogout
  /-- The sessions whose insert was started before a logout of their device was committed. -/
  covered : List Uuid

inductive ReadCommittedEvent where
  | clock (now : Timestamp)
  | session (op : SessionOperation)
  | device (op : DeviceOperation)
  /-- The statement of `create`. -/
  | insert (account device : Uuid) (tokenHash csrfHash : Bytea) (epoch : ℤ)
    (idleExpiresAt absoluteExpiresAt : Timestamp) (id : Uuid)
  | commitInsert (place : ℕ)
  /-- The first statement of `logout_with_sessions`. -/
  | logout (account device : Uuid)
  /-- The second one. -/
  | revokeSessions (place : ℕ)
  | commitLogout (place : ℕ)

/-- The device rows that a call updates or locks. -/
def DeviceOperation.locks (now : Timestamp) : DeviceOperation → DeviceRecord → Bool
  | .registerForEmail account _ _ _ fingerprint _ =>
    DeviceRepository.hasFingerprint account fingerprint
  | op => (op.updates now).1.selected

namespace ReadCommittedState

def initial (db : Database) (now : Timestamp) : ReadCommittedState := ⟨db, now, [], [], []⟩

variable (s : ReadCommittedState)

/-- A logout holds the lock of the device. -/
def lockedDevice (d : DeviceRecord) : Bool := s.logouts.any fun logout => logout.locks d

/-- A logout holds the lock of the session. -/
def lockedSession (row : SessionRecord) : Bool := s.logouts.any fun logout =>
    logout.locksSession row

/-- The call selects no session that is locked; otherwise it waits. -/
def sessionsFree (selected : SessionRecord → Bool) : Bool :=
  s.db.sessions.all fun row => !(s.lockedSession row && selected row)

def devicesFree (selected : DeviceRecord → Bool) : Bool :=
  s.db.devices.all fun d => !(s.lockedDevice d && selected d)

def step : ReadCommittedEvent → Option ReadCommittedState
  | .clock now => if s.now ≤ now then some { s with now } else none
  | .session op =>
    match op.update s.db s.now with
    -- `create` has its own events
    | none => none
    | some u =>
      if s.sessionsFree u.selected then
        match SessionRepository.perform s.db s.now op with
        | .error _ => some s
        | .ok (db, _) => some { s with db }
      else none
  | .device op =>
    if s.devicesFree (op.locks s.now) && s.sessionsFree (op.updates s.now).2.selected then
      match DeviceRepository.perform s.db s.now op with
      | .error _ => some s
      | .ok (db, _) => some { s with db }
    else none
  | .insert account device tokenHash csrfHash epoch idleExpiresAt absoluteExpiresAt id =>
    match SessionRepository.create s.db s.now account device tokenHash csrfHash epoch idleExpiresAt
      absoluteExpiresAt id with
    | .error _ => some s
    | .ok (_, record) => some { s with inserts := s.inserts ++ [record] }
  | .commitInsert place =>
    match s.inserts[place]? with
    | none => none
    | some record =>
      match s.db.insertSession record with
      -- another insert with its id or its token hash was committed before
      | .error _ => some { s with inserts := s.inserts.eraseIdx place }
      | .ok db => some { s with db, inserts := s.inserts.eraseIdx place }
  | .logout account device =>
    if s.devicesFree (DeviceRepository.selectsId account device) then
      if s.db.devices.any (DeviceRepository.selectsId account device) then
        some { s with logouts := s.logouts ++ [⟨account, device, s.now, none⟩] }
      else some s
    else none
  | .revokeSessions place =>
    match s.logouts[place]? with
    | some ⟨account, device, begun, none⟩ =>
      some { s with
        logouts := s.logouts.set place ⟨account, device, begun,
          some ((s.db.sessions.filter (SessionRepository.selectsDevice account device)).map
            (·.id))⟩ }
    | _ => none
  | .commitLogout place =>
    match s.logouts[place]? with
    | none => none
    | some logout =>
      if logout.updated.isSome then
        some { s with
          db := logout.commit s.db
          logouts := s.logouts.eraseIdx place
          covered := s.covered ++ ((s.db.sessions ++ s.inserts).filter logout.covers).map (·.id) }
      else none

/-- No session is usable whose insert was started before a logout of its device was committed. -/
def Gone : Prop := ∀ row ∈ s.db.sessions, row.id ∈ s.covered → row.usable s.db s.now = false

/-- No insert for a device is open when a logout of it updates the sessions, or starts between then
and its commit. -/
def Quiet : ReadCommittedEvent → Prop
  | .insert account device _ _ _ _ _ _ =>
    ∀ logout ∈ s.logouts, logout.updated.isSome = true →
      ¬ (account = logout.account ∧ device = logout.device)
  | .revokeSessions place =>
    ∀ logout ∈ s.logouts[place]?, ∀ record ∈ s.inserts, logout.covers record = false
  | _ => True

instance (e : ReadCommittedEvent) : Decidable (s.Quiet e) :=
  match e with
  | .insert .. => inferInstanceAs (Decidable (∀ logout ∈ s.logouts, _))
  | .revokeSessions place =>
    inferInstanceAs (Decidable (∀ logout ∈ s.logouts[place]?, ∀ record ∈ s.inserts, _))
  | .clock _ | .session _ | .device _ | .commitInsert _ | .logout .. | .commitLogout _ =>
    inferInstanceAs (Decidable True)

end ReadCommittedState

/-! ## Sessions over a transaction -/

/-- The sessions are the same, and those that were revoked still are. -/
structure Database.Rewrites (db db' : Database) : Prop where
  ids : db'.sessions.map (·.id) = db.sessions.map (·.id)
  row : ∀ s' ∈ db'.sessions, ∃ s ∈ db.sessions, s'.id = s.id ∧ s'.userId = s.userId ∧
    s'.deviceId = s.deviceId ∧ (s.revokedAt.isSome = true → s'.revokedAt.isSome = true)

section Rewrites

variable {db db' : Database} {now : Timestamp}

theorem Database.Rewrites.refl : db.Rewrites db :=
  ⟨rfl, fun s hs => ⟨s, hs, rfl, rfl, rfl, fun h => h⟩⟩

theorem Database.Rewrites.update {u : Update SessionRecord}
    (hdb : db'.sessions = u.apply db.sessions)
    (h : ∀ s, (u.row s).id = s.id ∧ (u.row s).userId = s.userId ∧ (u.row s).deviceId = s.deviceId ∧
      (s.revokedAt.isSome = true → (u.row s).revokedAt.isSome = true)) : db.Rewrites db' := by
  constructor
  · rw [hdb]
    exact Update.map_apply (fun s => (h s).1) db.sessions
  · intro s' hs'
    rw [hdb] at hs'
    obtain ⟨s, hs, rfl⟩ := Update.mem_apply.1 hs'
    exact ⟨s, hs, h s⟩

theorem Update.revokedAt_row {u : Update SessionRecord} {s : SessionRecord}
    (h : (u.set s).revokedAt.isSome = true ∨ (u.set s).revokedAt = s.revokedAt)
    (hs : s.revokedAt.isSome = true) : (u.row s).revokedAt.isSome = true := by
  by_cases hselected : u.selected s = true
  · rw [Update.row_of_selected hselected]
    exact h.elim (fun h => h) fun h => h.symm ▸ hs
  · rwa [Update.row_of_not_selected (Bool.eq_false_iff.2 hselected)]

theorem SessionRepository.rewrites {op : SessionOperation} {u : Update SessionRecord}
    (hu : op.update db now = some u) {response : SessionResponse}
    (h : perform db now op = .ok (db', response)) : db.Rewrites db' := by
  obtain ⟨-, hnone, -⟩ | ⟨u', hu', -, rfl⟩ := perform_cases h
  · cases hnone.symm.trans hu
  obtain rfl := Option.some.inj (hu'.symm.trans hu)
  refine .update rfl fun s => ?_
  obtain ⟨huser, hdevice, -⟩ := op.same_row (s := s) hu
  refine ⟨(op.later hu).id, huser, hdevice, Update.revokedAt_row ?_⟩
  cases op with
  | create => cases hu
  | touchLastSeen =>
    cases hu
    exact .inr rfl
  | replaceCsrfHash =>
    cases hu
    exact .inr rfl
  | _ =>
    cases hu
    exact .inl rfl

theorem DeviceRepository.rewrites {op : DeviceOperation} {response : DeviceResponse}
    (h : perform db now op = .ok (db', response)) : db.Rewrites db' := by
  obtain ⟨new, -, rfl⟩ | ⟨-, -, ⟨-, rfl⟩ | rfl⟩ := perform_cases h
  · exact ⟨rfl, fun s hs => ⟨s, hs, rfl, rfl, rfl, fun h => h⟩⟩
  · exact .refl
  · refine .update rfl fun s => ?_
    obtain ⟨huser, hdevice⟩ := op.same_row (s := s)
    refine ⟨(op.later).id, huser, hdevice, Update.revokedAt_row ?_⟩
    cases op with
    | revokeWithSessions => exact .inl rfl
    | logoutWithSessions => exact .inl rfl
    | revokeAllForAccount => exact .inl rfl
    | _ => exact .inr rfl

theorem OpenLogout.rewrites (logout : OpenLogout) : db.Rewrites (logout.commit db) :=
  .update rfl fun s => ⟨Update.row_column (·.id) (fun _ => rfl) s,
    Update.row_column (·.userId) (fun _ => rfl) s, Update.row_column (·.deviceId) (fun _ => rfl) s,
    Update.revokedAt_row (.inl rfl)⟩

end Rewrites

/-! ## Runs -/

namespace ReadCommittedState

/-- What a logout has updated is all there is to update when it commits, and what it has revoked
stays revoked. -/
structure Sound (s : ReadCommittedState) : Prop where
  nodup : (s.db.sessions.map (·.id)).Nodup
  alone : ∀ logout ∈ s.logouts, logout.updated.isSome = true → ∀ record ∈ s.inserts,
    logout.covers record = false
  updated : ∀ logout ∈ s.logouts, logout.updated.isSome = true → ∀ row ∈ s.db.sessions,
    logout.covers row = true → row.revokedAt.isSome = true ∨ logout.locksSession row = true
  ids : ∀ id ∈ s.covered, id ∈ s.db.sessions.map (·.id)
  revoked : ∀ row ∈ s.db.sessions, row.id ∈ s.covered → row.revokedAt.isSome = true

section Steps

variable {s t : ReadCommittedState} {e : ReadCommittedEvent}

theorem sound_initial {db : Database} {now : Timestamp} (h : (db.sessions.map (·.id)).Nodup) :
    (initial db now).Sound :=
  ⟨h, nofun, nofun, nofun, fun _ _ => nofun⟩

/-- Another transaction. -/
theorem Sound.of_rewrites {db : Database} (hs : s.Sound) (hdb : s.db.Rewrites db) :
    ({ s with db } : ReadCommittedState).Sound where
  nodup := by
    rw [hdb.ids]
    exact hs.nodup
  alone := hs.alone
  updated logout hlogout hupdated row' hrow' hcovers := by
    obtain ⟨row, hrow, hid, huser, hdevice, hrevoked⟩ := hdb.row row' hrow'
    have hcovers' : logout.covers row = true := by
      rwa [OpenLogout.covers, ← huser, ← hdevice]
    obtain hrow'' | hlocked := hs.updated logout hlogout hupdated row hrow hcovers'
    · exact .inl (hrevoked hrow'')
    · refine .inr ?_
      rwa [OpenLogout.locksSession, hid]
  ids id hid := by
    rw [hdb.ids]
    exact hs.ids id hid
  revoked row' hrow' hid := by
    obtain ⟨row, hrow, hsame, -, -, hrevoked⟩ := hdb.row row' hrow'
    exact hrevoked (hs.revoked row hrow (hsame ▸ hid))

theorem Sound.step_insert {account device : Uuid} {tokenHash csrfHash : Bytea} {epoch : ℤ}
    {idleExpiresAt absoluteExpiresAt : Timestamp} {id : Uuid} (hs : s.Sound)
    (hquiet : s.Quiet
      (.insert account device tokenHash csrfHash epoch idleExpiresAt absoluteExpiresAt id))
    (hstep : Step ReadCommittedState.step s
      (.insert account device tokenHash csrfHash epoch idleExpiresAt absoluteExpiresAt id) t) :
    t.Sound := by
  simp only [Step, ReadCommittedState.step] at hstep
  split at hstep
  · obtain rfl := Option.some.inj hstep
    exact hs
  · rename_i record hcreate
    obtain rfl := Option.some.inj hstep
    obtain ⟨-, huser, hdevice, -⟩ := SessionRepository.create_ok hcreate
    refine ⟨hs.nodup, fun logout hlogout hupdated other hother => ?_, hs.updated,
      hs.ids, hs.revoked⟩
    obtain hold | hnew := List.mem_append.1 hother
    · exact hs.alone logout hlogout hupdated other hold
    · obtain rfl := List.mem_singleton.1 hnew
      have hother := hquiet logout hlogout hupdated
      simp only [OpenLogout.covers, huser, hdevice, Bool.and_eq_false_imp, decide_eq_true_eq,
        decide_eq_false_iff_not]
      exact fun haccount hdevice => hother ⟨haccount, hdevice⟩

theorem Sound.step_commitInsert {place : ℕ} (hs : s.Sound)
    (hstep : Step ReadCommittedState.step s (.commitInsert place) t) : t.Sound := by
  simp only [Step, ReadCommittedState.step] at hstep
  split at hstep
  · cases hstep
  rename_i record hplace
  have hmem := List.mem_of_getElem? hplace
  have halone : ∀ logout ∈ s.logouts, logout.updated.isSome = true →
      ∀ other ∈ s.inserts.eraseIdx place, logout.covers other = false :=
    fun logout hlogout hupdated other hother =>
      hs.alone logout hlogout hupdated other (List.mem_of_mem_eraseIdx hother)
  split at hstep
  · obtain rfl := Option.some.inj hstep
    exact ⟨hs.nodup, halone, hs.updated, hs.ids, hs.revoked⟩
  · rename_i db hinsert
    obtain rfl := Option.some.inj hstep
    obtain ⟨-, hnew, -, rfl⟩ := insertSession_ok hinsert
    refine ⟨Table.nodup_append_row hs.nodup hnew, halone,
      fun logout hlogout hupdated row hrow hcovers => ?_, fun id hid => ?_, fun row hrow hid => ?_⟩
    · obtain hold | hlast := List.mem_append.1 hrow
      · exact hs.updated logout hlogout hupdated row hold hcovers
      · obtain rfl := List.mem_singleton.1 hlast
        exact (Bool.false_ne_true
          ((hs.alone logout hlogout hupdated row hmem).symm.trans hcovers)).elim
    · rw [List.map_append]
      exact List.mem_append_left _ (hs.ids id hid)
    · obtain hold | hlast := List.mem_append.1 hrow
      · exact hs.revoked row hold hid
      · obtain rfl := List.mem_singleton.1 hlast
        exact (hnew (hs.ids _ hid)).elim

theorem Sound.step_revokeSessions {place : ℕ} (hs : s.Sound)
    (hquiet : s.Quiet (.revokeSessions place))
    (hstep : Step ReadCommittedState.step s (.revokeSessions place) t) : t.Sound := by
  simp only [Step, ReadCommittedState.step] at hstep
  split at hstep
  case h_2 => cases hstep
  case h_1 account device begun hplace =>
  obtain rfl := Option.some.inj hstep
  refine ⟨hs.nodup, fun logout hlogout hupdated => ?_,
    fun logout hlogout hupdated row hrow hcovers => ?_, hs.ids, hs.revoked⟩
  · obtain hold | rfl := List.mem_or_eq_of_mem_set hlogout
    · exact hs.alone logout hold hupdated
    · exact hquiet ⟨account, device, begun, none⟩ hplace
  · obtain hold | rfl := List.mem_or_eq_of_mem_set hlogout
    · exact hs.updated logout hold hupdated row hrow hcovers
    · cases hrevoked : row.revokedAt with
      | some at' => exact .inl rfl
      | none =>
        refine .inr (decide_eq_true (List.mem_map.2 ⟨row, List.mem_filter.2 ⟨hrow, ?_⟩, rfl⟩))
        rw [SessionRepository.selectsDevice, hrevoked]
        exact Bool.and_eq_true_iff.2 ⟨hcovers, rfl⟩

theorem Sound.step_commitLogout {place : ℕ} (hs : s.Sound)
    (hstep : Step ReadCommittedState.step s (.commitLogout place) t) : t.Sound := by
  simp only [Step, ReadCommittedState.step] at hstep
  split at hstep
  · cases hstep
  rename_i logout hplace
  obtain ⟨hupdated, heq⟩ := Option.ite_none_right_eq_some.1 hstep
  obtain rfl := Option.some.inj heq
  have hlogout := List.mem_of_getElem? hplace
  have hkept := hs.of_rewrites (OpenLogout.rewrites logout : s.db.Rewrites _)
  -- no insert of the device is open
  have hcovered : ∀ id ∈ ((s.db.sessions ++ s.inserts).filter logout.covers).map (·.id),
      ∃ row ∈ s.db.sessions, row.id = id ∧ logout.covers row = true := by
    intro id hid
    obtain ⟨row, hrow, rfl⟩ := List.mem_map.1 hid
    obtain ⟨hrow, hcovers⟩ := List.mem_filter.1 hrow
    obtain hcommitted | hopen := List.mem_append.1 hrow
    · exact ⟨row, hcommitted, rfl, hcovers⟩
    · exact (Bool.false_ne_true
        ((hs.alone logout hlogout hupdated row hopen).symm.trans hcovers)).elim
  refine ⟨hkept.nodup, fun other hother => hkept.alone other (List.mem_of_mem_eraseIdx hother),
    fun other hother => hkept.updated other (List.mem_of_mem_eraseIdx hother), fun id hid => ?_,
    fun row' hrow' hid => ?_⟩
  · obtain hold | hnew := List.mem_append.1 hid
    · exact hkept.ids id hold
    · obtain ⟨row, hrow, rfl, -⟩ := hcovered id hnew
      rw [(OpenLogout.rewrites logout).ids]
      exact List.mem_map_of_mem hrow
  · obtain hold | hnew := List.mem_append.1 hid
    · exact hkept.revoked row' hrow' hold
    · obtain ⟨row, hrow, hid, hcovers⟩ := hcovered _ hnew
      obtain ⟨old, hold, rfl⟩ := Update.mem_apply.1 hrow'
      obtain rfl : row = old := List.inj_on_of_nodup_map hs.nodup hrow hold
        (hid.trans (Update.row_column (·.id) (fun _ => rfl) old))
      obtain hrevoked | hlocked := hs.updated logout hlogout hupdated row hrow hcovers
      · exact Update.revokedAt_row (.inl rfl) hrevoked
      · rw [Update.row_of_selected hlocked]
        rfl

theorem Sound.step (hs : s.Sound) (hquiet : s.Quiet e)
    (hstep : Step ReadCommittedState.step s e t) : t.Sound := by
  cases e with
  | clock now =>
    obtain ⟨-, heq⟩ := Option.ite_none_right_eq_some.1 hstep
    obtain rfl := Option.some.inj heq
    exact ⟨hs.nodup, hs.alone, hs.updated, hs.ids, hs.revoked⟩
  | session op =>
    simp only [Step, ReadCommittedState.step] at hstep
    split at hstep
    · cases hstep
    rename_i u hu
    obtain ⟨-, hstep⟩ := Option.ite_none_right_eq_some.1 hstep
    split at hstep
    · obtain rfl := Option.some.inj hstep
      exact hs
    · rename_i hperform
      obtain rfl := Option.some.inj hstep
      exact hs.of_rewrites (SessionRepository.rewrites hu hperform)
  | device op =>
    obtain ⟨-, hstep⟩ := Option.ite_none_right_eq_some.1 hstep
    split at hstep
    · obtain rfl := Option.some.inj hstep
      exact hs
    · rename_i hperform
      obtain rfl := Option.some.inj hstep
      exact hs.of_rewrites (DeviceRepository.rewrites hperform)
  | insert => exact hs.step_insert hquiet hstep
  | commitInsert => exact hs.step_commitInsert hstep
  | logout account device =>
    obtain ⟨-, hstep⟩ := Option.ite_none_right_eq_some.1 hstep
    split at hstep
    · obtain rfl := Option.some.inj hstep
      refine ⟨hs.nodup, fun logout hlogout hupdated => ?_,
        fun logout hlogout hupdated => ?_, hs.ids,
        hs.revoked⟩
      · obtain hold | hnew := List.mem_append.1 hlogout
        · exact hs.alone logout hold hupdated
        · obtain rfl := List.mem_singleton.1 hnew
          cases hupdated
      · obtain hold | hnew := List.mem_append.1 hlogout
        · exact hs.updated logout hold hupdated
        · obtain rfl := List.mem_singleton.1 hnew
          cases hupdated
    · obtain rfl := Option.some.inj hstep
      exact hs
  | revokeSessions => exact hs.step_revokeSessions hquiet hstep
  | commitLogout => exact hs.step_commitLogout hstep

theorem Sound.gone (hs : s.Sound) : s.Gone := by
  intro row hrow hid
  have hended : row.ended s.now = true := SessionRecord.ended_iff.2 (.inl (hs.revoked row hrow hid))
  exact Bool.eq_false_iff.2 fun husable => SessionRecord.not_ended_of_usable husable hended

/-- In every run in which no insert for a device is open when a logout of it updates the sessions,
or starts between then and its commit: a session whose insert was started before the commit is never
usable after it. -/
theorem logout_revokes_for_good {db : Database} {now : Timestamp} {es : List ReadCommittedEvent}
    (hdb : (db.sessions.map (·.id)).Nodup)
    (hrun : Run (fun s e t => Step ReadCommittedState.step s e t ∧ s.Quiet e)
      (initial db now) es t) :
    t.Gone :=
  (hrun.invariant (I := Sound) (sound_initial hdb) fun _ _ _ h hstep => h.step hstep.2 hstep.1).gone

end Steps

/-- A session of device 2 is inserted. -/
def insertSession : ReadCommittedEvent :=
  .insert ⟨1⟩ ⟨2⟩ (List.replicate 32 9) (List.replicate 32 9) 0 9 9 ⟨8⟩

/-- The key of device 2 is registered again. -/
def reactivation : ReadCommittedEvent :=
  .device (.registerForEmail ⟨1⟩ 0 "laptop" [0] (List.replicate 32 2) ⟨7⟩)

/-- The insert is committed before the logout updates the sessions. -/
theorem logout_revokes_for_good_before : ∃ t,
    Run (fun s e t => Step step s e t ∧ s.Quiet e) (initial sessionDatabase 5)
      [insertSession, .logout ⟨1⟩ ⟨2⟩, .commitInsert 0, .revokeSessions 0, .commitLogout 0,
        reactivation]
      t ∧ t.covered = [⟨5⟩, ⟨8⟩] ∧ t.Gone := by
  have hexec : (exec (fun s e => if Quiet s e then step s e else none) (initial sessionDatabase 5)
      [insertSession, .logout ⟨1⟩ ⟨2⟩, .commitInsert 0, .revokeSessions 0, .commitLogout 0,
        reactivation]).any (fun t => t.covered = [⟨5⟩, ⟨8⟩]) = true := by
    decide +kernel
  obtain ⟨t, hexec, hcovered⟩ := (Option.any_eq_true _ _).1 hexec
  have hrun := Run.of_exec_guarded hexec
  exact ⟨t, hrun, of_decide_eq_true hcovered, logout_revokes_for_good (by decide) hrun⟩

/-- The insert is committed after the logout has updated the sessions, and the device comes back. -/
theorem overlapping_session_revives : ∃ t,
    Run (Step step) (initial sessionDatabase 5)
      [insertSession, .logout ⟨1⟩ ⟨2⟩, .revokeSessions 0, .commitLogout 0, .commitInsert 0,
        reactivation]
      t ∧ ¬ t.Gone := by
  have hexec : (exec step (initial sessionDatabase 5)
      [insertSession, .logout ⟨1⟩ ⟨2⟩, .revokeSessions 0, .commitLogout 0, .commitInsert 0,
        reactivation]).any (fun t => t.db.sessions.any fun row =>
          row.id ∈ t.covered ∧ row.usable t.db t.now = true) = true := by
    decide +kernel
  obtain ⟨t, hexec, hrow⟩ := (Option.any_eq_true _ _).1 hexec
  obtain ⟨row, hmem, hrow⟩ := List.any_eq_true.1 hrow
  obtain ⟨hcovered, husable⟩ := of_decide_eq_true hrow
  exact ⟨t, Run.of_exec hexec, fun hgone =>
    Bool.false_ne_true ((hgone row hmem hcovered).symm.trans husable)⟩

end ReadCommittedState

end SelfRelay.Backend
