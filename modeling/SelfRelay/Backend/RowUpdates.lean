import SelfRelay.Backend.WriteSafety

/-!
# What the operations do to the rows

A call of `SessionRepository` inserts one session, or updates sessions in place; a call of
`DeviceRepository` inserts one device, or updates devices and sessions in place.  `perform_cases`
says so for each repository, with the clauses of the updates (`SessionOperation.update`,
`DeviceOperation.updates`).  Results about runs of calls start from here.
-/

namespace SelfRelay.Backend

/-- An `UPDATE`: its `WHERE` clause and its `SET` clauses. -/
structure Update (α : Type) where
  selected : α → Bool
  set : α → α

namespace Update

variable {α : Type}

/-- What becomes of a row. -/
def row (u : Update α) (r : α) : α := if u.selected r then u.set r else r

/-- What becomes of a table. -/
def apply (u : Update α) (rows : List α) : List α := rows.map u.row

/-- The update of no row. -/
def nothing : Update α := ⟨fun _ => false, id⟩

@[simp] theorem nothing_row (r : α) : (nothing : Update α).row r = r := rfl

@[simp] theorem nothing_apply (rows : List α) : (nothing : Update α).apply rows = rows :=
  List.map_id' rows

theorem mem_apply {u : Update α} {rows : List α} {r' : α} :
    r' ∈ u.apply rows ↔ ∃ r ∈ rows, u.row r = r' := List.mem_map

theorem row_of_selected {u : Update α} {r : α} (h : u.selected r = true) : u.row r = u.set r :=
  if_pos h

theorem row_of_not_selected {u : Update α} {r : α} (h : u.selected r = false) : u.row r = r :=
  if_neg (by simp [h])

/-- A column that the `SET` clauses keep. -/
theorem row_column {β : Type} {u : Update α} (column : α → β) (h : ∀ r, column (u.set r) = column r)
    (r : α) : column (u.row r) = column r := by
  unfold row
  split
  · exact h r
  · rfl

theorem map_apply {β : Type} {u : Update α} {column : α → β}
    (h : ∀ r, column (u.row r) = column r) (rows : List α) :
    (u.apply rows).map column = rows.map column := by
  rw [apply, List.map_map]
  exact List.map_congr_left fun r _ => h r

end Update

theorem exists_of_bind_eq_ok {ε α β : Type} {x : Except ε α} {f : α → Except ε β} {b : β}
    (h : x >>= f = .ok b) : ∃ a, x = .ok a ∧ f a = .ok b := by
  cases x with
  | error e => cases h
  | ok a => exact ⟨a, rfl, h⟩

theorem exists_of_map_eq_ok {ε α β : Type} {g : α → β} {x : Except ε α} {b : β}
    (h : g <$> x = .ok b) : ∃ a, x = .ok a ∧ g a = b := by
  cases x with
  | error e => cases h
  | ok a => exact ⟨a, rfl, Except.ok.inj h⟩

variable {db db' : Database} {now : Timestamp}

/-! ## Statements -/

theorem updateSessions_ok {u : Update SessionRecord} {rows : List SessionRecord}
    (h : db.updateSessions u.selected u.set = .ok (db', rows)) :
    (∀ s ∈ db.sessions, u.selected s = true → (u.set s).check = true) ∧
      db' = { db with sessions := u.apply db.sessions } ∧
      rows = Table.written u.selected u.set db.sessions := by
  unfold Database.updateSessions at h
  split at h
  case h_1 => cases h
  case h_2 hupdate =>
    obtain ⟨hcheck, rfl, rfl⟩ := Table.update_eq_ok.1 hupdate
    cases h
    exact ⟨hcheck, rfl, rfl⟩

theorem updateDevices_ok {u : Update DeviceRecord} {rows : List DeviceRecord}
    (h : db.updateDevices u.selected u.set = .ok (db', rows)) :
    (∀ d ∈ db.devices, u.selected d = true → (u.set d).check = true) ∧
      db' = { db with devices := u.apply db.devices } ∧
      rows = Table.written u.selected u.set db.devices := by
  unfold Database.updateDevices at h
  split at h
  case h_1 => cases h
  case h_2 hupdate =>
    obtain ⟨hcheck, rfl, rfl⟩ := Table.update_eq_ok.1 hupdate
    cases h
    exact ⟨hcheck, rfl, rfl⟩

theorem insertSession_ok {s : SessionRecord} (h : db.insertSession s = .ok db') :
    s.check = true ∧ s.id ∉ db.sessions.map (·.id) ∧
      (∀ s' ∈ db.sessions, s'.tokenHash ≠ s.tokenHash) ∧
      db' = { db with sessions := db.sessions ++ [s] } := by
  unfold Database.insertSession at h
  split at h
  case h_1 => cases h
  case h_2 hinsert =>
    obtain ⟨hcheck, hid, rfl⟩ := Table.insert_eq_ok.1 hinsert
    split at h
    · cases h
    · rename_i hhash
      cases h
      refine ⟨hcheck, hid, fun s' hs' heq => hhash ?_, rfl⟩
      exact List.any_eq_true.2 ⟨s', hs', decide_eq_true heq⟩

theorem insertDevice_ok {d : DeviceRecord} (h : db.insertDevice d = .ok db') :
    d.check = true ∧ d.id ∉ db.devices.map (·.id) ∧
      (∀ d' ∈ db.devices, d'.userId = d.userId → d'.fingerprint ≠ d.fingerprint) ∧
      db' = { db with devices := db.devices ++ [d] } := by
  unfold Database.insertDevice at h
  split at h
  case h_1 => cases h
  case h_2 hinsert =>
    obtain ⟨hcheck, hid, rfl⟩ := Table.insert_eq_ok.1 hinsert
    split at h
    · cases h
    · rename_i hprint
      cases h
      refine ⟨hcheck, hid, fun d' hd' huser heq => hprint ?_, rfl⟩
      exact List.any_eq_true.2 ⟨d', hd', by simp [huser, heq]⟩

/-! ## `SessionRepository` -/

/-- The `SET` clauses of `touch_last_seen`. -/
def SessionRecord.touched (now : Timestamp) (s : SessionRecord) : SessionRecord :=
  { s with
    lastSeenAt := now
    idleExpiresAt := min (now + thirtyDays) s.absoluteExpiresAt }

/-- The update that a call makes, when it is not `create`. -/
def SessionOperation.update (db : Database) (now : Timestamp) :
    SessionOperation → Option (Update SessionRecord)
  | .create .. => none
  | .touchLastSeen account session =>
    some ⟨SessionRepository.selectsUsable db now account session, SessionRecord.touched now⟩
  | .replaceCsrfHash account session csrfHash =>
    some ⟨SessionRepository.selectsUsable db now account session, fun s => { s with csrfHash }⟩
  | .revoke account session reason =>
    some ⟨SessionRepository.selectsId account session, SessionRecord.revoked now reason⟩
  | .revokeByTokenHash account tokenHash reason =>
    some ⟨SessionRepository.selectsTokenHash account tokenHash, SessionRecord.revoked now reason⟩
  | .revokeForDevice account device reason =>
    some ⟨SessionRepository.selectsDevice account device, SessionRecord.revoked now reason⟩
  | .revokeForAccount account reason =>
    some ⟨SessionRepository.selectsAccount account, SessionRecord.revoked now reason⟩

/-- A session that `create` inserts. -/
structure SessionRecord.Created (db : Database) (now : Timestamp) (s : SessionRecord) : Prop where
  check : s.check = true
  freshId : s.id ∉ db.sessions.map (·.id)
  freshTokenHash : ∀ s' ∈ db.sessions, s'.tokenHash ≠ s.tokenHash
  account : db.accountAt s.userId s.epoch = true
  device : db.deviceAt s.userId s.deviceId s.epoch = true
  createdAt : s.createdAt = now
  notRevoked : s.revokedAt = none

theorem SessionRepository.create_ok {account device : Uuid} {tokenHash csrfHash : Bytea} {epoch : ℤ}
    {idleExpiresAt absoluteExpiresAt : Timestamp} {id : Uuid} {s : SessionRecord}
    (h : SessionRepository.create db now account device tokenHash csrfHash epoch idleExpiresAt
      absoluteExpiresAt id = .ok (db', s)) :
    s.Created db now ∧ s.userId = account ∧ s.deviceId = device ∧ s.epoch = epoch ∧
      s.idleExpiresAt = idleExpiresAt ∧ s.absoluteExpiresAt = absoluteExpiresAt ∧ s.id = id ∧
      db' = { db with sessions := db.sessions ++ [s] } := by
  unfold SessionRepository.create at h
  split at h
  · rename_i hadmits
    obtain ⟨haccount, hdevice⟩ := Bool.and_eq_true_iff.1 hadmits
    obtain ⟨db₁, hinsert, hok⟩ := exists_of_bind_eq_ok h
    obtain ⟨hcheck, hid, hhash, rfl⟩ := insertSession_ok hinsert
    cases hok
    exact ⟨⟨hcheck, hid, hhash, haccount, hdevice, rfl, rfl⟩, rfl, rfl, rfl, rfl, rfl, rfl, rfl⟩
  · cases h

/-- A call inserts a session or updates sessions. -/
theorem SessionRepository.perform_cases {op : SessionOperation} {response : SessionResponse}
    (h : SessionRepository.perform db now op = .ok (db', response)) :
    (∃ s : SessionRecord, op.update db now = none ∧ s.Created db now ∧
        db' = { db with sessions := db.sessions ++ [s] }) ∨
      (∃ u, op.update db now = some u ∧
        (∀ s ∈ db.sessions, u.selected s = true → (u.set s).check = true) ∧
        db' = { db with sessions := u.apply db.sessions }) := by
  have hupdate : ∀ {u : Update SessionRecord} {g : Database × List SessionRecord →
    Database × SessionResponse},
      (∀ result, (g result).1 = result.1) → g <$> db.updateSessions u.selected u.set = .ok
        (db', response) →
      (∀ s ∈ db.sessions, u.selected s = true → (u.set s).check = true) ∧
        db' = { db with sessions := u.apply db.sessions } := by
    intro u g hg h
    obtain ⟨⟨db₁, rows⟩, hok, heq⟩ := exists_of_map_eq_ok h
    obtain ⟨hcheck, rfl, -⟩ := updateSessions_ok hok
    have hdb := hg (({ db with sessions := u.apply db.sessions } : Database), rows)
    rw [heq] at hdb
    exact ⟨hcheck, hdb⟩
  cases op with
  | create account device tokenHash csrfHash epoch idleExpiresAt absoluteExpiresAt id =>
    obtain ⟨⟨db₁, s⟩, hok, heq⟩ := exists_of_map_eq_ok h
    obtain ⟨hcreated, -, -, -, -, -, -, rfl⟩ := SessionRepository.create_ok hok
    cases heq
    exact .inl ⟨s, rfl, hcreated, rfl⟩
  | touchLastSeen account session =>
    exact .inr ⟨_, rfl, hupdate (u := ⟨_, SessionRecord.touched now⟩) (fun _ => rfl) h⟩
  | replaceCsrfHash account session csrfHash =>
    exact .inr ⟨_, rfl, hupdate (u := ⟨_, fun s => { s with csrfHash }⟩) (fun _ => rfl) h⟩
  | revoke account session reason =>
    exact .inr ⟨_, rfl, hupdate (u := ⟨_, SessionRecord.revoked now reason⟩) (fun _ => rfl) h⟩
  | revokeByTokenHash account tokenHash reason =>
    exact .inr ⟨_, rfl, hupdate (u := ⟨_, SessionRecord.revoked now reason⟩) (fun _ => rfl) h⟩
  | revokeForDevice account device reason =>
    exact .inr ⟨_, rfl, hupdate (u := ⟨_, SessionRecord.revoked now reason⟩) (fun _ => rfl) h⟩
  | revokeForAccount account reason =>
    exact .inr ⟨_, rfl, hupdate (u := ⟨_, SessionRecord.revoked now reason⟩) (fun _ => rfl) h⟩

/-- The session that a call returns is a row of the table after it. -/
theorem SessionRepository.mem_of_perform {op : SessionOperation} {record : SessionRecord}
    (h : perform db now op = .ok (db', .session (some record))) : record ∈ db'.sessions := by
  have hfirst : ∀ {u : Update SessionRecord}, perform.first <$> db.updateSessions u.selected u.set =
      .ok (db', .session (some record)) → record ∈ db'.sessions := by
    intro u h
    obtain ⟨⟨db₁, rows⟩, hok, heq⟩ := exists_of_map_eq_ok h
    obtain ⟨-, rfl, hrows⟩ := updateSessions_ok hok
    obtain ⟨rfl, hhead⟩ := Prod.mk.inj heq
    have hmem := List.mem_of_mem_head? (Option.mem_def.2 (SessionResponse.session.inj hhead))
    rw [hrows] at hmem
    obtain ⟨row, hrow, hselected, rfl⟩ := Table.mem_written.1 hmem
    exact Update.mem_apply.2 ⟨row, hrow, Update.row_of_selected hselected⟩
  cases op with
  | create account device tokenHash csrfHash epoch idleExpiresAt absoluteExpiresAt id =>
    obtain ⟨⟨db₁, s⟩, hok, heq⟩ := exists_of_map_eq_ok h
    obtain ⟨-, -, -, -, -, -, -, rfl⟩ := SessionRepository.create_ok hok
    cases heq
    exact List.mem_append_right _ (List.mem_singleton_self _)
  | touchLastSeen account session => exact hfirst (u := ⟨_, SessionRecord.touched now⟩) h
  | replaceCsrfHash account session csrfHash =>
    exact hfirst (u := ⟨_, fun s => { s with csrfHash }⟩) h
  | revoke account session reason => exact hfirst (u := ⟨_, SessionRecord.revoked now reason⟩) h
  | revokeByTokenHash account tokenHash reason =>
    exact hfirst (u := ⟨_, SessionRecord.revoked now reason⟩) h
  | revokeForDevice account device reason =>
    obtain ⟨result, -, heq⟩ := exists_of_map_eq_ok h
    cases heq
  | revokeForAccount account reason =>
    obtain ⟨result, -, heq⟩ := exists_of_map_eq_ok h
    cases heq

/-! ## `DeviceRepository` -/

/-- The device that `register_for_email` activates. -/
def DeviceRecord.activated (now : Timestamp) (label : String) (d : DeviceRecord) : DeviceRecord :=
  { d with status := .active, label, lastSeenAt := now }

/-- The updates of devices and of sessions that a call makes, when it does not insert. -/
def DeviceOperation.updates (now : Timestamp) :
    DeviceOperation → Update DeviceRecord × Update SessionRecord
  | .create .. => (.nothing, .nothing)
  | .registerForEmail account epoch label _ fingerprint _ =>
    (⟨fun d => DeviceRepository.hasFingerprint account fingerprint d && d.epoch = epoch,
      DeviceRecord.activated now label⟩, .nothing)
  | .touchLastSeen account device =>
    (⟨fun d => DeviceRepository.selectsId account device d && d.status = .active,
      fun d => { d with lastSeenAt := now }⟩, .nothing)
  | .rename account device label =>
    (⟨DeviceRepository.selectsId account device, fun d => { d with label }⟩, .nothing)
  | .revokeWithSessions account device reason =>
    (⟨DeviceRepository.selectsId account device, DeviceRepository.revoked now⟩,
      ⟨SessionRepository.selectsDevice account device, SessionRecord.revoked now reason⟩)
  | .logoutWithSessions account device reason =>
    (⟨DeviceRepository.selectsId account device, DeviceRepository.loggedOut⟩,
      ⟨SessionRepository.selectsDevice account device, SessionRecord.revoked now reason⟩)
  | .revokeAllForAccount account reason =>
    (⟨fun d => d.userId = account && d.status = .active, DeviceRepository.revoked now⟩,
      ⟨SessionRepository.selectsAccount account, SessionRecord.revoked now reason⟩)

/-- `register_for_email` refuses a device that is revoked. -/
def DeviceOperation.Reactivates (db : Database) : DeviceOperation → Prop
  | .registerForEmail account _ _ _ fingerprint _ =>
    ∃ d, db.devices.find? (DeviceRepository.hasFingerprint account fingerprint) = some d ∧
      d.status ≠ .revoked
  | _ => True

/-- A device that `create`, `register_for_email` or a linking code inserts. -/
structure DeviceRecord.Inserted (db : Database) (now : Timestamp) (d : DeviceRecord) : Prop where
  check : d.check = true
  freshId : d.id ∉ db.devices.map (·.id)
  freshFingerprint : ∀ d' ∈ db.devices, d'.userId = d.userId → d'.fingerprint ≠ d.fingerprint
  account : db.accountAt d.userId d.epoch = true
  createdAt : d.createdAt = now
  active : d.status = .active

theorem DeviceRepository.insert_ok {id account : Uuid} {epoch : ℤ} {label : String}
    {spki fingerprint : Bytea} {linkedBy : Option Uuid} {d : DeviceRecord}
    (haccount : db.accountAt account epoch = true)
    (h : (do
      let record := inserted now id account epoch label spki fingerprint linkedBy
      let db ← db.insertDevice record
      return (db, record) : Except RepositoryError (Database × DeviceRecord)) = .ok (db', d)) :
    d.Inserted db now ∧ db' = { db with devices := db.devices ++ [d] } := by
  obtain ⟨db₁, hinsert, hok⟩ := exists_of_bind_eq_ok h
  obtain ⟨hcheck, hid, hprint, rfl⟩ := insertDevice_ok hinsert
  cases hok
  exact ⟨⟨hcheck, hid, hprint, haccount, rfl, rfl⟩, rfl⟩

theorem DeviceRepository.registerForEmail_ok {account : Uuid} {epoch : ℤ} {label : String}
    {spki fingerprint : Bytea} {deviceId : Uuid} {d : DeviceRecord}
    (h : registerForEmail db now account epoch label spki fingerprint deviceId = .ok (db', d)) :
    (d.Inserted db now ∧ db' = { db with devices := db.devices ++ [d] }) ∨
      ∃ existing, db.devices.find? (hasFingerprint account fingerprint) = some existing ∧
        existing.status ≠ .revoked ∧
        (∀ d ∈ db.devices, (hasFingerprint account fingerprint d && d.epoch = epoch) = true →
          (d.activated now label).check = true) ∧
        db' = { db with
          devices := (DeviceOperation.updates now
            (.registerForEmail account epoch label spki fingerprint deviceId)).1.apply
              db.devices } := by
  unfold registerForEmail at h
  cases hfind : db.devices.find? (hasFingerprint account fingerprint) with
  | none =>
    simp only [hfind] at h
    split at h
    · rename_i haccount
      exact .inl (insert_ok haccount h)
    · cases h
  | some existing =>
    simp only [hfind] at h
    split at h
    · cases h
    · rename_i hrevoked
      obtain ⟨⟨db₁, rows⟩, hupdate, hok⟩ := exists_of_bind_eq_ok h
      obtain ⟨hcheck, rfl, -⟩ :=
        updateDevices_ok (u := ⟨_, DeviceRecord.activated now label⟩) hupdate
      split at hok
      · cases hok
        exact .inr ⟨existing, rfl, hrevoked, hcheck, rfl⟩
      · cases hok

theorem DeviceRepository.withSessions_ok {set : DeviceRecord → DeviceRecord} {account device : Uuid}
    {reason : String} {rows : List DeviceRecord}
    (h : withSessions db now set account device reason = .ok (db', rows)) :
    (∀ d ∈ db.devices, selectsId account device d = true → (set d).check = true) ∧
      ((db.devices.any (selectsId account device) = false ∧ db' = db ∧ rows = []) ∨
        db' = { db with
          devices := (Update.mk (selectsId account device) set).apply db.devices
          sessions := (Update.mk (SessionRepository.selectsDevice account device)
            (SessionRecord.revoked now reason)).apply db.sessions }) := by
  obtain ⟨⟨db₁, rows₁⟩, hupdate, hok⟩ := exists_of_bind_eq_ok h
  obtain ⟨hcheck, rfl, rfl⟩ := updateDevices_ok (u := ⟨selectsId account device, set⟩) hupdate
  refine ⟨hcheck, ?_⟩
  dsimp only at hok
  split at hok
  · rename_i hnone
    cases hok
    have hany : db.devices.any (selectsId account device) = false :=
      Bool.eq_false_iff.2 (written_eq_nil.1 hnone)
    refine .inl ⟨hany, ?_, rfl⟩
    have hkeep : (Update.mk (selectsId account device) set).apply db.devices = db.devices := by
      refine (List.map_congr_left fun d hd => ?_).trans (List.map_id _)
      exact Update.row_of_not_selected (by simpa using List.any_eq_false.1 hany d hd)
    rw [hkeep]
  · obtain ⟨⟨db₂, rows₂⟩, hrevoke, hok⟩ := exists_of_bind_eq_ok hok
    obtain ⟨-, rfl, -⟩ := updateSessions_ok (u := ⟨_, SessionRecord.revoked now reason⟩) hrevoke
    cases hok
    exact .inr rfl

theorem DeviceRepository.revokeAllForAccount_ok {account : Uuid} {reason : String}
    {rows : List DeviceRecord} (h : revokeAllForAccount db now account reason = .ok (db', rows)) :
    (∀ d ∈ db.devices, (d.userId = account && d.status = .active) = true →
        (revoked now d).check = true) ∧
      db' = { db with
        devices := (DeviceOperation.updates now (.revokeAllForAccount account reason)).1.apply
          db.devices
        sessions :=
          (DeviceOperation.updates now (.revokeAllForAccount account reason)).2.apply
            db.sessions } := by
  obtain ⟨⟨db₁, rows₁⟩, hdevices, hok⟩ := exists_of_bind_eq_ok h
  obtain ⟨hcheck, rfl, -⟩ := updateDevices_ok (u := ⟨_, revoked now⟩) hdevices
  obtain ⟨⟨db₂, rows₂⟩, hsessions, hok⟩ := exists_of_bind_eq_ok hok
  obtain ⟨-, rfl, -⟩ := updateSessions_ok (u := ⟨_, SessionRecord.revoked now reason⟩) hsessions
  cases hok
  exact ⟨hcheck, rfl⟩

/-- A call inserts a device, or updates devices and sessions, or finds nothing to update. -/
theorem DeviceRepository.perform_cases {op : DeviceOperation} {response : DeviceResponse}
    (h : DeviceRepository.perform db now op = .ok (db', response)) :
    (∃ d : DeviceRecord, d.Inserted db now ∧ db' = { db with devices := db.devices ++ [d] }) ∨
      (op.Reactivates db ∧
        (∀ d ∈ db.devices, (op.updates now).1.selected d = true →
          ((op.updates now).1.set d).check = true) ∧
        ((db.devices.any (op.updates now).1.selected = false ∧ db' = db) ∨
          db' = { db with
            devices := (op.updates now).1.apply db.devices
            sessions := (op.updates now).2.apply db.sessions })) := by
  have hupdate : ∀ {u : Update DeviceRecord}, perform.first <$> db.updateDevices u.selected u.set =
      .ok (db', response) →
      (∀ d ∈ db.devices, u.selected d = true → (u.set d).check = true) ∧
        db' = { db with
          devices := u.apply db.devices
          sessions := Update.nothing.apply db.sessions } := by
    intro u h
    obtain ⟨⟨db₁, rows⟩, hok, heq⟩ := exists_of_map_eq_ok h
    obtain ⟨hcheck, rfl, -⟩ := updateDevices_ok hok
    cases heq
    exact ⟨hcheck, by rw [Update.nothing_apply]⟩
  cases op with
  | create account epoch label spki fingerprint linkedBy deviceId generated =>
    obtain ⟨⟨db₁, d⟩, hok, heq⟩ := exists_of_map_eq_ok h
    unfold create at hok
    split at hok
    · rename_i hadmits
      obtain ⟨hinserted, rfl⟩ := insert_ok (Bool.and_eq_true_iff.1 hadmits).1 hok
      cases heq
      exact .inl ⟨d, hinserted, rfl⟩
    · cases hok
  | registerForEmail account epoch label spki fingerprint deviceId =>
    obtain ⟨⟨db₁, d⟩, hok, heq⟩ := exists_of_map_eq_ok h
    cases heq
    obtain ⟨hinserted, hdb⟩ | ⟨existing, hfind, hrevoked, hcheck, hdb⟩ := registerForEmail_ok hok
    · exact .inl ⟨d, hinserted, hdb⟩
    · refine .inr ⟨⟨existing, hfind, hrevoked⟩, hcheck, .inr ?_⟩
      exact hdb.trans (by rw [DeviceOperation.updates, Update.nothing_apply])
  | touchLastSeen account device =>
    obtain ⟨hcheck, hdb⟩ := hupdate (u := ⟨_, fun d => { d with lastSeenAt := now }⟩) h
    exact .inr ⟨trivial, hcheck, .inr hdb⟩
  | rename account device label =>
    obtain ⟨hcheck, hdb⟩ := hupdate (u := ⟨_, fun d => { d with label }⟩) h
    exact .inr ⟨trivial, hcheck, .inr hdb⟩
  | revokeWithSessions account device reason =>
    obtain ⟨⟨db₁, rows⟩, hok, heq⟩ := exists_of_map_eq_ok h
    cases heq
    obtain ⟨hcheck, ⟨hany, hdb, -⟩ | hdb⟩ := withSessions_ok hok
    · exact .inr ⟨trivial, hcheck, .inl ⟨hany, hdb⟩⟩
    · exact .inr ⟨trivial, hcheck, .inr hdb⟩
  | logoutWithSessions account device reason =>
    obtain ⟨⟨db₁, rows⟩, hok, heq⟩ := exists_of_map_eq_ok h
    cases heq
    obtain ⟨hcheck, ⟨hany, hdb, -⟩ | hdb⟩ := withSessions_ok hok
    · exact .inr ⟨trivial, hcheck, .inl ⟨hany, hdb⟩⟩
    · exact .inr ⟨trivial, hcheck, .inr hdb⟩
  | revokeAllForAccount account reason =>
    obtain ⟨⟨db₁, rows⟩, hok, heq⟩ := exists_of_map_eq_ok h
    cases heq
    obtain ⟨hcheck, hdb⟩ := revokeAllForAccount_ok hok
    exact .inr ⟨trivial, hcheck, .inr hdb⟩

end SelfRelay.Backend
