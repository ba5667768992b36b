import SelfRelay.Backend.RowUpdates
import SelfRelay.Lib.Run
import SelfRelay.Lib.Sha256

/-!
# `SessionAuthenticator.authenticate`

A call looks its session up with one statement and touches it with another.  Between the two the
session can be revoked, its device logged out, and its expiry can pass.  `touch_last_seen` then
returns no row, and `authenticate` returns the record of the lookup all the same: it sees what
happened only as long as nothing ends the session of a call that waits for its second statement
(`authenticate_sees_revocation`).
-/

namespace SelfRelay.Backend

open StepSystem

/-! ## The call -/

/-- `hash_session_token`; `none` is a `UnicodeEncodeError`. -/
def hashSessionToken (token : String) : Option Bytea :=
  if token.toList.all fun c => c.toNat < 128 then
    some (Sha256.hash (token.toList.map fun c => UInt8.ofNat c.toNat))
  else none

/-- `_token_hash` -/
def SessionAuthenticator.tokenHash (token : Option String) : Option Bytea :=
  token.bind fun token =>
    if 1 ≤ token.length && token.length ≤ 512 then hashSessionToken token else none

/-- `_is_current` -/
def SessionRecord.isCurrent (record : SessionRecord) (now : Timestamp) : Bool :=
  record.revokedAt.isNone && now < record.idleExpiresAt && now < record.absoluteExpiresAt

/-- A call of `authenticate`, at the statement that it runs next. -/
inductive AuthenticateCall where
  | find (tokenHash : Bytea)
  | touch (record : SessionRecord)
  /-- `usable`: what the session was when the `touch_last_seen` statement ran, if it ran. -/
  | returned (usable : Option Bool) (result : Option SessionRecord)
  | raised (error : RepositoryError)
  deriving DecidableEq, Repr

/-- A call that touched a session which was no longer usable returns `None`. -/
def AuthenticateCall.SeesRevocation : AuthenticateCall → Prop
  | .returned (some false) result => result = none
  | _ => True

instance (call : AuthenticateCall) : Decidable call.SeesRevocation :=
  match call with
  | .returned (some false) result => inferInstanceAs (Decidable (result = none))
  | .returned (some true) _ | .returned none _ | .find _ | .touch _ | .raised _ =>
    inferInstanceAs (Decidable True)

/-! ## The calls, the other writers and the clock -/

structure AuthenticatorState where
  db : Database
  /-- `CURRENT_TIMESTAMP` of the database. -/
  now : Timestamp
  calls : List AuthenticateCall

inductive AuthenticatorEvent where
  | clock (now : Timestamp)
  | session (op : SessionOperation)
  | device (op : DeviceOperation)
  | authenticate (token : Option String)
  /-- A call runs `find_by_token_hash`; `current` is what its own clock reads then. -/
  | find (call : ℕ) (current : Timestamp)
  /-- A call runs `touch_last_seen`. -/
  | touch (call : ℕ)

namespace AuthenticatorState

/-- The session of a record is usable. -/
def usable (s : AuthenticatorState) (record : SessionRecord) : Bool :=
  s.db.sessions.any (SessionRepository.selectsUsable s.db s.now record.userId record.id)

/-- What a call is after `find_by_token_hash`. -/
def found (s : AuthenticatorState) (tokenHash : Bytea) (current : Timestamp) : AuthenticateCall :=
  match SessionRepository.findByTokenHash s.db s.now tokenHash with
  | none => .returned none none
  | some record => if record.isCurrent current then .touch record else .returned none none

/-- The state after `touch_last_seen`: `touched if touched is not None else record` -/
def touched (s : AuthenticatorState) (call : ℕ) (record : SessionRecord) : AuthenticatorState :=
  match SessionRepository.touchLastSeen s.db s.now record.userId record.id with
  | .error error => { s with calls := s.calls.set call (.raised error) }
  | .ok (db, rows) =>
    { s with
      db
      calls := s.calls.set call (.returned (some (s.usable record)) (rows.head?.or (some record))) }

def step (s : AuthenticatorState) : AuthenticatorEvent → Option AuthenticatorState
  | .clock now => if s.now ≤ now then some { s with now } else none
  | .session op =>
    match SessionRepository.perform s.db s.now op with
    | .error _ => some s
    | .ok (db, _) => some { s with db }
  | .device op =>
    match DeviceRepository.perform s.db s.now op with
    | .error _ => some s
    | .ok (db, _) => some { s with db }
  | .authenticate token =>
    match SessionAuthenticator.tokenHash token with
    | none => some { s with calls := s.calls ++ [.returned none none] }
    | some tokenHash => some { s with calls := s.calls ++ [.find tokenHash] }
  | .find call current =>
    match s.calls[call]? with
    | some (.find tokenHash) =>
      some { s with calls := s.calls.set call (s.found tokenHash current) }
    | _ => none
  | .touch call =>
    match s.calls[call]? with
    | some (.touch record) => some (s.touched call record)
    | _ => none

end AuthenticatorState

/-! ## Steps that end a session -/

/-- The call revokes the session of a row. -/
def SessionOperation.ends (row : SessionRecord) : SessionOperation → Bool
  | .revoke account session _ => SessionRepository.selectsId account session row
  | .revokeByTokenHash account tokenHash _ =>
    SessionRepository.selectsTokenHash account tokenHash row
  | .revokeForDevice account device _ => SessionRepository.selectsDevice account device row
  | .revokeForAccount account _ => SessionRepository.selectsAccount account row
  | _ => false

/-- The call logs out or revokes the device of a session. -/
def DeviceOperation.ends (row : SessionRecord) : DeviceOperation → Bool
  | .revokeWithSessions account device _ => row.userId = account && row.deviceId = device
  | .logoutWithSessions account device _ => row.userId = account && row.deviceId = device
  | .revokeAllForAccount account _ => row.userId = account
  | _ => false

/-- The step revokes the session of a row, logs its device out, or lets its expiry pass. -/
def AuthenticatorEvent.ends (row : SessionRecord) : AuthenticatorEvent → Bool
  | .clock now => row.idleExpiresAt ≤ now || row.absoluteExpiresAt ≤ now
  | .session op => op.ends row
  | .device op => op.ends row
  | _ => false

/-- The call has looked the session of a row up, and not touched it yet. -/
def AuthenticateCall.awaits (row : SessionRecord) : AuthenticateCall → Bool
  | .touch record => row.userId = record.userId && row.id = record.id
  | _ => false

/-- The step ends no session of a call that has looked it up and not touched it yet. -/
def AuthenticatorState.Quiet (s : AuthenticatorState) (e : AuthenticatorEvent) : Prop :=
  ∀ call ∈ s.calls, ∀ row ∈ s.db.sessions, call.awaits row = true → e.ends row = false

instance (s : AuthenticatorState) (e : AuthenticatorEvent) : Decidable (s.Quiet e) :=
  inferInstanceAs (Decidable (∀ call ∈ s.calls, ∀ row ∈ s.db.sessions, _ → _))

/-! ## A session that no step ends stays usable -/

section Kept

variable {db db' : Database} {now : Timestamp} {row : SessionRecord}

theorem SessionRecord.usable_iff : row.usable db now = true ↔
    row.revokedAt = none ∧ now < row.idleExpiresAt ∧ now < row.absoluteExpiresAt ∧
      db.accountAt row.userId row.epoch = true ∧
      db.deviceAt row.userId row.deviceId row.epoch = true := by
  simp [SessionRecord.usable, and_assoc]

theorem selectsUsable_iff {account session : Uuid} :
    SessionRepository.selectsUsable db now account session row = true ↔
      row.userId = account ∧ row.id = session ∧ row.usable db now = true := by
  simp [SessionRepository.selectsUsable, and_assoc]

/-- Activity leaves a usable session usable. -/
theorem SessionRecord.usable_touched (h : row.usable db now = true) :
    (row.touched now).usable db now = true := by
  obtain ⟨hrevoked, -, habsolute, haccount, hdevice⟩ := SessionRecord.usable_iff.1 h
  have hmonth : now < now + thirtyDays := Nat.lt_add_of_pos_right (by decide)
  exact SessionRecord.usable_iff.2
    ⟨hrevoked, Nat.lt_min.2 ⟨hmonth, habsolute⟩, habsolute, haccount, hdevice⟩

theorem SessionOperation.usable_row {op : SessionOperation} {u : Update SessionRecord}
    (hu : op.update db now = some u) (hends : op.ends row = false) (h : row.usable db now = true) :
    (u.row row).userId = row.userId ∧ (u.row row).id = row.id ∧
      (u.row row).usable db now = true := by
  have hkeep : u.selected row = false → (u.row row).userId = row.userId ∧ (u.row row).id = row.id ∧
      (u.row row).usable db now = true := by
    intro hselected
    rw [Update.row_of_not_selected hselected]
    exact ⟨rfl, rfl, h⟩
  cases op with
  | create => cases hu
  | touchLastSeen account session =>
    cases hu
    by_cases hselected : SessionRepository.selectsUsable db now account session row = true
    · rw [Update.row_of_selected hselected]
      exact ⟨rfl, rfl, row.usable_touched h⟩
    · exact hkeep (Bool.eq_false_iff.2 hselected)
  | replaceCsrfHash account session csrfHash =>
    cases hu
    by_cases hselected : SessionRepository.selectsUsable db now account session row = true
    · rw [Update.row_of_selected hselected]
      exact ⟨rfl, rfl, h⟩
    · exact hkeep (Bool.eq_false_iff.2 hselected)
  | revoke account session reason =>
    cases hu
    exact hkeep hends
  | revokeByTokenHash account tokenHash reason =>
    cases hu
    exact hkeep hends
  | revokeForDevice account device reason =>
    cases hu
    exact hkeep hends
  | revokeForAccount account reason =>
    cases hu
    exact hkeep hends

/-- A call of `SessionRepository` that does not end a session leaves it usable. -/
theorem SessionRepository.keeps_usable {op : SessionOperation} {response : SessionResponse}
    (hperform : perform db now op = .ok (db', response)) (hrow : row ∈ db.sessions)
    (hends : op.ends row = false) (h : row.usable db now = true) :
    ∃ row' ∈ db'.sessions, row'.userId = row.userId ∧ row'.id = row.id ∧
      row'.usable db' now = true := by
  obtain ⟨s, -, -, rfl⟩ | ⟨u, hu, -, rfl⟩ := perform_cases hperform
  · exact ⟨row, List.mem_append_left _ hrow, rfl, rfl, h⟩
  · exact ⟨u.row row, Update.mem_apply.2 ⟨row, hrow, rfl⟩, op.usable_row hu hends h⟩

theorem Database.deviceAt_iff {account device : Uuid} {epoch : ℤ} :
    db.deviceAt account device epoch = true ↔
      ∃ d ∈ db.devices, d.userId = account ∧ d.id = device ∧ d.status = .active ∧
        d.epoch = epoch := by
  simp [Database.deviceAt, and_assoc]

theorem DeviceOperation.active_row (now : Timestamp) {op : DeviceOperation} {d : DeviceRecord}
    (hends : op.ends row = false) (huser : d.userId = row.userId) (hid : d.id = row.deviceId)
    (hactive : d.status = .active) :
    ((op.updates now).1.row d).userId = d.userId ∧ ((op.updates now).1.row d).id = d.id ∧
      ((op.updates now).1.row d).status = .active ∧ ((op.updates now).1.row d).epoch = d.epoch := by
  have hkeep : (op.updates now).1.selected d = false →
      ((op.updates now).1.row d).userId = d.userId ∧ ((op.updates now).1.row d).id = d.id ∧
        ((op.updates now).1.row d).status = .active ∧
        ((op.updates now).1.row d).epoch = d.epoch := by
    intro hselected
    rw [Update.row_of_not_selected hselected]
    exact ⟨rfl, rfl, hactive, rfl⟩
  have hdevice : ∀ {account device : Uuid},
      (decide (row.userId = account) && decide (row.deviceId = device)) = false →
      DeviceRepository.selectsId account device d = false := by
    intro account device hends
    rwa [DeviceRepository.selectsId, huser, hid]
  by_cases hselected : (op.updates now).1.selected d = true
  · cases op with
    | create => exact hkeep rfl
    | registerForEmail account epoch label spki fingerprint deviceId =>
      rw [Update.row_of_selected hselected]
      exact ⟨rfl, rfl, rfl, rfl⟩
    | touchLastSeen account device =>
      rw [Update.row_of_selected hselected]
      exact ⟨rfl, rfl, hactive, rfl⟩
    | rename account device label =>
      rw [Update.row_of_selected hselected]
      exact ⟨rfl, rfl, hactive, rfl⟩
    | revokeWithSessions account device reason => exact hkeep (hdevice hends)
    | logoutWithSessions account device reason => exact hkeep (hdevice hends)
    | revokeAllForAccount account reason =>
      refine hkeep (Bool.and_eq_false_imp.2 fun haccount => ?_)
      rw [huser] at haccount
      exact absurd (hends.symm.trans haccount) Bool.false_ne_true
  · exact hkeep (Bool.eq_false_iff.2 hselected)

theorem DeviceOperation.session_row {op : DeviceOperation} (hends : op.ends row = false) :
    (op.updates now).2.row row = row := by
  refine Update.row_of_not_selected ?_
  cases op with
  | revokeWithSessions account device reason =>
    exact Bool.and_eq_false_imp.2 fun h => absurd (hends.symm.trans h) Bool.false_ne_true
  | logoutWithSessions account device reason =>
    exact Bool.and_eq_false_imp.2 fun h => absurd (hends.symm.trans h) Bool.false_ne_true
  | revokeAllForAccount account reason =>
    exact Bool.and_eq_false_imp.2 fun h => absurd (hends.symm.trans h) Bool.false_ne_true
  | _ => rfl

/-- A call of `DeviceRepository` that does not end a session leaves it usable. -/
theorem DeviceRepository.keeps_usable {op : DeviceOperation} {response : DeviceResponse}
    (hperform : perform db now op = .ok (db', response)) (hrow : row ∈ db.sessions)
    (hends : op.ends row = false) (h : row.usable db now = true) :
    row ∈ db'.sessions ∧ row.usable db' now = true := by
  obtain ⟨hrevoked, hidle, habsolute, haccount, hdevice⟩ := SessionRecord.usable_iff.1 h
  obtain ⟨d, hd, huser, hid, hactive, hepoch⟩ := Database.deviceAt_iff.1 hdevice
  obtain ⟨new, -, rfl⟩ | ⟨-, -, ⟨-, rfl⟩ | rfl⟩ := perform_cases hperform
  · refine ⟨hrow, SessionRecord.usable_iff.2 ⟨hrevoked, hidle, habsolute, haccount, ?_⟩⟩
    exact Database.deviceAt_iff.2 ⟨d, List.mem_append_left _ hd, huser, hid, hactive, hepoch⟩
  · exact ⟨hrow, h⟩
  · have hsession : row ∈ (op.updates now).2.apply db.sessions :=
      Update.mem_apply.2 ⟨row, hrow, op.session_row hends⟩
    obtain ⟨huser', hid', hactive', hepoch'⟩ :=
      DeviceOperation.active_row now hends huser hid hactive
    refine ⟨hsession, SessionRecord.usable_iff.2 ⟨hrevoked, hidle, habsolute, haccount, ?_⟩⟩
    exact Database.deviceAt_iff.2 ⟨_, Update.mem_apply.2 ⟨d, hd, rfl⟩, huser'.trans huser,
      hid'.trans hid, hactive', hepoch'.trans hepoch⟩

end Kept

/-! ## Runs -/

namespace AuthenticatorState

variable {s t : AuthenticatorState}

theorem usable_iff {record : SessionRecord} : s.usable record = true ↔
    ∃ row ∈ s.db.sessions, row.userId = record.userId ∧ row.id = record.id ∧
      row.usable s.db s.now = true := by
  simp only [usable, List.any_eq_true, selectsUsable_iff]

/-- The sessions that wait to be touched are usable, and the calls that have returned
saw what they had to. -/
structure Attentive (s : AuthenticatorState) : Prop where
  usable : ∀ record, .touch record ∈ s.calls → s.usable record = true
  sees : ∀ call ∈ s.calls, call.SeesRevocation

/-- Only the database and the clock have changed, and no usable session of a call has ended. -/
theorem Attentive.of_kept (h : s.Attentive) (hcalls : t.calls = s.calls)
    (hkept : ∀ record, .touch record ∈ s.calls → ∀ row ∈ s.db.sessions, row.userId = record.userId →
      row.id = record.id → row.usable s.db s.now = true →
      ∃ row' ∈ t.db.sessions, row'.userId = row.userId ∧ row'.id = row.id ∧
        row'.usable t.db t.now = true) : t.Attentive where
  usable := by
    intro record hrecord
    rw [hcalls] at hrecord
    obtain ⟨row, hrow, huser, hid, husable⟩ := usable_iff.1 (h.usable record hrecord)
    obtain ⟨row', hrow', huser', hid', husable'⟩ := hkept record hrecord row hrow huser hid husable
    exact usable_iff.2 ⟨row', hrow', huser'.trans huser, hid'.trans hid, husable'⟩
  sees := by
    rw [hcalls]
    exact h.sees

/-- Only the calls have changed. -/
theorem Attentive.of_calls (h : s.Attentive) (hdb : t.db = s.db) (hnow : t.now = s.now)
    (hcalls : ∀ call ∈ t.calls, call ∈ s.calls ∨ call.SeesRevocation ∧
      ∀ record, call = .touch record → s.usable record = true) : t.Attentive where
  usable := by
    intro record hrecord
    rw [AuthenticatorState.usable, hdb, hnow]
    obtain hold | ⟨-, hnew⟩ := hcalls _ hrecord
    · exact h.usable record hold
    · exact hnew record rfl
  sees := by
    intro call hcall
    obtain hold | ⟨hnew, -⟩ := hcalls call hcall
    · exact h.sees call hold
    · exact hnew

/-- A call that found no session, or one that is not current, returns `None`; the session that it
found is usable. -/
theorem found_spec (s : AuthenticatorState) (tokenHash : Bytea) (current : Timestamp) :
    (s.found tokenHash current).SeesRevocation ∧
      ∀ record, s.found tokenHash current = .touch record → s.usable record = true := by
  unfold found
  cases hfind : SessionRepository.findByTokenHash s.db s.now tokenHash with
  | none => exact ⟨trivial, nofun⟩
  | some row =>
    dsimp only
    split
    · refine ⟨trivial, ?_⟩
      rintro record ⟨⟩
      have hselected := List.find?_some hfind
      exact usable_iff.2 ⟨row, List.mem_of_find?_eq_some hfind, rfl, rfl,
        (Bool.and_eq_true_iff.1 hselected).2⟩
    · exact ⟨trivial, nofun⟩

/-- A statement that selects no row raises nothing. -/
theorem usable_of_touch_error {record : SessionRecord} {error : RepositoryError}
    (h : SessionRepository.touchLastSeen s.db s.now record.userId record.id = .error error) :
    s.usable record = true := by
  by_contra hnone
  rw [SessionRepository.touchLastSeen, Database.updateSessions, Table.update,
    written_eq_nil.2 hnone,
    List.all_nil, if_pos rfl] at h
  cases h

/-- What the `touch_last_seen` of a call does: it is the call of the repository, and the result says
whether the session was usable. -/
theorem touched_cases (s : AuthenticatorState) (call : ℕ) (record : SessionRecord) :
    (∃ error, s.usable record = true ∧
        s.touched call record = { s with calls := s.calls.set call (.raised error) }) ∨
      ∃ db response result, SessionRepository.perform s.db s.now
          (.touchLastSeen record.userId record.id) = .ok (db, response) ∧
        s.touched call record = { s with
          db
          calls := s.calls.set call (.returned (some (s.usable record)) (some result)) } := by
  unfold touched
  cases htouch : SessionRepository.touchLastSeen s.db s.now record.userId record.id with
  | error error => exact .inl ⟨error, usable_of_touch_error htouch, rfl⟩
  | ok updated =>
    obtain ⟨db, rows⟩ := updated
    refine .inr ⟨db, .session rows.head?, rows.head?.getD record, ?_, ?_⟩
    · rw [SessionRepository.perform, htouch]
      rfl
    · cases rows <;> rfl

theorem Attentive.touched (h : s.Attentive) {call : ℕ} {record : SessionRecord}
    (hcall : s.calls[call]? = some (.touch record)) : (s.touched call record).Attentive := by
  have husable := h.usable record (List.mem_of_getElem? hcall)
  obtain ⟨error, -, heq⟩ | ⟨db, response, result, hperform, heq⟩ := touched_cases s call record
  · rw [heq]
    refine h.of_calls rfl rfl fun call' hcall' => ?_
    obtain hold | rfl := List.mem_or_eq_of_mem_set hcall'
    · exact .inl hold
    · exact .inr ⟨trivial, nofun⟩
  · rw [heq, husable]
    have hdb : AuthenticatorState.Attentive { s with db } :=
      h.of_kept rfl fun _ _ row hrow _ _ hrow' =>
        SessionRepository.keeps_usable hperform hrow rfl hrow'
    refine hdb.of_calls rfl rfl fun call' hcall' => ?_
    obtain hold | rfl := List.mem_or_eq_of_mem_set hcall'
    · exact .inl hold
    · exact .inr ⟨trivial, nofun⟩

theorem Quiet.ends {e : AuthenticatorEvent} (h : s.Quiet e) {record row : SessionRecord}
    (hrecord : .touch record ∈ s.calls) (hrow : row ∈ s.db.sessions)
    (huser : row.userId = record.userId) (hid : row.id = record.id) : e.ends row = false :=
  h _ hrecord row hrow (by simp [AuthenticateCall.awaits, huser, hid])

theorem Attentive.step {e : AuthenticatorEvent} (h : s.Attentive)
    (hstep : Step AuthenticatorState.step s e t) (hquiet : s.Quiet e) : t.Attentive := by
  cases e with
  | clock now =>
    obtain ⟨-, heq⟩ := Option.ite_none_right_eq_some.1 hstep
    obtain rfl := Option.some.inj heq
    refine h.of_kept rfl fun record hrecord row hrow huser hid husable => ?_
    have hends := hquiet.ends hrecord hrow huser hid
    obtain ⟨hrevoked, -, -, haccount, hdevice⟩ := SessionRecord.usable_iff.1 husable
    simp only [AuthenticatorEvent.ends, Bool.or_eq_false_iff, decide_eq_false_iff_not,
      not_le] at hends
    exact ⟨row, hrow, rfl, rfl,
      SessionRecord.usable_iff.2 ⟨hrevoked, hends.1, hends.2, haccount, hdevice⟩⟩
  | session op =>
    rw [Step, AuthenticatorState.step] at hstep
    split at hstep
    · obtain rfl := Option.some.inj hstep
      exact h
    · rename_i db response hperform
      obtain rfl := Option.some.inj hstep
      refine h.of_kept rfl fun record hrecord row hrow huser hid husable => ?_
      exact SessionRepository.keeps_usable hperform hrow (hquiet.ends hrecord hrow huser hid)
        husable
  | device op =>
    rw [Step, AuthenticatorState.step] at hstep
    split at hstep
    · obtain rfl := Option.some.inj hstep
      exact h
    · rename_i db response hperform
      obtain rfl := Option.some.inj hstep
      refine h.of_kept rfl fun record hrecord row hrow huser hid husable => ?_
      obtain ⟨hrow', husable'⟩ := DeviceRepository.keeps_usable hperform hrow
        (hquiet.ends hrecord hrow huser hid) husable
      exact ⟨row, hrow', rfl, rfl, husable'⟩
  | authenticate token =>
    rw [Step, AuthenticatorState.step] at hstep
    split at hstep <;>
    · obtain rfl := Option.some.inj hstep
      refine h.of_calls rfl rfl fun call hcall => ?_
      obtain hold | hnew := List.mem_append.1 hcall
      · exact .inl hold
      · obtain rfl := List.mem_singleton.1 hnew
        exact .inr ⟨trivial, fun _ hcall => by cases hcall⟩
  | find call current =>
    rw [Step, AuthenticatorState.step] at hstep
    split at hstep
    · rename_i tokenHash hcall
      obtain rfl := Option.some.inj hstep
      refine h.of_calls rfl rfl fun call' hcall' => ?_
      obtain hold | rfl := List.mem_or_eq_of_mem_set hcall'
      · exact .inl hold
      · exact .inr (s.found_spec tokenHash current)
    · cases hstep
  | touch call =>
    rw [Step, AuthenticatorState.step] at hstep
    split at hstep
    · rename_i record hcall
      obtain rfl := Option.some.inj hstep
      exact h.touched hcall
    · cases hstep

/-- When the `touch_last_seen` statement of a call runs, the call sees that its session ended
exactly if the session has not ended. -/
theorem touch_sees_iff {call : ℕ} {record : SessionRecord} {result : AuthenticateCall}
    (hcall : s.calls[call]? = some (.touch record))
    (hstep : Step AuthenticatorState.step s (.touch call) t)
    (hresult : t.calls[call]? = some result) : result.SeesRevocation ↔ s.usable record = true := by
  have hlt : call < s.calls.length := (List.getElem?_eq_some_iff.1 hcall).1
  simp only [Step, AuthenticatorState.step, hcall] at hstep
  obtain rfl := Option.some.inj hstep
  obtain ⟨error, husable, heq⟩ | ⟨db, response, touched, -, heq⟩ := touched_cases s call record
  · rw [heq, List.getElem?_set_self hlt] at hresult
    obtain rfl := Option.some.inj hresult
    exact iff_of_true trivial husable
  · rw [heq, List.getElem?_set_self hlt] at hresult
    obtain rfl := Option.some.inj hresult
    cases husable : s.usable record with
    | true => exact iff_of_true trivial rfl
    | false => exact iff_of_false (fun h => by cases h) Bool.false_ne_true

end AuthenticatorState

/-- In every run in which no step ends a session that a call has looked up and not touched yet, each
call that touches a session which is no longer usable returns `None`.  In any run, a call whose
`touch_last_seen` statement runs does so exactly if the session is still usable then. -/
theorem authenticate_sees_revocation {s t : AuthenticatorState} {es : List AuthenticatorEvent}
    (hcalls : s.calls = []) :
    (Run (fun s e t => Step AuthenticatorState.step s e t ∧ s.Quiet e) s es t →
        ∀ call ∈ t.calls, call.SeesRevocation) ∧
      (Run (Step AuthenticatorState.step) s es t → ∀ call record u result,
        t.calls[call]? = some (.touch record) → Step AuthenticatorState.step t (.touch call) u →
        u.calls[call]? = some result → (result.SeesRevocation ↔ t.usable record = true)) := by
  constructor
  · intro hrun
    have hstart : s.Attentive := ⟨by rw [hcalls]; nofun, by rw [hcalls]; nofun⟩
    have hend := hrun.invariant hstart fun s e t h hstep => h.step hstep.1 hstep.2
    exact hend.sees
  · intro _ call record u result hcall hstep hresult
    exact AuthenticatorState.touch_sees_iff hcall hstep hresult

/-! ## A revocation after and between the two statements -/

/-- A device with one session, whose cookie is `t`. -/
def cookieState : AuthenticatorState where
  db := { sessionDatabase with
    sessions := [{ sessionDatabase.session with tokenHash := (hashSessionToken "t").getD [] }] }
  now := 5
  calls := []

/-- The session is revoked after a call has returned it, and before the next one looks it up. -/
def revokedBetweenCalls : List AuthenticatorEvent :=
  [.authenticate (some "t"), .find 0 5, .touch 0, .session (.revoke ⟨1⟩ ⟨5⟩),
    .authenticate (some "t"),
    .find 1 5]

theorem authenticate_sees_revocation_between_calls : ∃ t,
    Run (fun s e t => Step AuthenticatorState.step s e t ∧ s.Quiet e) cookieState
      revokedBetweenCalls t ∧
      ∀ call ∈ t.calls, call.SeesRevocation := by
  have hrun : (exec (fun s e => if AuthenticatorState.Quiet s e then AuthenticatorState.step s e
      else none) cookieState revokedBetweenCalls).isSome = true := by
    decide +kernel
  obtain ⟨t, hexec⟩ := Option.isSome_iff_exists.1 hrun
  have hrun := Run.of_exec_guarded hexec
  exact ⟨t, hrun, (authenticate_sees_revocation rfl).1 hrun⟩

/-- The session is revoked between the lookup and the touch of a call. -/
def revokedMeanwhile : List AuthenticatorEvent :=
  [.authenticate (some "t"), .find 0 5, .session (.revoke ⟨1⟩ ⟨5⟩), .touch 0]

/-- `authenticate` returns the session that was revoked before it was touched. -/
theorem authenticate_misses_revocation : ∃ t,
    Run (Step AuthenticatorState.step) cookieState revokedMeanwhile t ∧
    ¬ ∀ call ∈ t.calls, call.SeesRevocation := by
  have hrun : (exec AuthenticatorState.step cookieState revokedMeanwhile).any (fun t =>
      ¬ ∀ call ∈ t.calls, call.SeesRevocation) = true := by
    decide +kernel
  obtain ⟨t, hexec, hcall⟩ := (Option.any_eq_true _ _).1 hrun
  exact ⟨t, Run.of_exec hexec, of_decide_eq_true hcall⟩

end SelfRelay.Backend
