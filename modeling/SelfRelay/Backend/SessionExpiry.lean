import SelfRelay.Backend.SessionService
import SelfRelay.Lib.Run
import Mathlib.Logic.Relation

/-!
# The expiry of sessions

Over any run of calls of `SessionService`, `SessionRepository` and `DeviceRepository`: a session has
its idle expiry no later than its absolute one, rotations keep the absolute deadline, and a session
that has ended stays so.  `rotate` looks at the absolute expiry of a session and at its revocation,
not at its idle expiry: it makes a new session out of one that has been idle for too long, unless
its caller has looked (`session_expiry_not_escaped`).
-/

namespace SelfRelay.Backend

open StepSystem

/-- The session is revoked, past its idle expiry or past its absolute expiry. -/
def SessionRecord.ended (now : Timestamp) (s : SessionRecord) : Bool :=
  s.revokedAt.isSome || s.idleExpiresAt ≤ now || s.absoluteExpiresAt ≤ now

/-! ## The system -/

/-- A call of `rotate` that returned a session. -/
structure Rotation where
  previous : Uuid
  successor : Uuid
  /-- The previous session had ended when `rotate` was called. -/
  ended : Bool
  deriving DecidableEq, Repr

structure ExpiryState where
  db : Database
  now : Timestamp
  /-- The sessions that calls have returned. -/
  returned : List SessionRecord
  rotations : List Rotation

inductive ExpiryEvent where
  | clock (now : Timestamp)
  | create (account device : Uuid) (epoch : ℤ) (issuedAt : Timestamp)
    (absoluteExpiresAt : Option Timestamp) (secrets : SessionSecrets)
  | rotate (account : Uuid) (previous : SessionRecord) (issuedAt : Timestamp)
      (secrets : SessionSecrets)
  /-- A call of `SessionRepository` other than `create`. -/
  | session (op : SessionOperation)
  | device (op : DeviceOperation)
  /-- `list_for_account`, and every other query of sessions. -/
  | list (account : Uuid)

namespace ExpiryState

/-- The session with an id has ended. -/
def hasEnded (s : ExpiryState) (session : Uuid) : Bool :=
  s.db.sessions.any fun row => row.id = session && row.ended s.now

/-- The sessions that a call of the repository returns. -/
def responded : SessionResponse → List SessionRecord
  | .session record => record.toList
  | .count _ => []

def step (s : ExpiryState) : ExpiryEvent → Option ExpiryState
  | .clock now => if s.now ≤ now then some { s with now } else none
  | .create account device epoch issuedAt absoluteExpiresAt secrets =>
    match SessionService.create s.db s.now account device epoch issuedAt absoluteExpiresAt
        secrets with
    | .error _ => some s
    | .ok (db, record) => some { s with db, returned := record :: s.returned }
  | .rotate account previous issuedAt secrets =>
    -- `previous` is a record that the repository has returned
    if previous ∈ s.returned then
      match SessionService.rotate s.db s.now account previous issuedAt secrets with
      | (db, .error _) => some { s with db }
      | (db, .ok record) =>
        some { s with
          db
          returned := record :: s.returned
          rotations := ⟨previous.id, record.id, s.hasEnded previous.id⟩ :: s.rotations }
    else none
  | .session op =>
    if (op.update s.db s.now).isSome then
      match SessionRepository.perform s.db s.now op with
      | .error _ => some s
      | .ok (db, response) => some { s with db, returned := responded response ++ s.returned }
    else none
  | .device op =>
    match DeviceRepository.perform s.db s.now op with
    | .error _ => some s
    | .ok (db, _) => some { s with db }
  | .list account =>
    some { s with
      returned := (s.db.sessions.filter fun row => row.userId = account) ++ s.returned }

/-- `rotate` is called for a session that is not past its idle expiry. -/
def NotIdle (s : ExpiryState) : ExpiryEvent → Prop
  | .rotate _ previous _ _ =>
    ∀ row ∈ s.db.sessions, row.id = previous.id → s.now < row.idleExpiresAt
  | _ => True

instance (s : ExpiryState) (e : ExpiryEvent) : Decidable (s.NotIdle e) :=
  match e with
  | .rotate _ _ _ _ => inferInstanceAs (Decidable (∀ row ∈ s.db.sessions, _ → _))
  | .clock _ | .create .. | .session _ | .device _ | .list _ => inferInstanceAs (Decidable True)

/-- One session was made of another by `rotate`. -/
def Rotated (s : ExpiryState) (previous successor : Uuid) : Prop :=
  ∃ rotation ∈ s.rotations, rotation.previous = previous ∧ rotation.successor = successor

end ExpiryState

/-! ## What becomes of a session -/

/-- A later version of a session: the same row, with the same absolute deadline and an idle expiry
no later than it, and ended if it had ended. -/
structure SessionRecord.Later (now now' : Timestamp) (s s' : SessionRecord) : Prop where
  id : s'.id = s.id
  absolute : s'.absoluteExpiresAt = s.absoluteExpiresAt
  idle : s.idleExpiresAt ≤ s.absoluteExpiresAt → s'.idleExpiresAt ≤ s'.absoluteExpiresAt
  ended : s.ended now = true → s'.ended now' = true

section Later

variable {db db' : Database} {now : Timestamp} {s : SessionRecord}

theorem SessionRecord.ended_iff : s.ended now = true ↔
    s.revokedAt.isSome = true ∨ s.idleExpiresAt ≤ now ∨ s.absoluteExpiresAt ≤ now := by
  simp [SessionRecord.ended, or_assoc]

theorem SessionRecord.Later.refl : s.Later now now s := ⟨rfl, rfl, fun h => h, fun h => h⟩

theorem SessionRecord.Later.trans {now' now'' : Timestamp} {s' s'' : SessionRecord}
    (h : s.Later now now' s') (h' : s'.Later now' now'' s'') : s.Later now now'' s'' :=
  ⟨h'.id.trans h.id, h'.absolute.trans h.absolute, fun hs => h'.idle (h.idle hs),
    fun hs => h'.ended (h.ended hs)⟩

/-- Time does not bring a session back. -/
theorem SessionRecord.Later.clock {now' : Timestamp} (h : now ≤ now') : s.Later now now' s := by
  refine ⟨rfl, rfl, fun h => h, fun hended => ?_⟩
  rw [SessionRecord.ended_iff] at hended ⊢
  obtain hrevoked | hidle | habsolute := hended
  · exact .inl hrevoked
  · exact .inr (.inl (Nat.le_trans hidle h))
  · exact .inr (.inr (Nat.le_trans habsolute h))

theorem SessionRecord.Later.revoked (reason : String) : s.Later now now (s.revoked now reason) :=
  ⟨rfl, rfl, fun h => h, fun _ => SessionRecord.ended_iff.2 (.inl rfl)⟩

theorem SessionRecord.not_ended_of_usable (h : s.usable db now = true) : ¬ s.ended now = true := by
  simp only [SessionRecord.usable, Bool.and_eq_true, decide_eq_true_eq,
    Option.isNone_iff_eq_none] at h
  obtain ⟨⟨⟨⟨hrevoked, hidle⟩, habsolute⟩, -⟩, -⟩ := h
  rw [SessionRecord.ended_iff, hrevoked]
  rintro (h | h | h)
  · cases h
  · exact Nat.not_le.2 hidle h
  · exact Nat.not_le.2 habsolute h

theorem Update.later {u : Update SessionRecord}
    (h : u.selected s = true → s.Later now now (u.set s)) : s.Later now now (u.row s) := by
  by_cases hselected : u.selected s = true
  · rw [Update.row_of_selected hselected]
    exact h hselected
  · rw [Update.row_of_not_selected (Bool.eq_false_iff.2 hselected)]
    exact .refl

theorem SessionOperation.later {op : SessionOperation} {u : Update SessionRecord}
    (hu : op.update db now = some u) : s.Later now now (u.row s) := by
  apply Update.later
  intro hselected
  -- what activity writes is only written to usable sessions
  have husable : ∀ {account session}, SessionRepository.selectsUsable db now account
    session s = true →
      ¬ s.ended now = true :=
        fun h => SessionRecord.not_ended_of_usable (Bool.and_eq_true_iff.1 h).2
  cases op with
  | create => cases hu
  | touchLastSeen account session =>
    cases hu
    exact ⟨rfl, rfl, fun _ => Nat.min_le_right _ _, fun h => (husable hselected h).elim⟩
  | replaceCsrfHash account session csrfHash =>
    cases hu
    exact ⟨rfl, rfl, fun h => h, fun h => (husable hselected h).elim⟩
  | revoke account session reason =>
    cases hu
    exact .revoked reason
  | revokeByTokenHash account tokenHash reason =>
    cases hu
    exact .revoked reason
  | revokeForDevice account device reason =>
    cases hu
    exact .revoked reason
  | revokeForAccount account reason =>
    cases hu
    exact .revoked reason

theorem DeviceOperation.later (op : DeviceOperation) :
    s.Later now now ((op.updates now).2.row s) := by
  apply Update.later
  intro hselected
  cases op with
  | revokeWithSessions account device reason => exact .revoked reason
  | logoutWithSessions account device reason => exact .revoked reason
  | revokeAllForAccount account reason => exact .revoked reason
  | _ => cases hselected

/-- The rows of a table are later versions of the rows of another one, or new. -/
structure Database.Carries (now now' : Timestamp) (db db' : Database) : Prop where
  later : ∀ s ∈ db.sessions, ∃ s' ∈ db'.sessions, s.Later now now' s'
  ids : (db.sessions.map (·.id)).Nodup → (db'.sessions.map (·.id)).Nodup
  idle : (∀ s ∈ db.sessions, s.idleExpiresAt ≤ s.absoluteExpiresAt) →
    ∀ s ∈ db'.sessions, s.idleExpiresAt ≤ s.absoluteExpiresAt

theorem Database.Carries.of_sessions {now' : Timestamp} (h : now ≤ now')
    (hdb : db'.sessions = db.sessions) : db.Carries now now' db' where
  later s hs := ⟨s, hdb ▸ hs, .clock h⟩
  ids hids := hdb ▸ hids
  idle hidle := hdb ▸ hidle

theorem Database.Carries.refl : db.Carries now now db := .of_sessions (Nat.le_refl _) rfl

theorem Database.Carries.trans {now' now'' : Timestamp} {db'' : Database}
    (h : db.Carries now now' db') (h' : db'.Carries now' now'' db'') :
    db.Carries now now'' db'' where
  later s hs := by
    obtain ⟨s', hs', hlater⟩ := h.later s hs
    obtain ⟨s'', hs'', hlater'⟩ := h'.later s' hs'
    exact ⟨s'', hs'', hlater.trans hlater'⟩
  ids hids := h'.ids (h.ids hids)
  idle hidle := h'.idle (h.idle hidle)

theorem Database.Carries.update {u : Update SessionRecord}
    (hdb : db'.sessions = u.apply db.sessions)
    (h : ∀ s : SessionRecord, s.Later now now (u.row s)) : db.Carries now now db' where
  later s hs := ⟨u.row s, hdb ▸ Update.mem_apply.2 ⟨s, hs, rfl⟩, h s⟩
  ids hids := by
    rw [hdb, Update.map_apply fun s => (h s).id]
    exact hids
  idle hidle s' hs' := by
    rw [hdb] at hs'
    obtain ⟨s, hs, rfl⟩ := Update.mem_apply.1 hs'
    exact (h s).idle (hidle s hs)

theorem SessionRecord.Created.idle_le (h : s.Created db now) :
    s.idleExpiresAt ≤ s.absoluteExpiresAt := by
  obtain ⟨-, -, -, -, -, hidle, -⟩ := SessionRecord.check_iff.1 h.check
  exact hidle

theorem Database.Carries.insert (h : s.Created db now)
    (hdb : db'.sessions = db.sessions ++ [s]) : db.Carries now now db' where
  later s' hs' := ⟨s', hdb ▸ List.mem_append_left _ hs', .refl⟩
  ids hids := hdb ▸ Table.nodup_append_row hids h.freshId
  idle hidle s' hs' := by
    rw [hdb] at hs'
    obtain hold | hnew := List.mem_append.1 hs'
    · exact hidle s' hold
    · obtain rfl := List.mem_singleton.1 hnew
      exact h.idle_le

theorem SessionRepository.carries {op : SessionOperation} {response : SessionResponse}
    (h : perform db now op = .ok (db', response)) : db.Carries now now db' := by
  obtain ⟨s, -, hcreated, rfl⟩ | ⟨u, hu, -, rfl⟩ := perform_cases h
  · exact .insert hcreated rfl
  · exact .update rfl fun s => op.later hu

theorem DeviceRepository.carries {op : DeviceOperation} {response : DeviceResponse}
    (h : perform db now op = .ok (db', response)) : db.Carries now now db' := by
  obtain ⟨d, -, rfl⟩ | ⟨-, -, ⟨-, rfl⟩ | rfl⟩ := perform_cases h
  · exact .of_sessions (Nat.le_refl _) rfl
  · exact .refl
  · exact .update rfl fun s => op.later

end Later

/-! ## Runs -/

namespace ExpiryState

variable {s t : ExpiryState}

/-- The sessions that calls have returned, and those of the rotations, are in the table with their
absolute deadlines. -/
structure Sound (s : ExpiryState) : Prop where
  ids : (s.db.sessions.map (·.id)).Nodup
  idle : ∀ row ∈ s.db.sessions, row.idleExpiresAt ≤ row.absoluteExpiresAt
  returned : ∀ record ∈ s.returned, ∃ row ∈ s.db.sessions, row.id = record.id ∧
    row.absoluteExpiresAt = record.absoluteExpiresAt
  rotations : ∀ rotation ∈ s.rotations, ∃ row ∈ s.db.sessions, ∃ row' ∈ s.db.sessions,
    row.id = rotation.previous ∧ row'.id = rotation.successor ∧
      row'.absoluteExpiresAt = row.absoluteExpiresAt

/-- The step carries the rows on, and adds records of the new table and
rotations between its rows. -/
theorem Sound.of_carries (h : s.Sound) (hdb : s.db.Carries s.now t.now t.db)
    (hreturned : ∀ record ∈ t.returned, record ∈ s.returned ∨ ∃ row ∈ t.db.sessions,
      row.id = record.id ∧ row.absoluteExpiresAt = record.absoluteExpiresAt)
    (hrotations : ∀ rotation ∈ t.rotations, rotation ∈ s.rotations ∨
      ∃ row ∈ t.db.sessions, ∃ row' ∈ t.db.sessions, row.id = rotation.previous ∧
        row'.id = rotation.successor ∧ row'.absoluteExpiresAt = row.absoluteExpiresAt) :
    t.Sound where
  ids := hdb.ids h.ids
  idle := hdb.idle h.idle
  returned record hrecord := by
    obtain hold | hnew := hreturned record hrecord
    · obtain ⟨row, hrow, hid, habsolute⟩ := h.returned record hold
      obtain ⟨row', hrow', hlater⟩ := hdb.later row hrow
      exact ⟨row', hrow', hlater.id.trans hid, hlater.absolute.trans habsolute⟩
    · exact hnew
  rotations rotation hrotation := by
    obtain hold | hnew := hrotations rotation hrotation
    · obtain ⟨row, hrow, row', hrow', hprevious, hsuccessor, habsolute⟩ := h.rotations rotation hold
      obtain ⟨later, hmem, hlater⟩ := hdb.later row hrow
      obtain ⟨later', hmem', hlater'⟩ := hdb.later row' hrow'
      refine ⟨later, hmem, later', hmem', hlater.id.trans hprevious,
        hlater'.id.trans hsuccessor, ?_⟩
      rw [hlater'.absolute, hlater.absolute, habsolute]
    · exact hnew

/-- A session that the repository returned is in the table. -/
theorem responded_mem {op : SessionOperation} {db : Database} {response : SessionResponse}
    (h : SessionRepository.perform s.db s.now op = .ok (db, response)) :
    ∀ record ∈ responded response, record ∈ db.sessions := by
  intro record hrecord
  cases response with
  | session returned =>
    obtain rfl := Option.mem_toList.1 hrecord
    exact SessionRepository.mem_of_perform h
  | count n => cases hrecord

theorem step_carries {e : ExpiryEvent} (hstep : Step ExpiryState.step s e t) :
    s.db.Carries s.now t.now t.db := by
  cases e with
  | clock now =>
    obtain ⟨hle, heq⟩ := Option.ite_none_right_eq_some.1 hstep
    obtain rfl := Option.some.inj heq
    exact .of_sessions hle rfl
  | create account device epoch issuedAt absoluteExpiresAt secrets =>
    rw [Step, ExpiryState.step] at hstep
    split at hstep
    · obtain rfl := Option.some.inj hstep
      exact .refl
    · rename_i db record hcreate
      obtain rfl := Option.some.inj hstep
      obtain ⟨hcreated, hdb, -⟩ := SessionService.create_ok hcreate
      exact .insert hcreated (congrArg Database.sessions hdb)
  | rotate account previous issuedAt secrets =>
    obtain ⟨-, hstep⟩ := Option.ite_none_right_eq_some.1 hstep
    obtain ⟨db, result, hrotate⟩ : ∃ db result, SessionService.rotate s.db s.now account previous
        issuedAt secrets = (db, result) := ⟨_, _, rfl⟩
    have hdb : s.db.Carries s.now s.now db := by
      obtain ⟨-, rfl | ⟨response, hrevoke⟩⟩ | ⟨db₁, response, record, -, hrevoke, -,
          hcreated, hdb, -⟩ :=
        SessionService.rotate_cases hrotate
      · exact .refl
      · exact SessionRepository.carries hrevoke
      · exact (SessionRepository.carries hrevoke).trans
          (.insert hcreated (congrArg Database.sessions hdb))
    rw [hrotate] at hstep
    cases result with
    | error error =>
      obtain rfl := Option.some.inj hstep
      exact hdb
    | ok record =>
      obtain rfl := Option.some.inj hstep
      exact hdb
  | session op =>
    obtain ⟨-, hstep⟩ := Option.ite_none_right_eq_some.1 hstep
    split at hstep
    · obtain rfl := Option.some.inj hstep
      exact .refl
    · rename_i db response hperform
      obtain rfl := Option.some.inj hstep
      exact SessionRepository.carries hperform
  | device op =>
    rw [Step, ExpiryState.step] at hstep
    split at hstep
    · obtain rfl := Option.some.inj hstep
      exact .refl
    · rename_i db response hperform
      obtain rfl := Option.some.inj hstep
      exact DeviceRepository.carries hperform
  | list account =>
    obtain rfl := Option.some.inj hstep
    exact .refl

/-- What `rotate` needs when it returns a session: the session of the previous record is not revoked
and not past its absolute expiry. -/
theorem rotated_spec {account : Uuid} {previous record : SessionRecord} {issuedAt : Timestamp}
    {secrets : SessionSecrets} {db : Database} (h : s.Sound) (hprevious : previous ∈ s.returned)
    (hrotate : SessionService.rotate s.db s.now account previous issuedAt secrets =
      (db, .ok record)) :
    record ∈ db.sessions ∧ record.absoluteExpiresAt = previous.absoluteExpiresAt ∧
      (∃ row ∈ db.sessions, row.id = previous.id ∧
        row.absoluteExpiresAt = previous.absoluteExpiresAt) ∧
      ∀ row ∈ s.db.sessions, row.id = previous.id → row.revokedAt = none ∧
        s.now < row.absoluteExpiresAt := by
  obtain ⟨⟨error, hresult⟩, -⟩ | ⟨db₁, response, record', hresult, hrevoke, ⟨row, hrow, hselected⟩,
    hcreated, rfl, habsolute⟩ := SessionService.rotate_cases hrotate
  · cases hresult
  obtain rfl := Except.ok.inj hresult
  obtain ⟨old, hold, hid, hdeadline⟩ := h.returned previous hprevious
  have hkeys : ∀ row' ∈ s.db.sessions, row'.id = previous.id → row' = old := fun row' hrow' hid' =>
    List.inj_on_of_nodup_map h.ids hrow' hold (hid'.trans hid.symm)
  refine ⟨List.mem_append_right _ (List.mem_singleton_self _), habsolute, ?_, ?_⟩
  · obtain ⟨later, hmem, hlater⟩ := (SessionRepository.carries hrevoke).later old hold
    exact ⟨later, List.mem_append_left _ hmem, hlater.id.trans hid, hlater.absolute.trans hdeadline⟩
  · intro row' hrow' hid'
    simp only [SessionRepository.selectsId, Bool.and_eq_true, decide_eq_true_eq,
      Option.isNone_iff_eq_none] at hselected
    obtain ⟨⟨-, hselectedId⟩, hrevoked⟩ := hselected
    obtain rfl := hkeys row' hrow' hid'
    obtain rfl := hkeys row hrow hselectedId
    refine ⟨hrevoked, ?_⟩
    -- the row was inserted at `now`, before its own idle expiry
    obtain ⟨-, -, -, -, hcreated', hidle, -⟩ := SessionRecord.check_iff.1 hcreated.check
    rw [hcreated.createdAt] at hcreated'
    calc s.now < record.idleExpiresAt := hcreated'
      _ ≤ record.absoluteExpiresAt := hidle
      _ = row.absoluteExpiresAt := habsolute.trans hdeadline.symm

theorem Sound.step {e : ExpiryEvent} (h : s.Sound) (hstep : Step ExpiryState.step s e t) :
    t.Sound := by
  have hdb := step_carries hstep
  cases e with
  | clock now =>
    obtain ⟨-, heq⟩ := Option.ite_none_right_eq_some.1 hstep
    obtain rfl := Option.some.inj heq
    exact h.of_carries hdb (fun _ => .inl) (fun _ => .inl)
  | create account device epoch issuedAt absoluteExpiresAt secrets =>
    rw [Step, ExpiryState.step] at hstep
    split at hstep
    · obtain rfl := Option.some.inj hstep
      exact h
    · rename_i db record hcreate
      obtain rfl := Option.some.inj hstep
      obtain ⟨-, rfl, -⟩ := SessionService.create_ok hcreate
      refine h.of_carries hdb (fun record' hrecord' => ?_) (fun _ => .inl)
      obtain rfl | hold := List.mem_cons.1 hrecord'
      · exact .inr ⟨_, List.mem_append_right _ (List.mem_singleton_self _), rfl, rfl⟩
      · exact .inl hold
  | rotate account previous issuedAt secrets =>
    obtain ⟨hprevious, hstep⟩ := Option.ite_none_right_eq_some.1 hstep
    split at hstep
    · obtain rfl := Option.some.inj hstep
      exact h.of_carries hdb (fun _ => .inl) (fun _ => .inl)
    · rename_i db record hrotate
      obtain rfl := Option.some.inj hstep
      obtain ⟨hrecord, habsolute, ⟨row, hrow, hid, hdeadline⟩, -⟩ :=
        rotated_spec h hprevious hrotate
      refine h.of_carries hdb (fun record' hrecord' => ?_) (fun rotation hrotation => ?_)
      · obtain rfl | hold := List.mem_cons.1 hrecord'
        · exact .inr ⟨_, hrecord, rfl, rfl⟩
        · exact .inl hold
      · obtain rfl | hold := List.mem_cons.1 hrotation
        · exact .inr ⟨row, hrow, record, hrecord, hid, rfl, habsolute.trans hdeadline.symm⟩
        · exact .inl hold
  | session op =>
    obtain ⟨-, hstep⟩ := Option.ite_none_right_eq_some.1 hstep
    split at hstep
    · obtain rfl := Option.some.inj hstep
      exact h
    · rename_i db response hperform
      obtain rfl := Option.some.inj hstep
      refine h.of_carries hdb (fun record hrecord => ?_) (fun _ => .inl)
      obtain hnew | hold := List.mem_append.1 hrecord
      · exact .inr ⟨record, responded_mem hperform record hnew, rfl, rfl⟩
      · exact .inl hold
  | device op =>
    rw [Step, ExpiryState.step] at hstep
    split at hstep
    · obtain rfl := Option.some.inj hstep
      exact h
    · obtain rfl := Option.some.inj hstep
      exact h.of_carries hdb (fun _ => .inl) (fun _ => .inl)
  | list account =>
    obtain rfl := Option.some.inj hstep
    refine h.of_carries hdb (fun record hrecord => ?_) (fun _ => .inl)
    obtain hnew | hold := List.mem_append.1 hrecord
    · exact .inr ⟨record, (List.mem_filter.1 hnew).1, rfl, rfl⟩
    · exact .inl hold

/-- No session was made of one that had ended. -/
def NoneRevived (s : ExpiryState) : Prop := ∀ rotation ∈ s.rotations, rotation.ended = false

/-- `rotate` checks the revocation and the absolute expiry, its caller the idle expiry. -/
theorem NoneRevived.step {e : ExpiryEvent} (hs : s.Sound) (h : s.NoneRevived)
    (hstep : Step ExpiryState.step s e t) (hidle : s.NotIdle e) : t.NoneRevived := by
  cases e with
  | clock now =>
    obtain ⟨-, heq⟩ := Option.ite_none_right_eq_some.1 hstep
    obtain rfl := Option.some.inj heq
    exact h
  | create account device epoch issuedAt absoluteExpiresAt secrets =>
    rw [Step, ExpiryState.step] at hstep
    split at hstep <;>
    · obtain rfl := Option.some.inj hstep
      exact h
  | rotate account previous issuedAt secrets =>
    obtain ⟨hprevious, hstep⟩ := Option.ite_none_right_eq_some.1 hstep
    split at hstep
    · obtain rfl := Option.some.inj hstep
      exact h
    · rename_i db record hrotate
      obtain rfl := Option.some.inj hstep
      obtain ⟨-, -, -, hlive⟩ := rotated_spec hs hprevious hrotate
      intro rotation hrotation
      obtain rfl | hold := List.mem_cons.1 hrotation
      · rw [hasEnded, List.any_eq_false]
        intro row hrow hended
        obtain ⟨hid, hended⟩ := Bool.and_eq_true_iff.1 hended
        have hid := of_decide_eq_true hid
        obtain ⟨hrevoked, habsolute⟩ := hlive row hrow hid
        rw [SessionRecord.ended_iff, hrevoked] at hended
        obtain hended | hended | hended := hended
        · cases hended
        · exact Nat.not_le.2 (hidle row hrow hid) hended
        · exact Nat.not_le.2 habsolute hended
      · exact h rotation hold
  | session op =>
    obtain ⟨-, hstep⟩ := Option.ite_none_right_eq_some.1 hstep
    split at hstep <;>
    · obtain rfl := Option.some.inj hstep
      exact h
  | device op =>
    rw [Step, ExpiryState.step] at hstep
    split at hstep <;>
    · obtain rfl := Option.some.inj hstep
      exact h
  | list account =>
    obtain rfl := Option.some.inj hstep
    exact h

/-- Every session of a chain of rotations has the absolute deadline of the first one. -/
theorem Sound.chain (h : s.Sound) {first last : Uuid}
    (hchain : Relation.ReflTransGen s.Rotated first last) {row row' : SessionRecord}
    (hrow : row ∈ s.db.sessions) (hfirst : row.id = first) (hrow' : row' ∈ s.db.sessions)
    (hlast : row'.id = last) : row'.absoluteExpiresAt = row.absoluteExpiresAt := by
  have hkeys : ∀ {a b}, a ∈ s.db.sessions → b ∈ s.db.sessions → a.id = b.id → a = b :=
    fun ha hb heq => List.inj_on_of_nodup_map h.ids ha hb heq
  induction hchain generalizing row' with
  | refl => rw [hkeys hrow' hrow (hlast.trans hfirst.symm)]
  | tail _ hrotated ih =>
    obtain ⟨rotation, hrotation, rfl, rfl⟩ := hrotated
    obtain ⟨a, ha, b, hb, hprevious, hsuccessor, habsolute⟩ := h.rotations rotation hrotation
    rw [hkeys hrow' hb (hlast.trans hsuccessor.symm), habsolute]
    exact ih ha hprevious

end ExpiryState

/-- In every run in which `rotate` is called only for sessions that are not past their idle expiry:
each session has its idle expiry no later than its absolute one, no chain of rotations moves the
absolute deadline, a session that had ended at some time stays so, and no session was made of one
that had ended. -/
theorem session_expiry_not_escaped {s u t : ExpiryState} {es fs : List ExpiryEvent}
    (hids : (s.db.sessions.map (·.id)).Nodup) (hchecks : ∀ row ∈ s.db.sessions, row.check = true)
    (hreturned : s.returned = []) (hrotations : s.rotations = [])
    (hrun : Run (fun s e t => Step ExpiryState.step s e t ∧ s.NotIdle e) s es u)
    (hrun' : Run (fun s e t => Step ExpiryState.step s e t ∧ s.NotIdle e) u fs t) :
    (∀ row ∈ t.db.sessions, row.idleExpiresAt ≤ row.absoluteExpiresAt) ∧
      (∀ first last, Relation.ReflTransGen t.Rotated first last →
        ∀ row ∈ t.db.sessions, row.id = first → ∀ row' ∈ t.db.sessions, row'.id = last →
          row'.absoluteExpiresAt ≤ row.absoluteExpiresAt) ∧
      (∀ row ∈ u.db.sessions, row.ended u.now = true →
        ∀ row' ∈ t.db.sessions, row'.id = row.id → row'.ended t.now = true) ∧
      ∀ rotation ∈ t.rotations, rotation.ended = false := by
  have hstart : s.Sound ∧ s.NoneRevived := by
    refine ⟨⟨hids, fun row hrow => ?_, by rw [hreturned]; nofun, by rw [hrotations]; nofun⟩,
      by rw [ExpiryState.NoneRevived, hrotations]; nofun⟩
    obtain ⟨-, -, -, -, -, hidle, -⟩ := SessionRecord.check_iff.1 (hchecks row hrow)
    exact hidle
  have hkept : ∀ s e t, s.Sound ∧ s.NoneRevived →
      (Step ExpiryState.step s e t ∧ s.NotIdle e) → t.Sound ∧ t.NoneRevived :=
    fun s e t h hstep => ⟨h.1.step hstep.1, h.2.step h.1 hstep.1 hstep.2⟩
  have hmiddle := hrun.invariant hstart hkept
  obtain ⟨hsound, hnone⟩ := hrun'.invariant hmiddle hkept
  have hcarries : u.db.Carries u.now t.now t.db :=
    hrun'.related (Q := fun s t : ExpiryState => s.db.Carries s.now t.now t.db) hmiddle hkept
      (fun _ => .refl) (fun h h' => h.trans h')
      fun _ _ _ _ hstep => ExpiryState.step_carries hstep.1
  refine ⟨hsound.idle, fun first last hchain row hrow hfirst row' hrow' hlast => ?_, ?_, hnone⟩
  · exact Nat.le_of_eq (hsound.chain hchain hrow hfirst hrow' hlast)
  · intro row hrow hended row' hrow' hid
    obtain ⟨later, hmem, hlater⟩ := hcarries.later row hrow
    obtain rfl := List.inj_on_of_nodup_map hsound.ids hrow' hmem (hid.trans hlater.id.symm)
    exact hlater.ended hended

/-! ## A session that was idle for too long -/

/-- A session that expires at 9 when it is idle, and at 100 in any case. -/
def idleState : ExpiryState where
  db := { sessionDatabase with
    sessions := [{ sessionDatabase.session with absoluteExpiresAt := 100 }] }
  now := 5
  returned := []
  rotations := []

/-- The session is rotated at some time. -/
def rotateAt (now : Timestamp) : List ExpiryEvent :=
  [.list ⟨1⟩, .clock now,
    .rotate ⟨1⟩ { sessionDatabase.session with absoluteExpiresAt := 100 } now
      ⟨List.replicate 32 1, List.replicate 32 1, ⟨6⟩⟩]

theorem session_expiry_not_escaped_at_eight : ∃ t,
    Run (fun s e t => Step ExpiryState.step s e t ∧ s.NotIdle e) idleState (rotateAt 8) t ∧
      t.rotations = [⟨⟨5⟩, ⟨6⟩, false⟩] ∧ ∀ rotation ∈ t.rotations, rotation.ended = false := by
  have hrun : (exec (fun s e => if ExpiryState.NotIdle s e then ExpiryState.step s e else none)
      idleState (rotateAt 8)).any (fun t => t.rotations = [⟨⟨5⟩, ⟨6⟩, false⟩]) = true := by
    decide +kernel
  obtain ⟨t, hexec, hrotations⟩ := (Option.any_eq_true _ _).1 hrun
  have hrun := Run.of_exec_guarded hexec
  exact ⟨t, hrun, of_decide_eq_true hrotations,
    (session_expiry_not_escaped (by decide) (by decide) rfl rfl (.nil _) hrun).2.2.2⟩

/-- `rotate` makes a usable session out of one that expired at 9. -/
theorem idle_session_rotated : ∃ t, Run (Step ExpiryState.step) idleState (rotateAt 10) t ∧
    ∃ rotation ∈ t.rotations, rotation.ended = true ∧
      ∃ row ∈ t.db.sessions, row.id = rotation.successor ∧ row.usable t.db t.now = true := by
  have hrun : (exec ExpiryState.step idleState (rotateAt 10)).any (fun t =>
      decide (∃ rotation ∈ t.rotations, rotation.ended = true ∧
        ∃ row ∈ t.db.sessions, row.id = rotation.successor ∧
        row.usable t.db t.now = true)) = true := by
    decide +kernel
  obtain ⟨t, hexec, hrotated⟩ := (Option.any_eq_true _ _).1 hrun
  exact ⟨t, Run.of_exec hexec, of_decide_eq_true hrotated⟩

end SelfRelay.Backend
