import SelfRelay.Backend.RowUpdates
import SelfRelay.Backend.SocketAdmission

/-!
# Logging a device out

The two routes that log a device out: `logout_device` names a device of the account, `logout` takes
the one of the session.  Each logs the device out with its sessions, and then disconnects its
socket. Neither writes to `private.transfer_requests`: the offers of the device stay as they were
(`logout_cancels_offers_iff`).
-/

namespace SelfRelay.Backend

/-- A request of an authenticated session. -/
inductive LogoutRequest where
  /-- `DELETE /devices/{device_id}` -/
  | logoutDevice (session : SessionRecord) (device : Uuid)
  /-- `POST /auth/logout` -/
  | logout (session : SessionRecord)
  deriving DecidableEq, Repr

/-- Why a request was answered with an error. -/
inductive LogoutError where
  | repository (error : RepositoryError)
  /-- 404, with `DEVICE_AUTH_FAILURE` -/
  | notFound
  deriving DecidableEq, Repr

namespace LogoutRequest

/-- The account of the session. -/
def account : LogoutRequest → Uuid
  | logoutDevice session _ => session.userId
  | logout session => session.userId

/-- The device that is logged out. -/
def device : LogoutRequest → Uuid
  | logoutDevice _ device => device
  | logout session => session.deviceId

/-- The calls of the repositories. -/
def revoke (db : Database) (now : Timestamp) (request : LogoutRequest) :
    Except LogoutError Database :=
  match DeviceRepository.logoutWithSessions db now request.account request.device "logout" with
  | .error error => .error (.repository error)
  | .ok (db, _ :: _) => .ok db
  | .ok (db, []) =>
    match request with
    | logoutDevice _ _ => .error .notFound
    | logout session =>
      match SessionRepository.revoke db now session.userId session.id "logout" with
      | .error error => .error (.repository error)
      | .ok (db, _) => .ok db

/-- The whole request. -/
def perform (db : Database) (maps : PresenceMaps) (now : Timestamp) (request : LogoutRequest) :
    Except LogoutError (Database × PresenceMaps) := do
  let db ← request.revoke db now
  return (db, maps.disconnectDevice request.account request.device)

end LogoutRequest

/-! ## The offers of the device -/

/-- The device takes part in no transfer with an active status. -/
def Database.NoneActive (db : Database) (device : Uuid) : Prop :=
  ∀ t ∈ db.transfers, t.status ∈ activeStatuses →
    t.senderDeviceId ≠ device ∧ t.recipientDeviceId ≠ device

section Transfers

variable {db db' : Database} {now : Timestamp}

theorem logoutWithSessions_transfers {account device : Uuid} {reason : String}
    {rows : List DeviceRecord}
    (h : DeviceRepository.logoutWithSessions db now account device reason = .ok (db', rows)) :
    db'.transfers = db.transfers := by
  obtain ⟨-, ⟨-, rfl, -⟩ | rfl⟩ := DeviceRepository.withSessions_ok h
  · rfl
  · rfl

theorem LogoutRequest.revoke_transfers {request : LogoutRequest}
    (h : request.revoke db now = .ok db') :
    db'.transfers = db.transfers := by
  unfold LogoutRequest.revoke at h
  split at h
  case h_1 => cases h
  case h_2 hlogout =>
    cases h
    exact logoutWithSessions_transfers hlogout
  case h_3 db₁ hlogout =>
    have htransfers := logoutWithSessions_transfers hlogout
    split at h
    case h_1 => cases h
    case h_2 session =>
      split at h
      · cases h
      · rename_i db₂ rows hrevoke
        cases h
        obtain ⟨-, rfl, -⟩ :=
          updateSessions_ok (u := ⟨_, SessionRecord.revoked now "logout"⟩) hrevoke
        exact htransfers

/-- After a logout has returned, the device takes part in no active transfer exactly
if it did not before. -/
theorem logout_cancels_offers_iff {maps maps' : PresenceMaps} {request : LogoutRequest}
    (h : request.perform db maps now = .ok (db', maps')) :
    db'.NoneActive request.device ↔ db.NoneActive request.device := by
  obtain ⟨db₁, hrevoke, hok⟩ := exists_of_bind_eq_ok h
  cases hok
  rw [Database.NoneActive, LogoutRequest.revoke_transfers hrevoke]
  rfl

end Transfers

/-- The offer of device 2 was completed, and device 3 has made an offer to device 7. -/
def completedDatabase : Database :=
  { sessionDatabase with transfers :=
      [{ offeredDatabase.offer with
        status := .completed, acceptedAt := some 2, completedAt := some 3 },
        { offeredDatabase.offer with id := ⟨6⟩, senderDeviceId := ⟨3⟩, recipientDeviceId := ⟨7⟩ }] }

/-- Device 2 logs out when its transfer is over. -/
theorem logout_without_offers : ∃ db' maps',
    (LogoutRequest.logout sessionDatabase.session).perform completedDatabase .empty 5 =
      .ok (db', maps') ∧ db'.NoneActive ⟨2⟩ := by
  obtain ⟨⟨db', maps'⟩, hperform⟩ : ∃ result, (LogoutRequest.logout sessionDatabase.session).perform
      completedDatabase .empty 5 = .ok result := ⟨_, rfl⟩
  have hnone : completedDatabase.NoneActive ⟨2⟩ := by
    rw [Database.NoneActive]
    decide
  exact ⟨db', maps', hperform, (logout_cancels_offers_iff hperform).2 hnone⟩

/-- Device 2 logs out, and its offer to device 3 stays. -/
theorem logout_keeps_offer : ∃ db' maps',
    (LogoutRequest.logout sessionDatabase.session).perform sessionDatabase .empty 5 =
      .ok (db', maps') ∧ ¬ db'.NoneActive ⟨2⟩ := by
  obtain ⟨⟨db', maps'⟩, hperform⟩ : ∃ result, (LogoutRequest.logout sessionDatabase.session).perform
      sessionDatabase .empty 5 = .ok result := ⟨_, rfl⟩
  have htransfers : db'.transfers = sessionDatabase.transfers := by
    obtain ⟨db₁, hrevoke, hok⟩ := exists_of_bind_eq_ok hperform
    cases hok
    exact LogoutRequest.revoke_transfers hrevoke
  refine ⟨db', maps', hperform, fun h => ?_⟩
  rw [Database.NoneActive, htransfers] at h
  exact absurd h (by decide)

end SelfRelay.Backend
