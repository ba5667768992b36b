import SelfRelay.Backend.SessionRepository

/-!
# `DeviceRepository`

The write operations on `private.devices`.  The operations that also revoke sessions, and
`register_for_email`, run in a transaction: when a statement raises, none has taken effect.
-/

namespace SelfRelay.Backend

namespace Database

/-- An update of `private.devices`, with the rows it wrote. -/
def updateDevices (db : Database) (selected : DeviceRecord → Bool)
    (set : DeviceRecord → DeviceRecord) : Except RepositoryError (Database × List DeviceRecord) :=
  match Table.update DeviceRecord.check selected set db.devices with
  | .error violation => .error (.rejected violation)
  | .ok (devices, returned) => .ok ({ db with devices }, returned)

/-- An insert into `private.devices`, where an account has a fingerprint only once. -/
def insertDevice (db : Database) (device : DeviceRecord) : Except RepositoryError Database :=
  match Table.insert DeviceRecord.check DeviceRecord.id device db.devices with
  | .error violation => .error (.rejected violation)
  | .ok devices =>
    if db.devices.any fun d => d.userId = device.userId && d.fingerprint = device.fingerprint then
      .error (.rejected .unique)
    else .ok { db with devices }

end Database

/-- A call of a write operation.  The `generated` id of `create` is what `gen_random_uuid()`
returns; `revoke` is another name for `revoke_with_sessions`. -/
inductive DeviceOperation where
  | create (account : Uuid) (epoch : ℤ) (label : String) (signingPublicKeySpki fingerprint : Bytea)
    (linkedByDeviceId deviceId : Option Uuid) (generated : Uuid)
  | registerForEmail (account : Uuid) (epoch : ℤ) (label : String)
    (signingPublicKeySpki fingerprint : Bytea) (deviceId : Uuid)
  | touchLastSeen (account device : Uuid)
  | rename (account device : Uuid) (label : String)
  | revokeWithSessions (account device : Uuid) (reason : String := "device_revoked")
  | logoutWithSessions (account device : Uuid) (reason : String := "logout")
  | revokeAllForAccount (account : Uuid) (reason : String := "account_cleanup")

/-- What a call returns: a device, or the number of devices that it revoked. -/
inductive DeviceResponse where
  | device (record : Option DeviceRecord)
  | count (n : ℕ)

namespace DeviceRepository

variable (db : Database) (now : Timestamp)

/-- The row that an insert writes. -/
def inserted (id account : Uuid) (epoch : ℤ) (label : String)
    (signingPublicKeySpki fingerprint : Bytea) (linkedByDeviceId : Option Uuid) : DeviceRecord where
  id := id
  userId := account
  epoch := epoch
  label := label
  signingPublicKeySpki := signingPublicKeySpki
  fingerprint := fingerprint
  status := .active
  createdAt := now
  lastSeenAt := now
  revokedAt := none
  linkedByDeviceId := linkedByDeviceId

/-- The `WHERE` clause of `create`. -/
def admits (account : Uuid) (epoch : ℤ) (linkedByDeviceId : Option Uuid) : Bool :=
  db.accountAt account epoch && linkedByDeviceId.all fun approver =>
    db.deviceAt account approver epoch

/-- `create` -/
def create (account : Uuid) (epoch : ℤ) (label : String) (signingPublicKeySpki fingerprint : Bytea)
    (linkedByDeviceId deviceId : Option Uuid) (generated : Uuid) :
    Except RepositoryError (Database × DeviceRecord) :=
  if admits db account epoch linkedByDeviceId then do
    let record := inserted now (deviceId.getD generated) account epoch label signingPublicKeySpki
      fingerprint linkedByDeviceId
    let db ← db.insertDevice record
    return (db, record)
  else .error .noRow

/-- A device of the account with a fingerprint. -/
def hasFingerprint (account : Uuid) (fingerprint : Bytea) (d : DeviceRecord) : Bool :=
  d.userId = account && d.fingerprint = fingerprint

/-- `register_for_email` -/
def registerForEmail (account : Uuid) (epoch : ℤ) (label : String)
    (signingPublicKeySpki fingerprint : Bytea) (deviceId : Uuid) :
    Except RepositoryError (Database × DeviceRecord) :=
  match db.devices.find? (hasFingerprint account fingerprint) with
  | some existing =>
    if existing.status = .revoked then .error .revokedDevice
    else do
      let (db, rows) ← db.updateDevices
        (fun d => hasFingerprint account fingerprint d && d.epoch = epoch)
        (fun d => { d with status := .active, label, lastSeenAt := now })
      match rows with
      | record :: _ => return (db, record)
      | [] => .error .noRow
  | none =>
    if db.accountAt account epoch then do
      let record := inserted now deviceId account epoch label signingPublicKeySpki fingerprint none
      let db ← db.insertDevice record
      return (db, record)
    else .error .noRow

/-- A device of the account. -/
def selectsId (account device : Uuid) (d : DeviceRecord) : Bool :=
  d.userId = account && d.id = device

/-- `touch_last_seen` -/
def touchLastSeen (account device : Uuid) : Except RepositoryError (Database × List DeviceRecord) :=
  db.updateDevices (fun d => selectsId account device d && d.status = .active) fun d =>
    { d with lastSeenAt := now }

/-- `rename` -/
def rename (account device : Uuid) (label : String) :
    Except RepositoryError (Database × List DeviceRecord) :=
  db.updateDevices (selectsId account device) fun d => { d with label }

/-- The `SET` clauses that revoke a device. -/
def revoked (d : DeviceRecord) : DeviceRecord :=
  { d with
    status := .revoked
    revokedAt := some (d.revokedAt.getD now) }

/-- The `SET` clause that logs a device out. -/
def loggedOut (d : DeviceRecord) : DeviceRecord :=
  { d with status := if d.status = .revoked then d.status else .inactive }

/-- Update a device and, if there was one, revoke its sessions. -/
def withSessions (set : DeviceRecord → DeviceRecord) (account device : Uuid) (reason : String) :
    Except RepositoryError (Database × List DeviceRecord) := do
  let (db, rows) ← db.updateDevices (selectsId account device) set
  match rows with
  | [] => return (db, [])
  | record :: _ =>
    let (db, _) ← SessionRepository.revokeForDevice db now account device reason
    return (db, [record])

/-- `revoke_with_sessions` -/
def revokeWithSessions (account device : Uuid) (reason : String) :
    Except RepositoryError (Database × List DeviceRecord) :=
  withSessions db now (revoked now) account device reason

/-- `logout_with_sessions` -/
def logoutWithSessions (account device : Uuid) (reason : String) :
    Except RepositoryError (Database × List DeviceRecord) :=
  withSessions db now loggedOut account device reason

/-- `revoke_all_for_account` -/
def revokeAllForAccount (account : Uuid) (reason : String) :
    Except RepositoryError (Database × List DeviceRecord) := do
  let (db, rows) ← db.updateDevices (fun d => d.userId = account && d.status = .active)
    (revoked now)
  let (db, _) ← SessionRepository.revokeForAccount db now account reason
  return (db, rows)

/-- A call, with what it returns. -/
def perform : DeviceOperation → Except RepositoryError (Database × DeviceResponse)
  | .create account epoch label spki fingerprint linkedBy deviceId generated =>
    found <$> create db now account epoch label spki fingerprint linkedBy deviceId generated
  | .registerForEmail account epoch label spki fingerprint deviceId =>
    found <$> registerForEmail db now account epoch label spki fingerprint deviceId
  | .touchLastSeen account device => first <$> touchLastSeen db now account device
  | .rename account device label => first <$> rename db account device label
  | .revokeWithSessions account device reason =>
    first <$> revokeWithSessions db now account device reason
  | .logoutWithSessions account device reason =>
    first <$> logoutWithSessions db now account device reason
  | .revokeAllForAccount account reason =>
    (fun result => (result.1, .count result.2.length)) <$> revokeAllForAccount db now account reason
where
  found (result : Database × DeviceRecord) : Database × DeviceResponse :=
    (result.1, .device (some result.2))
  first (result : Database × List DeviceRecord) : Database × DeviceResponse :=
    (result.1, .device result.2.head?)

end DeviceRepository

end SelfRelay.Backend
