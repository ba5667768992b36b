import SelfRelay.Backend.Schema

/-!
# `SessionRepository`

The operations on `private.app_sessions`.  `CURRENT_TIMESTAMP` is the argument `now`.  A call
returns the new database, or raises and leaves the database as it was.
-/

namespace SelfRelay.Backend

namespace Database

/-- An account that is not deleted, in the epoch `epoch`. -/
def accountAt (db : Database) (account : Uuid) (epoch : ℤ) : Bool :=
  db.users.any fun user => user.id = account && user.deletedAt.isNone && user.deviceEpoch = epoch

/-- A device of the account that is active in the epoch `epoch`. -/
def deviceAt (db : Database) (account device : Uuid) (epoch : ℤ) : Bool :=
  db.devices.any fun d =>
    d.userId = account && d.id = device && d.status = .active && d.epoch = epoch

/-- An update of `private.app_sessions`, with the rows it wrote. -/
def updateSessions (db : Database) (selected : SessionRecord → Bool)
    (set : SessionRecord → SessionRecord) :
    Except RepositoryError (Database × List SessionRecord) :=
  match Table.update SessionRecord.check selected set db.sessions with
  | .error violation => .error (.rejected violation)
  | .ok (sessions, returned) => .ok ({ db with sessions }, returned)

/-- An insert into `private.app_sessions`, where `token_hash` is unique as well. -/
def insertSession (db : Database) (session : SessionRecord) : Except RepositoryError Database :=
  match Table.insert SessionRecord.check SessionRecord.id session db.sessions with
  | .error violation => .error (.rejected violation)
  | .ok sessions =>
    if db.sessions.any fun s => s.tokenHash = session.tokenHash then .error (.rejected .unique)
    else .ok { db with sessions }

end Database

/-- `interval '30 days'` -/
def thirtyDays : Timestamp := 30 * 24 * 60 * 60 * 1000000

/-- A session that authenticates: not revoked, not expired, in the epoch
of its account and device. -/
def SessionRecord.usable (db : Database) (now : Timestamp) (s : SessionRecord) : Bool :=
  s.revokedAt.isNone && now < s.idleExpiresAt && now < s.absoluteExpiresAt &&
    db.accountAt s.userId s.epoch && db.deviceAt s.userId s.deviceId s.epoch

/-- The `SET` clauses of a revocation. -/
def SessionRecord.revoked (now : Timestamp) (reason : String) (s : SessionRecord) : SessionRecord :=
  { s with
    revokedAt := some (s.revokedAt.getD now)
    revocationReason := some reason }

/-- A call of a write operation.  The `id` of `create` is what `gen_random_uuid()` returns. -/
inductive SessionOperation where
  | create (account device : Uuid) (tokenHash csrfHash : Bytea) (epoch : ℤ)
    (idleExpiresAt absoluteExpiresAt : Timestamp) (id : Uuid)
  | touchLastSeen (account session : Uuid)
  | replaceCsrfHash (account session : Uuid) (csrfHash : Bytea)
  | revoke (account session : Uuid) (reason : String := "logout")
  | revokeByTokenHash (account : Uuid) (tokenHash : Bytea) (reason : String := "logout")
  | revokeForDevice (account device : Uuid) (reason : String := "device_revoked")
  | revokeForAccount (account : Uuid) (reason : String := "account_cleanup")

/-- What a call returns: a session, or the number of sessions that it revoked. -/
inductive SessionResponse where
  | session (record : Option SessionRecord)
  | count (n : ℕ)

namespace SessionRepository

variable (db : Database) (now : Timestamp)

/-- `find_by_token_hash`.  The joins with the account and the device select what `usable` does. -/
def findByTokenHash (tokenHash : Bytea) : Option SessionRecord :=
  db.sessions.find? fun s => s.tokenHash = tokenHash && s.usable db now

/-- `find_current_by_id` -/
def findCurrentById (session : Uuid) : Option SessionRecord :=
  db.sessions.find? fun s => s.id = session && s.usable db now

/-- The `WHERE` clause of `create`. -/
def admits (account device : Uuid) (epoch : ℤ) : Bool :=
  db.accountAt account epoch && db.deviceAt account device epoch

/-- `create` -/
def create (account device : Uuid) (tokenHash csrfHash : Bytea) (epoch : ℤ)
    (idleExpiresAt absoluteExpiresAt : Timestamp) (id : Uuid) :
    Except RepositoryError (Database × SessionRecord) :=
  if admits db account device epoch then
    let record : SessionRecord := {
      id
      userId := account
      deviceId := device
      tokenHash
      csrfHash
      epoch
      createdAt := now
      lastSeenAt := now
      idleExpiresAt
      absoluteExpiresAt
      revokedAt := none
      revocationReason := none }
    do
      let db ← db.insertSession record
      return (db, record)
  else .error .noRow

/-- The session of an account, while it is usable. -/
def selectsUsable (account session : Uuid) (s : SessionRecord) : Bool :=
  s.userId = account && s.id = session && s.usable db now

/-- `touch_last_seen` -/
def touchLastSeen (account session : Uuid) :
    Except RepositoryError (Database × List SessionRecord) :=
  db.updateSessions (selectsUsable db now account session) fun s =>
    { s with
      lastSeenAt := now
      idleExpiresAt := min (now + thirtyDays) s.absoluteExpiresAt }

/-- `replace_csrf_hash` -/
def replaceCsrfHash (account session : Uuid) (csrfHash : Bytea) :
    Except RepositoryError (Database × List SessionRecord) :=
  db.updateSessions (selectsUsable db now account session) fun s => { s with csrfHash }

/-! The `WHERE` clauses of the revocations. -/

def selectsId (account session : Uuid) (s : SessionRecord) : Bool :=
  s.userId = account && s.id = session && s.revokedAt.isNone

def selectsTokenHash (account : Uuid) (tokenHash : Bytea) (s : SessionRecord) : Bool :=
  s.userId = account && s.tokenHash = tokenHash && s.revokedAt.isNone

def selectsDevice (account device : Uuid) (s : SessionRecord) : Bool :=
  s.userId = account && s.deviceId = device && s.revokedAt.isNone

def selectsAccount (account : Uuid) (s : SessionRecord) : Bool :=
  s.userId = account && s.revokedAt.isNone

/-- `revoke` -/
def revoke (account session : Uuid) (reason : String) :
    Except RepositoryError (Database × List SessionRecord) :=
  db.updateSessions (selectsId account session) (SessionRecord.revoked now reason)

/-- `revoke_by_token_hash` -/
def revokeByTokenHash (account : Uuid) (tokenHash : Bytea) (reason : String) :
    Except RepositoryError (Database × List SessionRecord) :=
  db.updateSessions (selectsTokenHash account tokenHash) (SessionRecord.revoked now reason)

/-- `revoke_for_device` -/
def revokeForDevice (account device : Uuid) (reason : String) :
    Except RepositoryError (Database × List SessionRecord) :=
  db.updateSessions (selectsDevice account device) (SessionRecord.revoked now reason)

/-- `revoke_for_account` -/
def revokeForAccount (account : Uuid) (reason : String) :
    Except RepositoryError (Database × List SessionRecord) :=
  db.updateSessions (selectsAccount account) (SessionRecord.revoked now reason)

/-- A call, with what it returns. -/
def perform : SessionOperation → Except RepositoryError (Database × SessionResponse)
  | .create account device tokenHash csrfHash epoch idleExpiresAt absoluteExpiresAt id =>
    (fun (db, record) => (db, .session (some record))) <$>
      create db now account device tokenHash csrfHash epoch idleExpiresAt absoluteExpiresAt id
  | .touchLastSeen account session => first <$> touchLastSeen db now account session
  | .replaceCsrfHash account session csrfHash =>
    first <$> replaceCsrfHash db now account session csrfHash
  | .revoke account session reason => first <$> revoke db now account session reason
  | .revokeByTokenHash account tokenHash reason =>
    first <$> revokeByTokenHash db now account tokenHash reason
  | .revokeForDevice account device reason =>
    counted <$> revokeForDevice db now account device reason
  | .revokeForAccount account reason => counted <$> revokeForAccount db now account reason
where
  first (result : Database × List SessionRecord) : Database × SessionResponse :=
    (result.1, .session result.2.head?)
  counted (result : Database × List SessionRecord) : Database × SessionResponse :=
    (result.1, .count result.2.length)

end SessionRepository

end SelfRelay.Backend
