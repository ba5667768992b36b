import Mathlib.Data.Int.Notation
import SelfRelay.Lib.Table

/-!
# The private schema

The tables of the control plane that the transfer, session and device repositories write, with the
`CHECK` constraints of the migrations.  A column of enumerated text is an inductive type, so its
list check holds by construction.  A `CHECK` passes when it is true or `NULL`.
-/

namespace SelfRelay.Backend

/-! ## Values -/

/-- A `uuid`. -/
structure Uuid where
  value : BitVec 128
  deriving DecidableEq, Repr

/-- A `timestamptz`, in microseconds. -/
abbrev Timestamp := ℕ

/-- The contents of a `bytea`. -/
abbrev Bytea := List UInt8

/-! ## Accounts -/

/-- A row of `private.app_users`, as far as the repositories read it. -/
structure AppUser where
  id : Uuid
  deviceEpoch : ℤ
  deletedAt : Option Timestamp
  deriving DecidableEq, Repr

/-! ## Devices -/

inductive DeviceStatus where
  | active
  | inactive
  | revoked
  deriving DecidableEq, Repr

/-- A row of `private.devices`. -/
structure DeviceRecord where
  id : Uuid
  userId : Uuid
  epoch : ℤ
  label : String
  signingPublicKeySpki : Bytea
  fingerprint : Bytea
  status : DeviceStatus
  createdAt : Timestamp
  lastSeenAt : Timestamp
  revokedAt : Option Timestamp
  linkedByDeviceId : Option Uuid
  deriving DecidableEq, Repr

/-- The constraints of `private.devices` after the last migration. -/
def DeviceRecord.check (d : DeviceRecord) : Bool :=
  (1 ≤ d.label.length && d.label.length ≤ 100) &&
  (1 ≤ d.signingPublicKeySpki.length && d.signingPublicKeySpki.length ≤ 1024) &&
  d.fingerprint.length = 32 &&
  0 ≤ d.epoch &&
  (((d.status = .active || d.status = .inactive) && d.revokedAt.isNone) ||
    (d.status = .revoked && d.revokedAt.isSome)) &&
  d.createdAt ≤ d.lastSeenAt &&
  d.linkedByDeviceId ≠ some d.id

/-! ## Sessions -/

/-- A row of `private.app_sessions`. -/
structure SessionRecord where
  id : Uuid
  userId : Uuid
  deviceId : Uuid
  tokenHash : Bytea
  csrfHash : Bytea
  epoch : ℤ
  createdAt : Timestamp
  lastSeenAt : Timestamp
  idleExpiresAt : Timestamp
  absoluteExpiresAt : Timestamp
  revokedAt : Option Timestamp
  revocationReason : Option String
  deriving DecidableEq, Repr

/-- The reasons that `app_sessions_revocation_check` lists. -/
def revocationReasons : List String :=
  ["logout", "revoked", "expired", "recovery", "device_revoked", "account_deleted", "rotation",
    "security"]

/-- The constraints of `private.app_sessions`.  With a `NULL` reason the last one is `NULL` on a
revoked row, and passes. -/
def SessionRecord.check (s : SessionRecord) : Bool :=
  s.tokenHash.length = 32 &&
  s.csrfHash.length = 32 &&
  0 ≤ s.epoch &&
  s.createdAt ≤ s.lastSeenAt &&
  s.createdAt < s.idleExpiresAt &&
  s.idleExpiresAt ≤ s.absoluteExpiresAt &&
  ((s.revokedAt.isNone && s.revocationReason.isNone) ||
    (s.revokedAt.isSome && s.revocationReason.all revocationReasons.contains))

/-! ## Transfer requests -/

inductive TransferStatus where
  | offered
  | accepted
  | negotiating
  | connected
  | transferring
  | completed
  | rejected
  | expired
  | cancelled
  | failed
  deriving DecidableEq, Repr

/-- A row of `private.transfer_requests`. -/
structure TransferRequestRecord where
  id : Uuid
  userId : Uuid
  senderDeviceId : Uuid
  recipientDeviceId : Uuid
  protocolVersion : ℤ
  status : TransferStatus
  createdAt : Timestamp
  expiresAt : Timestamp
  acceptedAt : Option Timestamp
  completedAt : Option Timestamp
  failureCode : Option String
  relayUsed : Bool
  deriving DecidableEq, Repr

/-- The constraints of `private.transfer_requests`. -/
def TransferRequestRecord.check (t : TransferRequestRecord) : Bool :=
  t.senderDeviceId ≠ t.recipientDeviceId &&
  (1 ≤ t.protocolVersion && t.protocolVersion ≤ 32767) &&
  t.createdAt < t.expiresAt &&
  t.acceptedAt.all (t.createdAt ≤ ·) &&
  t.completedAt.all (t.acceptedAt.getD t.createdAt ≤ ·) &&
  (decide (t.status = .completed) == t.completedAt.isSome) &&
  ((t.status = .failed && t.failureCode.any fun code => 1 ≤ code.length && code.length ≤ 64) ||
    (t.status ≠ .failed && t.failureCode.isNone)) &&
  (t.status = .offered || t.status = .rejected || t.status = .expired || t.acceptedAt.isSome)

/-! ## The database -/

structure Database where
  users : List AppUser
  devices : List DeviceRecord
  sessions : List SessionRecord
  transfers : List TransferRequestRecord

/-- Why a repository call raised. -/
inductive RepositoryError where
  | rejected (violation : Table.Violation)
  /-- `required_row`: the database did not return the requested record. -/
  | noRow
  /-- revoked devices cannot be reactivated -/
  | revokedDevice
  deriving DecidableEq, Repr

namespace Database

/-- The account exists and is not deleted. -/
def accountExists (db : Database) (account : Uuid) : Bool :=
  db.users.any fun user => user.id = account && user.deletedAt.isNone

/-- A device of the account that is active in the account's current epoch. -/
def deviceActive (db : Database) (account device : Uuid) : Bool :=
  db.devices.any fun d => db.users.any fun user =>
    user.id = d.userId && d.id = device && d.userId = account && d.status = .active &&
      d.epoch = user.deviceEpoch && user.deletedAt.isNone

end Database

end SelfRelay.Backend
