import SelfRelay.Backend.Cleanup
import SelfRelay.Lib.Run

/-!
# Calls of the repositories

One database, one clock, and the calls of all repositories that write the tables which
`cleanup_expired` deletes from, in any order.  The answers of the calls that the application relies
on are kept in a log. Account creation stands for one that is not rejected, and the inserts into
`private.security_events` are left out: no call here reads that table.
-/

namespace SelfRelay.Backend

/-! ## The other calls of `DeviceChallengeRepository` -/

/-- The constraints of `private.device_challenges`. -/
def DeviceChallengeRecord.check (challenge : DeviceChallengeRecord) : Bool :=
  challenge.nonceHash.length = 32 &&
  (1 ≤ challenge.origin.length && challenge.origin.length ≤ 2048) &&
  challenge.createdAt < challenge.expiresAt &&
  challenge.consumedAt.all (challenge.createdAt ≤ ·) &&
  challenge.attemptCount ≤ 10

/-- An insert into `private.device_challenges`, where `nonce_hash` is unique as well. -/
def AuthDatabase.insertChallenge (db : AuthDatabase) (challenge : DeviceChallengeRecord) :
    Except RepositoryError AuthDatabase :=
  if challenge.check = false then .error (.rejected .check)
  else if (db.challenges.get challenge.id).isSome ||
      db.challenges.values.any fun other => other.nonceHash = challenge.nonceHash then
    .error (.rejected .unique)
  else .ok { db with challenges := db.challenges.set challenge.id challenge }

namespace DeviceChallengeRepository

variable (db : AuthDatabase) (now : Timestamp)

/-- The row that `create` inserts. -/
def issued (device : Uuid) (nonceHash : Bytea) (origin : String) (expiresAt : Timestamp)
    (id : Uuid) :
    DeviceChallengeRecord where
  id := id
  deviceId := device
  nonceHash := nonceHash
  origin := origin
  createdAt := now
  expiresAt := expiresAt
  consumedAt := none
  attemptCount := 0

/-- `create` -/
def create (account device : Uuid) (nonceHash : Bytea) (origin : String) (expiresAt : Timestamp)
    (id : Uuid) : Except RepositoryError (AuthDatabase × DeviceChallengeRecord) :=
  if db.base.deviceActive account device then do
    let record := issued now device nonceHash origin expiresAt id
    let db ← db.insertChallenge record
    return (db, record)
  else .error .noRow

/-- `consume_by_nonce_hash`.  The nonce hashes of the rows are unique. -/
def consumeByNonceHash (account : Uuid) (nonceHash : Bytea) :
    Except RepositoryError (Option DeviceChallengeRecord) × AuthDatabase :=
  match db.challenges.entries.find? fun e => e.2.nonceHash = nonceHash && e.2.consumedAt.isNone &&
      now < e.2.expiresAt && db.base.deviceActive account e.2.deviceId with
  | none => (.ok none, db)
  | some e => consume db now account e.1

end DeviceChallengeRepository

/-! ## The other calls of `WebSocketTicketRepository` -/

namespace WebSocketTicketRepository

variable (tickets : WebSocketTickets) (db : Database) (now : Timestamp)

/-- The ticket can be consumed, and its session is one of the account. -/
def ownedBy (account : Uuid) (ticket : WebSocketTicketRecord) : Bool :=
  ticket.consumedAt.isNone && now < ticket.expiresAt &&
    db.sessions.any fun s => s.id = ticket.sessionId && s.userId = account && s.usable db now

/-- The update of the row that a `WHERE` clause selects. -/
def consumeRow (selected : WebSocketTicketRecord → Bool) :
    Except RepositoryError (WebSocketTickets × Option WebSocketTicketRecord) :=
  match tickets.records.values.find? selected with
  | none => .ok (tickets, none)
  | some ticket =>
    if (ticket.consumed now).check = false then .error (.rejected .check)
    else
      .ok ({ tickets with records := tickets.records.set ticket.id (ticket.consumed now) },
        some (ticket.consumed now))

/-- `consume` -/
def consume (account : Uuid) (tokenHash : Bytea) :
    Except RepositoryError (WebSocketTickets × Option WebSocketTicketRecord) :=
  consumeRow tickets now fun ticket => ticket.tokenHash = tokenHash && ownedBy db now account ticket

/-- `consume_by_id` -/
def consumeById (account id : Uuid) :
    Except RepositoryError (WebSocketTickets × Option WebSocketTicketRecord) :=
  consumeRow tickets now fun ticket => ticket.id = id && ownedBy db now account ticket

end WebSocketTicketRepository

/-! ## The other calls of `RateLimitBucketRepository` -/

/-- The constraints of `private.rate_limit_buckets`. -/
def RateLimitBucket.check (bucket : BucketKey) (row : RateLimitBucket) : Bool :=
  (1 ≤ bucket.1.length && bucket.1.length ≤ 64) && bucket.2.length = 32 &&
    row.windowStartedAt < row.windowExpiresAt

namespace RateLimitBucketRepository

variable (table : RateLimitTable) (now : Timestamp)

/-- `increment`: the row to be inserted is checked first, and then the row that is written. -/
def increment (bucket : BucketKey) (windowExpiresAt : Timestamp) :
    Except RepositoryError RateLimitTable :=
  let opened : RateLimitBucket := ⟨now, windowExpiresAt, 1⟩
  if opened.check bucket = false then .error (.rejected .check)
  else
    match table.get bucket with
    | none => .ok (table.set bucket opened)
    | some row =>
      let row :=
        if row.windowExpiresAt ≤ now then opened else { row with
          requestCount := row.requestCount + 1 }
      if row.check bucket = false then .error (.rejected .check) else .ok (table.set bucket row)

/-- `delete_expired`, with the keys of the rows that the query picks. -/
def deleteExpired (limit : ℤ) (keys : List BucketKey) :
    Except ValueError (Option (RateLimitTable × ℕ)) :=
  if limit ≤ 0 then .error ⟨"limit must be positive"⟩
  else
    .ok (table.deleteBatch (fun row => row.windowExpiresAt ≤ now) RateLimitBucket.windowExpiresAt
      limit.toNat keys)

end RateLimitBucketRepository

/-! ## Calls -/

/-- A call of a repository, or of `_ensure_capacity`.  An `id` is what
`gen_random_uuid()` returns. -/
inductive RepositoryCall where
  | findByTokenHash (tokenHash : Bytea)
  | findCurrentById (session : Uuid)
  | session (op : SessionOperation)
  | device (op : DeviceOperation)
  | createAccount (id : Uuid)
  | getActiveByHash (otpHash : Bytea)
  | linkingOtp (op : LinkingOtpOperation)
  | createChallenge (account device : Uuid) (nonceHash : Bytea) (origin : String)
    (expiresAt : Timestamp) (id : Uuid)
  | consumeChallenge (account challenge : Uuid)
  | consumeChallengeByNonceHash (account : Uuid) (nonceHash : Bytea)
  | failChallenge (account challenge : Uuid)
  | createTicket (account session : Uuid) (tokenHash : Bytea) (expiresAt : Timestamp) (id : Uuid)
  | consumeForSocket (tokenHash : Bytea)
  | consumeTicket (account : Uuid) (tokenHash : Bytea)
  | consumeTicketById (account ticket : Uuid)
  | transfer (op : TransferOperation)
  | ensureCapacity (account sender recipient : Uuid)
  | consumeMany (requests : List BucketRequest)
  | increment (bucket : BucketKey) (windowExpiresAt : Timestamp)
  | deleteBucket (bucket : BucketKey)

/-- What a call returned or raised. -/
inductive Answer where
  | session (result : Except RepositoryError (Option SessionRecord))
  | challenge (result : Except RepositoryError (Option DeviceChallengeRecord))
  | ticket (result : Except RepositoryError (Option WebSocketTicketRecord))
  | otp (result : Except Sql.NameError (Option DeviceLinkingOtpRecord))
  | device (result : Except RepositoryError (Option DeviceRecord))
  | allowed (result : Except ValueError Bool)
  | fits (result : Bool)
  deriving DecidableEq

/-- Of the session operations, `touch_last_seen` is answered. -/
def SessionOperation.answer (response : Except RepositoryError SessionResponse) :
    SessionOperation → Option Answer
  | .touchLastSeen .. =>
    match response with
    | .error e => some (.session (.error e))
    | .ok (.session record) => some (.session (.ok record))
    | .ok (.count _) => none
  | _ => none

/-- Of the operations on linking codes, `consume_and_register` is answered. -/
def LinkingOtpOperation.answer (db : AuthDatabase) (now : Timestamp) :
    LinkingOtpOperation → Option Answer
  | .consumeAndRegister otp account issuingDevice epoch device =>
    some (.device
      (DeviceLinkingOtpRepository.consumeAndRegister db now otp account issuingDevice epoch
      device.id device.label device.signingPublicKeySpki device.fingerprint).1)
  | _ => none

namespace PrivateTables

variable (db : PrivateTables) (now : Timestamp)

def withBase (base : Database) : PrivateTables := { db with auth := { db.auth with base } }

/-- The tables after an update of a ticket, and what it returned. -/
def answerTicket : Except RepositoryError (WebSocketTickets × Option WebSocketTicketRecord) →
    PrivateTables × Option Answer
  | .error e => (db, some (.ticket (.error e)))
  | .ok (tickets, ticket) => ({ db with tickets }, some (.ticket (.ok ticket)))

/-- The tables after a call, and its answer. -/
def perform : RepositoryCall → PrivateTables × Option Answer
  | .findByTokenHash tokenHash =>
    (db, some (.session (.ok (SessionRepository.findByTokenHash db.auth.base now tokenHash))))
  | .findCurrentById session =>
    (db, some (.session (.ok (SessionRepository.findCurrentById db.auth.base now session))))
  | .session op =>
    match SessionRepository.perform db.auth.base now op with
    | .error e => (db, op.answer (.error e))
    | .ok (base, response) => (db.withBase base, op.answer (.ok response))
  | .device op =>
    match DeviceRepository.perform db.auth.base now op with
    | .error _ => (db, none)
    | .ok (base, _) => (db.withBase base, none)
  | .createAccount id =>
    (db.withBase { db.auth.base with users := db.auth.base.users ++ [⟨id, 0, none⟩] }, none)
  | .getActiveByHash otpHash =>
    (db, some (.otp (DeviceLinkingOtpRepository.fetchActiveByHash db.auth now otpHash)))
  | .linkingOtp op =>
    ({ db with auth := DeviceLinkingOtpRepository.perform db.auth now op }, op.answer db.auth now)
  | .createChallenge account device nonceHash origin expiresAt id =>
    match DeviceChallengeRepository.create db.auth now account device nonceHash origin
        expiresAt id with
    | .error _ => (db, none)
    | .ok (auth, _) => ({ db with auth }, none)
  | .consumeChallenge account challenge =>
    let (result, auth) := DeviceChallengeRepository.consume db.auth now account challenge
    ({ db with auth }, some (.challenge result))
  | .consumeChallengeByNonceHash account nonceHash =>
    let (result, auth) := DeviceChallengeRepository.consumeByNonceHash db.auth now account nonceHash
    ({ db with auth }, some (.challenge result))
  | .failChallenge account challenge =>
    ({ db with auth := DeviceChallengeRepository.markFailed db.auth now account challenge }, none)
  | .createTicket account session tokenHash expiresAt id =>
    match WebSocketTicketRepository.create db.tickets db.auth.base now account session tokenHash
      expiresAt id with
    | .error _ => (db, none)
    | .ok (tickets, _) => ({ db with tickets }, none)
  | .consumeForSocket tokenHash =>
    db.answerTicket (WebSocketTicketRepository.consumeForSocket db.tickets db.auth.base
      now tokenHash)
  | .consumeTicket account tokenHash =>
    db.answerTicket
      (WebSocketTicketRepository.consume db.tickets db.auth.base now account tokenHash)
  | .consumeTicketById account ticket =>
    db.answerTicket (WebSocketTicketRepository.consumeById db.tickets db.auth.base now
      account ticket)
  | .transfer op => (db.withBase (TransferRequestRepository.perform db.auth.base now op).1, none)
  | .ensureCapacity account sender recipient =>
    (db, some (.fits (Backend.ensureCapacity
      (TransferRequestRepository.listForAccount db.auth.base account) sender recipient now)))
  | .consumeMany requests =>
    let (result, buckets) := RateLimitBucketRepository.consumeMany db.buckets requests now
    ({ db with buckets }, some (.allowed result))
  | .increment bucket windowExpiresAt =>
    match RateLimitBucketRepository.increment db.buckets now bucket windowExpiresAt with
    | .error _ => (db, none)
    | .ok buckets => ({ db with buckets }, none)
  | .deleteBucket bucket => ({ db with buckets := db.buckets.del bucket }, none)

end PrivateTables

/-! ## Runs -/

/-- The database, the clock of the application and of the database, and the answers so far. -/
structure ControlPlane where
  db : PrivateTables
  now : Timestamp
  answers : List Answer

inductive ControlPlaneEvent where
  | elapse (duration : Timestamp)
  | call (call : RepositoryCall)
  | cleanup (batchSize : ℤ)
  | deleteExpired (limit : ℤ)

namespace ControlPlane

open RateLimitBucketRepository ExpiryCleanupRepository

/-- The state after a call. -/
def called (s : ControlPlane) (call : RepositoryCall) : ControlPlane :=
  { s with
    db := (s.db.perform s.now call).1
    answers := s.answers ++ (s.db.perform s.now call).2.toList }

/-- One event leads from a state to another one. -/
inductive Performs : ControlPlane → ControlPlaneEvent → ControlPlane → Prop
  | elapse (s : ControlPlane) (duration : Timestamp) :
    Performs s (.elapse duration) { s with now := s.now + duration }
  | call (s : ControlPlane) (call : RepositoryCall) : Performs s (.call call) (s.called call)
  | cleanup {s : ControlPlane} {batchSize : ℤ} {picks : CleanupPicks} {db : PrivateTables}
    {counts : List (String × ℕ)} :
    cleanupExpired s.db s.now batchSize picks = .ok (some (db, counts)) →
    Performs s (.cleanup batchSize) { s with db }
  | cleanupRaises {s : ControlPlane} {batchSize : ℤ} {error : ValueError} :
    (∀ picks, cleanupExpired s.db s.now batchSize picks = .error error) →
    Performs s (.cleanup batchSize) s
  | deleteExpired {s : ControlPlane} {limit : ℤ} {keys : List BucketKey} {buckets : RateLimitTable}
    {count : ℕ} :
    RateLimitBucketRepository.deleteExpired s.db.buckets s.now limit keys =
      .ok (some (buckets, count)) →
    Performs s (.deleteExpired limit) { s with db := { s.db with buckets } }
  | deleteExpiredRaises {s : ControlPlane} {limit : ℤ} {error : ValueError} :
    (∀ keys, RateLimitBucketRepository.deleteExpired s.db.buckets s.now limit keys = .error error) →
    Performs s (.deleteExpired limit) s

end ControlPlane

end SelfRelay.Backend
