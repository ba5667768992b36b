import SelfRelay.Backend.LinkingOtpQuery
import SelfRelay.Backend.RateLimits
import SelfRelay.Backend.TransferService
import SelfRelay.Backend.WebSocketTickets
import SelfRelay.Lib.Batches

/-!
# `ExpiryCleanupRepository`

`cleanup_expired` deletes one batch of old rows from each of seven tables, in one transaction.  The
ids of the rows that the queries pick are an argument, since the order of rows of one age is not
determined.
-/

namespace SelfRelay.Backend

/-- A row of `private.security_events`, as far as the cleanup reads it. -/
structure SecurityEventRecord where
  id : Uuid
  expiresAt : Timestamp
  deriving DecidableEq, Repr

/-- The private tables. -/
structure PrivateTables where
  auth : AuthDatabase
  tickets : WebSocketTickets
  events : Dict Uuid SecurityEventRecord
  buckets : RateLimitTable

/-- `INTERVAL '7 days'` -/
def sevenDays : Timestamp := 7 * 24 * 60 * 60 * 1000000

/-- `MAX_CLEANUP_BATCH_SIZE` -/
def maxCleanupBatchSize : ℤ := 1000

/-- The keys of the rows that the queries pick. -/
structure CleanupPicks where
  sessions : List Uuid := []
  challenges : List Uuid := []
  otps : List Uuid := []
  transfers : List Uuid := []
  tickets : List Uuid := []
  events : List Uuid := []
  buckets : List BucketKey := []

namespace ExpiryCleanupRepository

/-! ## The `WHERE` and `ORDER BY` clauses -/

section Clauses

variable (now : Timestamp)

def oldSession (s : SessionRecord) : Bool :=
  s.revokedAt.any (fun revokedAt => revokedAt + sevenDays ≤ now) ||
    (s.revokedAt.isNone && min s.idleExpiresAt s.absoluteExpiresAt + sevenDays ≤ now)

def sessionAge (s : SessionRecord) : Timestamp := s.revokedAt.getD s.absoluteExpiresAt

def oldChallenge (challenge : DeviceChallengeRecord) : Bool :=
  challenge.consumedAt.isSome || challenge.expiresAt ≤ now

def challengeAge (challenge : DeviceChallengeRecord) : Timestamp :=
  challenge.consumedAt.getD challenge.expiresAt

def oldOtp (otp : DeviceLinkingOtpRecord) : Bool :=
  otp.status = .consumed || otp.status = .expired || otp.expiresAt ≤ now

def otpAge (otp : DeviceLinkingOtpRecord) : Timestamp := otp.consumedAt.getD otp.expiresAt

def transferAge (t : TransferRequestRecord) : Timestamp := t.completedAt.getD t.createdAt

def oldTransfer (t : TransferRequestRecord) : Bool :=
  [TransferStatus.completed, .rejected, .expired, .cancelled, .failed].contains t.status &&
    transferAge t + thirtyDays ≤ now

def oldTicket (ticket : WebSocketTicketRecord) : Bool :=
  ticket.consumedAt.isSome || ticket.expiresAt ≤ now

def ticketAge (ticket : WebSocketTicketRecord) : Timestamp :=
  ticket.consumedAt.getD ticket.expiresAt

def oldEvent (event : SecurityEventRecord) : Bool := event.expiresAt ≤ now

def oldBucket (bucket : RateLimitBucket) : Bool := bucket.windowExpiresAt ≤ now

end Clauses

/-! ## `cleanup_expired` -/

/-- Deleting a session deletes its tickets: `websocket_tickets_session_fk`
is `on delete cascade`. -/
def cascade (deleted : List Uuid) (sessions : List SessionRecord)
    (tickets : Dict Uuid WebSocketTicketRecord) : Dict Uuid WebSocketTicketRecord :=
  tickets.keep fun _ ticket => !(sessions.any fun s => s.id = ticket.sessionId && s.id ∈ deleted)

/-- The transaction, with the numbers of the rows that it deletes. -/
def deleteOld (db : PrivateTables) (now : Timestamp) (limit : ℕ) (picks : CleanupPicks) :
    Option (PrivateTables × List (String × ℕ)) := do
  let (sessions, sessionCount) ← Table.deleteBatch SessionRecord.id (oldSession now)
    sessionAge limit
    picks.sessions db.auth.base.sessions
  let records := cascade picks.sessions db.auth.base.sessions db.tickets.records
  let (challenges, challengeCount) ← db.auth.challenges.deleteBatch (oldChallenge now) challengeAge
    limit picks.challenges
  let (otps, otpCount) ← db.auth.otps.deleteBatch (oldOtp now) otpAge limit picks.otps
  let (transfers, transferCount) ← Table.deleteBatch TransferRequestRecord.id (oldTransfer now)
    transferAge limit picks.transfers db.auth.base.transfers
  let (records, ticketCount) ← records.deleteBatch (oldTicket now) ticketAge limit picks.tickets
  let (events, eventCount) ← db.events.deleteBatch (oldEvent now)
    SecurityEventRecord.expiresAt limit
    picks.events
  let (buckets, bucketCount) ← db.buckets.deleteBatch (oldBucket now)
    RateLimitBucket.windowExpiresAt
    limit picks.buckets
  return (
    { auth := { base := { db.auth.base with sessions, transfers }, otps, challenges }
      tickets := { db.tickets with records }
      events
      buckets },
    [("app_sessions", sessionCount), ("device_challenges", challengeCount),
      ("device_linking_otps", otpCount), ("transfer_requests", transferCount),
      ("websocket_tickets", ticketCount), ("security_events", eventCount),
      ("rate_limit_buckets", bucketCount)])

/-- `cleanup_expired`.  The result is `none` where the queries can not have picked the rows. -/
def cleanupExpired (db : PrivateTables) (now : Timestamp) (batchSize : ℤ) (picks : CleanupPicks) :
    Except ValueError (Option (PrivateTables × List (String × ℕ))) :=
  if 0 < batchSize && batchSize ≤ maxCleanupBatchSize then
    .ok (deleteOld db now batchSize.toNat picks)
  else .error ⟨"batch_size must be between 1 and 1000"⟩

/-- The seven deletions of a transaction. -/
theorem deleteOld_some {db db' : PrivateTables} {now : Timestamp} {limit : ℕ} {picks : CleanupPicks}
    {counts : List (String × ℕ)} (h : deleteOld db now limit picks = some (db', counts)) :
    ∃ sessions challenges otps transfers tickets buckets,
      Table.deleteBatch SessionRecord.id (oldSession now) sessionAge limit picks.sessions
        db.auth.base.sessions = some (db'.auth.base.sessions, sessions) ∧
      db.auth.challenges.deleteBatch (oldChallenge now) challengeAge limit picks.challenges =
        some (db'.auth.challenges, challenges) ∧
      db.auth.otps.deleteBatch (oldOtp now) otpAge limit picks.otps = some (db'.auth.otps, otps) ∧
      Table.deleteBatch TransferRequestRecord.id (oldTransfer now) transferAge limit picks.transfers
        db.auth.base.transfers = some (db'.auth.base.transfers, transfers) ∧
      (cascade picks.sessions db.auth.base.sessions db.tickets.records).deleteBatch (oldTicket now)
        ticketAge limit picks.tickets = some (db'.tickets.records, tickets) ∧
      db.buckets.deleteBatch (oldBucket now) RateLimitBucket.windowExpiresAt limit picks.buckets =
        some (db'.buckets, buckets) ∧
      db'.auth.base.users = db.auth.base.users ∧ db'.auth.base.devices = db.auth.base.devices := by
  simp only [deleteOld, Option.bind_eq_bind, Option.bind_eq_some_iff, Prod.exists, Option.pure_def,
    Option.some.injEq, Prod.mk.injEq] at h
  obtain ⟨sessions, n₀, hsessions, challenges, n₁, hchallenges, otps, n₂, hotps, transfers, n₃,
    htransfers, records, n₄, htickets, events, n₅, hevents, buckets, n₆, hbuckets, rfl, -⟩ := h
  exact ⟨n₀, n₁, n₂, n₃, n₄, n₆, hsessions, hchallenges, hotps, htransfers, htickets,
    hbuckets, rfl, rfl⟩

end ExpiryCleanupRepository

end SelfRelay.Backend
