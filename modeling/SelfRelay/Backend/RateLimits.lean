import SelfRelay.Backend.Schema
import SelfRelay.Lib.Dict

/-!
# The two rate limiters

`PersistentRateLimiter` keeps its buckets in `private.rate_limit_buckets`, `RateLimiter` in a
dictionary.  Both read all buckets of a call before they write one.  What a call leaves in a bucket
is said once for each of them (`get_consumed`, `get_recorded`): the last request of the call that
names the bucket decides it, from what the bucket held before.

A negative limit or window is rejected as 0 is, so both are natural numbers.  `request_count`, an
`integer` of the table, is one too: it is never written above the limit of a request, and the limits
of the callers are far below 2 ^ 31.
-/

namespace SelfRelay.Backend

/-- A `ValueError` with its message. -/
structure ValueError where
  message : String
  deriving DecidableEq, Repr

/-- The primary key of `private.rate_limit_buckets`: scope and fingerprint. -/
abbrev BucketKey := String × Bytea

/-- The other columns of a row. -/
structure RateLimitBucket where
  windowStartedAt : Timestamp
  windowExpiresAt : Timestamp
  requestCount : ℕ
  deriving DecidableEq, Repr

abbrev RateLimitTable := Dict BucketKey RateLimitBucket

/-- One bucket that a call consumes. -/
structure BucketRequest where
  bucket : BucketKey
  limit : ℕ
  window : Timestamp
  deriving DecidableEq, Repr

/-! ## `RateLimitBucketRepository.consume_many` -/

/-- The window of a bucket has not expired, and its limit is reached. -/
def exhausted (now : Timestamp) (limit : ℕ) (row : Option RateLimitBucket) : Bool :=
  row.any fun row => now < row.windowExpiresAt && limit ≤ row.requestCount

/-- There is no window, or it has expired. -/
def opensWindow (now : Timestamp) (row : Option RateLimitBucket) : Bool :=
  row.all fun row => row.windowExpiresAt ≤ now

namespace RateLimitBucketRepository

/-- The checks of a request. -/
def validateRequest (request : BucketRequest) : Except ValueError Unit :=
  if !(1 ≤ request.bucket.1.length && request.bucket.1.length ≤ 64) then
    .error ⟨"rate-limit scopes must be between 1 and 64 characters"⟩
  else if request.bucket.2.length ≠ 32 then
    .error ⟨"rate-limit bucket keys must be SHA-256 digests"⟩
  else if request.limit = 0 || request.window = 0 then
    .error ⟨"rate-limit limits and windows must be valid"⟩
  else .ok ()

/-- The first loop: what the buckets hold, unless one of them is exhausted. -/
def selectBuckets (now : Timestamp) (table : RateLimitTable) :
    List BucketRequest → Option (List (BucketRequest × Option RateLimitBucket))
  | [] => some []
  | request :: requests =>
    let row := table.get request.bucket
    if exhausted now request.limit row then none
    else (selectBuckets now table requests).map ((request, row) :: ·)

/-- The second loop: the `INSERT … ON CONFLICT DO UPDATE` of a new window, or the `UPDATE` of the
count that was read. -/
def writeBucket (now : Timestamp) (table : RateLimitTable)
    (state : BucketRequest × Option RateLimitBucket) : RateLimitTable :=
  if opensWindow now state.2 then
    table.set state.1.bucket ⟨now, now + state.1.window, 1⟩
  else
    match table.get state.1.bucket with
    | none => table
    | some row =>
      table.set state.1.bucket
        { row with requestCount := (state.2.map (·.requestCount)).getD 0 + 1 }

/-- `consume_many`, as one transaction. -/
def consumeMany (table : RateLimitTable) (requests : List BucketRequest) (now : Timestamp) :
    Except ValueError Bool × RateLimitTable :=
  if requests.isEmpty then (.error ⟨"at least one rate-limit bucket is required"⟩, table)
  else
    match requests.forM validateRequest with
    | .error e => (.error e, table)
    | .ok () =>
      match selectBuckets now table requests with
      | none => (.ok false, table)
      | some states => (.ok true, states.foldl (writeBucket now) table)

/-! ### The row after an accepted request -/

variable {now : Timestamp}

/-- The row after a request that was accepted. -/
def consumed (now window : Timestamp) (row : Option RateLimitBucket) : RateLimitBucket :=
  match row with
  | none => ⟨now, now + window, 1⟩
  | some row =>
    if row.windowExpiresAt ≤ now then ⟨now, now + window, 1⟩
    else { row with requestCount := row.requestCount + 1 }

theorem consumed_of_opens {window : Timestamp} {row : Option RateLimitBucket}
    (h : opensWindow now row = true) : consumed now window row = ⟨now, now + window, 1⟩ := by
  cases row with
  | none => rfl
  | some row =>
    rw [consumed, if_pos]
    simpa [opensWindow] using h

theorem consumed_of_not_opens (window : Timestamp) {row : Option RateLimitBucket}
    (h : opensWindow now row = false) :
    ∃ row', row = some row' ∧ now < row'.windowExpiresAt ∧
      consumed now window row = { row' with requestCount := row'.requestCount + 1 } := by
  cases row with
  | none => cases h
  | some row =>
    have hlt : now < row.windowExpiresAt := by simpa [opensWindow] using h
    refine ⟨row, rfl, hlt, ?_⟩
    rw [consumed, if_neg (Nat.not_le.2 hlt)]

end RateLimitBucketRepository

/-! ## The limiters -/

structure LimitRequest where
  scope : String
  value : String
  limit : ℕ
  window : Timestamp
  deriving DecidableEq, Repr

structure LimitCall where
  requests : List LimitRequest
  now : Timestamp
  deriving DecidableEq, Repr

/-- The checks of `allow_many`, and the request with its fingerprint. -/
def encodeRequest (fingerprint : String → String → Bytea) (request : LimitRequest) :
    Except ValueError BucketRequest :=
  if request.scope.isEmpty || request.limit = 0 || request.window = 0 then
    .error ⟨"rate-limit scope, limit, and window must be valid"⟩
  else .ok ⟨(request.scope, fingerprint request.scope request.value), request.limit, request.window⟩

/-- `PersistentRateLimiter.allow_many` -/
def PersistentRateLimiter.allowMany (fingerprint : String → String → Bytea) (table : RateLimitTable)
    (call : LimitCall) : Except ValueError Bool × RateLimitTable :=
  if call.requests.isEmpty then (.error ⟨"at least one rate-limit bucket is required"⟩, table)
  else
    match call.requests.mapM (encodeRequest fingerprint) with
    | .error e => (.error e, table)
    | .ok encoded => RateLimitBucketRepository.consumeMany table encoded call.now

namespace RateLimiter

/-- `_buckets`: when the window expires, and the count. -/
abbrev Buckets := Dict BucketKey (Timestamp × ℕ)

/-- What a bucket counts: an expired window starts again. -/
def current (now window : Timestamp) (entry : Option (Timestamp × ℕ)) : Timestamp × ℕ :=
  let (expiresAt, requestCount) := entry.getD (now, 0)
  if expiresAt ≤ now then (now + window, 0) else (expiresAt, requestCount)

/-- The first loop of `allow_many`. -/
def readBuckets (now : Timestamp) (buckets : Buckets) :
    List BucketRequest → Option (List (BucketKey × Timestamp × ℕ))
  | [] => some []
  | request :: requests =>
    let state := current now request.window (buckets.get request.bucket)
    if request.limit ≤ state.2 then none
    else (readBuckets now buckets requests).map ((request.bucket, state) :: ·)

/-- The second loop of `allow_many`. -/
def recordBucket (buckets : Buckets) (state : BucketKey × Timestamp × ℕ) : Buckets :=
  buckets.set state.1 (state.2.1, state.2.2 + 1)

/-- `RateLimiter.allow_many` -/
def allowMany (fingerprint : String → String → Bytea) (buckets : Buckets) (call : LimitCall) :
    Except ValueError Bool × Buckets :=
  if call.requests.isEmpty then (.error ⟨"at least one rate-limit bucket is required"⟩, buckets)
  else
    match call.requests.mapM (encodeRequest fingerprint) with
    | .error e => (.error e, buckets)
    | .ok encoded =>
      match readBuckets call.now buckets encoded with
      | none => (.ok false, buckets)
      | some states => (.ok true, states.foldl recordBucket buckets)

end RateLimiter

end SelfRelay.Backend
