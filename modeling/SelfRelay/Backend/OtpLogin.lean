import Mathlib.Data.List.Infix
import Mathlib.Data.List.Nodup
import SelfRelay.Backend.RateLimits
import SelfRelay.Lib.Run

/-!
# `OtpBootstrapService`

The login by a one-time code that the provider mails: the normalized address, the two rate limits
of each call, the provider's answer, the account of the identity and the bootstrap token.  Calls run
concurrently; a step is what a call does from one await to the next.  What the limiter and the
provider answer is part of the event, so the service may have either limiter.  It has a
`RepositoryAccountStore`, whose statements take effect when they return.

`OtpLog` records the calls of the provider and the tokens.
-/

namespace SelfRelay.Backend

open StepSystem

/-! ## Addresses -/

/-- What `normalize_email` uses of Python's Unicode tables: NFKC,
`str.casefold` and `str.isspace`. -/
structure EmailTables where
  nfkc : List Char → List Char
  casefold : List Char → List Char
  isSpace : Char → Bool

/-- `str.strip` -/
def EmailTables.strip (t : EmailTables) (text : List Char) : List Char :=
  ((text.dropWhile t.isSpace).reverse.dropWhile t.isSpace).reverse

/-- The characters that no address may contain. -/
def unsupportedCharacters : List Char := "()<>[],;:\\\"".toList

/-- `normalize_email` -/
def normalizeEmail (t : EmailTables) (value : List Char) : Except ValueError (List Char) :=
  let normalized := t.casefold (t.strip (t.nfkc value))
  if !(3 ≤ normalized.length && normalized.length ≤ 320) then
    .error ⟨"email must be between 3 and 320 characters"⟩
  else if normalized.any fun c => t.isSpace c || c.toNat < 32 then
    .error ⟨"email must not contain whitespace or controls"⟩
  else if normalized.count '@' ≠ 1 then .error ⟨"email must contain one at-sign"⟩
  else
    let localPart := normalized.takeWhile (· ≠ '@')
    let domain := (normalized.dropWhile (· ≠ '@')).drop 1
    if localPart.isEmpty || domain.isEmpty || domain.head? = some '.' || domain.getLast? =
        some '.' then
      .error ⟨"email must contain a valid local part and domain"⟩
    else if ['.', '.'] <:+: localPart ∨ ['.', '.'] <:+: domain then
      .error ⟨"email must not contain empty labels"⟩
    else if '.' ∉ domain then .error ⟨"email domain must contain a dot"⟩
    else if normalized.any fun c => unsupportedCharacters.contains c then
      .error ⟨"email contains unsupported characters"⟩
    else .ok normalized

/-! ## Limits -/

/-- What a bucket is for: an address or a network. -/
inductive OtpAxis where
  | email
  | network
  deriving DecidableEq, Repr

/-- `OTP_WINDOW`: 10 minutes. -/
def otpWindow : Timestamp := 10 * 60 * 1000000

/-- The scopes of `_allow`, for `start_otp` and for `verify_otp`. -/
def otpScope (verify : Bool) : OtpAxis → String
  | .email => if verify then "otp:verify:email" else "otp:start:email"
  | .network => if verify then "otp:verify:network" else "otp:start:network"

/-- `OTP_START_EMAIL_LIMIT`, `OTP_START_NETWORK_LIMIT`, `OTP_VERIFY_EMAIL_LIMIT`,
`OTP_VERIFY_NETWORK_LIMIT` -/
def otpLimit (verify : Bool) : OtpAxis → ℕ
  | .email => if verify then 5 else 3
  | .network => if verify then 20 else 10

/-- A call of the provider. -/
structure OtpAttempt where
  verify : Bool
  email : List Char
  network : String
  time : Timestamp
  deriving DecidableEq, Repr

/-- The value of an attempt that a bucket is for. -/
def OtpAttempt.value (attempt : OtpAttempt) : OtpAxis → String
  | .email => String.ofList attempt.email
  | .network => attempt.network

def OtpAttempt.request (attempt : OtpAttempt) (axis : OtpAxis) : LimitRequest :=
  ⟨otpScope attempt.verify axis, attempt.value axis, otpLimit attempt.verify axis, otpWindow⟩

/-- What `_allow` asks the limiter. -/
def OtpAttempt.limitCall (attempt : OtpAttempt) : LimitCall :=
  ⟨[attempt.request .email, attempt.request .network], attempt.time⟩

/-- What `allow_many` raises: its checks, or a statement of the database. -/
inductive LimiterError where
  | value (error : ValueError)
  | postgres
  deriving DecidableEq, Repr

/-! ## State -/

/-- A row of `private.app_users`, with the identity that it is linked to. -/
structure AccountRow where
  id : Uuid
  supabaseUserId : Uuid
  emailNormalized : List Char
  deviceEpoch : ℤ
  deletedAt : Option Timestamp
  deriving DecidableEq, Repr

/-- The columns that no statement changes. -/
def AccountRow.key (row : AccountRow) : Uuid × Uuid × List Char :=
  (row.id, row.supabaseUserId, row.emailNormalized)

/-- The constraints of `private.app_users`: ids, identities and addresses are unique. -/
structure DistinctKeys (keys : List (Uuid × Uuid × List Char)) : Prop where
  ids : (keys.map fun key => key.1).Nodup
  identities : (keys.map fun key => key.2.1).Nodup
  emails : (keys.map fun key => key.2.2).Nodup

instance (keys : List (Uuid × Uuid × List Char)) : Decidable (DistinctKeys keys) :=
  decidable_of_iff ((keys.map fun key => key.1).Nodup ∧ (keys.map fun key => key.2.1).Nodup ∧
      (keys.map fun key => key.2.2).Nodup)
    ⟨fun h => ⟨h.1, h.2.1, h.2.2⟩, fun h => ⟨h.ids, h.identities, h.emails⟩⟩

structure AuthIdentity where
  userId : List Char
  email : List Char
  deriving DecidableEq, Repr

/-- `_BootstrapState`, under the hash of its token. -/
structure BootstrapEntry where
  bootstrapId : Uuid
  accountId : Uuid
  emailNormalized : List Char
  deviceEpoch : ℤ
  expiresAt : Timestamp
  deriving DecidableEq, Repr

/-- `BOOTSTRAP_LIFETIME`: 10 minutes. -/
def bootstrapLifetime : Timestamp := 10 * 60 * 1000000

/-- What a call raises. -/
inductive OtpError where
  | value (error : ValueError)
  | invalid
  | rateLimited
  | gatewayUnavailable
  /-- A statement of the database failed. -/
  | postgres
  deriving DecidableEq, Repr

/-- The error of a limiter goes through. -/
def LimiterError.toOtpError : LimiterError → OtpError
  | .value error => .value error
  | .postgres => .postgres

/-- What the provider raises. -/
inductive GatewayError where
  | invalidOtp
  | unavailable
  deriving DecidableEq, Repr

/-- An identity that the provider vouched for, in the call that asked for it. -/
structure Vouching where
  answer : AuthIdentity
  identity : Uuid
  email : List Char
  time : Timestamp
  deriving DecidableEq, Repr

/-- A call at its await, or what it returned. -/
inductive OtpCall where
  /-- `_allow` -/
  | limiting (attempt : OtpAttempt)
  | starting (email : List Char)
  | verifying (email : List Char)
  /-- `get_by_supabase_user_id`, `get_by_email` and `create` of `get_or_create`. -/
  | findingIdentity (vouching : Vouching)
  | findingEmail (vouching : Vouching)
  | creating (vouching : Vouching)
  | started (email : List Char)
  | issued (tokenHash : Bytea) (entry : BootstrapEntry)
  | raised (error : OtpError)
  deriving DecidableEq, Repr

/-- A bootstrap token that was consumed, and when. -/
structure Consumption where
  tokenHash : Bytea
  entry : BootstrapEntry
  time : Timestamp
  deriving DecidableEq, Repr

structure OtpLog where
  attempts : List OtpAttempt
  vouchings : List Vouching
  /-- The tokens that were issued, with the reason. -/
  issued : List (Bytea × BootstrapEntry × Vouching)
  consumed : List Consumption
  deriving DecidableEq, Repr

structure OtpService where
  clock : Timestamp
  users : List AccountRow
  states : Dict Bytea BootstrapEntry
  calls : List OtpCall
  log : OtpLog

/-- The parts of the environment that the service computes with: the tables, the HMAC and
`uuid.UUID`. -/
structure OtpRuntime where
  tables : EmailTables
  fingerprint : String → String → Bytea
  parseUuid : List Char → Option Uuid

/-- What a statement or a fresh token draws at random. -/
structure OtpDraws where
  accountId : Uuid
  bootstrapId : Uuid
  tokenHash : Bytea
  deriving DecidableEq, Repr

inductive OtpEvent where
  | elapse (duration : ℕ)
  | startOtp (email : List Char) (network : String)
  | verifyOtp (email otp : List Char) (network : String)
  /-- The limiter answers, or fails. -/
  | limited (call : ℕ) (answer : Except LimiterError Bool)
  | startReturned (call : ℕ) (sent : Bool)
  | verifyReturned (call : ℕ) (answer : Except GatewayError AuthIdentity)
  /-- The statement of a call returns, or fails. -/
  | queried (call : ℕ) (draws : OtpDraws)
  | queryFailed (call : ℕ)
  | consumeBootstrap (tokenHash : Bytea)
  /-- Other transactions insert into `private.app_users`, or change other columns. -/
  | commit (users : List AccountRow)

namespace OtpService

variable (r : OtpRuntime) (s : OtpService)

def addCall (call : OtpCall) : OtpService := { s with calls := s.calls ++ [call] }

def setCall (i : ℕ) (call : OtpCall) : OtpService := { s with calls := s.calls.set i call }

/-- `start_otp`, up to the call of the limiter. -/
def startOtp (email : List Char) (network : String) : OtpService :=
  match normalizeEmail r.tables email with
  | .error error => s.addCall (.raised (.value error))
  | .ok normalized => s.addCall (.limiting ⟨false, normalized, network, s.clock⟩)

/-- `verify_otp`, up to the call of the limiter. -/
def verifyOtp (email otp : List Char) (network : String) : OtpService :=
  match normalizeEmail r.tables email with
  | .error error => s.addCall (.raised (.value error))
  | .ok normalized =>
    let otp := r.tables.strip otp
    if !(1 ≤ otp.length && otp.length ≤ 64) then s.addCall (.raised .invalid)
    else s.addCall (.limiting ⟨true, normalized, network, s.clock⟩)

/-- From the limiter's answer to the call of the provider. -/
def limited (i : ℕ) (attempt : OtpAttempt) : Except LimiterError Bool → OtpService
  | .error error => s.setCall i (.raised error.toOtpError)
  | .ok false => s.setCall i (.raised .rateLimited)
  | .ok true =>
    setCall { s with log := { s.log with attempts := s.log.attempts ++ [attempt] } } i
      (if attempt.verify then .verifying attempt.email else .starting attempt.email)

/-- The checks of the provider's answer. -/
def acceptIdentity (email : List Char) (answer : AuthIdentity) : Option Uuid :=
  match r.parseUuid answer.userId, normalizeEmail r.tables answer.email with
  | some identity, .ok normalized => if normalized = email then some identity else none
  | _, _ => none

/-- `verify_otp`, from the provider's answer to the first statement of `get_or_create`. -/
def verifyReturned (i : ℕ) (email : List Char) : Except GatewayError AuthIdentity → OtpService
  | .error .invalidOtp => s.setCall i (.raised .invalid)
  | .error .unavailable => s.setCall i (.raised .gatewayUnavailable)
  | .ok answer =>
    match acceptIdentity r email answer with
    | none => s.setCall i (.raised .invalid)
    | some identity =>
      let vouching : Vouching := ⟨answer, identity, email, s.clock⟩
      setCall { s with log := { s.log with vouchings := s.log.vouchings ++ [vouching] } } i
        (.findingIdentity vouching)

/-- `AccountRepository.get_by_supabase_user_id` -/
def getBySupabaseUserId (identity : Uuid) : Option AccountRow :=
  s.users.find? fun row => row.supabaseUserId = identity && row.deletedAt.isNone

/-- `AccountRepository.get_by_email` -/
def getByEmail (email : List Char) : Option AccountRow :=
  s.users.find? fun row => row.emailNormalized = email && row.deletedAt.isNone

/-- `AccountRepository.create`: the constraints of the table decide. -/
def createAccount (identity : Uuid) (email : List Char) (id : Uuid) :
    Option (AccountRow × OtpService) :=
  let row : AccountRow := ⟨id, identity, email, 0, none⟩
  if id ∈ s.users.map (·.id) ∨ identity ∈ s.users.map (·.supabaseUserId) ∨
      email ∈ s.users.map (·.emailNormalized) ∨ ¬ (3 ≤ email.length ∧ email.length ≤ 320) then none
  else some (row, { s with users := s.users ++ [row] })

/-- `BootstrapStateStore.issue`, and `verify_otp` returns. -/
def issue (i : ℕ) (account : AccountRow) (vouching : Vouching) (draws : OtpDraws) : OtpService :=
  let entry : BootstrapEntry :=
    ⟨draws.bootstrapId, account.id, account.emailNormalized, account.deviceEpoch,
    vouching.time + bootstrapLifetime⟩
  setCall { s with
    states := s.states.set draws.tokenHash entry
    log := { s.log with issued := s.log.issued ++ [(draws.tokenHash, entry, vouching)] } } i
    (.issued draws.tokenHash entry)

/-- `get_or_create`, from one statement to the next. -/
def queried (i : ℕ) (draws : OtpDraws) : OtpCall → Option OtpService
  | .findingIdentity vouching =>
    some <| match s.getBySupabaseUserId vouching.identity with
    | some account =>
      if account.emailNormalized ≠ vouching.email then
        s.setCall i (.raised (.value ⟨"verified identity email does not match account"⟩))
      else s.issue i account vouching draws
    | none => s.setCall i (.findingEmail vouching)
  | .findingEmail vouching =>
    some <| match s.getByEmail vouching.email with
    | some account =>
      if account.supabaseUserId ≠ vouching.identity then
        s.setCall i (.raised (.value ⟨"email is linked to another identity"⟩))
      else s.issue i account vouching draws
    | none => s.setCall i (.creating vouching)
  | .creating vouching =>
    some <| match s.createAccount vouching.identity vouching.email draws.accountId with
    | some (account, s) => s.issue i account vouching draws
    | none => s.setCall i (.raised .postgres)
  | _ => none

/-- `BootstrapStateStore.peek` -/
def peekBootstrap (tokenHash : Bytea) : Option BootstrapEntry :=
  (s.states.get tokenHash).filter fun entry => s.clock < entry.expiresAt

/-- `BootstrapStateStore.consume` -/
def consumeBootstrap (tokenHash : Bytea) : OtpService :=
  { s with
    states := s.states.del tokenHash
    log := { s.log with
      consumed := s.log.consumed ++
        (s.peekBootstrap tokenHash).toList.map fun entry => ⟨tokenHash, entry, s.clock⟩ } }

def step : OtpEvent → Option OtpService
  | .elapse duration => some { s with clock := s.clock + duration }
  | .startOtp email network => some (s.startOtp r email network)
  | .verifyOtp email otp network => some (s.verifyOtp r email otp network)
  | .limited i answer =>
    match s.calls[i]? with
    | some (.limiting attempt) => some (s.limited i attempt answer)
    | _ => none
  | .startReturned i sent =>
    match s.calls[i]? with
    | some (.starting email) =>
      some (s.setCall i (if sent then .started email else .raised .gatewayUnavailable))
    | _ => none
  | .verifyReturned i answer =>
    match s.calls[i]? with
    | some (.verifying email) => some (s.verifyReturned r i email answer)
    | _ => none
  | .queried i draws => s.calls[i]?.bind fun call => s.queried i draws call
  | .queryFailed i =>
    match s.calls[i]? with
    | some (.findingIdentity _) | some (.findingEmail _) | some (.creating _) =>
      some (s.setCall i (.raised .postgres))
    | _ => none
  | .consumeBootstrap tokenHash => some (s.consumeBootstrap tokenHash)
  | .commit users =>
    if s.users.map AccountRow.key ⊆ users.map AccountRow.key ∧
        DistinctKeys (users.map AccountRow.key) then
      some { s with users }
    else none

/-- The service starts with any accounts. -/
def initial (users : List AccountRow) (clock : Timestamp) : OtpService where
  clock
  users
  states := ∅
  calls := []
  log := ⟨[], [], [], []⟩

end OtpService

end SelfRelay.Backend
