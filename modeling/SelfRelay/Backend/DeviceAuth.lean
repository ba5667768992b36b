import SelfRelay.Backend.DeviceRepository
import SelfRelay.Lib.Dict

/-!
# `DeviceAuthService`

The enrolment of devices and the login of returning ones: the in-memory stores of bootstrap states
and registration challenges, the tables of linking codes and login challenges, and the calls that
run at one service.  A step is what a call does from one await to the next; a statement takes effect
when it returns, and what a lookup of an account or a device returns is part of the event.  A call
keeps what it has read across its awaits.

`AuthLog` records what the calls achieved.  Audit events are left out.
-/

namespace SelfRelay.Backend

/-! ## Stores -/

/-- `_BootstrapState`, under the hash of its token. -/
structure BootstrapState where
  accountId : Uuid
  deviceEpoch : ℤ
  expiresAt : Timestamp
  deriving DecidableEq, Repr

inductive EnrollmentMethod where
  | email
  | deviceLink
  deriving DecidableEq, Repr

structure RegistrationChallenge where
  challengeId : Uuid
  accountId : Uuid
  deviceId : Uuid
  epoch : ℤ
  nonce : Bytea
  origin : String
  issuedAt : Timestamp
  expiresAt : Timestamp
  fingerprint : Bytea
  fallback : Bool
  enrollmentMethod : EnrollmentMethod
  linkingOtpId : Option Uuid
  linkedByDeviceId : Option Uuid
  deriving DecidableEq, Repr

/-- `_RegistrationState` -/
structure RegistrationState where
  challenge : RegistrationChallenge
  publicKeySpki : Bytea
  label : String
  attempts : ℕ
  deriving DecidableEq, Repr

/-- `REGISTRATION_CHALLENGE_LIFETIME`: 10 minutes. -/
def registrationChallengeLifetime : Timestamp := 10 * 60 * 1000000

inductive OtpStatus where
  | active
  | consumed
  | expired
  deriving DecidableEq, Repr

/-- A row of `private.device_linking_otps`. -/
structure DeviceLinkingOtpRecord where
  id : Uuid
  userId : Uuid
  issuingDeviceId : Uuid
  otpHash : Bytea
  status : OtpStatus
  attemptCount : ℕ
  createdAt : Timestamp
  expiresAt : Timestamp
  consumedAt : Option Timestamp
  deriving DecidableEq, Repr

/-- A row of `private.device_challenges`. -/
structure DeviceChallengeRecord where
  id : Uuid
  deviceId : Uuid
  nonceHash : Bytea
  origin : String
  createdAt : Timestamp
  expiresAt : Timestamp
  consumedAt : Option Timestamp
  attemptCount : ℕ
  deriving DecidableEq, Repr

/-- The tables, with those of the primary keys `otps` and `challenges`. -/
structure AuthDatabase where
  base : Database
  otps : Dict Uuid DeviceLinkingOtpRecord
  challenges : Dict Uuid DeviceChallengeRecord

/-! ## `DeviceLinkingOtpRepository` -/

namespace DeviceLinkingOtpRepository

variable (db : AuthDatabase) (now : Timestamp)

/-- The row that `get_active_by_hash` is to return.  An await that raises is
`AuthOutcome.raises`. -/
def getActiveByHash (otpHash : Bytea) : Option DeviceLinkingOtpRecord :=
  db.otps.values.find? fun otp =>
    otp.otpHash = otpHash && otp.status = .active && now < otp.expiresAt &&
      db.base.accountExists otp.userId

/-- `mark_failed` -/
def markFailed (otpId : Uuid) : AuthDatabase :=
  match db.otps.get otpId with
  | none => db
  | some otp =>
    if otp.status = .active && now < otp.expiresAt && otp.attemptCount < 10 then
      { db with
        otps := db.otps.set otpId
          { otp with
            attemptCount := min (otp.attemptCount + 1) 10
            status := if 10 ≤ otp.attemptCount + 1 then .expired else otp.status } }
    else db

/-- The `WHERE` clause of the update in `consume_and_register`. -/
def consumable (account issuingDevice : Uuid) (epoch : ℤ) (otp : DeviceLinkingOtpRecord) : Bool :=
  otp.userId = account && otp.issuingDeviceId = issuingDevice && otp.status = .active &&
    otp.attemptCount < 10 && now < otp.expiresAt && db.base.accountAt otp.userId epoch &&
    db.base.deviceAt otp.userId otp.issuingDeviceId epoch

/-- The statements of `consume_and_register`. -/
def consumeAndRegisterBody (otpId account issuingDevice : Uuid) (epoch : ℤ) (deviceId : Uuid)
    (label : String) (signingPublicKeySpki fingerprint : Bytea) :
    Except RepositoryError (AuthDatabase × Option DeviceRecord) :=
  match db.otps.get otpId with
  | none => .ok (db, none)
  | some otp =>
    if consumable db now account issuingDevice epoch otp then do
      -- `device_linking_otps_consumed_at_check`
      if now < otp.createdAt then throw (.rejected .check)
      let db := { db with
        otps := db.otps.set otpId { otp with status := .consumed, consumedAt := some now } }
      if db.base.accountAt account epoch then
        let record := DeviceRepository.inserted now deviceId account epoch label
          signingPublicKeySpki fingerprint (some issuingDevice)
        let base ← db.base.insertDevice record
        return ({ db with base }, some record)
      else throw .noRow
    else .ok (db, none)

/-- `consume_and_register`: one transaction, which is rolled back when a statement raises. -/
def consumeAndRegister (otpId account issuingDevice : Uuid) (epoch : ℤ) (deviceId : Uuid)
    (label : String) (signingPublicKeySpki fingerprint : Bytea) :
    Except RepositoryError (Option DeviceRecord) × AuthDatabase :=
  match consumeAndRegisterBody db now otpId account issuingDevice epoch deviceId label
      signingPublicKeySpki fingerprint with
  | .ok (db, device) => (.ok device, db)
  | .error e => (.error e, db)

/-- A code is consumed with the device that it registers; otherwise nothing changes. -/
theorem consumeAndRegister_cases (otpId account issuingDevice : Uuid) (epoch : ℤ) (deviceId : Uuid)
    (label : String) (signingPublicKeySpki fingerprint : Bytea) :
    (∃ otp base device, db.otps.get otpId = some otp ∧
      consumable db now account issuingDevice epoch otp = true ∧
      db.base.insertDevice (DeviceRepository.inserted now deviceId account epoch label
        signingPublicKeySpki fingerprint (some issuingDevice)) = .ok base ∧
      consumeAndRegister db now otpId account issuingDevice epoch deviceId label
        signingPublicKeySpki fingerprint =
        (.ok (some device),
          { db with
            base
            otps := db.otps.set otpId { otp with status := .consumed, consumedAt := some now } })) ∨
    consumeAndRegister db now otpId account issuingDevice epoch deviceId label
      signingPublicKeySpki fingerprint = (.ok none, db) ∨
    ∃ otp e, db.otps.get otpId = some otp ∧
      consumable db now account issuingDevice epoch otp = true ∧
      consumeAndRegister db now otpId account issuingDevice epoch deviceId label
        signingPublicKeySpki fingerprint = (.error e, db) := by
  unfold consumeAndRegister consumeAndRegisterBody
  cases hget : db.otps.get otpId with
  | none => exact .inr (.inl rfl)
  | some otp =>
    by_cases hconsumable : consumable db now account issuingDevice epoch otp = true
    swap
    · right
      left
      simp only [if_neg hconsumable]
    simp only [if_pos hconsumable]
    by_cases hcheck : now < otp.createdAt
    · right
      right
      rw [if_pos hcheck]
      exact ⟨otp, _, rfl, hconsumable, rfl⟩
    rw [if_neg hcheck]
    by_cases haccount : db.base.accountAt account epoch = true
    swap
    · right
      right
      simp only [if_neg haccount]
      exact ⟨otp, _, rfl, hconsumable, rfl⟩
    simp only [if_pos haccount]
    cases hinsert : db.base.insertDevice (DeviceRepository.inserted now deviceId account epoch label
        signingPublicKeySpki fingerprint (some issuingDevice)) with
    | error e =>
      right
      right
      exact ⟨otp, e, rfl, hconsumable, rfl⟩
    | ok base =>
      left
      exact ⟨otp, base, _, rfl, hconsumable, rfl, rfl⟩

theorem consumable_active {account issuingDevice : Uuid} {epoch : ℤ} {otp : DeviceLinkingOtpRecord}
    (h : consumable db now account issuingDevice epoch otp = true) :
    otp.status = .active ∧ otp.attemptCount < 10 := by
  simp only [consumable, Bool.and_eq_true, decide_eq_true_eq] at h
  exact ⟨h.1.1.1.1.2, h.1.1.1.2⟩

/-- What `mark_failed` does to the code. -/
theorem markFailed_cases (otpId : Uuid) :
    markFailed db now otpId = db ∨ ∃ otp status, db.otps.get otpId = some otp ∧
      otp.status = .active ∧ otp.attemptCount < 10 ∧
      markFailed db now otpId =
        { db with
          otps := db.otps.set otpId
            { otp with attemptCount := min (otp.attemptCount + 1) 10, status } } := by
  unfold markFailed
  cases hget : db.otps.get otpId with
  | none => exact .inl rfl
  | some otp =>
    dsimp only
    by_cases h : (otp.status = .active && now < otp.expiresAt && otp.attemptCount < 10) = true
    · rw [if_pos h]
      simp only [Bool.and_eq_true, decide_eq_true_eq] at h
      exact .inr ⟨otp, _, rfl, h.1.1, h.2, rfl⟩
    · rw [if_neg h]
      exact .inl rfl

end DeviceLinkingOtpRepository

/-! ## `DeviceChallengeRepository` -/

namespace DeviceChallengeRepository

variable (db : AuthDatabase) (now : Timestamp) (account challengeId : Uuid)

/-- `get_by_id` -/
def getById : Option DeviceChallengeRecord :=
  (db.challenges.get challengeId).filter fun challenge =>
    db.base.accountExists account &&
      db.base.devices.any fun d => d.id = challenge.deviceId && d.userId = account

/-- `mark_failed` -/
def markFailed : AuthDatabase :=
  match db.challenges.get challengeId with
  | none => db
  | some challenge =>
    if challenge.attemptCount < 10 && challenge.consumedAt.isNone && now < challenge.expiresAt &&
        db.base.deviceActive account challenge.deviceId then
      { db with
        challenges := db.challenges.set challengeId
          { challenge with attemptCount := min (challenge.attemptCount + 1) 10 } }
    else db

/-- `consume`: the challenge as it is after the update. -/
def consume : Except RepositoryError (Option DeviceChallengeRecord) × AuthDatabase :=
  match db.challenges.get challengeId with
  | none => (.ok none, db)
  | some challenge =>
    if challenge.consumedAt.isNone && now < challenge.expiresAt &&
        db.base.deviceActive account challenge.deviceId then
      -- `device_challenges_consumed_at_check`
      if now < challenge.createdAt then (.error (.rejected .check), db)
      else
        let consumed := { challenge with consumedAt := some now }
        (.ok (some consumed), { db with challenges := db.challenges.set challengeId consumed })
    else (.ok none, db)

/-- What `mark_failed` does to a challenge. -/
theorem markFailed_cases :
    markFailed db now account challengeId = db ∨
    ∃ challenge, db.challenges.get challengeId = some challenge ∧ challenge.attemptCount < 10 ∧
      challenge.consumedAt = none ∧
      markFailed db now account challengeId =
        { db with
          challenges := db.challenges.set challengeId
            { challenge with attemptCount := min (challenge.attemptCount + 1) 10 } } := by
  unfold markFailed
  cases db.challenges.get challengeId with
  | none => exact .inl rfl
  | some challenge =>
    dsimp only
    split_ifs with h
    · simp only [Bool.and_eq_true, decide_eq_true_eq, Option.isNone_iff_eq_none] at h
      exact .inr ⟨challenge, rfl, h.1.1.1, h.1.1.2, rfl⟩
    · exact .inl rfl

/-- A challenge is consumed, or nothing changes. -/
theorem consume_cases :
    (∃ challenge, db.challenges.get challengeId = some challenge ∧ challenge.consumedAt = none ∧
      now < challenge.expiresAt ∧
      consume db now account challengeId =
        (.ok (some { challenge with consumedAt := some now }),
          { db with
            challenges := db.challenges.set challengeId
              { challenge with consumedAt := some now } })) ∨
    ∃ result, (∀ challenge, result ≠ .ok (some challenge)) ∧
      consume db now account challengeId = (result, db) := by
  unfold consume
  cases db.challenges.get challengeId with
  | none => exact .inr ⟨.ok none, by rintro _ ⟨⟩, rfl⟩
  | some challenge =>
    dsimp only
    split_ifs with h hcheck
    · exact .inr ⟨_, by rintro _ ⟨⟩, rfl⟩
    · simp only [Bool.and_eq_true, decide_eq_true_eq, Option.isNone_iff_eq_none] at h
      exact .inl ⟨challenge, rfl, h.1.1, h.1.2, rfl⟩
    · exact .inr ⟨.ok none, by rintro _ ⟨⟩, rfl⟩

end DeviceChallengeRepository

/-! ## Calls -/

/-- The key, its fingerprint and the label of a registration, normalised. -/
structure RegistrationValues where
  publicKeySpki : Bytea
  fingerprint : Bytea
  label : String
  deriving DecidableEq, Repr

/-- The arguments of a challenge that is to be issued.  The values are missing when they do not
normalise. -/
structure RegistrationRequest where
  values : Option RegistrationValues
  origin : String
  deviceId : Uuid
  deriving DecidableEq, Repr

/-- The arguments of `complete_login_challenge`, and whether the signature verifies.  A nonce has a
hash when it has 32 bytes. -/
structure LoginRequest where
  account : Uuid
  challenge : Uuid
  nonceHash : Option Bytea
  proof : Bool
  origin : String
  now : Timestamp
  deriving DecidableEq, Repr

/-- A call at its await. -/
inductive AuthCall where
  /-- `issue_registration_challenge`, in the lookup of its account. -/
  | bootstrapAccount (token : Bytea) (bootstrap : BootstrapState) (request : RegistrationRequest)
  /-- `issue_registration_challenge`, in `list_for_account`. -/
  | bootstrapDevices (token : Bytea) (account : AppUser) (values : RegistrationValues)
    (request : RegistrationRequest)
  /-- `issue_linking_challenge`, in the rate limiter. -/
  | linkingLimit (codeHash : Bytea) (now : Timestamp) (request : RegistrationRequest)
  | linkingCode (codeHash : Bytea) (now : Timestamp) (request : RegistrationRequest)
  | linkingAccount (otp : DeviceLinkingOtpRecord) (now : Timestamp) (request : RegistrationRequest)
  | linkingIssuer (otp : DeviceLinkingOtpRecord) (account : Option AppUser) (now : Timestamp)
    (request : RegistrationRequest)
  /-- `complete_registration`, in `mark_failed` of the linking code. -/
  | otpFailure (otp : Uuid)
  /-- `complete_registration`, after it has claimed its challenge. -/
  | claimAccount (claimed : RegistrationState) (now : Timestamp)
  | claimLink (claimed : RegistrationState) (otp : Uuid) (account : AppUser) (now : Timestamp)
  | claimEmail (claimed : RegistrationState) (account : AppUser) (now : Timestamp)
  /-- In `mark_email_fallback`. -/
  | claimFallback (claimed : RegistrationState) (account : AppUser) (device : Uuid)
      (now : Timestamp)
  | claimSession (claimed : RegistrationState) (account : AppUser) (device : Uuid) (now : Timestamp)
  /-- `complete_login_challenge` -/
  | loginChallenge (request : LoginRequest)
  | loginAccount (request : LoginRequest) (challenge : DeviceChallengeRecord)
  | loginDevice (request : LoginRequest) (challenge : DeviceChallengeRecord)
    (account : Option AppUser)
  | loginFailure (request : LoginRequest)
  | loginConsume (request : LoginRequest) (account : AppUser) (device : Uuid)
  /-- In `touch_last_seen`. -/
  | loginTouch (request : LoginRequest) (account : AppUser) (device : Uuid)
  | loginSession (request : LoginRequest) (account : AppUser) (device : Uuid)

/-- The id and the hashed secrets of a session that is to be created. -/
structure SessionValues where
  id : Uuid
  tokenHash : Bytea
  csrfHash : Bytea
  deriving DecidableEq, Repr

/-- `SESSION_IDLE_LIFETIME`: 30 days. -/
def sessionIdleLifetime : Timestamp := 30 * 24 * 60 * 60 * 1000000

/-- `SESSION_ABSOLUTE_LIFETIME`: 90 days. -/
def sessionAbsoluteLifetime : Timestamp := 90 * 24 * 60 * 60 * 1000000

/-- How an await ends. -/
inductive AuthOutcome where
  | raises
  | account (account : Option AppUser)
  /-- `list_for_account`; then the times of the bootstrap store and of the service, and the random
  values of a challenge. -/
  | devices (existing : Bool) (consumedAt issuedAt : Timestamp) (challengeId : Uuid) (nonce : Bytea)
  | allowed (allowed : Bool)
  /-- A device; then the random values of a challenge. -/
  | device (device : Option DeviceRecord) (challengeId : Uuid) (nonce : Bytea)
  /-- A statement takes effect at a time of the database. -/
  | statement (databaseNow : Timestamp)
  | session (databaseNow : Timestamp) (values : SessionValues)

/-- What the calls achieved. -/
structure AuthLog where
  /-- The challenges issued for bootstrap tokens. -/
  issued : List (Bytea × Uuid)
  /-- The devices that were registered or activated for registration challenges. -/
  registered : List (Uuid × Uuid)
  /-- The devices that were registered for linking codes. -/
  linked : List (Uuid × Uuid)
  /-- The sessions that were created for registration challenges. -/
  opened : List (Uuid × Uuid)
  /-- The sessions that were created for login challenges. -/
  loggedIn : List (Uuid × Uuid)
  /-- The bootstrap tokens and the ids of the registration challenges that were generated. -/
  tokens : List Bytea
  challengeIds : List Uuid
  deriving DecidableEq, Repr

structure DeviceAuthService where
  /-- `bootstrap_peeker` is configured. -/
  peeks : Bool
  bootstraps : Dict Bytea BootstrapState
  registrations : Dict Uuid RegistrationState
  db : AuthDatabase
  calls : Dict ℕ AuthCall
  log : AuthLog

namespace DeviceAuthService

variable (s : DeviceAuthService)

/-- `BootstrapStateStore.peek` -/
def peekBootstrap (token : Bytea) (now : Timestamp) : Option BootstrapState :=
  (s.bootstraps.get token).filter fun state => now < state.expiresAt

/-- `BootstrapStateStore.consume` -/
def consumeBootstrap (token : Bytea) (now : Timestamp) :
    Option BootstrapState × DeviceAuthService :=
  (s.peekBootstrap token now, { s with bootstraps := s.bootstraps.del token })

/-- `RegistrationChallengeStore.issue` -/
def issue (state : RegistrationState) : DeviceAuthService :=
  { s with
    registrations := s.registrations.set state.challenge.challengeId state
    log := { s.log with challengeIds := state.challenge.challengeId :: s.log.challengeIds } }

/-- `RegistrationChallengeStore.get` -/
def getRegistration (challenge : Uuid) (now : Timestamp) :
    Option RegistrationState × DeviceAuthService :=
  match s.registrations.get challenge with
  | none => (none, s)
  | some state =>
    if state.challenge.expiresAt ≤ now then
      (none, { s with registrations := s.registrations.del challenge })
    else (some state, s)

/-- `RegistrationChallengeStore.mark_failed` -/
def markFailed (challenge : Uuid) (now : Timestamp) : DeviceAuthService :=
  match s.registrations.get challenge with
  | none => s
  | some state =>
    if state.challenge.expiresAt ≤ now then
      { s with registrations := s.registrations.del challenge }
    else
      { s with
        registrations := s.registrations.set challenge
          { state with attempts := min (state.attempts + 1) 10 } }

/-- `RegistrationChallengeStore.consume` -/
def consumeRegistration (challenge : Uuid) (now : Timestamp) :
    Option RegistrationState × DeviceAuthService :=
  ((s.registrations.get challenge).filter fun state => now < state.challenge.expiresAt,
    { s with registrations := s.registrations.del challenge })

/-- The state of a new challenge. -/
def newRegistration (challengeId : Uuid) (account : AppUser) (values : RegistrationValues)
    (request : RegistrationRequest) (issuedAt : Timestamp) (nonce : Bytea) (fallback : Bool)
    (enrollmentMethod : EnrollmentMethod) (linkingOtpId linkedByDeviceId : Option Uuid) :
    RegistrationState where
  challenge :=
    { challengeId
      accountId := account.id
      deviceId := request.deviceId
      epoch := account.deviceEpoch
      nonce
      origin := request.origin
      issuedAt
      expiresAt := issuedAt + registrationChallengeLifetime
      fingerprint := values.fingerprint
      fallback
      enrollmentMethod
      linkingOtpId
      linkedByDeviceId }
  publicKeySpki := values.publicKeySpki
  label := values.label
  attempts := 0

/-- `issue_registration_challenge`, up to its first await. -/
def issueRegistrationChallenge (token : Bytea) (request : RegistrationRequest) (now : Timestamp) :
    DeviceAuthService × Option AuthCall :=
  let (bootstrap, s) :=
    if s.peeks then (s.peekBootstrap token now, s) else s.consumeBootstrap token now
  (s, bootstrap.map fun bootstrap => .bootstrapAccount token bootstrap request)

/-- `complete_registration`, up to its first await. -/
def completeRegistration (challenge : Uuid) (proof : Bool) (origin : String) (now : Timestamp) :
    DeviceAuthService × Option AuthCall :=
  match s.getRegistration challenge now with
  | (none, s) => (s, none)
  | (some state, s) =>
    if state.challenge.origin ≠ origin || 10 ≤ state.attempts then (s, none)
    else if !proof then
      (s.markFailed challenge now, state.challenge.linkingOtpId.map .otpFailure)
    else
      let (claimed, s) := s.consumeRegistration challenge now
      (s, claimed.map fun claimed => .claimAccount claimed now)

/-- What `complete_registration` does before its first await: nothing, it drops an expired
challenge, it counts a failure, or it takes the challenge out of the store. -/
theorem completeRegistration_cases (challenge : Uuid) (proof : Bool) (origin : String)
    (now : Timestamp) :
    s.completeRegistration challenge proof origin now = (s, none) ∨
    s.completeRegistration challenge proof origin now =
      ({ s with registrations := s.registrations.del challenge }, none) ∨
    ∃ state, s.registrations.get challenge = some state ∧ state.attempts < 10 ∧
      (s.completeRegistration challenge proof origin now =
          ({ s with
              registrations := s.registrations.set challenge
                { state with attempts := min (state.attempts + 1) 10 } },
            state.challenge.linkingOtpId.map .otpFailure) ∨
        s.completeRegistration challenge proof origin now =
          ({ s with registrations := s.registrations.del challenge },
            some (.claimAccount state now))) := by
  unfold completeRegistration getRegistration
  cases hget : s.registrations.get challenge with
  | none => exact .inl rfl
  | some state =>
    by_cases hexpired : state.challenge.expiresAt ≤ now
    · right
      left
      simp only [if_pos hexpired]
    simp only [if_neg hexpired]
    by_cases hrejected : (state.challenge.origin ≠ origin || 10 ≤ state.attempts) = true
    · left
      rw [if_pos hrejected]
    rw [if_neg hrejected]
    have hattempts : state.attempts < 10 := by
      simp only [Bool.or_eq_true, decide_eq_true_eq, not_or, not_le] at hrejected
      exact hrejected.2
    refine .inr (.inr ⟨state, rfl, hattempts, ?_⟩)
    cases proof with
    | false =>
      left
      simp only [markFailed, hget, if_neg hexpired, Bool.not_false, if_true]
    | true =>
      right
      have hclaimed : (some state).filter (fun state => now < state.challenge.expiresAt) =
          some state := Option.filter_eq_some_iff.2 ⟨rfl, by simpa using hexpired⟩
      simp only [consumeRegistration, hget, hclaimed, Bool.not_true, Bool.false_eq_true, if_false,
        Option.map_some]

/-- `issue_linking_challenge`, up to its first await, with a code of six digits. -/
def issueLinkingChallenge (codeHash : Bytea) (request : RegistrationRequest) (now : Timestamp) :
    DeviceAuthService × Option AuthCall :=
  (s, some (.linkingLimit codeHash now request))

/-- `complete_login_challenge`, up to its first await. -/
def completeLoginChallenge (request : LoginRequest) : DeviceAuthService × Option AuthCall :=
  (s, some (.loginChallenge request))

/-! ### What a call does after its awaits -/

/-- The rest of `issue_registration_challenge`. -/
def issueForEmail (token : Bytea) (account : AppUser) (values : RegistrationValues)
    (request : RegistrationRequest) (existing : Bool) (consumedAt issuedAt : Timestamp)
    (challengeId : Uuid) (nonce : Bytea) : DeviceAuthService :=
  let (usable, s) :=
    if s.peeks then
      let (consumed, s) := s.consumeBootstrap token consumedAt
      (consumed.isSome, s)
    else (true, s)
  if usable then
    let s := s.issue (newRegistration challengeId account values request issuedAt nonce existing
      .email none none)
    { s with log := { s.log with issued := (token, challengeId) :: s.log.issued } }
  else s

/-- The rest of `issue_linking_challenge`. -/
def issueForLink (otp : DeviceLinkingOtpRecord) (account : Option AppUser)
    (issuer : Option DeviceRecord) (request : RegistrationRequest) (now : Timestamp)
    (challengeId : Uuid) (nonce : Bytea) : DeviceAuthService :=
  match account, issuer, request.values with
  | some account, some issuer, some values =>
    if issuer.status = .active && issuer.epoch = account.deviceEpoch then
      s.issue (newRegistration challengeId account values request now nonce false .deviceLink
        (some otp.id) (some otp.issuingDeviceId))
    else s
  | _, _, _ => s

/-- The call of `consume_and_register`.  Without an issuing device it selects no row. -/
def registerForLink (claimed : RegistrationState) (otp : Uuid) (account : AppUser)
    (now databaseNow : Timestamp) : DeviceAuthService × Option AuthCall :=
  match claimed.challenge.linkedByDeviceId with
  | none => (s, none)
  | some issuingDevice =>
    match DeviceLinkingOtpRepository.consumeAndRegister s.db databaseNow otp account.id
      issuingDevice
        account.deviceEpoch claimed.challenge.deviceId claimed.label claimed.publicKeySpki
        claimed.challenge.fingerprint with
    | (.ok (some device), db) =>
      ({ s with
          db
          log :=
            { s.log with
              registered := (claimed.challenge.challengeId, device.id) :: s.log.registered
              linked := (otp, device.id) :: s.log.linked } },
        some (.claimSession claimed account device.id now))
    | (_, db) => ({ s with db }, none)

/-- The call of `register_for_email`. -/
def registerForEmail (claimed : RegistrationState) (account : AppUser)
    (now databaseNow : Timestamp) : DeviceAuthService × Option AuthCall :=
  match DeviceRepository.registerForEmail s.db.base databaseNow account.id account.deviceEpoch
      claimed.label claimed.publicKeySpki claimed.challenge.fingerprint
      claimed.challenge.deviceId with
  | .error _ => (s, none)
  | .ok (base, device) =>
    ({ s with
        db := { s.db with base }
        log :=
          { s.log with
            registered := (claimed.challenge.challengeId, device.id) :: s.log.registered } },
      some (if claimed.challenge.fallback then .claimFallback claimed account device.id now
        else .claimSession claimed account device.id now))

/-- A linking code registers one device, or nothing changes. -/
theorem registerForLink_cases (claimed : RegistrationState) (otp : Uuid) (account : AppUser)
    (now databaseNow : Timestamp) :
    s.registerForLink claimed otp account now databaseNow = (s, none) ∨
    ∃ record base device, s.db.otps.get otp = some record ∧ record.status = .active ∧
      record.attemptCount < 10 ∧
      s.registerForLink claimed otp account now databaseNow =
        ({ s with
            db :=
              { s.db with
                base
                otps := s.db.otps.set otp
                  { record with status := .consumed, consumedAt := some databaseNow } }
            log :=
              { s.log with
                registered := (claimed.challenge.challengeId, device) :: s.log.registered
                linked := (otp, device) :: s.log.linked } },
          some (.claimSession claimed account device now)) := by
  unfold registerForLink
  cases claimed.challenge.linkedByDeviceId with
  | none => exact .inl rfl
  | some issuingDevice =>
    obtain ⟨record, base, device, hget, hconsumable, -, h⟩ | h | ⟨_, e, -, -, h⟩ :=
      DeviceLinkingOtpRepository.consumeAndRegister_cases s.db databaseNow otp account.id
        issuingDevice account.deviceEpoch claimed.challenge.deviceId claimed.label
        claimed.publicKeySpki claimed.challenge.fingerprint
    · obtain ⟨hactive, hattempts⟩ :=
        DeviceLinkingOtpRepository.consumable_active s.db databaseNow hconsumable
      right
      refine ⟨record, base, device.id, hget, hactive, hattempts, ?_⟩
      simp only [h]
    · left
      simp only [h]
    · left
      simp only [h]

/-- An email registration registers or activates one device, or nothing changes. -/
theorem registerForEmail_cases (claimed : RegistrationState) (account : AppUser)
    (now databaseNow : Timestamp) :
    s.registerForEmail claimed account now databaseNow = (s, none) ∨
    ∃ base device, s.registerForEmail claimed account now databaseNow =
      ({ s with
          db := { s.db with base }
          log :=
            { s.log with
              registered := (claimed.challenge.challengeId, device) :: s.log.registered } },
        some (if claimed.challenge.fallback then .claimFallback claimed account device now
          else .claimSession claimed account device now)) := by
  unfold registerForEmail
  split
  · exact .inl rfl
  · exact .inr ⟨_, _, rfl⟩

/-- `SessionService.create` -/
def createSession (account : AppUser) (device : Uuid) (now databaseNow : Timestamp)
    (values : SessionValues) : Except RepositoryError (Database × SessionRecord) :=
  SessionRepository.create s.db.base databaseNow account.id device values.tokenHash values.csrfHash
    account.deviceEpoch (now + sessionIdleLifetime) (now + sessionAbsoluteLifetime) values.id

/-- What `complete_login_challenge` does when it has read the challenge,
the account and the device. -/
def checkLogin (request : LoginRequest) (challenge : DeviceChallengeRecord)
    (account : Option AppUser) (device : Option DeviceRecord) : Option AuthCall :=
  match account, device with
  | some account, some device =>
    if device.status ≠ .active || device.epoch ≠ account.deviceEpoch ||
        challenge.expiresAt ≤ request.now || challenge.consumedAt.isSome then
      some (.loginFailure request)
    else
      match request.nonceHash with
      | none => none
      | some nonceHash =>
        if challenge.nonceHash ≠ nonceHash then some (.loginFailure request)
        else if challenge.deviceId ≠ device.id then none
        else if request.proof then some (.loginConsume request account device.id)
        else some (.loginFailure request)
  | _, _ => some (.loginFailure request)

/-- A login that is checked ends, fails or goes on to consume its challenge. -/
theorem checkLogin_cases (request : LoginRequest) (challenge : DeviceChallengeRecord)
    (account : Option AppUser) (device : Option DeviceRecord) :
    checkLogin request challenge account device = none ∨
    checkLogin request challenge account device = some (.loginFailure request) ∨
    ∃ account' device',
      checkLogin request challenge account device =
        some (.loginConsume request account' device') := by
  fun_cases checkLogin request challenge account device with
  | case1 | case3 | case6 | case7 => exact .inr (.inl rfl)
  | case2 | case4 => exact .inl rfl
  | case5 => exact .inr (.inr ⟨_, _, rfl⟩)

/-- What a call does when its await ends: the new state, and the call at its next await.  A
challenge gets an id that no challenge had before. -/
def resume : AuthCall → AuthOutcome → Option (DeviceAuthService × Option AuthCall)
  | _, .raises => some (s, none)
  | .bootstrapAccount token bootstrap request, .account account =>
    some (s, do
      let account ← account
      let values ← request.values
      if account.deviceEpoch = bootstrap.deviceEpoch then
        return .bootstrapDevices token account values request
      else none)
  | .bootstrapDevices token account values request,
      .devices existing consumedAt issuedAt challengeId nonce =>
    if challengeId ∈ s.log.challengeIds then none
    else
      some (s.issueForEmail token account values request existing consumedAt issuedAt challengeId
        nonce, none)
  | .linkingLimit codeHash now request, .allowed allowed =>
    some (s, if allowed then some (.linkingCode codeHash now request) else none)
  | .linkingCode codeHash now request, .statement databaseNow =>
    some (s,
      ((DeviceLinkingOtpRepository.getActiveByHash s.db databaseNow codeHash).filter
        fun otp => otp.attemptCount < 10).map fun otp => .linkingAccount otp now request)
  | .linkingAccount otp now request, .account account =>
    some (s, some (.linkingIssuer otp account now request))
  | .linkingIssuer otp account now request, .device issuer challengeId nonce =>
    if challengeId ∈ s.log.challengeIds then none
    else some (s.issueForLink otp account issuer request now challengeId nonce, none)
  | .otpFailure otp, .statement databaseNow =>
    some ({ s with db := DeviceLinkingOtpRepository.markFailed s.db databaseNow otp }, none)
  | .claimAccount claimed now, .account account =>
    some (s, do
      let account ← account
      if account.deviceEpoch = claimed.challenge.epoch then
        match claimed.challenge.linkingOtpId with
        | some otp => return .claimLink claimed otp account now
        | none => return .claimEmail claimed account now
      else none)
  | .claimLink claimed otp account now, .statement databaseNow =>
    some (s.registerForLink claimed otp account now databaseNow)
  | .claimEmail claimed account now, .statement databaseNow =>
    some (s.registerForEmail claimed account now databaseNow)
  | .claimFallback claimed account device now, .statement _ =>
    some (s, some (.claimSession claimed account device now))
  | .claimSession claimed account device now, .session databaseNow values =>
    match s.createSession account device now databaseNow values with
    | .error _ => some (s, none)
    | .ok (base, session) =>
      some ({ s with
        db := { s.db with base }
        log :=
          { s.log with opened := (claimed.challenge.challengeId, session.id) :: s.log.opened } },
        none)
  | .loginChallenge request, .statement _ =>
    some (s,
      ((DeviceChallengeRepository.getById s.db request.account request.challenge).filter
        fun challenge => challenge.origin = request.origin).map fun challenge =>
          .loginAccount request challenge)
  | .loginAccount request challenge, .account account =>
    some (s, some (.loginDevice request challenge account))
  | .loginDevice request challenge account, .device device _ _ =>
    some (s, checkLogin request challenge account device)
  | .loginFailure request, .statement databaseNow =>
    some ({ s with
      db := DeviceChallengeRepository.markFailed s.db databaseNow request.account
        request.challenge }, none)
  | .loginConsume request account device, .statement databaseNow =>
    match DeviceChallengeRepository.consume s.db databaseNow request.account request.challenge with
    | (.ok (some _), db) => some ({ s with db }, some (.loginTouch request account device))
    | (_, db) => some ({ s with db }, none)
  | .loginTouch request account device, .statement databaseNow =>
    match DeviceRepository.touchLastSeen s.db.base databaseNow request.account device with
    | .error _ => some (s, none)
    | .ok (base, _) =>
      some ({ s with db := { s.db with base } }, some (.loginSession request account device))
  | .loginSession request account device, .session databaseNow values =>
    match s.createSession account device request.now databaseNow values with
    | .error _ => some (s, none)
    | .ok (base, session) =>
      some ({ s with
        db := { s.db with base }
        log := { s.log with loggedIn := (request.challenge, session.id) :: s.log.loggedIn } }, none)
  | _, _ => none

/-! ### Runs -/

/-- The call `id` at its next await; none when it has ended. -/
def store (id : ℕ) : DeviceAuthService × Option AuthCall → DeviceAuthService
  | (s, none) => { s with calls := s.calls.del id }
  | (s, some call) => { s with calls := s.calls.set id call }

end DeviceAuthService

/-- A step at the service. -/
inductive AuthEvent where
  | issueRegistrationChallenge (id : ℕ) (token : Bytea) (request : RegistrationRequest)
    (now : Timestamp)
  | issueLinkingChallenge (id : ℕ) (codeHash : Bytea) (request : RegistrationRequest)
    (now : Timestamp)
  | completeRegistration (id : ℕ) (challenge : Uuid) (proof : Bool) (origin : String)
    (now : Timestamp)
  | completeLoginChallenge (id : ℕ) (request : LoginRequest)
  | resume (id : ℕ) (outcome : AuthOutcome)
  /-- `BootstrapStateStore.issue`, with a token that was not generated before. -/
  | issueBootstrap (token : Bytea) (state : BootstrapState)
  /-- `DeviceLinkingOtpRepository.create` and `DeviceChallengeRepository.create` -/
  | createOtp (otp : DeviceLinkingOtpRecord)
  | createChallenge (challenge : DeviceChallengeRecord)
  /-- Some other writer changes the accounts, the devices or the sessions. -/
  | commit (base : Database)

namespace DeviceAuthService

/-- A call may start under an id that no call has. -/
def start (s : DeviceAuthService) (id : ℕ) (begun : DeviceAuthService × Option AuthCall) :
    Option DeviceAuthService :=
  if (s.calls.get id).isNone then some (store id begun) else none

def step (s : DeviceAuthService) : AuthEvent → Option DeviceAuthService
  | .issueRegistrationChallenge id token request now =>
    s.start id (s.issueRegistrationChallenge token request now)
  | .issueLinkingChallenge id codeHash request now =>
    s.start id (s.issueLinkingChallenge codeHash request now)
  | .completeRegistration id challenge proof origin now =>
    s.start id (s.completeRegistration challenge proof origin now)
  | .completeLoginChallenge id request => s.start id (s.completeLoginChallenge request)
  | .resume id outcome =>
    (s.calls.get id).bind fun call => (s.resume call outcome).map (store id)
  | .issueBootstrap token state =>
    if token ∈ s.log.tokens then none
    else
      some { s with
        bootstraps := s.bootstraps.set token state
        log := { s.log with tokens := token :: s.log.tokens } }
  | .createOtp otp =>
    if (s.db.otps.get otp.id).isNone then
      some { s with db := { s.db with otps := s.db.otps.set otp.id otp } }
    else none
  | .createChallenge challenge =>
    if (s.db.challenges.get challenge.id).isNone then
      some { s with db := { s.db with challenges := s.db.challenges.set challenge.id challenge } }
    else none
  | .commit base => some { s with db := { s.db with base } }

/-- The state in which the service starts, with any tables. -/
def initial (peeks : Bool) (db : AuthDatabase) : DeviceAuthService where
  peeks
  bootstraps := ∅
  registrations := ∅
  db
  calls := ∅
  log := ⟨[], [], [], [], [], [], []⟩

end DeviceAuthService

end SelfRelay.Backend
