import SelfRelay.Backend.LinkingOtpQuery
import SelfRelay.Backend.SessionService
import SelfRelay.Lib.Sha256

/-!
# Enrolment of devices and its errors

`issue_linking_otp` and `complete_registration`, each as one call on the tables.  Their routes
translate `DeviceAuthError`, `DeviceCryptoError` and `ValueError`.  Three unique constraints and two
missing rows lead past them: the code that was drawn is the code of any row of
`device_linking_otps`; the client's device id is taken; the account has the key already, and a
linking code inserts it again; or the device of the key is of another epoch.
`enrolment_errors_declared_iff` says that these are all.

`mark_email_fallback`, which follows the registration of a fallback, is left out with its column:
accounts were created in the past, so that the constraint `email_fallback_at >= created_at` holds.
-/

namespace SelfRelay.Backend

/-! ## The calls -/

/-- Why a call raised. -/
inductive EnrolmentError where
  /-- `DeviceAuthFailure` -/
  | failure (message : String)
  /-- `DeviceLinkingRateLimited`, a `DeviceAuthError` -/
  | rateLimited
  | value (message : String)
  | repository (error : RepositoryError)
  deriving DecidableEq, Repr

/-- The route translates the error.  That a revoked device cannot be reactivated is a `ValueError`;
the database's own errors and the `RuntimeError` of `required_row` are not. -/
def EnrolmentError.declared : EnrolmentError → Bool
  | failure _ => true
  | rateLimited => true
  | value _ => true
  | repository .revokedDevice => true
  | repository .noRow => false
  | repository (.rejected _) => false

/-- `DEVICE_LINKING_OTP_LIFETIME`: 10 minutes. -/
def deviceLinkingOtpLifetime : Timestamp := 10 * 60 * 1000000

/-- `DEVICE_LINKING_FAILURE` -/
def deviceLinkingFailure : String := "The device-linking code is invalid or expired."

/-- `str(n).zfill(6)`, in ASCII. -/
def linkingCode (n : Fin 1000000) : List UInt8 :=
  [100000, 10000, 1000, 100, 10, 1].map fun place => UInt8.ofNat (48 + n.val / place % 10)

/-- The hash of a code. -/
def linkingCodeHash (n : Fin 1000000) : Bytea := Sha256.hash (linkingCode n)

namespace DeviceAuthService

/-- The issuing device is active in the epoch of its account. -/
def canLink (db : Database) (account device : Uuid) : Bool :=
  match AccountRepository.getById db account,
      db.devices.find? (DeviceRepository.selectsId account device) with
  | some account, some device => device.status = .active && device.epoch = account.deviceEpoch
  | _, _ => false

/-- `issue_linking_otp`, with what the rate limiter returns, the number that is drawn and the id
that the database draws. -/
def issueLinkingOtp (db : AuthDatabase) (now : Timestamp) (account device : Uuid) (allowed : Bool)
    (drawn : Fin 1000000) (id : Uuid) :
    Except EnrolmentError (AuthDatabase × DeviceLinkingOtpRecord) :=
  if !canLink db.base account device then .error (.failure "device-linking is unavailable")
  else if !allowed then .error .rateLimited
  else
    (DeviceLinkingOtpRepository.create db now account device (linkingCodeHash drawn)
      (now + deviceLinkingOtpLifetime) id).mapError .repository

/-- The registration of `complete_registration`: by the linking code, or for the email. -/
def registerClaimed (db : AuthDatabase) (now : Timestamp) (claimed : RegistrationState)
    (account : AppUser) : Except EnrolmentError DeviceRecord × AuthDatabase :=
  match claimed.challenge.linkingOtpId, claimed.challenge.linkedByDeviceId with
  | some otp, some issuer =>
    match DeviceLinkingOtpRepository.consumeAndRegister db now otp account.id issuer
        account.deviceEpoch claimed.challenge.deviceId claimed.label claimed.publicKeySpki
        claimed.challenge.fingerprint with
    | (.error error, db) => (.error (.repository error), db)
    | (.ok none, db) => (.error (.failure deviceLinkingFailure), db)
    | (.ok (some device), db) => (.ok device, db)
  -- without an issuing device the statement selects no row
  | some _, none => (.error (.failure deviceLinkingFailure), db)
  | none, _ =>
    match DeviceRepository.registerForEmail db.base now account.id account.deviceEpoch claimed.label
        claimed.publicKeySpki claimed.challenge.fingerprint claimed.challenge.deviceId with
    | .error error => (.error (.repository error), db)
    | .ok (base, device) => (.ok device, { db with base })

/-- The challenge of a call: it has the origin of the call, and fewer than ten failed attempts. -/
def validState (state : Option RegistrationState) (origin : String) : Option RegistrationState :=
  state.filter fun state => state.challenge.origin = origin && state.attempts < 10

/-- The result for a device that was registered, from the result of `session_service.create`. -/
def opened (db : AuthDatabase) (device : DeviceRecord) :
    Except ServiceError (Database × SessionRecord) →
      Except EnrolmentError (DeviceRecord × SessionRecord) × AuthDatabase
  | .error (.value message) => (.error (.value message), db)
  | .error (.repository error) => (.error (.repository error), db)
  | .ok (base, session) => (.ok (device, session), { db with base })

/-- What `complete_registration` does with the challenge that it has claimed. -/
def completeClaimed (db : AuthDatabase) (now : Timestamp) (claimed : RegistrationState)
    (secrets : SessionSecrets) :
    Except EnrolmentError (DeviceRecord × SessionRecord) × AuthDatabase :=
  match (AccountRepository.getById db.base claimed.challenge.accountId).filter
      fun account => account.deviceEpoch = claimed.challenge.epoch with
  | none => (.error (.failure "registration account is stale"), db)
  | some account =>
    match registerClaimed db now claimed account with
    | (.error error, db) => (.error error, db)
    | (.ok device, db) =>
      opened db device
        (SessionService.create db.base now account.id device.id account.deviceEpoch now
          none secrets)

/-- `complete_registration` for the state that `registration_store.get` returns, and whether the
signature verifies. -/
def enrol (db : AuthDatabase) (now : Timestamp) (state : Option RegistrationState) (origin : String)
    (proof : Bool) (secrets : SessionSecrets) :
    Except EnrolmentError (DeviceRecord × SessionRecord) × AuthDatabase :=
  match validState state origin with
  | none => (.error (.failure "registration challenge is invalid"), db)
  | some state =>
    if !proof then
      (.error (.failure "registration proof is invalid"),
        match state.challenge.linkingOtpId with
        | none => db
        | some otp => DeviceLinkingOtpRepository.markFailed db now otp)
    else completeClaimed db now state secrets

end DeviceAuthService

/-- The call succeeds or raises an error that its route translates. -/
def Declared {α : Type} : Except EnrolmentError α → Prop
  | .ok _ => True
  | .error error => error.declared = true

/-! ## When the errors are declared -/

/-- The secrets and the id of a session are new, and of the lengths of SHA-256 digests. -/
structure SessionSecrets.Fresh (secrets : SessionSecrets) (db : Database) : Prop where
  id : secrets.id ∉ db.sessions.map (·.id)
  tokenHash : ∀ s ∈ db.sessions, s.tokenHash ≠ secrets.tokenHash
  tokenLength : secrets.tokenHash.length = 32
  csrfLength : secrets.csrfHash.length = 32

/-- No device has the id, and no device of the account the fingerprint. -/
def Database.Unregistered (db : Database) (account : Uuid)
    (challenge : RegistrationChallenge) : Prop :=
  challenge.deviceId ∉ db.devices.map (·.id) ∧
    ∀ d ∈ db.devices, d.userId = account → d.fingerprint ≠ challenge.fingerprint

/-- The linking code of a challenge can be consumed. -/
def AuthDatabase.Redeemable (db : AuthDatabase) (now : Timestamp)
    (challenge : RegistrationChallenge)
    (account : AppUser) : Prop :=
  ∃ otp issuer record, challenge.linkingOtpId = some otp ∧
    challenge.linkedByDeviceId = some issuer ∧
    db.otps.get otp = some record ∧
    DeviceLinkingOtpRepository.consumable db now account.id issuer account.deviceEpoch record = true

/-- A linking code that can be consumed registers a new id and a new key; an email registers a new
id, or finds the key in the epoch of the account or revoked. -/
def AuthDatabase.Clear (db : AuthDatabase) (now : Timestamp) (challenge : RegistrationChallenge)
    (account : AppUser) : Prop :=
  if challenge.linkingOtpId.isSome then
    db.Redeemable now challenge account → db.base.Unregistered account.id challenge
  else
    match db.base.devices.find?
        (DeviceRepository.hasFingerprint account.id challenge.fingerprint) with
    | some d => d.status = .revoked ∨ d.epoch = account.deviceEpoch
    | none => challenge.deviceId ∉ db.base.devices.map (·.id)

section Inserts

variable {db : Database} {now : Timestamp}

theorem insertDevice_of_fresh {d : DeviceRecord} (hcheck : d.check = true)
    (hid : d.id ∉ db.devices.map (·.id))
    (hprint : ∀ d' ∈ db.devices, d'.userId = d.userId → d'.fingerprint ≠ d.fingerprint) :
    db.insertDevice d = .ok { db with devices := db.devices ++ [d] } := by
  have hany : ¬ (db.devices.any fun d' => d'.userId = d.userId && d'.fingerprint = d.fingerprint) =
      true := by
    simpa using hprint
  unfold Database.insertDevice
  rw [Table.insert_eq_ok.2 ⟨hcheck, hid, rfl⟩]
  exact if_neg hany

/-- An insert is rejected when the id or the fingerprint is taken. -/
theorem insertDevice_raises {d : DeviceRecord} (h : ¬ ((d.id ∉ db.devices.map (·.id)) ∧
    ∀ d' ∈ db.devices, d'.userId = d.userId → d'.fingerprint ≠ d.fingerprint)) :
    ∃ violation, db.insertDevice d = .error (.rejected violation) := by
  cases hinsert : db.insertDevice d with
  | ok db' =>
    obtain ⟨-, hid, hprint, -⟩ := insertDevice_ok hinsert
    exact (h ⟨hid, hprint⟩).elim
  | error error =>
    unfold Database.insertDevice at hinsert
    split at hinsert
    · cases hinsert
      exact ⟨_, rfl⟩
    · split at hinsert
      · cases hinsert
        exact ⟨_, rfl⟩
      · cases hinsert

theorem insertSession_of_fresh {s : SessionRecord} (hcheck : s.check = true)
    (hid : s.id ∉ db.sessions.map (·.id)) (hhash : ∀ s' ∈ db.sessions, s'.tokenHash ≠ s.tokenHash) :
    db.insertSession s = .ok { db with sessions := db.sessions ++ [s] } := by
  have hany : ¬ (db.sessions.any fun s' => s'.tokenHash = s.tokenHash) = true := by
    simpa using hhash
  unfold Database.insertSession
  rw [Table.insert_eq_ok.2 ⟨hcheck, hid, rfl⟩]
  exact if_neg hany

/-- The lifetimes of a new session: 30 days idle, 90 days in any case. -/
theorem prepare_none : SessionService.prepare now none =
    .ok (now + thirtyDays, now + 3 * thirtyDays) := by
  have habsolute : ¬ now + 3 * thirtyDays ≤ now :=
    Nat.not_le.2 (Nat.lt_add_of_pos_right (by decide))
  have hidle : ¬ now + thirtyDays ≤ now := Nat.not_le.2 (Nat.lt_add_of_pos_right (by decide))
  have hmin : min (now + thirtyDays) (now + 3 * thirtyDays) = now + thirtyDays :=
    Nat.min_eq_left (Nat.add_le_add_left (by decide) now)
  unfold SessionService.prepare
  simp only [SessionService.sessionExpiry, SessionService.idleLifetime,
    SessionService.absoluteLifetime, Option.getD_none, if_neg habsolute, hmin, if_neg hidle]

/-- A session with fresh secrets is created for a device that is active in
the epoch of its account. -/
theorem createSession_ok (hdb : ∀ user ∈ db.users, 0 ≤ user.deviceEpoch) {account device : Uuid}
    {epoch : ℤ} {secrets : SessionSecrets} (hsecrets : secrets.Fresh db)
    (haccount : db.accountAt account epoch = true)
    (hdevice : db.deviceAt account device epoch = true) :
    ∃ base session, SessionService.create db now account device epoch now none secrets =
      .ok (base, session) := by
  have hepoch : 0 ≤ epoch := by
    obtain ⟨user, huser, h⟩ := List.any_eq_true.1 haccount
    simp only [Bool.and_eq_true, decide_eq_true_eq] at h
    rw [← h.2]
    exact hdb user huser
  have hmonth : 0 < thirtyDays := by decide
  unfold SessionService.create
  rw [prepare_none, ok_bind]
  dsimp only
  rw [SessionRepository.create, if_pos (by simp [SessionRepository.admits, haccount, hdevice])]
  dsimp only
  rw [insertSession_of_fresh _ hsecrets.id hsecrets.tokenHash]
  · exact ⟨_, _, rfl⟩
  · refine SessionRecord.check_iff.2 ⟨hsecrets.tokenLength, hsecrets.csrfLength, hepoch,
      Nat.le_refl _, Nat.lt_add_of_pos_right hmonth, ?_, .inl ⟨rfl, rfl⟩⟩
    exact Nat.add_le_add_left (by decide) now

end Inserts

/-! ## Linking codes -/

section Codes

variable {db : AuthDatabase} {now : Timestamp}

theorem canLink_active {account device : Uuid}
    (h : DeviceAuthService.canLink db.base account device = true) :
    db.base.deviceActive account device = true := by
  unfold DeviceAuthService.canLink at h
  split at h
  · rename_i user d huser hdevice
    have hselected := List.find?_some huser
    have hselected' := List.find?_some hdevice
    simp only [DeviceRepository.selectsId, Bool.and_eq_true, decide_eq_true_eq,
      Option.isNone_iff_eq_none] at h hselected hselected'
    refine List.any_eq_true.2 ⟨d, List.mem_of_find?_eq_some hdevice,
      List.any_eq_true.2 ⟨user, List.mem_of_find?_eq_some huser, ?_⟩⟩
    simp [h, hselected, hselected']
  · cases h

/-- `issue_linking_otp` raises an error that its route does not translate exactly when it gets to
the insert and a row has the hash of the code that was drawn. -/
theorem issueLinkingOtp_declared_iff {account device : Uuid} {allowed : Bool} {drawn : Fin 1000000}
    {id : Uuid} (hid : db.otps.get id = none) :
    Declared (DeviceAuthService.issueLinkingOtp db now account device allowed drawn id) ↔
      (DeviceAuthService.canLink db.base account device = true → allowed = true →
        ∀ otp ∈ db.otps.values, otp.otpHash ≠ linkingCodeHash drawn) := by
  unfold DeviceAuthService.issueLinkingOtp
  by_cases hlink : DeviceAuthService.canLink db.base account device = true
  swap
  · rw [if_pos (by simpa using hlink)]
    exact iff_of_true rfl fun h => (hlink h).elim
  rw [if_neg (by simp [hlink])]
  cases allowed with
  | false => exact iff_of_true rfl fun _ h => absurd h Bool.false_ne_true
  | true =>
    have hcheck : (DeviceLinkingOtpRepository.issued now account device (linkingCodeHash drawn)
        (now + deviceLinkingOtpLifetime) id).check = true := by
      have hlife : now < now + deviceLinkingOtpLifetime := Nat.lt_add_of_pos_right (by decide)
      simp [DeviceLinkingOtpRecord.check, DeviceLinkingOtpRepository.issued, linkingCodeHash,
        Sha256.length_hash, hlife]
    have hany : (db.otps.values.any fun other => other.otpHash = linkingCodeHash drawn) = true ↔
        ¬ ∀ otp ∈ db.otps.values, otp.otpHash ≠ linkingCodeHash drawn := by
      simp
    have hid' : ¬ (db.otps.get id).isSome = true := by simp [hid]
    rw [if_neg (by decide), DeviceLinkingOtpRepository.create, if_pos (canLink_active hlink)]
    simp only [AuthDatabase.insertOtp, hcheck, Bool.true_eq_false, if_false]
    rw [show (DeviceLinkingOtpRepository.issued now account device (linkingCodeHash drawn)
        (now + deviceLinkingOtpLifetime) id).id = id from rfl, if_neg hid']
    rw [show (DeviceLinkingOtpRepository.issued now account device (linkingCodeHash drawn)
        (now + deviceLinkingOtpLifetime) id).otpHash = linkingCodeHash drawn from rfl]
    by_cases hhash : ∀ otp ∈ db.otps.values, otp.otpHash ≠ linkingCodeHash drawn
    · rw [if_neg fun h => hany.1 h hhash]
      exact iff_of_true trivial fun _ _ => hhash
    · rw [if_pos (hany.2 hhash)]
      exact iff_of_false Bool.false_ne_true fun h => hhash (h hlink trivial)

theorem consumeAndRegister_of_consumable {otp account issuer : Uuid} {epoch : ℤ} {deviceId : Uuid}
    {label : String} {spki fingerprint : Bytea} {record : DeviceLinkingOtpRecord}
    (hget : db.otps.get otp = some record)
    (hconsumable : DeviceLinkingOtpRepository.consumable db now account issuer epoch record = true)
    (hcreated : record.createdAt ≤ now) (haccount : db.base.accountAt account epoch = true) :
    DeviceLinkingOtpRepository.consumeAndRegister db now otp account issuer epoch
      deviceId label spki
        fingerprint =
      match db.base.insertDevice (DeviceRepository.inserted now deviceId account epoch label spki
        fingerprint (some issuer)) with
      | .error error => (.error error, db)
      | .ok base =>
        (.ok (some (DeviceRepository.inserted now deviceId account epoch label spki fingerprint
            (some issuer))),
          { db with
            base
            otps := db.otps.set otp { record with
                status := .consumed, consumedAt := some now } }) := by
  unfold DeviceLinkingOtpRepository.consumeAndRegister
    DeviceLinkingOtpRepository.consumeAndRegisterBody
  simp only [hget, hconsumable, if_true, if_neg (Nat.not_lt.2 hcreated), haccount]
  cases db.base.insertDevice (DeviceRepository.inserted now deviceId account epoch label spki
    fingerprint (some issuer)) with
  | error error => rfl
  | ok base => rfl

theorem consumeAndRegister_of_not_consumable {otp account issuer : Uuid} {epoch : ℤ}
    {deviceId : Uuid}
    {label : String} {spki fingerprint : Bytea}
    (h : ∀ record, db.otps.get otp = some record →
      ¬ DeviceLinkingOtpRepository.consumable db now account issuer epoch record = true) :
    DeviceLinkingOtpRepository.consumeAndRegister db now otp account issuer epoch
      deviceId label spki
      fingerprint = (.ok none, db) := by
  unfold DeviceLinkingOtpRepository.consumeAndRegister
    DeviceLinkingOtpRepository.consumeAndRegisterBody
  cases hget : db.otps.get otp with
  | none => rfl
  | some record => simp only [if_neg (h record hget)]

end Codes

/-! ## Registrations -/

section Registrations

variable {db : AuthDatabase} {now : Timestamp} {claimed : RegistrationState} {account : AppUser}

/-- The row that a registration inserts. -/
def newDevice (now : Timestamp) (claimed : RegistrationState) (account : AppUser)
    (linkedBy : Option Uuid) : DeviceRecord :=
  DeviceRepository.inserted now claimed.challenge.deviceId account.id account.deviceEpoch
    claimed.label
    claimed.publicKeySpki claimed.challenge.fingerprint linkedBy

/-- The device is registered: it is active, and a session can be created for it. -/
def Registers (db : AuthDatabase) (now : Timestamp) (claimed : RegistrationState)
    (account : AppUser) : Prop :=
  ∃ device db', DeviceAuthService.registerClaimed db now claimed account = (.ok device, db') ∧
    db'.base.users = db.base.users ∧ db'.base.sessions = db.base.sessions ∧
    db'.base.deviceAt account.id device.id account.deviceEpoch = true

/-- The registration raises an error, and changes nothing. -/
def Raises (db : AuthDatabase) (now : Timestamp) (claimed : RegistrationState) (account : AppUser)
    (declared : Bool) : Prop :=
  ∃ error : EnrolmentError, error.declared = declared ∧
    DeviceAuthService.registerClaimed db now claimed account = (.error error, db)

theorem deviceAt_newDevice {base : Database} {linkedBy : Option Uuid} :
    ({ base with devices := base.devices ++ [newDevice now claimed account linkedBy] } :
      Database).deviceAt account.id claimed.challenge.deviceId account.deviceEpoch = true :=
  List.any_eq_true.2 ⟨_, List.mem_append_right _ (List.mem_singleton_self _),
    by simp [newDevice, DeviceRepository.inserted]⟩

/-- A registration by a linking code. -/
theorem registerLinked_cases (hdb : db.base.Valid now)
    (hotps : ∀ id otp, db.otps.get id = some otp → otp.createdAt ≤ now)
    (hlabel : labelOk claimed.label)
    (hkey : keyOk claimed.publicKeySpki claimed.challenge.fingerprint)
    (haccount : db.base.accountAt account.id account.deviceEpoch = true)
    (hlink : claimed.challenge.linkingOtpId.isSome = true) :
    (db.Redeemable now claimed.challenge account ∧
        db.base.Unregistered account.id claimed.challenge ∧ Registers db now claimed account) ∨
      (db.Redeemable now claimed.challenge account ∧
        ¬ db.base.Unregistered account.id claimed.challenge ∧ Raises db now claimed account false) ∨
      (¬ db.Redeemable now claimed.challenge account ∧ Raises db now claimed account true) := by
  obtain ⟨otp, hotp⟩ := Option.isSome_iff_exists.1 hlink
  by_cases hredeem : db.Redeemable now claimed.challenge account
  · obtain ⟨otp', issuer, record, hotp', hissuer, hget, hconsumable⟩ := id hredeem
    obtain rfl := Option.some.inj (hotp'.symm.trans hotp)
    have hregister : DeviceAuthService.registerClaimed db now claimed account =
        match db.base.insertDevice (newDevice now claimed account (some issuer)) with
        | .error error => (.error (.repository error), db)
        | .ok base =>
          (.ok (newDevice now claimed account (some issuer)),
            { db with
              base
              otps := db.otps.set otp'
                { record with status := .consumed, consumedAt := some now } }) := by
      simp only [DeviceAuthService.registerClaimed, hotp, hissuer,
        consumeAndRegister_of_consumable hget hconsumable (hotps _ _ hget) haccount, newDevice]
      generalize db.base.insertDevice _ = inserted
      cases inserted <;> rfl
    by_cases hnew : db.base.Unregistered account.id claimed.challenge
    · -- the issuing device has another id
      have hissuer' : some issuer ≠ some claimed.challenge.deviceId := by
        rintro ⟨⟩
        simp only [DeviceLinkingOtpRepository.consumable, Bool.and_eq_true, decide_eq_true_eq]
          at hconsumable
        obtain ⟨d, hd, h⟩ := List.any_eq_true.1 hconsumable.2
        simp only [Bool.and_eq_true, decide_eq_true_eq] at h
        exact hnew.1 (List.mem_map.2 ⟨d, hd, h.1.1.2.trans hconsumable.1.1.1.1.1.2⟩)
      have hcheck : (newDevice now claimed account (some issuer)).check = true :=
        (check_inserted (epoch_nonneg hdb haccount)).2 ⟨hlabel, hkey, hissuer'⟩
      rw [insertDevice_of_fresh hcheck hnew.1 hnew.2] at hregister
      exact .inl ⟨hredeem, hnew, _, _, hregister, rfl, rfl, deviceAt_newDevice⟩
    · obtain ⟨violation, hinsert⟩ : ∃ violation, db.base.insertDevice
          (newDevice now claimed account (some issuer)) = .error (.rejected violation) :=
        insertDevice_raises hnew
      rw [hinsert] at hregister
      exact .inr (.inl ⟨hredeem, hnew, _, rfl, hregister⟩)
  · refine .inr (.inr ⟨hredeem, .failure deviceLinkingFailure, rfl, ?_⟩)
    cases hissuer : claimed.challenge.linkedByDeviceId with
    | none => simp only [DeviceAuthService.registerClaimed, hotp, hissuer]
    | some issuer =>
      have hnone : DeviceLinkingOtpRepository.consumeAndRegister db now otp account.id issuer
          account.deviceEpoch claimed.challenge.deviceId claimed.label claimed.publicKeySpki
          claimed.challenge.fingerprint = (.ok none, db) :=
        consumeAndRegister_of_not_consumable fun record hget hconsumable =>
          hredeem ⟨otp, issuer, record, hotp, hissuer, hget, hconsumable⟩
      simp only [DeviceAuthService.registerClaimed, hotp, hissuer, hnone]

/-- The update of `register_for_email`. -/
def reactivation (now : Timestamp) (claimed : RegistrationState) (account : AppUser) :
    Update DeviceRecord where
  selected d := DeviceRepository.hasFingerprint account.id claimed.challenge.fingerprint d &&
    d.epoch = account.deviceEpoch
  set := DeviceRecord.activated now claimed.label

/-- A fingerprint leads to one device of the account. -/
theorem Database.Valid.eq_of_found {base : Database} (hdb : base.Valid now) {account : Uuid}
    {fingerprint : Bytea} {existing : DeviceRecord}
    (hfind : base.devices.find? (DeviceRepository.hasFingerprint account fingerprint) =
      some existing) :
    ∀ d ∈ base.devices, DeviceRepository.hasFingerprint account fingerprint d = true →
      d = existing := by
  intro d hd h
  have hfound := List.find?_some hfind
  simp only [DeviceRepository.hasFingerprint, Bool.and_eq_true, decide_eq_true_eq] at h hfound
  exact hdb.fingerprints d hd existing (List.mem_of_find?_eq_some hfind) (h.1.trans hfound.1.symm)
    (h.2.trans hfound.2.symm)

/-- `register_for_email` for a key that the account has and that is not revoked. -/
theorem registerForEmail_of_found (hdb : db.base.Valid now) (hlabel : labelOk claimed.label)
    {existing : DeviceRecord}
    (hfind : db.base.devices.find?
      (DeviceRepository.hasFingerprint account.id claimed.challenge.fingerprint) = some existing)
    (hrevoked : existing.status ≠ .revoked) :
    DeviceRepository.registerForEmail db.base now account.id account.deviceEpoch claimed.label
        claimed.publicKeySpki claimed.challenge.fingerprint claimed.challenge.deviceId =
      match Table.written (reactivation now claimed account).selected
        (reactivation now claimed account).set db.base.devices with
      | record :: _ =>
        .ok ({ db.base with
          devices := (reactivation now claimed account).apply db.base.devices }, record)
      | [] => .error .noRow := by
  have hmem := List.mem_of_find?_eq_some hfind
  have hcheck : ∀ d ∈ db.base.devices, (reactivation now claimed account).selected d = true →
      ((reactivation now claimed account).set d).check = true := by
    intro d hd hd'
    rw [hdb.eq_of_found hfind d hd (Bool.and_eq_true_iff.1 hd').1]
    exact (check_activated (hdb.devices existing hmem) (hdb.devicesTimely existing hmem) hrevoked).2
      hlabel
  have hupdate : db.base.updateDevices (reactivation now claimed account).selected
      (reactivation now claimed account).set =
      .ok ({ db.base with devices := (reactivation now claimed account).apply db.base.devices },
        Table.written (reactivation now claimed account).selected
          (reactivation now claimed account).set db.base.devices) := by
    rw [Database.updateDevices, Table.update_eq_ok.2 ⟨hcheck, rfl, rfl⟩]
    rfl
  simp only [DeviceRepository.registerForEmail, hfind, if_neg hrevoked]
  exact congrArg (· >>= _) hupdate

/-- A registration for an email. -/
theorem registerEmail_cases (hdb : db.base.Valid now) (hlabel : labelOk claimed.label)
    (hkey : keyOk claimed.publicKeySpki claimed.challenge.fingerprint)
    (haccount : db.base.accountAt account.id account.deviceEpoch = true)
    (hemail : claimed.challenge.linkingOtpId = none) :
    (db.Clear now claimed.challenge account ∧
        (Registers db now claimed account ∨ Raises db now claimed account true)) ∨
      (¬ db.Clear now claimed.challenge account ∧ Raises db now claimed account false) := by
  have hregister : DeviceAuthService.registerClaimed db now claimed account =
      match DeviceRepository.registerForEmail db.base now account.id account.deviceEpoch
        claimed.label
        claimed.publicKeySpki claimed.challenge.fingerprint claimed.challenge.deviceId with
      | .error error => (.error (.repository error), db)
      | .ok (base, device) => (.ok device, { db with base }) := by
    simp only [DeviceAuthService.registerClaimed, hemail]
  have hclear : db.Clear now claimed.challenge account ↔
      match db.base.devices.find?
        (DeviceRepository.hasFingerprint account.id claimed.challenge.fingerprint) with
      | some d => d.status = .revoked ∨ d.epoch = account.deviceEpoch
      | none => claimed.challenge.deviceId ∉ db.base.devices.map (·.id) := by
    rw [AuthDatabase.Clear, hemail]
    rfl
  rw [hclear]
  cases hfind : db.base.devices.find?
      (DeviceRepository.hasFingerprint account.id claimed.challenge.fingerprint) with
  | none =>
    have hprint : ∀ d ∈ db.base.devices, d.userId = account.id →
        d.fingerprint ≠ claimed.challenge.fingerprint := by
      intro d hd huser hprint
      exact List.find?_eq_none.1 hfind d hd
        (by simp [DeviceRepository.hasFingerprint, huser, hprint])
    have hinsert : DeviceRepository.registerForEmail db.base now account.id account.deviceEpoch
        claimed.label claimed.publicKeySpki claimed.challenge.fingerprint
          claimed.challenge.deviceId =
        (do
          let base ← db.base.insertDevice (newDevice now claimed account none)
          return (base, newDevice now claimed account none)) := by
      simp only [DeviceRepository.registerForEmail, hfind, haccount, if_true]
      rfl
    rw [hinsert] at hregister
    by_cases hid : claimed.challenge.deviceId ∉ db.base.devices.map (·.id)
    · have hcheck : (newDevice now claimed account none).check = true :=
        (check_inserted (epoch_nonneg hdb haccount)).2 ⟨hlabel, hkey, (Option.some_ne_none _).symm⟩
      rw [insertDevice_of_fresh hcheck hid hprint] at hregister
      exact .inl ⟨hid, .inl ⟨_, _, hregister, rfl, rfl, deviceAt_newDevice⟩⟩
    · obtain ⟨violation, hraises⟩ : ∃ violation, db.base.insertDevice
          (newDevice now claimed account none) = .error (.rejected violation) :=
        insertDevice_raises fun h => hid h.1
      rw [hraises] at hregister
      exact .inr ⟨hid, _, rfl, hregister⟩
  | some existing =>
    dsimp only
    have hmem := List.mem_of_find?_eq_some hfind
    have hselected := List.find?_some hfind
    by_cases hrevoked : existing.status = .revoked
    · simp only [DeviceRepository.registerForEmail, hfind, if_pos hrevoked] at hregister
      exact .inl ⟨.inl hrevoked, .inr ⟨_, rfl, hregister⟩⟩
    have heq := hdb.eq_of_found hfind
    have hrun := registerForEmail_of_found hdb hlabel hfind hrevoked
    by_cases hepoch : existing.epoch = account.deviceEpoch
    · have hexisting : (reactivation now claimed account).selected existing = true :=
        Bool.and_eq_true_iff.2 ⟨hselected, decide_eq_true hepoch⟩
      cases hwritten : Table.written (reactivation now claimed account).selected
          (reactivation now claimed account).set db.base.devices with
      | nil =>
        exact (written_eq_nil.1 hwritten (List.any_eq_true.2 ⟨existing, hmem, hexisting⟩)).elim
      | cons record rest =>
        have hrecord : record = existing.activated now claimed.label := by
          have hmem' : record ∈ Table.written (reactivation now claimed account).selected
            (reactivation now claimed account).set db.base.devices := hwritten ▸ List.mem_cons_self
          obtain ⟨d, hd, hd', rfl⟩ := Table.mem_written.1 hmem'
          rw [heq d hd (Bool.and_eq_true_iff.1 hd').1]
          rfl
        rw [hrun, hwritten] at hregister
        refine .inl ⟨.inr hepoch, .inl ⟨record, _, hregister, rfl, rfl, ?_⟩⟩
        simp only [DeviceRepository.hasFingerprint, Bool.and_eq_true,
          decide_eq_true_eq] at hselected
        refine List.any_eq_true.2 ⟨record, Update.mem_apply.2 ⟨existing, hmem, ?_⟩, ?_⟩
        · rw [Update.row_of_selected hexisting, hrecord]
          rfl
        · simp [hrecord, DeviceRecord.activated, hselected.1, hepoch]
    · have hwritten : Table.written (reactivation now claimed account).selected
          (reactivation now claimed account).set db.base.devices = [] := by
        refine List.eq_nil_iff_forall_not_mem.2 fun record hrecord => ?_
        obtain ⟨d, hd, hd', -⟩ := Table.mem_written.1 hrecord
        obtain ⟨hprint, hepoch'⟩ := Bool.and_eq_true_iff.1 hd'
        rw [heq d hd hprint] at hepoch'
        exact hepoch (of_decide_eq_true hepoch')
      rw [hrun, hwritten] at hregister
      refine .inr ⟨?_, _, rfl, hregister⟩
      rintro (h | h)
      · exact hrevoked h
      · exact hepoch h

end Registrations

/-! ## Enrolments -/

section Enrolments

variable {db : AuthDatabase} {now : Timestamp} {claimed : RegistrationState}
  {secrets : SessionSecrets}

theorem accountAt_of_getById {base : Database} {id : Uuid} {account : AppUser}
    (h : AccountRepository.getById base id = some account) :
    base.accountAt account.id account.deviceEpoch = true := by
  have hselected := List.find?_some h
  simp only [Bool.and_eq_true, decide_eq_true_eq] at hselected
  exact List.any_eq_true.2 ⟨account, List.mem_of_find?_eq_some h, by simp [hselected.2]⟩

/-- A challenge is registered in a declared way exactly when the account's
tables are clear for it. -/
theorem registerClaimed_cases {account : AppUser} (hdb : db.base.Valid now)
    (hotps : ∀ id otp, db.otps.get id = some otp → otp.createdAt ≤ now)
    (hlabel : labelOk claimed.label)
    (hkey : keyOk claimed.publicKeySpki claimed.challenge.fingerprint)
    (haccount : db.base.accountAt account.id account.deviceEpoch = true) :
    (db.Clear now claimed.challenge account ∧
        (Registers db now claimed account ∨ Raises db now claimed account true)) ∨
      (¬ db.Clear now claimed.challenge account ∧ Raises db now claimed account false) := by
  cases hotp : claimed.challenge.linkingOtpId with
  | none => exact registerEmail_cases hdb hlabel hkey haccount hotp
  | some otp =>
    have hlink : claimed.challenge.linkingOtpId.isSome = true := by
      rw [hotp]
      rfl
    have hclear : db.Clear now claimed.challenge account ↔
        (db.Redeemable now claimed.challenge account →
          db.base.Unregistered account.id claimed.challenge) := by
      rw [AuthDatabase.Clear, if_pos hlink]
    rw [hclear]
    obtain ⟨-, hnew, hregisters⟩ | ⟨hredeem, htaken, hraises⟩ | ⟨hredeem, hraises⟩ :=
      registerLinked_cases hdb hotps hlabel hkey haccount hlink
    · exact .inl ⟨fun _ => hnew, .inl hregisters⟩
    · exact .inr ⟨fun h => htaken (h hredeem), hraises⟩
    · exact .inl ⟨fun h => (hredeem h).elim, .inr hraises⟩

theorem completeClaimed_declared_iff (hdb : db.base.Valid now)
    (hotps : ∀ id otp, db.otps.get id = some otp → otp.createdAt ≤ now)
    (hlabel : labelOk claimed.label)
    (hkey : keyOk claimed.publicKeySpki claimed.challenge.fingerprint)
    (hsecrets : secrets.Fresh db.base) :
    Declared (DeviceAuthService.completeClaimed db now claimed secrets).1 ↔
      ∀ account, AccountRepository.getById db.base claimed.challenge.accountId = some account →
        account.deviceEpoch = claimed.challenge.epoch → db.Clear now claimed.challenge account := by
  unfold DeviceAuthService.completeClaimed
  cases hget : AccountRepository.getById db.base claimed.challenge.accountId with
  | none =>
    simp only [Option.filter_none]
    exact iff_of_true rfl nofun
  | some account =>
    by_cases hepoch : account.deviceEpoch = claimed.challenge.epoch
    swap
    · simp only [Option.filter_some, decide_eq_true_eq, if_neg hepoch]
      refine iff_of_true rfl ?_
      rintro _ ⟨⟩ h
      exact (hepoch h).elim
    simp only [Option.filter_some, decide_eq_true_eq, if_pos hepoch]
    have haccount := accountAt_of_getById hget
    obtain ⟨hclear, ⟨device, db', hregister, husers, hsessions, hdevice⟩ |
        ⟨error, herror, hregister⟩⟩ | ⟨hclear, error, herror, hregister⟩ :=
      registerClaimed_cases hdb hotps hlabel hkey haccount
    · have hfresh : secrets.Fresh db'.base :=
        ⟨by rw [hsessions]; exact hsecrets.id, by rw [hsessions]; exact hsecrets.tokenHash,
          hsecrets.tokenLength, hsecrets.csrfLength⟩
      have haccount' : db'.base.accountAt account.id account.deviceEpoch = true := by
        rw [Database.accountAt, husers]
        exact haccount
      have hepochs : ∀ user ∈ db'.base.users, 0 ≤ user.deviceEpoch := by
        rw [husers]
        exact hdb.users
      obtain ⟨base, session, hcreate⟩ : ∃ base session,
        SessionService.create db'.base now account.id
          device.id account.deviceEpoch now none secrets = .ok (base, session) :=
        createSession_ok hepochs hfresh haccount' hdevice
      simp only [hregister]
      rw [hcreate]
      refine iff_of_true trivial ?_
      rintro _ ⟨⟩ -
      exact hclear
    · simp only [hregister]
      refine iff_of_true herror ?_
      rintro _ ⟨⟩ -
      exact hclear
    · simp only [hregister]
      refine iff_of_false ?_ fun h => hclear (h account rfl hepoch)
      simp [Declared, herror]

/-- A device that is inactive is active after it redeems a linking code with its key. -/
def AuthDatabase.Rejoins (db : AuthDatabase) (now : Timestamp) (claimed : RegistrationState)
    (db' : AuthDatabase) : Prop :=
  ∀ account, AccountRepository.getById db.base claimed.challenge.accountId = some account →
    account.deviceEpoch = claimed.challenge.epoch → db.Redeemable now claimed.challenge account →
    ∀ d ∈ db.base.devices, d.userId = account.id → d.fingerprint = claimed.challenge.fingerprint →
      d.status = .inactive → db'.base.deviceActive account.id d.id = true

/-- The two calls raise only errors that their routes translate, and let an inactive device in
again, exactly when no row has the hash of the code that is drawn, and the account's tables are
clear for the challenge that is completed. -/
theorem enrolment_errors_declared_iff (hdb : db.base.Valid now)
    (hotps : ∀ id otp, db.otps.get id = some otp → otp.createdAt ≤ now) :
    (∀ account device allowed drawn id, db.otps.get id = none →
      (Declared (DeviceAuthService.issueLinkingOtp db now account device allowed drawn id) ↔
        (DeviceAuthService.canLink db.base account device = true → allowed = true →
          ∀ otp ∈ db.otps.values, otp.otpHash ≠ linkingCodeHash drawn))) ∧
      ∀ state origin proof secrets,
        (∀ claimed ∈ state, labelOk claimed.label ∧
          keyOk claimed.publicKeySpki claimed.challenge.fingerprint) →
        secrets.Fresh db.base →
        ((Declared (DeviceAuthService.enrol db now state origin proof secrets).1 ∧
            ∀ claimed ∈ DeviceAuthService.validState state origin, proof = true →
              db.Rejoins now claimed
                (DeviceAuthService.enrol db now state origin proof secrets).2) ↔
          ∀ claimed ∈ DeviceAuthService.validState state origin, proof = true →
            ∀ account, AccountRepository.getById db.base
              claimed.challenge.accountId = some account →
              account.deviceEpoch = claimed.challenge.epoch →
              db.Clear now claimed.challenge account) := by
  refine ⟨fun _ _ _ _ _ hid => issueLinkingOtp_declared_iff hid, ?_⟩
  intro state origin proof secrets hstate hsecrets
  cases hvalid : DeviceAuthService.validState state origin with
  | none =>
    refine iff_of_true ⟨?_, nofun⟩ nofun
    unfold DeviceAuthService.enrol
    rw [hvalid]
    rfl
  | some claimed =>
    cases proof with
    | false =>
      refine iff_of_true ⟨?_, fun _ _ => nofun⟩ fun _ _ => nofun
      unfold DeviceAuthService.enrol
      rw [hvalid]
      rfl
    | true =>
      have hclaimed : claimed ∈ state := (Option.filter_eq_some_iff.1 hvalid).1
      obtain ⟨hlabel, hkey⟩ := hstate claimed hclaimed
      have henrol : DeviceAuthService.enrol db now state origin true secrets =
          DeviceAuthService.completeClaimed db now claimed secrets := by
        unfold DeviceAuthService.enrol
        rw [hvalid]
        rfl
      rw [henrol, completeClaimed_declared_iff hdb hotps hlabel hkey hsecrets]
      constructor
      · rintro ⟨h, -⟩ _ ⟨⟩ -
        exact h
      · intro h
        refine ⟨h claimed rfl rfl, ?_⟩
        rintro _ ⟨⟩ - account hget hepoch hredeem d hd huser hprint -
        -- the key of a device is not new
        have hotp : claimed.challenge.linkingOtpId.isSome = true := by
          obtain ⟨otp, issuer, record, hotp, -⟩ := hredeem
          rw [hotp]
          rfl
        have hclear := h claimed rfl rfl account hget hepoch
        rw [AuthDatabase.Clear, if_pos hotp] at hclear
        exact ((hclear hredeem).2 d hd huser hprint).elim

end Enrolments

/-- A new key, linked by the code `otp`. -/
def newcomer (otp : Option Uuid) : RegistrationState where
  challenge := {
    challengeId := ⟨9⟩
    accountId := ⟨1⟩
    deviceId := ⟨8⟩
    epoch := 0
    nonce := []
    origin := "https://relay.example"
    issuedAt := 5
    expiresAt := 9
    fingerprint := List.replicate 32 8
    fallback := false
    enrollmentMethod := .email
    linkingOtpId := otp
    linkedByDeviceId := otp.map fun _ => ⟨2⟩ }
  publicKeySpki := [0]
  label := "phone"
  attempts := 0

/-- The secrets of a new session. -/
def newSecrets : SessionSecrets := ⟨List.replicate 32 1, List.replicate 32 1, ⟨10⟩⟩

/-- Without rows in `device_linking_otps` any code can be issued, and a new key is registered. -/
theorem enrolment_errors_declared_newcomer :
    Declared (DeviceAuthService.issueLinkingOtp ⟨sessionDatabase, ∅, ∅⟩ 5 ⟨1⟩ ⟨2⟩ true 0 ⟨6⟩) ∧
      Declared (DeviceAuthService.enrol ⟨sessionDatabase, ∅, ∅⟩ 5 (some (newcomer none))
        "https://relay.example" true newSecrets).1 := by
  obtain ⟨hissue, henrol⟩ :=
    @enrolment_errors_declared_iff ⟨sessionDatabase, ∅, ∅⟩ 5 sessionDatabase_valid nofun
  refine ⟨(hissue _ _ _ _ _ rfl).2 fun _ _ => nofun, ((henrol _ _ _ _ ?_ ?_).2 ?_).1⟩
  · rintro _ ⟨⟩
    exact ⟨⟨by decide, by decide⟩, ⟨by decide, by decide⟩, rfl⟩
  · exact ⟨by decide, by decide, by decide, by decide⟩
  · rintro _ ⟨⟩ - account hget -
    obtain rfl := Option.some.inj hget
    show (⟨8⟩ : Uuid) ∉ sessionDatabase.devices.map (·.id)
    decide

/-- A device is inactive; a code was consumed, and another one can still be redeemed. -/
def relinkedDatabase : AuthDatabase where
  base := { sessionDatabase with
    devices := [offeredDatabase.device 2, { offeredDatabase.device 3 with status := .inactive }] }
  otps := ((∅ : Dict Uuid DeviceLinkingOtpRecord).set ⟨6⟩ (consumed (linkingCodeHash 0))).set ⟨7⟩
    (DeviceLinkingOtpRepository.issued 5 ⟨1⟩ ⟨2⟩ (List.replicate 32 0) 9 ⟨7⟩)
  challenges := ∅
where
  consumed (otpHash : Bytea) : DeviceLinkingOtpRecord :=
    { DeviceLinkingOtpRepository.issued 2 ⟨1⟩ ⟨2⟩ otpHash 4 ⟨6⟩ with
      status := .consumed
      consumedAt := some 3 }

/-- The inactive device with its key, and the code that can be redeemed. -/
def rejoining : RegistrationState :=
  { newcomer (some ⟨7⟩) with
    challenge := { (newcomer (some ⟨7⟩)).challenge with fingerprint := List.replicate 32 3 } }

theorem relinkedDatabase_valid : relinkedDatabase.base.Valid 5 where
  users := by decide
  devices := by decide
  fingerprints := by decide
  sessions := by decide
  transfers := by decide
  devicesTimely := by decide
  sessionsTimely := by decide
  transfersTimely t ht := by
    obtain rfl := List.mem_singleton.1 ht
    exact ⟨by decide, by rintro _ ⟨⟩⟩

/-- The code of a consumed row cannot be issued again, and the inactive device does not come back:
both calls raise a violation of a unique constraint. -/
theorem enrolment_violates_unique :
    relinkedDatabase.base.Valid 5 ∧
      (∀ otp ∈ relinkedDatabase.otps.values, otp.check = true ∧ otp.createdAt ≤ 5) ∧
      ¬ Declared (DeviceAuthService.issueLinkingOtp relinkedDatabase 5 ⟨1⟩ ⟨2⟩ true 0 ⟨10⟩) ∧
      DeviceAuthService.enrol relinkedDatabase 5 (some rejoining) "https://relay.example" true
          newSecrets =
        (.error (.repository (.rejected .unique)), relinkedDatabase) ∧
      relinkedDatabase.base.deviceActive ⟨1⟩ ⟨3⟩ = false := by
  refine ⟨relinkedDatabase_valid, ?_, ?_, rfl, by decide⟩
  · intro otp hotp
    obtain ⟨id, hget⟩ := Dict.mem_values.1 hotp
    rw [relinkedDatabase] at hget
    by_cases hissued : id = ⟨7⟩
    · rw [hissued, Dict.get_set] at hget
      cases hget
      exact ⟨by decide, by decide⟩
    rw [Dict.get_set_ne hissued] at hget
    by_cases hconsumed : id = ⟨6⟩
    · rw [hconsumed, Dict.get_set] at hget
      cases hget
      refine ⟨?_, by decide⟩
      simp [DeviceLinkingOtpRecord.check, relinkedDatabase.consumed,
        DeviceLinkingOtpRepository.issued,
        linkingCodeHash, Sha256.length_hash]
    · rw [Dict.get_set_ne hconsumed] at hget
      cases hget
  rw [issueLinkingOtp_declared_iff rfl]
  intro h
  have hconsumed : relinkedDatabase.consumed (linkingCodeHash 0) ∈ relinkedDatabase.otps.values :=
    Dict.mem_values.2 ⟨⟨6⟩, rfl⟩
  exact h (by decide) rfl _ hconsumed rfl

end SelfRelay.Backend
