import SelfRelay.Backend.DeviceAuth
import SelfRelay.Backend.RowUpdates

/-!
# The write operations of `DeviceLinkingOtpRepository`

`create`, with the constraints of `private.device_linking_otps`, and a call of any write operation.
-/

namespace SelfRelay.Backend

/-- The constraints of `private.device_linking_otps`. -/
def DeviceLinkingOtpRecord.check (otp : DeviceLinkingOtpRecord) : Bool :=
  otp.otpHash.length = 32 &&
  otp.attemptCount ≤ 10 &&
  otp.createdAt < otp.expiresAt &&
  otp.consumedAt.all (otp.createdAt ≤ ·) &&
  (decide (otp.status = .consumed) == otp.consumedAt.isSome)

/-- An insert into `private.device_linking_otps`, where `otp_hash` is unique as well. -/
def AuthDatabase.insertOtp (db : AuthDatabase) (otp : DeviceLinkingOtpRecord) :
    Except RepositoryError AuthDatabase :=
  if otp.check = false then .error (.rejected .check)
  else if (db.otps.get otp.id).isSome then .error (.rejected .unique)
  else if db.otps.values.any fun other => other.otpHash = otp.otpHash then
    .error (.rejected .unique)
  else .ok { db with otps := db.otps.set otp.id otp }

/-- The device that a linking code registers. -/
structure LinkedDevice where
  id : Uuid
  label : String
  signingPublicKeySpki : Bytea
  fingerprint : Bytea
  deriving DecidableEq, Repr

/-- A call of a write operation.  The `id` of `create` is what `gen_random_uuid()` returns. -/
inductive LinkingOtpOperation where
  | create (account issuingDevice : Uuid) (otpHash : Bytea) (expiresAt : Timestamp) (id : Uuid)
  | markFailed (otp : Uuid)
  | consumeAndRegister (otp account issuingDevice : Uuid) (epoch : ℤ) (device : LinkedDevice)

namespace DeviceLinkingOtpRepository

variable (db : AuthDatabase) (now : Timestamp)

/-- The row that `create` inserts. -/
def issued (account issuingDevice : Uuid) (otpHash : Bytea) (expiresAt : Timestamp) (id : Uuid) :
    DeviceLinkingOtpRecord where
  id := id
  userId := account
  issuingDeviceId := issuingDevice
  otpHash := otpHash
  status := .active
  attemptCount := 0
  createdAt := now
  expiresAt := expiresAt
  consumedAt := none

/-- `create` -/
def create (account issuingDevice : Uuid) (otpHash : Bytea) (expiresAt : Timestamp) (id : Uuid) :
    Except RepositoryError (AuthDatabase × DeviceLinkingOtpRecord) :=
  if db.base.deviceActive account issuingDevice then do
    let record := issued now account issuingDevice otpHash expiresAt id
    let db ← db.insertOtp record
    return (db, record)
  else .error .noRow

/-- The tables after a call. -/
def perform : LinkingOtpOperation → AuthDatabase
  | .create account issuingDevice otpHash expiresAt id =>
    match create db now account issuingDevice otpHash expiresAt id with
    | .error _ => db
    | .ok (db, _) => db
  | .markFailed otp => markFailed db now otp
  | .consumeAndRegister otp account issuingDevice epoch device =>
    (consumeAndRegister db now otp account issuingDevice epoch device.id device.label
      device.signingPublicKeySpki device.fingerprint).2

variable {db now}

theorem insertOtp_ok {db' : AuthDatabase} {otp : DeviceLinkingOtpRecord}
    (h : db.insertOtp otp = .ok db') : db' = { db with otps := db.otps.set otp.id otp } := by
  unfold AuthDatabase.insertOtp at h
  split_ifs at h
  exact (Except.ok.inj h).symm

/-- A call leaves the accounts, devices and sessions as they are, except that it
may register a device. -/
theorem perform_base (op : LinkingOtpOperation) :
    (perform db now op).base = db.base ∨ ∃ d : DeviceRecord, d.Inserted db.base now ∧
      (perform db now op).base = { db.base with devices := db.base.devices ++ [d] } := by
  cases op with
  | create account issuingDevice otpHash expiresAt id =>
    left
    simp only [perform]
    split
    · rfl
    · rename_i db' record hcreate
      unfold create at hcreate
      split at hcreate
      · obtain ⟨db₁, hinsert, hok⟩ := exists_of_bind_eq_ok hcreate
        cases hok
        rw [insertOtp_ok hinsert]
      · cases hcreate
  | markFailed otp =>
    left
    obtain h | ⟨record, status, -, -, -, h⟩ := markFailed_cases db now otp
    · rw [perform, h]
    · rw [perform, h]
  | consumeAndRegister otp account issuingDevice epoch device =>
    obtain ⟨record, base, inserted, -, hconsumable, hinsert, h⟩ | h | ⟨-, e, -, -, h⟩ :=
      consumeAndRegister_cases db now otp account issuingDevice epoch device.id device.label
        device.signingPublicKeySpki device.fingerprint
    · right
      obtain ⟨hcheck, hid, hprint, rfl⟩ := insertDevice_ok hinsert
      simp only [consumable, Bool.and_eq_true, decide_eq_true_eq] at hconsumable
      have haccount : db.base.accountAt account epoch = true := by
        rw [← hconsumable.1.1.1.1.1.1]
        exact hconsumable.1.2
      exact ⟨_, ⟨hcheck, hid, hprint, haccount, rfl, rfl⟩, congrArg (AuthDatabase.base ·.2) h⟩
    · exact .inl (congrArg (AuthDatabase.base ·.2) h)
    · exact .inl (congrArg (AuthDatabase.base ·.2) h)

end DeviceLinkingOtpRepository

end SelfRelay.Backend
