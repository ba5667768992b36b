import SelfRelay.Backend.LinkingOtpRepository
import SelfRelay.Lib.ColumnNames

/-!
# The query of `get_active_by_hash`

`_OTP_COLUMNS` names its columns without a table.  In the `RETURNING` clauses of `create` and
`mark_failed` there is one table.  `get_active_by_hash` joins `private.device_linking_otps` with
`private.app_users`, and both have an `id` and a `created_at`: PostgreSQL rejects the query,
whatever the tables hold, and no linking code is ever accepted (`linking_code_never_accepted`).
-/

namespace SelfRelay.Backend

open Sql

/-! ## The tables and the query -/

/-- The columns of `private.device_linking_otps`. -/
def deviceLinkingOtpColumns : List String :=
  ["id", "user_id", "issuing_device_id", "otp_hash", "status", "attempt_count", "created_at",
    "expires_at", "consumed_at"]

/-- The columns of `private.app_users` after the last migration. -/
def appUserColumns : List String :=
  ["id", "supabase_user_id", "email_normalized", "device_epoch", "created_at", "email_fallback_at",
    "deleted_at"]

/-- `_OTP_COLUMNS` -/
def otpColumns : List ColumnRef :=
  [.plain "id", .plain "user_id", .plain "issuing_device_id", .plain "otp_hash", .plain "status",
    .plain "attempt_count", .plain "created_at", .plain "expires_at", .plain "consumed_at"]

/-- The query of `get_active_by_hash`: the join condition, the columns, the `WHERE` clause. -/
def activeByHashQuery : Query where
  items := [⟨"otp", deviceLinkingOtpColumns⟩, ⟨"account", appUserColumns⟩]
  references :=
    [.qualified "account" "id", .qualified "otp" "user_id"] ++ otpColumns ++
      [.qualified "otp" "otp_hash", .qualified "otp" "status", .qualified "otp" "expires_at",
        .qualified "account" "deleted_at"]

/-- `get_active_by_hash` -/
def DeviceLinkingOtpRepository.fetchActiveByHash (db : AuthDatabase) (now : Timestamp)
    (otpHash : Bytea) : Except NameError (Option DeviceLinkingOtpRecord) := do
  activeByHashQuery.check
  return getActiveByHash db now otpHash

/-! ## `issue_linking_challenge` -/

/-- `AccountRepository.get_by_id` -/
def AccountRepository.getById (db : Database) (account : Uuid) : Option AppUser :=
  db.users.find? fun user => user.id = account && user.deletedAt.isNone

/-- Why a code was not accepted. -/
inductive LinkingError where
  /-- `DeviceLinkingRateLimited` -/
  | rateLimited
  /-- `DeviceAuthFailure(DEVICE_LINKING_FAILURE)` -/
  | failure
  /-- The database rejects a query. -/
  | database (error : NameError)
  deriving DecidableEq, Repr

/-- `issue_linking_challenge` for a code of six digits: the account and the code that a challenge is
issued for.  `allowed` is what the rate limiter returns, `values` what the key and the label
normalise to. -/
def DeviceAuthService.acceptCode (db : AuthDatabase) (now : Timestamp) (allowed : Bool)
    (codeHash : Bytea) (values : Option RegistrationValues) :
    Except LinkingError (AppUser × DeviceLinkingOtpRecord) :=
  if !allowed then .error .rateLimited
  else
    match DeviceLinkingOtpRepository.fetchActiveByHash db now codeHash with
    | .error error => .error (.database error)
    | .ok none => .error .failure
    | .ok (some record) =>
      if 10 ≤ record.attemptCount then .error .failure
      else
        match AccountRepository.getById db.base record.userId,
            db.base.devices.find? (DeviceRepository.selectsId record.userId record.issuingDeviceId),
            values with
        | some account, some issuer, some _ =>
          if issuer.status = .active && issuer.epoch = account.deviceEpoch then
            .ok (account, record)
          else .error .failure
        | _, _, _ => .error .failure

/-! ## Names -/

/-- Both tables of the join have an `id`. -/
theorem activeByHashQuery_check : activeByHashQuery.check = .error (.ambiguous "id") := by
  refine Query.check_eq_error [.qualified "account" "id", .qualified "otp" "user_id"] rfl ?_ ?_
  · intro ref href
    obtain rfl | rfl : ref = .qualified "account" "id" ∨ ref = .qualified "otp" "user_id" := by
      simpa using href
    · exact ⟨"account", rfl⟩
    · exact ⟨"otp", rfl⟩
  · exact resolve_plain_of_two (List.Sublist.refl _) (by decide) (by decide)

theorem fetchActiveByHash_raises (db : AuthDatabase) (now : Timestamp) (otpHash : Bytea) :
    DeviceLinkingOtpRepository.fetchActiveByHash db now otpHash = .error (.ambiguous "id") := by
  rw [DeviceLinkingOtpRepository.fetchActiveByHash, activeByHashQuery_check]
  rfl

/-- Whatever the tables hold, `get_active_by_hash` raises: it returns neither the active row with
the hash nor `None`, and `issue_linking_challenge` accepts no code. -/
theorem linking_code_never_accepted (db : AuthDatabase) (now : Timestamp) (otpHash : Bytea) :
    DeviceLinkingOtpRepository.fetchActiveByHash db now otpHash ≠
        .ok (DeviceLinkingOtpRepository.getActiveByHash db now otpHash) ∧
      ∀ allowed values accepted,
        DeviceAuthService.acceptCode db now allowed otpHash values ≠ .ok accepted := by
  refine ⟨?_, ?_⟩
  · rw [fetchActiveByHash_raises]
    nofun
  · intro allowed values accepted
    unfold DeviceAuthService.acceptCode
    rw [fetchActiveByHash_raises]
    cases allowed <;> nofun

/-- A code that an active device has just issued. -/
def issuedCode : AuthDatabase where
  base := sessionDatabase
  otps := (∅ : Dict Uuid DeviceLinkingOtpRecord).set ⟨6⟩
    (DeviceLinkingOtpRepository.issued 5 ⟨1⟩ ⟨2⟩ (List.replicate 32 0) 9 ⟨6⟩)
  challenges := ∅

/-- The row is there, and the query that is to return it raises. -/
theorem issued_code_not_accepted :
    DeviceLinkingOtpRepository.getActiveByHash issuedCode 5 (List.replicate 32 0) =
        some (DeviceLinkingOtpRepository.issued 5 ⟨1⟩ ⟨2⟩ (List.replicate 32 0) 9 ⟨6⟩) ∧
      DeviceLinkingOtpRepository.fetchActiveByHash issuedCode 5 (List.replicate 32 0) =
        .error (.ambiguous "id") ∧
      DeviceAuthService.acceptCode issuedCode 5 true (List.replicate 32 0)
          (some ⟨[1], List.replicate 32 1, "phone"⟩) = .error (.database (.ambiguous "id")) := by
  decide +kernel

end SelfRelay.Backend
