import SelfRelay.Backend.DeviceRepository
import SelfRelay.Backend.TransferConstraints

/-!
# Writes and the constraints of the schema

When does a write operation of the repositories violate a `CHECK` constraint?  `InSchema` is the
answer for each of them: a value that the caller supplies and that is written to some row has to be
one that the schema takes, and `transition` writes no failure code, so that it can fail no transfer.
Everything that the repositories compute themselves is within the constraints
(`write_respects_schema`).  The default reason of `revoke_for_account` and `revoke_all_for_account`
is not one of `revocationReasons`.
-/

namespace SelfRelay.Backend

open TransferStatus

/-- The database satisfies the constraints of the migrations, and was written at or before `now`. -/
structure Database.Valid (now : Timestamp) (db : Database) : Prop where
  /-- `app_users_device_epoch_check` -/
  users : ∀ user ∈ db.users, 0 ≤ user.deviceEpoch
  devices : ∀ d ∈ db.devices, d.check = true
  /-- `devices_user_fingerprint_idx` -/
  fingerprints : ∀ d ∈ db.devices, ∀ d' ∈ db.devices, d.userId = d'.userId →
    d.fingerprint = d'.fingerprint → d = d'
  sessions : ∀ s ∈ db.sessions, s.check = true
  transfers : ∀ t ∈ db.transfers, t.check = true
  devicesTimely : ∀ d ∈ db.devices, d.createdAt ≤ now
  sessionsTimely : ∀ s ∈ db.sessions, s.createdAt ≤ now
  transfersTimely : ∀ t ∈ db.transfers, t.Timely now

/-! ## Updates that a constraint rejects -/

section Statements

variable {db : Database}

theorem map_eq_error {ε α β : Type} {g : α → β} {x : Except ε α} {e : ε} :
    g <$> x = .error e ↔ x = .error e := by
  cases x with
  | error e' =>
    exact ⟨fun h => congrArg _ (Except.error.inj h), fun h => congrArg _ (Except.error.inj h)⟩
  | ok a => exact ⟨nofun, nofun⟩

theorem bind_eq_error {ε α β : Type} {x : Except ε α} {f : α → Except ε β} {e : ε}
    (hf : ∀ a, f a ≠ .error e) : x >>= f = .error e ↔ x = .error e := by
  cases x with
  | error e' =>
    exact ⟨fun h => congrArg _ (Except.error.inj h), fun h => congrArg _ (Except.error.inj h)⟩
  | ok a => exact ⟨fun h => (hf a h).elim, nofun⟩

theorem ok_bind {ε α β : Type} {f : α → Except ε β} (a : α) : Except.ok a >>= f = f a := rfl

theorem updateTransfers_rejected {selected : TransferRequestRecord → Bool}
    {set : TransferRequestRecord → TransferRequestRecord} :
    (db.updateTransfers selected set).2 = .error (.rejected .check) ↔
      ¬ ∀ t ∈ db.transfers, selected t = true → (set t).check = true := by
  rw [← Table.update_eq_error, Database.updateTransfers]
  split
  case h_1 violation h => simp [h]
  case h_2 h => simp [h]

theorem updateSessions_rejected {selected : SessionRecord → Bool}
    {set : SessionRecord → SessionRecord} :
    db.updateSessions selected set = .error (.rejected .check) ↔
      ¬ ∀ s ∈ db.sessions, selected s = true → (set s).check = true := by
  rw [← Table.update_eq_error, Database.updateSessions]
  split
  case h_1 violation h => simp [h]
  case h_2 h => simp [h]

theorem updateDevices_rejected {selected : DeviceRecord → Bool}
    {set : DeviceRecord → DeviceRecord} :
    db.updateDevices selected set = .error (.rejected .check) ↔
      ¬ ∀ d ∈ db.devices, selected d = true → (set d).check = true := by
  rw [← Table.update_eq_error, Database.updateDevices]
  split
  case h_1 violation h => simp [h]
  case h_2 h => simp [h]

theorem insertSession_rejected {s : SessionRecord} :
    db.insertSession s = .error (.rejected .check) ↔ s.check = false := by
  unfold Database.insertSession
  split
  case h_1 violation h =>
    rw [Except.error.injEq, RepositoryError.rejected.injEq, Table.violation_of_insert h]
  case h_2 h =>
    rw [(Table.insert_eq_ok.1 h).1]
    split_ifs <;> simp

theorem insertDevice_rejected {d : DeviceRecord} :
    db.insertDevice d = .error (.rejected .check) ↔ d.check = false := by
  unfold Database.insertDevice
  split
  case h_1 violation h =>
    rw [Except.error.injEq, RepositoryError.rejected.injEq, Table.violation_of_insert h]
  case h_2 h =>
    rw [(Table.insert_eq_ok.1 h).1]
    split_ifs <;> simp

end Statements

/-! ## Rows that the repositories write -/

section Rows

variable {now : Timestamp}

theorem SessionRecord.check_iff {s : SessionRecord} : s.check = true ↔
    s.tokenHash.length = 32 ∧ s.csrfHash.length = 32 ∧ 0 ≤ s.epoch ∧ s.createdAt ≤ s.lastSeenAt ∧
      s.createdAt < s.idleExpiresAt ∧ s.idleExpiresAt ≤ s.absoluteExpiresAt ∧
      ((s.revokedAt = none ∧ s.revocationReason = none) ∨
        (s.revokedAt.isSome = true ∧ ∀ reason ∈ s.revocationReason,
          reason ∈ revocationReasons)) := by
  simp [SessionRecord.check, and_assoc, Option.all_eq_true]

theorem check_revoked {s : SessionRecord} (h : s.check = true) {reason : String} :
    (s.revoked now reason).check = true ↔ reason ∈ revocationReasons := by
  obtain ⟨htoken, hcsrf, hepoch, hseen, hidle, habsolute, -⟩ := SessionRecord.check_iff.1 h
  rw [SessionRecord.check_iff]
  constructor
  · rintro ⟨-, -, -, -, -, -, ⟨h, -⟩ | ⟨-, h⟩⟩
    · cases h
    · exact h reason rfl
  · intro hreason
    refine ⟨htoken, hcsrf, hepoch, hseen, hidle, habsolute, .inr ⟨rfl, ?_⟩⟩
    rintro _ ⟨⟩
    exact hreason

/-- Activity moves `idle_expires_at` past now, and not past `absolute_expires_at`. -/
theorem check_touched {s : SessionRecord} (h : s.check = true) (hcreated : s.createdAt ≤ now)
    (habsolute : now < s.absoluteExpiresAt) :
    ({ s with
      lastSeenAt := now
      idleExpiresAt := min (now + thirtyDays) s.absoluteExpiresAt } : SessionRecord).check =
        true := by
  obtain ⟨htoken, hcsrf, hepoch, -, -, -, hrevoked⟩ := SessionRecord.check_iff.1 h
  have hmonth : 0 < thirtyDays := by decide
  refine SessionRecord.check_iff.2 ⟨htoken, hcsrf, hepoch, hcreated, ?_,
    Nat.min_le_right _ _, hrevoked⟩
  exact Nat.lt_min.2 ⟨Nat.lt_of_le_of_lt hcreated (Nat.lt_add_of_pos_right hmonth),
    Nat.lt_of_le_of_lt hcreated habsolute⟩

theorem check_csrfHash {s : SessionRecord} (h : s.check = true) {csrfHash : Bytea} :
    ({ s with csrfHash } : SessionRecord).check = true ↔ csrfHash.length = 32 := by
  obtain ⟨htoken, -, hrest⟩ := SessionRecord.check_iff.1 h
  rw [SessionRecord.check_iff]
  exact ⟨fun h => h.2.1, fun h => ⟨htoken, h, hrest⟩⟩

/-- The bounds of `devices_label_length_check`. -/
def labelOk (label : String) : Prop := 1 ≤ label.length ∧ label.length ≤ 100

/-- The bounds of `devices_spki_length_check` and `devices_fingerprint_length_check`. -/
def keyOk (signingPublicKeySpki fingerprint : Bytea) : Prop :=
  (1 ≤ signingPublicKeySpki.length ∧ signingPublicKeySpki.length ≤ 1024) ∧ fingerprint.length = 32

theorem DeviceRecord.check_iff {d : DeviceRecord} : d.check = true ↔
    labelOk d.label ∧ keyOk d.signingPublicKeySpki d.fingerprint ∧ 0 ≤ d.epoch ∧
      (d.status = .revoked ↔ d.revokedAt.isSome = true) ∧ d.createdAt ≤ d.lastSeenAt ∧
      d.linkedByDeviceId ≠ some d.id := by
  have hstatus : ((d.status = .active ∨ d.status = .inactive) ∧ d.revokedAt = none ∨
      d.status = .revoked ∧ d.revokedAt.isSome = true) ↔
      (d.status = .revoked ↔ d.revokedAt.isSome = true) := by
    cases d.status <;> cases d.revokedAt <;> simp
  rw [← hstatus]
  simp [DeviceRecord.check, labelOk, keyOk, and_assoc]

theorem check_deviceRevoked {d : DeviceRecord} (h : d.check = true) :
    (DeviceRepository.revoked now d).check = true := by
  obtain ⟨hlabel, hkey, hepoch, -, hseen, hlinked⟩ := DeviceRecord.check_iff.1 h
  exact DeviceRecord.check_iff.2 ⟨hlabel, hkey, hepoch, iff_of_true rfl rfl, hseen, hlinked⟩

theorem check_loggedOut {d : DeviceRecord} (h : d.check = true) :
    (DeviceRepository.loggedOut d).check = true := by
  obtain ⟨hlabel, hkey, hepoch, hrevoked, hseen, hlinked⟩ := DeviceRecord.check_iff.1 h
  refine DeviceRecord.check_iff.2 ⟨hlabel, hkey, hepoch, ?_, hseen, hlinked⟩
  change (if d.status = .revoked then d.status else .inactive) = .revoked ↔
    d.revokedAt.isSome = true
  rw [← hrevoked]
  split_ifs with hstatus
  · rfl
  · simp [hstatus]

theorem check_label {d : DeviceRecord} (h : d.check = true) {label : String} :
    ({ d with label } : DeviceRecord).check = true ↔ labelOk label := by
  obtain ⟨-, hrest⟩ := DeviceRecord.check_iff.1 h
  rw [DeviceRecord.check_iff]
  exact ⟨fun h => h.1, fun h => ⟨h, hrest⟩⟩

/-- A device that is not revoked, activated again under a new label. -/
theorem check_activated {d : DeviceRecord} (h : d.check = true) (hcreated : d.createdAt ≤ now)
    (hstatus : d.status ≠ .revoked) {label : String} :
    ({ d with status := .active, label, lastSeenAt := now } : DeviceRecord).check = true ↔
      labelOk label := by
  obtain ⟨-, hkey, hepoch, hrevoked, -, hlinked⟩ := DeviceRecord.check_iff.1 h
  rw [DeviceRecord.check_iff]
  have hnone : ¬ d.revokedAt.isSome = true := fun h => hstatus (hrevoked.2 h)
  exact ⟨fun h => h.1, fun h => ⟨h, hkey, hepoch, iff_of_false nofun hnone, hcreated, hlinked⟩⟩

theorem check_seen {d : DeviceRecord} (h : d.check = true) (hcreated : d.createdAt ≤ now) :
    ({ d with lastSeenAt := now } : DeviceRecord).check = true := by
  obtain ⟨hlabel, hkey, hepoch, hrevoked, -, hlinked⟩ := DeviceRecord.check_iff.1 h
  exact DeviceRecord.check_iff.2 ⟨hlabel, hkey, hepoch, hrevoked, hcreated, hlinked⟩

theorem check_inserted {id account : Uuid} {epoch : ℤ} {label : String} {spki fingerprint : Bytea}
    {linkedBy : Option Uuid} (hepoch : 0 ≤ epoch) :
    (DeviceRepository.inserted now id account epoch label spki fingerprint linkedBy).check = true ↔
      labelOk label ∧ keyOk spki fingerprint ∧ linkedBy ≠ some id := by
  rw [DeviceRecord.check_iff]
  constructor
  · rintro ⟨hlabel, hkey, -, -, -, hlinked⟩
    exact ⟨hlabel, hkey, hlinked⟩
  · rintro ⟨hlabel, hkey, hlinked⟩
    exact ⟨hlabel, hkey, hepoch, iff_of_false nofun nofun, Nat.le_refl now, hlinked⟩

end Rows

/-! ## Operations -/

/-- A call of a write operation of one of the three repositories. -/
inductive WriteOperation where
  | transfer (op : TransferOperation)
  | session (op : SessionOperation)
  | device (op : DeviceOperation)

/-- The database rejects a statement of the call, for a `CHECK` constraint. -/
def WriteOperation.Rejected (db : Database) (now : Timestamp) : WriteOperation → Prop
  | transfer op => (TransferRequestRepository.perform db now op).2 = .error (.rejected .check)
  | session op => SessionRepository.perform db now op = .error (.rejected .check)
  | device op => DeviceRepository.perform db now op = .error (.rejected .check)

/-! What a caller supplies is only written to rows that the operation selects. -/

/-- The values that a call writes to `private.transfer_requests` are in the schema. -/
def TransferOperation.InSchema (db : Database) (now : Timestamp) : TransferOperation → Prop
  | create account sender recipient version expiresAt _ =>
    (db.accountExists account && db.deviceActive account sender &&
      db.deviceActive account recipient && sender ≠ recipient) = true →
      (1 ≤ version ∧ version ≤ 32767) ∧ now < expiresAt
  | transition account transfer fromStatus toStatus =>
    toStatus = "failed" → ∀ status ∈ ofText? fromStatus, .failed ∈ status.validTransitions →
      ∀ t ∈ db.transfers,
        (TransitionArguments.ofStatuses status .failed).selects db now account transfer t = false
  | fail account transfer failureCode actor =>
    db.transfers.any
      ((TransitionArguments.ofFail failureCode actor).selects db now account transfer) →
      1 ≤ failureCode.length ∧ failureCode.length ≤ 64
  | _ => True

/-- The values that a call writes to `private.app_sessions` are in the schema. -/
def SessionOperation.InSchema (db : Database) (now : Timestamp) : SessionOperation → Prop
  | create account device tokenHash csrfHash epoch idleExpiresAt absoluteExpiresAt _ =>
    SessionRepository.admits db account device epoch = true →
      tokenHash.length = 32 ∧ csrfHash.length = 32 ∧ now < idleExpiresAt ∧
        idleExpiresAt ≤ absoluteExpiresAt
  | touchLastSeen _ _ => True
  | replaceCsrfHash account session csrfHash =>
    db.sessions.any (SessionRepository.selectsUsable db now account session) = true →
      csrfHash.length = 32
  | revoke account session reason =>
    db.sessions.any (SessionRepository.selectsId account session) = true →
      reason ∈ revocationReasons
  | revokeByTokenHash account tokenHash reason =>
    db.sessions.any (SessionRepository.selectsTokenHash account tokenHash) = true →
      reason ∈ revocationReasons
  | revokeForDevice account device reason =>
    db.sessions.any (SessionRepository.selectsDevice account device) = true →
      reason ∈ revocationReasons
  | revokeForAccount account reason =>
    db.sessions.any (SessionRepository.selectsAccount account) = true → reason ∈ revocationReasons

/-- The values that a call writes to `private.devices` and, with them, to `private.app_sessions` are
in the schema. -/
def DeviceOperation.InSchema (db : Database) : DeviceOperation → Prop
  | create account epoch label spki fingerprint linkedBy deviceId generated =>
    DeviceRepository.admits db account epoch linkedBy = true →
      labelOk label ∧ keyOk spki fingerprint ∧ linkedBy ≠ some (deviceId.getD generated)
  | registerForEmail account epoch label spki fingerprint _ =>
    match db.devices.find? (DeviceRepository.hasFingerprint account fingerprint) with
    | some existing => existing.status ≠ .revoked → existing.epoch = epoch → labelOk label
    | none => db.accountAt account epoch = true → labelOk label ∧ keyOk spki fingerprint
  | touchLastSeen _ _ => True
  | rename account device label =>
    db.devices.any (DeviceRepository.selectsId account device) = true → labelOk label
  | revokeWithSessions account device reason | logoutWithSessions account device reason =>
    db.devices.any (DeviceRepository.selectsId account device) = true →
      db.sessions.any (SessionRepository.selectsDevice account device) = true →
      reason ∈ revocationReasons
  | revokeAllForAccount account reason =>
    db.sessions.any (SessionRepository.selectsAccount account) = true → reason ∈ revocationReasons

def WriteOperation.InSchema (db : Database) (now : Timestamp) : WriteOperation → Prop
  | transfer op => op.InSchema db now
  | session op => op.InSchema db now
  | device op => op.InSchema db

section Operations

variable {db : Database} {now : Timestamp}

theorem any_imp_iff {α : Type} {rows : List α} {selected : α → Bool} {P : Prop} :
    (rows.any selected = true → P) ↔ ∀ r ∈ rows, selected r = true → P := by
  simp

theorem failureCodeOk_some {code : String} :
    failureCodeOk (some code) = true ↔ 1 ≤ code.length ∧ code.length ≤ 64 := by
  simp [failureCodeOk]

/-- The row that `create` writes. -/
theorem check_offered {id account sender recipient : Uuid} {version : ℤ} {expiresAt : Timestamp}
    (hne : sender ≠ recipient) :
    ({ id
       userId := account
       senderDeviceId := sender
       recipientDeviceId := recipient
       protocolVersion := version
       status := .offered
       createdAt := now
       expiresAt
       acceptedAt := none
       completedAt := none
       failureCode := none
       relayUsed := false } : TransferRequestRecord).check = true ↔
      (1 ≤ version ∧ version ≤ 32767) ∧ now < expiresAt := by
  rw [TransferRequestRecord.check_iff]
  constructor
  · rintro ⟨-, hversion, hexpiry, -⟩
    exact ⟨hversion, hexpiry⟩
  · rintro ⟨hversion, hexpiry⟩
    refine ⟨hne, hversion, hexpiry, ?_, ?_, iff_of_false ?_ ?_, rfl, .inl rfl⟩
    · rintro _ ⟨⟩
    · rintro _ ⟨⟩
    · rintro ⟨⟩
    · rintro ⟨⟩

/-- A `_transition` is only rejected for the code of a failed transfer. -/
theorem arguments_rejected (hdb : db.Valid now) {op : TransferOperation} {transfer : Uuid}
    {args : TransitionArguments} (h : op.arguments? = some (transfer, args)) :
    ¬ (TransferRequestRepository.perform db now op).2 = .error (.rejected .check) ↔
      ∀ t ∈ db.transfers, args.selects db now op.account transfer t = true →
        args.toStatus = .failed → failureCodeOk args.failureCode = true := by
  rw [perform_of_arguments h, runTransition, updateTransfers_rejected, not_not]
  refine forall₂_congr fun t ht => forall_congr' fun hselected => ?_
  obtain ⟨-, -, hstatus, -⟩ := TransitionArguments.selects_iff.1 hselected
  exact check_set (hdb.transfers t ht) (hdb.transfersTimely t ht) ((arguments_valid h).1 _ hstatus)

theorem transition_rejected (hdb : db.Valid now) (account transfer : Uuid)
    (fromStatus toStatus : String) :
    ¬ (TransferRequestRepository.perform db now
      (.transition account transfer fromStatus toStatus)).2 =
        .error (.rejected .check) ↔
      TransferOperation.InSchema db now (.transition account transfer fromStatus toStatus) := by
  have hfailed : ofText? "failed" = some .failed := by decide
  cases harguments :
      (TransferOperation.transition account transfer fromStatus toStatus).arguments? with
  | none =>
    rw [perform_of_no_arguments harguments (by rintro _ _ _ _ _ _ ⟨⟩) (by rintro _ _ ⟨⟩)]
    refine iff_of_true (by rintro ⟨⟩) ?_
    rintro rfl status hstatus hvalid
    rw [Option.mem_def] at hstatus
    simp [TransferOperation.arguments?, hstatus, hfailed, TransferOperation.arguments?.ofStatuses?,
      hvalid] at harguments
  | some arguments =>
    obtain ⟨transfer', args⟩ := arguments
    rw [arguments_rejected hdb harguments]
    simp only [TransferOperation.arguments?] at harguments
    split at harguments
    case h_2 => cases harguments
    case h_1 from? to? hfrom hto =>
      obtain ⟨hvalid, rfl, rfl⟩ := arguments_ofStatuses harguments
      constructor
      · rintro h rfl status hstatus -
        obtain rfl := Option.some.inj (hto.symm.trans hfailed)
        obtain rfl := Option.some.inj (hfrom.symm.trans hstatus)
        intro t ht
        rw [Bool.eq_false_iff]
        intro hselected
        exact absurd (h t ht hselected rfl) Bool.false_ne_true
      · intro h t ht hselected hto'
        obtain rfl : to? = .failed := hto'
        have hnot := h (text_of_ofText? hto).symm from? hfrom hvalid t ht
        exact absurd hselected (Bool.eq_false_iff.1 hnot)

theorem transfer_rejected (hdb : db.Valid now) (op : TransferOperation) :
    ¬ (TransferRequestRepository.perform db now op).2 = .error (.rejected .check) ↔
      op.InSchema db now := by
  cases op with
  | create account sender recipient version expiresAt id =>
    simp only [TransferRequestRepository.perform, TransferRequestRepository.create,
      TransferOperation.InSchema]
    split_ifs with hadmits
    · obtain ⟨-, hne⟩ := Bool.and_eq_true_iff.1 hadmits
      refine Iff.trans ?_ ⟨fun h _ => h, fun h => h hadmits⟩
      split
      case h_1 violation hinsert =>
        rw [Except.error.injEq, RepositoryError.rejected.injEq, Table.violation_of_insert hinsert,
          Bool.not_eq_false, check_offered (of_decide_eq_true hne)]
      case h_2 transfers hinsert =>
        exact iff_of_true (by rintro ⟨⟩)
          ((check_offered (of_decide_eq_true hne)).1 (Table.insert_eq_ok.1 hinsert).1)
    · exact iff_of_true (by rintro ⟨⟩) fun h => (hadmits h).elim
  | transition account transfer fromStatus toStatus =>
    exact transition_rejected hdb account transfer fromStatus toStatus
  | fail account transfer failureCode actor =>
    rw [arguments_rejected hdb rfl]
    simp only [TransferOperation.InSchema, any_imp_iff, ← failureCodeOk_some]
    exact forall₂_congr fun t _ => forall_congr' fun _ => ⟨fun h => h rfl, fun h _ => h⟩
  | markRelayUsed account transfer =>
    refine iff_of_true ?_ trivial
    rw [TransferRequestRepository.perform, TransferRequestRepository.markRelayUsed,
      updateTransfers_rejected, not_not]
    exact fun t ht _ => hdb.transfers t ht
  | accept | reject | cancel | expire | markNegotiating | markConnected | markTransferring
  | complete =>
    refine iff_of_true ((arguments_rejected hdb rfl).2 ?_) trivial
    rintro t - - ⟨⟩

theorem epoch_nonneg (hdb : db.Valid now) {account : Uuid} {epoch : ℤ}
    (h : db.accountAt account epoch = true) : 0 ≤ epoch := by
  obtain ⟨user, huser, h⟩ := List.any_eq_true.1 h
  simp only [Bool.and_eq_true, decide_eq_true_eq] at h
  rw [← h.2]
  exact hdb.users user huser

/-- A revocation is only rejected for its reason. -/
theorem revocation_rejected (hsessions : ∀ s ∈ db.sessions, s.check = true)
    {selected : SessionRecord → Bool} {reason : String} :
    ¬ db.updateSessions selected (SessionRecord.revoked now reason) = .error (.rejected .check) ↔
      (db.sessions.any selected = true → reason ∈ revocationReasons) := by
  rw [updateSessions_rejected, not_not, any_imp_iff]
  exact forall₂_congr fun s hs => forall_congr' fun _ => check_revoked (hsessions s hs)

theorem session_rejected (hdb : db.Valid now) (op : SessionOperation) :
    ¬ SessionRepository.perform db now op = .error (.rejected .check) ↔ op.InSchema db now := by
  cases op with
  | create account device tokenHash csrfHash epoch idleExpiresAt absoluteExpiresAt id =>
    simp only [SessionRepository.perform, map_eq_error, SessionRepository.create,
      SessionOperation.InSchema]
    split_ifs with hadmits
    · have hepoch := epoch_nonneg hdb (Bool.and_eq_true_iff.1 hadmits).1
      refine Iff.trans ?_ ⟨fun h _ => h, fun h => h hadmits⟩
      rw [bind_pure_comp, map_eq_error, insertSession_rejected, Bool.not_eq_false,
        SessionRecord.check_iff]
      constructor
      · rintro ⟨htoken, hcsrf, -, -, hidle, habsolute, -⟩
        exact ⟨htoken, hcsrf, hidle, habsolute⟩
      · rintro ⟨htoken, hcsrf, hidle, habsolute⟩
        exact ⟨htoken, hcsrf, hepoch, Nat.le_refl now, hidle, habsolute, .inl ⟨rfl, rfl⟩⟩
    · exact iff_of_true (by rintro ⟨⟩) fun h => (hadmits h).elim
  | touchLastSeen account session =>
    refine iff_of_true ?_ trivial
    rw [SessionRepository.perform, map_eq_error, SessionRepository.touchLastSeen,
      updateSessions_rejected, not_not]
    intro s hs hselected
    simp only [SessionRepository.selectsUsable, SessionRecord.usable, Bool.and_eq_true,
      decide_eq_true_eq] at hselected
    exact check_touched (hdb.sessions s hs) (hdb.sessionsTimely s hs) hselected.2.1.1.2
  | replaceCsrfHash account session csrfHash =>
    rw [SessionRepository.perform, map_eq_error, SessionRepository.replaceCsrfHash,
      updateSessions_rejected, not_not, SessionOperation.InSchema, any_imp_iff]
    exact forall₂_congr fun s hs => forall_congr' fun _ => check_csrfHash (hdb.sessions s hs)
  | revoke account session reason =>
    rw [SessionRepository.perform, map_eq_error]
    exact revocation_rejected hdb.sessions
  | revokeByTokenHash account tokenHash reason =>
    rw [SessionRepository.perform, map_eq_error]
    exact revocation_rejected hdb.sessions
  | revokeForDevice account device reason =>
    rw [SessionRepository.perform, map_eq_error]
    exact revocation_rejected hdb.sessions
  | revokeForAccount account reason =>
    rw [SessionRepository.perform, map_eq_error]
    exact revocation_rejected hdb.sessions

/-- An insert of a device is only rejected for what the caller supplies. -/
theorem insertion_rejected {id account : Uuid} {epoch : ℤ} {label : String}
    {spki fingerprint : Bytea} {linkedBy : Option Uuid} (hepoch : 0 ≤ epoch) :
    ¬ (do
        let record :=
          DeviceRepository.inserted now id account epoch label spki fingerprint linkedBy
        let db ← db.insertDevice record
        return (db, record) : Except RepositoryError (Database × DeviceRecord)) =
        .error (.rejected .check) ↔
      labelOk label ∧ keyOk spki fingerprint ∧ linkedBy ≠ some id := by
  rw [bind_pure_comp, map_eq_error, insertDevice_rejected, Bool.not_eq_false, check_inserted hepoch]

/-- An update of devices that the constraints take. -/
theorem updateDevices_eq_ok {selected : DeviceRecord → Bool} {set : DeviceRecord → DeviceRecord}
    (h : ∀ d ∈ db.devices, (set d).check = true) : db.updateDevices selected set =
      .ok ({ db with devices := Table.updated selected set db.devices },
        Table.written selected set db.devices) := by
  rw [Database.updateDevices, Table.update_eq_ok.2 ⟨fun d hd _ => h d hd, rfl, rfl⟩]

theorem written_eq_nil {α : Type} {selected : α → Bool} {set : α → α} {rows : List α} :
    Table.written selected set rows = [] ↔ ¬ rows.any selected = true := by
  simp [Table.written]

/-- A change of a device that the constraints take, with a revocation of its sessions. -/
theorem withSessions_rejected (hdb : db.Valid now) {set : DeviceRecord → DeviceRecord}
    (hset : ∀ d ∈ db.devices, (set d).check = true) {account device : Uuid} {reason : String} :
    ¬ DeviceRepository.withSessions db now set account device reason =
        .error (.rejected .check) ↔
      (db.devices.any (DeviceRepository.selectsId account device) = true →
        db.sessions.any (SessionRepository.selectsDevice account device) = true →
        reason ∈ revocationReasons) := by
  rw [DeviceRepository.withSessions, updateDevices_eq_ok hset, ok_bind]
  dsimp only
  split
  case h_1 hnone =>
    exact iff_of_true (by rintro ⟨⟩) fun h => (written_eq_nil.1 hnone h).elim
  case h_2 record records hsome =>
    have hany : db.devices.any (DeviceRepository.selectsId account device) = true := by
      by_contra hnone
      rw [written_eq_nil.2 hnone] at hsome
      cases hsome
    rw [bind_pure_comp, map_eq_error]
    refine Iff.trans (revocation_rejected ?_) ⟨fun h _ => h, fun h => h hany⟩
    exact hdb.sessions

/-- `register_for_email` finds at most one device, so that no revoked one is activated. -/
theorem registerForEmail_rejected (hdb : db.Valid now) {account : Uuid} {epoch : ℤ} {label : String}
    {spki fingerprint : Bytea} {deviceId : Uuid} :
    ¬ DeviceRepository.registerForEmail db now account epoch label spki fingerprint deviceId =
        .error (.rejected .check) ↔
      DeviceOperation.InSchema db
        (.registerForEmail account epoch label spki fingerprint deviceId) := by
  unfold DeviceRepository.registerForEmail
  simp only [DeviceOperation.InSchema]
  cases hfind : db.devices.find? (DeviceRepository.hasFingerprint account fingerprint) with
  | none =>
    dsimp only
    split_ifs with haccount
    · rw [insertion_rejected (epoch_nonneg hdb haccount)]
      exact ⟨fun h _ => ⟨h.1, h.2.1⟩, fun h => ⟨(h haccount).1, (h haccount).2, by rintro ⟨⟩⟩⟩
    · exact iff_of_true (by rintro ⟨⟩) fun h => (haccount h).elim
  | some existing =>
    dsimp only
    split_ifs with hrevoked
    · exact iff_of_true (by rintro ⟨⟩) fun h => (h hrevoked).elim
    · have hmem := List.mem_of_find?_eq_some hfind
      have hfingerprint := List.find?_some hfind
      -- the rows that the update writes are `existing`, if it is of the epoch
      have heq : ∀ d ∈ db.devices, DeviceRepository.hasFingerprint account fingerprint d = true →
          d = existing := by
        intro d hd h
        simp only [DeviceRepository.hasFingerprint, Bool.and_eq_true, decide_eq_true_eq]
          at h hfingerprint
        exact hdb.fingerprints d hd existing hmem (h.1.trans hfingerprint.1.symm)
          (h.2.trans hfingerprint.2.symm)
      have hactivated : ({ existing with status := .active, label, lastSeenAt := now } :
          DeviceRecord).check = true ↔ labelOk label :=
        check_activated (hdb.devices existing hmem) (hdb.devicesTimely existing hmem) hrevoked
      refine (not_congr (bind_eq_error fun result => ?_)).trans ?_
      · split <;> rintro ⟨⟩
      rw [updateDevices_rejected, not_not]
      constructor
      · intro h _ hepoch
        exact hactivated.1 (h existing hmem (by simp [hfingerprint, hepoch]))
      · intro h d hd hselected
        obtain ⟨hd', hepoch⟩ := Bool.and_eq_true_iff.1 hselected
        obtain rfl := heq d hd hd'
        exact hactivated.2 (h hrevoked (of_decide_eq_true hepoch))

theorem device_rejected (hdb : db.Valid now) (op : DeviceOperation) :
    ¬ DeviceRepository.perform db now op = .error (.rejected .check) ↔ op.InSchema db := by
  cases op with
  | create account epoch label spki fingerprint linkedBy deviceId generated =>
    simp only [DeviceRepository.perform, map_eq_error, DeviceRepository.create,
      DeviceOperation.InSchema]
    split_ifs with hadmits
    · have hepoch := epoch_nonneg hdb (Bool.and_eq_true_iff.1 hadmits).1
      exact (insertion_rejected hepoch).trans ⟨fun h _ => h, fun h => h hadmits⟩
    · exact iff_of_true (by rintro ⟨⟩) fun h => (hadmits h).elim
  | registerForEmail account epoch label spki fingerprint deviceId =>
    rw [DeviceRepository.perform, map_eq_error]
    exact registerForEmail_rejected hdb
  | touchLastSeen account device =>
    refine iff_of_true ?_ trivial
    rw [DeviceRepository.perform, map_eq_error, DeviceRepository.touchLastSeen,
      updateDevices_rejected, not_not]
    exact fun d hd _ => check_seen (hdb.devices d hd) (hdb.devicesTimely d hd)
  | rename account device label =>
    rw [DeviceRepository.perform, map_eq_error, DeviceRepository.rename, updateDevices_rejected,
      not_not, DeviceOperation.InSchema, any_imp_iff]
    exact forall₂_congr fun d hd => forall_congr' fun _ => check_label (hdb.devices d hd)
  | revokeWithSessions account device reason =>
    rw [DeviceRepository.perform, map_eq_error]
    exact withSessions_rejected hdb fun d hd => check_deviceRevoked (hdb.devices d hd)
  | logoutWithSessions account device reason =>
    rw [DeviceRepository.perform, map_eq_error]
    exact withSessions_rejected hdb fun d hd => check_loggedOut (hdb.devices d hd)
  | revokeAllForAccount account reason =>
    rw [DeviceRepository.perform, map_eq_error, DeviceRepository.revokeAllForAccount,
      updateDevices_eq_ok fun d hd => check_deviceRevoked (hdb.devices d hd), ok_bind]
    dsimp only
    rw [bind_pure_comp, map_eq_error]
    refine revocation_rejected ?_
    exact hdb.sessions

/-- A write operation is rejected for a `CHECK` constraint exactly when it would write a value that
the schema does not take. -/
theorem write_respects_schema (hdb : db.Valid now) (op : WriteOperation) :
    ¬ op.Rejected db now ↔ op.InSchema db now := by
  cases op with
  | transfer op => exact transfer_rejected hdb op
  | session op => exact session_rejected hdb op
  | device op => exact device_rejected hdb op

end Operations

/-- `offeredDatabase` with a session of its first device. -/
def sessionDatabase : Database :=
  { offeredDatabase with sessions := [session] }
where
  session : SessionRecord := {
    id := ⟨5⟩
    userId := ⟨1⟩
    deviceId := ⟨2⟩
    tokenHash := List.replicate 32 0
    csrfHash := List.replicate 32 0
    epoch := 0
    createdAt := 1
    lastSeenAt := 1
    idleExpiresAt := 9
    absoluteExpiresAt := 9
    revokedAt := none
    revocationReason := none }

theorem sessionDatabase_valid : sessionDatabase.Valid 5 where
  users := by decide
  devices := by decide
  fingerprints := by decide
  sessions := by decide
  transfers := by decide
  devicesTimely := by decide
  sessionsTimely := by decide
  transfersTimely t ht := by
    obtain rfl := List.mem_singleton.1 ht
    exact ⟨by decide, by rintro _ ⟨⟩⟩

/-- `revoke_for_account` with its default reason is rejected, and changes nothing. -/
theorem default_reason_rejected :
    sessionDatabase.Valid 5 ∧
      (WriteOperation.session (.revokeForAccount ⟨1⟩)).Rejected sessionDatabase 5 :=
  ⟨sessionDatabase_valid, rfl⟩

/-- With a listed reason it is not. -/
theorem write_respects_schema_security :
    ¬ (WriteOperation.session (.revokeForAccount ⟨1⟩ "security")).Rejected sessionDatabase 5 :=
  (write_respects_schema sessionDatabase_valid _).2 fun _ => by decide

end SelfRelay.Backend
