import SelfRelay.Backend.SessionService

/-!
# Rotations

`rotate` in every state of the database.  It revokes the session before it knows that a new one can
be created, so it is atomic only where the insertion is bound to be accepted
(`rotation_atomic_iff`).
-/

namespace SelfRelay.Backend

namespace SessionRepository

variable {db db' : Database} {now : Timestamp}

/-- The row that `create` inserts. -/
def newSession (now : Timestamp) (account device : Uuid) (tokenHash csrfHash : Bytea) (epoch : ℤ)
    (idleExpiresAt absoluteExpiresAt : Timestamp) (id : Uuid) : SessionRecord where
  id := id
  userId := account
  deviceId := device
  tokenHash := tokenHash
  csrfHash := csrfHash
  epoch := epoch
  createdAt := now
  lastSeenAt := now
  idleExpiresAt := idleExpiresAt
  absoluteExpiresAt := absoluteExpiresAt
  revokedAt := none
  revocationReason := none

theorem insertSession_of_created {s : SessionRecord} (h : s.Created db now) :
    db.insertSession s = .ok { db with sessions := db.sessions ++ [s] } := by
  have hhash : ¬ db.sessions.any (fun row => row.tokenHash = s.tokenHash) = true := by
    intro hany
    obtain ⟨row, hrow, heq⟩ := List.any_eq_true.1 hany
    exact h.freshTokenHash row hrow (of_decide_eq_true heq)
  have hinsert := Table.insert_eq_ok.2 ⟨h.check, h.freshId, rfl⟩
  unfold Database.insertSession
  rw [hinsert]
  exact if_neg hhash

/-- `create` succeeds exactly when the account and the device admit the row and no constraint
forbids it. -/
theorem create_eq_ok {account device : Uuid} {tokenHash csrfHash : Bytea} {epoch : ℤ}
    {idleExpiresAt absoluteExpiresAt : Timestamp} {id : Uuid} {s : SessionRecord} :
    create db now account device tokenHash csrfHash epoch idleExpiresAt absoluteExpiresAt id =
        .ok (db', s) ↔
      s = newSession now account device tokenHash csrfHash epoch idleExpiresAt
        absoluteExpiresAt id ∧
        s.Created db now ∧ db' = { db with sessions := db.sessions ++ [s] } := by
  constructor
  · intro h
    obtain ⟨hcreated, -, -, -, -, -, -, hdb⟩ := create_ok h
    refine ⟨?_, hcreated, hdb⟩
    unfold create at h
    split at h
    · obtain ⟨db₁, hinsert, hok⟩ := exists_of_bind_eq_ok h
      cases hok
      rfl
    · cases h
  · rintro ⟨rfl, hcreated, rfl⟩
    have hadmits : admits db account device epoch = true :=
      Bool.and_eq_true_iff.2 ⟨hcreated.account, hcreated.device⟩
    unfold create
    rw [if_pos hadmits]
    change (db.insertSession (newSession ..) >>= _) = _
    rw [insertSession_of_created hcreated]
    rfl

end SessionRepository

namespace SessionService

variable {db db' : Database}

/-- `rotate`.  Its two statements read the clock of the database one after the other. -/
def rotateBetween (db : Database) (revokedAt createdAt : Timestamp) (account : Uuid)
    (previous : SessionRecord) (issuedAt : Timestamp) (secrets : SessionSecrets) :
    Database × Except ServiceError SessionRecord :=
  if previous.absoluteExpiresAt ≤ issuedAt then
    (db, .error (.value "cannot rotate an expired session"))
  else
    match SessionRepository.revoke db revokedAt account previous.id "rotation" with
    | .error error => (db, .error (.repository error))
    | .ok (db, []) => (db, .error (.value "cannot rotate an inactive session"))
    | .ok (db, _ :: _) =>
      match create db createdAt account previous.deviceId previous.epoch issuedAt
          (some previous.absoluteExpiresAt) secrets with
      | .error error => (db, .error error)
      | .ok (db, record) => (db, .ok record)

/-- `rotate` is the case of one reading. -/
theorem rotate_eq_rotateBetween (db : Database) (now : Timestamp) (account : Uuid)
    (previous : SessionRecord) (issuedAt : Timestamp) (secrets : SessionSecrets) :
    rotate db now account previous issuedAt secrets =
      rotateBetween db now now account previous issuedAt secrets := rfl

/-- What atomicity asks of the outcome of a rotation. -/
structure RotatedAtomically (db : Database) (createdAt : Timestamp) (account : Uuid)
    (previous : SessionRecord) (outcome : Database × Except ServiceError SessionRecord) : Prop where
  /-- A session that is returned is usable, and the previous one is revoked. -/
  returned : ∀ record, outcome.2 = .ok record →
    record ∈ outcome.1.sessions ∧ record.usable outcome.1 createdAt = true ∧
      ∀ s ∈ outcome.1.sessions, SessionRepository.selectsId account previous.id s = false
  /-- A call that raises leaves every session as it was. -/
  raised : ∀ error, outcome.2 = .error error → outcome.1.sessions = db.sessions

/-- The call gets to the revocation, and the revocation takes effect on a session. -/
structure Revokes (db : Database) (revokedAt : Timestamp) (account : Uuid)
  (previous : SessionRecord)
    (issuedAt : Timestamp) : Prop where
  deadline : issuedAt < previous.absoluteExpiresAt
  found : ∃ s ∈ db.sessions, SessionRepository.selectsId account previous.id s = true
  check : ∀ s ∈ db.sessions, SessionRepository.selectsId account previous.id s = true →
    (s.revoked revokedAt "rotation").check = true

/-- The insertion is bound to be accepted: the account is in the epoch of the session and not
deleted, the device is active in that epoch, the clock of the database has not passed the expiry
that the clock of the application gives, and the secrets are of their lengths and not in use. -/
structure Issues (db : Database) (createdAt : Timestamp) (account : Uuid) (previous : SessionRecord)
    (issuedAt : Timestamp) (secrets : SessionSecrets) : Prop where
  accountAt : db.accountAt account previous.epoch = true
  deviceAt : db.deviceAt account previous.deviceId previous.epoch = true
  epoch : 0 ≤ previous.epoch
  idle : createdAt < issuedAt + idleLifetime
  absolute : createdAt < previous.absoluteExpiresAt
  tokenHash : secrets.tokenHash.length = 32
  csrfHash : secrets.csrfHash.length = 32
  freshId : secrets.id ∉ db.sessions.map (·.id)
  freshTokenHash : ∀ s ∈ db.sessions, s.tokenHash ≠ secrets.tokenHash

/-- The update that the revocation makes. -/
def revocation (revokedAt : Timestamp) (account : Uuid) (previous : SessionRecord) :
    Update SessionRecord where
  selected := SessionRepository.selectsId account previous.id
  set := SessionRecord.revoked revokedAt "rotation"

/-- The session that replaces another. -/
def replacement (createdAt : Timestamp) (account : Uuid) (previous : SessionRecord)
    (issuedAt : Timestamp) (secrets : SessionSecrets) : SessionRecord :=
  SessionRepository.newSession createdAt account previous.deviceId secrets.tokenHash
    secrets.csrfHash
    previous.epoch (min (issuedAt + idleLifetime) previous.absoluteExpiresAt)
    previous.absoluteExpiresAt secrets.id

variable {revokedAt createdAt issuedAt : Timestamp} {account : Uuid} {previous : SessionRecord}
  {secrets : SessionSecrets}

theorem not_selected_of_revocation {s : SessionRecord}
    (h : s ∈ (revocation revokedAt account previous).apply db.sessions) :
    SessionRepository.selectsId account previous.id s = false := by
  obtain ⟨row, -, rfl⟩ := Update.mem_apply.1 h
  cases hselected : (revocation revokedAt account previous).selected row with
  | false =>
    rw [Update.row_of_not_selected hselected]
    exact hselected
  | true =>
    rw [Update.row_of_selected hselected]
    simp [SessionRepository.selectsId, revocation, SessionRecord.revoked]

theorem prepare_of_lt {absolute : Timestamp} (h : issuedAt < absolute) :
    prepare issuedAt (some absolute) = .ok (min (issuedAt + idleLifetime) absolute, absolute) := by
  have hlifetime : 0 < idleLifetime := by decide
  have hidle : issuedAt < min (issuedAt + idleLifetime) absolute :=
    Nat.lt_min.2 ⟨Nat.lt_add_of_pos_right hlifetime, h⟩
  unfold prepare sessionExpiry
  dsimp only [Option.getD_some]
  rw [if_neg (Nat.not_le.2 h), if_neg (Nat.not_le.2 hidle)]

theorem created_replacement :
    (replacement createdAt account previous issuedAt secrets).Created db createdAt ↔
      Issues db createdAt account previous issuedAt secrets := by
  have hcheck : (replacement createdAt account previous issuedAt secrets).check = true ↔
      secrets.tokenHash.length = 32 ∧ secrets.csrfHash.length = 32 ∧ 0 ≤ previous.epoch ∧
        createdAt < issuedAt + idleLifetime ∧ createdAt < previous.absoluteExpiresAt := by
    rw [SessionRecord.check_iff]
    simp only [replacement, SessionRepository.newSession, Nat.lt_min, Nat.min_le_right,
      Nat.le_refl, true_or,
      true_and, and_true]
  constructor
  · intro h
    obtain ⟨htoken, hcsrf, hepoch, hidle, habsolute⟩ := hcheck.1 h.check
    exact ⟨h.account, h.device, hepoch, hidle, habsolute, htoken, hcsrf, h.freshId,
      h.freshTokenHash⟩
  · intro h
    exact ⟨hcheck.2 ⟨h.tokenHash, h.csrfHash, h.epoch, h.idle, h.absolute⟩, h.freshId,
      h.freshTokenHash, h.accountAt, h.deviceAt, rfl, rfl⟩

/-- The revocation keeps all that the insertion depends on. -/
theorem created_revocation {s : SessionRecord} :
    s.Created { db with sessions := (revocation revokedAt account previous).apply db.sessions }
      createdAt ↔ s.Created db createdAt := by
  have hids : ((revocation revokedAt account previous).apply db.sessions).map (·.id) =
      db.sessions.map (·.id) :=
    Update.map_apply (Update.row_column SessionRecord.id fun _ => rfl) _
  have hhashes : ((revocation revokedAt account previous).apply db.sessions).map (·.tokenHash) =
      db.sessions.map (·.tokenHash) :=
    Update.map_apply (Update.row_column SessionRecord.tokenHash fun _ => rfl) _
  have hfresh : (∀ row ∈ (revocation revokedAt account previous).apply db.sessions,
      row.tokenHash ≠ s.tokenHash) ↔ ∀ row ∈ db.sessions, row.tokenHash ≠ s.tokenHash := by
    have hmem := congrArg (s.tokenHash ∉ ·) hhashes
    simpa [eq_comm, iff_comm] using hmem
  constructor
  · intro h
    exact ⟨h.check, hids ▸ h.freshId, hfresh.1 h.freshTokenHash, h.account, h.device, h.createdAt,
      h.notRevoked⟩
  · intro h
    exact ⟨h.check, hids ▸ h.freshId, hfresh.2 h.freshTokenHash, h.account, h.device, h.createdAt,
      h.notRevoked⟩

/-- Without a revocation the call raises, and every session is as it was. -/
theorem rotateBetween_of_not_revokes (h : ¬ Revokes db revokedAt account previous issuedAt) :
    ∃ error db', rotateBetween db revokedAt createdAt account previous issuedAt secrets =
      (db', .error error) ∧ db'.sessions = db.sessions := by
  unfold rotateBetween
  split_ifs with hdeadline
  · exact ⟨_, db, rfl, rfl⟩
  split
  · exact ⟨_, db, rfl, rfl⟩
  case h_2 db₁ hrevoke =>
    refine ⟨_, db₁, rfl, ?_⟩
    obtain ⟨-, rfl, hrows⟩ := updateSessions_ok (u := revocation revokedAt account previous) hrevoke
    -- no row is selected, so the update leaves every row alone
    have hnone : ∀ s ∈ db.sessions, (revocation revokedAt account previous).row s = s := by
      intro s hs
      refine Update.row_of_not_selected (Bool.eq_false_iff.2 fun hselected => ?_)
      exact List.not_mem_nil (hrows ▸ Table.mem_written.2 ⟨s, hs, hselected, rfl⟩)
    exact (List.map_congr_left hnone).trans (List.map_id' _)
  case h_3 db₁ first rest hrevoke =>
    obtain ⟨hcheck, -, hrows⟩ :=
      updateSessions_ok (u := revocation revokedAt account previous) hrevoke
    have hfirst : first ∈ Table.written _ _ db.sessions := hrows ▸ List.mem_cons_self
    obtain ⟨s, hs, hselected, -⟩ := Table.mem_written.1 hfirst
    exact absurd ⟨Nat.not_le.1 hdeadline, ⟨s, hs, hselected⟩, hcheck⟩ h

theorem revoke_of_revokes (h : Revokes db revokedAt account previous issuedAt) :
    ∃ first rest, SessionRepository.revoke db revokedAt account previous.id "rotation" =
      .ok ({ db with sessions := (revocation revokedAt account previous).apply db.sessions },
        first :: rest) := by
  obtain ⟨s, hs, hselected⟩ := h.found
  have hupdate := Table.update_eq_ok.2 ⟨h.check, rfl, rfl⟩
  have hrevoke : SessionRepository.revoke db revokedAt account previous.id "rotation" =
      .ok ({ db with sessions := (revocation revokedAt account previous).apply db.sessions },
        Table.written (SessionRepository.selectsId account previous.id)
          (SessionRecord.revoked revokedAt "rotation") db.sessions) := by
    unfold SessionRepository.revoke Database.updateSessions
    rw [hupdate]
    rfl
  cases hrows : Table.written (SessionRepository.selectsId account previous.id)
      (SessionRecord.revoked revokedAt "rotation") db.sessions with
  | nil => exact absurd (hrows ▸ Table.mem_written.2 ⟨s, hs, hselected, rfl⟩) List.not_mem_nil
  | cons first rest => exact ⟨first, rest, hrows ▸ hrevoke⟩

theorem create_of_lt (h : issuedAt < previous.absoluteExpiresAt) :
    create db createdAt account previous.deviceId previous.epoch issuedAt
        (some previous.absoluteExpiresAt) secrets =
      (SessionRepository.create db createdAt account previous.deviceId secrets.tokenHash
        secrets.csrfHash previous.epoch (min (issuedAt + idleLifetime) previous.absoluteExpiresAt)
        previous.absoluteExpiresAt secrets.id).mapError .repository := by
  unfold create
  rw [prepare_of_lt h]
  rfl

theorem rotateBetween_of_issues (h : Revokes db revokedAt account previous issuedAt)
    (hissues : Issues db createdAt account previous issuedAt secrets) :
    rotateBetween db revokedAt createdAt account previous issuedAt secrets =
      ({ db with
          sessions := (revocation revokedAt account previous).apply db.sessions ++
            [replacement createdAt account previous issuedAt secrets] },
        .ok (replacement createdAt account previous issuedAt secrets)) := by
  obtain ⟨first, rest, hrevoke⟩ := revoke_of_revokes h
  have hcreated : (replacement createdAt account previous issuedAt secrets).Created
      { db with sessions := (revocation revokedAt account previous).apply db.sessions } createdAt :=
    created_revocation.2 (created_replacement.2 hissues)
  unfold rotateBetween
  rw [if_neg (Nat.not_le.2 h.deadline), hrevoke]
  dsimp only
  rw [create_of_lt h.deadline, SessionRepository.create_eq_ok.2 ⟨rfl, hcreated, rfl⟩]
  rfl

theorem rotateBetween_of_not_issues (h : Revokes db revokedAt account previous issuedAt)
    (hissues : ¬ Issues db createdAt account previous issuedAt secrets) :
    ∃ error, rotateBetween db revokedAt createdAt account previous issuedAt secrets =
      ({ db with sessions := (revocation revokedAt account previous).apply db.sessions },
        .error error) := by
  obtain ⟨first, rest, hrevoke⟩ := revoke_of_revokes h
  unfold rotateBetween
  rw [if_neg (Nat.not_le.2 h.deadline), hrevoke]
  dsimp only
  rw [create_of_lt h.deadline]
  cases hcreate : SessionRepository.create
      { db with sessions := (revocation revokedAt account previous).apply db.sessions }
        createdAt account
      previous.deviceId secrets.tokenHash secrets.csrfHash previous.epoch
      (min (issuedAt + idleLifetime) previous.absoluteExpiresAt) previous.absoluteExpiresAt
      secrets.id with
  | error error => exact ⟨.repository error, rfl⟩
  | ok created =>
    obtain ⟨db', record⟩ := created
    obtain ⟨rfl, hcreated, -⟩ := SessionRepository.create_eq_ok.1 hcreate
    exact absurd (created_replacement.1 (created_revocation.1 hcreated)) hissues

/-- `rotate` is atomic exactly where it does not revoke the session, or the insertion that follows
is bound to be accepted. -/
theorem rotation_atomic_iff (db : Database) (revokedAt createdAt : Timestamp) (account : Uuid)
    (previous : SessionRecord) (issuedAt : Timestamp) (secrets : SessionSecrets) :
    RotatedAtomically db createdAt account previous
        (rotateBetween db revokedAt createdAt account previous issuedAt secrets) ↔
      (Revokes db revokedAt account previous issuedAt →
        Issues db createdAt account previous issuedAt secrets) := by
  constructor
  · intro hatomic hrevokes
    by_contra hissues
    obtain ⟨error, hrotate⟩ := rotateBetween_of_not_issues hrevokes hissues
    rw [hrotate] at hatomic
    -- the revoked session is no longer selected, so the sessions are not as they were
    obtain ⟨s, hs, hselected⟩ := hrevokes.found
    rw [← hatomic.raised error rfl] at hs
    rw [not_selected_of_revocation hs] at hselected
    cases hselected
  · intro hissues
    by_cases hrevokes : Revokes db revokedAt account previous issuedAt
    case neg =>
      obtain ⟨error, db', hrotate, hsessions⟩ :=
        @rotateBetween_of_not_revokes _ _ createdAt _ _ _ secrets hrevokes
      rw [hrotate]
      exact ⟨nofun, fun _ _ => hsessions⟩
    case pos =>
      specialize hissues hrevokes
      rw [rotateBetween_of_issues hrevokes hissues]
      refine ⟨?_, nofun⟩
      rintro _ ⟨⟩
      refine ⟨List.mem_append_right _ List.mem_cons_self, ?_, ?_⟩
      · have hidle : createdAt < min (issuedAt + idleLifetime) previous.absoluteExpiresAt :=
          Nat.lt_min.2 ⟨hissues.idle, hissues.absolute⟩
        have hadmits : (db.accountAt account previous.epoch &&
            db.deviceAt account previous.deviceId previous.epoch) = true :=
          Bool.and_eq_true_iff.2 ⟨hissues.accountAt, hissues.deviceAt⟩
        unfold SessionRecord.usable
        rw [Bool.and_assoc, Bool.and_eq_true_iff]
        refine ⟨?_, hadmits⟩
        simp [replacement, SessionRepository.newSession, hidle, hissues.absolute]
      · intro s hs
        rcases List.mem_append.1 hs with hs | hs
        · exact not_selected_of_revocation hs
        · obtain rfl := List.mem_singleton.1 hs
          refine Bool.eq_false_iff.2 fun hselected => ?_
          -- the id of the new session is not that of the previous one
          obtain ⟨row, hrow, hprevious⟩ := hrevokes.found
          simp only [SessionRepository.selectsId, Bool.and_eq_true,
            decide_eq_true_eq] at hselected hprevious
          exact hissues.freshId (List.mem_map.2 ⟨row, hrow, hprevious.1.2.trans hselected.1.2.symm⟩)

/-- The device of the session is logged out. -/
def loggedOutDatabase : Database :=
  { sessionDatabase with
    devices := sessionDatabase.devices.map fun d => { d with status := .inactive } }

def freshSecrets : SessionSecrets := ⟨List.replicate 32 1, List.replicate 32 1, ⟨6⟩⟩

/-- A session is rotated after its device was logged out, and another while its deadline passes:
both calls raise, and leave the session revoked. -/
theorem rotation_atomic_iff_failing :
    ¬ RotatedAtomically loggedOutDatabase 8 ⟨1⟩ sessionDatabase.session
        (rotateBetween loggedOutDatabase 8 8 ⟨1⟩ sessionDatabase.session 8 freshSecrets) ∧
      ¬ RotatedAtomically sessionDatabase 9 ⟨1⟩ sessionDatabase.session
        (rotateBetween sessionDatabase 8 9 ⟨1⟩ sessionDatabase.session 8 freshSecrets) := by
  constructor
  · intro h
    have hsame := h.raised (.repository .noRow) rfl
    exact absurd hsame (by decide +kernel)
  · intro h
    have hsame := h.raised (.repository (.rejected .check)) rfl
    exact absurd hsame (by decide +kernel)

end SessionService

end SelfRelay.Backend
