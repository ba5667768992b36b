import SelfRelay.Backend.RowUpdates

/-!
# `SessionService`

`prepare`, `create` and `rotate`.  `issuedAt` is what `_utc_now` returns: the argument of the
caller, or the clock of the application, which need not be the clock of the database.  The secrets
that `_session_secrets` draws are arguments.
-/

namespace SelfRelay.Backend

/-- Why a call of the service raised. -/
inductive ServiceError where
  | value (message : String)
  | repository (error : RepositoryError)
  deriving DecidableEq, Repr

/-- The hashes of the secrets that `_session_secrets` draws, and the id that the database draws. -/
structure SessionSecrets where
  tokenHash : Bytea
  csrfHash : Bytea
  id : Uuid
  deriving DecidableEq, Repr

namespace SessionService

/-- `SESSION_IDLE_LIFETIME` -/
def idleLifetime : Timestamp := thirtyDays

/-- `SESSION_ABSOLUTE_LIFETIME` -/
def absoluteLifetime : Timestamp := 3 * thirtyDays

/-- `session_expiry` -/
def sessionExpiry (issuedAt : Timestamp) : Timestamp × Timestamp :=
  (issuedAt + idleLifetime, issuedAt + absoluteLifetime)

/-- The expiry values of `prepare`. -/
def prepare (issuedAt : Timestamp) (absoluteExpiresAt : Option Timestamp) :
    Except ServiceError (Timestamp × Timestamp) :=
  let expiry := sessionExpiry issuedAt
  let absoluteExpiry := absoluteExpiresAt.getD expiry.2
  if absoluteExpiry ≤ issuedAt then .error (.value "session absolute expiry must be in the future")
  else
    let idleExpiresAt := min expiry.1 absoluteExpiry
    if idleExpiresAt ≤ issuedAt then .error (.value "session idle expiry must be in the future")
    else .ok (idleExpiresAt, absoluteExpiry)

variable (db : Database) (now : Timestamp)

/-- `create` -/
def create (account device : Uuid) (epoch : ℤ) (issuedAt : Timestamp)
    (absoluteExpiresAt : Option Timestamp) (secrets : SessionSecrets) :
    Except ServiceError (Database × SessionRecord) := do
  let (idleExpiresAt, absoluteExpiry) ← prepare issuedAt absoluteExpiresAt
  (SessionRepository.create db now account device secrets.tokenHash secrets.csrfHash epoch
    idleExpiresAt absoluteExpiry secrets.id).mapError .repository

/-- `rotate`.  The revocation is committed before `create` runs, and stays when `create` raises. -/
def rotate (account : Uuid) (previous : SessionRecord) (issuedAt : Timestamp)
    (secrets : SessionSecrets) : Database × Except ServiceError SessionRecord :=
  if previous.absoluteExpiresAt ≤ issuedAt then
    (db, .error (.value "cannot rotate an expired session"))
  else
    match SessionRepository.revoke db now account previous.id "rotation" with
    | .error error => (db, .error (.repository error))
    | .ok (db, []) => (db, .error (.value "cannot rotate an inactive session"))
    | .ok (db, _ :: _) =>
      match create db now account previous.deviceId previous.epoch issuedAt
          (some previous.absoluteExpiresAt) secrets with
      | .error error => (db, .error error)
      | .ok (db, record) => (db, .ok record)

variable {db now} {db' : Database}

theorem prepare_ok {issuedAt idle absolute : Timestamp} {absoluteExpiresAt : Option Timestamp}
    (h : prepare issuedAt absoluteExpiresAt = .ok (idle, absolute)) :
    absolute = absoluteExpiresAt.getD (issuedAt + absoluteLifetime) ∧ idle ≤ absolute := by
  unfold prepare at h
  dsimp only at h
  split_ifs at h
  cases h
  exact ⟨rfl, Nat.min_le_right _ _⟩

/-- The session that `create` inserts expires when `prepare` says. -/
theorem create_ok {account device : Uuid} {epoch : ℤ} {issuedAt : Timestamp}
    {absoluteExpiresAt : Option Timestamp} {secrets : SessionSecrets} {record : SessionRecord}
    (h : create db now account device epoch issuedAt absoluteExpiresAt secrets =
      .ok (db', record)) :
    record.Created db now ∧ db' = { db with sessions := db.sessions ++ [record] } ∧
      record.absoluteExpiresAt = absoluteExpiresAt.getD (issuedAt + absoluteLifetime) := by
  obtain ⟨⟨idle, absolute⟩, hprepare, hcreate⟩ := exists_of_bind_eq_ok h
  obtain ⟨habsolute, -⟩ := prepare_ok hprepare
  dsimp only at hcreate
  cases hrow : SessionRepository.create db now account device secrets.tokenHash
    secrets.csrfHash epoch
      idle absolute secrets.id with
  | error error =>
    rw [hrow] at hcreate
    cases hcreate
  | ok created =>
    rw [hrow] at hcreate
    cases hcreate
    obtain ⟨hcreated, -, -, -, -, habsolute', -, hdb⟩ := SessionRepository.create_ok hrow
    exact ⟨hcreated, hdb, habsolute'.trans habsolute⟩

/-- What `rotate` does: nothing, or a revocation, or a revocation of a session that was not revoked
and an insertion of one with its absolute deadline. -/
theorem rotate_cases {account : Uuid} {previous : SessionRecord} {issuedAt : Timestamp}
    {secrets : SessionSecrets} {result : Except ServiceError SessionRecord}
    (h : rotate db now account previous issuedAt secrets = (db', result)) :
    ((∃ error, result = .error error) ∧ (db' = db ∨
        ∃ response, SessionRepository.perform db now (.revoke account previous.id "rotation") =
          .ok (db', response))) ∨
      ∃ db₁ response record, result = .ok record ∧
        SessionRepository.perform db now (.revoke account previous.id "rotation") =
          .ok (db₁, response) ∧
        (∃ row ∈ db.sessions, SessionRepository.selectsId account previous.id row = true) ∧
        record.Created db₁ now ∧ db' = { db₁ with sessions := db₁.sessions ++ [record] } ∧
        record.absoluteExpiresAt = previous.absoluteExpiresAt := by
  unfold rotate at h
  split at h
  · cases h
    exact .inl ⟨⟨_, rfl⟩, .inl rfl⟩
  have hperform : ∀ {db₁ rows},
      SessionRepository.revoke db now account previous.id "rotation" = .ok (db₁, rows) →
      SessionRepository.perform db now (.revoke account previous.id "rotation") =
        .ok (db₁, .session rows.head?) := by
    intro db₁ rows hrevoke
    rw [SessionRepository.perform, hrevoke]
    rfl
  split at h
  case h_1 =>
    cases h
    exact .inl ⟨⟨_, rfl⟩, .inl rfl⟩
  case h_2 hrevoke =>
    cases h
    exact .inl ⟨⟨_, rfl⟩, .inr ⟨_, hperform hrevoke⟩⟩
  case h_3 db₁ revoked rows hrevoke =>
    split at h
    · cases h
      exact .inl ⟨⟨_, rfl⟩, .inr ⟨_, hperform hrevoke⟩⟩
    · rename_i db₂ record hcreate
      cases h
      obtain ⟨hcreated, hdb, habsolute⟩ := create_ok hcreate
      refine .inr ⟨db₁, _, record, rfl, hperform hrevoke, ?_, hcreated, hdb, habsolute⟩
      obtain ⟨-, -, hrows⟩ :=
        updateSessions_ok (u := ⟨_, SessionRecord.revoked now "rotation"⟩) hrevoke
      have hmem : revoked ∈ Table.written _ _ db.sessions := hrows ▸ List.mem_cons_self
      obtain ⟨row, hrow, hselected, -⟩ := Table.mem_written.1 hmem
      exact ⟨row, hrow, hselected⟩

end SessionService

end SelfRelay.Backend
