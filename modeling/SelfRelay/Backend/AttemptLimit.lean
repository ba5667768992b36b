import SelfRelay.Backend.SingleUse

/-!
# Ten failed attempts

A registration challenge, a linking code and a login challenge count their failures.  The first two
cannot be used after ten of them: their unit is in the store for good.  A login challenge can,
because `consume` does not look at `attempt_count`.
-/

namespace SelfRelay.Backend

open StepSystem

/-- The credentials that record failures. -/
inductive LimitedCredential where
  | registration (challenge : Uuid)
  | linking (otp : Uuid)
  | login (challenge : Uuid)
  deriving DecidableEq, Repr

namespace LimitedCredential

/-- The failures that are recorded. -/
def failures (s : DeviceAuthService) : LimitedCredential → ℕ
  | .registration challenge => s.registrations.valueAt challenge RegistrationState.attempts 0
  | .linking otp => s.db.otps.valueAt otp DeviceLinkingOtpRecord.attemptCount 0
  | .login challenge => s.db.challenges.valueAt challenge DeviceChallengeRecord.attemptCount 0

/-- What attempts on the credential achieved: devices and sessions of a registration challenge,
devices of a linking code, sessions of a login challenge. -/
def successes (log : AuthLog) : LimitedCredential → ℕ
  | .registration challenge =>
    (log.registered.countP fun use => use.1 = challenge) +
      log.opened.countP fun use => use.1 = challenge
  | .linking otp => log.linked.countP fun use => use.1 = otp
  | .login challenge => log.loggedIn.countP fun use => use.1 = challenge

/-- The step consumes the credential although it has ten failures; only a login does so. -/
def overruns (s : DeviceAuthService) (event : AuthEvent) : LimitedCredential → Bool
  | .login challenge => s.overruns (.login challenge) event
  | _ => false

end LimitedCredential

namespace DeviceAuthService

variable {s t : DeviceAuthService} {events later : List AuthEvent} {peeks : Bool}
  {db : AuthDatabase}

/-- A credential whose unit is locked in its store is not used any more. -/
theorem uses_of_locked {c : Credential} (hrun : Run (SparedStep c) (initial peeks db) events s)
    (hlater : Run (SparedStep c) s later t) (hlocked : c.unspent true s = c.unspent false s + 1) :
    c.uses t.log = c.uses s.log := by
  obtain ⟨hkeyed, hle⟩ := potential_run (b := true) hrun (keyed_initial peeks db)
  have hone := hle.trans (potential_initial peeks db)
  -- the unit in the store is the only one
  have hzero : c.potential false s = 0 := by
    unfold Credential.potential Credential.weight at hone ⊢
    omega
  obtain ⟨-, hle⟩ := potential_run (b := false) hlater hkeyed
  have hs := uses_le_potential (b := false) (c := c) (s := s)
  have ht := uses_le_potential (b := false) (c := c) (s := t)
  omega

/-- The unit of a stored credential is locked after ten failures. -/
theorem valueAt_locked {α : Type} {d : Dict Uuid α} {k : Uuid} {attempts : α → ℕ} {o : α → Bool}
    {m : ℕ} (h : 10 ≤ d.valueAt k attempts 0) :
    d.valueAt k (fun v => Credential.worth true (attempts v) (o v)) m =
      d.valueAt k (fun v => Credential.worth false (attempts v) (o v)) m + 1 := by
  cases hget : d.get k with
  | none =>
    rw [Dict.valueAt_of_get_none hget] at h
    omega
  | some v =>
    rw [Dict.valueAt_of_get hget] at h
    rw [Dict.valueAt_of_get hget, Dict.valueAt_of_get hget, Credential.worth, Credential.worth,
      if_pos h, if_pos h]
    rfl

/-- Registration challenges and linking codes are never consumed after ten failures. -/
theorem sparedStep_of_limited {c : LimitedCredential} {c' : Credential} {a a' : DeviceAuthService}
    {es : List AuthEvent} (hc : ∀ challenge, c' ≠ .login challenge)
    (h : Run (fun a event a' => Step step a event a' ∧ c.overruns a event = false) a es a') :
    Run (SparedStep c') a es a' :=
  sparedStep_run hc (h.mono fun _ _ _ h => h.1)

/-- Once ten failures are recorded for a credential, no attempt succeeds any more, in a run in which
no login consumes a challenge that has ten failures. -/
theorem attempt_limit (c : LimitedCredential)
    (hrun : Run (fun a event a' => Step step a event a' ∧ c.overruns a event = false)
      (initial peeks db) events s)
    (hlater : Run (fun a event a' => Step step a event a' ∧ c.overruns a event = false) s later t)
    (hfailures : 10 ≤ c.failures s) : c.successes t.log = c.successes s.log := by
  cases c with
  | registration challenge =>
    have hlocked := valueAt_locked (d := s.registrations) (o := fun _ => true) (m := 0) hfailures
    have hregistered : Credential.uses t.log (.registration challenge) = _ :=
      uses_of_locked (sparedStep_of_limited (by simp) hrun) (sparedStep_of_limited (by simp) hlater)
        (by simp only [Credential.unspent]; omega)
    have hopened : Credential.uses t.log (.session challenge) = _ :=
      uses_of_locked (sparedStep_of_limited (by simp) hrun) (sparedStep_of_limited (by simp) hlater)
        (by simp only [Credential.unspent]; omega)
    exact congrArg₂ (· + ·) hregistered hopened
  | linking otp =>
    exact uses_of_locked (c := .linking otp) (sparedStep_of_limited (by simp) hrun)
      (sparedStep_of_limited (by simp) hlater) (valueAt_locked hfailures)
  | login challenge =>
    exact uses_of_locked (c := .login challenge) hrun hlater (valueAt_locked hfailures)

/-- A registration challenge and ten attempts with a wrong proof. -/
def failedRegistrations : List AuthEvent :=
  let request : RegistrationRequest :=
    ⟨some ⟨[1], List.replicate 32 1, "phone"⟩, "https://relay.example", ⟨5⟩⟩
  [.issueBootstrap [7] ⟨⟨1⟩, 0, 1000⟩, .issueRegistrationChallenge 0 [7] request 10,
    .resume 0 (.account (some ⟨⟨1⟩, 0, none⟩)), .resume 0 (.devices false 20 20 ⟨8⟩ [])] ++
    List.replicate 10 (.completeRegistration 0 ⟨8⟩ false "https://relay.example" 30)

/-- The challenge is still stored, but a valid proof does not claim it. -/
theorem attempt_limit_registration :
    ∃ s t : DeviceAuthService,
      (LimitedCredential.registration ⟨8⟩).failures s = 10 ∧
      s.step (.completeRegistration 0 ⟨8⟩ true "https://relay.example" 40) = some t ∧
      (LimitedCredential.registration ⟨8⟩).successes t.log =
        (LimitedCredential.registration ⟨8⟩).successes s.log := by
  have hfailed :
    (exec (fun a event => if LimitedCredential.overruns a event (.registration ⟨8⟩) = false
      then step a event else none) (initial true ⟨⟨[⟨⟨1⟩, 0, none⟩], [], [], []⟩, ∅, ∅⟩)
      failedRegistrations).any (fun s => LimitedCredential.failures s (.registration ⟨8⟩) = 10 &&
        (s.step (.completeRegistration 0 ⟨8⟩ true "https://relay.example" 40)).isSome) = true := by
    decide +kernel
  obtain ⟨s, hs, hfailed⟩ := (Option.any_eq_true _ _).1 hfailed
  rw [Bool.and_eq_true] at hfailed
  have hfailures := of_decide_eq_true hfailed.1
  obtain ⟨t, ht⟩ := Option.isSome_iff_exists.1 hfailed.2
  exact ⟨s, t, hfailures, ht, attempt_limit (.registration ⟨8⟩) (Run.of_exec_guarded hs)
    (.single ⟨ht, rfl⟩) (le_of_eq hfailures.symm)⟩

/-- An account with an active device, and a login challenge for it. -/
def returningDevice : AuthDatabase where
  base :=
    { users := [⟨⟨1⟩, 0, none⟩]
      devices := [DeviceRepository.inserted 0 ⟨5⟩ ⟨1⟩ 0 "phone" [1] (List.replicate 32 1) none]
      sessions := []
      transfers := [] }
  otps := ∅
  challenges := Dict.set ∅ ⟨8⟩ ⟨⟨8⟩, ⟨5⟩, [3], "https://relay.example", 0, 1000, none, 0⟩

/-- One attempt to log in, up to the statement after the check of the proof. -/
def loginAttempt (proof : Bool) : List AuthEvent :=
  [.completeLoginChallenge 0 ⟨⟨1⟩, ⟨8⟩, some [3], proof, "https://relay.example", 10⟩,
    .resume 0 (.statement 10), .resume 0 (.account (some ⟨⟨1⟩, 0, none⟩)),
    .resume 0 (.device (returningDevice.base.devices.head?) ⟨0⟩ []), .resume 0 (.statement 20)]

/-- Ten attempts with a wrong proof. -/
def failedLogins : List AuthEvent := (List.replicate 10 (loginAttempt false)).flatten

/-- An attempt with a valid proof, which gets its session. -/
def validLogin : List AuthEvent :=
  loginAttempt true ++ [.resume 0 (.statement 30),
    .resume 0 (.session 40 ⟨⟨6⟩, List.replicate 32 2, List.replicate 32 3⟩)]

/-- After ten failed logins the valid proof still logs in. -/
theorem attempt_limit_ignored : ¬ ∀ (c : LimitedCredential) (peeks : Bool) (db : AuthDatabase)
      (events later : List AuthEvent) (s t : DeviceAuthService),
    Run (Step step) (initial peeks db) events s → Run (Step step) s later t → 10 ≤ c.failures s →
      c.successes t.log = c.successes s.log := by
  intro hclaim
  have hfailed : (exec step (initial true returningDevice) failedLogins).any (fun s =>
      10 ≤ LimitedCredential.failures s (.login ⟨8⟩) && (exec step s validLogin).any fun t =>
        LimitedCredential.successes t.log (.login ⟨8⟩) ≠
          LimitedCredential.successes s.log (.login ⟨8⟩)) = true := by
    decide +kernel
  obtain ⟨s, hs, hfailed⟩ := (Option.any_eq_true _ _).1 hfailed
  rw [Bool.and_eq_true] at hfailed
  obtain ⟨hfailures, hvalid⟩ := hfailed
  obtain ⟨t, ht, hne⟩ := (Option.any_eq_true _ _).1 hvalid
  exact of_decide_eq_true hne (hclaim (.login ⟨8⟩) _ _ _ _ s t (Run.of_exec hs) (Run.of_exec ht)
    (of_decide_eq_true hfailures))

end DeviceAuthService

end SelfRelay.Backend
