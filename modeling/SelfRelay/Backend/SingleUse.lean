import SelfRelay.Backend.DeviceAuth
import SelfRelay.Lib.Run

/-!
# Enrolment credentials are used once

A bootstrap token, a registration challenge, a linking code and a login challenge each give one unit
to spend.  The unit is with the credential that was not generated yet, in the store, in a call that
has taken the credential from its store, or in the log.  No step makes a unit: `Conserves` says so
of what a call does between two awaits, and `potential_step` of a step of the service.

A credential with ten failures cannot be used.  Its unit in the store is counted or not, as `locked`
says.  Only a login consumes such a credential, in a step that `overruns` names.
-/

namespace SelfRelay.Backend

open StepSystem

/-- What can be spent: a token for a challenge, a challenge for a device and for a session, a
linking code for a device, a login challenge for a session. -/
inductive Credential where
  | bootstrap (token : Bytea)
  | registration (challenge : Uuid)
  | session (challenge : Uuid)
  | linking (otp : Uuid)
  | login (challenge : Uuid)
  deriving DecidableEq, Repr

namespace Credential

/-- How often the credential was used. -/
def uses (log : AuthLog) : Credential → ℕ
  | .bootstrap token => log.issued.countP fun use => use.1 = token
  | .registration challenge => log.registered.countP fun use => use.1 = challenge
  | .session challenge => log.opened.countP fun use => use.1 = challenge
  | .linking otp => log.linked.countP fun use => use.1 = otp
  | .login challenge => log.loggedIn.countP fun use => use.1 = challenge

/-- The unit of a stored credential. -/
def worth (locked : Bool) (attempts : ℕ) (isOpen : Bool) : ℕ :=
  if 10 ≤ attempts then locked.toNat else isOpen.toNat

theorem worth_le_one (locked : Bool) (attempts : ℕ) (isOpen : Bool) :
    worth locked attempts isOpen ≤ 1 := by
  unfold worth
  split_ifs
  · exact Bool.toNat_le locked
  · exact Bool.toNat_le isOpen

theorem worth_of_lt {locked : Bool} {attempts : ℕ} {isOpen : Bool} (h : attempts < 10) :
    worth locked attempts isOpen = isOpen.toNat := by
  rw [worth, if_neg (Nat.not_le.2 h)]

/-- The units that are in a store, or that are still to be generated. -/
def unspent (locked : Bool) (s : DeviceAuthService) : Credential → ℕ
  | .bootstrap token =>
    (1 - s.log.tokens.count token) + s.bootstraps.valueAt token (fun _ => 1) 0
  | .registration challenge | .session challenge =>
    (1 - s.log.challengeIds.count challenge) +
      s.registrations.valueAt challenge (fun state => worth locked state.attempts true) 0
  | .linking otp =>
    s.db.otps.valueAt otp (fun otp => worth locked otp.attemptCount (otp.status = .active)) 1
  | .login challenge =>
    s.db.challenges.valueAt challenge
      (fun challenge => worth locked challenge.attemptCount challenge.consumedAt.isNone) 1

/-- The units that a call has taken from their store and not spent.  A token that is peeked at stays
in its store. -/
def held (peeks : Bool) : Credential → AuthCall → ℕ
  | .bootstrap token, .bootstrapAccount token' _ _
  | .bootstrap token, .bootstrapDevices token' _ _ _ =>
    if token' = token ∧ peeks = false then 1 else 0
  | .registration challenge, .claimAccount claimed _
  | .registration challenge, .claimLink claimed _ _ _
  | .registration challenge, .claimEmail claimed _ _
  | .session challenge, .claimAccount claimed _
  | .session challenge, .claimLink claimed _ _ _
  | .session challenge, .claimEmail claimed _ _
  | .session challenge, .claimFallback claimed _ _ _
  | .session challenge, .claimSession claimed _ _ _ =>
    if claimed.challenge.challengeId = challenge then 1 else 0
  | .login challenge, .loginTouch request _ _ | .login challenge, .loginSession request _ _ =>
    if request.challenge = challenge then 1 else 0
  | _, _ => 0

/-- The units of a credential that no call holds. -/
def weight (locked : Bool) (c : Credential) (s : DeviceAuthService) : ℕ :=
  c.uses s.log + c.unspent locked s

/-- All units of a credential. -/
def potential (locked : Bool) (c : Credential) (s : DeviceAuthService) : ℕ :=
  c.weight locked s + s.calls.total (c.held s.peeks)

/-- The call is about to consume the credential, a login challenge that can be consumed
but has ten failures. -/
def overruns (c : Credential) (s : DeviceAuthService) (now : Timestamp) : AuthCall → Bool
  | .loginConsume request _ _ =>
    c = .login request.challenge && (s.db.challenges.get request.challenge).any fun challenge =>
      10 ≤ challenge.attemptCount && challenge.consumedAt.isNone && now < challenge.expiresAt
  | _ => false

/-! ## Updates of the stores -/

section Updates

attribute [local simp] weight uses unspent held

variable {b : Bool} {c : Credential} {s : DeviceAuthService}

/-- A token that is taken out of its store. -/
theorem weight_del_bootstrap {t : Bytea} {state : BootstrapState}
    (hget : s.bootstraps.get t = some state) :
    c.weight b { s with bootstraps := s.bootstraps.del t } + (if c = .bootstrap t then 1 else 0) =
      c.weight b s := by
  cases c with
  | bootstrap token =>
    have hvalue := Dict.valueAt_of_get hget (f := fun _ => 1) (m := 0)
    simp only [weight, uses, unspent, Dict.valueAt_del, bootstrap.injEq]
    by_cases h : token = t
    · rw [h, if_pos rfl, if_pos rfl, hvalue]
      rfl
    · rw [if_neg h, if_neg h]
      rfl
  | registration | session | linking | login => simp [weight, uses, unspent]

theorem weight_del_bootstrap_le {t : Bytea} :
    c.weight b { s with bootstraps := s.bootstraps.del t } ≤ c.weight b s := by
  cases hget : s.bootstraps.get t with
  | none => rw [Dict.del_eq_self hget]
  | some state =>
    have h := weight_del_bootstrap (b := b) (c := c) hget
    omega

/-- A challenge that is taken out of its store. -/
theorem weight_del_registration {k : Uuid} {state : RegistrationState}
    (hget : s.registrations.get k = some state) (hattempts : state.attempts < 10) :
    c.weight b { s with registrations := s.registrations.del k } +
      (if c = .registration k ∨ c = .session k then 1 else 0) = c.weight b s := by
  have hvalue := Dict.valueAt_of_get hget (f := fun state => worth b state.attempts true) (m := 0)
  rw [worth_of_lt hattempts] at hvalue
  cases c with
  | registration challenge | session challenge =>
    simp only [weight, uses, unspent, Dict.valueAt_del, registration.injEq, session.injEq,
      reduceCtorEq, or_false, false_or]
    by_cases h : challenge = k
    · rw [h, if_pos rfl, if_pos rfl, hvalue]
      rfl
    · rw [if_neg h, if_neg h]
      rfl
  | bootstrap | linking | login => simp [weight, uses, unspent]

theorem weight_del_registration_le {k : Uuid} :
    c.weight b { s with registrations := s.registrations.del k } ≤ c.weight b s := by
  cases c with
  | registration challenge | session challenge =>
    simp only [weight, uses, unspent, Dict.valueAt_del]
    split_ifs <;> omega
  | bootstrap | linking | login => exact le_refl _

/-- A failure of a challenge that still had attempts. -/
theorem weight_set_registration {k : Uuid} {state state' : RegistrationState}
    (hget : s.registrations.get k = some state) (hattempts : state.attempts < 10) :
    c.weight b { s with registrations := s.registrations.set k state' } ≤ c.weight b s := by
  have hvalue := Dict.valueAt_of_get hget (f := fun state => worth b state.attempts true) (m := 0)
  rw [worth_of_lt hattempts] at hvalue
  cases c with
  | registration challenge | session challenge =>
    simp only [weight, uses, unspent, Dict.valueAt_set]
    by_cases h : challenge = k
    · rw [h, if_pos rfl, hvalue]
      exact Nat.add_le_add_left (Nat.add_le_add_left (worth_le_one _ _ _) _) _
    · rw [if_neg h]
  | bootstrap | linking | login => exact le_refl _

/-- A challenge with a new id has the unit of that id. -/
theorem weight_issue {r : RegistrationState} (h : r.challenge.challengeId ∉ s.log.challengeIds) :
    c.weight b (s.issue r) ≤ c.weight b s := by
  cases c with
  | registration challenge | session challenge =>
    simp only [weight, uses, unspent, DeviceAuthService.issue, Dict.valueAt_set]
    by_cases heq : challenge = r.challenge.challengeId
    · subst heq
      have hworth := worth_le_one b r.attempts true
      rw [if_pos rfl, List.count_cons_self, List.count_eq_zero.2 h]
      omega
    · rw [if_neg heq, List.count_cons_of_ne (Ne.symm heq)]
  | bootstrap | linking | login => exact le_refl _

theorem weight_issued {token : Bytea} {challenge : Uuid} :
    c.weight b { s with log := { s.log with issued := (token, challenge) :: s.log.issued } } =
      c.weight b s + if c = .bootstrap token then 1 else 0 := by
  cases c with
  | bootstrap token' =>
    simp [weight, uses, unspent, List.countP_cons, eq_comm (a := token)]
    omega
  | registration | session | linking | login => simp [weight, uses, unspent]

/-- A linking code that was active and had attempts. -/
theorem weight_set_otp {o : Uuid} {otp otp' : DeviceLinkingOtpRecord}
    (hget : s.db.otps.get o = some otp) (hactive : otp.status = .active)
    (hattempts : otp.attemptCount < 10) :
    c.weight b { s with db := { s.db with otps := s.db.otps.set o otp' } } ≤ c.weight b s := by
  have hvalue := Dict.valueAt_of_get hget
    (f := fun otp => worth b otp.attemptCount (otp.status = .active)) (m := 1)
  rw [worth_of_lt hattempts, hactive] at hvalue
  cases c with
  | linking o' =>
    simp only [weight, uses, unspent, Dict.valueAt_set]
    split_ifs with h
    · rw [h, hvalue]
      exact Nat.add_le_add_left (worth_le_one _ _ _) _
    · exact le_refl _
  | bootstrap | registration | session | login => exact le_refl _

/-- A login challenge that was not consumed and had attempts. -/
theorem weight_set_challenge {k : Uuid} {challenge challenge' : DeviceChallengeRecord}
    (hget : s.db.challenges.get k = some challenge) (hopen : challenge.consumedAt = none)
    (hattempts : challenge.attemptCount < 10) :
    c.weight b { s with db := { s.db with challenges := s.db.challenges.set k challenge' } } ≤
      c.weight b s := by
  have hvalue := Dict.valueAt_of_get hget
    (f := fun challenge => worth b challenge.attemptCount challenge.consumedAt.isNone) (m := 1)
  rw [worth_of_lt hattempts, hopen] at hvalue
  cases c with
  | login k' =>
    simp only [weight, uses, unspent, Dict.valueAt_set]
    split_ifs with h
    · rw [h, hvalue]
      exact Nat.add_le_add_left (worth_le_one _ _ _) _
    · exact le_refl _
  | bootstrap | registration | session | linking => exact le_refl _

end Updates

end Credential

/-! ## What a call does between two awaits -/

/-- The registration challenges are stored under their ids. -/
def Keyed (s : DeviceAuthService) : Prop :=
  ∀ challenge state, s.registrations.get challenge = some state →
    state.challenge.challengeId = challenge

theorem Keyed.del {s : DeviceAuthService} (h : Keyed s) (k : Uuid) :
    Keyed { s with registrations := s.registrations.del k } := by
  intro challenge state hget
  by_cases heq : challenge = k
  · rw [heq] at hget
    exact absurd hget (by simp)
  · exact h challenge state ((Dict.get_del_ne heq).symm.trans hget)

theorem Keyed.set {s : DeviceAuthService} (h : Keyed s) {k : Uuid} {state : RegistrationState}
    (hk : state.challenge.challengeId = k) :
    Keyed { s with registrations := s.registrations.set k state } := by
  intro challenge state' hget
  by_cases heq : challenge = k
  · subst heq
    rw [Dict.get_set] at hget
    obtain rfl := Option.some.inj hget
    exact hk
  · exact h challenge state' ((Dict.get_set_ne heq).symm.trans hget)

/-- A call does not make units: with what it holds afterwards there are no more than there were with
the `before` that it held. -/
structure Conserves (b : Bool) (c : Credential) (s : DeviceAuthService) (before : ℕ)
    (after : DeviceAuthService × Option AuthCall) : Prop where
  calls : after.1.calls = s.calls
  peeks : after.1.peeks = s.peeks
  keyed : Keyed after.1
  units : c.weight b after.1 + after.2.elim 0 (c.held s.peeks) ≤ c.weight b s + before

theorem Conserves.mono {b : Bool} {c : Credential} {s : DeviceAuthService} {before before' : ℕ}
    {after : DeviceAuthService × Option AuthCall} (h : Conserves b c s before after)
    (hle : before ≤ before') : Conserves b c s before' after :=
  ⟨h.calls, h.peeks, h.keyed, h.units.trans (Nat.add_le_add_left hle _)⟩

namespace DeviceAuthService

variable {b : Bool} {c : Credential} {s : DeviceAuthService}

/-- A step that changes nothing but the calls. -/
theorem conserves_refl (hkeyed : Keyed s) {before : ℕ} {call : Option AuthCall}
    (h : call.elim 0 (c.held s.peeks) ≤ before) : Conserves b c s before (s, call) :=
  ⟨rfl, rfl, hkeyed, Nat.add_le_add_left h _⟩

/-- A call that ends and leaves no more units. -/
theorem conserves_end {t : DeviceAuthService} (hcalls : t.calls = s.calls)
    (hpeeks : t.peeks = s.peeks)
    (hkeyed : Keyed t) (hweight : c.weight b t ≤ c.weight b s) : Conserves b c s 0 (t, none) :=
  ⟨hcalls, hpeeks, hkeyed, hweight⟩

theorem conserves_issueRegistrationChallenge (hkeyed : Keyed s) (token : Bytea)
    (request : RegistrationRequest) (now : Timestamp) :
    Conserves b c s 0 (s.issueRegistrationChallenge token request now) := by
  unfold issueRegistrationChallenge
  by_cases hpeeks : s.peeks = true
  · rw [if_pos hpeeks]
    apply conserves_refl hkeyed
    cases s.peekBootstrap token now with
    | none => exact le_refl _
    | some bootstrap => cases c <;> simp [Credential.held, hpeeks]
  · rw [if_neg hpeeks]
    dsimp only [consumeBootstrap]
    cases hpeek : s.peekBootstrap token now with
    | none => exact conserves_end rfl rfl hkeyed Credential.weight_del_bootstrap_le
    | some bootstrap =>
      -- a token that is found was in the store, and is with the call now
      have hget := (Option.filter_eq_some_iff.1 hpeek).1
      have hdel := Credential.weight_del_bootstrap (b := b) (c := c) hget
      have hheld : c.held s.peeks (.bootstrapAccount token bootstrap request) =
          if c = .bootstrap token then 1 else 0 := by
        cases c with
        | bootstrap token' => simp [Credential.held, hpeeks, eq_comm]
        | registration | session | linking | login => rfl
      refine ⟨rfl, rfl, hkeyed, ?_⟩
      show c.weight b _ + c.held s.peeks _ ≤ _
      rw [hheld]
      exact le_of_eq hdel

theorem conserves_completeRegistration (hkeyed : Keyed s) (challenge : Uuid) (proof : Bool)
    (origin : String) (now : Timestamp) :
    Conserves b c s 0 (s.completeRegistration challenge proof origin now) := by
  obtain h | h | ⟨state, hget, hattempts, h | h⟩ :=
    s.completeRegistration_cases challenge proof origin now
  · rw [h]
    exact conserves_refl hkeyed (le_refl _)
  · rw [h]
    exact conserves_end rfl rfl (hkeyed.del _) Credential.weight_del_registration_le
  · rw [h]
    have hid := hkeyed challenge state hget
    refine ⟨rfl, rfl, hkeyed.set hid, ?_⟩
    have hcall : (state.challenge.linkingOtpId.map AuthCall.otpFailure).elim 0
        (c.held s.peeks) = 0 := by
      cases state.challenge.linkingOtpId <;> cases c <;> rfl
    dsimp only
    rw [hcall]
    exact Credential.weight_set_registration hget hattempts
  · -- the call takes the challenge, and with it both of its units
    rw [h]
    refine ⟨rfl, rfl, hkeyed.del _, ?_⟩
    have hdel := Credential.weight_del_registration (b := b) (c := c) hget hattempts
    have hheld : c.held s.peeks (.claimAccount state now) =
        if c = .registration challenge ∨ c = .session challenge then 1 else 0 := by
      rw [← hkeyed challenge state hget]
      cases c <;> simp [Credential.held, eq_comm]
    dsimp only [Option.elim]
    rw [hheld]
    exact le_of_eq hdel

theorem keyed_issue (hkeyed : Keyed s) (state : RegistrationState) : Keyed (s.issue state) :=
  hkeyed.set (k := state.challenge.challengeId) rfl

/-- The token's unit becomes the logged challenge, whether the call held it
or it was in the store. -/
theorem conserves_issueForEmail (hkeyed : Keyed s) (token : Bytea) (account : AppUser)
    (values : RegistrationValues) (request : RegistrationRequest) (existing : Bool)
    (consumedAt issuedAt : Timestamp) {challengeId : Uuid} (nonce : Bytea)
    (hfresh : challengeId ∉ s.log.challengeIds) :
    Conserves b c s (c.held s.peeks (.bootstrapDevices token account values request))
      (s.issueForEmail token account values request existing consumedAt issuedAt challengeId nonce,
        none) := by
  unfold issueForEmail
  by_cases hpeeks : s.peeks = true
  · simp only [if_pos hpeeks]
    cases hpeek : s.peekBootstrap token consumedAt with
    | none =>
      simp only [consumeBootstrap, hpeek, Option.isSome_none, Bool.false_eq_true, if_false]
      refine ⟨rfl, rfl, hkeyed, ?_⟩
      exact Credential.weight_del_bootstrap_le.trans (Nat.le_add_right _ _)
    | some bootstrap =>
      have hget := (Option.filter_eq_some_iff.1 hpeek).1
      simp only [consumeBootstrap, hpeek, Option.isSome_some, if_true]
      have hdel := Credential.weight_del_bootstrap (b := b) (c := c) hget
      have hissue := Credential.weight_issue (b := b) (c := c)
        (s := { s with bootstraps := s.bootstraps.del token })
        (r := newRegistration challengeId account values request issuedAt nonce existing .email
          none none) hfresh
      refine ⟨rfl, rfl, keyed_issue (s := { s with bootstraps := s.bootstraps.del token }) hkeyed _,
        ?_⟩
      dsimp only [Option.elim]
      rw [Credential.weight_issued]
      omega
  · simp only [if_neg hpeeks, if_true]
    have hissue := Credential.weight_issue (b := b) (c := c) (s := s)
      (r := newRegistration challengeId account values request issuedAt nonce existing .email
        none none) hfresh
    have hheld : c.held s.peeks (.bootstrapDevices token account values request) =
        if c = .bootstrap token then 1 else 0 := by
      cases c with
      | bootstrap token' => simp [Credential.held, hpeeks, eq_comm]
      | registration | session | linking | login => rfl
    refine ⟨rfl, rfl, keyed_issue hkeyed _, ?_⟩
    dsimp only [Option.elim]
    rw [Credential.weight_issued, hheld]
    omega

theorem conserves_issueForLink (hkeyed : Keyed s) (otp : DeviceLinkingOtpRecord)
    (account : Option AppUser) (issuer : Option DeviceRecord) (request : RegistrationRequest)
    (now : Timestamp) {challengeId : Uuid} (nonce : Bytea)
    (hfresh : challengeId ∉ s.log.challengeIds) :
    Conserves b c s 0
      (s.issueForLink otp account issuer request now challengeId nonce, none) := by
  unfold issueForLink
  split
  · split_ifs
    · exact conserves_end rfl rfl (keyed_issue hkeyed _) (Credential.weight_issue hfresh)
    · exact conserves_refl hkeyed (le_refl _)
  · exact conserves_refl hkeyed (le_refl _)

theorem conserves_registerForLink (hkeyed : Keyed s) (claimed : RegistrationState) (otp : Uuid)
    (account : AppUser) (now databaseNow : Timestamp) :
    Conserves b c s (c.held s.peeks (.claimLink claimed otp account now))
      (s.registerForLink claimed otp account now databaseNow) := by
  obtain h | ⟨record, base, device, hget, hactive, hattempts, h⟩ :=
    s.registerForLink_cases claimed otp account now databaseNow
  · rw [h]
    exact conserves_refl hkeyed (Nat.zero_le _)
  rw [h]
  refine ⟨rfl, rfl, hkeyed, ?_⟩
  dsimp only [Option.elim]
  cases c with
  | bootstrap | session | login => exact le_refl _
  | registration challenge =>
    simp only [Credential.weight, Credential.uses, Credential.unspent, Credential.held,
      List.countP_cons, decide_eq_true_eq]
    omega
  | linking otp' =>
    -- the code was active and is not any more
    have hvalue := Dict.valueAt_of_get hget
      (f := fun otp => Credential.worth b otp.attemptCount (otp.status = .active)) (m := 1)
    rw [Credential.worth_of_lt hattempts, hactive] at hvalue
    simp only [Credential.weight, Credential.uses, Credential.unspent, Credential.held,
      Dict.valueAt_set, List.countP_cons, decide_eq_true_eq]
    by_cases heq : otp' = otp
    · subst heq
      rw [if_pos rfl, if_pos rfl, hvalue, Credential.worth_of_lt hattempts]
      exact le_refl _
    · rw [if_neg heq, if_neg (Ne.symm heq)]
      exact le_refl _

theorem conserves_registerForEmail (hkeyed : Keyed s) (claimed : RegistrationState)
    (account : AppUser) (now databaseNow : Timestamp) :
    Conserves b c s (c.held s.peeks (.claimEmail claimed account now))
      (s.registerForEmail claimed account now databaseNow) := by
  obtain h | ⟨base, device, h⟩ := s.registerForEmail_cases claimed account now databaseNow
  · rw [h]
    exact conserves_refl hkeyed (Nat.zero_le _)
  rw [h]
  refine ⟨rfl, rfl, hkeyed, ?_⟩
  dsimp only [Option.elim]
  cases c with
  | bootstrap | session | linking | login => cases claimed.challenge.fallback <;> exact le_refl _
  | registration challenge =>
    cases claimed.challenge.fallback <;>
      simp [Credential.weight, Credential.uses, Credential.unspent, Credential.held,
        List.countP_cons] <;> omega

/-- A session that is created for a challenge. -/
theorem conserves_opened (hkeyed : Keyed s) (claimed : RegistrationState) (account : AppUser)
    (device session : Uuid) (now : Timestamp) (base : Database) :
    Conserves b c s (c.held s.peeks (.claimSession claimed account device now))
      ({ s with
          db := { s.db with base }
          log := { s.log with
            opened := (claimed.challenge.challengeId, session) :: s.log.opened } },
        none) := by
  refine ⟨rfl, rfl, hkeyed, ?_⟩
  dsimp only [Option.elim]
  cases c with
  | bootstrap | registration | linking | login => exact le_refl _
  | session challenge =>
    simp only [Credential.weight, Credential.uses, Credential.unspent, Credential.held,
      List.countP_cons, decide_eq_true_eq]
    omega

/-- A session that is created for a login. -/
theorem conserves_loggedIn (hkeyed : Keyed s) (request : LoginRequest) (account : AppUser)
    (device session : Uuid) (base : Database) :
    Conserves b c s (c.held s.peeks (.loginSession request account device))
      ({ s with
          db := { s.db with base }
          log := { s.log with loggedIn := (request.challenge, session) :: s.log.loggedIn } },
        none) := by
  refine ⟨rfl, rfl, hkeyed, ?_⟩
  dsimp only [Option.elim]
  cases c with
  | bootstrap | registration | session | linking => exact le_refl _
  | login challenge =>
    simp only [Credential.weight, Credential.uses, Credential.unspent, Credential.held,
      List.countP_cons, decide_eq_true_eq]
    omega

theorem conserves_otpFailure (hkeyed : Keyed s) (otp : Uuid) (databaseNow : Timestamp) :
    Conserves b c s 0
      ({ s with db := DeviceLinkingOtpRepository.markFailed s.db databaseNow otp }, none) := by
  obtain h | ⟨record, status, hget, hactive, hattempts, h⟩ :=
    DeviceLinkingOtpRepository.markFailed_cases s.db databaseNow otp
  · rw [h]
    exact conserves_refl hkeyed (le_refl _)
  · rw [h]
    exact conserves_end rfl rfl hkeyed (Credential.weight_set_otp hget hactive hattempts)

theorem conserves_loginFailure (hkeyed : Keyed s) (request : LoginRequest)
    (databaseNow : Timestamp) :
    Conserves b c s 0
      ({ s with
          db := DeviceChallengeRepository.markFailed s.db databaseNow request.account
            request.challenge }, none) := by
  obtain h | ⟨challenge, hget, hattempts, hopen, h⟩ :=
    DeviceChallengeRepository.markFailed_cases s.db
    databaseNow request.account request.challenge
  · rw [h]
    exact conserves_refl hkeyed (le_refl _)
  · rw [h]
    exact conserves_end rfl rfl hkeyed (Credential.weight_set_challenge hget hopen hattempts)

/-- A login challenge that is consumed with attempts left is with the call. -/
theorem conserves_consume (hkeyed : Keyed s) {request : LoginRequest} {account : AppUser}
    {device : Uuid} {databaseNow : Timestamp}
    (hspared : c.overruns s databaseNow (.loginConsume request account device) = false)
    {result : Except RepositoryError (Option DeviceChallengeRecord)} {db : AuthDatabase}
    (hconsume : DeviceChallengeRepository.consume s.db databaseNow request.account
      request.challenge = (result, db)) :
    ((∃ challenge, result = .ok (some challenge)) →
      Conserves b c s 0 ({ s with db }, some (.loginTouch request account device))) ∧
    ((∀ challenge, result ≠ .ok (some challenge)) → Conserves b c s 0 ({ s with db }, none)) := by
  obtain ⟨challenge, hget, hopen, hexpiry, heq⟩ | ⟨result', hresult, heq⟩ :=
    DeviceChallengeRepository.consume_cases s.db databaseNow request.account request.challenge
  · rw [heq] at hconsume
    cases hconsume
    refine ⟨fun _ => ⟨rfl, rfl, hkeyed, ?_⟩, fun h => absurd rfl (h _)⟩
    dsimp only [Option.elim]
    cases c with
    | bootstrap | registration | session | linking => exact le_refl _
    | login k =>
      simp only [Credential.weight, Credential.uses, Credential.unspent, Credential.held,
        Dict.valueAt_set]
      by_cases hk : k = request.challenge
      · subst hk
        have hattempts : challenge.attemptCount < 10 := by
          simpa [Credential.overruns, hget, hopen, hexpiry] using hspared
        rw [if_pos rfl, if_pos rfl, Dict.valueAt_of_get hget, Credential.worth_of_lt hattempts,
          Credential.worth_of_lt hattempts, hopen]
        exact le_refl _
      · rw [if_neg hk, if_neg (Ne.symm hk)]
  · rw [heq] at hconsume
    cases hconsume
    refine ⟨?_, fun _ => conserves_refl hkeyed (le_refl _)⟩
    rintro ⟨challenge, h⟩
    exact absurd h (hresult challenge)

/-- What a call holds is not more after its await than before; it may have spent it.  `now` is the
time of the statement, if the await was one. -/
theorem conserves_resume (hkeyed : Keyed s) {call : AuthCall} {outcome : AuthOutcome}
    (hspared : ∀ now, outcome = .statement now → c.overruns s now call = false)
    {after : DeviceAuthService × Option AuthCall} (h : s.resume call outcome = some after) :
    Conserves b c s (c.held s.peeks call) after := by
  -- a call that only reads goes on with what it holds
  have hreads {call : AuthCall} {next : Option AuthCall} (hafter : some (s, next) = some after)
      (hnext : next.elim 0 (c.held s.peeks) ≤ c.held s.peeks call) :
      Conserves b c s (c.held s.peeks call) after := by
    obtain rfl := Option.some.inj hafter
    exact conserves_refl hkeyed hnext
  revert h hspared
  fun_cases s.resume call outcome with
  | case1 => exact fun _ h => hreads h (Nat.zero_le _)
  | case2 token bootstrap request account =>
    intro _ h
    apply hreads h
    cases account with
    | none => exact Nat.zero_le _
    | some account =>
      cases request.values with
      | none => exact Nat.zero_le _
      | some values =>
        dsimp only [Option.bind_eq_bind, Option.bind_some]
        split_ifs
        · cases c <;> exact le_refl _
        · exact Nat.zero_le _
  | case3 => rintro _ ⟨⟩
  | case4 token account values request existing consumedAt issuedAt challengeId nonce hfresh =>
    rintro _ ⟨⟩
    exact conserves_issueForEmail hkeyed token account values request existing consumedAt issuedAt
      nonce hfresh
  | case5 codeHash now request allowed =>
    intro _ h
    apply hreads h
    cases allowed <;> cases c <;> exact le_refl _
  | case6 codeHash now request databaseNow =>
    intro _ h
    apply hreads h
    generalize Option.filter _ _ = found
    cases found <;> cases c <;> exact le_refl _
  | case7 => exact fun _ h => hreads h (by cases c <;> exact le_refl _)
  | case8 => rintro _ ⟨⟩
  | case9 otp account now request issuer challengeId nonce hfresh =>
    rintro _ ⟨⟩
    exact (conserves_issueForLink hkeyed otp account issuer request now nonce hfresh).mono
      (Nat.zero_le _)
  | case10 otp databaseNow =>
    rintro _ ⟨⟩
    exact (conserves_otpFailure hkeyed otp databaseNow).mono (Nat.zero_le _)
  | case11 claimed now account =>
    intro _ h
    apply hreads h
    cases account with
    | none => exact Nat.zero_le _
    | some account =>
      dsimp only [Option.bind_eq_bind, Option.bind_some]
      split_ifs
      · cases claimed.challenge.linkingOtpId <;> cases c <;> exact le_refl _
      · exact Nat.zero_le _
  | case12 claimed otp account now databaseNow =>
    rintro _ ⟨⟩
    exact conserves_registerForLink hkeyed claimed otp account now databaseNow
  | case13 claimed account now databaseNow =>
    rintro _ ⟨⟩
    exact conserves_registerForEmail hkeyed claimed account now databaseNow
  | case14 => exact fun _ h => hreads h (by cases c <;> exact le_refl _)
  | case15 => exact fun _ h => hreads h (Nat.zero_le _)
  | case16 claimed account device now databaseNow values base session _ =>
    rintro _ ⟨⟩
    exact conserves_opened hkeyed claimed account device session.id now base
  | case17 request databaseNow =>
    intro _ h
    apply hreads h
    generalize Option.filter _ _ = found
    cases found <;> cases c <;> exact le_refl _
  | case18 => exact fun _ h => hreads h (by cases c <;> exact le_refl _)
  | case19 request challenge account device =>
    intro _ h
    apply hreads h
    obtain h | h | ⟨account', device', h⟩ := checkLogin_cases request challenge account device <;>
      rw [h] <;> cases c <;> exact le_refl _
  | case20 request databaseNow =>
    rintro _ ⟨⟩
    exact (conserves_loginFailure hkeyed request databaseNow).mono (Nat.zero_le _)
  | case21 request account device databaseNow challenge db hconsume =>
    rintro hspared ⟨⟩
    have h := conserves_consume (b := b) hkeyed (hspared databaseNow rfl) hconsume
    exact (h.1 ⟨challenge, rfl⟩).mono (Nat.zero_le _)
  | case22 request account device databaseNow result db hresult hconsume =>
    rintro hspared ⟨⟩
    have h := conserves_consume (b := b) hkeyed (hspared databaseNow rfl) hconsume
    exact (h.2 hresult).mono (Nat.zero_le _)
  | case23 => exact fun _ h => hreads h (Nat.zero_le _)
  | case24 request account device databaseNow base _ _ =>
    rintro _ ⟨⟩
    refine ⟨rfl, rfl, hkeyed, ?_⟩
    cases c <;> exact le_refl _
  | case25 => exact fun _ h => hreads h (Nat.zero_le _)
  | case26 request account device databaseNow values base session _ =>
    rintro _ ⟨⟩
    exact conserves_loggedIn hkeyed request account device session.id base
  | case27 => rintro _ ⟨⟩

/-! ## Steps and runs -/

theorem potential_store {id : ℕ} {before : ℕ} {after : DeviceAuthService × Option AuthCall}
    (h : Conserves b c s before after)
    (hbefore : before = (s.calls.get id).elim 0 (c.held s.peeks)) :
    c.potential b (store id after) ≤ c.potential b s := by
  obtain ⟨t, call⟩ := after
  obtain ⟨hcalls, hpeeks, -, hunits⟩ := h
  dsimp only at hcalls hpeeks hunits
  rw [hbefore] at hunits
  cases call with
  | none =>
    have htotal := Dict.total_del_get (d := s.calls) (k := id) (f := c.held s.peeks)
    show c.weight b t + (t.calls.del id).total (c.held t.peeks) ≤ c.weight b s + _
    rw [hcalls, hpeeks]
    dsimp only [Option.elim_none] at hunits
    omega
  | some call =>
    have htotal := Dict.total_set (d := s.calls) (k := id) (f := c.held s.peeks) (v := call)
    show c.weight b t + (t.calls.set id call).total (c.held t.peeks) ≤ c.weight b s + _
    rw [hcalls, hpeeks]
    dsimp only [Option.elim_some] at hunits
    omega

/-- The step consumes the credential although it has ten failures. -/
def overruns (s : DeviceAuthService) (c : Credential) : AuthEvent → Bool
  | .resume id (.statement now) => (s.calls.get id).any (c.overruns s now)
  | _ => false

theorem keyed_store {id : ℕ} {after : DeviceAuthService × Option AuthCall} (h : Keyed after.1) :
    Keyed (store id after) := by
  obtain ⟨t, _ | call⟩ := after <;> exact h

theorem potential_start {id : ℕ} {begun : DeviceAuthService × Option AuthCall}
    {t : DeviceAuthService}
    (hbegun : Conserves b c s 0 begun) (h : s.start id begun = some t) :
    Keyed t ∧ c.potential b t ≤ c.potential b s := by
  unfold start at h
  split_ifs at h with hid
  obtain rfl := Option.some.inj h
  refine ⟨keyed_store hbegun.keyed, potential_store hbegun ?_⟩
  rw [Option.isNone_iff_eq_none.1 hid, Option.elim_none]

/-- No step makes a unit. -/
theorem potential_step (hkeyed : Keyed s) {event : AuthEvent} {t : DeviceAuthService}
    (hspared : s.overruns c event = false) (h : s.step event = some t) :
    Keyed t ∧ c.potential b t ≤ c.potential b s := by
  cases event with
  | issueRegistrationChallenge id token request now =>
    exact potential_start (conserves_issueRegistrationChallenge hkeyed token request now) h
  | issueLinkingChallenge id codeHash request now =>
    refine potential_start (conserves_refl hkeyed ?_) h
    cases c <;> exact le_refl _
  | completeRegistration id challenge proof origin now =>
    exact potential_start (conserves_completeRegistration hkeyed challenge proof origin now) h
  | completeLoginChallenge id request =>
    refine potential_start (conserves_refl hkeyed ?_) h
    cases c <;> exact le_refl _
  | resume id outcome =>
    obtain ⟨call, hcall, h⟩ := Option.bind_eq_some_iff.1 h
    obtain ⟨after, hafter, rfl⟩ := Option.map_eq_some_iff.1 h
    have hspared' (now : Timestamp) (houtcome : outcome = .statement now) :
        c.overruns s now call = false := by
      rw [houtcome, overruns, hcall, Option.any_some] at hspared
      exact hspared
    have hconserves := conserves_resume (b := b) hkeyed hspared' hafter
    refine ⟨keyed_store hconserves.keyed, potential_store hconserves ?_⟩
    rw [hcall, Option.elim_some]
  | issueBootstrap token state =>
    simp only [step] at h
    split_ifs at h with hfresh
    obtain rfl := Option.some.inj h
    refine ⟨hkeyed, Nat.add_le_add_right ?_ _⟩
    cases c with
    | registration | session | linking | login => exact le_refl _
    | bootstrap token' =>
      simp only [Credential.weight, Credential.uses, Credential.unspent, Dict.valueAt_set]
      by_cases heq : token' = token
      · subst heq
        rw [if_pos rfl, List.count_cons_self, List.count_eq_zero.2 hfresh]
        omega
      · rw [if_neg heq, List.count_cons_of_ne (Ne.symm heq)]
  | createOtp otp =>
    simp only [step] at h
    split_ifs at h with hnew
    obtain rfl := Option.some.inj h
    refine ⟨hkeyed, Nat.add_le_add_right ?_ _⟩
    cases c with
    | bootstrap | registration | session | login => exact le_refl _
    | linking otp' =>
      apply Nat.add_le_add_left
      simp only [Credential.unspent, Dict.valueAt_set]
      by_cases heq : otp' = otp.id
      · rw [if_pos heq, heq, Dict.valueAt_of_get_none (Option.isNone_iff_eq_none.1 hnew)]
        exact Credential.worth_le_one _ _ _
      · rw [if_neg heq]
  | createChallenge challenge =>
    simp only [step] at h
    split_ifs at h with hnew
    obtain rfl := Option.some.inj h
    refine ⟨hkeyed, Nat.add_le_add_right ?_ _⟩
    cases c with
    | bootstrap | registration | session | linking => exact le_refl _
    | login k =>
      apply Nat.add_le_add_left
      simp only [Credential.unspent, Dict.valueAt_set]
      by_cases heq : k = challenge.id
      · rw [if_pos heq, heq, Dict.valueAt_of_get_none (Option.isNone_iff_eq_none.1 hnew)]
        exact Credential.worth_le_one _ _ _
      · rw [if_neg heq]
  | commit base =>
    obtain rfl := Option.some.inj h
    refine ⟨hkeyed, Nat.add_le_add_right ?_ _⟩
    cases c <;> exact le_refl _

/-- A step that does not consume the credential when it has ten failures. -/
def SparedStep (c : Credential) (s : DeviceAuthService) (event : AuthEvent)
    (t : DeviceAuthService) :
    Prop :=
  Step step s event t ∧ s.overruns c event = false

theorem potential_run {events : List AuthEvent} {t : DeviceAuthService}
    (hrun : Run (SparedStep c) s events t) (hkeyed : Keyed s) :
    Keyed t ∧ c.potential b t ≤ c.potential b s := by
  refine hrun.invariant (I := fun t => Keyed t ∧ c.potential b t ≤ c.potential b s)
    ⟨hkeyed, le_refl _⟩ ?_
  rintro u event v ⟨hu, hle⟩ ⟨hstep, hspared⟩
  obtain ⟨hv, hle'⟩ := potential_step (b := b) hu hspared hstep
  exact ⟨hv, hle'.trans hle⟩

theorem keyed_initial (peeks : Bool) (db : AuthDatabase) : Keyed (initial peeks db) := by
  intro challenge state hget
  exact absurd hget (by simp [initial])

/-- A credential starts with at most one unit. -/
theorem potential_initial (peeks : Bool) (db : AuthDatabase) :
    c.potential b (initial peeks db) ≤ 1 := by
  have hstored {α : Type} (d : Dict Uuid α) (k : Uuid) (f : α → ℕ) (hf : ∀ v, f v ≤ 1) :
      0 + d.valueAt k f 1 + 0 ≤ 1 := by
    cases hget : d.get k with
    | none => rw [Dict.valueAt_of_get_none hget]
    | some v =>
      rw [Dict.valueAt_of_get hget, Nat.zero_add]
      exact hf v
  cases c with
  | bootstrap | registration | session => exact le_refl _
  | linking otp => exact hstored db.otps otp _ fun otp => Credential.worth_le_one _ _ _
  | login challenge =>
    exact hstored db.challenges challenge _ fun challenge => Credential.worth_le_one _ _ _

theorem uses_le_potential : c.uses s.log ≤ c.potential b s := by
  unfold Credential.potential Credential.weight
  omega

/-- A run in which every step may happen, for a credential that is no login challenge. -/
theorem sparedStep_run {events : List AuthEvent} {t : DeviceAuthService}
    (hc : ∀ challenge, c ≠ .login challenge) (hrun : Run (Step step) s events t) :
    Run (SparedStep c) s events t := by
  apply hrun.mono
  intro u event v hstep
  refine ⟨hstep, ?_⟩
  have hcall (now : Timestamp) (call : AuthCall) : c.overruns u now call = false := by
    unfold Credential.overruns
    split
    · simp [hc]
    · rfl
  unfold overruns
  split
  · rw [Option.any_eq_false]
    exact fun call _ => by rw [hcall]
  · rfl

theorem uses_le_one {peeks : Bool} {db : AuthDatabase} {events : List AuthEvent}
    (hrun : Run (Step step) (initial peeks db) events s) (hc : ∀ challenge, c ≠ .login challenge) :
    c.uses s.log ≤ 1 := by
  obtain ⟨-, hle⟩ := potential_run (b := true) (sparedStep_run hc hrun) (keyed_initial peeks db)
  exact uses_le_potential.trans (hle.trans (potential_initial peeks db))

/-- When the insert of the device fails, the linking code is as it was. -/
theorem consumeAndRegister_insert_error {db : AuthDatabase} {now : Timestamp}
    {otpId account issuingDevice : Uuid} {epoch : ℤ} {deviceId : Uuid} {label : String}
    {signingPublicKeySpki fingerprint : Bytea} {e : RepositoryError}
    (h : db.base.insertDevice (DeviceRepository.inserted now deviceId account epoch label
      signingPublicKeySpki fingerprint (some issuingDevice)) = .error e) :
    (DeviceLinkingOtpRepository.consumeAndRegister db now otpId account issuingDevice epoch deviceId
      label signingPublicKeySpki fingerprint).2 = db := by
  obtain ⟨_, _, _, -, -, hinsert, -⟩ | heq | ⟨_, _, -, -, heq⟩ :=
    DeviceLinkingOtpRepository.consumeAndRegister_cases db now otpId account issuingDevice epoch
      deviceId label signingPublicKeySpki fingerprint
  · rw [h] at hinsert
    cases hinsert
  · rw [heq]
  · rw [heq]

/-- In every run a bootstrap token yields at most one challenge, a challenge at most one device and
one session, and a linking code at most one device; and a linking code whose device cannot be
inserted stays active, with its attempts. -/
theorem enrolment_single_use {peeks : Bool} {db : AuthDatabase} {events : List AuthEvent}
    (hrun : Run (Step step) (initial peeks db) events s) :
    (∀ token, (s.log.issued.countP fun use => use.1 = token) ≤ 1) ∧
    (∀ challenge, (s.log.registered.countP fun use => use.1 = challenge) ≤ 1 ∧
      (s.log.opened.countP fun use => use.1 = challenge) ≤ 1) ∧
    (∀ otp, (s.log.linked.countP fun use => use.1 = otp) ≤ 1) ∧
    ∀ (now : Timestamp) (otpId account issuingDevice : Uuid) (epoch : ℤ) (deviceId : Uuid)
      (label : String) (signingPublicKeySpki fingerprint : Bytea) (otp : DeviceLinkingOtpRecord)
      (e : RepositoryError),
      s.db.otps.get otpId = some otp → otp.status = .active →
      s.db.base.insertDevice (DeviceRepository.inserted now deviceId account epoch label
        signingPublicKeySpki fingerprint (some issuingDevice)) = .error e →
      ∃ otp', (DeviceLinkingOtpRepository.consumeAndRegister s.db now otpId account issuingDevice
        epoch deviceId label signingPublicKeySpki fingerprint).2.otps.get otpId = some otp' ∧
        otp'.status = .active ∧ otp'.attemptCount = otp.attemptCount := by
  refine ⟨?_, ?_, ?_, ?_⟩
  · exact fun token => uses_le_one (c := .bootstrap token) hrun (by simp)
  · exact fun challenge => ⟨uses_le_one (c := .registration challenge) hrun (by simp),
      uses_le_one (c := .session challenge) hrun (by simp)⟩
  · exact fun otp => uses_le_one (c := .linking otp) hrun (by simp)
  · intro now otpId account issuingDevice epoch deviceId label key fingerprint otp e hget
      hactive herror
    rw [consumeAndRegister_insert_error herror]
    exact ⟨otp, hget, hactive, rfl⟩

/-- An account that registers its first device, with two requests for one bootstrap token and two
proofs for the challenge. -/
def enrolment : List AuthEvent :=
  let request : RegistrationRequest :=
    ⟨some ⟨[1], List.replicate 32 1, "phone"⟩, "https://relay.example", ⟨5⟩⟩
  let account : AppUser := ⟨⟨1⟩, 0, none⟩
  [.issueBootstrap [7] ⟨⟨1⟩, 0, 1000⟩,
    .issueRegistrationChallenge 0 [7] request 10, .issueRegistrationChallenge 1 [7] request 10,
    .resume 0 (.account (some account)), .resume 1 (.account (some account)),
    .resume 0 (.devices false 20 20 ⟨8⟩ []), .resume 1 (.devices false 20 20 ⟨9⟩ []),
    .completeRegistration 2 ⟨8⟩ true "https://relay.example" 30,
    .completeRegistration 3 ⟨8⟩ true "https://relay.example" 30,
    .resume 2 (.account (some account)), .resume 2 (.statement 40),
    .resume 2 (.session 50 ⟨⟨6⟩, List.replicate 32 2, List.replicate 32 3⟩)]

/-- The second request finds no token, and the second proof no challenge. -/
theorem enrolment_single_use_twice :
    ∃ s, exec step (initial true ⟨⟨[⟨⟨1⟩, 0, none⟩], [], [], []⟩, ∅, ∅⟩) enrolment = some s ∧
      s.log.issued = [([7], ⟨8⟩)] ∧ (s.log.issued.countP fun use => use.1 = [7]) ≤ 1 ∧
      s.log.registered = [(⟨8⟩, ⟨5⟩)] ∧ (s.log.registered.countP fun use => use.1 = ⟨8⟩) ≤ 1 ∧
      s.log.opened = [(⟨8⟩, ⟨6⟩)] ∧ (s.log.opened.countP fun use => use.1 = ⟨8⟩) ≤ 1 := by
  have hlog : (exec step (initial true ⟨⟨[⟨⟨1⟩, 0, none⟩], [], [], []⟩, ∅, ∅⟩)
    enrolment).map (·.log) =
      some ⟨[([7], ⟨8⟩)], [(⟨8⟩, ⟨5⟩)], [], [(⟨8⟩, ⟨6⟩)], [], [[7]], [⟨8⟩]⟩ := by
    decide +kernel
  obtain ⟨s, hexec, hlog⟩ := Option.map_eq_some_iff.1 hlog
  obtain ⟨hissued, hchallenge, -⟩ := enrolment_single_use (Run.of_exec hexec)
  obtain ⟨hregistered, hopened⟩ := hchallenge ⟨8⟩
  refine ⟨s, hexec, ?_, hissued [7], ?_, hregistered, ?_, hopened⟩ <;> rw [hlog]

end DeviceAuthService

end SelfRelay.Backend
