import SelfRelay.Backend.OtpBootstrap
import SelfRelay.Backend.RateLimitAgreement
import SelfRelay.Lib.FixedWindow

/-!
# Guesses

The login with a `RateLimiter`, the limiter of one process that keeps its buckets in memory: nobody
gets the provider to check more codes for an address, or from a network, than the limits allow in
any stretch of time, however the calls overlap (`attempts_bounded`).  With a `PersistentRateLimiter`
the bound fails: two calls that both find the row of a bucket missing count as one
(`Backend/RateLimitRaces`).
-/

namespace SelfRelay.Backend

open StepSystem

/-! ## The limiter -/

theorem RateLimiter.current_eq (now window : Timestamp) (entry : Option (Timestamp × ℕ)) :
    current now window entry = FixedWindow.current now window entry := by
  cases entry with
  | none => simp [current, FixedWindow.current]
  | some entry => rfl

theorem otpScope_injective {v v' : Bool} {axis axis' : OtpAxis}
    (h : otpScope v axis = otpScope v' axis') :
    v = v' ∧ axis = axis' := by
  revert h
  cases v <;> cases v' <;> cases axis <;> cases axis' <;> decide

/-- The bucket of a value. -/
def otpBucket (r : OtpRuntime) (v : Bool) (axis : OtpAxis) (value : String) : BucketKey :=
  (otpScope v axis, r.fingerprint (otpScope v axis) value)

theorem otpBucket_injective {r : OtpRuntime} {v v' : Bool} {axis axis' : OtpAxis}
    {value value' : String}
    (h : otpBucket r v axis value = otpBucket r v' axis' value') : v = v' ∧ axis = axis' :=
  otpScope_injective (Prod.mk.inj h).1

namespace OtpAttempt

variable {r : OtpRuntime} (attempt : OtpAttempt)

/-- The bucket of an attempt. -/
def bucket (r : OtpRuntime) (axis : OtpAxis) : BucketKey :=
  otpBucket r attempt.verify axis (attempt.value axis)

/-- What a bucket counts at the time of an attempt. -/
def used (buckets : RateLimiter.Buckets) (bucket : BucketKey) : ℕ × ℕ :=
  FixedWindow.current attempt.time otpWindow (buckets.get bucket)

theorem isValid_request (axis : OtpAxis) : (attempt.request axis).isValid = true := by
  obtain ⟨v, email, network, time⟩ := attempt
  cases v <;> cases axis <;> rfl

theorem lastFor_bucket (axis : OtpAxis) :
    lastFor (attempt.bucket r axis)
      (attempt.limitCall.requests.map (LimitRequest.encode r.fingerprint)) =
      some ((attempt.request axis).encode r.fingerprint) := by
  have hne : attempt.bucket r .email ≠ attempt.bucket r .network := fun h => by
    cases (otpBucket_injective h).2
  have hbucket : ∀ axis,
      ((attempt.request axis).encode r.fingerprint).bucket = attempt.bucket r axis :=
    fun _ => rfl
  cases axis with
  | email => simp [lastFor, limitCall, hbucket, hne.symm]
  | network => simp [lastFor, limitCall, hbucket, hne]

/-- The limiter changes nothing, or it uses the two buckets of the attempt, which have room. -/
theorem allow_cases (r : OtpRuntime) (buckets : RateLimiter.Buckets) :
    RateLimiter.allowMany r.fingerprint buckets attempt.limitCall = (.ok false, buckets) ∨
    ∃ buckets',
      RateLimiter.allowMany r.fingerprint buckets attempt.limitCall = (.ok true, buckets') ∧
      (∀ axis, (attempt.used buckets (attempt.bucket r axis)).2 < otpLimit attempt.verify axis) ∧
      (∀ axis, buckets'.get (attempt.bucket r axis) =
        some ((attempt.used buckets (attempt.bucket r axis)).1,
          (attempt.used buckets (attempt.bucket r axis)).2 + 1)) ∧
      ∀ bucket, (∀ axis, bucket ≠ attempt.bucket r axis) →
        buckets'.get bucket = buckets.get bucket := by
  have hempty : attempt.limitCall.requests.isEmpty = false := rfl
  have hall : attempt.limitCall.requests.all LimitRequest.isValid = true := by
    simp [limitCall, isValid_request]
  rw [memory_eq, hempty, if_neg Bool.false_ne_true, if_pos hall]
  split_ifs with hroom
  · refine .inr ⟨_, rfl, fun axis => ?_, fun axis => ?_, fun bucket hbucket => ?_⟩
    · have hroom : ∀ axis, (RateLimiter.current attempt.time otpWindow
          (buckets.get (attempt.bucket r axis))).2 < otpLimit attempt.verify axis := by
        have hmem : ∀ axis, attempt.request axis ∈ attempt.limitCall.requests := by
          intro axis
          cases axis <;> simp [limitCall]
        intro axis
        have hroom := List.all_eq_true.1 hroom _ (hmem axis)
        rwa [Bool.not_eq_true', decide_eq_false_iff_not, Nat.not_le] at hroom
      rw [used, ← RateLimiter.current_eq]
      exact hroom axis
    · rw [RateLimiter.get_recorded, lastFor_bucket, used, ← RateLimiter.current_eq]
      rfl
    · rw [RateLimiter.get_recorded]
      have hnone : lastFor bucket
          (attempt.limitCall.requests.map (LimitRequest.encode r.fingerprint)) = none := by
        have hne : ∀ axis, ((attempt.request axis).encode r.fingerprint).bucket ≠ bucket :=
          fun axis => (hbucket axis).symm
        simp [lastFor, limitCall, hne]
      rw [hnone]
      rfl
  · exact .inl rfl

end OtpAttempt

/-! ## The login of one process -/

/-- The service with its limiter. -/
structure LocalOtp where
  service : OtpService
  buckets : RateLimiter.Buckets

namespace LocalOtp

/-- `_allow` returns what the limiter answers without waiting. -/
def answered (r : OtpRuntime) (service : OtpService) (buckets : RateLimiter.Buckets) (i : ℕ) :
    LocalOtp :=
  match service.calls[i]? with
  | some (.limiting attempt) =>
    let (answer, buckets) := RateLimiter.allowMany r.fingerprint buckets attempt.limitCall
    ⟨service.limited i attempt (answer.mapError .value), buckets⟩
  | _ => ⟨service, buckets⟩

def step (r : OtpRuntime) (s : LocalOtp) : OtpEvent → Option LocalOtp
  | .limited _ _ => none
  | event => (s.service.step r event).map fun service =>
      answered r service s.buckets s.service.calls.length

/-- The limiter starts empty. -/
def initial (users : List AccountRow) (clock : Timestamp) : LocalOtp :=
  ⟨.initial users clock, ∅⟩

variable {r : OtpRuntime} {s t : LocalOtp} {users : List AccountRow} {clock : Timestamp}
  {es : List OtpEvent}

theorem step_cases {event : OtpEvent} (h : s.step r event = some t) :
    (∀ i answer, event ≠ .limited i answer) ∧ ∃ service, s.service.step r event = some service ∧
      t = answered r service s.buckets s.service.calls.length := by
  have hmap : (∀ i answer, event ≠ .limited i answer) →
      (s.service.step r event).map (fun service =>
        answered r service s.buckets s.service.calls.length) = some t →
      (∀ i answer, event ≠ .limited i answer) ∧ ∃ service,
        s.service.step r event = some service ∧
          t = answered r service s.buckets s.service.calls.length := by
    intro hevent hmap
    obtain ⟨service, hstep, heq⟩ := Option.map_eq_some_iff.1 hmap
    exact ⟨hevent, service, hstep, heq.symm⟩
  cases event with
  | limited i answer => cases h
  | elapse | startOtp | verifyOtp | startReturned | verifyReturned | queried | queryFailed
  | consumeBootstrap | commit => exact hmap (fun _ _ => nofun) h

/-- The answer of the limiter is a step of the service. -/
theorem answered_service (r : OtpRuntime) (service : OtpService) (buckets : RateLimiter.Buckets)
    (i : ℕ) : ∃ es, Run (Step (OtpService.step r)) service es
      (answered r service buckets i).service := by
  unfold answered
  split
  · rename_i attempt hcall
    have hstep : ∀ answer, Step (OtpService.step r) service (.limited i answer)
        (service.limited i attempt answer) := by
      intro answer
      rw [Step, OtpService.step, hcall]
    exact ⟨_, .single (hstep _)⟩
  · exact ⟨[], .nil _⟩

/-- The login of one process is a login. -/
theorem run_service (hrun : Run (Step (step r)) s es t) :
    ∃ es', Run (Step (OtpService.step r)) s.service es' t.service := by
  induction hrun with
  | nil => exact ⟨[], .nil _⟩
  | cons hstep _ ih =>
    obtain ⟨_, service, hservice, rfl⟩ := step_cases hstep
    obtain ⟨es₁, hanswered⟩ := answered_service r service _ _
    obtain ⟨es₂, hrest⟩ := ih
    exact ⟨_, (Run.cons hservice hanswered).append hrest⟩

/-! ## Counts -/

/-- The attempts for a value. -/
def attemptsFor (s : LocalOtp) (v : Bool) (axis : OtpAxis) (value : String) : List OtpAttempt :=
  s.service.log.attempts.filter fun attempt => attempt.verify = v && attempt.value axis = value

/-- The bucket of every value counts the attempts for it. -/
def Counted (r : OtpRuntime) (s : LocalOtp) : Prop := ∀ v axis value, ∃ l,
  FixedWindow.Counts (otpLimit v axis) otpWindow s.service.clock l
    (s.buckets.get (otpBucket r v axis value)) ∧
  l.map Prod.snd = (s.attemptsFor v axis value).map OtpAttempt.time

theorem Counted.of_eq (h : s.Counted r) (hclock : s.service.clock ≤ t.service.clock)
    (hbuckets : t.buckets = s.buckets)
    (hattempts : t.service.log.attempts = s.service.log.attempts) : t.Counted r := by
  intro v axis value
  obtain ⟨l, hcounts, htimes⟩ := h v axis value
  rw [hbuckets]
  refine ⟨l, hcounts.later hclock, ?_⟩
  rw [attemptsFor, hattempts]
  exact htimes

theorem attemptsFor_append {attempt : OtpAttempt}
    (hattempts : t.service.log.attempts = s.service.log.attempts ++ [attempt]) (v : Bool)
    (axis : OtpAxis) (value : String) : t.attemptsFor v axis value = s.attemptsFor v axis value ++
      if attempt.verify = v ∧ attempt.value axis = value then [attempt] else [] := by
  rw [attemptsFor, attemptsFor, hattempts, List.filter_append]
  congr 1
  split_ifs with h <;> simp [h]

/-- An attempt is let through. -/
theorem Counted.attempted (h : s.Counted r) {attempt : OtpAttempt}
    (htime : attempt.time = s.service.clock) (hclock : t.service.clock = s.service.clock)
    (hattempts : t.service.log.attempts = s.service.log.attempts ++ [attempt])
    (hroom : ∀ axis, (attempt.used s.buckets (attempt.bucket r axis)).2 <
      otpLimit attempt.verify axis)
    (hused : ∀ axis, t.buckets.get (attempt.bucket r axis) =
      some ((attempt.used s.buckets (attempt.bucket r axis)).1,
        (attempt.used s.buckets (attempt.bucket r axis)).2 + 1))
    (hkept : ∀ bucket, (∀ axis, bucket ≠ attempt.bucket r axis) →
      t.buckets.get bucket = s.buckets.get bucket) : t.Counted r := by
  have hwindow : 0 < otpWindow := by decide
  intro v axis value
  obtain ⟨l, hcounts, htimes⟩ := h v axis value
  rw [hclock, attemptsFor_append hattempts]
  by_cases hbucket : otpBucket r v axis value = attempt.bucket r axis
  · obtain rfl := (otpBucket_injective hbucket).1
    have hroom := hroom axis
    have hused := hused axis
    rw [← hbucket, OtpAttempt.used, htime] at hroom hused
    rw [hused]
    by_cases hvalue : attempt.value axis = value
    · obtain ⟨start, hadmitted⟩ := hcounts.admitted hwindow hroom
      refine ⟨_, hadmitted, ?_⟩
      rw [if_pos ⟨rfl, hvalue⟩, List.map_append, List.map_append, htimes, List.map_singleton,
        List.map_singleton, htime]
    · refine ⟨l, hcounts.used hwindow, ?_⟩
      rw [if_neg (fun h => hvalue h.2), List.append_nil, htimes]
  · have hapart : ∀ axis', otpBucket r v axis value ≠ attempt.bucket r axis' := by
      intro axis' heq
      obtain ⟨rfl, rfl⟩ := otpBucket_injective heq
      exact hbucket heq
    rw [hkept _ hapart]
    refine ⟨l, hcounts, ?_⟩
    rw [if_neg, List.append_nil, htimes]
    rintro ⟨rfl, rfl⟩
    exact hbucket rfl

theorem Counted.answered {service : OtpService} {buckets : RateLimiter.Buckets}
    (h : Counted r ⟨service, buckets⟩) {i : ℕ}
    (htime : ∀ attempt, service.calls[i]? = some (.limiting attempt) →
      attempt.time = service.clock) :
    (answered r service buckets i).Counted r := by
  unfold LocalOtp.answered
  split
  · rename_i attempt hcall
    rcases attempt.allow_cases r buckets with hfalse | ⟨buckets', htrue, hroom, hused, hkept⟩
    · rw [hfalse]
      exact h.of_eq le_rfl rfl rfl
    · rw [htrue]
      exact h.attempted (htime attempt hcall) rfl rfl hroom hused hkept
  · exact h

end LocalOtp

namespace OtpService

variable {r : OtpRuntime} {s t : OtpService}

/-- A step that makes no call of the provider, and whose new call asks the limiter now. -/
structure Asks (s t : OtpService) : Prop where
  clock : s.clock ≤ t.clock
  attempts : t.log.attempts = s.log.attempts
  now : ∀ attempt, t.calls[s.calls.length]? = some (.limiting attempt) → attempt.time = t.clock

theorem Asks.of_length (hclock : s.clock ≤ t.clock) (hattempts : t.log.attempts = s.log.attempts)
    (hlength : t.calls.length = s.calls.length) : s.Asks t := by
  refine ⟨hclock, hattempts, fun attempt hcall => ?_⟩
  rw [← hlength, List.getElem?_eq_none le_rfl] at hcall
  cases hcall

theorem asks_setCall (s : OtpService) (i : ℕ) (call : OtpCall) : s.Asks (s.setCall i call) :=
  .of_length le_rfl rfl List.length_set

theorem asks_addCall {call : OtpCall}
    (hcall : ∀ attempt, call = .limiting attempt → attempt.time = s.clock) :
    s.Asks (s.addCall call) := by
  refine ⟨le_rfl, rfl, fun attempt hget => hcall attempt ?_⟩
  have hlast : (s.calls ++ [call])[s.calls.length]? = some call := List.getElem?_concat_length
  exact Option.some.inj (hlast.symm.trans hget)

theorem asks_issue (s : OtpService) (i : ℕ) (account : AccountRow) (x : Vouching)
    (draws : OtpDraws) : s.Asks (s.issue i account x draws) :=
  .of_length le_rfl rfl List.length_set

theorem asks_queried {i : ℕ} {draws : OtpDraws} {call : OtpCall}
    (h : s.queried i draws call = some t) : s.Asks t := by
  cases call with
  | findingIdentity vouching | findingEmail vouching =>
    obtain rfl := Option.some.inj h
    split
    · split_ifs
      · exact s.asks_setCall _ _
      · exact s.asks_issue _ _ _ _
    · exact s.asks_setCall _ _
  | creating vouching =>
    obtain rfl := Option.some.inj h
    split
    · rename_i account s' hcreate
      obtain ⟨_, hcreate⟩ := Option.ite_none_left_eq_some.1 hcreate
      obtain ⟨rfl, rfl⟩ := Prod.mk.inj (Option.some.inj hcreate)
      exact .of_length le_rfl rfl List.length_set
    · exact s.asks_setCall _ _
  | limiting | starting | verifying | started | issued | raised => cases h

theorem asks_step {event : OtpEvent} (hevent : ∀ i answer, event ≠ .limited i answer)
    (hstep : s.step r event = some t) : s.Asks t := by
  cases event with
  | elapse duration =>
    obtain rfl := Option.some.inj hstep
    exact .of_length (Nat.le_add_right _ _) rfl rfl
  | startOtp email network =>
    obtain rfl := Option.some.inj hstep
    unfold startOtp
    split
    · exact asks_addCall fun _ => nofun
    · exact asks_addCall fun attempt heq => by cases heq; rfl
  | verifyOtp email otp network =>
    obtain rfl := Option.some.inj hstep
    unfold verifyOtp
    split
    · exact asks_addCall fun _ => nofun
    · dsimp only
      split_ifs
      · exact asks_addCall fun _ => nofun
      · exact asks_addCall fun attempt heq => by cases heq; rfl
  | limited i answer => exact absurd rfl (hevent i answer)
  | startReturned i sent | queryFailed i =>
    simp only [OtpService.step] at hstep
    split at hstep <;> cases hstep <;> exact s.asks_setCall _ _
  | verifyReturned i answer =>
    simp only [OtpService.step] at hstep
    split at hstep <;> cases hstep
    unfold verifyReturned
    split
    · exact s.asks_setCall _ _
    · exact s.asks_setCall _ _
    · split
      · exact s.asks_setCall _ _
      · exact .of_length le_rfl rfl List.length_set
  | queried i draws =>
    obtain ⟨call, _, hqueried⟩ := Option.bind_eq_some_iff.1 hstep
    exact asks_queried hqueried
  | consumeBootstrap tokenHash =>
    obtain rfl := Option.some.inj hstep
    exact .of_length le_rfl rfl rfl
  | commit users =>
    obtain ⟨_, hstep⟩ := Option.ite_none_right_eq_some.1 hstep
    obtain rfl := Option.some.inj hstep
    exact .of_length le_rfl rfl rfl

end OtpService

namespace LocalOtp

variable {r : OtpRuntime} {s t : LocalOtp} {users : List AccountRow} {clock : Timestamp}
  {es : List OtpEvent}

theorem Counted.step (h : s.Counted r) {event : OtpEvent} (hstep : s.step r event = some t) :
    t.Counted r := by
  obtain ⟨hevent, service, hservice, rfl⟩ := step_cases hstep
  have hasks := OtpService.asks_step hevent hservice
  have hcounted : Counted r ⟨service, s.buckets⟩ := h.of_eq hasks.clock rfl hasks.attempts
  exact hcounted.answered hasks.now

theorem counted_initial (users : List AccountRow) (clock : Timestamp) :
    (initial users clock).Counted r :=
  fun _ _ _ => ⟨[], .none _ _ _, rfl⟩

/-- Brute force: in every run, whatever stretch of time is looked at, the provider is called for an
address, or from a network, at most as often as the limit says for each window
that fits, and once more. -/
theorem attempts_bounded (hrun : Run (Step (step r)) (initial users clock) es s) (v : Bool)
    (axis : OtpAxis) (value : String) (since k : ℕ) :
    ((s.attemptsFor v axis value).countP fun attempt =>
      since ≤ attempt.time ∧ attempt.time < since + k * otpWindow) ≤ otpLimit v axis * (k + 1) := by
  have hcounted : s.Counted r :=
    hrun.invariant (counted_initial users clock) fun _ _ _ h hstep => h.step hstep
  obtain ⟨l, hcounts, htimes⟩ := hcounted v axis value
  have hbound := hcounts.toWindowed.countP_le since k
  have hcount : ∀ p : ℕ → Bool, (l.map Prod.snd).countP p =
      ((s.attemptsFor v axis value).map OtpAttempt.time).countP p := fun p => by rw [htimes]
  have hcount := hcount fun time => since ≤ time ∧ time < since + k * otpWindow
  rw [List.countP_map, List.countP_map] at hcount
  exact hcount.ge.trans hbound

/-- Four requests of a code within a window, and a fifth in the next one: the fourth is refused. -/
def sampleRequests : List OtpEvent :=
  let request : OtpEvent := .startOtp "Ada@Example.org".toList "192.0.2.1"
  [request, .elapse 1000, request, .startReturned 0 true, request, request,
    .elapse otpWindow, request]

theorem attempts_bounded_sample :
    ∃ s, Run (Step (step OtpService.sampleOtp)) (initial [] 0) sampleRequests s ∧
      s.service.calls.length = 5 ∧ s.service.log.attempts.length = 4 ∧
      ((s.attemptsFor false .email "ada@example.org").countP fun attempt =>
        0 ≤ attempt.time ∧ attempt.time < 0 + 1 * otpWindow) ≤ 3 * 2 := by
  have h : ∃ s ∈ exec (step OtpService.sampleOtp) (initial [] 0) sampleRequests,
      s.service.calls.length = 5 ∧ s.service.log.attempts.length = 4 := by
    decide +kernel
  obtain ⟨s, hexec, hcalls, hattempts⟩ := h
  have hrun := Run.of_exec hexec
  exact ⟨s, hrun, hcalls, hattempts, attempts_bounded hrun false .email "ada@example.org" 0 1⟩

end LocalOtp

end SelfRelay.Backend
