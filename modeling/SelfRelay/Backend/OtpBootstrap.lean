import SelfRelay.Backend.OtpLogin
import SelfRelay.Backend.SignalingMessage

/-!
# What a bootstrap token is worth

However the calls overlap and whatever the limiter and the provider answer: whoever consumes a
bootstrap token presents what the provider vouched for, for an address that stands for one identity
and one account (`bootstrap_genuine`).
-/

namespace SelfRelay.Backend

open StepSystem

theorem DistinctKeys.append {keys : List (Uuid × Uuid × List Char)} (h : DistinctKeys keys)
    {key : Uuid × Uuid × List Char} (hid : key.1 ∉ keys.map fun key => key.1)
    (hidentity : key.2.1 ∉ keys.map fun key => key.2.1)
    (hemail : key.2.2 ∉ keys.map fun key => key.2.2) :
    DistinctKeys (keys ++ [key]) := by
  have hcolumn : ∀ {α : Type} (f : Uuid × Uuid × List Char → α), f key ∉ keys.map f →
    (keys.map f).Nodup →
      ((keys ++ [key]).map f).Nodup := by
    intro α f hnew hnodup
    rw [List.map_append, List.map_singleton, ← List.concat_eq_append]
    exact hnodup.concat hnew
  exact ⟨hcolumn _ hid h.ids, hcolumn _ hidentity h.identities, hcolumn _ hemail h.emails⟩

namespace OtpService

variable {r : OtpRuntime} {s t : OtpService} {users : List AccountRow} {clock : Timestamp}
  {es : List OtpEvent}

/-! ## Provenance -/

/-- The keys of the accounts. -/
def keys (s : OtpService) : List (Uuid × Uuid × List Char) := s.users.map AccountRow.key

/-- A code was checked for the address. -/
def Checked (log : OtpLog) (email : List Char) (time : Timestamp) : Prop :=
  ∃ attempt ∈ log.attempts, attempt.verify = true ∧ attempt.email = email ∧ attempt.time ≤ time

/-- The provider vouched for the identity and the address. -/
structure Vouched (r : OtpRuntime) (log : OtpLog) (x : Vouching) : Prop where
  identity : r.parseUuid x.answer.userId = some x.identity
  email : normalizeEmail r.tables x.answer.email = .ok x.email
  checked : Checked log x.email x.time

/-- A token was issued for what was vouched for. -/
structure Issued (s : OtpService) (entry : BootstrapEntry) (x : Vouching) : Prop where
  vouching : x ∈ s.log.vouchings
  account : (entry.accountId, x.identity, x.email) ∈ s.keys
  email : entry.emailNormalized = x.email
  expiresAt : entry.expiresAt = x.time + bootstrapLifetime

/-- What the service has on record belongs together. -/
structure Recorded (r : OtpRuntime) (s : OtpService) : Prop where
  keys : DistinctKeys s.keys
  vouchings : ∀ x ∈ s.log.vouchings, x.time ≤ s.clock ∧ Vouched r s.log x
  issued : ∀ x ∈ s.log.issued, Issued s x.2.1 x.2.2
  states : ∀ tokenHash entry, s.states.get tokenHash = some entry → ∃ x,
    (tokenHash, entry, x) ∈ s.log.issued
  consumed : ∀ c ∈ s.log.consumed, c.time < c.entry.expiresAt ∧
    ∃ x, (c.tokenHash, c.entry, x) ∈ s.log.issued ∧ x.time ≤ c.time
  once : ∀ tokenHash, (s.log.consumed.countP fun c => c.tokenHash = tokenHash) +
    (s.states.get tokenHash).toList.length ≤ s.log.issued.countP fun x => x.1 = tokenHash

/-- A call has a reason. -/
def Reason (s : OtpService) : OtpCall → Prop
  | .limiting attempt => attempt.time ≤ s.clock
  | .verifying email => Checked s.log email s.clock
  | .findingIdentity x | .findingEmail x | .creating x => x ∈ s.log.vouchings
  | _ => True

/-- The records that a later state keeps. -/
structure Extends (s t : OtpService) : Prop where
  clock : s.clock ≤ t.clock
  attempts : s.log.attempts ⊆ t.log.attempts
  vouchings : s.log.vouchings ⊆ t.log.vouchings
  keys : s.keys ⊆ t.keys

theorem extends_issue (s : OtpService) (i : ℕ) (account : AccountRow) (x : Vouching)
    (draws : OtpDraws) :
    s.Extends (s.issue i account x draws) :=
  ⟨le_rfl, List.Subset.refl _, List.Subset.refl _, List.Subset.refl _⟩

theorem extends_consumeBootstrap (s : OtpService) (tokenHash : Bytea) :
    s.Extends (s.consumeBootstrap tokenHash) :=
  ⟨le_rfl, List.Subset.refl _, List.Subset.refl _, List.Subset.refl _⟩

theorem Extends.checked (h : s.Extends t) {email : List Char} {time time' : Timestamp}
    (hle : time ≤ time')
    (hchecked : Checked s.log email time) : Checked t.log email time' := by
  obtain ⟨attempt, hattempt, hverify, hemail, htime⟩ := hchecked
  exact ⟨attempt, h.attempts hattempt, hverify, hemail, htime.trans hle⟩

theorem Extends.reason (h : s.Extends t) {call : OtpCall} (hreason : s.Reason call) :
    t.Reason call := by
  cases call with
  | limiting attempt => exact hreason.trans h.clock
  | verifying email => exact h.checked h.clock hreason
  | findingIdentity x | findingEmail x | creating x => exact h.vouchings hreason
  | starting | started | issued | raised => trivial

theorem Extends.vouched (h : s.Extends t) {x : Vouching} (hvouched : Vouched r s.log x) :
    Vouched r t.log x :=
  ⟨hvouched.identity, hvouched.email, h.checked le_rfl hvouched.checked⟩

theorem Extends.recorded (h : s.Extends t) {x : Vouching}
    (hx : x.time ≤ s.clock ∧ Vouched r s.log x) :
    x.time ≤ t.clock ∧ Vouched r t.log x :=
  ⟨hx.1.trans h.clock, h.vouched hx.2⟩

theorem Extends.issued (h : s.Extends t) {entry : BootstrapEntry} {x : Vouching}
    (hissued : s.Issued entry x) :
    t.Issued entry x :=
  ⟨h.vouchings hissued.vouching, h.keys hissued.account, hissued.email, hissued.expiresAt⟩

namespace Recorded

/-- The tokens stay as they are. -/
theorem extend (h : s.Recorded r) (hext : s.Extends t) (hkeys : DistinctKeys t.keys)
    (hvouchings : ∀ x ∈ t.log.vouchings, x ∈ s.log.vouchings ∨ x.time ≤ t.clock ∧ Vouched r t.log x)
    (hstates : t.states = s.states) (hissued : t.log.issued = s.log.issued)
    (hconsumed : t.log.consumed = s.log.consumed) : t.Recorded r := by
  refine ⟨hkeys, fun x hx => ?_, fun x hx => ?_, ?_, ?_, ?_⟩
  · rcases hvouchings x hx with hbefore | hnew
    · exact hext.recorded (h.vouchings x hbefore)
    · exact hnew
  · exact hext.issued (h.issued x (hissued ▸ hx))
  · rw [hstates, hissued]
    exact h.states
  · rw [hissued, hconsumed]
    exact h.consumed
  · rw [hstates, hissued, hconsumed]
    exact h.once

/-- A token is issued. -/
theorem issue (h : s.Recorded r) {i : ℕ} {account : AccountRow} {x : Vouching} (draws : OtpDraws)
    (hx : x ∈ s.log.vouchings) (haccount : account.key ∈ s.keys)
    (hidentity : account.supabaseUserId = x.identity)
    (hemail : account.emailNormalized = x.email) : (s.issue i account x draws).Recorded r := by
  have hext := s.extends_issue i account x draws
  have hnew : s.Issued ⟨draws.bootstrapId, account.id, account.emailNormalized, account.deviceEpoch,
      x.time + bootstrapLifetime⟩ x := by
    refine ⟨hx, ?_, hemail, rfl⟩
    rwa [← hidentity, ← hemail]
  have hissued : s.log.issued ⊆ (s.issue i account x draws).log.issued :=
    List.subset_append_left _ _
  refine ⟨h.keys, fun y hy => hext.recorded (h.vouchings y hy), ?_,
    fun tokenHash entry hentry => ?_,
    fun c hc => ?_, fun tokenHash => ?_⟩
  · exact List.forall_mem_append.2 ⟨fun y hy => hext.issued (h.issued y hy),
      List.forall_mem_singleton.2 (hext.issued hnew)⟩
  · by_cases htoken : tokenHash = draws.tokenHash
    · subst htoken
      have hget : some _ = some entry := (Dict.get_set).symm.trans hentry
      cases hget
      exact ⟨x, List.mem_append_right _ (List.mem_singleton_self _)⟩
    · have hget : s.states.get tokenHash = some entry := (Dict.get_set_ne htoken).symm.trans hentry
      obtain ⟨x, hx⟩ := h.states tokenHash entry hget
      exact ⟨x, hissued hx⟩
  · obtain ⟨hlt, x, hx, htime⟩ := h.consumed c hc
    exact ⟨hlt, x, hissued hx, htime⟩
  · have honce := h.once tokenHash
    show (s.log.consumed.countP fun c => c.tokenHash = tokenHash) +
      ((s.states.set draws.tokenHash _).get tokenHash).toList.length ≤
        (s.log.issued ++ [(draws.tokenHash, _, x)]).countP fun y : Bytea × BootstrapEntry
            × Vouching =>
          y.1 = tokenHash
    rw [List.countP_append, List.countP_singleton]
    by_cases htoken : tokenHash = draws.tokenHash
    · subst htoken
      simp only [Dict.get_set, Option.toList_some, List.length_singleton, decide_true, if_true]
      omega
    · rw [Dict.get_set_ne htoken]
      omega

/-- A token is consumed. -/
theorem consume (h : s.Recorded r) (tokenHash : Bytea) :
    (s.consumeBootstrap tokenHash).Recorded r := by
  have hext := s.extends_consumeBootstrap tokenHash
  refine ⟨h.keys, fun x hx => hext.recorded (h.vouchings x hx),
    fun x hx => hext.issued (h.issued x hx),
    fun tokenHash' entry hentry => ?_, ?_, fun tokenHash' => ?_⟩
  · by_cases htoken : tokenHash' = tokenHash
    · subst htoken
      have hget : none = some entry := (Dict.get_del).symm.trans hentry
      cases hget
    · exact h.states tokenHash' entry ((Dict.get_del_ne htoken).symm.trans hentry)
  · refine List.forall_mem_append.2 ⟨h.consumed, fun c hc => ?_⟩
    obtain ⟨entry, hentry, rfl⟩ := List.mem_map.1 hc
    obtain ⟨hget, hlive⟩ := Option.filter_eq_some_iff.1 (Option.mem_toList.1 hentry)
    obtain ⟨x, hx⟩ := h.states tokenHash entry hget
    exact ⟨of_decide_eq_true hlive, x, hx, (h.vouchings x (h.issued _ hx).vouching).1⟩
  · have honce := h.once tokenHash'
    show ((s.log.consumed ++ ((s.peekBootstrap tokenHash).toList.map fun entry =>
        Consumption.mk tokenHash entry s.clock)).countP fun c => c.tokenHash = tokenHash') +
      ((s.states.del tokenHash).get tokenHash').toList.length ≤
        s.log.issued.countP fun x => x.1 = tokenHash'
    rw [List.countP_append, List.countP_map]
    by_cases htoken : tokenHash' = tokenHash
    · subst htoken
      have hpeek : (s.peekBootstrap tokenHash').toList.length ≤
          (s.states.get tokenHash').toList.length := by
        unfold peekBootstrap
        cases s.states.get tokenHash' with
        | none => exact le_rfl
        | some entry =>
          rw [Option.filter_some]
          split_ifs <;> simp
      have hcount :=
        (List.countP_le_length (p := (fun c : Consumption => decide (c.tokenHash = tokenHash')) ∘
        fun entry => Consumption.mk tokenHash' entry s.clock) (l :=
          (s.peekBootstrap tokenHash').toList))
      rw [Dict.get_del]
      simp only [Option.toList_none, List.length_nil]
      omega
    · have hother : (s.peekBootstrap tokenHash).toList.countP ((fun c : Consumption =>
          decide (c.tokenHash = tokenHash')) ∘ fun entry =>
              Consumption.mk tokenHash entry s.clock) = 0 := by
        refine List.countP_eq_zero.2 fun entry _ => ?_
        simp [Ne.symm htoken]
      rw [Dict.get_del_ne htoken, hother]
      omega

end Recorded

/-- The service has reasons for what it has on record and for where its calls are. -/
structure Founded (r : OtpRuntime) (s : OtpService) : Prop where
  recorded : s.Recorded r
  reasons : ∀ call ∈ s.calls, s.Reason call

namespace Founded

theorem extend (h : s.Founded r) (hext : s.Extends t) (hrecorded : t.Recorded r)
    (hcalls : ∀ call ∈ t.calls, call ∈ s.calls ∨ t.Reason call) : t.Founded r := by
  refine ⟨hrecorded, fun call hcall => ?_⟩
  rcases hcalls call hcall with hbefore | hnew
  · exact hext.reason (h.reasons call hbefore)
  · exact hnew

/-- The records stay as they are. -/
theorem same (h : s.Founded r) (hclock : s.clock ≤ t.clock) (hkeys : t.keys = s.keys)
    (hstates : t.states = s.states) (hlog : t.log = s.log)
    (hcalls : ∀ call ∈ t.calls, call ∈ s.calls ∨ s.Reason call) : t.Founded r := by
  have hext : s.Extends t :=
    ⟨hclock, hlog ▸ List.Subset.refl _, hlog ▸ List.Subset.refl _, hkeys ▸ List.Subset.refl _⟩
  refine h.extend hext ?_ fun call hcall => (hcalls call hcall).imp_right hext.reason
  refine h.recorded.extend hext (hkeys ▸ h.recorded.keys) (fun x hx => .inl ?_) hstates ?_ ?_
  · rwa [hlog] at hx
  · rw [hlog]
  · rw [hlog]

theorem setCall (h : s.Founded r) {call : OtpCall} (i : ℕ) (hcall : s.Reason call) :
    (s.setCall i call).Founded r := by
  refine h.same le_rfl rfl rfl rfl fun call' hcall' => ?_
  rcases List.mem_or_eq_of_mem_set hcall' with hbefore | rfl
  · exact .inl hbefore
  · exact .inr hcall

theorem addCall (h : s.Founded r) {call : OtpCall} (hcall : s.Reason call) :
    (s.addCall call).Founded r := by
  refine h.same le_rfl rfl rfl rfl fun call' hcall' => ?_
  rcases List.mem_append.1 hcall' with hbefore | hnew
  · exact .inl hbefore
  · exact .inr (List.mem_singleton.1 hnew ▸ hcall)

/-- An attempt is recorded. -/
theorem attempt (h : s.Founded r) (attempt : OtpAttempt) :
    Founded r { s with log := { s.log with attempts := s.log.attempts ++ [attempt] } } := by
  have hext : s.Extends { s with log := { s.log with attempts := s.log.attempts ++ [attempt] } } :=
    ⟨le_rfl, List.subset_append_left _ _, List.Subset.refl _, List.Subset.refl _⟩
  exact h.extend hext (h.recorded.extend hext h.recorded.keys (fun _ => .inl) rfl rfl rfl)
    fun _ => .inl

/-- The provider vouches. -/
theorem vouch (h : s.Founded r) {x : Vouching} (htime : x.time = s.clock) (hx : Vouched r s.log x) :
    Founded r { s with log := { s.log with vouchings := s.log.vouchings ++ [x] } } := by
  have hext : s.Extends { s with log := { s.log with vouchings := s.log.vouchings ++ [x] } } :=
    ⟨le_rfl, List.Subset.refl _, List.subset_append_left _ _, List.Subset.refl _⟩
  refine h.extend hext (h.recorded.extend hext h.recorded.keys (fun y hy => ?_) rfl rfl rfl)
    fun _ => .inl
  rcases List.mem_append.1 hy with hbefore | hnew
  · exact .inl hbefore
  · obtain rfl := List.mem_singleton.1 hnew
    exact .inr ⟨htime.le, hext.vouched hx⟩

/-- The table of the accounts grows. -/
theorem commit (h : s.Founded r) {users : List AccountRow}
    (hkept : s.keys ⊆ users.map AccountRow.key)
    (hkeys : DistinctKeys (users.map AccountRow.key)) : Founded r { s with users } := by
  have hext : s.Extends { s with users } :=
    ⟨le_rfl, List.Subset.refl _, List.Subset.refl _, hkept⟩
  exact h.extend hext (h.recorded.extend hext hkeys (fun _ => .inl) rfl rfl rfl) fun _ => .inl

/-- A row is inserted. -/
theorem insert (h : s.Founded r) {row : AccountRow} (hkeys : DistinctKeys (s.keys ++ [row.key])) :
    Founded r { s with users := s.users ++ [row] } := by
  have hmap : (s.users ++ [row]).map AccountRow.key = s.keys ++ [row.key] := List.map_append
  exact h.commit (hmap ▸ List.subset_append_left _ _) (hmap ▸ hkeys)

/-- A call returns a token for a row that is the one of the identity and of the address. -/
theorem issue (h : s.Founded r) {account : AccountRow} {x : Vouching} (i : ℕ) (draws : OtpDraws)
    (hx : x ∈ s.log.vouchings) (haccount : account ∈ s.users)
    (hidentity : account.supabaseUserId = x.identity)
    (hemail : account.emailNormalized = x.email) : (s.issue i account x draws).Founded r := by
  have hext := s.extends_issue i account x draws
  refine h.extend hext (h.recorded.issue draws hx (List.mem_map_of_mem haccount) hidentity hemail)
    fun call hcall => ?_
  rcases List.mem_or_eq_of_mem_set hcall with hbefore | rfl
  · exact .inl hbefore
  · exact .inr trivial

/-- A call waits for the limiter. -/
theorem limiting (h : s.Founded r) {attempt : OtpAttempt} (htime : attempt.time = s.clock) :
    (s.addCall (.limiting attempt)).Founded r :=
  have hreason : s.Reason (.limiting attempt) := htime.le
  h.addCall hreason

theorem limited (h : s.Founded r) {attempt : OtpAttempt} (i : ℕ) (htime : attempt.time ≤ s.clock)
    (answer : Except LimiterError Bool) : (s.limited i attempt answer).Founded r := by
  unfold OtpService.limited
  split
  · exact h.setCall i trivial
  · exact h.setCall i trivial
  · refine (h.attempt attempt).setCall i ?_
    split_ifs with hverify
    · exact ⟨attempt, List.mem_append_right _ (List.mem_singleton_self _), hverify, rfl, htime⟩
    · trivial

theorem verifyReturned (h : s.Founded r) {email : List Char} (i : ℕ)
    (hemail : Checked s.log email s.clock)
    (answer : Except GatewayError AuthIdentity) :
    (s.verifyReturned r i email answer).Founded r := by
  unfold OtpService.verifyReturned
  split
  · exact h.setCall i trivial
  · exact h.setCall i trivial
  · rename_i answer
    split
    · exact h.setCall i trivial
    · rename_i identity haccept
      have hvouched : Vouched r s.log ⟨answer, identity, email, s.clock⟩ := by
        unfold acceptIdentity at haccept
        split at haccept
        · rename_i identity' normalized hidentity hnormalized
          obtain ⟨rfl, hsome⟩ := Option.ite_none_right_eq_some.1 haccept
          obtain rfl := Option.some.inj hsome
          exact ⟨hidentity, hnormalized, hemail⟩
        · cases haccept
      exact (h.vouch rfl hvouched).setCall i (List.mem_append_right _ (List.mem_singleton_self _))

theorem createAccount (h : s.Founded r) {x : Vouching} {id : Uuid} {account : AccountRow}
    (hcreate : s.createAccount x.identity x.email id = some (account, t)) :
    t.Founded r ∧ t.log = s.log ∧ account ∈ t.users ∧ account.supabaseUserId = x.identity ∧
      account.emailNormalized = x.email := by
  obtain ⟨hfree, hcreate⟩ := Option.ite_none_left_eq_some.1 hcreate
  obtain ⟨rfl, rfl⟩ := Prod.mk.inj (Option.some.inj hcreate)
  simp only [not_or] at hfree
  obtain ⟨hid, hidentity, hemail, _⟩ := hfree
  have hkeys : ∀ {α : Type} (f : Uuid × Uuid × List Char → α),
      s.keys.map f = s.users.map fun row => f row.key := fun f => List.map_map
  refine ⟨h.insert (h.recorded.keys.append ?_ ?_ ?_), rfl,
    List.mem_append_right _ (List.mem_singleton_self _), rfl, rfl⟩
  · rw [hkeys]
    exact hid
  · rw [hkeys]
    exact hidentity
  · rw [hkeys]
    exact hemail

theorem queried (h : s.Founded r) {i : ℕ} {draws : OtpDraws} {call : OtpCall}
    (hreason : s.Reason call)
    (hqueried : s.queried i draws call = some t) : t.Founded r := by
  cases call with
  | findingIdentity x =>
    obtain rfl := Option.some.inj hqueried
    split
    · rename_i account haccount
      split_ifs with hemail
      · exact h.setCall i trivial
      · have hfound := List.find?_some haccount
        rw [Bool.and_eq_true] at hfound
        exact h.issue i draws hreason (List.mem_of_find?_eq_some haccount)
          (of_decide_eq_true hfound.1)
          (not_not.1 hemail)
    · exact h.setCall i hreason
  | findingEmail x =>
    obtain rfl := Option.some.inj hqueried
    split
    · rename_i account haccount
      split_ifs with hidentity
      · exact h.setCall i trivial
      · have hfound := List.find?_some haccount
        rw [Bool.and_eq_true] at hfound
        exact h.issue i draws hreason (List.mem_of_find?_eq_some haccount) (not_not.1 hidentity)
          (of_decide_eq_true hfound.1)
    · exact h.setCall i hreason
  | creating x =>
    obtain rfl := Option.some.inj hqueried
    split
    · rename_i account s' hcreate
      obtain ⟨h', hlog, haccount, hidentity, hemail⟩ := h.createAccount hcreate
      exact h'.issue i draws (hlog ▸ hreason) haccount hidentity hemail
    · exact h.setCall i trivial
  | limiting | starting | verifying | started | issued | raised => cases hqueried

theorem step (h : s.Founded r) {event : OtpEvent} (hstep : s.step r event = some t) :
    t.Founded r := by
  cases event with
  | elapse duration =>
    obtain rfl := Option.some.inj hstep
    exact h.same (Nat.le_add_right _ _) rfl rfl rfl fun _ => .inl
  | startOtp email network =>
    obtain rfl := Option.some.inj hstep
    unfold startOtp
    split
    · exact h.addCall trivial
    · exact h.limiting rfl
  | verifyOtp email otp network =>
    obtain rfl := Option.some.inj hstep
    unfold verifyOtp
    split
    · exact h.addCall trivial
    · dsimp only
      split_ifs
      · exact h.addCall trivial
      · exact h.limiting rfl
  | limited i answer =>
    simp only [OtpService.step] at hstep
    split at hstep <;> cases hstep
    rename_i attempt hcall
    exact h.limited i (h.reasons _ (List.mem_of_getElem? hcall)) answer
  | startReturned i sent =>
    simp only [OtpService.step] at hstep
    split at hstep <;> cases hstep
    refine h.setCall i ?_
    split_ifs <;> trivial
  | queryFailed i =>
    simp only [OtpService.step] at hstep
    split at hstep <;> cases hstep <;> exact h.setCall i trivial
  | verifyReturned i answer =>
    simp only [OtpService.step] at hstep
    split at hstep <;> cases hstep
    rename_i email hcall
    exact h.verifyReturned i (h.reasons _ (List.mem_of_getElem? hcall)) answer
  | queried i draws =>
    obtain ⟨call, hcall, hqueried⟩ := Option.bind_eq_some_iff.1 hstep
    exact h.queried (h.reasons call (List.mem_of_getElem? hcall)) hqueried
  | consumeBootstrap tokenHash =>
    obtain rfl := Option.some.inj hstep
    exact h.extend (s.extends_consumeBootstrap tokenHash) (h.recorded.consume tokenHash)
      fun _ => .inl
  | commit users =>
    obtain ⟨⟨hkept, hkeys⟩, hstep⟩ := Option.ite_none_right_eq_some.1 hstep
    obtain rfl := Option.some.inj hstep
    exact h.commit hkept hkeys

end Founded

theorem founded_initial (hkeys : DistinctKeys (users.map AccountRow.key)) :
    (initial users clock).Founded r := by
  refine ⟨⟨hkeys, ?_, ?_, ?_, ?_, ?_⟩, ?_⟩
  · exact fun _ hx => absurd hx List.not_mem_nil
  · exact fun _ hx => absurd hx List.not_mem_nil
  · intro _ _ hentry
    cases hentry
  · exact fun _ hc => absurd hc List.not_mem_nil
  · exact fun _ => le_rfl
  · exact fun _ hcall => absurd hcall List.not_mem_nil

/-- An account stands for one identity and one address. -/
theorem Issued.account_iff (hkeys : DistinctKeys s.keys) {entry entry' : BootstrapEntry}
    {x x' : Vouching}
    (h : s.Issued entry x) (h' : s.Issued entry' x') :
    (entry.accountId = entry'.accountId ↔ x.identity = x'.identity) ∧
      (entry.accountId = entry'.accountId ↔ x.email = x'.email) := by
  refine ⟨⟨fun heq => ?_, fun heq => ?_⟩, ⟨fun heq => ?_, fun heq => ?_⟩⟩
  · exact congrArg (·.2.1) (List.inj_on_of_nodup_map hkeys.ids h.account h'.account heq)
  · exact congrArg (·.1) (List.inj_on_of_nodup_map hkeys.identities h.account h'.account heq)
  · exact congrArg (·.2.2) (List.inj_on_of_nodup_map hkeys.ids h.account h'.account heq)
  · exact congrArg (·.1) (List.inj_on_of_nodup_map hkeys.emails h.account h'.account heq)

/-- Whoever consumes a bootstrap token got it for an identity that the provider vouched for, with
the address that a code was checked for, and in time.  The account is the one of that identity and
of that address, and a token is consumed at most as often as it was issued. -/
theorem bootstrap_genuine (hkeys : DistinctKeys (users.map AccountRow.key))
    (hrun : Run (Step (step r)) (initial users clock) es s) :
    (∀ c ∈ s.log.consumed, ∃ x, (c.tokenHash, c.entry, x) ∈ s.log.issued ∧ Vouched r s.log x ∧
      s.Issued c.entry x ∧ x.time ≤ c.time ∧ c.time < x.time + bootstrapLifetime) ∧
    (∀ x ∈ s.log.issued, ∀ y ∈ s.log.issued,
      (x.2.1.accountId = y.2.1.accountId ↔ x.2.2.identity = y.2.2.identity) ∧
      (x.2.1.accountId = y.2.1.accountId ↔ x.2.2.email = y.2.2.email)) ∧
    ∀ tokenHash, (s.log.consumed.countP fun c => c.tokenHash = tokenHash) ≤
      s.log.issued.countP fun x => x.1 = tokenHash := by
  have h : s.Founded r := hrun.invariant (founded_initial hkeys) fun _ _ _ h hstep => h.step hstep
  have hrecorded := h.recorded
  refine ⟨fun c hc => ?_, fun x hx y hy => ?_, fun tokenHash => ?_⟩
  · obtain ⟨hlt, x, hx, htime⟩ := hrecorded.consumed c hc
    have hissued := hrecorded.issued _ hx
    exact ⟨x, hx, (hrecorded.vouchings x hissued.vouching).2, hissued, htime,
      hissued.expiresAt ▸ hlt⟩
  · exact (hrecorded.issued x hx).account_iff hrecorded.keys (hrecorded.issued y hy)
  · exact (Nat.le_add_right _ _).trans (hrecorded.once tokenHash)

def sampleOtp : OtpRuntime where
  tables := ⟨id, List.map Char.toLower, Char.isWhitespace⟩
  fingerprint scope value := (scope.toList ++ value.toList).map fun c => UInt8.ofNat c.toNat
  parseUuid text := parseUuid (text.map Char.toNat)

def sampleDraws (n : ℕ) : OtpDraws := ⟨⟨BitVec.ofNat 128 n⟩, ⟨BitVec.ofNat 128 n⟩, [UInt8.ofNat n]⟩

/-- Ada's two logins and Bob's overlap; Bob's account is created by another transaction, and a
fourth call is refused.  The first of Ada's tokens and Bob's are consumed. -/
def sampleLogins : List OtpEvent :=
  let ada := "00000000-0000-4000-8000-000000000003"
  let bob := "00000000-0000-4000-8000-000000000004"
  [.verifyOtp "Ada@Example.org".toList "123456".toList "192.0.2.1",
    .verifyOtp "bob@example.org".toList "654321".toList "192.0.2.1", .limited 1 (.ok true),
    .limited 0 (.ok true), .verifyReturned 0 (.ok ⟨ada.toList, "ada@example.org".toList⟩),
    .queried 0 (sampleDraws 5), .verifyReturned 1 (.ok ⟨bob.toList, "Bob@example.org".toList⟩),
    .queried 1 (sampleDraws 6), .queried 0 (sampleDraws 5), .queried 0 (sampleDraws 5),
    .commit [⟨⟨5⟩, ⟨0x00000000000040008000000000000003⟩, "ada@example.org".toList, 0, none⟩,
      ⟨⟨7⟩, ⟨0x00000000000040008000000000000004⟩, "bob@example.org".toList, 2, none⟩],
    .elapse 1000, .queried 1 (sampleDraws 6),
    .verifyOtp "ada@example.org".toList "777777".toList "192.0.2.7",
    .verifyOtp "ada@example.org".toList "888888".toList "192.0.2.8", .limited 3 (.ok false),
    .limited 2 (.ok true), .verifyReturned 2 (.ok ⟨ada.toList, "ada@example.org".toList⟩),
    .queried 2 (sampleDraws 8), .consumeBootstrap [5], .consumeBootstrap [6]]

theorem bootstrap_genuine_sample : ∃ s, Run (Step (step sampleOtp)) (initial [] 0) sampleLogins s ∧
    s.log.issued.length = 3 ∧ s.log.consumed.length = 2 ∧
    (∀ c ∈ s.log.consumed, ∃ x, (c.tokenHash, c.entry, x) ∈ s.log.issued ∧
      Vouched sampleOtp s.log x ∧ s.Issued c.entry x ∧ x.time ≤ c.time ∧
      c.time < x.time + bootstrapLifetime) ∧
    (∀ x ∈ s.log.issued, ∀ y ∈ s.log.issued,
      (x.2.1.accountId = y.2.1.accountId ↔ x.2.2.identity = y.2.2.identity) ∧
      (x.2.1.accountId = y.2.1.accountId ↔ x.2.2.email = y.2.2.email)) ∧
    ∀ tokenHash, (s.log.consumed.countP fun c => c.tokenHash = tokenHash) ≤
      s.log.issued.countP fun x => x.1 = tokenHash := by
  have h : ∃ s ∈ exec (step sampleOtp) (initial [] 0) sampleLogins,
      s.log.issued.length = 3 ∧ s.log.consumed.length = 2 := by
    decide +kernel
  obtain ⟨s, hexec, hissued, hconsumed⟩ := h
  have hkeys : DistinctKeys (([] : List AccountRow).map AccountRow.key) := ⟨.nil, .nil, .nil⟩
  have hrun := Run.of_exec hexec
  exact ⟨s, hrun, hissued, hconsumed, bootstrap_genuine hkeys hrun⟩

end OtpService

end SelfRelay.Backend
