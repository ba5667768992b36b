import SelfRelay.Backend.Presence
import SelfRelay.Lib.Dict
import SelfRelay.Lib.Run

/-!
# The signaling budgets of the presence manager

`PresenceManager` charges every forwarded signaling message against its transfer, its device and its
account.  The account's total is kept beside the usage of the transfers and follows it step by step;
`Accounted` says that it never drifts, as long as a transfer is charged by one account only.
-/

open StepSystem

namespace SelfRelay.Backend

/-- `MAX_SIGNALING_ICE_CANDIDATES` -/
def maxSignalingIceCandidates : ℕ := 64

/-- `MAX_SIGNALING_MESSAGES` -/
def maxSignalingMessages : ℕ := 128

/-- `MAX_SIGNALING_MESSAGES_PER_ACCOUNT` -/
def maxSignalingMessagesPerAccount : ℕ := 512

/-- `SIGNALING_STATE_RETENTION`: 11 minutes. -/
def signalingStateRetention : Timestamp := 11 * 60 * 1000000

/-- `SIGNALING_MESSAGE_TYPES` -/
inductive SignalingType where
  | sdpOffer
  | sdpAnswer
  | iceCandidate
  | handshakeOffer
  | handshakeAnswer
  deriving DecidableEq, Repr

namespace SignalingType

/-- The type is in `SIGNALING_SINGLE_USE_MESSAGE_TYPES`. -/
def isSingleUse : SignalingType → Bool
  | sdpOffer | sdpAnswer | handshakeOffer | handshakeAnswer => true
  | iceCandidate => false

/-- How many messages of the type a device may send for one transfer. -/
def maximum (type : SignalingType) : ℕ := if type.isSingleUse then 1 else maxSignalingIceCandidates

end SignalingType

/-- `_SignalingUsage` -/
structure SignalingUsage where
  accountId : Uuid
  updatedAt : Timestamp
  total : ℕ
  counts : Dict (Uuid × SignalingType) ℕ

/-- The count of a device and type, which is 0 when there is none. -/
def SignalingUsage.count (usage : SignalingUsage) (key : Uuid × SignalingType) : ℕ :=
  (usage.counts.get key).getD 0

/-- `_signaling` and `_signaling_account_totals` -/
structure SignalingState where
  signaling : Dict Uuid SignalingUsage
  accountTotals : Dict Uuid ℕ

namespace SignalingState

def empty : SignalingState := ⟨∅, ∅⟩

variable (s : SignalingState)

/-- The usage of a transfer, created when there is none. -/
def enter (transfer account : Uuid) (now : Timestamp) : SignalingUsage × SignalingState :=
  match s.signaling.get transfer with
  | some usage => (usage, s)
  | none =>
    let usage : SignalingUsage := ⟨account, now, 0, ∅⟩
    (usage, { s with signaling := s.signaling.set transfer usage })

/-- What an account was charged. -/
def accountTotal (account : Uuid) : ℕ := (s.accountTotals.get account).getD 0

/-- One more message of a device. -/
def charge (transfer account : Uuid) (usage : SignalingUsage) (key : Uuid × SignalingType)
    (now : Timestamp) : SignalingState where
  signaling := s.signaling.set transfer
    { usage with
      updatedAt := now
      total := usage.total + 1
      counts := usage.counts.set key (usage.count key + 1) }
  accountTotals := s.accountTotals.set account (s.accountTotal account + 1)

/-- `_record_signaling_use`, with the two times that it reads. -/
def recordSignalingUse (transfer : Uuid) (c : ActiveConnection) (type : SignalingType)
    (createdAt now : Timestamp) : Bool × SignalingState :=
  let (usage, s) := s.enter transfer c.accountId createdAt
  if type.maximum ≤ usage.count (c.deviceId, type) || maxSignalingMessages ≤ usage.total ||
      maxSignalingMessagesPerAccount ≤ s.accountTotal c.accountId then
    (false, s)
  else (true, s.charge transfer c.accountId usage (c.deviceId, type) now)

/-- `_release_signaling`.  A negative remainder is 0. -/
def releaseSignaling (transfer : Uuid) : SignalingState :=
  match s.signaling.get transfer with
  | none => s
  | some usage =>
    let remaining := s.accountTotal usage.accountId - usage.total
    { signaling := s.signaling.del transfer
      accountTotals :=
        if 0 < remaining then s.accountTotals.set usage.accountId remaining
        else s.accountTotals.del usage.accountId }

/-- The transfers whose usage is older than the retention. -/
def staleTransfers (now : Timestamp) : List Uuid :=
  (s.signaling.entries.filter fun e => e.2.updatedAt + signalingStateRetention ≤ now).map (·.1)

/-- `_prune_signaling_state` -/
def pruneSignalingState (now : Timestamp) : SignalingState :=
  (s.staleTransfers now).foldl releaseSignaling s

end SignalingState

inductive SignalingEvent where
  | record (transfer : Uuid) (c : ActiveConnection) (type : SignalingType)
      (createdAt now : Timestamp)
  /-- `release_transfer` or `_clear_signaling_state` -/
  | release (transfer : Uuid)
  | prune (now : Timestamp)
  | closeAll

/-- The event charges a transfer only to the account that owns it. -/
def SignalingEvent.ChargesOwner (owner : Uuid → Uuid) : SignalingEvent → Prop
  | record transfer c .. => c.accountId = owner transfer
  | _ => True

namespace SignalingState

def step (s : SignalingState) : SignalingEvent → SignalingState
  | .record transfer c type createdAt now => (s.recordSignalingUse transfer c type createdAt now).2
  | .release transfer => s.releaseSignaling transfer
  | .prune now => s.pruneSignalingState now
  | .closeAll => empty

/-! ## Accounting -/

/-- The part of a usage that an account was charged. -/
def spent (account : Uuid) (usage : SignalingUsage) : ℕ :=
  if usage.accountId = account then usage.total else 0

end SignalingState

/-- A usage within its limits. -/
structure SignalingUsage.Valid (usage : SignalingUsage) : Prop where
  total_eq : usage.total = usage.counts.total id
  total_le : usage.total ≤ maxSignalingMessages
  count_le : ∀ key, usage.count key ≤ key.2.maximum

/-- The totals of the accounts are the sums of the usage of their transfers. -/
structure Accounted (owner : Uuid → Uuid) (s : SignalingState) : Prop where
  usages : ∀ transfer usage, s.signaling.get transfer = some usage →
    usage.Valid ∧ usage.accountId = owner transfer
  totals : ∀ account, s.accountTotal account = s.signaling.total (SignalingState.spent account)
  positive : ∀ account n, s.accountTotals.get account = some n → 0 < n
  bounded : ∀ account, s.accountTotal account ≤ maxSignalingMessagesPerAccount

namespace SignalingState

variable {owner : Uuid → Uuid} {s : SignalingState} {transfer account : Uuid}
  {usage : SignalingUsage} {key : Uuid × SignalingType} {now : Timestamp}

theorem valid_new : SignalingUsage.Valid ⟨account, now, 0, ∅⟩ :=
  ⟨rfl, Nat.zero_le _, fun _ => Nat.zero_le _⟩

theorem count_set {n : ℕ} (counts : Dict (Uuid × SignalingType) ℕ) (key' : Uuid × SignalingType) :
    ((counts.set key n).get key').getD 0 =
      if key' = key then n else (counts.get key').getD 0 := by
  by_cases h : key' = key
  · subst h
    rw [Dict.get_set, if_pos rfl, Option.getD_some]
  · rw [Dict.get_set_ne h, if_neg h]

theorem valid_charged (h : usage.Valid) (hcount : usage.count key < key.2.maximum)
    (htotal : usage.total < maxSignalingMessages) :
    SignalingUsage.Valid { usage with
      updatedAt := now
      total := usage.total + 1
      counts := usage.counts.set key (usage.count key + 1) } := by
  refine ⟨?_, htotal, fun key' => ?_⟩
  · have hset := Dict.total_set (d := usage.counts) (k := key) (v := usage.count key + 1) (f := id)
    have hold : (usage.counts.get key).elim 0 id = usage.count key := by
      rw [SignalingUsage.count]
      cases usage.counts.get key <;> rfl
    have hbefore := h.total_eq
    rw [hold] at hset
    dsimp only [id] at hset hbefore ⊢
    omega
  · have hbefore := h.count_le key'
    simp only [SignalingUsage.count] at hcount hbefore ⊢
    rw [count_set]
    split_ifs with heq
    · subst heq
      omega
    · exact hbefore

theorem accountTotal_set {totals : Dict Uuid ℕ} {signaling : Dict Uuid SignalingUsage} {n : ℕ}
    (account' : Uuid) :
    accountTotal ⟨signaling, totals.set account n⟩ account' =
      if account' = account then n else (totals.get account').getD 0 := by
  rw [accountTotal]
  by_cases h : account' = account
  · subst h
    rw [Dict.get_set, if_pos rfl, Option.getD_some]
  · rw [Dict.get_set_ne h, if_neg h]

theorem enter_spec (h : Accounted owner s) (howner : account = owner transfer) (now : Timestamp) :
    Accounted owner (s.enter transfer account now).2 ∧
      (s.enter transfer account now).2.signaling.get transfer =
        some (s.enter transfer account now).1 ∧
      (s.enter transfer account now).2.accountTotals = s.accountTotals := by
  unfold enter
  cases hget : s.signaling.get transfer with
  | some usage => exact ⟨h, hget, rfl⟩
  | none =>
    refine ⟨⟨?_, ?_, h.positive, h.bounded⟩, Dict.get_set, rfl⟩
    · intro transfer' usage' husage'
      by_cases heq : transfer' = transfer
      · subst heq
        obtain rfl := Option.some.inj (Dict.get_set.symm.trans husage')
        exact ⟨valid_new, howner⟩
      · rw [Dict.get_set_ne heq] at husage'
        exact h.usages transfer' usage' husage'
    · intro account'
      have hset := Dict.total_set (d := s.signaling) (k := transfer) (f := spent account')
        (v := ⟨account, now, 0, ∅⟩)
      have hnew : spent account' ⟨account, now, 0, ∅⟩ = 0 := by
        rw [spent, ite_self]
      rw [hget, hnew] at hset
      exact (h.totals account').trans hset.symm

theorem accounted_charge (h : Accounted owner s) (hget : s.signaling.get transfer = some usage)
    (hcount : usage.count key < key.2.maximum) (htotal : usage.total < maxSignalingMessages)
    (haccount : s.accountTotal usage.accountId < maxSignalingMessagesPerAccount) :
    Accounted owner (s.charge transfer usage.accountId usage key now) := by
  obtain ⟨hvalid, howner⟩ := h.usages transfer usage hget
  refine ⟨?_, ?_, ?_, ?_⟩
  · intro transfer' usage' husage'
    by_cases heq : transfer' = transfer
    · subst heq
      obtain rfl := Option.some.inj (Dict.get_set.symm.trans husage')
      exact ⟨valid_charged hvalid hcount htotal, howner⟩
    · rw [charge, Dict.get_set_ne heq] at husage'
      exact h.usages transfer' usage' husage'
  · intro account'
    rw [charge, accountTotal_set]
    have hset := Dict.total_set (d := s.signaling) (k := transfer) (f := spent account')
      (v := { usage with
        updatedAt := now
        total := usage.total + 1
        counts := usage.counts.set key (usage.count key + 1) })
    have hbefore := h.totals account'
    rw [hget] at hset
    simp only [Option.elim_some, spent] at hset
    rw [accountTotal] at hbefore
    by_cases heq : account' = usage.accountId
    · subst heq
      rw [if_pos rfl] at hset ⊢
      rw [if_pos rfl] at hset
      rw [accountTotal]
      simp only at hbefore ⊢
      omega
    · rw [if_neg (Ne.symm heq), if_neg (Ne.symm heq)] at hset
      rw [if_neg heq]
      exact hbefore.trans hset.symm
  · intro account' n hn
    by_cases heq : account' = usage.accountId
    · subst heq
      rw [charge, Dict.get_set] at hn
      have := Option.some.inj hn
      omega
    · rw [charge, Dict.get_set_ne heq] at hn
      exact h.positive account' n hn
  · intro account'
    rw [charge, accountTotal_set]
    split_ifs
    · exact haccount
    · exact h.bounded account'

theorem releaseSignaling_eq (hget : s.signaling.get transfer = some usage) :
    s.releaseSignaling transfer =
      { signaling := s.signaling.del transfer
        accountTotals :=
          if 0 < s.accountTotal usage.accountId - usage.total then
            s.accountTotals.set usage.accountId (s.accountTotal usage.accountId - usage.total)
          else s.accountTotals.del usage.accountId } := by
  rw [releaseSignaling, hget]

theorem accountTotal_release (hget : s.signaling.get transfer = some usage) (account : Uuid) :
    (s.releaseSignaling transfer).accountTotal account =
      s.accountTotal account - spent account usage := by
  rw [releaseSignaling_eq hget, spent]
  by_cases hremaining : 0 < s.accountTotal usage.accountId - usage.total
  · rw [if_pos hremaining, accountTotal_set]
    by_cases heq : account = usage.accountId
    · rw [if_pos heq, if_pos heq.symm, heq]
    · rw [if_neg heq, if_neg (Ne.symm heq)]
      rfl
  · rw [if_neg hremaining, accountTotal]
    by_cases heq : account = usage.accountId
    · rw [if_pos heq.symm, heq, Dict.get_del, Option.getD_none]
      omega
    · rw [if_neg (Ne.symm heq), Dict.get_del_ne heq]
      rfl

theorem accounted_release (h : Accounted owner s) :
    Accounted owner (s.releaseSignaling transfer) := by
  cases hget : s.signaling.get transfer with
  | none =>
    rw [releaseSignaling, hget]
    exact h
  | some usage =>
    refine ⟨?_, ?_, ?_, ?_⟩
    · intro transfer' usage' husage'
      rw [releaseSignaling_eq hget] at husage'
      by_cases heq : transfer' = transfer
      · subst heq
        rw [Dict.get_del] at husage'
        cases husage'
      · rw [Dict.get_del_ne heq] at husage'
        exact h.usages transfer' usage' husage'
    · intro account
      have hdel := Dict.total_del (f := spent account) hget
      rw [accountTotal_release hget, h.totals account, releaseSignaling_eq hget]
      dsimp only
      omega
    · intro account n hn
      rw [releaseSignaling_eq hget] at hn
      dsimp only at hn
      by_cases heq : account = usage.accountId
      · subst heq
        split_ifs at hn with hremaining
        · rw [Dict.get_set] at hn
          rw [← Option.some.inj hn]
          exact hremaining
        · rw [Dict.get_del] at hn
          cases hn
      · split_ifs at hn
        · rw [Dict.get_set_ne heq] at hn
          exact h.positive account n hn
        · rw [Dict.get_del_ne heq] at hn
          exact h.positive account n hn
    · intro account
      rw [accountTotal_release hget]
      exact (Nat.sub_le _ _).trans (h.bounded account)

theorem accounted_prune (h : Accounted owner s) : Accounted owner (s.pruneSignalingState now) := by
  rw [pruneSignalingState]
  generalize s.staleTransfers now = transfers
  induction transfers generalizing s with
  | nil => exact h
  | cons transfer transfers ih => exact ih (accounted_release h)

theorem accounted_empty : Accounted owner empty :=
  ⟨by rintro _ _ ⟨⟩, fun _ => rfl, by rintro _ _ ⟨⟩, fun _ => Nat.zero_le _⟩

theorem accounted_record {c : ActiveConnection} {type : SignalingType} {createdAt : Timestamp}
    (h : Accounted owner s) (howner : c.accountId = owner transfer) :
    Accounted owner (s.recordSignalingUse transfer c type createdAt now).2 := by
  obtain ⟨haccounted, hget, -⟩ := enter_spec h howner createdAt
  rw [recordSignalingUse]
  generalize s.enter transfer c.accountId createdAt = entered at haccounted hget
  obtain ⟨usage, s'⟩ := entered
  dsimp only at haccounted hget ⊢
  split_ifs with hfull
  · exact haccounted
  · simp only [Bool.or_eq_true, decide_eq_true_eq, not_or, Nat.not_le] at hfull
    obtain ⟨⟨hcount, htotal⟩, haccount⟩ := hfull
    have haccountId : c.accountId = usage.accountId :=
      howner.trans (haccounted.usages transfer usage hget).2.symm
    rw [haccountId] at haccount ⊢
    exact accounted_charge haccounted hget hcount htotal haccount

theorem accounted_step {event : SignalingEvent} (h : Accounted owner s)
    (hcharges : event.ChargesOwner owner) : Accounted owner (s.step event) := by
  cases event with
  | record transfer c type createdAt now => exact accounted_record h hcharges
  | release transfer => exact accounted_release h
  | prune now => exact accounted_prune h
  | closeAll => exact accounted_empty

/-! ## Rejected calls -/

variable (s) in
/-- How many messages of a device and type a transfer was charged. -/
def countOf (transfer : Uuid) (key : Uuid × SignalingType) : ℕ :=
  (s.signaling.get transfer).elim 0 (·.count key)

variable (s) in
/-- How many messages a transfer was charged. -/
def totalOf (transfer : Uuid) : ℕ := (s.signaling.get transfer).elim 0 (·.total)

/-- The usage that a call creates is empty. -/
theorem enter_counts (transfer' : Uuid) :
    (∀ key, (s.enter transfer account now).2.countOf transfer' key = s.countOf transfer' key) ∧
      (s.enter transfer account now).2.totalOf transfer' = s.totalOf transfer' := by
  unfold enter
  cases hget : s.signaling.get transfer with
  | some usage => exact ⟨fun _ => rfl, rfl⟩
  | none =>
    simp only [countOf, totalOf]
    by_cases heq : transfer' = transfer
    · subst heq
      rw [Dict.get_set, hget]
      exact ⟨fun _ => rfl, rfl⟩
    · rw [Dict.get_set_ne heq]
      exact ⟨fun _ => rfl, rfl⟩

theorem enter_accountTotals : (s.enter transfer account now).2.accountTotals = s.accountTotals := by
  unfold enter
  cases s.signaling.get transfer <;> rfl

/-- A call that is rejected changes no count and no total. -/
theorem record_false {c : ActiveConnection} {type : SignalingType} {createdAt : Timestamp}
    (h : (s.recordSignalingUse transfer c type createdAt now).1 = false) :
    let s' := (s.recordSignalingUse transfer c type createdAt now).2
    (∀ transfer' key, s'.countOf transfer' key = s.countOf transfer' key) ∧
      (∀ transfer', s'.totalOf transfer' = s.totalOf transfer') ∧
      s'.accountTotals = s.accountTotals := by
  intro s'
  have hs' : s' = (s.enter transfer c.accountId createdAt).2 := by
    simp only [s', recordSignalingUse] at h ⊢
    split_ifs at h ⊢
    rfl
  rw [hs']
  exact ⟨fun transfer' => (enter_counts transfer').1, fun transfer' => (enter_counts transfer').2,
    enter_accountTotals⟩

/-! ## Runs -/

/-- The budgets are accounted for in every run in which a transfer is charged by one account. -/
theorem signaling_accounted {events : List SignalingEvent}
    (hrun : Run (fun a event b => a.step event = b ∧ event.ChargesOwner owner) empty events s) :
    (∀ account, s.accountTotal account = s.signaling.total (spent account) ∧
      s.accountTotal account ≤ maxSignalingMessagesPerAccount) ∧
    (∀ account n, s.accountTotals.get account = some n → 0 < s.signaling.total (spent account)) ∧
    (∀ transfer usage, s.signaling.get transfer = some usage →
      usage.total = usage.counts.total id ∧ usage.total ≤ 128 ∧
      ∀ device type, usage.count (device, type) ≤ if type = .iceCandidate then 64 else 1) ∧
    ∀ transfer c type createdAt now,
      (s.recordSignalingUse transfer c type createdAt now).1 = false →
      let s' := (s.recordSignalingUse transfer c type createdAt now).2
      (∀ transfer' key, s'.countOf transfer' key = s.countOf transfer' key) ∧
        (∀ transfer', s'.totalOf transfer' = s.totalOf transfer') ∧
        s'.accountTotals = s.accountTotals := by
  have h : Accounted owner s := by
    refine hrun.invariant (I := Accounted owner) accounted_empty ?_
    rintro s event _ hs ⟨rfl, hcharges⟩
    exact accounted_step hs hcharges
  refine ⟨fun account => ⟨h.totals account, h.bounded account⟩, ?_, ?_, ?_⟩
  · intro account n hn
    have htotal := h.totals account
    rw [accountTotal, hn, Option.getD_some] at htotal
    rw [← htotal]
    exact h.positive account n hn
  · intro transfer usage hget
    obtain ⟨hvalid, -⟩ := h.usages transfer usage hget
    refine ⟨hvalid.total_eq, hvalid.total_le, fun device type => ?_⟩
    have hcount := hvalid.count_le (device, type)
    cases type <;> exact hcount
  · intro transfer c type createdAt now hfalse
    exact record_false hfalse

/-- A second offer of the same device is rejected, and the release gives
the account its budget back. -/
theorem signaling_accounted_twice :
    let c : ActiveConnection := ⟨⟨9⟩, ⟨1⟩, ⟨2⟩, 0⟩
    let events : List SignalingEvent :=
      [.record ⟨5⟩ c .sdpOffer 10 10, .record ⟨6⟩ c .iceCandidate 11 11,
        .record ⟨5⟩ c .sdpOffer 12 12, .release ⟨5⟩]
    let s := events.foldl step empty
    s.accountTotal ⟨1⟩ = 1 ∧ s.signaling.total (spent ⟨1⟩) = 1 := by
  intro c events s
  have hrun : Run (fun a event b => a.step event = b ∧ event.ChargesOwner fun _ => ⟨1⟩) empty
      events s :=
    .cons ⟨rfl, rfl⟩ (.cons ⟨rfl, rfl⟩ (.cons ⟨rfl, rfl⟩ (.cons ⟨rfl, trivial⟩ (.nil _))))
  have htotal : s.accountTotal ⟨1⟩ = 1 := by decide
  exact ⟨htotal, ((signaling_accounted hrun).1 ⟨1⟩).1.symm.trans htotal⟩

end SignalingState

end SelfRelay.Backend
