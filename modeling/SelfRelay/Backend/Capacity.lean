import SelfRelay.Backend.TransferLifecycle
import SelfRelay.Backend.TransferService

/-!
# The capacity of accounts and devices

No interleaving of `create_offer` calls puts more than eight active transfers on an account or more
than four on a device.  A call counts with the time that it read before it had the lock, which is
not later than the present, so it counts at least the transfers that are active now; and until its
insert takes effect no other call creates, so that what it counted can only shrink
(`load_perform_le`).
-/

open StepSystem

namespace SelfRelay.Backend

open TransferStatus

/-! ## Loads -/

/-- The transfers of an account. -/
def Database.transfersOf (db : Database) (account : Uuid) : List TransferRequestRecord :=
  db.transfers.filter fun t => t.userId = account

/-- How many transfers of a list are active at `now`: all of them, or those of a device. -/
def load (rows : List TransferRequestRecord) (now : Timestamp) (device : Option Uuid) : ℕ :=
  rows.countP fun t => t.activeAt now && device.all fun d => t.involves d

/-- The capacity of an account, or of a device. -/
def limit : Option Uuid → ℕ
  | none => maxActiveTransfersPerAccount
  | some _ => maxActiveTransfersPerDevice

theorem limit_pos (device : Option Uuid) : 0 < limit device := by
  cases device with
  | none => exact Nat.succ_pos 7
  | some d => exact Nat.succ_pos 3

/-- Every account and every device of it is within its capacity. -/
def WithinCapacity (db : Database) (now : Timestamp) : Prop :=
  ∀ account device, load (db.transfersOf account) now device ≤ limit device

section Loads

variable {db : Database} {now now' : Timestamp} {rows : List TransferRequestRecord}
  {device : Option Uuid}

/-- Later, no more transfers are active. -/
theorem load_anti (h : now ≤ now') : load rows now' device ≤ load rows now device := by
  refine List.countP_mono_left fun t _ ht => ?_
  simp only [TransferRequestRecord.activeAt, Bool.and_eq_true, decide_eq_true_eq] at ht ⊢
  exact ⟨⟨ht.1.1, Nat.lt_of_le_of_lt h ht.1.2⟩, ht.2⟩

theorem load_append (t : TransferRequestRecord) :
    load (rows ++ [t]) now device =
      load rows now device +
        if t.activeAt now && device.all fun d => t.involves d then 1 else 0 := by
  simp [load, List.countP_append, List.countP_singleton]

/-- The three comparisons of `_ensure_capacity`. -/
theorem ensureCapacity_iff {sender recipient : Uuid} :
    ensureCapacity rows sender recipient now = true ↔
      ∀ device, (∀ d ∈ device, d = sender ∨ d = recipient) →
        load rows now device < limit device := by
  have hnone : (rows.filter (·.activeAt now)).length = load rows now none := by
    simp [load, List.countP_eq_length_filter]
  have hsome : ∀ d, (rows.filter (·.activeAt now)).countP (·.involves d) = load rows now
      (some d) := by
    intro d
    rw [List.countP_filter, load]
    refine List.countP_congr fun t _ => ?_
    simp [and_comm]
  simp only [ensureCapacity, hnone, hsome, Bool.not_eq_true', Bool.or_eq_false_iff,
    decide_eq_false_iff_not, Nat.not_le]
  constructor
  · rintro ⟨⟨h, hsender⟩, hrecipient⟩ (_ | d) hd
    · exact h
    · obtain rfl | rfl := hd d rfl
      · exact hsender
      · exact hrecipient
  · intro h
    exact ⟨⟨h none nofun, h (some sender) fun d hd => .inl (Option.some.inj hd).symm⟩,
      h (some recipient) fun d hd => .inr (Option.some.inj hd).symm⟩

/-- What `list_for_account` returns carries the load of the account. -/
theorem load_listForAccount {account : Uuid} (h : db.accountExists account = true) :
    load (TransferRequestRepository.listForAccount db account) now device =
      load (db.transfersOf account) now device := by
  rw [TransferRequestRepository.listForAccount, if_pos h]
  exact (List.perm_insertionSort _ _).countP_eq _

end Loads

/-! ## Writes -/

section Writes

variable {db : Database} {now databaseNow : Timestamp} {op : TransferOperation}

theorem transfers_updateTransfers {selected : TransferRequestRecord → Bool}
    {set : TransferRequestRecord → TransferRequestRecord}
    (hrow : ∀ t, selected t = true → RowLaw db now op t (set t)) :
    ∃ g, (db.updateTransfers selected set).1 = { db with transfers := db.transfers.map g } ∧
      ∀ t, RowLaw db now op t (g t) := by
  unfold Database.updateTransfers
  split
  · exact ⟨id, by rw [List.map_id], RowLaw.refl db now op⟩
  case h_2 rows returned hupdate =>
    obtain ⟨-, rfl, -⟩ := Table.update_eq_ok.1 hupdate
    refine ⟨fun t => if selected t then set t else t, rfl, fun t => ?_⟩
    dsimp only
    split_ifs with hselected
    · exact hrow t hselected
    · exact .refl db now op t

/-- A call that creates nothing changes each row under its law, in its place. -/
theorem transfers_perform (db : Database) (now : Timestamp) (h : op.creates = false) :
    ∃ g, (TransferRequestRepository.perform db now op).1 =
        { db with transfers := db.transfers.map g } ∧ ∀ t, RowLaw db now op t (g t) := by
  by_cases hrelay : ∃ account transfer, op = .markRelayUsed account transfer
  · obtain ⟨account, transfer, rfl⟩ := hrelay
    exact transfers_updateTransfers fun t hselected => (rowLaw_markRelayUsed hselected).1
  cases harguments : op.arguments? with
  | none =>
    rw [perform_of_no_arguments harguments
      (by
        rintro account sender recipient version expiresAt id rfl
        cases h)
      (fun account transfer h => hrelay ⟨account, transfer, h⟩)]
    exact ⟨id, by rw [List.map_id], RowLaw.refl db now op⟩
  | some arguments =>
    rw [perform_of_arguments harguments]
    exact transfers_updateTransfers fun t hselected => (rowLaw_transition harguments hselected).1

theorem contains_activeStatuses {status : TransferStatus} :
    activeStatuses.contains status = true ↔ status.isTerminal = false := by
  cases status <;> decide

theorem RowLaw.activeAt {t t' : TransferRequestRecord} (h : RowLaw db databaseNow op t t')
    (hactive : t'.activeAt now = true) : t.activeAt now = true := by
  simp only [TransferRequestRecord.activeAt, Bool.and_eq_true, decide_eq_true_eq,
    contains_activeStatuses, h.expiresAt] at hactive ⊢
  refine ⟨?_, hactive.2⟩
  by_contra hterminal
  rw [h.terminal (by simpa using hterminal)] at hactive
  exact hterminal hactive.1

/-- A call that creates nothing adds no load. -/
theorem load_perform_le (h : op.creates = false) (account : Uuid) (device : Option Uuid) :
    load ((TransferRequestRepository.perform db databaseNow op).1.transfersOf account) now device ≤
      load (db.transfersOf account) now device := by
  obtain ⟨g, hdb, hrow⟩ := transfers_perform db databaseNow h
  rw [hdb]
  simp only [load, Database.transfersOf, List.countP_filter, List.countP_map]
  refine List.countP_mono_left fun t _ ht => ?_
  simp only [Function.comp_apply, Bool.and_eq_true, decide_eq_true_eq, (hrow t).owner,
    TransferRequestRecord.involves, (hrow t).sender, (hrow t).recipient] at ht ⊢
  exact ⟨⟨(hrow t).activeAt ht.1.1, ht.1.2⟩, ht.2⟩

/-- What a `create` does to the table: nothing, or one offer of an account that exists. -/
theorem transfers_create {account sender recipient : Uuid} {version : ℤ} {expiresAt : Timestamp}
    {id : Uuid} {db' : Database}
    (h : (TransferRequestRepository.perform db now
      (.create account sender recipient version expiresAt id)).1 = db') :
    db' = db ∨ db.accountExists account = true ∧
      ∃ t : TransferRequestRecord, t.userId = account ∧ t.senderDeviceId = sender ∧
        t.recipientDeviceId = recipient ∧ db' = { db with transfers := db.transfers ++ [t] } := by
  simp only [TransferRequestRepository.perform, TransferRequestRepository.create] at h
  split_ifs at h with hadmits
  · split at h
    · exact .inl h.symm
    case h_2 transfers hinsert =>
      obtain ⟨-, -, rfl⟩ := Table.insert_eq_ok.1 hinsert
      simp only [Bool.and_eq_true] at hadmits
      exact .inr ⟨hadmits.1.1.1, _, rfl, rfl, rfl, h.symm⟩
  · exact .inl h.symm

/-- An offer adds at most one, to the loads of its account and of its two devices. -/
theorem load_offer {t : TransferRequestRecord} (account : Uuid) (device : Option Uuid) :
    load (({ db with transfers := db.transfers ++ [t] } : Database).transfersOf account)
      now device ≤
      load (db.transfersOf account) now device +
        if account = t.userId ∧ ∀ d ∈ device, d = t.senderDeviceId ∨ d = t.recipientDeviceId then 1
        else 0 := by
  simp only [Database.transfersOf, List.filter_append, List.filter_singleton]
  by_cases haccount : account = t.userId
  · subst haccount
    simp only [decide_true, cond_true, load_append, true_and]
    refine Nat.add_le_add_left ?_ _
    by_cases hdevice : ∀ d ∈ device, d = t.senderDeviceId ∨ d = t.recipientDeviceId
    · rw [if_pos hdevice]
      split_ifs <;> decide
    · have hnot : ¬ (t.activeAt now && device.all fun d => t.involves d) = true := by
        intro h
        refine hdevice fun d hd => ?_
        have hinvolves := (Option.all_eq_true ..).1 (Bool.and_eq_true_iff.1 h).2 d hd
        simpa [TransferRequestRecord.involves] using hinvolves
      rw [if_neg hnot]
      exact Nat.zero_le _
  · have hne : ¬ t.userId = account := fun h => haccount h.symm
    simp [hne]

end Writes

/-! ## Runs -/

/-- What is known of a call that has not returned: the time that it read has passed; what it listed
carries at least the load of its account; and its offer fits once it was checked. -/
def CallOk (s : ServiceState) (call : OfferCall) : Prop :=
  match call.phase with
  | .validating | .leaving => True
  | .queued now | .listing now => now ≤ s.clock
  | .listed now records => now ≤ s.clock ∧ (s.db.accountExists call.request.account = true →
    ∀ device, load (s.db.transfersOf call.request.account) now device ≤ load records now device)
  | .creating now => now ≤ s.clock ∧ (s.db.accountExists call.request.account = true →
    ∀ device, (∀ d ∈ device, d = call.request.sender ∨ d = call.request.recipient) →
      load (s.db.transfersOf call.request.account) now device < limit device)

structure ServiceOk (s : ServiceState) : Prop where
  capacity : WithinCapacity s.db s.clock
  /-- Calls exclude each other under the lock. -/
  holder : ∀ id call, s.calls id = some call → call.phase.holdsLock = true → s.lock = some id
  calls : ∀ id call, s.calls id = some call → CallOk s call

section Runs

variable {lifetime : Timestamp} {s s' : ServiceState}

/-- What a call knows survives when the clock goes on and the loads of its account do not grow. -/
theorem CallOk.mono {call : OfferCall} (h : CallOk s call) (hclock : s.clock ≤ s'.clock)
    (hload : s'.db.accountExists call.request.account = true → ∀ now device,
      s.db.accountExists call.request.account = true ∧
        load (s'.db.transfersOf call.request.account) now device ≤
          load (s.db.transfersOf call.request.account) now device ∨
      load (s'.db.transfersOf call.request.account) now device = 0) : CallOk s' call := by
  obtain ⟨request, phase⟩ := call
  cases phase with
  | validating | leaving => trivial
  | queued now | listing now => exact Nat.le_trans h hclock
  | listed now records =>
    refine ⟨Nat.le_trans h.1 hclock, fun haccount device => ?_⟩
    obtain ⟨hbefore, hle⟩ | hzero := hload haccount now device
    · exact Nat.le_trans hle (h.2 hbefore device)
    · exact hzero ▸ Nat.zero_le _
  | creating now =>
    refine ⟨Nat.le_trans h.1 hclock, fun haccount device hdevice => ?_⟩
    obtain ⟨hbefore, hle⟩ | hzero := hload haccount now device
    · exact Nat.lt_of_le_of_lt hle (h.2 hbefore device hdevice)
    · rw [hzero]
      exact limit_pos device

variable {id : ℕ} {call : OfferCall}

/-- The calls after one of them went on. -/
theorem calls_goOn {phase : OfferPhase} {id' : ℕ} {call' : OfferCall}
    (h : (s.goOn id call phase).calls id' = some call') :
    id' = id ∧ call' = { call with phase } ∨ id' ≠ id ∧ s.calls id' = some call' := by
  change Function.update s.calls id (some { call with phase }) id' = some call' at h
  by_cases hid : id' = id
  · subst hid
    rw [Function.update_self] at h
    exact .inl ⟨rfl, (Option.some.inj h).symm⟩
  · rw [Function.update_of_ne hid] at h
    exact .inr ⟨hid, h⟩

/-- The calls after one of them ended. -/
theorem calls_finish {id' : ℕ} {call' : OfferCall}
    (h : (s.finish id call).calls id' = some call') : id' ≠ id ∧ s.calls id' = some call' := by
  change Function.update s.calls id none id' = some call' at h
  by_cases hid : id' = id
  · subst hid
    rw [Function.update_self] at h
    cases h
  · rw [Function.update_of_ne hid] at h
    exact ⟨hid, h⟩

theorem ServiceOk.goOn (h : ServiceOk s) {phase : OfferPhase} (hok : CallOk s { call with phase })
    (hlock : phase.holdsLock = true → s.lock = some id) : ServiceOk (s.goOn id call phase) := by
  refine ⟨h.capacity, ?_, ?_⟩
  · intro id' call' hcall' hholds
    obtain ⟨rfl, rfl⟩ | ⟨-, hcall'⟩ := calls_goOn hcall'
    · exact hlock hholds
    · exact h.holder id' call' hcall' hholds
  · intro id' call' hcall'
    obtain ⟨rfl, rfl⟩ | ⟨-, hcall'⟩ := calls_goOn hcall'
    · exact hok
    · exact h.calls id' call' hcall'

theorem ServiceOk.finish (h : ServiceOk s) (hcall : s.calls id = some call) :
    ServiceOk (s.finish id call) := by
  refine ⟨h.capacity, ?_, ?_⟩
  · intro id' call' hcall' hholds
    obtain ⟨hne, hcall'⟩ := calls_finish hcall'
    have hlock' := h.holder id' call' hcall' hholds
    change (if call.phase.holdsLock then none else s.lock) = some id'
    split_ifs with hholds'
    · have hlock := h.holder id call hcall hholds'
      exact (hne (Option.some.inj (hlock'.symm.trans hlock))).elim
    · exact hlock'
  · intro id' call' hcall'
    exact h.calls id' call' (calls_finish hcall').2

/-- A change of the database that adds no load, while the clock goes on. -/
theorem ServiceOk.change (h : ServiceOk s) {clock : Timestamp} {db : Database}
    (hclock : s.clock ≤ clock)
    (hload : ∀ account now device,
      load (db.transfersOf account) now device ≤ load (s.db.transfersOf account) now device)
    (haccount : ∀ account now device, db.accountExists account = true →
      s.db.accountExists account = true ∨ load (db.transfersOf account) now device = 0) :
    ServiceOk { s with clock, db } := by
  refine ⟨?_, h.holder, ?_⟩
  · intro account device
    exact Nat.le_trans (hload account clock device)
      (Nat.le_trans (load_anti hclock) (h.capacity account device))
  · intro id call hcall
    refine (h.calls id call hcall).mono hclock fun hexists now device => ?_
    obtain hbefore | hzero := haccount _ now device hexists
    · exact .inl ⟨hbefore, hload _ now device⟩
    · exact .inr hzero

/-- The offer of the call that holds the lock. -/
theorem ServiceOk.insert (h : ServiceOk s) {request : OfferRequest} {now databaseNow : Timestamp}
    {version : ℤ} {expiresAt : Timestamp} {generated : Uuid}
    (hcall : s.calls id = some ⟨request, .creating now⟩) :
    ServiceOk { s.goOn id ⟨request, .creating now⟩ .leaving with
      db := (TransferRequestRepository.perform s.db databaseNow
        (.create request.account request.sender request.recipient version expiresAt
          generated)).1 } := by
  have hlock := h.holder id _ hcall rfl
  obtain ⟨hnow, hfits⟩ := h.calls id _ hcall
  have hgoOn : ServiceOk (s.goOn id ⟨request, .creating now⟩ .leaving) :=
    h.goOn trivial fun _ => hlock
  generalize hdb : (TransferRequestRepository.perform s.db databaseNow
    (.create request.account request.sender request.recipient version expiresAt generated)).1 = db'
  obtain rfl | ⟨haccount, t, hrow, hsender, hrecipient, rfl⟩ := transfers_create hdb
  · exact hgoOn
  refine ⟨?_, hgoOn.holder, ?_⟩
  · intro account device
    refine Nat.le_trans (load_offer account device) ?_
    split_ifs with hone
    · rw [hrow, hsender, hrecipient] at hone
      obtain ⟨rfl, hdevice⟩ := hone
      -- what was counted at `now` bounds what is active at the present
      exact Nat.lt_of_le_of_lt (load_anti hnow) (hfits haccount device hdevice)
    · exact h.capacity account device
  · intro id' call' hcall'
    obtain ⟨rfl, rfl⟩ | ⟨hid, hcall'⟩ := calls_goOn hcall'
    · trivial
    · have hok := h.calls id' call' hcall'
      obtain ⟨request', phase'⟩ := call'
      cases phase' with
      | validating | leaving => trivial
      | queued now' => exact hok
      | listing | listed | creating =>
        exact (hid (Option.some.inj ((h.holder id' _ hcall' rfl).symm.trans hlock))).elim

/-- Every step keeps the invariant. -/
theorem serviceOk_step (h : ServiceOk s) {e : ServiceEvent} (hstep : s.step lifetime e = some s') :
    ServiceOk s' := by
  cases e with
  | tick time =>
    simp only [ServiceState.step, Option.ite_none_right_eq_some, Option.some.injEq] at hstep
    obtain ⟨hclock, rfl⟩ := hstep
    exact h.change hclock (fun _ _ _ => Nat.le_refl _) (fun _ _ _ hexists => .inl hexists)
  | begin id request =>
    simp only [ServiceState.step] at hstep
    split_ifs at hstep with hbusy hversion hsame
    · cases hstep
      exact h
    · cases hstep
      exact h
    · cases hstep
      have hok : CallOk s { (⟨request, .validating⟩ : OfferCall) with
        phase := .validating } := trivial
      exact h.goOn hok nofun
  | validated id =>
    simp only [ServiceState.step] at hstep
    split at hstep
    case h_2 => cases hstep
    case h_1 request hcall =>
      cases hstep
      exact h.goOn (Nat.le_refl s.clock) nofun
  | acquire id =>
    simp only [ServiceState.step] at hstep
    split at hstep
    case h_2 => cases hstep
    case h_1 request now hlock hcall =>
      cases hstep
      refine ⟨h.capacity, ?_, ?_⟩
      · intro id' call' hcall' hholds
        obtain ⟨rfl, rfl⟩ | ⟨-, hcall'⟩ := calls_goOn hcall'
        · rfl
        · cases hlock.symm.trans (h.holder id' call' hcall' hholds)
      · intro id' call' hcall'
        obtain ⟨rfl, rfl⟩ | ⟨-, hcall'⟩ := calls_goOn hcall'
        · exact h.calls _ _ hcall
        · exact h.calls id' call' hcall'
  | select id =>
    simp only [ServiceState.step] at hstep
    split at hstep
    case h_2 => cases hstep
    case h_1 request now hcall =>
      cases hstep
      refine h.goOn ⟨h.calls id _ hcall, fun haccount device => ?_⟩ fun _ => h.holder id _ hcall rfl
      exact Nat.le_of_eq (load_listForAccount haccount).symm
  | check id =>
    simp only [ServiceState.step] at hstep
    split at hstep
    case h_2 => cases hstep
    case h_1 request now records hcall =>
      obtain ⟨hnow, hlisted⟩ := h.calls id _ hcall
      split_ifs at hstep with hfits
      · cases hstep
        refine h.goOn ⟨hnow, fun haccount device hdevice => ?_⟩ fun _ => h.holder id _ hcall rfl
        exact Nat.lt_of_le_of_lt (hlisted haccount device)
          (ensureCapacity_iff.1 hfits device hdevice)
      · cases hstep
        exact h.finish hcall
  | insert id databaseNow generated =>
    simp only [ServiceState.step] at hstep
    split at hstep
    case h_2 => cases hstep
    case h_1 request now hcall =>
      cases hstep
      exact h.insert hcall
  | leave id =>
    simp only [ServiceState.step] at hstep
    split at hstep
    case h_2 => cases hstep
    case h_1 request hcall =>
      cases hstep
      exact h.finish hcall
  | abort id =>
    simp only [ServiceState.step] at hstep
    split at hstep
    case h_2 => cases hstep
    case h_1 call hcall =>
      cases hstep
      exact h.finish hcall
  | operate databaseNow op =>
    simp only [ServiceState.step] at hstep
    split_ifs at hstep with hcreates
    cases hstep
    have hcreates : op.creates = false := by simpa using hcreates
    obtain ⟨g, hdb, -⟩ := transfers_perform s.db databaseNow hcreates
    refine h.change (Nat.le_refl _) (fun account now device =>
      load_perform_le hcreates account device)
      fun account now device hexists => .inl ?_
    rw [hdb] at hexists
    exact hexists
  | other users devices sessions =>
    simp only [ServiceState.step, Option.ite_none_right_eq_some, Option.some.injEq] at hstep
    obtain ⟨hback, rfl⟩ := hstep
    refine h.change (Nat.le_refl _) (fun _ _ _ => Nat.le_refl _) fun account now device
      hexists => ?_
    by_cases hbefore : s.db.accountExists account = true
    · exact .inl hbefore
    · -- an account that comes to exist has no transfers
      right
      have hnone : s.db.transfersOf account = [] := by
        refine List.filter_eq_nil_iff.2 fun t ht howner => ?_
        obtain rfl : t.userId = account := of_decide_eq_true howner
        have := List.all_eq_true.1 hback t ht
        simp [hexists, hbefore] at this
      change load (s.db.transfersOf account) now device = 0
      rw [hnone]
      rfl

/-- From a service without calls, within its capacity, no run exceeds the capacity of an account or
of a device. -/
theorem capacity_never_exceeded {es : List ServiceEvent} (hcalls : ∀ id, s.calls id = none)
    (hcapacity : WithinCapacity s.db s.clock)
    (hrun : Run (Step (ServiceState.step lifetime)) s es s')
    (account : Uuid) :
    ((s'.db.transfersOf account).filter (·.activeAt s'.clock)).length ≤
        maxActiveTransfersPerAccount ∧
      ∀ device, ((s'.db.transfersOf account).filter fun t =>
        t.activeAt s'.clock && t.involves device).length ≤ maxActiveTransfersPerDevice := by
  have hok : ServiceOk s' := by
    refine hrun.invariant (I := ServiceOk) ?_ fun _ _ _ h hstep => serviceOk_step h hstep
    refine ⟨hcapacity, fun id call hcall => ?_, fun id call hcall => ?_⟩
    · cases (hcalls id).symm.trans hcall
    · cases (hcalls id).symm.trans hcall
  have haccount := hok.capacity account none
  refine ⟨?_, fun device => ?_⟩
  · simpa [load, List.countP_eq_length_filter, limit] using haccount
  · have hdevice := hok.capacity account (some device)
    simpa [load, List.countP_eq_length_filter, limit] using hdevice

end Runs

/-- An offer of the account of `offeredDatabase`, from the request to the release of the lock. -/
theorem capacity_never_exceeded_offer :
    let s : ServiceState := ⟨2, { offeredDatabase with transfers := [] }, none, fun _ => none⟩
    let es : List ServiceEvent :=
      [.begin 0 ⟨⟨1⟩, ⟨2⟩, ⟨3⟩, 1⟩, .validated 0, .acquire 0, .select 0, .check 0, .tick 5,
        .insert 0 5 ⟨4⟩, .leave 0]
    let s' := (exec (ServiceState.step 6) s es).getD s
    s'.db.transfers.map (·.status) = [.offered] ∧
      ((s'.db.transfersOf ⟨1⟩).filter (·.activeAt s'.clock)).length ≤
        maxActiveTransfersPerAccount := by
  intro s es s'
  have hexec : exec (ServiceState.step 6) s es = some s' := by
    have hsome : (exec (ServiceState.step 6) s es).isSome = true := by decide
    obtain ⟨t, ht⟩ := Option.isSome_iff_exists.1 hsome
    rw [ht, show s' = t from congrArg (Option.getD · s) ht]
  refine ⟨by decide, ?_⟩
  exact (capacity_never_exceeded (fun _ => rfl) (fun _ _ => Nat.zero_le _)
    (Run.of_exec hexec) ⟨1⟩).1

end SelfRelay.Backend
