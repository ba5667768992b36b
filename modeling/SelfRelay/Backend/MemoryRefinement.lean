import SelfRelay.Backend.MemoryRepository
import SelfRelay.Backend.TransferConstraints

/-!
# The in-memory store refines the SQL store

The two stores generate different ids and take some timestamps from different clocks.  A map `f`
sends the ids of the SQL store to those of the in-memory store, and `Twins f` relates a row to its
counterpart.  Every in-memory call that may change a record amounts to one guarded replacement
(`memory_perform_of_arguments`), which `Table.update_twin` compares with the `UPDATE` of the SQL
store; the rows that such runs reach never violate a constraint.
-/

open StepSystem

namespace SelfRelay.Backend

open TransferStatus

/-! ## In-memory calls as guarded replacements -/

namespace InMemoryTransferRequestRepository

variable (store : InMemoryTransferRequestRepository) (now wall : Timestamp)

/-- The device repository, if there is one, knows an actor as active. -/
def available (account actor : Uuid) : Bool :=
  store.deviceRepository.all fun devices =>
    (getDevice devices account actor).any (·.status = .active)

/-- The condition of an in-memory call under the arguments of the SQL call. -/
def keeps (account : Uuid) (args : TransitionArguments) (record : TransferRequestRecord) : Bool :=
  record.userId = account && args.fromStatuses.contains record.status &&
    (if args.requireUnexpired then decide (now < record.expiresAt)
      else decide (record.expiresAt ≤ now)) &&
    args.actorDeviceId.all fun actor =>
      store.available account actor && ActorRole.holds record actor args.actorRole

variable {store now wall} {transfer : Uuid} {keeps₁ keeps₂ : TransferRequestRecord → Bool}
  {update : TransferRequestRecord → TransferRequestRecord}

theorem modify_congr (h : ∀ r ∈ Table.get TransferRequestRecord.id transfer store.records,
    keeps₁ r = keeps₂ r) :
    store.modify transfer keeps₁ update = store.modify transfer keeps₂ update := by
  unfold modify Table.modify
  cases hget : Table.get TransferRequestRecord.id transfer store.records with
  | none => rfl
  | some r => simp only [h r hget]

theorem modify_eq_none (h : ∀ r ∈ Table.get TransferRequestRecord.id transfer store.records,
    keeps₁ r = false) : store.modify transfer keeps₁ update = (store, none) := by
  unfold modify Table.modify
  cases hget : Table.get TransferRequestRecord.id transfer store.records with
  | none => rfl
  | some r => simp [h r hget]

theorem modify_eq_some {r : TransferRequestRecord}
    (hget : Table.get TransferRequestRecord.id transfer store.records = some r)
    (h : keeps₁ r = true) : store.modify transfer keeps₁ update =
      ({ store with records := Table.put TransferRequestRecord.id (update r) store.records },
        some (update r)) := by
  simp [modify, Table.modify, hget, h]

theorem ite_modify (c : Bool) :
    (if c then store.modify transfer keeps₁ update else (store, none)) =
      store.modify transfer (fun r => keeps₁ r && c) update := by
  cases c with
  | true => exact modify_congr fun r _ => (Bool.and_true _).symm
  | false => exact (modify_eq_none fun r _ => Bool.and_false _).symm

variable {account : Uuid}

theorem transitionStatus_eq {fromStatus toStatus : TransferStatus}
    (h : toStatus ∈ fromStatus.validTransitions) :
    store.transitionStatus now wall account transfer fromStatus toStatus =
      store.modify transfer (store.keeps now account (.ofStatuses fromStatus toStatus))
        (updatedRecord wall toStatus none) := by
  rw [transitionStatus, if_pos h]
  refine modify_congr fun r _ => ?_
  by_cases hto : toStatus = .expired <;>
    simp [keeps, TransitionArguments.ofStatuses, hto, Bool.and_assoc]

theorem actorTransition_eq {fromStatuses : List TransferStatus} {toStatus : TransferStatus}
    {actor : Uuid} {recipientOnly : Bool} {failureCode : Option String}
    {args : TransitionArguments} (hfrom : args.fromStatuses = fromStatuses)
    (hunexpired : args.requireUnexpired = true) (hactor : args.actorDeviceId = some actor)
    (hrole : args.actorRole = some (if recipientOnly then .recipient else .participant)) :
    store.actorTransition now wall account transfer fromStatuses toStatus actor recipientOnly
        failureCode =
      store.modify transfer (store.keeps now account args)
        (updatedRecord wall toStatus failureCode) := by
  rw [actorTransition, ite_modify]
  refine modify_congr fun r _ => ?_
  simp only [keeps, available, hfrom, hunexpired, hactor, hrole]
  cases recipientOnly <;>
    simp [ActorRole.holds, Bool.and_assoc, Bool.and_comm, Bool.and_left_comm, eq_comm]

/-- The offer that `expire` tries first is one of the records that `_expire_active` expires. -/
theorem expire_eq : store.expire now wall account transfer =
    store.modify transfer (store.keeps now account .ofExpire)
      (updatedRecord wall .expired none) := by
  have hkeeps : ∀ r, (decide (r.userId = account) && activeStatuses.contains r.status &&
      decide (r.expiresAt ≤ now)) = store.keeps now account .ofExpire r := by
    intro r
    simp [keeps, TransitionArguments.ofExpire]
  rw [expire, transitionStatus_eq (by decide)]
  by_cases hoffered : ∃ r ∈ Table.get TransferRequestRecord.id transfer store.records,
      store.keeps now account (.ofStatuses .offered .expired) r = true
  · obtain ⟨r, hget, hoffered⟩ := hoffered
    have hactive : store.keeps now account .ofExpire r = true := by
      simp only [keeps, TransitionArguments.ofStatuses, Bool.and_eq_true, decide_eq_true_eq,
        List.contains_iff_mem, List.mem_singleton] at hoffered
      obtain ⟨⟨⟨haccount, hstatus⟩, hexpiry⟩, -⟩ := hoffered
      rw [← hkeeps]
      simpa [haccount, hstatus, activeStatuses] using hexpiry
    rw [modify_eq_some hget hoffered, modify_eq_some hget hactive]
  · rw [modify_eq_none fun r hget => Bool.eq_false_iff.2 fun h => hoffered ⟨r, hget, h⟩]
    exact modify_congr fun r _ => hkeeps r

/-- The statuses that the loop of `fail` tries, one after the other, are tried at once. -/
theorem failFrom_eq {failureCode : String} {statuses : List TransferStatus}
    (hvalid : ∀ s ∈ statuses, .failed ∈ s.validTransitions) :
    failFrom now wall account transfer failureCode statuses store =
      store.modify transfer
        (fun r => r.userId = account && statuses.contains r.status && now < r.expiresAt)
        (updatedRecord wall .failed (some failureCode)) := by
  induction statuses with
  | nil => exact (modify_eq_none fun r _ => by simp).symm
  | cons status statuses ih =>
    rw [failFrom, transitionStatus_eq (hvalid status List.mem_cons_self)]
    have hkeeps : ∀ r, store.keeps now account (.ofStatuses status .failed) r = true ↔
        r.userId = account ∧ r.status = status ∧ now < r.expiresAt := by
      intro r
      simp [keeps, TransitionArguments.ofStatuses, and_assoc]
    by_cases hfirst : ∃ r ∈ Table.get TransferRequestRecord.id transfer store.records,
        store.keeps now account (.ofStatuses status .failed) r = true
    · obtain ⟨r, hget, hfirst⟩ := hfirst
      obtain ⟨haccount, hstatus, hexpiry⟩ := (hkeeps r).1 hfirst
      rw [modify_eq_some hget hfirst, modify_eq_some hget (by simp [haccount, hstatus, hexpiry])]
      -- the record is stored without the code first
      simp only [Table.put_put]
      rfl
    · rw [modify_eq_none fun r hget => Bool.eq_false_iff.2 fun h => hfirst ⟨r, hget, h⟩]
      refine (ih fun s hs => hvalid s (List.mem_cons_of_mem _ hs)).trans
        (modify_congr fun r hget => ?_)
      have hnot := fun h => hfirst ⟨r, hget, (hkeeps r).2 h⟩
      by_cases hstatus : r.status = status
      · have hno : ¬ (r.userId = account ∧ now < r.expiresAt) := fun h => hnot ⟨h.1, hstatus, h.2⟩
        by_cases haccount : r.userId = account
        · have hexpired : ¬ now < r.expiresAt := fun h => hno ⟨haccount, h⟩
          simp [hexpired]
        · simp [haccount]
      · simp [hstatus]

/-- Every in-memory call under the arguments of `_transition` is one guarded replacement. -/
theorem perform_eq_modify {op : TransferOperation} {args : TransitionArguments}
    (h : op.arguments? = some (transfer, args)) :
    store.perform now wall op =
      perform.returning (store.modify transfer (store.keeps now op.account args)
        (updatedRecord wall args.toStatus args.failureCode)) := by
  have hstatuses : ∀ {account transfer' fromStatus toStatus},
      TransferOperation.arguments?.ofStatuses? transfer' fromStatus toStatus =
        some (transfer, args) →
      store.transitionStatus now wall account transfer' fromStatus toStatus =
        store.modify transfer (store.keeps now account args)
          (updatedRecord wall args.toStatus args.failureCode) := by
    intro account transfer' fromStatus toStatus h
    obtain ⟨hvalid, rfl, rfl⟩ := arguments_ofStatuses h
    exact transitionStatus_eq hvalid
  cases op with
  | create | markRelayUsed => cases h
  | accept | reject | cancel =>
    cases h
    exact congrArg perform.returning (actorTransition_eq rfl rfl rfl rfl)
  | fail account transfer' failureCode actor =>
    cases h
    cases actor with
    | none =>
      refine congrArg perform.returning ((failFrom_eq (by decide)).trans ?_)
      exact modify_congr fun r _ => (Bool.and_true _).symm
    | some actor => exact congrArg perform.returning (actorTransition_eq rfl rfl rfl rfl)
  | expire =>
    cases h
    exact congrArg perform.returning expire_eq
  | markNegotiating | markConnected | markTransferring | complete =>
    exact congrArg perform.returning (hstatuses h)
  | transition account transfer' fromStatus toStatus =>
    simp only [TransferOperation.arguments?] at h
    simp only [perform, transition]
    generalize ofText? fromStatus = fromStatus?, ofText? toStatus = toStatus? at h ⊢
    cases fromStatus? with
    | none => cases h
    | some fromStatus =>
      cases toStatus? with
      | none => cases h
      | some toStatus => exact congrArg perform.returning (hstatuses h)

/-- A call that neither creates, nor marks the relay, nor has arguments of `_transition`. -/
theorem perform_eq_self {op : TransferOperation} (h : op.arguments? = none)
    (hcreate : ∀ account sender recipient version expiresAt id,
      op ≠ .create account sender recipient version expiresAt id)
    (hrelay : ∀ account transfer, op ≠ .markRelayUsed account transfer) :
    store.perform now wall op = (store, .ok none) := by
  have hstatuses : ∀ {account transfer fromStatus toStatus},
      TransferOperation.arguments?.ofStatuses? transfer fromStatus toStatus = none →
      store.transitionStatus now wall account transfer fromStatus toStatus = (store, none) := by
    intro account transfer fromStatus toStatus h
    unfold TransferOperation.arguments?.ofStatuses? at h
    split_ifs at h with hvalid
    exact if_neg hvalid
  cases op with
  | create => exact (hcreate _ _ _ _ _ _ rfl).elim
  | markRelayUsed => exact (hrelay _ _ rfl).elim
  | accept | reject | cancel | fail | expire => cases h
  | markNegotiating | markConnected | markTransferring | complete =>
    exact congrArg perform.returning (hstatuses h)
  | transition account transfer fromStatus toStatus =>
    simp only [TransferOperation.arguments?] at h
    simp only [perform, transition]
    generalize ofText? fromStatus = fromStatus?, ofText? toStatus = toStatus? at h ⊢
    cases fromStatus? with
    | none => rfl
    | some fromStatus =>
      cases toStatus? with
      | none => rfl
      | some toStatus => exact congrArg perform.returning (hstatuses h)

end InMemoryTransferRequestRepository

/-! ## Rows and their counterparts -/

/-- A row of the SQL store and its counterpart, up to ids and the values of timestamps. -/
structure Twins (f : Uuid → Uuid) (t m : TransferRequestRecord) : Prop where
  id : m.id = f t.id
  userId : m.userId = t.userId
  senderDeviceId : m.senderDeviceId = t.senderDeviceId
  recipientDeviceId : m.recipientDeviceId = t.recipientDeviceId
  protocolVersion : m.protocolVersion = t.protocolVersion
  status : m.status = t.status
  createdAt : m.createdAt = t.createdAt
  expiresAt : m.expiresAt = t.expiresAt
  acceptedAt : m.acceptedAt.isSome = t.acceptedAt.isSome
  completedAt : m.completedAt.isSome = t.completedAt.isSome
  failureCode : m.failureCode = t.failureCode
  relayUsed : m.relayUsed = t.relayUsed

/-- The same call of a store that generates other ids. -/
def TransferOperation.rename (f : Uuid → Uuid) : TransferOperation → TransferOperation
  | create account sender recipient version expiresAt id =>
    create account sender recipient version expiresAt (f id)
  | transition account transfer fromStatus toStatus =>
    transition account (f transfer) fromStatus toStatus
  | accept account transfer recipient => accept account (f transfer) recipient
  | reject account transfer recipient => reject account (f transfer) recipient
  | cancel account transfer actor => cancel account (f transfer) actor
  | markNegotiating account transfer => markNegotiating account (f transfer)
  | markConnected account transfer => markConnected account (f transfer)
  | markTransferring account transfer => markTransferring account (f transfer)
  | complete account transfer => complete account (f transfer)
  | fail account transfer failureCode actor => fail account (f transfer) failureCode actor
  | expire account transfer => expire account (f transfer)
  | markRelayUsed account transfer => markRelayUsed account (f transfer)

/-- The in-memory device repository knows the active devices of the database as active, and those
of one account in one epoch. -/
structure SameDevices (db : Database) (devices : List DeviceRecord) : Prop where
  active : ∀ account device, db.deviceActive account device = true →
    ∃ d, getDevice devices account device = some d ∧ d.status = .active
  epoch : ∀ account device d device' d', db.deviceActive account device = true →
    db.deviceActive account device' = true → getDevice devices account device = some d →
    getDevice devices account device' = some d' → d.epoch = d'.epoch

/-- What is known of a row: it satisfies the constraints, its times have passed, and its account and
devices are there. -/
structure RowOk (db : Database) (clock : Timestamp) (t : TransferRequestRecord) : Prop where
  check : t.check = true
  timely : t.Timely clock
  account : db.accountExists t.userId = true
  sender : db.deviceActive t.userId t.senderDeviceId = true
  recipient : db.deviceActive t.userId t.recipientDeviceId = true

/-- The two stores after a run. -/
structure Refines (f : Uuid → Uuid) (clock : Timestamp) (db : Database)
    (store : InMemoryTransferRequestRepository) : Prop where
  rows : List.Forall₂ (Twins f) db.transfers store.records
  keys : (db.transfers.map (·.id)).Nodup
  ok : ∀ t ∈ db.transfers, RowOk db clock t
  devices : ∀ devices ∈ store.deviceRepository, SameDevices db devices

/-- The calls that the two stores are compared on: offers between two distinct active devices, in
protocol version 1, that expire in the future and get a new id; transitions that do not fail; and
failures with a code of 1 to 64 characters. -/
def TransferOperation.Admitted (db : Database) (now : Timestamp) : TransferOperation → Prop
  | create account sender recipient version expiresAt id =>
    db.accountExists account = true ∧ db.deviceActive account sender = true ∧
      db.deviceActive account recipient = true ∧ sender ≠ recipient ∧ version = 1 ∧
      now < expiresAt ∧ id ∉ db.transfers.map (·.id)
  | transition _ _ _ toStatus => toStatus ≠ "failed"
  | fail _ _ failureCode _ => 1 ≤ failureCode.length ∧ failureCode.length ≤ 64
  | _ => True

section Arguments

variable {f : Uuid → Uuid} {op : TransferOperation} {transfer : Uuid} {args : TransitionArguments}

theorem account_rename : (op.rename f).account = op.account := by
  cases op <;> rfl

theorem ofStatuses?_map {fromStatus toStatus : TransferStatus} :
    TransferOperation.arguments?.ofStatuses? (f transfer) fromStatus toStatus =
      (TransferOperation.arguments?.ofStatuses? transfer fromStatus toStatus).map
        (Prod.map f id) := by
  unfold TransferOperation.arguments?.ofStatuses?
  split_ifs <;> rfl

theorem arguments?_rename : (op.rename f).arguments? = op.arguments?.map (Prod.map f id) := by
  cases op with
  | create | markRelayUsed | accept | reject | cancel | fail | expire => rfl
  | markNegotiating | markConnected | markTransferring | complete => exact ofStatuses?_map
  | transition account transfer fromStatus toStatus =>
    simp only [TransferOperation.rename, TransferOperation.arguments?]
    split
    · exact ofStatuses?_map
    · rfl

/-- What an operation passes as the code and the role. -/
theorem arguments_code (h : op.arguments? = some (transfer, args)) :
    (args.toStatus ≠ .failed → args.failureCode = none) ∧
      (args.actorDeviceId.isSome = true → args.actorRole.isSome = true) := by
  have hstatuses : ∀ {transfer' fromStatus toStatus},
      TransferOperation.arguments?.ofStatuses? transfer' fromStatus toStatus =
        some (transfer, args) →
      (args.toStatus ≠ .failed → args.failureCode = none) ∧
        (args.actorDeviceId.isSome = true → args.actorRole.isSome = true) := by
    intro transfer' fromStatus toStatus h
    obtain ⟨-, -, rfl⟩ := arguments_ofStatuses h
    exact ⟨fun _ => rfl, fun hactor => hactor⟩
  cases op with
  | create | markRelayUsed => cases h
  | accept | reject | cancel | expire =>
    cases h
    exact ⟨fun _ => rfl, fun _ => by first | rfl | contradiction⟩
  | fail =>
    cases h
    exact ⟨fun hto => (hto rfl).elim, fun _ => rfl⟩
  | markNegotiating | markConnected | markTransferring | complete => exact hstatuses h
  | transition account transfer' fromStatus toStatus =>
    simp only [TransferOperation.arguments?] at h
    split at h
    · exact hstatuses h
    · cases h

/-- An admitted operation that fails a transfer does so with a code that the table takes. -/
theorem arguments_failureCodeOk {db : Database} {now : Timestamp}
    (h : op.arguments? = some (transfer, args)) (hadmitted : op.Admitted db now)
    (hto : args.toStatus = .failed) : failureCodeOk args.failureCode = true := by
  cases op with
  | create | markRelayUsed => cases h
  | accept | reject | cancel | expire =>
    cases h
    cases hto
  | fail =>
    cases h
    simpa [failureCodeOk, TransitionArguments.ofFail, TransferOperation.Admitted] using hadmitted
  | markNegotiating | markConnected | markTransferring | complete =>
    obtain ⟨-, -, rfl⟩ := arguments_ofStatuses h
    cases hto
  | transition account transfer' fromStatus toStatus =>
    simp only [TransferOperation.arguments?] at h
    split at h
    case h_1 hfrom hto' =>
      obtain ⟨-, -, rfl⟩ := arguments_ofStatuses h
      obtain rfl : _ = TransferStatus.failed := hto
      exact (hadmitted (text_of_ofText? hto').symm).elim
    case h_2 => cases h

end Arguments

section Rows

variable {f : Uuid → Uuid} {now wall : Timestamp} {t m : TransferRequestRecord}

theorem twins_set {args : TransitionArguments} (h : Twins f t m)
    (hcode : args.toStatus ≠ .failed → args.failureCode = none) :
    Twins f (args.set now t)
      (InMemoryTransferRequestRepository.updatedRecord wall args.toStatus args.failureCode m) := by
  obtain ⟨hid, huser, hsender, hrecipient, hversion, -, hcreated, hexpires, haccepted,
    hcompleted, -,
    hrelay⟩ := h
  refine ⟨hid, huser, hsender, hrecipient, hversion, rfl, hcreated, hexpires, ?_, ?_, ?_, hrelay⟩
  · simp only [InMemoryTransferRequestRepository.updatedRecord, TransitionArguments.set]
    by_cases hm : m.acceptedAt.isSome = true
    · rw [if_pos hm]
      split_ifs <;> simp [← haccepted, hm]
    · rw [if_neg hm]
      split_ifs <;> simp [← haccepted, hm]
  · simp only [InMemoryTransferRequestRepository.updatedRecord, TransitionArguments.set]
    split_ifs
    · rfl
    · exact hcompleted
  · simp only [InMemoryTransferRequestRepository.updatedRecord, TransitionArguments.set]
    split_ifs with hto
    · rfl
    · exact hcode hto

theorem RowOk.mono {db : Database} {clock : Timestamp} (h : RowOk db clock t)
    (hclock : clock ≤ now) :
    RowOk db now t :=
  ⟨h.check, ⟨Nat.le_trans h.timely.created hclock, fun time htime =>
    Nat.le_trans (h.timely.accepted time htime) hclock⟩, h.account, h.sender, h.recipient⟩

/-! Neither depends on the transfers. -/

theorem RowOk.of_transfers {db : Database} {clock : Timestamp} (h : RowOk db clock t)
    (transfers : List TransferRequestRecord) : RowOk { db with transfers } clock t :=
  ⟨h.check, h.timely, h.account, h.sender, h.recipient⟩

theorem SameDevices.of_transfers {db : Database} {devices : List DeviceRecord}
    (h : SameDevices db devices) (transfers : List TransferRequestRecord) :
    SameDevices { db with transfers } devices :=
  ⟨h.active, h.epoch⟩

end Rows

/-! ## Calls -/

/-- Two calls returned, with the same outcome, and left the stores related. -/
structure CallRefines (f : Uuid → Uuid) (now : Timestamp) (sql : Database × TransferResult)
    (memory : InMemoryTransferRequestRepository × MemoryResult) : Prop where
  result : ∃ a b, sql.2 = .ok a ∧ memory.2 = .ok b ∧ Option.Rel (Twins f) a b
  stores : Refines f now sql.1 memory.1

section Calls

variable {f : Uuid → Uuid} {clock now wall : Timestamp} {db : Database}
  {store : InMemoryTransferRequestRepository} {transfer : Uuid}

theorem Refines.mono (h : Refines f clock db store) (hclock : clock ≤ now) :
    Refines f now db store :=
  ⟨h.rows, h.keys, fun t ht => (h.ok t ht).mono hclock, h.devices⟩

theorem Refines.unchanged (h : Refines f now db store) : CallRefines f now (db, .ok none)
      (store, .ok none) :=
  ⟨⟨none, none, rfl, rfl, .none⟩, h⟩

/-- An `UPDATE` of one row and a replacement of its counterpart. -/
theorem refines_update (h : Refines f now db store) (hf : Function.Injective f)
    {selected : TransferRequestRecord → Bool} {set : TransferRequestRecord → TransferRequestRecord}
    {keeps : TransferRequestRecord → Bool} {update : TransferRequestRecord → TransferRequestRecord}
    (hselected : ∀ t, selected t = true → t.id = transfer)
    (hkeeps : ∀ t ∈ db.transfers, ∀ m, Twins f t m → t.id = transfer → selected t = keeps m)
    (hset : ∀ t ∈ db.transfers, ∀ m, Twins f t m → selected t = true → Twins f (set t) (update m))
    (hok : ∀ t ∈ db.transfers, selected t = true → RowOk db now (set t))
    (hid : ∀ t, (set t).id = t.id) (hupdate : ∀ m, (update m).id = m.id) :
    CallRefines f now (db.updateTransfers selected set)
      (InMemoryTransferRequestRepository.perform.returning
        (store.modify (f transfer) keeps update)) := by
  have hsql : db.updateTransfers selected set =
      ({ db with transfers := Table.updated selected set db.transfers },
        .ok (Table.written selected set db.transfers).head?) := by
    rw [Database.updateTransfers,
      Table.update_eq_ok.2 ⟨fun t ht hsel => (hok t ht hsel).check, rfl, rfl⟩]
  obtain ⟨hrows, hresult⟩ :=
    Table.update_twin (fun _ _ htwins => htwins.id) hf h.keys h.rows hselected
    hkeeps hset hupdate
  rw [hsql]
  refine ⟨⟨_, _, rfl, rfl, hresult⟩, hrows, ?_, ?_, fun devices hdevices =>
    (h.devices devices hdevices).of_transfers _⟩
  · change ((Table.updated selected set db.transfers).map (·.id)).Nodup
    rw [Table.map_updated hid]
    exact h.keys
  · intro t' ht'
    obtain ⟨t, ht, hsel, rfl⟩ | ⟨ht, -⟩ := Table.mem_updated.1 ht'
    · exact (hok t ht hsel).of_transfers _
    · exact (h.ok t' ht).of_transfers _

/-- A participant of a row is active in the database, and known to the device repository. -/
theorem Refines.available (h : Refines f now db store) {account actor : Uuid}
    (hactive : db.deviceActive account actor = true) : store.available account actor = true := by
  rw [InMemoryTransferRequestRepository.available, Option.all_eq_true]
  intro devices hdevices
  obtain ⟨d, hd, hstatus⟩ := (h.devices devices hdevices).active account actor hactive
  simp [hd, hstatus]

theorem RowOk.actor {t : TransferRequestRecord} (h : RowOk db clock t) {actor : Uuid}
    {role : ActorRole} (hholds : ActorRole.holds t actor (some role) = true) :
    db.deviceActive t.userId actor = true := by
  cases role with
  | recipient =>
    rw [ActorRole.holds_recipient.1 hholds]
    exact h.recipient
  | participant =>
    obtain rfl | rfl := ActorRole.holds_participant.1 hholds
    · exact h.sender
    · exact h.recipient

theorem Twins.holds {t m : TransferRequestRecord} (h : Twins f t m) (actor : Uuid)
    (role : Option ActorRole) : ActorRole.holds m actor role = ActorRole.holds t actor role := by
  unfold ActorRole.holds
  rw [h.recipientDeviceId, h.senderDeviceId]

/-- The two conditions under the same arguments. -/
theorem Refines.keeps_eq (h : Refines f now db store) {args : TransitionArguments} {account : Uuid}
    (hrole : args.actorDeviceId.isSome = true → args.actorRole.isSome = true)
    {t m : TransferRequestRecord} (ht : t ∈ db.transfers) (htwins : Twins f t m)
    (hid : t.id = transfer) :
    args.selects db now account transfer t = store.keeps now account args m := by
  have haccount := (h.ok t ht).account
  rw [Bool.eq_iff_iff, TransitionArguments.selects_iff]
  simp only [InMemoryTransferRequestRepository.keeps, Bool.and_eq_true, decide_eq_true_eq,
    List.contains_iff_mem, Option.all_eq_true, htwins.userId, htwins.status, htwins.expiresAt,
    htwins.holds, and_assoc]
  constructor
  · rintro ⟨rfl, -, hstatus, hexpiry, -, hactor⟩
    refine ⟨rfl, hstatus, ?_, fun actor hmem => ⟨h.available (hactor actor hmem).1,
      (hactor actor hmem).2⟩⟩
    split_ifs at hexpiry ⊢
    · exact decide_eq_true hexpiry
    · exact decide_eq_true hexpiry
  · rintro ⟨rfl, hstatus, hexpiry, hactor⟩
    refine ⟨rfl, hid, hstatus, ?_, haccount, fun actor hmem => ⟨?_, (hactor actor hmem).2⟩⟩
    · split_ifs at hexpiry ⊢
      · exact of_decide_eq_true hexpiry
      · exact of_decide_eq_true hexpiry
    · obtain ⟨role, hrole⟩ := Option.isSome_iff_exists.1 (hrole (Option.isSome_of_mem hmem))
      have hholds := (hactor actor hmem).2
      rw [hrole] at hholds
      exact (h.ok t ht).actor hholds

/-- A call that is a `_transition`. -/
theorem refines_arguments (h : Refines f now db store) (hf : Function.Injective f)
    {op : TransferOperation} {args : TransitionArguments}
    (harguments : op.arguments? = some (transfer, args)) (hadmitted : op.Admitted db now) :
    CallRefines f now (TransferRequestRepository.perform db now op)
      (store.perform now wall (op.rename f)) := by
  have hrename : (op.rename f).arguments? = some (f transfer, args) := by
    rw [arguments?_rename, harguments]
    rfl
  obtain ⟨hcode, hrole⟩ := arguments_code harguments
  obtain ⟨hvalid, -⟩ := arguments_valid harguments
  rw [perform_of_arguments harguments,
    InMemoryTransferRequestRepository.perform_eq_modify hrename, account_rename]
  refine refines_update h hf ?_ (fun t ht m htwins hid => h.keeps_eq hrole ht htwins hid)
    (fun t _ m htwins _ => twins_set htwins hcode) ?_ (fun _ => rfl) (fun _ => rfl)
  · intro t hselected
    exact (TransitionArguments.selects_iff.1 hselected).2.1
  · intro t ht hselected
    obtain ⟨-, -, hstatus, -⟩ := TransitionArguments.selects_iff.1 hselected
    have hok := h.ok t ht
    refine ⟨(check_set hok.check hok.timely (hvalid _ hstatus)).2 ?_,
      timely_set hok.check hok.timely,
      hok.account, hok.sender, hok.recipient⟩
    exact arguments_failureCodeOk harguments hadmitted

/-- `mark_relay_used` -/
theorem refines_markRelayUsed (h : Refines f now db store) (hf : Function.Injective f)
    (account transfer : Uuid) :
    CallRefines f now (TransferRequestRepository.perform db now (.markRelayUsed account transfer))
      (store.perform now wall (.markRelayUsed account (f transfer))) := by
  refine refines_update h hf ?_ ?_ ?_ ?_ (fun _ => rfl) (fun _ => rfl)
  · intro t hselected
    exact (rowLaw_markRelayUsed hselected).2.2.1
  · intro t ht m htwins hid
    simp [TransferRequestRepository.relaySelects, htwins.userId, htwins.status,
      htwins.expiresAt, hid,
      (h.ok t ht).account]
  · intro t _ m htwins _
    obtain ⟨hid, huser, hsender, hrecipient, hversion, hstatus, hcreated, hexpires, haccepted,
      hcompleted, hcode, -⟩ := htwins
    exact ⟨hid, huser, hsender, hrecipient, hversion, hstatus, hcreated, hexpires, haccepted,
      hcompleted, hcode, rfl⟩
  · intro t ht _
    have hok := h.ok t ht
    exact ⟨hok.check, ⟨hok.timely.created, hok.timely.accepted⟩, hok.account, hok.sender,
      hok.recipient⟩

/-- `create` -/
theorem refines_create (h : Refines f now db store) (hf : Function.Injective f)
    {account sender recipient : Uuid} {version : ℤ} {expiresAt : Timestamp} {id : Uuid}
    (hadmitted : TransferOperation.Admitted db now
      (.create account sender recipient version expiresAt id)) :
    CallRefines f now
      (TransferRequestRepository.perform db now
        (.create account sender recipient version expiresAt id))
      (store.perform now wall (.create account sender recipient version expiresAt (f id))) := by
  obtain ⟨haccount, hsender, hrecipient, hne, rfl, hexpiry, hid⟩ := hadmitted
  let record (id : Uuid) : TransferRequestRecord := {
    id
    userId := account
    senderDeviceId := sender
    recipientDeviceId := recipient
    protocolVersion := 1
    status := .offered
    createdAt := now
    expiresAt
    acceptedAt := none
    completedAt := none
    failureCode := none
    relayUsed := false }
  have hcheck : (record id).check = true := by
    simp [TransferRequestRecord.check, record, hne, hexpiry]
  have hsql : TransferRequestRepository.perform db now
        (.create account sender recipient 1 expiresAt id) =
      ({ db with transfers := db.transfers ++ [record id] }, .ok (some (record id))) := by
    simp only [TransferRequestRepository.perform, TransferRequestRepository.create]
    rw [if_pos (by simp [haccount, hsender, hrecipient, hne]),
      Table.insert_eq_ok.2 ⟨hcheck, hid, rfl⟩]
  have hmemory : store.perform now wall (.create account sender recipient 1 expiresAt (f id)) =
      ({ store with records := store.records ++ [record (f id)] }, .ok (some (record (f id)))) := by
    have hnew : f id ∉ store.records.map (·.id) := by
      rw [Table.map_key_of_forall₂ (fun _ _ htwins => Twins.id htwins) h.rows,
        List.mem_map_of_injective hf]
      exact hid
    have havailable : store.deviceRepository.any
        (InMemoryTransferRequestRepository.create.unavailable account sender recipient) =
            false := by
      rw [Option.any_eq_false]
      intro devices hdevices
      obtain ⟨d, hd, hactive⟩ := (h.devices devices hdevices).active account sender hsender
      obtain ⟨d', hd', hactive'⟩ := (h.devices devices hdevices).active account recipient hrecipient
      have hepoch := (h.devices devices hdevices).epoch account sender d recipient d' hsender
        hrecipient hd hd'
      simp [InMemoryTransferRequestRepository.create.unavailable, hd, hd', hactive,
        hactive', hepoch]
    simp only [InMemoryTransferRequestRepository.perform, InMemoryTransferRequestRepository.create]
    rw [if_neg hne, if_neg (by simp [havailable]), Table.put_of_not_mem hnew]
  have htwins : Twins f (record id) (record (f id)) :=
    ⟨rfl, rfl, rfl, rfl, rfl, rfl, rfl, rfl, rfl, rfl, rfl, rfl⟩
  rw [hsql, hmemory]
  refine ⟨⟨_, _, rfl, rfl, .some htwins⟩, List.rel_append h.rows (.cons htwins .nil), ?_, ?_,
    fun devices hdevices => (h.devices devices hdevices).of_transfers _⟩
  · change ((db.transfers ++ [record id]).map (·.id)).Nodup
    rw [List.map_append, List.nodup_append]
    refine ⟨h.keys, List.nodup_singleton _, ?_⟩
    intro k hk k' hk' heq
    obtain rfl := List.mem_singleton.1 hk'
    exact hid (heq ▸ hk)
  · intro t ht
    obtain ht | ht := List.mem_append.1 ht
    · exact (h.ok t ht).of_transfers _
    · obtain rfl := List.mem_singleton.1 ht
      exact ⟨hcheck, ⟨Nat.le_refl now, by rintro _ ⟨⟩⟩, haccount, hsender, hrecipient⟩

/-- One admitted call. -/
theorem refines_perform (h : Refines f clock db store) (hf : Function.Injective f)
    (hclock : clock ≤ now) {op : TransferOperation} (hadmitted : op.Admitted db now) :
    CallRefines f now (TransferRequestRepository.perform db now op)
      (store.perform now wall (op.rename f)) := by
  have h := h.mono hclock
  by_cases hcreate : ∃ account sender recipient version expiresAt id,
      op = .create account sender recipient version expiresAt id
  · obtain ⟨account, sender, recipient, version, expiresAt, id, rfl⟩ := hcreate
    exact refines_create h hf hadmitted
  by_cases hrelay : ∃ account transfer, op = .markRelayUsed account transfer
  · obtain ⟨account, transfer, rfl⟩ := hrelay
    exact refines_markRelayUsed h hf account transfer
  cases harguments : op.arguments? with
  | none =>
    rw [perform_of_no_arguments harguments
        (fun account sender recipient version expiresAt id heq =>
          hcreate ⟨account, sender, recipient, version, expiresAt, id, heq⟩)
        (fun account transfer heq => hrelay ⟨account, transfer, heq⟩),
      InMemoryTransferRequestRepository.perform_eq_self
        (by rw [arguments?_rename, harguments]; rfl)]
    · exact h.unchanged
    · intro account sender recipient version expiresAt id heq
      cases op <;> cases heq
      exact hcreate ⟨_, _, _, _, _, _, rfl⟩
    · intro account transfer heq
      cases op <;> cases heq
      exact hrelay ⟨_, _, rfl⟩
  | some arguments => exact refines_arguments h hf harguments hadmitted

end Calls

/-! ## Runs -/

/-- A call made to both stores: the reading of the clock, and of `datetime.now`. -/
structure StoreCall where
  now : Timestamp
  wall : Timestamp
  op : TransferOperation

/-- The two stores, and the last reading of the clock. -/
structure Stores where
  clock : Timestamp
  sql : Database
  memory : InMemoryTransferRequestRepository

/-- One call after the other, with a clock that does not go back. -/
def Stores.Step (f : Uuid → Uuid) (s : Stores) (call : StoreCall) (s' : Stores) : Prop :=
  s.clock ≤ call.now ∧ call.op.Admitted s.sql call.now ∧
    s' = {
      clock := call.now
      sql := (TransferRequestRepository.perform s.sql call.now call.op).1
      memory := (s.memory.perform call.now call.wall (call.op.rename f)).1 }

/-- After every run of admitted calls from two empty stores, the next admitted call returns from
both, with `None` from both or with records that agree in all fields but their ids and the values of
timestamps. -/
theorem memory_refines_sql {f : Uuid → Uuid} (hf : Function.Injective f) {s s' : Stores}
    {calls : List StoreCall} (hsql : s.sql.transfers = []) (hmemory : s.memory.records = [])
    (hdevices : ∀ devices ∈ s.memory.deviceRepository, SameDevices s.sql devices)
    (hrun : Run (Stores.Step f) s calls s') {call : StoreCall} (hclock : s'.clock ≤ call.now)
    (hadmitted : call.op.Admitted s'.sql call.now) :
    ∃ a b, (TransferRequestRepository.perform s'.sql call.now call.op).2 = .ok a ∧
      (s'.memory.perform call.now call.wall (call.op.rename f)).2 = .ok b ∧
      Option.Rel (Twins f) a b := by
  have hrefines : Refines f s'.clock s'.sql s'.memory := by
    refine hrun.invariant (I := fun s => Refines f s.clock s.sql s.memory) ?_ ?_
    · refine ⟨by rw [hsql, hmemory]; exact .nil, by rw [hsql]; exact List.nodup_nil, ?_, hdevices⟩
      intro t ht
      rw [hsql] at ht
      cases ht
    · rintro s call _ h ⟨hclock, hadmitted, rfl⟩
      exact (refines_perform h hf hclock hadmitted).stores
  exact (refines_perform hrefines hf hclock hadmitted).result

/-- The account of `offeredDatabase` before its offer, with the same devices in memory. -/
def emptyStores : Stores where
  clock := 1
  sql := { offeredDatabase with transfers := [] }
  memory := { records := [], deviceRepository := some offeredDatabase.devices }

theorem sameDevices_emptyStores : SameDevices emptyStores.sql offeredDatabase.devices := by
  have hactive : ∀ account device, emptyStores.sql.deviceActive account device = true →
      account = ⟨1⟩ ∧ (device = ⟨2⟩ ∨ device = ⟨3⟩) := by
    intro account device h
    simp only [emptyStores, Database.deviceActive, offeredDatabase, offeredDatabase.device,
      List.any_cons, List.any_nil, Bool.or_false, Bool.or_eq_true, Bool.and_eq_true,
      decide_eq_true_eq] at h
    obtain ⟨⟨⟨⟨⟨-, h⟩, h'⟩, -⟩, -⟩, -⟩ | ⟨⟨⟨⟨⟨-, h⟩, h'⟩, -⟩, -⟩, -⟩ := h
    · exact ⟨h'.symm, .inl h.symm⟩
    · exact ⟨h'.symm, .inr h.symm⟩
  constructor
  · intro account device h
    obtain ⟨rfl, rfl | rfl⟩ := hactive account device h
    · exact ⟨_, rfl, rfl⟩
    · exact ⟨_, rfl, rfl⟩
  · intro account device d device' d' h h' hd hd'
    obtain ⟨rfl, rfl | rfl⟩ := hactive account device h <;>
      obtain ⟨-, rfl | rfl⟩ := hactive _ device' h' <;> cases hd <;> cases hd' <;> rfl

/-- An offer, its acceptance and its failure; the in-memory ids are the SQL ids plus one. -/
theorem memory_refines_sql_failed :
    let f : Uuid → Uuid := fun id => ⟨id.value + 1⟩
    let offer : StoreCall := ⟨2, 20, .create ⟨1⟩ ⟨2⟩ ⟨3⟩ 1 9 ⟨4⟩⟩
    let accept : StoreCall := ⟨3, 30, .accept ⟨1⟩ ⟨4⟩ ⟨3⟩⟩
    let next (s : Stores) (call : StoreCall) : Stores := {
      clock := call.now
      sql := (TransferRequestRepository.perform s.sql call.now call.op).1
      memory := (s.memory.perform call.now call.wall (call.op.rename f)).1 }
    let s := next (next emptyStores offer) accept
    s.sql.transfers.map (·.status) = [.accepted] ∧
      ∃ a b, (TransferRequestRepository.perform s.sql 5 (.fail ⟨1⟩ ⟨4⟩ "lost" none)).2 = .ok a ∧
        (s.memory.perform 5 50 (.fail ⟨1⟩ ⟨5⟩ "lost" none)).2 = .ok b ∧
        Option.Rel (Twins f) a b := by
  intro f offer accept next s
  have hf : Function.Injective f := by
    rintro ⟨a⟩ ⟨b⟩ h
    have h : a + 1 = b + 1 := congrArg Uuid.value h
    rw [(BitVec.add_left_inj 1).1 h]
  have hrun : Run (Stores.Step f) emptyStores [offer, accept] s :=
    .cons ⟨by decide, ⟨by decide, by decide, by decide, by decide, rfl, by decide, by decide⟩, rfl⟩
      (.cons ⟨by decide, trivial, rfl⟩ (.nil _))
  let fail : StoreCall := ⟨5, 50, .fail ⟨1⟩ ⟨4⟩ "lost" none⟩
  have hclock : s.clock ≤ fail.now := by decide
  have hadmitted : fail.op.Admitted s.sql fail.now := ⟨by decide, by decide⟩
  refine ⟨by decide, memory_refines_sql hf rfl rfl ?_ hrun hclock hadmitted⟩
  rintro _ ⟨⟩
  exact sameDevices_emptyStores

end SelfRelay.Backend
