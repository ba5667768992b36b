import Mathlib.Data.List.Nodup
import Mathlib.Logic.Relation
import SelfRelay.Backend.TransferRepository
import SelfRelay.Lib.Run

/-!
# The life of a transfer request

Every write operation but `create` is one guarded `UPDATE` (`perform_eq`), and what such an update
may do to a row is `RowLaw`: the status moves along `_VALID_TRANSITIONS`, for an actor that the
operation admits and on the right side of the expiry, and rows of other accounts stay as they are.
From this follows, for every run in which calls of the repository alternate with arbitrary changes
of the other tables, that the statuses of a row form a path of valid transitions.
-/

open StepSystem

namespace SelfRelay.Backend

open TransferStatus

/-! ## Operations as statements -/

namespace TransferOperation

/-- The account that an operation is called with. -/
def account : TransferOperation → Uuid
  | create account .. | transition account .. | accept account .. | reject account ..
  | cancel account .. | markNegotiating account .. | markConnected account ..
  | markTransferring account .. | complete account .. | fail account .. | expire account ..
  | markRelayUsed account .. => account

/-- The transfer that an operation is called for. -/
def transfer? : TransferOperation → Option Uuid
  | create .. => none
  | transition _ transfer .. | accept _ transfer .. | reject _ transfer .. | cancel _ transfer ..
  | markNegotiating _ transfer | markConnected _ transfer | markTransferring _ transfer
  | complete _ transfer | fail _ transfer .. | expire _ transfer | markRelayUsed _ transfer =>
    some transfer

/-- The transfer and the arguments with which an operation calls `_transition`, if it does. -/
def arguments? : TransferOperation → Option (Uuid × TransitionArguments)
  | create .. | markRelayUsed .. => none
  | transition _ transfer fromStatus toStatus =>
    match ofText? fromStatus, ofText? toStatus with
    | some fromStatus, some toStatus => ofStatuses? transfer fromStatus toStatus
    | _, _ => none
  | accept _ transfer recipient => some (transfer, .ofAccept recipient)
  | reject _ transfer recipient => some (transfer, .ofReject recipient)
  | cancel _ transfer actor => some (transfer, .ofCancel actor)
  | markNegotiating _ transfer => ofStatuses? transfer .accepted .negotiating
  | markConnected _ transfer => ofStatuses? transfer .negotiating .connected
  | markTransferring _ transfer => ofStatuses? transfer .connected .transferring
  | complete _ transfer => ofStatuses? transfer .transferring .completed
  | fail _ transfer failureCode actor => some (transfer, .ofFail failureCode actor)
  | expire _ transfer => some (transfer, .ofExpire)
where
  ofStatuses? (transfer : Uuid) (fromStatus toStatus : TransferStatus) :
      Option (Uuid × TransitionArguments) :=
    if toStatus ∈ fromStatus.validTransitions then
      some (transfer, .ofStatuses fromStatus toStatus)
    else none

/-- What an operation asks of its actor. -/
def Authorized (db : Database) (t : TransferRequestRecord) : TransferOperation → Prop
  | accept _ _ actor | reject _ _ actor =>
    actor = t.recipientDeviceId ∧ db.deviceActive t.userId actor = true
  | cancel _ _ actor | fail _ _ _ (some actor) =>
    (actor = t.senderDeviceId ∨ actor = t.recipientDeviceId) ∧
      db.deviceActive t.userId actor = true
  | _ => True

end TransferOperation

section Statements

variable {db : Database} {now : Timestamp} {op : TransferOperation}

/-- A text that names a status is its text. -/
theorem text_of_ofText? {value : String} {status : TransferStatus}
    (h : ofText? value = some status) :
    status.text = value := by
  simpa using List.find?_some h

/-- What the `WHERE` clause of `_transition` says about a row. -/
theorem TransitionArguments.selects_iff {args : TransitionArguments} {account transfer : Uuid}
    {t : TransferRequestRecord} : args.selects db now account transfer t = true ↔
      t.userId = account ∧ t.id = transfer ∧ t.status ∈ args.fromStatuses ∧
        (if args.requireUnexpired then now < t.expiresAt else t.expiresAt ≤ now) ∧
        db.accountExists t.userId = true ∧ ∀ actor ∈ args.actorDeviceId,
          db.deviceActive t.userId actor = true ∧
            ActorRole.holds t actor args.actorRole = true := by
  simp only [selects, Bool.and_eq_true, decide_eq_true_eq, List.contains_iff_mem, and_assoc,
    Option.all_eq_true, Option.mem_def]
  cases args.requireUnexpired <;> simp

theorem arguments_ofStatuses {transfer transfer' : Uuid} {fromStatus toStatus : TransferStatus}
    {args : TransitionArguments}
    (h : TransferOperation.arguments?.ofStatuses? transfer fromStatus toStatus =
      some (transfer', args)) :
    toStatus ∈ fromStatus.validTransitions ∧ transfer' = transfer ∧
      args = .ofStatuses fromStatus toStatus := by
  unfold TransferOperation.arguments?.ofStatuses? at h
  split_ifs at h with hvalid
  cases h
  exact ⟨hvalid, rfl, rfl⟩

theorem transfer?_of_arguments {transfer : Uuid} {args : TransitionArguments}
    (h : op.arguments? = some (transfer, args)) : op.transfer? = some transfer := by
  cases op with
  | create | markRelayUsed => cases h
  | accept | reject | cancel | fail | expire =>
    cases h
    rfl
  | markNegotiating | markConnected | markTransferring | complete =>
    obtain ⟨-, rfl, -⟩ := arguments_ofStatuses h
    rfl
  | transition account transfer' fromStatus toStatus =>
    simp only [TransferOperation.arguments?] at h
    split at h
    · obtain ⟨-, rfl, -⟩ := arguments_ofStatuses h
      rfl
    · cases h

/-- An operation that calls `_transition` is that update. -/
theorem perform_of_arguments {transfer : Uuid} {args : TransitionArguments}
    (h : op.arguments? = some (transfer, args)) :
    TransferRequestRepository.perform db now op =
      runTransition db now op.account transfer args := by
  have hstatuses : ∀ {account transfer' fromStatus toStatus},
      TransferOperation.arguments?.ofStatuses? transfer' fromStatus toStatus =
        some (transfer, args) →
      TransferRequestRepository.transitionStatus db now account transfer' fromStatus toStatus =
        runTransition db now account transfer args := by
    intro account transfer' fromStatus toStatus h
    obtain ⟨hvalid, rfl, rfl⟩ := arguments_ofStatuses h
    exact if_pos hvalid
  cases op with
  | create | markRelayUsed => cases h
  | accept | reject | cancel | fail | expire =>
    cases h
    rfl
  | markNegotiating | markConnected | markTransferring | complete => exact hstatuses h
  | transition account transfer' fromStatus toStatus =>
    simp only [TransferOperation.arguments?] at h
    simp only [TransferRequestRepository.perform, TransferRequestRepository.transition]
    generalize ofText? fromStatus = fromStatus?, ofText? toStatus = toStatus? at h ⊢
    cases fromStatus? with
    | none => cases h
    | some fromStatus =>
      cases toStatus? with
      | none => cases h
      | some toStatus => exact hstatuses h

/-- An operation that neither creates, nor marks the relay, nor calls
`_transition`, does nothing. -/
theorem perform_of_no_arguments (h : op.arguments? = none)
    (hcreate : ∀ account sender recipient version expiresAt id,
      op ≠ .create account sender recipient version expiresAt id)
    (hrelay : ∀ account transfer, op ≠ .markRelayUsed account transfer) :
    TransferRequestRepository.perform db now op = (db, .ok none) := by
  have hstatuses : ∀ {account transfer fromStatus toStatus},
      TransferOperation.arguments?.ofStatuses? transfer fromStatus toStatus = none →
      TransferRequestRepository.transitionStatus db now account transfer fromStatus toStatus =
        (db, .ok none) := by
    intro account transfer fromStatus toStatus h
    unfold TransferOperation.arguments?.ofStatuses? at h
    split_ifs at h with hvalid
    exact if_neg hvalid
  cases op with
  | create => exact (hcreate _ _ _ _ _ _ rfl).elim
  | markRelayUsed => exact (hrelay _ _ rfl).elim
  | accept | reject | cancel | fail | expire => cases h
  | markNegotiating | markConnected | markTransferring | complete => exact hstatuses h
  | transition account transfer fromStatus toStatus =>
    simp only [TransferOperation.arguments?] at h
    simp only [TransferRequestRepository.perform, TransferRequestRepository.transition]
    generalize ofText? fromStatus = fromStatus?, ofText? toStatus = toStatus? at h ⊢
    cases fromStatus? with
    | none => rfl
    | some fromStatus =>
      cases toStatus? with
      | none => rfl
      | some toStatus => exact hstatuses h

/-- Every operation moves along `_VALID_TRANSITIONS`, and asks for an expired row exactly when it
expires it. -/
theorem arguments_valid {transfer : Uuid} {args : TransitionArguments}
    (h : op.arguments? = some (transfer, args)) :
    (∀ s ∈ args.fromStatuses, args.toStatus ∈ s.validTransitions) ∧
      args.requireUnexpired = decide (args.toStatus ≠ .expired) := by
  have hstatuses : ∀ {transfer' fromStatus toStatus},
      TransferOperation.arguments?.ofStatuses? transfer' fromStatus toStatus =
        some (transfer, args) →
      (∀ s ∈ args.fromStatuses, args.toStatus ∈ s.validTransitions) ∧
        args.requireUnexpired = decide (args.toStatus ≠ .expired) := by
    intro transfer' fromStatus toStatus h
    obtain ⟨hvalid, -, rfl⟩ := arguments_ofStatuses h
    refine ⟨fun s hs => ?_, rfl⟩
    obtain rfl := List.mem_singleton.1 hs
    exact hvalid
  cases op with
  | create | markRelayUsed => cases h
  | accept | reject | cancel | fail | expire =>
    cases h
    refine ⟨?_, rfl⟩
    simp [TransitionArguments.ofAccept, TransitionArguments.ofReject, TransitionArguments.ofCancel,
      TransitionArguments.ofFail, TransitionArguments.ofExpire, activeStatuses, failableStatuses,
      validTransitions]
  | markNegotiating | markConnected | markTransferring | complete => exact hstatuses h
  | transition account transfer' fromStatus toStatus =>
    simp only [TransferOperation.arguments?] at h
    split at h
    · exact hstatuses h
    · cases h

theorem ActorRole.holds_recipient {t : TransferRequestRecord} {actor : Uuid} :
    holds t actor (some .recipient) = true ↔ actor = t.recipientDeviceId := decide_eq_true_iff

theorem ActorRole.holds_participant {t : TransferRequestRecord} {actor : Uuid} :
    holds t actor (some .participant) = true ↔
      actor = t.senderDeviceId ∨ actor = t.recipientDeviceId := by
  simp [holds]

/-- The actor predicate of an operation. -/
theorem arguments_authorized {transfer : Uuid} {args : TransitionArguments}
    (h : op.arguments? = some (transfer, args)) {t : TransferRequestRecord}
    (hactor : ∀ actor ∈ args.actorDeviceId,
      db.deviceActive t.userId actor = true ∧ ActorRole.holds t actor args.actorRole = true) :
    op.Authorized db t := by
  cases op with
  | accept | reject =>
    cases h
    obtain ⟨hactive, hholds⟩ := hactor _ rfl
    exact ⟨ActorRole.holds_recipient.1 hholds, hactive⟩
  | cancel =>
    cases h
    obtain ⟨hactive, hholds⟩ := hactor _ rfl
    exact ⟨ActorRole.holds_participant.1 hholds, hactive⟩
  | fail account transfer code actor =>
    cases h
    cases actor with
    | none => trivial
    | some actor =>
      obtain ⟨hactive, hholds⟩ := hactor _ rfl
      exact ⟨ActorRole.holds_participant.1 hholds, hactive⟩
  | _ => trivial

end Statements

/-! ## What a call does to a row -/

/-- The law of one row: `t` before and `t'` after a call of `op` at the time `now`. -/
structure RowLaw (db : Database) (now : Timestamp) (op : TransferOperation)
    (t t' : TransferRequestRecord) : Prop where
  /-- The status moves along `_VALID_TRANSITIONS`. -/
  status : t'.status = t.status ∨ t'.status ∈ t.status.validTransitions
  terminal : t.status.isTerminal = true → t'.status = t.status
  /-- Only the account that the operation was called with is touched. -/
  account : t.userId ≠ op.account → t' = t
  /-- Only an admitted actor changes the row. -/
  authorized : t' ≠ t → op.Authorized db t
  /-- A row expires at or after its expiry, and changes its status in any other way before it. -/
  expired : t'.status ≠ t.status → (t'.status = .expired ↔ t.expiresAt ≤ now)
  relay : t'.relayUsed ≠ t.relayUsed → now < t.expiresAt
  id : t'.id = t.id
  owner : t'.userId = t.userId
  sender : t'.senderDeviceId = t.senderDeviceId
  recipient : t'.recipientDeviceId = t.recipientDeviceId
  expiresAt : t'.expiresAt = t.expiresAt

theorem RowLaw.refl (db : Database) (now : Timestamp) (op : TransferOperation)
    (t : TransferRequestRecord) : RowLaw db now op t t :=
  ⟨.inl rfl, fun _ => rfl, fun _ => rfl, fun h => (h rfl).elim, fun h => (h rfl).elim,
    fun h => (h rfl).elim, rfl, rfl, rfl, rfl, rfl⟩

theorem validTransitions_of_isTerminal {s : TransferStatus} (h : s.isTerminal = true) :
    s.validTransitions = [] := by
  cases s <;> first | rfl | cases h

/-- The law of a call: what it does to the rows of the table, and what it means that
it returned a record. -/
structure CallLaw (db : Database) (now : Timestamp) (op : TransferOperation) (db' : Database)
    (result : TransferResult) : Prop where
  rows : ∀ t ∈ db.transfers, ∃ t' ∈ db'.transfers, RowLaw db now op t t'
  /-- A row that was not there is an offer of the calling account. -/
  new : ∀ t' ∈ db'.transfers, (∃ t ∈ db.transfers, t.id = t'.id) ∨
    (t'.status = .offered ∧ t'.userId = op.account)
  /-- A successful call found its row, for an admitted actor and on the right side of its expiry. -/
  success : ∀ record, result = .ok (some record) → ∀ transfer ∈ op.transfer?,
    ∃ t ∈ db.transfers, t.id = transfer ∧ t.id = record.id ∧ t.userId = op.account ∧
      op.Authorized db t ∧ (record.status = .expired ↔ t.expiresAt ≤ now)
  keys : (db.transfers.map (·.id)).Nodup → (db'.transfers.map (·.id)).Nodup

section Calls

variable {db : Database} {now : Timestamp} {op : TransferOperation}

/-- A call that changes nothing and returns no record. -/
theorem CallLaw.unchanged {result : TransferResult} (h : ∀ record, result ≠ .ok (some record)) :
    CallLaw db now op db result where
  rows t ht := ⟨t, ht, .refl db now op t⟩
  new t' ht' := .inl ⟨t', ht', rfl⟩
  success record hrecord := (h record hrecord).elim
  keys := id

/-- A call that is one `UPDATE`, from what its clauses do to a row. -/
theorem callLaw_updateTransfers {selected : TransferRequestRecord → Bool}
    {set : TransferRequestRecord → TransferRequestRecord} {transfer : Uuid}
    (htransfer : op.transfer? = some transfer) (hid : ∀ t, (set t).id = t.id)
    (hrow : ∀ t, selected t = true → RowLaw db now op t (set t) ∧ t.userId = op.account ∧
      t.id = transfer ∧ op.Authorized db t ∧ ((set t).status = .expired ↔ t.expiresAt ≤ now)) :
    CallLaw db now op (db.updateTransfers selected set).1 (db.updateTransfers selected set).2 := by
  unfold Database.updateTransfers
  split
  · exact .unchanged nofun
  case h_2 rows returned hupdate =>
    obtain ⟨-, rfl, rfl⟩ := Table.update_eq_ok.1 hupdate
    refine ⟨?_, ?_, ?_, ?_⟩
    · intro t ht
      by_cases hselected : selected t = true
      · exact ⟨set t, Table.mem_updated.2 (.inl ⟨t, ht, hselected, rfl⟩), (hrow t hselected).1⟩
      · exact ⟨t, Table.mem_updated.2 (.inr ⟨ht, by simpa using hselected⟩), .refl db now op t⟩
    · intro t' ht'
      obtain ⟨t, ht, -, rfl⟩ | ⟨ht, -⟩ := Table.mem_updated.1 ht'
      · exact .inl ⟨t, ht, (hid t).symm⟩
      · exact .inl ⟨t', ht, rfl⟩
    · intro record hrecord transfer' htransfer'
      obtain rfl := Option.some.inj (htransfer.symm.trans htransfer')
      have hmem : record ∈ Table.written selected set db.transfers :=
        List.mem_of_mem_head? (Except.ok.inj hrecord)
      obtain ⟨t, ht, hselected, rfl⟩ := Table.mem_written.1 hmem
      obtain ⟨-, haccount, htransfer, hauthorized, hexpired⟩ := hrow t hselected
      exact ⟨t, ht, htransfer, (hid t).symm, haccount, hauthorized, hexpired⟩
    · intro hkeys
      rwa [Table.map_updated hid]

/-- `_transition` keeps everything but the status and what belongs to it. -/
theorem rowLaw_transition {transfer : Uuid} {args : TransitionArguments}
    (h : op.arguments? = some (transfer, args)) {t : TransferRequestRecord}
    (hselected : args.selects db now op.account transfer t = true) :
    RowLaw db now op t (args.set now t) ∧ t.userId = op.account ∧ t.id = transfer ∧
      op.Authorized db t ∧ ((args.set now t).status = .expired ↔ t.expiresAt ≤ now) := by
  obtain ⟨haccount, htransfer, hstatus, hexpiry, -, hactor⟩ :=
    TransitionArguments.selects_iff.1 hselected
  obtain ⟨hvalid, hunexpired⟩ := arguments_valid h
  have hauthorized := arguments_authorized h hactor
  have hexpired : args.toStatus = .expired ↔ t.expiresAt ≤ now := by
    by_cases hto : args.toStatus = .expired
    · rw [hunexpired, if_neg (by simp [hto])] at hexpiry
      exact iff_of_true hto hexpiry
    · rw [hunexpired, if_pos (by simp [hto])] at hexpiry
      exact iff_of_false hto (Nat.not_le.2 hexpiry)
  refine ⟨⟨.inr (hvalid _ hstatus), ?_, ?_, fun _ => hauthorized, fun _ => hexpired, ?_,
    rfl, rfl, rfl,
    rfl, rfl⟩, haccount, htransfer, hauthorized, hexpired⟩
  · intro hterminal
    have hmem := hvalid _ hstatus
    rw [validTransitions_of_isTerminal hterminal] at hmem
    cases hmem
  · exact fun hne => (hne haccount).elim
  · exact fun hne => (hne rfl).elim

/-- `mark_relay_used` keeps everything but its flag. -/
theorem rowLaw_markRelayUsed {account transfer : Uuid} {t : TransferRequestRecord}
    (hselected : TransferRequestRepository.relaySelects db now account transfer t = true) :
    RowLaw db now (.markRelayUsed account transfer) t { t with relayUsed := true } ∧
      t.userId = account ∧ t.id = transfer ∧
        TransferOperation.Authorized db t (.markRelayUsed account transfer) ∧
          (t.status = .expired ↔ t.expiresAt ≤ now) := by
  simp only [TransferRequestRepository.relaySelects, Bool.and_eq_true, decide_eq_true_eq,
    List.contains_iff_mem] at hselected
  obtain ⟨⟨⟨⟨haccount, htransfer⟩, hactive⟩, hunexpired⟩, -⟩ := hselected
  have hstatus : t.status ≠ .expired := by
    intro hexpired
    rw [hexpired] at hactive
    exact absurd hactive (by decide)
  refine ⟨⟨.inl rfl, fun _ => rfl, ?_, fun _ => trivial, ?_, fun _ => hunexpired, rfl,
    rfl, rfl, rfl,
    rfl⟩, haccount, htransfer, trivial, iff_of_false hstatus (Nat.not_le.2 hunexpired)⟩
  · exact fun hne => (hne haccount).elim
  · exact fun hne => (hne rfl).elim

/-- `create` adds an offer, or nothing. -/
theorem callLaw_create (account sender recipient : Uuid) (version : ℤ) (expiresAt : Timestamp)
    (id : Uuid) :
    let op := TransferOperation.create account sender recipient version expiresAt id
    CallLaw db now op (TransferRequestRepository.perform db now op).1
      (TransferRequestRepository.perform db now op).2 := by
  simp only [TransferRequestRepository.perform, TransferRequestRepository.create]
  split_ifs with hdevices
  · split
    · exact .unchanged nofun
    case h_2 rows hinsert =>
      obtain ⟨-, hkey, rfl⟩ := Table.insert_eq_ok.1 hinsert
      refine ⟨?_, ?_, fun _ _ _ h => (Option.not_mem_none _ h).elim, ?_⟩
      · intro t ht
        exact ⟨t, List.mem_append_left _ ht, .refl db now _ t⟩
      · intro t' ht'
        obtain ht' | ht' := List.mem_append.1 ht'
        · exact .inl ⟨t', ht', rfl⟩
        · obtain rfl := List.mem_singleton.1 ht'
          exact .inr ⟨rfl, rfl⟩
      · intro hkeys
        rw [List.map_append]
        exact List.nodup_append.2 ⟨hkeys, List.nodup_singleton _, by
          intro k hk k' hk' heq
          obtain rfl := List.mem_singleton.1 hk'
          exact hkey (heq ▸ hk)⟩
  · exact .unchanged nofun

/-- Every call obeys the law. -/
theorem callLaw_perform (db : Database) (now : Timestamp) (op : TransferOperation) :
    CallLaw db now op (TransferRequestRepository.perform db now op).1
      (TransferRequestRepository.perform db now op).2 := by
  by_cases hcreate : ∃ account sender recipient version expiresAt id,
      op = .create account sender recipient version expiresAt id
  · obtain ⟨account, sender, recipient, version, expiresAt, id, rfl⟩ := hcreate
    exact callLaw_create account sender recipient version expiresAt id
  by_cases hrelay : ∃ account transfer, op = .markRelayUsed account transfer
  · obtain ⟨account, transfer, rfl⟩ := hrelay
    exact callLaw_updateTransfers rfl (fun _ => rfl) fun t hselected =>
      rowLaw_markRelayUsed hselected
  cases harguments : op.arguments? with
  | none =>
    rw [perform_of_no_arguments harguments
      (fun account sender recipient version expiresAt id h =>
        hcreate ⟨account, sender, recipient, version, expiresAt, id, h⟩)
      (fun account transfer h => hrelay ⟨account, transfer, h⟩)]
    exact .unchanged nofun
  | some arguments =>
    obtain ⟨transfer, args⟩ := arguments
    rw [perform_of_arguments harguments]
    exact callLaw_updateTransfers (transfer?_of_arguments harguments) (fun _ => rfl) fun t
        hselected =>
      rowLaw_transition harguments hselected

end Calls

/-! ## Runs -/

/-- What happens to the database. -/
inductive DatabaseEvent where
  | call (now : Timestamp) (op : TransferOperation)
  /-- Whatever else writes accounts, devices and sessions. -/
  | other (users : List AppUser) (devices : List DeviceRecord) (sessions : List SessionRecord)

def Database.next (db : Database) : DatabaseEvent → Database
  | .call now op => (TransferRequestRepository.perform db now op).1
  | .other users devices sessions => { users, devices, sessions, transfers := db.transfers }

/-- `_VALID_TRANSITIONS` as a relation. -/
def TransferStatus.Steps (s s' : TransferStatus) : Prop := s' ∈ s.validTransitions

/-- How the rows of one database continue those of an earlier one. -/
def Continues (db db' : Database) : Prop :=
  ∀ t ∈ db.transfers, ∃ t' ∈ db'.transfers, t'.id = t.id ∧ t'.userId = t.userId ∧
    Relation.ReflTransGen Steps t.status t'.status

section Runs

variable {db db' db'' : Database}

theorem Continues.refl (db : Database) : Continues db db :=
  fun t ht => ⟨t, ht, rfl, rfl, .refl⟩

theorem Continues.trans (h : Continues db db') (h' : Continues db' db'') : Continues db db'' := by
  intro t ht
  obtain ⟨t', ht', hid, howner, hpath⟩ := h t ht
  obtain ⟨t'', ht'', hid', howner', hpath'⟩ := h' t' ht'
  exact ⟨t'', ht'', hid'.trans hid, howner'.trans howner, hpath.trans hpath'⟩

theorem CallLaw.continues {now : Timestamp} {op : TransferOperation} {result : TransferResult}
    (h : CallLaw db now op db' result) : Continues db db' := by
  intro t ht
  obtain ⟨t', ht', hrow⟩ := h.rows t ht
  refine ⟨t', ht', hrow.id, hrow.owner, ?_⟩
  obtain hstatus | hstatus := hrow.status
  · rw [hstatus]
  · exact .single hstatus

theorem continues_next (db : Database) (e : DatabaseEvent) : Continues db (db.next e) := by
  cases e with
  | call now op => exact (callLaw_perform db now op).continues
  | other users devices sessions => exact fun t ht => ⟨t, ht, rfl, rfl, .refl⟩

theorem nodup_next (hkeys : (db.transfers.map (·.id)).Nodup) (e : DatabaseEvent) :
    ((db.next e).transfers.map (·.id)).Nodup := by
  cases e with
  | call now op => exact (callLaw_perform db now op).keys hkeys
  | other users devices sessions => exact hkeys

/-- No path leaves a terminal status. -/
theorem TransferStatus.eq_of_isTerminal {s s' : TransferStatus} (hterminal : s.isTerminal = true)
    (hpath : Relation.ReflTransGen Steps s s') : s' = s := by
  obtain rfl | ⟨s₁, hstep, -⟩ := hpath.cases_head
  · rfl
  · rw [Steps, validTransitions_of_isTerminal hterminal] at hstep
    cases hstep

/-- The transfer state machine.  After any run from a table whose ids are unique they are unique,
every call obeys its law, and every row has gone through valid transitions only, and through none
from a terminal status. -/
theorem transfer_state_machine {es : List DatabaseEvent}
    (hrun : Run (fun db e db' => db' = db.next e) db es db')
    (hkeys : (db.transfers.map (·.id)).Nodup) :
    (db'.transfers.map (·.id)).Nodup ∧
    (∀ now op, CallLaw db' now op (TransferRequestRepository.perform db' now op).1
      (TransferRequestRepository.perform db' now op).2) ∧
    ∀ t ∈ db.transfers, ∀ t' ∈ db'.transfers, t'.id = t.id →
      t'.userId = t.userId ∧ Relation.ReflTransGen Steps t.status t'.status ∧
        (t.status.isTerminal = true → t'.status = t.status) := by
  have hkeys' : (db'.transfers.map (·.id)).Nodup := by
    refine hrun.invariant (I := fun db => (db.transfers.map (·.id)).Nodup) hkeys ?_
    rintro db e _ hkeys rfl
    exact nodup_next hkeys e
  have hcontinues : Continues db db' := by
    refine hrun.related (I := fun _ => True) trivial (fun _ _ _ _ _ => trivial) Continues.refl
      Continues.trans ?_
    rintro db e _ - rfl
    exact continues_next db e
  refine ⟨hkeys', callLaw_perform db', ?_⟩
  intro t ht t' ht' hid
  obtain ⟨t'', ht'', hid'', howner, hpath⟩ := hcontinues t ht
  -- ids are unique, so the row that continues `t` is the one with its id
  obtain rfl : t'' = t' := List.inj_on_of_nodup_map hkeys' ht'' ht' (hid''.trans hid.symm)
  exact ⟨howner, hpath, fun hterminal => eq_of_isTerminal hterminal hpath⟩

end Runs

/-- An account with two devices and one offer between them. -/
def offeredDatabase : Database where
  users := [{ id := ⟨1⟩, deviceEpoch := 0, deletedAt := none }]
  devices := [device 2, device 3]
  sessions := []
  transfers := [offer]
where
  device (id : BitVec 128) : DeviceRecord := {
    id := ⟨id⟩
    userId := ⟨1⟩
    epoch := 0
    label := "laptop"
    signingPublicKeySpki := [0]
    fingerprint := List.replicate 32 (.ofNat id.toNat)
    status := .active
    createdAt := 1
    lastSeenAt := 1
    revokedAt := none
    linkedByDeviceId := none }
  offer : TransferRequestRecord := {
    id := ⟨4⟩
    userId := ⟨1⟩
    senderDeviceId := ⟨2⟩
    recipientDeviceId := ⟨3⟩
    protocolVersion := 1
    status := .offered
    createdAt := 1
    expiresAt := 9
    acceptedAt := none
    completedAt := none
    failureCode := none
    relayUsed := false }

/-- The recipient accepts, a device is revoked, and the other one cancels. -/
theorem transfer_state_machine_cancelled :
    let db := offeredDatabase
    let accepted := db.next (.call 5 (.accept ⟨1⟩ ⟨4⟩ ⟨3⟩))
    let revoked := accepted.next (.other db.users [offeredDatabase.device 2] [])
    let cancelled := revoked.next (.call 6 (.cancel ⟨1⟩ ⟨4⟩ ⟨2⟩))
    cancelled.transfers.map (·.status) = [.cancelled] ∧
      ∀ t ∈ cancelled.transfers, t.id = offeredDatabase.offer.id →
        t.userId = ⟨1⟩ ∧ Relation.ReflTransGen Steps .offered t.status ∧
          (TransferStatus.offered.isTerminal = true → t.status = .offered) := by
  intro db accepted revoked cancelled
  have hrun : Run (fun db e db' => db' = db.next e) db
      [.call 5 (.accept ⟨1⟩ ⟨4⟩ ⟨3⟩), .other db.users [offeredDatabase.device 2] [],
        .call 6 (.cancel ⟨1⟩ ⟨4⟩ ⟨2⟩)] cancelled :=
    .cons rfl (.cons rfl (.cons rfl (.nil _)))
  have hmachine := transfer_state_machine hrun (by decide)
  exact ⟨by decide, hmachine.2.2 offeredDatabase.offer (List.mem_singleton.2 rfl)⟩

end SelfRelay.Backend
