import SelfRelay.Backend.Capacity
import SelfRelay.Backend.TransferPrograms

/-!
# Expired transfers

`TransferState.Later` is all that the methods of the service rely on: the clock does not go back, a
transfer keeps its owner and its deadline, and one that is over stays so.  An `expire` that finds no
row therefore leaves the transfer over for good (`TransferState.Closed`), and what is read after it
is not active, except in `list`, which keeps the record that it has when the transfer is gone
(`expired_never_active`).
-/

open StepSystem

namespace SelfRelay.Backend

namespace TransferState

/-- Every transfer has an id of its own, which is on record. -/
structure Valid (s : TransferState) : Prop where
  ids : (s.db.transfers.map (·.id)).Nodup
  issued : ∀ t ∈ s.db.transfers, t.id ∈ s.issued

/-- What becomes of the state. -/
structure Later (s s' : TransferState) : Prop where
  clock : s.clock ≤ s'.clock
  issued : ∀ id ∈ s.issued, id ∈ s'.issued
  /-- A transfer with an old id is an old one. -/
  rows : ∀ t' ∈ s'.db.transfers, t'.id ∈ s.issued → ∃ t ∈ s.db.transfers, t'.id = t.id ∧
    t'.userId = t.userId ∧ t'.expiresAt = t.expiresAt ∧
    (t.status.isTerminal = true → t'.status = t.status) ∧
    (s'.db.accountExists t'.userId = true → s.db.accountExists t.userId = true)

variable {s t u : TransferState}

theorem Later.refl (s : TransferState) : s.Later s :=
  ⟨Nat.le_refl _, fun _ h => h, fun t ht _ => ⟨t, ht, rfl, rfl, rfl, fun _ => rfl, fun h => h⟩⟩

theorem Later.trans (h : s.Later t) (h' : t.Later u) : s.Later u := by
  refine ⟨Nat.le_trans h.clock h'.clock, fun id hid => h'.issued id (h.issued id hid), ?_⟩
  intro r₂ hr₂ hid
  obtain ⟨r₁, hr₁, hid₁, huser₁, hexpires₁, hstatus₁, haccount₁⟩ := h'.rows r₂ hr₂ (h.issued _ hid)
  obtain ⟨r, hr, hid₀, huser₀, hexpires₀, hstatus₀, haccount₀⟩ := h.rows r₁ hr₁ (hid₁ ▸ hid)
  refine ⟨r, hr, hid₁.trans hid₀, huser₁.trans huser₀, hexpires₁.trans hexpires₀,
    fun hterminal => ?_,
    fun haccount => haccount₀ (haccount₁ haccount)⟩
  have hstatus := hstatus₀ hterminal
  exact (hstatus₁ (hstatus ▸ hterminal)).trans hstatus

/-! ## Steps -/

/-- The rows change in their places, under the law of rows. -/
theorem later_of_map (hs : s.Valid) {now : Timestamp} {op : TransferOperation}
    {g : TransferRequestRecord → TransferRequestRecord} (hrow : ∀ r, RowLaw s.db now op r (g r)) :
    Valid { s with db := { s.db with transfers := s.db.transfers.map g } } ∧
      s.Later { s with db := { s.db with transfers := s.db.transfers.map g } } := by
  have hids : (s.db.transfers.map g).map (·.id) = s.db.transfers.map (·.id) := by
    rw [List.map_map]
    exact List.map_congr_left fun r _ => (hrow r).id
  refine ⟨⟨hids ▸ hs.ids, ?_⟩, Nat.le_refl _, fun _ h => h, ?_⟩
  · intro r' hr'
    obtain ⟨r, hr, rfl⟩ := List.mem_map.1 hr'
    exact (hrow r).id ▸ hs.issued r hr
  · intro r' hr' _
    obtain ⟨r, hr, rfl⟩ := List.mem_map.1 hr'
    exact ⟨r, hr, (hrow r).id, (hrow r).owner, (hrow r).expiresAt, (hrow r).terminal,
      fun haccount => (hrow r).owner ▸ haccount⟩

/-- Rows are deleted. -/
theorem later_of_filter (hs : s.Valid) (p : TransferRequestRecord → Bool) :
    Valid { s with db := { s.db with transfers := s.db.transfers.filter p } } ∧
      s.Later { s with db := { s.db with transfers := s.db.transfers.filter p } } := by
  refine ⟨⟨hs.ids.sublist (List.filter_sublist.map _), ?_⟩, Nat.le_refl _, fun _ h => h, ?_⟩
  · exact fun r hr => hs.issued r (List.mem_of_mem_filter hr)
  · exact fun r hr _ => ⟨r, List.mem_of_mem_filter hr, rfl, rfl, rfl, fun _ => rfl, fun h => h⟩

/-- More ids are put on record. -/
theorem Later.record (h : t.Valid ∧ s.Later t) (ids : List Uuid) :
    Valid { t with issued := t.issued ++ ids } ∧ s.Later { t with issued := t.issued ++ ids } :=
  ⟨⟨h.1.ids, fun r hr => List.mem_append_left _ (h.1.issued r hr)⟩, h.2.clock,
    fun id hid => List.mem_append_left _ (h.2.issued id hid), h.2.rows⟩

/-- An offer is added, with an id that was never used. -/
theorem later_of_append (hs : s.Valid) {r : TransferRequestRecord} (hfresh : r.id ∉ s.issued) :
    Valid { s with
        db := { s.db with transfers := s.db.transfers ++ [r] }
        issued := s.issued ++ (s.db.transfers ++ [r]).map (·.id) } ∧
      s.Later { s with
        db := { s.db with transfers := s.db.transfers ++ [r] }
        issued := s.issued ++ (s.db.transfers ++ [r]).map (·.id) } := by
  refine ⟨⟨?_, ?_⟩, Nat.le_refl _, fun id hid => List.mem_append_left _ hid, ?_⟩
  · refine Table.nodup_append_row hs.ids fun hid => hfresh ?_
    obtain ⟨r', hr', hid⟩ := List.mem_map.1 hid
    exact hid ▸ hs.issued r' hr'
  · exact fun r' hr' => List.mem_append_right _ (List.mem_map.2 ⟨r', hr', rfl⟩)
  · intro r' hr' hid
    obtain hr' | hr' := List.mem_append.1 hr'
    · exact ⟨r', hr', rfl, rfl, rfl, fun _ => rfl, fun h => h⟩
    · exact absurd (List.mem_singleton.1 hr' ▸ hid) hfresh

theorem later_perform (hs : s.Valid) (statement : TransferStatement) :
    (perform statement s).2.Valid ∧ s.Later (perform statement s).2 := by
  cases statement with
  | change now account transfer change =>
    have hcreates : (change.operation account transfer).creates = false := by
      cases change <;> rfl
    obtain ⟨g, hdb, hrow⟩ := transfers_perform s.db now hcreates
    have hstate : (perform (.change now account transfer change) s).2 =
        { s with db := { s.db with transfers := s.db.transfers.map g } } := hdb ▸ rfl
    rw [hstate]
    exact later_of_map hs hrow
  | _ => exact ⟨hs, .refl s⟩

theorem later_environment (hs : s.Valid) {event : TransferWorld}
    (h : s.environment event = some t) :
    t.Valid ∧ s.Later t := by
  cases event with
  | tick time =>
    obtain ⟨hclock, heq⟩ := Option.ite_none_right_eq_some.1 h
    obtain rfl := Option.some.inj heq
    exact ⟨⟨hs.ids, hs.issued⟩, hclock, fun _ h => h,
      fun r hr _ => ⟨r, hr, rfl, rfl, rfl, fun _ => rfl, fun h => h⟩⟩
  | operate now op =>
    obtain ⟨hfresh, heq⟩ := Option.ite_none_right_eq_some.1 h
    obtain rfl := Option.some.inj heq
    cases hcreates : op.creates with
    | false =>
      obtain ⟨g, hdb, hrow⟩ := transfers_perform s.db now hcreates
      rw [hdb]
      exact Later.record (later_of_map hs hrow) _
    | true =>
      cases op with
      | create account sender recipient version expiresAt id =>
        have hkeys := (callLaw_perform s.db now
          (.create account sender recipient version expiresAt id)).keys hs.ids
        obtain hdb | ⟨-, r, -, -, -, hdb⟩ := @transfers_create s.db now _ _ _ _ _ _ _ rfl
        · rw [hdb]
          exact Later.record ⟨hs, .refl s⟩ _
        · rw [hdb] at hkeys hfresh ⊢
          refine later_of_append hs ?_
          have hfresh := List.all_eq_true.1 hfresh r (List.mem_append_right _ List.mem_cons_self)
          obtain hold | hnew := Bool.or_eq_true_iff.1 hfresh
          · -- the table has no two rows with one id
            obtain ⟨r', hr', hid⟩ := List.any_eq_true.1 hold
            rw [List.map_append] at hkeys
            exact absurd (List.mem_map.2 ⟨r', hr', of_decide_eq_true hid⟩)
              fun hmem => List.disjoint_of_nodup_append hkeys hmem List.mem_cons_self
          · exact of_decide_eq_true hnew
      | _ => cases hcreates
  | cleanup now limit picks =>
    obtain ⟨⟨transfers, n⟩, hbatch, rfl⟩ := Option.map_eq_some_iff.1 h
    obtain ⟨rfl, -⟩ := Table.deleteBatch_some hbatch
    exact later_of_filter hs _
  | other users devices sessions =>
    obtain ⟨hreturn, heq⟩ := Option.ite_none_right_eq_some.1 h
    obtain rfl := Option.some.inj heq
    refine ⟨⟨hs.ids, hs.issued⟩, Nat.le_refl _, fun _ h => h, fun r hr _ => ?_⟩
    refine ⟨r, hr, rfl, rfl, rfl, fun _ => rfl, fun haccount => ?_⟩
    have hreturn := List.all_eq_true.1 hreturn r hr
    simpa [haccount] using hreturn
  | cascade deleted =>
    obtain rfl := Option.some.inj h
    exact later_of_filter hs _

/-! ## Facts that last -/

/-- A record of a transfer: while the transfer is there, it has the owner and
the deadline of the record. -/
def Known (r : TransferRequestRecord) (s : TransferState) : Prop :=
  r.id ∈ s.issued ∧ ∀ r' ∈ s.db.transfers, r'.id = r.id → r'.userId = r.userId ∧
    r'.expiresAt = r.expiresAt

/-- The transfer of the account is over, or gone. -/
def Closed (account transfer : Uuid) (s : TransferState) : Prop :=
  transfer ∈ s.issued ∧ ∀ r ∈ s.db.transfers, r.id = transfer → r.userId = account →
    s.db.accountExists account = true → r.status.isTerminal = true

theorem Known.of_mem (hs : s.Valid) {r : TransferRequestRecord} (hr : r ∈ s.db.transfers) :
    s.Known r := by
  refine ⟨hs.issued r hr, fun r' hr' hid => ?_⟩
  obtain rfl := List.inj_on_of_nodup_map hs.ids hr' hr hid
  exact ⟨rfl, rfl⟩

theorem Known.later {r : TransferRequestRecord} (h : s.Known r) (hlater : s.Later t) :
    t.Known r := by
  refine ⟨hlater.issued _ h.1, fun r' hr' hid => ?_⟩
  obtain ⟨r₀, hr₀, hid₀, huser, hexpires, -⟩ := hlater.rows r' hr' (hid ▸ h.1)
  obtain ⟨huser₀, hexpires₀⟩ := h.2 r₀ hr₀ (hid₀.symm.trans hid)
  exact ⟨huser.trans huser₀, hexpires.trans hexpires₀⟩

theorem Closed.later {account transfer : Uuid} (h : s.Closed account transfer)
    (hlater : s.Later t) :
    t.Closed account transfer := by
  refine ⟨hlater.issued _ h.1, fun r' hr' hid huser haccount => ?_⟩
  obtain ⟨r, hr, hid', huser', -, hstatus, haccount'⟩ := hlater.rows r' hr' (hid ▸ h.1)
  have howner := huser'.symm.trans huser
  have hterminal := h.2 r hr (hid'.symm.trans hid) howner (howner ▸ haccount' (huser ▸ haccount))
  exact hstatus hterminal ▸ hterminal

/-- What `get_by_id` reads of a transfer that is over. -/
theorem Closed.getById {account transfer : Uuid} (h : s.Closed account transfer)
    {r : TransferRequestRecord}
    (hr : TransferRequestRepository.getById s.db account transfer = some r) :
    r.status.isTerminal = true := by
  obtain ⟨hmem, huser, hid⟩ := TransferRequestRepository.getById_eq_some hr
  refine h.2 r hmem hid huser ?_
  unfold TransferRequestRepository.getById at hr
  split_ifs at hr with haccount
  exact haccount

end TransferState

/-! ## Status changes -/

section Changes

/-- The arguments that a status change passes to `_transition`. -/
def StatusChange.arguments : StatusChange → TransitionArguments
  | accept recipient => .ofAccept recipient
  | reject recipient => .ofReject recipient
  | cancel actor => .ofCancel actor
  | expire => .ofExpire

theorem perform_operation (db : Database) (now : Timestamp) (account transfer : Uuid)
    (change : StatusChange) :
    TransferRequestRepository.perform db now (change.operation account transfer) =
      runTransition db now account transfer change.arguments := by
  cases change <;> rfl

variable {db : Database} {now : Timestamp} {account transfer : Uuid} {args : TransitionArguments}

theorem runTransition_some {r : TransferRequestRecord}
    (h : (runTransition db now account transfer args).2 = .ok (some r)) :
    ∃ r₀ ∈ db.transfers, args.selects db now account transfer r₀ = true ∧ args.set now r₀ = r := by
  unfold runTransition Database.updateTransfers at h
  split at h
  · cases h
  case h_2 rows returned hupdate =>
    obtain ⟨-, -, rfl⟩ := Table.update_eq_ok.1 hupdate
    exact Table.mem_written.1 (List.mem_of_mem_head? (Except.ok.inj h))

theorem runTransition_none (h : (runTransition db now account transfer args).2 = .ok none)
    {r : TransferRequestRecord} (hr : r ∈ db.transfers) :
    args.selects db now account transfer r = false := by
  unfold runTransition Database.updateTransfers at h
  split at h
  · cases h
  case h_2 rows returned hupdate =>
    obtain ⟨-, -, rfl⟩ := Table.update_eq_ok.1 hupdate
    refine Bool.eq_false_iff.2 fun hselected => ?_
    have hnil := List.head?_eq_none_iff.1 (Except.ok.inj h)
    exact List.not_mem_nil (hnil ▸ Table.mem_written.2 ⟨r, hr, hselected, rfl⟩)

end Changes

/-! ## What the methods ensure -/

/-- A record is not shown as active when its deadline had passed at the reading of the clock. -/
def ExaminedRecord.Fresh (e : ExaminedRecord) : Prop :=
  e.record.status.isTerminal = false → ∃ now ∈ e.examinedAt, now < e.record.expiresAt

/-- The deadline had not passed at the reading of the clock. -/
def ExaminedRecord.Live (e : ExaminedRecord) : Prop :=
  ∃ now ∈ e.examinedAt, now < e.record.expiresAt

namespace TransferProgram

open TransferState

variable {α β : Type} {meets : TransferStatement → TransferState → Prop} {s : TransferState}
  {account : Uuid} {r : TransferRequestRecord}

/-- What a method ensures, in a state that is `Later`. -/
abbrev Secures (meets : TransferStatement → TransferState → Prop)
    (Q : Except TransferFault α → TransferState → Prop) (p : TransferProgram α)
    (s : TransferState) : Prop :=
  p.Ensures TransferState.perform Valid Later meets Q s

theorem secures_await {statement : TransferStatement} {f : statement.Answer → TransferProgram α}
    {Q : Except TransferFault α → TransferState → Prop}
    (h : ∀ t, t.Valid → s.Later t → meets statement t →
      Secures meets Q (f (perform statement t).1) (perform statement t).2) :
    Secures meets Q (await statement >>= f) s := h

theorem secures_pure {value : α} {Q : Except TransferFault α → TransferState → Prop}
    (h : Q (.ok value) s) : Secures meets Q (pure value) s := h

theorem secures_raise {error : TransferFault} {Q : Except TransferFault α → TransferState → Prop}
    (h : Q (.error error) s) : Secures meets Q (.raise error) s := h

/-- `_notify_participants` awaits the presence manager only. -/
theorem secures_notifyParticipants {record : TransferRequestRecord}
    {Q : Except TransferFault Unit → TransferState → Prop} (h : ∀ t, s.Later t → Q (.ok ()) t) :
    Secures meets Q (notifyParticipants record) s := by
  unfold notifyParticipants notify
  refine secures_await fun t _ hlater _ => ?_
  by_cases hdevices : record.recipientDeviceId ≠ record.senderDeviceId
  · rw [if_pos hdevices]
    exact fun u _ hlater' _ => h u (hlater.trans hlater')
  · rw [if_neg hdevices]
    exact secures_pure (h t hlater)

/-- What a status change returns: a row that it selected in some state meanwhile, or the assurance
that it selected none there. -/
def Changes (s : TransferState) (account transfer : Uuid) (args : TransitionArguments) :
    Except TransferFault (Timestamp × Option TransferRequestRecord) → TransferState → Prop
  | .ok (now, some changed), _ => ∃ u, s.Later u ∧ s.clock ≤ now ∧
      ∃ r ∈ u.db.transfers, args.selects u.db now account transfer r = true ∧
      args.set now r = changed
  | .ok (now, none), t => ∃ u, s.Later u ∧ u.Later t ∧ s.clock ≤ now ∧
      ∀ r ∈ u.db.transfers, args.selects u.db now account transfer r = false
  | .error (.transfer _), _ => False
  | .error (.repository _), _ => True

theorem secures_change {transfer : Uuid} (statusChange : StatusChange) :
    Secures meets (Changes s account transfer statusChange.arguments)
      (change account transfer statusChange) s := by
  unfold change clock
  refine secures_await fun t ht hlater _ => secures_await fun u hu hlater' _ => ?_
  have hstate := (later_perform hu (.change t.clock account transfer statusChange)).2
  generalize hanswer : (perform (.change (perform .clock t).1 account transfer statusChange)
    u).1 = answer
  have hresult : (runTransition u.db t.clock account transfer statusChange.arguments).2 = answer :=
    (congrArg Prod.snd (perform_operation ..)).symm.trans hanswer
  cases answer with
  | error error => exact secures_raise trivial
  | ok record =>
    refine secures_pure ?_
    cases record with
    | none =>
      exact ⟨u, hlater.trans hlater', hstate, hlater.clock,
        fun r hr => runTransition_none hresult hr⟩
    | some changed => exact ⟨u, hlater.trans hlater', hlater.clock, runTransition_some hresult⟩

/-- What `expire` returns: an expired record, or the assurance that the transfer is over. -/
def Expires (account transfer : Uuid) : Except TransferFault TransferRequestRecord →
    TransferState → Prop
  | .ok expired, _ => expired.status = .expired
  | .error (.transfer _), t => t.Closed account transfer
  | .error (.repository _), _ => True

theorem secures_expire (hknown : s.Known r) (hexpired : r.expiresAt ≤ s.clock) :
    Secures meets (Expires account r.id) (expire account r.id) s := by
  unfold expire
  refine (secures_change .expire).bind ?_ ?_
  · rintro ⟨now, expired⟩ t hchange
    cases expired with
    | none =>
      obtain ⟨u, hlater, hlater', hclock, hnone⟩ := hchange
      refine secures_raise (Closed.later ⟨hlater.issued _ hknown.1, ?_⟩ hlater')
      -- a row with the deadline of the record that is active would have been selected
      intro r' hr' hid huser haccount
      obtain ⟨-, hexpires⟩ := (hknown.later hlater).2 r' hr' hid
      by_contra hactive
      have hselected := hnone r' hr'
      refine Bool.false_ne_true (hselected.symm.trans (TransitionArguments.selects_iff.2 ?_))
      refine ⟨huser, hid, ?_, ?_, huser ▸ haccount, nofun⟩
      · exact List.contains_iff_mem.1 (contains_activeStatuses.2 (by simpa using hactive))
      · exact hexpires ▸ Nat.le_trans hexpired hclock
    | some expired =>
      obtain ⟨u, -, -, r', -, -, rfl⟩ := hchange
      refine secures_await fun t _ _ _ => ?_
      refine (secures_notifyParticipants (Q := fun result _ => ∃ u, result = .ok u)
        fun _ _ => ⟨(), rfl⟩).bind ?_ ?_
      · exact fun _ _ _ => secures_pure rfl
      · rintro _ _ ⟨_, ⟨⟩⟩
  · rintro (_ | _) t hchange
    · exact hchange.elim
    · trivial

theorem secures_exceptTransferError {attempt fallback : TransferProgram α}
    {Q Q' : Except TransferFault α → TransferState → Prop} (h : Secures meets Q attempt s)
    (hok : ∀ value t, Q (.ok value) t → Q' (.ok value) t)
    (htransfer : ∀ message t, Q (.error (.transfer message)) t → Secures meets Q' fallback t)
    (hrepository : ∀ error t, Q' (.error (.repository error)) t) :
    Secures meets Q' (exceptTransferError attempt fallback) s := by
  refine h.handle hok ?_
  rintro (message | error) t hQ
  · exact htransfer message t hQ
  · exact hrepository error t

theorem fresh_of_terminal {e : ExaminedRecord} (h : e.record.status.isTerminal = true) : e.Fresh :=
  fun hactive => absurd (hactive.symm.trans h) Bool.false_ne_true

theorem fresh_of_expired {e : ExaminedRecord} (h : e.record.status = .expired) : e.Fresh :=
  fresh_of_terminal (h ▸ rfl)

/-- The value that is returned, if one is, meets `P`. -/
def Returning (P : α → Prop) (result : Except TransferFault α) (_ : TransferState) : Prop :=
  ∀ value, result = .ok value → P value

theorem returning_ok {P : α → Prop} {value : α} (h : P value) : Returning P (.ok value) s := by
  rintro _ ⟨⟩
  exact h

theorem secures_fail {P : α → Prop} {error : TransferFault} :
    Secures meets (Returning P) (.raise error) s := by
  rintro _ ⟨⟩

theorem secures_bind {P : α → Prop} {P' : β → Prop} {p : TransferProgram α}
    {f : α → TransferProgram β}
    (h : Secures meets (Returning P) p s)
    (hf : ∀ value t, s.Later t → P value → Secures meets (Returning P') (f value) t) :
    Secures meets (Returning P') (p >>= f) s := by
  have hlater : Secures meets (fun result t => Returning P result t ∧ s.Later t) p s :=
    h.and_rely Later.trans (fun statement t ht => (later_perform ht statement).2) (.refl s)
  refine hlater.bind ?_ ?_
  · exact fun value t hvalue => hf value t hvalue.2 (hvalue.1 value rfl)
  · rintro error t - _ ⟨⟩

/-- An expired record is shown as such, and one that can not be expired is read again. -/
theorem secures_expireOr {P : α → Prop} {f : TransferRequestRecord → α}
    {fallback : TransferProgram α}
    (hknown : s.Known r) (hexpired : r.expiresAt ≤ s.clock)
    (hok : ∀ expired : TransferRequestRecord, expired.status = .expired → P (f expired))
    (hfallback : ∀ t, t.Closed account r.id → Secures meets (Returning P) fallback t) :
    Secures meets (Returning P)
      (exceptTransferError
        (do
          let expired ← expire account r.id
          return f expired)
        fallback) s := by
  have hattempt : Secures meets
      (fun result t => Returning P result t ∧
        ∀ message, result = .error (.transfer message) → t.Closed account r.id)
      (do
        let expired ← expire account r.id
        return f expired) s := by
    refine (secures_expire hknown hexpired).bind ?_ ?_
    · exact fun expired t hstatus => secures_pure ⟨returning_ok (hok expired hstatus), nofun⟩
    · rintro (message | error) t hclosed
      · exact ⟨nofun, fun _ _ => hclosed⟩
      · exact ⟨nofun, nofun⟩
  refine secures_exceptTransferError hattempt ?_ ?_ ?_
  · exact fun value t h => h.1
  · exact fun message t h => hfallback t (h.2 message rfl)
  · exact fun error t => nofun

/-- What `_current_or_expire` returns is not shown past its deadline. -/
theorem secures_currentOrExpire {transfer : Uuid} :
    Secures meets (Returning fun current => ∀ e ∈ current, e.Fresh)
      (currentOrExpire account transfer) s := by
  unfold currentOrExpire getById clock
  refine secures_await fun t ht hlater _ => ?_
  generalize hread : (perform (.getById account transfer) t).1 = read
  cases read with
  | none => exact secures_pure (returning_ok nofun)
  | some record =>
    obtain ⟨hmem, huser, rfl⟩ := TransferRequestRepository.getById_eq_some hread
    dsimp only
    cases hactive : activeStatuses.contains record.status with
    | false =>
      refine secures_pure (returning_ok ?_)
      rintro _ ⟨⟩ hterminal
      exact absurd (hactive.symm.trans (contains_activeStatuses.2 hterminal)) Bool.false_ne_true
    | true =>
      refine secures_await fun u hu hlater' _ => ?_
      dsimp only [perform]
      by_cases hdeadline : u.clock < record.expiresAt
      · rw [if_pos hdeadline]
        refine secures_pure (returning_ok ?_)
        rintro _ ⟨⟩ _
        exact ⟨u.clock, rfl, hdeadline⟩
      · rw [if_neg hdeadline]
        refine secures_expireOr ((Known.of_mem ht hmem).later hlater')
          (Nat.not_lt.1 hdeadline) ?_ ?_
        · rintro expired hstatus _ ⟨⟩
          exact fresh_of_expired hstatus
        · intro v hclosed
          refine secures_await fun w hw hlater'' _ => secures_pure (returning_ok ?_)
          intro e he
          obtain ⟨again, hagain, rfl⟩ := Option.map_eq_some_iff.1 he
          exact fresh_of_terminal ((hclosed.later hlater'').getById hagain)

theorem secures_get {transfer : Uuid} :
    Secures meets (Returning ExaminedRecord.Fresh) (get account transfer) s := by
  unfold get
  refine secures_bind secures_currentOrExpire fun current t _ hfresh => ?_
  cases current with
  | none => exact secures_fail
  | some current => exact secures_pure (returning_ok (hfresh current rfl))

/-! ### `list` -/

/-- One round of the loop, where the transfer is still there when it is read again. -/
theorem secures_listed (hknown : s.Known r)
    (hmeets : ∀ account transfer t, meets (.getById account transfer) t →
      (TransferRequestRepository.getById t.db account transfer).isSome = true) :
    Secures meets (Returning ExaminedRecord.Fresh) (listed account r) s := by
  unfold listed getById clock
  cases hactive : activeStatuses.contains r.status with
  | false =>
    refine secures_pure (returning_ok fun hterminal => ?_)
    exact absurd (hactive.symm.trans (contains_activeStatuses.2 hterminal)) Bool.false_ne_true
  | true =>
    refine secures_await fun t ht hlater _ => ?_
    dsimp only [perform]
    by_cases hdeadline : t.clock < r.expiresAt
    · rw [if_pos hdeadline]
      exact secures_pure (returning_ok fun _ => ⟨t.clock, rfl, hdeadline⟩)
    · rw [if_neg hdeadline]
      refine secures_expireOr (hknown.later hlater) (Nat.not_lt.1 hdeadline)
        (fun expired hstatus => fresh_of_expired hstatus) fun u hclosed => ?_
      refine secures_await fun v hv hlater' hfound => ?_
      obtain ⟨refreshed, hrefreshed⟩ := Option.isSome_iff_exists.1 (hmeets _ _ _ hfound)
      have hread : (perform (.getById account r.id) v).1 = some refreshed := hrefreshed
      rw [hread]
      exact secures_pure
        (returning_ok (fresh_of_terminal ((hclosed.later hlater').getById hrefreshed)))

theorem secures_listAll
    (hmeets : ∀ account transfer t, meets (.getById account transfer) t →
      (TransferRequestRepository.getById t.db account transfer).isSome = true)
    {records : List TransferRequestRecord} (hknown : ∀ r ∈ records, s.Known r) :
    Secures meets (Returning fun result => ∀ e ∈ result, e.Fresh) (listAll account records) s := by
  induction records generalizing s with
  | nil => exact secures_pure (returning_ok nofun)
  | cons r records ih =>
    refine secures_bind (secures_listed (hknown r List.mem_cons_self) hmeets) fun first t hlater
      hfirst => ?_
    refine secures_bind (ih fun r' hr' => (hknown r' (List.mem_cons_of_mem _ hr')).later hlater) ?_
    exact fun rest u _ hrest => secures_pure (returning_ok (List.forall_mem_cons.2 ⟨hfirst, hrest⟩))

theorem secures_list
    (hmeets : ∀ account transfer t, meets (.getById account transfer) t →
      (TransferRequestRepository.getById t.db account transfer).isSome = true) :
    Secures meets (Returning fun result => ∀ e ∈ result, e.Fresh) (list account) s := by
  unfold list
  refine secures_await fun t ht _ _ => secures_listAll hmeets fun r hr => Known.of_mem ht ?_
  change r ∈ TransferRequestRepository.listForAccount t.db account at hr
  unfold TransferRequestRepository.listForAccount at hr
  split_ifs at hr
  · exact List.mem_of_mem_filter ((List.mem_insertionSort _).1 hr)
  · exact absurd hr List.not_mem_nil

/-! ### `accept`, `reject`, `cancel` and `get_peer_device_key` -/

theorem ExaminedRecord.Fresh.live {e : ExaminedRecord} (h : e.Fresh)
    {statuses : List TransferStatus}
    (hstatuses : ∀ status ∈ statuses, status.isTerminal = false)
    (hstatus : statuses.contains e.record.status = true) : e.Live :=
  h (hstatuses _ (List.contains_iff_mem.1 hstatus))

theorem secures_changeCurrent {transfer : Uuid} {statuses : List TransferStatus} {message : String}
    {statusChange : StatusChange} {announce : TransferRequestRecord → TransferProgram Unit}
    (hstatuses : ∀ status ∈ statuses, status.isTerminal = false)
    (hunexpired : statusChange.arguments.requireUnexpired = true)
    (hannounce : ∀ changed t, Secures meets (Returning fun _ => True) (announce changed) t) :
    Secures meets (Returning fun result => result.1.Live ∧ result.2.Live)
      (changeCurrent account transfer statuses message statusChange announce) s := by
  unfold changeCurrent
  refine secures_bind secures_currentOrExpire fun current t _ hfresh => ?_
  cases current with
  | none => exact secures_fail
  | some current =>
    dsimp only
    by_cases hstatus : statuses.contains current.record.status = true
    case neg =>
      rw [if_pos (by simpa using hstatus)]
      exact secures_fail
    case pos =>
      rw [if_neg (by simpa using hstatus)]
      have hlive := ExaminedRecord.Fresh.live (hfresh current rfl) hstatuses hstatus
      refine (secures_change statusChange).bind ?_ (by rintro error u - _ ⟨⟩)
      rintro ⟨now, changed⟩ u hchange
      cases changed with
      | none => exact secures_fail
      | some changed =>
        obtain ⟨v, -, -, r, -, hselected, rfl⟩ := hchange
        obtain ⟨-, -, -, hdeadline, -⟩ := TransitionArguments.selects_iff.1 hselected
        rw [if_pos hunexpired] at hdeadline
        refine secures_bind (hannounce _ u) fun _ _ _ _ => secures_pure (returning_ok ?_)
        exact ⟨hlive, now, rfl, hdeadline⟩

theorem secures_announce {announce : TransferProgram Unit} :
    Secures meets (Returning fun _ => True) announce s := .of_forall fun _ _ _ _ => trivial

theorem secures_accept {transfer recipient : Uuid} :
    Secures meets (Returning fun result => result.1.Live ∧ result.2.Live)
      (accept account transfer recipient) s :=
  secures_changeCurrent (by decide) rfl fun _ _ => secures_announce

theorem secures_reject {transfer recipient : Uuid} :
    Secures meets (Returning fun result => result.1.Live ∧ result.2.Live)
      (reject account transfer recipient) s :=
  secures_changeCurrent (by decide) rfl fun _ _ => secures_announce

theorem secures_cancel {transfer actor : Uuid} :
    Secures meets (Returning fun result => result.1.Live ∧ result.2.Live)
      (cancel account transfer actor) s :=
  secures_changeCurrent (by decide) rfl fun _ _ => secures_announce

theorem secures_getPeerDeviceKey {transfer actorDevice : Uuid} {epoch : Option ℤ} :
    Secures meets (Returning fun result => result.1.Live)
      (getPeerDeviceKey account transfer actorDevice epoch) s := by
  unfold getPeerDeviceKey
  refine secures_bind secures_currentOrExpire fun current t _ hfresh => ?_
  cases current with
  | none => exact secures_fail
  | some current =>
    dsimp only
    by_cases hstatus : transferPeerKeyStatuses.contains current.record.status = true
    case neg =>
      rw [if_pos (by simpa using hstatus)]
      exact secures_fail
    case pos =>
      rw [if_neg (by simpa using hstatus)]
      have hlive := ExaminedRecord.Fresh.live (hfresh current rfl) (by decide) hstatus
      by_cases hinvolves : current.record.involves actorDevice = true
      case neg =>
        rw [if_pos (by simpa using hinvolves)]
        exact secures_fail
      case pos =>
        rw [if_neg (by simpa using hinvolves)]
        refine secures_await fun u _ _ _ => secures_await fun v _ _ _ => ?_
        generalize (perform (.getDevice account actorDevice) u).1 = actor
        generalize (perform (.getDevice account _) v).1 = peer
        cases actor with
        | none => exact secures_fail
        | some actor =>
          cases peer with
          | none => exact secures_fail
          | some peer =>
            dsimp only
            split
            · exact secures_pure (returning_ok hlive)
            · exact secures_fail

end TransferProgram

/-! ## Every run -/

/-- What a method returns keeps expired transfers out. -/
def TransferReply.Sound : TransferReply → Prop
  | .shown record => record.Fresh
  | .listed records => ∀ record ∈ records, record.Fresh
  | .changed current result => current.Live ∧ result.Live
  | .expired _ => True
  | .peer current _ => current.Live

/-- Where `list` reads a transfer again, which it does after an `expire` that found no row, the
transfer and its account are still there. -/
def TransferMethod.Finds : TransferMethod → TransferStatement → TransferState → Prop
  | .list _, .getById account transfer, s =>
    (TransferRequestRepository.getById s.db account transfer).isSome = true
  | _, _, _ => True

instance (method : TransferMethod) (statement : TransferStatement) (s : TransferState) :
    Decidable (method.Finds statement s) := by
  unfold TransferMethod.Finds
  split <;> infer_instance

/-- The calls of a service. -/
abbrev TransferCalls :=
  Calls TransferState TransferStatement TransferStatement.Answer TransferFault TransferReply
    TransferMethod

def TransferCalls.step (s : TransferCalls) (event : CallEvent TransferWorld TransferMethod) :
    Option TransferCalls :=
  Calls.step TransferState.perform TransferState.environment TransferMethod.program s event

section Runs

open TransferProgram TransferState

theorem program_ensures (method : TransferMethod) {s : TransferState} :
    Secures method.Finds (Returning TransferReply.Sound) method.program s := by
  cases method with
  | get account transfer =>
    exact secures_bind secures_get fun record t _ h => secures_pure (returning_ok h)
  | list account =>
    exact secures_bind (secures_list fun _ _ _ hfound => hfound) fun records t _ h =>
      secures_pure (returning_ok h)
  | accept account transfer recipient =>
    exact secures_bind secures_accept fun result t _ h => secures_pure (returning_ok h)
  | reject account transfer recipient =>
    exact secures_bind secures_reject fun result t _ h => secures_pure (returning_ok h)
  | cancel account transfer actor =>
    exact secures_bind secures_cancel fun result t _ h => secures_pure (returning_ok h)
  | expire account transfer =>
    have hany : Secures (TransferMethod.expire account transfer).Finds (Returning fun _ => True)
        (TransferProgram.expire account transfer) s := .of_forall fun _ _ _ _ => trivial
    exact secures_bind hany fun record t _ _ => secures_pure (returning_ok trivial)
  | getPeerDeviceKey account transfer actor epoch =>
    exact secures_bind secures_getPeerDeviceKey fun result t _ h => secures_pure (returning_ok h)

/-- In every run in which `list` finds the transfers that it reads again, no record that `get` or
`list` returns is active past its deadline, and no other method succeeds on such a transfer. -/
theorem expired_never_active {s t : TransferCalls}
    {events : List (CallEvent TransferWorld TransferMethod)}
    (hvalid : s.shared.Valid) (hcalls : ∀ id, s.calls id = none)
    (hrun : Run (fun s e t => Step TransferCalls.step s e t ∧
      s.Meets TransferMethod.Finds e) s events t)
    (id : ℕ) (method : TransferMethod) (reply : TransferReply)
    (hreply : t.returned id = some (method, reply)) : reply.Sound := by
  have hensured : Calls.Ensured perform Valid Later TransferMethod.Finds
      (fun _ result => ∀ reply, result = .ok reply → TransferReply.Sound reply) t :=
    Calls.run_ensures Later.trans (fun s _ => .refl s) (fun statement s hs =>
      later_perform hs statement)
      (fun s event t hs h => later_environment hs h) (fun method s _ =>
        program_ensures method) hvalid
      hcalls hrun
  exact hensured.calls id method _ (Calls.returned_eq_some.1 hreply) reply rfl

/-! ### A transfer that is gone -/

/-- The deadline of the only transfer has passed. -/
def staleCalls : TransferCalls where
  shared := { clock := 10, db := offeredDatabase, issued := [⟨4⟩] }
  calls _ := none

/-- `list` and `get` run together, and the statement of `get` expires the transfer first. -/
def listingRun : List (CallEvent TransferWorld TransferMethod) :=
  [.begin 0 (.list ⟨1⟩), .effect 0, .effect 0, .begin 1 (.get ⟨1⟩ ⟨4⟩), .effect 1,
    .effect 1, .effect 1,
    .effect 1, .effect 0, .effect 0, .effect 0]

theorem expired_never_active_race :
    ∃ t, Run (fun s e t => Step TransferCalls.step s e t ∧
      s.Meets TransferMethod.Finds e) staleCalls
        listingRun t ∧
      ∃ e : ExaminedRecord, e.record.status = .expired ∧
        t.returned 0 = some (.list ⟨1⟩, .listed [e]) ∧ (TransferReply.listed [e]).Sound := by
  have hrun :
    (exec (fun s e => if s.Meets TransferMethod.Finds e then TransferCalls.step s e else none)
      staleCalls listingRun).any (fun t => t.returned 0 =
        some (.list ⟨1⟩, .listed [⟨{ offeredDatabase.offer with status := .expired }, some 10⟩])) =
            true := by
    decide +kernel
  obtain ⟨t, hexec, hreturned⟩ := (Option.any_eq_true _ _).1 hrun
  have hreturned := of_decide_eq_true hreturned
  have hrun := Run.of_exec_guarded hexec
  have hvalid : staleCalls.shared.Valid := ⟨by decide, by decide⟩
  exact ⟨t, hrun, _, rfl, hreturned,
    expired_never_active hvalid (fun _ => rfl) hrun 0 _ _ hreturned⟩

/-- `list` shows a transfer of an account that is deleted between its two
statements, as an offer. -/
theorem expired_never_active_deleted :
    staleCalls.shared.Valid ∧ ∃ events t, Run (Step TransferCalls.step) staleCalls events t ∧
      ∃ method reply, t.returned 0 = some (method, reply) ∧ ¬ reply.Sound := by
  have hrun : (exec TransferCalls.step staleCalls
      [.begin 0 (.list ⟨1⟩), .effect 0, .effect 0,
        .environment (.other [⟨⟨1⟩, 0, some 10⟩] offeredDatabase.devices []), .effect 0, .effect 0,
        .effect 0]).any (fun t => t.returned 0 =
          some (.list ⟨1⟩, .listed [⟨offeredDatabase.offer, some 10⟩])) = true := by
    decide +kernel
  obtain ⟨t, hexec, hreturned⟩ := (Option.any_eq_true _ _).1 hrun
  refine ⟨⟨by decide, by decide⟩, _, t, Run.of_exec hexec, _, _, of_decide_eq_true hreturned,
    fun hsound => ?_⟩
  obtain ⟨now, hnow, hdeadline⟩ := hsound _ List.mem_cons_self rfl
  obtain rfl := Option.some.inj hnow
  exact absurd hdeadline (by decide)

end Runs

end SelfRelay.Backend
