import SelfRelay.Backend.Capacity
import SelfRelay.Backend.SignalingCalls

/-!
# Single use

A device queues a single-use message of a transfer at most once, and no message of a transfer after
its signaling state has ended, in every run in which no state ends under a call that is in flight.

The usage of a transfer remembers what was charged as long as it exists.  It ends only when the
transfer is over (`Over`): terminal, or expired by the clock.  For the retention this is so because
a usage is touched while its transfer exists, and the retention is longer than the lifetime.  A call
that reads the transfer after that rejects its message, so that only a call in flight could charge a
new usage.
-/

open StepSystem

namespace SelfRelay.Backend

/-! ## The table -/

/-- What the writes of the transfers keep: no row is lost, a row keeps its expiry and stays
terminal, and a new one has a new id and expires after the lifetime. -/
structure Evolves (now : Timestamp) (db db' : Database) : Prop where
  kept : ∀ r ∈ db.transfers, ∃ r' ∈ db'.transfers, r'.id = r.id
  rows : ∀ r' ∈ db'.transfers,
    (∃ r ∈ db.transfers, r.id = r'.id ∧ r'.expiresAt = r.expiresAt ∧
      (r.status.isTerminal = true → r'.status.isTerminal = true)) ∨
    (∀ r ∈ db.transfers, r.id ≠ r'.id) ∧ r'.expiresAt ≤ now + transferRequestLifetime
  keys : (db.transfers.map (·.id)).Nodup → (db'.transfers.map (·.id)).Nodup

section Table

variable {db db' : Database} {now : Timestamp} {op : TransferOperation}

theorem Evolves.of_transfers (h : db'.transfers = db.transfers) : Evolves now db db' := by
  refine ⟨fun r hr => ⟨r, h ▸ hr, rfl⟩, fun r' hr' => ?_, fun hkeys => h ▸ hkeys⟩
  exact .inl ⟨r', h ▸ hr', rfl, rfl, id⟩

theorem RowLaw.isTerminal {t t' : TransferRequestRecord} (h : RowLaw db now op t t')
    (hterminal : t.status.isTerminal = true) : t'.status.isTerminal = true := by
  rw [h.terminal hterminal]
  exact hterminal

theorem evolves_perform (h : op.withinLifetime now = true) :
    Evolves now db (TransferRequestRepository.perform db now op).1 := by
  have hkeys := (callLaw_perform db now op).keys
  cases hcreates : op.creates with
  | false =>
    obtain ⟨g, hdb, hrow⟩ := transfers_perform db now hcreates
    rw [hdb] at hkeys ⊢
    refine ⟨fun r hr => ⟨g r, List.mem_map_of_mem hr, (hrow r).id⟩, fun r' hr' => ?_, hkeys⟩
    obtain ⟨r, hr, rfl⟩ := List.mem_map.1 hr'
    exact .inl ⟨r, hr, (hrow r).id.symm, (hrow r).expiresAt, (hrow r).isTerminal⟩
  | true =>
    cases op with
    | create account sender recipient version expiresAt generated =>
      refine ⟨?_, ?_, hkeys⟩
      · intro r hr
        obtain ⟨r', hr', hlaw⟩ := (callLaw_perform db now _).rows r hr
        exact ⟨r', hr', hlaw.id⟩
      · intro r' hr'
        simp only [TransferRequestRepository.perform, TransferRequestRepository.create] at hr'
        split_ifs at hr'
        · split at hr'
          · exact .inl ⟨r', hr', rfl, rfl, fun h => h⟩
          · rename_i rows hinsert
            obtain ⟨-, hfresh, rfl⟩ := Table.insert_eq_ok.1 hinsert
            rcases List.mem_append.1 hr' with hr' | hr'
            · exact .inl ⟨r', hr', rfl, rfl, fun h => h⟩
            · obtain rfl := List.mem_singleton.1 hr'
              refine .inr ⟨fun r hr heq => hfresh ?_, of_decide_eq_true h⟩
              exact List.mem_map.2 ⟨r, hr, heq⟩
        · exact .inl ⟨r', hr', rfl, rfl, fun h => h⟩
    | _ => cases hcreates

theorem eq_of_id {r r' : TransferRequestRecord} (hkeys : (db.transfers.map (·.id)).Nodup)
    (hr : r ∈ db.transfers) (hr' : r' ∈ db.transfers) (hid : r.id = r'.id) : r = r' :=
  List.inj_on_of_nodup_map hkeys hr hr' hid

/-- A transition that returns a row has written the only row of its transfer. -/
theorem runTransition_commits {account transfer : Uuid} {args : TransitionArguments}
    {record : TransferRequestRecord} (hkeys : (db.transfers.map (·.id)).Nodup)
    (h : (runTransition db now account transfer args).2 = .ok (some record)) :
    (∃ r ∈ (runTransition db now account transfer args).1.transfers, r.id = transfer) ∧
      ∀ r ∈ (runTransition db now account transfer args).1.transfers, r.id = transfer →
        r.status = args.toStatus := by
  unfold runTransition Database.updateTransfers at h ⊢
  split at h
  · cases h
  · rename_i rows returned hupdate
    obtain ⟨-, rfl, rfl⟩ := Table.update_eq_ok.1 hupdate
    have hmem := List.mem_of_mem_head? (Except.ok.inj h)
    obtain ⟨r, hr, hselected, rfl⟩ := Table.mem_written.1 hmem
    have hid := (TransitionArguments.selects_iff.1 hselected).2.1
    refine ⟨⟨args.set now r, Table.mem_updated.2 (.inl ⟨r, hr, hselected, rfl⟩), hid⟩, ?_⟩
    intro r' hr' hid'
    rcases Table.mem_updated.1 hr' with ⟨r'', -, -, rfl⟩ | ⟨hr', hnot⟩
    · rfl
    · rw [eq_of_id hkeys hr' hr (hid'.trans hid.symm), hselected] at hnot
      cases hnot

/-- `TransferService` releases the state of a transfer that it has ended. -/
theorem released_commits {transfer : Uuid} {record : TransferRequestRecord}
    (hkeys : (db.transfers.map (·.id)).Nodup) (hop : op.released? = some transfer)
    (h : (TransferRequestRepository.perform db now op).2 = .ok (some record)) :
    (∃ r ∈ (TransferRequestRepository.perform db now op).1.transfers, r.id = transfer) ∧
      ∀ r ∈ (TransferRequestRepository.perform db now op).1.transfers, r.id = transfer →
        r.status.isTerminal = true := by
  cases op with
  | reject | cancel | expire =>
    obtain rfl := Option.some.inj hop
    obtain ⟨hknown, hrows⟩ := runTransition_commits hkeys h
    refine ⟨hknown, fun r hr hid => ?_⟩
    rw [hrows r hr hid]
    rfl
  | _ => cases hop

end Table

/-! ## The usages -/

namespace SignalingState

variable {s : SignalingState} {transfer : Uuid} {now : Timestamp}

theorem signaling_release : (s.releaseSignaling transfer).signaling = s.signaling.del transfer := by
  cases hget : s.signaling.get transfer with
  | none => rw [releaseSignaling, hget, Dict.del_eq_self hget]
  | some usage => rw [releaseSignaling_eq hget]

theorem get_release (transfer' : Uuid) :
    (s.releaseSignaling transfer).signaling.get transfer' =
      if transfer' = transfer then none else s.signaling.get transfer' := by
  rw [signaling_release]
  split_ifs with heq
  · rw [heq, Dict.get_del]
  · exact Dict.get_del_ne heq

theorem get_prune (transfer : Uuid) :
    (s.pruneSignalingState now).signaling.get transfer =
      if transfer ∈ s.staleTransfers now then none else s.signaling.get transfer := by
  rw [pruneSignalingState]
  generalize s.staleTransfers now = transfers
  induction transfers generalizing s with
  | nil => rfl
  | cons first transfers ih =>
    rw [List.foldl_cons, ih, get_release]
    by_cases hmem : transfer ∈ transfers
    · rw [if_pos hmem, if_pos (List.mem_cons_of_mem _ hmem)]
    · rw [if_neg hmem]
      simp only [List.mem_cons, hmem, or_false]

theorem mem_staleTransfers : transfer ∈ s.staleTransfers now ↔
    ∃ usage, s.signaling.get transfer = some usage ∧
      usage.updatedAt + signalingStateRetention ≤ now := by
  simp only [staleTransfers, List.mem_map, List.mem_filter, decide_eq_true_eq]
  constructor
  · rintro ⟨⟨transfer', usage⟩, ⟨hmem, hstale⟩, rfl⟩
    exact ⟨usage, Dict.mem_entries.1 hmem, hstale⟩
  · rintro ⟨usage, hget, hstale⟩
    exact ⟨⟨transfer, usage⟩, ⟨Dict.mem_entries.2 hget, hstale⟩, rfl⟩

theorem get_enter {account : Uuid} :
    (s.enter transfer account now).2.signaling.get transfer =
      some (s.enter transfer account now).1 := by
  unfold enter
  cases hget : s.signaling.get transfer with
  | some usage => exact hget
  | none => exact Dict.get_set

theorem get_enter_cases {account transfer' : Uuid} {usage : SignalingUsage}
    (h : (s.enter transfer account now).2.signaling.get transfer' = some usage) :
    s.signaling.get transfer' = some usage ∨ transfer' = transfer ∧ usage.updatedAt = now := by
  unfold enter at h
  cases hget : s.signaling.get transfer with
  | some usage' =>
    rw [hget] at h
    exact .inl h
  | none =>
    rw [hget] at h
    by_cases heq : transfer' = transfer
    · subst heq
      obtain rfl := Option.some.inj (Dict.get_set.symm.trans h)
      exact .inr ⟨rfl, rfl⟩
    · exact .inl ((Dict.get_set_ne heq).symm.trans h)

theorem countOf_charge {account : Uuid} {usage : SignalingUsage} {key : Uuid × SignalingType}
    (hget : s.signaling.get transfer = some usage) (transfer' : Uuid)
    (key' : Uuid × SignalingType) :
    (s.charge transfer account usage key now).countOf transfer' key' =
      s.countOf transfer' key' + if (transfer', key') = (transfer, key) then 1 else 0 := by
  simp only [countOf, charge, Prod.mk.injEq]
  by_cases heq : transfer' = transfer
  · subst heq
    rw [Dict.get_set, hget, Option.elim_some, Option.elim_some, SignalingUsage.count, count_set]
    by_cases hkey : key' = key
    · rw [if_pos hkey, if_pos ⟨rfl, hkey⟩, hkey]
    · rw [if_neg hkey, if_neg fun h => hkey h.2]
      rfl
  · rw [Dict.get_set_ne heq, if_neg fun h => heq h.1, Nat.add_zero]

/-- A message that is charged is counted, under its maximum. -/
theorem record_true {c : ActiveConnection} {type : SignalingType}
    (h : (s.recordSignalingUse transfer c type now now).1 = true) :
    s.countOf transfer (c.deviceId, type) < type.maximum ∧
    ∀ transfer' key, (s.recordSignalingUse transfer c type now now).2.countOf transfer' key =
      s.countOf transfer' key +
        if (transfer', key) = (transfer, (c.deviceId, type)) then 1 else 0 := by
  have hget : (s.enter transfer c.accountId now).2.signaling.get transfer =
      some (s.enter transfer c.accountId now).1 := get_enter
  have hcounts (transfer' : Uuid) : ∀ key,
      (s.enter transfer c.accountId now).2.countOf transfer' key = s.countOf transfer' key :=
    (enter_counts transfer').1
  unfold recordSignalingUse at h ⊢
  generalize s.enter transfer c.accountId now = entered at h hget hcounts ⊢
  obtain ⟨usage, s'⟩ := entered
  dsimp only at h hget hcounts ⊢
  split_ifs at h ⊢ with hfull
  simp only [Bool.or_eq_true, decide_eq_true_eq, not_or, Nat.not_le] at hfull
  refine ⟨?_, fun transfer' key => ?_⟩
  · rw [← hcounts, countOf, hget]
    exact hfull.1.1
  · rw [countOf_charge hget, hcounts]

theorem get_record {c : ActiveConnection} {type : SignalingType} {transfer' : Uuid}
    {usage : SignalingUsage}
    (h : (s.recordSignalingUse transfer c type now now).2.signaling.get transfer' = some usage) :
    s.signaling.get transfer' = some usage ∨ transfer' = transfer ∧ usage.updatedAt = now := by
  have hcases {usage : SignalingUsage}
      (h : (s.enter transfer c.accountId now).2.signaling.get transfer' = some usage) :=
    get_enter_cases h
  unfold recordSignalingUse at h
  generalize s.enter transfer c.accountId now = entered at h hcases
  obtain ⟨usage', s'⟩ := entered
  dsimp only at h hcases
  split_ifs at h
  · exact hcases h
  · by_cases heq : transfer' = transfer
    · subst heq
      obtain rfl := Option.some.inj (Dict.get_set.symm.trans h)
      exact .inr ⟨rfl, rfl⟩
    · exact hcases ((Dict.get_set_ne heq).symm.trans h)

end SignalingState

/-! ## The invariant -/

/-- The transfer is known, and terminal or expired. -/
structure Over (db : Database) (now : Timestamp) (transfer : Uuid) : Prop where
  known : ∃ r ∈ db.transfers, r.id = transfer
  rows : ∀ r ∈ db.transfers, r.id = transfer → r.status.isTerminal = true ∨ r.expiresAt ≤ now

/-- What is known of a call.  A transfer that was read keeps its expiry, and stays terminal. -/
def CallSound (s : RelayState) (call : ForwardCall) : Prop :=
  match call.phase with
  | .reading | .read none => True
  | .read (some t) =>
    (∃ r ∈ s.db.transfers, r.id = t.id) ∧
    (∀ r ∈ s.db.transfers, r.id = t.id → r.expiresAt = t.expiresAt ∧
      (t.status.isTerminal = true → r.status.isTerminal = true)) ∧
    (call.goesOn t s.clock = true → t.id ∉ s.released)
  | .clearing t => Over s.db s.clock t
  | .negotiating t | .charging t | .sending t =>
    (∃ r ∈ s.db.transfers, r.id = t) ∧ t ∉ s.released

/-- The messages that were queued, and those that calls have been charged for. -/
def RelayState.used (s : RelayState) (item : Uuid × Uuid × SignalingType) : ℕ :=
  s.queued.count item + s.calls.total (ForwardCall.sends item)

structure RelaySound (s : RelayState) : Prop where
  keys : (s.db.transfers.map (·.id)).Nodup
  lifetime : ∀ r ∈ s.db.transfers, r.expiresAt ≤ s.clock + transferRequestLifetime
  releasing : ∀ transfer ∈ s.releasing, Over s.db s.clock transfer
  released : ∀ transfer ∈ s.released, Over s.db s.clock transfer
  /-- A usage is touched while its transfer exists. -/
  usages : ∀ transfer usage, s.signaling.signaling.get transfer = some usage →
    (∃ r ∈ s.db.transfers, r.id = transfer) ∧
    ∀ r ∈ s.db.transfers, r.id = transfer → r.expiresAt ≤ usage.updatedAt + transferRequestLifetime
  calls : ∀ id call, s.calls.get id = some call → CallSound s call
  /-- The usage remembers what was charged. -/
  charged : ∀ transfer device type, transfer ∉ s.released →
    s.used (transfer, device, type) ≤ s.signaling.countOf transfer (device, type)
  limits : ∀ transfer key, s.signaling.countOf transfer key ≤ key.2.maximum
  single : ∀ transfer device type, type.isSingleUse = true → s.used (transfer, device, type) ≤ 1

section Sound

variable {s : RelayState} {transfer : Uuid} {id : ℕ} {call : ForwardCall}

/-! ### Time and writes -/

theorem Over.advance {db db' : Database} {now later : Timestamp} (h : Over db now transfer)
    (hdb : Evolves now db db') (hlater : now ≤ later) : Over db' later transfer := by
  obtain ⟨r, hr, hid⟩ := h.known
  obtain ⟨r', hr', hid'⟩ := hdb.kept r hr
  refine ⟨⟨r', hr', hid'.trans hid⟩, fun r' hr' hid' => ?_⟩
  rcases hdb.rows r' hr' with ⟨r'', hr'', hsame, hexpires, hterminal⟩ | ⟨hnew, -⟩
  · rcases h.rows r'' hr'' (hsame.trans hid') with hover | hover
    · exact .inl (hterminal hover)
    · right
      rw [hexpires]
      exact hover.trans hlater
  · exact (hnew r hr (hid.trans hid'.symm)).elim

theorem known_advance {db : Database} {now : Timestamp} (hdb : Evolves now s.db db)
    (h : ∃ r ∈ s.db.transfers, r.id = transfer) : ∃ r ∈ db.transfers, r.id = transfer := by
  obtain ⟨r, hr, hid⟩ := h
  obtain ⟨r', hr', hid'⟩ := hdb.kept r hr
  exact ⟨r', hr', hid'.trans hid⟩

theorem activeTransfer_mono {t : TransferRequestRecord} {now later : Timestamp} (h : now ≤ later)
    (hactive : activeTransfer t later = true) : activeTransfer t now = true := by
  simp only [activeTransfer, Bool.and_eq_true, decide_eq_true_eq] at hactive ⊢
  exact ⟨hactive.1, h.trans_lt hactive.2⟩

theorem messageExpiry_earlier {value : Python.PyValue} {now later time : Timestamp}
    (hle : now ≤ later) (h : messageExpiry value later = some time) :
    messageExpiry value now = some time := by
  obtain ⟨millis, rfl, htime, hlt⟩ := messageExpiry_eq_some h
  exact Option.filter_eq_some_iff.2 ⟨htime, decide_eq_true (hle.trans_lt hlt)⟩

/-- Checks that are passed were passed before, too. -/
theorem decideRead_earlier {c : ActiveConnection} {message : Python.PyDict}
    {parsed : ParsedSignaling}
    {t : TransferRequestRecord} {checkedAt expiryAt now now' : Timestamp}
    (hchecked : now ≤ checkedAt)
    (hexpiry : now' ≤ expiryAt)
    (hreject : decideRead c message parsed (some t) checkedAt expiryAt ≠ .reject)
    (hclear : decideRead c message parsed (some t) checkedAt expiryAt ≠ .clear t.id) :
    decideRead c message parsed (some t) now now' =
      decideRead c message parsed (some t) checkedAt expiryAt := by
  have hactive : activeTransfer t checkedAt = true := by
    by_contra hnot
    exact hclear (by simp [decideRead, hnot])
  have hunexpired : (messageExpiry (message.get "expires_at") expiryAt).any
      (· ≤ t.expiresAt) = true := by
    by_contra hnot
    exact hreject (by simp [decideRead, hactive, hnot])
  have hunexpired' : (messageExpiry (message.get "expires_at") now').any
      (· ≤ t.expiresAt) = true := by
    obtain ⟨time, htime, hle⟩ := (Option.any_eq_true _ _).1 hunexpired
    exact (Option.any_eq_true _ _).2 ⟨time, messageExpiry_earlier hexpiry htime, hle⟩
  simp only [decideRead, hactive, hunexpired, activeTransfer_mono hchecked hactive, hunexpired']

theorem ForwardCall.goesOn_of_decideRead {t : TransferRequestRecord}
    {now checkedAt expiryAt : Timestamp}
    (hchecked : now ≤ checkedAt) (hexpiry : now ≤ expiryAt)
    (hreject : decideRead call.connection call.message call.parsed (some t) checkedAt
      expiryAt ≠ .reject)
    (hclear : ∀ id,
      decideRead call.connection call.message call.parsed (some t) checkedAt expiryAt ≠ .clear id) :
    call.goesOn t now = true := by
  rw [goesOn, decideRead_earlier hchecked hexpiry hreject (hclear t.id)]
  split
  · rfl
  · rfl
  · exact absurd ‹_› hreject
  · exact absurd ‹_› (hclear _)

theorem ForwardCall.goesOn_earlier {t : TransferRequestRecord} {now later : Timestamp}
    (hle : now ≤ later) (h : call.goesOn t later = true) : call.goesOn t now = true := by
  refine goesOn_of_decideRead hle hle (fun hreject => ?_) fun id hclear => ?_
  · rw [goesOn, hreject] at h
    cases h
  · rw [goesOn, hclear] at h
    cases h

theorem CallSound.advance {db : Database} {clock : Timestamp} (h : CallSound s call)
    (hdb : Evolves s.clock s.db db) (hclock : s.clock ≤ clock) :
    CallSound { s with db, clock } call := by
  unfold CallSound at h ⊢
  split at h
  · trivial
  · trivial
  · rename_i t _
    obtain ⟨hknown, hrows, hactive⟩ := h
    refine ⟨known_advance hdb hknown, fun r' hr' hid' => ?_, fun h => ?_⟩
    · rcases hdb.rows r' hr' with ⟨r, hr, hsame, hexpires, hterminal⟩ | ⟨hnew, -⟩
      · obtain ⟨hexpiry, hover⟩ := hrows r hr (hsame.trans hid')
        exact ⟨hexpires.trans hexpiry, fun h => hterminal (hover h)⟩
      · obtain ⟨r, hr, hid⟩ := hknown
        exact (hnew r hr (hid.trans hid'.symm)).elim
    · exact hactive (ForwardCall.goesOn_earlier hclock h)
  · exact h.advance hdb hclock
  · exact ⟨known_advance hdb h.1, h.2⟩
  · exact ⟨known_advance hdb h.1, h.2⟩
  · exact ⟨known_advance hdb h.1, h.2⟩

/-- The clock goes on and the tables evolve. -/
theorem RelaySound.advance {db : Database} {clock : Timestamp} (h : RelaySound s)
    (hdb : Evolves s.clock s.db db) (hclock : s.clock ≤ clock) :
    RelaySound { s with db, clock } where
  keys := hdb.keys h.keys
  lifetime := by
    intro r' hr'
    rcases hdb.rows r' hr' with ⟨r, hr, -, hexpires, -⟩ | ⟨-, hexpires⟩
    · rw [hexpires]
      exact (h.lifetime r hr).trans (Nat.add_le_add_right hclock _)
    · exact hexpires.trans (Nat.add_le_add_right hclock _)
  releasing transfer hmem := (h.releasing transfer hmem).advance hdb hclock
  released transfer hmem := (h.released transfer hmem).advance hdb hclock
  usages := by
    intro transfer usage hget
    obtain ⟨hknown, hrows⟩ := h.usages transfer usage hget
    refine ⟨known_advance hdb hknown, fun r' hr' hid' => ?_⟩
    rcases hdb.rows r' hr' with ⟨r, hr, hsame, hexpires, -⟩ | ⟨hnew, -⟩
    · rw [hexpires]
      exact hrows r hr (hsame.trans hid')
    · obtain ⟨r, hr, hid⟩ := hknown
      exact (hnew r hr (hid.trans hid'.symm)).elim
  calls id call hget := (h.calls id call hget).advance hdb hclock
  charged := h.charged
  limits := h.limits
  single := h.single

/-! ### Calls -/

theorem sends_of_ne {item : Uuid × Uuid × SignalingType} (h : ∀ t, call.phase ≠ .sending t) :
    call.sends item = 0 := by
  unfold ForwardCall.sends
  split
  · rename_i t hphase
    exact (h t hphase).elim
  · rfl

/-- A call at another await, which it has not been charged for. -/
theorem RelaySound.goOn {phase : ForwardPhase} (h : RelaySound s)
    (hphase : CallSound s { call with phase }) (hsends : ∀ t, phase ≠ .sending t) :
    RelaySound (s.goOn id call phase) := by
  have hused (item : Uuid × Uuid × SignalingType) : (s.goOn id call phase).used item ≤
      s.used item := by
    have htotal := Dict.total_set (d := s.calls) (k := id) (v := { call with phase })
      (f := ForwardCall.sends item)
    rw [sends_of_ne hsends] at htotal
    unfold RelayState.used RelayState.goOn
    dsimp only
    omega
  refine { h with
    calls := ?_
    charged := fun transfer device type hnot =>
      (hused _).trans (h.charged transfer device type hnot)
    single := fun transfer device type hsingle =>
      (hused _).trans (h.single transfer device type hsingle) }
  intro id' call' hget
  by_cases heq : id' = id
  · subst heq
    obtain rfl := Option.some.inj (Dict.get_set.symm.trans hget)
    exact hphase
  · exact h.calls id' call' ((Dict.get_set_ne heq).symm.trans hget)

theorem RelaySound.finish (h : RelaySound s) : RelaySound (s.finish id) := by
  have hused (item : Uuid × Uuid × SignalingType) : (s.finish id).used item ≤ s.used item := by
    have htotal := Dict.total_del_get (d := s.calls) (k := id) (f := ForwardCall.sends item)
    unfold RelayState.used RelayState.finish
    dsimp only
    omega
  refine { h with
    calls := ?_
    charged := fun transfer device type hnot =>
      (hused _).trans (h.charged transfer device type hnot)
    single := fun transfer device type hsingle =>
      (hused _).trans (h.single transfer device type hsingle) }
  intro id' call' hget
  by_cases heq : id' = id
  · rw [heq, RelayState.finish, Dict.get_del] at hget
    cases hget
  · exact h.calls id' call' ((Dict.get_del_ne heq).symm.trans hget)

/-! ### The end of a usage -/

theorem not_inFlight (h : s.inFlight transfer = false) (hget : s.calls.get id = some call) :
    call.inFlight transfer s.clock = false := by
  have hall := List.any_eq_false.1 h call (Dict.mem_values.2 ⟨id, hget⟩)
  simpa using hall

/-- What a call knows when states end that it is not in flight for. -/
theorem CallSound.release {signaling : SignalingState} {transfers : List Uuid}
    (h : CallSound s call)
    (hflight : ∀ transfer ∈ transfers, call.inFlight transfer s.clock = false) :
    CallSound { s with signaling, released := transfers ++ s.released } call := by
  unfold CallSound at h ⊢
  split at h
  · trivial
  · trivial
  · rename_i t hphase
    refine ⟨h.1, h.2.1, fun hactive hmem => ?_⟩
    rcases List.mem_append.1 hmem with hmem | hmem
    · have hnot := hflight t.id hmem
      rw [ForwardCall.inFlight, hphase] at hnot
      simp [hactive] at hnot
    · exact h.2.2 hactive hmem
  · exact h
  all_goals
    rename_i t hphase
    refine ⟨h.1, fun hmem => ?_⟩
    rcases List.mem_append.1 hmem with hmem | hmem
    · have hnot := hflight t hmem
      rw [ForwardCall.inFlight, hphase] at hnot
      simp at hnot
    · exact h.2 hmem

theorem countOf_of_get {signaling signaling' : SignalingState}
    (h : signaling'.signaling.get transfer = signaling.signaling.get transfer)
    (key : Uuid × SignalingType) :
    signaling'.countOf transfer key = signaling.countOf transfer key := by
  rw [SignalingState.countOf, SignalingState.countOf, h]

/-- The usages of some transfers end. -/
theorem RelaySound.release (transfers : List Uuid) {signaling : SignalingState} (h : RelaySound s)
    (hover : ∀ transfer ∈ transfers, Over s.db s.clock transfer)
    (hflight : ∀ transfer ∈ transfers, s.inFlight transfer = false)
    (hget : ∀ transfer, signaling.signaling.get transfer =
      if transfer ∈ transfers then none else s.signaling.signaling.get transfer) :
    RelaySound { s with signaling, released := transfers ++ s.released } where
  keys := h.keys
  lifetime := h.lifetime
  releasing := h.releasing
  released := by
    intro transfer hmem
    rcases List.mem_append.1 hmem with hmem | hmem
    · exact hover transfer hmem
    · exact h.released transfer hmem
  usages := by
    intro transfer usage husage
    rw [hget] at husage
    split_ifs at husage
    exact h.usages transfer usage husage
  calls id call hcall :=
    (h.calls id call hcall).release fun transfer hmem => not_inFlight (hflight transfer hmem) hcall
  charged := by
    intro transfer device type hnot
    rw [List.mem_append, not_or] at hnot
    have hsame := (hget transfer).trans (if_neg hnot.1)
    rw [countOf_of_get hsame]
    exact h.charged transfer device type hnot.2
  limits := by
    intro transfer key
    by_cases hmem : transfer ∈ transfers
    · rw [SignalingState.countOf, (hget transfer).trans (if_pos hmem)]
      exact Nat.zero_le _
    · rw [countOf_of_get ((hget transfer).trans (if_neg hmem))]
      exact h.limits transfer key
  single := h.single

theorem RelaySound.clear (h : RelaySound s) (hover : Over s.db s.clock transfer)
    (hflight : s.inFlight transfer = false) : RelaySound (s.clearSignalingState transfer) := by
  refine h.release [transfer] ?_ ?_ fun transfer' => ?_
  · intro transfer' hmem
    rw [List.mem_singleton.1 hmem]
    exact hover
  · intro transfer' hmem
    rw [List.mem_singleton.1 hmem]
    exact hflight
  · rw [SignalingState.get_release]
    simp only [List.mem_singleton]

/-- The retention is longer than the lifetime: a transfer with a stale usage has expired. -/
theorem RelaySound.over_of_stale {now : Timestamp} (h : RelaySound s) (hnow : now ≤ s.clock)
    (hstale : transfer ∈ s.signaling.staleTransfers now) : Over s.db s.clock transfer := by
  obtain ⟨usage, hget, hold⟩ := SignalingState.mem_staleTransfers.1 hstale
  obtain ⟨hknown, hrows⟩ := h.usages transfer usage hget
  refine ⟨hknown, fun r hr hid => .inr ?_⟩
  calc r.expiresAt ≤ usage.updatedAt + transferRequestLifetime := hrows r hr hid
    _ ≤ usage.updatedAt + signalingStateRetention := Nat.add_le_add_left (by decide) _
    _ ≤ now := hold
    _ ≤ s.clock := hnow

theorem RelaySound.prune {now : Timestamp} (h : RelaySound s) (hnow : now ≤ s.clock)
    (hflight : ∀ transfer ∈ s.signaling.staleTransfers now, s.inFlight transfer = false) :
    RelaySound { s with
      signaling := s.signaling.pruneSignalingState now
      released := s.signaling.staleTransfers now ++ s.released } :=
  h.release _ (fun _ hstale => h.over_of_stale hnow hstale) hflight SignalingState.get_prune

/-! ### Charges -/

theorem usages_record {c : ActiveConnection} {type : SignalingType} (h : RelaySound s)
    (hknown : ∃ r ∈ s.db.transfers, r.id = transfer) {transfer' : Uuid} {usage : SignalingUsage}
    (hget : (s.signaling.recordSignalingUse transfer c type s.clock
      s.clock).2.signaling.get transfer' =
      some usage) :
    (∃ r ∈ s.db.transfers, r.id = transfer') ∧
    ∀ r ∈ s.db.transfers, r.id = transfer' →
    r.expiresAt ≤ usage.updatedAt + transferRequestLifetime := by
  rcases SignalingState.get_record hget with hold | ⟨rfl, hupdated⟩
  · exact h.usages transfer' usage hold
  · refine ⟨hknown, fun r hr _ => ?_⟩
    rw [hupdated]
    exact h.lifetime r hr

/-- A message that is not charged. -/
theorem RelaySound.record_false {c : ActiveConnection} {type : SignalingType} (h : RelaySound s)
    (hknown : ∃ r ∈ s.db.transfers, r.id = transfer)
    (hrecord : (s.signaling.recordSignalingUse transfer c type s.clock s.clock).1 = false) :
    RelaySound { s with
      signaling := (s.signaling.recordSignalingUse transfer c type s.clock s.clock).2 } := by
  obtain ⟨hcounts, -, -⟩ := SignalingState.record_false hrecord
  refine { h with
    usages := fun transfer' usage hget => usages_record h hknown hget
    charged := fun transfer' device type' hnot => ?_
    limits := fun transfer' key => ?_ }
  · dsimp only
    rw [hcounts]
    exact h.charged transfer' device type' hnot
  · dsimp only
    rw [hcounts]
    exact h.limits transfer' key

/-- A message that is charged: its call may queue it, and the usage has counted it. -/
theorem RelaySound.record_true (h : RelaySound s) (hget : s.calls.get id = some call)
    (hphase : call.phase = .charging transfer)
    (hrecord : (s.signaling.recordSignalingUse transfer call.connection call.parsed.type s.clock
      s.clock).1 = true) :
    RelaySound ({ s with
      signaling := (s.signaling.recordSignalingUse transfer call.connection call.parsed.type s.clock
        s.clock).2 }.goOn id call (.sending transfer)) := by
  obtain ⟨hmax, hcounts⟩ := SignalingState.record_true hrecord
  have hcall := h.calls id call hget
  rw [CallSound, hphase] at hcall
  obtain ⟨hknown, hnot⟩ := hcall
  have hused (item : Uuid × Uuid × SignalingType) :
      ({ s with
        signaling :=
          (s.signaling.recordSignalingUse transfer call.connection call.parsed.type s.clock
          s.clock).2 }.goOn id call (.sending transfer)).used item =
        s.used item + if call.item transfer = item then 1 else 0 := by
    have htotal := Dict.total_set (d := s.calls) (k := id) (f := ForwardCall.sends item)
      (v := { call with phase := .sending transfer })
    rw [hget, Option.elim_some, sends_of_ne (by simp [hphase])] at htotal
    unfold RelayState.used RelayState.goOn
    exact (congrArg (_ + ·) htotal).trans (Nat.add_assoc ..).symm
  have hkey (transfer' device : Uuid) (type : SignalingType) :
      call.item transfer = (transfer', device, type) ↔
        (transfer', (device, type)) = (transfer, (call.connection.deviceId, call.parsed.type)) := by
    rw [ForwardCall.item, eq_comm]
  exact {
    keys := h.keys
    lifetime := h.lifetime
    releasing := h.releasing
    released := h.released
    usages := fun transfer' usage hget => usages_record h hknown hget
    calls := by
      intro id' call' hget'
      by_cases heq : id' = id
      · subst heq
        obtain rfl := Option.some.inj (Dict.get_set.symm.trans hget')
        exact ⟨hknown, hnot⟩
      · exact h.calls id' call' ((Dict.get_set_ne heq).symm.trans hget')
    charged := by
      intro transfer' device type hnot'
      rw [hused]
      refine (Nat.add_le_add_right (h.charged transfer' device type hnot') _).trans_eq ?_
      exact (hcounts transfer' (device, type) ▸ by simp only [hkey])
    limits := by
      intro transfer' key
      refine (hcounts transfer' key).trans_le ?_
      split_ifs with hitem
      · obtain ⟨rfl, rfl⟩ := Prod.mk.inj hitem
        exact hmax
      · exact h.limits transfer' key
    single := by
      intro transfer' device type hsingle
      rw [hused]
      split_ifs with hitem
      · obtain ⟨rfl, rfl, rfl⟩ : transfer = transfer' ∧ call.connection.deviceId = device ∧
            call.parsed.type = type := by
          simpa [ForwardCall.item] using hitem
        have hle := h.charged transfer call.connection.deviceId call.parsed.type hnot
        rw [SignalingType.maximum, if_pos hsingle] at hmax
        omega
      · exact h.single transfer' device type hsingle }

/-- The call queues its message, or not. -/
theorem RelaySound.enqueue {accepted : Bool} (h : RelaySound s) (hget : s.calls.get id = some call)
    (hphase : call.phase = .sending transfer) :
    RelaySound ({ s with
      queued := if accepted then call.item transfer :: s.queued else s.queued }.finish id) := by
  have hused (item : Uuid × Uuid × SignalingType) :
      ({ s with
        queued := if accepted then call.item transfer :: s.queued else
          s.queued }.finish id).used item ≤
        s.used item := by
    have htotal := Dict.total_del (f := ForwardCall.sends item) hget
    have hsends : call.sends item = if call.item transfer = item then 1 else 0 := by
      rw [ForwardCall.sends, hphase]
    rw [hsends] at htotal
    unfold RelayState.used RelayState.finish
    dsimp only
    cases accepted with
    | false =>
      rw [if_neg Bool.false_ne_true]
      omega
    | true =>
      rw [if_pos rfl, List.count_cons]
      simp only [beq_iff_eq]
      omega
  refine { h with
    calls := ?_
    charged := fun transfer device type hnot =>
      (hused _).trans (h.charged transfer device type hnot)
    single := fun transfer device type hsingle =>
      (hused _).trans (h.single transfer device type hsingle) }
  exact h.finish.calls

/-! ### Reads -/

theorem contains_signalingActiveStatuses {status : TransferStatus} :
    signalingActiveStatuses.contains status = !status.isTerminal := by
  cases status <;> decide

theorem over_of_not_active {t : TransferRequestRecord} {now : Timestamp}
    (h : activeTransfer t now = false) : t.status.isTerminal = true ∨ t.expiresAt ≤ now := by
  rw [activeTransfer, contains_signalingActiveStatuses, Bool.and_eq_false_iff, Bool.not_eq_false',
    decide_eq_false_iff_not, not_lt] at h
  exact h

/-- What a decision says about the transfer that was read. -/
def ReadDecision.Reads (transfer : Option TransferRequestRecord) (now : Timestamp) :
    ReadDecision → Prop
  | .reject => True
  | .clear id => ∃ t, transfer = some t ∧ activeTransfer t now = false ∧ id = t.id
  | .negotiate t | .charge t => transfer = some t ∧ activeTransfer t now = true

theorem decideRead_reads {c : ActiveConnection} {message : Python.PyDict} {parsed : ParsedSignaling}
    {transfer : Option TransferRequestRecord} {now later : Timestamp} :
    (decideRead c message parsed transfer now later).Reads transfer now := by
  fun_cases decideRead c message parsed transfer now later with
  | case1 | case3 | case4 | case5 | case6 | case9 => trivial
  | case2 t hactive => exact ⟨t, rfl, by simpa using hactive, rfl⟩
  | case7 t hactive | case8 t hactive | case10 t hactive | case11 t hactive =>
    exact ⟨rfl, by simpa using hactive⟩

theorem ForwardCall.active_of_goesOn {t : TransferRequestRecord} {now : Timestamp}
    (h : call.goesOn t now = true) : activeTransfer t now = true := by
  have hreads : (decideRead call.connection call.message call.parsed (some t) now now).Reads
      (some t) now :=
    decideRead_reads
  unfold goesOn at h
  split at h
  · rename_i t' hdecide
    rw [hdecide] at hreads
    obtain rfl := Option.some.inj hreads.1
    exact hreads.2
  · rename_i t' hdecide
    rw [hdecide] at hreads
    obtain rfl := Option.some.inj hreads.1
    exact hreads.2
  · cases h
  · cases h

/-- `get_by_id` returns to its call. -/
theorem RelaySound.decided {t : Option TransferRequestRecord} {later : Timestamp} (h : RelaySound s)
    (hget : s.calls.get id = some call) (hphase : call.phase = .read t) (hlater : s.clock ≤ later) :
    RelaySound (s.decided id call t later) := by
  have hcall := h.calls id call hget
  rw [CallSound, hphase] at hcall
  have hreads : (decideRead call.connection call.message call.parsed t s.clock later).Reads
      t s.clock :=
    decideRead_reads
  unfold RelayState.decided
  split
  · exact h.finish
  · rename_i transfer hdecide
    rw [hdecide] at hreads
    obtain ⟨t, rfl, hactive, rfl⟩ := hreads
    obtain ⟨hknown, hrows, -⟩ := hcall
    refine h.goOn ⟨hknown, fun r hr hid => ?_⟩ (by rintro _ ⟨⟩)
    obtain ⟨hexpires, hterminal⟩ := hrows r hr hid
    rcases over_of_not_active hactive with hover | hover
    · exact .inl (hterminal hover)
    · exact .inr (hexpires.trans_le hover)
  all_goals
    rename_i t hdecide
    rw [hdecide] at hreads
    obtain ⟨rfl, -⟩ := hreads
    have hgoes : call.goesOn t s.clock = true :=
      ForwardCall.goesOn_of_decideRead le_rfl hlater (by rw [hdecide]; nofun)
        (by rw [hdecide]; nofun)
    exact h.goOn ⟨hcall.1, hcall.2.2 hgoes⟩ (by rintro _ ⟨⟩)

/-- `get_by_id` takes effect. -/
theorem RelaySound.callSound_read (h : RelaySound s) (account transfer : Uuid) :
    CallSound s { call with
      phase := .read (TransferRequestRepository.getById s.db account transfer) } := by
  unfold CallSound
  dsimp only
  cases hread : TransferRequestRepository.getById s.db account transfer with
  | none => trivial
  | some t =>
    obtain ⟨hmem, -, -⟩ := TransferRequestRepository.getById_eq_some hread
    refine ⟨⟨t, hmem, rfl⟩, fun r hr hid => ?_, fun hgoes hreleased => ?_⟩
    · rw [eq_of_id h.keys hr hmem hid]
      exact ⟨rfl, fun h => h⟩
    · have hactive := ForwardCall.active_of_goesOn hgoes
      simp only [activeTransfer, contains_signalingActiveStatuses, Bool.and_eq_true,
        Bool.not_eq_true', decide_eq_true_eq] at hactive
      rcases (h.released t.id hreleased).rows t hmem rfl with hover | hover
      · rw [hactive.1] at hover
        cases hover
      · exact absurd hactive.2 hover.not_gt

end Sound

/-! ## Steps -/

/-- What a quiet step keeps: the invariant, the states that have ended, and the messages of their
transfers. -/
structure RelayStep (s t : RelayState) : Prop where
  sound : RelaySound t
  released : s.released ⊆ t.released
  queued : ∀ transfer ∈ s.released,
    t.queued.filter (·.1 = transfer) = s.queued.filter (·.1 = transfer)

section Step

variable {s t : RelayState} {e : RelayEvent} {depth : ℕ}

theorem RelayStep.of_queued (h : RelaySound t) (hreleased : s.released ⊆ t.released)
    (hqueued : t.queued = s.queued) : RelayStep s t :=
  ⟨h, hreleased, fun _ _ => by rw [hqueued]⟩

theorem decided_released (s : RelayState) (id : ℕ) (call : ForwardCall)
    (transfer : Option TransferRequestRecord) (later : Timestamp) :
    (s.decided id call transfer later).released = s.released ∧
      (s.decided id call transfer later).queued = s.queued ∧
      (s.decided id call transfer later).clock = s.clock := by
  unfold RelayState.decided
  split <;> exact ⟨rfl, rfl, rfl⟩

theorem relayStep_operate {op : TransferOperation} (h : RelaySound s)
    (hstep : s.step depth (.operate op) = some t) : RelayStep s t := by
  obtain ⟨hlifetime, hsome⟩ := Option.ite_none_right_eq_some.1 hstep
  obtain rfl := Option.some.inj hsome
  have hadvance := h.advance (evolves_perform hlifetime) le_rfl
  refine .of_queued { hadvance with releasing := ?_ } (List.Subset.refl _) rfl
  intro transfer hmem
  dsimp only at hmem
  split at hmem
  · rename_i transfer' record hop hresult
    rcases List.mem_cons.1 hmem with rfl | hmem
    · obtain ⟨hknown, hrows⟩ := released_commits h.keys hop hresult
      exact ⟨hknown, fun r hr hid => .inl (hrows r hr hid)⟩
    · exact hadvance.releasing transfer hmem
  · exact hadvance.releasing transfer hmem

theorem relayStep_release {transfer : Uuid} (h : RelaySound s)
    (hquiet : s.quiet (.release transfer) = true)
    (hstep : s.step depth (.release transfer) = some t) : RelayStep s t := by
  obtain ⟨hmem, hsome⟩ := Option.ite_none_right_eq_some.1 hstep
  obtain rfl := Option.some.inj hsome
  have hclear := h.clear (h.releasing transfer hmem) (Bool.eq_false_of_not_eq_true' hquiet)
  refine .of_queued { hclear with releasing := ?_ } (List.subset_cons_self _ _) rfl
  intro transfer' hmem'
  exact h.releasing transfer' (List.mem_of_mem_erase hmem')

theorem relayStep_of_step (h : RelaySound s) (hquiet : s.quiet e = true)
    (hstep : s.step depth e = some t) : RelayStep s t := by
  cases e with
  | tick time =>
    obtain ⟨hle, hsome⟩ := Option.ite_none_right_eq_some.1 hstep
    obtain rfl := Option.some.inj hsome
    exact .of_queued (h.advance (.of_transfers rfl) hle) (List.Subset.refl _) rfl
  | operate op => exact relayStep_operate h hstep
  | other users devices sessions =>
    obtain rfl := Option.some.inj hstep
    exact .of_queued (h.advance (.of_transfers rfl) le_rfl) (List.Subset.refl _) rfl
  | release transfer => exact relayStep_release h hquiet hstep
  | prune now =>
    obtain ⟨hle, hsome⟩ := Option.ite_none_right_eq_some.1 hstep
    obtain rfl := Option.some.inj hsome
    have hflight : ∀ transfer ∈ s.signaling.staleTransfers now, s.inFlight transfer = false :=
      fun transfer hmem => Bool.eq_false_of_not_eq_true' (List.all_eq_true.1 hquiet transfer hmem)
    exact .of_queued (h.prune hle hflight) (List.subset_append_right _ _) rfl
  | begin id connection message =>
    simp only [RelayState.step] at hstep
    split at hstep
    · obtain rfl := Option.some.inj hstep
      exact .of_queued (h.goOn trivial (by rintro _ ⟨⟩)) (List.Subset.refl _) rfl
    · cases hstep
  | read id =>
    simp only [RelayState.step] at hstep
    split at hstep
    · split at hstep
      · obtain rfl := Option.some.inj hstep
        exact .of_queued (h.goOn (h.callSound_read _ _) (by rintro _ ⟨⟩)) (List.Subset.refl _) rfl
      · cases hstep
    · cases hstep
  | check id later =>
    simp only [RelayState.step] at hstep
    split at hstep
    · rename_i call hget
      split at hstep
      · rename_i transfer hphase
        obtain ⟨hle, hsome⟩ := Option.ite_none_right_eq_some.1 hstep
        obtain rfl := Option.some.inj hsome
        obtain ⟨hreleased, hqueued, hclock⟩ := decided_released s id call transfer later
        refine .of_queued ?_ (hreleased ▸ List.Subset.refl _) hqueued
        exact (h.decided hget hphase hle).advance (.of_transfers rfl) (hclock.trans_le hle)
      · cases hstep
    · cases hstep
  | clear id =>
    simp only [RelayState.step] at hstep
    split at hstep
    · rename_i call hget
      split at hstep
      · rename_i transfer hphase
        obtain rfl := Option.some.inj hstep
        have hover := h.calls id call hget
        rw [CallSound, hphase] at hover
        rw [RelayState.quiet, hget, Option.all_some, hphase] at hquiet
        exact .of_queued (h.clear hover (Bool.eq_false_of_not_eq_true' hquiet)).finish
          (List.subset_cons_self _ _) rfl
      · cases hstep
    · cases hstep
  | negotiate id =>
    simp only [RelayState.step] at hstep
    split at hstep
    · rename_i call hget
      split at hstep
      · rename_i transfer hphase
        have hadvance : RelaySound { s with db := (TransferRequestRepository.perform s.db s.clock
            (.markNegotiating call.connection.accountId transfer)).1 } :=
          h.advance (evolves_perform rfl) le_rfl
        have hcall := hadvance.calls id call hget
        rw [CallSound, hphase] at hcall
        split at hstep
        · obtain rfl := Option.some.inj hstep
          exact .of_queued (hadvance.goOn hcall (by rintro _ ⟨⟩)) (List.Subset.refl _) rfl
        · obtain rfl := Option.some.inj hstep
          exact .of_queued hadvance.finish (List.Subset.refl _) rfl
      · cases hstep
    · cases hstep
  | charge id =>
    simp only [RelayState.step] at hstep
    split at hstep
    · rename_i call hget
      split at hstep
      · rename_i transfer hphase
        have hcall := h.calls id call hget
        rw [CallSound, hphase] at hcall
        split_ifs at hstep with hrecord
        · obtain rfl := Option.some.inj hstep
          exact .of_queued (h.record_true hget hphase hrecord) (List.Subset.refl _) rfl
        · obtain rfl := Option.some.inj hstep
          exact .of_queued (h.record_false hcall.1 (Bool.eq_false_of_not_eq_true hrecord)).finish
            (List.Subset.refl _) rfl
      · cases hstep
    · cases hstep
  | enqueue id accepted =>
    simp only [RelayState.step] at hstep
    split at hstep
    · rename_i call hget
      split at hstep
      · rename_i transfer hphase
        obtain rfl := Option.some.inj hstep
        refine ⟨h.enqueue hget hphase, List.Subset.refl _, fun transfer' hmem => ?_⟩
        have hcall := h.calls id call hget
        rw [CallSound, hphase] at hcall
        have hne : transfer ≠ transfer' := fun heq => hcall.2 (heq ▸ hmem)
        cases accepted with
        | false => rfl
        | true => exact List.filter_cons_of_neg fun h => hne (of_decide_eq_true h)
      · cases hstep
    · cases hstep
  | abort id =>
    obtain ⟨call, -, rfl⟩ := Option.map_eq_some_iff.1 hstep
    exact .of_queued h.finish (List.Subset.refl _) rfl

end Step

/-! ## Runs -/

/-- A server that has just started: nothing is in memory, and a transfer in the table expires within
the lifetime. -/
structure RelayState.Starts (s : RelayState) : Prop where
  keys : (s.db.transfers.map (·.id)).Nodup
  lifetime : ∀ r ∈ s.db.transfers, r.expiresAt ≤ s.clock + transferRequestLifetime
  signaling : s.signaling = .empty
  calls : s.calls = ∅
  releasing : s.releasing = []
  released : s.released = []
  queued : s.queued = []

theorem RelayState.Starts.sound {s : RelayState} (h : s.Starts) : RelaySound s where
  keys := h.keys
  lifetime := h.lifetime
  releasing := by
    rw [h.releasing]
    rintro _ ⟨⟩
  released := by
    rw [h.released]
    rintro _ ⟨⟩
  usages := by
    rw [h.signaling]
    rintro _ _ ⟨⟩
  calls := by
    rw [h.calls]
    rintro _ _ ⟨⟩
  charged := by
    intro transfer device type _
    rw [RelayState.used, h.queued, h.calls]
    exact Nat.zero_le _
  limits := by
    rw [h.signaling]
    exact fun _ _ => Nat.zero_le _
  single := by
    intro transfer device type _
    rw [RelayState.used, h.queued, h.calls]
    exact Nat.zero_le _

/-- A step in which no signaling state ends under a call in flight. -/
def QuietStep (depth : ℕ) (s : RelayState) (e : RelayEvent) (t : RelayState) : Prop :=
  Step (RelayState.step depth) s e t ∧ s.quiet e = true

section Runs

variable {s t u : RelayState} {depth : ℕ} {events later : List RelayEvent}

theorem relaySound_run (h : RelaySound s) (hrun : Run (QuietStep depth) s events t) :
    RelaySound t :=
  hrun.invariant h fun _ _ _ hs hstep => (relayStep_of_step hs hstep.2 hstep.1).sound

/-- After a signaling state has ended, no message of its transfer is queued. -/
theorem queued_run (h : RelaySound s) (hrun : Run (QuietStep depth) s events t) {transfer : Uuid}
    (hreleased : transfer ∈ s.released) :
    t.queued.filter (·.1 = transfer) = s.queued.filter (·.1 = transfer) := by
  have hkept : RelaySound t ∧ transfer ∈ t.released ∧
      t.queued.filter (·.1 = transfer) = s.queued.filter (·.1 = transfer) := by
    refine hrun.invariant (I := fun t => RelaySound t ∧ transfer ∈ t.released ∧
      t.queued.filter (·.1 = transfer) = s.queued.filter (·.1 = transfer)) ⟨h, hreleased, rfl⟩ ?_
    rintro a e b ⟨ha, hmem, hqueued⟩ ⟨hstep, hquiet⟩
    have hkeeps := relayStep_of_step ha hquiet hstep
    exact ⟨hkeeps.sound, hkeeps.released hmem, (hkeeps.queued transfer hmem).trans hqueued⟩
  exact hkept.2.2

/-- In a run in which no signaling state ends under a call in flight, a device queues a single-use
message of a transfer at most once, and nothing is queued for a transfer
after its state has ended. -/
theorem single_use_signaling (hstart : s.Starts) (hrun : Run (QuietStep depth) s events t)
    (hlater : Run (QuietStep depth) t later u) :
    (∀ transfer device type, type.isSingleUse = true →
      t.queued.count (transfer, device, type) ≤ 1) ∧
    ∀ transfer ∈ t.released,
      u.queued.filter (·.1 = transfer) = t.queued.filter (·.1 = transfer) := by
  have hsound := relaySound_run hstart.sound hrun
  refine ⟨fun transfer device type hsingle =>
    ?_, fun transfer hmem => queued_run hsound hlater hmem⟩
  exact (Nat.le_add_right _ _).trans (hsound.single transfer device type hsingle)

end Runs

/-! The sender of the offer sends it twice. -/

def exampleRelay : RelayState where
  clock := 1000
  db := exampleDatabase
  signaling := .empty
  calls := ∅
  releasing := []
  released := []
  queued := []

theorem exampleRelay_starts : exampleRelay.Starts :=
  ⟨by decide, by decide, rfl, rfl, rfl, rfl, rfl⟩

def exampleForward (id : ℕ) : List RelayEvent :=
  [.begin id ⟨⟨20⟩, ⟨1⟩, ⟨2⟩, 0⟩ exampleOffer, .read id, .check id 1000, .charge id,
    .enqueue id true]

/-- The second call reads the transfer, the recipient rejects it, its usage is released, and the
call charges a new one. -/
def exampleRace : List RelayEvent :=
  exampleForward 0 ++
    [.begin 1 ⟨⟨20⟩, ⟨1⟩, ⟨2⟩, 0⟩ exampleOffer, .read 1, .operate (.reject ⟨1⟩ ⟨9⟩ ⟨3⟩),
      .release ⟨9⟩, .check 1 1000, .charge 1]

/-- A second offer is queued, and it is queued after the transfer was rejected and released. -/
theorem single_use_signaling_race :
    ∃ t u, Run (Step (RelayState.step 100)) exampleRelay exampleRace t ∧
      Step (RelayState.step 100) t (.enqueue 1 true) u ∧
      (∃ r ∈ t.db.transfers, r.id = ⟨9⟩ ∧ r.status = .rejected) ∧ (⟨9⟩ : Uuid) ∈ t.released ∧
      u.queued.count (⟨9⟩, ⟨2⟩, .sdpOffer) = 2 ∧
      u.queued.filter (·.1 = ⟨9⟩) ≠ t.queued.filter (·.1 = ⟨9⟩) := by
  have hrace : (exec (RelayState.step 100) exampleRelay exampleRace).any (fun t =>
      (t.step 100 (.enqueue 1 true)).any fun u =>
        t.db.transfers.any (fun r => r.id = ⟨9⟩ ∧ r.status = .rejected) ∧
          (⟨9⟩ : Uuid) ∈ t.released ∧
        u.queued.count (⟨9⟩, ⟨2⟩, .sdpOffer) = 2 ∧
        u.queued.filter (·.1 = ⟨9⟩) ≠ t.queued.filter (·.1 = ⟨9⟩)) = true := by
    decide +kernel
  obtain ⟨t, ht, hstep⟩ := (Option.any_eq_true _ _).1 hrace
  obtain ⟨u, hu, hfacts⟩ := (Option.any_eq_true _ _).1 hstep
  obtain ⟨hrow, hreleased, hcount, hfilter⟩ := of_decide_eq_true hfacts
  obtain ⟨r, hr, hrejected⟩ := List.any_eq_true.1 hrow
  exact ⟨t, u, .of_exec ht, hu, ⟨r, hr, of_decide_eq_true hrejected⟩, hreleased, hcount, hfilter⟩

/-- The second call begins after the release, and its message is rejected. -/
def exampleQuiet : List RelayEvent :=
  exampleForward 0 ++ [.operate (.reject ⟨1⟩ ⟨9⟩ ⟨3⟩), .release ⟨9⟩]

theorem single_use_signaling_quiet :
    ∃ t u, Run (QuietStep 100) exampleRelay exampleQuiet t ∧
      Run (QuietStep 100) t
        [.begin 1 ⟨⟨20⟩, ⟨1⟩, ⟨2⟩, 0⟩ exampleOffer, .read 1, .check 1 1000, .clear 1] u ∧
      (⟨9⟩ : Uuid) ∈ t.released ∧ t.queued.count (⟨9⟩, ⟨2⟩, .sdpOffer) ≤ 1 ∧
      u.queued.filter (·.1 = ⟨9⟩) = t.queued.filter (·.1 = ⟨9⟩) := by
  have hquiet : (exec (fun s e => if s.quiet e = true then s.step 100 e else none) exampleRelay
      exampleQuiet).any (fun t =>
        (exec (fun s e => if s.quiet e = true then s.step 100 e else none) t
          [.begin 1 ⟨⟨20⟩, ⟨1⟩, ⟨2⟩, 0⟩ exampleOffer, .read 1, .check 1 1000, .clear 1]).isSome &&
        (⟨9⟩ : Uuid) ∈ t.released) = true := by
    decide +kernel
  obtain ⟨t, ht, hlater⟩ := (Option.any_eq_true _ _).1 hquiet
  obtain ⟨hsome, hreleased⟩ := Bool.and_eq_true_iff.1 hlater
  obtain ⟨u, hu⟩ := Option.isSome_iff_exists.1 hsome
  have hreleased := of_decide_eq_true hreleased
  obtain ⟨hsingle, hafter⟩ := single_use_signaling exampleRelay_starts (Run.of_exec_guarded ht)
    (Run.of_exec_guarded hu)
  exact ⟨t, u, Run.of_exec_guarded ht, Run.of_exec_guarded hu, hreleased,
    hsingle ⟨9⟩ ⟨2⟩ .sdpOffer rfl, hafter ⟨9⟩ hreleased⟩

end SelfRelay.Backend
