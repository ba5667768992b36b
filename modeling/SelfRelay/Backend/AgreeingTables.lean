import SelfRelay.Backend.Capacity
import SelfRelay.Backend.RepositoryCalls

/-!
# Databases that agree on the rows in use

Two databases agree when they have the same accounts and devices, and otherwise the same rows among
those that are not spent: sessions that have not ended, transfers that are not terminal, codes,
challenges, tickets and rate-limit windows that are neither consumed nor expired.  A call gives the
same answer on both and leaves databases that agree, if no row that only one of them has stands in
its way (`RepositoryCall.Undisturbed`).
-/

namespace SelfRelay.Backend

open Table

/-! ## Rows in use -/

/-- The code can still be redeemed. -/
def DeviceLinkingOtpRecord.live (now : Timestamp) (otp : DeviceLinkingOtpRecord) : Bool :=
  otp.status = .active && now < otp.expiresAt

def DeviceChallengeRecord.live (now : Timestamp) (challenge : DeviceChallengeRecord) : Bool :=
  challenge.consumedAt.isNone && now < challenge.expiresAt

/-- The ticket can still be consumed, as far as it and its session say. -/
def WebSocketTicketRecord.live (sessions : List SessionRecord) (now : Timestamp)
    (ticket : WebSocketTicketRecord) : Bool :=
  ticket.consumedAt.isNone && now < ticket.expiresAt &&
    sessions.any fun s => s.id = ticket.sessionId && !s.ended now

def RateLimitBucket.live (now : Timestamp) (bucket : RateLimitBucket) : Bool :=
  now < bucket.windowExpiresAt

/-! ## Agreement -/

structure Database.Agrees (now : Timestamp) (db db' : Database) : Prop where
  users : db'.users = db.users
  devices : db'.devices = db.devices
  sessions : SameWhere (fun s => !s.ended now) db.sessions db'.sessions
  transfers : SameWhere (fun t => !t.status.isTerminal) db.transfers db'.transfers

structure AuthDatabase.Agrees (now : Timestamp) (db db' : AuthDatabase) : Prop where
  base : db.base.Agrees now db'.base
  otps : Dict.SameWhere (·.live now) db.otps db'.otps
  challenges : Dict.SameWhere (·.live now) db.challenges db'.challenges

structure PrivateTables.Agrees (now : Timestamp) (db db' : PrivateTables) : Prop where
  auth : db.auth.Agrees now db'.auth
  tickets : Dict.SameWhere (·.live db.auth.base.sessions now) db.tickets.records db'.tickets.records
  buckets : Dict.SameWhere (·.live now) db.buckets db'.buckets

section Agreement

variable {now : Timestamp} {b b' c c' : Database}

namespace Database.Agrees

theorem refl (now : Timestamp) (b : Database) : b.Agrees now b := ⟨rfl, rfl, .refl _ _, .refl _ _⟩

/-- The databases differ in sessions and transfers only. -/
theorem rows (h : b.Agrees now b') :
    b' = { b with sessions := b'.sessions, transfers := b'.transfers } := by
  obtain ⟨users, devices, sessions, transfers⟩ := b'
  obtain ⟨rfl, rfl, -, -⟩ := h
  rfl

theorem usable (h : b.Agrees now b') (s : SessionRecord) (at' : Timestamp) :
    s.usable b' at' = s.usable b at' := by
  rw [h.rows]
  rfl

/-- What is done to the accounts and devices alone. -/
theorem devices_set (h : b.Agrees now b') (devices : List DeviceRecord) :
    ({ b with devices } : Database).Agrees now { b' with devices } :=
  ⟨h.users, rfl, h.sessions, h.transfers⟩

end Database.Agrees

/-- The database after a call: one that raises changes nothing. -/
def Database.after {β : Type} (b : Database) : Except RepositoryError (Database × β) → Database
  | .error _ => b
  | .ok (c, _) => c

theorem Database.Agrees.of_map {β γ : Type} {g : Database × β → Database × γ}
    {x x' : Except RepositoryError (Database × β)} (hg : ∀ result, (g result).1 = result.1)
    (h : (b.after x).Agrees now (b'.after x')) :
    (b.after (g <$> x)).Agrees now (b'.after (g <$> x')) := by
  have hafter : ∀ (c : Database) (y : Except RepositoryError (Database × β)),
      c.after (g <$> y) = c.after y := by
    intro c y
    cases y with
    | error e => rfl
    | ok result => exact hg result
  rwa [hafter, hafter]

/-- Both calls raise the same, or both return, the same or not as `R` says. -/
def Alike {β : Type} (now : Timestamp) (R : β → β → Prop)
    (x x' : Except RepositoryError (Database × β)) : Prop :=
  (∃ e, x = .error e ∧ x' = .error e) ∨
    ∃ c c' r r', x = .ok (c, r) ∧ x' = .ok (c', r') ∧ c.Agrees now c' ∧ R r r'

namespace Alike

variable {β γ : Type} {R : β → β → Prop} {Q : γ → γ → Prop}
  {x x' : Except RepositoryError (Database × β)}

theorem error (e : RepositoryError) : Alike now R (.error e) (.error e) := .inl ⟨e, rfl, rfl⟩

theorem ok {r r' : β} (h : c.Agrees now c') (hr : R r r') : Alike now R (.ok (c, r))
      (.ok (c', r')) :=
  .inr ⟨c, c', r, r', rfl, rfl, h, hr⟩

theorem bind {f f' : Database × β → Except RepositoryError (Database × γ)} (h : Alike now R x x')
    (hf : ∀ c c' r r', c.Agrees now c' → R r r' → Alike now Q (f (c, r)) (f' (c', r'))) :
    Alike now Q (x >>= f) (x' >>= f') := by
  obtain ⟨e, rfl, rfl⟩ | ⟨c, c', r, r', rfl, rfl, hagrees, hr⟩ := h
  · exact .error e
  · exact hf c c' r r' hagrees hr

theorem after (h : Alike now R x x') (hb : b.Agrees now b') :
    (b.after x).Agrees now (b'.after x') := by
  obtain ⟨e, rfl, rfl⟩ | ⟨c, c', r, r', rfl, rfl, hagrees, -⟩ := h
  · exact hb
  · exact hagrees

end Alike

/-! ## Sessions -/

/-- No session of only one database makes an insert differ. -/
def SessionOperation.Undisturbed (b b' : Database) : SessionOperation → Prop
  | .create account device tokenHash _ epoch _ _ id =>
    SessionRepository.admits b account device epoch = true →
      OneSided (fun s => s.id ≠ id ∧ s.tokenHash ≠ tokenHash) b.sessions b'.sessions
  | _ => True

theorem insertSession_eq (b : Database) (s : SessionRecord) : b.insertSession s =
    if s.check = false then .error (.rejected .check)
    else if s.id ∈ b.sessions.map (·.id) then .error (.rejected .unique)
    else if b.sessions.any fun s' => s'.tokenHash = s.tokenHash then .error (.rejected .unique)
    else .ok { b with sessions := b.sessions ++ [s] } := by
  unfold Database.insertSession Table.insert
  split_ifs with hcheck hid <;> simp [*]

theorem insertSession_alike (h : b.Agrees now b') {s : SessionRecord}
    (hside : OneSided (fun s' => s'.id ≠ s.id ∧ s'.tokenHash ≠ s.tokenHash) b.sessions
      b'.sessions) :
    Alike now Eq (do let c ← b.insertSession s; return (c, s))
      (do let c ← b'.insertSession s; return (c, s)) := by
  have hid : s.id ∈ b.sessions.map (·.id) ↔ s.id ∈ b'.sessions.map (·.id) := by
    have hany := (hside.mono fun s' hs' => decide_eq_false (p := s'.id = s.id) hs'.1).any
    simpa [List.any_eq_true] using Bool.eq_iff_iff.1 hany
  have hhash :=
    (hside.mono fun s' hs' => decide_eq_false (p := s'.tokenHash = s.tokenHash) hs'.2).any
  simp only [insertSession_eq, hid, hhash]
  split_ifs
  · exact .error _
  · exact .error _
  · exact .error _
  · exact .ok ⟨h.users, h.devices, h.sessions.append _, h.transfers⟩ rfl

/-- What activity writes is written to usable sessions, and both databases have them. -/
theorem updateUsable_alike (h : b.Agrees now b') (account session : Uuid)
    (set : SessionRecord → SessionRecord) :
    Alike now Eq
      (b.updateSessions (SessionRepository.selectsUsable b now account session) set)
      (b'.updateSessions (SessionRepository.selectsUsable b' now account session) set) := by
  have hselects : SessionRepository.selectsUsable b' now account session =
      SessionRepository.selectsUsable b now account session := by
    funext s
    rw [SessionRepository.selectsUsable, h.usable, SessionRepository.selectsUsable]
  have hlive : ∀ s, SessionRepository.selectsUsable b now account session s = true →
      (!s.ended now) = true := by
    intro s hs
    have husable := (Bool.and_eq_true_iff.1 hs).2
    rw [Bool.eq_false_iff.2 (SessionRecord.not_ended_of_usable husable), Bool.not_false]
  rw [hselects]
  unfold Database.updateSessions
  obtain ⟨e, herror, herror'⟩ | ⟨rows, rows', returned, hok, hok', hrows⟩ :=
    h.sessions.update SessionRecord.check set hlive
  · rw [herror, herror']
    exact .error _
  · rw [hok, hok']
    exact .ok ⟨h.users, h.devices, hrows, h.transfers⟩ rfl

/-- A revocation is only rejected for its reason, and then nothing changes. -/
theorem after_revocation (hb : ∀ s ∈ b.sessions, s.check = true) (selected : SessionRecord → Bool)
    (reason : String) : b.after (b.updateSessions selected (SessionRecord.revoked now reason)) =
      if reason ∈ revocationReasons then
        { b with sessions := Table.updated selected (SessionRecord.revoked now reason) b.sessions }
      else b := by
  by_cases hreason : reason ∈ revocationReasons
  · have hok : Table.update SessionRecord.check selected (SessionRecord.revoked now reason)
      b.sessions =
        .ok (_, _) :=
      Table.update_eq_ok.2 ⟨fun s hs _ => (check_revoked (hb s hs)).2 hreason, rfl, rfl⟩
    rw [if_pos hreason, Database.updateSessions, hok]
    rfl
  rw [if_neg hreason]
  by_cases hany : b.sessions.any selected = true
  · obtain ⟨s, hs, hselected⟩ := List.any_eq_true.1 hany
    have herror : Table.update SessionRecord.check selected (SessionRecord.revoked now reason)
        b.sessions = .error .check :=
      Table.update_eq_error.2 fun hall =>
        hreason ((check_revoked (hb s hs)).1 (hall s hs hselected))
    rw [Database.updateSessions, herror]
    rfl
  · have hnone : ∀ s ∈ b.sessions, ¬ selected s = true := fun s hs hselected =>
      hany (List.any_eq_true.2 ⟨s, hs, hselected⟩)
    have hok : Table.update SessionRecord.check selected (SessionRecord.revoked now reason)
      b.sessions =
        .ok (_, _) :=
      Table.update_eq_ok.2 ⟨fun s hs hselected => (hnone s hs hselected).elim, rfl, rfl⟩
    have hsame : Table.updated selected (SessionRecord.revoked now reason) b.sessions =
        b.sessions := by
      conv_rhs => rw [← List.map_id b.sessions]
      exact List.map_congr_left fun s hs => if_neg (hnone s hs)
    rw [Database.updateSessions, hok]
    exact congrArg (fun sessions => { b with sessions }) hsame

/-- A revocation brings no session back. -/
theorem sameWhere_revoked {rows rows' : List SessionRecord}
    (h : SameWhere (fun s => !s.ended now) rows rows') (selected : SessionRecord → Bool)
    (reason : String) : SameWhere (fun s => !s.ended now)
      (Table.updated selected (SessionRecord.revoked now reason) rows)
      (Table.updated selected (SessionRecord.revoked now reason) rows') := by
  refine h.map fun s hs => ?_
  cases hended : s.ended now with
  | false => rfl
  | true =>
    split_ifs at hs
    · rw [(SessionRecord.Later.revoked reason).ended hended] at hs
      cases hs
    · rw [hended] at hs
      cases hs

theorem after_revocation_agrees (h : b.Agrees now b') (hb : ∀ s ∈ b.sessions, s.check = true)
    (hb' : ∀ s ∈ b'.sessions, s.check = true) (selected : SessionRecord → Bool) (reason : String) :
    (b.after (b.updateSessions selected (SessionRecord.revoked now reason))).Agrees now
      (b'.after (b'.updateSessions selected (SessionRecord.revoked now reason))) := by
  rw [after_revocation hb, after_revocation hb']
  split_ifs
  · exact ⟨h.users, h.devices, sameWhere_revoked h.sessions selected reason, h.transfers⟩
  · exact h

/-- A call on sessions keeps the agreement, and is answered alike. -/
theorem SessionRepository.agrees (h : b.Agrees now b') (hb : ∀ s ∈ b.sessions, s.check = true)
    (hb' : ∀ s ∈ b'.sessions, s.check = true) (op : SessionOperation) (hop : op.Undisturbed b b') :
    (b.after (perform b now op)).Agrees now (b'.after (perform b' now op)) ∧
      op.answer (Prod.snd <$> perform b now op) = op.answer (Prod.snd <$> perform b' now op) := by
  cases op with
  | create account device tokenHash csrfHash epoch idleExpiresAt absoluteExpiresAt id =>
    refine ⟨.of_map (fun _ => rfl) ?_, rfl⟩
    have hadmits : admits b' account device epoch = admits b account device epoch := by
      rw [h.rows]
      rfl
    rw [create, create, hadmits]
    split_ifs with hadmitted
    · exact (insertSession_alike h (hop hadmitted)).after h
    · exact h
  | touchLastSeen account session =>
    obtain ⟨e, herror, herror'⟩ | ⟨c, c', returned, _, hok, hok', hagrees, rfl⟩ :=
      updateUsable_alike h account session (SessionRecord.touched now)
    · have htouch : touchLastSeen b now account session = .error e := herror
      have htouch' : touchLastSeen b' now account session = .error e := herror'
      rw [perform, perform, htouch, htouch']
      exact ⟨h, rfl⟩
    · have htouch : touchLastSeen b now account session = .ok (c, returned) := hok
      have htouch' : touchLastSeen b' now account session = .ok (c', returned) := hok'
      rw [perform, perform, htouch, htouch']
      exact ⟨hagrees, rfl⟩
  | replaceCsrfHash account session csrfHash =>
    exact ⟨.of_map (fun _ => rfl) ((updateUsable_alike h account session _).after h), rfl⟩
  | revoke account session reason =>
    exact ⟨.of_map (fun _ => rfl) (after_revocation_agrees h hb hb' _ reason), rfl⟩
  | revokeByTokenHash account tokenHash reason =>
    exact ⟨.of_map (fun _ => rfl) (after_revocation_agrees h hb hb' _ reason), rfl⟩
  | revokeForDevice account device reason =>
    exact ⟨.of_map (fun _ => rfl) (after_revocation_agrees h hb hb' _ reason), rfl⟩
  | revokeForAccount account reason =>
    exact ⟨.of_map (fun _ => rfl) (after_revocation_agrees h hb hb' _ reason), rfl⟩

/-! ## Devices -/

/-- No session of only one database has the revocation of the call rejected. -/
def DeviceOperation.Undisturbed (now : Timestamp) (b b' : Database) (op : DeviceOperation) : Prop :=
  OneSided (fun s => (op.updates now).2.selected s = true → ((op.updates now).2.set s).check = true)
    b.sessions b'.sessions

theorem updateDevices_agrees (h : b.Agrees now b') (selected : DeviceRecord → Bool)
    (set : DeviceRecord → DeviceRecord) :
    (∃ e, b.updateDevices selected set = .error e ∧ b'.updateDevices selected set = .error e) ∨
      ∃ devices rows, b.updateDevices selected set = .ok ({ b with devices }, rows) ∧
        b'.updateDevices selected set = .ok ({ b' with devices }, rows) := by
  unfold Database.updateDevices
  rw [h.devices]
  cases Table.update DeviceRecord.check selected set b.devices with
  | error violation => exact .inl ⟨_, rfl, rfl⟩
  | ok result => exact .inr ⟨result.1, result.2, rfl, rfl⟩

theorem insertDevice_agrees (h : b.Agrees now b') (d : DeviceRecord) :
    (∃ e, b.insertDevice d = .error e ∧ b'.insertDevice d = .error e) ∨
      ∃ devices, b.insertDevice d = .ok { b with devices } ∧
        b'.insertDevice d = .ok { b' with devices } := by
  unfold Database.insertDevice
  rw [h.devices]
  cases Table.insert DeviceRecord.check DeviceRecord.id d b.devices with
  | error violation => exact .inl ⟨_, rfl, rfl⟩
  | ok devices =>
    dsimp only
    split_ifs
    · exact .inl ⟨_, rfl, rfl⟩
    · exact .inr ⟨devices, rfl, rfl⟩

theorem insertDevice_alike (h : b.Agrees now b') (d : DeviceRecord) :
    Alike now Eq (do let c ← b.insertDevice d; return (c, d))
      (do let c ← b'.insertDevice d; return (c, d)) := by
  obtain ⟨e, herror, herror'⟩ | ⟨devices, hok, hok'⟩ := insertDevice_agrees h d
  · rw [herror, herror']
    exact .error e
  · rw [hok, hok']
    exact .ok (h.devices_set devices) rfl

theorem updateDevices_alike (h : b.Agrees now b') (selected : DeviceRecord → Bool)
    (set : DeviceRecord → DeviceRecord) :
    Alike now Eq (b.updateDevices selected set) (b'.updateDevices selected set) := by
  obtain ⟨e, herror, herror'⟩ | ⟨devices, rows, hok, hok'⟩ := updateDevices_agrees h selected set
  · rw [herror, herror']
    exact .error e
  · rw [hok, hok']
    exact .ok (h.devices_set devices) rfl

/-- A revocation that no session of only one database has rejected. -/
theorem revocation_alike (h : b.Agrees now b') {selected : SessionRecord → Bool} {reason : String}
    (hside : OneSided (fun s => selected s = true → (s.revoked now reason).check = true) b.sessions
      b'.sessions) :
    Alike now (fun _ _ => True) (b.updateSessions selected (SessionRecord.revoked now reason))
      (b'.updateSessions selected (SessionRecord.revoked now reason)) := by
  have hall : (∀ s ∈ b.sessions, selected s = true → (s.revoked now reason).check = true) ↔
      ∀ s ∈ b'.sessions, selected s = true → (s.revoked now reason).check = true := by
    constructor
    · intro hall s hs
      by_cases hmem : s ∈ b.sessions
      · exact hall s hmem
      · exact hside.2 s hs hmem
    · intro hall s hs
      by_cases hmem : s ∈ b'.sessions
      · exact hall s hmem
      · exact hside.1 s hs hmem
  unfold Database.updateSessions
  by_cases hcheck : ∀ s ∈ b.sessions, selected s = true → (s.revoked now reason).check = true
  · rw [Table.update_eq_ok.2 ⟨hcheck, rfl, rfl⟩, Table.update_eq_ok.2 ⟨hall.1 hcheck, rfl, rfl⟩]
    exact .ok ⟨h.users, h.devices, sameWhere_revoked h.sessions selected reason,
      h.transfers⟩ trivial
  · rw [Table.update_eq_error.2 hcheck, Table.update_eq_error.2 fun h' => hcheck (hall.2 h')]
    exact .error _

theorem withSessions_alike (h : b.Agrees now b') {set : DeviceRecord → DeviceRecord}
    {account device : Uuid} {reason : String}
    (hside : OneSided (fun s => SessionRepository.selectsDevice account device s = true →
      (s.revoked now reason).check = true) b.sessions b'.sessions) :
    Alike now Eq (DeviceRepository.withSessions b now set account device reason)
      (DeviceRepository.withSessions b' now set account device reason) := by
  unfold DeviceRepository.withSessions
  obtain ⟨e, herror, herror'⟩ | ⟨devices, rows, hok, hok'⟩ :=
    updateDevices_agrees h (DeviceRepository.selectsId account device) set
  · rw [herror, herror']
    exact .error e
  · rw [hok, hok', ok_bind, ok_bind]
    have hdevices := h.devices_set devices
    cases rows with
    | nil => exact .ok hdevices rfl
    | cons record rows =>
      exact (revocation_alike hdevices hside).bind fun c c' _ _ hc _ => .ok hc rfl

/-- A call on devices keeps the agreement. -/
theorem DeviceRepository.agrees (h : b.Agrees now b') {op : DeviceOperation}
    (hop : op.Undisturbed now b b') :
    (b.after (perform b now op)).Agrees now (b'.after (perform b' now op)) := by
  cases op with
  | create account epoch label spki fingerprint linkedBy deviceId generated =>
    have hadmits : admits b' account epoch linkedBy = admits b account epoch linkedBy := by
      rw [h.rows]
      rfl
    refine .of_map (fun _ => rfl) ?_
    rw [create, create, hadmits]
    split_ifs
    · exact (insertDevice_alike h _).after h
    · exact h
  | registerForEmail account epoch label spki fingerprint deviceId =>
    have haccount : b'.accountAt account epoch = b.accountAt account epoch := by
      rw [h.rows]
      rfl
    refine .of_map (fun _ => rfl) ?_
    rw [registerForEmail, registerForEmail, h.devices, haccount]
    cases b.devices.find? (hasFingerprint account fingerprint) with
    | none =>
      dsimp only
      split_ifs
      · exact (insertDevice_alike h _).after h
      · exact h
    | some existing =>
      dsimp only
      split_ifs
      · exact h
      · refine Alike.after (R := Eq)
          ((updateDevices_alike h _ _).bind fun c c' rows _ hc heq => ?_) h
        subst heq
        cases rows with
        | nil => exact .error _
        | cons record rows => exact .ok hc rfl
  | touchLastSeen account device =>
    exact .of_map (fun _ => rfl) ((updateDevices_alike h _ _).after h)
  | rename account device label =>
    exact .of_map (fun _ => rfl) ((updateDevices_alike h _ _).after h)
  | revokeWithSessions account device reason =>
    exact .of_map (fun _ => rfl) ((withSessions_alike h hop).after h)
  | logoutWithSessions account device reason =>
    exact .of_map (fun _ => rfl) ((withSessions_alike h hop).after h)
  | revokeAllForAccount account reason =>
    refine .of_map (fun _ => rfl) (Alike.after (R := Eq) ?_ h)
    unfold revokeAllForAccount
    obtain ⟨e, herror, herror'⟩ | ⟨devices, rows, hok, hok'⟩ :=
      updateDevices_agrees h (fun d => d.userId = account && d.status = .active) (revoked now)
    · rw [herror, herror']
      exact .error e
    · rw [hok, hok', ok_bind, ok_bind]
      exact (revocation_alike (h.devices_set devices) hop).bind fun c c' _ _ hc _ => .ok hc rfl

/-! ## Transfers -/

/-- No transfer of only one database makes an insert differ. -/
def TransferOperation.Undisturbed (b b' : Database) : TransferOperation → Prop
  | .create account sender recipient _ _ id =>
    (b.accountExists account && b.deviceActive account sender &&
      b.deviceActive account recipient) = true →
      OneSided (fun t => t.id ≠ id) b.transfers b'.transfers
  | _ => True

theorem updateTransfers_agrees (h : b.Agrees now b') {selected : TransferRequestRecord → Bool}
    (set : TransferRequestRecord → TransferRequestRecord)
    (hselected : ∀ t, selected t = true → t.status.isTerminal = false) :
    (b.updateTransfers selected set).1.Agrees now (b'.updateTransfers selected set).1 := by
  unfold Database.updateTransfers
  obtain ⟨e, herror, herror'⟩ | ⟨rows, rows', returned, hok, hok', hrows⟩ :=
    h.transfers.update TransferRequestRecord.check set fun t ht => by
      rw [hselected t ht, Bool.not_false]
  · rw [herror, herror']
    exact h
  · rw [hok, hok']
    exact ⟨h.users, h.devices, h.sessions, hrows⟩

theorem isTerminal_of_validTransitions {s s' : TransferStatus} (h : s' ∈ s.validTransitions) :
    s.isTerminal = false := by
  cases hterminal : s.isTerminal with
  | false => rfl
  | true =>
    rw [validTransitions_of_isTerminal hterminal] at h
    cases h

/-- A call on transfers keeps the agreement. -/
theorem TransferRequestRepository.agrees (h : b.Agrees now b') {op : TransferOperation}
    (hop : op.Undisturbed b b') : (perform b now op).1.Agrees now (perform b' now op).1 := by
  by_cases hcreate : ∃ account sender recipient version expiresAt id,
      op = .create account sender recipient version expiresAt id
  · obtain ⟨account, sender, recipient, version, expiresAt, id, rfl⟩ := hcreate
    have hadmits : (b'.accountExists account && b'.deviceActive account sender &&
        b'.deviceActive account recipient) = (b.accountExists account &&
          b.deviceActive account sender && b.deviceActive account recipient) := by
      rw [h.rows]
      rfl
    simp only [perform, create]
    rw [hadmits]
    split_ifs with hadmitted
    · have hside := (hop (Bool.and_eq_true_iff.1 hadmitted).1).mono fun t ht =>
        decide_eq_false (p := t.id = id) ht
      have hid : id ∈ b.transfers.map (·.id) ↔ id ∈ b'.transfers.map (·.id) := by
        simpa [List.any_eq_true] using Bool.eq_iff_iff.1 hside.any
      unfold Table.insert
      simp only [hid]
      split_ifs
      · exact h
      · exact h
      · exact ⟨h.users, h.devices, h.sessions, h.transfers.append _⟩
    · exact h
  by_cases hrelay : ∃ account transfer, op = .markRelayUsed account transfer
  · obtain ⟨account, transfer, rfl⟩ := hrelay
    have hselects : relaySelects b' now account transfer = relaySelects b now account transfer := by
      rw [h.rows]
      rfl
    rw [perform, perform, markRelayUsed, markRelayUsed, hselects]
    refine updateTransfers_agrees h _ fun t ht => contains_activeStatuses.1 ?_
    simp only [relaySelects, Bool.and_eq_true] at ht
    exact ht.1.1.2
  cases harguments : op.arguments? with
  | none =>
    have hnothing : ∀ c : Database, perform c now op = (c, .ok none) := fun c =>
      perform_of_no_arguments harguments
        (fun account sender recipient version expiresAt id heq =>
          hcreate ⟨account, sender, recipient, version, expiresAt, id, heq⟩)
        fun account transfer heq => hrelay ⟨account, transfer, heq⟩
    rw [hnothing, hnothing]
    exact h
  | some arguments =>
    obtain ⟨transfer, args⟩ := arguments
    have hselects : args.selects b' now op.account transfer =
        args.selects b now op.account transfer := by
      rw [h.rows]
      rfl
    rw [perform_of_arguments harguments, perform_of_arguments harguments, runTransition,
      runTransition,
      hselects]
    refine updateTransfers_agrees h _ fun t ht => ?_
    exact isTerminal_of_validTransitions
      ((arguments_valid harguments).1 _ (TransitionArguments.selects_iff.1 ht).2.2.1)

/-- Both databases have the same transfers that count. -/
theorem ensureCapacity_agrees (h : b.Agrees now b') (account sender recipient : Uuid) :
    ensureCapacity (TransferRequestRepository.listForAccount b account) sender recipient now =
      ensureCapacity (TransferRequestRepository.listForAccount b' account) sender
        recipient now := by
  have haccount : b'.accountExists account = b.accountExists account := by
    rw [h.rows]
    rfl
  have hload : ∀ device, load (TransferRequestRepository.listForAccount b account) now device =
      load (TransferRequestRepository.listForAccount b' account) now device := by
    intro device
    by_cases hexists : b.accountExists account = true
    · rw [load_listForAccount hexists, load_listForAccount (haccount.trans hexists)]
      unfold load Database.transfersOf
      rw [List.countP_filter, List.countP_filter]
      refine h.transfers.countP fun t ht => ?_
      simp only [TransferRequestRecord.activeAt, Bool.and_eq_true] at ht
      rw [contains_activeStatuses.1 ht.1.1.1, Bool.not_false]
    · rw [TransferRequestRepository.listForAccount,
        TransferRequestRepository.listForAccount, haccount,
        if_neg hexists, if_neg hexists]
  rw [Bool.eq_iff_iff, ensureCapacity_iff, ensureCapacity_iff]
  simp only [hload]

/-! ## Linking codes -/

variable {a a' : AuthDatabase}

theorem deviceActive_agrees (h : b.Agrees now b') : b'.deviceActive = b.deviceActive := by
  rw [h.rows]
  rfl

/-- No code of only one database makes an insert differ. -/
def LinkingOtpOperation.Undisturbed (a a' : AuthDatabase) : LinkingOtpOperation → Prop
  | .create account issuingDevice otpHash _ id =>
    a.base.deviceActive account issuingDevice = true →
      Dict.OneSided (fun id' otp => id' ≠ id ∧ otp.otpHash ≠ otpHash) a.otps a'.otps
  | _ => True

theorem insertOtp_agrees (otp : DeviceLinkingOtpRecord)
    (hside : Dict.OneSided (fun id other => id ≠ otp.id ∧ other.otpHash ≠ otp.otpHash)
      a.otps a'.otps) :
    (∃ e, a.insertOtp otp = .error e ∧ a'.insertOtp otp = .error e) ∨
      a.insertOtp otp = .ok { a with otps := a.otps.set otp.id otp } ∧
        a'.insertOtp otp = .ok { a' with otps := a'.otps.set otp.id otp } := by
  have hid := (hside.mono fun _ _ hk => hk.1).isSome_get
  have hhash := (hside.mono fun _ other hk =>
    decide_eq_false (p := other.otpHash = otp.otpHash) hk.2).any_values
  unfold AuthDatabase.insertOtp
  rw [hid, hhash]
  split_ifs
  · exact .inl ⟨_, rfl, rfl⟩
  · exact .inl ⟨_, rfl, rfl⟩
  · exact .inl ⟨_, rfl, rfl⟩
  · exact .inr ⟨rfl, rfl⟩

namespace DeviceLinkingOtpRepository

theorem create_agrees (h : a.Agrees now a') {account issuingDevice : Uuid} {otpHash : Bytea}
    {expiresAt : Timestamp} {id : Uuid}
    (hop : (LinkingOtpOperation.create account issuingDevice otpHash expiresAt
      id).Undisturbed a a') :
    (perform a now (.create account issuingDevice otpHash expiresAt id)).Agrees now
      (perform a' now (.create account issuingDevice otpHash expiresAt id)) := by
  rw [perform, perform, create, create, deviceActive_agrees h.base]
  split_ifs with hactive
  · obtain ⟨e, herror, herror'⟩ | ⟨hok, hok'⟩ := insertOtp_agrees
      (issued now account issuingDevice otpHash expiresAt id) (hop hactive)
    · dsimp only
      rw [herror, herror']
      exact h
    · dsimp only
      rw [hok, hok']
      exact ⟨h.base, h.otps.set _ _, h.challenges⟩
  · exact h

theorem markFailed_agrees (h : a.Agrees now a') (otpId : Uuid) :
    (markFailed a now otpId).Agrees now (markFailed a' now otpId) := by
  obtain ⟨otp, hget, hget', -⟩ | ⟨hdead, hdead'⟩ := h.otps.get_cases otpId
  · unfold markFailed
    rw [hget, hget']
    dsimp only
    split_ifs
    · exact ⟨h.base, h.otps.set _ _, h.challenges⟩
    · exact ⟨h.base, h.otps.set _ _, h.challenges⟩
    · exact h
  · have hsame : ∀ c : AuthDatabase, (∀ otp, c.otps.get otpId = some otp → otp.live now = false) →
        markFailed c now otpId = c := by
      intro c hc
      unfold markFailed
      cases hget : c.otps.get otpId with
      | none => rfl
      | some otp =>
        have hlive : (otp.status = .active && now < otp.expiresAt) = false := hc otp hget
        simp only [hlive, Bool.false_and, Bool.false_eq_true, if_false]
    rw [hsame a hdead, hsame a' hdead']
    exact h

theorem consumable_agrees (h : a.Agrees now a') (account issuingDevice : Uuid) (epoch : ℤ) :
    consumable a' now account issuingDevice epoch =
      consumable a now account issuingDevice epoch := by
  funext otp
  unfold consumable
  rw [h.base.rows]
  rfl

/-- A code is redeemed on both databases, or on none. -/
theorem consumeAndRegister_agrees (h : a.Agrees now a')
    (otpId account issuingDevice : Uuid) (epoch : ℤ)
    (deviceId : Uuid) (label : String) (spki fingerprint : Bytea) :
    (consumeAndRegister a now otpId account issuingDevice epoch deviceId label spki fingerprint).1 =
        (consumeAndRegister a' now otpId account issuingDevice epoch deviceId label spki
          fingerprint).1 ∧
      (consumeAndRegister a now otpId account issuingDevice epoch deviceId label spki
        fingerprint).2.Agrees now
        (consumeAndRegister a' now otpId account issuingDevice epoch deviceId label spki
          fingerprint).2 := by
  have hnone : ∀ c : AuthDatabase, (∀ otp, c.otps.get otpId = some otp →
      consumable c now account issuingDevice epoch otp = false) →
      consumeAndRegister c now otpId account issuingDevice epoch deviceId label spki fingerprint =
        (.ok none, c) := by
    intro c hc
    unfold consumeAndRegister consumeAndRegisterBody
    cases hget : c.otps.get otpId with
    | none => rfl
    | some otp => simp only [hc otp hget, Bool.false_eq_true, if_false]
  have hconsumable := consumable_agrees h account issuingDevice epoch
  obtain ⟨otp, hget, hget', -⟩ | ⟨hdead, hdead'⟩ := h.otps.get_cases otpId
  · unfold consumeAndRegister consumeAndRegisterBody
    rw [hget, hget', hconsumable]
    dsimp only
    by_cases hredeems : consumable a now account issuingDevice epoch otp = true
    swap
    · simp only [if_neg hredeems]
      exact ⟨trivial, h⟩
    simp only [if_pos hredeems]
    by_cases hcheck : now < otp.createdAt
    · simp only [if_pos hcheck]
      exact ⟨rfl, h⟩
    have haccount : a'.base.accountAt account epoch = a.base.accountAt account epoch := by
      rw [h.base.rows]
      rfl
    simp only [if_neg hcheck, haccount]
    by_cases hepoch : a.base.accountAt account epoch = true
    swap
    · simp only [if_neg hepoch]
      exact ⟨rfl, h⟩
    simp only [if_pos hepoch]
    obtain ⟨e, herror, herror'⟩ | ⟨devices, hok, hok'⟩ := insertDevice_agrees h.base
      (DeviceRepository.inserted now deviceId account epoch label spki fingerprint
        (some issuingDevice))
    · rw [herror, herror']
      exact ⟨rfl, h⟩
    · rw [hok, hok']
      exact ⟨rfl, h.base.devices_set devices, h.otps.set _ _, h.challenges⟩
  · have hnot : ∀ (c : AuthDatabase) (otp : DeviceLinkingOtpRecord), otp.live now = false →
        consumable c now account issuingDevice epoch otp = false := by
      intro c otp hlive
      refine Bool.eq_false_iff.2 fun hconsumable => ?_
      simp only [consumable, Bool.and_eq_true] at hconsumable
      have hlive' : otp.live now = true :=
        Bool.and_eq_true_iff.2 ⟨hconsumable.1.1.1.1.2, hconsumable.1.1.2⟩
      exact Bool.false_ne_true (hlive.symm.trans hlive')
    rw [hnone a fun otp hotp => hnot a otp (hdead otp hotp),
      hnone a' fun otp hotp => hnot a' otp (hdead' otp hotp)]
    exact ⟨rfl, h⟩

/-- A call on linking codes keeps the agreement, and is answered alike. -/
theorem agrees (h : a.Agrees now a') (op : LinkingOtpOperation) (hop : op.Undisturbed a a') :
    (perform a now op).Agrees now (perform a' now op) ∧ op.answer a now = op.answer a' now := by
  cases op with
  | create account issuingDevice otpHash expiresAt id => exact ⟨create_agrees h hop, rfl⟩
  | markFailed otp => exact ⟨markFailed_agrees h otp, rfl⟩
  | consumeAndRegister otp account issuingDevice epoch device =>
    obtain ⟨hanswer, hagrees⟩ :=
      consumeAndRegister_agrees h otp account issuingDevice epoch device.id
      device.label device.signingPublicKeySpki device.fingerprint
    exact ⟨hagrees, congrArg (some ∘ Answer.device) hanswer⟩

/-- The row that the lookup is to return is the same, and so is what it does. -/
theorem fetchActiveByHash_agrees (h : a.Agrees now a') (otpHash : Bytea) :
    fetchActiveByHash a now otpHash = fetchActiveByHash a' now otpHash := by
  have haccount : a'.base.accountExists = a.base.accountExists := by
    rw [h.base.rows]
    rfl
  have hget : getActiveByHash a now otpHash = getActiveByHash a' now otpHash := by
    unfold getActiveByHash
    rw [haccount]
    refine h.otps.find? fun otp hotp => ?_
    simp only [Bool.and_eq_true] at hotp
    exact Bool.and_eq_true_iff.2 ⟨hotp.1.1.2, hotp.1.2⟩
  rw [fetchActiveByHash, fetchActiveByHash, hget]

end DeviceLinkingOtpRepository

/-! ## Challenges -/

namespace DeviceChallengeRepository

/-- No challenge of only one database makes the insert differ. -/
def Undisturbed (a a' : AuthDatabase) (account device : Uuid) (nonceHash : Bytea)
    (id : Uuid) : Prop :=
  a.base.deviceActive account device = true →
    Dict.OneSided (fun id' other => id' ≠ id ∧ other.nonceHash ≠ nonceHash) a.challenges
      a'.challenges

theorem insertChallenge_agrees (challenge : DeviceChallengeRecord)
    (hside : Dict.OneSided (fun id other => id ≠ challenge.id ∧
      other.nonceHash ≠ challenge.nonceHash)
      a.challenges a'.challenges) :
    (∃ e, a.insertChallenge challenge = .error e ∧ a'.insertChallenge challenge = .error e) ∨
      a.insertChallenge challenge =
        .ok { a with challenges := a.challenges.set challenge.id challenge } ∧
      a'.insertChallenge challenge =
        .ok { a' with challenges := a'.challenges.set challenge.id challenge } := by
  have hid := (hside.mono fun _ _ hk => hk.1).isSome_get
  have hhash := (hside.mono fun _ other hk =>
    decide_eq_false (p := other.nonceHash = challenge.nonceHash) hk.2).any_values
  unfold AuthDatabase.insertChallenge
  rw [hid, hhash]
  split_ifs
  · exact .inl ⟨_, rfl, rfl⟩
  · exact .inl ⟨_, rfl, rfl⟩
  · exact .inr ⟨rfl, rfl⟩

theorem create_agrees (h : a.Agrees now a') {account device : Uuid} {nonceHash : Bytea}
    (origin : String) (expiresAt : Timestamp) {id : Uuid}
    (hside : Undisturbed a a' account device nonceHash id) :
    (∃ e, create a now account device nonceHash origin expiresAt id = .error e ∧
        create a' now account device nonceHash origin expiresAt id = .error e) ∨
      ∃ c c' record, create a now account device nonceHash origin expiresAt id = .ok (c, record) ∧
        create a' now account device nonceHash origin expiresAt id = .ok (c', record) ∧
        c.Agrees now c' := by
  rw [create, create, deviceActive_agrees h.base]
  split_ifs with hactive
  · dsimp only
    obtain ⟨e, herror, herror'⟩ | ⟨hok, hok'⟩ := insertChallenge_agrees
      (issued now device nonceHash origin expiresAt id) (hside hactive)
    · rw [herror, herror']
      exact .inl ⟨e, rfl, rfl⟩
    · rw [hok, hok']
      exact .inr ⟨_, _, _, rfl, rfl, h.base, h.otps, h.challenges.set _ _⟩
  · exact .inl ⟨_, rfl, rfl⟩

theorem consume_agrees (h : a.Agrees now a') (account challengeId : Uuid) :
    (consume a now account challengeId).1 = (consume a' now account challengeId).1 ∧
      (consume a now account challengeId).2.Agrees now (consume a' now account challengeId).2 := by
  obtain ⟨challenge, hget, hget', -⟩ | ⟨hdead, hdead'⟩ := h.challenges.get_cases challengeId
  · unfold consume
    rw [hget, hget', deviceActive_agrees h.base]
    dsimp only
    split_ifs
    · exact ⟨rfl, h⟩
    · exact ⟨rfl, h.base, h.otps, h.challenges.set _ _⟩
    · exact ⟨rfl, h⟩
  · have hnone : ∀ c : AuthDatabase, (∀ challenge, c.challenges.get challengeId = some challenge →
        challenge.live now = false) → consume c now account challengeId = (.ok none, c) := by
      intro c hc
      unfold consume
      cases hget : c.challenges.get challengeId with
      | none => rfl
      | some challenge =>
        have hlive : (challenge.consumedAt.isNone && now < challenge.expiresAt) = false :=
          hc challenge hget
        simp only [hlive, Bool.false_and, Bool.false_eq_true, if_false]
    rw [hnone a hdead, hnone a' hdead']
    exact ⟨rfl, h⟩

theorem consumeByNonceHash_agrees (h : a.Agrees now a') (account : Uuid) (nonceHash : Bytea) :
    (consumeByNonceHash a now account nonceHash).1 =
      (consumeByNonceHash a' now account nonceHash).1 ∧
      (consumeByNonceHash a now account nonceHash).2.Agrees now
        (consumeByNonceHash a' now account nonceHash).2 := by
  have hfind := SameWhere.find? (q := fun e : Sigma fun _ : Uuid => DeviceChallengeRecord =>
    e.2.nonceHash = nonceHash && e.2.consumedAt.isNone && now < e.2.expiresAt &&
      a.base.deviceActive account e.2.deviceId) h.challenges fun e he => by
    simp only [Bool.and_eq_true] at he
    exact Bool.and_eq_true_iff.2 ⟨he.1.1.2, he.1.2⟩
  unfold consumeByNonceHash
  rw [deviceActive_agrees h.base, ← hfind]
  split
  · exact ⟨rfl, h⟩
  · exact consume_agrees h account _

theorem markFailed_agrees (h : a.Agrees now a') (account challengeId : Uuid) :
    (markFailed a now account challengeId).Agrees now (markFailed a' now account challengeId) := by
  obtain ⟨challenge, hget, hget', -⟩ | ⟨hdead, hdead'⟩ := h.challenges.get_cases challengeId
  · unfold markFailed
    rw [hget, hget', deviceActive_agrees h.base]
    dsimp only
    split_ifs
    · exact ⟨h.base, h.otps, h.challenges.set _ _⟩
    · exact h
  · have hsame : ∀ c : AuthDatabase, (∀ challenge, c.challenges.get challengeId = some challenge →
        challenge.live now = false) → markFailed c now account challengeId = c := by
      intro c hc
      unfold markFailed
      cases hget : c.challenges.get challengeId with
      | none => rfl
      | some challenge =>
        refine if_neg fun hfails => ?_
        simp only [Bool.and_eq_true] at hfails
        have hlive : challenge.live now = true :=
          Bool.and_eq_true_iff.2 ⟨hfails.1.1.2, hfails.1.2⟩
        exact Bool.false_ne_true ((hc challenge hget).symm.trans hlive)
    rw [hsame a hdead, hsame a' hdead']
    exact h

end DeviceChallengeRepository

/-! ## Tickets -/

variable {tickets tickets' : WebSocketTickets}

theorem WebSocketTicketRecord.live_agrees (h : b.Agrees now b') :
    WebSocketTicketRecord.live b'.sessions now = WebSocketTicketRecord.live b.sessions now := by
  funext ticket
  unfold live
  rw [← h.sessions.any (q := fun s => s.id = ticket.sessionId && !s.ended now) fun s hs =>
    (Bool.and_eq_true_iff.1 hs).2]

namespace WebSocketTicketRepository

/-- No ticket of only one database makes the insert differ. -/
def Undisturbed (now : Timestamp) (b : Database) (tickets tickets' : WebSocketTickets)
    (account session : Uuid) (tokenHash : Bytea) (id : Uuid) : Prop :=
  b.sessions.any (SessionRepository.selectsUsable b now account session) = true →
    Dict.OneSided (fun id' ticket => id' ≠ id ∧ ticket.tokenHash ≠ tokenHash) tickets.records
      tickets'.records

theorem any_usable (h : b.Agrees now b') (q : SessionRecord → Bool) :
    (b'.sessions.any fun s => q s && s.usable b' now) = b.sessions.any fun s =>
      q s && s.usable b now := by
  have husable : (fun s => q s && SessionRecord.usable b' now s) =
      fun s => q s && SessionRecord.usable b now s := funext fun s => by rw [h.usable]
  rw [husable]
  refine (h.sessions.any fun s hs => ?_).symm
  have hended := SessionRecord.not_ended_of_usable (Bool.and_eq_true_iff.1 hs).2
  rw [Bool.eq_false_iff.2 hended, Bool.not_false]

theorem create_agrees (h : b.Agrees now b')
    (htickets : Dict.SameWhere (·.live b.sessions now) tickets.records tickets'.records)
    {account session : Uuid} {tokenHash : Bytea} (expiresAt : Timestamp) {id : Uuid}
    (hside : Undisturbed now b tickets tickets' account session tokenHash id) :
    (∃ e, create tickets b now account session tokenHash expiresAt id = .error e ∧
        create tickets' b' now account session tokenHash expiresAt id = .error e) ∨
      ∃ u u' ticket, create tickets b now account session tokenHash expiresAt id = .ok (u, ticket) ∧
        create tickets' b' now account session tokenHash expiresAt id = .ok (u', ticket) ∧
        Dict.SameWhere (·.live b.sessions now) u.records u'.records := by
  have hany : b'.sessions.any (SessionRepository.selectsUsable b' now account session) =
      b.sessions.any (SessionRepository.selectsUsable b now account session) :=
    any_usable h fun s => s.userId = account && s.id = session
  unfold create
  rw [hany]
  by_cases husable : b.sessions.any (SessionRepository.selectsUsable b now account session) = true
  · have hid := ((hside husable).mono fun _ _ hk => hk.1).isSome_get
    have hhash := ((hside husable).mono fun _ ticket hk =>
      decide_eq_false (p := ticket.tokenHash = tokenHash) hk.2).any_values
    simp only [if_pos husable]
    rw [hid, hhash]
    split_ifs
    · exact .inl ⟨_, rfl, rfl⟩
    · exact .inl ⟨_, rfl, rfl⟩
    · exact .inr ⟨_, _, _, rfl, rfl, htickets.set _ _⟩
  · simp only [if_neg husable]
    exact .inl ⟨_, rfl, rfl⟩

/-- An update that only selects tickets in use. -/
theorem consumeRow_agrees
    (h : Dict.SameWhere (·.live b.sessions now) tickets.records tickets'.records)
    {selected : WebSocketTicketRecord → Bool}
    (hselected : ∀ ticket, selected ticket = true → ticket.live b.sessions now = true) :
    (∃ e, consumeRow tickets now selected = .error e ∧
      consumeRow tickets' now selected = .error e) ∨
      ∃ u u' ticket, consumeRow tickets now selected = .ok (u, ticket) ∧
        consumeRow tickets' now selected = .ok (u', ticket) ∧
        Dict.SameWhere (·.live b.sessions now) u.records u'.records := by
  unfold consumeRow
  rw [← h.find? hselected]
  split
  · exact .inr ⟨_, _, _, rfl, rfl, h⟩
  · split_ifs
    · exact .inl ⟨_, rfl, rfl⟩
    · exact .inr ⟨_, _, _, rfl, rfl, h.set _ _⟩

end WebSocketTicketRepository

/-! ## Rate limits -/

namespace RateLimitBucketRepository

variable {table table' : RateLimitTable}

/-- Two rows that a bucket was read with: both are in use and the same, or both windows are over. -/
def SameRead (now : Timestamp) (row row' : Option RateLimitBucket) : Prop :=
  (∃ bucket, row = some bucket ∧ row' = some bucket ∧ now < bucket.windowExpiresAt) ∨
    opensWindow now row = true ∧ opensWindow now row' = true

theorem SameRead.of_get (h : Dict.SameWhere (·.live now) table table') (bucket : BucketKey) :
    SameRead now (table.get bucket) (table'.get bucket) := by
  have hopens : ∀ {row : Option RateLimitBucket}, (∀ bucket, row = some bucket →
      bucket.live now = false) → opensWindow now row = true := by
    intro row hrow
    cases row with
    | none => rfl
    | some bucket => exact decide_eq_true (Nat.not_lt.1 (of_decide_eq_false (hrow bucket rfl)))
  obtain ⟨row, hget, hget', hlive⟩ | ⟨hdead, hdead'⟩ := h.get_cases bucket
  · exact .inl ⟨row, hget, hget', of_decide_eq_true hlive⟩
  · exact .inr ⟨hopens hdead, hopens hdead'⟩

theorem not_exhausted_of_opens {row : Option RateLimitBucket} (h : opensWindow now row = true)
    (limit : ℕ) : exhausted now limit row = false := by
  cases row with
  | none => rfl
  | some row =>
    have hle : row.windowExpiresAt ≤ now := of_decide_eq_true h
    simp [exhausted, Nat.not_lt.2 hle]

theorem SameRead.exhausted {row row' : Option RateLimitBucket} (h : SameRead now row row')
    (limit : ℕ) : Backend.exhausted now limit row = Backend.exhausted now limit row' := by
  obtain ⟨bucket, rfl, rfl, -⟩ | ⟨hopens, hopens'⟩ := h
  · rfl
  · rw [not_exhausted_of_opens hopens, not_exhausted_of_opens hopens']

/-- The requests of a call, as they are read from the two tables. -/
def SameReads (now : Timestamp) :
    List (BucketRequest × Option RateLimitBucket) →
      List (BucketRequest × Option RateLimitBucket) → Prop :=
  List.Forall₂ fun read read' => read.1 = read'.1 ∧ SameRead now read.2 read'.2

theorem selectBuckets_agrees (h : Dict.SameWhere (·.live now) table table')
    (requests : List BucketRequest) :
    (selectBuckets now table requests = none ∧ selectBuckets now table' requests = none) ∨
      ∃ states states', selectBuckets now table requests = some states ∧
        selectBuckets now table' requests = some states' ∧ SameReads now states states' := by
  induction requests with
  | nil => exact .inr ⟨[], [], rfl, rfl, .nil⟩
  | cons request requests ih =>
    have hread := SameRead.of_get h request.bucket
    simp only [selectBuckets]
    rw [hread.exhausted request.limit]
    split_ifs
    · exact .inl ⟨rfl, rfl⟩
    · obtain ⟨hnone, hnone'⟩ | ⟨states, states', hstates, hstates', hsame⟩ := ih
      · rw [hnone, hnone']
        exact .inl ⟨rfl, rfl⟩
      · rw [hstates, hstates']
        exact .inr ⟨_, _, rfl, rfl, .cons ⟨rfl, hread⟩ hsame⟩

/-- What a request writes is the same on both tables. -/
theorem writeBucket_agrees (h : Dict.SameWhere (·.live now) table table') {request : BucketRequest}
    {row row' : Option RateLimitBucket} (hread : SameRead now row row') :
    Dict.SameWhere (·.live now) (writeBucket now table (request, row))
      (writeBucket now table' (request, row')) := by
  obtain ⟨bucket, rfl, rfl, hlive⟩ | ⟨hopens, hopens'⟩ := hread
  · have hopens : opensWindow now (some bucket) = false := decide_eq_false (Nat.not_le.2 hlive)
    have hset : ∀ {c : RateLimitTable}, (∀ row, c.get request.bucket = some row →
        row.live now = false) →
        Dict.SameWhere (·.live now) (writeBucket now c (request, some bucket)) c := by
      intro c hc
      simp only [writeBucket, hopens, Bool.false_eq_true, if_false]
      cases hget : c.get request.bucket with
      | none => exact Table.SameWhere.refl _ _
      | some row => exact .set_of_not (hc row hget) hc
    obtain ⟨row, hget, hget', -⟩ | ⟨hdead, hdead'⟩ := h.get_cases request.bucket
    · simp only [writeBucket, hopens, Bool.false_eq_true, if_false, hget, hget']
      exact h.set _ _
    · exact (hset hdead).trans (h.trans (hset hdead').symm)
  · rw [writeBucket, writeBucket, if_pos hopens, if_pos hopens']
    exact h.set _ _

theorem consumeMany_agrees (h : Dict.SameWhere (·.live now) table table')
    (requests : List BucketRequest) :
    (consumeMany table requests now).1 = (consumeMany table' requests now).1 ∧
      Dict.SameWhere (·.live now) (consumeMany table requests now).2
        (consumeMany table' requests now).2 := by
  unfold consumeMany
  split_ifs
  · exact ⟨rfl, h⟩
  cases requests.forM validateRequest with
  | error e => exact ⟨rfl, h⟩
  | ok valid =>
    dsimp only
    obtain ⟨hnone, hnone'⟩ | ⟨states, states', hstates, hstates', hsame⟩ :=
      selectBuckets_agrees h requests
    · rw [hnone, hnone']
      exact ⟨rfl, h⟩
    · rw [hstates, hstates']
      refine ⟨rfl, ?_⟩
      -- the writes, one request after the other
      clear hstates hstates'
      induction hsame generalizing table table' with
      | nil => exact h
      | @cons read read' _ _ hread _ ih =>
        obtain ⟨request, row⟩ := read
        obtain ⟨rfl, hrows⟩ := hread
        exact ih (writeBucket_agrees h hrows)

theorem increment_agrees (h : Dict.SameWhere (·.live now) table table') (bucket : BucketKey)
    (windowExpiresAt : Timestamp) :
    (∃ e, increment table now bucket windowExpiresAt = .error e ∧
        increment table' now bucket windowExpiresAt = .error e) ∨
      ∃ u u', increment table now bucket windowExpiresAt = .ok u ∧
        increment table' now bucket windowExpiresAt = .ok u' ∧
        Dict.SameWhere (·.live now) u u' := by
  by_cases hcheck : RateLimitBucket.check bucket ⟨now, windowExpiresAt, 1⟩ = false
  · exact .inl ⟨.rejected .check, if_pos hcheck, if_pos hcheck⟩
  have hopened : ∀ {c : RateLimitTable}, (∀ row, c.get bucket = some row → row.live now = false) →
      increment c now bucket windowExpiresAt = .ok (c.set bucket ⟨now, windowExpiresAt, 1⟩) := by
    intro c hc
    unfold increment
    simp only [if_neg hcheck]
    cases hget : c.get bucket with
    | none => rfl
    | some row =>
      have hover : row.windowExpiresAt ≤ now := Nat.not_lt.1 (of_decide_eq_false (hc row hget))
      simp only [if_pos hover, if_neg hcheck]
  obtain ⟨row, hget, hget', -⟩ | ⟨hdead, hdead'⟩ := h.get_cases bucket
  · unfold increment
    simp only [if_neg hcheck, hget, hget']
    generalize (if row.windowExpiresAt ≤ now then (⟨now, windowExpiresAt, 1⟩ : RateLimitBucket)
      else { row with requestCount := row.requestCount + 1 }) = written
    by_cases hwritten : written.check bucket = false
    · exact .inl ⟨.rejected .check, if_pos hwritten, if_pos hwritten⟩
    · exact .inr ⟨_, _, if_neg hwritten, if_neg hwritten, h.set _ _⟩
  · rw [hopened hdead, hopened hdead']
    exact .inr ⟨_, _, rfl, rfl, h.set _ _⟩

end RateLimitBucketRepository

/-! ## The sessions of the tickets -/

/-- A session in use was in use before, or has a new id, and no session is lost. -/
structure Database.Evolves (now : Timestamp) (b c : Database) : Prop where
  live : ∀ s' ∈ c.sessions, s'.ended now = false →
    (∃ s ∈ b.sessions, s.id = s'.id ∧ s.ended now = false) ∨ s'.id ∉ b.sessions.map (·.id)
  ids : ∀ s ∈ b.sessions, ∃ s' ∈ c.sessions, s'.id = s.id
  check : (∀ s ∈ b.sessions, s.check = true) → ∀ s' ∈ c.sessions, s'.check = true

theorem Database.Evolves.of_sessions (h : c.sessions = b.sessions) : b.Evolves now c where
  live s' hs' hended := .inl ⟨s', h ▸ hs', rfl, hended⟩
  ids s hs := ⟨s, h ▸ hs, rfl⟩
  check hb s' hs' := hb s' (h ▸ hs')

theorem Database.Evolves.update {u : Update SessionRecord} (h : c.sessions = u.apply b.sessions)
    (hlater : ∀ s : SessionRecord, s.Later now now (u.row s))
    (hcheck : ∀ s ∈ b.sessions, u.selected s = true → (u.set s).check = true) :
    b.Evolves now c where
  live s' hs' hended := by
    obtain ⟨s, hs, rfl⟩ := Update.mem_apply.1 (h ▸ hs')
    refine .inl ⟨s, hs, (hlater s).id.symm, Bool.eq_false_iff.2 fun hended' => ?_⟩
    exact Bool.false_ne_true (hended.symm.trans ((hlater s).ended hended'))
  ids s hs := ⟨u.row s, h ▸ Update.mem_apply.2 ⟨s, hs, rfl⟩, (hlater s).id⟩
  check hb s' hs' := by
    obtain ⟨s, hs, rfl⟩ := Update.mem_apply.1 (h ▸ hs')
    unfold Update.row
    split_ifs with hselected
    · exact hcheck s hs hselected
    · exact hb s hs

theorem SessionRepository.evolves (b : Database) (op : SessionOperation) :
    b.Evolves now (b.after (perform b now op)) := by
  cases hperform : perform b now op with
  | error e => exact .of_sessions rfl
  | ok result =>
    obtain ⟨c, response⟩ := result
    obtain ⟨new, -, hnew, hc⟩ | ⟨u, hu, hcheck, hc⟩ := perform_cases hperform
    · have hsessions : c.sessions = b.sessions ++ [new] := by rw [hc]
      show b.Evolves now c
      refine ⟨fun s' hs' hended => ?_, fun s hs => ?_, fun hb s' hs' => ?_⟩
      · obtain hold | hs' := List.mem_append.1 (hsessions ▸ hs')
        · exact .inl ⟨s', hold, rfl, hended⟩
        · obtain rfl := List.mem_singleton.1 hs'
          exact .inr hnew.freshId
      · exact ⟨s, hsessions ▸ List.mem_append_left _ hs, rfl⟩
      · obtain hold | hs' := List.mem_append.1 (hsessions ▸ hs')
        · exact hb s' hold
        · obtain rfl := List.mem_singleton.1 hs'
          exact hnew.check
    · exact .update (u := u) (by rw [Database.after, hc]) (fun s => op.later hu) hcheck

theorem Database.Evolves.revocation {selected : SessionRecord → Bool} {reason : String}
    {rows : List SessionRecord}
    (h : b.updateSessions selected (SessionRecord.revoked now reason) = .ok (c, rows)) :
    b.Evolves now c := by
  obtain ⟨hcheck, rfl, -⟩ := updateSessions_ok (u := ⟨selected, SessionRecord.revoked now reason⟩) h
  exact .update (u := ⟨selected, SessionRecord.revoked now reason⟩) rfl
    (fun s => Update.later fun _ => .revoked reason) hcheck

/-- The devices are updated first, and the sessions of a device only if there is one. -/
theorem Database.Evolves.withSessions {set : DeviceRecord → DeviceRecord} {account device : Uuid}
    {reason : String} {rows : List DeviceRecord}
    (h : DeviceRepository.withSessions b now set account device reason = .ok (c, rows)) :
    b.Evolves now c := by
  obtain ⟨⟨db, updated⟩, hupdate, hok⟩ := exists_of_bind_eq_ok h
  obtain ⟨-, rfl, -⟩ := updateDevices_ok (u := ⟨_, set⟩) hupdate
  cases updated with
  | nil =>
    cases hok
    exact .of_sessions rfl
  | cons record updated =>
    obtain ⟨⟨db', revoked⟩, hrevoke, hok⟩ := exists_of_bind_eq_ok hok
    cases hok
    obtain ⟨hlive, hids, hcheck⟩ := Evolves.revocation hrevoke
    exact ⟨hlive, hids, hcheck⟩

theorem DeviceRepository.evolves (b : Database) (op : DeviceOperation) :
    b.Evolves now (b.after (perform b now op)) := by
  cases hperform : perform b now op with
  | error e => exact .of_sessions rfl
  | ok result =>
    have hkept : (op.updates now).2 = .nothing → b.Evolves now result.1 := by
      intro hnothing
      obtain ⟨c, response⟩ := result
      obtain ⟨d, -, hc⟩ | ⟨-, -, ⟨-, hc⟩ | hc⟩ := perform_cases hperform
      · exact .of_sessions (by rw [hc])
      · exact .of_sessions (by rw [hc])
      · exact .of_sessions (by rw [hc, hnothing, Update.nothing_apply])
    cases op with
    | revokeWithSessions account device reason =>
      obtain ⟨⟨db, rows⟩, hok, rfl⟩ := exists_of_map_eq_ok hperform
      exact .withSessions hok
    | logoutWithSessions account device reason =>
      obtain ⟨⟨db, rows⟩, hok, rfl⟩ := exists_of_map_eq_ok hperform
      exact .withSessions hok
    | revokeAllForAccount account reason =>
      obtain ⟨⟨db, rows⟩, hok, rfl⟩ := exists_of_map_eq_ok hperform
      obtain ⟨⟨db₁, updated⟩, hupdate, hok⟩ := exists_of_bind_eq_ok hok
      obtain ⟨-, rfl, -⟩ := updateDevices_ok (u := ⟨_, revoked now⟩) hupdate
      obtain ⟨⟨db₂, revoked⟩, hrevoke, hok⟩ := exists_of_bind_eq_ok hok
      cases hok
      obtain ⟨hlive, hids, hcheck⟩ := Database.Evolves.revocation hrevoke
      exact ⟨hlive, hids, hcheck⟩
    | _ => exact hkept rfl

/-- A ticket whose session is in use had one in use before. -/
theorem Database.Evolves.live_ticket (h : b.Evolves now c) {ticket : WebSocketTicketRecord}
    (hticket : ∃ s ∈ b.sessions, s.id = ticket.sessionId)
    (hlive : ticket.live c.sessions now = true) : ticket.live b.sessions now = true := by
  obtain ⟨hunused, hany⟩ := Bool.and_eq_true_iff.1 hlive
  obtain ⟨s', hs', hs'live⟩ := List.any_eq_true.1 hany
  obtain ⟨hid, hended⟩ := Bool.and_eq_true_iff.1 hs'live
  have hid : s'.id = ticket.sessionId := of_decide_eq_true hid
  obtain ⟨s, hs, hsid, hsended⟩ | hnew := h.live s' hs' (by simpa using hended)
  · refine Bool.and_eq_true_iff.2 ⟨hunused, List.any_eq_true.2 ⟨s, hs, ?_⟩⟩
    simp [hsid.trans hid, hsended]
  · obtain ⟨s, hs, hsid⟩ := hticket
    exact (hnew (List.mem_map.2 ⟨s, hs, hsid.trans hid.symm⟩)).elim

/-! ## All tables -/

/-- What the schema says of the sessions and of the tickets. -/
structure PrivateTables.Consistent (db : PrivateTables) : Prop where
  sessions : ∀ s ∈ db.auth.base.sessions, s.check = true
  /-- `websocket_tickets_session_fk` -/
  tickets : ∀ id ticket, db.tickets.records.get id = some ticket →
    ∃ s ∈ db.auth.base.sessions, s.id = ticket.sessionId

/-- No row that only one of the databases has stands in the way of the call. -/
def RepositoryCall.Undisturbed (now : Timestamp) (db db' : PrivateTables) : RepositoryCall → Prop
  | .session op => op.Undisturbed db.auth.base db'.auth.base
  | .device op => op.Undisturbed now db.auth.base db'.auth.base
  | .linkingOtp op => op.Undisturbed db.auth db'.auth
  | .createChallenge account deviceId nonceHash _ _ id =>
    DeviceChallengeRepository.Undisturbed db.auth db'.auth account deviceId nonceHash id
  | .createTicket account sessionId tokenHash _ id =>
    WebSocketTicketRepository.Undisturbed now db.auth.base db.tickets db'.tickets account sessionId
      tokenHash id
  | .transfer op => op.Undisturbed db.auth.base db'.auth.base
  | _ => True

variable {db db' : PrivateTables}

theorem PrivateTables.Consistent.of_auth (now : Timestamp) (h : db.Consistent)
    (he : db.auth.base.Evolves now a.base) :
    ({ db with auth := a } : PrivateTables).Consistent := by
  refine ⟨he.check h.sessions, fun id ticket hget => ?_⟩
  obtain ⟨s, hs, hid⟩ := h.tickets id ticket hget
  obtain ⟨s', hs', hid'⟩ := he.ids s hs
  exact ⟨s', hs', hid'.trans hid⟩

theorem PrivateTables.Agrees.of_auth (h : db.Agrees now db') (hdb : db.Consistent)
    (hdb' : db'.Consistent) (ha : a.Agrees now a') (he : db.auth.base.Evolves now a.base)
    (he' : db'.auth.base.Evolves now a'.base) :
    ({ db with auth := a } : PrivateTables).Agrees now { db' with auth := a' } := by
  refine ⟨ha, ?_, h.buckets⟩
  refine Table.SameWhere.mono_of_mem h.tickets (fun e hmem hlive => ?_) fun e hmem hlive => ?_
  · exact he.live_ticket (hdb.tickets e.1 e.2 (Dict.mem_entries.1 hmem)) hlive
  · rw [← WebSocketTicketRecord.live_agrees ha.base] at hlive
    have hold := he'.live_ticket (hdb'.tickets e.1 e.2 (Dict.mem_entries.1 hmem)) hlive
    rwa [WebSocketTicketRecord.live_agrees h.auth.base] at hold

end Agreement

end SelfRelay.Backend
