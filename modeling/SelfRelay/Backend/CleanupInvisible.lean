import SelfRelay.Backend.AgreeingTables

/-!
# Cleanup is invisible

`cleanup_expired` deletes rows that are not in use, so the database before and after it agree
(`agrees_cleanupExpired`), and the calls of any further run are answered alike on both
(`cleanup_invisible`), as long as none of them meets a row that only one database has.  An insert
can: the unique constraints look at the rows that are not in use as well, and a linking code of six
digits is taken until the cleanup has deleted its row (`deleted_code_redrawn`).
-/

namespace SelfRelay.Backend

open Table StepSystem

section Calls

variable {now : Timestamp} {db db' : PrivateTables}

/-! ## The foreign key of the tickets -/

namespace WebSocketTickets

variable {tickets u : WebSocketTickets} {sessions : List SessionRecord}

/-- Every ticket has a session. -/
def Referring (sessions : List SessionRecord) (tickets : WebSocketTickets) : Prop :=
  ∀ id ticket, tickets.records.get id = some ticket → ∃ s ∈ sessions, s.id = ticket.sessionId

theorem Referring.set (h : tickets.Referring sessions) {id : Uuid} {ticket : WebSocketTicketRecord}
    (hticket : ∃ s ∈ sessions, s.id = ticket.sessionId) :
    Referring sessions { tickets with records := tickets.records.set id ticket } := by
  intro id' ticket' hget
  by_cases heq : id' = id
  · obtain rfl := heq
    obtain rfl := Option.some.inj (Dict.get_set.symm.trans hget)
    exact hticket
  · exact h id' ticket' ((Dict.get_set_ne heq).symm.trans hget)

theorem Referring.consumeRow (h : tickets.Referring sessions)
    {selected : WebSocketTicketRecord → Bool} {result : Option WebSocketTicketRecord}
    (hok : WebSocketTicketRepository.consumeRow tickets now selected = .ok (u, result)) :
    u.Referring sessions := by
  unfold WebSocketTicketRepository.consumeRow at hok
  split at hok
  · cases hok
    exact h
  · rename_i ticket hfind
    split_ifs at hok
    cases hok
    obtain ⟨id, hget⟩ := Dict.mem_values.1 (List.mem_of_find?_eq_some hfind)
    exact h.set (h id ticket hget)

end WebSocketTickets

theorem PrivateTables.Consistent.answerTicket (h : db.Consistent)
    {selected : WebSocketTicketRecord → Bool} :
    (db.answerTicket
      (WebSocketTicketRepository.consumeRow db.tickets now selected)).1.Consistent := by
  cases hconsume : WebSocketTicketRepository.consumeRow db.tickets now selected with
  | error e => exact h
  | ok result => exact ⟨h.sessions, WebSocketTickets.Referring.consumeRow h.tickets hconsume⟩

/-! ## The sessions after a call -/

namespace DeviceChallengeRepository

variable {a c : AuthDatabase}

theorem create_base {account device : Uuid} {nonceHash : Bytea} {origin : String}
    {expiresAt : Timestamp} {id : Uuid} {record : DeviceChallengeRecord}
    (h : create a now account device nonceHash origin expiresAt id = .ok (c, record)) :
    c.base = a.base := by
  unfold create at h
  split_ifs at h
  obtain ⟨inserted, hinsert, hok⟩ := exists_of_bind_eq_ok h
  cases hok
  unfold AuthDatabase.insertChallenge at hinsert
  split_ifs at hinsert
  cases hinsert
  rfl

theorem consume_base (a : AuthDatabase) (account challenge : Uuid) :
    (consume a now account challenge).2.base = a.base := by
  obtain ⟨record, -, -, -, h⟩ | ⟨result, -, h⟩ := consume_cases a now account challenge
  · rw [h]
  · rw [h]

theorem consumeByNonceHash_base (a : AuthDatabase) (account : Uuid) (nonceHash : Bytea) :
    (consumeByNonceHash a now account nonceHash).2.base = a.base := by
  unfold consumeByNonceHash
  split
  · rfl
  · exact consume_base a account _

theorem markFailed_base (a : AuthDatabase) (account challenge : Uuid) :
    (markFailed a now account challenge).base = a.base := by
  obtain h | ⟨record, -, -, -, h⟩ := markFailed_cases a now account challenge
  · rw [h]
  · rw [h]

end DeviceChallengeRepository

theorem DeviceLinkingOtpRepository.perform_sessions (a : AuthDatabase) (op : LinkingOtpOperation) :
    (perform a now op).base.sessions = a.base.sessions := by
  have hbase : (perform a now op).base = a.base ∨ _ := perform_base op
  obtain h | ⟨d, -, h⟩ := hbase
  · rw [h]
  · rw [h]

theorem TransferRequestRepository.perform_sessions (b : Database) (op : TransferOperation) :
    (perform b now op).1.sessions = b.sessions := by
  cases hcreates : op.creates with
  | false =>
    obtain ⟨g, hrows, -⟩ := transfers_perform b now hcreates
    rw [hrows]
  | true =>
    cases op with
    | create account sender recipient version expiresAt id =>
      simp only [perform, create]
      split
      · split
        · rfl
        · rfl
      · rfl
    | _ => cases hcreates

theorem PrivateTables.perform_session (db : PrivateTables) (op : SessionOperation) :
    db.perform now (.session op) =
      (db.withBase (db.auth.base.after (SessionRepository.perform db.auth.base now op)),
        op.answer (Prod.snd <$> SessionRepository.perform db.auth.base now op)) := by
  simp only [perform]
  split
  · rename_i e hperform
    rw [hperform]
    rfl
  · rename_i hperform
    rw [hperform]
    rfl

theorem PrivateTables.perform_device (db : PrivateTables) (op : DeviceOperation) :
    db.perform now (.device op) =
      (db.withBase (db.auth.base.after (DeviceRepository.perform db.auth.base now op)), none) := by
  simp only [perform]
  split
  · rename_i e hperform
    rw [hperform]
    rfl
  · rename_i hperform
    rw [hperform]
    rfl

/-- Every call keeps what the schema says. -/
theorem PrivateTables.Consistent.perform (h : db.Consistent) (call : RepositoryCall) :
    (db.perform now call).1.Consistent := by
  cases call with
  | findByTokenHash | findCurrentById | getActiveByHash | ensureCapacity => exact h
  | session op =>
    rw [perform_session]
    exact h.of_auth now (SessionRepository.evolves db.auth.base op)
  | device op =>
    rw [perform_device]
    exact h.of_auth now (DeviceRepository.evolves db.auth.base op)
  | createAccount id => exact h.of_auth now (.of_sessions rfl)
  | linkingOtp op =>
    exact h.of_auth now
      (.of_sessions (DeviceLinkingOtpRepository.perform_sessions db.auth op))
  | createChallenge account device nonceHash origin expiresAt id =>
    simp only [PrivateTables.perform]
    split
    · exact h
    · rename_i hcreate
      exact h.of_auth now
        (.of_sessions (congrArg _ (DeviceChallengeRepository.create_base hcreate)))
  | consumeChallenge account challenge =>
    exact h.of_auth now
      (.of_sessions (congrArg _ (DeviceChallengeRepository.consume_base _ account challenge)))
  | consumeChallengeByNonceHash account nonceHash =>
    exact h.of_auth now
      (.of_sessions
        (congrArg _ (DeviceChallengeRepository.consumeByNonceHash_base _ account nonceHash)))
  | failChallenge account challenge =>
    exact h.of_auth now
      (.of_sessions (congrArg _ (DeviceChallengeRepository.markFailed_base _ account challenge)))
  | createTicket account session tokenHash expiresAt id =>
    simp only [PrivateTables.perform]
    split
    · exact h
    · rename_i tickets ticket hcreate
      refine ⟨h.sessions, ?_⟩
      unfold WebSocketTicketRepository.create at hcreate
      split at hcreate
      · rename_i hany
        obtain ⟨s, hs, hselects⟩ := List.any_eq_true.1 hany
        simp only [SessionRepository.selectsUsable, Bool.and_eq_true, decide_eq_true_eq] at hselects
        dsimp only at hcreate
        split_ifs at hcreate
        cases hcreate
        exact WebSocketTickets.Referring.set h.tickets ⟨s, hs, hselects.1.2⟩
      · cases hcreate
  | consumeForSocket | consumeTicket | consumeTicketById => exact h.answerTicket
  | transfer op =>
    exact h.of_auth now (.of_sessions (TransferRequestRepository.perform_sessions _ op))
  | consumeMany | deleteBucket => exact ⟨h.sessions, h.tickets⟩
  | increment bucket windowExpiresAt =>
    simp only [PrivateTables.perform]
    split
    · exact h
    · exact ⟨h.sessions, h.tickets⟩

/-- A lookup of a usable session. -/
theorem find?_usable {b b' : Database} (h : b.Agrees now b') (q : SessionRecord → Bool) :
    (b'.sessions.find? fun s => q s && s.usable b' now) =
      b.sessions.find? fun s => q s && s.usable b now := by
  have husable : (fun s => q s && SessionRecord.usable b' now s) =
      fun s => q s && SessionRecord.usable b now s := funext fun s => by rw [h.usable]
  rw [husable]
  refine (h.sessions.find? fun s hs => ?_).symm
  have hended := SessionRecord.not_ended_of_usable (Bool.and_eq_true_iff.1 hs).2
  rw [Bool.eq_false_iff.2 hended, Bool.not_false]

/-- The update of a ticket whose session is usable. -/
theorem PrivateTables.Agrees.answerTicket (h : db.Agrees now db')
    {selected selected' : WebSocketTicketRecord → Bool} (hsame : selected' = selected)
    (hselected : ∀ ticket, selected ticket = true → ticket.live db.auth.base.sessions now = true) :
    (db.answerTicket (WebSocketTicketRepository.consumeRow db.tickets now selected)).2 =
        (db'.answerTicket (WebSocketTicketRepository.consumeRow db'.tickets now selected')).2 ∧
      (db.answerTicket (WebSocketTicketRepository.consumeRow db.tickets now selected)).1.Agrees now
        (db'.answerTicket (WebSocketTicketRepository.consumeRow db'.tickets now selected')).1 := by
  subst hsame
  obtain ⟨e, herror, herror'⟩ | ⟨u, u', ticket, hok, hok', hu⟩ :=
    WebSocketTicketRepository.consumeRow_agrees h.tickets hselected
  · rw [herror, herror']
    exact ⟨rfl, h⟩
  · rw [hok, hok']
    exact ⟨rfl, h.auth, hu, h.buckets⟩

/-- A ticket whose session is usable can be consumed if it is neither consumed nor expired. -/
theorem WebSocketTicketRecord.live_of_usable {b : Database} {ticket : WebSocketTicketRecord}
    (hunused : (ticket.consumedAt.isNone && now < ticket.expiresAt) = true)
    (hsession : ∃ s ∈ b.sessions, s.id = ticket.sessionId ∧ s.usable b now = true) :
    ticket.live b.sessions now = true := by
  obtain ⟨s, hs, hid, husable⟩ := hsession
  have hended := Bool.eq_false_iff.2 (SessionRecord.not_ended_of_usable husable)
  refine Bool.and_eq_true_iff.2 ⟨hunused, List.any_eq_true.2 ⟨s, hs, ?_⟩⟩
  simp [hid, hended]

/-- A call is answered alike on databases that agree, and leaves databases that agree. -/
theorem PrivateTables.Agrees.perform (h : db.Agrees now db') (hdb : db.Consistent)
    (hdb' : db'.Consistent) {call : RepositoryCall} (hcall : call.Undisturbed now db db') :
    (db.perform now call).2 = (db'.perform now call).2 ∧
      (db.perform now call).1.Agrees now (db'.perform now call).1 := by
  have hbase := h.auth.base
  have hsame : ∀ {a a' : AuthDatabase}, a.base.sessions = db.auth.base.sessions →
      a'.base.sessions = db'.auth.base.sessions → a.Agrees now a' →
      ({ db with auth := a } : PrivateTables).Agrees now { db' with auth := a' } :=
    fun ha ha' hagrees => h.of_auth hdb hdb' hagrees (.of_sessions ha) (.of_sessions ha')
  -- the tickets that can be consumed are the same
  have howned : ∀ account, WebSocketTicketRepository.ownedBy db'.auth.base now account =
      WebSocketTicketRepository.ownedBy db.auth.base now account := by
    intro account
    funext ticket
    unfold WebSocketTicketRepository.ownedBy
    rw [WebSocketTicketRepository.any_usable hbase fun s => s.id = ticket.sessionId &&
      s.userId = account]
  have hlive : ∀ {account ticket}, WebSocketTicketRepository.ownedBy db.auth.base now
    account ticket =
      true → ticket.live db.auth.base.sessions now = true := by
    intro account ticket hticket
    obtain ⟨hunused, hany⟩ := Bool.and_eq_true_iff.1 hticket
    obtain ⟨s, hs, husable⟩ := List.any_eq_true.1 hany
    simp only [Bool.and_eq_true, decide_eq_true_eq] at husable
    exact WebSocketTicketRecord.live_of_usable hunused ⟨s, hs, husable.1.1, husable.2⟩
  cases call with
  | findByTokenHash tokenHash =>
    exact ⟨congrArg (some ∘ Answer.session ∘ Except.ok) (find?_usable hbase _).symm, h⟩
  | findCurrentById session =>
    exact ⟨congrArg (some ∘ Answer.session ∘ Except.ok) (find?_usable hbase _).symm, h⟩
  | session op =>
    obtain ⟨hagrees, hanswer⟩ :=
      SessionRepository.agrees hbase hdb.sessions hdb'.sessions op hcall
    rw [perform_session, perform_session]
    exact ⟨hanswer, h.of_auth hdb hdb' ⟨hagrees, h.auth.otps, h.auth.challenges⟩
      (SessionRepository.evolves _ op) (SessionRepository.evolves _ op)⟩
  | device op =>
    rw [perform_device, perform_device]
    exact ⟨rfl, h.of_auth hdb hdb'
      ⟨DeviceRepository.agrees hbase hcall, h.auth.otps, h.auth.challenges⟩
      (DeviceRepository.evolves _ op) (DeviceRepository.evolves _ op)⟩
  | createAccount id =>
    refine ⟨rfl, hsame rfl rfl ⟨⟨?_, hbase.devices, hbase.sessions, hbase.transfers⟩, h.auth.otps,
      h.auth.challenges⟩⟩
    exact congrArg (· ++ _) hbase.users
  | getActiveByHash otpHash =>
    exact ⟨congrArg (some ∘ Answer.otp)
      (DeviceLinkingOtpRepository.fetchActiveByHash_agrees h.auth otpHash), h⟩
  | linkingOtp op =>
    obtain ⟨hagrees, hanswer⟩ := DeviceLinkingOtpRepository.agrees h.auth op hcall
    exact ⟨hanswer, hsame (DeviceLinkingOtpRepository.perform_sessions _ op)
      (DeviceLinkingOtpRepository.perform_sessions _ op) hagrees⟩
  | createChallenge account device nonceHash origin expiresAt id =>
    simp only [PrivateTables.perform]
    obtain ⟨e, herror, herror'⟩ | ⟨c, c', record, hok, hok', hagrees⟩ :=
      DeviceChallengeRepository.create_agrees h.auth origin expiresAt hcall
    · rw [herror, herror']
      exact ⟨rfl, h⟩
    · rw [hok, hok']
      exact ⟨rfl, hsame (congrArg _ (DeviceChallengeRepository.create_base hok))
        (congrArg _ (DeviceChallengeRepository.create_base hok')) hagrees⟩
  | consumeChallenge account challenge =>
    obtain ⟨hanswer, hagrees⟩ := DeviceChallengeRepository.consume_agrees h.auth account challenge
    exact ⟨congrArg (some ∘ Answer.challenge) hanswer,
      hsame (congrArg _ (DeviceChallengeRepository.consume_base _ account challenge))
        (congrArg _ (DeviceChallengeRepository.consume_base _ account challenge)) hagrees⟩
  | consumeChallengeByNonceHash account nonceHash =>
    obtain ⟨hanswer, hagrees⟩ :=
      DeviceChallengeRepository.consumeByNonceHash_agrees h.auth account nonceHash
    exact ⟨congrArg (some ∘ Answer.challenge) hanswer,
      hsame (congrArg _ (DeviceChallengeRepository.consumeByNonceHash_base _ account nonceHash))
        (congrArg _ (DeviceChallengeRepository.consumeByNonceHash_base _ account nonceHash))
          hagrees⟩
  | failChallenge account challenge =>
    exact ⟨rfl, hsame (congrArg _ (DeviceChallengeRepository.markFailed_base _ account challenge))
      (congrArg _ (DeviceChallengeRepository.markFailed_base _ account challenge))
      (DeviceChallengeRepository.markFailed_agrees h.auth account challenge)⟩
  | createTicket account session tokenHash expiresAt id =>
    simp only [PrivateTables.perform]
    obtain ⟨e, herror, herror'⟩ | ⟨u, u', ticket, hok, hok', hu⟩ :=
      WebSocketTicketRepository.create_agrees hbase h.tickets expiresAt hcall
    · rw [herror, herror']
      exact ⟨rfl, h⟩
    · rw [hok, hok']
      exact ⟨rfl, h.auth, hu, h.buckets⟩
  | consumeForSocket tokenHash =>
    refine h.answerTicket (funext fun ticket => ?_) fun ticket hticket => ?_
    · unfold WebSocketTicketRepository.consumable
      rw [WebSocketTicketRepository.any_usable hbase fun s => s.id = ticket.sessionId]
    · obtain ⟨hunused, hany⟩ := Bool.and_eq_true_iff.1 hticket
      obtain ⟨s, hs, husable⟩ := List.any_eq_true.1 hany
      simp only [Bool.and_eq_true, decide_eq_true_eq] at hunused husable
      exact WebSocketTicketRecord.live_of_usable (by simp [hunused]) ⟨s, hs, husable⟩
  | consumeTicket account tokenHash =>
    refine h.answerTicket ?_ fun ticket hticket => hlive (Bool.and_eq_true_iff.1 hticket).2
    rw [howned]
  | consumeTicketById account id =>
    refine h.answerTicket ?_ fun ticket hticket => hlive (Bool.and_eq_true_iff.1 hticket).2
    rw [howned]
  | transfer op =>
    exact ⟨rfl, hsame (TransferRequestRepository.perform_sessions _ op)
      (TransferRequestRepository.perform_sessions _ op)
      ⟨TransferRequestRepository.agrees hbase hcall, h.auth.otps, h.auth.challenges⟩⟩
  | ensureCapacity account sender recipient =>
    exact ⟨congrArg (some ∘ Answer.fits) (ensureCapacity_agrees hbase account sender recipient), h⟩
  | consumeMany requests =>
    obtain ⟨hanswer, hbuckets⟩ := RateLimitBucketRepository.consumeMany_agrees h.buckets requests
    exact ⟨congrArg (some ∘ Answer.allowed) hanswer, h.auth, h.tickets, hbuckets⟩
  | increment bucket windowExpiresAt =>
    simp only [PrivateTables.perform]
    obtain ⟨e, herror, herror'⟩ | ⟨u, u', hok, hok', hu⟩ :=
      RateLimitBucketRepository.increment_agrees h.buckets bucket windowExpiresAt
    · rw [herror, herror']
      exact ⟨rfl, h⟩
    · rw [hok, hok']
      exact ⟨rfl, h.auth, h.tickets, hu⟩
  | deleteBucket bucket => exact ⟨rfl, h.auth, h.tickets, h.buckets.del bucket⟩

/-! ## Time -/

/-- What is not in use does not come back into use by itself. -/
theorem PrivateTables.Agrees.later (h : db.Agrees now db') {now' : Timestamp} (hnow : now ≤ now') :
    db.Agrees now' db' := by
  have hended : ∀ s : SessionRecord, (!s.ended now') = true → (!s.ended now) = true := by
    intro s hs
    cases hended : s.ended now with
    | false => rfl
    | true =>
      rw [(SessionRecord.Later.clock hnow).ended hended] at hs
      cases hs
  have hlt : ∀ {at' : Timestamp}, decide (now' < at') = true → decide (now < at') = true :=
    fun h => decide_eq_true (Nat.lt_of_le_of_lt hnow (of_decide_eq_true h))
  refine ⟨⟨⟨h.auth.base.users, h.auth.base.devices, h.auth.base.sessions.mono hended,
    h.auth.base.transfers⟩, ?_, ?_⟩, ?_, ?_⟩
  · refine Table.SameWhere.mono h.auth.otps fun e he => ?_
    obtain ⟨hactive, hexpires⟩ := Bool.and_eq_true_iff.1 he
    exact Bool.and_eq_true_iff.2 ⟨hactive, hlt hexpires⟩
  · refine Table.SameWhere.mono h.auth.challenges fun e he => ?_
    obtain ⟨hunused, hexpires⟩ := Bool.and_eq_true_iff.1 he
    exact Bool.and_eq_true_iff.2 ⟨hunused, hlt hexpires⟩
  · refine Table.SameWhere.mono h.tickets fun e he => ?_
    obtain ⟨hunused, hany⟩ := Bool.and_eq_true_iff.1 he
    obtain ⟨hunused, hexpires⟩ := Bool.and_eq_true_iff.1 hunused
    obtain ⟨s, hs, hlive⟩ := List.any_eq_true.1 hany
    obtain ⟨hid, hlive⟩ := Bool.and_eq_true_iff.1 hlive
    exact Bool.and_eq_true_iff.2 ⟨Bool.and_eq_true_iff.2 ⟨hunused, hlt hexpires⟩,
      List.any_eq_true.2 ⟨s, hs, Bool.and_eq_true_iff.2 ⟨hid, hended s hlive⟩⟩⟩
  · exact Table.SameWhere.mono h.buckets fun e he => hlt he

theorem PrivateTables.Agrees.refl (now : Timestamp) (db : PrivateTables) : db.Agrees now db :=
  ⟨⟨.refl now _, Table.SameWhere.refl _ _, Table.SameWhere.refl _ _⟩, Table.SameWhere.refl _ _,
    Table.SameWhere.refl _ _⟩

theorem PrivateTables.Agrees.symm (h : db.Agrees now db') : db'.Agrees now db := by
  refine ⟨⟨⟨h.auth.base.users.symm, h.auth.base.devices.symm, h.auth.base.sessions.symm,
    h.auth.base.transfers.symm⟩, Table.SameWhere.symm h.auth.otps,
    Table.SameWhere.symm h.auth.challenges⟩, ?_, Table.SameWhere.symm h.buckets⟩
  rw [WebSocketTicketRecord.live_agrees h.auth.base]
  exact Table.SameWhere.symm h.tickets

theorem PrivateTables.Agrees.trans {db'' : PrivateTables} (h : db.Agrees now db')
    (h' : db'.Agrees now db'') : db.Agrees now db'' := by
  have htickets := h'.tickets
  rw [WebSocketTicketRecord.live_agrees h.auth.base] at htickets
  exact ⟨⟨⟨h'.auth.base.users.trans h.auth.base.users,
    h'.auth.base.devices.trans h.auth.base.devices,
    h.auth.base.sessions.trans h'.auth.base.sessions,
    h.auth.base.transfers.trans h'.auth.base.transfers⟩,
    Table.SameWhere.trans h.auth.otps h'.auth.otps,
    Table.SameWhere.trans h.auth.challenges h'.auth.challenges⟩,
    Table.SameWhere.trans h.tickets htickets, Table.SameWhere.trans h.buckets h'.buckets⟩

/-! ## The cleanup -/

namespace ExpiryCleanupRepository

theorem ended_of_old {s : SessionRecord} (h : oldSession now s = true) : s.ended now = true := by
  have hmin : ∀ {at' : Timestamp}, at' + sevenDays ≤ now → at' ≤ now := fun h =>
    Nat.le_trans (Nat.le_add_right _ _) h
  rw [SessionRecord.ended_iff]
  obtain hrevoked | hexpired := Bool.or_eq_true_iff.1 h
  · cases hat : s.revokedAt with
    | some at' => exact .inl rfl
    | none =>
      rw [hat] at hrevoked
      cases hrevoked
  · have hle := hmin (of_decide_eq_true (Bool.and_eq_true_iff.1 hexpired).2)
    exact .inr (min_le_iff.1 hle)

theorem isTerminal_of_old {t : TransferRequestRecord} (h : oldTransfer now t = true) :
    t.status.isTerminal = true := by
  have hstatus := (Bool.and_eq_true_iff.1 h).1
  cases hs : t.status <;> rw [hs] at hstatus <;> first | rfl | cases hstatus

theorem not_live_of_oldOtp {otp : DeviceLinkingOtpRecord} (h : oldOtp now otp = true) :
    otp.live now = false := by
  refine Bool.eq_false_iff.2 fun hlive => ?_
  simp only [DeviceLinkingOtpRecord.live, Bool.and_eq_true, decide_eq_true_eq] at hlive
  simp only [oldOtp, Bool.or_eq_true, decide_eq_true_eq, hlive.1] at h
  obtain (h | h) | h := h
  · cases h
  · cases h
  · exact Nat.not_le.2 hlive.2 h

theorem not_live_of_spent {consumedAt : Option Timestamp} {expiresAt : Timestamp}
    (h : (consumedAt.isSome || expiresAt ≤ now) = true) :
    (consumedAt.isNone && now < expiresAt) = false := by
  refine Bool.eq_false_iff.2 fun hlive => ?_
  simp only [Bool.and_eq_true, decide_eq_true_eq, Option.isNone_iff_eq_none] at hlive
  simp only [Bool.or_eq_true, decide_eq_true_eq, hlive.1] at h
  obtain h | h := h
  · cases h
  · exact Nat.not_le.2 hlive.2 h

/-- The tickets of a session that has not ended are not deleted with a session. -/
theorem sameWhere_cascade {sessions : List SessionRecord} {deleted : List Uuid}
    {tickets : Dict Uuid WebSocketTicketRecord}
    (h : ∀ s ∈ sessions, s.id ∈ deleted → oldSession now s = true) :
    Dict.SameWhere (·.live sessions now) (cascade deleted sessions tickets) tickets := by
  refine .of_keep fun id ticket _ hlive => ?_
  cases hany : sessions.any fun s => s.id = ticket.sessionId && s.id ∈ deleted with
  | false => rfl
  | true =>
    obtain ⟨s, hs, hdeleted⟩ := List.any_eq_true.1 hany
    obtain ⟨s', hs', hlive⟩ := List.any_eq_true.1 (Bool.and_eq_true_iff.1 hlive).2
    simp only [Bool.and_eq_true, decide_eq_true_eq, Bool.not_eq_true'] at hdeleted hlive
    have hold := h s' hs' (hlive.1.trans hdeleted.1.symm ▸ hdeleted.2)
    exact (Bool.false_ne_true (hlive.2.symm.trans (ended_of_old hold))).elim

/-- The tickets that are left have their sessions. -/
theorem referring_cascade {sessions : List SessionRecord} {deleted : List Uuid}
    (tickets : WebSocketTickets) {u : WebSocketTickets} (h : tickets.Referring sessions)
    (hu : ∀ id ticket, u.records.get id = some ticket →
      (cascade deleted sessions tickets.records).get id = some ticket) :
    u.Referring (sessions.filter fun s => s.id ∉ deleted) := by
  intro id ticket hget
  obtain ⟨hget, hkept⟩ := Dict.get_keep (hu id ticket hget)
  obtain ⟨s, hs, hid⟩ := h id ticket hget
  refine ⟨s, List.mem_filter.2 ⟨hs, decide_eq_true fun hdeleted => ?_⟩, hid⟩
  have hany : (sessions.any fun s => s.id = ticket.sessionId && s.id ∈ deleted) = true :=
    List.any_eq_true.2 ⟨s, hs, by simp [hid, hid ▸ hdeleted]⟩
  rw [hany] at hkept
  cases hkept

/-- The cleanup deletes what is not in use. -/
theorem agrees_cleanupExpired (hdb : db.Consistent) {batchSize : ℤ} {picks : CleanupPicks}
    {counts : List (String × ℕ)}
    (h : cleanupExpired db now batchSize picks = .ok (some (db', counts))) :
    db.Agrees now db' ∧ db'.Consistent := by
  unfold cleanupExpired at h
  split_ifs at h
  obtain ⟨_, _, _, _, _, _, hsessions, hchallenges, hotps, htransfers, htickets, hbuckets, husers,
    hdevices⟩ := deleteOld_some (Except.ok.inj h)
  obtain ⟨hfiltered, hold⟩ := Table.deleteBatch_some hsessions
  refine ⟨⟨⟨⟨husers, hdevices, ?_, ?_⟩, ?_, ?_⟩, ?_, ?_⟩, ?_, ?_⟩
  · refine (SameWhere.of_deleteBatch hsessions fun s hs => ?_).symm
    rw [ended_of_old hs, Bool.not_true]
  · refine (SameWhere.of_deleteBatch htransfers fun t ht => ?_).symm
    rw [isTerminal_of_old ht, Bool.not_true]
  · exact Table.SameWhere.symm (Dict.SameWhere.of_deleteBatch hotps fun otp => not_live_of_oldOtp)
  · exact Table.SameWhere.symm (Dict.SameWhere.of_deleteBatch hchallenges fun _ =>
      not_live_of_spent)
  · have hbatch :=
      Dict.SameWhere.of_deleteBatch (p := WebSocketTicketRecord.live db.auth.base.sessions now)
      htickets
      fun ticket hticket => by
        rw [WebSocketTicketRecord.live, not_live_of_spent hticket, Bool.false_and]
    exact Table.SameWhere.symm (Table.SameWhere.trans hbatch (sameWhere_cascade hold))
  · exact Table.SameWhere.symm (Dict.SameWhere.of_deleteBatch hbuckets fun bucket hbucket =>
      decide_eq_false (Nat.not_lt.2 (of_decide_eq_true hbucket)))
  · intro s hs
    rw [hfiltered] at hs
    exact hdb.sessions s (List.mem_filter.1 hs).1
  · show db'.tickets.Referring db'.auth.base.sessions
    rw [hfiltered]
    refine referring_cascade db.tickets hdb.tickets fun id ticket hget => ?_
    rw [(Dict.deleteBatch_some htickets).1] at hget
    exact (Dict.get_keep hget).1

end ExpiryCleanupRepository

end Calls

/-! ## Runs -/

namespace ControlPlane

open ExpiryCleanupRepository RateLimitBucketRepository

/-- Both databases perform the same event, each with the rows that its own queries pick. -/
def Together (p : ControlPlane × ControlPlane) (e : ControlPlaneEvent)
    (q : ControlPlane × ControlPlane) :
    Prop :=
  Performs p.1 e q.1 ∧ Performs p.2 e q.2

/-- No row that only one of the databases has stands in the way of the event. -/
def Quiet (p : ControlPlane × ControlPlane) : ControlPlaneEvent → Prop
  | .call call => call.Undisturbed p.1.now p.1.db p.2.db
  | _ => True

/-- The two runs have not been told apart. -/
structure Twins (p : ControlPlane × ControlPlane) : Prop where
  now : p.2.now = p.1.now
  answers : p.2.answers = p.1.answers
  agrees : p.1.db.Agrees p.1.now p.2.db
  left : p.1.db.Consistent
  right : p.2.db.Consistent

section Steps

variable {s t : ControlPlane} {e : ControlPlaneEvent} {p q : ControlPlane × ControlPlane}

/-- A deletion takes rows that are not in use. -/
theorem Performs.deletes (h : Performs s e t) (hs : s.db.Consistent)
    (hcall : ∀ call, e ≠ .call call)
    (helapse : ∀ duration, e ≠ .elapse duration) :
    t.now = s.now ∧ t.answers = s.answers ∧ s.db.Agrees s.now t.db ∧ t.db.Consistent := by
  cases h with
  | elapse duration => exact (helapse duration rfl).elim
  | call call => exact (hcall call rfl).elim
  | cleanup hcleanup =>
    obtain ⟨hagrees, hconsistent⟩ := agrees_cleanupExpired hs hcleanup
    exact ⟨rfl, rfl, hagrees, hconsistent⟩
  | cleanupRaises => exact ⟨rfl, rfl, .refl _ _, hs⟩
  | deleteExpired hdelete =>
    unfold RateLimitBucketRepository.deleteExpired at hdelete
    split_ifs at hdelete
    have hbuckets := Dict.SameWhere.of_deleteBatch (p := RateLimitBucket.live s.now)
      (Except.ok.inj hdelete) fun bucket hbucket =>
        decide_eq_false (Nat.not_lt.2 (of_decide_eq_true hbucket))
    have hrefl := PrivateTables.Agrees.refl s.now s.db
    exact ⟨rfl, rfl, ⟨hrefl.auth, hrefl.tickets, Table.SameWhere.symm hbuckets⟩,
      hs.sessions, hs.tickets⟩
  | deleteExpiredRaises => exact ⟨rfl, rfl, .refl _ _, hs⟩

theorem Performs.consistent (h : Performs s e t) (hs : s.db.Consistent) : t.db.Consistent := by
  cases h with
  | elapse duration => exact hs
  | call call => exact hs.perform call
  | cleanup hcleanup => exact (agrees_cleanupExpired hs hcleanup).2
  | cleanupRaises => exact hs
  | deleteExpired => exact ⟨hs.sessions, hs.tickets⟩
  | deleteExpiredRaises => exact hs

theorem Twins.called {s s' : ControlPlane} (h : Twins (s, s')) {call : RepositoryCall}
    (hcall : call.Undisturbed s.now s.db s'.db) : Twins (s.called call, s'.called call) := by
  have hnow : s'.now = s.now := h.now
  have hanswers : s'.answers = s.answers := h.answers
  have hdb : s.db.Agrees s.now s'.db := h.agrees
  obtain ⟨hanswer, hagrees⟩ := hdb.perform h.left h.right hcall
  refine ⟨hnow, ?_, ?_, h.left.perform call, h.right.perform call⟩
  · simp only [ControlPlane.called]
    rw [hnow, hanswers, ← hanswer]
  · simp only [ControlPlane.called]
    rw [hnow]
    exact hagrees

theorem Twins.step {s s' t t' : ControlPlane} (h : Twins (s, s'))
    (hstep : Together (s, s') e (t, t')) (hquiet : Quiet (s, s') e) : Twins (t, t') := by
  obtain ⟨hleft, hright⟩ := hstep
  have hnow : s'.now = s.now := h.now
  have hdelete : (∀ call, e ≠ .call call) → (∀ duration, e ≠ .elapse duration) → Twins (t, t') := by
    intro hcall helapse
    obtain ⟨htnow, htanswers, htagrees, htdb⟩ := Performs.deletes hleft h.left hcall helapse
    obtain ⟨htnow', htanswers', htagrees', htdb'⟩ := Performs.deletes hright h.right hcall helapse
    have hnow' : t'.now = t.now := htnow'.trans (hnow.trans htnow.symm)
    refine ⟨hnow', htanswers'.trans (h.answers.trans htanswers.symm), ?_, htdb, htdb'⟩
    have hagrees' : s'.db.Agrees s.now t'.db := hnow ▸ htagrees'
    show t.db.Agrees t.now t'.db
    rw [htnow]
    exact htagrees.symm.trans (h.agrees.trans hagrees')
  cases e with
  | elapse duration =>
    cases hleft
    cases hright
    exact ⟨congrArg (· + duration) hnow, h.answers, h.agrees.later (Nat.le_add_right _ _), h.left,
      h.right⟩
  | call call =>
    cases hleft
    cases hright
    exact h.called hquiet
  | cleanup batchSize => exact hdelete nofun nofun
  | deleteExpired limit => exact hdelete nofun nofun

/-- Whenever the cleanup runs, and whatever rows it picks, the calls of a further run are answered
as they are without it, in every run in which no row that only one of the databases has stands in
the way of a call. -/
theorem cleanup_invisible {start s s' t t' : ControlPlane} {batchSize : ℤ}
    {es fs : List ControlPlaneEvent} (hstart : start.db.Consistent)
    (hbefore : Run Performs start es s)
    (hcleanup : Performs s (.cleanup batchSize) s')
    (hafter : Run (fun p e q => Together p e q ∧ Quiet p e) (s, s') fs (t, t')) :
    t'.answers = t.answers := by
  have hs : s.db.Consistent :=
    hbefore.invariant (I := fun s => s.db.Consistent) hstart fun _ _ _ h hstep => hstep.consistent h
  obtain ⟨hnow, hanswers, hagrees, hs'⟩ := hcleanup.deletes hs nofun nofun
  have htwins : Twins (s, s') := ⟨hnow, hanswers, hagrees, hs, hs'⟩
  exact (hafter.invariant (I := Twins) htwins
    fun _ _ _ h hstep => Twins.step h hstep.1 hstep.2).answers

end Steps

/-! ## A used linking code -/

/-- The state after a cleanup that deletes the rows. -/
def cleaned (s : ControlPlane) (batchSize : ℤ) (picks : CleanupPicks) : Option ControlPlane :=
  match cleanupExpired s.db s.now batchSize picks with
  | .ok (some (db, _)) => some { s with db }
  | _ => none

theorem Performs.of_cleaned {s t : ControlPlane} {batchSize : ℤ} {picks : CleanupPicks}
    (h : cleaned s batchSize picks = some t) : Performs s (.cleanup batchSize) t := by
  unfold cleaned at h
  split at h
  · rename_i hcleanup
    obtain rfl := Option.some.inj h
    exact .cleanup hcleanup
  · cases h

theorem Together.call (s s' : ControlPlane) (call : RepositoryCall) :
    Together (s, s') (.call call) (s.called call, s'.called call) :=
  ⟨.call s call, .call s' call⟩

/-- The code 6 was issued by device 2 and used. -/
def usedCode : ControlPlane where
  db := {
    auth := {
      base := sessionDatabase
      otps := (∅ : Dict Uuid DeviceLinkingOtpRecord).set ⟨6⟩
        { DeviceLinkingOtpRepository.issued 1 ⟨1⟩ ⟨2⟩ (List.replicate 32 0) 9 ⟨6⟩ with
          status := .consumed
          consumedAt := some 2 }
      challenges := ∅ }
    tickets := .empty
    events := ∅
    buckets := ∅ }
  now := 5
  answers := []

theorem usedCode_consistent : usedCode.db.Consistent := ⟨by decide, by rintro _ _ ⟨⟩⟩

/-- Device 2 issues the code 7 with the hash. -/
def issueCode (otpHash : Bytea) : RepositoryCall := .linkingOtp (.create ⟨1⟩ ⟨2⟩ otpHash 9 ⟨7⟩)

/-- Device 8 is linked with the code 7. -/
def redeemCode : RepositoryCall :=
  .linkingOtp (.consumeAndRegister ⟨7⟩ ⟨1⟩ ⟨2⟩ 0 ⟨⟨8⟩, "phone", [1], List.replicate 32 8⟩)

/-- The used code is deleted, and another code is drawn. -/
theorem cleanup_invisible_another_code : ∃ s' t t',
    Performs usedCode (.cleanup 100) s' ∧ s'.db.auth.otps.size = 0 ∧
      Run (fun p e q => Together p e q ∧ Quiet p e) (usedCode, s')
        [.call (issueCode (List.replicate 32 1)), .call redeemCode] (t, t') ∧
      t.answers.length = 1 ∧ t'.answers = t.answers := by
  have hexec : (cleaned usedCode 100 { otps := [⟨6⟩] }).any (fun s' => s'.db.auth.otps.size = 0 ∧
      Dict.OneSided (fun id otp => id ≠ ⟨7⟩ ∧ otp.otpHash ≠ List.replicate 32 1)
        usedCode.db.auth.otps
        s'.db.auth.otps) = true := by
    decide +kernel
  obtain ⟨s', hcleaned, hs'⟩ := (Option.any_eq_true _ _).1 hexec
  obtain ⟨hsize, hside⟩ := of_decide_eq_true hs'
  have hcleanup := Performs.of_cleaned hcleaned
  have hrun : Run (fun p e q => Together p e q ∧ Quiet p e) (usedCode, s')
      [.call (issueCode (List.replicate 32 1)), .call redeemCode]
      ((usedCode.called (issueCode (List.replicate 32 1))).called redeemCode,
        (s'.called (issueCode (List.replicate 32 1))).called redeemCode) :=
    .cons ⟨.call _ _ _, fun _ => hside⟩ (.single ⟨.call _ _ _, trivial⟩)
  exact ⟨s', _, _, hcleanup, hsize, hrun, rfl,
    cleanup_invisible usedCode_consistent (.nil _) hcleanup hrun⟩

/-- The same six digits are drawn again: the code can only be issued, and redeemed, where the row of
the used one has been deleted. -/
theorem deleted_code_redrawn : ∃ s' t t',
    Performs usedCode (.cleanup 100) s' ∧
      Run Together (usedCode, s')
        [.call (issueCode (List.replicate 32 0)), .call redeemCode] (t, t') ∧
      t.answers = [.device (.ok none)] ∧ t'.answers ≠ t.answers := by
  have hexec : (cleaned usedCode 100 { otps := [⟨6⟩] }).any (fun s' =>
      ((s'.called (issueCode (List.replicate 32 0))).called redeemCode).answers ≠
        [.device (.ok none)]) = true := by
    decide +kernel
  obtain ⟨s', hcleaned, hs'⟩ := (Option.any_eq_true _ _).1 hexec
  have hanswers : ((usedCode.called (issueCode (List.replicate 32 0))).called redeemCode).answers =
      [.device (.ok none)] := by
    decide +kernel
  refine ⟨s', _, _, .of_cleaned hcleaned, .cons (.call _ _ _) (.single (.call _ _ _)), hanswers,
    fun heq => ?_⟩
  exact of_decide_eq_true hs' (heq.trans hanswers)

end ControlPlane

end SelfRelay.Backend
