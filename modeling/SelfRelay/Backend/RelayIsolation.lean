import SelfRelay.Backend.Turn

/-!
# Isolation of signaling and relay

A message that is queued belongs to a transfer of the connection's own account, and goes to the
socket of the other participant; the provider of TURN credentials is called for a participant of a
transfer of the session's own account.  The ids in a message are only compared: a field that was
accepted is the text of the id in the table.
-/

open StepSystem

namespace SelfRelay.Backend

open Python

/-! ## Messages -/

/-- The fields that a parsed message has. -/
structure ParsedSignaling.Describes (parsed : ParsedSignaling) (message : PyDict) : Prop where
  type : message.get "type" = .str (py parsed.type.name)
  transfer : message.get "transfer_id" = .str (uuidText parsed.transfer)
  sender : message.get "sender_device_id" = .str (uuidText parsed.sender)
  recipient : message.get "recipient_device_id" = .str (uuidText parsed.recipient)
  distinct : parsed.sender ≠ parsed.recipient

theorem parseEnvelope_describes {message : PyDict} {now : Timestamp} {parsed : ParsedSignaling}
    (h : parseEnvelope message now = some parsed) : parsed.Describes message := by
  unfold parseEnvelope at h
  obtain ⟨type, htype, h⟩ := Option.bind_eq_some_iff.1 h
  split_ifs at h
  · cases h
  · obtain ⟨transfer, htransfer, h⟩ := Option.bind_eq_some_iff.1 h
    obtain ⟨sender, hsender, h⟩ := Option.bind_eq_some_iff.1 h
    obtain ⟨recipient, hrecipient, h⟩ := Option.bind_eq_some_iff.1 h
    split_ifs at h with heq
    · cases h
    · obtain ⟨expiry, -, h⟩ := Option.bind_eq_some_iff.1 h
      obtain rfl := Option.some.inj h
      exact {
        type := SignalingType.ofValue_eq_some htype
        transfer := canonicalUuid_eq_some htransfer
        sender := canonicalUuid_eq_some hsender
        recipient := canonicalUuid_eq_some hrecipient
        distinct := heq }

theorem parseSignalingMessage_describes {depth : ℕ} {message : PyDict} {now : Timestamp}
    {parsed : ParsedSignaling}
    (h : parseSignalingMessage depth message now = .ok (some parsed)) :
    parsed.Describes message := by
  obtain ⟨known, -, h⟩ := Python.bind_eq_ok h
  split_ifs at h
  · cases h
  · split at h
    · cases h
    · rename_i parsed' henvelope
      obtain ⟨valid, -, h⟩ := Python.bind_eq_ok h
      split_ifs at h
      · obtain rfl := Option.some.inj (Except.ok.inj h)
        exact parseEnvelope_describes henvelope
      · cases h

/-! ## The transfer that was read -/

/-- What the checks on a transfer establish. -/
structure ReadAccepted (c : ActiveConnection) (message : PyDict) (parsed : ParsedSignaling)
    (t : TransferRequestRecord) (checkedAt expiryAt : Timestamp) : Prop where
  active : t.status ∈ signalingActiveStatuses
  unexpired : checkedAt < t.expiresAt
  expiry : ∃ time, messageExpiry (message.get "expires_at") expiryAt = some time ∧
    time ≤ t.expiresAt
  sender : t.senderDeviceId = parsed.sender
  recipient : t.recipientDeviceId = parsed.recipient
  participant : c.deviceId = parsed.sender ∨ c.deviceId = parsed.recipient
  offer : parsed.type.isOffer = true → c.deviceId = parsed.sender
  answer : parsed.type.isAnswer = true → c.deviceId = parsed.recipient

theorem isAnswer_of_isOffer {type : SignalingType} (h : type.isOffer = true) :
    type.isAnswer = false := by
  cases type <;> first | rfl | cases h

/-- The call goes on with the transfer. -/
def ReadDecision.goesOn (t : TransferRequestRecord) : ReadDecision → Prop
  | .negotiate t' | .charge t' => t' = t
  | .reject | .clear _ => False

section Read

variable {c : ActiveConnection} {message : PyDict} {parsed : ParsedSignaling}
  {t : TransferRequestRecord} {checkedAt expiryAt : Timestamp}

/-- The checks of `decideRead` as they stand there. -/
theorem readAccepted_of_checks (hactive : ¬(!activeTransfer t checkedAt) = true)
    (hexpiry : ¬(!(messageExpiry (message.get "expires_at") expiryAt).any (· ≤ t.expiresAt)) = true)
    (hids : ¬(!(message.get "v").eqInt t.protocolVersion || t.senderDeviceId ≠ parsed.sender ||
      t.recipientDeviceId ≠ parsed.recipient ||
      (c.deviceId ≠ parsed.sender && c.deviceId ≠ parsed.recipient)) = true)
    (hoffer : parsed.type.isOffer = true → c.deviceId = parsed.sender)
    (hanswer : parsed.type.isAnswer = true → c.deviceId = parsed.recipient) :
    ReadAccepted c message parsed t checkedAt expiryAt := by
  simp only [Bool.not_eq_true', Bool.not_eq_false, activeTransfer, Bool.and_eq_true,
    decide_eq_true_eq, List.contains_iff_mem, Bool.or_eq_true, Option.any_eq_true, ne_eq, not_or,
    not_not, not_and] at hactive hexpiry hids
  obtain ⟨⟨⟨-, hsender⟩, hrecipient⟩, hdevice⟩ := hids
  exact {
    active := hactive.1
    unexpired := hactive.2
    expiry := hexpiry
    sender := hsender
    recipient := hrecipient
    participant := or_iff_not_imp_left.2 hdevice
    offer := hoffer
    answer := hanswer }

theorem decideRead_accepted {transfer : Option TransferRequestRecord}
    (h : (decideRead c message parsed transfer checkedAt expiryAt).goesOn t) :
    transfer = some t ∧ ReadAccepted c message parsed t checkedAt expiryAt := by
  revert h
  fun_cases decideRead c message parsed transfer checkedAt expiryAt with
  | case1 | case2 | case3 | case4 | case5 | case6 | case9 => exact False.elim
  | case7 t' hactive hexpiry hids _ hoffer hsender
  | case8 t' hactive hexpiry hids _ hoffer hsender =>
    rintro rfl
    refine ⟨rfl, readAccepted_of_checks hactive hexpiry hids (fun _ => not_not.1 hsender) ?_⟩
    intro hanswer
    rw [isAnswer_of_isOffer hoffer] at hanswer
    cases hanswer
  | case10 t' hactive hexpiry hids _ hoffer _ hrecipient =>
    rintro rfl
    exact ⟨rfl, readAccepted_of_checks hactive hexpiry hids (fun h => (hoffer h).elim)
      fun _ => not_not.1 hrecipient⟩
  | case11 t' hactive hexpiry hids _ hoffer hanswer =>
    rintro rfl
    exact ⟨rfl, readAccepted_of_checks hactive hexpiry hids (fun h => (hoffer h).elim)
      fun h => (hanswer h).elim⟩

end Read

/-! ## The socket that gets the message -/

theorem current_key {maps : PresenceMaps} (h : Admission maps) {account device : Uuid}
    {c : ActiveConnection} (hcurrent : maps.current account device = some c) :
    c.key = (account, device) := by
  obtain ⟨m, hm, hc⟩ := Option.bind_eq_some_iff.1 hcurrent
  exact (h.accounts account m hm).keys device c hc

theorem sendToDevice_eq_some {depths : EncoderDepths} {reads : ForwardReads}
    {account device : Uuid} {payload : PyDict} {target : ActiveConnection}
    (h : sendToDevice depths reads account device payload = .ok (some target)) :
    reads.maps.current account device = some target := by
  unfold sendToDevice at h
  split at h
  · cases h
  · rename_i target' hcurrent
    obtain ⟨size, -, h⟩ := Python.bind_eq_ok h
    have htarget := Except.ok.inj h
    split_ifs at htarget
    · rw [hcurrent, ← htarget]

theorem forwardSignaling_eq_some {depths : EncoderDepths} {reads : ForwardReads}
    {c target : ActiveConnection} {message : PyDict}
    (h : forwardSignaling depths reads c message = .ok (some target)) :
    ∃ parsed t, parsed.Describes message ∧
      TransferRequestRepository.getById reads.db c.accountId parsed.transfer = some t ∧
      ReadAccepted c message parsed t reads.checkedAt reads.expiryAt ∧
      reads.maps.current c.accountId (parsed.target c.deviceId) = some target := by
  obtain ⟨result, hparse, h⟩ := Python.bind_eq_ok h
  cases result with
  | none => cases h
  | some parsed =>
    have hsent : ∃ t, (decideRead c message parsed
        (TransferRequestRepository.getById reads.db c.accountId parsed.transfer) reads.checkedAt
          reads.expiryAt).goesOn t ∧
        sendToDevice depths reads c.accountId (parsed.target c.deviceId) message
          = .ok (some target) := by
      dsimp only at h
      split at h
      · cases h
      · cases h
      · rename_i t hdecide
        split_ifs at h
        · exact ⟨t, hdecide ▸ rfl, h⟩
        · cases h
      · rename_i t hdecide
        split_ifs at h
        · exact ⟨t, hdecide ▸ rfl, h⟩
        · cases h
    obtain ⟨t, hgoes, hsend⟩ := hsent
    obtain ⟨htransfer, haccepted⟩ := decideRead_accepted hgoes
    exact ⟨parsed, t, parseSignalingMessage_describes hparse, htransfer, haccepted,
      sendToDevice_eq_some hsend⟩

/-! ## TURN -/

/-- A transfer that `expire` returns is over. -/
theorem expire_eq_some {db db' : Database} {now : Timestamp} {account transfer : Uuid}
    {t : TransferRequestRecord}
    (h : TransferRequestRepository.expire db now account transfer = (db', .ok (some t))) :
    t.status = .expired := by
  unfold TransferRequestRepository.expire runTransition Database.updateTransfers at h
  split at h
  · cases h
  · rename_i rows returned hupdate
    obtain ⟨-, hreturned⟩ := Prod.mk.inj h
    obtain ⟨-, -, rfl⟩ := Table.update_eq_ok.1 hupdate
    have hmem := List.mem_of_mem_head? (Except.ok.inj hreturned)
    obtain ⟨t', -, -, rfl⟩ := Table.mem_written.1 hmem
    rfl

/-- An active transfer that `_current_or_expire` returns is a row that it read. -/
theorem currentOrExpire_active {reads : TransferService.CurrentReads} {account transfer : Uuid}
    {t : TransferRequestRecord}
    (h : TransferService.currentOrExpire reads account transfer = .ok (some t))
    (hactive : t.status ∈ activeStatuses) :
    ∃ db ∈ [reads.db, reads.againDb], t ∈ db.transfers ∧ t.userId = account ∧ t.id = transfer := by
  unfold TransferService.currentOrExpire at h
  split at h
  · cases h
  · rename_i record hread
    split_ifs at h
    · obtain rfl := Option.some.inj (Except.ok.inj h)
      exact ⟨reads.db, by simp, TransferRequestRepository.getById_eq_some hread⟩
    · split at h
      · cases h
      · rename_i expired hexpire
        obtain rfl := Option.some.inj (Except.ok.inj h)
        rw [expire_eq_some (Prod.ext rfl hexpire)] at hactive
        exact absurd hactive (by decide)
      · exact ⟨reads.againDb, by simp,
          TransferRequestRepository.getById_eq_some (Except.ok.inj h)⟩

theorem DeviceRepository.getById_eq_some {db : Database} {account device : Uuid} {d : DeviceRecord}
    (h : DeviceRepository.getById db account device = some d) :
    d ∈ db.devices ∧ d.userId = account ∧ d.id = device := by
  have hfound := List.find?_some h
  simp only [Bool.and_eq_true, decide_eq_true_eq] at hfound
  exact ⟨List.mem_of_find?_eq_some h, hfound⟩

/-- The device was read as active in the epoch of the session. -/
def ReadActive (db : Database) (session : SessionRecord) (device : Uuid) : Prop :=
  ∃ d ∈ db.devices, d.userId = session.userId ∧ d.id = device ∧ d.status = .active ∧
    d.epoch = session.epoch

namespace TurnCredentialService

theorem readActive_of_eligible {session : SessionRecord} {actorDb peerDb : Database} {peer : Uuid}
    (hactor : deviceIsEligible (DeviceRepository.getById actorDb session.userId session.deviceId)
      session = true)
    (hpeer : peerIsEligible (DeviceRepository.getById peerDb session.userId peer)
      (DeviceRepository.getById actorDb session.userId session.deviceId) = true) :
    ReadActive actorDb session session.deviceId ∧ ReadActive peerDb session peer := by
  simp only [deviceIsEligible, peerIsEligible, Option.any_eq_true, Bool.and_eq_true,
    decide_eq_true_eq] at hactor hpeer
  obtain ⟨a, ha, ⟨⟨hauser, haid⟩, hastatus⟩, haepoch⟩ := hactor
  obtain ⟨p, hp, a', ha', ⟨-, hpstatus⟩, hpepoch⟩ := hpeer
  obtain rfl := Option.some.inj (ha.symm.trans ha')
  obtain ⟨hpmem, hpuser, hpid⟩ := DeviceRepository.getById_eq_some hp
  exact ⟨⟨a, (DeviceRepository.getById_eq_some ha).1, hauser, haid, hastatus, haepoch⟩,
    ⟨p, hpmem, hpuser, hpid, hpstatus, hpepoch.trans haepoch⟩⟩

/-- What is true of a call of the provider. -/
structure Authorized (reads : IssueReads) (session : SessionRecord) (transferId : Uuid)
    (t : TransferRequestRecord) : Prop where
  /-- The transfer is a row of the table that the call read. -/
  stored : ∃ db ∈ [reads.transfer.db, reads.transfer.againDb], t ∈ db.transfers
  id : t.id = transferId
  account : t.userId = session.userId
  eligible : t.status ∈ activeStatuses
  unexpired : reads.current < t.expiresAt
  participant : session.deviceId = t.senderDeviceId ∨ session.deviceId = t.recipientDeviceId
  actor : ReadActive reads.actorDb session session.deviceId
  peer : ReadActive reads.peerDb session (peerDevice t session.deviceId)

theorem issue_eq_ok {reads : IssueReads} {session : SessionRecord} {transferId : Uuid}
    {request : TurnCredentialRequest} (h : issue reads session transferId = .ok request) :
    ∃ t, Authorized reads session transferId t := by
  unfold issue at h
  split at h
  · cases h
  · cases h
  · rename_i t hget
    dsimp only at h
    split_ifs at h with heligible hdevices hallowed
    simp only [Bool.or_eq_true, Bool.not_eq_true', not_or, Bool.not_eq_false,
      transferIsEligible, TransferRequestRecord.activeAt, TransferRequestRecord.involves,
      Bool.and_eq_true, decide_eq_true_eq, List.contains_iff_mem] at heligible hdevices
    obtain ⟨⟨hactive, hunexpired⟩, hparticipant⟩ := heligible
    obtain ⟨db, hdb, hmem, huser, hid⟩ := currentOrExpire_active hget hactive
    obtain ⟨hactor, hpeer⟩ := readActive_of_eligible hdevices.1 hdevices.2
    exact ⟨t, ⟨⟨db, hdb, hmem⟩, hid, huser, hactive, hunexpired, hparticipant, hactor, hpeer⟩⟩

end TurnCredentialService

/-! ## Isolation -/

/-- What is true of a message of type `type` that is queued for `target`, the socket of `peer`. -/
structure SignalingIsolated (reads : ForwardReads) (c : ActiveConnection) (message : PyDict)
    (target : ActiveConnection) (t : TransferRequestRecord) (type : SignalingType) (peer : Uuid) :
    Prop where
  /-- The transfer is one of the connection's own account, active and unexpired when it is read. -/
  stored : t ∈ reads.db.transfers
  account : t.userId = c.accountId
  active : t.status ∈ signalingActiveStatuses
  unexpired : reads.checkedAt < t.expiresAt
  /-- The message names it, and its two devices. -/
  typeName : message.get "type" = .str (py type.name)
  transferId : message.get "transfer_id" = .str (uuidText t.id)
  senderId : message.get "sender_device_id" = .str (uuidText t.senderDeviceId)
  recipientId : message.get "recipient_device_id" = .str (uuidText t.recipientDeviceId)
  /-- The connection's device is one of them, and the peer is the other one. -/
  distinct : t.senderDeviceId ≠ t.recipientDeviceId
  participants : c.deviceId = t.senderDeviceId ∧ peer = t.recipientDeviceId ∨
    c.deviceId = t.recipientDeviceId ∧ peer = t.senderDeviceId
  /-- The target is the socket of the peer, in the same account. -/
  current : reads.maps.current c.accountId peer = some target
  target : target.accountId = c.accountId ∧ target.deviceId = peer
  offer : type.isOffer = true → c.deviceId = t.senderDeviceId
  answer : type.isAnswer = true → c.deviceId = t.recipientDeviceId
  expiry : ∃ (millis : ℕ) (time : Timestamp), message.get "expires_at" = .int millis ∧
    fromTimestamp millis = some time ∧ reads.expiryAt < time ∧ time ≤ t.expiresAt

theorem forwardSignaling_isolated {depths : EncoderDepths} {reads : ForwardReads}
    {c target : ActiveConnection} {message : PyDict} (hmaps : Admission reads.maps)
    (h : forwardSignaling depths reads c message = .ok (some target)) :
    ∃ t type peer, SignalingIsolated reads c message target t type peer := by
  obtain ⟨parsed, t, hdescribes, hread, haccepted, hcurrent⟩ := forwardSignaling_eq_some h
  obtain ⟨hmem, huser, hid⟩ := TransferRequestRepository.getById_eq_some hread
  obtain ⟨time, htime, hle⟩ := haccepted.expiry
  obtain ⟨millis, hmillis, hfrom, hlt⟩ := messageExpiry_eq_some htime
  have hkey := current_key hmaps hcurrent
  have hsender := haccepted.sender
  have hrecipient := haccepted.recipient
  refine ⟨t, parsed.type, parsed.target c.deviceId, {
    stored := hmem
    account := huser
    active := haccepted.active
    unexpired := haccepted.unexpired
    typeName := hdescribes.type
    transferId := hid ▸ hdescribes.transfer
    senderId := hsender ▸ hdescribes.sender
    recipientId := hrecipient ▸ hdescribes.recipient
    distinct := by
      rw [hsender, hrecipient]
      exact hdescribes.distinct
    participants := ?_
    current := hcurrent
    target := Prod.mk.inj hkey
    offer := fun h => (haccepted.offer h).trans hsender.symm
    answer := fun h => (haccepted.answer h).trans hrecipient.symm
    expiry := ⟨millis, time, hmillis, hfrom, hlt, hle⟩ }⟩
  rw [hsender, hrecipient, ParsedSignaling.target]
  rcases haccepted.participant with hdevice | hdevice
  · exact .inl ⟨hdevice, if_pos hdevice⟩
  · refine .inr ⟨hdevice, if_neg ?_⟩
    rw [hdevice]
    exact hdescribes.distinct.symm

/-- A message that `forward_signaling` queues stays between the two devices of an active transfer of
the connection's account, and credentials are requested for a device of such a transfer only. -/
theorem signaling_and_relay_isolated (heartbeatTimeout : Timestamp) :
    (∀ (events : List SocketEvent) (s : PresenceSystem) (depths : EncoderDepths)
        (reads : ForwardReads) (c target : ActiveConnection) (message : PyDict),
      Run (Step (PresenceSystem.step heartbeatTimeout)) PresenceSystem.initial events s →
      reads.maps = s.maps →
      forwardSignaling depths reads c message = .ok (some target) →
      ∃ t type peer, SignalingIsolated reads c message target t type peer) ∧
    ∀ (reads : TurnCredentialService.IssueReads) (session : SessionRecord) (transferId : Uuid)
        (request : TurnCredentialRequest),
      TurnCredentialService.issue reads session transferId = .ok request →
      ∃ t, TurnCredentialService.Authorized reads session transferId t := by
  constructor
  · intro events s depths reads c target message hrun hmaps h
    exact forwardSignaling_isolated (hmaps ▸ PresenceSystem.admission_run hrun) h
  · intro reads session transferId request h
    exact TurnCredentialService.issue_eq_ok h

/-! The offer of device 2 to device 3, and the credentials for it. -/

def exampleSockets : List SocketEvent :=
  [.register ⟨⟨20⟩, ⟨1⟩, ⟨2⟩, 0⟩, .register ⟨⟨30⟩, ⟨1⟩, ⟨3⟩, 0⟩]

def exampleMaps : PresenceMaps :=
  ((exec (PresenceSystem.step 60) PresenceSystem.initial exampleSockets).getD .initial).maps

def exampleReads : ForwardReads where
  parsedAt := 1000
  checkedAt := 1000
  expiryAt := 1000
  db := exampleDatabase
  negotiated := true
  charged := true
  maps := exampleMaps
  queueMaps := exampleMaps

def exampleSession : SessionRecord where
  id := ⟨5⟩
  userId := ⟨1⟩
  deviceId := ⟨2⟩
  tokenHash := []
  csrfHash := []
  epoch := 1
  createdAt := 0
  lastSeenAt := 0
  idleExpiresAt := 1000000000
  absoluteExpiresAt := 1000000000
  revokedAt := none
  revocationReason := none

def exampleIssueReads : TurnCredentialService.IssueReads where
  current := 1000
  transfer := ⟨exampleDatabase, 1000, exampleDatabase, 1000, exampleDatabase⟩
  actorDb := exampleDatabase
  peerDb := exampleDatabase
  allowed := true

theorem signaling_and_relay_isolated_example :
    (∃ t type peer,
      SignalingIsolated exampleReads ⟨⟨20⟩, ⟨1⟩, ⟨2⟩, 0⟩ exampleOffer ⟨⟨30⟩, ⟨1⟩, ⟨3⟩, 0⟩ t
        type peer) ∧
    ∃ t, TurnCredentialService.Authorized exampleIssueReads exampleSession ⟨9⟩ t := by
  have hexec : (exec (PresenceSystem.step 60) PresenceSystem.initial exampleSockets).isSome =
      true := by
    decide +kernel
  obtain ⟨s, hs⟩ := Option.isSome_iff_exists.1 hexec
  have hmaps : exampleReads.maps = s.maps := by
    rw [exampleReads, exampleMaps, hs, Option.getD_some]
  constructor
  · exact (signaling_and_relay_isolated 60).1 exampleSockets s ⟨100, 100⟩ exampleReads _ _
      exampleOffer
      (.of_exec hs) hmaps (by decide +kernel)
  · exact (signaling_and_relay_isolated 60).2 exampleIssueReads exampleSession ⟨9⟩
      ⟨⟨1⟩, ⟨2⟩, ⟨9⟩, 300⟩ (by decide +kernel)

end SelfRelay.Backend
