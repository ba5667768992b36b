import SelfRelay.Backend.SignalingMessage
import SelfRelay.Backend.SocketAdmission

/-!
# `forward_signaling`

One call of `PresenceManager.forward_signaling`, with what its awaits return.  Between two awaits
the call decides on what it has read; other calls may run at every await, so that the tables and the
connections are those of the moment of each read.
-/

namespace SelfRelay.Backend

open Python

/-- `TransferRequestRepository.get_by_id` -/
def TransferRequestRepository.getById (db : Database) (account transfer : Uuid) :
    Option TransferRequestRecord :=
  if db.accountExists account then
    db.transfers.find? fun t => t.userId = account && t.id = transfer
  else none

theorem TransferRequestRepository.getById_eq_some {db : Database} {account transfer : Uuid}
    {t : TransferRequestRecord} (h : getById db account transfer = some t) :
    t ∈ db.transfers ∧ t.userId = account ∧ t.id = transfer := by
  unfold getById at h
  split_ifs at h
  have hfound := List.find?_some h
  simp only [Bool.and_eq_true, decide_eq_true_eq] at hfound
  exact ⟨List.mem_of_find?_eq_some h, hfound⟩

/-- `SIGNALING_ACTIVE_STATUSES` -/
def signalingActiveStatuses : List TransferStatus :=
  [.offered, .accepted, .negotiating, .connected, .transferring]

/-- `_active_transfer` -/
def activeTransfer (t : TransferRequestRecord) (now : Timestamp) : Bool :=
  signalingActiveStatuses.contains t.status && now < t.expiresAt

namespace SignalingType

/-- The type of an offer, which only the sender device may send. -/
def isOffer : SignalingType → Bool
  | sdpOffer | handshakeOffer => true
  | sdpAnswer | handshakeAnswer | iceCandidate => false

/-- The type of an answer, which only the recipient device may send. -/
def isAnswer : SignalingType → Bool
  | sdpAnswer | handshakeAnswer => true
  | sdpOffer | handshakeOffer | iceCandidate => false

end SignalingType

/-- The statuses in which a transfer is negotiated. -/
def signalingOpen : TransferStatus → Bool
  | .offered | .accepted | .negotiating => true
  | _ => false

/-- What a call does when it has read the transfer. -/
inductive ReadDecision where
  | reject
  /-- Clear the signaling state of a transfer that is over, and reject. -/
  | clear (transfer : Uuid)
  /-- Call `mark_negotiating` first. -/
  | negotiate (transfer : TransferRequestRecord)
  | charge (transfer : TransferRequestRecord)
  deriving DecidableEq, Repr

/-- The checks on the transfer, with the two times that they read. -/
def decideRead (c : ActiveConnection) (message : PyDict) (parsed : ParsedSignaling)
    (transfer : Option TransferRequestRecord) (checkedAt expiryAt : Timestamp) : ReadDecision :=
  match transfer with
  | none => .reject
  | some t =>
    if !activeTransfer t checkedAt then .clear t.id
    else if !(messageExpiry (message.get "expires_at") expiryAt).any (· ≤ t.expiresAt) then .reject
    else if !(message.get "v").eqInt t.protocolVersion || t.senderDeviceId ≠ parsed.sender ||
        t.recipientDeviceId ≠ parsed.recipient ||
        (c.deviceId ≠ parsed.sender && c.deviceId ≠ parsed.recipient) then .reject
    else if !signalingOpen t.status then .reject
    else if parsed.type.isOffer then
      if c.deviceId ≠ parsed.sender then .reject
      else if t.status = .accepted then .negotiate t else .charge t
    else if parsed.type.isAnswer then
      if c.deviceId ≠ parsed.recipient then .reject else .charge t
    else .charge t

/-- The other participant. -/
def ParsedSignaling.target (parsed : ParsedSignaling) (device : Uuid) : Uuid :=
  if device = parsed.sender then parsed.recipient else parsed.sender

/-! ## The queue of the target -/

/-- `MAX_WEBSOCKET_QUEUE_BYTES` and `_payload_bytes`: a payload that cannot be
encoded is too large. -/
def payloadBytes (depth : ℕ) (payload : PyDict) : Except PyError ℕ :=
  match dumps true depth (.dict payload) with
  | .ok text => .ok text.length
  | .error .recursionError => .error .recursionError
  | .error _ => .ok (maxWebsocketQueueBytes + 1)

/-- `_enqueue_outbound` queues the payload. -/
def PresenceMaps.accepts (s : PresenceMaps) (c : ActiveConnection) (size : ℕ) : Bool :=
  (s.outbound.get c.id).any fun queue =>
    s.isCurrent c && !queue.failed && queue.payloads.length < maxWebsocketQueueMessages &&
      queue.queuedBytes + size ≤ maxWebsocketQueueBytes

/-! ## A call -/

/-- How deep the encoder of the interpreter may go at its two call sites. -/
structure EncoderDepths where
  handshake : ℕ
  payload : ℕ

/-- What a call reads at its awaits. -/
structure ForwardReads where
  /-- The clock, at the parse, at `_active_transfer` and at the second `_message_expiry`. -/
  parsedAt : Timestamp
  checkedAt : Timestamp
  expiryAt : Timestamp
  /-- The tables when `get_by_id` takes effect. -/
  db : Database
  /-- `mark_negotiating` returns a row. -/
  negotiated : Bool
  /-- `_record_signaling_use` charges the message. -/
  charged : Bool
  /-- The connections when the target is looked up, and when the message is queued. -/
  maps : PresenceMaps
  queueMaps : PresenceMaps

/-- `send_to_device`: the socket whose queue gets the message. -/
def sendToDevice (depths : EncoderDepths) (reads : ForwardReads) (account device : Uuid)
    (payload : PyDict) : Except PyError (Option ActiveConnection) :=
  match reads.maps.current account device with
  | none => .ok none
  | some target => do
    let size ← payloadBytes depths.payload payload
    return if reads.queueMaps.accepts target size then some target else none

/-- `forward_signaling`: the socket whose queue gets the message, if it does not reject it. -/
def forwardSignaling (depths : EncoderDepths) (reads : ForwardReads) (c : ActiveConnection)
    (message : PyDict) : Except PyError (Option ActiveConnection) := do
  match ← parseSignalingMessage depths.handshake message reads.parsedAt with
  | none => return none
  | some parsed =>
    let transfer := TransferRequestRepository.getById reads.db c.accountId parsed.transfer
    match decideRead c message parsed transfer reads.checkedAt reads.expiryAt with
    | .reject | .clear _ => return none
    | .negotiate _ =>
      if reads.negotiated && reads.charged then
        sendToDevice depths reads c.accountId (parsed.target c.deviceId) message
      else return none
    | .charge _ =>
      if reads.charged then
        sendToDevice depths reads c.accountId (parsed.target c.deviceId) message
      else return none

/-! ## An example

An offer of device 2 to device 3, in a transfer of account 1. -/

def exampleTransfer : TransferRequestRecord where
  id := ⟨9⟩
  userId := ⟨1⟩
  senderDeviceId := ⟨2⟩
  recipientDeviceId := ⟨3⟩
  protocolVersion := 1
  status := .offered
  createdAt := 0
  expiresAt := 600000000
  acceptedAt := none
  completedAt := none
  failureCode := none
  relayUsed := false

def exampleDevice (id : Uuid) : DeviceRecord where
  id := id
  userId := ⟨1⟩
  epoch := 1
  label := "device"
  signingPublicKeySpki := []
  fingerprint := []
  status := .active
  createdAt := 0
  lastSeenAt := 0
  revokedAt := none
  linkedByDeviceId := none

def exampleDatabase : Database where
  users := [⟨⟨1⟩, 1, none⟩]
  devices := [exampleDevice ⟨2⟩, exampleDevice ⟨3⟩]
  sessions := []
  transfers := [exampleTransfer]

def exampleOffer : PyDict :=
  [(py "type", .str (py "sdp_offer")), (py "v", .int 1),
    (py "transfer_id", .str (uuidText ⟨9⟩)), (py "sender_device_id", .str (uuidText ⟨2⟩)),
    (py "recipient_device_id", .str (uuidText ⟨3⟩)), (py "expires_at", .int 300000),
    (py "sdp", .str (py "v=0"))]

end SelfRelay.Backend
