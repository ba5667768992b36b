import SelfRelay.Backend.ForwardSignaling
import SelfRelay.Backend.TransferService

/-!
# TURN credentials

`TransferService.get` and `TurnCredentialService.issue`, each with what its awaits return.
-/

namespace SelfRelay.Backend

/-! ## `TransferService.get` -/

namespace TransferService

/-- What `_current_or_expire` reads. -/
structure CurrentReads where
  /-- The tables when `get_by_id` takes effect, and the clock of the service after it. -/
  db : Database
  now : Timestamp
  /-- The tables and their clock when `expire` takes effect. -/
  expireDb : Database
  databaseNow : Timestamp
  /-- The tables when `get_by_id` is repeated. -/
  againDb : Database

/-- `_current_or_expire` -/
def currentOrExpire (reads : CurrentReads) (account transfer : Uuid) : TransferResult :=
  match TransferRequestRepository.getById reads.db account transfer with
  | none => .ok none
  | some record =>
    if !activeStatuses.contains record.status || reads.now < record.expiresAt then .ok (some record)
    else
      match (TransferRequestRepository.expire reads.expireDb reads.databaseNow account
          transfer).2 with
      | .error e => .error e
      | .ok (some expired) => .ok (some expired)
      | .ok none => .ok (TransferRequestRepository.getById reads.againDb account transfer)

end TransferService

/-- `DeviceRepository.get_by_id` -/
def DeviceRepository.getById (db : Database) (account device : Uuid) : Option DeviceRecord :=
  db.devices.find? fun d => d.userId = account && d.id = device

/-! ## `TurnCredentialService.issue` -/

/-- `TURN_CREDENTIAL_TTL_SECONDS` -/
def turnCredentialTtlSeconds : ℕ := 5 * 60

inductive TurnError where
  /-- `TurnAuthorizationError` -/
  | unauthorized
  /-- `TurnCredentialRateLimitedError` -/
  | rateLimited
  | repository (error : RepositoryError)
  deriving DecidableEq, Repr

structure TurnCredentialRequest where
  accountId : Uuid
  deviceId : Uuid
  transferId : Uuid
  ttlSeconds : ℕ
  deriving DecidableEq, Repr

namespace TurnCredentialService

/-- What a call reads. -/
structure IssueReads where
  /-- The clock of the service at the start of the call. -/
  current : Timestamp
  transfer : TransferService.CurrentReads
  /-- The tables when the two devices are read. -/
  actorDb : Database
  peerDb : Database
  /-- `allow_many` returns. -/
  allowed : Bool

/-- `_transfer_is_eligible`, with `TURN_CREDENTIAL_ELIGIBLE_STATUSES`. -/
def transferIsEligible (t : TransferRequestRecord) (current : Timestamp) (device : Uuid) : Bool :=
  t.activeAt current && t.involves device

/-- `_device_is_eligible` -/
def deviceIsEligible (device : Option DeviceRecord) (session : SessionRecord) : Bool :=
  device.any fun d => d.userId = session.userId && d.id = session.deviceId && d.status = .active &&
    d.epoch = session.epoch

/-- `_peer_is_eligible` -/
def peerIsEligible (peer actor : Option DeviceRecord) : Bool :=
  peer.any fun p => actor.any fun a =>
    p.userId = a.userId && p.status = .active && p.epoch = a.epoch

/-- The other participant. -/
def peerDevice (t : TransferRequestRecord) (device : Uuid) : Uuid :=
  if t.senderDeviceId = device then t.recipientDeviceId else t.senderDeviceId

/-- `issue`, up to the call of the provider: the request that the provider gets. -/
def issue (reads : IssueReads) (session : SessionRecord) (transferId : Uuid) :
    Except TurnError TurnCredentialRequest :=
  match TransferService.currentOrExpire reads.transfer session.userId transferId with
  | .error e => .error (.repository e)
  | .ok none => .error .unauthorized
  | .ok (some t) =>
    if !transferIsEligible t reads.current session.deviceId then .error .unauthorized
    else
      let actor := DeviceRepository.getById reads.actorDb session.userId session.deviceId
      let peer := DeviceRepository.getById reads.peerDb session.userId
        (peerDevice t session.deviceId)
      if !deviceIsEligible actor session || !peerIsEligible peer actor then .error .unauthorized
      else if !reads.allowed then .error .rateLimited
      else .ok {
        accountId := session.userId
        deviceId := session.deviceId
        transferId := t.id
        ttlSeconds := turnCredentialTtlSeconds }

end TurnCredentialService

end SelfRelay.Backend
