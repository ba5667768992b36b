import SelfRelay.Backend.Cleanup
import SelfRelay.Backend.Turn
import SelfRelay.Lib.AsyncProgram

/-!
# The methods of `TransferService`

The methods that read a transfer, as programs over the statements and the clock that they await.
They run at one service, interleaved with each other, with `cleanup_expired`, with the deletion of
accounts and with all other writers.  A record that is shown comes with the reading of the clock
that its deadline was compared with.
-/

namespace SelfRelay.Backend

/-- Why a method raised. -/
inductive TransferFault where
  /-- `TransferError` -/
  | transfer (message : String)
  | repository (error : RepositoryError)
  deriving DecidableEq, Repr

/-! ## What the methods await -/

/-- A status change of the repository that the service calls. -/
inductive StatusChange where
  | accept (recipient : Uuid)
  | reject (recipient : Uuid)
  | cancel (actor : Uuid)
  | expire
  deriving DecidableEq, Repr

def StatusChange.operation (account transfer : Uuid) : StatusChange → TransferOperation
  | accept recipient => .accept account transfer recipient
  | reject recipient => .reject account transfer recipient
  | cancel actor => .cancel account transfer actor
  | expire => .expire account transfer

inductive TransferStatement where
  /-- A reading of the clock: `_utc_now(self._clock())`, or the start of a transaction, which is its
  `CURRENT_TIMESTAMP`. -/
  | clock
  | getById (account transfer : Uuid)
  | listForAccount (account : Uuid)
  | change (now : Timestamp) (account transfer : Uuid) (change : StatusChange)
  | getDevice (account device : Uuid)
  /-- A call of the presence manager. -/
  | presence
  deriving DecidableEq, Repr

abbrev TransferStatement.Answer : TransferStatement → Type
  | clock => Timestamp
  | getById .. => Option TransferRequestRecord
  | listForAccount _ => List TransferRequestRecord
  | change .. => TransferResult
  | getDevice .. => Option DeviceRecord
  | presence => Unit

structure TransferState where
  clock : Timestamp
  db : Database
  /-- The ids that transfers have had. -/
  issued : List Uuid

/-- A statement takes effect. -/
def TransferState.perform : (statement : TransferStatement) → TransferState →
    statement.Answer × TransferState
  | .clock, s => (s.clock, s)
  | .getById account transfer, s => (TransferRequestRepository.getById s.db account transfer, s)
  | .listForAccount account, s => (TransferRequestRepository.listForAccount s.db account, s)
  | .change now account transfer change, s =>
    let (db, result) :=
      TransferRequestRepository.perform s.db now (change.operation account transfer)
    (result, { s with db })
  | .getDevice account device, s => (DeviceRepository.getById s.db account device, s)
  | .presence, s => ((), s)

abbrev TransferProgram := AsyncProgram TransferStatement TransferStatement.Answer TransferFault

/-- A record with the reading of the clock that its deadline was compared with. -/
structure ExaminedRecord where
  record : TransferRequestRecord
  examinedAt : Option Timestamp
  deriving DecidableEq, Repr

/-! ## The methods -/

/-- `TRANSFER_PEER_KEY_STATUSES` -/
def transferPeerKeyStatuses : List TransferStatus := [.offered, .accepted, .negotiating]

namespace TransferProgram

def await (statement : TransferStatement) : TransferProgram statement.Answer := .call statement

/-- `try … except TransferError`. -/
def exceptTransferError {α : Type} (attempt fallback : TransferProgram α) : TransferProgram α :=
  attempt.handle fun
    | .transfer _ => some fallback
    | .repository _ => none

def clock : TransferProgram Timestamp := await .clock

def getById (account transfer : Uuid) : TransferProgram (Option TransferRequestRecord) :=
  await (.getById account transfer)

/-- A status change in a transaction of its own, with the time of the transaction. -/
def change (account transfer : Uuid) (change : StatusChange) :
    TransferProgram (Timestamp × Option TransferRequestRecord) := do
  let now ← clock
  let result : TransferResult ← await (.change now account transfer change)
  match result with
  | .error error => .raise (.repository error)
  | .ok record => return (now, record)

/-- `_release` -/
def release : TransferProgram Unit := await .presence

/-- `_notify` -/
def notify : TransferProgram Unit := await .presence

/-- `_notify_participants` -/
def notifyParticipants (record : TransferRequestRecord) : TransferProgram Unit := do
  notify
  if record.recipientDeviceId ≠ record.senderDeviceId then notify

/-- `expire` -/
def expire (account transfer : Uuid) : TransferProgram TransferRequestRecord := do
  let (_, expired) ← change account transfer .expire
  match expired with
  | none => .raise (.transfer "transfer is not stale or is unavailable")
  | some expired =>
    release
    notifyParticipants expired
    return expired

/-- `_current_or_expire` -/
def currentOrExpire (account transfer : Uuid) : TransferProgram (Option ExaminedRecord) := do
  let record ← getById account transfer
  match record with
  | none => return none
  | some record =>
    if !activeStatuses.contains record.status then return some ⟨record, none⟩
    else
      let now ← clock
      if now < record.expiresAt then return some ⟨record, some now⟩
      else
        exceptTransferError
          (do
            let expired ← expire account transfer
            return some ⟨expired, some now⟩)
          (do
            let record ← getById account transfer
            return record.map fun record => ⟨record, some now⟩)

/-- `get` -/
def get (account transfer : Uuid) : TransferProgram ExaminedRecord := do
  let record ← currentOrExpire account transfer
  match record with
  | none => .raise (.transfer "transfer is unavailable")
  | some record => return record

/-- One round of the loop of `list`. -/
def listed (account : Uuid) (record : TransferRequestRecord) : TransferProgram ExaminedRecord :=
  if !activeStatuses.contains record.status then return ⟨record, none⟩
  else do
    let now ← clock
    if now < record.expiresAt then return ⟨record, some now⟩
    else
      exceptTransferError
        (do
          let expired ← expire account record.id
          return ⟨expired, some now⟩)
        (do
          let refreshed ← getById account record.id
          match refreshed with
          | some refreshed => return ⟨refreshed, some now⟩
          | none => return ⟨record, some now⟩)

/-- The loop of `list`. -/
def listAll (account : Uuid) : List TransferRequestRecord → TransferProgram (List ExaminedRecord)
  | [] => return []
  | record :: records => do
    let first ← listed account record
    let rest ← listAll account records
    return first :: rest

/-- `list` -/
def list (account : Uuid) : TransferProgram (List ExaminedRecord) := do
  let records : List TransferRequestRecord ← await (.listForAccount account)
  listAll account records

/-- `accept`, `reject` and `cancel`: the transfer as it was examined, and as the statement left it,
with the time of the statement. -/
def changeCurrent (account transfer : Uuid) (statuses : List TransferStatus) (message : String)
    (statusChange : StatusChange) (announce : TransferRequestRecord → TransferProgram Unit) :
    TransferProgram (ExaminedRecord × ExaminedRecord) := do
  let current ← currentOrExpire account transfer
  match current with
  | none => .raise (.transfer message)
  | some current =>
    if !statuses.contains current.record.status then .raise (.transfer message)
    else
      let (now, changed) ← change account transfer statusChange
      match changed with
      | none => .raise (.transfer message)
      | some changed =>
        announce changed
        return (current, ⟨changed, some now⟩)

/-- `accept` -/
def accept (account transfer recipient : Uuid) :
    TransferProgram (ExaminedRecord × ExaminedRecord) :=
  changeCurrent account transfer [.offered] "offer is unavailable" (.accept recipient)
    fun _ => notify

/-- `reject` -/
def reject (account transfer recipient : Uuid) :
    TransferProgram (ExaminedRecord × ExaminedRecord) :=
  changeCurrent account transfer [.offered] "offer is unavailable" (.reject recipient) fun _ => do
    release
    notify

/-- `cancel` -/
def cancel (account transfer actor : Uuid) : TransferProgram (ExaminedRecord × ExaminedRecord) :=
  changeCurrent account transfer activeStatuses "transfer is unavailable" (.cancel actor)
      fun changed => do
    release
    notifyParticipants changed

/-- The two devices may see each other's keys. -/
def peersEligible (account : Uuid) (epoch : Option ℤ) (actor peer : DeviceRecord) : Bool :=
  actor.userId = account && peer.userId = account && actor.status = .active &&
    peer.status = .active &&
    actor.epoch = peer.epoch && epoch.all fun epoch => actor.epoch = epoch && peer.epoch = epoch

/-- `get_peer_device_key` of a service with a device repository; without one it raises where it
would read the first device. -/
def getPeerDeviceKey (account transfer actorDevice : Uuid) (epoch : Option ℤ) :
    TransferProgram (ExaminedRecord × DeviceRecord) := do
  let current ← currentOrExpire account transfer
  match current with
  | none => .raise (.transfer "transfer is unavailable")
  | some current =>
    if !transferPeerKeyStatuses.contains current.record.status then
      .raise (.transfer "transfer is unavailable")
    else if !current.record.involves actorDevice then .raise (.transfer "transfer is unavailable")
    else
      let actor : Option DeviceRecord ← await (.getDevice account actorDevice)
      let peerDevice :=
        if actorDevice = current.record.senderDeviceId then current.record.recipientDeviceId
        else current.record.senderDeviceId
      let peer : Option DeviceRecord ← await (.getDevice account peerDevice)
      match actor, peer with
      | some actor, some peer =>
        if peersEligible account epoch actor peer then return (current, peer)
        else .raise (.transfer "transfer devices are unavailable")
      | _, _ => .raise (.transfer "transfer devices are unavailable")

end TransferProgram

/-! ## The calls of a service -/

inductive TransferMethod where
  | get (account transfer : Uuid)
  | list (account : Uuid)
  | accept (account transfer recipient : Uuid)
  | reject (account transfer recipient : Uuid)
  | cancel (account transfer actor : Uuid)
  | expire (account transfer : Uuid)
  | getPeerDeviceKey (account transfer actor : Uuid) (epoch : Option ℤ)
  deriving DecidableEq, Repr

/-- What a method returns. -/
inductive TransferReply where
  | shown (record : ExaminedRecord)
  | listed (records : List ExaminedRecord)
  | changed (current changed : ExaminedRecord)
  | expired (record : TransferRequestRecord)
  | peer (current : ExaminedRecord) (device : DeviceRecord)
  deriving DecidableEq, Repr

def TransferMethod.program : TransferMethod → TransferProgram TransferReply
  | get account transfer => return .shown (← TransferProgram.get account transfer)
  | list account => return .listed (← TransferProgram.list account)
  | accept account transfer recipient => do
    let (current, changed) ← TransferProgram.accept account transfer recipient
    return .changed current changed
  | reject account transfer recipient => do
    let (current, changed) ← TransferProgram.reject account transfer recipient
    return .changed current changed
  | cancel account transfer actor => do
    let (current, changed) ← TransferProgram.cancel account transfer actor
    return .changed current changed
  | expire account transfer => return .expired (← TransferProgram.expire account transfer)
  | getPeerDeviceKey account transfer actor epoch => do
    let (current, device) ← TransferProgram.getPeerDeviceKey account transfer actor epoch
    return .peer current device

/-- What happens beside the calls. -/
inductive TransferWorld where
  | tick (time : Timestamp)
  /-- Any other write of transfers.  A new transfer has an id that was never used. -/
  | operate (now : Timestamp) (op : TransferOperation)
  /-- `cleanup_expired` deletes a batch of transfers. -/
  | cleanup (now : Timestamp) (limit : ℕ) (picks : List Uuid)
  /-- A write of the other tables.  A deleted account does not come back. -/
  | other (users : List AppUser) (devices : List DeviceRecord) (sessions : List SessionRecord)
  /-- An account or a device is deleted with its transfers: the foreign keys
  are `on delete cascade`. -/
  | cascade (deleted : List Uuid)

namespace TransferState

variable (s : TransferState)

def environment : TransferWorld → Option TransferState
  | .tick time => if s.clock ≤ time then some { s with clock := time } else none
  | .operate now op =>
    let db := (TransferRequestRepository.perform s.db now op).1
    if db.transfers.all fun t => (s.db.transfers.any fun t' => t'.id = t.id) || t.id ∉ s.issued then
      some { s with db, issued := s.issued ++ db.transfers.map (·.id) }
    else none
  | .cleanup now limit picks =>
    (Table.deleteBatch TransferRequestRecord.id (ExpiryCleanupRepository.oldTransfer now)
      ExpiryCleanupRepository.transferAge limit picks s.db.transfers).map fun (transfers, _) =>
        { s with db := { s.db with transfers } }
  | .other users devices sessions =>
    let db : Database := { users, devices, sessions, transfers := s.db.transfers }
    if s.db.transfers.all fun t => !db.accountExists t.userId || s.db.accountExists t.userId then
      some { s with db }
    else none
  | .cascade deleted =>
    some { s with db := { s.db with transfers := s.db.transfers.filter fun t => t.id ∉ deleted } }

end TransferState

end SelfRelay.Backend
