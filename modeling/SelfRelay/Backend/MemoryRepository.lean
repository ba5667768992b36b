import SelfRelay.Backend.TransferRepository

/-!
# `InMemoryTransferRequestRepository`

The store that stands for the SQL repository in the tests.  `now` is what its clock returns during a
call, and `wall` is `datetime.now`, which `_updated_record` reads instead.
-/

namespace SelfRelay.Backend

open TransferStatus

/-- Why an in-memory call raised. -/
inductive MemoryError where
  /-- sender and recipient must differ -/
  | sameDevice
  /-- transfer devices are unavailable -/
  | devicesUnavailable
  deriving DecidableEq, Repr

abbrev MemoryResult := Except MemoryError (Option TransferRequestRecord)

/-- `InMemoryDeviceRepository.get_by_id` -/
def getDevice (devices : List DeviceRecord) (account device : Uuid) : Option DeviceRecord :=
  (Table.get DeviceRecord.id device devices).filter fun d => d.userId = account

structure InMemoryTransferRequestRepository where
  records : List TransferRequestRecord
  /-- The records of the device repository, if the store has one. -/
  deviceRepository : Option (List DeviceRecord)

namespace InMemoryTransferRequestRepository

variable (store : InMemoryTransferRequestRepository) (now wall : Timestamp)

/-- `_updated_record` -/
def updatedRecord (status : TransferStatus) (failureCode : Option String)
    (record : TransferRequestRecord) : TransferRequestRecord :=
  { record with
    status
    acceptedAt :=
      if record.acceptedAt.isSome then record.acceptedAt
      else if status = .accepted ∨ status = .cancelled then some wall
      else none
    completedAt := if status = .completed then some wall else record.completedAt
    failureCode }

/-- Replace the record of a transfer, if there is one and it is as `keeps` asks. -/
def modify (transfer : Uuid) (keeps : TransferRequestRecord → Bool)
    (update : TransferRequestRecord → TransferRequestRecord) :
    InMemoryTransferRequestRepository × Option TransferRequestRecord :=
  let result := Table.modify TransferRequestRecord.id transfer keeps update store.records
  ({ store with records := result.1 }, result.2)

/-- `create` -/
def create (account sender recipient : Uuid) (protocolVersion : ℤ) (expiresAt : Timestamp)
    (id : Uuid) : InMemoryTransferRequestRepository × MemoryResult :=
  if sender = recipient then (store, .error .sameDevice)
  else if store.deviceRepository.any unavailable then (store, .error .devicesUnavailable)
  else
    let record : TransferRequestRecord := {
      id
      userId := account
      senderDeviceId := sender
      recipientDeviceId := recipient
      protocolVersion
      status := .offered
      createdAt := now
      expiresAt
      acceptedAt := none
      completedAt := none
      failureCode := none
      relayUsed := false }
    ({ store with records := Table.put TransferRequestRecord.id record store.records },
      .ok (some record))
where
  unavailable (devices : List DeviceRecord) : Bool :=
    match getDevice devices account sender, getDevice devices account recipient with
    | some sender, some recipient =>
      sender.status ≠ .active || recipient.status ≠ .active || sender.epoch ≠ recipient.epoch
    | _, _ => true

/-- `transition` of statuses that the table knows. -/
def transitionStatus (account transfer : Uuid) (fromStatus toStatus : TransferStatus) :
    InMemoryTransferRequestRepository × Option TransferRequestRecord :=
  if toStatus ∈ fromStatus.validTransitions then
    store.modify transfer
      (fun record => record.userId = account && record.status = fromStatus &&
        if toStatus = .expired then decide (record.expiresAt ≤ now)
        else decide (now < record.expiresAt))
      (updatedRecord wall toStatus none)
  else (store, none)

/-- `transition` -/
def transition (account transfer : Uuid) (fromStatus toStatus : String) :
    InMemoryTransferRequestRepository × Option TransferRequestRecord :=
  match ofText? fromStatus, ofText? toStatus with
  | some fromStatus, some toStatus =>
    store.transitionStatus now wall account transfer fromStatus toStatus
  | _, _ => (store, none)

/-- `_actor_transition` -/
def actorTransition (account transfer : Uuid) (fromStatuses : List TransferStatus)
    (toStatus : TransferStatus) (actor : Uuid) (recipientOnly : Bool)
    (failureCode : Option String := none) :
    InMemoryTransferRequestRepository × Option TransferRequestRecord :=
  if store.deviceRepository.all fun devices =>
      (getDevice devices account actor).any (·.status = .active) then
    store.modify transfer
      (fun record => record.userId = account && fromStatuses.contains record.status &&
        now < record.expiresAt &&
        if recipientOnly then decide (record.recipientDeviceId = actor)
        else actor = record.senderDeviceId || actor = record.recipientDeviceId)
      (updatedRecord wall toStatus failureCode)
  else (store, none)

/-- `accept` -/
def accept (account transfer recipient : Uuid) :
    InMemoryTransferRequestRepository × Option TransferRequestRecord :=
  store.actorTransition now wall account transfer [.offered] .accepted recipient true

/-- `reject` -/
def reject (account transfer recipient : Uuid) :
    InMemoryTransferRequestRepository × Option TransferRequestRecord :=
  store.actorTransition now wall account transfer [.offered] .rejected recipient true

/-- `cancel` -/
def cancel (account transfer actor : Uuid) :
    InMemoryTransferRequestRepository × Option TransferRequestRecord :=
  store.actorTransition now wall account transfer activeStatuses .cancelled actor false

/-- `_expire_active` -/
def expireActive (account transfer : Uuid) :
    InMemoryTransferRequestRepository × Option TransferRequestRecord :=
  store.modify transfer
    (fun record => record.userId = account && activeStatuses.contains record.status &&
      record.expiresAt ≤ now)
    (updatedRecord wall .expired none)

/-- `expire` -/
def expire (account transfer : Uuid) :
    InMemoryTransferRequestRepository × Option TransferRequestRecord :=
  match store.transitionStatus now wall account transfer .offered .expired with
  | (store', some record) => (store', some record)
  | (store', none) => store'.expireActive now wall account transfer

/-- The loop of `fail` without an actor, over the statuses that it still has to try. -/
def failFrom (account transfer : Uuid) (failureCode : String) :
    List TransferStatus → InMemoryTransferRequestRepository →
      InMemoryTransferRequestRepository × Option TransferRequestRecord
  | [], store => (store, none)
  | status :: statuses, store =>
    match store.transitionStatus now wall account transfer status .failed with
    | (store', some result) =>
      let updated := { result with failureCode := some failureCode }
      ({ store' with records := Table.put TransferRequestRecord.id updated store'.records },
        some updated)
    | (store', none) => failFrom account transfer failureCode statuses store'

/-- `fail` -/
def fail (account transfer : Uuid) (failureCode : String) :
    Option Uuid → InMemoryTransferRequestRepository × Option TransferRequestRecord
  | none => failFrom now wall account transfer failureCode failableStatuses store
  | some actor =>
    store.actorTransition now wall account transfer failableStatuses .failed actor false
      (some failureCode)

/-- `mark_relay_used` -/
def markRelayUsed (account transfer : Uuid) :
    InMemoryTransferRequestRepository × Option TransferRequestRecord :=
  store.modify transfer
    (fun record => record.userId = account && activeStatuses.contains record.status &&
      now < record.expiresAt)
    (fun record => { record with relayUsed := true })

/-- A call, with what it returns. -/
def perform : TransferOperation → InMemoryTransferRequestRepository × MemoryResult
  | .create account sender recipient protocolVersion expiresAt id =>
    store.create now account sender recipient protocolVersion expiresAt id
  | .transition account transfer fromStatus toStatus =>
    returning (store.transition now wall account transfer fromStatus toStatus)
  | .accept account transfer recipient =>
    returning (store.accept now wall account transfer recipient)
  | .reject account transfer recipient =>
    returning (store.reject now wall account transfer recipient)
  | .cancel account transfer actor => returning (store.cancel now wall account transfer actor)
  | .markNegotiating account transfer =>
    returning (store.transitionStatus now wall account transfer .accepted .negotiating)
  | .markConnected account transfer =>
    returning (store.transitionStatus now wall account transfer .negotiating .connected)
  | .markTransferring account transfer =>
    returning (store.transitionStatus now wall account transfer .connected .transferring)
  | .complete account transfer =>
    returning (store.transitionStatus now wall account transfer .transferring .completed)
  | .fail account transfer failureCode actor =>
    returning (store.fail now wall account transfer failureCode actor)
  | .expire account transfer => returning (store.expire now wall account transfer)
  | .markRelayUsed account transfer => returning (store.markRelayUsed now account transfer)
where
  returning (result : InMemoryTransferRequestRepository × Option TransferRequestRecord) :
      InMemoryTransferRequestRepository × MemoryResult :=
    (result.1, .ok result.2)

end InMemoryTransferRequestRepository

end SelfRelay.Backend
