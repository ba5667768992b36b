import Mathlib.Data.List.Sort
import SelfRelay.Backend.TransferRepository

/-!
# `TransferService.create_offer`

The calls of `create_offer` that run at one service, interleaved at their awaits with each other,
with the other writers of the transfer table, with changes of the other tables and with the clock.
A call validates its devices, reads the clock, waits for `_capacity_lock`, and then lists the
transfers of its account, checks the capacity and inserts its offer before it releases the lock.
Every statement takes effect at some moment between the issue of an await and its return.
-/

namespace SelfRelay.Backend

/-- `TRANSFER_PROTOCOL_VERSION` -/
def transferProtocolVersion : ℤ := 1

/-- `MAX_ACTIVE_TRANSFERS_PER_ACCOUNT` -/
def maxActiveTransfersPerAccount : ℕ := 8

/-- `MAX_ACTIVE_TRANSFERS_PER_DEVICE` -/
def maxActiveTransfersPerDevice : ℕ := 4

namespace TransferRequestRecord

/-- The transfer is in one of `TRANSFER_ACTIVE_STATUSES` and expires after `now`. -/
def activeAt (now : Timestamp) (t : TransferRequestRecord) : Bool :=
  activeStatuses.contains t.status && now < t.expiresAt

/-- The device is one of the two participants. -/
def involves (device : Uuid) (t : TransferRequestRecord) : Bool :=
  device = t.senderDeviceId || device = t.recipientDeviceId

end TransferRequestRecord

/-- `list_for_account` -/
def TransferRequestRepository.listForAccount (db : Database) (account : Uuid) :
    List TransferRequestRecord :=
  if db.accountExists account then
    (db.transfers.filter fun t => t.userId = account).insertionSort fun t t' =>
      t'.createdAt ≤ t.createdAt
  else []

/-- `_ensure_capacity`, on the records that the repository returned: the offer fits. -/
def ensureCapacity (records : List TransferRequestRecord) (sender recipient : Uuid)
    (now : Timestamp) : Bool :=
  let active := records.filter (·.activeAt now)
  let senderCount := active.countP (·.involves sender)
  let recipientCount := active.countP (·.involves recipient)
  !(maxActiveTransfersPerAccount ≤ active.length || maxActiveTransfersPerDevice ≤ senderCount ||
    maxActiveTransfersPerDevice ≤ recipientCount)

/-! ## Calls -/

structure OfferRequest where
  account : Uuid
  sender : Uuid
  recipient : Uuid
  protocolVersion : ℤ

/-- Where a call of `create_offer` waits. -/
inductive OfferPhase where
  /-- In `_validate_devices`. -/
  | validating
  /-- For `_capacity_lock`, with the time that it read before. -/
  | queued (now : Timestamp)
  /-- For `list_for_account`, before the statement took effect. -/
  | listing (now : Timestamp)
  /-- For `list_for_account`, with what it will return. -/
  | listed (now : Timestamp) (records : List TransferRequestRecord)
  /-- For `create`, before the statement took effect. -/
  | creating (now : Timestamp)
  /-- For `create`, after the statement took effect or raised. -/
  | leaving

/-- The call is inside `async with self._capacity_lock`. -/
def OfferPhase.holdsLock : OfferPhase → Bool
  | validating | queued _ => false
  | listing _ | listed _ _ | creating _ | leaving => true

structure OfferCall where
  request : OfferRequest
  phase : OfferPhase

structure ServiceState where
  clock : Timestamp
  db : Database
  /-- The call that holds `_capacity_lock`. -/
  lock : Option ℕ
  /-- The calls of `create_offer` that have not returned. -/
  calls : ℕ → Option OfferCall

namespace ServiceState

variable (s : ServiceState)

/-- A call goes on to another await. -/
def goOn (id : ℕ) (call : OfferCall) (phase : OfferPhase) : ServiceState :=
  { s with calls := Function.update s.calls id (some { call with phase }) }

/-- A call returns or raises, and leaves the lock if it holds it. -/
def finish (id : ℕ) (call : OfferCall) : ServiceState :=
  { s with
    lock := if call.phase.holdsLock then none else s.lock
    calls := Function.update s.calls id none }

end ServiceState

inductive ServiceEvent where
  /-- The clock of the service goes on. -/
  | tick (time : Timestamp)
  | begin (id : ℕ) (request : OfferRequest)
  | validated (id : ℕ)
  | acquire (id : ℕ)
  /-- `list_for_account` takes effect. -/
  | select (id : ℕ)
  /-- `list_for_account` returns, and the capacity is checked. -/
  | check (id : ℕ)
  /-- `create` takes effect, with the database's clock and a generated id. -/
  | insert (id : ℕ) (databaseNow : Timestamp) (generated : Uuid)
  /-- `create` returns or raises. -/
  | leave (id : ℕ)
  /-- The call raises at its await. -/
  | abort (id : ℕ)
  /-- Any other write of a transfer. -/
  | operate (databaseNow : Timestamp) (op : TransferOperation)
  /-- A write of the other tables.  A deleted account does not come back. -/
  | other (users : List AppUser) (devices : List DeviceRecord) (sessions : List SessionRecord)

/-- The operations that the service and the signaling path use beside `create_offer`, and all
others that do not create. -/
def TransferOperation.creates : TransferOperation → Bool
  | create .. => true
  | _ => false

/-- One segment between two awaits, or one effect of a statement. -/
def ServiceState.step (lifetime : Timestamp) (s : ServiceState) : ServiceEvent → Option ServiceState
  | .tick time => if s.clock ≤ time then some { s with clock := time } else none
  | .begin id request =>
    if (s.calls id).isSome then none
    else if request.protocolVersion ≠ transferProtocolVersion then some s
    else if request.sender = request.recipient then some s
    else some { s with calls := Function.update s.calls id (some ⟨request, .validating⟩) }
  | .validated id =>
    match s.calls id with
    | some ⟨request, .validating⟩ => some (s.goOn id ⟨request, .validating⟩ (.queued s.clock))
    | _ => none
  | .acquire id =>
    match s.lock, s.calls id with
    | none, some ⟨request, .queued now⟩ =>
      some { s.goOn id ⟨request, .queued now⟩ (.listing now) with lock := some id }
    | _, _ => none
  | .select id =>
    match s.calls id with
    | some ⟨request, .listing now⟩ =>
      some (s.goOn id ⟨request, .listing now⟩
        (.listed now (TransferRequestRepository.listForAccount s.db request.account)))
    | _ => none
  | .check id =>
    match s.calls id with
    | some ⟨request, .listed now records⟩ =>
      if ensureCapacity records request.sender request.recipient now then
        some (s.goOn id ⟨request, .listed now records⟩ (.creating now))
      else some (s.finish id ⟨request, .listed now records⟩)
    | _ => none
  | .insert id databaseNow generated =>
    match s.calls id with
    | some ⟨request, .creating now⟩ =>
      let op := .create request.account request.sender request.recipient request.protocolVersion
        (now + lifetime) generated
      some { s.goOn id ⟨request, .creating now⟩ .leaving with
        db := (TransferRequestRepository.perform s.db databaseNow op).1 }
    | _ => none
  | .leave id =>
    match s.calls id with
    | some ⟨request, .leaving⟩ => some (s.finish id ⟨request, .leaving⟩)
    | _ => none
  | .abort id =>
    match s.calls id with
    | some call => some (s.finish id call)
    | none => none
  | .operate databaseNow op =>
    if op.creates then none
    else some { s with db := (TransferRequestRepository.perform s.db databaseNow op).1 }
  | .other users devices sessions =>
    let db : Database := { users, devices, sessions, transfers := s.db.transfers }
    if s.db.transfers.all fun t => !db.accountExists t.userId || s.db.accountExists t.userId then
      some { s with db }
    else none

end SelfRelay.Backend
