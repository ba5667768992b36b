import SelfRelay.Backend.ForwardSignaling
import SelfRelay.Backend.TransferRepository

/-!
# Signaling calls and transfers

The calls of `forward_signaling` at one presence manager, interleaved at their awaits with each
other, with the writes of the transfers and with the ends of signaling state: `TransferService`
releases it after it has committed a terminal transition, a call clears it when it has read a
transfer that is over, and every call prunes what is older than the retention.

`released` and `queued` are what an observer has seen: the transfers whose state was ended, and the
messages that were queued for the peer, each with its transfer, its device and its type.
-/

namespace SelfRelay.Backend

open Python

/-- `TRANSFER_REQUEST_LIFETIME`: 10 minutes. -/
def transferRequestLifetime : Timestamp := 10 * 60 * 1000000

/-- Where a call of `forward_signaling` waits. -/
inductive ForwardPhase where
  /-- For `get_by_id`, before the statement took effect. -/
  | reading
  /-- For `get_by_id`, with what it will return. -/
  | read (transfer : Option TransferRequestRecord)
  /-- For the lock of `_clear_signaling_state`. -/
  | clearing (transfer : Uuid)
  /-- For `mark_negotiating`. -/
  | negotiating (transfer : Uuid)
  /-- For the lock of `_record_signaling_use`. -/
  | charging (transfer : Uuid)
  /-- In `send_to_device`. -/
  | sending (transfer : Uuid)

structure ForwardCall where
  connection : ActiveConnection
  message : PyDict
  parsed : ParsedSignaling
  phase : ForwardPhase

namespace ForwardCall

/-- The call passes the checks with the transfer that it has read. -/
def goesOn (call : ForwardCall) (t : TransferRequestRecord) (now : Timestamp) : Bool :=
  match decideRead call.connection call.message call.parsed (some t) now now with
  | .negotiate _ | .charge _ => true
  | .reject | .clear _ => false

/-- The call has read the transfer, goes on with it, and has not returned. -/
def inFlight (transfer : Uuid) (now : Timestamp) (call : ForwardCall) : Bool :=
  match call.phase with
  | .reading | .read none | .clearing _ => false
  | .read (some t) => t.id = transfer && call.goesOn t now
  | .negotiating t | .charging t | .sending t => t = transfer

/-- What the call queues for the peer. -/
def item (call : ForwardCall) (transfer : Uuid) : Uuid × Uuid × SignalingType :=
  (transfer, call.connection.deviceId, call.parsed.type)

/-- The call was charged and may queue the item. -/
def sends (item : Uuid × Uuid × SignalingType) (call : ForwardCall) : ℕ :=
  match call.phase with
  | .sending t => if call.item t = item then 1 else 0
  | _ => 0

end ForwardCall

structure RelayState where
  clock : Timestamp
  db : Database
  signaling : SignalingState
  /-- The calls of `forward_signaling` that have not returned. -/
  calls : Dict ℕ ForwardCall
  /-- The terminal transitions that `TransferService` committed before it releases their state. -/
  releasing : List Uuid
  released : List Uuid
  queued : List (Uuid × Uuid × SignalingType)

namespace RelayState

variable (s : RelayState)

/-- A call goes on to another await. -/
def goOn (id : ℕ) (call : ForwardCall) (phase : ForwardPhase) : RelayState :=
  { s with calls := s.calls.set id { call with phase } }

/-- A call returns or raises. -/
def finish (id : ℕ) : RelayState := { s with calls := s.calls.del id }

/-- `_clear_signaling_state` -/
def clearSignalingState (transfer : Uuid) : RelayState :=
  { s with
    signaling := s.signaling.releaseSignaling transfer
    released := transfer :: s.released }

/-- A call that goes on with the transfer is between its read and its return. -/
def inFlight (transfer : Uuid) : Bool := s.calls.values.any (·.inFlight transfer s.clock)

end RelayState

/-- The transfer whose state `TransferService` releases after the operation has returned a row. -/
def TransferOperation.released? : TransferOperation → Option Uuid
  | .reject _ transfer _ | .cancel _ transfer _ | .expire _ transfer => some transfer
  | _ => none

/-- A new transfer expires after the lifetime, from a time that `create_offer` has read before. -/
def TransferOperation.withinLifetime (now : Timestamp) : TransferOperation → Bool
  | .create _ _ _ _ expiresAt _ => expiresAt ≤ now + transferRequestLifetime
  | _ => true

inductive RelayEvent where
  | tick (time : Timestamp)
  /-- A write of the transfers, by `TransferService` or by another caller. -/
  | operate (op : TransferOperation)
  /-- A write of the other tables. -/
  | other (users : List AppUser) (devices : List DeviceRecord) (sessions : List SessionRecord)
  /-- `_release` -/
  | release (transfer : Uuid)
  /-- `_prune_signaling_state`, with the time that was read before its lock. -/
  | prune (now : Timestamp)
  /-- A call of `forward_signaling` goes on to `get_by_id`. -/
  | begin (id : ℕ) (connection : ActiveConnection) (message : PyDict)
  | read (id : ℕ)
  /-- `get_by_id` returns.  The clock is read again for the expiry of the message. -/
  | check (id : ℕ) (later : Timestamp)
  | clear (id : ℕ)
  | negotiate (id : ℕ)
  | charge (id : ℕ)
  /-- `send_to_device` returns, when the peer is connected and its queue takes the message. -/
  | enqueue (id : ℕ) (accepted : Bool)
  /-- The call raises at its await. -/
  | abort (id : ℕ)

namespace RelayState

/-- What a call does when `get_by_id` has returned. -/
def decided (s : RelayState) (id : ℕ) (call : ForwardCall) (transfer : Option TransferRequestRecord)
    (later : Timestamp) : RelayState :=
  match decideRead call.connection call.message call.parsed transfer s.clock later with
  | .reject => s.finish id
  | .clear t => s.goOn id call (.clearing t)
  | .negotiate t => s.goOn id call (.negotiating t.id)
  | .charge t => s.goOn id call (.charging t.id)

/-- One segment between two awaits, or one effect of a statement. -/
def step (depth : ℕ) (s : RelayState) : RelayEvent → Option RelayState
  | .tick time => if s.clock ≤ time then some { s with clock := time } else none
  | .operate op =>
    if op.withinLifetime s.clock then
      let (db, result) := TransferRequestRepository.perform s.db s.clock op
      let releasing := match op.released?, result with
        | some transfer, .ok (some _) => transfer :: s.releasing
        | _, _ => s.releasing
      some { s with db, releasing }
    else none
  | .other users devices sessions =>
    some { s with db := { users, devices, sessions, transfers := s.db.transfers } }
  | .release transfer =>
    if transfer ∈ s.releasing then
      some { s.clearSignalingState transfer with releasing := s.releasing.erase transfer }
    else none
  | .prune now =>
    if now ≤ s.clock then
      some { s with
        signaling := s.signaling.pruneSignalingState now
        released := s.signaling.staleTransfers now ++ s.released }
    else none
  | .begin id connection message =>
    match s.calls.get id, parseSignalingMessage depth message s.clock with
    | none, .ok (some parsed) => some (s.goOn id ⟨connection, message, parsed, .reading⟩ .reading)
    | _, _ => none
  | .read id =>
    match s.calls.get id with
    | some call =>
      match call.phase with
      | .reading =>
        some (s.goOn id call
          (.read (TransferRequestRepository.getById s.db call.connection.accountId
            call.parsed.transfer)))
      | _ => none
    | none => none
  | .check id later =>
    match s.calls.get id with
    | some call =>
      match call.phase with
      | .read transfer =>
        if s.clock ≤ later then some { s.decided id call transfer later with
          clock := later } else none
      | _ => none
    | none => none
  | .clear id =>
    match s.calls.get id with
    | some call =>
      match call.phase with
      | .clearing transfer => some ((s.clearSignalingState transfer).finish id)
      | _ => none
    | none => none
  | .negotiate id =>
    match s.calls.get id with
    | some call =>
      match call.phase with
      | .negotiating transfer =>
        let (db, result) := TransferRequestRepository.perform s.db s.clock
          (.markNegotiating call.connection.accountId transfer)
        match result with
        | .ok (some _) => some ({ s with db }.goOn id call (.charging transfer))
        | _ => some ({ s with db }.finish id)
      | _ => none
    | none => none
  | .charge id =>
    match s.calls.get id with
    | some call =>
      match call.phase with
      | .charging transfer =>
        let (charged, signaling) := s.signaling.recordSignalingUse transfer call.connection
          call.parsed.type s.clock s.clock
        if charged then some ({ s with signaling }.goOn id call (.sending transfer))
        else some ({ s with signaling }.finish id)
      | _ => none
    | none => none
  | .enqueue id accepted =>
    match s.calls.get id with
    | some call =>
      match call.phase with
      | .sending transfer =>
        some ({ s with
          queued := if accepted then call.item transfer :: s.queued else s.queued }.finish id)
      | _ => none
    | none => none
  | .abort id => (s.calls.get id).map fun _ => s.finish id

/-- No signaling state ends while a call that goes on with its transfer is between
its read and its return. -/
def quiet (s : RelayState) : RelayEvent → Bool
  | .release transfer => !s.inFlight transfer
  | .clear id =>
    (s.calls.get id).all fun call =>
      match call.phase with
      | .clearing transfer => !s.inFlight transfer
      | _ => true
  | .prune now => (s.signaling.staleTransfers now).all fun transfer => !s.inFlight transfer
  | _ => true

end RelayState

end SelfRelay.Backend
