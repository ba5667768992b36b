import SelfRelay.Backend.Schema

/-!
# `TransferRequestRepository`

The write operations of the SQL repository.  Every status change is one `UPDATE` that `_transition`
builds from its arguments; `CURRENT_TIMESTAMP` is the argument `now`.  A statement that violates a
constraint raises and leaves the table as it was.

`update_status`, `mark_expired`, `mark_complete`, `mark_failed` and `set_relay_used` are other names
for `transition`, `expire`, `complete`, `fail` and `mark_relay_used`.
-/

namespace SelfRelay.Backend

/-! ## Statuses -/

namespace TransferStatus

/-- The text of a status. -/
def text : TransferStatus → String
  | offered => "offered"
  | accepted => "accepted"
  | negotiating => "negotiating"
  | connected => "connected"
  | transferring => "transferring"
  | completed => "completed"
  | rejected => "rejected"
  | expired => "expired"
  | cancelled => "cancelled"
  | failed => "failed"

def all : List TransferStatus :=
  [offered, accepted, negotiating, connected, transferring, completed, rejected, expired, cancelled,
    failed]

/-- The status that a text names. -/
def ofText? (value : String) : Option TransferStatus := all.find? fun s => s.text = value

/-- `_VALID_TRANSITIONS` -/
def validTransitions : TransferStatus → List TransferStatus
  | offered => [accepted, rejected, expired, cancelled]
  | accepted => [negotiating, cancelled, failed, expired]
  | negotiating => [connected, cancelled, failed, expired]
  | connected => [transferring, cancelled, failed, expired]
  | transferring => [completed, cancelled, failed, expired]
  | completed | rejected | expired | cancelled | failed => []

def isTerminal : TransferStatus → Bool
  | completed | rejected | expired | cancelled | failed => true
  | offered | accepted | negotiating | connected | transferring => false

end TransferStatus

open TransferStatus

/-- `_ACTIVE_STATUSES` -/
def activeStatuses : List TransferStatus :=
  [.offered, .accepted, .negotiating, .connected, .transferring]

/-- `_FAILABLE_STATUSES` -/
def failableStatuses : List TransferStatus := [.accepted, .negotiating, .connected, .transferring]

/-! ## Statements -/

/-- What a repository call returns. -/
abbrev TransferResult := Except RepositoryError (Option TransferRequestRecord)

namespace Database

/-- An update of `private.transfer_requests` that returns the row it wrote. -/
def updateTransfers (db : Database) (selected : TransferRequestRecord → Bool)
    (set : TransferRequestRecord → TransferRequestRecord) : Database × TransferResult :=
  match Table.update TransferRequestRecord.check selected set db.transfers with
  | .error violation => (db, .error (.rejected violation))
  | .ok (transfers, returned) => ({ db with transfers }, .ok returned.head?)

end Database

/-! ## `_transition` -/

inductive ActorRole where
  | recipient
  | participant
  deriving DecidableEq, Repr

/-- The keyword arguments of `_transition`. -/
structure TransitionArguments where
  fromStatuses : List TransferStatus
  toStatus : TransferStatus
  requireUnexpired : Bool := true
  actorDeviceId : Option Uuid := none
  actorRole : Option ActorRole := none
  failureCode : Option String := none

/-- `role_predicate` -/
def ActorRole.holds (t : TransferRequestRecord) (actor : Uuid) : Option ActorRole → Bool
  | some .recipient => actor = t.recipientDeviceId
  | some .participant => actor = t.senderDeviceId || actor = t.recipientDeviceId
  | none => true

namespace TransitionArguments

variable (args : TransitionArguments)

/-- The `WHERE` clause. -/
def selects (db : Database) (now : Timestamp) (account transfer : Uuid)
    (t : TransferRequestRecord) : Bool :=
  t.userId = account && t.id = transfer && args.fromStatuses.contains t.status &&
    (if args.requireUnexpired then decide (now < t.expiresAt) else decide (t.expiresAt ≤ now)) &&
    db.accountExists t.userId &&
    args.actorDeviceId.all fun actor =>
      db.deviceActive t.userId actor && ActorRole.holds t actor args.actorRole

/-- The `SET` clauses. -/
def set (now : Timestamp) (t : TransferRequestRecord) : TransferRequestRecord :=
  { t with
    status := args.toStatus
    failureCode := if args.toStatus = .failed then args.failureCode else none
    acceptedAt :=
      if args.toStatus = .accepted ∨ args.toStatus = .cancelled then some (t.acceptedAt.getD now)
      else t.acceptedAt
    completedAt := if args.toStatus = .completed then some now else t.completedAt }

/-! The arguments that each operation passes. -/

/-- In `transition`. -/
def ofStatuses (fromStatus toStatus : TransferStatus) : TransitionArguments :=
  { fromStatuses := [fromStatus], toStatus, requireUnexpired := toStatus ≠ .expired }

def ofAccept (recipient : Uuid) : TransitionArguments where
  fromStatuses := [.offered]
  toStatus := .accepted
  actorDeviceId := some recipient
  actorRole := some .recipient

def ofReject (recipient : Uuid) : TransitionArguments where
  fromStatuses := [.offered]
  toStatus := .rejected
  actorDeviceId := some recipient
  actorRole := some .recipient

def ofCancel (actor : Uuid) : TransitionArguments where
  fromStatuses := activeStatuses
  toStatus := .cancelled
  actorDeviceId := some actor
  actorRole := some .participant

def ofFail (failureCode : String) (actor : Option Uuid) : TransitionArguments where
  fromStatuses := failableStatuses
  toStatus := .failed
  actorDeviceId := actor
  actorRole := some .participant
  failureCode := some failureCode

def ofExpire : TransitionArguments where
  fromStatuses := activeStatuses
  toStatus := .expired
  requireUnexpired := false

end TransitionArguments

/-- `_transition` -/
def runTransition (db : Database) (now : Timestamp) (account transfer : Uuid)
    (args : TransitionArguments) : Database × TransferResult :=
  db.updateTransfers (args.selects db now account transfer) (args.set now)

/-! ## Operations -/

/-- A call of a write operation.  The `id` of `create` is what `gen_random_uuid()` returns. -/
inductive TransferOperation where
  | create (account sender recipient : Uuid) (protocolVersion : ℤ) (expiresAt : Timestamp)
    (id : Uuid)
  | transition (account transfer : Uuid) (fromStatus toStatus : String)
  | accept (account transfer recipient : Uuid)
  | reject (account transfer recipient : Uuid)
  | cancel (account transfer actor : Uuid)
  | markNegotiating (account transfer : Uuid)
  | markConnected (account transfer : Uuid)
  | markTransferring (account transfer : Uuid)
  | complete (account transfer : Uuid)
  | fail (account transfer : Uuid) (failureCode : String) (actor : Option Uuid)
  | expire (account transfer : Uuid)
  | markRelayUsed (account transfer : Uuid)

namespace TransferRequestRepository

variable (db : Database) (now : Timestamp)

/-- `create` -/
def create (account sender recipient : Uuid) (protocolVersion : ℤ) (expiresAt : Timestamp)
    (id : Uuid) : Database × TransferResult :=
  if db.accountExists account && db.deviceActive account sender &&
      db.deviceActive account recipient && sender ≠ recipient then
    let record : TransferRequestRecord := {
      id
      userId := account
      senderDeviceId := sender
      recipientDeviceId := recipient
      protocolVersion
      status := .offered
      createdAt := now
      expiresAt
      acceptedAt := none
      completedAt := none
      failureCode := none
      relayUsed := false }
    match Table.insert TransferRequestRecord.check TransferRequestRecord.id record db.transfers with
    | .error violation => (db, .error (.rejected violation))
    | .ok transfers => ({ db with transfers }, .ok (some record))
  else (db, .error .noRow)

/-- `transition` of statuses that the table knows. -/
def transitionStatus (account transfer : Uuid) (fromStatus toStatus : TransferStatus) :
    Database × TransferResult :=
  if toStatus ∈ fromStatus.validTransitions then
    runTransition db now account transfer (.ofStatuses fromStatus toStatus)
  else (db, .ok none)

/-- `transition` -/
def transition (account transfer : Uuid) (fromStatus toStatus : String) :
    Database × TransferResult :=
  match ofText? fromStatus, ofText? toStatus with
  | some fromStatus, some toStatus => transitionStatus db now account transfer fromStatus toStatus
  | _, _ => (db, .ok none)

/-- `accept` -/
def accept (account transfer recipient : Uuid) : Database × TransferResult :=
  runTransition db now account transfer (.ofAccept recipient)

/-- `reject` -/
def reject (account transfer recipient : Uuid) : Database × TransferResult :=
  runTransition db now account transfer (.ofReject recipient)

/-- `cancel` -/
def cancel (account transfer actor : Uuid) : Database × TransferResult :=
  runTransition db now account transfer (.ofCancel actor)

/-- `fail` -/
def fail (account transfer : Uuid) (failureCode : String) (actor : Option Uuid) :
    Database × TransferResult :=
  runTransition db now account transfer (.ofFail failureCode actor)

/-- `expire` -/
def expire (account transfer : Uuid) : Database × TransferResult :=
  runTransition db now account transfer .ofExpire

/-- The `WHERE` clause of `mark_relay_used`. -/
def relaySelects (account transfer : Uuid) (t : TransferRequestRecord) : Bool :=
  t.userId = account && t.id = transfer && activeStatuses.contains t.status &&
    now < t.expiresAt && db.accountExists t.userId

/-- `mark_relay_used` -/
def markRelayUsed (account transfer : Uuid) : Database × TransferResult :=
  db.updateTransfers (relaySelects db now account transfer) fun t => { t with relayUsed := true }

/-- A call, with what it returns. -/
def perform : TransferOperation → Database × TransferResult
  | .create account sender recipient protocolVersion expiresAt id =>
    create db now account sender recipient protocolVersion expiresAt id
  | .transition account transfer fromStatus toStatus =>
    transition db now account transfer fromStatus toStatus
  | .accept account transfer recipient => accept db now account transfer recipient
  | .reject account transfer recipient => reject db now account transfer recipient
  | .cancel account transfer actor => cancel db now account transfer actor
  | .markNegotiating account transfer =>
    transitionStatus db now account transfer .accepted .negotiating
  | .markConnected account transfer =>
    transitionStatus db now account transfer .negotiating .connected
  | .markTransferring account transfer =>
    transitionStatus db now account transfer .connected .transferring
  | .complete account transfer => transitionStatus db now account transfer .transferring .completed
  | .fail account transfer failureCode actor => fail db now account transfer failureCode actor
  | .expire account transfer => expire db now account transfer
  | .markRelayUsed account transfer => markRelayUsed db now account transfer

end TransferRequestRepository

end SelfRelay.Backend
