import SelfRelay.Backend.Schema

/-!
# `PresenceManager`: sockets and their writers

The connections that the manager holds, the outbound queues of their writer tasks, and the
operations that add and remove them.  A step is what runs between two awaits: the body of one
`async with self._lock`, with the cancellation that `_stop_outbound` requests right after it.  What
an operation still has to do after its first await is pending.

`_connections` is a dictionary of dictionaries, here the list of its values; an inner dictionary
that becomes empty is deleted.  Sessions and signaling budgets are left out.
-/

namespace SelfRelay.Backend

/-- `MAX_CONNECTIONS_PER_ACCOUNT` -/
def maxConnectionsPerAccount : ℕ := 8

/-- `MAX_TOTAL_CONNECTIONS` -/
def maxTotalConnections : ℕ := 512

/-- `MAX_WEBSOCKET_QUEUE_MESSAGES` -/
def maxWebsocketQueueMessages : ℕ := 32

/-- `MAX_WEBSOCKET_QUEUE_BYTES` -/
def maxWebsocketQueueBytes : ℕ := 256 * 1024

structure ActiveConnection where
  id : Uuid
  accountId : Uuid
  deviceId : Uuid
  lastHeartbeatAt : Timestamp
  deriving DecidableEq, Repr

/-- Where a connection is in `_connections`. -/
def ActiveConnection.key (c : ActiveConnection) : Uuid × Uuid := (c.accountId, c.deviceId)

/-- `_OutboundQueue`, under the id of its connection; a payload is its size. -/
structure OutboundQueue where
  connectionId : Uuid
  payloads : List ℕ
  queuedBytes : ℕ
  failed : Bool
  deriving DecidableEq, Repr

/-- The task of `_drain_outbound`. -/
inductive WriterTask where
  /-- It waits for a payload or sends one. -/
  | running
  /-- A send failed; `_drop` has not yet removed the connection. -/
  | failing
  /-- It closes its socket and returns. -/
  | leaving
  /-- `cancel()` was called. -/
  | cancelled
  | ended
  deriving DecidableEq, Repr

/-- `task.cancel()` -/
def WriterTask.cancel : WriterTask → WriterTask
  | ended => ended
  | _ => cancelled

/-- What an operation has still to do after its first await. -/
inductive PendingOperation where
  /-- `prune_expired` removed the connections; their queues are still to be stopped. -/
  | pruning (expired : List Uuid)
  /-- `close_all` took the queues; they are still to be stopped. -/
  | closing (queues : List Uuid)
  /-- `_enqueue_outbound` found the queue full; `_drop` is still to remove the connection. -/
  | dropping (connection : ActiveConnection)
  /-- `_stop_outbound` waits for the end of a task. -/
  | awaiting (connectionId : Uuid)
  deriving DecidableEq, Repr

structure PresenceManager where
  connections : List ActiveConnection
  outbound : List OutboundQueue
  /-- The writer tasks that were created, by their connections. -/
  tasks : Uuid → Option WriterTask
  pending : List PendingOperation

namespace PresenceManager

variable (s : PresenceManager)

/-- The connection of an account's device. -/
def current (account device : Uuid) : Option ActiveConnection :=
  Table.get ActiveConnection.key (account, device) s.connections

/-- The connection is still the one of its device. -/
def isCurrent (c : ActiveConnection) : Bool :=
  (s.current c.accountId c.deviceId).any fun current => current.id = c.id

/-- Forget the connection of a device. -/
def forget (c : ActiveConnection) : PresenceManager :=
  { s with connections := s.connections.filter fun c' => c'.key ≠ c.key }

/-- `self._outbound.pop` -/
def popOutbound (id : Uuid) : PresenceManager :=
  { s with outbound := s.outbound.filter fun queue => queue.connectionId ≠ id }

/-- `_stop_outbound` of a writer, up to its await. -/
def stop (id : Uuid) : PresenceManager :=
  { s with
    tasks := Function.update s.tasks id ((s.tasks id).map WriterTask.cancel)
    pending := s.pending ++ [.awaiting id] }

/-- `self._outbound.pop` and `_stop_outbound` of what it returned. -/
def popAndStop (id : Uuid) : PresenceManager :=
  if s.outbound.any fun queue => queue.connectionId = id then (s.popOutbound id).stop id else s

/-- `_has_connection_capacity` -/
def hasConnectionCapacity (account : Uuid) : Bool :=
  s.connections.countP (·.accountId = account) < maxConnectionsPerAccount &&
    s.connections.length < maxTotalConnections

/-- Hold a connection, with a new queue and task. -/
def hold (c : ActiveConnection) : PresenceManager :=
  { s with
    connections := Table.put ActiveConnection.key c s.connections
    outbound := Table.put OutboundQueue.connectionId ⟨c.id, [], 0, false⟩ s.outbound
    tasks := Function.update s.tasks c.id (some .running) }

/-- `register`.  Without capacity it raises. -/
def register (c : ActiveConnection) : PresenceManager :=
  match s.current c.accountId c.deviceId with
  | none => if s.hasConnectionCapacity c.accountId then s.hold c else s
  | some previous => (s.popAndStop previous.id).hold c

/-- `remove` -/
def remove (c : ActiveConnection) : PresenceManager :=
  if s.isCurrent c then (s.forget c).popAndStop c.id else s

/-- `heartbeat`, when the session of the connection is still valid. -/
def heartbeat (c : ActiveConnection) (now : Timestamp) : PresenceManager :=
  if s.isCurrent c then
    { s with
      connections := s.connections.map fun c' =>
        if c'.key = c.key then { c' with lastHeartbeatAt := now } else c' }
  else s

/-- A connection of the account, or of any, that missed the heartbeat window. -/
def isExpired (heartbeatTimeout now : Timestamp) (account : Option Uuid) (c : ActiveConnection) :
    Bool :=
  account.all (· = c.accountId) && c.lastHeartbeatAt + heartbeatTimeout ≤ now

/-- `prune_expired` -/
def pruneExpired (heartbeatTimeout now : Timestamp) (account : Option Uuid) : PresenceManager :=
  let expired := s.connections.filter (isExpired heartbeatTimeout now account)
  { s with
    connections := s.connections.filter fun c => !isExpired heartbeatTimeout now account c
    pending := s.pending ++ [.pruning (expired.map (·.id))] }

/-- `disconnect_device`, up to the broadcast that follows it. -/
def disconnectDevice (account device : Uuid) : PresenceManager :=
  match s.current account device with
  | none => s
  | some c => (s.forget c).popAndStop c.id

/-- `disconnect_account` -/
def disconnectAccount (account : Uuid) : PresenceManager :=
  { s with connections := s.connections.filter fun c => c.accountId ≠ account }

/-- `close_all` -/
def closeAll : PresenceManager :=
  { s with
    connections := []
    outbound := []
    pending := s.pending ++ [.closing (s.outbound.map (·.connectionId))] }

/-- Change the queue of a connection. -/
def updateQueue (id : Uuid) (change : OutboundQueue → OutboundQueue) : PresenceManager :=
  { s with
    outbound := s.outbound.map fun queue =>
      if queue.connectionId = id then change queue else queue }

/-- `_enqueue_outbound` of a payload of `size` bytes. -/
def enqueueOutbound (c : ActiveConnection) (size : ℕ) : PresenceManager :=
  match Table.get OutboundQueue.connectionId c.id s.outbound with
  | none => s
  | some queue =>
    if !s.isCurrent c || queue.failed then s
    else if maxWebsocketQueueMessages ≤ queue.payloads.length ||
        maxWebsocketQueueBytes < queue.queuedBytes + size then
      { s.updateQueue c.id fun queue => { queue with failed := true } with
        pending := s.pending ++ [.dropping c] }
    else s.updateQueue c.id fun queue =>
      { queue with
        payloads := queue.payloads ++ [size]
        queuedBytes := queue.queuedBytes + size }

/-- A writer takes the next payload. -/
def takePayload (id : Uuid) : PresenceManager :=
  s.updateQueue id fun queue =>
    { queue with
      payloads := queue.payloads.tail
      queuedBytes := queue.queuedBytes - queue.payloads.headD 0 }

/-- The lock section of `remove` in a writer that failed: it does not cancel itself. -/
def dropSelf (c : ActiveConnection) : PresenceManager :=
  let s := if s.isCurrent c then (s.forget c).popOutbound c.id else s
  { s with tasks := Function.update s.tasks c.id (some .leaving) }

/-- The next section of a pending operation, which is no longer in `pending`. -/
def resume : PendingOperation → Option PresenceManager
  | .pruning [] | .closing [] => some s
  | .pruning (id :: ids) =>
    let s := s.popAndStop id
    some { s with pending := s.pending ++ [.pruning ids] }
  | .closing (id :: ids) =>
    let s := s.stop id
    some { s with pending := s.pending ++ [.closing ids] }
  | .dropping c => some (s.remove c)
  | .awaiting id => if s.tasks id = some .ended then some s else none

end PresenceManager

inductive PresenceEvent where
  | register (c : ActiveConnection)
  | remove (c : ActiveConnection)
  | heartbeat (c : ActiveConnection) (now : Timestamp)
  | pruneExpired (now : Timestamp) (account : Option Uuid)
  | disconnectDevice (account device : Uuid)
  | disconnectAccount (account : Uuid)
  | closeAll
  | enqueueOutbound (c : ActiveConnection) (size : ℕ)
  /-- A writer takes a payload. -/
  | writerTakes (id : Uuid)
  /-- A writer's send failed, and `_fail_outbound` marked its queue. -/
  | writerFails (id : Uuid)
  /-- A failed writer removes its connection. -/
  | writerDrops (c : ActiveConnection)
  /-- A writer returns, or is cancelled at its await. -/
  | writerEnds (id : Uuid)
  /-- The next section of the pending operation at a place. -/
  | resume (place : ℕ)

/-- One step of the manager.  The id of a new connection is new. -/
def PresenceManager.step (heartbeatTimeout : Timestamp) (s : PresenceManager) :
    PresenceEvent → Option PresenceManager
  | .register c => if (s.tasks c.id).isSome then none else some (s.register c)
  | .remove c => some (s.remove c)
  | .heartbeat c now => some (s.heartbeat c now)
  | .pruneExpired now account => some (s.pruneExpired heartbeatTimeout now account)
  | .disconnectDevice account device => some (s.disconnectDevice account device)
  | .disconnectAccount account => some (s.disconnectAccount account)
  | .closeAll => some s.closeAll
  | .enqueueOutbound c size => some (s.enqueueOutbound c size)
  | .writerTakes id => if s.tasks id = some .running then some (s.takePayload id) else none
  | .writerFails id =>
    if s.tasks id = some .running then
      some { s.updateQueue id fun queue => { queue with failed := true } with
        tasks := Function.update s.tasks id (some .failing) }
    else none
  | .writerDrops c => if s.tasks c.id = some .failing then some (s.dropSelf c) else none
  | .writerEnds id =>
    if s.tasks id = some .leaving ∨ s.tasks id = some .cancelled then
      some { s with tasks := Function.update s.tasks id (some .ended) }
    else none
  | .resume place =>
    match s.pending[place]? with
    | none => none
    | some operation => { s with pending := s.pending.eraseIdx place }.resume operation

end SelfRelay.Backend
