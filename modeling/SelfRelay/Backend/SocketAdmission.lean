import SelfRelay.Backend.SignalingBudget

/-!
# The admission of sockets

The four maps of `PresenceManager`, with `_connections` as the dictionary of dictionaries that it
is, and the critical sections of all operations.  A heartbeat rechecks its session before its
section: what other operations do meanwhile is between the two steps.  `Admission` is the invariant
of the connection maps; `current_step` says which socket can be a device's after a step, so that a
socket that was replaced, pruned or disconnected never comes back.
-/

open StepSystem

namespace SelfRelay.Backend

/-- `ConnectionLimitError` -/
inductive ConnectionLimitError where
  | connectionLimit
  deriving DecidableEq, Repr

/-- The maps of `PresenceManager`. -/
structure PresenceMaps where
  connections : Dict Uuid (Dict Uuid ActiveConnection)
  outbound : Dict Uuid OutboundQueue
  signaling : SignalingState

namespace PresenceMaps

def empty : PresenceMaps := ⟨∅, ∅, .empty⟩

variable (s : PresenceMaps)

/-- The socket of an account's device. -/
def current (account device : Uuid) : Option ActiveConnection :=
  (s.connections.get account).bind (·.get device)

/-- The socket is still the one of its device. -/
def isCurrent (c : ActiveConnection) : Bool :=
  (s.current c.accountId c.deviceId).any fun current => current.id = c.id

/-- `active_socket_count` -/
def activeSocketCount : ℕ := s.connections.total Dict.size

/-- `_has_connection_capacity` -/
def hasConnectionCapacity (accountConnections : Dict Uuid ActiveConnection) : Bool :=
  accountConnections.size < maxConnectionsPerAccount && s.activeSocketCount < maxTotalConnections

/-- `self._connections.setdefault(account, {})` -/
def setDefault (account : Uuid) : PresenceMaps :=
  if (s.connections.get account).isSome then s
  else { s with connections := s.connections.set account ∅ }

/-- Delete the map of an account. -/
def delAccount (account : Uuid) : PresenceMaps :=
  { s with connections := s.connections.del account }

/-- The map of an account after deletions from it: an empty one is deleted. -/
def keepAccount (account : Uuid) (accountConnections : Dict Uuid ActiveConnection) : PresenceMaps :=
  if accountConnections.size = 0 then s.delAccount account
  else { s with connections := s.connections.set account accountConnections }

/-- `self._outbound.pop` -/
def popOutbound (id : Uuid) : PresenceMaps := { s with outbound := s.outbound.del id }

/-- `register`, with what it returns or raises. -/
def register (c : ActiveConnection) :
    Except ConnectionLimitError (Option ActiveConnection) × PresenceMaps :=
  let s := s.setDefault c.accountId
  let accountConnections := (s.connections.get c.accountId).getD ∅
  match accountConnections.get c.deviceId with
  | none =>
    if s.hasConnectionCapacity accountConnections then
      (.ok none,
        { s with
          connections := s.connections.set c.accountId (accountConnections.set c.deviceId c)
          outbound := s.outbound.set c.id ⟨c.id, [], 0, false⟩ })
    else
      (.error .connectionLimit,
        if accountConnections.size = 0 then s.delAccount c.accountId else s)
  | some previous =>
    (.ok (some previous),
      { s with
        connections := s.connections.set c.accountId (accountConnections.set c.deviceId c)
        outbound := (s.outbound.del previous.id).set c.id ⟨c.id, [], 0, false⟩ })

/-- `remove` -/
def remove (c : ActiveConnection) : Bool × PresenceMaps :=
  match s.connections.get c.accountId with
  | none => (false, s)
  | some accountConnections =>
    match accountConnections.get c.deviceId with
    | none => (false, s)
    | some current =>
      if current.id ≠ c.id then (false, s)
      else (true, (s.keepAccount c.accountId (accountConnections.del c.deviceId)).popOutbound c.id)

/-- The critical section of `heartbeat`. -/
def refresh (c : ActiveConnection) (now : Timestamp) : Option ActiveConnection × PresenceMaps :=
  match s.connections.get c.accountId with
  | none => (none, s)
  | some accountConnections =>
    match accountConnections.get c.deviceId with
    | none => (none, s)
    | some current =>
      if current.id ≠ c.id then (none, s)
      else
        let updated := { current with lastHeartbeatAt := now }
        (some updated,
          { s with
            connections :=
              s.connections.set c.accountId (accountConnections.set c.deviceId updated) })

/-- A connection that missed the heartbeat window. -/
def missedHeartbeat (heartbeatTimeout now : Timestamp) (c : ActiveConnection) : Bool :=
  c.lastHeartbeatAt + heartbeatTimeout ≤ now

/-- The part of `prune_expired` for one account. -/
def pruneAccount (heartbeatTimeout now : Timestamp) (s : PresenceMaps) (account : Uuid) :
    PresenceMaps :=
  match s.connections.get account with
  | none => s
  | some accountConnections =>
    s.keepAccount account (accountConnections.filter fun c =>
      !missedHeartbeat heartbeatTimeout now c)

/-- The first critical section of `prune_expired`, for one account or for all. -/
def pruneExpired (heartbeatTimeout now : Timestamp) (account : Option Uuid) : PresenceMaps :=
  let accounts := account.elim s.connections.keys fun account => [account]
  accounts.foldl (pruneAccount heartbeatTimeout now) s

/-- `disconnect_device`, up to the broadcast that follows it. -/
def disconnectDevice (account device : Uuid) : PresenceMaps :=
  match s.connections.get account with
  | none => s
  | some accountConnections =>
    match accountConnections.get device with
    | none => s
    | some c => (s.keepAccount account (accountConnections.del device)).popOutbound c.id

/-- Change the queue of a connection. -/
def updateQueue (id : Uuid) (change : OutboundQueue → OutboundQueue) : PresenceMaps :=
  match s.outbound.get id with
  | none => s
  | some queue => { s with outbound := s.outbound.set id (change queue) }

/-- `_enqueue_outbound` of a payload of `size` bytes. -/
def enqueueOutbound (c : ActiveConnection) (size : ℕ) : PresenceMaps :=
  match s.outbound.get c.id with
  | none => s
  | some queue =>
    if !s.isCurrent c || queue.failed then s
    else if maxWebsocketQueueMessages ≤ queue.payloads.length ||
        maxWebsocketQueueBytes < queue.queuedBytes + size then
      s.updateQueue c.id fun queue => { queue with failed := true }
    else s.updateQueue c.id fun queue =>
      { queue with
        payloads := queue.payloads ++ [size]
        queuedBytes := queue.queuedBytes + size }

/-- What `find_current_by_id` returned to a heartbeat: no repository, or the account of the session
if it is current. -/
inductive SessionLookup where
  | noRepository
  | found (userId : Option Uuid)
  deriving DecidableEq, Repr

/-- The session is still current, for the account of the connection. -/
def SessionLookup.accepts (c : ActiveConnection) : SessionLookup → Bool
  | noRepository => true
  | found userId => userId = some c.accountId

/-- What `heartbeat` does after the recheck of its session. -/
def heartbeat (c : ActiveConnection) (session : SessionLookup) (now : Timestamp) : PresenceMaps :=
  if session.accepts c then (s.refresh c now).2 else (s.remove c).2

end PresenceMaps

/-- The presence manager between two critical sections. -/
structure PresenceSystem where
  maps : PresenceMaps
  /-- The ids of the sockets that were registered. -/
  admitted : List Uuid
  /-- The heartbeats that wait for the recheck of their session. -/
  heartbeats : List ActiveConnection

inductive SocketEvent where
  | register (c : ActiveConnection)
  /-- `remove`, also by `_drop` of a failed writer or of an overflowing queue. -/
  | remove (c : ActiveConnection)
  /-- A call of `heartbeat`. -/
  | heartbeat (c : ActiveConnection)
  /-- The heartbeat at a place goes on after the recheck of its session. -/
  | recheck (place : ℕ) (session : PresenceMaps.SessionLookup) (now : Timestamp)
  | pruneExpired (now : Timestamp) (account : Option Uuid)
  /-- A later section of `prune_expired`. -/
  | popOutbound (id : Uuid)
  | disconnectDevice (account device : Uuid)
  | disconnectAccount (account : Uuid)
  | closeAll
  | enqueueOutbound (c : ActiveConnection) (size : ℕ)
  /-- A writer or `_stop_outbound` changes a queue. -/
  | changeQueue (id : Uuid) (change : OutboundQueue → OutboundQueue)
  | signaling (event : SignalingEvent)

namespace PresenceSystem

def initial : PresenceSystem := ⟨.empty, [], []⟩

/-- The maps after a critical section. -/
def run (s : PresenceSystem) (maps : PresenceMaps) : PresenceSystem := { s with maps }

/-- One critical section.  The id of a new socket is new. -/
def step (heartbeatTimeout : Timestamp) (s : PresenceSystem) : SocketEvent → Option PresenceSystem
  | .register c =>
    if c.id ∈ s.admitted then none
    else some { s with maps := (s.maps.register c).2, admitted := c.id :: s.admitted }
  | .remove c => some (s.run (s.maps.remove c).2)
  | .heartbeat c => some { s with heartbeats := s.heartbeats ++ [c] }
  | .recheck place session now =>
    match s.heartbeats[place]? with
    | none => none
    | some c =>
      some { s with
        maps := s.maps.heartbeat c session now
        heartbeats := s.heartbeats.eraseIdx place }
  | .pruneExpired now account => some (s.run (s.maps.pruneExpired heartbeatTimeout now account))
  | .popOutbound id => some (s.run (s.maps.popOutbound id))
  | .disconnectDevice account device => some (s.run (s.maps.disconnectDevice account device))
  | .disconnectAccount account => some (s.run (s.maps.delAccount account))
  | .closeAll => some (s.run .empty)
  | .enqueueOutbound c size => some (s.run (s.maps.enqueueOutbound c size))
  | .changeQueue id change => some (s.run (s.maps.updateQueue id change))
  | .signaling event => some (s.run { s.maps with signaling := s.maps.signaling.step event })

end PresenceSystem

/-! ## The invariant -/

/-- A map that an account may have. -/
structure AccountOk (account : Uuid) (m : Dict Uuid ActiveConnection) : Prop where
  nonempty : m.size ≠ 0
  bounded : m.size ≤ maxConnectionsPerAccount
  keys : ∀ device c, m.get device = some c → c.key = (account, device)

structure Admission (s : PresenceMaps) : Prop where
  accounts : ∀ account m, s.connections.get account = some m → AccountOk account m
  total : s.activeSocketCount ≤ maxTotalConnections

namespace PresenceMaps

variable {s t : PresenceMaps} {account : Uuid} {m m' : Dict Uuid ActiveConnection}
  {c : ActiveConnection} {heartbeatTimeout now : Timestamp}

theorem admission_empty : Admission empty := ⟨by rintro _ _ ⟨⟩, Nat.zero_le _⟩

/-- The invariant is about the connections only. -/
theorem admission_congr (h : Admission s) (hconnections : t.connections = s.connections) :
    Admission t := by
  refine ⟨?_, ?_⟩
  · rw [hconnections]
    exact h.accounts
  · rw [activeSocketCount, hconnections]
    exact h.total

theorem admission_set (h : Admission s) (hm : AccountOk account m)
    (htotal : s.activeSocketCount + m.size ≤
      maxTotalConnections + (s.connections.get account).elim 0 Dict.size) :
    Admission { s with connections := s.connections.set account m } := by
  constructor
  · intro account' m' hget
    by_cases heq : account' = account
    · subst heq
      obtain rfl := Option.some.inj (Dict.get_set.symm.trans hget)
      exact hm
    · rw [Dict.get_set_ne heq] at hget
      exact h.accounts account' m' hget
  · have hset := Dict.total_set (d := s.connections) (k := account) (v := m) (f := Dict.size)
    simp only [activeSocketCount] at htotal ⊢
    omega

theorem admission_delAccount (h : Admission s) : Admission (s.delAccount account) := by
  constructor
  · intro account' m' hget
    by_cases heq : account' = account
    · rw [heq, delAccount, Dict.get_del] at hget
      cases hget
    · rw [delAccount, Dict.get_del_ne heq] at hget
      exact h.accounts account' m' hget
  · cases hget : s.connections.get account with
    | none =>
      rw [delAccount, activeSocketCount, Dict.del_eq_self hget]
      exact h.total
    | some m =>
      have hdel := Dict.total_del (f := Dict.size) hget
      have htotal := h.total
      simp only [activeSocketCount, delAccount] at htotal ⊢
      omega

/-- Deletions from the map of an account. -/
theorem admission_keepAccount (h : Admission s) (hget : s.connections.get account = some m)
    (hsize : m'.size ≤ m.size) (hsub : ∀ device c, m'.get device = some c → m.get device = some c) :
    Admission (s.keepAccount account m') := by
  have hm := h.accounts account m hget
  rw [keepAccount]
  split_ifs with hempty
  · exact admission_delAccount h
  · refine admission_set h ⟨hempty, hsize.trans hm.bounded, ?_⟩ ?_
    · intro device c hdevice
      exact hm.keys device c (hsub device c hdevice)
    · rw [hget, Option.elim_some]
      exact Nat.add_le_add h.total hsize

/-! ### Dictionaries of sockets -/

theorem size_del_le {device : Uuid} : (m.del device).size ≤ m.size := by
  rw [Dict.size_eq_total, Dict.size_eq_total]
  cases hget : m.get device with
  | none => rw [Dict.del_eq_self hget]
  | some c =>
    have hdel := Dict.total_del (f := fun _ => 1) hget
    omega

theorem get_del_sub {device device' : Uuid} (h : (m.del device).get device' = some c) :
    m.get device' = some c := by
  by_cases heq : device' = device
  · rw [heq, Dict.get_del] at h
    cases h
  · rwa [Dict.get_del_ne heq] at h

theorem get_filter_sub {p : ActiveConnection → Bool} {device : Uuid}
    (h : (m.filter p).get device = some c) : m.get device = some c := by
  rw [Dict.get_filter, Option.filter_eq_some_iff] at h
  exact h.1

/-- Storing the socket of a device. -/
theorem size_set (m : Dict Uuid ActiveConnection) (device : Uuid) (c : ActiveConnection) :
    (m.set device c).size + (m.get device).elim 0 (fun _ => 1) = m.size + 1 := by
  rw [Dict.size_eq_total, Dict.size_eq_total]
  exact Dict.total_set

theorem accountOk_set {device : Uuid}
    (hkeys : ∀ device c, m.get device = some c → c.key = (account, device))
    (hc : c.key = (account, device)) (hbounded : (m.set device c).size ≤ maxConnectionsPerAccount) :
    AccountOk account (m.set device c) := by
  refine ⟨?_, hbounded, ?_⟩
  · have hsize := size_set m device c
    cases hget : m.get device with
    | none =>
      rw [hget, Option.elim_none] at hsize
      omega
    | some c' =>
      have hpositive : 1 ≤ m.size := by
        rw [Dict.size_eq_total]
        exact Dict.le_total (f := fun _ => 1) hget
      rw [hget, Option.elim_some] at hsize
      omega
  · intro device' c' hget
    by_cases heq : device' = device
    · subst heq
      obtain rfl := Option.some.inj (Dict.get_set.symm.trans hget)
      exact hc
    · rw [Dict.get_set_ne heq] at hget
      exact hkeys device' c' hget

/-! ### Registration -/

variable (s) in
/-- Store the socket of a device, with a new queue. -/
def store (c : ActiveConnection) (outbound : Dict Uuid OutboundQueue) : PresenceMaps :=
  { s with
    connections := s.connections.set c.accountId
      (((s.connections.get c.accountId).getD ∅).set c.deviceId c)
    outbound := outbound.set c.id ⟨c.id, [], 0, false⟩ }

theorem setDefault_get :
    ((s.setDefault account).connections.get account).getD ∅ =
      (s.connections.get account).getD ∅ := by
  rw [setDefault]
  split_ifs with h
  · rfl
  · rw [Dict.get_set, Option.not_isSome_iff_eq_none.1 h]
    rfl

theorem setDefault_set : (s.setDefault account).connections.set account m =
    s.connections.set account m := by
  rw [setDefault]
  split_ifs
  · rfl
  · exact Dict.set_set

theorem setDefault_outbound : (s.setDefault account).outbound = s.outbound := by
  rw [setDefault]
  split_ifs <;> rfl

theorem setDefault_signaling : (s.setDefault account).signaling = s.signaling := by
  rw [setDefault]
  split_ifs <;> rfl

theorem setDefault_activeSocketCount :
    (s.setDefault account).activeSocketCount = s.activeSocketCount := by
  rw [setDefault]
  split_ifs with h
  · rfl
  · have hset := Dict.total_set (d := s.connections) (k := account) (f := Dict.size)
      (v := (∅ : Dict Uuid ActiveConnection))
    rw [Option.not_isSome_iff_eq_none.1 h] at hset
    exact hset

/-- The map that `setdefault` created is deleted again. -/
theorem setDefault_undo (h : Admission s) (account : Uuid) :
    (if ((s.connections.get account).getD ∅).size = 0 then (s.setDefault account).delAccount account
      else s.setDefault account) = s := by
  rw [setDefault]
  cases hget : s.connections.get account with
  | none =>
    have hdel : (s.connections.set account ∅).del account = s.connections := by
      rw [Dict.del_set, Dict.del_eq_self hget]
    rw [Option.getD_none, if_pos Dict.size_empty, Option.isSome_none, if_neg Bool.false_ne_true,
      delAccount]
    dsimp only
    rw [hdel]
  | some m =>
    rw [Option.getD_some, if_neg (h.accounts account m hget).nonempty,
      Option.isSome_some, if_pos rfl]

/-- `register` stores the socket, in place of the device's or within the capacity; or it raises and
changes nothing. -/
theorem register_cases (h : Admission s) (c : ActiveConnection) :
    s.register c = (.error .connectionLimit, s) ∨
      ∃ previous outbound, s.register c = (.ok previous, s.store c outbound) ∧
        (((s.connections.get c.accountId).getD ∅).get c.deviceId = none →
          s.hasConnectionCapacity ((s.connections.get c.accountId).getD ∅) = true) := by
  have hundo := setDefault_undo h c.accountId
  simp only [register, setDefault_get, setDefault_set, setDefault_outbound, setDefault_signaling,
    hasConnectionCapacity, setDefault_activeSocketCount, hundo]
  cases hdevice : ((s.connections.get c.accountId).getD ∅).get c.deviceId with
  | none =>
    dsimp only
    by_cases hcapacity : (decide (((s.connections.get c.accountId).getD ∅).size <
        maxConnectionsPerAccount) && decide (s.activeSocketCount < maxTotalConnections)) = true
    · rw [if_pos hcapacity]
      exact .inr ⟨none, s.outbound, rfl, fun _ => hcapacity⟩
    · rw [if_neg hcapacity]
      exact .inl rfl
  | some previous =>
    refine .inr ⟨some previous, s.outbound.del previous.id, rfl, ?_⟩
    rintro ⟨⟩

theorem admission_store {outbound : Dict Uuid OutboundQueue} (h : Admission s)
    (hcapacity : ((s.connections.get c.accountId).getD ∅).get c.deviceId = none →
      s.hasConnectionCapacity ((s.connections.get c.accountId).getD ∅) = true) :
    Admission (s.store c outbound) := by
  simp only [hasConnectionCapacity, Bool.and_eq_true, decide_eq_true_eq] at hcapacity
  have hm : (∀ device c', ((s.connections.get c.accountId).getD ∅).get device = some c' →
        c'.key = (c.accountId, device)) ∧
      ((s.connections.get c.accountId).getD ∅).size ≤ maxConnectionsPerAccount ∧
      (s.connections.get c.accountId).elim 0 Dict.size =
        ((s.connections.get c.accountId).getD ∅).size := by
    cases hget : s.connections.get c.accountId with
    | none => exact ⟨by rintro _ _ ⟨⟩, Nat.zero_le _, rfl⟩
    | some m =>
      have hok := h.accounts c.accountId m hget
      exact ⟨hok.keys, hok.bounded, rfl⟩
  obtain ⟨hkeys, hbounded, helim⟩ := hm
  have htotal := h.total
  refine admission_congr (s := { s with connections := (s.store c outbound).connections }) ?_ rfl
  rw [store]
  generalize hmap : (s.connections.get c.accountId).getD ∅ = m at *
  have hsize := size_set m c.deviceId c
  cases hdevice : m.get c.deviceId with
  | none =>
    obtain ⟨haccount, hprocess⟩ := hcapacity hdevice
    rw [hdevice, Option.elim_none] at hsize
    exact admission_set h (accountOk_set hkeys rfl (by omega)) (by omega)
  | some previous =>
    rw [hdevice, Option.elim_some] at hsize
    exact admission_set h (accountOk_set hkeys rfl (by omega)) (by omega)

theorem admission_register (h : Admission s) : Admission (s.register c).2 := by
  rcases register_cases h c with hregister | ⟨previous, outbound, hregister, hcapacity⟩
  · rw [hregister]
    exact h
  · rw [hregister]
    exact admission_store h hcapacity

/-! ### The other operations -/

/-- `remove` does nothing, or takes the device's socket away. -/
theorem remove_cases : (s.isCurrent c = false ∧ s.remove c = (false, s)) ∨
    ∃ m, s.isCurrent c = true ∧ s.connections.get c.accountId = some m ∧
      s.remove c = (true, (s.keepAccount c.accountId (m.del c.deviceId)).popOutbound c.id) := by
  rw [remove, isCurrent, current]
  cases hget : s.connections.get c.accountId with
  | none => exact .inl ⟨rfl, rfl⟩
  | some m =>
    cases hdevice : m.get c.deviceId with
    | none => exact .inl ⟨by simp [hdevice], by simp [hdevice]⟩
    | some current =>
      by_cases hid : current.id = c.id
      · exact .inr ⟨m, by simp [hdevice, hid], rfl, by simp [hdevice, hid]⟩
      · exact .inl ⟨by simp [hdevice, hid], by simp [hdevice, hid]⟩

/-- The section of `heartbeat` does nothing, or gives the device's socket a new time. -/
theorem refresh_cases (s : PresenceMaps) (c : ActiveConnection) (now : Timestamp) :
    (s.isCurrent c = false ∧ s.refresh c now = (none, s)) ∨
    ∃ m current, s.isCurrent c = true ∧ s.connections.get c.accountId = some m ∧
      m.get c.deviceId = some current ∧
      s.refresh c now = (some { current with lastHeartbeatAt := now },
        { s with
          connections := s.connections.set c.accountId
            (m.set c.deviceId { current with lastHeartbeatAt := now }) }) := by
  rw [refresh, isCurrent, current]
  cases hget : s.connections.get c.accountId with
  | none => exact .inl ⟨rfl, rfl⟩
  | some m =>
    cases hdevice : m.get c.deviceId with
    | none => exact .inl ⟨by simp [hdevice], by simp [hdevice]⟩
    | some current =>
      by_cases hid : current.id = c.id
      · exact .inr ⟨m, current, by simp [hdevice, hid], rfl, hdevice, by simp [hdevice, hid]⟩
      · exact .inl ⟨by simp [hdevice, hid], by simp [hdevice, hid]⟩

/-- What an operation other than `register` can do to the sockets: those that stay are the same. -/
structure Keeps (s t : PresenceMaps) : Prop where
  admission : Admission s → Admission t
  current : ∀ account device c, t.current account device = some c →
    ∃ c', s.current account device = some c' ∧ c'.id = c.id

theorem Keeps.trans {u : PresenceMaps} (h : Keeps s t) (h' : Keeps t u) : Keeps s u := by
  refine ⟨fun hs => h'.admission (h.admission hs), fun account device c hcurrent => ?_⟩
  obtain ⟨c', hc', hid'⟩ := h'.current account device c hcurrent
  obtain ⟨c'', hc'', hid''⟩ := h.current account device c' hc'
  exact ⟨c'', hc'', hid''.trans hid'⟩

theorem keeps_of_connections (h : t.connections = s.connections) : Keeps s t := by
  refine ⟨fun hs => admission_congr hs h, fun account device c hcurrent => ⟨c, ?_, rfl⟩⟩
  rwa [PresenceMaps.current, ← h]

theorem keeps_refl : Keeps s s := keeps_of_connections rfl

theorem current_set {connections : Dict Uuid (Dict Uuid ActiveConnection)}
    {outbound : Dict Uuid OutboundQueue} {signaling : SignalingState} {account' device : Uuid} :
    current ⟨connections.set account m, outbound, signaling⟩ account' device =
      if account' = account then m.get device
      else (connections.get account').bind (·.get device) := by
  rw [current]
  by_cases heq : account' = account
  · rw [heq, Dict.get_set, if_pos rfl, Option.bind_some]
  · rw [Dict.get_set_ne heq, if_neg heq]

theorem keeps_delAccount : Keeps s (s.delAccount account) := by
  refine ⟨admission_delAccount, fun account' device c hcurrent => ⟨c, ?_, rfl⟩⟩
  rw [current, delAccount] at hcurrent
  by_cases heq : account' = account
  · rw [heq, Dict.get_del] at hcurrent
    cases hcurrent
  · rwa [Dict.get_del_ne heq] at hcurrent

theorem keeps_keepAccount (hget : s.connections.get account = some m) (hsize : m'.size ≤ m.size)
    (hsub : ∀ device c, m'.get device = some c → m.get device = some c) :
    Keeps s (s.keepAccount account m') := by
  refine ⟨fun hs => admission_keepAccount hs hget hsize hsub, ?_⟩
  intro account' device c hcurrent
  rw [keepAccount] at hcurrent
  split_ifs at hcurrent
  · exact keeps_delAccount.current account' device c hcurrent
  · rw [current_set] at hcurrent
    split_ifs at hcurrent with heq
    · refine ⟨c, ?_, rfl⟩
      rw [heq, current, hget]
      exact hsub device c hcurrent
    · exact ⟨c, hcurrent, rfl⟩

theorem keeps_remove : Keeps s (s.remove c).2 := by
  rcases remove_cases (s := s) (c := c) with ⟨-, hremove⟩ | ⟨m, -, hget, hremove⟩
  · rw [hremove]
    exact keeps_refl
  · rw [hremove]
    exact (keeps_keepAccount hget size_del_le fun _ _ => get_del_sub).trans
      (keeps_of_connections rfl)

theorem keeps_refresh : Keeps s (s.refresh c now).2 := by
  rcases refresh_cases s c now with
    ⟨-, hrefresh⟩ | ⟨m, current, -, hget, hdevice, hrefresh⟩
  · rw [hrefresh]
    exact keeps_refl
  rw [hrefresh]
  constructor
  · intro hs
    have hm := hs.accounts c.accountId m hget
    have hkey := hm.keys c.deviceId current hdevice
    have hsize := size_set m c.deviceId { current with lastHeartbeatAt := now }
    have hbounded := hm.bounded
    have htotal := hs.total
    rw [hdevice, Option.elim_some] at hsize
    refine admission_set hs (accountOk_set hm.keys hkey (by omega)) ?_
    rw [hget, Option.elim_some]
    omega
  · intro account device c' hcurrent
    rw [current_set] at hcurrent
    split_ifs at hcurrent with heq
    · subst heq
      rw [PresenceMaps.current, hget, Option.bind_some]
      by_cases hsame : device = c.deviceId
      · subst hsame
        obtain rfl := Option.some.inj (Dict.get_set.symm.trans hcurrent)
        exact ⟨current, hdevice, rfl⟩
      · rw [Dict.get_set_ne hsame] at hcurrent
        exact ⟨c', hcurrent, rfl⟩
    · exact ⟨c', hcurrent, rfl⟩

theorem keeps_heartbeat {session : SessionLookup} : Keeps s (s.heartbeat c session now) := by
  rw [heartbeat]
  split_ifs
  · exact keeps_refresh
  · exact keeps_remove

theorem keeps_pruneAccount : Keeps s (pruneAccount heartbeatTimeout now s account) := by
  rw [pruneAccount]
  cases hget : s.connections.get account with
  | none => exact keeps_refl
  | some m =>
    refine keeps_keepAccount hget ?_ fun _ _ => get_filter_sub
    rw [Dict.size_eq_total, Dict.size_eq_total]
    exact Dict.total_filter_le

theorem keeps_pruneExpired {account : Option Uuid} :
    Keeps s (s.pruneExpired heartbeatTimeout now account) := by
  rw [pruneExpired]
  generalize account.elim s.connections.keys (fun account => [account]) = accounts
  induction accounts generalizing s with
  | nil => exact keeps_refl
  | cons account accounts ih => exact keeps_pruneAccount.trans ih

theorem keeps_disconnectDevice {device : Uuid} : Keeps s (s.disconnectDevice account device) := by
  rw [disconnectDevice]
  cases hget : s.connections.get account with
  | none => exact keeps_refl
  | some m =>
    dsimp only
    cases m.get device with
    | none => exact keeps_refl
    | some c =>
      exact (keeps_keepAccount hget size_del_le fun _ _ => get_del_sub).trans
        (keeps_of_connections rfl)

theorem updateQueue_connections {id : Uuid} {change : OutboundQueue → OutboundQueue} :
    (s.updateQueue id change).connections = s.connections := by
  rw [updateQueue]
  cases s.outbound.get id <;> rfl

theorem enqueueOutbound_connections {size : ℕ} :
    (s.enqueueOutbound c size).connections = s.connections := by
  rw [enqueueOutbound]
  cases s.outbound.get c.id with
  | none => rfl
  | some queue =>
    dsimp only
    split_ifs
    · rfl
    · exact updateQueue_connections
    · exact updateQueue_connections

theorem keeps_empty : Keeps s empty :=
  ⟨fun _ => admission_empty, by rintro _ _ _ ⟨⟩⟩

/-! ### Counting sockets -/

variable (s) in
/-- All registered sockets. -/
def sockets : List ActiveConnection := s.connections.values.flatMap Dict.values

theorem countP_sockets (p : ActiveConnection → Bool) :
    s.sockets.countP p = s.connections.total fun m => m.values.countP p := by
  rw [sockets, Dict.values, Dict.total]
  induction s.connections.entries with
  | nil => rfl
  | cons e entries ih =>
    rw [List.map_cons, List.flatMap_cons, List.countP_append, ih, List.foldr_cons]

/-- The sockets of an account are in its map. -/
theorem countP_account (h : Admission s) (account : Uuid) {p : ActiveConnection → Bool}
    (hp : ∀ c, p c = true → c.accountId = account) :
    s.sockets.countP p = (s.connections.get account).elim 0 fun m => m.values.countP p := by
  rw [countP_sockets]
  apply Dict.total_eq_get
  intro account' m hget hne
  rw [List.countP_eq_zero]
  intro c hc hpc
  obtain ⟨device, hdevice⟩ := Dict.mem_values.1 hc
  obtain ⟨haccount, -⟩ := Prod.mk.inj ((h.accounts account' m hget).keys device c hdevice)
  exact hne (haccount.symm.trans (hp c hpc))

theorem sockets_of_account_le (h : Admission s) (account : Uuid) :
    s.sockets.countP (fun c => c.accountId = account) ≤ maxConnectionsPerAccount := by
  rw [countP_account h account fun c hc => of_decide_eq_true hc]
  cases hget : s.connections.get account with
  | none => exact Nat.zero_le _
  | some m =>
    have hlength : m.values.length = m.size := List.length_map _
    have hcount :=
      List.countP_le_length (p := fun c => decide (c.accountId = account)) (l := m.values)
    rw [hlength] at hcount
    exact hcount.trans (h.accounts account m hget).bounded

theorem sockets_of_device_le (h : Admission s) (account device : Uuid) :
    s.sockets.countP (fun c => c.key = (account, device)) ≤ 1 := by
  rw [countP_account h account fun c hc => congrArg Prod.fst (of_decide_eq_true hc)]
  cases hget : s.connections.get account with
  | none => exact Nat.zero_le _
  | some m =>
    have hdevice : m.total (fun c => (decide (c.key = (account, device))).toNat) =
        (m.get device).elim 0 fun c => (decide (c.key = (account, device))).toNat := by
      apply Dict.total_eq_get
      intro device' c hc hne
      have hkey := (h.accounts account m hget).keys device' c hc
      rw [decide_eq_false, Bool.toNat_false]
      intro heq
      exact hne (congrArg Prod.snd (hkey.symm.trans heq))
    rw [Option.elim_some, Dict.countP_values, hdevice]
    cases m.get device with
    | none => exact Nat.zero_le _
    | some c => exact Bool.toNat_le _

theorem length_sockets : s.sockets.length = s.activeSocketCount := by
  rw [← List.countP_true, countP_sockets, activeSocketCount]
  congr 1
  funext m
  rw [List.countP_true, Dict.values, List.length_map, Dict.size]

end PresenceMaps

/-! ## Runs -/

namespace PresenceSystem

open PresenceMaps

variable {heartbeatTimeout : Timestamp} {s t : PresenceSystem} {event : SocketEvent}
  {events : List SocketEvent} {c : ActiveConnection}

/-- A step registers a new socket, or keeps those that it does not take away. -/
theorem step_cases (h : s.step heartbeatTimeout event = some t) :
    (∃ c, event = .register c ∧ c.id ∉ s.admitted ∧ t.maps = (s.maps.register c).2 ∧
      t.admitted = c.id :: s.admitted) ∨
    (Keeps s.maps t.maps ∧ t.admitted = s.admitted) := by
  cases event with
  | register c =>
    left
    simp only [step, Option.ite_none_left_eq_some, Option.some.injEq] at h
    obtain ⟨hnew, rfl⟩ := h
    exact ⟨c, rfl, hnew, rfl, rfl⟩
  | recheck place session now =>
    right
    simp only [step] at h
    cases hplace : s.heartbeats[place]? with
    | none =>
      rw [hplace] at h
      cases h
    | some c =>
      rw [hplace] at h
      cases h
      exact ⟨keeps_heartbeat, rfl⟩
  | remove c =>
    cases h
    exact .inr ⟨keeps_remove, rfl⟩
  | heartbeat c =>
    cases h
    exact .inr ⟨keeps_refl, rfl⟩
  | pruneExpired now account =>
    cases h
    exact .inr ⟨keeps_pruneExpired, rfl⟩
  | popOutbound id =>
    cases h
    exact .inr ⟨keeps_of_connections rfl, rfl⟩
  | disconnectDevice account device =>
    cases h
    exact .inr ⟨keeps_disconnectDevice, rfl⟩
  | disconnectAccount account =>
    cases h
    exact .inr ⟨keeps_delAccount, rfl⟩
  | closeAll =>
    cases h
    exact .inr ⟨keeps_empty, rfl⟩
  | enqueueOutbound c size =>
    cases h
    exact .inr ⟨keeps_of_connections enqueueOutbound_connections, rfl⟩
  | changeQueue id change =>
    cases h
    exact .inr ⟨keeps_of_connections updateQueue_connections, rfl⟩
  | signaling event =>
    cases h
    exact .inr ⟨keeps_of_connections rfl, rfl⟩

theorem admission_step (hs : Admission s.maps) (h : s.step heartbeatTimeout event = some t) :
    Admission t.maps := by
  rcases step_cases h with ⟨c, -, -, hmaps, -⟩ | ⟨hkeeps, -⟩
  · rw [hmaps]
    exact admission_register hs
  · exact hkeeps.admission hs

/-- The socket of a device after a step is the one before, or a new one. -/
theorem current_step (hs : Admission s.maps) (h : s.step heartbeatTimeout event = some t)
    {account device : Uuid} (hcurrent : t.maps.current account device = some c) :
    (∃ c', s.maps.current account device = some c' ∧ c'.id = c.id) ∨ c.id ∉ s.admitted := by
  rcases step_cases h with ⟨c', -, hnew, hmaps, -⟩ | ⟨hkeeps, -⟩
  · rw [hmaps] at hcurrent
    rcases register_cases hs c' with hregister | ⟨previous, outbound, hregister, -⟩
    · rw [hregister] at hcurrent
      exact .inl ⟨c, hcurrent, rfl⟩
    · rw [hregister, store, current_set] at hcurrent
      split_ifs at hcurrent with haccount
      · by_cases hdevice : device = c'.deviceId
        · subst hdevice
          obtain rfl := Option.some.inj (Dict.get_set.symm.trans hcurrent)
          exact .inr hnew
        · rw [Dict.get_set_ne hdevice] at hcurrent
          refine .inl ⟨c, ?_, rfl⟩
          rw [haccount, current]
          cases hget : s.maps.connections.get c'.accountId with
          | none =>
            rw [hget] at hcurrent
            cases hcurrent
          | some m =>
            rw [hget] at hcurrent
            exact hcurrent
      · exact .inl ⟨c, hcurrent, rfl⟩
  · exact .inl (hkeeps.current account device c hcurrent)

/-- The socket was registered and is no longer its device's. -/
def Stale (c : ActiveConnection) (s : PresenceSystem) : Prop :=
  c.id ∈ s.admitted ∧ s.maps.isCurrent c = false

theorem stale_step (hs : Admission s.maps) (hstale : Stale c s)
    (h : s.step heartbeatTimeout event = some t) : Stale c t := by
  obtain ⟨hadmitted, hnot⟩ := hstale
  constructor
  · rcases step_cases h with ⟨c', -, -, -, hids⟩ | ⟨-, hids⟩
    · rw [hids]
      exact List.mem_cons_of_mem _ hadmitted
    · rw [hids]
      exact hadmitted
  · rw [isCurrent, Option.any_eq_false] at hnot ⊢
    intro current hcurrent
    apply decide_eq_false
    intro hid
    rcases current_step hs h hcurrent with ⟨c', hc', hid'⟩ | hnew
    · exact of_decide_eq_false (hnot c' hc') (hid'.trans hid)
    · rw [hid] at hnew
      exact hnew hadmitted

theorem remove_of_stale {maps : PresenceMaps} (hnot : maps.isCurrent c = false) :
    maps.remove c = (false, maps) := by
  rcases remove_cases (s := maps) (c := c) with ⟨-, hremove⟩ | ⟨m, hcurrent, -⟩
  · exact hremove
  · rw [hnot] at hcurrent
    cases hcurrent

theorem heartbeat_of_stale {maps : PresenceMaps} (hnot : maps.isCurrent c = false)
    (session : SessionLookup) (now : Timestamp) : maps.heartbeat c session now = maps := by
  rw [heartbeat, remove_of_stale hnot]
  rcases refresh_cases maps c now with ⟨-, hrefresh⟩ | ⟨m, current, hcurrent, -⟩
  · rw [hrefresh, ite_self]
  · rw [hnot] at hcurrent
    cases hcurrent

theorem admission_run (hrun : Run (Step (step heartbeatTimeout)) initial events s) :
    Admission s.maps :=
  hrun.invariant (I := fun s => Admission s.maps) admission_empty fun _ _ _ => admission_step

theorem stale_run (hs : Admission s.maps) (hstale : Stale c s)
    (hrun : Run (Step (step heartbeatTimeout)) s events t) : Stale c t := by
  have h : Admission t.maps ∧ Stale c t := by
    refine hrun.invariant (I := fun s => Admission s.maps ∧ Stale c s) ⟨hs, hstale⟩ ?_
    rintro s event t ⟨hs, hstale⟩ hstep
    exact ⟨admission_step hs hstep, stale_step hs hstale hstep⟩
  exact h.2

/-- In every run, the sockets are within the limits of their account, device and process, no account
has an empty map, a `register` that raises changes no map, and neither a `remove` nor a heartbeat of
a socket that is no longer its device's changes one, then or later. -/
theorem socket_admission (hrun : Run (Step (step heartbeatTimeout)) initial events s) :
    (∀ account, s.maps.sockets.countP (fun c => c.accountId = account) ≤ 8) ∧
    (∀ account device, s.maps.sockets.countP (fun c => c.key = (account, device)) ≤ 1) ∧
    s.maps.sockets.length ≤ 512 ∧
    (∀ account, s.maps.connections.get account ≠ some ∅) ∧
    (∀ c error, (s.maps.register c).1 = .error error → (s.maps.register c).2 = s.maps) ∧
    ∀ c, Stale c s → ∀ later t, Run (Step (step heartbeatTimeout)) s later t →
      t.maps.isCurrent c = false ∧ t.maps.remove c = (false, t.maps) ∧
        ∀ session now, t.maps.heartbeat c session now = t.maps := by
  have hs := admission_run hrun
  refine ⟨sockets_of_account_le hs, sockets_of_device_le hs, ?_, ?_, ?_, ?_⟩
  · rw [length_sockets]
    exact hs.total
  · intro account hget
    exact (hs.accounts account ∅ hget).nonempty Dict.size_empty
  · intro c error hraise
    rcases register_cases hs c with hregister | ⟨previous, outbound, hregister, -⟩
    · rw [hregister]
    · rw [hregister] at hraise
      cases hraise
  · intro c hstale later t hlater
    have hnot := (stale_run hs hstale hlater).2
    exact ⟨hnot, remove_of_stale hnot, heartbeat_of_stale hnot⟩

/-- A device comes back with a second socket; the first is stale, and its pending
heartbeat finds no session. -/
theorem socket_admission_replaced :
    let first : ActiveConnection := ⟨⟨8⟩, ⟨1⟩, ⟨2⟩, 0⟩
    let second : ActiveConnection := ⟨⟨9⟩, ⟨1⟩, ⟨2⟩, 1⟩
    let s := (exec (step 45000000) initial
      [.register first, .heartbeat first, .register second]).getD initial
    s.maps.sockets = [second] ∧ Stale first s ∧
      s.maps.heartbeat first (.found none) 2 = s.maps := by
  intro first second s
  have hexec : exec (step 45000000) initial
      [.register first, .heartbeat first, .register second] = some s := rfl
  have hstale : Stale first s := ⟨by decide, by decide⟩
  refine ⟨by decide, hstale, ?_⟩
  obtain ⟨-, -, -, -, -, hquiet⟩ := socket_admission (Run.of_exec hexec)
  exact (hquiet first hstale [] s (.nil s)).2.2 (.found none) 2

end PresenceSystem

end SelfRelay.Backend
