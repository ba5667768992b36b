import SelfRelay.Lib.Run
import Mathlib.Data.Nat.Notation
import Mathlib.Logic.Function.Basic

/-!
# The presence client

`PresenceSocketClient` keeps one socket to the presence service open.  An attempt to connect asks
for a ticket, creates a socket with it and waits until the socket opens; `openingPromise` is the
promise of the attempt under way.  A failed attempt and a closed socket schedule the next one with
`reconnectTimer`.

A step of the client is one event with everything it sets off before the next one: the handlers that
it calls, and then the continuations of the promises that these settle.
-/

namespace SelfRelay

open StepSystem

inductive PresenceClientStatus where
  | idle
  | connecting
  | online
  | reconnecting
  | offline
  | failed
  deriving DecidableEq, Repr

/-- The `readyState` of a socket. -/
inductive SocketState where
  | connecting
  | opened
  | closing
  | closed
  deriving DecidableEq, Repr

/-- `close` of a socket that is open or connecting. -/
def SocketState.shut : SocketState → SocketState
  | .connecting | .opened => .closing
  | state => state

/-- A socket that the client created, and whether the client's handlers are still attached to it. -/
structure PresenceSocket where
  readyState : SocketState
  listening : Bool
  deriving DecidableEq, Repr

/-- What the attempt under way awaits: its ticket, or that its socket opens. -/
inductive Opening where
  | ticket
  | socket (i : ℕ)
  deriving DecidableEq, Repr

/-- The fields of a client.  Its sockets are numbered in the order of their creation. -/
structure PresenceSocketClient where
  maxReconnectAttempts : ℕ
  socket : Option ℕ
  reconnectTimer : Bool
  openingPromise : Option Opening
  running : Bool
  hasConnected : Bool
  reconnectAttempts : ℕ
  currentStatus : PresenceClientStatus
  created : ℕ
  sockets : ℕ → PresenceSocket

inductive PresenceEvent where
  | start
  | connect
  | stop
  | ticketIssued
  | ticketFailed
  | opened (i : ℕ)
  | closing (i : ℕ)
  | error (i : ℕ)
  | closed (i : ℕ)
  | timeout
  deriving DecidableEq, Repr

namespace PresenceSocketClient

def initial (maxReconnectAttempts : ℕ) : PresenceSocketClient where
  maxReconnectAttempts := maxReconnectAttempts
  socket := none
  reconnectTimer := false
  openingPromise := none
  running := false
  hasConnected := false
  reconnectAttempts := 0
  currentStatus := .idle
  created := 0
  sockets _ := ⟨.closed, false⟩

variable (s : PresenceSocketClient)

def setStatus (status : PresenceClientStatus) : PresenceSocketClient :=
  { s with currentStatus := status }

def setSocket (i : ℕ) (socket : PresenceSocket) : PresenceSocketClient :=
  { s with sockets := Function.update s.sockets i socket }

/-- The `readyState` of the client's socket. -/
def socketState : Option SocketState := s.socket.map fun i => (s.sockets i).readyState

/-- The part of `openSocket` before its first `await`. -/
def openSocket : PresenceSocketClient :=
  if s.running then { s with openingPromise := some .ticket } else s

def run : PresenceSocketClient :=
  { s with running := true }.setStatus (if s.hasConnected then .reconnecting else .connecting)

def connect : PresenceSocketClient :=
  let s := if s.running then s else s.run
  if s.socketState = some .opened then s
  else if s.openingPromise.isSome then s
  else s.openSocket

def start : PresenceSocketClient := if s.running then s else s.run.connect

def stop : PresenceSocketClient :=
  let s := { s with running := false, reconnectTimer := false, reconnectAttempts := 0 }
  let s := match s.socket with
    | none => s
    | some i => { s with socket := none }.setSocket i ⟨(s.sockets i).readyState.shut, false⟩
  s.setStatus .idle

def scheduleReconnect : PresenceSocketClient :=
  if !s.running || s.reconnectTimer then s else { s with reconnectTimer := true }

def handleSocketClosed (i : ℕ) : PresenceSocketClient :=
  if s.socket ≠ some i then s
  else
    let s := { s with socket := none }
    if s.running then (s.setStatus .reconnecting).scheduleReconnect else s

/-- `this.socket = null` where it is the socket of the attempt. -/
def dropSocket (i : ℕ) : PresenceSocketClient :=
  if s.socket = some i then { s with socket := none } else s

/-- An attempt has failed: the `catch` block of `openSocket` after the socket is dropped, and the
`finally` handler of `connect`. -/
def openFailed : PresenceSocketClient :=
  let s :=
    if s.running then
      let s := { s with reconnectAttempts := s.reconnectAttempts + 1 }
      if s.reconnectAttempts ≤ s.maxReconnectAttempts then (s.setStatus .offline).scheduleReconnect
      else s.setStatus .failed
    else s
  { s with openingPromise := none }

/-- The ticket is there: `openSocket` creates a socket and awaits it. -/
def ticketIssued : PresenceSocketClient :=
  if s.running then
    { s with
      socket := some s.created
      openingPromise := some (.socket s.created)
      created := s.created + 1 }.setSocket s.created ⟨.connecting, true⟩
  else { s with openingPromise := none }

/-- The open handler, and the end of the attempt. -/
def socketOpened (i : ℕ) : PresenceSocketClient :=
  let listening := (s.sockets i).listening
  let s := s.setSocket i ⟨.opened, listening⟩
  if listening then
    { s with hasConnected := true, reconnectAttempts := 0, openingPromise := none
      }.setStatus .online
  else s

/-- An open socket begins to close, as the server asked for.  Its close event is still to come. -/
def socketClosing (i : ℕ) : PresenceSocketClient :=
  s.setSocket i ⟨.closing, (s.sockets i).listening⟩

/-- A connection fails: the error event of the socket, and the close event that follows it in the
same task.  The promise of a connecting socket is rejected by the first, and its `catch` block runs
between the two. -/
def socketError (i : ℕ) : PresenceSocketClient :=
  let socket := s.sockets i
  let s := s.setSocket i ⟨.closed, socket.listening⟩
  if socket.listening then
    let s := if socket.readyState = .connecting then (s.dropSocket i).openFailed else s
    s.handleSocketClosed i
  else s

/-- A close event alone.  It rejects the promise of a connecting socket, whose `catch` block runs
after the handler. -/
def socketClosed (i : ℕ) : PresenceSocketClient :=
  let socket := s.sockets i
  let s := s.setSocket i ⟨.closed, socket.listening⟩
  if socket.listening then
    let s := s.handleSocketClosed i
    if socket.readyState = .connecting then (s.dropSocket i).openFailed else s
  else s

/-- The reconnect timer fires. -/
def timeout : PresenceSocketClient := { s with reconnectTimer := false }.connect

/-- What an event does, where it can happen: a ticket answers a request, a connecting socket opens,
an open socket begins to close, and a socket that is not closed fails or closes. -/
def step : PresenceEvent → Option PresenceSocketClient
  | .start => some s.start
  | .connect => some s.connect
  | .stop => some s.stop
  | .ticketIssued => if s.openingPromise = some .ticket then some s.ticketIssued else none
  | .ticketFailed => if s.openingPromise = some .ticket then some s.openFailed else none
  | .opened i => if (s.sockets i).readyState = .connecting then some (s.socketOpened i) else none
  | .closing i => if (s.sockets i).readyState = .opened then some (s.socketClosing i) else none
  | .error i => if (s.sockets i).readyState ≠ .closed then some (s.socketError i) else none
  | .closed i => if (s.sockets i).readyState ≠ .closed then some (s.socketClosed i) else none
  | .timeout => if s.reconnectTimer then some s.timeout else none

end PresenceSocketClient

end SelfRelay
