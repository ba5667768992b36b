import SelfRelay.Lib.Run
import SelfRelay.Transfer.Engine

/-!
# Waiting for the capacity of a data channel

`waitForDataChannelCapacity` on one channel, for calls that overlap.  A wait puts its handlers in
front of those it finds, which its closures keep, and takes them away when it settles, if they are
still in front.

A step is one task: a call, a change of the channel, or an event.  The handlers that were there
before belong to other code; an event says whether they throw, and they leave the handlers of the
channel alone.
-/

namespace SelfRelay

/-! ## Handlers -/

/-- A handler of the channel: what was there before, if anything, or that of a wait, with the
handler that the wait found. -/
inductive ChannelHandler (H : Type) where
  | before (handler : Option H)
  | ofWait (id : ℕ) (previous : ChannelHandler H)
  deriving DecidableEq, Repr

namespace ChannelHandler

variable {H : Type}

/-- What `cleanup` of a wait makes of a handler. -/
def cleanup (id : ℕ) : ChannelHandler H → ChannelHandler H
  | .before handler => .before handler
  | .ofWait i previous => if i = id then previous else .ofWait i previous

/-- The handler that was there before the waits. -/
def original : ChannelHandler H → Option H
  | .before handler => handler
  | .ofWait _ previous => previous.original

end ChannelHandler

/-- The handlers that a channel has before the first call. -/
structure OriginalHandlers (H : Type) where
  onbufferedamountlow : Option H
  onclose : Option H
  onerror : Option H
  deriving DecidableEq, Repr

/-- The handlers of a channel that a wait replaces. -/
structure ChannelHandlers (H : Type) where
  onbufferedamountlow : ChannelHandler H
  onclose : ChannelHandler H
  onerror : ChannelHandler H
  deriving DecidableEq, Repr

def ChannelHandlers.map {H : Type} (f : ChannelHandler H → ChannelHandler H)
    (handlers : ChannelHandlers H) :
    ChannelHandlers H :=
  ⟨f handlers.onbufferedamountlow, f handlers.onclose, f handlers.onerror⟩

/-! ## The channel -/

/-- A wait that has not settled. -/
structure CapacityWait where
  id : ℕ
  lowWaterMark : ℤ
  deriving DecidableEq, Repr

structure WaitingChannel (H : Type) where
  readyState : ReadyState
  bufferedAmount : ℕ
  bufferedAmountLowThreshold : Option ℤ
  handlers : ChannelHandlers H
  /-- The waits that have not settled, the newest first. -/
  pending : List CapacityWait
  /-- The outcomes of the others. -/
  settled : List (ℕ × Checked Unit)
  nextId : ℕ
  /-- The calls so far of the handlers that were there before. -/
  called : List H

def channelFailed : ProtocolError := protocolError "The data channel failed." "channel_failed"

namespace WaitingChannel

open Engine (channelClosed)

variable {H : Type}

/-- `finish` of a wait. -/
def finish (id : ℕ) (outcome : Checked Unit) (c : WaitingChannel H) : WaitingChannel H :=
  if ∃ w ∈ c.pending, w.id = id then
    { c with
      handlers := c.handlers.map (.cleanup id)
      pending := c.pending.filter fun w => w.id ≠ id
      settled := c.settled ++ [(id, outcome)] }
  else c

/-- `check` of a wait. -/
def check (id : ℕ) (c : WaitingChannel H) : WaitingChannel H :=
  if ∃ w ∈ c.pending, w.id = id ∧ c.bufferedAmount ≤ w.lowWaterMark then c.finish id (.ok ()) else c

/-- Call a handler: `previous` comes first, and then what the wait itself does.  The flag says that
no exception was thrown. -/
def call (own : ℕ → WaitingChannel H → WaitingChannel H) (throws : Bool) :
    ChannelHandler H → WaitingChannel H → WaitingChannel H × Bool
  | .before none, c => (c, true)
  | .before (some handler), c => ({ c with called := c.called ++ [handler] }, !throws)
  | .ofWait id previous, c =>
    let called := call own throws previous c
    if called.2 then (own id called.1, true) else called

/-- `onLow` -/
def callLow (throws : Bool) (c : WaitingChannel H) : WaitingChannel H :=
  (call check throws c.handlers.onbufferedamountlow c).1

/-- `onClose` -/
def callClose (throws : Bool) (c : WaitingChannel H) : WaitingChannel H :=
  (call (finish · (.error channelClosed)) throws c.handlers.onclose c).1

/-- `onError` -/
def callError (throws : Bool) (c : WaitingChannel H) : WaitingChannel H :=
  (call (finish · (.error channelFailed)) throws c.handlers.onerror c).1

/-- The promise of a call that settles at once. -/
def settle (outcome : Checked Unit) (c : WaitingChannel H) : WaitingChannel H :=
  { c with settled := c.settled ++ [(c.nextId, outcome)], nextId := c.nextId + 1 }

/-- The handlers of a new wait, in front of the others. -/
def install (lowWaterMark : ℤ) (c : WaitingChannel H) : WaitingChannel H :=
  { c with
    bufferedAmountLowThreshold := c.bufferedAmountLowThreshold.map fun _ => lowWaterMark
    handlers := c.handlers.map (.ofWait c.nextId)
    pending := ⟨c.nextId, lowWaterMark⟩ :: c.pending
    nextId := c.nextId + 1 }

/-- `waitForDataChannelCapacity` -/
def waitForDataChannelCapacity (highWaterMark lowWaterMark : ℤ) (c : WaitingChannel H) :
    Checked (WaitingChannel H) := do
  validateWatermarks highWaterMark lowWaterMark
  if c.readyState = .closed ∨ c.readyState = .closing then return c.settle (.error channelClosed)
  else if c.bufferedAmount < highWaterMark then return c.settle (.ok ())
  else return (c.install lowWaterMark).check c.nextId

/-! ## Steps -/

inductive ChannelEvent where
  | wait (highWaterMark lowWaterMark : ℤ)
  /-- `readyState` or `bufferedAmount` changes. -/
  | readyState (state : ReadyState)
  | bufferedAmount (amount : ℕ)
  | bufferedamountlow (throws : Bool)
  | close (throws : Bool)
  | error (throws : Bool)
  deriving DecidableEq, Repr

def step (c : WaitingChannel H) : ChannelEvent → WaitingChannel H
  | .wait highWaterMark lowWaterMark =>
    match c.waitForDataChannelCapacity highWaterMark lowWaterMark with
    | .ok c => c
    -- thrown to the caller, before there is a promise
    | .error _ => c
  | .readyState state => { c with readyState := state }
  | .bufferedAmount amount => { c with bufferedAmount := amount }
  | .bufferedamountlow throws => c.callLow throws
  | .close throws => { c with readyState := .closed }.callClose throws
  | .error throws => c.callError throws

/-- A channel before the first call. -/
def initial (readyState : ReadyState) (bufferedAmount : ℕ) (threshold : Option ℤ)
    (original : OriginalHandlers H) : WaitingChannel H where
  readyState := readyState
  bufferedAmount := bufferedAmount
  bufferedAmountLowThreshold := threshold
  handlers :=
    ⟨.before original.onbufferedamountlow, .before original.onclose, .before original.onerror⟩
  pending := []
  settled := []
  nextId := 0
  called := []

end WaitingChannel

end SelfRelay
