import Mathlib
import SelfRelay.Backend.Presence
import SelfRelay.Lib.Run

/-!
# The outbound queue of one socket

The queue of a registered socket, its writer task `_drain_outbound` at every place where it can
wait, and the calls that race with it: `_enqueue_outbound`, the removal of the socket from the maps,
and `_stop_outbound`, which empties the queue without the lock and cancels the writer.  `accepted`
and `written` record what the calls returned and what the writer sent.
-/

open StepSystem

namespace SelfRelay.Backend

/-- Where the writer waits. -/
inductive WriterPlace (α : Type) where
  /-- In `queue.get()`. -/
  | waiting
  /-- It has taken the payload out of the queue and waits for the lock. -/
  | dequeued (payload : α)
  | sending (payload : α)
  /-- The payload was sent; it waits for the lock. -/
  | sent
  /-- The send failed; `_fail_outbound` waits for the lock. -/
  | failing
  /-- `_drop` waits for the lock, to remove the socket. -/
  | dropping
  /-- It closes the socket. -/
  | leaving
  | ended
  deriving DecidableEq, Repr

/-- The payload that is neither in the queue nor accounted. -/
def WriterPlace.unaccounted {α : Type} : WriterPlace α → List α
  | dequeued payload => [payload]
  | _ => []

def WriterPlace.hasEnded {α : Type} : WriterPlace α → Bool
  | ended => true
  | _ => false

/-- An `_OutboundQueue` with its writer. -/
structure OutboundSocket (α : Type) where
  queue : List α
  queuedBytes : ℕ
  failed : Bool
  inFlight : ℤ
  /-- The socket is its device's, and its queue is in `_outbound`. -/
  registered : Bool
  writer : WriterPlace α
  /-- `cancel()` was called on the writer. -/
  cancelled : Bool
  /-- The payloads for which `_enqueue_outbound` returned `True`. -/
  accepted : List α
  /-- The payloads that the writer passed to `send_json`. -/
  written : List α
  deriving DecidableEq, Repr

inductive OutboundEvent (α : Type) where
  | enqueue (payload : α)
  /-- `queue.get()` returns. -/
  | get
  /-- The writer accounts for its payload and sends it. -/
  | send
  | sendReturns
  /-- The send times out or raises. -/
  | sendFails
  /-- The section after a send. -/
  | afterSend
  /-- The section of `_fail_outbound`. -/
  | fail
  /-- The writer removes its own socket. -/
  | drop
  | leave
  /-- The socket is removed from the maps by another task. -/
  | unregister
  /-- `_stop_outbound` by another task, up to its await. -/
  | stop
  /-- The cancellation reaches the writer. -/
  | interrupt

namespace OutboundSocket

variable {α : Type} (size : α → ℕ)

/-- The queue that `register` creates. -/
def initial : OutboundSocket α := ⟨[], 0, false, 0, true, .waiting, false, [], []⟩

/-- `_enqueue_outbound`, with what it returns. -/
def enqueueOutbound (s : OutboundSocket α) (payload : α) : Bool × OutboundSocket α :=
  if !s.registered || s.failed then (false, s)
  else if maxWebsocketQueueMessages ≤ s.queue.length ||
      maxWebsocketQueueBytes < s.queuedBytes + size payload then
    (false, { s with failed := true })
  else
    (true, { s with
      queue := s.queue ++ [payload]
      queuedBytes := s.queuedBytes + size payload
      accepted := s.accepted ++ [payload] })

/-- What `_stop_outbound` does to the queue. -/
def emptied (s : OutboundSocket α) : OutboundSocket α :=
  { s with failed := true, queuedBytes := 0, queue := [] }

/-- One step of a task between two awaits. -/
def step (s : OutboundSocket α) : OutboundEvent α → Option (OutboundSocket α)
  | .enqueue payload => some (s.enqueueOutbound size payload).2
  | .get =>
    match s.cancelled, s.writer, s.queue with
    | false, .waiting, payload :: queue =>
      some { s with queue, writer := .dequeued payload }
    | _, _, _ => none
  | .send =>
    match s.cancelled, s.writer with
    | false, .dequeued payload =>
      some { s with
        queuedBytes := s.queuedBytes - size payload
        inFlight := s.inFlight + 1
        writer := .sending payload
        written := s.written ++ [payload] }
    | _, _ => none
  | .sendReturns =>
    match s.cancelled, s.writer with
    | false, .sending _ => some { s with writer := .sent }
    | _, _ => none
  | .sendFails =>
    match s.cancelled, s.writer with
    | false, .sending _ => some { s with writer := .failing }
    | _, _ => none
  | .afterSend =>
    match s.cancelled, s.writer with
    | false, .sent => some { s with inFlight := s.inFlight - 1, writer := .waiting }
    | _, _ => none
  | .fail =>
    match s.cancelled, s.writer with
    | false, .failing =>
      some { s with failed := true, inFlight := s.inFlight - 1, writer := .dropping }
    | _, _ => none
  | .drop =>
    match s.cancelled, s.writer with
    | false, .dropping =>
      -- a writer that stops its own queue does not cancel itself
      if s.registered then some { s.emptied with registered := false, writer := .leaving }
      else some { s with writer := .leaving }
    | _, _ => none
  | .leave =>
    match s.cancelled, s.writer with
    | false, .leaving => some { s with writer := .ended }
    | _, _ => none
  | .unregister => some { s with registered := false }
  | .stop => some { s.emptied with cancelled := !s.writer.hasEnded }
  | .interrupt =>
    match s.cancelled, s.writer with
    | true, .sending _ => some { s with failed := true, cancelled := false, writer := .ended }
    | true, _ => some { s with cancelled := false, writer := .ended }
    | false, _ => none

/-! ## The invariant -/

variable (s : OutboundSocket α)

/-- What the writer has still to send. -/
def remaining : List α := s.writer.unaccounted ++ s.queue

/-- The bytes of what the writer has still to send. -/
def remainingBytes : ℕ := (s.queue.map size).sum + (s.writer.unaccounted.map size).sum

structure QueueOk : Prop where
  written : s.written <+: s.accepted
  order : s.writer.hasEnded = false → s.written ++ s.remaining <+: s.accepted
  length : s.queue.length ≤ maxWebsocketQueueMessages
  bytes : s.failed = false →
    s.queuedBytes = s.remainingBytes size ∧ s.queuedBytes ≤ maxWebsocketQueueBytes
  complete : s.failed = false → s.written ++ s.remaining = s.accepted
  /-- Only `_stop_outbound` cancels the writer. -/
  cancelled : s.cancelled = true → s.failed = true

variable {size} {s s' : OutboundSocket α} {event : OutboundEvent α}

theorem queueOk_initial : QueueOk size (initial : OutboundSocket α) :=
  ⟨List.prefix_rfl, fun _ => List.prefix_rfl, Nat.zero_le _, fun _ => ⟨rfl, Nat.zero_le _⟩,
    fun _ => rfl, by rintro ⟨⟩⟩

theorem queueOk_enqueue (h : QueueOk size s) (payload : α) :
    QueueOk size (s.enqueueOutbound size payload).2 := by
  rw [enqueueOutbound]
  split_ifs with hclosed hfull
  · exact h
  · exact ⟨h.written, h.order, h.length, by rintro ⟨⟩, by rintro ⟨⟩, fun _ => rfl⟩
  · simp only [Bool.or_eq_true, Bool.not_eq_true', decide_eq_true_eq, not_or, Nat.not_le,
      Nat.not_lt, Bool.not_eq_false, Bool.not_eq_true] at hclosed hfull
    obtain ⟨-, hfailed⟩ := hclosed
    obtain ⟨hlength, hbytes⟩ := hfull
    have hcomplete := h.complete hfailed
    have hsum := (h.bytes hfailed).1
    have hlast : s.written ++ (s.writer.unaccounted ++ (s.queue ++ [payload])) =
        s.accepted ++ [payload] := by
      rw [← hcomplete, remaining]
      simp only [List.append_assoc]
    refine ⟨?_, ?_, ?_, ?_, ?_, h.cancelled⟩
    · exact h.written.trans (List.prefix_append _ _)
    · intro _
      exact hlast ▸ List.prefix_rfl
    · rw [List.length_append, List.length_singleton]
      exact hlength
    · intro _
      refine ⟨?_, hbytes⟩
      simp only [remainingBytes, List.map_append, List.sum_append, List.map_singleton,
        List.sum_singleton] at hsum ⊢
      omega
    · intro _
      exact hlast

/-- `_stop_outbound` -/
theorem queueOk_emptied (h : QueueOk size s) : QueueOk size s.emptied := by
  refine ⟨h.written, ?_, Nat.zero_le _, by rintro ⟨⟩, by rintro ⟨⟩, fun _ => rfl⟩
  intro hended
  have horder := h.order hended
  rw [remaining] at horder
  refine List.IsPrefix.trans ?_ horder
  show s.written ++ (s.writer.unaccounted ++ []) <+: s.written ++ (s.writer.unaccounted ++ s.queue)
  rw [List.prefix_append_right_inj, List.prefix_append_right_inj]
  exact List.nil_prefix

/-- The writer goes to a place where it has no payload. -/
theorem QueueOk.move {writer : WriterPlace α} (h : QueueOk size s) (inFlight : ℤ)
    (hfrom : s.writer.unaccounted = []) (hto : writer.unaccounted = [])
    (hended : s.writer.hasEnded = false) : QueueOk size { s with writer, inFlight } := by
  have hremaining : remaining { s with writer, inFlight } = s.remaining := by
    rw [remaining, remaining, hfrom, hto]
  refine ⟨h.written, ?_, h.length, ?_, ?_, h.cancelled⟩
  · intro _
    rw [hremaining]
    exact h.order hended
  · intro hfailed
    refine ⟨(h.bytes hfailed).1.trans ?_, (h.bytes hfailed).2⟩
    rw [remainingBytes, remainingBytes, hfrom, hto]
  · intro hfailed
    rw [hremaining]
    exact h.complete hfailed

/-- The writer of a queue that has failed ends; the payload that it held is lost. -/
theorem QueueOk.halt (h : QueueOk size s) (hfailed : s.failed = true) :
    QueueOk size { s with cancelled := false, writer := .ended } := by
  refine ⟨h.written, by rintro ⟨⟩, h.length, ?_, ?_, by rintro ⟨⟩⟩
  · intro hnot
    rw [hfailed] at hnot
    cases hnot
  · intro hnot
    rw [hfailed] at hnot
    cases hnot

theorem queueOk_get {payload : α} {queue : List α} (h : QueueOk size s)
    (hwriter : s.writer = .waiting)
    (hqueue : s.queue = payload :: queue) :
    QueueOk size { s with queue, writer := .dequeued payload } := by
  have hremaining : s.remaining = payload :: queue := by
    rw [remaining, hwriter, hqueue]
    rfl
  have hbytes : s.remainingBytes size = (queue.map size).sum + size payload := by
    rw [remainingBytes, hwriter, hqueue, List.map_cons, List.sum_cons]
    exact (Nat.add_zero _).trans (Nat.add_comm _ _)
  refine ⟨h.written, ?_, ?_, ?_, ?_, h.cancelled⟩
  · intro _
    have horder := h.order (by rw [hwriter]; rfl)
    rw [hremaining] at horder
    exact horder
  · have hlength := h.length
    rw [hqueue, List.length_cons] at hlength
    exact Nat.le_of_succ_le hlength
  · intro hfailed
    obtain ⟨hsum, hle⟩ := h.bytes hfailed
    rw [hbytes] at hsum
    exact ⟨hsum, hle⟩
  · intro hfailed
    have hcomplete := h.complete hfailed
    rw [hremaining] at hcomplete
    exact hcomplete

theorem queueOk_send {payload : α} (h : QueueOk size s) (hwriter : s.writer = .dequeued payload) :
    QueueOk size { s with
      queuedBytes := s.queuedBytes - size payload
      inFlight := s.inFlight + 1
      writer := .sending payload
      written := s.written ++ [payload] } := by
  have hremaining : s.written ++ s.remaining = s.written ++ [payload] ++ s.queue := by
    rw [remaining, hwriter, List.append_assoc]
    rfl
  have horder := h.order (by rw [hwriter]; rfl)
  rw [hremaining] at horder
  refine ⟨?_, ?_, h.length, ?_, ?_, h.cancelled⟩
  · exact (List.prefix_append _ _).trans horder
  · intro _
    exact horder
  · intro hfailed
    obtain ⟨hsum, hle⟩ := h.bytes hfailed
    rw [remainingBytes, hwriter] at hsum
    refine ⟨?_, Nat.le_trans (Nat.sub_le _ _) hle⟩
    show s.queuedBytes - size payload = (s.queue.map size).sum + 0
    simp only [WriterPlace.unaccounted, List.map_singleton, List.sum_singleton] at hsum
    omega
  · intro hfailed
    have hcomplete := h.complete hfailed
    rw [hremaining] at hcomplete
    exact hcomplete

theorem QueueOk.fail (h : QueueOk size s) : QueueOk size { s with failed := true } :=
  ⟨h.written, h.order, h.length, by rintro ⟨⟩, by rintro ⟨⟩, fun _ => rfl⟩

theorem QueueOk.unregister (h : QueueOk size s) : QueueOk size { s with registered := false } :=
  ⟨h.written, h.order, h.length, h.bytes, h.complete, h.cancelled⟩

theorem queueOk_step (h : QueueOk size s) (hstep : s.step size event = some s') :
    QueueOk size s' := by
  cases event with
  | enqueue payload =>
    cases hstep
    exact queueOk_enqueue h payload
  | get =>
    simp only [step] at hstep
    split at hstep
    case h_1 payload queue _ hwriter hqueue =>
      cases hstep
      exact queueOk_get h hwriter hqueue
    case h_2 => cases hstep
  | send =>
    simp only [step] at hstep
    split at hstep
    case h_1 payload _ hwriter =>
      cases hstep
      exact queueOk_send h hwriter
    case h_2 => cases hstep
  | sendReturns =>
    simp only [step] at hstep
    split at hstep
    case h_1 hwriter =>
      cases hstep
      exact h.move s.inFlight (by rw [hwriter]; rfl) rfl (by rw [hwriter]; rfl)
    case h_2 => cases hstep
  | sendFails =>
    simp only [step] at hstep
    split at hstep
    case h_1 hwriter =>
      cases hstep
      exact h.move s.inFlight (by rw [hwriter]; rfl) rfl (by rw [hwriter]; rfl)
    case h_2 => cases hstep
  | afterSend =>
    simp only [step] at hstep
    split at hstep
    case h_1 hwriter =>
      cases hstep
      exact h.move _ (by rw [hwriter]; rfl) rfl (by rw [hwriter]; rfl)
    case h_2 => cases hstep
  | fail =>
    simp only [step] at hstep
    split at hstep
    case h_1 hwriter =>
      cases hstep
      exact h.fail.move _ (by rw [hwriter]; rfl) rfl (by rw [hwriter]; rfl)
    case h_2 => cases hstep
  | drop =>
    simp only [step] at hstep
    split at hstep
    case h_1 hwriter =>
      have hfrom : s.writer.unaccounted = [] ∧ s.writer.hasEnded = false := by
        rw [hwriter]
        exact ⟨rfl, rfl⟩
      split_ifs at hstep
      · cases hstep
        have hmoved : QueueOk size { s.emptied with writer := .leaving } :=
          (queueOk_emptied h).move s.inFlight hfrom.1 rfl hfrom.2
        exact hmoved.unregister
      · cases hstep
        exact h.move s.inFlight hfrom.1 rfl hfrom.2
    case h_2 => cases hstep
  | leave =>
    simp only [step] at hstep
    split at hstep
    case h_1 hwriter =>
      cases hstep
      exact h.move s.inFlight (by rw [hwriter]; rfl) rfl (by rw [hwriter]; rfl)
    case h_2 => cases hstep
  | unregister =>
    cases hstep
    exact h.unregister
  | stop =>
    cases hstep
    obtain ⟨hwritten, horder, hlength, hbytes, hcomplete, -⟩ := queueOk_emptied h
    exact ⟨hwritten, horder, hlength, hbytes, hcomplete, fun _ => rfl⟩
  | interrupt =>
    simp only [step] at hstep
    split at hstep
    case h_1 =>
      cases hstep
      exact h.fail.halt rfl
    case h_2 hcancelled _ =>
      cases hstep
      exact h.halt (h.cancelled hcancelled)
    case h_3 => cases hstep

/-- What the writer sends is a prefix of what was accepted; the queue stays within 32 payloads; and
its bytes are accounted until it fails. -/
theorem outbound_in_order {events : List (OutboundEvent α)}
    (hrun : Run (Step (step size)) initial events s) :
    s.written <+: s.accepted ∧ s.queue.length ≤ 32 ∧
      (s.failed = false →
        s.queuedBytes = (s.queue.map size).sum + (s.writer.unaccounted.map size).sum ∧
          s.writer.unaccounted.length ≤ 1 ∧ s.queuedBytes ≤ 256 * 1024) := by
  have h : QueueOk size s :=
    hrun.invariant queueOk_initial fun _ _ _ hs hstep => queueOk_step hs hstep
  refine ⟨h.written, h.length, fun hfailed => ?_⟩
  obtain ⟨hsum, hle⟩ := h.bytes hfailed
  refine ⟨hsum, ?_, hle⟩
  cases s.writer <;> simp [WriterPlace.unaccounted]

/-- The socket is stopped while the writer holds the second payload. -/
theorem outbound_in_order_stopped :
    let events : List (OutboundEvent ℕ) :=
      [.enqueue 7, .enqueue 8, .enqueue 9, .get, .send, .sendReturns, .afterSend, .get, .unregister,
        .stop, .enqueue 10, .interrupt]
    let s := (exec (step id) initial events).getD initial
    s.written = [7] ∧ s.accepted = [7, 8, 9] ∧ s.written <+: s.accepted := by
  intro events s
  have hexec : exec (step id) initial events = some s := rfl
  exact ⟨by decide, by decide, (outbound_in_order (Run.of_exec hexec)).1⟩

end OutboundSocket

end SelfRelay.Backend
