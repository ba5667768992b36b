import SelfRelay.Transfer.Outbox

/-!
# Failure reports

`fail` means to tell the peer: it asks `sendTerminalFrame` for an `error` frame when the stream is
confirmed and the channel is open.  But it sets the state to `failed` first, and on an engine that
is over `sendTerminalFrame` returns at once (`fail_eq`).  So no call ever reports an error
(`Silent`), and no `error` frame is ever passed to `channel.send`.
-/

namespace SelfRelay

open StepSystem

/-- A call of `sendTerminalFrame` for an `error` frame. -/
def Thread.reports : Thread → Bool
  | terminating type _ _ _ => type = .error
  | opening _ | starting _ | accepting _ | sendFile .. | finished => false

/-- The frame is an `error` frame. -/
def IsErrorFrame (frame : Bytes) : Prop :=
  ∃ header ciphertext, splitFrame frame = .ok (header, ciphertext) ∧ header.type = .error

namespace Outbox

/-- No call is on its way to send an `error` frame, and none was sent. -/
structure Silent (o : Outbox) : Prop where
  calls : ∀ s ∈ o.calls, ∀ call ∈ s.live, call.WellFormed ∧ call.header.type ≠ .error
  seals : ∀ s ∈ o.calls, ∀ call ∈ s.live, ∀ frame ∈ s.frame, call.Seals frame
  sent : ∀ frame ∈ o.sent, ¬ IsErrorFrame frame

theorem silent_of_empty {o : Outbox} (hcalls : o.calls = []) (hsent : o.sent = []) : o.Silent where
  calls := by simp [hcalls]
  seals := by simp [hcalls]
  sent := by simp [hsent]

namespace Silent

variable {o o' : Outbox}

/-- A frame sealed by a call of another type is not an `error` frame. -/
theorem not_isErrorFrame {call : EncryptCall} {frame : Bytes} (hcall : call.WellFormed)
    (htype : call.header.type ≠ .error) (hframe : call.Seals frame) : ¬ IsErrorFrame frame := by
  rintro ⟨header, ciphertext, hsplit, herror⟩
  obtain ⟨ciphertext', hsplit'⟩ := hcall.splitFrame_eq hframe
  cases hsplit.symm.trans hsplit'
  exact htype herror

theorem step {allowed : FrameType → Prop} (h : o.Silent) (hstep : Step allowed o o')
    (hallowed : ¬ allowed .error) : o'.Silent := by
  cases hstep with
  | moved hmoves =>
    refine ⟨?_, ?_, h.sent⟩
    · intro t ht call hcall
      obtain ⟨s, hs, hmove⟩ := exists_moves hmoves ht
      exact h.calls s hs call (hmove.live_eq hcall)
    · intro t ht call hcall frame hframe
      obtain ⟨s, hs, hmove⟩ := exists_moves hmoves ht
      exact hmove.seals hcall hframe fun hf => h.seals s hs call (hmove.live_eq hcall) frame hf
  | thrown _ =>
    refine ⟨?_, ?_, h.sent⟩
    · intro t ht call hcall
      rcases List.mem_append.1 ht with ht | ht
      · exact h.calls t ht call hcall
      · rw [List.mem_singleton.1 ht] at hcall
        cases hcall
    · intro t ht call hcall
      rcases List.mem_append.1 ht with ht | ht
      · exact h.seals t ht call hcall
      · rw [List.mem_singleton.1 ht] at hcall
        cases hcall
  | @reserved call hmay _ hcall =>
    refine ⟨?_, ?_, h.sent⟩
    · intro t ht c hc
      rcases List.mem_append.1 ht with ht | ht
      · exact h.calls t ht c hc
      · rw [List.mem_singleton.1 ht] at hc
        cases hc
        exact ⟨hcall, fun herror => hallowed (herror ▸ hmay)⟩
    · intro t ht c hc frame hframe
      rcases List.mem_append.1 ht with ht | ht
      · exact h.seals t ht c hc frame hframe
      · rw [List.mem_singleton.1 ht] at hframe
        cases hframe
  | @sent send call _ frame hsend =>
    have hmem := List.mem_of_getElem? hsend
    have hset : ∀ {t : SendStatus} {c : EncryptCall},
        t ∈ o.calls.set send (.settled (.ok ())) → c ∈ t.live → t ∈ o.calls := by
      intro t c ht hc
      rcases List.mem_or_eq_of_mem_set ht with ht | rfl
      · exact ht
      · cases hc
    refine ⟨?_, ?_, ?_⟩
    · intro t ht c hc
      exact h.calls t (hset ht hc) c hc
    · intro t ht c hc
      exact h.seals t (hset ht hc) c hc
    · intro f hf
      rcases List.mem_append.1 hf with hf | hf
      · exact h.sent f hf
      · rw [List.mem_singleton.1 hf]
        obtain ⟨hcall, htype⟩ := h.calls _ hmem call rfl
        exact not_isErrorFrame hcall htype (h.seals _ hmem call rfl frame rfl)

end Silent

end Outbox

namespace Engine

variable {runtime : Runtime} {e e' e₀ : Engine} {event : EngineEvent} {es : List EngineEvent}

/-- No call reports an error. -/
def NoReports (e : Engine) : Prop := ∀ thread ∈ e.threads, thread.reports = false

theorem NoReports.not_mayPost (h : e.NoReports) : ¬ e.MayPost .error := by
  intro hmay
  obtain ⟨code, state, pc, hmem⟩ := hmay rfl
  cases h _ hmem

theorem noReports_iff : e.NoReports ↔ ∀ thread ∈ e.threads, ∀ t ∈ thread.terminates,
    t.1 ≠ .error := by
  refine forall₂_congr fun thread _ => ?_
  cases thread <;> simp [Thread.reports, Thread.terminates]

/-- `reject` is the only public method that calls `sendTerminalFrame`, and it cancels. -/
theorem noReports_step (h : e.NoReports) (hstep : e.step runtime event = some e') :
    e'.NoReports :=
  noReports_iff.2
    ((step_advances hstep).threads.forall_terminates (P := fun type _ => type ≠ .error)
    (by decide) (noReports_iff.1 h))

/-- What every reachable engine satisfies. -/
def Mute (e : Engine) : Prop := e.NoReports ∧ e.outbox.Silent

theorem mute_construct {o : ConstructorOptions} {registry : InboundTransferRegistry}
    {readyState : ReadyState} (h : construct o registry readyState = .ok e) : e.Mute := by
  obtain ⟨options, stream, registry', _, _, hcases⟩ := construct_cases h
  have hthreads : (initial options o.accepted stream registry' readyState).NoReports :=
    List.forall_mem_nil _
  have hsilent : (initial options o.accepted stream registry' readyState).outbox.Silent :=
    Outbox.silent_of_empty rfl rfl
  rcases hcases with ⟨_, rfl⟩ | ⟨_, rfl⟩
  · exact ⟨hthreads, hsilent⟩
  · refine ⟨?_, hsilent.step (serves_start _).toPosts.outbox hthreads.not_mayPost⟩
    exact noReports_iff.2
      ((threadStep_onOpen _).forall_terminates (P := fun type _ => type ≠ .error)
      (by decide) (noReports_iff.1 hthreads))

theorem mute_step (h : e.Mute) (hstep : e.step runtime event = some e') : e'.Mute :=
  ⟨noReports_step h.1 hstep, h.2.step (step_outbox hstep) h.1.not_mayPost⟩

theorem mute_run (h : e.Mute) (hrun : Run (Step (step runtime)) e es e') : e'.Mute :=
  hrun.invariant h fun _ _ _ => mute_step

/-- The rejection of the receive queue ends the transfer. -/
theorem caught_failed {error : Thrown} (hover : e.isTerminal = false)
    (hthrew : e.receiving = some (.threw error)) :
    ∃ e', e.step runtime .caught = some e' ∧ e'.stateValue = .failed := by
  refine ⟨{ e.fail error true with receiving := none, queueError := some error }, ?_, ?_⟩
  · simp only [step, hthrew]
  · show (e.fail error true).stateValue = .failed
    rw [fail_eq, if_neg (by simp [hover])]
    rfl

/-- When the processing of a message throws on a confirmed stream, an open channel and an engine
that is not over, the engine fails, but no continuation passes an `error` frame to the channel. -/
theorem failure_never_reported {o : ConstructorOptions} {registry : InboundTransferRegistry}
    {readyState : ReadyState} {error : Thrown} (h : construct o registry readyState = .ok e₀)
    (hrun : Run (Step (step runtime)) e₀ es e) (_hconfirmed : e.stream.isConfirmed = true)
    (_hopen : e.channel.readyState = .opened) (hover : e.isTerminal = false)
    (hthrew : e.receiving = some (.threw error)) :
    (∃ e', e.step runtime .caught = some e' ∧ e'.stateValue = .failed) ∧
    ¬ ∃ es' e', Run (Step (step runtime)) e (.caught :: es') e' ∧
      ∃ frame ∈ e'.channel.sent, IsErrorFrame frame := by
  refine ⟨caught_failed hover hthrew, ?_⟩
  rintro ⟨es', e', hrun', frame, hframe, herror⟩
  have hmute : e'.Mute := mute_run (mute_run (mute_construct h) hrun) hrun'
  exact hmute.2.sent frame hframe herror

/-- An empty binary message after the confirmations. -/
def emptyMessage : List EngineEvent :=
  sampleConfirm .s2r ++ [.message (.buffer []), .dequeue, .bytesRead none]

/-- The processing of the empty message throws on an engine that is ready. -/
theorem emptyMessage_threw :
    ∃ e₀ e, construct (sampleOptions .recipient) ⟨[]⟩ .opened = .ok e₀ ∧
      Run (Step (step sampleRuntime)) e₀ emptyMessage e ∧ e.stream.isConfirmed = true ∧
      e.channel.readyState = .opened ∧ e.isTerminal = false ∧ e.receiving =
        some (.threw
          (.protocol (protocolError "Frame has an invalid length." "invalid_length"))) := by
  have h : Reaches (step sampleRuntime) (sampleOptions .recipient) .opened emptyMessage fun e =>
      e.stream.isConfirmed = true ∧ e.channel.readyState = .opened ∧ e.isTerminal = false ∧
        e.receiving =
          some (.threw
              (.protocol (protocolError "Frame has an invalid length." "invalid_length"))) := by
    decide +kernel
  obtain ⟨e₀, e, he₀, hexec, hconditions⟩ := h.exec
  exact ⟨e₀, e, he₀, .of_exec hexec, hconditions⟩

theorem failure_never_reported_emptyMessage :
    ∃ e₀ e, construct (sampleOptions .recipient) ⟨[]⟩ .opened = .ok e₀ ∧
      Run (Step (step sampleRuntime)) e₀ emptyMessage e ∧
      (∃ e', e.step sampleRuntime .caught = some e' ∧ e'.stateValue = .failed) ∧
      ¬ ∃ es' e', Run (Step (step sampleRuntime)) e (.caught :: es') e' ∧
        ∃ frame ∈ e'.channel.sent, IsErrorFrame frame := by
  obtain ⟨e₀, e, he₀, hrun, hconfirmed, hopen, hover, hthrew⟩ := emptyMessage_threw
  exact ⟨e₀, e, he₀, hrun, failure_never_reported he₀ hrun hconfirmed hopen hover hthrew⟩

/-- The empty message is not reported: all that was ever sent is the confirmation. -/
theorem emptyMessage_not_reported :
    ∃ e₀ e, construct (sampleOptions .recipient) ⟨[]⟩ .opened = .ok e₀ ∧
      Run (Step (step sampleRuntime)) e₀ emptyMessage e ∧ e.stream.isConfirmed = true ∧
      e.channel.readyState = .opened ∧ e.isTerminal = false ∧
      e.receiving =
        some (.threw (.protocol (protocolError "Frame has an invalid length." "invalid_length"))) ∧
      ∀ es' e', Run (Step (step sampleRuntime)) e (.caught :: es') e' →
        ∀ frame ∈ e'.channel.sent, ¬ IsErrorFrame frame := by
  obtain ⟨e₀, e, he₀, hrun, hconfirmed, hopen, hover, hthrew⟩ := emptyMessage_threw
  refine ⟨e₀, e, he₀, hrun, hconfirmed, hopen, hover, hthrew, fun es' e' hrun' => ?_⟩
  exact (mute_run (mute_run (mute_construct he₀) hrun) hrun').2.sent

end Engine

end SelfRelay
