import SelfRelay.Transfer.Outbox

/-!
# The order of the frames

`sendFrame` reserves a counter, awaits `encrypt`, awaits buffer capacity and only then sends, and
nothing orders two calls that overlap.  The frames leave in counter order exactly as long as no call
reaches `encrypt` while an earlier counter is still on its way: `Sequential` is the invariant of
such runs, and `exists_out_of_order` continues any other run to a frame that is out of order.
-/

namespace SelfRelay

open StepSystem

namespace Outbox

/-- The frames passed to `channel.send` carry the counters `0`, `1`, `2`, … -/
def InOrder (o : Outbox) : Prop :=
  ∀ (k : ℕ) (frame : Bytes), o.sent[k]? = some frame →
    ∃ header ciphertext, splitFrame frame = .ok (header, ciphertext) ∧ header.counter = k

/-- Every counter handed out so far was passed to `channel.send`. -/
def Flushed (o : Outbox) : Prop := o.nextCounter = o.sent.length

/-- At most one call is on its way, and its counter is the next one to send. -/
structure Sequential (o : Outbox) : Prop where
  inOrder : o.InOrder
  counter : ∀ s ∈ o.calls, ∀ call ∈ s.live,
    call.WellFormed ∧ call.header.counter = o.sent.length ∧ o.sent.length < o.nextCounter
  seals : ∀ s ∈ o.calls, ∀ call ∈ s.live, ∀ frame ∈ s.frame, call.Seals frame
  unique : ∀ (i j : ℕ) (s t : SendStatus), o.calls[i]? = some s → o.calls[j]? = some t →
    s.live.isSome → t.live.isSome → i = j

theorem sequential_of_empty {o : Outbox} (hcalls : o.calls = []) (hsent : o.sent = []) :
    o.Sequential where
  inOrder := by simp [InOrder, hsent]
  counter := by simp [hcalls]
  seals := by simp [hcalls]
  unique := by simp [hcalls]

namespace Sequential

variable {o : Outbox}

/-- With all counters sent no call is on its way. -/
theorem not_live (h : o.Sequential) (hflushed : o.Flushed) {s : SendStatus} (hs : s ∈ o.calls) :
    s.live = none := by
  cases hlive : s.live with
  | none => rfl
  | some call =>
    have hlt := (h.counter s hs call hlive).2.2
    unfold Flushed at hflushed
    omega

theorem moved (h : o.Sequential) {opened : Bool} {calls : List SendStatus}
    (hmoves : List.Forall₂ SendStatus.Moves o.calls calls) :
    Sequential { o with opened, calls } := by
  -- the calls keep their places
  have hback : ∀ {t : SendStatus} {i : ℕ}, calls[i]? = some t →
      ∃ s, o.calls[i]? = some s ∧ s.Moves t := by
    intro t i ht
    obtain ⟨hlt, rfl⟩ := List.getElem?_eq_some_iff.1 ht
    have hlt' : i < o.calls.length := hmoves.length_eq ▸ hlt
    exact ⟨_, List.getElem?_eq_getElem hlt', hmoves.get hlt' hlt⟩
  refine ⟨h.inOrder, ?_, ?_, ?_⟩
  · intro t ht call hcall
    obtain ⟨s, hs, hmove⟩ := exists_moves hmoves ht
    exact h.counter s hs call (hmove.live_eq hcall)
  · intro t ht call hcall frame hframe
    obtain ⟨s, hs, hmove⟩ := exists_moves hmoves ht
    exact hmove.seals hcall hframe fun hf => h.seals s hs call (hmove.live_eq hcall) frame hf
  · intro i j s t hs ht hslive htlive
    obtain ⟨s', hs', hmove⟩ := hback hs
    obtain ⟨t', ht', hmove'⟩ := hback ht
    obtain ⟨call, hcall⟩ := Option.isSome_iff_exists.1 hslive
    obtain ⟨call', hcall'⟩ := Option.isSome_iff_exists.1 htlive
    exact h.unique i j s' t' hs' ht' (by rw [hmove.live_eq hcall]; rfl)
      (by rw [hmove'.live_eq hcall']; rfl)

/-- A call that is not on its way is added. -/
theorem thrown (h : o.Sequential) {nextCounter : ℕ} {opened : Bool} {s : SendStatus}
    (hs : s.live = none) (hnext : o.nextCounter ≤ nextCounter) :
    Sequential { o with nextCounter, opened, calls := o.calls ++ [s] } := by
  have hmem : ∀ {t : SendStatus} {call : EncryptCall}, t ∈ o.calls ++ [s] → call ∈ t.live →
      t ∈ o.calls := by
    intro t call ht hcall
    rcases List.mem_append.1 ht with ht | ht
    · exact ht
    · rw [List.mem_singleton.1 ht, hs] at hcall
      cases hcall
  have hget : ∀ {t : SendStatus} {i : ℕ}, (o.calls ++ [s])[i]? = some t → t.live.isSome →
      o.calls[i]? = some t := by
    intro t i ht hlive
    rw [List.getElem?_append] at ht
    split_ifs at ht with hi
    · exact ht
    · rw [List.getElem?_singleton] at ht
      split_ifs at ht
      cases ht
      rw [hs] at hlive
      cases hlive
  refine ⟨h.inOrder, ?_, ?_, ?_⟩
  · intro t ht call hcall
    obtain ⟨hwf, hcounter, hlt⟩ := h.counter t (hmem ht hcall) call hcall
    exact ⟨hwf, hcounter, Nat.lt_of_lt_of_le hlt hnext⟩
  · intro t ht call hcall
    exact h.seals t (hmem ht hcall) call hcall
  · intro i j s' t' hs' ht' hslive htlive
    exact h.unique i j s' t' (hget hs' hslive) (hget ht' htlive) hslive htlive

/-- A call reaches `encrypt` with all counters sent. -/
theorem reserved (h : o.Sequential) (hflushed : o.Flushed) {opened : Bool} {call : EncryptCall}
    (hcounter : call.header.counter = o.nextCounter) (hcall : call.WellFormed) :
    Sequential { o with
      nextCounter := o.nextCounter + 1, opened, calls := o.calls ++ [.encrypting call] } := by
  have hmem : ∀ {t : SendStatus} {c : EncryptCall}, t ∈ o.calls ++ [.encrypting call] →
      c ∈ t.live → t = .encrypting call := by
    intro t c ht hc
    rcases List.mem_append.1 ht with ht | ht
    · rw [h.not_live hflushed ht] at hc
      cases hc
    · exact List.mem_singleton.1 ht
  have hget : ∀ {t : SendStatus} {i : ℕ}, (o.calls ++ [.encrypting call])[i]? = some t →
      t.live.isSome → i = o.calls.length := by
    intro t i ht hlive
    rw [List.getElem?_append] at ht
    split_ifs at ht with hi
    · rw [h.not_live hflushed (List.mem_of_getElem? ht)] at hlive
      cases hlive
    · rw [List.getElem?_singleton] at ht
      split_ifs at ht
      omega
  unfold Flushed at hflushed
  refine ⟨h.inOrder, ?_, ?_, ?_⟩
  · intro t ht c hc
    obtain rfl := hmem ht hc
    cases hc
    exact ⟨hcall, hcounter.trans hflushed, show o.sent.length < o.nextCounter + 1 by omega⟩
  · intro t ht c hc frame hframe
    obtain rfl := hmem ht hc
    cases hframe
  · intro i j s t hs ht hslive htlive
    rw [hget hs hslive, hget ht htlive]

/-- The call that is on its way passes its frame to the channel. -/
theorem sent (h : o.Sequential) {send : ℕ} {opened : Bool} {call : EncryptCall} {frame : Bytes}
    (hsend : o.calls[send]? = some (.passed call frame)) :
    Sequential { o with
      opened, calls := o.calls.set send (.settled (.ok ())), sent := o.sent ++ [frame] } := by
  have hmem := List.mem_of_getElem? hsend
  obtain ⟨hwf, hcounter, _⟩ := h.counter _ hmem call rfl
  -- no other call was on its way
  have hdead : ∀ {t : SendStatus} {i : ℕ},
      (o.calls.set send (.settled (.ok ())))[i]? = some t → t.live = none := by
    intro t i ht
    rw [List.getElem?_set] at ht
    split_ifs at ht with hi
    · cases ht
      rfl
    · cases hlive : t.live with
      | none => rfl
      | some c => exact absurd (h.unique send i _ t hsend ht rfl (by rw [hlive]; rfl)) hi
  refine ⟨?_, ?_, ?_, ?_⟩
  · intro k f hf
    rcases Nat.lt_trichotomy k o.sent.length with hk | rfl | hk
    · rw [List.getElem?_append_left hk] at hf
      exact h.inOrder k f hf
    · rw [List.getElem?_concat_length] at hf
      cases hf
      obtain ⟨ciphertext, hsplit⟩ := hwf.splitFrame_eq (h.seals _ hmem call rfl frame rfl)
      exact ⟨call.header, ciphertext, hsplit, hcounter⟩
    · rw [List.getElem?_eq_none (by simpa using Nat.succ_le_of_lt hk)] at hf
      cases hf
  · intro t ht c hc
    obtain ⟨i, ht⟩ := List.getElem?_of_mem ht
    rw [hdead ht] at hc
    cases hc
  · intro t ht c hc
    obtain ⟨i, ht⟩ := List.getElem?_of_mem ht
    rw [hdead ht] at hc
    cases hc
  · intro i j s t hs _ hslive _
    rw [hdead hs] at hslive
    cases hslive

/-- A step that lets a call reach `encrypt` only with all counters sent keeps the invariant. -/
theorem step {o' : Outbox} {allowed : FrameType → Prop} (h : o.Sequential)
    (hstep : Step allowed o o')
    (hflushed : ∀ call, o'.calls = o.calls ++ [.encrypting call] → o.Flushed) : o'.Sequential := by
  cases hstep with
  | moved hmoves => exact h.moved hmoves
  | thrown hnext => exact h.thrown rfl (by omega)
  | reserved _ hcounter hcall => exact h.reserved (hflushed _ rfl) hcounter hcall
  | sent hsend => exact h.sent hsend

end Sequential

end Outbox

namespace Engine

variable {runtime : Runtime} {e e' e₀ : Engine} {event : EngineEvent} {es : List EngineEvent}

/-- The event lets a call of `sendFrame` reach `encrypt`. -/
def Encrypts (runtime : Runtime) (e : Engine) (event : EngineEvent) : Prop :=
  ∃ e' ∈ e.step runtime event, ∃ s ∈ e'.sends.drop e.sends.length, s.live.isSome

instance : Decidable (Encrypts runtime e event) :=
  inferInstanceAs (Decidable (∃ e' ∈ e.step runtime event, _))

/-- No call reaches `encrypt` while a counter handed out before has not been sent. -/
def NoOverlap (runtime : Runtime) (e : Engine) (event : EngineEvent) : Prop :=
  Encrypts runtime e event → e.stream.nextSendCounter = e.channel.sent.length

instance : Decidable (NoOverlap runtime e event) :=
  inferInstanceAs (Decidable (_ → _))

/-- The step of such an event adds a call that awaits `encrypt`, with the next counter. -/
theorem encrypts_cases (h : e.step runtime event = some e') (hencrypts : Encrypts runtime e event) :
    ∃ call, e'.sends = e.sends ++ [.encrypting call] ∧ call.WellFormed ∧
      call.header.counter = e.stream.nextSendCounter ∧ e'.channel.readyState = .opened ∧
      e'.channel.sent = e.channel.sent := by
  obtain ⟨e₁, he₁, s, hs, hlive⟩ := hencrypts
  cases h.symm.trans he₁
  have hstep := step_outbox h
  generalize ho : e.outbox = o at hstep
  generalize ho' : e'.outbox = o' at hstep
  have hcalls : e.sends = o.calls := congrArg Outbox.calls ho
  have hcalls' : e'.sends = o'.calls := congrArg Outbox.calls ho'
  rw [hcalls, hcalls'] at hs
  cases hstep with
  | moved hmoves =>
    rw [List.drop_eq_nil_of_le hmoves.length_eq.ge] at hs
    cases hs
  | thrown _ =>
    rw [List.drop_left, List.mem_singleton] at hs
    rw [hs] at hlive
    cases hlive
  | @reserved call _ hcounter hcall =>
    have hopened : decide (e'.channel.readyState = .opened) = true := congrArg Outbox.opened ho'
    have hsent : e'.channel.sent = o.sent := congrArg Outbox.sent ho'
    refine ⟨call, ?_, hcall, ?_, of_decide_eq_true hopened, ?_⟩
    · rw [hcalls, hcalls']
    · rw [hcounter, ← ho]
      rfl
    · rw [hsent, ← ho]
      rfl
  | sent _ =>
    rw [List.drop_eq_nil_of_le (by simp)] at hs
    cases hs

/-- A constructed engine has at most its confirmation on its way. -/
theorem sequential_construct {o : ConstructorOptions} {registry : InboundTransferRegistry}
    {readyState : ReadyState} (h : construct o registry readyState = .ok e) :
    e.outbox.Sequential := by
  obtain ⟨options, stream, registry', _, hstream, hcases⟩ := construct_cases h
  have hcounter : stream.sendCounter = ⟨0⟩ := by
    simp only [FrameStream.create, bind_eq_ok, pure_eq_ok] at hstream
    obtain ⟨id, _, -, _, rfl⟩ := hstream
    rfl
  have hinitial : (initial options o.accepted stream registry' readyState).outbox.Sequential :=
    Outbox.sequential_of_empty rfl rfl
  rcases hcases with ⟨_, rfl⟩ | ⟨_, rfl⟩
  · exact hinitial
  · refine hinitial.step (serves_start _).toPosts.outbox fun _ _ => ?_
    exact congrArg FrameCounter.nextValue hcounter

theorem sequential_step (h : e.outbox.Sequential) (hstep : e.step runtime event = some e')
    (hoverlap : NoOverlap runtime e event) : e'.outbox.Sequential := by
  refine h.step (step_outbox hstep) fun call hcalls =>
    hoverlap ⟨e', hstep, .encrypting call, ?_, rfl⟩
  rw [show e'.sends = e.sends ++ [.encrypting call] from hcalls, List.drop_left]
  exact List.mem_singleton.2 rfl

theorem highWaterMark_step (hstep : e.step runtime event = some e') :
    e'.outbox.highWaterMark = e.outbox.highWaterMark := by
  have h := step_outbox hstep
  generalize e'.outbox = o' at h
  cases h <;> rfl

/-- A call that awaits `encrypt` on an open channel can be the next one to send its frame. -/
theorem exists_run_sent (runtime : Runtime) {send : ℕ} {call : EncryptCall}
    (hsend : e.sends[send]? = some (.encrypting call)) (hopen : e.channel.readyState = .opened)
    (hmark : 0 < e.options.highWaterMark) :
    ∃ es e', Run (Step (step runtime)) e es e' ∧ ∃ frame, call.Seals frame ∧
      e'.channel.sent = e.channel.sent ++ [frame] := by
  let ciphertext : Bytes := List.replicate (call.plaintext.length + frameTagBytes) 0
  let frame := call.additionalData ++ ciphertext
  have hlen : ciphertext.length = call.plaintext.length + frameTagBytes := List.length_replicate
  have hresume : e.stream.createFrameResume call (some ciphertext) =
      (e.stream.sentCounterApplied call.header.type, .ok frame) :=
    FrameStream.createFrameResume_eq_ok.2 ⟨rfl, ciphertext, rfl, hlen, rfl⟩
  have hlt : send < e.sends.length := (List.getElem?_eq_some_iff.1 hsend).1
  -- the buffer drains, the ciphertext arrives, the call finds capacity and sends
  let e₁ : Engine := { e with channel := { e.channel with bufferedAmount := 0 } }
  let e₂ : Engine := { e₁.setSend send (.created call frame) with
    stream := e.stream.sentCounterApplied call.header.type }
  let e₃ : Engine := e₂.setSend send (.passed call frame)
  let channel : DataChannel := ⟨.opened, 0 + frame.length, e.channel.sent ++ [frame]⟩
  let e₄ : Engine := { e₃.setSend send (.settled (.ok ())) with channel }
  have h₁ : Step (step runtime) e (.drained 0) e₁ := by
    simp [Step, step, e₁]
  have h₂ : Step (step runtime) e₁ (.encrypted send (some ciphertext)) e₂ := by
    have hget : e₁.sends[send]? = some (.encrypting call) := hsend
    have hresume' : e₁.stream.createFrameResume call (some ciphertext) = _ := hresume
    simp [Step, step, hget, encryptedSend, hresume', e₂]
  have h₃ : Step (step runtime) e₂ (.capacity send) e₃ := by
    have hget : e₂.sends[send]? = some (.created call frame) := List.getElem?_set_self hlt
    have hready : e₂.channel.readyState = .opened := hopen
    have hfree : e₂.channel.bufferedAmount < e₂.options.highWaterMark := hmark
    simp [Step, step, hget, waitForDataChannelCapacity, hready, hfree, e₃]
  have h₄ : Step (step runtime) e₃ (.transmit send) e₄ := by
    have hlt' : send < e₂.sends.length := by
      show send < (e.sends.set send _).length
      rwa [List.length_set]
    have hget : e₃.sends[send]? = some (.passed call frame) := List.getElem?_set_self hlt'
    have hchannel : e₃.channel = ⟨.opened, 0, e.channel.sent⟩ := by
      rw [← hopen]
      rfl
    simp [Step, step, hget, transmitSend, hchannel, e₄, channel]
  exact ⟨_, e₄, .cons h₁ (.cons h₂ (.cons h₃ (.single h₄))), frame, ⟨ciphertext, hlen, rfl⟩, rfl⟩

/-- After an overlapping call some continuation sends a frame out of order. -/
theorem exists_out_of_order (hmark : 0 < e.options.highWaterMark)
    (hstep : e.step runtime event = some e') (hoverlap : ¬ NoOverlap runtime e event) :
    ∃ es e'', Run (Step (step runtime)) e' es e'' ∧ ¬ e''.outbox.InOrder := by
  obtain ⟨hencrypts, hcounter⟩ := Classical.not_imp.1 hoverlap
  obtain ⟨call, hsends, hcall, hnext, hopen, hsent⟩ := encrypts_cases hstep hencrypts
  have hmark' : 0 < e'.options.highWaterMark := by
    have h : e'.options.highWaterMark = e.options.highWaterMark := highWaterMark_step hstep
    rwa [h]
  have hsend : e'.sends[e.sends.length]? = some (.encrypting call) := by
    rw [hsends, List.getElem?_concat_length]
  obtain ⟨es, e'', hrun, frame, hframe, hframes⟩ :=
    exists_run_sent runtime hsend hopen hmark'
  refine ⟨es, e'', hrun, fun hinOrder => ?_⟩
  have hget : e''.channel.sent[e.channel.sent.length]? = some frame := by
    rw [hframes, hsent, List.getElem?_concat_length]
  obtain ⟨header, ciphertext, hsplit, hk⟩ := hinOrder _ _ hget
  obtain ⟨ciphertext', hsplit'⟩ := hcall.splitFrame_eq hframe
  cases hsplit.symm.trans hsplit'
  exact hcounter (hnext.symm.trans hk)

/-- The frames leave in counter order in every run without overlapping calls, and a call that
overlaps lets the run go on to a frame that is out of order. -/
theorem sent_in_order_iff_no_overlap {o : ConstructorOptions} {registry : InboundTransferRegistry}
    {readyState : ReadyState} (h : construct o registry readyState = .ok e₀) :
    (∀ es e, Run (fun a event b => Step (step runtime) a event b ∧ NoOverlap runtime a event)
      e₀ es e → e.outbox.InOrder) ∧
    ∀ es e event e', Run (Step (step runtime)) e₀ es e → e.step runtime event = some e' →
      ¬ NoOverlap runtime e event →
      ∃ es' e'', Run (Step (step runtime)) e' es' e'' ∧ ¬ e''.outbox.InOrder := by
  constructor
  · intro es e hrun
    have hsequential : e.outbox.Sequential := by
      apply hrun.invariant (I := fun e => e.outbox.Sequential) (sequential_construct h)
      intro a event b ha hb
      exact sequential_step ha hb.1 hb.2
    exact hsequential.inOrder
  · intro es e event e' hrun hstep hoverlap
    have hmark : 0 < e.outbox.highWaterMark := by
      apply hrun.invariant (I := fun e => 0 < e.outbox.highWaterMark)
      · obtain ⟨options, stream, registry', hoptions, _, hcases⟩ := construct_cases h
        have hpos := highWaterMark_pos hoptions
        rcases hcases with ⟨_, rfl⟩ | ⟨_, rfl⟩
        · exact hpos
        · have hopts :=
            (serves_start (initial options o.accepted stream registry' readyState)).options
          show 0 < (initial options o.accepted stream registry'
            readyState).start.1.options.highWaterMark
          rwa [hopts]
      · intro a event b ha hb
        rwa [highWaterMark_step hb]
    exact exists_out_of_order hmark hstep hoverlap

/-- Two calls of `reject` overlap: the second has reserved its counter and
the first has not sent. -/
def overlapping : List EngineEvent :=
  sampleConfirm .r2s ++ [.reject (js "rejected"), .reject (js "rejected"), .resume 1, .resume 1,
    .resume 2]

/-- The first has sent its frame when the second goes on. -/
def successive : List EngineEvent :=
  sampleConfirm .r2s ++ [.reject (js "rejected"), .reject (js "rejected"), .resume 1, .resume 1,
    sampleEncrypted 1 41, .drained 0, .capacity 1, .transmit 1, .resume 2, .resume 2,
    sampleEncrypted 2 41, .drained 0, .capacity 2, .transmit 2]

theorem sent_in_order_sample :
    (∃ e₀ e, construct (sampleOptions .sender) ⟨[]⟩ .opened = .ok e₀ ∧
      Run (fun a event b => Step (step sampleRuntime) a event b ∧ NoOverlap sampleRuntime a event)
        e₀ successive e ∧ e.channel.sent.length = 3 ∧ e.outbox.InOrder) ∧
    ∃ e₀ e e', construct (sampleOptions .sender) ⟨[]⟩ .opened = .ok e₀ ∧
      Run (Step (step sampleRuntime)) e₀ overlapping e ∧
      e.step sampleRuntime (.resume 2) = some e' ∧
      ∃ es e'', Run (Step (step sampleRuntime)) e' es e'' ∧ ¬ e''.outbox.InOrder := by
  constructor
  · have h : Reaches
        (fun a event =>
          if NoOverlap sampleRuntime a event then step sampleRuntime a event else none)
        (sampleOptions .sender) .opened successive fun e => e.channel.sent.length = 3 := by
      decide +kernel
    obtain ⟨e₀, e, he₀, hexec, hsent⟩ := h.exec
    have hrun := Run.of_exec_guarded hexec
    exact ⟨e₀, e, he₀, hrun, hsent, (sent_in_order_iff_no_overlap he₀).1 _ e hrun⟩
  · have h : Reaches (step sampleRuntime) (sampleOptions .sender) .opened overlapping fun e =>
        (e.step sampleRuntime (.resume 2)).isSome = true ∧
          ¬ NoOverlap sampleRuntime e (.resume 2) := by
      decide +kernel
    obtain ⟨e₀, e, he₀, hexec, hsome, hoverlap⟩ := h.exec
    have hrun := Run.of_exec hexec
    obtain ⟨e', he'⟩ := Option.isSome_iff_exists.1 hsome
    exact ⟨e₀, e, e', he₀, hrun, he',
      (sent_in_order_iff_no_overlap he₀).2 _ e (.resume 2) e' hrun he' hoverlap⟩

/-- The first frame waits for capacity, the buffer drains below the high watermark, and the second
frame is sent at once. -/
def overtaking : List EngineEvent :=
  overlapping ++ [.resume 2, sampleEncrypted 1 41, .capacity 1, .drained 40, sampleEncrypted 2 41,
    .capacity 2, .transmit 2]

theorem overtaking_out_of_order :
    ∃ e₀ e, construct (sampleOptions .sender) ⟨[]⟩ .opened = .ok e₀ ∧
      Run (Step (step sampleRuntime)) e₀ overtaking e ∧ ¬ e.outbox.InOrder := by
  have h : Reaches (step sampleRuntime) (sampleOptions .sender) .opened overtaking fun e =>
      ∃ frame ∈ e.channel.sent[1]?, ∃ r ∈ (splitFrame frame).toOption, r.1.counter = 2 := by
    decide +kernel
  obtain ⟨e₀, e, he₀, hexec, frame, hframe, r, hr, hcounter⟩ := h.exec
  refine ⟨e₀, e, he₀, .of_exec hexec, fun hinOrder => ?_⟩
  obtain ⟨header, ciphertext, hsplit, hone⟩ := hinOrder 1 frame hframe
  rw [hsplit] at hr
  cases hr
  exact absurd (hone.symm.trans hcounter) (by decide)

end Engine

end SelfRelay
