import SelfRelay.Protocol.Overlap

/-!
# Calls of `createFrame` that fail

`createFrame` reserves the counter while it builds the argument of `encryptFrame`, which then tests
the plaintext and the nonce prefix.  A call that fails there has used its counter up, and the next
frame leaves a gap.  With calls that do not overlap and an encryption that never fails, a run keeps
every failing call from changing the send side exactly when no call fails there
(`createFrame_atomic_iff`).
-/

namespace SelfRelay

open StepSystem

namespace Endpoint

/-! ## Runs without overlap -/

/-- The calls of `createFrame` do not overlap, and `encrypt` is fulfilled with a ciphertext. -/
def Serial (p : Endpoint) : StreamEvent → Prop
  | .createFrame .. => p.encrypting = []
  | .encrypted place result =>
    ∀ call ∈ p.encrypting[place]?,
      result.map List.length = some (call.plaintext.length + frameTagBytes)
  | .receiveFrame .. | .decrypted .. => True

instance (p : Endpoint) (e : StreamEvent) : Decidable (p.Serial e) :=
  match e with
  | .createFrame .. => inferInstanceAs (Decidable (_ = _))
  | .encrypted .. => inferInstanceAs (Decidable (∀ call ∈ _, _))
  | .receiveFrame .. | .decrypted .. => inferInstanceAs (Decidable True)

/-- A step without overlap. -/
def SerialStep (p : Endpoint) (e : StreamEvent) (q : Endpoint) : Prop :=
  Step step p e q ∧ p.Serial e

/-- A call of `createFrame` that fails leaves the counter, the sent type and the sent confirmation
as they were. -/
def FailsAtomically (p : Endpoint) : StreamEvent → Prop
  | .createFrame key noncePrefix type body =>
    ∀ s error, p.stream.createFrame key noncePrefix type body = (s, .error error) →
      s.nextSendCounter = p.stream.nextSendCounter ∧ s.sentType = p.stream.sentType ∧
        s.sentConfirmation = p.stream.sentConfirmation
  | _ => True

/-- A step in which no failing call changes the send side. -/
def AtomicStep (p : Endpoint) (e : StreamEvent) (q : Endpoint) : Prop :=
  SerialStep p e q ∧ p.FailsAtomically e

/-- A call that passes the checks before the counter is reserved also passes those of
`encryptFrame`. -/
def Fits (p : Endpoint) : StreamEvent → Prop
  | .createFrame _ noncePrefix type body =>
    p.stream.checkCreate type body = .ok () → p.stream.nextSendCounter ≤ maxFrameCounter →
      body.length ≤ maxFramePlaintextBytes ∧ noncePrefix.length = 4
  | _ => True

instance (p : Endpoint) (e : StreamEvent) : Decidable (p.Fits e) :=
  match e with
  | .createFrame .. => inferInstanceAs (Decidable (_ → _ → _ ∧ _))
  | .encrypted .. | .receiveFrame .. | .decrypted .. => inferInstanceAs (Decidable True)

/-- A step whose call passes the checks of `encryptFrame`. -/
def FittingStep (p : Endpoint) (e : StreamEvent) (q : Endpoint) : Prop :=
  SerialStep p e q ∧ p.Fits e

/-- Of the frames returned so far the first has counter 0, the next counter 1, and so on. -/
def Numbered (p : Endpoint) : Prop :=
  ∀ k x, p.created[k]? = some x →
    ∃ header ciphertext, splitFrame x.2 = .ok (header, ciphertext) ∧ header.counter = k

/-! ## One call -/

section Call

variable {p : Endpoint} (hid : isUuid p.stream.transferId = true)
include hid

/-- A call that fits either fails without a trace or reaches `encrypt`. -/
theorem Fits.createFrame_cases {key : CryptoKey} {noncePrefix body : Bytes} {type : FrameType}
    (h : p.Fits (.createFrame key noncePrefix type body)) :
    (∃ e, p.stream.createFrame key noncePrefix type body = (p.stream, .error e)) ∨
      ∃ call, p.stream.createFrame key noncePrefix type body = (p.stream.reserved, .ok call) := by
  rcases FrameStream.createFrame_cases p.stream key noncePrefix type body with
    hrefused | ⟨hcheck, hle, -⟩
  · exact .inl hrefused
  · obtain ⟨hbody, hprefix⟩ := h hcheck hle
    exact .inr ⟨_, FrameStream.createFrame_eq_ok.2 ⟨hcheck, hle, hid, hbody, hprefix, rfl, rfl⟩⟩

/-- Every failing call is harmless exactly when no call fails after its counter was reserved. -/
theorem failsAtomically_iff (e : StreamEvent) : p.FailsAtomically e ↔ p.Fits e := by
  cases e with
  | createFrame key noncePrefix type body =>
    constructor
    · intro hatomic hcheck hle
      rcases FrameStream.createFrame_cases p.stream key noncePrefix type body with
        ⟨e, he⟩ | ⟨-, -, heq⟩
      · -- the checks pass, so that the call does not stop at them
        exfalso
        have hreserve : p.stream.sendCounter.reserve = .ok (p.stream.sendCounter.nextValue, _) :=
          FrameCounter.reserve_eq_ok.2 ⟨hle, rfl, rfl⟩
        rw [FrameStream.createFrame, hcheck] at he
        simp only [hreserve, Prod.mk.injEq] at he
        have hcounter := congrArg (fun s => s.sendCounter.nextValue) he.1
        exact Nat.succ_ne_self _ hcounter
      · rcases hencrypt : encryptFrame key noncePrefix
          (p.stream.headerFor type p.stream.sendCounter.nextValue body) body with e | call
        · rw [hencrypt] at heq
          exact absurd (hatomic _ _ heq).1 (Nat.succ_ne_self _)
        · obtain ⟨-, hvalid, hprefix, -⟩ := encryptFrame_eq_ok.1 hencrypt
          exact ⟨hvalid.length_le, hprefix⟩
    · intro hfits s error hcreate
      rcases hfits.createFrame_cases hid with ⟨e, he⟩ | ⟨call, hcall⟩
      · obtain ⟨rfl, -⟩ := Prod.mk.inj (he.symm.trans hcreate)
        exact ⟨rfl, rfl, rfl⟩
      · cases (Prod.mk.inj (hcall.symm.trans hcreate)).2
  | encrypted | receiveFrame | decrypted => exact Iff.rfl

end Call

/-! ## Runs -/

/-- As long as every call fits, the counters of the returned frames leave no gap, and the next one
is that of the suspended call or the next frame. -/
structure GaplessInvariant (p : Endpoint) : Prop where
  send : p.SendInvariant
  next : p.stream.sendCounter.nextValue = p.created.length + p.encrypting.length
  single : p.encrypting.length ≤ 1
  suspended : ∀ c ∈ p.encrypting, c.header.counter = p.created.length
  counters : p.created.map (fun x => x.1.header.counter) = List.range p.created.length

theorem gaplessInvariant_new (id : JsString) (d : FrameDirection) (confirmation : Option Bytes) :
    (new id d confirmation).GaplessInvariant where
  send := sendInvariant_new id d confirmation
  next := rfl
  single := Nat.zero_le _
  suspended := nofun
  counters := rfl

section GaplessStep

variable {p : Endpoint}

theorem GaplessInvariant.encrypt (hp : p.GaplessInvariant) (hnone : p.encrypting = [])
    {key : CryptoKey}
    {noncePrefix body : Bytes} {type : FrameType} {call : EncryptCall}
    (hcall : p.stream.createFrame key noncePrefix type body = (p.stream.reserved, .ok call)) :
    GaplessInvariant { p with
      stream := p.stream.reserved
      encrypting := p.encrypting ++ [call]
      encryptions := p.encryptions ++ [call] } := by
  obtain ⟨-, -, -, -, -, -, hheader⟩ := FrameStream.createFrame_eq_ok.1 hcall
  have hcounter : call.header.counter = p.stream.sendCounter.nextValue := by rw [hheader]; rfl
  have hnext : p.stream.sendCounter.nextValue = p.created.length := by simpa [hnone] using hp.next
  refine ⟨hp.send.encrypt hcall, ?_, ?_, ?_, hp.counters⟩
  · simp [FrameStream.reserved, hnext, hnone]
  · simp [hnone]
  · simp [hnone, hcounter, hnext]

theorem GaplessInvariant.createReturned (hp : p.GaplessInvariant) {place : ℕ} {ciphertext : Bytes}
    {call : EncryptCall} (hcall : p.encrypting[place]? = some call)
    (hlen : ciphertext.length = call.plaintext.length + frameTagBytes) :
    GaplessInvariant { p with
      stream := p.stream.sentCounterApplied call.header.type
      encrypting := p.encrypting.eraseIdx place
      encrypted := p.encrypted ++ [(call, ciphertext)]
      created := p.created ++ [(call, call.additionalData ++ ciphertext)] } := by
  have hcounter := hp.suspended call (List.mem_of_getElem? hcall)
  have hlt := (List.getElem?_eq_some_iff.1 hcall).1
  have hone : p.encrypting.length = 1 := by have := hp.single; omega
  have hempty : p.encrypting.eraseIdx place = [] := by
    rw [← List.length_eq_zero_iff, List.length_eraseIdx_of_lt hlt, hone]
  refine ⟨hp.send.createReturned hcall hlen, ?_, ?_, ?_, ?_⟩
  · simp [FrameStream.sentCounterApplied, hempty, hp.next, hone]
  · simp [hempty]
  · simp [hempty]
  · simp [hp.counters, hcounter, List.range_succ]

theorem GaplessInvariant.step (hp : p.GaplessInvariant) (hid : isUuid p.stream.transferId = true)
    {e : StreamEvent} {q : Endpoint} (h : FittingStep p e q) : q.GaplessInvariant := by
  obtain ⟨⟨hstep, hserial⟩, hfits⟩ := h
  have hsend := hp.send.step hstep
  cases e with
  | createFrame key noncePrefix type body =>
    rcases hfits.createFrame_cases hid with ⟨e, he⟩ | ⟨call, hcall⟩
    · rw [Step, Endpoint.step, he] at hstep
      obtain rfl := Option.some.inj hstep
      exact hp
    · rw [Step, Endpoint.step, hcall] at hstep
      obtain rfl := Option.some.inj hstep
      exact hp.encrypt hserial hcall
  | encrypted place result =>
    cases step_moves hstep with
    | encryptFailed hcall hlost =>
      obtain ⟨ciphertext, rfl, hlen⟩ := Option.map_eq_some_iff.1 (hserial _ hcall)
      exact absurd hlen (hlost _ rfl)
    | createReturned hcall hlen => exact hp.createReturned hcall hlen
  | receiveFrame | decrypted =>
    cases step_moves hstep <;> exact { hp with send := hsend }

/-- The counters of the returned frames are written in their headers. -/
theorem GaplessInvariant.numbered (hp : p.GaplessInvariant) : p.Numbered := by
  intro k x hx
  have hmem := List.mem_of_getElem? hx
  obtain ⟨ciphertext, hframe, hlen⟩ := hp.send.created_frame x hmem
  obtain ⟨hvalid, hdata, hplaintext⟩ := hp.send.valid _ (hp.send.created_mem x hmem)
  have hsplit : splitFrame x.2 = .ok (x.1.header, ciphertext) := by
    rw [hframe, hdata]
    apply (splitFrame_append hvalid.uuid hvalid.version hvalid.counter_le hvalid.length_le
      (by rw [hlen, hplaintext])).2
    exact ⟨hvalid.travels, rfl, rfl⟩
  refine ⟨x.1.header, ciphertext, hsplit, ?_⟩
  have hk := (List.getElem?_eq_some_iff.1 hx).1
  have hcounter := congrArg (·[k]?) hp.counters
  simpa [List.getElem?_map, hx, List.getElem?_range hk] using hcounter

end GaplessStep

section Runs

variable {id : JsString} {d : FrameDirection} {confirmation : Option Bytes} {es : List StreamEvent}
  {p : Endpoint}
  (hid : isUuid id = true)
include hid

/-- A run in which every failing call is harmless is one in which every call
fits, and conversely. -/
theorem run_atomicStep_iff :
    Run AtomicStep (new id d confirmation) es p ↔ Run FittingStep (new id d confirmation) es p := by
  constructor
  · intro h
    refine h.mono_of (I := fun q => isUuid q.stream.transferId = true) hid ?_ ?_
    · exact fun q e t hq hs => transferId_run (.single hs.1.1) ▸ hq
    · exact fun q e t hq hs => ⟨hs.1, (failsAtomically_iff hq e).1 hs.2⟩
  · intro h
    refine h.mono_of (I := fun q => isUuid q.stream.transferId = true) hid ?_ ?_
    · exact fun q e t hq hs => transferId_run (.single hs.1.1) ▸ hq
    · exact fun q e t hq hs => ⟨hs.1, (failsAtomically_iff hq e).2 hs.2⟩

theorem gaplessInvariant_run (h : Run FittingStep (new id d confirmation) es p) :
    p.GaplessInvariant := by
  have hinv := h.invariant (I := fun q => isUuid q.stream.transferId = true ∧ q.GaplessInvariant)
    ⟨hid, gaplessInvariant_new id d confirmation⟩ ?_
  · exact hinv.2
  · exact fun q e t hq hs => ⟨transferId_run (.single hs.1.1) ▸ hq.1, hq.2.step hq.1 hs⟩

end Runs

/-- In a run of calls that do not overlap, with an encryption that never fails, every failing call
changes nothing on the send side and the returned frames are numbered without a gap, if and only if
every call that passes the checks of the stream has a plaintext and a nonce prefix that
`encryptFrame` takes. -/
theorem createFrame_atomic_iff {id : JsString} {d : FrameDirection} {confirmation : Option Bytes}
    (hid : isUuid id = true) (es : List StreamEvent) (p : Endpoint) :
    Run AtomicStep (new id d confirmation) es p ∧ p.Numbered ↔
      Run FittingStep (new id d confirmation) es p := by
  constructor
  · exact fun h => (run_atomicStep_iff hid).1 h.1
  · exact fun h => ⟨(run_atomicStep_iff hid).2 h, (gaplessInvariant_run hid h).numbered⟩

/-- A refused call changes nothing. -/
theorem createFrame_atomic_iff_accept :
    ∃ p, Run AtomicStep (new sampleTransferId .r2s none) refusedAccept p ∧ p.Numbered ∧
      p.created.length = 2 := by
  have hsome : ∃ p ∈ exec (fun p e => if p.Serial e ∧ p.Fits e then p.step e else none)
      (new sampleTransferId .r2s none) refusedAccept, p.created.length = 2 := by
    decide +kernel
  obtain ⟨p, hexec, hcreated⟩ := hsome
  have hfitting := (Run.of_exec_guarded hexec).mono
    fun q e t h => (⟨⟨h.1, h.2.1⟩, h.2.2⟩ : FittingStep q e t)
  obtain ⟨hrun, hnumbered⟩ := (createFrame_atomic_iff (by decide +kernel) _ _).2 hfitting
  exact ⟨p, hrun, hnumbered, hcreated⟩

/-- An `accept` with a nonce prefix of three bytes, and then one with a prefix of four. -/
def shortPrefix : List StreamEvent :=
  overlappingAccepts.take 4 ++
    [.createFrame ⟨[]⟩ [0, 0, 0] .accept [], .createFrame ⟨[]⟩ [0, 0, 0, 0] .accept [],
      .encrypted 0 (some (emptyFrame .accept).ciphertext)]

/-- The refused call uses the counter 1 up, so that the second frame returned has counter 2. -/
theorem createFrame_atomic_iff_shortPrefix :
    ¬ ∀ es p, Run SerialStep (new sampleTransferId .r2s none) es p →
      Run AtomicStep (new sampleTransferId .r2s none) es p ∧ p.Numbered := by
  intro hall
  have hsecond : ((exec (fun p e => if p.Serial e then p.step e else none)
      (new sampleTransferId .r2s none) shortPrefix).bind fun p => p.created[1]?.map fun x =>
        (splitFrame x.2).toOption.map fun y => y.1.counter) = some (some 2) := by
    decide +kernel
  obtain ⟨p, hexec, hcreated⟩ := Option.bind_eq_some_iff.1 hsecond
  obtain ⟨x, hx, hcounter⟩ := Option.map_eq_some_iff.1 hcreated
  obtain ⟨-, hnumbered⟩ := hall _ _ (Run.of_exec_guarded hexec)
  obtain ⟨header, ciphertext, hsplit, hone⟩ := hnumbered 1 x hx
  rw [hsplit] at hcounter
  exact absurd (hone.symm.trans (Option.some.inj hcounter)) (by decide)

end Endpoint

end SelfRelay
