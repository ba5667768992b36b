import SelfRelay.Protocol.Overlap

/-!
# The secure channel

An honest peer creates frames at one endpoint while an adversary hands arbitrary bytes to the
receiving endpoint.  The AEAD is ideal: `decrypt` succeeds only on a key, nonce, additional data and
ciphertext that the peer's `encrypt` produced, and then returns what was encrypted
(`Channel.Opens`).  Everything else is left to the adversary: which byte strings arrive, in which
order, how often, and when the promises of overlapping calls settle.

`receiver_prefix_of_peer` says that what the receiver accepts is a prefix of what the peer created
in counter order.
-/

namespace SelfRelay

open StepSystem KeyOrder

/-- The sending and the receiving side of one direction. -/
structure Channel where
  peer : Endpoint
  receiver : Endpoint
  deriving DecidableEq, Repr

/-- An event at one of the two sides. -/
inductive ChannelEvent
  | peer (e : StreamEvent)
  | receiver (e : StreamEvent)
  deriving DecidableEq, Repr

namespace Channel

/-- The ideal AEAD: the call opens to a plaintext that the peer's `encrypt` turned into it. -/
def Opens (c : Channel) (call : DecryptCall) (plaintext : Bytes) : Prop :=
  ∃ x ∈ c.peer.encrypted, x.1.key = call.key ∧ x.1.iv = call.iv ∧
    x.1.additionalData = call.additionalData ∧ x.2 = call.ciphertext ∧ x.1.plaintext = plaintext

instance (c : Channel) (call : DecryptCall) (plaintext : Bytes) :
    Decidable (c.Opens call plaintext) :=
  inferInstanceAs (Decidable (∃ x ∈ _, _))

/-- What the AEAD allows to happen at the receiver. -/
def Allows (c : Channel) : StreamEvent → Prop
  | .decrypted place (some plaintext) =>
      ∀ call ∈ c.receiver.decrypting[place]?, c.Opens call plaintext
  | _ => True

instance (c : Channel) (e : StreamEvent) : Decidable (c.Allows e) :=
  match e with
  | .decrypted _ (some _) => inferInstanceAs (Decidable (∀ call ∈ _, _))
  | .decrypted _ none | .createFrame .. | .encrypted .. | .receiveFrame .. =>
      inferInstanceAs (Decidable True)

/-- One event of the channel. -/
def step (c : Channel) : ChannelEvent → Option Channel
  | .peer e => (c.peer.step e).map fun p => { c with peer := p }
  | .receiver e =>
    if c.Allows e then (c.receiver.step e).map fun r => { c with receiver := r } else none

/-- What a call of `receiveFrame` that reached `decrypt` looks like. -/
def WellFormed (call : DecryptCall) : Prop :=
  call.header.Valid ∧ call.additionalData = call.header.bytes ∧
    call.ciphertext.length = call.header.plaintextLength + frameTagBytes

theorem wellFormed_of_receiveFrame {s : FrameStream} {key : CryptoKey}
    {noncePrefix frame : Bytes} {call : DecryptCall}
    (h : s.receiveFrame key noncePrefix frame = .ok call) : WellFormed call := by
  obtain ⟨header, ciphertext, hsplit, -, -, -, -, -, hvalid, rfl⟩ :=
    FrameStream.receiveFrame_eq_ok.1 h
  exact ⟨hvalid, rfl, (splitFrame_eq_ok hsplit).2.2⟩

/-- An authentic call carries a header the peer created a frame with. -/
theorem exists_created {c : Channel} (hpeer : c.peer.SendInvariant) {call : DecryptCall}
    (hcall : WellFormed call) {plaintext : Bytes} (hopens : c.Opens call plaintext) :
    ∃ x ∈ c.peer.created, x.1.header = call.header ∧ x.1.plaintext = plaintext := by
  obtain ⟨x, hx, -, -, hdata, hciphertext, rfl⟩ := hopens
  obtain ⟨hvalid, hbytes, hlen⟩ := hpeer.valid _ (hpeer.encrypted_mem x hx)
  -- the additional data is the encoding of both headers
  have hheader : x.1.header = call.header :=
    FrameHeader.bytes_injective hvalid hcall.1 (by rw [← hbytes, hdata, hcall.2.1])
  refine ⟨_, hpeer.created_of_encrypted x hx ?_, hheader, rfl⟩
  rw [hciphertext, hcall.2.2, ← hlen, hheader]

/-! ## The invariant -/

/-- The receiver's counter, confirmation flag and output agree with what the peer created. -/
structure Invariant (c : Channel) : Prop where
  peer : c.peer.SendInvariant
  decrypting : ∀ call ∈ c.receiver.decrypting, WellFormed call
  confirmed : c.receiver.stream.receivedConfirmation = true →
    c.receiver.received.length = c.receiver.stream.receiveCounter.nextValue ∧
      0 < c.receiver.stream.receiveCounter.nextValue
  unconfirmed : c.receiver.stream.receivedConfirmation = false → c.receiver.received = []
  created : ∀ i r, c.receiver.received[i]? = some r → ∃ x ∈ c.peer.created,
    x.1.header.counter = i ∧ (x.1.header.type, x.1.plaintext) = r

theorem invariant_new {peer receiver : Endpoint} (hpeer : peer.SendInvariant)
    (hreceiver : ∃ id d confirmation, receiver = .new id d confirmation) :
    Invariant ⟨peer, receiver⟩ := by
  obtain ⟨id, d, confirmation, rfl⟩ := hreceiver
  exact ⟨hpeer, nofun, nofun, fun _ => rfl, nofun⟩

section Steps

variable {c : Channel}

/-- The list of created frames only grows. -/
theorem created_subset_of_step {p q : Endpoint} {e : StreamEvent} (h : p.step e = some q) :
    p.created ⊆ q.created := by
  cases Endpoint.step_moves h with
  | createReturned => exact List.subset_append_left _ _
  | _ => exact List.Subset.refl _

theorem Invariant.peerStep (hc : c.Invariant) {e : StreamEvent} {p : Endpoint}
    (h : c.peer.step e = some p) : Invariant { c with peer := p } where
  peer := hc.peer.step h
  decrypting := hc.decrypting
  confirmed := hc.confirmed
  unconfirmed := hc.unconfirmed
  created i r hr := by
    obtain ⟨x, hx, hcounter, heq⟩ := hc.created i r hr
    exact ⟨x, created_subset_of_step h hx, hcounter, heq⟩

/-- An authentic frame that arrives in order is the next one the peer created. -/
theorem Invariant.next_created (hc : c.Invariant) {place : ℕ} {call : DecryptCall}
    {plaintext : Bytes} (hallows : c.Allows (.decrypted place (some plaintext)))
    (hcall : c.receiver.decrypting[place]? = some call)
    (hcounter : call.header.counter = c.receiver.stream.receiveCounter.nextValue) :
    ∃ x ∈ c.peer.created,
      x.1.header.counter = c.receiver.stream.receiveCounter.nextValue ∧
      (x.1.header.type, x.1.plaintext) = (call.header.type, plaintext) ∧
      (call.header.type = .confirm ↔ c.receiver.stream.receiveCounter.nextValue = 0) := by
  have hwell := hc.decrypting call (List.mem_of_getElem? hcall)
  obtain ⟨x, hx, hheader, rfl⟩ := exists_created hc.peer hwell (hallows call hcall)
  have hconfirm := hc.peer.confirm_first _ (hc.peer.created_mem x hx)
  rw [hheader, hcounter] at hconfirm
  exact ⟨x, hx, by rw [hheader, hcounter], by rw [hheader], hconfirm⟩

theorem Invariant.accepted (hc : c.Invariant) {place : ℕ} {call : DecryptCall}
    {plaintext : Bytes} (hallows : c.Allows (.decrypted place (some plaintext)))
    (hcall : c.receiver.decrypting[place]? = some call)
    (hcounter : call.header.counter = c.receiver.stream.receiveCounter.nextValue)
    (hcheck : c.receiver.stream.checkReceived call.header plaintext = .ok ()) :
    Invariant { c with receiver := { c.receiver with
      stream := c.receiver.stream.accepted call.header.type
      decrypting := c.receiver.decrypting.eraseIdx place
      received := c.receiver.received ++ [(call.header.type, plaintext)] } } := by
  obtain ⟨x, hx, hxcounter, hxeq, hconfirm⟩ := hc.next_created hallows hcall hcounter
  obtain ⟨-, hdata⟩ := FrameStream.checkReceived_eq_ok.1 hcheck
  -- an accepted frame is the confirmation or comes after it
  have hflag : (c.receiver.stream.receivedConfirmation || call.header.type = .confirm) = true := by
    by_cases h : call.header.type = .confirm
    · simp [h]
    · simp [hdata h]
  have hlen : c.receiver.received.length = c.receiver.stream.receiveCounter.nextValue := by
    rcases hflagged : c.receiver.stream.receivedConfirmation with _ | _
    · have htype : call.header.type = .confirm := by simpa [hflagged] using hflag
      rw [hc.unconfirmed hflagged, hconfirm.1 htype]
      rfl
    · exact (hc.confirmed hflagged).1
  refine ⟨hc.peer, fun d hd => hc.decrypting d (List.mem_of_mem_eraseIdx hd), fun _ => ?_,
    fun h => ?_, fun i r hr => ?_⟩
  · simp [FrameStream.accepted, FrameStream.consumed, hlen]
  · exact absurd (hflag.symm.trans h) (by simp)
  · rw [List.getElem?_append] at hr
    split_ifs at hr with hi
    · exact hc.created i r hr
    · rw [List.getElem?_singleton, Option.ite_none_right_eq_some, Option.some.injEq] at hr
      exact ⟨x, hx, by omega, hxeq.trans hr.2⟩

theorem Invariant.receiverStep (hc : c.Invariant) {e : StreamEvent} {r : Endpoint}
    (hallows : c.Allows e) (h : c.receiver.step e = some r) :
    Invariant { c with receiver := r } := by
  cases Endpoint.step_moves h with
  | createRefused | counterLost | encrypt | encryptFailed | createReturned | receiveRefused =>
    exact { hc with }
  | decrypt hcall =>
    refine { hc with decrypting := ?_ }
    simp only [List.forall_mem_append, List.forall_mem_singleton]
    exact ⟨hc.decrypting, wellFormed_of_receiveFrame hcall⟩
  | decryptFailed =>
    exact { hc with decrypting := fun d hd => hc.decrypting d (List.mem_of_mem_eraseIdx hd) }
  | @counterConsumed _ call plaintext _ hcall _ hcounter hcheck =>
    obtain ⟨-, -, -, -, hconfirm⟩ := hc.next_created hallows hcall hcounter
    have hflag : c.receiver.stream.receivedConfirmation = false := by
      -- once confirmed, the checks behind the counter cannot fail
      by_contra hne
      rw [Bool.not_eq_false] at hne
      have htype : call.header.type ≠ .confirm := fun htype =>
        absurd (hconfirm.1 htype) (Nat.ne_of_gt (hc.confirmed hne).2)
      have hok : c.receiver.stream.checkReceived call.header plaintext = .ok () :=
        FrameStream.checkReceived_eq_ok.2 ⟨fun h => absurd h htype, fun _ => hne⟩
      rw [hok] at hcheck
      cases hcheck
    exact { hc with
      decrypting := fun d hd => hc.decrypting d (List.mem_of_mem_eraseIdx hd)
      confirmed := fun h => absurd (hflag.symm.trans h) (by simp) }
  | receiveReturned hcall _ hcounter hcheck => exact hc.accepted hallows hcall hcounter hcheck

theorem Invariant.step (hc : c.Invariant) {e : ChannelEvent} {t : Channel}
    (h : c.step e = some t) : t.Invariant := by
  cases e with
  | peer e =>
    obtain ⟨p, hp, rfl⟩ := Option.map_eq_some_iff.1 h
    exact hc.peerStep hp
  | receiver e =>
    rw [Channel.step, Option.ite_none_right_eq_some] at h
    obtain ⟨hallows, h⟩ := h
    obtain ⟨r, hr, rfl⟩ := Option.map_eq_some_iff.1 h
    exact hc.receiverStep hallows hr

end Steps

/-! ## Prefix -/

/-- The pairs of type and plaintext that the peer created, in counter order. -/
def peerCreated (c : Channel) : List (FrameType × Bytes) :=
  c.peer.createdInOrder.map fun x => (x.1.header.type, x.1.plaintext)

/-- A refusal before or at authentication leaves the receiving stream as it was. -/
theorem receiver_stream_of_refused {c t : Channel} {e : StreamEvent}
    (he : (∃ key noncePrefix frame, e = .receiveFrame key noncePrefix frame) ∨
      ∃ place, e = .decrypted place none)
    (h : c.step (.receiver e) = some t) : t.receiver.stream = c.receiver.stream := by
  rw [Channel.step, Option.ite_none_right_eq_some] at h
  obtain ⟨r, hr, rfl⟩ := Option.map_eq_some_iff.1 h.2
  rcases he with ⟨key, noncePrefix, frame, rfl⟩ | ⟨place, rfl⟩
  · cases Endpoint.step_moves hr <;> rfl
  · cases Endpoint.step_moves hr
    rfl

/-- The secure-channel property.  Whatever the adversary delivers and however the calls overlap,
what the receiver returned is a prefix of what the peer created in counter order; and an event that
throws before or at authentication changes nothing in the receiving stream. -/
theorem receiver_prefix_of_peer {id id' : JsString} {d d' : FrameDirection}
    {confirmation confirmation' : Option Bytes} {es : List ChannelEvent} {c : Channel}
    (h : Run (Step step) ⟨.new id d confirmation, .new id' d' confirmation'⟩ es c) :
    c.receiver.received <+: c.peerCreated ∧
    ∀ e t, ((∃ key noncePrefix frame, e = .receiveFrame key noncePrefix frame) ∨
        ∃ place, e = .decrypted place none) →
      c.step (.receiver e) = some t → t.receiver.stream = c.receiver.stream := by
  have hc := h.invariant (invariant_new (Endpoint.sendInvariant_new id d confirmation)
    ⟨id', d', confirmation', rfl⟩) fun _ _ _ hc hs => hc.step hs
  exact ⟨prefix_map_byKey _ hc.peer.created_nodup hc.created,
    fun _ _ => receiver_stream_of_refused⟩

/-- The peer's confirmation, delivered twice in overlapping calls. -/
def replayedConfirmation : List ChannelEvent :=
  let key : CryptoKey := ⟨[]⟩
  let noncePrefix : Bytes := [0, 0, 0, 0]
  let frame := sampleConfirm.bytes sampleTransferId .s2r 0
  [.peer (.createFrame key noncePrefix .confirm sampleConfirm.plaintext),
    .receiver (.receiveFrame key noncePrefix frame),
    .peer (.encrypted 0 (some sampleConfirm.ciphertext)),
    .receiver (.receiveFrame key noncePrefix frame),
    .receiver (.decrypted 1 (some sampleConfirm.plaintext)),
    .receiver (.decrypted 0 (some sampleConfirm.plaintext))]

theorem exec_replayedConfirmation :
    (exec step ⟨.new sampleTransferId .s2r none, .new sampleTransferId .r2s none⟩
      replayedConfirmation).isSome = true := by
  decide +kernel

theorem replayedConfirmation_accepted_once :
    ∃ c, Run (Step step) ⟨.new sampleTransferId .s2r none, .new sampleTransferId .r2s none⟩
        replayedConfirmation c ∧
      c.receiver.received = [(.confirm, sampleConfirm.plaintext)] ∧
      c.receiver.received <+: c.peerCreated := by
  have hrun := Run.of_exec (Option.some_get exec_replayedConfirmation).symm
  exact ⟨_, hrun, by decide +kernel, (receiver_prefix_of_peer hrun).1⟩

end Channel

end SelfRelay
