import SelfRelay.Protocol.SecureChannel
import SelfRelay.Transfer.Sealing

/-!
# Two engines and an adversary

The engines of the sender and of the recipient, with an adversary between them that hands arbitrary
messages to either and decides when and how everything settles.  It has to respect two things only
(`Pair.Allows`): the AEAD is ideal, so that `decrypt` opens nothing but what one of the two sides
encrypted, and the file that is sent has a content, which its slices are slices of.

`Secure.received_prefix` is the secure channel between the two: in either direction what an engine
received is a prefix of what the other one passed to `encrypt`.
-/

namespace SelfRelay

open StepSystem KeyOrder

/-! ## Directions -/

/-- What an endpoint encrypts goes in its own direction, what it decrypts in the other. -/
structure Endpoint.Directed (p : Endpoint) : Prop where
  encryptions : ∀ call ∈ p.encryptions, call.header.direction = p.stream.direction
  decrypting : ∀ call ∈ p.decrypting, call.header.direction = p.stream.receiveDirection

namespace Endpoint

variable {p q : Endpoint}

theorem Moves.direction {f : StreamEvent} (h : p.Moves f q) :
    q.stream.direction = p.stream.direction := by
  cases h <;> rfl

theorem Directed.step (hp : p.Directed) {f : StreamEvent} (h : p.step f = some q) : q.Directed := by
  have hmoves := step_moves h
  have hdirection := hmoves.direction
  cases hmoves with
  | createRefused | counterLost | encryptFailed | createReturned | receiveRefused =>
    exact ⟨hp.1, hp.2⟩
  | encrypt hcall =>
    obtain ⟨_, _, _, _, _, _, rfl⟩ := FrameStream.createFrame_eq_ok.1 hcall
    exact ⟨List.forall_mem_append.2 ⟨hp.encryptions, List.forall_mem_singleton.2 rfl⟩, hp.2⟩
  | decrypt hcall =>
    obtain ⟨header, ciphertext, _, _, hd, _, _, _, _, rfl⟩ := FrameStream.receiveFrame_eq_ok.1 hcall
    exact ⟨hp.1, List.forall_mem_append.2 ⟨hp.decrypting, List.forall_mem_singleton.2 hd⟩⟩
  | decryptFailed | counterConsumed | receiveReturned =>
    exact ⟨hp.1, fun call hcall => hp.decrypting call (List.mem_of_mem_eraseIdx hcall)⟩

theorem directed_new (id : JsString) (direction : FrameDirection) (confirmation : Option Bytes) :
    (new id direction confirmation).Directed :=
  ⟨List.forall_mem_nil _, List.forall_mem_nil _⟩

section Starts

variable {direction : FrameDirection} (h : p.Starts direction)
include h

theorem Starts.sendInvariant : p.SendInvariant := by
  obtain ⟨id, confirmation, rfl | ⟨f, _, hf⟩⟩ := h
  · exact sendInvariant_new id direction confirmation
  · exact (sendInvariant_new id direction confirmation).step hf

theorem Starts.directed : p.Directed ∧ p.stream.direction = direction := by
  obtain ⟨id, confirmation, rfl | ⟨f, _, hf⟩⟩ := h
  · exact ⟨directed_new id direction confirmation, rfl⟩
  · exact ⟨(directed_new id direction confirmation).step hf, (step_moves hf).direction⟩

/-- A channel starts with any two endpoints that start. -/
theorem Starts.channel {r : Endpoint} {direction' : FrameDirection} (hr : r.Starts direction') :
    Channel.Invariant ⟨p, r⟩ := by
  obtain ⟨id, confirmation, rfl | ⟨f, hf, hstep⟩⟩ := hr
  · exact Channel.invariant_new h.sendInvariant ⟨id, direction', confirmation, rfl⟩
  · refine (Channel.invariant_new h.sendInvariant ⟨id, direction', confirmation, rfl⟩).receiverStep
      ?_ hstep
    cases f with
    | decrypted => cases hf
    | createFrame | encrypted | receiveFrame => trivial

end Starts

end Endpoint

theorem FrameDirection.opposite_ne (d : FrameDirection) : d ≠ d.opposite := by
  cases d <;> decide

/-- The frames in the order in which they were passed to `encrypt`. -/
def Side.sealed (s : Side) : List (FrameType × Bytes) :=
  s.encryptions.map fun call => (call.header.type, call.plaintext)

/-- The chunks among some frames. -/
def chunksOf (l : List (FrameType × Bytes)) : List Bytes :=
  l.filterMap fun f => if f.1 = .chunk then some f.2 else none

@[simp] theorem chunksOf_append (l l' : List (FrameType × Bytes)) :
    chunksOf (l ++ l') = chunksOf l ++ chunksOf l' := List.filterMap_append

/-- What the receiver received is a prefix of what its peer passed to `encrypt`. -/
theorem Channel.Invariant.received_prefix {s : Side} {r : Endpoint}
    (h : Channel.Invariant ⟨s.endpoint, r⟩) : r.received <+: s.sealed := by
  have hnodup : (s.encryptions.map fun call => call.header.counter).Nodup := by
    rw [List.Nodup, List.pairwise_map]
    exact h.peer.increasing.imp fun hlt => Nat.ne_of_lt hlt
  have hprefix : r.received <+:
    (byKey (fun call : EncryptCall => call.header.counter) s.encryptions).map
      fun call => (call.header.type, call.plaintext) :=
    prefix_map_byKey _ hnodup fun i frame hframe => by
      obtain ⟨x, hx, hcounter, heq⟩ := h.created i frame hframe
      exact ⟨x.1, h.peer.created_mem x hx, hcounter, heq⟩
  have hincreasing : s.encryptions.Pairwise fun c d => c.header.counter < d.header.counter :=
    h.peer.increasing
  rwa [byKey_eq_self hincreasing] at hprefix

/-! ## The two engines -/

/-- The engines of a transfer, each with its record. -/
structure Pair where
  sender : Side
  recipient : Side
  deriving DecidableEq, Repr

/-- An event at one of the two engines. -/
inductive PairEvent where
  | sender (event : EngineEvent)
  | recipient (event : EngineEvent)
  deriving DecidableEq, Repr

/-- A slice of a content, as `Blob.slice` takes it. -/
def sliceOf (content : Bytes) (start stop : ℕ) : Bytes := (content.drop start).take (stop - start)

/-- The slice that a call of `sendFile` is reading is one of the content. -/
def Engine.ReadsSlice (content : Bytes) (e : Engine) (i : ℕ) (chunk : Bytes) : Prop :=
  match e.courseAt i with
  | some (file, _, .reading offset _ _) =>
    chunk = sliceOf content offset (min (offset + e.options.chunkSize) file.size)
  | _ => True

instance (content : Bytes) (e : Engine) (i : ℕ) (chunk : Bytes) :
    Decidable (e.ReadsSlice content i chunk) := by
  unfold Engine.ReadsSlice
  split <;> infer_instance

/-- No call of `sendFile` was made. -/
def Engine.NoCourse (e : Engine) : Prop := ∀ thread ∈ e.threads, thread.course = none

instance (e : Engine) : Decidable e.NoCourse := inferInstanceAs (Decidable (∀ thread ∈ _, _))

namespace Pair

/-- The ideal AEAD: the call opens to a plaintext that `encrypt` of one of the two
sides turned into it. -/
def Opens (p : Pair) (call : DecryptCall) (plaintext : Bytes) : Prop :=
  ∃ x ∈ p.sender.encrypted ++ p.recipient.encrypted, x.1.key = call.key ∧ x.1.iv = call.iv ∧
    x.1.additionalData = call.additionalData ∧ x.2 = call.ciphertext ∧ x.1.plaintext = plaintext

instance (p : Pair) (call : DecryptCall) (plaintext : Bytes) : Decidable (p.Opens call plaintext) :=
  inferInstanceAs (Decidable (∃ x ∈ _, _))

/-- What can happen at one side of the pair.  The owner of an engine calls
`sendFile` at most once. -/
def Allows (content : Bytes) (p : Pair) (s : Side) : EngineEvent → Prop
  | .decrypted (some plaintext) => ∀ call ∈ s.engine.decryptCall, p.Opens call plaintext
  | .sendFile file _ => s.engine.NoCourse ∧ file.size = content.length
  | .sliced i (some chunk) => s.engine.ReadsSlice content i chunk
  | _ => True

instance (content : Bytes) (p : Pair) (s : Side) (event : EngineEvent) :
    Decidable (p.Allows content s event) := by
  unfold Allows
  split <;> infer_instance

variable (ours theirs : Runtime) (content : Bytes)

/-- One event at one of the two sides, each with its own browser. -/
def step (p : Pair) : PairEvent → Option Pair
  | .sender event =>
    if p.Allows content p.sender event then
      (p.sender.step ours event).map fun s => { p with sender := s }
    else none
  | .recipient event =>
    if p.Allows content p.recipient event then
      (p.recipient.step theirs event).map fun s => { p with recipient := s }
    else none

variable {ours theirs content} {p q : Pair}

theorem step_sender {event : EngineEvent}
    (h : p.step ours theirs content (.sender event) = some q) :
    p.Allows content p.sender event ∧ ∃ s, p.sender.step ours event = some s ∧ q = { p with
      sender := s } := by
  rw [step, Option.ite_none_right_eq_some] at h
  obtain ⟨hallows, h⟩ := h
  obtain ⟨s, hs, rfl⟩ := Option.map_eq_some_iff.1 h
  exact ⟨hallows, s, hs, rfl⟩

theorem step_recipient {event : EngineEvent}
    (h : p.step ours theirs content (.recipient event) = some q) :
    p.Allows content p.recipient event ∧
      ∃ s, p.recipient.step theirs event = some s ∧ q = { p with recipient := s } := by
  rw [step, Option.ite_none_right_eq_some] at h
  obtain ⟨hallows, h⟩ := h
  obtain ⟨s, hs, rfl⟩ := Option.map_eq_some_iff.1 h
  exact ⟨hallows, s, hs, rfl⟩

/-! ## The secure channel -/

/-- Neither direction of the connection can be forged. -/
structure Secure (p : Pair) : Prop where
  outward : Channel.Invariant ⟨p.sender.endpoint, p.recipient.endpoint⟩
  inward : Channel.Invariant ⟨p.recipient.endpoint, p.sender.endpoint⟩
  senderDirected : p.sender.endpoint.Directed
  recipientDirected : p.recipient.endpoint.Directed
  senderTerminal : p.sender.engine.TerminalTypes
  recipientTerminal : p.recipient.engine.TerminalTypes

/-- What a side decrypts is not its own: the additional data names the direction. -/
theorem ne_of_directed {r : Endpoint} (hr : r.Directed) (hsend : r.SendInvariant)
    {call : DecryptCall}
    (hcall : call ∈ r.decrypting) (hwell : Channel.WellFormed call) {x : EncryptCall × Bytes}
    (hx : x ∈ r.encrypted) : x.1.additionalData ≠ call.additionalData := by
  intro hdata
  have hmem := hsend.encrypted_mem x hx
  obtain ⟨hvalid, hbytes, _⟩ := hsend.valid _ hmem
  have hheader : x.1.header = call.header :=
    FrameHeader.bytes_injective hvalid hwell.1 (by rw [← hbytes, hdata, hwell.2.1])
  have hdirection := hr.encryptions _ hmem
  rw [hheader, hr.decrypting call hcall] at hdirection
  exact FrameDirection.opposite_ne _ hdirection.symm

/-- What opens at a side was encrypted by the other one. -/
theorem opens_peer {peer r : Side} (hchannel : Channel.Invariant ⟨peer.endpoint, r.endpoint⟩)
    (hr : r.endpoint.Directed) (hsend : r.endpoint.SendInvariant) {call : DecryptCall}
    {plaintext : Bytes}
    (hcall : call ∈ r.endpoint.decrypting)
    (hopens : ∃ x, (x ∈ peer.encrypted ∨ x ∈ r.encrypted) ∧ x.1.key = call.key ∧ x.1.iv = call.iv ∧
      x.1.additionalData = call.additionalData ∧ x.2 = call.ciphertext ∧
      x.1.plaintext = plaintext) :
    Channel.Opens ⟨peer.endpoint, r.endpoint⟩ call plaintext := by
  obtain ⟨x, hx | hx, hkey, hiv, hdata, hrest⟩ := hopens
  · exact ⟨x, hx, hkey, hiv, hdata, hrest⟩
  · exact absurd hdata (ne_of_directed hr hsend hcall (hchannel.decrypting call hcall) hx)

/-- One side of the connection makes an event of its engine. -/
theorem channels_step {runtime : Runtime} {peer r s : Side} {event : EngineEvent}
    (hinward : Channel.Invariant ⟨peer.endpoint, r.endpoint⟩)
    (houtward : Channel.Invariant ⟨r.endpoint, peer.endpoint⟩) (hr : r.endpoint.Directed)
    (hterminal : r.engine.TerminalTypes)
    (hopens : ∀ plaintext, event = .decrypted (some plaintext) → ∀ call ∈ r.engine.decryptCall,
      ∃ x, (x ∈ peer.encrypted ∨ x ∈ r.encrypted) ∧ x.1.key = call.key ∧ x.1.iv = call.iv ∧
        x.1.additionalData = call.additionalData ∧ x.2 = call.ciphertext ∧
        x.1.plaintext = plaintext)
    (h : r.step runtime event = some s) :
    Channel.Invariant ⟨peer.endpoint, s.endpoint⟩ ∧ Channel.Invariant ⟨s.endpoint, peer.endpoint⟩ ∧
      s.endpoint.Directed ∧ s.engine.TerminalTypes := by
  have hafter := Engine.terminalTypes_step hterminal (Side.step_engine h)
  rcases Side.step_endpoint hterminal h with hsame | ⟨f, hf, hevent⟩
  · rw [hsame]
    exact ⟨hinward, houtward, hr, hafter⟩
  · refine ⟨hinward.receiverStep ?_ hf, houtward.peerStep hf, hr.step hf, hafter⟩
    rcases hevent with hquiet | ⟨result, rfl, rfl⟩
    · cases f with
      | decrypted => cases hquiet
      | createFrame | encrypted | receiveFrame => trivial
    · cases result with
      | none => trivial
      | some plaintext =>
        intro call hcall
        have hmem : call ∈ r.endpoint.decrypting := List.mem_of_getElem? hcall
        have hdecrypt : call ∈ r.engine.decryptCall := Option.mem_toList.1 hmem
        exact opens_peer hinward hr houtward.peer hmem (hopens plaintext rfl call hdecrypt)

theorem Secure.step (h : p.Secure) {event : PairEvent}
    (hstep : p.step ours theirs content event = some q) :
    q.Secure := by
  cases event with
  | sender event =>
    obtain ⟨hallows, s, hs, rfl⟩ := step_sender hstep
    obtain ⟨hinward, houtward, hdirected, hterminal⟩ :=
      channels_step h.inward h.outward h.senderDirected
      h.senderTerminal (fun plaintext hevent call hcall => by
        subst hevent
        obtain ⟨x, hx, hrest⟩ := hallows call hcall
        exact ⟨x, (List.mem_append.1 hx).symm, hrest⟩) hs
    exact ⟨houtward, hinward, hdirected, h.recipientDirected, hterminal, h.recipientTerminal⟩
  | recipient event =>
    obtain ⟨hallows, s, hs, rfl⟩ := step_recipient hstep
    obtain ⟨houtward, hinward, hdirected, hterminal⟩ :=
      channels_step h.outward h.inward h.recipientDirected
      h.recipientTerminal (fun plaintext hevent call hcall => by
        subst hevent
        obtain ⟨x, hx, hrest⟩ := hallows call hcall
        exact ⟨x, List.mem_append.1 hx, hrest⟩) hs
    exact ⟨houtward, hinward, h.senderDirected, hdirected, h.senderTerminal, hterminal⟩

/-- Both engines were just constructed. -/
structure Constructed (p : Pair) : Prop where
  sender : ∃ o registry readyState e, Engine.construct o registry readyState = .ok e ∧
    o.role = .sender ∧ p.sender = .of e
  recipient : ∃ o registry readyState e, Engine.construct o registry readyState = .ok e ∧
    o.role = .recipient ∧ p.recipient = .of e

theorem Constructed.secure (h : p.Constructed) : p.Secure := by
  obtain ⟨⟨o, registry, readyState, e, he, _, hs⟩,
    ⟨o', registry', readyState', e', he', _, hr⟩⟩ := h
  have hstart : p.sender.endpoint.Starts _ := hs ▸ Side.endpoint_of he
  have hstart' : p.recipient.endpoint.Starts _ := hr ▸ Side.endpoint_of he'
  have hengine : p.sender.engine = e := by rw [hs]; rfl
  have hengine' : p.recipient.engine = e' := by rw [hr]; rfl
  exact ⟨hstart.channel hstart', hstart'.channel hstart, hstart.directed.1, hstart'.directed.1,
    hengine ▸ Engine.terminalTypes_construct he, hengine' ▸ Engine.terminalTypes_construct he'⟩

/-- What the recipient received is a prefix of what the sender encrypted,
and the other way round. -/
theorem Secure.received_prefix (h : p.Secure) :
    p.recipient.received <+: p.sender.sealed ∧ p.sender.received <+: p.recipient.sealed :=
  ⟨h.outward.received_prefix, h.inward.received_prefix⟩

end Pair

end SelfRelay
