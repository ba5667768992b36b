import SelfRelay.Lib.KeyOrder
import SelfRelay.Lib.Run
import SelfRelay.Protocol.TypeSequence

/-!
# One side of a channel under interleaving

The calls of `createFrame` and `receiveFrame` on one `FrameStream` overlap at their `await`s.  An
`Endpoint` is a stream with the calls that are suspended on Web Crypto, and a `StreamEvent` either
starts a call or settles the promise of a suspended one, in any order and with any result.  `Moves`
lists what an event can do (`Endpoint.step_moves`), and every invariant below is a case analysis on
it.

`encrypt_nonces_distinct` is the nonce discipline of the send side.
-/

namespace SelfRelay

open StepSystem KeyOrder

/-! ## Endpoints -/

/-- A `FrameStream` with its suspended calls and the history of what it did. -/
structure Endpoint where
  stream : FrameStream
  /-- The `createFrame` calls that await `encrypt`. -/
  encrypting : List EncryptCall
  /-- The `receiveFrame` calls that await `decrypt`. -/
  decrypting : List DecryptCall
  /-- Every invocation of `encrypt`, in order. -/
  encryptions : List EncryptCall
  /-- The invocations of `encrypt` that were fulfilled, with the ciphertext. -/
  encrypted : List (EncryptCall × Bytes)
  /-- The frames that `createFrame` returned. -/
  created : List (EncryptCall × Bytes)
  /-- What `receiveFrame` returned, in order. -/
  received : List (FrameType × Bytes)
  deriving DecidableEq, Repr

/-- What can happen at an endpoint.  A settled promise is named by its place among the suspended
calls; `none` is a rejection. -/
inductive StreamEvent
  | createFrame (key : CryptoKey) (noncePrefix : Bytes) (type : FrameType) (body : Bytes)
  | encrypted (place : ℕ) (result : Option Bytes)
  | receiveFrame (key : CryptoKey) (noncePrefix frame : Bytes)
  | decrypted (place : ℕ) (result : Option Bytes)
  deriving DecidableEq, Repr

namespace Endpoint

/-- An endpoint whose stream was just constructed. -/
def new (transferId : JsString) (direction : FrameDirection) (confirmation : Option Bytes) :
    Endpoint :=
  ⟨.fresh transferId direction confirmation, [], [], [], [], [], []⟩

/-- One event at an endpoint; only the settling of a call that is not suspended is impossible. -/
def step (p : Endpoint) : StreamEvent → Option Endpoint
  | .createFrame key noncePrefix type body =>
    match p.stream.createFrame key noncePrefix type body with
    | (s, .error _) => some { p with stream := s }
    | (s, .ok call) =>
      some { p with
        stream := s
        encrypting := p.encrypting ++ [call]
        encryptions := p.encryptions ++ [call] }
  | .encrypted place result => do
    let call ← p.encrypting[place]?
    let q := { p with
      encrypting := p.encrypting.eraseIdx place
      encrypted := p.encrypted ++ result.toList.map (Prod.mk call) }
    match p.stream.createFrameResume call result with
    | (s, .error _) => some { q with stream := s }
    | (s, .ok frame) => some { q with stream := s, created := p.created ++ [(call, frame)] }
  | .receiveFrame key noncePrefix frame =>
    match p.stream.receiveFrame key noncePrefix frame with
    | .error _ => some p
    | .ok call => some { p with decrypting := p.decrypting ++ [call] }
  | .decrypted place result => do
    let call ← p.decrypting[place]?
    let q := { p with decrypting := p.decrypting.eraseIdx place }
    match p.stream.receiveFrameResume call result with
    | (s, .error _) => some { q with stream := s }
    | (s, .ok (header, plaintext)) =>
      some { q with stream := s, received := p.received ++ [(header.type, plaintext)] }

/-- The created frames in counter order. -/
def createdInOrder (p : Endpoint) : List (EncryptCall × Bytes) :=
  byKey (fun c => c.1.header.counter) p.created

end Endpoint

/-! ## What an event can do -/

/-- The stream after it handed out a counter. -/
def FrameStream.reserved (s : FrameStream) : FrameStream :=
  { s with sendCounter := ⟨s.sendCounter.nextValue + 1⟩ }

/-- The stream after it consumed a received counter. -/
def FrameStream.consumed (s : FrameStream) : FrameStream :=
  { s with receiveCounter := ⟨s.receiveCounter.nextValue + 1⟩ }

/-- The stream after it accepted a frame of the given type. -/
def FrameStream.accepted (s : FrameStream) (type : FrameType) : FrameStream :=
  { s.consumed with
    receivedConfirmation := s.receivedConfirmation || type = .confirm
    receivedType := some type }

namespace Endpoint

/-- The possible outcomes of an event. -/
inductive Moves (p : Endpoint) : StreamEvent → Endpoint → Prop
  /-- A check of `createFrame` throws. -/
  | createRefused (key noncePrefix type body) :
      Moves p (.createFrame key noncePrefix type body) p
  /-- `encryptFrame` throws when the counter is already reserved. -/
  | counterLost {key noncePrefix type body}
      (hle : p.stream.sendCounter.nextValue ≤ maxFrameCounter) :
      Moves p (.createFrame key noncePrefix type body) { p with stream := p.stream.reserved }
  /-- `encrypt` is invoked. -/
  | encrypt {key noncePrefix type body call}
      (hcall : p.stream.createFrame key noncePrefix type body = (p.stream.reserved, .ok call)) :
      Moves p (.createFrame key noncePrefix type body)
        { p with
          stream := p.stream.reserved
          encrypting := p.encrypting ++ [call]
          encryptions := p.encryptions ++ [call] }
  /-- The encryption fails, or its result has the wrong length. -/
  | encryptFailed {place result call} (hcall : p.encrypting[place]? = some call)
      (hlost : ∀ c ∈ result, c.length ≠ call.plaintext.length + frameTagBytes) :
      Moves p (.encrypted place result)
        { p with
          encrypting := p.encrypting.eraseIdx place
          encrypted := p.encrypted ++ result.toList.map (Prod.mk call) }
  /-- The call of `createFrame` returns. -/
  | createReturned {place call ciphertext} (hcall : p.encrypting[place]? = some call)
      (hlen : ciphertext.length = call.plaintext.length + frameTagBytes) :
      Moves p (.encrypted place (some ciphertext))
        { p with
          stream := p.stream.sentCounterApplied call.header.type
          encrypting := p.encrypting.eraseIdx place
          encrypted := p.encrypted ++ [(call, ciphertext)]
          created := p.created ++ [(call, call.additionalData ++ ciphertext)] }
  /-- A check of `receiveFrame` throws. -/
  | receiveRefused (key noncePrefix frame) : Moves p (.receiveFrame key noncePrefix frame) p
  /-- `decrypt` is invoked. -/
  | decrypt {key noncePrefix frame call}
      (hcall : p.stream.receiveFrame key noncePrefix frame = .ok call) :
      Moves p (.receiveFrame key noncePrefix frame) { p with decrypting := p.decrypting ++ [call] }
  /-- The decryption fails, its result has the wrong length, or the counter is stale. -/
  | decryptFailed {place result call} (hcall : p.decrypting[place]? = some call) :
      Moves p (.decrypted place result) { p with decrypting := p.decrypting.eraseIdx place }
  /-- A confirmation check throws when the counter is already consumed. -/
  | counterConsumed {place call plaintext e} (hcall : p.decrypting[place]? = some call)
      (hlen : plaintext.length = call.header.plaintextLength)
      (hcounter : call.header.counter = p.stream.receiveCounter.nextValue)
      (hcheck : p.stream.checkReceived call.header plaintext = .error e) :
      Moves p (.decrypted place (some plaintext))
        { p with stream := p.stream.consumed, decrypting := p.decrypting.eraseIdx place }
  /-- The call of `receiveFrame` returns. -/
  | receiveReturned {place call plaintext} (hcall : p.decrypting[place]? = some call)
      (hlen : plaintext.length = call.header.plaintextLength)
      (hcounter : call.header.counter = p.stream.receiveCounter.nextValue)
      (hcheck : p.stream.checkReceived call.header plaintext = .ok ()) :
      Moves p (.decrypted place (some plaintext))
        { p with
          stream := p.stream.accepted call.header.type
          decrypting := p.decrypting.eraseIdx place
          received := p.received ++ [(call.header.type, plaintext)] }

theorem step_moves {p q : Endpoint} {e : StreamEvent} (h : p.step e = some q) : p.Moves e q := by
  cases e with
  | createFrame key noncePrefix type body =>
    simp only [step] at h
    rcases FrameStream.createFrame_cases p.stream key noncePrefix type body with
      ⟨e, he⟩ | ⟨-, hle, heq⟩
    · rw [he] at h
      obtain rfl := Option.some.inj h
      exact .createRefused ..
    · rcases hcall : encryptFrame key noncePrefix
          (p.stream.headerFor type p.stream.sendCounter.nextValue body) body with e | call
      · rw [heq, hcall] at h
        obtain rfl := Option.some.inj h
        exact .counterLost hle
      · rw [hcall] at heq
        rw [heq] at h
        obtain rfl := Option.some.inj h
        exact .encrypt heq
  | encrypted place result =>
    obtain ⟨call, hcall, h⟩ := Option.bind_eq_some_iff.1 h
    rcases hresume : p.stream.createFrameResume call result with ⟨s, e | frame⟩ <;>
      simp only [hresume] at h <;> obtain rfl := Option.some.inj h
    · obtain rfl := FrameStream.createFrameResume_error hresume
      refine .encryptFailed hcall fun c hc hlen => ?_
      have hok : p.stream.createFrameResume call result = (_, .ok _) :=
        FrameStream.createFrameResume_eq_ok.2 ⟨rfl, c, hc, hlen, rfl⟩
      cases congrArg Prod.snd (hok.symm.trans hresume)
    · obtain ⟨rfl, ciphertext, rfl, hlen, rfl⟩ := FrameStream.createFrameResume_eq_ok.1 hresume
      exact .createReturned hcall hlen
  | receiveFrame key noncePrefix frame =>
    simp only [step] at h
    rcases hcall : p.stream.receiveFrame key noncePrefix frame with e | call <;>
      simp only [hcall] at h <;> obtain rfl := Option.some.inj h
    · exact .receiveRefused ..
    · exact .decrypt hcall
  | decrypted place result =>
    obtain ⟨call, hcall, h⟩ := Option.bind_eq_some_iff.1 h
    rcases FrameStream.receiveFrameResume_cases p.stream call result with
      ⟨e, he⟩ | ⟨plaintext, rfl, hlen, -, hcounter, ⟨e, hcheck, heq⟩ | ⟨hcheck, heq⟩⟩
    · simp only [he] at h
      obtain rfl := Option.some.inj h
      exact .decryptFailed hcall
    · simp only [heq] at h
      obtain rfl := Option.some.inj h
      exact .counterConsumed hcall hlen hcounter hcheck
    · simp only [heq] at h
      obtain rfl := Option.some.inj h
      exact .receiveReturned hcall hlen hcounter hcheck

/-! ## The send side -/

/-- What every reachable send side satisfies: the counters of the `encrypt` invocations increase,
stay below the next counter, and mark the confirmation as the frame with counter `0`. -/
structure SendInvariant (p : Endpoint) : Prop where
  valid : ∀ c ∈ p.encryptions, c.header.Valid ∧ c.additionalData = c.header.bytes ∧
    c.header.plaintextLength = c.plaintext.length
  nonce : ∀ c ∈ p.encryptions, frameNonce c.noncePrefix c.header.counter = .ok c.iv
  counter_lt : ∀ c ∈ p.encryptions, c.header.counter < p.stream.sendCounter.nextValue
  increasing : p.encryptions.Pairwise fun c d => c.header.counter < d.header.counter
  next_le : p.stream.sendCounter.nextValue ≤ maxFrameCounter + 1
  confirm_first : ∀ c ∈ p.encryptions, c.header.type = .confirm ↔ c.header.counter = 0
  confirm_body : ∀ c ∈ p.encryptions, c.header.type = .confirm →
    c.plaintext.length = confirmationBytes ∧ p.stream.confirmationMatches c.plaintext
  sentConfirmation : p.stream.sentConfirmation = true → 0 < p.stream.sendCounter.nextValue
  encrypting_mem : ∀ c ∈ p.encrypting, c ∈ p.encryptions
  encrypted_mem : ∀ x ∈ p.encrypted, x.1 ∈ p.encryptions
  created_mem : ∀ x ∈ p.created, x.1 ∈ p.encryptions
  created_of_encrypted : ∀ x ∈ p.encrypted, x.2.length = x.1.plaintext.length + frameTagBytes →
    (x.1, x.1.additionalData ++ x.2) ∈ p.created
  created_frame : ∀ x ∈ p.created, ∃ ciphertext, x.2 = x.1.additionalData ++ ciphertext ∧
    ciphertext.length = x.1.plaintext.length + frameTagBytes
  unsettled_nodup : ((p.encrypting ++ p.created.map Prod.fst).map
    fun c => c.header.counter).Nodup

theorem sendInvariant_new (id : JsString) (d : FrameDirection) (confirmation : Option Bytes) :
    (new id d confirmation).SendInvariant where
  valid := nofun
  nonce := nofun
  counter_lt := nofun
  increasing := .nil
  next_le := Nat.zero_le _
  confirm_first := nofun
  confirm_body := nofun
  sentConfirmation := nofun
  encrypting_mem := nofun
  encrypted_mem := nofun
  created_mem := nofun
  created_of_encrypted := nofun
  created_frame := nofun
  unsettled_nodup := .nil

section SendStep

variable {p : Endpoint}

/-- The call that `createFrame` suspends on carries the next counter. -/
theorem SendInvariant.encrypt (hp : p.SendInvariant) {key : CryptoKey} {noncePrefix : Bytes}
    {type : FrameType} {body : Bytes} {call : EncryptCall}
    (hcall : p.stream.createFrame key noncePrefix type body = (p.stream.reserved, .ok call)) :
    SendInvariant { p with
      stream := p.stream.reserved
      encrypting := p.encrypting ++ [call]
      encryptions := p.encryptions ++ [call] } := by
  obtain ⟨hcheck, hle, hid, hbody, hnonce, -, rfl⟩ := FrameStream.createFrame_eq_ok.1 hcall
  obtain ⟨htravels, -, hconfirm, hdata⟩ := FrameStream.checkCreate_eq_ok.1 hcheck
  have hlt : ∀ c ∈ p.encryptions, c.header.counter < p.stream.sendCounter.nextValue :=
    hp.counter_lt
  refine { hp with
    valid := ?_, nonce := ?_, counter_lt := ?_, increasing := ?_, next_le := ?_,
    confirm_first := ?_, confirm_body := ?_, sentConfirmation := fun _ => Nat.succ_pos _,
    encrypting_mem := ?_,
    encrypted_mem := fun x hx => List.mem_append_left _ (hp.encrypted_mem x hx),
    created_mem := fun x hx => List.mem_append_left _ (hp.created_mem x hx),
    unsettled_nodup := ?_ }
  · simp only [List.forall_mem_append, List.forall_mem_singleton]
    exact ⟨hp.valid, ⟨rfl, hid, hle, hbody, htravels⟩, trivial, rfl⟩
  · simp only [List.forall_mem_append, List.forall_mem_singleton]
    exact ⟨hp.nonce, frameNonce_eq_ok.2 ⟨hnonce, hle, rfl⟩⟩
  · simp only [List.forall_mem_append, List.forall_mem_singleton]
    exact ⟨fun c hc => Nat.lt_succ_of_lt (hlt c hc), Nat.lt_succ_self _⟩
  · rw [List.pairwise_append]
    refine ⟨hp.increasing, List.pairwise_singleton _ _, fun c hc d hd => ?_⟩
    obtain rfl := List.mem_singleton.1 hd
    exact hlt c hc
  · exact Nat.succ_le_succ hle
  · simp only [List.forall_mem_append, List.forall_mem_singleton]
    refine ⟨hp.confirm_first, fun h => (hconfirm h).2.1, fun h => ?_⟩
    by_contra hne
    have hpos := hp.sentConfirmation (hdata hne).1
    exact absurd h (Nat.ne_of_gt hpos)
  · simp only [List.forall_mem_append, List.forall_mem_singleton]
    exact ⟨hp.confirm_body, fun h => (hconfirm h).2.2⟩
  · simp only [List.forall_mem_append, List.forall_mem_singleton]
    exact ⟨fun c hc => List.mem_append_left _ (hp.encrypting_mem c hc), by simp⟩
  · have hfresh : p.stream.sendCounter.nextValue ∉ (p.encrypting ++ p.created.map Prod.fst).map
        fun c => c.header.counter := by
      simp only [List.map_append, List.mem_append, List.mem_map]
      rintro (⟨c, hc, he⟩ | ⟨_, ⟨x, hx, rfl⟩, he⟩)
      · exact absurd he (Nat.ne_of_lt (hlt c (hp.encrypting_mem c hc)))
      · exact absurd he (Nat.ne_of_lt (hlt x.1 (hp.created_mem x hx)))
    rw [List.append_assoc, List.singleton_append]
    exact (List.perm_middle.map _).nodup_iff.2 (List.nodup_cons.2 ⟨hfresh, hp.unsettled_nodup⟩)

/-- Settling a suspended call moves it out of the suspended ones. -/
theorem perm_eraseIdx {α : Type} {l : List α} {i : ℕ} {a : α} (h : l[i]? = some a) :
    l.Perm (a :: l.eraseIdx i) := by
  obtain ⟨hi, rfl⟩ := List.getElem?_eq_some_iff.1 h
  exact (List.getElem_cons_eraseIdx_perm hi).symm

theorem SendInvariant.encryptFailed (hp : p.SendInvariant) {place : ℕ} {result : Option Bytes}
    {call : EncryptCall} (hcall : p.encrypting[place]? = some call)
    (hlost : ∀ c ∈ result, c.length ≠ call.plaintext.length + frameTagBytes) :
    SendInvariant { p with
      encrypting := p.encrypting.eraseIdx place
      encrypted := p.encrypted ++ result.toList.map (Prod.mk call) } := by
  have hmem := hp.encrypting_mem call (List.mem_of_getElem? hcall)
  refine { hp with
    encrypting_mem := ?_, encrypted_mem := ?_, created_of_encrypted := ?_, unsettled_nodup := ?_ }
  · exact fun c hc => hp.encrypting_mem c (List.mem_of_mem_eraseIdx hc)
  · simp only [List.forall_mem_append, List.forall_mem_map]
    exact ⟨hp.encrypted_mem, fun _ _ => hmem⟩
  · simp only [List.forall_mem_append, List.forall_mem_map, Option.mem_toList]
    exact ⟨hp.created_of_encrypted, fun c hc hlen => absurd hlen (hlost c hc)⟩
  · exact hp.unsettled_nodup.sublist
      (((List.eraseIdx_sublist _ _).append (List.Sublist.refl _)).map _)

theorem SendInvariant.createReturned (hp : p.SendInvariant) {place : ℕ} {ciphertext : Bytes}
    {call : EncryptCall} (hcall : p.encrypting[place]? = some call)
    (hlen : ciphertext.length = call.plaintext.length + frameTagBytes) :
    SendInvariant { p with
      stream := p.stream.sentCounterApplied call.header.type
      encrypting := p.encrypting.eraseIdx place
      encrypted := p.encrypted ++ [(call, ciphertext)]
      created := p.created ++ [(call, call.additionalData ++ ciphertext)] } := by
  have hmem := hp.encrypting_mem call (List.mem_of_getElem? hcall)
  refine { hp with
    sentConfirmation := ?_, encrypting_mem := ?_, encrypted_mem := ?_, created_mem := ?_,
    created_of_encrypted := ?_, created_frame := ?_, unsettled_nodup := ?_ }
  · exact fun _ => Nat.zero_lt_of_lt (hp.counter_lt call hmem)
  · exact fun c hc => hp.encrypting_mem c (List.mem_of_mem_eraseIdx hc)
  · simp only [List.forall_mem_append, List.forall_mem_singleton]
    exact ⟨hp.encrypted_mem, hmem⟩
  · simp only [List.forall_mem_append, List.forall_mem_singleton]
    exact ⟨hp.created_mem, hmem⟩
  · simp only [List.forall_mem_append, List.forall_mem_singleton]
    exact ⟨fun x hx hlen => List.mem_append_left _ (hp.created_of_encrypted x hx hlen), by simp⟩
  · simp only [List.forall_mem_append, List.forall_mem_singleton]
    exact ⟨hp.created_frame, ciphertext, rfl, hlen⟩
  · have hperm : (p.encrypting.eraseIdx place ++
        (p.created ++ [(call, call.additionalData ++ ciphertext)]).map Prod.fst).Perm
        (p.encrypting ++ p.created.map Prod.fst) := by
      rw [List.map_append, ← List.append_assoc]
      refine List.perm_append_comm.trans ?_
      rw [← List.append_assoc]
      exact ((perm_eraseIdx hcall).symm).append_right _
    exact (hperm.map _).nodup_iff.2 hp.unsettled_nodup

theorem SendInvariant.step (hp : p.SendInvariant) {q : Endpoint} {e : StreamEvent}
    (h : p.step e = some q) : q.SendInvariant := by
  cases step_moves h with
  | createRefused => exact hp
  | counterLost hle =>
    exact { hp with
      counter_lt := fun c hc => Nat.lt_succ_of_lt (hp.counter_lt c hc)
      next_le := Nat.succ_le_succ hle
      sentConfirmation := fun _ => Nat.succ_pos _ }
  | encrypt hcall => exact hp.encrypt hcall
  | encryptFailed hcall hlost => exact hp.encryptFailed hcall hlost
  | createReturned hcall hlen => exact hp.createReturned hcall hlen
  | receiveRefused | decrypt | decryptFailed | counterConsumed | receiveReturned =>
    exact { hp with }

end SendStep

theorem sendInvariant_run {id : JsString} {d : FrameDirection} {confirmation : Option Bytes}
    {es : List StreamEvent} {p : Endpoint} (h : Run (Step step) (new id d confirmation) es p) :
    p.SendInvariant :=
  h.invariant (sendInvariant_new id d confirmation) fun _ _ _ hp hstep => hp.step hstep

/-- An exhausted counter refuses every further frame. -/
theorem createFrame_exhausted {s : FrameStream} (h : maxFrameCounter < s.sendCounter.nextValue)
    (key : CryptoKey) (noncePrefix : Bytes) (type : FrameType) (body : Bytes) :
    ∃ e, s.createFrame key noncePrefix type body = (s, .error e) := by
  rcases FrameStream.createFrame_cases s key noncePrefix type body with he | ⟨-, hle, -⟩
  · exact he
  · exact absurd hle (Nat.not_le_of_lt h)

/-- Once the counter is exhausted, `encrypt` is never invoked again. -/
theorem encryptions_exhausted {p q : Endpoint} {es : List StreamEvent}
    (h : maxFrameCounter < p.stream.sendCounter.nextValue) (hrun : Run (Step step) p es q) :
    q.encryptions = p.encryptions := by
  have hinv := hrun.invariant
    (I := fun t => maxFrameCounter < t.stream.sendCounter.nextValue ∧ t.encryptions = p.encryptions)
    ⟨h, rfl⟩ ?_
  · exact hinv.2
  · rintro s e t ⟨hlt, heq⟩ hstep
    cases step_moves hstep with
    | counterLost hle => exact absurd hle (Nat.not_le_of_lt hlt)
    | encrypt hcall =>
      exact absurd (FrameStream.createFrame_eq_ok.1 hcall).2.1 (Nat.not_le_of_lt hlt)
    | _ => exact ⟨hlt, heq⟩

/-- AES-GCM nonce uniqueness.  In every run the prefix and the counter, and so the nonce, of any two
invocations of `encrypt` differ; counters stay within 64 bits, and an exhausted counter ends
encryption for good; and a nonce determines its prefix and its counter. -/
theorem encrypt_nonces_distinct {id : JsString} {d : FrameDirection} {confirmation : Option Bytes}
    {es : List StreamEvent} {p : Endpoint} (h : Run (Step step) (new id d confirmation) es p) :
    (p.encryptions.map fun c => (c.noncePrefix, c.header.counter)).Nodup ∧
    (p.encryptions.map EncryptCall.iv).Nodup ∧
    (∀ c ∈ p.encryptions, c.header.counter ≤ maxFrameCounter ∧
      frameNonce c.noncePrefix c.header.counter = .ok c.iv) ∧
    (maxFrameCounter < p.stream.sendCounter.nextValue →
      (∀ key noncePrefix type body,
        ∃ e, p.stream.createFrame key noncePrefix type body = (p.stream, .error e)) ∧
      ∀ fs q, Run (Step step) p fs q → q.encryptions = p.encryptions) ∧
    (∀ (noncePrefix noncePrefix' : Bytes) (counter counter' : ℕ), noncePrefix.length = 4 →
      noncePrefix'.length = 4 → counter ≤ maxFrameCounter → counter' ≤ maxFrameCounter →
      frameNonce noncePrefix counter = frameNonce noncePrefix' counter' →
      noncePrefix = noncePrefix' ∧ counter = counter') := by
  have hp := sendInvariant_run h
  have hdistinct : (p.encryptions.map fun c => (c.noncePrefix, c.header.counter)).Nodup := by
    rw [List.Nodup, List.pairwise_map]
    exact hp.increasing.imp fun hlt he => absurd (Prod.mk.inj he).2 (Nat.ne_of_lt hlt)
  refine ⟨hdistinct, ?_, fun c hc => ⟨(hp.valid c hc).1.counter_le, hp.nonce c hc⟩, ?_, ?_⟩
  · rw [List.Nodup, List.pairwise_map] at hdistinct ⊢
    refine hdistinct.imp_of_mem fun hc hd hne he => hne ?_
    obtain ⟨hnonce, hcounter⟩ := frameNonce_inj (hp.nonce _ hc) (he ▸ hp.nonce _ hd)
    exact Prod.ext hnonce hcounter
  · exact fun hlt => ⟨createFrame_exhausted hlt, fun _ _ => encryptions_exhausted hlt⟩
  · intro p₁ p₂ c₁ c₂ hp₁ hp₂ hc₁ hc₂ he
    have hok := frameNonce_eq_ok.2 ⟨hp₁, hc₁, rfl⟩
    exact frameNonce_inj hok (he ▸ hok)

/-- Two `accept` frames created inside one encryption window. -/
def overlappingAccepts : List StreamEvent :=
  let key : CryptoKey := ⟨[]⟩
  let noncePrefix : Bytes := [0, 0, 0, 0]
  [.createFrame key noncePrefix .confirm sampleConfirm.plaintext,
    .encrypted 0 (some sampleConfirm.ciphertext),
    .receiveFrame key noncePrefix (sampleConfirm.bytes sampleTransferId .s2r 0),
    .decrypted 0 (some sampleConfirm.plaintext),
    .createFrame key noncePrefix .accept [],
    .createFrame key noncePrefix .accept [],
    .encrypted 0 (some (emptyFrame .accept).ciphertext),
    .encrypted 0 (some (emptyFrame .accept).ciphertext)]

theorem exec_overlappingAccepts :
    (exec step (new sampleTransferId .r2s none) overlappingAccepts).isSome = true := by
  decide +kernel

theorem overlappingAccepts_nonces_distinct :
    ∃ p, Run (Step step) (new sampleTransferId .r2s none) overlappingAccepts p ∧
      (p.encryptions.map fun c => (c.noncePrefix, c.header.counter)).Nodup := by
  have hrun := Run.of_exec (Option.some_get exec_overlappingAccepts).symm
  exact ⟨_, hrun, (encrypt_nonces_distinct hrun).1⟩

end Endpoint

end SelfRelay
