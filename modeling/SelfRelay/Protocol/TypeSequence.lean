import SelfRelay.Lib.Prefixes
import SelfRelay.Protocol.Stream

/-!
# The type language of a frame stream

The order of frame types is spread over `sequenceTypeAllowed`, `validateFrameTypeDirection` and the
confirmation flags of the stream.  Together they amount to one relation `follows` between the
previous type and the next, and the sequences it allows are the prefixes of `frameLanguage`
(`typesAllowed_iff`).

`receiveAll` delivers authentic frames one after another and `createAll` creates frames one after
another.  Each succeeds exactly on the sequences of its direction (`receiveAll_iff`,
`createAll_iff`), up to the `2 ^ 64` counters a direction has.
-/

open scoped Computability

namespace SelfRelay

/-! ## The grammar -/

/-- `(cancel|error)*` -/
def terminalFrames : Language FrameType := ({[.cancel]} + {[.error]})∗

/-- The type language of a direction: `confirm [file_offer] [manifest chunk* [complete]]` or
`confirm [accept] [receipt]`, each followed by `(cancel|error)*`. -/
def frameLanguage : FrameDirection → Language FrameType
  | .s2r => {[.confirm]} * ((1 + {[.fileOffer]}) *
      ((1 + {[.manifest]} * ({[.chunk]}∗ * (1 + {[.complete]}))) * terminalFrames))
  | .r2s => {[.confirm]} * ((1 + {[.accept]}) * ((1 + {[.receipt]}) * terminalFrames))

/-- What may still come after a frame of the given type. -/
def remaining : FrameDirection → Option FrameType → Language FrameType
  | d, none => frameLanguage d
  | .s2r, some .confirm => (1 + {[.fileOffer]}) *
      ((1 + {[.manifest]} * ({[.chunk]}∗ * (1 + {[.complete]}))) * terminalFrames)
  | .s2r, some .fileOffer =>
      (1 + {[.manifest]} * ({[.chunk]}∗ * (1 + {[.complete]}))) * terminalFrames
  | .s2r, some .manifest | .s2r, some .chunk => {[.chunk]}∗ * ((1 + {[.complete]}) * terminalFrames)
  | .r2s, some .confirm => (1 + {[.accept]}) * ((1 + {[.receipt]}) * terminalFrames)
  | .r2s, some .accept | .r2s, some .complete => (1 + {[.receipt]}) * terminalFrames
  | _, some _ => terminalFrames

/-- The next type passes every test of the stream after the previous one. -/
def follows (direction : FrameDirection) (previous : Option FrameType) (next : FrameType) : Bool :=
  next.travels direction && sequenceTypeAllowed previous next direction &&
    (previous.isSome || next = .confirm)

/-- Every type follows the one before it. -/
def typesAllowed (direction : FrameDirection) : Option FrameType → List FrameType → Bool
  | _, [] => true
  | previous, next :: rest =>
    follows direction previous next && typesAllowed direction (some next) rest

theorem remaining_cons (d : FrameDirection) (previous : Option FrameType) (next : FrameType)
    (rest : List FrameType) :
    next :: rest ∈ remaining d previous ↔
      follows d previous next = true ∧ rest ∈ remaining d (some next) := by
  have hterminal : next :: rest ∈ terminalFrames ↔
      (next = .cancel ∨ next = .error) ∧ rest ∈ terminalFrames := by
    rw [terminalFrames, Language.cons_mem_kstar, add_mul, Language.mem_add,
      Language.cons_mem_letter_mul, Language.cons_mem_letter_mul, or_and_right]
  rcases d with _ | _ <;> rcases previous with _ | previous
  -- one case for each previous type; the next type decides which part of the grammar is entered
  all_goals try cases previous
  all_goals
    simp only [remaining, frameLanguage, mul_assoc, Language.cons_mem_option_mul,
      Language.cons_mem_kstar_mul, Language.cons_mem_letter_mul, hterminal]
    cases next <;> simp [follows, FrameType.travels, sequenceTypeAllowed]

theorem nil_mem_terminalFrames : [] ∈ terminalFrames := Language.nil_mem_kstar _

theorem nil_mem_option_mul {L M : Language FrameType} (h : [] ∈ L) : [] ∈ (1 + M) * L :=
  Language.append_mem_mul (a := []) (.inl rfl) h

/-- Every state of the grammar can be completed to a word. -/
theorem exists_mem_remaining (d : FrameDirection) (previous : Option FrameType) :
    ∃ w, w ∈ remaining d previous := by
  have hs2r := nil_mem_option_mul (M := {[.manifest]} * ({[.chunk]}∗ * (1 + {[.complete]})))
    nil_mem_terminalFrames
  have hr2s := nil_mem_option_mul (M := {[.receipt]}) nil_mem_terminalFrames
  have hchunk : [] ∈ ({[.chunk]}∗ : Language FrameType) * ((1 + {[.complete]}) * terminalFrames) :=
    Language.append_mem_mul (a := []) (Language.nil_mem_kstar _)
      (nil_mem_option_mul nil_mem_terminalFrames)
  rcases previous with _ | previous
  · refine ⟨[.confirm], (remaining_cons d none .confirm []).2 ⟨by cases d <;> decide, ?_⟩⟩
    cases d
    exacts [nil_mem_option_mul hs2r, nil_mem_option_mul hr2s]
  · refine ⟨[], ?_⟩
    cases d <;> cases previous <;>
      first
        | exact nil_mem_terminalFrames
        | exact hs2r
        | exact hr2s
        | exact hchunk
        | exact nil_mem_option_mul hs2r
        | exact nil_mem_option_mul hr2s

/-- The allowed type sequences are the prefixes of what remains of the grammar. -/
theorem typesAllowed_iff (d : FrameDirection) (previous : Option FrameType)
    (types : List FrameType) :
    typesAllowed d previous types = true ↔ (remaining d previous).IsPrefixOf types := by
  induction types generalizing previous with
  | nil =>
    obtain ⟨w, hw⟩ := exists_mem_remaining d previous
    simpa [typesAllowed] using Language.isPrefixOf_nil hw
  | cons next rest ih =>
    rw [typesAllowed, Bool.and_eq_true, ih,
      Language.isPrefixOf_cons (remaining_cons d previous next)]

/-! ## Authentic frames -/

/-- An authentic frame: a type and a plaintext, with a ciphertext that opens to it. -/
structure WireFrame where
  type : FrameType
  plaintext : Bytes
  ciphertext : Bytes
  deriving DecidableEq, Repr

namespace WireFrame

/-- The header of the frame at a place of a direction. -/
def header (f : WireFrame) (transferId : JsString) (direction : FrameDirection) (counter : ℕ) :
    FrameHeader where
  v := transferProtocolVersion
  transferId := transferId
  direction := direction
  type := f.type
  counter := counter
  plaintextLength := f.plaintext.length

/-- The bytes of the frame at a place of a direction. -/
def bytes (f : WireFrame) (transferId : JsString) (direction : FrameDirection) (counter : ℕ) :
    Bytes :=
  (f.header transferId direction counter).bytes ++ f.ciphertext

/-- The sizes are those of an AES-GCM frame, and a confirmation carries the agreed value. -/
structure Admissible (confirmation : Option Bytes) (f : WireFrame) : Prop where
  plaintext_le : f.plaintext.length ≤ maxFramePlaintextBytes
  ciphertext_length : f.ciphertext.length = f.plaintext.length + frameTagBytes
  confirms : f.type = .confirm →
    f.plaintext.length = confirmationBytes ∧ ∀ value ∈ confirmation, value = f.plaintext

/-- The frames with consecutive counters, each beside the plaintext it opens to. -/
def numbered (transferId : JsString) (direction : FrameDirection) :
    ℕ → List WireFrame → List (Bytes × Bytes)
  | _, [] => []
  | counter, f :: fs =>
      (f.bytes transferId direction counter, f.plaintext) ::
        numbered transferId direction (counter + 1) fs

end WireFrame

/-! ## Receiving one frame after another -/

section Receive

variable (key : CryptoKey) (noncePrefix : Bytes)

/-- Deliver frames one after another, each with what it decrypts to, until one is refused. -/
def receiveAll : FrameStream → List (Bytes × Bytes) → Checked FrameStream
  | s, [] => .ok s
  | s, (frame, plaintext) :: rest => do
    let call ← s.receiveFrame key noncePrefix frame
    let (t, result) := s.receiveFrameResume call (some plaintext)
    let _ ← result
    receiveAll t rest

/-- A stream that accepted the frames before `counter` and nothing else. -/
structure Receiving (s : FrameStream) (counter : ℕ) : Prop where
  uuid : isUuid s.transferId = true
  counter_eq : s.receiveCounter.nextValue = counter
  confirmed : s.receivedConfirmation = s.receivedType.isSome
  start : s.receivedType = none → counter = 0

/-- The stream after it accepted a frame. -/
def FrameStream.received (s : FrameStream) (type : FrameType) : FrameStream :=
  { s with
    receiveCounter := ⟨s.receiveCounter.nextValue + 1⟩
    receivedConfirmation := true
    receivedType := some type }

variable {key noncePrefix} {s t : FrameStream} {counter : ℕ} {f : WireFrame}

theorem Receiving.received (h : Receiving s counter) (type : FrameType) :
    Receiving (s.received type) (counter + 1) :=
  ⟨h.uuid, by simp [FrameStream.received, h.counter_eq], rfl, nofun⟩

/-- The first segment admits an authentic frame exactly when its type may travel and follow. -/
theorem receiveFrame_wire (h : Receiving s counter) (hp : noncePrefix.length = 4)
    (hc : counter ≤ maxFrameCounter) (hf : f.Admissible s.confirmation) {call : DecryptCall} :
    s.receiveFrame key noncePrefix (f.bytes s.transferId s.receiveDirection counter) = .ok call ↔
      f.type.travels s.receiveDirection = true ∧
      sequenceTypeAllowed s.receivedType f.type s.receiveDirection = true ∧
      call = ⟨key, noncePrefix ++ BigEndian.encode 8 counter,
        f.header s.transferId s.receiveDirection counter,
        (f.header s.transferId s.receiveDirection counter).bytes, f.ciphertext⟩ := by
  simp only [FrameStream.receiveFrame_eq_ok, WireFrame.bytes, h.counter_eq]
  constructor
  · rintro ⟨header, ciphertext, hsplit, -, -, hallowed, -, -, -, rfl⟩
    obtain ⟨htravels, rfl, rfl⟩ :=
      (splitFrame_append h.uuid rfl hc hf.plaintext_le hf.ciphertext_length).1 hsplit
    exact ⟨htravels, hallowed, rfl⟩
  · rintro ⟨htravels, hallowed, rfl⟩
    exact ⟨_, _, (splitFrame_append h.uuid rfl hc hf.plaintext_le hf.ciphertext_length).2
      ⟨htravels, rfl, rfl⟩, rfl, rfl, hallowed, rfl, hp,
        ⟨rfl, h.uuid, hc, hf.plaintext_le, htravels⟩,
      rfl⟩

/-- The second segment accepts an authentic frame unless the confirmation is missing. -/
theorem receiveFrameResume_wire (h : Receiving s counter) (hc : counter ≤ maxFrameCounter)
    (hf : f.Admissible s.confirmation)
    (hallowed : sequenceTypeAllowed s.receivedType f.type s.receiveDirection = true)
    {call : DecryptCall} (hcall : call.header = f.header s.transferId s.receiveDirection counter)
    {r : FrameHeader × Bytes} :
    s.receiveFrameResume call (some f.plaintext) = (t, .ok r) ↔
      (s.receivedType.isSome || f.type = .confirm) = true ∧ t = s.received f.type ∧
        r = (call.header, f.plaintext) := by
  have hcheck : s.checkReceived call.header f.plaintext = .ok () ↔
      (s.receivedType.isSome || f.type = .confirm) = true := by
    rw [FrameStream.checkReceived_eq_ok, h.confirmed, hcall]
    by_cases hconfirm : f.type = .confirm
    · have hnone : s.receivedType = none := by
        simpa [sequenceTypeAllowed, hconfirm] using hallowed
      obtain ⟨hlen, hmatch⟩ := hf.confirms hconfirm
      simp [WireFrame.header, hconfirm, hnone, h.start hnone, hlen, FrameStream.confirmationMatches]
      exact hmatch
    · simp [WireFrame.header, hconfirm]
  have htype : call.header.type = f.type := by rw [hcall]; rfl
  have hflag (hpass : (s.receivedType.isSome || f.type = .confirm) = true) :
      (s.receivedConfirmation || call.header.type = .confirm) = true := by
    rw [h.confirmed, htype]
    exact hpass
  rw [FrameStream.receiveFrameResume_eq_ok]
  constructor
  · rintro ⟨p, hp, -, -, -, hpass, rfl, rfl⟩
    obtain rfl := Option.some.inj hp
    have hpass := hcheck.1 hpass
    exact ⟨hpass, by rw [hflag hpass, htype]; rfl, rfl⟩
  · rintro ⟨hpass, rfl, rfl⟩
    refine ⟨f.plaintext, rfl, by rw [hcall]; rfl, by rw [hcall]; exact hc,
      by rw [hcall]; exact h.counter_eq.symm, hcheck.2 hpass, ?_, rfl⟩
    rw [hflag hpass, htype]
    rfl

/-- Delivering one more authentic frame. -/
theorem receiveAll_cons (h : Receiving s counter) (hp : noncePrefix.length = 4)
    (hc : counter ≤ maxFrameCounter) (hf : f.Admissible s.confirmation)
    (rest : List (Bytes × Bytes)) :
    receiveAll key noncePrefix s
        ((f.bytes s.transferId s.receiveDirection counter, f.plaintext) :: rest) = .ok t ↔
      follows s.receiveDirection s.receivedType f.type = true ∧
        receiveAll key noncePrefix (s.received f.type) rest = .ok t := by
  simp only [receiveAll, bind_eq_ok, receiveFrame_wire h hp hc hf, follows, Bool.and_eq_true]
  constructor
  · rintro ⟨call, ⟨htravels, hallowed, rfl⟩, r, hr, hrest⟩
    obtain ⟨hpass, hs, -⟩ :=
      (receiveFrameResume_wire h hc hf hallowed rfl).1 (Prod.ext rfl hr)
    exact ⟨⟨⟨htravels, hallowed⟩, hpass⟩, hs ▸ hrest⟩
  · rintro ⟨⟨⟨htravels, hallowed⟩, hpass⟩, hrest⟩
    refine ⟨_, ⟨htravels, hallowed, rfl⟩,
      (f.header s.transferId s.receiveDirection counter, f.plaintext), ?_⟩
    rw [(receiveFrameResume_wire h hc hf hallowed rfl).2 ⟨hpass, rfl, rfl⟩]
    exact ⟨rfl, hrest⟩

/-- Authentic frames with consecutive counters are all accepted exactly when
their types are allowed. -/
theorem receiveAll_iff (hp : noncePrefix.length = 4) :
    ∀ (frames : List WireFrame) {s : FrameStream} {counter : ℕ}, Receiving s counter →
      counter + frames.length ≤ maxFrameCounter + 1 →
      (∀ f ∈ frames, f.Admissible s.confirmation) →
      ((∃ t, receiveAll key noncePrefix s
          (WireFrame.numbered s.transferId s.receiveDirection counter frames) = .ok t) ↔
        typesAllowed s.receiveDirection s.receivedType (frames.map WireFrame.type) = true)
  | [], s, counter, _, _, _ => by simp [receiveAll, WireFrame.numbered, typesAllowed]
  | f :: fs, s, counter, h, hlen, hadm => by
    simp only [List.length_cons] at hlen
    have hf := hadm f (by simp)
    have ih := receiveAll_iff hp fs (h.received f.type) (by omega)
      (fun g hg => hadm g (by simp [hg]))
    simp only [WireFrame.numbered, receiveAll_cons h hp (by omega) hf, List.map_cons, typesAllowed,
      Bool.and_eq_true, exists_and_left]
    exact and_congr_right fun _ => ih

end Receive

/-! ## Creating one frame after another -/

section Create

variable (key : CryptoKey) (noncePrefix : Bytes)

/-- Create a frame whose encryption returns the given ciphertext before anything else happens. -/
def createOne (s : FrameStream) (f : WireFrame) : FrameStream × Checked Bytes :=
  match s.createFrame key noncePrefix f.type f.plaintext with
  | (t, .error e) => (t, .error e)
  | (t, .ok call) => t.createFrameResume call (some f.ciphertext)

/-- Create frames one after another until a call throws. -/
def createAll : FrameStream → List WireFrame → Checked (List Bytes)
  | _, [] => .ok []
  | s, f :: fs => do
    let frame ← (createOne key noncePrefix s f).2
    let rest ← createAll (createOne key noncePrefix s f).1 fs
    return frame :: rest

/-- A stream that received the peer's confirmation and created the frames before `counter`. -/
structure Sending (s : FrameStream) (counter : ℕ) : Prop where
  uuid : isUuid s.transferId = true
  counter_eq : s.sendCounter.nextValue = counter
  counter_le : counter ≤ maxFrameCounter + 1
  peerConfirmed : s.receivedConfirmation = true
  confirmed : s.sentConfirmation = s.sentType.isSome
  start : s.sentType = none → counter = 0

/-- The stream after it created a frame. -/
def FrameStream.sent (s : FrameStream) (type : FrameType) : FrameStream :=
  { s with
    sendCounter := ⟨s.sendCounter.nextValue + 1⟩
    sentConfirmation := true
    sentType := some type }

variable {key noncePrefix} {s t : FrameStream} {counter : ℕ} {f : WireFrame}

theorem Sending.sent (h : Sending s counter) (hc : counter ≤ maxFrameCounter) (type : FrameType) :
    Sending (s.sent type) (counter + 1) :=
  ⟨h.uuid, by simp [FrameStream.sent, h.counter_eq], by omega, h.peerConfirmed, rfl, nofun⟩

/-- The checks of `createFrame` pass exactly when the type follows. -/
theorem checkCreate_wire (h : Sending s counter) (hf : f.Admissible s.confirmation) :
    s.checkCreate f.type f.plaintext = .ok () ↔ follows s.direction s.sentType f.type = true := by
  simp only [FrameStream.checkCreate_eq_ok, follows, Bool.and_eq_true, h.confirmed,
    h.peerConfirmed, h.counter_eq]
  by_cases hconfirm : f.type = .confirm
  · obtain ⟨hlen, hmatch⟩ := hf.confirms hconfirm
    simp only [hconfirm, forall_const, ne_eq, not_true_eq_false, false_implies, and_true,
      decide_true, Bool.or_true, hlen, true_and]
    constructor
    · rintro ⟨htravels, hallowed, -⟩
      exact ⟨htravels, hallowed⟩
    · rintro ⟨htravels, hallowed⟩
      have hnone : s.sentType = none := by simpa [sequenceTypeAllowed] using hallowed
      exact ⟨htravels, hallowed, by rw [hnone]; rfl, h.start hnone, hmatch⟩
  · simp [hconfirm, and_assoc]

/-- Creating one frame succeeds exactly when a counter is left and the type follows. -/
theorem createOne_eq_ok (h : Sending s counter) (hp : noncePrefix.length = 4)
    (hf : f.Admissible s.confirmation) {frame : Bytes} :
    createOne key noncePrefix s f = (t, .ok frame) ↔
      counter ≤ maxFrameCounter ∧ follows s.direction s.sentType f.type = true ∧
        t = s.sent f.type ∧ frame = f.bytes s.transferId s.direction counter := by
  have hafter (hallowed : follows s.direction s.sentType f.type = true) :
      ({ s with sendCounter := ⟨s.sendCounter.nextValue + 1⟩ } : FrameStream).sentCounterApplied
        f.type = s.sent f.type := by
    have hflag : (s.sentType.isSome || f.type = .confirm) = true := by
      simp only [follows, Bool.and_eq_true] at hallowed
      exact hallowed.2
    simp only [FrameStream.sentCounterApplied, FrameStream.sent, h.confirmed, hflag]
  unfold createOne
  constructor
  · intro hone
    rcases hcreate : s.createFrame key noncePrefix f.type f.plaintext with ⟨u, e | call⟩
    · rw [hcreate] at hone
      cases hone
    · obtain ⟨hcheck, hle, -, -, -, rfl, rfl⟩ := FrameStream.createFrame_eq_ok.1 hcreate
      have hallowed := (checkCreate_wire h hf).1 hcheck
      rw [hcreate] at hone
      obtain ⟨rfl, _, hct, -, rfl⟩ := FrameStream.createFrameResume_eq_ok.1 hone
      obtain rfl := Option.some.inj hct
      refine ⟨h.counter_eq ▸ hle, hallowed, hafter hallowed, ?_⟩
      rw [h.counter_eq]
      rfl
  · rintro ⟨hle, hallowed, rfl, rfl⟩
    have hcreate : s.createFrame key noncePrefix f.type f.plaintext = (_, .ok _) :=
      FrameStream.createFrame_eq_ok.2 ⟨(checkCreate_wire h hf).2 hallowed,
        h.counter_eq.symm ▸ hle, h.uuid, hf.plaintext_le, hp, rfl, rfl⟩
    rw [hcreate]
    refine FrameStream.createFrameResume_eq_ok.2 ⟨(hafter hallowed).symm, _, rfl,
      hf.ciphertext_length, ?_⟩
    rw [h.counter_eq]
    rfl

/-- Frames can be created one after another exactly when their types are allowed and the counter
suffices; they are then the frames with consecutive counters. -/
theorem createAll_eq_ok (hp : noncePrefix.length = 4) :
    ∀ (frames : List WireFrame) {s : FrameStream} {counter : ℕ} {sent : List Bytes},
      Sending s counter → (∀ f ∈ frames, f.Admissible s.confirmation) →
      (createAll key noncePrefix s frames = .ok sent ↔
        counter + frames.length ≤ maxFrameCounter + 1 ∧
        typesAllowed s.direction s.sentType (frames.map WireFrame.type) = true ∧
        sent = (WireFrame.numbered s.transferId s.direction counter frames).map Prod.fst)
  | [], s, counter, sent, h, _ => by
    have := h.counter_le
    simpa [createAll, typesAllowed, WireFrame.numbered, eq_comm] using fun _ => this
  | f :: fs, s, counter, sent, h, hadm => by
    have hone (t : FrameStream) (frame : Bytes) :
        createOne key noncePrefix s f = (t, .ok frame) ↔ _ :=
      createOne_eq_ok h hp (hadm f (by simp))
    simp only [createAll, bind_eq_ok, pure_eq_ok, List.length_cons, List.map_cons, typesAllowed,
      Bool.and_eq_true, WireFrame.numbered]
    constructor
    · rintro ⟨frame, hframe, rest, hrest, rfl⟩
      have hpair : createOne key noncePrefix s f =
          ((createOne key noncePrefix s f).1, .ok frame) := by rw [← hframe]
      obtain ⟨hc, hallowed, ht, rfl⟩ := (hone _ _).1 hpair
      rw [ht] at hrest
      obtain ⟨hlen, htypes, rfl⟩ := (createAll_eq_ok hp fs (h.sent hc f.type)
        fun g hg => hadm g (by simp [hg])).1 hrest
      exact ⟨by omega, ⟨hallowed, htypes⟩, rfl⟩
    · rintro ⟨hlen, ⟨hallowed, htypes⟩, rfl⟩
      have hc : counter ≤ maxFrameCounter := by omega
      rw [(hone _ _).2 ⟨hc, hallowed, rfl, rfl⟩]
      exact ⟨_, rfl, _, (createAll_eq_ok hp fs (h.sent hc f.type)
        fun g hg => hadm g (by simp [hg])).2 ⟨by omega, htypes, rfl⟩, rfl⟩

end Create

/-! ## The two sides agree -/

/-- A stream that has received the peer's confirmation and created nothing. -/
def FrameStream.afterPeerConfirmation (transferId : JsString) (direction : FrameDirection)
    (confirmation : Option Bytes) : FrameStream :=
  { FrameStream.fresh transferId direction confirmation with
    receiveCounter := ⟨1⟩
    receivedConfirmation := true
    receivedType := some .confirm }

theorem sending_afterPeerConfirmation {id : JsString} (hid : isUuid id = true)
    (d : FrameDirection) (confirmation : Option Bytes) :
    Sending (FrameStream.afterPeerConfirmation id d confirmation) 0 :=
  ⟨hid, rfl, Nat.zero_le _, rfl, rfl, fun _ => rfl⟩

theorem receiving_fresh {id : JsString} (hid : isUuid id = true) (d : FrameDirection)
    (confirmation : Option Bytes) : Receiving (FrameStream.fresh id d confirmation) 0 :=
  ⟨hid, rfl, rfl, fun _ => rfl⟩

theorem receiveAll_fresh_iff {key : CryptoKey} {noncePrefix : Bytes} {id : JsString}
    (hid : isUuid id = true) (hp : noncePrefix.length = 4) (d : FrameDirection)
    {confirmation : Option Bytes} {frames : List WireFrame}
    (hadm : ∀ f ∈ frames, f.Admissible confirmation) (hlen : frames.length ≤ maxFrameCounter + 1) :
    (∃ t, receiveAll key noncePrefix (FrameStream.fresh id d.opposite confirmation)
        (WireFrame.numbered id d 0 frames) = .ok t) ↔
      (frameLanguage d).IsPrefixOf (frames.map WireFrame.type) := by
  have h : (∃ t, receiveAll key noncePrefix (FrameStream.fresh id d.opposite confirmation)
      (WireFrame.numbered id _ 0 frames) = .ok t) ↔ _ :=
    receiveAll_iff hp frames (receiving_fresh hid d.opposite confirmation) (by omega) hadm
  have hd : (FrameStream.fresh id d.opposite confirmation).receiveDirection = d :=
    d.opposite_opposite
  rw [hd] at h
  exact h.trans (typesAllowed_iff d none _)

theorem createAll_afterPeerConfirmation {key : CryptoKey} {noncePrefix : Bytes} {id : JsString}
    (hid : isUuid id = true) (hp : noncePrefix.length = 4) (d : FrameDirection)
    {confirmation : Option Bytes} {frames : List WireFrame}
    (hadm : ∀ f ∈ frames, f.Admissible confirmation) {sent : List Bytes} :
    createAll key noncePrefix (.afterPeerConfirmation id d confirmation) frames = .ok sent ↔
      frames.length ≤ maxFrameCounter + 1 ∧
      (frameLanguage d).IsPrefixOf (frames.map WireFrame.type) ∧
      sent = (WireFrame.numbered id d 0 frames).map Prod.fst := by
  rw [createAll_eq_ok hp frames (sending_afterPeerConfirmation hid d confirmation) hadm,
    Nat.zero_add]
  exact and_congr_right fun _ => and_congr_left' (typesAllowed_iff d none _)

theorem zip_numbered (id : JsString) (d : FrameDirection) (frames : List WireFrame) (counter : ℕ) :
    ((WireFrame.numbered id d counter frames).map Prod.fst).zip (frames.map WireFrame.plaintext) =
      WireFrame.numbered id d counter frames := by
  induction frames generalizing counter with
  | nil => rfl
  | cons f fs ih => simp [WireFrame.numbered, ih]

/-- A stream accepts authentic frames one after another exactly when their types are a prefix of
the language of the direction; within the `2 ^ 64` counters of a direction it creates exactly the
same sequences, and the peer accepts what it created. -/
theorem frameStream_accepts_type_language (key : CryptoKey) (noncePrefix : Bytes) (id : JsString)
    (d : FrameDirection) (confirmation : Option Bytes) (hid : isUuid id = true)
    (hp : noncePrefix.length = 4) (frames : List WireFrame)
    (hadm : ∀ f ∈ frames, f.Admissible confirmation) :
    (frames.length ≤ maxFrameCounter + 1 →
      ((∃ t, receiveAll key noncePrefix (.fresh id d.opposite confirmation)
          (WireFrame.numbered id d 0 frames) = .ok t) ↔
        (frameLanguage d).IsPrefixOf (frames.map WireFrame.type))) ∧
    ((∃ sent, createAll key noncePrefix (.afterPeerConfirmation id d confirmation) frames =
        .ok sent) ↔
      frames.length ≤ maxFrameCounter + 1 ∧
        (frameLanguage d).IsPrefixOf (frames.map WireFrame.type)) ∧
    (∀ sent, createAll key noncePrefix (.afterPeerConfirmation id d confirmation)
      frames = .ok sent →
      ∃ t, receiveAll key noncePrefix (.fresh id d.opposite confirmation)
        (sent.zip (frames.map WireFrame.plaintext)) = .ok t) := by
  refine ⟨receiveAll_fresh_iff hid hp d hadm, ?_, ?_⟩
  · simp only [createAll_afterPeerConfirmation hid hp d hadm]
    exact ⟨fun ⟨_, hlen, htypes, _⟩ => ⟨hlen, htypes⟩, fun ⟨hlen, htypes⟩ => ⟨_, hlen, htypes, rfl⟩⟩
  · intro sent hsent
    obtain ⟨hlen, htypes, rfl⟩ := (createAll_afterPeerConfirmation hid hp d hadm).1 hsent
    rw [zip_numbered]
    exact (receiveAll_fresh_iff hid hp d hadm hlen).2 htypes

/-- The identifier of the concrete streams below. -/
def sampleTransferId : JsString := js "11111111-1111-4111-8111-111111111111"

/-- A confirmation of 32 zero bytes. -/
def sampleConfirm : WireFrame := ⟨.confirm, List.replicate 32 0, List.replicate 48 0⟩

/-- A frame with an empty plaintext. -/
def emptyFrame (type : FrameType) : WireFrame := ⟨type, [], List.replicate 16 0⟩

theorem sampleConfirm_admissible : sampleConfirm.Admissible none :=
  ⟨by decide, by decide, fun _ => ⟨by decide, nofun⟩⟩

theorem emptyFrame_admissible {type : FrameType} (h : type ≠ .confirm) :
    (emptyFrame type).Admissible none :=
  ⟨Nat.zero_le _, rfl, fun he => absurd he h⟩

theorem frameStream_accepts_confirm_accept :
    (∃ sent, createAll ⟨[]⟩ [0, 0, 0, 0] (.afterPeerConfirmation sampleTransferId .r2s none)
        [sampleConfirm, emptyFrame .accept] = .ok sent) ↔
      [sampleConfirm, emptyFrame .accept].length ≤ maxFrameCounter + 1 ∧
        (frameLanguage .r2s).IsPrefixOf [.confirm, .accept] :=
  (frameStream_accepts_type_language ⟨[]⟩ [0, 0, 0, 0] sampleTransferId .r2s none (by decide) rfl
    [sampleConfirm, emptyFrame .accept] (by
      simp only [List.mem_cons, List.not_mem_nil, or_false, forall_eq_or_imp, forall_eq]
      exact ⟨sampleConfirm_admissible, emptyFrame_admissible nofun⟩)).2.1

/-- A transfer of `n` empty chunks. -/
def chunkTransfer (n : ℕ) : List WireFrame :=
  sampleConfirm :: emptyFrame .manifest :: List.replicate n (emptyFrame .chunk)

theorem typesAllowed_replicate_chunk (n : ℕ) {previous : FrameType}
    (h : previous = .manifest ∨ previous = .chunk) :
    typesAllowed .s2r (some previous) (List.replicate n .chunk) = true := by
  induction n generalizing previous with
  | zero => rfl
  | succ n ih =>
    rw [List.replicate_succ, typesAllowed, ih (.inr rfl), Bool.and_true]
    rcases h with rfl | rfl <;> decide

theorem chunkTransfer_admissible (n : ℕ) : ∀ f ∈ chunkTransfer n, f.Admissible none := by
  simp only [chunkTransfer, List.mem_cons, List.mem_replicate, forall_eq_or_imp]
  refine ⟨sampleConfirm_admissible, emptyFrame_admissible nofun, ?_⟩
  rintro f ⟨-, rfl⟩
  exact emptyFrame_admissible nofun

theorem chunkTransfer_types (n : ℕ) :
    (frameLanguage .s2r).IsPrefixOf ((chunkTransfer n).map WireFrame.type) := by
  refine (typesAllowed_iff .s2r none _).1 ?_
  simp only [chunkTransfer, List.map_cons, List.map_replicate, typesAllowed, Bool.and_eq_true]
  refine ⟨?_, ?_, typesAllowed_replicate_chunk n (.inl rfl)⟩
  · exact show follows .s2r none .confirm = true by decide
  · exact show follows .s2r (some .confirm) .manifest = true by decide

theorem not_createAll_chunkTransfer {n : ℕ} (hn : maxFrameCounter < n) :
    ¬ ∃ sent, createAll ⟨[]⟩ [0, 0, 0, 0] (.afterPeerConfirmation sampleTransferId .s2r none)
      (chunkTransfer n) = .ok sent := by
  rintro ⟨sent, hsent⟩
  have hlen := ((createAll_afterPeerConfirmation (by decide) rfl .s2r
    (chunkTransfer_admissible n)).1 hsent).1
  simp only [chunkTransfer, List.length_cons, List.length_replicate] at hlen
  omega

/-- The language has words that no stream can create: the counter runs out. -/
theorem not_createAll_every_word :
    ¬ ∀ frames : List WireFrame, (∀ f ∈ frames, f.Admissible none) →
      ((∃ sent, createAll ⟨[]⟩ [0, 0, 0, 0] (.afterPeerConfirmation sampleTransferId .s2r none)
          frames = .ok sent) ↔
        (frameLanguage .s2r).IsPrefixOf (frames.map WireFrame.type)) := by
  intro hall
  obtain ⟨n, hn⟩ : ∃ n, maxFrameCounter < n := ⟨_, Nat.lt_succ_self _⟩
  exact not_createAll_chunkTransfer hn
    ((hall _ (chunkTransfer_admissible n)).2 (chunkTransfer_types n))

end SelfRelay
