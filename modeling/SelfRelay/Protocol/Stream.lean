import SelfRelay.Protocol.Frame

/-!
# The frame stream

`FrameCounter` and `FrameStream`, the stateful guard of one side of a confirmed channel.  Both
`createFrame` and `receiveFrame` suspend once, on Web Crypto; each is given by the segment before
the `await` (which returns the pending call) and the segment after it (which takes what the promise
settled to).  A segment that throws can already have changed the stream, so a segment returns the
new stream beside its result.

`createFrame_eq_ok` and `receiveFrame_eq_ok` say when the first segments reach Web Crypto,
`createFrameResume_eq_ok` and `receiveFrameResume_eq_ok` what an accepted frame changes.
-/

namespace SelfRelay

/-! ## Counters -/

/-- `FrameCounter`: the next value to hand out or to accept. -/
structure FrameCounter where
  nextValue : ℕ
  deriving DecidableEq, Repr

namespace FrameCounter

/-- `reserve` -/
def reserve (c : FrameCounter) : Checked (ℕ × FrameCounter) := do
  throwIf (c.nextValue > maxFrameCounter)
    (protocolError "Frame counter wrapped." "counter_wraparound")
  return (c.nextValue, ⟨c.nextValue + 1⟩)

/-- `accept` -/
def accept (c : FrameCounter) (value : ℕ) : Checked FrameCounter := do
  let counter ← requireFrameCounter value
  throwIf (counter ≠ c.nextValue)
    (protocolError "Frame counter is duplicated or out of order." "counter_mismatch")
  if c.nextValue = maxFrameCounter then return ⟨maxFrameCounter + 1⟩
  return ⟨c.nextValue + 1⟩

theorem reserve_eq_ok {c d : FrameCounter} {value : ℕ} :
    c.reserve = .ok (value, d) ↔
      c.nextValue ≤ maxFrameCounter ∧ value = c.nextValue ∧ d = ⟨c.nextValue + 1⟩ := by
  simp only [reserve, bind_eq_ok, throwIf_eq_ok, pure_eq_ok, Prod.mk.injEq, gt_iff_lt, not_lt]
  constructor
  · rintro ⟨-, h, rfl, rfl⟩
    exact ⟨h, rfl, rfl⟩
  · rintro ⟨h, rfl, rfl⟩
    exact ⟨(), h, rfl, rfl⟩

/-- At the last counter the two branches of `accept` agree. -/
theorem accept_eq_ok {c d : FrameCounter} {value : ℕ} :
    c.accept value = .ok d ↔
      value ≤ maxFrameCounter ∧ value = c.nextValue ∧ d = ⟨c.nextValue + 1⟩ := by
  have hbranch : (if c.nextValue = maxFrameCounter then (return ⟨maxFrameCounter + 1⟩)
      else return ⟨c.nextValue + 1⟩ : Checked FrameCounter) = .ok ⟨c.nextValue + 1⟩ := by
    split_ifs with h
    · rw [h]; rfl
    · rfl
  simp only [accept, requireFrameCounter, bind_eq_ok, throwIf_eq_ok, pure_eq_ok, hbranch,
    gt_iff_lt, not_lt, ne_eq, not_not]
  constructor
  · rintro ⟨_, ⟨-, h, rfl⟩, -, rfl, h'⟩
    exact ⟨h, rfl, (Except.ok.inj h').symm⟩
  · rintro ⟨h, rfl, rfl⟩
    exact ⟨_, ⟨(), h, rfl⟩, (), rfl, rfl⟩

end FrameCounter

/-! ## The type sequence -/

/-- `sequenceTypeAllowed` -/
def sequenceTypeAllowed (previous : Option FrameType) (next : FrameType)
    (direction : FrameDirection) : Bool :=
  if next = .confirm then previous = none
  else if previous = none ∨ previous = some .confirm then
    next = .fileOffer ∨ next = .accept ∨ next = .manifest ∨ next = .receipt ∨ next = .cancel ∨
      next = .error
  else if next = .manifest then direction = .s2r ∧ previous = some .fileOffer
  else if next = .chunk then
    direction = .s2r ∧ (previous = some .manifest ∨ previous = some .chunk)
  else if next = .complete then
    direction = .s2r ∧ (previous = some .manifest ∨ previous = some .chunk)
  else if next = .receipt then
    direction = .r2s ∧ (previous = some .complete ∨ previous = some .accept)
  else next = .cancel ∨ next = .error

/-! ## The stream -/

/-- The fields of `FrameStream`. -/
structure FrameStream where
  transferId : JsString
  direction : FrameDirection
  sendCounter : FrameCounter
  receiveCounter : FrameCounter
  confirmation : Option Bytes
  sentConfirmation : Bool
  receivedConfirmation : Bool
  sentType : Option FrameType
  receivedType : Option FrameType
  deriving DecidableEq, Repr

namespace FrameStream

def receiveDirection (s : FrameStream) : FrameDirection := s.direction.opposite

/-- `new FrameStream(…)` once its arguments passed. -/
def fresh (transferId : JsString) (direction : FrameDirection) (confirmation : Option Bytes) :
    FrameStream where
  transferId := transferId
  direction := direction
  sendCounter := ⟨0⟩
  receiveCounter := ⟨0⟩
  confirmation := confirmation
  sentConfirmation := false
  receivedConfirmation := false
  sentType := none
  receivedType := none

/-- The constructor of `FrameStream`. -/
def create (transferId : JsString) (direction : FrameDirection) (confirmation : Option Bytes) :
    Checked FrameStream := do
  let id ← requireUuid transferId "transfer_id"
  throwIf (∃ value ∈ confirmation, value.length ≠ confirmationBytes)
    (protocolError "Confirmation must be 32 bytes." "invalid_confirmation")
  return fresh id direction confirmation

def isConfirmed (s : FrameStream) : Bool := s.sentConfirmation && s.receivedConfirmation

def nextSendCounter (s : FrameStream) : ℕ := s.sendCounter.nextValue

/-- The confirmation tests shared by the two directions: the declared value, when there is one. -/
def confirmationMatches (s : FrameStream) (body : Bytes) : Prop :=
  ∀ value ∈ s.confirmation, value = body

instance (s : FrameStream) (body : Bytes) : Decidable (s.confirmationMatches body) :=
  inferInstanceAs (Decidable (∀ value ∈ s.confirmation, value = body))

/-! ### Sending -/

/-- The checks `createFrame` makes before it reserves a counter. -/
def checkCreate (s : FrameStream) (type : FrameType) (body : Bytes) : Checked Unit := do
  validateFrameTypeDirection s.direction type
  throwIf (sequenceTypeAllowed s.sentType type s.direction = false)
    (protocolError "Frame type is invalid for the current stream state." "invalid_state")
  throwIf (s.sentConfirmation = false ∧ type ≠ .confirm)
    (protocolError "Confirmation must be sent first." "confirmation_required")
  if type = .confirm then
    throwIf (s.sentConfirmation = true ∨ s.sendCounter.nextValue ≠ 0 ∨
        body.length ≠ confirmationBytes)
      (protocolError "Confirmation frame is invalid." "invalid_confirmation")
    throwIf (¬ s.confirmationMatches body)
      (protocolError "Confirmation value does not match the transcript." "invalid_confirmation")
  else
    throwIf (s.receivedConfirmation = false)
      (protocolError "Peer confirmation is required before data." "confirmation_required")

/-- The header `createFrame` writes. -/
def headerFor (s : FrameStream) (type : FrameType) (counter : ℕ) (body : Bytes) : FrameHeader where
  v := transferProtocolVersion
  transferId := s.transferId
  direction := s.direction
  type := type
  counter := counter
  plaintextLength := body.length

/-- `createFrame` up to its `await`.  The counter is reserved while the argument of `encryptFrame`
is built, so it stays reserved when `encryptFrame` throws. -/
def createFrame (s : FrameStream) (key : CryptoKey) (noncePrefix : Bytes) (type : FrameType)
    (body : Bytes) : FrameStream × Checked EncryptCall :=
  match s.checkCreate type body with
  | .error e => (s, .error e)
  | .ok _ =>
    match s.sendCounter.reserve with
    | .error e => (s, .error e)
    | .ok (counter, next) =>
      ({ s with sendCounter := next },
        encryptFrame key noncePrefix (s.headerFor type counter body) body)

/-- `sentCounterApplied` -/
def sentCounterApplied (s : FrameStream) (type : FrameType) : FrameStream :=
  { s with
    sentConfirmation := s.sentConfirmation || type = .confirm
    sentType := some type }

/-- `createFrame` after its `await`. -/
def createFrameResume (s : FrameStream) (call : EncryptCall) (result : Option Bytes) :
    FrameStream × Checked Bytes :=
  match encryptFrameResume call result with
  | .error e => (s, .error e)
  | .ok frame => (s.sentCounterApplied call.header.type, .ok frame)

/-! ### Receiving -/

/-- `receiveFrame` up to its `await`; it changes nothing before that. -/
def receiveFrame (s : FrameStream) (key : CryptoKey) (noncePrefix frame : Bytes) :
    Checked DecryptCall := do
  let (header, _) ← splitFrame frame
  throwIf (header.transferId ≠ s.transferId ∨ header.direction ≠ s.receiveDirection)
    (protocolError "Frame identity or direction does not match." "identity_mismatch")
  throwIf (sequenceTypeAllowed s.receivedType header.type s.receiveDirection = false)
    (protocolError "Frame type is invalid for the current stream state." "invalid_state")
  throwIf (header.counter ≠ s.receiveCounter.nextValue)
    (protocolError "Frame counter is duplicated or out of order." "counter_mismatch")
  decryptFrame key noncePrefix frame s.transferId s.receiveDirection s.receiveCounter.nextValue

/-- The checks `receiveFrame` makes once the counter is consumed. -/
def checkReceived (s : FrameStream) (header : FrameHeader) (plaintext : Bytes) : Checked Unit := do
  throwIf (s.receivedConfirmation = false ∧ header.type ≠ .confirm)
    (protocolError "Confirmation must be received first." "confirmation_required")
  if header.type = .confirm then
    throwIf (s.receivedConfirmation = true ∨ header.counter ≠ 0 ∨
        plaintext.length ≠ confirmationBytes)
      (protocolError "Confirmation frame is invalid." "invalid_confirmation")
    throwIf (¬ s.confirmationMatches plaintext)
      (protocolError "Confirmation value does not match the transcript." "invalid_confirmation")

/-- `receiveFrame` after its `await`.  The counter is consumed before the confirmation checks, so
it stays consumed when they throw. -/
def receiveFrameResume (s : FrameStream) (call : DecryptCall) (result : Option Bytes) :
    FrameStream × Checked (FrameHeader × Bytes) :=
  match decryptFrameResume call result with
  | .error e => (s, .error e)
  | .ok plaintext =>
    match s.receiveCounter.accept call.header.counter with
    | .error e => (s, .error e)
    | .ok next =>
      match s.checkReceived call.header plaintext with
      | .error e => ({ s with receiveCounter := next }, .error e)
      | .ok _ =>
        ({ s with
            receiveCounter := next
            receivedConfirmation := s.receivedConfirmation || call.header.type = .confirm
            receivedType := some call.header.type }, .ok (call.header, plaintext))

/-! ### What the segments do -/

section Segments

variable {s : FrameStream} {key : CryptoKey} {noncePrefix frame body : Bytes} {type : FrameType}

theorem checkCreate_eq_ok {u : Unit} :
    s.checkCreate type body = .ok u ↔
      type.travels s.direction = true ∧ sequenceTypeAllowed s.sentType type s.direction = true ∧
      (type = .confirm → s.sentConfirmation = false ∧ s.sendCounter.nextValue = 0 ∧
        body.length = confirmationBytes ∧ s.confirmationMatches body) ∧
      (type ≠ .confirm → s.sentConfirmation = true ∧ s.receivedConfirmation = true) := by
  by_cases h : type = .confirm
  · subst h
    simp [checkCreate, validateFrameTypeDirection_eq_ok, and_assoc]
  · simp [checkCreate, validateFrameTypeDirection_eq_ok, h]

/-- The first segment of `createFrame` either throws and changes nothing, or passes its checks and
hands the next counter to `encryptFrame`. -/
theorem createFrame_cases (s : FrameStream) (key : CryptoKey) (noncePrefix : Bytes)
    (type : FrameType) (body : Bytes) :
    (∃ e, s.createFrame key noncePrefix type body = (s, .error e)) ∨
    (s.checkCreate type body = .ok () ∧ s.sendCounter.nextValue ≤ maxFrameCounter ∧
      s.createFrame key noncePrefix type body =
        ({ s with sendCounter := ⟨s.sendCounter.nextValue + 1⟩ },
          encryptFrame key noncePrefix (s.headerFor type s.sendCounter.nextValue body) body)) := by
  unfold createFrame
  rcases hcheck : s.checkCreate type body with e | u
  · exact .inl ⟨e, rfl⟩
  · rcases hreserve : s.sendCounter.reserve with e | ⟨counter, next⟩
    · exact .inl ⟨e, rfl⟩
    · obtain ⟨hle, rfl, rfl⟩ := FrameCounter.reserve_eq_ok.1 hreserve
      exact .inr ⟨rfl, hle, rfl⟩

theorem createFrame_eq_ok {t : FrameStream} {call : EncryptCall} :
    s.createFrame key noncePrefix type body = (t, .ok call) ↔
      s.checkCreate type body = .ok () ∧ s.sendCounter.nextValue ≤ maxFrameCounter ∧
      isUuid s.transferId = true ∧ body.length ≤ maxFramePlaintextBytes ∧ noncePrefix.length = 4 ∧
      t = { s with sendCounter := ⟨s.sendCounter.nextValue + 1⟩ } ∧
      call = ⟨key, noncePrefix, noncePrefix ++ BigEndian.encode 8 s.sendCounter.nextValue,
        s.headerFor type s.sendCounter.nextValue body,
        (s.headerFor type s.sendCounter.nextValue body).bytes, body⟩ := by
  constructor
  · intro h
    rcases createFrame_cases s key noncePrefix type body with ⟨e, he⟩ | ⟨hcheck, hle, heq⟩
    · rw [he] at h
      cases h
    · rw [heq, Prod.mk.injEq, encryptFrame_eq_ok] at h
      obtain ⟨rfl, -, hvalid, hp, rfl⟩ := h
      exact ⟨hcheck, hle, hvalid.uuid, hvalid.length_le, hp, rfl, rfl⟩
  · rintro ⟨hcheck, hle, hid, hbody, hp, rfl, rfl⟩
    have hreserve : s.sendCounter.reserve = .ok (s.sendCounter.nextValue, _) :=
      FrameCounter.reserve_eq_ok.2 ⟨hle, rfl, rfl⟩
    have hvalid : (s.headerFor type s.sendCounter.nextValue body).Valid :=
      ⟨rfl, hid, hle, hbody, (checkCreate_eq_ok.1 hcheck).1⟩
    simp only [createFrame, hcheck, hreserve, Prod.mk.injEq, true_and]
    exact encryptFrame_eq_ok.2 ⟨rfl, hvalid, hp, rfl⟩

theorem createFrameResume_eq_ok {t : FrameStream} {call : EncryptCall} {result : Option Bytes} :
    s.createFrameResume call result = (t, .ok frame) ↔
      t = s.sentCounterApplied call.header.type ∧ ∃ ciphertext, result = some ciphertext ∧
        ciphertext.length = call.plaintext.length + frameTagBytes ∧
          frame = call.additionalData ++ ciphertext := by
  rw [← encryptFrameResume_eq_ok]
  unfold createFrameResume
  rcases encryptFrameResume call result with e | frame'
  · simp
  · simp [eq_comm]

theorem createFrameResume_error {t : FrameStream} {call : EncryptCall} {result : Option Bytes}
    {e : ProtocolError} (h : s.createFrameResume call result = (t, .error e)) : t = s := by
  unfold createFrameResume at h
  rcases hresume : encryptFrameResume call result with e | frame' <;> rw [hresume] at h
  · exact (Prod.mk.inj h).1.symm
  · cases (Prod.mk.inj h).2

theorem receiveFrame_eq_ok {call : DecryptCall} :
    s.receiveFrame key noncePrefix frame = .ok call ↔
      ∃ header ciphertext, splitFrame frame = .ok (header, ciphertext) ∧
        header.transferId = s.transferId ∧ header.direction = s.receiveDirection ∧
        sequenceTypeAllowed s.receivedType header.type s.receiveDirection = true ∧
        header.counter = s.receiveCounter.nextValue ∧ noncePrefix.length = 4 ∧ header.Valid ∧
        call = ⟨key, noncePrefix ++ BigEndian.encode 8 s.receiveCounter.nextValue, header,
          header.bytes, ciphertext⟩ := by
  simp only [receiveFrame, bind_eq_ok, throwIf_eq_ok, decryptFrame_eq_ok, ne_eq, not_or, not_not,
    Bool.not_eq_false, Prod.exists]
  constructor
  · rintro ⟨header, ciphertext, hs, -, ⟨hid, hd⟩, -, hallowed, -, hc, h', c', hs', -, -, -, hp, hv,
      rfl⟩
    obtain ⟨rfl, rfl⟩ := Prod.mk.inj (Except.ok.inj (hs.symm.trans hs'))
    exact ⟨header, ciphertext, hs, hid, hd, hallowed, hc, hp, hv, rfl⟩
  · rintro ⟨header, ciphertext, hs, hid, hd, hallowed, hc, hp, hv, rfl⟩
    exact ⟨header, ciphertext, hs, (), ⟨hid, hd⟩, (), hallowed, (), hc, header, ciphertext, hs, hid,
      hd, hc, hp, hv, rfl⟩

theorem checkReceived_eq_ok {header : FrameHeader} {u : Unit} :
    s.checkReceived header body = .ok u ↔
      (header.type = .confirm → s.receivedConfirmation = false ∧ header.counter = 0 ∧
        body.length = confirmationBytes ∧ s.confirmationMatches body) ∧
      (header.type ≠ .confirm → s.receivedConfirmation = true) := by
  by_cases h : header.type = .confirm
  · simp [checkReceived, h, and_assoc]
  · simp [checkReceived, h]

/-- What the second segment of `receiveFrame` can do: refuse and change nothing, consume the counter
and refuse, or accept. -/
theorem receiveFrameResume_cases (s : FrameStream) (call : DecryptCall) (result : Option Bytes) :
    (∃ e, s.receiveFrameResume call result = (s, .error e)) ∨
    (∃ plaintext, result = some plaintext ∧ plaintext.length = call.header.plaintextLength ∧
      call.header.counter ≤ maxFrameCounter ∧ call.header.counter = s.receiveCounter.nextValue ∧
      ((∃ e, s.checkReceived call.header plaintext = .error e ∧
          s.receiveFrameResume call result =
            ({ s with receiveCounter := ⟨s.receiveCounter.nextValue + 1⟩ }, .error e)) ∨
        (s.checkReceived call.header plaintext = .ok () ∧
          s.receiveFrameResume call result =
            ({ s with
                receiveCounter := ⟨s.receiveCounter.nextValue + 1⟩
                receivedConfirmation := s.receivedConfirmation || call.header.type = .confirm
                receivedType := some call.header.type }, .ok (call.header, plaintext))))) := by
  unfold receiveFrameResume
  rcases hopen : decryptFrameResume call result with e | plaintext
  · exact .inl ⟨e, rfl⟩
  · obtain ⟨hresult, hlen⟩ := decryptFrameResume_eq_ok.1 hopen
    rcases haccept : s.receiveCounter.accept call.header.counter with e | next
    · exact .inl ⟨e, rfl⟩
    · obtain ⟨hle, hc, rfl⟩ := FrameCounter.accept_eq_ok.1 haccept
      refine .inr ⟨plaintext, hresult, hlen, hle, hc, ?_⟩
      rcases hcheck : s.checkReceived call.header plaintext with e | u
      · exact .inl ⟨e, rfl, by simp only [hcheck]⟩
      · exact .inr ⟨rfl, by simp only [hcheck]⟩

theorem receiveFrameResume_eq_ok {t : FrameStream} {call : DecryptCall} {result : Option Bytes}
    {r : FrameHeader × Bytes} :
    s.receiveFrameResume call result = (t, .ok r) ↔
      ∃ plaintext, result = some plaintext ∧ plaintext.length = call.header.plaintextLength ∧
        call.header.counter ≤ maxFrameCounter ∧ call.header.counter = s.receiveCounter.nextValue ∧
        s.checkReceived call.header plaintext = .ok () ∧
        t = { s with
          receiveCounter := ⟨s.receiveCounter.nextValue + 1⟩
          receivedConfirmation := s.receivedConfirmation || call.header.type = .confirm
          receivedType := some call.header.type } ∧
        r = (call.header, plaintext) := by
  constructor
  · intro h
    rcases receiveFrameResume_cases s call result with ⟨e, he⟩ | ⟨p, hp, hlen, hle, hc, hrest⟩
    · rw [he] at h
      cases h
    · rcases hrest with ⟨e, -, he⟩ | ⟨hcheck, heq⟩
      · rw [he] at h
        cases h
      · rw [heq] at h
        obtain ⟨rfl, hr⟩ := Prod.mk.inj h
        exact ⟨p, hp, hlen, hle, hc, hcheck, rfl, (Except.ok.inj hr).symm⟩
  · rintro ⟨p, rfl, hlen, hle, hc, hcheck, rfl, rfl⟩
    have hopen : decryptFrameResume call (some p) = .ok p :=
      decryptFrameResume_eq_ok.2 ⟨rfl, hlen⟩
    have haccept : s.receiveCounter.accept call.header.counter = .ok _ :=
      FrameCounter.accept_eq_ok.2 ⟨hle, hc, rfl⟩
    simp only [receiveFrameResume, hopen, haccept, hcheck]

end Segments

end FrameStream

end SelfRelay
