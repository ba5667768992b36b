import SelfRelay.Transfer.Terminal

/-!
# Promises and how they are settled

What is left of an engine when only its waits matter: its state, the promises that `sendFile` awaits
with the resolvers that settle them, the inbound registry, and the own confirmation (`Ledger`).
`Effect` lists all that an event can do to it, and `step_effect` is the inversion of the step
function in these terms: a promise is made, awaited or settled, the transfer ends, or nothing of
this happens.
-/

namespace SelfRelay

open StepSystem

/-! ## Waits -/

/-- The promise of the engine that a suspended call awaits. -/
inductive Awaited where
  | confirmation
  | acceptance (promise : ℕ)
  | receipt (promise : ℕ)
  deriving DecidableEq, Repr

def SendFilePc.awaited : SendFilePc → Option Awaited
  | .waitingConfirmation false => some .confirmation
  | .awaitingAcceptance _ promise => some (.acceptance promise)
  | .awaitingReceipt promise => some (.receipt promise)
  | _ => none

/-- Only `sendFile` awaits a promise of the engine. -/
def Thread.awaited : Thread → Option Awaited
  | .sendFile _ _ pc => pc.awaited
  | _ => none

/-- The promises that a call of `sendFile` makes for itself, before it awaits them. -/
inductive PromiseKind where
  | acceptance
  | receipt
  deriving DecidableEq, Repr

/-- The promise that the call has made and will await. -/
def SendFilePc.made : SendFilePc → Option PromiseKind
  | .signingOffer .. | .sendingOffer .. => some .acceptance
  | .sendingComplete .. => some .receipt
  | _ => none

def Thread.made : Thread → Option PromiseKind
  | .sendFile _ _ pc => pc.made
  | _ => none

/-- The promises of an engine with their resolvers. -/
structure Promises where
  confirmationPromise : Option (Deferred Unit)
  confirmationSettles : Bool
  receipts : List (Deferred TransferReceipt)
  receiptPromise : Option ℕ
  receiptSettles : Option ℕ
  acceptances : List (Deferred Unit)
  acceptancePromise : Option ℕ
  acceptanceSettles : Option ℕ

namespace Promises

/-- What a call awaits is not settled. -/
def pending (p : Promises) : Awaited → Bool
  | .confirmation => p.confirmationPromise = some .pending
  | .acceptance promise => p.acceptances[promise]? = some .pending
  | .receipt promise => p.receipts[promise]? = some .pending

/-- What a call awaits is settled, so that the call can go on. -/
def settled (p : Promises) : Awaited → Bool
  | .confirmation => p.confirmationPromise.any (· ≠ .pending)
  | .acceptance promise => p.acceptances[promise]?.any (· ≠ .pending)
  | .receipt promise => p.receipts[promise]?.any (· ≠ .pending)

def made (p : Promises) : PromiseKind → Bool
  | .acceptance => p.acceptancePromise.isSome
  | .receipt => p.receiptPromise.isSome

/-- `rejectPending` -/
def reject (p : Promises) (error : ProtocolError) : Promises :=
  { p with
    confirmationPromise :=
      if p.confirmationSettles then some (.rejected error) else p.confirmationPromise
    confirmationSettles := false
    receipts := Engine.settle p.receipts p.receiptSettles (.rejected error)
    receiptSettles := none
    acceptances := Engine.settle p.acceptances p.acceptanceSettles (.rejected error)
    acceptanceSettles := none }

/-- The confirmation promise is made, unless there is one. -/
def expectConfirmation (p : Promises) : Promises :=
  match p.confirmationPromise with
  | some _ => p
  | none => { p with confirmationPromise := some .pending, confirmationSettles := true }

def confirm (p : Promises) : Promises :=
  { p with
    confirmationPromise :=
      if p.confirmationSettles then some (.fulfilled ()) else p.confirmationPromise
    confirmationSettles := false }

def expectAcceptance (p : Promises) : Promises :=
  { p with
    acceptances := p.acceptances ++ [.pending]
    acceptancePromise := some p.acceptances.length
    acceptanceSettles := some p.acceptances.length }

def accept (p : Promises) : Promises :=
  { p with
    acceptances := Engine.settle p.acceptances p.acceptanceSettles (.fulfilled ())
    acceptanceSettles := none }

def expectReceipt (p : Promises) : Promises :=
  { p with
    receipts := p.receipts ++ [.pending]
    receiptPromise := some p.receipts.length
    receiptSettles := some p.receipts.length }

def receive (p : Promises) (receipt : TransferReceipt) : Promises :=
  { p with
    receipts := Engine.settle p.receipts p.receiptSettles (.fulfilled receipt)
    receiptSettles := none }

end Promises

/-- What a wait depends on. -/
structure Ledger where
  state : FileTransferState
  promises : Promises
  registry : InboundTransferRegistry
  /-- `sentConfirmationPromise` -/
  confirming : Option ℕ

/-- The event calls `start`. -/
def EngineEvent.starts : EngineEvent → Bool
  | .start | .reject _ | .sendFile .. | .opened => true
  | _ => false

namespace Engine

variable {runtime : Runtime} {e e' : Engine} {event : EngineEvent}

def promises (e : Engine) : Promises where
  confirmationPromise := e.confirmationPromise
  confirmationSettles := e.confirmationSettles
  receipts := e.receipts
  receiptPromise := e.receiptPromise
  receiptSettles := e.receiptSettles
  acceptances := e.acceptances
  acceptancePromise := e.acceptancePromise
  acceptanceSettles := e.acceptanceSettles

def ledger (e : Engine) : Ledger :=
  ⟨e.stateValue, e.promises, e.registry, e.sentConfirmationPromise⟩

/-- No handler runs, and no frame is on its way to the channel. -/
def atRest (e : Engine) : Bool :=
  e.receiving.isNone && e.queue.isEmpty && e.sends.all fun s => match s with
    | .settled _ => true
    | _ => false

/-- Some call awaits the promise. -/
def HasWaiter (e : Engine) (awaited : Awaited) : Prop :=
  ∃ thread ∈ e.threads, thread.awaited = some awaited

/-- Some call has made a promise of this kind. -/
def Made (e : Engine) (kind : PromiseKind) : Prop := ∃ thread ∈ e.threads, thread.made = some kind

theorem mem_addThread {thread t : Thread} (h : t ∈ (e.addThread thread).threads) :
    t ∈ e.threads ∨ t = thread := by
  rcases List.mem_append.1 h with h | h
  · exact .inl h
  · exact .inr (List.mem_singleton.1 h)

theorem mem_setThread {i : ℕ} {thread t : Thread} (h : t ∈ (e.setThread i thread).threads) :
    t ∈ e.threads ∨ t = thread :=
  List.mem_or_eq_of_mem_set h

/-! ## Effects -/

/-- The event ends the transfer, or ends it again: `close`, `fail` on a transfer that is not over,
or the `finally` block of `sendTerminalFrame`. -/
def ends (e : Engine) : EngineEvent → Bool
  | .close => e.stateValue ≠ .closed
  | .closed | .errored | .caught => !e.isTerminal
  | .dequeue => !e.isTerminal && e.queueError.isSome
  | .handle =>
    match e.receiving with
    | some (.received header plaintext) => !e.isTerminal &&
      (header.type = .cancel || header.type = .error) &&
      (parseTerminal (terminalName header.type) plaintext).toOption.isSome
    | _ => false
  | .resume thread =>
    match e.threads[thread]? with
    | some (.opening (.returned (.error _))) => !e.isTerminal
    | some (.terminating type code _ pc) => e.endsTerminal type code pc
    | _ => false
  | _ => false

/-- The state stays, is started, or goes on to the file. -/
inductive Proceeds (state : FileTransferState) : FileTransferState → Prop
  | same : Proceeds state state
  | started (h : state = .idle) : Proceeds state .confirming
  | sending (h : state.isTerminal = false) : Proceeds state .sending

theorem Proceeds.isTerminal_eq {state state' : FileTransferState} (h : Proceeds state state') :
    state'.isTerminal = state.isTerminal := by
  cases h with
  | same => rfl
  | started hidle =>
    rw [hidle]
    rfl
  | sending hover => exact hover.symm

/-- The event is `handleConfirmation`. -/
def handlesConfirm (e : Engine) (event : EngineEvent) : Bool :=
  event = .handle && e.receiving.any fun pc => match pc with
    | .received header _ => header.type = .confirm
    | _ => false

/-- The own confirmation stays, is given up, or is sent. -/
def MayConfirm (e : Engine) (event : EngineEvent) (confirming : Option ℕ) : Prop :=
  confirming = e.sentConfirmationPromise ∨ confirming = none ∨ event.starts = true ∨
    e.handlesConfirm event = true

/-- What an event makes of the ledger, and the promise that a call goes on to await. -/
inductive Effect (runtime : Runtime) (e : Engine) :
    EngineEvent → Ledger → Option Awaited → Prop
  | kept {event : EngineEvent} {state : FileTransferState} {confirming : Option ℕ}
    (h : Proceeds e.stateValue state) (hconfirming : e.MayConfirm event confirming) :
    Effect runtime e event { e.ledger with state, confirming } none
  /-- The pending promises are rejected and the reservation is given up. -/
  | ended {event : EngineEvent} {error : ProtocolError} {state : FileTransferState}
    (h : e.ends event = true) (hstate : state.isTerminal = true) :
    Effect runtime e event
      ⟨state, e.promises.reject error, e.releaseInbound.registry, e.sentConfirmationPromise⟩ none
  /-- `handleManifest` takes a manifest. -/
  | manifest {header : FrameHeader} {plaintext : Bytes}
    (hreceiving : e.receiving = some (.received header plaintext)) (htype : header.type = .manifest)
    (haccepts : e.acceptsManifest runtime plaintext = true) :
    Effect runtime e .handle { e.ledger with state := .receiving } none
  /-- `handleComplete` has sent its receipt. -/
  | completed {received : ReceivedFile} {send : ℕ}
    (hreceiving : e.receiving = some (.sendingReceipt received send))
    (hsend : e.sendResult send = some (.ok ())) :
    Effect runtime e .resumeHandler { e.ledger with state := .completed } none
  /-- `handleReceipt` takes a receipt. -/
  | receipt {header : FrameHeader} {plaintext : Bytes} {receipt : TransferReceipt}
    (hreceiving : e.receiving = some (.received header plaintext)) (htype : header.type = .receipt)
    (hcheck : e.checkReceipt plaintext = .ok receipt) :
    Effect runtime e .handle
      ⟨.completed, e.promises.receive receipt, e.registry, e.sentConfirmationPromise⟩ none
  /-- `handleConfirmation` finds both confirmations made. -/
  | confirmed {event : EngineEvent} (h : e.stream.isConfirmed = true) :
    Effect runtime e event
      ⟨if e.stateValue = .confirming then .ready else e.stateValue, e.promises.confirm, e.registry,
        e.sentConfirmationPromise⟩ none
  /-- `handleAccept` takes an acceptance. -/
  | accepted (hrole : e.options.role = .sender) :
    Effect runtime e .handle
      ⟨if e.stateValue = .confirming ∨ e.stateValue = .ready then .ready else e.stateValue,
        e.promises.accept, e.registry, e.sentConfirmationPromise⟩ none
  /-- A call goes on to `waitForConfirmation`. -/
  | awaitConfirmation {i : ℕ} {file : SourceFile} {fileName : Option JsString}
    (hthread : e.threads[i]? = some (.sendFile file fileName (.starting (.returned (.ok ())))))
    (hconfirmed : e.stream.isConfirmed = false) :
    Effect runtime e (.resume i) { e.ledger with promises := e.promises.expectConfirmation }
      (some .confirmation)
  /-- A call prepares its offer. -/
  | expectAcceptance {i : ℕ} {file : SourceFile} {fileName : Option JsString} {immediate : Bool}
    (hthread : e.threads[i]? = some (.sendFile file fileName (.waitingConfirmation immediate)))
    (hconfirmed : immediate = true ∨ e.confirmationPromise = some (.fulfilled ())) :
    Effect runtime e (.resume i) { e.ledger with promises := e.promises.expectAcceptance } none
  /-- A call has sent its offer. -/
  | awaitAcceptance {i : ℕ} {file : SourceFile} {fileName : Option JsString}
    {manifest : TransferManifest} {send : ℕ}
    (hthread : e.threads[i]? = some (.sendFile file fileName (.sendingOffer manifest send)))
    (hsend : e.sendResult send = some (.ok ())) :
    Effect runtime e (.resume i) e.ledger (some (.acceptance (e.acceptancePromise.getD 0)))
  /-- A call is about to send its completion. -/
  | expectReceipt {i : ℕ} {signature : Bytes} {file : SourceFile} {fileName : Option JsString}
    {core : FileComplete}
    (hthread : e.threads[i]? = some (.sendFile file fileName (.signingComplete core))) :
    Effect runtime e (.signed i (some signature))
      { e.ledger with promises := e.promises.expectReceipt } none
  /-- A call has sent its completion. -/
  | awaitReceipt {i : ℕ} {file : SourceFile} {fileName : Option JsString} {core : FileComplete}
    {send : ℕ}
    (hthread : e.threads[i]? = some (.sendFile file fileName (.sendingComplete core send)))
    (hsend : e.sendResult send = some (.ok ())) :
    Effect runtime e (.resume i) e.ledger (some (.receipt (e.receiptPromise.getD 0)))

/-- The event leaves the ledger alone. -/
theorem Effect.refl : Effect runtime e event e.ledger none := .kept .same (.inl rfl)

theorem role_of_acceptsManifest {value : Bytes} (h : e.acceptsManifest runtime value = true) :
    e.options.role = .recipient := by
  unfold acceptsManifest at h
  split at h
  case h_1 offered manifest hcheck =>
    simp only [checkManifest, bind_eq_ok, throwIf_eq_ok, ne_eq, not_not] at hcheck
    exact hcheck.choose_spec.1
  case h_2 => cases h

/-! ## What the operations do to the ledger -/

theorem sendJson_ledger (e : Engine) (type : FrameType) (payload : Json) :
    (e.sendJson type payload).1.ledger = e.ledger := by
  unfold sendJson
  split <;> rfl

theorem sendConfirmation_ledger (e : Engine) :
    ∃ confirming, e.sendConfirmation.1.ledger = { e.ledger with confirming } := by
  unfold sendConfirmation
  split
  · exact ⟨e.sentConfirmationPromise, rfl⟩
  · split_ifs
    · exact ⟨e.sentConfirmationPromise, rfl⟩
    · exact ⟨some e.sends.length, rfl⟩

theorem start_ledger (e : Engine) :
    ∃ state confirming, Proceeds e.stateValue state ∧
      e.start.1.ledger = { e.ledger with state, confirming } := by
  have hmark : ∃ state, Proceeds e.stateValue state ∧
      e.markStarted.ledger = { e.ledger with state } := by
    by_cases hidle : e.stateValue = .idle
    · exact ⟨.confirming, .started hidle, by simp [ledger, markStarted, promises, hidle]⟩
    · exact ⟨e.stateValue, .same, by simp [ledger, markStarted, promises, hidle]⟩
  obtain ⟨state, hproceeds, hledger⟩ := hmark
  unfold start
  split_ifs
  · exact ⟨e.stateValue, e.sentConfirmationPromise, .same, rfl⟩
  · exact ⟨state, e.sentConfirmationPromise, hproceeds, hledger⟩
  · obtain ⟨confirming, hconfirming⟩ := sendConfirmation_ledger e.markStarted
    refine ⟨state, confirming, hproceeds, ?_⟩
    rw [hconfirming, hledger]

theorem fail_ledger (e : Engine) (error : Thrown) (sendWire : Bool) :
    (e.fail error sendWire).ledger = if e.isTerminal then e.ledger else
      ⟨.failed, e.promises.reject error.failure, e.releaseInbound.registry,
        e.sentConfirmationPromise⟩ := by
  rw [fail_eq]
  split <;> rfl

/-- `fail`, after a change of the channel or of the queue. -/
theorem effect_fail {channel : DataChannel} {queue : List MessageData} {error : Thrown}
    {sendWire : Bool} (hends : e.isTerminal = false → e.ends event = true) :
    Effect runtime e event
      (({ e with channel, queue } : Engine).fail error sendWire).ledger none := by
  have hledger : (({ e with channel, queue } : Engine).fail error sendWire).ledger =
      if e.isTerminal then e.ledger else
        ⟨.failed, e.promises.reject error.failure, e.releaseInbound.registry,
          e.sentConfirmationPromise⟩ :=
    fail_ledger _ error sendWire
  rw [hledger]
  split_ifs with hover
  · exact .refl
  · exact .ended (hends (Bool.not_eq_true _ ▸ hover)) rfl

theorem effect_resumeStart {send : ℕ} {owner : Bool} {pc : StartPc}
    (h : e.resumeStart send owner = some (e', pc)) : Effect runtime e event e'.ledger none := by
  rcases afterSend_cases h with ⟨_, h⟩ | ⟨error, _, h⟩
  · cases h
    exact .refl
  · cases owner <;> cases h
    · exact .refl
    · exact .kept .same (.inr (.inl rfl))

theorem accept_ledger (e : Engine) : e.accept.1.ledger = e.ledger := by
  unfold accept
  split_ifs
  · rfl
  · rfl
  · exact sendJson_ledger { e with accepted := true } .accept _

theorem sendOrThrow_ledger (e : Engine) (type : FrameType) (payload : Json)
    (next : ℕ → SendFilePc) : (e.sendOrThrow type payload next).1.ledger = e.ledger := by
  have h := sendJson_ledger e type payload
  unfold sendOrThrow
  split <;> rename_i hsend <;> rwa [hsend] at h

theorem nextChunk_ledger (e : Engine) (file : SourceFile) (offset chunkCount : ℕ)
    (digest : IncrementalSha256) :
    (e.nextChunk file offset chunkCount digest).1.ledger = e.ledger := by
  unfold nextChunk
  split_ifs
  · rfl
  · split
    · rfl
    · dsimp only
      split <;> rfl

theorem prepareOffer_ledger (e : Engine) (unicode : Unicode) (file : SourceFile)
    (fileName : Option JsString) : (e.prepareOffer unicode file fileName).1.ledger =
      { e.ledger with promises := e.promises.expectAcceptance } := by
  unfold prepareOffer
  dsimp only
  split <;> rfl

/-! ## Calls that go on -/

section Calls

variable {i : ℕ} {file : SourceFile} {fileName : Option JsString} {pc pc' : SendFilePc}

theorem sendOrThrow_awaited (e : Engine) (type : FrameType) (payload : Json) (next : ℕ → SendFilePc)
    (hnext : ∀ send, (next send).awaited = none) :
    (e.sendOrThrow type payload next).2.awaited = none := by
  unfold sendOrThrow
  split
  · rfl
  · exact hnext _

theorem nextChunk_awaited (e : Engine) (file : SourceFile) (offset chunkCount : ℕ)
    (digest : IncrementalSha256) :
    (e.nextChunk file offset chunkCount digest).2.awaited = none := by
  unfold nextChunk
  split_ifs
  · rfl
  · split
    · rfl
    · dsimp only
      split <;> rfl

theorem prepareOffer_awaited (e : Engine) (unicode : Unicode) (file : SourceFile)
    (fileName : Option JsString) :
    (e.prepareOffer unicode file fileName).2.awaited = none := by
  unfold prepareOffer
  dsimp only
  split <;> rfl

/-- A call that goes on to `nextChunk` leaves the ledger alone, also when its frame failed. -/
theorem effect_nextChunk {send offset chunkCount : ℕ} {digest : IncrementalSha256}
    (h : e.afterSend send (fun error => (e, .returned (.error error)))
      (e.nextChunk file offset chunkCount digest) = some (e', pc')) :
    Effect runtime e event e'.ledger pc'.awaited := by
  rcases afterSend_cases h with ⟨_, h⟩ | ⟨error, _, h⟩
  · have hledger := nextChunk_ledger e file offset chunkCount digest
    have hawaited := nextChunk_awaited e file offset chunkCount digest
    rw [← h] at hledger hawaited
    rw [hledger, hawaited]
    exact .refl
  · cases h
    exact .refl

/-- A call of `sendFile` goes on. -/
theorem effect_resumeSendFile {unicode : Unicode}
    (hthread : e.threads[i]? = some (.sendFile file fileName pc))
    (h : e.resumeSendFile unicode file fileName pc = some (e', pc')) :
    Effect runtime e (.resume i) e'.ledger pc'.awaited := by
  have hoffer : ∀ {immediate : Bool}, pc = .waitingConfirmation immediate →
      immediate = true ∨ e.confirmationPromise = some (.fulfilled ()) →
      e.prepareOffer unicode file fileName = (e', pc') →
      Effect runtime e (.resume i) e'.ledger pc'.awaited := by
    intro immediate hpc hconfirmed h
    have hledger := prepareOffer_ledger e unicode file fileName
    have hawaited := prepareOffer_awaited e unicode file fileName
    rw [h] at hledger hawaited
    rw [hledger, hawaited]
    exact .expectAcceptance (hpc ▸ hthread) hconfirmed
  cases pc with
  | starting pc =>
    rcases pc with ⟨send, owner⟩ | (error | ⟨⟨⟩⟩)
    · obtain ⟨⟨e₁, pc₁⟩, h₁, h₂⟩ := Option.map_eq_some_iff.1 h
      cases h₂
      exact effect_resumeStart h₁
    · cases h
      exact .refl
    · unfold resumeSendFile at h
      dsimp only at h
      split_ifs at h with hconfirmed
      · cases h
        exact .refl
      · have hawait : Effect runtime e (.resume i)
            { e.ledger with promises := e.promises.expectConfirmation } (some .confirmation) :=
          .awaitConfirmation hthread (Bool.not_eq_true _ ▸ hconfirmed)
        split at h <;> rename_i hpromise <;> cases h
        · have hsame : e.promises.expectConfirmation = e.promises := by
            simp only [Promises.expectConfirmation, promises, hpromise]
          rw [hsame] at hawait
          exact hawait
        · have hmade : e.promises.expectConfirmation =
              { e.promises with
                  confirmationPromise := some .pending, confirmationSettles := true } := by
            simp only [Promises.expectConfirmation, promises, hpromise]
          rw [hmade] at hawait
          exact hawait
  | waitingConfirmation immediate =>
    cases immediate with
    | true => exact hoffer rfl (.inl rfl) (Option.some.inj h)
    | false =>
      unfold resumeSendFile at h
      dsimp only at h
      split at h
      · rename_i hpromise
        exact hoffer rfl (.inr hpromise) (Option.some.inj h)
      · cases h
        exact .refl
      · cases h
  | sendingOffer manifest send =>
    rcases afterSend_cases h with ⟨hsend, h⟩ | ⟨error, _, h⟩ <;> cases h
    · exact .awaitAcceptance hthread hsend
    · exact .refl
  | awaitingAcceptance manifest promise =>
    unfold resumeSendFile at h
    dsimp only at h
    split at h
    · split_ifs at h with hover
      · cases h
        exact .refl
      · have hledger :=
          sendOrThrow_ledger (e.setState .sending) .manifest manifest.json .sendingManifest
        have hawaited := sendOrThrow_awaited
          (e.setState .sending) .manifest manifest.json .sendingManifest fun _ => rfl
        rw [Option.some.inj h] at hledger hawaited
        rw [hledger, hawaited]
        exact .kept (.sending (Bool.not_eq_true _ ▸ hover)) (.inl rfl)
    · cases h
      exact .refl
    · cases h
  | sendingManifest send => exact effect_nextChunk h
  | sendingChunk send offset chunkCount digest => exact effect_nextChunk h
  | sendingComplete core send =>
    rcases afterSend_cases h with ⟨hsend, h⟩ | ⟨error, _, h⟩ <;> cases h
    · exact .awaitReceipt hthread hsend
    · exact .refl
  | awaitingReceipt promise =>
    unfold resumeSendFile at h
    dsimp only at h
    split at h <;> cases h <;> exact .refl
  | signingOffer | reading | signingComplete | returned => cases h

theorem effect_signedSendFile {signature : Option Bytes}
    (hthread : e.threads[i]? = some (.sendFile file fileName pc))
    (h : e.signedSendFile signature pc = some (e', pc')) :
    Effect runtime e (.signed i signature) e'.ledger pc'.awaited := by
  unfold signedSendFile at h
  split at h
  case h_1 signature manifest core =>
    have hledger :=
      sendOrThrow_ledger e .fileOffer (signedJson core.json (encodeBase64Url signature))
      (.sendingOffer manifest)
    have hawaited := sendOrThrow_awaited e .fileOffer
      (signedJson core.json (encodeBase64Url signature)) (.sendingOffer manifest) fun _ => rfl
    rw [Option.some.inj h] at hledger hawaited
    rw [hledger, hawaited]
    exact .refl
  case h_2 signature core =>
    have hledger := sendOrThrow_ledger e.expectReceipt .complete
      (signedJson core.json (encodeBase64Url signature)) (.sendingComplete core)
    have hawaited := sendOrThrow_awaited e.expectReceipt
      .complete (signedJson core.json (encodeBase64Url signature)) (.sendingComplete core)
      fun _ => rfl
    rw [Option.some.inj h] at hledger hawaited
    rw [hledger, hawaited]
    exact .expectReceipt hthread
  all_goals cases h
  all_goals exact .refl

theorem effect_slicedSendFile {slice : Option Bytes}
    (h : e.slicedSendFile file slice pc = some (e', pc')) :
    Effect runtime e event e'.ledger pc'.awaited := by
  unfold slicedSendFile at h
  split at h
  · dsimp only at h
    split at h
    · cases h
      exact .refl
    · split_ifs at h
      · cases h
        exact .refl
      · split at h <;> cases h <;> exact .refl
  · cases h

/-- Only the offer makes a promise that the call goes on with. -/
theorem made_resumeSendFile {unicode : Unicode} {kind : PromiseKind}
    (h : e.resumeSendFile unicode file fileName pc = some (e', pc'))
    (hmade : pc'.made = some kind) :
    e'.promises.made kind = true := by
  have hoffer : e.prepareOffer unicode file fileName = (e', pc') →
      e'.promises.made kind = true := by
    intro h
    unfold prepareOffer at h
    dsimp only at h
    split at h <;> cases h <;> cases hmade
    rfl
  have hchunk : ∀ {send offset chunkCount : ℕ} {digest : IncrementalSha256},
      e.afterSend send (fun error => (e, .returned (.error error)))
        (e.nextChunk file offset chunkCount digest) = some (e', pc') →
      e'.promises.made kind = true := by
    intro send offset chunkCount digest h
    rcases afterSend_cases h with ⟨_, h⟩ | ⟨error, _, h⟩
    · unfold nextChunk at h
      split_ifs at h
      · cases h
        cases hmade
      · split at h
        · cases h
          cases hmade
        · dsimp only at h
          split at h <;> cases h <;> cases hmade
    · cases h
      cases hmade
  cases pc with
  | starting pc =>
    rcases pc with ⟨send, owner⟩ | (error | ⟨⟨⟩⟩)
    · obtain ⟨⟨e₁, pc₁⟩, h₁, h₂⟩ := Option.map_eq_some_iff.1 h
      cases h₂
      cases hmade
    · cases h
      cases hmade
    · unfold resumeSendFile at h
      dsimp only at h
      split_ifs at h with hconfirmed
      · cases h
        cases hmade
      · split at h <;> cases h <;> cases hmade
  | waitingConfirmation immediate =>
    cases immediate with
    | true => exact hoffer (Option.some.inj h)
    | false =>
      unfold resumeSendFile at h
      dsimp only at h
      split at h
      · exact hoffer (Option.some.inj h)
      · cases h
        cases hmade
      · cases h
  | sendingOffer manifest send =>
    rcases afterSend_cases h with ⟨_, h⟩ | ⟨error, _, h⟩ <;> cases h <;> cases hmade
  | awaitingAcceptance manifest promise =>
    unfold resumeSendFile at h
    dsimp only at h
    split at h
    · split_ifs at h with hover
      · cases h
        cases hmade
      · unfold sendOrThrow at h
        split at h <;> cases h <;> cases hmade
    · cases h
      cases hmade
    · cases h
  | sendingManifest send => exact hchunk h
  | sendingChunk send offset chunkCount digest => exact hchunk h
  | sendingComplete core send =>
    rcases afterSend_cases h with ⟨_, h⟩ | ⟨error, _, h⟩ <;> cases h <;> cases hmade
  | awaitingReceipt promise =>
    unfold resumeSendFile at h
    dsimp only at h
    split at h <;> cases h <;> cases hmade
  | signingOffer | reading | signingComplete | returned => cases h

theorem made_signedSendFile {signature : Option Bytes} {kind : PromiseKind}
    (h : e.signedSendFile signature pc = some (e', pc')) (hmade : pc'.made = some kind) :
    pc.made = some kind ∨ e'.promises.made kind = true := by
  unfold signedSendFile at h
  split at h
  case h_1 signature manifest core =>
    unfold sendOrThrow at h
    split at h <;> cases h <;> cases hmade
    exact .inl rfl
  case h_2 signature core =>
    have hledger := sendOrThrow_ledger e.expectReceipt .complete
      (signedJson core.json (encodeBase64Url signature)) (.sendingComplete core)
    rw [Option.some.inj h] at hledger
    unfold sendOrThrow at h
    split at h <;> cases h <;> cases hmade
    right
    have hpromises : e'.promises = e.expectReceipt.promises := congrArg Ledger.promises hledger
    rw [hpromises]
    rfl
  all_goals cases h
  all_goals cases hmade

theorem made_slicedSendFile {slice : Option Bytes}
    (h : e.slicedSendFile file slice pc = some (e', pc')) : pc'.made = none := by
  unfold slicedSendFile at h
  split at h
  · dsimp only at h
    split at h
    · cases h
      rfl
    · split_ifs at h
      · cases h
        rfl
      · split at h <;> cases h <;> rfl
  · cases h

end Calls

theorem effect_resumeTerminal {i : ℕ} {type : FrameType} {code : JsString}
    {state : FileTransferState}
    {pc pc' : TerminalPc} (hthread : e.threads[i]? = some (.terminating type code state pc))
    (hstate : state.isTerminal = true)
    (h : e.resumeTerminal type code state pc = some (e', pc')) :
    Effect runtime e (.resume i) e'.ledger none := by
  have hfinish : e.endsTerminal type code pc = true →
      Effect runtime e (.resume i) (e.finishTerminal code state).ledger none := by
    intro hends
    refine .ended ?_ hstate
    simp only [ends, hthread, hends]
  cases pc with
  | starting pc =>
    rcases pc with ⟨send, owner⟩ | (error | ⟨⟨⟩⟩)
    · obtain ⟨⟨e₁, pc₁⟩, h₁, h₂⟩ := Option.map_eq_some_iff.1 h
      cases h₂
      exact effect_resumeStart h₁
    · cases h
      exact hfinish rfl
    · simp only [resumeTerminal] at h
      split_ifs at h with hconfirmed
      · have hledger := sendJson_ledger e type (terminalJson (js (terminalName type)) code)
        split at h <;> rename_i hsend <;> cases h
        · rw [sendJson_error hsend]
          apply hfinish
          unfold sendJson at hsend
          split at hsend <;> cases hsend
          rename_i hjson
          simp [endsTerminal, hjson, Except.toOption]
        · rw [hsend] at hledger
          rw [hledger]
          exact .refl
      · cases h
        apply hfinish
        simp [endsTerminal, hconfirmed]
  | sending send =>
    obtain ⟨result, hresult, h₂⟩ := Option.map_eq_some_iff.1 h
    cases h₂
    apply hfinish
    simp [endsTerminal, hresult]
  | returned => cases h

/-- The states that `sendTerminalFrame` is asked for are terminal. -/
def EndsTerminal (e : Engine) : Prop :=
  ∀ thread ∈ e.threads, ∀ t ∈ thread.terminates, t.2.isTerminal = true

theorem endsTerminal_step (h : e.EndsTerminal) (hstep : e.step runtime event = some e') :
    e'.EndsTerminal :=
  (step_advances hstep).threads.forall_terminates (P := fun _ state =>
    state.isTerminal = true) rfl h

theorem endsTerminal_construct {o : ConstructorOptions} {registry : InboundTransferRegistry}
    {readyState : ReadyState} (h : construct o registry readyState = .ok e) : e.EndsTerminal := by
  obtain ⟨options, stream, registry', _, _, hcases⟩ := construct_cases h
  rcases hcases with ⟨_, rfl⟩ | ⟨_, rfl⟩
  · exact List.forall_mem_nil _
  · exact (threadStep_onOpen _).forall_terminates (P := fun _ state => state.isTerminal = true) rfl
      (List.forall_mem_nil _)

theorem effect_resumeThread {unicode : Unicode} {i : ℕ} {thread thread' : Thread}
    (hterminal : e.EndsTerminal) (hthread : e.threads[i]? = some thread)
    (h : e.resumeThread unicode thread = some (e', thread')) :
    Effect runtime e (.resume i) e'.ledger thread'.awaited := by
  unfold resumeThread at h
  split at h
  case h_1 | h_4 =>
    obtain ⟨⟨e₁, pc₁⟩, h₁, h₂⟩ := Option.map_eq_some_iff.1 h
    cases h₂
    exact effect_resumeStart h₁
  case h_2 | h_5 =>
    cases h
    exact .refl
  case h_3 =>
    cases h
    refine effect_fail fun hover => ?_
    simp only [ends, hthread, hover, Bool.not_false]
  case h_6 =>
    rcases afterSend_cases h with ⟨_, h⟩ | ⟨error, _, h⟩ <;> cases h <;> exact .refl
  case h_7 type code state pc =>
    obtain ⟨⟨e₁, pc₁⟩, h₁, h₂⟩ := Option.map_eq_some_iff.1 h
    cases h₂
    exact effect_resumeTerminal hthread
      (hterminal _ (List.mem_of_getElem? hthread) (type, state) rfl) h₁
  case h_8 =>
    obtain ⟨⟨e₁, pc₁⟩, h₁, h₂⟩ := Option.map_eq_some_iff.1 h
    cases h₂
    exact effect_resumeSendFile hthread h₁
  case h_9 => cases h

/-! ## Handlers -/

theorem effect_finishConfirmation (e : Engine) (event : EngineEvent) :
    Effect runtime e event e.finishConfirmation.ledger none := by
  unfold finishConfirmation
  by_cases hconfirmed : e.stream.isConfirmed = true
  · rw [if_pos hconfirmed]
    exact .confirmed hconfirmed
  · rw [if_neg hconfirmed]
    exact .refl

theorem effect_handleConfirmation (h : e.handlesConfirm event = true) :
    Effect runtime e event e.handleConfirmation.1.ledger none := by
  unfold handleConfirmation
  split
  · exact effect_finishConfirmation e event
  · dsimp only
    obtain ⟨confirming, hconfirming⟩ := sendConfirmation_ledger e
    rw [hconfirming]
    exact .kept .same (.inr (.inr (.inr h)))

theorem effect_handleAccept (e : Engine) (value : Bytes) :
    Effect runtime e .handle (e.handleAccept value).1.ledger none := by
  unfold handleAccept
  split
  · exact .refl
  case h_2 hcheck =>
    simp only [checkAcceptance, bind_eq_ok, throwIf_eq_ok, not_or, ne_eq, not_not] at hcheck
    obtain ⟨_, ⟨hrole, _⟩, _⟩ := hcheck
    exact .accepted hrole

theorem handleChunk_ledger (e : Engine) (value : Bytes) :
    (e.handleChunk value).1.ledger = e.ledger := by
  unfold handleChunk
  split <;> rfl

theorem handleComplete_ledger (e : Engine) (value : Bytes) :
    (e.handleComplete value).1.ledger = e.ledger := by
  unfold handleComplete
  split
  · rfl
  · split
    · rfl
    · rw [compareDigest_fst]
      rfl

theorem verifiedOffer_ledger (e : Engine) (offer : SignedFileOffer) (key : CryptoKey)
    (message signature : Bytes) :
    (e.verifiedOffer runtime offer key message signature).1.ledger = e.ledger := by
  unfold verifiedOffer
  split_ifs
  · rfl
  · dsimp only
    split_ifs
    · have h := accept_ledger { e with
        offeredManifest := some offer.manifest
        history := { e.history with
          offers := e.history.offers ++ [Verified.mk offer.core key message signature] } }
      split <;> rename_i haccept <;> rw [haccept] at h <;> exact h
    · rfl

theorem verifiedComplete_ledger (e : Engine) (core : FileComplete) (key : CryptoKey)
    (message signature : Bytes) :
    (e.verifiedComplete runtime core key message signature).1.ledger = e.ledger := by
  unfold verifiedComplete
  split_ifs
  · rfl
  · dsimp only
    split
    · rfl
    · have h := sendJson_ledger { e with history := { e.history with
        completions := e.history.completions ++ [Verified.mk core key message signature] } }
        .receipt (TransferReceipt.mk e.options.transferId e.receivedBytes core.sha256).json
      split <;> rename_i hsend <;> rw [hsend] at h <;> exact h

section Received

variable {header : FrameHeader} {plaintext : Bytes}
  (hreceiving : e.receiving = some (.received header plaintext))

include hreceiving

theorem effect_handleManifest (htype : header.type = .manifest) :
    Effect runtime e .handle (e.handleManifest runtime plaintext).1.ledger none := by
  by_cases haccepts : e.acceptsManifest runtime plaintext = true
  · have h : (e.handleManifest runtime plaintext).1.ledger =
        { e.ledger with state := .receiving } := by
      unfold handleManifest
      unfold acceptsManifest at haccepts
      split <;> rename_i hcheck <;> rw [hcheck] at haccepts
      · cases haccepts
      · dsimp only at haccepts ⊢
        rw [if_neg (by simp_all)]
        rfl
    rw [h]
    exact .manifest hreceiving htype haccepts
  · have h : (e.handleManifest runtime plaintext).1.ledger = e.ledger := by
      unfold handleManifest
      unfold acceptsManifest at haccepts
      split <;> rename_i hcheck <;> rw [hcheck] at haccepts
      · rfl
      · dsimp only at haccepts ⊢
        split_ifs
        · rfl
        · simp_all
    rw [h]
    exact .refl

theorem effect_handleReceipt (htype : header.type = .receipt) :
    Effect runtime e .handle (e.handleReceipt plaintext).1.ledger none := by
  unfold handleReceipt
  split
  · exact .refl
  case h_2 receipt hcheck => exact .receipt hreceiving htype hcheck

theorem effect_handleTerminalPayload (htype : header.type = .cancel ∨ header.type = .error) :
    Effect runtime e .handle (e.handleTerminalPayload plaintext header.type).1.ledger none := by
  unfold handleTerminalPayload
  split
  · exact .refl
  case h_2 code hparse =>
    refine effect_fail fun hover => ?_
    simp [ends, hreceiving, hover, htype, hparse, Except.toOption]

theorem effect_handleFrame :
    Effect runtime e .handle (e.handleFrame runtime header plaintext).1.ledger none := by
  cases htype : header.type with
  | confirm =>
    simp only [handleFrame, htype]
    exact effect_handleConfirmation (by simp [handlesConfirm, hreceiving, htype])
  | fileOffer =>
    simp only [handleFrame, htype, handleFileOffer_fst]
    exact .refl
  | accept =>
    simp only [handleFrame, htype]
    exact effect_handleAccept e plaintext
  | manifest =>
    simp only [handleFrame, htype]
    exact effect_handleManifest hreceiving htype
  | chunk =>
    simp only [handleFrame, htype, handleChunk_ledger]
    exact .refl
  | complete =>
    simp only [handleFrame, htype, handleComplete_ledger]
    exact .refl
  | receipt =>
    simp only [handleFrame, htype]
    exact effect_handleReceipt hreceiving htype
  | cancel =>
    have h : Effect runtime e .handle _ none := effect_handleTerminalPayload hreceiving (.inl htype)
    simp only [handleFrame, htype]
    rwa [htype] at h
  | error =>
    have h : Effect runtime e .handle _ none := effect_handleTerminalPayload hreceiving (.inr htype)
    simp only [handleFrame, htype]
    rwa [htype] at h

end Received

theorem effect_resumeHandler {pc : ReceivePc} {r : Engine × Option ReceivePc}
    (hreceiving : e.receiving = some pc) (h : e.resumeHandler pc = some r) :
    Effect runtime e .resumeHandler r.1.ledger none := by
  unfold resumeHandler at h
  dsimp only at h
  split at h
  · obtain ⟨⟨e₁, pc₁⟩, h₁, h₂⟩ := Option.map_eq_some_iff.1 h
    cases h₂
    exact effect_resumeStart h₁
  · cases h
    exact effect_finishConfirmation e .resumeHandler
  · cases h
    exact .refl
  · rcases afterSend_cases h with ⟨_, h⟩ | ⟨error, _, h⟩ <;> cases h <;> exact .refl
  · rcases afterSend_cases h with ⟨hsend, h⟩ | ⟨error, _, h⟩ <;> cases h
    · exact .completed hreceiving hsend
    · exact .refl
  · cases h

/-! ## Steps -/

theorem made_resumeThread {unicode : Unicode} {thread thread' : Thread} {kind : PromiseKind}
    (h : e.resumeThread unicode thread = some (e', thread')) (hmade : thread'.made = some kind) :
    e'.promises.made kind = true := by
  unfold resumeThread at h
  split at h
  case h_8 =>
    obtain ⟨⟨e₁, pc₁⟩, h₁, h₂⟩ := Option.map_eq_some_iff.1 h
    cases h₂
    exact made_resumeSendFile h₁ hmade
  case h_1 | h_4 | h_7 =>
    obtain ⟨⟨e₁, pc₁⟩, _, h₂⟩ := Option.map_eq_some_iff.1 h
    cases h₂
    cases hmade
  case h_2 | h_3 | h_5 =>
    cases h
    cases hmade
  case h_6 => rcases afterSend_cases h with ⟨_, h⟩ | ⟨error, _, h⟩ <;> cases h <;> cases hmade
  case h_9 => cases h

/-- The event has an effect on the ledger, only the call it lets go on can begin to await, and a
call goes on with a promise of its own only when there is one. -/
structure Leads (runtime : Runtime) (e : Engine) (event : EngineEvent) (e' : Engine) : Prop where
  effect : ∃ awaited, Effect runtime e event e'.ledger awaited ∧
    ∀ w, e'.HasWaiter w → e.HasWaiter w ∨ awaited = some w
  made : ∀ kind, e'.Made kind → e.Made kind ∨ e'.promises.made kind = true

theorem leads_of_threads (hthreads : e'.threads = e.threads)
    (h : Effect runtime e event e'.ledger none) : Leads runtime e event e' where
  effect := by
    refine ⟨none, h, ?_⟩
    rintro w ⟨t, ht, hw⟩
    exact .inl ⟨t, hthreads ▸ ht, hw⟩
  made := by
    rintro kind ⟨t, ht, hkind⟩
    exact .inl ⟨t, hthreads ▸ ht, hkind⟩

theorem leads_addThread {thread : Thread} (hthreads : e'.threads = e.threads)
    (hawaited : thread.awaited = none) (hmade : thread.made = none)
    (h : Effect runtime e event e'.ledger none) : Leads runtime e event (e'.addThread thread) where
  effect := by
    refine ⟨none, h, ?_⟩
    rintro w ⟨t, ht, hw⟩
    rcases mem_addThread ht with ht | rfl
    · exact .inl ⟨t, hthreads ▸ ht, hw⟩
    · exact .inr (hawaited ▸ hw)
  made := by
    rintro kind ⟨t, ht, hkind⟩
    rcases mem_addThread ht with ht | rfl
    · exact .inl ⟨t, hthreads ▸ ht, hkind⟩
    · rw [hmade] at hkind
      cases hkind

theorem leads_setThread {i : ℕ} {thread : Thread} (hthreads : e'.threads = e.threads)
    (h : Effect runtime e event e'.ledger thread.awaited)
    (hmade : ∀ kind, thread.made = some kind → e.Made kind ∨ e'.promises.made kind = true) :
    Leads runtime e event (e'.setThread i thread) where
  effect := by
    refine ⟨thread.awaited, h, ?_⟩
    rintro w ⟨t, ht, hw⟩
    rcases mem_setThread ht with ht | rfl
    · exact .inl ⟨t, hthreads ▸ ht, hw⟩
    · exact .inr hw
  made := by
    rintro kind ⟨t, ht, hkind⟩
    rcases mem_setThread ht with ht | rfl
    · exact .inl ⟨t, hthreads ▸ ht, hkind⟩
    · exact hmade kind hkind

theorem effect_start (e : Engine) (hstarts : event.starts = true) :
    Effect runtime e event e.start.1.ledger none := by
  obtain ⟨state, confirming, hproceeds, hledger⟩ := start_ledger e
  rw [hledger]
  exact .kept hproceeds (.inr (.inr (.inl hstarts)))

theorem leads_onOpen (e : Engine) : Leads runtime e .opened e.onOpen :=
  leads_addThread (serves_start e).threads rfl rfl (effect_start e rfl)

theorem leads_goOn {r : Engine × Option ReceivePc} (hthreads : r.1.threads = e.threads)
    (h : Effect runtime e event r.1.ledger none) : Leads runtime e event (goOn r) := by
  apply leads_of_threads
  · exact hthreads
  · exact h

/-- What an event does to the ledger. -/
theorem step_effect (hterminal : e.EndsTerminal) (h : e.step runtime event = some e') :
    Leads runtime e event e' := by
  cases step_moves h with
  | start | reject | sendFile =>
    exact leads_addThread (serves_start e).threads rfl rfl (effect_start e rfl)
  | acceptSends haccept =>
    have hthreads := (serves_accept e).threads
    have hledger := accept_ledger e
    rw [haccept] at hthreads hledger
    exact leads_addThread hthreads rfl rfl (hledger ▸ .refl)
  | acceptReturns haccept =>
    have hthreads := (serves_accept e).threads
    have hledger := accept_ledger e
    rw [haccept] at hthreads hledger
    exact leads_of_threads hthreads (hledger ▸ .refl)
  | sendFileRefused => exact leads_addThread rfl rfl rfl .refl
  | close hclosed => exact leads_of_threads rfl (.ended (by simp [ends, hclosed]) rfl)
  | opened =>
    refine leads_addThread (serves_start (e.setReadyState .opened)).threads rfl rfl ?_
    obtain ⟨state, confirming, hproceeds, hledger⟩ := start_ledger (e.setReadyState .opened)
    rw [hledger]
    exact .kept hproceeds (.inr (.inr (.inl rfl)))
  | closed =>
    refine leads_of_threads (serves_fail (e.setReadyState .closed) _ true).threads ?_
    show Effect runtime e .closed ((e.setReadyState .closed).fail _ true).ledger none
    exact effect_fail fun hover => by simp [ends, hover]
  | @errored error =>
    refine leads_of_threads (serves_fail e _ true).threads ?_
    show Effect runtime e .errored (e.fail (.protocol error) true).ledger none
    exact effect_fail fun hover => by simp [ends, hover]
  | rejectLate | closeAgain | messageLate | message | closing | drained | capacityFreed
  | capacityKept | encrypted | capacity | transmit | dequeue | bytesRead =>
    exact leads_of_threads rfl .refl
  | resume hthread hnext =>
    exact leads_setThread (cleans_resumeThread (List.mem_of_getElem? hthread) hnext).threads
      (effect_resumeThread hterminal hthread hnext) fun _ hmade =>
        .inr (made_resumeThread hnext hmade)
  | signed hthread hnext =>
    refine leads_setThread (serves_signedSendFile hnext).threads
      (effect_signedSendFile hthread hnext) fun kind hmade => ?_
    rcases made_signedSendFile hnext hmade with hbefore | hafter
    · exact .inl ⟨_, List.mem_of_getElem? hthread, hbefore⟩
    · exact .inr hafter
  | sliced _ hnext =>
    refine leads_setThread (serves_slicedSendFile hnext).threads
      (effect_slicedSendFile hnext) fun kind hmade => ?_
    have hnone : some kind = none := hmade.symm.trans (made_slicedSendFile hnext)
    cases hnone
  | @dequeueRefused _ queue error _ _ herror =>
    refine leads_of_threads (serves_fail { e with queue } error true).threads ?_
    exact effect_fail fun hover => by
      have herror' : e.queueError = _ := herror
      simp [ends, hover, herror']
  | decrypted =>
    unfold openFrame
    split <;> exact leads_of_threads rfl .refl
  | handle hpc =>
    exact leads_goOn (posts_handleFrame runtime e _ _).threads (effect_handleFrame hpc)
  | offerKeyRefused | completeKeyRefused => exact leads_goOn rfl .refl
  | offerKey =>
    apply leads_goOn <;> rw [verifyOffer_fst]
    exact .refl
  | completeKey =>
    apply leads_goOn <;> rw [verifyComplete_fst]
    exact .refl
  | verifiedOffer =>
    refine leads_goOn (posts_verifiedOffer runtime e _ _ _ _).threads ?_
    rw [verifiedOffer_ledger]
    exact .refl
  | verifiedComplete =>
    refine leads_goOn (posts_verifiedComplete runtime e _ _ _ _).threads ?_
    rw [verifiedComplete_ledger]
    exact .refl
  | resumeHandler hpc hnext =>
    exact leads_goOn (posts_resumeHandler hnext).threads (effect_resumeHandler hpc hnext)
  | @caught error =>
    refine leads_of_threads (serves_fail e _ true).threads ?_
    show Effect runtime e .caught (e.fail error true).ledger none
    exact effect_fail fun hover => by simp [ends, hover]

end Engine

end SelfRelay
