import SelfRelay.Transfer.Settlement

/-!
# Orphaned calls

`rejectPending` settles the promises whose resolvers the engine has at that moment.  A call of
`sendFile` is settled by it unless its promise has lost its resolvers to the promise of an
overlapping call, or the call gets to the promise only when the transfer is over; a receipt
completes the transfer without `rejectPending`, so that it strands every call that awaits something
else.  `strands` says which events do this.  In a run without them every pending promise that is
awaited has its resolvers, and the transfer is not over (`Attended`).
-/

namespace SelfRelay

open StepSystem

/-! ## Promises that somebody settles -/

def Awaited.isAcceptance : Awaited → Bool
  | .acceptance _ => true
  | .confirmation | .receipt _ => false

def Awaited.isReceipt : Awaited → Bool
  | .receipt _ => true
  | .confirmation | .acceptance _ => false

namespace Promises

/-- The engine has the resolvers of the promise. -/
def attends (p : Promises) : Awaited → Bool
  | .confirmation => p.confirmationSettles
  | .acceptance promise => p.acceptanceSettles = some promise
  | .receipt promise => p.receiptSettles = some promise

/-- The promise was made. -/
def Contains (p : Promises) : Awaited → Prop
  | .confirmation => p.confirmationPromise.isSome = true
  | .acceptance promise => promise < p.acceptances.length
  | .receipt promise => promise < p.receipts.length

/-- The promise that a call would go on to await next, of each kind, is settled or attended. -/
structure Consistent (p : Promises) : Prop where
  confirmation : p.pending .confirmation = true → p.attends .confirmation = true
  acceptance : p.pending (.acceptance (p.acceptancePromise.getD 0)) = true →
    p.attends (.acceptance (p.acceptancePromise.getD 0)) = true
  receipt : p.pending (.receipt (p.receiptPromise.getD 0)) = true →
    p.attends (.receipt (p.receiptPromise.getD 0)) = true
  acceptance_made : p.made .acceptance = true →
    p.Contains (.acceptance (p.acceptancePromise.getD 0))
  receipt_made : p.made .receipt = true → p.Contains (.receipt (p.receiptPromise.getD 0))

end Promises

/-- Settling a promise of a table leaves the others pending, and that one not. -/
theorem pending_settle {α : Type} {table : List (Deferred α)} {promise : Option ℕ} {i : ℕ}
    {value : Deferred α} (hvalue : value ≠ .pending)
    (h : (Engine.settle table promise value)[i]? = some .pending) :
    table[i]? = some .pending ∧ promise ≠ some i := by
  cases promise with
  | none => exact ⟨h, by simp⟩
  | some j =>
    simp only [Engine.settle, List.getElem?_set] at h
    split_ifs at h with hij hlt
    · exact absurd (Option.some.inj h) hvalue
    · exact ⟨h, fun hj => hij (Option.some.inj hj)⟩

@[simp]
theorem length_settle {α : Type} (table : List (Deferred α)) (promise : Option ℕ)
    (value : Deferred α) : (Engine.settle table promise value).length = table.length := by
  cases promise <;> simp [Engine.settle]

namespace Promises

variable {p q : Promises} {w : Awaited} {error : ProtocolError} {receipt : TransferReceipt}

theorem Contains.settled (h : p.Contains w) (hpending : p.pending w = false) :
    p.settled w = true := by
  cases w with
  | confirmation =>
    obtain ⟨promise, hpromise⟩ := Option.isSome_iff_exists.1 h
    simpa [Promises.settled, pending, hpromise] using hpending
  | acceptance promise =>
    simpa [Promises.settled, pending, List.getElem?_eq_getElem h] using hpending
  | receipt promise =>
    simpa [Promises.settled, pending, List.getElem?_eq_getElem h] using hpending

/-- Promises are made and settled, but not forgotten. -/
structure Grows (p q : Promises) : Prop where
  confirmation : p.confirmationPromise.isSome = true → q.confirmationPromise.isSome = true
  acceptances : p.acceptances.length ≤ q.acceptances.length
  receipts : p.receipts.length ≤ q.receipts.length
  made : ∀ kind, p.made kind = true → q.made kind = true

theorem Grows.contains (h : p.Grows q) (hw : p.Contains w) : q.Contains w := by
  cases w with
  | confirmation => exact h.confirmation hw
  | acceptance promise => exact Nat.lt_of_lt_of_le hw h.acceptances
  | receipt promise => exact Nat.lt_of_lt_of_le hw h.receipts

theorem Grows.refl (p : Promises) : p.Grows p := ⟨id, le_rfl, le_rfl, fun _ => id⟩

theorem grows_reject (p : Promises) (error : ProtocolError) : p.Grows (p.reject error) where
  confirmation h := by
    simp only [reject]
    split
    · rfl
    · exact h
  acceptances := (length_settle ..).ge
  receipts := (length_settle ..).ge
  made kind hmade := by cases kind <;> exact hmade

theorem grows_confirm (p : Promises) : p.Grows p.confirm where
  confirmation h := by
    simp only [confirm]
    split
    · rfl
    · exact h
  acceptances := le_rfl
  receipts := le_rfl
  made kind hmade := by cases kind <;> exact hmade

theorem grows_accept (p : Promises) : p.Grows p.accept where
  confirmation := id
  acceptances := (length_settle ..).ge
  receipts := le_rfl
  made kind hmade := by cases kind <;> exact hmade

theorem grows_receive (p : Promises) (receipt : TransferReceipt) : p.Grows (p.receive receipt) where
  confirmation := id
  acceptances := le_rfl
  receipts := (length_settle ..).ge
  made kind hmade := by cases kind <;> exact hmade

theorem grows_expectConfirmation (p : Promises) : p.Grows p.expectConfirmation := by
  unfold expectConfirmation
  split
  · exact .refl p
  · exact ⟨fun _ => rfl, le_rfl, le_rfl, fun kind hmade => by cases kind <;> exact hmade⟩

theorem grows_expectAcceptance (p : Promises) : p.Grows p.expectAcceptance where
  confirmation := id
  acceptances := by simp [expectAcceptance]
  receipts := le_rfl
  made := by
    rintro (_ | _) hmade
    · rfl
    · exact hmade

theorem grows_expectReceipt (p : Promises) : p.Grows p.expectReceipt where
  confirmation := id
  acceptances := le_rfl
  receipts := by simp [expectReceipt]
  made := by
    rintro (_ | _) hmade
    · exact hmade
    · rfl

theorem contains_expectConfirmation (p : Promises) :
    p.expectConfirmation.Contains .confirmation := by
  unfold expectConfirmation
  split
  · rename_i hpromise
    simp [Contains, hpromise]
  · rfl

theorem pending_reject (h : (p.reject error).pending w = true) :
    p.pending w = true ∧ p.attends w = false := by
  cases w with
  | confirmation =>
    have h := of_decide_eq_true h
    simp only [reject] at h
    split_ifs at h with hsettles
    · cases h
    · exact ⟨decide_eq_true h, Bool.eq_false_iff.2 hsettles⟩
  | acceptance promise =>
    obtain ⟨hpending, hne⟩ := pending_settle (by simp) (of_decide_eq_true h)
    exact ⟨decide_eq_true hpending, decide_eq_false hne⟩
  | receipt promise =>
    obtain ⟨hpending, hne⟩ := pending_settle (by simp) (of_decide_eq_true h)
    exact ⟨decide_eq_true hpending, decide_eq_false hne⟩

theorem Consistent.reject (h : p.Consistent) (error : ProtocolError) :
    (p.reject error).Consistent where
  confirmation hpending := by
    obtain ⟨hbefore, hnot⟩ := pending_reject hpending
    exact absurd (h.confirmation hbefore) (by simp [hnot])
  acceptance hpending := by
    obtain ⟨hbefore, hnot⟩ := pending_reject hpending
    exact absurd (h.acceptance hbefore) (Bool.eq_false_iff.1 hnot)
  receipt hpending := by
    obtain ⟨hbefore, hnot⟩ := pending_reject hpending
    exact absurd (h.receipt hbefore) (Bool.eq_false_iff.1 hnot)
  acceptance_made hmade := (grows_reject p error).contains (h.acceptance_made hmade)
  receipt_made hmade := (grows_reject p error).contains (h.receipt_made hmade)

theorem pending_confirm (h : p.confirm.pending w = true) :
    p.pending w = true ∧ (p.attends w = true → p.confirm.attends w = true) := by
  cases w with
  | confirmation =>
    have h := of_decide_eq_true h
    simp only [confirm] at h
    split_ifs at h with hsettles
    · cases h
    · exact ⟨decide_eq_true h, fun hattends => absurd hattends hsettles⟩
  | acceptance | receipt => exact ⟨h, id⟩

theorem Consistent.confirm (h : p.Consistent) : p.confirm.Consistent where
  confirmation hpending :=
    (pending_confirm hpending).2 (h.confirmation (pending_confirm hpending).1)
  acceptance := h.acceptance
  receipt := h.receipt
  acceptance_made := h.acceptance_made
  receipt_made := h.receipt_made

theorem pending_accept (h : p.accept.pending w = true) :
    p.pending w = true ∧ (p.attends w = true → p.accept.attends w = true) := by
  cases w with
  | acceptance promise =>
    obtain ⟨hpending, hne⟩ := pending_settle (by simp) (of_decide_eq_true h)
    exact ⟨decide_eq_true hpending, fun hattends => absurd (of_decide_eq_true hattends) hne⟩
  | confirmation | receipt => exact ⟨h, id⟩

theorem Consistent.accept (h : p.Consistent) : p.accept.Consistent where
  confirmation := h.confirmation
  acceptance hpending := (pending_accept hpending).2 (h.acceptance (pending_accept hpending).1)
  receipt := h.receipt
  acceptance_made hmade := (grows_accept p).contains (h.acceptance_made hmade)
  receipt_made := h.receipt_made

theorem pending_receive (h : (p.receive receipt).pending w = true) :
    p.pending w = true ∧ (p.attends w = true → (p.receive receipt).attends w = true ∧
      w.isReceipt = false) := by
  cases w with
  | receipt promise =>
    obtain ⟨hpending, hne⟩ := pending_settle (by simp) (of_decide_eq_true h)
    exact ⟨decide_eq_true hpending, fun hattends => absurd (of_decide_eq_true hattends) hne⟩
  | confirmation | acceptance => exact ⟨h, fun hattends => ⟨hattends, rfl⟩⟩

theorem Consistent.receive (h : p.Consistent) (receipt : TransferReceipt) :
    (p.receive receipt).Consistent where
  confirmation := h.confirmation
  acceptance := h.acceptance
  receipt hpending :=
    ((pending_receive hpending).2 (h.receipt (pending_receive hpending).1)).1
  acceptance_made := h.acceptance_made
  receipt_made hmade := (grows_receive p receipt).contains (h.receipt_made hmade)

theorem Consistent.expectConfirmation (h : p.Consistent) : p.expectConfirmation.Consistent := by
  unfold Promises.expectConfirmation
  split
  · exact h
  · exact ⟨fun _ => rfl, h.acceptance, h.receipt, h.acceptance_made, h.receipt_made⟩

theorem pending_expectConfirmation (h : p.expectConfirmation.pending w = true) :
    w = .confirmation ∨ p.pending w = true ∧
      (p.attends w = true → p.expectConfirmation.attends w = true) := by
  unfold Promises.expectConfirmation at h ⊢
  split at h
  · exact .inr ⟨h, id⟩
  · cases w with
    | confirmation => exact .inl rfl
    | acceptance | receipt => exact .inr ⟨h, id⟩

theorem Consistent.expectAcceptance (h : p.Consistent) : p.expectAcceptance.Consistent where
  confirmation := h.confirmation
  acceptance _ := by simp [Promises.expectAcceptance, attends]
  receipt := h.receipt
  acceptance_made _ := by simp [Promises.expectAcceptance, Contains]
  receipt_made := h.receipt_made

/-- A promise that was made before is pending after the offer only if it was so before; another
acceptance loses its resolvers. -/
theorem pending_expectAcceptance (h : p.expectAcceptance.pending w = true) (hw : p.Contains w) :
    p.pending w = true ∧ (w.isAcceptance = false → p.attends w = true →
      p.expectAcceptance.attends w = true) := by
  cases w with
  | acceptance promise =>
    have h := of_decide_eq_true h
    simp only [expectAcceptance] at h
    rw [List.getElem?_append_left hw] at h
    exact ⟨decide_eq_true h, fun hfalse => by cases hfalse⟩
  | confirmation | receipt => exact ⟨h, fun _ => id⟩

theorem Consistent.expectReceipt (h : p.Consistent) : p.expectReceipt.Consistent where
  confirmation := h.confirmation
  acceptance := h.acceptance
  receipt _ := by simp [Promises.expectReceipt, attends]
  acceptance_made := h.acceptance_made
  receipt_made _ := by simp [Promises.expectReceipt, Contains]

theorem pending_expectReceipt (h : p.expectReceipt.pending w = true) (hw : p.Contains w) :
    p.pending w = true ∧ (w.isReceipt = false → p.attends w = true →
      p.expectReceipt.attends w = true) := by
  cases w with
  | receipt promise =>
    have h := of_decide_eq_true h
    simp only [expectReceipt] at h
    rw [List.getElem?_append_left hw] at h
    exact ⟨decide_eq_true h, fun hfalse => by cases hfalse⟩
  | confirmation | acceptance => exact ⟨h, fun _ => id⟩

end Promises

/-- The handlers that only a recipient gets to. -/
def ReceivePc.forRecipient : ReceivePc → Bool
  | .importingOffer _ | .verifyingOffer .. | .accepting _ | .importingComplete .. |
    .verifyingComplete .. | .sendingReceipt .. => true
  | .reading _ | .decrypting _ | .received .. | .confirming _ | .threw _ => false

namespace Engine

variable {runtime : Runtime} {e e' e₀ : Engine} {event : EngineEvent} {es : List EngineEvent}

/-! ## Events that strand a call -/

/-- A call is suspended on a promise of this sort. -/
def suspended (e : Engine) (sort : Awaited → Bool) : Bool :=
  e.threads.any fun thread => thread.awaited.any fun w => sort w && e.promises.pending w

theorem suspended_eq_false {sort : Awaited → Bool} (h : e.suspended sort = false) {w : Awaited}
    (hw : e.HasWaiter w) (hsort : sort w = true) : e.promises.pending w = false := by
  obtain ⟨thread, hmem, hawaited⟩ := hw
  simp only [suspended, List.any_eq_false, Bool.not_eq_true] at h
  have hthread := h thread hmem
  simpa [hawaited, hsort] using hthread

/-- The event leaves a call with a pending promise that nothing settles. -/
def strands (e : Engine) : EngineEvent → Bool
  | .resume thread =>
    match e.threads[thread]? with
    | some (.sendFile _ _ (.starting (.returned (.ok ())))) =>
      e.isTerminal && !e.stream.isConfirmed && e.promises.expectConfirmation.pending .confirmation
    | some (.sendFile _ _ (.waitingConfirmation immediate)) =>
      (immediate || e.confirmationPromise = some (.fulfilled ())) &&
        e.suspended Awaited.isAcceptance
    | some (.sendFile _ _ (.sendingOffer _ send)) =>
      e.isTerminal && e.sendResult send = some (.ok ()) &&
        e.promises.pending (.acceptance (e.acceptancePromise.getD 0))
    | some (.sendFile _ _ (.sendingComplete _ send)) =>
      e.isTerminal && e.sendResult send = some (.ok ()) &&
        e.promises.pending (.receipt (e.receiptPromise.getD 0))
    | _ => false
  | .signed thread (some _) =>
    match e.threads[thread]? with
    | some (.sendFile _ _ (.signingComplete _)) => e.suspended Awaited.isReceipt
    | _ => false
  | .handle =>
    match e.receiving with
    | some (.received header plaintext) =>
      header.type = .receipt && (e.checkReceipt plaintext).toOption.isSome &&
        e.suspended fun w => !w.isReceipt
    | _ => false
  | _ => false

/-! ## The invariant -/

/-- A sender has its promises attended to: a call that is suspended can still be settled, by the
resolvers that the engine has, because the transfer is not over. -/
structure Attended (e : Engine) : Prop where
  role : e.options.role = .sender
  terminates : e.EndsTerminal
  handler : ∀ pc ∈ e.receiving, pc.forRecipient = false
  consistent : e.promises.Consistent
  made : ∀ kind, e.Made kind → e.promises.made kind = true
  contains : ∀ w, e.HasWaiter w → e.promises.Contains w
  attends : ∀ w, e.HasWaiter w → e.promises.pending w = true →
    e.isTerminal = false ∧ e.promises.attends w = true

/-- The ledger keeps what the engine had, and attends to every call that awaits. -/
structure Keeps (e : Engine) (l : Ledger) (awaited : Option Awaited) : Prop where
  consistent : l.promises.Consistent
  grows : e.promises.Grows l.promises
  contains : ∀ w ∈ awaited, l.promises.Contains w
  attends : ∀ w, e.HasWaiter w ∨ awaited = some w → l.promises.pending w = true →
    l.state.isTerminal = false ∧ l.promises.attends w = true

/-- No call begins to await: what is still pending of the awaited promises was pending and is still
attended to, or nothing is. -/
theorem Attended.keeps (h : e.Attended) {l : Ledger} (hconsistent : l.promises.Consistent)
    (hgrows : e.promises.Grows l.promises)
    (hpending : ∀ w, e.HasWaiter w → l.promises.pending w = true → e.promises.pending w = true ∧
      (e.promises.attends w = true → l.promises.attends w = true ∧
        (e.stateValue.isTerminal = false → l.state.isTerminal = false))) : Keeps e l none where
  consistent := hconsistent
  grows := hgrows
  contains := by rintro w ⟨⟩
  attends := by
    rintro w (hw | ⟨⟨⟩⟩) hw'
    obtain ⟨hbefore, hafter⟩ := hpending w hw hw'
    obtain ⟨hover, hattends⟩ := h.attends w hw hbefore
    exact ⟨(hafter hattends).2 hover, (hafter hattends).1⟩

/-- A call begins to await a promise that is attended to, if it is pending. -/
theorem Attended.keeps_await (h : e.Attended) {w : Awaited} (hcontains : e.promises.Contains w)
    (hattends : e.promises.pending w = true → e.isTerminal = false ∧ e.promises.attends w = true) :
    Keeps e e.ledger (some w) where
  consistent := h.consistent
  grows := .refl _
  contains := by
    rintro _ ⟨⟩
    exact hcontains
  attends := by
    rintro w' (hw | ⟨⟨⟩⟩) hpending
    · exact h.attends w' hw hpending
    · exact hattends hpending

/-! ### What an event makes of the promises of a sender, when it strands nobody -/

section Effects

variable (h : e.Attended)

include h

theorem keeps_reject (state : FileTransferState) (error : ProtocolError)
    (registry : InboundTransferRegistry) (confirming : Option ℕ) :
    Keeps e ⟨state, e.promises.reject error, registry, confirming⟩ none := by
  refine h.keeps (h.consistent.reject error) (Promises.grows_reject _ error) fun w _ hpending => ?_
  obtain ⟨hbefore, hnot⟩ := Promises.pending_reject hpending
  exact ⟨hbefore, fun hattends => absurd hattends (Bool.eq_false_iff.1 hnot)⟩

theorem keeps_confirm (registry : InboundTransferRegistry) (confirming : Option ℕ) :
    Keeps e ⟨if e.stateValue = .confirming then .ready else e.stateValue,
      e.promises.confirm, registry,
      confirming⟩ none := by
  refine h.keeps h.consistent.confirm (Promises.grows_confirm _) fun w _ hpending => ?_
  obtain ⟨hbefore, hafter⟩ := Promises.pending_confirm hpending
  refine ⟨hbefore, fun hattends => ⟨hafter hattends, fun hover => ?_⟩⟩
  dsimp only
  split
  · rfl
  · exact hover

theorem keeps_accept (registry : InboundTransferRegistry) (confirming : Option ℕ) :
    Keeps e ⟨if e.stateValue = .confirming ∨ e.stateValue = .ready then .ready else e.stateValue,
      e.promises.accept, registry, confirming⟩ none := by
  refine h.keeps h.consistent.accept (Promises.grows_accept _) fun w _ hpending => ?_
  obtain ⟨hbefore, hafter⟩ := Promises.pending_accept hpending
  refine ⟨hbefore, fun hattends => ⟨hafter hattends, fun hover => ?_⟩⟩
  dsimp only
  split
  · rfl
  · exact hover

/-- A receipt strands the calls that await something else. -/
theorem keeps_receive (hsuspended : e.suspended (fun w => !w.isReceipt) = false)
    (state : FileTransferState) (receipt : TransferReceipt) (registry : InboundTransferRegistry)
    (confirming : Option ℕ) :
    Keeps e ⟨state, e.promises.receive receipt, registry, confirming⟩ none := by
  refine h.keeps (h.consistent.receive receipt) (Promises.grows_receive _ receipt)
    fun w hw hpending => ?_
  obtain ⟨hbefore, hafter⟩ := Promises.pending_receive hpending
  refine ⟨hbefore, fun hattends => ?_⟩
  have hnone := suspended_eq_false hsuspended hw (by simp [(hafter hattends).2])
  rw [hbefore] at hnone
  cases hnone

theorem keeps_expectConfirmation
    (hover : e.promises.expectConfirmation.pending .confirmation = true → e.isTerminal = false) :
    Keeps e { e.ledger with promises := e.promises.expectConfirmation } (some .confirmation) := by
  have hnew : e.promises.expectConfirmation.pending .confirmation = true →
      e.isTerminal = false ∧ e.promises.expectConfirmation.attends .confirmation = true :=
    fun hpending => ⟨hover hpending, h.consistent.expectConfirmation.confirmation hpending⟩
  refine ⟨h.consistent.expectConfirmation, Promises.grows_expectConfirmation _, ?_, ?_⟩
  · rintro _ ⟨⟩
    exact Promises.contains_expectConfirmation _
  · intro w hw hpending
    rcases Promises.pending_expectConfirmation hpending with rfl | ⟨hbefore, hafter⟩
    · exact hnew hpending
    · rcases hw with hw | ⟨⟨⟩⟩
      · obtain ⟨hover, hattends⟩ := h.attends w hw hbefore
        exact ⟨hover, hafter hattends⟩
      · exact hnew hpending

/-- A new acceptance promise strands the calls that await the one before. -/
theorem keeps_expectAcceptance (hsuspended : e.suspended Awaited.isAcceptance = false) :
    Keeps e { e.ledger with promises := e.promises.expectAcceptance } none := by
  refine h.keeps h.consistent.expectAcceptance (Promises.grows_expectAcceptance _)
    fun w hw hpending => ?_
  obtain ⟨hbefore, hafter⟩ := Promises.pending_expectAcceptance hpending (h.contains w hw)
  refine ⟨hbefore, fun hattends => ⟨hafter ?_ hattends, id⟩⟩
  by_contra hsort
  have hnone := suspended_eq_false hsuspended hw (Bool.not_eq_false _ ▸ hsort)
  rw [hbefore] at hnone
  cases hnone

theorem keeps_expectReceipt (hsuspended : e.suspended Awaited.isReceipt = false) :
    Keeps e { e.ledger with promises := e.promises.expectReceipt } none := by
  refine h.keeps h.consistent.expectReceipt (Promises.grows_expectReceipt _) fun w hw hpending => ?_
  obtain ⟨hbefore, hafter⟩ := Promises.pending_expectReceipt hpending (h.contains w hw)
  refine ⟨hbefore, fun hattends => ⟨hafter ?_ hattends, id⟩⟩
  by_contra hsort
  have hnone := suspended_eq_false hsuspended hw (Bool.not_eq_false _ ▸ hsort)
  rw [hbefore] at hnone
  cases hnone

end Effects

theorem keeps_effect {l : Ledger} {awaited : Option Awaited} (h : e.Attended)
    (hstrands : e.strands event = false) (heffect : Effect runtime e event l awaited) :
    Keeps e l awaited := by
  cases heffect with
  | kept hproceeds _ =>
    exact h.keeps h.consistent (.refl _) fun w _ hpending =>
      ⟨hpending, fun hattends => ⟨hattends, hproceeds.isTerminal_eq.trans⟩⟩
  | ended _ _ => exact keeps_reject h _ _ _ _
  | manifest _ _ haccepts =>
    have hrole := role_of_acceptsManifest haccepts
    rw [h.role] at hrole
    cases hrole
  | completed hreceiving _ => cases h.handler _ hreceiving
  | receipt hreceiving htype hcheck =>
    refine keeps_receive h ?_ _ _ _ _
    simpa [strands, hreceiving, htype, hcheck, Except.toOption] using hstrands
  | confirmed _ => exact keeps_confirm h _ _
  | accepted _ => exact keeps_accept h _ _
  | awaitConfirmation hthread hconfirmed =>
    refine keeps_expectConfirmation h fun hpending => ?_
    simpa [strands, hthread, hconfirmed, hpending] using hstrands
  | expectAcceptance hthread hconfirmed =>
    apply keeps_expectAcceptance h
    rcases hconfirmed with rfl | hconfirmed
    · simpa [strands, hthread] using hstrands
    · simpa [strands, hthread, hconfirmed] using hstrands
  | awaitAcceptance hthread hsend =>
    apply h.keeps_await
    · exact h.consistent.acceptance_made (h.made _ ⟨_, List.mem_of_getElem? hthread, rfl⟩)
    · intro hpending
      refine ⟨?_, h.consistent.acceptance hpending⟩
      simpa [strands, hthread, hsend, hpending] using hstrands
  | expectReceipt hthread =>
    apply keeps_expectReceipt h
    simpa [strands, hthread] using hstrands
  | awaitReceipt hthread hsend =>
    apply h.keeps_await
    · exact h.consistent.receipt_made (h.made _ ⟨_, List.mem_of_getElem? hthread, rfl⟩)
    · intro hpending
      refine ⟨?_, h.consistent.receipt hpending⟩
      simpa [strands, hthread, hsend, hpending] using hstrands

/-! ## Runs -/

section Sender

variable (hrole : e.options.role = .sender)

include hrole

theorem forRecipient_handleFrame (header : FrameHeader) (plaintext : Bytes) :
    ∀ pc ∈ (e.handleFrame runtime header plaintext).2, pc.forRecipient = false := by
  intro pc hpc
  cases htype : header.type with
  | confirm =>
    simp only [handleFrame, htype, handleConfirmation] at hpc
    split at hpc <;> cases hpc
    rfl
  | fileOffer =>
    simp only [handleFrame, htype, handleFileOffer] at hpc
    split at hpc
    · cases hpc
      rfl
    case h_2 hcheck =>
      simp [checkFileOffer, hrole, throwIf] at hcheck
  | accept =>
    simp only [handleFrame, htype, handleAccept] at hpc
    split at hpc <;> cases hpc
    rfl
  | manifest =>
    simp only [handleFrame, htype, handleManifest] at hpc
    split at hpc
    · cases hpc
      rfl
    · split_ifs at hpc <;> cases hpc
      rfl
  | chunk =>
    simp only [handleFrame, htype, handleChunk] at hpc
    split at hpc <;> cases hpc
    rfl
  | complete =>
    simp only [handleFrame, htype, handleComplete] at hpc
    split at hpc
    · cases hpc
      rfl
    case h_2 hcheck =>
      unfold checkComplete at hcheck
      split at hcheck
      · simp [hrole, throwIf] at hcheck
      · cases hcheck
  | receipt =>
    simp only [handleFrame, htype, handleReceipt] at hpc
    split at hpc <;> cases hpc
    rfl
  | cancel | error =>
    simp only [handleFrame, htype, handleTerminalPayload] at hpc
    split at hpc <;> cases hpc
    rfl

theorem forRecipient_step (h : ∀ pc ∈ e.receiving, pc.forRecipient = false)
    (hstep : e.step runtime event = some e') : ∀ pc ∈ e'.receiving, pc.forRecipient = false := by
  by_cases hreceives : event.receives = false
  · rwa [(step_advances hstep).receiving hreceives]
  cases step_moves hstep with
  | @dequeueRefused _ queue error =>
    rw [(serves_fail { e with queue } error true).receiving]
    exact h
  | dequeue =>
    rintro pc ⟨⟩
    rfl
  | bytesRead =>
    rintro pc ⟨⟩
    unfold readMessage
    split
    · rfl
    · split <;> rfl
  | decrypted =>
    intro pc hpc
    simp only [goOn, openFrame] at hpc
    split at hpc <;> cases hpc <;> rfl
  | handle => exact forRecipient_handleFrame hrole _ _
  | offerKeyRefused hreceiving | completeKeyRefused hreceiving | offerKey hreceiving
  | completeKey hreceiving | verifiedOffer hreceiving | verifiedComplete hreceiving =>
    cases h _ hreceiving
  | @resumeHandler pc next hreceiving hnext =>
    have hpc := h pc hreceiving
    unfold resumeHandler at hnext
    dsimp only at hnext
    split at hnext
    · obtain ⟨⟨e₁, pc₁⟩, _, h₂⟩ := Option.map_eq_some_iff.1 hnext
      cases h₂
      rintro pc ⟨⟩
      rfl
    · cases hnext
      rintro pc ⟨⟩
    · cases hnext
      rintro pc ⟨⟩
      rfl
    · cases hpc
    · cases hpc
    · cases hnext
  | caught => rintro pc ⟨⟩
  | _ => exact absurd rfl hreceives

end Sender

theorem Attended.leads (h : e.Attended) (hleads : Leads runtime e event e')
    (hstrands : e.strands event = false) (hrole : e'.options.role = .sender)
    (hterminates : e'.EndsTerminal) (hhandler : ∀ pc ∈ e'.receiving, pc.forRecipient = false) :
    e'.Attended := by
  obtain ⟨awaited, heffect, hawaits⟩ := hleads.effect
  have hkeeps := keeps_effect h hstrands heffect
  refine ⟨hrole, hterminates, hhandler, hkeeps.consistent, fun kind hkind => ?_, fun w hw => ?_,
    fun w hw => hkeeps.attends w (hawaits w hw)⟩
  · rcases hleads.made kind hkind with hbefore | hafter
    · exact hkeeps.grows.made kind (h.made kind hbefore)
    · exact hafter
  · rcases hawaits w hw with hbefore | hnew
    · exact hkeeps.grows.contains (h.contains w hbefore)
    · exact hkeeps.contains w hnew

theorem attended_step (h : e.Attended) (hstep : e.step runtime event = some e')
    (hstrands : e.strands event = false) : e'.Attended := by
  apply h.leads (step_effect h.terminates hstep) hstrands
  · rw [(step_advances hstep).options, h.role]
  · exact endsTerminal_step h.terminates hstep
  · exact forRecipient_step h.role h.handler hstep

theorem attended_construct (runtime : Runtime) {o : ConstructorOptions}
    {registry : InboundTransferRegistry}
    {readyState : ReadyState} (hrole : o.role = .sender)
    (h : construct o registry readyState = .ok e) : e.Attended := by
  have hterminates := endsTerminal_construct h
  obtain ⟨options, stream, registry', hoptions, _, hcases⟩ := construct_cases h
  have hrole' : options.role = .sender := by
    simp only [checkOptions, bind_eq_ok, pure_eq_ok] at hoptions
    obtain ⟨_, _, _, _, _, _, _, _, _, _, _, _, rfl⟩ := hoptions
    exact hrole
  have hinitial : (initial options o.accepted stream registry' readyState).Attended := {
    role := hrole'
    terminates := List.forall_mem_nil _
    handler := by rintro pc ⟨⟩
    consistent := by constructor <;> rintro ⟨⟩
    made := by rintro kind ⟨t, ⟨⟩, _⟩
    contains := by rintro w ⟨t, ⟨⟩, _⟩
    attends := by rintro w ⟨t, ⟨⟩, _⟩ }
  rcases hcases with ⟨_, rfl⟩ | ⟨_, rfl⟩
  · exact hinitial
  · have hserves := serves_start (initial options o.accepted stream registry' readyState)
    refine hinitial.leads (leads_onOpen _ : Leads runtime _ .opened _) rfl ?_ hterminates ?_
    · show (initial options o.accepted stream registry' readyState).start.1.options.role = .sender
      rw [hserves.options]
      exact hrole'
    · show ∀ pc ∈ (initial options o.accepted stream registry' readyState).start.1.receiving, _
      rw [hserves.receiving]
      rintro pc ⟨⟩

/-- When the transfer of a sender is over, what its calls await is settled, in every run in which no
event strands a call. -/
theorem awaited_settled_of_terminal {o : ConstructorOptions} {registry : InboundTransferRegistry}
    {readyState : ReadyState} (hrole : o.role = .sender)
    (h : construct o registry readyState = .ok e₀)
    (hrun : Run (fun a event b => Step (step runtime) a event b ∧ a.strands event = false) e₀ es e)
    (hover : e.isTerminal = true) :
    ∀ thread ∈ e.threads, ∀ w ∈ thread.awaited, e.promises.settled w = true := by
  have hattended : e.Attended :=
    hrun.invariant (attended_construct runtime hrole h) fun a event b ha hb =>
      attended_step ha hb.1 hb.2
  intro thread hthread w hw
  have hawaits : e.HasWaiter w := ⟨thread, hthread, hw⟩
  apply (hattended.contains w hawaits).settled
  by_contra hpending
  have hlive := (hattended.attends w hawaits (Bool.not_eq_false _ ▸ hpending)).1
  rw [hover] at hlive
  cases hlive

/-! ## A call that is closed over -/

/-- `close` finds the call awaiting its confirmation. -/
def closedWaiting : List EngineEvent := [.sendFile sampleFile none, .resume 0, .close]

theorem awaited_settled_closed :
    ∃ e₀ e, construct (sampleOptions .sender) ⟨[]⟩ .connecting = .ok e₀ ∧
      Run (fun a event b => Step (step sampleRuntime) a event b ∧ a.strands event = false)
        e₀ closedWaiting e ∧ e.isTerminal = true ∧
          e.threads.map Thread.awaited = [some .confirmation] ∧
      ∀ thread ∈ e.threads, ∀ w ∈ thread.awaited, e.promises.settled w = true := by
  have h : Reaches (fun a event => if a.strands event = false then step sampleRuntime a event
      else none) (sampleOptions .sender) .connecting closedWaiting fun e => e.isTerminal = true ∧
        e.threads.map Thread.awaited = [some .confirmation] := by
    decide +kernel
  obtain ⟨e₀, e, he₀, hexec, hover, hthreads⟩ := h.exec
  have hrun := Run.of_exec_guarded hexec
  exact ⟨e₀, e, he₀, hrun, hover, hthreads, awaited_settled_of_terminal rfl he₀ hrun hover⟩

/-- `close` is called right after `sendFile`, and the call gets to its confirmation afterwards. -/
def closedStarting : List EngineEvent := [.sendFile sampleFile none, .close, .resume 0]

theorem closedStarting_suspended :
    ∃ e₀ e, construct (sampleOptions .sender) ⟨[]⟩ .connecting = .ok e₀ ∧
      Run (Step (step sampleRuntime)) e₀ closedStarting e ∧ e.isTerminal = true ∧ e.atRest = true ∧
      ∃ thread ∈ e.threads, ∃ w ∈ thread.awaited, e.promises.pending w = true := by
  have h : Reaches (step sampleRuntime) (sampleOptions .sender) .connecting closedStarting fun e =>
      e.isTerminal = true ∧ e.atRest = true ∧
        e.threads.map Thread.awaited = [some .confirmation] ∧
        e.promises.pending .confirmation = true := by
    decide +kernel
  obtain ⟨e₀, e, he₀, hexec, hover, hrest, hthreads, hpending⟩ := h.exec
  refine ⟨e₀, e, he₀, .of_exec hexec, hover, hrest, ?_⟩
  have hmem : some .confirmation ∈ e.threads.map Thread.awaited := by simp [hthreads]
  obtain ⟨thread, hthread, hawaited⟩ := List.mem_map.1 hmem
  exact ⟨thread, hthread, .confirmation, hawaited, hpending⟩

end Engine

end SelfRelay
