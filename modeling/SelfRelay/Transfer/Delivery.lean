import SelfRelay.Transfer.HonestOffer
import SelfRelay.Transfer.Recipient
import SelfRelay.Transfer.Settlement

/-!
# End to end

What the two sides of a transfer know about each other.  A sender sends nothing of a file but its
offer before it received an acceptance, and returns a receipt only if it received one (`Asks`); with
what a recipient encrypts (`Side.Answers`), what either heard (`Side.Heard`) and the secure channel
between them (`Pair.Secure`), what the sender awaited is what the recipient did: the transfer was
accepted, and the file that arrived is the one that was sent (`Pair.Holds`).
-/

namespace SelfRelay

open StepSystem

/-! ## Promises -/

namespace Promises

variable {p q r : Promises}

/-- No promise of the first table but those of the second is fulfilled. -/
structure NoNews (p q : Promises) : Prop where
  acceptances : ∀ i : ℕ, q.acceptances[i]? = some (.fulfilled ()) →
    p.acceptances[i]? = some (.fulfilled ())
  receipts : ∀ (i : ℕ) receipt, q.receipts[i]? = some (.fulfilled receipt) →
    p.receipts[i]? = some (.fulfilled receipt)

theorem NoNews.refl (p : Promises) : p.NoNews p := ⟨fun _ => id, fun _ _ => id⟩

/-- A rejected promise is not fulfilled. -/
theorem settle_rejected {α : Type} {table : List (Deferred α)} {promise : Option ℕ}
    {error : ProtocolError} {i : ℕ}
    {value : α}
    (h : (Engine.settle table promise (.rejected error))[i]? = some (.fulfilled value)) :
    table[i]? = some (.fulfilled value) := by
  cases promise with
  | none => exact h
  | some j =>
    rw [Engine.settle, List.getElem?_set] at h
    split_ifs at h
    · cases h
    · exact h

theorem append_pending {α : Type} {table : List (Deferred α)} {i : ℕ} {value : α}
    (h : (table ++ [.pending])[i]? = some (.fulfilled value)) :
    table[i]? = some (.fulfilled value) := by
  rw [List.getElem?_append] at h
  split_ifs at h
  · exact h
  · rw [List.getElem?_singleton] at h
    split_ifs at h
    cases h

theorem noNews_reject (p : Promises) (error : ProtocolError) : p.NoNews (p.reject error) :=
  ⟨fun _ => settle_rejected, fun _ _ => settle_rejected⟩

theorem noNews_expectConfirmation (p : Promises) : p.NoNews p.expectConfirmation := by
  unfold expectConfirmation
  split <;> exact ⟨fun _ => id, fun _ _ => id⟩

theorem noNews_expectAcceptance (p : Promises) : p.NoNews p.expectAcceptance :=
  ⟨fun _ => append_pending, fun _ _ => id⟩

theorem noNews_expectReceipt (p : Promises) : p.NoNews p.expectReceipt :=
  ⟨fun _ => id, fun _ _ => append_pending⟩

/-- The promises that a settling fulfils. -/
theorem settle_fulfilled {α : Type} {table : List (Deferred α)} {promise : Option ℕ}
    {value value' : α} {i : ℕ}
    (h : (Engine.settle table promise (.fulfilled value))[i]? = some (.fulfilled value')) :
    table[i]? = some (.fulfilled value') ∨ value' = value := by
  cases promise with
  | none => exact .inl h
  | some j =>
    rw [Engine.settle, List.getElem?_set] at h
    split_ifs at h
    · cases h
      exact .inr rfl
    · exact .inl h

end Promises

namespace Engine

variable {runtime : Runtime} {e e' : Engine} {event : EngineEvent}

theorem handleConfirmation_promises (e : Engine) :
    e.promises.NoNews e.handleConfirmation.1.promises := by
  unfold handleConfirmation
  split
  · unfold finishConfirmation
    split <;> exact ⟨fun _ => id, fun _ _ => id⟩
  · obtain ⟨confirming, hledger⟩ := sendConfirmation_ledger e
    have hsame : e.sendConfirmation.1.promises = e.promises := congrArg Ledger.promises hledger
    exact hsame ▸ .refl _

theorem fail_promises (e : Engine) (error : Thrown) (sendWire : Bool) :
    e.promises.NoNews (e.fail error sendWire).promises := by
  rw [fail_eq]
  split_ifs
  · exact .refl _
  · exact e.promises.noNews_reject error.failure

/-- Only an acceptance fulfils an acceptance promise, and only a receipt a receipt promise. -/
theorem handleFrame_promises (runtime : Runtime) (e : Engine) (header : FrameHeader)
    (plaintext : Bytes) :
    e.promises.NoNews (e.handleFrame runtime header plaintext).1.promises ∨ header.type = .accept ∧
      (e.handleFrame runtime header plaintext).1.receipts = e.receipts ∨
    ∃ receipt, header.type = .receipt ∧ e.checkReceipt plaintext = .ok receipt ∧
      (e.handleFrame runtime header plaintext).1.promises = e.promises.receive receipt := by
  unfold handleFrame
  cases header.type with
  | confirm => exact .inl (handleConfirmation_promises e)
  | fileOffer =>
    rw [handleFileOffer_fst]
    exact .inl (.refl _)
  | accept =>
    refine .inr (.inl ⟨rfl, ?_⟩)
    dsimp only [handleAccept]
    split <;> rfl
  | manifest =>
    left
    dsimp only [handleManifest]
    split
    · exact .refl _
    · split_ifs <;> exact .refl _
  | chunk =>
    left
    rw [show (e.handleChunk plaintext).1.promises = e.promises from
      congrArg Ledger.promises (handleChunk_ledger e plaintext)]
    exact .refl _
  | complete =>
    left
    rw [show (e.handleComplete plaintext).1.promises = e.promises from
      congrArg Ledger.promises (handleComplete_ledger e plaintext)]
    exact .refl _
  | receipt =>
    dsimp only [handleReceipt]
    split
    · exact .inl (.refl _)
    case h_2 receipt hcheck => exact .inr (.inr ⟨receipt, rfl, hcheck, rfl⟩)
  | cancel | error =>
    left
    dsimp only [handleTerminalPayload]
    split
    · exact .refl _
    · exact fail_promises e _ false

/-- A promise that an event fulfils was waited for with the frame that is handled. -/
theorem step_promises (hterminal : e.EndsTerminal) (h : e.step runtime event = some e') :
    e.promises.NoNews e'.promises ∨
      (∃ plaintext, e.heard = some (.accept, plaintext)) ∧ e'.receipts = e.receipts ∨
      ∃ plaintext receipt, e.heard = some (.receipt, plaintext) ∧
      parseReceipt plaintext = .ok receipt ∧
        e'.promises = e.promises.receive receipt := by
  by_cases hhandle : event = .handle
  · subst hhandle
    simp only [step] at h
    split at h <;> cases h
    rename_i header plaintext hreceiving
    have hheard : e.heard = some (header.type, plaintext) := by rw [heard, hreceiving]; rfl
    rcases handleFrame_promises runtime e header plaintext with
      hsame | ⟨htype, hreceipts⟩ | ⟨receipt, htype, hcheck, hpromises⟩
    · exact .inl hsame
    · exact .inr (.inl ⟨⟨plaintext, htype ▸ hheard⟩, hreceipts⟩)
    · refine .inr (.inr ⟨plaintext, receipt, htype ▸ hheard, ?_, hpromises⟩)
      simp only [checkReceipt, bind_eq_ok, throwIf_eq_ok, pure_eq_ok] at hcheck
      obtain ⟨_, _, _, hparse, _, _, _, _, rfl⟩ := hcheck
      exact hparse
  · left
    obtain ⟨awaited, heffect, _⟩ := (step_effect hterminal h).effect
    have hsame : ∀ p : Promises, e'.ledger.promises = p → e.promises.NoNews p →
        e.promises.NoNews e'.promises :=
      fun p hp hnews => (show e'.promises = p from hp) ▸ hnews
    generalize e'.ledger = ledger at heffect hsame
    cases heffect with
    | kept | awaitAcceptance | awaitReceipt | completed => exact hsame _ rfl (.refl _)
    | ended => exact hsame _ rfl (Promises.noNews_reject _ _)
    | confirmed => exact hsame _ rfl ⟨fun _ => id, fun _ _ => id⟩
    | awaitConfirmation => exact hsame _ rfl (Promises.noNews_expectConfirmation _)
    | expectAcceptance => exact hsame _ rfl (Promises.noNews_expectAcceptance _)
    | expectReceipt => exact hsame _ rfl (Promises.noNews_expectReceipt _)
    | manifest | receipt | accepted => exact absurd rfl hhandle

/-- Where a call of `sendFile` comes from. -/
theorem CourseStep.origin {unicode : Unicode} (h : CourseStep unicode event e e') {i : ℕ}
    {file : SourceFile}
    {fileName : Option JsString} {pc' : SendFilePc}
    (hat : e'.courseAt i = some (file, fileName, pc')) :
    e.courseAt i = some (file, fileName, pc') ∨ pc'.waits = true ∨
      (∃ error, pc' = .returned (.error error)) ∨
      ∃ pc frame, e.courseAt i = some (file, fileName, pc) ∧
        Course unicode e event i file fileName pc pc' frame := by
  cases h with
  | apart hcourses => exact .inl (hcourses i ▸ hat)
  | moved _ hthreads =>
    rw [courseAt, hthreads] at hat
    exact .inl hat
  | called _ hpc hthreads =>
    rw [courseAt, hthreads, List.getElem?_append] at hat
    split_ifs at hat
    · exact .inl hat
    · rw [List.getElem?_singleton] at hat
      split_ifs at hat
      · cases hat
        rcases hpc with ⟨error, _, rfl⟩ | ⟨_, hwaits⟩
        · exact .inr (.inr (.inl ⟨_, rfl⟩))
        · exact .inr (.inl hwaits)
      · cases hat
  | @went j file' fileName' pc pc'' hthread hthreads hcourses =>
    obtain ⟨frame, hcourse, _⟩ := hcourses
    rw [courseAt, hthreads, List.getElem?_set] at hat
    split_ifs at hat with hj hlt
    · subst hj
      cases hat
      refine .inr (.inr (.inr ⟨pc, frame, ?_, hcourse⟩))
      rw [courseAt, hthread]
      rfl
    · cases hat
    · exact .inl hat

end Engine

namespace Side

variable {runtime : Runtime} {s t : Side} {event : EngineEvent}

/-- Where a frame of the file comes from. -/
theorem carried_step (hterminal : s.engine.TerminalTypes) (h : s.step runtime event = some t) :
    t.carried = s.carried ∨ ∃ i file fileName pc pc' f,
      s.engine.courseAt i = some (file, fileName, pc) ∧
      Engine.Course runtime.unicode s.engine event i file fileName pc pc' (some f) ∧
      t.carried = s.carried ++ [f] := by
  cases Engine.step_courseStep hterminal (step_engine h) with
  | apart _ hpasses => exact .inl (Sends.carried_apart (step_encryptions h) hpasses)
  | called _ _ _ hpasses => exact .inl (Sends.carried_apart (step_encryptions h) hpasses)
  | moved _ _ hlength =>
    left
    rw [carried, sealed, step_encryptions h, Engine.newCalls_of_length hlength, List.append_nil]
    rfl
  | @went i file fileName pc pc' hthread _ hcourses =>
    obtain ⟨frame, hcourse, hpasses⟩ := hcourses
    rcases sealed_passes (step_encryptions h) hpasses with ⟨hsame, _⟩ | ⟨f, rfl, hsealed⟩
    · left
      rw [carried, hsame]
      rfl
    · right
      obtain ⟨hf, _⟩ := hcourse.carries f rfl
      refine ⟨i, file, fileName, pc, pc', f, ?_, hcourse, ?_⟩
      · rw [Engine.courseAt, hthread]
        rfl
      · rw [carried, hsealed, List.filter_append]
        simp [hf, carried]

theorem received_subset (h : s.step runtime event = some t) : s.received ⊆ t.received := by
  obtain ⟨e, _, rfl⟩ := Option.map_eq_some_iff.1 h
  exact List.subset_append_left _ _

/-- An acceptance was received. -/
def Accepted (s : Side) : Prop := ∃ body, (.accept, body) ∈ s.received

/-- A receipt was received. -/
def Confirmed (s : Side) (receipt : TransferReceipt) : Prop :=
  ∃ body, (.receipt, body) ∈ s.received ∧ parseReceipt body = .ok receipt

end Side

/-- The acceptance was awaited. -/
def SendFilePc.past : SendFilePc → Bool
  | sendingManifest _ | reading .. | sendingChunk .. | signingComplete _ | sendingComplete ..
  | awaitingReceipt _ =>
    true
  | starting _ | waitingConfirmation _ | signingOffer .. | sendingOffer .. | awaitingAcceptance ..
  | returned _ =>
    false

theorem SendFilePc.past_of_loop {pc : SendFilePc} {send offset n : ℕ} {digest : IncrementalSha256}
    (h : pc.loop = some (send, offset, n, digest)) : pc.past = true := by
  cases pc <;> first | rfl | cases h

theorem SendFilePc.past_of_waits {pc : SendFilePc} (h : pc.waits = true) : pc.past = false := by
  cases pc <;> first | rfl | cases h

theorem Engine.Course.past {e : Engine} {event : EngineEvent} {unicode : Unicode} {i : ℕ}
    {file : SourceFile}
    {fileName : Option JsString} {pc pc' : SendFilePc} {frame : Option (FrameType × Bytes)}
    (h : Course unicode e event i file fileName pc pc' frame)
    (hpast : pc'.past = true ∨ ∃ f ∈ frame, f.1 ≠ .fileOffer) :
    pc.past = true ∨ ∃ promise : ℕ, e.acceptances[promise]? = some (.fulfilled ()) := by
  cases h with
  | accepted hpromise => exact .inr ⟨_, hpromise⟩
  | looped hloop | digested hloop => exact .inl (SendFilePc.past_of_loop hloop)
  | read | completed | completionSent => exact .inl rfl
  | waited _ hwaits =>
    rcases hpast with hpast | ⟨f, hf, _⟩
    · rw [SendFilePc.past_of_waits hwaits] at hpast
      cases hpast
    · cases hf
  | offered =>
    rcases hpast with hpast | ⟨f, hf, hne⟩
    · cases hpast
    · cases hf
      exact absurd rfl hne
  | threw | prepared | offerSent | confirmed =>
    rcases hpast with hpast | ⟨f, hf, _⟩
    · cases hpast
    · cases hf

namespace Side

variable {runtime : Runtime} {s t : Side} {event : EngineEvent}

/-- What the sender waits for was received before it goes on. -/
structure Asks (s : Side) : Prop where
  acceptances : ∀ i : ℕ, s.engine.acceptances[i]? = some (.fulfilled ()) → s.Accepted
  past : ∀ i file fileName pc, s.engine.courseAt i = some (file, fileName, pc) →
    pc.past = true → s.Accepted
  carried : ∀ f ∈ s.carried, f.1 ≠ .fileOffer → s.Accepted
  receipts : ∀ (i : ℕ) receipt, s.engine.receipts[i]? = some (.fulfilled receipt) →
    s.Confirmed receipt
  returned : ∀ i file fileName receipt,
    s.engine.courseAt i = some (file, fileName, .returned (.ok receipt)) →
    s.Confirmed receipt

namespace Asks

theorem step (h : s.Asks) (hheard : s.Heard runtime) (hends : s.engine.EndsTerminal)
    (hterminal : s.engine.TerminalTypes) (hstep : s.step runtime event = some t) : t.Asks := by
  have hengine := step_engine hstep
  have hcourses := Engine.step_courseStep hterminal hengine
  have hsubset := received_subset hstep
  have haccepted : s.Accepted → t.Accepted := fun ⟨body, hbody⟩ => ⟨body, hsubset hbody⟩
  have hconfirmed : ∀ {receipt}, s.Confirmed receipt → t.Confirmed receipt :=
    fun ⟨body, hbody, hparse⟩ => ⟨body, hsubset hbody, hparse⟩
  have hpast : ∀ {i file fileName pc pc' frame}, s.engine.courseAt i = some (file, fileName, pc) →
      Engine.Course runtime.unicode s.engine event i file fileName pc pc' frame →
      (pc'.past = true ∨ ∃ f ∈ frame, f.1 ≠ .fileOffer) → t.Accepted := by
    intro i file fileName pc pc' frame hat hcourse hpast
    rcases hcourse.past hpast with hbefore | ⟨promise, hpromise⟩
    · exact haccepted (h.past i file fileName pc hat hbefore)
    · exact haccepted (h.acceptances promise hpromise)
  constructor
  · intro i hi
    rcases Engine.step_promises hends hengine with
      hnews | ⟨⟨body, hbody⟩, _⟩ | ⟨body, receipt, _, _, hpromises⟩
    · exact haccepted (h.acceptances i (hnews.acceptances i hi))
    · exact ⟨body, hsubset (hheard.heard _ hbody)⟩
    · have hsame : t.engine.acceptances = s.engine.acceptances :=
        congrArg Promises.acceptances hpromises
      exact haccepted (h.acceptances i (hsame ▸ hi))
  · intro i file fileName pc hat hafter
    rcases hcourses.origin hat with hbefore | hwaits | ⟨error, rfl⟩ | ⟨pc, frame, hbefore, hcourse⟩
    · exact haccepted (h.past i file fileName pc hbefore hafter)
    · rw [SendFilePc.past_of_waits hwaits] at hafter
      cases hafter
    · cases hafter
    · exact hpast hbefore hcourse (.inl hafter)
  · intro f hf hne
    rcases carried_step hterminal hstep with
      hsame | ⟨i, file, fileName, pc, pc', f', hat, hcourse, hcarried⟩
    · exact haccepted (h.carried f (hsame ▸ hf) hne)
    · rw [hcarried] at hf
      rcases List.mem_append.1 hf with hbefore | hnew
      · exact haccepted (h.carried f hbefore hne)
      · obtain rfl := List.mem_singleton.1 hnew
        exact hpast hat hcourse (.inr ⟨f, rfl, hne⟩)
  · intro i receipt hi
    rcases Engine.step_promises hends hengine with
      hnews | ⟨_, hreceipts⟩ | ⟨body, receipt', hbody, hparse, hpromises⟩
    · exact hconfirmed (h.receipts i receipt (hnews.receipts i receipt hi))
    · exact hconfirmed (h.receipts i receipt (hreceipts ▸ hi))
    · have hsame : t.engine.receipts = Engine.settle s.engine.receipts s.engine.receiptSettles
        (.fulfilled receipt') := congrArg Promises.receipts hpromises
      rw [hsame] at hi
      rcases Promises.settle_fulfilled hi with hbefore | rfl
      · exact hconfirmed (h.receipts i receipt hbefore)
      · exact ⟨body, hsubset (hheard.heard _ hbody), hparse⟩
  · intro i file fileName receipt hat
    rcases hcourses.origin hat with
      hbefore | hwaits | ⟨error, herror⟩ | ⟨pc, frame, hbefore, hcourse⟩
    · exact hconfirmed (h.returned i file fileName receipt hbefore)
    · cases hwaits
    · cases herror
    · cases hcourse with
      | confirmed hpromise => exact hconfirmed (h.receipts _ receipt hpromise)
      | waited _ hwaits => cases hwaits

theorem of_construct {o : ConstructorOptions} {registry : InboundTransferRegistry}
    {readyState : ReadyState}
    {e : Engine} (h : Engine.construct o registry readyState = .ok e) : (of e).Asks := by
  have hnone := Engine.courseAt_construct h
  have hpromises : e.acceptances = [] ∧ e.receipts = [] := by
    obtain ⟨options, stream, registry', _, _, hcases⟩ := Engine.construct_cases h
    rcases hcases with ⟨_, rfl⟩ | ⟨_, rfl⟩
    · exact ⟨rfl, rfl⟩
    · obtain ⟨state, confirming, _, hledger⟩ :=
        Engine.start_ledger (Engine.initial options o.accepted stream registry' readyState)
      have hpromises := congrArg Ledger.promises hledger
      exact ⟨congrArg Promises.acceptances hpromises, congrArg Promises.receipts hpromises⟩
  refine ⟨?_, fun i _ _ _ hat => ?_, ?_, ?_, fun i _ _ _ hat => ?_⟩
  · intro i hi
    have hi : e.acceptances[i]? = some (.fulfilled ()) := hi
    rw [hpromises.1] at hi
    cases hi
  · cases (hnone i).symm.trans hat
  · rw [carried_of h]
    exact List.forall_mem_nil _
  · intro i receipt hi
    have hi : e.receipts[i]? = some (.fulfilled receipt) := hi
    rw [hpromises.2] at hi
    cases hi
  · cases (hnone i).symm.trans hat

end Asks

end Side

/-! ## Round trips -/

/-- Only a well-formed string can be serialised. -/
theorem wellFormed_of_canonicalJsonBytes {fields : List (JsString × Json)} {body : Bytes}
    {value : JsString}
    (h : canonicalJsonBytes (.object fields) = .ok body) (name : JsString)
    (hmem : (name, .string value) ∈ fields) :
    isWellFormed value = true := by
  simp only [canonicalJsonBytes, canonicalJson, canonicalEntries_eq, bind_eq_ok] at h
  obtain ⟨_, ⟨_, hparts, _⟩, _⟩ := h
  obtain ⟨_, hwritten⟩ :=
    mapM_ok hparts _ ((List.mem_insertionSort fun a b => utf16Le a.1 b.1).2 hmem)
  simp only [canonicalJson, assertWellFormedUnicode, bind_eq_ok, throwIf_eq_ok,
    Bool.not_eq_false] at hwritten
  obtain ⟨_, _, _, ⟨_, hwellFormed, _⟩, _⟩ := hwritten
  exact hwellFormed

/-- The manifest that a recipient makes of one: the name is sanitized again. -/
def TransferManifest.received (unicode : Unicode) (manifest : TransferManifest) :
    TransferManifest :=
  { manifest with fileName := sanitizeFileName unicode (some manifest.fileName) }

/-- A manifest that `sendFile` sends is read back as it is, but for its name. -/
theorem parseManifest_of_sent {unicode : Unicode} {manifest m : TransferManifest} {body : Bytes}
    (hbody : canonicalJsonBytes manifest.json = .ok body)
    (htype : ∃ type, manifest.mediaType = sanitizeMediaType type)
    (hcount : manifest.byteCount ≤ maxTransferBytes)
    (hchunk : 0 < manifest.chunkSize ∧ manifest.chunkSize ≤ maxChunkSize)
    (hparse : parseManifest unicode body = .ok m) : m = manifest.received unicode := by
  obtain ⟨hname, _, hdistinct, _⟩ := fieldNames_plain
  have hsafe : manifest.byteCount ≤ JsNumber.maxSafeInteger := hcount.trans (by decide)
  have hsafe' : manifest.chunkSize ≤ JsNumber.maxSafeInteger := hchunk.2.trans (by decide)
  have hfileName : isWellFormed manifest.fileName = true :=
    wellFormed_of_canonicalJsonBytes hbody (js "file_name") (by simp)
  have hmediaType : isWellFormed manifest.mediaType = true :=
    wellFormed_of_canonicalJsonBytes hbody (js "media_type") (by simp)
  have hplain : manifest.json.Plain := ⟨hdistinct, hname "file_name" (by simp), hfileName,
    hname "media_type" (by simp), hmediaType, hname "byte_count" (by simp),
    Handshake.plain_numberField hsafe,
    hname "chunk_size" (by simp), Handshake.plain_numberField hsafe', trivial⟩
  obtain ⟨raw, hraw, hread⟩ := parseCanonicalJson_of_plain hplain
  cases hbody.symm.trans hraw
  have hsort : manifest.json.sortNames = .object [(js "byte_count", numberField manifest.byteCount),
      (js "chunk_size", numberField manifest.chunkSize),
      (js "file_name", .string manifest.fileName),
      (js "media_type", .string manifest.mediaType)] := rfl
  rw [hsort] at hread
  rw [parseManifest, hread] at hparse
  simp only [bind_eq_ok, throwIf_eq_ok, pure_eq_ok] at hparse
  obtain ⟨_, hvalue, _, hobject, _, _, fileName, hfile, _, _, mediaType, hmedia, _, _, _, _,
    byteCount, hbytes, _,
    _, chunkSize, hsize, _, _, rfl⟩ := hparse
  cases hvalue
  cases hobject
  cases hfile
  cases hmedia
  cases (requireSafeInteger_numberField hsafe (Nat.zero_le _) "byte_count").symm.trans hbytes
  cases (requireSafeInteger_numberField hsafe' hchunk.1 "chunk_size").symm.trans hsize
  obtain ⟨type, htype⟩ := htype
  rw [TransferManifest.received, htype, sanitizeMediaType_again]

/-- A receipt is read back as it is. -/
theorem parseReceipt_of_sent {receipt r : TransferReceipt} {body : Bytes}
    (hbody : canonicalJsonBytes receipt.json = .ok body)
    (hcount : receipt.byteCount ≤ maxTransferBytes)
    (hparse : parseReceipt body = .ok r) : r = receipt := by
  have hname :
    (∀ name ∈ ["v", "type", "transfer_id", "byte_count", "sha256", "status", "file_receipt",
      "verified"], isWellFormed (js name) = true) ∧
      (["v", "type", "transfer_id", "byte_count", "sha256", "status"].map js).Nodup := by
    decide +kernel
  obtain ⟨hname, hdistinct⟩ := hname
  have hsafe : receipt.byteCount ≤ JsNumber.maxSafeInteger := hcount.trans (by decide)
  have hid : isWellFormed receipt.transferId = true :=
    wellFormed_of_canonicalJsonBytes hbody (js "transfer_id") (by simp)
  have hsha : isWellFormed receipt.sha256 = true :=
    wellFormed_of_canonicalJsonBytes hbody (js "sha256") (by simp)
  have hplain : receipt.json.Plain :=
    ⟨hdistinct, hname "v" (by simp), Handshake.plain_numberField (by decide),
    hname "type" (by simp), hname "file_receipt" (by simp), hname "transfer_id" (by simp), hid,
    hname "byte_count" (by simp), Handshake.plain_numberField hsafe, hname "sha256" (by simp), hsha,
    hname "status" (by simp), hname "verified" (by simp), trivial⟩
  obtain ⟨raw, hraw, hread⟩ := parseCanonicalJson_of_plain hplain
  cases hbody.symm.trans hraw
  have hsort : receipt.json.sortNames = .object [(js "byte_count", numberField receipt.byteCount),
      (js "sha256", .string receipt.sha256), (js "status", .string (js "verified")),
      (js "transfer_id", .string receipt.transferId), (js "type", .string (js "file_receipt")),
      (js "v", numberField 1)] := rfl
  rw [hsort] at hread
  rw [parseReceipt, hread] at hparse
  simp only [bind_eq_ok, throwIf_eq_ok, pure_eq_ok] at hparse
  obtain ⟨_, hvalue, _, hobject, _, _, _, _, transferId, htransfer, sha256, hdigest, byteCount,
    hbytes, _, _, _, _,
    rfl⟩ := hparse
  cases hvalue
  cases hobject
  cases htransfer
  cases hdigest
  cases (requireSafeInteger_numberField hsafe (Nat.zero_le _) "byte_count").symm.trans hbytes
  rfl

/-! ## The pair -/

/-- The chunks are among the frames that carry the file. -/
theorem Side.chunksOf_carried (s : Side) : chunksOf s.carried = chunksOf s.sealed := by
  unfold carried
  induction s.sealed with
  | nil => rfl
  | cons f l ih =>
    obtain ⟨type, body⟩ := f
    cases type <;> simp_all [chunksOf, FrameType.carries]

namespace Pair

variable {ours theirs : Runtime} {content : Bytes} {p q : Pair}

/-- Both sides keep their word over a connection that cannot be forged. -/
structure Holds (ours theirs : Runtime) (content : Bytes) (p : Pair) : Prop where
  secure : p.Secure
  sends : p.sender.Sends ours.unicode content
  asks : p.sender.Asks
  ends : p.sender.engine.EndsTerminal
  hears : p.sender.Heard ours
  heard : p.recipient.Heard theirs
  answers : p.recipient.Answers theirs
  receiving : Engine.ReceivingInvariant theirs p.recipient.engine

theorem reads_of_allows {s : Side} {event : EngineEvent} (h : p.Allows content s event) :
    s.engine.Reads content event := by
  unfold Allows at h
  split at h
  · trivial
  · exact h
  · exact h
  · rename_i hdecrypted hsend hslice
    unfold Engine.Reads
    split
    · exact absurd rfl (hslice _ _)
    · exact absurd rfl (hsend _ _)
    · trivial

namespace Holds

theorem of_constructed (h : p.Constructed) : p.Holds ours theirs content := by
  have hsecure := h.secure
  obtain ⟨⟨o, registry, readyState, e, he, _, hs⟩,
    ⟨o', registry', readyState', e', he', _, hr⟩⟩ := h
  have hengine : p.sender.engine = e := by rw [hs]; rfl
  have hengine' : p.recipient.engine = e' := by rw [hr]; rfl
  exact ⟨hsecure, hs ▸ .of_construct he _ _, hs ▸ .of_construct he,
    hengine ▸ Engine.endsTerminal_construct he, hs ▸ .of_construct he, hr ▸ .of_construct he',
    hr ▸ .of_construct he', hengine' ▸ Engine.receivingInvariant_construct he'⟩

theorem step (h : p.Holds ours theirs content) {event : PairEvent}
    (hstep : p.step ours theirs content event = some q) : q.Holds ours theirs content := by
  have hsecure := h.secure.step hstep
  cases event with
  | sender event =>
    obtain ⟨hallows, s, hs, rfl⟩ := step_sender hstep
    exact ⟨hsecure, h.sends.step h.secure.senderTerminal (reads_of_allows hallows) hs,
      h.asks.step h.hears h.ends h.secure.senderTerminal hs,
      Engine.endsTerminal_step h.ends (Side.step_engine hs), h.hears.step hs, h.heard, h.answers,
      h.receiving⟩
  | recipient event =>
    obtain ⟨_, s, hs, rfl⟩ := step_recipient hstep
    exact ⟨hsecure, h.sends, h.asks, h.ends, h.hears, h.heard.step hs,
      h.answers.step h.heard h.secure.recipientTerminal h.receiving hs,
      Engine.receivingInvariant_step h.receiving (Side.step_engine hs)⟩

theorem of_run {es : List PairEvent} (h : p.Constructed)
    (hrun : Run (Step (Pair.step ours theirs content)) p es q) :
    q.Holds ours theirs content :=
  hrun.invariant (of_constructed h) fun _ _ _ hbefore hstep => hbefore.step hstep

/-- What the recipient received of the file was sent by the call of `sendFile`. -/
theorem sent (h : p.Holds ours theirs content) {f : FrameType × Bytes}
    (hf : f ∈ p.recipient.received)
    (hcarries : f.1.carries = true) : ∃ i file fileName pc,
      p.sender.engine.courseAt i = some (file, fileName, pc) ∧ file.size = content.length ∧
      content.length ≤ maxTransferBytes ∧
      (p.sender.engine.shipment ours.unicode content file fileName).Describes f := by
  have hcarried : f ∈ p.sender.carried :=
    List.mem_filter.2 ⟨h.secure.received_prefix.1.subset hf, hcarries⟩
  by_cases hnone : p.sender.engine.NoCourse
  · rw [h.sends.idle hnone] at hcarried
    cases hcarried
  · rw [Engine.noCourse_iff, not_forall] at hnone
    obtain ⟨i, hi⟩ := hnone
    obtain ⟨⟨file, fileName, pc⟩, hcourse⟩ := Option.ne_none_iff_exists'.1 hi
    obtain ⟨_, _, _, _, hdescribes⟩ := h.sends.carries hcourse
    refine ⟨i, file, fileName, pc, hcourse, (h.sends.course i file fileName pc hcourse).1, ?_,
      hdescribes f hcarried⟩
    rcases h.sends.fits i file fileName pc hcourse with hfits | ⟨_, hnil⟩
    · exact hfits
    · rw [hnil] at hcarried
      cases hcarried

/-- The chunks that the recipient accepted are a beginning of the content. -/
theorem chunks_prefix (h : p.Holds ours theirs content) :
    p.recipient.engine.history.chunks.flatten <+: content := by
  have hsealed : p.recipient.engine.history.chunks <+: chunksOf p.sender.carried := by
    rw [Side.chunksOf_carried]
    exact h.heard.chunks_prefix.trans (h.secure.received_prefix.1.filterMap _)
  by_cases hnone : p.sender.engine.NoCourse
  · rw [h.sends.idle hnone] at hsealed
    rw [List.prefix_nil.1 hsealed]
    exact List.nil_prefix
  · rw [Engine.noCourse_iff, not_forall] at hnone
    obtain ⟨i, hi⟩ := hnone
    obtain ⟨⟨file, fileName, pc⟩, hcourse⟩ := Option.ne_none_iff_exists'.1 hi
    have hprefix := hsealed.trans (Shipment.Carries.chunks_prefix (h.sends.carries hcourse))
    have hflatten : p.recipient.engine.history.chunks.flatten <+:
        (Pieces.pieces p.sender.engine.options.chunkSize content
          (Pieces.count p.sender.engine.options.chunkSize content.length)).flatten :=
            hprefix.flatten
    rwa [Pieces.flatten_pieces_count h.sends.chunkSize] at hflatten

/-- Nothing but the offer is sent before the recipient accepted. -/
theorem accepted (h : p.Holds ours theirs content) {f : FrameType × Bytes}
    (hf : f ∈ p.sender.carried)
    (hne : f.1 ≠ .fileOffer) : p.recipient.engine.accepted = true := by
  obtain ⟨body, hbody⟩ := h.asks.carried f hf hne
  exact h.answers.acceptances body (h.secure.received_prefix.2.subset hbody)

/-- What is vouched for is the content, and it was accepted. -/
theorem vouched (h : p.Holds ours theirs content) {history : History} {file : ReceivedFile}
    (hbefore : history.Before p.recipient.engine.history)
    (hvouched : Engine.Vouched theirs p.recipient.engine.options history file) :
    p.recipient.engine.accepted = true ∧ p.recipient.engine.history.chunks.flatten = content ∧
      content.length ≤ maxTransferBytes ∧
      decodeBase64Url file.sha256 32 = .ok (Sha256.hash content) ∧ ∃ i source fileName pc,
        p.sender.engine.courseAt i = some (source, fileName, pc) ∧
        file = ⟨content, sanitizeFileName theirs.unicode
            (some (sanitizeFileName ours.unicode (fileName <|> source.name))),
          sanitizeMediaType (some source.type), content.length, file.sha256⟩ := by
  obtain ⟨manifest, hmanifests, _, completion, _, _, hcompletes, rfl⟩ := hvouched
  have hmanifest : manifest ∈ p.recipient.engine.history.manifests :=
    hbefore.manifests.subset (hmanifests ▸ List.mem_singleton_self _)
  obtain ⟨body, hbody, hparse⟩ := h.heard.manifests manifest hmanifest
  obtain ⟨i, source, fileName, pc, hcourse, hsize, hfits, hdescribes⟩ := h.sent hbody rfl
  obtain rfl := parseManifest_of_sent hdescribes ⟨some source.type, rfl⟩ (hsize.le.trans hfits)
    ⟨h.sends.chunkSize, h.sends.chunkSize_le⟩ hparse
  have hlength : history.chunks.flatten.length = content.length := hcompletes.length.trans hsize
  have hbegins : history.chunks.flatten <+: p.recipient.engine.history.chunks.flatten :=
    hbefore.chunks.flatten
  have hcontent : history.chunks.flatten = content :=
    (hbegins.trans h.chunks_prefix).eq_of_length hlength
  have hcarried : (.manifest, body) ∈ p.sender.carried :=
    List.mem_filter.2 ⟨h.secure.received_prefix.1.subset hbody, rfl⟩
  refine ⟨h.accepted hcarried FrameType.noConfusion, ?_, hfits, ?_, i, source, fileName, pc,
    hcourse, ?_⟩
  · exact h.chunks_prefix.eq_of_length
      (le_antisymm h.chunks_prefix.length_le (hlength ▸ hbegins.length_le))
  · exact hcontent ▸ hcompletes.sha256
  · rw [hcontent]
    rfl

end Holds

/-! ## A delivery -/

/-- A file of three bytes is offered, accepted, sent and confirmed. -/
def sampleDelivery : List PairEvent :=
  ((Engine.sampleConfirm .r2s).take 5).map .sender ++ (Engine.sampleConfirm .s2r).map .recipient ++
  ((Engine.sampleConfirm .r2s).drop 5 ++ Engine.sampleOffering).map .sender ++
  Engine.sampleOffer.map .recipient ++ Engine.sampleSending.map .sender ++
  Engine.sampleTransfer.map .recipient ++ Engine.sampleReceipt.map .sender

/-- The delivery runs to its end. -/
theorem sampleDelivery_run : ∃ p q, p.Constructed ∧
    Run (Step (step Engine.sampleRuntime Engine.sampleRuntime Engine.sampleContent)) p
      sampleDelivery q ∧
    (q.recipient.received.length = 6 ∧ q.sender.received.length = 3) ∧
    (∃ f ∈ q.sender.carried, f.1 = .chunk) ∧
    (∃ file, q.recipient.engine.receivedFile = some file ∧ file.blob = Engine.sampleContent) ∧
    q.sender.engine.courseAt 1 = some (Engine.sampleFile, none,
      .returned (.ok ⟨Engine.sampleId, 3, Engine.sampleComplete.sha256⟩)) := by
  have h : Engine.Reaches (Engine.step Engine.sampleRuntime) Engine.sampleSender .opened [] fun e =>
      Engine.Reaches (Engine.step Engine.sampleRuntime) (Engine.sampleOptions .recipient) .opened
          [] fun e' =>
        ∃ q ∈ exec (step Engine.sampleRuntime Engine.sampleRuntime Engine.sampleContent)
          ⟨.of e, .of e'⟩ sampleDelivery,
          (q.recipient.received.length = 6 ∧ q.sender.received.length = 3) ∧
          (∃ f ∈ q.sender.carried, f.1 = .chunk) ∧
          (∃ file ∈ q.recipient.engine.receivedFile, file.blob = Engine.sampleContent) ∧
          q.sender.engine.threads[1]? = some (.sendFile Engine.sampleFile none
            (.returned (.ok ⟨Engine.sampleId, 3, Engine.sampleComplete.sha256⟩))) := by
    decide +kernel
  obtain ⟨e, _, he, hnil, h⟩ := h.exec
  cases hnil
  obtain ⟨e', _, he', hnil, q, hexec, hlengths, hchunk, ⟨file, hfile, hblob⟩, hthread⟩ := h.exec
  cases hnil
  refine ⟨⟨.of e, .of e'⟩, q, ⟨⟨_, _, _, e, he, rfl, rfl⟩, ⟨_, _, _, e', he', rfl, rfl⟩⟩,
    Run.of_exec hexec,
    hlengths, hchunk, ⟨file, hfile, hblob⟩, ?_⟩
  rw [Engine.courseAt, hthread]
  rfl

/-! ## What the two sides know -/

variable {es : List PairEvent}

/-- Consent: before the recipient accepted, the sender passes nothing of the file to `encrypt` but
its offer. -/
theorem accepted_of_carried (h : p.Constructed)
    (hrun : Run (Step (step ours theirs content)) p es q)
    {f : FrameType × Bytes} (hf : f ∈ q.sender.carried) (hne : f.1 ≠ .fileOffer) :
    q.recipient.engine.accepted = true :=
  (Holds.of_run h hrun).accepted hf hne

theorem accepted_of_carried_sample : ∃ p q, p.Constructed ∧
    Run (Step (step Engine.sampleRuntime Engine.sampleRuntime Engine.sampleContent)) p
      sampleDelivery q ∧
    (∃ f ∈ q.sender.carried, f.1 = .chunk) ∧ q.recipient.engine.accepted = true := by
  obtain ⟨p, q, h, hrun, _, ⟨f, hf, htype⟩, _⟩ := sampleDelivery_run
  exact ⟨p, q, h, hrun, ⟨f, hf, htype⟩,
    accepted_of_carried h hrun hf (htype ▸ FrameType.noConfusion)⟩

/-- Integrity: the file that a recipient ends up with was accepted, and it is the one that was sent.
Its bytes are the content, its type is the one of the source, and its name is the one that was
given, sanitized by either side. -/
theorem receivedFile_eq_sent (h : p.Constructed)
    (hrun : Run (Step (step ours theirs content)) p es q)
    {file : ReceivedFile} (hfile : q.recipient.engine.receivedFile = some file) :
    q.recipient.engine.accepted = true ∧
      decodeBase64Url file.sha256 32 = .ok (Sha256.hash content) ∧
    ∃ i source fileName pc, q.sender.engine.courseAt i = some (source, fileName, pc) ∧
      file = ⟨content, sanitizeFileName theirs.unicode
          (some (sanitizeFileName ours.unicode (fileName <|> source.name))),
        sanitizeMediaType (some source.type), content.length, file.sha256⟩ := by
  have hholds := Holds.of_run h hrun
  obtain ⟨haccepted, _, _, hsha, hsent⟩ :=
    hholds.vouched (.refl _) (hholds.receiving.file file hfile)
  exact ⟨haccepted, hsha, hsent⟩

theorem receivedFile_eq_sent_sample : ∃ p q file, p.Constructed ∧
    Run (Step (step Engine.sampleRuntime Engine.sampleRuntime Engine.sampleContent)) p
      sampleDelivery q ∧
    q.recipient.engine.receivedFile = some file ∧
    q.recipient.engine.accepted = true ∧
    decodeBase64Url file.sha256 32 = .ok (Sha256.hash Engine.sampleContent) ∧
    ∃ i source fileName pc, q.sender.engine.courseAt i = some (source, fileName, pc) ∧
      file = ⟨Engine.sampleContent, sanitizeFileName Engine.sampleRuntime.unicode
          (some (sanitizeFileName Engine.sampleRuntime.unicode (fileName <|> source.name))),
        sanitizeMediaType (some source.type), 3, file.sha256⟩ := by
  obtain ⟨p, q, h, hrun, _, _, ⟨file, hfile, _⟩, _⟩ := sampleDelivery_run
  exact ⟨p, q, file, h, hrun, hfile, receivedFile_eq_sent h hrun hfile⟩

/-- A receipt is honest: when `sendFile` returns one, the recipient accepted the transfer and has
accepted exactly the content, and the receipt describes it. -/
theorem content_of_receipt (h : p.Constructed) (hrun : Run (Step (step ours theirs content)) p es q)
    {i : ℕ} {source : SourceFile} {fileName : Option JsString} {receipt : TransferReceipt}
    (hcourse : q.sender.engine.courseAt i = some (source, fileName, .returned (.ok receipt))) :
    q.recipient.engine.accepted = true ∧ q.recipient.engine.history.chunks.flatten = content ∧
      receipt.transferId = q.recipient.engine.options.transferId ∧
      receipt.byteCount = content.length ∧
      decodeBase64Url receipt.sha256 32 = .ok (Sha256.hash content) := by
  have hholds := Holds.of_run h hrun
  obtain ⟨body, hbody, hparse⟩ := hholds.asks.returned i source fileName receipt hcourse
  obtain ⟨file, history, hbefore, hvouched, hjson⟩ :=
    hholds.answers.receipts body (hholds.secure.received_prefix.2.subset hbody)
  obtain ⟨haccepted, hcontent, hfits, hsha, _, _, _, _, _, hfile⟩ := hholds.vouched hbefore hvouched
  have hcount : file.byteCount = content.length := by rw [hfile]
  obtain rfl := parseReceipt_of_sent hjson (hcount.trans_le hfits) hparse
  exact ⟨haccepted, hcontent, rfl, hcount, hsha⟩

theorem content_of_receipt_sample : ∃ p q, p.Constructed ∧
    Run (Step (step Engine.sampleRuntime Engine.sampleRuntime Engine.sampleContent)) p
      sampleDelivery q ∧
    let receipt : TransferReceipt := ⟨Engine.sampleId, 3, Engine.sampleComplete.sha256⟩
    q.sender.engine.courseAt 1 = some (Engine.sampleFile, none, .returned (.ok receipt)) ∧
      q.recipient.engine.accepted = true ∧
      q.recipient.engine.history.chunks.flatten = Engine.sampleContent ∧
      receipt.transferId = q.recipient.engine.options.transferId ∧ receipt.byteCount = 3 ∧
      decodeBase64Url receipt.sha256 32 = .ok (Sha256.hash Engine.sampleContent) := by
  obtain ⟨p, q, h, hrun, _, _, _, hcourse⟩ := sampleDelivery_run
  exact ⟨p, q, h, hrun, hcourse, content_of_receipt h hrun hcourse⟩

end Pair

end SelfRelay
