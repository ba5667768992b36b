import SelfRelay.Lib.Pieces
import SelfRelay.Transfer.DigestNumbers
import SelfRelay.Transfer.Received

/-!
# The partition into chunks

The chunks that a recipient accepts are the pieces of the file that its manifest describes, in
order: in every state of the engine the accepted chunks are the first pieces of the cut
(`Partitioned`), and `handleChunk` accepts exactly the next one (`handleChunk_iff`).
-/

namespace SelfRelay

open StepSystem

namespace Engine

/-! ## One chunk -/

/-- The lengths of the accepted chunks. -/
def chunkLengths (e : Engine) : List ℕ := e.history.chunks.map List.length

/-- The cut that a manifest describes. -/
def manifestCut (manifest : TransferManifest) : List ℕ :=
  Pieces.cut manifest.chunkSize manifest.byteCount

/-- The recipient has accepted the first pieces of the file of this manifest, and
counted and hashed them. -/
structure CutInto (e : Engine) (manifest : TransferManifest) : Prop where
  role : e.options.role = .recipient
  byteCount_le : manifest.byteCount ≤ maxTransferBytes
  chunkSize_pos : 0 < manifest.chunkSize
  chunkSize_le : manifest.chunkSize ≤ maxChunkSize
  lengths : e.chunkLengths <+: manifestCut manifest
  receivedBytes : e.receivedBytes = e.chunkLengths.sum
  receivedChunks : e.receivedChunks = e.chunkLengths.length
  absorbed : ∀ digest ∈ e.receiverDigest, digest.finalized = false →
    digest.Absorbed e.history.chunks.flatten

variable {runtime : Runtime} {e e' : Engine} {manifest : TransferManifest}
  {digest : IncrementalSha256}
  {chunk value : Bytes}

theorem checkChunk_eq_ok (hmanifest : e.manifest = some manifest)
    (hdigest : e.receiverDigest = some digest)
    (hrole : e.options.role = .recipient) {d : IncrementalSha256} :
    e.checkChunk chunk = .ok d ↔ e.receivedBytes < manifest.byteCount ∧ 0 < chunk.length ∧
      chunk.length = min manifest.chunkSize (manifest.byteCount - e.receivedBytes) ∧
      digest = d := by
  simp only [checkChunk, hmanifest, hdigest, hrole, bind_eq_ok, throwIf_eq_ok, pure_eq_ok, ne_eq,
    not_true_eq_false,
    not_false_eq_true, exists_const, true_and, not_or, not_and, not_not, not_lt, gt_iff_lt]
  constructor
  · rintro ⟨⟨hremaining, hempty, hsize, hle⟩, hfinal, rfl⟩
    refine ⟨by omega, by omega, ?_, rfl⟩
    by_cases hlast : chunk.length = manifest.byteCount - e.receivedBytes
    · omega
    · have := hfinal hlast
      omega
  · rintro ⟨hlt, hpos, hlength, rfl⟩
    refine ⟨⟨by omega, by omega, by omega, by omega⟩, fun _ => by omega, rfl⟩

/-- The engine that has accepted one more chunk. -/
def withChunk (e : Engine) (chunk : Bytes) (digest : IncrementalSha256) : Engine :=
  { e with
    receiverDigest := some digest
    receiverChunks := e.receiverChunks ++ [chunk]
    receivedBytes := e.receivedBytes + chunk.length
    receivedChunks := e.receivedChunks + 1
    history := { e.history with chunks := e.history.chunks ++ [chunk] } }

theorem handleChunk_cases (e : Engine) (chunk : Bytes) :
    (∃ error, e.handleChunk chunk = e.throwing error) ∨
      ∃ digest digest', e.checkChunk chunk = .ok digest ∧ digest.update chunk = .ok digest' ∧
        e.handleChunk chunk = (e.withChunk chunk digest', none) := by
  unfold handleChunk
  cases hcheck : e.checkChunk chunk >>= fun digest => digest.update chunk with
  | error error => exact .inl ⟨error, rfl⟩
  | ok digest' =>
    obtain ⟨digest, hchunk, hupdate⟩ := bind_eq_ok.1 hcheck
    exact .inr ⟨digest, digest', hchunk, hupdate, rfl⟩

theorem chunkLengths_withChunk (e : Engine) (chunk : Bytes) (digest : IncrementalSha256) :
    (e.withChunk chunk digest).chunkLengths = e.chunkLengths ++ [chunk.length] := by
  simp [chunkLengths, withChunk]

theorem CutInto.next_iff (h : e.CutInto manifest) :
    (e.receivedBytes < manifest.byteCount ∧ 0 < chunk.length ∧
      chunk.length = min manifest.chunkSize (manifest.byteCount - e.receivedBytes)) ↔
    e.chunkLengths ++ [chunk.length] <+: manifestCut manifest := by
  have hpos := h.chunkSize_pos
  rw [manifestCut, Pieces.prefix_snoc hpos h.lengths, ← h.receivedBytes]
  constructor
  · rintro ⟨hlt, -, hlength⟩
    exact ⟨hlt, hlength⟩
  · rintro ⟨hlt, hlength⟩
    exact ⟨hlt, by omega, hlength⟩

section CutInto

variable (hmanifest : e.manifest = some manifest) (hdigest : e.receiverDigest = some digest)
include hmanifest hdigest

/-- An accepted chunk is the next piece, and the state is as described after it. -/
theorem CutInto.withChunk (h : e.CutInto manifest) {d digest' : IncrementalSha256}
    (hcheck : e.checkChunk chunk = .ok d) (hupdate : d.update chunk = .ok digest') :
    (e.withChunk chunk digest').CutInto manifest ∧ digest'.finalized = false ∧
      e.chunkLengths ++ [chunk.length] <+: manifestCut manifest := by
  obtain ⟨hlt, hpos, hlength, rfl⟩ := (checkChunk_eq_ok hmanifest hdigest h.role).1 hcheck
  have hnext := h.next_iff.1 ⟨hlt, hpos, hlength⟩
  have hopen : digest.finalized = false := by
    simp only [IncrementalSha256.update, bind_eq_ok, throwIf_eq_ok, Bool.not_eq_true] at hupdate
    obtain ⟨-, hopen, -⟩ := hupdate
    exact hopen
  have habsorbed := (h.absorbed digest hdigest hopen).update hupdate
  refine ⟨⟨h.role, h.byteCount_le, h.chunkSize_pos, h.chunkSize_le, ?_, ?_, ?_, ?_⟩,
    habsorbed.finalized, hnext⟩
  · rwa [chunkLengths_withChunk]
  · rw [chunkLengths_withChunk, List.sum_append, List.sum_singleton, ← h.receivedBytes]
    rfl
  · rw [chunkLengths_withChunk, List.length_append, List.length_singleton, ← h.receivedChunks]
    rfl
  · rintro _ ⟨⟩ -
    have hflatten : (e.history.chunks ++ [chunk]).flatten = e.history.chunks.flatten ++
      chunk := by simp
    exact (hflatten ▸ habsorbed : digest'.Absorbed (e.history.chunks ++ [chunk]).flatten)

/-- Before the completion `handleChunk` accepts exactly the next piece. -/
theorem CutInto.handleChunk_iff (h : e.CutInto manifest) (hopen : digest.finalized = false) :
    (e.handleChunk chunk).2 = none ↔ e.chunkLengths ++ [chunk.length] <+: manifestCut manifest := by
  constructor
  · intro haccepted
    rcases handleChunk_cases e chunk with ⟨error, herror⟩ | ⟨d, digest', hcheck, hupdate, -⟩
    · rw [herror] at haccepted
      cases haccepted
    · exact (h.withChunk hmanifest hdigest hcheck hupdate).2.2
  · intro hnext
    obtain ⟨hlt, hpos, hlength⟩ := h.next_iff.2 hnext
    have hcheck := (checkChunk_eq_ok hmanifest hdigest h.role).2 ⟨hlt, hpos, hlength, rfl⟩
    have hseen : e.history.chunks.flatten.length = e.receivedBytes := by
      rw [h.receivedBytes, chunkLengths, List.length_flatten]
    have hsafe : maxTransferBytes ≤ JsNumber.maxSafeInteger := by decide
    have hle := h.byteCount_le
    obtain ⟨digest', hupdate, -⟩ := (h.absorbed digest hdigest hopen).exists_update chunk (by omega)
    unfold handleChunk
    rw [hcheck, ok_bind, hupdate]

end CutInto

/-! ## A sequence of chunks -/

/-- Deliver chunks as long as `handleChunk` accepts them. -/
def acceptChunks : Engine → List Bytes → Option Engine
  | e, [] => some e
  | e, chunk :: chunks =>
    match e.handleChunk chunk with
    | (e, none) => acceptChunks e chunks
    | (_, some _) => none

theorem acceptChunks_cons (e : Engine) (chunk : Bytes) (chunks : List Bytes) :
    e.acceptChunks (chunk :: chunks) = if (e.handleChunk chunk).2 = none
      then (e.handleChunk chunk).1.acceptChunks chunks else none := by
  rw [acceptChunks]
  rcases e.handleChunk chunk with ⟨e', _ | pc⟩
  · rfl
  · rfl

/-- What a sequence of accepted chunks leaves. -/
structure Accepts (e : Engine) (chunks : List Bytes) (manifest : TransferManifest)
    (e' : Engine) : Prop where
  chunks : e'.history.chunks = e.history.chunks ++ chunks
  stored : e'.manifest = some manifest
  digest : ∃ digest, e'.receiverDigest = some digest ∧ digest.finalized = false
  cut : e'.CutInto manifest

/-- A sequence of chunks is accepted if and only if its lengths go on with the pieces of the cut. -/
theorem CutInto.acceptChunks_iff (h : e.CutInto manifest) (hmanifest : e.manifest = some manifest)
    (hdigest : e.receiverDigest = some digest) (hopen : digest.finalized = false)
    (chunks : List Bytes) :
    ((∃ e', e.acceptChunks chunks = some e') ↔
      (e.history.chunks ++ chunks).map List.length <+: manifestCut manifest) ∧
    ∀ e', e.acceptChunks chunks = some e' → e.Accepts chunks manifest e' := by
  induction chunks generalizing e digest with
  | nil =>
    refine ⟨⟨fun _ => ?_, fun _ => ⟨e, rfl⟩⟩, ?_⟩
    · rw [List.append_nil]
      exact h.lengths
    · rintro _ ⟨⟩
      exact ⟨(List.append_nil _).symm, hmanifest, ⟨digest, hdigest, hopen⟩, h⟩
  | cons chunk chunks ih =>
    have hlengths : (e.history.chunks ++ chunk :: chunks).map List.length =
        e.chunkLengths ++ [chunk.length] ++ chunks.map List.length := by
      simp [chunkLengths]
    rw [acceptChunks_cons]
    by_cases haccepted : (e.handleChunk chunk).2 = none
    · rw [if_pos haccepted]
      rcases handleChunk_cases e chunk with ⟨error, herror⟩ | ⟨d, digest', hcheck, hupdate, hchunk⟩
      · rw [herror] at haccepted
        cases haccepted
      · obtain ⟨hcut, hopen', -⟩ := h.withChunk hmanifest hdigest hcheck hupdate
        obtain ⟨hiff, hall⟩ := ih hcut hmanifest rfl hopen'
        have hchunks : (e.withChunk chunk digest').history.chunks ++ chunks =
            e.history.chunks ++ chunk :: chunks :=
              (List.append_cons e.history.chunks chunk chunks).symm
        have hfirst : (e.handleChunk chunk).1 = e.withChunk chunk digest' := by rw [hchunk]
        rw [hfirst, ← hchunks]
        refine ⟨hiff, fun e' he' => ?_⟩
        obtain ⟨hchunks', hmanifest', hdigest', hcut'⟩ := hall e' he'
        exact ⟨hchunks'.trans hchunks, hmanifest', hdigest', hcut'⟩
    · rw [if_neg haccepted]
      have hnone (e' : Engine) : ¬ (none : Option Engine) = some e' :=
        Option.some_ne_none e' ∘ Eq.symm
      refine ⟨⟨fun ⟨e', he'⟩ => (hnone e' he').elim, fun hprefix => ?_⟩,
        fun e' he' => (hnone e' he').elim⟩
      rw [hlengths] at hprefix
      have hnext := (List.prefix_append _ _).trans hprefix
      exact absurd ((h.handleChunk_iff hmanifest hdigest hopen).2 hnext) haccepted

/-! ## The completion -/

/-- The error of the count check. -/
def countError : ProtocolError :=
  protocolError "Completion counts do not match the received file." "digest_mismatch"

/-- A completion that passes the count check comes after all chunks, and counts them. -/
theorem CutInto.complete (h : e.CutInto manifest) (hmanifest : e.manifest = some manifest)
    (hdigest : e.receiverDigest = some digest) {core : FileComplete} {signature : Bytes}
    (hparse : parseComplete value = .ok (core, signature))
    (hpast : (e.handleComplete value).2 ≠ some (.threw (.protocol countError))) :
    e.chunkLengths = manifestCut manifest ∧ core.chunkCount = e.chunkLengths.length := by
  by_cases hcounts : core.transferId ≠ e.options.transferId ∨ core.byteCount ≠ manifest.byteCount ∨
      core.chunkCount ≠ e.receivedChunks ∨ e.receivedBytes ≠ manifest.byteCount
  · refine absurd ?_ hpast
    have hcheck : e.checkComplete value = .error countError := by
      simp only [checkComplete, hmanifest, hdigest, h.role, ne_eq, not_true_eq_false]
      rw [throwIf_of_not id, ok_bind, hparse, ok_bind]
      dsimp only
      rw [throwIf, if_pos hcounts]
      rfl
    rw [handleComplete, hcheck]
    rfl
  · simp only [not_or, ne_eq, not_not] at hcounts
    obtain ⟨-, -, hcount, hbytes⟩ := hcounts
    refine ⟨Pieces.eq_cut_of_prefix h.chunkSize_pos h.lengths ?_, hcount.trans h.receivedChunks⟩
    rw [← h.receivedBytes, hbytes]

/-! ## Runs -/

/-- As long as there is a manifest, the accepted chunks are the first pieces of the cut. -/
def Partitioned (e : Engine) : Prop := ∀ manifest ∈ e.manifest, e.CutInto manifest

/-- The operation keeps what was collected, up to the digest, or drops the manifest. -/
def Retains (e e' : Engine) : Prop :=
  e'.manifest = none ∨ e'.options = e.options ∧ e'.manifest = e.manifest ∧
    (e'.receiverDigest = e.receiverDigest ∨ e'.receiverDigest = none) ∧
    e'.history.chunks = e.history.chunks ∧ e'.receivedBytes = e.receivedBytes ∧
    e'.receivedChunks = e.receivedChunks

/-- Nothing on the receiving side changes. -/
theorem Retains.quiet (ho : e'.options = e.options) (hr : e'.receiver = e.receiver) :
    Retains e e' :=
  .inr ⟨ho, congrArg Receiver.manifest hr, .inl (congrArg Receiver.receiverDigest hr),
    congrArg (·.history.chunks) hr, congrArg Receiver.receivedBytes hr,
    congrArg Receiver.receivedChunks hr⟩

theorem Retains.refl (e : Engine) : Retains e e := .quiet rfl rfl

theorem Retains.partitioned (h : Retains e e') (he : e.Partitioned) : e'.Partitioned := by
  intro manifest hmanifest
  rcases h with hnone | ⟨hoptions, hmanifests, hdigests, hchunks, hbytes, hcount⟩
  · rw [hnone] at hmanifest
    cases hmanifest
  · have hlengths : e'.chunkLengths = e.chunkLengths := by rw [chunkLengths, chunkLengths, hchunks]
    obtain ⟨hrole, hle, hpos, hsize, hprefix, hreceived, hreceivedChunks, habsorbed⟩ :=
      he manifest (hmanifests ▸ hmanifest)
    refine ⟨hoptions ▸ hrole, hle, hpos, hsize, hlengths ▸ hprefix, ?_, ?_, ?_⟩
    · rw [hlengths, hbytes, hreceived]
    · rw [hlengths, hcount, hreceivedChunks]
    · intro digest hdigest
      rw [hchunks]
      rcases hdigests with hsame | hnone
      · exact habsorbed digest (hsame ▸ hdigest)
      · rw [hnone] at hdigest
        cases hdigest

theorem Cleans.retains (h : Cleans e e') : Retains e e' := by
  rcases h.receiver with hr | hr
  · exact .quiet h.options hr
  · exact .inl (congrArg Receiver.manifest hr)

theorem Retains.trans {e'' : Engine} (h : Retains e e') (h' : Retains e' e'') : Retains e e'' := by
  rcases h' with hnone | ⟨hoptions, hmanifest, hdigest, hchunks, hbytes, hcount⟩
  · exact .inl hnone
  · rcases h with hnone | ⟨hoptions', hmanifest', hdigest', hchunks', hbytes', hcount'⟩
    · exact .inl (hmanifest.trans hnone)
    · refine .inr ⟨hoptions.trans hoptions', hmanifest.trans hmanifest', ?_, hchunks.trans hchunks',
        hbytes.trans hbytes', hcount.trans hcount'⟩
      rcases hdigest with hsame | hnone
      · rwa [hsame]
      · exact .inr hnone

/-! ### Handlers -/

section Handlers

variable {header : FrameHeader}

theorem retains_finishConfirmation (e : Engine) : Retains e e.finishConfirmation := by
  unfold finishConfirmation
  split
  · exact .inr ⟨rfl, rfl, .inl rfl, rfl, rfl, rfl⟩
  · exact .refl e

theorem retains_handleConfirmation (e : Engine) : Retains e e.handleConfirmation.1 := by
  unfold handleConfirmation
  split
  · exact retains_finishConfirmation e
  · exact (serves_sendConfirmation e).toCleans.retains

theorem retains_verifyOffer (e : Engine) (offer : SignedFileOffer) (key : CryptoKey) :
    Retains e (e.verifyOffer offer key).1 := by
  unfold verifyOffer
  split <;> exact .refl e

theorem retains_handleFileOffer (e : Engine) (value : Bytes) :
    Retains e (e.handleFileOffer runtime value).1 := by
  unfold handleFileOffer
  split
  · exact .refl e
  · split
    · exact retains_verifyOffer e _ _
    · exact .refl e

theorem retains_verifiedOffer (e : Engine) (offer : SignedFileOffer) (key : CryptoKey)
    (message signature : Bytes) :
    Retains e (e.verifiedOffer runtime offer key message signature).1 := by
  unfold verifiedOffer
  split_ifs
  · exact .refl e
  · dsimp only
    split_ifs
    · have haccept := (serves_accept { e with
        offeredManifest := some offer.manifest
        history := { e.history with
          offers := e.history.offers ++ [Verified.mk offer.core key message signature] }
            }).toCleans.retains
      have hretains : Retains e { e with
        offeredManifest := some offer.manifest
        history := { e.history with
          offers := e.history.offers ++ [Verified.mk offer.core key message signature] } } :=
        .inr ⟨rfl, rfl, .inl rfl, rfl, rfl, rfl⟩
      split <;> rename_i hresult <;> rw [hresult] at haccept <;> exact hretains.trans haccept
    · exact .inr ⟨rfl, rfl, .inl rfl, rfl, rfl, rfl⟩

theorem retains_handleAccept (e : Engine) (value : Bytes) : Retains e (e.handleAccept value).1 := by
  unfold handleAccept
  split
  · exact .refl e
  · exact .inr ⟨rfl, rfl, .inl rfl, rfl, rfl, rfl⟩

theorem retains_handleReceipt (e : Engine) (value : Bytes) :
    Retains e (e.handleReceipt value).1 := by
  unfold handleReceipt
  split
  · exact .refl e
  · exact .inr ⟨rfl, rfl, .inl rfl, rfl, rfl, rfl⟩

theorem retains_handleTerminalPayload (e : Engine) (value : Bytes) (type : FrameType) :
    Retains e (e.handleTerminalPayload value type).1 := by
  unfold handleTerminalPayload
  split
  · exact .refl e
  · exact (serves_fail e _ false).toCleans.retains

theorem retains_verifyComplete (e : Engine) (core : FileComplete) (signature : Bytes)
    (key : CryptoKey) :
    Retains e (e.verifyComplete core signature key).1 := by
  unfold verifyComplete
  split <;> exact .refl e

theorem retains_compareDigest (e : Engine) (core : FileComplete) (signature output : Bytes) :
    Retains e (e.compareDigest core signature output).1 := by
  unfold compareDigest
  split
  · exact .refl e
  · split_ifs
    · exact .refl e
    · split
      · exact retains_verifyComplete e core signature _
      · exact .refl e

theorem retains_verifiedComplete (e : Engine) (core : FileComplete) (key : CryptoKey)
    (message signature : Bytes) :
    Retains e (e.verifiedComplete runtime core key message signature).1 := by
  unfold verifiedComplete
  split_ifs
  · exact .refl e
  · dsimp only
    split
    · exact .inr ⟨rfl, rfl, .inl rfl, rfl, rfl, rfl⟩
    · let e₁ : Engine := { e with history := { e.history with
        completions := e.history.completions ++ [Verified.mk core key message signature] } }
      have hsend := (serves_sendJson e₁ .receipt (mayPost_of_ne _ .receipt (by decide))
        (TransferReceipt.mk e.options.transferId e.receivedBytes core.sha256).json).toCleans.retains
      have hretains : Retains e e₁ := .inr ⟨rfl, rfl, .inl rfl, rfl, rfl, rfl⟩
      split <;> rename_i hresult <;> rw [hresult] at hsend <;> exact hretains.trans hsend

theorem retains_resumeHandler {pc : ReceivePc} {step : Engine × Option ReceivePc}
    (h : e.resumeHandler pc = some step) : Retains e step.1 := by
  unfold resumeHandler at h
  dsimp only at h
  split at h
  · obtain ⟨⟨e₁, pc₁⟩, h₁, h₂⟩ := Option.map_eq_some_iff.1 h
    cases h₂
    exact (serves_resumeStart h₁).toCleans.retains
  · cases h
    exact retains_finishConfirmation e
  · cases h
    exact .refl e
  · rcases afterSend_cases h with ⟨_, rfl⟩ | ⟨error, _, rfl⟩
    · exact .inr ⟨rfl, rfl, .inl rfl, rfl, rfl, rfl⟩
    · exact .refl e
  · rcases afterSend_cases h with ⟨_, rfl⟩ | ⟨error, _, rfl⟩
    · exact .inr ⟨rfl, rfl, .inr rfl, rfl, rfl, rfl⟩
    · exact .refl e
  · cases h

/-- A digest that is asked for is finalized; the chunks stay. -/
theorem partitioned_handleComplete (h : e.Partitioned) :
    (e.handleComplete value).1.Partitioned := by
  unfold handleComplete
  split
  · exact h
  case h_2 core signature digest hcheck =>
    split
    · exact h
    case h_2 output digest' hdigest =>
      obtain ⟨manifest, hmanifest, hsome, -⟩ := checkComplete_eq_ok hcheck
      have hfinished : digest'.finalized = false → digest' = digest := by
        unfold IncrementalSha256.digest at hdigest
        split at hdigest
        · cases hdigest
          exact fun _ => rfl
        · simp only [bind_eq_ok, pure_eq_ok] at hdigest
          obtain ⟨d, -, hd⟩ := hdigest
          cases hd
          rintro ⟨⟩
      have hkept : Partitioned { e with receiverDigest := some digest' } := by
        intro m hm
        have hcut := h m hm
        refine ⟨hcut.role, hcut.byteCount_le, hcut.chunkSize_pos, hcut.chunkSize_le, hcut.lengths,
          hcut.receivedBytes, hcut.receivedChunks, ?_⟩
        rintro _ ⟨⟩ hopen
        obtain rfl := hfinished hopen
        exact hcut.absorbed digest' hsome hopen
      exact (retains_compareDigest _ core signature output).partitioned hkept

theorem partitioned_handleChunk (h : e.Partitioned) : (e.handleChunk chunk).1.Partitioned := by
  rcases handleChunk_cases e chunk with ⟨error, herror⟩ | ⟨d, digest', hcheck, hupdate, hchunk⟩
  · rw [herror]
    exact h
  · rw [hchunk]
    intro manifest hmanifest
    have hstored : e.manifest = some manifest := hmanifest
    cases hreceiver : e.receiverDigest with
    | none =>
      rw [checkChunk, hstored, hreceiver] at hcheck
      cases hcheck
    | some digest =>
      exact ((h manifest hstored).withChunk hstored hreceiver hcheck hupdate).1

theorem minimum_le_of_requireSafeInteger {field : Option Json} {name : String} {minimum n : ℕ}
    (h : requireSafeInteger field name minimum = .ok n) : minimum ≤ n := by
  unfold requireSafeInteger at h
  dsimp only at h
  split at h
  · split at h
    · rename_i q hq
      split_ifs at h with hsafe
      cases h
      obtain ⟨hinteger, hle⟩ := hsafe
      simp only [JsNumber.isSafeInteger, hq, Bool.and_eq_true, decide_eq_true_eq] at hinteger
      rw [← Rat.coe_int_num_of_den_eq_one hinteger.1] at hle
      have hle : (minimum : ℤ) ≤ q.num := by exact_mod_cast hle
      omega
    · cases h
  · cases h

/-- The bounds that `parseManifest` checks. -/
theorem parseManifest_bounds {unicode : Unicode} (h : parseManifest unicode value = .ok manifest) :
    manifest.byteCount ≤ maxTransferBytes ∧ 0 < manifest.chunkSize ∧
      manifest.chunkSize ≤ maxChunkSize := by
  simp only [parseManifest, bind_eq_ok, throwIf_eq_ok, pure_eq_ok, not_lt, gt_iff_lt] at h
  obtain ⟨_, _, _, _, _, _, _, _, _, _, _, _, _, _, _, _, byteCount, _, _, hbytes, chunkSize,
    hsize, _, hle,
    rfl⟩ := h
  exact ⟨hbytes, minimum_le_of_requireSafeInteger hsize, hle⟩

theorem checkManifest_eq_ok {offered : TransferManifest}
    (h : e.checkManifest runtime value = .ok (offered, manifest)) :
    e.options.role = .recipient ∧ parseManifest runtime.unicode value = .ok manifest := by
  simp only [checkManifest, bind_eq_ok, throwIf_eq_ok, ne_eq, not_not] at h
  obtain ⟨-, hrole, -, -, h⟩ := h
  cases hoffered : e.offeredManifest with
  | none =>
    rw [hoffered] at h
    cases h
  | some offer =>
    rw [hoffered] at h
    simp only [bind_eq_ok, pure_eq_ok, Prod.mk.injEq] at h
    obtain ⟨-, -, manifest, hparse, -, rfl⟩ := h
    exact ⟨hrole, hparse⟩

theorem partitioned_handleManifest (h : e.Partitioned) (hfresh : Fresh e.receiver) :
    (e.handleManifest runtime value).1.Partitioned := by
  have hdigest : e.receiverDigest = none := hfresh.receiverDigest
  have hchunks : e.history.chunks = [] := hfresh.chunks
  have hbytes : e.receivedBytes = 0 := hfresh.receivedBytes
  have hcount : e.receivedChunks = 0 := hfresh.receivedChunks
  unfold handleManifest
  split
  · exact h
  case h_2 offered manifest hcheck =>
    obtain ⟨hrole, hparse⟩ := checkManifest_eq_ok hcheck
    obtain ⟨hle, hpos, hsize⟩ := parseManifest_bounds hparse
    -- the manifest is stored, whatever the offer was
    have hstored : CutInto { e with manifest := some manifest } manifest := by
      refine ⟨hrole, hle, hpos, hsize, ?_, ?_, ?_, ?_⟩
      · rw [chunkLengths, hchunks]
        exact List.nil_prefix
      · rw [chunkLengths, hchunks]
        exact hbytes
      · rw [chunkLengths, hchunks]
        exact hcount
      · intro digest hd
        cases hdigest.symm.trans hd
    dsimp only
    split_ifs
    · rintro _ ⟨⟩
      exact hstored
    · rintro _ ⟨⟩
      refine ⟨hrole, hle, hpos, hsize, hstored.lengths, hstored.receivedBytes,
        hstored.receivedChunks, ?_⟩
      rintro _ ⟨⟩ -
      show IncrementalSha256.new.Absorbed e.history.chunks.flatten
      rw [hchunks]
      exact IncrementalSha256.absorbed_new

theorem partitioned_handleFrame {plaintext : Bytes} (h : e.Partitioned)
    (hreceiving : ReceivingAt runtime e (some (.received header plaintext))) :
    (e.handleFrame runtime header plaintext).1.Partitioned := by
  obtain ⟨-, hawaits⟩ := hreceiving.processing
  unfold handleFrame
  split
  · exact (retains_handleConfirmation e).partitioned h
  · exact (retains_handleFileOffer e plaintext).partitioned h
  · exact (retains_handleAccept e plaintext).partitioned h
  · rename_i htype
    rw [htype] at hawaits
    exact partitioned_handleManifest h hawaits
  · exact partitioned_handleChunk h
  · exact partitioned_handleComplete h
  · exact (retains_handleReceipt e plaintext).partitioned h
  · exact (retains_handleTerminalPayload e plaintext .cancel).partitioned h
  · exact (retains_handleTerminalPayload e plaintext .error).partitioned h

end Handlers

/-! ### Steps -/

theorem Partitioned.cleans (h : e.Partitioned) (hcleans : Cleans e e') : e'.Partitioned :=
  hcleans.retains.partitioned h

theorem Partitioned.quiet (h : e.Partitioned) (ho : e'.options = e.options)
    (hr : e'.receiver = e.receiver) : e'.Partitioned := (Retains.quiet ho hr).partitioned h

theorem Partitioned.goOn {next : Engine × Option ReceivePc} (h : next.1.Partitioned) :
    (goOn next).Partitioned := h.quiet rfl rfl

theorem Partitioned.start (h : e.Partitioned) : e.start.1.Partitioned :=
  h.cleans (serves_start e).toCleans

theorem Partitioned.fail (h : e.Partitioned) (error : Thrown) (sendWire : Bool) :
    (e.fail error sendWire).Partitioned := h.cleans (serves_fail e error sendWire).toCleans

theorem partitioned_step {event : EngineEvent} (h : e.Partitioned)
    (hreceiving : ReceivingInvariant runtime e) (hstep : e.step runtime event = some e') :
    e'.Partitioned := by
  cases step_moves hstep with
  | start | reject | sendFile => exact h.start.quiet rfl rfl
  | acceptSends haccept | acceptReturns haccept =>
    have haccepted := h.cleans (serves_accept e).toCleans
    rw [haccept] at haccepted
    exact haccepted.quiet rfl rfl
  | close => exact Retains.partitioned (.inl rfl) h
  | opened =>
    have hopened : (e.setReadyState .opened).Partitioned := h.quiet rfl rfl
    exact hopened.start.quiet rfl rfl
  | closed =>
    have hclosed : (e.setReadyState .closed).Partitioned := h.quiet rfl rfl
    exact (hclosed.fail _ true).quiet rfl rfl
  | errored | caught => exact (h.fail _ true).quiet rfl rfl
  | resume hthread hnext =>
    exact (h.cleans (cleans_resumeThread (List.mem_of_getElem? hthread) hnext)).quiet rfl rfl
  | signed _ hnext => exact (h.cleans (serves_signedSendFile hnext).toCleans).quiet rfl rfl
  | sliced _ hnext => exact (h.cleans (serves_slicedSendFile hnext).toCleans).quiet rfl rfl
  | @dequeueRefused _ queue =>
    have hdequeued : Partitioned { e with queue } := h.quiet rfl rfl
    exact hdequeued.fail _ true
  | decrypted =>
    unfold openFrame
    split <;> exact h.quiet rfl rfl
  | handle hpc => exact (partitioned_handleFrame h (hreceiving.at hpc)).goOn
  | offerKey => exact ((retains_verifyOffer e _ _).partitioned h).goOn
  | completeKey => exact ((retains_verifyComplete e _ _ _).partitioned h).goOn
  | verifiedOffer => exact ((retains_verifiedOffer e _ _ _ _).partitioned h).goOn
  | verifiedComplete => exact ((retains_verifiedComplete e _ _ _ _).partitioned h).goOn
  | resumeHandler _ hnext => exact ((retains_resumeHandler hnext).partitioned h).goOn
  | rejectLate | sendFileRefused | closeAgain | messageLate | message | closing | drained
  | capacityFreed | capacityKept | encrypted | capacity | transmit | dequeue | bytesRead
  | offerKeyRefused | completeKeyRefused => exact h.quiet rfl rfl

theorem partitioned_construct {o : ConstructorOptions} {registry : InboundTransferRegistry}
    {readyState : ReadyState} (h : construct o registry readyState = .ok e) : e.Partitioned := by
  obtain ⟨options, stream, registry', _, -, hcases⟩ := construct_cases h
  have hinitial : (initial options o.accepted stream registry' readyState).Partitioned :=
    fun _ hmanifest => (Option.some_ne_none _ hmanifest.symm).elim
  rcases hcases with ⟨_, rfl⟩ | ⟨_, rfl⟩
  · exact hinitial
  · exact hinitial.start.quiet rfl rfl

/-- The counters count these chunks, and stay within the file. -/
structure Counts (e : Engine) (manifest : TransferManifest) (chunks : List Bytes) : Prop where
  receivedBytes : e.receivedBytes = (chunks.map List.length).sum
  receivedChunks : e.receivedChunks = chunks.length
  bytes_le : e.receivedBytes ≤ manifest.byteCount
  chunks_le : e.receivedChunks ≤ Pieces.count manifest.chunkSize manifest.byteCount

theorem CutInto.counts (h : e.CutInto manifest) : e.Counts manifest e.history.chunks := by
  have hcount : e.chunkLengths.length = e.history.chunks.length := List.length_map _
  refine ⟨h.receivedBytes, h.receivedChunks.trans hcount, ?_, ?_⟩
  · rw [h.receivedBytes]
    exact Pieces.sum_le_of_prefix h.lengths
  · rw [h.receivedChunks]
    exact Pieces.length_le_of_prefix h.chunkSize_pos h.lengths

/-- In every state of a recipient that has a manifest the accepted chunks are the first pieces of
the one cut of its byte count, and the counters count them.  Until a completion is handled further
chunks are accepted if and only if they go on with the pieces, and a completion gets past the count
check only when they are all there and it counts them. -/
theorem chunks_partition {o : ConstructorOptions} {registry : InboundTransferRegistry}
    {readyState : ReadyState} {e₀ : Engine} {es : List EngineEvent}
    (h : construct o registry readyState = .ok e₀) (hrun : Run (Step (step runtime)) e₀ es e)
    (hmanifest : e.manifest = some manifest) :
    ∃ lengths, (∀ l, Pieces.IsCut manifest.chunkSize manifest.byteCount l ↔ l = lengths) ∧
      lengths.length = Pieces.count manifest.chunkSize manifest.byteCount ∧
      e.history.chunks.map List.length <+: lengths ∧ e.Counts manifest e.history.chunks ∧
      ∀ digest ∈ e.receiverDigest,
        (digest.finalized = false → ∀ chunks,
          ((∃ e', e.acceptChunks chunks = some e') ↔
            (e.history.chunks ++ chunks).map List.length <+: lengths) ∧
          ∀ e', e.acceptChunks chunks = some e' → e'.Counts manifest (e.history.chunks ++ chunks)) ∧
        ∀ value core signature, parseComplete value = .ok (core, signature) →
          (e.handleComplete value).2 ≠ some (.threw (.protocol countError)) →
          e.history.chunks.map List.length = lengths ∧ core.chunkCount = lengths.length := by
  have hinvariant : e.Partitioned ∧ ReceivingInvariant runtime e :=
    hrun.invariant (I := fun e => e.Partitioned ∧ ReceivingInvariant runtime e)
      ⟨partitioned_construct h, receivingInvariant_construct h⟩ fun _ _ _ he hstep =>
        ⟨partitioned_step he.1 he.2 hstep, receivingInvariant_step he.2 hstep⟩
  have hcut := hinvariant.1 manifest hmanifest
  refine ⟨manifestCut manifest, fun l => Pieces.isCut_iff hcut.chunkSize_pos,
    Pieces.length_cut hcut.chunkSize_pos,
    hcut.lengths, hcut.counts, ?_⟩
  intro digest hdigest
  constructor
  · intro hopen chunks
    obtain ⟨hiff, hall⟩ := hcut.acceptChunks_iff hmanifest hdigest hopen chunks
    refine ⟨hiff, ?_⟩
    intro e' he'
    have haccepts := hall e' he'
    exact haccepts.chunks ▸ haccepts.cut.counts
  · intro value core signature hparse hpast
    obtain ⟨hall, hcount⟩ := hcut.complete hmanifest hdigest hparse hpast
    exact ⟨hall, hcount.trans (congrArg List.length hall)⟩

/-- After its manifest a file of three bytes is accepted in a chunk of two bytes and one of one
byte, and not the other way round. -/
theorem chunks_partition_sample :
    ∃ e₀ e, construct (sampleOptions .recipient) ⟨[]⟩ .opened = .ok e₀ ∧
      Run (Step (step sampleRuntime)) e₀ (sampleConfirm .s2r ++ sampleOffer ++
        (sampleReceive .s2r .manifest 2 (samplePayload sampleManifest.json) ++ [.handle])) e ∧
      (∃ e', e.acceptChunks [[0x61, 0x62], [0x63]] = some e') ∧
      ¬ ∃ e', e.acceptChunks [[0x61], [0x62, 0x63]] = some e' := by
  have h : Reaches (step sampleRuntime) (sampleOptions .recipient) .opened
      (sampleConfirm .s2r ++ sampleOffer ++
        (sampleReceive .s2r .manifest 2 (samplePayload sampleManifest.json) ++ [.handle])) fun e =>
        e.manifest = some sampleManifest ∧ e.receiverDigest = some .new ∧
            e.history.chunks = [] := by
    decide +kernel
  obtain ⟨e₀, e, he₀, hexec, hmanifest, hdigest, hchunks⟩ := h.exec
  have hrun := Run.of_exec hexec
  obtain ⟨lengths, hlengths, -, -, -, hopen⟩ := chunks_partition he₀ hrun hmanifest
  obtain rfl : [2, 1] = lengths := (hlengths [2, 1]).1 ⟨rfl, .inr ⟨1, 1, rfl, by decide, by decide⟩⟩
  have hiff (chunks : List Bytes) := ((hopen .new hdigest).1 rfl chunks).1
  rw [hchunks] at hiff
  refine ⟨e₀, e, he₀, hrun, (hiff _).2 (by decide), fun hmore => ?_⟩
  exact absurd ((hiff _).1 hmore) (by decide)

end Engine

end SelfRelay
