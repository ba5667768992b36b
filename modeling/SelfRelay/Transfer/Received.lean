import SelfRelay.Transfer.Effects

/-!
# The received file

When an engine shows a received file, the file is what the sender signed.  The invariant
(`Receiving`) follows the message being processed: `Fresh` until a manifest is handled, `Collecting`
until a completion is handled, then what the completion was checked for, up to the file.  A cleanup
can come at any time between; it drops the manifest and with it every obligation about the chunks.
-/

namespace SelfRelay

open StepSystem

namespace Engine

/-! ## What a file is vouched for by -/

/-- The key that the sender's signatures are verified with. -/
def SenderKey (runtime : Runtime) (options : EngineOptions) (key : CryptoKey) : Prop :=
  match options.senderSigningPublicKey with
  | some (.key k) => key = k
  | some (.spki bytes) => runtime.crypto.importP256Spki bytes .signing = .ok key
  | none => False

/-- `verifyP256` returned true under the sender's key on the canonical form of the record. -/
structure Genuine {α : Type} (runtime : Runtime) (options : EngineOptions) (json : α → Json)
    (record : Verified α) : Prop where
  key : SenderKey runtime options record.key
  message : canonicalJsonBytes (json record.core) = .ok record.message
  verified : runtime.crypto.verifyP256 record.key record.message record.signature = true

/-- The offer is for this transfer and describes the file as the manifest does. -/
structure Offers (options : EngineOptions) (core : FileOfferCore) (manifest : TransferManifest) :
    Prop where
  transferId : core.transferId = options.transferId
  fileName : core.fileName = manifest.fileName
  mediaType : core.mediaType = manifest.mediaType
  byteCount : core.byteCount = manifest.byteCount

/-- A verified offer for the manifest is on record. -/
def Offered (runtime : Runtime) (options : EngineOptions) (history : History)
    (manifest : TransferManifest) : Prop :=
  ∃ offer ∈ history.offers, Genuine runtime options FileOfferCore.json offer ∧
    Offers options offer.core manifest

/-- The completion is for this transfer, and describes the accepted chunks. -/
structure Completes (options : EngineOptions) (history : History) (manifest : TransferManifest)
    (core : FileComplete) : Prop where
  transferId : core.transferId = options.transferId
  transcriptHash : decodeBase64Url core.transcriptHash 32 = .ok options.transcriptHash
  byteCount : core.byteCount = manifest.byteCount
  length : history.chunks.flatten.length = manifest.byteCount
  chunkCount : core.chunkCount = history.chunks.length
  sha256 : decodeBase64Url core.sha256 32 = .ok (Sha256.hash history.chunks.flatten)

/-- The file is the accepted chunks, and the one accepted manifest, a verified offer and a verified
completion vouch for it. -/
def Vouched (runtime : Runtime) (options : EngineOptions) (history : History)
    (file : ReceivedFile) : Prop :=
  ∃ manifest, history.manifests = [manifest] ∧ Offered runtime options history manifest ∧
    ∃ completion ∈ history.completions, Genuine runtime options FileComplete.json completion ∧
      Completes options history manifest completion.core ∧
      file = ⟨history.chunks.flatten, manifest.fileName, manifest.mediaType,
        history.chunks.flatten.length, completion.core.sha256⟩

/-! ## The invariant -/

section Invariant

variable (runtime : Runtime) (options : EngineOptions) (r : Receiver)

/-- No manifest was handled. -/
structure Fresh : Prop where
  manifests : r.history.manifests = []
  chunks : r.history.chunks = []
  receiverChunks : r.receiverChunks = []
  receivedBytes : r.receivedBytes = 0
  receivedChunks : r.receivedChunks = 0
  receiverDigest : r.receiverDigest = none
  receivedFile : r.receivedFile = none

/-- The chunks of this manifest are on record. -/
structure Collected (manifest : TransferManifest) : Prop where
  manifests : r.history.manifests = [manifest]
  offered : Offered runtime options r.history manifest
  chunks : r.receiverChunks = r.history.chunks
  receivedBytes : r.receivedBytes = r.history.chunks.flatten.length
  receivedChunks : r.receivedChunks = r.history.chunks.length

/-- As long as there is a digest, it has seen the accepted chunks of the accepted manifest. -/
structure Collecting : Prop where
  receivedFile : r.receivedFile = none
  digest : ∀ digest ∈ r.receiverDigest, ∃ manifest, r.manifest = some manifest ∧
    Collected runtime options r manifest ∧ digest.Absorbed r.history.chunks.flatten

/-- What was checked of a completion, as long as the manifest is there. -/
def CheckedComplete (core : FileComplete) : Prop :=
  ∀ manifest ∈ r.manifest, Collected runtime options r manifest ∧
    Completes options r.history manifest core

/-- Between messages, by the type of the last one. -/
def Stage : Option FrameType → Prop
  | none | some .confirm | some .fileOffer => Fresh r
  | some .manifest | some .chunk => Collecting runtime options r
  | some .complete | some .accept | some .receipt | some .cancel | some .error => True

/-- Before a message of this type is handled. -/
def Awaits : FrameType → Prop
  | .confirm | .fileOffer | .manifest => Fresh r
  | .chunk | .complete => Collecting runtime options r
  | .accept | .receipt | .cancel | .error => True

/-- In the middle of a message. -/
def Processing (type : Option FrameType) : Option ReceivePc → Prop
  | some (.received header _) => type = some header.type ∧ Awaits runtime options r header.type
  | some (.decrypting call) => Stage runtime options r type ∧
    ∃ direction, sequenceTypeAllowed type call.header.type direction = true
  | some (.importingOffer offer) => type = some .fileOffer ∧ Fresh r ∧
    Offers options offer.core offer.manifest
  | some (.verifyingOffer offer key message _) => type = some .fileOffer ∧ Fresh r ∧
    Offers options offer.core offer.manifest ∧ SenderKey runtime options key ∧
    canonicalJsonBytes offer.core.json = .ok message
  | some (.importingComplete core _) =>
    type = some .complete ∧ CheckedComplete runtime options r core
  | some (.verifyingComplete core key message _) => type = some .complete ∧
    CheckedComplete runtime options r core ∧ SenderKey runtime options key ∧
    canonicalJsonBytes core.json = .ok message
  | some (.sendingReceipt file _) => type = some .complete ∧ Vouched runtime options r.history file
  | some (.reading _) | some (.confirming _) | some (.accepting _) | some (.threw _) | none =>
    Stage runtime options r type

/-- The invariant of the receiving side. -/
structure Receiving (type : Option FrameType) (pc : Option ReceivePc) : Prop where
  offered : ∀ manifest ∈ r.offeredManifest, Offered runtime options r.history manifest
  file : ∀ file ∈ r.receivedFile, Vouched runtime options r.history file
  processing : Processing runtime options r type pc

end Invariant

section Lemmas

variable {runtime : Runtime} {options : EngineOptions} {r : Receiver} {type : Option FrameType}

theorem Fresh.collecting (h : Fresh r) : Collecting runtime options r where
  receivedFile := h.receivedFile
  digest := by simp [h.receiverDigest]

/-- The type sequence lets a frame through only where its handler belongs. -/
theorem Stage.awaits (h : Stage runtime options r type) {next : FrameType}
    {direction : FrameDirection} (hallowed : sequenceTypeAllowed type next direction = true) :
    Awaits runtime options r next := by
  cases next with
  | confirm | fileOffer | manifest =>
    rcases type with _ | type
    · exact h
    · cases type <;> cases direction <;> first | exact h | exact absurd hallowed (by decide)
  | chunk | complete =>
    rcases type with _ | type
    · cases direction <;> exact absurd hallowed (by decide)
    · cases type <;> cases direction <;> first | exact h | exact absurd hallowed (by decide)
  | accept | receipt | cancel | error => trivial

/-- A frame that was not handled leaves the receiving side as it was. -/
theorem Awaits.stage {next : FrameType} (h : Awaits runtime options r next) :
    Stage runtime options r (some next) := by
  cases next with
  | manifest => exact Fresh.collecting h
  | confirm | fileOffer | chunk | complete | accept | receipt | cancel | error =>
    first | exact h | trivial

/-- The receiving side after a cleanup. -/
def Receiver.cleaned (r : Receiver) : Receiver :=
  { r with
    manifest := none
    receiverDigest := none
    receiverChunks := []
    receivedBytes := 0
    receivedChunks := 0 }

theorem Fresh.cleaned (h : Fresh r) : Fresh r.cleaned :=
  ⟨h.manifests, h.chunks, rfl, rfl, rfl, rfl, h.receivedFile⟩

theorem Collecting.cleaned (h : Collecting runtime options r) :
    Collecting runtime options r.cleaned :=
  ⟨h.receivedFile, nofun⟩

theorem Stage.cleaned (h : Stage runtime options r type) :
    Stage runtime options r.cleaned type := by
  rcases type with _ | type
  · exact Fresh.cleaned h
  · cases type with
    | confirm | fileOffer => exact Fresh.cleaned h
    | manifest | chunk => exact Collecting.cleaned h
    | complete | accept | receipt | cancel | error => trivial

theorem Awaits.cleaned {next : FrameType} (h : Awaits runtime options r next) :
    Awaits runtime options r.cleaned next := by
  cases next with
  | confirm | fileOffer | manifest => exact Fresh.cleaned h
  | chunk | complete => exact Collecting.cleaned h
  | accept | receipt | cancel | error => trivial

theorem Processing.cleaned {pc : Option ReceivePc} (h : Processing runtime options r type pc) :
    Processing runtime options r.cleaned type pc := by
  rcases pc with _ | pc
  · exact Stage.cleaned h
  · cases pc with
    | received header plaintext => exact ⟨h.1, h.2.cleaned⟩
    | decrypting call => exact ⟨h.1.cleaned, h.2⟩
    | importingOffer offer => exact ⟨h.1, h.2.1.cleaned, h.2.2⟩
    | verifyingOffer offer key message signature => exact ⟨h.1, h.2.1.cleaned, h.2.2⟩
    | importingComplete core signature => exact ⟨h.1, nofun⟩
    | verifyingComplete core key message signature => exact ⟨h.1, nofun, h.2.2⟩
    | sendingReceipt file send => exact h
    | reading | confirming | accepting | threw => exact Stage.cleaned h

/-- A cleanup at any time keeps the invariant. -/
theorem Receiving.cleaned {pc : Option ReceivePc} (h : Receiving runtime options r type pc) :
    Receiving runtime options r.cleaned type pc :=
  ⟨h.offered, h.file, h.processing.cleaned⟩

end Lemmas

/-! ## Steps beside the receive queue -/

variable {runtime : Runtime} {e e' : Engine} {event : EngineEvent} {es : List EngineEvent}

/-- The invariant, with the message at this point. -/
def ReceivingAt (runtime : Runtime) (e : Engine) (pc : Option ReceivePc) : Prop :=
  Receiving runtime e.options e.receiver e.stream.receivedType pc

/-- The invariant of the engine. -/
def ReceivingInvariant (runtime : Runtime) (e : Engine) : Prop := ReceivingAt runtime e e.receiving

/-- Nothing that the invariant talks about changes. -/
theorem ReceivingAt.congr {pc : Option ReceivePc} (h : ReceivingAt runtime e pc)
    (ho : e'.options = e.options) (hr : e'.receiver = e.receiver)
    (hs : e'.stream.receivedType = e.stream.receivedType) : ReceivingAt runtime e' pc := by
  unfold ReceivingAt
  rw [ho, hr, hs]
  exact h

theorem Posts.receivedType (h : Posts e e') :
    e'.stream.receivedType = e.stream.receivedType := by
  rcases h.sends with ⟨hs, _⟩ | ⟨type, status, _, hposted, _⟩
  · rw [hs]
  · generalize e'.stream = t at hposted
    cases hposted with
    | thrown => rfl
    | burned => rfl
    | suspended _ hcall =>
      obtain ⟨_, _, _, _, _, rfl, _⟩ := FrameStream.createFrame_eq_ok.1 hcall
      rfl

/-- An operation that at most cleans up keeps the invariant, wherever the message is. -/
theorem Cleans.receivingAt (h : Cleans e e') {pc : Option ReceivePc}
    (he : ReceivingAt runtime e pc) : ReceivingAt runtime e' pc := by
  rcases h.receiver with hr | hr
  · exact he.congr h.options hr h.toPosts.receivedType
  · unfold ReceivingAt
    rw [h.options, h.toPosts.receivedType, hr]
    exact Receiving.cleaned he

theorem Cleans.receivingInvariant (h : Cleans e e') (he : ReceivingInvariant runtime e) :
    ReceivingInvariant runtime e' := by
  unfold ReceivingInvariant
  rw [h.receiving]
  exact h.receivingAt he

theorem ReceivingInvariant.congr (h : ReceivingInvariant runtime e)
    (ho : e'.options = e.options) (hr : e'.receiver = e.receiver)
    (hs : e'.stream.receivedType = e.stream.receivedType) (hp : e'.receiving = e.receiving) :
    ReceivingInvariant runtime e' := by
  unfold ReceivingInvariant
  rw [hp]
  exact ReceivingAt.congr h ho hr hs

theorem encryptedSend_receivedType {result : Option Bytes} {s t : SendStatus} {stream : FrameStream}
    (h : e.encryptedSend result s = some (stream, t)) :
    stream.receivedType = e.stream.receivedType := by
  cases s with
  | encrypting call =>
    simp only [encryptedSend] at h
    split at h <;> rename_i hresume <;> cases h
    · rw [FrameStream.createFrameResume_error hresume]
    · obtain ⟨rfl, _⟩ := FrameStream.createFrameResume_eq_ok.1 hresume
      rfl
  | created | waiting | passed | refused | settled => cases h

/-! ## Handlers -/

/-- What the handler of a message leaves. -/
def Handled (runtime : Runtime) (step : Engine × Option ReceivePc) : Prop :=
  ReceivingAt runtime step.1 step.2

theorem Handled.goOn {step : Engine × Option ReceivePc} (h : Handled runtime step) :
    ReceivingInvariant runtime (goOn step) := h

/-- The message ends, throws or waits for a frame, between two stages. -/
theorem ReceivingAt.between {pc pc' : Option ReceivePc} (h : ReceivingAt runtime e pc)
    (hstage : Stage runtime e.options e.receiver e.stream.receivedType)
    (hpc : Processing runtime e.options e.receiver e.stream.receivedType pc' =
      Stage runtime e.options e.receiver e.stream.receivedType) : ReceivingAt runtime e pc' :=
  ⟨h.offered, h.file, hpc ▸ hstage⟩

theorem parseFileOffer_offers {unicode : Unicode} {value : Bytes} {offer : SignedFileOffer}
    {options : EngineOptions} (h : parseFileOffer unicode value = .ok offer)
    (hid : offer.core.transferId = options.transferId) :
    Offers options offer.core offer.manifest := by
  simp only [parseFileOffer, bind_eq_ok, pure_eq_ok] at h
  obtain ⟨_, _, _, _, _, _, _, _, _, _, _, _, id, _, _, _, manifest, _, ⟨signature, _⟩, _, rfl⟩ := h
  exact ⟨hid, rfl, rfl, rfl⟩

theorem senderKey_of_import {key : CryptoKey} (h : e.importSenderKey runtime = some (.ok key)) :
    SenderKey runtime e.options key := by
  unfold importSenderKey at h
  split at h
  · rename_i hkey
    rw [SenderKey, hkey]
    exact Option.some.inj h
  · cases h

section Handlers

variable {header : FrameHeader} {value : Bytes}

theorem handled_throwing {pc : Option ReceivePc} (h : ReceivingAt runtime e pc)
    (hstage : Stage runtime e.options e.receiver e.stream.receivedType) (error : ProtocolError) :
    Handled runtime (e.throwing error) :=
  h.between hstage rfl

theorem handled_finishConfirmation {pc : Option ReceivePc} (h : ReceivingAt runtime e pc)
    (hstage : Stage runtime e.options e.receiver e.stream.receivedType) :
    Handled runtime (e.finishConfirmation, none) := by
  have hnone : ReceivingAt runtime e none := h.between hstage rfl
  unfold finishConfirmation
  split
  · exact hnone.congr rfl rfl rfl
  · exact hnone

theorem handled_handleConfirmation {pc : Option ReceivePc} (h : ReceivingAt runtime e pc)
    (hstage : Stage runtime e.options e.receiver e.stream.receivedType) :
    Handled runtime e.handleConfirmation := by
  unfold handleConfirmation
  split
  · exact handled_finishConfirmation h hstage
  · exact (serves_sendConfirmation e).toCleans.receivingAt (h.between hstage rfl)

theorem handled_handleAccept {pc : Option ReceivePc} (h : ReceivingAt runtime e pc)
    (hstage : Stage runtime e.options e.receiver e.stream.receivedType) :
    Handled runtime (e.handleAccept value) := by
  have hnone : ReceivingAt runtime e none := h.between hstage rfl
  unfold handleAccept
  split
  · exact handled_throwing h hstage _
  · exact hnone.congr rfl rfl rfl

theorem handled_handleReceipt {pc : Option ReceivePc} (h : ReceivingAt runtime e pc)
    (hstage : Stage runtime e.options e.receiver e.stream.receivedType) :
    Handled runtime (e.handleReceipt value) := by
  have hnone : ReceivingAt runtime e none := h.between hstage rfl
  unfold handleReceipt
  split
  · exact handled_throwing h hstage _
  · exact hnone.congr rfl rfl rfl

theorem handled_handleTerminalPayload {pc : Option ReceivePc} (h : ReceivingAt runtime e pc)
    (hstage : Stage runtime e.options e.receiver e.stream.receivedType) (type : FrameType) :
    Handled runtime (e.handleTerminalPayload value type) := by
  unfold handleTerminalPayload
  split
  · exact handled_throwing h hstage _
  · exact (serves_fail e _ false).toCleans.receivingAt (h.between hstage rfl)

/-! ### The offer -/

theorem handled_verifyOffer {pc : Option ReceivePc} {offer : SignedFileOffer} {key : CryptoKey}
    (h : ReceivingAt runtime e pc) (htype : e.stream.receivedType = some .fileOffer)
    (hfresh : Fresh e.receiver) (hoffers : Offers e.options offer.core offer.manifest)
    (hkey : SenderKey runtime e.options key) : Handled runtime (e.verifyOffer offer key) := by
  unfold verifyOffer
  split
  · exact handled_throwing h (htype ▸ hfresh) _
  case h_2 message signature harguments =>
    simp only [offerArguments, bind_eq_ok, pure_eq_ok, Prod.mk.injEq] at harguments
    obtain ⟨message, hmessage, _, _, rfl, rfl⟩ := harguments
    exact ⟨h.offered, h.file, htype, hfresh, hoffers, hkey, hmessage⟩

theorem handled_handleFileOffer {pc : Option ReceivePc} (h : ReceivingAt runtime e pc)
    (htype : e.stream.receivedType = some .fileOffer) (hfresh : Fresh e.receiver) :
    Handled runtime (e.handleFileOffer runtime value) := by
  unfold handleFileOffer
  split
  · exact handled_throwing h (htype ▸ hfresh) _
  case h_2 offer hcheck =>
    simp only [checkFileOffer, bind_eq_ok, throwIf_eq_ok, pure_eq_ok, not_not, ne_eq] at hcheck
    obtain ⟨_, _, offer, hparse, _, hid, rfl⟩ := hcheck
    have hoffers := parseFileOffer_offers hparse hid
    split
    case h_1 key hkey =>
      exact handled_verifyOffer h htype hfresh hoffers (by rw [SenderKey, hkey])
    · exact ⟨h.offered, h.file, htype, hfresh, hoffers⟩

theorem handled_verifiedOffer {pc : Option ReceivePc} {offer : SignedFileOffer} {key : CryptoKey}
    {message signature : Bytes} (h : ReceivingAt runtime e pc)
    (htype : e.stream.receivedType = some .fileOffer) (hfresh : Fresh e.receiver)
    (hoffers : Offers e.options offer.core offer.manifest) (hkey : SenderKey runtime e.options key)
    (hmessage : canonicalJsonBytes offer.core.json = .ok message) :
    Handled runtime (e.verifiedOffer runtime offer key message signature) := by
  unfold verifiedOffer
  split_ifs with hverify
  · exact handled_throwing h (htype ▸ hfresh) _
  · -- the offer goes on record
    let e₁ : Engine := { e with
      offeredManifest := some offer.manifest
      history := { e.history with
        offers := e.history.offers ++ [Verified.mk offer.core key message signature] } }
    have hgenuine : Genuine runtime e.options FileOfferCore.json
        (Verified.mk offer.core key message signature) :=
      ⟨hkey, hmessage, by simpa using hverify⟩
    have hmem : Verified.mk offer.core key message signature ∈ e₁.receiver.history.offers :=
      List.mem_append_right _ (List.mem_singleton.2 rfl)
    have hfresh₁ : Fresh e₁.receiver := ⟨hfresh.manifests, hfresh.chunks, hfresh.receiverChunks,
      hfresh.receivedBytes, hfresh.receivedChunks, hfresh.receiverDigest, hfresh.receivedFile⟩
    have h₁ : ∀ pc, Processing runtime e₁.options e₁.receiver e₁.stream.receivedType pc →
        ReceivingAt runtime e₁ pc := by
      intro pc hpc
      refine ⟨?_, ?_, hpc⟩
      · rintro _ ⟨⟩
        exact ⟨_, hmem, hgenuine, hoffers⟩
      · intro file hfile
        rw [hfresh₁.receivedFile] at hfile
        cases hfile
    have hstage : Stage runtime e₁.options e₁.receiver e₁.stream.receivedType :=
      show Stage runtime e.options e₁.receiver e.stream.receivedType from htype ▸ hfresh₁
    have haccept := (serves_accept e₁).toCleans
    show Handled runtime (if e₁.accepted then _ else _)
    split_ifs
    · split <;> rename_i hresult <;> rw [hresult] at haccept <;>
        exact haccept.receivingAt (h₁ _ hstage)
    · exact h₁ none hstage

/-! ### The manifest and the chunks -/

theorem handled_handleManifest {pc : Option ReceivePc} (h : ReceivingAt runtime e pc)
    (htype : e.stream.receivedType = some .manifest) (hfresh : Fresh e.receiver) :
    Handled runtime (e.handleManifest runtime value) := by
  unfold handleManifest
  split
  · exact handled_throwing h (htype ▸ hfresh.collecting) _
  case h_2 offered manifest hcheck =>
    have hoffered : e.offeredManifest = some offered := by
      simp only [checkManifest, bind_eq_ok] at hcheck
      obtain ⟨_, _, _, _, hcheck⟩ := hcheck
      split at hcheck
      · cases hcheck
      · rename_i hsome
        simp only [bind_eq_ok, pure_eq_ok, Prod.mk.injEq] at hcheck
        obtain ⟨_, _, _, _, rfl, _⟩ := hcheck
        exact hsome
    dsimp only
    split_ifs with hmismatch
    · -- the manifest stays, but without a digest nothing is collected
      have hcollecting : Collecting runtime e.options
          ({ e with manifest := some manifest } : Engine).receiver :=
        ⟨hfresh.receivedFile,
          fun d hd => (Option.some_ne_none d (hd.symm.trans hfresh.receiverDigest)).elim⟩
      exact ⟨h.offered, h.file, htype ▸ hcollecting⟩
    · simp only [not_or, ne_eq, not_not] at hmismatch
      obtain ⟨hname, hmedia, hbytes⟩ := hmismatch
      obtain ⟨offer, hmem, hgenuine, hoffers⟩ := h.offered offered hoffered
      have hmanifest : Offered runtime e.options e.history manifest :=
        ⟨offer, hmem, hgenuine, hoffers.transferId, hoffers.fileName.trans hname.symm,
          hoffers.mediaType.trans hmedia.symm, hoffers.byteCount.trans hbytes.symm⟩
      have hmanifests : e.history.manifests = [] := hfresh.manifests
      have hchunks : e.history.chunks = [] := hfresh.chunks
      refine ⟨h.offered,
        fun file hfile =>
          (Option.some_ne_none file (hfile.symm.trans hfresh.receivedFile)).elim, ?_⟩
      show Stage runtime e.options _ e.stream.receivedType
      rw [htype]
      refine ⟨hfresh.receivedFile, ?_⟩
      rintro _ ⟨⟩
      refine ⟨manifest, rfl, ⟨?_, hmanifest, ?_, ?_, ?_⟩, ?_⟩
      · show e.history.manifests ++ [manifest] = [manifest]
        rw [hmanifests]
        rfl
      · exact hfresh.receiverChunks.trans hchunks.symm
      · show e.receivedBytes = e.history.chunks.flatten.length
        rw [hchunks]
        exact hfresh.receivedBytes
      · show e.receivedChunks = e.history.chunks.length
        rw [hchunks]
        exact hfresh.receivedChunks
      · show IncrementalSha256.new.Absorbed e.history.chunks.flatten
        rw [hchunks]
        exact IncrementalSha256.absorbed_new

theorem handled_handleChunk {pc : Option ReceivePc} (h : ReceivingAt runtime e pc)
    (htype : e.stream.receivedType = some .chunk)
    (hcollecting : Collecting runtime e.options e.receiver) :
    Handled runtime (e.handleChunk value) := by
  unfold handleChunk
  split
  · exact handled_throwing h (htype ▸ hcollecting) _
  case h_2 digest' hcheck =>
    obtain ⟨digest, hchunk, hupdate⟩ := bind_eq_ok.1 hcheck
    have hdigest : e.receiverDigest = some digest := by
      unfold checkChunk at hchunk
      split at hchunk
      · rename_i hd
        simp only [bind_eq_ok, pure_eq_ok] at hchunk
        obtain ⟨_, _, _, _, _, _, rfl⟩ := hchunk
        exact hd
      · cases hchunk
    obtain ⟨manifest, hmanifest, hcollected, habsorbed⟩ := hcollecting.digest digest hdigest
    have hreceiver : e.receiverChunks = e.history.chunks := hcollected.chunks
    have hbytes : e.receivedBytes = e.history.chunks.flatten.length := hcollected.receivedBytes
    have hcount : e.receivedChunks = e.history.chunks.length := hcollected.receivedChunks
    refine ⟨h.offered,
      fun file hfile => (Option.some_ne_none file (hfile.symm.trans hcollecting.receivedFile)).elim,
      ?_⟩
    show Stage runtime e.options _ e.stream.receivedType
    rw [htype]
    refine ⟨hcollecting.receivedFile, ?_⟩
    rintro _ ⟨⟩
    have hflatten : (e.history.chunks ++ [value]).flatten = e.history.chunks.flatten ++ value := by
      simp
    refine ⟨manifest, hmanifest, ⟨hcollected.manifests, hcollected.offered, ?_, ?_, ?_⟩, ?_⟩
    · show e.receiverChunks ++ [value] = e.history.chunks ++ [value]
      rw [hreceiver]
    · show e.receivedBytes + value.length = (e.history.chunks ++ [value]).flatten.length
      rw [hflatten, List.length_append, hbytes]
    · show e.receivedChunks + 1 = (e.history.chunks ++ [value]).length
      rw [List.length_append, hcount]
      rfl
    · show digest'.Absorbed (e.history.chunks ++ [value]).flatten
      rw [hflatten]
      exact habsorbed.update hupdate

/-! ### The completion -/

theorem handled_verifyComplete {pc : Option ReceivePc} {core : FileComplete} {signature : Bytes}
    {key : CryptoKey} (h : ReceivingAt runtime e pc)
    (htype : e.stream.receivedType = some .complete)
    (hchecked : CheckedComplete runtime e.options e.receiver core)
    (hkey : SenderKey runtime e.options key) :
    Handled runtime (e.verifyComplete core signature key) := by
  unfold verifyComplete
  split
  · exact handled_throwing h (htype ▸ trivial) _
  case h_2 message hmessage => exact ⟨h.offered, h.file, htype, hchecked, hkey, hmessage⟩

/-- What `handleComplete` has checked when it asks for the digest. -/
theorem checkComplete_eq_ok {core : FileComplete} {signature : Bytes} {digest : IncrementalSha256}
    (h : e.checkComplete value = .ok (core, signature, digest)) :
    ∃ manifest, e.manifest = some manifest ∧ e.receiverDigest = some digest ∧
      core.transferId = e.options.transferId ∧ core.byteCount = manifest.byteCount ∧
      core.chunkCount = e.receivedChunks ∧ e.receivedBytes = manifest.byteCount ∧
      decodeBase64Url core.transcriptHash 32 = .ok e.options.transcriptHash := by
  unfold checkComplete at h
  split at h
  case h_1 manifest digest' hmanifest hdigest =>
    simp only [bind_eq_ok, throwIf_eq_ok, pure_eq_ok, Prod.exists, Prod.mk.injEq, ne_eq, not_or,
      not_not] at h
    obtain ⟨_, _, core, signature, _, _, ⟨hid, hbytes, hcount, hreceived⟩, transcript, htranscript,
      _, rfl, rfl, rfl, rfl⟩ := h
    exact ⟨manifest, hmanifest, hdigest, hid, hbytes, hcount, hreceived, htranscript⟩
  · cases h

theorem handled_handleComplete {pc : Option ReceivePc} (h : ReceivingAt runtime e pc)
    (htype : e.stream.receivedType = some .complete)
    (hcollecting : Collecting runtime e.options e.receiver) :
    Handled runtime (e.handleComplete value) := by
  unfold handleComplete
  split
  · exact handled_throwing h (htype ▸ trivial) _
  case h_2 core signature digest hcheck =>
    split
    · exact handled_throwing h (htype ▸ trivial) _
    case h_2 output digest' hdigest =>
      obtain ⟨manifest, hmanifest, hsome, hid, hbytes, hcount, hreceived, htranscript⟩ :=
        checkComplete_eq_ok hcheck
      obtain ⟨manifest', hmanifest', hcollected, habsorbed⟩ := hcollecting.digest digest hsome
      cases hmanifest.symm.trans hmanifest'
      have houtput : output = Sha256.hash e.history.chunks.flatten := habsorbed.digest hdigest
      -- the digest is used up, and nothing else changes
      have h₁ : ReceivingAt runtime { e with receiverDigest := some digest' } none :=
        ⟨h.offered, h.file, htype ▸ trivial⟩
      unfold compareDigest
      split
      · exact handled_throwing h₁ (htype ▸ trivial) _
      case h_2 expected hexpected =>
        split_ifs with hmatch
        · exact handled_throwing h₁ (htype ▸ trivial) _
        · rw [ne_eq, not_not] at hmatch
          have hchecked : CheckedComplete runtime e.options
              ({ e with receiverDigest := some digest' } : Engine).receiver core := by
            intro m hm
            cases hmanifest.symm.trans hm
            refine ⟨⟨hcollected.manifests, hcollected.offered, hcollected.chunks,
              hcollected.receivedBytes, hcollected.receivedChunks⟩, hid, htranscript, hbytes,
              hcollected.receivedBytes.symm.trans hreceived,
              hcount.trans hcollected.receivedChunks, ?_⟩
            rw [hexpected, ← hmatch, houtput]
            rfl
          split
          case h_1 key hkey =>
            exact handled_verifyComplete h₁ htype hchecked (by rw [SenderKey, hkey])
          · exact ⟨h₁.offered, h₁.file, htype, hchecked⟩

theorem Vouched.mono {runtime : Runtime} {options : EngineOptions} {history : History}
    {file : ReceivedFile} (h : Vouched runtime options history file)
    (completion : Verified FileComplete) :
    Vouched runtime options { history with completions := history.completions ++ [completion] }
      file := by
  obtain ⟨manifest, hmanifests, hoffered, c, hc, hgenuine, hcompletes, hfile⟩ := h
  exact ⟨manifest, hmanifests, hoffered, c, List.mem_append_left _ hc, hgenuine,
    ⟨hcompletes.transferId, hcompletes.transcriptHash, hcompletes.byteCount, hcompletes.length,
      hcompletes.chunkCount, hcompletes.sha256⟩, hfile⟩

theorem handled_verifiedComplete {pc : Option ReceivePc} {core : FileComplete} {key : CryptoKey}
    {message signature : Bytes} (h : ReceivingAt runtime e pc)
    (htype : e.stream.receivedType = some .complete)
    (hchecked : CheckedComplete runtime e.options e.receiver core)
    (hkey : SenderKey runtime e.options key)
    (hmessage : canonicalJsonBytes core.json = .ok message) :
    Handled runtime (e.verifiedComplete runtime core key message signature) := by
  unfold verifiedComplete
  split_ifs with hverify
  · exact handled_throwing h (htype ▸ trivial) _
  · -- the completion goes on record
    let e₁ : Engine := { e with history := { e.history with
      completions := e.history.completions ++ [Verified.mk core key message signature] } }
    have h₁ : ∀ pc, Processing runtime e₁.options e₁.receiver e₁.stream.receivedType pc →
        ReceivingAt runtime e₁ pc := fun pc hpc =>
      ⟨h.offered, fun file hfile => (h.file file hfile).mono _, hpc⟩
    have hstage : Stage runtime e₁.options e₁.receiver e₁.stream.receivedType :=
      show Stage runtime e.options e₁.receiver e.stream.receivedType from htype ▸ trivial
    dsimp only
    split
    · exact h₁ _ hstage
    case h_2 manifest hmanifest =>
      obtain ⟨hcollected, hcompletes⟩ := hchecked manifest hmanifest
      have hchunks : e.receiverChunks = e.history.chunks := hcollected.chunks
      have hbytes : e.receivedBytes = e.history.chunks.flatten.length := hcollected.receivedBytes
      have hgenuine : Genuine runtime e.options FileComplete.json
          (Verified.mk core key message signature) :=
        ⟨hkey, hmessage, by simpa using hverify⟩
      have hvouched : Vouched runtime e.options e₁.history
          ⟨e.receiverChunks.flatten, manifest.fileName, manifest.mediaType, e.receivedBytes,
            core.sha256⟩ := by
        refine ⟨manifest, hcollected.manifests, hcollected.offered, _,
          List.mem_append_right _ (List.mem_singleton.2 rfl), hgenuine,
          ⟨hcompletes.transferId, hcompletes.transcriptHash, hcompletes.byteCount,
            hcompletes.length, hcompletes.chunkCount, hcompletes.sha256⟩, ?_⟩
        rw [hchunks, hbytes]
      have hsend := (serves_sendJson e₁ .receipt (mayPost_of_ne _ .receipt (by decide))
        (TransferReceipt.mk e.options.transferId e.receivedBytes core.sha256).json).toCleans
      split <;> rename_i hresult <;> rw [hresult] at hsend
      · exact hsend.receivingAt (h₁ _ hstage)
      · exact hsend.receivingAt (h₁ _ ⟨htype, hvouched⟩)

/-- A decrypted frame is handled where its handler belongs. -/
theorem handled_handleFrame {plaintext : Bytes}
    (h : ReceivingAt runtime e (some (.received header plaintext))) :
    Handled runtime (e.handleFrame runtime header plaintext) := by
  obtain ⟨htype, hawaits⟩ := h.processing
  have hstage : Stage runtime e.options e.receiver e.stream.receivedType :=
    htype ▸ hawaits.stage
  unfold handleFrame
  split
  all_goals
    rename_i heq
    rw [heq] at htype hawaits
  · exact handled_handleConfirmation h hstage
  · exact handled_handleFileOffer h htype hawaits
  · exact handled_handleAccept h hstage
  · exact handled_handleManifest h htype hawaits
  · exact handled_handleChunk h htype hawaits
  · exact handled_handleComplete h htype hawaits
  · exact handled_handleReceipt h hstage
  · exact handled_handleTerminalPayload h hstage .cancel
  · exact handled_handleTerminalPayload h hstage .error

theorem handled_resumeHandler {pc : ReceivePc} {step : Engine × Option ReceivePc}
    (h : ReceivingAt runtime e (some pc)) (hresume : e.resumeHandler pc = some step) :
    Handled runtime step := by
  unfold resumeHandler at hresume
  dsimp only at hresume
  split at hresume
  · obtain ⟨⟨e₁, pc₁⟩, h₁, h₂⟩ := Option.map_eq_some_iff.1 hresume
    cases h₂
    exact (serves_resumeStart h₁).toCleans.receivingAt (h.between h.processing rfl)
  · cases hresume
    exact handled_finishConfirmation h h.processing
  · cases hresume
    exact h.between h.processing rfl
  · rcases afterSend_cases hresume with ⟨_, rfl⟩ | ⟨error, _, rfl⟩
    · have hnone : ReceivingAt runtime e none := h.between h.processing rfl
      exact hnone.congr rfl rfl rfl
    · exact h.between h.processing rfl
  · obtain ⟨htype, hvouched⟩ := h.processing
    rcases afterSend_cases hresume with ⟨_, rfl⟩ | ⟨error, _, rfl⟩
    · refine ⟨h.offered, ?_, htype ▸ trivial⟩
      rintro _ ⟨⟩
      exact hvouched
    · exact h.between (htype ▸ trivial) rfl
  · cases hresume

/-! ### Reading a frame -/

theorem receivingAt_readMessage {data : MessageData} {failure : Option String}
    (h : ReceivingAt runtime e (some (.reading data))) :
    ReceivingAt runtime e (some (e.readMessage data failure)) := by
  have hthrew : ∀ error, ReceivingAt runtime e (some (.threw error)) := fun error =>
    h.between h.processing rfl
  unfold readMessage
  split
  · exact hthrew _
  · split
    · exact hthrew _
    case h_2 call hcall =>
      obtain ⟨bytes, _, hreceive⟩ := bind_eq_ok.1 hcall
      obtain ⟨header, ciphertext, _, _, _, hallowed, _, _, _, rfl⟩ :=
        FrameStream.receiveFrame_eq_ok.1 hreceive
      exact ⟨h.offered, h.file, h.processing, _, hallowed⟩

theorem handled_openFrame {call : DecryptCall} {result : Option Bytes}
    (h : ReceivingAt runtime e (some (.decrypting call))) :
    Handled runtime (e.openFrame call result) := by
  obtain ⟨hstage, direction, hallowed⟩ := h.processing
  have hthrew : ∀ error, ReceivingAt runtime e (some (.threw error)) := fun error =>
    h.between hstage rfl
  unfold openFrame
  rcases e.stream.receiveFrameResume_cases call result with
    ⟨error, hr⟩ | ⟨plaintext, _, _, _, _, ⟨error, _, hr⟩ | ⟨_, hr⟩⟩ <;> rw [hr]
  · exact hthrew _
  · exact (hthrew _).congr rfl rfl rfl
  · exact ⟨h.offered, h.file, rfl, hstage.awaits hallowed⟩

end Handlers

/-! ## Runs -/

theorem ReceivingInvariant.addThread (h : ReceivingInvariant runtime e) (thread : Thread) :
    ReceivingInvariant runtime (e.addThread thread) := h.congr rfl rfl rfl rfl

theorem ReceivingInvariant.setThread (h : ReceivingInvariant runtime e) (i : ℕ) (thread : Thread) :
    ReceivingInvariant runtime (e.setThread i thread) := h.congr rfl rfl rfl rfl

theorem ReceivingInvariant.start (h : ReceivingInvariant runtime e) :
    ReceivingInvariant runtime e.start.1 := (serves_start e).toCleans.receivingInvariant h

theorem ReceivingInvariant.fail (h : ReceivingInvariant runtime e) (error : Thrown)
    (sendWire : Bool) : ReceivingInvariant runtime (e.fail error sendWire) :=
  (serves_fail e error sendWire).toCleans.receivingInvariant h

/-- The invariant of an engine that is processing a message. -/
theorem ReceivingInvariant.at {pc : Option ReceivePc} (h : ReceivingInvariant runtime e)
    (hpc : e.receiving = pc) : ReceivingAt runtime e pc := hpc ▸ h

theorem receivingInvariant_step (h : ReceivingInvariant runtime e)
    (hstep : e.step runtime event = some e') : ReceivingInvariant runtime e' := by
  cases step_moves hstep with
  | start | reject | sendFile => exact h.start.addThread _
  | acceptSends haccept =>
    have haccepted := (serves_accept e).toCleans.receivingInvariant h
    rw [haccept] at haccepted
    exact haccepted.addThread _
  | acceptReturns haccept =>
    have haccepted := (serves_accept e).toCleans.receivingInvariant h
    rw [haccept] at haccepted
    exact haccepted
  | sendFileRefused => exact h.addThread _
  | close => exact ⟨h.offered, h.file, h.processing.cleaned⟩
  | opened =>
    have hopened : ReceivingInvariant runtime (e.setReadyState .opened) := h.congr rfl rfl rfl rfl
    exact hopened.start.addThread _
  | closed =>
    have hclosed : ReceivingInvariant runtime (e.setReadyState .closed) := h.congr rfl rfl rfl rfl
    exact (hclosed.fail _ true).congr rfl rfl rfl rfl
  | errored => exact (h.fail _ true).congr rfl rfl rfl rfl
  | rejectLate | closeAgain | messageLate | capacityKept => exact h
  | message | closing | drained | capacityFreed | capacity | transmit =>
    exact h.congr rfl rfl rfl rfl
  | encrypted _ hnext => exact h.congr rfl rfl (encryptedSend_receivedType hnext) rfl
  | resume hthread hnext =>
    have hcleans := cleans_resumeThread (List.mem_of_getElem? hthread) hnext
    exact (hcleans.receivingInvariant h).setThread _ _
  | signed _ hnext =>
    exact ((serves_signedSendFile hnext).toCleans.receivingInvariant h).setThread _ _
  | sliced _ hnext =>
    exact ((serves_slicedSendFile hnext).toCleans.receivingInvariant h).setThread _ _
  | @dequeueRefused _ queue =>
    have hdequeued : ReceivingInvariant runtime { e with queue } := h.congr rfl rfl rfl rfl
    exact hdequeued.fail _ true
  | @dequeue data _ hidle =>
    have hnone := h.at hidle
    exact (hnone.between hnone.processing rfl : ReceivingAt runtime e (some (.reading data))).congr
      rfl rfl rfl
  | bytesRead hpc => exact (receivingAt_readMessage (h.at hpc)).congr rfl rfl rfl
  | decrypted hpc => exact (handled_openFrame (h.at hpc)).goOn
  | handle hpc => exact (handled_handleFrame (h.at hpc)).goOn
  | offerKeyRefused hpc himport =>
    obtain ⟨htype, hfresh, _⟩ := (h.at hpc).processing
    exact (handled_throwing (h.at hpc) (htype ▸ hfresh) _).goOn
  | completeKeyRefused hpc himport =>
    obtain ⟨htype, _⟩ := (h.at hpc).processing
    exact (handled_throwing (h.at hpc) (htype ▸ trivial) _).goOn
  | offerKey hpc himport =>
    obtain ⟨htype, hfresh, hoffers⟩ := (h.at hpc).processing
    exact (handled_verifyOffer (h.at hpc) htype hfresh hoffers (senderKey_of_import himport)).goOn
  | completeKey hpc himport =>
    obtain ⟨htype, hchecked⟩ := (h.at hpc).processing
    exact (handled_verifyComplete (h.at hpc) htype hchecked (senderKey_of_import himport)).goOn
  | verifiedOffer hpc =>
    obtain ⟨htype, hfresh, hoffers, hkey, hmessage⟩ := (h.at hpc).processing
    exact (handled_verifiedOffer (h.at hpc) htype hfresh hoffers hkey hmessage).goOn
  | verifiedComplete hpc =>
    obtain ⟨htype, hchecked, hkey, hmessage⟩ := (h.at hpc).processing
    exact (handled_verifiedComplete (h.at hpc) htype hchecked hkey hmessage).goOn
  | resumeHandler hpc hnext => exact (handled_resumeHandler (h.at hpc) hnext).goOn
  | @caught error hpc =>
    have hnone : ReceivingAt runtime e none := (h.at hpc).between (h.at hpc).processing rfl
    exact ((serves_fail e error true).toCleans.receivingAt hnone).congr rfl rfl rfl

theorem receivingInvariant_construct {o : ConstructorOptions} {registry : InboundTransferRegistry}
    {readyState : ReadyState} (h : construct o registry readyState = .ok e) :
    ReceivingInvariant runtime e := by
  obtain ⟨options, stream, registry', _, hstream, hcases⟩ := construct_cases h
  have htype : stream.receivedType = none := by
    simp only [FrameStream.create, bind_eq_ok, pure_eq_ok] at hstream
    obtain ⟨id, _, -, _, rfl⟩ := hstream
    rfl
  have hinitial : ReceivingInvariant runtime
      (initial options o.accepted stream registry' readyState) := by
    refine ⟨fun _ h => (Option.some_ne_none _ h.symm).elim,
      fun _ h => (Option.some_ne_none _ h.symm).elim, ?_⟩
    show Stage runtime options _ stream.receivedType
    rw [htype]
    exact ⟨rfl, rfl, rfl, rfl, rfl, rfl, rfl⟩
  rcases hcases with ⟨_, rfl⟩ | ⟨_, rfl⟩
  · exact hinitial
  · exact hinitial.start.addThread _

/-- A received file is the concatenation of the chunks that `handleChunk` accepted, and agrees with
the accepted manifest, with a file offer and with a completion that the sender's key verified. -/
theorem receivedFile_genuine {o : ConstructorOptions} {registry : InboundTransferRegistry}
    {readyState : ReadyState} {e₀ : Engine} {file : ReceivedFile}
    (h : construct o registry readyState = .ok e₀) (hrun : Run (Step (step runtime)) e₀ es e)
    (hfile : e.receivedFile = some file) :
    ∃ manifest offer completion, e.history.manifests = [manifest] ∧ offer ∈ e.history.offers ∧
      completion ∈ e.history.completions ∧
      file.blob = e.history.chunks.flatten ∧ file.blob.length = file.byteCount ∧
      manifest.byteCount = file.byteCount ∧ offer.core.byteCount = file.byteCount ∧
      completion.core.byteCount = file.byteCount ∧
      completion.core.chunkCount = e.history.chunks.length ∧
      file.sha256 = completion.core.sha256 ∧
      decodeBase64Url completion.core.sha256 32 = .ok (Sha256.hash file.blob) ∧
      Genuine runtime e.options FileComplete.json completion ∧
      completion.core.transferId = e.options.transferId ∧
      decodeBase64Url completion.core.transcriptHash 32 = .ok e.options.transcriptHash ∧
      Genuine runtime e.options FileOfferCore.json offer ∧
      offer.core.fileName = file.fileName ∧ offer.core.mediaType = file.mediaType := by
  have hinvariant : ReceivingInvariant runtime e :=
    hrun.invariant (receivingInvariant_construct h) fun _ _ _ => receivingInvariant_step
  obtain ⟨manifest, hmanifests, ⟨offer, hoffer, hgenuine, hoffers⟩, completion, hcompletion,
    hgenuine', hcompletes, rfl⟩ := hinvariant.file file hfile
  exact ⟨manifest, offer, completion, hmanifests, hoffer, hcompletion, rfl, rfl,
    hcompletes.length.symm, hoffers.byteCount.trans hcompletes.length.symm,
    hcompletes.byteCount.trans hcompletes.length.symm, hcompletes.chunkCount, rfl,
    hcompletes.sha256, hgenuine', hcompletes.transferId, hcompletes.transcriptHash, hgenuine,
    hoffers.fileName, hoffers.mediaType⟩

/-- The manifest, the two chunks and the completion arrive, and the receipt is sent. -/
def sampleTransfer : List EngineEvent :=
  let receipt : TransferReceipt := ⟨sampleId, 3, sampleComplete.sha256⟩
  sampleReceive .s2r .manifest 2 (samplePayload sampleManifest.json) ++ [.handle] ++
  sampleReceive .s2r .chunk 3 [0x61, 0x62] ++ [.handle] ++
  sampleReceive .s2r .chunk 4 [0x63] ++ [.handle] ++
  sampleReceive .s2r .complete 5
    (samplePayload (signedJson sampleComplete.json (encodeBase64Url (List.replicate 64 9)))) ++
  [.handle, .verified, .drained 0, sampleEncrypted 2 (samplePayload receipt.json).length,
    .capacity 2, .transmit 2, .resumeHandler]

theorem receivedFile_genuine_sample :
    ∃ e₀ e file, construct (sampleOptions .recipient) ⟨[]⟩ .opened = .ok e₀ ∧
      Run (Step (step sampleRuntime)) e₀ (sampleConfirm .s2r ++ sampleOffer ++ sampleTransfer) e ∧
      e.receivedFile = some file ∧ file.blob = sampleContent ∧ file.fileName = js "a" ∧
      ∃ manifest offer completion, e.history.manifests = [manifest] ∧ offer ∈ e.history.offers ∧
        completion ∈ e.history.completions ∧
        file.blob = e.history.chunks.flatten ∧ file.blob.length = file.byteCount ∧
        manifest.byteCount = file.byteCount ∧ offer.core.byteCount = file.byteCount ∧
        completion.core.byteCount = file.byteCount ∧
        completion.core.chunkCount = e.history.chunks.length ∧
        file.sha256 = completion.core.sha256 ∧
        decodeBase64Url completion.core.sha256 32 = .ok (Sha256.hash file.blob) ∧
        Genuine sampleRuntime e.options FileComplete.json completion ∧
        completion.core.transferId = e.options.transferId ∧
        decodeBase64Url completion.core.transcriptHash 32 = .ok e.options.transcriptHash ∧
        Genuine sampleRuntime e.options FileOfferCore.json offer ∧
        offer.core.fileName = file.fileName ∧ offer.core.mediaType = file.mediaType := by
  have h : Reaches (step sampleRuntime) (sampleOptions .recipient) .opened
      (sampleConfirm .s2r ++ sampleOffer ++ sampleTransfer) fun e =>
        ∃ file ∈ e.receivedFile, file.blob = sampleContent ∧ file.fileName = js "a" := by
    decide +kernel
  obtain ⟨e₀, e, he₀, hexec, file, hfile, hblob, hname⟩ := h.exec
  have hrun := Run.of_exec hexec
  exact ⟨e₀, e, file, he₀, hrun, hfile, hblob, hname, receivedFile_genuine he₀ hrun hfile⟩

end Engine

end SelfRelay
