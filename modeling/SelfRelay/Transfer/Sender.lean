import SelfRelay.Lib.Pieces
import SelfRelay.Transfer.Duplex

/-!
# What a sender sends

The frames that carry a file are its signed offer, the manifest, the pieces of its content and the
signed completion, in this order (`Shipment.frames`).  `Script` follows a call of `sendFile` along
them: what it has passed to `sendFrame` at each of its `await`s.  In every state of a pair what the
sender encrypted of them is as much of the shipment as it got to (`Sends.carried`).
-/

namespace SelfRelay

open StepSystem

/-! ## Shipments -/

/-- The frames that carry a file. -/
def FrameType.carries : FrameType → Bool
  | fileOffer | manifest | chunk | complete => true
  | confirm | accept | receipt | cancel | error => false

/-- What a call of `sendFile` has to send. -/
structure Shipment where
  content : Bytes
  manifest : TransferManifest
  offer : FileOfferCore
  completion : FileComplete
  deriving DecidableEq, Repr

namespace Shipment

variable {s : Shipment} {l l' : List (FrameType × Bytes)} {offer manifest complete : Bytes}

/-- The number of chunks. -/
def count (s : Shipment) : ℕ := Pieces.count s.manifest.chunkSize s.content.length

/-- The frames up to a number of chunks. -/
def upTo (s : Shipment) (offer manifest : Bytes) (n : ℕ) : List (FrameType × Bytes) :=
  (.fileOffer, offer) :: (.manifest, manifest) ::
    (Pieces.pieces s.manifest.chunkSize s.content n).map (Prod.mk .chunk)

/-- All frames of the shipment. -/
def frames (s : Shipment) (offer manifest complete : Bytes) : List (FrameType × Bytes) :=
  s.upTo offer manifest s.count ++ [(.complete, complete)]

/-- A payload is the one of this shipment; the signatures are left open. -/
def Describes (s : Shipment) (f : FrameType × Bytes) : Prop :=
  match f.1 with
  | .fileOffer =>
    ∃ signature, canonicalJsonBytes (signedJson s.offer.json (encodeBase64Url signature)) = .ok f.2
  | .manifest => canonicalJsonBytes s.manifest.json = .ok f.2
  | .complete =>
    ∃ signature,
      canonicalJsonBytes (signedJson s.completion.json (encodeBase64Url signature)) = .ok f.2
  | _ => True

/-- These frames are the shipment, as far as it got. -/
def Carries (s : Shipment) (l : List (FrameType × Bytes)) : Prop :=
  ∃ offer manifest complete, l <+: s.frames offer manifest complete ∧ ∀ f ∈ l, s.Describes f

theorem Carries.of_prefix (h : s.Carries l) (hl : l' <+: l) : s.Carries l' := by
  obtain ⟨offer, manifest, complete, hframes, hdescribes⟩ := h
  exact ⟨offer, manifest, complete, hl.trans hframes, fun f hf => hdescribes f (hl.subset hf)⟩

theorem carries_nil : s.Carries [] := ⟨[], [], [], List.nil_prefix, List.forall_mem_nil _⟩

theorem upTo_prefix {n : ℕ} (hn : n ≤ s.count) :
    s.upTo offer manifest n <+: s.frames offer manifest complete := by
  have hpieces : Pieces.pieces s.manifest.chunkSize s.content n <+:
      Pieces.pieces s.manifest.chunkSize s.content s.count := Pieces.pieces_prefix hn
  obtain ⟨rest, hrest⟩ := hpieces
  refine ⟨rest.map (Prod.mk .chunk) ++ [(.complete, complete)], ?_⟩
  rw [frames, upTo, upTo, ← hrest]
  simp

/-- The offer and the manifest describe themselves, and so every frame
before the completion does. -/
theorem describes_upTo (hoffer : s.Describes (.fileOffer, offer))
    (hmanifest : s.Describes (.manifest, manifest))
    (n : ℕ) : ∀ f ∈ s.upTo offer manifest n, s.Describes f := by
  simp only [upTo, List.forall_mem_cons, List.mem_map]
  refine ⟨hoffer, hmanifest, ?_⟩
  rintro f ⟨chunk, _, rfl⟩
  trivial

theorem carries_upTo (hoffer : s.Describes (.fileOffer, offer))
    (hmanifest : s.Describes (.manifest, manifest))
    {n : ℕ} (hn : n ≤ s.count) : s.Carries (s.upTo offer manifest n) :=
  ⟨offer, manifest, [], upTo_prefix hn, describes_upTo hoffer hmanifest n⟩

theorem carries_frames (hoffer : s.Describes (.fileOffer, offer))
    (hmanifest : s.Describes (.manifest, manifest))
    (hcomplete : s.Describes (.complete, complete)) :
    s.Carries (s.frames offer manifest complete) :=
  ⟨offer, manifest, complete, List.prefix_rfl, List.forall_mem_append.2
    ⟨describes_upTo hoffer hmanifest _, List.forall_mem_singleton.2 hcomplete⟩⟩

/-- The next chunk follows those before it. -/
theorem upTo_succ (offer manifest : Bytes) (n : ℕ) :
    s.upTo offer manifest (n + 1) = s.upTo offer manifest n ++
      [(.chunk, (s.content.drop (n * s.manifest.chunkSize)).take s.manifest.chunkSize)] := by
  simp [upTo, Pieces.pieces_succ]

/-! ### Chunks -/

theorem chunks_upTo (n : ℕ) :
    chunksOf (s.upTo offer manifest n) = Pieces.pieces s.manifest.chunkSize s.content n := by
  simp [chunksOf, upTo, List.filterMap_map]

theorem chunks_frames :
    chunksOf (s.frames offer manifest complete) = Pieces.pieces s.manifest.chunkSize s.content
      s.count := by
  rw [frames, chunksOf_append, chunks_upTo]
  simp [chunksOf]

/-- The chunks of a shipment are pieces of its content, in order. -/
theorem Carries.chunks_prefix (h : s.Carries l) :
    chunksOf l <+: Pieces.pieces s.manifest.chunkSize s.content s.count := by
  obtain ⟨offer, manifest, complete, hframes, _⟩ := h
  have hchunks : chunksOf l <+: chunksOf (s.frames offer manifest complete) := hframes.filterMap _
  rwa [chunks_frames] at hchunks

end Shipment

/-- What this call of `sendFile` has to send. -/
def Engine.shipment (e : Engine) (unicode : Unicode) (content : Bytes) (file : SourceFile)
    (fileName : Option JsString) : Shipment where
  content := content
  manifest := e.manifestOf unicode file fileName
  offer := e.offerOf (e.manifestOf unicode file fileName)
  completion :=
    e.completionOf file (Pieces.count e.options.chunkSize content.length) (Sha256.hash content)

theorem Engine.shipment_congr {e e' : Engine} (h : e'.options = e.options) :
    e'.shipment = e.shipment := by
  unfold shipment manifestOf offerOf completionOf
  rw [h]

/-! ## The course along the frames -/

/-- The call of `sendFrame` that a call of `sendFile` awaits. -/
def SendFilePc.sends : SendFilePc → Option ℕ
  | sendingOffer _ send | sendingManifest send | sendingChunk send .. | sendingComplete _ send =>
    some send
  | starting _ | waitingConfirmation _ | signingOffer .. | awaitingAcceptance .. | reading ..
  | signingComplete _
  | awaitingReceipt _ | returned _ => none

theorem SendFilePc.of_waits {pc : SendFilePc} (h : pc.waits = true) :
    pc.loop = none ∧ pc.sends = none := by
  cases pc <;> first | exact ⟨rfl, rfl⟩ | cases h

theorem SendFilePc.sends_of_loop {pc : SendFilePc} {send offset n : ℕ} {digest : IncrementalSha256}
    (h : pc.loop = some (send, offset, n, digest)) : pc.sends = some send := by
  cases pc <;> cases h <;> rfl

namespace Shipment

/-- What a call of `sendFile` has passed to `sendFrame` when it is here. -/
inductive Script (s : Shipment) : SendFilePc → List (FrameType × Bytes) → Prop
  | waiting {pc : SendFilePc} (hpc : pc.waits = true) : Script s pc []
  | signingOffer : Script s (.signingOffer s.manifest s.offer) []
  | sendingOffer {send : ℕ} {offer : Bytes} (hoffer : s.Describes (.fileOffer, offer)) :
    Script s (.sendingOffer s.manifest send) [(.fileOffer, offer)]
  | awaitingAcceptance {promise : ℕ} {offer : Bytes} (hoffer : s.Describes (.fileOffer, offer)) :
    Script s (.awaitingAcceptance s.manifest promise) [(.fileOffer, offer)]
  | looping {pc : SendFilePc} {send offset n : ℕ} {digest : IncrementalSha256}
      {offer manifest : Bytes}
    (hpc : pc.loop = some (send, offset, n, digest)) (hoffer : s.Describes (.fileOffer, offer))
    (hmanifest : s.Describes (.manifest, manifest)) (hn : n ≤ s.count)
    (hoffset : offset = min (n * s.manifest.chunkSize) s.content.length)
    (hdigest : digest.Absorbed (s.content.take offset)) : Script s pc (s.upTo offer manifest n)
  | reading {n : ℕ} {digest : IncrementalSha256} {offer manifest : Bytes}
    (hoffer : s.Describes (.fileOffer, offer)) (hmanifest : s.Describes (.manifest, manifest))
    (hn : n < s.count) (hdigest : digest.Absorbed (s.content.take (n * s.manifest.chunkSize))) :
    Script s (.reading (n * s.manifest.chunkSize) n digest) (s.upTo offer manifest n)
  | signingComplete {offer manifest : Bytes} (hoffer : s.Describes (.fileOffer, offer))
    (hmanifest : s.Describes (.manifest, manifest)) :
    Script s (.signingComplete s.completion) (s.upTo offer manifest s.count)
  | sendingComplete {send : ℕ} {offer manifest complete : Bytes}
      (hoffer : s.Describes (.fileOffer, offer))
    (hmanifest : s.Describes (.manifest, manifest))
    (hcomplete : s.Describes (.complete, complete)) :
    Script s (.sendingComplete s.completion send) (s.frames offer manifest complete)
  | awaitingReceipt {promise : ℕ} {offer manifest complete : Bytes}
      (hoffer : s.Describes (.fileOffer, offer))
    (hmanifest : s.Describes (.manifest, manifest))
    (hcomplete : s.Describes (.complete, complete)) :
    Script s (.awaitingReceipt promise) (s.frames offer manifest complete)
  | confirmed {receipt : TransferReceipt} {offer manifest complete : Bytes}
    (hoffer : s.Describes (.fileOffer, offer)) (hmanifest : s.Describes (.manifest, manifest))
    (hcomplete : s.Describes (.complete, complete)) :
    Script s (.returned (.ok receipt)) (s.frames offer manifest complete)
  | threw {error : Thrown} {l : List (FrameType × Bytes)} (h : s.Carries l) :
    Script s (.returned (.error error)) l

namespace Script

variable {s : Shipment} {pc : SendFilePc} {l : List (FrameType × Bytes)}

theorem carries (h : s.Script pc l) : s.Carries l := by
  cases h with
  | waiting | signingOffer => exact carries_nil
  | sendingOffer hoffer | awaitingAcceptance hoffer =>
    exact ⟨_, [], [], ⟨_, rfl⟩, List.forall_mem_singleton.2 hoffer⟩
  | looping _ hoffer hmanifest hn => exact carries_upTo hoffer hmanifest hn
  | reading hoffer hmanifest hn => exact carries_upTo hoffer hmanifest (Nat.le_of_lt hn)
  | signingComplete hoffer hmanifest => exact carries_upTo hoffer hmanifest le_rfl
  | sendingComplete hoffer hmanifest hcomplete | awaitingReceipt hoffer hmanifest hcomplete
  | confirmed hoffer hmanifest hcomplete => exact carries_frames hoffer hmanifest hcomplete
  | threw h => exact h

theorem eq_nil (h : s.Script pc l) (hpc : pc.waits = true) : l = [] := by
  cases h with
  | waiting | signingOffer => rfl
  | looping hloop =>
    rw [(SendFilePc.of_waits hpc).1] at hloop
    cases hloop
  | _ => cases hpc

/-- The head of the loop over the chunks. -/
theorem loop (h : s.Script pc l) {send offset n : ℕ} {digest : IncrementalSha256}
    (hpc : pc.loop = some (send, offset, n, digest)) :
    ∃ offer manifest, s.Describes (.fileOffer, offer) ∧ s.Describes (.manifest, manifest) ∧
      n ≤ s.count ∧
      offset = min (n * s.manifest.chunkSize) s.content.length ∧
      digest.Absorbed (s.content.take offset) ∧
      l = s.upTo offer manifest n := by
  cases h with
  | looping hloop hoffer hmanifest hn hoffset hdigest =>
    obtain ⟨rfl, rfl, rfl, rfl⟩ : _ = send ∧ _ = offset ∧ _ = n ∧ _ = digest := by
      simpa using hloop.symm.trans hpc
    exact ⟨_, _, hoffer, hmanifest, hn, hoffset, hdigest, rfl⟩
  | waiting hwaits =>
    rw [(SendFilePc.of_waits hwaits).1] at hpc
    cases hpc
  | _ => cases hpc

end Script

end Shipment

/-- Only `sendFile` passes frames of the file. -/
theorem Engine.Origin.not_carries {e : Engine} {type : FrameType} {body : Bytes}
    (h : e.Origin type body) :
    type.carries = false := by
  cases h with
  | confirmation | acceptance | receipt => rfl
  | terminal htype => rcases htype with rfl | rfl <;> rfl

namespace Engine

variable {e e' : Engine} {event : EngineEvent} {unicode : Unicode} {content : Bytes} {i : ℕ}
  {file : SourceFile}
  {fileName : Option JsString} {pc pc' : SendFilePc} {frame : Option (FrameType × Bytes)}

/-- A call of `sendFile` passes nothing else to `sendFrame`, and awaits what it passed. -/
theorem Course.carries (h : Course unicode e event i file fileName pc pc' frame) :
    ∀ f ∈ frame, f.1.carries = true ∧ pc.sends = none ∧ pc'.sends = some e.sends.length := by
  cases h with
  | offered | accepted | read | completed =>
    rintro f ⟨⟩
    exact ⟨rfl, rfl, rfl⟩
  | _ => exact fun _ hf => by cases hf

/-- A call goes on after `sendFrame` only if that returned; otherwise it throws. -/
theorem Course.awaited (h : Course unicode e event i file fileName pc pc' frame) {send : ℕ}
    (hpc : pc.sends = some send) :
    frame = none ∧
      (e.sendResult send = some (.ok ()) ∨ ∃ error, pc' = .returned (.error error)) := by
  cases h with
  | threw => exact ⟨rfl, .inr ⟨_, rfl⟩⟩
  | waited hwaits =>
    rw [(SendFilePc.of_waits hwaits).2] at hpc
    cases hpc
  | offerSent hsend | completionSent hsend =>
    cases hpc
    exact ⟨rfl, .inl hsend⟩
  | looped hloop hsend | digested hloop hsend =>
    rw [SendFilePc.sends_of_loop hloop] at hpc
    cases hpc
    exact ⟨rfl, .inl hsend⟩
  | _ => cases hpc

/-- A call that returned does nothing more. -/
theorem Course.returned {result : Outcome TransferReceipt}
    (h : Course unicode e event i file fileName (.returned result) pc' frame) :
    frame = none ∧ ∃ error, pc' = .returned (.error error) := by
  cases h with
  | threw => exact ⟨rfl, _, rfl⟩
  | waited h | looped h | digested h => cases h

/-- A call of `sendFile` goes on along the frames of its shipment. -/
theorem Course.script {l : List (FrameType × Bytes)}
    (h : Course unicode e event i file fileName pc pc' frame)
    (hscript : (e.shipment unicode content file fileName).Script pc l)
    (hsize : file.size = content.length)
    (hchunk : 0 < e.options.chunkSize)
    (hslice : ∀ offset n digest chunk, pc = .reading offset n digest →
      event = .sliced i (some chunk) →
      chunk = sliceOf content offset (min (offset + e.options.chunkSize) file.size)) :
    (e.shipment unicode content file fileName).Script pc' (l ++ frame.toList) := by
  set s := e.shipment unicode content file fileName with hs
  have hlt : ∀ n, n < s.count ↔ n * s.manifest.chunkSize < s.content.length := fun n =>
    Pieces.lt_count_iff hchunk
  have hcontent : s.content.length = file.size := hsize.symm
  have hchunkSize : s.manifest.chunkSize = e.options.chunkSize := rfl
  cases h with
  | threw =>
    rw [Option.toList_none, List.append_nil]
    exact .threw hscript.carries
  | waited hwaits hwaits' =>
    rw [hscript.eq_nil hwaits]
    exact .waiting hwaits'
  | prepared =>
    rw [hscript.eq_nil rfl]
    exact .signingOffer
  | @offered manifest core signature body hbody =>
    cases hscript with
    | signingOffer => exact .sendingOffer ⟨signature, hbody⟩
    | waiting h | looping h => cases h
  | offerSent =>
    cases hscript with
    | sendingOffer hoffer => exact .awaitingAcceptance hoffer
    | waiting h | looping h => cases h
  | @accepted manifest promise body hpromise hbody =>
    cases hscript with
    | awaitingAcceptance hoffer =>
      exact .looping rfl hoffer hbody (Nat.zero_le _) (by simp) IncrementalSha256.absorbed_new
    | waiting h | looping h => cases h
  | @looped _ send offset n digest hloop hsend hoffset =>
    obtain ⟨offer, manifest, hoffer, hmanifest, hn, hmin, hdigest, rfl⟩ := hscript.loop hloop
    obtain rfl : offset = n * s.manifest.chunkSize := by omega
    rw [Option.toList_none, List.append_nil]
    exact .reading hoffer hmanifest ((hlt n).2 (by omega)) hdigest
  | @read offset n digest digest' chunk hevent hlength hupdate =>
    have hchunk := hslice offset n digest chunk rfl hevent
    cases hscript with
    | reading hoffer hmanifest hn hdigest =>
      -- the next piece of the content
      have hpiece : chunk = (s.content.drop (n * s.manifest.chunkSize)).take
          s.manifest.chunkSize := by
        have hstart := (hlt n).1 hn
        show chunk = (content.drop _).take _
        rw [hchunk, sliceOf, List.take_eq_take_iff, List.length_drop]
        omega
      have hoffset : min (n * s.manifest.chunkSize + e.options.chunkSize) file.size =
          min ((n + 1) * s.manifest.chunkSize) s.content.length := by
        rw [Nat.succ_mul, hcontent, hchunkSize]
      have habsorbed := hdigest.update hupdate
      rw [hpiece, ← List.take_add, ← Nat.succ_mul, List.take_eq_take_min, ← hoffset] at habsorbed
      rw [Option.toList_some, hpiece, ← Shipment.upTo_succ]
      exact .looping rfl hoffer hmanifest hn hoffset habsorbed
    | waiting h | looping h => cases h
  | @digested _ send offset n digest digest' output hloop hsend hoffset hdigest =>
    obtain ⟨offer, manifest, hoffer, hmanifest, hn, hmin, habsorbed, rfl⟩ := hscript.loop hloop
    obtain rfl : n = s.count := by
      have hend := (hlt n).not
      omega
    have houtput : output = Sha256.hash content := by
      rw [habsorbed.digest hdigest, List.take_of_length_le (by omega)]
      rfl
    rw [Option.toList_none, List.append_nil, houtput]
    exact .signingComplete hoffer hmanifest
  | @completed core signature body hbody =>
    cases hscript with
    | signingComplete hoffer hmanifest => exact .sendingComplete hoffer hmanifest ⟨signature, hbody⟩
    | waiting h | looping h => cases h
  | completionSent =>
    rw [Option.toList_none, List.append_nil]
    cases hscript with
    | sendingComplete hoffer hmanifest hcomplete =>
      exact .awaitingReceipt hoffer hmanifest hcomplete
    | waiting h | looping h => cases h
  | confirmed =>
    rw [Option.toList_none, List.append_nil]
    cases hscript with
    | awaitingReceipt hoffer hmanifest hcomplete => exact .confirmed hoffer hmanifest hcomplete
    | waiting h | looping h => cases h

end Engine

/-! ## Sides -/

namespace Engine

variable {runtime : Runtime} {e e' : Engine} {event : EngineEvent}

/-- A call of `sendFrame` that settled stays as it is. -/
theorem settled_step (hstep : e.step runtime event = some e') {send : ℕ} {result : Outcome Unit}
    (h : e.sends[send]? = some (.settled result)) : e'.sends[send]? = some (.settled result) := by
  have hset : ∀ {i : ℕ} {status next : SendStatus}, e.sends[i]? = some status →
    (∀ r, status ≠ .settled r) →
      e'.sends = e.sends.set i next → e'.sends[send]? = some (.settled result) := by
    intro i status next hi hstatus hsends
    have hne : i ≠ send := by
      rintro rfl
      exact hstatus result (Option.some.inj (hi.symm.trans h))
    rw [hsends, List.getElem?_set_ne hne, h]
  cases step_line hstep with
  | posted _ hposted =>
    rcases hposted with ⟨_, hsends⟩ | ⟨_, status, _, _, hsends⟩
    · rw [hsends, h]
    · rw [hsends, List.getElem?_append_left (List.getElem?_eq_some_iff.1 h).1, h]
  | shifted _ _ hshifts =>
    obtain ⟨hlt, hget⟩ := List.getElem?_eq_some_iff.1 h
    have hlt' : send < e'.sends.length := hshifts.length_eq ▸ hlt
    have hshift := hshifts.get hlt hlt'
    simp only [List.get_eq_getElem, hget] at hshift
    rcases hshift with hsame | ⟨hmoves | ⟨call, error, hrefused⟩, _⟩
    · rw [List.getElem?_eq_getElem hlt', hsame]
    · cases hmoves
    · cases hrefused
  | sealed _ hsend _ _ hsends => exact hset hsend (fun _ => SendStatus.noConfusion) hsends
  | unsealed _ hsend _ hsends => exact hset hsend (fun _ => SendStatus.noConfusion) hsends
  | sent _ hsend _ hsends => exact hset hsend (fun _ => SendStatus.noConfusion) hsends
  | received _ _ _ _ hsends => rw [hsends, h]

theorem noCourse_iff : e.NoCourse ↔ ∀ i, e.courseAt i = none := by
  unfold NoCourse courseAt
  constructor
  · intro h i
    cases hi : e.threads[i]? with
    | none => rfl
    | some thread => exact h thread (List.mem_of_getElem? hi)
  · intro h thread hthread
    obtain ⟨i, hi⟩ := List.getElem?_of_mem hthread
    have hnone := h i
    rwa [hi] at hnone

theorem courseAt_construct {o : ConstructorOptions} {registry : InboundTransferRegistry}
    {readyState : ReadyState} (h : construct o registry readyState = .ok e) (i : ℕ) :
    e.courseAt i = none := by
  obtain ⟨options, stream, registry', _, _, hcases⟩ := construct_cases h
  rcases hcases with ⟨_, rfl⟩ | ⟨_, rfl⟩
  · rfl
  · let e₀ := initial options o.accepted stream registry' readyState
    have hadded : e₀.onOpen.courseAt i = e₀.start.1.courseAt i := courseAt_addThread _ rfl i
    rw [hadded, courseAt, (serves_start e₀).threads]
    rfl

/-- The owner of the engine calls `sendFile` at most once, with a file that has this content. -/
def Reads (content : Bytes) (e : Engine) : EngineEvent → Prop
  | .sliced i (some chunk) => e.ReadsSlice content i chunk
  | .sendFile file _ => e.NoCourse ∧ file.size = content.length
  | _ => True

instance (content : Bytes) (e : Engine) : ∀ event, Decidable (e.Reads content event)
  | .sliced i (some chunk) => (inferInstance : Decidable (e.ReadsSlice content i chunk))
  | .sendFile file _ => (inferInstance : Decidable (e.NoCourse ∧ file.size = content.length))
  | .start | .accept | .reject _ | .close | .message _ | .opened | .closing | .closed | .errored
  | .drained _
  | .bufferedAmountLow | .encrypted .. | .capacity _ | .transmit _ | .resume _ | .signed ..
  | .sliced _ none
  | .dequeue | .bytesRead _ | .decrypted _ | .handle | .imported | .verified | .resumeHandler
  | .caught =>
    .isTrue trivial

/-- The bounds that `sendFile` and the constructor check. -/
theorem size_le_of_checkSendFile {file : SourceFile} (h : e.checkSendFile file = .ok ()) :
    file.size ≤ maxTransferBytes := by
  simp only [checkSendFile, bind_eq_ok, throwIf_eq_ok] at h
  obtain ⟨_, _, _, _, _, hsize, _⟩ := h
  exact not_lt.1 hsize

theorem chunkSize_bounds {o : ConstructorOptions} {options : EngineOptions}
    (h : checkOptions o = .ok options) :
    0 < options.chunkSize ∧ options.chunkSize ≤ maxChunkSize := by
  simp only [checkOptions, resolveChunkSize, bind_eq_ok, pure_eq_ok, throwIf_eq_ok] at h
  obtain ⟨_, _, _, _, _, _, _, _, chunkSize, ⟨_, _, _, hbounds, rfl⟩, _, _, rfl⟩ := h
  dsimp only
  omega

end Engine

namespace Side

variable {runtime : Runtime} {s t : Side} {event : EngineEvent} {content : Bytes}

/-- The frames of the file among those that were passed to `encrypt`. -/
def carried (s : Side) : List (FrameType × Bytes) := s.sealed.filter fun f => f.1.carries

/-- A frame that is passed to `sendFrame` is passed to `encrypt`, or the call throws at once. -/
theorem sealed_passes (h : t.encryptions = s.encryptions ++ s.engine.newCalls t.engine)
    {frame : Option (FrameType × Bytes)} (hpasses : Engine.Passes s.engine t.engine frame) :
    t.sealed = s.sealed ∧
      (∀ f ∈ frame, ∃ error,
        t.engine.sends[s.engine.sends.length]? = some (.settled (.error error))) ∨
    ∃ f, frame = some f ∧ t.sealed = s.sealed ++ [f] := by
  unfold sealed
  rw [h, List.map_append]
  rcases hpasses.newCalls_cases with ⟨hnil, hthrown⟩ | ⟨type, body, call, rfl, hnew, _, hcreate⟩
  · left
    refine ⟨by simp [hnil], fun f hf => ?_⟩
    obtain ⟨error, hsends⟩ := hthrown f hf
    exact ⟨error, by simp [hsends]⟩
  · right
    obtain ⟨_, _, _, _, _, _, rfl⟩ := FrameStream.createFrame_eq_ok.1 hcreate
    exact ⟨(type, body), rfl, by simp [hnew, FrameStream.headerFor]⟩

/-- Only a confirmation is passed to `encrypt` by the constructor. -/
theorem sealed_of {o : ConstructorOptions} {registry : InboundTransferRegistry}
    {readyState : ReadyState}
    {e : Engine} (h : Engine.construct o registry readyState = .ok e) :
    ∀ f ∈ (of e).sealed, f.1 = .confirm := by
  obtain ⟨options, stream, registry', _, _, hcases⟩ := Engine.construct_cases h
  rcases hcases with ⟨_, rfl⟩ | ⟨_, rfl⟩
  · exact List.forall_mem_nil _
  · let e₀ := Engine.initial options o.accepted stream registry' readyState
    obtain ⟨frame, hpasses, hframe⟩ := Engine.PassesApart.start e₀
    have hpasses' : Engine.Passes e₀ e₀.onOpen frame := hpasses.congr rfl rfl rfl rfl rfl
    rcases sealed_passes (s := of e₀) (t := of e₀.onOpen) rfl hpasses' with
      ⟨hsame, _⟩ | ⟨f, rfl, hsealed⟩
    · rw [hsame]
      exact List.forall_mem_nil _
    · rw [hsealed, hframe f rfl]
      exact List.forall_mem_singleton.2 rfl

theorem carried_of {o : ConstructorOptions} {registry : InboundTransferRegistry}
    {readyState : ReadyState}
    {e : Engine} (h : Engine.construct o registry readyState = .ok e) : (of e).carried = [] := by
  refine List.filter_eq_nil_iff.2 fun f hf => ?_
  rw [sealed_of h f hf]
  decide

/-- What was passed to `encrypt` is what the call has passed so far, up to a last frame whose
`sendFrame` threw. -/
def Follows (s : Side) (pc : SendFilePc) (l : List (FrameType × Bytes)) : Prop :=
  s.carried = l ∨ s.carried = l.dropLast ∧
    ∃ send ∈ pc.sends, ∃ error, s.engine.sends[send]? = some (.settled (.error error))

/-- The one call of `sendFile` sends its shipment. -/
structure Sends (unicode : Unicode) (content : Bytes) (s : Side) : Prop where
  chunkSize : 0 < s.engine.options.chunkSize
  chunkSize_le : s.engine.options.chunkSize ≤ maxChunkSize
  idle : s.engine.NoCourse → s.carried = []
  single : ∀ i j, s.engine.courseAt i ≠ none → s.engine.courseAt j ≠ none → i = j
  course : ∀ i file fileName pc, s.engine.courseAt i = some (file, fileName, pc) →
    file.size = content.length ∧
      ∃ l, (s.engine.shipment unicode content file fileName).Script pc l ∧ s.Follows pc l
  /-- A file that is too large is refused at once. -/
  fits : ∀ i file fileName pc, s.engine.courseAt i = some (file, fileName, pc) →
    content.length ≤ maxTransferBytes ∨ (∃ error, pc = .returned (.error error)) ∧ s.carried = []

namespace Sends

variable {unicode : Unicode}

/-- What is carried is as much of the shipment as the call got to. -/
theorem carries (h : s.Sends unicode content) {i : ℕ} {file : SourceFile}
    {fileName : Option JsString}
    {pc : SendFilePc} (hcourse : s.engine.courseAt i = some (file, fileName, pc)) :
    (s.engine.shipment unicode content file fileName).Carries s.carried := by
  obtain ⟨_, l, hscript, hall | ⟨hlast, _⟩⟩ := h.course i file fileName pc hcourse
  · rw [hall]
    exact hscript.carries
  · rw [hlast]
    exact hscript.carries.of_prefix (List.dropLast_prefix l)

/-- No call of `sendFile` goes on, and nothing of the file is sent. -/
theorem quiet (h : s.Sends unicode content) (hstep : s.step runtime event = some t)
    (hcourses : ∀ i, t.engine.courseAt i = s.engine.courseAt i) (hcarried : t.carried = s.carried) :
    t.Sends unicode content := by
  have hengine := step_engine hstep
  have hoptions := (Engine.step_advances hengine).options
  refine ⟨hoptions ▸ h.chunkSize, hoptions ▸ h.chunkSize_le, fun hnone => ?_, fun i j hi hj => ?_,
    fun i file fileName pc hcourse => ?_, fun i file fileName pc hcourse => ?_⟩
  · rw [hcarried]
    exact h.idle (Engine.noCourse_iff.2 fun i =>
      (hcourses i).symm.trans (Engine.noCourse_iff.1 hnone i))
  · exact h.single i j (hcourses i ▸ hi) (hcourses j ▸ hj)
  · rw [hcourses] at hcourse
    obtain ⟨hsize, l, hscript, hfollows⟩ := h.course i file fileName pc hcourse
    refine ⟨hsize, l, Engine.shipment_congr hoptions ▸ hscript, ?_⟩
    unfold Follows
    rw [hcarried]
    rcases hfollows with hall | ⟨hlast, send, hsend, error, hsettled⟩
    · exact .inl hall
    · exact .inr ⟨hlast, send, hsend, error, Engine.settled_step hengine hsettled⟩
  · rw [hcarried]
    exact h.fits i file fileName pc (hcourses i ▸ hcourse)

/-- The step calls `sendFrame` with nothing of the file. -/
theorem carried_apart (hstep : t.encryptions = s.encryptions ++ s.engine.newCalls t.engine)
    (h : Engine.PassesApart s.engine t.engine) : t.carried = s.carried := by
  obtain ⟨frame, hpasses, horigin⟩ := h
  unfold carried
  rcases sealed_passes hstep hpasses with ⟨hsame, _⟩ | ⟨f, rfl, hsealed⟩
  · rw [hsame]
  · have hf := (horigin f rfl).not_carries
    rw [hsealed, List.filter_append]
    simp [hf]

/-- A call of `sendFile` goes on. -/
theorem went (h : s.Sends runtime.unicode content) (hreads : s.engine.Reads content event)
    (hstep : s.step runtime event = some t) {i : ℕ} {file : SourceFile} {fileName : Option JsString}
    {pc pc' : SendFilePc} (hthread : s.engine.threads[i]? = some (.sendFile file fileName pc))
    (hthreads : t.engine.threads = s.engine.threads.set i (.sendFile file fileName pc'))
    (hcourses : Engine.Courses runtime.unicode s.engine event i file fileName pc t.engine pc') :
    t.Sends runtime.unicode content := by
  obtain ⟨frame, hcourse, hpasses⟩ := hcourses
  have hoptions := (Engine.step_advances (step_engine hstep)).options
  have hat : s.engine.courseAt i = some (file, fileName, pc) := by
    rw [Engine.courseAt, hthread]
    rfl
  have hbefore : ∀ j, s.engine.courseAt j ≠ none → j = i := fun j hj =>
    h.single j i hj (by rw [hat]; exact Option.some_ne_none _)
  have hlt : i < s.engine.threads.length := (List.getElem?_eq_some_iff.1 hthread).1
  have hself : t.engine.courseAt i = some (file, fileName, pc') := by
    rw [Engine.courseAt, hthreads, List.getElem?_set_self hlt]
    rfl
  have hother : ∀ j, t.engine.courseAt j ≠ none → j = i := by
    intro j hj
    by_contra hne
    refine hne (hbefore j ?_)
    rwa [Engine.courseAt, hthreads, List.getElem?_set_ne (Ne.symm hne)] at hj
  have hslice : ∀ offset n digest chunk, pc = .reading offset n digest →
    event = .sliced i (some chunk) →
      chunk = sliceOf content offset (min (offset + s.engine.options.chunkSize) file.size) := by
    rintro offset n digest chunk rfl rfl
    have hslice : s.engine.ReadsSlice content i chunk := hreads
    rw [Engine.ReadsSlice, hat] at hslice
    exact hslice
  have hquiet : frame = none → t.carried = s.carried := by
    rintro rfl
    rcases sealed_passes (step_encryptions hstep) hpasses with ⟨hsame, _⟩ | ⟨f, hf, _⟩
    · rw [carried, hsame, carried]
    · cases hf
  obtain ⟨hsize, l, hscript, hfollows⟩ := h.course i file fileName pc hat
  have honly : ∀ {j file' fileName' pc''}, t.engine.courseAt j = some (file', fileName', pc'') →
      file' = file ∧ fileName' = fileName ∧ pc'' = pc' := by
    intro j file' fileName' pc'' hj
    obtain rfl := hother j (by rw [hj]; exact Option.some_ne_none _)
    simpa using hj.symm.trans hself
  refine ⟨hoptions ▸ h.chunkSize, hoptions ▸ h.chunkSize_le, fun hnone => ?_,
    fun j k hj hk => (hother j hj).trans (hother k hk).symm, ?_, ?_⟩
  · rw [Engine.noCourse_iff.1 hnone i] at hself
    cases hself
  · intro j file' fileName' pc'' hj
    obtain ⟨rfl, rfl, rfl⟩ := honly hj
    refine ⟨hsize, ?_⟩
    rw [Engine.shipment_congr hoptions]
    rcases hfollows with hall | ⟨hlast, send, hsend, error, hsettled⟩
    · refine ⟨_, hcourse.script hscript hsize h.chunkSize hslice, ?_⟩
      unfold Follows
      rcases sealed_passes (step_encryptions hstep) hpasses with
        ⟨hsame, hthrown⟩ | ⟨f, rfl, hsealed⟩
      · have hcarried : t.carried = l := by rw [← hall, carried, hsame, carried]
        cases frame with
        | none => exact .inl (by simp [hcarried])
        | some f =>
          obtain ⟨_, _, hsends⟩ := hcourse.carries f rfl
          obtain ⟨error, hsettled⟩ := hthrown f rfl
          exact .inr ⟨by simp [hcarried], _, hsends, error, hsettled⟩
      · obtain ⟨hf, _⟩ := hcourse.carries f rfl
        left
        rw [← hall, carried, hsealed, carried]
        simp [hf]
    · -- the frame before was not sent, so the call throws
      obtain ⟨rfl, hok | ⟨error', rfl⟩⟩ := hcourse.awaited hsend
      · rw [Engine.sendResult, hsettled] at hok
        cases hok
      · refine ⟨t.carried, .threw ?_, .inl rfl⟩
        rw [hquiet rfl, hlast]
        exact hscript.carries.of_prefix (List.dropLast_prefix l)
  · intro j file' fileName' pc'' hj
    obtain ⟨rfl, rfl, rfl⟩ := honly hj
    rcases h.fits i _ _ pc hat with hle | ⟨⟨error, rfl⟩, hnil⟩
    · exact .inl hle
    · obtain ⟨rfl, hthrew⟩ := hcourse.returned
      exact .inr ⟨hthrew, (hquiet rfl).trans hnil⟩

theorem step (h : s.Sends runtime.unicode content) (hterminal : s.engine.TerminalTypes)
    (hreads : s.engine.Reads content event) (hstep : s.step runtime event = some t) :
    t.Sends runtime.unicode content := by
  cases Engine.step_courseStep hterminal (step_engine hstep) with
  | apart hcourses hpasses =>
    exact h.quiet hstep hcourses (carried_apart (step_encryptions hstep) hpasses)
  | moved _ hthreads hlength =>
    refine h.quiet hstep (fun i => by rw [Engine.courseAt, hthreads, Engine.courseAt]) ?_
    rw [carried, sealed, step_encryptions hstep, Engine.newCalls_of_length hlength, List.append_nil]
    rfl
  | @called file fileName pc hevent hpc hthreads hpasses =>
    subst hevent
    obtain ⟨hnone, hsize⟩ : s.engine.NoCourse ∧ file.size = content.length := hreads
    have hcarried : t.carried = [] :=
      (carried_apart (step_encryptions hstep) hpasses).trans (h.idle hnone)
    have hoptions := (Engine.step_advances (step_engine hstep)).options
    have hat : ∀ i, t.engine.courseAt i =
        if i = s.engine.threads.length then some (file, fileName, pc) else none := by
      intro i
      rw [Engine.courseAt, hthreads, List.getElem?_append]
      have hbefore := Engine.noCourse_iff.1 hnone i
      unfold Engine.courseAt at hbefore
      split_ifs with hlt heq heq
      · omega
      · exact hbefore
      · rw [heq, Nat.sub_self]
        rfl
      · rw [List.getElem?_eq_none (by simp; omega)]
        rfl
    refine ⟨hoptions ▸ h.chunkSize, hoptions ▸ h.chunkSize_le, fun _ => hcarried,
      fun i j hi hj => ?_, ?_, ?_⟩
    · rw [hat] at hi hj
      simp only [ne_eq, ite_eq_right_iff, reduceCtorEq, imp_false, not_not] at hi hj
      rw [hi, hj]
    · intro i file' fileName' pc' hcourse
      rw [hat] at hcourse
      split_ifs at hcourse
      cases hcourse
      refine ⟨hsize, [], ?_, .inl hcarried⟩
      rcases hpc with ⟨error, _, rfl⟩ | ⟨_, hwaits⟩
      · exact .threw Shipment.carries_nil
      · exact .waiting hwaits
    · intro i file' fileName' pc' hcourse
      rw [hat] at hcourse
      split_ifs at hcourse
      cases hcourse
      rcases hpc with ⟨error, _, rfl⟩ | ⟨hcheck, _⟩
      · exact .inr ⟨⟨_, rfl⟩, hcarried⟩
      · exact .inl (hsize ▸ Engine.size_le_of_checkSendFile hcheck)
  | went hthread hthreads hcourses => exact h.went hreads hstep hthread hthreads hcourses

theorem of_construct {o : ConstructorOptions} {registry : InboundTransferRegistry}
    {readyState : ReadyState}
    {e : Engine} (h : Engine.construct o registry readyState = .ok e) (unicode : Unicode)
    (content : Bytes) :
    (of e).Sends unicode content := by
  have hnone := Engine.courseAt_construct h
  have hchunk : 0 < e.options.chunkSize ∧ e.options.chunkSize ≤ maxChunkSize := by
    obtain ⟨options, stream, registry', hoptions, _, hcases⟩ := Engine.construct_cases h
    have hchunk := Engine.chunkSize_bounds hoptions
    rcases hcases with ⟨_, rfl⟩ | ⟨_, rfl⟩
    · exact hchunk
    · have hstart :=
        (Engine.serves_start
          (Engine.initial options o.accepted stream registry' readyState)).options
      exact (congrArg EngineOptions.chunkSize hstart).symm ▸ hchunk
  refine ⟨hchunk.1, hchunk.2, fun _ => carried_of h, fun i _ hi => absurd (hnone i) hi,
    fun i _ _ _ hcourse => ?_, fun i _ _ _ hcourse => ?_⟩
  · cases (hnone i).symm.trans hcourse
  · cases (hnone i).symm.trans hcourse

end Sends

/-- A step of an engine whose owner sends one file, with this content. -/
def stepOf (runtime : Runtime) (content : Bytes) (s : Side) (event : EngineEvent) : Option Side :=
  if s.engine.Reads content event then s.step runtime event else none

/-- A sender never sends anything else of a file, and nothing in another order.  In every run in
which the slices that are read are slices of the content, the frames of the file that were passed to
`encrypt` are its signed offer, its manifest, the pieces of its content and its signed completion,
as far as the call of `sendFile` got; when that returned a receipt, all of them were. -/
theorem carried_shipment {o : ConstructorOptions} {registry : InboundTransferRegistry}
    {readyState : ReadyState}
    {e : Engine} {es : List EngineEvent} (h : Engine.construct o registry readyState = .ok e)
    (hrun : Run (Step (stepOf runtime content)) (of e) es t) :
    (t.engine.NoCourse → t.carried = []) ∧
    ∀ i file fileName pc, t.engine.courseAt i = some (file, fileName, pc) →
      let shipment := e.shipment runtime.unicode content file fileName
      shipment.Carries t.carried ∧ ∀ receipt, pc = .returned (.ok receipt) →
        ∃ offer manifest complete, t.carried = shipment.frames offer manifest complete := by
  have hinvariant : t.engine.options = e.options ∧ t.engine.TerminalTypes ∧
      t.Sends runtime.unicode content := by
    refine hrun.invariant (I := fun s => s.engine.options = e.options ∧ s.engine.TerminalTypes ∧
      s.Sends runtime.unicode content)
      ⟨rfl, Engine.terminalTypes_construct h, Sends.of_construct h runtime.unicode content⟩ ?_
    rintro a event b ⟨hoptions, hterminal, hsends⟩ hstep
    obtain ⟨hreads, hstep⟩ := (Option.ite_none_right_eq_some).1 hstep
    have hengine := step_engine hstep
    exact ⟨(Engine.step_advances hengine).options.trans hoptions,
      Engine.terminalTypes_step hterminal hengine,
      hsends.step hterminal hreads hstep⟩
  obtain ⟨hoptions, _, hsends⟩ := hinvariant
  refine ⟨hsends.idle, fun i file fileName pc hcourse => ?_⟩
  have hcarries := hsends.carries hcourse
  obtain ⟨_, l, hscript, hfollows⟩ := hsends.course i file fileName pc hcourse
  rw [Engine.shipment_congr hoptions] at hcarries hscript
  refine ⟨hcarries, ?_⟩
  rintro receipt rfl
  rcases hfollows with hall | ⟨_, send, hsend, _⟩
  · rw [hall]
    cases hscript with
    | confirmed => exact ⟨_, _, _, rfl⟩
    | waiting h | looping h => cases h
  · cases hsend

end Side

/-! ## A sample -/

namespace Engine

/-- The options of a sender that cuts a file into pieces of two bytes. -/
def sampleSender : ConstructorOptions := { sampleOptions .sender with chunkSize := some 2 }

def sampleSignature : Bytes := List.replicate 64 9

/-- A call of `sendFrame` gets through. -/
def sampleSent (send : ℕ) (payload : Bytes) : List EngineEvent :=
  [.drained 0, sampleEncrypted send payload.length, .capacity send, .transmit send]

/-- `sendFile` is called and sends its offer. -/
def sampleOffering : List EngineEvent :=
  [.sendFile sampleFile none, .resume 1, .resume 1, .resume 1, .signed 1 (some sampleSignature)] ++
    sampleSent 1 (samplePayload (signedJson sampleCore.json (encodeBase64Url sampleSignature))) ++
    [.resume 1]

/-- The acceptance arrives, and the rest of the file is sent. -/
def sampleSending : List EngineEvent :=
  sampleReceive .r2s .accept 1 (samplePayload (acceptJson sampleId)) ++ [.handle, .resume 1] ++
  sampleSent 2 (samplePayload sampleManifest.json) ++ [.resume 1, .sliced 1 (some [0x61, 0x62])] ++
  sampleSent 3 [0x61, 0x62] ++ [.resume 1, .sliced 1 (some [0x63])] ++
  sampleSent 4 [0x63] ++ [.resume 1, .signed 1 (some sampleSignature)] ++
  sampleSent 5 (samplePayload (signedJson sampleComplete.json (encodeBase64Url sampleSignature))) ++
  [.resume 1]

/-- The receipt arrives. -/
def sampleReceipt : List EngineEvent :=
  sampleReceive .r2s .receipt 2
    (samplePayload (TransferReceipt.mk sampleId 3 sampleComplete.sha256).json) ++
    [.handle, .resume 1]

end Engine

theorem Side.carried_shipment_sample :
    ∃ e s, Engine.construct Engine.sampleSender ⟨[]⟩ .opened = .ok e ∧
      Run (Step (Side.stepOf Engine.sampleRuntime Engine.sampleContent)) (.of e)
        (Engine.sampleConfirm .r2s ++ Engine.sampleOffering ++ Engine.sampleSending ++
          Engine.sampleReceipt) s ∧
      s.carried.map Prod.fst = [.fileOffer, .manifest, .chunk, .chunk, .complete] ∧
      s.engine.courseAt 1 = some (Engine.sampleFile, none,
        .returned (.ok ⟨Engine.sampleId, 3, Engine.sampleComplete.sha256⟩)) ∧
      let shipment :=
  e.shipment Engine.sampleRuntime.unicode Engine.sampleContent Engine.sampleFile none
      shipment.Carries s.carried ∧
        ∃ offer manifest complete, s.carried = shipment.frames offer manifest complete := by
  have h : Engine.Reaches (Engine.step Engine.sampleRuntime) Engine.sampleSender .opened []
      fun e => ∃ s ∈ exec (stepOf Engine.sampleRuntime Engine.sampleContent) (of e)
        (Engine.sampleConfirm .r2s ++ Engine.sampleOffering ++ Engine.sampleSending ++
          Engine.sampleReceipt),
        s.carried.map Prod.fst = [.fileOffer, .manifest, .chunk, .chunk, .complete] ∧
        s.engine.threads[1]? = some (.sendFile Engine.sampleFile none
          (.returned (.ok ⟨Engine.sampleId, 3, Engine.sampleComplete.sha256⟩))) := by
    decide +kernel
  obtain ⟨e, _, he, hnil, s, hexec, htypes, hthread⟩ := h.exec
  cases hnil
  have hcourse : s.engine.courseAt 1 = some (Engine.sampleFile, none,
      .returned (.ok ⟨Engine.sampleId, 3, Engine.sampleComplete.sha256⟩)) := by
    rw [Engine.courseAt, hthread]
    rfl
  have hrun := Run.of_exec hexec
  obtain ⟨_, hsends⟩ := carried_shipment he hrun
  obtain ⟨hcarries, hall⟩ := hsends 1 _ _ _ hcourse
  exact ⟨e, s, he, hrun, htypes, hcourse, hcarries, hall _ rfl⟩

end SelfRelay
