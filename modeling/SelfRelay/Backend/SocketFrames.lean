import SelfRelay.Backend.ForwardSignaling
import SelfRelay.Backend.TransferService
import SelfRelay.Python.JsonLoads

/-!
# Text frames of a socket

What `_serve_connection` does with one text frame, and when an exception escapes from it.  The
values of a message are hashed, encoded and nested again before their types are known: `FrameSafe`
says of which values the code relies on that, and `serveFrame_ok` that it relies on nothing else.

The manager has a transfer repository, as in `main.py`, and a send on the socket does not fail.
-/

namespace SelfRelay.Backend

open Python

/-! ## `record_connection_mode` -/

/-- `CONNECTION_MODES` -/
def connectionModes : List String := ["direct", "relay"]

/-- `record_connection_mode`, with the tables when the transfer is read. -/
def recordConnectionMode (db : Database) (c : ActiveConnection) (message : PyDict) :
    Except PyError Bool := do
  if !message.keysEq ["type", "v", "transfer_id", "mode"] || !(message.get "v").eqInt 1 then
    return false
  if !(← (message.get "mode").inSet connectionModes) then return false
  match canonicalUuid (message.get "transfer_id") with
  | none => return false
  | some transfer =>
    return (TransferRequestRepository.getById db c.accountId transfer).any (·.involves c.deviceId)

/-! ## `_serve_connection` -/

/-- `MAX_WEBSOCKET_MESSAGE_BYTES` -/
def maxWebsocketMessageBytes : ℕ := 16 * 1024

inductive CloseCode where
  /-- `WEBSOCKET_CLOSE_UNSUPPORTED_DATA`, 1003 -/
  | unsupportedData
  /-- `WEBSOCKET_CLOSE_POLICY`, 1008 -/
  | policy
  /-- `WEBSOCKET_CLOSE_MESSAGE_TOO_LARGE`, 1009 -/
  | messageTooLarge
  deriving DecidableEq, Repr

/-- What a frame leads to, when nothing is raised. -/
inductive FrameResult where
  | handled
  | closed (code : CloseCode)
  deriving DecidableEq, Repr

/-- How deep the scanner and the encoder of the interpreter may go. -/
structure RecursionDepths where
  scanner : ℕ
  encoder : EncoderDepths

/-- What the handlers of a frame read at their awaits. -/
structure FrameReads where
  forward : ForwardReads
  /-- `heartbeat` returns a connection. -/
  refreshed : Bool
  /-- The tables when `record_connection_mode` reads the transfer. -/
  modeDb : Database

/-- The handler of a message. -/
def serveMessage (depths : RecursionDepths) (reads : FrameReads) (c : ActiveConnection)
    (message : PyDict) : Except PyError FrameResult :=
  let type := message.get "type"
  if type.eqStr (py "heartbeat") && message.keysEq ["type"] then
    .ok (if reads.refreshed then .handled else .closed .policy)
  else if type.eqStr (py "ping") && message.keysEq ["type"] then .ok .handled
  else do
    if ← type.inSet signalingMessageTypes then
      match ← forwardSignaling depths.encoder reads.forward c message with
      | some _ => return .handled
      | none => return .closed .policy
    else if type.eqStr (py "connection_mode") then
      if ← recordConnectionMode reads.modeDb c message then return .handled
      else return .closed .policy
    else return .closed .unsupportedData

/-- The body of the loop of `_serve_connection`, after `receive_text`. -/
def serveFrame (depths : RecursionDepths) (reads : FrameReads) (c : ActiveConnection)
    (raw : PyStr) :
    Except PyError FrameResult := do
  if maxWebsocketMessageBytes < (← utf8Length raw) then return .closed .messageTooLarge
  match loads depths.scanner raw with
  | .error .typeError | .error .valueError | .error .unicodeEncodeError =>
    return .closed .unsupportedData
  | .error .recursionError => throw .recursionError
  | .ok (.dict message) => serveMessage depths reads c message
  | .ok _ => return .closed .unsupportedData

/-! ## What the code relies on -/

/-- A text that can be encoded, or another value. -/
def fieldEncodable : PyValue → Bool
  | .str s => encodable s
  | _ => true

/-- A text of one to `limit` bytes. -/
def shortText (limit : ℕ) : PyValue → Bool
  | .str s => s ≠ [] && (s.flatMap utf8Sequence).length ≤ limit
  | _ => false

/-- A text of at most 128 bytes, or nothing. -/
def shortOptional : PyValue → Bool
  | .str s => (s.flatMap utf8Sequence).length ≤ 128
  | .none => true
  | _ => false

/-- The handshake object of a message. -/
structure HandshakeSafe (depth : ℕ) (handshake : PyDict) : Prop where
  signature : fieldEncodable (handshake.get "signature") = true
  /-- When the signature is short and the core is not empty, the whole object is encoded. -/
  whole : shortText 256 (handshake.get "signature") = true →
    ∀ core, handshake.get "core" = .dict core → core ≠ [] →
      (PyValue.dict handshake).nesting ≤ depth ∧ (PyValue.dict handshake).textsEncodable = true

structure CandidateSafe (message : PyDict) : Prop where
  candidate : fieldEncodable (message.get "candidate") = true
  sdpMid : shortText maxSignalingIceCandidateBytes (message.get "candidate") = true →
    fieldEncodable (message.get "sdp_mid") = true
  usernameFragment : shortText maxSignalingIceCandidateBytes (message.get "candidate") = true →
    shortOptional (message.get "sdp_mid") = true →
    fieldEncodable (message.get "username_fragment") = true

/-- The texts that are measured in the body of a message. -/
def BodySafe (depth : ℕ) (message : PyDict) : SignalingType → Prop
  | .sdpOffer | .sdpAnswer =>
    message.keysEq (envelope ++ ["sdp"]) = true → fieldEncodable (message.get "sdp") = true
  | .handshakeOffer | .handshakeAnswer =>
    message.keysEq (envelope ++ ["handshake"]) = true →
      ∀ handshake, message.get "handshake" = .dict handshake →
        PyDict.keysEq handshake ["core", "signature"] = true → HandshakeSafe depth handshake
  | .iceCandidate =>
    message.keysIn (envelope ++ ["candidate", "sdp_mid", "sdp_mline_index", "username_fragment"])
        && message.contains "candidate" →
      CandidateSafe message

/-- The message gets to the queue of a connected peer. -/
def reachesQueue (reads : ForwardReads) (c : ActiveConnection) (message : PyDict)
    (parsed : ParsedSignaling) : Bool :=
  let transfer := TransferRequestRepository.getById reads.db c.accountId parsed.transfer
  (match decideRead c message parsed transfer reads.checkedAt reads.expiryAt with
    | .reject | .clear _ => false
    | .negotiate _ => reads.negotiated && reads.charged
    | .charge _ => reads.charged) &&
  (reads.maps.current c.accountId (parsed.target c.deviceId)).isSome

structure MessageSafe (depths : RecursionDepths) (reads : FrameReads) (c : ActiveConnection)
    (message : PyDict) : Prop where
  type : (message.get "type").hashable = true
  mode : (message.get "type").eqStr (py "connection_mode") = true →
    message.keysEq ["type", "v", "transfer_id", "mode"] = true → (message.get "v").eqInt 1 = true →
    (message.get "mode").hashable = true
  body (parsed : ParsedSignaling) : parseEnvelope message reads.forward.parsedAt = some parsed →
    BodySafe depths.encoder.handshake message parsed.type
  /-- A message that is queued is encoded again. -/
  payload (parsed : ParsedSignaling) : parseEnvelope message reads.forward.parsedAt = some parsed →
    checkBody depths.encoder.handshake message parsed = .ok true →
    reachesQueue reads.forward c message parsed = true →
    (PyValue.dict message).nesting ≤ depths.encoder.payload

/-- The scanner does not exhaust the stack, and the message is safe when the text is one. -/
structure FrameSafe (depths : RecursionDepths) (reads : FrameReads) (c : ActiveConnection)
    (raw : PyStr) : Prop where
  scanner : loads depths.scanner raw ≠ .error .recursionError
  message (message : PyDict) : loads depths.scanner raw = .ok (.dict message) →
    MessageSafe depths reads c message

/-! ## Bodies -/

theorem utf8Length_ok {s : PyStr} : (∃ n, utf8Length s = .ok n) ↔ encodable s = true := by
  unfold utf8Length
  split_ifs with h
  · exact iff_of_true ⟨_, rfl⟩ h
  · exact iff_of_false (by rintro ⟨_, ⟨⟩⟩) h

theorem utf8Length_of_encodable {s : PyStr} (h : encodable s = true) :
    utf8Length s = .ok (s.flatMap utf8Sequence).length :=
  if_pos h

theorem checkDescription_ok {message : PyDict} :
    (∃ b, checkDescription message = .ok b) ↔
      (message.keysEq (envelope ++ ["sdp"]) = true →
        fieldEncodable (message.get "sdp") = true) := by
  unfold checkDescription
  split_ifs with hkeys
  · simp only [hkeys, true_implies]
    split
    · rename_i sdp hsdp
      rw [hsdp, fieldEncodable]
      split_ifs with hempty
      · subst hempty
        exact iff_of_true ⟨_, rfl⟩ rfl
      · exact (bind_ok_iff fun _ => ⟨_, rfl⟩).trans utf8Length_ok
    · rename_i hsdp
      refine iff_of_true ⟨_, rfl⟩ ?_
      unfold fieldEncodable
      split
      · rename_i sdp hstr
        exact (hsdp sdp hstr).elim
      · rfl
  · exact iff_of_true ⟨_, rfl⟩ fun h => (hkeys h).elim

/-- A value that is not a text. -/
theorem fieldEncodable_of_ne {value : PyValue} (h : ∀ s, value ≠ .str s) :
    fieldEncodable value = true := by
  cases value with
  | str s => exact (h s rfl).elim
  | none | bool | int | float | list | dict => rfl

theorem shortText_of_ne (limit : ℕ) {value : PyValue} (h : ∀ s, value ≠ .str s) :
    shortText limit value = false := by
  cases value with
  | str s => exact (h s rfl).elim
  | none | bool | int | float | list | dict => rfl

theorem shortText_str (limit : ℕ) {s : PyStr} (hs : s ≠ []) :
    shortText limit (.str s) = true ↔ ¬ limit < (s.flatMap utf8Sequence).length := by
  simp [shortText, hs]

theorem encodable_of_fieldEncodable {value : PyValue} {s : PyStr} (hvalue : value = .str s)
    (h : fieldEncodable value = true) : encodable s = true := by
  rw [hvalue] at h
  exact h

/-- Measure the text of a value, and go on with a result. -/
theorem measure_ok {depth limit : ℕ} {value : PyValue} {result : Bool}
    (hints : value.intsPrintable = true) :
    (∃ b, (do
      let text ← dumps false depth value
      if limit < (← utf8Length text) then return false
      return result : Except PyError Bool) = .ok b) ↔
      value.nesting ≤ depth ∧ value.textsEncodable = true := by
  have hreturns : Returns (value.nesting ≤ depth) (dumps false depth value) :=
    dumps_returns depth value hints
  by_cases hnesting : value.nesting ≤ depth
  · obtain ⟨text, htext⟩ := hreturns.ok hnesting
    rw [← encodable_dumps value htext, htext]
    simp only [hnesting, true_and, bind, Except.bind]
    by_cases hencodable : encodable text = true
    · rw [utf8Length_of_encodable hencodable]
      refine iff_of_true ?_ hencodable
      dsimp only
      split_ifs
      · exact ⟨_, rfl⟩
      · exact ⟨_, rfl⟩
    · rw [utf8Length, if_neg hencodable]
      exact iff_of_false (by rintro ⟨_, ⟨⟩⟩) hencodable
  · rw [hreturns.error hnesting]
    exact iff_of_false (by rintro ⟨_, ⟨⟩⟩) fun h => hnesting h.1

theorem checkHandshakeObject_ok {depth : ℕ} {handshake : PyDict} {parsed : ParsedSignaling}
    (hints : (PyValue.dict handshake).intsPrintable = true) :
    (∃ b, checkHandshakeObject depth handshake parsed = .ok b) ↔ HandshakeSafe depth handshake := by
  unfold checkHandshakeObject
  split
  · rename_i signature hsignature
    by_cases hempty : signature = []
    · rw [if_pos hempty]
      subst hempty
      refine iff_of_true ⟨_, rfl⟩ ⟨hsignature ▸ rfl, fun hshort => ?_⟩
      rw [hsignature] at hshort
      cases hshort
    rw [if_neg hempty]
    by_cases hencodable : encodable signature = true
    · rw [utf8Length_of_encodable hencodable]
      simp only [bind, Except.bind]
      have hfield : fieldEncodable (handshake.get "signature") = true := by
        rw [hsignature]
        exact hencodable
      split_ifs with hlong
      · refine iff_of_true ⟨_, rfl⟩ ⟨hfield, fun hshort => ?_⟩
        rw [hsignature, shortText_str _ hempty] at hshort
        exact (hshort hlong).elim
      · have hshort : shortText 256 (handshake.get "signature") = true := by
          rw [hsignature, shortText_str _ hempty]
          exact hlong
        split
        · rename_i core hcore
          split_ifs with hnil
          · refine iff_of_true ⟨_, rfl⟩ ⟨hfield, fun _ core' hcore' hne => ?_⟩
            rw [hcore, PyValue.dict.injEq] at hcore'
            subst hcore'
            exact (hne (List.isEmpty_iff.1 hnil)).elim
          · refine (measure_ok hints).trans ⟨fun h => ⟨hfield, fun _ _ _ _ => h⟩, fun h => ?_⟩
            exact h.whole hshort core hcore fun h => hnil (List.isEmpty_iff.2 h)
        · rename_i hne
          exact iff_of_true ⟨_, rfl⟩ ⟨hfield, fun _ core hcore => (hne core hcore).elim⟩
    · rw [utf8Length, if_neg hencodable]
      refine iff_of_false (by rintro ⟨_, ⟨⟩⟩) fun h => ?_
      exact hencodable (encodable_of_fieldEncodable hsignature h.signature)
  · rename_i hne
    refine iff_of_true ⟨_, rfl⟩ ⟨fieldEncodable_of_ne hne, fun hshort => ?_⟩
    rw [shortText_of_ne _ hne] at hshort
    cases hshort

theorem intsPrintable_get {d : PyDict} (h : (PyValue.dict d).intsPrintable = true) (key : String) :
    (d.get key).intsPrintable = true := by
  unfold PyDict.get
  induction d with
  | nil => rfl
  | cons item d ih =>
    obtain ⟨hvalue, hrest⟩ := Bool.and_eq_true_iff.1 h
    rw [List.find?_cons]
    split
    · exact hvalue
    · exact ih hrest

theorem checkHandshake_ok {depth : ℕ} {message : PyDict} {parsed : ParsedSignaling}
    (hints : (PyValue.dict message).intsPrintable = true) :
    (∃ b, checkHandshake depth message parsed = .ok b) ↔
      (message.keysEq (envelope ++ ["handshake"]) = true →
        ∀ handshake, message.get "handshake" = .dict handshake →
          PyDict.keysEq handshake ["core", "signature"] = true →
          HandshakeSafe depth handshake) := by
  unfold checkHandshake
  by_cases hkeys : message.keysEq (envelope ++ ["handshake"]) = true
  · rw [if_pos hkeys]
    simp only [hkeys, true_implies]
    split
    · rename_i handshake hhandshake
      have hprintable := intsPrintable_get hints "handshake"
      rw [hhandshake] at hprintable
      simp only [hhandshake, PyValue.dict.injEq, forall_eq']
      split_ifs with hfields
      · rw [checkHandshakeObject_ok hprintable]
        exact ⟨fun h _ => h, fun h => h hfields⟩
      · exact iff_of_true ⟨_, rfl⟩ fun h => (hfields h).elim
    · rename_i hne
      exact iff_of_true ⟨_, rfl⟩ fun handshake h => (hne handshake h).elim
  · rw [if_neg hkeys]
    exact iff_of_true ⟨_, rfl⟩ fun h => (hkeys h).elim

/-- The check of an optional text raises when it cannot be encoded. -/
theorem checkOptionalText_eq {value : PyValue} :
    checkOptionalText value =
      if fieldEncodable value = true then .ok (shortOptional value) else
        .error .unicodeEncodeError := by
  cases value with
  | str s =>
    rw [checkOptionalText, utf8Length, fieldEncodable]
    split_ifs
    · rfl
    · rfl
  | none | bool | int | float | list | dict => rfl

theorem candidateSafe_of_not_short {message : PyDict}
    (hfield : fieldEncodable (message.get "candidate") = true)
    (hshort : ¬ shortText maxSignalingIceCandidateBytes (message.get "candidate") = true) :
    CandidateSafe message :=
  ⟨hfield, fun h => (hshort h).elim, fun h => (hshort h).elim⟩

theorem checkCandidateFields_ok {message : PyDict} :
    (∃ b, checkCandidateFields message = .ok b) ↔ CandidateSafe message := by
  unfold checkCandidateFields
  split
  · rename_i candidate hcandidate
    by_cases hempty : candidate = []
    · rw [if_pos hempty]
      subst hempty
      refine iff_of_true ⟨_, rfl⟩ (candidateSafe_of_not_short (hcandidate ▸ rfl) ?_)
      rw [hcandidate]
      rintro ⟨⟩
    rw [if_neg hempty]
    by_cases hencodable : encodable candidate = true
    · have hfield : fieldEncodable (message.get "candidate") = true := by
        rw [hcandidate]
        exact hencodable
      have hshort := shortText_str maxSignalingIceCandidateBytes hempty
      rw [← hcandidate] at hshort
      rw [utf8Length_of_encodable hencodable, checkOptionalText_eq, checkOptionalText_eq]
      simp only [bind, Except.bind]
      by_cases hlong : maxSignalingIceCandidateBytes < (candidate.flatMap utf8Sequence).length
      · rw [if_pos hlong]
        exact iff_of_true ⟨_, rfl⟩ (candidateSafe_of_not_short hfield fun h => hshort.1 h hlong)
      rw [if_neg hlong]
      by_cases hmid : fieldEncodable (message.get "sdp_mid") = true
      · rw [if_pos hmid]
        by_cases hoptional : shortOptional (message.get "sdp_mid") = true
        · by_cases huser : fieldEncodable (message.get "username_fragment") = true
          · rw [if_pos huser]
            refine iff_of_true ?_ ⟨hfield, fun _ => hmid, fun _ _ => huser⟩
            dsimp only
            split_ifs
            · exact ⟨_, rfl⟩
            · exact ⟨_, rfl⟩
            · exact ⟨_, rfl⟩
          · rw [if_neg huser, hoptional]
            refine iff_of_false (by rintro ⟨_, ⟨⟩⟩) fun h => ?_
            exact huser (h.usernameFragment (hshort.2 hlong) hoptional)
        · refine iff_of_true ?_ ⟨hfield, fun _ => hmid, fun _ h => (hoptional h).elim⟩
          rw [Bool.not_eq_true] at hoptional
          rw [hoptional]
          exact ⟨_, rfl⟩
      · rw [if_neg hmid]
        exact iff_of_false (by rintro ⟨_, ⟨⟩⟩) fun h => hmid (h.sdpMid (hshort.2 hlong))
    · rw [utf8Length, if_neg hencodable]
      refine iff_of_false (by rintro ⟨_, ⟨⟩⟩) fun h => ?_
      exact hencodable (encodable_of_fieldEncodable hcandidate h.candidate)
  · rename_i hne
    refine iff_of_true ⟨_, rfl⟩ (candidateSafe_of_not_short (fieldEncodable_of_ne hne) ?_)
    rw [shortText_of_ne _ hne]
    rintro ⟨⟩

theorem checkBody_ok {depth : ℕ} {message : PyDict} {parsed : ParsedSignaling}
    (hints : (PyValue.dict message).intsPrintable = true) :
    (∃ b, checkBody depth message parsed = .ok b) ↔ BodySafe depth message parsed.type := by
  cases htype : parsed.type with
  | sdpOffer | sdpAnswer =>
    rw [checkBody, htype]
    exact checkDescription_ok
  | handshakeOffer | handshakeAnswer =>
    rw [checkBody, htype]
    exact checkHandshake_ok hints
  | iceCandidate =>
    rw [checkBody, htype]
    unfold checkCandidate BodySafe
    dsimp only
    split_ifs with hkeys
    · exact checkCandidateFields_ok.trans ⟨fun h _ => h, fun h => h hkeys⟩
    · exact iff_of_true ⟨_, rfl⟩ fun h => (hkeys h).elim

/-! ## Messages -/

theorem payloadBytes_ok {depth : ℕ} {payload : PyDict}
    (hints : (PyValue.dict payload).intsPrintable = true) :
    (∃ n, payloadBytes depth payload = .ok n) ↔ (PyValue.dict payload).nesting ≤ depth := by
  have hreturns : Returns ((PyValue.dict payload).nesting ≤ depth)
      (dumps true depth (.dict payload)) :=
    dumps_returns depth (.dict payload) hints
  unfold payloadBytes
  by_cases hnesting : (PyValue.dict payload).nesting ≤ depth
  · obtain ⟨text, htext⟩ := hreturns.ok hnesting
    rw [htext]
    exact iff_of_true ⟨_, rfl⟩ hnesting
  · rw [hreturns.error hnesting]
    exact iff_of_false (by rintro ⟨_, ⟨⟩⟩) hnesting

section Forward

variable {depths : EncoderDepths} {reads : ForwardReads} {c : ActiveConnection} {message : PyDict}

theorem sendToDevice_ok {account device : Uuid}
    (hints : (PyValue.dict message).intsPrintable = true) :
    (∃ target, sendToDevice depths reads account device message = .ok target) ↔
      ((reads.maps.current account device).isSome = true →
        (PyValue.dict message).nesting ≤ depths.payload) := by
  unfold sendToDevice
  split
  · rename_i hnone
    rw [hnone]
    exact iff_of_true ⟨_, rfl⟩ (by rintro ⟨⟩)
  · rename_i target hcurrent
    rw [hcurrent]
    refine (bind_ok_iff fun _ => ⟨_, rfl⟩).trans ((payloadBytes_ok hints).trans ?_)
    exact ⟨fun h _ => h, fun h => h rfl⟩

/-- The part of `forward_signaling` after the message is parsed. -/
theorem forwardParsed_ok {parsed : ParsedSignaling}
    (hints : (PyValue.dict message).intsPrintable = true) :
    (∃ target, (match decideRead c message parsed
        (TransferRequestRepository.getById reads.db c.accountId parsed.transfer) reads.checkedAt
          reads.expiryAt with
      | .reject | .clear _ => return none
      | .negotiate _ =>
        if reads.negotiated && reads.charged then
          sendToDevice depths reads c.accountId (parsed.target c.deviceId) message
        else return none
      | .charge _ =>
        if reads.charged then
          sendToDevice depths reads c.accountId (parsed.target c.deviceId) message
        else return none : Except PyError (Option ActiveConnection)) = .ok target) ↔
      (reachesQueue reads c message parsed = true →
        (PyValue.dict message).nesting ≤ depths.payload) := by
  unfold reachesQueue
  dsimp only
  split
  · exact iff_of_true ⟨_, rfl⟩ (by rintro ⟨⟩)
  · exact iff_of_true ⟨_, rfl⟩ (by rintro ⟨⟩)
  · split_ifs with hcharged
    · rw [sendToDevice_ok hints, hcharged, Bool.true_and]
    · rw [Bool.not_eq_true] at hcharged
      rw [hcharged]
      exact iff_of_true ⟨_, rfl⟩ (by rintro ⟨⟩)
  · split_ifs with hcharged
    · rw [sendToDevice_ok hints, hcharged, Bool.true_and]
    · rw [Bool.not_eq_true] at hcharged
      rw [hcharged]
      exact iff_of_true ⟨_, rfl⟩ (by rintro ⟨⟩)

theorem forwardSignaling_ok (hints : (PyValue.dict message).intsPrintable = true)
    (htype : (message.get "type").inSet signalingMessageTypes = .ok true) :
    (∃ target, forwardSignaling depths reads c message = .ok target) ↔
      ∀ parsed, parseEnvelope message reads.parsedAt = some parsed →
        BodySafe depths.handshake message parsed.type ∧
        (checkBody depths.handshake message parsed = .ok true →
          reachesQueue reads c message parsed = true →
          (PyValue.dict message).nesting ≤ depths.payload) := by
  unfold forwardSignaling parseSignalingMessage
  rw [htype]
  cases henvelope : parseEnvelope message reads.parsedAt with
  | none => exact iff_of_true ⟨_, rfl⟩ (by rintro _ ⟨⟩)
  | some parsed =>
    simp only [Option.some.injEq, forall_eq']
    rw [← checkBody_ok hints]
    cases hbody : checkBody depths.handshake message parsed with
    | error e => exact iff_of_false (by rintro ⟨_, ⟨⟩⟩) (by rintro ⟨⟨_, ⟨⟩⟩, _⟩)
    | ok valid =>
      cases valid with
      | false => exact iff_of_true ⟨_, rfl⟩ ⟨⟨_, rfl⟩, by rintro ⟨⟩⟩
      | true =>
        refine (forwardParsed_ok hints).trans ⟨fun h => ⟨⟨_, rfl⟩, fun _ => h⟩, fun h => h.2 rfl⟩

end Forward

theorem recordConnectionMode_ok {db : Database} {c : ActiveConnection} {message : PyDict} :
    (∃ b, recordConnectionMode db c message = .ok b) ↔
      (message.keysEq ["type", "v", "transfer_id", "mode"] = true →
        (message.get "v").eqInt 1 = true → (message.get "mode").hashable = true) := by
  unfold recordConnectionMode
  by_cases henvelope : (!message.keysEq ["type", "v", "transfer_id", "mode"] ||
      !(message.get "v").eqInt 1) = true
  · rw [if_pos henvelope]
    refine iff_of_true ⟨_, rfl⟩ fun hkeys hversion => ?_
    rw [hkeys, hversion] at henvelope
    cases henvelope
  · rw [if_neg henvelope]
    simp only [Bool.or_eq_true, Bool.not_eq_true', not_or, Bool.not_eq_false] at henvelope
    by_cases hmode : (message.get "mode").hashable = true
    · refine iff_of_true ?_ fun _ _ => hmode
      rw [PyValue.inSet_of_hashable _ hmode]
      simp only [bind, Except.bind]
      split_ifs
      · exact ⟨_, rfl⟩
      · split
        · exact ⟨_, rfl⟩
        · exact ⟨_, rfl⟩
    · rw [PyValue.inSet_of_not_hashable _ hmode]
      exact iff_of_false (by rintro ⟨_, ⟨⟩⟩) fun h => hmode (h henvelope.1 henvelope.2)

/-- A message with an envelope is one of the signaling types. -/
theorem parseEnvelope_type {message : PyDict} {now : Timestamp} {parsed : ParsedSignaling}
    (h : parseEnvelope message now = some parsed) :
    ∃ type : SignalingType, message.get "type" = .str (py type.name) := by
  obtain ⟨type, htype, -⟩ := Option.bind_eq_some_iff.1 h
  exact ⟨type, SignalingType.ofValue_eq_some htype⟩

section Serve

variable {depths : RecursionDepths} {reads : FrameReads} {c : ActiveConnection} {message : PyDict}

/-- A text that is neither a signaling type nor the connection mode is safe. -/
theorem messageSafe_of_other {text : PyStr} (htype : message.get "type" = .str text)
    (hmode : text ≠ py "connection_mode") (hother : ∀ type : SignalingType, text ≠ py type.name) :
    MessageSafe depths reads c message := by
  have hnone (parsed : ParsedSignaling) :
      parseEnvelope message reads.forward.parsedAt ≠ some parsed := by
    intro h
    obtain ⟨type, hname⟩ := parseEnvelope_type h
    rw [htype, PyValue.str.injEq] at hname
    exact hother type hname
  refine ⟨htype ▸ rfl, fun h => ?_, fun parsed h => (hnone parsed h).elim,
    fun parsed h => (hnone parsed h).elim⟩
  have heq := PyValue.eqStr_eq_true h
  rw [htype, PyValue.str.injEq] at heq
  exact (hmode heq).elim

theorem name_ne_connection_mode (type : SignalingType) : py type.name ≠ py "connection_mode" := by
  cases type <;> decide

theorem signaling_of_any
    (h : (signalingMessageTypes.any fun name => (message.get "type").eqStr (py name)) = true) :
    ∃ type : SignalingType, message.get "type" = .str (py type.name) := by
  obtain ⟨name, hname, heq⟩ := List.any_eq_true.1 h
  obtain ⟨type, -, rfl⟩ := List.mem_map.1 hname
  exact ⟨type, PyValue.eqStr_eq_true heq⟩

theorem any_of_signaling {type : SignalingType} (h : message.get "type" = .str (py type.name)) :
    (signalingMessageTypes.any fun name => (message.get "type").eqStr (py name)) = true := by
  rw [h]
  cases type <;> decide

theorem serveMessage_ok (hints : (PyValue.dict message).intsPrintable = true) :
    (∃ result, serveMessage depths reads c message = .ok result) ↔
      MessageSafe depths reads c message := by
  unfold serveMessage
  dsimp only
  by_cases hheartbeat : ((message.get "type").eqStr (py "heartbeat") &&
      message.keysEq ["type"]) = true
  · rw [if_pos hheartbeat]
    have htype := PyValue.eqStr_eq_true (Bool.and_eq_true_iff.1 hheartbeat).1
    refine iff_of_true ⟨_, rfl⟩ (messageSafe_of_other htype (by decide) fun type => ?_)
    cases type <;> decide
  rw [if_neg hheartbeat]
  by_cases hping : ((message.get "type").eqStr (py "ping") && message.keysEq ["type"]) = true
  · rw [if_pos hping]
    have htype := PyValue.eqStr_eq_true (Bool.and_eq_true_iff.1 hping).1
    refine iff_of_true ⟨_, rfl⟩ (messageSafe_of_other htype (by decide) fun type => ?_)
    cases type <;> decide
  rw [if_neg hping]
  by_cases hhash : (message.get "type").hashable = true
  · have hset := PyValue.inSet_of_hashable signalingMessageTypes hhash
    cases hany : signalingMessageTypes.any fun name => (message.get "type").eqStr (py name) with
    | true =>
      rw [hany] at hset
      obtain ⟨type, htype⟩ := signaling_of_any hany
      have hmode : ¬ (message.get "type").eqStr (py "connection_mode") = true := by
        intro h
        have heq := PyValue.eqStr_eq_true h
        rw [htype, PyValue.str.injEq] at heq
        exact name_ne_connection_mode type heq
      rw [hset, Python.ok_bind, if_pos rfl]
      refine (bind_ok_iff fun target => ?_).trans ((forwardSignaling_ok hints hset).trans ?_)
      · cases target with
        | none => exact ⟨_, rfl⟩
        | some target => exact ⟨_, rfl⟩
      · exact ⟨fun h => ⟨hhash, fun hm => (hmode hm).elim, fun parsed hp => (h parsed hp).1,
          fun parsed hp => (h parsed hp).2⟩, fun h parsed hp => ⟨h.body parsed hp,
          h.payload parsed hp⟩⟩
    | false =>
      rw [hany] at hset
      have hnone (parsed : ParsedSignaling) :
          parseEnvelope message reads.forward.parsedAt ≠ some parsed := by
        intro h
        obtain ⟨type, htype⟩ := parseEnvelope_type h
        rw [any_of_signaling htype] at hany
        cases hany
      rw [hset, Python.ok_bind, if_neg Bool.false_ne_true]
      split_ifs with hmode
      · refine (bind_ok_iff fun b => ?_).trans (recordConnectionMode_ok.trans ?_)
        · cases b with
          | false => exact ⟨_, rfl⟩
          | true => exact ⟨_, rfl⟩
        · exact ⟨fun h => ⟨hhash, fun _ => h, fun parsed hp => (hnone parsed hp).elim,
            fun parsed hp => (hnone parsed hp).elim⟩, fun h => h.mode hmode⟩
      · exact iff_of_true ⟨_, rfl⟩ ⟨hhash, fun hm => (hmode hm).elim,
          fun parsed hp => (hnone parsed hp).elim, fun parsed hp => (hnone parsed hp).elim⟩
  · rw [PyValue.inSet_of_not_hashable _ hhash]
    exact iff_of_false (by rintro ⟨_, ⟨⟩⟩) fun h => hhash h.type

end Serve

/-! ## Frames -/

/-- A text frame of at most 16 KiB is handled or closes the socket exactly when it is safe. -/
theorem serveFrame_returns_iff_frameSafe (depths : RecursionDepths) (reads : FrameReads)
    (c : ActiveConnection) (raw : PyStr) (htext : encodable raw = true)
    (hsize : (raw.flatMap utf8Sequence).length ≤ maxWebsocketMessageBytes) :
    (∃ result, serveFrame depths reads c raw = .ok result) ↔ FrameSafe depths reads c raw := by
  unfold serveFrame
  rw [utf8Length_of_encodable htext, Python.ok_bind, if_neg hsize.not_gt]
  cases hloads : loads depths.scanner raw with
  | error e =>
    by_cases hrecursion : e = .recursionError
    · subst hrecursion
      exact iff_of_false (by rintro ⟨_, ⟨⟩⟩) fun h => h.scanner hloads
    · refine iff_of_true ?_ ⟨?_, fun message h => ?_⟩
      · cases e with
        | recursionError => exact (hrecursion rfl).elim
        | typeError | valueError | unicodeEncodeError => exact ⟨_, rfl⟩
      · rw [hloads]
        exact fun h => hrecursion (Except.error.inj h)
      · rw [hloads] at h
        cases h
  | ok value =>
    have hscanner : loads depths.scanner raw ≠ .error .recursionError := by
      rw [hloads]
      rintro ⟨⟩
    cases value with
    | dict message =>
      refine (serveMessage_ok (loads_intsPrintable hloads)).trans ⟨fun h => ⟨hscanner, ?_⟩,
        fun h => ?_⟩
      · intro message' h'
        rw [hloads] at h'
        obtain rfl := PyValue.dict.inj (Except.ok.inj h')
        exact h
      · exact h.message message hloads
    | none | bool | int | float | str | list =>
      refine iff_of_true ⟨_, rfl⟩ ⟨hscanner, fun message h => ?_⟩
      rw [hloads] at h
      cases h

/-- A server without connections or transfers. -/
def idleReads : FrameReads where
  forward := {
    parsedAt := 0
    checkedAt := 0
    expiryAt := 0
    db := ⟨[], [], [], []⟩
    negotiated := false
    charged := true
    maps := .empty
    queueMaps := .empty }
  refreshed := true
  modeDb := ⟨[], [], [], []⟩

theorem serveFrame_ping_safe :
    FrameSafe ⟨1000, ⟨1000, 1000⟩⟩ idleReads ⟨⟨20⟩, ⟨1⟩, ⟨2⟩, 0⟩
      (py "\x7b\"type\":\"ping\"\x7d") := by
  refine (serveFrame_returns_iff_frameSafe _ _ _ _ (by decide +kernel) (by decide +kernel)).1
    ⟨.handled, ?_⟩
  decide +kernel

/-- The type of a message is hashed before it is known to be a text. -/
theorem serveFrame_unhashable_type_raises :
    ¬ ∃ result, serveFrame ⟨1000, ⟨1000, 1000⟩⟩ idleReads ⟨⟨20⟩, ⟨1⟩, ⟨2⟩, 0⟩
      (py "\x7b\"type\":[]\x7d") = .ok result := by
  have hraises : serveFrame ⟨1000, ⟨1000, 1000⟩⟩ idleReads ⟨⟨20⟩, ⟨1⟩, ⟨2⟩, 0⟩
      (py "\x7b\"type\":[]\x7d") = .error .typeError := by
    decide +kernel
  rw [hraises]
  rintro ⟨_, ⟨⟩⟩

end SelfRelay.Backend
