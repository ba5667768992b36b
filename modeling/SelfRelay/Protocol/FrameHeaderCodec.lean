import SelfRelay.Js.Number
import SelfRelay.Protocol.Frame

/-!
# The frame header, written and read

The header that a caller passes to `encodeFrameHeader` has numbers where the parsed one has
integers, and its counter may be a bigint (`FrameHeaderInput`).  What is written is read back as the
same header.  The other way round `parseFrameHeader` takes sixteen bytes that no UUID has for an
identifier, which `encodeFrameHeader` then refuses (`frameHeader_codec`).
-/

namespace SelfRelay

/-- `bigint | number` -/
inductive CounterInput where
  | bigint (value : ℤ)
  | number (value : JsNumber)
  deriving DecidableEq, Repr

/-- `FrameHeader`, as a typed caller gives it.  The test `value in FRAME_TYPE_TO_CODE` would also
let the name of an inherited property pass, such as `toString`, which is not a `FrameType`. -/
structure FrameHeaderInput where
  v : JsNumber
  transferId : JsString
  direction : FrameDirection
  type : FrameType
  counter : CounterInput
  plaintextLength : JsNumber
  deriving DecidableEq, Repr

namespace FrameHeaderInput

/-- The integer that a safe integer denotes. -/
def integer? (value : JsNumber) : Option ℤ :=
  if value.isSafeInteger then value.value?.map Rat.num else none

/-- The bigint that `requireFrameCounter` reads. -/
def counterInteger : CounterInput → Checked ℤ
  | .bigint value => .ok value
  | .number value =>
    match integer? value with
    | some value => .ok value
    | none => .error (protocolError "Frame counter is invalid." "invalid_counter")

/-- `requireFrameCounter` -/
def requireCounter (value : CounterInput) : Checked ℕ := do
  let counter ← counterInteger value
  throwIf (counter < 0 ∨ counter > maxFrameCounter)
    (protocolError "Frame counter is outside the uint64 range." "invalid_counter")
  return counter.toNat

/-- `requireFrameLength` -/
def requireLength (value : JsNumber) : Checked ℕ :=
  let error := protocolError "Frame plaintext length is invalid." "invalid_length"
  match integer? value with
  | some value => do
    throwIf (value < 0 ∨ value > maxFramePlaintextBytes) error
    return value.toNat
  | none => .error error

/-- `encodeFrameHeader` -/
def encode (header : FrameHeaderInput) : Checked Bytes := do
  throwIf (header.v.strictEq (.ofNat transferProtocolVersion) = false)
    (protocolError "Frame version is unsupported." "unsupported_version")
  let transferId ← requireUuid header.transferId "transfer_id"
  let counter ← requireCounter header.counter
  let plaintextLength ← requireLength header.plaintextLength
  validateFrameTypeDirection header.direction header.type
  let id ← uuidToBytes transferId
  return UInt8.ofNat transferProtocolVersion :: (id ++
    header.direction.code :: header.type.code ::
      (BigEndian.encode 8 counter ++ BigEndian.encode 4 plaintextLength))

/-- A counter and the bigint that it is. -/
inductive IsCounter : CounterInput → ℕ → Prop where
  | bigint (n : ℕ) : IsCounter (.bigint n) n
  | number {value : JsNumber} {n : ℕ} : value.value? = some (n : ℚ) → IsCounter (.number value) n

/-- The header is the parsed one, field by field, its counter as a bigint. -/
structure Is (input : FrameHeaderInput) (header : FrameHeader) : Prop where
  version : input.v.strictEq (.ofNat header.v) = true
  transferId : input.transferId = header.transferId
  direction : input.direction = header.direction
  type : input.type = header.type
  counter : IsCounter input.counter header.counter
  plaintextLength : input.plaintextLength.strictEq (.ofNat header.plaintextLength) = true

/-- A parsed header, given to `encodeFrameHeader` as `decryptFrame` does. -/
def ofHeader (header : FrameHeader) : FrameHeaderInput where
  v := .ofNat header.v
  transferId := header.transferId
  direction := header.direction
  type := header.type
  counter := .bigint header.counter
  plaintextLength := .ofNat header.plaintextLength

theorem integer?_eq_some {value : JsNumber} {n : ℤ} (h : integer? value = some n) :
    value.value? = some (n : ℚ) := by
  unfold integer? at h
  split_ifs at h with hsafe
  obtain ⟨q, hq, rfl⟩ := Option.map_eq_some_iff.1 h
  simp only [JsNumber.isSafeInteger, hq, Bool.and_eq_true, decide_eq_true_eq] at hsafe
  rw [hq, Rat.coe_int_num_of_den_eq_one hsafe.1]

theorem requireCounter_eq_ok {value : CounterInput} {n : ℕ} (h : requireCounter value = .ok n) :
    IsCounter value n ∧ n ≤ maxFrameCounter := by
  simp only [requireCounter, bind_eq_ok, throwIf_eq_ok, pure_eq_ok, not_or, not_lt] at h
  obtain ⟨counter, hcounter, -, ⟨hpos, hle⟩, rfl⟩ := h
  refine ⟨?_, by omega⟩
  cases value with
  | bigint value =>
    cases hcounter
    obtain ⟨m, rfl⟩ := Int.eq_ofNat_of_zero_le hpos
    exact .bigint m
  | number value =>
    simp only [counterInteger] at hcounter
    cases hinteger : integer? value with
    | none =>
      rw [hinteger] at hcounter
      cases hcounter
    | some m =>
      rw [hinteger] at hcounter
      cases hcounter
      obtain ⟨m, rfl⟩ := Int.eq_ofNat_of_zero_le hpos
      exact .number (integer?_eq_some hinteger)

theorem requireLength_eq_ok {value : JsNumber} {n : ℕ} (h : requireLength value = .ok n) :
    value.strictEq (.ofNat n) = true ∧ n ≤ maxFramePlaintextBytes := by
  unfold requireLength at h
  dsimp only at h
  split at h
  · rename_i m hm
    simp only [bind_eq_ok, throwIf_eq_ok, pure_eq_ok, not_or, not_lt] at h
    obtain ⟨-, ⟨hpos, hle⟩, rfl⟩ := h
    obtain ⟨m, rfl⟩ := Int.eq_ofNat_of_zero_le hpos
    have hvalue := integer?_eq_some hm
    refine ⟨?_, by omega⟩
    cases value with
    | finite q =>
      have hq : q = m := by simpa [JsNumber.value?] using hvalue
      simp [JsNumber.strictEq, JsNumber.value?, JsNumber.ofNat, hq]
    | negZero =>
      have hq : (0 : ℚ) = m := by simpa [JsNumber.value?] using hvalue
      simp [JsNumber.strictEq, JsNumber.value?, JsNumber.ofNat, ← hq]
    | infinity => cases hvalue
    | nan => cases hvalue
  · cases h

/-- What is written are the bytes of the header that the input is. -/
theorem encode_eq_ok {input : FrameHeaderInput} {bytes : Bytes} (h : input.encode = .ok bytes) :
    ∃ header : FrameHeader, input.Is header ∧ header.Valid ∧ bytes = header.bytes := by
  simp only [encode, bind_eq_ok, throwIf_eq_ok, pure_eq_ok, Bool.not_eq_false, requireUuid,
    uuidToBytes,
    validateFrameTypeDirection_eq_ok] at h
  obtain ⟨-, hversion, _, ⟨-, huuid, rfl⟩, counter, hcounter, length, hlength, -, htravels, _,
    ⟨-, -, rfl⟩,
    rfl⟩ := h
  obtain ⟨hcounter, hcounterLe⟩ := requireCounter_eq_ok hcounter
  obtain ⟨hlength, hlengthLe⟩ := requireLength_eq_ok hlength
  refine ⟨⟨transferProtocolVersion, input.transferId, input.direction, input.type, counter, length⟩,
    ⟨hversion, rfl, rfl, rfl, hcounter, hlength⟩,
    ⟨rfl, huuid, hcounterLe, hlengthLe, htravels⟩, rfl⟩

theorem integer?_ofNat (n : ℕ) :
    integer? (.ofNat n) = if n ≤ JsNumber.maxSafeInteger then some (n : ℤ) else none := by
  by_cases hsafe : n ≤ JsNumber.maxSafeInteger
  · simp [integer?, JsNumber.isSafeInteger, JsNumber.ofNat, JsNumber.value?, hsafe]
  · simp [integer?, JsNumber.isSafeInteger, JsNumber.ofNat, JsNumber.value?, hsafe]

theorem strictEq_ofNat (m n : ℕ) : (JsNumber.ofNat m).strictEq (.ofNat n) = true ↔ m = n := by
  simp [JsNumber.strictEq, JsNumber.ofNat, JsNumber.value?]

theorem requireLength_ofNat (n : ℕ) : requireLength (.ofNat n) = requireFrameLength n := by
  rw [requireLength, integer?_ofNat, requireFrameLength]
  by_cases hsafe : n ≤ JsNumber.maxSafeInteger
  · have hneg : ¬ (n : ℤ) < 0 := by omega
    rw [if_pos hsafe]
    simp [hneg]
  · have hlong : n > maxFramePlaintextBytes :=
      lt_of_le_of_lt (by decide) (not_le.1 hsafe)
    rw [if_neg hsafe, throwIf, if_pos hlong]
    rfl

/-- On a parsed header the two readings of `encodeFrameHeader` agree. -/
theorem encode_ofHeader (header : FrameHeader) :
    (ofHeader header).encode = encodeFrameHeader header := by
  have hcounter : requireCounter (.bigint header.counter) = requireFrameCounter header.counter := by
    have hneg : ¬ (header.counter : ℤ) < 0 := by omega
    simp only [requireCounter, counterInteger, requireFrameCounter, ok_bind, hneg,
      false_or, gt_iff_lt,
      Nat.cast_lt, Int.toNat_natCast]
  have hversion : ((JsNumber.ofNat header.v).strictEq (.ofNat transferProtocolVersion) = false) ↔
      header.v ≠ transferProtocolVersion := by
    rw [← Bool.not_eq_true, strictEq_ofNat]
  simp only [encode, ofHeader, encodeFrameHeader, hcounter, requireLength_ofNat, hversion]

end FrameHeaderInput

/-! ## Identifiers -/

/-- The version and variant digits of a UUID. -/
def VersionedId (id : Bytes) : Prop :=
  (1 ≤ (id.getD 6 0).toNat / 16 ∧ (id.getD 6 0).toNat / 16 ≤ 5) ∧
    8 ≤ (id.getD 8 0).toNat / 16 ∧ (id.getD 8 0).toNat / 16 ≤ 11

instance (id : Bytes) : Decidable (VersionedId id) := inferInstanceAs (Decidable (_ ∧ _))

theorem isLowerHex_hexDigit : ∀ n < 16, isLowerHex (hexDigit n) = true := by decide

theorem hexValue_hexDigit : ∀ n < 16, hexValue (hexDigit n) = n := by decide

theorem version_hexDigit : ∀ n < 16, UuidClass.version.test (hexDigit n) = true ↔ 1 ≤ n ∧
    n ≤ 5 := by decide

theorem variant_hexDigit : ∀ n < 16, UuidClass.variant.test (hexDigit n) = true ↔ 8 ≤ n ∧
    n ≤ 11 := by decide

theorem hexToBytes_bytesToHex (bytes : Bytes) : hexToBytes (bytesToHex bytes) = bytes := by
  induction bytes with
  | nil => rfl
  | cons b bytes ih =>
    have hlt := b.toNat_lt
    have hb : 16 * hexValue (hexDigit (b.toNat / 16)) + hexValue (hexDigit (b.toNat % 16)) =
        b.toNat := by
      rw [hexValue_hexDigit _ (by omega), hexValue_hexDigit _ (by omega)]
      omega
    show UInt8.ofNat _ :: hexToBytes (bytesToHex bytes) = _
    rw [ih, hb, UInt8.ofNat_toNat]

theorem isLowerHex_bytesToHex (bytes : Bytes) : ∀ c ∈ bytesToHex bytes, isLowerHex c = true := by
  intro c hc
  obtain ⟨b, -, hc⟩ := List.mem_flatMap.1 hc
  have hlt := b.toNat_lt
  simp only [List.mem_cons, List.not_mem_nil, or_false] at hc
  rcases hc with rfl | rfl
  · exact isLowerHex_hexDigit _ (by omega)
  · exact isLowerHex_hexDigit _ (by omega)

/-- The hyphens set between the groups are the only ones. -/
theorem filter_dash_hyphenate {hex : JsString} (h : ∀ c ∈ hex, isLowerHex c = true) :
    (hyphenate hex).filter (· ≠ dash) = hex := by
  have htake (n m : ℕ) : ((hex.drop n).take m).filter (· ≠ dash) = (hex.drop n).take m :=
    filter_dash_of_hex fun c hc => h c (List.mem_of_mem_drop (List.mem_of_mem_take hc))
  have hjoin (n m : ℕ) : (hex.drop n).take m ++ hex.drop (n + m) = hex.drop n := by
    rw [← List.drop_drop, List.take_append_drop]
  have hfirst := htake 0 8
  have hlast : (hex.drop 20).filter (· ≠ dash) = hex.drop 20 :=
    filter_dash_of_hex fun c hc => h c (List.mem_of_mem_drop hc)
  rw [List.drop_zero] at hfirst
  simp only [hyphenate, List.filter_append, List.filter_cons, ne_eq, not_true_eq_false,
    decide_false,
    Bool.false_eq_true, if_false] at hfirst htake hlast ⊢
  rw [hfirst, htake, htake, htake, hlast, hjoin 16 4, hjoin 12 4, hjoin 8 4, List.take_append_drop]

theorem uuidBytes_hyphenate (bytes : Bytes) : uuidBytes (hyphenate (bytesToHex bytes)) = bytes := by
  rw [uuidBytes, filter_dash_hyphenate (isLowerHex_bytesToHex bytes), hexToBytes_bytesToHex]

theorem isUuid_hyphenate {bytes : Bytes} (h : bytes.length = 16) :
    isUuid (hyphenate (bytesToHex bytes)) = true ↔ VersionedId bytes := by
  have hhigh (b : UInt8) : b.toNat / 16 < 16 := by
    have := b.toNat_lt
    omega
  have hlow (b : UInt8) : b.toNat % 16 < 16 := Nat.mod_lt _ (by decide)
  match bytes, h with
  | [b0, b1, b2, b3, b4, b5, b6, b7, b8, b9, b10, b11, b12, b13, b14, b15], _ =>
    have hversion := version_hexDigit _ (hhigh b6)
    have hvariant := variant_hexDigit _ (hhigh b8)
    have hpattern : uuidPattern = [.hex, .hex, .hex, .hex, .hex, .hex, .hex, .hex, .dash,
      .hex, .hex, .hex, .hex, .dash, .version, .hex, .hex, .hex, .dash,
      .variant, .hex, .hex, .hex, .dash, .hex, .hex, .hex, .hex, .hex, .hex, .hex, .hex, .hex,
      .hex, .hex, .hex] := by decide
    have hhex : ∀ n < 16, UuidClass.hex.test (hexDigit n) = true := isLowerHex_hexDigit
    have hdash : UuidClass.dash.test dash = true := by decide
    rw [isUuid, hpattern]
    simp [hyphenate, bytesToHex, UuidClass.testAll, hhex, hhigh, hlow, hdash, hversion, hvariant,
      VersionedId]

/-! ## The codec -/

theorem slice_append_drop (bytes : Bytes) {i j : ℕ} (h : i ≤ j) :
    slice bytes i j ++ bytes.drop j = bytes.drop i := by
  rw [slice, List.drop_take]
  nth_rewrite 2 [show j = i + (j - i) by omega]
  rw [← List.drop_drop, List.take_append_drop]

theorem getD_cons_drop {bytes : Bytes} {i : ℕ} (h : i < bytes.length) :
    bytes.getD i 0 :: bytes.drop (i + 1) = bytes.drop i := by
  rw [List.drop_eq_getElem_cons h, List.getD_eq_getElem?_getD, List.getElem?_eq_getElem h,
    Option.getD_some]

/-- The fields of a header, one after the other. -/
theorem header_layout {bytes : Bytes} (h : bytes.length = frameHeaderBytes) :
    bytes.getD 0 0 :: (slice bytes 1 17 ++ bytes.getD 17 0 :: bytes.getD 18 0 ::
      (slice bytes 19 27 ++ slice bytes 27 31)) = bytes := by
  have hlen : bytes.length = 31 := h
  have hlast : slice bytes 27 31 = bytes.drop 27 := by
    rw [slice, ← hlen, List.take_length]
  rw [hlast, slice_append_drop bytes (by decide), getD_cons_drop (by omega),
    getD_cons_drop (by omega),
    slice_append_drop bytes (by decide), getD_cons_drop (by omega), List.drop_zero]

theorem FrameDirection.code_of_ofCode {code : UInt8} {direction : FrameDirection}
    (h : FrameDirection.ofCode code = .ok direction) : direction.code = code := by
  unfold FrameDirection.ofCode at h
  split_ifs at h with hs hr
  · cases h
    exact hs.symm
  · cases h
    exact hr.symm

theorem FrameType.code_of_ofCode {code : UInt8} {type : FrameType}
    (h : FrameType.ofCode code = some type) : type.code = code := by
  obtain ⟨hlt, htype⟩ := List.getElem?_eq_some_iff.1 h
  have hall : ∀ n, (hn : n < 9) →
    (([confirm, manifest, chunk, complete, receipt, cancel, error, fileOffer,
      accept] : List FrameType)[n]).code = UInt8.ofNat n := by decide
  rw [← htype, hall _ hlt, UInt8.ofNat_toNat]

/-- What `parseFrameHeader` accepts are the bytes of the header it returns, whose identifier it has
not looked at. -/
theorem parseFrameHeader_spec {bytes : Bytes} {header : FrameHeader}
    (h : parseFrameHeader bytes = .ok header) :
    header.bytes = bytes ∧ (header.Valid ↔ VersionedId (slice bytes 1 17)) := by
  simp only [parseFrameHeader, bind_eq_ok, throwIf_eq_ok, not_not] at h
  obtain ⟨-, hlen, -, hversion, direction, hdirection, h⟩ := h
  cases htype : FrameType.ofCode (bytes.getD 18 0) with
  | none =>
    rw [htype] at h
    cases h
  | some type =>
    simp only [htype, bind_eq_ok, pure_eq_ok, requireFrameLength, throwIf_eq_ok, not_lt,
      bytesToUuid,
      validateFrameTypeDirection_eq_ok, not_not] at h
    obtain ⟨_, ⟨-, hlength, -⟩, -, htravels, _, ⟨-, hid, rfl⟩, rfl⟩ := h
    have hbyte : UInt8.ofNat transferProtocolVersion = bytes.getD 0 0 := by
      rw [← hversion, UInt8.ofNat_toNat]
    have hcounter := BigEndian.encode_decode (slice bytes 19 27)
    have hplaintext := BigEndian.encode_decode (slice bytes 27 31)
    have hcounterLt := BigEndian.decode_lt (slice bytes 19 27)
    have hcounterLen : (slice bytes 19 27).length = 8 := by
      have hlen : bytes.length = 31 := hlen
      simp [slice, hlen]
    have hplaintextLen : (slice bytes 27 31).length = 4 := by
      have hlen : bytes.length = 31 := hlen
      simp [slice, hlen]
    rw [hcounterLen] at hcounter hcounterLt
    rw [hplaintextLen] at hplaintext
    constructor
    · rw [FrameHeader.bytes, uuidBytes_hyphenate, hcounter, hplaintext, hbyte,
        FrameDirection.code_of_ofCode hdirection, FrameType.code_of_ofCode htype,
        header_layout hlen]
    · rw [← isUuid_hyphenate hid]
      constructor
      · exact fun valid => valid.uuid
      · intro huuid
        have hcounterLe : BigEndian.decode (slice bytes 19 27) ≤ maxFrameCounter := by
          rw [maxFrameCounter]
          omega
        exact ⟨rfl, huuid, hcounterLe, hlength, htravels⟩

/-- A written header is read back as it is, its counter a bigint.  A header that is read is written
as the same bytes if and only if the sixteen bytes of its identifier are those of a UUID. -/
theorem frameHeader_codec (input : FrameHeaderInput) (bytes : Bytes) :
    (input.encode = .ok bytes → ∃ header, parseFrameHeader bytes = .ok header ∧ input.Is header) ∧
    ∀ header, parseFrameHeader bytes = .ok header →
      ((FrameHeaderInput.ofHeader header).encode = .ok bytes ↔ VersionedId (slice bytes 1 17)) := by
  constructor
  · intro h
    obtain ⟨header, his, hvalid, rfl⟩ := FrameHeaderInput.encode_eq_ok h
    exact ⟨header, hvalid.parse_bytes, his⟩
  · intro header h
    obtain ⟨hbytes, hvalid⟩ := parseFrameHeader_spec h
    rw [FrameHeaderInput.encode_ofHeader, encodeFrameHeader_eq_ok, ← hvalid, hbytes]
    simp

/-- Header bytes whose identifier is all zeros. -/
def zeroIdHeader : Bytes := 1 :: List.replicate 30 0

set_option maxRecDepth 8000 in
theorem frameHeader_codec_zero :
    (∃ header, parseFrameHeader zeroIdHeader = .ok header) ∧
      ∀ header, parseFrameHeader zeroIdHeader = .ok header →
        (FrameHeaderInput.ofHeader header).encode ≠ .ok zeroIdHeader := by
  have hparse : ∃ header, parseFrameHeader zeroIdHeader = .ok header := ⟨_, rfl⟩
  refine ⟨hparse, ?_⟩
  intro header h henc
  obtain ⟨-, hvalid⟩ := parseFrameHeader_spec h
  rw [FrameHeaderInput.encode_ofHeader, encodeFrameHeader_eq_ok] at henc
  have hid := hvalid.1 henc.1
  revert hid
  decide

/-- A header whose identifier is a UUID of version 4. -/
def versionedHeader : Bytes :=
  1 :: ([0, 0, 0, 0, 0, 0, 0x40, 0, 0x80, 0, 0, 0, 0, 0, 0, 0] ++ List.replicate 14 0)

set_option maxRecDepth 8000 in
theorem frameHeader_codec_versioned :
    ∃ header, parseFrameHeader versionedHeader = .ok header ∧
      (FrameHeaderInput.ofHeader header).encode = .ok versionedHeader ∧
      ∃ again, parseFrameHeader versionedHeader = .ok again ∧
      (FrameHeaderInput.ofHeader header).Is again := by
  have hparse : ∃ header, parseFrameHeader versionedHeader = .ok header := ⟨_, rfl⟩
  obtain ⟨header, h⟩ := hparse
  have hcodec := frameHeader_codec (.ofHeader header) versionedHeader
  have hencode := (hcodec.2 header h).2 (by decide)
  exact ⟨header, h, hencode, hcodec.1 hencode⟩

end SelfRelay
