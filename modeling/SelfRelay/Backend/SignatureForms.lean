import SelfRelay.Lib.BigEndian
import SelfRelay.Protocol.DerSignature

/-!
# Telling the forms of a signature apart

`normalizeP1363Signature` and `verify_signature` take 64 bytes for the fixed-width form and
everything else for DER.  The DER form of a signature has 64 bytes itself when its two integers have
58 together, and then neither side reads it (`signatureForms_iff`).
-/

namespace SelfRelay.Backend

/-! ## `verify_signature` -/

/-- What the functions of `cryptography` raise. -/
inductive LibraryError where
  | valueError
  | typeError
  | invalidSignature
  | other
  deriving DecidableEq, Repr

/-- What `verify_signature` may have to catch. -/
inductive SignatureError where
  /-- `DeviceCryptoError` -/
  | deviceCrypto (message : String)
  | library (error : LibraryError)
  deriving DecidableEq, Repr

/-- The functions of `cryptography` that `verify_signature` uses. -/
structure Cryptography where
  Key : Type
  loadDerPublicKey : Bytes → Except LibraryError Key
  isEllipticCurve : Key → Bool
  isSecp256r1 : Key → Bool
  /-- `public_bytes(Encoding.DER, PublicFormat.SubjectPublicKeyInfo)` -/
  publicBytes : Key → Bytes
  encodeDssSignature : ℕ → ℕ → Bytes
  /-- `verify` with `ECDSA(SHA256())` -/
  verify : Key → Bytes → Bytes → Except LibraryError Unit

section Verify

variable (cryptography : Cryptography)

/-- `canonical_public_key` -/
def canonicalPublicKey (raw : Bytes) : Except SignatureError Bytes :=
  if 1 ≤ raw.length ∧ raw.length ≤ 1024 then
    match cryptography.loadDerPublicKey raw with
    | .error .valueError | .error .typeError => .error (.deviceCrypto "public key is not valid DER")
    | .error error => .error (.library error)
    | .ok key =>
      if cryptography.isEllipticCurve key = true ∧ cryptography.isSecp256r1 key = true then
        if cryptography.publicBytes key = raw then .ok raw
        else .error (.deviceCrypto "public key is not canonical SPKI")
      else .error (.deviceCrypto "public key must use ECDSA P-256")
  else .error (.deviceCrypto "public key has an invalid length")

/-- `p1363_to_der` -/
def Cryptography.p1363ToDer (signature : Bytes) : Except SignatureError Bytes :=
  if signature.length = 64 then
    let r := BigEndian.decode (signature.take 32)
    let s := BigEndian.decode (signature.drop 32)
    if r = 0 ∨ s = 0 then .error (.deviceCrypto "ECDSA signature integers must be positive")
    else .ok (cryptography.encodeDssSignature r s)
  else .error (.deviceCrypto "ECDSA signature must be 64-byte P1363")

/-- The signature that `verify_signature` hands to `cryptography`. -/
def derSignature (signature : Bytes) : Except SignatureError Bytes :=
  if signature.length = 64 then cryptography.p1363ToDer signature else .ok signature

/-- The body of the `try` of `verify_signature`. -/
def checkSignature (publicKeySpki signature message : Bytes) : Except SignatureError Bool := do
  let canonicalKey ← canonicalPublicKey cryptography publicKeySpki
  let key ← (cryptography.loadDerPublicKey canonicalKey).mapError .library
  if cryptography.isEllipticCurve key = false then return false
  let der ← derSignature cryptography signature
  (cryptography.verify key der message).mapError .library
  return true

/-- `verify_signature` -/
def verifySignature (publicKeySpki signature message : Bytes) : Except SignatureError Bool :=
  match checkSignature cryptography publicKeySpki signature message with
  | .ok verdict => .ok verdict
  | .error (.library .other) => .error (.library .other)
  | .error _ => .ok false

/-- `encode_dss_signature` writes the DER form of two positive integers. -/
def Cryptography.EncodesDer : Prop :=
  ∀ r s : Bytes, Magnitude r → Magnitude s →
    cryptography.encodeDssSignature (BigEndian.decode r) (BigEndian.decode s) =
      sequence (withSign r) (withSign s)

end Verify

/-! ## The length of the DER form -/

/-- The number of bytes that an integer takes in DER. -/
def derWidth (half : Bytes) : ℕ := (withSign (stripZeros half)).length

theorem derWidth_widen {bytes : Bytes} (h : Magnitude bytes) :
    derWidth (widen bytes) = (withSign bytes).length := by
  rw [derWidth, stripZeros_widen h]

theorem length_sequence (r s : Bytes) : (sequence r s).length = r.length + s.length + 6 := by
  simp only [sequence, encoded, List.length_cons, List.length_append]
  omega

theorem decode_widen (bytes : Bytes) : BigEndian.decode (widen bytes) = BigEndian.decode bytes := by
  have hzero (zeros : ℕ) : (List.replicate zeros (0 : UInt8)).foldl
      (fun n b => n * 256 + b.toNat) 0 = 0 := by
    induction zeros with
    | zero => rfl
    | succ zeros ih => exact ih
  rw [widen, BigEndian.decode, List.foldl_append, hzero]
  rfl

theorem toNat_le_decode (b : UInt8) (rest : Bytes) : b.toNat ≤ BigEndian.decode (b :: rest) := by
  induction rest using List.reverseRecOn with
  | nil => simp [BigEndian.decode]
  | append_singleton rest c ih =>
    rw [← List.cons_append, BigEndian.decode_append_singleton]
    omega

theorem decode_ne_zero {bytes : Bytes} (h : Magnitude bytes) : BigEndian.decode bytes ≠ 0 := by
  obtain ⟨b, rest, rfl, hb⟩ := h.exists_cons
  have hle := toNat_le_decode b rest
  have hpos : b.toNat ≠ 0 := fun hzero => hb (UInt8.toNat_inj.1 hzero)
  omega

/-- A magnitude in 32 bytes that does not begin with a zero has 32 bytes itself. -/
theorem length_of_head_widen {bytes : Bytes} (h : Magnitude bytes) {b : UInt8} (hb : b ≠ 0)
    (hhead : (widen bytes)[0]? = some b) : bytes.length = 32 := by
  have hlength := h.length
  by_contra hne
  obtain ⟨zeros, hzeros⟩ : ∃ zeros, 32 - bytes.length = zeros + 1 := ⟨31 - bytes.length, by omega⟩
  rw [widen, hzeros, List.replicate_succ] at hhead
  exact hb (Option.some.inj hhead).symm

/-- A DER form of 64 bytes is not the signature that it is the form of. -/
theorem sequence_ne {r s : Bytes} (hr : Magnitude r) (hs : Magnitude s)
    (hwidth : (withSign r).length + (withSign s).length = 58) :
    sequence (withSign r) (withSign s) ≠ widen r ++ widen s := by
  intro heq
  have hlr := length_widen hr
  have hget (i : ℕ) : (sequence (withSign r) (withSign s))[i]? =
    (widen r ++ widen s)[i]? := by rw [heq]
  -- the first byte of the form is the tag, so that the first integer takes 32 bytes without a sign
  have hfirst : (widen r)[0]? = some 0x30 := by
    rw [← List.getElem?_append_left (by omega), ← hget 0]
    rfl
  have hrlength := length_of_head_widen hr (by decide) hfirst
  have hrwiden : widen r = r := by rw [widen, hrlength]; rfl
  have hsign : withSign r = r := by
    have hhead : r.getD 0 0 = 0x30 := by
      rw [hrwiden] at hfirst
      rw [List.getD_eq_getElem?_getD, hfirst]
      rfl
    rw [withSign, if_neg (by rw [hhead]; decide)]
  -- after that the form repeats its first four bytes, up to the head of the second half
  have hbody (i : ℕ) (hi : i < 32) : (widen r ++ widen s)[i + 4]? = r[i]? := by
    rw [← hget, sequence, encoded, hsign]
    exact List.getElem?_append_left (by rw [List.length_cons, List.length_cons]; omega)
  have hstep (i : ℕ) (hi : i < 28) : r[i + 4]? = r[i]? := by
    rw [← hbody i (by omega), hrwiden]
    exact (List.getElem?_append_left (by omega)).symm
  have hsecond : (widen s)[0]? = some 0x30 := by
    have hright := hbody 28 (by decide)
    rw [List.getElem?_append_right (by omega), hlr] at hright
    rw [show (widen s)[0]? = r[28]? from hright, hstep 24 (by decide), hstep 20 (by decide),
      hstep 16 (by decide),
      hstep 12 (by decide), hstep 8 (by decide), hstep 4 (by decide),
      hstep 0 (by decide), ← hrwiden]
    exact hfirst
  have hslength := length_of_head_widen hs (by decide) hsecond
  have hle : s.length ≤ (withSign s).length := by
    unfold withSign
    split_ifs
    · exact Nat.le_succ _
    · exact Nat.le_refl _
  rw [hsign] at hwidth
  omega

/-! ## The two forms -/

section Forms

variable {r s : Bytes} (hr : Magnitude r) (hs : Magnitude s)
include hr hs

theorem normalizeP1363Signature_sequence :
    normalizeP1363Signature (sequence (withSign r) (withSign s)) = .ok (widen r ++ widen s) ↔
      (withSign r).length + (withSign s).length ≠ 58 := by
  rw [normalizeP1363Signature, length_sequence]
  by_cases h : (withSign r).length + (withSign s).length = 58
  · rw [if_pos (by rw [h]; rfl)]
    simp only [Except.ok.injEq, h, ne_eq, not_true_eq_false, iff_false]
    exact sequence_ne hr hs h
  · have hlength : ¬ (withSign r).length + (withSign s).length + 6 = p256SignatureBytes := by
      rw [show p256SignatureBytes = 58 + 6 from rfl]
      omega
    rw [if_neg hlength, derToP1363_eq_ok.2 ⟨r, s, hr, hs, rfl, rfl⟩]
    exact iff_of_true rfl h

variable {cryptography : Cryptography} (hder : cryptography.EncodesDer)
include hder

theorem derSignature_widen :
    derSignature cryptography (widen r ++ widen s) = .ok (sequence (withSign r) (withSign s)) := by
  have hlr := length_widen hr
  have hls := length_widen hs
  have htake : (widen r ++ widen s).take 32 = widen r := by rw [← hlr, List.take_left]
  have hdrop : (widen r ++ widen s).drop 32 = widen s := by rw [← hlr, List.drop_left]
  have hlength : (widen r ++ widen s).length = 64 := by rw [List.length_append, hlr, hls]
  rw [derSignature, if_pos hlength, Cryptography.p1363ToDer, if_pos hlength, htake, hdrop,
    decode_widen,
    decode_widen]
  dsimp only
  rw [if_neg (not_or.2 ⟨decode_ne_zero hr, decode_ne_zero hs⟩), hder r s hr hs]

/-- The backend gives both forms the same verdict as long as it tells them apart. -/
theorem verifySignature_sequence (hwidth : (withSign r).length + (withSign s).length ≠ 58)
    (publicKeySpki message : Bytes) :
    verifySignature cryptography publicKeySpki (sequence (withSign r) (withSign s)) message =
      verifySignature cryptography publicKeySpki (widen r ++ widen s) message := by
  have hlength : ¬ (sequence (withSign r) (withSign s)).length = 64 := by
    rw [length_sequence]
    omega
  have hkept : derSignature cryptography (sequence (withSign r) (withSign s)) =
      .ok (sequence (withSign r) (withSign s)) := if_neg hlength
  simp only [verifySignature, checkSignature, hkept, derSignature_widen hr hs hder]

end Forms

/-- A signature is kept as it is, its DER form is turned back into it, and both get the same verdict
from the backend, if and only if its two integers do not take 58 bytes in DER, which would make the
DER form as long as the signature. -/
theorem signatureForms_iff {cryptography : Cryptography} (hder : cryptography.EncodesDer)
    {signature : Bytes}
    (hlength : signature.length = 64) (hr : ¬ allZero (signature.take 32) = true)
    (hs : ¬ allZero (signature.drop 32) = true) :
    (normalizeP1363Signature signature = .ok signature ∧
      ∃ der, p1363ToDer signature = .ok der ∧ normalizeP1363Signature der = .ok signature ∧
        ∀ publicKeySpki message, verifySignature cryptography publicKeySpki der message =
          verifySignature cryptography publicKeySpki signature message) ↔
      derWidth (signature.take 32) + derWidth (signature.drop 32) ≠ 58 := by
  obtain ⟨r, hr, hwidenR⟩ := exists_widen (by rw [List.length_take, hlength]; rfl) hr
  obtain ⟨s, hs, hwidenS⟩ := exists_widen (by rw [List.length_drop, hlength]) hs
  obtain hsplit : signature = widen r ++ widen s := by
    rw [← hwidenR, ← hwidenS, List.take_append_drop]
  have hwritten : p1363ToDer signature = .ok (sequence (withSign r) (withSign s)) :=
    hsplit ▸ p1363ToDer_widen hr hs
  rw [hwidenR, hwidenS, derWidth_widen hr, derWidth_widen hs]
  constructor
  · rintro ⟨-, der, hder', hnormal, -⟩
    obtain rfl := Except.ok.inj (hwritten.symm.trans hder')
    rw [hsplit] at hnormal
    exact (normalizeP1363Signature_sequence hr hs).1 hnormal
  · intro hwidth
    refine ⟨normalizeP1363Signature_of_length hlength, _, hwritten, ?_, ?_⟩
    · rw [hsplit]
      exact (normalizeP1363Signature_sequence hr hs).2 hwidth
    · rw [hsplit]
      exact verifySignature_sequence hr hs hder hwidth

/-- A library with one key, which verifies the DER form of one signature. -/
def sampleCryptography (accepted : Bytes) : Cryptography where
  Key := Unit
  loadDerPublicKey _ := .ok ()
  isEllipticCurve _ := true
  isSecp256r1 _ := true
  publicBytes _ := [0]
  encodeDssSignature r s := sequence (withSign (stripZeros (BigEndian.encode 32 r)))
    (withSign (stripZeros (BigEndian.encode 32 s)))
  verify _ der _ := if der = accepted then .ok () else .error .invalidSignature

theorem sampleCryptography_encodesDer (accepted : Bytes) :
    (sampleCryptography accepted).EncodesDer := by
  have hstrip {bytes : Bytes} (h : Magnitude bytes) :
      stripZeros (BigEndian.encode 32 (BigEndian.decode bytes)) = bytes := by
    have hencode := BigEndian.encode_decode (widen bytes)
    rw [length_widen h, decode_widen] at hencode
    rw [hencode, stripZeros_widen h]
  intro r s hr hs
  show sequence (withSign (stripZeros (BigEndian.encode 32 (BigEndian.decode r))))
    (withSign (stripZeros (BigEndian.encode 32 (BigEndian.decode s)))) = _
  rw [hstrip hr, hstrip hs]

/-- The signature of the integers 1 and 128. -/
theorem signatureForms_iff_small :
    normalizeP1363Signature (widen [1] ++ widen [0x80]) = .ok (widen [1] ++ widen [0x80]) ∧
      ∃ der, p1363ToDer (widen [1] ++ widen [0x80]) = .ok der ∧
        normalizeP1363Signature der = .ok (widen [1] ++ widen [0x80]) ∧
        ∀ publicKeySpki message, verifySignature (sampleCryptography [0x30, 0]) publicKeySpki
          der message =
          verifySignature (sampleCryptography [0x30, 0]) publicKeySpki
            (widen [1] ++ widen [0x80]) message :=
  (signatureForms_iff (sampleCryptography_encodesDer _) (by decide) (by decide)
    (by decide)).2 (by decide)

/-- The signature of the abscissa of the base point of P-256 and of 2 ^ 200. -/
def ambiguousSignature : Bytes :=
  [0x6b, 0x17, 0xd1, 0xf2, 0xe1, 0x2c, 0x42, 0x47, 0xf8, 0xbc, 0xe6, 0xe5, 0x63, 0xa4, 0x40, 0xf2,
    0x77, 0x03, 0x7d, 0x81, 0x2d, 0xeb, 0x33, 0xa0, 0xf4, 0xa1, 0x39, 0x45, 0xd8, 0x98,
    0xc2, 0x96] ++
    widen (1 :: List.replicate 25 0)

/-- Its DER form has 64 bytes: it is kept as it is, and the backend verifies the one
and refuses the other. -/
theorem signatureForms_iff_ambiguous :
    ∃ der, p1363ToDer ambiguousSignature = .ok der ∧
      normalizeP1363Signature der ≠ .ok ambiguousSignature ∧
      verifySignature (sampleCryptography der) [0] ambiguousSignature [] = .ok true ∧
      verifySignature (sampleCryptography der) [0] der [] = .ok false :=
  ⟨_, rfl, by decide +kernel, by decide +kernel, by decide +kernel⟩

end SelfRelay.Backend
