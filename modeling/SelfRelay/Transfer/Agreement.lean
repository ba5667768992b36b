import SelfRelay.Protocol.Handshake
import SelfRelay.Transfer.EngineState

/-!
# Agreement of a handshake

The sender and the recipient derive the same material from an accepted offer and an accepted
answer, with the directions exchanged, and the engines of both sides resolve it to opposite keys.
An answer that the recipient creates for an accepted offer is accepted by the sender until it
expires.

What `crypto.subtle` is relied on for is `HandshakeCrypto.Lawful`; a `CryptoKey` is identified by
its key material, so a public key that was exported and imported again is the same key.
-/

namespace SelfRelay

/-- The documented behaviour of Web Crypto on P-256 key pairs: `agreementPair` are the pairs that
ECDH key generation produces, `signingPair` those of ECDSA. -/
structure HandshakeCrypto.Lawful (crypto : HandshakeCrypto)
    (agreementPair signingPair : CryptoKeyPair → Prop) : Prop where
  /-- A public key exports to a short SPKI, which imports to the same key. -/
  exportKey {pair : CryptoKeyPair} : agreementPair pair → ∃ spki,
    crypto.exportKey pair.publicKey = some spki ∧ 1 ≤ spki.length ∧ spki.length ≤ 1024 ∧
      crypto.importKey .agreement spki = some pair.publicKey
  /-- ECDH gives both sides one secret. -/
  ecdh {p q : CryptoKeyPair} : agreementPair p → agreementPair q → ∃ secret,
    crypto.ecdh q.publicKey p.privateKey = .ok secret ∧
      crypto.ecdh p.publicKey q.privateKey = .ok secret
  /-- HKDF with SHA-256 expands to any length up to 255 blocks. -/
  hkdf (ikm salt info : Bytes) {length : ℕ} : length ≤ 255 * 32 → ∃ bytes,
    crypto.hkdf ikm salt info length = .ok bytes ∧ bytes.length = length
  importAesKey {bytes : Bytes} : bytes.length = 32 → ∃ key, crypto.importAesKey bytes = .ok key
  /-- Signatures are P1363 and verify. -/
  sign {pair : CryptoKeyPair} {message signature : Bytes} : signingPair pair →
    crypto.sign pair.privateKey message = some signature →
      signature.length = p256SignatureBytes ∧
        crypto.verify pair.publicKey signature message = some true

namespace Handshake

/-! ## What both sides hold -/

/-- A side published the public key of a pair. -/
def Published (crypto : WebCrypto) (pair : CryptoKeyPair) (text : JsString) : Prop :=
  ∃ spki, crypto.exportKey pair.publicKey = some spki ∧ text = encodeBase64Url spki

/-- The role-specific fields that a caller leaves in the material. -/
structure RoleFields where
  sendKey : Bool
  receiveKey : Bool
  sendNoncePrefix : Bool
  receiveNoncePrefix : Bool

/-- The material as `FileTransferEngine` takes it, with some of the role-specific fields. -/
def DerivedHandshakeMaterial.transferMaterial (m : DerivedHandshakeMaterial) (kept : RoleFields) :
    TransferMaterial where
  confirmation := m.confirmation
  transcriptHash := m.transcriptHash
  sendKey := if kept.sendKey then m.sendKey else none
  receiveKey := if kept.receiveKey then m.receiveKey else none
  sendNoncePrefix := if kept.sendNoncePrefix then m.sendNoncePrefix else none
  receiveNoncePrefix := if kept.receiveNoncePrefix then m.receiveNoncePrefix else none
  s2rKey := some m.s2rKey
  r2sKey := some m.r2sKey
  s2rNoncePrefix := some m.s2rNoncePrefix
  r2sNoncePrefix := some m.r2sNoncePrefix

/-- The keys of one side are those of the other with the directions exchanged. -/
structure Opposite (s r : DirectionalKeys) : Prop where
  sendKey : s.sendKey = r.receiveKey
  receiveKey : s.receiveKey = r.sendKey
  sendNoncePrefix : s.sendNoncePrefix = r.receiveNoncePrefix
  receiveNoncePrefix : s.receiveNoncePrefix = r.sendNoncePrefix

/-- The material of the sender and of the recipient. -/
structure Agree (s r : DerivedHandshakeMaterial) : Prop where
  transcriptHash : s.transcriptHash = r.transcriptHash
  confirmation : s.confirmation = r.confirmation
  /-- The role-specific fields, when both sides asked for them. -/
  roles : s.role = some .sender → r.role = some .recipient → ∃ sk rk,
    s.sendKey = some sk.sendKey ∧ s.receiveKey = some sk.receiveKey ∧
      s.sendNoncePrefix = some sk.sendNoncePrefix ∧
      s.receiveNoncePrefix = some sk.receiveNoncePrefix ∧
      r.sendKey = some rk.sendKey ∧ r.receiveKey = some rk.receiveKey ∧
      r.sendNoncePrefix = some rk.sendNoncePrefix ∧
      r.receiveNoncePrefix = some rk.receiveNoncePrefix ∧ Opposite sk rk
  /-- `resolveMaterial` in the two engines. -/
  resolved (kept kept' : RoleFields) : ∃ sk rk,
    resolveMaterial (s.transferMaterial kept) .sender = .ok sk ∧
      resolveMaterial (r.transferMaterial kept') .recipient = .ok rk ∧ Opposite sk rk

/-- Both sides derive, and agree, whether or not they name their role. -/
def Agreement (crypto : HandshakeCrypto) (offer : HandshakeOfferCore)
    (answer : HandshakeAnswerCore) (sender recipient : CryptoKeyPair) : Prop :=
  ∃ senderSpki recipientSpki, decodeBase64Url offer.senderEphemeralSpki 1024 = .ok senderSpki ∧
    decodeBase64Url answer.recipientEphemeralSpki 1024 = .ok recipientSpki ∧
    ∀ senderRole ∈ [none, some .sender], ∀ recipientRole ∈ [none, some .recipient], ∃ s r,
      deriveHandshakeMaterial crypto
        ⟨offer.json, answer.json, sender.privateKey, recipientSpki, senderRole⟩ = .ok s ∧
      deriveHandshakeMaterial crypto
        ⟨offer.json, answer.json, recipient.privateKey, senderSpki, recipientRole⟩ = .ok r ∧
      s.role = senderRole ∧ r.role = recipientRole ∧ Agree s r

/-- The answer is bound to the offer. -/
structure Bound (offer : HandshakeOfferCore) (answer : HandshakeAnswerCore) : Prop where
  transferId : answer.transferId = offer.transferId
  accountEpoch : answer.accountEpoch = offer.accountEpoch
  senderDeviceId : answer.senderDeviceId = offer.senderDeviceId
  recipientDeviceId : answer.recipientDeviceId = offer.recipientDeviceId
  offerHash : ∃ bytes, canonicalJsonBytes offer.json = .ok bytes ∧
    answer.offerHash = encodeBase64Url (Sha256.hash bytes)
  expiresAt : answer.expiresAt ≤ offer.expiresAt

/-! ## Acceptance -/

section Acceptance

variable {crypto : WebCrypto} {value : Json} {key : SigningPublicKey} {now now' : JsNumber}
  {expectations : HandshakeExpectations} {offer : HandshakeOfferCore}

theorem assertValidHandshakeOffer_eq_ok
    (h : assertValidHandshakeOffer crypto value key expectations now = .ok offer) :
    ∃ core signature, signedWrapper value = .ok (core, signature) ∧
      validateHandshakeOfferCore core (expectations.now.getD now) = .ok offer ∧
      ∃ bytes, canonicalJsonBytes offer.json = .ok bytes := by
  simp only [assertValidHandshakeOffer, assertSigned, bind_eq_ok, pure_eq_ok] at h
  obtain ⟨⟨core, signature⟩, hwrapper, _, hvalid, _, _, _, ⟨_, _, bytes, hbytes, _⟩, _, _, rfl⟩ := h
  exact ⟨core, signature, hwrapper, hvalid, bytes, hbytes⟩

/-- A signed message, read by `offerCoreFrom`. -/
theorem offerCoreFrom_of_signedWrapper {core : Option Json} {signature : JsString}
    (h : signedWrapper value = .ok (core, signature))
    (hvalid : validateHandshakeOfferCore core now = .ok offer) (now' : JsNumber) :
    offerCoreFrom value now' = validateHandshakeOfferCore core now' := by
  simp only [signedWrapper, bind_eq_ok, plainRecord_eq_ok, Option.some.injEq] at h
  obtain ⟨members, rfl, _, _, h⟩ := h
  split at h
  · simp only [bind_eq_ok, pure_eq_ok, Prod.mk.injEq] at h
    obtain ⟨_, _, _, _, hcore, _⟩ := h
    obtain ⟨core', rfl, -⟩ := validateHandshakeOfferCore_eq_ok.1 hvalid
    have hget : (Json.object members).get? (js "core") = some (.object core') := hcore
    rw [offerCoreFrom, hget]
  · cases h

/-- The accepted offer, as the signed message or as its core. -/
def Refers (value message : Json) (offer : HandshakeOfferCore) : Prop :=
  value = message ∨ value = offer.json

/-- Whoever refers to an accepted offer reads that offer, as long as it is not expired. -/
theorem offerCoreFrom_eq_ok {reference : Json} {read : HandshakeOfferCore}
    (h : assertValidHandshakeOffer crypto value key expectations now = .ok offer)
    (href : Refers reference value offer) :
    offerCoreFrom reference now' = .ok read ↔
      read = offer ∧ isExpired offer.expiresAt now' = false := by
  obtain ⟨core, signature, hwrapper, hvalid, -⟩ := assertValidHandshakeOffer_eq_ok h
  have hcore : ∃ value, offerCoreFrom reference now' = validateHandshakeOfferCore value now' ∧
      ∃ time, validateHandshakeOfferCore value time = .ok offer := by
    rcases href with rfl | rfl
    · exact ⟨core, offerCoreFrom_of_signedWrapper hwrapper hvalid now', _, hvalid⟩
    · exact ⟨some offer.json, rfl, .nan, validateHandshakeOfferCore_json hvalid rfl⟩
  obtain ⟨value', heq, time, hvalid'⟩ := hcore
  rw [heq]
  constructor
  · intro hread
    obtain rfl := validateHandshakeOfferCore_unique hread hvalid'
    obtain ⟨_, _, _, hexpired⟩ := validateHandshakeOfferCore_eq_ok.1 hread
    exact ⟨rfl, hexpired⟩
  · rintro ⟨rfl, hexpired⟩
    exact validateHandshakeOfferCore_now hvalid' hexpired

end Acceptance

section Binding

variable {crypto : WebCrypto} {offerMessage answerMessage : Json}
  {senderKey recipientKey : SigningPublicKey} {now offerNow answerNow : JsNumber}
  {expectations : HandshakeExpectations} {expected : HandshakeAnswerExpectations}
  {offer : HandshakeOfferCore} {answer : HandshakeAnswerCore}

/-- What the sender found out about an answer that it accepted. -/
theorem assertValidHandshakeAnswer_eq_ok
    (hoffer : assertValidHandshakeOffer crypto offerMessage senderKey expectations now = .ok offer)
    (href : Refers expected.offer offerMessage offer)
    (h : assertValidHandshakeAnswer crypto answerMessage recipientKey expected offerNow answerNow =
      .ok answer) :
    answer.toHandshakeIdentity = offer.toHandshakeIdentity ∧ Bound offer answer ∧
      (∃ value time, validateHandshakeAnswerCore value time = .ok answer) ∧
      ∃ bytes, canonicalJsonBytes answer.json = .ok bytes := by
  simp only [assertValidHandshakeAnswer, assertSigned, bind_eq_ok, pure_eq_ok, throwIf_eq_ok,
    ne_eq, not_not, gt_iff_lt, not_lt] at h
  obtain ⟨⟨value, signature⟩, _, read, hread, core, hvalid, _, _, _, hidentity, _, hexpires,
    offerBytes, hofferBytes, hash, hhash, _, rfl, _, ⟨_, _, bytes, hbytes, _⟩, _, _, rfl⟩ := h
  obtain ⟨rfl, _⟩ := (offerCoreFrom_eq_ok hoffer href).1 hread
  have hofferHash := (encodeBase64Url_of_decode hhash).1.symm
  exact ⟨hidentity, ⟨congrArg (·.transferId) hidentity, congrArg (·.accountEpoch) hidentity,
    congrArg (·.senderDeviceId) hidentity, congrArg (·.recipientDeviceId) hidentity,
    ⟨offerBytes, hofferBytes, hofferHash⟩, hexpires⟩, ⟨_, _, hvalid⟩, bytes, hbytes⟩

end Binding

/-! ## Roles -/

/-- Material to which no role was added. -/
structure Roleless (m : DerivedHandshakeMaterial) : Prop where
  role : m.role = none
  sendKey : m.sendKey = none
  receiveKey : m.receiveKey = none
  sendNoncePrefix : m.sendNoncePrefix = none
  receiveNoncePrefix : m.receiveNoncePrefix = none

theorem Roleless.role_forRole {m : DerivedHandshakeMaterial} (h : Roleless m) :
    ∀ role, (m.forRole role).role = role
  | none => h.role
  | some .sender => rfl
  | some .recipient => rfl

/-- The keys of a role. -/
def directionalKeys (m : DerivedHandshakeMaterial) : TransferRole → DirectionalKeys
  | .sender => ⟨m.s2rKey, m.r2sKey, m.s2rNoncePrefix, m.r2sNoncePrefix⟩
  | .recipient => ⟨m.r2sKey, m.s2rKey, m.r2sNoncePrefix, m.s2rNoncePrefix⟩

/-- The engine finds the keys of its role, whichever of the role-specific fields are there. -/
theorem Roleless.resolveMaterial {m : DerivedHandshakeMaterial} (h : Roleless m)
    {own : TransferRole} {role : Option TransferRole} (hrole : role ∈ [none, some own])
    (kept : RoleFields) :
    SelfRelay.resolveMaterial ((m.forRole role).transferMaterial kept) own =
      .ok (directionalKeys m own) := by
  obtain ⟨a, b, c, d⟩ := kept
  simp only [List.mem_cons, List.not_mem_nil, or_false] at hrole
  rcases hrole with rfl | rfl
  · cases own <;>
    simp [DerivedHandshakeMaterial.forRole, DerivedHandshakeMaterial.transferMaterial,
      SelfRelay.resolveMaterial, directionalKeys, h.sendKey, h.receiveKey, h.sendNoncePrefix,
      h.receiveNoncePrefix]
  · cases own <;> cases a <;> cases b <;> cases c <;> cases d <;> rfl

theorem Roleless.agree {m : DerivedHandshakeMaterial} (h : Roleless m)
    {senderRole recipientRole : Option TransferRole} (hsender : senderRole ∈ [none, some .sender])
    (hrecipient : recipientRole ∈ [none, some .recipient]) :
    Agree (m.forRole senderRole) (m.forRole recipientRole) where
  transcriptHash := by
    rcases senderRole with _ | _ | _ <;> rcases recipientRole with _ | _ | _ <;> rfl
  confirmation := by
    rcases senderRole with _ | _ | _ <;> rcases recipientRole with _ | _ | _ <;> rfl
  roles := by
    intro hs hr
    obtain rfl := (h.role_forRole senderRole).symm.trans hs
    obtain rfl := (h.role_forRole recipientRole).symm.trans hr
    exact ⟨directionalKeys m .sender, directionalKeys m .recipient, rfl, rfl, rfl, rfl,
      rfl, rfl, rfl,
      rfl, rfl, rfl, rfl, rfl⟩
  resolved := by
    intro kept kept'
    exact ⟨_, _, h.resolveMaterial hsender kept, h.resolveMaterial hrecipient kept', rfl, rfl, rfl,
      rfl⟩

/-! ## Derivation -/

section Derivation

variable {crypto : HandshakeCrypto} {agreementPair signingPair : CryptoKeyPair → Prop}
  (laws : crypto.Lawful agreementPair signingPair)
include laws

/-- A published key imports. -/
theorem importP256Spki_published {pair : CryptoKeyPair} {text : JsString}
    (hpair : agreementPair pair) (hpublished : Published crypto.toWebCrypto pair text) :
    ∃ spki, decodeBase64Url text 1024 = .ok spki ∧
      crypto.importP256Spki spki .agreement = .ok pair.publicKey := by
  obtain ⟨spki, hexport, hpos, hle, himport⟩ := laws.exportKey hpair
  obtain ⟨spki', hexport', rfl⟩ := hpublished
  obtain rfl := Option.some.inj (hexport.symm.trans hexport')
  refine ⟨spki, decodeBase64Url_encodeBase64Url hle, ?_⟩
  simp only [WebCrypto.importP256Spki, bind_eq_ok, throwIf_eq_ok, himport, hexport, pure_eq_ok]
  exact ⟨(), by omega, (), by simp, trivial⟩

theorem hkdfExpand_eq_ok (ikm salt : Bytes) (label : String) {length : ℕ} (h : length ≤ 255 * 32) :
    ∃ bytes, hkdfExpand crypto ikm salt label length = .ok bytes ∧ bytes.length = length := by
  obtain ⟨bytes, hbytes, hlength⟩ :=
    laws.hkdf ikm salt (textEncode (keyDerivationDomain ++ js label)) h
  exact ⟨bytes, by rw [hkdfExpand, hbytes]; rfl, hlength⟩

theorem expandSecret_eq_ok (secret transcript : Bytes) :
    ∃ m, expandSecret crypto secret transcript = .ok m ∧ Roleless m := by
  obtain ⟨s2r, hs2r, hs2rLength⟩ := hkdfExpand_eq_ok laws secret transcript "s2r-key"
    (show 32 ≤ 255 * 32 by decide)
  obtain ⟨r2s, hr2s, hr2sLength⟩ := hkdfExpand_eq_ok laws secret transcript "r2s-key"
    (show 32 ≤ 255 * 32 by decide)
  obtain ⟨s2rPrefix, hs2rPrefix, -⟩ := hkdfExpand_eq_ok laws secret transcript "s2r-nonce-prefix"
    (show 4 ≤ 255 * 32 by decide)
  obtain ⟨r2sPrefix, hr2sPrefix, -⟩ := hkdfExpand_eq_ok laws secret transcript "r2s-nonce-prefix"
    (show 4 ≤ 255 * 32 by decide)
  obtain ⟨confirmation, hconfirmation, -⟩ := hkdfExpand_eq_ok laws secret transcript "confirmation"
    (show 32 ≤ 255 * 32 by decide)
  obtain ⟨s2rKey, hs2rKey⟩ := laws.importAesKey hs2rLength
  obtain ⟨r2sKey, hr2sKey⟩ := laws.importAesKey hr2sLength
  refine ⟨⟨transcript, s2rKey, r2sKey, s2rPrefix, r2sPrefix, confirmation, none, none, none, none,
    none⟩, ?_, rfl, rfl, rfl, rfl, rfl⟩
  simp only [expandSecret, bind_eq_ok, pure_eq_ok]
  exact ⟨s2r, hs2r, r2s, hr2s, _, hs2rPrefix, _, hr2sPrefix, _, hconfirmation, s2rKey,
    by rw [hs2rKey]; rfl, r2sKey, by rw [hr2sKey]; rfl, rfl⟩

/-- Both sides derive from one transcript and one secret. -/
theorem agreement_of_transcript {sender recipient : CryptoKeyPair} {offer : HandshakeOfferCore}
    {answer : HandshakeAnswerCore} {value value' : Option Json} {time time' : JsNumber}
    {offerBytes answerBytes : Bytes}
    (hoffer : validateHandshakeOfferCore value time = .ok offer)
    (hanswer : validateHandshakeAnswerCore value' time' = .ok answer)
    (hidentity : answer.toHandshakeIdentity = offer.toHandshakeIdentity)
    (hofferBytes : canonicalJsonBytes offer.json = .ok offerBytes)
    (hanswerBytes : canonicalJsonBytes answer.json = .ok answerBytes)
    (hsender : agreementPair sender) (hrecipient : agreementPair recipient)
    (hpublished : Published crypto.toWebCrypto sender offer.senderEphemeralSpki)
    (hpublished' : Published crypto.toWebCrypto recipient answer.recipientEphemeralSpki) :
    Agreement crypto offer answer sender recipient := by
  obtain ⟨senderSpki, hsenderSpki, himport⟩ := importP256Spki_published laws hsender hpublished
  obtain ⟨recipientSpki, hrecipientSpki, himport'⟩ :=
    importP256Spki_published laws hrecipient hpublished'
  obtain ⟨secret, hsecret, hsecret'⟩ := laws.ecdh hsender hrecipient
  have hoffer := validateHandshakeOfferCore_json hoffer (isExpired_minSafeInteger _)
  have hanswer := validateHandshakeAnswerCore_json hanswer (isExpired_minSafeInteger _)
  let transcript :=
    Sha256.hash (textEncode transcriptDomain ++ 0 :: offerBytes ++ 0 :: answerBytes)
  obtain ⟨m, hm, hroleless⟩ := expandSecret_eq_ok laws secret transcript
  have htranscript : transcriptHash offer.json answer.json = .ok transcript := by
    simp only [transcriptHash, transcriptBytes, bind_eq_ok, pure_eq_ok]
    exact ⟨_, ⟨_, hoffer, _, hofferBytes, _, hanswer, _, hanswerBytes, rfl⟩, rfl⟩
  have hchecked : ∀ {spki key} (own role), crypto.importP256Spki spki .agreement = .ok key →
      checkedTranscript crypto.toWebCrypto ⟨offer.json, answer.json, own, spki, role⟩ =
        .ok (transcript, key) := by
    intro spki key own role hkey
    simp only [checkedTranscript, bind_eq_ok, pure_eq_ok, throwIf_eq_ok, ne_eq, not_not]
    exact ⟨_, hoffer, _, hanswer, (), hidentity.symm, _, htranscript, _, hkey, rfl⟩
  have hderive : ∀ {spki key own} (role), crypto.importP256Spki spki .agreement = .ok key →
      crypto.ecdh key own = .ok secret →
      deriveHandshakeMaterial crypto ⟨offer.json, answer.json, own, spki, role⟩ =
        .ok (m.forRole role) := by
    intro spki key own role hkey hown
    simp only [deriveHandshakeMaterial, bind_eq_ok, pure_eq_ok]
    exact ⟨_, by rw [hchecked own role hkey]; rfl, secret, by rw [hown]; rfl, m, hm, rfl⟩
  refine ⟨senderSpki, recipientSpki, hsenderSpki, hrecipientSpki, ?_⟩
  intro senderRole hsenderRole recipientRole hrecipientRole
  exact ⟨_, _, hderive senderRole himport' hsecret, hderive recipientRole himport hsecret',
    hroleless.role_forRole _, hroleless.role_forRole _,
    hroleless.agree hsenderRole hrecipientRole⟩

end Derivation

/-! ## Created answers -/

section Creation

variable {crypto : HandshakeCrypto} {agreementPair signingPair : CryptoKeyPair → Prop}
  {options : HandshakeAnswerOptions} {dateNow issueNow : JsNumber} {random : Bytes}
  {generated : Option CryptoKeyPair} {ids : EphemeralTransferIds}
  {result : SignedHandshake HandshakeAnswerCore}

/-- What `createHandshakeAnswer` did when it returned. -/
theorem createHandshakeAnswer_eq_ok
    (h : (createHandshakeAnswer crypto options dateNow issueNow random generated ids).2 =
      .ok result) :
    ∃ offer message ephemeral,
      prepareHandshakeAnswer crypto options dateNow issueNow random generated =
        .ok (offer, message, ephemeral) ∧
      completeHandshakeAnswer crypto options.signingKey offer message ephemeral = .ok result := by
  unfold createHandshakeAnswer at h
  dsimp only at h
  split at h
  · cases h
  case h_2 ids' offer message ephemeral hprepared =>
    simp only [bind_eq_ok, pure_eq_ok, Prod.mk.injEq] at hprepared
    obtain ⟨⟨_, _, _⟩, hprepare, _, _, _, rfl, rfl, rfl⟩ := hprepared
    exact ⟨_, _, _, hprepare, h⟩

theorem signedWrapper_signedJson {core : Json} {signature : Bytes}
    (h : signature.length = p256SignatureBytes) :
    signedWrapper (signedJson core (encodeBase64Url signature)) =
      .ok (some core, encodeBase64Url signature) := by
  have hkeys : ∀ key ∈ ["core", "signature"], arrayIndex? (js key) = none := by decide +kernel
  simp only [signedWrapper, signedJson, bind_eq_ok, plainRecord_eq_ok]
  refine ⟨_, rfl, (), requireExactKeys_of_keys rfl hkeys, ?_⟩
  show (do
    let signature ← decodeBase64Url (encodeBase64Url signature) p256SignatureBytes
    throwIf (signature.length ≠ p256SignatureBytes)
      (invalidSignature "Handshake signature must be 64-byte P1363.")
    return (some core, _)) = _
  simp only [bind_eq_ok, throwIf_eq_ok, pure_eq_ok]
  exact ⟨_, decodeBase64Url_encodeBase64Url h.le, (), by simp [h], trivial⟩

/-- A core that was signed passes the check of the signature. -/
theorem assertSigned_of_signCore (laws : crypto.Lawful agreementPair signingPair)
    {publicKey : SigningPublicKey} {key signingKey : CryptoKey} {json : Json}
    {core : HandshakeAnswerCore} {pair : CryptoKeyPair}
    (hsigned : signCore crypto signingKey core json pair = .ok result)
    (hkey : crypto.resolveSigningKey publicKey = .ok key) (hpair : signingPair ⟨key, signingKey⟩)
    (error : String) :
    result.core = core ∧ result.ephemeralKeyPair = pair ∧
      ∃ signature, result.signature = encodeBase64Url signature ∧
        signature.length = p256SignatureBytes ∧
        assertSigned crypto.toWebCrypto publicKey json result.signature error = .ok () := by
  simp only [signCore, bind_eq_ok, pure_eq_ok] at hsigned
  obtain ⟨message, hmessage, signature, hsign, rfl⟩ := hsigned
  unfold HandshakeCrypto.signP256 at hsign
  split at hsign
  case h_2 => cases hsign
  case h_1 normalized hnormalized =>
    obtain ⟨raw, hraw, hnormalize⟩ := Option.map_eq_some_iff.1 hnormalized
    obtain ⟨hlength, hverify⟩ := laws.sign hpair hraw
    rw [normalizeP1363Signature_of_length hlength] at hnormalize
    obtain rfl := Except.ok.inj hnormalize
    obtain rfl := Except.ok.inj hsign
    refine ⟨rfl, rfl, raw, rfl, hlength, ?_⟩
    simp only [assertSigned, bind_eq_ok, throwIf_eq_ok]
    refine ⟨key, hkey, message, hmessage, raw, decodeBase64Url_encodeBase64Url hlength.le, ?_⟩
    simp [WebCrypto.verifyP256, hlength, hverify]

/-- The core of a created answer. -/
theorem completeHandshakeAnswer_eq_ok {signingKey : CryptoKey} {offer : HandshakeOfferCore}
    {message : ℕ × ℕ × Bytes} {ephemeral : CryptoKeyPair × Bytes}
    (h : completeHandshakeAnswer crypto signingKey offer message ephemeral = .ok result) :
    ∃ bytes core, canonicalJsonBytes offer.json = .ok bytes ∧
      core = HandshakeAnswerCore.mk offer.toHandshakeIdentity (encodeBase64Url (Sha256.hash bytes))
        (encodeBase64Url ephemeral.2) (encodeBase64Url message.2.2) message.1 message.2.1 ∧
      validateHandshakeAnswerCore (some core.json) (.ofNat message.1) = .ok core ∧
      signCore crypto signingKey core core.json ephemeral.1 = .ok result := by
  simp only [completeHandshakeAnswer, bind_eq_ok] at h
  obtain ⟨bytes, hbytes, core, hvalid, hsigned⟩ := h
  have hcore := eq_of_validateHandshakeAnswerCore hvalid
  exact ⟨bytes, core, hbytes, hcore, hcore ▸ hvalid, hsigned⟩

/-- An answer that was created for an accepted offer is accepted until it expires. -/
theorem assertValidHandshakeAnswer_of_created (laws : crypto.Lawful agreementPair signingPair)
    {offerMessage : Json} {senderKey recipientKey : SigningPublicKey}
    {expectations : HandshakeExpectations} {now : JsNumber} {offer : HandshakeOfferCore}
    {key : CryptoKey} {expected : HandshakeAnswerExpectations} {offerNow answerNow : JsNumber}
    (hoffer : assertValidHandshakeOffer crypto.toWebCrypto offerMessage senderKey expectations now =
      .ok offer)
    (href : Refers options.offer offerMessage offer)
    (hcreated : (createHandshakeAnswer crypto options dateNow issueNow random generated ids).2 =
      .ok result)
    (hephemeral : ∀ pair, (options.ephemeralKeyPair <|> generated) = some pair →
      agreementPair pair)
    (hkey : crypto.resolveSigningKey recipientKey = .ok key)
    (hsigning : signingPair ⟨key, options.signingKey⟩)
    (href' : Refers expected.offer offerMessage offer)
    (hidentity : assertExpectedIdentity offer.toHandshakeIdentity expected.toHandshakeExpectations =
      .ok ())
    (hofferNow : isExpired result.core.expiresAt offerNow = false)
    (hanswerNow : isExpired result.core.expiresAt (expected.now.getD answerNow) = false) :
    assertValidHandshakeAnswer crypto.toWebCrypto (signedJson result.core.json result.signature)
      recipientKey expected offerNow answerNow = .ok result.core := by
  obtain ⟨_, _, ⟨pair, spki⟩, hprepare, hcomplete⟩ := createHandshakeAnswer_eq_ok hcreated
  simp only [prepareHandshakeAnswer, bind_eq_ok, pure_eq_ok, throwIf_eq_ok, gt_iff_lt, not_lt,
    Prod.mk.injEq] at hprepare
  obtain ⟨read, hread, message, _, _, _, _, hexpires, _, hkeyPair, rfl, rfl, rfl⟩ := hprepare
  obtain ⟨rfl, _⟩ := (offerCoreFrom_eq_ok hoffer href).1 hread
  obtain ⟨bytes, core, hbytes, hcore, hvalid, hsigned⟩ := completeHandshakeAnswer_eq_ok hcomplete
  obtain ⟨hresult, -, signature, hsignature, hlength, hassert⟩ :=
    assertSigned_of_signCore laws hsigned hkey hsigning "Handshake answer signature is invalid."
  rw [hresult] at hofferNow hanswerNow ⊢
  -- the ephemeral key that the answer publishes is the one of the pair
  have hpublished : agreementPair pair ∧
      Published crypto.toWebCrypto pair core.recipientEphemeralSpki := by
    unfold ephemeralKey at hkeyPair
    split at hkeyPair
    · cases hkeyPair
    case h_2 pair' hpair' =>
      simp only [bind_eq_ok, pure_eq_ok, Prod.mk.injEq] at hkeyPair
      obtain ⟨_, hexport, rfl, rfl⟩ := hkeyPair
      refine ⟨hephemeral _ hpair', _, ?_, by rw [hcore]⟩
      unfold WebCrypto.exportSpki at hexport
      split at hexport
      · cases hexport
      · rename_i hsome
        obtain rfl := Except.ok.inj hexport
        exact hsome
  obtain ⟨spki', hspki', himport⟩ := importP256Spki_published laws hpublished.1 hpublished.2
  have hexpiry : core.expiresAt ≤ read.expiresAt := by rw [hcore]; exact hexpires
  simp only [assertValidHandshakeAnswer, bind_eq_ok, pure_eq_ok, throwIf_eq_ok, ne_eq, not_not,
    gt_iff_lt, not_lt]
  refine ⟨_, by rw [hsignature]; exact signedWrapper_signedJson hlength, read,
    (offerCoreFrom_eq_ok hoffer href').2 ⟨rfl, isExpired_mono hexpiry hofferNow⟩, core,
    validateHandshakeAnswerCore_json hvalid hanswerNow, (), by rw [hcore]; exact hidentity, (),
    by rw [hcore], (), hexpiry, bytes, hbytes, Sha256.hash bytes, ?_, (), rfl, (),
    by rw [← hsignature]; exact hassert, (), ?_, rfl⟩
  · rw [hcore]
    exact decodeBase64Url_encodeBase64Url (Sha256.length_hash bytes).le
  · simp only [assertEphemeral, bind_eq_ok, pure_eq_ok]
    exact ⟨spki', hspki', _, himport, trivial⟩

end Creation

/-! ## The handshake -/

/-- For every accepted offer: an answer accepted against it is bound to it, and both sides derive
the same material with the directions exchanged; an answer created for it is accepted until that
answer expires. -/
theorem handshake_agreement {crypto : HandshakeCrypto}
    {agreementPair signingPair : CryptoKeyPair → Prop}
    (laws : crypto.Lawful agreementPair signingPair) {offerMessage : Json}
    {senderKey : SigningPublicKey} {expectations : HandshakeExpectations} {now : JsNumber}
    {offer : HandshakeOfferCore}
    (hoffer : assertValidHandshakeOffer crypto.toWebCrypto offerMessage senderKey expectations now =
      .ok offer) :
    (∀ (answerMessage : Json) (recipientKey : SigningPublicKey)
      (expected : HandshakeAnswerExpectations) (offerNow answerNow : JsNumber)
      (answer : HandshakeAnswerCore), Refers expected.offer offerMessage offer →
      assertValidHandshakeAnswer crypto.toWebCrypto answerMessage recipientKey expected offerNow
        answerNow = .ok answer →
      Bound offer answer ∧ ∀ sender recipient, agreementPair sender → agreementPair recipient →
        Published crypto.toWebCrypto sender offer.senderEphemeralSpki →
        Published crypto.toWebCrypto recipient answer.recipientEphemeralSpki →
        Agreement crypto offer answer sender recipient) ∧
    (∀ (options : HandshakeAnswerOptions) (dateNow issueNow : JsNumber) (random : Bytes)
      (generated : Option CryptoKeyPair) (ids : EphemeralTransferIds)
      (result : SignedHandshake HandshakeAnswerCore), Refers options.offer offerMessage offer →
      (createHandshakeAnswer crypto options dateNow issueNow random generated ids).2 = .ok result →
      (∀ pair, (options.ephemeralKeyPair <|> generated) = some pair → agreementPair pair) →
      ∀ (recipientKey : SigningPublicKey) (key : CryptoKey) (expected : HandshakeAnswerExpectations)
        (offerNow answerNow : JsNumber), crypto.resolveSigningKey recipientKey = .ok key →
        signingPair ⟨key, options.signingKey⟩ → Refers expected.offer offerMessage offer →
        assertExpectedIdentity offer.toHandshakeIdentity expected.toHandshakeExpectations = .ok () →
        isExpired result.core.expiresAt offerNow = false →
        isExpired result.core.expiresAt (expected.now.getD answerNow) = false →
        assertValidHandshakeAnswer crypto.toWebCrypto
          (signedJson result.core.json result.signature) recipientKey expected offerNow answerNow =
          .ok result.core) := by
  constructor
  · intro answerMessage recipientKey expected offerNow answerNow answer href hanswer
    obtain ⟨hidentity, hbound, ⟨_, _, hvalid⟩, bytes, hbytes⟩ :=
      assertValidHandshakeAnswer_eq_ok hoffer href hanswer
    obtain ⟨_, _, _, hvalidOffer, offerBytes, hofferBytes⟩ := assertValidHandshakeOffer_eq_ok hoffer
    refine ⟨hbound, ?_⟩
    intro sender recipient hsender hrecipient hpublished hpublished'
    exact agreement_of_transcript laws hvalidOffer hvalid hidentity hofferBytes hbytes hsender
      hrecipient hpublished hpublished'
  · intro options dateNow issueNow random generated ids result href hcreated hephemeral recipientKey
      key expected offerNow answerNow hkey hsigning href' hidentity hofferNow hanswerNow
    exact assertValidHandshakeAnswer_of_created laws hoffer href hcreated hephemeral hkey hsigning
      href' hidentity hofferNow hanswerNow

/-! ## The protocol fixture

The messages, keys and signatures of `protocol-fixtures/v1.json`. -/

/-- A long text, in pieces. -/
def fixtureText (pieces : List String) : JsString := pieces.flatMap js

def fixtureBytes (pieces : List String) : Bytes :=
  (decodeBase64Url (fixtureText pieces) 1024).toOption.getD []

def fixtureOffer : HandshakeOfferCore where
  transferId := js "11111111-1111-4111-8111-111111111111"
  accountEpoch := 9
  senderDeviceId := js "22222222-2222-4222-8222-222222222222"
  recipientDeviceId := js "33333333-3333-4333-8333-333333333333"
  senderEphemeralSpki := fixtureText
    ["MFkwEwYHKoZIzj0CAQYIKoZIzj0DAQc", "DQgAEXsvk0aYzCkTI9--VHUvxZebGty",
     "HvramF-0FmG8bn_WyHNGQMSZj_fjdLB", "s4aZKLs2CqwNjhPuD2aebEnon1QMg"]
  senderNonce := js "AAECAwQFBgcICQoLDA0ODxAREhMUFRYXGBkaGxwdHh8"
  issuedAt := 1800000000000
  expiresAt := 1800000030000

def fixtureAnswer : HandshakeAnswerCore where
  toHandshakeIdentity := fixtureOffer.toHandshakeIdentity
  offerHash := js "fnH02c0dAPYjU3IX5muHIUcqO8esTtf1kI6USHH3rLs"
  recipientEphemeralSpki := fixtureText
    ["MFkwEwYHKoZIzj0CAQYIKoZIzj0DAQc", "DQgAE4lNKNTLQj7ugLd5lnuYr0AMf4t",
     "t4VZbvUJMCRGsDCFLg8VdaTGM8xxnf7", "l_ahi12TvyWw_MO4AVcQsI_GE7Yxg"]
  recipientNonce := js "ICEiIyQlJicoKSorLC0uLzAxMjM0NTY3ODk6Ozw9Pj8"
  issuedAt := 1800000000001
  expiresAt := 1800000030000

def fixtureNow : JsNumber := .ofNat 1800000001000

def fixtureSenderSpki : Bytes := fixtureBytes
  ["MFkwEwYHKoZIzj0CAQYIKoZIzj0DAQc", "DQgAEaxfR8uEsQkf4vOblY6RA8ncDfY",
   "Et6zOg9KE5RdiYwpZP40Li_hp_m47n6", "0p8D54WK84zV2sxXs7LtkBoN79R9Q"]

def fixtureRecipientSpki : Bytes := fixtureBytes
  ["MFkwEwYHKoZIzj0CAQYIKoZIzj0DAQc", "DQgAEfPJ7GI0DT36KUjgDBLUaw8CJae",
   "J38hs1pgtI_EdmmXgHd1UQ247QQCk9m", "safdDDbun2t5jzpgimeBLedInhz0Q"]

def fixtureSenderSignature : List String :=
  ["DF-9s6WYgfCcpDv72fYb5mvmTzwFwMi", "1A2qtNR7xgQn8PvVbpWvr5k4T8fIJax",
   "uCIcUwjN_5bk8GQUJNZYL8DA"]

def fixtureRecipientSignature : List String :=
  ["ZgnR1yA4sv0-DXUUQHg14yJllPw_pfE", "fmdO-BrhbctztS-DzsW0xS27ysfjTuc",
   "_WTjAMIdzc_8XruA0UhZ4lEA"]

/-- The bytes that are signed. -/
def fixtureMessage (core : Json) : Bytes := (canonicalJsonBytes core).toOption.getD []

/-- The ephemeral keys 3 and 4. -/
def fixtureSender : CryptoKeyPair where
  publicKey := ⟨(decodeBase64Url fixtureOffer.senderEphemeralSpki 1024).toOption.getD []⟩
  privateKey := ⟨List.replicate 31 0 ++ [3]⟩

def fixtureRecipient : CryptoKeyPair where
  publicKey := ⟨(decodeBase64Url fixtureAnswer.recipientEphemeralSpki 1024).toOption.getD []⟩
  privateKey := ⟨List.replicate 31 0 ++ [4]⟩

/-- The handle of the recipient's signing key, which does not leave the browser. -/
def fixtureSigningKey : CryptoKey := ⟨[]⟩

/-- What HKDF derives for the fixture, by label. -/
def fixtureDerived : List (String × List String) :=
  [("s2r-key", ["_UyeW4Lr190EIOKMgJrEGJA9WLOW64JpBx7QDXoshJw"]),
    ("r2s-key", ["9BcHLr6kJxzvtFdowogVIO6vB-Iz0mJ8zvRasO7dG_I"]),
    ("s2r-nonce-prefix", ["QL-72w"]), ("r2s-nonce-prefix", ["5Ba4hA"]),
    ("confirmation", ["-5riALp3UfRtYeg5oWmvPabbhSKVgWLZjdUhNSqizFg"])]

/-- Web Crypto on the values of the fixture. -/
def fixtureCrypto : HandshakeCrypto where
  importKey _ raw := if raw.length = 91 then some ⟨raw⟩ else none
  exportKey key := some key.material
  verify key signature message := some
    ((key.material = fixtureSenderSpki && signature = fixtureBytes fixtureSenderSignature &&
        message = fixtureMessage fixtureOffer.json) ||
      (key.material = fixtureRecipientSpki && signature = fixtureBytes fixtureRecipientSignature &&
        message = fixtureMessage fixtureAnswer.json))
  sign key message :=
    if key = fixtureSigningKey ∧ message = fixtureMessage fixtureAnswer.json then
      some (fixtureBytes fixtureRecipientSignature)
    else none
  ecdh _ _ := .ok (fixtureBytes ["dB3VvagX2V5GJlNzIOXVUXmYMCiy-CyZ1QDF7oYk48Q"])
  hkdf _ _ info length :=
    match fixtureDerived.find? fun (label, text) =>
      info = textEncode (keyDerivationDomain ++ js label) &&
          length = (fixtureBytes text).length with
    | some (_, text) => .ok (fixtureBytes text)
    | none => .ok (List.replicate length 0)
  importAesKey raw := if raw.length = 32 then .ok ⟨raw⟩ else .error "DataError"

theorem fixtureCrypto_sign (key : CryptoKey) (message : Bytes) : fixtureCrypto.sign key message =
    if key = fixtureSigningKey ∧ message = fixtureMessage fixtureAnswer.json then
      some (fixtureBytes fixtureRecipientSignature)
    else none := rfl

theorem fixtureCrypto_lawful : fixtureCrypto.Lawful (· ∈ [fixtureSender, fixtureRecipient])
      (· = ⟨⟨fixtureRecipientSpki⟩, fixtureSigningKey⟩) where
  exportKey := by
    intro pair hpair
    refine ⟨pair.publicKey.material, rfl, ?_⟩
    simp only [List.mem_cons, List.not_mem_nil, or_false] at hpair
    rcases hpair with rfl | rfl
    · decide +kernel
    · decide +kernel
  ecdh := by
    intro p q _ _
    exact ⟨_, rfl, rfl⟩
  hkdf := by
    intro ikm salt info length _
    dsimp only [fixtureCrypto]
    split
    · rename_i label text hfound
      have htest := List.find?_some hfound
      simp only [Bool.and_eq_true, decide_eq_true_eq] at htest
      exact ⟨_, rfl, htest.2.symm⟩
    · exact ⟨_, rfl, List.length_replicate⟩
  importAesKey := by
    intro bytes h
    exact ⟨⟨bytes⟩, if_pos h⟩
  sign := by
    rintro _ message signature rfl hsign
    rw [fixtureCrypto_sign, Option.ite_none_right_eq_some, Option.some.injEq] at hsign
    obtain ⟨⟨-, hmessage⟩, hsignature⟩ := hsign
    rw [hmessage, ← hsignature]
    decide +kernel

/-- What the recipient passes to `createHandshakeAnswer`. -/
def fixtureOptions : HandshakeAnswerOptions where
  transferId := fixtureOffer.transferId
  accountEpoch := .ofNat 9
  senderDeviceId := fixtureOffer.senderDeviceId
  recipientDeviceId := fixtureOffer.recipientDeviceId
  issuedAt := some (.ofNat 1800000000001)
  expiresAt := .ofNat 1800000030000
  nonce := some (fixtureBytes ["ICEiIyQlJicoKSorLC0uLzAxMjM0NTY3ODk6Ozw9Pj8"])
  signingKey := fixtureSigningKey
  ephemeralKeyPair := some fixtureRecipient
  offer := fixtureOffer.json

/-- The expectations of the sender. -/
def fixtureExpectations : HandshakeAnswerExpectations where
  transferId := none
  accountEpoch := some (.ofNat 9)
  senderDeviceId := none
  recipientDeviceId := none
  now := some fixtureNow
  offer := fixtureOffer.json

theorem handshake_agreement_fixture :
    assertValidHandshakeOffer fixtureCrypto.toWebCrypto
      (signedJson fixtureOffer.json (fixtureText fixtureSenderSignature)) (.spki fixtureSenderSpki)
      fixtureExpectations.toHandshakeExpectations fixtureNow = .ok fixtureOffer ∧
    Bound fixtureOffer fixtureAnswer ∧
    Agreement fixtureCrypto fixtureOffer fixtureAnswer fixtureSender fixtureRecipient ∧
    ∃ result, (createHandshakeAnswer fixtureCrypto fixtureOptions fixtureNow fixtureNow [] none
        []).2 = .ok result ∧ result.core = fixtureAnswer ∧
      assertValidHandshakeAnswer fixtureCrypto.toWebCrypto
        (signedJson result.core.json result.signature) (.spki fixtureRecipientSpki)
        fixtureExpectations fixtureNow fixtureNow = .ok result.core := by
  have hoffer : assertValidHandshakeOffer fixtureCrypto.toWebCrypto
      (signedJson fixtureOffer.json (fixtureText fixtureSenderSignature)) (.spki fixtureSenderSpki)
      fixtureExpectations.toHandshakeExpectations fixtureNow = .ok fixtureOffer := by
    decide +kernel
  have hcreated : ∃ result,
    (createHandshakeAnswer fixtureCrypto fixtureOptions fixtureNow fixtureNow
      [] none []).2 = .ok result ∧ result.core = fixtureAnswer := by
    have hsome : ((createHandshakeAnswer fixtureCrypto fixtureOptions fixtureNow fixtureNow [] none
        []).2.toOption.map SignedHandshake.core) = some fixtureAnswer := by decide +kernel
    obtain ⟨result, hresult, hcore⟩ := Option.map_eq_some_iff.1 hsome
    refine ⟨result, ?_, hcore⟩
    cases hcase : (createHandshakeAnswer fixtureCrypto fixtureOptions fixtureNow fixtureNow [] none
      []).2 with
    | error e => rw [hcase] at hresult; cases hresult
    | ok r => rw [hcase] at hresult; exact congrArg Except.ok (Option.some.inj hresult)
  obtain ⟨hanswers, hcreates⟩ := handshake_agreement fixtureCrypto_lawful hoffer
  obtain ⟨result, hresult, hcore⟩ := hcreated
  have haccepted := hcreates fixtureOptions _ _ _ _ _ result (.inr rfl) hresult
    (fun pair hpair => Option.some.inj hpair ▸ by simp) (.spki fixtureRecipientSpki)
      ⟨fixtureRecipientSpki⟩ fixtureExpectations
    fixtureNow fixtureNow (by decide +kernel) rfl (.inr rfl) (by decide +kernel)
    (by rw [hcore]; decide +kernel) (by rw [hcore]; decide +kernel)
  obtain ⟨hbound, hagreement⟩ := hanswers _ _ _ _ _ _ (.inr rfl) haccepted
  rw [hcore] at hbound hagreement
  exact ⟨hoffer, hbound, hagreement _ _ (by simp) (by simp) ⟨_, rfl, by decide +kernel⟩
    ⟨_, rfl, by decide +kernel⟩, result, hresult, hcore, haccepted⟩

end Handshake

end SelfRelay
