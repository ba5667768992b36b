import SelfRelay.Protocol.Signature

/-!
# Web Crypto

The operations of `crypto.subtle` that the protocol calls, as a parameter, with the wrappers of
`transferProtocol.ts` around them.  An operation that rejects is `none`.  The wrappers are
asynchronous, but none of them shares state with another call, so each is a function of its
arguments.
-/

namespace SelfRelay

/-- What a P-256 key is imported for. -/
inductive KeyPurpose where
  | signing
  | agreement
  deriving DecidableEq, Repr

/-- `CryptoKey | ByteInput` -/
inductive SigningPublicKey where
  | key (key : CryptoKey)
  | spki (bytes : Bytes)
  deriving DecidableEq, Repr

/-- `crypto.subtle`, for the P-256 keys of the protocol. -/
structure WebCrypto where
  importKey : KeyPurpose → Bytes → Option CryptoKey
  exportKey : CryptoKey → Option Bytes
  /-- The key, the signature and the message. -/
  verify : CryptoKey → Bytes → Bytes → Option Bool

namespace WebCrypto

variable (crypto : WebCrypto)

/-- `importP256Spki` -/
def importP256Spki (raw : Bytes) (purpose : KeyPurpose) : Checked CryptoKey := do
  throwIf (raw.length < 1 ∨ raw.length > 1024)
    (protocolError "The P-256 public key has an invalid length." "invalid_public_key")
  let invalid := protocolError "The P-256 public key is invalid." "invalid_public_key"
  match crypto.importKey purpose raw with
  | none => .error invalid
  | some key =>
    match crypto.exportKey key with
    | none => .error invalid
    | some exported =>
      throwIf (raw ≠ exported)
        (protocolError "The P-256 public key is not canonical SPKI." "invalid_public_key")
      return key

/-- `exportSpki` -/
def exportSpki (key : CryptoKey) : Checked Bytes :=
  match crypto.exportKey key with
  | none => .error (protocolError "Unable to export the P-256 public key." "invalid_public_key")
  | some spki => .ok spki

/-- `verifyP256` -/
def verifyP256 (key : CryptoKey) (message signature : Bytes) : Bool :=
  if signature.length ≠ p256SignatureBytes then false
  else (crypto.verify key signature message).getD false

/-- `resolveSigningKey` -/
def resolveSigningKey : SigningPublicKey → Checked CryptoKey
  | .key key => .ok key
  | .spki bytes => crypto.importP256Spki bytes .signing

end WebCrypto

structure CryptoKeyPair where
  publicKey : CryptoKey
  privateKey : CryptoKey
  deriving DecidableEq, Repr

/-- `crypto.subtle`, with what a handshake needs besides.  An operation whose rejection reaches the
caller rejects with the message of the exception. -/
structure HandshakeCrypto extends WebCrypto where
  /-- The private key and the message. -/
  sign : CryptoKey → Bytes → Option Bytes
  /-- `deriveBits` with ECDH: the peer's public key and the own private key. -/
  ecdh : CryptoKey → CryptoKey → Except String Bytes
  /-- `deriveBits` with HKDF and SHA-256: the key material, the salt, the info and the length. -/
  hkdf : Bytes → Bytes → Bytes → ℕ → Except String Bytes
  /-- `importKey` of a raw AES-GCM key. -/
  importAesKey : Bytes → Except String CryptoKey

namespace HandshakeCrypto

variable (crypto : HandshakeCrypto)

/-- `signP256` -/
def signP256 (privateKey : CryptoKey) (message : Bytes) : Checked Bytes :=
  match (crypto.sign privateKey message).map normalizeP1363Signature with
  | some (.ok signature) => .ok signature
  | _ => .error (protocolError "Unable to create the ECDSA signature." "crypto_failure")

end HandshakeCrypto

end SelfRelay
