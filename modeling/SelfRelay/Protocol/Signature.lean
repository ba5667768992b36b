import SelfRelay.Protocol.Basic

/-!
# ECDSA signatures

`crypto.subtle` signs in the fixed-width P1363 form; a provider that answers in DER is normalised by
`normalizeP1363Signature`, which tells the two forms apart by their length.
-/

namespace SelfRelay

def p256SignatureBytes : ℕ := 64

def invalidSignature (message : String) : ProtocolError := protocolError message "invalid_signature"

/-- `bytes.every((byte) => byte === 0)` -/
def allZero (bytes : Bytes) : Bool := bytes.all (· = 0)

/-- `readDerLength`: the length and the offset after it. -/
def readDerLength (bytes : Bytes) (offset : ℕ) : Checked (ℕ × ℕ) :=
  match bytes[offset]? with
  | none => .error (invalidSignature "DER length is truncated.")
  | some first =>
    if first.toNat < 0x80 then .ok (first.toNat, offset + 1)
    else
      match bytes[offset + 1]? with
      | none => .error (invalidSignature "DER length is not canonical.")
      | some second => do
        throwIf (first.toNat % 0x80 ≠ 1 ∨ second.toNat < 128)
          (invalidSignature "DER length is not canonical.")
        return (second.toNat, offset + 2)

/-- `readDerInteger`: the bytes of the integer and the offset after it. -/
def readDerInteger (bytes : Bytes) (offset : ℕ) : Checked (Bytes × ℕ) := do
  throwIf (bytes[offset]? ≠ some 0x02) (invalidSignature "DER signature integer is invalid.")
  let (length, next) ← readDerLength bytes (offset + 1)
  let stop := next + length
  throwIf (length < 1 ∨ stop > bytes.length)
    (invalidSignature "DER signature integer is truncated.")
  let value := slice bytes next stop
  throwIf (0x80 ≤ (value.getD 0 0).toNat ∨
      (value.length > 1 ∧ value.getD 0 0 = 0 ∧ (value.getD 1 0).toNat < 0x80))
    (invalidSignature "DER signature integer is not minimally encoded.")
  throwIf (allZero value ∨ value.length > 33 ∨ (value.length = 33 ∧ value.getD 0 0 ≠ 0))
    (invalidSignature "DER signature integer is out of range.")
  return (value, stop)

/-- `normalize` in `derToP1363`: an integer in 32 bytes. -/
def normalizeDerInteger (value : Bytes) : Checked Bytes := do
  let withoutSign := if value.getD 0 0 = 0 then value.drop 1 else value
  throwIf (withoutSign.length > 32 ∨ allZero withoutSign)
    (invalidSignature "ECDSA signature integer is out of range.")
  return List.replicate (32 - withoutSign.length) 0 ++ withoutSign

/-- `derToP1363` -/
def derToP1363 (bytes : Bytes) : Checked Bytes := do
  throwIf (bytes[0]? ≠ some 0x30) (invalidSignature "DER ECDSA signature is invalid.")
  let (length, next) ← readDerLength bytes 1
  let sequenceEnd := next + length
  throwIf (sequenceEnd ≠ bytes.length) (invalidSignature "DER ECDSA signature has trailing data.")
  let (r, rest) ← readDerInteger bytes next
  let (s, rest) ← readDerInteger bytes rest
  throwIf (rest ≠ sequenceEnd) (invalidSignature "DER ECDSA signature has extra values.")
  let r ← normalizeDerInteger r
  let s ← normalizeDerInteger s
  return r ++ s

/-- `normalizeP1363Signature` -/
def normalizeP1363Signature (bytes : Bytes) : Checked Bytes :=
  if bytes.length = p256SignatureBytes then .ok bytes else derToP1363 bytes

theorem normalizeP1363Signature_of_length {bytes : Bytes} (h : bytes.length = p256SignatureBytes) :
    normalizeP1363Signature bytes = .ok bytes := if_pos h

example : derToP1363 [0x30, 0x06, 0x02, 0x01, 0x05, 0x02, 0x01, 0x07] =
    .ok (List.replicate 31 0 ++ 5 :: List.replicate 31 0 ++ [7]) := by decide

end SelfRelay
