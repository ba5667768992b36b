import SelfRelay.Protocol.CanonicalJson

/-!
# Device proofs in the browser

The message that `deviceIdentity.ts` signs: a domain and the canonical bytes of the payload.
-/

namespace SelfRelay

/-- `DEVICE_AUTH_DOMAIN` -/
def deviceAuthDomain : JsString := js "e2e-secure-file-transfer/device-auth/v1" ++ [0]

/-- `signedDomainPayloadBytes` -/
def signedDomainPayloadBytes (domain : JsString) (payload : Json) : Outcome Bytes :=
  if domain = [] ∨ domain.contains 0 = false then .error (.other "A domain separator is required.")
  else do
    let body ← (canonicalJsonBytes payload).outcome
    return textEncode domain ++ body

/-- `signedChallengeBytes` -/
def signedChallengeBytes (payload : Json) : Outcome Bytes :=
  signedDomainPayloadBytes deviceAuthDomain payload

theorem signedChallengeBytes_of_ok {payload : Json} {body : Bytes}
    (h : canonicalJsonBytes payload = .ok body) :
    signedChallengeBytes payload = .ok (textEncode deviceAuthDomain ++ body) := by
  have hdomain : ¬ (deviceAuthDomain = [] ∨ deviceAuthDomain.contains 0 = false) := by
    decide +kernel
  rw [signedChallengeBytes, signedDomainPayloadBytes, if_neg hdomain, h]
  rfl

end SelfRelay
