import SelfRelay.Backend.SharedJson

/-!
# Device proofs verify

The backend computes from a challenge the bytes that the browser signs (`signed_bytes_agree`): both
canonical encodings are the UTF-8 form of one text, and the two domain prefixes are the same.
-/

namespace SelfRelay.Backend

open Python SharedJson

/-! ## The two encoders -/

mutual

/-- The value passes the normalisation unchanged. -/
theorem normalize_toPy : ∀ (depth : ℕ) (value : SharedJson), normalize depth value.toPy =
    if value.nesting ≤ depth then .ok value.toPy else .error (.other .recursionError)
  | depth, .null | depth, .bool _ | depth, .int _ | depth, .string _ => (if_pos depth.zero_le).symm
  | 0, .array _ | 0, .object _ => (if_neg (Nat.not_succ_le_zero _)).symm
  | depth + 1, .array items => by
    simp only [toPy, nesting, normalize, normalizeItems_toPy depth items, Nat.succ_le_succ_iff]
    split_ifs <;> rfl
  | depth + 1, .object members => by
    simp only [toPy, nesting, normalize, normalizeMembers_toPy depth members, Nat.succ_le_succ_iff]
    split_ifs <;> rfl

theorem normalizeItems_toPy : ∀ (depth : ℕ) (items : List SharedJson),
    normalizeItems depth (toPyItems items) =
      if nestingItems items ≤ depth then .ok (toPyItems items) else .error (.other .recursionError)
  | depth, [] => (if_pos depth.zero_le).symm
  | depth, item :: items => by
    rw [toPyItems, normalizeItems, normalize_toPy depth item, normalizeItems_toPy depth items,
      nestingItems]
    by_cases hitem : item.nesting ≤ depth
    · by_cases hitems : nestingItems items ≤ depth
      · rw [if_pos hitem, if_pos hitems, if_pos (max_le hitem hitems)]
        rfl
      · rw [if_pos hitem, if_neg hitems, if_neg fun h => hitems ((le_max_right _ _).trans h)]
        rfl
    · rw [if_neg hitem, if_neg fun h => hitem ((le_max_left _ _).trans h)]
      rfl

theorem normalizeMembers_toPy : ∀ (depth : ℕ) (members : List (AsciiName × SharedJson)),
    normalizeMembers depth (toPyMembers members) =
      if nestingMembers members ≤ depth then .ok (toPyMembers members)
      else .error (.other .recursionError)
  | depth, [] => (if_pos depth.zero_le).symm
  | depth, (name, value) :: members => by
    rw [toPyMembers, normalizeMembers, normalize_toPy depth value,
      normalizeMembers_toPy depth members,
      nestingMembers]
    by_cases hvalue : value.nesting ≤ depth
    · by_cases hmembers : nestingMembers members ≤ depth
      · rw [if_pos hvalue, if_pos hmembers, if_pos (max_le hvalue hmembers)]
        rfl
      · rw [if_pos hvalue, if_neg hmembers, if_neg fun h => hmembers ((le_max_right _ _).trans h)]
        rfl
    · rw [if_neg hvalue, if_neg fun h => hvalue ((le_max_left _ _).trans h)]
      rfl

end

theorem encodeUtf8_scalar {text : PyStr} (h : ∀ c ∈ text, isScalar c = true) :
    encodeUtf8 text = .ok (text.flatMap utf8Sequence) := by
  refine if_pos (encodable_iff.2 fun c hc => ?_)
  have hscalar := isScalar_iff.1 (h c hc)
  simp only [isSurrogate, Bool.and_eq_false_iff, decide_eq_false_iff_not]
  omega

/-- The backend encodes the value as the browser does, unless it is nested too deep for its
recursion. -/
theorem canonicalJsonBytes_agree (value : SharedJson) :
    ∃ bytes, SelfRelay.canonicalJsonBytes value.toJs = .ok bytes ∧
      ∀ depth, canonicalJsonBytes depth value.toPy =
        if value.nesting ≤ depth then .ok bytes else .error (.other .recursionError) := by
  obtain ⟨text, h⟩ := writtenAs value
  refine ⟨text.flatMap utf8Sequence, ?_, fun depth => ?_⟩
  · rw [SelfRelay.canonicalJsonBytes, h.js, ← textEncode_codeUnits h.scalar]
    rfl
  · rw [canonicalJsonBytes, canonicalText, normalize_toPy]
    split_ifs with hdepth
    · have htext : (do
          let normalized ← (.ok value.toPy : Except CryptoFailure PyValue)
          (dumpsSorted depth normalized).mapError CryptoFailure.other) = .ok text := by
        rw [SelfRelay.ok_bind, h.py depth hdepth]
        rfl
      rw [htext]
      exact encodeUtf8_scalar h.scalar
    · rfl

theorem signedMessage_agree (members : List (AsciiName × SharedJson)) :
    ∃ message, signedChallengeBytes (SharedJson.object members).toJs = .ok message ∧
      ∀ depth, signedMessage depth (toPyMembers members) =
        if nestingMembers members < depth then .ok message else
          .error (.other .recursionError) := by
  have hprefix : textEncode deviceAuthDomain = signedMessagePrefix := by decide +kernel
  obtain ⟨bytes, hjs, hpy⟩ := canonicalJsonBytes_agree (.object members)
  refine ⟨signedMessagePrefix ++ bytes, ?_, fun depth => ?_⟩
  · rw [signedChallengeBytes_of_ok hjs, hprefix]
  · have hbody := hpy depth
    rw [toPy, nesting] at hbody
    rw [signedMessage, hbody]
    simp only [Nat.succ_le_iff]
    split_ifs <;> rfl

/-! ## The challenges -/

theorem exists_string {text : PyStr} (h : ∀ c ∈ text, c < 0x80) : ∃ s : String, py s = text := by
  have hchar : ∀ c < 0x80, (Char.ofNat c).toNat = c := by decide
  refine ⟨String.ofList (text.map Char.ofNat), ?_⟩
  rw [py, String.toList_ofList, List.map_map]
  refine (List.map_congr_left fun c hc => ?_).trans (List.map_id' _)
  exact hchar c (h c hc)

theorem ascii_append {text rest : PyStr} (h : ∀ c ∈ text, c < 0x80) (h' : ∀ c ∈ rest, c < 0x80) :
    ∀ c ∈ text ++ rest, c < 0x80 := List.forall_mem_append.2 ⟨h, h'⟩

theorem ascii_uuidText (id : Uuid) : ∀ c ∈ uuidText id, c < 0x80 := by
  have hdigit : ∀ n < 16, Python.hexDigit n < 0x80 := by decide
  have hdigits : ∀ c ∈ uuidDigits id, c < 0x80 := by
    intro c hc
    obtain ⟨i, -, rfl⟩ := List.mem_map.1 hc
    exact hdigit _ (Nat.mod_lt _ (by decide))
  have hgroup (start count : ℕ) : ∀ c ∈ ((uuidDigits id).drop start).take count, c < 0x80 :=
    fun c hc => hdigits c (List.mem_of_mem_drop (List.mem_of_mem_take hc))
  have hdash {text : PyStr} (h : ∀ c ∈ text, c < 0x80) : ∀ c ∈ 0x2d :: text, c < 0x80 :=
    List.forall_mem_cons.2 ⟨by decide, h⟩
  refine ascii_append (ascii_append (ascii_append (ascii_append ?_ ?_) ?_) ?_) ?_
  · exact hgroup 0 8
  · exact hdash (hgroup 8 4)
  · exact hdash (hgroup 12 4)
  · exact hdash (hgroup 16 4)
  · exact hdash fun c hc => hdigits c (List.mem_of_mem_drop hc)

theorem ascii_padded (width n : ℕ) : ∀ c ∈ padded width n, c < 0x80 := by
  refine ascii_append (fun c hc => ?_) (ascii_decimal n)
  rw [List.eq_of_mem_replicate hc]
  decide

theorem ascii_normalizeTimestamp (time : Timestamp) : ∀ c ∈ normalizeTimestamp time, c < 0x80 := by
  have hmark : ∀ mark ∈ ["-", "T", ":", ".", "Z"], ∀ c ∈ py mark, c < 0x80 := by decide
  refine ascii_append (ascii_append (ascii_append (ascii_append (ascii_append (ascii_append
    (ascii_append (ascii_append (ascii_append (ascii_append (ascii_append (ascii_append
      (ascii_append ?_ ?_) ?_) ?_) ?_) ?_) ?_) ?_) ?_) ?_) ?_) ?_) ?_) ?_
  all_goals first
    | exact ascii_padded _ _
    | exact hmark _ (by decide)

theorem ascii_encodeBase64url (value : Bytea) : ∀ c ∈ encodeBase64url value, c < 0x80 := by
  intro c hc
  obtain ⟨u, hu, rfl⟩ := List.mem_map.1 hc
  rw [encodeBase64Url_eq] at hu
  obtain ⟨n, hn, rfl⟩ := List.mem_map.1 hu
  have hunit := (base64Unit_spec n (sextets_lt value n hn)).2.2.2.2
  simp only [isBase64UrlUnit, Bool.or_eq_true, Bool.and_eq_true, decide_eq_true_eq] at hunit
  rcases hunit with (hunit | hunit) | hunit
  · omega
  · rw [hunit]
    decide
  · rw [hunit]
    decide

theorem ascii_of_all {name : String} (h : name.toList.all (fun c => c.toNat < 0x80) = true) :
    ∀ c ∈ name.toList, c.toNat < 0x80 := fun c hc => of_decide_eq_true (List.all_eq_true.1 h c hc)

/-- A payload is a flat object of both languages. -/
def SharedPayload (payload : PyDict) : Prop :=
  ∃ members : List (AsciiName × SharedJson), (SharedJson.object members).DistinctNames ∧
    nestingMembers members = 0 ∧ toPyMembers members = payload

/-- What a device signs when it logs in. -/
def loginMembers (challenge : DeviceChallengeRecord) (accountId : Uuid) (epoch : ℤ)
    (nonce : Bytea) :
    PyDict :=
  [(py "account_device_epoch", .int epoch), (py "account_id", .str (uuidText accountId)),
    (py "challenge_id", .str (uuidText challenge.id)), (py "challenge_version", .int 1),
    (py "device_id", .str (uuidText challenge.deviceId)),
    (py "expires_at", .str (normalizeTimestamp challenge.expiresAt)),
    (py "issued_at", .str (normalizeTimestamp challenge.createdAt)),
    (py "nonce", .str (encodeBase64url nonce)), (py "origin", .str (py challenge.origin)),
    (py "protocol_version", .int 1)]

/-- What a device signs when it is enrolled. -/
def enrolmentMembers (challenge : RegistrationChallenge) : PyDict :=
  [(py "account_device_epoch", .int challenge.epoch),
    (py "account_id", .str (uuidText challenge.accountId)),
    (py "challenge_id", .str (uuidText challenge.challengeId)), (py "challenge_version", .int 1),
    (py "device_fingerprint", .str (encodeBase64url challenge.fingerprint)),
    (py "device_id", .str (uuidText challenge.deviceId)),
    (py "expires_at", .str (normalizeTimestamp challenge.expiresAt)),
    (py "issued_at", .str (normalizeTimestamp challenge.issuedAt)),
    (py "nonce", .str (encodeBase64url challenge.nonce)), (py "origin", .str (py challenge.origin)),
    (py "protocol_version", .int 1), (py "enrollment_method", .str challenge.enrollmentMethod.text),
    (py "fallback", .bool challenge.fallback)]

theorem requireNonce_eq_ok {nonce : Bytea} (h : requireNonce nonce = .ok ()) :
    nonce.length = 32 := by
  by_contra hlength
  rw [requireNonce, if_neg hlength] at h
  cases h

theorem challengePayload_eq {challenge : DeviceChallengeRecord}
    {accountId : Option Uuid} {epoch : ℤ}
    {deviceId : Uuid} {nonce : Bytea} {payload : PyDict}
    (h : challengePayload challenge accountId (some epoch) deviceId nonce = .ok payload) :
    ∃ id, accountId = some id ∧ challenge.deviceId = deviceId ∧ nonce.length = 32 ∧
      payload = loginMembers challenge id epoch nonce := by
  cases accountId with
  | none => cases h
  | some id =>
    simp only [challengePayload] at h
    split_ifs at h with hdevice
    subst hdevice
    simp only [bind_eq_ok, pure_eq_ok] at h
    obtain ⟨_, hnonce, rfl⟩ := h
    exact ⟨id, rfl, rfl, requireNonce_eq_ok hnonce, rfl⟩

theorem registrationPayload_eq {challenge : RegistrationChallenge} {payload : PyDict}
    (h : registrationPayload challenge = .ok payload) :
    challenge.nonce.length = 32 ∧ challenge.fingerprint.length = 32 ∧
      payload = enrolmentMembers challenge := by
  simp only [registrationPayload, bind_eq_ok] at h
  obtain ⟨_, hnonce, h⟩ := h
  split_ifs at h with hfingerprint
  exact ⟨requireNonce_eq_ok hnonce, hfingerprint, (pure_eq_ok.1 h).symm⟩

theorem loginMembers_shared (challenge : DeviceChallengeRecord) (accountId : Uuid) {epoch : ℤ}
    (nonce : Bytea) (hepoch : epoch.natAbs ≤ JsNumber.maxSafeInteger) :
    SharedPayload (loginMembers challenge accountId epoch nonce) := by
  obtain ⟨account, haccount⟩ := exists_string (ascii_uuidText accountId)
  obtain ⟨id, hid⟩ := exists_string (ascii_uuidText challenge.id)
  obtain ⟨device, hdevice⟩ := exists_string (ascii_uuidText challenge.deviceId)
  obtain ⟨expiresAt, hexpiresAt⟩ := exists_string (ascii_normalizeTimestamp challenge.expiresAt)
  obtain ⟨issuedAt, hissuedAt⟩ := exists_string (ascii_normalizeTimestamp challenge.createdAt)
  obtain ⟨encoded, hencoded⟩ := exists_string (ascii_encodeBase64url nonce)
  rw [loginMembers, ← haccount, ← hid, ← hdevice, ← hexpiresAt, ← hissuedAt, ← hencoded]
  refine ⟨[(⟨"account_device_epoch", ascii_of_all rfl⟩, .int ⟨epoch, hepoch⟩),
    (⟨"account_id", ascii_of_all rfl⟩, .string account),
    (⟨"challenge_id", ascii_of_all rfl⟩, .string id),
    (⟨"challenge_version", ascii_of_all rfl⟩, .int ⟨1, by decide⟩),
    (⟨"device_id", ascii_of_all rfl⟩, .string device),
    (⟨"expires_at", ascii_of_all rfl⟩, .string expiresAt),
    (⟨"issued_at", ascii_of_all rfl⟩, .string issuedAt),
    (⟨"nonce", ascii_of_all rfl⟩, .string encoded),
    (⟨"origin", ascii_of_all rfl⟩, .string challenge.origin),
    (⟨"protocol_version", ascii_of_all rfl⟩, .int ⟨1, by decide⟩)], ⟨?_, ?_⟩, rfl, rfl⟩
  · simp only [List.map_cons, List.map_nil]
    decide
  · simp only [DistinctNamesMembers, SharedJson.DistinctNames, and_self]

theorem enrolmentMembers_shared {challenge : RegistrationChallenge}
    (hepoch : challenge.epoch.natAbs ≤ JsNumber.maxSafeInteger) :
    SharedPayload (enrolmentMembers challenge) := by
  obtain ⟨account, haccount⟩ := exists_string (ascii_uuidText challenge.accountId)
  obtain ⟨id, hid⟩ := exists_string (ascii_uuidText challenge.challengeId)
  obtain ⟨device, hdevice⟩ := exists_string (ascii_uuidText challenge.deviceId)
  obtain ⟨expiresAt, hexpiresAt⟩ := exists_string (ascii_normalizeTimestamp challenge.expiresAt)
  obtain ⟨issuedAt, hissuedAt⟩ := exists_string (ascii_normalizeTimestamp challenge.issuedAt)
  obtain ⟨encoded, hencoded⟩ := exists_string (ascii_encodeBase64url challenge.nonce)
  obtain ⟨fingerprint, hfingerprint⟩ := exists_string (ascii_encodeBase64url challenge.fingerprint)
  have hmethod : ∃ method : String, py method = challenge.enrollmentMethod.text := by
    cases challenge.enrollmentMethod with
    | email => exact ⟨_, rfl⟩
    | deviceLink => exact ⟨_, rfl⟩
  obtain ⟨method, hmethod⟩ := hmethod
  rw [enrolmentMembers, ← haccount, ← hid, ← hdevice, ← hexpiresAt, ← hissuedAt, ← hencoded,
    ← hfingerprint, ← hmethod]
  refine ⟨[(⟨"account_device_epoch", ascii_of_all rfl⟩, .int ⟨challenge.epoch, hepoch⟩),
    (⟨"account_id", ascii_of_all rfl⟩, .string account),
    (⟨"challenge_id", ascii_of_all rfl⟩, .string id),
    (⟨"challenge_version", ascii_of_all rfl⟩, .int ⟨1, by decide⟩),
    (⟨"device_fingerprint", ascii_of_all rfl⟩, .string fingerprint),
    (⟨"device_id", ascii_of_all rfl⟩, .string device),
    (⟨"expires_at", ascii_of_all rfl⟩, .string expiresAt),
    (⟨"issued_at", ascii_of_all rfl⟩, .string issuedAt),
    (⟨"nonce", ascii_of_all rfl⟩, .string encoded),
    (⟨"origin", ascii_of_all rfl⟩, .string challenge.origin),
    (⟨"protocol_version", ascii_of_all rfl⟩, .int ⟨1, by decide⟩),
    (⟨"enrollment_method", ascii_of_all rfl⟩, .string method),
    (⟨"fallback", ascii_of_all rfl⟩, .bool challenge.fallback)], ⟨?_, ?_⟩, rfl, rfl⟩
  · simp only [List.map_cons, List.map_nil]
    decide
  · simp only [DistinctNamesMembers, SharedJson.DistinctNames, and_self]

/-- The canonical bytes of a value and the message that is signed over an object are the same in the
backend and in the browser, as far as the recursion of the backend reaches.  The payloads of both
kinds of challenge are such objects, of depth one, with the members
of a login and of an enrolment. -/
theorem signed_bytes_agree :
    (∀ value : SharedJson, ∃ bytes, SelfRelay.canonicalJsonBytes value.toJs = .ok bytes ∧
      ∀ depth, canonicalJsonBytes depth value.toPy =
        if value.nesting ≤ depth then .ok bytes else .error (.other .recursionError)) ∧
    (∀ members : List (AsciiName × SharedJson), ∃ message,
      signedChallengeBytes (SharedJson.object members).toJs = .ok message ∧
        ∀ depth, signedMessage depth (toPyMembers members) =
          if nestingMembers members < depth then .ok message else .error (.other .recursionError)) ∧
    (∀ (challenge : DeviceChallengeRecord) (accountId : Option Uuid) (epoch : ℤ) (deviceId : Uuid)
      (nonce : Bytea) (payload : PyDict), epoch.natAbs ≤ JsNumber.maxSafeInteger →
      challengePayload challenge accountId (some epoch) deviceId nonce = .ok payload →
        (∃ id, accountId = some id ∧ challenge.deviceId = deviceId ∧ nonce.length = 32 ∧
          payload = loginMembers challenge id epoch nonce) ∧ SharedPayload payload) ∧
    ∀ (challenge : RegistrationChallenge) (payload : PyDict),
      challenge.epoch.natAbs ≤ JsNumber.maxSafeInteger →
      registrationPayload challenge = .ok payload →
        (challenge.nonce.length = 32 ∧ challenge.fingerprint.length = 32 ∧
          payload = enrolmentMembers challenge) ∧ SharedPayload payload := by
  refine ⟨canonicalJsonBytes_agree, signedMessage_agree, ?_, ?_⟩
  · intro challenge accountId epoch deviceId nonce payload hepoch h
    have hmembers := challengePayload_eq h
    obtain ⟨id, _, _, _, rfl⟩ := hmembers
    exact ⟨challengePayload_eq h, loginMembers_shared challenge id nonce hepoch⟩
  · intro challenge payload hepoch h
    have hmembers := registrationPayload_eq h
    obtain ⟨_, _, rfl⟩ := hmembers
    exact ⟨registrationPayload_eq h, enrolmentMembers_shared hepoch⟩

/-- A registration of the first account, at the start of 1970. -/
def firstRegistration : RegistrationChallenge where
  challengeId := ⟨1⟩
  accountId := ⟨2⟩
  deviceId := ⟨3⟩
  epoch := 1
  nonce := List.replicate 32 0
  origin := "https://example.org"
  issuedAt := 0
  expiresAt := registrationChallengeLifetime
  fingerprint := List.replicate 32 0
  fallback := false
  enrollmentMethod := .email
  linkingOtpId := none
  linkedByDeviceId := none

/-- A nested value, a payload and what becomes of it. -/
theorem signed_bytes_agree_registration :
    (∃ bytes, SelfRelay.canonicalJsonBytes (SharedJson.array [.string "é\n"]).toJs = .ok bytes ∧
      ∀ depth, canonicalJsonBytes depth (SharedJson.array [.string "é\n"]).toPy =
        if 1 ≤ depth then .ok bytes else .error (.other .recursionError)) ∧
    ∃ payload, registrationPayload firstRegistration = .ok payload ∧
      payload = enrolmentMembers firstRegistration ∧ SharedPayload payload := by
  have hpayload : ∃ payload, registrationPayload firstRegistration = .ok payload := ⟨_, rfl⟩
  obtain ⟨payload, hpayload⟩ := hpayload
  obtain ⟨⟨_, _, hmembers⟩, hshared⟩ :=
    signed_bytes_agree.2.2.2 firstRegistration payload (by decide) hpayload
  exact ⟨signed_bytes_agree.1 (.array [.string "é\n"]), payload, hpayload, hmembers, hshared⟩

end SelfRelay.Backend
