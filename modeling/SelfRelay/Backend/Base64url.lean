import SelfRelay.Backend.DeviceCrypto
import SelfRelay.Protocol.Transcript

/-!
# Base64url on both sides

The decoder of the browser writes its result again and compares, that of the backend does not, and
neither `atob` nor `b64decode` looks at the bits of the last character that stand for no byte.  They
agree on the strings without such bits (`base64url_agree_iff`).
-/

namespace SelfRelay.Backend

open Python

/-! ## `decode_base64url` -/

/-- `[A-Za-z0-9_-]` -/
def isBase64urlChar (c : ℕ) : Bool :=
  (0x41 ≤ c && c ≤ 0x5a) || (0x61 ≤ c && c ≤ 0x7a) || (0x30 ≤ c && c ≤ 0x39) || c = 0x5f || c = 0x2d

/-- The six bits of a character of the standard alphabet. -/
def base64Digit (c : ℕ) : Option ℕ :=
  if 0x41 ≤ c ∧ c ≤ 0x5a then some (c - 0x41)
  else if 0x61 ≤ c ∧ c ≤ 0x7a then some (c - 0x61 + 26)
  else if 0x30 ≤ c ∧ c ≤ 0x39 then some (c - 0x30 + 52)
  else if c = 0x2b then some 62
  else if c = 0x2f then some 63
  else none

/-- `binascii.a2b_base64` in strict mode: groups of four characters, the last of them padded.  The
bits of the last character that stand for no byte are dropped. -/
def a2bBase64 : PyStr → Option Bytea
  | [] => some []
  | a :: b :: c :: d :: rest => do
    let a ← base64Digit a
    let b ← base64Digit b
    if rest = [] ∧ d = 0x3d then
      if c = 0x3d then return [UInt8.ofNat (a * 4 + b / 16)]
      let c ← base64Digit c
      return [UInt8.ofNat (a * 4 + b / 16), UInt8.ofNat (b % 16 * 16 + c / 4)]
    let c ← base64Digit c
    let d ← base64Digit d
    let bytes ← a2bBase64 rest
    return UInt8.ofNat (a * 4 + b / 16) :: UInt8.ofNat (b % 16 * 16 + c / 4) ::
      UInt8.ofNat (c % 4 * 64 + d) :: bytes
  | _ => none

/-- What `altchars=b"-_"` stands for. -/
def ofAltchar (c : ℕ) : ℕ := if c = 0x2d then 0x2b else if c = 0x5f then 0x2f else c

/-- `decode_base64url` -/
def decodeBase64url (value : PyStr) (maximumBytes : ℕ) : Except CryptoFailure Bytea :=
  let error : Except CryptoFailure Bytea := .error (.deviceCrypto "invalid base64url value")
  if value = [] ∨ value.length > maximumBytes * 2 then error
  else if value.all isBase64urlChar = false then error
  else
    let padding := List.replicate ((4 - value.length % 4) % 4) 0x3d
    match a2bBase64 ((value ++ padding).map ofAltchar) with
    | none => error
    | some decoded => if decoded = [] ∨ decoded.length > maximumBytes then error else .ok decoded

/-! ## The characters of a string -/

theorem toNat_eq_iff {u v : UInt16} : u.toNat = v.toNat ↔ u = v := UInt16.toNat_inj

theorem ofAltchar_toNat (u : UInt16) : ofAltchar u.toNat = (ofUrlUnit u).toNat := by
  have hminus : u.toNat = 0x2d ↔ u = 0x2d := toNat_eq_iff (v := 0x2d)
  have hunder : u.toNat = 0x5f ↔ u = 0x5f := toNat_eq_iff (v := 0x5f)
  unfold ofAltchar ofUrlUnit
  simp only [hminus, hunder]
  split_ifs <;> rfl

theorem base64Digit_toNat (u : UInt16) : base64Digit u.toNat = base64Value u := by
  have hplus : u.toNat = 0x2b ↔ u = 0x2b := toNat_eq_iff (v := 0x2b)
  have hslash : u.toNat = 0x2f ↔ u = 0x2f := toNat_eq_iff (v := 0x2f)
  simp only [base64Digit, base64Value, hplus, hslash]

theorem isBase64urlChar_toNat (u : UInt16) : isBase64urlChar u.toNat = isBase64UrlUnit u := by
  have hunder : u.toNat = 0x5f ↔ u = 0x5f := toNat_eq_iff (v := 0x5f)
  have hminus : u.toNat = 0x2d ↔ u = 0x2d := toNat_eq_iff (v := 0x2d)
  simp only [isBase64urlChar, isBase64UrlUnit, hunder, hminus]

theorem isHighSurrogate_of_base64url {u : UInt16} (h : isBase64UrlUnit u = true) :
    isHighSurrogate u = false := by
  have hlt := Handshake.lt_of_isBase64UrlUnit h
  simp only [isHighSurrogate, Bool.and_eq_false_iff, decide_eq_false_iff_not]
  omega

theorem codePoints_of_base64url {s : JsString} (h : s.all isBase64UrlUnit = true) :
    codePoints s = s.map UInt16.toNat := by
  induction s with
  | nil => rfl
  | cons u s ih =>
    rw [List.all_cons, Bool.and_eq_true] at h
    rw [codePoints_cons (isHighSurrogate_of_base64url h.1), ih h.2, List.map_cons]

/-- The two regular expressions match the same strings. -/
theorem all_codePoints (s : JsString) :
    (codePoints s).all isBase64urlChar = s.all isBase64UrlUnit := by
  induction s using codePoints.induct with
  | case1 => rfl
  | case2 u => simp only [codePoints, List.all_cons, List.all_nil, isBase64urlChar_toNat]
  | case3 u v rest h ih =>
    have hu : isBase64UrlUnit u = false := by
      by_contra hu
      rw [isHighSurrogate_of_base64url (by simpa using hu)] at h
      exact Bool.false_ne_true h
    have hpair : isBase64urlChar
        (0x10000 + (u.toNat - 0xd800) * 1024 + (v.toNat - 0xdc00)) = false := by
      simp only [isBase64urlChar, Bool.or_eq_false_iff, Bool.and_eq_false_iff,
        decide_eq_false_iff_not]
      omega
    rw [codePoints, if_pos h, List.all_cons, hpair, List.all_cons, hu, Bool.false_and,
      Bool.false_and]
  | case4 u v rest h ih =>
    rw [codePoints, if_neg h, List.all_cons, List.all_cons, ih, isBase64urlChar_toNat]

/-! ## Decoding -/

theorem a2bBase64_padded : ∀ {data : PyStr}, (∀ c ∈ data, c ≠ 0x3d) →
    a2bBase64 (data ++ List.replicate ((4 - data.length % 4) % 4) 0x3d) =
      (data.mapM base64Digit).bind sextetBytes
  | [], _ => rfl
  | [a], _ => by
    have hpad : base64Digit 0x3d = none := rfl
    show a2bBase64 [a, 0x3d, 0x3d, 0x3d] = _
    simp only [a2bBase64, hpad, List.mapM_cons, List.mapM_nil]
    cases base64Digit a <;> rfl
  | [a, b], _ => by
    show a2bBase64 [a, b, 0x3d, 0x3d] = _
    simp only [a2bBase64, List.mapM_cons, List.mapM_nil]
    cases base64Digit a <;> cases base64Digit b <;> rfl
  | [a, b, c], h => by
    have hc : c ≠ 0x3d := h c (by simp)
    show a2bBase64 [a, b, c, 0x3d] = _
    simp only [a2bBase64, List.mapM_cons, List.mapM_nil, if_neg hc]
    cases base64Digit a <;> cases base64Digit b <;> cases base64Digit c <;> rfl
  | a :: b :: c :: d :: rest, h => by
    have hd : d ≠ 0x3d := h d (by simp)
    have ih := @a2bBase64_padded rest fun x hx => h x (by simp [hx])
    have hmod : (a :: b :: c :: d :: rest).length % 4 = rest.length % 4 := by
      simp only [List.length_cons]
      omega
    rw [hmod]
    simp only [List.cons_append, a2bBase64, ih, hd, and_false, if_false, List.mapM_cons]
    cases base64Digit a <;> cases base64Digit b <;> cases base64Digit c <;>
      cases base64Digit d <;> try rfl
    cases rest.mapM base64Digit with
    | none => rfl
    | some values =>
      show (sextetBytes values).bind _ = (sextetBytes values).map _
      cases sextetBytes values <;> rfl

/-! ## The bits that stand for no byte -/

/-- The last sextet has no bits beyond the last byte. -/
def NoUnusedBits : List ℕ → Prop
  | [_, b] => b % 16 = 0
  | [_, _, c] => c % 4 = 0
  | _ :: _ :: _ :: _ :: rest => NoUnusedBits rest
  | _ => True

/-- Decoded sextets are encoded again as they were if they have no unused bits. -/
theorem sextets_eq_iff : ∀ {values : List ℕ} {bytes : Bytes}, (∀ n ∈ values, n < 64) →
    sextetBytes values = some bytes → (sextets bytes = values ↔ NoUnusedBits values)
  | [], _, _, h => by
    cases h
    exact iff_of_true rfl trivial
  | [a], _, _, h => by cases h
  | [a, b], _, hlt, h => by
    simp only [List.forall_mem_cons] at hlt
    obtain ⟨ha, hb, -⟩ := hlt
    cases h
    have hnat : (UInt8.ofNat (a * 4 + b / 16)).toNat = a * 4 + b / 16 :=
      UInt8.toNat_ofNat_of_lt' (by rw [UInt8.size]; omega)
    simp only [sextets, NoUnusedBits, hnat, List.cons.injEq, and_true]
    omega
  | [a, b, c], _, hlt, h => by
    simp only [List.forall_mem_cons] at hlt
    obtain ⟨ha, hb, hc, -⟩ := hlt
    cases h
    have hfirst : (UInt8.ofNat (a * 4 + b / 16)).toNat = a * 4 + b / 16 :=
      UInt8.toNat_ofNat_of_lt' (by rw [UInt8.size]; omega)
    have hsecond : (UInt8.ofNat (b % 16 * 16 + c / 4)).toNat = b % 16 * 16 + c / 4 :=
      UInt8.toNat_ofNat_of_lt' (by rw [UInt8.size]; omega)
    simp only [sextets, NoUnusedBits, hfirst, hsecond, List.cons.injEq, and_true]
    omega
  | a :: b :: c :: d :: rest, _, hlt, h => by
    simp only [List.forall_mem_cons] at hlt
    obtain ⟨ha, hb, hc, hd, hrest⟩ := hlt
    obtain ⟨bytes, hbytes, rfl⟩ := Option.map_eq_some_iff.1 h
    have hfirst : (UInt8.ofNat (a * 4 + b / 16)).toNat = a * 4 + b / 16 :=
      UInt8.toNat_ofNat_of_lt' (by rw [UInt8.size]; omega)
    have hsecond : (UInt8.ofNat (b % 16 * 16 + c / 4)).toNat = b % 16 * 16 + c / 4 :=
      UInt8.toNat_ofNat_of_lt' (by rw [UInt8.size]; omega)
    have hthird : (UInt8.ofNat (c % 4 * 64 + d)).toNat = c % 4 * 64 + d :=
      UInt8.toNat_ofNat_of_lt' (by rw [UInt8.size]; omega)
    have ih := sextets_eq_iff hrest hbytes
    simp only [sextets, NoUnusedBits, hfirst, hsecond, hthird, List.cons.injEq, ← ih]
    have hgroup : (a * 4 + b / 16) / 4 = a ∧
      (a * 4 + b / 16) % 4 * 16 + (b % 16 * 16 + c / 4) / 16 = b ∧
        (b % 16 * 16 + c / 4) % 16 * 4 + (c % 4 * 64 + d) / 64 = c ∧ (c % 4 * 64 + d) % 64 = d := by
      omega
    exact ⟨fun h => h.2.2.2.2, fun h => ⟨hgroup.1, hgroup.2.1, hgroup.2.2.1, hgroup.2.2.2, h⟩⟩

theorem sextetBytes_length : ∀ {values : List ℕ} {bytes : Bytes}, sextetBytes values = some bytes →
    values.length % 4 ≠ 1 ∧ bytes.length = values.length * 3 / 4
  | [], _, h => by
    cases h
    simp
  | [_], _, h => by cases h
  | [_, _], _, h => by
    cases h
    simp
  | [_, _, _], _, h => by
    cases h
    simp
  | _ :: _ :: _ :: _ :: rest, _, h => by
    obtain ⟨bytes, hbytes, rfl⟩ := Option.map_eq_some_iff.1 h
    obtain ⟨hmod, hlength⟩ := sextetBytes_length hbytes
    simp only [List.length_cons, hlength]
    omega

theorem exists_sextetBytes : ∀ {values : List ℕ}, values.length % 4 ≠ 1 →
    ∃ bytes, sextetBytes values = some bytes ∧ bytes.length = values.length * 3 / 4
  | [], _ => ⟨_, rfl, (sextetBytes_length rfl).2⟩
  | [_], h => absurd rfl h
  | [_, _], _ => ⟨_, rfl, (sextetBytes_length rfl).2⟩
  | [_, _, _], _ => ⟨_, rfl, (sextetBytes_length rfl).2⟩
  | a :: b :: c :: d :: rest, h => by
    simp only [List.length_cons] at h
    obtain ⟨bytes, hbytes, -⟩ := @exists_sextetBytes rest (by omega)
    have hmore : sextetBytes (a :: b :: c :: d :: rest) = some (UInt8.ofNat (a * 4 + b / 16) ::
        UInt8.ofNat (b % 16 * 16 + c / 4) :: UInt8.ofNat (c % 4 * 64 + d) :: bytes) := by
      rw [sextetBytes, hbytes]
      rfl
    exact ⟨_, hmore, (sextetBytes_length hmore).2⟩

/-! ## The sextets of a string -/

/-- The sextet of a unit. -/
def urlSextet (u : UInt16) : ℕ := (base64Value (ofUrlUnit u)).getD 0

theorem urlSextet_spec {u : UInt16} (h : isBase64UrlUnit u = true) :
    base64Value (ofUrlUnit u) = some (urlSextet u) ∧ urlSextet u < 64 ∧
      toUrlUnit (base64Unit (urlSextet u)) = u ∧ ofUrlUnit u ≠ padUnit := by
  have hall : ∀ n < 0x80, isBase64UrlUnit (UInt16.ofNat n) = true →
      base64Value (ofUrlUnit (UInt16.ofNat n)) = some (urlSextet (UInt16.ofNat n)) ∧
        urlSextet (UInt16.ofNat n) < 64 ∧
        toUrlUnit (base64Unit (urlSextet (UInt16.ofNat n))) = UInt16.ofNat n ∧
        ofUrlUnit (UInt16.ofNat n) ≠ padUnit := by
    decide +kernel
  have hu := hall u.toNat (Handshake.lt_of_isBase64UrlUnit h)
  rw [UInt16.ofNat_toNat] at hu
  exact hu h

section Units

variable {s : JsString} (h : s.all isBase64UrlUnit = true)
include h

theorem mapM_base64Value : (s.map ofUrlUnit).mapM base64Value = some (s.map urlSextet) := by
  induction s with
  | nil => rfl
  | cons u s ih =>
    rw [List.all_cons, Bool.and_eq_true] at h
    rw [List.map_cons, List.mapM_cons, (urlSextet_spec h.1).1, ih h.2]
    rfl

/-- `atob` of the padded units. -/
theorem atob_padded (k : ℕ) :
    atob (s.map ofUrlUnit ++ List.replicate k padUnit) = sextetBytes (s.map urlSextet) := by
  have hpad : ∀ u ∈ s.map ofUrlUnit, u ≠ padUnit := by
    simp only [List.forall_mem_map]
    exact fun u hu => (urlSextet_spec (List.all_eq_true.1 h u hu)).2.2.2
  rw [atob, rdropWhile_pad hpad, mapM_base64Value h, Option.bind_some]

theorem encodeBase64Url_eq_iff (bytes : Bytes) :
    encodeBase64Url bytes = s ↔ sextets bytes = s.map urlSextet := by
  have hback : s = (s.map urlSextet).map fun n => toUrlUnit (base64Unit n) := by
    rw [List.map_map]
    conv_lhs => rw [← List.map_id s]
    exact List.map_congr_left fun u hu => (urlSextet_spec (List.all_eq_true.1 h u hu)).2.2.1.symm
  rw [encodeBase64Url_eq]
  constructor
  · intro heq
    have hsextet : ∀ n ∈ sextets bytes, urlSextet (toUrlUnit (base64Unit n)) = n := by
      intro n hn
      obtain ⟨hvalue, hunit, -⟩ := base64Unit_spec n (sextets_lt bytes n hn)
      rw [urlSextet, hunit, hvalue]
      rfl
    rw [← heq, List.map_map]
    conv_lhs => rw [← List.map_id (sextets bytes)]
    exact List.map_congr_left fun n hn => (hsextet n hn).symm
  · intro heq
    rw [heq, ← hback]

end Units

/-! ## The two decoders -/

/-- The size of what is decoded is that of the string. -/
theorem length_of_sextetBytes {s : JsString} (hne : s ≠ []) (maximumBytes : ℕ) {bytes : Bytes}
    (h : sextetBytes (s.map urlSextet) = some bytes) :
    bytes ≠ [] ∧ s.length % 4 ≠ 1 ∧
      (bytes.length ≤ maximumBytes → s.length ≤ maximumBytes * 2) := by
  obtain ⟨hmod, hlength⟩ := sextetBytes_length h
  rw [List.length_map] at hmod hlength
  have hpos : 0 < s.length := List.length_pos_iff.2 hne
  have htwo : 2 ≤ s.length := by omega
  refine ⟨?_, hmod, fun hle => by omega⟩
  rintro rfl
  rw [List.length_nil] at hlength
  omega

theorem a2bBase64_codePoints {s : JsString} (h : s.all isBase64UrlUnit = true) :
    a2bBase64 ((codePoints s ++ List.replicate ((4 - (codePoints s).length % 4) % 4) 0x3d).map
      ofAltchar) =
      sextetBytes (s.map urlSextet) := by
  have hdata : (codePoints s).map ofAltchar = (s.map ofUrlUnit).map UInt16.toNat := by
    rw [codePoints_of_base64url h, List.map_map, List.map_map]
    exact List.map_congr_left fun u _ => ofAltchar_toNat u
  have hpad : ∀ c ∈ (s.map ofUrlUnit).map UInt16.toNat, c ≠ 0x3d := by
    simp only [List.forall_mem_map]
    intro u hu hc
    exact (urlSextet_spec (List.all_eq_true.1 h u hu)).2.2.2 (UInt16.toNat_inj.1 hc)
  have hlength : (codePoints s).length = ((s.map ofUrlUnit).map UInt16.toNat).length := by
    rw [← hdata, List.length_map]
  have hdigits : ((s.map ofUrlUnit).map UInt16.toNat).mapM base64Digit =
      some (s.map urlSextet) := by
    rw [List.mapM_map, ← mapM_base64Value h]
    exact congrArg (fun f => (s.map ofUrlUnit).mapM f) (funext base64Digit_toNat)
  rw [List.map_append, List.map_replicate, hdata, hlength]
  exact (a2bBase64_padded hpad).trans (by rw [hdigits, Option.bind_some])

/-- What the backend accepts. -/
theorem decodeBase64url_eq_ok {s : JsString} (hne : s ≠ []) {maximumBytes : ℕ} {bytes : Bytes} :
    decodeBase64url (codePoints s) maximumBytes = .ok bytes ↔
      s.all isBase64UrlUnit = true ∧ sextetBytes (s.map urlSextet) = some bytes ∧
        bytes.length ≤ maximumBytes := by
  by_cases hall : s.all isBase64UrlUnit = true
  · have hlength : (codePoints s).length = s.length := by
      rw [codePoints_of_base64url hall, List.length_map]
    have hnil : codePoints s ≠ [] := by
      rw [← List.length_pos_iff, hlength]
      exact List.length_pos_iff.2 hne
    rw [decodeBase64url]
    dsimp only
    rw [a2bBase64_codePoints hall, all_codePoints, hall, hlength,
      if_neg (c := true = false) Bool.noConfusion]
    cases hbytes : sextetBytes (s.map urlSextet) with
    | none => split_ifs <;> simp
    | some decoded =>
      obtain ⟨hdecoded, -, hsize⟩ := length_of_sextetBytes hne maximumBytes hbytes
      dsimp only
      by_cases hle : decoded.length ≤ maximumBytes
      · rw [if_neg (not_or.2 ⟨hnil, not_lt.2 (hsize hle)⟩),
          if_neg (not_or.2 ⟨hdecoded, not_lt.2 hle⟩)]
        simp only [Except.ok.injEq, Option.some.injEq, true_and]
        exact ⟨fun heq => ⟨heq, heq ▸ hle⟩, fun heq => heq.1⟩
      · rw [if_pos (c := decoded = [] ∨ _) (.inr (not_le.1 hle)), ite_self]
        refine iff_of_false nofun ?_
        rintro ⟨-, heq, hle'⟩
        exact hle (Option.some.inj heq ▸ hle')
  · rw [decodeBase64url]
    dsimp only
    rw [all_codePoints, if_pos (c := s.all isBase64UrlUnit = false) (by simpa using hall), ite_self]
    exact iff_of_false nofun fun h => hall h.1

/-- What the browser accepts. -/
theorem decodeBase64Url_eq_ok {s : JsString} (hne : s ≠ []) {maximumBytes : ℕ} {bytes : Bytes} :
    decodeBase64Url s maximumBytes = .ok bytes ↔
      s.all isBase64UrlUnit = true ∧ sextetBytes (s.map urlSextet) = some bytes ∧
        bytes.length ≤ maximumBytes ∧ NoUnusedBits (s.map urlSextet) := by
  have hiff (hall : s.all isBase64UrlUnit = true) {decoded : Bytes}
      (hbytes : sextetBytes (s.map urlSextet) = some decoded) :
      encodeBase64Url decoded = s ↔ NoUnusedBits (s.map urlSextet) := by
    have hlt : ∀ n ∈ s.map urlSextet, n < 64 := by
      simp only [List.forall_mem_map]
      exact fun u hu => (urlSextet_spec (List.all_eq_true.1 hall u hu)).2.1
    rw [encodeBase64Url_eq_iff hall, sextets_eq_iff hlt hbytes]
  simp only [decodeBase64Url, bind_eq_ok, throwIf_eq_ok, if_neg hne, not_or, not_lt,
    Bool.not_eq_false]
  constructor
  · rintro ⟨-, -, -, ⟨hall, hmod⟩, h⟩
    rw [atob_padded hall] at h
    cases hbytes : sextetBytes (s.map urlSextet) with
    | none =>
      rw [hbytes] at h
      cases h
    | some decoded =>
      rw [hbytes] at h
      simp only [bind_eq_ok, throwIf_eq_ok, pure_eq_ok, not_or, not_lt, ne_eq, not_not] at h
      obtain ⟨-, ⟨hle, hencode⟩, rfl⟩ := h
      exact ⟨hall, rfl, hle, (hiff hall hbytes).1 hencode⟩
  · rintro ⟨hall, hbytes, hle, hunused⟩
    obtain ⟨-, hmod, hsize⟩ := length_of_sextetBytes hne maximumBytes hbytes
    refine ⟨(), hsize hle, (), ⟨hall, hmod⟩, ?_⟩
    rw [atob_padded hall, hbytes]
    simp only [bind_eq_ok, throwIf_eq_ok, pure_eq_ok, not_or, not_lt, ne_eq, not_not]
    exact ⟨(), ⟨hle, (hiff hall hbytes).2 hunused⟩, trivial⟩

/-- Decoding inverts encoding, and what the browser accepts is an encoding.  The backend accepts the
same strings with the same bytes if and only if the last character of a string that fits has no
unused bits. -/
theorem base64url_agree_iff (s : JsString) (maximumBytes : ℕ) :
    (∀ bytes : Bytes, bytes.length ≤ maximumBytes →
      decodeBase64Url (encodeBase64Url bytes) maximumBytes = .ok bytes) ∧
    (∀ bytes, decodeBase64Url s maximumBytes = .ok bytes → encodeBase64Url bytes = s) ∧
    (s ≠ [] →
      ((∀ bytes, decodeBase64url (codePoints s) maximumBytes = .ok bytes ↔
          decodeBase64Url s maximumBytes = .ok bytes) ↔
        (s.all isBase64UrlUnit = true → s.length % 4 ≠ 1 → s.length * 3 / 4 ≤ maximumBytes →
          NoUnusedBits (s.map urlSextet)))) := by
  refine ⟨fun bytes h => decodeBase64Url_encodeBase64Url h,
    fun bytes h => (encodeBase64Url_of_decode h).1, fun hne => ?_⟩
  simp only [decodeBase64url_eq_ok hne, decodeBase64Url_eq_ok hne]
  constructor
  · intro h hall hmod hle
    obtain ⟨bytes, hbytes, hlength⟩ :=
      @exists_sextetBytes (s.map urlSextet) (by rwa [List.length_map])
    rw [List.length_map] at hlength
    exact ((h bytes).1 ⟨hall, hbytes, hlength ▸ hle⟩).2.2.2
  · intro h bytes
    constructor
    · rintro ⟨hall, hbytes, hle⟩
      obtain ⟨hmod, hlength⟩ := sextetBytes_length hbytes
      rw [List.length_map] at hmod hlength
      exact ⟨hall, hbytes, hle, h hall hmod (hlength ▸ hle)⟩
    · exact fun h => ⟨h.1, h.2.1, h.2.2.1⟩

/-- The letters `QR` stand for the byte of `QQ` to the backend only. -/
theorem base64url_agree_iff_unused :
    decodeBase64url (codePoints (js "QR")) 4096 = .ok [0x41] ∧
      decodeBase64Url (js "QR") 4096 =
        .error (protocolError "Invalid base64url value." "invalid_base64url") := by
  decide +kernel

end SelfRelay.Backend
