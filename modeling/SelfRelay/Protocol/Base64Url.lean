import Mathlib.Data.List.DropRight
import SelfRelay.Protocol.Basic

/-!
# Base64url

`encodeBase64Url` and `decodeBase64Url`, built as in the source from `btoa` and `atob`.  Decoding
accepts only what encoding produces: it inverts the encoding (`decodeBase64Url_encodeBase64Url`) and
its result encodes to what was decoded (`encodeBase64Url_of_decode`).
-/

namespace SelfRelay

/-! ## `btoa` and `atob` -/

/-- The alphabet of `btoa`. -/
def base64Unit (n : ℕ) : UInt16 :=
  UInt16.ofNat (if n < 26 then 0x41 + n else if n < 52 then 0x61 + (n - 26)
    else if n < 62 then 0x30 + (n - 52) else if n = 62 then 0x2b else 0x2f)

/-- The six bits of a unit of the alphabet. -/
def base64Value (u : UInt16) : Option ℕ :=
  if 0x41 ≤ u.toNat ∧ u.toNat ≤ 0x5a then some (u.toNat - 0x41)
  else if 0x61 ≤ u.toNat ∧ u.toNat ≤ 0x7a then some (u.toNat - 0x61 + 26)
  else if 0x30 ≤ u.toNat ∧ u.toNat ≤ 0x39 then some (u.toNat - 0x30 + 52)
  else if u = 0x2b then some 62
  else if u = 0x2f then some 63
  else none

/-- The padding unit `=`. -/
def padUnit : UInt16 := 0x3d

/-- `btoa` of the binary string of some bytes. -/
def btoa : Bytes → JsString
  | [] => []
  | [a] => [base64Unit (a.toNat / 4), base64Unit (a.toNat % 4 * 16), padUnit, padUnit]
  | [a, b] =>
    [base64Unit (a.toNat / 4), base64Unit (a.toNat % 4 * 16 + b.toNat / 16),
      base64Unit (b.toNat % 16 * 4), padUnit]
  | a :: b :: c :: rest =>
    base64Unit (a.toNat / 4) :: base64Unit (a.toNat % 4 * 16 + b.toNat / 16) ::
      base64Unit (b.toNat % 16 * 4 + c.toNat / 64) :: base64Unit (c.toNat % 64) :: btoa rest

/-- The bytes of a sequence of sextets; the bits left over at the end are dropped. -/
def sextetBytes : List ℕ → Option Bytes
  | [] => some []
  | [_] => none
  | [a, b] => some [UInt8.ofNat (a * 4 + b / 16)]
  | [a, b, c] => some [UInt8.ofNat (a * 4 + b / 16), UInt8.ofNat (b % 16 * 16 + c / 4)]
  | a :: b :: c :: d :: rest =>
    (sextetBytes rest).map fun bytes =>
      UInt8.ofNat (a * 4 + b / 16) :: UInt8.ofNat (b % 16 * 16 + c / 4) ::
        UInt8.ofNat (c % 4 * 64 + d) :: bytes

/-- `atob` of a text without whitespace whose padding is complete; `none` is the exception. -/
def atob (text : JsString) : Option Bytes :=
  ((text.rdropWhile (· = padUnit)).mapM base64Value).bind sextetBytes

/-! ## The protocol's functions -/

/-- `+` becomes `-` and `/` becomes `_`. -/
def toUrlUnit (u : UInt16) : UInt16 := if u = 0x2b then 0x2d else if u = 0x2f then 0x5f else u

/-- `-` becomes `+` and `_` becomes `/`. -/
def ofUrlUnit (u : UInt16) : UInt16 := if u = 0x2d then 0x2b else if u = 0x5f then 0x2f else u

/-- `[A-Za-z0-9_-]` -/
def isBase64UrlUnit (u : UInt16) : Bool :=
  (0x41 ≤ u.toNat && u.toNat ≤ 0x5a) || (0x61 ≤ u.toNat && u.toNat ≤ 0x7a) ||
    (0x30 ≤ u.toNat && u.toNat ≤ 0x39) || u = 0x5f || u = 0x2d

/-- `encodeBase64Url` -/
def encodeBase64Url (value : Bytes) : JsString :=
  ((btoa value).map toUrlUnit).rdropWhile (· = padUnit)

/-- `decodeBase64Url` -/
def decodeBase64Url (value : JsString) (maximumBytes : ℕ) : Checked Bytes := do
  let error := protocolError "Invalid base64url value." "invalid_base64url"
  throwIf (value.length > maximumBytes * 2) error
  throwIf (value.all isBase64UrlUnit = false ∨ value.length % 4 = 1) error
  if value = [] then return []
  let padding := List.replicate ((4 - value.length % 4) % 4) padUnit
  match atob (value.map ofUrlUnit ++ padding) with
  | none => .error error
  | some result => do
    throwIf (result.length > maximumBytes ∨ encodeBase64Url result ≠ value) error
    return result

/-! ## Round trips -/

/-- What decoding accepts is the encoding of what it returns. -/
theorem encodeBase64Url_of_decode {value : JsString} {maximumBytes : ℕ} {bytes : Bytes}
    (h : decodeBase64Url value maximumBytes = .ok bytes) :
    encodeBase64Url bytes = value ∧ bytes.length ≤ maximumBytes := by
  simp only [decodeBase64Url, bind_eq_ok, throwIf_eq_ok] at h
  obtain ⟨-, -, -, -, h⟩ := h
  split_ifs at h with hnil
  · obtain rfl := pure_eq_ok.1 h
    exact ⟨hnil.symm, Nat.zero_le _⟩
  · rcases hatob : atob _ with _ | result <;> rw [hatob] at h
    · cases h
    · simp only [bind_eq_ok, throwIf_eq_ok, pure_eq_ok, not_or, not_lt, ne_eq, not_not] at h
      obtain ⟨-, ⟨hlen, hval⟩, rfl⟩ := h
      exact ⟨hval, hlen⟩

/-- The sextets of some bytes. -/
def sextets : Bytes → List ℕ
  | [] => []
  | [a] => [a.toNat / 4, a.toNat % 4 * 16]
  | [a, b] => [a.toNat / 4, a.toNat % 4 * 16 + b.toNat / 16, b.toNat % 16 * 4]
  | a :: b :: c :: rest =>
    a.toNat / 4 :: (a.toNat % 4 * 16 + b.toNat / 16) :: (b.toNat % 16 * 4 + c.toNat / 64) ::
      (c.toNat % 64) :: sextets rest

theorem sextets_lt : ∀ (bytes : Bytes), ∀ n ∈ sextets bytes, n < 64
  | [] => nofun
  | [a] => by
    have := a.toNat_lt
    simp only [sextets, List.forall_mem_cons]
    exact ⟨by omega, by omega, nofun⟩
  | [a, b] => by
    have := a.toNat_lt
    have := b.toNat_lt
    simp only [sextets, List.forall_mem_cons]
    exact ⟨by omega, by omega, by omega, nofun⟩
  | a :: b :: c :: rest => by
    have := a.toNat_lt
    have := b.toNat_lt
    have := c.toNat_lt
    simp only [sextets, List.forall_mem_cons]
    exact ⟨by omega, by omega, by omega, by omega, sextets_lt rest⟩

theorem sextetBytes_sextets : ∀ bytes : Bytes, sextetBytes (sextets bytes) = some bytes
  | [] => rfl
  | [a] => by
    have ha : a.toNat / 4 * 4 + a.toNat % 4 * 16 / 16 = a.toNat := by omega
    simp only [sextets, sextetBytes, ha, UInt8.ofNat_toNat]
  | [a, b] => by
    have := b.toNat_lt
    have ha : a.toNat / 4 * 4 + (a.toNat % 4 * 16 + b.toNat / 16) / 16 = a.toNat := by omega
    have hb : (a.toNat % 4 * 16 + b.toNat / 16) % 16 * 16 + b.toNat % 16 * 4 / 4 = b.toNat := by
      omega
    simp only [sextets, sextetBytes, ha, hb, UInt8.ofNat_toNat]
  | a :: b :: c :: rest => by
    have := b.toNat_lt
    have := c.toNat_lt
    have ha : a.toNat / 4 * 4 + (a.toNat % 4 * 16 + b.toNat / 16) / 16 = a.toNat := by omega
    have hb : (a.toNat % 4 * 16 + b.toNat / 16) % 16 * 16 +
        (b.toNat % 16 * 4 + c.toNat / 64) / 4 = b.toNat := by omega
    have hc : (b.toNat % 16 * 4 + c.toNat / 64) % 4 * 64 + c.toNat % 64 = c.toNat := by omega
    simp only [sextets, sextetBytes, sextetBytes_sextets rest, ha, hb, hc, UInt8.ofNat_toNat,
      Option.map_some]

theorem length_sextets : ∀ bytes : Bytes, (sextets bytes).length ≤ bytes.length * 2 ∧
    (sextets bytes).length % 4 ≠ 1
  | [] => by simp [sextets]
  | [a] => by simp [sextets]
  | [a, b] => by simp [sextets]
  | a :: b :: c :: rest => by
    obtain ⟨hle, hmod⟩ := length_sextets rest
    simp only [sextets, List.length_cons]
    omega

/-- What the two alphabets do to a sextet. -/
theorem base64Unit_spec : ∀ n < 64, base64Value (base64Unit n) = some n ∧
    ofUrlUnit (toUrlUnit (base64Unit n)) = base64Unit n ∧ base64Unit n ≠ padUnit ∧
    toUrlUnit (base64Unit n) ≠ padUnit ∧ isBase64UrlUnit (toUrlUnit (base64Unit n)) = true := by
  decide +kernel

/-- Stripping the padding from behind units that are none. -/
theorem rdropWhile_pad {l : JsString} (hl : ∀ u ∈ l, u ≠ padUnit) (k : ℕ) :
    (l ++ List.replicate k padUnit).rdropWhile (· = padUnit) = l := by
  induction k with
  | zero =>
    rw [List.replicate_zero, List.append_nil, List.rdropWhile_eq_self_iff]
    exact fun hne => by simpa using hl _ (List.getLast_mem hne)
  | succ k ih =>
    rw [List.replicate_succ', ← List.append_assoc, List.rdropWhile_concat_pos _ _ _ (by simp), ih]

theorem mapM_eq_some_self {α : Type} {f : α → Option α} :
    ∀ l : List α, (∀ a ∈ l, f a = some a) → l.mapM f = some l
  | [], _ => rfl
  | a :: l, h => by
    rw [List.mapM_cons, h a (by simp), mapM_eq_some_self l fun b hb => h b (by simp [hb])]
    rfl

/-- `btoa` writes the sextets and pads. -/
theorem btoa_eq : ∀ bytes : Bytes, ∃ k, btoa bytes =
    (sextets bytes).map base64Unit ++ List.replicate k padUnit
  | [] => ⟨0, rfl⟩
  | [a] => ⟨2, rfl⟩
  | [a, b] => ⟨1, rfl⟩
  | a :: b :: c :: rest => by
    obtain ⟨k, hk⟩ := btoa_eq rest
    exact ⟨k, by simp [btoa, sextets, hk]⟩

theorem encodeBase64Url_eq (bytes : Bytes) :
    encodeBase64Url bytes = (sextets bytes).map fun n => toUrlUnit (base64Unit n) := by
  obtain ⟨k, hk⟩ := btoa_eq bytes
  have hpad : toUrlUnit padUnit = padUnit := rfl
  rw [encodeBase64Url, hk, List.map_append, List.map_replicate, hpad, List.map_map]
  refine rdropWhile_pad ?_ k
  simp only [List.forall_mem_map, Function.comp_apply]
  exact fun n hn => (base64Unit_spec n (sextets_lt bytes n hn)).2.2.2.1

theorem atob_encode (bytes : Bytes) (k : ℕ) :
    atob ((encodeBase64Url bytes).map ofUrlUnit ++ List.replicate k padUnit) = some bytes := by
  have hlt := sextets_lt bytes
  have hmap : (encodeBase64Url bytes).map ofUrlUnit = (sextets bytes).map base64Unit := by
    rw [encodeBase64Url_eq, List.map_map]
    exact List.map_congr_left fun n hn => (base64Unit_spec n (hlt n hn)).2.1
  have hvalues : ((sextets bytes).map base64Unit).mapM base64Value = some (sextets bytes) := by
    rw [List.mapM_map]
    exact mapM_eq_some_self _ fun n hn => (base64Unit_spec n (hlt n hn)).1
  rw [atob, hmap, rdropWhile_pad _ k, hvalues, Option.bind_some, sextetBytes_sextets]
  simp only [List.forall_mem_map]
  exact fun n hn => (base64Unit_spec n (hlt n hn)).2.2.1

/-- Decoding inverts encoding. -/
theorem decodeBase64Url_encodeBase64Url {bytes : Bytes} {maximumBytes : ℕ}
    (h : bytes.length ≤ maximumBytes) :
    decodeBase64Url (encodeBase64Url bytes) maximumBytes = .ok bytes := by
  obtain ⟨hle, hmod⟩ := length_sextets bytes
  have hlen : (encodeBase64Url bytes).length = (sextets bytes).length := by
    rw [encodeBase64Url_eq, List.length_map]
  have hall : (encodeBase64Url bytes).all isBase64UrlUnit = true := by
    rw [encodeBase64Url_eq, List.all_eq_true]
    simp only [List.forall_mem_map]
    exact fun n hn => (base64Unit_spec n (sextets_lt bytes n hn)).2.2.2.2
  simp only [decodeBase64Url, bind_eq_ok, throwIf_eq_ok]
  refine ⟨(), by rw [hlen]; omega, (), by simp [hall, hlen, hmod], ?_⟩
  split_ifs with hnil
  · have hbytes := atob_encode bytes 0
    rw [hnil] at hbytes
    exact pure_eq_ok.2 (Option.some.inj hbytes)
  · rw [atob_encode]
    simp only [bind_eq_ok, throwIf_eq_ok, pure_eq_ok]
    exact ⟨(), by simp [h], trivial⟩

end SelfRelay
