import SelfRelay.Protocol.Basic

/-!
# Transfer identifiers

`UUID_PATTERN`, `requireUuid`, and the conversion between a lowercase UUID and the 16 bytes a frame
header carries.  The conversion loses nothing on an accepted identifier
(`bytesToUuid_uuidToBytes`).
-/

namespace SelfRelay

/-- The code unit of `-`. -/
def dash : UInt16 := 0x2d

/-- `[0-9a-f]` -/
def isLowerHex (c : UInt16) : Bool :=
  (0x30 ≤ c.toNat && c.toNat ≤ 0x39) || (0x61 ≤ c.toNat && c.toNat ≤ 0x66)

/-- The character classes of `UUID_PATTERN`. -/
inductive UuidClass where
  | hex
  | version
  | variant
  | dash
  deriving DecidableEq, Repr

namespace UuidClass

def test : UuidClass → UInt16 → Bool
  | hex, c => isLowerHex c
  | version, c => 0x31 ≤ c.toNat && c.toNat ≤ 0x35
  | variant, c => c.toNat = 0x38 || c.toNat = 0x39 || c.toNat = 0x61 || c.toNat = 0x62
  | dash, c => c = SelfRelay.dash

/-- A pattern of single-character classes, anchored at both ends. -/
def testAll : List UuidClass → JsString → Bool
  | [], [] => true
  | p :: ps, c :: cs => p.test c && testAll ps cs
  | _, _ => false

end UuidClass

open UuidClass in
/-- The five groups of `UUID_PATTERN` without their separators. -/
def uuidGroups : List (List UuidClass) :=
  [List.replicate 8 hex, List.replicate 4 hex, version :: List.replicate 3 hex,
    variant :: List.replicate 3 hex, List.replicate 12 hex]

/-- `UUID_PATTERN` -/
def uuidPattern : List UuidClass := [UuidClass.dash].intercalate uuidGroups

/-- `UUID_PATTERN.test(value)` -/
def isUuid (value : JsString) : Bool := UuidClass.testAll uuidPattern value

/-- `requireUuid` -/
def requireUuid (value : JsString) (name : String) : Checked JsString := do
  throwIf (isUuid value = false)
    (protocolError (name ++ " must be a lowercase UUID.") "invalid_handshake")
  return value

/-! ## Hexadecimal digits -/

/-- The value of a lowercase hexadecimal digit. -/
def hexValue (c : UInt16) : ℕ := if c.toNat ≤ 0x39 then c.toNat - 0x30 else c.toNat - 0x57

/-- The lowercase hexadecimal digit of a value below 16. -/
def hexDigit (n : ℕ) : UInt16 := UInt16.ofNat (if n < 10 then n + 0x30 else n + 0x57)

theorem hexValue_lt {c : UInt16} (h : isLowerHex c = true) : hexValue c < 16 := by
  simp only [isLowerHex, Bool.or_eq_true, Bool.and_eq_true, decide_eq_true_eq] at h
  unfold hexValue
  split_ifs <;> omega

theorem hexDigit_hexValue {c : UInt16} (h : isLowerHex c = true) : hexDigit (hexValue c) = c := by
  have hc : c = UInt16.ofNat c.toNat := UInt16.ofNat_toNat.symm
  simp only [isLowerHex, Bool.or_eq_true, Bool.and_eq_true, decide_eq_true_eq] at h
  conv_rhs => rw [hc]
  unfold hexDigit hexValue
  congr 1
  split_ifs <;> omega

/-- Pairs of hexadecimal digits, each read by `Number.parseInt(…, 16)`. -/
def hexToBytes : JsString → Bytes
  | a :: b :: rest => UInt8.ofNat (16 * hexValue a + hexValue b) :: hexToBytes rest
  | _ => []

/-- `Array.from(bytes, (byte) => byte.toString(16).padStart(2, '0')).join('')` -/
def bytesToHex (bytes : Bytes) : JsString :=
  bytes.flatMap fun byte => [hexDigit (byte.toNat / 16), hexDigit (byte.toNat % 16)]

theorem bytesToHex_hexToBytes (digits : JsString) (heven : digits.length % 2 = 0)
    (hhex : ∀ c ∈ digits, isLowerHex c = true) : bytesToHex (hexToBytes digits) = digits := by
  induction digits using hexToBytes.induct with
  | case1 a b rest ih =>
    have ha := hexValue_lt (hhex a (by simp))
    have hb := hexValue_lt (hhex b (by simp))
    have hbyte : (UInt8.ofNat (16 * hexValue a + hexValue b)).toNat =
        16 * hexValue a + hexValue b := by
      rw [UInt8.toNat_ofNat']
      omega
    have hhigh : (16 * hexValue a + hexValue b) / 16 = hexValue a := by omega
    have hlow : (16 * hexValue a + hexValue b) % 16 = hexValue b := by omega
    have hrest : bytesToHex (hexToBytes rest) = rest :=
      ih (by simp only [List.length_cons] at heven; omega) fun c hc => hhex c (by simp [hc])
    simp only [bytesToHex] at hrest
    simp only [hexToBytes, bytesToHex, List.flatMap_cons, hbyte, hhigh, hlow,
      hexDigit_hexValue (hhex a (by simp)), hexDigit_hexValue (hhex b (by simp)), hrest]
    rfl
  | case2 digits hshort =>
    match digits with
    | [] => rfl
    | [_] => simp at heven
    | a :: b :: rest => exact absurd rfl (hshort a b rest)

theorem length_hexToBytes (digits : JsString) : (hexToBytes digits).length = digits.length / 2 := by
  induction digits using hexToBytes.induct with
  | case1 a b rest ih => simp only [hexToBytes, List.length_cons, ih]; omega
  | case2 digits hshort =>
    match digits with
    | [] => rfl
    | [_] => simp [hexToBytes]
    | a :: b :: rest => exact absurd rfl (hshort a b rest)

/-! ## Identifiers as bytes -/

/-- The body of `uuidToBytes`, after its pattern test. -/
def uuidBytes (value : JsString) : Bytes := hexToBytes (value.filter (· ≠ dash))

/-- `uuidToBytes` -/
def uuidToBytes (value : JsString) : Checked Bytes := do
  throwIf (isUuid value = false)
    (protocolError "Frame transfer identifier is invalid." "invalid_frame")
  return uuidBytes value

/-- The five hyphenated groups of `bytesToUuid`. -/
def hyphenate (hex : JsString) : JsString :=
  hex.take 8 ++ dash :: ((hex.drop 8).take 4 ++ dash :: ((hex.drop 12).take 4 ++
    dash :: ((hex.drop 16).take 4 ++ dash :: hex.drop 20)))

/-- `bytesToUuid` -/
def bytesToUuid (bytes : Bytes) : Checked JsString := do
  throwIf (bytes.length ≠ 16)
    (protocolError "Frame transfer identifier is invalid." "invalid_frame")
  return hyphenate (bytesToHex bytes)

namespace UuidClass

theorem testAll_append {ps qs : List UuidClass} {s : JsString} :
    testAll (ps ++ qs) s = true ↔
      ∃ a b, s = a ++ b ∧ testAll ps a = true ∧ testAll qs b = true := by
  induction ps generalizing s with
  | nil =>
    constructor
    · intro h
      exact ⟨[], s, rfl, rfl, h⟩
    · rintro ⟨a, b, rfl, ha, hb⟩
      cases a with
      | nil => exact hb
      | cons => cases ha
  | cons p ps ih =>
    cases s with
    | nil =>
      constructor
      · intro h
        cases h
      · rintro ⟨a, b, hs, ha, -⟩
        obtain ⟨rfl, -⟩ := List.append_eq_nil_iff.1 hs.symm
        cases ha
    | cons c s =>
      simp only [List.cons_append, testAll, Bool.and_eq_true, ih]
      constructor
      · rintro ⟨hc, a, b, rfl, ha, hb⟩
        exact ⟨c :: a, b, rfl, by simp [testAll, hc, ha], hb⟩
      · rintro ⟨a, b, hs, ha, hb⟩
        cases a with
        | nil => cases ha
        | cons d a =>
          obtain ⟨rfl, rfl⟩ := List.cons_eq_cons.1 hs
          simp only [testAll, Bool.and_eq_true] at ha
          exact ⟨ha.1, a, b, rfl, ha.2, hb⟩

/-- A match of a pattern without separators has the pattern's length and only hex digits. -/
theorem digits_of_testAll {ps : List UuidClass} (hps : dash ∉ ps) {s : JsString}
    (h : testAll ps s = true) : s.length = ps.length ∧ ∀ c ∈ s, isLowerHex c = true := by
  induction ps generalizing s with
  | nil => cases s <;> simp_all [testAll]
  | cons p ps ih =>
    cases s with
    | nil => cases h
    | cons c s =>
      simp only [testAll, Bool.and_eq_true] at h
      obtain ⟨hlen, hall⟩ := ih (fun hm => hps (by simp [hm])) h.2
      have hc : isLowerHex c = true := by
        cases p with
        | hex => exact h.1
        | dash => simp at hps
        | version =>
          have := h.1
          simp only [test, Bool.and_eq_true, decide_eq_true_eq] at this
          simp only [isLowerHex, Bool.or_eq_true, Bool.and_eq_true, decide_eq_true_eq]
          omega
        | variant =>
          have := h.1
          simp only [test, Bool.or_eq_true, decide_eq_true_eq] at this
          simp only [isLowerHex, Bool.or_eq_true, Bool.and_eq_true, decide_eq_true_eq]
          omega
      exact ⟨by simp [hlen], by simpa [hc] using hall⟩

theorem eq_dash_of_testAll {ps : List UuidClass} {s : JsString}
    (h : testAll (dash :: ps) s = true) : ∃ t, s = SelfRelay.dash :: t ∧ testAll ps t = true := by
  cases s with
  | nil => cases h
  | cons c s =>
    simp only [testAll, test, Bool.and_eq_true, decide_eq_true_eq] at h
    exact ⟨s, by rw [h.1], h.2⟩

end UuidClass

/-- The hyphenated groups of an accepted identifier. -/
theorem exists_groups_of_isUuid {value : JsString} (h : isUuid value = true) :
    ∃ a b c d e : JsString,
      value = a ++ dash :: (b ++ dash :: (c ++ dash :: (d ++ dash :: e))) ∧
      (a.length = 8 ∧ b.length = 4 ∧ c.length = 4 ∧ d.length = 4 ∧ e.length = 12) ∧
      ∀ x ∈ a ++ b ++ c ++ d ++ e, isLowerHex x = true := by
  have hpattern : uuidPattern = uuidGroups[0] ++ UuidClass.dash :: (uuidGroups[1] ++
      UuidClass.dash :: (uuidGroups[2] ++ UuidClass.dash :: (uuidGroups[3] ++
        UuidClass.dash :: uuidGroups[4]))) := by decide
  rw [isUuid, hpattern] at h
  obtain ⟨a, _, rfl, ha, h⟩ := UuidClass.testAll_append.1 h
  obtain ⟨_, rfl, h⟩ := UuidClass.eq_dash_of_testAll h
  obtain ⟨b, _, rfl, hb, h⟩ := UuidClass.testAll_append.1 h
  obtain ⟨_, rfl, h⟩ := UuidClass.eq_dash_of_testAll h
  obtain ⟨c, _, rfl, hc, h⟩ := UuidClass.testAll_append.1 h
  obtain ⟨_, rfl, h⟩ := UuidClass.eq_dash_of_testAll h
  obtain ⟨d, _, rfl, hd, h⟩ := UuidClass.testAll_append.1 h
  obtain ⟨e, rfl, he⟩ := UuidClass.eq_dash_of_testAll h
  obtain ⟨la, ha⟩ := UuidClass.digits_of_testAll (by decide) ha
  obtain ⟨lb, hb⟩ := UuidClass.digits_of_testAll (by decide) hb
  obtain ⟨lc, hc⟩ := UuidClass.digits_of_testAll (by decide) hc
  obtain ⟨ld, hd⟩ := UuidClass.digits_of_testAll (by decide) hd
  obtain ⟨le, he⟩ := UuidClass.digits_of_testAll (by decide) he
  refine ⟨a, b, c, d, e, rfl, ⟨la, lb, lc, ld, le⟩, ?_⟩
  intro x hx
  simp only [List.mem_append] at hx
  rcases hx with (((hx | hx) | hx) | hx) | hx
  exacts [ha x hx, hb x hx, hc x hx, hd x hx, he x hx]

theorem filter_dash_of_hex {digits : JsString} (h : ∀ c ∈ digits, isLowerHex c = true) :
    digits.filter (· ≠ dash) = digits := by
  rw [List.filter_eq_self]
  intro c hc
  have := h c hc
  rw [decide_eq_true_eq]
  rintro rfl
  revert this
  decide

/-- The digits of an accepted identifier, and the identifier rebuilt from them. -/
theorem filter_dash_of_isUuid {value : JsString} (h : isUuid value = true) :
    (value.filter (· ≠ dash)).length = 32 ∧
      (∀ c ∈ value.filter (· ≠ dash), isLowerHex c = true) ∧
      hyphenate (value.filter (· ≠ dash)) = value := by
  obtain ⟨a, b, c, d, e, rfl, ⟨la, lb, lc, ld, le⟩, hhex⟩ := exists_groups_of_isUuid h
  have hdigits : (a ++ dash :: (b ++ dash :: (c ++ dash :: (d ++ dash :: e)))).filter (· ≠ dash) =
      a ++ b ++ c ++ d ++ e := by
    have := filter_dash_of_hex hhex
    simp only [List.filter_append] at this
    simpa only [List.filter_append, List.filter_cons, ne_eq, not_true_eq_false, decide_false,
      Bool.false_eq_true, if_false, List.append_assoc] using this
  rw [hdigits]
  refine ⟨by simp [la, lb, lc, ld, le], hhex, ?_⟩
  simp [hyphenate, List.drop_append, la, lb, lc, ld, List.drop_of_length_le]

theorem length_uuidBytes {value : JsString} (h : isUuid value = true) :
    (uuidBytes value).length = 16 := by
  rw [uuidBytes, length_hexToBytes, (filter_dash_of_isUuid h).1]

/-- An accepted identifier survives its passage through a frame header. -/
theorem bytesToUuid_uuidBytes {value : JsString} (h : isUuid value = true) :
    bytesToUuid (uuidBytes value) = .ok value := by
  obtain ⟨hlen, hhex, hvalue⟩ := filter_dash_of_isUuid h
  have hdigits : bytesToHex (uuidBytes value) = value.filter (· ≠ dash) :=
    bytesToHex_hexToBytes _ (by rw [hlen]) hhex
  simp only [bytesToUuid, throwIf_of_not (not_not.2 (length_uuidBytes h)), hdigits, hvalue]
  rfl

theorem uuidBytes_injective {s t : JsString} (hs : isUuid s = true) (ht : isUuid t = true)
    (h : uuidBytes s = uuidBytes t) : s = t := by
  have := bytesToUuid_uuidBytes hs
  rw [h, bytesToUuid_uuidBytes ht] at this
  exact (Except.ok.inj this).symm

end SelfRelay
