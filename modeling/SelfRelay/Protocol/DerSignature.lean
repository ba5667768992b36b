import Mathlib.Data.List.Basic
import Mathlib.Order.Nat
import SelfRelay.Protocol.Signature

/-!
# DER and P1363

`p1363ToDer` writes each half of a signature without its leading zeros, with a zero byte before a
first byte that would read as a sign.  These are the integers that `readDerInteger` accepts
(`derInteger_iff`), so the two conversions undo each other (`derToP1363_p1363ToDer`).
-/

namespace SelfRelay

/-! ## Writing -/

/-- `derLength` -/
def derLength (length : ℕ) : Checked Bytes := do
  if length > 127 then
    throwIf (length > 255) (invalidSignature "ECDSA signature is too long.")
    return [0x81, UInt8.ofNat length]
  return [UInt8.ofNat length]

/-- The loop of `derInteger`: leading zeros go, but not the last byte. -/
def stripZeros : Bytes → Bytes
  | [] => []
  | [b] => [b]
  | b :: c :: rest => if b = 0 then stripZeros (c :: rest) else b :: c :: rest

/-- The bytes of an integer, with a zero byte where the first one would read as a sign. -/
def withSign (body : Bytes) : Bytes := if 0x80 ≤ (body.getD 0 0).toNat then 0 :: body else body

/-- `derInteger` -/
def derInteger (value : Bytes) : Checked Bytes := do
  let body := withSign (stripZeros value)
  let length ← derLength body.length
  return 0x02 :: length ++ body

/-- `p1363ToDer` -/
def p1363ToDer (bytes : Bytes) : Checked Bytes := do
  throwIf (bytes.length ≠ p256SignatureBytes)
    (invalidSignature "ECDSA signature must be 64-byte P1363.")
  throwIf (allZero (bytes.take 32) ∨ allZero (bytes.drop 32))
    (invalidSignature "ECDSA signature integers must be positive.")
  let r ← derInteger (bytes.take 32)
  let s ← derInteger (bytes.drop 32)
  let body := r ++ s
  let length ← derLength body.length
  return 0x30 :: length ++ body

/-! ## Integers -/

theorem derLength_short {length : ℕ} (h : length < 128) :
    derLength length = .ok [UInt8.ofNat length] := by
  rw [derLength, if_neg (by omega)]
  rfl

/-- A positive integer of at most 32 bytes, without leading zeros. -/
structure Magnitude (bytes : Bytes) : Prop where
  first : bytes.getD 0 0 ≠ 0
  length : bytes.length ≤ 32

theorem Magnitude.exists_cons {bytes : Bytes} (h : Magnitude bytes) :
    ∃ b rest, bytes = b :: rest ∧ b ≠ 0 := by
  cases bytes with
  | nil => exact absurd rfl h.first
  | cons b rest => exact ⟨b, rest, rfl, h.first⟩

/-- An integer in 32 bytes. -/
def widen (bytes : Bytes) : Bytes := List.replicate (32 - bytes.length) 0 ++ bytes

theorem length_widen {bytes : Bytes} (h : Magnitude bytes) : (widen bytes).length = 32 := by
  have hlength := h.length
  rw [widen, List.length_append, List.length_replicate]
  omega

theorem allZero_eq_true {bytes : Bytes} : allZero bytes = true ↔ ∀ b ∈ bytes, b = 0 := by
  simp [allZero]

theorem not_allZero_widen {bytes : Bytes} (h : Magnitude bytes) :
    ¬ allZero (widen bytes) = true := by
  obtain ⟨b, rest, rfl, hb⟩ := h.exists_cons
  rw [allZero_eq_true]
  exact fun hall => hb (hall b (List.mem_append_right _ List.mem_cons_self))

theorem exists_of_not_allZero {bytes : Bytes} (h : ¬ allZero bytes = true) :
    ∃ zeros b rest, b ≠ 0 ∧ bytes = List.replicate zeros 0 ++ b :: rest := by
  induction bytes with
  | nil => exact absurd rfl h
  | cons c bytes ih =>
    by_cases hc : c = 0
    · have htail : ¬ allZero bytes = true := by simpa [allZero, hc] using h
      obtain ⟨zeros, b, rest, hb, rfl⟩ := ih htail
      exact ⟨zeros + 1, b, rest, hb, by rw [hc, List.replicate_succ, List.cons_append]⟩
    · exact ⟨0, c, bytes, hc, rfl⟩

/-- Every half that is not zero is a magnitude in 32 bytes. -/
theorem exists_widen {half : Bytes} (hlength : half.length = 32) (hzero : ¬ allZero half = true) :
    ∃ bytes, Magnitude bytes ∧ half = widen bytes := by
  obtain ⟨zeros, b, rest, hb, rfl⟩ := exists_of_not_allZero hzero
  rw [List.length_append, List.length_replicate] at hlength
  refine ⟨b :: rest, ⟨hb, by omega⟩, ?_⟩
  rw [widen, ← hlength, Nat.add_sub_cancel]

theorem stripZeros_widen {bytes : Bytes} (h : Magnitude bytes) :
    stripZeros (widen bytes) = bytes := by
  obtain ⟨b, rest, rfl, hb⟩ := h.exists_cons
  rw [widen]
  generalize 32 - (b :: rest).length = zeros
  induction zeros with
  | zero =>
    cases rest with
    | nil => rfl
    | cons c rest =>
      show stripZeros (b :: c :: rest) = _
      rw [stripZeros, if_neg hb]
  | succ zeros ih =>
    have hcons : ∃ c tail, List.replicate zeros 0 ++ b :: rest = c :: tail := by
      cases zeros with
      | zero => exact ⟨_, _, rfl⟩
      | succ => exact ⟨_, _, rfl⟩
    obtain ⟨c, tail, hcons⟩ := hcons
    rw [List.replicate_succ, List.cons_append, hcons, stripZeros, if_pos rfl, ← hcons]
    exact ih

theorem length_withSign (bytes : Bytes) : (withSign bytes).length ≤ bytes.length + 1 := by
  unfold withSign
  split
  · exact le_rfl
  · exact Nat.le_succ _

/-- The integers that `readDerInteger` lets through. -/
structure DerInteger (value : Bytes) : Prop where
  ne_nil : value ≠ []
  minimal : ¬ (0x80 ≤ (value.getD 0 0).toNat ∨
    (value.length > 1 ∧ value.getD 0 0 = 0 ∧ (value.getD 1 0).toNat < 0x80))
  range : ¬ (allZero value ∨ value.length > 33 ∨ (value.length = 33 ∧ value.getD 0 0 ≠ 0))

theorem DerInteger.length_le {value : Bytes} (h : DerInteger value) : value.length ≤ 33 :=
  Nat.le_of_not_lt fun hlt => h.range (.inr (.inl hlt))

/-- What is read is a magnitude with its sign byte. -/
theorem derInteger_iff {value : Bytes} :
    DerInteger value ↔ ∃ bytes, Magnitude bytes ∧ value = withSign bytes := by
  constructor
  · rintro ⟨hne, hminimal, hrange⟩
    simp only [not_or, not_and, not_le, not_lt, ne_eq, not_not] at hminimal hrange
    obtain ⟨hsign, hminimal⟩ := hminimal
    obtain ⟨hzero, hlength, hlong⟩ := hrange
    cases value with
    | nil => exact absurd rfl hne
    | cons b rest =>
      by_cases hb : b = 0
      · subst hb
        cases rest with
        | nil => exact absurd rfl hzero
        | cons c rest =>
          have hc : 0x80 ≤ c.toNat := hminimal (by simp) rfl
          have hle : (c :: rest).length ≤ 32 := by
            rw [List.length_cons] at hlength
            omega
          refine ⟨c :: rest, ⟨?_, hle⟩, (if_pos hc).symm⟩
          rintro rfl
          exact absurd hc (by decide)
      · refine ⟨b :: rest, ⟨hb, ?_⟩, (if_neg (Nat.not_le.2 hsign)).symm⟩
        by_contra hlt
        exact hb (hlong (by omega))
  · rintro ⟨bytes, hbytes, rfl⟩
    obtain ⟨b, rest, rfl, hb⟩ := hbytes.exists_cons
    have hlength := hbytes.length
    unfold withSign
    split
    · rename_i hsign
      refine ⟨List.cons_ne_nil _ _, ?_, ?_⟩
      · rintro (hzero | ⟨-, -, hlt⟩)
        · exact absurd (show 0x80 ≤ (0 : UInt8).toNat from hzero) (by decide)
        · exact absurd hlt (Nat.not_lt.2 hsign)
      · rintro (hzero | hlt | ⟨-, hne⟩)
        · exact hb (allZero_eq_true.1 hzero b (by simp))
        · rw [List.length_cons] at hlt
          omega
        · exact hne rfl
    · rename_i hsign
      refine ⟨List.cons_ne_nil _ _, ?_, ?_⟩
      · rintro (hle | ⟨-, hzero, -⟩)
        · exact hsign hle
        · exact hb hzero
      · rintro (hzero | hlt | ⟨hlong, -⟩)
        · exact hb (allZero_eq_true.1 hzero b List.mem_cons_self)
        · omega
        · omega

/-- The sign byte is taken off and the integer widened. -/
theorem normalizeDerInteger_withSign {bytes : Bytes} (h : Magnitude bytes) :
    normalizeDerInteger (withSign bytes) = .ok (widen bytes) := by
  obtain ⟨b, rest, rfl, hb⟩ := h.exists_cons
  have hwithout : (if (withSign (b :: rest)).getD 0 0 = 0 then (withSign (b :: rest)).drop 1
      else withSign (b :: rest)) = b :: rest := by
    unfold withSign
    split
    · exact if_pos rfl
    · exact if_neg hb
  have hrange : ¬ ((b :: rest).length > 32 ∨ allZero (b :: rest) = true) := by
    rintro (hlt | hzero)
    · exact absurd h.length (Nat.not_le.2 hlt)
    · exact hb (allZero_eq_true.1 hzero b List.mem_cons_self)
  simp only [normalizeDerInteger, hwithout, throwIf_of_not hrange, ok_bind]
  rfl

theorem derInteger_widen {bytes : Bytes} (h : Magnitude bytes) : derInteger (widen bytes) =
    .ok (0x02 :: UInt8.ofNat (withSign bytes).length :: withSign bytes) := by
  have hlength := h.length
  have hsign := length_withSign bytes
  have hshort : derLength (withSign bytes).length = .ok [UInt8.ofNat (withSign bytes).length] :=
    derLength_short (by omega)
  simp only [derInteger, stripZeros_widen h, hshort, ok_bind]
  rfl

/-! ## Reading -/

/-- The encoding of an integer. -/
def encoded (value : Bytes) : Bytes := 0x02 :: UInt8.ofNat value.length :: value

theorem getElem?_append_cons (before : Bytes) (b : UInt8) (rest : Bytes) :
    (before ++ b :: rest)[before.length]? = some b := by
  rw [List.getElem?_append_right le_rfl, Nat.sub_self]
  rfl

theorem readDerLength_short {before rest : Bytes} {length : ℕ} (h : length < 128) :
    readDerLength (before ++ UInt8.ofNat length :: rest) before.length =
      .ok (length, before.length + 1) := by
  have hnat : (UInt8.ofNat length).toNat = length := UInt8.toNat_ofNat_of_lt' (by
    rw [UInt8.size]
    omega)
  rw [readDerLength, getElem?_append_cons]
  dsimp only
  rw [hnat, if_pos (by omega)]

/-- A length that is read stands in one byte, or in two when it is 128 or more. -/
theorem readDerLength_eq_ok {bytes : Bytes} {offset length next : ℕ}
    (h : readDerLength bytes offset = .ok (length, next)) :
    (length < 128 ∧ next = offset + 1 ∧ bytes[offset]? = some (UInt8.ofNat length)) ∨
      128 ≤ length := by
  unfold readDerLength at h
  split at h
  · cases h
  · rename_i first hfirst
    split_ifs at h with hshort
    · cases h
      exact .inl ⟨hshort, rfl, by rw [hfirst, UInt8.ofNat_toNat]⟩
    · split at h
      · cases h
      · simp only [bind_eq_ok, throwIf_eq_ok, pure_eq_ok, Prod.mk.injEq, not_or, not_lt] at h
        obtain ⟨-, ⟨-, hlong⟩, rfl, -⟩ := h
        exact .inr hlong

theorem readDerInteger_encoded {value : Bytes} (h : DerInteger value) (before rest : Bytes) :
    readDerInteger (before ++ (encoded value ++ rest)) before.length =
      .ok (value, before.length + (encoded value).length) := by
  have hlength := h.length_le
  have hpos := List.length_pos_of_ne_nil h.ne_nil
  have htag : ¬ (before ++ (encoded value ++ rest))[before.length]? ≠ some 0x02 := by
    rw [not_not]
    exact getElem?_append_cons before 0x02 _
  have hread : readDerLength (before ++ (encoded value ++ rest)) (before.length + 1) =
      .ok (value.length, before.length + 1 + 1) := by
    have hshort := @readDerLength_short (before ++ [0x02]) (value ++ rest) value.length (by omega)
    rw [List.append_assoc, List.length_append] at hshort
    exact hshort
  have hslice : slice (before ++ (encoded value ++ rest)) (before.length + 1 + 1)
      (before.length + 1 + 1 + value.length) = value := by
    have hsplit : before ++ (encoded value ++ rest) =
        (before ++ [0x02, UInt8.ofNat value.length]) ++ (value ++ rest) := by
      simp [encoded]
    have hlen : (before ++ [0x02, UInt8.ofNat value.length]).length = before.length + 1 +
      1 := by simp
    rw [slice, hsplit, ← hlen, List.take_length_add_append, List.drop_left, List.take_left]
  have hstop : ¬ (value.length < 1 ∨
      before.length + 1 + 1 + value.length > (before ++ (encoded value ++ rest)).length) := by
    simp only [encoded, List.length_append, List.length_cons]
    omega
  rw [readDerInteger, throwIf_of_not htag, ok_bind, hread, ok_bind]
  dsimp only
  rw [throwIf_of_not hstop, ok_bind, hslice, throwIf_of_not h.minimal, ok_bind,
    throwIf_of_not h.range, ok_bind]
  have hnext : before.length + 1 + 1 + value.length = before.length + (encoded value).length := by
    simp only [encoded, List.length_cons]
    omega
  rw [hnext]
  rfl

/-- What is read stands in the bytes at the offset. -/
theorem readDerInteger_eq_ok {bytes value : Bytes} {offset next : ℕ}
    (h : readDerInteger bytes offset = .ok (value, next)) :
    DerInteger value ∧ next = offset + (encoded value).length ∧
      ∃ rest, bytes.drop offset = encoded value ++ rest := by
  simp only [readDerInteger, bind_eq_ok, throwIf_eq_ok, pure_eq_ok, Prod.mk.injEq, not_not,
    Prod.exists] at h
  obtain ⟨-, htag, length, start, hread, -, hstop, -, hminimal, -, hrange, rfl, rfl⟩ := h
  rw [not_or, not_lt, not_lt] at hstop
  have hlength : (slice bytes start (start + length)).length = length := by
    rw [slice, List.length_drop, List.length_take]
    omega
  have hne : slice bytes start (start + length) ≠ [] := by
    intro hnil
    rw [hnil] at hlength
    simp only [List.length_nil] at hlength
    omega
  have hinteger : DerInteger (slice bytes start (start + length)) := ⟨hne, hminimal, hrange⟩
  have hle := hinteger.length_le
  rw [hlength] at hle
  obtain ⟨hshort, rfl, hbyte⟩ | hlong := readDerLength_eq_ok hread
  · refine ⟨hinteger, ?_, bytes.drop (offset + 1 + 1 + length), ?_⟩
    · simp only [encoded, List.length_cons, hlength]
      omega
    · obtain ⟨hlt, htag⟩ := List.getElem?_eq_some_iff.1 htag
      obtain ⟨hlt', hbyte⟩ := List.getElem?_eq_some_iff.1 hbyte
      have hdrop : bytes.drop (offset + 1 + 1) =
          slice bytes (offset + 1 + 1) (offset + 1 + 1 + length) ++
              bytes.drop (offset + 1 + 1 + length) := by
        have htail : bytes.drop (offset + 1 + 1 + length) =
            (bytes.drop (offset + 1 + 1)).drop length :=
          List.drop_drop.symm
        rw [slice, List.drop_take, Nat.add_sub_cancel_left, htail, List.take_append_drop]
      rw [List.drop_eq_getElem_cons hlt, htag, List.drop_eq_getElem_cons hlt', hbyte, hdrop,
        encoded, hlength]
      rfl
  · omega

/-! ## Both ways -/

/-- The DER form of two integers. -/
def sequence (r s : Bytes) : Bytes :=
  0x30 :: UInt8.ofNat (encoded r ++ encoded s).length :: (encoded r ++ encoded s)

theorem length_body {r s : Bytes} (hr : r.length ≤ 33) (hs : s.length ≤ 33) :
    (encoded r ++ encoded s).length < 128 := by
  simp only [encoded, List.length_append, List.length_cons]
  omega

/-- What `derToP1363` accepts, and what it makes of it. -/
theorem derToP1363_eq_ok {der signature : Bytes} : derToP1363 der = .ok signature ↔
    ∃ r s, Magnitude r ∧ Magnitude s ∧ der = sequence (withSign r) (withSign s) ∧
      signature = widen r ++ widen s := by
  constructor
  · intro h
    simp only [derToP1363, bind_eq_ok, throwIf_eq_ok, pure_eq_ok, Prod.exists, not_not] at h
    obtain ⟨-, htag, length, start, hlength, -, hend, r, next, hr, s, stop, hs, -, hstop, r', hr',
      s', hs', rfl⟩ := h
    obtain ⟨hrInteger, rfl, restR, hrestR⟩ := readDerInteger_eq_ok hr
    obtain ⟨hsInteger, rfl, restS, hrestS⟩ := readDerInteger_eq_ok hs
    have hbody := length_body hrInteger.length_le hsInteger.length_le
    rw [List.length_append] at hbody
    obtain ⟨hshort, rfl, hbyte⟩ | hlong := readDerLength_eq_ok hlength
    · obtain ⟨m, hm, rfl⟩ := derInteger_iff.1 hrInteger
      obtain ⟨n, hn, rfl⟩ := derInteger_iff.1 hsInteger
      rw [normalizeDerInteger_withSign hm] at hr'
      rw [normalizeDerInteger_withSign hn] at hs'
      cases hr'
      cases hs'
      refine ⟨m, n, hm, hn, ?_, rfl⟩
      obtain ⟨hlt, htag⟩ := List.getElem?_eq_some_iff.1 htag
      obtain ⟨hlt', hbyte⟩ := List.getElem?_eq_some_iff.1 hbyte
      -- the second integer reaches to the end, so nothing is left of the bytes
      have hnil : restS = [] := by
        have hlen := congrArg List.length hrestS
        rw [List.length_drop, List.length_append] at hlen
        exact List.length_eq_zero_iff.1 (by omega)
      have hrest : restR = encoded (withSign n) := by
        have hdrop := congrArg (List.drop (encoded (withSign m)).length) hrestR
        rw [List.drop_drop, List.drop_left, hrestS, hnil, List.append_nil] at hdrop
        exact hdrop.symm
      have hder : der = 0x30 :: UInt8.ofNat length ::
          (encoded (withSign m) ++ encoded (withSign n)) := by
        rw [← hrest, ← hrestR, ← hbyte, ← List.drop_eq_getElem_cons hlt', ← htag,
          ← List.drop_eq_getElem_cons hlt, List.drop_zero]
      have hsum : length = (encoded (withSign m) ++ encoded (withSign n)).length := by
        rw [List.length_append]
        omega
      rw [hder, hsum]
      rfl
    · omega
  · rintro ⟨r, s, hr, hs, rfl, rfl⟩
    have hrInteger : DerInteger (withSign r) := derInteger_iff.2 ⟨r, hr, rfl⟩
    have hsInteger : DerInteger (withSign s) := derInteger_iff.2 ⟨s, hs, rfl⟩
    have hbody := length_body hrInteger.length_le hsInteger.length_le
    have htag : ¬ (sequence (withSign r) (withSign s))[0]? ≠ some 0x30 := by
      rw [not_not]
      rfl
    have hlength : readDerLength (sequence (withSign r) (withSign s)) 1 =
        .ok ((encoded (withSign r) ++ encoded (withSign s)).length, 2) :=
      @readDerLength_short [0x30] (encoded (withSign r) ++ encoded (withSign s)) _ hbody
    have hend : ¬ 2 + (encoded (withSign r) ++ encoded (withSign s)).length ≠
        (sequence (withSign r) (withSign s)).length := by
      rw [not_not, sequence, List.length_cons, List.length_cons]
      omega
    have hreadR : readDerInteger (sequence (withSign r) (withSign s)) 2 =
        .ok (withSign r, 2 + (encoded (withSign r)).length) :=
      readDerInteger_encoded hrInteger
        [0x30, UInt8.ofNat (encoded (withSign r) ++ encoded (withSign s)).length] _
    have hreadS : readDerInteger (sequence (withSign r) (withSign s))
      (2 + (encoded (withSign r)).length) =
        .ok (withSign s, 2 + (encoded (withSign r)).length + (encoded (withSign s)).length) := by
      have hread := readDerInteger_encoded hsInteger
        (0x30 :: UInt8.ofNat (encoded (withSign r) ++ encoded (withSign s)).length ::
          encoded (withSign r)) []
      have hlen : (0x30 :: UInt8.ofNat (encoded (withSign r) ++ encoded (withSign s)).length ::
          encoded (withSign r)).length = 2 + (encoded (withSign r)).length := by
        rw [List.length_cons, List.length_cons]
        omega
      rw [List.append_nil, hlen] at hread
      exact hread
    have hstop : ¬ 2 + (encoded (withSign r)).length + (encoded (withSign s)).length ≠
        2 + (encoded (withSign r) ++ encoded (withSign s)).length := by
      rw [not_not, List.length_append, Nat.add_assoc]
    rw [derToP1363, throwIf_of_not htag, ok_bind, hlength, ok_bind]
    dsimp only
    rw [throwIf_of_not hend, ok_bind, hreadR, ok_bind]
    dsimp only
    rw [hreadS, ok_bind]
    dsimp only
    rw [throwIf_of_not hstop, ok_bind, normalizeDerInteger_withSign hr, ok_bind,
      normalizeDerInteger_withSign hs]
    rfl

theorem p1363ToDer_widen {r s : Bytes} (hr : Magnitude r) (hs : Magnitude s) :
    p1363ToDer (widen r ++ widen s) = .ok (sequence (withSign r) (withSign s)) := by
  have hlr := length_widen hr
  have hls := length_widen hs
  have htake : (widen r ++ widen s).take 32 = widen r := by rw [← hlr, List.take_left]
  have hdrop : (widen r ++ widen s).drop 32 = widen s := by rw [← hlr, List.drop_left]
  have hlength : ¬ (widen r ++ widen s).length ≠ p256SignatureBytes := by
    rw [not_not, List.length_append, hlr, hls]
    rfl
  have hzero : ¬ (allZero (widen r) = true ∨ allZero (widen s) = true) :=
    not_or.2 ⟨not_allZero_widen hr, not_allZero_widen hs⟩
  have hbody : derLength (encoded (withSign r) ++ encoded (withSign s)).length =
      .ok [UInt8.ofNat (encoded (withSign r) ++ encoded (withSign s)).length] :=
    derLength_short (length_body (derInteger_iff.2 ⟨r, hr, rfl⟩).length_le
      (derInteger_iff.2 ⟨s, hs, rfl⟩).length_le)
  rw [p1363ToDer, throwIf_of_not hlength, ok_bind, htake, hdrop, throwIf_of_not hzero, ok_bind,
    derInteger_widen hr, ok_bind, derInteger_widen hs, ok_bind]
  show (do
    let length ← derLength (encoded (withSign r) ++ encoded (withSign s)).length
    return 0x30 :: length ++ (encoded (withSign r) ++ encoded (withSign s))) = _
  rw [hbody]
  rfl

/-- A signature of two halves that are not zero survives the way to DER and back; and bytes that are
accepted as DER are the DER form of what they are read as, so each signature has one. -/
theorem derToP1363_p1363ToDer :
    (∀ signature : Bytes, signature.length = 64 → ¬ allZero (signature.take 32) = true →
      ¬ allZero (signature.drop 32) = true →
      ∃ der, p1363ToDer signature = .ok der ∧ derToP1363 der = .ok signature) ∧
    (∀ der signature : Bytes, derToP1363 der = .ok signature → p1363ToDer signature = .ok der) ∧
    ∀ der der' signature : Bytes, derToP1363 der = .ok signature → derToP1363 der' = .ok signature →
      der = der' := by
  have hback : ∀ der signature : Bytes, derToP1363 der = .ok signature →
      p1363ToDer signature = .ok der := by
    intro der signature h
    obtain ⟨r, s, hr, hs, rfl, rfl⟩ := derToP1363_eq_ok.1 h
    exact p1363ToDer_widen hr hs
  refine ⟨?_, hback, fun der der' signature h h' => ?_⟩
  · intro signature hlength hr hs
    obtain ⟨r, hr, hwidenR⟩ := exists_widen (by rw [List.length_take, hlength]; rfl) hr
    obtain ⟨s, hs, hwidenS⟩ := exists_widen (by rw [List.length_drop, hlength]) hs
    have hsplit : signature = widen r ++ widen s := by
      rw [← hwidenR, ← hwidenS, List.take_append_drop]
    rw [hsplit]
    exact ⟨_, p1363ToDer_widen hr hs, derToP1363_eq_ok.2 ⟨r, s, hr, hs, rfl, rfl⟩⟩
  · exact Except.ok.inj ((hback der signature h).symm.trans (hback der' signature h'))

/-- The signature of the integers 1 and 128. -/
theorem derToP1363_p1363ToDer_small :
    (∃ der, p1363ToDer (widen [1] ++ widen [0x80]) = .ok der ∧
      derToP1363 der = .ok (widen [1] ++ widen [0x80])) ∧
    p1363ToDer (widen [1] ++ widen [0x80]) =
      .ok [0x30, 0x07, 0x02, 0x01, 0x01, 0x02, 0x02, 0x00, 0x80] ∧
    ([0x30, 0x07, 0x02, 0x01, 0x01, 0x02, 0x02, 0x00, 0x80] : Bytes) = sequence [1] [0, 0x80] := by
  have hder : derToP1363 [0x30, 0x07, 0x02, 0x01, 0x01, 0x02, 0x02, 0x00, 0x80] =
      .ok (widen [1] ++ widen [0x80]) := by decide
  have hder' : derToP1363 (sequence [1] [0, 0x80]) = .ok (widen [1] ++ widen [0x80]) := by decide
  exact ⟨derToP1363_p1363ToDer.1 _ (by decide) (by decide) (by decide),
    derToP1363_p1363ToDer.2.1 _ _ hder, derToP1363_p1363ToDer.2.2 _ _ _ hder hder'⟩

end SelfRelay
