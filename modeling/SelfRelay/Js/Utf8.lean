import Mathlib.Tactic.Common
import SelfRelay.Js.Text

/-!
# UTF-16 and UTF-8

`TextEncoder` and the fatal `TextDecoder` on JavaScript strings.  A string is well formed when its
surrogates come in pairs; such a string survives the way through UTF-8 (`textDecode_textEncode`),
unless it starts with a byte-order mark, which the decoder drops (`textDecode_of_mark`).
-/

namespace SelfRelay

/-! ## Code points -/

def isHighSurrogate (u : UInt16) : Bool := 0xd800 ≤ u.toNat && u.toNat ≤ 0xdbff

def isLowSurrogate (u : UInt16) : Bool := 0xdc00 ≤ u.toNat && u.toNat ≤ 0xdfff

/-- Every high surrogate is followed by a low one, and no low surrogate stands alone. -/
def isWellFormed : JsString → Bool
  | [] => true
  | [u] => !isHighSurrogate u && !isLowSurrogate u
  | u :: v :: rest =>
    if isHighSurrogate u then isLowSurrogate v && isWellFormed rest
    else !isLowSurrogate u && isWellFormed (v :: rest)

/-- The code points of a string; a lone surrogate stands for itself. -/
def codePoints : JsString → List ℕ
  | [] => []
  | [u] => [u.toNat]
  | u :: v :: rest =>
    if isHighSurrogate u && isLowSurrogate v then
      (0x10000 + (u.toNat - 0xd800) * 1024 + (v.toNat - 0xdc00)) :: codePoints rest
    else u.toNat :: codePoints (v :: rest)

/-- The code units of a code point. -/
def codeUnits (c : ℕ) : JsString :=
  if c < 0x10000 then [UInt16.ofNat c]
  else [UInt16.ofNat (0xd800 + (c - 0x10000) / 1024), UInt16.ofNat (0xdc00 + (c - 0x10000) % 1024)]

/-! ## UTF-8 -/

/-- A surrogate is replaced by U+FFFD. -/
def scalarValue (c : ℕ) : ℕ := if 0xd800 ≤ c ∧ c ≤ 0xdfff then 0xfffd else c

/-- The UTF-8 sequence of a code point. -/
def utf8Sequence (c : ℕ) : List UInt8 :=
  if c < 0x80 then [UInt8.ofNat c]
  else if c < 0x800 then [UInt8.ofNat (0xc0 + c / 64), UInt8.ofNat (0x80 + c % 64)]
  else if c < 0x10000 then
    [UInt8.ofNat (0xe0 + c / 4096), UInt8.ofNat (0x80 + c / 64 % 64), UInt8.ofNat (0x80 + c % 64)]
  else
    [UInt8.ofNat (0xf0 + c / 262144), UInt8.ofNat (0x80 + c / 4096 % 64),
      UInt8.ofNat (0x80 + c / 64 % 64), UInt8.ofNat (0x80 + c % 64)]

/-- `new TextEncoder().encode(value)` -/
def textEncode (value : JsString) : List UInt8 :=
  (codePoints value).flatMap fun c => utf8Sequence (scalarValue c)

/-- The six bits of a continuation byte. -/
def continuation (b : UInt8) : Option ℕ :=
  if 0x80 ≤ b.toNat ∧ b.toNat ≤ 0xbf then some (b.toNat - 0x80) else none

/-- The code points of a byte string; an overlong form, a surrogate, a value above U+10FFFF and a
truncated sequence are errors. -/
def utf8CodePoints : List UInt8 → Option (List ℕ)
  | [] => some []
  | b :: rest =>
    if b.toNat < 0x80 then (utf8CodePoints rest).map (b.toNat :: ·)
    else if 0xc2 ≤ b.toNat ∧ b.toNat ≤ 0xdf then
      match rest with
      | b₁ :: rest => do
        let c₁ ← continuation b₁
        (utf8CodePoints rest).map (((b.toNat - 0xc0) * 64 + c₁) :: ·)
      | [] => none
    else if 0xe0 ≤ b.toNat ∧ b.toNat ≤ 0xef then
      match rest with
      | b₁ :: b₂ :: rest => do
        let c₁ ← continuation b₁
        let c₂ ← continuation b₂
        let c := (b.toNat - 0xe0) * 4096 + c₁ * 64 + c₂
        if c < 0x800 ∨ (0xd800 ≤ c ∧ c ≤ 0xdfff) then none
        else (utf8CodePoints rest).map (c :: ·)
      | _ => none
    else if 0xf0 ≤ b.toNat ∧ b.toNat ≤ 0xf4 then
      match rest with
      | b₁ :: b₂ :: b₃ :: rest => do
        let c₁ ← continuation b₁
        let c₂ ← continuation b₂
        let c₃ ← continuation b₃
        let c := (b.toNat - 0xf0) * 262144 + c₁ * 4096 + c₂ * 64 + c₃
        if c < 0x10000 ∨ 0x10ffff < c then none
        else (utf8CodePoints rest).map (c :: ·)
      | _ => none
    else none

/-- `TextDecoder` skips one byte-order mark at the start. -/
def stripByteOrderMark : List UInt8 → List UInt8
  | 0xef :: 0xbb :: 0xbf :: rest => rest
  | bytes => bytes

/-- `new TextDecoder('utf-8', { fatal: true }).decode(bytes)`; `none` is the exception. -/
def textDecode (bytes : List UInt8) : Option JsString :=
  (utf8CodePoints (stripByteOrderMark bytes)).map fun cs => cs.flatMap codeUnits

example : textEncode [0x61, 0xd83d, 0xde00, 0xd800] =
    [0x61, 0xf0, 0x9f, 0x98, 0x80, 0xef, 0xbf, 0xbd] := by
  decide

example : textDecode [0x61, 0xf0, 0x9f, 0x98, 0x80] = some [0x61, 0xd83d, 0xde00] := by decide

/-! ## Round trips -/

/-- A Unicode scalar value. -/
def isScalar (c : ℕ) : Bool := c < 0xd800 || (0xdfff < c && c ≤ 0x10ffff)

theorem isScalar_iff {c : ℕ} : isScalar c = true ↔ c < 0xd800 ∨ 0xdfff < c ∧ c ≤ 0x10ffff := by
  simp [isScalar]

theorem continuation_ofNat {n : ℕ} (h : n < 64) :
    continuation (UInt8.ofNat (0x80 + n)) = some n := by
  have hnat : (UInt8.ofNat (0x80 + n)).toNat = 0x80 + n := by
    rw [UInt8.toNat_ofNat']
    omega
  rw [continuation, hnat, if_pos (by omega), Nat.add_sub_cancel_left]

section Sequences

attribute [local simp] utf8CodePoints

variable {b b₁ b₂ b₃ : UInt8} {c₁ c₂ c₃ : ℕ}

theorem utf8CodePoints_ascii (hb : b.toNat < 0x80) (rest : List UInt8) :
    utf8CodePoints (b :: rest) = (utf8CodePoints rest).map (b.toNat :: ·) := by
  rw [utf8CodePoints.eq_def]
  exact if_pos hb

theorem utf8CodePoints_two (hb : 0xc2 ≤ b.toNat ∧ b.toNat ≤ 0xdf) (h₁ : continuation b₁ = some c₁)
    (rest : List UInt8) : utf8CodePoints (b :: b₁ :: rest) =
      (utf8CodePoints rest).map (((b.toNat - 0xc0) * 64 + c₁) :: ·) := by
  rw [utf8CodePoints.eq_def]
  dsimp only
  rw [if_neg (by omega), if_pos hb, h₁]
  rfl

theorem utf8CodePoints_three (hb : 0xe0 ≤ b.toNat ∧ b.toNat ≤ 0xef) (h₁ : continuation b₁ = some c₁)
    (h₂ : continuation b₂ = some c₂)
    (hc : isScalar ((b.toNat - 0xe0) * 4096 + c₁ * 64 + c₂) = true)
    (hlong : 0x800 ≤ (b.toNat - 0xe0) * 4096 + c₁ * 64 + c₂) (rest : List UInt8) :
    utf8CodePoints (b :: b₁ :: b₂ :: rest) =
      (utf8CodePoints rest).map (((b.toNat - 0xe0) * 4096 + c₁ * 64 + c₂) :: ·) := by
  rw [isScalar_iff] at hc
  rw [utf8CodePoints.eq_def]
  dsimp only
  rw [if_neg (by omega), if_neg (by omega), if_pos hb, h₁, h₂]
  exact if_neg (by omega)

theorem utf8CodePoints_four (hb : 0xf0 ≤ b.toNat ∧ b.toNat ≤ 0xf4) (h₁ : continuation b₁ = some c₁)
    (h₂ : continuation b₂ = some c₂) (h₃ : continuation b₃ = some c₃)
    (hc : isScalar ((b.toNat - 0xf0) * 262144 + c₁ * 4096 + c₂ * 64 + c₃) = true)
    (hlong : 0x10000 ≤ (b.toNat - 0xf0) * 262144 + c₁ * 4096 + c₂ * 64 + c₃) (rest : List UInt8) :
    utf8CodePoints (b :: b₁ :: b₂ :: b₃ :: rest) =
      (utf8CodePoints rest).map (((b.toNat - 0xf0) * 262144 + c₁ * 4096 + c₂ * 64 + c₃) :: ·) := by
  rw [isScalar_iff] at hc
  rw [utf8CodePoints.eq_def]
  dsimp only
  -- the bind is rewritten step by step: unfolding it would evaluate the comparison below
  rw [if_neg (by omega), if_neg (by omega), if_neg (by omega), if_pos hb, h₁, h₂, h₃,
    Option.bind_eq_bind, Option.bind_some, Option.bind_some, Option.bind_some]
  exact if_neg (by omega)

end Sequences

theorem utf8CodePoints_sequence {c : ℕ} (h : isScalar c = true) (rest : List UInt8) :
    utf8CodePoints (utf8Sequence c ++ rest) = (utf8CodePoints rest).map (c :: ·) := by
  have hbyte : ∀ n, n < 256 → (UInt8.ofNat n).toNat = n := fun n hn => UInt8.toNat_ofNat_of_lt' hn
  have hrange := isScalar_iff.1 h
  unfold utf8Sequence
  split_ifs with h1 h2 h3
  · have hc := hbyte c (by omega)
    rw [List.singleton_append, utf8CodePoints_ascii (by omega), hc]
  · have hlead := hbyte (0xc0 + c / 64) (by omega)
    have hc : (0xc0 + c / 64 - 0xc0) * 64 + c % 64 = c := by omega
    rw [List.cons_append, List.singleton_append,
      utf8CodePoints_two (by omega) (continuation_ofNat (by omega)), hlead, hc]
  · have hlead := hbyte (0xe0 + c / 4096) (by omega)
    have hc : (0xe0 + c / 4096 - 0xe0) * 4096 + c / 64 % 64 * 64 + c % 64 = c := by omega
    have hthree := @utf8CodePoints_three _ _ _ (c / 64 % 64) (c % 64) (by rw [hlead]; omega)
      (continuation_ofNat (by omega)) (continuation_ofNat (by omega)) (by rwa [hlead, hc])
      (by rw [hlead]; omega) rest
    rwa [hlead, hc] at hthree
  · have hlead := hbyte (0xf0 + c / 262144) (by omega)
    have hc : (0xf0 + c / 262144 - 0xf0) * 262144 + c / 4096 % 64 * 4096 + c / 64 % 64 *
      64 + c % 64 =
        c := by omega
    have hfour := @utf8CodePoints_four _ _ _ _ (c / 4096 % 64) (c / 64 % 64) (c % 64)
      (by rw [hlead]; omega) (continuation_ofNat (by omega)) (continuation_ofNat (by omega))
      (continuation_ofNat (by omega)) (by rwa [hlead, hc]) (by rw [hlead]; omega) rest
    rwa [hlead, hc] at hfour

theorem utf8CodePoints_flatMap {cs : List ℕ} (h : ∀ c ∈ cs, isScalar c = true) :
    utf8CodePoints (cs.flatMap utf8Sequence) = some cs := by
  induction cs with
  | nil => rfl
  | cons c cs ih =>
    rw [List.flatMap_cons, utf8CodePoints_sequence (h c List.mem_cons_self),
      ih fun c hc => h c (List.mem_cons_of_mem _ hc)]
    rfl

theorem scalarValue_of_isScalar {c : ℕ} (h : isScalar c = true) : scalarValue c = c := by
  rw [isScalar_iff] at h
  exact if_neg (by omega)

theorem isScalar_toNat {u : UInt16} (hhigh : isHighSurrogate u = false)
    (hlow : isLowSurrogate u = false) : isScalar u.toNat = true := by
  have hu := u.toNat_lt
  simp only [isHighSurrogate, isLowSurrogate, Bool.and_eq_false_iff, decide_eq_false_iff_not]
    at hhigh hlow
  rw [isScalar_iff]
  omega

theorem codeUnits_toNat (u : UInt16) : codeUnits u.toNat = [u] := by
  rw [codeUnits, if_pos u.toNat_lt, UInt16.ofNat_toNat]

/-- A pair of surrogates and its code point. -/
theorem codeUnits_pair {u v : UInt16} (hu : isHighSurrogate u = true)
    (hv : isLowSurrogate v = true) :
    isScalar (0x10000 + (u.toNat - 0xd800) * 1024 + (v.toNat - 0xdc00)) = true ∧
      codeUnits (0x10000 + (u.toNat - 0xd800) * 1024 + (v.toNat - 0xdc00)) = [u, v] := by
  simp only [isHighSurrogate, isLowSurrogate, Bool.and_eq_true, decide_eq_true_eq] at hu hv
  rw [isScalar_iff]
  refine ⟨by omega, ?_⟩
  have hhigh : 0xd800 +
    (0x10000 + (u.toNat - 0xd800) * 1024 + (v.toNat - 0xdc00) - 0x10000) / 1024 =
      u.toNat := by omega
  have hlow : 0xdc00 + (0x10000 + (u.toNat - 0xd800) * 1024 + (v.toNat - 0xdc00) - 0x10000) % 1024 =
      v.toNat := by omega
  rw [codeUnits, if_neg (by omega), hhigh, hlow, UInt16.ofNat_toNat, UInt16.ofNat_toNat]

/-- A well-formed string is a sequence of scalar values. -/
theorem codePoints_of_wellFormed {s : JsString} (h : isWellFormed s = true) :
    (∀ c ∈ codePoints s, isScalar c = true) ∧ (codePoints s).flatMap codeUnits = s := by
  fun_induction isWellFormed s with
  | case1 => exact ⟨nofun, rfl⟩
  | case2 u =>
    simp only [Bool.and_eq_true, Bool.not_eq_true'] at h
    exact ⟨List.forall_mem_singleton.2 (isScalar_toNat h.1 h.2), by
      rw [codePoints, List.flatMap_singleton, codeUnits_toNat]⟩
  | case3 u v rest hu ih =>
    obtain ⟨hv, hrest⟩ := Bool.and_eq_true_iff.1 h
    obtain ⟨hscalar, hunits⟩ := codeUnits_pair hu hv
    obtain ⟨ihscalar, ihunits⟩ := ih hrest
    rw [codePoints, if_pos (by rw [hu, hv]; rfl), List.flatMap_cons, hunits, ihunits]
    exact ⟨List.forall_mem_cons.2 ⟨hscalar, ihscalar⟩, rfl⟩
  | case4 u v rest hu ih =>
    obtain ⟨hlow, hrest⟩ := Bool.and_eq_true_iff.1 h
    obtain ⟨ihscalar, ihunits⟩ := ih hrest
    have hhigh := Bool.eq_false_iff.2 hu
    rw [codePoints, if_neg (by rw [hhigh]; exact Bool.false_ne_true), List.flatMap_cons,
      codeUnits_toNat, ihunits]
    exact ⟨List.forall_mem_cons.2 ⟨isScalar_toNat hhigh (by simpa using hlow), ihscalar⟩, rfl⟩

theorem codePoints_cons {u : UInt16} (h : isHighSurrogate u = false) (s : JsString) :
    codePoints (u :: s) = u.toNat :: codePoints s := by
  cases s with
  | nil => rfl
  | cons v s => rw [codePoints, h, Bool.false_and, if_neg Bool.false_ne_true]

/-- A sequence of scalar values is the code points of its code units. -/
theorem codePoints_codeUnits {cs : List ℕ} (h : ∀ c ∈ cs, isScalar c = true) :
    codePoints (cs.flatMap codeUnits) = cs := by
  induction cs with
  | nil => rfl
  | cons c cs ih =>
    have hc := isScalar_iff.1 (h c List.mem_cons_self)
    have ih := ih fun c hc => h c (List.mem_cons_of_mem _ hc)
    rw [List.flatMap_cons, codeUnits]
    split_ifs with hlt
    · have hnat : (UInt16.ofNat c).toNat = c := UInt16.toNat_ofNat_of_lt' hlt
      have hhigh : isHighSurrogate (UInt16.ofNat c) = false := by
        simp only [isHighSurrogate, hnat, Bool.and_eq_false_iff, decide_eq_false_iff_not]
        omega
      rw [List.singleton_append, codePoints_cons hhigh, hnat, ih]
    · have hhigh : (UInt16.ofNat (0xd800 + (c - 0x10000) / 1024)).toNat =
          0xd800 + (c - 0x10000) / 1024 := UInt16.toNat_ofNat_of_lt' (by
        rw [UInt16.size]
        omega)
      have hlow : (UInt16.ofNat (0xdc00 + (c - 0x10000) % 1024)).toNat =
          0xdc00 + (c - 0x10000) % 1024 := UInt16.toNat_ofNat_of_lt' (by
        rw [UInt16.size]
        omega)
      have hpair : (isHighSurrogate (UInt16.ofNat (0xd800 + (c - 0x10000) / 1024)) &&
          isLowSurrogate (UInt16.ofNat (0xdc00 + (c - 0x10000) % 1024))) = true := by
        simp only [isHighSurrogate, isLowSurrogate, hhigh, hlow, Bool.and_eq_true,
          decide_eq_true_eq]
        omega
      have hc : 0x10000 + (0xd800 + (c - 0x10000) / 1024 - 0xd800) * 1024 +
          (0xdc00 + (c - 0x10000) % 1024 - 0xdc00) = c := by omega
      rw [List.cons_append, List.singleton_append, codePoints, if_pos hpair, hhigh, hlow, hc, ih]

theorem textEncode_codeUnits {cs : List ℕ} (h : ∀ c ∈ cs, isScalar c = true) :
    textEncode (cs.flatMap codeUnits) = cs.flatMap utf8Sequence := by
  rw [textEncode, codePoints_codeUnits h]
  refine congrArg List.flatten (List.map_congr_left fun c hc => ?_)
  rw [scalarValue_of_isScalar (h c hc)]

/-- The string that UTF-8 bytes spell. -/
def utf8Text (bytes : List UInt8) : Option JsString :=
  (utf8CodePoints bytes).map fun cs => cs.flatMap codeUnits

/-- The bytes of a well-formed string spell it. -/
theorem utf8Text_textEncode {s : JsString} (h : isWellFormed s = true) :
    utf8Text (textEncode s) = some s := by
  obtain ⟨hscalar, hunits⟩ := codePoints_of_wellFormed h
  have hencode : textEncode s = (codePoints s).flatMap utf8Sequence := by
    rw [← textEncode_codeUnits hscalar, hunits]
  rw [utf8Text, hencode, utf8CodePoints_flatMap hscalar, Option.map_some, hunits]

theorem continuation_eq_some {b : UInt8} {n : ℕ} (h : continuation b = some n) :
    n < 64 ∧ b = UInt8.ofNat (0x80 + n) := by
  unfold continuation at h
  split_ifs at h with hb
  obtain rfl := Option.some.inj h
  refine ⟨by omega, ?_⟩
  rw [Nat.add_sub_cancel' hb.1, UInt8.ofNat_toNat]

/-- Bytes that can be decoded are the encoding of scalar values. -/
theorem utf8CodePoints_eq_some {bytes : List UInt8} {cs : List ℕ}
    (h : utf8CodePoints bytes = some cs) :
    bytes = cs.flatMap utf8Sequence ∧ ∀ c ∈ cs, isScalar c = true := by
  fun_induction utf8CodePoints bytes generalizing cs with
  | case1 =>
    cases h
    exact ⟨rfl, nofun⟩
  | case2 b rest hb ih =>
    obtain ⟨cs, hcs, rfl⟩ := Option.map_eq_some_iff.1 h
    obtain ⟨hrest, hscalar⟩ := ih hcs
    refine ⟨?_, List.forall_mem_cons.2 ⟨isScalar_iff.2 (.inl (by omega)), hscalar⟩⟩
    rw [List.flatMap_cons, utf8Sequence, if_pos hb, UInt8.ofNat_toNat, ← hrest]
    rfl
  | case3 b hlow hb b₁ rest ih =>
    obtain ⟨c₁, hc₁, h⟩ := Option.bind_eq_some_iff.1 h
    obtain ⟨cs, hcs, rfl⟩ := Option.map_eq_some_iff.1 h
    obtain ⟨hrest, hscalar⟩ := ih hcs
    obtain ⟨hlt, rfl⟩ := continuation_eq_some hc₁
    refine ⟨?_, List.forall_mem_cons.2 ⟨isScalar_iff.2 (.inl (by omega)), hscalar⟩⟩
    have hlead : 0xc0 + ((b.toNat - 0xc0) * 64 + c₁) / 64 = b.toNat := by omega
    have hnext : ((b.toNat - 0xc0) * 64 + c₁) % 64 = c₁ := by omega
    rw [List.flatMap_cons, utf8Sequence, if_neg (by omega), if_pos (by omega), hlead, hnext,
      UInt8.ofNat_toNat, ← hrest]
    rfl
  | case5 b hlow hlow' hb b₁ b₂ rest ih =>
    obtain ⟨c₁, hc₁, h⟩ := Option.bind_eq_some_iff.1 h
    obtain ⟨c₂, hc₂, h⟩ := Option.bind_eq_some_iff.1 h
    dsimp only at h
    obtain ⟨hrange, h⟩ := Option.ite_none_left_eq_some.1 h
    obtain ⟨cs, hcs, rfl⟩ := Option.map_eq_some_iff.1 h
    obtain ⟨hrest, hscalar⟩ := ih hcs
    obtain ⟨hlt₁, rfl⟩ := continuation_eq_some hc₁
    obtain ⟨hlt₂, rfl⟩ := continuation_eq_some hc₂
    refine ⟨?_, List.forall_mem_cons.2 ⟨isScalar_iff.2 (by omega), hscalar⟩⟩
    have hlead : 0xe0 + ((b.toNat - 0xe0) * 4096 + c₁ * 64 + c₂) / 4096 = b.toNat := by omega
    have hnext : ((b.toNat - 0xe0) * 4096 + c₁ * 64 + c₂) / 64 % 64 = c₁ := by omega
    have hlast : ((b.toNat - 0xe0) * 4096 + c₁ * 64 + c₂) % 64 = c₂ := by omega
    rw [List.flatMap_cons, utf8Sequence, if_neg (by omega), if_neg (by omega),
      if_pos (by omega), hlead,
      hnext, hlast, UInt8.ofNat_toNat, ← hrest]
    rfl
  | case7 b hlow hlow' hlow'' hb b₁ b₂ b₃ rest ih =>
    obtain ⟨c₁, hc₁, h⟩ := Option.bind_eq_some_iff.1 h
    obtain ⟨c₂, hc₂, h⟩ := Option.bind_eq_some_iff.1 h
    obtain ⟨c₃, hc₃, h⟩ := Option.bind_eq_some_iff.1 h
    dsimp only at h
    obtain ⟨hrange, h⟩ := Option.ite_none_left_eq_some.1 h
    obtain ⟨cs, hcs, rfl⟩ := Option.map_eq_some_iff.1 h
    obtain ⟨hrest, hscalar⟩ := ih hcs
    obtain ⟨hlt₁, rfl⟩ := continuation_eq_some hc₁
    obtain ⟨hlt₂, rfl⟩ := continuation_eq_some hc₂
    obtain ⟨hlt₃, rfl⟩ := continuation_eq_some hc₃
    refine ⟨?_, List.forall_mem_cons.2 ⟨isScalar_iff.2 (by omega), hscalar⟩⟩
    have hlead : 0xf0 + ((b.toNat - 0xf0) * 262144 + c₁ * 4096 + c₂ * 64 + c₃) / 262144 =
        b.toNat := by
      omega
    have hnext : ((b.toNat - 0xf0) * 262144 + c₁ * 4096 + c₂ * 64 + c₃) / 4096 % 64 = c₁ := by omega
    have hthird : ((b.toNat - 0xf0) * 262144 + c₁ * 4096 + c₂ * 64 + c₃) / 64 % 64 = c₂ := by omega
    have hlast : ((b.toNat - 0xf0) * 262144 + c₁ * 4096 + c₂ * 64 + c₃) % 64 = c₃ := by omega
    rw [List.flatMap_cons, utf8Sequence, if_neg (by omega), if_neg (by omega),
      if_neg (by omega), hlead,
      hnext, hthird, hlast, UInt8.ofNat_toNat, ← hrest]
    rfl
  | case4 | case6 | case8 | case9 => cases h

/-! ## The byte-order mark -/

theorem codeUnits_mark {c : ℕ} (h : isScalar c = true) (hmark : (codeUnits c).head? = some 0xfeff) :
    c = 0xfeff := by
  rw [isScalar_iff] at h
  unfold codeUnits at hmark
  split_ifs at hmark
  · have hnat := congrArg UInt16.toNat (Option.some.inj hmark)
    rw [UInt16.toNat_ofNat'] at hnat
    have hlit : (0xfeff : UInt16).toNat = 0xfeff := rfl
    omega
  · have hnat := congrArg UInt16.toNat (Option.some.inj hmark)
    rw [UInt16.toNat_ofNat'] at hnat
    have hlit : (0xfeff : UInt16).toNat = 0xfeff := rfl
    omega

/-- Bytes that spell a byte-order mark and a text are decoded to the text. -/
theorem textDecode_of_mark {bytes : List UInt8} {s : JsString}
    (h : utf8Text bytes = some (0xfeff :: s)) :
    textDecode bytes = some s := by
  obtain ⟨cs, hcs, hs⟩ := Option.map_eq_some_iff.1 h
  obtain ⟨hbytes, hscalar⟩ := utf8CodePoints_eq_some hcs
  cases cs with
  | nil => cases hs
  | cons c cs =>
    obtain ⟨hc, hcs'⟩ := List.forall_mem_cons.1 hscalar
    have hne : (codeUnits c).head? = some 0xfeff := by
      have hhead := congrArg List.head? hs
      rw [List.flatMap_cons] at hhead
      cases hunits : codeUnits c with
      | nil =>
        unfold codeUnits at hunits
        split_ifs at hunits
      | cons u us =>
        rw [hunits] at hhead
        exact hhead
    obtain rfl := codeUnits_mark hc hne
    have hstrip : stripByteOrderMark bytes = cs.flatMap utf8Sequence := by
      rw [hbytes]
      rfl
    have hrest : cs.flatMap codeUnits = s := (List.cons.inj hs).2
    rw [textDecode, hstrip, utf8CodePoints_flatMap hcs', Option.map_some, hrest]

theorem utf8CodePoints_mark (rest : List UInt8) :
    utf8CodePoints (0xef :: 0xbb :: 0xbf :: rest) = (utf8CodePoints rest).map (0xfeff :: ·) := by
  have hmark : isScalar 0xfeff = true := by decide
  exact utf8CodePoints_sequence hmark rest

/-- Bytes that spell a text without a byte-order mark are decoded to it. -/
theorem textDecode_of_utf8Text {bytes : List UInt8} {s : JsString} (h : utf8Text bytes = some s)
    (hmark : s.head? ≠ some 0xfeff) : textDecode bytes = some s := by
  have hstrip : stripByteOrderMark bytes = bytes := by
    unfold stripByteOrderMark
    split
    · rename_i rest
      rw [utf8Text, utf8CodePoints_mark, Option.map_map] at h
      obtain ⟨cs, -, rfl⟩ := Option.map_eq_some_iff.1 h
      exact absurd rfl hmark
    · rfl
  rw [textDecode, hstrip]
  exact h

theorem textDecode_textEncode {s : JsString} (h : isWellFormed s = true)
    (hmark : s.head? ≠ some 0xfeff) : textDecode (textEncode s) = some s :=
  textDecode_of_utf8Text (utf8Text_textEncode h) hmark

end SelfRelay
