import SelfRelay.Js.Grammar
import SelfRelay.Js.Utf8

/-!
# What `JSON.stringify` writes

The text of a string is a string literal with that value (`stringLiteral_jsonQuote`), and the text
of an integer in the safe range a number with that value (`value_toString`).  Both are well formed
when the string is.
-/

namespace SelfRelay

open JsonGrammar

/-! ## Well-formed strings -/

/-- Neither half of a surrogate pair. -/
def isUnpaired (u : UInt16) : Prop := isHighSurrogate u = false ∧ isLowSurrogate u = false

theorem isUnpaired_of_lt {u : UInt16} (h : u.toNat < 0xd800) : isUnpaired u := by
  simp only [isUnpaired, isHighSurrogate, isLowSurrogate, Bool.and_eq_false_iff,
    decide_eq_false_iff_not]
  omega

theorem isWellFormed_cons {u : UInt16} (h : isUnpaired u) (text : JsString) :
    isWellFormed (u :: text) = isWellFormed text := by
  cases text with
  | nil => simp [isWellFormed, h.1, h.2]
  | cons v text => simp [isWellFormed, h.1, h.2]

theorem isWellFormed_append {text : JsString} (h : isWellFormed text = true) (rest : JsString) :
    isWellFormed (text ++ rest) = isWellFormed rest := by
  induction text using isWellFormed.induct with
  | case1 => rfl
  | case2 u =>
    simp only [isWellFormed, Bool.and_eq_true, Bool.not_eq_true'] at h
    exact isWellFormed_cons h rest
  | case3 u v text hu ih =>
    simp only [isWellFormed, hu, if_true, Bool.and_eq_true] at h
    simp only [List.cons_append, isWellFormed, hu, if_true, h.1, Bool.true_and]
    exact ih h.2
  | case4 u v text hu ih =>
    rw [Bool.not_eq_true] at hu
    simp only [isWellFormed, hu, Bool.false_eq_true, if_false, Bool.and_eq_true,
      Bool.not_eq_true'] at h
    rw [List.cons_append, isWellFormed_cons ⟨hu, h.1⟩]
    exact ih h.2

theorem isWellFormed_of_unpaired {text : JsString} (h : ∀ u ∈ text, isUnpaired u) :
    isWellFormed text = true := by
  induction text with
  | nil => rfl
  | cons u text ih =>
    rw [isWellFormed_cons (h u List.mem_cons_self)]
    exact ih fun v hv => h v (List.mem_cons_of_mem _ hv)

/-! ## Strings -/

theorem hexUnit_toNat {n : ℕ} (h : n < 16) :
    (hexUnit n).toNat = if n < 10 then 0x30 + n else 0x57 + n := by
  unfold hexUnit
  split <;> exact Nat.mod_eq_of_lt (by omega)

theorem hexUnitValue_hexUnit {n : ℕ} (h : n < 16) : hexUnitValue (hexUnit n) = some n := by
  have hunit := hexUnit_toNat h
  by_cases hn : n < 10
  · rw [if_pos hn] at hunit
    have hdigit : isDigit (hexUnit n) = true := by
      simp only [isDigit, hunit, Bool.and_eq_true, decide_eq_true_eq]
      omega
    rw [hexUnitValue, if_pos hdigit, hunit, Nat.add_sub_cancel_left]
  · rw [if_neg hn] at hunit
    have hdigit : ¬ isDigit (hexUnit n) = true := by
      simp only [isDigit, hunit, Bool.and_eq_true, decide_eq_true_eq]
      omega
    rw [hexUnitValue, if_neg hdigit, hunit, if_pos (by omega), Nat.add_sub_cancel_left]

theorem character_unicodeEscape (u : UInt16) : Character (unicodeEscape u) u := by
  have hlt := u.toNat_lt
  have hvalue : UInt16.ofNat (u.toNat / 4096 * 4096 + u.toNat / 256 % 16 * 256 +
      u.toNat / 16 % 16 * 16 + u.toNat % 16) = u := by
    have hsum : u.toNat / 4096 * 4096 + u.toNat / 256 % 16 * 256 + u.toNat / 16 % 16 * 16 +
        u.toNat % 16 = u.toNat := by omega
    rw [hsum, UInt16.ofNat_toNat]
  have h : Character (unicodeEscape u) (UInt16.ofNat (u.toNat / 4096 * 4096 +
      u.toNat / 256 % 16 * 256 + u.toNat / 16 % 16 * 16 + u.toNat % 16)) :=
    .unicode (hexUnitValue_hexUnit (by omega)) (hexUnitValue_hexUnit (by omega))
      (hexUnitValue_hexUnit (by omega)) (hexUnitValue_hexUnit (by omega))
  rwa [hvalue] at h

theorem unescape_shortEscape {u letter : UInt16} (h : shortEscape u = some letter) :
    unescape letter = some u := by
  unfold shortEscape at h
  split_ifs at h <;> cases h <;> subst_vars <;> rfl

theorem character_escapeUnit (u : UInt16) : Character (escapeUnit u) u := by
  unfold escapeUnit
  cases hshort : shortEscape u with
  | some letter => exact .escaped (unescape_shortEscape hshort)
  | none =>
    by_cases hcontrol : u.toNat < 0x20
    · rw [if_pos hcontrol]
      exact character_unicodeEscape u
    · rw [if_neg hcontrol]
      refine .unescaped (Nat.le_of_not_lt hcontrol) ?_ ?_
      · rintro rfl
        cases hshort
      · rintro rfl
        cases hshort

theorem stringLiteral_jsonQuote (value : JsString) : StringLiteral (jsonQuote value) value := by
  refine .mk ?_
  induction value with
  | nil => exact .nil
  | cons u value ih => exact .cons (character_escapeUnit u) ih

theorem escapeUnit_of_le {u : UInt16} (h : 0x80 ≤ u.toNat) : escapeUnit u = [u] := by
  have hne (c : UInt16) (hc : c.toNat < 0x80) : u ≠ c := by
    rintro rfl
    omega
  have hshort : shortEscape u = none := by
    simp only [shortEscape, if_neg (hne quote (by decide)), if_neg (hne backslash (by decide)),
      if_neg (hne 0x08 (by decide)), if_neg (hne 0x0c (by decide)), if_neg (hne 0x0a (by decide)),
      if_neg (hne 0x0d (by decide)), if_neg (hne 0x09 (by decide))]
  rw [escapeUnit, hshort]
  exact if_neg (by omega)

/-- Escapes are written in ASCII. -/
theorem escapeUnit_lt {u : UInt16} (h : u.toNat < 0x80) : ∀ v ∈ escapeUnit u, v.toNat < 0x80 := by
  have hhex {n : ℕ} (hn : n < 16) : (hexUnit n).toNat < 0x80 := by
    rw [hexUnit_toNat hn]
    split <;> omega
  unfold escapeUnit
  cases hshort : shortEscape u with
  | some letter =>
    have hletter : letter.toNat < 0x80 := by
      unfold shortEscape at hshort
      split_ifs at hshort <;> cases hshort <;> decide
    simpa using ⟨by decide, hletter⟩
  | none =>
    by_cases hcontrol : u.toNat < 0x20
    · simp only [if_pos hcontrol, unicodeEscape, List.mem_cons, List.not_mem_nil, or_false]
      rintro v (rfl | rfl | rfl | rfl | rfl | rfl)
      · decide
      · decide
      all_goals exact hhex (by omega)
    · simpa only [if_neg hcontrol, List.mem_singleton, forall_eq] using h

theorem isWellFormed_escape {value : JsString} (h : isWellFormed value = true) :
    isWellFormed (value.flatMap escapeUnit) = true := by
  have hunit {u : UInt16} (hu : isUnpaired u) : isWellFormed (escapeUnit u) = true := by
    by_cases hascii : u.toNat < 0x80
    · exact isWellFormed_of_unpaired fun v hv =>
        isUnpaired_of_lt ((escapeUnit_lt hascii v hv).trans (by decide))
    · rw [escapeUnit_of_le (Nat.le_of_not_lt hascii), isWellFormed_cons hu]
      rfl
  have hsurrogate {u : UInt16} (hu : isHighSurrogate u = true ∨ isLowSurrogate u = true) :
      escapeUnit u = [u] := by
    simp only [isHighSurrogate, isLowSurrogate, Bool.and_eq_true, decide_eq_true_eq] at hu
    exact escapeUnit_of_le (by omega)
  induction value using isWellFormed.induct with
  | case1 => rfl
  | case2 u =>
    simp only [isWellFormed, Bool.and_eq_true, Bool.not_eq_true'] at h
    rw [List.flatMap_cons, isWellFormed_append (hunit h)]
    rfl
  | case3 u v text hu ih =>
    simp only [isWellFormed, hu, if_true, Bool.and_eq_true] at h
    rw [List.flatMap_cons, List.flatMap_cons, hsurrogate (.inl hu), hsurrogate (.inr h.1)]
    show isWellFormed (u :: v :: text.flatMap escapeUnit) = true
    rw [isWellFormed, if_pos hu, h.1, Bool.true_and]
    exact ih h.2
  | case4 u v text hu ih =>
    rw [Bool.not_eq_true] at hu
    simp only [isWellFormed, hu, Bool.false_eq_true, if_false, Bool.and_eq_true,
      Bool.not_eq_true'] at h
    rw [List.flatMap_cons, isWellFormed_append (hunit ⟨hu, h.1⟩)]
    exact ih h.2

theorem isWellFormed_jsonQuote {value : JsString} (h : isWellFormed value = true) :
    isWellFormed (jsonQuote value) = true := by
  rw [jsonQuote, List.cons_append, isWellFormed_cons (isUnpaired_of_lt (by decide)),
    isWellFormed_append (isWellFormed_escape h)]
  rfl

/-! ## Integers -/

namespace JsNumber

/-- The digits of a number are digits, without a leading zero. -/
theorem digit_of_mem_toDigits {n : ℕ} {c : Char} (h : c ∈ Nat.toDigits 10 n) :
    48 ≤ c.toNat ∧ c.toNat ≤ 57 := by
  have hdigit := Nat.isDigit_of_mem_toDigits (by omega) le_rfl h
  simp only [Char.isDigit, Bool.and_eq_true, decide_eq_true_eq, UInt32.le_iff_toNat_le] at hdigit
  exact hdigit

theorem toNat_of_digit {c : Char} (h : 48 ≤ c.toNat ∧ c.toNat ≤ 57) :
    (UInt16.ofNat c.toNat).toNat = c.toNat :=
  Nat.mod_eq_of_lt (by omega)

theorem digitsValue_decimal (n : ℕ) : digitsValue (decimal n) = n := by
  have hfold : ∀ (digits : List Char), (∀ c ∈ digits, 48 ≤ c.toNat ∧ c.toNat ≤ 57) → ∀ start : ℕ,
      (digits.map fun c => UInt16.ofNat c.toNat).foldl
        (fun n c => n * 10 + (c.toNat - 0x30)) start =
        Nat.ofDigitChars 10 digits start := by
    intro digits
    induction digits with
    | nil => exact fun _ _ => rfl
    | cons c digits ih =>
      intro h start
      rw [List.map_cons, List.foldl_cons, ih (fun d hd => h d (List.mem_cons_of_mem _ hd)),
        Nat.ofDigitChars_cons, toNat_of_digit (h c List.mem_cons_self), Nat.mul_comm]
      rfl
  rw [digitsValue, decimal, hfold _ fun c hc => digit_of_mem_toDigits hc]
  exact Nat.ofDigitChars_ten_toDigits

theorem toDigits_head {n : ℕ} (h : (Nat.toDigits 10 n).head? = some '0') : n = 0 := by
  have hchar : ∀ n < 10, n.digitChar = '0' → n = 0 := by decide
  induction n using Nat.strongRecOn with
  | ind n ih =>
    by_cases hn : n < 10
    · rw [Nat.toDigits_of_lt_base hn] at h
      exact hchar n hn (Option.some.inj h)
    · rw [Nat.toDigits_of_base_le (by decide) (by omega),
        List.head?_append_of_ne_nil _ Nat.toDigits_ne_nil] at h
      have := ih (n / 10) (by omega) h
      omega

theorem integerPart_decimal (n : ℕ) : IntegerPart (decimal n) where
  ne_nil := by
    rw [decimal, ne_eq, List.map_eq_nil_iff]
    exact Nat.toDigits_ne_nil
  digits := by
    intro u hu
    obtain ⟨c, hc, rfl⟩ := List.mem_map.1 hu
    have h := digit_of_mem_toDigits hc
    rw [isDigit, toNat_of_digit h]
    simpa using h
  leading := by
    intro h
    rw [decimal, List.head?_map, Option.map_eq_some_iff] at h
    obtain ⟨c, hhead, hc⟩ := h
    have hdigit := digit_of_mem_toDigits (List.mem_of_head? hhead)
    have hchar : c = '0' := by
      have := congrArg UInt16.toNat hc
      rw [toNat_of_digit hdigit] at this
      exact Char.toNat_inj.1 this
    rw [hchar] at hhead
    rw [toDigits_head hhead]
    rfl

/-- The sign and the digits of an integer. -/
theorem toString_int {n : ℤ} (h : n.natAbs ≤ maxSafeInteger) :
    (JsNumber.finite n).toString = sign (n < 0) ++ decimal n.natAbs := by
  have hpositive {m : ℕ} (hm : m ≤ maxSafeInteger) : positiveToString m = decimal m := by
    rw [positiveToString, if_pos (by simpa using hm)]
    simp
  rcases lt_trichotomy n 0 with hn | rfl | hn
  · have hq : (n : ℚ) < 0 := by exact_mod_cast hn
    have habs : -(n : ℚ) = (n.natAbs : ℚ) := by
      rw [← Int.cast_natCast, Int.ofNat_natAbs_of_nonpos hn.le, Int.cast_neg]
    rw [toString, if_neg hq.ne, if_pos hq, habs, hpositive h, sign, if_pos (decide_eq_true hn)]
    rfl
  · rfl
  · have hq : (0 : ℚ) < n := by exact_mod_cast hn
    have habs : (n : ℚ) = (n.natAbs : ℚ) := by
      rw [← Int.cast_natCast, Int.natAbs_of_nonneg hn.le]
    rw [toString, if_neg hq.ne', if_neg hq.not_gt, habs, hpositive h, sign,
      if_neg (by simpa using hn.le)]
    rfl

theorem numberValue_int {n : ℤ} (h : n.natAbs ≤ maxSafeInteger) :
    numberValue (n < 0, decimal n.natAbs, [], 0) = .finite n := by
  have hpow : ((digitsValue (decimal n.natAbs ++ []) : ℕ) : ℚ) *
    10 ^ ((0 : ℤ) - ([] : JsString).length) =
      n.natAbs := by
    rw [List.append_nil, digitsValue_decimal]
    simp
  show ofRat _ (((digitsValue (decimal n.natAbs ++ []) : ℕ) : ℚ) *
    10 ^ ((0 : ℤ) - ([] : JsString).length)) = _
  rw [hpow]
  rcases eq_or_ne n 0 with rfl | hne
  · rfl
  · have hq : (n.natAbs : ℚ) ≠ 0 := by simpa using hne
    rw [ofRat, if_neg hq, if_pos ⟨Rat.den_natCast _, by rwa [Rat.num_natCast, Int.natAbs_natCast]⟩]
    rcases lt_or_gt_of_ne hne with hn | hn
    · rw [if_pos (decide_eq_true hn), ← Int.cast_natCast, Int.ofNat_natAbs_of_nonpos hn.le,
        Int.cast_neg, neg_neg]
    · rw [if_neg (by simpa using hn.le), ← Int.cast_natCast, Int.natAbs_of_nonneg hn.le]

/-- An integer in the safe range is written as a number that denotes it. -/
theorem value_toString {n : ℤ} (h : n.natAbs ≤ maxSafeInteger) :
    Value (JsNumber.finite n).toString (.number (.finite n)) := by
  have hliteral : NumberLiteral (sign (n < 0) ++ (decimal n.natAbs ++ ([] ++ [])))
      (decide (n < 0), decimal n.natAbs, [], 0) :=
    .mk (integerPart_decimal _) .absent .absent
  rw [List.append_nil, List.append_nil, ← toString_int h] at hliteral
  have hvalue := Value.number hliteral
  rwa [numberValue_int h] at hvalue

theorem toString_lt {n : ℤ} (h : n.natAbs ≤ maxSafeInteger) :
    ∀ u ∈ (JsNumber.finite n).toString, u.toNat < 0x80 := by
  rw [toString_int h]
  intro u hu
  rcases List.mem_append.1 hu with hu | hu
  · rw [sign] at hu
    split at hu
    · obtain rfl := List.mem_singleton.1 hu
      decide
    · cases hu
  · have hdigit := (integerPart_decimal _).digits u hu
    simp only [isDigit, Bool.and_eq_true, decide_eq_true_eq] at hdigit
    omega

end JsNumber

end SelfRelay
