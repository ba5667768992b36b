import Mathlib.Data.Bool.AllAny
import Mathlib.Data.Nat.Find
import SelfRelay.Js.Stringify
import SelfRelay.Transfer.Payload

/-!
# File names

What `sanitizeFileName` promises of every name (`SafeName`), and when it keeps the promise.  The
stages before `truncateUtf8` give a name (`wholeName`) that is safe except for its length, for
whitespace that stood before stripped dots, and for lone surrogates; cutting it to its length may
end it anywhere (`CleanCut`).
-/

namespace SelfRelay

/-! ## Surrogates by position -/

/-- The unit at a position is a surrogate without its other half. -/
def IsLone (s : JsString) (i : ℕ) : Prop :=
  isHighSurrogate (s.getD i 0) = true ∧ isLowSurrogate (s.getD (i + 1) 0) = false ∨
    isLowSurrogate (s.getD i 0) = true ∧ (i = 0 ∨ isHighSurrogate (s.getD (i - 1) 0) = false)

instance (s : JsString) (i : ℕ) : Decidable (IsLone s i) := inferInstanceAs (Decidable (_ ∨ _))

theorem not_low_of_high {u : UInt16} (h : isHighSurrogate u = true) : isLowSurrogate u = false := by
  simp only [isHighSurrogate, isLowSurrogate, Bool.and_eq_true, Bool.and_eq_false_iff,
    decide_eq_true_eq,
    decide_eq_false_iff_not] at h ⊢
  omega

theorem not_high_of_low {u : UInt16} (h : isLowSurrogate u = true) : isHighSurrogate u = false := by
  cases hhigh : isHighSurrogate u with
  | false => rfl
  | true => exact absurd h (by rw [not_low_of_high hhigh]; decide)

theorem isLone_cons_succ {u : UInt16} (h : isHighSurrogate u = false) (s : JsString) (i : ℕ) :
    IsLone (u :: s) (i + 1) ↔ IsLone s i := by
  cases i with
  | zero => simp [IsLone, h]
  | succ i => simp [IsLone]

theorem isLone_cons_zero (u : UInt16) (s : JsString) :
    IsLone (u :: s) 0 ↔ isHighSurrogate u = true ∧ isLowSurrogate (s.getD 0 0) = false ∨
      isLowSurrogate u = true := by
  simp [IsLone]

/-- A string is well formed if and only if no surrogate in it stands alone. -/
theorem isWellFormed_iff (s : JsString) : isWellFormed s = true ↔ ∀ i, ¬ IsLone s i := by
  induction s using isWellFormed.induct with
  | case1 => simp [isWellFormed, IsLone, isHighSurrogate, isLowSurrogate]
  | case2 u =>
    have hnil (i : ℕ) : ¬ IsLone [] i := by simp [IsLone, isHighSurrogate, isLowSurrogate]
    constructor
    · intro h
      simp only [isWellFormed, Bool.and_eq_true, Bool.not_eq_true'] at h
      intro i
      cases i with
      | zero => simp [isLone_cons_zero, h.1, h.2]
      | succ i => rw [isLone_cons_succ h.1]; exact hnil i
    · intro h
      have hzero := h 0
      have hlow : isLowSurrogate (([] : JsString).getD 0 0) = false := by decide
      rw [isLone_cons_zero, not_or, hlow] at hzero
      simpa [isWellFormed] using hzero
  | case3 u v rest hu ih =>
    have hrest (hv : isLowSurrogate v = true) (i : ℕ) : IsLone (u :: v :: rest) (i + 2) ↔
        IsLone rest i := by
      have hhigh := not_high_of_low hv
      cases i with
      | zero => simp [IsLone, hhigh]
      | succ i => simp [IsLone]
    rw [isWellFormed, if_pos hu, Bool.and_eq_true, ih]
    constructor
    · rintro ⟨hv, h⟩ i
      obtain _ | _ | i := i
      · simp [isLone_cons_zero, hv, not_low_of_high hu]
      · simp [IsLone, not_high_of_low hv, hu]
      · rw [hrest hv]
        exact h i
    · intro h
      have hv : isLowSurrogate v = true := by
        by_contra hv
        exact h 0 (.inl ⟨hu, by simpa using hv⟩)
      exact ⟨hv, fun i => (hrest hv i).not.1 (h (i + 2))⟩
  | case4 u v rest hu ih =>
    rw [Bool.not_eq_true] at hu
    rw [isWellFormed, if_neg (by rw [hu]; decide), Bool.and_eq_true, Bool.not_eq_true', ih]
    constructor
    · rintro ⟨hlow, h⟩ i
      cases i with
      | zero => simp [isLone_cons_zero, hu, hlow]
      | succ i => rw [isLone_cons_succ hu]; exact h i
    · intro h
      have hlow : isLowSurrogate u = false := by
        by_contra hlow
        exact h 0 (.inr ⟨by simpa using hlow, .inl rfl⟩)
      exact ⟨hlow, fun i => (isLone_cons_succ hu _ i).not.1 (h (i + 1))⟩

theorem getD_take (s : JsString) (k i : ℕ) :
    (s.take k).getD i 0 = if i < k then s.getD i 0 else 0 := by
  rw [List.getD_eq_getElem?_getD, List.getD_eq_getElem?_getD, List.getElem?_take]
  split_ifs <;> rfl

/-- A prefix is well formed if there is no lone surrogate in it and it does
not end inside a pair. -/
theorem isWellFormed_take {s : JsString} {k : ℕ} (hpos : 0 < k) :
    isWellFormed (s.take k) = true ↔ (∀ i < k, ¬ IsLone s i) ∧
      ¬ (isHighSurrogate (s.getD (k - 1) 0) = true ∧ isLowSurrogate (s.getD k 0) = true) := by
  have hzero : isHighSurrogate 0 = false ∧ isLowSurrogate 0 = false := by decide
  have hinner {i : ℕ} (hi : i + 1 < k) : IsLone (s.take k) i ↔ IsLone s i := by
    simp only [IsLone, getD_take, if_pos hi, if_pos (show i < k by omega),
      if_pos (show i - 1 < k by omega)]
  have hlast : IsLone (s.take k) (k - 1) ↔ isHighSurrogate (s.getD (k - 1) 0) = true ∨
      IsLone s (k - 1) := by
    have hk : k - 1 + 1 = k := by omega
    simp only [IsLone, getD_take, hk, if_neg (lt_irrefl k), if_pos (show k - 1 < k by omega),
      if_pos (show k - 1 - 1 < k by omega), hzero.2, and_true]
    tauto
  have houter {i : ℕ} (hi : k ≤ i) : ¬ IsLone (s.take k) i := by
    simp only [IsLone, getD_take, if_neg (not_lt.2 hi), hzero.1, hzero.2, Bool.false_eq_true,
      false_and, or_self,
      not_false_eq_true]
  rw [isWellFormed_iff]
  constructor
  · intro h
    have hnot := h (k - 1)
    rw [hlast, not_or] at hnot
    refine ⟨fun i hi => ?_, fun hpair => hnot.1 hpair.1⟩
    rcases Nat.lt_or_ge (i + 1) k with hlt | hge
    · rw [← hinner hlt]
      exact h i
    · obtain rfl : i = k - 1 := by omega
      exact hnot.2
  · rintro ⟨h, hpair⟩ i
    rcases Nat.lt_or_ge (i + 1) k with hlt | hge
    · rw [hinner hlt]
      exact h i (by omega)
    · rcases Nat.lt_or_ge i k with hlt | hout
      · obtain rfl : i = k - 1 := by omega
        rw [hlast, not_or]
        refine ⟨fun hhigh => ?_, h _ hlt⟩
        -- a paired high surrogate at the end is cut off from its other half
        have hk : k - 1 + 1 = k := by omega
        apply h (k - 1) hlt
        left
        rw [hk]
        refine ⟨hhigh, ?_⟩
        by_contra hlow
        exact hpair ⟨hhigh, by simpa using hlow⟩
      · exact houter hout

/-! ## The cut -/

/-- The number of code units that fit into some bytes. -/
def fitting (maximumBytes : ℕ) (value : JsString) : ℕ :=
  Nat.findGreatest (fun k => utf8ByteLength (value.take k) ≤ maximumBytes) value.length

theorem utf8ByteLength_fitting (maximumBytes : ℕ) (value : JsString) :
    utf8ByteLength (value.take (fitting maximumBytes value)) ≤ maximumBytes :=
  Nat.findGreatest_spec (P := fun k => utf8ByteLength (value.take k) ≤ maximumBytes) (Nat.zero_le _)
    (Nat.zero_le _)

theorem fitting_le (maximumBytes : ℕ) (value : JsString) :
    fitting maximumBytes value ≤ value.length :=
  Nat.findGreatest_le _

/-- `truncateUtf8` keeps the units that fit. -/
theorem truncateUtf8_take (maximumBytes : ℕ) (value : JsString) {k fuel : ℕ} (hk : k ≤ value.length)
    (hfuel : k ≤ fuel) (hfit : fitting maximumBytes value ≤ k) :
    truncateUtf8 maximumBytes (value.take k) fuel = value.take (fitting maximumBytes value) := by
  induction fuel generalizing k with
  | zero =>
    obtain rfl : k = 0 := by omega
    obtain hzero : fitting maximumBytes value = 0 := by omega
    rw [hzero]
    rfl
  | succ fuel ih =>
    have hlen : (value.take k).length = k := by rw [List.length_take]; omega
    rw [truncateUtf8, hlen]
    rcases Nat.lt_or_ge (fitting maximumBytes value) k with hlt | hge
    · have hlong := Nat.findGreatest_is_greatest hlt hk
      rw [if_pos ⟨by omega, not_le.1 hlong⟩]
      have hdrop : (value.take k).dropLast = value.take (k - 1) := by
        rw [List.dropLast_eq_take, hlen, List.take_take]
        congr 1
        omega
      rw [hdrop]
      exact ih (by omega) (by omega) (by omega)
    · obtain rfl : fitting maximumBytes value = k := by omega
      rw [if_neg]
      rintro ⟨-, hlong⟩
      exact absurd (utf8ByteLength_fitting maximumBytes value) (not_le.2 hlong)

theorem truncateUtf8_eq (maximumBytes : ℕ) (value : JsString) :
    truncateUtf8 maximumBytes value value.length = value.take (fitting maximumBytes value) := by
  have h := truncateUtf8_take maximumBytes value le_rfl le_rfl (fitting_le maximumBytes value)
  rwa [List.take_length] at h

/-! ## UTF-8 lengths -/

theorem length_utf8Sequence (c : ℕ) :
    (utf8Sequence c).length ≤ 4 ∧ (c < 0x10000 → (utf8Sequence c).length ≤ 3) := by
  unfold utf8Sequence
  split_ifs with h₁ h₂ h₃
  · simp
  · simp
  · simp
  · simp [h₃]

theorem utf8ByteLength_le (s : JsString) : utf8ByteLength s ≤ 3 * s.length := by
  have hunit (u : UInt16) : (utf8Sequence (scalarValue u.toNat)).length ≤ 3 := by
    have hlt : scalarValue u.toNat < 0x10000 := by
      have := u.toNat_lt
      unfold scalarValue
      split_ifs <;> omega
    exact (length_utf8Sequence _).2 hlt
  unfold utf8ByteLength textEncode
  induction s using codePoints.induct with
  | case1 => exact le_rfl
  | case2 u =>
    simp only [codePoints, List.flatMap_cons, List.flatMap_nil, List.append_nil]
    exact hunit u
  | case3 u v rest h ih =>
    have hpair := (length_utf8Sequence
      (scalarValue (0x10000 + (u.toNat - 0xd800) * 1024 + (v.toNat - 0xdc00)))).1
    simp only [codePoints, h, if_true, List.flatMap_cons, List.length_append, List.length_cons]
    omega
  | case4 u v rest h ih =>
    have hfirst := hunit u
    simp only [List.length_cons] at ih
    simp only [codePoints, h, Bool.false_eq_true, if_false, List.flatMap_cons, List.length_append,
      List.length_cons]
    omega

/-! ## The stages before the cut -/

/-- The units that `sanitizeFileName` replaces. -/
def forbiddenUnits : JsString := js "<>:\"/\\|?*"

/-- The last component of a name. -/
def lastComponent (source : JsString) : JsString :=
  ((splitOn (fun u => u = 0x5c || u = 0x2f) source).filter (· ≠ [])).getLast?.getD []

/-- The last component without control characters and forbidden units, trimmed, and without the dots
and spaces at its end. -/
def strippedName (source : JsString) : JsString :=
  (trim (((lastComponent source).filter fun u => !isControl u).map fun u =>
    if forbiddenUnits.contains u then 0x5f else u)).rdropWhile fun u => u = 0x2e || u = 0x20

/-- The stripped name, or `download` where nothing is left. -/
def baseName (source : JsString) : JsString :=
  let result := strippedName source
  if result = [] ∨ result = js "." ∨ result = js ".." then js "download" else result

/-- The name that is not empty and no device. -/
def wholeName (unicode : Unicode) (name : JsString) : JsString :=
  let result := baseName (unicode.normalizeNfkc name)
  if isReservedWindowsName unicode result then 0x5f :: result else result

theorem sanitizeFileName_some (unicode : Unicode) (name : JsString) :
    sanitizeFileName unicode (some name) =
      if (wholeName unicode name).take (fitting maxFileNameBytes (wholeName unicode name)) = []
      then js "download"
      else (wholeName unicode name).take (fitting maxFileNameBytes (wholeName unicode name)) := by
  rw [← truncateUtf8_eq]
  rfl

/-- A unit that may stand in a file name. -/
def IsSafeUnit (u : UInt16) : Prop := isControl u = false ∧ u ∉ forbiddenUnits

instance (u : UInt16) : Decidable (IsSafeUnit u) := inferInstanceAs (Decidable (_ ∧ _))

theorem trim_isPrefix (value : JsString) : trim value <+: value.dropWhile isTrimmed :=
  List.rdropWhile_prefix _ _

theorem mem_of_mem_trim {value : JsString} {u : UInt16} (h : u ∈ trim value) : u ∈ value :=
  (List.dropWhile_suffix _).subset ((trim_isPrefix value).subset h)

theorem isSafeUnit_strippedName {source : JsString} : ∀ u ∈ strippedName source, IsSafeUnit u := by
  intro u hu
  obtain ⟨v, hv, rfl⟩ := List.mem_map.1 (mem_of_mem_trim ((List.rdropWhile_prefix _ _).subset hu))
  split_ifs with hforbidden
  · decide
  · refine ⟨by simpa using (List.mem_filter.1 hv).2, ?_⟩
    simpa using hforbidden

theorem head?_of_isPrefix {s t : JsString} (h : s <+: t) (hs : s ≠ []) : s.head? = t.head? := by
  obtain ⟨rest, rfl⟩ := h
  cases s with
  | nil => exact absurd rfl hs
  | cons u s => rfl

theorem head_trim {value : JsString} : ∀ u ∈ (trim value).head?, isTrimmed u = false := by
  intro u hu
  have hne : trim value ≠ [] := by
    intro hnil
    rw [hnil] at hu
    cases hu
  rw [head?_of_isPrefix (trim_isPrefix value) hne] at hu
  have := List.head?_dropWhile_not isTrimmed value
  rw [hu] at this
  simpa using this

theorem head_strippedName {source : JsString} : ∀ u ∈ (strippedName source).head?,
    isTrimmed u = false := by
  intro u hu
  have hne : strippedName source ≠ [] := by
    intro hnil
    rw [hnil] at hu
    cases hu
  rw [strippedName, head?_of_isPrefix (List.rdropWhile_prefix _ _) hne] at hu
  exact head_trim u hu

theorem last_strippedName {source : JsString} :
    ∀ u ∈ (strippedName source).getLast?, u ≠ 0x2e ∧ u ≠ 0x20 := by
  intro u hu
  obtain ⟨hne, rfl⟩ := List.mem_getLast?_eq_getLast hu
  have hnot : ¬ ((decide ((strippedName source).getLast hne = 0x2e) ||
      decide ((strippedName source).getLast hne = 0x20)) = true) := List.rdropWhile_last_not _ _ hne
  simpa using hnot

/-! ## Device names -/

/-- The upper case of an ASCII letter. -/
def asciiUpper (u : UInt16) : UInt16 := if 0x61 ≤ u.toNat ∧ u.toNat ≤ 0x7a then u - 0x20 else u

/-- The part of a name before its first dot. -/
def nameStem (name : JsString) : JsString := name.takeWhile fun u => u ≠ 0x2e

/-- The part before the first dot is a reserved device name, in whatever case. -/
def IsDeviceName (name : JsString) : Prop := (nameStem name).map asciiUpper ∈ reservedStems

instance (name : JsString) : Decidable (IsDeviceName name) := inferInstanceAs (Decidable (_ ∈ _))

theorem headD_splitOn (separator : UInt16 → Bool) (s : JsString) :
    (splitOn separator s).headD [] = s.takeWhile fun u => !separator u := by
  induction s with
  | nil => rfl
  | cons u s ih =>
    rw [splitOn]
    cases hu : separator u with
    | true => simp [hu]
    | false =>
      simp only [List.takeWhile_cons, hu, Bool.not_false, if_true, Bool.false_eq_true, if_false]
      rw [← ih]
      cases splitOn separator s with
      | nil => rfl
      | cons piece pieces => rfl

theorem asciiUpper_of_le {u : UInt16} (h : 0x80 ≤ u.toNat) : asciiUpper u = u := by
  rw [asciiUpper, if_neg (by omega)]

/-- The upper case of ASCII strings is that of their letters. -/
def Unicode.UppercasesAscii (unicode : Unicode) : Prop :=
  ∀ s : JsString, (∀ u ∈ s, u.toNat < 0x80) → unicode.toUpperCase s = s.map asciiUpper

theorem isReservedWindowsName_stem (unicode : Unicode) (name : JsString) :
    isReservedWindowsName unicode name =
      reservedStems.contains (unicode.toUpperCase (nameStem name)) := by
  have hsplit : (splitOn (fun u => decide (u = 0x2e)) name).headD [] = nameStem name := by
    rw [headD_splitOn, nameStem]
    simp
  rw [isReservedWindowsName, hsplit]

theorem ascii_of_reservedStem {stem : JsString} (h : stem ∈ reservedStems) :
    ∀ u ∈ stem, u.toNat < 0x80 := by
  have hall : ∀ stem ∈ reservedStems, stem.all (fun u => u.toNat < 0x80) = true := by decide
  exact List.all_iff_forall_prop.1 (hall stem h)

section Device

variable {unicode : Unicode} (hupper : unicode.UppercasesAscii)
include hupper

theorem isReserved_of_isDeviceName {name : JsString} (h : IsDeviceName name) :
    isReservedWindowsName unicode name = true := by
  have hstem : ∀ u ∈ nameStem name, u.toNat < 0x80 := by
    intro u hu
    by_contra hge
    have hupper := ascii_of_reservedStem h (asciiUpper u) (List.mem_map_of_mem hu)
    rw [asciiUpper_of_le (not_lt.1 hge)] at hupper
    exact hge hupper
  rw [isReservedWindowsName_stem, hupper _ hstem]
  simpa [IsDeviceName] using h

theorem not_isDeviceName_wholeName (name : JsString) : ¬ IsDeviceName (wholeName unicode name) := by
  have hhead : ∀ stem ∈ reservedStems, stem.head? ≠ some 0x5f := by decide
  unfold wholeName
  dsimp only
  split_ifs with hreserved
  · exact fun h => hhead _ h rfl
  · exact fun h => hreserved (isReserved_of_isDeviceName hupper h)

end Device

/-- Cutting a long name does not make it a device name. -/
theorem not_isDeviceName_take {name : JsString} (h : ¬ IsDeviceName name) :
    ¬ IsDeviceName (name.take (fitting maxFileNameBytes name)) := by
  have hshort : ∀ stem ∈ reservedStems, stem.length ≤ 4 := by decide
  intro hdevice
  set k := fitting maxFileNameBytes name with hk
  have hsplit : nameStem name = if (nameStem (name.take k)).length = (name.take k).length
      then name.take k ++ nameStem (name.drop k) else nameStem (name.take k) := by
    conv_lhs => rw [← List.take_append_drop k name]
    exact List.takeWhile_append
  by_cases hwhole : (nameStem (name.take k)).length = (name.take k).length
  · -- no dot is left, so that so short a name was not cut at all
    have hlen : (name.take k).length ≤ 4 := by
      rw [← hwhole, ← List.length_map asciiUpper]
      exact hshort _ hdevice
    have hfits : utf8ByteLength (name.take (min name.length (k + 1))) ≤ maxFileNameBytes := by
      have hbound := utf8ByteLength_le (name.take (min name.length (k + 1)))
      rw [List.length_take] at hbound hlen
      have hmax : maxFileNameBytes = 255 := rfl
      omega
    have hle : min name.length (k + 1) ≤ k := Nat.le_findGreatest (min_le_left _ _) hfits
    have hall : name.take k = name := List.take_of_length_le (by omega)
    rw [hall] at hdevice
    exact h hdevice
  · rw [if_neg hwhole] at hsplit
    rw [IsDeviceName, ← hsplit] at hdevice
    exact h hdevice

/-! ## The promise -/

/-- A name that is safe to download under. -/
structure SafeName (name : JsString) : Prop where
  nonempty : name ≠ []
  wellFormed : isWellFormed name = true
  length_le : utf8ByteLength name ≤ maxFileNameBytes
  units : ∀ u ∈ name, IsSafeUnit u
  leading : ∀ u ∈ name.head?, isTrimmed u = false
  trailing : ∀ u ∈ name.getLast?, isTrimmed u = false
  ending : ∀ u ∈ name.getLast?, u ≠ 0x2e ∧ u ≠ 0x20
  device : ¬ IsDeviceName name

/-- What a name needs so that the units of it that fit make a safe one: no surrogate among them
stands alone, the last of them is no whitespace, and where more units follow, it is no dot and not
the first half of a pair. -/
structure CleanCut (name : JsString) : Prop where
  paired : ∀ i < fitting maxFileNameBytes name, ¬ IsLone name i
  space : isTrimmed (name.getD (fitting maxFileNameBytes name - 1) 0) = false
  dot : fitting maxFileNameBytes name < name.length →
    name.getD (fitting maxFileNameBytes name - 1) 0 ≠ 0x2e
  whole : ¬ (isHighSurrogate (name.getD (fitting maxFileNameBytes name - 1) 0) = true ∧
    isLowSurrogate (name.getD (fitting maxFileNameBytes name) 0) = true)

/-- The name before the cut is safe, except for its length, its surrogates and
whitespace at its end. -/
structure AlmostSafe (name : JsString) : Prop where
  nonempty : name ≠ []
  units : ∀ u ∈ name, IsSafeUnit u
  leading : ∀ u ∈ name.head?, isTrimmed u = false
  ending : ∀ u ∈ name.getLast?, u ≠ 0x2e ∧ u ≠ 0x20
  device : ¬ IsDeviceName name

theorem baseName_spec (source : JsString) :
    baseName source ≠ [] ∧ (∀ u ∈ baseName source, IsSafeUnit u) ∧
      (∀ u ∈ (baseName source).head?, isTrimmed u = false) ∧
      ∀ u ∈ (baseName source).getLast?, u ≠ 0x2e ∧ u ≠ 0x20 := by
  unfold baseName
  dsimp only
  split_ifs with hempty
  · refine ⟨by decide, List.all_iff_forall_prop.1 (by decide), ?_, ?_⟩
    · rintro _ ⟨⟩
      decide
    · rintro _ ⟨⟩
      decide
  · exact ⟨fun hnil => hempty (.inl hnil), isSafeUnit_strippedName, head_strippedName,
      last_strippedName⟩

theorem almostSafe_wholeName {unicode : Unicode} (hupper : unicode.UppercasesAscii)
    (name : JsString) :
    AlmostSafe (wholeName unicode name) := by
  have hdevice := not_isDeviceName_wholeName hupper name
  obtain ⟨hne, hsafe, hhead, hlast⟩ := baseName_spec (unicode.normalizeNfkc name)
  unfold wholeName at hdevice ⊢
  dsimp only at hdevice ⊢
  split_ifs at hdevice ⊢
  · refine ⟨List.cons_ne_nil _ _, ?_, ?_, ?_, hdevice⟩
    · intro u hu
      rcases List.mem_cons.1 hu with rfl | hu
      · decide
      · exact hsafe u hu
    · rintro u ⟨⟩
      decide
    · intro u hu
      rw [List.getLast?_cons_of_ne_nil hne] at hu
      exact hlast u hu
  · exact ⟨hne, hsafe, hhead, hlast, hdevice⟩

section Cut

variable {name : JsString} (h : AlmostSafe name)
include h

theorem AlmostSafe.fitting_pos : 0 < fitting maxFileNameBytes name := by
  have hlen : 1 ≤ name.length := List.length_pos_iff.2 h.nonempty
  apply Nat.le_findGreatest hlen
  have hbound := utf8ByteLength_le (name.take 1)
  rw [List.length_take] at hbound
  have hmax : maxFileNameBytes = 255 := rfl
  omega

theorem AlmostSafe.getLast?_take :
    (name.take (fitting maxFileNameBytes name)).getLast? =
      some (name.getD (fitting maxFileNameBytes name - 1) 0) := by
  have hpos := h.fitting_pos
  have hle := fitting_le maxFileNameBytes name
  have hlt : fitting maxFileNameBytes name - 1 < name.length := by omega
  rw [List.getLast?_eq_getElem?, List.length_take, Nat.min_eq_left hle, List.getElem?_take,
    if_pos (by omega), List.getD_eq_getElem?_getD, List.getElem?_eq_getElem hlt, Option.getD_some]

/-- Of such a name the units that fit are a safe name if and only if it is cut cleanly. -/
theorem AlmostSafe.take_iff :
    SafeName (name.take (fitting maxFileNameBytes name)) ↔ CleanCut name := by
  have hpos := h.fitting_pos
  have hlast := h.getLast?_take
  have hne : name.take (fitting maxFileNameBytes name) ≠ [] := by
    intro hnil
    rw [hnil] at hlast
    cases hlast
  constructor
  · intro hsafe
    obtain ⟨hpaired, hwhole⟩ := (isWellFormed_take hpos).1 hsafe.wellFormed
    exact ⟨hpaired, hsafe.trailing _ hlast, fun _ => (hsafe.ending _ hlast).1, hwhole⟩
  · intro hcut
    refine ⟨hne, (isWellFormed_take hpos).2 ⟨hcut.paired, hcut.whole⟩,
      utf8ByteLength_fitting maxFileNameBytes name,
      fun u hu => h.units u (List.mem_of_mem_take hu), ?_, ?_,
      ?_, not_isDeviceName_take h.device⟩
    · rw [head?_of_isPrefix (List.take_prefix _ _) hne]
      exact h.leading
    · rw [hlast]
      rintro _ ⟨⟩
      exact hcut.space
    · rw [hlast]
      rintro _ ⟨⟩
      refine ⟨?_, ?_⟩
      · rcases Nat.lt_or_eq_of_le (fitting_le maxFileNameBytes name) with hlt | hall
        · exact hcut.dot hlt
        · rw [hall, List.take_length] at hlast
          exact (h.ending _ (hall ▸ hlast)).1
      · intro hspace
        have hcontra := hcut.space
        rw [hspace] at hcontra
        exact absurd hcontra (by decide)

end Cut

/-- A sanitized name is safe if and only if the name before the cut is cut cleanly. -/
theorem safeName_sanitizeFileName_iff {unicode : Unicode} (hupper : unicode.UppercasesAscii)
    (name : JsString) :
    SafeName (sanitizeFileName unicode (some name)) ↔ CleanCut (wholeName unicode name) := by
  have halmost := almostSafe_wholeName hupper name
  have hne : (wholeName unicode name).take
      (fitting maxFileNameBytes (wholeName unicode name)) ≠ [] := by
    intro hnil
    have hlast := halmost.getLast?_take
    rw [hnil] at hlast
    cases hlast
  rw [sanitizeFileName_some, if_neg hne]
  exact halmost.take_iff

/-- A runtime on ASCII, where normalization changes nothing. -/
def asciiUnicode : Unicode := ⟨id, List.map asciiUpper⟩

end SelfRelay
