import SelfRelay.Python.Value

/-!
# When `json.dumps` raises

The encoder raises on a value that is nested too deep, and on nothing else when the integers in the
value are short; without `ensure_ascii` its text can be encoded when all texts in the value can.
-/

namespace SelfRelay.Python

/-! ## Values -/

namespace PyValue

mutual

/-- The number of containers that are open at once. -/
def nesting : PyValue → ℕ
  | .list items => nestingItems items + 1
  | .dict items => nestingMembers items + 1
  | .none | .bool _ | .int _ | .float _ | .str _ => 0

def nestingItems : List PyValue → ℕ
  | [] => 0
  | item :: items => max (nesting item) (nestingItems items)

def nestingMembers : List (PyStr × PyValue) → ℕ
  | [] => 0
  | (_, value) :: items => max (nesting value) (nestingMembers items)

end

mutual

/-- All texts, among them the keys, and all integers in the value. -/
def all (onStr : PyStr → Bool) (onInt : ℤ → Bool) : PyValue → Bool
  | .str s => onStr s
  | .int n => onInt n
  | .list items => allItems onStr onInt items
  | .dict items => allMembers onStr onInt items
  | .none | .bool _ | .float _ => true

def allItems (onStr : PyStr → Bool) (onInt : ℤ → Bool) : List PyValue → Bool
  | [] => true
  | item :: items => all onStr onInt item && allItems onStr onInt items

def allMembers (onStr : PyStr → Bool) (onInt : ℤ → Bool) : List (PyStr × PyValue) → Bool
  | [] => true
  | (key, value) :: items => onStr key && (all onStr onInt value && allMembers onStr onInt items)

end

/-- All texts in the value can be encoded. -/
def textsEncodable (value : PyValue) : Bool := value.all encodable fun _ => true

/-- All integers in the value are short enough to be converted to text. -/
def intsPrintable (value : PyValue) : Bool :=
  value.all (fun _ => true) fun n => (decimal n.natAbs).length ≤ intMaxStrDigits

end PyValue

/-! ## Nesting -/

/-- A computation returns when `fits` holds, and raises `RecursionError` otherwise. -/
structure Returns {α : Type} (fits : Prop) (x : Except PyError α) : Prop where
  ok : fits → ∃ a, x = .ok a
  error : ¬ fits → x = .error .recursionError

namespace Returns

variable {α β : Type} {p q : Prop} {x : Except PyError α}

theorem pure (a : α) : Returns True (.ok a : Except PyError α) :=
  ⟨fun _ => ⟨a, rfl⟩, fun h => (h trivial).elim⟩

theorem congr (h : Returns p x) (hpq : p ↔ q) : Returns q x :=
  propext hpq ▸ h

theorem bind {f : α → Except PyError β} (hx : Returns p x) (hf : ∀ a, Returns q (f a)) :
    Returns (p ∧ q) (x >>= f) := by
  by_cases hp : p
  · obtain ⟨a, rfl⟩ := hx.ok hp
    exact (hf a).congr (by simp [hp])
  · rw [hx.error hp]
    exact ⟨fun h => (hp h.1).elim, fun _ => rfl⟩

theorem map {f : α → β} (hx : Returns p x) : Returns p (x.map f) :=
  (hx.bind fun a => .pure (f a)).congr (and_iff_left trivial)

end Returns

section Nesting

variable {ensureAscii : Bool}

theorem intRepr_returns {n : ℤ} (h : (decimal n.natAbs).length ≤ intMaxStrDigits) :
    Returns True (intRepr n) := by
  rw [intRepr, if_neg h.not_gt]
  exact .pure _

open PyValue

mutual

theorem dumps_returns : ∀ (depth : ℕ) (value : PyValue), value.intsPrintable = true →
    Returns (value.nesting ≤ depth) (dumps ensureAscii depth value)
  | depth, .none, _ | depth, .bool _, _ | depth, .float _, _ | depth, .str _, _ =>
    (Returns.pure _).congr (iff_of_true trivial depth.zero_le)
  | depth, .int _, h =>
    (intRepr_returns (of_decide_eq_true h)).congr (iff_of_true trivial depth.zero_le)
  | 0, .list _, _ | 0, .dict _, _ =>
    ⟨fun h => absurd h (Nat.not_succ_le_zero _), fun _ => rfl⟩
  | depth + 1, .list items, h =>
    (dumpsItems_returns depth items h).map.congr Nat.succ_le_succ_iff.symm
  | depth + 1, .dict items, h =>
    (dumpsMembers_returns depth items h).map.congr Nat.succ_le_succ_iff.symm

theorem dumpsItems_returns : ∀ (depth : ℕ) (items : List PyValue),
    allItems (fun _ => true) (fun n => (decimal n.natAbs).length ≤ intMaxStrDigits) items = true →
    Returns (nestingItems items ≤ depth) (dumpsItems ensureAscii depth items)
  | depth, [], _ => (Returns.pure _).congr (iff_of_true trivial depth.zero_le)
  | depth, [item], h => by
    have hitem := (Bool.and_eq_true_iff.1 h).1
    refine (dumps_returns depth item hitem).congr ?_
    rw [nestingItems, nestingItems, Nat.max_zero]
  | depth, item :: item' :: items, h => by
    obtain ⟨hitem, hitems⟩ := Bool.and_eq_true_iff.1 h
    rw [nestingItems, max_le_iff]
    refine (dumps_returns depth item hitem).bind fun text => ?_
    exact ((dumpsItems_returns depth (item' :: items) hitems).bind fun rest => .pure _).congr
      (and_iff_left trivial)

theorem dumpsMembers_returns : ∀ (depth : ℕ) (items : List (PyStr × PyValue)),
    allMembers (fun _ => true) (fun n => (decimal n.natAbs).length ≤ intMaxStrDigits) items = true →
    Returns (nestingMembers items ≤ depth) (dumpsMembers ensureAscii depth items)
  | depth, [], _ => (Returns.pure _).congr (iff_of_true trivial depth.zero_le)
  | depth, [(key, value)], h => by
    have hvalue := (Bool.and_eq_true_iff.1 (Bool.and_eq_true_iff.1 h).2).1
    refine (dumps_returns depth value hvalue).map.congr ?_
    rw [nestingMembers, nestingMembers, Nat.max_zero]
  | depth, (key, value) :: item :: items, h => by
    obtain ⟨hvalue, hitems⟩ := Bool.and_eq_true_iff.1 (Bool.and_eq_true_iff.1 h).2
    rw [nestingMembers, max_le_iff]
    refine (dumps_returns depth value hvalue).bind fun text => ?_
    exact ((dumpsMembers_returns depth (item :: items) hitems).bind fun rest => .pure _).congr
      (and_iff_left trivial)

end

end Nesting

/-! ## Texts -/

theorem isSurrogate_of_lt {c : ℕ} (h : c < 0xd800) : isSurrogate c = false := by
  simp only [isSurrogate, Bool.and_eq_false_iff, decide_eq_false_iff_not]
  omega

theorem encodable_iff {s : PyStr} : encodable s = true ↔ ∀ c ∈ s, isSurrogate c = false := by
  simp [encodable]

theorem encodable_append {s t : PyStr} : encodable (s ++ t) = (encodable s && encodable t) := by
  simp [encodable]

theorem encodable_cons {c : ℕ} {s : PyStr} :
    encodable (c :: s) = (!isSurrogate c && encodable s) := by
  simp [encodable]

theorem encodable_of_sublist {s t : PyStr} (h : s.Sublist t) (ht : encodable t = true) :
    encodable s = true :=
  encodable_iff.2 fun c hc => encodable_iff.1 ht c (h.subset hc)

theorem encodable_of_ascii {s : PyStr} (h : ∀ c ∈ s, c < 0x80) : encodable s = true := by
  refine encodable_iff.2 fun c hc => ?_
  have hlt := h c hc
  exact isSurrogate_of_lt (by omega)

theorem encodable_decimal (n : ℕ) : encodable (decimal n) = true := by
  refine encodable_of_ascii fun c hc => ?_
  obtain ⟨digit, hdigit, rfl⟩ := List.mem_map.1 hc
  have hisDigit := Nat.isDigit_of_mem_toDigits (by omega) le_rfl hdigit
  simp only [Char.isDigit, Bool.and_eq_true, decide_eq_true_eq] at hisDigit
  have hle := UInt32.le_iff_toNat_le.1 hisDigit.2
  exact hle.trans_lt (by decide)

theorem encodable_zeros (count : ℕ) : encodable (List.replicate count 0x30) = true := by
  refine encodable_of_ascii fun c hc => ?_
  rw [List.eq_of_mem_replicate hc]
  decide

theorem encodable_positiveRepr (q : ℚ) : encodable (positiveRepr q) = true := by
  unfold positiveRepr
  obtain ⟨k, s, n⟩ := JsNumber.shortest q
  have htake (count : ℕ) : encodable ((decimal s).take count) = true :=
    encodable_of_sublist (List.take_sublist _ _) (encodable_decimal s)
  have hdrop (count : ℕ) : encodable ((decimal s).drop count) = true :=
    encodable_of_sublist (List.drop_sublist _ _) (encodable_decimal s)
  have hpoint : encodable (py ".") = true := by decide
  have hunit : encodable (py ".0") = true := by decide
  have hzero : encodable (py "0.") = true := by decide
  have hplus : encodable (py "e+") = true := by decide
  have hminus : encodable (py "e-") = true := by decide
  have hnil : encodable [] = true := rfl
  dsimp only
  split_ifs <;>
    simp only [encodable_append, encodable_decimal, encodable_zeros, htake, hdrop, hpoint, hunit,
      hzero, hplus, hminus, hnil, Bool.and_self]

theorem encodable_floatRepr (x : JsNumber) : encodable (floatRepr x) = true := by
  cases x with
  | finite q =>
    rw [floatRepr]
    split_ifs
    · decide
    · rw [encodable_append, encodable_positiveRepr]
      decide
    · exact encodable_positiveRepr q
  | negZero => decide
  | infinity negative =>
    cases negative <;> decide
  | nan => decide

theorem hexDigit_lt (n : ℕ) : hexDigit (n % 16) < 0x80 := by
  unfold hexDigit
  split_ifs <;> omega

theorem encodable_unicodeEscape (c : ℕ) : encodable (unicodeEscape c) = true := by
  refine encodable_of_ascii fun digit hdigit => ?_
  simp only [unicodeEscape, List.mem_append, List.mem_cons, List.not_mem_nil, or_false] at hdigit
  rcases hdigit with hdigit | rfl | rfl | rfl | rfl
  · exact (by decide : ∀ digit ∈ py "\\u", digit < 0x80) digit hdigit
  · exact hexDigit_lt _
  · exact hexDigit_lt _
  · exact hexDigit_lt _
  · exact hexDigit_lt _

theorem encodable_escapeChar (c : ℕ) : encodable (escapeChar false c) = !isSurrogate c := by
  fun_cases escapeChar false c with
  | case1 | case2 | case3 | case4 | case5 | case6 | case7 => subst_vars; decide
  | case8 _ _ _ _ _ _ _ hcontrol =>
    rw [encodable_unicodeEscape, isSurrogate_of_lt (by omega), Bool.not_false]
  | case9 _ _ _ _ _ _ _ _ hascii | case10 _ _ _ _ _ _ _ _ hascii => cases hascii
  | case11 => simp [encodable]

theorem encodable_quoted (s : PyStr) : encodable (quoted false s) = encodable s := by
  have hbody : encodable (s.flatMap (escapeChar false)) = encodable s := by
    induction s with
    | nil => rfl
    | cons c s ih =>
      rw [List.flatMap_cons, encodable_append, encodable_escapeChar, ih, encodable_cons]
  rw [quoted, List.cons_append, encodable_cons, encodable_append, hbody]
  exact Bool.and_true _

section Texts

open PyValue

theorem encodable_intRepr {n : ℤ} {text : PyStr} (h : intRepr n = .ok text) :
    encodable text = true := by
  unfold intRepr at h
  dsimp only at h
  split_ifs at h
  · obtain rfl := Except.ok.inj h
    rw [encodable_cons, encodable_decimal]
    rfl
  · obtain rfl := Except.ok.inj h
    exact encodable_decimal _

mutual

/-- Without `ensure_ascii` the text can be encoded exactly when all texts in the value can. -/
theorem encodable_dumps : ∀ {depth : ℕ} {text : PyStr} (value : PyValue),
    dumps false depth value = .ok text → encodable text = value.textsEncodable
  | _, _, .none, h => by
    obtain rfl := Except.ok.inj h
    decide
  | _, _, .bool b, h => by
    obtain rfl := Except.ok.inj h
    cases b <;> decide
  | _, _, .float x, h => by
    obtain rfl := Except.ok.inj h
    exact encodable_floatRepr x
  | _, _, .str s, h => by
    obtain rfl := Except.ok.inj h
    exact encodable_quoted s
  | _, _, .int n, h => encodable_intRepr h
  | 0, _, .list _, h | 0, _, .dict _, h => by cases h
  | depth + 1, _, .list items, h => by
    obtain ⟨text, htext, rfl⟩ := map_eq_ok h
    rw [List.cons_append, encodable_cons, encodable_append, encodable_dumpsItems items htext]
    exact Bool.and_true _
  | depth + 1, _, .dict items, h => by
    obtain ⟨text, htext, rfl⟩ := map_eq_ok h
    rw [List.cons_append, encodable_cons, encodable_append, encodable_dumpsMembers items htext]
    exact Bool.and_true _

theorem encodable_dumpsItems : ∀ {depth : ℕ} {text : PyStr} (items : List PyValue),
    dumpsItems false depth items = .ok text →
      encodable text = allItems encodable (fun _ => true) items
  | _, _, [], h => by
    obtain rfl := Except.ok.inj h
    rfl
  | depth, _, [item], h => by
    rw [encodable_dumps item h]
    exact (Bool.and_true _).symm
  | depth, _, item :: item' :: items, h => by
    obtain ⟨first, hfirst, h⟩ := bind_eq_ok h
    obtain ⟨rest, hrest, h⟩ := bind_eq_ok h
    obtain rfl := Except.ok.inj h
    rw [encodable_append, encodable_cons, encodable_dumps item hfirst,
      encodable_dumpsItems (item' :: items) hrest]
    rfl

theorem encodable_dumpsMembers : ∀ {depth : ℕ} {text : PyStr} (items : List (PyStr × PyValue)),
    dumpsMembers false depth items = .ok text →
    encodable text = allMembers encodable (fun _ => true) items
  | _, _, [], h => by
    obtain rfl := Except.ok.inj h
    rfl
  | depth, _, [(key, value)], h => by
    obtain ⟨text, htext, rfl⟩ := map_eq_ok h
    rw [encodable_append, encodable_cons, encodable_quoted, encodable_dumps value htext]
    exact congrArg (encodable key && ·) (Bool.and_true _).symm
  | depth, _, (key, value) :: item :: items, h => by
    obtain ⟨first, hfirst, h⟩ := bind_eq_ok h
    obtain ⟨rest, hrest, h⟩ := bind_eq_ok h
    obtain rfl := Except.ok.inj h
    rw [encodable_append, encodable_append, encodable_cons, encodable_cons, encodable_quoted,
      encodable_dumps value hfirst, encodable_dumpsMembers (item :: items) hrest]
    exact Bool.and_assoc _ _ _

end

end Texts

end SelfRelay.Python
