import SelfRelay.Backend.DeviceCrypto
import SelfRelay.Protocol.CanonicalText
import SelfRelay.Protocol.DeviceIdentity

/-!
# The message that a device signs

A challenge is a value of two languages: the backend holds it as a dictionary, the browser as an
object. `SharedJson` is such a value, and both canonical texts of it are one sequence of code points
(`writtenAs`), so the backend verifies the bytes that the browser signs (`signed_bytes_agree`).
-/

namespace SelfRelay.Backend

open Python

/-! ## Values of both languages -/

/-- An integer that both languages hold exactly. -/
abbrev SafeInt := { n : ℤ // n.natAbs ≤ JsNumber.maxSafeInteger }

/-- The name of a member. -/
abbrev AsciiName := { name : String // ∀ c ∈ name.toList, c.toNat < 0x80 }

inductive SharedJson where
  | null
  | bool (value : Bool)
  | int (value : SafeInt)
  | string (value : String)
  | array (items : List SharedJson)
  | object (members : List (AsciiName × SharedJson))

/-- The code units of a string. -/
def units (text : PyStr) : JsString := text.flatMap codeUnits

namespace SharedJson

mutual

/-- The value in the backend. -/
def toPy : SharedJson → PyValue
  | null => .none
  | bool value => .bool value
  | int value => .int value.1
  | string value => .str (py value)
  | array items => .list (toPyItems items)
  | object members => .dict (toPyMembers members)

def toPyItems : List SharedJson → List PyValue
  | [] => []
  | item :: items => toPy item :: toPyItems items

def toPyMembers : List (AsciiName × SharedJson) → PyDict
  | [] => []
  | (name, value) :: members => (py name.1, toPy value) :: toPyMembers members

end

mutual

/-- The value in the browser. -/
def toJs : SharedJson → Json
  | null => .null
  | bool value => .bool value
  | int value => .number (.finite value.1)
  | string value => .string (units (py value))
  | array items => .array (toJsItems items)
  | object members => .object (toJsMembers members)

def toJsItems : List SharedJson → List Json
  | [] => []
  | item :: items => toJs item :: toJsItems items

def toJsMembers : List (AsciiName × SharedJson) → List (JsString × Json)
  | [] => []
  | (name, value) :: members => (units (py name.1), toJs value) :: toJsMembers members

end

mutual

/-- No object in the value has two members of one name. -/
def DistinctNames : SharedJson → Prop
  | array items => DistinctNamesItems items
  | object members => (members.map Prod.fst).Nodup ∧ DistinctNamesMembers members
  | null | bool _ | int _ | string _ => True

def DistinctNamesItems : List SharedJson → Prop
  | [] => True
  | item :: items => DistinctNames item ∧ DistinctNamesItems items

def DistinctNamesMembers : List (AsciiName × SharedJson) → Prop
  | [] => True
  | (_, value) :: members => DistinctNames value ∧ DistinctNamesMembers members

end

mutual

/-- The number of arrays and objects that are open at once. -/
def nesting : SharedJson → ℕ
  | array items => nestingItems items + 1
  | object members => nestingMembers members + 1
  | null | bool _ | int _ | string _ => 0

def nestingItems : List SharedJson → ℕ
  | [] => 0
  | item :: items => max (nesting item) (nestingItems items)

def nestingMembers : List (AsciiName × SharedJson) → ℕ
  | [] => 0
  | (_, value) :: members => max (nesting value) (nestingMembers members)

end

end SharedJson

/-! ## Texts of both languages -/

theorem isScalar_char (c : Char) : isScalar c.toNat = true := by
  have hvalid : c.toNat < 0xd800 ∨ 0xdfff < c.toNat ∧ c.toNat < 0x110000 := c.valid
  rw [isScalar_iff]
  omega

theorem isScalar_py (text : String) : ∀ c ∈ py text, isScalar c = true := by
  intro c hc
  obtain ⟨char, -, rfl⟩ := List.mem_map.1 hc
  exact isScalar_char char

theorem isScalar_of_ascii {text : PyStr} (h : ∀ c ∈ text, c < 0x80) :
    ∀ c ∈ text, isScalar c = true :=
  fun c hc => isScalar_iff.2 (.inl ((h c hc).trans (by decide)))

theorem units_append (text rest : PyStr) : units (text ++ rest) = units text ++ units rest :=
  List.flatMap_append

theorem units_cons (c : ℕ) (text : PyStr) : units (c :: text) = codeUnits c ++ units text :=
  List.flatMap_cons

theorem units_ascii {text : PyStr} (h : ∀ c ∈ text, c < 0x80) :
    units text = text.map UInt16.ofNat := by
  induction text with
  | nil => rfl
  | cons c text ih =>
    obtain ⟨hc, htext⟩ := List.forall_mem_cons.1 h
    rw [units_cons, ih htext, codeUnits, if_pos (by omega)]
    rfl

theorem isUnpaired_codeUnit {c : ℕ} (h : isScalar c = true) (hlt : c < 0x10000) :
    isUnpaired (UInt16.ofNat c) := by
  have hnat : (UInt16.ofNat c).toNat = c := UInt16.toNat_ofNat_of_lt' hlt
  rw [isScalar_iff] at h
  simp only [isUnpaired, isHighSurrogate, isLowSurrogate, hnat, Bool.and_eq_false_iff,
    decide_eq_false_iff_not]
  omega

theorem toNat_surrogates {c : ℕ} (h : isScalar c = true) (hle : ¬ c < 0x10000) :
    (UInt16.ofNat (0xd800 + (c - 0x10000) / 1024)).toNat = 0xd800 + (c - 0x10000) / 1024 ∧
      (UInt16.ofNat (0xdc00 + (c - 0x10000) % 1024)).toNat = 0xdc00 + (c - 0x10000) % 1024 := by
  rw [isScalar_iff] at h
  have hsize : UInt16.size = 65536 := rfl
  exact ⟨UInt16.toNat_ofNat_of_lt' (by omega), UInt16.toNat_ofNat_of_lt' (by omega)⟩

theorem isWellFormed_units {text : PyStr} (h : ∀ c ∈ text, isScalar c = true) :
    isWellFormed (units text) = true := by
  induction text with
  | nil => rfl
  | cons c text ih =>
    obtain ⟨hc, htext⟩ := List.forall_mem_cons.1 h
    have hunits : isWellFormed (codeUnits c) = true := by
      rw [codeUnits]
      split_ifs with hlt
      · rw [isWellFormed_cons (isUnpaired_codeUnit hc hlt)]
        rfl
      · obtain ⟨hhigh, hlow⟩ := toNat_surrogates hc hlt
        rw [isScalar_iff] at hc
        have hpair : isHighSurrogate (UInt16.ofNat (0xd800 + (c - 0x10000) / 1024)) = true ∧
            isLowSurrogate (UInt16.ofNat (0xdc00 + (c - 0x10000) % 1024)) = true := by
          simp only [isHighSurrogate, isLowSurrogate, hhigh, hlow, Bool.and_eq_true,
            decide_eq_true_eq]
          omega
        rw [isWellFormed, if_pos hpair.1, hpair.2]
        rfl
    rw [units_cons, isWellFormed_append hunits, ih htext]

/-- Both languages escape the same characters in the same way. -/
theorem units_escapeChar {c : ℕ} (h : isScalar c = true) :
    units (escapeChar false c) = (codeUnits c).flatMap escapeUnit := by
  have hascii : ∀ c < 0x80, units (escapeChar false c) = (codeUnits c).flatMap escapeUnit := by
    decide +kernel
  by_cases hc : c < 0x80
  · exact hascii c hc
  · have hescape : escapeChar false c = [c] := by
      rw [escapeChar, if_neg (by omega), if_neg (by omega), if_neg (by omega), if_neg (by omega),
        if_neg (by omega), if_neg (by omega), if_neg (by omega), if_neg (by omega)]
      rfl
    have hunits : ∀ u ∈ codeUnits c, escapeUnit u = [u] := by
      intro u hu
      refine escapeUnit_of_le ?_
      rw [codeUnits] at hu
      split_ifs at hu with hlt
      · rw [List.mem_singleton.1 hu, UInt16.toNat_ofNat_of_lt' hlt]
        omega
      · obtain ⟨hhigh, hlow⟩ := toNat_surrogates h hlt
        simp only [List.mem_cons, List.not_mem_nil, or_false] at hu
        rcases hu with rfl | rfl
        · rw [hhigh]
          omega
        · rw [hlow]
          omega
    rw [hescape, units_cons, List.flatMap_congr hunits, List.flatMap_singleton']
    exact List.append_nil _

theorem units_quoted {text : PyStr} (h : ∀ c ∈ text, isScalar c = true) :
    units (quoted false text) = jsonQuote (units text) := by
  have hbody : units (text.flatMap (escapeChar false)) = (units text).flatMap escapeUnit := by
    induction text with
    | nil => rfl
    | cons c text ih =>
      obtain ⟨hc, htext⟩ := List.forall_mem_cons.1 h
      rw [List.flatMap_cons, units_append, units_cons, List.flatMap_append,
        units_escapeChar hc, ih htext]
  rw [quoted, jsonQuote, List.cons_append, units_cons, units_append, hbody]
  rfl

theorem isScalar_quoted {text : PyStr} (h : ∀ c ∈ text, isScalar c = true) :
    ∀ c ∈ quoted false text, isScalar c = true := by
  have hascii : ∀ c < 0x80, ∀ d ∈ escapeChar false c, isScalar d = true := by decide +kernel
  have hchar : ∀ c, isScalar c = true → ∀ d ∈ escapeChar false c, isScalar d = true := by
    intro c hc d hd
    by_cases hlt : c < 0x80
    · exact hascii c hlt d hd
    · rw [escapeChar, if_neg (by omega), if_neg (by omega), if_neg (by omega), if_neg (by omega),
        if_neg (by omega), if_neg (by omega), if_neg (by omega), if_neg (by omega)] at hd
      rwa [List.mem_singleton.1 hd]
  refine List.forall_mem_append.2 ⟨List.forall_mem_cons.2 ⟨by decide, fun d hd => ?_⟩, by decide⟩
  obtain ⟨c, hc, hd⟩ := List.mem_flatMap.1 hd
  exact hchar c (h c hc) d hd

/-! ## Integers -/

theorem ascii_decimal (n : ℕ) : ∀ c ∈ decimal n, c < 0x80 := by
  intro c hc
  obtain ⟨digit, hdigit, rfl⟩ := List.mem_map.1 hc
  have := JsNumber.digit_of_mem_toDigits hdigit
  omega

theorem units_decimal (n : ℕ) : units (decimal n) = JsNumber.decimal n := by
  rw [units_ascii (ascii_decimal n), decimal, JsNumber.decimal, List.map_map]
  rfl

/-- An integer in the safe range has few digits. -/
theorem length_decimal_le {n : ℕ} (h : n ≤ JsNumber.maxSafeInteger) :
    (decimal n).length ≤ intMaxStrDigits := by
  rw [decimal, List.length_map, Nat.length_toDigits_le_iff (by decide) (by decide)]
  calc n ≤ JsNumber.maxSafeInteger := h
    _ < 10 ^ 16 := by decide
    _ ≤ 10 ^ intMaxStrDigits := Nat.pow_le_pow_right (by decide) (by decide)

theorem intRepr_safe (n : SafeInt) : ∃ text, intRepr n.1 = .ok text ∧ (∀ c ∈ text, c < 0x80) ∧
    units text = (JsNumber.finite n.1).toString := by
  have hdecimal := ascii_decimal n.1.natAbs
  rw [JsNumber.toString_int n.2, intRepr, if_neg (length_decimal_le n.2).not_gt]
  by_cases hneg : n.1 < 0
  · refine ⟨0x2d ::
      decimal n.1.natAbs, by rw [if_pos hneg], List.forall_mem_cons.2 ⟨by decide, hdecimal⟩, ?_⟩
    rw [units_cons, units_decimal, JsonGrammar.sign, if_pos (decide_eq_true hneg)]
    rfl
  · refine ⟨decimal n.1.natAbs, by rw [if_neg hneg], hdecimal, ?_⟩
    rw [units_decimal, JsonGrammar.sign, if_neg (by simpa using hneg)]
    rfl

/-! ## Both texts -/

open SharedJson

/-- One sequence of code points is the canonical text of the value in both languages. -/
structure WrittenAs (value : SharedJson) (text : PyStr) : Prop where
  scalar : ∀ c ∈ text, isScalar c = true
  js : canonicalJson value.toJs = .ok (units text)
  py : ∀ depth, value.nesting ≤ depth → dumpsSorted depth value.toPy = .ok text

/-- The items of an array, without its brackets. -/
structure ItemsWrittenAs (items : List SharedJson) (text : PyStr) : Prop where
  scalar : ∀ c ∈ text, isScalar c = true
  js : ∃ parts, canonicalItems (toJsItems items) = .ok parts ∧ parts.length = items.length ∧
    joinComma parts = units text
  py : ∀ depth, nestingItems items ≤ depth →
    dumpsItems false depth (sortKeysItems (toPyItems items)) = .ok text

/-- What the serialiser does with one member. -/
def canonicalMember (member : JsString × Json) : Checked JsString := do
  assertWellFormedUnicode member.1
  let encoded ← canonicalJson member.2
  return jsonQuote member.1 ++ 0x3a :: encoded

def memberJs (member : AsciiName × SharedJson) : JsString × Json :=
  (units (Python.py member.1.1), member.2.toJs)

def memberPy (member : AsciiName × SharedJson) : PyStr × PyValue :=
  (Python.py member.1.1, sortKeys member.2.toPy)

/-- The members of an object in the order in which they are written, without its braces. -/
structure MembersWrittenAs (members : List (AsciiName × SharedJson)) (text : PyStr) : Prop where
  scalar : ∀ c ∈ text, isScalar c = true
  js : ∃ parts, (members.map memberJs).mapM canonicalMember = .ok parts ∧
    parts.length = members.length ∧ joinComma parts = units text
  py : ∀ depth, (∀ m ∈ members, m.2.nesting ≤ depth) →
    dumpsMembers false depth (members.map memberPy) = .ok text

theorem joinComma_cons {part : JsString} {parts : List JsString} (h : parts ≠ []) :
    joinComma (part :: parts) = part ++ 0x2c :: joinComma parts := by
  cases parts with
  | nil => exact absurd rfl h
  | cons => rfl

theorem canonicalMember_of_writtenAs {name : AsciiName} {value : SharedJson} {text : PyStr}
    (h : WrittenAs value text) : canonicalMember (memberJs (name, value)) =
      .ok (units (quoted false (Python.py name.1) ++ 0x3a :: text)) := by
  have hname := isScalar_py name.1
  rw [canonicalMember, memberJs, assertWellFormedUnicode_ok (isWellFormed_units hname),
    ok_bind, h.js,
    ok_bind, ← units_quoted hname, units_append, units_cons]
  rfl

theorem membersWrittenAs : ∀ {members : List (AsciiName × SharedJson)},
    (∀ m ∈ members, ∃ text, WrittenAs m.2 text) → ∃ text, MembersWrittenAs members text
  | [], _ => ⟨[], fun _ h => absurd h List.not_mem_nil, ⟨[], rfl, rfl, rfl⟩, fun _ _ => rfl⟩
  | [(name, value)], h => by
    obtain ⟨text, hvalue⟩ := h _ List.mem_cons_self
    refine ⟨quoted false (Python.py name.1) ++ 0x3a :: text, ⟨?_, ?_, ?_⟩⟩
    · exact List.forall_mem_append.2 ⟨isScalar_quoted (isScalar_py name.1),
        List.forall_mem_cons.2 ⟨by decide, hvalue.scalar⟩⟩
    · refine ⟨[_], ?_, rfl, rfl⟩
      rw [List.map_cons, List.map_nil, List.mapM_cons, canonicalMember_of_writtenAs hvalue]
      rfl
    · intro depth hdepth
      have hpy := hvalue.py depth (hdepth _ List.mem_cons_self)
      rw [dumpsSorted] at hpy
      rw [List.map_cons, List.map_nil, memberPy, dumpsMembers, hpy]
      rfl
  | (name, value) :: member :: members, h => by
    obtain ⟨text, hvalue⟩ := h _ List.mem_cons_self
    obtain ⟨rest, hrest⟩ := membersWrittenAs fun m hm => h m (List.mem_cons_of_mem _ hm)
    refine ⟨quoted false (Python.py name.1) ++ 0x3a :: text ++ 0x2c :: rest, ⟨?_, ?_, ?_⟩⟩
    · exact List.forall_mem_append.2
        ⟨List.forall_mem_append.2 ⟨isScalar_quoted (isScalar_py name.1),
        List.forall_mem_cons.2 ⟨by decide, hvalue.scalar⟩⟩,
        List.forall_mem_cons.2 ⟨by decide, hrest.scalar⟩⟩
    · obtain ⟨parts, hparts, hlength, hjoin⟩ := hrest.js
      have hne : parts ≠ [] := by
        rintro rfl
        cases hlength
      refine ⟨units (quoted false (Python.py name.1) ++ 0x3a :: text) :: parts, ?_,
        congrArg (· + 1) hlength, ?_⟩
      · rw [List.map_cons, List.mapM_cons, canonicalMember_of_writtenAs hvalue, hparts]
        rfl
      · rw [joinComma_cons hne, hjoin, units_append _ (0x2c :: rest), units_cons 0x2c]
        rfl
    · intro depth hdepth
      have hpy := hvalue.py depth (hdepth _ List.mem_cons_self)
      have hrestPy := hrest.py depth fun m hm => hdepth m (List.mem_cons_of_mem _ hm)
      rw [dumpsSorted] at hpy
      rw [List.map_cons] at hrestPy
      rw [List.map_cons, List.map_cons, memberPy, dumpsMembers, hpy, hrestPy]
      rfl

/-! ## The order of members -/

theorem toNat_units_name (name : AsciiName) :
    (units (Python.py name.1)).map UInt16.toNat = Python.py name.1 := by
  have hascii : ∀ c ∈ Python.py name.1, c < 0x80 := by
    intro c hc
    obtain ⟨char, hchar, rfl⟩ := List.mem_map.1 hc
    exact name.2 char hchar
  rw [units_ascii hascii, List.map_map]
  refine (List.map_congr_left fun c hc => ?_).trans (List.map_id' _)
  exact UInt16.toNat_ofNat_of_lt' ((hascii c hc).trans (by decide))

/-- The order of names. -/
def nameLe (a b : AsciiName × SharedJson) : Bool :=
  KeyOrder.lexLe (Python.py a.1.1) (Python.py b.1.1)

theorem sortKeysMembers_eq (members : List (AsciiName × SharedJson)) :
    (sortKeysMembers (toPyMembers members)).insertionSort (fun a b => KeyOrder.lexLe a.1 b.1) =
      (members.insertionSort fun a b => nameLe a b).map memberPy := by
  have hmap : sortKeysMembers (toPyMembers members) = members.map memberPy := by
    induction members with
    | nil => rfl
    | cons member members ih => exact congrArg (_ :: ·) ih
  rw [hmap, ← List.map_insertionSort (fun a b => nameLe a b) _ _ _ fun _ _ _ _ => Iff.rfl]

theorem canonicalEntries_eq_shared (members : List (AsciiName × SharedJson)) :
    canonicalEntries (canonicalMembers (toJsMembers members)) =
      ((members.insertionSort fun a b => nameLe a b).map memberJs).mapM canonicalMember := by
  have hmap : toJsMembers members = members.map memberJs := by
    induction members with
    | nil => rfl
    | cons member members ih => exact congrArg (_ :: ·) ih
  have hle (a b : AsciiName × SharedJson) :
      utf16Le (memberJs a).1 (memberJs b).1 = nameLe a b := by
    rw [utf16Le_eq, memberJs, memberJs, toNat_units_name, toNat_units_name, nameLe]
  rw [canonicalEntries_eq, hmap,
    ← List.map_insertionSort (fun a b => nameLe a b) _ _ _ fun a _ b _ => by rw [hle]]
  rfl

theorem nesting_of_mem {members : List (AsciiName × SharedJson)} {m : AsciiName × SharedJson}
    (h : m ∈ members) : m.2.nesting ≤ nestingMembers members := by
  induction members with
  | nil => cases h
  | cons member members ih =>
    rcases List.mem_cons.1 h with rfl | h
    · exact le_max_left _ _
    · exact (ih h).trans (le_max_right _ _)

theorem isScalar_brackets {start stop : ℕ} {text : PyStr} (hstart : isScalar start = true)
    (hstop : isScalar stop = true) (h : ∀ c ∈ text, isScalar c = true) :
    ∀ c ∈ start :: text ++ [stop], isScalar c = true :=
  List.forall_mem_append.2 ⟨List.forall_mem_cons.2 ⟨hstart, h⟩, List.forall_mem_singleton.2 hstop⟩

theorem units_brackets {start stop : ℕ} {text : PyStr} (hstart : start < 0x80)
    (hstop : stop < 0x80) :
    units (start :: text ++ [stop]) = UInt16.ofNat start :: units text ++ [UInt16.ofNat stop] := by
  rw [units_append, units_cons, codeUnits, if_pos (by omega), units_cons, codeUnits,
    if_pos (by omega)]
  rfl

mutual

theorem writtenAs : ∀ value : SharedJson, ∃ text, WrittenAs value text
  | .null => ⟨Python.py "null", isScalar_py _, by decide, fun _ _ => rfl⟩
  | .bool true => ⟨Python.py "true", isScalar_py _, by decide, fun _ _ => rfl⟩
  | .bool false => ⟨Python.py "false", isScalar_py _, by decide, fun _ _ => rfl⟩
  | .int value => by
    obtain ⟨text, htext, hascii, hunits⟩ := intRepr_safe value
    refine ⟨text, isScalar_of_ascii hascii, ?_, fun _ _ => htext⟩
    rw [hunits]
    rfl
  | .string value => by
    have hscalar := isScalar_py value
    refine ⟨quoted false (Python.py value), isScalar_quoted hscalar, ?_, fun _ _ => rfl⟩
    rw [toJs, canonicalJson, assertWellFormedUnicode_ok (isWellFormed_units hscalar), ok_bind,
      units_quoted hscalar]
    rfl
  | .array items => by
    obtain ⟨text, h⟩ := itemsWrittenAs items
    refine ⟨0x5b :: text ++ [0x5d], isScalar_brackets (by decide) (by decide) h.scalar, ?_, ?_⟩
    · obtain ⟨parts, hparts, -, hjoin⟩ := h.js
      rw [toJs, canonicalJson, hparts, ok_bind, hjoin, units_brackets (by decide) (by decide)]
      rfl
    · rintro (_ | depth) hdepth
      · exact absurd hdepth (Nat.not_succ_le_zero _)
      · rw [dumpsSorted, toPy, sortKeys, dumps, h.py depth (Nat.le_of_succ_le_succ hdepth)]
        rfl
  | .object members => by
    have hperm := List.perm_insertionSort (fun a b => nameLe a b) members
    obtain ⟨text, h⟩ := membersWrittenAs fun m hm =>
      memberWrittenAs members m (hperm.mem_iff.1 hm)
    refine ⟨0x7b :: text ++ [0x7d], isScalar_brackets (by decide) (by decide) h.scalar, ?_, ?_⟩
    · obtain ⟨parts, hparts, -, hjoin⟩ := h.js
      rw [toJs, canonicalJson, canonicalEntries_eq_shared, hparts, ok_bind, hjoin,
        units_brackets (by decide) (by decide)]
      rfl
    · rintro (_ | depth) hdepth
      · exact absurd hdepth (Nat.not_succ_le_zero _)
      · have hpy := h.py depth fun m hm =>
          (nesting_of_mem (hperm.mem_iff.1 hm)).trans (Nat.le_of_succ_le_succ hdepth)
        rw [dumpsSorted, toPy, sortKeys, sortKeysMembers_eq, dumps, hpy]
        rfl

theorem itemsWrittenAs : ∀ items : List SharedJson, ∃ text, ItemsWrittenAs items text
  | [] => ⟨[], fun _ h => absurd h List.not_mem_nil, ⟨[], rfl, rfl, rfl⟩, fun _ _ => rfl⟩
  | [item] => by
    obtain ⟨text, h⟩ := writtenAs item
    refine ⟨text, h.scalar, ⟨[_], ?_, rfl, rfl⟩, fun depth hdepth => ?_⟩
    · rw [toJsItems, toJsItems, canonicalItems, h.js]
      rfl
    · exact h.py depth ((le_max_left _ _).trans hdepth)
  | item :: item' :: items => by
    obtain ⟨text, h⟩ := writtenAs item
    obtain ⟨rest, hrest⟩ := itemsWrittenAs (item' :: items)
    refine ⟨text ++ 0x2c :: rest, ?_, ?_, fun depth hdepth => ?_⟩
    · exact List.forall_mem_append.2 ⟨h.scalar, List.forall_mem_cons.2 ⟨by decide, hrest.scalar⟩⟩
    · obtain ⟨parts, hparts, hlength, hjoin⟩ := hrest.js
      have hne : parts ≠ [] := by
        rintro rfl
        cases hlength
      refine ⟨units text :: parts, ?_, congrArg (· + 1) hlength, ?_⟩
      · rw [toJsItems, canonicalItems, h.js, hparts]
        rfl
      · rw [joinComma_cons hne, hjoin, units_append, units_cons 0x2c]
        rfl
    · have hpy := h.py depth ((le_max_left _ _).trans hdepth)
      have hrestPy := hrest.py depth ((le_max_right _ _).trans hdepth)
      rw [dumpsSorted] at hpy
      rw [toPyItems, sortKeysItems] at hrestPy
      rw [toPyItems, toPyItems, sortKeysItems, sortKeysItems, dumpsItems, hpy, hrestPy]
      rfl

theorem memberWrittenAs : ∀ (members : List (AsciiName × SharedJson)), ∀ m ∈ members,
    ∃ text, WrittenAs m.2 text
  | [], _, h => absurd h List.not_mem_nil
  | (_, value) :: members, m, h => by
    rcases List.mem_cons.1 h with rfl | h
    · exact writtenAs value
    · exact memberWrittenAs members m h

end

end SelfRelay.Backend
