import SelfRelay.Js.Number
import SelfRelay.Js.Utf8

/-!
# Python values

The values that `json.loads` builds, the operations on them that may raise, and `json.dumps`.  A
`str` is a list of code points, among them lone surrogates; a `float` is the same double as a
JavaScript number; a `dict` lists its items in their order, each key once.

The recursion limit of the interpreter is a parameter: the number of containers that the encoder may
have open at once.
-/

namespace SelfRelay.Python

/-- The exceptions that matter here. -/
inductive PyError where
  | typeError
  | valueError
  /-- A `ValueError` of its own. -/
  | unicodeEncodeError
  | recursionError
  deriving DecidableEq, Repr

theorem map_eq_ok {α β : Type} {x : Except PyError α} {f : α → β} {b : β}
    (h : x.map f = .ok b) : ∃ a, x = .ok a ∧ f a = b := by
  cases x with
  | error e => cases h
  | ok a => exact ⟨a, rfl, Except.ok.inj h⟩

theorem bind_eq_ok {α β : Type} {x : Except PyError α} {f : α → Except PyError β} {b : β}
    (h : x >>= f = .ok b) : ∃ a, x = .ok a ∧ f a = .ok b := by
  cases x with
  | error e => cases h
  | ok a => exact ⟨a, rfl, h⟩

theorem ok_bind {α β : Type} {a : α} {f : α → Except PyError β} : (.ok a >>= f) = f a := rfl

theorem bind_ok_iff {α β : Type} {x : Except PyError α} {f : α → Except PyError β}
    (hf : ∀ a, ∃ b, f a = .ok b) : (∃ b, (x >>= f) = .ok b) ↔ ∃ a, x = .ok a := by
  cases x with
  | error e => exact iff_of_false (by rintro ⟨_, ⟨⟩⟩) (by rintro ⟨_, ⟨⟩⟩)
  | ok a => exact iff_of_true (hf a) ⟨a, rfl⟩

abbrev PyStr := List ℕ

/-- The `str` of a literal. -/
def py (literal : String) : PyStr := literal.toList.map Char.toNat

inductive PyValue where
  | none
  | bool (value : Bool)
  | int (value : ℤ)
  | float (value : JsNumber)
  | str (value : PyStr)
  | list (items : List PyValue)
  | dict (items : List (PyStr × PyValue))
  deriving Repr

abbrev PyDict := List (PyStr × PyValue)

namespace PyDict

variable (d : PyDict)

/-- `d.get(key)` -/
def get (key : String) : PyValue :=
  (d.find? fun item => item.1 = py key).elim .none Prod.snd

/-- `key in d` -/
def contains (key : String) : Bool := d.any fun item => item.1 = py key

/-- `set(d).issubset(names)` -/
def keysIn (names : List String) : Bool := d.all fun item => names.any fun name => item.1 = py name

/-- `set(d) == names` -/
def keysEq (names : List String) : Bool := d.keysIn names && names.all d.contains

end PyDict

namespace PyValue

/-- `value == text` -/
def eqStr (text : PyStr) : PyValue → Bool
  | .str s => s = text
  | _ => false

/-- `value == n`.  A `bool` is an `int`, and a `float` may be equal to one. -/
def eqInt (n : ℤ) : PyValue → Bool
  | .bool b => (if b then 1 else 0) = n
  | .int m => m = n
  | .float x => x.value? = some (n : ℚ)
  | _ => false

/-- `hash(value)` does not raise. -/
def hashable : PyValue → Bool
  | .list _ | .dict _ => false
  | _ => true

/-- `value in names`, a `frozenset` of texts. -/
def inSet (names : List String) (value : PyValue) : Except PyError Bool :=
  if value.hashable then .ok (names.any fun name => value.eqStr (py name)) else .error .typeError

theorem eqStr_eq_true {value : PyValue} {text : PyStr} (h : value.eqStr text = true) :
    value = .str text := by
  cases value with
  | str s => rw [of_decide_eq_true h]
  | none | bool | int | float | list | dict => cases h

theorem inSet_of_hashable (names : List String) {value : PyValue} (h : value.hashable = true) :
    value.inSet names = .ok (names.any fun name => value.eqStr (py name)) :=
  if_pos h

theorem inSet_of_not_hashable (names : List String) {value : PyValue}
    (h : ¬ value.hashable = true) :
    value.inSet names = .error .typeError :=
  if_neg h

end PyValue

/-! ## `str.encode("utf-8")` -/

def isSurrogate (c : ℕ) : Bool := 0xd800 ≤ c && c ≤ 0xdfff

/-- The text can be encoded. -/
def encodable (s : PyStr) : Bool := !s.any isSurrogate

/-- `len(s.encode("utf-8"))` -/
def utf8Length (s : PyStr) : Except PyError ℕ :=
  if encodable s then .ok (s.flatMap utf8Sequence).length else .error .unicodeEncodeError

/-! ## `json.dumps` -/

/-- The digits of a number, as a `str`. -/
def decimal (n : ℕ) : PyStr := (Nat.toDigits 10 n).map Char.toNat

/-- The default limit on the digits of an `int` that is converted to or from text. -/
def intMaxStrDigits : ℕ := 4300

/-- `int.__repr__` -/
def intRepr (n : ℤ) : Except PyError PyStr :=
  let digits := decimal n.natAbs
  if intMaxStrDigits < digits.length then .error .valueError
  else .ok (if n < 0 then 0x2d :: digits else digits)

/-- `float.__repr__` of a positive number: the shortest digits that round back to it, with an
exponent when the point is far from them. -/
def positiveRepr (q : ℚ) : PyStr :=
  let (k, s, n) := JsNumber.shortest q
  let digits := decimal s
  let zeros (count : ℤ) : PyStr := List.replicate count.toNat 0x30
  let exponent := decimal (n - 1).natAbs
  if k ≤ n ∧ n ≤ 16 then digits ++ zeros (n - k) ++ py ".0"
  else if 0 < n ∧ n ≤ 16 then digits.take n.toNat ++ py "." ++ digits.drop n.toNat
  else if -4 < n ∧ n ≤ 0 then py "0." ++ zeros (-n) ++ digits
  else
    digits.take 1 ++ (if k = 1 then [] else py "." ++ digits.drop 1) ++
      py (if 0 ≤ n - 1 then "e+" else "e-") ++ zeros (2 - exponent.length) ++ exponent

/-- A `float` in JSON. -/
def floatRepr : JsNumber → PyStr
  | .finite q =>
    if q = 0 then py "0.0" else if q < 0 then py "-" ++ positiveRepr (-q) else positiveRepr q
  | .negZero => py "-0.0"
  | .infinity negative => py (if negative then "-Infinity" else "Infinity")
  | .nan => py "NaN"

/-- A hexadecimal digit. -/
def hexDigit (n : ℕ) : ℕ := if n < 10 then 0x30 + n else 0x57 + n

/-- `\uXXXX` -/
def unicodeEscape (c : ℕ) : PyStr :=
  py "\\u" ++ [hexDigit (c / 4096 % 16), hexDigit (c / 256 % 16), hexDigit (c / 16 % 16),
    hexDigit (c % 16)]

/-- A character of a string literal. -/
def escapeChar (ensureAscii : Bool) (c : ℕ) : PyStr :=
  if c = 0x22 then py "\\\""
  else if c = 0x5c then py "\\\\"
  else if c = 0x0a then py "\\n"
  else if c = 0x0d then py "\\r"
  else if c = 0x09 then py "\\t"
  else if c = 0x0c then py "\\f"
  else if c = 0x08 then py "\\b"
  else if c < 0x20 then unicodeEscape c
  else if ensureAscii && 0x7e < c then
    if c < 0x10000 then unicodeEscape c
    else unicodeEscape (0xd800 + (c - 0x10000) / 0x400) ++
      unicodeEscape (0xdc00 + (c - 0x10000) % 0x400)
  else [c]

def quoted (ensureAscii : Bool) (s : PyStr) : PyStr :=
  0x22 :: s.flatMap (escapeChar ensureAscii) ++ [0x22]

mutual

/-- `json.dumps(value, separators=(",", ":"), ensure_ascii=ensureAscii)`, with `depth` containers
that may still be opened. -/
def dumps (ensureAscii : Bool) (depth : ℕ) : PyValue → Except PyError PyStr
  | .none => .ok (py "null")
  | .bool b => .ok (py (if b then "true" else "false"))
  | .int n => intRepr n
  | .float x => .ok (floatRepr x)
  | .str s => .ok (quoted ensureAscii s)
  | .list items =>
    match depth with
    | 0 => .error .recursionError
    | depth + 1 => (dumpsItems ensureAscii depth items).map fun text => 0x5b :: text ++ [0x5d]
  | .dict items =>
    match depth with
    | 0 => .error .recursionError
    | depth + 1 => (dumpsMembers ensureAscii depth items).map fun text => 0x7b :: text ++ [0x7d]

/-- The items of a list, with their commas. -/
def dumpsItems (ensureAscii : Bool) (depth : ℕ) : List PyValue → Except PyError PyStr
  | [] => .ok []
  | [item] => dumps ensureAscii depth item
  | item :: item' :: items => do
    let text ← dumps ensureAscii depth item
    let rest ← dumpsItems ensureAscii depth (item' :: items)
    return text ++ 0x2c :: rest

/-- The items of a dictionary, with their commas. -/
def dumpsMembers (ensureAscii : Bool) (depth : ℕ) : List (PyStr × PyValue) → Except PyError PyStr
  | [] => .ok []
  | [(key, value)] => (dumps ensureAscii depth value).map fun text =>
      quoted ensureAscii key ++ 0x3a :: text
  | (key, value) :: item :: items => do
    let text ← dumps ensureAscii depth value
    let rest ← dumpsMembers ensureAscii depth (item :: items)
    return quoted ensureAscii key ++ 0x3a :: text ++ 0x2c :: rest

end

end SelfRelay.Python
