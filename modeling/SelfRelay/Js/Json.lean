import Mathlib.Data.List.Sort
import SelfRelay.Js.Number

/-!
# JSON values

The values JSON text denotes, `JSON.stringify` on strings, and `JSON.parse`.  An object is the list
of its own properties in the order in which they were created; `objectKeys` is the order in which
JavaScript enumerates them, array indices first.

`jsonParse` is a recursive descent over the remaining text.  Its recursion is bounded by the length
of the text, which every nested call shortens.
-/

namespace SelfRelay

/-- A value that JSON text can denote. -/
inductive Json where
  | null
  | bool (value : Bool)
  | number (value : JsNumber)
  | string (value : JsString)
  | array (items : List Json)
  | object (members : List (JsString × Json))
  deriving Repr

namespace Json

/-- The own property with the given key. -/
def get? : Json → JsString → Option Json
  | .object members, key => (members.find? fun m => m.1 = key).map Prod.snd
  | _, _ => none

end Json

/-! ## Properties -/

/-- The properties of a record. -/
abbrev Members := List (JsString × Json)

/-- `object[key]` -/
def field (object : Members) (key : String) : Option Json := (Json.object object).get? (js key)

/-- `value === text` -/
def isText (value : Option Json) (text : JsString) : Bool :=
  match value with
  | some (.string s) => s = text
  | _ => false

/-- `value === literal` for a string literal. -/
def isString (value : Option Json) (literal : String) : Bool := isText value (js literal)

/-- `value === 1` -/
def isOne (value : Option Json) : Bool :=
  match value with
  | some (.number n) => n.strictEq (.ofNat 1)
  | _ => false

def numberField (n : ℕ) : Json := .number (.ofNat n)

/-- The array index that a property key spells, if it does. -/
def arrayIndex? (key : JsString) : Option ℕ :=
  let n := key.foldl (fun n c => n * 10 + (c.toNat - 0x30)) 0
  if key = JsNumber.decimal n ∧ n < 2 ^ 32 - 1 then some n else none

/-- `Object.keys`: the array indices in ascending order, then the other keys in creation order. -/
def objectKeys (members : List (JsString × Json)) : List JsString :=
  let keys := members.map Prod.fst
  let indices := keys.filterMap arrayIndex?
  (indices.insertionSort (· ≤ ·)).map JsNumber.decimal ++
    keys.filter fun key => (arrayIndex? key).isNone

/-! ## `JSON.stringify` of a string -/

def quote : UInt16 := 0x22

def backslash : UInt16 := 0x5c

/-- A lowercase hexadecimal digit. -/
def hexUnit (n : ℕ) : UInt16 := UInt16.ofNat (if n < 10 then 0x30 + n else 0x57 + n)

/-- `\uXXXX` -/
def unicodeEscape (u : UInt16) : JsString :=
  [backslash, 0x75, hexUnit (u.toNat / 4096), hexUnit (u.toNat / 256 % 16),
    hexUnit (u.toNat / 16 % 16), hexUnit (u.toNat % 16)]

/-- The letter of a two-character escape. -/
def shortEscape (u : UInt16) : Option UInt16 :=
  if u = quote then some quote
  else if u = backslash then some backslash
  else if u = 0x08 then some 0x62
  else if u = 0x0c then some 0x66
  else if u = 0x0a then some 0x6e
  else if u = 0x0d then some 0x72
  else if u = 0x09 then some 0x74
  else none

/-- One code unit between the quotes. -/
def escapeUnit (u : UInt16) : JsString :=
  match shortEscape u with
  | some letter => [backslash, letter]
  | none => if u.toNat < 0x20 then unicodeEscape u else [u]

/-- `JSON.stringify(value)` of a well-formed string. -/
def jsonQuote (value : JsString) : JsString := quote :: value.flatMap escapeUnit ++ [quote]

/-! ## `JSON.parse` -/

def isJsonSpace (u : UInt16) : Bool := u = 0x09 || u = 0x0a || u = 0x0d || u = 0x20

/-- The text after leading whitespace. -/
def skipSpace (text : JsString) : JsString := text.dropWhile isJsonSpace

def isDigit (u : UInt16) : Bool := 0x30 ≤ u.toNat && u.toNat ≤ 0x39

/-- The value of a hexadecimal digit of either case. -/
def hexUnitValue (u : UInt16) : Option ℕ :=
  if isDigit u then some (u.toNat - 0x30)
  else if 0x61 ≤ u.toNat ∧ u.toNat ≤ 0x66 then some (u.toNat - 0x57)
  else if 0x41 ≤ u.toNat ∧ u.toNat ≤ 0x46 then some (u.toNat - 0x37)
  else none

/-- The code unit that a two-character escape stands for. -/
def unescape (letter : UInt16) : Option UInt16 :=
  if letter = quote then some quote
  else if letter = backslash then some backslash
  else if letter = 0x2f then some 0x2f
  else if letter = 0x62 then some 0x08
  else if letter = 0x66 then some 0x0c
  else if letter = 0x6e then some 0x0a
  else if letter = 0x72 then some 0x0d
  else if letter = 0x74 then some 0x09
  else none

/-- The contents of a string literal and the text after its closing quote. -/
def parseString : JsString → Option (JsString × JsString)
  | [] => none
  | u :: rest =>
    if u = quote then some ([], rest)
    else if u.toNat < 0x20 then none
    else if u = backslash then
      match rest with
      | 0x75 :: a :: b :: c :: d :: rest => do
        let a ← hexUnitValue a
        let b ← hexUnitValue b
        let c ← hexUnitValue c
        let d ← hexUnitValue d
        let (value, rest) ← parseString rest
        return (UInt16.ofNat (a * 4096 + b * 256 + c * 16 + d) :: value, rest)
      | letter :: rest => do
        let u ← unescape letter
        let (value, rest) ← parseString rest
        return (u :: value, rest)
      | [] => none
    else do
      let (value, rest) ← parseString rest
      return (u :: value, rest)

/-- The longest prefix of digits and the text after it. -/
def spanDigits (text : JsString) : JsString × JsString := text.span isDigit

/-- The number that digits spell. -/
def digitsValue (digits : JsString) : ℕ := digits.foldl (fun n c => n * 10 + (c.toNat - 0x30)) 0

/-- `-?(0|[1-9]\d*)(\.\d+)?([eE][+-]?\d+)?`: the sign, the integer digits, the fraction digits and
the exponent of the longest match, with the text after it. -/
def scanNumber (text : JsString) : Option ((Bool × JsString × JsString × ℤ) × JsString) := do
  let (negative, text) := match text with
    | 0x2d :: rest => (true, rest)
    | _ => (false, text)
  let (int, text) ← match text with
    | 0x30 :: rest => some ([0x30], rest)
    | _ => match spanDigits text with
      | ([], _) => none
      | (digits, rest) => some (digits, rest)
  let (fraction, text) := match text with
    | 0x2e :: rest => match spanDigits rest with
      | ([], _) => ([], text)
      | (digits, rest) => (digits, rest)
    | _ => ([], text)
  let (exponent, text) : ℤ × JsString := match text with
    | e :: rest =>
      if e = 0x65 ∨ e = 0x45 then
        let (negative, rest) := match rest with
          | 0x2d :: rest => (true, rest)
          | 0x2b :: rest => (false, rest)
          | _ => (false, rest)
        match spanDigits rest with
        | ([], _) => (0, text)
        | (digits, rest) => (if negative then -digitsValue digits else digitsValue digits, rest)
      else (0, text)
    | [] => (0, text)
  return ((negative, int, fraction, exponent), text)

/-- The number that a literal denotes. -/
def numberValue : Bool × JsString × JsString × ℤ → JsNumber
  | (negative, int, fraction, exponent) =>
    .ofRat negative (digitsValue (int ++ fraction) * 10 ^ (exponent - fraction.length))

/-- Drop a keyword from the front of the text. -/
def stripKeyword (keyword text : JsString) : Option JsString :=
  if keyword <+: text then some (text.drop keyword.length) else none

/-- Create or overwrite a property. -/
def setMember (key : JsString) (value : Json) : List (JsString × Json) → List (JsString × Json)
  | [] => [(key, value)]
  | (k, v) :: members =>
    if k = key then (key, value) :: members else (k, v) :: setMember key value members

mutual

/-- A value and the text after it. -/
def parseValue : ℕ → JsString → Option (Json × JsString)
  | 0, _ => none
  | fuel + 1, text =>
    match skipSpace text with
    | [] => none
    | u :: rest =>
      if u = quote then (parseString rest).map fun (value, rest) => (.string value, rest)
      else if u = 0x5b then
        match skipSpace rest with
        | 0x5d :: rest => some (.array [], rest)
        | rest => (parseItems fuel rest).map fun (items, rest) => (.array items, rest)
      else if u = 0x7b then
        match skipSpace rest with
        | 0x7d :: rest => some (.object [], rest)
        | rest => (parseMembers fuel rest []).map fun (members, rest) => (.object members, rest)
      else if u = 0x74 then
        (stripKeyword (js "true") (u :: rest)).map fun rest => (.bool true, rest)
      else if u = 0x66 then
        (stripKeyword (js "false") (u :: rest)).map fun rest => (.bool false, rest)
      else if u = 0x6e then (stripKeyword (js "null") (u :: rest)).map fun rest => (.null, rest)
      else (scanNumber (u :: rest)).map fun (literal, rest) => (.number (numberValue literal), rest)

/-- The items of an array after its first bracket, up to the closing one. -/
def parseItems : ℕ → JsString → Option (List Json × JsString)
  | 0, _ => none
  | fuel + 1, text => do
    let (item, rest) ← parseValue fuel text
    match skipSpace rest with
    | 0x5d :: rest => return ([item], rest)
    | 0x2c :: rest => do
      let (items, rest) ← parseItems fuel rest
      return (item :: items, rest)
    | _ => none

/-- The members of an object after its first brace, up to the closing one. -/
def parseMembers : ℕ → JsString → List (JsString × Json) →
    Option (List (JsString × Json) × JsString)
  | 0, _, _ => none
  | fuel + 1, text, members =>
    match skipSpace text with
    | 0x22 :: rest => do
      let (key, rest) ← parseString rest
      match skipSpace rest with
      | 0x3a :: rest => do
        let (value, rest) ← parseValue fuel rest
        let members := setMember key value members
        match skipSpace rest with
        | 0x7d :: rest => return (members, rest)
        | 0x2c :: rest => parseMembers fuel rest members
        | _ => none
      | _ => none
    | _ => none

end

/-- `JSON.parse(text)`; `none` is the `SyntaxError`. -/
def jsonParse (text : JsString) : Option Json := do
  let (value, rest) ← parseValue (2 * text.length + 2) text
  match skipSpace rest with
  | [] => return value
  | _ :: _ => none

end SelfRelay
