import SelfRelay.Js.Json
import SelfRelay.Js.Utf8
import SelfRelay.Protocol.Basic

/-!
# Canonical JSON

`canonicalJson` writes a value with sorted keys and no whitespace; `parseStrictJson` scans the text
for duplicate keys before it hands it to `JSON.parse`; `parseCanonicalJson` accepts only bytes that
canonicalise to themselves.

The scanner of the source moves an index over the text; here it moves the rest of the text.  The
bound on its recursion is never reached, since every nested call is on a shorter text.  The call
stack of the runtime is not modelled.
-/

namespace SelfRelay

def invalidJson (message : String) : ProtocolError := protocolError message "invalid_json"

/-! ## Serialisation -/

/-- `left <= right` on strings, by code units. -/
def utf16Le : JsString → JsString → Bool
  | [], _ => true
  | _ :: _, [] => false
  | a :: as, b :: bs => a.toNat < b.toNat || (a = b && utf16Le as bs)

/-- `assertWellFormedUnicode` -/
def assertWellFormedUnicode (value : JsString) : Checked Unit :=
  throwIf (isWellFormed value = false)
    (invalidJson "Canonical JSON strings must contain well-formed Unicode.")

/-- `parts.join(',')` -/
def joinComma : List JsString → JsString
  | [] => []
  | [part] => part
  | part :: parts => part ++ 0x2c :: joinComma parts

/-- The entries of an object once its values are serialised, in the order of their keys. -/
def canonicalEntries (entries : List (JsString × Checked JsString)) : Checked (List JsString) :=
  (entries.insertionSort fun a b => utf16Le a.1 b.1).mapM fun (key, encoded) => do
    assertWellFormedUnicode key
    let encoded ← encoded
    return jsonQuote key ++ 0x3a :: encoded

mutual

/-- `canonicalJsonValue`.  A value that JSON text can denote has no cycles. -/
def canonicalJson : Json → Checked JsString
  | .null => .ok (js "null")
  | .string value => do
    assertWellFormedUnicode value
    return jsonQuote value
  | .bool value => .ok (if value then js "true" else js "false")
  | .number value => do
    throwIf (value.value? = none)
      (invalidJson "Canonical JSON does not support non-finite numbers.")
    return value.toString
  | .array items => do
    let parts ← canonicalItems items
    return 0x5b :: joinComma parts ++ [0x5d]
  | .object members => do
    let parts ← canonicalEntries (canonicalMembers members)
    return 0x7b :: joinComma parts ++ [0x7d]

def canonicalItems : List Json → Checked (List JsString)
  | [] => .ok []
  | item :: items => do
    let part ← canonicalJson item
    let parts ← canonicalItems items
    return part :: parts

/-- The values of an object are serialised lazily, so an error waits for its turn. -/
def canonicalMembers : List (JsString × Json) → List (JsString × Checked JsString)
  | [] => []
  | (key, value) :: members => (key, canonicalJson value) :: canonicalMembers members

end

/-- `canonicalJsonBytes` -/
def canonicalJsonBytes (value : Json) : Checked Bytes := do
  let text ← canonicalJson value
  return textEncode text

/-! ## The scanner -/

/-- `scanJsonString`, from behind the opening quote to behind the closing one. -/
def scanJsonString : JsString → Checked JsString
  | [] => .error (invalidJson "JSON string is unterminated.")
  | u :: rest =>
    if u = quote then .ok rest
    else if u.toNat < 0x20 then .error (invalidJson "JSON string contains a control character.")
    else if u = backslash then
      match rest with
      | [] => .error (invalidJson "JSON string escape is truncated.")
      | escape :: rest =>
        if escape = 0x75 then
          match rest with
          | a :: b :: c :: d :: rest =>
            if [a, b, c, d].all fun u => (hexUnitValue u).isSome then scanJsonString rest
            else .error (invalidJson "JSON unicode escape is invalid.")
          | _ => .error (invalidJson "JSON unicode escape is invalid.")
        else if (js "\"\\/bfnrt").contains escape then scanJsonString rest
        else .error (invalidJson "JSON string escape is invalid.")
    else scanJsonString rest

/-- The key between the start of a member and the end of its string. -/
def scanKey (keys : List JsString) (literal : JsString) : Checked JsString :=
  match jsonParse literal with
  | none => .error (invalidJson "JSON object key is invalid.")
  | some (.string key) =>
    if key ∈ keys then
      .error (protocolError "JSON object contains duplicate keys." "duplicate_json_key")
    else .ok key
  | some _ => .error (protocolError "JSON object contains duplicate keys." "duplicate_json_key")

mutual

/-- `scanJsonValue` -/
def scanJsonValue : ℕ → JsString → Checked JsString
  | 0, _ => .error (invalidJson "JSON value is invalid.")
  | fuel + 1, text =>
    match skipSpace text with
    | [] => .error (invalidJson "JSON value is invalid.")
    | u :: rest =>
      if u = quote then scanJsonString rest
      else if u = 0x5b then
        match skipSpace rest with
        | 0x5d :: rest => .ok rest
        | rest => scanItems fuel rest
      else if u = 0x7b then
        match skipSpace rest with
        | 0x7d :: rest => .ok rest
        | rest => scanMembers fuel rest []
      else if js "true" <+: u :: rest then .ok (rest.drop 3)
      else if js "false" <+: u :: rest then .ok (rest.drop 4)
      else if js "null" <+: u :: rest then .ok (rest.drop 3)
      else
        match scanNumber (u :: rest) with
        | some (_, rest) => .ok rest
        | none => .error (invalidJson "JSON value is invalid.")

/-- The loop over the items of an array. -/
def scanItems : ℕ → JsString → Checked JsString
  | 0, _ => .error (invalidJson "JSON value is invalid.")
  | fuel + 1, text => do
    let rest ← scanJsonValue fuel text
    match skipSpace rest with
    | 0x5d :: rest => return rest
    | 0x2c :: rest =>
      match skipSpace rest with
      | 0x5d :: _ => .error (invalidJson "JSON array has a trailing comma.")
      | rest => scanItems fuel rest
    | _ => .error (invalidJson "JSON array separator is invalid.")

/-- The loop over the members of an object. -/
def scanMembers : ℕ → JsString → List JsString → Checked JsString
  | 0, _, _ => .error (invalidJson "JSON value is invalid.")
  | fuel + 1, text, keys =>
    match text with
    | 0x22 :: rest => do
      let keyEnd ← scanJsonString rest
      let key ← scanKey keys (text.take (text.length - keyEnd.length))
      match skipSpace keyEnd with
      | 0x3a :: rest => do
        let rest ← scanJsonValue fuel rest
        match skipSpace rest with
        | 0x7d :: rest => return rest
        | 0x2c :: rest =>
          match skipSpace rest with
          | 0x7d :: _ => .error (invalidJson "JSON object has a trailing comma.")
          | rest => scanMembers fuel rest (keys ++ [key])
        | _ => .error (invalidJson "JSON object separator is invalid.")
      | _ => .error (invalidJson "JSON object separator is invalid.")
    | _ => .error (invalidJson "JSON object key is invalid.")

end

/-! ## Parsing -/

/-- `decodeUtf8` -/
def decodeUtf8 (value : Bytes) : Checked JsString :=
  match textDecode value with
  | none => .error (invalidJson "JSON must contain valid UTF-8.")
  | some text => .ok text

/-- `parseStrictJson` of a string. -/
def parseStrictJsonText (text : JsString) : Checked Json := do
  throwIf (text.head? = some 0xfeff) (invalidJson "JSON must not contain a byte-order mark.")
  let rest ← scanJsonValue (2 * text.length + 2) text
  throwIf (skipSpace rest ≠ []) (invalidJson "JSON contains trailing data.")
  match jsonParse text with
  | none => .error (invalidJson "JSON value is invalid.")
  | some value => return value

/-- `parseStrictJson` of bytes. -/
def parseStrictJson (value : Bytes) : Checked Json := do
  let text ← decodeUtf8 value
  parseStrictJsonText text

/-- `parseCanonicalJson` of bytes. -/
def parseCanonicalJson (raw : Bytes) : Checked Json := do
  let parsed ← parseStrictJson raw
  let canonical ← canonicalJsonBytes parsed
  throwIf (raw ≠ canonical) (protocolError "Signed JSON is not canonical." "non_canonical_json")
  return parsed

/-- `{ core, signature }` -/
def signedJson (core : Json) (signature : JsString) : Json :=
  .object [(js "core", core), (js "signature", .string signature)]

end SelfRelay
