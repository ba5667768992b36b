import Mathlib.Data.List.Infix
import SelfRelay.Lib.Regex
import SelfRelay.Python.Value

/-!
# Log redaction

`redact_text` replaces secrets in a text by four substitutions, and `redact_value` goes through the
values of a log record: what is stored under a sensitive key is dropped, strings are redacted as
texts.

All patterns are compiled with `re.IGNORECASE`.  `fold` takes a character to the lower-case ASCII
letter that it matches then, which includes four letters outside ASCII.  The tables of Unicode that
the code uses through `str.casefold` and `\b` are a parameter.
-/

namespace SelfRelay.Backend

open SelfRelay.Python

def REDACTED : PyStr := py "[REDACTED]"

def sensitiveKeyMarkers : List PyStr :=
  ["authorization", "cookie", "session", "csrf", "token", "password", "passphrase",
    "secret", "apikey",
    "privatekey", "signingkey", "otp"].map py

/-! ## Characters -/

/-- A character without regard to its case, as far as letters of ASCII are concerned. -/
def fold (c : ℕ) : ℕ :=
  if 0x41 ≤ c && c ≤ 0x5a then c + 0x20
  else if c = 0x130 || c = 0x131 then 0x69
  else if c = 0x17f then 0x73
  else if c = 0x212a then 0x6b
  else c

/-- `[a-z0-9]` -/
def isAlphanumeric (c : ℕ) : Bool := 0x61 ≤ c && c ≤ 0x7a || 0x30 ≤ c && c ≤ 0x39

/-- `\s` -/
def isWhitespace (c : ℕ) : Bool :=
  0x09 ≤ c && c ≤ 0x0d || 0x1c ≤ c && c ≤ 0x20 || c = 0x85 || c = 0xa0 || c = 0x1680 ||
    0x2000 ≤ c && c ≤ 0x200a || c = 0x2028 || c = 0x2029 || c = 0x202f || c = 0x205f || c = 0x3000

/-- One of the characters of a literal. -/
def isOneOf (chars : String) (c : ℕ) : Bool := chars.toList.any fun d => c = d.toNat

/-- `[^\s,;}\]]`, the characters of a value without quotes. -/
def isBare (c : ℕ) : Bool := !(isWhitespace c || isOneOf ",;\x7d]" c)

def isQuote : ℕ → Bool := isOneOf "'\""

/-- The tables of Unicode: `str.casefold`, and the characters that `\w` matches. -/
structure UnicodeTables where
  casefold : PyStr → PyStr
  isWordCharacter : ℕ → Bool
  casefold_ascii : ∀ text : PyStr, (∀ c ∈ text, c < 0x80) → casefold text = text.map fold

/-! ## The patterns -/

/-- The groups of the patterns; `lead` is the group `prefix`. -/
inductive PatternGroup where
  | lead
  | value
  | quote
  | quoted
  | bare
  deriving DecidableEq, Repr

abbrev LogPattern := Regex PatternGroup ℕ

open Regex

/-- The letters of a literal. -/
def literal : PyStr → LogPattern
  | [] => empty
  | c :: word => seq (one fun d => fold d = c) (literal word)

/-- Words with `[-_ ]?` between them. -/
def joined : List PyStr → LogPattern
  | [] => empty
  | [word] => literal word
  | word :: words => seq (literal word) (seq (opt (one (isOneOf "-_ "))) (joined words))

def anyOf : List LogPattern → LogPattern
  | [] => one fun _ => false
  | [r] => r
  | r :: rs => alt r (anyOf rs)

def authorizationNames : List (List PyStr) :=
  [["authorization"], ["proxy", "authorization"]].map (·.map py)

def cookieNames : List (List PyStr) := [["cookie"], ["set", "cookie"]].map (·.map py)

def sensitiveNames : List (List PyStr) :=
  authorizationNames ++ cookieNames ++
    [["session"], ["csrf"], ["token"], ["password"], ["passphrase"], ["secret"], ["api", "key"],
      ["private", "key"], ["signing", "key"], ["otp"]].map (·.map py)

/-- The alternatives of `_SENSITIVE_FIELD_PATTERN`. -/
def sensitiveName : LogPattern := anyOf (sensitiveNames.map joined)

/-- `_SENSITIVE_FIELD_PATTERN` -/
def sensitiveField : LogPattern :=
  seq sensitiveName (many fun c => isAlphanumeric (fold c) || isOneOf "-_" c)

/-- `(?<![A-Za-z0-9])` -/
def notAfterAlphanumeric : LogPattern := notAfter fun c => isAlphanumeric (fold c)

/-- `\s*[:=]\s*` -/
def separator : LogPattern := seq (many isWhitespace) (seq (one (isOneOf ":=")) (many isWhitespace))

/-- `_AUTH_HEADER_RE` and `_COOKIE_HEADER_RE` -/
def headerPattern (names : List (List PyStr)) : LogPattern :=
  seq (group .lead (seq notAfterAlphanumeric (seq (anyOf (names.map joined)) separator)))
    (group .value (oneOrMore fun c => !isOneOf "\r\n,\x7d" c))

def authHeader : LogPattern := headerPattern authorizationNames

def cookieHeader : LogPattern := headerPattern cookieNames

/-- What stands before a field and its separator: `(?<![A-Za-z0-9])['\"]?`, the field, `['\"]?`. -/
def assignmentField : LogPattern :=
  seq notAfterAlphanumeric (seq (opt (one isQuote)) (seq sensitiveField (opt (one isQuote))))

def isQuotedCharacter (c : ℕ) : Bool := !isOneOf "\n" c

/-- `(?P<quote>['\"])(?P<quoted>.*?)(?P=quote)` -/
def quotedValue : LogPattern :=
  seq (group .quote (one isQuote))
    (seq (group .quoted (lazily isQuotedCharacter)) (backreference .quote))

/-- `(?P<bare>[^\s,;}\]]+)` -/
def bareValue : LogPattern := group .bare (oneOrMore isBare)

/-- `_SENSITIVE_ASSIGNMENT_RE` -/
def sensitiveAssignment : LogPattern :=
  seq (group .lead (seq assignmentField separator)) (alt quotedValue bareValue)

/-- `_BEARER_RE` -/
def bearer (tables : UnicodeTables) : LogPattern :=
  seq
    (group .lead (seq (boundary tables.isWordCharacter)
      (seq (anyOf (["bearer", "basic", "digest"].map fun word => literal (py word)))
        (oneOrMore isWhitespace))))
    (group .value (oneOrMore fun c => !(isWhitespace c || isOneOf ",;" c)))

/-! ## Texts -/

abbrev PatternMatch := PatternGroup → Option PyStr

def replaceHeader (groups : PatternMatch) : PyStr := (groups .lead).getD [] ++ REDACTED

def replaceAssignment (groups : PatternMatch) : PyStr :=
  let quote := (groups .quote).getD []
  (groups .lead).getD [] ++ quote ++ REDACTED ++ quote

def redactText (tables : UnicodeTables) (value : PyStr) : PyStr :=
  let redacted := sensitiveAssignment.sub replaceAssignment 0 none value
  let redacted := authHeader.sub replaceHeader 0 none redacted
  let redacted := cookieHeader.sub replaceHeader 0 none redacted
  (bearer tables).sub replaceHeader 0 none redacted

/-! ## Values -/

/-- A key of a mapping: `None`, or an object with its `str`. -/
inductive LogKey where
  | none
  | object (text : PyStr)
  deriving DecidableEq, Repr

def LogKey.str : LogKey → PyStr
  | .none => py "None"
  | .object text => text

/-- A value of a log record.  Of an object that is none of the others only its `str` matters. -/
inductive LogValue where
  | none
  | bool (value : Bool)
  | int (value : ℤ)
  | float (value : JsNumber)
  | str (value : PyStr)
  | bytes (value : List UInt8)
  | mapping (items : List (LogKey × LogValue))
  | sequence (items : List LogValue)
  | set (items : List LogValue)
  | other (text : PyStr)
  deriving Repr

def normaliseKey (tables : UnicodeTables) (key : LogKey) : PyStr :=
  (tables.casefold key.str).filter isAlphanumeric

def isSensitiveKey (tables : UnicodeTables) (key : LogKey) : Bool :=
  sensitiveKeyMarkers.any fun marker => marker <:+: normaliseKey tables key

/-- The items of a `dict` that is built one by one: a key that is there already keeps its place. -/
def insertItem (items : List (LogKey × LogValue)) (item : LogKey × LogValue) :
    List (LogKey × LogValue) :=
  if items.any fun other => other.1 = item.1 then
    items.map fun other => if other.1 = item.1 then item else other
  else items ++ [item]

mutual

/-- `redact_value` of a value without a key. -/
def redactBody (tables : UnicodeTables) : LogValue → LogValue
  | .none => .none
  | .bool value => .bool value
  | .int value => .int value
  | .float value => .float value
  | .str value => .str (redactText tables value)
  | .bytes _ => .str REDACTED
  | .mapping items => .mapping ((redactMembers tables items).foldl insertItem [])
  | .sequence items => .sequence (redactItems tables items)
  | .set items => .sequence (redactItems tables items)
  | .other text => .str (redactText tables text)

def redactItems (tables : UnicodeTables) : List LogValue → List LogValue
  | [] => []
  | value :: items => redactBody tables value :: redactItems tables items

def redactMembers (tables : UnicodeTables) : List (LogKey × LogValue) → List (LogKey × LogValue)
  | [] => []
  | (key, value) :: items =>
    (.object key.str,
      if key ≠ .none && isSensitiveKey tables key then .str REDACTED else
        redactBody tables value) ::
      redactMembers tables items

end

def redactValue (tables : UnicodeTables) (value : LogValue) (key : LogKey) : LogValue :=
  if key ≠ .none && isSensitiveKey tables key then .str REDACTED else redactBody tables value

end SelfRelay.Backend
