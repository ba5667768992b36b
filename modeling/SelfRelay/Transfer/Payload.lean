import SelfRelay.Protocol.Base64Url
import SelfRelay.Protocol.CanonicalJson
import SelfRelay.Protocol.Frame

/-!
# Transfer payloads

The records that `fileTransfer.ts` puts into frames: the manifest, the signed file offer, the
completion, the receipt, the acceptance and the terminal payload, with the functions that parse
them.  File names pass `sanitizeFileName`, whose Unicode normalisation and case mapping come from
the JavaScript runtime (`Unicode`).
-/

namespace SelfRelay

def maxTransferBytes : ℕ := 250 * 1024 * 1024
def maxChunkSize : ℕ := maxFramePlaintextBytes
def defaultChunkSize : ℕ := maxFramePlaintextBytes
def maxFileNameBytes : ℕ := 255
def maxMediaTypeBytes : ℕ := 127

/-! ## Names and media types -/

/-- The Unicode tables of the runtime: `normalize('NFKC')` and `toUpperCase()`. -/
structure Unicode where
  normalizeNfkc : JsString → JsString
  toUpperCase : JsString → JsString

def utf8ByteLength (value : JsString) : ℕ := (textEncode value).length

/-- `truncateUtf8`: the loop drops one code unit a time. -/
def truncateUtf8 (maximumBytes : ℕ) (value : JsString) : ℕ → JsString
  | 0 => value
  | fuel + 1 =>
    if value.length > 0 ∧ utf8ByteLength value > maximumBytes then
      truncateUtf8 maximumBytes value.dropLast fuel
    else value

/-- The code units that `trim()` removes. -/
def isTrimmed (u : UInt16) : Bool :=
  let c := u.toNat
  (0x09 ≤ c && c ≤ 0x0d) || c = 0x20 || c = 0xa0 || c = 0x1680 || (0x2000 ≤ c && c ≤ 0x200a) ||
    c = 0x2028 || c = 0x2029 || c = 0x202f || c = 0x205f || c = 0x3000 || c = 0xfeff

/-- `value.trim()` -/
def trim (value : JsString) : JsString := (value.dropWhile isTrimmed).rdropWhile isTrimmed

/-- `\p{Cc}` -/
def isControl (u : UInt16) : Bool := u.toNat ≤ 0x1f || (0x7f ≤ u.toNat && u.toNat ≤ 0x9f)

/-- The units of a string between separators. -/
def splitOn (separator : UInt16 → Bool) : JsString → List JsString
  | [] => [[]]
  | u :: rest =>
    if separator u then [] :: splitOn separator rest
    else
      match splitOn separator rest with
      | [] => [[u]]
      | piece :: pieces => (u :: piece) :: pieces

def reservedStems : List JsString :=
  ["CON", "PRN", "AUX", "NUL", "COM1", "COM2", "COM3", "COM4", "COM5", "COM6", "COM7", "COM8",
    "COM9", "LPT1", "LPT2", "LPT3", "LPT4", "LPT5", "LPT6", "LPT7", "LPT8", "LPT9"].map js

/-- `isReservedWindowsName` -/
def isReservedWindowsName (unicode : Unicode) (value : JsString) : Bool :=
  let stem := unicode.toUpperCase ((splitOn (· = 0x2e) value).headD [])
  reservedStems.contains stem

/-- `sanitizeFileName`; `none` is a value that is not a string. -/
def sanitizeFileName (unicode : Unicode) (value : Option JsString) : JsString :=
  let source := (value.map unicode.normalizeNfkc).getD []
  let pieces := (splitOn (fun u => u = 0x5c || u = 0x2f) source).filter (· ≠ [])
  let result := pieces.getLast?.getD []
  let result := (trim ((result.filter fun u => !isControl u).map fun u =>
    if (js "<>:\"/\\|?*").contains u then 0x5f else u)).rdropWhile fun u => u = 0x2e || u = 0x20
  let result := if result = [] ∨ result = js "." ∨ result = js ".." then js "download" else result
  let result := if isReservedWindowsName unicode result then 0x5f :: result else result
  let result := truncateUtf8 maxFileNameBytes result result.length
  if result = [] then js "download" else result

/-- `[A-Za-z0-9!#$&^_.+-]` -/
def isMediaTypeUnit (u : UInt16) : Bool :=
  (0x41 ≤ u.toNat && u.toNat ≤ 0x5a) || (0x61 ≤ u.toNat && u.toNat ≤ 0x7a) || isDigit u ||
    (js "!#$&^_.+-").contains u

/-- Two non-empty tokens around one slash. -/
def isMediaType (value : JsString) : Bool :=
  match splitOn (· = 0x2f) value with
  | [type, subtype] =>
    type ≠ [] && subtype ≠ [] && type.all isMediaTypeUnit && subtype.all isMediaTypeUnit
  | _ => false

def octetStream : JsString := js "application/octet-stream"

/-- `sanitizeMediaType`; `none` is a value that is not a string. -/
def sanitizeMediaType : Option JsString → JsString
  | none => octetStream
  | some value =>
    let candidate := trim value
    if candidate.length = 0 ∨ utf8ByteLength candidate > maxMediaTypeBytes ∨
        isMediaType candidate = false then octetStream
    else candidate

/-! ## Fields -/

/-- `record` -/
def record (value : Option Json) (code : String) : Checked Members :=
  match value with
  | some (.object members) => .ok members
  | _ => .error (protocolError "Transfer payload must be an object." code)

/-- `requireExactKeys` -/
def requireExactKeys (object : Members) (keys : List String) : Checked Unit := do
  throwIf (object.any fun m => !(keys.map js).contains m.1)
    (protocolError "Transfer payload contains an unknown field." "invalid_payload")
  throwIf (keys.any fun key => !(object.map Prod.fst).contains (js key))
    (protocolError "Transfer payload is missing a field." "invalid_payload")

/-- `requireSafeInteger` -/
def requireSafeInteger (value : Option Json) (name : String) (minimum : ℕ) : Checked ℕ :=
  let error := protocolError (name ++ " is invalid.") "invalid_manifest"
  match value with
  | some (.number n) =>
    match n.value? with
    | some q => if n.isSafeInteger ∧ (minimum : ℚ) ≤ q then .ok q.num.natAbs else .error error
    | none => .error error
  | _ => .error error

/-- A string, or the error to throw. -/
def requireString (value : Option Json) (error : ProtocolError) : Checked JsString :=
  match value with
  | some (.string s) => .ok s
  | _ => .error error

/-! ## The manifest -/

structure TransferManifest where
  fileName : JsString
  mediaType : JsString
  byteCount : ℕ
  chunkSize : ℕ
  deriving DecidableEq, Repr

/-- The object `sendFile` writes. -/
def TransferManifest.json (m : TransferManifest) : Json :=
  .object [(js "file_name", .string m.fileName), (js "media_type", .string m.mediaType),
    (js "byte_count", numberField m.byteCount), (js "chunk_size", numberField m.chunkSize)]

/-- `/^[\x20-\x7e]*$/u` -/
def isPrintableAscii (value : JsString) : Bool :=
  value.all fun u => 0x20 ≤ u.toNat && u.toNat ≤ 0x7e

/-- `parseManifest` -/
def parseManifest (unicode : Unicode) (value : Bytes) : Checked TransferManifest := do
  let object ← record (some (← parseCanonicalJson value)) "invalid_manifest"
  requireExactKeys object ["file_name", "media_type", "byte_count", "chunk_size"]
  let nameError := protocolError "Manifest file name is invalid." "invalid_manifest"
  let fileName ← requireString (field object "file_name") nameError
  throwIf (utf8ByteLength fileName > maxFileNameBytes) nameError
  let typeError := protocolError "Manifest media type is invalid." "invalid_manifest"
  let mediaType ← requireString (field object "media_type") typeError
  throwIf (utf8ByteLength mediaType > maxMediaTypeBytes) typeError
  throwIf (isPrintableAscii mediaType = false) typeError
  let byteCount ← requireSafeInteger (field object "byte_count") "byte_count" 0
  throwIf (byteCount > maxTransferBytes)
    (protocolError "Manifest file is too large." "file_too_large")
  let chunkSize ← requireSafeInteger (field object "chunk_size") "chunk_size" 1
  throwIf (chunkSize > maxChunkSize)
    (protocolError "Manifest chunk size is too large." "invalid_manifest")
  return {
    fileName := sanitizeFileName unicode (some fileName)
    mediaType := sanitizeMediaType (some mediaType)
    byteCount, chunkSize }

/-! ## The file offer -/

structure FileOfferCore where
  transferId : JsString
  fileName : JsString
  mediaType : JsString
  byteCount : ℕ
  deriving DecidableEq, Repr

def FileOfferCore.json (core : FileOfferCore) : Json :=
  .object [(js "v", numberField 1), (js "type", .string (js "file_offer")),
    (js "transfer_id", .string core.transferId), (js "file_name", .string core.fileName),
    (js "media_type", .string core.mediaType), (js "byte_count", numberField core.byteCount)]

structure SignedFileOffer where
  core : FileOfferCore
  signature : JsString
  manifest : TransferManifest
  deriving DecidableEq, Repr

/-- A 64-byte signature in base64url, with the text it was read from. -/
def requireSignature (value : Option Json) (message : String) : Checked (JsString × Bytes) := do
  let error := protocolError message "invalid_signature"
  let text ← requireString value error
  let signature ← decodeBase64Url text 64
  throwIf (signature.length ≠ 64) error
  return (text, signature)

/-- `parseFileOffer` -/
def parseFileOffer (unicode : Unicode) (value : Bytes) : Checked SignedFileOffer := do
  let wrapper ← record (some (← parseCanonicalJson value)) "invalid_file_offer"
  requireExactKeys wrapper ["core", "signature"]
  let core ← record (field wrapper "core") "invalid_file_offer"
  requireExactKeys core ["v", "type", "transfer_id", "file_name", "media_type", "byte_count"]
  let error := protocolError "File offer is invalid." "invalid_file_offer"
  throwIf (isOne (field core "v") = false ∨ isString (field core "type") "file_offer" = false) error
  let transferId ← requireString (field core "transfer_id") error
  let manifest ← parseManifest unicode (← canonicalJsonBytes (.object [
    (js "file_name", (field core "file_name").getD .null),
    (js "media_type", (field core "media_type").getD .null),
    (js "byte_count", (field core "byte_count").getD .null),
    (js "chunk_size", numberField defaultChunkSize)]))
  let (signature, _) ← requireSignature (field wrapper "signature")
    "File offer signature is invalid."
  return {
    core := {
      transferId
      fileName := manifest.fileName
      mediaType := manifest.mediaType
      byteCount := manifest.byteCount }
    signature, manifest }

/-! ## The completion -/

structure FileComplete where
  transferId : JsString
  byteCount : ℕ
  chunkCount : ℕ
  sha256 : JsString
  transcriptHash : JsString
  deriving DecidableEq, Repr

def FileComplete.json (core : FileComplete) : Json :=
  .object [(js "v", numberField 1), (js "type", .string (js "file_complete")),
    (js "transfer_id", .string core.transferId), (js "byte_count", numberField core.byteCount),
    (js "chunk_count", numberField core.chunkCount), (js "sha256", .string core.sha256),
    (js "transcript_hash", .string core.transcriptHash)]

/-- `parseComplete` -/
def parseComplete (value : Bytes) : Checked (FileComplete × Bytes) := do
  let wrapper ← record (some (← parseCanonicalJson value)) "invalid_complete"
  requireExactKeys wrapper ["core", "signature"]
  let core ← record (field wrapper "core") "invalid_complete"
  requireExactKeys core
    ["v", "type", "transfer_id", "byte_count", "chunk_count", "sha256", "transcript_hash"]
  throwIf (isOne (field core "v") = false ∨ isString (field core "type") "file_complete" = false)
    (protocolError "Completion record version or type is invalid." "invalid_complete")
  let transferId ← requireString (field core "transfer_id")
    (protocolError "Completion transfer identifier is invalid." "invalid_complete")
  let byteCount ← requireSafeInteger (field core "byte_count") "byte_count" 0
  let chunkCount ← requireSafeInteger (field core "chunk_count") "chunk_count" 0
  let error := protocolError "Completion digest is invalid." "invalid_complete"
  let sha256 ← requireString (field core "sha256") error
  let transcriptHash ← requireString (field core "transcript_hash") error
  let digest ← decodeBase64Url sha256 32
  let transcript ← decodeBase64Url transcriptHash 32
  throwIf (digest.length ≠ 32 ∨ transcript.length ≠ 32) error
  let (_, signature) ← requireSignature (field wrapper "signature")
    "Completion signature is invalid."
  return ({ transferId, byteCount, chunkCount, sha256, transcriptHash }, signature)

/-! ## The receipt -/

structure TransferReceipt where
  transferId : JsString
  byteCount : ℕ
  sha256 : JsString
  deriving DecidableEq, Repr

def TransferReceipt.json (receipt : TransferReceipt) : Json :=
  .object [(js "v", numberField 1), (js "type", .string (js "file_receipt")),
    (js "transfer_id", .string receipt.transferId),
    (js "byte_count", numberField receipt.byteCount),
    (js "sha256", .string receipt.sha256), (js "status", .string (js "verified"))]

/-- `parseReceipt` -/
def parseReceipt (value : Bytes) : Checked TransferReceipt := do
  let object ← record (some (← parseCanonicalJson value)) "invalid_receipt"
  requireExactKeys object ["v", "type", "transfer_id", "byte_count", "sha256", "status"]
  let error := protocolError "Receipt is invalid." "invalid_receipt"
  throwIf (isOne (field object "v") = false ∨
    isString (field object "type") "file_receipt" = false ∨
    isString (field object "status") "verified" = false) error
  let transferId ← requireString (field object "transfer_id") error
  let sha256 ← requireString (field object "sha256") error
  let byteCount ← requireSafeInteger (field object "byte_count") "byte_count" 0
  let digest ← decodeBase64Url sha256 32
  throwIf (digest.length ≠ 32) (protocolError "Receipt digest is invalid." "invalid_receipt")
  return { transferId, byteCount, sha256 }

/-! ## Acceptance and termination -/

/-- The acceptance `accept` writes. -/
def acceptJson (transferId : JsString) : Json :=
  .object [(js "v", numberField 1), (js "type", .string (js "file_accept")),
    (js "transfer_id", .string transferId)]

/-- What `handleAccept` checks. -/
def checkAccept (transferId : JsString) (value : Bytes) : Checked Unit := do
  let object ← record (some (← parseCanonicalJson value)) "invalid_accept"
  requireExactKeys object ["v", "type", "transfer_id"]
  throwIf (isOne (field object "v") = false ∨ isString (field object "type") "file_accept" = false ∨
      isText (field object "transfer_id") transferId = false)
    (protocolError "File acceptance is invalid." "invalid_accept")

/-- `/^[a-z0-9_]{1,64}$/u` -/
def isSafeCode (code : JsString) : Bool :=
  1 ≤ code.length && code.length ≤ 64 &&
    code.all fun u => (0x61 ≤ u.toNat && u.toNat ≤ 0x7a) || isDigit u || u = 0x5f

/-- The payload of a `cancel` or `error` frame. -/
def terminalJson (type code : JsString) : Json :=
  .object [(js "v", numberField 1), (js "type", .string type), (js "code", .string code)]

/-- The code that a `cancel` or `error` payload carries. -/
def parseTerminal (type : String) (value : Bytes) : Checked JsString := do
  let object ← record (some (← parseCanonicalJson value)) ("remote_" ++ type)
  requireExactKeys object ["v", "type", "code"]
  let error := protocolError "Remote terminal payload is invalid." "invalid_payload"
  throwIf (isOne (field object "v") = false ∨ isString (field object "type") type = false) error
  let code ← requireString (field object "code") error
  throwIf (isSafeCode code = false) error
  return code

end SelfRelay
