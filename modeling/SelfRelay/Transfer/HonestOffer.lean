import SelfRelay.Protocol.Transcript
import SelfRelay.Protocol.TypeSequence
import SelfRelay.Transfer.Engine
import SelfRelay.Transfer.PlainName

/-!
# Honest offers

A recipient sanitizes the name and the type of a signed offer again before it verifies the
signature.  A sanitized media type stays what it is; a sanitized name does if it was cut cleanly and
normalization leaves it alone (`verifies_iff_cleanCut`), as it does a plain name without control
characters (`honestOffer_verifies`).
-/

namespace SelfRelay

/-! ## Sanitizing again -/

theorem lastComponent_eq_self {name : JsString} (hne : name ≠ []) (h : ∀ u ∈ name, IsSafeUnit u) :
    lastComponent name = name := by
  have hseparator : ∀ u ∈ name, (decide (u = 0x5c) || decide (u = 0x2f)) = false := by
    intro u hu
    have hforbidden := (h u hu).2
    simp only [Bool.or_eq_false_iff, decide_eq_false_iff_not]
    constructor <;> rintro rfl <;> exact hforbidden (by decide)
  rw [lastComponent, splitOn_eq_singleton hseparator]
  simp [hne]

/-- Of a name of safe units that does not begin with whitespace only the end is stripped. -/
theorem strippedName_of_safe {name : JsString} (hne : name ≠ []) (h : ∀ u ∈ name, IsSafeUnit u)
    (hhead : ∀ u ∈ name.head?, isTrimmed u = false) :
    strippedName name = (name.rdropWhile isTrimmed).rdropWhile fun u => u = 0x2e || u = 0x20 := by
  have hfilter : (name.filter fun u => !isControl u) = name :=
    List.filter_eq_self.2 fun u hu => by rw [(h u hu).1]; rfl
  have hmap : (name.map fun u => if forbiddenUnits.contains u then 0x5f else u) = name := by
    rw [List.map_congr_left fun u hu => if_neg (by simpa using (h u hu).2), List.map_id']
  have hdrop : name.dropWhile isTrimmed = name := by
    cases name with
    | nil => rfl
    | cons u name => rw [List.dropWhile_cons_of_neg (by rw [hhead u rfl]; decide)]
  rw [strippedName, lastComponent_eq_self hne h, hfilter, hmap, trim, hdrop]

/-- What a sanitized name is, whether it was cut cleanly or not. -/
structure Sanitized (name : JsString) : Prop where
  nonempty : name ≠ []
  length_le : utf8ByteLength name ≤ maxFileNameBytes
  units : ∀ u ∈ name, IsSafeUnit u
  leading : ∀ u ∈ name.head?, isTrimmed u = false
  device : ¬ IsDeviceName name

theorem AlmostSafe.sanitized_take {name : JsString} (h : AlmostSafe name) :
    Sanitized (name.take (fitting maxFileNameBytes name)) := by
  have hne : name.take (fitting maxFileNameBytes name) ≠ [] := by
    intro hnil
    have hlast := h.getLast?_take
    rw [hnil] at hlast
    cases hlast
  refine ⟨hne, utf8ByteLength_fitting maxFileNameBytes name,
    fun u hu => h.units u (List.mem_of_mem_take hu), ?_,
    not_isDeviceName_take h.device⟩
  rw [head?_of_isPrefix (List.take_prefix _ _) hne]
  exact h.leading

/-- No device name begins with an underscore. -/
theorem not_isDeviceName_underscore (name : JsString) : ¬ IsDeviceName (0x5f :: name) := by
  have hhead : ∀ stem ∈ reservedStems, stem.head? ≠ some 0x5f := by decide
  exact fun h => hhead _ h rfl

section Again

variable {unicode : Unicode} {name : JsString} (h : Sanitized name)
include h

/-- Nothing is stripped from a name that ends in neither whitespace nor a dot. -/
theorem Sanitized.strippedName_iff :
    strippedName name = name ↔ ∀ u ∈ name.getLast?, isTrimmed u = false ∧ u ≠ 0x2e := by
  rw [strippedName_of_safe h.nonempty h.units h.leading]
  have hspaces : name.rdropWhile isTrimmed <+: name := List.rdropWhile_prefix _ _
  have hdots : (name.rdropWhile isTrimmed).rdropWhile (fun u => u = 0x2e || u = 0x20) <+:
      name.rdropWhile isTrimmed := List.rdropWhile_prefix _ _
  constructor
  · intro hsame u hu
    obtain ⟨hne, rfl⟩ := List.mem_getLast?_eq_getLast hu
    have hfirst : name.rdropWhile isTrimmed = name := by
      refine hspaces.eq_of_length (le_antisymm hspaces.length_le ?_)
      have := hdots.length_le
      rwa [hsame] at this
    rw [hfirst] at hsame
    have hspace := List.rdropWhile_eq_self_iff.1 hfirst hne
    have hdot := List.rdropWhile_eq_self_iff.1 hsame hne
    simp only [Bool.or_eq_true, decide_eq_true_eq, not_or] at hdot
    exact ⟨by simpa using hspace, hdot.1⟩
  · intro hlast
    have hlast (hne : name ≠ []) := hlast _ (List.getLast?_eq_some_getLast hne)
    have hspace : name.rdropWhile isTrimmed = name :=
      List.rdropWhile_eq_self_iff.2 fun hne => by rw [(hlast hne).1]; decide
    rw [hspace]
    apply List.rdropWhile_eq_self_iff.2
    intro hne hstripped
    simp only [Bool.or_eq_true, decide_eq_true_eq] at hstripped
    rcases hstripped with hdot | hblank
    · exact (hlast hne).2 hdot
    · have hcontra := (hlast hne).1
      rw [hblank] at hcontra
      exact absurd hcontra (by decide)

/-- A sanitized name that normalization leaves alone stays what it is if and only
if nothing is stripped. -/
theorem Sanitized.sanitizeFileName_iff (hupper : unicode.UppercasesDevices)
    (hnormal : unicode.normalizeNfkc name = name) :
    sanitizeFileName unicode (some name) = name ↔
      ∀ u ∈ name.getLast?, isTrimmed u = false ∧ u ≠ 0x2e := by
  have hstripped := h.strippedName_iff
  constructor
  · intro hsame u hu
    by_contra hstrip
    have hshort : strippedName name ≠ name := fun heq => hstrip (hstripped.1 heq u hu)
    have hpre : strippedName name <+: name := by
      rw [strippedName_of_safe h.nonempty h.units h.leading]
      exact (List.rdropWhile_prefix _ _).trans (List.rdropWhile_prefix _ _)
    have hdownload : js "download" ≠ name := by
      rintro rfl
      obtain rfl : 0x64 = u := Option.some.inj hu
      exact hstrip (by decide)
    have htake : (wholeName unicode name).take
        (fitting maxFileNameBytes (wholeName unicode name)) = name := by
      rw [sanitizeFileName_some] at hsame
      split_ifs at hsame
      · exact absurd hsame hdownload
      · exact hsame
    have hbase : baseName name = strippedName name := by
      rw [baseName]
      refine if_neg fun hempty => hdownload ?_
      have hwhole : wholeName unicode name = js "download" := by
        have hnot : ¬ isReservedWindowsName unicode (js "download") = true :=
          (isReservedWindowsName_iff hupper _).not.2 (by decide)
        rw [wholeName, hnormal, baseName, if_pos hempty]
        exact if_neg hnot
      rw [← htake, hwhole, fitting_eq_length (by decide), List.take_length]
    rw [wholeName, hnormal, hbase] at htake
    by_cases hreserved : isReservedWindowsName unicode (strippedName name) = true
    · -- the name begins with an underscore, and so does what is left of it
      have hdevice := (isReservedWindowsName_iff hupper _).1 hreserved
      rw [if_pos hreserved] at htake
      have htaken := List.take_prefix (fitting maxFileNameBytes (0x5f :: strippedName name))
        (0x5f :: strippedName name)
      rw [htake] at htaken
      have hne : strippedName name ≠ [] := by
        intro hnil
        rw [hnil] at hdevice
        exact absurd hdevice (by decide)
      have hhead : (strippedName name).head? = some 0x5f :=
        (head?_of_isPrefix hpre hne).trans (head?_of_isPrefix htaken h.nonempty)
      obtain ⟨rest, hrest⟩ := List.head?_eq_some_iff.1 hhead
      rw [hrest] at hdevice
      exact not_isDeviceName_underscore rest hdevice
    · rw [if_neg hreserved] at htake
      have hlength : name.length ≤ (strippedName name).length := by
        have hlength := congrArg List.length htake
        rw [List.length_take] at hlength
        omega
      exact hshort (hpre.eq_of_length (le_antisymm hpre.length_le hlength))
  · intro hlast
    have hbase : baseName name = name := by
      have hdot : ∀ dots : JsString, dots.getLast? = some 0x2e → name ≠ dots := by
        rintro dots hdots rfl
        exact (hlast _ hdots).2 rfl
      rw [baseName, hstripped.2 hlast]
      exact if_neg (not_or.2 ⟨h.nonempty, not_or.2 ⟨hdot _ rfl, hdot _ rfl⟩⟩)
    have hreserved : ¬ isReservedWindowsName unicode name = true :=
      fun hreserved => h.device ((isReservedWindowsName_iff hupper name).1 hreserved)
    have hwhole : wholeName unicode name = name := by
      rw [wholeName, hnormal, hbase]
      exact if_neg hreserved
    rw [sanitizeFileName_some, hwhole, fitting_eq_length h.length_le, List.take_length,
      if_neg h.nonempty]

end Again

/-! ## Media types -/

theorem trim_trim (value : JsString) : trim (trim value) = trim value := by
  have hdrop : (trim value).dropWhile isTrimmed = trim value := by
    cases htrim : trim value with
    | nil => rfl
    | cons u rest =>
      have hu : isTrimmed u = false := @head_trim value u (by rw [htrim]; rfl)
      rw [List.dropWhile_cons_of_neg (by rw [hu]; decide)]
  rw [trim, hdrop]
  exact List.rdropWhile_idempotent _ _

theorem sanitizeMediaType_octetStream : sanitizeMediaType (some octetStream) = octetStream ∧
    utf8ByteLength octetStream ≤ maxMediaTypeBytes ∧ isPrintableAscii octetStream = true := by
  decide +kernel

/-- A sanitized media type stays what it is. -/
theorem sanitizeMediaType_again (value : Option JsString) :
    sanitizeMediaType (some (sanitizeMediaType value)) = sanitizeMediaType value := by
  have hoctet := sanitizeMediaType_octetStream.1
  cases value with
  | none => exact hoctet
  | some value =>
    by_cases h : (trim value).length = 0 ∨ utf8ByteLength (trim value) > maxMediaTypeBytes ∨
        isMediaType (trim value) = false
    · have hvalue : sanitizeMediaType (some value) = octetStream := if_pos h
      rw [hvalue, hoctet]
    · have hvalue : sanitizeMediaType (some value) = trim value := if_neg h
      rw [hvalue, sanitizeMediaType, trim_trim]
      exact if_neg h

/-- The pieces hold everything but the separators. -/
theorem flatten_splitOn (separator : UInt16 → Bool) (s : JsString) :
    (splitOn separator s).flatten = s.filter fun u => !separator u := by
  induction s with
  | nil => rfl
  | cons u s ih =>
    rw [splitOn]
    cases hu : separator u with
    | true => simpa [hu] using ih
    | false =>
      rw [if_neg Bool.false_ne_true, List.filter_cons_of_pos (by rw [hu]; rfl), ← ih]
      cases splitOn separator s with
      | nil => rfl
      | cons piece pieces => rfl

theorem isPrintable_of_isMediaTypeUnit {u : UInt16} (h : isMediaTypeUnit u = true) :
    0x20 ≤ u.toNat ∧ u.toNat ≤ 0x7e := by
  have hothers : ∀ u ∈ js "!#$&^_.+-", 0x20 ≤ u.toNat ∧ u.toNat ≤ 0x7e :=
    List.all_iff_forall_prop.1 (by decide)
  simp only [isMediaTypeUnit, isDigit, Bool.or_eq_true, Bool.and_eq_true, decide_eq_true_eq] at h
  rcases h with ((h | h) | h) | h
  · omega
  · omega
  · omega
  · exact hothers u (by simpa using h)

theorem isPrintableAscii_of_isMediaType {value : JsString} (h : isMediaType value = true) :
    isPrintableAscii value = true := by
  unfold isMediaType at h
  split at h
  · next type subtype hsplit =>
    simp only [Bool.and_eq_true, List.all_eq_true] at h
    simp only [isPrintableAscii, List.all_eq_true, Bool.and_eq_true, decide_eq_true_eq]
    intro u hu
    by_cases hslash : u = 0x2f
    · rw [hslash]
      decide
    · have hflatten := flatten_splitOn (fun u => decide (u = 0x2f)) value
      have hmem : u ∈ value.filter fun u => !decide (u = 0x2f) :=
        List.mem_filter.2 ⟨hu, by simpa using hslash⟩
      rw [← hflatten, hsplit] at hmem
      simp only [List.flatten_cons, List.flatten_nil, List.append_nil, List.mem_append] at hmem
      rcases hmem with hmem | hmem
      · exact isPrintable_of_isMediaTypeUnit (h.1.2 u hmem)
      · exact isPrintable_of_isMediaTypeUnit (h.2 u hmem)
  · cases h

/-- A sanitized media type fits and is printable. -/
theorem sanitizeMediaType_bounds (value : Option JsString) :
    utf8ByteLength (sanitizeMediaType value) ≤ maxMediaTypeBytes ∧
      isPrintableAscii (sanitizeMediaType value) = true := by
  have hoctet := sanitizeMediaType_octetStream.2
  cases value with
  | none => exact hoctet
  | some value =>
    rw [sanitizeMediaType]
    split_ifs with h
    · exact hoctet
    · simp only [not_or, not_lt, gt_iff_lt, Bool.not_eq_false] at h
      exact ⟨h.2.1, isPrintableAscii_of_isMediaType h.2.2⟩

/-! ## Offers -/

theorem requireSafeInteger_numberField {n minimum : ℕ} (hn : n ≤ JsNumber.maxSafeInteger)
    (hmin : minimum ≤ n)
    (name : String) : requireSafeInteger (some (numberField n)) name minimum = .ok n := by
  have hsafe : (JsNumber.ofNat n).isSafeInteger = true := by
    simp [JsNumber.ofNat, JsNumber.isSafeInteger, JsNumber.value?, hn]
  have hvalue : (JsNumber.ofNat n).value? = some (n : ℚ) := rfl
  simp [requireSafeInteger, numberField, hsafe, hvalue, hmin]

/-- A core that can be signed and sent. -/
structure FileOfferCore.Sendable (core : FileOfferCore) : Prop where
  transferId : isUuid core.transferId = true
  wellFormed : isWellFormed core.fileName = true
  fileName_le : utf8ByteLength core.fileName ≤ maxFileNameBytes
  mediaType_le : utf8ByteLength core.mediaType ≤ maxMediaTypeBytes
  printable : isPrintableAscii core.mediaType = true
  byteCount_le : core.byteCount ≤ maxTransferBytes

/-- The names of the fields of an offer, of its manifest and of the signed message. -/
theorem fieldNames_plain :
    (∀ name ∈ ["v", "type", "transfer_id", "file_name", "media_type", "byte_count",
      "chunk_size", "core", "signature", "file_offer"], isWellFormed (js name) = true) ∧
    (["v", "type", "transfer_id", "file_name", "media_type", "byte_count"].map js).Nodup ∧
    (["file_name", "media_type", "byte_count", "chunk_size"].map js).Nodup ∧
    (["core", "signature"].map js).Nodup := by
  decide +kernel

section Offer

variable {core : FileOfferCore} (h : core.Sendable)
include h

theorem FileOfferCore.Sendable.type_wellFormed : isWellFormed core.mediaType = true := by
  refine Handshake.isWellFormed_of_ascii fun u hu => ?_
  have hu := List.all_eq_true.1 h.printable u hu
  simp only [Bool.and_eq_true, decide_eq_true_eq] at hu
  omega

theorem FileOfferCore.Sendable.plain_byteCount : (numberField core.byteCount).Plain := by
  have hmax : maxTransferBytes ≤ JsNumber.maxSafeInteger := by decide
  exact Handshake.plain_numberField (h.byteCount_le.trans hmax)

theorem FileOfferCore.Sendable.plain : core.json.Plain := by
  obtain ⟨hname, hdistinct, -, -⟩ := fieldNames_plain
  exact ⟨hdistinct, hname "v" (by simp), Handshake.plain_numberField (by decide),
    hname "type" (by simp),
    hname "file_offer" (by simp), hname "transfer_id" (by simp),
    Handshake.isWellFormed_of_ascii (Handshake.lt_of_testAll h.transferId),
    hname "file_name" (by simp),
    h.wellFormed, hname "media_type" (by simp), h.type_wellFormed, hname "byte_count" (by simp),
    h.plain_byteCount, trivial⟩

theorem FileOfferCore.Sendable.plain_signed (signature : Bytes) :
    (signedJson core.json (encodeBase64Url signature)).Plain := by
  obtain ⟨hname, -, -, hdistinct⟩ := fieldNames_plain
  exact ⟨hdistinct, hname "core" (by simp), h.plain, hname "signature" (by simp),
    Handshake.isWellFormed_encodeBase64Url signature, trivial⟩

/-- The manifest that `parseFileOffer` makes of a core. -/
def FileOfferCore.manifest (core : FileOfferCore) : TransferManifest :=
  ⟨core.fileName, core.mediaType, core.byteCount, defaultChunkSize⟩

theorem FileOfferCore.Sendable.plain_manifest : core.manifest.json.Plain := by
  have hchunk : defaultChunkSize ≤ JsNumber.maxSafeInteger := by decide
  obtain ⟨hname, -, hdistinct, -⟩ := fieldNames_plain
  exact ⟨hdistinct, hname "file_name" (by simp), h.wellFormed, hname "media_type" (by simp),
    h.type_wellFormed, hname "byte_count" (by simp), h.plain_byteCount,
    hname "chunk_size" (by simp),
    Handshake.plain_numberField hchunk, trivial⟩

/-- The core that `parseFileOffer` returns: the name and the type are sanitized again. -/
def FileOfferCore.received (unicode : Unicode) (core : FileOfferCore) : FileOfferCore :=
  { core with
    fileName := sanitizeFileName unicode (some core.fileName)
    mediaType := sanitizeMediaType (some core.mediaType) }

/-- The manifest of an offer is read back with its name and its type sanitized. -/
theorem FileOfferCore.Sendable.parseManifest (unicode : Unicode) :
    ∃ raw, canonicalJsonBytes core.manifest.json = .ok raw ∧
      parseManifest unicode raw = .ok (core.received unicode).manifest := by
  obtain ⟨raw, hraw, hparse⟩ := parseCanonicalJson_of_plain h.plain_manifest
  refine ⟨raw, hraw, ?_⟩
  have hsort : core.manifest.json.sortNames =
    .object [(js "byte_count", numberField core.byteCount),
      (js "chunk_size", numberField defaultChunkSize), (js "file_name", .string core.fileName),
      (js "media_type", .string core.mediaType)] := rfl
  rw [hsort] at hparse
  have hmax : maxTransferBytes ≤ JsNumber.maxSafeInteger := by decide
  have hcount :=
    requireSafeInteger_numberField (h.byteCount_le.trans hmax) (Nat.zero_le _) "byte_count"
  have hchunk : requireSafeInteger (some (numberField defaultChunkSize)) "chunk_size" 1 =
      .ok defaultChunkSize :=
    requireSafeInteger_numberField (by decide) (by decide) _
  rw [SelfRelay.parseManifest, hparse]
  simp only [bind_eq_ok, throwIf_eq_ok, pure_eq_ok]
  refine ⟨_, rfl, _, rfl, (), rfl, core.fileName, rfl, (), not_lt.2 h.fileName_le,
    core.mediaType, rfl, (),
    not_lt.2 h.mediaType_le, (), by rw [h.printable]; decide, core.byteCount, hcount, (),
    not_lt.2 h.byteCount_le, defaultChunkSize, hchunk, (), by decide, rfl⟩

/-- A signed core is read back with its name and its type sanitized. -/
theorem FileOfferCore.Sendable.parseFileOffer (unicode : Unicode) {signature : Bytes}
    (hlength : signature.length = 64) :
    ∃ payload, canonicalJsonBytes (signedJson core.json (encodeBase64Url signature)) = .ok payload ∧
      parseFileOffer unicode payload =
        .ok ⟨core.received unicode, encodeBase64Url signature,
          (core.received unicode).manifest⟩ := by
  obtain ⟨payload, hpayload, hparse⟩ := parseCanonicalJson_of_plain (h.plain_signed signature)
  obtain ⟨raw, hraw, hmanifest⟩ := h.parseManifest unicode
  have hcore : core.json.sortNames = .object [(js "byte_count", numberField core.byteCount),
      (js "file_name", .string core.fileName), (js "media_type", .string core.mediaType),
      (js "transfer_id", .string core.transferId), (js "type", .string (js "file_offer")),
      (js "v", numberField 1)] := rfl
  have hsort : (signedJson core.json (encodeBase64Url signature)).sortNames =
      .object [(js "core", core.json.sortNames),
        (js "signature", .string (encodeBase64Url signature))] := rfl
  rw [hsort, hcore] at hparse
  have hsignature : requireSignature (some (.string (encodeBase64Url signature)))
      "File offer signature is invalid." = .ok (encodeBase64Url signature, signature) := by
    simp only [requireSignature, bind_eq_ok, throwIf_eq_ok, pure_eq_ok]
    exact ⟨_, rfl, signature, decodeBase64Url_encodeBase64Url hlength.le, (),
      not_not.2 hlength, rfl⟩
  have htrue : ¬ true = false := by decide
  refine ⟨payload, hpayload, ?_⟩
  rw [SelfRelay.parseFileOffer, hparse]
  simp only [bind_eq_ok, throwIf_eq_ok, pure_eq_ok]
  exact ⟨_, rfl, _, rfl, (), rfl, _, rfl, (), rfl, (), not_or.2 ⟨htrue, htrue⟩, core.transferId,
    rfl, raw, hraw,
    _, hmanifest, _, hsignature, rfl⟩

end Offer

/-! ## What can be serialised -/

/-- A check of a list succeeds on each element. -/
theorem mapM_ok {α β : Type} {f : α → Checked β} {l : List α} {bs : List β}
    (h : l.mapM f = .ok bs) :
    ∀ a ∈ l, ∃ b, f a = .ok b := by
  induction l generalizing bs with
  | nil => exact fun _ ha => absurd ha List.not_mem_nil
  | cons a l ih =>
    simp only [List.mapM_cons, bind_eq_ok, pure_eq_ok] at h
    obtain ⟨b, hb, bs', hbs, -⟩ := h
    exact List.forall_mem_cons.2 ⟨⟨b, hb⟩, ih hbs⟩

/-- Only a well-formed name can be serialised. -/
theorem FileOfferCore.wellFormed_of_canonicalJsonBytes {core : FileOfferCore} {message : Bytes}
    (h : canonicalJsonBytes core.json = .ok message) : isWellFormed core.fileName = true := by
  simp only [canonicalJsonBytes, FileOfferCore.json, canonicalJson, canonicalEntries_eq,
    bind_eq_ok] at h
  obtain ⟨_, ⟨_, hparts, -⟩, -⟩ := h
  have hmember : (js "file_name", Json.string core.fileName) ∈
      [(js "v", numberField 1), (js "type", .string (js "file_offer")),
        (js "transfer_id", .string core.transferId), (js "file_name", .string core.fileName),
        (js "media_type", .string core.mediaType),
        (js "byte_count", numberField core.byteCount)] := by
    simp
  obtain ⟨_, hwritten⟩ :=
    mapM_ok hparts _ ((List.mem_insertionSort fun a b => utf16Le a.1 b.1).2 hmember)
  simp only [canonicalJson, assertWellFormedUnicode, bind_eq_ok, throwIf_eq_ok,
    Bool.not_eq_false] at hwritten
  obtain ⟨_, _, _, ⟨_, hwellFormed, -⟩, -⟩ := hwritten
  exact hwellFormed

/-! ## Honest offers -/

/-- The core that `sendFile` builds of a file. -/
def honestCore (unicode : Unicode) (transferId name type : JsString) (size : ℕ) : FileOfferCore :=
  ⟨transferId, sanitizeFileName unicode (some name), sanitizeMediaType (some type), size⟩

theorem prepareOffer_core {unicode : Unicode} {e : Engine} {file : SourceFile} {name : JsString}
    {manifest : TransferManifest} {core : FileOfferCore}
    (h : (e.prepareOffer unicode file (some name)).2 = .signingOffer manifest core) :
    core = honestCore unicode e.options.transferId name file.type file.size := by
  unfold Engine.prepareOffer at h
  dsimp only at h
  split at h
  · cases h
  · cases h
    rfl

/-- The core can be serialised, and whatever its signature is, `handleFileOffer` verifies it on the
same bytes. -/
def FileOfferCore.Verifies (unicode : Unicode) (core : FileOfferCore) : Prop :=
  ∃ message, canonicalJsonBytes core.json = .ok message ∧
    ∀ signature : Bytes, signature.length = 64 → ∃ payload offer,
      canonicalJsonBytes (signedJson core.json (encodeBase64Url signature)) = .ok payload ∧
        parseFileOffer unicode payload = .ok offer ∧
        Engine.offerArguments offer = .ok (message, signature)

section Honest

variable {unicode : Unicode} {transferId name type : JsString} {size : ℕ}

theorem utf8ByteLength_sanitizeFileName (unicode : Unicode) (name : JsString) :
    utf8ByteLength (sanitizeFileName unicode (some name)) ≤ maxFileNameBytes := by
  rw [sanitizeFileName_some]
  split_ifs
  · decide
  · exact utf8ByteLength_fitting _ _

theorem sendable_honestCore (type : JsString) (hid : isUuid transferId = true)
    (hsize : size ≤ maxTransferBytes)
    (hname : isWellFormed (sanitizeFileName unicode (some name)) = true) :
    (honestCore unicode transferId name type size).Sendable where
  transferId := hid
  wellFormed := hname
  fileName_le := utf8ByteLength_sanitizeFileName unicode name
  mediaType_le := (sanitizeMediaType_bounds (some type)).1
  printable := (sanitizeMediaType_bounds (some type)).2
  byteCount_le := hsize

/-- An honest offer verifies if and only if the sanitized name is well formed
and stays what it is. -/
theorem verifies_iff_again (hid : isUuid transferId = true) (hsize : size ≤ maxTransferBytes) :
    (honestCore unicode transferId name type size).Verifies unicode ↔
      isWellFormed (sanitizeFileName unicode (some name)) = true ∧
        sanitizeFileName unicode (some (sanitizeFileName unicode (some name))) =
          sanitizeFileName unicode (some name) := by
  have hreceived : (honestCore unicode transferId name type size).received unicode =
      honestCore unicode transferId (sanitizeFileName unicode (some name)) type size := by
    simp only [FileOfferCore.received, honestCore, sanitizeMediaType_again]
  constructor
  · rintro ⟨message, hmessage, h⟩
    have hwellFormed := FileOfferCore.wellFormed_of_canonicalJsonBytes hmessage
    have hsendable := sendable_honestCore type hid hsize hwellFormed
    refine ⟨hwellFormed, ?_⟩
    have hlength : (List.replicate 64 (0 : UInt8)).length = 64 := List.length_replicate
    obtain ⟨payload, offer, hpayload, hparse, harguments⟩ := h _ hlength
    obtain ⟨payload', hpayload', hparse'⟩ := hsendable.parseFileOffer unicode hlength
    obtain rfl := Except.ok.inj (hpayload'.symm.trans hpayload)
    obtain rfl := Except.ok.inj (hparse'.symm.trans hparse)
    simp only [Engine.offerArguments, bind_eq_ok, pure_eq_ok, Prod.mk.injEq,
      hreceived] at harguments
    obtain ⟨_, hmessage', _, -, rfl, -⟩ := harguments
    -- the two cores have the same canonical bytes, and so the same name
    have hsendable' := sendable_honestCore type hid hsize
      (FileOfferCore.wellFormed_of_canonicalJsonBytes hmessage')
    exact Handshake.string_injective (get?_of_canonicalJsonBytes hsendable'.plain hsendable.plain
      (hmessage'.trans hmessage.symm) (js "file_name"))
  · rintro ⟨hwellFormed, hagain⟩
    have hsendable := sendable_honestCore type hid hsize hwellFormed
    obtain ⟨message, hmessage, -⟩ := canonicalJsonBytes_of_plain hsendable.plain
    refine ⟨_, hmessage, fun signature hlength => ?_⟩
    obtain ⟨payload, hpayload, hparse⟩ := hsendable.parseFileOffer unicode hlength
    refine ⟨payload, _, hpayload, hparse, ?_⟩
    have hsame : honestCore unicode transferId (sanitizeFileName unicode (some name)) type size =
        honestCore unicode transferId name type size := by
      rw [honestCore, hagain]
      rfl
    simp only [Engine.offerArguments, bind_eq_ok, pure_eq_ok, hreceived, hsame]
    exact ⟨_, hmessage, signature, decodeBase64Url_encodeBase64Url hlength.le, rfl⟩

end Honest

/-- A sanitized name is safe if it is well formed and does not end in whitespace or a dot. -/
theorem Sanitized.safeName_iff {name : JsString} (h : Sanitized name) :
    SafeName name ↔ isWellFormed name = true ∧ ∀ u ∈ name.getLast?, isTrimmed u = false ∧
      u ≠ 0x2e := by
  constructor
  · exact fun hsafe => ⟨hsafe.wellFormed, fun u hu => ⟨hsafe.trailing u hu, (hsafe.ending u hu).1⟩⟩
  · rintro ⟨hwellFormed, hlast⟩
    refine ⟨h.nonempty, hwellFormed, h.length_le, h.units, h.leading, fun u hu => (hlast u hu).1,
      ?_, h.device⟩
    intro u hu
    refine ⟨(hlast u hu).2, ?_⟩
    rintro rfl
    exact absurd (hlast _ hu).1 (by decide)

/-- If normalization leaves the sanitized name alone, then an honest offer verifies if and only if
the name was cut cleanly. -/
theorem verifies_iff_cleanCut {unicode : Unicode} (hupper : unicode.UppercasesDevices)
    {transferId name type : JsString} {size : ℕ} (hid : isUuid transferId = true)
    (hsize : size ≤ maxTransferBytes)
    (hnormal : unicode.normalizeNfkc (sanitizeFileName unicode (some name)) =
      sanitizeFileName unicode (some name)) :
    (honestCore unicode transferId name type size).Verifies unicode ↔
      CleanCut (wholeName unicode name) := by
  have halmost := almostSafe_wholeName hupper.ascii name
  have hsanitized := halmost.sanitized_take
  have hname : sanitizeFileName unicode (some name) =
      (wholeName unicode name).take (fitting maxFileNameBytes (wholeName unicode name)) := by
    rw [sanitizeFileName_some, if_neg hsanitized.nonempty]
  rw [← halmost.take_iff, verifies_iff_again hid hsize]
  rw [hname] at hnormal ⊢
  rw [hsanitized.safeName_iff, hsanitized.sanitizeFileName_iff hupper hnormal]

/-! ## Normalized names -/

/-- The normalization form of the platform: it is idempotent, a piece of a normalized string is
normalized, and so are an ASCII string and two normalized strings with an underscore between them,
which composes with nothing. -/
structure Unicode.NormalizesNfkc (unicode : Unicode) : Prop where
  idempotent : ∀ s, unicode.normalizeNfkc (unicode.normalizeNfkc s) = unicode.normalizeNfkc s
  piece : ∀ s t, s <:+: t → unicode.normalizeNfkc t = t → unicode.normalizeNfkc s = s
  ascii : ∀ s : JsString, (∀ u ∈ s, u.toNat < 0x80) → unicode.normalizeNfkc s = s
  underscore : ∀ s t, unicode.normalizeNfkc s = s → unicode.normalizeNfkc t = t →
    unicode.normalizeNfkc (s ++ 0x5f :: t) = s ++ 0x5f :: t

section Normal

variable {unicode : Unicode} (hnfkc : unicode.NormalizesNfkc)
include hnfkc

/-- Replacing forbidden units keeps a string normalized. -/
theorem normalizeNfkc_map_safeUnit {s t : JsString} (h : unicode.normalizeNfkc (s ++ t) = s ++ t) :
    unicode.normalizeNfkc (s ++ t.map safeUnit) = s ++ t.map safeUnit := by
  induction t generalizing s with
  | nil => exact h
  | cons u t ih =>
    have hpieces : unicode.normalizeNfkc s = s ∧ unicode.normalizeNfkc t = t :=
      ⟨hnfkc.piece _ _ (List.prefix_append s (u :: t)).isInfix h,
        hnfkc.piece _ _ ⟨s ++ [u], [], by simp⟩ h⟩
    by_cases hforbidden : safeUnit u = 0x5f
    · rw [List.map_cons, hforbidden]
      exact hnfkc.underscore _ _ hpieces.1 (ih (s := []) hpieces.2)
    · have hsame := eq_of_safeUnit rfl hforbidden
      rw [List.map_cons, ← hsame, ← List.singleton_append, ← List.append_assoc]
      exact ih (by simpa using h)

/-- A plain name without control characters is sanitized to a normalized name. -/
theorem normalizeNfkc_sanitizeFileName (hupper : unicode.UppercasesDevices) {name : JsString}
    (h : IsPlainName (unicode.normalizeNfkc name))
    (hcontrol : ∀ part, IsLastPart (unicode.normalizeNfkc name) part → ∀ u ∈ part,
      isControl u = false) :
    unicode.normalizeNfkc (sanitizeFileName unicode (some name)) =
      sanitizeFileName unicode (some name) := by
  set source := unicode.normalizeNfkc name with hsource
  have hbase : unicode.normalizeNfkc (baseName source) = baseName source := by
    unfold baseName
    dsimp only
    split_ifs with hempty
    · exact hnfkc.ascii _ (List.all_iff_forall_prop.1 (by decide))
    have hpart : IsLastPart source (lastComponent source) := by
      refine isLastPart_lastComponent fun hnil => hempty (.inl ?_)
      simp [strippedName, hnil, trim]
    obtain ⟨dir, rest, hsplit, -⟩ := hpart.split
    have hnormal : unicode.normalizeNfkc (lastComponent source) = lastComponent source :=
      hnfkc.piece _ _ ⟨dir, rest, hsplit.symm⟩ (hnfkc.idempotent name)
    have hkept : keptUnits (lastComponent source) = (lastComponent source).map safeUnit := by
      rw [keptUnits, List.filter_eq_self.2 fun u hu => by rw [hcontrol _ hpart u hu]; rfl]
    obtain ⟨lead, dots, trail, hstripped, -⟩ := strippedName_split source
    have hpiece : strippedName source <:+: (lastComponent source).map safeUnit :=
      ⟨lead, dots ++ trail, by rw [← hkept, hstripped]; simp⟩
    exact hnfkc.piece _ _ hpiece (normalizeNfkc_map_safeUnit hnfkc (s := []) hnormal)
  have hwhole : unicode.normalizeNfkc (wholeName unicode name) = wholeName unicode name := by
    unfold wholeName
    dsimp only
    split_ifs
    · exact hnfkc.underscore [] _ (hnfkc.ascii [] (List.forall_mem_nil _)) hbase
    · exact hbase
  have hall := fitting_eq_length (h.wholeName_spec hupper).2.1
  rw [sanitizeFileName_some, hall, List.take_length]
  split_ifs
  · exact hnfkc.ascii _ (List.all_iff_forall_prop.1 (by decide))
  · exact hwhole

end Normal

end SelfRelay
