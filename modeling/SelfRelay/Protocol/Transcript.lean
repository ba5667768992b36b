import Mathlib.Data.List.Find
import SelfRelay.Protocol.CanonicalText
import SelfRelay.Protocol.Handshake

/-!
# The handshake transcript

`transcriptBytes` joins a domain and the canonical texts of an offer and an answer by zero bytes.
No JSON text has a zero byte (`ne_zero_of_element`), so the two texts can be told apart, and each of
them gives its core back: different handshakes have different transcripts
(`transcriptBytes_injective`).
-/

namespace SelfRelay

open JsonGrammar Json

/-! ## No JSON text has a zero byte -/

namespace JsonGrammar

/-- No code unit is zero. -/
def Visible (text : JsString) : Prop := ∀ u ∈ text, u ≠ 0

theorem visible_nil : Visible [] := fun _ h => absurd h List.not_mem_nil

theorem visible_iff {text : JsString} : Visible text ↔ 0 ∉ text :=
  ⟨fun h h0 => h 0 h0 rfl, fun h _ hu h0 => h (h0 ▸ hu)⟩

theorem Visible.cons {u : UInt16} {text : JsString} (hu : u ≠ 0) (h : Visible text) :
    Visible (u :: text) := List.forall_mem_cons.2 ⟨hu, h⟩

theorem Visible.append {text rest : JsString} (h : Visible text) (h' : Visible rest) :
    Visible (text ++ rest) := List.forall_mem_append.2 ⟨h, h'⟩

/-- A text between two brackets. -/
theorem Visible.brackets {start stop : UInt16} {text : JsString} (h : Visible text)
    (hstart : start ≠ 0)
    (hstop : stop ≠ 0) : Visible (start :: text ++ [stop]) :=
  (h.cons hstart).append (visible_nil.cons hstop)

theorem visible_of_ws {text : JsString} (h : Ws text) : Visible text := by
  rintro u hu rfl
  exact absurd (h 0 hu) (by decide)

theorem visible_of_digits {text : JsString} (h : ∀ u ∈ text, isDigit u = true) : Visible text := by
  rintro u hu rfl
  exact absurd (h 0 hu) (by decide)

theorem visible_of_character {character : JsString} {u : UInt16} (h : Character character u) :
    Visible character := by
  have hhex {v : UInt16} {n : ℕ} (hv : hexUnitValue v = some n) : v ≠ 0 := by
    rintro rfl
    cases hv
  cases h with
  | unescaped hu =>
    refine visible_nil.cons ?_
    rintro rfl
    exact absurd hu (by decide)
  | escaped hletter =>
    refine (visible_nil.cons ?_).cons (by decide)
    rintro rfl
    exact absurd hletter (by rintro ⟨⟩)
  | unicode ha hb hc hd =>
    exact ((((visible_nil.cons (hhex hd)).cons (hhex hc)).cons (hhex hb)).cons (hhex ha)).cons
      (by decide) |>.cons (by decide)

theorem visible_of_stringLiteral {text value : JsString} (h : StringLiteral text value) :
    Visible text := by
  obtain ⟨hcharacters⟩ := h
  refine Visible.brackets ?_ (by decide) (by decide)
  induction hcharacters with
  | nil => exact visible_nil
  | cons hcharacter _ ih => exact (visible_of_character hcharacter).append ih

theorem visible_of_number {text : JsString} {parts : Bool × JsString × JsString × ℤ}
    (h : NumberLiteral text parts) : Visible text := by
  have hletter {e : UInt16} (he : e = 0x65 ∨ e = 0x45) : e ≠ 0 := by
    rintro rfl
    exact absurd he (by decide)
  obtain ⟨hint, hfraction, hexponent⟩ := h
  refine Visible.append ?_ ((visible_of_digits hint.digits).append (Visible.append ?_ ?_))
  · unfold sign
    split
    · exact visible_nil.cons (by decide)
    · exact visible_nil
  · cases hfraction with
    | absent => exact visible_nil
    | present h => exact (visible_of_digits h.digits).cons (by decide)
  · cases hexponent with
    | absent => exact visible_nil
    | unsigned he h => exact (visible_of_digits h.digits).cons (hletter he)
    | plus he h | minus he h =>
      exact ((visible_of_digits h.digits).cons (by decide)).cons (hletter he)

mutual

theorem visible_of_value : ∀ {text : JsString} {value : Json}, Value text value → Visible text
  | _, _, .literalNull | _, _, .literalTrue | _, _, .literalFalse => visible_iff.2 (by decide)
  | _, _, .number h => visible_of_number h
  | _, _, .string h => visible_of_stringLiteral h
  | _, _, .emptyArray h | _, _, .emptyObject h => (visible_of_ws h).brackets (by decide) (by decide)
  | _, _, .array h => (visible_of_elements h).brackets (by decide) (by decide)
  | _, _, .object h => (visible_of_members h).brackets (by decide) (by decide)

theorem visible_of_element : ∀ {text : JsString} {value : Json}, Element text value → Visible text
  | _, _, .mk hbefore h hafter =>
    (visible_of_ws hbefore).append ((visible_of_value h).append (visible_of_ws hafter))

theorem visible_of_elements : ∀ {text : JsString} {items : List Json}, Elements text items →
    Visible text
  | _, _, .single h => visible_of_element h
  | _, _, .cons h h' => (visible_of_element h).append ((visible_of_elements h').cons (by decide))

theorem visible_of_member : ∀ {text : JsString} {member : JsString × Json},
    Member text member → Visible text
  | _, _, .mk hbefore hname hafter h =>
    (visible_of_ws hbefore).append ((visible_of_stringLiteral hname).append
      ((visible_of_ws hafter).append ((visible_of_element h).cons (by decide))))

theorem visible_of_members : ∀ {text : JsString} {members : List (JsString × Json)},
    JsonGrammar.Members text members → Visible text
  | _, _, .single h => visible_of_member h
  | _, _, .cons h h' => (visible_of_member h).append ((visible_of_members h').cons (by decide))

end

end JsonGrammar

/-- A code point other than zero has no zero byte. -/
theorem utf8Sequence_ne_zero {c : ℕ} (hc : c ≠ 0) (hlt : c < 0x110000) :
    ∀ b ∈ utf8Sequence c, b ≠ 0 := by
  have hbyte {n : ℕ} (hn : n ≠ 0) (hlt : n < 256) : UInt8.ofNat n ≠ 0 := by
    intro h
    have := congrArg UInt8.toNat h
    rw [UInt8.toNat_ofNat_of_lt' hlt] at this
    exact hn this
  unfold utf8Sequence
  split_ifs with h₁ h₂ h₃ <;>
    simp only [List.mem_cons, List.not_mem_nil, or_false, forall_eq_or_imp, forall_eq]
  · exact hbyte hc (by omega)
  · exact ⟨hbyte (by omega) (by omega), hbyte (by omega) (by omega)⟩
  · exact ⟨hbyte (by omega) (by omega), hbyte (by omega) (by omega), hbyte (by omega) (by omega)⟩
  · exact ⟨hbyte (by omega) (by omega), hbyte (by omega) (by omega), hbyte (by omega) (by omega),
      hbyte (by omega) (by omega)⟩

theorem codePoints_bounds {text : JsString} (h : Visible text) :
    ∀ c ∈ codePoints text, c ≠ 0 ∧ c < 0x110000 := by
  have hunit {u : UInt16} (hu : u ≠ 0) : u.toNat ≠ 0 ∧ u.toNat < 0x110000 :=
    ⟨fun h => hu (UInt16.toNat_inj.1 h), u.toNat_lt.trans (by decide)⟩
  induction text using codePoints.induct with
  | case1 => exact fun _ h => absurd h List.not_mem_nil
  | case2 u =>
    rw [codePoints]
    exact List.forall_mem_singleton.2 (hunit (h u List.mem_cons_self))
  | case3 u v text hpair ih =>
    rw [codePoints, if_pos hpair]
    refine List.forall_mem_cons.2 ⟨?_, ih fun w hw => h w (by simp [hw])⟩
    simp only [isHighSurrogate, isLowSurrogate, Bool.and_eq_true, decide_eq_true_eq] at hpair
    omega
  | case4 u v text hpair ih =>
    rw [codePoints, if_neg hpair]
    exact List.forall_mem_cons.2 ⟨hunit (h u List.mem_cons_self),
      ih fun w hw => h w (List.mem_cons_of_mem _ hw)⟩

theorem textEncode_ne_zero {text : JsString} (h : Visible text) : ∀ b ∈ textEncode text, b ≠ 0 := by
  intro b hb
  obtain ⟨c, hc, hb⟩ := List.mem_flatMap.1 hb
  obtain ⟨hne, hlt⟩ := codePoints_bounds h c hc
  refine utf8Sequence_ne_zero ?_ ?_ b hb
  · unfold scalarValue
    split <;> omega
  · unfold scalarValue
    split <;> omega

/-- The canonical bytes of a plain value have no zero byte. -/
theorem ne_zero_of_canonicalJsonBytes {value : Json} (h : value.Plain) {bytes : Bytes}
    (hbytes : canonicalJsonBytes value = .ok bytes) : ∀ b ∈ bytes, b ≠ 0 := by
  obtain ⟨text, htext, hwrites⟩ := canonicalJsonBytes_of_plain h
  obtain rfl := Except.ok.inj (hbytes.symm.trans htext)
  exact textEncode_ne_zero (visible_of_value hwrites.1)

/-- The first zero byte separates two texts. -/
theorem eq_of_append_zero : ∀ {xs xs' ys ys' : Bytes}, (∀ b ∈ xs, b ≠ 0) → (∀ b ∈ xs', b ≠ 0) →
    xs ++ 0 :: ys = xs' ++ 0 :: ys' → xs = xs' ∧ ys = ys'
  | [], [], _, _, _, _, heq => ⟨rfl, List.tail_eq_of_cons_eq heq⟩
  | [], x :: _, _, _, _, h', heq =>
    absurd (List.head_eq_of_cons_eq heq).symm (h' x List.mem_cons_self)
  | x :: _, [], _, _, h, _, heq => absurd (List.head_eq_of_cons_eq heq) (h x List.mem_cons_self)
  | x :: xs, x' :: xs', _, _, h, h', heq => by
    obtain ⟨rfl, htail⟩ := List.cons.inj heq
    obtain ⟨rfl, hys⟩ := eq_of_append_zero (fun b hb => h b (List.mem_cons_of_mem _ hb))
      (fun b hb => h' b (List.mem_cons_of_mem _ hb)) htail
    exact ⟨rfl, hys⟩

/-! ## Reading a property back -/

/-- A property of a record can be read off the record with its members sorted. -/
theorem get?_sortNames {members : List (JsString × Json)} (h : (members.map Prod.fst).Nodup)
    (key : JsString) : (Json.object members).sortNames.get? key =
      ((Json.object members).get? key).map sortNames := by
  have hperm := List.perm_insertionSort (fun a b => utf16Le a.1 b.1) (sortNamesMembers members)
  have hnodup : ((sortNamesMembers members).map Prod.fst).Nodup := by
    rw [names_sortNamesMembers]
    exact h
  have hfind : ((sortNamesMembers members).insertionSort fun a b => utf16Le a.1 b.1).find?
      (fun m => m.1 = key) = (sortNamesMembers members).find? fun m => m.1 = key := by
    refine List.find?_eq_find?_of_perm hperm fun m hm m' hm' => ?_
    simp only [List.mem_insertionSort, decide_eq_true_eq, Set.mem_ofPred_eq] at hm hm'
    exact List.inj_on_of_nodup_map hnodup hm.1 hm'.1 (hm.2.trans hm'.2.symm)
  show (((sortNamesMembers members).insertionSort fun a b => utf16Le a.1 b.1).find?
    (fun m => m.1 = key)).map Prod.snd = _
  rw [hfind, sortNamesMembers_eq_map, List.find?_map, Option.map_map]
  show _ = ((members.find? fun m => m.1 = key).map Prod.snd).map sortNames
  rw [Option.map_map]
  rfl

/-- Plain records with the same canonical bytes agree on every property, up to
the order of members. -/
theorem get?_of_canonicalJsonBytes {members members' : List (JsString × Json)}
    (h : (Json.object members).Plain) (h' : (Json.object members').Plain)
    (heq : canonicalJsonBytes (.object members) = canonicalJsonBytes (.object members'))
    (key : JsString) : ((Json.object members).get? key).map sortNames =
      ((Json.object members').get? key).map sortNames := by
  rw [← get?_sortNames h.1, ← get?_sortNames h'.1, sortNames_of_canonicalJsonBytes h h' heq]

/-! ## The cores -/

namespace Handshake

theorem lt_of_testAll {ps : List UuidClass} {s : JsString} (h : UuidClass.testAll ps s = true) :
    ∀ u ∈ s, u.toNat < 0x80 := by
  have hclass : ∀ {p : UuidClass} {u : UInt16}, p.test u = true → u.toNat < 0x80 := by
    intro p u hu
    cases p with
    | dash =>
      rw [of_decide_eq_true hu]
      decide
    | hex | version | variant =>
      simp only [UuidClass.test, isLowerHex, Bool.or_eq_true, Bool.and_eq_true,
        decide_eq_true_eq] at hu
      omega
  induction ps generalizing s with
  | nil =>
    cases s with
    | nil => exact fun _ h => absurd h List.not_mem_nil
    | cons => cases h
  | cons p ps ih =>
    cases s with
    | nil => cases h
    | cons u s =>
      simp only [UuidClass.testAll, Bool.and_eq_true] at h
      exact List.forall_mem_cons.2 ⟨hclass h.1, ih h.2⟩

theorem isWellFormed_of_ascii {s : JsString} (h : ∀ u ∈ s, u.toNat < 0x80) :
    isWellFormed s = true :=
  isWellFormed_of_unpaired fun u hu => isUnpaired_of_lt ((h u hu).trans (by decide))

theorem isWellFormed_of_requireUuid {value : Option Json} {name : String} {s : JsString}
    (h : requireUuid value name = .ok s) : isWellFormed s = true := by
  have hs := requireUuid_again h
  simp only [requireUuid, SelfRelay.requireUuid, bind_eq_ok, throwIf_eq_ok, Bool.not_eq_false] at hs
  obtain ⟨_, huuid, -⟩ := hs
  exact isWellFormed_of_ascii (lt_of_testAll huuid)

theorem lt_of_isBase64UrlUnit {u : UInt16} (h : isBase64UrlUnit u = true) : u.toNat < 0x80 := by
  simp only [isBase64UrlUnit, Bool.or_eq_true, Bool.and_eq_true, decide_eq_true_eq] at h
  rcases h with (h | rfl) | rfl
  · omega
  · decide
  · decide

theorem isWellFormed_encodeBase64Url (bytes : Bytes) :
    isWellFormed (encodeBase64Url bytes) = true := by
  refine isWellFormed_of_ascii ?_
  rw [encodeBase64Url_eq]
  simp only [List.forall_mem_map]
  exact fun n hn => lt_of_isBase64UrlUnit (base64Unit_spec n (sextets_lt bytes n hn)).2.2.2.2

theorem isWellFormed_of_requireBase64 {value : Option Json} {name : String} {maximumBytes : ℕ}
    {length : ℕ → Bool} {s : JsString} (h : requireBase64 value name maximumBytes length = .ok s) :
    isWellFormed s = true := by
  have hs := requireBase64_again h
  simp only [requireBase64, bind_eq_ok, throwIf_eq_ok, Bool.not_eq_false] at hs
  obtain ⟨bytes, hbytes, -⟩ := hs
  simp only [decodeBase64Url, bind_eq_ok, throwIf_eq_ok, not_or, Bool.not_eq_false] at hbytes
  obtain ⟨_, _, _, ⟨hunits, -⟩, -⟩ := hbytes
  exact isWellFormed_of_ascii fun u hu => lt_of_isBase64UrlUnit (List.all_eq_true.1 hunits u hu)

theorem plain_numberField {n : ℕ} (h : n ≤ JsNumber.maxSafeInteger) : (numberField n).Plain :=
  ⟨n, by rw [JsNumber.ofNat, Int.cast_natCast], by rwa [Int.natAbs_natCast]⟩

theorem OfferFields.plain {members : Members} {core : HandshakeOfferCore}
    (h : OfferFields members core) :
    core.json.Plain := by
  have hnames : ∀ key ∈ offerKeys, isWellFormed (js key) = true := by decide +kernel
  have hversion : (numberField 1).Plain := plain_numberField (by decide)
  have htype : isWellFormed (js "handshake_offer") = true := by decide +kernel
  refine ⟨?_, hnames "v" ?_, hversion, hnames "type" ?_, htype, hnames "transfer_id" ?_,
    isWellFormed_of_requireUuid h.transferId, hnames "account_epoch" ?_,
    plain_numberField (requireSafeInteger_le h.accountEpoch), hnames "sender_device_id" ?_,
    isWellFormed_of_requireUuid h.senderDeviceId, hnames "recipient_device_id" ?_,
    isWellFormed_of_requireUuid h.recipientDeviceId, hnames "sender_ephemeral_spki" ?_,
    isWellFormed_of_requireBase64 h.senderEphemeralSpki, hnames "sender_nonce" ?_,
    isWellFormed_of_requireBase64 h.senderNonce, hnames "issued_at" ?_,
    plain_numberField (requireSafeInteger_le h.issuedAt), hnames "expires_at" ?_,
    plain_numberField (requireSafeInteger_le h.expiresAt), trivial⟩
  · show (offerKeys.map js).Nodup
    decide +kernel
  all_goals simp [offerKeys]

theorem AnswerFields.plain {members : Members} {core : HandshakeAnswerCore}
    (h : AnswerFields members core) : core.json.Plain := by
  have hnames : ∀ key ∈ answerKeys, isWellFormed (js key) = true := by decide +kernel
  have hversion : (numberField 1).Plain := plain_numberField (by decide)
  have htype : isWellFormed (js "handshake_answer") = true := by decide +kernel
  refine ⟨?_, hnames "v" ?_, hversion, hnames "type" ?_, htype, hnames "transfer_id" ?_,
    isWellFormed_of_requireUuid h.transferId, hnames "account_epoch" ?_,
    plain_numberField (requireSafeInteger_le h.accountEpoch), hnames "sender_device_id" ?_,
    isWellFormed_of_requireUuid h.senderDeviceId, hnames "recipient_device_id" ?_,
    isWellFormed_of_requireUuid h.recipientDeviceId, hnames "offer_hash" ?_,
    isWellFormed_of_requireBase64 h.offerHash, hnames "recipient_ephemeral_spki" ?_,
    isWellFormed_of_requireBase64 h.recipientEphemeralSpki, hnames "recipient_nonce" ?_,
    isWellFormed_of_requireBase64 h.recipientNonce, hnames "issued_at" ?_,
    plain_numberField (requireSafeInteger_le h.issuedAt), hnames "expires_at" ?_,
    plain_numberField (requireSafeInteger_le h.expiresAt), trivial⟩
  · show (answerKeys.map js).Nodup
    decide +kernel
  all_goals simp [answerKeys]

theorem numberField_injective {m n : ℕ}
    (h : (some (numberField m)).map sortNames = (some (numberField n)).map sortNames) : m = n := by
  have hnumber := JsNumber.finite.inj (Json.number.inj (Option.some.inj h))
  exact_mod_cast hnumber

theorem string_injective {s t : JsString}
    (h : (some (Json.string s)).map sortNames = (some (Json.string t)).map sortNames) : s = t :=
  Json.string.inj (Option.some.inj h)

variable {offer offer' : HandshakeOfferCore} {answer answer' : HandshakeAnswerCore}

/-- An offer can be read off its canonical bytes. -/
theorem offer_of_canonicalJsonBytes (h : offer.json.Plain) (h' : offer'.json.Plain)
    (heq : canonicalJsonBytes offer.json = canonicalJsonBytes offer'.json) : offer = offer' := by
  have hget := get?_of_canonicalJsonBytes h h' heq
  have htransferId := string_injective (hget (js "transfer_id"))
  have hepoch := numberField_injective (hget (js "account_epoch"))
  have hsender := string_injective (hget (js "sender_device_id"))
  have hrecipient := string_injective (hget (js "recipient_device_id"))
  have hspki := string_injective (hget (js "sender_ephemeral_spki"))
  have hnonce := string_injective (hget (js "sender_nonce"))
  have hissuedAt := numberField_injective (hget (js "issued_at"))
  have hexpiresAt := numberField_injective (hget (js "expires_at"))
  obtain ⟨⟨_, _, _, _⟩, _, _, _, _⟩ := offer
  obtain ⟨⟨_, _, _, _⟩, _, _, _, _⟩ := offer'
  simp_all

/-- An answer can be read off its canonical bytes. -/
theorem answer_of_canonicalJsonBytes (h : answer.json.Plain) (h' : answer'.json.Plain)
    (heq : canonicalJsonBytes answer.json = canonicalJsonBytes answer'.json) :
    answer = answer' := by
  have hget := get?_of_canonicalJsonBytes h h' heq
  have htransferId := string_injective (hget (js "transfer_id"))
  have hepoch := numberField_injective (hget (js "account_epoch"))
  have hsender := string_injective (hget (js "sender_device_id"))
  have hrecipient := string_injective (hget (js "recipient_device_id"))
  have hhash := string_injective (hget (js "offer_hash"))
  have hspki := string_injective (hget (js "recipient_ephemeral_spki"))
  have hnonce := string_injective (hget (js "recipient_nonce"))
  have hissuedAt := numberField_injective (hget (js "issued_at"))
  have hexpiresAt := numberField_injective (hget (js "expires_at"))
  obtain ⟨⟨_, _, _, _⟩, _, _, _, _, _⟩ := answer
  obtain ⟨⟨_, _, _, _⟩, _, _, _, _, _⟩ := answer'
  simp_all

variable {offerValue offerValue' answerValue answerValue' : Json}
  {now now' answerNow answerNow' : JsNumber}

/-- What validation accepted has a transcript, made of the canonical bytes of the two cores. -/
theorem transcriptBytes_eq_ok
    (hoffer : validateHandshakeOfferCore (some offerValue) now = .ok offer)
    (hanswer : validateHandshakeAnswerCore (some answerValue) answerNow = .ok answer) :
    offer.json.Plain ∧ answer.json.Plain ∧ ∃ offerBytes answerBytes,
      canonicalJsonBytes offer.json = .ok offerBytes ∧
        canonicalJsonBytes answer.json = .ok answerBytes ∧
      transcriptBytes offerValue answerValue =
        .ok (textEncode transcriptDomain ++ 0 :: offerBytes ++ 0 :: answerBytes) := by
  obtain ⟨members, hmembers, hfields, -⟩ := validateHandshakeOfferCore_eq_ok.1 hoffer
  obtain ⟨members', hmembers', hfields', -⟩ := validateHandshakeAnswerCore_eq_ok.1 hanswer
  obtain ⟨text, htext, -⟩ := canonicalJsonBytes_of_plain hfields.plain
  obtain ⟨text', htext', -⟩ := canonicalJsonBytes_of_plain hfields'.plain
  have hoffer' : validateHandshakeOfferCore (some offerValue) JsNumber.minSafeInteger = .ok offer :=
    validateHandshakeOfferCore_eq_ok.2 ⟨members, hmembers, hfields, isExpired_minSafeInteger _⟩
  have hanswer' : validateHandshakeAnswerCore (some answerValue) JsNumber.minSafeInteger =
      .ok answer :=
    validateHandshakeAnswerCore_eq_ok.2 ⟨members', hmembers', hfields', isExpired_minSafeInteger _⟩
  refine ⟨hfields.plain, hfields'.plain, _, _, htext, htext', ?_⟩
  rw [transcriptBytes, hoffer', ok_bind, htext, ok_bind, hanswer', ok_bind, htext']
  rfl

/-- Two accepted handshakes with the same transcript agree in every field of both messages. -/
theorem transcriptBytes_injective
    (hoffer : validateHandshakeOfferCore (some offerValue) now = .ok offer)
    (hanswer : validateHandshakeAnswerCore (some answerValue) answerNow = .ok answer)
    (hoffer' : validateHandshakeOfferCore (some offerValue') now' = .ok offer')
    (hanswer' : validateHandshakeAnswerCore (some answerValue') answerNow' = .ok answer') :
    (∃ bytes, transcriptBytes offerValue answerValue = .ok bytes) ∧
    (transcriptBytes offerValue answerValue = transcriptBytes offerValue' answerValue' →
      offer = offer' ∧ answer = answer') := by
  obtain ⟨hplain, hplain₂, offerBytes, answerBytes, hbytes, hbytes₂, htranscript⟩ :=
    transcriptBytes_eq_ok hoffer hanswer
  obtain ⟨hplain', hplain₂', offerBytes', answerBytes', hbytes', hbytes₂', htranscript'⟩ :=
    transcriptBytes_eq_ok hoffer' hanswer'
  refine ⟨⟨_, htranscript⟩, fun heq => ?_⟩
  rw [htranscript, htranscript'] at heq
  have htail : 0 :: offerBytes ++ 0 :: answerBytes = 0 :: offerBytes' ++ 0 :: answerBytes' := by
    have hall := Except.ok.inj heq
    rw [List.append_assoc, List.append_assoc] at hall
    exact List.append_cancel_left hall
  obtain ⟨rfl, rfl⟩ := eq_of_append_zero (ne_zero_of_canonicalJsonBytes hplain hbytes)
    (ne_zero_of_canonicalJsonBytes hplain' hbytes') (List.cons.inj htail).2
  exact ⟨offer_of_canonicalJsonBytes hplain hplain' (hbytes.trans hbytes'.symm),
    answer_of_canonicalJsonBytes hplain₂ hplain₂' (hbytes₂.trans hbytes₂'.symm)⟩

/-- An offer with a one-byte key and a nonce of zeros. -/
def zeroOffer (epoch : ℕ) : HandshakeOfferCore where
  transferId := js "11111111-1111-4111-8111-111111111111"
  accountEpoch := epoch
  senderDeviceId := js "22222222-2222-4222-8222-222222222222"
  recipientDeviceId := js "33333333-3333-4333-8333-333333333333"
  senderEphemeralSpki := js "AA"
  senderNonce := List.replicate 43 0x41
  issuedAt := 1
  expiresAt := 3

def zeroAnswer (epoch : ℕ) : HandshakeAnswerCore where
  toHandshakeIdentity := (zeroOffer epoch).toHandshakeIdentity
  offerHash := List.replicate 43 0x41
  recipientEphemeralSpki := js "AA"
  recipientNonce := List.replicate 43 0x41
  issuedAt := 1
  expiresAt := 3

/-- Two handshakes that differ in the account's epoch. -/
theorem transcriptBytes_injective_epoch :
    (∃ bytes, transcriptBytes (zeroOffer 1).json (zeroAnswer 1).json = .ok bytes) ∧
    transcriptBytes (zeroOffer 1).json (zeroAnswer 1).json ≠
      transcriptBytes (zeroOffer 2).json (zeroAnswer 2).json := by
  have hoffer : validateHandshakeOfferCore (some (zeroOffer 1).json) (.ofNat 2) =
      .ok (zeroOffer 1) := by
    decide +kernel
  have hanswer : validateHandshakeAnswerCore (some (zeroAnswer 1).json) (.ofNat 2) =
      .ok (zeroAnswer 1) := by decide +kernel
  have hoffer' : validateHandshakeOfferCore (some (zeroOffer 2).json) (.ofNat 2) =
      .ok (zeroOffer 2) := by
    decide +kernel
  have hanswer' : validateHandshakeAnswerCore (some (zeroAnswer 2).json) (.ofNat 2) =
      .ok (zeroAnswer 2) := by decide +kernel
  obtain ⟨hbytes, hinjective⟩ := transcriptBytes_injective hoffer hanswer hoffer' hanswer'
  exact ⟨hbytes, fun heq => absurd (hinjective heq).1 (by decide)⟩

end Handshake

end SelfRelay
