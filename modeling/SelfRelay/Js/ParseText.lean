import SelfRelay.Js.Grammar

/-!
# `JSON.parse` on JSON texts

`JSON.parse` returns what a JSON text denotes (`jsonParse_of_text`), as long as no object in it has
two members of one name; of such members it keeps the last.  `parseString` and `scanNumber` read the
literals of the grammar off the front of a text (`parseString_of_characters`,
`scanNumber_of_literal`).
-/

namespace SelfRelay

namespace JsonGrammar

/-! ## Reading strings -/

theorem unescape_ne_u {letter u : UInt16} (h : unescape letter = some u) : letter ≠ 0x75 := by
  rintro rfl
  cases h

theorem parseString_quote (rest : JsString) : parseString (quote :: rest) = some ([], rest) := by
  rw [parseString.eq_def]
  exact if_pos rfl

theorem parseString_character {character : JsString} {u : UInt16} (h : Character character u)
    (rest : JsString) :
    parseString (character ++ rest) = (parseString rest).map fun p => (u :: p.1, p.2) := by
  rw [parseString.eq_def, Option.map_eq_bind]
  cases h with
  | unescaped hlow hquote hbackslash =>
    simp only [List.singleton_append, if_neg hquote, if_neg (Nat.not_lt_of_le hlow),
      if_neg hbackslash]
    rfl
  | escaped hletter =>
    simp only [List.cons_append, List.nil_append, if_neg (show backslash ≠ quote by decide),
      if_neg (show ¬ backslash.toNat < 0x20 by decide), if_pos]
    split
    · rename_i heq
      exact absurd (List.cons.inj heq).1 (unescape_ne_u hletter)
    · rename_i heq
      obtain ⟨rfl, rfl⟩ := List.cons.inj heq
      rw [hletter]
      rfl
    · rename_i heq
      cases heq
  | unicode ha hb hc hd =>
    simp only [List.cons_append, List.nil_append, if_neg (show backslash ≠ quote by decide),
      if_neg (show ¬ backslash.toNat < 0x20 by decide), if_pos, ha, hb, hc, hd]
    rfl

theorem parseString_of_characters {text value : JsString} (h : Characters text value)
    (rest : JsString) : parseString (text ++ quote :: rest) = some (value, rest) := by
  induction h with
  | nil => exact parseString_quote rest
  | cons hcharacter _ ih => rw [List.append_assoc, parseString_character hcharacter, ih]; rfl

/-! ## Reading numbers -/

theorem spanDigits_append {digits rest : JsString} (h : ∀ u ∈ digits, isDigit u = true)
    (hrest : ∀ u ∈ rest.head?, isDigit u = false) :
    spanDigits (digits ++ rest) = (digits, rest) := by
  have hnil : rest.takeWhile isDigit = [] ∧ rest.dropWhile isDigit = rest := by
    cases rest with
    | nil => exact ⟨rfl, rfl⟩
    | cons u rest => simp [hrest u rfl]
  rw [spanDigits, List.span_eq_takeWhile_dropWhile, List.takeWhile_append_of_pos h,
    List.dropWhile_append_of_pos h, hnil.1, hnil.2, List.append_nil]

theorem spanDigits_eq {text digits rest : JsString} (h : spanDigits text = (digits, rest)) :
    text = digits ++ rest ∧ ∀ u ∈ digits, isDigit u = true := by
  rw [spanDigits, List.span_eq_takeWhile_dropWhile] at h
  obtain ⟨rfl, rfl⟩ := Prod.mk.inj h
  exact ⟨List.takeWhile_append_dropWhile.symm, fun u hu => List.mem_takeWhile_imp hu⟩

/-- The parts that `scanNumber` reads one after the other. -/
def scanSign (text : JsString) : Bool × JsString :=
  match text with
  | 0x2d :: rest => (true, rest)
  | _ => (false, text)

def scanInteger (text : JsString) : Option (JsString × JsString) :=
  match text with
  | 0x30 :: rest => some ([0x30], rest)
  | _ => match spanDigits text with
    | ([], _) => none
    | (digits, rest) => some (digits, rest)

theorem scanInteger_of_ne {text : JsString} (h : ∀ rest, text = 0x30 :: rest → False) :
    scanInteger text = match spanDigits text with
      | ([], _) => none
      | (digits, rest) => some (digits, rest) := by
  unfold scanInteger
  split
  · exact (h _ rfl).elim
  · rfl

def scanFraction (text : JsString) : JsString × JsString :=
  match text with
  | 0x2e :: rest => match spanDigits rest with
    | ([], _) => ([], text)
    | (digits, rest) => (digits, rest)
  | _ => ([], text)

def scanExponentSign (text : JsString) : Bool × JsString :=
  match text with
  | 0x2d :: rest => (true, rest)
  | 0x2b :: rest => (false, rest)
  | _ => (false, text)

def scanExponent (text : JsString) : ℤ × JsString :=
  match text with
  | e :: rest =>
    if e = 0x65 ∨ e = 0x45 then
      match spanDigits (scanExponentSign rest).2 with
      | ([], _) => (0, text)
      | (digits, rest') =>
        (if (scanExponentSign rest).1 then -digitsValue digits else digitsValue digits, rest')
    else (0, text)
  | [] => (0, text)

theorem scanNumber_eq (text : JsString) : scanNumber text =
    (scanInteger (scanSign text).2).map fun int =>
      (((scanSign text).1, int.1, (scanFraction int.2).1, (scanExponent (scanFraction int.2).2).1),
        (scanExponent (scanFraction int.2).2).2) := by
  unfold scanNumber
  split
  rename_i negative text' heq
  rw [show scanSign text = (negative, text') from heq]
  dsimp only
  split
  · rfl
  · rename_i hzero
    rw [scanInteger_of_ne hzero]
    obtain ⟨_ | ⟨u, digits⟩, rest⟩ := spanDigits text' <;> rfl


theorem scanInteger_append {int rest : JsString} (h : IntegerPart int)
    (hrest : ∀ u ∈ rest.head?, isDigit u = false) :
    scanInteger (int ++ rest) = some (int, rest) := by
  obtain ⟨⟨hne, hdigits⟩, hleading⟩ := h
  unfold scanInteger
  split
  · rename_i heq
    cases int with
    | nil => exact absurd rfl hne
    | cons u int =>
      obtain rfl := (List.cons.inj heq).1
      obtain rfl : int = [] := (List.cons.inj (hleading rfl)).2
      exact congrArg _ (congrArg _ (List.cons.inj heq).2.symm)
  · rw [spanDigits_append hdigits hrest]
    cases int with
    | nil => exact absurd rfl hne
    | cons u int => rfl

theorem scanInteger_eq {text int rest : JsString} (h : scanInteger text = some (int, rest)) :
    text = int ++ rest ∧ IntegerPart int := by
  unfold scanInteger at h
  split at h
  · cases h
    exact ⟨rfl, ⟨by simp, List.forall_mem_singleton.2 rfl⟩, fun _ => rfl⟩
  · rename_i hzero
    split at h
    · cases h
    · rename_i digits rest' hne hspan
      cases h
      obtain ⟨rfl, hdigits⟩ := spanDigits_eq hspan
      refine ⟨rfl, ⟨hne, hdigits⟩, fun hleading => ?_⟩
      obtain ⟨digits, rfl⟩ := List.head?_eq_some_iff.1 hleading
      exact (hzero _ rfl).elim

theorem scanFraction_append {fraction digits rest : JsString} (h : Fraction fraction digits)
    (hdigit : ∀ u ∈ rest.head?, isDigit u = false) (hpoint : ∀ u ∈ rest.head?, u ≠ 0x2e) :
    scanFraction (fraction ++ rest) = (digits, rest) := by
  cases h with
  | absent =>
    unfold scanFraction
    split
    · rename_i heq
      exact absurd rfl (hpoint 0x2e (by rw [show rest = _ from heq]; rfl))
    · rfl
  | present hdigits =>
    obtain ⟨hne, hdigits⟩ := hdigits
    show (match spanDigits (digits ++ rest) with | ([], _) => _ | (digits, rest) => _) = _
    rw [spanDigits_append hdigits hdigit]
    cases digits with
    | nil => exact absurd rfl hne
    | cons u digits => rfl

theorem scanFraction_eq (text : JsString) :
    ∃ fraction, text = fraction ++ (scanFraction text).2 ∧
      Fraction fraction (scanFraction text).1 := by
  unfold scanFraction
  split
  · rename_i rest
    split
    · exact ⟨[], rfl, .absent⟩
    · rename_i digits rest' hne hspan
      obtain ⟨rfl, hdigits⟩ := spanDigits_eq hspan
      exact ⟨0x2e :: digits, rfl, .present ⟨hne, hdigits⟩⟩
  · exact ⟨[], rfl, .absent⟩

theorem scanExponentSign_eq (text : JsString) :
    ((scanExponentSign text).1 = true ∧ text = 0x2d :: (scanExponentSign text).2) ∨
      (scanExponentSign text).1 = false ∧
        (text = 0x2b :: (scanExponentSign text).2 ∨ text = (scanExponentSign text).2) := by
  unfold scanExponentSign
  split
  · exact .inl ⟨rfl, rfl⟩
  · exact .inr ⟨rfl, .inl rfl⟩
  · exact .inr ⟨rfl, .inr rfl⟩

theorem scanExponentSign_digits {digits rest : JsString} (h : Digits digits) :
    scanExponentSign (digits ++ rest) = (false, digits ++ rest) := by
  obtain ⟨hne, hdigits⟩ := h
  cases digits with
  | nil => exact absurd rfl hne
  | cons u digits =>
    have hu : isDigit u = true := hdigits u List.mem_cons_self
    unfold scanExponentSign
    split
    · rename_i heq
      obtain rfl := (List.cons.inj heq).1
      cases hu
    · rename_i heq
      obtain rfl := (List.cons.inj heq).1
      cases hu
    · rfl

theorem scanExponent_digits {e : UInt16} {text digits rest : JsString} {negative : Bool}
    (he : e = 0x65 ∨ e = 0x45) (hsign : scanExponentSign text = (negative, digits ++ rest))
    (hdigits : Digits digits) (hrest : ∀ u ∈ rest.head?, isDigit u = false) :
    scanExponent (e :: text) =
      (if negative then -(digitsValue digits : ℤ) else digitsValue digits, rest) := by
  obtain ⟨hne, hdigits⟩ := hdigits
  rw [scanExponent.eq_def]
  dsimp only
  rw [if_pos he, hsign, spanDigits_append hdigits hrest]
  cases digits with
  | nil => exact absurd rfl hne
  | cons u digits => rfl

theorem scanExponent_append {exponent rest : JsString} {e : ℤ} (h : Exponent exponent e)
    (hrest : NumberEnds rest) : scanExponent (exponent ++ rest) = (e, rest) := by
  cases h with
  | absent =>
    cases rest with
    | nil => rfl
    | cons u rest =>
      obtain ⟨-, -, he, hE⟩ := hrest u rfl
      exact if_neg (by simp [he, hE])
  | unsigned he hdigits =>
    exact scanExponent_digits he (scanExponentSign_digits hdigits) hdigits hrest.digit
  | @plus _ digits he hdigits =>
    exact scanExponent_digits he (by rfl : _ = (false, digits ++ rest)) hdigits hrest.digit
  | @minus _ digits he hdigits =>
    exact scanExponent_digits he (by rfl : _ = (true, digits ++ rest)) hdigits hrest.digit

theorem scanExponent_eq (text : JsString) :
    ∃ exponent, text = exponent ++ (scanExponent text).2 ∧
      Exponent exponent (scanExponent text).1 := by
  cases text with
  | nil => exact ⟨[], rfl, .absent⟩
  | cons e rest =>
    rw [scanExponent.eq_def]
    dsimp only
    by_cases he : e = 0x65 ∨ e = 0x45
    · rw [if_pos he]
      split
      · exact ⟨[], rfl, .absent⟩
      · rename_i digits rest' hne hspan
        obtain ⟨hrest, hdigits⟩ := spanDigits_eq hspan
        have hdigits : Digits digits := ⟨hne, hdigits⟩
        obtain ⟨hsign, htext⟩ | ⟨hsign, htext | htext⟩ := scanExponentSign_eq rest
        · rw [hsign]
          exact ⟨e :: 0x2d :: digits, by rw [htext, hrest]; rfl, .minus he hdigits⟩
        · rw [hsign]
          exact ⟨e :: 0x2b :: digits, by rw [htext, hrest]; rfl, .plus he hdigits⟩
        · rw [hsign]
          exact ⟨e :: digits, by rw [htext, hrest]; rfl, .unsigned he hdigits⟩
    · rw [if_neg he]
      exact ⟨[], rfl, .absent⟩

/-! ### The whole number -/

theorem scanSign_append (negative : Bool) {text : JsString} (h : text.head? ≠ some 0x2d) :
    scanSign (sign negative ++ text) = (negative, text) := by
  cases negative with
  | true => rfl
  | false =>
    show scanSign text = (false, text)
    unfold scanSign
    split
    · exact absurd rfl h
    · rfl

theorem scanSign_eq (text : JsString) : text = sign (scanSign text).1 ++ (scanSign text).2 := by
  unfold scanSign
  split <;> rfl

theorem Digits.head_ne {digits rest : JsString} (h : Digits digits) {u : UInt16}
    (hu : isDigit u = false) : (digits ++ rest).head? ≠ some u := by
  obtain ⟨hne, hdigits⟩ := h
  cases digits with
  | nil => exact absurd rfl hne
  | cons v digits =>
    intro heq
    obtain rfl := Option.some.inj heq
    exact Bool.false_ne_true (hu.symm.trans (hdigits v List.mem_cons_self))

theorem Fraction.follows {fraction digits rest : JsString} (h : Fraction fraction digits)
    (hrest : ∀ u ∈ rest.head?, isDigit u = false) :
    ∀ u ∈ (fraction ++ rest).head?, isDigit u = false := by
  cases h with
  | absent => exact hrest
  | present =>
    rintro u ⟨⟩
    decide

theorem Exponent.follows {exponent rest : JsString} {e : ℤ} (h : Exponent exponent e)
    (hrest : NumberEnds rest) :
    ∀ u ∈ (exponent ++ rest).head?, isDigit u = false ∧ u ≠ 0x2e := by
  cases h with
  | absent => exact fun u hu => ⟨(hrest u hu).1, (hrest u hu).2.1⟩
  | unsigned he | plus he | minus he =>
    rintro u ⟨⟩
    rcases he with rfl | rfl <;> decide

theorem scanNumber_of_literal {text : JsString} {parts : Bool × JsString × JsString × ℤ}
    (h : NumberLiteral text parts) {rest : JsString} (hrest : NumberEnds rest) :
    scanNumber (text ++ rest) = some (parts, rest) := by
  cases h with
  | @mk negative int fraction digits exponent e hint hfraction hexponent =>
    have hfollows := hexponent.follows hrest
    have hinteger := scanInteger_append hint (hfraction.follows fun u hu => (hfollows u hu).1)
    have hfrac := scanFraction_append hfraction (fun u hu => (hfollows u hu).1)
      fun u hu => (hfollows u hu).2
    rw [scanNumber_eq]
    simp only [List.append_assoc]
    rw [scanSign_append negative (hint.head_ne (by decide)), hinteger, Option.map_some, hfrac,
      scanExponent_append hexponent hrest]

theorem literal_of_scanNumber {text rest : JsString} {parts : Bool × JsString × JsString × ℤ}
    (h : scanNumber text = some (parts, rest)) :
    ∃ number, text = number ++ rest ∧ NumberLiteral number parts := by
  rw [scanNumber_eq] at h
  obtain ⟨⟨int, text'⟩, hint, heq⟩ := Option.map_eq_some_iff.1 h
  obtain ⟨hsplit, hint⟩ := scanInteger_eq hint
  obtain ⟨fraction, hfraction, hfraction'⟩ := scanFraction_eq text'
  obtain ⟨exponent, hexponent, hexponent'⟩ := scanExponent_eq (scanFraction text').2
  obtain ⟨rfl, rfl⟩ := Prod.mk.inj heq
  refine ⟨_, ?_, .mk hint hfraction' hexponent'⟩
  simp only [List.append_assoc]
  rw [← hexponent, ← hfraction, ← hsplit]
  exact scanSign_eq text

/-! ## Reading values -/

theorem parseValue_skipSpace (fuel : ℕ) (text : JsString) :
    parseValue fuel (skipSpace text) = parseValue fuel text := by
  cases fuel with
  | zero => rfl
  | succ fuel => rw [parseValue, parseValue, skipSpace_skipSpace]

theorem parseItems_skipSpace (fuel : ℕ) (text : JsString) :
    parseItems fuel (skipSpace text) = parseItems fuel text := by
  cases fuel with
  | zero => rfl
  | succ fuel => rw [parseItems, parseItems, parseValue_skipSpace]

theorem parseMembers_skipSpace (fuel : ℕ) (text : JsString) (members : List (JsString × Json)) :
    parseMembers fuel (skipSpace text) members = parseMembers fuel text members := by
  cases fuel with
  | zero => rfl
  | succ fuel => rw [parseMembers, parseMembers, skipSpace_skipSpace]

theorem setMember_of_not_mem {key : JsString} (value : Json) {members : List (JsString × Json)}
    (h : key ∉ members.map Prod.fst) : setMember key value members = members ++ [(key, value)] := by
  induction members with
  | nil => rfl
  | cons member members ih =>
    rw [List.map_cons, List.mem_cons, not_or] at h
    rw [setMember, if_neg (Ne.symm h.1), ih h.2]
    rfl

theorem parseValue_cons {fuel : ℕ} {u : UInt16} (hu : isJsonSpace u = false) (text : JsString) :
    parseValue (fuel + 1) (u :: text) =
      if u = quote then (parseString text).map fun p => (.string p.1, p.2)
      else if u = 0x5b then
        match skipSpace text with
        | 0x5d :: rest => some (.array [], rest)
        | rest => (parseItems fuel rest).map fun p => (.array p.1, p.2)
      else if u = 0x7b then
        match skipSpace text with
        | 0x7d :: rest => some (.object [], rest)
        | rest => (parseMembers fuel rest []).map fun p => (.object p.1, p.2)
      else if u = 0x74 then (stripKeyword (js "true") (u :: text)).map fun rest =>
        (.bool true, rest)
      else if u = 0x66 then (stripKeyword (js "false") (u :: text)).map fun rest =>
        (.bool false, rest)
      else if u = 0x6e then (stripKeyword (js "null") (u :: text)).map fun rest => (.null, rest)
      else (scanNumber (u :: text)).map fun p => (.number (numberValue p.1), p.2) := by
  unfold parseValue
  have hskip : skipSpace (u :: text) = u :: text := skipSpace_cons hu text
  split <;> rename_i heq <;> rw [hskip] at heq <;> cases heq
  rfl

theorem parseValue_array {fuel : ℕ} {text : JsString} (h : (skipSpace text).head? ≠ some 0x5d) :
    parseValue (fuel + 1) (0x5b :: text) =
      (parseItems fuel text).map fun p => (.array p.1, p.2) := by
  rw [parseValue_cons (by decide), if_neg (by decide), if_pos rfl, ← parseItems_skipSpace]
  split
  · rename_i heq
    exact absurd (by rw [heq]; rfl) h
  · rfl

theorem parseValue_object {fuel : ℕ} {text : JsString} (h : (skipSpace text).head? ≠ some 0x7d) :
    parseValue (fuel + 1) (0x7b :: text) =
      (parseMembers fuel text []).map fun p => (.object p.1, p.2) := by
  rw [parseValue_cons (by decide), if_neg (by decide), if_neg (by decide), if_pos rfl,
    ← parseMembers_skipSpace]
  split
  · rename_i heq
    exact absurd (by rw [heq]; rfl) h
  · rfl

theorem parseValue_number {fuel : ℕ} {text : JsString} {u : UInt16}
    (hu : u = 0x2d ∨ isDigit u = true) : parseValue (fuel + 1) (u :: text) =
      (scanNumber (u :: text)).map fun p => (.number (numberValue p.1), p.2) := by
  rw [parseValue_cons (numberHead_space hu), if_neg (numberHead_ne hu (by decide)),
    if_neg (numberHead_ne hu (by decide)), if_neg (numberHead_ne hu (by decide)),
    if_neg (numberHead_ne hu (by decide)), if_neg (numberHead_ne hu (by decide)),
    if_neg (numberHead_ne hu (by decide))]

/-- A member up to its value. -/
theorem parseMembers_name {before name after key : JsString} (hbefore : Ws before)
    (hname : StringLiteral name key) (hafter : Ws after) (fuel : ℕ) (text : JsString)
    (members : List (JsString × Json)) :
    parseMembers (fuel + 1) (before ++ (name ++ (after ++ 0x3a :: text))) members =
      (parseValue fuel text).bind fun p =>
        match skipSpace p.2 with
        | 0x7d :: rest => some (setMember key p.1 members, rest)
        | 0x2c :: rest => parseMembers fuel rest (setMember key p.1 members)
        | _ => none := by
  cases hname with
  | @mk name key hname =>
    have hstart : skipSpace (before ++ (quote :: name ++ [quote] ++ (after ++ 0x3a :: text))) =
        0x22 :: (name ++ quote :: (after ++ 0x3a :: text)) := by
      rw [skipSpace_append hbefore, List.append_assoc, List.cons_append, skipSpace_cons (by decide)]
      rfl
    have hcolon : skipSpace (after ++ 0x3a :: text) = 0x3a :: text := by
      rw [skipSpace_append hafter, skipSpace_cons (by decide)]
    rw [parseMembers, hstart]
    simp only [parseString_of_characters hname, Option.bind_eq_bind, Option.bind_some, hcolon]
    rfl

theorem length_lt_fuel {u : UInt16} {text : JsString} {fuel : ℕ}
    (h : 2 * (u :: text).length < fuel + 1) : 2 * text.length + 1 < fuel := by
  rw [List.length_cons] at h
  omega

theorem not_mem_of_nodup_append {key : JsString} {value : Json} {before : List (JsString × Json)}
    (h : ((before ++ [(key, value)]).map Prod.fst).Nodup) : key ∉ before.map Prod.fst := by
  rw [List.map_append, List.map_singleton] at h
  exact fun hmem => List.disjoint_of_nodup_append h hmem List.mem_cons_self

mutual

theorem parseValue_of_value : ∀ {text : JsString} {value : Json}, Value text value →
    value.DistinctNames → ∀ (rest : JsString) {fuel : ℕ}, NumberEnds rest →
    2 * (text ++ rest).length < fuel → parseValue fuel (text ++ rest) = some (value, rest)
  | _, _, _, _, _, 0, _, hfuel => absurd hfuel (Nat.not_lt_zero _)
  | _, _, .literalNull, _, _, _ + 1, _, _ => rfl
  | _, _, .literalTrue, _, _, _ + 1, _, _ => rfl
  | _, _, .literalFalse, _, _, _ + 1, _, _ => rfl
  | _, _, .number h, _, rest, fuel + 1, hrest, _ => by
    obtain ⟨u, tail, rfl, hu⟩ := h.head
    rw [List.cons_append, parseValue_number hu, ← List.cons_append, scanNumber_of_literal h hrest]
    rfl
  | _, _, .string (.mk h), _, rest, fuel + 1, _, _ => by
    rw [List.append_assoc, List.cons_append, parseValue_cons (by decide), if_pos rfl,
      List.singleton_append, parseString_of_characters h]
    rfl
  | _, _, .emptyArray h, _, rest, fuel + 1, _, _ => by
    rw [List.append_assoc, List.cons_append, parseValue_cons (by decide), if_neg (by decide),
      if_pos rfl, List.singleton_append, skipSpace_append h, skipSpace_cons (by decide)]
    rfl
  | _, _, .array h, hd, rest, fuel + 1, _, hfuel => by
    rw [List.append_assoc, List.cons_append, List.singleton_append] at hfuel ⊢
    have hitems := parseItems_of_elements h hd rest (length_lt_fuel hfuel)
    rw [parseValue_array (h.skipSpace_head _), hitems]
    rfl
  | _, _, .emptyObject h, _, rest, fuel + 1, _, _ => by
    rw [List.append_assoc, List.cons_append, parseValue_cons (by decide), if_neg (by decide),
      if_neg (by decide), if_pos rfl, List.singleton_append, skipSpace_append h,
      skipSpace_cons (by decide)]
    rfl
  | _, _, .object h, hd, rest, fuel + 1, _, hfuel => by
    rw [List.append_assoc, List.cons_append, List.singleton_append] at hfuel ⊢
    have hmembers := parseMembers_of_members h hd.2 rest [] hd.1 (length_lt_fuel hfuel)
    rw [parseValue_object (h.skipSpace_head _), hmembers]
    rfl

theorem parseValue_of_element : ∀ {text : JsString} {value : Json}, Element text value →
    value.DistinctNames → ∀ (rest : JsString) {fuel : ℕ}, NumberEnds rest →
    2 * (text ++ rest).length < fuel →
    ∃ after, Ws after ∧ parseValue fuel (text ++ rest) = some (value, after ++ rest)
  | _, _, @Element.mk before text after _ hbefore hvalue hafter, hd, rest, fuel, hrest, hfuel => by
    refine ⟨after, hafter, ?_⟩
    rw [← parseValue_skipSpace, List.append_assoc, List.append_assoc,
      hvalue.skipSpace_append hbefore]
    refine parseValue_of_value hvalue hd (after ++ rest) (.append hafter hrest) ?_
    simp only [List.length_append] at hfuel ⊢
    omega

theorem parseItems_of_elements : ∀ {text : JsString} {items : List Json}, Elements text items →
    Json.DistinctNamesItems items → ∀ (rest : JsString) {fuel : ℕ},
    2 * (text ++ 0x5d :: rest).length + 1 < fuel →
    parseItems fuel (text ++ 0x5d :: rest) = some (items, rest)
  | _, _, _, _, _, 0, hfuel => absurd hfuel (Nat.not_lt_zero _)
  | _, _, .single h, hd, rest, fuel + 1, hfuel => by
    obtain ⟨after, hafter, hparse⟩ :=
      parseValue_of_element h hd.1 (0x5d :: rest) (.of_punctuation (by decide))
        (Nat.lt_of_succ_lt_succ hfuel)
    rw [parseItems, hparse]
    simp only [Option.bind_eq_bind, Option.bind_some, skipSpace_append hafter,
      skipSpace_cons (show isJsonSpace 0x5d = false by decide)]
    rfl
  | _, _, @Elements.cons text others _ _ h hs, hd, rest, fuel + 1, hfuel => by
    rw [List.append_assoc, List.cons_append] at hfuel ⊢
    obtain ⟨after, hafter, hparse⟩ :=
      parseValue_of_element h hd.1 (0x2c :: (others ++ 0x5d :: rest)) (.of_punctuation (by decide))
        (Nat.lt_of_succ_lt_succ hfuel)
    have hrest : 2 * (others ++ 0x5d :: rest).length + 1 < fuel := by
      simp only [List.length_append, List.length_cons] at hfuel ⊢
      omega
    have hitems := parseItems_of_elements hs hd.2 rest hrest
    rw [parseItems, hparse]
    simp only [Option.bind_eq_bind, Option.bind_some, skipSpace_append hafter,
      skipSpace_cons (show isJsonSpace 0x2c = false by decide)]
    rw [hitems]
    rfl

theorem parseMembers_of_members : ∀ {text : JsString} {members : List (JsString × Json)},
    Members text members → Json.DistinctNamesMembers members →
    ∀ (rest : JsString) (before : List (JsString × Json)) {fuel : ℕ},
    ((before ++ members).map Prod.fst).Nodup → 2 * (text ++ 0x7d :: rest).length + 1 < fuel →
    parseMembers fuel (text ++ 0x7d :: rest) before = some (before ++ members, rest)
  | _, _, _, _, _, _, 0, _, hfuel => absurd hfuel (Nat.not_lt_zero _)
  | _, _, .single (@Member.mk space name space' text key value hbefore hname hafter h), hd, rest,
      before, fuel + 1, hnodup, hfuel => by
    simp only [List.append_assoc, List.cons_append] at hfuel ⊢
    have hvalue : 2 * (text ++ 0x7d :: rest).length < fuel := by
      simp only [List.length_append, List.length_cons] at hfuel ⊢
      omega
    obtain ⟨after, hafter', hparse⟩ :=
      parseValue_of_element h hd.1 (0x7d :: rest) (.of_punctuation (by decide)) hvalue
    rw [parseMembers_name hbefore hname hafter, hparse, Option.bind_some]
    dsimp only
    rw [skipSpace_append hafter', skipSpace_cons (by decide),
      setMember_of_not_mem value (not_mem_of_nodup_append hnodup)]
    rfl
  | _, _, @Members.cons _ others _ members
      (@Member.mk space name space' text key value hbefore hname hafter h) hs,
      hd, rest, before, fuel + 1, hnodup, hfuel => by
    simp only [List.append_assoc, List.cons_append] at hfuel ⊢
    have hvalue : 2 * (text ++ 0x2c :: (others ++ 0x7d :: rest)).length < fuel := by
      simp only [List.length_append, List.length_cons] at hfuel ⊢
      omega
    obtain ⟨after, hafter', hparse⟩ :=
      parseValue_of_element h hd.1 (0x2c :: (others ++ 0x7d :: rest)) (.of_punctuation (by decide))
        hvalue
    have hrest : 2 * (others ++ 0x7d :: rest).length + 1 < fuel := by
      simp only [List.length_append, List.length_cons] at hfuel ⊢
      omega
    rw [List.append_cons] at hnodup
    have hfirst : ((before ++ [(key, value)]).map Prod.fst).Nodup := hnodup.sublist (by simp)
    have hmembers := parseMembers_of_members hs hd.2 rest (before ++ [(key, value)]) hnodup hrest
    rw [parseMembers_name hbefore hname hafter, hparse, Option.bind_some]
    dsimp only
    rw [skipSpace_append hafter', skipSpace_cons (by decide),
      setMember_of_not_mem value (not_mem_of_nodup_append hfirst)]
    rw [List.append_assoc] at hmembers
    exact hmembers

end

/-- A JSON text with distinct names is parsed to what it denotes. -/
theorem jsonParse_of_text {text : JsString} {value : Json} (h : Text text value)
    (hd : value.DistinctNames) : jsonParse text = some value := by
  have hfuel : 2 * (text ++ []).length < 2 * text.length + 2 := by simp
  obtain ⟨after, hafter, hparse⟩ := parseValue_of_element h hd [] (by rintro _ ⟨⟩) hfuel
  rw [List.append_nil, List.append_nil] at hparse
  have hend : skipSpace after = [] := List.dropWhile_eq_nil_iff.2 hafter
  rw [jsonParse, hparse, Option.bind_eq_bind, Option.bind_some]
  dsimp only
  rw [hend]
  rfl

end JsonGrammar

end SelfRelay
