import SelfRelay.Protocol.JsonScanner

/-!
# What `parseStrictJson` accepts

`parseStrictJson_accepts`: the texts of the grammar, without a byte-order mark and with distinct
names, except that bytes may start with one byte-order mark.

The scanner of the model is bounded.  `scanValue` is the same scanner without a bound: what it
returns is shorter than the text it was called with, and so is every text that it goes on with.
`scanJsonValue_eq` says that the bound is never reached.
-/

namespace SelfRelay

open JsonGrammar

/-! ## The scanner without a bound -/

/-- What is left of a text of the given length once something has been read off its front. -/
abbrev Shorter (length : ℕ) := { rest : JsString // rest.length < length }

namespace Shorter

def weaken {m n : ℕ} (h : m ≤ n) (rest : Shorter m) : Shorter n := ⟨rest.1, rest.2.trans_le h⟩

/-- A result that is known to be shorter. -/
def attach {length : ℕ} (x : Checked JsString) (h : ∀ rest, x = .ok rest → rest.length < length) :
    Checked (Shorter length) :=
  match x, h with
  | .ok rest, h => .ok ⟨rest, h rest rfl⟩
  | .error e, _ => .error e

theorem map_attach {length : ℕ} {x : Checked JsString}
    (h : ∀ rest, x = .ok rest → rest.length < length) : (attach x h).map Subtype.val = x := by
  cases x <;> rfl

theorem map_weaken {m n : ℕ} (h : m ≤ n) (x : Checked (Shorter m)) :
    (x.map (weaken h)).map Subtype.val = x.map Subtype.val := by
  cases x <;> rfl

theorem bind_val {m n : ℕ} {x : Checked (Shorter m)} {g : JsString → Checked JsString}
    {f : Shorter m → Checked (Shorter n)} (h : ∀ rest, g rest.1 = (f rest).map Subtype.val) :
    (x.map Subtype.val >>= g) = (x >>= f).map Subtype.val := by
  cases x with
  | error e => rfl
  | ok rest => exact h rest

end Shorter

theorem lt_of_tail {text : JsString} {n : ℕ} (h : text.length < n) : text.tail.length < n := by
  rw [List.length_tail]
  omega

/-- `skipSpace` -/
def skipped (text : JsString) : { rest : JsString // rest.length ≤ text.length } :=
  ⟨skipSpace text, length_skipSpace_le text⟩

/-- A string, a keyword or a number. -/
def scanScalar (u : UInt16) (tail : JsString) : Checked JsString :=
  if u = quote then scanJsonString tail
  else if js "true" <+: u :: tail then .ok (tail.drop 3)
  else if js "false" <+: u :: tail then .ok (tail.drop 4)
  else if js "null" <+: u :: tail then .ok (tail.drop 3)
  else
    match scanNumber (u :: tail) with
    | some (_, rest) => .ok rest
    | none => .error (invalidJson "JSON value is invalid.")

theorem scanJsonString_shorter {text rest : JsString} (h : scanJsonString text = .ok rest) :
    rest.length < text.length := by
  obtain ⟨body, value, rfl, -⟩ := characters_of_scanJsonString h
  simp only [List.length_append, List.length_cons]
  omega

theorem scanScalar_shorter {u : UInt16} {tail rest : JsString} (h : scanScalar u tail = .ok rest) :
    rest.length < (u :: tail).length := by
  have hdrop : ∀ k, (tail.drop k).length < (u :: tail).length := fun k => by
    rw [List.length_drop, List.length_cons]
    omega
  unfold scanScalar at h
  split_ifs at h
  · exact (scanJsonString_shorter h).trans (Nat.lt_succ_self _)
  · cases h
    exact hdrop 3
  · cases h
    exact hdrop 4
  · cases h
    exact hdrop 3
  · split at h
    · rename_i hnumber
      cases h
      obtain ⟨number, htext, hnumber⟩ := literal_of_scanNumber hnumber
      obtain ⟨v, digits, rfl, -⟩ := hnumber.head
      rw [htext]
      simp only [List.length_append, List.length_cons]
      omega
    · cases h

mutual

/-- `scanJsonValue` -/
def scanValue (text : JsString) : Checked (Shorter text.length) :=
  match skipped text with
  | ⟨[], _⟩ => .error (invalidJson "JSON value is invalid.")
  | ⟨u :: tail, htail⟩ =>
    have htail := Nat.lt_of_succ_le htail
    have hlength := (length_skipSpace_le tail).trans_lt htail
    if u = 0x5b then
      if (skipSpace tail).head? = some 0x5d then .ok ⟨(skipSpace tail).tail, lt_of_tail hlength⟩
      else (scanItemList (skipSpace tail)).map (.weaken hlength.le)
    else if u = 0x7b then
      if (skipSpace tail).head? = some 0x7d then .ok ⟨(skipSpace tail).tail, lt_of_tail hlength⟩
      else (scanMemberList (skipSpace tail) []).map (.weaken hlength.le)
    else (Shorter.attach (scanScalar u tail) fun _ => scanScalar_shorter).map (.weaken htail)
termination_by (text.length, 0)

/-- An iteration over the items of an array. -/
def scanItemList (text : JsString) : Checked (Shorter text.length) := do
  let ⟨rest, hrest⟩ ← scanValue text
  have hend := (length_skipSpace_le rest).trans_lt hrest
  if (skipSpace rest).head? = some 0x5d then return ⟨(skipSpace rest).tail, lt_of_tail hend⟩
  else if (skipSpace rest).head? = some 0x2c then
    let others := skipSpace (skipSpace rest).tail
    have hothers : others.length < text.length := (length_skipSpace_le _).trans_lt (lt_of_tail hend)
    if others.head? = some 0x5d then .error (invalidJson "JSON array has a trailing comma.")
    else (scanItemList others).map (.weaken hothers.le)
  else .error (invalidJson "JSON array separator is invalid.")
termination_by (text.length, 1)

/-- An iteration over the members of an object. -/
def scanMemberList (text : JsString) (keys : List JsString) : Checked (Shorter text.length) :=
  match text with
  | 0x22 :: tail => do
    let ⟨keyEnd, hkeyEnd⟩ ← Shorter.attach (scanJsonString tail) fun _ => scanJsonString_shorter
    let key ← scanKey keys ((0x22 :: tail).take ((0x22 :: tail).length - keyEnd.length))
    have hcolon := (length_skipSpace_le keyEnd).trans_lt hkeyEnd
    if (skipSpace keyEnd).head? = some 0x3a then
      let ⟨rest, hrest⟩ ← scanValue (skipSpace keyEnd).tail
      have hend := ((length_skipSpace_le rest).trans_lt hrest).trans (lt_of_tail hcolon)
      if (skipSpace rest).head? = some 0x7d then
        return ⟨(skipSpace rest).tail, (lt_of_tail hend).trans (Nat.lt_succ_self _)⟩
      else if (skipSpace rest).head? = some 0x2c then
        let others := skipSpace (skipSpace rest).tail
        have hothers : others.length < tail.length + 1 :=
          ((length_skipSpace_le _).trans_lt (lt_of_tail hend)).trans (Nat.lt_succ_self _)
        if others.head? = some 0x7d then
          .error (invalidJson "JSON object has a trailing comma.")
        else
          (scanMemberList others (keys ++ [key])).map (.weaken hothers.le)
      else .error (invalidJson "JSON object separator is invalid.")
    else .error (invalidJson "JSON object separator is invalid.")
  | _ => .error (invalidJson "JSON object key is invalid.")
termination_by (text.length, 1)

end

theorem head_cases (u : UInt16) (text : JsString) :
    (∃ rest, text = u :: rest) ∨ text.head? ≠ some u := by
  by_cases h : text.head? = some u
  · exact .inl (List.head?_eq_some_iff.1 h)
  · exact .inr h

mutual

theorem scanJsonValue_eq : ∀ (fuel : ℕ) (text : JsString), 2 * text.length < fuel →
    scanJsonValue fuel text = (scanValue text).map Subtype.val
  | 0, _, hfuel => absurd hfuel (Nat.not_lt_zero _)
  | fuel + 1, text, hfuel => by
    rw [scanJsonValue, scanValue, skipped]
    generalize length_skipSpace_le text = hskip
    revert hskip
    generalize skipSpace text = start
    intro hskip
    cases start with
    | nil => rfl
    | cons u tail =>
      have hnext : 2 * (skipSpace tail).length + 1 < fuel := by
        have hle := length_skipSpace_le tail
        rw [List.length_cons] at hskip
        omega
      dsimp only
      by_cases hbracket : u = 0x5b
      · subst hbracket
        rw [if_neg (by decide), if_pos rfl, if_pos rfl]
        obtain ⟨rest, heq⟩ | hne := head_cases 0x5d (skipSpace tail)
        · simp only [heq, List.head?_cons, if_pos]
          rfl
        · rw [if_neg hne, Shorter.map_weaken, ← scanItems_eq fuel (skipSpace tail) hnext]
          split
          · rename_i heq
            exact absurd (by rw [heq]; rfl) hne
          · rfl
      by_cases hbrace : u = 0x7b
      · subst hbrace
        rw [if_neg (by decide), if_neg (by decide), if_pos rfl, if_neg (by decide), if_pos rfl]
        obtain ⟨rest, heq⟩ | hne := head_cases 0x7d (skipSpace tail)
        · simp only [heq, List.head?_cons, if_pos]
          rfl
        · rw [if_neg hne, Shorter.map_weaken, ← scanMembers_eq fuel (skipSpace tail) [] hnext]
          split
          · rename_i heq
            exact absurd (by rw [heq]; rfl) hne
          · rfl
      simp only [if_neg hbracket, if_neg hbrace]
      rw [Shorter.map_weaken, Shorter.map_attach]
      rfl

theorem scanItems_eq : ∀ (fuel : ℕ) (text : JsString), 2 * text.length + 1 < fuel →
    scanItems fuel text = (scanItemList text).map Subtype.val
  | 0, _, hfuel => absurd hfuel (Nat.not_lt_zero _)
  | fuel + 1, text, hfuel => by
    rw [scanItems, scanItemList, scanJsonValue_eq fuel text (Nat.lt_of_succ_lt_succ hfuel)]
    cases scanValue text with
    | error e => rfl
    | ok scanned =>
      obtain ⟨rest, hrest⟩ := scanned
      show (match skipSpace rest with | 0x5d :: rest => _ | 0x2c :: rest => _ | _ => _) =
        Except.map Subtype.val (if _ then _ else _)
      obtain ⟨rest', heq⟩ | hne := head_cases 0x5d (skipSpace rest)
      · simp only [heq, List.head?_cons, if_pos]
        rfl
      rw [if_neg hne]
      obtain ⟨others, heq⟩ | hne' := head_cases 0x2c (skipSpace rest)
      · obtain rfl : others = (skipSpace rest).tail := by rw [heq]; rfl
        have hothers : 2 * (skipSpace (skipSpace rest).tail).length + 1 < fuel := by
          have hle := length_skipSpace_le (skipSpace rest).tail
          have hlt := lt_of_tail ((length_skipSpace_le rest).trans_lt hrest)
          omega
        rw [if_pos (by rw [heq]; rfl)]
        conv_lhs => rw [heq]
        show (match skipSpace (skipSpace rest).tail with
          | 0x5d :: _ => _
          | rest => scanItems fuel rest) =
          Except.map Subtype.val (if _ then _ else _)
        obtain ⟨_, heq'⟩ | hne'' := head_cases 0x5d (skipSpace (skipSpace rest).tail)
        · rw [if_pos (by rw [heq']; rfl), heq']
          rfl
        · rw [if_neg hne'', Shorter.map_weaken, ← scanItems_eq fuel _ hothers]
          split
          · rename_i heq'
            exact absurd (by rw [heq']; rfl) hne''
          · rfl
      · rw [if_neg hne']
        split
        · rename_i heq
          exact absurd (by rw [heq]; rfl) hne
        · rename_i heq
          exact absurd (by rw [heq]; rfl) hne'
        · rfl

theorem scanMembers_of_head {fuel : ℕ} {text : JsString} {keys : List JsString}
    (hne : text.head? ≠ some 0x22) :
    scanMembers (fuel + 1) text keys = .error (invalidJson "JSON object key is invalid.") := by
  rw [scanMembers.eq_def]
  dsimp only
  split
  · exact absurd rfl hne
  · rfl

theorem scanMemberList_of_head {text : JsString} {keys : List JsString}
    (hne : text.head? ≠ some 0x22) :
    scanMemberList text keys = .error (invalidJson "JSON object key is invalid.") := by
  rw [scanMemberList.eq_def]
  split
  · exact absurd rfl hne
  · rfl

theorem scanMembers_eq : ∀ (fuel : ℕ) (text : JsString) (keys : List JsString),
    2 * text.length + 1 < fuel →
      scanMembers fuel text keys = (scanMemberList text keys).map Subtype.val
  | 0, _, _, hfuel => absurd hfuel (Nat.not_lt_zero _)
  | fuel + 1, text, keys, hfuel => by
    obtain ⟨tail, rfl⟩ | hne := head_cases 0x22 text
    · rw [List.length_cons] at hfuel
      rw [scanMembers.eq_def, scanMemberList.eq_def]
      dsimp only
      show (scanJsonString tail >>= _) =
        Except.map Subtype.val (Shorter.attach (scanJsonString tail) _ >>= _)
      conv_lhs => rw [← Shorter.map_attach fun _ => scanJsonString_shorter]
      refine Shorter.bind_val fun keyEnd => ?_
      obtain ⟨keyEnd, hkeyEnd⟩ := keyEnd
      dsimp only
      cases scanKey keys _ with
      | error e => rfl
      | ok key =>
        have hcolon := (length_skipSpace_le keyEnd).trans_lt hkeyEnd
        show (match skipSpace keyEnd with | 0x3a :: _ => _ | _ => _) =
          Except.map Subtype.val (if _ then _ else _)
        obtain ⟨value, heq⟩ | hne := head_cases 0x3a (skipSpace keyEnd)
        · obtain rfl : value = (skipSpace keyEnd).tail := by rw [heq]; rfl
          have hvalue : 2 * (skipSpace keyEnd).tail.length < fuel := by
            have hlt := lt_of_tail hcolon
            omega
          rw [if_pos (by rw [heq]; rfl)]
          conv_lhs => rw [heq]
          show (scanJsonValue fuel (skipSpace keyEnd).tail >>= _) = _
          rw [scanJsonValue_eq fuel _ hvalue]
          refine Shorter.bind_val fun rest => ?_
          obtain ⟨rest, hrest⟩ := rest
          have hend := ((length_skipSpace_le rest).trans_lt hrest).trans (lt_of_tail hcolon)
          show (match skipSpace rest with | 0x7d :: rest => _ | 0x2c :: rest => _ | _ => _) =
            Except.map Subtype.val (if _ then _ else _)
          obtain ⟨rest', heq⟩ | hne := head_cases 0x7d (skipSpace rest)
          · simp only [heq, List.head?_cons, if_pos]
            rfl
          rw [if_neg hne]
          obtain ⟨others, heq⟩ | hne' := head_cases 0x2c (skipSpace rest)
          · obtain rfl : others = (skipSpace rest).tail := by rw [heq]; rfl
            have hothers : 2 * (skipSpace (skipSpace rest).tail).length + 1 < fuel := by
              have hle := length_skipSpace_le (skipSpace rest).tail
              have hlt := lt_of_tail hend
              omega
            rw [if_pos (by rw [heq]; rfl)]
            conv_lhs => rw [heq]
            show (match skipSpace (skipSpace rest).tail with
                | 0x7d :: _ => _
                | rest => scanMembers fuel rest (keys ++ [key])) =
              Except.map Subtype.val (if _ then _ else _)
            obtain ⟨_, heq'⟩ | hne'' := head_cases 0x7d (skipSpace (skipSpace rest).tail)
            · rw [if_pos (by rw [heq']; rfl), heq']
              rfl
            · rw [if_neg hne'', Shorter.map_weaken, ← scanMembers_eq fuel _ (keys ++ [key]) hothers]
              split
              · rename_i heq'
                exact absurd (by rw [heq']; rfl) hne''
              · rfl
          · rw [if_neg hne']
            split
            · rename_i heq
              exact absurd (by rw [heq]; rfl) hne
            · rename_i heq
              exact absurd (by rw [heq]; rfl) hne'
            · rfl
        · rw [if_neg hne]
          split
          · rename_i heq
            exact absurd (by rw [heq]; rfl) hne
          · rfl
    · rw [scanMembers_of_head hne, scanMemberList_of_head hne]
      rfl

end

/-! ## Strings and bytes -/

/-- A JSON text without a byte-order mark in which no object has two members of one name. -/
def StrictText (text : JsString) : Prop :=
  text.head? ≠ some 0xfeff ∧ ∃ value, Text text value ∧ value.DistinctNames

/-- The argument of `parseStrictJson`. -/
inductive JsonInput where
  | text (value : JsString)
  | bytes (value : Bytes)
  deriving DecidableEq, Repr

namespace JsonInput

/-- `parseStrictJson` -/
def parseStrict : JsonInput → Checked Json
  | text value => parseStrictJsonText value
  | bytes value => parseStrictJson value

/-- The string that the argument spells; bytes that are not valid UTF-8 spell none. -/
def spelled? : JsonInput → Option JsString
  | text value => some value
  | bytes value => utf8Text value

def Accepted (input : JsonInput) : Prop := ∃ value, input.parseStrict = .ok value

/-- Bytes that start with a byte-order mark, before a text that would be accepted. -/
def Marked : JsonInput → Prop
  | text _ => False
  | bytes value => ∃ rest, utf8Text value = some (0xfeff :: rest) ∧ StrictText rest

theorem accepted_text {value : JsString} : (text value).Accepted ↔ StrictText value := by
  constructor
  · rintro ⟨json, h⟩
    obtain ⟨hmark, htext, hd⟩ := parseStrictJsonText_eq_ok.1 h
    exact ⟨hmark, json, htext, hd⟩
  · rintro ⟨hmark, json, htext, hd⟩
    exact ⟨json, parseStrictJsonText_eq_ok.2 ⟨hmark, htext, hd⟩⟩

/-- Bytes are treated as the string that the decoder makes of them. -/
theorem parseStrict_bytes {value : Bytes} {decoded : JsString}
    (h : textDecode value = some decoded) :
    (bytes value).parseStrict = (text decoded).parseStrict := by
  show parseStrictJson value = _
  rw [parseStrictJson, decodeUtf8, h]
  rfl

theorem accepted_bytes {value : Bytes} {decoded : JsString} (h : textDecode value = some decoded) :
    (bytes value).Accepted ↔ StrictText decoded := by
  rw [← accepted_text, Accepted, parseStrict_bytes h]
  rfl

theorem accepted_iff {input : JsonInput} {spelled : JsString} (h : input.spelled? = some spelled) :
    (input.Accepted ↔ StrictText spelled) ↔ ¬ input.Marked := by
  cases input with
  | text value =>
    obtain rfl := Option.some.inj h
    exact iff_of_true accepted_text not_false
  | bytes value =>
    by_cases hmark : spelled.head? = some 0xfeff
    · obtain ⟨rest, rfl⟩ := List.head?_eq_some_iff.1 hmark
      have hstrict : ¬ StrictText (0xfeff :: rest) := fun hstrict => hstrict.1 hmark
      have hmarked : (bytes value).Marked ↔ StrictText rest := by
        constructor
        · rintro ⟨rest', hrest', hstrict'⟩
          obtain rfl := (List.cons.inj (Option.some.inj (h.symm.trans hrest'))).2
          exact hstrict'
        · exact fun hstrict' => ⟨rest, h, hstrict'⟩
      rw [hmarked, ← accepted_bytes (textDecode_of_mark h), iff_false_right hstrict]
    · have hmarked : ¬ (bytes value).Marked := by
        rintro ⟨rest, hrest, -⟩
        obtain rfl := Option.some.inj (h.symm.trans hrest)
        exact hmark rfl
      exact iff_of_true (accepted_bytes (textDecode_of_utf8Text h hmark)) hmarked

end JsonInput

open JsonInput in
/-- A string is accepted exactly if it is a strict text.  So are bytes, unless a byte-order mark
stands before a strict text: the decoder drops it before the scanner can see it.  The scanner
returns on every input. -/
theorem parseStrictJson_accepts (input : JsonInput) (value : JsString) :
    (∀ spelled, input.spelled? = some spelled →
      ((input.Accepted ↔ StrictText spelled) ↔ ¬ input.Marked)) ∧
    (isWellFormed value = true →
      (((bytes (textEncode value)).Accepted ↔ (text value).Accepted) ↔
          ¬ (bytes (textEncode value)).Marked) ∧
        (value.head? ≠ some 0xfeff →
          (bytes (textEncode value)).parseStrict = (text value).parseStrict)) ∧
    ∀ fuel, 2 * value.length < fuel → scanJsonValue fuel value = (scanValue value).map
      Subtype.val := by
  refine ⟨fun spelled h => accepted_iff h, fun hvalue => ⟨?_, fun hmark => ?_⟩,
    fun fuel h => scanJsonValue_eq fuel value h⟩
  · rw [accepted_text]
    exact accepted_iff (utf8Text_textEncode hvalue)
  · exact parseStrict_bytes (textDecode_textEncode hvalue hmark)

/-- `[true]` as a string and as bytes. -/
theorem parseStrictJson_accepts_array :
    (((JsonInput.bytes (textEncode (js "[true]"))).Accepted ↔ StrictText (js "[true]")) ↔
      ¬ (JsonInput.bytes (textEncode (js "[true]"))).Marked) ∧
    (JsonInput.bytes (textEncode (js "[true]"))).parseStrict =
      (JsonInput.text (js "[true]")).parseStrict ∧
    scanJsonValue 14 (js "[true]") = (scanValue (js "[true]")).map Subtype.val :=
  ⟨(parseStrictJson_accepts (.bytes (textEncode (js "[true]"))) []).1 (js "[true]")
      (utf8Text_textEncode (by decide)),
    ((parseStrictJson_accepts (.text []) (js "[true]")).2.1 (by decide)).2 (by decide),
    (parseStrictJson_accepts (.text []) (js "[true]")).2.2 14 (by decide)⟩

/-- A byte-order mark and `[]`: the bytes are accepted, the string is not. -/
theorem parseStrictJson_accepts_mark :
    (JsonInput.bytes [0xef, 0xbb, 0xbf, 0x5b, 0x5d]).spelled? = some (0xfeff :: js "[]") ∧
      (JsonInput.bytes [0xef, 0xbb, 0xbf, 0x5b, 0x5d]).Accepted ∧ ¬ StrictText (0xfeff :: js "[]") ∧
      ¬ (JsonInput.text (0xfeff :: js "[]")).Accepted := by
  have hstrict : ¬ StrictText (0xfeff :: js "[]") := fun h => h.1 rfl
  have hspelled : (JsonInput.bytes [0xef, 0xbb, 0xbf, 0x5b, 0x5d]).spelled? =
      some (0xfeff :: js "[]") := by
    decide
  refine ⟨hspelled, ?_, hstrict, fun h => hstrict (JsonInput.accepted_text.1 h)⟩
  rw [JsonInput.accepted_bytes (textDecode_of_mark hspelled), ← JsonInput.accepted_text]
  exact ⟨.array [], rfl⟩

end SelfRelay
