import SelfRelay.Js.ParseText
import SelfRelay.Protocol.CanonicalJson

/-!
# The JSON scanner

`scanJsonValue` accepts a text exactly if a JSON value with distinct names stands in front of the
rest that it returns: it accepts what the grammar derives (`scanJsonValue_of_value`) and nothing
else (`value_of_scanJsonValue`).  With `JSON.parse` on the same text this says when
`parseStrictJson` accepts a string, and what it returns (`parseStrictJsonText_eq_ok`).
-/

namespace SelfRelay

namespace JsonGrammar

/-! ## Strings -/

theorem contains_escapes (letter : UInt16) :
    (js "\"\\/bfnrt").contains letter = (unescape letter).isSome := by
  have hjs : js "\"\\/bfnrt" = [quote, backslash, 0x2f, 0x62, 0x66, 0x6e, 0x72, 0x74] := by decide
  rw [hjs]
  unfold unescape
  split_ifs <;> simp_all

theorem scanJsonString_character {character : JsString} {u : UInt16} (h : Character character u)
    (rest : JsString) : scanJsonString (character ++ rest) = scanJsonString rest := by
  rw [scanJsonString.eq_def]
  cases h with
  | unescaped hlow hquote hbackslash =>
    simp only [List.singleton_append, if_neg hquote, if_neg (Nat.not_lt_of_le hlow),
      if_neg hbackslash]
  | @escaped letter u hletter =>
    have hcontains : (js "\"\\/bfnrt").contains letter = true := by
      rw [contains_escapes, hletter]
      rfl
    simp only [List.cons_append, List.nil_append, if_neg (show backslash ≠ quote by decide),
      if_neg (show ¬ backslash.toNat < 0x20 by decide), if_pos, if_neg (unescape_ne_u hletter),
      hcontains]
  | unicode ha hb hc hd =>
    simp only [List.cons_append, List.nil_append, if_neg (show backslash ≠ quote by decide),
      if_neg (show ¬ backslash.toNat < 0x20 by decide), if_pos]
    simp [ha, hb, hc, hd]

theorem scanJsonString_of_characters {text value : JsString} (h : Characters text value)
    (rest : JsString) : scanJsonString (text ++ quote :: rest) = .ok rest := by
  induction h with
  | nil =>
    rw [scanJsonString.eq_def]
    exact if_pos rfl
  | cons hcharacter _ ih => rw [List.append_assoc, scanJsonString_character hcharacter, ih]

theorem characters_of_scanJsonString {text rest : JsString} (h : scanJsonString text = .ok rest) :
    ∃ body value, text = body ++ quote :: rest ∧ Characters body value := by
  fun_induction scanJsonString text with
  | case2 =>
    cases h
    exact ⟨[], [], rfl, .nil⟩
  | case5 a b c d text hhex _ _ ih =>
    obtain ⟨body, value, rfl, hbody⟩ := ih h
    simp only [List.all_cons, List.all_nil, Bool.and_true, Bool.and_eq_true,
      Option.isSome_iff_exists] at hhex
    obtain ⟨⟨k, ha⟩, ⟨l, hb⟩, ⟨m, hc⟩, ⟨n, hd⟩⟩ := hhex
    exact ⟨_, _, rfl, .cons (.unicode ha hb hc hd) hbody⟩
  | case8 escape text _ hescape _ _ ih =>
    obtain ⟨body, value, rfl, hbody⟩ := ih h
    rw [contains_escapes] at hescape
    obtain ⟨u, hu⟩ := Option.isSome_iff_exists.1 hescape
    exact ⟨_, _, rfl, .cons (.escaped hu) hbody⟩
  | case10 u text hquote hlow hbackslash ih =>
    obtain ⟨body, value, rfl, hbody⟩ := ih h
    exact ⟨_, _, rfl, .cons (.unescaped (Nat.le_of_not_lt hlow) hquote hbackslash) hbody⟩
  | case1 | case3 | case4 | case6 | case7 | case9 => cases h

theorem scanKey_of_literal {literal key : JsString} (h : StringLiteral literal key)
    (keys : List JsString) : scanKey keys literal =
      if key ∈ keys then
        .error (protocolError "JSON object contains duplicate keys." "duplicate_json_key")
      else .ok key := by
  have hparse : jsonParse literal = some (.string key) := by
    have htext : Text ([] ++ (literal ++ [])) (.string key) := .mk nofun (.string h) nofun
    rw [List.append_nil] at htext
    exact jsonParse_of_text htext trivial
  rw [scanKey, hparse]

/-! ## What the scanner accepts -/

theorem scanJsonValue_cons {fuel : ℕ} {u : UInt16} (hu : isJsonSpace u = false) (text : JsString) :
    scanJsonValue (fuel + 1) (u :: text) =
      if u = quote then scanJsonString text
      else if u = 0x5b then
        match skipSpace text with
        | 0x5d :: rest => .ok rest
        | rest => scanItems fuel rest
      else if u = 0x7b then
        match skipSpace text with
        | 0x7d :: rest => .ok rest
        | rest => scanMembers fuel rest []
      else if js "true" <+: u :: text then .ok (text.drop 3)
      else if js "false" <+: u :: text then .ok (text.drop 4)
      else if js "null" <+: u :: text then .ok (text.drop 3)
      else
        match scanNumber (u :: text) with
        | some (_, rest) => .ok rest
        | none => .error (invalidJson "JSON value is invalid.") := by
  unfold scanJsonValue
  have hskip : skipSpace (u :: text) = u :: text := skipSpace_cons hu text
  split <;> rename_i heq <;> rw [hskip] at heq <;> cases heq
  rfl

theorem scanJsonValue_skipSpace (fuel : ℕ) (text : JsString) :
    scanJsonValue fuel (skipSpace text) = scanJsonValue fuel text := by
  cases fuel with
  | zero => rfl
  | succ fuel => rw [scanJsonValue, scanJsonValue, skipSpace_skipSpace]

theorem scanItems_skipSpace (fuel : ℕ) (text : JsString) :
    scanItems fuel (skipSpace text) = scanItems fuel text := by
  cases fuel with
  | zero => rfl
  | succ fuel => rw [scanItems, scanItems, scanJsonValue_skipSpace]

theorem scanJsonValue_array {fuel : ℕ} {text : JsString} (h : (skipSpace text).head? ≠ some 0x5d) :
    scanJsonValue (fuel + 1) (0x5b :: text) = scanItems fuel text := by
  rw [scanJsonValue_cons (by decide), if_neg (by decide), if_pos rfl, ← scanItems_skipSpace]
  split
  · rename_i heq
    exact absurd (by rw [heq]; rfl) h
  · rfl

theorem scanJsonValue_object {fuel : ℕ} {text : JsString} (h : (skipSpace text).head? ≠ some 0x7d) :
    scanJsonValue (fuel + 1) (0x7b :: text) = scanMembers fuel (skipSpace text) [] := by
  rw [scanJsonValue_cons (by decide), if_neg (by decide), if_neg (by decide), if_pos rfl]
  split
  · rename_i heq
    exact absurd (by rw [heq]; rfl) h
  · rfl

theorem scanJsonValue_number {fuel : ℕ} {text rest : JsString}
    {parts : Bool × JsString × JsString × ℤ} (h : NumberLiteral text parts)
    (hrest : NumberEnds rest) : scanJsonValue (fuel + 1) (text ++ rest) = .ok rest := by
  have hscan := scanNumber_of_literal h hrest
  obtain ⟨u, tail, rfl, hu⟩ := h.head
  rw [List.cons_append] at hscan ⊢
  have hkeyword {v : UInt16} (keyword : JsString) (hv : v ≠ 0x2d ∧ isDigit v = false) :
      ¬ v :: keyword <+: u :: (tail ++ rest) := fun hprefix =>
    numberHead_ne hu hv (List.cons_prefix_cons.1 hprefix).1.symm
  have htrue : ¬ js "true" <+: u :: (tail ++ rest) := hkeyword (js "rue") (by decide)
  have hfalse : ¬ js "false" <+: u :: (tail ++ rest) := hkeyword (js "alse") (by decide)
  have hnull : ¬ js "null" <+: u :: (tail ++ rest) := hkeyword (js "ull") (by decide)
  rw [scanJsonValue_cons (numberHead_space hu), if_neg (numberHead_ne hu (by decide)),
    if_neg (numberHead_ne hu (by decide)), if_neg (numberHead_ne hu (by decide)), if_neg htrue,
    if_neg hfalse, if_neg hnull, hscan]

/-- An iteration over the members, up to the value. -/
theorem scanMembers_name {name after key : JsString} (hname : StringLiteral name key)
    (hafter : Ws after) (fuel : ℕ) (text : JsString) {keys : List JsString} (hkey : key ∉ keys) :
    scanMembers (fuel + 1) (name ++ (after ++ 0x3a :: text)) keys =
      (scanJsonValue fuel text).bind fun rest =>
        match skipSpace rest with
        | 0x7d :: rest => .ok rest
        | 0x2c :: rest =>
          match skipSpace rest with
          | 0x7d :: _ => .error (invalidJson "JSON object has a trailing comma.")
          | rest => scanMembers fuel rest (keys ++ [key])
        | _ => .error (invalidJson "JSON object separator is invalid.") := by
  cases hname with
  | @mk name key hname =>
    have hcolon : skipSpace (after ++ 0x3a :: text) = 0x3a :: text := by
      rw [skipSpace_append hafter, skipSpace_cons (by decide)]
    have htext : quote :: name ++ [quote] ++ (after ++ 0x3a :: text) =
        0x22 :: (name ++ quote :: (after ++ 0x3a :: text)) := by
      simp [quote]
    have hliteral : (0x22 :: (name ++ quote :: (after ++ 0x3a :: text))).take
        ((0x22 :: (name ++ quote :: (after ++ 0x3a :: text))).length -
          (after ++ 0x3a :: text).length) = quote :: name ++ [quote] := by
      rw [← htext, @List.length_append _ (quote :: name ++ [quote]), Nat.add_sub_cancel,
        List.take_left]
    rw [htext, scanMembers, scanJsonString_of_characters hname, ok_bind, hliteral,
      scanKey_of_literal (.mk hname), if_neg hkey, ok_bind, hcolon]
    rfl

theorem StringLiteral.skipSpace_append {name key : JsString} (h : StringLiteral name key)
    (rest : JsString) : skipSpace (name ++ rest) = name ++ rest := by
  cases h
  rfl

/-- The last iteration over the items. -/
theorem scanItems_last {fuel : ℕ} {text after rest : JsString} (hafter : Ws after)
    (hscan : scanJsonValue fuel text = .ok (after ++ 0x5d :: rest)) :
    scanItems (fuel + 1) text = .ok rest := by
  rw [scanItems, hscan, ok_bind, skipSpace_append hafter, skipSpace_cons (by decide)]
  rfl

/-- An iteration over the items that is not the last one. -/
theorem scanItems_next {fuel : ℕ} {text after others : JsString} (hafter : Ws after)
    (hscan : scanJsonValue fuel text = .ok (after ++ 0x2c :: others))
    (hothers : (skipSpace others).head? ≠ some 0x5d) :
    scanItems (fuel + 1) text = scanItems fuel others := by
  rw [scanItems, hscan, ok_bind, skipSpace_append hafter, skipSpace_cons (by decide),
    ← scanItems_skipSpace fuel others]
  show (match skipSpace others with | 0x5d :: _ => _ | rest => scanItems fuel rest) = _
  split
  · rename_i heq
    exact absurd (by rw [heq]; rfl) hothers
  · rfl

/-- The last iteration over the members. -/
theorem scanMembers_last {name space key : JsString} (hname : StringLiteral name key)
    (hspace : Ws space) {fuel : ℕ} {text after rest : JsString} {keys : List JsString}
    (hkey : key ∉ keys) (hafter : Ws after)
    (hscan : scanJsonValue fuel text = .ok (after ++ 0x7d :: rest)) :
    scanMembers (fuel + 1) (name ++ (space ++ 0x3a :: text)) keys = .ok rest := by
  rw [scanMembers_name hname hspace fuel text hkey, hscan]
  show (match skipSpace (after ++ 0x7d :: rest) with
    | 0x7d :: rest => _
    | 0x2c :: rest => _
    | _ => _) = _
  rw [skipSpace_append hafter, skipSpace_cons (by decide)]
  rfl

/-- An iteration over the members that is not the last one. -/
theorem scanMembers_next {name space key : JsString} (hname : StringLiteral name key)
    (hspace : Ws space) {fuel : ℕ} {text after others : JsString} {keys : List JsString}
    (hkey : key ∉ keys) (hafter : Ws after)
    (hscan : scanJsonValue fuel text = .ok (after ++ 0x2c :: others))
    (hothers : (skipSpace others).head? ≠ some 0x7d) :
    scanMembers (fuel + 1) (name ++ (space ++ 0x3a :: text)) keys =
      scanMembers fuel (skipSpace others) (keys ++ [key]) := by
  rw [scanMembers_name hname hspace fuel text hkey, hscan]
  show (match skipSpace (after ++ 0x2c :: others) with
    | 0x7d :: rest => _
    | 0x2c :: rest => _
    | _ => _) = _
  rw [skipSpace_append hafter, skipSpace_cons (by decide)]
  show (match skipSpace others with
    | 0x7d :: _ => _
    | rest => scanMembers fuel rest (keys ++ [key])) = _
  split
  · rename_i heq
    exact absurd (by rw [heq]; rfl) hothers
  · rfl

theorem not_mem_keys {key : JsString} {value : Json} {keys : List JsString}
    {members : List (JsString × Json)}
    (h : (keys ++ ((key, value) :: members).map Prod.fst).Nodup) : key ∉ keys :=
  fun hmem => List.disjoint_of_nodup_append h hmem List.mem_cons_self

mutual

theorem scanJsonValue_of_value : ∀ {text : JsString} {value : Json}, Value text value →
    value.DistinctNames → ∀ (rest : JsString) {fuel : ℕ}, NumberEnds rest →
    2 * (text ++ rest).length < fuel → scanJsonValue fuel (text ++ rest) = .ok rest
  | _, _, _, _, _, 0, _, hfuel => absurd hfuel (Nat.not_lt_zero _)
  | _, _, .literalNull, _, _, _ + 1, _, _ => rfl
  | _, _, .literalTrue, _, _, _ + 1, _, _ => rfl
  | _, _, .literalFalse, _, _, _ + 1, _, _ => rfl
  | _, _, .number h, _, _, _ + 1, hrest, _ => scanJsonValue_number h hrest
  | _, _, .string (.mk h), _, rest, fuel + 1, _, _ => by
    rw [List.append_assoc, List.cons_append, scanJsonValue_cons (by decide), if_pos rfl,
      List.singleton_append, scanJsonString_of_characters h]
  | _, _, .emptyArray h, _, rest, fuel + 1, _, _ => by
    rw [List.append_assoc, List.cons_append, scanJsonValue_cons (by decide), if_neg (by decide),
      if_pos rfl, List.singleton_append, skipSpace_append h, skipSpace_cons (by decide)]
    rfl
  | _, _, .array h, hd, rest, fuel + 1, _, hfuel => by
    rw [List.append_assoc, List.cons_append, List.singleton_append] at hfuel ⊢
    rw [scanJsonValue_array (h.skipSpace_head _)]
    exact scanItems_of_elements h hd rest (length_lt_fuel hfuel)
  | _, _, .emptyObject h, _, rest, fuel + 1, _, _ => by
    rw [List.append_assoc, List.cons_append, scanJsonValue_cons (by decide), if_neg (by decide),
      if_neg (by decide), if_pos rfl, List.singleton_append, skipSpace_append h,
      skipSpace_cons (by decide)]
    rfl
  | _, _, .object h, hd, rest, fuel + 1, _, hfuel => by
    rw [List.append_assoc, List.cons_append, List.singleton_append] at hfuel ⊢
    rw [scanJsonValue_object (h.skipSpace_head _)]
    exact scanMembers_of_members h hd.2 rest [] hd.1 (length_lt_fuel hfuel)

theorem scanJsonValue_of_element : ∀ {text : JsString} {value : Json}, Element text value →
    value.DistinctNames → ∀ (rest : JsString) {fuel : ℕ}, NumberEnds rest →
    2 * (text ++ rest).length < fuel →
    ∃ after, Ws after ∧ scanJsonValue fuel (text ++ rest) = .ok (after ++ rest)
  | _, _, @Element.mk before text after _ hbefore hvalue hafter, hd, rest, fuel, hrest, hfuel => by
    refine ⟨after, hafter, ?_⟩
    rw [← scanJsonValue_skipSpace, List.append_assoc, List.append_assoc,
      hvalue.skipSpace_append hbefore]
    refine scanJsonValue_of_value hvalue hd (after ++ rest) (.append hafter hrest) ?_
    simp only [List.length_append] at hfuel ⊢
    omega

theorem scanItems_of_elements : ∀ {text : JsString} {items : List Json}, Elements text items →
    Json.DistinctNamesItems items → ∀ (rest : JsString) {fuel : ℕ},
    2 * (text ++ 0x5d :: rest).length + 1 < fuel → scanItems fuel (text ++ 0x5d :: rest) = .ok rest
  | _, _, _, _, _, 0, hfuel => absurd hfuel (Nat.not_lt_zero _)
  | _, _, .single h, hd, rest, fuel + 1, hfuel => by
    obtain ⟨after, hafter, hscan⟩ :=
      scanJsonValue_of_element h hd.1 (0x5d :: rest) (.of_punctuation (by decide))
        (Nat.lt_of_succ_lt_succ hfuel)
    exact scanItems_last hafter hscan
  | _, _, @Elements.cons text others _ _ h hs, hd, rest, fuel + 1, hfuel => by
    rw [List.append_assoc, List.cons_append] at hfuel ⊢
    obtain ⟨after, hafter, hscan⟩ :=
      scanJsonValue_of_element h hd.1 (0x2c :: (others ++ 0x5d :: rest))
        (.of_punctuation (by decide))
        (Nat.lt_of_succ_lt_succ hfuel)
    have hrest : 2 * (others ++ 0x5d :: rest).length + 1 < fuel := by
      simp only [List.length_append, List.length_cons] at hfuel ⊢
      omega
    rw [scanItems_next hafter hscan (hs.skipSpace_head _)]
    exact scanItems_of_elements hs hd.2 rest hrest

theorem scanMembers_of_members : ∀ {text : JsString} {members : List (JsString × Json)},
    Members text members → Json.DistinctNamesMembers members →
    ∀ (rest : JsString) (keys : List JsString) {fuel : ℕ},
    (keys ++ members.map Prod.fst).Nodup → 2 * (text ++ 0x7d :: rest).length + 1 < fuel →
    scanMembers fuel (skipSpace (text ++ 0x7d :: rest)) keys = .ok rest
  | _, _, _, _, _, _, 0, _, hfuel => absurd hfuel (Nat.not_lt_zero _)
  | _, _, .single (@Member.mk space name space' text key value hbefore hname hafter h), hd, rest,
      keys, fuel + 1, hnodup, hfuel => by
    simp only [List.append_assoc, List.cons_append] at hfuel ⊢
    have hvalue : 2 * (text ++ 0x7d :: rest).length < fuel := by
      simp only [List.length_append, List.length_cons] at hfuel ⊢
      omega
    obtain ⟨after, hafter', hscan⟩ :=
      scanJsonValue_of_element h hd.1 (0x7d :: rest) (.of_punctuation (by decide)) hvalue
    rw [skipSpace_append hbefore, hname.skipSpace_append]
    exact scanMembers_last hname hafter (not_mem_keys hnodup) hafter' hscan
  | _, _, @Members.cons _ others _ members
      (@Member.mk space name space' text key value hbefore hname hafter h) hs,
      hd, rest, keys, fuel + 1, hnodup, hfuel => by
    simp only [List.append_assoc, List.cons_append] at hfuel ⊢
    have hvalue : 2 * (text ++ 0x2c :: (others ++ 0x7d :: rest)).length < fuel := by
      simp only [List.length_append, List.length_cons] at hfuel ⊢
      omega
    obtain ⟨after, hafter', hscan⟩ :=
      scanJsonValue_of_element h hd.1 (0x2c :: (others ++ 0x7d :: rest))
        (.of_punctuation (by decide))
        hvalue
    have hrest : 2 * (others ++ 0x7d :: rest).length + 1 < fuel := by
      simp only [List.length_append, List.length_cons] at hfuel ⊢
      omega
    have hkey := not_mem_keys hnodup
    rw [List.map_cons, List.append_cons] at hnodup
    rw [skipSpace_append hbefore, hname.skipSpace_append,
      scanMembers_next hname hafter hkey hafter' hscan (hs.skipSpace_head _)]
    exact scanMembers_of_members hs hd.2 rest (keys ++ [key]) hnodup hrest

end

/-! ### No other texts -/

theorem keyword_prefix {keyword text : JsString} {u : UInt16} (h : u :: keyword <+: u :: text) :
    u :: text = (u :: keyword) ++ text.drop keyword.length := by
  obtain ⟨rest, hrest⟩ := h
  obtain rfl := (List.cons.inj hrest).2
  simp

theorem skipSpace_head {text tail : JsString} {u : UInt16} (h : skipSpace text = u :: tail) :
    isJsonSpace u = false := by
  have hnot := List.head?_dropWhile_not isJsonSpace text
  rw [show text.dropWhile isJsonSpace = u :: tail from h] at hnot
  exact hnot

theorem Element.prepend {space text : JsString} {value : Json} (hspace : Ws space)
    (h : Element text value) : Element (space ++ text) value := by
  cases h with
  | mk hbefore hvalue hafter =>
    rw [← List.append_assoc]
    exact .mk (List.forall_mem_append.2 ⟨hspace, hbefore⟩) hvalue hafter

theorem Elements.prepend {space text : JsString} {items : List Json} (hspace : Ws space)
    (h : Elements text items) : Elements (space ++ text) items := by
  cases h with
  | single h => exact .single (h.prepend hspace)
  | cons h hs =>
    rw [← List.append_assoc]
    exact .cons (h.prepend hspace) hs

theorem Members.prepend {space text : JsString} {members : List (JsString × Json)}
    (hspace : Ws space)
    (h : Members text members) : Members (space ++ text) members := by
  have hmember : ∀ {text : JsString} {member : JsString × Json}, Member text member →
      Member (space ++ text) member := by
    intro text member h
    cases h with
    | mk hbefore hname hafter helement =>
      rw [← List.append_assoc]
      exact .mk (List.forall_mem_append.2 ⟨hspace, hbefore⟩) hname hafter helement
  cases h with
  | single h => exact .single (hmember h)
  | cons h hs =>
    rw [← List.append_assoc]
    exact .cons (hmember h) hs

mutual

theorem value_of_scanJsonValue : ∀ {fuel : ℕ} {text rest : JsString},
    scanJsonValue fuel text = .ok rest → ∃ space body value, text = space ++ (body ++ rest) ∧
      Ws space ∧ Value body value ∧ value.DistinctNames
  | 0, _, _, h => by cases h
  | fuel + 1, text, rest, h => by
    obtain ⟨space, htext, hspace⟩ := skipSpace_spec text
    suffices ∃ body value, skipSpace text = body ++ rest ∧ Value body value ∧ value.DistinctNames by
      obtain ⟨body, value, hbody, hvalue, hd⟩ := this
      exact ⟨space, body, value, by rw [← hbody, ← htext], hspace, hvalue, hd⟩
    rw [← scanJsonValue_skipSpace] at h
    cases hstart : skipSpace text with
    | nil =>
      rw [hstart] at h
      cases h
    | cons u tail =>
      obtain ⟨space', htail, hspace'⟩ := skipSpace_spec tail
      rw [hstart, scanJsonValue_cons (skipSpace_head hstart)] at h
      split_ifs at h with hquote harray hobject htrue hfalse hnull
      · obtain ⟨body, value, rfl, hbody⟩ := characters_of_scanJsonString h
        exact ⟨quote :: body ++ [quote], .string value, by simp [hquote], .string (.mk hbody),
          trivial⟩
      · subst harray
        split at h
        · rename_i hrest
          cases h
          rw [hrest] at htail
          exact ⟨0x5b :: space' ++ [0x5d], .array [], by simp [htail], .emptyArray hspace', trivial⟩
        · obtain ⟨body, items, hbody, helements, hd⟩ := elements_of_scanItems h
          rw [hbody] at htail
          exact ⟨0x5b :: (space' ++ body) ++ [0x5d], .array items, by simp [htail],
            .array (helements.prepend hspace'), hd⟩
      · subst hobject
        split at h
        · rename_i hrest
          cases h
          rw [hrest] at htail
          exact ⟨0x7b :: space' ++ [0x7d], .object [], by simp [htail], .emptyObject hspace',
            List.nodup_nil, trivial⟩
        · obtain ⟨body, members, hbody, hmembers, hd, hnodup⟩ :=
            members_of_scanMembers h List.nodup_nil
          rw [hbody] at htail
          exact ⟨0x7b :: (space' ++ body) ++ [0x7d], .object members, by simp [htail],
            .object (hmembers.prepend hspace'), hnodup, hd⟩
      · obtain rfl : u = 0x74 := (List.cons_prefix_cons.1 htrue).1.symm
        cases h
        exact ⟨js "true", .bool true, keyword_prefix htrue, .literalTrue, trivial⟩
      · obtain rfl : u = 0x66 := (List.cons_prefix_cons.1 hfalse).1.symm
        cases h
        exact ⟨js "false", .bool false, keyword_prefix hfalse, .literalFalse, trivial⟩
      · obtain rfl : u = 0x6e := (List.cons_prefix_cons.1 hnull).1.symm
        cases h
        exact ⟨js "null", .null, keyword_prefix hnull, .literalNull, trivial⟩
      · split at h
        · rename_i parts rest' hnumber
          cases h
          obtain ⟨number, hsplit, hliteral⟩ := literal_of_scanNumber hnumber
          exact ⟨number, .number (numberValue parts), hsplit, .number hliteral, trivial⟩
        · cases h

theorem element_of_scanJsonValue : ∀ {fuel : ℕ} {text rest : JsString},
    scanJsonValue fuel text = .ok rest → ∃ body value, text = body ++ skipSpace rest ∧
      Element body value ∧ value.DistinctNames
  | fuel, text, rest, h => by
    obtain ⟨before, body, value, rfl, hbefore, hvalue, hd⟩ := value_of_scanJsonValue h
    obtain ⟨after, hrest, hafter⟩ := skipSpace_spec rest
    refine ⟨before ++ (body ++ after), value, ?_, .mk hbefore hvalue hafter, hd⟩
    rw [List.append_assoc, List.append_assoc, ← hrest]

theorem elements_of_scanItems : ∀ {fuel : ℕ} {text rest : JsString},
    scanItems fuel text = .ok rest → ∃ body items, text = body ++ 0x5d :: rest ∧
      Elements body items ∧
      Json.DistinctNamesItems items
  | 0, _, _, h => by cases h
  | fuel + 1, text, rest, h => by
    rw [scanItems] at h
    obtain ⟨rest', hscan, hrest⟩ := bind_eq_ok.1 h
    clear h
    obtain ⟨body, value, rfl, helement, hd⟩ := element_of_scanJsonValue hscan
    split at hrest
    · rename_i hend
      cases hrest
      exact ⟨body, [value], by rw [hend], .single helement, hd, trivial⟩
    · rename_i others hend
      split at hrest
      · cases hrest
      · rw [scanItems_skipSpace] at hrest
        obtain ⟨body', items, rfl, helements, hd'⟩ := elements_of_scanItems hrest
        exact ⟨body ++ 0x2c :: body', value :: items, by rw [hend]; simp, .cons helement helements,
          hd, hd'⟩
    · cases hrest

theorem members_of_scanMembers : ∀ {fuel : ℕ} {text rest : JsString} {keys : List JsString},
    scanMembers fuel text keys = .ok rest → keys.Nodup → ∃ body members,
    text = body ++ 0x7d :: rest ∧
      Members body members ∧ Json.DistinctNamesMembers members ∧
      (keys ++ members.map Prod.fst).Nodup
  | 0, _, _, _, h, _ => by cases h
  | fuel + 1, text, rest, keys, h, hkeys => by
    rw [scanMembers.eq_def] at h
    dsimp only at h
    split at h
    · rename_i tail
      obtain ⟨keyEnd, hstring, hkeyEnd⟩ := bind_eq_ok.1 h
      obtain ⟨key, hkey, hcolon⟩ := bind_eq_ok.1 hkeyEnd
      clear h hkeyEnd
      obtain ⟨name, key', rfl, hname⟩ := characters_of_scanJsonString hstring
      have htext : 0x22 :: (name ++ quote :: keyEnd) = quote :: name ++ [quote] ++ keyEnd := by
        simp [quote]
      have hliteral : (0x22 :: (name ++ quote :: keyEnd)).take
          ((0x22 :: (name ++ quote :: keyEnd)).length - keyEnd.length) = quote :: name ++
              [quote] := by
        rw [htext, @List.length_append _ (quote :: name ++ [quote]), Nat.add_sub_cancel,
          List.take_left]
      rw [hliteral, scanKey_of_literal (.mk hname)] at hkey
      split_ifs at hkey with hmem
      cases hkey
      split at hcolon
      · rename_i rest' hrest'
        obtain ⟨rest'', hscan, hrest⟩ := bind_eq_ok.1 hcolon
        clear hcolon
        obtain ⟨body, value, rfl, helement, hd⟩ := element_of_scanJsonValue hscan
        obtain ⟨after, hafter, hspace⟩ := skipSpace_spec keyEnd
        rw [hrest'] at hafter
        have hmember : Member ([] ++ (quote :: name ++ [quote] ++ (after ++ 0x3a :: body)))
            (key, value) :=
          .mk nofun (.mk hname) hspace helement
        have hnodup : (keys ++ [key]).Nodup :=
          List.Nodup.append hkeys (List.nodup_singleton key) (by simpa using hmem)
        split at hrest
        · rename_i hend
          cases hrest
          refine ⟨_, [(key, value)], ?_, .single hmember, ⟨hd, trivial⟩, ?_⟩
          · rw [htext, hafter, hend]
            simp
          · exact hnodup
        · rename_i others hend
          split at hrest
          · cases hrest
          · obtain ⟨body', members, hbody', hmembers, hd', hnodup'⟩ :=
              members_of_scanMembers hrest hnodup
            obtain ⟨space, hothers, hspace'⟩ := skipSpace_spec others
            rw [hbody'] at hothers
            refine ⟨_, (key, value) :: members, ?_, .cons hmember (hmembers.prepend hspace'),
              ⟨hd, hd'⟩, ?_⟩
            · rw [htext, hafter, hend, hothers]
              simp
            · rw [List.map_cons, List.append_cons]
              exact hnodup'
        · cases hrest
      · cases hcolon
    · cases h

end

end JsonGrammar

open JsonGrammar

theorem parseStrictJsonText_eq_ok {text : JsString} {value : Json} :
    parseStrictJsonText text = .ok value ↔
      text.head? ≠ some 0xfeff ∧ Text text value ∧ value.DistinctNames := by
  simp only [parseStrictJsonText, bind_eq_ok, throwIf_eq_ok, not_not]
  constructor
  · rintro ⟨-, hmark, rest, hscan, -, hend, hparse⟩
    obtain ⟨body, value', htext, helement, hd⟩ := element_of_scanJsonValue hscan
    rw [hend, List.append_nil] at htext
    subst htext
    rw [jsonParse_of_text helement hd] at hparse
    cases hparse
    exact ⟨hmark, helement, hd⟩
  · rintro ⟨hmark, htext, hd⟩
    have hfuel : 2 * (text ++ []).length < 2 * text.length + 2 := by simp
    obtain ⟨after, hafter, hscan⟩ := scanJsonValue_of_element htext hd [] (by rintro _ ⟨⟩) hfuel
    rw [List.append_nil, List.append_nil] at hscan
    have hend : skipSpace after = [] := List.dropWhile_eq_nil_iff.2 hafter
    refine ⟨(), hmark, after, hscan, (), hend, ?_⟩
    rw [jsonParse_of_text htext hd]
    rfl

end SelfRelay
