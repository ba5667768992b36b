import SelfRelay.Js.Stringify
import SelfRelay.Lib.KeyOrder
import SelfRelay.Protocol.JsonScanner

/-!
# Canonical JSON and back

`canonicalJson` writes a value as a text of the JSON grammar that denotes the value with its members
in the order of their names (`canonicalJson_of_plain`), and it does not see the order in which they
come (`canonicalJson_of_same`).  So a value survives the way to canonical bytes and back up to that
order, and no two byte strings are accepted as canonical with the same result
(`canonicalJson_round_trip`).
-/

namespace SelfRelay

open JsonGrammar

namespace Json

/-! ## The values -/

mutual

/-- A value of `null`, booleans, integers in the safe range, well-formed strings, arrays, and
objects with distinct well-formed names. -/
def Plain : Json → Prop
  | .null | .bool _ => True
  | .number value => ∃ n : ℤ, value = .finite n ∧ n.natAbs ≤ JsNumber.maxSafeInteger
  | .string value => isWellFormed value = true
  | .array items => PlainItems items
  | .object members => (members.map Prod.fst).Nodup ∧ PlainMembers members

def PlainItems : List Json → Prop
  | [] => True
  | item :: items => Plain item ∧ PlainItems items

def PlainMembers : List (JsString × Json) → Prop
  | [] => True
  | (key, value) :: members => isWellFormed key = true ∧ Plain value ∧ PlainMembers members

end

mutual

/-- The same value, but for the order of members. -/
inductive Same : Json → Json → Prop where
  | null : Same .null .null
  | bool (value : Bool) : Same (.bool value) (.bool value)
  | number (value : JsNumber) : Same (.number value) (.number value)
  | string (value : JsString) : Same (.string value) (.string value)
  | array {items items' : List Json} : SameItems items items' → Same (.array items) (.array items')
  | object {members members' reordered : List (JsString × Json)} :
      SameMembers members members' → members'.Perm reordered →
      Same (.object members) (.object reordered)

inductive SameItems : List Json → List Json → Prop where
  | nil : SameItems [] []
  | cons {item item' : Json} {items items' : List Json} :
      Same item item' → SameItems items items' → SameItems (item :: items) (item' :: items')

/-- The same names in the same order, with the same values. -/
inductive SameMembers : List (JsString × Json) → List (JsString × Json) → Prop where
  | nil : SameMembers [] []
  | cons {key : JsString} {value value' : Json} {members members' : List (JsString × Json)} :
      Same value value' → SameMembers members members' →
      SameMembers ((key, value) :: members) ((key, value') :: members')

end

mutual

/-- The value with the members of every object in the order of their names. -/
def sortNames : Json → Json
  | .array items => .array (sortNamesItems items)
  | .object members =>
    .object ((sortNamesMembers members).insertionSort fun a b => utf16Le a.1 b.1)
  | .null => .null
  | .bool value => .bool value
  | .number value => .number value
  | .string value => .string value

def sortNamesItems : List Json → List Json
  | [] => []
  | item :: items => sortNames item :: sortNamesItems items

def sortNamesMembers : List (JsString × Json) → List (JsString × Json)
  | [] => []
  | (key, value) :: members => (key, sortNames value) :: sortNamesMembers members

end

theorem sortNamesMembers_eq_map : ∀ members : List (JsString × Json),
    sortNamesMembers members = members.map fun m => (m.1, sortNames m.2)
  | [] => rfl
  | _ :: members => congrArg (_ :: ·) (sortNamesMembers_eq_map members)

theorem names_sortNamesMembers (members : List (JsString × Json)) :
    (sortNamesMembers members).map Prod.fst = members.map Prod.fst := by
  rw [sortNamesMembers_eq_map, List.map_map]
  rfl

mutual

theorem same_sortNames : ∀ value : Json, Same value value.sortNames
  | .null => .null
  | .bool value => .bool value
  | .number value => .number value
  | .string value => .string value
  | .array items => .array (sameItems_sortNames items)
  | .object members => .object (sameMembers_sortNames members) (List.perm_insertionSort _ _).symm

theorem sameItems_sortNames : ∀ items : List Json, SameItems items (sortNamesItems items)
  | [] => .nil
  | item :: items => .cons (same_sortNames item) (sameItems_sortNames items)

theorem sameMembers_sortNames : ∀ members : List (JsString × Json),
    SameMembers members (sortNamesMembers members)
  | [] => .nil
  | (_, value) :: members => .cons (same_sortNames value) (sameMembers_sortNames members)

end

theorem distinctNamesMembers_iff : ∀ {members : List (JsString × Json)},
    DistinctNamesMembers members ↔ ∀ m ∈ members, m.2.DistinctNames
  | [] => by simp [DistinctNamesMembers]
  | (_, value) :: members => by
    rw [DistinctNamesMembers, distinctNamesMembers_iff, List.forall_mem_cons]

mutual

theorem Plain.distinctNames : ∀ {value : Json}, value.Plain → value.DistinctNames
  | .null, _ | .bool _, _ | .number _, _ | .string _, _ => trivial
  | .array _, h => distinctNames_of_plainItems h
  | .object _, h => ⟨h.1, distinctNames_of_plainMembers h.2⟩

theorem distinctNames_of_plainItems : ∀ {items : List Json}, PlainItems items →
    DistinctNamesItems items
  | [], _ => trivial
  | _ :: _, h => ⟨h.1.distinctNames, distinctNames_of_plainItems h.2⟩

theorem distinctNames_of_plainMembers : ∀ {members : List (JsString × Json)},
    PlainMembers members → DistinctNamesMembers members
  | [], _ => trivial
  | _ :: _, h => ⟨h.2.1.distinctNames, distinctNames_of_plainMembers h.2.2⟩

end

mutual

theorem DistinctNames.sortNames : ∀ {value : Json}, value.DistinctNames →
    value.sortNames.DistinctNames
  | .null, _ | .bool _, _ | .number _, _ | .string _, _ => trivial
  | .array _, h => distinctNamesItems_sortNames h
  | .object members, h => by
    have hperm := List.perm_insertionSort (fun a b => utf16Le a.1 b.1) (sortNamesMembers members)
    refine ⟨(hperm.map Prod.fst).nodup_iff.2 ?_, distinctNamesMembers_iff.2 fun m hm => ?_⟩
    · rw [names_sortNamesMembers]
      exact h.1
    · exact distinctNamesMembers_iff.1 (distinctNamesMembers_sortNames h.2) m (hperm.mem_iff.1 hm)

theorem distinctNamesItems_sortNames : ∀ {items : List Json},
    DistinctNamesItems items → DistinctNamesItems (sortNamesItems items)
  | [], _ => trivial
  | _ :: _, h => ⟨h.1.sortNames, distinctNamesItems_sortNames h.2⟩

theorem distinctNamesMembers_sortNames : ∀ {members : List (JsString × Json)},
    DistinctNamesMembers members → DistinctNamesMembers (sortNamesMembers members)
  | [], _ => trivial
  | _ :: _, h => ⟨h.1.sortNames, distinctNamesMembers_sortNames h.2⟩

end

end Json

open Json

/-! ## The order of names -/

theorem utf16Le_eq : ∀ left right : JsString,
    utf16Le left right = KeyOrder.lexLe (left.map UInt16.toNat) (right.map UInt16.toNat)
  | [], _ => rfl
  | _ :: _, [] => rfl
  | a :: left, b :: right => by
    have heq : (a = b) = (a.toNat = b.toNat) := propext UInt16.toNat_inj.symm
    rw [utf16Le, List.map_cons, List.map_cons, KeyOrder.lexLe, utf16Le_eq left right]
    simp only [heq]

theorem names_nodup {α : Type} {entries : List (JsString × α)} (h : (entries.map Prod.fst).Nodup) :
    (entries.map fun entry => entry.1.map UInt16.toNat).Nodup := by
  have hinj : Function.Injective (List.map UInt16.toNat) :=
    List.map_injective_iff.2 fun _ _ => UInt16.toNat_inj.1
  have hmap := h.map hinj
  rwa [List.map_map] at hmap

theorem canonicalMembers_eq_map : ∀ members : List (JsString × Json),
    canonicalMembers members = members.map fun m => (m.1, canonicalJson m.2)
  | [] => rfl
  | _ :: members => congrArg (_ :: ·) (canonicalMembers_eq_map members)

theorem names_canonicalMembers (members : List (JsString × Json)) :
    (canonicalMembers members).map Prod.fst = members.map Prod.fst := by
  rw [canonicalMembers_eq_map, List.map_map]
  rfl

mutual

/-- The order of members does not show. -/
theorem canonicalJson_of_same : ∀ {value value' : Json}, Same value value' → value.DistinctNames →
    canonicalJson value = canonicalJson value'
  | _, _, .null, _ | _, _, .bool _, _ | _, _, .number _, _ | _, _, .string _, _ => rfl
  | _, _, .array hitems, hd => by
    rw [canonicalJson, canonicalJson, canonicalItems_of_same hitems hd]
  | .object members, .object reordered, @Same.object _ members' _ hmembers hperm, hd => by
    have hnodup : ((canonicalMembers members).map Prod.fst).Nodup := by
      rw [names_canonicalMembers]
      exact hd.1
    have hsame := canonicalMembers_of_same hmembers hd.2
    have hperm' : (canonicalMembers members).Perm (canonicalMembers reordered) := by
      rw [hsame, canonicalMembers_eq_map, canonicalMembers_eq_map]
      exact hperm.map _
    have hsort := KeyOrder.insertionSort_eq_of_perm (r := fun a b => utf16Le a.1 b.1)
      (fun a b => by rw [utf16Le_eq]) hperm' (names_nodup hnodup)
    rw [canonicalJson, canonicalJson, canonicalEntries, canonicalEntries, hsort]

theorem canonicalItems_of_same : ∀ {items items' : List Json}, SameItems items items' →
    DistinctNamesItems items → canonicalItems items = canonicalItems items'
  | _, _, .nil, _ => rfl
  | _, _, .cons hitem hitems, hd => by
    rw [canonicalItems, canonicalItems, canonicalJson_of_same hitem hd.1,
      canonicalItems_of_same hitems hd.2]

theorem canonicalMembers_of_same : ∀ {members members' : List (JsString × Json)},
    SameMembers members members' → DistinctNamesMembers members →
    canonicalMembers members = canonicalMembers members'
  | _, _, .nil, _ => rfl
  | _, _, .cons hvalue hmembers, hd => by
    rw [canonicalMembers, canonicalMembers, canonicalJson_of_same hvalue hd.1,
      canonicalMembers_of_same hmembers hd.2]

end

/-! ## The text -/

/-- Checks on the elements of a list that all succeed. -/
theorem mapM_returns {α β : Type} {f : α → Checked β} {P : β → α → Prop} : ∀ {l : List α},
    (∀ a ∈ l, ∃ b, f a = .ok b ∧ P b a) → ∃ bs, l.mapM f = .ok bs ∧ List.Forall₂ P bs l
  | [], _ => ⟨[], rfl, .nil⟩
  | a :: l, h => by
    obtain ⟨b, hb, hp⟩ := h a List.mem_cons_self
    obtain ⟨bs, hbs, hps⟩ := mapM_returns fun a ha => h a (List.mem_cons_of_mem _ ha)
    refine ⟨b :: bs, ?_, .cons hp hps⟩
    rw [List.mapM_cons, hb, hbs]
    rfl

theorem ws_nil : Ws [] := fun _ h => absurd h List.not_mem_nil

/-- A well-formed text that denotes the value. -/
def Writes (text : JsString) (value : Json) : Prop := Value text value ∧ isWellFormed text = true

/-- A well-formed text of one member. -/
def WritesMember (text : JsString) (member : JsString × Json) : Prop :=
  Member text member ∧ isWellFormed text = true

theorem Writes.element {text : JsString} {value : Json} (h : Writes text value) :
    Element text value := by
  have helement : Element ([] ++ (text ++ [])) value := .mk ws_nil h.1 ws_nil
  rwa [List.append_nil] at helement

theorem Writes.member {key text : JsString} {value : Json} (hkey : isWellFormed key = true)
    (h : Writes text value) : WritesMember (jsonQuote key ++ 0x3a :: text) (key, value) := by
  refine ⟨.mk ws_nil (stringLiteral_jsonQuote key) ws_nil h.element, ?_⟩
  rw [isWellFormed_append (isWellFormed_jsonQuote hkey),
    isWellFormed_cons (isUnpaired_of_lt (by decide))]
  exact h.2

theorem isWellFormed_joinComma : ∀ {parts : List JsString},
    (∀ part ∈ parts, isWellFormed part = true) → isWellFormed (joinComma parts) = true
  | [], _ => rfl
  | [part], h => h part List.mem_cons_self
  | part :: part' :: parts, h => by
    rw [joinComma, isWellFormed_append (h part List.mem_cons_self),
      isWellFormed_cons (isUnpaired_of_lt (by decide))]
    · exact isWellFormed_joinComma fun p hp => h p (List.mem_cons_of_mem _ hp)
    · exact List.cons_ne_nil _ _

theorem elements_joinComma : ∀ {parts : List JsString} {items : List Json},
    List.Forall₂ Writes parts items → items ≠ [] → Elements (joinComma parts) items
  | _, _, .nil, hne => absurd rfl hne
  | _, _, .cons h .nil, _ => .single h.element
  | _, _, .cons h (.cons h' hs), _ => .cons h.element (elements_joinComma (.cons h' hs) (by simp))

theorem members_joinComma : ∀ {parts : List JsString} {members : List (JsString × Json)},
    List.Forall₂ WritesMember parts members → members ≠ [] →
      JsonGrammar.Members (joinComma parts) members
  | _, _, .nil, hne => absurd rfl hne
  | _, _, .cons h .nil, _ => .single h.1
  | _, _, .cons h (.cons h' hs), _ => .cons h.1 (members_joinComma (.cons h' hs) (by simp))

/-- Brackets around a well-formed text. -/
theorem isWellFormed_brackets {start stop : UInt16} {text : JsString} (hstart : start.toNat < 0x80)
    (hstop : stop.toNat < 0x80) (h : isWellFormed text = true) :
    isWellFormed (start :: text ++ [stop]) = true := by
  rw [List.cons_append, isWellFormed_cons (isUnpaired_of_lt (hstart.trans (by decide))),
    isWellFormed_append h, isWellFormed_cons (isUnpaired_of_lt (hstop.trans (by decide)))]
  rfl

theorem wellFormed_of_forall₂ {α : Type} {P : JsString → α → Prop} {parts : List JsString}
    {l : List α}
    (hP : ∀ {part a}, P part a → isWellFormed part = true) (h : List.Forall₂ P parts l) :
    ∀ part ∈ parts, isWellFormed part = true := by
  induction h with
  | nil => exact fun _ h => absurd h List.not_mem_nil
  | cons hp _ ih =>
    intro part hpart
    rcases List.mem_cons.1 hpart with rfl | hpart
    · exact hP hp
    · exact ih part hpart

theorem writes_array {parts : List JsString} {items : List Json}
    (h : List.Forall₂ Writes parts items) :
    Writes (0x5b :: joinComma parts ++ [0x5d]) (.array items) := by
  refine ⟨?_, isWellFormed_brackets (by decide) (by decide)
    (isWellFormed_joinComma (wellFormed_of_forall₂ And.right h))⟩
  cases items with
  | nil =>
    cases h
    exact .emptyArray ws_nil
  | cons item items => exact .array (elements_joinComma h (List.cons_ne_nil _ _))

theorem writes_object {parts : List JsString} {members : List (JsString × Json)}
    (h : List.Forall₂ WritesMember parts members) :
    Writes (0x7b :: joinComma parts ++ [0x7d]) (.object members) := by
  refine ⟨?_, isWellFormed_brackets (by decide) (by decide)
    (isWellFormed_joinComma (wellFormed_of_forall₂ And.right h))⟩
  cases members with
  | nil =>
    cases h
    exact .emptyObject ws_nil
  | cons member members => exact .object (members_joinComma h (List.cons_ne_nil _ _))

/-- Sorting the entries is sorting the members. -/
theorem canonicalEntries_eq (members : List (JsString × Json)) :
    canonicalEntries (canonicalMembers members) =
      (members.insertionSort fun a b => utf16Le a.1 b.1).mapM fun member => do
        assertWellFormedUnicode member.1
        let encoded ← canonicalJson member.2
        return jsonQuote member.1 ++ 0x3a :: encoded := by
  rw [canonicalEntries, canonicalMembers_eq_map,
    ← List.map_insertionSort (fun a b => utf16Le a.1 b.1) _ _ _ fun _ _ _ _ => Iff.rfl,
    List.mapM_map]
  rfl

theorem assertWellFormedUnicode_ok {value : JsString} (h : isWellFormed value = true) :
    assertWellFormedUnicode value = .ok () :=
  throwIf_of_not (by rw [h]; exact Bool.false_ne_true ∘ Eq.symm)

mutual

theorem canonicalJson_of_plain : ∀ {value : Json}, value.Plain →
    ∃ text, canonicalJson value = .ok text ∧ Writes text value.sortNames
  | .null, _ => ⟨_, rfl, .literalNull, rfl⟩
  | .bool true, _ => ⟨_, rfl, .literalTrue, rfl⟩
  | .bool false, _ => ⟨_, rfl, .literalFalse, rfl⟩
  | .number _, ⟨n, rfl, hn⟩ =>
    ⟨_, rfl, JsNumber.value_toString hn, isWellFormed_of_unpaired fun u hu =>
      isUnpaired_of_lt ((JsNumber.toString_lt hn u hu).trans (by decide))⟩
  | .string value, h => by
    refine ⟨jsonQuote value, ?_, .string (stringLiteral_jsonQuote value), isWellFormed_jsonQuote h⟩
    rw [canonicalJson, assertWellFormedUnicode_ok h]
    rfl
  | .array items, h => by
    obtain ⟨parts, hparts, hwrites⟩ := canonicalItems_of_plain h
    refine ⟨_, ?_, writes_array hwrites⟩
    rw [canonicalJson, hparts]
    rfl
  | .object members, h => by
    have hmembers := canonicalMembers_of_plain h.2
    obtain ⟨parts, hparts, hwrites⟩ := mapM_returns fun member hmember =>
      hmembers member ((List.mem_insertionSort fun a b => utf16Le a.1 b.1).1 hmember)
    refine ⟨0x7b :: joinComma parts ++ [0x7d], ?_, writes_object ?_⟩
    · rw [canonicalJson, canonicalEntries_eq, hparts]
      rfl
    · rw [sortNamesMembers_eq_map,
        ← List.map_insertionSort (fun a b => utf16Le a.1 b.1) _ _ _ fun _ _ _ _ => Iff.rfl]
      exact List.forall₂_map_right_iff.2 hwrites

theorem canonicalItems_of_plain : ∀ {items : List Json}, PlainItems items →
    ∃ parts, canonicalItems items = .ok parts ∧ List.Forall₂ Writes parts (sortNamesItems items)
  | [], _ => ⟨[], rfl, .nil⟩
  | item :: items, h => by
    obtain ⟨part, hpart, hwrites⟩ := canonicalJson_of_plain h.1
    obtain ⟨parts, hparts, hwrites'⟩ := canonicalItems_of_plain h.2
    refine ⟨part :: parts, ?_, .cons hwrites hwrites'⟩
    rw [canonicalItems, hpart, hparts]
    rfl

theorem canonicalMembers_of_plain : ∀ {members : List (JsString × Json)}, PlainMembers members →
    ∀ member ∈ members, ∃ text, (do
        assertWellFormedUnicode member.1
        let encoded ← canonicalJson member.2
        return jsonQuote member.1 ++ 0x3a :: encoded : Checked JsString) = .ok text ∧
      WritesMember text (member.1, sortNames member.2)
  | [], _ => fun _ h => absurd h List.not_mem_nil
  | (key, value) :: members, h => by
    intro member hmember
    rcases List.mem_cons.1 hmember with rfl | hmember
    · obtain ⟨text, htext, hwrites⟩ := canonicalJson_of_plain h.2.1
      refine ⟨_, ?_, hwrites.member h.1⟩
      rw [assertWellFormedUnicode_ok h.1, htext]
      rfl
    · exact canonicalMembers_of_plain h.2.2 member hmember

end

/-! ## And back -/

theorem JsonGrammar.Value.head_lt {text : JsString} {value : Json} (h : Value text value) :
    ∀ u ∈ text.head?, u.toNat < 0x80 := by
  cases h with
  | literalNull | literalTrue | literalFalse | emptyArray | array | emptyObject | object =>
    rintro _ ⟨⟩
    decide
  | string h =>
    cases h
    rintro _ ⟨⟩
    decide
  | number h =>
    obtain ⟨u, tail, rfl, hu⟩ := h.head
    rintro _ ⟨⟩
    rcases hu with rfl | hu
    · decide
    · simp only [isDigit, Bool.and_eq_true, decide_eq_true_eq] at hu
      omega

theorem parseStrictJson_of_writes {text : JsString} {value : Json} (h : Writes text value)
    (hd : value.DistinctNames) : parseStrictJson (textEncode text) = .ok value := by
  have hmark : text.head? ≠ some 0xfeff := fun heq => absurd (h.1.head_lt _ heq) (by decide)
  rw [parseStrictJson, decodeUtf8, textDecode_textEncode h.2 hmark]
  exact parseStrictJsonText_eq_ok.2 ⟨hmark, h.element, hd⟩

theorem parseCanonicalJson_eq_ok {raw : Bytes} {value : Json} :
    parseCanonicalJson raw = .ok value ↔
      parseStrictJson raw = .ok value ∧ canonicalJsonBytes value = .ok raw := by
  simp only [parseCanonicalJson, bind_eq_ok, throwIf_eq_ok, not_not, pure_eq_ok]
  constructor
  · rintro ⟨parsed, hparsed, canonical, hcanonical, -, rfl, rfl⟩
    exact ⟨hparsed, hcanonical⟩
  · rintro ⟨hparsed, hcanonical⟩
    exact ⟨value, hparsed, raw, hcanonical, (), rfl, rfl⟩

theorem parseStrictJson_distinctNames {raw : Bytes} {value : Json}
    (h : parseStrictJson raw = .ok value) : value.DistinctNames := by
  simp only [parseStrictJson, bind_eq_ok] at h
  obtain ⟨text, -, htext⟩ := h
  exact (parseStrictJsonText_eq_ok.1 htext).2.2

theorem canonicalJsonBytes_of_plain {value : Json} (h : value.Plain) :
    ∃ text, canonicalJsonBytes value = .ok (textEncode text) ∧ Writes text value.sortNames := by
  obtain ⟨text, htext, hwrites⟩ := canonicalJson_of_plain h
  refine ⟨text, ?_, hwrites⟩
  rw [canonicalJsonBytes, htext]
  rfl

/-- Plain values with the same canonical bytes are the same, but for the order of members. -/
theorem sortNames_of_canonicalJsonBytes {value value' : Json} (h : value.Plain) (h' : value'.Plain)
    (heq : canonicalJsonBytes value = canonicalJsonBytes value') :
    value.sortNames = value'.sortNames := by
  obtain ⟨text, htext, hwrites⟩ := canonicalJsonBytes_of_plain h
  obtain ⟨text', htext', hwrites'⟩ := canonicalJsonBytes_of_plain h'
  have hbytes : textEncode text = textEncode text' :=
    Except.ok.inj (htext.symm.trans (heq.trans htext'))
  have hparsed := parseStrictJson_of_writes hwrites h.distinctNames.sortNames
  rw [hbytes, parseStrictJson_of_writes hwrites' h'.distinctNames.sortNames] at hparsed
  exact (Except.ok.inj hparsed).symm

/-- The canonical bytes of a plain value are read back with the members in
the order of their names. -/
theorem parseCanonicalJson_of_plain {value : Json} (h : value.Plain) :
    ∃ raw, canonicalJsonBytes value = .ok raw ∧ parseCanonicalJson raw = .ok value.sortNames := by
  obtain ⟨text, hbytes, hwrites⟩ := canonicalJsonBytes_of_plain h
  refine ⟨textEncode text, hbytes, parseCanonicalJson_eq_ok.2 ⟨?_, ?_⟩⟩
  · exact parseStrictJson_of_writes hwrites h.distinctNames.sortNames
  · rw [canonicalJsonBytes, ← canonicalJson_of_same (same_sortNames value) h.distinctNames]
    exact hbytes

/-- A plain value has canonical bytes, which are read back as the same value but for the order of
members; and bytes that are read as canonical with the same result are the same bytes. -/
theorem canonicalJson_round_trip :
    (∀ value : Json, value.Plain → ∃ raw value', canonicalJsonBytes value = .ok raw ∧
      parseCanonicalJson raw = .ok value' ∧ Same value value') ∧
    ∀ (raw raw' : Bytes) (value value' : Json), parseCanonicalJson raw = .ok value →
      parseCanonicalJson raw' = .ok value' → Same value value' → raw = raw' := by
  constructor
  · intro value hvalue
    obtain ⟨raw, hraw, hparsed⟩ := parseCanonicalJson_of_plain hvalue
    exact ⟨raw, value.sortNames, hraw, hparsed, same_sortNames value⟩
  · intro raw raw' value value' h h' hsame
    obtain ⟨hparsed, hraw⟩ := parseCanonicalJson_eq_ok.1 h
    obtain ⟨-, hraw'⟩ := parseCanonicalJson_eq_ok.1 h'
    rw [canonicalJsonBytes,
      canonicalJson_of_same hsame (parseStrictJson_distinctNames hparsed)] at hraw
    exact Except.ok.inj (hraw.symm.trans hraw')

/-- `{ "b": -1, "a": [null] }`, and the bytes that are read as `[]`. -/
theorem canonicalJson_round_trip_object :
    (∃ raw value', canonicalJsonBytes
        (.object [(js "b", .number (.finite (-1))), (js "a", .array [.null])]) = .ok raw ∧
      parseCanonicalJson raw = .ok value' ∧
      Same (.object [(js "b", .number (.finite (-1))), (js "a", .array [.null])]) value') ∧
    textEncode (js "[]") = [0x5b, 0x5d] := by
  have hnumber : Plain (.number (.finite (-1))) := ⟨-1, by norm_num, by decide⟩
  have hplain : Plain (.object [(js "b", .number (.finite (-1))), (js "a", .array [.null])]) :=
    ⟨by decide, by decide, hnumber, by decide, ⟨trivial, trivial⟩, trivial⟩
  have hparsed : parseCanonicalJson [0x5b, 0x5d] = .ok (.array []) := rfl
  have hparsed' : parseCanonicalJson (textEncode (js "[]")) = .ok (.array []) := rfl
  exact ⟨canonicalJson_round_trip.1 _ hplain,
    canonicalJson_round_trip.2 (textEncode (js "[]")) [0x5b, 0x5d] _ _ hparsed' hparsed
      (.array .nil)⟩

end SelfRelay
