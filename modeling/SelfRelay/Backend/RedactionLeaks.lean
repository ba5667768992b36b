import SelfRelay.Backend.LogRedaction
import Mathlib.Data.List.TakeWhile
import Mathlib.Tactic.SplitIfs

/-!
# What log redaction hides

`redact_value` does not look at what is stored under a sensitive key (`redactValue_congr`).  In
texts a secret is found by the name before it.  The pattern wants the name at the beginning of the
key, or after a character that is neither a letter nor a digit (`NamesField`), where the test of a
key looks for a marker anywhere in it.  A text with a key of the first kind is redacted alike for
all secrets (`redactText_logged`): both texts are scanned in step up to the field, and from the
secret on.  With any other key a text may stay as it is (`redactText_missed`), as with
`accesstoken`.
-/

namespace SelfRelay.Backend

open SelfRelay.Python Regex

variable {tables : UnicodeTables}

/-! ## Values -/

mutual

/-- A value without what is stored under sensitive keys. -/
def publicPart (tables : UnicodeTables) : LogValue → LogValue
  | .mapping items => .mapping (publicMembers tables items)
  | .sequence items => .sequence (publicItems tables items)
  | .set items => .set (publicItems tables items)
  | value => value

def publicItems (tables : UnicodeTables) : List LogValue → List LogValue
  | [] => []
  | value :: items => publicPart tables value :: publicItems tables items

def publicMembers (tables : UnicodeTables) : List (LogKey × LogValue) → List (LogKey × LogValue)
  | [] => []
  | (key, value) :: items =>
    (key, if isSensitiveKey tables key then .none else publicPart tables value) ::
      publicMembers tables items

end

theorem not_isSensitiveKey_none : isSensitiveKey tables .none = false := by
  have hnormal : normaliseKey tables .none = py "none" := by
    rw [normaliseKey, tables.casefold_ascii _ (by decide)]
    decide
  rw [isSensitiveKey, hnormal]
  decide

theorem sensitive_iff (key : LogKey) :
    (key ≠ .none && isSensitiveKey tables key) = isSensitiveKey tables key := by
  cases key with
  | none => rw [not_isSensitiveKey_none, Bool.and_false]
  | object text => simp

mutual

/-- Redaction does not look at what is stored under sensitive keys. -/
theorem redactBody_publicPart (value : LogValue) :
    redactBody tables (publicPart tables value) = redactBody tables value := by
  cases value with
  | mapping items => rw [publicPart, redactBody, redactBody, redactMembers_publicMembers items]
  | sequence items => rw [publicPart, redactBody, redactBody, redactItems_publicItems items]
  | set items => rw [publicPart, redactBody, redactBody, redactItems_publicItems items]
  | none | bool | int | float | str | bytes | other => rfl

theorem redactItems_publicItems (items : List LogValue) :
    redactItems tables (publicItems tables items) = redactItems tables items := by
  cases items with
  | nil => rfl
  | cons value items =>
    rw [publicItems, redactItems, redactItems, redactBody_publicPart value,
      redactItems_publicItems items]

theorem redactMembers_publicMembers (items : List (LogKey × LogValue)) :
    redactMembers tables (publicMembers tables items) = redactMembers tables items := by
  cases items with
  | nil => rfl
  | cons item items =>
    rw [publicMembers, redactMembers, redactMembers, redactMembers_publicMembers items,
      sensitive_iff]
    split_ifs
    · rfl
    · rw [redactBody_publicPart item.2]

end

/-- Values that differ only under sensitive keys are redacted alike. -/
theorem redactValue_congr {a b : LogValue} (h : publicPart tables a = publicPart tables b)
    (key : LogKey) :
    redactValue tables a key = redactValue tables b key := by
  rw [redactValue, redactValue, ← redactBody_publicPart a, h, redactBody_publicPart b]

/-! ## Keys and secrets in texts -/

/-- `[A-Za-z0-9]`, in ASCII. -/
def isSecretCharacter (c : ℕ) : Bool := c < 0x80 && isAlphanumeric (fold c)

/-- `[-_A-Za-z0-9]`, in ASCII. -/
def isKeyCharacter (c : ℕ) : Bool := isSecretCharacter c || isOneOf "-_" c

/-- A secret of ASCII letters and digits. -/
structure Secret (v : PyStr) : Prop where
  nonempty : v ≠ []
  chars : ∀ c ∈ v, isSecretCharacter c = true

/-- A field with a value, after some text and before some more. -/
def logged (p k v q : PyStr) : PyStr := (p ++ 0x20 :: (k ++ [0x3d])) ++ (v ++ 0x20 :: q)

/-- One of the names of `_SENSITIVE_FIELD_PATTERN` stands at the beginning of the key, or after a
hyphen or an underscore. -/
def NamesField (k : PyStr) : Prop :=
  ∃ a m b, k = a ++ (m ++ b) ∧ (∀ c ∈ a.getLast?, isOneOf "-_" c = true) ∧ sensitiveName.Reads m

theorem secretCharacter {c : ℕ} (hc : isSecretCharacter c = true) :
    isKeyCharacter c = true ∧ isAlphanumeric (fold c) = true :=
  ⟨by rw [isKeyCharacter, hc, Bool.true_or], (Bool.and_eq_true_iff.1 hc).2⟩

theorem mem_of_isOneOf {chars : String} {c : ℕ} (hc : isOneOf chars c = true) :
    c ∈ chars.toList.map Char.toNat := by
  obtain ⟨d, hd, hcd⟩ := List.any_eq_true.1 hc
  exact List.mem_map.2 ⟨d, hd, (of_decide_eq_true hcd).symm⟩

theorem keyCharacter_ascii {c : ℕ} (hc : isKeyCharacter c = true) : c < 0x80 := by
  rw [isKeyCharacter, Bool.or_eq_true_iff] at hc
  obtain hc | hc := hc
  · exact of_decide_eq_true (Bool.and_eq_true_iff.1 hc).1
  · have hall : ∀ c ∈ "-_".toList.map Char.toNat, c < 0x80 := by decide
    exact hall c (mem_of_isOneOf hc)

/-- The characters of keys are those of bare values, and mean nothing else to the patterns. -/
theorem keyCharacter {c : ℕ} (hc : isKeyCharacter c = true) :
    isBare c = true ∧ isWhitespace c = false ∧ isQuote c = false ∧ isOneOf ":=" c = false ∧
      isOneOf "\n" c = false ∧ (isAlphanumeric (fold c) || isOneOf "-_" c) = true := by
  have hall : ∀ c < 0x80, isKeyCharacter c = true → isBare c = true ∧ isWhitespace c = false ∧
      isQuote c = false ∧ isOneOf ":=" c = false ∧ isOneOf "\n" c = false ∧
      (isAlphanumeric (fold c) || isOneOf "-_" c) = true := by
    decide
  exact hall c (keyCharacter_ascii hc) hc

theorem not_isAlphanumeric_of_isOneOf {c : ℕ} (hc : isOneOf "-_" c = true) :
    isAlphanumeric (fold c) = false := by
  have hall : ∀ c ∈ "-_".toList.map Char.toNat, isAlphanumeric (fold c) = false := by decide
  exact hall c (mem_of_isOneOf hc)

/-! ## Two texts with different secrets -/

abbrev LogCursor := Cursor PatternGroup ℕ

/-- Two matches of an assignment are replaced alike, and end before
the field or after the secret. -/
structure Ends (field v w rest : PyStr) (s t : LogCursor) : Prop where
  lead : s.groups .lead = t.groups .lead
  quote : s.groups .quote = t.groups .quote
  rest : (∃ b, field <:+ b ∧ s.rest = b ++ (v ++ rest) ∧ t.rest = b ++ (w ++ rest) ∧
    s.last = t.last) ∨
    s.rest = t.rest ∧ (s.rest = rest ∨ s.last = t.last)

/-- The continuation finds the closing quote at a cursor, or nothing. -/
def Closes (c : ℕ) (lead : Option PyStr) (groups : PatternMatch)
    (f : LogCursor → List LogCursor) : Prop :=
  ∀ t, t.groups = groups → t.rest.head? ≠ some c ∧ f t = [] ∨ ∃ m, f t = [m] ∧
    t.rest = c :: m.rest ∧ m.last = some c ∧
    m.groups .lead = lead ∧ m.groups .quote = some [c]

section Matches

variable {field v w rest : PyStr} {c : ℕ} {lead : Option PyStr} {f f' : LogCursor → List LogCursor}
  {P : ℕ → Bool} {groups groups' : PatternMatch}

/-- A quote that is closed after both secrets. -/
theorem closes_after (hf : Closes c lead groups f) (hf' : Closes c lead groups' f') (text : PyStr)
    (last last' : Option ℕ) : List.Forall₂ (Ends field v w rest)
      ((stops P groups last text).flatMap f) ((stops P groups' last' text).flatMap f') := by
  have hhere : ∀ (text : PyStr) (last last' : Option ℕ), List.Forall₂ (Ends field v w rest)
      (f ⟨last, text, groups⟩) (f' ⟨last', text, groups'⟩) := by
    intro text last last'
    obtain ⟨hne, hnil⟩ | ⟨m, hm, hrest, hlast, hlead, hquote⟩ := hf ⟨last, text, groups⟩ rfl
    · obtain ⟨-, hnil'⟩ | ⟨m', -, hrest', -⟩ := hf' ⟨last', text, groups'⟩ rfl
      · rw [hnil, hnil']
        exact .nil
      · exact absurd (congrArg List.head? hrest') hne
    · obtain ⟨hne', -⟩ | ⟨m', hm', hrest', hlast', hlead', hquote'⟩ :=
        hf' ⟨last', text, groups'⟩ rfl
      · exact absurd (congrArg List.head? hrest) hne'
      · have hsame : m.rest = m'.rest := (List.cons.inj (hrest.symm.trans hrest')).2
        rw [hm, hm']
        exact .cons ⟨hlead.trans hlead'.symm, hquote.trans hquote'.symm,
          .inr ⟨hsame, .inr (hlast.trans hlast'.symm)⟩⟩ .nil
  induction text generalizing last last' with
  | nil =>
    rw [stops, stops, List.flatMap_singleton, List.flatMap_singleton]
    exact hhere [] last last'
  | cons d text ih =>
    rw [stops, stops, List.flatMap_cons, List.flatMap_cons]
    refine List.rel_append (hhere _ _ _) ?_
    split_ifs
    · exact ih _ _
    · exact .nil

/-- A quote is not closed within a secret. -/
theorem closes_secret (hf : Closes c lead groups f) (hv : ∀ d ∈ v, d ≠ c ∧ P d = true)
    (last : Option ℕ) :
    (stops P groups last (v ++ rest)).flatMap f =
      (stops P groups (v.getLast?.or last) rest).flatMap f := by
  induction v generalizing last with
  | nil => rfl
  | cons d v ih =>
    obtain ⟨⟨hd, hP⟩, hv⟩ := List.forall_mem_cons.1 hv
    obtain ⟨-, hnil⟩ | ⟨m, -, hrest, -⟩ := hf ⟨last, d :: v ++ rest, groups⟩ rfl
    · rw [List.cons_append, stops, List.flatMap_cons, if_pos hP, ih hv,
        ← List.cons_append, hnil, List.nil_append]
      cases v with
      | nil => rfl
      | cons => simp [List.getLast?_cons]
    · exact absurd (List.cons.inj hrest).1 hd

theorem suffix_of_suffix_cons {d : ℕ} {l m : PyStr} {text : PyStr} (hl : d :: l <:+ text)
    (hm : m <:+ text)
    (hd : d ∉ m) : m <:+ l := by
  obtain h | h := List.suffix_or_suffix_of_suffix hm hl
  · obtain rfl | h := List.suffix_cons_iff.1 h
    · exact absurd List.mem_cons_self hd
    · exact h
  · exact absurd (h.subset List.mem_cons_self) hd

/-- The closing quotes are the same in both texts. -/
theorem closes_near {text : PyStr} (hf : Closes c lead groups f) (hf' : Closes c lead groups' f')
    (hv : ∀ d ∈ v, d ≠ c ∧ P d = true) (hw : ∀ d ∈ w, d ≠ c ∧ P d = true) (hfield : field <:+ text)
    (hc : c ∉ field) {b : PyStr} (hb : b <:+ text) (last last' : Option ℕ) :
    List.Forall₂ (Ends field v w rest) ((stops P groups last (b ++ (v ++ rest))).flatMap f)
      ((stops P groups' last' (b ++ (w ++ rest))).flatMap f') := by
  induction b generalizing last last' with
  | nil =>
    rw [List.nil_append, List.nil_append, closes_secret hf hv, closes_secret hf' hw]
    exact closes_after hf hf' rest _ _
  | cons d b ih =>
    rw [List.cons_append, List.cons_append, stops, stops, List.flatMap_cons, List.flatMap_cons]
    refine List.rel_append ?_ ?_
    · obtain ⟨hne, hnil⟩ | ⟨m, hm, hrest, hlast, hlead, hquote⟩ :=
        hf ⟨last, d :: (b ++ (v ++ rest)), groups⟩ rfl
      · obtain ⟨-, hnil'⟩ | ⟨m', -, hrest', -⟩ := hf' ⟨last', d :: (b ++ (w ++ rest)), groups'⟩ rfl
        · rw [hnil, hnil']
          exact .nil
        · exact absurd (congrArg some (List.cons.inj hrest').1) hne
      · obtain ⟨hne', -⟩ | ⟨m', hm', hrest', hlast', hlead', hquote'⟩ :=
          hf' ⟨last', d :: (b ++ (w ++ rest)), groups'⟩ rfl
        · exact absurd (congrArg some (List.cons.inj hrest).1) hne'
        · obtain ⟨rfl, htail⟩ := List.cons.inj hrest
          rw [hm, hm']
          exact .cons ⟨hlead.trans hlead'.symm, hquote.trans hquote'.symm, .inl ⟨b,
            suffix_of_suffix_cons hb hfield hc, htail.symm, (List.cons.inj hrest').2.symm,
            hlast.trans hlast'.symm⟩⟩ .nil
    · split_ifs
      · exact ih ((List.suffix_cons d b).trans hb) _ _
      · exact .nil

/-- A quoted value ends at one of the closing quotes. -/
theorem run_quotedValue {s : LogCursor} {text : PyStr} (hs : s.rest = c :: text)
    (hc : isQuote c = true) :
    ∃ f, Closes c (s.groups .lead) (Function.update s.groups .quote (some [c])) f ∧
      quotedValue.run s = (stops isQuotedCharacter (Function.update s.groups .quote (some [c]))
        (some c) text).flatMap f := by
  refine ⟨fun t => (backreference PatternGroup.quote).run
    { t with
      groups := Function.update t.groups .quoted
        (some (text.take (text.length - t.rest.length))) }, ?_, ?_⟩
  · intro t ht
    have hquote : (Function.update t.groups .quoted
        (some (text.take (text.length - t.rest.length)))) PatternGroup.quote = some [c] := by
      rw [Function.update_of_ne (by decide), ht, Function.update_self]
    have hlead : (Function.update t.groups .quoted
        (some (text.take (text.length - t.rest.length)))) PatternGroup.lead = s.groups .lead := by
      rw [Function.update_of_ne (by decide), ht, Function.update_of_ne (by decide)]
    have hrun := run_backreference_of_some (i := .quote) (s := { t with
      groups := Function.update t.groups .quoted
        (some (text.take (text.length - t.rest.length))) }) hquote
    dsimp only at hrun ⊢
    rw [hrun]
    cases hrest : t.rest with
    | nil => exact .inl ⟨nofun, if_neg (by simp)⟩
    | cons d r =>
      by_cases hd : c = d
      · subst hd
        refine .inr ⟨_, if_pos ⟨r, rfl⟩, rfl, rfl, ?_, ?_⟩
        · rw [← hrest]
          exact hlead
        · rw [← hrest]
          exact hquote
      · refine .inl ⟨fun h => hd (Option.some.inj h).symm, if_neg fun h => hd ?_⟩
        exact (List.cons_prefix_cons.1 h).1
  · have hopen : (group PatternGroup.quote (one isQuote)).run s =
        [⟨some c, text, Function.update s.groups .quote (some [c])⟩] := by
      rw [run_group, run_one_of_cons hs, if_pos hc]
      simp [hs]
    rw [quotedValue, run_seq, hopen, List.flatMap_singleton, run_seq, run_group, run_lazily,
      List.flatMap_map]

theorem run_quotedValue_eq_nil {s : LogCursor} (hs : ∀ c ∈ s.rest.head?, isQuote c = false) :
    quotedValue.run s = [] := by
  have hopen : (group PatternGroup.quote (one isQuote)).run s = [] := by
    rw [run_group]
    cases hrest : s.rest with
    | nil => rw [run_one_of_nil hrest, List.map_nil]
    | cons c text =>
      have hc : isQuote c = false := hs c (by rw [hrest]; rfl)
      rw [run_one_of_cons hrest, if_neg (by rw [hc]; decide), List.map_nil]
  rw [quotedValue, run_seq, hopen, List.flatMap_nil]

/-- A bare value ends where both texts still agree, or takes the whole secret. -/
theorem bareValue_near {text q : PyStr} {s t : LogCursor} (hv : Secret v) (hw : Secret w)
    (hfield : field <:+ text) (hbare : ∀ d ∈ field, isBare d = true)
    (h : Near (fun b => b <:+ text) (v ++ 0x20 :: q) (w ++ 0x20 :: q) s t) :
    Option.Rel (Ends field v w (0x20 :: q)) (bareValue.run s).head? (bareValue.run t).head? := by
  have hsecret : ∀ {v : PyStr}, Secret v → ∀ d ∈ v, isBare d = true :=
    fun hv d hd => (keyCharacter (secretCharacter (hv.chars d hd)).1).1
  have hdrop : ∀ {l : PyStr}, (∀ d ∈ l, isBare d = true) →
      (l ++ 0x20 :: q).dropWhile isBare = 0x20 :: q := by
    intro l hl
    rw [List.dropWhile_append_of_pos hl, List.dropWhile_cons_of_neg (by decide)]
  obtain ⟨b, hb, hs, ht⟩ := h.rest
  rw [bareValue, run_group, run_group, List.head?_map, List.head?_map]
  cases b with
  | nil =>
    obtain ⟨c, v, rfl⟩ := List.exists_cons_of_ne_nil hv.nonempty
    obtain ⟨d, w, rfl⟩ := List.exists_cons_of_ne_nil hw.nonempty
    obtain ⟨hc, hv'⟩ := List.forall_mem_cons.1 (hsecret hv)
    obtain ⟨hd, hw'⟩ := List.forall_mem_cons.1 (hsecret hw)
    have hs : s.rest = c :: (v ++ 0x20 :: q) := hs
    have ht : t.rest = d :: (w ++ 0x20 :: q) := ht
    rw [head?_run_oneOrMore hs hc, head?_run_oneOrMore ht hd, hdrop hv', hdrop hw']
    refine .some ⟨?_, ?_, .inr ⟨rfl, .inl rfl⟩⟩
    · simp [h.groups]
    · simp [h.groups]
  | cons c b =>
    have hs : s.rest = c :: (b ++ (v ++ 0x20 :: q)) := hs
    have ht : t.rest = c :: (b ++ (w ++ 0x20 :: q)) := ht
    by_cases hc : isBare c = true
    · rw [head?_run_oneOrMore hs hc, head?_run_oneOrMore ht hc]
      refine .some ⟨by simp [h.groups], by simp [h.groups], ?_⟩
      dsimp only
      by_cases hall : ∀ d ∈ b, isBare d = true
      · right
        have hend : ∀ {v : PyStr}, Secret v →
            (b ++ (v ++ 0x20 :: q)).dropWhile isBare = 0x20 :: q := by
          intro v hv
          rw [List.dropWhile_append_of_pos hall, hdrop (hsecret hv)]
        rw [hend hv, hend hw]
        exact ⟨rfl, .inl rfl⟩
      · left
        have hne : b.dropWhile isBare ≠ [] := fun h => hall (List.dropWhile_eq_nil_iff.1 h)
        have hshort : (b.takeWhile isBare).length ≠ b.length := by
          intro hlength
          refine hne ?_
          have hsplit :=
            congrArg List.length (List.takeWhile_append_dropWhile (p := isBare) (l := b))
          rw [List.length_append, hlength, Nat.add_eq_left] at hsplit
          exact List.eq_nil_of_length_eq_zero hsplit
        refine ⟨b.dropWhile isBare, ?_, ?_, ?_, ?_⟩
        · obtain ⟨d, b', hd⟩ := List.exists_cons_of_ne_nil hne
          have hlast : isBare d = false := by
            have hhead := List.head?_dropWhile_not isBare b
            rw [hd] at hhead
            simpa using hhead
          have hb' : d :: b' <:+ text :=
            hd ▸ ((List.dropWhile_suffix isBare).trans (List.suffix_cons c b)).trans hb
          rw [hd]
          refine (suffix_of_suffix_cons hb' hfield fun hmem => ?_).trans (List.suffix_cons d b')
          exact Bool.noConfusion (hlast.symm.trans (hbare d hmem))
        · rw [List.dropWhile_append, if_neg (by simpa using hne)]
        · rw [List.dropWhile_append, if_neg (by simpa using hne)]
        · rw [List.takeWhile_append, if_neg hshort, List.takeWhile_append, if_neg hshort]
    · rw [run_oneOrMore_eq_nil (by rw [hs]; simpa using hc),
        run_oneOrMore_eq_nil (by rw [ht]; simpa using hc)]
      exact .none

/-- The value of an assignment in both texts. -/
theorem value_near {text q : PyStr} {s t : LogCursor} (hv : Secret v) (hw : Secret w)
    (hfield : field <:+ text) (hchars : ∀ d ∈ field, isBare d = true ∧ isQuote d = false)
    (h : Near (fun b => b <:+ text) (v ++ 0x20 :: q) (w ++ 0x20 :: q) s t) :
    Option.Rel (Ends field v w (0x20 :: q)) ((alt quotedValue bareValue).run s).head?
      ((alt quotedValue bareValue).run t).head? := by
  have hsecret : ∀ {v : PyStr}, Secret v → ∀ d ∈ v, isQuote d = false ∧
      isQuotedCharacter d = true := by
    intro v hv d hd
    obtain ⟨-, -, hquote, -, hline, -⟩ := keyCharacter (secretCharacter (hv.chars d hd)).1
    exact ⟨hquote, by rw [isQuotedCharacter, hline, Bool.not_false]⟩
  have hbare := bareValue_near hv hw hfield (fun d hd => (hchars d hd).1) h
  have hhead : ∀ {v : PyStr}, Secret v → ∀ c ∈ (v ++ 0x20 :: q).head?, isQuote c = false := by
    intro v hv c hc
    obtain ⟨d, v, rfl⟩ := List.exists_cons_of_ne_nil hv.nonempty
    obtain rfl := Option.some.inj hc
    exact (hsecret hv d List.mem_cons_self).1
  obtain ⟨b, hb, hs, ht⟩ := h.rest
  rw [run_alt, run_alt]
  cases b with
  | nil =>
    rw [run_quotedValue_eq_nil (by rw [hs]; exact hhead hv),
      run_quotedValue_eq_nil (by rw [ht]; exact hhead hw)]
    exact hbare
  | cons c b =>
    cases hc : isQuote c with
    | false =>
      rw [run_quotedValue_eq_nil (by rw [hs]; simpa using hc),
        run_quotedValue_eq_nil (by rw [ht]; simpa using hc)]
      exact hbare
    | true =>
      obtain ⟨f, hf, hrun⟩ := run_quotedValue hs hc
      obtain ⟨f', hf', hrun'⟩ := run_quotedValue ht hc
      have hne : ∀ {v : PyStr}, Secret v → ∀ d ∈ v, d ≠ c ∧ isQuotedCharacter d = true := by
        intro v hv d hd
        refine ⟨?_, (hsecret hv d hd).2⟩
        rintro rfl
        exact Bool.noConfusion (hc.symm.trans (hsecret hv d hd).1)
      rw [hrun, hrun']
      refine head?_append_rel ?_ hbare
      rw [h.groups] at hf ⊢
      exact closes_near hf hf' (hne hv) (hne hw) hfield
        (fun hmem => Bool.noConfusion (hc.symm.trans (hchars c hmem).2))
        ((List.suffix_cons c b).trans hb) _ _

end Matches

/-! ## One match -/

/-- The first match of an assignment, where it begins before the secret. -/
theorem sensitiveAssignment_near {k v w text q : PyStr} {s t : LogCursor} (hv : Secret v)
    (hw : Secret w)
    (hk : ∀ c ∈ k, isKeyCharacter c = true) (hfield : k ++ [0x3d] <:+ text)
    (h : Near (fun b => b <:+ text ∧ b ≠ []) (v ++ 0x20 :: q) (w ++ 0x20 :: q) s t) :
    Option.Rel (Ends (k ++ [0x3d]) v w (0x20 :: q)) (sensitiveAssignment.run s).head?
      (sensitiveAssignment.run t).head? := by
  have hchars : ∀ d ∈ k ++ [0x3d], isBare d = true ∧ isQuote d = false := by
    intro d hd
    obtain hd | hd := List.mem_append.1 hd
    · obtain ⟨hbare, -, hquote, -⟩ := keyCharacter (hk d hd)
      exact ⟨hbare, hquote⟩
    · obtain rfl := List.mem_singleton.1 hd
      decide
  have hhead : ∀ {v : PyStr}, Secret v → ∀ c ∈ (v ++ 0x20 :: q).head?, isWhitespace c = false := by
    intro v hv c hc
    obtain ⟨d, v, rfl⟩ := List.exists_cons_of_ne_nil hv.nonempty
    obtain rfl := Option.some.inj hc
    exact (keyCharacter (secretCharacter (hv.chars d List.mem_cons_self)).1).2.1
  -- the equals sign before the secret is only read by the separator
  have hlast : ∀ c b, c :: b <:+ text ∧ c :: b ≠ [] → c ≠ 0x3d → b <:+ text ∧ b ≠ [] := by
    rintro c b ⟨hb, -⟩ hc
    refine ⟨(List.suffix_cons c b).trans hb, ?_⟩
    rintro rfl
    obtain ⟨a, rfl⟩ := hb
    obtain ⟨a', ha'⟩ := hfield
    rw [← List.append_assoc] at ha'
    exact hc (List.singleton_inj.1 (List.append_inj' ha' rfl).2).symm
  have hnil : ¬ (([] : PyStr) <:+ text ∧ ([] : PyStr) ≠ []) := fun h => h.2 rfl
  have hlead : List.Forall₂ (Near (fun b => b <:+ text) (v ++ 0x20 :: q) (w ++ 0x20 :: q))
      ((group .lead (seq assignmentField separator)).run s)
      ((group .lead (seq assignmentField separator)).run t) := by
    refine run_near_group h (List.rel_flatMap (run_near (e := 0x3d) (by rfl) hlast hnil h) ?_)
    intro s t h
    refine List.rel_flatMap (run_near (e := 0x3d) (by rfl) hlast hnil h) ?_
    intro s t h
    refine List.rel_flatMap
      (run_near_one (fun c b hb _ => (List.suffix_cons c b).trans hb.1) hnil h) ?_
    intro s t h
    exact run_near_many (fun c b hb _ => (List.suffix_cons c b).trans hb) (fun _ => hhead hv)
      (fun _ => hhead hw) h
  exact head?_flatMap_rel hlead fun s t h => value_near hv hw hfield hchars h

/-! ## What the patterns read -/

theorem literal_reads {word u : PyStr} : (literal word).Reads u ↔ u.map fold = word := by
  induction word generalizing u with
  | nil => exact List.map_eq_nil_iff.symm
  | cons c word ih =>
    constructor
    · rintro ⟨x, y, rfl, ⟨d, rfl, hd⟩, hy⟩
      rw [List.singleton_append, List.map_cons, ih.1 hy, of_decide_eq_true hd]
    · intro hu
      obtain ⟨d, u, rfl, hd, hu⟩ := List.map_eq_cons_iff.1 hu
      exact ⟨[d], u, rfl, ⟨d, rfl, decide_eq_true hd⟩, ih.2 hu⟩

theorem anyOf_reads {rs : List LogPattern} {u : PyStr} (h : (anyOf rs).Reads u) :
    ∃ r ∈ rs, r.Reads u := by
  induction rs with
  | nil =>
    obtain ⟨c, -, hc⟩ := h
    cases hc
  | cons r rs ih =>
    cases rs with
    | nil => exact ⟨r, List.mem_cons_self, h⟩
    | cons r' rs =>
      obtain h | h := h
      · exact ⟨r, List.mem_cons_self, h⟩
      · obtain ⟨r'', hmem, hr⟩ := ih h
        exact ⟨r'', List.mem_cons_of_mem _ hmem, hr⟩

theorem reads_anyOf {rs : List LogPattern} {u : PyStr} {r : LogPattern} (hmem : r ∈ rs)
    (h : r.Reads u) :
    (anyOf rs).Reads u := by
  induction rs with
  | nil => cases hmem
  | cons r' rs ih =>
    cases rs with
    | nil =>
      obtain rfl := List.mem_singleton.1 hmem
      exact h
    | cons =>
      obtain rfl | hmem := List.mem_cons.1 hmem
      · exact .inl h
      · exact .inr (ih hmem)

theorem joined_first {words : List PyStr} {c : ℕ}
    (hc : words.head?.bind List.head? = some c) {m : PyStr}
    (h : (joined words).Reads m) : ∃ d l, m = d :: l ∧ fold d = c := by
  obtain ⟨word, hword, hfirst⟩ := Option.bind_eq_some_iff.1 hc
  obtain ⟨words, rfl⟩ := List.head?_eq_some_iff.1 hword
  obtain ⟨word, rfl⟩ := List.head?_eq_some_iff.1 hfirst
  have hliteral : ∃ x y, m = x ++ y ∧ (literal (c :: word)).Reads x := by
    cases words with
    | nil => exact ⟨m, [], (List.append_nil m).symm, h⟩
    | cons =>
      obtain ⟨x, y, rfl, hx, -⟩ := h
      exact ⟨x, y, rfl, hx⟩
  obtain ⟨x, y, rfl, hx⟩ := hliteral
  obtain ⟨d, x, rfl, hd, -⟩ := List.map_eq_cons_iff.1 (literal_reads.1 hx)
  exact ⟨d, x ++ y, rfl, hd⟩

/-- Every name begins with a letter. -/
theorem sensitiveName_reads {m : PyStr} (h : sensitiveName.Reads m) :
    ∃ c l, m = c :: l ∧ isAlphanumeric (fold c) = true := by
  obtain ⟨r, hr, hm⟩ := anyOf_reads h
  obtain ⟨words, hwords, rfl⟩ := List.mem_map.1 hr
  have hall : ∀ words ∈ sensitiveNames,
      (words.head?.bind List.head?).any isAlphanumeric = true := by
    decide
  obtain ⟨c, hfirst, hc⟩ := (Option.any_eq_true _ _).1 (hall words hwords)
  obtain ⟨d, l, rfl, rfl⟩ := joined_first hfirst hm
  exact ⟨d, l, rfl, hc⟩

theorem separator_reads {u : PyStr} (h : separator.Reads u) : ∃ x c y, u = x ++ c :: y ∧
    (∀ d ∈ x, isWhitespace d = true) ∧ isOneOf ":=" c = true := by
  obtain ⟨x, y, rfl, hx, z, y, rfl, ⟨c, rfl, hc⟩, -⟩ := h
  exact ⟨x, c, y, rfl, hx, hc⟩

/-- What an assignment reads before its value: a field, perhaps in quotes, and the separator. -/
theorem sensitiveAssignment_reads {u : PyStr} (h : sensitiveAssignment.Reads u) :
    ∃ o m b o' x c y, u = o ++ (m ++ (b ++ (o' ++ (x ++ c :: y)))) ∧ (∀ d ∈ o, isQuote d = true) ∧
      sensitiveName.Reads m ∧ (∀ d ∈ o', isQuote d = true) ∧ (∀ d ∈ x, isWhitespace d = true) ∧
      isOneOf ":=" c = true := by
  have hquote : ∀ {o : PyStr}, (opt (one isQuote) : LogPattern).Reads o → ∀ d ∈ o,
      isQuote d = true := by
    rintro o (⟨c, rfl, hc⟩ | rfl) d hd
    · exact List.mem_singleton.1 hd ▸ hc
    · cases hd
  obtain ⟨lead, value, rfl, ⟨n, rest, rfl, ⟨nothing, n, rfl, rfl, o, n, rfl, ho, n, o', rfl,
    ⟨m, b, rfl, hm, -⟩, ho'⟩, hseparator⟩, -⟩ := h
  obtain ⟨x, c, y, rfl, hx, hc⟩ := separator_reads hseparator
  refine ⟨o, m, b, o', x, c, y ++ value, ?_, hquote ho, hm, hquote ho', hx, hc⟩
  simp

theorem sensitiveAssignment_reads_ne_nil {u : PyStr} (h : sensitiveAssignment.Reads u) :
    u ≠ [] := by
  obtain ⟨o, m, b, o', x, c, y, rfl, -⟩ := sensitiveAssignment_reads h
  simp

/-- No assignment begins with a space. -/
theorem sensitiveAssignment_run_space (last : Option ℕ) (q : PyStr) (groups : PatternMatch) :
    sensitiveAssignment.run ⟨last, 0x20 :: q, groups⟩ = [] := by
  rw [List.eq_nil_iff_forall_not_mem]
  intro t ht
  obtain ⟨u, hu, hafter⟩ := run_reads ht
  obtain ⟨o, m, b, o', x, c, y, rfl, ho, hm, -⟩ := sensitiveAssignment_reads hu
  have hrest := hafter.rest
  cases o with
  | nil =>
    obtain ⟨d, l, rfl, hd⟩ := sensitiveName_reads hm
    obtain rfl : 0x20 = d := (List.cons.inj hrest).1
    revert hd
    decide
  | cons d o =>
    obtain rfl : 0x20 = d := (List.cons.inj hrest).1
    have hspace := ho _ List.mem_cons_self
    revert hspace
    decide

/-- A field that begins at its name is found. -/
theorem sensitiveAssignment_run_ne_nil {m b v q : PyStr} (hm : sensitiveName.Reads m)
    (hb : ∀ c ∈ b, isKeyCharacter c = true) (hv : Secret v) {last : Option ℕ}
    (hlast : ∀ c ∈ last, isAlphanumeric (fold c) = false) (groups : PatternMatch) :
    sensitiveAssignment.run ⟨last, ((m ++ b) ++ [0x3d]) ++ (v ++ 0x20 :: q), groups⟩ ≠ [] := by
  have hfield : (seq (opt (one isQuote)) (seq sensitiveField (opt (one isQuote))) :
    LogPattern).Reads
      (m ++ b) := by
    refine ⟨[], m ++ b, rfl, .inr rfl, m ++ b, [], (List.append_nil _).symm,
      ⟨m, b, rfl, hm, ?_⟩, .inr rfl⟩
    exact fun c hc => (keyCharacter (hb c hc)).2.2.2.2.2
  have hseparator : separator.Reads [0x3d] :=
    ⟨[], [0x3d], rfl, nofun, [0x3d], [], rfl, ⟨0x3d, rfl, by decide⟩, nofun⟩
  have hvalue : bareValue.Reads v := by
    obtain ⟨c, v, rfl⟩ := List.exists_cons_of_ne_nil hv.nonempty
    have hchars := List.forall_mem_cons.1 fun d hd =>
      (keyCharacter (secretCharacter (hv.chars d hd)).1).1
    exact ⟨[c], v, rfl, ⟨c, rfl, hchars.1⟩, hchars.2⟩
  obtain ⟨s₁, hs₁, hrest₁, -⟩ := exists_run (by rfl) hfield last
    ([0x3d] ++ (v ++ 0x20 :: q)) groups
  obtain ⟨s₂, hs₂, hrest₂, -⟩ := exists_run (by rfl) hseparator s₁.last
    (v ++ 0x20 :: q) s₁.groups
  have hstart : notAfterAlphanumeric.run ⟨last, ((m ++ b) ++ [0x3d]) ++ (v ++ 0x20 :: q), groups⟩ =
      [⟨last, ((m ++ b) ++ [0x3d]) ++ (v ++ 0x20 :: q), groups⟩] := by
    rw [notAfterAlphanumeric, run_notAfter]
    cases last with
    | none => rfl
    | some c => simp [hlast c rfl]
  have hlead : s₂ ∈ (seq assignmentField separator).run
      ⟨last, ((m ++ b) ++ [0x3d]) ++ (v ++ 0x20 :: q), groups⟩ := by
    refine List.mem_flatMap.2 ⟨s₁, ?_, ?_⟩
    · rw [assignmentField, run_seq, hstart, List.flatMap_singleton, List.append_assoc]
      exact hs₁
    · rw [← hrest₁] at hs₂
      exact hs₂
  obtain ⟨s₂', hs₂', hrest₂'⟩ : ∃ s' ∈ (group PatternGroup.lead (seq assignmentField separator)).run
      ⟨last, ((m ++ b) ++ [0x3d]) ++ (v ++ 0x20 :: q), groups⟩, s'.rest = v ++ 0x20 :: q :=
    ⟨_, List.mem_map.2 ⟨s₂, hlead, rfl⟩, hrest₂⟩
  obtain ⟨s₃, hs₃, -⟩ := exists_run (by rfl) hvalue s₂'.last (0x20 :: q) s₂'.groups
  rw [← hrest₂'] at hs₃
  have hmatch : s₃ ∈
      sensitiveAssignment.run ⟨last, ((m ++ b) ++ [0x3d]) ++ (v ++ 0x20 :: q), groups⟩ :=
    List.mem_flatMap.2 ⟨s₂', hs₂', List.mem_append_right _ hs₃⟩
  exact List.ne_nil_of_mem hmatch

/-! ## The whole text -/

/-- At the field itself a match is found. -/
theorem head?_run_field {p a m b v q z : PyStr} (hv : Secret v)
    (hk : ∀ c ∈ a ++ (m ++ b), isKeyCharacter c = true)
    (ha : ∀ c ∈ a.getLast?, isOneOf "-_" c = true)
    (hm : sensitiveName.Reads m)
    (htext : z ++ ((m ++ b) ++ [0x3d]) = p ++ 0x20 :: ((a ++ (m ++ b)) ++ [0x3d])) :
    (sensitiveAssignment.run
      ⟨z.getLast?, ((m ++ b) ++ [0x3d]) ++ (v ++ 0x20 :: q), fun _ => none⟩).head? ≠ none := by
  have hz : z = p ++ 0x20 :: a := by
    refine (List.append_left_inj ((m ++ b) ++ [0x3d])).1 ?_
    rw [htext]
    simp
  have hlast : ∀ c ∈ z.getLast?, isAlphanumeric (fold c) = false := by
    intro c hc
    rw [hz, List.getLast?_append, List.getLast?_cons, Option.some_or] at hc
    obtain rfl := Option.some.inj hc
    cases hcase : a.getLast? with
    | none => decide
    | some d => exact not_isAlphanumeric_of_isOneOf (ha d hcase)
  have hb : ∀ c ∈ b, isKeyCharacter c = true :=
    fun c hc => hk c (List.mem_append_right _ (List.mem_append_right _ hc))
  exact fun h => sensitiveAssignment_run_ne_nil hm hb hv hlast _ (List.head?_eq_none_iff.1 h)

/-- Texts with different secrets under the same field are replaced alike, from every place before
the field on. -/
theorem sub_near {p a m b v w q : PyStr} (hv : Secret v) (hw : Secret w)
    (hk : ∀ c ∈ a ++ (m ++ b), isKeyCharacter c = true)
    (ha : ∀ c ∈ a.getLast?, isOneOf "-_" c = true)
    (hm : sensitiveName.Reads m) (n : ℕ) {z l : PyStr} (hn : l.length ≤ n)
    (htext : z ++ l = p ++ 0x20 :: ((a ++ (m ++ b)) ++ [0x3d])) (hl : (m ++ b) ++ [0x3d] <:+ l) :
    sensitiveAssignment.sub replaceAssignment 0 z.getLast? (l ++ (v ++ 0x20 :: q)) =
      sensitiveAssignment.sub replaceAssignment 0 z.getLast? (l ++ (w ++ 0x20 :: q)) := by
  induction n generalizing z l with
  | zero =>
    obtain rfl := List.eq_nil_of_length_eq_zero (Nat.le_zero.1 hn)
    simp at hl
  | succ n ih =>
    have hne : l ≠ [] := by
      rintro rfl
      simp at hl
    have hfield : (a ++ (m ++ b)) ++ [0x3d] <:+ z ++ l := by
      rw [htext]
      exact (List.suffix_cons _ _).trans (List.suffix_append _ _)
    have hrel := sensitiveAssignment_near hv hw hk hfield
      (s := ⟨z.getLast?, l ++ (v ++ 0x20 :: q), fun _ => none⟩)
      (t := ⟨z.getLast?, l ++ (w ++ 0x20 :: q), fun _ => none⟩)
      ⟨rfl, rfl, l, ⟨List.suffix_append z l, hne⟩, rfl, rfl⟩
    cases hs : (sensitiveAssignment.run ⟨z.getLast?, l ++ (v ++ 0x20 :: q),
      fun _ => none⟩).head? <;>
      cases ht : (sensitiveAssignment.run ⟨z.getLast?, l ++ (w ++ 0x20 :: q),
        fun _ => none⟩).head? <;>
      rw [hs, ht] at hrel
    · -- no match: the field has not come yet
      have hstart : l ≠ (m ++ b) ++ [0x3d] := by
        rintro rfl
        exact head?_run_field hv hk ha hm htext hs
      obtain ⟨c, l, rfl⟩ := List.exists_cons_of_ne_nil hne
      have hl' : (m ++ b) ++ [0x3d] <:+ l := by
        obtain h | h := List.suffix_cons_iff.1 hl
        · exact absurd h.symm hstart
        · exact h
      have hskip : ∀ {v : PyStr},
          (sensitiveAssignment.run ⟨z.getLast?, c :: l ++ (v ++ 0x20 :: q), fun _ => none⟩).head? =
            none →
          sensitiveAssignment.sub replaceAssignment 0 z.getLast? (c :: l ++ (v ++ 0x20 :: q)) =
            c :: sensitiveAssignment.sub replaceAssignment 0 (some c) (l ++ (v ++ 0x20 :: q)) :=
        fun h => sub_of_run_eq_nil (List.head?_eq_none_iff.1 h)
      have hnext := ih (z := z ++ [c]) (Nat.le_of_succ_le_succ hn) (by rw [← htext]; simp) hl'
      rw [List.getLast?_concat] at hnext
      rw [hskip hs, hskip ht, hnext]
    · cases hrel
    · cases hrel
    · rename_i s t
      obtain ⟨hends⟩ := hrel
      obtain ⟨u, hu, hafter⟩ := run_reads (List.mem_of_mem_head? hs)
      obtain ⟨u', hu', hafter'⟩ := run_reads (List.mem_of_mem_head? ht)
      have hne' := sensitiveAssignment_reads_ne_nil hu
      rw [sub_of_run hs hafter hne', sub_of_run ht hafter' (sensitiveAssignment_reads_ne_nil hu'),
        replaceAssignment, replaceAssignment, hends.lead, hends.quote]
      congr 1
      obtain ⟨l', hfield', hsrest, htrest, hlast⟩ | ⟨hrest, hlast⟩ := hends.rest
      · -- the match ends before the field
        have hsplit : l = u ++ l' := by
          have hrest : l ++ (v ++ 0x20 :: q) = u ++ s.rest := hafter.rest
          refine (List.append_left_inj (v ++ 0x20 :: q)).1 ?_
          rw [hrest, hsrest, List.append_assoc]
        have hlength : l'.length ≤ n := by
          have hpos := List.length_pos_of_ne_nil hne'
          rw [hsplit, List.length_append] at hn
          omega
        have hsuffix : (m ++ b) ++ [0x3d] <:+ (a ++ (m ++ b)) ++ [0x3d] := ⟨a, by simp⟩
        have hnext := ih (z := z ++ u) hlength (by rw [List.append_assoc, ← hsplit, htext])
          (hsuffix.trans hfield')
        rw [List.getLast?_append, ← hafter.last] at hnext
        rw [hsrest, htrest, ← hlast]
        exact hnext
      · -- the match ends after the secret
        rw [← hrest]
        obtain hspace | hlast := hlast
        · rw [hspace, sub_of_run_eq_nil (sensitiveAssignment_run_space _ _ _),
            sub_of_run_eq_nil (sensitiveAssignment_run_space _ _ _)]
        · rw [hlast]

/-- The texts are redacted alike, where the key names a field for the pattern. -/
theorem redactText_logged {k v w : PyStr} (hk : ∀ c ∈ k, isKeyCharacter c = true) (h : NamesField k)
    (p q : PyStr) (hv : Secret v) (hw : Secret w) :
    redactText tables (logged p k v q) = redactText tables (logged p k w q) := by
  obtain ⟨a, m, b, rfl, ha, hm⟩ := h
  have hl : (m ++ b) ++ [0x3d] <:+ p ++ 0x20 :: ((a ++ (m ++ b)) ++ [0x3d]) :=
    ⟨p ++ 0x20 :: a, by simp⟩
  have hsub : sensitiveAssignment.sub replaceAssignment 0 none (logged p (a ++ (m ++ b)) v q) =
      sensitiveAssignment.sub replaceAssignment 0 none (logged p (a ++ (m ++ b)) w q) :=
    sub_near (z := []) hv hw hk ha hm _ (Nat.le_refl _) (List.nil_append _) hl
  rw [redactText, redactText, hsub]

/-! ## Keys that the patterns miss -/

theorem eq_of_unique {P : ℕ → Bool} {l₁ l₂ a r : PyStr} {c e : ℕ} (h : a ++ c :: r = l₁ ++ e :: l₂)
    (hc : P c = true) (h₁ : ∀ d ∈ l₁, P d = false) (h₂ : ∀ d ∈ l₂, P d = false) :
    a = l₁ ∧ r = l₂ := by
  obtain ⟨l, rfl, hl⟩ | ⟨l, rfl, hl⟩ := List.append_eq_append_iff.1 h
  · cases l with
    | nil => exact ⟨(List.append_nil a).symm, (List.cons.inj hl).2⟩
    | cons d l =>
      obtain rfl := (List.cons.inj hl).1
      exact Bool.noConfusion (hc.symm.trans (h₁ c (by simp)))
  · cases l with
    | nil => exact ⟨List.append_nil l₁, (List.cons.inj hl).2.symm⟩
    | cons d l =>
      refine Bool.noConfusion (hc.symm.trans (h₂ c ?_))
      rw [(List.cons.inj hl).2]
      simp

/-- A field with its separator in the text of a key and a secret: the key names the field. -/
theorem namesField_of_match {k v z o m b o' x y rest : PyStr} {c : ℕ}
    (hk : ∀ c ∈ k, isKeyCharacter c = true) (hv : Secret v)
    (htext : 0x20 :: (k ++ 0x3d :: (v ++ [0x20])) =
      z ++ ((o ++ (m ++ (b ++ (o' ++ (x ++ c :: y))))) ++ rest))
    (hlast : z.getLast?.any (fun c => isAlphanumeric (fold c)) = false)
    (ho : ∀ d ∈ o, isQuote d = true) (hm : sensitiveName.Reads m) (hc : isOneOf ":=" c = true) :
    NamesField k := by
  have hsplit : (z ++ (o ++ (m ++ (b ++ (o' ++ x))))) ++ c :: (y ++ rest) =
      (0x20 :: k) ++ 0x3d :: (v ++ [0x20]) := by
    rw [List.cons_append, htext]
    simp
  obtain ⟨hfront, -⟩ := eq_of_unique (P := isOneOf ":=") hsplit hc
    (List.forall_mem_cons.2 ⟨by decide, fun d hd => (keyCharacter (hk d hd)).2.2.2.1⟩) (by
      intro d hd
      obtain hd | hd := List.mem_append.1 hd
      · exact (keyCharacter (secretCharacter (hv.chars d hd)).1).2.2.2.1
      · obtain rfl := List.mem_singleton.1 hd
        decide)
  obtain rfl : o = [] := by
    rw [List.eq_nil_iff_forall_not_mem]
    intro d hd
    have hmem : d ∈ 0x20 :: k := by
      rw [← hfront]
      simp [hd]
    have hquote : isQuote d = false := by
      obtain rfl | hd := List.mem_cons.1 hmem
      · decide
      · exact (keyCharacter (hk d hd)).2.2.1
    exact Bool.noConfusion ((ho d hd).symm.trans hquote)
  obtain ⟨e, m, rfl, he⟩ := sensitiveName_reads hm
  cases z with
  | nil =>
    obtain rfl : e = 0x20 := (List.cons.inj hfront).1
    exact absurd he (by decide)
  | cons d z =>
    obtain ⟨rfl, hk'⟩ := List.cons.inj hfront
    refine ⟨z, e :: m, b ++ (o' ++ x), hk'.symm, fun f hf => ?_, hm⟩
    have hkey := hk f (by rw [← hk']; exact List.mem_append_left _ (List.mem_of_mem_getLast? hf))
    rw [List.getLast?_cons, hf] at hlast
    rw [isKeyCharacter, Bool.or_eq_true_iff] at hkey
    obtain hkey | hkey := hkey
    · exact Bool.noConfusion ((secretCharacter hkey).2.symm.trans hlast)
    · exact hkey

theorem last_of_notAfter {r : LogPattern} {s t : LogCursor}
    (h : t ∈ (seq notAfterAlphanumeric r).run s) :
    s.last.any (fun c => isAlphanumeric (fold c)) = false := by
  obtain ⟨m, hm, -⟩ := List.mem_flatMap.1 h
  rw [notAfterAlphanumeric, run_notAfter] at hm
  split_ifs at hm with hlast
  · cases hm
  · exact Bool.eq_false_iff.2 hlast

section Missed

variable {k v z l : PyStr} {groups : PatternMatch}

theorem sensitiveAssignment_run_missed (hk : ∀ c ∈ k, isKeyCharacter c = true) (hv : Secret v)
    (hmiss : ¬ NamesField k) (htext : 0x20 :: (k ++ 0x3d :: (v ++ [0x20])) = z ++ l) :
    sensitiveAssignment.run ⟨z.getLast?, l, groups⟩ = [] := by
  rw [List.eq_nil_iff_forall_not_mem]
  intro t ht
  obtain ⟨u, hu, hafter⟩ := run_reads ht
  obtain ⟨o, m, b, o', x, c, y, rfl, ho, hm, -, -, hc⟩ := sensitiveAssignment_reads hu
  obtain ⟨s₁, hs₁, -⟩ := List.mem_flatMap.1 ht
  obtain ⟨s₂, hs₂, -⟩ := List.mem_map.1 hs₁
  obtain ⟨s₃, hs₃, -⟩ := List.mem_flatMap.1 hs₂
  have hrest : l = (o ++ (m ++ (b ++ (o' ++ (x ++ c :: y))))) ++ t.rest := hafter.rest
  rw [hrest] at htext
  exact hmiss (namesField_of_match hk hv htext (last_of_notAfter hs₃) ho hm hc)

theorem headerPattern_run_missed {names : List (List PyStr)}
    (hnames : ∀ n ∈ names, n ∈ sensitiveNames)
    (hk : ∀ c ∈ k, isKeyCharacter c = true) (hv : Secret v) (hmiss : ¬ NamesField k)
    (htext : 0x20 :: (k ++ 0x3d :: (v ++ [0x20])) = z ++ l) :
    (headerPattern names).run ⟨z.getLast?, l, groups⟩ = [] := by
  rw [List.eq_nil_iff_forall_not_mem]
  intro t ht
  obtain ⟨u, hu, hafter⟩ := run_reads ht
  obtain ⟨lead, value, rfl, ⟨nothing, n, rfl, rfl, m, n, rfl, hm, hseparator⟩, -⟩ := hu
  obtain ⟨x, c, y, rfl, -, hc⟩ := separator_reads hseparator
  have hname : sensitiveName.Reads m := by
    obtain ⟨r, hr, hm⟩ := anyOf_reads hm
    obtain ⟨words, hwords, rfl⟩ := List.mem_map.1 hr
    exact reads_anyOf (List.mem_map.2 ⟨words, hnames words hwords, rfl⟩) hm
  obtain ⟨s₁, hs₁, -⟩ := List.mem_flatMap.1 ht
  obtain ⟨s₂, hs₂, -⟩ := List.mem_map.1 hs₁
  have hrest : l = ([] ++ (m ++ (x ++ c :: y)) ++ value) ++ t.rest := hafter.rest
  have htext' : 0x20 :: (k ++ 0x3d :: (v ++ [0x20])) =
      z ++ (([] ++ (m ++ ([] ++ ([] ++ (x ++ c :: (y ++ value)))))) ++ t.rest) := by
    rw [htext, hrest]
    simp
  exact hmiss (namesField_of_match hk hv htext' (last_of_notAfter hs₂) nofun hname hc)

/-- The scheme of an authorization header is followed by a space and more text. -/
theorem bearer_run_missed (hk : ∀ c ∈ k, isKeyCharacter c = true) (hv : Secret v)
    (htext : 0x20 :: (k ++ 0x3d :: (v ++ [0x20])) = z ++ l) :
    (bearer tables).run ⟨z.getLast?, l, groups⟩ = [] := by
  rw [List.eq_nil_iff_forall_not_mem]
  intro t ht
  obtain ⟨u, hu, hafter⟩ := run_reads ht
  obtain ⟨lead, value, rfl,
    ⟨nothing, n, rfl, rfl, m, n, rfl, hm, e, n, rfl, ⟨e, rfl, he⟩, -⟩, f, n', rfl,
    ⟨f, rfl, -⟩, -⟩ := hu
  obtain ⟨d, m, rfl⟩ : ∃ d m', m = d :: m' := by
    obtain ⟨r, hr, hm⟩ := anyOf_reads hm
    obtain ⟨word, hword, rfl⟩ := List.mem_map.1 hr
    have hall : ∀ word ∈ ["bearer", "basic", "digest"], 0 < (py word).length := by
      decide
    have hlength : 0 < m.length := by
      rw [← List.length_map (f := fold), literal_reads.1 hm]
      exact hall word hword
    exact List.exists_cons_of_ne_nil (List.ne_nil_of_length_pos hlength)
  have hrest : l = ([] ++ (d :: m ++ ([e] ++ n)) ++ ([f] ++ n')) ++ t.rest := hafter.rest
  have hwhite : ∀ d ∈ k ++ 0x3d :: v, isWhitespace d = false := by
    intro d hd
    obtain hd | hd := List.mem_append.1 hd
    · exact (keyCharacter (hk d hd)).2.1
    · obtain rfl | hd := List.mem_cons.1 hd
      · decide
      · exact (keyCharacter (secretCharacter (hv.chars d hd)).1).2.1
  have hsplit : (z ++ d :: m) ++ e :: (n ++ f :: (n' ++ t.rest)) = (0x20 :: (k ++ 0x3d :: v)) ++
      0x20 :: [] := by
    have htext' : (0x20 :: (k ++ 0x3d :: v)) ++ 0x20 :: [] = z ++ l := by
      rw [← htext]
      simp
    rw [htext', hrest]
    simp
  -- nothing follows the only space after the first character
  have hnothing : ∀ {g : ℕ} {a : PyStr}, g :: (a ++ e :: (n ++ f :: (n' ++ t.rest))) =
      0x20 :: ((k ++ 0x3d :: v) ++ 0x20 :: []) → False := by
    intro g a h
    have hend := (eq_of_unique (List.cons.inj h).2 he hwhite nofun).2
    simp at hend
  cases z with
  | nil => exact hnothing hsplit
  | cons g z => exact hnothing hsplit

/-- A text with a key that the patterns miss stays as it is. -/
theorem redactText_missed (hk : ∀ c ∈ k, isKeyCharacter c = true) (hv : Secret v)
    (hmiss : ¬ NamesField k) : redactText tables (logged [] k v []) = logged [] k v [] := by
  have htext : logged [] k v [] = 0x20 :: (k ++ 0x3d :: (v ++ [0x20])) := by
    simp [logged]
  have hself : ∀ {r : LogPattern} {replace : PatternMatch → PyStr},
      (∀ z l, 0x20 :: (k ++ 0x3d :: (v ++ [0x20])) = z ++ l →
        r.run ⟨z.getLast?, l, fun _ => none⟩ = []) →
      r.sub replace 0 none (0x20 :: (k ++ 0x3d :: (v ++ [0x20]))) =
        0x20 :: (k ++ 0x3d :: (v ++ [0x20])) := by
    intro r replace h
    refine sub_eq_self fun a c b hsplit => ?_
    rw [Option.or_none]
    exact h a (c :: b) hsplit
  rw [redactText, htext, hself fun z l h => sensitiveAssignment_run_missed hk hv hmiss
    h, authHeader,
    hself fun z l h => headerPattern_run_missed (by decide) hk hv hmiss h, cookieHeader,
    hself fun z l h => headerPattern_run_missed (by decide) hk hv hmiss h,
    hself fun z l h => bearer_run_missed hk hv h]

end Missed

/-- Values that differ only under sensitive keys are redacted alike.  Texts that differ in a secret
after a key are redacted alike, whatever stands around them, exactly when the key names a field for
the patterns. -/
theorem redaction_iff (tables : UnicodeTables) :
    (∀ a b key, publicPart tables a = publicPart tables b →
      redactValue tables a key = redactValue tables b key) ∧
    ∀ k v w, (∀ c ∈ k, isKeyCharacter c = true) → Secret v → Secret w →
      ((∀ p q, redactText tables (logged p k v q) = redactText tables (logged p k w q)) ↔
        NamesField k ∨ v = w) := by
  refine ⟨fun a b key h => redactValue_congr h key, fun k v w hk hv hw => ⟨fun h => ?_, ?_⟩⟩
  · by_cases hnames : NamesField k
    · exact .inl hnames
    · have hsame := h [] []
      rw [redactText_missed hk hv hnames, redactText_missed hk hw hnames] at hsame
      exact .inr (List.append_cancel_right (List.append_cancel_left hsame))
  · rintro (hnames | rfl) p q
    · exact redactText_logged hk hnames p q hv hw
    · rfl

/-- The tables as far as ASCII is concerned. -/
def asciiTables : UnicodeTables where
  casefold text := text.map fold
  isWordCharacter c := isAlphanumeric (fold c) || c = 0x5f
  casefold_ascii _ _ := rfl

/-- A sensitive key with its value in a text that is not redacted. -/
theorem redaction_iff_accesstoken :
    isSensitiveKey asciiTables (.object (py "accesstoken")) = true ∧
      redactText asciiTables (logged [] (py "accesstoken") (py "a") []) = py " accesstoken=a " ∧
      redactText asciiTables (logged [] (py "accesstoken") (py "b") []) = py " accesstoken=b " := by
  decide +kernel

end SelfRelay.Backend
