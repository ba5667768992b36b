import SelfRelay.Backend.RedactionLeaks
import SelfRelay.Lib.MarkedPatterns

/-!
# The rules of log redaction

Each of the four substitutions takes out the values that stand after a lead: a sensitive field, the
name of a header, or the name of an authentication scheme.
-/

namespace SelfRelay.Backend

open SelfRelay.Python Regex MarkedText

variable {tables : UnicodeTables}

/-! ## Characters -/

theorem not_alphanumeric_of_isWhitespace {c : ℕ} (hc : isWhitespace c = true) :
    isAlphanumeric (fold c) = false := by
  simp only [isWhitespace, Bool.or_eq_true, Bool.and_eq_true, decide_eq_true_eq] at hc
  simp only [fold, isAlphanumeric, Bool.and_eq_true, Bool.or_eq_true, decide_eq_true_eq,
    Bool.or_eq_false_iff,
    Bool.and_eq_false_iff, decide_eq_false_iff_not]
  split_ifs <;> omega

/-- What holds of none of the characters of a literal does not hold of one of them. -/
theorem not_of_isOneOf {chars : String} {P : ℕ → Bool}
    (h : ∀ c ∈ chars.toList.map Char.toNat, P c = false)
    {c : ℕ} (hc : P c = true) : isOneOf chars c = false := by
  cases hone : isOneOf chars c with
  | false => rfl
  | true => exact absurd hc (by simp [h c (mem_of_isOneOf hone)])

theorem of_isOneOf {chars : String} {P : ℕ → Bool}
    (h : ∀ c ∈ chars.toList.map Char.toNat, P c = false)
    {c : ℕ} (hc : isOneOf chars c = true) : P c = false := h c (mem_of_isOneOf hc)

/-- `[REDACTED]`, and the classes of characters that the patterns share. -/
def logSetting : Setting ℕ where
  opening := 0x5b
  body := py "REDACTED"
  closing := 0x5d
  space := isWhitespace
  quote := isQuote
  first c := isAlphanumeric (fold c)
  quote_closing := by decide
  first_closing := by decide
  first_quote _ hc := of_isOneOf (P := fun c => isAlphanumeric (fold c)) (by decide) hc

theorem render_placeholder : logSetting.render logSetting.placeholder = REDACTED := by decide

/-! ## Names -/

/-- `[-_ ]` or a letter or a digit. -/
def isNameCharacter (c : ℕ) : Bool := isAlphanumeric (fold c) || isOneOf "-_ " c

theorem literal_characters {word m : PyStr} (hword : ∀ c ∈ word, isAlphanumeric c = true)
    (h : (literal word).Reads m) : ∀ c ∈ m, isAlphanumeric (fold c) = true := by
  intro c hc
  refine hword _ ?_
  rw [← literal_reads.1 h]
  exact List.mem_map_of_mem hc

theorem joined_characters {words : List PyStr}
    (hwords : ∀ word ∈ words, ∀ c ∈ word, isAlphanumeric c = true)
    {m : PyStr} (h : (joined words).Reads m) : ∀ c ∈ m, isNameCharacter c = true := by
  have hliteral : ∀ {word x : PyStr}, (∀ c ∈ word, isAlphanumeric c = true) →
    (literal word).Reads x →
      ∀ c ∈ x, isNameCharacter c = true := by
    intro word x hword hx c hc
    rw [isNameCharacter, literal_characters hword hx c hc, Bool.true_or]
  induction words generalizing m with
  | nil =>
    obtain rfl := h
    nofun
  | cons word words ih =>
    obtain ⟨hword, hwords⟩ := List.forall_mem_cons.1 hwords
    cases words with
    | nil => exact hliteral hword h
    | cons =>
      obtain ⟨x, y, rfl, hx, o, y, rfl, ho, hy⟩ := h
      intro c hc
      obtain hc | hc := List.mem_append.1 hc
      · exact hliteral hword hx c hc
      · obtain hc | hc := List.mem_append.1 hc
        · obtain ⟨d, rfl, hd⟩ | rfl := ho
          · obtain rfl := List.mem_singleton.1 hc
            rw [isNameCharacter, hd, Bool.or_true]
          · cases hc
        · exact ih hwords hy c hc

/-- Names of the list begin with a letter that none of the letters after the bracket of a
placeholder is. -/
theorem name_reads {names : List (List PyStr)}
    (hnames : ∀ n ∈ names, n ∈ sensitiveNames) {m : PyStr}
    (h : (anyOf (names.map joined)).Reads m) :
    (∀ c ∈ m, isNameCharacter c = true) ∧ ∃ c l, m = c :: l ∧ isAlphanumeric (fold c) = true ∧
      fold c ≠ 0x72 := by
  obtain ⟨r, hr, hm⟩ := anyOf_reads h
  obtain ⟨words, hwords, rfl⟩ := List.mem_map.1 hr
  have hall : ∀ words ∈ sensitiveNames, (∀ word ∈ words, ∀ c ∈ word, isAlphanumeric c = true) ∧
      (words.head?.bind List.head?).any (fun c => isAlphanumeric c && !(c = 0x72)) = true := by
    decide
  obtain ⟨hchars, hfirst⟩ := hall words (hnames words hwords)
  obtain ⟨c, hc, hletter⟩ := (Option.any_eq_true _ _).1 hfirst
  obtain ⟨d, l, rfl, rfl⟩ := joined_first hc hm
  rw [Bool.and_eq_true, Bool.not_eq_true', decide_eq_false_iff_not] at hletter
  exact ⟨joined_characters hchars hm, d, l, rfl, hletter⟩

/-! ## Headers -/

def headerStem (names : List (List PyStr)) : LogPattern :=
  seq (anyOf (names.map joined)) (seq (many isWhitespace) (one (isOneOf ":=")))

theorem not_delimiter_of_name {c : ℕ} (hc : isNameCharacter c = true) : isOneOf ":=" c = false :=
  not_of_isOneOf (by decide) hc

theorem not_delimiter_of_space {c : ℕ} (hc : isWhitespace c = true) : isOneOf ":=" c = false :=
  not_of_isOneOf (by decide) hc

theorem ne_of_space {c : ℕ} (hc : isWhitespace c = true) : c ≠ 0x5b := by
  rintro rfl
  revert hc
  decide

theorem ne_of_name {c : ℕ} (hc : isNameCharacter c = true) : c ≠ 0x5b := by
  rintro rfl
  revert hc
  decide

/-- The end of a stem: some spaces and a delimiter. -/
theorem delimited_reads {u : PyStr}
    (h : (seq (many isWhitespace) (one (isOneOf ":=")) : LogPattern).Reads u) :
    ∃ x d, u = x ++ [d] ∧ (∀ c ∈ x, isWhitespace c = true) ∧ isOneOf ":=" d = true := by
  obtain ⟨x, y, rfl, hx, d, rfl, hd⟩ := h
  exact ⟨x, d, rfl, hx, hd⟩

theorem headerStem_reads {names : List (List PyStr)}
    (hnames : ∀ n ∈ names, n ∈ sensitiveNames) {n : PyStr}
    (h : (headerStem names).Reads n) :
    (∃ m d, n = m ++ [d] ∧ isOneOf ":=" d = true ∧ ∀ c ∈ m, isOneOf ":=" c = false ∧ c ≠ 0x5b) ∧
      ∃ c l, n = c :: l ∧ isAlphanumeric (fold c) = true ∧ fold c ≠ 0x72 := by
  obtain ⟨m, u, rfl, hm, hu⟩ := h
  obtain ⟨hchars, c, l, rfl, hc⟩ := name_reads hnames hm
  obtain ⟨x, d, rfl, hx, hd⟩ := delimited_reads hu
  refine ⟨⟨(c :: l) ++ x, d, by simp, hd, fun e he => ?_⟩, c, l ++ (x ++ [d]), rfl, hc⟩
  obtain he | he := List.mem_append.1 he
  · exact ⟨not_delimiter_of_name (hchars e he), ne_of_name (hchars e he)⟩
  · exact ⟨not_delimiter_of_space (hx e he), ne_of_space (hx e he)⟩

/-- The rule of a header with one of the names. -/
def headerRule (names : List (List PyStr)) (hnames : ∀ n ∈ names, n ∈ sensitiveNames) :
    Rule logSetting where
  stem := (headerStem names).Reads
  delimiter := isOneOf ":="
  test last _ := ∀ c ∈ last, isAlphanumeric (fold c) = false
  value c := !isOneOf "\r\n,\x7d" c
  quote _ := false
  inner _ := true
  stem_delimiter n hn := by
    obtain ⟨⟨m, d, rfl, hd, hm⟩, -⟩ := headerStem_reads hnames hn
    exact ⟨m, d, rfl, hd, fun c hc => (hm c hc).1⟩
  stem_first n hn := by
    obtain ⟨-, c, l, rfl, hc, -⟩ := headerStem_reads hnames hn
    exact ⟨c, l, rfl, hc⟩
  value_of_first c hc := by
    rw [not_of_isOneOf (P := fun c => isAlphanumeric (fold c)) (by decide) hc, Bool.not_false]
  value_opening := by decide
  quote_quote := nofun
  value_of_quote := nofun
  inner_placeholder := ⟨rfl, rfl⟩
  ends_closing := by decide
  ends_quote c hc := ⟨not_of_isOneOf (P := isQuote) (by decide) hc, of_isOneOf (by decide) hc⟩
  test_quote := nofun

/-! ## Authentication schemes -/

def schemes : List PyStr := ["bearer", "basic", "digest"].map py

def bearerStem : LogPattern := seq (anyOf (schemes.map literal)) (one isWhitespace)

/-- A scheme begins as no part of a placeholder does. -/
theorem scheme_reads {m : PyStr} (h : (anyOf (schemes.map literal)).Reads m) :
    (∀ c ∈ m, isAlphanumeric (fold c) = true) ∧
      ∃ c d l, m = c :: d :: l ∧ [fold c, fold d] ∈ [py "be", py "ba", py "di"] := by
  obtain ⟨r, hr, hm⟩ := anyOf_reads h
  obtain ⟨word, hword, rfl⟩ := List.mem_map.1 hr
  have hall : ∀ word ∈ schemes, (∀ c ∈ word, isAlphanumeric c = true) ∧ 2 ≤ word.length ∧
      word.take 2 ∈ [py "be", py "ba", py "di"] := by
    decide
  obtain ⟨hchars, hlength, hfirst⟩ := hall word hword
  refine ⟨literal_characters hchars hm, ?_⟩
  have hfold := literal_reads.1 hm
  rw [← hfold, List.length_map] at hlength
  obtain _ | ⟨c, _ | ⟨d, l⟩⟩ := m
  · simp at hlength
  · simp at hlength
  · refine ⟨c, d, l, rfl, ?_⟩
    rw [← hfold] at hfirst
    exact hfirst

theorem bearerStem_reads {n : PyStr} (h : bearerStem.Reads n) :
    (∃ m d, n = m ++ [d] ∧ isWhitespace d = true ∧ ∀ c ∈ m, isAlphanumeric (fold c) = true) ∧
      ∃ c d l, n = c :: d :: l ∧ isAlphanumeric (fold c) = true ∧
        [fold c, fold d] ∈ [py "be", py "ba", py "di"] := by
  obtain ⟨m, u, rfl, hm, d, rfl, hd⟩ := h
  obtain ⟨hchars, c, e, l, rfl, hc⟩ := scheme_reads hm
  exact ⟨⟨_, d, rfl, hd, hchars⟩, c, e, l ++ [d], rfl, hchars c List.mem_cons_self, hc⟩

theorem not_isWhitespace_of_alphanumeric {c : ℕ} (hc : isAlphanumeric (fold c) = true) :
    isWhitespace c = false := by
  cases hspace : isWhitespace c with
  | false => rfl
  | true => exact Bool.noConfusion ((not_alphanumeric_of_isWhitespace hspace).symm.trans hc)

/-- The rule of the credentials after a scheme. -/
def bearerRule (tables : UnicodeTables) : Rule logSetting where
  stem := bearerStem.Reads
  delimiter := isWhitespace
  test last c := (last.any tables.isWordCharacter != tables.isWordCharacter c) = true
  value c := !(isWhitespace c || isOneOf ",;" c)
  quote _ := false
  inner _ := true
  stem_delimiter n hn := by
    obtain ⟨⟨m, d, rfl, hd, hm⟩, -⟩ := bearerStem_reads hn
    exact ⟨m, d, rfl, hd, fun c hc => not_isWhitespace_of_alphanumeric (hm c hc)⟩
  stem_first n hn := by
    obtain ⟨-, c, d, l, rfl, hc, -⟩ := bearerStem_reads hn
    exact ⟨c, d :: l, rfl, hc⟩
  value_of_first c hc := by
    rw [not_isWhitespace_of_alphanumeric hc,
      not_of_isOneOf (P := fun c => isAlphanumeric (fold c)) (by decide) hc]
    rfl
  value_opening := by decide
  quote_quote := nofun
  value_of_quote := nofun
  inner_placeholder := ⟨rfl, rfl⟩
  ends_closing := by decide
  ends_quote c hc := ⟨of_isOneOf (by decide) hc, of_isOneOf (by decide) hc⟩
  test_quote := nofun

/-! ## Assignments -/

def assignmentStem : LogPattern :=
  seq sensitiveField (seq (opt (one isQuote)) (seq (many isWhitespace) (one (isOneOf ":="))))

theorem assignmentStem_reads {n : PyStr} (h : assignmentStem.Reads n) :
    (∃ m d, n = m ++ [d] ∧ isOneOf ":=" d = true ∧ ∀ c ∈ m, isOneOf ":=" c = false ∧ c ≠ 0x5b) ∧
      ∃ c l, n = c :: l ∧ isAlphanumeric (fold c) = true ∧ fold c ≠ 0x72 := by
  obtain ⟨f, u, rfl, ⟨m, b, rfl, hm, hb⟩, o, u, rfl, ho, hu⟩ := h
  obtain ⟨hchars, c, l, rfl, hc⟩ :=
    name_reads (fun n hn => hn) (hm : (anyOf (sensitiveNames.map joined)).Reads m)
  obtain ⟨x, d, rfl, hx, hd⟩ := delimited_reads hu
  have hb : ∀ c ∈ b, isNameCharacter c = true := by
    intro c hc
    obtain hletter | hother := Bool.or_eq_true_iff.1 (hb c hc)
    · rw [isNameCharacter, hletter, Bool.true_or]
    · exact Bool.eq_true_of_not_eq_false fun hnot => by
        have hall := of_isOneOf (P := fun c => !isNameCharacter c) (by decide) hother
        simp [hnot] at hall
  have ho : ∀ c ∈ o, isOneOf ":=" c = false ∧ c ≠ 0x5b := by
    intro c hc
    obtain ⟨e, rfl, he⟩ | rfl := ho
    · obtain rfl := List.mem_singleton.1 hc
      refine ⟨not_of_isOneOf (P := isQuote) (by decide) he, ?_⟩
      rintro rfl
      revert he
      decide
    · cases hc
  refine ⟨⟨((c :: l) ++ b) ++ (o ++ x), d, by simp, hd, fun e he => ?_⟩, c,
    (l ++ b) ++ (o ++ (x ++ [d])),
    by simp, hc⟩
  obtain he | he := List.mem_append.1 he
  · have hname : isNameCharacter e = true := by
      obtain he | he := List.mem_append.1 he
      · exact hchars e he
      · exact hb e he
    exact ⟨not_delimiter_of_name hname, ne_of_name hname⟩
  · obtain he | he := List.mem_append.1 he
    · exact ho e he
    · exact ⟨not_delimiter_of_space (hx e he), ne_of_space (hx e he)⟩

/-- The rule of the values of sensitive fields. -/
def assignmentRule : Rule logSetting where
  stem := assignmentStem.Reads
  delimiter := isOneOf ":="
  test last _ := ∀ c ∈ last, isAlphanumeric (fold c) = false
  value := isBare
  quote := isQuote
  inner := isQuotedCharacter
  stem_delimiter n hn := by
    obtain ⟨⟨m, d, rfl, hd, hm⟩, -⟩ := assignmentStem_reads hn
    exact ⟨m, d, rfl, hd, fun c hc => (hm c hc).1⟩
  stem_first n hn := by
    obtain ⟨-, c, l, rfl, hc, -⟩ := assignmentStem_reads hn
    exact ⟨c, l, rfl, hc⟩
  value_of_first c hc := by
    rw [isBare, not_isWhitespace_of_alphanumeric hc,
      not_of_isOneOf (P := fun c => isAlphanumeric (fold c)) (by decide) hc]
    rfl
  value_opening := by decide
  quote_quote _ hc := hc
  value_of_quote c hc := by
    have hall := of_isOneOf (P := fun c => !isBare c) (by decide) hc
    simpa using hall
  inner_placeholder := by decide
  ends_closing := by decide
  ends_quote c hc := ⟨not_of_isOneOf (P := isQuote) (by decide) hc, of_isOneOf (by decide) hc⟩
  test_quote c _ hc := by
    intro d hd
    obtain rfl := Option.some.inj hd
    exact of_isOneOf (P := fun c => isAlphanumeric (fold c)) (by decide) hc

/-! ## The patterns -/

/-- What holds of every part of a mark and the rest of it. -/
theorem mark_split {P : PyStr → PyStr → Prop}
    (h : ∀ k < 9, P (logSetting.mark.take k) (logSetting.mark.drop k)) {a b : PyStr} {c : ℕ}
    (hsplit : logSetting.mark = a ++ c :: b) : P a (c :: b) := by
  have hlength := congrArg List.length hsplit
  rw [List.length_append, List.length_cons] at hlength
  have hnine : logSetting.mark.length = 9 := by decide
  have hlt : a.length < 9 := by omega
  have hP := h a.length hlt
  rw [hsplit, List.take_left, List.drop_left] at hP
  exact hP

/-- Within a placeholder a character is no quote, and no name begins there. -/
theorem mark_inside {a b : PyStr} {c : ℕ} (hsplit : logSetting.mark = a ++ c :: b) :
    isQuote c = false ∧
    (isAlphanumeric (fold c) = true → fold c = 0x72 ∨ ∃ d ∈ a.getLast?,
      isAlphanumeric (fold d) = true) := by
  have h := mark_split (P := fun a b => isQuote (b.headD 0) = false ∧
    (isAlphanumeric (fold (b.headD 0)) = true →
      fold (b.headD 0) = 0x72 ∨ a.getLast?.any (fun d => isAlphanumeric (fold d)) = true)) (by
        decide) hsplit
  refine ⟨h.1, fun hc => (h.2 hc).imp_right fun hlast => ?_⟩
  obtain ⟨d, hd, hletter⟩ := (Option.any_eq_true _ _).1 hlast
  exact ⟨d, hd, hletter⟩

/-- A value without quotes, with its placeholders, is read up to its end. -/
theorem run_value {V : ℕ → Bool} (hmark : ∀ c ∈ logSetting.mark, V c = true) {u z : Marked ℕ}
    (hne : u ≠ [])
    (hu : ∀ x ∈ u, V (logSetting.see x) = true) (hz : ∀ x ∈ z.head?, V (logSetting.see x) = false)
    (i : PatternGroup) (last : Option ℕ) (groups : PatternMatch) :
    ∃ t, ((group i (oneOrMore V)).run ⟨last, logSetting.render (u ++ z), groups⟩).head? = some t ∧
      t.rest = logSetting.render z ∧ ∀ j, j ≠ i → t.groups j = groups j := by
  have hrender : ∀ c ∈ logSetting.render u, V c = true := by
    intro c hc
    obtain ⟨x, hx, hcx⟩ := List.mem_flatMap.1 hc
    cases x with
    | none => exact hmark c hcx
    | some d =>
      obtain rfl := List.mem_singleton.1 hcx
      exact hu _ hx
  have hend : ∀ c ∈ (logSetting.render z).head?, V c = false := by
    intro c hc
    rw [Setting.head?_render] at hc
    obtain ⟨x, hx, rfl⟩ := Option.mem_map.1 hc
    exact hz x hx
  obtain ⟨c, text, htext⟩ : ∃ c text, logSetting.render u = c :: text := by
    obtain ⟨x, u, rfl⟩ := List.exists_cons_of_ne_nil hne
    cases x with
    | none => exact ⟨_, _, rfl⟩
    | some d => exact ⟨_, _, rfl⟩
  rw [htext] at hrender
  obtain ⟨hc, htext'⟩ := List.forall_mem_cons.1 hrender
  have hdrop : (text ++ logSetting.render z).dropWhile V = logSetting.render z := by
    rw [List.dropWhile_append_of_pos htext']
    cases hz' : logSetting.render z with
    | nil => rfl
    | cons d rest => rw [List.dropWhile_cons_of_neg (by simp [hend d (by rw [hz']; rfl)])]
  rw [Setting.render_append, htext, run_group, List.head?_map, head?_run_oneOrMore rfl hc]
  exact ⟨_, rfl, hdrop, fun j hj => Function.update_of_ne hj _ _⟩

theorem run_value_eq_nil {V : ℕ → Bool} {i : PatternGroup} {t : LogCursor}
    (ht : ∀ c ∈ t.rest.head?, V c = false) : (group i (oneOrMore V)).run t = [] := by
  rw [run_group, run_oneOrMore_eq_nil ht, List.map_nil]

theorem mem_run_notAfterAlphanumeric {r : LogPattern} {s m : LogCursor} :
    m ∈ (seq notAfterAlphanumeric r).run s ↔
      (∀ c ∈ s.last, isAlphanumeric (fold c) = false) ∧ m ∈ r.run s := by
  rw [run_seq, notAfterAlphanumeric, run_notAfter]
  cases hlast : s.last with
  | none => simp
  | some c => cases hc : isAlphanumeric (fold c) <;> simp [hc]

theorem run_ne_nil {r : LogPattern} (hr : r.plain = true) {s : LogCursor} {u rest : PyStr}
    (hu : r.Reads u)
    (hs : s.rest = u ++ rest) : ∃ m, m ∈ r.run s := by
  obtain ⟨last, text, groups⟩ := s
  obtain rfl : text = u ++ rest := hs
  obtain ⟨m, hm, -⟩ := exists_run hr hu last rest groups
  exact ⟨m, hm⟩

theorem header_reader (names : List (List PyStr)) (hnames : ∀ n ∈ names, n ∈ sensitiveNames)
    (hgroupless : (headerStem names).groupless = true) (hplain : (headerStem names).plain = true) :
    Reader (headerRule names hnames) (seq notAfterAlphanumeric (headerStem names))
      (group .value (oneOrMore fun c => !isOneOf "\r\n,\x7d" c)) PatternGroup.lead
        replaceHeader where
  groupless := hgroupless
  reads s m hm := by
    obtain ⟨hlast, hm⟩ := mem_run_notAfterAlphanumeric.1 hm
    obtain ⟨n, hn, hafter⟩ := run_reads hm
    obtain ⟨-, c, l, rfl, -⟩ := headerStem_reads hnames hn
    exact ⟨none, c, l, hafter.rest, nofun, hn, hlast, by rw [hafter.last, List.getLast?_cons]; rfl⟩
  finds s o c n rest hs ho hn htest := by
    cases o with
    | some d => exact Bool.noConfusion (ho d rfl)
    | none =>
      obtain ⟨m, hm⟩ := run_ne_nil hplain hn hs
      exact List.ne_nil_of_mem (mem_run_notAfterAlphanumeric.2 ⟨htest, hm⟩)
  inside last a c b rest groups hsplit := by
    rw [List.eq_nil_iff_forall_not_mem]
    intro m hm
    obtain ⟨hlast, hm⟩ := mem_run_notAfterAlphanumeric.1 hm
    obtain ⟨n, hn, hafter⟩ := run_reads hm
    obtain ⟨-, d, l, rfl, hd, hne⟩ := headerStem_reads hnames hn
    obtain rfl : c = d := (List.cons.inj hafter.rest).1
    obtain hr | ⟨e, he, hletter⟩ := (mark_inside hsplit).2 hd
    · exact hne hr
    · have hlast : ∀ x ∈ a.getLast?.or last, isAlphanumeric (fold x) = false := hlast
      rw [Option.mem_def.1 he] at hlast
      exact Bool.noConfusion ((hlast e rfl).symm.trans hletter)
  opening_stem n hn hmem := by
    obtain ⟨⟨m, d, rfl, hd, hm⟩, -⟩ := headerStem_reads hnames hn
    obtain hmem | hmem := List.mem_append.1 hmem
    · exact (hm _ hmem).2 rfl
    · rw [← List.mem_singleton.1 hmem] at hd
      revert hd
      decide
  opening_space := by decide
  opening_quote := by decide
  value_nil _ ht := run_value_eq_nil (V := fun c => !isOneOf "\r\n,\x7d" c) ht
  value_cut q v z last l hcut := by
    cases hcut with
    | quoted hquote => exact Bool.noConfusion hquote
    | @bare u z hquotable hne htakes hend =>
      obtain ⟨t, ht, hrest, hgroups⟩ :=
        run_value (V := fun c => !isOneOf "\r\n,\x7d" c) (by decide) hne htakes
        (fun x hx => Bool.eq_false_iff.2 fun h => hend ⟨x, hx, h⟩) .value last _
      refine ⟨t, ht, hrest, ?_, .inr hend⟩
      rw [replaceHeader, hgroups .lead (by decide), Function.update_self, render_placeholder]
      rfl

theorem mem_run_boundary {P : ℕ → Bool} {r : LogPattern} {s m : LogCursor} :
    m ∈ (seq (boundary P) r).run s ↔ (s.last.any P != s.rest.head?.any P) = true ∧ m ∈ r.run s := by
  rw [run_seq, run_boundary]
  split_ifs with h
  · simp [h]
  · simp [h]

theorem bearer_reader : Reader (bearerRule tables)
    (seq (boundary tables.isWordCharacter) bearerStem)
    (group .value (oneOrMore fun c => !(isWhitespace c || isOneOf ",;" c))) PatternGroup.lead
    replaceHeader where
  groupless := show bearerStem.groupless = true by decide
  reads s m hm := by
    obtain ⟨hboundary, hm⟩ := mem_run_boundary.1 hm
    obtain ⟨n, hn, hafter⟩ := run_reads hm
    obtain ⟨-, c, d, l, rfl, -⟩ := bearerStem_reads hn
    have hrest : s.rest = c :: (d :: l ++ m.rest) := hafter.rest
    rw [hrest] at hboundary
    exact ⟨none, c, d :: l, hrest, nofun, hn,
      hboundary, by rw [hafter.last, List.getLast?_cons]; rfl⟩
  finds s o c n rest hs ho hn htest := by
    cases o with
    | some d => exact Bool.noConfusion (ho d rfl)
    | none =>
      have hs : s.rest = c :: (n ++ rest) := hs
      obtain ⟨m, hm⟩ := run_ne_nil (r := bearerStem) (by decide) hn hs
      exact List.ne_nil_of_mem (mem_run_boundary.2 ⟨by rw [hs]; exact htest, hm⟩)
  inside last a c b rest groups hsplit := by
    rw [List.eq_nil_iff_forall_not_mem]
    intro m hm
    obtain ⟨-, hm⟩ := mem_run_boundary.1 hm
    obtain ⟨n, hn, hafter⟩ := run_reads hm
    obtain ⟨-, d, e, l, rfl, -, hword⟩ := bearerStem_reads hn
    have hhead : ∀ y, (c :: (b ++ logSetting.closing :: rest)).take 2 =
        (c :: (b ++ logSetting.closing :: y)).take 2 := by
      intro y
      cases b <;> rfl
    have hword' : ((c :: (b ++ [logSetting.closing])).take 2).map fold ∈
        [py "be", py "ba", py "di"] := by
      have hrest : c :: (b ++ logSetting.closing :: rest) = d :: e :: (l ++ m.rest) := hafter.rest
      rw [← hhead [], hrest]
      exact hword
    exact mark_split (P := fun _ b => ((b ++ [logSetting.closing]).take 2).map fold ∉
      [py "be", py "ba", py "di"]) (by decide) hsplit hword'
  opening_stem n hn hmem := by
    obtain ⟨⟨m, d, rfl, hd, hm⟩, -⟩ := bearerStem_reads hn
    obtain hmem | hmem := List.mem_append.1 hmem
    · have hletter := hm _ hmem
      revert hletter
      decide
    · rw [← List.mem_singleton.1 hmem] at hd
      revert hd
      decide
  opening_space := by decide
  opening_quote := by decide
  value_nil _ ht := run_value_eq_nil (V := fun c => !(isWhitespace c || isOneOf ",;" c)) ht
  value_cut q v z last l hcut := by
    cases hcut with
    | quoted hquote => exact Bool.noConfusion hquote
    | @bare u z hquotable hne htakes hend =>
      obtain ⟨t, ht, hrest, hgroups⟩ :=
        run_value (V := fun c => !(isWhitespace c || isOneOf ",;" c)) (by decide)
        hne htakes (fun x hx => Bool.eq_false_iff.2 fun h => hend ⟨x, hx, h⟩) .value last _
      refine ⟨t, ht, hrest, ?_, .inr hend⟩
      rw [replaceHeader, hgroups .lead (by decide), Function.update_self, render_placeholder]
      rfl

/-- A quote in a text is a character of its own in the marked text. -/
theorem quote_split {c : ℕ} (hc : isQuote c = true) {q : Marked ℕ} {w rest : PyStr}
    (h : logSetting.render q = w ++ c :: rest) (hw : ∀ d ∈ w, isQuotedCharacter d = true) :
    ∃ u z, q = u ++ some c :: z ∧ ∀ x ∈ u, isQuotedCharacter (logSetting.see x) = true ∧
      x ≠ some c := by
  induction q generalizing w with
  | nil => simp at h
  | cons x q ih =>
    cases x with
    | some d =>
      by_cases hd : d = c
      · subst hd
        exact ⟨[], q, rfl, nofun⟩
      · cases w with
        | nil => exact absurd (List.cons.inj h).1 hd
        | cons e w =>
          obtain ⟨rfl, htail⟩ := List.cons.inj h
          obtain ⟨he, hw⟩ := List.forall_mem_cons.1 hw
          obtain ⟨u, z, rfl, hu⟩ := ih htail hw
          refine ⟨some d :: u, z, rfl, List.forall_mem_cons.2 ⟨⟨he, ?_⟩, hu⟩⟩
          exact fun heq => hd (Option.some.inj heq)
    | none =>
      have hmark : c ∉ logSetting.mark := by
        intro hmem
        obtain ⟨a, b, hsplit⟩ := List.append_of_mem hmem
        exact Bool.noConfusion ((mark_inside hsplit).1.symm.trans hc)
      obtain ⟨w, rfl, htail⟩ : ∃ w', w = logSetting.mark ++ w' ∧
          logSetting.render q = w' ++ c :: rest := by
        rw [Setting.render_cons_none] at h
        obtain ⟨e, hw', he⟩ | ⟨e, he, hrest⟩ := List.append_eq_append_iff.1 h
        · exact ⟨e, hw', he⟩
        · cases e with
          | nil => exact ⟨[], by simpa using he.symm, hrest.symm⟩
          | cons f e =>
            obtain ⟨rfl, -⟩ := List.cons.inj hrest
            exact absurd (by rw [he]; simp) hmark
      obtain ⟨u, z, rfl, hu⟩ := ih htail fun d hd => hw d (List.mem_append_right _ hd)
      exact ⟨none :: u, z, rfl,
        List.forall_mem_cons.2 ⟨⟨by decide, (Option.some_ne_none c).symm⟩, hu⟩⟩

/-- A value that is not in quotes is not read as one that is. -/
theorem run_quotedValue_of_not_quotable {q : Marked ℕ} (h : ¬ assignmentRule.Quotable q)
    {s : LogCursor}
    (hs : s.rest = logSetting.render q) : quotedValue.run s = [] := by
  cases q with
  | nil => exact run_quotedValue_eq_nil (by rw [hs]; nofun)
  | cons x q =>
    cases x with
    | none =>
      refine run_quotedValue_eq_nil fun c hc => ?_
      rw [hs] at hc
      obtain rfl := Option.some.inj hc
      decide
    | some c =>
      cases hc : isQuote c with
      | false =>
        refine run_quotedValue_eq_nil fun d hd => ?_
        rw [hs] at hd
        obtain rfl := Option.some.inj hd
        exact hc
      | true =>
        obtain ⟨f, hf, hrun⟩ := run_quotedValue (s := s) hs hc
        rw [hrun]
        refine List.flatMap_eq_nil_iff.2 fun t ht => ?_
        obtain ⟨hgroups, w, hw, hafter⟩ := mem_stops.1 ht
        obtain ⟨-, hnil⟩ | ⟨m, -, hrest, -⟩ := hf t hgroups
        · exact hnil
        · have hsplit : logSetting.render q = w ++ c :: m.rest := hrest ▸ hafter.rest
          obtain ⟨u, z, rfl, hu⟩ := quote_split hc hsplit hw
          exact absurd ⟨c, u, z, rfl, hc, hu⟩ h

/-- A value in quotes is read up to the first such quote. -/
theorem head?_run_quotedValue {c : ℕ} (hc : isQuote c = true) {u z : Marked ℕ}
    (hu : ∀ x ∈ u, isQuotedCharacter (logSetting.see x) = true ∧ x ≠ some c) {s : LogCursor}
    (hs : s.rest = logSetting.render (some c :: (u ++ some c :: z))) :
    ∃ t, (quotedValue.run s).head? = some t ∧ t.rest = logSetting.render z ∧ t.last = some c ∧
      t.groups .lead = s.groups .lead ∧ t.groups .quote = some [c] := by
  have hs : s.rest = c :: logSetting.render (u ++ some c :: z) := hs
  obtain ⟨f, hf, hrun⟩ := run_quotedValue hs hc
  have hinner : ∀ d ∈ logSetting.render u, d ≠ c ∧ isQuotedCharacter d = true := by
    intro d hd
    obtain ⟨x, hx, hdx⟩ := List.mem_flatMap.1 hd
    cases x with
    | none =>
      have hmark : ∀ d ∈ logSetting.mark, isQuotedCharacter d = true := by decide
      refine ⟨?_, hmark d hdx⟩
      rintro rfl
      obtain ⟨a, b, hsplit⟩ := List.append_of_mem hdx
      exact Bool.noConfusion ((mark_inside hsplit).1.symm.trans hc)
    | some e =>
      obtain rfl := List.mem_singleton.1 hdx
      obtain ⟨hd, hne⟩ := hu _ hx
      exact ⟨fun heq => hne (congrArg some heq), hd⟩
  rw [hrun, Setting.render_append, closes_secret hf hinner, Setting.render_cons_some, stops_cons,
    List.flatMap_cons]
  obtain ⟨hne, -⟩ | ⟨m, hm, hrest, hlast, hlead, hquote⟩ :=
    hf ⟨(logSetting.render u).getLast?.or (some c),
    c :: logSetting.render z, Function.update s.groups .quote (some [c])⟩ rfl
  · exact absurd rfl hne
  · rw [hm]
    exact ⟨m, rfl, (List.cons.inj hrest).2.symm, hlast, hlead, hquote⟩

theorem assignment_reader : Reader assignmentRule
    (seq notAfterAlphanumeric (seq (opt (one isQuote)) assignmentStem)) (alt quotedValue bareValue)
    PatternGroup.lead replaceAssignment where
  groupless := by rfl
  reads s m hm := by
    obtain ⟨hlast, hm⟩ := mem_run_notAfterAlphanumeric.1 hm
    obtain ⟨u, ⟨x, n, rfl, hx, hn⟩, hafter⟩ := run_reads hm
    obtain ⟨-, c, l, rfl, -⟩ := assignmentStem_reads hn
    have hmlast : m.last = (c :: l).getLast? := by
      rw [hafter.last, List.getLast?_append_of_ne_nil _ (List.cons_ne_nil c l), List.getLast?_cons]
      rfl
    obtain ⟨d, rfl, hd⟩ | rfl := hx
    · exact ⟨some d, c, l, hafter.rest, fun e he => Option.some.inj he ▸ hd, hn, hlast, hmlast⟩
    · exact ⟨none, c, l, hafter.rest, nofun, hn, hlast, hmlast⟩
  finds s o c n rest hs ho hn htest := by
    have hread : (seq (opt (one isQuote)) assignmentStem : LogPattern).Reads
        (o.toList ++ c :: n) := by
      refine ⟨o.toList, c :: n, rfl, ?_, hn⟩
      cases o with
      | none => exact .inr rfl
      | some d => exact .inl ⟨d, rfl, ho d rfl⟩
    obtain ⟨m, hm⟩ := run_ne_nil (by rfl) hread (hs.trans (List.append_assoc _ _ _).symm)
    exact List.ne_nil_of_mem (mem_run_notAfterAlphanumeric.2 ⟨htest, hm⟩)
  inside last a c b rest groups hsplit := by
    rw [List.eq_nil_iff_forall_not_mem]
    intro m hm
    obtain ⟨hlast, hm⟩ := mem_run_notAfterAlphanumeric.1 hm
    obtain ⟨u, ⟨x, n, rfl, hx, hn⟩, hafter⟩ := run_reads hm
    obtain ⟨hquote, hname⟩ := mark_inside hsplit
    obtain ⟨d, rfl, hd⟩ | rfl := hx
    · obtain rfl : c = d := (List.cons.inj hafter.rest).1
      exact Bool.noConfusion (hquote.symm.trans hd)
    · obtain ⟨-, d, l, rfl, hd, hne⟩ := assignmentStem_reads hn
      obtain rfl : c = d := (List.cons.inj hafter.rest).1
      obtain hr | ⟨e, he, hletter⟩ := hname hd
      · exact hne hr
      · have hlast : ∀ x ∈ a.getLast?.or last, isAlphanumeric (fold x) = false := hlast
        rw [Option.mem_def.1 he] at hlast
        exact Bool.noConfusion ((hlast e rfl).symm.trans hletter)
  opening_stem n hn hmem := by
    obtain ⟨⟨m, d, rfl, hd, hm⟩, -⟩ := assignmentStem_reads hn
    obtain hmem | hmem := List.mem_append.1 hmem
    · exact (hm _ hmem).2 rfl
    · rw [← List.mem_singleton.1 hmem] at hd
      revert hd
      decide
  opening_space := by decide
  opening_quote := by decide
  value_nil t ht := by
    have hquote : ∀ c ∈ t.rest.head?, isQuote c = false := by
      intro c hc
      refine Bool.eq_false_iff.2 fun hquote => ?_
      exact Bool.noConfusion ((ht c hc).symm.trans (assignmentRule.value_of_quote c hquote))
    rw [run_alt, run_quotedValue_eq_nil hquote, bareValue, run_value_eq_nil (V := isBare) ht]
    rfl
  value_cut q v z last l hcut := by
    cases hcut with
    | @quoted c u z hquote hinner =>
      obtain ⟨t, ht, hrest, hlast, hlead, hgroup⟩ := head?_run_quotedValue (z := z) hquote hinner
        (s := ⟨last, logSetting.render (some c :: (u ++ some c :: z)),
          Function.update (fun _ => none) .lead (some l)⟩) rfl
      refine ⟨t, ?_, hrest, ?_, .inl (hlast.trans ?_)⟩
      · rw [run_alt, List.head?_append, ht]
        rfl
      · have hl : t.groups .lead = some l := hlead
        have hout : logSetting.render (some c :: (logSetting.placeholder ++ [some c])) =
            c :: (REDACTED ++ [c]) := by
          rw [Setting.render_cons_some, Setting.render_append, render_placeholder]
          rfl
        rw [replaceAssignment, hl, hgroup, hout]
        simp
      · exact (Rule.render_getLast?_append (p := some c :: logSetting.placeholder) (v := [some c])
          (List.cons_ne_nil _ _)).symm
    | @bare u z hquotable hne htakes hend =>
      obtain ⟨t, ht, hrest, hgroups⟩ := run_value (V := isBare) (by decide) hne htakes
        (fun x hx => Bool.eq_false_iff.2 fun h => hend ⟨x, hx, h⟩) .bare last
        (Function.update (fun _ => none) .lead (some l))
      refine ⟨t, ?_, hrest, ?_, .inr hend⟩
      · rw [run_alt, run_quotedValue_of_not_quotable hquotable rfl]
        exact ht
      · rw [replaceAssignment, hgroups .lead (by decide), hgroups .quote (by decide),
          Function.update_self,
          Function.update_of_ne (by decide), render_placeholder]
        simp

end SelfRelay.Backend
