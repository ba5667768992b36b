import SelfRelay.Backend.RedactionRules
import SelfRelay.Lib.SettledText

/-!
# Redacting a text twice

A second pass over a redacted text finds the placeholders of the first one.  In quotes, after the
name of a header and after a scheme it leaves them as they are.  The pattern of a value without
quotes stops before the closing bracket of a placeholder, and so the pass adds another bracket to
each that has stayed behind its field (`redactText_redactText_iff`).
-/

namespace SelfRelay.Backend

open SelfRelay.Python Regex MarkedText

variable {tables : UnicodeTables}

/-! ## The substitutions as scans -/

theorem run_group_congr {r r' : LogPattern} (h : ∀ s, r.run s = r'.run s) (i : PatternGroup)
    (k : LogPattern)
    (s : LogCursor) : (seq (group i r) k).run s = (seq (group i r') k).run s := by
  rw [run_seq, run_seq, run_group, run_group, h]

theorem sensitiveAssignment_run (s : LogCursor) : sensitiveAssignment.run s =
    (Reader.pattern logSetting (seq notAfterAlphanumeric (seq (opt (one isQuote)) assignmentStem))
      (alt quotedValue bareValue) .lead).run s := by
  refine run_group_congr (fun s => ?_) _ _ s
  simp only [assignmentField, assignmentStem, separator, run_seq, List.flatMap_assoc]
  rfl

theorem headerPattern_run (names : List (List PyStr)) (s : LogCursor) :
    (headerPattern names).run s =
    (Reader.pattern logSetting (seq notAfterAlphanumeric (headerStem names))
      (group .value (oneOrMore fun c => !isOneOf "\r\n,\x7d" c)) .lead).run s := by
  refine run_group_congr (fun s => ?_) _ _ s
  simp only [headerStem, separator, run_seq, List.flatMap_assoc]
  rfl

theorem bearer_run (s : LogCursor) : (bearer tables).run s =
    (Reader.pattern logSetting (seq (boundary tables.isWordCharacter) bearerStem)
      (group .value (oneOrMore fun c => !(isWhitespace c || isOneOf ",;" c))) .lead).run s := by
  refine run_group_congr (fun s => ?_) _ _ s
  simp only [bearerStem, oneOrMore, run_seq, List.flatMap_assoc]
  rfl

def authRule : Rule logSetting := headerRule authorizationNames (by decide)

def cookieRule : Rule logSetting := headerRule cookieNames (by decide)

/-- The marked text with the values taken out that the four substitutions replace. -/
def Outline (tables : UnicodeTables) (s t : Marked ℕ) : Prop :=
  ∃ t₁ t₂ t₃, assignmentRule.Scan [] s t₁ ∧ authRule.Scan [] t₁ t₂ ∧ cookieRule.Scan [] t₂ t₃ ∧
    (bearerRule tables).Scan [] t₃ t

theorem exists_outline (tables : UnicodeTables) (s : Marked ℕ) : ∃ t, Outline tables s t := by
  obtain ⟨t₁, h₁⟩ := Rule.exists_scan assignmentRule [] s
  obtain ⟨t₂, h₂⟩ := Rule.exists_scan authRule [] t₁
  obtain ⟨t₃, h₃⟩ := Rule.exists_scan cookieRule [] t₂
  obtain ⟨t, h⟩ := Rule.exists_scan (bearerRule tables) [] t₃
  exact ⟨t, t₁, t₂, t₃, h₁, h₂, h₃, h⟩

theorem sub_of_scan {R : Rule logSetting} {r stem value : LogPattern}
    {replace : PatternMatch → PyStr}
    (hreader : Reader R stem value .lead replace)
    (hrun : ∀ s, r.run s = (Reader.pattern logSetting stem value .lead).run s) {s t : Marked ℕ}
    (hscan : R.Scan [] s t) (hclosed : Rule.Closed logSetting s) :
    r.sub replace 0 none (logSetting.render s) = logSetting.render t := by
  rw [sub_congr hrun]
  refine hscan.implements hreader.implements ?_ hclosed
  intro a c u l q' hp
  simp at hp

theorem Outline.redactText {s t : Marked ℕ} (h : Outline tables s t)
    (hs : Rule.Closed logSetting s) :
    redactText tables (logSetting.render s) = logSetting.render t := by
  obtain ⟨t₁, t₂, t₃, h₁, h₂, h₃, h⟩ := h
  have hassignment := sub_of_scan assignment_reader sensitiveAssignment_run h₁ hs
  have hauth := sub_of_scan (header_reader authorizationNames _ (by decide) (by decide))
    (headerPattern_run _) h₂ (h₁.closed hs)
  have hcookie := sub_of_scan (header_reader cookieNames _ (by decide) (by decide))
    (headerPattern_run _) h₃ (h₂.closed (h₁.closed hs))
  have hbearer := sub_of_scan bearer_reader bearer_run h (h₃.closed (h₂.closed (h₁.closed hs)))
  rw [Backend.redactText, hassignment, authHeader, hauth, cookieHeader, hcookie, hbearer]

/-! ## Ends of leads -/

/-- The text ends with the character and some spaces. -/
def EndsWith (p : Marked ℕ) (a : Marked ℕ) (d : ℕ) : Prop :=
  ∃ w : PyStr, p = a ++ some d :: w.map some ∧ ∀ c ∈ w, isWhitespace c = true

/-- There is only one last character before the spaces at the end of a text. -/
theorem EndsWith.unique {p a b : Marked ℕ} {d e : ℕ} (h : EndsWith p a d) (h' : EndsWith p b e)
    (hd : isWhitespace d = false) (he : isWhitespace e = false) : a = b ∧ d = e := by
  obtain ⟨w, rfl, hw⟩ := h
  obtain ⟨w', hsplit, hw'⟩ := h'
  have hnone : ∀ {c : ℕ} {x y : Marked ℕ} {w : PyStr}, (∀ c ∈ w, isWhitespace c = true) →
      isWhitespace c = false → w.map some ≠ x ++ some c :: y := by
    intro c x y w hw hc heq
    have hmem : some c ∈ w.map some := by
      rw [heq]
      simp
    obtain ⟨f, hf, hfc⟩ := List.mem_map.1 hmem
    obtain rfl := Option.some.inj hfc
    exact Bool.noConfusion (hc.symm.trans (hw f hf))
  obtain ⟨x, rfl, hx⟩ | ⟨x, rfl, hx⟩ := List.append_eq_append_iff.1 hsplit
  · cases x with
    | nil =>
      obtain ⟨hde, -⟩ := List.cons.inj hx
      exact ⟨(List.append_nil a).symm, Option.some.inj hde⟩
    | cons y x =>
      exact absurd (List.cons.inj hx).2 (hnone hw he)
  · cases x with
    | nil =>
      obtain ⟨hde, -⟩ := List.cons.inj hx
      exact ⟨List.append_nil b, (Option.some.inj hde).symm⟩
    | cons y x =>
      exact absurd (List.cons.inj hx).2 (hnone hw' hd)

theorem not_isWhitespace_of_delimiter {d : ℕ} (hd : isOneOf ":=" d = true) :
    isWhitespace d = false :=
  of_isOneOf (by decide) hd

theorem assignment_ends {p : Marked ℕ} (h : assignmentRule.Ends p) :
    ∃ a d, EndsWith p a d ∧ isOneOf ":=" d = true := by
  obtain ⟨a, c, l, rfl, ⟨n, w, hl, hn, hw⟩, -⟩ := h
  obtain ⟨⟨m, d, rfl, hd, -⟩, -⟩ := assignmentStem_reads hn
  rw [hl]
  exact ⟨a ++ m.map some, d, ⟨w, by simp, hw⟩, hd⟩

theorem bearer_ends {p : Marked ℕ} (h : (bearerRule tables).Ends p) :
    ∃ a d, EndsWith p a d ∧ isAlphanumeric (fold d) = true := by
  obtain ⟨a, c, l, rfl, ⟨n, w, hl, hn, hw⟩, -⟩ := h
  obtain ⟨⟨m, d, rfl, hd, hm⟩, -⟩ := bearerStem_reads hn
  rw [hl]
  obtain rfl | ⟨m, e, rfl⟩ := List.eq_nil_or_concat m
  · obtain ⟨-, c', d', l', hsplit, -⟩ := bearerStem_reads hn
    simp at hsplit
  · refine ⟨a ++ m.map some, e, ⟨d :: w, by simp, List.forall_mem_cons.2 ⟨hd, hw⟩⟩, hm e (by simp)⟩

theorem joined_last {words : List PyStr} {c : ℕ}
    (hc : words.getLast?.bind List.getLast? = some c) {m : PyStr}
    (h : (joined words).Reads m) : ∃ l d, m = l ++ [d] ∧ fold d = c := by
  induction words generalizing m with
  | nil => cases hc
  | cons word words ih =>
    cases words with
    | nil =>
      have hfold := literal_reads.1 h
      obtain ⟨x, rfl⟩ := List.getLast?_eq_some_iff.1 hc
      obtain ⟨l, y, rfl, -, hy⟩ := List.map_eq_append_iff.1 hfold
      obtain ⟨d, rfl, hd⟩ := List.map_eq_singleton_iff.1 hy
      exact ⟨l, d, rfl, hd⟩
    | cons word' words =>
      obtain ⟨x, y, rfl, -, o, y, rfl, -, hy⟩ := h
      obtain ⟨l, d, rfl, hd⟩ := ih hc hy
      exact ⟨x ++ (o ++ l), d, by simp, hd⟩

/-- Before the separator of a header its name ends. -/
theorem header_ends {names : List (List PyStr)} {hnames : ∀ n ∈ names, n ∈ sensitiveNames} {e : ℕ}
    (hlast : ∀ words ∈ names, words.getLast?.bind List.getLast? = some e)
    (he : isAlphanumeric e = true)
    {p : Marked ℕ} (h : (headerRule names hnames).Ends p) :
    ∃ a d b f, EndsWith p a d ∧ isOneOf ":=" d = true ∧ EndsWith a b f ∧ fold f = e ∧
      isWhitespace f = false := by
  obtain ⟨a, c, l, rfl, ⟨n, w, hl, hn, hw⟩, -⟩ := h
  rw [hl]
  obtain ⟨m, u, rfl, hm, hu⟩ := hn
  obtain ⟨x, d, rfl, hx, hd⟩ := delimited_reads hu
  obtain ⟨hchars, -⟩ := name_reads hnames hm
  obtain ⟨r, hr, hm⟩ := anyOf_reads hm
  obtain ⟨words, hwords, rfl⟩ := List.mem_map.1 hr
  obtain ⟨m, f, rfl, hf⟩ := joined_last (hlast words hwords) hm
  refine ⟨a ++ (m ++ f :: x).map some, d, a ++ m.map some, f, ⟨w, by simp, hw⟩, hd,
    ⟨x, by simp, hx⟩, hf, ?_⟩
  exact not_isWhitespace_of_alphanumeric (hf ▸ he)

theorem auth_ends {p : Marked ℕ} (h : authRule.Ends p) : ∃ a d b f, EndsWith p a d ∧
    isOneOf ":=" d = true ∧
    EndsWith a b f ∧ fold f = 0x6e ∧ isWhitespace f = false :=
  header_ends (by decide) (by decide) h

theorem cookie_ends {p : Marked ℕ} (h : cookieRule.Ends p) : ∃ a d b f, EndsWith p a d ∧
    isOneOf ":=" d = true ∧
    EndsWith a b f ∧ fold f = 0x65 ∧ isWhitespace f = false :=
  header_ends (by decide) (by decide) h

theorem auth_not_cookie {p : Marked ℕ} (h : authRule.Ends p) : ¬ cookieRule.Ends p := by
  intro h'
  obtain ⟨a, d, b, f, hp, hd, ha, hf, hspace⟩ := auth_ends h
  obtain ⟨a', d', b', f', hp', hd', ha', hf', hspace'⟩ := cookie_ends h'
  obtain ⟨rfl, -⟩ :=
    hp.unique hp' (not_isWhitespace_of_delimiter hd) (not_isWhitespace_of_delimiter hd')
  obtain ⟨-, rfl⟩ := ha.unique ha' hspace hspace'
  exact absurd (hf.symm.trans hf') (by decide)

theorem not_bearer_of_delimiter {p a : Marked ℕ} {d : ℕ} (hp : EndsWith p a d)
    (hd : isOneOf ":=" d = true) :
    ¬ (bearerRule tables).Ends p := by
  intro h
  obtain ⟨b, e, hp', he⟩ := bearer_ends h
  obtain ⟨-, rfl⟩ :=
    hp.unique hp' (not_isWhitespace_of_delimiter hd) (not_isWhitespace_of_alphanumeric he)
  exact Bool.noConfusion
    ((of_isOneOf (P := fun c => isAlphanumeric (fold c)) (by decide) hd).symm.trans he)

theorem compatible_assignment {R : Rule logSetting} (h : ∀ c, R.quote c = false) :
    Rule.Compatible assignmentRule R := by
  refine .inr ⟨by decide, fun c hc => ?_, h⟩
  have hspace : isWhitespace c = true := hc
  change isBare c = false
  rw [isBare, hspace]
  rfl

theorem compatible_auth_cookie : Rule.Compatible authRule cookieRule :=
  .inl fun _ h => auth_not_cookie h

theorem compatible_auth_bearer : Rule.Compatible authRule (bearerRule tables) := .inl fun _ h => by
  obtain ⟨a, d, -, -, hp, hd, -⟩ := auth_ends h
  exact not_bearer_of_delimiter hp hd

theorem compatible_cookie_bearer : Rule.Compatible cookieRule (bearerRule tables) :=
  .inl fun _ h => by
  obtain ⟨a, d, -, -, hp, hd, -⟩ := cookie_ends h
  exact not_bearer_of_delimiter hp hd

/-! ## Two passes over a text -/

/-- Nothing but placeholders stands where the values of any rule begin. -/
structure Redacted (tables : UnicodeTables) (t : Marked ℕ) : Prop where
  assignment : assignmentRule.Settled t
  auth : authRule.Settled t
  cookie : cookieRule.Settled t
  bearer : (bearerRule tables).Settled t
  closed : Rule.Closed logSetting t

theorem Outline.redacted {s t : Marked ℕ} (h : Outline tables s t) (hs : Rule.Closed logSetting s) :
    Redacted tables t := by
  obtain ⟨t₁, t₂, t₃, h₁, h₂, h₃, h⟩ := h
  have hassignment := h₂.keeps_settled (compatible_assignment fun _ => rfl) h₁.settled
  exact {
    assignment := h.keeps_settled (compatible_assignment fun _ => rfl)
      (h₃.keeps_settled (compatible_assignment fun _ => rfl) hassignment)
    auth := h.keeps_settled compatible_auth_bearer
      (h₃.keeps_settled compatible_auth_cookie h₂.settled)
    cookie := h.keeps_settled compatible_cookie_bearer h₃.settled
    bearer := h.settled
    closed := h.closed (h₃.closed (h₂.closed (h₁.closed hs))) }

/-- A placeholder stands after a field that is not the name of a header. -/
def Exposed (t : Marked ℕ) : Prop :=
  ∃ p z, t = p ++ none :: z ∧ assignmentRule.Ends p ∧ ¬ authRule.Ends p ∧ ¬ cookieRule.Ends p

theorem closed_map_some (s : PyStr) : Rule.Closed logSetting (s.map some) := by
  intro p z h
  have hmem : none ∈ s.map some := by
    rw [h]
    simp
  simp at hmem

/-- Another pass leaves exactly the texts as they are in which no placeholder is exposed. -/
theorem Redacted.redactText_iff {t : Marked ℕ} (h : Redacted tables t) :
    redactText tables (logSetting.render t) = logSetting.render t ↔ ¬ Exposed t := by
  obtain ⟨u, u₁, u₂, u₃, h₁, h₂, h₃, h₄⟩ := exists_outline tables t
  have hredacted := Outline.redactText ⟨u₁, u₂, u₃, h₁, h₂, h₃, h₄⟩ h.closed
  have hassignment := h₁.widens (P := []) (by decide) h.assignment (.nil t) (.nil t)
  have hauth :=
    h₂.narrows (by decide) (fun _ => rfl) hassignment h.auth h.closed (.nil u₁) (.nil u₁)
  have hcookie := h₃.narrows (by decide) (fun _ => rfl) hauth h.cookie h.closed (.nil u₂) (.nil u₂)
  have hclosing : (bearerRule tables).value logSetting.closing = true :=
    show (!(isWhitespace 0x5d || isOneOf ",;" 0x5d)) = true by decide
  have hbearer := h₄.narrows hclosing (fun _ => rfl) hcookie h.bearer h.closed (.nil u₃) (.nil u₃)
  rw [hredacted, hbearer.render_eq_iff]
  constructor
  · rintro hnone ⟨p, z, ht, hassignment, hauth, hcookie⟩
    obtain ⟨a, d, hp, hd⟩ := assignment_ends hassignment
    exact hnone p z ht ⟨⟨⟨hassignment, hauth⟩, hcookie⟩, not_bearer_of_delimiter hp hd⟩
  · rintro hexposed p z ht ⟨⟨⟨hassignment, hauth⟩, hcookie⟩, -⟩
    exact hexposed ⟨p, z, ht, hassignment, hauth, hcookie⟩

/-- In the text with its values taken out, a placeholder stands after a field that is not the name
of a header. -/
def ExposesValue (tables : UnicodeTables) (s : PyStr) : Prop :=
  ∃ t, Outline tables (s.map some) t ∧ Exposed t

/-- A second pass leaves exactly the texts alone that expose no value. -/
theorem redactText_redactText_iff (tables : UnicodeTables) (s : PyStr) :
    redactText tables (redactText tables s) = redactText tables s ↔ ¬ ExposesValue tables s := by
  have hiff : ∀ t, Outline tables (s.map some) t →
      (redactText tables (redactText tables s) = redactText tables s ↔ ¬ Exposed t) := by
    intro t ht
    have hredacted := ht.redactText (closed_map_some s)
    rw [Setting.render_map_some] at hredacted
    rw [hredacted]
    exact (ht.redacted (closed_map_some s)).redactText_iff
  constructor
  · rintro h ⟨t, ht, hexposed⟩
    exact (hiff t ht).1 h hexposed
  · intro h
    obtain ⟨t, ht⟩ := exists_outline tables (s.map some)
    exact (hiff t ht).2 fun hexposed => h ⟨t, ht, hexposed⟩

theorem not_ends_in_placeholder {R : Rule logSetting} {p q : Marked ℕ}
    (h : logSetting.placeholder = p ++ q) : ¬ R.Ends p := by
  obtain _ | ⟨x, _ | ⟨y, _ | ⟨z, p⟩⟩⟩ := p
  · rintro ⟨a, c, l, hp, -⟩
    simp at hp
  · obtain ⟨rfl, -⟩ := List.cons.inj h
    exact Rule.not_ends_none []
  · obtain ⟨rfl, hrest⟩ := List.cons.inj h
    obtain ⟨rfl, -⟩ := List.cons.inj hrest
    exact Rule.not_ends_some R.ends_closing [none]
  · cases h

theorem redactText_REDACTED (tables : UnicodeTables) : redactText tables REDACTED = REDACTED := by
  have hsettled : ∀ R : Rule logSetting, R.Settled logSetting.placeholder :=
    fun R p q h hstarts => absurd hstarts.1 (not_ends_in_placeholder h)
  have hredacted : Redacted tables logSetting.placeholder := {
    assignment := hsettled _
    auth := hsettled _
    cookie := hsettled _
    bearer := hsettled _
    closed := (Rule.closed_nil.cons_some _).cons_none }
  rw [← render_placeholder]
  refine hredacted.redactText_iff.2 ?_
  rintro ⟨p, z, ht, hends, -⟩
  exact not_ends_in_placeholder ht hends

/-! ## Two passes over a value -/

mutual

/-- A second pass over the redacted value finds no exposed placeholder. -/
def Stable (tables : UnicodeTables) : LogValue → Prop
  | .str value => ¬ ExposesValue tables value
  | .other text => ¬ ExposesValue tables text
  | .mapping items => StableMembers tables items
  | .sequence items => StableItems tables items
  | .set items => StableItems tables items
  | _ => True

def StableItems (tables : UnicodeTables) : List LogValue → Prop
  | [] => True
  | value :: items => Stable tables value ∧ StableItems tables items

/-- What is stored under a sensitive key, or under a key with the `str` of a later
one, does not matter. -/
def StableMembers (tables : UnicodeTables) : List (LogKey × LogValue) → Prop
  | [] => True
  | (key, value) :: items =>
    (key.str ∈ items.map (·.1.str) ∨ isSensitiveKey tables key = true ∨ Stable tables value) ∧
      StableMembers tables items

end

theorem mem_insertItem {items : List (LogKey × LogValue)} {item other : LogKey × LogValue} :
    other ∈ insertItem items item ↔ other = item ∨ other ∈ items ∧ other.1 ≠ item.1 := by
  unfold insertItem
  split_ifs with hany
  · simp only [List.any_eq_true, decide_eq_true_eq] at hany
    obtain ⟨old, hold, hkey⟩ := hany
    rw [List.mem_map]
    constructor
    · rintro ⟨x, hx, rfl⟩
      split_ifs with hx'
      · exact .inl rfl
      · exact .inr ⟨hx, hx'⟩
    · rintro (rfl | ⟨hother, hne⟩)
      · exact ⟨old, hold, if_pos hkey⟩
      · exact ⟨other, hother, if_neg hne⟩
  · simp only [List.any_eq_true, decide_eq_true_eq, not_exists, not_and] at hany
    rw [List.mem_append, List.mem_singleton]
    constructor
    · rintro (hother | rfl)
      · exact .inr ⟨hother, hany other hother⟩
      · exact .inl rfl
    · rintro (rfl | ⟨hother, -⟩)
      · exact .inr rfl
      · exact .inl hother

theorem map_fst_insertItem (items : List (LogKey × LogValue)) (item : LogKey × LogValue) :
    (insertItem items item).map (·.1) =
      if item.1 ∈ items.map (·.1) then items.map (·.1) else items.map (·.1) ++ [item.1] := by
  have hany : (items.any fun other => other.1 = item.1) = true ↔ item.1 ∈ items.map (·.1) := by
    simp only [List.any_eq_true, decide_eq_true_eq, List.mem_map]
  unfold insertItem
  by_cases hmem : item.1 ∈ items.map (·.1)
  · rw [if_pos (hany.2 hmem), if_pos hmem, List.map_map]
    refine List.map_congr_left fun other _ => ?_
    dsimp only [Function.comp_apply]
    split_ifs with hkey
    · exact hkey.symm
    · rfl
  · rw [if_neg (hany.not.2 hmem), if_neg hmem, List.map_append]
    rfl

/-- The items of a dictionary: of the items with one key the last one. -/
theorem mem_foldl_insertItem {items : List (LogKey × LogValue)} {item : LogKey × LogValue} :
    item ∈ items.foldl insertItem [] ↔
      ∃ a b, items = a ++ item :: b ∧ item.1 ∉ b.map (·.1) := by
  induction items using List.reverseRecOn with
  | nil => simp
  | append_singleton items last ih =>
    rw [List.foldl_append, List.foldl_cons, List.foldl_nil, mem_insertItem, ih]
    constructor
    · rintro (rfl | ⟨⟨a, b, rfl, hb⟩, hne⟩)
      · exact ⟨items, [], rfl, nofun⟩
      · exact ⟨a, b ++ [last], by simp, by simpa [hb] using hne⟩
    · rintro ⟨a, b, hsplit, hb⟩
      obtain rfl | ⟨b, x, rfl⟩ := List.eq_nil_or_concat b
      · exact .inl (List.cons.inj (List.append_inj' hsplit rfl).2).1.symm
      · have hsplit' : items ++ [last] = (a ++ item :: b) ++ [x] := by
          rw [hsplit]
          simp
        obtain ⟨rfl, hx⟩ := List.append_inj' hsplit' rfl
        obtain rfl := (List.cons.inj hx).1
        simp only [List.concat_eq_append, List.map_append, List.mem_append, not_or] at hb
        exact .inr ⟨⟨a, b, rfl, hb.1⟩, by simpa using hb.2⟩

theorem nodup_foldl_insertItem (items : List (LogKey × LogValue)) :
    ((items.foldl insertItem []).map (·.1)).Nodup := by
  induction items using List.reverseRecOn with
  | nil => exact List.nodup_nil
  | append_singleton items last ih =>
    rw [List.foldl_append, List.foldl_cons, List.foldl_nil, map_fst_insertItem]
    split_ifs with hmem
    · exact ih
    · exact List.nodup_append.2 ⟨ih, by simp, fun a ha b hb => by
        obtain rfl := List.mem_singleton.1 hb
        rintro rfl
        exact hmem ha⟩

/-- Items with different keys are a dictionary already. -/
theorem foldl_insertItem_of_nodup {items : List (LogKey × LogValue)} (h : (items.map (·.1)).Nodup) :
    items.foldl insertItem [] = items := by
  induction items using List.reverseRecOn with
  | nil => rfl
  | append_singleton items last ih =>
    rw [List.map_append, List.nodup_append] at h
    obtain ⟨hitems, -, hnew⟩ := h
    rw [List.foldl_append, List.foldl_cons, List.foldl_nil, ih hitems, insertItem, if_neg]
    simp only [List.any_eq_true, decide_eq_true_eq, not_exists, not_and]
    intro other hother hkey
    exact hnew other.1 (List.mem_map_of_mem hother) last.1 (by simp) hkey

/-- What redaction makes of an item of a mapping. -/
def redactMember (tables : UnicodeTables) (item : LogKey × LogValue) : LogKey × LogValue :=
  (.object item.1.str,
    if isSensitiveKey tables item.1 then .str REDACTED else redactBody tables item.2)

theorem redactMembers_eq_map (items : List (LogKey × LogValue)) :
    redactMembers tables items = items.map (redactMember tables) := by
  induction items with
  | nil => rfl
  | cons item items ih =>
    obtain ⟨key, value⟩ := item
    rw [redactMembers, List.map_cons, ih, sensitive_iff]
    rfl

theorem isSensitiveKey_str (key : LogKey) :
    isSensitiveKey tables (.object key.str) = isSensitiveKey tables key := rfl

theorem map_fst_redactMember (items : List (LogKey × LogValue)) :
    (items.map (redactMember tables)).map (·.1) = items.map fun item => .object item.1.str := by
  rw [List.map_map]
  rfl

theorem redactMember_redactMember_iff (key : LogKey) (value : LogValue) :
    redactMember tables (redactMember tables (key, value)) = redactMember tables (key, value) ↔
      isSensitiveKey tables key = true ∨
        redactBody tables (redactBody tables value) = redactBody tables value := by
  have hstr : (LogKey.object key.str).str = key.str := rfl
  unfold redactMember
  dsimp only
  rw [isSensitiveKey_str, hstr, Prod.mk.injEq]
  by_cases hkey : isSensitiveKey tables key = true
  · simp only [hkey, if_true, true_or, and_self]
  · simp only [hkey, if_false, false_or, true_and, Bool.false_eq_true]

/-- The keys of a redacted mapping are strings already. -/
theorem nodup_redactMember (items : List (LogKey × LogValue)) :
    ((((items.map (redactMember tables)).foldl insertItem []).map (redactMember tables)).map
      (·.1)).Nodup := by
  have hsame : (((items.map (redactMember tables)).foldl insertItem []).map
    (redactMember tables)).map
      (·.1) = ((items.map (redactMember tables)).foldl insertItem []).map (·.1) := by
    rw [map_fst_redactMember]
    refine List.map_congr_left fun item hitem => ?_
    obtain ⟨a, b, hsplit, -⟩ := mem_foldl_insertItem.1 hitem
    obtain ⟨-, rest, -, -, hrest⟩ := List.map_eq_append_iff.1 hsplit
    obtain ⟨x, -, -, rfl, -⟩ := List.map_eq_cons_iff.1 hrest
    rfl
  rw [hsame]
  exact nodup_foldl_insertItem _

/-- A mapping is redacted once and for all if the last item with each key is. -/
theorem redactMapping_iff (items : List (LogKey × LogValue)) :
    redactBody tables (redactBody tables (.mapping items)) = redactBody tables (.mapping items) ↔
      ∀ a key value b, items = a ++ (key, value) :: b → key.str ∉ b.map (·.1.str) →
        isSensitiveKey tables key = true ∨
          redactBody tables (redactBody tables value) = redactBody tables value := by
  have hkeys : ∀ (key : LogKey) (value : LogValue) (b : List (LogKey × LogValue)),
      (redactMember tables (key, value)).1 ∉ (b.map (redactMember tables)).map (·.1) ↔
        key.str ∉ b.map (·.1.str) := by
    intro key value b
    simp [redactMember]
  rw [redactBody, redactBody, redactMembers_eq_map, redactMembers_eq_map,
    foldl_insertItem_of_nodup (nodup_redactMember items), LogValue.mapping.injEq]
  have hself := List.map_inj_left (l := (items.map (redactMember tables)).foldl insertItem [])
    (f := redactMember tables) (g := id)
  rw [List.map_id] at hself
  rw [hself]
  constructor
  · intro h a key value b hsplit hlast
    refine (redactMember_redactMember_iff key value).1 (h _ (mem_foldl_insertItem.2 ?_))
    exact ⟨a.map (redactMember tables), b.map (redactMember tables), by rw [hsplit]; simp,
      (hkeys key value b).2 hlast⟩
  · intro h item hitem
    obtain ⟨a, b, hsplit, hlast⟩ := mem_foldl_insertItem.1 hitem
    obtain ⟨a, rest, rfl, rfl, hrest⟩ := List.map_eq_append_iff.1 hsplit
    obtain ⟨⟨key, value⟩, b, rfl, rfl, rfl⟩ := List.map_eq_cons_iff.1 hrest
    exact (redactMember_redactMember_iff key value).2
      (h a key value b rfl ((hkeys key value b).1 hlast))

theorem stableMembers_iff {items : List (LogKey × LogValue)} :
    StableMembers tables items ↔
      ∀ a key value b, items = a ++ (key, value) :: b → key.str ∉ b.map (·.1.str) →
        isSensitiveKey tables key = true ∨ Stable tables value := by
  induction items with
  | nil => simp [StableMembers]
  | cons item items ih =>
    obtain ⟨key, value⟩ := item
    rw [StableMembers, ih]
    constructor
    · rintro ⟨hfirst, hrest⟩ a k v b hsplit hlast
      obtain _ | ⟨x, a⟩ := a
      · obtain ⟨hitem, rfl⟩ := List.cons.inj hsplit
        obtain ⟨rfl, rfl⟩ := Prod.mk.inj hitem
        exact hfirst.resolve_left hlast
      · exact hrest a k v b (List.cons.inj hsplit).2 hlast
    · intro h
      refine ⟨?_, fun a k v b hsplit => h ((key, value) :: a) k v b (by rw [hsplit]; rfl)⟩
      exact or_iff_not_imp_left.2 fun hlast => h [] key value items rfl hlast

mutual

/-- A second pass leaves exactly the stable values as they are. -/
theorem stable_iff (value : LogValue) :
    redactBody tables (redactBody tables value) = redactBody tables value ↔
      Stable tables value := by
  cases value with
  | none => exact iff_of_true rfl trivial
  | bool value => exact iff_of_true rfl trivial
  | int value => exact iff_of_true rfl trivial
  | float value => exact iff_of_true rfl trivial
  | str value =>
    rw [redactBody, redactBody, LogValue.str.injEq, redactText_redactText_iff, Stable]
  | bytes value =>
    rw [redactBody, redactBody, redactText_REDACTED]
    exact iff_of_true rfl trivial
  | mapping items =>
    rw [redactMapping_iff, Stable, stableMembers_iff]
    have hmembers := stable_of_mem items
    constructor
    · intro h a key value b hsplit hlast
      exact (h a key value b hsplit hlast).imp_right (hmembers (key, value) (by simp [hsplit])).1
    · intro h a key value b hsplit hlast
      exact (h a key value b hsplit hlast).imp_right (hmembers (key, value) (by simp [hsplit])).2
  | sequence items =>
    rw [redactBody, redactBody, LogValue.sequence.injEq, stableItems_iff, Stable]
  | set items =>
    rw [redactBody, redactBody, LogValue.sequence.injEq, stableItems_iff, Stable]
  | other text =>
    rw [redactBody, redactBody, LogValue.str.injEq, redactText_redactText_iff, Stable]

theorem stableItems_iff (items : List LogValue) :
    redactItems tables (redactItems tables items) = redactItems tables items ↔
      StableItems tables items := by
  cases items with
  | nil => exact iff_of_true rfl trivial
  | cons value items =>
    rw [redactItems, redactItems, List.cons.injEq, stable_iff value, stableItems_iff items,
      StableItems]

theorem stable_of_mem (items : List (LogKey × LogValue)) : ∀ item ∈ items,
    (redactBody tables (redactBody tables item.2) = redactBody tables item.2 ↔
      Stable tables item.2) := by
  cases items with
  | nil => exact fun item hitem => absurd hitem List.not_mem_nil
  | cons first items =>
    obtain ⟨key, value⟩ := first
    intro item hitem
    obtain rfl | hitem := List.mem_cons.1 hitem
    · exact stable_iff value
    · exact stable_of_mem items item hitem

end

/-- A second redaction leaves exactly the texts as they are that expose no value, and the values
with no such text in them that is redacted. -/
theorem redaction_twice_iff (tables : UnicodeTables) (s : PyStr) (v : LogValue) (key : LogKey) :
    (redactText tables (redactText tables s) = redactText tables s ↔ ¬ ExposesValue tables s) ∧
      (redactValue tables (redactValue tables v key) key = redactValue tables v key ↔
        (key ≠ .none && isSensitiveKey tables key) = true ∨ Stable tables v) := by
  refine ⟨redactText_redactText_iff tables s, ?_⟩
  unfold redactValue
  by_cases hkey : (key ≠ .none && isSensitiveKey tables key) = true
  · rw [if_pos hkey, if_pos hkey]
    exact iff_of_true rfl (.inl hkey)
  · rw [if_neg hkey, if_neg hkey, stable_iff]
    exact (or_iff_right hkey).symm

/-- The second pass stops before the bracket of the placeholder. -/
theorem redaction_twice_iff_token :
    redactText asciiTables (py "token=abc") = py "token=[REDACTED]" ∧
      redactText asciiTables (redactText asciiTables (py "token=abc")) = py "token=[REDACTED]]" ∧
      ¬ ∀ s, redactText asciiTables (redactText asciiTables s) = redactText asciiTables s := by
  have hfirst : redactText asciiTables (py "token=abc") = py "token=[REDACTED]" := by
    decide +kernel
  have hsecond : redactText asciiTables (py "token=[REDACTED]") = py "token=[REDACTED]]" := by
    decide +kernel
  refine ⟨hfirst, by rw [hfirst, hsecond], fun h => ?_⟩
  have htwice := h (py "token=abc")
  rw [hfirst, hsecond] at htwice
  exact absurd htwice (by decide)

end SelfRelay.Backend
