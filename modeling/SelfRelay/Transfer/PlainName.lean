import SelfRelay.Transfer.FileName

/-!
# Plain names

Which names `sanitizeFileName` keeps its promise for, said of the name that it is given.  What
counts is the last component of the normalized name (`IsLastPart`).  If it has no lone surrogate,
needs no cut and has no white space before dots that are stripped, then the sanitized name is safe
(`sanitizeFileName_safe`).
-/

namespace SelfRelay

/-! ## Shorter strings -/

theorem utf8ByteLength_singleton (u : UInt16) :
    1 ≤ utf8ByteLength [u] ∧
      (isHighSurrogate u = true ∨ isLowSurrogate u = true → utf8ByteLength [u] = 3) := by
  have hlength : utf8ByteLength [u] = (utf8Sequence (scalarValue u.toNat)).length := by
    simp [utf8ByteLength, textEncode, codePoints]
  rw [hlength]
  constructor
  · unfold utf8Sequence
    split_ifs <;> simp
  · intro h
    have hreplaced : scalarValue u.toNat = 0xfffd := by
      simp only [isHighSurrogate, isLowSurrogate, Bool.and_eq_true, decide_eq_true_eq] at h
      exact if_pos (by omega)
    rw [hreplaced]
    rfl

/-- A unit adds its own bytes, unless it begins a pair. -/
theorem utf8ByteLength_cons {u : UInt16} {s : JsString}
    (h : ¬ (isHighSurrogate u = true ∧ ∃ v ∈ s.head?, isLowSurrogate v = true)) :
    utf8ByteLength (u :: s) = utf8ByteLength [u] + utf8ByteLength s := by
  cases s with
  | nil => rfl
  | cons v rest =>
    have hpair : ¬ (isHighSurrogate u && isLowSurrogate v) = true := by
      rw [Bool.and_eq_true]
      exact fun hpair => h ⟨hpair.1, v, rfl, hpair.2⟩
    simp [utf8ByteLength, textEncode, codePoints, hpair]

theorem utf8ByteLength_pair {u v : UInt16} (hu : isHighSurrogate u = true)
    (hv : isLowSurrogate v = true)
    (rest : JsString) : utf8ByteLength (u :: v :: rest) = 4 + utf8ByteLength rest := by
  have hpair : (isHighSurrogate u && isLowSurrogate v) = true := by rw [hu, hv]; rfl
  simp only [isHighSurrogate, isLowSurrogate, Bool.and_eq_true, decide_eq_true_eq] at hu hv
  have hlength : ∀ c, 0x10000 ≤ c → (utf8Sequence (scalarValue c)).length = 4 := by
    intro c hc
    rw [scalarValue, if_neg (by omega), utf8Sequence, if_neg (by omega), if_neg (by omega),
      if_neg (by omega)]
    rfl
  have hfour := hlength (0x10000 + (u.toNat - 0xd800) * 1024 + (v.toNat - 0xdc00)) (by omega)
  simp only [utf8ByteLength, textEncode, codePoints, hpair, if_true, List.flatMap_cons,
    List.length_append, hfour]

theorem utf8ByteLength_cons_le (u : UInt16) (s : JsString) :
    utf8ByteLength s + 1 ≤ utf8ByteLength (u :: s) ∧
      utf8ByteLength (u :: s) ≤ utf8ByteLength [u] + utf8ByteLength s := by
  have hone := (utf8ByteLength_singleton u).1
  by_cases hpair : isHighSurrogate u = true ∧ ∃ v ∈ s.head?, isLowSurrogate v = true
  · obtain ⟨hu, v, hhead, hv⟩ := hpair
    obtain ⟨rest, rfl⟩ := List.head?_eq_some_iff.1 hhead
    have hthree := (utf8ByteLength_singleton u).2 (.inl hu)
    have hlow := (utf8ByteLength_singleton v).2 (.inr hv)
    rw [utf8ByteLength_pair hu hv, utf8ByteLength_cons (by rw [not_high_of_low hv]; nofun)]
    omega
  · rw [utf8ByteLength_cons hpair]
    omega

/-- Every unit that is left out takes a byte at least, although halves that
come together take fewer. -/
theorem utf8ByteLength_sublist {s t : JsString} (h : s.Sublist t) :
    utf8ByteLength s + t.length ≤ utf8ByteLength t + s.length := by
  induction hn : t.length using Nat.strong_induction_on generalizing s t with
  | _ n ih =>
    have ih : ∀ {a b : JsString}, a.Sublist b → b.length < n →
        utf8ByteLength a + b.length ≤ utf8ByteLength b + a.length := fun hab hlt => ih _ hlt hab rfl
    subst hn
    cases h with
    | slnil => exact le_rfl
    | @cons _ t u hsub =>
      have hrest := ih hsub (Nat.lt_succ_self _)
      have hcons := (utf8ByteLength_cons_le u t).1
      rw [List.length_cons]
      omega
    | @cons_cons s t u hsub =>
      have hcons := (utf8ByteLength_cons_le u s).2
      simp only [List.length_cons] at ih ⊢
      by_cases hpair : isHighSurrogate u = true ∧ ∃ v ∈ t.head?, isLowSurrogate v = true
      · -- the half that follows is kept, or it is left out
        obtain ⟨hu, v, hhead, hv⟩ := hpair
        obtain ⟨rest, rfl⟩ := List.head?_eq_some_iff.1 hhead
        have hthree := (utf8ByteLength_singleton u).2 (.inl hu)
        rw [utf8ByteLength_pair hu hv]
        simp only [List.length_cons] at ih ⊢
        cases hsub with
        | cons _ hrest =>
          have hrest := ih hrest (by omega)
          omega
        | @cons_cons s' _ _ hrest =>
          have hrest := ih hrest (by omega)
          rw [utf8ByteLength_pair hu hv, List.length_cons]
          omega
      · have hrest := ih hsub (Nat.lt_succ_self _)
        rw [utf8ByteLength_cons hpair]
        omega

theorem isWellFormed_append_unpaired (s : JsString) {t : JsString} (ht : ∀ u ∈ t, isUnpaired u) :
    isWellFormed (s ++ t) = isWellFormed s := by
  have halone := isWellFormed_of_unpaired ht
  induction s using isWellFormed.induct with
  | case1 => exact halone
  | case2 u =>
    cases t with
    | nil => rfl
    | cons v t =>
      have hv := ht v List.mem_cons_self
      simp only [List.singleton_append, isWellFormed, hv.2, halone, Bool.false_and, Bool.and_true]
      cases isHighSurrogate u <;> rfl
  | case3 u v s hu ih => simp [isWellFormed, hu, ih]
  | case4 u v s hu ih =>
    rw [Bool.not_eq_true] at hu
    have ih : isWellFormed (v :: (s ++ t)) = isWellFormed (v :: s) := ih
    simp [isWellFormed, hu, ih]

/-! ## The last component -/

def isSeparator (u : UInt16) : Bool := u = 0x5c || u = 0x2f

/-- The last component of a path: what stands before the separators at its end, back to the
separator before. -/
structure IsLastPart (source part : JsString) : Prop where
  split : ∃ dir rest, source = dir ++ part ++ rest ∧ (∀ u ∈ dir.getLast?, isSeparator u = true) ∧
    ∀ u ∈ rest, isSeparator u = true
  nonempty : part ≠ []
  units : ∀ u ∈ part, isSeparator u = false

theorem splitOn_ne_nil (separator : UInt16 → Bool) (s : JsString) : splitOn separator s ≠ [] := by
  cases s with
  | nil => exact List.cons_ne_nil _ _
  | cons u s =>
    rw [splitOn]
    split_ifs
    · exact List.cons_ne_nil _ _
    · split <;> exact List.cons_ne_nil _ _

theorem splitOn_append (separator : UInt16 → Bool) (s t : JsString) {u : UInt16}
    (hu : separator u = true) :
    splitOn separator (s ++ u :: t) = splitOn separator s ++ splitOn separator t := by
  induction s with
  | nil => simp [splitOn, hu]
  | cons v s ih =>
    rw [List.cons_append, splitOn, splitOn, ih]
    split_ifs
    · rfl
    · obtain ⟨piece, pieces, hpieces⟩ := List.exists_cons_of_ne_nil (splitOn_ne_nil separator s)
      rw [hpieces]
      rfl

theorem splitOn_eq_singleton {separator : UInt16 → Bool} {s : JsString}
    (h : ∀ u ∈ s, separator u = false) :
    splitOn separator s = [s] := by
  induction s with
  | nil => rfl
  | cons u s ih =>
    rw [splitOn, h u List.mem_cons_self, ih fun v hv => h v (List.mem_cons_of_mem _ hv)]
    rfl

/-- Separators alone separate nothing. -/
theorem splitOn_separators {separator : UInt16 → Bool} {s : JsString}
    (h : ∀ u ∈ s, separator u = true) :
    (splitOn separator s).filter (· ≠ []) = [] := by
  induction s with
  | nil => rfl
  | cons u s ih =>
    rw [splitOn, if_pos (h u List.mem_cons_self)]
    exact ih fun v hv => h v (List.mem_cons_of_mem _ hv)

theorem lastComponent_append {s t : JsString} (ht : (splitOn isSeparator t).filter (· ≠ []) ≠ [])
    (hs : ∀ u ∈ s.getLast?, isSeparator u = true) : lastComponent (s ++ t) = lastComponent t := by
  rcases List.eq_nil_or_concat s with rfl | ⟨s, u, rfl⟩
  · rfl
  · rw [List.concat_eq_append] at hs ⊢
    rw [List.append_assoc, List.singleton_append, lastComponent, lastComponent]
    change ((splitOn isSeparator (s ++ u :: t)).filter (· ≠ [])).getLast?.getD [] =
      ((splitOn isSeparator t).filter (· ≠ [])).getLast?.getD []
    rw [splitOn_append _ _ _ (hs u (by simp)), List.filter_append,
      List.getLast?_append_of_ne_nil _ ht]

theorem IsLastPart.eq {source part : JsString} (h : IsLastPart source part) :
    part = lastComponent source := by
  obtain ⟨dir, rest, rfl, hdir, hrest⟩ := h.split
  have hpart : (splitOn isSeparator (part ++ rest)).filter (· ≠ []) = [part] := by
    have hsingle := splitOn_eq_singleton h.units
    cases rest with
    | nil => simp [hsingle, h.nonempty]
    | cons u rest =>
      have hnone := splitOn_separators fun v hv => hrest v (List.mem_cons_of_mem u hv)
      rw [splitOn_append _ _ _ (hrest u List.mem_cons_self), hsingle, List.filter_append, hnone]
      simp [h.nonempty]
  rw [List.append_assoc, lastComponent_append (by rw [hpart]; nofun) hdir]
  change part = ((splitOn isSeparator (part ++ rest)).filter (· ≠ [])).getLast?.getD []
  rw [hpart]
  rfl

/-- A path that is not made of separators has a last component. -/
theorem isLastPart_lastComponent {source : JsString} (h : lastComponent source ≠ []) :
    IsLastPart source (lastComponent source) := by
  set path := source.rdropWhile isSeparator with hpath
  set part := path.rtakeWhile fun u => !isSeparator u with hpart
  have hne : path ≠ [] := by
    intro hnil
    apply h
    have hall := splitOn_separators (List.rdropWhile_eq_nil_iff.1 hnil)
    change ((splitOn isSeparator source).filter (· ≠ [])).getLast?.getD [] = []
    rw [hall]
    rfl
  have hlast : IsLastPart source part := by
    refine ⟨⟨path.rdropWhile fun u => !isSeparator u, source.rtakeWhile isSeparator, ?_, ?_,
      ?_⟩, ?_, ?_⟩
    · rw [List.rdropWhile_append_rtakeWhile, List.rdropWhile_append_rtakeWhile]
    · intro u hu
      obtain ⟨hne, rfl⟩ := List.mem_getLast?_eq_getLast hu
      have hnot := List.rdropWhile_last_not _ _ hne
      simpa using hnot
    · exact fun u hu => List.mem_rtakeWhile_imp hu
    · intro hnil
      have hend := List.rtakeWhile_eq_nil_iff.1 hnil hne
      exact hend (by simpa using List.rdropWhile_last_not _ _ hne)
    · intro u hu
      simpa using List.mem_rtakeWhile_imp hu
  exact hlast.eq ▸ hlast

/-! ## Plain names -/

/-- A component without lone surrogates that needs no cut, also where it is a device name and gets
an underscore.  Where dots that are stripped follow on white space other than a space, nothing else
stands before it. -/
structure IsPlainPart (part : JsString) : Prop where
  wellFormed : isWellFormed part = true
  length_le : utf8ByteLength part ≤ maxFileNameBytes
  device : IsDeviceName part → utf8ByteLength part < maxFileNameBytes
  dots : ∀ x u t, part = x ++ u :: t → isTrimmed u = true → isControl u = false → u ≠ 0x20 →
    (∀ v ∈ t, v = 0x2e ∨ isTrimmed v = true ∨ isControl v = true) → 0x2e ∈ t →
    ∀ v ∈ x, isTrimmed v = true ∨ isControl v = true

/-- The last component of the path is plain. -/
def IsPlainName (source : JsString) : Prop := ∀ part, IsLastPart source part → IsPlainPart part

/-- What `sanitizeFileName` makes of a unit that it keeps. -/
def safeUnit (u : UInt16) : UInt16 := if forbiddenUnits.contains u then 0x5f else u

/-- The units of a component that are kept. -/
def keptUnits (part : JsString) : JsString := (part.filter fun u => !isControl u).map safeUnit

theorem mem_keptUnits {part : JsString} {u : UInt16} :
    u ∈ keptUnits part ↔ ∃ v ∈ part, isControl v = false ∧ safeUnit v = u := by
  simp [keptUnits, and_assoc]

/-- A unit that is not an underscore was not replaced. -/
theorem eq_of_safeUnit {u v : UInt16} (h : safeUnit v = u) (hu : u ≠ 0x5f) : v = u := by
  unfold safeUnit at h
  split_ifs at h
  · exact absurd h.symm hu
  · exact h

/-- No surrogate is replaced, and none is put in. -/
theorem surrogates_safeUnit (u : UInt16) :
    isHighSurrogate (safeUnit u) = isHighSurrogate u ∧
      isLowSurrogate (safeUnit u) = isLowSurrogate u := by
  have hforbidden : ∀ v ∈ forbiddenUnits, isHighSurrogate v = false ∧ isLowSurrogate v = false :=
    List.all_iff_forall_prop.1 (by decide)
  unfold safeUnit
  split_ifs with h
  · obtain ⟨hhigh, hlow⟩ := hforbidden u (by simpa using h)
    rw [hhigh, hlow]
    decide
  · exact ⟨rfl, rfl⟩

theorem isUnpaired_of_isControl {u : UInt16} (hu : isControl u = true) : isUnpaired u := by
  simp only [isControl, Bool.or_eq_true, Bool.and_eq_true, decide_eq_true_eq] at hu
  exact isUnpaired_of_lt (by omega)

theorem isWellFormed_keptUnits {part : JsString} (h : isWellFormed part = true) :
    isWellFormed (keptUnits part) = true := by
  have hcons : ∀ {u : UInt16} (rest : JsString), isUnpaired u →
      isWellFormed (keptUnits (u :: rest)) = isWellFormed (keptUnits rest) := by
    intro u rest hu
    obtain ⟨hhigh, hlow⟩ := surrogates_safeUnit u
    rw [keptUnits, List.filter_cons]
    split_ifs
    · exact isWellFormed_cons ⟨hhigh.trans hu.1, hlow.trans hu.2⟩ _
    · rfl
  induction part using isWellFormed.induct with
  | case1 => rfl
  | case2 u =>
    have hu : isHighSurrogate u = false ∧ isLowSurrogate u = false := by
      simpa [isWellFormed] using h
    rw [hcons [] hu]
    rfl
  | case3 u v rest hu ih =>
    rw [isWellFormed, if_pos hu, Bool.and_eq_true] at h
    have hkept : ∀ {w : UInt16}, ¬ isUnpaired w → isControl w = false := fun hw =>
      Bool.eq_false_of_not_eq_true fun hcontrol => hw (isUnpaired_of_isControl hcontrol)
    have hpair : keptUnits (u :: v :: rest) = safeUnit u :: safeUnit v :: keptUnits rest := by
      have hu := hkept (w := u) fun hw => by rw [hw.1] at hu; cases hu
      have hv := hkept (w := v) fun hw => by rw [hw.2] at h; cases h.1
      simp [keptUnits, hu, hv]
    rw [hpair, isWellFormed, (surrogates_safeUnit u).1, (surrogates_safeUnit v).2, if_pos hu,
      h.1, ih h.2]
    rfl
  | case4 u v rest hu ih =>
    rw [isWellFormed, if_neg hu, Bool.and_eq_true, Bool.not_eq_true'] at h
    rw [hcons (v :: rest) ⟨Bool.eq_false_of_not_eq_true hu, h.1⟩]
    exact ih h.2

/-- A unit that is replaced takes one byte, as its replacement does. -/
theorem utf8ByteLength_map_safeUnit (s : JsString) :
    utf8ByteLength (s.map safeUnit) = utf8ByteLength s := by
  have hsingle : ∀ u, utf8ByteLength [safeUnit u] = utf8ByteLength [u] := by
    intro u
    have hone : ∀ v ∈ forbiddenUnits, utf8ByteLength [v] = 1 :=
      List.all_iff_forall_prop.1 (by decide)
    unfold safeUnit
    split_ifs with hforbidden
    · exact (hone u (by simpa using hforbidden)).symm
    · rfl
  induction s using codePoints.induct with
  | case1 => rfl
  | case2 u => exact hsingle u
  | case3 u v rest h ih =>
    rw [Bool.and_eq_true] at h
    rw [utf8ByteLength_pair h.1 h.2, List.map_cons, List.map_cons,
      utf8ByteLength_pair ((surrogates_safeUnit u).1.trans h.1)
        ((surrogates_safeUnit v).2.trans h.2), ih]
  | case4 u v rest h ih =>
    rw [Bool.and_eq_true] at h
    have hpair : ¬ (isHighSurrogate u = true ∧ ∃ w ∈ (v :: rest).head?,
        isLowSurrogate w = true) := by
      rintro ⟨hu, w, hw, hlow⟩
      obtain rfl := Option.some.inj hw
      exact h ⟨hu, hlow⟩
    have hpair' : ¬ (isHighSurrogate (safeUnit u) = true ∧
        ∃ w ∈ ((v :: rest).map safeUnit).head?, isLowSurrogate w = true) := by
      rintro ⟨hu, w, hw, hlow⟩
      obtain rfl := Option.some.inj hw
      exact h ⟨(surrogates_safeUnit u).1.symm.trans hu, (surrogates_safeUnit v).2.symm.trans hlow⟩
    rw [utf8ByteLength_cons hpair, List.map_cons, utf8ByteLength_cons hpair', hsingle, ih]

theorem keptUnits_split {part l r : JsString} {u : UInt16} (h : keptUnits part = l ++ u :: r)
    (hu : u ≠ 0x5f) :
    ∃ x t, part = x ++ u :: t ∧ isControl u = false ∧ keptUnits x = l ∧ keptUnits t = r := by
  obtain ⟨l₁, l₂, hfilter, rfl, hl₂⟩ := List.map_eq_append_iff.1 h
  obtain ⟨v, l₃, rfl, hv, rfl⟩ := List.map_eq_cons_iff.1 hl₂
  obtain rfl := eq_of_safeUnit hv hu
  obtain ⟨p, q, rfl, rfl, hq⟩ := List.filter_eq_append_iff.1 hfilter
  obtain ⟨q₁, q₂, rfl, hcontrol, hkept, rfl⟩ := List.filter_eq_cons_iff.1 hq
  have hnone : q₁.filter (fun u => !isControl u) = [] := List.filter_eq_nil_iff.2 hcontrol
  refine ⟨p ++ q₁, q₂, by simp, by simpa using hkept, ?_, rfl⟩
  rw [keptUnits, List.filter_append, hnone, List.append_nil]

/-- The stripped name among the units that are kept. -/
theorem strippedName_split (source : JsString) : ∃ lead dots trail,
    keptUnits (lastComponent source) = lead ++ (strippedName source ++ dots) ++ trail ∧
    (∀ u ∈ lead, isTrimmed u = true) ∧ (∀ u ∈ dots, u = 0x2e ∨ u = 0x20) ∧
    (∀ u ∈ trail, isTrimmed u = true) ∧ ∀ u ∈ (strippedName source ++ dots).getLast?,
      isTrimmed u = false := by
  set kept := keptUnits (lastComponent source) with hkept
  have htrim : strippedName source = (trim kept).rdropWhile fun u => u = 0x2e || u = 0x20 := rfl
  have hdots : strippedName source ++ (trim kept).rtakeWhile (fun u => u = 0x2e || u = 0x20) =
      trim kept := by
    rw [htrim]
    exact List.rdropWhile_append_rtakeWhile
  refine ⟨kept.takeWhile isTrimmed, (trim kept).rtakeWhile fun u => u = 0x2e || u = 0x20,
    (kept.dropWhile isTrimmed).rtakeWhile isTrimmed, ?_, ?_, ?_, ?_, ?_⟩
  · rw [hdots, List.append_assoc, trim, List.rdropWhile_append_rtakeWhile,
      List.takeWhile_append_dropWhile]
  · exact fun u hu => List.mem_takeWhile_imp hu
  · intro u hu
    simpa using List.mem_rtakeWhile_imp hu
  · exact fun u hu => List.mem_rtakeWhile_imp hu
  · rw [hdots]
    intro u hu
    obtain ⟨hne, rfl⟩ := List.mem_getLast?_eq_getLast hu
    exact Bool.eq_false_of_not_eq_true (List.rdropWhile_last_not _ _ hne)

/-- The stripped name of a plain component does not end in white space. -/
theorem IsPlainPart.trailing {source : JsString} (h : IsPlainPart (lastComponent source)) :
    ∀ u ∈ (strippedName source).getLast?, isTrimmed u = false := by
  intro u hu
  by_contra htrimmed
  rw [Bool.not_eq_false] at htrimmed
  obtain ⟨lead, dots, trail, hkept, hlead, hdots, htrail, hend⟩ := strippedName_split source
  obtain ⟨x, hx⟩ := List.getLast?_eq_some_iff.1 hu
  -- the last of the units that were stripped is a dot
  have hdot : 0x2e ∈ dots := by
    cases hlast : dots.getLast? with
    | none =>
      rw [List.getLast?_eq_none_iff.1 hlast, List.append_nil] at hend
      exact absurd htrimmed (by rw [hend u hu]; decide)
    | some v =>
      have hmem := List.mem_of_getLast? hlast
      rcases hdots v hmem with rfl | rfl
      · exact hmem
      · have hblank := hend 0x20 (by rw [List.getLast?_append, hlast]; rfl)
        exact absurd hblank (by decide)
  have hsplit : keptUnits (lastComponent source) = (lead ++ x) ++ u :: (dots ++ trail) := by
    rw [hkept, hx]
    simp
  have hunder : ∀ {v : UInt16}, v = 0x2e ∨ isTrimmed v = true → v ≠ 0x5f := by
    rintro v hv rfl
    exact absurd hv (by decide)
  obtain ⟨p, q, hpart, hcontrol, hp, hq⟩ := keptUnits_split hsplit (hunder (.inr htrimmed))
  have hbefore : ∀ v ∈ p, isTrimmed v = true ∨ isControl v = true := by
    refine h.dots p u q hpart htrimmed hcontrol (last_strippedName u hu).2 (fun v hv => ?_) ?_
    · by_cases hcontrol : isControl v = true
      · exact .inr (.inr hcontrol)
      · have hmem : safeUnit v ∈ dots ++ trail :=
          hq ▸ mem_keptUnits.2 ⟨v, hv, Bool.eq_false_of_not_eq_true hcontrol, rfl⟩
        have hunit : safeUnit v = 0x2e ∨ isTrimmed (safeUnit v) = true := by
          rcases List.mem_append.1 hmem with hmem | hmem
          · rcases hdots _ hmem with hdot | hblank
            · exact .inl hdot
            · exact .inr (by rw [hblank]; decide)
          · exact .inr (htrail _ hmem)
        have hsame := eq_of_safeUnit rfl (hunder hunit)
        rw [← hsame] at hunit
        exact hunit.imp_right .inl
    · obtain ⟨v, hv, _, hsafe⟩ := mem_keptUnits.1 (hq ▸ List.mem_append_left trail hdot)
      exact eq_of_safeUnit hsafe (by decide) ▸ hv
  -- so that the stripped name is white space from its first unit on
  have hwhite : ∀ v ∈ strippedName source, isTrimmed v = true := by
    rw [hx]
    refine List.forall_mem_append.2 ⟨fun v hv => ?_, List.forall_mem_singleton.2 htrimmed⟩
    obtain ⟨w, hw, hnot, rfl⟩ := mem_keptUnits.1 (hp ▸ List.mem_append_right lead hv)
    have hblank : isTrimmed w = true := (hbefore w hw).resolve_right (by rw [hnot]; decide)
    have hallowed : ∀ a ∈ forbiddenUnits, isTrimmed a = false :=
      List.all_iff_forall_prop.1 (by decide)
    have hsafe : safeUnit w = w := by
      refine if_neg fun hforbidden => ?_
      rw [hallowed w (by simpa using hforbidden)] at hblank
      cases hblank
    rwa [hsafe]
  obtain ⟨v, rest, hcons⟩ :=
    List.exists_cons_of_ne_nil (show strippedName source ≠ [] by rw [hx]; simp)
  have hhead : (strippedName source).head? = some v := by rw [hcons]; rfl
  have hfirst := head_strippedName v hhead
  rw [hwhite v (by rw [hcons]; exact List.mem_cons_self)] at hfirst
  cases hfirst

theorem isUnpaired_of_isTrimmed {u : UInt16} (hu : u = 0x2e ∨ isTrimmed u = true) :
    isUnpaired u := by
  rcases hu with rfl | hu
  · exact isUnpaired_of_lt (by decide)
  · simp only [isTrimmed, Bool.or_eq_true, Bool.and_eq_true, decide_eq_true_eq] at hu
    simp only [isUnpaired, isHighSurrogate, isLowSurrogate, Bool.and_eq_false_iff,
      decide_eq_false_iff_not]
    omega

theorem isWellFormed_strippedName {source : JsString}
    (h : isWellFormed (lastComponent source) = true) :
    isWellFormed (strippedName source) = true := by
  obtain ⟨lead, dots, trail, hkept, hlead, hdots, htrail, -⟩ := strippedName_split source
  have hdots : ∀ u ∈ dots, isUnpaired u := fun u hu => isUnpaired_of_isTrimmed <| by
    rcases hdots u hu with rfl | rfl <;> decide
  have hlead := isWellFormed_of_unpaired fun u hu => isUnpaired_of_isTrimmed (.inr (hlead u hu))
  have hsame := isWellFormed_keptUnits h
  rwa [hkept, isWellFormed_append_unpaired _ fun u hu => isUnpaired_of_isTrimmed
    (.inr (htrail u hu)),
    isWellFormed_append hlead, isWellFormed_append_unpaired _ hdots] at hsame

/-- The stripped name is no longer than the component, and shorter if it is another name. -/
theorem utf8ByteLength_strippedName (source : JsString) :
    utf8ByteLength (strippedName source) < utf8ByteLength (lastComponent source) ∨
      utf8ByteLength (strippedName source) = utf8ByteLength (lastComponent source) ∧
        strippedName source = (lastComponent source).map safeUnit := by
  obtain ⟨lead, dots, trail, hkept, -⟩ := strippedName_split source
  have hinfix : (strippedName source).Sublist (keptUnits (lastComponent source)) := by
    rw [hkept]
    exact (List.sublist_append_left _ dots).trans
      ((List.sublist_append_right lead _).trans (List.sublist_append_left _ trail))
  have hfilter : (keptUnits (lastComponent source)).Sublist ((lastComponent source).map safeUnit) :=
    List.filter_sublist.map _
  have hsub := hinfix.trans hfilter
  have hbytes := utf8ByteLength_sublist hsub
  rw [utf8ByteLength_map_safeUnit, List.length_map] at hbytes
  rcases Nat.lt_or_ge (strippedName source).length (lastComponent source).length with hlt | hge
  · left
    omega
  · have heq := hsub.eq_of_length_le (by rwa [List.length_map])
    refine .inr ⟨?_, heq⟩
    rw [heq, utf8ByteLength_map_safeUnit]

/-- Replacing units neither makes nor unmakes a device name. -/
theorem isDeviceName_map_safeUnit {part : JsString} (h : IsDeviceName (part.map safeUnit)) :
    IsDeviceName part := by
  have hstem : nameStem (part.map safeUnit) = (nameStem part).map safeUnit := by
    have hdot : ∀ u, decide (safeUnit u ≠ 0x2e) = decide (u ≠ 0x2e) := by
      intro u
      have hallowed : (0x2e : UInt16) ∉ forbiddenUnits := by decide
      unfold safeUnit
      split_ifs with hforbidden
      · have hne : u ≠ 0x2e := by
          rintro rfl
          exact hallowed (by simpa using hforbidden)
        simp [hne]
      · rfl
    rw [nameStem, nameStem, List.takeWhile_map]
    congr 2
    funext u
    exact hdot u
  have hunder : ∀ stem ∈ reservedStems, (0x5f : UInt16) ∉ stem := by decide
  have hsame : (nameStem part).map safeUnit = nameStem part := by
    refine (List.map_congr_left fun u hu => ?_).trans (List.map_id _)
    refine (eq_of_safeUnit rfl fun hreplaced => ?_).symm
    refine hunder _ h ?_
    rw [hstem, List.map_map]
    exact List.mem_map.2 ⟨u, hu, by rw [Function.comp_apply, hreplaced]; rfl⟩
  rwa [IsDeviceName, hstem, hsame] at h

/-! ## The promise -/

/-- The upper case of the platform: the usual one on ASCII strings, which alone have the names of
devices as their upper case. -/
structure Unicode.UppercasesDevices (unicode : Unicode) : Prop where
  ascii : unicode.UppercasesAscii
  devices : ∀ s : JsString, unicode.toUpperCase s ∈ reservedStems → ∀ u ∈ s, u.toNat < 0x80

theorem isReservedWindowsName_iff {unicode : Unicode} (hupper : unicode.UppercasesDevices)
    (name : JsString) :
    isReservedWindowsName unicode name = true ↔ IsDeviceName name := by
  refine ⟨fun h => ?_, isReserved_of_isDeviceName hupper.ascii⟩
  have hstem := isReservedWindowsName_stem unicode name
  rw [hstem] at h
  have hmem : unicode.toUpperCase (nameStem name) ∈ reservedStems := by simpa using h
  rw [IsDeviceName, ← hupper.ascii _ (hupper.devices _ hmem)]
  exact hmem

theorem fitting_eq_length {maximumBytes : ℕ} {value : JsString}
    (h : utf8ByteLength value ≤ maximumBytes) :
    fitting maximumBytes value = value.length := by
  apply le_antisymm (fitting_le maximumBytes value)
  apply Nat.le_findGreatest le_rfl
  rwa [List.take_length]

section Plain

variable {unicode : Unicode} {name : JsString}

/-- What the stripped name of a plain path is before the cut: nothing is left to cut. -/
theorem IsPlainName.baseName_spec {source : JsString} (h : IsPlainName source) :
    isWellFormed (baseName source) = true ∧ utf8ByteLength (baseName source) ≤ maxFileNameBytes ∧
      (IsDeviceName (baseName source) → utf8ByteLength (baseName source) < maxFileNameBytes) ∧
      ∀ u ∈ (baseName source).getLast?, isTrimmed u = false := by
  unfold baseName
  dsimp only
  split_ifs with hempty
  · refine ⟨by decide, by decide, fun _ => by decide, ?_⟩
    rintro _ ⟨⟩
    decide
  have hpart : IsPlainPart (lastComponent source) := by
    refine h _ (isLastPart_lastComponent fun hnil => hempty (.inl ?_))
    simp [strippedName, hnil, trim]
  have hbytes := utf8ByteLength_strippedName source
  refine ⟨isWellFormed_strippedName hpart.wellFormed, ?_, fun hdevice => ?_, hpart.trailing⟩
  · have hle := hpart.length_le
    omega
  · rcases hbytes with hlt | ⟨hsame, hname⟩
    · exact hlt.trans_le hpart.length_le
    · rw [hsame]
      exact hpart.device (isDeviceName_map_safeUnit (hname ▸ hdevice))

/-- Nothing is cut off the name of a plain path, and it ends cleanly. -/
theorem IsPlainName.wholeName_spec (hupper : unicode.UppercasesDevices)
    (h : IsPlainName (unicode.normalizeNfkc name)) :
    isWellFormed (wholeName unicode name) = true ∧
      utf8ByteLength (wholeName unicode name) ≤ maxFileNameBytes ∧
      ∀ u ∈ (wholeName unicode name).getLast?, isTrimmed u = false := by
  obtain ⟨hwellFormed, hbytes, hdevice, hlast⟩ := h.baseName_spec
  have hunder : utf8ByteLength (0x5f :: baseName (unicode.normalizeNfkc name)) =
      1 + utf8ByteLength (baseName (unicode.normalizeNfkc name)) :=
    utf8ByteLength_cons fun hpair => absurd hpair.1 (by decide)
  unfold wholeName
  dsimp only
  split_ifs with hreserved
  · have hshort := hdevice ((isReservedWindowsName_iff hupper _).1 hreserved)
    have hne := (SelfRelay.baseName_spec (unicode.normalizeNfkc name)).1
    refine ⟨?_, by omega, ?_⟩
    · rwa [isWellFormed_cons (isUnpaired_of_lt (by decide))]
    · rwa [List.getLast?_cons_of_ne_nil hne]
  · exact ⟨hwellFormed, hbytes, hlast⟩

theorem IsPlainName.cleanCut (hupper : unicode.UppercasesDevices)
    (h : IsPlainName (unicode.normalizeNfkc name)) : CleanCut (wholeName unicode name) := by
  obtain ⟨hwellFormed, hbytes, hlast⟩ := h.wholeName_spec hupper
  have hall := fitting_eq_length hbytes
  have hend := (almostSafe_wholeName hupper.ascii name).getLast?_take
  rw [hall, List.take_length] at hend
  refine ⟨fun i _ => (isWellFormed_iff _).1 hwellFormed i, ?_, fun hlt => ?_, fun hpair => ?_⟩
  · rw [hall]
    exact hlast _ hend
  · exact absurd hlt (by rw [hall]; exact lt_irrefl _)
  · have hnone : (wholeName unicode name).getD (wholeName unicode name).length 0 = 0 := by simp
    rw [hall, hnone] at hpair
    exact absurd hpair.2 (by decide)

end Plain

theorem uppercasesDevices_asciiUnicode : asciiUnicode.UppercasesDevices where
  ascii _ _ := rfl
  devices s h u hu := by
    by_contra hge
    have hupper := ascii_of_reservedStem h (asciiUpper u) (List.mem_map_of_mem hu)
    rw [asciiUpper_of_le (not_lt.1 hge)] at hupper
    exact hge hupper

theorem isPlainName_device : IsPlainName (js "C:\\temp\\CON.txt") := by
  intro part hpart
  have hblank : ∀ u ∈ part, isTrimmed u = false := by
    rw [hpart.eq]
    exact List.all_iff_forall_prop.1 (by decide)
  refine ⟨?_, ?_, ?_, ?_⟩
  · rw [hpart.eq]
    decide
  · rw [hpart.eq]
    decide
  · rw [hpart.eq]
    decide
  · rintro x u t rfl htrimmed
    rw [hblank u (by simp)] at htrimmed
    cases htrimmed

/-- A name of 254 letters, with an extension of one letter. -/
def dottedName : JsString := List.replicate 254 0x61 ++ [0x2e, 0x62]

end SelfRelay
