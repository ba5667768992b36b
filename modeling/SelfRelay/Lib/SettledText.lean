import SelfRelay.Lib.MarkedText

/-!
# Scanning a text twice

A text is settled for a rule if nothing but placeholders stands where its values begin.  A scan
settles a text for its own rule (`Scan.settled`) and keeps it settled for others
(`Scan.keeps_settled`).  A second scan of a settled text changes only closing characters: a rule
whose values cannot contain them leaves one more behind each placeholder after a lead
(`Scan.widens`), and a rule whose values can takes them away (`Scan.narrows`).
-/

namespace MarkedText

variable {α : Type} {S : Setting α}

namespace Rule

variable {R R₁ R₂ : Rule S}

/-- A placeholder stands at the beginning of the text, perhaps in quotes. -/
def Filled (R : Rule S) (q : Marked α) : Prop :=
  (∃ z, q = none :: some S.closing :: z ∧ (R.value S.closing = true → ¬ R.Takes z)) ∨
    ∃ c z, R.quote c = true ∧ q = some c :: none :: some S.closing :: some c :: z

def Settled (R : Rule S) (t : Marked α) : Prop := ∀ p q, t = p ++ q → R.Starts p q → R.Filled q

/-! ## The first scan -/

theorem takes_congr {q r : Marked α} (h : r.head? = q.head?) : R.Takes r ↔ R.Takes q := by
  rw [Takes, Takes, h]

theorem Scan.head? {p q r : Marked α} (h : R.Scan p q r) (hends : ¬ R.Ends p) :
    r.head? = q.head? := by
  cases h with
  | nil => rfl
  | keep => rfl
  | take hstarts => exact absurd hstarts.1 hends

theorem Cut.takes {q v z : Marked α} (h : R.Cut q v z) (r : Marked α) : R.Takes (v ++ r) := by
  cases h with
  | quoted hquote => exact takes_cons.2 (R.value_of_quote _ hquote)
  | bare => exact takes_none _

/-- After a lead and some spaces that a value follows, the value has been taken out. -/
theorem Scan.reaches {p q r : Marked α} {w : List α} (h : R.Scan p (w.map some ++ q) r)
    (hends : R.Ends p)
    (hw : ∀ c ∈ w, S.space c = true) (htakes : R.Takes q) :
    ∃ (w' : List α) (q' r' : Marked α), w.map some ++ q = w'.map some ++ q' ∧
      (∀ c ∈ w', S.space c = true) ∧
      R.Starts (p ++ w'.map some) q' ∧ r = w'.map some ++ r' ∧ R.Takes r' := by
  obtain ⟨w₁, q', rfl, hw₁, hq', hlongest⟩ := exists_longest htakes
  have hspaces : ∀ c ∈ w ++ w₁, S.space c = true := by
    intro c hc
    obtain hc | hc := List.mem_append.1 hc
    · exact hw c hc
    · exact hw₁ c hc
  rw [← List.append_assoc, ← List.map_append] at h ⊢
  have hstarts : R.Starts (p ++ (w ++ w₁).map some) q' := ⟨hends.spaces hspaces, hq', hlongest⟩
  obtain ⟨r', rfl, hrest⟩ := h.walk fun l₁ l₂ hl hne hstarts =>
    hstarts.2.2 l₂ q' rfl hne (fun c hc => hspaces c (hl ▸ List.mem_append_right _ hc)) hq'
  obtain ⟨v, z, r', hcut, rfl, -⟩ := hrest.of_starts hstarts
  exact ⟨w ++ w₁, q', v ++ r', rfl, hspaces, hstarts, rfl, hcut.takes r'⟩

/-- Where the scan has taken a value out a placeholder stands. -/
theorem Cut.filled {p q v z r : Marked α} (h : R.Cut q v z) (hrest : R.Scan (p ++ v) z r) :
    R.Filled (v ++ r) := by
  have hhead :=
    hrest.head?
      (h.not_ends p (List.append_nil v).symm (fun hv => h.render_ne_nil (by rw [hv]; rfl)))
  cases h with
  | @quoted c u z hquote => exact .inr ⟨c, r, hquote, rfl⟩
  | bare _ _ _ hend => exact .inl ⟨r, rfl, fun _ => (takes_congr hhead).not.2 hend⟩

theorem Scan.filled {p q r : Marked α} (h : R.Scan p q r) {r₁ r₂ : Marked α} (hr : r = r₁ ++ r₂)
    (hstarts : R.Starts (p ++ r₁) r₂) : R.Filled r₂ := by
  induction h generalizing r₁ r₂ with
  | nil =>
    obtain ⟨rfl, rfl⟩ := List.append_eq_nil_iff.1 hr.symm
    exact absurd hstarts.2.1 not_takes_nil
  | @keep p q r x hnot hrest ih =>
    cases r₁ with
    | nil =>
      rw [List.append_nil] at hstarts
      obtain rfl : x :: r = r₂ := hr
      obtain ⟨hends, htakes, hlongest⟩ := hstarts
      -- a value would begin after some more spaces
      have hshort : ¬ R.Longest (x :: q) :=
        fun h => hnot ⟨hends, takes_cons.2 (takes_cons.1 htakes), h⟩
      simp only [Longest, not_forall, not_not] at hshort
      obtain ⟨w, z, hq, hne, hw, hz⟩ := hshort
      have hscan : R.Scan p (w.map some ++ z) (x :: r) := hq ▸ .keep hnot hrest
      obtain ⟨w', q', r', hq', hw', hstarts, hr', htakes'⟩ := hscan.reaches hends hw hz
      refine absurd htakes' (hlongest w' r' hr' ?_ hw')
      rintro rfl
      rw [← hq] at hq'
      obtain rfl : x :: q = q' := hq'
      exact hnot (by simpa using hstarts)
    | cons y r₁ =>
      obtain ⟨rfl, rfl⟩ := List.cons.inj hr
      exact ih rfl (by simpa using hstarts)
  | @take p q v z r hstarts' hcut hrest ih =>
    obtain ⟨e, rfl, rfl⟩ | ⟨e, hv, rfl⟩ := List.append_eq_append_iff.1 hr
    · exact ih rfl (by simpa using hstarts)
    · cases r₁ with
      | nil =>
        obtain rfl : v = e := hv
        exact hcut.filled hrest
      | cons x r₁ => exact absurd hstarts.1 (hcut.not_ends p hv (List.cons_ne_nil x r₁))

/-- A scan settles a text for its rule. -/
theorem Scan.settled {q r : Marked α} (h : R.Scan [] q r) : R.Settled r :=
  fun _ _ hr hstarts => h.filled hr hstarts

/-! ## Another scan -/

/-- The output ends with no lead with which the text before does not end. -/
structure Follows (S : Setting α) (P p q : Marked α) : Prop where
  last : (S.render P).getLast? = (S.render p).getLast? ∨ ∀ c, q.head? = some (some c) →
    S.first c = false
  leads : ∀ a c u, p = a ++ (c :: u).map some → S.first c = true →
    ∃ a', P = a' ++ (c :: u).map some ∧ (S.render a').getLast? = (S.render a).getLast?

variable {P p q : Marked α}

theorem Follows.nil (q : Marked α) : Follows S [] [] q where
  last := .inl rfl
  leads := by
    intro a c u h
    simp at h

theorem Follows.ends (h : Follows S P p q) (hends : R.Ends p) : R.Ends P := by
  obtain ⟨a, c, l, rfl, hl, htest⟩ := hends
  obtain ⟨a', rfl, hlast⟩ := h.leads a c l rfl hl.first
  exact ⟨a', c, l, rfl, hl, hlast ▸ htest⟩

theorem Follows.keep {x : Option α} (h : Follows S P p (x :: q)) :
    Follows S (P ++ [x]) (p ++ [x]) q where
  last := by
    have hx : S.render [x] ≠ [] := by
      cases x with
      | none => exact List.cons_ne_nil _ _
      | some c => exact List.cons_ne_nil _ _
    exact .inl (by rw [render_getLast?_append hx, render_getLast?_append hx])
  leads := by
    intro a c u hp hc
    obtain rfl | ⟨u, e, rfl⟩ := List.eq_nil_or_concat u
    · obtain ⟨rfl, hx⟩ := List.append_inj' hp rfl
      obtain rfl := (List.cons.inj hx).1
      refine ⟨P, rfl, h.last.resolve_right fun hnot => ?_⟩
      exact Bool.noConfusion (hc.symm.trans (hnot c rfl))
    · have hsplit : p ++ [x] = (a ++ (c :: u).map some) ++ [some e] := by
        rw [hp]
        simp
      obtain ⟨rfl, hx⟩ := List.append_inj' hsplit rfl
      obtain rfl := (List.cons.inj hx).1
      obtain ⟨a', rfl, hlast⟩ := h.leads a c u rfl hc
      exact ⟨a', by simp, hlast⟩

theorem Follows.after_mark {p : Marked α} {v : List α} (hv : ∀ c ∈ v, S.first c = false)
    (hlast : (S.render P).getLast? = (S.render (p ++ none :: v.map some)).getLast? ∨
      ∀ c, q.head? = some (some c) → S.first c = false) :
    Follows S P (p ++ none :: v.map some) q where
  last := hlast
  leads := by
    intro a c u hp hc
    exact Bool.noConfusion (hc.symm.trans (hv c (mem_of_after_mark hp)))

/-- The text after a value begins with no lead, or comes after the same character as before. -/
theorem Cut.seam {q v z : Marked α} (h : R.Cut q v z) : ∃ u, q = u ++ z ∧
    ((S.render u).getLast? = (S.render v).getLast? ∧ S.render u ≠ [] ∨
      ∀ c, z.head? = some (some c) → S.first c = false) := by
  cases h with
  | @quoted c u z =>
    refine ⟨some c :: (u ++ [some c]), by simp, .inl ⟨?_, List.cons_ne_nil _ _⟩⟩
    have hlast : ∀ p : Marked α, (S.render (p ++ [some c])).getLast? = some c := fun p =>
      render_getLast?_append (v := [some c]) (List.cons_ne_nil _ _)
    exact (hlast (some c :: u)).trans (hlast (some c :: S.placeholder)).symm
  | @bare u z _ _ _ hend =>
    refine ⟨u, rfl, .inr fun c hc => Bool.eq_false_iff.2 fun hfirst => hend ⟨some c, hc, ?_⟩⟩
    exact R.value_of_first c hfirst

theorem Follows.take {u v z : Marked α} (hcut : R.Cut (u ++ z) v z)
    (hseam : (S.render u).getLast? = (S.render v).getLast? ∧ S.render u ≠ [] ∨
      ∀ c, z.head? = some (some c) → S.first c = false) : Follows S (P ++ u) (p ++ v) z := by
  have hlast : (S.render (P ++ u)).getLast? = (S.render (p ++ v)).getLast? ∨
      ∀ c, z.head? = some (some c) → S.first c = false := by
    obtain ⟨hlast, hne⟩ | hfirst := hseam
    · exact .inl
        (by rw [render_getLast?_append hne, render_getLast?_append hcut.render_ne_nil, hlast])
    · exact .inr hfirst
  obtain ⟨v₁, v₂, rfl, hv₂⟩ := hcut.out
  rw [← List.append_assoc] at hlast ⊢
  exact .after_mark hv₂ hlast

/-- The leads of the rules do not end at the same place, or all that the second rule puts in is as
the first one would have it. -/
def Compatible (R₁ R₂ : Rule S) : Prop :=
  (∀ p, R₁.Ends p → ¬ R₂.Ends p) ∨
    R₁.value S.closing = false ∧ (∀ c, S.space c = true → R₁.value c = false) ∧ ∀ c,
      R₂.quote c = false

theorem Filled.of_scan {r : Marked α} (h : R₁.Filled q) (hscan : R₂.Scan p q r)
    (hstarts : ¬ R₂.Starts p q) : R₁.Filled r := by
  obtain ⟨z, rfl, hz⟩ | ⟨c, z, hc, rfl⟩ := h
  · obtain ⟨r₁, rfl, h₁⟩ := hscan.of_not_starts hstarts
    obtain ⟨r₂, rfl, h₂⟩ := h₁.of_not_starts fun h => not_ends_none p h.1
    have hhead := h₂.head? (not_ends_some R₂.ends_closing _)
    exact .inl ⟨r₂, rfl, fun hclosing => (takes_congr hhead).not.2 (hz hclosing)⟩
  · have hquote := R₂.ends_quote c (R₁.quote_quote c hc)
    obtain ⟨r₁, rfl, h₁⟩ := hscan.of_not_starts hstarts
    obtain ⟨r₂, rfl, h₂⟩ := h₁.of_not_starts fun h => not_ends_some hquote p h.1
    obtain ⟨r₃, rfl, h₃⟩ := h₂.of_not_starts fun h => not_ends_none _ h.1
    obtain ⟨r₄, rfl, -⟩ := h₃.of_not_starts fun h => not_ends_some R₂.ends_closing _ h.1
    exact .inr ⟨c, r₄, hc, rfl⟩

/-- What is longest in the output of another scan is so in its input. -/
theorem Longest.of_scan (hcompatible : Compatible R₁ R₂) {r : Marked α} (hscan : R₂.Scan p q r)
    (hends : R₁.Ends p) (htakes : R₁.Takes q) (h : R₁.Longest r) : R₁.Longest q := by
  rintro w z rfl hne hw hz
  obtain hdisjoint | ⟨-, hspace, -⟩ := hcompatible
  · obtain ⟨r, rfl, hrest⟩ := hscan.walk fun l₁ l₂ hl _ hstarts => by
      have hl₁ : ∀ c ∈ l₁, S.space c = true := fun c hc => hw c (hl ▸ List.mem_append_left _ hc)
      exact hdisjoint _ (hends.spaces hl₁) hstarts.1
    have hhead := hrest.head? (hdisjoint _ (hends.spaces hw))
    exact h w r rfl hne hw ((takes_congr hhead).2 hz)
  · obtain ⟨c, w, rfl⟩ := List.exists_cons_of_ne_nil hne
    have hvalue : R₁.value c = true := takes_cons.1 htakes
    exact Bool.noConfusion (hvalue.symm.trans (hspace c (hw c List.mem_cons_self)))

theorem Scan.keeps_filled (hcompatible : Compatible R₁ R₂) {r : Marked α} (h : R₂.Scan p q r)
    (hsettled : R₁.Settled (P ++ q)) (hfollows : Follows S P p q) {r₁ r₂ : Marked α}
    (hr : r = r₁ ++ r₂)
    (hstarts : R₁.Starts (p ++ r₁) r₂) : R₁.Filled r₂ := by
  induction h generalizing P r₁ r₂ with
  | nil =>
    obtain ⟨rfl, rfl⟩ := List.append_eq_nil_iff.1 hr.symm
    exact absurd hstarts.2.1 not_takes_nil
  | @keep p q r x hnot hrest ih =>
    cases r₁ with
    | nil =>
      rw [List.append_nil] at hstarts
      obtain rfl : x :: r = r₂ := hr
      obtain ⟨hends, htakes, hlongest⟩ := hstarts
      have hscan : R₂.Scan p (x :: q) (x :: r) := .keep hnot hrest
      have htakes' : R₁.Takes (x :: q) := takes_cons.2 (takes_cons.1 htakes)
      have hstarts' : R₁.Starts P (x :: q) :=
        ⟨hfollows.ends hends, htakes', hlongest.of_scan hcompatible hscan hends htakes'⟩
      exact (hsettled P _ rfl hstarts').of_scan hscan hnot
    | cons y r₁ =>
      obtain ⟨rfl, rfl⟩ := List.cons.inj hr
      exact ih (P := P ++ [x]) (by simpa using hsettled) hfollows.keep rfl (by simpa using hstarts)
  | @take p q v z r hstarts' hcut hrest ih =>
    obtain ⟨e, rfl, rfl⟩ | ⟨e, hv, rfl⟩ := List.append_eq_append_iff.1 hr
    · obtain ⟨u, rfl, hseam⟩ := hcut.seam
      exact ih (P := P ++ u) (by simpa using hsettled) (.take hcut hseam) rfl
        (by simpa using hstarts)
    · cases r₁ with
      | nil =>
        obtain rfl : v = e := hv
        rw [List.append_nil] at hstarts
        obtain hdisjoint | ⟨hclosing, -, hquote⟩ := hcompatible
        · exact absurd hstarts'.1 (hdisjoint p hstarts.1)
        · cases hcut with
          | @quoted c u z hc => exact Bool.noConfusion (hc.symm.trans (hquote c))
          | bare => exact .inl ⟨r, rfl, fun h => Bool.noConfusion (hclosing.symm.trans h)⟩
      | cons x r₁ => exact absurd hstarts.1 (hcut.not_ends p hv (List.cons_ne_nil x r₁))

/-- A text that is settled for one rule stays so in the scan for another. -/
theorem Scan.keeps_settled (hcompatible : Compatible R₁ R₂) {r : Marked α} (h : R₂.Scan [] q r)
    (hsettled : R₁.Settled q) : R₁.Settled r :=
  fun _ _ hr hstarts => h.keeps_filled hcompatible (P := []) hsettled (.nil q) hr hstarts

/-! ## The second scan -/

/-- The text after some other text, with one more closing character behind the marks at which the
condition holds. -/
inductive Widened (S : Setting α) (X : Marked α → Prop) : Marked α → Marked α → Marked α → Prop
  | nil {p : Marked α} : Widened S X p [] []
  | char {p q r : Marked α} (c : α) (hrest : Widened S X (p ++ [some c]) q r) :
    Widened S X p (some c :: q) (some c :: r)
  | mark {p q r : Marked α} (hX : ¬ X p) (hrest : Widened S X (p ++ [none]) q r) :
    Widened S X p (none :: q) (none :: r)
  | wide {p q r : Marked α} (hX : X p) (hrest : Widened S X (p ++ [none]) q r) :
    Widened S X p (none :: q) (none :: some S.closing :: r)

section Widened

variable {X : Marked α → Prop} {r : Marked α}

theorem Widened.head? (h : Widened S X p q r) : r.head? = q.head? := by
  cases h <;> rfl

theorem Widened.chars {l : List α} {u : Marked α} (h : Widened S X p (l.map some ++ q) u) :
    ∃ r, u = l.map some ++ r ∧ Widened S X (p ++ l.map some) q r := by
  induction l generalizing p u with
  | nil => exact ⟨u, rfl, by simpa using h⟩
  | cons c l ih =>
    cases h with
    | char _ hrest =>
      obtain ⟨r, rfl, hend⟩ := ih hrest
      exact ⟨r, rfl, by simpa using hend⟩

/-- A text is as before if no mark is widened, and longer otherwise. -/
theorem Widened.eq_or_longer (h : Widened S X p q r) :
    (∀ a b, q = a ++ none :: b → ¬ X (p ++ a)) ∧ r = q ∨
      (∃ a b, q = a ++ none :: b ∧ X (p ++ a)) ∧ (S.render q).length < (S.render r).length := by
  induction h with
  | nil => exact .inl ⟨fun a b h => by simp at h, rfl⟩
  | @char p q r c hrest ih =>
    obtain ⟨hnone, rfl⟩ | ⟨⟨a, b, rfl, hX⟩, hlength⟩ := ih
    · refine .inl ⟨fun a b hq => ?_, rfl⟩
      cases a with
      | nil => cases hq
      | cons x a =>
        obtain ⟨rfl, hq'⟩ := List.cons.inj hq
        simpa using hnone a b hq'
    · exact .inr ⟨⟨some c :: a, b, rfl, by simpa using hX⟩, Nat.succ_lt_succ hlength⟩
  | @mark p q r hnot hrest ih =>
    obtain ⟨hnone, rfl⟩ | ⟨⟨a, b, rfl, hX⟩, hlength⟩ := ih
    · refine .inl ⟨fun a b hq => ?_, rfl⟩
      cases a with
      | nil => simpa using hnot
      | cons x a =>
        obtain ⟨rfl, hq'⟩ := List.cons.inj hq
        simpa using hnone a b hq'
    · refine .inr ⟨⟨none :: a, b, rfl, by simpa using hX⟩, ?_⟩
      rw [Setting.render_cons_none, Setting.render_cons_none, List.length_append,
        List.length_append]
      omega
  | @wide p q r hX hrest ih =>
    refine .inr ⟨⟨[], q, rfl, by simpa using hX⟩, ?_⟩
    have hlength : (S.render q).length ≤ (S.render r).length := by
      obtain ⟨-, rfl⟩ | ⟨-, hlt⟩ := ih
      · exact Nat.le_refl _
      · exact Nat.le_of_lt hlt
    rw [Setting.render_cons_none, Setting.render_cons_none, List.length_append, List.length_append,
      Setting.render_cons_some, List.length_cons]
    omega

theorem Widened.render_eq_iff (h : Widened S X [] q r) :
    S.render r = S.render q ↔ ∀ p z, q = p ++ none :: z → ¬ X p := by
  obtain ⟨hnone, rfl⟩ | ⟨⟨p, z, rfl, hX⟩, hlength⟩ := h.eq_or_longer
  · exact iff_of_true rfl fun p z hq => hnone p z hq
  · refine iff_of_false (fun h => ?_) fun h => h p z rfl hX
    rw [h] at hlength
    exact Nat.lt_irrefl _ hlength

end Widened

theorem longest_none (q : Marked α) : R.Longest (none :: q) := by
  intro w z hq hne
  obtain ⟨c, w, rfl⟩ := List.exists_cons_of_ne_nil hne
  cases hq

theorem starts_none (q : Marked α) : R.Starts p (none :: q) ↔ R.Ends p :=
  ⟨fun h => h.1, fun h => ⟨h, takes_none q, longest_none q⟩⟩

/-- A placeholder in quotes is a value in quotes. -/
theorem Cut.of_quoted {c : α} {z v z' : Marked α}
    (h : R.Cut (some c :: none :: some S.closing :: some c :: z) v z') (hquote : R.quote c = true) :
    v = some c :: (S.placeholder ++ [some c]) ∧ z' = z := by
  have hne : (some S.closing : Option α) ≠ some c := by
    intro heq
    have hquote' := R.quote_quote c hquote
    rw [← Option.some.inj heq, S.quote_closing] at hquote'
    cases hquote'
  have hinner : ∀ x ∈ S.placeholder, R.inner (S.see x) = true ∧ x ≠ some c := by
    intro x hx
    obtain rfl | hx := List.mem_cons.1 hx
    · exact ⟨R.inner_placeholder.1, (Option.some_ne_none c).symm⟩
    · obtain rfl := List.mem_singleton.1 hx
      exact ⟨R.inner_placeholder.2, hne⟩
  generalize hq : some c :: none :: some S.closing :: some c :: z = q at h
  cases h with
  | @quoted d u z'' hquote' hinner' =>
    obtain ⟨hd, hu⟩ := List.cons.inj hq
    obtain rfl := Option.some.inj hd
    refine ⟨rfl, ?_⟩
    obtain _ | ⟨x, _ | ⟨y, _ | ⟨w, u⟩⟩⟩ := u
    · cases hu
    · exact absurd (List.cons.inj (List.cons.inj hu).2).1 hne
    · exact (List.cons.inj (List.cons.inj (List.cons.inj hu).2).2).2.symm
    · have hw : some c = w := (List.cons.inj (List.cons.inj (List.cons.inj hu).2).2).1
      exact absurd hw.symm (hinner' w (by simp)).2
  | bare hquotable =>
    exact absurd ⟨c, S.placeholder, z, hq.symm, hquote, hinner⟩ hquotable

/-- A value that begins with a mark ends before the first character that is not of the value. -/
theorem Cut.of_mark {u v z z' : Marked α} (h : R.Cut (none :: (u ++ z)) v z')
    (hu : ∀ x ∈ u, R.value (S.see x) = true) (hz : ¬ R.Takes z) : v = S.placeholder ∧ z' = z := by
  generalize hq : none :: (u ++ z) = q at h
  cases h with
  | quoted => cases hq
  | @bare u' z' hquotable hne htakes hend =>
    refine ⟨rfl, ?_⟩
    have hq' : (none :: u) ++ z = u' ++ z' := hq
    obtain ⟨e, rfl, rfl⟩ | ⟨e, hu', rfl⟩ := List.append_eq_append_iff.1 hq'
    · cases e with
      | nil => rfl
      | cons x e => exact absurd (takes_cons.2 (htakes x (by simp))) hz
    · cases e with
      | nil => rfl
      | cons x e =>
        have hmem : x ∈ none :: u := by
          rw [hu']
          simp
        refine absurd (takes_cons.2 ?_) hend
        obtain rfl | hx := List.mem_cons.1 hmem
        · exact R.value_opening
        · exact hu x hx

theorem Filled.of_none {q : Marked α} (h : R.Filled (none :: q)) :
    ∃ z, q = some S.closing :: z ∧ (R.value S.closing = true → ¬ R.Takes z) := by
  obtain ⟨z, hq, hz⟩ | ⟨c, z, -, hq⟩ := h
  · exact ⟨z, (List.cons.inj hq).2, hz⟩
  · cases hq

/-- A rule whose values contain no closing character leaves one more behind
the placeholders at its leads. -/
theorem Scan.widens (hclosing : R.value S.closing = false) {r : Marked α} (h : R.Scan p q r)
    (hsettled : R.Settled (P ++ q)) (hfollows : Follows S P p q) (hfollows' : Follows S p P q) :
    Widened S R.Ends P q r := by
  induction h generalizing P with
  | nil => exact .nil
  | @keep p q r x hnot hrest ih =>
    have hnext := ih (P := P ++ [x]) (by simpa using hsettled) hfollows.keep hfollows'.keep
    cases x with
    | some c => exact .char c hnext
    | none =>
      rw [starts_none] at hnot
      exact .mark (fun h => hnot (hfollows'.ends h)) hnext
  | @take p q v z r hstarts hcut hrest ih =>
    obtain ⟨z', rfl, -⟩ | ⟨c, z', hquote, rfl⟩ :=
      hsettled P q rfl ⟨hfollows.ends hstarts.1, hstarts.2⟩
    · have hend : ¬ R.Takes (some S.closing :: z') := by
        rw [takes_cons]
        simp [Setting.see, hclosing]
      obtain ⟨rfl, rfl⟩ := Cut.of_mark (u := []) hcut nofun hend
      have hfirst : ∀ c, (some S.closing :: z').head? = some (some c) → S.first c = false := by
        intro c hc
        obtain rfl := Option.some.inj (Option.some.inj hc)
        exact S.first_closing
      refine .wide (hfollows.ends hstarts.1) (ih (P := P ++ [none]) (by simpa using hsettled) ?_ ?_)
      · exact .after_mark (v := [S.closing])
          (fun c hc => List.mem_singleton.1 hc ▸ S.first_closing) (.inr hfirst)
      · exact .after_mark (v := []) nofun (.inr hfirst)
    · obtain ⟨rfl, rfl⟩ := hcut.of_quoted hquote
      have hquote' := S.first_quote c (R.quote_quote c hquote)
      have hlast : ∀ p : Marked α,
          (S.render (p ++ some c :: (S.placeholder ++ [some c]))).getLast? = some c := by
        intro p
        rw [render_getLast?_append hcut.render_ne_nil]
        exact render_getLast?_append (p := some c :: S.placeholder) (v := [some c])
          (List.cons_ne_nil _ _)
      have hv : ∀ d ∈ [S.closing, c], S.first d = false := by
        intro d hd
        obtain rfl | hd := List.mem_cons.1 hd
        · exact S.first_closing
        · exact List.mem_singleton.1 hd ▸ hquote'
      have hsplit : ∀ p : Marked α, p ++ some c :: (S.placeholder ++ [some c]) =
          (p ++ [some c]) ++ none :: [S.closing, c].map some := by
        intro p
        simp [Setting.placeholder]
      have hboth : ∀ P p : Marked α, Follows S (P ++ some c :: (S.placeholder ++ [some c]))
          (p ++ some c :: (S.placeholder ++ [some c])) z := by
        intro P p
        rw [hsplit p]
        exact .after_mark hv (.inl (by rw [← hsplit p, hlast, hlast]))
      have hnext := ih (P := P ++ some c :: (S.placeholder ++ [some c]))
        (by simpa [Setting.placeholder] using hsettled) (hboth P p) (hboth p P)
      refine .char c (.mark (not_ends_some (R.ends_quote c (R.quote_quote c hquote)) P)
        (.char _ (.char c ?_)))
      simpa [Setting.placeholder] using hnext

/-- What a scan does where a placeholder, perhaps widened, stands at a lead. -/
theorem Scan.of_placeholder (hclosing : R.value S.closing = true) {n : ℕ} {u r : Marked α}
    (h : R.Scan p (none :: (List.replicate n (some S.closing) ++ u)) r) (hends : R.Ends p)
    (hu : ¬ R.Takes u) :
    ∃ r', r = none :: some S.closing :: r' ∧ R.Scan (p ++ [none]) (some S.closing :: u)
      (some S.closing :: r') := by
  obtain ⟨v, z, r', hcut, rfl, hrest⟩ := h.of_starts ((starts_none _).2 hends)
  have hvalues : ∀ x ∈ List.replicate n (some S.closing), R.value (S.see x) = true := by
    intro x hx
    obtain rfl := List.eq_of_mem_replicate hx
    exact hclosing
  obtain ⟨rfl, rfl⟩ := hcut.of_mark hvalues hu
  refine ⟨r', rfl, .keep (fun h => not_ends_none p h.1) ?_⟩
  simpa [Setting.placeholder] using hrest

/-- A rule whose values contain closing characters takes them away behind
the placeholders at its leads. -/
theorem Scan.narrows (hclosing : R.value S.closing = true) (hquote : ∀ c, R.quote c = false)
    {X : Marked α → Prop} {u r : Marked α} (hwidened : Widened S X P q u) (h : R.Scan p u r)
    (hsettled : R.Settled (P ++ q)) (hclosed : Closed S q) (hfollows : Follows S P p u)
    (hfollows' : Follows S p P u) : Widened S (fun P => X P ∧ ¬ R.Ends P) P q r := by
  induction hwidened generalizing p r with
  | nil =>
    cases h with
    | nil => exact .nil
    | take hstarts => exact absurd hstarts.2.1 not_takes_nil
  | @char P q u c hrest ih =>
    have hstay : ¬ R.Starts p (some c :: u) := by
      intro hstarts
      have hlongest : R.Longest (some c :: q) := by
        intro w z hq hne hw hz
        have hwide := Widened.char (S := S) c hrest
        rw [hq] at hwide
        obtain ⟨z', hu, hz'⟩ := hwide.chars
        exact hstarts.2.2 w z' hu hne hw ((takes_congr hz'.head?).2 hz)
      have hvalue : R.Takes (some c :: q) := takes_cons.2 (takes_cons.1 hstarts.2.1)
      obtain ⟨z, hq, -⟩ | ⟨d, z, hd, -⟩ :=
        hsettled P _ rfl ⟨hfollows.ends hstarts.1, hvalue, hlongest⟩
      · cases hq
      · exact Bool.noConfusion (hd.symm.trans (hquote d))
    obtain ⟨r, rfl, hscan⟩ := h.of_not_starts hstay
    exact .char c (ih hscan (by simpa using hsettled) hclosed.tail hfollows.keep hfollows'.keep)
  | @mark P q u hX hrest ih =>
    by_cases hends : R.Ends P
    · obtain ⟨z, rfl, hz⟩ := (hsettled P _ rfl ((starts_none q).2 hends)).of_none
      obtain ⟨u, rfl, hu⟩ := hrest.chars (l := [S.closing]) (q := z)
      have hend : ¬ R.Takes u := (takes_congr hu.head?).not.2 (hz hclosing)
      obtain ⟨r, rfl, hscan⟩ := Scan.of_placeholder hclosing (n := 1) h (hfollows'.ends hends) hend
      exact .mark (fun h => h.2 hends)
        (ih hscan (by simpa using hsettled) hclosed.tail hfollows.keep hfollows'.keep)
    · obtain ⟨r, rfl, hscan⟩ := h.of_not_starts fun h => hends (hfollows.ends h.1)
      exact .mark (fun h => hX h.1)
        (ih hscan (by simpa using hsettled) hclosed.tail hfollows.keep hfollows'.keep)
  | @wide P q u hX hrest ih =>
    obtain ⟨z, rfl⟩ := hclosed [] q rfl
    obtain ⟨u, rfl, hu⟩ := hrest.chars (l := [S.closing]) (q := z)
    have hfirst : ∀ c, ([S.closing].map some ++ u).head? = some (some c) → S.first c = false := by
      intro c hc
      obtain rfl := Option.some.inj (Option.some.inj hc)
      exact S.first_closing
    by_cases hends : R.Ends P
    · obtain ⟨z', hz', hz⟩ := (hsettled P _ rfl ((starts_none _).2 hends)).of_none
      obtain rfl := (List.cons.inj hz').2
      have hend : ¬ R.Takes u := (takes_congr hu.head?).not.2 (hz hclosing)
      obtain ⟨r, rfl, hscan⟩ := Scan.of_placeholder hclosing (n := 2) h (hfollows'.ends hends) hend
      refine .mark (fun h => h.2 hends) (ih hscan (by simpa using hsettled) hclosed.tail ?_ ?_)
      · exact .after_mark (v := []) nofun (.inr hfirst)
      · exact .after_mark (v := []) nofun (.inr hfirst)
    · obtain ⟨r₁, rfl, h₁⟩ := h.of_not_starts fun h => hends (hfollows.ends h.1)
      obtain ⟨r₂, rfl, h₂⟩ := h₁.of_not_starts fun h => not_ends_none p h.1
      refine .wide ⟨hX, hends⟩ (ih h₂ (by simpa using hsettled) hclosed.tail ?_ ?_)
      · rw [List.append_assoc]
        exact .after_mark (v := [S.closing])
          (fun c hc => List.mem_singleton.1 hc ▸ S.first_closing) (.inr hfirst)
      · exact .after_mark (v := []) nofun (.inr hfirst)

end Rule

end MarkedText
