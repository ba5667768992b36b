import Mathlib.Data.List.Basic
import Mathlib.Data.List.TakeWhile
import Mathlib.Data.Nat.Notation
import Mathlib.Data.Option.Basic

/-!
# Texts with marks

A substitution that finds values by what stands before them puts a placeholder in the place of each.
In a marked text a mark stands for a placeholder up to its closing character.  A rule says what
leads to a value and how far the value goes, and `Scan` goes through a marked text once and takes
the values out.

A function on texts that `Implements` a rule does to the text of a marked text what the scan does to
the marked text itself (`Scan.implements`).
-/

namespace MarkedText

variable {α : Type}

abbrev Marked (α : Type) := List (Option α)

/-- The placeholder, the spaces, the quotes, and the characters with which a lead begins. -/
structure Setting (α : Type) where
  opening : α
  body : List α
  closing : α
  space : α → Bool
  quote : α → Bool
  first : α → Bool
  quote_closing : quote closing = false
  first_closing : first closing = false
  first_quote : ∀ c, quote c = true → first c = false

namespace Setting

variable (S : Setting α)

def mark : List α := S.opening :: S.body

def text : Option α → List α
  | some c => [c]
  | none => S.mark

def render (q : Marked α) : List α := q.flatMap S.text

/-- What a class of characters sees of a mark is its first character. -/
def see (x : Option α) : α := x.getD S.opening

/-- The marked text of a whole placeholder. -/
def placeholder : Marked α := [none, some S.closing]

@[simp] theorem render_nil : S.render [] = [] := rfl

@[simp] theorem render_cons_some (c : α) (q : Marked α) :
    S.render (some c :: q) = c :: S.render q := rfl

theorem render_cons_none (q : Marked α) : S.render (none :: q) = S.mark ++ S.render q := rfl

theorem render_append (p q : Marked α) : S.render (p ++ q) = S.render p ++ S.render q :=
  List.flatMap_append

@[simp] theorem render_map_some (l : List α) : S.render (l.map some) = l := by
  induction l with
  | nil => rfl
  | cons c l ih => rw [List.map_cons, render_cons_some, ih]

theorem head?_render (q : Marked α) : (S.render q).head? = q.head?.map S.see := by
  cases q with
  | nil => rfl
  | cons x q => cases x <;> rfl

/-- A text without the first character of a mark, at the front of a rendered text,
is not part of a mark. -/
theorem split_render {u y : List α} (hu : S.opening ∉ u) {q : Marked α} (h : S.render q = u ++ y) :
    ∃ q', q = u.map some ++ q' ∧ S.render q' = y := by
  induction u generalizing q with
  | nil => exact ⟨q, rfl, h⟩
  | cons c u ih =>
    rw [List.mem_cons, not_or] at hu
    cases q with
    | nil => cases h
    | cons x q =>
      cases x with
      | none => exact absurd (List.cons.inj h).1 hu.1
      | some d =>
        obtain ⟨rfl, htail⟩ := List.cons.inj h
        obtain ⟨q', rfl, hrest⟩ := ih hu.2 htail
        exact ⟨q', rfl, hrest⟩

end Setting

/-- A rule for a kind of value.  A lead is a stem, which ends at its only delimiter, and some
spaces.  A value in quotes goes up to the next such quote, if only inner characters come before it,
and any other value as far as its characters do. -/
structure Rule (S : Setting α) where
  stem : List α → Prop
  delimiter : α → Bool
  test : Option α → α → Prop
  value : α → Bool
  quote : α → Bool
  inner : α → Bool
  stem_delimiter : ∀ n, stem n → ∃ m d, n = m ++ [d] ∧ delimiter d = true ∧ ∀ c ∈ m,
    delimiter c = false
  stem_first : ∀ n, stem n → ∃ c m, n = c :: m ∧ S.first c = true
  value_of_first : ∀ c, S.first c = true → value c = true
  value_opening : value S.opening = true
  quote_quote : ∀ c, quote c = true → S.quote c = true
  value_of_quote : ∀ c, quote c = true → value c = true
  inner_placeholder : inner S.opening = true ∧ inner S.closing = true
  ends_closing : delimiter S.closing = false ∧ S.space S.closing = false
  ends_quote : ∀ c, S.quote c = true → delimiter c = false ∧ S.space c = false
  test_quote : ∀ c d, quote c = true → test (some c) d

namespace Rule

variable {S : Setting α} (R : Rule S)

def Lead (l : List α) : Prop := ∃ n w, l = n ++ w ∧ R.stem n ∧ ∀ c ∈ w, S.space c = true

/-- A marked text that ends with a lead. -/
def Ends (p : Marked α) : Prop :=
  ∃ a c l, p = a ++ (c :: l).map some ∧ R.Lead (c :: l) ∧ R.test (S.render a).getLast? c

/-- The text begins with a character of values. -/
def Takes (q : Marked α) : Prop := ∃ x ∈ q.head?, R.value (S.see x) = true

/-- No value begins after some more spaces. -/
def Longest (q : Marked α) : Prop :=
  ∀ w z, q = w.map some ++ z → w ≠ [] → (∀ c ∈ w, S.space c = true) → ¬ R.Takes z

/-- A value begins between the two texts. -/
def Starts (p q : Marked α) : Prop := R.Ends p ∧ R.Takes q ∧ R.Longest q

def Quotable (q : Marked α) : Prop :=
  ∃ c u z, q = some c :: (u ++ some c :: z) ∧ R.quote c = true ∧
    ∀ x ∈ u, R.inner (S.see x) = true ∧ x ≠ some c

/-- What is put in the place of the value at the beginning of a text, and
the text after the value. -/
inductive Cut : Marked α → Marked α → Marked α → Prop
  | quoted {c : α} {u z : Marked α} (hquote : R.quote c = true)
    (hinner : ∀ x ∈ u, R.inner (S.see x) = true ∧ x ≠ some c) :
    Cut (some c :: (u ++ some c :: z)) (some c :: (S.placeholder ++ [some c])) z
  | bare {u z : Marked α} (hquotable : ¬ R.Quotable (u ++ z)) (hne : u ≠ [])
    (htakes : ∀ x ∈ u, R.value (S.see x) = true) (hend : ¬ R.Takes z) : Cut (u ++ z) S.placeholder z

/-- A marked text after some output, and the output that the scan makes of it. -/
inductive Scan : Marked α → Marked α → Marked α → Prop
  | nil {p : Marked α} : Scan p [] []
  | keep {p q r : Marked α} {x : Option α} (hstarts : ¬ R.Starts p (x :: q))
    (hrest : Scan (p ++ [x]) q r) : Scan p (x :: q) (x :: r)
  | take {p q v z r : Marked α} (hstarts : R.Starts p q) (hcut : R.Cut q v z)
    (hrest : Scan (p ++ v) z r) : Scan p q (v ++ r)

/-! ## Leads -/

variable {R}

theorem Lead.spaces {l w : List α} (h : R.Lead l) (hw : ∀ c ∈ w, S.space c = true) :
    R.Lead (l ++ w) := by
  obtain ⟨n, w', rfl, hn, hw'⟩ := h
  refine ⟨n, w' ++ w, List.append_assoc n w' w, hn, fun c hc => ?_⟩
  obtain hc | hc := List.mem_append.1 hc
  · exact hw' c hc
  · exact hw c hc

theorem Lead.first {c : α} {l : List α} (h : R.Lead (c :: l)) : S.first c = true := by
  obtain ⟨n, w, hl, hn, -⟩ := h
  obtain ⟨d, m, rfl, hd⟩ := R.stem_first n hn
  obtain ⟨rfl, -⟩ := List.cons.inj hl
  exact hd

theorem Lead.last {l : List α} (h : R.Lead l) :
    ∃ c, l.getLast? = some c ∧ (R.delimiter c = true ∨ S.space c = true) := by
  obtain ⟨n, w, rfl, hn, hw⟩ := h
  obtain ⟨m, d, rfl, hd, -⟩ := R.stem_delimiter n hn
  cases hlast : w.getLast? with
  | none =>
    obtain rfl := List.getLast?_eq_none_iff.1 hlast
    exact ⟨d, by simp, .inl hd⟩
  | some c =>
    refine ⟨c, ?_, .inr (hw c (List.mem_of_getLast? hlast))⟩
    rw [List.getLast?_append, hlast, Option.some_or]

/-- After a lead inside of a lead there are only spaces. -/
theorem Lead.inside {a l l' : List α} (h : R.Lead ((a ++ l) ++ l')) (hl : R.Lead l) :
    ∀ c ∈ l', S.space c = true := by
  obtain ⟨n, w, hsplit, hn, hw⟩ := h
  obtain ⟨n', w', rfl, hn', -⟩ := hl
  obtain ⟨m, d, rfl, -, hm⟩ := R.stem_delimiter n hn
  obtain ⟨m', d', rfl, hd', -⟩ := R.stem_delimiter n' hn'
  -- the delimiter of the inner lead is not before that of the whole
  have hpos : (a ++ m') ++ d' :: (w' ++ l') = m ++ d :: w := by
    simpa using hsplit
  obtain ⟨e, hm', he⟩ | ⟨e, hm', he⟩ := List.append_eq_append_iff.1 hpos
  · cases e with
    | nil =>
      obtain ⟨-, rfl⟩ := List.cons.inj he
      exact fun c hc => hw c (List.mem_append_right _ hc)
    | cons f e =>
      obtain ⟨rfl, -⟩ := List.cons.inj he
      exact Bool.noConfusion (hd'.symm.trans (hm d' (by rw [hm']; simp)))
  · cases e with
    | nil =>
      obtain ⟨-, rfl⟩ := List.cons.inj he
      exact fun c hc => hw c (List.mem_append_right _ hc)
    | cons f e =>
      obtain ⟨-, rfl⟩ := List.cons.inj he
      exact fun c hc => hw c (by simp [hc])

theorem Ends.spaces {p : Marked α} (h : R.Ends p) {w : List α} (hw : ∀ c ∈ w, S.space c = true) :
    R.Ends (p ++ w.map some) := by
  obtain ⟨a, c, l, rfl, hl, htest⟩ := h
  exact ⟨a, c, l ++ w, by simp, hl.spaces hw, htest⟩

theorem Ends.last {p : Marked α} (h : R.Ends p) :
    ∃ c, p.getLast? = some (some c) ∧ (R.delimiter c = true ∨ S.space c = true) := by
  obtain ⟨a, c, l, rfl, hl, -⟩ := h
  obtain ⟨d, hd, hends⟩ := hl.last
  refine ⟨d, ?_, hends⟩
  rw [List.getLast?_append, List.getLast?_map, hd]
  rfl

theorem not_ends_none (p : Marked α) : ¬ R.Ends (p ++ [none]) := by
  intro h
  obtain ⟨c, hc, -⟩ := h.last
  rw [List.getLast?_concat] at hc
  cases hc

theorem not_ends_some {c : α} (hc : R.delimiter c = false ∧ S.space c = false) (p : Marked α) :
    ¬ R.Ends (p ++ [some c]) := by
  intro h
  obtain ⟨d, hd, hends⟩ := h.last
  rw [List.getLast?_concat] at hd
  obtain rfl := Option.some.inj (Option.some.inj hd)
  simp [hc] at hends

/-! ## Values -/

theorem not_takes_nil : ¬ R.Takes [] := by
  rintro ⟨x, hx, -⟩
  cases hx

theorem takes_cons {x : Option α} {q : Marked α} : R.Takes (x :: q) ↔ R.value (S.see x) = true := by
  constructor
  · rintro ⟨y, hy, hvalue⟩
    obtain rfl := Option.some.inj hy
    exact hvalue
  · exact fun h => ⟨x, rfl, h⟩

theorem takes_none (q : Marked α) : R.Takes (none :: q) := takes_cons.2 R.value_opening

/-- A value may begin later, but not before the last spaces that could be part of it. -/
theorem exists_longest {q : Marked α} (h : R.Takes q) : ∃ (w : List α) (q' : Marked α),
    q = w.map some ++ q' ∧ (∀ c ∈ w, S.space c = true) ∧ R.Takes q' ∧ R.Longest q' := by
  induction hn : q.length using Nat.strong_induction_on generalizing q with
  | _ n ih =>
    by_cases hlongest : R.Longest q
    · exact ⟨[], q, rfl, nofun, h, hlongest⟩
    · simp only [Longest, not_forall, not_not] at hlongest
      obtain ⟨w, z, rfl, hne, hw, hz⟩ := hlongest
      have hlt : z.length < n := by
        have hpos := List.length_pos_of_ne_nil hne
        rw [← hn, List.length_append, List.length_map]
        omega
      obtain ⟨w', q', rfl, hw', hq'⟩ := ih _ hlt hz rfl
      refine ⟨w ++ w', q', by simp, fun c hc => ?_, hq'⟩
      obtain hc | hc := List.mem_append.1 hc
      · exact hw c hc
      · exact hw' c hc

theorem exists_cut {q : Marked α} (h : R.Takes q) : ∃ v z, R.Cut q v z := by
  by_cases hquotable : R.Quotable q
  · obtain ⟨c, u, z, rfl, hquote, hinner⟩ := hquotable
    exact ⟨_, z, .quoted hquote hinner⟩
  · have hsplit := List.takeWhile_append_dropWhile (p := fun x => R.value (S.see x)) (l := q)
    refine ⟨S.placeholder, q.dropWhile fun x => R.value (S.see x), ?_⟩
    have hcut : R.Cut (q.takeWhile (fun x => R.value (S.see x)) ++ q.dropWhile fun x =>
      R.value (S.see x))
        S.placeholder (q.dropWhile fun x => R.value (S.see x)) := by
      refine .bare (hsplit.symm ▸ hquotable) ?_
        (fun x hx => List.mem_takeWhile_imp (p := fun x => R.value (S.see x)) hx) ?_
      · obtain ⟨x, hx, hvalue⟩ := h
        obtain ⟨q', rfl⟩ := List.head?_eq_some_iff.1 hx
        rw [List.takeWhile_cons, if_pos hvalue]
        exact List.cons_ne_nil _ _
      · rintro ⟨x, hx, hvalue⟩
        have hnot := List.head?_dropWhile_not (fun x => R.value (S.see x)) q
        rw [Option.mem_def.1 hx] at hnot
        simp [hvalue] at hnot
    rwa [hsplit] at hcut

theorem Cut.length_lt {q v z : Marked α} (h : R.Cut q v z) : z.length < q.length := by
  cases h with
  | quoted => simp; omega
  | bare _ hne =>
    have hpos := List.length_pos_of_ne_nil hne
    rw [List.length_append]
    omega

/-- No lead begins after the mark in what is put in the place of a value. -/
theorem Cut.out {q v z : Marked α} (h : R.Cut q v z) :
    ∃ (v₁ : Marked α) (v₂ : List α), v = v₁ ++ none :: v₂.map some ∧ ∀ c ∈ v₂,
      S.first c = false := by
  cases h with
  | @quoted c u z hquote hinner =>
    refine ⟨[some c], [S.closing, c], rfl, fun d hd => ?_⟩
    obtain rfl | hd := List.mem_cons.1 hd
    · exact S.first_closing
    · obtain rfl := List.mem_singleton.1 hd
      exact S.first_quote _ (R.quote_quote _ hquote)
  | bare =>
    refine ⟨[], [S.closing], rfl, fun d hd => ?_⟩
    obtain rfl := List.mem_singleton.1 hd
    exact S.first_closing

/-- No lead ends within what is put in the place of a value. -/
theorem Cut.not_ends {R' : Rule S} {q v z : Marked α} (h : R'.Cut q v z) (p : Marked α)
    {v₁ v₂ : Marked α} (hv : v = v₁ ++ v₂) (hne : v₁ ≠ []) : ¬ R.Ends (p ++ v₁) := by
  obtain ⟨v₀, x, rfl⟩ := (List.eq_nil_or_concat v₁).resolve_left hne
  have hall : ∀ c, some c ∈ v → R.delimiter c = false ∧ S.space c = false := by
    intro d hd
    cases h with
    | @quoted c u z hc hinner =>
      simp only [Setting.placeholder, List.cons_append, List.nil_append, List.mem_cons,
        Option.some.injEq,
        List.not_mem_nil, or_false, reduceCtorEq, false_or] at hd
      obtain rfl | rfl | rfl := hd
      · exact R.ends_quote _ (R'.quote_quote _ hc)
      · exact R.ends_closing
      · exact R.ends_quote _ (R'.quote_quote _ hc)
    | bare =>
      simp only [Setting.placeholder, List.mem_cons, Option.some.injEq, List.not_mem_nil, or_false,
        reduceCtorEq, false_or] at hd
      obtain rfl := hd
      exact R.ends_closing
  rw [List.concat_eq_append, ← List.append_assoc]
  cases x with
  | none => exact not_ends_none _
  | some c => exact not_ends_some (hall c (by rw [hv]; simp)) _

/-! ## Scans -/

theorem exists_scan (R : Rule S) (p q : Marked α) : ∃ r, R.Scan p q r := by
  induction hn : q.length using Nat.strong_induction_on generalizing p q with
  | _ n ih =>
    by_cases hstarts : R.Starts p q
    · obtain ⟨v, z, hcut⟩ := exists_cut hstarts.2.1
      obtain ⟨r, hr⟩ := ih z.length (hn ▸ hcut.length_lt) (p ++ v) z rfl
      exact ⟨v ++ r, .take hstarts hcut hr⟩
    · cases q with
      | nil => exact ⟨[], .nil⟩
      | cons x q =>
        obtain ⟨r, hr⟩ := ih q.length (hn ▸ Nat.lt_succ_self _) (p ++ [x]) q rfl
        exact ⟨x :: r, .keep hstarts hr⟩

theorem Scan.of_not_starts {p q r : Marked α} {x : Option α} (h : R.Scan p (x :: q) r)
    (hstarts : ¬ R.Starts p (x :: q)) : ∃ r', r = x :: r' ∧ R.Scan (p ++ [x]) q r' := by
  generalize hq : x :: q = q' at h hstarts
  cases h with
  | nil => cases hq
  | @keep _ q r _ _ hrest =>
    obtain ⟨rfl, rfl⟩ := List.cons.inj hq
    exact ⟨r, rfl, hrest⟩
  | take h => exact absurd h hstarts

theorem Scan.of_starts {p q r : Marked α} (h : R.Scan p q r) (hstarts : R.Starts p q) :
    ∃ v z r', R.Cut q v z ∧ r = v ++ r' ∧ R.Scan (p ++ v) z r' := by
  cases h with
  | nil => exact absurd hstarts.2.1 not_takes_nil
  | keep hnot => exact absurd hstarts hnot
  | @take _ _ v z r _ hcut hrest => exact ⟨v, z, r, hcut, rfl, hrest⟩

/-- Characters between which no value begins stay. -/
theorem Scan.walk {p q r : Marked α} {l : List α} (h : R.Scan p (l.map some ++ q) r)
    (hstay : ∀ l₁ l₂, l = l₁ ++ l₂ → l₂ ≠ [] → ¬ R.Starts (p ++ l₁.map some) (l₂.map some ++ q)) :
    ∃ r', r = l.map some ++ r' ∧ R.Scan (p ++ l.map some) q r' := by
  induction l generalizing p r with
  | nil => exact ⟨r, rfl, by simpa using h⟩
  | cons c l ih =>
    have hfirst := hstay [] (c :: l) rfl (List.cons_ne_nil c l)
    rw [List.map_nil, List.append_nil] at hfirst
    obtain ⟨r', rfl, hrest⟩ := h.of_not_starts hfirst
    obtain ⟨r', rfl, hend⟩ := ih hrest fun l₁ l₂ hl hne => by
      have hnext := hstay (c :: l₁) l₂ (by rw [hl]; rfl) hne
      simpa using hnext
    exact ⟨r', rfl, by simpa using hend⟩

/-! ## Functions on texts -/

/-- Every mark is followed by the closing character. -/
def Closed (S : Setting α) (q : Marked α) : Prop :=
  ∀ p z, q = p ++ none :: z → ∃ z', z = some S.closing :: z'

theorem closed_nil : Closed S [] := by
  intro p z h
  simp at h

theorem Closed.cons_some {q : Marked α} (h : Closed S q) (c : α) : Closed S (some c :: q) := by
  intro p z hq
  cases p with
  | nil => cases hq
  | cons x p => exact h p z (List.cons.inj hq).2

theorem Closed.cons_none {q : Marked α} (h : Closed S (some S.closing :: q)) :
    Closed S (none :: some S.closing :: q) := by
  intro p z hq
  cases p with
  | nil => exact ⟨q, (List.cons.inj hq).2.symm⟩
  | cons x p => exact h p z (List.cons.inj hq).2

theorem Closed.tail {x : Option α} {q : Marked α} (h : Closed S (x :: q)) : Closed S q :=
  fun p z hq => h (x :: p) z (by rw [hq]; rfl)

theorem Closed.append_right {p q : Marked α} (h : Closed S (p ++ q)) : Closed S q :=
  fun p' z hq => h (p ++ p') z (by rw [hq, List.append_assoc])

theorem Cut.closed {q v z : Marked α} (h : R.Cut q v z) (hq : Closed S q) : Closed S z := by
  cases h with
  | @quoted c u z =>
    have hsplit : some c :: (u ++ some c :: z) = (some c :: (u ++ [some c])) ++ z := by simp
    rw [hsplit] at hq
    exact hq.append_right
  | bare => exact hq.append_right

/-- A lead, perhaps after an opening quote, begins at the front of the text, and
a value begins after it. -/
structure Finds (R : Rule S) (last : Option α) (q : Marked α) (o : Option α) (c : α) (l : List α)
    (q' : Marked α) : Prop where
  split : q = (o.toList ++ c :: l).map some ++ q'
  quote : ∀ d ∈ o, R.quote d = true
  lead : R.Lead (c :: l)
  test : R.test last c
  takes : R.Takes q'

/-- A function from the character before a text and the text that replaces values by the rule. -/
structure Implements (R : Rule S) (f : Option α → List α → List α) : Prop where
  nil : ∀ last, f last [] = []
  keep : ∀ last d q, (∀ o c l q', ¬ R.Finds last (some d :: q) o c l q') →
    f last (d :: S.render q) = d :: f (some d) (S.render q)
  mark : ∀ last q, f last (S.mark ++ S.closing :: S.render q) =
    S.mark ++ f S.mark.getLast? (S.closing :: S.render q)
  take : ∀ last q o c l q' v z, R.Finds last q o c l q' → R.Longest q' → R.Cut q' v z →
    f last (S.render q) = o.toList ++ c :: l ++ (S.render v ++ f (S.render v).getLast? (S.render z))

/-- No lead that has begun leads to a value. -/
def Quiet (R : Rule S) (p q : Marked α) : Prop :=
  ∀ a c u l q', p = a ++ (c :: u).map some → R.Lead (c :: (u ++ l)) →
    R.test (S.render a).getLast? c →
    q = l.map some ++ q' → ¬ R.Takes q'

theorem Quiet.not_starts {p q : Marked α} (h : R.Quiet p q) : ¬ R.Starts p q := by
  rintro ⟨⟨a, c, l, rfl, hl, htest⟩, htakes, -⟩
  exact h a c l [] q rfl (by rwa [List.append_nil]) htest rfl htakes

theorem Quiet.keep {p q : Marked α} {d : α} (h : R.Quiet p (some d :: q))
    (hfinds : ∀ o c l q', ¬ R.Finds (S.render p).getLast? (some d :: q) o c l q') :
    R.Quiet (p ++ [some d]) q := by
  intro a c u l q' hp hl htest hq htakes
  subst hq
  obtain rfl | ⟨u, e, rfl⟩ := List.eq_nil_or_concat u
  · obtain ⟨rfl, hd⟩ := List.append_inj' hp rfl
    obtain rfl := Option.some.inj (List.cons.inj hd).1
    exact hfinds none d l q' ⟨rfl, nofun, hl, htest, htakes⟩
  · rw [List.concat_eq_append] at hp hl
    have hsplit : p ++ [some d] = (a ++ (c :: u).map some) ++ [some e] := by
      rw [hp]
      simp
    obtain ⟨rfl, hd⟩ := List.append_inj' hsplit rfl
    obtain rfl := Option.some.inj (List.cons.inj hd).1
    exact h a c u (d :: l) q' rfl (by simpa using hl) htest rfl htakes

/-- A part without marks at the end of a text is after the last mark. -/
theorem mem_of_after_mark {p a : Marked α} {v : List α} {c : α} {u : List α}
    (h : p ++ none :: v.map some = a ++ (c :: u).map some) : c ∈ v := by
  have hnone : none ∉ (c :: u).map some := by simp
  obtain ⟨e, rfl, he⟩ | ⟨e, -, he⟩ := List.append_eq_append_iff.1 h
  · cases e with
    | nil =>
      rw [List.nil_append] at he
      exact absurd (he ▸ List.mem_cons_self) hnone
    | cons x e =>
      have hmem : some c ∈ v.map some := by
        rw [(List.cons.inj he).2]
        simp
      simpa using hmem
  · exact absurd (by rw [he]; simp) hnone

theorem quiet_after_mark {p q : Marked α} {v : List α} (hv : ∀ c ∈ v, S.first c = false) :
    R.Quiet (p ++ none :: v.map some) q := by
  intro a c u l q' hp hl
  exact Bool.noConfusion (hl.first.symm.trans (hv c (mem_of_after_mark hp)))

theorem render_getLast?_append {p v : Marked α} (hv : S.render v ≠ []) :
    (S.render (p ++ v)).getLast? = (S.render v).getLast? := by
  rw [Setting.render_append, List.getLast?_append_of_ne_nil _ hv]

theorem Cut.render_ne_nil {q v z : Marked α} (h : R.Cut q v z) : S.render v ≠ [] := by
  cases h with
  | quoted => exact List.cons_ne_nil _ _
  | bare => exact List.cons_ne_nil _ _

/-- Between a lead that is found and its value no other value begins. -/
theorem Finds.not_starts {p q q' : Marked α} {o : Option α} {c : α} {l : List α} (h : R.Quiet p q)
    (hfinds : R.Finds (S.render p).getLast? q o c l q') {l₁ l₂ : List α}
    (hl : o.toList ++ c :: l = l₁ ++ l₂)
    (hne : l₂ ≠ []) : ¬ R.Starts (p ++ l₁.map some) (l₂.map some ++ q') := by
  rintro ⟨⟨a, d, m, hp, hm, htest⟩, htakes, hlongest⟩
  have hinside : ∀ e, l₁ ≠ e ++ d :: m := by
    rintro e rfl
    refine hlongest l₂ q' rfl hne ?_ hfinds.takes
    cases o with
    | none => exact Lead.inside (a := e) (l := d :: m) (hl ▸ hfinds.lead) hm
    | some b =>
      cases e with
      | nil =>
        obtain ⟨rfl, -⟩ := List.cons.inj hl
        exact Bool.noConfusion
          (hm.first.symm.trans (S.first_quote _ (R.quote_quote _ (hfinds.quote _ rfl))))
      | cons f e =>
        obtain ⟨-, htail⟩ := List.cons.inj hl
        have hwhole : c :: l = (e ++ d :: m) ++ l₂ := htail
        exact Lead.inside (a := e) (l := d :: m) (hwhole ▸ hfinds.lead) hm
  obtain ⟨e, rfl, he⟩ | ⟨e, rfl, he⟩ := List.append_eq_append_iff.1 hp
  · -- the other lead begins here or later
    obtain ⟨e, m', rfl, -, hm'⟩ := List.map_eq_append_iff.1 he
    obtain rfl : m' = d :: m := List.map_injective_iff.2 (Option.some_injective α) hm'
    exact hinside e rfl
  · -- the other lead has begun before
    obtain ⟨u, l₁', hu, rfl, hl₁⟩ := List.map_eq_append_iff.1 he
    obtain rfl : l₁' = l₁ := List.map_injective_iff.2 (Option.some_injective α) hl₁
    cases u with
    | nil => exact hinside [] hu.symm
    | cons x u =>
      obtain ⟨rfl, rfl⟩ := List.cons.inj hu
      refine h a d u l₁' _ rfl hm htest ?_ htakes
      rw [hfinds.split, hl, List.map_append, List.append_assoc]

/-- A lead that is found stays, and the value after it is taken. -/
theorem Finds.scan {p q q' r : Marked α} {o : Option α} {c : α} {l : List α} (h : R.Quiet p q)
    (hfinds : R.Finds (S.render p).getLast? q o c l q') (hlongest : R.Longest q')
    (hscan : R.Scan p q r) :
    ∃ v z r', R.Cut q' v z ∧ r = (o.toList ++ c :: l).map some ++ (v ++ r') ∧
      R.Scan ((p ++ (o.toList ++ c :: l).map some) ++ v) z r' := by
  rw [hfinds.split] at hscan
  obtain ⟨r, rfl, hwalk⟩ := hscan.walk fun l₁ l₂ hl hne => hfinds.not_starts h hl hne
  have hends : R.Ends (p ++ (o.toList ++ c :: l).map some) := by
    refine ⟨p ++ o.toList.map some, c, l, by simp, hfinds.lead, ?_⟩
    cases o with
    | none => simpa using hfinds.test
    | some b =>
      rw [Option.toList_some, List.map_singleton, Setting.render_append,
        List.getLast?_append_of_ne_nil _ (by simp)]
      exact R.test_quote b c (hfinds.quote b rfl)
  obtain ⟨v, z, r', hcut, rfl, hrest⟩ := hwalk.of_starts ⟨hends, hfinds.takes, hlongest⟩
  exact ⟨v, z, r', hcut, rfl, hrest⟩

theorem Finds.longest {last : Option α} {q q' : Marked α} {o : Option α} {c : α} {l : List α}
    (h : R.Finds last q o c l q') : ∃ l q', R.Finds last q o c l q' ∧ R.Longest q' := by
  obtain ⟨w, q'', rfl, hw, htakes, hlongest⟩ := exists_longest h.takes
  refine ⟨l ++ w, q'', ⟨?_, h.quote, h.lead.spaces hw, h.test, htakes⟩, hlongest⟩
  rw [h.split]
  simp

/-- What a function does that replaces values by the rule. -/
theorem Scan.implements {f : Option α → List α → List α} (hf : R.Implements f) {p q r : Marked α}
    (h : R.Scan p q r) (hquiet : R.Quiet p q) (hclosed : Closed S q) :
    f (S.render p).getLast? (S.render q) = S.render r := by
  induction hn : q.length using Nat.strong_induction_on generalizing p q r with
  | _ n ih =>
    subst hn
    by_cases hfinds : ∃ o c l q', R.Finds (S.render p).getLast? q o c l q'
    · obtain ⟨o, c, l, q', hfinds⟩ := hfinds
      obtain ⟨l, q', hfinds, hlongest⟩ := hfinds.longest
      obtain ⟨v, z, r', hcut, rfl, hrest⟩ := hfinds.scan hquiet hlongest h
      have hlength : z.length < q.length := by
        have hlt := hcut.length_lt
        rw [hfinds.split, List.length_append]
        omega
      have hquiet' : R.Quiet ((p ++ (o.toList ++ c :: l).map some) ++ v) z := by
        obtain ⟨v₁, v₂, rfl, hv₂⟩ := hcut.out
        rw [← List.append_assoc]
        exact quiet_after_mark hv₂
      have hclosed' : Closed S z := hcut.closed (hfinds.split ▸ hclosed).append_right
      have hnext := ih _ hlength hrest hquiet' hclosed' rfl
      rw [render_getLast?_append hcut.render_ne_nil] at hnext
      rw [hf.take _ _ o c l q' v z hfinds hlongest hcut, hnext, Setting.render_append,
        Setting.render_append,
        Setting.render_map_some]
    · simp only [not_exists] at hfinds
      cases q with
      | nil =>
        cases h with
        | nil => exact hf.nil _
        | take hstarts => exact absurd hstarts.2.1 not_takes_nil
      | cons x q =>
        obtain ⟨r, rfl, hrest⟩ := h.of_not_starts hquiet.not_starts
        cases x with
        | some d =>
          have hnext := ih _ (Nat.lt_succ_self _) hrest (hquiet.keep hfinds) hclosed.tail rfl
          rw [render_getLast?_append (by simp)] at hnext
          rw [Setting.render_cons_some, Setting.render_cons_some, hf.keep _ d q hfinds]
          exact congrArg (d :: ·) hnext
        | none =>
          obtain ⟨q, rfl⟩ := hclosed [] q rfl
          have hquiet' : R.Quiet (p ++ [none]) (some S.closing :: q) :=
            quiet_after_mark (v := []) nofun
          have hnext := ih _ (Nat.lt_succ_self _) hrest hquiet' hclosed.tail rfl
          rw [render_getLast?_append
            (by simp [Setting.render, Setting.text, Setting.mark])] at hnext
          rw [Setting.render_cons_none, Setting.render_cons_none, Setting.render_cons_some,
            hf.mark _ q]
          refine congrArg (S.mark ++ ·) ?_
          rw [Setting.render_cons_some] at hnext
          rw [← hnext, Setting.render_cons_none, Setting.render_nil, List.append_nil]

theorem Cut.closed_append {q v z r : Marked α} (h : R.Cut q v z) (hr : Closed S r) :
    Closed S (v ++ r) := by
  cases h with
  | quoted => exact ((hr.cons_some _).cons_some _).cons_none.cons_some _
  | bare => exact (hr.cons_some _).cons_none

theorem Scan.closed {p q r : Marked α} (h : R.Scan p q r) (hq : Closed S q) : Closed S r := by
  induction h with
  | nil => exact closed_nil
  | @keep p q r x _ hrest ih =>
    cases x with
    | some c => exact (ih hq.tail).cons_some c
    | none =>
      obtain ⟨q, rfl⟩ := hq [] q rfl
      obtain ⟨r, rfl, -⟩ := hrest.of_not_starts fun h => not_ends_none p h.1
      exact (ih hq.tail).cons_none
  | take _ hcut _ ih => exact hcut.closed_append (ih (hcut.closed hq))

end Rule

end MarkedText
