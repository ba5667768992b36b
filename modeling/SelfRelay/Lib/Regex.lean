import Mathlib.Data.List.Forall2
import Mathlib.Data.Nat.Notation
import Mathlib.Logic.Function.Basic

/-!
# Backtracking regular expressions

A pattern is run by backtracking: `run` lists the ways to match it at a cursor, in the order in
which they are tried, so that the match is the first of them.  Repetitions are those of a class of
characters, greedy (`many`) or not (`lazily`).  `sub` replaces the matches in a text from left to
right.

The results of a run are related to the text in two ways.  `run_reads` says what a match has read,
and `exists_run` that it is found.  `run_near` compares the runs on two texts that begin alike: a
pattern that `avoids` a character does not look past it.
-/

/-- Patterns over the characters `α`, with groups named by `ι`. -/
inductive Regex (ι α : Type) where
  | empty
  | one (P : α → Bool)
  | seq (r r' : Regex ι α)
  | alt (r r' : Regex ι α)
  | many (P : α → Bool)
  | lazily (P : α → Bool)
  | group (i : ι) (r : Regex ι α)
  | backreference (i : ι)
  | notAfter (P : α → Bool)
  | boundary (P : α → Bool)

namespace Regex

variable {ι α : Type}

/-- A pattern or nothing, preferably the pattern. -/
def opt (r : Regex ι α) : Regex ι α := alt r empty

/-- A character of a class, and as many more as there are. -/
def oneOrMore (P : α → Bool) : Regex ι α := seq (one P) (many P)

/-- A place in a text: the character before it, the text after it, and the groups matched so far. -/
structure Cursor (ι α : Type) where
  last : Option α
  rest : List α
  groups : ι → Option (List α)

/-- The places up to the first character that is not in the class. -/
def stops (P : α → Bool) (groups : ι → Option (List α)) : Option α → List α → List (Cursor ι α)
  | last, [] => [⟨last, [], groups⟩]
  | last, c :: rest =>
    ⟨last, c :: rest, groups⟩ :: if P c then stops P groups (some c) rest else []

theorem stops_nil {P : α → Bool} {groups : ι → Option (List α)} {last : Option α} :
    stops P groups last [] = [⟨last, [], groups⟩] := rfl

theorem stops_cons {P : α → Bool} {groups : ι → Option (List α)} {last : Option α} {c : α}
    {rest : List α} : stops P groups last (c :: rest) =
      ⟨last, c :: rest, groups⟩ :: if P c then stops P groups (some c) rest else [] := rfl

section Run

variable [DecidableEq ι] [DecidableEq α]

/-- The ways to match a pattern, in the order of preference. -/
def run : Regex ι α → Cursor ι α → List (Cursor ι α)
  | empty, s => [s]
  | one P, s =>
    match s.rest with
    | [] => []
    | c :: rest => if P c then [⟨some c, rest, s.groups⟩] else []
  | seq r r', s => (r.run s).flatMap fun t => r'.run t
  | alt r r', s => r.run s ++ r'.run s
  | many P, s => (stops P s.groups s.last s.rest).reverse
  | lazily P, s => stops P s.groups s.last s.rest
  | group i r, s => (r.run s).map fun t =>
    { t with groups :=
        Function.update t.groups i (some (s.rest.take (s.rest.length - t.rest.length))) }
  | backreference i, s =>
    match s.groups i with
    | none => []
    | some word =>
      if word <+: s.rest then [⟨word.getLast?.or s.last, s.rest.drop word.length, s.groups⟩] else []
  | notAfter P, s => if s.last.any P then [] else [s]
  | boundary P, s => if s.last.any P != s.rest.head?.any P then [s] else []

section Equations

variable {r r' : Regex ι α} {P : α → Bool} {i : ι} {s : Cursor ι α}

theorem run_one_of_nil (h : s.rest = []) : (one P).run s = [] := by
  obtain ⟨last, _, groups⟩ := s
  obtain rfl := h
  rfl

theorem run_one_of_cons {c : α} {rest : List α} (h : s.rest = c :: rest) :
    (one P).run s = if P c then [⟨some c, rest, s.groups⟩] else [] := by
  obtain ⟨last, _, groups⟩ := s
  obtain rfl := h
  rfl

theorem run_seq : (seq r r').run s = (r.run s).flatMap fun t => r'.run t := rfl

theorem run_alt : (alt r r').run s = r.run s ++ r'.run s := rfl

theorem run_many : (many P).run s = (stops P s.groups s.last s.rest).reverse := rfl

theorem run_lazily : (lazily P).run s = stops P s.groups s.last s.rest := rfl

theorem run_group : (group i r).run s = (r.run s).map fun t =>
    { t with groups :=
        Function.update t.groups i (some (s.rest.take (s.rest.length - t.rest.length))) } := rfl

theorem run_backreference_of_none (h : s.groups i = none) : (backreference i).run s = [] := by
  change (match s.groups i with | none => _ | some word => _) = _
  rw [h]

theorem run_backreference_of_some {word : List α} (h : s.groups i = some word) :
    (backreference i).run s =
      if word <+: s.rest then [⟨word.getLast?.or s.last, s.rest.drop word.length, s.groups⟩]
      else [] := by
  change (match s.groups i with | none => _ | some word => _) = _
  rw [h]

theorem run_notAfter : (notAfter P).run s = if s.last.any P then [] else [s] := rfl

theorem run_boundary :
    (boundary P).run s = if s.last.any P != s.rest.head?.any P then [s] else [] := rfl

end Equations

/-- Replace the matches of a pattern that matches no empty text.  The number counts the characters
at the front of the text that belong to a match already replaced. -/
def sub (r : Regex ι α) (replace : (ι → Option (List α)) → List α) :
    ℕ → Option α → List α → List α
  | _, _, [] => []
  | n + 1, _, c :: rest => sub r replace n (some c) rest
  | 0, last, c :: rest =>
    match (r.run ⟨last, c :: rest, fun _ => none⟩).head? with
    | none => c :: sub r replace 0 (some c) rest
    | some t =>
      if t.rest.length ≤ rest.length then
        replace t.groups ++ sub r replace (rest.length - t.rest.length) (some c) rest
      else c :: sub r replace 0 (some c) rest

end Run

/-! ## What a match reads -/

/-- The texts that a pattern may read.  Assertions read nothing;
a backreference is not looked up. -/
def Reads : Regex ι α → List α → Prop
  | empty, u => u = []
  | one P, u => ∃ c, u = [c] ∧ P c = true
  | seq r r', u => ∃ x y, u = x ++ y ∧ r.Reads x ∧ r'.Reads y
  | alt r r', u => r.Reads u ∨ r'.Reads u
  | many P, u | lazily P, u => ∀ c ∈ u, P c = true
  | group _ r, u => r.Reads u
  | backreference _, _ => True
  | notAfter _, u | boundary _, u => u = []

/-- The second cursor is reached from the first by reading the text. -/
structure Cursor.After (s : Cursor ι α) (u : List α) (t : Cursor ι α) : Prop where
  rest : s.rest = u ++ t.rest
  last : t.last = u.getLast?.or s.last

theorem Cursor.After.refl (s : Cursor ι α) : s.After [] s := ⟨rfl, rfl⟩

theorem Cursor.After.trans {s t t' : Cursor ι α} {u v : List α} (h : s.After u t)
    (h' : t.After v t') :
    s.After (u ++ v) t' where
  rest := by rw [h.rest, h'.rest, List.append_assoc]
  last := by rw [h'.last, h.last, List.getLast?_append, Option.or_assoc]

theorem mem_stops {P : α → Bool} {groups : ι → Option (List α)} {last : Option α} {rest : List α}
    {t : Cursor ι α} : t ∈ stops P groups last rest ↔ t.groups = groups ∧
      ∃ u, (∀ c ∈ u, P c = true) ∧ (⟨last, rest, groups⟩ : Cursor ι α).After u t := by
  induction rest generalizing last with
  | nil =>
    rw [stops_nil, List.mem_singleton]
    constructor
    · rintro rfl
      exact ⟨rfl, [], nofun, .refl _⟩
    · rintro ⟨hgroups, u, -, hrest, hlast⟩
      obtain ⟨rfl, hnil⟩ := List.append_eq_nil_iff.1 hrest.symm
      cases t
      simp_all
  | cons c rest ih =>
    rw [stops_cons, List.mem_cons]
    constructor
    · rintro (rfl | hmem)
      · exact ⟨rfl, [], nofun, .refl _⟩
      · split_ifs at hmem with hc
        · obtain ⟨hgroups, u, hu, hafter⟩ := ih.1 hmem
          refine ⟨hgroups, c :: u, List.forall_mem_cons.2 ⟨hc, hu⟩, ?_⟩
          have hfirst : (⟨last, c :: rest, groups⟩ : Cursor ι α).After [c] ⟨some c, rest, groups⟩ :=
            ⟨rfl, rfl⟩
          exact hfirst.trans hafter
        · cases hmem
    · rintro ⟨hgroups, u, hu, hrest, hlast⟩
      cases u with
      | nil =>
        left
        cases t
        simp_all
      | cons d u =>
        right
        obtain ⟨rfl, htail⟩ := List.cons.inj hrest
        obtain ⟨hd, hu⟩ := List.forall_mem_cons.1 hu
        rw [if_pos hd]
        refine ih.2 ⟨hgroups, u, hu, htail, ?_⟩
        rw [hlast]
        cases u with
        | nil => rfl
        | cons => simp [List.getLast?_cons]

/-! ## Texts that begin alike -/

/-- The cursors stand at the same place in a text that both texts begin with, and the rest of that
text meets a condition. -/
structure Near (B : List α → Prop) (x y : List α) (s t : Cursor ι α) : Prop where
  last : s.last = t.last
  groups : s.groups = t.groups
  rest : ∃ b, B b ∧ s.rest = b ++ x ∧ t.rest = b ++ y

/-- The pattern does not match the character, and looks back no further than to
the character before. -/
def avoids (e : α) : Regex ι α → Bool
  | empty | notAfter _ | boundary _ => true
  | one P | many P | lazily P => !P e
  | seq r r' | alt r r' => r.avoids e && r'.avoids e
  | group _ r => r.avoids e
  | backreference _ => false

theorem stops_near {B : List α → Prop} {P : α → Bool} {x y : List α}
    {groups : ι → Option (List α)} (hstep : ∀ c b, B (c :: b) → P c = true → B b)
    (hx : B [] → ∀ c ∈ x.head?, P c = false) (hy : B [] → ∀ c ∈ y.head?, P c = false)
    {last : Option α} {b : List α} (hb : B b) :
    List.Forall₂ (Near B x y) (stops P groups last (b ++ x)) (stops P groups last (b ++ y)) := by
  have hstop : ∀ {last : Option α} {z : List α}, (∀ c ∈ z.head?, P c = false) →
      stops P groups last z = [⟨last, z, groups⟩] := by
    intro last z hz
    cases z with
    | nil => rfl
    | cons c z => rw [stops_cons, if_neg (by simp [hz c rfl])]
  induction b generalizing last with
  | nil =>
    rw [List.nil_append, List.nil_append, hstop (hx hb), hstop (hy hb)]
    exact .cons ⟨rfl, rfl, [], hb, rfl, rfl⟩ .nil
  | cons c b ih =>
    rw [List.cons_append, List.cons_append, stops_cons, stops_cons]
    refine .cons ⟨rfl, rfl, c :: b, hb, rfl, rfl⟩ ?_
    split_ifs with hc
    · exact ih (hstep c b hb hc)
    · exact .nil

/-! ## Runs -/

variable [DecidableEq ι] [DecidableEq α]

/-- A match has read one of the texts of its pattern. -/
theorem run_reads {r : Regex ι α} {s t : Cursor ι α} (h : t ∈ r.run s) :
    ∃ u, r.Reads u ∧ s.After u t := by
  induction r generalizing s t with
  | empty =>
    obtain rfl := List.mem_singleton.1 h
    exact ⟨[], rfl, .refl _⟩
  | one P =>
    cases hrest : s.rest with
    | nil =>
      rw [run_one_of_nil hrest] at h
      cases h
    | cons c rest =>
      rw [run_one_of_cons hrest] at h
      split_ifs at h with hc
      · obtain rfl := List.mem_singleton.1 h
        exact ⟨[c], ⟨c, rfl, hc⟩, hrest, rfl⟩
      · cases h
  | seq r r' ih ih' =>
    obtain ⟨m, hm, ht⟩ := List.mem_flatMap.1 h
    obtain ⟨x, hx, hsm⟩ := ih hm
    obtain ⟨y, hy, hmt⟩ := ih' ht
    exact ⟨x ++ y, ⟨x, y, rfl, hx, hy⟩, hsm.trans hmt⟩
  | alt r r' ih ih' =>
    obtain h | h := List.mem_append.1 h
    · obtain ⟨u, hu, hafter⟩ := ih h
      exact ⟨u, .inl hu, hafter⟩
    · obtain ⟨u, hu, hafter⟩ := ih' h
      exact ⟨u, .inr hu, hafter⟩
  | many P =>
    obtain ⟨-, u, hu, hafter⟩ := mem_stops.1 (List.mem_reverse.1 h)
    exact ⟨u, hu, hafter⟩
  | lazily P =>
    obtain ⟨-, u, hu, hafter⟩ := mem_stops.1 h
    exact ⟨u, hu, hafter⟩
  | group i r ih =>
    obtain ⟨m, hm, rfl⟩ := List.mem_map.1 h
    obtain ⟨u, hu, hafter⟩ := ih hm
    exact ⟨u, hu, hafter.rest, hafter.last⟩
  | backreference i =>
    cases hgroup : s.groups i with
    | none =>
      rw [run_backreference_of_none hgroup] at h
      cases h
    | some word =>
      rw [run_backreference_of_some hgroup] at h
      split_ifs at h with hword
      · obtain rfl := List.mem_singleton.1 h
        exact ⟨word, trivial, (List.prefix_iff_eq_append.1 hword).symm, rfl⟩
      · cases h
  | notAfter P =>
    rw [run_notAfter] at h
    split_ifs at h
    · cases h
    · obtain rfl := List.mem_singleton.1 h
      exact ⟨[], rfl, .refl _⟩
  | boundary P =>
    rw [run_boundary] at h
    split_ifs at h
    · obtain rfl := List.mem_singleton.1 h
      exact ⟨[], rfl, .refl _⟩
    · cases h

/-- A pattern of which no part looks at what was read before. -/
def plain : Regex ι α → Bool
  | empty | one _ | many _ | lazily _ => true
  | seq r r' | alt r r' => r.plain && r'.plain
  | group _ r => r.plain
  | backreference _ | notAfter _ | boundary _ => false

/-- Such a pattern finds what it may read. -/
theorem exists_run {r : Regex ι α} (hr : r.plain = true) {u : List α} (hu : r.Reads u)
    (last : Option α)
    (rest : List α) (groups : ι → Option (List α)) :
    ∃ t ∈ r.run ⟨last, u ++ rest, groups⟩, t.rest = rest ∧ t.last = u.getLast?.or last := by
  induction r generalizing u last rest groups with
  | empty =>
    obtain rfl := hu
    exact ⟨_, List.mem_singleton.2 rfl, rfl, rfl⟩
  | one P =>
    obtain ⟨c, rfl, hc⟩ := hu
    refine ⟨⟨some c, rest, groups⟩, ?_, rfl, rfl⟩
    rw [run_one_of_cons rfl, if_pos hc]
    exact List.mem_singleton.2 rfl
  | seq r r' ih ih' =>
    obtain ⟨x, y, rfl, hx, hy⟩ := hu
    have hr := Bool.and_eq_true_iff.1 hr
    obtain ⟨m, hm, hmrest, hmlast⟩ := ih hr.1 hx last (y ++ rest) groups
    obtain ⟨t, ht, htrest, htlast⟩ := ih' hr.2 hy m.last rest m.groups
    refine ⟨t, List.mem_flatMap.2 ⟨m, ?_, ?_⟩, htrest, ?_⟩
    · rw [List.append_assoc]
      exact hm
    · rw [← hmrest] at ht
      exact ht
    · rw [htlast, hmlast, List.getLast?_append, Option.or_assoc]
  | alt r r' ih ih' =>
    have hr := Bool.and_eq_true_iff.1 hr
    obtain hu | hu := hu
    · obtain ⟨t, ht, h⟩ := ih hr.1 hu last rest groups
      exact ⟨t, List.mem_append_left _ ht, h⟩
    · obtain ⟨t, ht, h⟩ := ih' hr.2 hu last rest groups
      exact ⟨t, List.mem_append_right _ ht, h⟩
  | many P =>
    exact ⟨⟨u.getLast?.or last, rest, groups⟩,
      List.mem_reverse.2 (mem_stops.2 ⟨rfl, u, hu, rfl, rfl⟩), rfl, rfl⟩
  | lazily P =>
    exact ⟨⟨u.getLast?.or last, rest, groups⟩, mem_stops.2 ⟨rfl, u, hu, rfl, rfl⟩, rfl, rfl⟩
  | group i r ih =>
    obtain ⟨t, ht, h⟩ := ih hr hu last rest groups
    exact ⟨_, List.mem_map.2 ⟨t, ht, rfl⟩, h⟩
  | backreference | notAfter | boundary => exact Bool.noConfusion hr

section Near

variable {B B' : List α → Prop} {x y : List α} {s t : Cursor ι α}

theorem run_near_one {P : α → Bool} (hstep : ∀ c b, B (c :: b) → P c = true → B' b) (hnil : ¬ B [])
    (h : Near B x y s t) : List.Forall₂ (Near B' x y) ((one P).run s) ((one P).run t) := by
  obtain ⟨b, hb, hs, ht⟩ := h.rest
  cases b with
  | nil => exact absurd hb hnil
  | cons c b =>
    rw [run_one_of_cons hs, run_one_of_cons ht]
    split_ifs with hc
    · exact .cons ⟨rfl, h.groups, b, hstep c b hb hc, rfl, rfl⟩ .nil
    · exact .nil

theorem run_near_many {P : α → Bool} (hstep : ∀ c b, B (c :: b) → P c = true → B b)
    (hx : B [] → ∀ c ∈ x.head?, P c = false) (hy : B [] → ∀ c ∈ y.head?, P c = false)
    (h : Near B x y s t) : List.Forall₂ (Near B x y) ((many P).run s) ((many P).run t) := by
  obtain ⟨b, hb, hs, ht⟩ := h.rest
  rw [run_many, run_many, hs, ht, h.last, h.groups]
  exact List.rel_reverse (stops_near hstep hx hy hb)

/-- What a group has matched is part of the text that both texts begin with. -/
theorem run_near_group {r : Regex ι α} {i : ι} (h : Near B x y s t)
    (hr : List.Forall₂ (Near B' x y) (r.run s) (r.run t)) :
    List.Forall₂ (Near B' x y) ((group i r).run s) ((group i r).run t) := by
  obtain ⟨b, -, hs, ht⟩ := h.rest
  rw [run_group, run_group]
  refine List.rel_map ?_ hr
  intro s' t' h'
  obtain ⟨b', hb', hs', ht'⟩ := h'.rest
  have htake : ∀ z : List α, (b ++ z).take ((b ++ z).length - (b' ++ z).length) =
      b.take (b.length - b'.length) := by
    intro z
    rw [List.length_append, List.length_append, Nat.add_sub_add_right,
      List.take_append_of_le_length (Nat.sub_le _ _)]
  refine ⟨h'.last, ?_, b', hb', hs', ht'⟩
  dsimp only
  rw [hs, hs', htake, ht, ht', htake, h'.groups]

/-- A pattern does not look past a character that it avoids, where the common text does not end
before that. -/
theorem run_near {r : Regex ι α} {e : α} (hr : r.avoids e = true)
    (hB : ∀ c b, B (c :: b) → c ≠ e → B b) (hnil : ¬ B []) (h : Near B x y s t) :
    List.Forall₂ (Near B x y) (r.run s) (r.run t) := by
  have hstep : ∀ {P : α → Bool}, (!P e) = true → ∀ c b, B (c :: b) → P c = true → B b := by
    intro P hP c b hb hc
    refine hB c b hb ?_
    rintro rfl
    simp [hc] at hP
  have hend : ∀ {P : Prop}, B [] → P := fun h => absurd h hnil
  induction r generalizing s t with
  | empty => exact .cons h .nil
  | one P => exact run_near_one (hstep hr) hnil h
  | seq r r' ih ih' =>
    have hr := Bool.and_eq_true_iff.1 hr
    exact List.rel_flatMap (ih hr.1 h) fun _ _ h' => ih' hr.2 h'
  | alt r r' ih ih' =>
    have hr := Bool.and_eq_true_iff.1 hr
    exact List.rel_append (ih hr.1 h) (ih' hr.2 h)
  | many P => exact run_near_many (hstep hr) hend hend h
  | lazily P =>
    obtain ⟨b, hb, hs, ht⟩ := h.rest
    rw [run_lazily, run_lazily, hs, ht, h.last, h.groups]
    exact stops_near (hstep hr) hend hend hb
  | group i r ih => exact run_near_group h (ih hr h)
  | backreference i => exact Bool.noConfusion hr
  | notAfter P =>
    rw [run_notAfter, run_notAfter, h.last]
    split_ifs
    · exact .nil
    · exact .cons h .nil
  | boundary P =>
    obtain ⟨b, hb, hs, ht⟩ := h.rest
    have hhead : s.rest.head? = t.rest.head? := by
      cases b with
      | nil => exact absurd hb hnil
      | cons c b => rw [hs, ht]; rfl
    rw [run_boundary, run_boundary, h.last, hhead]
    split_ifs
    · exact .cons h .nil
    · exact .nil

end Near

/-- The first match of a sequence, where the second part finds related first
matches at related cursors. -/
theorem head?_flatMap_rel {β γ δ ε : Type} {R : β → γ → Prop} {S : δ → ε → Prop} {l : List β}
    {l' : List γ}
    {f : β → List δ} {g : γ → List ε} (h : List.Forall₂ R l l')
    (hfg : ∀ b c, R b c → Option.Rel S (f b).head? (g c).head?) :
    Option.Rel S (l.flatMap f).head? (l'.flatMap g).head? := by
  induction h with
  | nil => exact .none
  | @cons b c _ _ hbc _ ih =>
    have hfirst := hfg b c hbc
    rw [List.flatMap_cons, List.flatMap_cons, List.head?_append, List.head?_append]
    cases hf : (f b).head? <;> cases hg : (g c).head? <;> rw [hf, hg] at hfirst
    · exact ih
    · cases hfirst
    · cases hfirst
    · exact hfirst

theorem head?_append_rel {δ ε : Type} {S : δ → ε → Prop} {l m : List δ} {l' m' : List ε}
    (h : List.Forall₂ S l l') (hm : Option.Rel S m.head? m'.head?) :
    Option.Rel S (l ++ m).head? (l' ++ m').head? := by
  cases h with
  | nil => exact hm
  | cons hfirst _ => exact .some hfirst

/-! ## Greedy repetition -/

omit [DecidableEq ι] [DecidableEq α] in
theorem getLast?_stops (P : α → Bool) (groups : ι → Option (List α)) (last : Option α)
    (rest : List α) :
    (stops P groups last rest).getLast? =
      some ⟨(rest.takeWhile P).getLast?.or last, rest.dropWhile P, groups⟩ := by
  induction rest generalizing last with
  | nil => rfl
  | cons c rest ih =>
    rw [stops_cons, List.takeWhile_cons, List.dropWhile_cons]
    split_ifs with hc
    · rw [List.getLast?_cons, ih]
      cases (rest.takeWhile P) with
      | nil => rfl
      | cons => simp [List.getLast?_cons]
    · rfl

/-- A greedy repetition takes all that it can. -/
theorem head?_run_many (P : α → Bool) (s : Cursor ι α) : ((many P).run s).head? =
    some ⟨(s.rest.takeWhile P).getLast?.or s.last, s.rest.dropWhile P, s.groups⟩ := by
  rw [run_many, List.head?_reverse, getLast?_stops]

theorem head?_run_oneOrMore {P : α → Bool} {s : Cursor ι α} {c : α} {rest : List α}
    (hs : s.rest = c :: rest) (hc : P c = true) : ((oneOrMore P).run s).head? =
      some ⟨(rest.takeWhile P).getLast?.or (some c), rest.dropWhile P, s.groups⟩ := by
  have hone : (one P).run s = [⟨some c, rest, s.groups⟩] := by
    rw [run_one_of_cons hs]
    exact if_pos hc
  rw [oneOrMore, run_seq, hone, List.flatMap_singleton, head?_run_many]

theorem run_oneOrMore_eq_nil {P : α → Bool} {s : Cursor ι α}
    (hs : ∀ c ∈ s.rest.head?, P c = false) :
    (oneOrMore P).run s = [] := by
  have hone : (one P).run s = [] := by
    cases hrest : s.rest with
    | nil => exact run_one_of_nil hrest
    | cons c rest =>
      rw [run_one_of_cons hrest, if_neg (by simp [hs c (by rw [hrest]; rfl)])]
  rw [oneOrMore, run_seq, hone, List.flatMap_nil]

/-! ## Replacing -/

section Sub

variable {r : Regex ι α} {replace : (ι → Option (List α)) → List α}

theorem sub_succ {n : ℕ} {last : Option α} {c : α} {rest : List α} :
    r.sub replace (n + 1) last (c :: rest) = r.sub replace n (some c) rest := rfl

theorem sub_zero {last : Option α} {c : α} {rest : List α} : r.sub replace 0 last (c :: rest) =
    match (r.run ⟨last, c :: rest, fun _ => none⟩).head? with
    | none => c :: r.sub replace 0 (some c) rest
    | some t =>
      if t.rest.length ≤ rest.length then
        replace t.groups ++ r.sub replace (rest.length - t.rest.length) (some c) rest
      else c :: r.sub replace 0 (some c) rest := rfl

theorem sub_skip (u : List α) (last : Option α) (rest : List α) :
    r.sub replace u.length last (u ++ rest) = r.sub replace 0 (u.getLast?.or last) rest := by
  induction u generalizing last with
  | nil => rfl
  | cons c u ih =>
    rw [List.length_cons, List.cons_append, sub_succ, ih]
    cases u with
    | nil => rfl
    | cons => simp [List.getLast?_cons]

theorem sub_of_run_eq_nil {last : Option α} {c : α} {rest : List α}
    (h : r.run ⟨last, c :: rest, fun _ => none⟩ = []) :
    r.sub replace 0 last (c :: rest) = c :: r.sub replace 0 (some c) rest := by
  rw [sub_zero, h]
  rfl

/-- The first match is replaced, and the text after it comes next. -/
theorem sub_of_run {last : Option α} {text u : List α} {t : Cursor ι α}
    (h : (r.run ⟨last, text, fun _ => none⟩).head? = some t)
    (hafter : (⟨last, text, fun _ => none⟩ : Cursor ι α).After u t) (hu : u ≠ []) :
    r.sub replace 0 last text = replace t.groups ++ r.sub replace 0 t.last t.rest := by
  obtain ⟨c, u, rfl⟩ := List.exists_cons_of_ne_nil hu
  obtain rfl : text = c :: (u ++ t.rest) := hafter.rest
  have hlength : (u ++ t.rest).length - t.rest.length = u.length := by
    rw [List.length_append, Nat.add_sub_cancel]
  have hlast : u.getLast?.or (some c) = t.last := by
    rw [hafter.last]
    cases u with
    | nil => rfl
    | cons => simp [List.getLast?_cons]
  rw [sub_zero, h]
  dsimp only
  rw [if_pos (by simp), hlength, sub_skip, hlast]

/-- A text in which the pattern matches nowhere stays as it is. -/
theorem sub_eq_self {last : Option α} {text : List α}
    (h : ∀ a c b, text = a ++ c :: b → r.run ⟨a.getLast?.or last, c :: b, fun _ => none⟩ = []) :
    r.sub replace 0 last text = text := by
  induction text generalizing last with
  | nil => rfl
  | cons c rest ih =>
    have hfirst : r.run ⟨last, c :: rest, fun _ => none⟩ = [] := h [] c rest rfl
    rw [sub_of_run_eq_nil hfirst, ih]
    rintro a d b rfl
    have hrun := h (c :: a) d b rfl
    cases a with
    | nil => exact hrun
    | cons => simpa [List.getLast?_cons] using hrun

end Sub

end Regex
