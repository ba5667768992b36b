import Mathlib.Data.List.Sort

/-!
# Lists in key order

A list whose entries carry a natural-number key is put in key order by `byKey`.  When the keys are
distinct the result is strictly increasing (`pairwise_lt_byKey`), and a list that lists the entries
with the keys `0, 1, …` is a prefix of it (`prefix_map_byKey`).  Keys that are lists are ordered as
in a dictionary (`lexLe`).
-/

namespace KeyOrder

variable {α β : Type*} (key : α → ℕ)

/-- The entries in the order of their keys. -/
def byKey (l : List α) : List α := l.insertionSort fun a b => key a ≤ key b

variable {key} {l : List α}

theorem perm_byKey : (byKey key l).Perm l := List.perm_insertionSort _ l

theorem mem_byKey {a : α} : a ∈ byKey key l ↔ a ∈ l := List.mem_insertionSort _

theorem byKey_eq_self (h : l.Pairwise fun a b => key a < key b) : byKey key l = l :=
  List.Pairwise.insertionSort_eq (h.imp le_of_lt)

theorem pairwise_lt_byKey (h : (l.map key).Nodup) :
    (byKey key l).Pairwise fun a b => key a < key b := by
  have hnodup : ((byKey key l).map key).Nodup := (perm_byKey.map key).nodup_iff.2 h
  have hle : (byKey key l).Pairwise fun a b => key a ≤ key b := by
    have : Std.Total fun a b : α => key a ≤ key b := ⟨fun a b => le_total _ _⟩
    have : IsTrans α fun a b => key a ≤ key b := ⟨fun _ _ _ => le_trans⟩
    exact List.pairwise_insertionSort _ l
  rw [List.Nodup, List.pairwise_map] at hnodup
  exact hle.imp₂ (fun _ _ h₁ h₂ => lt_of_le_of_ne h₁ h₂) hnodup

/-- The entry with the greatest key comes last. -/
theorem eq_concat_of_max {a : α} (hl : l.Pairwise fun a b => key a < key b) (ha : a ∈ l)
    (hmax : ∀ b ∈ l, key b ≤ key a) : ∃ before, l = before ++ [a] := by
  obtain ⟨before, after, rfl⟩ := List.append_of_mem ha
  rw [List.pairwise_append, List.pairwise_cons] at hl
  rcases after with _ | ⟨b, after⟩
  · exact ⟨before, rfl⟩
  · exact absurd (hl.2.1.1 b (by simp)) (Nat.not_lt_of_le (hmax b (by simp)))

/-- The general form of `prefix_map_byKey`: the keys start at `base`. -/
theorem prefix_map_of_keys (f : α → β) :
    ∀ (r : List β) (base : ℕ) {l : List α}, l.Pairwise (fun a b => key a < key b) →
      (∀ a ∈ l, base ≤ key a) →
      (∀ i b, r[i]? = some b → ∃ a ∈ l, key a = base + i ∧ f a = b) → r <+: l.map f
  | [], _, _, _, _, _ => List.nil_prefix
  | b :: r, _, [], _, _, h => by
    obtain ⟨a, ha, -⟩ := h 0 b rfl
    cases ha
  | b :: r, base, a :: l, hl, hbase, h => by
    rw [List.pairwise_cons] at hl
    obtain ⟨x, hx, hkey, hf⟩ := h 0 b rfl
    -- the least key of the list is `base`, so the entry with key `base` is the first one
    have hxa : x = a := by
      rcases List.mem_cons.1 hx with rfl | hx
      · rfl
      · have := hl.1 x hx
        have := hbase a (by simp)
        omega
    subst hxa
    refine List.cons_prefix_cons.2 ⟨hf.symm, ?_⟩
    refine prefix_map_of_keys f r (base + 1) hl.2 (fun c hc => ?_) fun i b hb => ?_
    · have := hl.1 c hc
      omega
    · obtain ⟨c, hc, hck, hcf⟩ := h (i + 1) b hb
      refine ⟨c, (List.mem_cons.1 hc).resolve_left ?_, by omega, hcf⟩
      rintro rfl
      omega

/-- A list that holds the entries with the keys `0, 1, …` is a prefix
of the entries in key order. -/
theorem prefix_map_byKey (f : α → β) {r : List β} (hl : (l.map key).Nodup)
    (h : ∀ i b, r[i]? = some b → ∃ a ∈ l, key a = i ∧ f a = b) :
    r <+: (byKey key l).map f := by
  refine prefix_map_of_keys f r 0 (pairwise_lt_byKey hl) (fun _ _ => Nat.zero_le _) ?_
  intro i b hb
  obtain ⟨a, ha, hkey, hf⟩ := h i b hb
  exact ⟨a, mem_byKey.2 ha, by omega, hf⟩

/-! ## Lexicographic order -/

/-- `left` comes before `right` in a dictionary, or is the same. -/
def lexLe : List ℕ → List ℕ → Bool
  | [], _ => true
  | _ :: _, [] => false
  | a :: left, b :: right => a < b || (a = b && lexLe left right)

theorem lexLe_cons {a b : ℕ} {left right : List ℕ} :
    lexLe (a :: left) (b :: right) = true ↔ a < b ∨ a = b ∧ lexLe left right = true := by
  rw [lexLe, Bool.or_eq_true, Bool.and_eq_true, decide_eq_true_eq, decide_eq_true_eq]

theorem lexLe_total : ∀ left right : List ℕ, lexLe left right = true ∨ lexLe right left = true
  | [], _ => .inl rfl
  | _ :: _, [] => .inr rfl
  | a :: left, b :: right => by
    rw [lexLe_cons, lexLe_cons]
    have ih := lexLe_total left right
    rcases lt_trichotomy a b with h | rfl | h
    · exact .inl (.inl h)
    · exact ih.imp (fun h => .inr ⟨rfl, h⟩) fun h => .inr ⟨rfl, h⟩
    · exact .inr (.inl h)

theorem lexLe_trans : ∀ {left middle right : List ℕ}, lexLe left middle = true →
    lexLe middle right = true → lexLe left right = true
  | [], _, _, _, _ => rfl
  | a :: left, b :: middle, c :: right, h, h' => by
    rw [lexLe_cons] at h h' ⊢
    rcases h with h | ⟨rfl, h⟩
    · exact .inl (h'.elim h.trans fun h' => h'.1 ▸ h)
    · exact h'.imp_right fun h' => ⟨h'.1, lexLe_trans h h'.2⟩

theorem lexLe_antisymm : ∀ {left right : List ℕ}, lexLe left right = true →
    lexLe right left = true → left = right
  | [], [], _, _ => rfl
  | a :: left, b :: right, h, h' => by
    rw [lexLe_cons] at h h'
    rcases h with h | ⟨rfl, h⟩
    · exact absurd h' (by omega)
    · rw [lexLe_antisymm h (h'.resolve_left (lt_irrefl a)).2]

/-- Sorting by distinct keys does not depend on the order in which the entries came. -/
theorem insertionSort_eq_of_perm {name : α → List ℕ} {r : α → α → Prop} [DecidableRel r]
    (hr : ∀ a b, r a b ↔ lexLe (name a) (name b) = true) {l l' : List α} (hperm : l.Perm l')
    (hnodup : (l.map name).Nodup) : l.insertionSort r = l'.insertionSort r := by
  have : Std.Total r := ⟨fun a b => by
    rw [hr, hr]
    exact lexLe_total _ _⟩
  have : IsTrans α r := ⟨fun a b c h h' => (hr a c).2 (lexLe_trans ((hr a b).1 h) ((hr b c).1 h'))⟩
  have hsort :=
    (List.perm_insertionSort r l).trans (hperm.trans (List.perm_insertionSort r l').symm)
  refine List.Perm.eq_of_pairwise ?_ (List.pairwise_insertionSort r l)
    (List.pairwise_insertionSort r l')
    hsort
  intro a b ha hb h h'
  have hname := lexLe_antisymm ((hr a b).1 h) ((hr b a).1 h')
  exact List.inj_on_of_nodup_map hnodup (List.mem_insertionSort r |>.1 ha)
    (hperm.mem_iff.2 (List.mem_insertionSort r |>.1 hb)) hname

end KeyOrder
