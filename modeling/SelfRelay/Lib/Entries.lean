import Mathlib.Data.List.Count
import Mathlib.Data.List.Forall2
import Mathlib.Data.List.Perm.Subperm

/-!
# Exchanging an entry of a list

A table of calls is a list in which an index identifies a call, and a call that goes on exchanges
the entry at its index.  Here is what that does to the entry found at an index
(`getElem?_set_cases`), to the number of entries that satisfy a predicate (`countP_set_add`), and to
the entries that count, those that `f` maps to something: they stay when the new entry counts for
the same (`filterMap_set_eq`), and lose one when it stops counting (`exists_eraseIdx_filterMap`).
-/

namespace Entries

variable {α β : Type*} {f : α → Option β} {l : List α} {i j : ℕ} {a b t : α}

/-- Where an entry is found once the one at `i` was exchanged. -/
theorem getElem?_set_cases (h : (l.set i b)[j]? = some a) :
    j = i ∧ a = b ∨ j ≠ i ∧ l[j]? = some a := by
  rw [List.getElem?_set] at h
  split_ifs at h with hij hlt
  · exact .inl ⟨hij.symm, (Option.some.inj h).symm⟩
  · exact .inr ⟨fun h => hij h.symm, h⟩

/-- The number of entries that satisfy a predicate, without subtracting. -/
theorem countP_set_add (h : l[i]? = some a) (b : α) (p : α → Bool) :
    (l.set i b).countP p + (p a).toNat = l.countP p + (p b).toNat := by
  obtain ⟨hlt, rfl⟩ := List.getElem?_eq_some_iff.1 h
  have hle := List.boole_getElem_le_countP (p := p) hlt
  rw [List.countP_set hlt]
  cases ha : p l[i] <;> cases hb : p b <;> simp_all

/-- Entries that count for the same may be exchanged. -/
theorem filterMap_eq_of_forall₂ {l' : List α} (h : List.Forall₂ (fun a a' => f a' = f a) l l') :
    l'.filterMap f = l.filterMap f := by
  induction h with
  | nil => rfl
  | cons hab _ ih => simp [List.filterMap_cons, hab, ih]

theorem filterMap_set_eq (h : l[i]? = some a) (ht : f t = f a) :
    (l.set i t).filterMap f = l.filterMap f := by
  apply filterMap_eq_of_forall₂
  apply List.forall₂_iff_get.2
  refine ⟨by simp, fun j h₁ h₂ => ?_⟩
  simp only [List.get_eq_getElem, List.getElem_set]
  split_ifs with hj
  · subst hj
    obtain ⟨_, rfl⟩ := List.getElem?_eq_some_iff.1 h
    exact ht
  · rfl

/-- An entry that stops counting is erased from those that count. -/
theorem exists_eraseIdx_filterMap {c : β} (ha : f a = some c) (ht : f t = none) :
    ∀ {l : List α} {i : ℕ}, l[i]? = some a → ∃ place, (l.filterMap f)[place]? = some c ∧
      (l.set i t).filterMap f = (l.filterMap f).eraseIdx place
  | x :: l, 0, h => by
    obtain rfl := Option.some.inj h
    refine ⟨0, ?_, ?_⟩
    · rw [List.filterMap_cons_some ha]
      rfl
    · rw [List.set_cons_zero, List.filterMap_cons_none ht, List.filterMap_cons_some ha]
      rfl
  | x :: l, i + 1, h => by
    obtain ⟨place, hplace, hset⟩ := exists_eraseIdx_filterMap (l := l) (i := i) ha ht h
    cases hx : f x with
    | none =>
      refine ⟨place, ?_, ?_⟩
      · rw [List.filterMap_cons_none hx, hplace]
      · rw [List.set_cons_succ, List.filterMap_cons_none hx, List.filterMap_cons_none hx, hset]
    | some d =>
      refine ⟨place + 1, ?_, ?_⟩
      · rw [List.filterMap_cons_some hx, List.getElem?_cons_succ, hplace]
      · rw [List.set_cons_succ, List.filterMap_cons_some hx, List.filterMap_cons_some hx, hset]
        rfl

/-- Different numbers below `n` are at most `n`. -/
theorem length_le_of_nodup {l : List ℕ} {n : ℕ} (hl : l.Nodup) (h : ∀ x ∈ l, x < n) :
    l.length ≤ n := by
  have hsub : l.Subperm (List.range n) :=
    List.subperm_of_subset hl fun x hx => List.mem_range.2 (h x hx)
  simpa using hsub.length_le

end Entries
