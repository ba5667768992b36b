import Mathlib.Computability.Language

/-!
# Prefixes of a language, letter by letter

`IsPrefixOf L w` says that some word of `L` extends `w`.  When every word of `L` that starts with
the letter `a` continues in a residual language, prefixes can be read letter by letter
(`isPrefixOf_cons`).  The membership lemmas compute such residuals for the shapes a protocol grammar
is written in: a letter, an optional part, and a repetition, each followed by the rest.
-/

open scoped Computability

namespace Language

variable {α : Type*} {L M : Language α} {a b : α} {w : List α}

/-- Some word of the language extends `w`. -/
def IsPrefixOf (L : Language α) (w : List α) : Prop := ∃ v ∈ L, w <+: v

theorem isPrefixOf_nil (h : w ∈ L) : IsPrefixOf L [] := ⟨w, h, List.nil_prefix⟩

/-- Reading one letter: `M` is the residual of `L` after `a` when `a` is allowed. -/
theorem isPrefixOf_cons {allowed : Prop} (h : ∀ v, a :: v ∈ L ↔ allowed ∧ v ∈ M) :
    IsPrefixOf L (a :: w) ↔ allowed ∧ IsPrefixOf M w := by
  constructor
  · rintro ⟨v, hv, hw⟩
    obtain ⟨u, rfl, hu⟩ := List.cons_prefix_iff.1 hw
    obtain ⟨ha, hm⟩ := (h u).1 hv
    exact ⟨ha, u, hm, hu⟩
  · rintro ⟨ha, v, hv, hw⟩
    exact ⟨a :: v, (h v).2 ⟨ha, hv⟩, List.cons_prefix_cons.2 ⟨rfl, hw⟩⟩

theorem cons_mem_letter_mul : a :: w ∈ ({[b]} : Language α) * L ↔ a = b ∧ w ∈ L := by
  rw [mem_mul]
  constructor
  · rintro ⟨_, rfl, v, hv, h⟩
    obtain ⟨rfl, rfl⟩ := List.cons_eq_cons.1 h
    exact ⟨rfl, hv⟩
  · rintro ⟨rfl, hw⟩
    exact ⟨[a], rfl, w, hw, rfl⟩

/-- An optional part: skip it or enter it. -/
theorem cons_mem_option_mul : a :: w ∈ (1 + M) * L ↔ a :: w ∈ L ∨ a :: w ∈ M * L := by
  rw [add_mul, one_mul, mem_add]

theorem kstar_mul_unfold (L M : Language α) : M∗ * L = L + M * (M∗ * L) := by
  conv_lhs => rw [← one_add_self_mul_kstar_eq_kstar M]
  rw [add_mul, one_mul, mul_assoc]

/-- A repetition: skip it or enter it once more. -/
theorem cons_mem_kstar_mul : a :: w ∈ M∗ * L ↔ a :: w ∈ L ∨ a :: w ∈ M * (M∗ * L) := by
  conv_lhs => rw [kstar_mul_unfold]
  rw [mem_add]

theorem cons_mem_kstar : a :: w ∈ M∗ ↔ a :: w ∈ M * M∗ := by
  have h := cons_mem_kstar_mul (L := 1) (M := M) (a := a) (w := w)
  simpa using h

end Language
