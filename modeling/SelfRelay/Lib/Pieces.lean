import Mathlib.Data.Nat.Notation
import Mathlib.Algebra.BigOperators.Group.List.Basic
import Mathlib.Algebra.GroupWithZero.Nat

/-!
# Cutting a length into pieces

Cutting a total length into pieces of one size leaves a shorter last piece unless the size divides
the total.  `IsCut` says which lists of lengths are such a cut, `cut` is the only one (`isCut_iff`),
and `prefix_snoc` says when a piece may follow the pieces that came before it.
-/

namespace Pieces

/-- The pieces have the size, up to the last one, which is not empty and not longer. -/
def IsCut (size total : ℕ) (lengths : List ℕ) : Prop :=
  lengths.sum = total ∧
    (lengths = [] ∨ ∃ n last, lengths = List.replicate n size ++ [last] ∧ 1 ≤ last ∧ last ≤ size)

def cut (size total : ℕ) : List ℕ :=
  List.replicate (total / size) size ++ if total % size = 0 then [] else [total % size]

/-- The number of pieces. -/
def count (size total : ℕ) : ℕ := (total + (size - 1)) / size

variable {size total : ℕ}

theorem sum_cut : (cut size total).sum = total := by
  have h := Nat.div_add_mod' total size
  unfold cut
  split_ifs with hmod
  · rw [List.append_nil, List.sum_replicate_nat]
    omega
  · rw [List.sum_append, List.sum_replicate_nat, List.sum_singleton]
    omega

theorem pos_of_mem_cut (hsize : 0 < size) {length : ℕ} (h : length ∈ cut size total) :
    0 < length := by
  rcases List.mem_append.1 h with h | h
  · rw [List.eq_of_mem_replicate h]
    exact hsize
  · split_ifs at h with hmod
    · cases h
    · rw [List.mem_singleton.1 h]
      omega

theorem isCut_cut (hsize : 0 < size) : IsCut size total (cut size total) := by
  refine ⟨sum_cut, ?_⟩
  unfold cut
  split_ifs with hmod
  · rw [List.append_nil]
    cases total / size with
    | zero => exact .inl rfl
    | succ n => exact .inr ⟨n, size, List.replicate_succ', hsize, Nat.le_refl size⟩
  · exact .inr ⟨total / size, total % size, rfl, by omega, Nat.le_of_lt (Nat.mod_lt _ hsize)⟩

/-- There is exactly one way to cut. -/
theorem isCut_iff (hsize : 0 < size) {lengths : List ℕ} :
    IsCut size total lengths ↔ lengths = cut size total := by
  constructor
  · rintro ⟨rfl, rfl | ⟨n, last, rfl, hpos, hle⟩⟩
    · simp [cut]
    · have hsum : (List.replicate n size ++ [last]).sum = last + size * n := by
        rw [List.sum_append, List.sum_replicate_nat, List.sum_singleton, Nat.mul_comm, Nat.add_comm]
      rw [hsum, cut, Nat.add_mul_div_left _ _ hsize, Nat.add_mul_mod_self_left]
      rcases Nat.lt_or_eq_of_le hle with hlt | rfl
      · rw [Nat.div_eq_of_lt hlt, Nat.mod_eq_of_lt hlt, if_neg (by omega), Nat.zero_add]
      · rw [Nat.div_self hsize, Nat.mod_self, if_pos rfl, List.append_nil, Nat.add_comm,
          List.replicate_succ']
  · rintro rfl
    exact isCut_cut hsize

theorem length_cut (hsize : 0 < size) : (cut size total).length = count size total := by
  have hlt := Nat.mod_lt total hsize
  have hcount : count size total = (total % size + (size - 1)) / size + total / size := by
    rw [← Nat.add_mul_div_left _ _ hsize, count]
    nth_rewrite 1 [← Nat.mod_add_div total size]
    congr 1
    omega
  rw [cut, hcount]
  split_ifs with hmod
  · have hzero : (total % size + (size - 1)) / size = 0 := Nat.div_eq_of_lt (by omega)
    rw [hzero, List.append_nil, List.length_replicate, Nat.zero_add]
  · have hone : (total % size + (size - 1)) / size = 1 := Nat.div_eq_of_lt_le (by omega) (by omega)
    rw [hone, List.length_append, List.length_replicate, List.length_singleton, Nat.add_comm]

@[simp] theorem cut_zero : cut size 0 = [] := by simp [cut]

/-- The first piece, and the cut of the rest. -/
theorem cut_of_pos (hsize : 0 < size) (htotal : 0 < total) :
    cut size total = min size total :: cut size (total - size) := by
  by_cases hle : size ≤ total
  · obtain ⟨rest, rfl⟩ := Nat.exists_eq_add_of_le hle
    rw [Nat.min_eq_left hle, Nat.add_sub_cancel_left, cut, cut, Nat.add_div_left _ hsize,
      Nat.add_mod_left, List.replicate_succ, List.cons_append]
  · rw [Nat.min_eq_right (by omega), Nat.sub_eq_zero_of_le (by omega), cut_zero, cut,
      Nat.div_eq_of_lt (by omega), Nat.mod_eq_of_lt (by omega), if_neg (by omega)]
    rfl

/-- After some pieces comes the one that is left to cut off. -/
theorem prefix_snoc (hsize : 0 < size) {lengths : List ℕ} (h : lengths <+: cut size total)
    (length : ℕ) :
    lengths ++ [length] <+: cut size total ↔
      lengths.sum < total ∧ length = min size (total - lengths.sum) := by
  induction lengths generalizing total with
  | nil =>
    rcases Nat.eq_zero_or_pos total with rfl | htotal
    · simp
    · rw [cut_of_pos hsize htotal, List.nil_append, List.cons_prefix_cons]
      simp [htotal]
  | cons first lengths ih =>
    rcases Nat.eq_zero_or_pos total with rfl | htotal
    · rw [cut_zero, List.prefix_nil] at h
      cases h
    · rw [cut_of_pos hsize htotal, List.cons_prefix_cons] at h
      obtain ⟨rfl, hrest⟩ := h
      rw [cut_of_pos hsize htotal, List.cons_append, List.cons_prefix_cons, ih hrest, List.sum_cons]
      simp only [true_and]
      constructor <;> rintro ⟨hlt, heq⟩ <;> refine ⟨?_, ?_⟩ <;> omega

theorem sum_le_of_prefix {lengths : List ℕ} (h : lengths <+: cut size total) :
    lengths.sum ≤ total := by
  obtain ⟨rest, hrest⟩ := h
  have hsum := @sum_cut size total
  rw [← hrest, List.sum_append] at hsum
  omega

theorem length_le_of_prefix (hsize : 0 < size) {lengths : List ℕ} (h : lengths <+: cut size total) :
    lengths.length ≤ count size total :=
  length_cut hsize ▸ h.length_le

/-- Pieces that make up the whole are all of them. -/
theorem eq_cut_of_prefix (hsize : 0 < size) {lengths : List ℕ} (h : lengths <+: cut size total)
    (hsum : lengths.sum = total) : lengths = cut size total := by
  obtain ⟨rest, hrest⟩ := h
  have hall := @sum_cut size total
  rw [← hrest, List.sum_append, hsum] at hall
  cases rest with
  | nil => rwa [List.append_nil] at hrest
  | cons length rest =>
    have hmem : length ∈ cut size total := by
      rw [← hrest]
      simp
    have hpos := pos_of_mem_cut hsize hmem
    rw [List.sum_cons] at hall
    omega

/-! ## The pieces of a list -/

section List

variable {α : Type*} {l : List α} {m n : ℕ}

/-- The first `n` pieces of a list. -/
def pieces (size : ℕ) (l : List α) (n : ℕ) : List (List α) :=
  (List.range n).map fun k => (l.drop (k * size)).take size

@[simp] theorem pieces_zero : pieces size l 0 = [] := rfl

theorem pieces_succ : pieces size l (n + 1) = pieces size l n ++
    [(l.drop (n * size)).take size] := by
  simp [pieces, List.range_succ]

/-- Together the pieces are what was cut. -/
theorem flatten_pieces : (pieces size l n).flatten = l.take (n * size) := by
  induction n with
  | zero => simp
  | succ n ih =>
    rw [pieces_succ, List.flatten_append, ih, List.flatten_singleton, Nat.succ_mul, List.take_add]

theorem pieces_prefix (h : m ≤ n) : pieces size l m <+: pieces size l n := by
  induction h with
  | refl => exact List.prefix_rfl
  | step _ ih =>
    rw [pieces_succ]
    exact ih.trans (List.prefix_append _ _)

theorem lt_count_iff (hsize : 0 < size) : n < count size total ↔ n * size < total := by
  rw [count, Nat.lt_iff_add_one_le, Nat.le_div_iff_mul_le hsize, Nat.succ_mul]
  omega

/-- All pieces make up the list. -/
theorem flatten_pieces_count (hsize : 0 < size) :
    (pieces size l (count size l.length)).flatten = l := by
  rw [flatten_pieces]
  apply List.take_of_length_le
  by_contra h
  exact Nat.lt_irrefl _ ((lt_count_iff hsize).2 (Nat.not_le.1 h))

end List

end Pieces
