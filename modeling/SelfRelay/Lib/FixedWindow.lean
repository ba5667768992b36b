import Mathlib.Data.List.Count
import Mathlib.Order.Nat

/-!
# Counters of fixed windows

A counter opens a window of length `w` with the first use that it admits, admits at most `n` uses
until the window ends, and opens the next window with the next use.  The uses that one party made of
a counter, each with the start of its window, are `Windowed`, whoever else uses the counter
(`Counts`).  So an interval as long as `k` windows holds at most `n * (k + 1)` of them, wherever it
starts (`Windowed.countP_le`).
-/

namespace FixedWindow

variable {n w now : ℕ} {l : List (ℕ × ℕ)}

/-! ## Windows -/

/-- Uses that were admitted: the start of the window and the time. -/
structure Windowed (n w : ℕ) (l : List (ℕ × ℕ)) : Prop where
  within : ∀ x ∈ l, x.1 ≤ x.2 ∧ x.2 < x.1 + w
  apart : ∀ x ∈ l, ∀ y ∈ l, x.1 < y.1 → x.1 + w ≤ y.1
  full : ∀ start, (l.map Prod.fst).count start ≤ n

/-- A list whose elements fall into `k` classes of at most `n` elements. -/
theorem length_le_of_classes {α : Type*} (f : α → ℕ) {k : ℕ} {l : List α} (hf : ∀ x ∈ l, f x < k)
    (hclass : ∀ i, (l.countP fun x => f x = i) ≤ n) : l.length ≤ n * k := by
  induction k generalizing l with
  | zero =>
    cases l with
    | nil => simp
    | cons x l => exact absurd (hf x List.mem_cons_self) (Nat.not_lt_zero _)
  | succ k ih =>
    have hrest : (l.filter fun x => !decide (f x = k)).length ≤ n * k := by
      refine ih (fun x hx => ?_) fun i => ?_
      · obtain ⟨hx, hne⟩ := List.mem_filter.1 hx
        have hlt := hf x hx
        have hne : f x ≠ k := by simpa using hne
        omega
      · exact (List.filter_sublist.countP_le).trans (hclass i)
    have hsplit := List.length_eq_countP_add_countP (fun x => decide (f x = k)) (l := l)
    have hlast := hclass k
    rw [← List.countP_eq_length_filter] at hrest
    rw [Nat.mul_succ]
    simp only [Bool.decide_eq_true, decide_not] at hsplit
    omega

/-- Uses that are as many windows after `a` are of one window. -/
theorem Windowed.start_eq (h : Windowed n w l) {a : ℕ} {x y : ℕ × ℕ} (hx : x ∈ l) (hy : y ∈ l)
    (hxa : a ≤ x.2)
    (hya : a ≤ y.2) (heq : (x.1 + w - (a + 1)) / w = (y.1 + w - (a + 1)) / w) : x.1 = y.1 := by
  have hlt : ∀ x ∈ l, ∀ y ∈ l, a ≤ x.2 → x.1 < y.1 →
      (x.1 + w - (a + 1)) / w < (y.1 + w - (a + 1)) / w := by
    intro x hx y hy hxa hxy
    have hapart := h.apart x hx y hy hxy
    obtain ⟨_, hend⟩ := h.within x hx
    have hw : 0 < w := by omega
    have hnext : (x.1 + w - (a + 1)) / w + 1 ≤ (y.1 + w - (a + 1)) / w := by
      rw [← Nat.add_div_right _ hw]
      exact Nat.div_le_div_right (by omega)
    omega
  rcases Nat.lt_trichotomy x.1 y.1 with hxy | hxy | hxy
  · exact absurd heq (hlt x hx y hy hxa hxy).ne
  · exact hxy
  · exact absurd heq.symm (hlt y hy x hx hya hxy).ne

/-- The bound over any interval. -/
theorem Windowed.countP_le (h : Windowed n w l) (a k : ℕ) :
    (l.countP fun x => a ≤ x.2 ∧ x.2 < a + k * w) ≤ n * (k + 1) := by
  rw [List.countP_eq_length_filter]
  refine length_le_of_classes (fun x => (x.1 + w - (a + 1)) / w) (fun x hx => ?_) fun i => ?_
  · obtain ⟨hx, htime⟩ := List.mem_filter.1 hx
    obtain ⟨hstart, hend⟩ := h.within x hx
    have htime : a ≤ x.2 ∧ x.2 < a + k * w := by simpa using htime
    have hw : 0 < w := by omega
    rw [Nat.div_lt_iff_lt_mul hw, Nat.add_mul, Nat.one_mul]
    omega
  · rw [List.countP_filter]
    rcases Nat.eq_zero_or_pos (l.countP fun x => decide ((x.1 + w - (a + 1)) / w = i) &&
      decide (a ≤ x.2 ∧ x.2 < a + k * w)) with hzero | hpos
    · rw [hzero]
      exact Nat.zero_le _
    · -- the class is within the window of one of its uses
      obtain ⟨x, hx, hclass⟩ := List.countP_pos_iff.1 hpos
      simp only [Bool.and_eq_true, decide_eq_true_eq] at hclass
      refine le_trans ?_ (h.full x.1)
      rw [List.count, List.countP_map]
      refine List.countP_mono_left fun y hy hyclass => ?_
      simp only [Bool.and_eq_true, decide_eq_true_eq] at hyclass
      have hstart := h.start_eq hy hx hyclass.2.1 hclass.2.1 (hyclass.1.trans hclass.1.symm)
      simpa using hstart

/-! ## Counters -/

/-- What a counter counts at a time: the end of the window and the uses so far.  An expired window
starts again. -/
def current (now w : ℕ) : Option (ℕ × ℕ) → ℕ × ℕ
  | none => (now + w, 0)
  | some (expiresAt, count) => if expiresAt ≤ now then (now + w, 0) else (expiresAt, count)

/-- The counter has counted these uses, and maybe others. -/
structure Counts (n w now : ℕ) (l : List (ℕ × ℕ)) (entry : Option (ℕ × ℕ)) : Prop extends
    Windowed n w l where
  fresh : entry = none → l = []
  counted : ∀ expiresAt count, entry = some (expiresAt, count) → ∃ start, expiresAt = start + w ∧
    start ≤ now ∧
    (l.map Prod.fst).count start ≤ count ∧ ∀ x ∈ l, x.1 = start ∨ x.1 + w ≤ start

namespace Counts

variable {entry : Option (ℕ × ℕ)} {now' : ℕ}

theorem none (n w now : ℕ) : Counts n w now [] none :=
  ⟨⟨List.forall_mem_nil _, List.forall_mem_nil _, fun _ => Nat.zero_le _⟩, fun _ => rfl,
    fun _ _ hentry => (Option.some_ne_none _ hentry.symm).elim⟩

theorem later (h : Counts n w now l entry) (hle : now ≤ now') : Counts n w now' l entry := by
  refine ⟨h.toWindowed, h.fresh, fun expiresAt count hentry => ?_⟩
  obtain ⟨start, hexpires, hstart, hcount, hstarts⟩ := h.counted expiresAt count hentry
  exact ⟨start, hexpires, hstart.trans hle, hcount, hstarts⟩

/-- The window that is current. -/
theorem current_spec (h : Counts n w now l entry) (hw : 0 < w) :
    ∃ start, (current now w entry).1 = start + w ∧
    start ≤ now ∧ now < start + w ∧ (l.map Prod.fst).count start ≤ (current now w entry).2 ∧
    ∀ x ∈ l, x.1 = start ∨ x.1 + w ≤ start := by
  have hopened : (∀ x ∈ l, x.1 + w ≤ now) → ∃ start, now + w = start + w ∧ start ≤ now ∧
    now < start + w ∧
      (l.map Prod.fst).count start ≤ 0 ∧ ∀ x ∈ l, x.1 = start ∨ x.1 + w ≤ start := by
    intro hbefore
    refine ⟨now, rfl, le_rfl, by omega, ?_, fun x hx => .inr (hbefore x hx)⟩
    rw [Nat.le_zero, List.count_eq_zero]
    rintro hmem
    obtain ⟨x, hx, heq⟩ := List.mem_map.1 hmem
    have := hbefore x hx
    omega
  cases entry with
  | none =>
    obtain rfl := h.fresh rfl
    exact hopened (List.forall_mem_nil _)
  | some entry =>
    obtain ⟨expiresAt, count⟩ := entry
    obtain ⟨start, hexpires, hstart, hcount, hstarts⟩ := h.counted expiresAt count rfl
    dsimp only [current]
    split_ifs with hexpired
    · refine hopened fun x hx => ?_
      rcases hstarts x hx with heq | hle <;> omega
    · exact ⟨start, hexpires, hstart, by omega, hcount, hstarts⟩

/-- Somebody else uses the counter. -/
theorem used (h : Counts n w now l entry) (hw : 0 < w) :
    Counts n w now l (some ((current now w entry).1, (current now w entry).2 + 1)) := by
  obtain ⟨start, hexpires, hstart, _, hcount, hstarts⟩ := h.current_spec hw
  refine ⟨h.toWindowed, fun hnone => (Option.some_ne_none _ hnone).elim,
    fun expiresAt count hentry => ?_⟩
  cases hentry
  exact ⟨start, hexpires, hstart, hcount.trans (Nat.le_succ _), hstarts⟩

/-- A use is admitted. -/
theorem admitted (h : Counts n w now l entry) (hw : 0 < w) (hlt : (current now w entry).2 < n) :
    ∃ start, Counts n w now (l ++ [(start, now)])
      (some ((current now w entry).1, (current now w entry).2 + 1)) := by
  obtain ⟨start, hexpires, hstart, hend, hcount, hstarts⟩ := h.current_spec hw
  have hcounts : ∀ start', ((l ++ [(start, now)]).map Prod.fst).count start' =
      (l.map Prod.fst).count start' + if start = start' then 1 else 0 := by
    intro start'
    simp [List.count_append, List.count_singleton]
  refine ⟨start, ⟨⟨?_, ?_, fun start' => ?_⟩, fun hnone => (Option.some_ne_none _ hnone).elim, ?_⟩⟩
  · exact List.forall_mem_append.2 ⟨h.within, List.forall_mem_singleton.2 ⟨hstart, hend⟩⟩
  · intro x hx y hy hlt
    rcases List.mem_append.1 hx with hx | hx <;> rcases List.mem_append.1 hy with hy | hy
    · exact h.apart x hx y hy hlt
    · obtain rfl := List.mem_singleton.1 hy
      rcases hstarts x hx with heq | hle
      · exact absurd hlt (by simp [heq])
      · exact hle
    · obtain rfl := List.mem_singleton.1 hx
      rcases hstarts y hy with heq | hle
      · exact absurd hlt (by simp [heq])
      · dsimp only at hlt
        omega
    · obtain rfl := List.mem_singleton.1 hx
      obtain rfl := List.mem_singleton.1 hy
      exact absurd hlt (Nat.lt_irrefl _)
  · rw [hcounts]
    split_ifs with heq
    · subst heq
      omega
    · exact h.full start'
  · intro expiresAt count hentry
    cases hentry
    refine ⟨start, hexpires, hstart, ?_,
      List.forall_mem_append.2 ⟨hstarts, List.forall_mem_singleton.2 (.inl rfl)⟩⟩
    rw [hcounts, if_pos rfl]
    omega

end Counts

end FixedWindow
