import SelfRelay.Lib.Regex

/-!
# Patterns with a lead

Patterns of the form "a stem and some spaces, which are a group, and then a value".  Where the stem
can be read in one way only, the first match has as many spaces in its group as leave a value behind
them (`head?_run_lead`).
-/

namespace Regex

variable {ι α : Type}

/-- A pattern that sets no group. -/
def groupless : Regex ι α → Bool
  | empty | one _ | many _ | lazily _ | notAfter _ | boundary _ | backreference _ => true
  | seq r r' | alt r r' => r.groupless && r'.groupless
  | group _ _ => false

/-- A repetition goes on from every place that it can reach. -/
theorem stops_append {P : α → Bool} {w : List α} (hw : ∀ c ∈ w, P c = true)
    (groups : ι → Option (List α)) (last : Option α) (rest : List α) :
    ∃ l, stops P groups last (w ++ rest) = l ++ stops P groups (w.getLast?.or last) rest := by
  induction w generalizing last with
  | nil => exact ⟨[], rfl⟩
  | cons c w ih =>
    obtain ⟨hc, hw⟩ := List.forall_mem_cons.1 hw
    obtain ⟨l, hl⟩ := ih hw (some c)
    refine ⟨⟨last, c :: (w ++ rest), groups⟩ :: l, ?_⟩
    rw [List.cons_append, stops_cons, if_pos hc, hl]
    cases w with
    | nil => rfl
    | cons => simp [List.getLast?_cons]

theorem stops_eq_cons (P : α → Bool) (groups : ι → Option (List α)) (last : Option α)
    (rest : List α) :
    ∃ l, stops P groups last rest = ⟨last, rest, groups⟩ :: l ∧
      ∀ t ∈ l, ∃ w, w ≠ [] ∧ rest = w ++ t.rest ∧ ∀ c ∈ w, P c = true := by
  cases rest with
  | nil => exact ⟨[], rfl, nofun⟩
  | cons c rest =>
    refine ⟨if P c then stops P groups (some c) rest else [], stops_cons, fun t ht => ?_⟩
    split_ifs at ht with hc
    · obtain ⟨-, u, hu, hafter⟩ := mem_stops.1 ht
      exact ⟨c :: u, List.cons_ne_nil c u, congrArg (c :: ·) hafter.rest,
        List.forall_mem_cons.2 ⟨hc, hu⟩⟩
    · cases ht

theorem head?_flatMap_of_forall {β γ : Type} {l : List β} {b : β} (hne : l ≠ [])
    (hall : ∀ x ∈ l, x = b)
    (f : β → List γ) : (l.flatMap f).head? = (f b).head? := by
  induction l with
  | nil => exact absurd rfl hne
  | cons x l ih =>
    obtain ⟨rfl, hall⟩ := List.forall_mem_cons.1 hall
    rw [List.flatMap_cons, List.head?_append]
    cases l with
    | nil => rw [List.flatMap_nil, List.head?_nil, Option.or_none]
    | cons y l =>
      rw [ih (List.cons_ne_nil y l) hall]
      cases (f x).head? <;> rfl

variable [DecidableEq ι] [DecidableEq α]

theorem groups_of_run {r : Regex ι α} (hr : r.groupless = true) {s t : Cursor ι α}
    (h : t ∈ r.run s) :
    t.groups = s.groups := by
  induction r generalizing s t with
  | empty => exact congrArg Cursor.groups (List.mem_singleton.1 h)
  | one P =>
    cases hrest : s.rest with
    | nil =>
      rw [run_one_of_nil hrest] at h
      cases h
    | cons c rest =>
      rw [run_one_of_cons hrest] at h
      split_ifs at h
      · rw [List.mem_singleton.1 h]
      · cases h
  | seq r r' ih ih' =>
    have hr := Bool.and_eq_true_iff.1 hr
    obtain ⟨m, hm, ht⟩ := List.mem_flatMap.1 h
    exact (ih' hr.2 ht).trans (ih hr.1 hm)
  | alt r r' ih ih' =>
    have hr := Bool.and_eq_true_iff.1 hr
    obtain h | h := List.mem_append.1 h
    · exact ih hr.1 h
    · exact ih' hr.2 h
  | many P => exact (mem_stops.1 (List.mem_reverse.1 h)).1
  | lazily P => exact (mem_stops.1 h).1
  | group i r => exact Bool.noConfusion hr
  | backreference i =>
    cases hgroup : s.groups i with
    | none =>
      rw [run_backreference_of_none hgroup] at h
      cases h
    | some word =>
      rw [run_backreference_of_some hgroup] at h
      split_ifs at h
      · rw [List.mem_singleton.1 h]
      · cases h
  | notAfter P =>
    rw [run_notAfter] at h
    split_ifs at h
    · cases h
    · exact congrArg Cursor.groups (List.mem_singleton.1 h)
  | boundary P =>
    rw [run_boundary] at h
    split_ifs at h
    · exact congrArg Cursor.groups (List.mem_singleton.1 h)
    · cases h

/-- The first match of a value after a stem and some spaces. -/
theorem head?_run_lead {stem value : Regex ι α} {space : α → Bool} {i : ι} {last : Option α}
    {n w rest : List α} {groups : ι → Option (List α)}
    (hstem : stem.run ⟨last, n ++ (w ++ rest), groups⟩ ≠ [])
    (hunique : ∀ m ∈ stem.run ⟨last, n ++ (w ++ rest), groups⟩,
      m = ⟨n.getLast?.or last, w ++ rest, groups⟩)
    (hw : ∀ c ∈ w, space c = true)
    (hlongest : ∀ (t : Cursor ι α) (w' : List α), w' ≠ [] → rest = w' ++ t.rest →
      (∀ c ∈ w', space c = true) → value.run t = [])
    (hvalue : value.run ⟨w.getLast?.or (n.getLast?.or last), rest,
      Function.update groups i (some (n ++ w))⟩ ≠ []) :
    ((seq (group i (seq stem (many space))) value).run ⟨last, n ++ (w ++ rest), groups⟩).head? =
      (value.run ⟨w.getLast?.or (n.getLast?.or last), rest,
        Function.update groups i (some (n ++ w))⟩).head? := by
  rw [run_seq, run_group, run_seq, List.map_flatMap, List.flatMap_assoc,
    head?_flatMap_of_forall hstem hunique, run_many]
  dsimp only
  obtain ⟨l, hl⟩ := stops_append hw groups (n.getLast?.or last) rest
  obtain ⟨l', hl', hlater⟩ := stops_eq_cons space groups (w.getLast?.or (n.getLast?.or last)) rest
  rw [hl, hl', List.reverse_append, List.reverse_cons, List.map_append, List.map_append,
    List.flatMap_append,
    List.flatMap_append]
  have hnone : (l'.reverse.map fun t : Cursor ι α => ({ t with
      groups := Function.update t.groups i
        (some ((n ++ (w ++ rest)).take ((n ++ (w ++ rest)).length - t.rest.length))) } : Cursor
          ι α)).flatMap
      (fun t => value.run t) = [] := by
    refine List.flatMap_eq_nil_iff.2 fun t ht => ?_
    obtain ⟨t, hmem, rfl⟩ := List.mem_map.1 ht
    obtain ⟨w', hne, hrest, hw'⟩ := hlater t (List.mem_reverse.1 hmem)
    exact hlongest _ w' hne hrest hw'
  have htake : (n ++ (w ++ rest)).take ((n ++ (w ++ rest)).length - rest.length) = n ++ w := by
    rw [← List.append_assoc, List.length_append, Nat.add_sub_cancel, List.take_left]
  rw [hnone, List.nil_append, List.map_singleton, List.flatMap_singleton, htake, List.head?_append]
  cases hhead : (value.run ⟨w.getLast?.or (n.getLast?.or last), rest,
      Function.update groups i (some (n ++ w))⟩).head? with
  | none => exact absurd (List.head?_eq_none_iff.1 hhead) hvalue
  | some t => rfl

/-- A part at the front of a text in which no match begins stays as it is. -/
theorem sub_append_of_run_eq_nil {r : Regex ι α} {replace : (ι → Option (List α)) → List α}
    {u rest : List α} {last : Option α} (h : ∀ a c b, u = a ++ c :: b →
      r.run ⟨a.getLast?.or last, c :: (b ++ rest), fun _ => none⟩ = []) :
    r.sub replace 0 last (u ++ rest) = u ++ r.sub replace 0 (u.getLast?.or last) rest := by
  induction u generalizing last with
  | nil => rfl
  | cons c u ih =>
    have hfirst : r.run ⟨last, c :: (u ++ rest), fun _ => none⟩ = [] := h [] c u rfl
    rw [List.cons_append, sub_of_run_eq_nil hfirst, ih]
    · cases u with
      | nil => rfl
      | cons => simp [List.getLast?_cons]
    · rintro a d b rfl
      have hrun := h (c :: a) d b rfl
      cases a with
      | nil => exact hrun
      | cons => simpa [List.getLast?_cons] using hrun

/-- Patterns that match alike replace alike. -/
theorem sub_congr {r r' : Regex ι α} (h : ∀ s, r.run s = r'.run s)
    (replace : (ι → Option (List α)) → List α)
    (n : ℕ) (last : Option α) (text : List α) :
    r.sub replace n last text = r'.sub replace n last text := by
  induction text generalizing n last with
  | nil => rfl
  | cons c rest ih =>
    cases n with
    | succ n => exact ih n (some c)
    | zero =>
      rw [sub_zero, sub_zero, h]
      split
      · rw [ih]
      · split_ifs <;> rw [ih]

end Regex
