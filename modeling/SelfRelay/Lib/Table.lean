import Mathlib.Data.List.Basic
import Mathlib.Data.List.Forall2
import Mathlib.Data.List.Nodup
import Mathlib.Tactic.Common

/-!
# Tables with constraints

A table is a list of rows.  `update` is an SQL `UPDATE … SET … WHERE …` and `insert` an `INSERT` of
some rows: a statement takes effect on all its rows or, when one of them violates a constraint, on
none.  `get` and `put` are the operations of a dictionary of rows by their key; `update_twin`
compares such a dictionary with a table, row by row.
-/

namespace Table

/-- Why a statement was rejected. -/
inductive Violation where
  | check
  | unique
  deriving DecidableEq, Repr

section Update

variable {α : Type} (check : α → Bool) (selected : α → Bool) (set : α → α)

/-- The table after an update that was not rejected. -/
def updated (rows : List α) : List α := rows.map fun r => if selected r then set r else r

/-- The rows that an update writes. -/
def written (rows : List α) : List α := (rows.filter selected).map set

/-- An update: the new table and the rows it returns. -/
def update (rows : List α) : Except Violation (List α × List α) :=
  if (written selected set rows).all check then
    .ok (updated selected set rows, written selected set rows)
  else .error .check

variable {check selected set} {rows : List α}

theorem all_written : (written selected set rows).all check = true ↔
    ∀ r ∈ rows, selected r = true → check (set r) = true := by
  rw [List.all_eq_true]
  constructor
  · intro h r hr hselected
    exact h _ (List.mem_map.2 ⟨r, List.mem_filter.2 ⟨hr, hselected⟩, rfl⟩)
  · intro h r' hr'
    obtain ⟨r, hr, rfl⟩ := List.mem_map.1 hr'
    obtain ⟨hr, hselected⟩ := List.mem_filter.1 hr
    exact h r hr hselected

theorem update_eq_ok {rows' returned : List α} :
    update check selected set rows = .ok (rows', returned) ↔
      (∀ r ∈ rows, selected r = true → check (set r) = true) ∧ rows' = updated selected set rows ∧
        returned = written selected set rows := by
  unfold update
  split_ifs with h
  · simp only [Except.ok.injEq, Prod.mk.injEq, eq_comm (a := updated selected set rows),
      eq_comm (a := written selected set rows)]
    exact ⟨fun hrows => ⟨all_written.1 h, hrows⟩, fun hrows => hrows.2⟩
  · exact ⟨nofun, fun hrows => (h (all_written.2 hrows.1)).elim⟩

/-- An update is rejected exactly when a row that it writes violates a constraint. -/
theorem update_eq_error : update check selected set rows = .error .check ↔
    ¬ ∀ r ∈ rows, selected r = true → check (set r) = true := by
  rw [← all_written, update]
  split_ifs with h
  · exact ⟨nofun, fun h' => (h' h).elim⟩
  · exact ⟨fun _ => h, fun _ => rfl⟩

theorem mem_updated {r' : α} :
    r' ∈ updated selected set rows ↔
      (∃ r ∈ rows, selected r = true ∧ r' = set r) ∨ (r' ∈ rows ∧ selected r' = false) := by
  simp only [updated, List.mem_map]
  constructor
  · rintro ⟨r, hr, rfl⟩
    cases h : selected r with
    | true => exact .inl ⟨r, hr, h, by simp⟩
    | false => exact .inr ⟨by simpa [h] using hr, by simp [h]⟩
  · rintro (⟨r, hr, h, rfl⟩ | ⟨hr, h⟩)
    · exact ⟨r, hr, by simp [h]⟩
    · exact ⟨r', hr, by simp [h]⟩

theorem mem_written {r' : α} :
    r' ∈ written selected set rows ↔ ∃ r ∈ rows, selected r = true ∧ set r = r' := by
  simp [written, and_assoc]

/-- An update that keeps the keys keeps them in their places. -/
theorem map_updated {κ : Type} {key : α → κ} (h : ∀ r, key (set r) = key r) :
    (updated selected set rows).map key = rows.map key := by
  rw [updated, List.map_map]
  refine List.map_congr_left fun r _ => ?_
  simp only [Function.comp_apply]
  split_ifs
  · exact h r
  · rfl

end Update

section Insert

variable {α κ : Type} [DecidableEq κ] (check : α → Bool) (key : α → κ)

/-- An insert of one row with its primary key. -/
def insert (row : α) (rows : List α) : Except Violation (List α) :=
  if check row = false then .error .check
  else if key row ∈ rows.map key then .error .unique
  else .ok (rows ++ [row])

variable {check key} {row : α} {rows rows' : List α}

theorem insert_eq_ok : insert check key row rows = .ok rows' ↔
    check row = true ∧ key row ∉ rows.map key ∧ rows' = rows ++ [row] := by
  unfold insert
  split_ifs with hcheck hkey
  · simp [hcheck]
  · simp [hkey]
  · simp only [Except.ok.injEq, eq_comm (a := rows ++ [row])]
    exact ⟨fun h => ⟨by simpa using hcheck, hkey, h⟩, fun h => h.2.2⟩

omit [DecidableEq κ] in
/-- A row with a new key keeps the keys unique. -/
theorem nodup_append_row (h : (rows.map key).Nodup) (hrow : key row ∉ rows.map key) :
    ((rows ++ [row]).map key).Nodup := by
  rw [List.map_append, List.map_singleton]
  refine List.nodup_append.2 ⟨h, List.nodup_singleton _, ?_⟩
  rintro k hk _ hk' rfl
  exact hrow (List.mem_singleton.1 hk' ▸ hk)

/-- An insert violates a `CHECK` exactly when its row does. -/
theorem insert_eq_check : insert check key row rows = .error .check ↔ check row = false := by
  unfold insert
  split_ifs with hcheck hkey
  · simp [hcheck]
  · simpa using hcheck
  · simpa using hcheck

theorem violation_of_insert {violation : Violation}
    (h : insert check key row rows = .error violation) :
    violation = .check ↔ check row = false := by
  constructor
  · rintro rfl
    exact insert_eq_check.1 h
  · intro hcheck
    exact Except.error.inj (h.symm.trans (insert_eq_check.2 hcheck))

end Insert

/-! ## Dictionaries of rows -/

section Keyed

variable {α κ : Type} [DecidableEq κ] (key : α → κ)

/-- The row with a key. -/
def get (k : κ) (rows : List α) : Option α := rows.find? fun r => key r = k

/-- Store a row under its key, in the place of the row that had it. -/
def put (row : α) (rows : List α) : List α :=
  if rows.any fun r => key r = key row then rows.map fun r => if key r = key row then row else r
  else rows ++ [row]

/-- Replace the row with a key, if there is one and it is as `keeps` asks; with the new row. -/
def modify (k : κ) (keeps : α → Bool) (update : α → α) (rows : List α) : List α × Option α :=
  match get key k rows with
  | some row => if keeps row then (put key (update row) rows, some (update row)) else (rows, none)
  | none => (rows, none)

variable {key} {k : κ} {rows xs ys : List α} {r : α}

theorem get_eq_none : get key k rows = none ↔ k ∉ rows.map key := by
  simp [get]

omit [DecidableEq κ] in
/-- A table with unique keys, split at the row that has a key. -/
theorem split_of_mem (hnodup : (rows.map key).Nodup) (hk : k ∈ rows.map key) :
    ∃ xs r ys, rows = xs ++ r :: ys ∧ key r = k ∧ k ∉ xs.map key ∧ k ∉ ys.map key := by
  obtain ⟨r, hr, rfl⟩ := List.mem_map.1 hk
  obtain ⟨xs, ys, rfl⟩ := List.append_of_mem hr
  rw [List.map_append, List.map_cons, List.nodup_middle, List.nodup_cons, List.mem_append] at hnodup
  exact ⟨xs, r, ys, rfl, rfl, fun h => hnodup.1 (.inl h), fun h => hnodup.1 (.inr h)⟩

theorem get_split (hr : key r = k) (hxs : k ∉ xs.map key) : get key k (xs ++ r :: ys) = some r := by
  rw [get, List.find?_append, List.find?_eq_none.2, Option.none_or, List.find?_cons_of_pos]
  · exact decide_eq_true hr
  · intro r' hr' heq
    exact hxs (List.mem_map.2 ⟨r', hr', of_decide_eq_true heq⟩)

theorem put_split {row : α} (hr : key r = key row) (hxs : key row ∉ xs.map key)
    (hys : key row ∉ ys.map key) : put key row (xs ++ r :: ys) = xs ++ row :: ys := by
  have hkeep : ∀ rows : List α, key row ∉ rows.map key →
      rows.map (fun r => if key r = key row then row else r) = rows := by
    intro rows hrows
    conv_rhs => rw [← List.map_id rows]
    refine List.map_congr_left fun r' hr' => if_neg fun heq => ?_
    exact hrows (List.mem_map.2 ⟨r', hr', heq⟩)
  rw [put, if_pos (by simp [hr]), List.map_append, List.map_cons, hkeep xs hxs, hkeep ys hys,
    if_pos hr]

theorem put_of_not_mem {row : α} (h : key row ∉ rows.map key) :
    put key row rows = rows ++ [row] := by
  refine if_neg fun hany => ?_
  obtain ⟨r, hr, heq⟩ := List.any_eq_true.1 hany
  exact h (List.mem_map.2 ⟨r, hr, of_decide_eq_true heq⟩)

theorem put_of_mem {row : α} (h : key row ∈ rows.map key) :
    put key row rows = rows.map fun r => if key r = key row then row else r := by
  obtain ⟨r, hr, heq⟩ := List.mem_map.1 h
  exact if_pos (List.any_eq_true.2 ⟨r, hr, decide_eq_true heq⟩)

theorem mem_put {row r' : α} : r' ∈ put key row rows ↔ r' = row ∨ r' ∈ rows ∧ key r' ≠ key row := by
  by_cases hmem : key row ∈ rows.map key
  · obtain ⟨r, hr, heq⟩ := List.mem_map.1 hmem
    rw [put_of_mem hmem, List.mem_map]
    constructor
    · rintro ⟨r, hr, rfl⟩
      split_ifs with h
      · exact .inl rfl
      · exact .inr ⟨hr, h⟩
    · rintro (rfl | ⟨hr', hne⟩)
      · exact ⟨r, hr, if_pos heq⟩
      · exact ⟨r', hr', if_neg hne⟩
  · rw [put_of_not_mem hmem, List.mem_append, List.mem_singleton, or_comm]
    refine or_congr_right ⟨fun hr' => ⟨hr', fun heq => ?_⟩, fun h => h.1⟩
    exact hmem (List.mem_map.2 ⟨r', hr', heq⟩)

theorem nodup_put {row : α} (h : (rows.map key).Nodup) : ((put key row rows).map key).Nodup := by
  by_cases hmem : key row ∈ rows.map key
  · have hkeys : (put key row rows).map key = rows.map key := by
      rw [put_of_mem hmem, List.map_map]
      refine List.map_congr_left fun r _ => ?_
      by_cases heq : key r = key row <;> simp [heq]
    rwa [hkeys]
  · rw [put_of_not_mem hmem]
    exact nodup_append_row h hmem

theorem get_eq_some (h : get key k rows = some r) : r ∈ rows ∧ key r = k := by
  have hkey := List.find?_some h
  exact ⟨List.mem_of_find?_eq_some h, of_decide_eq_true hkey⟩

theorem put_put {row : α} (h : key r = key row) :
    put key row (put key r rows) = put key row rows := by
  by_cases hmem : key row ∈ rows.map key
  · obtain ⟨r', hr', heq⟩ := List.mem_map.1 hmem
    have hput : put key r rows = rows.map fun r' => if key r' = key r then r else r' :=
      put_of_mem (by rwa [h])
    rw [hput, put_of_mem hmem, put_of_mem, List.map_map]
    · refine List.map_congr_left fun r' _ => ?_
      by_cases hr' : key r' = key row <;> simp [h, hr']
    · rw [List.map_map]
      exact List.mem_map.2 ⟨r', hr', by simp [h, heq]⟩
  · have hput : put key r rows = rows ++ [r] := put_of_not_mem (by rwa [h])
    rw [hput, put_of_not_mem hmem]
    exact put_split h hmem List.not_mem_nil

omit [DecidableEq κ] in
/-- An update of the row with a key, in a table split at it. -/
theorem updated_split {selected : α → Bool} (set : α → α)
    (hselected : ∀ r, selected r = true → key r = k) (hxs : k ∉ xs.map key) (hys : k ∉ ys.map key) :
    updated selected set (xs ++ r :: ys) = xs ++ (if selected r then set r else r) :: ys ∧
      written selected set (xs ++ r :: ys) = if selected r then [set r] else [] := by
  have hnot : ∀ rows : List α, k ∉ rows.map key → ∀ r ∈ rows, ¬ selected r = true :=
    fun rows hrows r hr h => hrows (List.mem_map.2 ⟨r, hr, hselected r h⟩)
  have hkeep : ∀ rows : List α, k ∉ rows.map key → updated selected set rows = rows := by
    intro rows hrows
    conv_rhs => rw [← List.map_id rows]
    exact List.map_congr_left fun r hr => if_neg (hnot rows hrows r hr)
  constructor
  · have happend : updated selected set (xs ++ r :: ys) = updated selected set xs ++
        (if selected r then set r else r) :: updated selected set ys := by
      simp only [updated, List.map_append, List.map_cons]
    rw [happend, hkeep xs hxs, hkeep ys hys]
  · rw [written, List.filter_append, List.filter_eq_nil_iff.2 (hnot xs hxs), List.nil_append,
      List.filter_cons, List.filter_eq_nil_iff.2 (hnot ys hys)]
    split_ifs <;> rfl

omit [DecidableEq κ] in
/-- An update of a row that is not there. -/
theorem updated_of_not_mem {selected : α → Bool} (set : α → α)
    (hselected : ∀ r, selected r = true → key r = k) (hrows : k ∉ rows.map key) :
    updated selected set rows = rows ∧ written selected set rows = [] := by
  have hnot : ∀ r ∈ rows, ¬ selected r = true :=
    fun r hr h => hrows (List.mem_map.2 ⟨r, hr, hselected r h⟩)
  constructor
  · conv_rhs => rw [← List.map_id rows]
    exact List.map_congr_left fun r hr => if_neg (hnot r hr)
  · rw [written, List.filter_eq_nil_iff.2 hnot, List.map_nil]

end Keyed

/-! ## Two tables, row by row -/

section Twins

variable {α β κ κ' : Type} {R : α → β → Prop} {key : α → κ} {key' : β → κ'}
  {f : κ → κ'} {rows : List α} {rows' : List β}

theorem map_key_of_forall₂ (hkey : ∀ a b, R a b → key' b = f (key a))
    (h : List.Forall₂ R rows rows') :
    rows'.map key' = (rows.map key).map f := by
  induction h with
  | nil => rfl
  | cons hab _ ih => rw [List.map_cons, List.map_cons, List.map_cons, ih, hkey _ _ hab]

theorem forall₂_split {xs ys : List α} {a : α} (h : List.Forall₂ R (xs ++ a :: ys) rows') :
    ∃ xs' b ys', rows' = xs' ++ b :: ys' ∧ List.Forall₂ R xs xs' ∧ R a b ∧
      List.Forall₂ R ys ys' := by
  induction xs generalizing rows' with
  | nil =>
    obtain ⟨b, ys', hab, hys, rfl⟩ := List.forall₂_cons_left_iff.1 h
    exact ⟨[], b, ys', rfl, .nil, hab, hys⟩
  | cons x xs ih =>
    obtain ⟨x', zs, hx, hzs, rfl⟩ := List.forall₂_cons_left_iff.1 h
    obtain ⟨xs', b, ys', rfl, hxs, hab, hys⟩ := ih hzs
    exact ⟨x' :: xs', b, ys', rfl, .cons hx hxs, hab, hys⟩

/-- An update of the row with a key, in a table with unique keys and in a dictionary that is related
to it row by row. -/
theorem update_twin [DecidableEq κ'] {k : κ} {selected : α → Bool} {set : α → α} {keeps : β → Bool}
    {update : β → β} (hkey : ∀ a b, R a b → key' b = f (key a)) (hf : Function.Injective f)
    (hnodup : (rows.map key).Nodup) (h : List.Forall₂ R rows rows')
    (hselected : ∀ a, selected a = true → key a = k)
    (hkeeps : ∀ a ∈ rows, ∀ b, R a b → key a = k → selected a = keeps b)
    (hset : ∀ a ∈ rows, ∀ b, R a b → selected a = true → R (set a) (update b))
    (hupdate : ∀ b, key' (update b) = key' b) :
    List.Forall₂ R (updated selected set rows) (modify key' (f k) keeps update rows').1 ∧
      Option.Rel R (written selected set rows).head? (modify key' (f k) keeps update rows').2 := by
  have hnot : ∀ {as : List α} {bs : List β}, List.Forall₂ R as bs → k ∉ as.map key →
      f k ∉ bs.map key' := by
    intro as bs hrows hk
    rw [map_key_of_forall₂ hkey hrows, List.mem_map_of_injective hf]
    exact hk
  by_cases hk : k ∈ rows.map key
  · obtain ⟨xs, a, ys, rfl, ha, hxs, hys⟩ := split_of_mem hnodup hk
    obtain ⟨xs', b, ys', rfl, hRxs, hab, hRys⟩ := forall₂_split h
    have hmem : a ∈ xs ++ a :: ys := List.mem_append_right _ List.mem_cons_self
    have hb : key' b = f k := by rw [hkey a b hab, ha]
    obtain ⟨hupdated, hwritten⟩ := updated_split (r := a) set hselected hxs hys
    rw [hupdated, hwritten, modify, get_split hb (hnot hRxs hxs)]
    dsimp only
    rw [← hkeeps a hmem b hab ha]
    by_cases hsel : selected a = true
    · have hab' := hset a hmem b hab hsel
      have hput : put key' (update b) (xs' ++ b :: ys') = xs' ++ update b :: ys' := by
        refine put_split (hupdate b).symm ?_ ?_
        · rw [hupdate, hb]
          exact hnot hRxs hxs
        · rw [hupdate, hb]
          exact hnot hRys hys
      simp only [if_pos hsel, hput, List.head?_cons]
      exact ⟨List.rel_append hRxs (.cons hab' hRys), .some hab'⟩
    · simp only [if_neg hsel, List.head?_nil]
      exact ⟨List.rel_append hRxs (.cons hab hRys), .none⟩
  · obtain ⟨hupdated, hwritten⟩ := updated_of_not_mem set hselected hk
    rw [hupdated, hwritten, modify, get_eq_none.2 (hnot h hk)]
    exact ⟨h, .none⟩

end Twins

end Table
