import SelfRelay.Lib.SameRows

/-!
# Deleting in batches

`DELETE … WHERE ctid IN (SELECT … WHERE eligible ORDER BY age LIMIT limit)` deletes the oldest of
the eligible rows, no more than `limit`.  Which of the rows of one age are taken is not determined,
so the keys of the rows that are deleted are an argument, and a deletion is `none` where the query
can not have picked them.
-/

namespace Table

section Batches

variable {α κ : Type} [DecidableEq κ]

/-- The query may pick some rows and leave the rest. -/
def isBatch (eligible : α → Bool) (age : α → ℕ) (limit : ℕ) (picked rest : List α) : Bool :=
  picked.all eligible &&
  picked.length = min limit ((picked ++ rest).countP eligible) &&
  picked.all fun r => rest.all fun r' => !eligible r' || age r ≤ age r'

/-- Delete the rows with the keys, with their number. -/
def deleteBatch (key : α → κ) (eligible : α → Bool) (age : α → ℕ) (limit : ℕ) (keys : List κ)
    (rows : List α) : Option (List α × ℕ) :=
  let picked := rows.filter fun r => key r ∈ keys
  let rest := rows.filter fun r => key r ∉ keys
  if isBatch eligible age limit picked rest then some (rest, picked.length) else none

variable {key : α → κ} {eligible : α → Bool} {age : α → ℕ} {limit n : ℕ} {keys : List κ}
  {rows rows' : List α}

theorem deleteBatch_some (h : deleteBatch key eligible age limit keys rows = some (rows', n)) :
    rows' = rows.filter (fun r => key r ∉ keys) ∧ ∀ r ∈ rows, key r ∈ keys → eligible r = true := by
  obtain ⟨hbatch, heq⟩ := Option.ite_none_right_eq_some.1 h
  obtain ⟨rfl, -⟩ := Prod.mk.inj (Option.some.inj heq)
  refine ⟨rfl, fun r hr hkey => ?_⟩
  have hpicked := (Bool.and_eq_true_iff.1 (Bool.and_eq_true_iff.1 hbatch).1).1
  exact List.all_eq_true.1 hpicked r (List.mem_filter.2 ⟨hr, decide_eq_true hkey⟩)

/-- A batch of rows that do not matter. -/
theorem SameWhere.of_deleteBatch {p : α → Bool}
    (h : deleteBatch key eligible age limit keys rows = some (rows', n))
    (hp : ∀ r, eligible r = true → p r = false) : SameWhere p rows' rows := by
  obtain ⟨rfl, heligible⟩ := deleteBatch_some h
  refine .of_filter fun r hr hpr => decide_eq_true fun hkey => ?_
  exact Bool.false_ne_true ((hp r (heligible r hr hkey)).symm.trans hpr)

end Batches

end Table

namespace Dict

variable {κ α : Type} [DecidableEq κ]

/-- Delete the entries under the keys, with their number. -/
def deleteBatch (eligible : α → Bool) (age : α → ℕ) (limit : ℕ) (keys : List κ) (d : Dict κ α) :
    Option (Dict κ α × ℕ) :=
  let picked := d.keep fun k _ => k ∈ keys
  let rest := d.keep fun k _ => k ∉ keys
  if Table.isBatch eligible age limit picked.values rest.values then some (rest, picked.size)
  else none

variable {eligible : α → Bool} {age : α → ℕ} {limit n : ℕ} {keys : List κ} {d d' : Dict κ α}

theorem deleteBatch_some (h : deleteBatch eligible age limit keys d = some (d', n)) :
    d' = d.keep (fun k _ => k ∉ keys) ∧ ∀ k v, d.get k = some v → k ∈ keys → eligible v = true := by
  obtain ⟨hbatch, heq⟩ := Option.ite_none_right_eq_some.1 h
  obtain ⟨rfl, -⟩ := Prod.mk.inj (Option.some.inj heq)
  refine ⟨rfl, fun k v hv hkey => ?_⟩
  have hpicked := (Bool.and_eq_true_iff.1 (Bool.and_eq_true_iff.1 hbatch).1).1
  refine List.all_eq_true.1 hpicked v (List.mem_map.2 ⟨⟨k, v⟩, List.mem_filter.2 ⟨?_, ?_⟩, rfl⟩)
  · exact mem_entries.2 hv
  · exact decide_eq_true hkey

theorem SameWhere.of_deleteBatch {p : α → Bool}
    (h : deleteBatch eligible age limit keys d = some (d', n))
    (hp : ∀ v, eligible v = true → p v = false) : SameWhere p d' d := by
  obtain ⟨rfl, heligible⟩ := deleteBatch_some h
  refine .of_keep fun k v hv hpv => decide_eq_true fun hkey => ?_
  exact Bool.false_ne_true ((hp v (heligible k v (mem_entries.1 hv) hkey)).symm.trans hpv)

end Dict
