import Mathlib.Algebra.Order.Group.Nat
import Mathlib.Data.List.AList

/-!
# Dictionaries

A dictionary is an association list with unique keys.  `total` adds up a measure of its values: this
file says what storing and deleting one entry does to it, and what `filter` keeps.
-/

/-- A dictionary from keys to values of one type. -/
def Dict (κ α : Type) := AList fun _ : κ => α

namespace Dict

variable {κ α : Type}

instance : EmptyCollection (Dict κ α) := ⟨(∅ : AList _)⟩

/-- The sum of a measure of the values. -/
def total (f : α → ℕ) (d : Dict κ α) : ℕ := d.entries.foldr (fun e n => f e.2 + n) 0

/-- The number of entries. -/
def size (d : Dict κ α) : ℕ := d.entries.length

/-- The values, in some order. -/
def values (d : Dict κ α) : List α := d.entries.map Sigma.snd

/-- The entries whose value is as `p` asks. -/
def filter (p : α → Bool) (d : Dict κ α) : Dict κ α where
  entries := d.entries.filter fun e => p e.2
  nodupKeys := d.nodupKeys.sublist List.filter_sublist

section Operations

variable [DecidableEq κ] (d : Dict κ α) (k : κ)

def get : Option α := AList.lookup k d

def set (v : α) : Dict κ α := AList.insert k v d

def del : Dict κ α := AList.erase k d

/-- A measure of the value of a key, and `missing` where the key has none. -/
def valueAt (f : α → ℕ) (missing : ℕ) : ℕ := (d.get k).elim missing f

end Operations

@[simp] theorem total_empty (f : α → ℕ) : total f (∅ : Dict κ α) = 0 := rfl

@[simp] theorem size_empty : size (∅ : Dict κ α) = 0 := rfl

theorem size_eq_total (d : Dict κ α) : d.size = d.total fun _ => 1 := by
  rw [size, total]
  induction d.entries with
  | nil => rfl
  | cons e entries ih => rw [List.length_cons, List.foldr_cons, ih, Nat.add_comm]

variable {d : Dict κ α} {f : α → ℕ} {p : α → Bool}

/-- The rest of a sum comes last. -/
theorem foldr_add (entries : List (Sigma fun _ : κ => α)) (n : ℕ) :
    entries.foldr (fun e n => f e.2 + n) n = entries.foldr (fun e n => f e.2 + n) 0 + n := by
  induction entries with
  | nil => exact (Nat.zero_add n).symm
  | cons e entries ih => rw [List.foldr_cons, List.foldr_cons, ih, Nat.add_assoc]

theorem total_filter_le : (d.filter p).total f ≤ d.total f := by
  unfold total filter
  dsimp only
  induction d.entries with
  | nil => exact le_refl _
  | cons e entries ih =>
    rw [List.filter_cons]
    split_ifs
    · exact Nat.add_le_add_left ih _
    · exact ih.trans (Nat.le_add_left _ _)

theorem countP_values : d.values.countP p = d.total fun v => (p v).toNat := by
  rw [values, total]
  induction d.entries with
  | nil => rfl
  | cons e entries ih =>
    rw [List.map_cons, List.foldr_cons, ← ih, List.countP_cons]
    cases p e.2 <;> simp [Nat.add_comm]

variable [DecidableEq κ] {k k' : κ} {v : α}

@[simp] theorem get_empty : (∅ : Dict κ α).get k = none := rfl

@[simp] theorem get_set : (d.set k v).get k = some v := AList.lookup_insert d

theorem get_set_ne (h : k ≠ k') : (d.set k' v).get k = d.get k := AList.lookup_insert_ne h

@[simp] theorem get_del : (d.del k).get k = none := AList.lookup_erase k d

theorem get_del_ne (h : k ≠ k') : (d.del k').get k = d.get k := AList.lookup_erase_ne h

section ValueAt

variable {m : ℕ}

@[simp] theorem valueAt_empty : (∅ : Dict κ α).valueAt k f m = m := rfl

theorem valueAt_of_get (h : d.get k = some v) : d.valueAt k f m = f v := by
  rw [valueAt, h, Option.elim_some]

theorem valueAt_of_get_none (h : d.get k = none) : d.valueAt k f m = m := by
  rw [valueAt, h, Option.elim_none]

theorem valueAt_set :
    (d.set k' v).valueAt k f m = if k = k' then f v else d.valueAt k f m := by
  split_ifs with h
  · rw [h, valueAt_of_get get_set]
  · rw [valueAt, get_set_ne h, valueAt]

theorem valueAt_del :
    (d.del k').valueAt k f m = if k = k' then m else d.valueAt k f m := by
  split_ifs with h
  · rw [h, valueAt_of_get_none get_del]
  · rw [valueAt, get_del_ne h, valueAt]

end ValueAt

theorem mem_entries : ⟨k, v⟩ ∈ d.entries ↔ d.get k = some v := AList.mem_lookup_iff.symm

theorem mem_values : v ∈ d.values ↔ ∃ k, d.get k = some v := by
  rw [values, List.mem_map]
  constructor
  · rintro ⟨⟨k, _⟩, hmem, rfl⟩
    exact ⟨k, mem_entries.1 hmem⟩
  · rintro ⟨k, hk⟩
    exact ⟨⟨k, v⟩, mem_entries.2 hk, rfl⟩

theorem get_filter : (d.filter p).get k = (d.get k).filter p := by
  apply Option.ext
  intro v
  rw [← mem_entries, filter, List.mem_filter, mem_entries, Option.filter_eq_some_iff]

theorem del_eq_self (h : d.get k = none) : d.del k = d :=
  AList.ext (List.kerase_of_notMem_keys (AList.lookup_eq_none.1 h))

theorem del_set : (d.set k v).del k = d.del k := by
  apply AList.ext
  exact List.kerase_cons_eq (s := (⟨k, v⟩ : Sigma fun _ : κ => α)) rfl

theorem set_set {v' : α} : (d.set k v').set k v = d.set k v := AList.insert_insert d

/-- An entry is counted in the total, beside the others. -/
theorem total_del (h : d.get k = some v) : (d.del k).total f + f v = d.total f := by
  have hmem : k ∈ d.entries.keys := AList.lookup_isSome.1 (Option.isSome_iff_exists.2 ⟨v, h⟩)
  obtain ⟨v', xs, ys, -, hentries, hdel⟩ := List.exists_of_kerase hmem
  have hv : v' = v := by
    have hget : d.get k = some v' := mem_entries.1 (by rw [hentries]; simp)
    exact Option.some.inj (hget.symm.trans h)
  subst hv
  have hsum : (d.del k).total f = (xs ++ ys).foldr (fun e n => f e.2 + n) 0 := by
    rw [← hdel]
    rfl
  rw [hsum, total, hentries, List.foldr_append, List.foldr_append, List.foldr_cons,
    foldr_add xs (ys.foldr _ 0), foldr_add xs (_ + _)]
  dsimp only
  omega

theorem total_del_get : (d.del k).total f + (d.get k).elim 0 f = d.total f := by
  cases h : d.get k with
  | none => rw [del_eq_self h, Option.elim_none, Nat.add_zero]
  | some v => exact total_del h

/-- Storing an entry replaces the measure of the one that had its key. -/
theorem total_set : (d.set k v).total f + (d.get k).elim 0 f = d.total f + f v := by
  have hset : (d.set k v).total f = f v + (d.del k).total f := rfl
  cases h : d.get k with
  | none =>
    rw [hset, del_eq_self h]
    show f v + d.total f = d.total f + f v
    omega
  | some v' =>
    have hdel := total_del (f := f) h
    rw [hset]
    show f v + (d.del k).total f + f v' = d.total f + f v
    omega

theorem le_total (h : d.get k = some v) : f v ≤ d.total f := by
  have hdel := total_del (f := f) h
  omega

theorem total_eq_zero : d.total f = 0 ↔ ∀ k v, d.get k = some v → f v = 0 := by
  have hentries : d.total f = 0 ↔ ∀ e ∈ d.entries, f e.2 = 0 := by
    rw [total]
    induction d.entries with
    | nil => simp
    | cons e entries ih =>
      rw [List.foldr_cons, Nat.add_eq_zero_iff, ih, List.forall_mem_cons]
  rw [hentries]
  constructor
  · intro h k v hget
    exact h ⟨k, v⟩ (mem_entries.2 hget)
  · rintro h ⟨k, v⟩ hmem
    exact h k v (mem_entries.1 hmem)

/-- A measure that only one entry has. -/
theorem total_eq_get (h : ∀ k' v, d.get k' = some v → k' ≠ k → f v = 0) :
    d.total f = (d.get k).elim 0 f := by
  have hrest : (d.del k).total f = 0 := by
    rw [total_eq_zero]
    intro k' v hget
    by_cases heq : k' = k
    · rw [heq, get_del] at hget
      cases hget
    · rw [get_del_ne heq] at hget
      exact h k' v hget heq
  cases hk : d.get k with
  | none =>
    rw [del_eq_self hk] at hrest
    exact hrest
  | some v =>
    rw [← total_del hk, hrest]
    exact Nat.zero_add _

end Dict
