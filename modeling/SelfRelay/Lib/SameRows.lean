import SelfRelay.Lib.Dict
import SelfRelay.Lib.Table

/-!
# Tables that agree on some of their rows

`SameWhere p` says that two tables have the same rows among those that `p` holds of.  A statement
that only selects such rows has the same result on both (`SameWhere.find?`, `SameWhere.any`,
`SameWhere.update`), and one that brings no row back under `p` keeps the relation (`SameWhere.map`,
`SameWhere.set`).  What an insert compares with all rows is the same on both tables where it holds
of no row that only one of them has (`OneSided`).
-/

namespace Table

section Lists

variable {α : Type} {p q k : α → Bool} {xs ys zs : List α}

/-- The rows that `p` holds of are the same, in the same order. -/
def SameWhere (p : α → Bool) (xs ys : List α) : Prop := xs.filter p = ys.filter p

/-- The rows that only one table has are as `P` asks. -/
def OneSided (P : α → Prop) (xs ys : List α) : Prop :=
  (∀ x ∈ xs, x ∉ ys → P x) ∧ ∀ y ∈ ys, y ∉ xs → P y

instance [DecidableEq α] (P : α → Prop) [DecidablePred P] (xs ys : List α) :
    Decidable (OneSided P xs ys) :=
  inferInstanceAs (Decidable (_ ∧ _))

theorem filter_filter_of_imp (h : ∀ x ∈ xs, q x = true → p x = true) :
    (xs.filter p).filter q = xs.filter q := by
  rw [List.filter_filter]
  refine List.filter_congr fun x hx => ?_
  cases hq : q x with
  | false => rfl
  | true => rw [h x hx hq, Bool.and_self]

namespace SameWhere

theorem refl (p : α → Bool) (xs : List α) : SameWhere p xs xs := rfl

theorem symm (h : SameWhere p xs ys) : SameWhere p ys xs := Eq.symm h

theorem trans (h : SameWhere p xs ys) (h' : SameWhere p ys zs) : SameWhere p xs zs := Eq.trans h h'

/-- Fewer rows of the two tables matter. -/
theorem mono_of_mem (h : SameWhere p xs ys) (hx : ∀ x ∈ xs, q x = true → p x = true)
    (hy : ∀ y ∈ ys, q y = true → p y = true) : SameWhere q xs ys := by
  rw [SameWhere, ← filter_filter_of_imp hx, h, filter_filter_of_imp hy]

/-- Fewer rows matter. -/
theorem mono (h : SameWhere p xs ys) (hqp : ∀ x, q x = true → p x = true) : SameWhere q xs ys :=
  h.mono_of_mem (fun x _ => hqp x) fun y _ => hqp y

theorem append (h : SameWhere p xs ys) (zs : List α) : SameWhere p (xs ++ zs) (ys ++ zs) := by
  rw [SameWhere, List.filter_append, List.filter_append, h]

theorem cons (h : SameWhere p xs ys) (z : α) : SameWhere p (z :: xs) (z :: ys) := by
  rw [SameWhere, List.filter_cons, List.filter_cons, h]

/-- The rows are changed, and none comes back. -/
theorem map {f : α → α} (h : SameWhere p xs ys) (hf : ∀ x, p (f x) = true → p x = true) :
    SameWhere p (xs.map f) (ys.map f) := by
  have hback : ∀ zs : List α, (zs.map f).filter p = ((zs.filter p).map f).filter p := by
    intro zs
    rw [List.filter_map, List.filter_map, filter_filter_of_imp (q := p ∘ f) fun x _ => hf x]
  rw [SameWhere, hback xs, h, ← hback ys]

theorem filter (h : SameWhere p xs ys) (k : α → Bool) : SameWhere p (xs.filter k)
      (ys.filter k) := by
  have hswap : ∀ zs : List α, (zs.filter k).filter p = (zs.filter p).filter k := by
    intro zs
    rw [List.filter_filter, List.filter_filter]
    exact List.filter_congr fun x _ => Bool.and_comm _ _
  rw [SameWhere, hswap, h, ← hswap]

/-- Only rows that do not matter are deleted. -/
theorem of_filter (h : ∀ x ∈ xs, p x = true → k x = true) : SameWhere p (xs.filter k) xs :=
  filter_filter_of_imp h

theorem find? (h : SameWhere p xs ys) (hqp : ∀ x, q x = true → p x = true) :
    xs.find? q = ys.find? q := by
  rw [← List.head?_filter, h.mono hqp, List.head?_filter]

theorem any (h : SameWhere p xs ys) (hqp : ∀ x, q x = true → p x = true) : xs.any q = ys.any q := by
  have hany : ∀ zs : List α, zs.any q = !(zs.filter q).isEmpty := by
    intro zs
    rw [Bool.eq_iff_iff]
    simp [List.any_eq_true, List.filter_eq_nil_iff]
  rw [hany, hany, h.mono hqp]

theorem countP (h : SameWhere p xs ys) (hqp : ∀ x, q x = true → p x = true) :
    xs.countP q = ys.countP q := by
  rw [List.countP_eq_length_filter, List.countP_eq_length_filter, h.mono hqp]

/-- An update that selects rows that matter is rejected on both tables or on none, and returns the
same rows. -/
theorem update (check : α → Bool) {selected : α → Bool} (set : α → α) (h : SameWhere p xs ys)
    (hselected : ∀ x, selected x = true → p x = true) :
    (∃ e, Table.update check selected set xs = .error e ∧
      Table.update check selected set ys = .error e) ∨
      ∃ xs' ys' returned, Table.update check selected set xs = .ok (xs', returned) ∧
        Table.update check selected set ys = .ok (ys', returned) ∧ SameWhere p xs' ys' := by
  have hwritten : written selected set xs = written selected set ys :=
    congrArg (List.map set) (h.mono hselected)
  unfold Table.update
  rw [hwritten]
  split_ifs
  · refine .inr ⟨_, _, _, rfl, rfl, h.map fun x hx => ?_⟩
    split_ifs at hx with hsel
    · exact hselected x hsel
    · exact hx
  · exact .inl ⟨_, rfl, rfl⟩

end SameWhere

/-- A test that no row of only one table passes. -/
theorem OneSided.any (h : OneSided (fun x => q x = false) xs ys) : xs.any q = ys.any q := by
  have hside : ∀ {us vs : List α}, (∀ u ∈ us, u ∉ vs → q u = false) → us.any q = true →
      vs.any q = true := by
    intro us vs hus hany
    obtain ⟨u, hu, hq⟩ := List.any_eq_true.1 hany
    by_contra hvs
    have hmem : u ∉ vs := fun hmem => hvs (List.any_eq_true.2 ⟨u, hmem, hq⟩)
    exact Bool.false_ne_true ((hus u hu hmem).symm.trans hq)
  exact Bool.eq_iff_iff.2 ⟨hside h.1, hside h.2⟩

theorem OneSided.mono {P Q : α → Prop} (h : OneSided P xs ys) (hPQ : ∀ x, P x → Q x) :
    OneSided Q xs ys :=
  ⟨fun x hx hy => hPQ x (h.1 x hx hy), fun y hy hx => hPQ y (h.2 y hy hx)⟩

end Lists

end Table

namespace Dict

open Table

variable {κ α : Type} {p q : α → Bool} {d d' : Dict κ α}

/-- The entries whose values `p` holds of are the same. -/
def SameWhere (p : α → Bool) (d d' : Dict κ α) : Prop :=
  Table.SameWhere (fun e : Sigma fun _ : κ => α => p e.2) d.entries d'.entries

/-- The entries that only one dictionary has are as `P` asks. -/
def OneSided (P : κ → α → Prop) (d d' : Dict κ α) : Prop :=
  Table.OneSided (fun e : Sigma fun _ : κ => α => P e.1 e.2) d.entries d'.entries

instance [DecidableEq κ] [DecidableEq α] (P : κ → α → Prop) [∀ k v, Decidable (P k v)]
    (d d' : Dict κ α) : Decidable (OneSided P d d') :=
  inferInstanceAs (Decidable (Table.OneSided _ _ _))

/-- The entries as `keeps` asks. -/
def keep (keeps : κ → α → Bool) (d : Dict κ α) : Dict κ α where
  entries := d.entries.filter fun e => keeps e.1 e.2
  nodupKeys := d.nodupKeys.sublist List.filter_sublist

/-- A test of the values that no entry of only one dictionary passes. -/
theorem OneSided.any_values (h : OneSided (fun _ v => q v = false) d d') :
    d.values.any q = d'.values.any q := by
  unfold values
  rw [List.any_map, List.any_map]
  exact Table.OneSided.any h

theorem OneSided.mono {P Q : κ → α → Prop} (h : OneSided P d d') (hPQ : ∀ k v, P k v → Q k v) :
    OneSided Q d d' :=
  Table.OneSided.mono h fun e => hPQ e.1 e.2

theorem SameWhere.find? (h : SameWhere p d d') (hqp : ∀ v, q v = true → p v = true) :
    d.values.find? q = d'.values.find? q := by
  unfold values
  rw [List.find?_map, List.find?_map]
  have hfind :=
    Table.SameWhere.find? (q := fun e : Sigma fun _ : κ => α => q e.2) h fun e => hqp e.2
  exact congrArg _ hfind

theorem SameWhere.of_keep {keeps : κ → α → Bool}
    (h : ∀ k v, ⟨k, v⟩ ∈ d.entries → p v = true → keeps k v = true) :
    SameWhere p (d.keep keeps) d :=
  Table.SameWhere.of_filter fun e he hp => h e.1 e.2 he hp

variable [DecidableEq κ] {k : κ} {v : α}

theorem get_keep {keeps : κ → α → Bool} (h : (d.keep keeps).get k = some v) :
    d.get k = some v ∧ keeps k v = true := by
  obtain ⟨hmem, hkeeps⟩ := List.mem_filter.1 (mem_entries.2 h)
  exact ⟨mem_entries.1 hmem, hkeeps⟩

theorem isSome_get : (d.get k).isSome = d.entries.any fun e => e.1 = k := by
  rw [Bool.eq_iff_iff, List.any_eq_true]
  constructor
  · intro h
    obtain ⟨v, hv⟩ := Option.isSome_iff_exists.1 h
    exact ⟨⟨k, v⟩, mem_entries.2 hv, decide_eq_true rfl⟩
  · rintro ⟨⟨k', v⟩, he, hk⟩
    obtain rfl : k' = k := of_decide_eq_true hk
    exact Option.isSome_iff_exists.2 ⟨v, mem_entries.1 he⟩

/-- A key that only one dictionary has is another one. -/
theorem OneSided.isSome_get (h : OneSided (fun k' _ => k' ≠ k) d d') :
    (d.get k).isSome = (d'.get k).isSome := by
  rw [Dict.isSome_get, Dict.isSome_get]
  exact Table.OneSided.any (Table.OneSided.mono h fun e he => decide_eq_false he)

theorem SameWhere.get (h : SameWhere p d d') (k : κ) :
    (d.get k).filter p = (d'.get k).filter p := by
  have heq : d.filter p = d'.filter p := AList.ext h
  rw [← get_filter, heq, get_filter]

/-- The entry under a key matters in both dictionaries, or in none. -/
theorem SameWhere.get_cases (h : SameWhere p d d') (k : κ) :
    (∃ v, d.get k = some v ∧ d'.get k = some v ∧ p v = true) ∨
      (∀ v, d.get k = some v → p v = false) ∧ ∀ v, d'.get k = some v → p v = false := by
  have hget := h.get k
  cases hfilter : (d.get k).filter p with
  | some v =>
    obtain ⟨hd, hp⟩ := Option.filter_eq_some_iff.1 hfilter
    exact .inl ⟨v, hd, (Option.filter_eq_some_iff.1 (hget.symm.trans hfilter)).1, hp⟩
  | none =>
    have hnone : ∀ {o : Option α}, o.filter p = none → ∀ v, o = some v → p v = false := by
      rintro o ho v rfl
      simpa using Option.filter_eq_none_iff.1 ho v rfl
    exact .inr ⟨hnone hfilter, hnone (hget.symm.trans hfilter)⟩

theorem entries_del : (d.del k).entries = d.entries.filter fun e => e.1 ≠ k := by
  have hdel : ∀ entries : List (Sigma fun _ : κ => α), entries.NodupKeys →
      entries.kerase k = entries.filter fun e => e.1 ≠ k := by
    intro entries hnodup
    induction entries with
    | nil => rfl
    | cons e entries ih =>
      obtain ⟨hnot, hnodup⟩ := List.nodupKeys_cons.1 hnodup
      by_cases hk : k = e.1
      · rw [List.kerase_cons_eq hk, List.filter_cons_of_neg (by simp [hk])]
        refine (List.filter_eq_self.2 fun e' he' => decide_eq_true ?_).symm
        rintro rfl
        exact hnot (hk ▸ List.mem_keys_of_mem he')
      · rw [List.kerase_cons_ne hk, List.filter_cons_of_pos (by simpa using Ne.symm hk), ih hnodup]
  exact hdel d.entries d.nodupKeys

theorem SameWhere.del (h : SameWhere p d d') (k : κ) : SameWhere p (d.del k) (d'.del k) := by
  rw [SameWhere, entries_del, entries_del]
  exact Table.SameWhere.filter h _

theorem SameWhere.set (h : SameWhere p d d') (k : κ) (v : α) :
    SameWhere p (d.set k v) (d'.set k v) :=
  Table.SameWhere.cons (h.del k) ⟨k, v⟩

/-- An entry that does not matter is replaced by another one. -/
theorem SameWhere.set_of_not (hv : p v = false) (hold : ∀ v', d.get k = some v' → p v' = false) :
    SameWhere p (d.set k v) d := by
  have hdel : SameWhere p (d.del k) d := by
    rw [SameWhere, entries_del]
    refine Table.SameWhere.of_filter fun e he hp => decide_eq_true ?_
    rintro rfl
    exact Bool.false_ne_true ((hold e.2 (mem_entries.1 he)).symm.trans hp)
  refine Eq.trans ?_ hdel
  exact List.filter_cons_of_neg (Bool.eq_false_iff.1 hv)

end Dict
