import Mathlib.Data.List.Basic

/-!
# Column names in SQL queries

How PostgreSQL finds the column that a reference means.  A qualified reference names its `FROM`
item. A plain one means the column of that name in the `FROM` items: when none of them has it, or
more than one (`resolve_plain_of_two`), the query is rejected before it reads a row.
-/

namespace Sql

/-- A table of a `FROM` clause, under its alias. -/
structure FromItem where
  name : String
  columns : List String
  deriving DecidableEq, Repr

inductive ColumnRef where
  | plain (column : String)
  | qualified (name column : String)
  deriving DecidableEq, Repr

inductive NameError where
  | ambiguous (column : String)
  | undefined (column : String)
  deriving DecidableEq, Repr

/-- The `FROM` items that a reference can mean. -/
def candidates (items : List FromItem) : ColumnRef → List FromItem
  | .plain column => items.filter fun item => item.columns.contains column
  | .qualified name column =>
    items.filter fun item => item.name = name && item.columns.contains column

def ColumnRef.column : ColumnRef → String
  | plain column => column
  | qualified _ column => column

/-- The alias of the item that has the column. -/
def resolve (items : List FromItem) (ref : ColumnRef) : Except NameError String :=
  match candidates items ref with
  | [] => .error (.undefined ref.column)
  | [item] => .ok item.name
  | _ :: _ :: _ => .error (.ambiguous ref.column)

/-- A query, as far as its names go: its tables, and its references in
the order of their analysis. -/
structure Query where
  items : List FromItem
  references : List ColumnRef
  deriving DecidableEq, Repr

/-- The analysis of a query stops at the first reference that does not resolve. -/
def Query.check (query : Query) : Except NameError Unit :=
  query.references.forM fun ref => (fun _ => ()) <$> resolve query.items ref

variable {items : List FromItem}

/-- A plain reference to a column that two tables have is ambiguous. -/
theorem resolve_plain_of_two {a b : FromItem} {column : String} (h : [a, b].Sublist items)
    (ha : column ∈ a.columns) (hb : column ∈ b.columns) :
    resolve items (.plain column) = .error (.ambiguous column) := by
  have hsub : [a, b].Sublist (candidates items (.plain column)) := by
    have hfilter := h.filter fun item => item.columns.contains column
    rwa [List.filter_eq_self.2 (by simp [ha, hb])] at hfilter
  have hlength : 2 ≤ (candidates items (.plain column)).length := hsub.length_le
  unfold resolve
  split
  case h_1 hnil =>
    rw [hnil] at hlength
    cases hlength
  case h_2 item hone =>
    rw [hone, List.length_singleton] at hlength
    exact absurd hlength (by decide)
  case h_3 => rfl

/-- A query whose references resolve up to one that does not. -/
theorem Query.check_eq_error {query : Query} (before : List ColumnRef) {after : List ColumnRef}
    {ref : ColumnRef} {error : NameError} (hrefs : query.references = before ++ ref :: after)
    (hbefore : ∀ r ∈ before, ∃ name, resolve query.items r = .ok name)
    (href : resolve query.items ref = .error error) : query.check = .error error := by
  rw [Query.check, hrefs]
  clear hrefs
  induction before with
  | nil =>
    rw [List.nil_append, List.forM_eq_forM, List.forM_cons, href]
    rfl
  | cons r before ih =>
    obtain ⟨name, hr⟩ := hbefore r List.mem_cons_self
    rw [List.cons_append, List.forM_eq_forM, List.forM_cons, hr]
    exact ih fun r hr => hbefore r (List.mem_cons_of_mem _ hr)

end Sql
