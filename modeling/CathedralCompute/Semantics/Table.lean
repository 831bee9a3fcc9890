import Mathlib.Data.List.Nodup
import Mathlib.Data.List.Basic

/-!
# Tables with a primary key

A table is a list of rows whose keys are pairwise distinct. The distinctness is
a field of the structure, so no operation can build a table that violates its
primary key, and a lookup by key needs no side condition to be a membership
statement.

## Main definitions

* `Table key` — rows with distinct values of `key`
* `Table.find?`, `Table.select` — the row of a key, the rows meeting a condition
* `Table.insert` — append a row, or fail when its key is taken
* `Table.update`, `Table.delete` — rewrite or drop the rows meeting a condition

## Main results

* `find?_eq_some` — a lookup finds exactly the row with the key
* `exists_of_mem_update`, `mem_insert`, `mem_delete` — the rows after each operation
* `select_update`, `select_insert`, `select_delete` — the frame rules: rows
  outside the condition are untouched, as a list and not only as a set
* `insert_delete`, `delete_update`, `delete_comm` — deletions change places with what they
  do not concern
-/

set_option autoImplicit false

namespace Semantics

/-- Rows with pairwise distinct keys, in insertion order. -/
@[ext] structure Table {ρ κ : Type} (key : ρ → κ) where
  /-- The rows, oldest first. -/
  rows : List ρ
  /-- The primary key. -/
  unique : (rows.map key).Nodup

namespace Table

variable {ρ κ : Type} {key : ρ → κ}

/-- A table without rows. -/
def empty : Table key := ⟨[], List.nodup_nil⟩

@[simp] theorem rows_empty : (empty : Table key).rows = [] := rfl

/-! ## Reading -/

/-- The rows that meet a condition. -/
def select (t : Table key) (p : ρ → Prop) [DecidablePred p] : List ρ :=
  t.rows.filter (fun row => p row)

@[simp] theorem mem_select {t : Table key} {p : ρ → Prop} [DecidablePred p] {row : ρ} :
    row ∈ t.select p ↔ row ∈ t.rows ∧ p row := by
  simp [select]

/-- Two rows with the same key are the same row. -/
theorem eq_of_key {t : Table key} {row row' : ρ} (h : row ∈ t.rows) (h' : row' ∈ t.rows)
    (same : key row = key row') : row = row' :=
  List.inj_on_of_nodup_map t.unique h h' same

section Lookup

variable [DecidableEq κ]

/-- The row of a key. -/
def find? (t : Table key) (k : κ) : Option ρ :=
  t.rows.find? (fun row => key row = k)

/-- A lookup finds exactly the row with the key. -/
theorem find?_eq_some {t : Table key} {k : κ} {row : ρ} :
    t.find? k = some row ↔ row ∈ t.rows ∧ key row = k := by
  constructor
  · intro h
    exact ⟨List.mem_of_find?_eq_some h, by simpa using List.find?_some h⟩
  · rintro ⟨member, keyed⟩
    cases found : t.find? k with
    | none =>
      have absent := List.find?_eq_none.mp found row member
      simp [keyed] at absent
    | some other =>
      have member' := List.mem_of_find?_eq_some found
      have keyed' : key other = k := by simpa using List.find?_some found
      rw [eq_of_key member' member (keyed'.trans keyed.symm)]

theorem find?_eq_none {t : Table key} {k : κ} :
    t.find? k = none ↔ ∀ row ∈ t.rows, key row ≠ k := by
  simp [find?, List.find?_eq_none]

end Lookup

/-! ## Writing -/

/-- Append a row; `none` when its key is taken. -/
def insert [DecidableEq κ] (t : Table key) (row : ρ) : Option (Table key) :=
  if taken : key row ∈ t.rows.map key then none
  else some ⟨t.rows ++ [row], by
    rw [List.map_append, List.map_singleton]
    exact List.nodup_append.mpr
      ⟨t.unique, List.nodup_singleton _, by
        intro k member k' member' same
        rw [List.mem_singleton.mp member'] at same
        exact taken (same ▸ member)⟩⟩

/-- Rewrite the rows that meet a condition, keeping their keys. -/
def update (t : Table key) (p : ρ → Prop) [DecidablePred p] (f : ρ → ρ)
    (keeps : ∀ row, key (f row) = key row := by exact fun _ => rfl) : Table key :=
  ⟨t.rows.map (fun row => if p row then f row else row), by
    have keys : (t.rows.map fun row => if p row then f row else row).map key =
        t.rows.map key := by
      rw [List.map_map]
      refine List.map_congr_left fun row _ => ?_
      by_cases h : p row <;> simp [h, keeps]
    rw [keys]
    exact t.unique⟩

/-- Drop the rows that meet a condition. -/
def delete (t : Table key) (p : ρ → Prop) [DecidablePred p] : Table key :=
  ⟨t.rows.filter (fun row => ¬ p row), t.unique.sublist (List.filter_sublist.map key)⟩

section Insert

variable [DecidableEq κ] {t t' : Table key} {row : ρ}

theorem insert_eq_some :
    t.insert row = some t' ↔ (∀ old ∈ t.rows, key old ≠ key row) ∧ t'.rows = t.rows ++ [row] := by
  unfold insert
  split
  case isTrue taken =>
    obtain ⟨old, member, same⟩ := List.mem_map.mp taken
    exact ⟨fun h => (nomatch h), fun ⟨fresh, _⟩ => absurd same (fresh old member)⟩
  case isFalse fresh =>
    constructor
    · rintro ⟨⟩
      exact ⟨fun old member same => fresh (List.mem_map.mpr ⟨old, member, same⟩), rfl⟩
    · rintro ⟨_, rows⟩
      exact congrArg some (Table.ext rows.symm)

/-- A row with a new key is inserted. -/
theorem exists_insert (fresh : ∀ old ∈ t.rows, key old ≠ key row) :
    ∃ t', t.insert row = some t' := by
  refine ⟨_, dif_neg fun taken => ?_⟩
  obtain ⟨old, member, same⟩ := List.mem_map.mp taken
  exact fresh old member same

theorem rows_of_insert (h : t.insert row = some t') : t'.rows = t.rows ++ [row] :=
  (insert_eq_some.mp h).2

theorem mem_insert (h : t.insert row = some t') {x : ρ} :
    x ∈ t'.rows ↔ x ∈ t.rows ∨ x = row := by
  simp [rows_of_insert h]

/-- Frame rule: inserting a row the condition excludes leaves the selection. -/
theorem select_insert (h : t.insert row = some t') {p : ρ → Prop} [DecidablePred p]
    (outside : ¬ p row) : t'.select p = t.select p := by
  simp [select, rows_of_insert h, outside]

/-- The row of a key after an insertion. -/
theorem find?_insert (h : t.insert row = some t') (k : κ) :
    t'.find? k = if key row = k then some row else t.find? k := by
  obtain ⟨fresh, rows⟩ := insert_eq_some.mp h
  unfold find?
  rw [rows, List.find?_append]
  by_cases same : key row = k
  · have absent : t.rows.find? (fun old => key old = k) = none := by
      rw [List.find?_eq_none]
      intro old member
      simpa [← same] using fresh old member
    rw [absent, if_pos same]
    simp [same]
  · rw [if_neg same]
    simp [same]

end Insert

section Update

variable {t : Table key} {p q : ρ → Prop} [DecidablePred p] [DecidablePred q] {f : ρ → ρ}

theorem rows_update (keeps : ∀ row, key (f row) = key row) :
    (t.update p f keeps).rows = t.rows.map (fun row => if p row then f row else row) := rfl

/-- An update that keeps a property of each row keeps the list of properties. -/
theorem map_rows_update {γ : Type} {g : ρ → γ} (keeps : ∀ row, g (f row) = g row) :
    (t.rows.map fun row => if p row then f row else row).map g = t.rows.map g := by
  rw [List.map_map]
  refine List.map_congr_left fun row _ => ?_
  by_cases h : p row <;> simp [h, keeps]

/-- Where a row of an updated table comes from. The rows are written out as
`rows_update` gives them, so that the proof that keys are kept need not be found. -/
theorem exists_of_mem_update {x : ρ}
    (member : x ∈ t.rows.map fun row => if p row then f row else row) :
    ∃ row ∈ t.rows, x = if p row then f row else row := by
  obtain ⟨row, old, rfl⟩ := List.mem_map.mp member
  exact ⟨row, old, rfl⟩

/-- A row the update misses is still there. -/
theorem mem_update_of_not {row : ρ} (member : row ∈ t.rows) (h : ¬ p row)
    (keeps : ∀ row, key (f row) = key row := by exact fun _ => rfl) :
    row ∈ (t.update p f keeps).rows :=
  List.mem_map.mpr ⟨row, member, if_neg h⟩

/-- The rewritten form of a row the update meets. -/
theorem mem_update_of {row : ρ} (member : row ∈ t.rows) (h : p row)
    (keeps : ∀ row, key (f row) = key row := by exact fun _ => rfl) :
    f row ∈ (t.update p f keeps).rows :=
  List.mem_map.mpr ⟨row, member, if_pos h⟩

/-- Frame rule: an update whose rows stay outside the selection leaves it. -/
theorem select_update (outside : ∀ row ∈ t.rows, p row → ¬ q row ∧ ¬ q (f row))
    (keeps : ∀ row, key (f row) = key row := by exact fun _ => rfl) :
    (t.update p f keeps).select q = t.select q := by
  unfold select
  rw [rows_update, List.filter_map]
  have same : t.rows.filter ((fun row => decide (q row)) ∘ fun row => if p row then f row else row)
      = t.rows.filter (fun row => q row) := by
    refine List.filter_congr fun row member => ?_
    by_cases h : p row
    · simp [h, outside row member h]
    · simp [h]
  rw [same]
  refine (List.map_congr_left fun row member => ?_).trans (List.map_id _)
  obtain ⟨member, selected⟩ := List.mem_filter.mp member
  have untouched : ¬ p row := fun h => (outside row member h).1 (by simpa using selected)
  simp [untouched]

/-- An update that no row meets changes nothing. -/
theorem update_of_not (h : ∀ row ∈ t.rows, ¬ p row)
    (keeps : ∀ row, key (f row) = key row := by exact fun _ => rfl) : t.update p f keeps = t := by
  refine Table.ext ?_
  rw [rows_update]
  refine (List.map_congr_left fun row member => ?_).trans (List.map_id _)
  simp [h row member]

/-- The row of a key after an update. -/
theorem find?_update [DecidableEq κ] (k : κ)
    (keeps : ∀ row, key (f row) = key row := by exact fun _ => rfl) :
    (t.update p f keeps).find? k = (t.find? k).map fun row => if p row then f row else row := by
  unfold find?
  rw [rows_update, List.find?_map]
  have same : (fun row => decide (key row = k)) ∘ (fun row => if p row then f row else row) =
      fun row => decide (key row = k) := by
    funext row
    by_cases h : p row <;> simp [h, keeps]
  rw [same]

end Update

section Delete

variable {t : Table key} {p q : ρ → Prop} [DecidablePred p] [DecidablePred q]

theorem mem_delete {x : ρ} : x ∈ (t.delete p).rows ↔ x ∈ t.rows ∧ ¬ p x := by
  simp [delete]

/-- The row of a key after a deletion. -/
theorem find?_delete [DecidableEq κ] (k : κ) :
    (t.delete p).find? k = (t.find? k).filter fun row => ¬ p row := by
  cases found : (t.delete p).find? k with
  | some row =>
    obtain ⟨member, keyed⟩ := find?_eq_some.mp found
    obtain ⟨member, kept⟩ := mem_delete.mp member
    rw [find?_eq_some.mpr ⟨member, keyed⟩]
    simp [Option.filter, kept]
  | none =>
    have absent := find?_eq_none.mp found
    cases old : t.find? k with
    | none => rfl
    | some row =>
      obtain ⟨member, keyed⟩ := find?_eq_some.mp old
      have dropped : p row := by
        by_contra kept
        exact absent row (mem_delete.mpr ⟨member, kept⟩) keyed
      simp [Option.filter, dropped]

/-- Frame rule: deleting rows outside the selection leaves it. -/
theorem select_delete (outside : ∀ row ∈ t.rows, p row → ¬ q row) :
    (t.delete p).select q = t.select q := by
  unfold select delete
  rw [List.filter_filter]
  refine List.filter_congr fun row member => ?_
  by_cases h : p row
  · simp [h, outside row member h]
  · simp [h]

theorem delete_of_not (h : ∀ row ∈ t.rows, ¬ p row) : t.delete p = t :=
  Table.ext (List.filter_eq_self.mpr fun row member => by simpa using h row member)

/-- Two deletions change places. -/
theorem delete_comm : (t.delete p).delete q = (t.delete q).delete p := by
  refine Table.ext ?_
  unfold delete
  dsimp only
  rw [List.filter_filter, List.filter_filter]
  exact List.filter_congr fun row _ => Bool.and_comm _ _

/-- An insertion outside of the condition and a deletion change places. -/
theorem insert_delete [DecidableEq κ] {t' : Table key} {row : ρ} (h : t.insert row = some t')
    (outside : ¬ p row) : (t.delete p).insert row = some (t'.delete p) := by
  obtain ⟨fresh, rows⟩ := insert_eq_some.mp h
  refine insert_eq_some.mpr ⟨fun old member => fresh old (mem_delete.mp member).1, ?_⟩
  simp [delete, rows, outside]

/-- A row of the condition that is inserted and deleted leaves nothing. -/
theorem delete_of_insert [DecidableEq κ] {t' : Table key} {row : ρ} (h : t.insert row = some t')
    (inside : p row) : t'.delete p = t.delete p :=
  Table.ext (by simp [delete, rows_of_insert h, inside])

/-- An update outside of the condition and a deletion change places. -/
theorem delete_update {f : ρ → ρ} (outside : ∀ row ∈ t.rows, q row → ¬ p row ∧ ¬ p (f row))
    (keeps : ∀ row, key (f row) = key row := by exact fun _ => rfl) :
    (t.update q f keeps).delete p = (t.delete p).update q f keeps := by
  refine Table.ext ?_
  rw [rows_update]
  unfold delete
  dsimp only
  rw [rows_update, List.filter_map]
  refine congrArg _ (List.filter_congr fun row member => ?_)
  by_cases h : q row
  · simp [h, outside row member h]
  · simp [h]

end Delete

end Table

end Semantics
