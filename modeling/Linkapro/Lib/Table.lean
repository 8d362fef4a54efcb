import Mathlib.Data.List.Nodup
import Mathlib.Tactic.Common

/-!
# Tables with a unique key

A table is a list of rows in which no two rows share their key. Writing a row
replaces the row of its key, or adds it. The lemmas give what a lookup and a
scan find after a write.
-/

namespace Lib

/-- The rows of a table whose column `key` is unique. -/
structure Table {ρ κ : Type} (key : ρ → κ) where
  /-- The rows, oldest first. -/
  rows : List ρ
  /-- No two rows share their key. -/
  nodup : (rows.map key).Nodup

namespace Table

variable {ρ κ : Type} {key : ρ → κ} [DecidableEq κ] {table : Table key} {row row' : ρ} {k : κ}

/-- The table without rows. -/
def empty : Table key := ⟨[], List.nodup_nil⟩

/-- The row stored under a key. -/
def lookup (table : Table key) (k : κ) : Option ρ :=
  table.rows.find? fun row => key row = k

/-- The rows after `row` has replaced the row of its key, or has been added. -/
def upsertRows (key : ρ → κ) (row : ρ) : List ρ → List ρ
  | [] => [row]
  | first :: rows => if key first = key row then row :: rows else first :: upsertRows key row rows

theorem map_key_upsertRows (row : ρ) (rows : List ρ) :
    (upsertRows key row rows).map key =
      if key row ∈ rows.map key then rows.map key else rows.map key ++ [key row] := by
  induction rows with
  | nil => rfl
  | cons first rows ih =>
    by_cases hfirst : key first = key row
    · simp [upsertRows, hfirst]
    · have hne : ¬ key row = key first := fun h => hfirst h.symm
      simp only [upsertRows, if_neg hfirst, List.map_cons, ih, List.mem_cons, hne, false_or]
      split
      · rfl
      · rfl

/-- Write a row under its key. -/
def upsert (table : Table key) (row : ρ) : Table key where
  rows := upsertRows key row table.rows
  nodup := by
    rw [map_key_upsertRows]
    split
    · exact table.nodup
    · next h =>
      rw [List.nodup_append]
      refine ⟨table.nodup, List.nodup_singleton _, ?_⟩
      intro k hk k' hk' heq
      rw [List.mem_singleton] at hk'
      exact h (hk' ▸ heq ▸ hk)

/-- Keep the rows that satisfy a condition. -/
def filter (table : Table key) (p : ρ → Bool) : Table key where
  rows := table.rows.filter p
  nodup := table.nodup.sublist (List.filter_sublist.map key)

/-- The stored rows are exactly the rows that a lookup finds. -/
theorem lookup_eq_some_iff : table.lookup k = some row ↔ row ∈ table.rows ∧ key row = k := by
  obtain ⟨rows, hnodup⟩ := table
  unfold lookup
  induction rows with
  | nil => simp
  | cons first rows ih =>
    rw [List.map_cons, List.nodup_cons] at hnodup
    by_cases hfirst : key first = k
    · rw [List.find?_cons_of_pos (by simpa using hfirst)]
      simp only [Option.some.injEq, List.mem_cons]
      constructor
      · rintro rfl
        exact ⟨Or.inl rfl, hfirst⟩
      · rintro ⟨rfl | hmem, hkey⟩
        · rfl
        · exact absurd (List.mem_map.mpr ⟨row, hmem, hkey.trans hfirst.symm⟩) hnodup.1
    · rw [List.find?_cons_of_neg (by simpa using hfirst), ih hnodup.2]
      simp only [List.mem_cons]
      constructor
      · rintro ⟨hmem, hkey⟩
        exact ⟨Or.inr hmem, hkey⟩
      · rintro ⟨rfl | hmem, hkey⟩
        · exact absurd hkey hfirst
        · exact ⟨hmem, hkey⟩

/-- A found row carries the key it was looked up by. -/
theorem key_of_lookup (h : table.lookup k = some row) : key row = k :=
  (lookup_eq_some_iff.mp h).2

/-- A found row is stored. -/
theorem mem_of_lookup (h : table.lookup k = some row) : row ∈ table.rows :=
  (lookup_eq_some_iff.mp h).1

/-- Every stored row is found under its key. -/
theorem lookup_of_mem (h : row ∈ table.rows) : table.lookup (key row) = some row :=
  lookup_eq_some_iff.mpr ⟨h, rfl⟩

private theorem mem_upsertRows_iff {rows : List ρ} (hnodup : (rows.map key).Nodup) :
    row' ∈ upsertRows key row rows ↔ row' = row ∨ (row' ∈ rows ∧ key row' ≠ key row) := by
  induction rows with
  | nil => simp [upsertRows]
  | cons first rows ih =>
    rw [List.map_cons, List.nodup_cons] at hnodup
    by_cases hfirst : key first = key row
    · have hrest : ∀ row' ∈ rows, key row' ≠ key row := fun row' hmem hkey =>
        hnodup.1 (List.mem_map.mpr ⟨row', hmem, hkey.trans hfirst.symm⟩)
      simp only [upsertRows, if_pos hfirst, List.mem_cons]
      constructor
      · rintro (rfl | hmem)
        · exact Or.inl rfl
        · exact Or.inr ⟨Or.inr hmem, hrest _ hmem⟩
      · rintro (rfl | ⟨rfl | hmem, hkey⟩)
        · exact Or.inl rfl
        · exact absurd hfirst hkey
        · exact Or.inr hmem
    · simp only [upsertRows, if_neg hfirst, List.mem_cons, ih hnodup.2]
      constructor
      · rintro (rfl | rfl | ⟨hmem, hkey⟩)
        · exact Or.inr ⟨Or.inl rfl, hfirst⟩
        · exact Or.inl rfl
        · exact Or.inr ⟨Or.inr hmem, hkey⟩
      · rintro (rfl | ⟨rfl | hmem, hkey⟩)
        · exact Or.inr (Or.inl rfl)
        · exact Or.inl rfl
        · exact Or.inr (Or.inr ⟨hmem, hkey⟩)

/-- After a write the table holds the written row and the rows of other keys. -/
theorem mem_upsert_iff :
    row' ∈ (table.upsert row).rows ↔ row' = row ∨ (row' ∈ table.rows ∧ key row' ≠ key row) :=
  mem_upsertRows_iff table.nodup

private theorem upsertRows_perm {rows : List ρ} (hnodup : (rows.map key).Nodup) :
    (upsertRows key row rows).Perm (row :: rows.filter fun other => key other ≠ key row) := by
  induction rows with
  | nil => exact List.Perm.refl _
  | cons first rows ih =>
    rw [List.map_cons, List.nodup_cons] at hnodup
    by_cases hfirst : key first = key row
    · have hrest : rows.filter (fun other => key other ≠ key row) = rows := by
        rw [List.filter_eq_self]
        intro other hmem
        have hne : key other ≠ key row := fun heq =>
          hnodup.1 (List.mem_map.mpr ⟨other, hmem, heq.trans hfirst.symm⟩)
        simpa using hne
      rw [upsertRows, if_pos hfirst, List.filter_cons_of_neg (by simpa using hfirst), hrest]
    · rw [upsertRows, if_neg hfirst, List.filter_cons_of_pos (by simpa using hfirst)]
      exact ((ih hnodup.2).cons first).trans (List.Perm.swap ..)

/-- After a write the rows are the written one and those of other keys. -/
theorem upsert_perm :
    (table.upsert row).rows.Perm (row :: table.rows.filter fun other => key other ≠ key row) :=
  upsertRows_perm table.nodup

/-- A stored row and the rows of other keys are all rows. -/
theorem rows_perm (h : row ∈ table.rows) :
    table.rows.Perm (row :: table.rows.filter fun other => key other ≠ key row) := by
  have hself : upsertRows key row table.rows = table.rows := by
    obtain ⟨rows, hnodup⟩ := table
    induction rows with
    | nil => cases h
    | cons first rows ih =>
      rw [List.map_cons, List.nodup_cons] at hnodup
      rcases List.mem_cons.mp h with rfl | hmem
      · exact if_pos rfl
      · have hne : key first ≠ key row := fun heq =>
          hnodup.1 (List.mem_map.mpr ⟨row, hmem, heq.symm⟩)
        change (if key first = key row then _ else _) = _
        rw [if_neg hne]
        exact congrArg (first :: ·) (ih hnodup.2 hmem)
  have hperm : (upsertRows key row table.rows).Perm
      (row :: table.rows.filter fun other => key other ≠ key row) := upsertRows_perm table.nodup
  rwa [hself] at hperm

/-- A relation between all rows holds after a write when it holds between the written row and
the rows of other keys. -/
theorem upsert_pairs {R : ρ → ρ → Prop} (hself : R row row)
    (hnew : ∀ row' ∈ table.rows, key row' ≠ key row → R row row' ∧ R row' row)
    (hold : ∀ row' ∈ table.rows, ∀ row'' ∈ table.rows, R row' row'') :
    ∀ row' ∈ (table.upsert row).rows, ∀ row'' ∈ (table.upsert row).rows, R row' row'' := by
  intro row' hrow' row'' hrow''
  rcases mem_upsert_iff.mp hrow' with rfl | ⟨hmem, hne⟩
  · rcases mem_upsert_iff.mp hrow'' with rfl | ⟨hmem, hne⟩
    · exact hself
    · exact (hnew row'' hmem hne).1
  · rcases mem_upsert_iff.mp hrow'' with rfl | ⟨hmem', hne'⟩
    · exact (hnew row' hmem hne).2
    · exact hold row' hmem row'' hmem'

/-- A written row is found under its key. -/
@[simp] theorem lookup_upsert_self : (table.upsert row).lookup (key row) = some row :=
  lookup_of_mem (mem_upsert_iff.mpr (Or.inl rfl))

/-- A write leaves every other key as it is. -/
theorem lookup_upsert_of_ne (h : key row ≠ k) : (table.upsert row).lookup k = table.lookup k := by
  ext row'
  rw [lookup_eq_some_iff, lookup_eq_some_iff, mem_upsert_iff]
  constructor
  · rintro ⟨rfl | ⟨hmem, _⟩, hkey⟩
    · exact absurd hkey h
    · exact ⟨hmem, hkey⟩
  · rintro ⟨hmem, hkey⟩
    exact ⟨Or.inr ⟨hmem, fun heq => h (heq ▸ hkey)⟩, hkey⟩

/-- What a lookup finds after a write. -/
theorem lookup_upsert :
    (table.upsert row).lookup k = if key row = k then some row else table.lookup k := by
  split
  · next h => rw [← h, lookup_upsert_self]
  · next h => exact lookup_upsert_of_ne h

private theorem upsertRows_of_mem {rows : List ρ} (hnodup : (rows.map key).Nodup)
    (h : key row ∈ rows.map key) :
    upsertRows key row rows = rows.map fun other => if key other = key row then row else other := by
  induction rows with
  | nil => cases h
  | cons first rows ih =>
    rw [List.map_cons, List.nodup_cons] at hnodup
    by_cases hfirst : key first = key row
    · have hrest : rows.map (fun other => if key other = key row then row else other) = rows := by
        refine (List.map_congr_left fun other hmem => ?_).trans (List.map_id rows)
        exact if_neg fun heq =>
          hnodup.1 (List.mem_map.mpr ⟨other, hmem, heq.trans hfirst.symm⟩)
      rw [upsertRows, if_pos hfirst, List.map_cons, if_pos hfirst, hrest]
    · have hmem : key row ∈ rows.map key :=
        (List.mem_cons.mp h).resolve_left fun heq => hfirst heq.symm
      rw [upsertRows, if_neg hfirst, List.map_cons, if_neg hfirst, ih hnodup.2 hmem]

/-- A write under a stored key replaces the row where it stands. -/
theorem rows_upsert_of_lookup (h : table.lookup (key row) = some row') :
    (table.upsert row).rows =
      table.rows.map fun other => if key other = key row then row else other := by
  obtain ⟨hmem, hkey⟩ := lookup_eq_some_iff.mp h
  exact upsertRows_of_mem table.nodup (List.mem_map.mpr ⟨row', hmem, hkey⟩)

/-- A write under a new key adds the row at the end. -/
theorem rows_upsert_of_fresh (h : table.lookup (key row) = none) :
    (table.upsert row).rows = table.rows ++ [row] := by
  have hfresh : ∀ other ∈ table.rows, key other ≠ key row := fun other hmem hkey => by
    rw [← hkey, lookup_of_mem hmem] at h
    cases h
  change upsertRows key row table.rows = _
  generalize table.rows = rows at hfresh
  induction rows with
  | nil => rfl
  | cons first rows ih =>
    rw [List.forall_mem_cons] at hfresh
    rw [upsertRows, if_neg hfresh.1, ih hfresh.2, List.cons_append]

/-- What a lookup finds when the rows of its key are kept. -/
theorem lookup_filter_of_forall {p : ρ → Bool} (h : ∀ row, key row = k → p row = true) :
    (table.filter p).lookup k = table.lookup k := by
  ext row
  rw [lookup_eq_some_iff, lookup_eq_some_iff]
  unfold filter
  rw [List.mem_filter]
  constructor
  · rintro ⟨⟨hmem, _⟩, hkey⟩
    exact ⟨hmem, hkey⟩
  · rintro ⟨hmem, hkey⟩
    exact ⟨⟨hmem, h row hkey⟩, hkey⟩

/-- Nothing is found under a key whose rows are not kept. -/
theorem lookup_filter_ne : (table.filter fun row => key row ≠ k).lookup k = none := by
  refine Option.eq_none_iff_forall_ne_some.mpr fun row hrow => ?_
  obtain ⟨hmem, hkey⟩ := lookup_eq_some_iff.mp hrow
  exact of_decide_eq_true (List.mem_filter.mp hmem).2 hkey

end Table

end Lib
