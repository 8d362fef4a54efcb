import Mathlib.Data.List.Nodup
import Mathlib.Tactic.Common

/-!
# Rows below their owners

Each owner of a list adds rows that carry its key. If no two owners share their key, the
rows that carry a key are exactly those of its owner.
-/

namespace Lib

variable {α β κ : Type} [DecidableEq κ] {key : α → κ} {owner : β → κ} {rows : α → List β}
  {owners : List α} {a : α} {k : κ}

/-- No row carries a key without an owner. -/
theorem filter_flatMap_of_notMem (howner : ∀ a ∈ owners, ∀ row ∈ rows a, owner row = key a)
    (hk : k ∉ owners.map key) : (owners.flatMap rows).filter (fun row => owner row = k) = [] := by
  rw [List.filter_eq_nil_iff]
  intro row hrow heq
  obtain ⟨a, ha, hmem⟩ := List.mem_flatMap.mp hrow
  have hkey : key a = k := (howner a ha row hmem).symm.trans (of_decide_eq_true heq)
  exact hk (hkey ▸ List.mem_map_of_mem ha)

/-- The rows that carry the key of an owner are its rows. -/
theorem filter_flatMap_owner (howner : ∀ a ∈ owners, ∀ row ∈ rows a, owner row = key a)
    (hnodup : (owners.map key).Nodup) (ha : a ∈ owners) :
    (owners.flatMap rows).filter (fun row => owner row = key a) = rows a := by
  induction owners with
  | nil => exact absurd ha List.not_mem_nil
  | cons first owners ih =>
    rw [List.map_cons, List.nodup_cons] at hnodup
    have hfirst := howner first (.head _)
    have hrest : ∀ a ∈ owners, ∀ row ∈ rows a, owner row = key a :=
      fun a ha => howner a (.tail _ ha)
    rw [List.flatMap_cons, List.filter_append]
    rcases List.mem_cons.mp ha with rfl | hmem
    · have hself : (rows a).filter (fun row => owner row = key a) = rows a :=
        List.filter_eq_self.mpr fun row hrow => decide_eq_true (hfirst row hrow)
      rw [hself, filter_flatMap_of_notMem hrest hnodup.1, List.append_nil]
    · have hne : key first ≠ key a := fun heq => hnodup.1 (heq ▸ List.mem_map_of_mem hmem)
      have hnone : (rows first).filter (fun row => owner row = key a) = [] := by
        rw [List.filter_eq_nil_iff]
        intro row hrow heq
        exact hne ((hfirst row hrow).symm.trans (of_decide_eq_true heq))
      rw [hnone, List.nil_append, ih hrest hnodup.2 hmem]

/-- The same beside older rows that do not carry the key. -/
theorem filter_append_flatMap_owner {old : List β} (hold : ∀ row ∈ old, owner row ≠ key a)
    (howner : ∀ a ∈ owners, ∀ row ∈ rows a, owner row = key a)
    (hnodup : (owners.map key).Nodup) (ha : a ∈ owners) :
    (old ++ owners.flatMap rows).filter (fun row => owner row = key a) = rows a := by
  have hnone : old.filter (fun row => owner row = key a) = [] := by
    rw [List.filter_eq_nil_iff]
    intro row hrow heq
    exact hold row hrow (of_decide_eq_true heq)
  rw [List.filter_append, hnone, List.nil_append, filter_flatMap_owner howner hnodup ha]

end Lib
