import Mathlib.Data.List.Sort
import Mathlib.Tactic.Common

/-!
# Pages of a ranked list

A list cut into pages of one size gives back its first items when the pages are put
together, and an order by rank that breaks ties by a key leaves one arrangement only.
-/

namespace Lib

section Pages

variable {α : Type}

/-- The first pages together are the first items. -/
theorem flatMap_pages (items : List α) (limit pages : ℕ) :
    ((List.range pages).flatMap fun n => (items.drop (n * limit)).take limit) =
      items.take (pages * limit) := by
  induction pages with
  | zero => simp
  | succ pages ih =>
    rw [List.range_succ, List.flatMap_append, ih, List.flatMap_singleton, ← List.take_add,
      Nat.succ_mul]

/-- The rounded up quotient is enough pages. -/
theorem le_pages_mul {total limit : ℕ} (hlimit : 0 < limit) :
    total ≤ (total + limit - 1) / limit * limit := by
  have hdiv := Nat.div_add_mod (total + limit - 1) limit
  have hmod := Nat.mod_lt (total + limit - 1) hlimit
  rw [Nat.mul_comm] at hdiv
  omega

end Pages

/-- A total order on ranks, read as "at least". Two ranks may be equal in it and yet differ. -/
structure Ranking (β : Type) where
  atLeast : β → β → Bool
  total : ∀ first second, atLeast first second || atLeast second first
  trans : ∀ first second third, atLeast first second → atLeast second third → atLeast first third

namespace Ranking

variable {α β : Type} (ranking : Ranking β) (rank : α → β) (key : α → ℕ)

/-- `ORDER BY rank DESC, key DESC`. -/
def precedes (first second : α) : Bool :=
  ranking.atLeast (rank first) (rank second) &&
    (!ranking.atLeast (rank second) (rank first) || decide (key second ≤ key first))

variable {ranking rank key} {first second third : α}

theorem precedes_iff : ranking.precedes rank key first second ↔
    ranking.atLeast (rank first) (rank second) ∧
      (ranking.atLeast (rank second) (rank first) → key second ≤ key first) := by
  simp only [precedes, Bool.and_eq_true, Bool.or_eq_true, Bool.not_eq_true', decide_eq_true_eq]
  rw [← Bool.not_eq_true, imp_iff_not_or]

theorem precedes_total (ranking : Ranking β) (rank : α → β) (key : α → ℕ) (first second : α) :
    ranking.precedes rank key first second || ranking.precedes rank key second first := by
  rw [Bool.or_eq_true, precedes_iff, precedes_iff]
  have htotal := ranking.total (rank first) (rank second)
  rw [Bool.or_eq_true] at htotal
  have hkey := le_total (key first) (key second)
  tauto

theorem precedes_trans (ranking : Ranking β) (rank : α → β) (key : α → ℕ)
    (first second third : α) (h : ranking.precedes rank key first second)
    (h' : ranking.precedes rank key second third) : ranking.precedes rank key first third := by
  rw [precedes_iff] at h h' ⊢
  refine ⟨ranking.trans _ _ _ h.1 h'.1, fun hback => ?_⟩
  have hkey := h.2 (ranking.trans _ _ _ h'.1 hback)
  have hkey' := h'.2 (ranking.trans _ _ _ hback h.1)
  exact hkey'.trans hkey

/-- Only items with one key can stand in either order. -/
theorem key_eq_of_precedes (h : ranking.precedes rank key first second)
    (h' : ranking.precedes rank key second first) : key first = key second := by
  rw [precedes_iff] at h h'
  exact Nat.le_antisymm (h'.2 h.1) (h.2 h'.1)

/-- Items with different keys have one arrangement only. -/
theorem eq_of_perm {items items' : List α}
    (hkeys : ∀ first ∈ items, ∀ second ∈ items, key first = key second → first = second)
    (h : items.Pairwise fun first second => ranking.precedes rank key first second)
    (h' : items'.Pairwise fun first second => ranking.precedes rank key first second)
    (hperm : items.Perm items') : items = items' := by
  refine List.Perm.eq_of_pairwise (fun first second hfirst hsecond hle hle' => ?_) h h' hperm
  exact hkeys first hfirst second (hperm.mem_iff.mpr hsecond) (key_eq_of_precedes hle hle')

end Ranking

end Lib
