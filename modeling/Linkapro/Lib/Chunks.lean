import Mathlib.Data.List.DropRight
import Mathlib.Data.List.Infix
import Mathlib.Tactic.Common

/-!
# Data that arrive in chunks

What a reader that sees one chunk after another may forget. The first and the last symbols
of all that has been seen follow from those of the earlier chunks and the new chunk, and a
marker that is new with a chunk begins in the last symbols before it.
-/

namespace Lib

variable {α : Type} {seen chunk marker : List α} {n : ℕ}

/-- The first symbols are those of the earlier chunks, filled up with the new one. -/
theorem take_take_append : (seen.take n ++ chunk).take n = (seen ++ chunk).take n := by
  rw [List.take_append, List.take_append, List.take_take, Nat.min_self, List.length_take]
  congr 2
  omega

/-- Full first symbols stay. -/
theorem take_append_of_full (h : n ≤ (seen.take n).length) :
    (seen ++ chunk).take n = seen.take n := by
  rw [List.length_take] at h
  exact List.take_append_of_le_length (by omega)

/-- The last symbols are those of the last symbols of the earlier chunks and the new one. -/
theorem rtake_rtake_append : (seen.rtake n ++ chunk).rtake n = (seen ++ chunk).rtake n := by
  unfold List.rtake
  rw [List.drop_append, List.drop_append, List.drop_drop]
  simp only [List.length_append, List.length_drop]
  congr 2 <;> omega

/-- A marker is in the earlier chunks, or it lies in their last symbols and the new chunk. -/
theorem infix_append_iff (h : marker.length ≤ n + 1) :
    marker <:+: seen ++ chunk ↔ marker <:+: seen ∨ marker <:+: seen.rtake n ++ chunk := by
  constructor
  · rintro ⟨before, after, heq⟩
    by_cases hend : (before ++ marker).length ≤ seen.length
    · left
      have hprefix : before ++ marker <+: seen :=
        List.prefix_of_prefix_length_le ⟨after, heq⟩ (List.prefix_append seen chunk) hend
      exact (List.suffix_append before marker).isInfix.trans hprefix.isInfix
    · right
      rw [List.length_append, not_le] at hend
      have hcut : seen.length - n ≤ before.length := by omega
      have hdrop : (seen ++ chunk).drop (seen.length - n) = seen.rtake n ++ chunk :=
        List.drop_append_of_le_length (Nat.sub_le ..)
      rw [← hdrop, ← heq, List.append_assoc, List.drop_append_of_le_length hcut]
      exact ⟨before.drop (seen.length - n), after, List.append_assoc ..⟩
  · rintro (hseen | hlast)
    · exact hseen.trans (List.prefix_append ..).isInfix
    · have hsuffix : seen.rtake n ++ chunk <:+ seen ++ chunk :=
        ⟨seen.take (seen.length - n), by
          rw [← List.append_assoc]
          exact congrArg (· ++ chunk) (List.take_append_drop ..)⟩
      exact hlast.trans hsuffix.isInfix

end Lib
