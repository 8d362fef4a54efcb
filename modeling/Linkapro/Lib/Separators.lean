import Mathlib.Data.List.Basic

/-!
# Lists with a separator

A field that does not contain the separator ends where the separator stands, read from
the left or from the right. So the first and the last field of a separated list are
determined by it, whatever the other fields contain.
-/

namespace Lib

variable {α : Type} {separator : α} {first first' rest rest' : List α}

/-- The first field of a separated list is determined by the list. -/
theorem eq_of_append_separator (h : separator ∉ first) (h' : separator ∉ first')
    (heq : first ++ separator :: rest = first' ++ separator :: rest') :
    first = first' ∧ rest = rest' := by
  induction first generalizing first' with
  | nil =>
    cases first' with
    | nil => exact ⟨rfl, (List.cons.inj heq).2⟩
    | cons b first' =>
      have hhead := (List.cons.inj heq).1
      exact absurd (hhead ▸ List.mem_cons_self) h'
  | cons a first ih =>
    cases first' with
    | nil =>
      have hhead := (List.cons.inj heq).1
      exact absurd (hhead ▸ List.mem_cons_self) h
    | cons b first' =>
      obtain ⟨rfl, htail⟩ := List.cons.inj heq
      obtain ⟨rfl, hrest⟩ := ih (fun hmem => h (List.mem_cons_of_mem _ hmem))
        (fun hmem => h' (List.mem_cons_of_mem _ hmem)) htail
      exact ⟨rfl, hrest⟩

/-- The last field of a separated list is determined by the list. -/
theorem eq_of_separator_append (h : separator ∉ rest) (h' : separator ∉ rest')
    (heq : first ++ separator :: rest = first' ++ separator :: rest') :
    first = first' ∧ rest = rest' := by
  have hreverse := congrArg List.reverse heq
  simp only [List.reverse_append, List.reverse_cons, List.append_assoc, List.singleton_append]
    at hreverse
  obtain ⟨hrest, hfirst⟩ := eq_of_append_separator (mt List.mem_reverse.mp h)
    (mt List.mem_reverse.mp h') hreverse
  exact ⟨List.reverse_injective hfirst, List.reverse_injective hrest⟩

end Lib
