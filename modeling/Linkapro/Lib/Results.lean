import Linkapro.Lib.Program
import Mathlib.Data.List.Forall2

/-!
# Lists of fallible computations

A list is computed element by element and stops at the first error. It succeeds exactly when
each element does, with the results of the elements in their order.
-/

namespace Lib

variable {ε α β : Type} {compute : α → Except ε β} {sources : List α} {results : List β}

@[simp] theorem ok_bind (value : α) (rest : α → Except ε β) :
    Except.ok value >>= rest = rest value := rfl

@[simp] theorem error_bind (raised : ε) (rest : α → Except ε β) :
    Except.error raised >>= rest = .error raised := rfl

/-- Results come one by one from their sources. -/
theorem mapM_eq_ok_iff :
    sources.mapM compute = .ok results ↔
      List.Forall₂ (fun source result => compute source = .ok result) sources results := by
  induction sources generalizing results with
  | nil =>
    rw [List.mapM_nil, List.forall₂_nil_left_iff]
    constructor
    · exact fun h => (Except.ok.inj h).symm
    · exact fun h => h ▸ rfl
  | cons source sources ih =>
    rw [List.mapM_cons, except_bind_eq_ok_iff]
    constructor
    · rintro ⟨result, hresult, htail⟩
      obtain ⟨rest, hrest, heq⟩ := except_bind_eq_ok_iff.mp htail
      obtain rfl := Except.ok.inj heq
      exact .cons hresult (ih.mp hrest)
    · intro h
      cases h with
      | cons hresult hrest =>
        exact ⟨_, hresult, except_bind_eq_ok_iff.mpr ⟨_, ih.mpr hrest, rfl⟩⟩

/-- Each result comes from some source. -/
theorem exists_of_mem_mapM {result : β} (h : sources.mapM compute = .ok results)
    (hmem : result ∈ results) : ∃ source ∈ sources, compute source = .ok result := by
  induction mapM_eq_ok_iff.mp h with
  | nil => cases hmem
  | cons hresult hrest ih =>
    rcases List.mem_cons.mp hmem with rfl | hmem
    · exact ⟨_, List.mem_cons_self, hresult⟩
    · obtain ⟨source, hsource, heq⟩ := ih (mapM_eq_ok_iff.mpr hrest) hmem
      exact ⟨source, List.mem_cons_of_mem _ hsource, heq⟩

/-- A list is computed exactly when its elements are. -/
theorem exists_mapM_ok_iff :
    (∃ results, sources.mapM compute = .ok results) ↔
      ∀ source ∈ sources, ∃ result, compute source = .ok result := by
  induction sources with
  | nil => exact iff_of_true ⟨[], rfl⟩ (List.forall_mem_nil _)
  | cons source sources ih =>
    rw [List.forall_mem_cons, ← ih]
    constructor
    · rintro ⟨results, h⟩
      cases mapM_eq_ok_iff.mp h with
      | cons hresult hrest => exact ⟨⟨_, hresult⟩, _, mapM_eq_ok_iff.mpr hrest⟩
    · rintro ⟨⟨result, hresult⟩, results, hresults⟩
      exact ⟨result :: results, mapM_eq_ok_iff.mpr (.cons hresult (mapM_eq_ok_iff.mp hresults))⟩

/-- A list that is not computed has an element that raises. -/
theorem exists_of_mapM_error {raised : ε} (h : sources.mapM compute = .error raised) :
    ∃ source ∈ sources, compute source = .error raised := by
  induction sources with
  | nil => cases h
  | cons source sources ih =>
    rw [List.mapM_cons] at h
    cases hsource : compute source with
    | error raised' =>
      rw [hsource, error_bind] at h
      obtain rfl := Except.error.inj h
      exact ⟨source, List.mem_cons_self, hsource⟩
    | ok result =>
      rw [hsource, ok_bind] at h
      cases hrest : sources.mapM compute with
      | error raised' =>
        rw [hrest, error_bind] at h
        obtain rfl := Except.error.inj h
        obtain ⟨source', hmem, hsource'⟩ := ih hrest
        exact ⟨source', List.mem_cons_of_mem _ hmem, hsource'⟩
      | ok results =>
        rw [hrest] at h
        cases h

end Lib
