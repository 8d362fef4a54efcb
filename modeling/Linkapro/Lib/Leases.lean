import Linkapro.Lib.Expiring

/-!
# Locks that expire

A lock is a key that is written with a deadline. Who acquires it holds it until this
deadline or until giving it up. The store keeps the holders apart as long as a holder
gives up a key only before its own deadline, or after the key has lapsed.
-/

namespace Lib

/-- The keys that each worker has acquired and not given up, with their deadlines. -/
abbrev Holdings (ι κ T : Type) : Type := ι → κ → Option T

namespace Holdings

variable {ι κ ν T : Type} [DecidableEq ι] [DecidableEq κ] {holdings : Holdings ι κ T}
  {i j : ι} {key key' : κ}

/-- A worker acquires a key. -/
def take (holdings : Holdings ι κ T) (i : ι) (key : κ) (deadline : T) : Holdings ι κ T :=
  fun j key' => if j = i ∧ key' = key then some deadline else holdings j key'

/-- A worker gives up a key. -/
def drop (holdings : Holdings ι κ T) (i : ι) (key : κ) : Holdings ι κ T :=
  fun j key' => if j = i ∧ key' = key then none else holdings j key'

/-- What is held after a key has been given up has been held before, by another worker or
under another key. -/
theorem drop_eq_some {deadline : T} (h : holdings.drop i key j key' = some deadline) :
    holdings j key' = some deadline ∧ ¬ (j = i ∧ key' = key) := by
  unfold drop at h
  split at h
  · cases h
  · next hne => exact ⟨h, hne⟩

variable [LinearOrder T] {locks : ExpiringMap κ ν T} {now later : T} {value : ν} {deadline : T}

/-- At `now`, every key has at most one holder, and the store has the key of the holder. -/
structure Backed (holdings : Holdings ι κ T) (locks : ExpiringMap κ ν T) (now : T) : Prop where
  stored : ∀ i key deadline, holdings i key = some deadline → now < deadline →
    ∃ value, locks key = some ⟨value, some deadline⟩
  exclusive : ∀ i j key deadline deadline', holdings i key = some deadline → now < deadline →
    holdings j key = some deadline' → now < deadline' → i = j

namespace Backed

omit [DecidableEq ι] [DecidableEq κ] in
/-- Time only ends leases. -/
theorem wait (h : holdings.Backed locks now) (hlater : now ≤ later) :
    holdings.Backed locks later where
  stored i key deadline hheld hlive := h.stored i key deadline hheld (lt_of_le_of_lt hlater hlive)
  exclusive i j key deadline deadline' hi hlive hj hlive' :=
    h.exclusive i j key deadline deadline' hi (lt_of_le_of_lt hlater hlive) hj
      (lt_of_le_of_lt hlater hlive')

omit [DecidableEq ι] [DecidableEq κ] in
/-- A key that has lapsed has no holder. -/
theorem not_live (h : holdings.Backed locks now) (hfree : (locks.get now key).isSome = false)
    (hheld : holdings i key = some deadline) : ¬ now < deadline := by
  intro hlive
  obtain ⟨value, hstored⟩ := h.stored i key deadline hheld hlive
  rw [ExpiringMap.get_of_lt hstored hlive] at hfree
  cases hfree

omit [DecidableEq ι] in
/-- A write of a key that nobody holds keeps the holders apart. -/
theorem set (h : holdings.Backed locks now)
    (hfree : ∀ i deadline, holdings i key = some deadline → ¬ now < deadline) :
    holdings.Backed (locks.set key value (some later)) now where
  stored i key' deadline hheld hlive := by
    have hne : key' ≠ key := by
      rintro rfl
      exact hfree i deadline hheld hlive
    obtain ⟨value', hstored⟩ := h.stored i key' deadline hheld hlive
    exact ⟨value', (Function.update_of_ne hne _ _).trans hstored⟩
  exclusive := h.exclusive

omit [DecidableEq ι] in
/-- The removal of a key that nobody holds keeps the holders apart. -/
theorem delete (h : holdings.Backed locks now)
    (hfree : ∀ i deadline, holdings i key = some deadline → ¬ now < deadline) :
    holdings.Backed (locks.delete key) now where
  stored i key' deadline hheld hlive := by
    have hne : key' ≠ key := by
      rintro rfl
      exact hfree i deadline hheld hlive
    obtain ⟨value', hstored⟩ := h.stored i key' deadline hheld hlive
    exact ⟨value', (Function.update_of_ne hne _ _).trans hstored⟩
  exclusive := h.exclusive

/-- A worker may give up a key at any time. -/
theorem drop (h : holdings.Backed locks now) : (holdings.drop i key).Backed locks now where
  stored j key' deadline hheld hlive := h.stored j key' deadline (drop_eq_some hheld).1 hlive
  exclusive j j' key' deadline deadline' hj hlive hj' hlive' :=
    h.exclusive j j' key' deadline deadline' (drop_eq_some hj).1 hlive (drop_eq_some hj').1 hlive'

/-- A worker that acquires a free key is its only holder. -/
theorem take (h : holdings.Backed locks now) (hfree : (locks.get now key).isSome = false) :
    (holdings.take i key later).Backed (locks.set key value (some later)) now where
  stored j key' deadline hheld hlive := by
    by_cases hself : j = i ∧ key' = key
    · obtain ⟨rfl, rfl⟩ := hself
      have heq : some later = some deadline := (if_pos ⟨rfl, rfl⟩).symm.trans hheld
      exact ⟨value, by rw [ExpiringMap.set, Function.update_self, heq]⟩
    · have hold : holdings j key' = some deadline := (if_neg hself).symm.trans hheld
      exact (h.set fun j deadline hheld => h.not_live hfree hheld).stored j key' deadline hold hlive
  exclusive j j' key' deadline deadline' hj hlive hj' hlive' := by
    by_cases hkey : key' = key
    · subst hkey
      -- nobody held the free key, so both holders are the new one
      have hself {j : ι} {deadline : T} (hj : holdings.take i key' later j key' = some deadline)
          (hlive : now < deadline) : j = i := by
        by_contra hne
        have hold : holdings j key' = some deadline :=
          (if_neg fun hand => hne hand.1).symm.trans hj
        exact h.not_live hfree hold hlive
      rw [hself hj hlive, hself hj' hlive']
    · have hold {j : ι} {deadline : T} (hj : holdings.take i key later j key' = some deadline) :
          holdings j key' = some deadline := (if_neg fun hand => hkey hand.2).symm.trans hj
      exact h.exclusive j j' key' deadline deadline' (hold hj) hlive (hold hj') hlive'

/-- A holder that removes its key before the deadline frees no other worker's key. -/
theorem release (h : holdings.Backed locks now) (hheld : holdings i key = some deadline)
    (hlive : now < deadline) : (holdings.drop i key).Backed (locks.delete key) now := by
  refine h.drop.delete fun j deadline' hj hlive' => ?_
  obtain ⟨hother, hne⟩ := drop_eq_some hj
  exact hne ⟨h.exclusive j i key deadline' deadline hother hlive' hheld hlive, rfl⟩

omit [DecidableEq ι] [DecidableEq κ] in
/-- A holder finds its key in the store until the deadline. -/
theorem isSome_get (h : holdings.Backed locks now) (hheld : holdings i key = some deadline)
    (hlive : now < deadline) : (locks.get now key).isSome = true := by
  obtain ⟨value, hstored⟩ := h.stored i key deadline hheld hlive
  rw [ExpiringMap.get_of_lt hstored hlive]
  rfl

end Backed

end Holdings

end Lib
