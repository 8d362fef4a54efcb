import Mathlib.Algebra.Order.Group.Defs
import Mathlib.Algebra.BigOperators.Group.List.Basic
import Mathlib.Algebra.Order.BigOperators.Group.List
import Mathlib.Tactic.Linarith

/-!
# Limits on a sliding period

Events carry an instant and a weight. The load of a period is the weight of its
events, and a limit holds when no period of a given length carries more than it.
A check that runs before an event is added counts the events since the start of
the period that ends at the check; if the new weight still fits, the limit holds
afterwards, however late the event is added.
-/

namespace Lib

variable {ε τ : Type} [LinearOrder τ]

/-- The weight of the events of a period. -/
def load (time : ε → τ) (weight : ε → ℤ) (first last : τ) (events : List ε) : ℤ :=
  ((events.filter fun event => first ≤ time event ∧ time event ≤ last).map weight).sum

/-- The weight of the events since an instant. -/
def loadSince (time : ε → τ) (weight : ε → ℤ) (first : τ) (events : List ε) : ℤ :=
  ((events.filter fun event => first ≤ time event).map weight).sum

variable {time : ε → τ} {weight : ε → ℤ} {first last : τ} {events : List ε} {event event' : ε}

@[simp] theorem load_nil : load time weight first last [] = 0 := rfl

theorem load_cons : load time weight first last (event :: events) =
    (if first ≤ time event ∧ time event ≤ last then weight event else 0) +
      load time weight first last events := by
  unfold load
  by_cases h : first ≤ time event ∧ time event ≤ last
  · rw [List.filter_cons_of_pos (by simpa using h), if_pos h]
    rfl
  · rw [List.filter_cons_of_neg (by simpa using h), if_neg h, zero_add]

theorem load_perm {events' : List ε} (h : events.Perm events') :
    load time weight first last events = load time weight first last events' :=
  ((h.filter _).map _).sum_eq

/-- Events without weight may be left out. -/
theorem load_ite {p : ε → Prop} [DecidablePred p] :
    load time (fun event => if p event then weight event else 0) first last events =
      load time weight first last (events.filter fun event => p event) := by
  induction events with
  | nil => rfl
  | cons event events ih =>
    rw [load_cons, ih]
    by_cases h : p event
    · rw [List.filter_cons_of_pos (by simpa using h), load_cons, if_pos h]
    · rw [List.filter_cons_of_neg (by simpa using h), if_neg h, ite_self, zero_add]

theorem loadSince_cons : loadSince time weight first (event :: events) =
    (if first ≤ time event then weight event else 0) + loadSince time weight first events := by
  unfold loadSince
  by_cases h : first ≤ time event
  · rw [List.filter_cons_of_pos (by simpa using h), if_pos h]
    rfl
  · rw [List.filter_cons_of_neg (by simpa using h), if_neg h, zero_add]

/-- Events without weight may be left out. -/
theorem loadSince_ite {p : ε → Prop} [DecidablePred p] :
    loadSince time (fun event => if p event then weight event else 0) first events =
      loadSince time weight first (events.filter fun event => p event) := by
  induction events with
  | nil => rfl
  | cons event events ih =>
    rw [loadSince_cons, ih]
    by_cases h : p event
    · rw [List.filter_cons_of_pos (by simpa using h), loadSince_cons, if_pos h]
    · rw [List.filter_cons_of_neg (by simpa using h), if_neg h, ite_self, zero_add]

/-- A period carries at most what all events since an earlier instant carry. -/
theorem load_le_loadSince {since : τ} (hsince : since ≤ first)
    (h : ∀ event ∈ events, 0 ≤ weight event) :
    load time weight first last events ≤ loadSince time weight since events := by
  induction events with
  | nil => exact le_rfl
  | cons event events ih =>
    have hrest := ih fun event' hmem => h event' (List.mem_cons_of_mem _ hmem)
    have hweight := h event List.mem_cons_self
    rw [load_cons, loadSince_cons]
    by_cases hin : first ≤ time event ∧ time event ≤ last
    · rw [if_pos hin, if_pos (hsince.trans hin.1)]
      linarith
    · rw [if_neg hin, zero_add]
      split
      · linarith
      · linarith

/-- Fewer events since an instant carry less. -/
theorem loadSince_le_of_sublist {events' : List ε} (hsub : events'.Sublist events)
    (h : ∀ event ∈ events, 0 ≤ weight event) :
    loadSince time weight first events' ≤ loadSince time weight first events := by
  apply ((hsub.filter _).map _).sum_le_sum
  intro w hw
  obtain ⟨event, hevent, rfl⟩ := List.mem_map.mp hw
  exact h event (List.mem_of_mem_filter hevent)

variable [AddCommGroup τ] {length now : τ} {limit : ℤ}

/-- No period of the length carries more than the limit. -/
def Limited (time : ε → τ) (weight : ε → ℤ) (length : τ) (limit : ℤ) (events : List ε) : Prop :=
  ∀ first, load time weight first (first + length) events ≤ limit

theorem Limited.nil (h : 0 ≤ limit) : Limited time weight length limit [] := fun _ => h

theorem Limited.perm {events' : List ε} (h : Limited time weight length limit events)
    (hperm : events.Perm events') : Limited time weight length limit events' := by
  intro first
  rw [← load_perm hperm]
  exact h first

/-- A limit holds of fewer events. -/
theorem Limited.sublist {events' : List ε} (h : Limited time weight length limit events)
    (hsub : events'.Sublist events) (hweights : ∀ event ∈ events, 0 ≤ weight event) :
    Limited time weight length limit events' := by
  intro first
  refine le_trans (((hsub.filter _).map _).sum_le_sum ?_) (h first)
  intro w hw
  obtain ⟨event, hevent, rfl⟩ := List.mem_map.mp hw
  exact hweights event (List.mem_of_mem_filter hevent)

/-- An event may be replaced by one of the same instant and weight. -/
theorem Limited.replace (h : Limited time weight length limit (event :: events))
    (htime : time event' = time event) (hweight : weight event' = weight event) :
    Limited time weight length limit (event' :: events) := by
  intro first
  have hall := h first
  rw [load_cons] at hall ⊢
  rwa [htime, hweight]

/-- An event without weight may be added. -/
theorem Limited.add_weightless (h : Limited time weight length limit events)
    (hweight : weight event = 0) : Limited time weight length limit (event :: events) := by
  intro first
  rw [load_cons, hweight, ite_self, zero_add]
  exact h first

variable [IsOrderedAddMonoid τ] in
/-- An event may be added when it still fitted at an earlier check. -/
theorem Limited.add (h : Limited time weight length limit events)
    (hweights : ∀ event ∈ events, 0 ≤ weight event)
    (hcheck : loadSince time weight (now - length) events + weight event ≤ limit)
    (hnow : now ≤ time event) : Limited time weight length limit (event :: events) := by
  intro first
  rw [load_cons]
  split
  · next hin =>
    have hsince : now - length ≤ first := sub_le_iff_le_add.mpr (hnow.trans hin.2)
    have hload : load time weight first (first + length) events ≤
        loadSince time weight (now - length) events := load_le_loadSince hsince hweights
    linarith
  · rw [zero_add]
    exact h first

end Lib
