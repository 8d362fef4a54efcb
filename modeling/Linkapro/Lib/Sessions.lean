import Mathlib.Logic.Function.Basic
import Mathlib.Tactic.Common

/-!
# Sessions of one database

The sessions of a database take turns at their statements. A statement changes what
is stored and how far its own session has come, and it may depend on how far the
other sessions are, since these hold the locks. A statement that has to wait leaves
both as they are. The run rule reduces an invariant to one statement, and
`holds_step` reduces that to the store, the session itself and the other sessions.
-/

namespace Lib

/-- The sessions `ι` of a database between two statements. -/
structure Sessions (ι σ π : Type) where
  /-- What the database stores. -/
  store : σ
  /-- How far each session has come. -/
  phase : ι → π

/-- What the next statement of a session makes of the store and of its own phase. -/
abbrev Statement (ι σ π χ : Type) : Type := Sessions ι σ π → ι → χ → σ × π

namespace Sessions

variable {ι σ π χ : Type} [DecidableEq ι]

/-- One statement of a session. -/
def step (statement : Statement ι σ π χ) (s : Sessions ι σ π) (turn : ι × χ) :
    Sessions ι σ π :=
  let result := statement s turn.1 turn.2
  { store := result.1, phase := Function.update s.phase turn.1 result.2 }

/-- The statements of a list of turns, one after another. -/
def run (statement : Statement ι σ π χ) (s : Sessions ι σ π) (turns : List (ι × χ)) :
    Sessions ι σ π :=
  turns.foldl (step statement) s

/-- Every statement of a run is performed in a state that satisfies `P` for its turn. -/
def Always (statement : Statement ι σ π χ) (P : Sessions ι σ π → ι × χ → Prop) :
    Sessions ι σ π → List (ι × χ) → Prop
  | _, [] => True
  | s, turn :: turns => P s turn ∧ Always statement P (s.step statement turn) turns

instance Always.decidable (statement : Statement ι σ π χ) (P : Sessions ι σ π → ι × χ → Prop)
    [∀ s turn, Decidable (P s turn)] :
    ∀ (s : Sessions ι σ π) (turns : List (ι × χ)), Decidable (Always statement P s turns)
  | _, [] => isTrue trivial
  | s, turn :: turns =>
    have := Always.decidable statement P (s.step statement turn) turns
    inferInstanceAs (Decidable (P s turn ∧ Always statement P (s.step statement turn) turns))

variable {statement : Statement ι σ π χ} {s : Sessions ι σ π} {i j : ι} {choice : χ}

@[simp] theorem run_nil : s.run statement [] = s := rfl

@[simp] theorem run_cons {turn : ι × χ} {turns : List (ι × χ)} :
    s.run statement (turn :: turns) = (s.step statement turn).run statement turns := rfl

theorem run_append {turns turns' : List (ι × χ)} :
    s.run statement (turns ++ turns') = (s.run statement turns).run statement turns' :=
  List.foldl_append ..

@[simp] theorem step_store :
    (s.step statement (i, choice)).store = (statement s i choice).1 := rfl

@[simp] theorem step_phase_self :
    (s.step statement (i, choice)).phase i = (statement s i choice).2 :=
  Function.update_self ..

theorem step_phase_of_ne (h : j ≠ i) :
    (s.step statement (i, choice)).phase j = s.phase j :=
  Function.update_of_ne h ..

/-- What every statement of a run preserves holds at its end. -/
theorem run_keeps {I : Sessions ι σ π → Prop} {P : Sessions ι σ π → ι × χ → Prop}
    (hstep : ∀ s turn, I s → P s turn → I (s.step statement turn))
    {turns : List (ι × χ)} (hI : I s) (hturns : Always statement P s turns) :
    I (s.run statement turns) := by
  induction turns generalizing s with
  | nil => exact hI
  | cons turn turns ih => exact ih (hstep s turn hI hturns.1) hturns.2

/-- A run in two parts. -/
theorem always_append_iff {P : Sessions ι σ π → ι × χ → Prop} {turns turns' : List (ι × χ)} :
    Always statement P s (turns ++ turns') ↔
      Always statement P s turns ∧ Always statement P (s.run statement turns) turns' := by
  induction turns generalizing s with
  | nil => exact ⟨fun h => ⟨trivial, h⟩, And.right⟩
  | cons turn turns ih =>
    rw [List.cons_append, run_cons]
    exact (and_congr_right fun _ => ih).trans and_assoc.symm

/-- A condition that each statement establishes, with the help of what it keeps, holds for all
statements of a run. -/
theorem always_of_keeps {I : Sessions ι σ π → Prop} {P Q : Sessions ι σ π → ι × χ → Prop}
    (hstep : ∀ s turn, I s → P s turn → I (s.step statement turn) ∧ Q s turn)
    {turns : List (ι × χ)} (hI : I s) (hturns : Always statement P s turns) :
    Always statement Q s turns := by
  induction turns generalizing s with
  | nil => trivial
  | cons turn turns ih =>
    obtain ⟨hnext, hturn⟩ := hstep s turn hI hturns.1
    exact ⟨hturn, ih hnext hturns.2⟩

/-- A condition on the store and one on each session, which may speak of the store. -/
structure Holds (stored : σ → Prop) (session : σ → ι → π → Prop) (s : Sessions ι σ π) :
    Prop where
  stored : stored s.store
  session : ∀ i, session s.store i (s.phase i)

/-- The conditions hold after a statement when it leaves a right store, a right phase of
its own session and the other sessions right for the new store. -/
theorem holds_step {stored : σ → Prop} {session : σ → ι → π → Prop}
    (hstored : stored (statement s i choice).1)
    (hself : session (statement s i choice).1 i (statement s i choice).2)
    (hother : ∀ j, j ≠ i → session (statement s i choice).1 j (s.phase j)) :
    Holds stored session (s.step statement (i, choice)) where
  stored := hstored
  session j := by
    by_cases hj : j = i
    · subst hj
      rw [step_phase_self]
      exact hself
    · rw [step_phase_of_ne hj]
      exact hother j hj

end Sessions

end Lib
