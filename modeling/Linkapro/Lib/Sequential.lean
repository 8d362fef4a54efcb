import Linkapro.Lib.Interleave

/-!
# Programs that run alone

A program that runs alone performs its calls one after another, each under a choice
of its own. When the choices end before the program does, it has crashed. The rule
of a lone run turns a contract on the calls into a relation of the states before
and after it. A run that ends is also one of the relation `Runs`, whose rules take a
program apart along its sequence.
-/

namespace Lib

variable {σ χ Op α β : Type} {Ret : Op → Type}

/-- What is left after a program has run alone. -/
structure LoneRun (σ : Type) {Op : Type} (Ret : Op → Type) (α : Type) where
  /-- The value of the program. A program that has crashed has none. -/
  value : Option α
  /-- The calls that have been performed, newest first. -/
  log : Log Ret
  state : σ

/-- Run a program alone, after the calls of a log. -/
def runAlone (exec : Exec σ χ Ret) : List χ → Program Ret α → Log Ret → σ → LoneRun σ Ret α
  | _, .done value, log, s => { value := some value, log, state := s }
  | [], .call _ _, log, s => { value := none, log, state := s }
  | choice :: choices, .call op next, log, s =>
    let result := exec choice op s
    runAlone exec choices (next result.1) (⟨op, result.1⟩ :: log) result.2

variable {exec : Exec σ χ Ret} {contract : Contract Ret}

@[simp] theorem runAlone_done {choices : List χ} {value : α} {log : Log Ret} {s : σ} :
    runAlone exec choices (.done value) log s = { value := some value, log, state := s } := by
  cases choices <;> rfl

/-- The calls that a contract allows keep a relation between a log and a state. -/
def KeepsAlone (exec : Exec σ χ Ret) (contract : Contract Ret) (I : Log Ret → σ → Prop) : Prop :=
  ∀ log s choice op, I log s → contract.allowed log op →
    contract.possible ⟨op, (exec choice op s).1⟩ ∧
      I (⟨op, (exec choice op s).1⟩ :: log) (exec choice op s).2

/-- The rule of a lone run: what the allowed calls keep holds at its end, and so does the
final condition of its value. -/
theorem Program.Follows.runAlone {I : Log Ret → σ → Prop} (hkeeps : KeepsAlone exec contract I)
    {program : Program Ret α} {log : Log Ret} {post : Log Ret → α → Prop}
    (h : program.Follows contract log post) {s : σ} (hI : I log s) (choices : List χ) :
    let run := runAlone exec choices program log s
    I run.log run.state ∧ ∀ value, run.value = some value → post run.log value := by
  induction program generalizing log s choices with
  | done value =>
    rw [runAlone_done]
    refine ⟨hI, fun value' hvalue => ?_⟩
    cases hvalue
    exact h
  | call op next ih =>
    cases choices with
    | nil => exact ⟨hI, fun value hvalue => by cases hvalue⟩
    | cons choice choices =>
      obtain ⟨hpossible, hI'⟩ := hkeeps log s choice op hI h.1
      exact ih _ (h.2 _ hpossible) hI' choices

namespace Program

/-- A program alone takes one state to another and ends with a value. -/
def Runs (exec : Exec σ χ Ret) : Program Ret α → σ → α → σ → Prop
  | .done value, s, outcome, after => outcome = value ∧ after = s
  | .call op next, s, outcome, after =>
      ∃ choice, Runs exec (next (exec choice op s).1) (exec choice op s).2 outcome after

variable {program : Program Ret α} {f : α → Program Ret β} {s after : σ}

/-- A sequence runs through the state between its parts. -/
theorem runs_bind_iff {outcome : β} :
    Runs exec (program >>= f) s outcome after ↔
      ∃ value middle, program.Runs exec s value middle ∧ (f value).Runs exec middle outcome after := by
  induction program generalizing s with
  | done value =>
    constructor
    · exact fun h => ⟨value, s, ⟨rfl, rfl⟩, h⟩
    · rintro ⟨_, _, ⟨rfl, rfl⟩, h⟩
      exact h
  | call op next ih =>
    constructor
    · rintro ⟨choice, h⟩
      obtain ⟨value, middle, hfirst, hrest⟩ := (ih _).mp h
      exact ⟨value, middle, ⟨choice, hfirst⟩, hrest⟩
    · rintro ⟨value, middle, ⟨choice, hfirst⟩, hrest⟩
      exact ⟨choice, (ih _).mpr ⟨value, middle, hfirst, hrest⟩⟩

/-- A lone run that ends is a run. -/
theorem runs_of_runAlone {choices : List χ} {log : Log Ret} {value : α}
    (h : (runAlone exec choices program log s).value = some value) :
    program.Runs exec s value (runAlone exec choices program log s).state := by
  induction program generalizing s log choices with
  | done value' =>
    rw [runAlone_done] at h ⊢
    exact ⟨(Option.some.inj h).symm, rfl⟩
  | call op next ih =>
    cases choices with
    | nil => cases h
    | cons choice choices => exact ⟨choice, ih _ h⟩

end Program

/-- What a program that has run alone to its end leaves. -/
structure Finished (σ α : Type) where
  /-- The value of the program. -/
  value : α
  /-- The number of the next call. -/
  calls : ℕ
  state : σ

namespace Program

/-- Run a program alone to its end, each call under the choice of its number. -/
def runOn (exec : Exec σ χ Ret) (choices : ℕ → χ) : Program Ret α → ℕ → σ → Finished σ α
  | .done value, k, s => { value, calls := k, state := s }
  | .call op next, k, s =>
    let result := exec (choices k) op s
    runOn exec choices (next result.1) (k + 1) result.2

variable {choices : ℕ → χ} {k : ℕ} {s : σ}

/-- A sequence runs its second part from where the first one has finished. -/
theorem runOn_bind {program : Program Ret α} {f : α → Program Ret β} :
    runOn exec choices (program >>= f) k s =
      let first := runOn exec choices program k s
      runOn exec choices (f first.value) first.calls first.state := by
  induction program generalizing k s with
  | done value => rfl
  | call op next ih => exact ih _

/-- A lone run passes through a point with the property `P`, which speaks about what is left of
the program and about the state. -/
def Passes (exec : Exec σ χ Ret) (choices : ℕ → χ) (P : Program Ret α → σ → Prop) :
    Program Ret α → ℕ → σ → Prop
  | .done value, _, s => P (.done value) s
  | .call op next, k, s =>
    P (.call op next) s ∨
      Passes exec choices P (next (exec (choices k) op s).1) (k + 1) (exec (choices k) op s).2

end Program

namespace Action

variable {Op ε : Type} {Ret : Op → Type} {exec : Exec σ χ (Raising ε Ret)} {s after : σ}

section RunOn

variable {choices : ℕ → χ} {k : ℕ}

/-- Run an action alone to its end. -/
def runOn (exec : Exec σ χ (Raising ε Ret)) (choices : ℕ → χ) (action : Action ε Ret α) (k : ℕ)
    (s : σ) : Finished σ (Except ε α) :=
  Program.runOn exec choices action.run k s

@[simp] theorem runOn_pure {value : α} :
    runOn exec choices (pure value : Action ε Ret α) k s = ⟨.ok value, k, s⟩ := rfl

@[simp] theorem runOn_throw {error : ε} :
    runOn exec choices (throw error : Action ε Ret α) k s = ⟨.error error, k, s⟩ := rfl

/-- A last call that answers. -/
theorem runOn_perform {op : Op} {answer : Ret op} (h : exec (choices k) op s = (.ok answer, after)) :
    runOn exec choices (perform op) k s = ⟨.ok answer, k + 1, after⟩ := by
  change (⟨(exec (choices k) op s).1, k + 1, (exec (choices k) op s).2⟩ : Finished σ _) = _
  rw [h]

/-- A last call that raises. -/
theorem runOn_perform_error {op : Op} {error : ε}
    (h : exec (choices k) op s = (.error error, after)) :
    runOn exec choices (perform op : Action ε Ret (Ret op)) k s = ⟨.error error, k + 1, after⟩ := by
  change (⟨(exec (choices k) op s).1, k + 1, (exec (choices k) op s).2⟩ : Finished σ _) = _
  rw [h]

/-- A call that answers is followed by the rest of the action. -/
theorem runOn_perform_bind {op : Op} {f : Ret op → Action ε Ret β} {answer : Ret op}
    (h : exec (choices k) op s = (.ok answer, after)) :
    runOn exec choices (perform op >>= f) k s = runOn exec choices (f answer) (k + 1) after := by
  have hprogram : (perform op >>= f : Action ε Ret β).run =
      .call op fun answer => ExceptT.bindCont f answer := rfl
  unfold runOn
  rw [hprogram, Program.runOn]
  simp only [h]
  rfl

/-- A call that raises ends the action. -/
theorem runOn_perform_bind_error {op : Op} {f : Ret op → Action ε Ret β} {error : ε}
    (h : exec (choices k) op s = (.error error, after)) :
    runOn exec choices (perform op >>= f) k s = ⟨.error error, k + 1, after⟩ := by
  have hprogram : (perform op >>= f : Action ε Ret β).run =
      .call op fun answer => ExceptT.bindCont f answer := rfl
  unfold runOn
  rw [hprogram, Program.runOn]
  simp only [h]
  rfl

/-- A sequence continues from the value of its first part, or ends with its error. -/
theorem runOn_bind {action : Action ε Ret α} {f : α → Action ε Ret β} :
    runOn exec choices (action >>= f) k s =
      let first := runOn exec choices action k s
      match first.value with
      | .ok value => runOn exec choices (f value) first.calls first.state
      | .error error => ⟨.error error, first.calls, first.state⟩ := by
  refine Program.runOn_bind.trans ?_
  change Program.runOn exec choices (ExceptT.bindCont f (runOn exec choices action k s).value) _ _ = _
  cases hvalue : (runOn exec choices action k s).value with
  | ok value =>
    simp only [hvalue]
    rfl
  | error error =>
    simp only [hvalue]
    rfl

/-- `try … except …` continues from the error of its body, or ends with its value. -/
theorem runOn_attempt {action : Action ε Ret α} {handler : ε → Action ε Ret α} :
    runOn exec choices (attempt action handler) k s =
      let first := runOn exec choices action k s
      match first.value with
      | .ok value => ⟨.ok value, first.calls, first.state⟩
      | .error error => runOn exec choices (handler error) first.calls first.state := by
  refine Program.runOn_bind.trans ?_
  unfold runOn
  cases hvalue : (Program.runOn exec choices action.run k s).value with
  | ok value =>
    simp only [hvalue]
    rfl
  | error error => simp only [hvalue]

variable {P : Program (Raising ε Ret) (Except ε β) → σ → Prop}

/-- A run passes through a point at its first call or after the answer. -/
theorem passes_perform_bind {op : Op} {f : Ret op → Action ε Ret β} {answer : Ret op}
    (h : exec (choices k) op s = (.ok answer, after)) :
    Program.Passes exec choices P (perform op >>= f).run k s ↔
      P (perform op >>= f).run s ∨ Program.Passes exec choices P (f answer).run (k + 1) after := by
  have hprogram : (perform op >>= f : Action ε Ret β).run =
      .call op fun answer => ExceptT.bindCont f answer := rfl
  rw [hprogram, Program.Passes]
  simp only [h]
  rfl

/-- A run whose first call raises passes through a point there or at its end. -/
theorem passes_perform_bind_error {op : Op} {f : Ret op → Action ε Ret β} {error : ε}
    (h : exec (choices k) op s = (.error error, after)) :
    Program.Passes exec choices P (perform op >>= f).run k s ↔
      P (perform op >>= f).run s ∨ P (.done (.error error)) after := by
  have hprogram : (perform op >>= f : Action ε Ret β).run =
      .call op fun answer => ExceptT.bindCont f answer := rfl
  rw [hprogram, Program.Passes]
  simp only [h]
  rfl

end RunOn

/-- An action alone succeeds with a value. -/
def Succeeds (exec : Exec σ χ (Raising ε Ret)) (action : Action ε Ret α) (s : σ) (value : α)
    (after : σ) : Prop :=
  Program.Runs exec action.run s (.ok value) after

@[simp] theorem succeeds_pure_iff {value outcome : α} :
    Succeeds exec (pure value : Action ε Ret α) s outcome after ↔ outcome = value ∧ after = s := by
  constructor
  · exact fun h => ⟨Except.ok.inj h.1, h.2⟩
  · exact fun h => ⟨congrArg Except.ok h.1, h.2⟩

@[simp] theorem succeeds_throw_iff {error : ε} {outcome : α} :
    Succeeds exec (throw error : Action ε Ret α) s outcome after ↔ False := by
  refine iff_false_intro fun h => ?_
  have hraised : Except.ok outcome = Except.error error := h.1
  cases hraised

@[simp] theorem succeeds_perform_iff {op : Op} {outcome : Ret op} :
    Succeeds exec (perform op) s outcome after ↔ ∃ choice, exec choice op s = (.ok outcome, after) := by
  refine exists_congr fun choice => ?_
  rw [Prod.ext_iff, eq_comm (a := (exec choice op s).1), eq_comm (a := (exec choice op s).2)]
  rfl

/-- A call that succeeds is followed by the rest of the action. -/
theorem runAlone_perform_bind {op : Op} {answer : Ret op} {choice : χ} {choices : List χ}
    {f : Ret op → Action ε Ret β} {log : Log (Raising ε Ret)}
    (h : exec choice op s = (.ok answer, after)) :
    runAlone exec (choice :: choices) (perform op >>= f).run log s =
      runAlone exec choices (f answer).run (⟨op, .ok answer⟩ :: log) after := by
  have hprogram : (perform op >>= f : Action ε Ret β).run =
      .call op fun answer => ExceptT.bindCont f answer := rfl
  rw [hprogram, runAlone]
  simp only [h]
  rfl

/-- The state that an action alone leaves, by its first call: the call is not performed, it
raises, or the rest of the action follows its answer. -/
theorem runAlone_state_perform_bind {Q : σ → Prop} {op : Op} {choices : List χ}
    {f : Ret op → Action ε Ret β} {log : Log (Raising ε Ret)} (hs : Q s)
    (herror : ∀ choice error, (exec choice op s).1 = .error error → Q (exec choice op s).2)
    (hok : ∀ choice choices answer, (exec choice op s).1 = .ok answer →
      Q (runAlone exec choices (f answer).run (⟨op, .ok answer⟩ :: log) (exec choice op s).2).state) :
    Q (runAlone exec choices (perform op >>= f).run log s).state := by
  have hprogram : (perform op >>= f : Action ε Ret β).run =
      .call op fun answer => ExceptT.bindCont f answer := rfl
  rw [hprogram]
  cases choices with
  | nil => exact hs
  | cons choice choices =>
    rw [runAlone]
    cases hanswer : (exec choice op s).1 with
    | error error =>
      have hstop : (ExceptT.bindCont f (.error error) : Program (Raising ε Ret) (Except ε β)) =
          .done (.error error) := rfl
      simp only [hstop, runAlone_done]
      exact herror choice error hanswer
    | ok answer => exact hok choice choices answer hanswer

/-- The state that a last call alone leaves. -/
theorem runAlone_state_perform {Q : σ → Prop} {op : Op} {choices : List χ}
    {log : Log (Raising ε Ret)} (hs : Q s) (hop : ∀ choice, Q (exec choice op s).2) :
    Q (runAlone exec choices (perform op : Action ε Ret (Ret op)).run log s).state := by
  have hprogram : (perform op : Action ε Ret (Ret op)).run = .call op .done := rfl
  rw [hprogram]
  cases choices with
  | nil => exact hs
  | cons choice choices =>
    simp only [runAlone, runAlone_done]
    exact hop choice

/-- A sequence succeeds when both of its parts do. -/
theorem succeeds_bind_iff {action : Action ε Ret α} {f : α → Action ε Ret β} {outcome : β} :
    Succeeds exec (action >>= f) s outcome after ↔
      ∃ value middle, action.Succeeds exec s value middle ∧
        (f value).Succeeds exec middle outcome after := by
  refine Iff.trans Program.runs_bind_iff ?_
  constructor
  · rintro ⟨result, middle, hfirst, hrest⟩
    cases result with
    | error error => cases hrest.1
    | ok value => exact ⟨value, middle, hfirst, hrest⟩
  · rintro ⟨value, middle, hfirst, hrest⟩
    exact ⟨.ok value, middle, hfirst, hrest⟩

end Action

end Lib
