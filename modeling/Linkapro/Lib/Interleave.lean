import Mathlib.Logic.Function.Basic
import Linkapro.Lib.Program

/-!
# Interleaved runs of programs over one store

A pool holds the shared state, what is left of each program and the history of
performed calls. One turn performs the next call of one program under a choice
that fixes what the program leaves open: elapsed time, faults, answers of other
services. A run is any list of turns, so a program that never gets another turn
has crashed. The run rules reduce an invariant to the one call of a turn.
-/

namespace Lib

/-- The effect of one call on the shared state, under a choice. -/
abbrev Exec (σ χ : Type) {Op : Type} (Ret : Op → Type) : Type :=
  χ → (op : Op) → σ → Ret op × σ

/-- The programs `ι` between two turns. -/
structure Pool (ι σ : Type) {Op : Type} (Ret : Op → Type) (α : Type) where
  /-- The shared state. -/
  state : σ
  /-- What is left of each program. -/
  rest : ι → Program Ret α
  /-- Every performed call with the program that performed it, newest first. -/
  history : List (ι × Call Ret)

namespace Pool

variable {ι σ χ Op α : Type} {Ret : Op → Type} [DecidableEq ι]

/-- The pool before any call has been performed. -/
def start (state : σ) (programs : ι → Program Ret α) : Pool ι σ Ret α :=
  { state, rest := programs, history := [] }

/-- The calls of one program, newest first. -/
def logOf (i : ι) : List (ι × Call Ret) → Log Ret
  | [] => []
  | entry :: history => if entry.1 = i then entry.2 :: logOf i history else logOf i history

/-- The calls of one program of the pool, newest first. -/
def log (pool : Pool ι σ Ret α) (i : ι) : Log Ret := logOf i pool.history

/-- The operation that a program performs on its next turn. -/
def next (pool : Pool ι σ Ret α) (i : ι) : Option Op :=
  match pool.rest i with
  | .done _ => none
  | .call op _ => some op

/-- One turn of a program. A finished program leaves the pool as it is. -/
def step (exec : Exec σ χ Ret) (pool : Pool ι σ Ret α) (turn : ι × χ) : Pool ι σ Ret α :=
  match pool.rest turn.1 with
  | .done _ => pool
  | .call op next =>
    let result := exec turn.2 op pool.state
    { state := result.2
      rest := Function.update pool.rest turn.1 (next result.1)
      history := (turn.1, ⟨op, result.1⟩) :: pool.history }

/-- A run of the pool. -/
def run (exec : Exec σ χ Ret) (pool : Pool ι σ Ret α) (schedule : List (ι × χ)) :
    Pool ι σ Ret α :=
  schedule.foldl (step exec) pool

/-- Every turn of the run is taken from a pool that satisfies `P` for that turn. -/
def Always (exec : Exec σ χ Ret) (P : Pool ι σ Ret α → ι × χ → Prop) :
    Pool ι σ Ret α → List (ι × χ) → Prop
  | _, [] => True
  | pool, turn :: schedule => P pool turn ∧ Always exec P (pool.step exec turn) schedule

instance Always.decidable (exec : Exec σ χ Ret) (P : Pool ι σ Ret α → ι × χ → Prop)
    [∀ pool turn, Decidable (P pool turn)] :
    ∀ (pool : Pool ι σ Ret α) (schedule : List (ι × χ)), Decidable (Always exec P pool schedule)
  | _, [] => isTrue trivial
  | pool, turn :: schedule =>
    have := Always.decidable exec P (pool.step exec turn) schedule
    inferInstanceAs (Decidable (P pool turn ∧ Always exec P (pool.step exec turn) schedule))

variable {exec : Exec σ χ Ret} {pool : Pool ι σ Ret α} {i j : ι} {choice : χ}

@[simp] theorem run_nil : pool.run exec [] = pool := rfl

@[simp] theorem run_cons {turn : ι × χ} {schedule : List (ι × χ)} :
    pool.run exec (turn :: schedule) = (pool.step exec turn).run exec schedule := rfl

/-- Running one schedule after another is running their concatenation. -/
theorem run_append {first second : List (ι × χ)} :
    pool.run exec (first ++ second) = (pool.run exec first).run exec second :=
  List.foldl_append

omit [DecidableEq ι] in
theorem next_of_call {op : Op} {next : Ret op → Program Ret α} (h : pool.rest i = .call op next) :
    pool.next i = some op := by
  simp only [Pool.next, h]

omit [DecidableEq ι] in
/-- A program without a next operation has finished. -/
theorem done_of_next_eq_none (h : pool.next i = none) : ∃ value, pool.rest i = .done value := by
  cases hrest : pool.rest i with
  | done value => exact ⟨value, rfl⟩
  | call op next =>
    rw [next_of_call hrest] at h
    cases h

/-- A finished program does nothing on its turn. -/
theorem step_of_done {value : α} (h : pool.rest i = .done value) :
    pool.step exec (i, choice) = pool := by
  simp only [step, h]

/-- The turn of a program that performs a call. -/
theorem step_of_call {op : Op} {next : Ret op → Program Ret α} (h : pool.rest i = .call op next) :
    pool.step exec (i, choice) =
      { state := (exec choice op pool.state).2
        rest := Function.update pool.rest i (next (exec choice op pool.state).1)
        history := (i, ⟨op, (exec choice op pool.state).1⟩) :: pool.history } := by
  simp only [step, h]

@[simp] theorem log_start {state : σ} {programs : ι → Program Ret α} :
    (start state programs).log i = [] := rfl

@[simp] theorem log_cons_self {state : σ} {rest : ι → Program Ret α} {call : Call Ret}
    {history : List (ι × Call Ret)} :
    log ⟨state, rest, (i, call) :: history⟩ i = call :: log ⟨state, rest, history⟩ i := by
  simp only [log, logOf, if_true]

theorem log_cons_other {state : σ} {rest : ι → Program Ret α} {call : Call Ret}
    {history : List (ι × Call Ret)} (h : j ≠ i) :
    log ⟨state, rest, (j, call) :: history⟩ i = log ⟨state, rest, history⟩ i := by
  simp only [log, logOf, if_neg h]

private theorem mem_logOf_iff {call : Call Ret} {history : List (ι × Call Ret)} :
    call ∈ logOf i history ↔ (i, call) ∈ history := by
  induction history with
  | nil => simp [logOf]
  | cons entry history ih =>
    obtain ⟨j, call'⟩ := entry
    by_cases h : j = i
    · subst h
      simp [logOf, ih]
    · simp [logOf, h, ih, Ne.symm h]

/-- The log of a program holds the calls that the history shows it to have performed. -/
theorem mem_log_iff {call : Call Ret} : call ∈ pool.log i ↔ (i, call) ∈ pool.history :=
  mem_logOf_iff

/-- The log depends on the history only. -/
theorem log_congr {pool' : Pool ι σ Ret α} (h : pool.history = pool'.history) :
    pool.log i = pool'.log i := by
  simp only [log, h]

/-- The turn of a program extends its own log by the call it performs. -/
theorem log_step_self {op : Op} {next : Ret op → Program Ret α} (h : pool.rest i = .call op next) :
    (pool.step exec (i, choice)).log i = ⟨op, (exec choice op pool.state).1⟩ :: pool.log i := by
  rw [step_of_call h, log_cons_self]
  rfl

/-- The turn of a program leaves the log of every other program as it is. -/
theorem log_step_other (h : i ≠ j) : (pool.step exec (i, choice)).log j = pool.log j := by
  cases hrest : pool.rest i with
  | done value => rw [step_of_done hrest]
  | call op next =>
    rw [step_of_call hrest, log_cons_other h]
    rfl

/-- The turn of a program leaves what is left of every other program as it is. -/
theorem rest_step_other (h : i ≠ j) : (pool.step exec (i, choice)).rest j = pool.rest j := by
  cases hrest : pool.rest i with
  | done value => rw [step_of_done hrest]
  | call op next =>
    rw [step_of_call hrest]
    exact Function.update_of_ne (Ne.symm h) _ _

/-- The turn of a program leaves the next operation of every other program as it is. -/
theorem next_step_other (h : i ≠ j) : (pool.step exec (i, choice)).next j = pool.next j := by
  simp only [next, rest_step_other h]

/-- A call that a log shows after a turn is the call of the turn or was there before. -/
theorem mem_log_step {op : Op} {next : Ret op → Program Ret α} {call : Call Ret}
    (h : pool.rest i = .call op next) :
    call ∈ (pool.step exec (i, choice)).log j ↔
      (i = j ∧ call = ⟨op, (exec choice op pool.state).1⟩) ∨ call ∈ pool.log j := by
  by_cases hij : i = j
  · subst hij
    rw [log_step_self h, List.mem_cons]
    simp
  · rw [log_step_other hij]
    simp [hij]

/-- What a program's log shows after a turn: what it showed before, and the new call if
the turn was its own. -/
theorem mem_filterMap_log_step {β : Type} {observe : Call Ret → Option β} {op : Op}
    {next : Ret op → Program Ret α} {x : β} (h : pool.rest i = .call op next) :
    x ∈ ((pool.step exec (i, choice)).log j).filterMap observe ↔
      (i = j ∧ observe ⟨op, (exec choice op pool.state).1⟩ = some x) ∨
        x ∈ (pool.log j).filterMap observe := by
  by_cases hij : i = j
  · subst hij
    rw [log_step_self h, List.mem_filterMap, List.mem_filterMap]
    simp
  · rw [log_step_other hij]
    simp [hij]

/-- A turn only adds to the history. -/
theorem history_step (exec : Exec σ χ Ret) (pool : Pool ι σ Ret α) (turn : ι × χ) :
    ∃ calls, (pool.step exec turn).history = calls ++ pool.history := by
  obtain ⟨i, choice⟩ := turn
  cases hrest : pool.rest i with
  | done value => exact ⟨[], by rw [step_of_done hrest]; rfl⟩
  | call op next => exact ⟨[_], by rw [step_of_call hrest]; rfl⟩

/-- A run only adds to the history. -/
theorem history_run (exec : Exec σ χ Ret) (pool : Pool ι σ Ret α) (schedule : List (ι × χ)) :
    ∃ calls, (pool.run exec schedule).history = calls ++ pool.history := by
  induction schedule generalizing pool with
  | nil => exact ⟨[], rfl⟩
  | cons turn schedule ih =>
    obtain ⟨later, hlater⟩ := ih (pool.step exec turn)
    obtain ⟨calls, hcalls⟩ := history_step exec pool turn
    exact ⟨later ++ calls, by rw [run_cons, hlater, hcalls, List.append_assoc]⟩

/-- A program that has not performed a call is the one that it was. -/
theorem rest_run_of_log_eq_nil {program : Program Ret α} {schedule : List (ι × χ)}
    (h : pool.log i = [] → pool.rest i = program) (hlog : (pool.run exec schedule).log i = []) :
    (pool.run exec schedule).rest i = program := by
  induction schedule generalizing pool with
  | nil => exact h hlog
  | cons turn schedule ih =>
    obtain ⟨j, choice⟩ := turn
    refine ih (fun hstep => ?_) hlog
    by_cases hij : j = i
    · subst hij
      cases hrest : pool.rest j with
      | done value =>
        rw [step_of_done hrest] at hstep ⊢
        exact h hstep
      | call op next =>
        rw [log_step_self hrest] at hstep
        cases hstep
    · rw [log_step_other hij] at hstep
      rw [rest_step_other hij]
      exact h hstep

/-- The answers of the store are possible ones for every contract. -/
def Answers (exec : Exec σ χ Ret) (contract : ι → Contract Ret) : Prop :=
  ∀ i choice op state, (contract i).possible ⟨op, (exec choice op state).1⟩

/-- Every program of the pool follows its contract from its own log on. -/
def Disciplined (contract : ι → Contract Ret) (post : ι → Log Ret → α → Prop)
    (pool : Pool ι σ Ret α) : Prop :=
  ∀ i, (pool.rest i).Follows (contract i) (pool.log i) (post i)

variable {contract : ι → Contract Ret} {post : ι → Log Ret → α → Prop}

/-- A program of a disciplined pool only performs calls that its contract allows. -/
theorem Disciplined.allowed_call (h : Disciplined contract post pool) {op : Op}
    {next : Ret op → Program Ret α} (hrest : pool.rest i = .call op next) :
    (contract i).allowed (pool.log i) op := by
  have hi := h i
  rw [hrest] at hi
  exact hi.1

/-- A finished program of a disciplined pool satisfies its final condition. -/
theorem Disciplined.post_done (h : Disciplined contract post pool) {value : α}
    (hrest : pool.rest i = .done value) : post i (pool.log i) value := by
  have hi := h i
  rwa [hrest] at hi

/-- A turn with a possible answer keeps the pool disciplined. -/
theorem Disciplined.step_of_possible (h : Disciplined contract post pool)
    (hpossible : ∀ op next, pool.rest i = .call op next →
      (contract i).possible ⟨op, (exec choice op pool.state).1⟩) :
    Disciplined contract post (pool.step exec (i, choice)) := by
  intro j
  by_cases hij : i = j
  · subst hij
    have hi := h i
    cases hrest : pool.rest i with
    | done value => rwa [step_of_done hrest]
    | call op next =>
      rw [hrest] at hi
      rw [log_step_self hrest, step_of_call hrest]
      simpa only [Function.update_self] using hi.2 _ (hpossible op next hrest)
  · rw [rest_step_other hij, log_step_other hij]
    exact h j

/-- One turn keeps the pool disciplined. -/
theorem Disciplined.step (h : Disciplined contract post pool) (hexec : Answers exec contract)
    (turn : ι × χ) : Disciplined contract post (pool.step exec turn) :=
  h.step_of_possible fun op _ _ => hexec turn.1 turn.2 op pool.state

/-- What a turn of a disciplined pool keeps: an invariant that every allowed call
keeps, on a turn that satisfies the condition `C`. -/
def Keeps (exec : Exec σ χ Ret) (contract : ι → Contract Ret) (post : ι → Log Ret → α → Prop)
    (C : Pool ι σ Ret α → ι × χ → Prop) (I : Pool ι σ Ret α → Prop) : Prop :=
  ∀ (pool : Pool ι σ Ret α) (i : ι) (choice : χ) (op : Op) (next : Ret op → Program Ret α),
    Disciplined contract post pool → I pool → C pool (i, choice) →
      pool.rest i = .call op next → (contract i).allowed (pool.log i) op →
        I (pool.step exec (i, choice))

variable {I : Pool ι σ Ret α → Prop} {C P : Pool ι σ Ret α → ι × χ → Prop}
  {schedule : List (ι × χ)}

/-- One turn keeps an invariant that its calls keep. -/
theorem Keeps.step (h : Keeps exec contract post C I) (hpool : Disciplined contract post pool)
    (hI : I pool) {turn : ι × χ} (hturn : C pool turn) : I (pool.step exec turn) := by
  obtain ⟨i, choice⟩ := turn
  cases hrest : pool.rest i with
  | done value => rwa [step_of_done hrest]
  | call op next =>
    exact h pool i choice op next hpool hI hturn hrest (hpool.allowed_call hrest)

/-- An invariant of every turn is one of the turns that satisfy a condition. -/
theorem Keeps.of_all (h : Keeps exec contract post (fun _ _ => True) I) :
    Keeps exec contract post C I :=
  fun pool i choice op next hpool hI _ => h pool i choice op next hpool hI trivial

/-- The run rule: an invariant of every turn holds after every run. -/
theorem Keeps.run (h : Keeps exec contract post C I) (hexec : Answers exec contract)
    (hpool : Disciplined contract post pool) (hI : I pool) (hschedule : Always exec C pool schedule) :
    Disciplined contract post (pool.run exec schedule) ∧ I (pool.run exec schedule) := by
  induction schedule generalizing pool with
  | nil => exact ⟨hpool, hI⟩
  | cons turn schedule ih =>
    exact ih (hpool.step hexec turn) (h.step hpool hI hschedule.1) hschedule.2

/-- The turn rule: what the invariant gives for one turn holds for all turns of a run. -/
theorem Keeps.always (h : Keeps exec contract post C I) (hexec : Answers exec contract)
    (hpool : Disciplined contract post pool) (hI : I pool) (hschedule : Always exec C pool schedule)
    (hturn : ∀ (pool : Pool ι σ Ret α) (turn : ι × χ), Disciplined contract post pool → I pool →
      C pool turn → P pool turn) : Always exec P pool schedule := by
  induction schedule generalizing pool with
  | nil => trivial
  | cons turn schedule ih =>
    exact ⟨hturn pool turn hpool hI hschedule.1,
      ih (hpool.step hexec turn) (h.step hpool hI hschedule.1) hschedule.2⟩

/-- The turn rule of the contracts alone. -/
theorem Disciplined.always (hpool : Disciplined contract post pool) (hexec : Answers exec contract)
    (hturn : ∀ (pool : Pool ι σ Ret α) (turn : ι × χ), Disciplined contract post pool →
      P pool turn) : Always exec P pool schedule := by
  induction schedule generalizing pool with
  | nil => trivial
  | cons turn schedule ih => exact ⟨hturn pool turn hpool, ih (hpool.step hexec turn)⟩

/-- A property of every state that a run reaches holds after each of its turns, when
it is inherited by earlier states. -/
theorem always_step_of_run (Q : Pool ι σ Ret α → Prop)
    (hback : ∀ (pool : Pool ι σ Ret α) (later : List (ι × χ)), Q (pool.run exec later) → Q pool)
    (h : Q (pool.run exec schedule)) :
    Always exec (fun pool turn => Q (pool.step exec turn)) pool schedule := by
  induction schedule generalizing pool with
  | nil => trivial
  | cons turn schedule ih => exact ⟨hback _ schedule h, ih h⟩

/-- A condition that holds of every turn holds along every run. -/
theorem always_of_forall {P : Pool ι σ Ret α → ι × χ → Prop} {schedule : List (ι × χ)}
    (h : ∀ pool turn, P pool turn) : Always exec P pool schedule := by
  induction schedule generalizing pool with
  | nil => trivial
  | cons turn schedule ih => exact ⟨h _ _, ih⟩

end Pool

end Lib
