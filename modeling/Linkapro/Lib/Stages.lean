import Linkapro.Lib.Interleave

/-!
# Programs that pass through stages

The calls of a program move it from stage to stage, and the stage it has reached
says which calls it may perform next, as long as the answers are possible ones. Stages
are computed from the log, so that an invariant of a pool can speak about the stage of
each program. A program can be expanded into one over finer operations, each call
becoming a program of its own.
-/

namespace Lib

/-- The stages of a program and the calls that are permitted at each of them. -/
structure Stages {Op : Type} (Ret : Op → Type) (Φ : Type) where
  /-- The stage before the first call. -/
  initial : Φ
  /-- The stage that a call leads to. -/
  advance : Φ → Call Ret → Φ
  /-- The calls that the program may perform at a stage. -/
  permits : Φ → Op → Prop
  /-- The answers that the store may give. -/
  possible : Call Ret → Prop := fun _ => True

namespace Stages

variable {Op : Type} {Ret : Op → Type} {Φ α : Type}

/-- The stage that a log has led to. -/
def stage (stages : Stages Ret Φ) : Log Ret → Φ
  | [] => stages.initial
  | call :: log => stages.advance (stages.stage log) call

@[simp] theorem stage_nil {stages : Stages Ret Φ} : stages.stage [] = stages.initial := rfl

@[simp] theorem stage_cons {stages : Stages Ret Φ} {call : Call Ret} {log : Log Ret} :
    stages.stage (call :: log) = stages.advance (stages.stage log) call := rfl

/-- The contract of a program that performs the permitted calls only. -/
def contract (stages : Stages Ret Φ) : Contract Ret where
  allowed log op := stages.permits (stages.stage log) op
  possible := stages.possible

end Stages

namespace Program

variable {Op Op' : Type} {Ret : Op → Type} {Ret' : Op' → Type} {Φ Φ' α β : Type}
  {stages : Stages Ret Φ} {stages' : Stages Ret' Φ'}

/-- From the first stage on, the program performs permitted calls only, and the stage at which it
finishes with a value satisfies `P`. -/
def Takes (stages : Stages Ret Φ) : Φ → Program Ret α → (Φ → α → Prop) → Prop
  | first, .done value, P => P first value
  | first, .call op next, P =>
      stages.permits first op ∧ ∀ answer, stages.possible ⟨op, answer⟩ →
        Takes stages (stages.advance first ⟨op, answer⟩) (next answer) P

theorem Takes.mono {program : Program Ret α} {first : Φ} {P Q : Φ → α → Prop}
    (h : program.Takes stages first P) (hPQ : ∀ last value, P last value → Q last value) :
    program.Takes stages first Q := by
  induction program generalizing first with
  | done value => exact hPQ _ _ h
  | call op next ih => exact ⟨h.1, fun answer hanswer => ih answer (h.2 answer hanswer)⟩

/-- The stages of a sequence are the stages of its parts. -/
theorem takes_bind_iff {program : Program Ret α} {f : α → Program Ret β} {first : Φ}
    {P : Φ → β → Prop} :
    Takes stages first (program >>= f) P ↔
      program.Takes stages first fun last value => (f value).Takes stages last P := by
  induction program generalizing first with
  | done value => rfl
  | call op next ih =>
    refine and_congr_right fun _ => forall_congr' fun answer => imp_congr_right fun _ => ?_
    exact ih answer

/-- A program that passes through its stages follows their contract. -/
theorem Takes.follows {program : Program Ret α} {log : Log Ret} {P : Φ → α → Prop}
    (h : program.Takes stages (stages.stage log) P) :
    program.Follows stages.contract log fun log' value => P (stages.stage log') value := by
  induction program generalizing log with
  | done value => exact h
  | call op next ih => exact ⟨h.1, fun answer hanswer => ih answer (h.2 answer hanswer)⟩

/-- Replace every call by a program over other operations that computes its answer. -/
def expand (handler : (op : Op) → Program Ret' (Ret op)) : Program Ret α → Program Ret' α
  | .done value => .done value
  | .call op next => handler op >>= fun answer => (next answer).expand handler

/-- If every call is expanded into a program that leads to the same stage, then the expanded
program passes through the same stages. -/
theorem Takes.expand {handler : (op : Op) → Program Ret' (Ret op)} {c : Φ' → Φ}
    (hhandler : ∀ first op, stages.permits (c first) op →
      (handler op).Takes stages' first fun last answer =>
        stages.possible ⟨op, answer⟩ ∧ c last = stages.advance (c first) ⟨op, answer⟩)
    {program : Program Ret α} {first : Φ'} {P : Φ → α → Prop}
    (h : program.Takes stages (c first) P) :
    (program.expand handler).Takes stages' first fun last value => P (c last) value := by
  induction program generalizing first with
  | done value => exact h
  | call op next ih =>
    refine takes_bind_iff.mpr ((hhandler first op h.1).mono fun last answer hlast => ?_)
    exact ih answer (hlast.2 ▸ h.2 answer hlast.1)

end Program

namespace Action

variable {Op Op' ε : Type} {Ret : Op → Type} {Ret' : Op' → Type} {Φ Φ' α β : Type}
  {stages : Stages (Raising ε Ret) Φ} {stages' : Stages (Raising ε Ret') Φ'} {first : Φ}

/-- The stages of an action, whose final condition sees its value or its error. -/
def Takes (stages : Stages (Raising ε Ret) Φ) (first : Φ) (action : Action ε Ret α)
    (P : Φ → Except ε α → Prop) : Prop :=
  Program.Takes stages first action.run P

theorem Takes.mono {action : Action ε Ret α} {P Q : Φ → Except ε α → Prop}
    (h : action.Takes stages first P) (hPQ : ∀ last outcome, P last outcome → Q last outcome) :
    action.Takes stages first Q :=
  Program.Takes.mono h hPQ

theorem Takes.pure {value : α} {P : Φ → Except ε α → Prop} (h : P first (.ok value)) :
    Takes stages first (pure value) P :=
  h

theorem Takes.throw {error : ε} {P : Φ → Except ε α → Prop} (h : P first (.error error)) :
    Takes stages first (throw error) P :=
  h

/-- A permitted call. -/
theorem Takes.perform {op : Op} {P : Φ → Except ε (Ret op) → Prop} (h : stages.permits first op)
    (hP : ∀ answer : Except ε (Ret op), stages.possible ⟨op, answer⟩ →
      P (stages.advance first ⟨op, answer⟩) answer) : Takes stages first (perform op) P :=
  ⟨h, hP⟩

/-- The sequence rule, through a condition on the stage between the parts. -/
theorem Takes.bind {action : Action ε Ret α} {f : α → Action ε Ret β}
    {P : Φ → Except ε α → Prop} {Q : Φ → Except ε β → Prop} (h : action.Takes stages first P)
    (hok : ∀ last value, P last (.ok value) → (f value).Takes stages last Q)
    (herror : ∀ last error, P last (.error error) → Q last (.error error)) :
    Takes stages first (action >>= f) Q := by
  refine Program.takes_bind_iff.mpr (Program.Takes.mono h fun last outcome houtcome => ?_)
  cases outcome with
  | ok value => exact hok last value houtcome
  | error error => exact herror last error houtcome

/-- The rule of a branch. -/
theorem Takes.ite {c : Prop} [Decidable c] {yes no : Action ε Ret α} {P : Φ → Except ε α → Prop}
    (hyes : c → yes.Takes stages first P) (hno : ¬ c → no.Takes stages first P) :
    Takes stages first (if c then yes else no) P := by
  split
  · next h => exact hyes h
  · next h => exact hno h

/-- The rule of `try … except …`. -/
theorem Takes.attempt {action : Action ε Ret α} {handler : ε → Action ε Ret α}
    {P Q : Φ → Except ε α → Prop} (h : action.Takes stages first P)
    (hok : ∀ last value, P last (.ok value) → Q last (.ok value))
    (herror : ∀ last error, P last (.error error) → (handler error).Takes stages last Q) :
    Takes stages first (attempt action handler) Q := by
  refine Program.takes_bind_iff.mpr (Program.Takes.mono h fun last outcome houtcome => ?_)
  cases outcome with
  | ok value => exact hok last value houtcome
  | error error => exact herror last error houtcome

/-- Replace every call by an action over other operations. -/
def expand (handler : (op : Op) → Action ε Ret' (Ret op)) (action : Action ε Ret α) :
    Action ε Ret' α :=
  ExceptT.mk (action.run.expand fun op => (handler op).run)

/-- If every call is expanded into an action that leads to the same stage, then the expanded
action passes through the same stages. -/
theorem Takes.expand {handler : (op : Op) → Action ε Ret' (Ret op)} {c : Φ' → Φ}
    (hhandler : ∀ first op, stages.permits (c first) op →
      (handler op).Takes stages' first fun last answer =>
        stages.possible ⟨op, answer⟩ ∧ c last = stages.advance (c first) ⟨op, answer⟩)
    {action : Action ε Ret α} {first : Φ'} {P : Φ → Except ε α → Prop}
    (h : action.Takes stages (c first) P) :
    (action.expand handler).Takes stages' first fun last outcome => P (c last) outcome :=
  Program.Takes.expand hhandler h

/-- The action performs permitted calls only and ends at the stage at which it starts. -/
def Idles (stages : Stages (Raising ε Ret) Φ) (first : Φ) (action : Action ε Ret α) : Prop :=
  action.Takes stages first fun last _ => last = first

theorem Idles.pure {value : α} : Idles stages first (Pure.pure value : Action ε Ret α) :=
  Takes.pure rfl

theorem Idles.throw {error : ε} :
    Idles stages first (MonadExcept.throw error : Action ε Ret α) :=
  Takes.throw rfl

theorem Idles.perform {op : Op} (h : stages.permits first op)
    (hidle : ∀ answer : Except ε (Ret op), stages.advance first ⟨op, answer⟩ = first) :
    Idles stages first (Action.perform op : Action ε Ret (Ret op)) :=
  Takes.perform h fun answer _ => hidle answer

theorem Idles.bind {action : Action ε Ret α} {f : α → Action ε Ret β}
    (h : action.Idles stages first) (hf : ∀ value, (f value).Idles stages first) :
    Idles stages first (action >>= f) := by
  refine Takes.bind h (fun last value hlast => ?_) fun last error hlast => hlast
  exact hlast ▸ hf value

/-- After an idle part the rest starts at the same stage. -/
theorem Idles.then {action : Action ε Ret α} {f : α → Action ε Ret β} {Q : Φ → Except ε β → Prop}
    (h : action.Idles stages first) (hf : ∀ value, (f value).Takes stages first Q)
    (herror : ∀ error, Q first (.error error)) : Takes stages first (action >>= f) Q := by
  refine Takes.bind h (fun last value hlast => ?_) fun last error hlast => ?_
  · exact hlast ▸ hf value
  · exact hlast ▸ herror error

theorem Idles.ite {c : Prop} [Decidable c] {yes no : Action ε Ret α}
    (hyes : yes.Idles stages first) (hno : no.Idles stages first) :
    Idles stages first (if c then yes else no) :=
  Takes.ite (fun _ => hyes) fun _ => hno

theorem Idles.forM {f : α → Action ε Ret PUnit} {items : List α}
    (h : ∀ item ∈ items, (f item).Idles stages first) : Idles stages first (items.forM f) := by
  induction items with
  | nil => exact Idles.pure
  | cons item items ih =>
    refine (h item List.mem_cons_self).bind fun _ => ?_
    exact ih fun item hmem => h item (List.mem_cons_of_mem _ hmem)

end Action

namespace Pool

variable {ι σ χ Op Φ α : Type} {Ret : Op → Type} [DecidableEq ι] {exec : Exec σ χ Ret}
  {pool : Pool ι σ Ret α} {i j : ι} {choice : χ} {stages : Stages Ret Φ}

/-- The stage that a program of the pool has reached. -/
def stage (stages : Stages Ret Φ) (pool : Pool ι σ Ret α) (i : ι) : Φ :=
  stages.stage (pool.log i)

/-- A call moves the program that performs it to the next stage. -/
theorem stage_step_self {op : Op} {next : Ret op → Program Ret α}
    (h : pool.rest i = .call op next) :
    (pool.step exec (i, choice)).stage stages i =
      stages.advance (pool.stage stages i) ⟨op, (exec choice op pool.state).1⟩ := by
  rw [stage, log_step_self h]
  rfl

/-- A turn leaves the stage of every other program as it is. -/
theorem stage_step_other (h : i ≠ j) :
    (pool.step exec (i, choice)).stage stages j = pool.stage stages j := by
  rw [stage, log_step_other h]
  rfl

@[simp] theorem stage_start {state : σ} {programs : ι → Program Ret α} :
    (start state programs).stage stages i = stages.initial := rfl

/-- Programs that pass through their stages are disciplined by the contracts of the stages. -/
theorem disciplined_start {stages : ι → Stages Ret Φ} {state : σ} {programs : ι → Program Ret α}
    {P : ι → Φ → α → Prop} (h : ∀ i, (programs i).Takes (stages i) (stages i).initial (P i)) :
    Disciplined (fun i => (stages i).contract)
      (fun i log value => P i ((stages i).stage log) value) (start state programs) :=
  fun i => (h i).follows

omit [DecidableEq ι] in
/-- A store whose answers the stages take to be possible. -/
theorem answers_stages {stages : ι → Stages Ret Φ}
    (h : ∀ i choice op state, (stages i).possible ⟨op, (exec choice op state).1⟩) :
    Answers exec fun i => (stages i).contract :=
  h

end Pool

end Lib
