import Mathlib.Tactic.Common

/-!
# Programs that call a store

A handler is a program that performs calls on a store and continues with what
each call answers. A call may raise, so an action answers a value or an error.
`Follows` states a contract on the calls of a program: each call is allowed by
the calls and answers before it, as long as the answers are possible ones. The
rules below compute the contract of a program from the contracts of its parts.
-/

namespace Lib

/-- A program over the operations `Op`, where the operation `op` answers in `Ret op`. -/
inductive Program {Op : Type} (Ret : Op → Type) (α : Type) : Type where
  /-- The program has finished with a value. -/
  | done (value : α)
  /-- The program performs one call and continues with its answer. -/
  | call (op : Op) (next : Ret op → Program Ret α)

/-- One performed call: the operation and its answer. -/
abbrev Call {Op : Type} (Ret : Op → Type) : Type := (op : Op) × Ret op

/-- The calls that a program has performed, newest first. -/
abbrev Log {Op : Type} (Ret : Op → Type) : Type := List (Call Ret)

/-- What a program guarantees of its calls and what it assumes of their answers. -/
structure Contract {Op : Type} (Ret : Op → Type) where
  /-- The calls that the program may perform after a log. -/
  allowed : Log Ret → Op → Prop
  /-- The answers that the store may give. -/
  possible : Call Ret → Prop

namespace Program

variable {Op : Type} {Ret : Op → Type} {α β : Type}

/-- Run the first program and continue with its value. -/
def bind : Program Ret α → (α → Program Ret β) → Program Ret β
  | .done value, f => f value
  | .call op next, f => .call op fun answer => (next answer).bind f

instance : Monad (Program Ret) where
  pure := .done
  bind := bind

/-- Perform one call. -/
def perform (op : Op) : Program Ret (Ret op) := .call op .done

/-- Every call of the program is allowed by the contract, given the log of earlier
calls, and every value it finishes with satisfies `post`. -/
def Follows (contract : Contract Ret) :
    Log Ret → Program Ret α → (Log Ret → α → Prop) → Prop
  | log, .done value, post => post log value
  | log, .call op next, post =>
      contract.allowed log op ∧ ∀ answer, contract.possible ⟨op, answer⟩ →
        Follows contract (⟨op, answer⟩ :: log) (next answer) post

variable {contract : Contract Ret} {log : Log Ret}

/-- A contract may be weakened in its final condition. -/
theorem Follows.mono {program : Program Ret α} {post post' : Log Ret → α → Prop}
    (h : program.Follows contract log post)
    (hpost : ∀ log value, post log value → post' log value) :
    program.Follows contract log post' := by
  induction program generalizing log with
  | done value => exact hpost _ _ h
  | call op next ih =>
    exact ⟨h.1, fun answer hpossible => ih answer (h.2 answer hpossible)⟩

/-- A contract that allows every call is followed by every program. -/
theorem follows_of_allowed (h : ∀ log op, contract.allowed log op) (program : Program Ret α)
    (log : Log Ret) : program.Follows contract log fun _ _ => True := by
  induction program generalizing log with
  | done value => trivial
  | call op next ih => exact ⟨h log op, fun answer _ => ih answer _⟩

/-- The contract of a sequence is the contract of its first part, whose final
condition is the contract of the continuation. -/
theorem follows_bind_iff {program : Program Ret α} {f : α → Program Ret β}
    {post : Log Ret → β → Prop} :
    Follows contract log (program >>= f) post ↔
      program.Follows contract log fun log value => (f value).Follows contract log post := by
  induction program generalizing log with
  | done value => rfl
  | call op next ih =>
    refine and_congr_right fun _ => forall_congr' fun answer => imp_congr_right fun _ => ?_
    exact ih answer

/-- Returning a value performs no call. -/
@[simp] theorem follows_pure_iff {value : α} {post : Log Ret → α → Prop} :
    Follows contract log (pure value : Program Ret α) post ↔ post log value :=
  Iff.rfl

/-- A call that is performed first is allowed by the log, and the rest of the program
follows the contract after each of its answers. -/
theorem follows_perform_bind_iff {op : Op} {f : Ret op → Program Ret β}
    {post : Log Ret → β → Prop} :
    Follows contract log (perform op >>= f) post ↔
      contract.allowed log op ∧ ∀ answer, contract.possible ⟨op, answer⟩ →
        (f answer).Follows contract (⟨op, answer⟩ :: log) post :=
  Iff.rfl

/-- A loop keeps a condition on the log that each of its rounds keeps. -/
theorem follows_forM {γ : Type} {program : γ → Program Ret Unit} {P : Log Ret → Prop}
    (values : List γ) (h : ∀ value ∈ values, ∀ log, P log →
      (program value).Follows contract log fun log' _ => P log') (hlog : P log) :
    (values.forM program).Follows contract log fun log' _ => P log' := by
  induction values generalizing log with
  | nil => exact hlog
  | cons value values ih =>
    refine follows_bind_iff.mpr ((h value List.mem_cons_self log hlog).mono fun log' _ hlog' => ?_)
    exact ih (fun value' hmem => h value' (List.mem_cons_of_mem _ hmem)) hlog'

/-- A contract may be weakened in what it allows. -/
theorem Follows.weaken {contract' : Contract Ret} {program : Program Ret α}
    {post : Log Ret → α → Prop} (h : program.Follows contract log post)
    (hallowed : ∀ log op, contract.allowed log op → contract'.allowed log op)
    (hpossible : ∀ call, contract'.possible call → contract.possible call) :
    program.Follows contract' log post := by
  induction program generalizing log with
  | done value => exact h
  | call op next ih =>
    exact ⟨hallowed log op h.1, fun answer hanswer => ih answer (h.2 answer (hpossible _ hanswer))⟩

/-- A program follows two contracts at once. -/
theorem Follows.both {contract' : Contract Ret} {program : Program Ret α}
    {post post' : Log Ret → α → Prop} (h : program.Follows contract log post)
    (h' : program.Follows contract' log post') :
    program.Follows
      { allowed := fun log op => contract.allowed log op ∧ contract'.allowed log op
        possible := fun call => contract.possible call ∧ contract'.possible call }
      log fun log value => post log value ∧ post' log value := by
  induction program generalizing log with
  | done value => exact ⟨h, h'⟩
  | call op next ih =>
    exact ⟨⟨h.1, h'.1⟩, fun answer hanswer => ih answer (h.2 answer hanswer.1) (h'.2 answer hanswer.2)⟩

section Sum

variable {Op' : Type} {Ret' : Op' → Type}

/-- A program over some operations is one over these and others. -/
def inl : Program Ret α → Program (Sum.elim Ret Ret') α
  | .done value => .done value
  | .call op next => .call (.inl op) fun answer => (next answer).inl

/-- The call of the first kind that a call is. -/
def leftCall : Call (Sum.elim Ret Ret') → Option (Call Ret)
  | ⟨.inl op, answer⟩ => some ⟨op, answer⟩
  | ⟨.inr _, _⟩ => none

/-- The calls of the first kind in a log. -/
def leftLog (log : Log (Sum.elim Ret Ret')) : Log Ret := log.filterMap leftCall

theorem mem_leftLog_iff {log : Log (Sum.elim Ret Ret')} {op : Op} {answer : Ret op} :
    ⟨op, answer⟩ ∈ leftLog log ↔ (⟨.inl op, answer⟩ : Call (Sum.elim Ret Ret')) ∈ log := by
  refine List.mem_filterMap.trans ⟨?_, fun h => ⟨_, h, rfl⟩⟩
  rintro ⟨⟨op' | op', answer'⟩, hmem, heq⟩
  · cases heq
    exact hmem
  · cases heq

/-- A contract on the calls of the first kind is one of the embedded program. -/
theorem Follows.inl {contract' : Contract (Sum.elim Ret Ret')} {program : Program Ret α}
    {l : Log (Sum.elim Ret Ret')} {post : Log Ret → α → Prop}
    (h : program.Follows contract (leftLog l) post)
    (hallowed : ∀ log op, contract.allowed (leftLog log) op → contract'.allowed log (.inl op))
    (hpossible : ∀ op answer, contract'.possible ⟨.inl op, answer⟩ →
      contract.possible ⟨op, answer⟩) :
    program.inl.Follows contract' l fun log value => post (leftLog log) value := by
  induction program generalizing l with
  | done value => exact h
  | call op next ih =>
    exact ⟨hallowed l op h.1, fun answer hanswer =>
      ih answer (h.2 answer (hpossible op answer hanswer))⟩

end Sum

end Program

/-- A sequence of two computations succeeds when both of them do. -/
theorem except_bind_eq_ok_iff {ε α β : Type} {x : Except ε α} {f : α → Except ε β} {b : β} :
    (x >>= f) = .ok b ↔ ∃ a, x = .ok a ∧ f a = .ok b := by
  cases x with
  | error error => exact ⟨(fun h => by cases h), fun ⟨_, h, _⟩ => by cases h⟩
  | ok a =>
    constructor
    · intro h
      exact ⟨a, rfl, h⟩
    · rintro ⟨a', ha, h⟩
      cases ha
      exact h

/-- A mapped computation succeeds when the computation does. -/
theorem except_map_eq_ok_iff {ε α β : Type} {x : Except ε α} {f : α → β} {b : β} :
    x.map f = .ok b ↔ ∃ a, x = .ok a ∧ f a = b := by
  cases x with
  | error error => exact ⟨(fun h => by cases h), fun ⟨_, h, _⟩ => by cases h⟩
  | ok a =>
    constructor
    · intro h
      cases h
      exact ⟨a, rfl, rfl⟩
    · rintro ⟨a', ha, rfl⟩
      cases ha
      rfl

/-- The answers of operations that may raise an error instead. -/
abbrev Raising {Op : Type} (ε : Type) (Ret : Op → Type) : Op → Type := fun op => Except ε (Ret op)

/-- A program whose calls may raise and which may itself raise. -/
abbrev Action {Op : Type} (ε : Type) (Ret : Op → Type) (α : Type) : Type :=
  ExceptT ε (Program (Raising ε Ret)) α

namespace Action

variable {Op ε : Type} {Ret : Op → Type} {α β : Type}

/-- Perform one call and raise its error, if any. -/
def perform (op : Op) : Action ε Ret (Ret op) :=
  ExceptT.mk (Program.call op Program.done)

/-- `try action except error => handler error`. -/
def attempt (action : Action ε Ret α) (handler : ε → Action ε Ret α) : Action ε Ret α :=
  ExceptT.mk do
    match ← action.run with
    | .ok value => pure (.ok value)
    | .error error => (handler error).run

/-- `try action finally finalizer`: the finalizer runs after either outcome, and
an error of its own replaces that outcome. -/
def withFinally (action : Action ε Ret α) (finalizer : Action ε Ret Unit) : Action ε Ret α :=
  ExceptT.mk do
    let outcome ← action.run
    match ← finalizer.run with
    | .ok _ => pure outcome
    | .error error => pure (.error error)

/-- The contract of an action, whose final condition sees its value or its error. -/
def Follows (contract : Contract (Raising ε Ret)) (log : Log (Raising ε Ret))
    (action : Action ε Ret α) (post : Log (Raising ε Ret) → Except ε α → Prop) : Prop :=
  Program.Follows contract log action.run post

variable {contract : Contract (Raising ε Ret)} {log : Log (Raising ε Ret)}

/-- A contract may be weakened in its final condition. -/
theorem Follows.mono {action : Action ε Ret α} {post post' : Log (Raising ε Ret) → Except ε α → Prop}
    (h : action.Follows contract log post)
    (hpost : ∀ log outcome, post log outcome → post' log outcome) :
    action.Follows contract log post' :=
  Program.Follows.mono h hpost

/-- Returning a value performs no call. -/
@[simp] theorem follows_pure_iff {value : α} {post : Log (Raising ε Ret) → Except ε α → Prop} :
    Follows contract log (pure value : Action ε Ret α) post ↔ post log (.ok value) :=
  Iff.rfl

/-- Raising performs no call. -/
@[simp] theorem follows_throw_iff {error : ε} {post : Log (Raising ε Ret) → Except ε α → Prop} :
    Follows contract log (throw error : Action ε Ret α) post ↔ post log (.error error) :=
  Iff.rfl

/-- A single call is allowed by the log, and the final condition holds of its answers. -/
@[simp] theorem follows_perform_iff {op : Op}
    {post : Log (Raising ε Ret) → Except ε (Ret op) → Prop} :
    Follows contract log (perform op) post ↔
      contract.allowed log op ∧ ∀ answer : Except ε (Ret op),
        contract.possible ⟨op, answer⟩ → post (⟨op, answer⟩ :: log) answer :=
  Iff.rfl

/-- The sequence rule, through a condition on the outcome of the first part. -/
theorem Follows.bind {action : Action ε Ret α} {f : α → Action ε Ret β}
    {middle : Log (Raising ε Ret) → Except ε α → Prop}
    {post : Log (Raising ε Ret) → Except ε β → Prop}
    (h : action.Follows contract log middle)
    (hok : ∀ log value, middle log (.ok value) → (f value).Follows contract log post)
    (herror : ∀ log error, middle log (.error error) → post log (.error error)) :
    Follows contract log (action >>= f) post := by
  refine Program.follows_bind_iff.mpr (Program.Follows.mono h fun log outcome houtcome => ?_)
  cases outcome with
  | ok value => exact hok log value houtcome
  | error error => exact herror log error houtcome

/-- The sequence rule for a single call. -/
theorem Follows.perform_bind {op : Op} {f : Ret op → Action ε Ret β}
    {post : Log (Raising ε Ret) → Except ε β → Prop} (hop : contract.allowed log op)
    (hok : ∀ answer, contract.possible ⟨op, .ok answer⟩ →
      (f answer).Follows contract (⟨op, .ok answer⟩ :: log) post)
    (herror : ∀ error, post (⟨op, .error error⟩ :: log) (.error error)) :
    Follows contract log (perform op >>= f) post := by
  refine Program.follows_bind_iff.mpr ⟨hop, fun answer hpossible => ?_⟩
  cases answer with
  | ok answer => exact hok answer hpossible
  | error error => exact herror error

/-- The sequence rule for a single call that never raises. -/
theorem Follows.perform_bind_ok {op : Op} {f : Ret op → Action ε Ret β}
    {post : Log (Raising ε Ret) → Except ε β → Prop} (hop : contract.allowed log op)
    (hnever : ∀ error, ¬ contract.possible ⟨op, .error error⟩)
    (hok : ∀ answer, contract.possible ⟨op, .ok answer⟩ →
      (f answer).Follows contract (⟨op, .ok answer⟩ :: log) post) :
    Follows contract log (perform op >>= f) post := by
  refine Program.follows_bind_iff.mpr ⟨hop, fun answer hpossible => ?_⟩
  cases answer with
  | ok answer => exact hok answer hpossible
  | error error => exact absurd hpossible (hnever error)

/-- The rule of a branch. -/
theorem Follows.ite {c : Prop} [Decidable c] {first second : Action ε Ret α}
    {post : Log (Raising ε Ret) → Except ε α → Prop}
    (hfirst : c → first.Follows contract log post)
    (hsecond : ¬ c → second.Follows contract log post) :
    Follows contract log (if c then first else second) post := by
  split
  · next h => exact hfirst h
  · next h => exact hsecond h

/-- The rule of `try … except …`. -/
theorem Follows.attempt {action : Action ε Ret α} {handler : ε → Action ε Ret α}
    {middle post : Log (Raising ε Ret) → Except ε α → Prop}
    (h : action.Follows contract log middle)
    (hok : ∀ log value, middle log (.ok value) → post log (.ok value))
    (herror : ∀ log error, middle log (.error error) → (handler error).Follows contract log post) :
    Follows contract log (attempt action handler) post := by
  refine Program.follows_bind_iff.mpr (Program.Follows.mono h fun log outcome houtcome => ?_)
  cases outcome with
  | ok value => exact hok log value houtcome
  | error error => exact herror log error houtcome

/-- The rule of `try … finally …`. -/
theorem Follows.withFinally {action : Action ε Ret α} {finalizer : Action ε Ret Unit}
    {middle post : Log (Raising ε Ret) → Except ε α → Prop}
    (h : action.Follows contract log middle)
    (hfinal : ∀ log outcome, middle log outcome →
      finalizer.Follows contract log fun log final =>
        post log outcome ∧ ∀ error, final = .error error → post log (.error error)) :
    Follows contract log (withFinally action finalizer) post := by
  refine Program.follows_bind_iff.mpr (Program.Follows.mono h fun log outcome houtcome => ?_)
  refine Program.follows_bind_iff.mpr
    (Program.Follows.mono (hfinal log outcome houtcome) fun log final hpost => ?_)
  cases final with
  | ok _ => exact hpost.1
  | error error => exact hpost.2 error rfl

end Action

end Lib
