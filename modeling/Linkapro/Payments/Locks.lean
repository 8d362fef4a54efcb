import Linkapro.Lib.Leases
import Linkapro.Payments.Settlement
import Linkapro.Payments.Velocity

/-!
# Payments: the lock of a webhook

A webhook locks its payment for thirty seconds and deletes the lock in the end. The
lock does not name its holder: a webhook that runs past its deadline deletes the lock
that another one has acquired in the meantime.
-/

namespace Linkapro.Payments

open Lib

variable {ι α : Type} [DecidableEq ι] {deployment : Deployment} {choice : Choice}
  {pool : CallPool ι α} {holdings : Holdings ι String Datetime}

/-- What a performed call does to the locks that its worker holds. A worker that releases its
lock is done with it, also when the release raises. -/
def heldAfterCall (i : ι) (now : Datetime) (holdings : Holdings ι String Datetime) :
    PaymentCallRecord → Holdings ι String Datetime
  | ⟨.acquireLock key ttlSeconds, .ok true⟩ => holdings.take i key (now + seconds ttlSeconds)
  | ⟨.releaseLock key, _⟩ => holdings.drop i key
  | _ => holdings

/-- What a turn does to the locks that the workers hold. -/
def heldAfterTurn (deployment : Deployment) (pool : CallPool ι α)
    (holdings : Holdings ι String Datetime) (turn : ι × Choice) : Holdings ι String Datetime :=
  match pool.rest turn.1 with
  | .done _ => holdings
  | .call op _ => heldAfterCall turn.1 (pool.state.clock + turn.2.elapsed) holdings
      ⟨op, (PaymentState.exec deployment turn.2 op pool.state).1⟩

/-- The locks that the workers hold after a run. -/
def heldAfter (deployment : Deployment) : CallPool ι α → Holdings ι String Datetime →
    List (ι × Choice) → Holdings ι String Datetime
  | _, holdings, [] => holdings
  | pool, holdings, turn :: schedule =>
    heldAfter deployment (pool.step (PaymentState.exec deployment) turn)
      (heldAfterTurn deployment pool holdings turn) schedule

/-- On this turn, a release comes before the deadline of the worker, or the lock has lapsed. -/
def InTime (pool : CallPool ι α) (holdings : Holdings ι String Datetime) (turn : ι × Choice) :
    Prop :=
  match pool.next turn.1 with
  | some (.releaseLock key) =>
    (∃ deadline ∈ holdings turn.1 key, pool.state.clock + turn.2.elapsed < deadline) ∨
      (pool.state.locks.get (pool.state.clock + turn.2.elapsed) key).isSome = false
  | _ => True

instance (pool : CallPool ι α) (holdings : Holdings ι String Datetime) (turn : ι × Choice) :
    Decidable (InTime pool holdings turn) := by
  unfold InTime
  split <;> infer_instance

/-- Every release of the run is in time. -/
def ReleasedInTime (deployment : Deployment) : CallPool ι α → Holdings ι String Datetime →
    List (ι × Choice) → Prop
  | _, _, [] => True
  | pool, holdings, turn :: schedule => InTime pool holdings turn ∧
    ReleasedInTime deployment (pool.step (PaymentState.exec deployment) turn)
      (heldAfterTurn deployment pool holdings turn) schedule

instance ReleasedInTime.decidable (deployment : Deployment) :
    ∀ (pool : CallPool ι α) (holdings : Holdings ι String Datetime) (schedule : List (ι × Choice)),
      Decidable (ReleasedInTime deployment pool holdings schedule)
  | _, _, [] => isTrue trivial
  | pool, holdings, turn :: schedule =>
    have := ReleasedInTime.decidable deployment (pool.step (PaymentState.exec deployment) turn)
      (heldAfterTurn deployment pool holdings turn) schedule
    inferInstanceAs (Decidable (InTime pool holdings turn ∧ _))

/-- What a call writes or removes under the keys of the locks, seen from the clock of the call. -/
inductive LockChange (i : ι) (now : Datetime) (holdings : Holdings ι String Datetime)
    (locks : ExpiringMap String Unit Datetime) (record : PaymentCallRecord) :
    ExpiringMap String Unit Datetime → Prop where
  | kept (held_eq : heldAfterCall i now holdings record = holdings) :
      LockChange i now holdings locks record locks
  /-- An acquisition that was answered. -/
  | acquired {key : String} {deadline : Datetime} (free : (locks.get now key).isSome = false)
      (held_eq : heldAfterCall i now holdings record = holdings.take i key deadline) :
      LockChange i now holdings locks record (locks.set key () (some deadline))
  /-- An acquisition whose answer was lost. -/
  | lost {key : String} {deadline : Datetime} (free : (locks.get now key).isSome = false)
      (held_eq : heldAfterCall i now holdings record = holdings) :
      LockChange i now holdings locks record (locks.set key () (some deadline))
  | released {key : String} (op_eq : record.1 = .releaseLock key)
      (held_eq : heldAfterCall i now holdings record = holdings.drop i key) :
      LockChange i now holdings locks record (locks.delete key)
  /-- A release that did not reach the store. -/
  | unreleased {key : String}
      (held_eq : heldAfterCall i now holdings record = holdings.drop i key) :
      LockChange i now holdings locks record locks

variable (deployment choice) in
/-- What a performed call does to the locks. -/
theorem lockChange (i : ι) (holdings : Holdings ι String Datetime) (op : PaymentOp)
    (s : PaymentState) :
    LockChange i (s.clock + choice.elapsed) holdings s.locks
      ⟨op, (PaymentState.exec deployment choice op s).1⟩
      (PaymentState.exec deployment choice op s).2.locks := by
  have hother (hacquire : ∀ key ttlSeconds, op ≠ .acquireLock key ttlSeconds)
      (hrelease : ∀ key, op ≠ .releaseLock key) :
      (PaymentState.exec deployment choice op s).2.locks = s.locks :=
    funext fun key => exec_locks_of_ne (hacquire key) (hrelease key)
  cases op with
  | acquireLock key ttlSeconds =>
    simp only [PaymentState.exec, PaymentState.effect]
    split
    · unfold PaymentState.writing
      cases hfault : choice.fault with
      | none => exact .kept rfl
      | some fault =>
        simp only [ite_self]
        exact .kept rfl
    · next hlive =>
      have hfree : (s.locks.get (s.clock + choice.elapsed) key).isSome = false := by
        simpa using hlive
      unfold PaymentState.writing
      cases hfault : choice.fault with
      | none => exact .acquired hfree rfl
      | some fault =>
        cases happlied : fault.applied with
        | true =>
          simp only [happlied, if_true]
          exact .lost hfree rfl
        | false =>
          simp only [happlied, Bool.false_eq_true, if_false]
          exact .kept rfl
  | releaseLock key =>
    simp only [PaymentState.exec, PaymentState.effect, PaymentState.writing]
    cases hfault : choice.fault with
    | none => exact .released rfl rfl
    | some fault =>
      cases happlied : fault.applied with
      | true =>
        simp only [happlied, if_true]
        exact .released rfl rfl
      | false =>
        simp only [happlied, Bool.false_eq_true, if_false]
        exact .unreleased rfl
  | _ =>
    rw [hother (fun _ _ h => by cases h) fun _ h => by cases h]
    exact .kept rfl

/-- A turn whose release is in time keeps the holders of the locks apart. -/
theorem Backed.turn (h : holdings.Backed pool.state.locks pool.state.clock) {i : ι}
    (htime : InTime pool holdings (i, choice)) :
    (heldAfterTurn deployment pool holdings (i, choice)).Backed
      (pool.step (PaymentState.exec deployment) (i, choice)).state.locks
      (pool.step (PaymentState.exec deployment) (i, choice)).state.clock := by
  cases hrest : pool.rest i with
  | done value =>
    simp only [heldAfterTurn, Pool.step_of_done hrest, hrest]
    exact h
  | call op next =>
    let now := pool.state.clock + choice.elapsed
    have hnow : holdings.Backed pool.state.locks now :=
      h.wait (Int.le_add_of_nonneg_right (Int.natCast_nonneg _))
    have hheld : heldAfterTurn deployment pool holdings (i, choice) =
        heldAfterCall i now holdings
          ⟨op, (PaymentState.exec deployment choice op pool.state).1⟩ := by
      simp only [heldAfterTurn, hrest, now]
    rw [hheld, Pool.step_of_call hrest]
    change Holdings.Backed _ (PaymentState.exec deployment choice op pool.state).2.locks
      (PaymentState.exec deployment choice op pool.state).2.clock
    rw [exec_clock]
    generalize hlocks : (PaymentState.exec deployment choice op pool.state).2.locks = after
    have hchange := lockChange deployment choice i holdings op pool.state
    rw [hlocks] at hchange
    cases hchange with
    | kept held_eq =>
      rw [held_eq]
      exact hnow
    | acquired free held_eq =>
      rw [held_eq]
      exact hnow.take free
    | lost free held_eq =>
      rw [held_eq]
      exact hnow.set fun j deadline => hnow.not_live free
    | unreleased held_eq =>
      rw [held_eq]
      exact hnow.drop
    | @released key op_eq held_eq =>
      rw [held_eq]
      have hnext : pool.next i = some (.releaseLock key) := by
        rw [Pool.next_of_call hrest]
        exact congrArg some op_eq
      unfold InTime at htime
      simp only [hnext] at htime
      rcases htime with ⟨deadline, hdeadline, hlive⟩ | hfree
      · exact hnow.release hdeadline hlive
      · exact hnow.drop.delete fun j deadline hheld =>
          hnow.not_live hfree (Holdings.drop_eq_some hheld).1

/-- Runs whose releases are in time keep the holders of the locks apart. -/
theorem Backed.run {schedule : List (ι × Choice)}
    (h : holdings.Backed pool.state.locks pool.state.clock)
    (htime : ReleasedInTime deployment pool holdings schedule) :
    (heldAfter deployment pool holdings schedule).Backed
      (pool.run (PaymentState.exec deployment) schedule).state.locks
      (pool.run (PaymentState.exec deployment) schedule).state.clock := by
  induction schedule generalizing pool holdings with
  | nil => exact h
  | cons turn schedule ih =>
    obtain ⟨hturn, hrest⟩ := htime
    exact ih (Backed.turn h hturn) hrest

/-- No two workers hold one lock at a time, and who holds a lock finds it in the store. -/
def HeldApart (s : PaymentState) (holdings : Holdings ι String Datetime) : Prop :=
  (∀ i j key deadline deadline', holdings i key = some deadline → s.clock < deadline →
    holdings j key = some deadline' → s.clock < deadline' → i = j) ∧
  ∀ i key deadline, holdings i key = some deadline → s.clock < deadline →
    (s.locks.get s.clock key).isSome = true

/-- Workers that process one webhook. -/
def sameWebhook : Fin 3 → PaymentCall := fun _ => .processWebhook sampleWebhook

/-- The worker takes some turns. -/
def turns (worker : Fin 3) (count : ℕ) : List (Fin 3 × Choice) :=
  List.replicate count (worker, calm 1)

/-- All workers have seen that the event is new, and the first one acquires the lock. -/
def firstLocks : List (Fin 3 × Choice) := turns 0 1 ++ turns 1 1 ++ turns 2 1 ++ turns 0 1

/-- The provider answers the first worker after 31 seconds; then the second one acquires the lock,
the first one ends, and the third one acquires the lock. -/
def slowProvider : List (Fin 3 × Choice) :=
  firstLocks ++ [(0, { calm 1 with elapsed := 31000000 })] ++ turns 1 1 ++ turns 0 4 ++ turns 2 1

/-- In every run in which every release comes before the deadline of its worker or finds the lock
lapsed, the holders of the locks are kept apart. -/
theorem locks_held_apart (calls : ι → PaymentCall) (s : PaymentState)
    (schedule : List (ι × Choice))
    (htime : ReleasedInTime deployment (startCalls s calls) (fun _ _ => none) schedule) :
    HeldApart ((startCalls s calls).run (PaymentState.exec deployment) schedule).state
      (heldAfter deployment (startCalls s calls) (fun _ _ => none) schedule) := by
  have hstart : Holdings.Backed (fun (_ : ι) _ => none) (startCalls s calls).state.locks
      (startCalls s calls).state.clock :=
    ⟨fun _ _ _ h => (by cases h), fun _ _ _ _ _ h => (by cases h)⟩
  have hbacked := Backed.run hstart htime
  exact ⟨hbacked.exclusive, fun _ _ _ => hbacked.isSome_get⟩

/-- The first worker releases its lock in time, and the second one acquires it. -/
theorem locks_held_apart_sample :
    let schedule := firstLocks ++ turns 0 5 ++ turns 1 1
    let holdings := heldAfter sampleDeployment (startCalls emptyState sameWebhook)
      (fun _ _ => none) schedule
    holdings 0 "payment_lock:flw_1" = none ∧
      holdings 1 "payment_lock:flw_1" = some (10 + seconds 30) ∧
      HeldApart ((startCalls emptyState sameWebhook).run (PaymentState.exec sampleDeployment)
        schedule).state holdings :=
  ⟨by decide +kernel, by decide +kernel,
    locks_held_apart sameWebhook emptyState _ (by decide +kernel)⟩

/-- The first worker deletes the lock of the second one, and the third one acquires it too. -/
theorem two_workers_hold_one_lock :
    ¬ ∀ schedule : List (Fin 3 × Choice),
      HeldApart ((startCalls emptyState sameWebhook).run (PaymentState.exec sampleDeployment)
        schedule).state
        (heldAfter sampleDeployment (startCalls emptyState sameWebhook) (fun _ _ => none)
          schedule) := by
  intro h
  have hsame : (1 : Fin 3) = 2 := (h slowProvider).1 1 2 "payment_lock:flw_1"
    (31000005 + seconds 30) (31000010 + seconds 30) (by decide +kernel) (by decide +kernel)
    (by decide +kernel) (by decide +kernel)
  revert hsame
  decide

end Linkapro.Payments
