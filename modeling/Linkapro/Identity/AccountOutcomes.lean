import Linkapro.Lib.Outcomes
import Linkapro.Identity.AccountRuns
import Linkapro.Identity.SelfService

/-!
# Identity: what the parts of account handlers read

Most parts of the account handlers leave the store. What they answer is what the rest
of the handler goes on with.
-/

namespace Linkapro.Identity

open Lib Lib.Action

section Values

variable {σ χ α : Type} {exec : Exec σ χ (Raising AccountError AccountOp.Ret)}
  {may : AccountOp → σ → χ → Prop} {s : σ}

theorem orRaise_reads {result : Except AccountError α} :
    (orRaise result).Reads exec may s fun value => result = .ok value := by
  cases result with
  | ok value => exact reads_pure rfl
  | error error => exact reads_throw

theorem foundOr_reads {message : String} {found : Option User} :
    (foundOr message found).Reads exec may s fun user => found = some user := by
  cases found with
  | none => exact reads_throw
  | some user => exact reads_pure rfl

theorem presentOr_reads {error : AccountError} {found : Option α} :
    (presentOr error found).Reads exec may s fun value => found = some value := by
  cases found with
  | none => exact reads_throw
  | some value => exact reads_pure rfl

end Values

section Calls

variable {may : AccountOp → AccountState → AccountChoice → Prop} {s : AccountState}

/-- A call whose effect is an answer only. -/
theorem query_reads {op : AccountOp} {P : op.Ret → Prop}
    (h : ∀ choice, may op s choice → ∀ answer after,
      AccountState.effect choice s op = .ok (answer, after) → after = s ∧ P answer) :
    (query op).Reads AccountState.exec may s P := by
  refine reads_perform (fun choice hchoice => ?_) fun choice hchoice answer hanswer => ?_
  · unfold AccountState.exec AccountState.faulty
    cases heffect : AccountState.effect choice s op with
    | error error => rfl
    | ok outcome =>
      obtain ⟨answer, after⟩ := outcome
      rw [(h choice hchoice answer after heffect).1]
      cases choice.fault with
      | none => rfl
      | some fault => exact ite_self s
  · exact (h choice hchoice answer _ (effect_of_exec_ok hanswer)).2

/-- A service answers. -/
theorem serve_reads {call : ServiceCall} :
    (serve call).Reads AccountState.exec may s fun answer =>
      ∃ choice, may (.service call) s choice ∧ answer = choice.answer call :=
  query_reads fun choice hchoice _ _ heq => by
    cases heq
    exact ⟨rfl, choice, hchoice, rfl⟩

theorem getById_reads {userId : UUID} :
    (getById userId).Reads AccountState.exec may s fun found => ∀ user, found = some user →
      ∃ row, s.users.lookup userId = some row ∧ row.toDomain = .ok user := by
  have hquery : (query (.getById userId)).Reads AccountState.exec may s fun row =>
      row = s.users.lookup userId := query_reads fun _ _ _ _ heq => by
    cases heq
    exact ⟨rfl, rfl⟩
  refine hquery.bind fun row hrow => ?_
  cases row with
  | none => exact reads_pure fun _ heq => by cases heq
  | some row =>
    refine orRaise_reads.bind fun user huser => reads_pure fun user' heq => ?_
    exact ⟨row, hrow.symm, Option.some.inj heq ▸ huser⟩

theorem revokeAllSessions_reads {userId : UUID} {reason : String} :
    (revokeAllSessions accountSessions userId reason).Reads AccountState.exec may s fun _ =>
      True := by
  refine serve_reads.bind fun sessions _ => Reads.bind (P := fun _ => True) ?_ fun _ _ => ?_
  · refine (reads_forM (P := fun _ => True) sessions fun _ _ => ?_).mono fun _ _ => trivial
    exact serve_reads.mono fun _ _ => trivial
  · exact serve_reads.mono fun _ _ => trivial

theorem dispatchEvents_reads {user : User} :
    (dispatchEvents user).Reads AccountState.exec may s fun _ => True := by
  refine (reads_forM (P := fun _ => True) user.events fun _ _ => ?_).mono fun _ _ => trivial
  exact serve_reads.mono fun _ _ => trivial

theorem verifyCurrentPassword_reads {user : User} {currentPassword : String} :
    (verifyCurrentPassword user currentPassword).Reads AccountState.exec may s fun _ => True := by
  unfold verifyCurrentPassword
  cases user.passwordHash with
  | none => exact reads_throw
  | some hash =>
    refine serve_reads.bind fun matching _ => ?_
    cases matching with
    | true => exact reads_pure trivial
    | false => exact reads_throw

end Calls

end Linkapro.Identity
