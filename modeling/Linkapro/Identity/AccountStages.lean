import Linkapro.Lib.Stages
import Linkapro.Identity.SelfService

/-!
# Identity: stages of account handlers

Whatever stages an execution passes through, its calls on the accounts, on the clock and
on the outbox are usually of no account to them. The parts of the handlers that perform
such calls only leave the stage as it is.
-/

namespace Linkapro.Identity

open Lib Lib.Action

/-- The calls on the accounts, and on services that keep nothing of the caller. -/
def AccountOp.isOrdinary : AccountOp → Bool
  | .service .utcNow | .service .uuid4 | .service .randomPasswordSuffix
  | .service (.hashPassword _) | .service (.dispatch _) | .service (.encryptTotpSecret _)
  | .service (.decryptTotpSecret _) => true
  | .service _ => false
  | _ => true

/-- Stages that ordinary calls do not change. -/
class Ordinary {Φ : Type} (stages : Stages (Raising AccountError AccountOp.Ret) Φ) : Prop where
  permits : ∀ stage op, op.isOrdinary = true → stages.permits stage op
  advance : ∀ stage op (answer : Except AccountError op.Ret), op.isOrdinary = true →
    stages.advance stage ⟨op, answer⟩ = stage

variable {Φ : Type} {stages : Stages (Raising AccountError AccountOp.Ret) Φ} {stage : Φ} {α : Type}

theorem orRaise_idles {outcome : Except AccountError α} :
    (orRaise outcome).Idles stages stage := by
  cases outcome with
  | ok value => exact Idles.pure
  | error error => exact Idles.throw

theorem foundOr_idles {message : String} {found : Option User} :
    (foundOr message found).Idles stages stage := by
  cases found with
  | none => exact Idles.throw
  | some user => exact Idles.pure

theorem rowToDomain_idles {row : Option UserRow} : (rowToDomain row).Idles stages stage := by
  cases row with
  | none => exact Idles.pure
  | some row => exact orRaise_idles.bind fun _ => Idles.pure

section Calls

variable [Ordinary stages] {user : User}

/-- An ordinary call. -/
theorem query_idles {op : AccountOp} (h : op.isOrdinary = true) : (query op).Idles stages stage :=
  Idles.perform (Ordinary.permits stage op h) fun answer => Ordinary.advance stage op answer h

theorem getById_idles {userId : UUID} : (getById userId).Idles stages stage :=
  (query_idles rfl).bind fun _ => rowToDomain_idles

theorem dispatchEvents_idles : (dispatchEvents user).Idles stages stage :=
  Idles.forM fun _ _ => query_idles rfl

theorem prepareSave_idles {pending : List AccountStatement} :
    (prepareSave pending user).Idles stages stage := by
  refine (query_idles rfl).bind fun _ => Idles.bind ?_ fun _ => Idles.pure
  unfold storedPassword
  split
  · exact Idles.pure
  · exact (query_idles rfl).bind fun _ => Idles.pure

theorem savePending_idles {pending : List AccountStatement} :
    (savePending pending user).Idles stages stage :=
  prepareSave_idles.bind fun _ => orRaise_idles.bind fun _ => Idles.pure

theorem save_idles : (save user).Idles stages stage := by
  refine prepareSave_idles.bind fun plan => (query_idles rfl).bind fun _ => ?_
  exact (Idles.forM fun _ _ => query_idles rfl).bind fun _ => orRaise_idles

theorem saveAndDispatch_idles : (saveAndDispatch user).Idles stages stage :=
  save_idles.bind fun _ => dispatchEvents_idles

theorem totpSecretOf_idles {row : Option UserRow} : (totpSecretOf row).Idles stages stage := by
  unfold totpSecretOf
  split
  · exact Idles.pure
  · split
    · exact Idles.ite (query_idles rfl) Idles.pure
    · exact Idles.pure

theorem disableMfa_idles {userId : UUID} : (disableMfa userId).Idles stages stage := by
  refine getById_idles.bind fun found => foundOr_idles.bind fun user => ?_
  refine savePending_idles.bind fun saved => dispatchEvents_idles.bind fun _ => ?_
  exact query_idles rfl

end Calls

end Linkapro.Identity
