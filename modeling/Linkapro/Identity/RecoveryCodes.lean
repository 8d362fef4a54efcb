import Linkapro.Identity.AccountStages
import Linkapro.Identity.MfaStores

/-!
# Identity: requests on recovery codes

The recovery codes of a user are one entry of the cache. A generation writes a new set, a
regeneration clears the old one before it, a consumption writes back what it has read, and
disabling the second factor does not touch them.
-/

namespace Linkapro.Identity

open Lib Lib.Action

/-- The hash of a usable code is the hash of a code. -/
theorem Usable.mem {recoveryCodes : List RecoveryCode} {presentedHash : String}
    (h : Usable recoveryCodes presentedHash) :
    presentedHash ∈ recoveryCodes.map RecoveryCode.codeHash := by
  unfold Usable at h
  cases hfound : firstMatch recoveryCodes presentedHash with
  | none =>
    rw [hfound] at h
    cases h
  | some recoveryCode =>
    have hmatches : recoveryCode.matchesHash presentedHash = true :=
      List.find?_some (p := fun code : RecoveryCode => code.matchesHash presentedHash) hfound
    exact List.mem_map.mpr
      ⟨recoveryCode, List.mem_of_find?_eq_some hfound, of_decide_eq_true hmatches⟩

/-- Codes that have just been issued are usable. -/
theorem usable_iff_of_unused {recoveryCodes : List RecoveryCode}
    (h : ∀ recoveryCode ∈ recoveryCodes, recoveryCode.isUsed = false) {presentedHash : String} :
    Usable recoveryCodes presentedHash ↔
      presentedHash ∈ recoveryCodes.map RecoveryCode.codeHash := by
  refine ⟨Usable.mem, fun hmem => ?_⟩
  obtain ⟨recoveryCode, hcode, rfl⟩ := List.mem_map.mp hmem
  have hsome : (firstMatch recoveryCodes recoveryCode.codeHash).isSome = true :=
    List.find?_isSome.mpr ⟨recoveryCode, hcode, decide_eq_true rfl⟩
  obtain ⟨found, hfound⟩ := Option.isSome_iff_exists.mp hsome
  rw [Usable, hfound, Option.any_some, h found (List.mem_of_find?_eq_some hfound)]
  rfl

/-- The hashes of the usable codes. -/
def usableHashes (recoveryCodes : List RecoveryCode) : List String :=
  (recoveryCodes.map RecoveryCode.codeHash).filter fun presentedHash =>
    Usable recoveryCodes presentedHash

theorem mem_usableHashes_iff {recoveryCodes : List RecoveryCode} {presentedHash : String} :
    presentedHash ∈ usableHashes recoveryCodes ↔ Usable recoveryCodes presentedHash := by
  rw [usableHashes, List.mem_filter, decide_eq_true_eq]
  exact ⟨And.right, fun h => ⟨h.mem, h⟩⟩

/-- A request on the recovery codes of a user. -/
inductive RecoveryCommand : Type where
  | generate (count : ℤ)
  | regenerate (count : ℤ)
  | consume (code : String)
  | disable
deriving DecidableEq

/-- What a request answers. -/
inductive RecoveryAnswer : Type where
  | codes (plaintextCodes : List String)
  | accepted (accepted : Bool)
  | disabled
deriving DecidableEq

/-- The new plaintext codes. -/
def newPlaintextCodes : ℕ → MfaAction (List String)
  | 0 => pure []
  | count + 1 => do
    let code : String ← mfaQuery .generateRecoveryCode
    let codes ← newPlaintextCodes count
    pure (code :: codes)

/-- The new codes as they are stored. -/
def issueRecoveryCodes (keys : MfaKeys) : List String → MfaAction (List RecoveryCode)
  | [] => pure []
  | code :: codes => do
    let id : UUID ← mfaQuery .newRecoveryCodeId
    let recoveryCodes ← issueRecoveryCodes keys codes
    pure ({ id, codeHash := keys.hashRecoveryCode code, usedAt := none
            codeHash_not_blank := keys.hash_not_blank code } :: recoveryCodes)

/-- The account of a request. -/
def existingUser (keys : MfaKeys) (userId : UUID) : MfaAction User :=
  withRecoveryCodes keys do
    let found ← getById userId
    foundOr "User not found" found

/-- `GenerateRecoveryCodesUseCase.execute`. -/
def generateRecoveryCodes (keys : MfaKeys) (userId : UUID) (count : ℤ) :
    MfaAction (List String) :=
  if count ≤ 0 then throw (.valueError "Recovery code count must be positive")
  else do
    let user ← existingUser keys userId
    let plaintextCodes ← newPlaintextCodes count.toNat
    let recoveryCodes ← issueRecoveryCodes keys plaintextCodes
    mfaQuery (.saveRecoveryCodes user.id recoveryCodes)
    pure plaintextCodes

/-- `RegenerateRecoveryCodesUseCase.execute`. -/
def regenerateRecoveryCodes (keys : MfaKeys) (userId : UUID) (count : ℤ) :
    MfaAction (List String) := do
  mfaQuery (.clearRecoveryCodes userId)
  generateRecoveryCodes keys userId count

/-- The use case of a request. -/
def RecoveryCommand.program (keys : MfaKeys) (userId : UUID) :
    RecoveryCommand → MfaAction RecoveryAnswer
  | .generate count => do
    let plaintextCodes ← generateRecoveryCodes keys userId count
    pure (.codes plaintextCodes)
  | .regenerate count => do
    let plaintextCodes ← regenerateRecoveryCodes keys userId count
    pure (.codes plaintextCodes)
  | .consume code => do
    let accepted ← consumeRecoveryCode keys userId code
    pure (.accepted accepted)
  | .disable => do
    withRecoveryCodes keys (disableMfa userId)
    pure .disabled

/-- How far a request has come. -/
inductive RecoveryStage : Type where
  | started
  | read (recoveryCodes : List RecoveryCode)
  /-- The old codes have been cleared, and new ones are going to be written. -/
  | cleared
  /-- The old codes have been cleared, and no new ones are going to be written. -/
  | lost
  | written (recoveryCodes : List RecoveryCode)
deriving DecidableEq

/-- A regeneration without new codes. -/
def RecoveryCommand.fail (command : RecoveryCommand) (stage : RecoveryStage) : RecoveryStage :=
  match command, stage with
  | .regenerate _, .cleared => .lost
  | _, stage => stage

/-- The stage after the old codes have been cleared. -/
def RecoveryCommand.clear : RecoveryCommand → RecoveryStage
  | .regenerate count => if 0 < count then .cleared else .lost
  | _ => .started

/-- The query has found an account. -/
def isFound (row : Option UserRow) : Bool := row.any fun row => row.toDomain.toBool

/-- The stage that a call leads to. -/
def advanceRecovery (command : RecoveryCommand) (stage : RecoveryStage) :
    Call (Raising AccountError MfaOp.Ret) → RecoveryStage
  | ⟨.getRecoveryCodes _, .ok recoveryCodes⟩ => .read recoveryCodes
  | ⟨.saveRecoveryCodes _ recoveryCodes, .ok _⟩ => .written recoveryCodes
  | ⟨.clearRecoveryCodes _, .ok _⟩ => command.clear
  | ⟨.account (.getById _), .ok row⟩ => if isFound row then stage else command.fail stage
  | ⟨_, .error _⟩ => command.fail stage
  | _ => stage

/-- The codes that a request may write. -/
def permitsWrite (keys : MfaKeys) (command : RecoveryCommand) (stage : RecoveryStage)
    (updatedCodes : List RecoveryCode) : Prop :=
  match command with
  | .consume code => ∃ recoveryCodes now, stage = .read recoveryCodes ∧
      consumeFirst (keys.hashRecoveryCode code) now recoveryCodes = some updatedCodes
  | _ => ∀ recoveryCode ∈ updatedCodes, recoveryCode.isUsed = false

/-- The calls that a request may perform at a stage. -/
def permitsRecovery (keys : MfaKeys) (userId : UUID) (command : RecoveryCommand)
    (stage : RecoveryStage) : MfaOp → Prop
  | .account op => op = .getById userId ∨ command = .disable
  | .getRecoveryCodes id => id = userId ∧ stage = .started
  | .saveRecoveryCodes id updatedCodes => id = userId ∧ permitsWrite keys command stage updatedCodes
  | .clearRecoveryCodes id =>
    id = userId ∧ stage = .started ∧ ∃ count, command = .regenerate count
  | .clockNow => stage ≠ .cleared
  | .generateRecoveryCode | .newRecoveryCodeId => True

/-- A query by id finds the row of this id. -/
def possibleRecovery : Call (Raising AccountError MfaOp.Ret) → Prop
  | ⟨.account (.getById id), .ok (some row)⟩ => row.id = id
  | _ => True

/-- The stages of a request. -/
def recoveryStages (keys : MfaKeys) (userId : UUID) (command : RecoveryCommand) :
    Stages (Raising AccountError MfaOp.Ret) RecoveryStage where
  initial := .started
  advance := advanceRecovery command
  permits := permitsRecovery keys userId command
  possible := possibleRecovery

/-- The caches give possible answers only. -/
theorem MfaState.possibleRecovery_exec {keys : MfaKeys} {choice : MfaChoice} {s : MfaState}
    {op : MfaOp} : possibleRecovery ⟨op, (MfaState.exec keys choice op s).1⟩ := by
  cases op with
  | account op =>
    cases op with
    | getById id =>
      rcases MfaState.exec_cases keys choice s (.account (.getById id)) with
        ⟨_, hexec⟩ | ⟨answer, after, heffect, hexec | ⟨_, hexec⟩⟩
      · rw [hexec]
        trivial
      · rw [hexec]
        obtain ⟨rfl, rfl⟩ := Prod.mk.inj (Except.ok.inj heffect)
        change possibleRecovery ⟨.account (.getById id), .ok (s.accounts.users.lookup id)⟩
        cases hrow : s.accounts.users.lookup id with
        | none => trivial
        | some row => exact Table.key_of_lookup hrow
      · rw [hexec]
        trivial
    | _ => trivial
  | _ => trivial

section Programs

variable {keys : MfaKeys} {userId : UUID} {command : RecoveryCommand} {first : RecoveryStage}
  {α : Type}

/-- The stage after a part that writes no codes. -/
def RecoveryCommand.after (command : RecoveryCommand) (first : RecoveryStage) :
    Except AccountError α → RecoveryStage
  | .ok _ => first
  | .error _ => command.fail first

theorem existingUser_takes : (existingUser keys userId).Takes (recoveryStages keys userId command)
    first fun last outcome =>
      last = command.after first outcome ∧ ∀ user, outcome = .ok user → user.id = userId := by
  refine ⟨Or.inl rfl, fun answer hanswer => ?_⟩
  cases answer with
  | error error => exact ⟨rfl, fun _ h => by cases h⟩
  | ok row =>
    cases row with
    | none => exact ⟨rfl, fun _ h => by cases h⟩
    | some row =>
      have hid : row.id = userId := hanswer
      change Takes _ (if isFound (some row) then first else command.fail first)
        (withRecoveryCodes keys ((orRaise row.toDomain >>= fun user => pure (some user)) >>=
          foundOr "User not found")) _
      unfold isFound
      rw [Option.any_some]
      cases hrow : row.toDomain with
      | error error =>
        change _ ∧ _
        exact ⟨rfl, fun _ h => by cases h⟩
      | ok user =>
        change _ ∧ _
        refine ⟨rfl, ?_⟩
        rintro _ ⟨⟩
        exact (UserRow.holds_of_toDomain hrow).id_eq.trans hid

theorem newPlaintextCodes_takes {count : ℕ} : (newPlaintextCodes count).Takes
    (recoveryStages keys userId command) first fun last outcome =>
      last = command.after first outcome := by
  induction count with
  | zero => exact Takes.pure rfl
  | succ count ih =>
    refine Takes.bind (P := fun last outcome => last = command.after first outcome)
      (Takes.perform trivial fun answer _ => ?_) (fun last code hlast => ?_) fun _ _ hlast => hlast
    · cases answer with
      | _ => rfl
    · rw [hlast]
      refine Takes.bind ih (fun last codes hlast => ?_) fun _ _ hlast => hlast
      exact hlast

/-- Every code is stored with its hash and unused. -/
theorem issueRecoveryCodes_takes {codes : List String} : (issueRecoveryCodes keys codes).Takes
    (recoveryStages keys userId command) first fun last outcome =>
      last = command.after first outcome ∧ ∀ recoveryCodes, outcome = .ok recoveryCodes →
        recoveryCodes.map RecoveryCode.codeHash = codes.map keys.hashRecoveryCode ∧
          ∀ recoveryCode ∈ recoveryCodes, recoveryCode.isUsed = false := by
  induction codes with
  | nil =>
    refine Takes.pure ⟨rfl, ?_⟩
    rintro _ ⟨⟩
    exact ⟨rfl, nofun⟩
  | cons code codes ih =>
    refine Takes.bind (P := fun last outcome => last = command.after first outcome)
      (Takes.perform trivial fun answer _ => ?_) (fun last id hlast => ?_)
      fun _ _ hlast => ⟨hlast, nofun⟩
    · cases answer with
      | _ => rfl
    · rw [hlast]
      refine Takes.bind ih (fun last recoveryCodes hlast => ?_)
        fun _ _ hlast => ⟨hlast.1, nofun⟩
      obtain ⟨hhashes, hunused⟩ := hlast.2 recoveryCodes rfl
      refine Takes.pure ⟨hlast.1, ?_⟩
      rintro _ ⟨⟩
      refine ⟨by rw [List.map_cons, List.map_cons, hhashes], fun recoveryCode hmem => ?_⟩
      rcases List.mem_cons.mp hmem with rfl | hmem
      · rfl
      · exact hunused recoveryCode hmem

/-- What is known of a request that has finished: new codes that it returns have been written. -/
def Finished (keys : MfaKeys) (last : RecoveryStage)
    (outcome : Except AccountError RecoveryAnswer) : Prop :=
  last ≠ .cleared ∧ ∀ plaintextCodes, outcome = .ok (.codes plaintextCodes) →
    ∃ recoveryCodes, last = .written recoveryCodes ∧
      recoveryCodes.map RecoveryCode.codeHash = plaintextCodes.map keys.hashRecoveryCode

/-- A generation ends with new codes, and a regeneration that has cleared the old ones is not left
at this stage. -/
theorem generateRecoveryCodes_takes {count : ℤ} (hcommand : ∀ code, command ≠ .consume code)
    (hfirst : first = .cleared → 0 < count ∧ command = .regenerate count) :
    (generateRecoveryCodes keys userId count).Takes (recoveryStages keys userId command) first
      fun last outcome => Finished keys last (outcome.map .codes) := by
  have hfail : command.fail first ≠ .cleared := by
    intro h
    by_cases hcleared : first = .cleared
    · obtain ⟨_, rfl⟩ := hfirst hcleared
      rw [hcleared] at h
      cases h
    · refine hcleared ?_
      unfold RecoveryCommand.fail at h
      split at h
      · cases h
      · exact h
  have herror (last : RecoveryStage) (error : AccountError) (hlast : last = command.fail first) :
      Finished keys last (.error error) := ⟨hlast ▸ hfail, nofun⟩
  refine Takes.ite (fun hcount => ?_) fun _ => ?_
  · refine Takes.throw ⟨fun hcleared => ?_, nofun⟩
    exact absurd (hfirst hcleared).1 (Int.not_lt.mpr hcount)
  · refine Takes.bind existingUser_takes (fun last user hlast => ?_)
      fun last error hlast => herror last error hlast.1
    obtain ⟨hlast, hid⟩ := hlast
    rw [show last = first from hlast]
    refine Takes.bind newPlaintextCodes_takes (fun last plaintextCodes hlast => ?_) herror
    rw [show last = first from hlast]
    refine Takes.bind issueRecoveryCodes_takes (fun last recoveryCodes hlast => ?_)
      fun last error hlast => herror last error hlast.1
    obtain ⟨hlast, hissued⟩ := hlast
    rw [show last = first from hlast]
    obtain ⟨hhashes, hunused⟩ := hissued recoveryCodes rfl
    have hwrite : permitsWrite keys command first recoveryCodes := by
      cases command with
      | consume code => exact absurd rfl (hcommand code)
      | _ => exact hunused
    refine Takes.bind
      (P := fun last outcome => (outcome = .ok () → last = .written recoveryCodes) ∧
        ∀ error, outcome = .error error → last = command.fail first)
      (Takes.perform ⟨hid user rfl, hwrite⟩ fun answer _ => ?_) (fun last _ hlast => ?_)
      fun last error hlast => herror last error (hlast.2 error rfl)
    · cases answer with
      | error error => exact ⟨nofun, fun _ _ => rfl⟩
      | ok _ => exact ⟨fun _ => rfl, nofun⟩
    · cases hlast.1 rfl
      refine Takes.pure ⟨nofun, ?_⟩
      rintro _ ⟨⟩
      exact ⟨recoveryCodes, rfl, hhashes⟩

/-- A consumption writes the codes that it has read, without the presented one. -/
theorem consumption_takes {code : String} : (consumeRecoveryCode keys userId code).Takes
    (recoveryStages keys userId (.consume code)) .started
      fun last _ => last ≠ RecoveryStage.cleared := by
  refine Takes.bind
    (P := fun last outcome => last ≠ RecoveryStage.cleared ∧
      ∀ recoveryCodes, outcome = .ok recoveryCodes → last = .read recoveryCodes)
    (Takes.perform ⟨rfl, rfl⟩ fun answer _ => ?_) (fun last recoveryCodes hlast => ?_)
    fun _ _ hlast => hlast.1
  · cases answer with
    | error error => exact ⟨nofun, nofun⟩
    | ok recoveryCodes =>
      refine ⟨nofun, ?_⟩
      rintro _ ⟨⟩
      rfl
  · cases hlast.2 recoveryCodes rfl
    refine Takes.ite (fun _ => hlast.1) fun _ => ?_
    have hclock : Idles (recoveryStages keys userId (.consume code)) (.read recoveryCodes)
        (mfaQuery .clockNow) := by
      refine Idles.perform (nofun) fun answer => ?_
      cases answer with
      | _ => rfl
    refine hclock.then (fun now => ?_) fun _ => hlast.1
    unfold consumeCode
    split
    · exact hlast.1
    · next updatedCodes hconsume =>
      refine Takes.bind (P := fun last _ => last ≠ RecoveryStage.cleared)
        (Takes.perform ⟨rfl, recoveryCodes, now, rfl, hconsume⟩ fun answer _ => ?_)
        (fun _ _ hlast => hlast) fun _ _ hlast => hlast
      cases answer with
      | _ => exact nofun

/-- The stages of a request that does not touch the codes, for the calls of the handler. -/
def untouchedStages : Stages (Raising AccountError AccountOp.Ret) RecoveryStage where
  initial := .started
  advance stage _ := stage
  permits _ op := op.isOrdinary = true

instance : Ordinary untouchedStages where
  permits _ _ h := h
  advance _ _ _ _ := rfl

theorem advanceRecovery_disable {op : AccountOp} (answer : Except AccountError op.Ret) :
    advanceRecovery .disable first ⟨.account op, answer⟩ = first := by
  cases op with
  | getById id =>
    cases answer with
    | error error => rfl
    | ok row => exact ite_self first
  | _ =>
    cases answer with
    | _ => rfl

/-- Disabling the second factor does not touch the codes. -/
theorem disableMfa_takes : (withRecoveryCodes keys (disableMfa userId)).Takes
    (recoveryStages keys userId .disable) .started fun last _ => last = .started := by
  have hidles : (disableMfa userId).Idles untouchedStages RecoveryStage.started := disableMfa_idles
  refine Takes.expand (c := id) (P := fun last _ => last = RecoveryStage.started)
    (fun first op hordinary => ?_) hidles
  have hcalls : mfaCalls keys op = mfaQuery (.account op) := by
    cases op with
    | service call =>
      cases call with
      | consumeRecoveryCode _ _ => cases hordinary
      | _ => rfl
    | _ => rfl
  rw [hcalls]
  exact Takes.perform (Or.inr rfl) fun answer _ => ⟨trivial, advanceRecovery_disable answer⟩

/-- A request passes through its stages. -/
theorem RecoveryCommand.takes (command : RecoveryCommand) :
    (command.program keys userId).Takes (recoveryStages keys userId command) .started
      fun last outcome => Finished keys last outcome := by
  have hcodes {last : RecoveryStage} {outcome : Except AccountError RecoveryAnswer}
      (hlast : last ≠ .cleared) (h : ∀ plaintextCodes, outcome ≠ .ok (.codes plaintextCodes)) :
      Finished keys last outcome := ⟨hlast, fun codes heq => absurd heq (h codes)⟩
  cases command with
  | generate count =>
    exact Takes.bind (generateRecoveryCodes_takes (nofun) nofun)
      (fun _ _ hlast => hlast) fun _ _ hlast => hlast
  | regenerate count =>
    refine Takes.bind (P := fun last outcome => Finished keys last (outcome.map .codes))
      (Takes.bind (P := fun last outcome => (∀ value, outcome = .ok value →
          last = RecoveryCommand.clear (.regenerate count)) ∧
            ∀ error, outcome = .error error → last = RecoveryStage.started)
        (Takes.perform ⟨rfl, rfl, count, rfl⟩ fun answer _ => ?_) (fun last _ hlast => ?_)
        fun last error hlast => ?_) (fun _ _ hlast => hlast) fun _ _ hlast => hlast
    · cases answer with
      | error error => exact ⟨nofun, fun _ _ => rfl⟩
      | ok _ => exact ⟨fun _ _ => rfl, nofun⟩
    · rw [hlast.1 _ rfl]
      refine generateRecoveryCodes_takes (nofun) fun hcleared => ⟨?_, rfl⟩
      change (if 0 < count then RecoveryStage.cleared else .lost) = .cleared at hcleared
      split at hcleared
      · assumption
      · cases hcleared
    · rw [hlast.2 error rfl]
      exact hcodes (nofun) nofun
  | consume code =>
    exact Takes.bind consumption_takes (fun _ _ hlast => hcodes hlast nofun)
      fun _ _ hlast => hcodes hlast nofun
  | disable =>
    refine Takes.bind disableMfa_takes (fun last _ hlast => ?_) fun last _ hlast => ?_
    · exact hcodes (hlast ▸ nofun) nofun
    · exact hcodes (hlast ▸ nofun) nofun

end Programs

end Linkapro.Identity
