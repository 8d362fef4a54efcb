import Linkapro.Lib.Expiring
import Linkapro.Identity.AccountOutcomes
import Linkapro.Identity.InterleavedAccounts

/-!
# Identity: a verification that fails half-way

An email verification writes the consumed challenge into the cache and only then the
verified account into the database. The two writes have no transaction in common: when
a call fails between them, the code is used up and the account is not verified.
-/

namespace Linkapro.Identity

open Lib Lib.Action

/-- The tokens of the email verification: the challenge that a token names and the instants at
which it is accepted. -/
structure EmailTokens where
  challengeId : String → Option UUID
  accepts : String → Datetime → Bool

/-- The tables of the accounts and the cache of `DjangoVerificationChallengeRepository`. -/
structure VerificationStore where
  accounts : AccountState
  challenges : ExpiringMap UUID VerificationChallenge Datetime

/-- The instant of a call. -/
def AccountChoice.instant (choice : AccountChoice) : Datetime := choice.answer .utcNow

namespace VerificationStore

/-- The effect of a call without a fault. -/
def effect (tokens : EmailTokens) (choice : AccountChoice) (s : VerificationStore) :
    (op : AccountOp) → Except AccountError (op.Ret × VerificationStore)
  | .service (.verifyEmailVerificationToken token) =>
    .ok (if tokens.accepts token choice.instant then tokens.challengeId token else none, s)
  | .service (.getVerificationChallenge challengeId) =>
    .ok (s.challenges.get choice.instant challengeId, s)
  | .service (.saveVerificationChallenge challenge) =>
    let ttl := seconds (remainingSeconds challenge.expiresAt choice.instant)
    .ok ((), { s with
      challenges := s.challenges.set challenge.id challenge (some (choice.instant + ttl)) })
  | op => (s.accounts.effect choice op).map fun result =>
    (result.1, { s with accounts := result.2 })

/-- A call takes effect or fails. -/
def exec (tokens : EmailTokens) :
    Exec VerificationStore AccountChoice (Raising AccountError AccountOp.Ret) :=
  fun choice op s =>
    match s.effect tokens choice op, choice.fault with
    | .error error, _ => (.error error, s)
    | .ok (answer, after), none => (.ok answer, after)
    | .ok (_, after), some fault => (.error fault.error, if fault.applied then after else s)

/-- The challenge that a token finds. -/
def presented (tokens : EmailTokens) (token : String) (s : VerificationStore) (now : Datetime) :
    Option VerificationChallenge :=
  if tokens.accepts token now then (tokens.challengeId token).bind (s.challenges.get now) else none

/-- The code of a token can be used at an instant. -/
def CanVerify (tokens : EmailTokens) (token : String) (s : VerificationStore) (now : Datetime) :
    Prop :=
  ∃ challenge ∈ s.presented tokens token now, (challenge.consume now).accepted = true

instance (tokens : EmailTokens) (token : String) (s : VerificationStore) (now : Datetime) :
    Decidable (s.CanVerify tokens token now) :=
  inferInstanceAs (Decidable (∃ _ ∈ _, _))

/-- The entry of the challenge that a token names. -/
def named (tokens : EmailTokens) (token : String) (s : VerificationStore) :
    Option (Expiring VerificationChallenge Datetime) :=
  (tokens.challengeId token).bind s.challenges

/-- The account of a token is verified. -/
def Verified (tokens : EmailTokens) (token : String) (s : VerificationStore) : Prop :=
  ∃ entry ∈ s.named tokens token,
    ∃ row ∈ s.accounts.users.lookup entry.value.userId, row.isVerified = true

instance (tokens : EmailTokens) (token : String) (s : VerificationStore) :
    Decidable (s.Verified tokens token) :=
  inferInstanceAs (Decidable (∃ _ ∈ _, ∃ _ ∈ _, _))

/-- From the write of a consumed challenge to the write of the user row no call fails: the
challenge is not written by a call that fails, the calls of `save` before its first write answer,
and this write takes effect, whether it answers or not. -/
def Steady (tokens : EmailTokens) (op : AccountOp) (s : VerificationStore)
    (choice : AccountChoice) : Prop :=
  match op with
  | .service (.saveVerificationChallenge challenge) =>
    challenge.isSucceeded = true → ∀ fault ∈ choice.fault, fault.applied = false
  | .getStored _ _ | .service .randomPasswordSuffix => choice.fault = none
  | .commit statements => ¬ WritesNoUser statements →
      (s.effect tokens choice (.commit statements)).isOk = true ∧
        ∀ fault ∈ choice.fault, fault.applied = true
  | _ => True

instance (tokens : EmailTokens) (op : AccountOp) (s : VerificationStore) (choice : AccountChoice) :
    Decidable (Steady tokens op s choice) := by
  unfold Steady
  split
  all_goals infer_instance

end VerificationStore

/-- A computation that succeeds has a value. -/
theorem exists_of_isOk {ε α : Type} {result : Except ε α} (h : result.isOk = true) :
    ∃ value, result = .ok value := by
  cases result with
  | error error => cases h
  | ok value => exact ⟨value, rfl⟩

section Calls

variable {tokens : EmailTokens} {token : String} {s : VerificationStore}
  {may : AccountOp → VerificationStore → AccountChoice → Prop}

/-- A call whose effect is an answer only. -/
theorem call_reads {op : AccountOp} {P : op.Ret → Prop}
    (h : ∀ choice, may op s choice → ∀ answer after,
      s.effect tokens choice op = .ok (answer, after) → after = s ∧ P answer) :
    (query op).Reads (VerificationStore.exec tokens) may s P := by
  refine yields_perform fun choice hchoice => ?_
  unfold VerificationStore.exec
  cases heffect : s.effect tokens choice op with
  | error error => exact ⟨rfl, nofun⟩
  | ok outcome =>
    obtain ⟨answer, after⟩ := outcome
    obtain ⟨rfl, hP⟩ := h choice hchoice answer after heffect
    cases choice.fault with
    | none => exact ⟨rfl, fun _ heq => Except.ok.inj heq ▸ hP⟩
    | some fault => exact ⟨ite_self _, nofun⟩

/-- A call without a fault. -/
theorem exec_calm {op : AccountOp} {choice : AccountChoice} {answer : op.Ret}
    {after : VerificationStore} (hfault : choice.fault = none)
    (heffect : s.effect tokens choice op = .ok (answer, after)) :
    VerificationStore.exec tokens choice op s = (.ok answer, after) := by
  unfold VerificationStore.exec
  rw [heffect, hfault]

/-- The state after a call is the old one or the one of its effect. -/
theorem state_of_call {op : AccountOp} {choice : AccountChoice} {P : VerificationStore → Prop}
    (hs : P s)
    (hafter : ∀ answer after, s.effect tokens choice op = .ok (answer, after) → P after) :
    P (VerificationStore.exec tokens choice op s).2 := by
  unfold VerificationStore.exec
  cases heffect : s.effect tokens choice op with
  | error error => exact hs
  | ok outcome =>
    obtain ⟨answer, after⟩ := outcome
    cases choice.fault with
    | none => exact hafter answer after heffect
    | some fault =>
      obtain ⟨error, applied⟩ := fault
      cases applied with
      | true => exact hafter answer after heffect
      | false => exact hs

theorem getById_finds {userId : UUID} :
    (getById userId).Reads (VerificationStore.exec tokens) may s fun found =>
      ∀ user, found = some user → user.id = userId := by
  have hquery : (query (.getById userId)).Reads (VerificationStore.exec tokens) may s fun row =>
      row = s.accounts.users.lookup userId := call_reads fun _ _ _ _ heq => by
    cases heq
    exact ⟨rfl, rfl⟩
  refine hquery.bind fun row hrow => ?_
  cases row with
  | none => exact reads_pure fun _ heq => by cases heq
  | some row =>
    refine orRaise_reads.bind fun user huser => reads_pure fun user' heq => ?_
    rw [← Option.some.inj heq, (UserRow.holds_of_toDomain huser).id_eq]
    exact Table.key_of_lookup hrow.symm

/-- What keeps a verified account verified. -/
def KeepsVerified {α : Type} (tokens : EmailTokens) (token : String)
    (may : AccountOp → VerificationStore → AccountChoice → Prop) (action : AccountAction α) :
    Prop :=
  ∀ s : VerificationStore, s.Verified tokens token →
    action.Yields (VerificationStore.exec tokens) may s fun _ s' => s'.Verified tokens token

theorem KeepsVerified.bind {α β : Type} {action : AccountAction α} {f : α → AccountAction β}
    (h : KeepsVerified tokens token may action)
    (hf : ∀ value, KeepsVerified tokens token may (f value)) :
    KeepsVerified tokens token may (action >>= f) :=
  fun s hs => (h s hs).bind (fun value s' hs' => hf value s' hs') fun _ _ hs' => hs'

theorem keepsVerified_forM {γ : Type} {values : List γ} {program : γ → AccountAction Unit}
    (h : ∀ value ∈ values, KeepsVerified tokens token may (program value)) :
    KeepsVerified tokens token may (values.forM program) := by
  intro s hs
  refine yields_forM (I := VerificationStore.Verified tokens token) values ?_ (fun _ hs => hs) hs
  intro value hmem s hs
  refine (h value hmem s hs).mono fun outcome s' hs' => ?_
  cases outcome <;> exact hs'

theorem keepsVerified_orRaise {α : Type} {result : Except AccountError α} :
    KeepsVerified tokens token may (orRaise result) :=
  fun s hs => Yields.mono (orRaise_reads (s := s)) fun _ _ hread => hread.1 ▸ hs

theorem keepsVerified_dispatchVerification {event : VerificationEvent} :
    KeepsVerified tokens token may (serve (.dispatchVerification event)) :=
  fun s hs => yields_perform fun choice _ => state_of_call hs fun _ _ heq => by
    cases heq
    exact hs

theorem keepsVerified_dispatchEvents {user : User} :
    KeepsVerified tokens token may (dispatchEvents user) :=
  keepsVerified_forM fun _ _ s hs => yields_perform fun choice _ =>
    state_of_call hs fun _ _ heq => by
      cases heq
      exact hs

/-- Statements that write no user row. -/
theorem keepsVerified_commit {statements : List AccountStatement}
    (hquiet : WritesNoUser statements) :
    KeepsVerified tokens token may (query (.commit statements)) := by
  refine fun s hs => yields_perform fun choice _ => state_of_call hs fun _ _ heq => ?_
  obtain ⟨⟨_, accounts⟩, hcommit, heq⟩ := except_map_eq_ok_iff.mp heq
  obtain ⟨accounts', happly, heq'⟩ := except_map_eq_ok_iff.mp hcommit
  cases heq
  cases heq'
  obtain ⟨entry, hentry, row, hrow, hverified⟩ := hs
  refine ⟨entry, hentry, row, ?_, hverified⟩
  exact (AccountState.lookup_applyAll_of_quiet happly hquiet).trans hrow

section Steady

variable (hsteady : ∀ op s choice, may op s choice → VerificationStore.Steady tokens op s choice)
include hsteady

/-- The write of a verified row, once the challenge of the token is stored. -/
theorem commit_verifies {row : UserRow} (hverified : row.isVerified = true)
    (hchallenge : ∃ entry ∈ s.named tokens token, entry.value.userId = row.id) :
    (query (.commit [.saveUser row])).Yields (VerificationStore.exec tokens) may s
      fun _ s' => s'.Verified tokens token := by
  refine yields_perform fun choice hchoice => ?_
  have hwrites : ¬ WritesNoUser [.saveUser row] := by
    intro hquiet
    have hnone : some row.id = none := hquiet _ List.mem_cons_self
    cases hnone
  obtain ⟨hok, hfault⟩ := hsteady _ s choice hchoice hwrites
  obtain ⟨⟨_, after⟩, heffect⟩ := exists_of_isOk hok
  have hafter : after.Verified tokens token := by
    obtain ⟨⟨_, accounts⟩, hcommit, heq⟩ := except_map_eq_ok_iff.mp heffect
    obtain ⟨accounts', happly, heq'⟩ := except_map_eq_ok_iff.mp hcommit
    cases heq
    cases heq'
    obtain ⟨entry, hentry, huser⟩ := hchallenge
    refine ⟨entry, hentry, row, ?_, hverified⟩
    rw [huser]
    have happly' : AccountState.applyAll _ ([] ++ .saveUser row :: _) = .ok _ := happly
    exact AccountState.lookup_applyAll_saves happly' fun _ hmem => by cases hmem
  unfold VerificationStore.exec
  rw [heffect]
  cases hchoice' : choice.fault with
  | none => exact hafter
  | some fault =>
    have happlied := hfault fault hchoice'
    simp only [happlied, if_pos]
    exact hafter

/-- What `save` is going to write for a verified account. -/
theorem prepareSave_yields {user : User} :
    (prepareSave [] user).Yields (VerificationStore.exec tokens) may s fun outcome s' => s' = s ∧
      ∃ plan : SavePlan, outcome = .ok plan ∧ plan.row.id = user.id ∧
        plan.row.isVerified = user.isVerified ∧ WritesNoUser plan.remembered := by
  have hstored : (query (.getStored [] user.id)).Yields (VerificationStore.exec tokens) may s
      fun outcome s' => s' = s ∧ ∃ stored, outcome = .ok stored := by
    refine yields_perform fun choice hchoice => ?_
    rw [exec_calm (hsteady _ s choice hchoice) rfl]
    exact ⟨rfl, _, rfl⟩
  have hpassword : (storedPassword user).Yields (VerificationStore.exec tokens) may s
      fun outcome s' => s' = s ∧ ∃ password, outcome = .ok password := by
    unfold storedPassword
    cases user.passwordHash with
    | some hash => exact yields_pure ⟨rfl, _, rfl⟩
    | none =>
      have hsuffix : (serve .randomPasswordSuffix).Yields (VerificationStore.exec tokens) may s
          fun outcome s' => s' = s ∧ ∃ suffix, outcome = .ok suffix := by
        refine yields_perform fun choice hchoice => ?_
        rw [exec_calm (hsteady _ s choice hchoice) rfl]
        exact ⟨rfl, _, rfl⟩
      refine hsuffix.bind (fun suffix s' hs' => ?_) fun _ _ hs' => ?_
      · exact yields_pure ⟨hs'.1, _, rfl⟩
      · obtain ⟨_, _, herror⟩ := hs'
        cases herror
  refine hstored.bind (fun stored s' hs' => ?_) fun _ _ hs' => ?_
  · obtain ⟨rfl, _⟩ := hs'
    refine hpassword.bind (fun password s' hs' => ?_) fun _ _ hs' => ?_
    · exact yields_pure ⟨hs'.1, _, rfl, rfl, rfl, writesNoUser_rememberNewPassword⟩
    · obtain ⟨_, _, herror⟩ := hs'
      cases herror
  · obtain ⟨_, _, herror⟩ := hs'
    cases herror

/-- The save of a verified account, once the challenge of the token is stored. -/
theorem save_verifies {user : User} (hverified : user.isVerified = true)
    (hchallenge : ∃ entry ∈ s.named tokens token, entry.value.userId = user.id) :
    (save user).Yields (VerificationStore.exec tokens) may s
      fun _ s' => s'.Verified tokens token := by
  refine (prepareSave_yields hsteady).bind (fun plan s' hs' => ?_) fun _ _ hs' => ?_
  · obtain ⟨rfl, plan', hplan, hid, hrow, hquiet⟩ := hs'
    cases hplan
    have hcommit := commit_verifies hsteady (hrow.trans hverified) (hid ▸ hchallenge)
    refine hcommit.bind (fun _ s'' hs'' => ?_) fun _ _ hs'' => hs''
    refine KeepsVerified.bind ?_ (fun _ => keepsVerified_orRaise) s'' hs''
    refine keepsVerified_forM fun statement hmem => keepsVerified_commit fun statement' hmem' => ?_
    rw [List.mem_singleton.mp hmem']
    exact hquiet statement hmem
  · obtain ⟨_, _, herror, _⟩ := hs'
    cases herror

omit hsteady in
/-- An accepted challenge has succeeded. -/
theorem consume_accepted {challenge : VerificationChallenge} {now : Datetime}
    (h : (challenge.consume now).accepted = true) :
    (challenge.consume now).challenge = { challenge with succeededAt := some now } := by
  unfold VerificationChallenge.consume at h ⊢
  unfold VerificationChallenge.expire at h
  split_ifs at h ⊢
  rfl

omit hsteady in
theorem markVerified_eq {user : User} :
    user.markVerified.isVerified = true ∧ user.markVerified.id = user.id := by
  unfold User.markVerified
  split
  · next hverified => exact ⟨hverified, rfl⟩
  · exact ⟨rfl, rfl⟩

/-- Once a code has been presented, an error leaves a verified account or a code that can still be
used. -/
def Settles (tokens : EmailTokens) (token : String) (s : VerificationStore)
    (outcome : Except AccountError Unit) (after : VerificationStore) : Prop :=
  (∃ error, outcome = .error error) → after.Verified tokens token ∨
    ∀ now, s.CanVerify tokens token now → after.CanVerify tokens token now

omit hsteady in
theorem settles_self {outcome : Except AccountError Unit} : Settles tokens token s outcome s :=
  fun _ => Or.inr fun _ h => h

variable (hcorrect : ∀ op s' choice, may op s' choice → s.CanVerify tokens token choice.instant)
include hcorrect

theorem verifyEmailFound_yields {challenge : VerificationChallenge} {user : User} {id : UUID}
    {entry : Expiring VerificationChallenge Datetime} (hid : tokens.challengeId token = some id)
    (hentry : s.challenges id = some entry) (hvalue : entry.value = challenge)
    (huser : user.id = challenge.userId) :
    (verifyEmailFound challenge user).Yields (VerificationStore.exec tokens) may s
      (Settles tokens token s) := by
  have hnow : (serve .utcNow).Reads (VerificationStore.exec tokens) may s fun now =>
      (challenge.consume now).accepted = true := call_reads fun choice hchoice _ _ heq => by
    cases heq
    refine ⟨rfl, ?_⟩
    obtain ⟨challenge', hpresented, haccepted⟩ := hcorrect _ _ choice hchoice
    unfold VerificationStore.presented at hpresented
    split at hpresented
    · rw [hid, Option.bind_some] at hpresented
      obtain ⟨entry', hentry', rfl⟩ := ExpiringMap.entry_of_get hpresented
      rw [hentry] at hentry'
      cases hentry'
      exact hvalue ▸ haccepted
    · cases hpresented
  refine hnow.bind_yields (fun now haccepted => ?_) fun _ => settles_self
  refine Yields.ite (fun hrefused => absurd haccepted hrefused) fun _ => ?_
  refine orRaise_reads.bind_yields (fun _ _ => ?_) fun _ => settles_self
  have hsaved : (serve (.saveVerificationChallenge (challenge.consume now).challenge)).Yields
      (VerificationStore.exec tokens) may s fun outcome s' => match outcome with
        | .ok _ => ∃ entry ∈ s'.named tokens token, entry.value.userId = user.markVerified.id
        | .error _ => s' = s := by
    refine yields_perform fun choice hchoice => ?_
    have hconsumed := consume_accepted haccepted
    have hfault : ∀ fault ∈ choice.fault, fault.applied = false :=
      hsteady _ s choice hchoice (by rw [hconsumed]; rfl)
    unfold VerificationStore.exec
    cases hchoice' : choice.fault with
    | some fault =>
      simp only [VerificationStore.effect, hfault fault hchoice', Bool.false_eq_true, if_false]
    | none =>
      rw [markVerified_eq.2, huser, hconsumed, VerificationStore.named, hid, Option.bind_some]
      by_cases hkey : id = challenge.id
      · subst hkey
        exact ⟨_, Function.update_self .., rfl⟩
      · exact ⟨entry, (Function.update_of_ne hkey ..).trans hentry, hvalue ▸ rfl⟩
  refine hsaved.bind (fun _ s' hstored => ?_) fun _ s' hs' => hs' ▸ settles_self
  have hrest : KeepsVerified tokens token may (do
      (challenge.consume now).events.forM fun event => serve (.dispatchVerification event)
      dispatchEvents user.markVerified) :=
    (keepsVerified_forM fun _ _ => keepsVerified_dispatchVerification).bind fun _ =>
      keepsVerified_dispatchEvents
  have hverified := save_verifies hsteady markVerified_eq.1 hstored
  refine (hverified.bind (fun _ s'' hs'' => hrest s'' hs'') fun _ _ hs'' => hs'').mono ?_
  exact fun _ _ hverified _ => Or.inl hverified

theorem verifyEmail_yields :
    (verifyEmail token).Yields (VerificationStore.exec tokens) may s (Settles tokens token s) := by
  have hnamed : (serve (.verifyEmailVerificationToken token)).Reads (VerificationStore.exec tokens)
      may s fun id => ∀ challengeId, id = some challengeId →
        tokens.challengeId token = some challengeId := call_reads fun choice _ _ _ heq => by
    cases heq
    refine ⟨rfl, fun challengeId hid => ?_⟩
    by_cases haccepts : tokens.accepts token choice.instant = true
    · exact (if_pos haccepts).symm.trans hid
    · cases (if_neg haccepts).symm.trans hid
  have hfound (id : UUID) : (serve (.getVerificationChallenge id)).Reads
      (VerificationStore.exec tokens) may s fun found => ∀ challenge, found = some challenge →
        ∃ entry, s.challenges id = some entry ∧ entry.value = challenge :=
    call_reads fun choice _ _ _ heq => by
      cases heq
      exact ⟨rfl, fun _ hget => ExpiringMap.entry_of_get hget⟩
  refine hnamed.bind_yields (fun _ hnamed => ?_) fun _ => settles_self
  refine presentOr_reads.bind_yields (fun id hid => ?_) fun _ => settles_self
  refine (hfound id).bind_yields (fun _ hfound => ?_) fun _ => settles_self
  refine presentOr_reads.bind_yields (fun challenge hchallenge => ?_) fun _ => settles_self
  obtain ⟨entry, hentry, hvalue⟩ := hfound challenge hchallenge
  refine getById_finds.bind_yields (fun _ huser => ?_) fun _ => settles_self
  refine foundOr_reads.bind_yields (fun user hfoundUser => ?_) fun _ => settles_self
  exact verifyEmailFound_yields hsteady hcorrect (hnamed id hid) hentry hvalue
    (huser user hfoundUser)

end Steady

end Calls

/-- In every run of an email verification whose code can be used at all of its calls, and in which
no call fails from the write of the consumed challenge to the write of the user row: if it raises,
the account is verified or the code can be used as before. -/
theorem code_kept {tokens : EmailTokens} {token : String} {s : VerificationStore}
    {choices : ℕ → AccountChoice}
    (hcorrect : (verifyEmail token).Along (VerificationStore.exec tokens)
      (fun _ _ choice => s.CanVerify tokens token choice.instant) choices 0 s)
    (hsteady : (verifyEmail token).Along (VerificationStore.exec tokens)
      (VerificationStore.Steady tokens) choices 0 s) :
    let finished := (verifyEmail token).runOn (VerificationStore.exec tokens) choices 0 s
    (∃ error, finished.value = .error error) → finished.state.Verified tokens token ∨
      ∀ now, s.CanVerify tokens token now → finished.state.CanVerify tokens token now :=
  Yields.runOn (verifyEmail_yields (fun _ _ _ h => h.2) fun _ _ _ h => h.1)
    (Program.Along.and hcorrect hsteady)

/-- Tokens that name the challenge 5. -/
def sampleTokens : EmailTokens where
  challengeId _ := some 5
  accepts _ _ := true

/-- The planner before the verification, with a challenge. -/
def unverifiedStore : VerificationStore where
  accounts :=
    { sampleAccounts with
      users := sampleAccounts.users.upsert { sampleRow with isVerified := false } }
  challenges := fun id =>
    if id = 5 then
      some
        { value :=
            { id := 5
              userId := 1
              purpose := .email
              codeDigest := ""
              issuedAt := 0
              expiresAt := 5000
              resendAvailableAt := 0
              failedAttempts := 0
              maxAttempts := 5
              succeededAt := none
              expiredAt := none }
          deadline := some 5000 }
    else none

/-- Only the call with a number fails, and it takes no effect. -/
def failsAt (n k : ℕ) : AccountChoice :=
  if k = n then { calmChoice with fault := some ⟨.database "connection lost", false⟩ }
  else calmChoice

/-- The first call after the write of the user row fails: the account is verified. -/
theorem code_kept_sample :
    let finished := (verifyEmail "token").runOn (VerificationStore.exec sampleTokens) (failsAt 7) 0
      unverifiedStore
    finished.state.Verified sampleTokens "token" ∨
      ∀ now, unverifiedStore.CanVerify sampleTokens "token" now →
        finished.state.CanVerify sampleTokens "token" now :=
  code_kept (by decide +kernel) (by decide +kernel)
    ⟨.database "connection lost", by decide +kernel⟩

/-- The write of the user row fails: the code is used up and the account is not verified. -/
theorem code_used_up :
    let finished := (verifyEmail "token").runOn (VerificationStore.exec sampleTokens) (failsAt 6) 0
      unverifiedStore
    (verifyEmail "token").Along (VerificationStore.exec sampleTokens)
        (fun _ _ choice => unverifiedStore.CanVerify sampleTokens "token" choice.instant)
        (failsAt 6) 0 unverifiedStore ∧
      ¬ ((∃ error, finished.value = .error error) →
        finished.state.Verified sampleTokens "token" ∨
          ∀ now, unverifiedStore.CanVerify sampleTokens "token" now →
            finished.state.CanVerify sampleTokens "token" now) := by
  refine ⟨by decide +kernel, fun h => ?_⟩
  have hraised : ((verifyEmail "token").runOn (VerificationStore.exec sampleTokens) (failsAt 6) 0
      unverifiedStore).value = .error (.database "connection lost") := by
    decide +kernel
  rcases h ⟨_, hraised⟩ with hverified | hkept
  · revert hverified
    decide +kernel
  · have hlost := hkept 1000
    revert hlost
    decide +kernel

end Linkapro.Identity
