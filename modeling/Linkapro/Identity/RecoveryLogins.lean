import Mathlib.Data.Bool.AllAny
import Linkapro.Lib.Digits
import Linkapro.Lib.Outcomes
import Linkapro.Identity.RecoveryRuns
import Linkapro.Identity.Serializers

/-!
# Identity: recovery codes at the login view

A recovery code has eight hexadecimal digits, a hyphen and eight more. The use case of the
second factor accepts such a code in the place of the six digits of a device, but the view
validates the body of the request before it calls the use case.
-/

namespace Linkapro.Identity

open Lib Lib.Action

/-- The hexadecimal digits. -/
def hexSymbols : List Char :=
  ['0', '1', '2', '3', '4', '5', '6', '7', '8', '9', 'a', 'b', 'c', 'd', 'e', 'f']

/-- `secrets.token_hex(4)` of the number that four random bytes make up. -/
def tokenHex (bytes : BitVec 32) : List Char := paddedText hexSymbols 8 bytes.toNat

/-- `SecureRecoveryCodeGenerator.generate`, with the random bytes of its two parts. -/
def generateCode (first second : BitVec 32) : String :=
  String.ofList (tokenHex first ++ '-' :: tokenHex second)

/-- A request of `LoginTwoFactorView`: the fields of its body and the cookie with the temporary
token. -/
structure TwoFactorRequest where
  fields : List (String × BodyValue)
  cookie : Option String

namespace TwoFactorRequest

/-- `extract_mfa_temp_token` of a body without a temporary token. -/
def cookieToken (request : TwoFactorRequest) : Option String :=
  (request.cookie.filter fun token => token ≠ "").map strip

/-- The data that is validated. -/
def data (request : TwoFactorRequest) : List (String × BodyValue) :=
  if (request.fields.lookup "temp_token").any BodyValue.isTruthy then request.fields
  else
    match request.cookieToken.filter fun token => token ≠ "" with
    | some token => ("temp_token", .text token) :: request.fields
    | none => request.fields

end TwoFactorRequest

/-- What `LoginTwoFactorView` answers. -/
inductive TwoFactorAnswer : Type where
  /-- `mfa_validation_failed` with the errors of the fields. -/
  | validationFailed (field_errors : List (String × List String))
  /-- `mfa_rate_limited`. -/
  | rateLimited
  /-- `_auth_error_response`. -/
  | refused (status : AuthenticationStatus)
  /-- `mfa_login_completed`. -/
  | completed (decision : AuthenticationDecision)

/-- `LoginTwoFactorView.post`. The throttle of failed attempts is `locked`. -/
def postTwoFactor (keys : MfaKeys) (locked : String → Bool) (request : TwoFactorRequest) :
    MfaAction TwoFactorAnswer :=
  match TwoFactorLoginSerializer request.data with
  | .error field_errors => pure (.validationFailed field_errors)
  | .ok data =>
    if locked data.temp_token then pure .rateLimited
    else
      match VerificationCode.of data.token with
      | .error message => throw (.invalidVerificationCode message)
      | .ok token => do
        let decision ← withRecoveryCodes keys (completeMfaLogin data.temp_token token.value)
        if decision.status = .authenticated then pure (.completed decision)
        else pure (.refused decision.status)

/-- Posting a code signs the user in and consumes the code. -/
def SignsIn (keys : MfaKeys) (locked : String → Bool) (choices : ℕ → MfaChoice) (s : MfaState)
    (userId : UUID) (code : String) (request : TwoFactorRequest) : Prop :=
  let run := runOn (MfaState.exec keys) choices (postTwoFactor keys locked request) 0 s
  (∃ decision, run.value = .ok (.completed decision)) ∧
    Spent (run.state.getRecoveryCodes userId) (keys.hashRecoveryCode code)

/-- The generator makes codes of its format. -/
def generates (_ : MfaOp) (_ : MfaState) (choice : MfaChoice) : Prop :=
  ∃ first second, choice.recoveryCode = generateCode first second

/-- A generation or a regeneration for the user has returned the code. -/
def Issued (keys : MfaKeys) (userId : UUID) (code : String) : Prop :=
  ∃ (s : MfaState) (choices : ℕ → MfaChoice) (count : ℤ) (codes : List String),
    (∀ op s k, generates op s (choices k)) ∧ code ∈ codes ∧
      ((Action.runOn (MfaState.exec keys) choices (generateRecoveryCodes keys userId count) 0
          s).value = .ok codes ∨
        (Action.runOn (MfaState.exec keys) choices (regenerateRecoveryCodes keys userId count) 0
          s).value = .ok codes)

/-- The login challenge of a user may be answered with an unused code that the device rejects. -/
structure Presentable (keys : MfaKeys) (s : MfaState) (userId : UUID) (code : String)
    (challenge : MfaChallenge) (now : Datetime) : Prop where
  unused : Usable (s.getRecoveryCodes userId) (keys.hashRecoveryCode code)
  live : s.challenges.get now challenge.id = some challenge
  owner : challenge.userId = userId
  attempts : challenge.canAttempt now = true
  rejected : ∀ secret, keys.acceptsTotp secret (timecode now) code = false

section Format

variable {first second : BitVec 32}

theorem mem_tokenHex {c : Char} {bytes : BitVec 32} (h : c ∈ tokenHex bytes) : c ∈ hexSymbols := by
  obtain ⟨digit, hdigit, rfl⟩ := List.mem_map.mp h
  have hlt : digit < hexSymbols.length := lt_of_mem_padded (by decide) hdigit
  have hsymbol : symbolOf hexSymbols digit = hexSymbols[digit] := by simp [symbolOf, hlt]
  rw [hsymbol]
  exact List.getElem_mem hlt

/-- The parts of a code and the hyphen are seventeen characters. -/
theorem length_generateCode : (generateCode first second).length = 17 := by
  rw [generateCode, String.length_ofList, List.length_append, List.length_cons, tokenHex, tokenHex,
    length_paddedText, length_paddedText]

theorem mem_generateCode {c : Char} (h : c ∈ (generateCode first second).toList) :
    c = '-' ∨ c ∈ hexSymbols := by
  rw [generateCode, String.toList_ofList, List.mem_append, List.mem_cons] at h
  rcases h with h | h | h
  · exact .inr (mem_tokenHex h)
  · exact .inl h
  · exact .inr (mem_tokenHex h)

theorem strip_generateCode : strip (generateCode first second) = generateCode first second := by
  refine strip_eq_self fun c hc => ?_
  have hplain : ∀ c ∈ '-' :: hexSymbols, isSpace c = false :=
    List.all_iff_forall_prop.mp (by decide)
  exact hplain c (List.mem_cons.mpr (mem_generateCode hc))

/-- The serializer refuses every generated code. -/
theorem TwoFactorLoginSerializer_generateCode {fields : List (String × BodyValue)}
    (h : fields.lookup "token" = some (.text (generateCode first second))) :
    ∃ errors, TwoFactorLoginSerializer fields = .error (errors ++
      [("token", ["Ensure this field has no more than 6 characters."])]) := by
  have hplain : '\x00' ∉ (generateCode first second).toList := fun hmem => by
    have hnull := mem_generateCode hmem
    revert hnull
    decide
  have htoken : (CharField.mk true (some 6) (some 6)).validate (fields.lookup "token") =
      .error ["Ensure this field has no more than 6 characters."] := by
    have hlong : 6 < (generateCode first second).length := by
      rw [length_generateCode]
      decide
    rw [h]
    exact CharField.validate_too_long rfl (by decide) strip_generateCode hlong hplain
  unfold TwoFactorLoginSerializer
  rw [htoken]
  cases (CharField.mk true none none).validate (fields.lookup "temp_token") with
  | ok temp_token => exact ⟨[], rfl⟩
  | error messages => exact ⟨[("temp_token", messages)], rfl⟩

/-- The temporary token of the cookie leaves the code as it is. -/
theorem lookup_token_data (request : TwoFactorRequest) :
    request.data.lookup "token" = request.fields.lookup "token" := by
  unfold TwoFactorRequest.data
  split
  · rfl
  · split
    · rw [List.lookup_cons]
      rfl
    · rfl

/-- The view answers a generated code before it calls the use case. -/
theorem postTwoFactor_generateCode (keys : MfaKeys) (locked : String → Bool)
    {request : TwoFactorRequest}
    (h : request.fields.lookup "token" = some (.text (generateCode first second))) :
    ∃ errors, postTwoFactor keys locked request = pure (.validationFailed (errors ++
      [("token", ["Ensure this field has no more than 6 characters."])])) := by
  obtain ⟨errors, hserializer⟩ :=
    TwoFactorLoginSerializer_generateCode ((lookup_token_data request).trans h)
  refine ⟨errors, ?_⟩
  unfold postTwoFactor
  rw [hserializer]

end Format

section Issue

variable {keys : MfaKeys} {userId : UUID} {s : MfaState}

/-- What an action returns are generated codes. -/
def ReturnsGenerated (outcome : Except AccountError (List String)) (_ : MfaState) : Prop :=
  ∀ codes, outcome = .ok codes → ∀ code ∈ codes, ∃ first second, code = generateCode first second

theorem newPlaintextCodes_yields (count : ℕ) : (newPlaintextCodes count).Yields
    (MfaState.exec keys) generates s ReturnsGenerated := by
  induction count generalizing s with
  | zero =>
    refine Action.yields_pure fun codes hcodes code hcode => ?_
    cases hcodes
    cases hcode
  | succ count ih =>
    have hgenerate : (mfaQuery .generateRecoveryCode).Yields (MfaState.exec keys) generates s
        fun outcome _ => ∀ code, outcome = .ok code →
          ∃ first second, code = generateCode first second := by
      refine Action.yields_perform fun choice hchoice code hcode => ?_
      have hcode : choice.recoveryCode = code :=
        (Prod.mk.inj (Except.ok.inj (MfaState.effect_of_answer hcode))).1
      exact hcode ▸ hchoice
    refine hgenerate.bind (fun code s' hcode => ?_) fun error s' _ codes hcodes => nomatch hcodes
    refine ih.bind (fun codes s'' hcodes => ?_) fun error s'' _ codes hcodes => nomatch hcodes
    refine Action.yields_pure fun all hall other hother => ?_
    cases hall
    rcases List.mem_cons.mp hother with rfl | hother
    · exact hcode _ rfl
    · exact hcodes codes rfl other hother

theorem generateRecoveryCodes_yields (count : ℤ) : (generateRecoveryCodes keys userId count).Yields
    (MfaState.exec keys) generates s ReturnsGenerated := by
  unfold generateRecoveryCodes
  refine Yields.ite (fun _ => Action.yields_throw fun codes hcodes => nomatch hcodes) fun _ => ?_
  refine Yields.after (fun user s₁ => ?_) fun error s₁ codes hcodes => nomatch hcodes
  refine (newPlaintextCodes_yields count.toNat).bind (fun plaintextCodes s₂ hplaintext => ?_)
    fun error s₂ _ codes hcodes => nomatch hcodes
  -- The hashes are stored, and the plaintext codes go back to the caller.
  refine Yields.after (fun recoveryCodes s₃ => ?_) fun error s₃ codes hcodes => nomatch hcodes
  refine Yields.after (fun _ s₄ => ?_) fun error s₄ codes hcodes => nomatch hcodes
  refine Action.yields_pure fun codes hcodes => ?_
  exact hplaintext codes hcodes

theorem regenerateRecoveryCodes_yields (count : ℤ) :
    (regenerateRecoveryCodes keys userId count).Yields (MfaState.exec keys) generates s
      ReturnsGenerated :=
  Yields.after (fun _ _ => generateRecoveryCodes_yields count) fun _ _ _ hcodes => nomatch hcodes

/-- Every code that has been issued has the format of the generator. -/
theorem Issued.generated {code : String} (h : Issued keys userId code) :
    ∃ first second, code = generateCode first second := by
  obtain ⟨s, choices, count, codes, hchoices, hcode, hvalue | hvalue⟩ := h
  · exact Program.Yields.runOn (generateRecoveryCodes_yields count)
      (Program.along_of_forall hchoices _ 0 s) codes hvalue code hcode
  · exact Program.Yields.runOn (regenerateRecoveryCodes_yields count)
      (Program.along_of_forall hchoices _ 0 s) codes hvalue code hcode

end Issue

/-- Eight bytes of a generator. -/
def sampleRecoveryCode : String := generateCode 0 0

/-- The planner with the generated code. -/
def generatedCodeState : MfaState :=
  { secondFactorState with
    recoveryCodes := fun userId =>
      if userId = 1 then
        some [{ id := 70, codeHash := "#" ++ sampleRecoveryCode, usedAt := none
                codeHash_not_blank := by decide }]
      else none }

/-- The body with the temporary token and the code. -/
def sampleTwoFactorRequest : TwoFactorRequest where
  fields := [("temp_token", .text "first"), ("token", .text sampleRecoveryCode)]
  cookie := none

/-- A call under which the generator makes the code. -/
def generatingChoice : MfaChoice := { secondFactorChoice with recoveryCode := sampleRecoveryCode }

/-- The planner has generated the code. -/
theorem sampleRecoveryCode_issued : Issued sampleKeys 1 sampleRecoveryCode := by
  refine ⟨secondFactorState, fun _ => generatingChoice, 1, [sampleRecoveryCode],
    fun _ _ _ => ⟨0, 0, rfl⟩, List.mem_cons_self, .inl ?_⟩
  decide +kernel

/-- No posted recovery code signs its user in and is consumed: the view answers with a validation
error, and every code stays as it was. -/
theorem recovery_code_never_signs_in (keys : MfaKeys) (locked : String → Bool)
    (choices : ℕ → MfaChoice) (s : MfaState) (userId : UUID) (code : String)
    (request : TwoFactorRequest) (hissued : Issued keys userId code)
    (h : request.fields.lookup "token" = some (.text code)) :
    ¬ SignsIn keys locked choices s userId code request ∧
      (Action.runOn (MfaState.exec keys) choices (postTwoFactor keys locked request) 0 s).state =
        s := by
  obtain ⟨first, second, rfl⟩ := hissued.generated
  obtain ⟨errors, hpost⟩ := postTwoFactor_generateCode keys locked h
  unfold SignsIn
  rw [hpost, Action.runOn_pure]
  refine ⟨?_, rfl⟩
  rintro ⟨⟨decision, hdecision⟩, -⟩
  cases hdecision

/-- The code of the planner. -/
theorem recovery_code_never_signs_in_sample :
    ¬ SignsIn sampleKeys (fun _ => false) (fun _ => secondFactorChoice) generatedCodeState 1
      sampleRecoveryCode sampleTwoFactorRequest :=
  (recovery_code_never_signs_in sampleKeys (fun _ => false) (fun _ => secondFactorChoice)
    generatedCodeState 1 sampleRecoveryCode sampleTwoFactorRequest sampleRecoveryCode_issued
    rfl).1

/-- An issued and unused code, and a live challenge with attempts left: the use case would sign the
user in, and the view refuses the code. -/
theorem unused_code_refused :
    (∃ decision, (Action.runOn (MfaState.exec sampleKeys) (fun _ => secondFactorChoice)
        (withRecoveryCodes sampleKeys (completeMfaLogin "first" sampleRecoveryCode)) 0
        generatedCodeState).value = .ok decision ∧ decision.status = .authenticated) ∧
      ¬ ∀ (keys : MfaKeys) (locked : String → Bool) (choices : ℕ → MfaChoice) (s : MfaState)
        (userId : UUID) (code : String) (challenge : MfaChallenge) (now : Datetime)
        (request : TwoFactorRequest),
        Issued keys userId code → Presentable keys s userId code challenge now →
          request.fields.lookup "token" = some (.text code) →
            SignsIn keys locked choices s userId code request := by
  constructor
  · have hstatus : ((Action.runOn (MfaState.exec sampleKeys) (fun _ => secondFactorChoice)
        (withRecoveryCodes sampleKeys (completeMfaLogin "first" sampleRecoveryCode)) 0
        generatedCodeState).value.toOption.map AuthenticationDecision.status) =
          some .authenticated := by
      decide +kernel
    obtain ⟨decision, hvalue, hdecision⟩ := Option.map_eq_some_iff.mp hstatus
    refine ⟨decision, ?_, hdecision⟩
    revert hvalue
    cases (Action.runOn (MfaState.exec sampleKeys) (fun _ => secondFactorChoice)
        (withRecoveryCodes sampleKeys (completeMfaLogin "first" sampleRecoveryCode)) 0
        generatedCodeState).value with
    | ok decision' => exact fun hvalue => congrArg Except.ok (Option.some.inj hvalue)
    | error error => exact fun hvalue => nomatch hvalue
  · intro h
    have hdevice : decide (sampleRecoveryCode = "123456") = false := by decide +kernel
    have hpresentable : Presentable sampleKeys generatedCodeState 1 sampleRecoveryCode
        (MfaChallenge.issue 11 1 .totp 0) (seconds 5) := {
      unused := by decide +kernel
      live := by decide +kernel
      owner := rfl
      attempts := by decide +kernel
      rejected := fun _ => hdevice }
    obtain ⟨⟨decision, hdecision⟩, -⟩ := h sampleKeys (fun _ => false)
      (fun _ => secondFactorChoice) generatedCodeState 1 sampleRecoveryCode _ _
      sampleTwoFactorRequest sampleRecoveryCode_issued hpresentable rfl
    have hposted : sampleTwoFactorRequest.fields.lookup "token" = some (.text (generateCode 0 0)) :=
      rfl
    obtain ⟨errors, hpost⟩ := postTwoFactor_generateCode sampleKeys (fun _ => false) hposted
    rw [hpost, Action.runOn_pure] at hdecision
    cases hdecision

end Linkapro.Identity
