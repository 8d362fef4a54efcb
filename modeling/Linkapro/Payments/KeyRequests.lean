import Linkapro.Lib.Stages
import Linkapro.Payments.KeyProvider

/-!
# Payments: requests of the key provider

Whatever the Vault replies and however the threads take turns, a call of the key provider
makes a bounded number of requests, and each of them bears the token of a login whose lease
was not about to end when the thread took it.
-/

namespace Linkapro.Payments

open Lib Lib.Action

/-! ### Stages of a call -/

/-- Where an attempt of a call stands. -/
inductive Position : Type where
  | ready
  /-- There is no token for the attempt. -/
  | failed (error : VaultError)
  | holding (grant : Grant)
  | answered (answer : Except VaultError VaultResponse)
  | cleared
  | renewed (grant : Grant)
  | answeredAgain (answer : Except VaultError VaultResponse)

namespace Position

/-- What `_make_request` comes to at a position, if the attempt ends there. -/
def outcome : Position → Option (Except VaultError VaultData)
  | ready | cleared | renewed _ => none
  | failed error => some (.error error)
  | holding grant =>
    if grant.token = "" then some (.error (.keyProvider "Vault token is missing")) else none
  | answered (.error error) => some (.error error)
  | answered (.ok response) =>
    if response.isRefused then none else some (_handle_response response)
  | answeredAgain answer => some (answer >>= _handle_response)

/-- How many requests the attempt may still make. -/
def left : Position → ℕ
  | ready | failed _ | answeredAgain _ => 0
  | holding _ => 2
  | answered _ | cleared | renewed _ => 1

/-- The token that a thread holds. -/
def grant : Position → Option Grant
  | holding grant | renewed grant => some grant
  | _ => none

/-- The position that a token leads to. -/
def ofToken (position : Grant → Position) : Except VaultError Grant → Position
  | .ok grant => position grant
  | .error error => failed error

end Position

/-- How far a call has come. -/
structure CallStage where
  attempts : ℕ := 0
  requests : ℕ := 0
  position : Position := .ready

namespace CallStage

/-- The next attempt may begin: the first one, or one after an attempt that found the Vault
unavailable. -/
def MayBegin (stage : CallStage) : Prop :=
  stage.position = .ready ∨
    ∃ message, stage.position.outcome = some (.error (.unavailable message))

/-- The stage that a step leads to. -/
def advance (stage : CallStage) : Call (Raising VaultError VaultOp.Ret) → CallStage
  | ⟨.getToken, answer⟩ =>
    { stage with
      attempts := stage.attempts + 1
      position := .ofToken .holding answer }
  | ⟨.clearToken, answer⟩ =>
    { stage with position := match answer with | .ok _ => .cleared | .error error => .failed error }
  | ⟨.refreshToken, answer⟩ => { stage with position := .ofToken .renewed answer }
  | ⟨.request _ _, answer⟩ =>
    { stage with
      requests := stage.requests + 1
      position := match stage.position with
        | .renewed _ => .answeredAgain answer
        | _ => .answered answer }

/-- The steps of a call: at most three attempts, each with the request of the call and the token
that it has taken, and with the same request once more when the token is refused. -/
def permits (call : KeyCall) (stage : CallStage) : VaultOp → Prop
  | .getToken => (∃ body, call.body = .ok body) ∧ stage.attempts < 3 ∧ stage.MayBegin
  | .clearToken => ∃ response, stage.position = .answered (.ok response) ∧ response.isRefused = true
  | .refreshToken => stage.position = .cleared
  | .request grant body =>
    call.body = .ok body ∧ (stage.position = .holding grant ∨ stage.position = .renewed grant)

/-- An attempt makes no more than two requests. -/
def Bounded (stage : CallStage) : Prop :=
  stage.attempts ≤ 3 ∧ stage.requests + stage.position.left ≤ 2 * stage.attempts

end CallStage

/-- The keys that a call may answer: a wrapped key that can be unwrapped, and a data key. -/
def KeyCall.Accepts (key : Bytes) : KeyCall → Prop
  | wrap_dek _ => ∃ ciphertext, _decode_vault_ciphertext (.bytes key) = .ok ciphertext
  | unwrap_dek _ => _require_dek (.bytes key) = .ok key

/-- What one attempt of a call comes to. -/
structure KeyCall.Attempted (call : KeyCall) (first last : CallStage)
    (outcome : Except VaultError Bytes) : Prop where
  refused : ∀ error, call.body = .error error → outcome = .error error ∧ last = first
  served : ∀ body, call.body = .ok body → last.attempts = first.attempts + 1 ∧
    ∃ answer, last.position.outcome = some answer ∧ outcome = answer >>= call.read

/-- What a call comes to. -/
structure KeyCall.Finished (call : KeyCall) (last : CallStage) (outcome : Except VaultError Bytes) :
    Prop where
  /-- An argument that is not acceptable is refused before the Vault is asked. -/
  refused : ∀ error, call.body = .error error →
    outcome = .error error ∧ last.attempts = 0 ∧ last.requests = 0
  /-- Otherwise the last attempt decides. -/
  served : ∀ body, call.body = .ok body →
    ∃ answer, last.position.outcome = some answer ∧ outcome = answer >>= call.read
  /-- The Vault is unavailable after three attempts only. -/
  exhausted : ∀ message, outcome = .error (.unavailable message) → last.attempts = 3
  accepted : ∀ key, outcome = .ok key → call.Accepts key

/-- The stages of a call. -/
def callStages (call : KeyCall) : Stages (Raising VaultError VaultOp.Ret) CallStage where
  initial := {}
  advance := CallStage.advance
  permits := CallStage.permits call

section Stages

variable {call : KeyCall} {stage : CallStage} {grant : Grant} {body : TransitRequest} {α : Type}

theorem ofExcept_takes {outcome : Except VaultError α} {P : CallStage → Except VaultError α → Prop}
    (h : P stage outcome) :
    (MonadExcept.ofExcept outcome : VaultAction α).Takes (callStages call) stage P := by
  cases outcome with
  | ok value => exact Takes.pure h
  | error error => exact Takes.throw h

/-- Every step keeps an attempt to two requests. -/
theorem CallStage.Bounded.advance {op : VaultOp} {answer : Except VaultError op.Ret}
    (hpermits : stage.permits call op) (h : stage.Bounded) :
    (stage.advance ⟨op, answer⟩).Bounded := by
  obtain ⟨hattempts, hrequests⟩ := h
  cases op with
  | getToken =>
    obtain ⟨_, hlt, _⟩ := hpermits
    have hleft : (Position.ofToken .holding answer).left ≤ 2 := by
      cases answer <;> simp [Position.ofToken, Position.left]
    have hstep : stage.requests + (Position.ofToken .holding answer).left ≤
        2 * (stage.attempts + 1) := by omega
    exact ⟨hlt, hstep⟩
  | clearToken =>
    obtain ⟨response, hposition, _⟩ := hpermits
    rw [hposition] at hrequests
    constructor
    · exact hattempts
    · cases answer with
      | ok _ => exact hrequests
      | error error => exact Nat.le_of_succ_le hrequests
  | refreshToken =>
    have hposition : stage.position = .cleared := hpermits
    rw [hposition] at hrequests
    constructor
    · exact hattempts
    · cases answer with
      | ok grant => exact hrequests
      | error error => exact Nat.le_of_succ_le hrequests
  | request grant body =>
    obtain ⟨_, hposition⟩ := hpermits
    constructor
    · exact hattempts
    · rcases hposition with hposition | hposition
      · rw [hposition] at hrequests
        simp only [Position.left] at hrequests
        simp only [CallStage.advance, hposition, Position.left]
        omega
      · rw [hposition] at hrequests
        simp only [Position.left] at hrequests
        simp only [CallStage.advance, hposition, Position.left]
        omega

/-- An attempt that has taken a token ends with an outcome. -/
theorem send_takes (hbody : call.body = .ok body) (hposition : stage.position = .holding grant) :
    (_send grant body).Takes (callStages call) stage fun last outcome =>
      last.attempts = stage.attempts ∧ last.position.outcome = some outcome := by
  refine Takes.ite (fun hempty => ?_) fun hne => ?_
  · apply Takes.throw
    simp [hposition, Position.outcome, hempty]
  refine Takes.bind
    (P := fun last answer => last.attempts = stage.attempts ∧ last.position = .answered answer)
    (Takes.perform ⟨hbody, .inl hposition⟩ fun answer _ => ?_) (fun last response hlast => ?_)
    fun last error hlast => ?_
  · simp [callStages, CallStage.advance, hposition]
  · obtain ⟨hattempts, hanswered⟩ := hlast
    refine Takes.ite (fun hrefused => ?_) fun haccepted => ?_
    · refine Takes.bind
        (P := fun last answer => last.attempts = stage.attempts ∧ last.position =
          match answer with | .ok _ => .cleared | .error error => .failed error)
        (Takes.perform ⟨response, hanswered, hrefused⟩ fun answer _ => ⟨hattempts, rfl⟩)
        (fun last _ hlast => ?_) fun last error hlast => ?_
      · refine Takes.bind
          (P := fun last answer =>
            last.attempts = stage.attempts ∧ last.position = .ofToken .renewed answer)
          (Takes.perform hlast.2 fun answer _ => ⟨hlast.1, rfl⟩)
          (fun last refreshed hlast => ?_) fun last error hlast => ?_
        · have hrenewed : last.position = .renewed refreshed := hlast.2
          refine Takes.bind
            (P := fun last answer =>
              last.attempts = stage.attempts ∧ last.position = .answeredAgain answer)
            (Takes.perform ⟨hbody, .inr hrenewed⟩ fun answer _ => ?_)
            (fun last response hlast => ?_) fun last error hlast => ?_
          · simp [callStages, CallStage.advance, hrenewed, hlast.1]
          · apply ofExcept_takes
            exact ⟨hlast.1, by rw [hlast.2]; rfl⟩
          · exact ⟨hlast.1, by rw [hlast.2]; rfl⟩
        · exact ⟨hlast.1, by rw [hlast.2]; rfl⟩
      · exact ⟨hlast.1, by rw [hlast.2]; rfl⟩
    · apply ofExcept_takes
      simp [hattempts, hanswered, Position.outcome, haccepted]
  · exact ⟨hlast.1, by rw [hlast.2]; rfl⟩

/-- An attempt begins with a token and ends with an outcome. -/
theorem make_request_takes (hbody : call.body = .ok body) (hattempts : stage.attempts < 3)
    (hbegin : stage.MayBegin) :
    (_make_request body).Takes (callStages call) stage fun last outcome =>
      last.attempts = stage.attempts + 1 ∧ last.position.outcome = some outcome := by
  refine Takes.bind
    (P := fun last answer =>
      last.attempts = stage.attempts + 1 ∧ last.position = .ofToken .holding answer)
    (Takes.perform ⟨⟨body, hbody⟩, hattempts, hbegin⟩ fun answer _ => ⟨rfl, rfl⟩)
    (fun last grant hlast => ?_) fun last error hlast => ?_
  · exact (send_takes hbody hlast.2).mono fun last' outcome h => ⟨h.1.trans hlast.1, h.2⟩
  · exact ⟨hlast.1, by rw [hlast.2]; rfl⟩

/-- A ciphertext is refused for good. -/
theorem decode_ne_unavailable (value : KeyArgument) (message : String) :
    _decode_vault_ciphertext value ≠ .error (.unavailable message) := by
  cases value with
  | other => simp [_decode_vault_ciphertext, _require_bytes, bind, Except.bind]
  | bytes value =>
    simp only [_decode_vault_ciphertext, _require_bytes, bind, Except.bind]
    split
    · simp
    · split <;> simp

/-- An argument is refused for good. -/
theorem KeyCall.body_ne_unavailable {message : String} :
    call.body ≠ .error (.unavailable message) := by
  cases call with
  | wrap_dek dek =>
    cases dek with
    | other => simp [body, _require_dek, _require_bytes, Except.map, bind, Except.bind]
    | bytes dek =>
      by_cases hlength : dek.length = 32 <;>
        simp [body, _require_dek, _require_bytes, Except.map, bind, Except.bind, hlength]
  | unwrap_dek encrypted_dek =>
    have hdecode := decode_ne_unavailable encrypted_dek message
    simp only [body]
    cases hvalue : _decode_vault_ciphertext encrypted_dek with
    | ok ciphertext => simp [Except.map]
    | error error => simpa [Except.map, hvalue] using hdecode

/-- A reply that cannot be read is refused for good. -/
theorem KeyCall.read_ne_unavailable {data : VaultData} {message : String} :
    call.read data ≠ .error (.unavailable message) := by
  cases call with
  | wrap_dek dek =>
    change readCiphertext data ≠ _
    unfold readCiphertext
    split
    · simp
    · split
      · simp
      · next encoded_ciphertext _ =>
        have hdecode := decode_ne_unavailable (.bytes encoded_ciphertext) message
        cases hvalue : _decode_vault_ciphertext (.bytes encoded_ciphertext) with
        | ok ciphertext => simp [bind, Except.bind]
        | error error => simpa [bind, Except.bind, hvalue] using hdecode
  | unwrap_dek encrypted_dek =>
    change readDek data ≠ _
    unfold readDek
    split
    · simp
    · simp
    · split
      · simp
      · split <;> simp

/-- What is read from a reply may be answered. -/
theorem KeyCall.accepts_of_read {data : VaultData} {key : Bytes} (h : call.read data = .ok key) :
    call.Accepts key := by
  cases call with
  | wrap_dek dek =>
    change readCiphertext data = _ at h
    unfold readCiphertext at h
    split at h
    · cases h
    · split at h
      · cases h
      · rw [except_bind_eq_ok_iff] at h
        obtain ⟨ciphertext, hciphertext, h⟩ := h
        cases h
        exact ⟨ciphertext, hciphertext⟩
  | unwrap_dek encrypted_dek =>
    change readDek data = _ at h
    unfold readDek at h
    split at h
    · cases h
    · cases h
    · split at h
      · cases h
      · split at h
        · cases h
        · next hlength =>
          cases h
          exact if_neg hlength

/-- An attempt refuses the argument or ends with what its request comes to. -/
theorem KeyCall.attemptOnce_takes (hattempts : stage.attempts < 3) (hbegin : stage.MayBegin) :
    call.attemptOnce.Takes (callStages call) stage (call.Attempted stage) := by
  have hserved {body : TransitRequest} (hbody : .ok body = call.body) {last : CallStage}
      {answer : Except VaultError VaultData}
      (hlast : last.attempts = stage.attempts + 1 ∧ last.position.outcome = some answer) :
      call.Attempted stage last (answer >>= call.read) := by
    constructor
    · intro error herror
      rw [← hbody] at herror
      cases herror
    · intro body' _
      exact ⟨hlast.1, answer, hlast.2, rfl⟩
  refine Takes.bind (P := fun last outcome => last = stage ∧ outcome = call.body)
    (ofExcept_takes ⟨rfl, rfl⟩) (fun last body hlast => ?_) fun last error hlast => ?_
  · obtain ⟨rfl, hbody⟩ := hlast
    refine Takes.bind (make_request_takes hbody.symm hattempts hbegin) (fun last data hlast => ?_)
      fun last error hlast => ?_
    · apply ofExcept_takes
      exact hserved hbody hlast
    · exact hserved hbody hlast
  · obtain ⟨rfl, hbody⟩ := hlast
    constructor
    · intro error' herror
      rw [← hbody] at herror
      cases herror
      exact ⟨rfl, rfl⟩
    · intro body hok
      rw [← hbody] at hok
      cases hok

/-- After an attempt that finds the Vault unavailable the next one may begin. -/
theorem KeyCall.Attempted.mayBegin {last : CallStage} {message : String}
    (h : call.Attempted stage last (.error (.unavailable message))) :
    last.attempts = stage.attempts + 1 ∧ last.MayBegin ∧ ∃ body, call.body = .ok body := by
  cases hbody : call.body with
  | error error =>
    cases (h.refused error hbody).1
    exact absurd hbody body_ne_unavailable
  | ok body =>
    obtain ⟨hattempts, answer, hposition, houtcome⟩ := h.served body hbody
    cases answer with
    | ok data => exact absurd houtcome.symm read_ne_unavailable
    | error error =>
      cases houtcome
      exact ⟨hattempts, .inr ⟨message, hposition⟩, body, rfl⟩

/-- The last attempt finishes the call. -/
theorem KeyCall.Attempted.finished {last : CallStage} {outcome : Except VaultError Bytes}
    (h : call.Attempted stage last outcome)
    (hfirst : ∀ error, call.body = .error error → stage.attempts = 0 ∧ stage.requests = 0)
    (hexhausted : ∀ message, outcome = .error (.unavailable message) → last.attempts = 3) :
    call.Finished last outcome where
  refused error hbody := by
    obtain ⟨houtcome, rfl⟩ := h.refused error hbody
    exact ⟨houtcome, hfirst error hbody⟩
  served body hbody := (h.served body hbody).2
  exhausted := hexhausted
  accepted := by
    rintro key rfl
    cases hbody : call.body with
    | error error => cases (h.refused error hbody).1
    | ok body =>
      obtain ⟨_, answer, _, hread⟩ := h.served body hbody
      obtain ⟨data, _, hdata⟩ := except_bind_eq_ok_iff.mp hread.symm
      exact accepts_of_read hdata

/-- A call goes on as long as the Vault is unavailable and attempts are left. -/
theorem KeyCall.retry_takes {attempts : ℕ} (hattempts : stage.attempts + attempts = 2)
    (hbegin : stage.MayBegin)
    (hfirst : ∀ error, call.body = .error error → stage.attempts = 0 ∧ stage.requests = 0) :
    (retry attempts call.attemptOnce).Takes (callStages call) stage call.Finished := by
  induction attempts generalizing stage with
  | zero =>
    refine (attemptOnce_takes (by omega) hbegin).mono fun last outcome h => h.finished hfirst ?_
    rintro message rfl
    have hlast := h.mayBegin.1
    omega
  | succ attempts ih =>
    refine Takes.attempt (attemptOnce_takes (by omega) hbegin) (fun last key h => ?_)
      fun last error h => ?_
    · exact h.finished hfirst fun _ herror => by cases herror
    · cases error with
      | unavailable message =>
        obtain ⟨hlast, hnext, body, hbody⟩ := h.mayBegin
        refine ih (by omega) hnext fun error herror => ?_
        rw [hbody] at herror
        cases herror
      | keyProvider message => exact h.finished hfirst fun _ herror => by cases herror
      | uncaught => exact h.finished hfirst fun _ herror => by cases herror

/-- A call passes through its stages. -/
theorem KeyCall.perform_takes (call : KeyCall) :
    call.perform.Takes (callStages call) (callStages call).initial call.Finished :=
  retry_takes rfl (.inl rfl) fun _ _ => ⟨rfl, rfl⟩

end Stages

/-! ### Tokens and logins -/

/-- The login covers a token as a thread has taken it: at once, or from the cache with more than
the margin before the end of the lease. -/
structure Login.Covers (config : VaultConfig) (login : Login) (grant : Grant) : Prop where
  token_eq : grant.token = login.token
  expires_eq : grant.expires_at = login.received_at + login.lease
  issued_le : login.issued_at ≤ login.received_at
  received_le : login.received_at ≤ grant.granted_at
  good : grant.granted_at = login.received_at ∨
    grant.granted_at < grant.expires_at - seconds config.token_renewal_margin_seconds

/-- How long a token has been on its way: from the Vault to the provider, and from there to the
request. -/
def SentRequest.delay (sent : SentRequest) (login : Login) : ℤ :=
  (login.received_at - login.issued_at) + (sent.sent_at - sent.grant.granted_at)

/-- The login licenses the request: it covers the token, and its lease has not ended for the Vault
if the token has been on its way for no longer than the margin and the lease. -/
structure Login.Licenses (config : VaultConfig) (login : Login) (sent : SentRequest) : Prop where
  covers : login.Covers config sent.grant
  granted_le : sent.grant.granted_at ≤ sent.sent_at
  in_time : sent.delay login ≤ seconds config.token_renewal_margin_seconds →
    sent.delay login < login.lease → sent.sent_at < login.issued_at + login.lease

namespace ProviderState

/-- The token has been taken from the provider. -/
def Granted (config : VaultConfig) (s : ProviderState) (grant : Grant) : Prop :=
  grant.granted_at ≤ s.clock ∧ ∃ login ∈ s.logins, login.Covers config grant

/-- The token of the provider is that of a login. -/
def CacheSound (s : ProviderState) : Prop :=
  ∀ token, s.token = some token → ∃ login ∈ s.logins, login.token = token ∧
    s.token_expires_at = login.received_at + login.lease ∧
    login.issued_at ≤ login.received_at ∧ login.received_at ≤ s.clock

/-- Time has passed and logins have been added. -/
def Extends (s s' : ProviderState) : Prop := s.clock ≤ s'.clock ∧ s.logins ⊆ s'.logins

variable {config : VaultConfig} {choice : VaultChoice} {s s' : ProviderState} {grant : Grant}

theorem Extends.trans {s'' : ProviderState} (h : s.Extends s') (h' : s'.Extends s'') :
    s.Extends s'' :=
  ⟨h.1.trans h'.1, List.Subset.trans h.2 h'.2⟩

theorem extends_wait {elapsed : ℕ} : s.Extends (s.wait elapsed) :=
  ⟨Int.le_add_of_nonneg_right (Int.natCast_nonneg _), List.Subset.refl _⟩

theorem Granted.of_extends (h : s.Granted config grant) (hs : s.Extends s') :
    s'.Granted config grant := by
  obtain ⟨hgranted, login, hlogin, hcovers⟩ := h
  exact ⟨hgranted.trans hs.1, login, hs.2 hlogin, hcovers⟩

theorem CacheSound.of_extends (h : s.CacheSound) (hs : s.Extends s') (htoken : s'.token = s.token)
    (hexpires : s'.token_expires_at = s.token_expires_at) : s'.CacheSound := by
  intro token hsome
  obtain ⟨login, hlogin, heq, hend, hissued, hreceived⟩ := h token (htoken ▸ hsome)
  exact ⟨login, hs.2 hlogin, heq, hexpires.trans hend, hissued, hreceived.trans hs.1⟩

/-- A login fails, or its token is the one that the provider keeps and grants. -/
theorem refresh_token_cases (config : VaultConfig) (choice : VaultChoice) (s : ProviderState) :
    (∃ error, s._refresh_token choice = (.error error, s.replied choice)) ∨
    ∃ (login : Login) (grant : Grant),
      s._refresh_token choice = (.ok grant,
        { s.replied choice with
          token := some login.token
          token_expires_at := login.received_at + login.lease
          logins := login :: s.logins }) ∧
      login.Covers config grant ∧ login.received_at = (s.replied choice).clock ∧
      grant.granted_at = (s.replied choice).clock := by
  unfold _refresh_token
  cases _request choice.login >>= _handle_response >>= loginData with
  | error error => exact .inl ⟨error, rfl⟩
  | ok data =>
    refine .inr
      ⟨{ token := data.1, issued_at := s.clock + choice.travelled
         received_at := (s.replied choice).clock, lease := seconds data.2 },
        { token := data.1, granted_at := (s.replied choice).clock
          expires_at := (s.replied choice).clock + seconds data.2 }, rfl, ?_, rfl, rfl⟩
    constructor
    · rfl
    · rfl
    · simp only [replied, wait]
      omega
    · exact Int.le_refl _
    · exact .inl rfl

/-- What a block that hands out a token keeps. -/
structure Grants (config : VaultConfig) (s : ProviderState)
    (result : Except VaultError Grant × ProviderState) : Prop where
  extended : s.Extends result.2
  sent_eq : result.2.sent = s.sent
  cache : result.2.CacheSound
  granted : ∀ grant, result.1 = .ok grant → result.2.Granted config grant

theorem grants_refresh_token (config : VaultConfig) (choice : VaultChoice) (h : s.CacheSound) :
    Grants config s (s._refresh_token choice) := by
  have hreplied : s.Extends (s.replied choice) := extends_wait
  rcases refresh_token_cases config choice s with ⟨error, heq⟩ |
    ⟨login, grant, heq, hcovers, hreceived, hgranted⟩
  · rw [heq]
    exact
      { extended := hreplied
        sent_eq := rfl
        cache := h.of_extends hreplied rfl rfl
        granted := fun _ hok => by cases hok }
  · rw [heq]
    constructor
    · exact ⟨hreplied.1, List.subset_cons_self _ _⟩
    · rfl
    · intro token htoken
      cases htoken
      exact ⟨login, List.mem_cons_self, rfl, rfl, hcovers.issued_le, hreceived.le⟩
    · intro grant' hok
      cases hok
      exact ⟨hgranted.le, login, List.mem_cons_self, hcovers⟩

theorem grants_get_token (config : VaultConfig) (choice : VaultChoice) (h : s.CacheSound) :
    Grants config s (s._get_token config choice) := by
  unfold _get_token
  cases htoken : s.token with
  | none => exact grants_refresh_token config choice h
  | some token =>
    by_cases hsoon : s._token_expires_soon config = true
    · simp only [hsoon, if_true]
      exact grants_refresh_token config choice h
    · simp only [hsoon]
      constructor
      · exact ⟨Int.le_refl _, List.Subset.refl _⟩
      · rfl
      · exact h
      · intro grant hok
        cases hok
        obtain ⟨login, hlogin, heq, hend, hissued, hreceived⟩ := h token htoken
        refine ⟨Int.le_refl _, login, hlogin, ?_⟩
        have hlasts : s.clock <
            s.token_expires_at - seconds config.token_renewal_margin_seconds := by
          simpa only [_token_expires_soon, decide_eq_true_eq, not_le] using hsoon
        exact
          { token_eq := heq.symm
            expires_eq := hend
            issued_le := hissued
            received_le := hreceived
            good := .inr hlasts }

end ProviderState

/-- A token that has not been on its way for too long is in force. -/
theorem Login.Covers.licenses {config : VaultConfig} {login : Login} {sent : SentRequest}
    (h : login.Covers config sent.grant) (hgranted : sent.grant.granted_at ≤ sent.sent_at) :
    login.Licenses config sent := by
  refine ⟨h, hgranted, fun hmargin hlease => ?_⟩
  have hexpires := h.expires_eq
  unfold SentRequest.delay at hmargin hlease
  rcases h.good with hgood | hgood
  · omega
  · omega

/-! ### Runs of the provider -/

section Runs

variable {ι : Type}

/-- Calls on one provider. -/
abbrev ProviderPool (ι : Type) : Type :=
  Pool ι ProviderState (Raising VaultError VaultOp.Ret) (Except VaultError Bytes)

/-- The provider before the first step of its calls. -/
def beforeCalls (clock : ℤ) (calls : ι → KeyCall) : ProviderPool ι :=
  Pool.start (newProvider clock) fun i => (calls i).perform.run

/-- How far a call of the pool has come. -/
def callStage [DecidableEq ι] (calls : ι → KeyCall) (pool : ProviderPool ι) (i : ι) : CallStage :=
  pool.stage (callStages (calls i)) i

variable [DecidableEq ι]

/-- What holds of the requests and of the calls of a provider. -/
structure ServesKeys (config : VaultConfig) (calls : ι → KeyCall) (pool : ProviderPool ι) :
    Prop where
  licensed : ∀ sent ∈ pool.state.sent, ∃ login ∈ pool.state.logins, login.Licenses config sent
  requested : ∀ sent ∈ pool.state.sent, ∃ i, (calls i).body = .ok sent.body
  bounded : ∀ i, (callStage calls pool i).attempts ≤ 3 ∧ (callStage calls pool i).requests ≤ 6
  finished : ∀ i outcome, pool.rest i = .done outcome →
    (calls i).Finished (callStage calls pool i) outcome

/-- What the steps of a provider keep. -/
structure ProviderSound (config : VaultConfig) (calls : ι → KeyCall) (pool : ProviderPool ι) :
    Prop where
  cache : pool.state.CacheSound
  held : ∀ i grant, (callStage calls pool i).position.grant = some grant →
    pool.state.Granted config grant
  licensed : ∀ sent ∈ pool.state.sent, ∃ login ∈ pool.state.logins, login.Licenses config sent
  requested : ∀ sent ∈ pool.state.sent, ∃ i, (calls i).body = .ok sent.body
  bounded : ∀ i, (callStage calls pool i).Bounded

variable {config : VaultConfig} {calls : ι → KeyCall} {pool : ProviderPool ι} {i : ι}
  {choice : VaultChoice}

/-- What one step does to the provider and to the token that its thread holds. -/
structure StepEffect (config : VaultConfig) (stage : CallStage) (op : VaultOp)
    (s : ProviderState) (result : Except VaultError op.Ret × ProviderState) : Prop where
  extended : s.Extends result.2
  cache : result.2.CacheSound
  sent : ∀ sent ∈ result.2.sent, sent ∈ s.sent ∨
    ∃ grant body, op = .request grant body ∧ sent.grant = grant ∧ sent.body = body ∧
      s.clock ≤ sent.sent_at
  held : ∀ grant, (stage.advance ⟨op, result.1⟩).position.grant = some grant →
    result.2.Granted config grant

theorem Position.grant_ofToken {position : Grant → Position}
    {answer : Except VaultError Grant} {grant : Grant}
    (hposition : ∀ grant, (position grant).grant = some grant)
    (h : (Position.ofToken position answer).grant = some grant) : answer = .ok grant := by
  cases answer with
  | ok granted =>
    have heq : (position granted).grant = some grant := h
    rw [hposition granted, Option.some_inj] at heq
    rw [heq]
  | error error => cases h

theorem stepEffect (config : VaultConfig) (choice : VaultChoice) (stage : CallStage) (op : VaultOp)
    {s : ProviderState} (h : s.CacheSound) :
    StepEffect config stage op s (ProviderState.exec config choice op s) := by
  have hwait : s.Extends (s.wait choice.waited) := ProviderState.extends_wait
  have hcache : (s.wait choice.waited).CacheSound := h.of_extends hwait rfl rfl
  cases op with
  | getToken =>
    have hgrants := ProviderState.grants_get_token config choice hcache
    constructor
    · exact hwait.trans hgrants.extended
    · exact hgrants.cache
    · exact fun sent hsent => .inl (hgrants.sent_eq ▸ hsent)
    · intro grant hgrant
      exact hgrants.granted grant (Position.grant_ofToken (fun _ => rfl) hgrant)
  | clearToken =>
    constructor
    · exact hwait
    · intro token htoken
      cases htoken
    · exact fun sent hsent => .inl hsent
    · intro grant hgrant
      cases hgrant
  | refreshToken =>
    have hgrants := ProviderState.grants_refresh_token config choice hcache
    constructor
    · exact hwait.trans hgrants.extended
    · exact hgrants.cache
    · exact fun sent hsent => .inl (hgrants.sent_eq ▸ hsent)
    · intro grant hgrant
      exact hgrants.granted grant (Position.grant_ofToken (fun _ => rfl) hgrant)
  | request grant body =>
    have hreplied : s.Extends ((s.wait choice.waited).replied choice) :=
      hwait.trans ProviderState.extends_wait
    constructor
    · exact hreplied
    · exact h.of_extends hreplied rfl rfl
    · intro sent hsent
      rcases List.mem_cons.mp hsent with rfl | hsent
      · exact .inr ⟨grant, body, rfl, rfl, rfl, hwait.1⟩
      · exact .inl hsent
    · intro grant hgrant
      cases hposition : stage.position <;>
        simp [CallStage.advance, hposition, Position.grant] at hgrant

/-- A step keeps the provider sound. -/
theorem keeps_providerSound :
    Pool.Keeps (ProviderState.exec config) (fun i => (callStages (calls i)).contract)
      (fun i log outcome => (calls i).Finished ((callStages (calls i)).stage log) outcome)
      (fun _ _ => True) (ProviderSound config calls) := by
  intro pool i choice op next _ hsound _ hrest hallowed
  have hpermits : (callStage calls pool i).permits (calls i) op := hallowed
  have heffect := stepEffect config choice (callStage calls pool i) op hsound.cache
  have hself : callStage calls (pool.step (ProviderState.exec config) (i, choice)) i =
      (callStage calls pool i).advance
        ⟨op, (ProviderState.exec config choice op pool.state).1⟩ :=
    Pool.stage_step_self hrest
  have hother : ∀ j, i ≠ j →
      callStage calls (pool.step (ProviderState.exec config) (i, choice)) j =
        callStage calls pool j :=
    fun j hij => Pool.stage_step_other hij
  have hstate : (pool.step (ProviderState.exec config) (i, choice)).state =
      (ProviderState.exec config choice op pool.state).2 := by
    rw [Pool.step_of_call hrest]
  constructor
  · rw [hstate]
    exact heffect.cache
  · intro j grant hgrant
    rw [hstate]
    by_cases hij : i = j
    · subst hij
      rw [hself] at hgrant
      exact heffect.held grant hgrant
    · rw [hother j hij] at hgrant
      exact (hsound.held j grant hgrant).of_extends heffect.extended
  · intro sent hsent
    rw [hstate] at hsent ⊢
    rcases heffect.sent sent hsent with hold | ⟨grant, body, rfl, rfl, _, hsent_at⟩
    · obtain ⟨login, hlogin, hlicenses⟩ := hsound.licensed sent hold
      exact ⟨login, heffect.extended.2 hlogin, hlicenses⟩
    · have hheld : (callStage calls pool i).position.grant = some sent.grant := by
        rcases hpermits.2 with hposition | hposition <;> rw [hposition] <;> rfl
      obtain ⟨hgranted, login, hlogin, hcovers⟩ := hsound.held i sent.grant hheld
      exact ⟨login, heffect.extended.2 hlogin, hcovers.licenses (hgranted.trans hsent_at)⟩
  · intro sent hsent
    rw [hstate] at hsent
    rcases heffect.sent sent hsent with hold | ⟨grant, body, rfl, _, rfl, _⟩
    · exact hsound.requested sent hold
    · exact ⟨i, hpermits.1⟩
  · intro j
    by_cases hij : i = j
    · subst hij
      rw [hself]
      exact (hsound.bounded i).advance hpermits
    · rw [hother j hij]
      exact hsound.bounded j

/-- In every run of the calls of a provider, each request to the transit engine bears the token of
a login whose lease was not about to end when the token was taken, so that the Vault takes the
token unless it has been on its way for longer than the margin. Each request is that of a call,
no call makes more than six of them in three attempts, and a call that comes to an end has
refused its argument without a request or answers what its last attempt came to. -/
theorem serves_keys_run (config : VaultConfig) (calls : ι → KeyCall) (clock : ℤ)
    (schedule : List (ι × VaultChoice)) :
    ServesKeys config calls
      ((beforeCalls clock calls).run (ProviderState.exec config) schedule) := by
  have hdisciplined : Pool.Disciplined (fun i => (callStages (calls i)).contract)
      (fun i log outcome => (calls i).Finished ((callStages (calls i)).stage log) outcome)
      (beforeCalls clock calls) :=
    Pool.disciplined_start fun i => (calls i).perform_takes
  have hstart : ProviderSound config calls (beforeCalls clock calls) := by
    constructor
    · intro token htoken
      cases htoken
    · intro i grant hgrant
      cases hgrant
    · intro sent hsent
      cases hsent
    · intro sent hsent
      cases hsent
    · intro i
      exact ⟨Nat.zero_le _, Nat.le_refl _⟩
  have hschedule : Pool.Always (ProviderState.exec config) (fun _ _ => True)
      (beforeCalls clock calls) schedule := Pool.always_of_forall fun _ _ => trivial
  obtain ⟨hend, hsound⟩ :=
    keeps_providerSound.run (fun _ _ _ _ => trivial) hdisciplined hstart hschedule
  constructor
  · exact hsound.licensed
  · exact hsound.requested
  · intro i
    obtain ⟨hattempts, hrequests⟩ := hsound.bounded i
    exact ⟨hattempts, by omega⟩
  · intro i outcome hdone
    exact hend.post_done hdone

end Runs

end Linkapro.Payments
