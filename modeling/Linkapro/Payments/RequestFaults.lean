import Linkapro.Payments.RawRequests

/-!
# Payments: the errors that escape the request check

`_validate_request` on the bytes and headers of a request, under any answers of Redis, of
the cache and of the database. The errors of Redis are handled. Those of the other calls,
of the decoding of the body and of the comparison of the signature escape.
-/

namespace Linkapro.Payments

/-- What the calls that serve one request answer, or the errors that they raise. -/
structure RequestAnswers where
  now : Datetime
  /-- `redis_client` raises or is not configured. -/
  client_missing : Bool
  /-- `redis_client.exists`. -/
  nonce_exists : Except String Bool
  /-- The row that `find_by_key_id` reads. -/
  key : Except String (Option ApiKey)
  /-- The error of `request.body`, which refuses a body that is too large or broken off. -/
  body_error : Option String
  /-- `redis_client.setex` for the nonce. -/
  setex : Except String Unit
  /-- `mark_used`. -/
  mark_used : Except String Unit
  /-- `cache.get`, the failures of the address so far. -/
  failures : Except String ℕ
  /-- `cache.set`. -/
  count_failure : Except String Unit
  /-- `redis_client.setex` for the blocked address. -/
  block : Except String Unit

namespace HmacRequestValidator

/-- `max_failures`. -/
def max_failures : ℕ := 10

/-- `_record_failure`. Only the call on Redis is guarded. -/
def record_failure (answers : RequestAnswers) : Except String Unit := do
  let current ← answers.failures
  answers.count_failure
  if max_failures ≤ current + 1 ∧ ¬ answers.client_missing then
    tryCatch answers.block fun _ => pure ()

/-- A refusal that counts as a failure of the address. -/
def refuse (answers : RequestAnswers) (error : String) (status : ℕ) : Except String Verdict := do
  record_failure answers
  pure (.refused error status)

/-- The text of the body. -/
def read_body (request : RawRequest) (answers : RequestAnswers) : Except String String :=
  match answers.body_error with
  | some error => .error error
  | none =>
    match request.body_text with
    | none => .error "UnicodeDecodeError"
    | some body => .ok body

/-- The key may be used on the path. -/
def InScope (path : String) (key : ApiKey) : Prop :=
  required_scope path ∈ key.scopes ∨ "full_access" ∈ key.scopes

instance (path : String) (key : ApiKey) : Decidable (InScope path key) :=
  inferInstanceAs (Decidable (_ ∨ _))

/-- The signature that a request should carry. -/
def expected_signature (digests : Digests) (request : RawRequest) (headers : Headers)
    (key : ApiKey) (body : String) : String :=
  digests.hmac (key.secret_plain.getD "")
    (build_canonical digests request.method request.path body headers.timestamp headers.nonce)

/-- `_validate_request`. An error escapes. -/
def validate_request (digests : Digests) (request : RawRequest) (answers : RequestAnswers) :
    Except String Verdict :=
  match check_timestamp request.signed answers.now with
  | .error verdict => .ok verdict
  | .ok headers =>
    if answers.client_missing then .ok redis_unavailable
    else
      match answers.nonce_exists with
      | .error _ => .ok redis_unavailable
      | .ok true => refuse answers "Nonce already used" 401
      | .ok false => do
        let row ← answers.key
        match find_by_key_id row answers.now with
        | none => refuse answers "Invalid API key" 401
        | some key =>
          if ¬ InScope request.path key then refuse answers "Insufficient scope" 403
          else
            let body ← read_body request answers
            if nonEmpty key.secret_plain = none then refuse answers "Invalid API key" 401
            else
              match compareDigest (expected_signature digests request headers key body)
                headers.signature with
              | none => .error "TypeError"
              | some false => refuse answers "Invalid signature" 401
              | some true =>
                match answers.setex with
                | .error _ => .ok redis_unavailable
                | .ok () => do
                  answers.mark_used
                  pure .passed

/-- The request is fresh and Redis has been asked for its nonce. -/
structure Asked (request : RawRequest) (answers : RequestAnswers) (headers : Headers)
    (seen : Bool) : Prop where
  headers_ok : check_timestamp request.signed answers.now = .ok headers
  client : answers.client_missing = false
  nonce : answers.nonce_exists = .ok seen

/-- A new request comes with a usable key of the right scope. -/
structure Authorised (request : RawRequest) (answers : RequestAnswers) (headers : Headers)
    (key : ApiKey) : Prop extends Asked request answers headers false where
  found : ∃ row, answers.key = .ok row ∧ find_by_key_id row answers.now = some key
  scope : InScope request.path key

/-- The refusals that are counted: of a nonce that has been seen, of a key that is missing or
out of scope and of a wrong signature. -/
inductive Counted (digests : Digests) (request : RawRequest) (answers : RequestAnswers) : Prop where
  | replay (headers : Headers) (asked : Asked request answers headers true)
  | unknown_key (headers : Headers) (row : Option ApiKey)
      (asked : Asked request answers headers false) (read : answers.key = .ok row)
      (unusable : find_by_key_id row answers.now = none)
  | out_of_scope (headers : Headers) (row : Option ApiKey) (key : ApiKey)
      (asked : Asked request answers headers false) (read : answers.key = .ok row)
      (usable : find_by_key_id row answers.now = some key) (scope : ¬ InScope request.path key)
  | wrong_signature (headers : Headers) (key : ApiKey) (body : String)
      (authorised : Authorised request answers headers key)
      (read : read_body request answers = .ok body) (ascii : isAscii headers.signature = true)
      (wrong : expected_signature digests request headers key body ≠ headers.signature)

/-- The errors that escape. -/
inductive Escape (digests : Digests) (request : RawRequest) (answers : RequestAnswers)
    (error : String) : Prop where
  /-- The key cannot be read. -/
  | key (headers : Headers) (asked : Asked request answers headers false)
      (raised : answers.key = .error error)
  /-- The body cannot be read, or it is not UTF-8. -/
  | body (headers : Headers) (key : ApiKey) (authorised : Authorised request answers headers key)
      (raised : read_body request answers = .error error)
  /-- The signature is compared although it is not ASCII. -/
  | signature (headers : Headers) (key : ApiKey) (body : String)
      (authorised : Authorised request answers headers key)
      (read : read_body request answers = .ok body) (ascii : isAscii headers.signature = false)
      (raised : error = "TypeError")
  /-- The failure cannot be counted. -/
  | failure (counted : Counted digests request answers)
      (raised : record_failure answers = .error error)
  /-- The key cannot be marked. -/
  | used (headers : Headers) (key : ApiKey) (body : String)
      (authorised : Authorised request answers headers key)
      (read : read_body request answers = .ok body) (ascii : isAscii headers.signature = true)
      (verified : expected_signature digests request headers key body = headers.signature)
      (stored : answers.setex = .ok ()) (raised : answers.mark_used = .error error)

/-- The answers that the check gives by design. -/
def Defined (verdict : Verdict) : Prop :=
  match verdict with
  | .passed => True
  | .refused _ status => status ∈ [401, 403, 503]
  | .raised _ => False

instance (verdict : Verdict) : Decidable (Defined verdict) := by
  unfold Defined
  split <;> infer_instance

variable {digests : Digests} {request : RawRequest} {answers : RequestAnswers} {error : String}

/-- A counted refusal is given unless the count fails. -/
theorem refuse_eq (answers : RequestAnswers) (message : String) (status : ℕ) :
    (∃ e, record_failure answers = .error e ∧ refuse answers message status = .error e) ∨
      (record_failure answers = .ok () ∧
        refuse answers message status = .ok (.refused message status)) := by
  unfold refuse
  cases hrecord : record_failure answers with
  | error e => exact .inl ⟨e, rfl, rfl⟩
  | ok _ => exact .inr ⟨rfl, rfl⟩

/-- A key that may be used has a secret. -/
theorem secret_of_find_by_key_id {row : Option ApiKey} {now : Datetime} {key : ApiKey}
    (h : find_by_key_id row now = some key) : nonEmpty key.secret_plain ≠ none := by
  have hchecks := (Option.filter_eq_some_iff.mp h).2
  simp only [decide_eq_true_eq] at hchecks
  exact Option.isSome_iff_ne_none.mp hchecks.2.2

variable (digests) in
/-- A nonce that has been seen is refused. -/
theorem validate_of_seen {headers : Headers} (h : Asked request answers headers true) :
    validate_request digests request answers = refuse answers "Nonce already used" 401 := by
  simp only [validate_request, h.headers_ok, h.client, h.nonce, Bool.false_eq_true, if_false]

variable (digests) in
/-- The key of a new request is read. -/
theorem validate_of_unread {headers : Headers} (h : Asked request answers headers false)
    (hkey : answers.key = .error error) :
    validate_request digests request answers = .error error := by
  simp only [validate_request, h.headers_ok, h.client, h.nonce, hkey, Bool.false_eq_true, if_false]
  rfl

variable (digests) in
/-- A key that is missing is refused. -/
theorem validate_of_unusable {headers : Headers} {row : Option ApiKey}
    (h : Asked request answers headers false) (hkey : answers.key = .ok row)
    (hrow : find_by_key_id row answers.now = none) :
    validate_request digests request answers = refuse answers "Invalid API key" 401 := by
  simp only [validate_request, h.headers_ok, h.client, h.nonce, hkey, Bool.false_eq_true, if_false]
  change (match find_by_key_id row answers.now with
    | none => refuse answers "Invalid API key" 401
    | some key => _) = _
  rw [hrow]

variable (digests) in
/-- A key that is out of scope is refused. -/
theorem validate_of_out_of_scope {headers : Headers} {row : Option ApiKey} {key : ApiKey}
    (h : Asked request answers headers false) (hkey : answers.key = .ok row)
    (hrow : find_by_key_id row answers.now = some key) (hscope : ¬ InScope request.path key) :
    validate_request digests request answers = refuse answers "Insufficient scope" 403 := by
  simp only [validate_request, h.headers_ok, h.client, h.nonce, hkey, Bool.false_eq_true, if_false]
  change (match find_by_key_id row answers.now with
    | none => refuse answers "Invalid API key" 401
    | some key => _) = _
  simp only [hrow, if_pos hscope]

/-- The signature of an authorised request is checked once its body has been read. -/
theorem validate_of_authorised {headers : Headers} {key : ApiKey}
    (h : Authorised request answers headers key) :
    validate_request digests request answers = (do
      let body ← read_body request answers
      match compareDigest (expected_signature digests request headers key body)
        headers.signature with
      | none => .error "TypeError"
      | some false => refuse answers "Invalid signature" 401
      | some true =>
        match answers.setex with
        | .error _ => .ok redis_unavailable
        | .ok () => do
          answers.mark_used
          pure .passed) := by
  obtain ⟨row, hkey, hrow⟩ := h.found
  simp only [validate_request, h.headers_ok, h.client, h.nonce, hkey, Bool.false_eq_true, if_false]
  change (match find_by_key_id row answers.now with
    | none => refuse answers "Invalid API key" 401
    | some key => _) = _
  simp only [hrow, if_neg (not_not.mpr h.scope), if_neg (secret_of_find_by_key_id hrow)]

section Hex

variable (hhex : ∀ secret text, isAscii (digests.hmac secret text) = true)
include hhex

/-- A counted refusal ends with a refusal, or with the error of the count. -/
theorem validate_of_counted (h : Counted digests request answers) :
    ∃ message status, status ∈ [401, 403, 503] ∧
      validate_request digests request answers = refuse answers message status := by
  cases h with
  | replay headers asked => exact ⟨_, _, by decide, validate_of_seen digests asked⟩
  | unknown_key headers row asked read unusable =>
    exact ⟨_, _, by decide, validate_of_unusable digests asked read unusable⟩
  | out_of_scope headers row key asked read usable scope =>
    exact ⟨_, _, by decide, validate_of_out_of_scope digests asked read usable scope⟩
  | wrong_signature headers key body authorised read ascii wrong =>
    refine ⟨"Invalid signature", 401, by decide, ?_⟩
    have hcompare : compareDigest (expected_signature digests request headers key body)
        headers.signature = some false := by
      exact (compareDigest_of_ascii (hhex _ _) ascii).trans
        (congrArg some (decide_eq_false wrong))
    rw [validate_of_authorised authorised, read]
    simp only [bind, Except.bind, hcompare]

/-- An error that escapes is raised by the check. -/
theorem validate_of_escape (h : Escape digests request answers error) :
    validate_request digests request answers = .error error := by
  cases h with
  | key headers asked raised => exact validate_of_unread digests asked raised
  | body headers key authorised raised =>
    rw [validate_of_authorised authorised, raised]
    rfl
  | signature headers key body authorised read ascii raised =>
    rw [validate_of_authorised authorised, read, raised]
    simp only [bind, Except.bind, compareDigest_of_not_ascii ascii]
  | failure counted raised =>
    obtain ⟨message, status, _, hrefuse⟩ := validate_of_counted hhex counted
    rw [hrefuse, refuse, raised]
    rfl
  | used headers key body authorised read ascii verified stored raised =>
    have hcompare : compareDigest (expected_signature digests request headers key body)
        headers.signature = some true := by
      exact (compareDigest_of_ascii (hhex _ _) ascii).trans
        (congrArg some (decide_eq_true verified))
    rw [validate_of_authorised authorised, read]
    simp only [bind, Except.bind, hcompare, stored, raised]

/-- A check that ends without an error that escapes answers as it is designed to. -/
theorem validate_of_counted_ok (hcounted : Counted digests request answers)
    (hnone : ∀ error, ¬ Escape digests request answers error) :
    ∃ verdict, validate_request digests request answers = .ok verdict ∧ Defined verdict := by
  obtain ⟨message, status, hstatus, hrefuse⟩ := validate_of_counted hhex hcounted
  rcases refuse_eq answers message status with ⟨e, hrecord, _⟩ | ⟨_, hok⟩
  · exact absurd (.failure hcounted hrecord) (hnone e)
  · exact ⟨_, hrefuse.trans hok, hstatus⟩

/-- The check of an authorised request. -/
theorem validate_of_authorised_ok {headers : Headers} {key : ApiKey}
    (h : Authorised request answers headers key)
    (hnone : ∀ error, ¬ Escape digests request answers error) :
    ∃ verdict, validate_request digests request answers = .ok verdict ∧ Defined verdict := by
  cases hread : read_body request answers with
  | error e => exact absurd (.body headers key h hread) (hnone e)
  | ok body =>
    cases hascii : isAscii headers.signature with
    | false => exact absurd (.signature headers key body h hread hascii rfl) (hnone _)
    | true =>
      by_cases hsignature :
          expected_signature digests request headers key body = headers.signature
      · have hcompare : compareDigest (expected_signature digests request headers key body)
            headers.signature = some true := by
          exact (compareDigest_of_ascii (hhex _ _) hascii).trans
            (congrArg some (decide_eq_true hsignature))
        rw [validate_of_authorised h, hread]
        cases hsetex : answers.setex with
        | error e =>
          refine ⟨redis_unavailable, ?_, by decide⟩
          simp only [bind, Except.bind, hcompare]
        | ok _ =>
          cases hused : answers.mark_used with
          | error e =>
            exact absurd (.used headers key body h hread hascii hsignature hsetex hused) (hnone e)
          | ok _ =>
            refine ⟨.passed, ?_, trivial⟩
            simp only [bind, Except.bind, hcompare]
            rfl
      · exact validate_of_counted_ok hhex
          (.wrong_signature headers key body h hread hascii hsignature) hnone

end Hex

/-- The checks of the headers refuse with 401. -/
theorem check_timestamp_defined {signed : SignedRequest} {now : Datetime} {verdict : Verdict}
    (h : check_timestamp signed now = .error verdict) : Defined verdict := by
  unfold check_timestamp at h
  split at h
  · cases h
    decide
  · split at h
    · cases h
      decide
    · split at h
      · cases h
      · cases h
        decide

end HmacRequestValidator

open HmacRequestValidator in
/-- A request is accepted or refused with 401, 403 or 503 exactly when no error escapes: the key
is read and marked, failures are counted, the body that is signed is UTF-8 and the signature that
is compared is ASCII. -/
theorem request_answered_iff (digests : Digests)
    (hhex : ∀ secret text, isAscii (digests.hmac secret text) = true) (request : RawRequest)
    (answers : RequestAnswers) :
    (∃ verdict, validate_request digests request answers = .ok verdict ∧ Defined verdict) ↔
      ∀ error, ¬ Escape digests request answers error := by
  constructor
  · rintro ⟨verdict, hok, _⟩ error hescape
    cases hok.symm.trans (validate_of_escape hhex hescape)
  intro hnone
  cases hcheck : check_timestamp request.signed answers.now with
  | error verdict =>
    refine ⟨verdict, ?_, check_timestamp_defined hcheck⟩
    simp only [validate_request, hcheck]
  | ok headers =>
    cases hclient : answers.client_missing with
    | true =>
      refine ⟨redis_unavailable, ?_, by decide⟩
      simp only [validate_request, hcheck, hclient, if_true]
    | false =>
      cases hnonce : answers.nonce_exists with
      | error e =>
        refine ⟨redis_unavailable, ?_, by decide⟩
        simp only [validate_request, hcheck, hclient, hnonce, Bool.false_eq_true, if_false]
      | ok seen =>
        cases seen with
        | true =>
          exact validate_of_counted_ok hhex (.replay headers ⟨hcheck, hclient, hnonce⟩) hnone
        | false =>
          have hasked : Asked request answers headers false := ⟨hcheck, hclient, hnonce⟩
          cases hkey : answers.key with
          | error e => exact absurd (.key headers hasked hkey) (hnone e)
          | ok row =>
            cases hrow : find_by_key_id row answers.now with
            | none =>
              exact validate_of_counted_ok hhex (.unknown_key headers row hasked hkey hrow) hnone
            | some key =>
              by_cases hscope : InScope request.path key
              · exact validate_of_authorised_ok hhex ⟨hasked, ⟨row, hkey, hrow⟩, hscope⟩ hnone
              · exact validate_of_counted_ok hhex
                  (.out_of_scope headers row key hasked hkey hrow hscope) hnone

/-- All calls answer, and the key of the samples is found. -/
def sampleRequestAnswers : RequestAnswers where
  now := 1000000
  client_missing := false
  nonce_exists := .ok false
  key := .ok (some { HmacRequestValidator.sampleKey with scopes := ["full_access"] })
  body_error := none
  setex := .ok ()
  mark_used := .ok ()
  failures := .ok 0
  count_failure := .ok ()
  block := .ok ()

open HmacRequestValidator in
/-- No error escapes while a list is requested. -/
theorem request_answered_iff_sample :
    (∃ verdict, validate_request sampleDigests samplePage sampleRequestAnswers = .ok verdict ∧
        Defined verdict) ↔
      ∀ error, ¬ Escape sampleDigests samplePage sampleRequestAnswers error :=
  request_answered_iff sampleDigests
    (fun _ _ => (by decide +kernel : isAscii "c44298" = true)) samplePage sampleRequestAnswers

open HmacRequestValidator in
/-- A signature beyond ASCII raises an error that escapes, although every call answers. -/
theorem accented_signature_escapes :
    ¬ ∀ (digests : Digests) (request : RawRequest) (answers : RequestAnswers),
      ∃ verdict, validate_request digests request answers = .ok verdict ∧ Defined verdict := by
  intro h
  obtain ⟨verdict, hok, _⟩ :=
    h sampleDigests { samplePage with signature := some "é" } sampleRequestAnswers
  have hraised : validate_request sampleDigests { samplePage with signature := some "é" }
      sampleRequestAnswers = .error "TypeError" := by decide +kernel
  cases hok.symm.trans hraised

end Linkapro.Payments
