import Linkapro.Identity.Authentication
import Linkapro.Payments.HmacRequests

/-!
# Payments: whom a request acts for

A request without an access token has to pass `HmacRequestValidator`. The views then ask
the authentication of the framework for the user, and that one reads access tokens only,
so a signed request never reaches its view.
-/

namespace Linkapro.Payments

open Lib Identity HmacRequestValidator

/-- A text that the converter `str` of a URL pattern matches. -/
structure PathPart where
  text : String
  not_empty : text ≠ ""
  no_slash : '/' ∉ text.toList

/-- The endpoints of the signed-in user. -/
inductive PaymentEndpoint : Type where
  | list | initiate | summary
  | status (reference : PathPart)

/-- The path of an endpoint. -/
def PaymentEndpoint.path : PaymentEndpoint → String
  | .list => "/api/django/payments/"
  | .initiate => "/api/django/payments/initiate/"
  | .summary => "/api/django/payments/summary/"
  | .status reference => "/api/django/payments/status/" ++ reference.text ++ "/"

/-- A request to one of the endpoints. -/
structure PaymentRequest where
  endpoint : PaymentEndpoint
  /-- What the validator reads. -/
  signed : SignedRequest
  routed : signed.path = endpoint.path
  /-- The header `Authorization`. -/
  authorization : Option String

/-- The white space at which `bytes.split()` splits. -/
def isAsciiSpace (c : Char) : Bool := c = ' ' ∨ (9 ≤ c.toNat ∧ c.toNat ≤ 13)

/-- `header.split()`. -/
def headerWords (header : String) : List (List Char) :=
  (header.toList.splitOnP isAsciiSpace).filter (· ≠ [])

/-- `get_raw_token` of the standard authentication. -/
def getRawToken (authorization : Option String) : Except AuthenticationError (Option String) :=
  match (authorization.map headerWords).getD [] with
  | [] => .ok none
  | scheme :: rest =>
    if scheme ≠ "Bearer".toList then .ok none
    else
      match rest with
      | [raw] => .ok (some (String.ofList raw))
      | _ =>
        .error (.authenticationFailed
          "Authorization header must contain two space-delimited values")

/-- `authorization.startswith("Bearer ")`. -/
def startsWithBearer (authorization : Option String) : Bool :=
  "Bearer ".toList.isPrefixOf (authorization.getD "").toList

/-- `HmacRequestValidator` checks the requests with this path. -/
def validates (path : String) : Bool :=
  "/api/django/payments/".toList.isPrefixOf path.toList ∧
    ¬ ("/webhooks/flutterwave/".toList.isSuffixOf path.toList ∨
      within "/.well-known/payment-public-key" path)

/-- One step of a request that is alone. -/
def validateStep (digests : Digests) (now : Store × Phase) (choice : Choice) : Store × Phase :=
  next digests (now.1.after choice) choice now.2

/-- `_validate_request` from its arrival on, for the choices of its steps. -/
def validateRequest (digests : Digests) (choices : Fin 5 → Choice) (store : Store)
    (request : SignedRequest) : Store × Phase :=
  (List.ofFn choices).foldl (validateStep digests) (store, .arrived request)

/-- `HmacRequestValidator.__call__`: the status of its refusal, if it does not hand the request
on. -/
def hmacRefusal (digests : Digests) (choices : Fin 5 → Choice) (store : Store)
    (request : PaymentRequest) : Option ℕ :=
  if ¬ validates request.signed.path then none
  else if startsWithBearer request.authorization then none
  else
    match (validateRequest digests choices store request.signed).2 with
    | .rest (some .passed) => none
    | .rest (some (.refused _ status)) => some status
    | _ => some 500

/-- What the standard authentication works with. The claims of a raw token are those that the
signature library reads from it. -/
structure TokenBackend where
  settings : TokenSettings
  signed : List AccessToken
  read : String → Option AccessToken

section Time

variable {T : Type} [Field T] [LinearOrder T] [IsStrictOrderedRing T] [FloorRing T]

/-- `HardenedJWTAuthentication.authenticate` of a request. -/
def authenticateRequest (backend : TokenBackend) (sessions : SessionState T)
    (authorization : Option String) : Except AuthenticationError (Option String) :=
  match getRawToken authorization with
  | .error error => .error error
  | .ok none => .ok none
  | .ok (some raw) =>
    match backend.read raw with
    | none => .error (.invalidToken "Given token not valid for any token type")
    | some token => (authenticate backend.settings backend.signed sessions token).map some

/-- What a request comes to: the view of its endpoint with `request.user`, or a refusal. -/
inductive Served : Type where
  | view (endpoint : PaymentEndpoint) (userId : String)
  | refused (status : ℕ)

/-- The permission `IsAuthenticated` of the views, after the authentication. -/
def isAuthenticated (endpoint : PaymentEndpoint) :
    Except AuthenticationError (Option String) → Served
  | .ok (some userId) => .view endpoint userId
  | .ok none => .refused 401
  | .error (.valueError _) => .refused 500
  | .error _ => .refused 401

/-- A request from the validator to its view. -/
def serve (digests : Digests) (backend : TokenBackend) (choices : Fin 5 → Choice) (store : Store)
    (sessions : SessionState T) (request : PaymentRequest) : Served :=
  match hmacRefusal digests choices store request with
  | some status => .refused status
  | none =>
    isAuthenticated request.endpoint
      (authenticateRequest backend sessions request.authorization)

/-- The request carries an access token of the user that the authentication accepts. -/
def AccessTokenOf (backend : TokenBackend) (sessions : SessionState T)
    (authorization : Option String) (userId : String) : Prop :=
  authenticateRequest backend sessions authorization = .ok (some userId)

/-- The header names the scheme of the access tokens. -/
def CarriesBearer (authorization : Option String) : Prop := getRawToken authorization ≠ .ok none

end Time

/-- The scope of an endpoint. -/
def PaymentEndpoint.scope : PaymentEndpoint → String
  | .initiate => "initiate_payment"
  | .status _ => "read_status"
  | .list | .summary => "full_access"

/-- The request has a fresh and unused signature by an active and unexpired key with the scope.
The instants are those of the steps of the validator. -/
structure SignedBy (digests : Digests) (choices : Fin 5 → Choice) (store : Store)
    (request : SignedRequest) (scope : String) (headers : Headers) (key : ApiKey)
    (body : String) : Prop where
  complete : HmacRequestValidator.headers request = some headers
  fresh : ∃ timestamp, pythonInt headers.timestamp = some timestamp ∧
    Fresh timestamp (store.after (choices 0)).clock
  unused : ¬ ((store.after (choices 0)).after (choices 1)).Seen headers.nonce
  stored : (choices 2).key = some key
  active : key.is_active = true
  unexpired : ∀ instant ∈ key.expires_at,
    (((store.after (choices 0)).after (choices 1)).after (choices 2)).clock ≤ instant
  secret : (nonEmpty key.secret_plain).isSome
  permitted : scope ∈ key.scopes ∨ "full_access" ∈ key.scopes
  text : request.body = some body
  ascii : ∀ c ∈ headers.signature.toList, c.toNat < 128
  signature : digests.hmac (key.secret_plain.getD "")
    (build_canonical digests request.method request.path body headers.timestamp headers.nonce) =
      headers.signature

/-- The request is signed by a key of the user that has the scope of the endpoint. -/
def SignedFor (digests : Digests) (choices : Fin 5 → Choice) (store : Store)
    (request : PaymentRequest) (userId : String) : Prop :=
  ∃ headers key body, SignedBy digests choices store request.signed request.endpoint.scope
    headers key body ∧ uuidText key.user_id = userId

/-- The validator passes the request: it is signed for the scope that the validator asks for, and
no call of the validator fails. -/
def Validated (digests : Digests) (choices : Fin 5 → Choice) (store : Store)
    (request : SignedRequest) : Prop :=
  (∃ headers key body, SignedBy digests choices store request (required_scope request.path)
    headers key body) ∧
  ∀ k, k ≠ 0 → (choices k).fault = false

variable {digests : Digests} {choices : Fin 5 → Choice} {store : Store} {request : SignedRequest}

/-- The checks before Redis is asked. -/
theorem check_timestamp_ok_iff {now : Datetime} {headers : Headers} :
    check_timestamp request now = .ok headers ↔
      HmacRequestValidator.headers request = some headers ∧
        ∃ timestamp, pythonInt headers.timestamp = some timestamp ∧ Fresh timestamp now := by
  unfold check_timestamp
  cases HmacRequestValidator.headers request with
  | none => simp
  | some found =>
    dsimp only
    cases htimestamp : pythonInt found.timestamp with
    | none =>
      constructor
      · exact fun h => by cases h
      · rintro ⟨⟨⟩, timestamp, h, -⟩
        cases htimestamp.symm.trans h
    | some timestamp =>
      dsimp only
      by_cases hfresh : Fresh timestamp now
      · rw [if_pos hfresh]
        constructor
        · rintro ⟨⟩
          exact ⟨rfl, timestamp, htimestamp, hfresh⟩
        · rintro ⟨⟨⟩, -⟩
          rfl
      · rw [if_neg hfresh]
        constructor
        · exact fun h => by cases h
        · rintro ⟨⟨⟩, other, h, hother⟩
          cases htimestamp.symm.trans h
          exact absurd hother hfresh

/-- A usable key. -/
theorem find_by_key_id_iff {now : Datetime} {row : Option ApiKey} {key : ApiKey} :
    find_by_key_id row now = some key ↔ row = some key ∧ key.is_active = true ∧
      (∀ instant ∈ key.expires_at, now ≤ instant) ∧ (nonEmpty key.secret_plain).isSome := by
  unfold find_by_key_id
  rw [Option.filter_eq_some_iff]
  simp

/-- The checks of the key and of the signature. -/
theorem verify_ok_iff {now : Datetime} {headers : Headers} {row : Option ApiKey} {key : ApiKey} :
    verify digests request headers row now = .ok key ↔
      find_by_key_id row now = some key ∧
      (required_scope request.path ∈ key.scopes ∨ "full_access" ∈ key.scopes) ∧
      ∃ body, request.body = some body ∧ (∀ c ∈ headers.signature.toList, c.toNat < 128) ∧
        digests.hmac (key.secret_plain.getD "")
          (build_canonical digests request.method request.path body headers.timestamp
            headers.nonce) = headers.signature := by
  unfold verify
  cases find_by_key_id row now with
  | none => simp
  | some found =>
    dsimp only
    by_cases hscope : required_scope request.path ∉ found.scopes ∧ "full_access" ∉ found.scopes
    · rw [if_pos hscope]
      constructor
      · exact fun h => by cases h
      · rintro ⟨⟨⟩, hpermitted | hpermitted, -⟩
        · exact absurd hpermitted hscope.1
        · exact absurd hpermitted hscope.2
    · rw [if_neg hscope]
      have hpermitted : required_scope request.path ∈ found.scopes ∨
          "full_access" ∈ found.scopes := by
        by_contra hnone
        exact hscope (not_or.mp hnone)
      cases request.body with
      | none => simp
      | some body =>
        dsimp only
        have hascii : (headers.signature.toList.any fun c => 128 ≤ c.toNat) = true ↔
            ¬ ∀ c ∈ headers.signature.toList, c.toNat < 128 := by
          simp
        by_cases hsignature : ∀ c ∈ headers.signature.toList, c.toNat < 128
        · rw [if_neg (fun h => hascii.mp h hsignature)]
          split
          · next hequal =>
            constructor
            · rintro ⟨⟩
              exact ⟨rfl, hpermitted, body, rfl, hsignature, hequal⟩
            · rintro ⟨⟨⟩, -⟩
              rfl
          · next hdifferent =>
            constructor
            · exact fun h => by cases h
            · rintro ⟨⟨⟩, -, other, ⟨⟩, -, hequal⟩
              exact absurd hequal hdifferent
        · rw [if_pos (hascii.mpr hsignature)]
          constructor
          · exact fun h => by cases h
          · rintro ⟨-, -, other, -, hall, -⟩
            exact absurd hall hsignature

/-- What a signature has passed, check by check. -/
theorem signedBy_iff {headers : Headers} {key : ApiKey} :
    (∃ body, SignedBy digests choices store request (required_scope request.path) headers key
      body) ↔
      check_timestamp request (store.after (choices 0)).clock = .ok headers ∧
      ¬ ((store.after (choices 0)).after (choices 1)).Seen headers.nonce ∧
      verify digests request headers (choices 2).key
        (((store.after (choices 0)).after (choices 1)).after (choices 2)).clock = .ok key := by
  rw [check_timestamp_ok_iff, verify_ok_iff, find_by_key_id_iff]
  constructor
  · rintro ⟨body, h⟩
    exact ⟨⟨h.complete, h.fresh⟩, h.unused, ⟨h.stored, h.active, h.unexpired, h.secret⟩,
      h.permitted, body, h.text, h.ascii, h.signature⟩
  · rintro ⟨⟨hcomplete, hfresh⟩, hunused, ⟨hstored, hactive, hunexpired, hsecret⟩, hpermitted,
      body, htext, hascii, hsignature⟩
    exact ⟨body, hcomplete, hfresh, hunused, hstored, hactive, hunexpired, hsecret, hpermitted,
      htext, hascii, hsignature⟩

/-- The validator passes a request from a phase on. -/
def Passes (digests : Digests) (store : Store) (phase : Phase) (steps : List Choice) : Prop :=
  (steps.foldl (validateStep digests) (store, phase)).2 = .rest (some .passed)

/-- A request at rest stays at rest. -/
theorem passes_rest_iff {verdict : Verdict} {steps : List Choice} :
    Passes digests store (.rest (some verdict)) steps ↔ verdict = .passed := by
  unfold Passes
  induction steps generalizing store with
  | nil => simp
  | cons choice steps ih => exact ih

/-- No refusal before Redis is asked lets a request pass. -/
theorem check_timestamp_ne_passed {now : Datetime} :
    check_timestamp request now ≠ .error .passed := by
  unfold check_timestamp
  cases HmacRequestValidator.headers request with
  | none => exact fun h => by cases h
  | some headers =>
    dsimp only
    split
    · exact fun h => by cases h
    · split <;> exact fun h => by cases h

/-- No refusal of a key or of a signature lets a request pass. -/
theorem verify_ne_passed {now : Datetime} {headers : Headers} {row : Option ApiKey} :
    verify digests request headers row now ≠ .error .passed := by
  unfold verify
  split
  · exact fun h => by cases h
  · split
    · exact fun h => by cases h
    · split
      · exact fun h => by cases h
      · dsimp only
        split
        · exact fun h => by cases h
        · split <;> exact fun h => by cases h

variable {choice : Choice} {steps : List Choice} {headers : Headers}

/-- A step takes the request to the next phase. -/
theorem passes_cons_iff {phase : Phase} :
    Passes digests store phase (choice :: steps) ↔
      Passes digests (next digests (store.after choice) choice phase).1
        (next digests (store.after choice) choice phase).2 steps := Iff.rfl

theorem passes_stored_iff :
    Passes digests store (.stored headers) [choice] ↔ choice.fault = false := by
  rw [passes_cons_iff]
  cases hfault : choice.fault with
  | true => simp [next, hfault, passes_rest_iff]
  | false => simp [next, hfault, passes_rest_iff]

theorem passes_verified_iff {last : Choice} :
    Passes digests store (.verified headers) [choice, last] ↔
      choice.fault = false ∧ last.fault = false := by
  rw [passes_cons_iff]
  cases hfault : choice.fault with
  | true => simp [next, hfault, passes_rest_iff, redis_unavailable]
  | false => simp [next, hfault, passes_stored_iff]

theorem passes_unseen_iff {third last : Choice} :
    Passes digests store (.unseen request headers) [choice, third, last] ↔
      (∃ key, verify digests request headers choice.key (store.after choice).clock = .ok key) ∧
        choice.fault = false ∧ third.fault = false ∧ last.fault = false := by
  rw [passes_cons_iff]
  cases hfault : choice.fault with
  | true => simp [next, hfault, passes_rest_iff]
  | false =>
    cases hverify : verify digests request headers choice.key (store.after choice).clock with
    | error verdict =>
      have hrefused : verdict ≠ .passed := by
        rintro rfl
        exact verify_ne_passed hverify
      simp [next, hfault, hverify, passes_rest_iff, hrefused]
    | ok key => simp [next, hfault, hverify, passes_verified_iff]

theorem passes_fresh_iff {second third last : Choice} :
    Passes digests store (.fresh request headers) [choice, second, third, last] ↔
      ¬ (store.after choice).Seen headers.nonce ∧
      (∃ key, verify digests request headers second.key
        ((store.after choice).after second).clock = .ok key) ∧
      choice.fault = false ∧ second.fault = false ∧ third.fault = false ∧ last.fault = false := by
  rw [passes_cons_iff]
  cases hfault : choice.fault with
  | true => simp [next, hfault, passes_rest_iff, redis_unavailable]
  | false =>
    by_cases hseen : (store.after choice).Seen headers.nonce
    · simp [next, hfault, hseen, passes_rest_iff]
    · simp [next, hfault, hseen, passes_unseen_iff]

theorem passes_arrived_iff {first second third last : Choice} :
    Passes digests store (.arrived request) [choice, first, second, third, last] ↔
      ∃ headers, check_timestamp request (store.after choice).clock = .ok headers ∧
        ¬ ((store.after choice).after first).Seen headers.nonce ∧
        (∃ key, verify digests request headers second.key
          (((store.after choice).after first).after second).clock = .ok key) ∧
        first.fault = false ∧ second.fault = false ∧ third.fault = false ∧ last.fault = false := by
  rw [passes_cons_iff]
  cases hcheck : check_timestamp request (store.after choice).clock with
  | error verdict =>
    have hrefused : verdict ≠ .passed := by
      rintro rfl
      exact check_timestamp_ne_passed hcheck
    simp [next, hcheck, passes_rest_iff, hrefused]
  | ok headers => simp [next, hcheck, passes_fresh_iff]

/-- The validator passes exactly the signed requests on which none of its calls fails. -/
theorem validateRequest_passed_iff :
    (validateRequest digests choices store request).2 = .rest (some .passed) ↔
      Validated digests choices store request := by
  have hsteps : List.ofFn choices =
      [choices 0, choices 1, choices 2, choices 3, choices 4] := rfl
  have hfaults : (∀ k, k ≠ 0 → (choices k).fault = false) ↔ (choices 1).fault = false ∧
      (choices 2).fault = false ∧ (choices 3).fault = false ∧ (choices 4).fault = false := by
    simp [Fin.forall_fin_succ]
  unfold validateRequest Validated
  simp only [signedBy_iff]
  rw [hsteps, hfaults]
  refine passes_arrived_iff.trans ?_
  constructor
  · rintro ⟨headers, hcheck, hunused, ⟨key, hkey⟩, hfault⟩
    exact ⟨⟨headers, key, hcheck, hunused, hkey⟩, hfault⟩
  · rintro ⟨⟨headers, key, hcheck, hunused, hkey⟩, hfault⟩
    exact ⟨headers, hcheck, hunused, ⟨key, hkey⟩, hfault⟩

/-- The text lies within the other exactly when it is the start of one of its tails. -/
theorem within_iff {part text : String} : within part text = true ↔
    ∃ before after, text.toList = before ++ part.toList ++ after := by
  unfold within
  rw [List.any_eq_true]
  constructor
  · rintro ⟨rest, hrest, hprefix⟩
    obtain ⟨before, hbefore⟩ := (List.mem_tails rest text.toList).mp hrest
    obtain ⟨after, hafter⟩ := List.isPrefixOf_iff_prefix.mp hprefix
    exact ⟨before, after, by rw [← hbefore, ← hafter, List.append_assoc]⟩
  · rintro ⟨before, after, htext⟩
    refine ⟨part.toList ++ after, (List.mem_tails _ _).mpr ⟨before, ?_⟩, ?_⟩
    · rw [htext, List.append_assoc]
    · exact List.isPrefixOf_iff_prefix.mpr (List.prefix_append _ _)

/-- The path of a payment before its reference. -/
def statusPrefix : List Char := "/api/django/payments/status/".toList

/-- A text within the path of a payment overlaps the part before the reference by a slash at
most, if no larger part of it does. -/
theorem overlap_statusPrefix (part after : List Char) {before reference : List Char}
    (hpart : ∀ tail ∈ statusPrefix.tails, part.isPrefixOf tail = false ∧
      (tail.isPrefixOf part = true → tail = [] ∨ tail = ['/']))
    (h : statusPrefix ++ reference = before ++ (part ++ after)) :
    ∃ overlap rest, (overlap = [] ∨ overlap = ['/']) ∧
      overlap ++ reference = rest ++ (part ++ after) := by
  rcases List.append_eq_append_iff.mp h with ⟨rest, -, hrest⟩ | ⟨tail, htail, hrest⟩
  · exact ⟨[], rest, .inl rfl, hrest⟩
  · have hmem : tail ∈ statusPrefix.tails := (List.mem_tails _ _).mpr ⟨before, htail.symm⟩
    obtain ⟨hlong, hshort⟩ := hpart tail hmem
    rcases List.append_eq_append_iff.mp hrest with ⟨more, hmore, -⟩ | ⟨more, hmore, -⟩
    · have hprefix : part.isPrefixOf tail = true :=
        List.isPrefixOf_iff_prefix.mpr ⟨more, hmore.symm⟩
      cases hlong.symm.trans hprefix
    · have hprefix : tail.isPrefixOf part = true :=
        List.isPrefixOf_iff_prefix.mpr ⟨more, hmore.symm⟩
      exact ⟨tail, [], hshort hprefix, hrest.symm⟩

/-- The validator checks every endpoint of the signed-in user. -/
theorem validates_path (endpoint : PaymentEndpoint) : validates endpoint.path = true := by
  cases endpoint with
  | list => decide +kernel
  | initiate => decide +kernel
  | summary => decide +kernel
  | status reference =>
    have hpath : (PaymentEndpoint.status reference).path.toList =
        statusPrefix ++ (reference.text.toList ++ ['/']) := by
      unfold PaymentEndpoint.path
      rw [String.toList_append, String.toList_append, List.append_assoc]
      rfl
    have hreference : reference.text.toList.count '/' = 0 :=
      List.count_eq_zero.mpr reference.no_slash
    have hslash : ['/'].count '/' = 1 := rfl
    have hoverlap {overlap : List Char} (h : overlap = [] ∨ overlap = ['/']) :
        overlap.count '/' ≤ 1 := by
      rcases h with rfl | rfl <;> decide
    unfold validates
    rw [hpath, Bool.decide_and, Bool.and_eq_true, decide_eq_true_eq, decide_eq_true_eq]
    refine ⟨by rfl, ?_⟩
    rintro (hwebhook | hkey)
    · -- Three slashes, where the path has two after the prefix.
      obtain ⟨before, hbefore⟩ := List.isSuffixOf_iff_suffix.mp hwebhook
      obtain ⟨overlap, rest, hsmall, hrest⟩ := overlap_statusPrefix
        "/webhooks/flutterwave/".toList [] (by decide +kernel)
        (hbefore.symm.trans (by rw [List.append_nil]))
      have hcount := congrArg (List.count '/') hrest
      simp only [List.count_append] at hcount
      have hpart : "/webhooks/flutterwave/".toList.count '/' = 3 := rfl
      have hmost := hoverlap hsmall
      omega
    · -- Two slashes, and the last one is not at the end.
      obtain ⟨before, after, hsplit⟩ := within_iff.mp hkey
      rw [hpath, List.append_assoc] at hsplit
      obtain ⟨overlap, rest, hsmall, hrest⟩ := overlap_statusPrefix
        "/.well-known/payment-public-key".toList after (by decide +kernel) hsplit
      have hcount := congrArg (List.count '/') hrest
      simp only [List.count_append] at hcount
      have hpart : "/.well-known/payment-public-key".toList.count '/' = 2 := rfl
      have hmost := hoverlap hsmall
      have hafter : '/' ∉ after := List.count_eq_zero.mp (by omega)
      have hlast := congrArg List.getLast? hrest
      rw [← List.append_assoc, List.getLast?_concat, List.getLast?_append,
        List.getLast?_append] at hlast
      cases hend : after.getLast? with
      | none =>
        rw [hend, Option.none_or] at hlast
        have hpartLast : "/.well-known/payment-public-key".toList.getLast? = some 'y' := rfl
        rw [hpartLast, Option.some_or] at hlast
        exact absurd hlast (by decide)
      | some last =>
        rw [hend, Option.some_or, Option.some_or] at hlast
        cases hlast
        exact hafter (List.mem_of_getLast? hend)

/-- A header that starts with the scheme and a blank names the scheme. -/
theorem carriesBearer_of_startsWith {authorization : Option String}
    (h : startsWithBearer authorization = true) : CarriesBearer authorization := by
  unfold startsWithBearer at h
  cases authorization with
  | none => exact absurd h (by decide)
  | some header =>
    obtain ⟨rest, hheader⟩ := List.isPrefixOf_iff_prefix.mp h
    have hall : "Bearer".toList.all (fun c => !isAsciiSpace c) = true := by decide +kernel
    have hword : ∀ c ∈ "Bearer".toList, isAsciiSpace c = false := fun c hc =>
      Bool.not_eq_true' _ ▸ List.all_eq_true.mp hall c hc
    have hwords : headerWords header =
        "Bearer".toList :: (rest.splitOnP isAsciiSpace).filter (· ≠ []) := by
      unfold headerWords
      change _ = header.toList at hheader
      rw [← hheader]
      change (("Bearer".toList ++ ' ' :: rest).splitOnP isAsciiSpace).filter (· ≠ []) = _
      rw [List.splitOnP_append_cons_of_forall_mem hword ' ' (by decide)]
      rfl
    unfold CarriesBearer getRawToken
    rw [Option.map_some, Option.getD_some, hwords]
    dsimp only
    rw [if_neg (by simp)]
    split
    · exact fun h => by cases h
    · exact fun h => by cases h

section Time

variable {T : Type} [Field T] [LinearOrder T] [IsStrictOrderedRing T] [FloorRing T]
  {backend : TokenBackend} {sessions : SessionState T} {request : PaymentRequest}

/-- The validator hands a request on that starts with the scheme, and any other one when it
passes. -/
theorem hmacRefusal_eq_none_iff :
    hmacRefusal digests choices store request = none ↔
      startsWithBearer request.authorization = true ∨
        Validated digests choices store request.signed := by
  have hpath : validates request.signed.path = true := by
    rw [request.routed]
    exact validates_path request.endpoint
  unfold hmacRefusal
  rw [if_neg (not_not.mpr hpath), ← validateRequest_passed_iff]
  split
  · next hbearer => exact iff_of_true rfl (.inl hbearer)
  · next hbearer =>
    rw [or_iff_right hbearer]
    split
    · next hpassed => exact iff_of_true rfl hpassed
    · next error status hrefused =>
      rw [hrefused]
      exact iff_of_false (fun h => by cases h) fun h => by cases h
    · next hpassed _ => exact iff_of_false (fun h => by cases h) hpassed

omit [IsStrictOrderedRing T] [FloorRing T] in
/-- Without the scheme no access token is read. -/
theorem not_accessTokenOf {authorization : Option String} (h : ¬ CarriesBearer authorization)
    {userId : String} : ¬ AccessTokenOf backend sessions authorization userId := by
  unfold AccessTokenOf authenticateRequest
  rw [not_not.mp h]
  exact fun haccepted => by cases haccepted

omit [IsStrictOrderedRing T] [FloorRing T] in
/-- A view runs for the user of an access token, after the validator has handed the request on. -/
theorem serve_eq_view_iff {userId : String} :
    serve digests backend choices store sessions request = .view request.endpoint userId ↔
      (startsWithBearer request.authorization = true ∨
        Validated digests choices store request.signed) ∧
      AccessTokenOf backend sessions request.authorization userId := by
  rw [← hmacRefusal_eq_none_iff]
  unfold serve AccessTokenOf
  cases hmacRefusal digests choices store request with
  | some status => exact iff_of_false (fun h => by cases h) fun h => by cases h.1
  | none =>
    rw [and_iff_right rfl]
    match authenticateRequest backend sessions request.authorization with
    | .ok (some other) => simp [isAuthenticated]
    | .ok none => simp [isAuthenticated]
    | .error (.valueError message) => simp [isAuthenticated]
    | .error (.invalidToken message) => simp [isAuthenticated]
    | .error (.authenticationFailed message) => simp [isAuthenticated]

/-- The view runs for a user exactly when the request carries an access token of the user, or
carries none and is signed for the user. -/
def UserDecided (digests : Digests) (backend : TokenBackend) (choices : Fin 5 → Choice)
    (store : Store) (sessions : SessionState T) (request : PaymentRequest) : Prop :=
  ∀ userId, serve digests backend choices store sessions request =
      .view request.endpoint userId ↔
    AccessTokenOf backend sessions request.authorization userId ∨
      (¬ CarriesBearer request.authorization ∧ SignedFor digests choices store request userId)

end Time

/-- The user of a request is decided by its token and its signature exactly when the validator
skips the request for its token, or the token is not accepted anyway or the request is signed as
well, or the request carries neither a token nor a signature. -/
theorem user_decided_iff {T : Type} [Field T] [LinearOrder T] [FloorRing T] (digests : Digests)
    (backend : TokenBackend) (choices : Fin 5 → Choice) (store : Store)
    (sessions : SessionState T) (request : PaymentRequest) :
    UserDecided digests backend choices store sessions request ↔
      startsWithBearer request.authorization = true ∨
      (CarriesBearer request.authorization ∧
        ((∀ userId, ¬ AccessTokenOf backend sessions request.authorization userId) ∨
          Validated digests choices store request.signed)) ∨
      (¬ CarriesBearer request.authorization ∧
        ∀ userId, ¬ SignedFor digests choices store request userId) := by
  unfold UserDecided
  simp only [serve_eq_view_iff]
  by_cases hstarts : startsWithBearer request.authorization = true
  · have hbearer := carriesBearer_of_startsWith hstarts
    simp [hstarts, hbearer]
  · by_cases hbearer : CarriesBearer request.authorization
    · simp only [hstarts, hbearer, not_true_eq_false, false_and, or_false, false_or, true_and,
        Bool.false_eq_true]
      constructor
      · intro hdecided
        by_contra hneither
        obtain ⟨htoken, hunsigned⟩ := not_or.mp hneither
        obtain ⟨userId, haccepted⟩ := not_forall_not.mp htoken
        exact hunsigned ((hdecided userId).mpr haccepted).1
      · rintro (htoken | hsigned) userId
        · exact iff_of_false (fun h => htoken userId h.2) (htoken userId)
        · exact and_iff_right hsigned
    · simp only [hstarts, hbearer, not_false_eq_true, true_and, false_and, false_or,
        Bool.false_eq_true, not_accessTokenOf hbearer, and_false, false_iff]

/-- A signed request without an access token, to the endpoint of its signature. -/
def signedInitiation : PaymentRequest where
  endpoint := .initiate
  signed := sampleRequest
  routed := rfl
  authorization := none

/-- Session stores without sessions and without revocations. -/
def emptySessions : SessionState ℚ where
  clock := 0
  blacklist := fun _ => none
  families := fun _ => none
  revokedAfter := fun _ => none
  users := fun _ => none
  sessions := []
  signed := []
  signed_lifetime := fun _ h => by cases h

/-- A backend that has signed no token. -/
def emptyBackend : TokenBackend where
  settings := { tokenEnv := "test", paymentEnv := none, acceptLegacyPaymentEnvTokens := false }
  signed := []
  read := fun _ => none

/-- The signed request is passed by the validator and refused by the permission of its view. -/
theorem signed_request_refused :
    ¬ ∀ (digests : Digests) (backend : TokenBackend) (choices : Fin 5 → Choice) (store : Store)
      (sessions : SessionState ℚ) (request : PaymentRequest),
      UserDecided digests backend choices store sessions request := by
  intro h
  have hsigned : SignedFor sampleDigests (fun _ => sampleChoice) ⟨fun _ => none, [], 0⟩
      signedInitiation (uuidText 1) := by
    have hall : "c44298".toList.all (fun c => c.toNat < 128) = true := by decide +kernel
    refine ⟨⟨"1", "7f", "c44298", "pk"⟩, sampleKey, "", ?_, rfl⟩
    exact ⟨rfl, ⟨1, by decide +kernel, by decide⟩, by decide, rfl, rfl, by decide, rfl,
      .inl (by decide), rfl, fun c hc => of_decide_eq_true (List.all_eq_true.mp hall c hc), rfl⟩
  have hview := (h sampleDigests emptyBackend (fun _ => sampleChoice) ⟨fun _ => none, [], 0⟩
    emptySessions signedInitiation (uuidText 1)).mpr
    (.inr ⟨not_not.mpr rfl, hsigned⟩)
  exact not_accessTokenOf (not_not.mpr rfl) (serve_eq_view_iff.mp hview).2

end Linkapro.Payments
