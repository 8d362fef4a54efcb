import Mathlib.Data.List.Infix
import Mathlib.Algebra.Order.Group.Abs
import Mathlib.Algebra.Order.Group.Unbundled.Int
import Mathlib.Algebra.Order.Ring.Int
import Linkapro.Lib.Expiring
import Linkapro.Lib.Sessions
import Linkapro.Shared

/-!
# Payments: signed requests

`HmacRequestValidator` looks a nonce up in Redis when a request arrives and stores it
only after the signature has been verified. A stored nonce outlives every period in
which a timestamp counts as fresh, so a nonce can be accepted twice in such a period
only when two requests pass between the lookup and the store of each other.
-/

namespace Linkapro.Payments

open Lib

/-- The value of a decimal digit. -/
def digitValue (c : Char) : Option ℕ :=
  (decimalZeros.find? fun first => first ≤ c.toNat ∧ c.toNat ≤ first + 9).map (c.toNat - ·)

/-- The value of digits with single underscores between them. -/
def digitsValue : (afterDigit : Bool) → ℕ → List Char → Option ℕ
  | afterDigit, value, [] => if afterDigit then some value else none
  | afterDigit, value, c :: text =>
    if c = '_' then if afterDigit then digitsValue false value text else none
    else (digitValue c).bind fun digit => digitsValue true (10 * value + digit) text

/-- `int(text)`. Python refuses more than 4300 digits. -/
def pythonInt (text : String) : Option ℤ :=
  let signed := (strip text).toList
  let (sign, digits) : ℤ × List Char :=
    match signed with
    | '-' :: digits => (-1, digits)
    | '+' :: digits => (1, digits)
    | digits => (1, digits)
  if 4300 < (digits.filter (· ≠ '_')).length then none
  else (digitsValue false 0 digits).map fun value => sign * value

/-- A request to a payment endpoint, with the headers that the validator reads. -/
structure SignedRequest where
  method : String
  path : String
  /-- The body as text, if it is UTF-8. -/
  body : Option String
  /-- `X-Timestamp`. -/
  timestamp : Option String
  /-- `X-Nonce`. -/
  nonce : Option String
  /-- `X-Signature`. -/
  signature : Option String
  /-- `X-Key-ID`. -/
  key_id : Option String

/-- A row of the API keys. -/
structure ApiKey where
  is_active : Bool
  expires_at : Option Datetime
  secret_plain : Option String
  scopes : List String
  user_id : UUID

/-- The digests of the standard library, as hexadecimal text. -/
structure Digests where
  /-- `hashlib.sha256(…).hexdigest()`. -/
  sha256 : String → String
  /-- `hmac.new(secret, message, sha256).hexdigest()`. -/
  hmac : String → String → String

/-- What the validator answers: nothing when it lets the request pass. -/
inductive Verdict : Type where
  | passed
  | refused (error : String) (status : ℕ)
  | raised (error : String)
deriving DecidableEq, Repr

namespace HmacRequestValidator

/-- `max_time_diff`, in seconds. -/
def max_time_diff : ℤ := 300

/-- `nonce_ttl`, in seconds. -/
def nonce_ttl : ℤ := 900

/-- The text lies within the other. -/
def within (part text : String) : Bool :=
  text.toList.tails.any fun rest => part.toList.isPrefixOf rest

/-- `_get_required_scope`. -/
def required_scope (path : String) : String :=
  if "/initiate/".toList.isSuffixOf path.toList then "initiate_payment"
  else if within "/status/" path then "read_status"
  else "full_access"

/-- `_build_canonical`. -/
def build_canonical (digests : Digests) (method path body timestamp nonce : String) : String :=
  method ++ "\n" ++ path ++ "\n" ++ timestamp ++ "\n" ++ nonce ++ "\n" ++ digests.sha256 body

/-- `find_by_key_id`: an unusable key counts as missing. -/
def find_by_key_id (row : Option ApiKey) (now : Datetime) : Option ApiKey :=
  row.filter fun key => key.is_active ∧ (∀ instant ∈ key.expires_at, now ≤ instant) ∧
    (nonEmpty key.secret_plain).isSome

/-- The headers of a request that has all of them. -/
structure Headers where
  timestamp : String
  nonce : String
  signature : String
  key_id : String

/-- The four headers, none of them empty. -/
def headers (request : SignedRequest) : Option Headers := do
  let timestamp ← nonEmpty request.timestamp
  let nonce ← nonEmpty request.nonce
  let signature ← nonEmpty request.signature
  let key_id ← nonEmpty request.key_id
  pure { timestamp, nonce, signature, key_id }

/-- `abs(now - timestamp) <= max_time_diff`, with `now` in whole seconds. -/
def Fresh (timestamp : ℤ) (now : Datetime) : Prop := |now / 1000000 - timestamp| ≤ max_time_diff

instance (timestamp : ℤ) (now : Datetime) : Decidable (Fresh timestamp now) :=
  inferInstanceAs (Decidable (_ ≤ _))

/-- The checks before Redis is asked. -/
def check_timestamp (request : SignedRequest) (now : Datetime) : Except Verdict Headers :=
  match headers request with
  | none => .error (.refused "Missing required headers" 401)
  | some headers =>
    match pythonInt headers.timestamp with
    | none => .error (.refused "Invalid timestamp" 401)
    | some timestamp =>
      if Fresh timestamp now then .ok headers
      else .error (.refused "Request expired" 401)

/-- The checks after Redis has been asked: key, scope and signature. -/
def verify (digests : Digests) (request : SignedRequest) (headers : Headers)
    (row : Option ApiKey) (now : Datetime) : Except Verdict ApiKey :=
  match find_by_key_id row now with
  | none => .error (.refused "Invalid API key" 401)
  | some key =>
    if required_scope request.path ∉ key.scopes ∧ "full_access" ∉ key.scopes then
      .error (.refused "Insufficient scope" 403)
    else
      match request.body with
      | none => .error (.raised "UnicodeDecodeError")
      | some body =>
        let canonical := build_canonical digests request.method request.path body
          headers.timestamp headers.nonce
        if headers.signature.toList.any fun c => 128 ≤ c.toNat then
          .error (.raised "TypeError")
        else if digests.hmac (key.secret_plain.getD "") canonical = headers.signature then .ok key
        else .error (.refused "Invalid signature" 401)

/-- `_redis_unavailable_response`. -/
def redis_unavailable : Verdict :=
  .refused "Payment request verification is temporarily unavailable" 503

/-- How far a request has come. -/
inductive Phase : Type where
  /-- No request is in progress. The last one got this verdict. -/
  | rest (verdict : Option Verdict)
  | arrived (request : SignedRequest)
  /-- Before `exists`. -/
  | fresh (request : SignedRequest) (headers : Headers)
  /-- Before the API key is read. -/
  | unseen (request : SignedRequest) (headers : Headers)
  /-- Before `setex`. -/
  | verified (headers : Headers)
  /-- Before `mark_used`. -/
  | stored (headers : Headers)

/-- A nonce that has been stored for a request that passes. -/
structure Acceptance where
  nonce : String
  time : Datetime
deriving DecidableEq

/-- The Redis keys `nonce:…` and the accepted requests. -/
structure Store where
  nonces : ExpiringMap String Unit Datetime
  /-- Newest first. -/
  accepted : List Acceptance
  clock : Datetime

/-- What a step leaves open. -/
structure Choice where
  /-- Microseconds since the previous step. -/
  elapsed : ℕ
  /-- The call on Redis or on the database raises. -/
  fault : Bool
  /-- A write takes effect although its call raises. -/
  applied : Bool
  /-- The row of the request's API key. -/
  key : Option ApiKey

/-- What happens on the turn of a worker. -/
inductive Turn : Type where
  | receive (request : SignedRequest)
  | next (choice : Choice)

/-- `setex` for a nonce. -/
def Store.setex (store : Store) (nonce : String) : Store :=
  { store with nonces := store.nonces.set nonce () (some (store.clock + seconds nonce_ttl)) }

/-- The nonce is stored. -/
def Store.Seen (store : Store) (nonce : String) : Prop :=
  (store.nonces.get store.clock nonce).isSome

instance (store : Store) (nonce : String) : Decidable (store.Seen nonce) :=
  inferInstanceAs (Decidable (_ = true))

/-- The next step of `_validate_request`. -/
def next (digests : Digests) (store : Store) (choice : Choice) : Phase → Store × Phase
  | .rest verdict => (store, .rest verdict)
  | .arrived request =>
    match check_timestamp request store.clock with
    | .error verdict => (store, .rest (some verdict))
    | .ok headers => (store, .fresh request headers)
  | .fresh request headers =>
    if choice.fault then (store, .rest (some redis_unavailable))
    else if store.Seen headers.nonce then
      (store, .rest (some (.refused "Nonce already used" 401)))
    else (store, .unseen request headers)
  | .unseen request headers =>
    if choice.fault then (store, .rest (some (.raised "DatabaseError")))
    else
      match verify digests request headers choice.key store.clock with
      | .error verdict => (store, .rest (some verdict))
      | .ok _ => (store, .verified headers)
  | .verified headers =>
    if choice.fault then
      (if choice.applied then store.setex headers.nonce else store,
        .rest (some redis_unavailable))
    else
      ({ store.setex headers.nonce with
          accepted := { nonce := headers.nonce, time := store.clock } :: store.accepted },
        .stored headers)
  | .stored _ =>
    (store, .rest (some (if choice.fault then .raised "DatabaseError" else .passed)))

/-- Time passes. -/
def Store.after (store : Store) (choice : Choice) : Store :=
  { store with clock := store.clock + choice.elapsed }

variable {ι : Type} [DecidableEq ι]

/-- The turn of a worker. A request is taken only when none is in progress. -/
def statement (digests : Digests) : Statement ι Store Phase Turn := fun s i turn =>
  match turn with
  | .receive request =>
    match s.phase i with
    | .rest _ => (s.store, .arrived request)
    | phase => (s.store, phase)
  | .next choice => next digests (s.store.after choice) choice (s.phase i)

/-- The service before any request. -/
def start (clock : Datetime) : Sessions ι Store Phase where
  store := { nonces := fun _ => none, accepted := [], clock }
  phase := fun _ => .rest none

/-- A turn on which no request stores a nonce that another one has stored since its lookup. -/
def Calm (s : Sessions ι Store Phase) (turn : ι × Turn) : Prop :=
  match turn.2, s.phase turn.1 with
  | .next choice, .verified headers =>
    choice.fault = false → ¬ (s.store.after choice).Seen headers.nonce
  | _, _ => True

section Proofs

variable {digests : Digests} {store store' : Store} {choice : Choice} {phase : Phase}
  {nonce : String}

/-- Every accepted nonce is stored until its lifetime is over, and no nonce is accepted twice
in that time. -/
structure Sound (store : Store) : Prop where
  kept : ∀ entry ∈ store.accepted, ∃ deadline,
    store.nonces entry.nonce = some ⟨(), some deadline⟩ ∧ entry.time + seconds nonce_ttl ≤ deadline
  past : ∀ entry ∈ store.accepted, entry.time ≤ store.clock
  apart : store.accepted.Pairwise fun second first =>
    second.nonce = first.nonce → first.time + seconds nonce_ttl ≤ second.time

/-- A nonce that is not stored has been accepted a lifetime ago at the latest. -/
theorem Sound.old (hs : Sound store) {entry : Acceptance} (hentry : entry ∈ store.accepted)
    (h : ¬ store.Seen entry.nonce) : entry.time + seconds nonce_ttl ≤ store.clock := by
  obtain ⟨deadline, hstored, hdeadline⟩ := hs.kept entry hentry
  by_contra hlt
  apply h
  have hlive : store.clock < deadline := (not_le.mp hlt).trans_le hdeadline
  unfold Store.Seen
  rw [ExpiringMap.get_of_lt hstored hlive]
  rfl

/-- Time keeps the store sound. -/
theorem Sound.after (hs : Sound store) : Sound (store.after choice) where
  kept := hs.kept
  past entry hentry := le_add_of_le_of_nonneg (hs.past entry hentry) (Int.natCast_nonneg _)
  apart := hs.apart

/-- Storing a nonce once more only prolongs its lifetime. -/
theorem Sound.setex (hs : Sound store) : Sound (store.setex nonce) where
  kept entry hentry := by
    by_cases hnonce : entry.nonce = nonce
    · refine ⟨store.clock + seconds nonce_ttl, ?_, ?_⟩
      · rw [hnonce]
        exact Function.update_self ..
      · exact Int.add_le_add_right (hs.past entry hentry) _
    · obtain ⟨deadline, hstored, hdeadline⟩ := hs.kept entry hentry
      refine ⟨deadline, ?_, hdeadline⟩
      rw [← hstored]
      exact Function.update_of_ne hnonce ..
  past := hs.past
  apart := hs.apart

/-- A nonce that is not stored may be accepted. -/
theorem Sound.accept (hs : Sound store) (h : ¬ store.Seen nonce) :
    Sound { store.setex nonce with
      accepted := { nonce, time := store.clock } :: store.accepted } where
  kept entry hentry := by
    rcases List.mem_cons.mp hentry with rfl | hentry
    · exact ⟨store.clock + seconds nonce_ttl, Function.update_self .., le_rfl⟩
    · exact hs.setex.kept entry hentry
  past entry hentry := by
    rcases List.mem_cons.mp hentry with rfl | hentry
    · exact le_rfl
    · exact hs.past entry hentry
  apart := by
    refine List.pairwise_cons.mpr ⟨?_, hs.apart⟩
    intro first hfirst hnonce
    have hsame : nonce = first.nonce := hnonce
    subst hsame
    exact hs.old hfirst h

variable (digests store choice phase) in
/-- What a step can do to the store. -/
theorem next_store : (next digests store choice phase).1 = store ∨
    (∃ nonce, (next digests store choice phase).1 = store.setex nonce) ∨
    ∃ headers, phase = .verified headers ∧ choice.fault = false ∧
      (next digests store choice phase).1 =
        { store.setex headers.nonce with
          accepted := { nonce := headers.nonce, time := store.clock } :: store.accepted } := by
  cases phase with
  | rest verdict => exact Or.inl rfl
  | stored headers => exact Or.inl rfl
  | arrived request | fresh request headers | unseen request headers =>
    simp only [next]
    repeat' split
    all_goals exact Or.inl rfl
  | verified headers =>
    simp only [next]
    split
    · split
      · exact Or.inr (Or.inl ⟨headers.nonce, rfl⟩)
      · exact Or.inl rfl
    · next hfault => exact Or.inr (Or.inr ⟨headers, rfl, by simpa using hfault, rfl⟩)

variable {ι : Type} [DecidableEq ι] {s : Sessions ι Store Phase}

/-- A calm turn keeps the store sound. -/
theorem Sound.step (turn : ι × Turn) (hs : Sound s.store) (hcalm : Calm s turn) :
    Sound (s.step (statement digests) turn).store := by
  obtain ⟨i, turn⟩ := turn
  rw [Sessions.step_store]
  cases turn with
  | receive request =>
    have hstore : (statement digests s i (.receive request)).1 = s.store := by
      unfold statement
      cases hphase : s.phase i <;> rfl
    rw [hstore]
    exact hs
  | next choice =>
    have hresult : (statement digests s i (.next choice)).1 =
        (HmacRequestValidator.next digests (s.store.after choice) choice (s.phase i)).1 := rfl
    rw [hresult]
    rcases next_store digests (s.store.after choice) choice (s.phase i) with h | ⟨nonce, h⟩ | ⟨headers, hphase, hfault, h⟩
    · rw [h]
      exact hs.after
    · rw [h]
      exact hs.after.setex
    · rw [h]
      apply hs.after.accept
      have hopen : choice.fault = false → ¬ (s.store.after choice).Seen headers.nonce := by
        simpa only [Calm, hphase] using hcalm
      exact hopen hfault

/-- Two instants in one period of freshness are closer than the lifetime of a nonce. -/
theorem not_fresh_of_apart {timestamp : ℤ} {first second : Datetime}
    (h : first + seconds nonce_ttl ≤ second) (hfirst : Fresh timestamp first) :
    ¬ Fresh timestamp second := by
  have hperiod : ∀ a b t : ℤ, a + 900 * 1000000 ≤ b → |a / 1000000 - t| ≤ 300 →
      ¬ |b / 1000000 - t| ≤ 300 := by
    intro a b t hab ha hb
    rw [abs_le] at ha hb
    omega
  exact hperiod first second timestamp h hfirst

end Proofs

section Samples

instance (s : Sessions (Fin 2) Store Phase) (turn : Fin 2 × Turn) : Decidable (Calm s turn) := by
  unfold Calm
  split <;> infer_instance

/-- A digest for the samples. -/
def sampleDigests : Digests where
  sha256 := fun _ => "e3b0"
  hmac := fun _ _ => "c44298"

/-- A signed request of the first second. -/
def sampleRequest : SignedRequest where
  method := "POST"
  path := "/api/django/payments/initiate/"
  body := some ""
  timestamp := some "1"
  nonce := some "7f"
  signature := some "c44298"
  key_id := some "pk"

/-- The key of the samples. -/
def sampleKey : ApiKey where
  is_active := true
  expires_at := none
  secret_plain := some "sk"
  scopes := ["initiate_payment"]
  user_id := 1

/-- A step in which nothing fails, a millisecond after the previous one. -/
def sampleChoice : Choice where
  elapsed := 1000
  fault := false
  applied := false
  key := some sampleKey

/-- A request is accepted; then it arrives again. -/
def sampleReplay : List (Fin 2 × Turn) :=
  [(0, .receive sampleRequest), (0, .next sampleChoice), (0, .next sampleChoice),
    (0, .next sampleChoice), (0, .next sampleChoice), (0, .next sampleChoice),
    (1, .receive sampleRequest), (1, .next sampleChoice), (1, .next sampleChoice)]

/-- Two copies of a request look the nonce up before one of them stores it. -/
def sampleOverlap : List (Fin 2 × Turn) :=
  [(0, .receive sampleRequest), (1, .receive sampleRequest), (0, .next sampleChoice),
    (1, .next sampleChoice), (0, .next sampleChoice), (1, .next sampleChoice),
    (0, .next sampleChoice), (1, .next sampleChoice), (0, .next sampleChoice),
    (1, .next sampleChoice)]

end Samples

end HmacRequestValidator

end Linkapro.Payments
