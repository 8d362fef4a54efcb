import Linkapro.Lib.Base64
import Linkapro.Lib.Interleave
import Linkapro.Payments.HmacRequests

/-!
# Payments: the key provider

`VaultKeyProvider` wraps and unwraps data keys with the transit engine of a Vault. Its
threads share a token with a lease. A thread takes the token under a lock and sends its
request without the lock, and a request that is refused is sent once more with the token of
another login.
-/

namespace Linkapro.Payments

open Lib Lib.Action

/-! ### Replies of the Vault -/

/-- `bytes`. -/
abbrev Bytes : Type := List UInt8

/-- What a call of the key provider may raise. -/
inductive VaultError : Type where
  /-- `KeyProviderError`. -/
  | keyProvider (message : String)
  /-- `InfrastructureUnavailableError`. -/
  | unavailable (message : String)
  /-- Any other exception. -/
  | uncaught
deriving DecidableEq, Repr

/-- What `int(value)` makes of a value: a number, a `TypeError` or `ValueError`, or an
`OverflowError`. -/
inductive Conversion : Type where
  | number (value : ℤ)
  | refused
  | overflow

/-- A value in a reply, as far as the provider tells values apart: a text, or any other value
with its `str`, its truth value and its conversion to an `int`. -/
inductive VaultValue : Type where
  | text (value : String)
  | other (rendering : String) (truthy : Bool) (conversion : Conversion)

/-- A field of a reply, as far as the provider looks into it. -/
inductive VaultField : Type where
  | list (items : List VaultValue)
  | dict (entries : List (String × VaultValue))
  | other

/-- The dictionary that a reply holds. -/
abbrev VaultData : Type := List (String × VaultField)

/-- The body of a response. -/
inductive VaultBody : Type where
  | notJson
  | notObject
  | object (data : VaultData)

/-- A response of the Vault. -/
structure VaultResponse where
  status_code : ℤ
  body : VaultBody

/-- What comes of a request. -/
inductive VaultReply : Type where
  | response (response : VaultResponse)
  /-- `requests.Timeout`, `requests.ConnectionError` or `requests.exceptions.SSLError`. -/
  | unreachable
  /-- Another `requests.RequestException`. -/
  | requestException
  /-- An exception that is not of `requests`. -/
  | uncaught

namespace VaultValue

/-- `str(value)`. -/
def str : VaultValue → String
  | text value => value
  | other rendering _ _ => rendering

/-- `bool(value)`. -/
def isTruthy : VaultValue → Bool
  | text value => value ≠ ""
  | other _ truthy _ => truthy

/-- `int(value)`. -/
def int : VaultValue → Conversion
  | text value =>
    match pythonInt value with
    | some number => .number number
    | none => .refused
  | other _ _ conversion => conversion

end VaultValue

/-- The entry of a dictionary in the reply, with `none` for `None`. -/
def VaultData.entry (data : VaultData) (field key : String) : Option VaultValue :=
  match data.lookup field with
  | some (.dict entries) => entries.lookup key
  | _ => none

/-- `_response_mentions_sealed`. -/
def _response_mentions_sealed (data : VaultData) : Bool :=
  match data.lookup "errors" with
  | some (.list errors) =>
    errors.any fun error => "sealed".toList <:+: (lower error.str).toList
  | _ => false

/-- `_request`. -/
def _request : VaultReply → Except VaultError VaultResponse
  | .response response => .ok response
  | .unreachable => .error (.unavailable "Vault is unavailable")
  | .requestException => .error (.unavailable "Vault request failed")
  | .uncaught => .error .uncaught

/-- `_safe_json`. -/
def _safe_json (response : VaultResponse) : Except VaultError VaultData :=
  match response.body with
  | .notJson => .error (.keyProvider "Vault response was not valid JSON")
  | .notObject => .error (.keyProvider "Vault response JSON was not an object")
  | .object data => .ok data

/-- The error for a status code from 400 on. -/
def statusError (status_code : ℤ) : VaultError :=
  if status_code = 401 ∨ status_code = 403 then
    .keyProvider "Vault authentication or authorization failed"
  else if status_code = 404 then .keyProvider "Vault path or key was not found"
  else if status_code = 429 then .unavailable "Vault rate limit exceeded"
  else if 500 ≤ status_code then .unavailable "Vault service error"
  else .keyProvider "Vault request was rejected"

/-- `_handle_response`. -/
def _handle_response (response : VaultResponse) : Except VaultError VaultData :=
  let sealed := VaultError.unavailable "Vault is unavailable because it is sealed"
  if 400 ≤ response.status_code then
    let error_data := (_safe_json response).toOption.getD []
    .error (if _response_mentions_sealed error_data then sealed
      else statusError response.status_code)
  else do
    let data ← _safe_json response
    if _response_mentions_sealed data then .error sealed else .ok data

/-- The reply is one to a token that the Vault does not take. -/
def VaultResponse.isRefused (response : VaultResponse) : Bool :=
  response.status_code = 401 ∨ response.status_code = 403

/-- What `_authenticate` makes of the reply to a login: the token and its lease in seconds. -/
def loginData (data : VaultData) : Except VaultError (String × ℤ) :=
  let missing := VaultError.keyProvider "Vault authentication response is missing required fields"
  match (data.entry "auth" "client_token").filter VaultValue.isTruthy with
  | none => .error missing
  | some token =>
    match (data.entry "auth" "lease_duration").map VaultValue.int with
    | none | some .refused => .error missing
    | some .overflow => .error .uncaught
    | some (.number lease_seconds) =>
      if lease_seconds ≤ 0 then
        .error (.keyProvider "Vault authentication response has an invalid lease")
      else .ok (token.str, lease_seconds)

/-! ### Keys and their texts -/

/-- `base64.b64encode(data).decode("ascii")`. -/
def b64encode (data : Bytes) : String :=
  String.ofList (Base64.encodeStandard (data.map UInt8.toNat))

/-- `base64.b64decode(text, validate=True)`, with `none` for a `ValueError`. -/
def b64decodeValidated (text : String) : Option Bytes :=
  (Base64.decodeStrict text.toList).map fun data => data.map UInt8.ofNat

/-- `text.encode("ascii")`. -/
def encodeAscii (text : String) : Option Bytes :=
  if isAscii text then some (text.toList.map fun c => UInt8.ofNat c.toNat) else none

/-- `data.decode("ascii")`. -/
def decodeAscii (data : Bytes) : Option String :=
  if data.all (· < 128) then some (String.ofList (data.map fun byte => Char.ofNat byte.toNat))
  else none

/-- `VAULT_CIPHERTEXT_RE`, for an ASCII text. -/
def isVaultCiphertext (text : String) : Bool :=
  let (version, rest) := (text.toList.drop 7).span Char.isDigit
  "vault:v".toList.isPrefixOf text.toList && version ≠ [] &&
    match rest with
    | ':' :: ciphertext => ciphertext ≠ [] ∧ '\n' ∉ ciphertext
    | _ => false

/-- An argument that should be `bytes`. -/
inductive KeyArgument : Type where
  | bytes (value : Bytes)
  | other

/-- `_require_bytes`. -/
def _require_bytes (name : String) : KeyArgument → Except VaultError Bytes
  | .bytes value => .ok value
  | .other => .error (.keyProvider (name ++ " must be bytes"))

/-- `_require_dek`. -/
def _require_dek (value : KeyArgument) : Except VaultError Bytes := do
  let dek ← _require_bytes "DEK" value
  if dek.length ≠ 32 then .error (.keyProvider "DEK must be exactly 32 bytes") else .ok dek

/-- `_decode_vault_ciphertext`. -/
def _decode_vault_ciphertext (value : KeyArgument) : Except VaultError String := do
  let encrypted_dek ← _require_bytes "Vault ciphertext" value
  match decodeAscii encrypted_dek with
  | none => .error (.keyProvider "Vault ciphertext is not valid ASCII")
  | some ciphertext =>
    if isVaultCiphertext ciphertext then .ok ciphertext
    else .error (.keyProvider "Vault ciphertext is malformed")

/-- What `wrap_dek` makes of the reply to its request. -/
def readCiphertext (data : VaultData) : Except VaultError Bytes :=
  match (data.entry "data" "ciphertext").filter VaultValue.isTruthy with
  | none => .error (.keyProvider "Vault encrypt response is missing required fields")
  | some ciphertext =>
    match encodeAscii ciphertext.str with
    | none => .error (.keyProvider "Vault encrypt response ciphertext is not valid ASCII")
    | some encoded_ciphertext => do
      let _ ← _decode_vault_ciphertext (.bytes encoded_ciphertext)
      .ok encoded_ciphertext

/-- What `unwrap_dek` makes of the reply to its request. -/
def readDek (data : VaultData) : Except VaultError Bytes :=
  match (data.entry "data" "plaintext").filter VaultValue.isTruthy with
  | none => .error (.keyProvider "Vault decrypt response is missing required fields")
  | some (.other _ _ _) => .error .uncaught
  | some (.text plaintext_b64) =>
    match b64decodeValidated plaintext_b64 with
    | none => .error (.keyProvider "Vault decrypt response contained invalid base64")
    | some dek =>
      if dek.length ≠ 32 then
        .error (.keyProvider "Vault decrypt response DEK must be exactly 32 bytes")
      else .ok dek

/-! ### Calls of a thread -/

/-- A token as a thread takes it: with the instant of the monotonic clock at which it was found
good, and the instant at which its lease ends. -/
structure Grant where
  token : String
  granted_at : ℤ
  expires_at : ℤ
deriving DecidableEq

/-- A request to the transit engine. -/
inductive TransitRequest : Type where
  | encrypt (plaintext : String)
  | decrypt (ciphertext : String)
deriving DecidableEq

/-- A step of a thread: a block under the token lock, or a request with a token. -/
inductive VaultOp : Type where
  | getToken
  | clearToken
  | refreshToken
  | request (grant : Grant) (body : TransitRequest)
deriving DecidableEq

/-- What a step answers unless it raises. -/
def VaultOp.Ret : VaultOp → Type
  | .getToken | .refreshToken => Grant
  | .clearToken => Unit
  | .request _ _ => VaultResponse

/-- A call on the key provider. -/
abbrev VaultAction : Type → Type := Action VaultError VaultOp.Ret

/-- Perform one step. -/
def vault (op : VaultOp) : VaultAction op.Ret := perform op

/-- `_send`, for a request with a token. -/
def _send (grant : Grant) (body : TransitRequest) : VaultAction VaultData :=
  if grant.token = "" then throw (.keyProvider "Vault token is missing")
  else do
    let response : VaultResponse ← vault (.request grant body)
    if response.isRefused then do
      let _ : Unit ← vault .clearToken
      let refreshed : Grant ← vault .refreshToken
      let response : VaultResponse ← vault (.request refreshed body)
      MonadExcept.ofExcept (_handle_response response)
    else MonadExcept.ofExcept (_handle_response response)

/-- `_make_request`. -/
def _make_request (body : TransitRequest) : VaultAction VaultData := do
  let grant : Grant ← vault .getToken
  _send grant body

/-- `@retry`, with a number of attempts after the first one. -/
def retry {α : Type} : ℕ → VaultAction α → VaultAction α
  | 0, action => action
  | attempts + 1, action =>
    attempt action fun error =>
      match error with
      | .unavailable _ => retry attempts action
      | error => throw error

/-- A call of the key provider. -/
inductive KeyCall : Type where
  | wrap_dek (dek : KeyArgument)
  | unwrap_dek (encrypted_dek : KeyArgument)

namespace KeyCall

/-- The request of a call. -/
def body : KeyCall → Except VaultError TransitRequest
  | wrap_dek dek => (_require_dek dek).map fun dek => .encrypt (b64encode dek)
  | unwrap_dek encrypted_dek => (_decode_vault_ciphertext encrypted_dek).map .decrypt

/-- What a call makes of the reply to its request. -/
def read : KeyCall → VaultData → Except VaultError Bytes
  | wrap_dek _ => readCiphertext
  | unwrap_dek _ => readDek

/-- One attempt of a call. -/
def attemptOnce (call : KeyCall) : VaultAction Bytes := do
  let body ← MonadExcept.ofExcept call.body
  let data ← _make_request body
  MonadExcept.ofExcept (call.read data)

/-- The methods `wrap_dek` and `unwrap_dek`, with up to three attempts. -/
def perform (call : KeyCall) : VaultAction Bytes := retry 2 call.attemptOnce

end KeyCall

/-! ### The token that the threads share -/

/-- The settings of the key provider that decide on its tokens. -/
structure VaultConfig where
  token_renewal_margin_seconds : ℤ

/-- A login that the Vault has answered with a token. -/
structure Login where
  token : String
  /-- When the Vault issues the token. -/
  issued_at : ℤ
  /-- When the provider reads the clock after the reply. -/
  received_at : ℤ
  lease : Timedelta
deriving DecidableEq

/-- A request that has gone out to the transit engine. -/
structure SentRequest where
  sent_at : ℤ
  grant : Grant
  body : TransitRequest
deriving DecidableEq

/-- The provider, with the logins and requests that it has made. -/
structure ProviderState where
  /-- `time.monotonic()`, in microseconds. -/
  clock : ℤ
  token : Option String
  token_expires_at : ℤ
  /-- Newest first. -/
  logins : List Login
  /-- Newest first. -/
  sent : List SentRequest

/-- What the provider does not choose at a step. -/
structure VaultChoice where
  /-- Microseconds since the previous step. -/
  waited : ℕ
  /-- Microseconds until the Vault decides on a request. -/
  travelled : ℕ
  /-- Microseconds until its reply has come. -/
  returned : ℕ
  login : VaultReply
  reply : TransitRequest → VaultReply

/-- A provider before its first call. -/
def newProvider (clock : ℤ) : ProviderState where
  clock := clock
  token := none
  token_expires_at := 0
  logins := []
  sent := []

namespace ProviderState

variable (config : VaultConfig) (choice : VaultChoice) (s : ProviderState)

/-- Time passes. -/
def wait (elapsed : ℕ) : ProviderState := { s with clock := s.clock + elapsed }

/-- When the reply to a request of this instant has come. -/
def replied : ProviderState := s.wait (choice.travelled + choice.returned)

/-- The block of `_refresh_token`, with `_authenticate`. -/
def _refresh_token : Except VaultError Grant × ProviderState :=
  let received_at := (s.replied choice).clock
  match _request choice.login >>= _handle_response >>= loginData with
  | .error error => (.error error, s.replied choice)
  | .ok (token, lease_seconds) =>
    let expires_at := received_at + seconds lease_seconds
    (.ok { token, granted_at := received_at, expires_at },
      { s.replied choice with
        token := some token
        token_expires_at := expires_at
        logins :=
          { token, issued_at := s.clock + choice.travelled, received_at
            lease := seconds lease_seconds } :: s.logins })

/-- `_token_expires_soon`. -/
def _token_expires_soon : Bool :=
  s.token_expires_at - seconds config.token_renewal_margin_seconds ≤ s.clock

/-- The block of `_get_token`. -/
def _get_token : Except VaultError Grant × ProviderState :=
  match s.token with
  | none => s._refresh_token choice
  | some token =>
    if s._token_expires_soon config then s._refresh_token choice
    else (.ok { token, granted_at := s.clock, expires_at := s.token_expires_at }, s)

/-- The block of `_clear_token`. -/
def _clear_token : ProviderState := { s with token := none, token_expires_at := 0 }

/-- A request with a token. -/
def send (grant : Grant) (body : TransitRequest) :
    Except VaultError VaultResponse × ProviderState :=
  (_request (choice.reply body),
    { s.replied choice with sent := { sent_at := s.clock, grant, body } :: s.sent })

/-- One step of a thread. -/
def exec : Exec ProviderState VaultChoice (Raising VaultError VaultOp.Ret) := fun choice op s =>
  let s := s.wait choice.waited
  match op with
  | .getToken => s._get_token config choice
  | .clearToken => (.ok (), s._clear_token)
  | .refreshToken => s._refresh_token choice
  | .request grant body => s.send choice grant body

end ProviderState

end Linkapro.Payments
