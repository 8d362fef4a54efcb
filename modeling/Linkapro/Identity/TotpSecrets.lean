import Linkapro.Identity.InterleavedAccounts
import Linkapro.Payments.Envelope
import Linkapro.Payments.KeyRequests

/-!
# Identity: stored TOTP secrets

`DjangoUserRepository` encrypts a TOTP secret with a fresh data key and stores it with the
wrapped key, where an older version stored the plain secret. A column is decrypted after other
requests may have written it, and a request that saves an account writes back the column that
it has read. A secret that is read is nevertheless one that was stored for the user.
-/

namespace Linkapro.Identity

open Lib Payments

/-! ### TOTP secrets -/

/-- The characters beyond ASCII with an ASCII text in upper case. -/
def expandedUpper : List (ℕ × String) :=
  [(0xdf, "SS"), (0x131, "I"), (0x17f, "S"), (0xfb00, "FF"), (0xfb01, "FI"), (0xfb02, "FL"),
    (0xfb03, "FFI"), (0xfb04, "FFL"), (0xfb05, "ST"), (0xfb06, "ST")]

/-- `str.upper` of one character, as far as ASCII letters result. -/
def upperChar (c : Char) : List Char :=
  match expandedUpper.lookup c.toNat with
  | some text => text.toList
  | none => [c.toUpper]

/-- `text.upper()`, as far as ASCII letters result. -/
def upper (text : String) : String := String.ofList (text.toList.flatMap upperChar)

/-- The symbols of Base32. -/
def base32Alphabet : List Char := "ABCDEFGHIJKLMNOPQRSTUVWXYZ234567".toList

/-- The text without its padding. -/
def unpadded (text : String) : List Char := text.toList.takeWhile (· ∈ base32Alphabet)

/-- The padding of the text. -/
def base32Padding (text : String) : List Char := text.toList.dropWhile (· ∈ base32Alphabet)

/-- `_BASE32_SECRET_RE`. -/
def isBase32 (text : String) : Bool :=
  unpadded text ≠ [] ∧ (base32Padding text).all (· = '=')

/-- `base64.b32decode` accepts the length and the padding. -/
def isB32Decodable (text : String) : Bool :=
  text.toList.length % 8 = 0 ∧ (base32Padding text).length ∈ [0, 1, 3, 4, 6]

/-- What a stored secret may be. -/
def isTotpSecret (text : String) : Bool :=
  isBase32 text ∧ isB32Decodable text ∧ 16 ≤ (unpadded text).length

/-- `TOTPSecret`. -/
structure TOTPSecret where
  value : String
  valid : isTotpSecret value = true
deriving DecidableEq

/-- What a call of the repository may raise. -/
inductive SecretError : Type where
  | valueError (message : String)
  | vault (error : VaultError)
  | account (error : AccountError)

/-- `TOTPSecret(value)`. -/
def TOTPSecret.of (value : String) : Except SecretError TOTPSecret :=
  let invalid := SecretError.valueError "Invalid TOTP secret format"
  let normalized := upper (strip value)
  if containsControlCharacter value then
    .error (.valueError "TOTP secret contains unsafe control characters")
  else if h : isTotpSecret normalized = true then .ok ⟨normalized, h⟩
  else if isBase32 normalized = false ∨ isB32Decodable normalized = false then .error invalid
  else if '=' ∈ normalized.toList then .error invalid
  else .error (.valueError "TOTP secret must be at least 16 characters long")

/-- The characters of a secret. -/
theorem mem_of_isBase32 {text : String} (h : isBase32 text = true) :
    ∀ c ∈ text.toList, c ∈ '=' :: base32Alphabet := by
  obtain ⟨_, hpadding⟩ := of_decide_eq_true h
  intro c hc
  rw [← List.takeWhile_append_dropWhile (p := (· ∈ base32Alphabet)) (l := text.toList),
    List.mem_append] at hc
  rcases hc with hc | hc
  · have hsymbol := List.mem_takeWhile_imp hc
    exact List.mem_cons_of_mem _ (of_decide_eq_true hsymbol)
  · rw [of_decide_eq_true (List.all_eq_true.mp hpadding c hc)]
    exact List.mem_cons_self

/-- The text of a secret is read as that secret. -/
theorem TOTPSecret.of_value (secret : TOTPSecret) : TOTPSecret.of secret.value = .ok secret := by
  have hall : ('=' :: base32Alphabet).all (fun c => upperChar c = [c] ∧ isSpace c = false ∧
      ¬ (c.toNat < 32 ∨ c.toNat = 127)) = true := by decide +kernel
  have hbase32 := mem_of_isBase32 (of_decide_eq_true secret.valid).1
  have hplain : ∀ c ∈ secret.value.toList, upperChar c = [c] ∧ isSpace c = false ∧
      ¬ (c.toNat < 32 ∨ c.toNat = 127) := fun c hc =>
    of_decide_eq_true (List.all_eq_true.mp hall c (hbase32 c hc))
  have hcontrol : containsControlCharacter secret.value = false := by
    unfold containsControlCharacter
    rw [List.any_eq_false]
    intro c hc
    simpa using (hplain c hc).2.2
  have hstrip : strip secret.value = secret.value :=
    strip_eq_self fun c hc => (hplain c hc).2.1
  have hupper : upper secret.value = secret.value := by
    unfold upper
    rw [List.flatMap_congr fun c hc => (hplain c hc).1, List.flatMap_singleton',
      String.ofList_toList]
  unfold TOTPSecret.of
  simp only [hcontrol, hstrip, hupper, secret.valid, dif_pos]
  rfl

/-! ### The calls of the repository -/

/-- One call on the Vault, on the random generator or on the table of users. -/
inductive SecretOp : Type where
  | vault (op : VaultOp)
  /-- `secrets.token_bytes(n)`. -/
  | tokenBytes (n : ℕ)
  | getUser (userId : UUID)
  | apply (statement : AccountStatement)

/-- What a call answers. -/
def SecretOp.Ret : SecretOp → Type
  | .vault op => Except VaultError op.Ret
  | .tokenBytes n => RandomBytes n
  | .getUser _ => Option UserRow
  | .apply _ => Except AccountError Unit

/-- A program that may raise or answer a secret. -/
abbrev SecretProgram : Type := Program SecretOp.Ret (Except SecretError (Option TOTPSecret))

/-- Perform one call. -/
def secretCall (op : SecretOp) : Program SecretOp.Ret op.Ret := Program.perform op

/-- A call of the key provider. -/
def keyCall (call : KeyCall) : Program SecretOp.Ret (Except VaultError Bytes) :=
  call.perform.run.expand fun op => secretCall (.vault op)

/-- A statement that answers nothing. -/
def applyStatement (statement : AccountStatement) : SecretProgram := do
  let answer : Except AccountError Unit ← secretCall (.apply statement)
  match answer with
  | .ok _ => pure (.ok none)
  | .error error => pure (.error (.account error))

/-- `_legacy_totp_secret`. -/
def _legacy_totp_secret (value : String) : Except SecretError (Option TOTPSecret) :=
  if isBase32 (upper (strip value)) then (TOTPSecret.of value).map some else .ok none

/-- The column that `get_totp_secret` reads, if two-factor authentication is on. -/
def storedSecret (found : Option UserRow) : Option String :=
  found.bind fun row => if row.twoFactorEnabled then nonEmpty row.totpSecret else none

section Cipher

variable (aes : AesGcm)

/-- `set_totp_secret`. -/
def set_totp_secret (userId : UUID) (secret : TOTPSecret) : SecretProgram := do
  let dek : RandomBytes 32 ← secretCall (.tokenBytes 32)
  let wrapped ← keyCall (.wrap_dek (.bytes dek.val))
  match wrapped with
  | .error error => pure (.error (.vault error))
  | .ok wrapped_dek => do
    let iv : RandomBytes 12 ← secretCall (.tokenBytes 12)
    let encrypted := encrypt_field aes (encodeUtf8 secret.value) dek iv wrapped_dek
    applyStatement (.setTotpSecret userId encrypted.dumps)

/-- What `get_totp_secret` makes of an encrypted field once its key has been asked for. -/
def openSecret (encrypted : EncryptedField) :
    Except VaultError Bytes → Except SecretError (Option TOTPSecret)
  | .error _ => .ok none
  | .ok dek =>
    match (decrypt_field aes encrypted dek).bind decodeUtf8 with
    | none => .ok none
    | some plaintext => (TOTPSecret.of plaintext).map some

/-- `get_totp_secret` of a column. -/
def readSecret (value : String) : SecretProgram :=
  match payloadOf value with
  | none => pure (_legacy_totp_secret value)
  | some payload =>
    match encrypted_field_from_json payload with
    | none => pure (.ok none)
    | some encrypted => do
      let dek ← keyCall (.unwrap_dek (.bytes encrypted.dek_encrypted))
      pure (openSecret aes encrypted dek)

/-- `get_totp_secret`. -/
def get_totp_secret (userId : UUID) : SecretProgram := do
  let found : Option UserRow ← secretCall (.getUser userId)
  match storedSecret found with
  | none => pure (.ok none)
  | some value => readSecret aes value

/-- `save`, with the password that it writes for an account without one. -/
def saveAccount (user : User) (unusable : String) : SecretProgram := do
  let stored : Option UserRow ← secretCall (.getUser user.id)
  let password := (user.passwordHash.map PasswordHash.value).getD unusable
  applyStatement (.saveUser (.ofDomain user password stored))

/-- A call of the repository that reads or writes the column of secrets. -/
inductive SecretRequest : Type where
  | set_totp_secret (userId : UUID) (secret : TOTPSecret)
  | clear_totp_secret (userId : UUID)
  | get_totp_secret (userId : UUID)
  | save (user : User) (unusable : String)

namespace SecretRequest

/-- The user of a call. -/
def userId : SecretRequest → UUID
  | set_totp_secret userId _ | clear_totp_secret userId | get_totp_secret userId => userId
  | save user _ => user.id

/-- The program of a call. -/
def program : SecretRequest → SecretProgram
  | set_totp_secret userId secret => Identity.set_totp_secret aes userId secret
  | clear_totp_secret userId => applyStatement (.clearTotpSecret userId)
  | get_totp_secret userId => Identity.get_totp_secret aes userId
  | save user unusable => saveAccount user unusable

end SecretRequest

end Cipher

/-! ### The Vault and the table -/

/-- What the key of the transit engine decrypts a ciphertext to. -/
abbrev TransitKey : Type := String → Option String

/-- The reply is that of the transit key: a ciphertext that decrypts to the plaintext of the
request, or the plaintext of its ciphertext. -/
def HonestData (transit : TransitKey) : TransitRequest → VaultData → Prop
  | .encrypt plaintext, data => ∀ key, readCiphertext data = .ok key →
      ∀ ciphertext, _decode_vault_ciphertext (.bytes key) = .ok ciphertext →
        transit ciphertext = some plaintext
  | .decrypt ciphertext, data => ∀ plaintext,
      data.entry "data" "plaintext" = some (.text plaintext) → transit ciphertext = some plaintext

/-- A response is honest unless it reports an error. -/
def HonestResponse (transit : TransitKey) (body : TransitRequest) (response : VaultResponse) :
    Prop :=
  ∀ data, _handle_response response = .ok data → HonestData transit body data

/-- What the repository does not choose at a step. The Vault may fail at any time, but it keeps
its key. -/
structure SecretChoice (transit : TransitKey) where
  vault : VaultChoice
  random : (n : ℕ) → RandomBytes n
  honest : ∀ body response, _request (vault.reply body) = .ok response →
    HonestResponse transit body response

/-- The key provider and the tables of accounts. -/
structure SecretState where
  provider : ProviderState
  accounts : AccountState

/-- One step of a call. -/
def SecretState.exec (transit : TransitKey) (config : VaultConfig) :
    Exec SecretState (SecretChoice transit) SecretOp.Ret := fun choice op s =>
  match op with
  | .vault op =>
    let result := ProviderState.exec config choice.vault op s.provider
    (result.1, { s with provider := result.2 })
  | .tokenBytes n => (choice.random n, s)
  | .getUser userId => (s.accounts.users.lookup userId, s)
  | .apply statement =>
    match s.accounts.apply statement with
    | .ok accounts => (.ok (), { s with accounts })
    | .error error => (.error error, s)

/-! ### Columns and the secrets they stand for -/

section Columns

variable (transit : TransitKey) (aes : AesGcm)

/-- A column stands for a secret: it is an encrypted field whose key the transit key unwraps, or a
plain secret of an older version. -/
inductive Stands (text : String) (secret : TOTPSecret) : Prop where
  | encrypted {payload : JsonDict} {encrypted : EncryptedField} {ciphertext : String} {dek : Bytes}
      (payload_eq : payloadOf text = some payload)
      (encrypted_eq : encrypted_field_from_json payload = some encrypted)
      (ciphertext_eq : _decode_vault_ciphertext (.bytes encrypted.dek_encrypted) = .ok ciphertext)
      (unwraps : transit ciphertext = some (b64encode dek))
      (opens : (decrypt_field aes encrypted dek).bind decodeUtf8 = some secret.value)
  | legacy (payload_eq : payloadOf text = none)
      (secret_eq : _legacy_totp_secret text = .ok (some secret))

variable {transit aes} {secret : TOTPSecret} {text : String}

/-- What is written for a secret stands for it. -/
theorem stands_dumps {dek : RandomBytes 32} {iv : RandomBytes 12} {wrapped_dek : Bytes}
    {ciphertext : String}
    (hwrapped : _decode_vault_ciphertext (.bytes wrapped_dek) = .ok ciphertext)
    (htransit : transit ciphertext = some (b64encode dek.val)) :
    Stands transit aes (encrypt_field aes (encodeUtf8 secret.value) dek iv wrapped_dek).dumps
      secret := by
  apply Stands.encrypted payloadOf_dumps from_json_to_json hwrapped htransit
  rw [decrypt_encrypt_field]
  exact decodeUtf8_encodeUtf8

/-- What a column that stands for a secret holds. -/
theorem Stands.column (h : Stands transit aes text secret) :
    match payloadOf text with
    | none => _legacy_totp_secret text = .ok (some secret)
    | some payload => ∃ encrypted ciphertext dek,
        encrypted_field_from_json payload = some encrypted ∧
        _decode_vault_ciphertext (.bytes encrypted.dek_encrypted) = .ok ciphertext ∧
        transit ciphertext = some (b64encode dek) ∧
        (decrypt_field aes encrypted dek).bind decodeUtf8 = some secret.value := by
  cases h with
  | encrypted hpayload hencrypted hciphertext hunwraps hopens =>
    rw [hpayload]
    exact ⟨_, _, _, hencrypted, hciphertext, hunwraps, hopens⟩
  | legacy hpayload hsecret =>
    rw [hpayload]
    exact hsecret

/-- A data key is read back from its text. -/
theorem b64decodeValidated_b64encode {dek : Bytes} :
    b64decodeValidated (b64encode dek) = some dek := by
  unfold b64decodeValidated b64encode
  rw [String.toList_ofList, Base64.decodeStrict_encodeStandard lt_of_mem_map_toNat,
    Option.map_some, map_ofNat_toNat]

/-- The key that is read from an honest reply is the one that was wrapped. -/
theorem readDek_of_honest {data : VaultData} {ciphertext : String} {dek dek' : Bytes}
    (hhonest : HonestData transit (.decrypt ciphertext) data)
    (htransit : transit ciphertext = some (b64encode dek)) (hread : readDek data = .ok dek') :
    dek' = dek := by
  unfold readDek at hread
  split at hread
  · cases hread
  · cases hread
  · next plaintext_b64 hentry =>
    have hplaintext := hhonest plaintext_b64 (Option.filter_eq_some_iff.mp hentry).1
    rw [htransit, Option.some_inj] at hplaintext
    rw [← hplaintext, b64decodeValidated_b64encode] at hread
    simp only at hread
    split at hread
    · cases hread
    · cases hread
      rfl

/-- An encrypted column is opened with the key that was wrapped. -/
theorem openSecret_of_opens {encrypted : EncryptedField} {dek : Bytes}
    (h : (decrypt_field aes encrypted dek).bind decodeUtf8 = some secret.value) :
    openSecret aes encrypted (.ok dek) = .ok (some secret) := by
  simp only [openSecret, h, secret.of_value]
  rfl

end Columns

/-! ### Stages of a call -/

/-- The calls that a step may see. -/
structure SecretStage where
  found : Option (Option UserRow) := none
  dek : Option Bytes := none
  vault : CallStage := {}

namespace SecretStage

/-- The stage that a call leads to. -/
def advance (stage : SecretStage) : Call SecretOp.Ret → SecretStage
  | ⟨.vault op, answer⟩ => { stage with vault := stage.vault.advance ⟨op, answer⟩ }
  | ⟨.tokenBytes _, bytes⟩ => { stage with dek := some (stage.dek.getD bytes.val) }
  | ⟨.getUser _, found⟩ => { stage with found := some found }
  | ⟨.apply _, _⟩ => stage

/-- The encrypted field in the column that has been read. -/
def sealed (stage : SecretStage) : Option EncryptedField := do
  let text ← storedSecret (← stage.found)
  encrypted_field_from_json (← payloadOf text)

/-- The call of the key provider that a request makes. -/
def keyCall (request : SecretRequest) (stage : SecretStage) : Option KeyCall :=
  match request with
  | .set_totp_secret _ _ => stage.dek.map fun dek => .wrap_dek (.bytes dek)
  | .get_totp_secret _ =>
    stage.sealed.map fun encrypted => .unwrap_dek (.bytes encrypted.dek_encrypted)
  | _ => none

/-- The key provider has not answered a key. -/
def Failed (stage : SecretStage) : Prop :=
  ∃ answer error, stage.vault.position.outcome = some answer ∧ answer >>= readDek = .error error

end SecretStage

section Stages

variable (transit : TransitKey) (aes : AesGcm)

/-- The statements of a request: it stores what stands for its secret, or the column that it has
read. -/
def PermitsStatement (request : SecretRequest) (stage : SecretStage) : AccountStatement → Prop
  | .setTotpSecret userId text =>
    ∃ secret, request = .set_totp_secret userId secret ∧ Stands transit aes text secret
  | .saveUser row => row.id = request.userId ∧
      ∃ stored, stage.found = some stored ∧ row.totpSecret = stored.bind UserRow.totpSecret
  | _ => True

/-- The stages of a request. -/
def secretStages (request : SecretRequest) : Stages SecretOp.Ret SecretStage where
  initial := {}
  advance := SecretStage.advance
  permits stage
    | .vault op => ∃ call, stage.keyCall request = some call ∧ stage.vault.permits call op
    | .tokenBytes _ => True
    | .getUser userId => userId = request.userId
    | .apply statement => PermitsStatement transit aes request stage statement
  possible
    | ⟨.vault (.request _ body), .ok response⟩ => HonestResponse transit body response
    | ⟨.getUser userId, some row⟩ => row.id = userId
    | _ => True

/-- A read answers the secret that its column stands for, or nothing when there is none or the key
provider has failed. -/
def AnswersColumn (found : Option UserRow) (last : SecretStage)
    (outcome : Except SecretError (Option TOTPSecret)) : Prop :=
  (storedSecret found = none → outcome = .ok none) ∧
    ∀ text secret, storedSecret found = some text → Stands transit aes text secret →
      outcome = .ok (some secret) ∨ outcome = .ok none ∧ last.Failed

/-- What a request comes to. -/
def SecretFinished (request : SecretRequest) (last : SecretStage)
    (outcome : Except SecretError (Option TOTPSecret)) : Prop :=
  ∀ userId, request = .get_totp_secret userId →
    ∃ found, last.found = some found ∧ AnswersColumn transit aes found last outcome

/-- What the attempt comes to is honest. -/
def HonestPosition (body : TransitRequest) (position : Position) : Prop :=
  ∀ data, position.outcome = some (.ok data) → HonestData transit body data

variable {transit aes} {request : SecretRequest} {stage : SecretStage} {call : KeyCall}
  {body : TransitRequest}

theorem honestPosition_ofToken {position : Grant → Position} {answer : Except VaultError Grant}
    (h : ∀ grant data, (position grant).outcome ≠ some (.ok data)) :
    HonestPosition transit body (.ofToken position answer) := by
  intro data hdata
  cases answer with
  | ok grant => exact absurd hdata (h grant data)
  | error error => cases hdata

/-- Every step of the key provider is honest. -/
theorem honestPosition_advance {vaultStage : CallStage} {op : VaultOp}
    {answer : Except VaultError op.Ret} (hbody : call.body = .ok body)
    (hpermits : vaultStage.permits call op)
    (hpossible : (secretStages transit aes request).possible ⟨.vault op, answer⟩) :
    HonestPosition transit body (vaultStage.advance ⟨op, answer⟩).position := by
  cases op with
  | getToken =>
    apply honestPosition_ofToken
    intro grant data hdata
    simp only [Position.outcome] at hdata
    split at hdata <;> cases hdata
  | clearToken =>
    intro data hdata
    cases answer <;> cases hdata
  | refreshToken =>
    apply honestPosition_ofToken
    intro grant data hdata
    cases hdata
  | request grant body' =>
    cases hbody.symm.trans hpermits.1
    intro data hdata
    rcases hpermits.2 with hposition | hposition
    · simp only [CallStage.advance, hposition] at hdata
      cases answer with
      | error error => cases hdata
      | ok response =>
        simp only [Position.outcome] at hdata
        split at hdata
        · cases hdata
        · exact hpossible data (Option.some_inj.mp hdata)
    · simp only [CallStage.advance, hposition] at hdata
      cases answer with
      | error error => cases hdata
      | ok response => exact hpossible data (Option.some_inj.mp hdata)

/-- The steps of a call of the key provider are steps of its request. -/
theorem takes_expand {α : Type} {program : Program (Raising VaultError VaultOp.Ret) α}
    {P : CallStage → α → Prop} (hcall : stage.keyCall request = some call)
    (h : program.Takes (callStages call) stage.vault P)
    (hhonest : ∀ body, call.body = .ok body → HonestPosition transit body stage.vault.position) :
    (program.expand fun op => secretCall (.vault op)).Takes (secretStages transit aes request) stage
      fun last value => last.found = stage.found ∧ P last.vault value ∧
        ∀ body, call.body = .ok body → HonestPosition transit body last.vault.position := by
  induction program generalizing stage with
  | done value => exact ⟨rfl, h, hhonest⟩
  | call op next ih =>
    refine ⟨⟨call, hcall, h.1⟩, fun answer hanswer => ?_⟩
    have hkeyCall : (stage.advance ⟨.vault op, answer⟩).keyCall request = some call := hcall
    exact ih answer hkeyCall (h.2 answer trivial) fun body hbody =>
      honestPosition_advance hbody h.1 hanswer

/-- A call of the key provider finishes, and its last reply is honest. -/
theorem keyCall_takes (hcall : stage.keyCall request = some call) (hvault : stage.vault = {}) :
    (keyCall call).Takes (secretStages transit aes request) stage fun last outcome =>
      last.found = stage.found ∧ call.Finished last.vault outcome ∧
        ∀ body, call.body = .ok body → HonestPosition transit body last.vault.position := by
  apply takes_expand hcall
  · rw [hvault]
    exact call.perform_takes
  · intro body _ data hdata
    rw [hvault] at hdata
    cases hdata

/-- The rule of a call and what follows it. -/
theorem takes_secretCall_bind {α : Type} {stages : Stages SecretOp.Ret SecretStage} {op : SecretOp}
    {f : op.Ret → Program SecretOp.Ret α} {P : SecretStage → α → Prop}
    (hpermits : stages.permits stage op)
    (h : ∀ answer, stages.possible ⟨op, answer⟩ →
      (f answer).Takes stages (stages.advance stage ⟨op, answer⟩) P) :
    Program.Takes stages stage (secretCall op >>= f) P :=
  ⟨hpermits, h⟩

/-- A statement that answers nothing ends its request. -/
theorem applyStatement_takes {statement : AccountStatement}
    {P : SecretStage → Except SecretError (Option TOTPSecret) → Prop}
    (hpermits : PermitsStatement transit aes request stage statement)
    (hP : ∀ outcome, P stage outcome) :
    (applyStatement statement).Takes (secretStages transit aes request) stage P := by
  apply takes_secretCall_bind hpermits
  intro answer _
  cases answer with
  | ok _ => exact hP _
  | error error => exact hP _

/-- A request that is not a read comes to anything. -/
theorem secretFinished_of_ne {last : SecretStage} {outcome : Except SecretError (Option TOTPSecret)}
    (h : ∀ userId, request ≠ .get_totp_secret userId) :
    SecretFinished transit aes request last outcome :=
  fun userId heq => absurd heq (h userId)

/-- What is stored for a secret stands for it. -/
theorem set_totp_secret_takes (userId : UUID) (secret : TOTPSecret) :
    (set_totp_secret aes userId secret).Takes
      (secretStages transit aes (.set_totp_secret userId secret)) {}
      (SecretFinished transit aes (.set_totp_secret userId secret)) := by
  have hfinished {last : SecretStage} {outcome : Except SecretError (Option TOTPSecret)} :
      SecretFinished transit aes (.set_totp_secret userId secret) last outcome :=
    secretFinished_of_ne fun _ heq => by cases heq
  apply takes_secretCall_bind trivial
  intro dek _
  have hcall : (SecretStage.advance {} ⟨.tokenBytes 32, dek⟩).keyCall
      (.set_totp_secret userId secret) = some (.wrap_dek (.bytes dek.val)) := rfl
  apply Program.takes_bind_iff.mpr
  apply (keyCall_takes hcall rfl).mono
  rintro last (error | wrapped_dek) ⟨_, hwrap, hhonest⟩
  · exact hfinished
  · have hbody : KeyCall.body (.wrap_dek (.bytes dek.val)) =
        .ok (.encrypt (b64encode dek.val)) := by
      simp [KeyCall.body, _require_dek, _require_bytes, dek.property, bind, Except.bind, Except.map]
    obtain ⟨ciphertext, hciphertext⟩ := hwrap.accepted wrapped_dek rfl
    obtain ⟨answer, hposition, hread⟩ := hwrap.served _ hbody
    obtain ⟨data, rfl, hdata⟩ := except_bind_eq_ok_iff.mp hread.symm
    have htransit : transit ciphertext = some (b64encode dek.val) :=
      hhonest _ hbody data hposition wrapped_dek hdata ciphertext hciphertext
    apply takes_secretCall_bind trivial
    intro iv _
    have hstands : Stands transit aes
        (encrypt_field aes (encodeUtf8 secret.value) dek iv wrapped_dek).dumps secret :=
      stands_dumps hciphertext htransit
    apply applyStatement_takes
    · exact ⟨secret, rfl, hstands⟩
    · exact fun _ => hfinished

/-- A read of an encrypted column answers its secret unless the key provider fails. -/
theorem unwrap_takes {userId : UUID} {found : Option UserRow} {text : String} {payload : JsonDict}
    {encrypted : EncryptedField} (hstored : storedSecret found = some text)
    (hpayload : payloadOf text = some payload)
    (hencrypted : encrypted_field_from_json payload = some encrypted) :
    (keyCall (.unwrap_dek (.bytes encrypted.dek_encrypted)) >>= fun dek =>
      (pure (openSecret aes encrypted dek) : SecretProgram)).Takes
      (secretStages transit aes (.get_totp_secret userId)) { found := some found }
      (SecretFinished transit aes (.get_totp_secret userId)) := by
  have hcall : SecretStage.keyCall (.get_totp_secret userId) { found := some found } =
      some (.unwrap_dek (.bytes encrypted.dek_encrypted)) := by
    simp [SecretStage.keyCall, SecretStage.sealed, hstored, hpayload, hencrypted]
  refine Program.takes_bind_iff.mpr ((keyCall_takes hcall rfl).mono fun last outcome hlast => ?_)
  obtain ⟨hfound, hfinished, hhonest⟩ := hlast
  intro _ _
  refine ⟨found, hfound, fun hnone => ?_, fun text' secret htext hstands => ?_⟩
  · rw [hstored] at hnone
    cases hnone
  · rw [hstored, Option.some_inj] at htext
    subst htext
    have hcolumn := hstands.column
    rw [hpayload] at hcolumn
    obtain ⟨_, ciphertext, dek, hfrom, hciphertext, htransit, hopens⟩ := hcolumn
    cases hencrypted.symm.trans hfrom
    have hbody : KeyCall.body (.unwrap_dek (.bytes encrypted.dek_encrypted)) =
        .ok (.decrypt ciphertext) := by
      simp [KeyCall.body, hciphertext, Except.map]
    obtain ⟨answer, hposition, hread⟩ := hfinished.served _ hbody
    cases outcome with
    | error error => exact .inr ⟨rfl, answer, error, hposition, hread.symm⟩
    | ok dek' =>
      obtain ⟨data, rfl, hdata⟩ := except_bind_eq_ok_iff.mp hread.symm
      cases readDek_of_honest (hhonest _ hbody data hposition) htransit hdata
      exact .inl (openSecret_of_opens hopens)

/-- A read answers what its column stands for. -/
theorem get_totp_secret_takes (userId : UUID) :
    (get_totp_secret aes userId).Takes (secretStages transit aes (.get_totp_secret userId)) {}
      (SecretFinished transit aes (.get_totp_secret userId)) := by
  apply takes_secretCall_bind rfl
  intro found _
  have hdone {outcome : Except SecretError (Option TOTPSecret)}
      (hnone : storedSecret found = none → outcome = .ok none)
      (hsome : ∀ text secret, storedSecret found = some text → Stands transit aes text secret →
        outcome = .ok (some secret)) :
      SecretFinished transit aes (.get_totp_secret userId) { found := some found } outcome :=
    fun _ _ => ⟨found, rfl, hnone, fun text secret h hstands => .inl (hsome text secret h hstands)⟩
  cases hstored : storedSecret found with
  | none =>
    apply hdone
    · exact fun _ => rfl
    · intro text secret htext
      rw [hstored] at htext
      cases htext
  | some text =>
    have hone {text' : String} (h : storedSecret found = some text') : text = text' := by
      rwa [hstored, Option.some_inj] at h
    have hsome : storedSecret found = none → False := by
      rw [hstored]
      intro h
      cases h
    simp only [readSecret]
    cases hpayload : payloadOf text with
    | none =>
      apply hdone
      · exact fun h => absurd h hsome
      · intro text' secret htext hstands
        cases hone htext
        simpa only [hpayload] using hstands.column
    | some payload =>
      cases hencrypted : encrypted_field_from_json payload with
      | none =>
        simp only [hencrypted]
        apply hdone
        · exact fun h => absurd h hsome
        · intro text' secret htext hstands
          cases hone htext
          have hcolumn := hstands.column
          rw [hpayload] at hcolumn
          obtain ⟨_, _, _, hfrom, _⟩ := hcolumn
          cases hencrypted.symm.trans hfrom
      | some encrypted =>
        simp only [hencrypted]
        exact unwrap_takes hstored hpayload hencrypted

/-- `save` writes back the column that it has read. -/
theorem saveAccount_takes (user : User) (unusable : String) :
    (saveAccount user unusable).Takes (secretStages transit aes (.save user unusable)) {}
      (SecretFinished transit aes (.save user unusable)) := by
  apply takes_secretCall_bind rfl
  intro stored _
  apply applyStatement_takes
  · exact ⟨rfl, stored, rfl, rfl⟩
  · exact fun _ => secretFinished_of_ne fun _ heq => by cases heq

/-- Every request passes through its stages. -/
theorem SecretRequest.program_takes (request : SecretRequest) :
    (request.program aes).Takes (secretStages transit aes request) {}
      (SecretFinished transit aes request) := by
  cases request with
  | set_totp_secret userId secret => exact set_totp_secret_takes userId secret
  | clear_totp_secret userId =>
    exact applyStatement_takes trivial fun _ => secretFinished_of_ne fun _ heq => by cases heq
  | get_totp_secret userId => exact get_totp_secret_takes userId
  | save user unusable => exact saveAccount_takes user unusable

end Stages

/-! ### Runs of requests -/

/-- What an update leaves behind satisfies a condition of the rows and of the changed rows. -/
theorem AccountState.forall_updateUser {P : UserRow → Prop} {s : AccountState} {userId : UUID}
    {change : UserRow → UserRow} (h : ∀ row ∈ s.users.rows, P row)
    (hchange : ∀ old ∈ s.users.rows, old.id = userId → P (change old)) :
    ∀ row ∈ (s.updateUser userId change).users.rows, P row := by
  unfold updateUser
  cases hlookup : s.users.lookup userId with
  | none => exact h
  | some old =>
    intro row hrow
    rcases Table.mem_upsert_iff.mp hrow with rfl | ⟨hmem, _⟩
    · exact hchange old (Table.mem_of_lookup hlookup) (Table.key_of_lookup hlookup)
    · exact h row hmem

section Runs

variable {ι : Type}

/-- Requests on one repository. -/
abbrev SecretPool (ι : Type) : Type :=
  Pool ι SecretState SecretOp.Ret (Except SecretError (Option TOTPSecret))

/-- The repository before the first step of its requests. -/
def beforeRequests (aes : AesGcm) (s : SecretState) (requests : ι → SecretRequest) :
    SecretPool ι :=
  Pool.start s fun i => (requests i).program aes

variable (transit : TransitKey) (aes : AesGcm) (before : AccountState)
  (requests : ι → SecretRequest)

/-- The column of the user has held the text before the requests, or the text stands for a secret
that one of them sets for the user. -/
def Originates (userId : UUID) (text : String) : Prop :=
  (∃ row ∈ before.users.rows, row.id = userId ∧ row.totpSecret = some text) ∨
    ∃ i secret, requests i = .set_totp_secret userId secret ∧ Stands transit aes text secret

/-- The column of the row is one of its own user. -/
def Traced (row : UserRow) : Prop :=
  ∀ text, row.totpSecret = some text → Originates transit aes before requests row.id text

/-- A read answers what the column of its own user stands for. -/
def ReadsOwnSecret (userId : UUID) (last : SecretStage)
    (outcome : Except SecretError (Option TOTPSecret)) : Prop :=
  ∃ found, last.found = some found ∧ AnswersColumn transit aes found last outcome ∧
    ∀ text, storedSecret found = some text → Originates transit aes before requests userId text

variable [DecidableEq ι]

/-- How far a request of the pool has come. -/
def secretStage (pool : SecretPool ι) (i : ι) : SecretStage :=
  pool.stage (secretStages transit aes (requests i)) i

/-- What holds of the table and of the reads. -/
structure SecretsKept (pool : SecretPool ι) : Prop where
  stored : ∀ row ∈ pool.state.accounts.users.rows, Traced transit aes before requests row
  answered : ∀ i userId outcome, requests i = .get_totp_secret userId →
    pool.rest i = .done outcome →
      ReadsOwnSecret transit aes before requests userId
        (secretStage transit aes requests pool i) outcome

/-- What the steps of the requests keep. -/
structure SecretsTraced (pool : SecretPool ι) : Prop where
  stored : ∀ row ∈ pool.state.accounts.users.rows, Traced transit aes before requests row
  found : ∀ i row, (secretStage transit aes requests pool i).found = some (some row) →
    row.id = (requests i).userId ∧ Traced transit aes before requests row

variable {transit aes before requests} {config : VaultConfig} {pool : SecretPool ι} {i : ι}
  {stage : SecretStage}

omit [DecidableEq ι] in
/-- A statement that a request may perform keeps every column one of its user. -/
theorem traced_of_apply {s s' : AccountState} {statement : AccountStatement}
    (hstored : ∀ row ∈ s.users.rows, Traced transit aes before requests row)
    (hfound : ∀ row, stage.found = some (some row) →
      row.id = (requests i).userId ∧ Traced transit aes before requests row)
    (hpermits : PermitsStatement transit aes (requests i) stage statement)
    (happly : s.apply statement = .ok s') :
    ∀ row ∈ s'.users.rows, Traced transit aes before requests row := by
  cases statement with
  | saveUser saved =>
    obtain ⟨hid, stored, hstage, hcolumn⟩ := hpermits
    simp only [AccountState.apply] at happly
    split at happly
    · cases happly
    split at happly
    · cases happly
    split at happly
    · cases happly
    cases happly
    intro row hrow
    rcases Table.mem_upsert_iff.mp hrow with rfl | ⟨hmem, _⟩
    · intro text htext
      rw [hcolumn] at htext
      obtain ⟨old, rfl, hold⟩ := Option.bind_eq_some_iff.mp htext
      obtain ⟨holdId, htraced⟩ := hfound old hstage
      rw [hid, ← holdId]
      exact htraced text hold
    · exact hstored row hmem
  | rememberPasswordHash userId passwordHash =>
    cases happly
    exact hstored
  | setTotpSecret userId totpSecret =>
    obtain ⟨secret, hrequest, hstands⟩ := hpermits
    cases happly
    apply AccountState.forall_updateUser hstored
    rintro old _ rfl text htext
    cases htext
    exact .inr ⟨i, secret, hrequest, hstands⟩
  | clearTotpSecret userId =>
    cases happly
    apply AccountState.forall_updateUser hstored
    intro old _ _ text htext
    cases htext
  | updateIsActive userId isActive =>
    cases happly
    exact AccountState.forall_updateUser hstored fun old hold _ => hstored old hold

/-- A step either leaves the users as they are, or it performs a statement. -/
theorem users_exec (config : VaultConfig) (choice : SecretChoice transit) (op : SecretOp)
    (s : SecretState) :
    (SecretState.exec transit config choice op s).2.accounts = s.accounts ∨
      ∃ statement, op = .apply statement ∧
        s.accounts.apply statement =
          .ok (SecretState.exec transit config choice op s).2.accounts := by
  cases op with
  | vault op => exact .inl rfl
  | tokenBytes n => exact .inl rfl
  | getUser userId => exact .inl rfl
  | apply statement =>
    simp only [SecretState.exec]
    cases happly : s.accounts.apply statement with
    | ok accounts => exact .inr ⟨statement, rfl, happly⟩
    | error error => exact .inl rfl

/-- The row that a step finds is the stored one of its user. -/
theorem found_exec {choice : SecretChoice transit} {op : SecretOp} {s : SecretState} {row : UserRow}
    (h : (stage.advance ⟨op, (SecretState.exec transit config choice op s).1⟩).found =
      some (some row)) :
    stage.found = some (some row) ∨
      ∃ userId, op = .getUser userId ∧ row ∈ s.accounts.users.rows ∧ row.id = userId := by
  cases op with
  | vault op => exact .inl h
  | tokenBytes n => exact .inl h
  | getUser userId =>
    have hlookup : s.accounts.users.lookup userId = some row := Option.some_inj.mp h
    exact .inr ⟨userId, rfl, Table.mem_of_lookup hlookup, Table.key_of_lookup hlookup⟩
  | apply statement => exact .inl h

/-- The answers of a step are possible ones. -/
theorem possible_secretExec (aes : AesGcm) (config : VaultConfig) (choice : SecretChoice transit)
    (op : SecretOp) (s : SecretState) (request : SecretRequest) :
    (secretStages transit aes request).possible
      ⟨op, (SecretState.exec transit config choice op s).1⟩ := by
  cases op with
  | vault op =>
    cases op with
    | request grant body =>
      have hhonest := choice.honest body
      change (secretStages transit aes request).possible
        ⟨.vault (.request grant body), _request (choice.vault.reply body)⟩
      cases hreply : _request (choice.vault.reply body) with
      | ok response => exact hhonest response hreply
      | error error => trivial
    | getToken => trivial
    | clearToken => trivial
    | refreshToken => trivial
  | tokenBytes n => trivial
  | getUser userId =>
    change (secretStages transit aes request).possible
      ⟨.getUser userId, s.accounts.users.lookup userId⟩
    cases hlookup : s.accounts.users.lookup userId with
    | none => trivial
    | some row => exact Table.key_of_lookup hlookup
  | apply statement => trivial

/-- A step keeps every column one of its user. -/
theorem keeps_secretsTraced :
    Pool.Keeps (SecretState.exec transit config)
      (fun i => (secretStages transit aes (requests i)).contract)
      (fun i log outcome => SecretFinished transit aes (requests i)
        ((secretStages transit aes (requests i)).stage log) outcome)
      (fun _ _ => True) (SecretsTraced transit aes before requests) := by
  intro pool i choice op next _ htraced _ hrest hallowed
  have hpermits : (secretStages transit aes (requests i)).permits
      (secretStage transit aes requests pool i) op := hallowed
  have hstate : (pool.step (SecretState.exec transit config) (i, choice)).state =
      (SecretState.exec transit config choice op pool.state).2 := by
    rw [Pool.step_of_call hrest]
  have hself : secretStage transit aes requests
      (pool.step (SecretState.exec transit config) (i, choice)) i =
        (secretStage transit aes requests pool i).advance
          ⟨op, (SecretState.exec transit config choice op pool.state).1⟩ :=
    Pool.stage_step_self hrest
  constructor
  · rw [hstate]
    rcases users_exec config choice op pool.state with hsame | ⟨statement, rfl, happly⟩
    · rw [hsame]
      exact htraced.stored
    · exact traced_of_apply htraced.stored (htraced.found i) hpermits happly
  · intro j row hrow
    by_cases hij : i = j
    · subst hij
      rw [hself] at hrow
      rcases found_exec hrow with hold | ⟨userId, rfl, hmem, hid⟩
      · exact htraced.found i row hold
      · have huser : userId = (requests i).userId := hpermits
        exact ⟨hid.trans huser, htraced.stored row hmem⟩
    · have hother : secretStage transit aes requests
          (pool.step (SecretState.exec transit config) (i, choice)) j =
            secretStage transit aes requests pool j :=
        Pool.stage_step_other hij
      rw [hother] at hrow
      exact htraced.found j row hrow

/-- In every run of requests that store, clear, read and save, every column of a user holds what it
held before or stands for a secret that has been set for this user, and a read answers the secret
that such a column of its user stands for, or nothing when there is none or the key provider has
failed. -/
theorem secrets_kept_run (transit : TransitKey) (aes : AesGcm) (config : VaultConfig)
    (s : SecretState) (requests : ι → SecretRequest) (schedule : List (ι × SecretChoice transit)) :
    SecretsKept transit aes s.accounts requests
      ((beforeRequests aes s requests).run (SecretState.exec transit config) schedule) := by
  have hstart : SecretsTraced transit aes s.accounts requests (beforeRequests aes s requests) := by
    constructor
    · intro row hrow text htext
      exact .inl ⟨row, hrow, rfl, htext⟩
    · intro i row hrow
      cases hrow
  have hschedule : Pool.Always (SecretState.exec transit config) (fun _ _ => True)
      (beforeRequests aes s requests) schedule := Pool.always_of_forall fun _ _ => trivial
  obtain ⟨hend, htraced⟩ := keeps_secretsTraced.run
    (fun i choice op state => possible_secretExec aes config choice op state (requests i))
    (Pool.disciplined_start fun i => (requests i).program_takes) hstart hschedule
  constructor
  · exact htraced.stored
  · intro i userId outcome hrequest hdone
    obtain ⟨found, hfound, hanswers⟩ := hend.post_done hdone userId hrequest
    refine ⟨found, hfound, hanswers, fun text htext => ?_⟩
    -- The column is that of the row which the read has found.
    obtain ⟨row, rfl, hcolumn⟩ := Option.bind_eq_some_iff.mp htext
    obtain ⟨hid, horigin⟩ := htraced.found i row hfound
    have huser : row.id = userId := hid.trans (by rw [hrequest]; rfl)
    rw [← huser]
    apply horigin
    split at hcolumn
    · exact (Option.filter_eq_some_iff.mp hcolumn).1
    · cases hcolumn

end Runs

/-- A cipher that only adds a tag. -/
def taggingCipher : AesGcm where
  encrypt _ _ data := data ++ List.replicate 16 0
  decrypt _ _ data := some (allButLast 16 data)
  length_encrypt := by
    intro key nonce data
    simp
  decrypt_encrypt := by
    intro key nonce data _ _
    simp [allButLast]

/-- No key has wrapped anything yet, and the Vault does not answer. -/
def unreachableVault : SecretChoice fun _ => none where
  vault :=
    { waited := 1, travelled := 0, returned := 0, login := .unreachable
      reply := fun _ => .unreachable }
  random n := ⟨List.replicate n 0, List.length_replicate⟩
  honest := by
    intro body response h
    cases h

/-- An account whose secret an older version has stored. -/
def legacyAccounts : AccountState :=
  { sampleAccounts with
    users := Table.empty.upsert
      { sampleRow with twoFactorEnabled := true, totpSecret := some "ABCDEFGHIJKLMNOP" } }

theorem secrets_kept_run_sample :
    SecretsKept (fun _ => none) taggingCipher legacyAccounts (fun _ => .get_totp_secret 1)
      ((beforeRequests taggingCipher ⟨newProvider 0, legacyAccounts⟩ fun _ : Unit =>
        .get_totp_secret 1).run (SecretState.exec (fun _ => none) ⟨0⟩) [((), unreachableVault)]) :=
  secrets_kept_run (fun _ => none) taggingCipher ⟨0⟩ ⟨newProvider 0, legacyAccounts⟩
    (fun _ => .get_totp_secret 1) [((), unreachableVault)]

end Linkapro.Identity
