import Mathlib.Data.Bool.AllAny
import Linkapro.Lib.Base64
import Linkapro.Lib.Expiring
import Linkapro.Shared

/-!
# Identity: signed OAuth states

The state parameter of the provider login: a Base64 payload with the signup role, the
expiry and a nonce, a dot and the signature of the payload. The check of a presented
state reads attacker-controlled texts. It compares the signature, the payload and the
cookie in turn, and `compare_digest` raises on a text beyond ASCII.
-/

namespace Linkapro.Identity

open Lib

/-- `ALLOWED_OAUTH_SIGNUP_ROLES`. -/
inductive SignupRole : Type where
  | planner
  | vendor
deriving DecidableEq

/-- The text of a signup role. -/
def SignupRole.value : SignupRole → String
  | .planner => "planner"
  | .vendor => "vendor"

/-- The signup role of a normalised text, if it is allowed. -/
def SignupRole.ofText? (text : String) : Option SignupRole :=
  if text = "planner" then some .planner else if text = "vendor" then some .vendor else none

/-- `_STATE_TTL_SECONDS`. -/
def stateTtlSeconds : ℕ := 600

/-- The microseconds of `n` seconds. -/
def microseconds (n : ℕ) : ℕ := n * 1000000

/-- `int(time.time())` at an instant in microseconds since the epoch. -/
def intTime (now : ℕ) : ℕ := now / 1000000

/-- The 32 random bytes of a nonce. -/
abbrev NonceBytes : Type := { bytes : List ℕ // bytes.length = 32 ∧ ∀ byte ∈ bytes, byte < 256 }

/-- `secrets.token_urlsafe(32)` with these random bytes. -/
def tokenUrlsafe (bytes : NonceBytes) : String := String.ofList (Base64.body bytes.val)

/-- The payload of an issued state. -/
structure StatePayload where
  role : SignupRole
  exp : ℕ
  nonce : NonceBytes
deriving DecidableEq

/-- `json.dumps(payload, separators=(",", ":"))`. Neither a role nor a nonce has a character
that is escaped. -/
def StatePayload.dumps (payload : StatePayload) : String :=
  "\x7b\"role\":\"" ++ payload.role.value ++ "\",\"exp\":" ++ toString payload.exp ++
    ",\"nonce\":\"" ++ tokenUrlsafe payload.nonce ++ "\"\x7d"

/-- `text.encode("utf-8")`. -/
def utf8 (text : String) : List ℕ := (text.toList.flatMap String.utf8EncodeChar).map UInt8.toNat

/-- A field of a decoded payload, as far as the check tells values apart. A `bool` is an
`int`. -/
inductive StateField : Type where
  | text (value : String)
  | int (value : ℤ)
  | other (truthy : Bool)
deriving DecidableEq

/-- What `json.loads` makes of bytes: it refuses them with a `ValueError`, exhausts the stack
on deep nesting, or returns a dictionary or another value. -/
inductive JsonReading : Type where
  | refused
  | exhausted
  | dict (fields : List (String × StateField))
  | other (truthy : Bool)
deriving DecidableEq

/-- The keyed digest and the JSON reader of the states. -/
structure StateCodec where
  /-- `hmac.new(key, text.encode("utf-8"), hashlib.sha256).hexdigest()`. -/
  hexdigest : String → String
  /-- `json.loads(raw.decode("utf-8"))`. -/
  loads : List ℕ → JsonReading
  /-- A digest is hexadecimal. -/
  hexdigest_digits : ∀ text, ∀ c ∈ (hexdigest text).toList, c ∈ "0123456789abcdef".toList
  /-- A dumped payload is read back. -/
  loads_dumps : ∀ payload : StatePayload, loads (utf8 payload.dumps) =
    .dict [("role", .text payload.role.value), ("exp", .int payload.exp),
      ("nonce", .text (tokenUrlsafe payload.nonce))]

/-- `OAuthStateChallenge`. -/
structure OAuthStateChallenge where
  state : String
  nonce : String
  maxAge : ℕ := stateTtlSeconds

/-- `OAuthStateResult`. -/
structure OAuthStateResult where
  role : String
  nonce : String
deriving DecidableEq

/-- `text.rsplit(".", 1)`, with `none` for a text without a dot. -/
def rsplitDot (text : String) : Option (String × String) :=
  let reversed := text.toList.reverse
  if '.' ∈ reversed then
    some (String.ofList (reversed.dropWhile (· ≠ '.')).tail.reverse,
      String.ofList (reversed.takeWhile (· ≠ '.')).reverse)
  else none

/-- `base64.urlsafe_b64decode(text)`, with `none` for a `ValueError`. -/
def urlsafeB64decode (text : String) : Option (List ℕ) :=
  if isAscii text then Base64.decode text.toList else none

variable (codec : StateCodec)

/-- The payload part of a state. -/
def encodedPayload (payload : StatePayload) : String :=
  String.ofList ((Base64.encode (utf8 payload.dumps)).rdropWhile (· = '='))

/-- `_encode_signed_payload`. -/
def encodeSignedPayload (payload : StatePayload) : String :=
  let payloadB64 := encodedPayload payload
  payloadB64 ++ "." ++ codec.hexdigest payloadB64

/-- The payload that a payload part stands for. -/
def readPayload (payloadB64 : String) : JsonReading :=
  let padding := String.ofList (Base64.padding payloadB64.toList.length)
  match urlsafeB64decode (payloadB64 ++ padding) with
  | none => .refused
  | some raw => codec.loads raw

/-- `_decode_signed_payload`, with `none` where `compare_digest` raises. -/
def decodeSignedPayload (state : String) : Option JsonReading :=
  match rsplitDot state with
  | none => some .refused
  | some (payloadB64, signature) =>
    match compareDigest (codec.hexdigest payloadB64) signature with
    | none => none
    | some false => some .refused
    | some true => some (readPayload codec payloadB64)

/-- `_cache_key`. -/
def stateKey (nonce : String) : String := "oauth_state_nonce:" ++ codec.hexdigest nonce

/-- `(payload.get(name) or "").strip()`, with `none` where a value has no such method. -/
def strippedField (fields : List (String × StateField)) (name : String) : Option String :=
  match fields.lookup name with
  | none => some ""
  | some (.text value) => some (strip value)
  | some (.int value) => if value = 0 then some "" else none
  | some (.other truthy) => if truthy then none else some ""

/-- The check of the expiry: it is an `int` that does not lie in the past. -/
def isLiveExp (fields : List (String × StateField)) (now : ℕ) : Bool :=
  match fields.lookup "exp" with
  | some (.int exp) => intTime now ≤ exp
  | _ => false

/-- What the part of `consume_oauth_state` before its cache calls makes of its arguments: it
refuses, raises or looks a nonce up. -/
inductive StateCheck : Type where
  | refused
  | raised
  | lookUp (role nonce : String)
deriving DecidableEq

/-- The check of a decoded payload. -/
def checkPayload (cookieNonce : String) (now : ℕ) : JsonReading → StateCheck
  | .refused => .refused
  | .exhausted => .raised
  | .other truthy => if truthy then .raised else .refused
  | .dict fields =>
    if fields = [] then .refused
    else match strippedField fields "role", strippedField fields "nonce" with
      | some role, some nonce =>
        if SignupRole.ofText? (lower role) = none then .refused
        else if isLiveExp fields now = false then .refused
        else if nonce = "" then .refused
        else match compareDigest nonce cookieNonce with
          | none => .raised
          | some false => .refused
          | some true => .lookUp (lower role) nonce
      | _, _ => .raised

/-- `consume_oauth_state` before its cache calls. -/
def checkState (state cookieNonce : Option String) (now : ℕ) : StateCheck :=
  match nonEmpty state, nonEmpty cookieNonce with
  | some state, some cookieNonce =>
    match decodeSignedPayload codec state with
    | none => .raised
    | some reading => checkPayload cookieNonce now reading
  | _, _ => .refused

/-! ### Texts that are compared without an error -/

/-- The comparison of a decoded payload with a cookie cannot fail: the payload is one that the
reader refuses, one that counts as missing, or a dictionary with texts, and where the nonce is
compared both texts are ASCII. -/
def PayloadComparable (cookieNonce : String) (now : ℕ) : JsonReading → Prop
  | .refused => True
  | .exhausted => False
  | .other truthy => truthy = false
  | .dict fields => fields = [] ∨
    ∃ role ∈ strippedField fields "role", ∃ nonce ∈ strippedField fields "nonce",
      SignupRole.ofText? (lower role) ≠ none → isLiveExp fields now = true → nonce ≠ "" →
        isAscii nonce = true ∧ isAscii cookieNonce = true

instance (cookieNonce : String) (now : ℕ) (reading : JsonReading) :
    Decidable (PayloadComparable cookieNonce now reading) := by
  unfold PayloadComparable
  split
  all_goals infer_instance

/-- The comparisons of a state and a cookie cannot fail: the part after the last dot is ASCII,
and if it signs the part before it, that payload can be compared with the cookie. -/
def Comparable (state cookieNonce : Option String) (now : ℕ) : Prop :=
  ∀ text ∈ nonEmpty state, ∀ nonce ∈ nonEmpty cookieNonce, ∀ parts ∈ rsplitDot text,
    isAscii parts.2 = true ∧ (codec.hexdigest parts.1 = parts.2 →
      PayloadComparable nonce now (readPayload codec parts.1))

instance (state cookieNonce : Option String) (now : ℕ) :
    Decidable (Comparable codec state cookieNonce now) :=
  inferInstanceAs (Decidable (∀ _ ∈ _, ∀ _ ∈ _, ∀ _ ∈ _, _))

variable {codec}

/-- A digest is ASCII. -/
theorem isAscii_hexdigest {text : String} : isAscii (codec.hexdigest text) = true := by
  unfold isAscii
  rw [List.all_eq_true]
  intro c hc
  have hall : ∀ c ∈ "0123456789abcdef".toList, c.toNat < 128 :=
    List.all_iff_forall_prop.mp (by decide)
  exact decide_eq_true (hall c (codec.hexdigest_digits text c hc))

/-- A digest has no dot. -/
theorem dot_notMem_hexdigest {text : String} : '.' ∉ (codec.hexdigest text).toList :=
  fun hmem => absurd (codec.hexdigest_digits text _ hmem) (by decide)

/-- The check of a payload raises exactly where its comparison can fail. -/
theorem checkPayload_ne_raised_iff {cookieNonce : String} {now : ℕ} {reading : JsonReading} :
    checkPayload cookieNonce now reading ≠ .raised ↔ PayloadComparable cookieNonce now reading := by
  cases reading with
  | refused => exact ⟨fun _ => trivial, fun _ => nofun⟩
  | exhausted => exact ⟨fun h => h rfl, False.elim⟩
  | other truthy =>
    cases truthy with
    | true => exact ⟨fun h => absurd rfl h, nofun⟩
    | false => exact ⟨fun _ => rfl, fun _ => nofun⟩
  | dict fields =>
    unfold checkPayload PayloadComparable
    dsimp only
    by_cases hfields : fields = []
    · simp [hfields]
    rw [if_neg hfields]
    cases strippedField fields "role" with
    | none => simp [hfields]
    | some role =>
      cases strippedField fields "nonce" with
      | none => simp [hfields]
      | some nonce =>
        simp only [hfields, Option.mem_some_iff, exists_eq_left', false_or]
        by_cases hrole : SignupRole.ofText? (lower role) = none
        · simp [hrole]
        by_cases hexp : isLiveExp fields now = false
        · simp [hexp]
        by_cases hnonce : nonce = ""
        · simp [hnonce]
        rw [if_neg hrole, if_neg hexp, if_neg hnonce]
        simp only [ne_eq, hrole, hnonce, Bool.not_eq_false] at hexp ⊢
        simp only [hexp, not_false_eq_true, forall_const]
        by_cases hascii : isAscii nonce = true ∧ isAscii cookieNonce = true
        · rw [compareDigest_of_ascii hascii.1 hascii.2]
          cases decide (nonce = cookieNonce) <;> simp [hascii]
        · have hcompare : compareDigest nonce cookieNonce = none := if_neg hascii
          rw [hcompare]
          exact ⟨fun h => absurd rfl h, fun h => absurd h hascii⟩

/-- The check of a state and a cookie raises exactly where their comparison can fail. -/
theorem checkState_ne_raised_iff {state cookieNonce : Option String} {now : ℕ} :
    checkState codec state cookieNonce now ≠ .raised ↔ Comparable codec state cookieNonce now := by
  unfold checkState Comparable
  cases nonEmpty state with
  | none => simp
  | some state =>
    cases nonEmpty cookieNonce with
    | none => simp
    | some cookieNonce =>
      simp only [Option.mem_some_iff, forall_eq']
      unfold decodeSignedPayload
      cases rsplitDot state with
      | none => simp [checkPayload]
      | some parts =>
        obtain ⟨payloadB64, signature⟩ := parts
        simp only [Option.mem_some_iff, forall_eq']
        cases hascii : isAscii signature with
        | false => simp [compareDigest_of_not_ascii hascii]
        | true =>
          rw [compareDigest_of_ascii isAscii_hexdigest hascii]
          by_cases heq : codec.hexdigest payloadB64 = signature
          · simp [heq, checkPayload_ne_raised_iff]
          · simp [heq, checkPayload]

/-! ### What is issued is read back -/

/-- A text without a dot is split off after the last dot. -/
theorem rsplitDot_append {first last : String} (h : '.' ∉ last.toList) :
    rsplitDot (first ++ "." ++ last) = some (first, last) := by
  have hreverse : (first ++ "." ++ last).toList.reverse =
      last.toList.reverse ++ '.' :: first.toList.reverse := by
    simp [String.toList_append]
  have hplain : ∀ c ∈ last.toList.reverse, decide (c ≠ '.') = true := by
    intro c hc
    rw [decide_eq_true_eq]
    rintro rfl
    exact h (List.mem_reverse.mp hc)
  unfold rsplitDot
  dsimp only
  rw [hreverse, if_pos (by simp), List.dropWhile_append_of_pos hplain,
    List.takeWhile_append_of_pos hplain]
  simp

/-- The symbols of the alphabet are ASCII and no white space. -/
theorem alphabet_plain : ∀ c ∈ Base64.alphabet, c.toNat < 128 ∧ isSpace c = false :=
  List.all_iff_forall_prop.mp (by decide +kernel)

/-- The nonce is an ASCII text. -/
theorem isAscii_tokenUrlsafe {bytes : NonceBytes} : isAscii (tokenUrlsafe bytes) = true := by
  unfold isAscii tokenUrlsafe
  rw [String.toList_ofList, List.all_eq_true]
  exact fun c hc => decide_eq_true (alphabet_plain c (Base64.mem_alphabet_of_mem_body hc)).1

/-- The nonce is stripped already. -/
theorem strip_tokenUrlsafe {bytes : NonceBytes} :
    strip (tokenUrlsafe bytes) = tokenUrlsafe bytes := by
  refine strip_eq_self fun c hc => ?_
  unfold tokenUrlsafe at hc
  rw [String.toList_ofList] at hc
  exact (alphabet_plain c (Base64.mem_alphabet_of_mem_body hc)).2

/-- The nonce is not empty. -/
theorem tokenUrlsafe_ne_empty {bytes : NonceBytes} : tokenUrlsafe bytes ≠ "" := by
  obtain ⟨bytes, hlength, -⟩ := bytes
  intro hempty
  have hbody : Base64.body bytes = [] := String.ofList_injective hempty
  match bytes with
  | [] => cases hlength
  | [_] => cases hbody
  | [_, _] => cases hbody
  | _ :: _ :: _ :: _ => cases hbody

/-- A payload is read back from its part of the state. -/
theorem readPayload_encodedPayload {payload : StatePayload} :
    readPayload codec (encodedPayload payload) = codec.loads (utf8 payload.dumps) := by
  have hbody : encodedPayload payload = String.ofList (Base64.body (utf8 payload.dumps)) :=
    congrArg String.ofList Base64.rdropWhile_encode
  have htext : encodedPayload payload ++
      String.ofList (Base64.padding (encodedPayload payload).toList.length) =
        String.ofList (Base64.encode (utf8 payload.dumps)) := by
    rw [hbody, String.toList_ofList, ← String.ofList_append]
    rfl
  have hascii : isAscii (String.ofList (Base64.encode (utf8 payload.dumps))) = true := by
    unfold isAscii
    rw [String.toList_ofList, List.all_eq_true]
    intro c hc
    rcases List.mem_append.mp hc with hc | hc
    · exact decide_eq_true (alphabet_plain c (Base64.mem_alphabet_of_mem_body hc)).1
    · rw [List.eq_of_mem_replicate hc]
      decide
  have hbytes : ∀ byte ∈ utf8 payload.dumps, byte < 256 := by
    intro byte hmem
    obtain ⟨byte', -, rfl⟩ := List.mem_map.mp hmem
    exact byte'.toNat_lt
  unfold readPayload urlsafeB64decode
  dsimp only
  rw [htext, if_pos hascii, String.toList_ofList, Base64.decode_encode hbytes]

/-- An issued state is decoded to its payload. -/
theorem decodeSignedPayload_encode {payload : StatePayload} :
    decodeSignedPayload codec (encodeSignedPayload codec payload) =
      some (codec.loads (utf8 payload.dumps)) := by
  unfold decodeSignedPayload encodeSignedPayload
  dsimp only
  rw [rsplitDot_append dot_notMem_hexdigest]
  dsimp only
  rw [compareDigest_of_ascii isAscii_hexdigest isAscii_hexdigest, decide_eq_true rfl]
  dsimp only
  rw [readPayload_encodedPayload]

/-- The text of a role is normalised already. -/
theorem normalised_value (role : SignupRole) :
    strip role.value = role.value ∧ lower role.value = role.value ∧
      SignupRole.ofText? role.value = some role := by
  cases role <;> decide +kernel

/-- The check of an issued payload is that of its expiry and of the cookie. -/
theorem checkPayload_issued {payload : StatePayload} {cookieNonce : String} {now : ℕ} :
    checkPayload cookieNonce now (codec.loads (utf8 payload.dumps)) =
      if intTime now ≤ payload.exp then
        match compareDigest (tokenUrlsafe payload.nonce) cookieNonce with
        | none => .raised
        | some false => .refused
        | some true => .lookUp payload.role.value (tokenUrlsafe payload.nonce)
      else .refused := by
  obtain ⟨hstrip, hlower, hrole⟩ := normalised_value payload.role
  rw [codec.loads_dumps]
  unfold checkPayload
  dsimp only
  rw [if_neg nofun]
  have hroleField : strippedField [("role", .text payload.role.value), ("exp", .int payload.exp),
      ("nonce", .text (tokenUrlsafe payload.nonce))] "role" = some payload.role.value :=
    congrArg some hstrip
  have hnonceField : strippedField [("role", .text payload.role.value), ("exp", .int payload.exp),
      ("nonce", .text (tokenUrlsafe payload.nonce))] "nonce" = some (tokenUrlsafe payload.nonce) :=
    congrArg some strip_tokenUrlsafe
  have hexpField : isLiveExp [("role", .text payload.role.value), ("exp", .int payload.exp),
      ("nonce", .text (tokenUrlsafe payload.nonce))] now = decide (intTime now ≤ payload.exp) :=
    decide_eq_decide.mpr Int.ofNat_le
  rw [hroleField, hnonceField, hexpField]
  dsimp only
  rw [hlower, if_neg (hrole ▸ nofun), if_neg tokenUrlsafe_ne_empty]
  by_cases hexp : intTime now ≤ payload.exp
  · simp [hexp]
  · simp [hexp]

/-- An issued state with its nonce is looked up until it expires. -/
theorem checkState_issued {payload : StatePayload} {now : ℕ} (hnow : intTime now ≤ payload.exp) :
    checkState codec (some (encodeSignedPayload codec payload))
      (some (tokenUrlsafe payload.nonce)) now =
        .lookUp payload.role.value (tokenUrlsafe payload.nonce) := by
  have hstate : nonEmpty (some (encodeSignedPayload codec payload)) =
      some (encodeSignedPayload codec payload) := by
    refine Option.filter_eq_some_iff.mpr ⟨rfl, decide_eq_true fun hempty => ?_⟩
    have hchars := congrArg String.toList hempty
    simp [encodeSignedPayload, String.toList_append] at hchars
  have hcookie : nonEmpty (some (tokenUrlsafe payload.nonce)) =
      some (tokenUrlsafe payload.nonce) :=
    Option.filter_eq_some_iff.mpr ⟨rfl, decide_eq_true tokenUrlsafe_ne_empty⟩
  unfold checkState
  rw [hstate, hcookie]
  dsimp only
  rw [decodeSignedPayload_encode]
  dsimp only
  rw [checkPayload_issued, if_pos hnow,
    compareDigest_of_ascii isAscii_tokenUrlsafe isAscii_tokenUrlsafe, decide_eq_true rfl]

/-- A payload that is looked up is a dictionary with this role and this nonce. -/
theorem fields_of_lookUp {cookieNonce role nonce : String} {now : ℕ} {reading : JsonReading}
    (h : checkPayload cookieNonce now reading = .lookUp role nonce) :
    ∃ fields, reading = .dict fields ∧ (strippedField fields "role").map lower = some role ∧
      strippedField fields "nonce" = some nonce := by
  unfold checkPayload at h
  split at h
  · cases h
  · cases h
  · split at h <;> cases h
  · next fields =>
    split at h
    · cases h
    split at h
    · next role' nonce' hrole hnonce =>
      split at h
      · cases h
      split at h
      · cases h
      split at h
      · cases h
      split at h
      · cases h
      · cases h
      · cases h
        exact ⟨fields, rfl, by rw [hrole]; rfl, hnonce⟩
    · cases h

/-- A state that is looked up is signed and decoded. -/
theorem reading_of_lookUp {state cookieNonce : Option String} {now : ℕ} {role nonce : String}
    (h : checkState codec state cookieNonce now = .lookUp role nonce) :
    ∃ text reading cookie, nonEmpty state = some text ∧
      decodeSignedPayload codec text = some reading ∧
        checkPayload cookie now reading = .lookUp role nonce := by
  unfold checkState at h
  split at h
  · next text cookie hstate _ =>
    split at h
    · cases h
    · next reading hreading => exact ⟨text, reading, cookie, hstate, hreading, h⟩
  · cases h

/-- What a state names does not depend on the cookie or the time. -/
theorem lookUp_unique {state cookieNonce cookieNonce' : Option String} {now now' : ℕ}
    {role nonce role' nonce' : String}
    (h : checkState codec state cookieNonce now = .lookUp role nonce)
    (h' : checkState codec state cookieNonce' now' = .lookUp role' nonce') :
    role = role' ∧ nonce = nonce' := by
  obtain ⟨text, reading, _, htext, hreading, hcheck⟩ := reading_of_lookUp h
  obtain ⟨text', reading', _, htext', hreading', hcheck'⟩ := reading_of_lookUp h'
  cases htext.symm.trans htext'
  cases hreading.symm.trans hreading'
  obtain ⟨fields, hfields, hrole, hnonce⟩ := fields_of_lookUp hcheck
  obtain ⟨fields', hfields', hrole', hnonce'⟩ := fields_of_lookUp hcheck'
  cases hfields.symm.trans hfields'
  exact ⟨Option.some.inj (hrole.symm.trans hrole'), Option.some.inj (hnonce.symm.trans hnonce')⟩

/-- An issued state names its role and its nonce. -/
theorem lookUp_issued {payload : StatePayload} {cookieNonce : Option String} {now : ℕ}
    {role nonce : String}
    (h : checkState codec (some (encodeSignedPayload codec payload)) cookieNonce now =
      .lookUp role nonce) :
    role = payload.role.value ∧ nonce = tokenUrlsafe payload.nonce := by
  have hissued : checkState codec (some (encodeSignedPayload codec payload))
      (some (tokenUrlsafe payload.nonce)) 0 = _ := checkState_issued (Nat.zero_le _)
  exact lookUp_unique h hissued

/-! ### A codec for concrete states -/

/-- Read a dumped payload by its quotation marks. Other texts are refused. -/
def readDumped (raw : List ℕ) : JsonReading :=
  match (raw.map Char.ofNat).splitOn '"' with
  | [_, _, _, role, _, _, number, _, _, nonce, _] =>
    .dict [("role", .text (String.ofList role)),
      ("exp", .int (Nat.ofDigitChars 10 (number.drop 1).dropLast 0)),
      ("nonce", .text (String.ofList nonce))]
  | _ => .refused

/-- ASCII texts are their bytes. -/
theorem map_ofNat_utf8 {text : String} (h : ∀ c ∈ text.toList, c.toNat < 128) :
    (utf8 text).map Char.ofNat = text.toList := by
  unfold utf8
  generalize text.toList = chars at h
  induction chars with
  | nil => rfl
  | cons c chars ih =>
    have hc : c.toNat < 128 := h c List.mem_cons_self
    have hval : c.val ≤ 0x7f := by
      rw [UInt32.le_iff_toNat_le]
      exact Nat.le_of_lt_succ hc
    have hbyte : c.val.toUInt8.toNat = c.toNat := by
      rw [UInt32.toNat_toUInt8]
      exact Nat.mod_eq_of_lt (hc.trans (by decide))
    rw [List.flatMap_cons, List.map_append, List.map_append,
      ih fun c hmem => h c (List.mem_cons_of_mem _ hmem),
      String.utf8EncodeChar_eq_singleton (Char.utf8Size_eq_one_iff.mpr hval)]
    have hchar : Char.ofNat c.val.toUInt8.toNat = c := by rw [hbyte, Char.ofNat_toNat]
    exact congrArg (· :: chars) hchar

/-- The texts between the quotation marks of a dumped payload. -/
def StatePayload.parts (payload : StatePayload) : List (List Char) :=
  ["\x7b".toList, "role".toList, ":".toList, payload.role.value.toList, ",".toList, "exp".toList,
    ':' :: Nat.toDigits 10 payload.exp ++ [','], "nonce".toList, ":".toList,
    Base64.body payload.nonce.val, "\x7d".toList]

theorem toList_dumps {payload : StatePayload} :
    payload.dumps.toList = ['"'].intercalate payload.parts := by
  simp [StatePayload.dumps, StatePayload.parts, String.toList_append, tokenUrlsafe,
    List.intercalate]

/-- A character of a dumped payload that is not a quotation mark. -/
def IsPlain (c : Char) : Prop := c.toNat < 128 ∧ c ≠ '"'

instance (c : Char) : Decidable (IsPlain c) := inferInstanceAs (Decidable (_ ∧ _))

/-- A text of plain characters. -/
theorem isPlain_of_all {text : List Char} (h : (text.all fun c => IsPlain c) = true) :
    ∀ c ∈ text, IsPlain c :=
  List.all_iff_forall_prop.mp h

/-- The parts of a dumped payload are ASCII and have no quotation mark. -/
theorem isPlain_of_mem_parts {payload : StatePayload} :
    ∀ part ∈ payload.parts, ∀ c ∈ part, IsPlain c := by
  have hrole : ∀ c ∈ payload.role.value.toList, IsPlain c := by
    cases payload.role <;> exact isPlain_of_all (by decide +kernel)
  have hnumber : ∀ c ∈ ':' :: Nat.toDigits 10 payload.exp ++ [','], IsPlain c := by
    intro c hc
    simp only [List.cons_append, List.mem_cons, List.mem_append, List.not_mem_nil, or_false] at hc
    rcases hc with rfl | hc | rfl
    · decide
    · have hdigit := Nat.isDigit_of_mem_toDigits (by decide) (by decide) hc
      simp only [Char.isDigit, Bool.and_eq_true, decide_eq_true_eq] at hdigit
      refine ⟨lt_of_le_of_lt (UInt32.le_iff_toNat_le.mp hdigit.2) (by decide), ?_⟩
      rintro rfl
      exact absurd hdigit.1 (by decide)
    · decide
  have hnonce : ∀ c ∈ Base64.body payload.nonce.val, IsPlain c := by
    have hall : ∀ c ∈ Base64.alphabet, IsPlain c := isPlain_of_all (by decide +kernel)
    exact fun c hc => hall c (Base64.mem_alphabet_of_mem_body hc)
  unfold StatePayload.parts
  simp only [List.forall_mem_cons]
  exact ⟨isPlain_of_all (by decide), isPlain_of_all (by decide), isPlain_of_all (by decide), hrole,
    isPlain_of_all (by decide), isPlain_of_all (by decide), hnumber, isPlain_of_all (by decide),
    isPlain_of_all (by decide), hnonce, isPlain_of_all (by decide), List.forall_mem_nil _⟩

/-- The characters of an intercalated text. -/
theorem mem_intercalate {separator c : Char} {parts : List (List Char)}
    (h : c ∈ [separator].intercalate parts) : c = separator ∨ ∃ part ∈ parts, c ∈ part := by
  induction parts with
  | nil => cases h
  | cons part parts ih =>
    cases parts with
    | nil => exact .inr ⟨part, List.mem_singleton_self _, by simpa using h⟩
    | cons next parts =>
      rw [List.intercalate_cons_cons, List.mem_append, List.mem_append, List.mem_singleton] at h
      rcases h with (h | rfl) | h
      · exact .inr ⟨part, List.mem_cons_self, h⟩
      · exact .inl rfl
      · exact (ih h).imp_right fun ⟨part', hpart', hc⟩ => ⟨part', List.mem_cons_of_mem _ hpart', hc⟩

/-- A dumped payload is read. -/
theorem readDumped_dumps {payload : StatePayload} :
    readDumped (utf8 payload.dumps) =
      .dict [("role", .text payload.role.value), ("exp", .int payload.exp),
        ("nonce", .text (tokenUrlsafe payload.nonce))] := by
  have hascii : ∀ c ∈ payload.dumps.toList, c.toNat < 128 := by
    intro c hc
    rw [toList_dumps] at hc
    rcases mem_intercalate hc with rfl | ⟨part, hpart, hc⟩
    · decide
    · exact (isPlain_of_mem_parts part hpart c hc).1
  have hsplit : payload.dumps.toList.splitOn '"' = payload.parts := by
    rw [toList_dumps]
    exact List.splitOn_intercalate '"'
      (fun part hpart hmem => (isPlain_of_mem_parts part hpart _ hmem).2 rfl) nofun
  unfold readDumped
  rw [map_ofNat_utf8 hascii, hsplit]
  unfold StatePayload.parts
  dsimp only
  rw [List.drop_one, List.cons_append, List.tail_cons, List.dropLast_concat,
    Nat.ofDigitChars_ten_toDigits, String.ofList_toList]
  rfl

end Linkapro.Identity
