import Linkapro.Identity.MfaStores
import Linkapro.Isoformat
import Linkapro.Payments.HmacRequests
import Linkapro.Uuids

/-!
# Identity: challenges as the cache stores them

A challenge, an enrollment and a list of recovery codes are cached as dictionaries of texts and
numbers. Each of them is read back with the fields that it was stored with. The lifetime of an
entry is a positive number of whole seconds, counted from the write.
-/

namespace Linkapro.Identity

open Lib

/-- A value of a cached dictionary. -/
inductive CacheValue : Type where
  | text (value : String)
  | int (value : ℤ)
  | none
deriving DecidableEq

namespace CacheValue

/-- `str(value)`. -/
def str : CacheValue → String
  | text value => value
  | int value => toString value
  | none => "None"

/-- `int(value)`. -/
def pythonInt : CacheValue → Option ℤ
  | text value => Payments.pythonInt value
  | int value => some value
  | none => Option.none

/-- `bool(value)`. -/
def isTruthy : CacheValue → Bool
  | text value => value ≠ ""
  | int value => value ≠ 0
  | none => false

/-- An optional instant, as it is stored. -/
def ofInstant : Option Datetime → CacheValue
  | some instant => text (isoformat instant)
  | Option.none => none

end CacheValue

/-- A cached dictionary. -/
abbrev CacheDict : Type := List (String × CacheValue)

/-- What the cache holds under a key: an object of an earlier version, a text, a dictionary, a list
of which some items are dictionaries, or anything else. -/
inductive Cached (α : Type) : Type where
  | object (value : α)
  | text (value : String)
  | dict (entries : CacheDict)
  | list (items : List (Option CacheDict))
  | other

namespace CacheDict

variable (entries : CacheDict) (key : String)

/-- `str(value[key])`. -/
def readText : Option String := (entries.lookup key).map CacheValue.str

/-- `uuid.UUID(str(value[key]))`. -/
def readUuid : Option UUID := (readText entries key).bind uuidOf

/-- `datetime.fromisoformat(str(value[key]))`. -/
def readInstant : Option Datetime := (readText entries key).bind fromisoformat

/-- `int(value.get(key, default))`. -/
def readInt (default : ℤ) : Option ℤ :=
  match entries.lookup key with
  | some value => value.pythonInt
  | none => some default

/-- `datetime.fromisoformat(str(value[key])) if value.get(key) else None`. -/
def readOptional : Option (Option Datetime) :=
  match entries.lookup key with
  | some value => if value.isTruthy then (fromisoformat value.str).map some else some none
  | none => some none

end CacheDict

section Mfa

/-- `MfaMethod.value`. -/
def MfaMethod.value : MfaMethod → String
  | .totp => "totp"
  | .recoveryCode => "recovery_code"

/-- `MfaMethod(text)`. -/
def MfaMethod.ofValue (text : String) : Option MfaMethod :=
  [MfaMethod.totp, .recoveryCode].find? fun method => method.value = text

/-- The constructor of `MfaChallenge`, with `none` for `ValueError`. -/
def MfaChallenge.of (id userId : UUID) (method : MfaMethod) (issuedAt expiresAt : Datetime)
    (maxAttempts attemptCount : ℤ) (consumedAt : Option Datetime) : Option MfaChallenge :=
  if hexpiry : issuedAt < expiresAt then
    if hattempts : 0 < maxAttempts then
      if attemptCount < 0 then none
      else
        some
          { id, userId, method, issuedAt, expiresAt
            maxAttempts := maxAttempts.toNat
            attemptCount := attemptCount.toNat
            consumedAt
            expires_after_issue := hexpiry
            maxAttempts_pos := Int.pos_iff_toNat_pos.mp hattempts }
    else none
  else none

/-- `_serialize_challenge` of the second factor. -/
def serializeMfaChallenge (challenge : MfaChallenge) : CacheDict :=
  [("id", .text (uuidText challenge.id)),
    ("user_id", .text (uuidText challenge.userId)),
    ("method", .text challenge.method.value),
    ("issued_at", .text (isoformat challenge.issuedAt)),
    ("expires_at", .text (isoformat challenge.expiresAt)),
    ("max_attempts", .int challenge.maxAttempts),
    ("attempt_count", .int challenge.attemptCount),
    ("consumed_at", .ofInstant challenge.consumedAt)]

/-- The challenge of a dictionary. -/
def readMfaChallenge (entries : CacheDict) : Option MfaChallenge := do
  let id ← entries.readUuid "id"
  let userId ← entries.readUuid "user_id"
  let method ← (entries.readText "method").bind MfaMethod.ofValue
  let issuedAt ← entries.readInstant "issued_at"
  let expiresAt ← entries.readInstant "expires_at"
  let maxAttempts ← (entries.lookup "max_attempts").bind CacheValue.pythonInt
  let attemptCount ← entries.readInt "attempt_count" 0
  let consumedAt ← entries.readOptional "consumed_at"
  MfaChallenge.of id userId method issuedAt expiresAt maxAttempts attemptCount consumedAt

/-- `_deserialize_challenge` of the second factor. -/
def deserializeMfaChallenge : Cached MfaChallenge → Option MfaChallenge
  | .object challenge => some challenge
  | .dict entries => readMfaChallenge entries
  | _ => none

/-- `_serialize_enrollment_state`. -/
def serializeEnrollment (state : MfaEnrollmentState) : CacheDict :=
  serializeMfaChallenge state.challenge ++ [("secret", .text state.secret)]

/-- `_deserialize_enrollment_state`. For a text, which is a secret stored by an earlier version, it
issues a challenge with a random id. -/
def deserializeEnrollment (userId newId : UUID) (now : Datetime) :
    Cached MfaEnrollmentState → Option MfaEnrollmentState
  | .object state => some state
  | .text secret => some { challenge := MfaChallenge.issue newId userId .totp now, secret }
  | .dict entries => do
    let secret ← entries.readText "secret"
    if secret = "" then none
    else
      let challenge ← readMfaChallenge entries
      some { challenge, secret }
  | _ => none

/-- An item of `_serialize_recovery_codes`. -/
def serializeRecoveryCode (recoveryCode : RecoveryCode) : CacheDict :=
  [("id", .text (uuidText recoveryCode.id)),
    ("code_hash", .text recoveryCode.codeHash),
    ("used_at", .ofInstant recoveryCode.usedAt)]

/-- `_serialize_recovery_codes`. -/
def serializeRecoveryCodes (recoveryCodes : List RecoveryCode) : Cached (List RecoveryCode) :=
  .list (recoveryCodes.map fun recoveryCode => some (serializeRecoveryCode recoveryCode))

/-- The recovery code of a dictionary. -/
def readRecoveryCode (entries : CacheDict) : Option RecoveryCode := do
  let id ← entries.readUuid "id"
  let codeHash ← entries.readText "code_hash"
  let usedAt ← entries.readOptional "used_at"
  if hblank : isBlank codeHash = false then
    some { id, codeHash, usedAt, codeHash_not_blank := hblank }
  else none

/-- `_deserialize_recovery_codes`. -/
def deserializeRecoveryCodes : Cached (List RecoveryCode) → List RecoveryCode
  | .list items => (items.mapM fun item : Option CacheDict => item.bind readRecoveryCode).getD []
  | _ => []

end Mfa

section Verification

/-- The events that a verification challenge holds until they are dispatched. -/
inductive ChallengeEvent : Type where
  | issued (userId challengeId : UUID) (purpose : VerificationPurpose)
      (expiresAt occurredAt : Datetime)
  | resent (userId challengeId : UUID) (purpose : VerificationPurpose)
      (resendAvailableAt occurredAt : Datetime)
  | ended (event : VerificationEvent) (occurredAt : Datetime)
deriving DecidableEq

/-- A `VerificationChallenge` with the events that it holds. -/
structure PendingChallenge where
  challenge : VerificationChallenge
  events : List ChallengeEvent
deriving DecidableEq

/-- `VerificationPurpose.value`. -/
def VerificationPurpose.value : VerificationPurpose → String
  | .email => "email"

/-- `VerificationPurpose(text)`. -/
def VerificationPurpose.ofValue (text : String) : Option VerificationPurpose :=
  [VerificationPurpose.email].find? fun purpose => purpose.value = text

/-- `_serialize_challenge` of a verification. -/
def serializeVerification (pending : PendingChallenge) : CacheDict :=
  [("id", .text (uuidText pending.challenge.id)),
    ("user_id", .text (uuidText pending.challenge.userId)),
    ("purpose", .text pending.challenge.purpose.value),
    ("code_digest", .text pending.challenge.codeDigest),
    ("issued_at", .text (isoformat pending.challenge.issuedAt)),
    ("expires_at", .text (isoformat pending.challenge.expiresAt)),
    ("resend_available_at", .text (isoformat pending.challenge.resendAvailableAt)),
    ("failed_attempts", .int pending.challenge.failedAttempts),
    ("max_attempts", .int pending.challenge.maxAttempts),
    ("succeeded_at", .ofInstant pending.challenge.succeededAt),
    ("expired_at", .ofInstant pending.challenge.expiredAt)]

/-- The challenge of a dictionary. No challenge counts attempts below zero. -/
def readVerification (entries : CacheDict) : Option PendingChallenge := do
  let id ← entries.readUuid "id"
  let userId ← entries.readUuid "user_id"
  let purpose ← (entries.readText "purpose").bind VerificationPurpose.ofValue
  let codeDigest ← entries.readText "code_digest"
  let issuedAt ← entries.readInstant "issued_at"
  let expiresAt ← entries.readInstant "expires_at"
  let resendAvailableAt ← entries.readInstant "resend_available_at"
  let failedAttempts ← (entries.readInt "failed_attempts" 0).bind Int.toNat?
  let maxAttempts ← (entries.readInt "max_attempts" 5).bind Int.toNat?
  let succeededAt ← entries.readOptional "succeeded_at"
  let expiredAt ← entries.readOptional "expired_at"
  let challenge : VerificationChallenge :=
    { id, userId, purpose, codeDigest, issuedAt, expiresAt, resendAvailableAt, failedAttempts
      maxAttempts, succeededAt, expiredAt }
  some { challenge, events := [] }

/-- `_deserialize_challenge` of a verification. -/
def deserializeVerification : Cached PendingChallenge → Option PendingChallenge
  | .object pending => some pending
  | .dict entries => readVerification entries
  | _ => none

end Verification

section Caches

/-- `DjangoMfaChallengeRepository.save`, with the instant that it reads and the one of the write. -/
def saveMfaChallenge (cache : ExpiringMap UUID (Cached MfaChallenge) Datetime)
    (challenge : MfaChallenge) (now written : Datetime) :
    ExpiringMap UUID (Cached MfaChallenge) Datetime :=
  cache.set challenge.id (.dict (serializeMfaChallenge challenge))
    (some (written + seconds (remainingSeconds challenge.expiresAt now)))

/-- `DjangoMfaChallengeRepository.get`. -/
def getMfaChallenge (cache : ExpiringMap UUID (Cached MfaChallenge) Datetime) (now : Datetime)
    (challengeId : UUID) : Option MfaChallenge :=
  (cache.get now challengeId).bind deserializeMfaChallenge

/-- `DjangoMfaEnrollmentStore.save`. -/
def saveEnrollment (cache : ExpiringMap UUID (Cached MfaEnrollmentState) Datetime)
    (state : MfaEnrollmentState) (ttl : ℤ) (written : Datetime) :
    ExpiringMap UUID (Cached MfaEnrollmentState) Datetime :=
  cache.set state.challenge.userId (.dict (serializeEnrollment state))
    (some (written + seconds ttl))

/-- `DjangoMfaEnrollmentStore.get`. -/
def getEnrollment (cache : ExpiringMap UUID (Cached MfaEnrollmentState) Datetime)
    (newId : UUID) (now : Datetime) (userId : UUID) : Option MfaEnrollmentState :=
  (cache.get now userId).bind (deserializeEnrollment userId newId now)

/-- `DjangoMfaRecoveryCodeRepository.save_for_user`. -/
def saveRecoveryCodes (cache : ExpiringMap UUID (Cached (List RecoveryCode)) Datetime)
    (userId : UUID) (recoveryCodes : List RecoveryCode) :
    ExpiringMap UUID (Cached (List RecoveryCode)) Datetime :=
  cache.set userId (serializeRecoveryCodes recoveryCodes) none

/-- `DjangoMfaRecoveryCodeRepository.get_for_user`. -/
def getRecoveryCodes (cache : ExpiringMap UUID (Cached (List RecoveryCode)) Datetime)
    (now : Datetime) (userId : UUID) : List RecoveryCode :=
  match cache.get now userId with
  | some value => deserializeRecoveryCodes value
  | none => []

/-- `DjangoVerificationChallengeRepository.save`. -/
def saveVerification (cache : ExpiringMap UUID (Cached PendingChallenge) Datetime)
    (pending : PendingChallenge) (now written : Datetime) :
    ExpiringMap UUID (Cached PendingChallenge) Datetime :=
  cache.set pending.challenge.id (.dict (serializeVerification pending))
    (some (written + seconds (remainingSeconds pending.challenge.expiresAt now)))

/-- `DjangoVerificationChallengeRepository.get`. -/
def getVerification (cache : ExpiringMap UUID (Cached PendingChallenge) Datetime) (now : Datetime)
    (challengeId : UUID) : Option PendingChallenge :=
  (cache.get now challengeId).bind deserializeVerification

/-- `challenge_ttl_seconds` of a policy. -/
def challengeTtlSeconds (challengeTtl : Timedelta) : ℤ := Int.tdiv challengeTtl (seconds 1)

end Caches

section Reachable

/-- The challenges of the second factor, as a policy issues them and as attempts leave them. -/
inductive MfaChallenge.Reachable : MfaChallenge → Prop where
  | issued {challenge : MfaChallenge} (hissued : IsDatetime challenge.issuedAt)
      (hexpires : IsDatetime challenge.expiresAt) (hattempts : challenge.attemptCount = 0)
      (hconsumed : challenge.consumedAt = none) : challenge.Reachable
  | verified {challenge : MfaChallenge} (h : challenge.Reachable) (accepted : Bool)
      {now : Datetime} (hnow : IsDatetime now) : (challenge.verify accepted now).challenge.Reachable

/-- The enrollments, as they are begun and as refused codes leave them. -/
inductive MfaEnrollmentState.Reachable : MfaEnrollmentState → Prop where
  | begun {state : MfaEnrollmentState} (hissued : IsDatetime state.challenge.issuedAt)
      (hexpires : IsDatetime state.challenge.expiresAt)
      (hattempts : state.challenge.attemptCount = 0) (hconsumed : state.challenge.consumedAt = none)
      (hsecret : state.secret ≠ "") : state.Reachable
  | refused {state : MfaEnrollmentState} (h : state.Reachable) (accepted : Bool) {now : Datetime}
      (hnow : IsDatetime now) :
      MfaEnrollmentState.Reachable
        { state with challenge := (state.challenge.verify accepted now).challenge }

/-- The recovery codes of a user, as they are generated and as they are used up. -/
inductive ReachableCodes : List RecoveryCode → Prop where
  | generated {recoveryCodes : List RecoveryCode}
      (hunused : ∀ recoveryCode ∈ recoveryCodes, recoveryCode.usedAt = none) :
      ReachableCodes recoveryCodes
  | consumed {recoveryCodes : List RecoveryCode} (h : ReachableCodes recoveryCodes)
      (presentedHash : String) {now : Datetime} (hnow : IsDatetime now) :
      ReachableCodes (consumeCode recoveryCodes presentedHash now).recoveryCodes

/-- The verification challenges, as a policy issues them and as attempts and resends leave them. -/
inductive PendingChallenge.Reachable : PendingChallenge → Prop where
  | issued {challenge : VerificationChallenge} (hissued : IsDatetime challenge.issuedAt)
      (hexpires : IsDatetime challenge.expiresAt)
      (hresend : IsDatetime challenge.resendAvailableAt) (hattempts : challenge.failedAttempts = 0)
      (hsucceeded : challenge.succeededAt = none) (hexpired : challenge.expiredAt = none) :
      PendingChallenge.Reachable
        { challenge
          events := [.issued challenge.userId challenge.id challenge.purpose challenge.expiresAt
            challenge.issuedAt] }
  | pulled {pending : PendingChallenge} (h : pending.Reachable) :
      PendingChallenge.Reachable { pending with events := [] }
  | refused {pending : PendingChallenge} (h : pending.Reachable) :
      PendingChallenge.Reachable
        { pending with
          challenge := { pending.challenge with
            failedAttempts := pending.challenge.failedAttempts + 1 } }
  | consumed {pending : PendingChallenge} (h : pending.Reachable) {now : Datetime}
      (hnow : IsDatetime now) :
      PendingChallenge.Reachable
        { challenge := (pending.challenge.consume now).challenge
          events := pending.events ++
            (pending.challenge.consume now).events.map fun event => .ended event now }
  | resent {pending : PendingChallenge} (h : pending.Reachable) {now cooldown : ℤ}
      (hresend : IsDatetime (now + cooldown)) :
      PendingChallenge.Reachable
        { challenge := { pending.challenge with resendAvailableAt := now + cooldown }
          events := pending.events ++
            [.resent pending.challenge.userId pending.challenge.id pending.challenge.purpose
              (now + cooldown) now] }

/-- The instants of a challenge are such that a `datetime` can hold. -/
structure MfaChallenge.Dated (challenge : MfaChallenge) : Prop where
  issuedAt : IsDatetime challenge.issuedAt
  expiresAt : IsDatetime challenge.expiresAt
  consumedAt : ∀ instant ∈ challenge.consumedAt, IsDatetime instant

/-- The instants of a verification challenge are such that a `datetime` can hold. -/
structure VerificationChallenge.Dated (challenge : VerificationChallenge) : Prop where
  issuedAt : IsDatetime challenge.issuedAt
  expiresAt : IsDatetime challenge.expiresAt
  resendAvailableAt : IsDatetime challenge.resendAvailableAt
  succeededAt : ∀ instant ∈ challenge.succeededAt, IsDatetime instant
  expiredAt : ∀ instant ∈ challenge.expiredAt, IsDatetime instant

theorem MfaChallenge.Dated.verify {challenge : MfaChallenge} (h : challenge.Dated)
    (accepted : Bool) {now : Datetime} (hnow : IsDatetime now) :
    (challenge.verify accepted now).challenge.Dated := by
  unfold MfaChallenge.verify
  split
  · exact h
  · split
    · exact { h with
        consumedAt := fun instant hinstant => by
          cases hinstant
          exact hnow }
    · exact ⟨h.issuedAt, h.expiresAt, h.consumedAt⟩

theorem MfaChallenge.Reachable.dated {challenge : MfaChallenge} (h : challenge.Reachable) :
    challenge.Dated := by
  induction h with
  | issued hissued hexpires _ hconsumed => exact ⟨hissued, hexpires, by simp [hconsumed]⟩
  | verified _ accepted hnow ih => exact ih.verify accepted hnow

theorem MfaEnrollmentState.Reachable.dated {state : MfaEnrollmentState} (h : state.Reachable) :
    state.challenge.Dated ∧ state.secret ≠ "" := by
  induction h with
  | begun hissued hexpires _ hconsumed hsecret =>
    exact ⟨⟨hissued, hexpires, by simp [hconsumed]⟩, hsecret⟩
  | refused _ accepted hnow ih => exact ⟨ih.1.verify accepted hnow, ih.2⟩

/-- A code that has been used was used at an instant that a `datetime` can hold. -/
theorem ReachableCodes.dated {recoveryCodes : List RecoveryCode}
    (h : ReachableCodes recoveryCodes) :
    ∀ recoveryCode ∈ recoveryCodes, ∀ instant ∈ recoveryCode.usedAt, IsDatetime instant := by
  induction h with
  | generated hunused => exact fun recoveryCode hmem => by simp [hunused recoveryCode hmem]
  | @consumed recoveryCodes _ presentedHash now hnow ih =>
    have hconsume : ∀ codes updated, consumeFirst presentedHash now codes = some updated →
        (∀ code ∈ codes, ∀ instant ∈ code.usedAt, IsDatetime instant) →
          ∀ code ∈ updated, ∀ instant ∈ code.usedAt, IsDatetime instant := by
      intro codes
      induction codes with
      | nil => exact nofun
      | cons code codes ihcodes =>
        intro updated hupdated hdated
        unfold consumeFirst at hupdated
        split_ifs at hupdated with hmatches hused
        · cases hupdated
          refine List.forall_mem_cons.mpr ⟨fun instant hinstant => ?_, fun other hother =>
            hdated other (List.mem_cons_of_mem _ hother)⟩
          cases hinstant
          exact hnow
        · obtain ⟨rest, hrest, rfl⟩ := Option.map_eq_some_iff.mp hupdated
          exact List.forall_mem_cons.mpr ⟨hdated code List.mem_cons_self,
            ihcodes rest hrest fun other hother => hdated other (List.mem_cons_of_mem _ hother)⟩
    unfold consumeCode
    split
    · exact ih
    · next updated hupdated => exact hconsume recoveryCodes updated hupdated ih

theorem PendingChallenge.Reachable.dated {pending : PendingChallenge} (h : pending.Reachable) :
    pending.challenge.Dated := by
  induction h with
  | issued hissued hexpires hresend _ hsucceeded hexpired =>
    exact ⟨hissued, hexpires, hresend, by simp [hsucceeded], by simp [hexpired]⟩
  | pulled _ ih => exact ih
  | refused _ ih =>
    exact ⟨ih.issuedAt, ih.expiresAt, ih.resendAvailableAt, ih.succeededAt, ih.expiredAt⟩
  | @consumed _ _ now hnow ih =>
    have hnew (instant : Datetime) (h : instant ∈ some now) : IsDatetime instant := by
      cases h
      exact hnow
    unfold VerificationChallenge.consume VerificationChallenge.expire
    split_ifs
    · exact ih
    · exact ih
    · exact { ih with expiredAt := hnew }
    · exact ih
    · exact { ih with succeededAt := hnew }
  | resent _ hresend ih => exact { ih with resendAvailableAt := hresend }

end Reachable

section RoundTrip

variable {entries : CacheDict} {key : String}

theorem readUuid_of_lookup {id : UUID}
    (h : entries.lookup key = some (.text (uuidText id))) : entries.readUuid key = some id := by
  rw [CacheDict.readUuid, CacheDict.readText, h, Option.map_some, Option.bind_some,
    CacheValue.str, uuidOf_uuidText]

theorem readInstant_of_lookup {instant : ℤ} (hinstant : IsDatetime instant)
    (h : entries.lookup key = some (.text (isoformat instant))) :
    entries.readInstant key = some instant := by
  rw [CacheDict.readInstant, CacheDict.readText, h, Option.map_some, Option.bind_some,
    CacheValue.str, fromisoformat_isoformat hinstant]

theorem isoformat_ne_empty (instant : Datetime) : isoformat instant ≠ "" := by
  intro h
  have hlist := congrArg String.toList h
  rw [isoformat, String.toList_ofList] at hlist
  simp at hlist

theorem readOptional_of_lookup {instant : Option Datetime}
    (hinstant : ∀ value ∈ instant, IsDatetime value)
    (h : entries.lookup key = some (.ofInstant instant)) :
    entries.readOptional key = some instant := by
  rw [CacheDict.readOptional, h]
  cases instant with
  | none => rfl
  | some instant =>
    have htruthy : (CacheValue.ofInstant (some instant)).isTruthy = true :=
      decide_eq_true (isoformat_ne_empty instant)
    dsimp only
    rw [if_pos htruthy, CacheValue.ofInstant, CacheValue.str,
      fromisoformat_isoformat (hinstant instant rfl), Option.map_some]

theorem ofValue_value (method : MfaMethod) : MfaMethod.ofValue method.value = some method := by
  cases method <;> decide +kernel

theorem purpose_ofValue_value (purpose : VerificationPurpose) :
    VerificationPurpose.ofValue purpose.value = some purpose := by
  cases purpose
  decide +kernel

/-- The constructor accepts what it has accepted before. -/
theorem MfaChallenge.of_fields (challenge : MfaChallenge) :
    MfaChallenge.of challenge.id challenge.userId challenge.method challenge.issuedAt
      challenge.expiresAt challenge.maxAttempts challenge.attemptCount challenge.consumedAt =
        some challenge := by
  have hattempts : (0 : ℤ) < challenge.maxAttempts := Int.natCast_pos.mpr challenge.maxAttempts_pos
  have hcount : ¬ (challenge.attemptCount : ℤ) < 0 := Int.not_lt.mpr (Int.natCast_nonneg _)
  unfold MfaChallenge.of
  rw [dif_pos challenge.expires_after_issue, dif_pos hattempts, if_neg hcount]
  rfl

/-- A challenge is read back, whatever the dictionary holds besides. -/
theorem readMfaChallenge_serialize {challenge : MfaChallenge} (h : challenge.Dated)
    (rest : CacheDict) :
    readMfaChallenge (serializeMfaChallenge challenge ++ rest) = some challenge := by
  have hid : CacheDict.readUuid (serializeMfaChallenge challenge ++ rest) "id" =
      some challenge.id := readUuid_of_lookup rfl
  have huser : CacheDict.readUuid (serializeMfaChallenge challenge ++ rest) "user_id" =
      some challenge.userId := readUuid_of_lookup rfl
  have hread : CacheDict.readText (serializeMfaChallenge challenge ++ rest) "method" =
      some challenge.method.value := rfl
  have hissued : CacheDict.readInstant (serializeMfaChallenge challenge ++ rest) "issued_at" =
      some challenge.issuedAt := readInstant_of_lookup h.issuedAt rfl
  have hexpires : CacheDict.readInstant (serializeMfaChallenge challenge ++ rest) "expires_at" =
      some challenge.expiresAt := readInstant_of_lookup h.expiresAt rfl
  have hmax : (serializeMfaChallenge challenge ++ rest).lookup "max_attempts" =
      some (.int challenge.maxAttempts) := rfl
  have hcount : CacheDict.readInt (serializeMfaChallenge challenge ++ rest) "attempt_count" 0 =
      some (challenge.attemptCount : ℤ) := rfl
  have hconsumed : CacheDict.readOptional (serializeMfaChallenge challenge ++ rest) "consumed_at" =
      some challenge.consumedAt := readOptional_of_lookup h.consumedAt rfl
  unfold readMfaChallenge
  simp only [hid, huser, hread, hissued, hexpires, hmax, hcount, hconsumed, Option.bind_eq_bind,
    Option.bind_some, ofValue_value, CacheValue.pythonInt]
  exact challenge.of_fields

/-- An enrollment is read back. -/
theorem deserializeEnrollment_serialize {state : MfaEnrollmentState}
    (h : state.challenge.Dated) (hsecret : state.secret ≠ "") (userId newId : UUID)
    (now : Datetime) :
    deserializeEnrollment userId newId now (.dict (serializeEnrollment state)) = some state := by
  have hread : CacheDict.readText (serializeEnrollment state) "secret" = some state.secret := rfl
  rw [deserializeEnrollment, hread]
  simp only [Option.bind_eq_bind, Option.bind_some, if_neg hsecret]
  rw [serializeEnrollment, readMfaChallenge_serialize h, Option.bind_some]

/-- A recovery code is read back. -/
theorem readRecoveryCode_serialize {recoveryCode : RecoveryCode}
    (h : ∀ instant ∈ recoveryCode.usedAt, IsDatetime instant) :
    readRecoveryCode (serializeRecoveryCode recoveryCode) = some recoveryCode := by
  have hid : CacheDict.readUuid (serializeRecoveryCode recoveryCode) "id" =
      some recoveryCode.id := readUuid_of_lookup rfl
  have hhash : CacheDict.readText (serializeRecoveryCode recoveryCode) "code_hash" =
      some recoveryCode.codeHash := rfl
  have hused : CacheDict.readOptional (serializeRecoveryCode recoveryCode) "used_at" =
      some recoveryCode.usedAt := readOptional_of_lookup h rfl
  unfold readRecoveryCode
  simp only [hid, hhash, hused, Option.bind_eq_bind, Option.bind_some]
  rw [dif_pos recoveryCode.codeHash_not_blank]

/-- A list of recovery codes is read back. -/
theorem deserializeRecoveryCodes_serialize {recoveryCodes : List RecoveryCode}
    (h : ∀ recoveryCode ∈ recoveryCodes, ∀ instant ∈ recoveryCode.usedAt, IsDatetime instant) :
    deserializeRecoveryCodes (serializeRecoveryCodes recoveryCodes) = recoveryCodes := by
  have hread : (recoveryCodes.map fun code => some (serializeRecoveryCode code)).mapM
      (fun item : Option CacheDict => item.bind readRecoveryCode) = some recoveryCodes := by
    induction recoveryCodes with
    | nil => rfl
    | cons recoveryCode recoveryCodes ih =>
      obtain ⟨hfirst, hrest⟩ := List.forall_mem_cons.mp h
      rw [List.map_cons, List.mapM_cons, ih hrest, Option.bind_some,
        readRecoveryCode_serialize hfirst]
      rfl
  rw [serializeRecoveryCodes, deserializeRecoveryCodes, hread, Option.getD_some]

/-- A verification challenge is read back without its events. -/
theorem readVerification_serialize {pending : PendingChallenge} (h : pending.challenge.Dated) :
    readVerification (serializeVerification pending) = some { pending with events := [] } := by
  have hid : CacheDict.readUuid (serializeVerification pending) "id" =
      some pending.challenge.id := readUuid_of_lookup rfl
  have huser : CacheDict.readUuid (serializeVerification pending) "user_id" =
      some pending.challenge.userId := readUuid_of_lookup rfl
  have hpurpose : CacheDict.readText (serializeVerification pending) "purpose" =
      some pending.challenge.purpose.value := rfl
  have hdigest : CacheDict.readText (serializeVerification pending) "code_digest" =
      some pending.challenge.codeDigest := rfl
  have hfailed : CacheDict.readInt (serializeVerification pending) "failed_attempts" 0 =
      some (pending.challenge.failedAttempts : ℤ) := rfl
  have hmax : CacheDict.readInt (serializeVerification pending) "max_attempts" 5 =
      some (pending.challenge.maxAttempts : ℤ) := rfl
  have hissued : CacheDict.readInstant (serializeVerification pending) "issued_at" =
      some pending.challenge.issuedAt := readInstant_of_lookup h.issuedAt rfl
  have hexpires : CacheDict.readInstant (serializeVerification pending) "expires_at" =
      some pending.challenge.expiresAt := readInstant_of_lookup h.expiresAt rfl
  have hresend : CacheDict.readInstant (serializeVerification pending) "resend_available_at" =
      some pending.challenge.resendAvailableAt := readInstant_of_lookup h.resendAvailableAt rfl
  have hsucceeded : CacheDict.readOptional (serializeVerification pending) "succeeded_at" =
      some pending.challenge.succeededAt := readOptional_of_lookup h.succeededAt rfl
  have hexpired : CacheDict.readOptional (serializeVerification pending) "expired_at" =
      some pending.challenge.expiredAt := readOptional_of_lookup h.expiredAt rfl
  unfold readVerification
  simp only [hid, huser, hpurpose, hdigest, hissued, hexpires, hresend, hfailed, hmax, hsucceeded,
    hexpired, Option.bind_eq_bind, Option.bind_some, purpose_ofValue_value]
  rfl

end RoundTrip

section Lifetimes

/-- A reader finds the value before a deadline, which is not after the bound, and nothing from then
on. -/
def KeptUntil {α : Type} (read : Datetime → Option α) (value : α) (bound : Datetime) : Prop :=
  ∃ deadline ≤ bound, ∀ later, read later = if later < deadline then some value else none

/-- The end of a lifetime that is at least a second, and the time that passes before the write. -/
def lapseBound (expiresAt now written : Datetime) : Datetime :=
  max expiresAt (now + seconds 1) + (written - now)

/-- A lifetime in whole seconds is no longer than what is left, or it is one second. -/
theorem wholeSeconds_le (left : ℤ) :
    max (Int.tdiv left 1000000) 1 * 1000000 ≤ max left 1000000 := by
  rcases Int.le_total 0 left with hpos | hneg
  · rw [Int.tdiv_eq_ediv_of_nonneg hpos]
    omega
  · have htdiv : Int.tdiv left 1000000 ≤ 0 := by
      obtain ⟨n, rfl⟩ : ∃ n : ℤ, left = -n := ⟨-left, (Int.neg_neg left).symm⟩
      rw [Int.neg_tdiv, Int.tdiv_eq_ediv_of_nonneg (by omega)]
      omega
    omega

theorem deadline_le_lapseBound (expiresAt now written : Datetime) :
    written + seconds (remainingSeconds expiresAt now) ≤ lapseBound expiresAt now written := by
  have harith (expiry reading write length : ℤ) (h : length ≤ max (expiry - reading) 1000000) :
      write + length ≤ max expiry (reading + 1000000) + (write - reading) := by omega
  exact harith expiresAt now written _ (wholeSeconds_le (expiresAt - now))

theorem keptUntil_of_set {α β : Type} {cache : ExpiringMap UUID (Cached β) Datetime} {key : UUID}
    {stored : Cached β} {deadline bound : Datetime} {decode : Datetime → Cached β → Option α}
    {value : α} (hdecode : ∀ later, decode later stored = some value) (hbound : deadline ≤ bound) :
    KeptUntil (fun later =>
      ((cache.set key stored (some deadline)).get later key).bind (decode later)) value bound := by
  refine ⟨deadline, hbound, fun later => ?_⟩
  dsimp only
  rw [ExpiringMap.get_set_self]
  split
  · exact hdecode later
  · rfl

/-- The lifetimes of the two calls that save an enrollment. The second takes the instant that the
use case has read. -/
inductive EnrollmentTtl (state : MfaEnrollmentState) : Datetime → ℤ → Prop where
  | begun : EnrollmentTtl state state.challenge.issuedAt
      (challengeTtlSeconds (state.challenge.expiresAt - state.challenge.issuedAt))
  | refused (now : Datetime) : EnrollmentTtl state now
      (remainingSeconds state.challenge.expiresAt now)

theorem EnrollmentTtl.le_lapseBound {state : MfaEnrollmentState} {now : Datetime} {ttl : ℤ}
    (h : EnrollmentTtl state now ttl) (written : Datetime) :
    written + seconds ttl ≤ lapseBound state.challenge.expiresAt now written := by
  cases h with
  | begun =>
    refine le_trans (Int.add_le_add_left ?_ written) (deadline_le_lapseBound _ _ written)
    exact Int.mul_le_mul_of_nonneg_right (le_max_left _ _) (by decide)
  | refused => exact deadline_le_lapseBound _ _ written

end Lifetimes

/-- A challenge of a login at the epoch. -/
def epochChallenge : MfaChallenge := MfaChallenge.issue 1 2 .totp 0

/-- A verification challenge of the epoch, before its event is dispatched. -/
def epochVerification : PendingChallenge where
  challenge :=
    { id := 3, userId := 2, purpose := .email, codeDigest := "00", issuedAt := 0
      expiresAt := hours 24, resendAvailableAt := minutes 10, failedAttempts := 0, maxAttempts := 5
      succeededAt := none, expiredAt := none }
  events := [.issued 2 3 .email (hours 24) 0]

theorem reachable_epochChallenge : epochChallenge.Reachable :=
  .issued (by decide) (by decide) rfl rfl

theorem reachable_epochVerification : epochVerification.Reachable :=
  .issued (by decide) (by decide) (by decide) rfl rfl rfl

/-- What is saved in the caches is read back unchanged until its deadline, which is at most the
expiry, or a second after the reading of the clock, and what has passed until the write. The
recovery codes are kept until they are replaced. -/
theorem cached_challenges_kept :
    (∀ cache challenge now written, MfaChallenge.Reachable challenge →
      KeptUntil (fun later => getMfaChallenge (saveMfaChallenge cache challenge now written) later
        challenge.id) challenge (lapseBound challenge.expiresAt now written)) ∧
    (∀ cache state now written ttl newId, MfaEnrollmentState.Reachable state →
      EnrollmentTtl state now ttl →
      KeptUntil (fun later => getEnrollment (saveEnrollment cache state ttl written) newId later
        state.challenge.userId) state (lapseBound state.challenge.expiresAt now written)) ∧
    (∀ cache userId recoveryCodes later, ReachableCodes recoveryCodes →
      getRecoveryCodes (saveRecoveryCodes cache userId recoveryCodes) later userId =
        recoveryCodes) ∧
    ∀ cache pending now written, PendingChallenge.Reachable pending →
      KeptUntil (fun later => getVerification (saveVerification cache pending now written) later
        pending.challenge.id) { pending with events := [] }
        (lapseBound pending.challenge.expiresAt now written) := by
  refine ⟨fun cache challenge now written h => ?_,
    fun cache state now written ttl newId h httl => ?_,
    fun cache userId recoveryCodes later h => ?_, fun cache pending now written h => ?_⟩
  · have hread := readMfaChallenge_serialize h.dated []
    rw [List.append_nil] at hread
    exact keptUntil_of_set (fun _ => hread) (deadline_le_lapseBound _ now written)
  · exact keptUntil_of_set
      (fun later => deserializeEnrollment_serialize h.dated.1 h.dated.2 _ newId later)
      (httl.le_lapseBound written)
  · rw [getRecoveryCodes, saveRecoveryCodes, ExpiringMap.get_set_forever]
    exact deserializeRecoveryCodes_serialize h.dated
  · exact keptUntil_of_set (fun _ => readVerification_serialize h.dated)
      (deadline_le_lapseBound _ now written)

theorem cached_challenges_kept_sample :
    KeptUntil (fun later => getMfaChallenge (saveMfaChallenge (fun _ => none) epochChallenge 0 0)
      later 1) epochChallenge (seconds 600) ∧
    KeptUntil (fun later => getEnrollment (saveEnrollment (fun _ => none)
      { challenge := epochChallenge, secret := "JBSWY3DPEHPK3PXP" } 600 0) 4 later 2)
      { challenge := epochChallenge, secret := "JBSWY3DPEHPK3PXP" } (seconds 600) ∧
    getRecoveryCodes (saveRecoveryCodes (fun _ => none) 2
      [⟨5, "00", none, by decide⟩]) 0 2 = [⟨5, "00", none, by decide⟩] ∧
    KeptUntil (fun later => getVerification (saveVerification (fun _ => none) epochVerification 0 0)
      later 3) { epochVerification with events := [] } (hours 24) := by
  obtain ⟨hchallenge, henrollment, hcodes, hverification⟩ := cached_challenges_kept
  have hunused : ReachableCodes [⟨5, "00", none, by decide⟩] :=
    .generated fun recoveryCode hmem => by
      rw [List.mem_singleton.mp hmem]
  exact ⟨hchallenge _ _ 0 0 reachable_epochChallenge,
    henrollment _ _ _ 0 _ 4 (.begun (by decide) (by decide) rfl rfl (by decide)) .begun,
    hcodes _ 2 _ 0 hunused, hverification _ _ 0 0 reachable_epochVerification⟩

/-- A challenge that is saved half a second before its expiry is still read at its expiry, and a
verification challenge is read back without the event that it holds. -/
theorem cached_challenge_outlives_expiry :
    epochChallenge.Reachable ∧ 599500000 < epochChallenge.expiresAt ∧
    getMfaChallenge (saveMfaChallenge (fun _ => none) epochChallenge 599500000 599500000)
      epochChallenge.expiresAt 1 = some epochChallenge ∧
    epochVerification.Reachable ∧
    deserializeVerification (.dict (serializeVerification epochVerification)) ≠
      some epochVerification := by
  refine ⟨reachable_epochChallenge, by decide, by decide +kernel, reachable_epochVerification, ?_⟩
  decide +kernel

end Linkapro.Identity
