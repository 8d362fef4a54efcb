import Linkapro.Lib.Expiring
import Linkapro.Lib.Interleave
import Linkapro.Identity.Tokens

/-!
# Identity: session stores

The Redis blacklist, the revocation cut-offs in the cache, the user and session
rows and the token signer as the session use cases see them. Each operation is
one atomic call. Time passes between two calls, by any amount.
-/

namespace Linkapro.Identity

open Lib

/-- The columns of a user row that the session code reads. -/
structure UserTokenState where
  authTokenVersion : ℤ
  isActive : Bool
deriving DecidableEq

/-- A row of the identity sessions table. -/
structure IdentitySessionRow (T : Type) where
  id : String
  userId : String
  tokenFamily : String
  lastSeenAt : T
  revokedAt : Option T
  revokedReason : String

section Stores

variable {T : Type} [Field T] [LinearOrder T] [IsStrictOrderedRing T] [FloorRing T]

variable (T) in
/-- The shared state of the session stores. -/
structure SessionState where
  clock : T
  /-- The Redis keys `bl:…`. -/
  blacklist : ExpiringMap String Unit T
  /-- The Redis keys `family:…`. -/
  families : ExpiringMap String Unit T
  /-- The cache keys `identity:user_sessions_revoked_after:…`. -/
  revokedAfter : ExpiringMap String ℤ T
  users : String → Option UserTokenState
  sessions : List (IdentitySessionRow T)
  /-- The refresh tokens that the service has signed. -/
  signed : List RefreshToken
  /-- Tokens are signed with the refresh lifetime, so none expires later than that. -/
  signed_lifetime : ∀ token ∈ signed, (token.expiresAt : T) ≤ clock + refreshTokenLifetime

/-- One call on a store or on the token signer. -/
inductive SessionOp : Type where
  | utcNow
  | uuid4
  | decodeRefreshToken (token : RefreshToken)
  | isBlacklisted (jti : String)
  | isFamilyBlacklisted (familyId : String)
  | isTokenRevokedForUser (userId : Option String) (issuedAt : Option ℤ)
  | tokenVersionMatchesActiveUser (userId : Option String) (tokenVersion : Option ℤ)
  | blacklist (jti : String) (ttl : ℤ)
  | blacklistFamily (familyId : String)
  | touchIdentitySession (sessionId : Option String) (tokenFamily : String)
  | revokeIdentitySession (sessionId : Option String) (tokenFamily reason : String)
  | getBootstrapClaims (userId sessionId : Option String)
  | issueRotatedPair (claims : RefreshTokenClaims) (accessJti refreshJti : UUID)
      (bootstrapClaims : BootstrapClaims)
deriving DecidableEq

variable (T) in
/-- The answer of each call. -/
def SessionOp.Ret : SessionOp → Type
  | .utcNow => T
  | .uuid4 => UUID
  | .decodeRefreshToken _ | .isBlacklisted _ | .isFamilyBlacklisted _ | .isTokenRevokedForUser _ _
  | .tokenVersionMatchesActiveUser _ _ => Bool
  | .blacklist _ _ | .blacklistFamily _ | .touchIdentitySession _ _
  | .revokeIdentitySession _ _ _ => Unit
  | .getBootstrapClaims _ _ => Option BootstrapClaims
  | .issueRotatedPair _ _ _ _ => IssuedTokenPair

variable (T) in
/-- What a call leaves open: the time since the previous call and the next random UUID. -/
structure Tick where
  elapsed : T
  uuid : UUID
  elapsed_nonneg : 0 ≤ elapsed

namespace SessionState

/-- The state after time has passed. -/
def pass (s : SessionState T) (tick : Tick T) : SessionState T :=
  { s with
    clock := s.clock + tick.elapsed
    signed_lifetime := fun token hmem => by
      have hle := s.signed_lifetime token hmem
      have hnonneg := tick.elapsed_nonneg
      linarith }

/-- The state after a refresh token with the usual lifetime has been signed. -/
def sign (s : SessionState T) (token : RefreshToken)
    (h : (token.expiresAt : T) ≤ s.clock + refreshTokenLifetime) : SessionState T :=
  { s with
    signed := token :: s.signed
    signed_lifetime := fun other hmem => by
      rcases List.mem_cons.mp hmem with rfl | hmem
      · exact h
      · exact s.signed_lifetime other hmem }

/-- `is_token_revoked_for_user`. -/
def isTokenRevokedForUser (s : SessionState T) (userId : Option String) (issuedAt : Option ℤ) :
    Bool :=
  match nonEmpty userId, issuedAt with
  | some userId, some issuedAt =>
    match s.revokedAfter.get s.clock userId with
    | none => false
    | some revokedAfter => issuedAt < revokedAfter
  | _, _ => false

/-- `token_version_matches_active_user`. -/
def tokenVersionMatchesActiveUser (s : SessionState T) (userId : Option String)
    (tokenVersion : Option ℤ) : Bool :=
  match (nonEmpty userId).bind s.users with
  | none => false
  | some user => user.isActive ∧ tokenVersion = some user.authTokenVersion

/-- `get_bootstrap_claims`. -/
def getBootstrapClaims (s : SessionState T) (userId sessionId : Option String) :
    Option BootstrapClaims :=
  match userId.bind fun id => (s.users id).map fun user => (id, user) with
  | none => none
  | some (id, user) =>
    if user.isActive then
      some { id, authTokenVersion := some user.authTokenVersion, sessionId := nonEmpty sessionId }
    else none

/-- The filter of `touch_identity_session` and `revoke_identity_session`. -/
def matchesSession (sessionId tokenFamily : Option String) (row : IdentitySessionRow T) : Bool :=
  row.revokedAt.isNone ∧ (sessionId.all fun id => row.id = id) ∧
    tokenFamily.all fun family => row.tokenFamily = family

/-- `touch_identity_session`. -/
def touchIdentitySession (s : SessionState T) (sessionId : Option String) (tokenFamily : String) :
    SessionState T :=
  match nonEmpty sessionId with
  | none => s
  | some id =>
    { s with
      sessions := s.sessions.map fun row =>
        if matchesSession (some id) (nonEmpty (some tokenFamily)) row then
          { row with lastSeenAt := s.clock }
        else row }

/-- `revoke_identity_session`. -/
def revokeIdentitySession (s : SessionState T) (sessionId : Option String)
    (tokenFamily reason : String) : SessionState T :=
  match nonEmpty sessionId, nonEmpty (some tokenFamily) with
  | none, none => s
  | sessionId, tokenFamily =>
    { s with
      sessions := s.sessions.map fun row =>
        if matchesSession sessionId tokenFamily row then
          { row with
            revokedAt := some s.clock
            revokedReason := String.ofList (reason.toList.take 255) }
        else row }

/-- The effect of a call at the current instant. -/
def effect (settings : TokenSettings) (tick : Tick T) :
    (op : SessionOp) → SessionState T → op.Ret T × SessionState T
  | .utcNow, s => (s.clock, s)
  | .uuid4, s => (tick.uuid, s)
  | .decodeRefreshToken token, s =>
    (decide (token ∈ s.signed ∧ s.clock < (token.expiresAt : T)), s)
  | .isBlacklisted jti, s => ((s.blacklist.get s.clock jti).isSome, s)
  | .isFamilyBlacklisted familyId, s => ((s.families.get s.clock familyId).isSome, s)
  | .isTokenRevokedForUser userId issuedAt, s => (s.isTokenRevokedForUser userId issuedAt, s)
  | .tokenVersionMatchesActiveUser userId tokenVersion, s =>
    (s.tokenVersionMatchesActiveUser userId tokenVersion, s)
  | .blacklist jti ttl, s =>
    ((), { s with blacklist := s.blacklist.set jti () (some (s.clock + ttl)) })
  | .blacklistFamily familyId, s =>
    ((), { s with families := s.families.set familyId () (some (s.clock + 7 * 24 * 3600)) })
  | .touchIdentitySession sessionId tokenFamily, s =>
    ((), s.touchIdentitySession sessionId tokenFamily)
  | .revokeIdentitySession sessionId tokenFamily reason, s =>
    ((), s.revokeIdentitySession sessionId tokenFamily reason)
  | .getBootstrapClaims userId sessionId, s => (s.getBootstrapClaims userId sessionId, s)
  | .issueRotatedPair claims accessJti refreshJti bootstrapClaims, s =>
    let pair := Identity.issueRotatedPair settings s.clock claims accessJti refreshJti
      bootstrapClaims
    (pair, s.sign pair.refreshToken (Int.floor_le _))

/-- Time passes, then the call takes effect. -/
def exec (settings : TokenSettings) : Exec (SessionState T) (Tick T) (SessionOp.Ret T) :=
  fun tick op s => effect settings tick op (s.pass tick)

end SessionState

end Stores

end Linkapro.Identity
