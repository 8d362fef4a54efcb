import Mathlib.Algebra.Order.Ring.Int
import Linkapro.Lib.Expiring
import Linkapro.Outboxes.DomainEvents

/-!
# The session cut-offs of delayed identity events

The publication of a password change stores a cut-off in the cache: the tokens that were
issued before the second of the publication are rejected. The cut-off is the clock of
the publisher, not the instant of the change, so a token that is issued between the
change and its publication is rejected as well.
-/

namespace Linkapro.Outboxes

open Lib

/-- `int(instant.timestamp())`. -/
def timestamp (instant : Datetime) : ℤ := Int.tdiv instant (seconds 1)

theorem timestamp_le {earlier later : Datetime} (h : earlier ≤ later) :
    timestamp earlier ≤ timestamp later :=
  Int.tdiv_le_tdiv (by decide) h

/-- An entry `identity:user_sessions_revoked_after:…`. -/
structure Cutoff where
  revoked_at : ℤ
  /-- The event whose publication has written the entry. The cache does not store it. -/
  event_id : UUID

/-- What the checks read of an issued token. -/
structure IssuedToken where
  user_id : UUID
  issued_at : Datetime
  auth_token_version : ℕ
deriving DecidableEq

/-- The claim `iat` of a token. -/
def IssuedToken.iat (token : IssuedToken) : ℤ := timestamp token.issued_at

/-- The identity outbox with the account versions and the cut-offs. -/
structure CutoffStore where
  outbox : Store
  /-- The column `auth_token_version` of the users. -/
  versions : UUID → ℕ
  revoked_after : ExpiringMap UUID Cutoff Datetime
  /-- The tokens that have been issued. -/
  tokens : List IssuedToken

namespace CutoffStore

/-- The instant of the last statement. -/
abbrev clock (store : CutoffStore) : Datetime := store.outbox.clock

/-- Time passes. -/
def pass (store : CutoffStore) (elapsed : ℕ) : CutoffStore :=
  { store with outbox := { store.outbox with clock := store.clock + elapsed } }

/-- `is_token_revoked_for_user`. -/
def isTokenRevokedForUser (store : CutoffStore) (user_id : UUID) (issued_at : ℤ) : Bool :=
  match store.revoked_after.get store.clock user_id with
  | none => false
  | some cutoff => issued_at < cutoff.revoked_at

/-- `_consume_identity_event`, which calls `revoke_user_sessions`. The clock is read `reading`
microseconds after `before`, and `store` is what the write finds. -/
def consume (refresh_lifetime : ℤ) (before : Datetime) (reading : ℕ) (event : Event)
    (store : CutoffStore) : CutoffStore :=
  if event.event_type = "UserPasswordChanged" then
    { store with
      revoked_after := store.revoked_after.set event.aggregate_id
        { revoked_at := timestamp (before + reading), event_id := event.id }
        (some (store.clock + seconds (max refresh_lifetime 1))) }
  else store

end CutoffStore

/-- What happens on the turn of a session. -/
inductive CutoffTurn : Type where
  /-- A use case commits a change of an account, with its version and its event. -/
  | change (elapsed : ℕ) (user_id : UUID) (version : ℕ) (event_id : UUID) (event_type : String)
      (payload : List (String × JsonValue))
  /-- A token is issued with the version of the account. -/
  | issue (elapsed : ℕ) (user_id : UUID)
  /-- A task starts to publish an event. -/
  | publish (event_id : UUID)
  /-- The next statement of a publisher is performed. A consumer reads the clock `reading`
  microseconds after the previous statement, at most at its own instant; `written` says whether
  a cut-off whose write raises an error is stored nevertheless. -/
  | next (choice : Choice) (reading : ℕ) (written : Bool)

/-- The publishers of the identity outbox beside the use cases. -/
abbrev Publishers (ι : Type) : Type := Sessions ι CutoffStore Phase

/-- What a publisher does to the cut-offs. -/
def nextCutoffs (refresh_lifetime : ℤ) (choice : Choice) (reading : ℕ) (written : Bool)
    (before : Datetime) (phase : Phase) (store : CutoffStore) : CutoffStore :=
  match phase with
  | .consuming event =>
    if choice.fault.isNone || written then
      store.consume refresh_lifetime before (min reading choice.elapsed) event
    else store
  | _ => store

variable {ι : Type}

/-- The turn of a session. A recorded event has a new id. -/
def cutoffStatement (refresh_lifetime : ℤ) : Statement ι CutoffStore Phase CutoffTurn :=
  fun s i turn =>
    match turn with
    | .change elapsed user_id version event_id event_type payload =>
      let store := s.store.pass elapsed
      if (store.outbox.events.lookup event_id).isSome then (store, s.phase i)
      else
        ({ store with
            versions := Function.update store.versions user_id version
            outbox := { store.outbox with
              events := store.outbox.events.upsert
                (.recorded event_id user_id event_type payload store.clock) } },
          s.phase i)
    | .issue elapsed user_id =>
      let store := s.store.pass elapsed
      ({ store with
          tokens := ⟨user_id, store.clock, store.versions user_id⟩ :: store.tokens },
        s.phase i)
    | .publish event_id =>
      match s.phase i with
      | .rest _ => (s.store, .claiming event_id)
      | phase => (s.store, phase)
    | .next choice reading written =>
      let store := s.store.pass choice.elapsed
      let result := next .identity store.outbox choice (s.phase i)
      (nextCutoffs refresh_lifetime choice reading written s.store.clock (s.phase i)
          { store with outbox := result.1 },
        result.2)

/-- The token is rejected by the cut-off that the publication of this event has written. -/
def RejectedBecauseOf (store : CutoffStore) (event_id : UUID) (token : IssuedToken) : Prop :=
  store.isTokenRevokedForUser token.user_id token.iat = true ∧
    (store.revoked_after.get store.clock token.user_id).map Cutoff.event_id = some event_id

instance (store : CutoffStore) (event_id : UUID) (token : IssuedToken) :
    Decidable (RejectedBecauseOf store event_id token) := by
  unfold RejectedBecauseOf
  infer_instance

/-- No token that was issued at or after a change of its account, and has the version of the
account, is rejected because of the event of the change. -/
def TokensKept (store : CutoffStore) : Prop :=
  ∀ event ∈ store.outbox.events.rows, ∀ token ∈ store.tokens,
    token.user_id = event.aggregate_id → event.created_at ≤ token.issued_at →
    token.auth_token_version = store.versions token.user_id →
    ¬RejectedBecauseOf store event.id token

instance (store : CutoffStore) : Decidable (TokensKept store) := by
  unfold TokensKept
  infer_instance

/-- If this turn stores the cut-off of a password change, no token has been issued to the user
since the change, except in the second in which the consumer reads the clock. -/
def Prompt (s : Publishers ι) (turn : ι × CutoffTurn) : Prop :=
  match turn.2, s.phase turn.1 with
  | .next choice reading written, .consuming event =>
    (choice.fault.isNone || written) = true → event.event_type = "UserPasswordChanged" →
      ∀ token ∈ s.store.tokens, token.user_id = event.aggregate_id →
        event.created_at ≤ token.issued_at →
        timestamp (s.store.clock + (min reading choice.elapsed : ℕ)) ≤ token.iat
  | _, _ => True

instance (s : Publishers ι) (turn : ι × CutoffTurn) : Decidable (Prompt s turn) := by
  unfold Prompt
  split
  · infer_instance
  · infer_instance

/-- No account has changed, and no token has been issued. -/
def noTokens : Publishers ι where
  store :=
    { outbox := { events := .empty, enqueued := [], clock := 0 }
      versions := fun _ => 0
      revoked_after := fun _ => none
      tokens := [] }
  phase := fun _ => .rest none

section Proofs

variable {store store' : CutoffStore} {outbox : DomainOutbox} {tables : Store} {choice : Choice}
  {phase : Phase} {row event : Event} {id : UUID} {elapsed : ℕ}

/-- When the event was recorded, if it was. -/
def Store.recordedAt (tables : Store) (id : UUID) : Option Datetime :=
  (tables.events.lookup id).map Event.created_at

/-- Writing a row again leaves the instant at which it was recorded. -/
theorem recordedAt_upsert {enqueued : List (UUID × Notification)} {clock : Datetime}
    {event_id : UUID} (hlookup : tables.events.lookup event_id = some event)
    (hid : row.id = event.id) (hcreated : row.created_at = event.created_at) :
    Store.recordedAt ⟨tables.events.upsert row, enqueued, clock⟩ id = tables.recordedAt id := by
  unfold Store.recordedAt
  rw [Table.lookup_upsert]
  split
  · next heq =>
    rw [← heq, hid, Table.key_of_lookup hlookup, hlookup]
    exact congrArg some hcreated
  · rfl

theorem Event.marked_created_at (event : Event) (error : String) (now : Datetime) :
    (event.marked error now).created_at = event.created_at := by
  unfold Event.marked
  split
  · rfl
  · rfl

/-- No statement of a publisher changes when an event was recorded. -/
theorem recordedAt_next : (next outbox tables choice phase).1.recordedAt id =
    tables.recordedAt id := by
  cases phase with
  | rest result => rfl
  | claiming event_id =>
    unfold next
    cases choice.fault with
    | some error => rfl
    | none =>
      dsimp only
      unfold claim
      split
      · rfl
      · next event hlookup =>
        split
        · rfl
        · rfl
        · exact recordedAt_upsert hlookup rfl rfl
        · exact recordedAt_upsert hlookup rfl rfl
  | consuming event =>
    unfold next
    cases choice.fault with
    | some error => rfl
    | none => rfl
  | publishing event_id =>
    unfold next
    cases choice.fault with
    | some error => rfl
    | none =>
      dsimp only
      unfold publish
      split
      · rfl
      · next event hlookup =>
        exact recordedAt_upsert hlookup rfl rfl
  | enqueuing event =>
    unfold next enqueue
    dsimp only
    split
    · rfl
    · split
      · rfl
      · split
        · rfl
        · rfl
  | marking event_id error =>
    unfold next
    cases choice.fault with
    | some other => rfl
    | none =>
      dsimp only
      unfold mark
      split
      · rfl
      · next event hlookup =>
        exact recordedAt_upsert hlookup (Event.marked_id ..) (Event.marked_created_at ..)

/-- A publisher comes to consume an event by claiming it. -/
theorem recordedAt_of_consuming (h : (next outbox tables choice phase).2 = .consuming event) :
    tables.recordedAt event.id = some event.created_at := by
  cases phase with
  | claiming event_id =>
    cases hfault : choice.fault with
    | some error =>
      simp only [next, hfault] at h
      cases h
    | none =>
      simp only [next, hfault, claim] at h
      split at h
      · cases h
      · next stored hlookup =>
        have hstored : tables.recordedAt stored.claimed.id = some stored.created_at := by
          unfold Store.recordedAt
          rw [Event.claimed_id, Table.key_of_lookup hlookup, hlookup]
          rfl
        split at h
        · cases h
        · cases h
        · dsimp only at h
          split at h
          · cases h
            exact hstored
          · cases h
        · dsimp only at h
          split at h
          · cases h
            exact hstored
          · cases h
  | rest result => cases h
  | enqueuing event => cases h
  | consuming claimed =>
    cases hfault : choice.fault with
    | some error | none =>
      simp only [next, hfault] at h
      cases h
  | publishing event_id =>
    cases hfault : choice.fault with
    | some error =>
      simp only [next, hfault] at h
      cases h
    | none =>
      simp only [next, hfault, publish] at h
      split at h
      · cases h
      · cases h
  | marking event_id error =>
    cases hfault : choice.fault with
    | some other =>
      simp only [next, hfault] at h
      cases h
    | none =>
      simp only [next, hfault, mark] at h
      split at h
      · cases h
      · cases h

/-- The cut-off lies in the past, and it spares the tokens that were issued since its event. -/
structure CutoffSound (store : CutoffStore) (user_id : UUID) (cutoff : Cutoff) : Prop where
  past : cutoff.revoked_at ≤ timestamp store.clock
  spares : ∃ created_at, store.outbox.recordedAt cutoff.event_id = some created_at ∧
    ∀ token ∈ store.tokens, token.user_id = user_id → created_at ≤ token.issued_at →
      cutoff.revoked_at ≤ token.iat

/-- Every stored cut-off is sound. -/
def CutoffStore.Sound (store : CutoffStore) : Prop :=
  ∀ user_id entry, store.revoked_after user_id = some entry →
    CutoffSound store user_id entry.value

/-- A publisher consumes an event as it was recorded. -/
def Snapshot (store : CutoffStore) (phase : Phase) : Prop :=
  ∀ event, phase = .consuming event →
    store.outbox.recordedAt event.id = some event.created_at

/-- What every turn does to the clock, the outbox and the tokens. -/
structure Grows (store store' : CutoffStore) : Prop where
  clock : store.clock ≤ store'.clock
  recorded : ∀ id created_at, store.outbox.recordedAt id = some created_at →
    store'.outbox.recordedAt id = some created_at
  tokens : ∀ token ∈ store'.tokens, token ∈ store.tokens ∨ timestamp store.clock ≤ token.iat

theorem Grows.refl (store : CutoffStore) : Grows store store where
  clock := le_refl _
  recorded _ _ h := h
  tokens _ h := Or.inl h

/-- Tokens that are issued later than a cut-off are not affected by it. -/
theorem CutoffSound.grows {user_id : UUID} {cutoff : Cutoff} (h : CutoffSound store user_id cutoff)
    (hgrows : Grows store store') : CutoffSound store' user_id cutoff := by
  obtain ⟨created_at, hrecorded, hspares⟩ := h.spares
  refine ⟨h.past.trans (timestamp_le hgrows.clock),
    created_at, hgrows.recorded _ _ hrecorded, ?_⟩
  intro token htoken huser hsince
  rcases hgrows.tokens token htoken with hold | hnew
  · exact hspares token hold huser hsince
  · exact h.past.trans hnew

theorem CutoffStore.Sound.grows (h : store.Sound) (hgrows : Grows store store')
    (hsame : store'.revoked_after = store.revoked_after) : store'.Sound := by
  intro user_id entry hentry
  rw [hsame] at hentry
  exact (h user_id entry hentry).grows hgrows

theorem Snapshot.grows (h : Snapshot store phase) (hgrows : Grows store store') :
    Snapshot store' phase :=
  fun event hevent => hgrows.recorded _ _ (h event hevent)

/-- Sound cut-offs keep the tokens. -/
theorem CutoffStore.Sound.tokensKept (h : store.Sound) : TokensKept store := by
  rintro event hevent token htoken huser hsince - ⟨hrevoked, hsource⟩
  obtain ⟨cutoff, hget, hid⟩ := Option.map_eq_some_iff.mp hsource
  obtain ⟨entry, hentry, rfl⟩ := ExpiringMap.entry_of_get hget
  obtain ⟨created_at, hrecorded, hspares⟩ := (h token.user_id entry hentry).spares
  have hcreated : event.created_at = created_at := by
    unfold Store.recordedAt at hrecorded
    rw [hid, Table.lookup_of_mem hevent] at hrecorded
    exact Option.some.inj hrecorded
  have hle : entry.value.revoked_at ≤ token.iat := hspares token htoken rfl (hcreated ▸ hsince)
  unfold CutoffStore.isTokenRevokedForUser at hrevoked
  rw [hget] at hrevoked
  exact absurd (of_decide_eq_true hrevoked) (not_lt.mpr hle)

variable (store elapsed) in
theorem grows_pass : Grows store (store.pass elapsed) where
  clock := Int.le_add_of_nonneg_right (Int.natCast_nonneg elapsed)
  recorded _ _ h := h
  tokens _ h := Or.inl h

theorem clock_next : (next outbox tables choice phase).1.clock = tables.clock := by
  cases phase with
  | rest result => rfl
  | enqueuing event =>
    simp only [next, enqueue]
    repeat' split
    all_goals rfl
  | claiming event_id | consuming event | publishing event_id | marking event_id error =>
    simp only [next, claim, publish, mark]
    repeat' split
    all_goals rfl

/-- A statement of a publisher, apart from the cut-offs. -/
theorem grows_next : Grows store { store.pass elapsed with
    outbox := (next .identity (store.pass elapsed).outbox choice phase).1 } where
  clock := (grows_pass store elapsed).clock.trans_eq clock_next.symm
  recorded _ _ h := recordedAt_next.trans h
  tokens _ h := Or.inl h

/-- A recorded event has a new id. -/
theorem grows_change {user_id event_id : UUID} {version : ℕ} {event_type : String}
    {payload : List (String × JsonValue)}
    (hnew : (store.outbox.events.lookup event_id).isSome = false) :
    Grows store { store.pass elapsed with
      versions := Function.update store.versions user_id version
      outbox := { (store.pass elapsed).outbox with
        events := store.outbox.events.upsert
          (.recorded event_id user_id event_type payload (store.pass elapsed).clock) } } where
  clock := (grows_pass store elapsed).clock
  recorded id created_at h := by
    have hne : event_id ≠ id := by
      rintro rfl
      obtain ⟨event, hevent, -⟩ := Option.map_eq_some_iff.mp h
      rw [hevent] at hnew
      cases hnew
    unfold Store.recordedAt at h ⊢
    rw [Table.lookup_upsert_of_ne hne]
    exact h
  tokens _ h := Or.inl h

/-- A token is issued at the instant of its turn. -/
theorem grows_issue {user_id : UUID} :
    Grows store { store.pass elapsed with
      tokens :=
        ⟨user_id, (store.pass elapsed).clock, store.versions user_id⟩ :: store.tokens } where
  clock := (grows_pass store elapsed).clock
  recorded _ _ h := h
  tokens token htoken := by
    rcases List.mem_cons.mp htoken with rfl | hold
    · exact Or.inr (timestamp_le (grows_pass store elapsed).clock)
    · exact Or.inl hold

/-- A consumer that is prompt stores a sound cut-off. -/
theorem CutoffStore.Sound.consume (h : store.Sound) {refresh_lifetime : ℤ} {before : Datetime}
    {reading : ℕ} (hpast : before + reading ≤ store.clock)
    (hrecorded : store.outbox.recordedAt event.id = some event.created_at)
    (hprompt : event.event_type = "UserPasswordChanged" →
      ∀ token ∈ store.tokens, token.user_id = event.aggregate_id →
        event.created_at ≤ token.issued_at → timestamp (before + reading) ≤ token.iat) :
    (store.consume refresh_lifetime before reading event).Sound := by
  unfold CutoffStore.consume
  split
  · next htype =>
    intro user_id entry hentry
    by_cases huser : user_id = event.aggregate_id
    · subst huser
      simp only [ExpiringMap.set, Function.update_self] at hentry
      cases hentry
      exact ⟨timestamp_le hpast, event.created_at, hrecorded, hprompt htype⟩
    · simp only [ExpiringMap.set, Function.update_of_ne huser] at hentry
      exact (h user_id entry hentry).grows ⟨le_refl _, fun _ _ h => h, fun _ h => Or.inl h⟩
  · exact h

/-- What prompt turns keep. -/
abbrev Publishers.Sound (s : Publishers ι) : Prop :=
  s.Holds CutoffStore.Sound fun store _ => Snapshot store

variable [DecidableEq ι] {refresh_lifetime : ℤ} {s : Publishers ι} {i : ι}

/-- A turn that consumes nothing. -/
theorem Publishers.Sound.of_grows (h : s.Sound) {turn : CutoffTurn}
    (hgrows : Grows s.store (cutoffStatement refresh_lifetime s i turn).1)
    (hsame : (cutoffStatement refresh_lifetime s i turn).1.revoked_after = s.store.revoked_after)
    (hphase : (cutoffStatement refresh_lifetime s i turn).2 = s.phase i ∨
      ∃ event_id, (cutoffStatement refresh_lifetime s i turn).2 = .claiming event_id) :
    Publishers.Sound (s.step (cutoffStatement refresh_lifetime) (i, turn)) := by
  refine Sessions.holds_step (h.stored.grows hgrows hsame) ?_ fun j _ => (h.session j).grows hgrows
  rcases hphase with heq | ⟨event_id, heq⟩
  · rw [heq]
    exact (h.session i).grows hgrows
  · rw [heq]
    exact nofun

/-- The next statement of a prompt publisher. -/
theorem Publishers.Sound.next (h : s.Sound) {choice : Choice} {reading : ℕ} {written : Bool}
    (hprompt : Prompt s (i, .next choice reading written)) :
    Publishers.Sound (s.step (cutoffStatement refresh_lifetime)
      (i, .next choice reading written)) := by
  let store : CutoffStore := { s.store.pass choice.elapsed with
    outbox := (Outboxes.next .identity (s.store.pass choice.elapsed).outbox choice
      (s.phase i)).1 }
  have hgrows : Grows s.store store := grows_next
  have hsound : store.Sound := h.stored.grows hgrows rfl
  have hcutoffs : (nextCutoffs refresh_lifetime choice reading written s.store.clock (s.phase i)
      store).Sound := by
    unfold nextCutoffs
    split
    · next event hphase =>
      split
      · next hwritten =>
        have hpast : s.store.clock + (min reading choice.elapsed : ℕ) ≤ store.clock := by
          have hmin : min reading choice.elapsed ≤ choice.elapsed := Nat.min_le_right ..
          have hclock : store.clock = s.store.clock + choice.elapsed := clock_next
          rw [hclock]
          exact Int.add_le_add_left (Int.ofNat_le.mpr hmin) _
        refine hsound.consume hpast (hgrows.recorded _ _ (h.session i event hphase)) ?_
        unfold Prompt at hprompt
        rw [hphase] at hprompt
        exact hprompt hwritten
      · exact hsound
    · exact hsound
  have hafter : Grows store (nextCutoffs refresh_lifetime choice reading written s.store.clock
      (s.phase i) store) := by
    unfold nextCutoffs
    split
    · split
      · unfold CutoffStore.consume
        split
        · exact ⟨le_refl _, fun _ _ h => h, fun _ h => Or.inl h⟩
        · exact Grows.refl _
      · exact Grows.refl _
    · exact Grows.refl _
  refine Sessions.holds_step hcutoffs ?_ fun j _ => ((h.session j).grows hgrows).grows hafter
  intro event hevent
  exact hafter.recorded _ _ (recordedAt_next.trans (recordedAt_of_consuming hevent))

omit [DecidableEq ι] in
variable (refresh_lifetime s i) in
/-- A use case changes no cut-off. -/
theorem change_cases (elapsed version : ℕ) (user_id event_id : UUID) (event_type : String)
    (payload : List (String × JsonValue)) :
    let result := cutoffStatement refresh_lifetime s i
      (.change elapsed user_id version event_id event_type payload)
    Grows s.store result.1 ∧ result.1.revoked_after = s.store.revoked_after ∧
      result.2 = s.phase i := by
  unfold cutoffStatement
  dsimp only
  split
  · exact ⟨grows_pass _ _, rfl, rfl⟩
  · next hnew => exact ⟨grows_change (Bool.eq_false_iff.mpr hnew), rfl, rfl⟩

/-- Every prompt turn keeps the cut-offs sound. -/
theorem Publishers.Sound.step (h : s.Sound) (turn : ι × CutoffTurn) (hprompt : Prompt s turn) :
    Publishers.Sound (s.step (cutoffStatement refresh_lifetime) turn) := by
  obtain ⟨i, turn⟩ := turn
  cases turn with
  | next choice reading written => exact h.next hprompt
  | change elapsed user_id version event_id event_type payload =>
    obtain ⟨hgrows, hsame, hphase⟩ := change_cases refresh_lifetime s i elapsed version user_id
      event_id event_type payload
    exact h.of_grows hgrows hsame (Or.inl hphase)
  | issue elapsed user_id => exact h.of_grows grows_issue rfl (Or.inl rfl)
  | publish event_id =>
    have hresult : cutoffStatement refresh_lifetime s i (.publish event_id) =
          (s.store, .claiming event_id) ∨
        cutoffStatement refresh_lifetime s i (.publish event_id) = (s.store, s.phase i) := by
      unfold cutoffStatement
      cases s.phase i with
      | rest result => exact Or.inl rfl
      | _ => exact Or.inr rfl
    rcases hresult with heq | heq
    · refine h.of_grows ?_ ?_ (Or.inr ⟨event_id, ?_⟩)
      · rw [heq]
        exact Grows.refl _
      · rw [heq]
      · rw [heq]
    · refine h.of_grows ?_ ?_ (Or.inl ?_)
      · rw [heq]
        exact Grows.refl _
      · rw [heq]
      · rw [heq]

end Proofs

section Samples

/-- A statement without an error, a second after the previous one. -/
def oneSecondLater : Choice where
  elapsed := 1000000
  fault := none
  sent := false
  notification := fun _ _ => none

/-- The password of a user is changed, the publisher claims the event and consumes it within the
same second, and the user logs in. -/
def promptTurns : List (Unit × CutoffTurn) :=
  [((), .change 1000000 7 1 11 "UserPasswordChanged" []), ((), .publish 11),
    ((), .next { oneSecondLater with elapsed := 1000 } 0 false),
    ((), .next { oneSecondLater with elapsed := 1000 } 500 false), ((), .issue 1000 7)]

/-- The user logs in with the new password before the publisher consumes the event. -/
def delayedTurns : List (Unit × CutoffTurn) :=
  [((), .change 1000000 7 1 11 "UserPasswordChanged" []), ((), .issue 1000000 7),
    ((), .publish 11), ((), .next oneSecondLater 0 false), ((), .next oneSecondLater 500 false)]

end Samples

/-- In every run whose consumptions of password changes are prompt, no token that was issued at or
after a change is rejected because of the event of the change. -/
theorem tokens_kept {ι : Type} [DecidableEq ι] (refresh_lifetime : ℤ)
    (turns : List (ι × CutoffTurn))
    (hturns : Sessions.Always (cutoffStatement refresh_lifetime) Prompt noTokens turns) :
    TokensKept ((noTokens : Publishers ι).run (cutoffStatement refresh_lifetime) turns).store := by
  have hstart : (noTokens : Publishers ι).Sound := ⟨nofun, nofun⟩
  have hend := Sessions.run_keeps (I := Publishers.Sound)
    (fun s turn hs h => hs.step turn h) hstart hturns
  exact hend.stored.tokensKept

theorem tokens_kept_sample :
    Sessions.Always (cutoffStatement 604800) Prompt noTokens promptTurns ∧
      TokensKept ((noTokens : Publishers Unit).run (cutoffStatement 604800) promptTurns).store :=
  ⟨by decide +kernel, tokens_kept 604800 promptTurns (by decide +kernel)⟩

/-- A token that was issued with the new password is rejected because of the change. -/
theorem delayed_event_rejects_token :
    ¬ ∀ (refresh_lifetime : ℤ) (turns : List (Unit × CutoffTurn)),
      TokensKept ((noTokens : Publishers Unit).run (cutoffStatement refresh_lifetime)
        turns).store := by
  intro h
  have hkept := h 604800 delayedTurns
  revert hkept
  decide +kernel

end Linkapro.Outboxes
