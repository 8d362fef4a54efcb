import Mathlib.Data.List.Nodup
import Linkapro.Lib.Sessions
import Linkapro.Identity.Challenges

/-!
# Identity: the tokens of password resets

A request for a reset revokes the active tokens of the user and inserts a new one; a
reset locks the presented token and its user, uses the token and revokes the others. Both
run in a transaction under READ COMMITTED: an update finds the rows that were committed
when it began, waits until none of them is locked by another transaction, and changes
those that are still active. What a transaction has written is gone when an error leaves it.
-/

namespace Linkapro.Identity

open Lib

/-- What the text of a reset token says about its row. -/
structure TokenCredentials where
  userId : UUID
  jti : String
  tokenHash : String
deriving DecidableEq

/-- The row of a token. -/
def TokenCredentials.Of (credentials : TokenCredentials) (row : PasswordResetToken) : Prop :=
  row.userId = credentials.userId ∧ row.jti = credentials.jti ∧
    row.tokenHash = credentials.tokenHash

instance (credentials : TokenCredentials) (row : PasswordResetToken) :
    Decidable (credentials.Of row) := inferInstanceAs (Decidable (_ ∧ _))

/-- The committed tokens, the locks of their rows and of the rows of the users, and the resets. -/
structure ResetStore (ι : Type) where
  tokens : List PasswordResetToken
  /-- Who has locked the row of a token. -/
  tokenLock : UUID → Option ι
  /-- Who has locked the row of a user. -/
  userLock : UUID → Option ι
  /-- The tokens with which a password has been reset, newest first. -/
  resets : List UUID
  clock : Datetime

/-- How a transaction has ended. -/
inductive ResetOutcome : Type where
  | refused
  | reset
  | failed
  | issued
deriving DecidableEq

/-- How far a request or a reset has come. The rows that its transaction has written are
pending. -/
inductive ResetPhase : Type where
  /-- No transaction is open. -/
  | rest (outcome : Option ResetOutcome)
  /-- Before `verify_reset_token`. The time has been read. -/
  | presented (credentials : TokenCredentials) (now : Datetime)
  /-- Before `ensure_token_can_be_used`. -/
  | checking (token : PasswordResetToken) (now : Datetime)
  /-- Before `mark_token_expired`. -/
  | expiring (token : PasswordResetToken)
  /-- An error leaves the unit of work. -/
  | leaving (pending : List PasswordResetToken)
  /-- Before `get_active_user_for_update`. -/
  | lockingUser (token : PasswordResetToken) (now : Datetime)
  /-- Before the account is saved and the token is used. -/
  | resetting (token : PasswordResetToken) (now : Datetime)
  /-- Before `revoke_other_active_tokens`. -/
  | used (token : PasswordResetToken) (pending : List PasswordResetToken)
  /-- The update has found its rows. -/
  | revoking (token : PasswordResetToken) (pending : List PasswordResetToken) (found : List UUID)
  /-- Before the commit of the reset. -/
  | committing (token : PasswordResetToken) (pending : List PasswordResetToken)
  /-- Before the update of `issue_password_reset_token`. -/
  | requested (userId : UUID)
  /-- That update has found its rows. -/
  | issuing (userId : UUID) (found : List UUID)
  /-- Before the new token is inserted and committed. -/
  | inserting (userId : UUID) (pending : List PasswordResetToken)
deriving DecidableEq

/-- What a step leaves open. -/
structure ResetChoice where
  /-- Microseconds since the previous step. -/
  elapsed : ℕ
  /-- The statement, or a check on the way to it, raises. -/
  fault : Bool
  /-- The text of the token is a token of this service that has not expired. -/
  decoded : Bool
  /-- The user is active. -/
  active : Bool
  clientIpHash : Option String
  userAgentHash : Option String
  /-- The token that a request makes. Its user and its status are not taken from here. -/
  fresh : PasswordResetToken

/-- What happens on the turn of a worker. -/
inductive ResetTurn : Type where
  | present (credentials : TokenCredentials)
  | request (userId : UUID)
  | next (choice : ResetChoice)

namespace ResetStore

variable {ι : Type} [DecidableEq ι]

/-- A row that is locked by no other transaction. -/
def Free (lock : UUID → Option ι) (i : ι) (id : UUID) : Prop := lock id = none ∨ lock id = some i

instance (lock : UUID → Option ι) (i : ι) (id : UUID) : Decidable (Free lock i id) :=
  inferInstanceAs (Decidable (_ ∨ _))

/-- Rows none of which is locked by another transaction. -/
def AllFree (lock : UUID → Option ι) (i : ι) (ids : List UUID) : Prop :=
  ∀ id ∈ ids, Free lock i id

instance (lock : UUID → Option ι) (i : ι) (ids : List UUID) : Decidable (AllFree lock i ids) :=
  List.decidableBAll _ ids

/-- Lock rows of tokens. -/
def lockTokens (store : ResetStore ι) (i : ι) (ids : List UUID) : ResetStore ι :=
  { store with tokenLock := fun id => if id ∈ ids then some i else store.tokenLock id }

/-- Lock the row of a user. -/
def lockUser (store : ResetStore ι) (i : ι) (userId : UUID) : ResetStore ι :=
  { store with userLock := Function.update store.userLock userId (some i) }

/-- A transaction ends and releases its locks. -/
def release (store : ResetStore ι) (i : ι) : ResetStore ι :=
  { store with
    tokenLock := fun id => if store.tokenLock id = some i then none else store.tokenLock id
    userLock := fun id => if store.userLock id = some i then none else store.userLock id }

/-- The row after the pending writes. -/
def written (pending : List PasswordResetToken) (row : PasswordResetToken) : PasswordResetToken :=
  (pending.find? fun write => write.id = row.id).getD row

/-- Commit the pending writes. -/
def commit (store : ResetStore ι) (i : ι) (pending : List PasswordResetToken) : ResetStore ι :=
  { store with tokens := store.tokens.map (written pending) }.release i

/-- The rows that an update of the active tokens of a user finds. -/
def activeTokens (store : ResetStore ι) (userId : UUID) : List UUID :=
  (store.tokens.filter fun row => row.userId = userId ∧ row.status = .active).map
    PasswordResetToken.id

/-- The rows that the update revokes once they are locked. -/
def revoked (store : ResetStore ι) (found : List UUID) : List PasswordResetToken :=
  (store.tokens.filter fun row => row.id ∈ found ∧ row.status = .active).map
    fun row => { row with status := .revoked }

/-- Time passes. -/
def after (store : ResetStore ι) (choice : ResetChoice) : ResetStore ι :=
  { store with clock := store.clock + choice.elapsed }

end ResetStore

section Step

variable {ι : Type} [DecidableEq ι]

open ResetStore

/-- The row that a request inserts. -/
def freshToken (choice : ResetChoice) (userId : UUID) : PasswordResetToken :=
  { choice.fresh with
    userId, status := .active, usedAt := none, usedIpHash := none, usedUserAgentHash := none }

/-- The next step of a request or of a reset. -/
def ResetPhase.next (store : ResetStore ι) (i : ι) (choice : ResetChoice) :
    ResetPhase → ResetStore ι × ResetPhase
  | .rest outcome => (store, .rest outcome)
  | .presented credentials now =>
    if choice.fault ∨ ¬ choice.decoded then (store, .leaving [])
    else
      match store.tokens.find? fun row => credentials.Of row with
      | none => (store, .leaving [])
      | some row =>
        if Free store.tokenLock i row.id then (store.lockTokens i [row.id], .checking row now)
        else (store, .presented credentials now)
  | .checking token now =>
    match token.ensureCanBeUsed now with
    | .ok _ => (store, .lockingUser token now)
    | .error _ => (store, if token.isExpired now then .expiring token else .leaving [])
  | .expiring token =>
    (store, .leaving (if choice.fault then [] else [{ token with status := .expired }]))
  -- `__exit__` rolls back, whatever has been written.
  | .leaving _ => (store.release i, .rest (some .refused))
  | .lockingUser token now =>
    if choice.fault ∨ ¬ choice.active then (store, .leaving [])
    else if Free store.userLock i token.userId then
      (store.lockUser i token.userId, .resetting token now)
    else (store, .lockingUser token now)
  | .resetting token now =>
    if choice.fault then (store, .leaving [])
    else (store, .used token [token.markUsed now choice.clientIpHash choice.userAgentHash])
  | .used token pending =>
    if choice.fault then (store, .leaving pending)
    else (store, .revoking token pending ((store.activeTokens token.userId).filter (· ≠ token.id)))
  | .revoking token pending found =>
    if choice.fault then (store, .leaving pending)
    else if AllFree store.tokenLock i found then
      (store.lockTokens i found, .committing token (pending ++ store.revoked found))
    else (store, .revoking token pending found)
  | .committing token pending =>
    if choice.fault then (store.release i, .rest (some .failed))
    else
      ({ store.commit i pending with resets := token.id :: store.resets }, .rest (some .reset))
  | .requested userId =>
    if choice.fault then (store.release i, .rest (some .failed))
    else (store, .issuing userId (store.activeTokens userId))
  | .issuing userId found =>
    if choice.fault then (store.release i, .rest (some .failed))
    else if AllFree store.tokenLock i found then
      (store.lockTokens i found, .inserting userId (store.revoked found))
    else (store, .issuing userId found)
  | .inserting userId pending =>
    -- A second row with the same primary key is refused.
    if choice.fault ∨ choice.fresh.id ∈ store.tokens.map PasswordResetToken.id then
      (store.release i, .rest (some .failed))
    else
      ({ store.commit i pending with
          tokens := freshToken choice userId :: (store.commit i pending).tokens },
        .rest (some .issued))

/-- The turn of a worker. A request or a reset begins only when no transaction is open. -/
def resetStatement : Statement ι (ResetStore ι) ResetPhase ResetTurn := fun s i turn =>
  match turn, s.phase i with
  | .present credentials, .rest _ => (s.store, .presented credentials s.store.clock)
  | .request userId, .rest _ => (s.store, .requested userId)
  | .next choice, phase => phase.next (s.store.after choice) i choice
  | _, phase => (s.store, phase)

/-- The service with its stored tokens, before any transaction. -/
def resetStart (tokens : List PasswordResetToken) (clock : Datetime) :
    Sessions ι (ResetStore ι) ResetPhase where
  store := { tokens, tokenLock := fun _ => none, userLock := fun _ => none, resets := [], clock }
  phase := fun _ => .rest none

/-- A request that commits has revoked every token of the user that is active by then. -/
def RevokesAll (s : Sessions ι (ResetStore ι) ResetPhase) (turn : ι × ResetTurn) : Prop :=
  match turn.2, s.phase turn.1 with
  | .next choice, .inserting userId pending =>
    choice.fault = false → ∀ row ∈ s.store.tokens, row.userId = userId → row.status = .active →
      ∃ write ∈ pending, write.id = row.id
  | _, _ => True

end Step

section Proofs

variable {ι : Type} {store store' : ResetStore ι} {i j : ι} {choice : ResetChoice}
  {phase : ResetPhase} {token row : PasswordResetToken} {pending : List PasswordResetToken}

namespace ResetStore

/-- What a transaction has written: rows that it has locked, none of them active or expired. -/
def Writes (store : ResetStore ι) (i : ι) (pending : List PasswordResetToken) : Prop :=
  ∀ write ∈ pending, store.tokenLock write.id = some i ∧
    (write.status = .used ∨ write.status = .revoked)

/-- A transaction has locked a token and knows its row. -/
def Held (store : ResetStore ι) (i : ι) (token : PasswordResetToken) : Prop :=
  token ∈ store.tokens ∧ store.tokenLock token.id = some i

/-- A transaction is about to use an active token. -/
structure Using (store : ResetStore ι) (i : ι) (token : PasswordResetToken)
    (pending : List PasswordResetToken) : Prop where
  held : store.Held i token
  active : token.status = .active
  writes : store.Writes i pending
  marked : ∃ write ∈ pending, write.id = token.id

/-- What a transaction relies on. -/
def Relies (store : ResetStore ι) (i : ι) : ResetPhase → Prop
  | .checking token _ | .expiring token => store.Held i token
  | .lockingUser token _ | .resetting token _ => store.Held i token ∧ token.status = .active
  | .used token pending | .revoking token pending _ | .committing token pending =>
    store.Using i token pending
  | .inserting _ pending => store.Writes i pending
  | .rest _ | .presented _ _ | .leaving _ | .requested _ | .issuing _ _ => True

/-- No other transaction loses a lock or a locked row. -/
structure Frame (store store' : ResetStore ι) (j : ι) : Prop where
  lock : ∀ id, store.tokenLock id = some j → store'.tokenLock id = some j
  row : ∀ row ∈ store.tokens, store.tokenLock row.id = some j → row ∈ store'.tokens

theorem Frame.refl : store.Frame store j := ⟨fun _ h => h, fun _ h _ => h⟩

theorem Writes.frame (h : store.Writes j pending) (hframe : store.Frame store' j) :
    store'.Writes j pending :=
  fun write hwrite => ⟨hframe.lock _ (h write hwrite).1, (h write hwrite).2⟩

theorem Held.frame (h : store.Held j token) (hframe : store.Frame store' j) :
    store'.Held j token :=
  ⟨hframe.row _ h.1 h.2, hframe.lock _ h.2⟩

theorem Using.frame (h : store.Using j token pending) (hframe : store.Frame store' j) :
    store'.Using j token pending where
  held := h.held.frame hframe
  active := h.active
  writes := h.writes.frame hframe
  marked := h.marked

/-- What a transaction relies on is kept for it by the others. -/
theorem Relies.frame (h : store.Relies j phase) (hframe : store.Frame store' j) :
    store'.Relies j phase := by
  cases phase with
  | checking token now | expiring token => exact Held.frame h hframe
  | lockingUser token now | resetting token now => exact ⟨Held.frame h.1 hframe, h.2⟩
  | used token pending | committing token pending => exact Using.frame h hframe
  | revoking token pending found => exact Using.frame h hframe
  | inserting userId pending => exact Writes.frame h hframe
  | rest outcome => trivial
  | presented credentials now => trivial
  | leaving pending => trivial
  | requested userId => trivial
  | issuing userId found => trivial

/-- The identifier of a row stays. -/
@[simp] theorem written_id : (written pending row).id = row.id := by
  unfold written
  cases hfind : pending.find? fun write => write.id = row.id with
  | none => rfl
  | some write => simpa using List.find?_some hfind

/-- A row without a pending write stays. -/
theorem written_eq (h : ∀ write ∈ pending, write.id ≠ row.id) : written pending row = row := by
  unfold written
  rw [List.find?_eq_none.mpr fun write hwrite => by simpa using h write hwrite]
  rfl

/-- A row with a pending write becomes one. -/
theorem written_mem (h : ∃ write ∈ pending, write.id = row.id) : written pending row ∈ pending := by
  unfold written
  obtain ⟨write, hwrite, hid⟩ := h
  cases hfind : pending.find? fun write => write.id = row.id with
  | none =>
    have hnot := List.find?_eq_none.mp hfind write hwrite
    exact absurd (decide_eq_true hid) hnot
  | some found => exact List.mem_of_find?_eq_some hfind

/-- A row that is active or expired after a commit has not been written. -/
theorem Writes.unwritten (h : store.Writes i pending)
    (hstatus : (written pending row).status = .active ∨ (written pending row).status = .expired) :
    ∀ write ∈ pending, write.id ≠ row.id := by
  intro write hwrite hid
  have hmem := written_mem ⟨write, hwrite, hid⟩
  rcases (h _ hmem).2 with hused | hrevoked
  · rw [hused] at hstatus
    simp at hstatus
  · rw [hrevoked] at hstatus
    simp at hstatus

/-- The rows that an update revokes are locked for it. -/
theorem writes_revoked (found : List UUID) :
    (store.lockTokens i found).Writes i (store.revoked found) := by
  intro write hwrite
  obtain ⟨row, hrow, rfl⟩ := List.mem_map.mp hwrite
  have hfound := (List.mem_filter.mp hrow).2
  simp only [decide_eq_true_eq] at hfound
  exact ⟨if_pos hfound.1, .inr rfl⟩

/-- Locking free rows takes no lock from another transaction. -/
theorem frame_lockTokens {found : List UUID} (hfree : AllFree store.tokenLock i found)
    (hne : j ≠ i) : store.Frame (store.lockTokens i found) j where
  lock id hlock := by
    have hnot : id ∉ found := by
      intro hmem
      rcases hfree id hmem with hnone | hown
      · cases hlock.symm.trans hnone
      · exact hne (Option.some.inj (hlock.symm.trans hown))
    exact (if_neg hnot).trans hlock
  row _ hrow _ := hrow

/-- A transaction keeps its own locks when it takes more of them. -/
theorem frame_lockTokens_self (found : List UUID) : store.Frame (store.lockTokens i found) i where
  lock id hlock := by
    change (if id ∈ found then some i else store.tokenLock id) = some i
    split
    · rfl
    · exact hlock
  row _ hrow _ := hrow

/-- A row that is not active does not become so. -/
theorem Writes.spent (hwrites : store.Writes i pending) {id : UUID}
    (h : ∃ row ∈ store.tokens, row.id = id ∧ row.status ≠ .active) :
    ∃ row ∈ store.tokens.map (written pending), row.id = id ∧ row.status ≠ .active := by
  obtain ⟨row, hrow, hid, hstatus⟩ := h
  refine ⟨written pending row, List.mem_map_of_mem hrow, written_id.trans hid, fun hactive => ?_⟩
  rw [written_eq (hwrites.unwritten (.inl hactive))] at hactive
  exact hstatus hactive

/-- A row that is active after a commit was so before, and has not been written. -/
theorem Writes.active_before (hwrites : store.Writes i pending)
    (hrow : row ∈ store.tokens.map (written pending)) (hactive : row.status = .active) :
    row ∈ store.tokens ∧ ∀ write ∈ pending, write.id ≠ row.id := by
  obtain ⟨before, hbefore, rfl⟩ := List.mem_map.mp hrow
  have hunwritten := hwrites.unwritten (.inl hactive)
  rw [written_eq hunwritten]
  exact ⟨hbefore, hunwritten⟩

/-- Every reset has used a token of its own, which is not active any more. -/
structure Sound (store : ResetStore ι) : Prop where
  ids : (store.tokens.map PasswordResetToken.id).Nodup
  spent : ∀ id ∈ store.resets, ∃ row ∈ store.tokens, row.id = id ∧ row.status ≠ .active
  once : store.resets.Nodup

/-- The identifiers of the rows stay. -/
theorem map_id_written (rows : List PasswordResetToken) :
    (rows.map (written pending)).map PasswordResetToken.id = rows.map PasswordResetToken.id := by
  rw [List.map_map]
  exact List.map_congr_left fun _ _ => written_id

/-- Rows with the same identifier are the same row. -/
theorem Sound.eq_of_id (hs : Sound store) {row row' : PasswordResetToken} (h : row ∈ store.tokens)
    (h' : row' ∈ store.tokens) (hid : row.id = row'.id) : row = row' :=
  List.inj_on_of_nodup_map hs.ids h h' hid

/-- Using a token keeps the store sound. -/
theorem Sound.use (hs : Sound store) (husing : store.Using i token pending)
    (htokens : store'.tokens = store.tokens.map (written pending))
    (hresets : store'.resets = token.id :: store.resets) : Sound store' where
  ids := by
    rw [htokens, map_id_written]
    exact hs.ids
  spent id hid := by
    rw [htokens]
    rw [hresets] at hid
    rcases List.mem_cons.mp hid with rfl | hid
    · refine ⟨written pending token, List.mem_map_of_mem husing.held.1, written_id, ?_⟩
      intro hactive
      obtain ⟨write, hwrite, hmarked⟩ := husing.marked
      exact husing.writes.unwritten (.inl hactive) write hwrite hmarked
    · exact husing.writes.spent (hs.spent id hid)
  once := by
    rw [hresets]
    refine List.nodup_cons.mpr ⟨fun hmem => ?_, hs.once⟩
    -- A token that has been used before is not active, but this one is.
    obtain ⟨row, hrow, hid, hstatus⟩ := hs.spent token.id hmem
    rw [hs.eq_of_id hrow husing.held.1 hid] at hstatus
    exact hstatus husing.active

/-- A new token keeps the store sound. -/
theorem Sound.insert (hs : Sound store) (hwrites : store.Writes i pending)
    (hfresh : choice.fresh.id ∉ store.tokens.map PasswordResetToken.id) {userId : UUID}
    (htokens : store'.tokens = freshToken choice userId :: store.tokens.map (written pending))
    (hresets : store'.resets = store.resets) : Sound store' where
  ids := by
    rw [htokens, List.map_cons, map_id_written]
    exact List.nodup_cons.mpr ⟨hfresh, hs.ids⟩
  spent id hid := by
    rw [htokens]
    rw [hresets] at hid
    obtain ⟨row, hrow, hrest⟩ := hwrites.spent (hs.spent id hid)
    exact ⟨row, List.mem_cons_of_mem _ hrow, hrest⟩
  once := hresets ▸ hs.once

variable [DecidableEq ι]

/-- A release takes no lock from another transaction. -/
theorem frame_release (hne : j ≠ i) : store.Frame (store.release i) j where
  lock id hlock := by
    have hnot : store.tokenLock id ≠ some i := by
      rw [hlock]
      exact fun h => hne (Option.some.inj h)
    exact (if_neg hnot).trans hlock
  row _ hrow _ := hrow

/-- A commit leaves the rows that another transaction has locked. -/
theorem frame_commit (hwrites : store.Writes i pending) (hne : j ≠ i) :
    store.Frame (store.commit i pending) j where
  lock :=
    have hrelease : Frame { store with tokens := store.tokens.map (written pending) } _ j :=
      frame_release hne
    hrelease.lock
  row row hrow hlock := by
    refine List.mem_map.mpr ⟨row, hrow, written_eq fun write hwrite hid => ?_⟩
    have hmine := (hwrites write hwrite).1
    rw [hid, hlock] at hmine
    exact hne (Option.some.inj hmine)

/-- A step of a transaction leaves what the others rely on. -/
theorem frame_next (h : store.Relies i phase) (hne : j ≠ i) :
    store.Frame (phase.next store i choice).1 j := by
  cases phase with
  | rest outcome => exact Frame.refl
  | presented credentials now =>
    simp only [ResetPhase.next]
    split
    · exact Frame.refl
    · split
      · exact Frame.refl
      · split
        · next hfree =>
          exact frame_lockTokens (fun id hid => List.mem_singleton.mp hid ▸ hfree) hne
        · exact Frame.refl
  | checking token now =>
    simp only [ResetPhase.next]
    split <;> exact Frame.refl
  | expiring token => exact Frame.refl
  | leaving pending => exact frame_release hne
  | lockingUser token now =>
    simp only [ResetPhase.next]
    split
    · exact Frame.refl
    · split
      · exact ⟨fun _ h => h, fun _ h _ => h⟩
      · exact Frame.refl
  | resetting token now =>
    simp only [ResetPhase.next]
    split <;> exact Frame.refl
  | used token pending =>
    simp only [ResetPhase.next]
    split <;> exact Frame.refl
  | revoking token pending found =>
    simp only [ResetPhase.next]
    split
    · exact Frame.refl
    · split
      · next hfree => exact frame_lockTokens hfree hne
      · exact Frame.refl
  | committing token pending =>
    simp only [ResetPhase.next]
    split
    · exact frame_release hne
    · have hcommit := frame_commit h.writes hne
      exact ⟨hcommit.lock, hcommit.row⟩
  | requested userId =>
    simp only [ResetPhase.next]
    split
    · exact frame_release hne
    · exact Frame.refl
  | issuing userId found =>
    simp only [ResetPhase.next]
    split
    · exact frame_release hne
    · split
      · next hfree => exact frame_lockTokens hfree hne
      · exact Frame.refl
  | inserting userId pending =>
    simp only [ResetPhase.next]
    split
    · exact frame_release hne
    · have hcommit := frame_commit (i := i) h hne
      refine ⟨hcommit.lock, fun row hrow hlock => ?_⟩
      exact List.mem_cons_of_mem _ (hcommit.row row hrow hlock)

/-- A step of a transaction leaves it with what it relies on. -/
theorem relies_next (h : store.Relies i phase) :
    (phase.next store i choice).1.Relies i (phase.next store i choice).2 := by
  cases phase with
  | rest outcome => exact True.intro
  | presented credentials now =>
    simp only [ResetPhase.next]
    split
    · exact True.intro
    · split
      · exact True.intro
      · next row hfind =>
        split
        · exact ⟨List.mem_of_find?_eq_some hfind, if_pos (List.mem_singleton.mpr rfl)⟩
        · exact True.intro
  | checking token now =>
    simp only [ResetPhase.next]
    split
    · next hok => exact ⟨h, (PasswordResetToken.ensureCanBeUsed_ok hok).1⟩
    · split
      · exact h
      · exact True.intro
  | expiring token => exact True.intro
  | leaving pending => exact True.intro
  | lockingUser token now =>
    simp only [ResetPhase.next]
    split
    · exact True.intro
    · split
      · exact h
      · exact h
  | resetting token now =>
    simp only [ResetPhase.next]
    split
    · exact True.intro
    · refine ⟨h.1, h.2, ?_, ⟨_, List.mem_cons_self, rfl⟩⟩
      intro write hwrite
      rw [List.mem_singleton.mp hwrite]
      exact ⟨h.1.2, .inl rfl⟩
  | used token pending =>
    simp only [ResetPhase.next]
    split
    · exact True.intro
    · exact h
  | revoking token pending found =>
    simp only [ResetPhase.next]
    split
    · exact True.intro
    · split
      · have hkept := Using.frame h (frame_lockTokens_self found)
        refine ⟨hkept.held, hkept.active, ?_, ?_⟩
        · intro write hwrite
          rcases List.mem_append.mp hwrite with hwrite | hwrite
          · exact hkept.writes write hwrite
          · exact writes_revoked found write hwrite
        · obtain ⟨write, hwrite, hid⟩ := hkept.marked
          exact ⟨write, List.mem_append_left _ hwrite, hid⟩
      · exact h
  | committing token pending =>
    simp only [ResetPhase.next]
    split <;> exact True.intro
  | requested userId =>
    simp only [ResetPhase.next]
    split <;> exact True.intro
  | issuing userId found =>
    simp only [ResetPhase.next]
    split
    · exact True.intro
    · split
      · exact writes_revoked found
      · exact True.intro
  | inserting userId pending =>
    simp only [ResetPhase.next]
    split <;> exact True.intro

/-- What a step can do to the tokens and to the resets: nothing, or commit what has been
written, with a reset or with a new token. -/
theorem next_tokens (h : store.Relies i phase) (choice : ResetChoice) :
    let after := (phase.next store i choice).1
    (after.tokens = store.tokens ∧ after.resets = store.resets) ∨
      (∃ token pending, phase = .committing token pending ∧ store.Using i token pending ∧
        after.tokens = store.tokens.map (written pending) ∧
        after.resets = token.id :: store.resets) ∨
      ∃ userId pending, phase = .inserting userId pending ∧ choice.fault = false ∧
        choice.fresh.id ∉ store.tokens.map PasswordResetToken.id ∧ store.Writes i pending ∧
        after.tokens = freshToken choice userId :: store.tokens.map (written pending) ∧
        after.resets = store.resets := by
  intro after
  cases phase with
  | rest outcome | expiring token | leaving pending => exact .inl ⟨rfl, rfl⟩
  | presented credentials now | checking token now | lockingUser token now
  | resetting token now | used token pending | revoking token pending found
  | requested userId | issuing userId found =>
    refine .inl ?_
    simp only [after, ResetPhase.next]
    repeat' split
    all_goals exact ⟨rfl, rfl⟩
  | committing token pending =>
    simp only [after, ResetPhase.next]
    split
    · exact .inl ⟨rfl, rfl⟩
    · exact .inr (.inl ⟨token, pending, rfl, h, rfl, rfl⟩)
  | inserting userId pending =>
    simp only [after, ResetPhase.next]
    split
    · exact .inl ⟨rfl, rfl⟩
    · next hopen =>
      obtain ⟨hfault, hfresh⟩ := not_or.mp hopen
      exact .inr (.inr ⟨userId, pending, rfl, by simpa using hfault, hfresh, h, rfl, rfl⟩)

/-- A step keeps the store sound. -/
theorem Sound.next (hs : Sound store) (h : store.Relies i phase) :
    Sound (phase.next store i choice).1 := by
  rcases next_tokens h choice with ⟨htokens, hresets⟩ |
      ⟨token, pending, _, husing, htokens, hresets⟩ |
      ⟨userId, pending, _, _, hfresh, hwrites, htokens, hresets⟩
  · exact ⟨htokens ▸ hs.ids, by rw [htokens, hresets]; exact hs.spent, hresets ▸ hs.once⟩
  · exact hs.use husing htokens hresets
  · exact hs.insert hwrites hfresh htokens hresets

/-- At most one token of each user is active. -/
def OneActive (store : ResetStore ι) : Prop :=
  ∀ first ∈ store.tokens, ∀ second ∈ store.tokens, first.userId = second.userId →
    first.status = .active → second.status = .active → first = second

/-- A step keeps at most one token active, if a request that commits has revoked every token
that is active by then. -/
theorem OneActive.next (hone : OneActive store) (h : store.Relies i phase)
    (hall : ∀ userId pending, phase = .inserting userId pending → choice.fault = false →
      ∀ row ∈ store.tokens, row.userId = userId → row.status = .active →
        ∃ write ∈ pending, write.id = row.id) :
    OneActive (phase.next store i choice).1 := by
  rcases next_tokens h choice with ⟨htokens, _⟩ | ⟨token, pending, _, husing, htokens, _⟩ |
      ⟨userId, pending, hphase, hfault, _, hwrites, htokens, _⟩
  · unfold OneActive
    rw [htokens]
    exact hone
  · intro first hfirst second hsecond huser hactive hactive'
    rw [htokens] at hfirst hsecond
    exact hone first (husing.writes.active_before hfirst hactive).1 second
      (husing.writes.active_before hsecond hactive').1 huser hactive hactive'
  · -- No other token of the user is active after the commit.
    have halone : ∀ row ∈ store.tokens.map (written pending), row.status = .active →
        row.userId ≠ userId := by
      intro row hrow hactive huser
      obtain ⟨hbefore, hunwritten⟩ := hwrites.active_before hrow hactive
      obtain ⟨write, hwrite, hid⟩ := hall userId pending hphase hfault row hbefore huser hactive
      exact hunwritten write hwrite hid
    intro first hfirst second hsecond huser hactive hactive'
    rw [htokens] at hfirst hsecond
    rcases List.mem_cons.mp hfirst with rfl | hfirst
    · rcases List.mem_cons.mp hsecond with rfl | hsecond
      · rfl
      · exact absurd huser.symm (halone second hsecond hactive')
    · rcases List.mem_cons.mp hsecond with rfl | hsecond
      · exact absurd huser (halone first hfirst hactive)
      · exact hone first (hwrites.active_before hfirst hactive).1 second
          (hwrites.active_before hsecond hactive').1 huser hactive hactive'

/-- A token that a step leaves expired was expired before. -/
theorem expired_before (h : store.Relies i phase)
    (hrow : row ∈ (phase.next store i choice).1.tokens) (hexpired : row.status = .expired) :
    row ∈ store.tokens := by
  have hbefore (pending : List PasswordResetToken) (hwrites : store.Writes i pending)
      (hmem : row ∈ store.tokens.map (written pending)) : row ∈ store.tokens := by
    obtain ⟨before, hbefore, rfl⟩ := List.mem_map.mp hmem
    rwa [written_eq (hwrites.unwritten (.inr hexpired))]
  rcases next_tokens h choice with ⟨htokens, _⟩ | ⟨token, pending, _, husing, htokens, _⟩ |
      ⟨userId, pending, _, _, _, hwrites, htokens, _⟩
  · rwa [htokens] at hrow
  · rw [htokens] at hrow
    exact hbefore pending husing.writes hrow
  · rw [htokens] at hrow
    rcases List.mem_cons.mp hrow with rfl | hrow
    · cases hexpired
    · exact hbefore pending hwrites hrow

end ResetStore

/-- The store is sound, and every transaction has what it relies on. -/
def ResetsSound (s : Sessions ι (ResetStore ι) ResetPhase) : Prop :=
  Sessions.Holds ResetStore.Sound (fun store i phase => store.Relies i phase) s

/-- Time changes nothing that a transaction relies on. -/
theorem ResetStore.Relies.after (h : store.Relies i phase) (choice : ResetChoice) :
    (store.after choice).Relies i phase :=
  Relies.frame h ⟨fun _ hlock => hlock, fun _ hrow _ => hrow⟩

/-- The service starts sound. -/
theorem resetsSound_start {tokens : List PasswordResetToken}
    (hids : (tokens.map PasswordResetToken.id).Nodup) (clock : Datetime) :
    ResetsSound (resetStart tokens clock : Sessions ι (ResetStore ι) ResetPhase) where
  stored := ⟨hids, fun _ hid => absurd hid List.not_mem_nil, List.nodup_nil⟩
  session _ := True.intro

variable [DecidableEq ι] {s : Sessions ι (ResetStore ι) ResetPhase}

/-- A turn takes a step, or it leaves the store. -/
theorem resetStatement_cases (s : Sessions ι (ResetStore ι) ResetPhase) (i : ι)
    (turn : ResetTurn) : (∃ choice, turn = .next choice) ∨
      (resetStatement s i turn).1 = s.store ∧
        ((resetStatement s i turn).2 = s.phase i ∨ ∀ store : ResetStore ι,
          store.Relies i (resetStatement s i turn).2) := by
  cases turn with
  | next choice => exact .inl ⟨choice, rfl⟩
  | present credentials =>
    unfold resetStatement
    cases hphase : s.phase i
    case rest outcome => exact .inr ⟨rfl, .inr fun _ => True.intro⟩
    all_goals exact .inr ⟨rfl, .inl rfl⟩
  | request userId =>
    unfold resetStatement
    cases hphase : s.phase i
    case rest outcome => exact .inr ⟨rfl, .inr fun _ => True.intro⟩
    all_goals exact .inr ⟨rfl, .inl rfl⟩

/-- Every turn keeps the resets sound. -/
theorem ResetsSound.step (hs : ResetsSound s) (turn : ι × ResetTurn) :
    ResetsSound (s.step resetStatement turn) := by
  obtain ⟨i, turn⟩ := turn
  rcases resetStatement_cases s i turn with ⟨choice, rfl⟩ | ⟨hstore, hphase⟩
  · have hrelies := (hs.session i).after choice
    have hsound : (s.store.after choice).Sound := ⟨hs.stored.ids, hs.stored.spent, hs.stored.once⟩
    refine Sessions.holds_step (hsound.next hrelies) (ResetStore.relies_next hrelies) ?_
    exact fun j hne => ((hs.session j).after choice).frame (ResetStore.frame_next hrelies hne)
  · refine Sessions.holds_step (hstore ▸ hs.stored) ?_ fun j _ => hstore ▸ hs.session j
    rw [hstore]
    rcases hphase with hsame | hfree
    · exact hsame ▸ hs.session i
    · exact hfree s.store

/-- A turn keeps at most one token of each user active, if a request that commits has revoked
every active one. -/
theorem oneActive_step (hs : ResetsSound s) (hone : s.store.OneActive) (turn : ι × ResetTurn)
    (hall : RevokesAll s turn) : (s.step resetStatement turn).store.OneActive := by
  obtain ⟨i, turn⟩ := turn
  rcases resetStatement_cases s i turn with ⟨choice, rfl⟩ | ⟨hstore, _⟩
  · have hafter : (s.store.after choice).OneActive := hone
    refine hafter.next ((hs.session i).after choice) ?_
    intro userId pending hphase
    unfold RevokesAll at hall
    simp only [hphase] at hall
    exact hall
  · rw [Sessions.step_store, hstore]
    exact hone

/-- A token that is expired after a turn was expired before it. -/
theorem expired_before_step (hs : ResetsSound s) (turn : ι × ResetTurn)
    (hrow : row ∈ (s.step resetStatement turn).store.tokens) (hexpired : row.status = .expired) :
    row ∈ s.store.tokens := by
  obtain ⟨i, turn⟩ := turn
  rcases resetStatement_cases s i turn with ⟨choice, rfl⟩ | ⟨hstore, _⟩
  · have hrelies := (hs.session i).after choice
    have hbefore : row ∈ (s.store.after choice).tokens :=
      ResetStore.expired_before hrelies hrow hexpired
    exact hbefore
  · rwa [Sessions.step_store, hstore] at hrow

/-- Every run keeps the resets sound. -/
theorem ResetsSound.run (hs : ResetsSound s) (turns : List (ι × ResetTurn)) :
    ResetsSound (s.run resetStatement turns) := by
  induction turns generalizing s with
  | nil => exact hs
  | cons turn turns ih => exact ih (hs.step turn)

/-- A token that is expired after a run was expired before it. -/
theorem expired_before_run (hs : ResetsSound s) (turns : List (ι × ResetTurn))
    (hrow : row ∈ (s.run resetStatement turns).store.tokens) (hexpired : row.status = .expired) :
    row ∈ s.store.tokens := by
  induction turns generalizing s with
  | nil => exact hrow
  | cons turn turns ih => exact expired_before_step hs turn (ih (hs.step turn) hrow) hexpired

end Proofs

section Samples

/-- A token of the user 1. -/
def sampleResetToken : PasswordResetToken where
  id := 10
  userId := 1
  jti := "9c1e"
  tokenHash := "5f2d"
  status := .active
  expiresAt := 3600000000
  usedAt := none
  usedIpHash := none
  usedUserAgentHash := none
  jti_not_blank := by decide
  tokenHash_not_blank := by decide

/-- A step in which nothing fails. -/
def sampleResetChoice (id : UUID) : ResetChoice where
  elapsed := 1000
  fault := false
  decoded := true
  active := true
  clientIpHash := none
  userAgentHash := none
  fresh := { sampleResetToken with id }

/-- What the text of the token says. -/
def sampleCredentials : TokenCredentials where
  userId := 1
  jti := "9c1e"
  tokenHash := "5f2d"

/-- A second request follows on a first one, and the token is used. -/
def sampleResetTurns : List (Fin 2 × ResetTurn) :=
  (0, .request 1) :: List.replicate 3 (0, .next (sampleResetChoice 10)) ++
    (1, .request 1) :: List.replicate 3 (1, .next (sampleResetChoice 11)) ++
      (0, .present sampleCredentials) :: List.replicate 9 (0, .next (sampleResetChoice 12))

/-- Two requests of one user find the tokens of the user before one of them commits. -/
def sampleResetOverlap : List (Fin 2 × ResetTurn) :=
  [(0, .request 1), (1, .request 1), (0, .next (sampleResetChoice 10)),
    (1, .next (sampleResetChoice 11)), (0, .next (sampleResetChoice 10)),
    (1, .next (sampleResetChoice 11)), (0, .next (sampleResetChoice 10)),
    (1, .next (sampleResetChoice 11))]

instance (s : Sessions (Fin 2) (ResetStore (Fin 2)) ResetPhase) (turn : Fin 2 × ResetTurn) :
    Decidable (RevokesAll s turn) := by
  unfold RevokesAll
  split <;> infer_instance

instance (store : ResetStore (Fin 2)) : Decidable store.OneActive := by
  unfold ResetStore.OneActive
  infer_instance

end Samples

/-- In no run is a token that is stored as active stored as expired later, whether it has been
presented after its expiry or not: what marks it is rolled back. -/
theorem active_token_never_expired {ι : Type} [DecidableEq ι] (tokens : List PasswordResetToken)
    (clock : Datetime) (hids : (tokens.map PasswordResetToken.id).Nodup)
    (before after : List (ι × ResetTurn)) (token : PasswordResetToken)
    (htoken : token ∈ ((resetStart tokens clock : Sessions ι _ _).run resetStatement
      before).store.tokens) (hactive : token.status = .active) :
    ∀ row ∈ ((resetStart tokens clock : Sessions ι _ _).run resetStatement
      (before ++ after)).store.tokens, row.id = token.id → row.status ≠ .expired := by
  have hmiddle := (resetsSound_start hids clock : ResetsSound (ι := ι) _).run before
  rw [Sessions.run_append]
  intro row hrow hid hexpired
  have hrow' := expired_before_run hmiddle after hrow hexpired
  rw [hmiddle.stored.eq_of_id hrow' htoken hid, hactive] at hexpired
  cases hexpired

/-- A token is presented after its expiry. -/
def sampleExpiry : List (Fin 2 × ResetTurn) :=
  (0, .present sampleCredentials) :: List.replicate 4 (0, .next (sampleResetChoice 12))

/-- The token that is presented after its expiry does not become expired. -/
theorem active_token_never_expired_sample :
    sampleResetToken.status = .active ∧
      ∀ row ∈ ((resetStart [sampleResetToken] 3600000000 : Sessions (Fin 2) _ _).run resetStatement
        ([] ++ sampleExpiry)).store.tokens, row.id = sampleResetToken.id → row.status ≠ .expired :=
  ⟨rfl, active_token_never_expired [sampleResetToken] 3600000000 (by decide) [] sampleExpiry
    sampleResetToken List.mem_cons_self rfl⟩

/-- A token is presented after its expiry and refused, but it is still stored as active. -/
theorem expired_mark_rolled_back :
    ¬ ∀ (tokens : List PasswordResetToken) (clock : Datetime) (token : PasswordResetToken)
      (credentials : TokenCredentials) (turns : List (Fin 2 × ResetTurn)),
      (tokens.map PasswordResetToken.id).Nodup → token ∈ tokens → token.status = .active →
      token.expiresAt ≤ clock → credentials.Of token →
        let s := (resetStart tokens clock : Sessions (Fin 2) _ _).run resetStatement
          ((0, .present credentials) :: turns)
        s.phase 0 = .rest (some .refused) →
          ∃ row ∈ s.store.tokens, row.id = token.id ∧ row.status = .expired := by
  intro h
  have hmarked := h [sampleResetToken] 3600000000 sampleResetToken sampleCredentials
    (List.replicate 4 (0, .next (sampleResetChoice 12))) (by decide) List.mem_cons_self rfl
    (by decide) ⟨rfl, rfl, rfl⟩ (by decide +kernel)
  revert hmarked
  decide +kernel

end Linkapro.Identity
