import Linkapro.Lib.Sessions
import Linkapro.Lib.Table
import Linkapro.Shared

/-!
# Vendors: operations that are executed once

`execute_once` runs an operation in one transaction together with the record of its
idempotency key. The record is locked from the reservation to the end of the
transaction, and its unique key makes a second reservation wait for the first one. So
of all calls with one key at most one commits its operation, and a failed call leaves
nothing behind.
-/

namespace Linkapro.Vendors

open Lib

/-- `VendorIdempotencyRecord.Status`. -/
inductive IdempotencyStatus : Type where
  | inProgress
  | completed
  | failed
deriving DecidableEq, Repr

/-- The columns of the unique constraint of the records. -/
structure IdempotencyKey : Type where
  scope : String
  actor_id : UUID
  key : String
deriving DecidableEq, Repr

/-- A `VendorIdempotencyRecord`, without the columns that `execute_once` neither reads nor
chooses. The result is a JSON value of type `π`. -/
structure VendorIdempotencyRecord (π : Type) : Type where
  identity : IdempotencyKey
  payload_fingerprint : String
  status : IdempotencyStatus
  result : Option π
  last_error : Option String
  completed_at : Option Datetime
deriving DecidableEq, Repr

/-- The arguments of `execute_once`, less the operation. -/
structure ExecuteOnce : Type where
  identity : IdempotencyKey
  payload_fingerprint : String
deriving DecidableEq, Repr

/-- `_serialize_result` and `_deserialize_result`, with the type of a raised exception. -/
structure ResultCodec (τ π : Type) : Type where
  serialize : τ → Except String π
  deserialize : String → Option π → Except String τ

/-- What a call of `execute_once` raises. -/
inductive ExecuteError : Type where
  /-- A `VendorConflict`, or a subclass of it. -/
  | conflict (code message : String)
  /-- The operation, or the codec of the results, raised this exception. -/
  | raised (exception : String)
  /-- The record was not there: `VendorIdempotencyRecord.DoesNotExist`. -/
  | doesNotExist
  /-- The transaction ended before its commit. -/
  | interrupted
  /-- The transaction was committed, and nobody learned of it. -/
  | answerLost
deriving DecidableEq, Repr

/-- `VendorIdempotencyConflict()`. -/
def ExecuteError.idempotencyConflict : ExecuteError :=
  .conflict "vendor_idempotency_conflict"
    "Idempotency key was already used with a different payload."

/-- `VendorConflict(…)` of a key in use. -/
def ExecuteError.keyInProgress : ExecuteError :=
  .conflict "vendor_idempotency_in_progress" "Idempotency key is already in progress."

/-- How far a call is. From `resetting` on, it holds the lock of the record. -/
inductive ExecutePhase (τ ε π : Type) : Type where
  /-- About to `SELECT … FOR UPDATE` the record: the `get` of `get_or_create`. -/
  | get
  /-- About to insert the record, in a savepoint. -/
  | insert
  /-- About to select the record after the insertion broke the unique constraint. -/
  | getAgain
  /-- About to select the record after `get_or_create` has raised the `IntegrityError`. -/
  | fallback
  /-- About to save a failed record as one in progress. -/
  | resetting (record : VendorIdempotencyRecord π)
  /-- In the operation, which has made these writes. -/
  | running (record : VendorIdempotencyRecord π) (writes : List ε)
  /-- About to save the record as failed. -/
  | failing (record : VendorIdempotencyRecord π) (exception : String)
  /-- About to roll back on the way of the exception. -/
  | rollingBack (record : VendorIdempotencyRecord π) (exception : String)
  /-- About to save the record as completed. -/
  | completing (record : VendorIdempotencyRecord π) (writes : List ε) (result : τ)
  /-- About to commit. -/
  | committing (record : VendorIdempotencyRecord π) (writes : List ε) (result : τ)
  /-- About to answer from a completed record. -/
  | replaying (record : VendorIdempotencyRecord π)
  /-- Over. -/
  | done (outcome : Except ExecuteError τ)
deriving DecidableEq

/-- What the database stores between two statements. -/
structure IdempotencyStore (ι ε π : Type) : Type where
  /-- The committed records. -/
  records : Table (VendorIdempotencyRecord.identity (π := π))
  /-- The open transaction that has inserted or locked the record of a key. -/
  locks : IdempotencyKey → Option ι
  /-- The committed operations and their writes, oldest first. -/
  committed : List (ι × List ε)

/-- What an operation does next. -/
inductive OperationEvent (τ ε : Type) : Type where
  | writes (effect : ε)
  | raises (exception : String)
  | returns (result : τ)

/-- How a statement ends. -/
inductive Fate : Type where
  | answered
  /-- The statement fails, or the process or its connection is gone before it. -/
  | interrupted
  /-- The connection is gone after the statement. The database keeps a commit and rolls back
  every other transaction. -/
  | answerLost
deriving DecidableEq, Repr

/-- What the code does not choose at a statement of `execute_once`. -/
structure ExecuteChoice (τ ε : Type) : Type where
  /-- What the operation does, if it is its turn. -/
  operation : OperationEvent τ ε
  /-- `timezone.now()`. -/
  now : Datetime
  fate : Fate

variable {ι τ ε π : Type}

/-- The calls of `execute_once` that share the database. -/
abbrev ExecuteCalls (ι τ ε π : Type) : Type :=
  Sessions ι (IdempotencyStore ι ε π) (ExecutePhase τ ε π)

/-- The record that `get_or_create` inserts. -/
def ExecuteOnce.newRecord (call : ExecuteOnce) : VendorIdempotencyRecord π where
  identity := call.identity
  payload_fingerprint := call.payload_fingerprint
  status := .inProgress
  result := none
  last_error := none
  completed_at := none

/-- `execute_once` from the return of `_reserve` to the next statement. -/
def afterReserve (record : VendorIdempotencyRecord π) (created : Bool) : ExecutePhase τ ε π :=
  if record.status = .completed then .replaying record
  else if created = false ∧ record.status = .inProgress then .done (.error .keyInProgress)
  else .running record []

/-- `_reserve` from the locked record to the next statement. -/
def reserve (call : ExecuteOnce) (record : VendorIdempotencyRecord π) (created : Bool) :
    ExecutePhase τ ε π :=
  if created = false ∧ record.payload_fingerprint ≠ call.payload_fingerprint then
    .done (.error .idempotencyConflict)
  else if record.status = .failed then .resetting record
  else afterReserve record created

/-- How far a call is after a statement that was answered. `stored` is the committed record of
its key, and `locked` says that another transaction has the record. -/
def nextPhase (codec : ResultCodec τ π) (call : ExecuteOnce)
    (stored : Option (VendorIdempotencyRecord π)) (locked : Bool) (choice : ExecuteChoice τ ε) :
    ExecutePhase τ ε π → ExecutePhase τ ε π
  | .get =>
    match stored with
    | none => .insert
    | some record => if locked then .get else reserve call record false
  | .insert =>
    match stored with
    | some _ => .getAgain
    | none => if locked then .insert else reserve call call.newRecord true
  | .getAgain =>
    match stored with
    | none => .fallback
    | some record => if locked then .getAgain else reserve call record false
  | .fallback =>
    match stored with
    | none => .done (.error .doesNotExist)
    | some record => if locked then .fallback else reserve call record false
  | .resetting record => afterReserve { record with status := .inProgress, last_error := none } true
  | .running record writes =>
    match choice.operation with
    | .writes effect => .running record (writes ++ [effect])
    | .raises exception => .failing record exception
    | .returns result => .completing record writes result
  | .failing record exception =>
    .rollingBack { record with status := .failed, last_error := some exception } exception
  | .rollingBack _ exception => .done (.error (.raised exception))
  | .completing record writes result =>
    match codec.serialize result with
    | .error exception => .done (.error (.raised exception))
    | .ok payload =>
      .committing { record with
        status := .completed
        result := some payload
        completed_at := some choice.now
        last_error := none } writes result
  | .committing _ _ result => .done (.ok result)
  | .replaying record =>
    match codec.deserialize call.identity.scope record.result with
    | .error exception => .done (.error (.raised exception))
    | .ok result => .done (.ok result)
  | .done outcome => .done outcome

namespace ExecutePhase

/-- The phase after a statement that fared as `fate` says, with `next` for an answered one. -/
def afterFate (next : ExecutePhase τ ε π) : Fate → ExecutePhase τ ε π → ExecutePhase τ ε π
  | _, .done outcome => .done outcome
  | .answered, _ => next
  | .answerLost, .committing .. => .done (.error .answerLost)
  | _, _ => .done (.error .interrupted)

/-- The open transaction has inserted or locked the record. -/
def holds : ExecutePhase τ ε π → Bool
  | .get | .insert | .getAgain | .fallback | .done _ => false
  | _ => true

/-- The operation runs or has run in the open transaction. -/
def operates : ExecutePhase τ ε π → Bool
  | .running .. | .failing .. | .rollingBack .. | .completing .. | .committing .. => true
  | _ => false

end ExecutePhase

namespace IdempotencyStore

/-- The database without records. -/
def empty : IdempotencyStore ι ε π where
  records := Table.empty
  locks _ := none
  committed := []

/-- What a statement of a transaction commits: everything at once, at its COMMIT. -/
def afterCommit (store : IdempotencyStore ι ε π) (i : ι) :
    Fate → ExecutePhase τ ε π → IdempotencyStore ι ε π
  | .interrupted, _ => store
  | _, .committing record writes _ =>
    { store with
      records := store.records.upsert record
      committed := store.committed ++ [(i, writes)] }
  | _, _ => store

/-- The locks after a statement that has brought a transaction to `phase`. -/
def withLock [DecidableEq ι] (store : IdempotencyStore ι ε π) (i : ι) (key : IdempotencyKey)
    (phase : ExecutePhase τ ε π) : IdempotencyStore ι ε π :=
  if phase.holds then { store with locks := Function.update store.locks key (some i) }
  else if store.locks key = some i then
    { store with locks := Function.update store.locks key none }
  else store

end IdempotencyStore

variable [DecidableEq ι] {request : ι → ExecuteOnce} {codec : ResultCodec τ π}

/-- One statement of a call of `execute_once`, with the code up to the next one. -/
def executeOnce (request : ι → ExecuteOnce) (codec : ResultCodec τ π) :
    Statement ι (IdempotencyStore ι ε π) (ExecutePhase τ ε π) (ExecuteChoice τ ε) :=
  fun s i choice =>
    let key := (request i).identity
    let next := nextPhase codec (request i) (s.store.records.lookup key)
      (s.store.locks key).isSome choice (s.phase i)
    let phase := next.afterFate choice.fate (s.phase i)
    ((s.store.afterCommit i choice.fate (s.phase i)).withLock i key phase, phase)

/-- No call has begun, and no record is stored. -/
def ExecuteCalls.start : ExecuteCalls ι τ ε π where
  store := IdempotencyStore.empty
  phase _ := .get

section Statements

variable {store : IdempotencyStore ι ε π} {i j : ι} {key : IdempotencyKey} {fate : Fate}
  {phase next : ExecutePhase τ ε π} {call : ExecuteOnce} {choice : ExecuteChoice τ ε}
  {record : VendorIdempotencyRecord π} {locked : Bool}

@[simp] theorem withLock_records : (store.withLock i key phase).records = store.records := by
  unfold IdempotencyStore.withLock
  split
  · rfl
  · split
    · rfl
    · rfl

@[simp] theorem withLock_committed : (store.withLock i key phase).committed = store.committed := by
  unfold IdempotencyStore.withLock
  split
  · rfl
  · split
    · rfl
    · rfl

/-- A transaction has the lock of its key as long as it is in a phase that holds it. -/
theorem withLock_locks_self :
    (store.withLock i key phase).locks key = some i ↔ phase.holds = true := by
  unfold IdempotencyStore.withLock
  split
  · next h => simp [h]
  · next h =>
    split
    · simp [h]
    · next hlock => simp [h, hlock]

/-- A transaction that has the lock, or takes one that is free, leaves the locks of the other
transactions as they are. -/
theorem withLock_locks_other (hne : j ≠ i)
    (hfree : phase.holds = true → store.locks key = some i ∨ store.locks key = none)
    (other : IdempotencyKey) :
    (store.withLock i key phase).locks other = some j ↔ store.locks other = some j := by
  have hnot : phase.holds = true ∨ store.locks key = some i → store.locks key ≠ some j := by
    rintro (hholds | hlock) hj
    · rcases hfree hholds with hlock | hlock
      · exact hne (Option.some.inj (hj.symm.trans hlock))
      · exact Option.some_ne_none j (hj.symm.trans hlock)
    · exact hne (Option.some.inj (hj.symm.trans hlock))
  unfold IdempotencyStore.withLock
  split
  · next hholds =>
    by_cases hother : other = key
    · subst hother
      simp [hnot (Or.inl hholds), hne.symm]
    · simp [hother]
  · split
    · next hlock =>
      by_cases hother : other = key
      · subst hother
        simp [hnot (Or.inr hlock)]
      · simp [hother]
    · rfl

omit [DecidableEq ι] in
variable (fate phase next) in
/-- A statement ends the call, or it was answered. -/
theorem afterFate_cases :
    (∃ outcome, next.afterFate fate phase = .done outcome) ∨
      (fate = .answered ∧ next.afterFate fate phase = next) := by
  cases phase with
  | done outcome => exact Or.inl ⟨outcome, by cases fate <;> rfl⟩
  | _ =>
    cases fate with
    | answered => exact Or.inr ⟨rfl, rfl⟩
    | interrupted => exact Or.inl ⟨_, rfl⟩
    | answerLost => exact Or.inl ⟨_, rfl⟩

omit [DecidableEq ι] in
variable (store i fate phase) in
/-- A statement commits nothing, or it is the commit of a transaction. -/
theorem afterCommit_cases :
    store.afterCommit i fate phase = store ∨
      ∃ record writes result, phase = .committing record writes result ∧
        fate ≠ .interrupted ∧
        store.afterCommit i fate phase =
          { store with
            records := store.records.upsert record
            committed := store.committed ++ [(i, writes)] } := by
  cases phase with
  | committing record writes result =>
    cases fate with
    | interrupted => exact Or.inl rfl
    | answered => exact Or.inr ⟨record, writes, result, rfl, nofun, rfl⟩
    | answerLost => exact Or.inr ⟨record, writes, result, rfl, nofun, rfl⟩
  | _ => exact Or.inl (by cases fate <;> rfl)

omit [DecidableEq ι] in
@[simp] theorem afterCommit_locks : (store.afterCommit i fate phase).locks = store.locks := by
  rcases afterCommit_cases store i fate phase with h | ⟨record, writes, result, -, -, h⟩
  · rw [h]
  · rw [h]

/-- A reservation that does not end the call takes the record. -/
theorem reserve_cases (call : ExecuteOnce) (record : VendorIdempotencyRecord π) (created : Bool) :
    (reserve call record created : ExecutePhase τ ε π) = .done (.error .idempotencyConflict) ∧
        created = false ∧ record.payload_fingerprint ≠ call.payload_fingerprint ∨
      (created = true ∨ record.payload_fingerprint = call.payload_fingerprint) ∧
        ((reserve call record created : ExecutePhase τ ε π) = .resetting record ∧
            record.status = .failed ∨
          (reserve call record created : ExecutePhase τ ε π) = .replaying record ∧
            record.status = .completed ∨
          (reserve call record created : ExecutePhase τ ε π) = .done (.error .keyInProgress) ∨
          (reserve call record created : ExecutePhase τ ε π) = .running record [] ∧
            created = true ∧ record.status = .inProgress) := by
  unfold reserve
  split
  · next h => exact Or.inl ⟨rfl, h⟩
  · next h =>
    refine Or.inr ⟨?_, ?_⟩
    · cases created with
      | true => exact Or.inl rfl
      | false => exact Or.inr (not_not.mp fun hne => h ⟨rfl, hne⟩)
    · unfold afterReserve
      cases hstatus : record.status with
      | failed => exact Or.inl ⟨rfl, rfl⟩
      | completed => exact Or.inr (Or.inl ⟨rfl, rfl⟩)
      | inProgress =>
        cases created with
        | true => exact Or.inr (Or.inr (Or.inr ⟨rfl, rfl, rfl⟩))
        | false => exact Or.inr (Or.inr (Or.inl rfl))

end Statements

/-! ### The records and the committed operations -/

namespace IdempotencyStore

/-- The operation of a call is committed. -/
def Performed (store : IdempotencyStore ι ε π) (i : ι) : Prop :=
  i ∈ store.committed.map Prod.fst

/-- The records are those of the committed operations, one for each key. -/
structure Sound (request : ι → ExecuteOnce) (store : IdempotencyStore ι ε π) : Prop where
  completed : ∀ record ∈ store.records.rows, record.status = .completed
  recorded : ∀ record ∈ store.records.rows, ∃ i, store.Performed i ∧
    record.identity = (request i).identity ∧
    record.payload_fingerprint = (request i).payload_fingerprint
  stored : ∀ i, store.Performed i → ∃ record,
    store.records.lookup (request i).identity = some record ∧
    record.payload_fingerprint = (request i).payload_fingerprint
  once : (store.committed.map fun operation => (request operation.1).identity).Nodup

end IdempotencyStore

namespace ExecutePhase

/-- The record that a transaction works on is the one of its call, with a fingerprint that
agrees; while the operation is open, no record of the key is stored. -/
def Opened (call : ExecuteOnce) (store : IdempotencyStore ι ε π) : ExecutePhase τ ε π → Prop
  | .resetting _ => False
  | .running record _ | .failing record _ | .rollingBack record _ | .completing record _ _ =>
    record.identity = call.identity ∧ record.payload_fingerprint = call.payload_fingerprint ∧
      store.records.lookup call.identity = none
  | .committing record _ _ =>
    record.identity = call.identity ∧ record.payload_fingerprint = call.payload_fingerprint ∧
      store.records.lookup call.identity = none ∧ record.status = .completed
  | .replaying record =>
    store.records.lookup call.identity = some record ∧
      record.payload_fingerprint = call.payload_fingerprint
  | _ => True

/-- The call has not committed its operation. -/
def Uncommitted : ExecutePhase τ ε π → Prop
  | .done (.ok _) | .done (.error .answerLost) => False
  | _ => True

end ExecutePhase

/-- What holds of one call in every state of a run. -/
structure CallSound (request : ι → ExecuteOnce) (store : IdempotencyStore ι ε π) (i : ι)
    (phase : ExecutePhase τ ε π) : Prop where
  locked : store.locks (request i).identity = some i ↔ phase.holds = true
  opened : phase.Opened (request i) store
  uncommitted : phase.Uncommitted → ¬store.Performed i

section Sound

variable {store store' : IdempotencyStore ι ε π} {i j : ι} {call : ExecuteOnce} {fate : Fate}
  {phase next : ExecutePhase τ ε π} {choice : ExecuteChoice τ ε}
  {record : VendorIdempotencyRecord π} {locked : Bool} {writes : List ε} {result : τ}
  {stored : Option (VendorIdempotencyRecord π)}

omit [DecidableEq ι] in
/-- The condition on the records does not concern the locks. -/
theorem IdempotencyStore.Sound.of_eq (h : store.Sound request)
    (hrecords : store'.records = store.records) (hcommitted : store'.committed = store.committed) :
    store'.Sound request := by
  have hperformed : ∀ i, store'.Performed i ↔ store.Performed i := fun i => by
    unfold IdempotencyStore.Performed
    rw [hcommitted]
  refine ⟨?_, ?_, ?_, ?_⟩
  · rw [hrecords]
    exact h.completed
  · intro record hrecord
    obtain ⟨i, hi, hrest⟩ := h.recorded record (hrecords ▸ hrecord)
    exact ⟨i, (hperformed i).mpr hi, hrest⟩
  · intro i hi
    rw [hrecords]
    exact h.stored i ((hperformed i).mp hi)
  · rw [hcommitted]
    exact h.once

omit [DecidableEq ι] in
/-- A commit of the first operation of its key. -/
theorem IdempotencyStore.Sound.commit (h : store.Sound request)
    (hopened : ExecutePhase.Opened (request i) store
      (.committing record writes result : ExecutePhase τ ε π)) :
    IdempotencyStore.Sound request
      { store with
        records := store.records.upsert record
        committed := store.committed ++ [(i, writes)] } := by
  obtain ⟨hidentity, hfingerprint, hnone, hstatus⟩ := hopened
  have hperformed : ∀ j, IdempotencyStore.Performed
      { store with
        records := store.records.upsert record
        committed := store.committed ++ [(i, writes)] } j ↔ store.Performed j ∨ j = i := by
    intro j
    simp [IdempotencyStore.Performed]
  have hfresh : ∀ j, store.Performed j → (request j).identity ≠ (request i).identity := by
    intro j hj heq
    obtain ⟨found, hfound, -⟩ := h.stored j hj
    rw [heq, hnone] at hfound
    cases hfound
  refine ⟨?_, ?_, ?_, ?_⟩
  · intro row hrow
    rcases Table.mem_upsert_iff.mp hrow with rfl | ⟨hrow, -⟩
    · exact hstatus
    · exact h.completed row hrow
  · intro row hrow
    rcases Table.mem_upsert_iff.mp hrow with rfl | ⟨hrow, -⟩
    · exact ⟨i, (hperformed i).mpr (Or.inr rfl), hidentity, hfingerprint⟩
    · obtain ⟨j, hj, hrest⟩ := h.recorded row hrow
      exact ⟨j, (hperformed j).mpr (Or.inl hj), hrest⟩
  · intro j hj
    rcases (hperformed j).mp hj with hj | rfl
    · obtain ⟨found, hfound, hrest⟩ := h.stored j hj
      refine ⟨found, ?_, hrest⟩
      rw [Table.lookup_upsert_of_ne]
      · exact hfound
      · rw [hidentity]
        exact (hfresh j hj).symm
    · refine ⟨record, ?_, hfingerprint⟩
      rw [← hidentity]
      exact Table.lookup_upsert_self
  · rw [List.map_append, List.nodup_append]
    refine ⟨h.once, List.nodup_singleton _, ?_⟩
    intro identity hold new hnew heq
    obtain ⟨operation, hoperation, rfl⟩ := List.mem_map.mp hold
    rw [List.map_singleton, List.mem_singleton] at hnew
    exact hfresh operation.1 (List.mem_map.mpr ⟨operation, hoperation, rfl⟩) (heq.trans hnew)

omit [DecidableEq ι] in
/-- A statement leaves the records right. -/
theorem IdempotencyStore.Sound.afterCommit (h : store.Sound request)
    (hopened : phase.Opened (request i) store) :
    (store.afterCommit i fate phase).Sound request := by
  rcases afterCommit_cases store i fate phase with heq | ⟨record, writes, result, rfl, -, heq⟩
  · rw [heq]
    exact h
  · rw [heq]
    exact h.commit hopened

omit [DecidableEq ι] in
/-- A reservation of a stored record leaves the call with that record. -/
theorem opened_reserve (h : store.Sound request)
    (hlookup : store.records.lookup call.identity = some record) :
    (reserve call record false : ExecutePhase τ ε π).Opened call store := by
  have hstatus : record.status = .completed := h.completed record (Table.mem_of_lookup hlookup)
  rcases reserve_cases (τ := τ) (ε := ε) call record false with
    ⟨heq, -⟩ | ⟨hfingerprint, ⟨heq, hfailed⟩ | ⟨heq, -⟩ | heq | ⟨heq, hcreated, -⟩⟩
  · rw [heq]
    trivial
  · rw [hstatus] at hfailed
    cases hfailed
  · rw [heq]
    exact ⟨hlookup, hfingerprint.resolve_left nofun⟩
  · rw [heq]
    trivial
  · cases hcreated

omit [DecidableEq ι] in
/-- The code between two statements keeps the record of the call. -/
theorem opened_nextPhase (h : store.Sound request) (hopened : phase.Opened call store) :
    (nextPhase codec call (store.records.lookup call.identity) locked choice phase).Opened
      call store := by
  cases phase with
  | get =>
    cases hlookup : store.records.lookup call.identity with
    | none => trivial
    | some record =>
      cases locked with
      | true => trivial
      | false => exact opened_reserve h hlookup
  | insert =>
    cases hlookup : store.records.lookup call.identity with
    | some record => trivial
    | none =>
      cases locked with
      | true => trivial
      | false => exact ⟨rfl, rfl, hlookup⟩
  | getAgain =>
    cases hlookup : store.records.lookup call.identity with
    | none => trivial
    | some record =>
      cases locked with
      | true => trivial
      | false => exact opened_reserve h hlookup
  | fallback =>
    cases hlookup : store.records.lookup call.identity with
    | none => trivial
    | some record =>
      cases locked with
      | true => trivial
      | false => exact opened_reserve h hlookup
  | resetting record => exact hopened.elim
  | running record writes =>
    unfold nextPhase
    cases choice.operation with
    | writes effect => exact hopened
    | raises exception => exact hopened
    | returns result => exact hopened
  | failing record exception => exact hopened
  | rollingBack record exception => trivial
  | completing record writes result =>
    unfold nextPhase
    dsimp only
    cases codec.serialize result with
    | error exception => trivial
    | ok payload =>
      obtain ⟨hidentity, hfingerprint, hnone⟩ := hopened
      exact ⟨hidentity, hfingerprint, hnone, rfl⟩
  | committing record writes result => trivial
  | replaying record =>
    unfold nextPhase
    dsimp only
    cases codec.deserialize call.identity.scope record.result with
    | error exception => trivial
    | ok result => trivial
  | done outcome => trivial

omit [DecidableEq ι] in
/-- The code between two statements takes the record only when no other transaction has it. -/
theorem holds_nextPhase
    (hholds : (nextPhase codec call stored locked choice phase).holds = true) :
    phase.holds = true ∨ locked = false := by
  cases hphase : phase.holds with
  | true => exact Or.inl rfl
  | false =>
    refine Or.inr ?_
    cases locked with
    | false => rfl
    | true =>
      exfalso
      cases phase with
      | get | insert | getAgain | fallback =>
        cases stored with
        | none => cases hholds
        | some record => cases hholds
      | done outcome => cases hholds
      | _ => cases hphase

omit [DecidableEq ι] in
theorem ExecutePhase.Opened.of_lookup (h : phase.Opened call store)
    (hlookup : store'.records.lookup call.identity = store.records.lookup call.identity) :
    phase.Opened call store' := by
  cases phase with
  | resetting record => exact h
  | running | failing | rollingBack | completing | committing | replaying =>
    unfold Opened at h ⊢
    rw [hlookup]
    exact h
  | _ => trivial

omit [DecidableEq ι] in
theorem ExecutePhase.opened_of_not_holds (h : ¬phase.holds = true) : phase.Opened call store := by
  cases phase with
  | get | insert | getAgain | fallback | done => trivial
  | _ => exact absurd rfl h

omit [DecidableEq ι] in
theorem ExecutePhase.uncommitted_of_afterFate (h : (next.afterFate fate phase).Uncommitted) :
    phase.Uncommitted := by
  cases phase with
  | done outcome =>
    cases fate with
    | answered | interrupted | answerLost => exact h
  | _ => trivial

omit [DecidableEq ι] in
/-- A commit ends its call. -/
theorem ExecutePhase.afterFate_committing (hfate : fate ≠ .interrupted) :
    ¬((nextPhase codec call stored locked choice (.committing record writes result)).afterFate fate
      (.committing record writes result)).Uncommitted := by
  cases fate with
  | answered => exact id
  | interrupted => exact absurd rfl hfate
  | answerLost => exact id

/-- A statement leaves its own call right. -/
theorem CallSound.self (hstore : store.Sound request) (h : CallSound request store i phase) :
    let next := nextPhase codec (request i) (store.records.lookup (request i).identity)
      (store.locks (request i).identity).isSome choice phase
    CallSound request
      ((store.afterCommit i fate phase).withLock i (request i).identity
        (next.afterFate fate phase)) i (next.afterFate fate phase) := by
  intro next
  refine ⟨withLock_locks_self, ?_, ?_⟩
  · rcases afterFate_cases fate phase next with ⟨outcome, heq⟩ | ⟨hfate, heq⟩
    · rw [heq]
      trivial
    · rw [heq]
      rcases afterCommit_cases store i fate phase with hcommit | ⟨record, writes, result, rfl, -⟩
      · refine (opened_nextPhase hstore h.opened).of_lookup ?_
        rw [withLock_records, hcommit]
      · trivial
  · intro huncommitted hperformed
    have hbefore : ¬store.Performed i :=
      h.uncommitted (ExecutePhase.uncommitted_of_afterFate huncommitted)
    unfold IdempotencyStore.Performed at hbefore hperformed
    rw [withLock_committed] at hperformed
    rcases afterCommit_cases store i fate phase with
      hcommit | ⟨record, writes, result, rfl, hfate, -⟩
    · rw [hcommit] at hperformed
      exact hbefore hperformed
    · exact ExecutePhase.afterFate_committing hfate huncommitted

/-- A statement leaves the other calls right. -/
theorem CallSound.other {phase' : ExecutePhase τ ε π} (hne : j ≠ i)
    (hself : CallSound request store i phase)
    (hfree : next.holds = true → store.locks (request i).identity = some i ∨
      store.locks (request i).identity = none)
    (h : CallSound request store j phase') :
    CallSound request
      ((store.afterCommit i fate phase).withLock i (request i).identity next) j phase' := by
  refine ⟨?_, ?_, ?_⟩
  · rw [withLock_locks_other hne, afterCommit_locks]
    · exact h.locked
    · rw [afterCommit_locks]
      exact hfree
  · rcases afterCommit_cases store i fate phase with
      hcommit | ⟨record, writes, result, rfl, -, hcommit⟩
    · refine h.opened.of_lookup ?_
      rw [withLock_records, hcommit]
    · by_cases hkey : (request j).identity = (request i).identity
      · have hlock : store.locks (request i).identity = some i := hself.locked.mpr rfl
        refine ExecutePhase.opened_of_not_holds fun hholds => ?_
        have hlock' : store.locks (request j).identity = some j := h.locked.mpr hholds
        rw [hkey, hlock] at hlock'
        exact hne (Option.some.inj hlock').symm
      · refine h.opened.of_lookup ?_
        rw [withLock_records, hcommit]
        refine Table.lookup_upsert_of_ne ?_
        rw [hself.opened.1]
        exact Ne.symm hkey
  · intro huncommitted hperformed
    refine h.uncommitted huncommitted ?_
    unfold IdempotencyStore.Performed at hperformed ⊢
    rw [withLock_committed] at hperformed
    rcases afterCommit_cases store i fate phase with
      hcommit | ⟨record, writes, result, rfl, -, hcommit⟩
    · rwa [hcommit] at hperformed
    · rw [hcommit] at hperformed
      simpa [hne] using hperformed

end Sound

/-- What holds in every state of a run. -/
abbrev ExecuteCalls.Sound (request : ι → ExecuteOnce) (s : ExecuteCalls ι τ ε π) : Prop :=
  s.Holds (IdempotencyStore.Sound request) (CallSound request)

variable {s : ExecuteCalls ι τ ε π}

omit [DecidableEq ι] in
theorem ExecuteCalls.sound_start : (start : ExecuteCalls ι τ ε π).Sound request where
  stored :=
    { completed := nofun
      recorded := nofun
      stored := nofun
      once := List.nodup_nil }
  session _ := ⟨⟨nofun, nofun⟩, trivial, nofun⟩

/-- A statement of a call that has not the lock takes it only when it is free. -/
theorem ExecuteCalls.Sound.free (h : s.Sound request) {i : ι} {choice : ExecuteChoice τ ε}
    (hholds : ((executeOnce request codec s i choice).2).holds = true) :
    s.store.locks (request i).identity = some i ∨ s.store.locks (request i).identity = none := by
  rcases afterFate_cases choice.fate (s.phase i) _ with ⟨outcome, heq⟩ | ⟨-, heq⟩
  · rw [executeOnce, heq] at hholds
    cases hholds
  · rw [executeOnce, heq] at hholds
    rcases holds_nextPhase hholds with hbefore | hfree
    · exact Or.inl ((h.session i).locked.mpr hbefore)
    · exact Or.inr (Option.isSome_eq_false_iff.mp hfree |> Option.isNone_iff_eq_none.mp)

/-- Every statement keeps the records and the calls right. -/
theorem ExecuteCalls.Sound.step (h : s.Sound request) (turn : ι × ExecuteChoice τ ε) :
    ExecuteCalls.Sound request (s.step (executeOnce request codec) turn) := by
  obtain ⟨i, choice⟩ := turn
  refine Sessions.holds_step ?_ ?_ ?_
  · exact (h.stored.afterCommit (h.session i).opened).of_eq withLock_records withLock_committed
  · exact (h.session i).self h.stored
  · intro j hne
    exact CallSound.other hne (h.session i) h.free (h.session j)

variable (codec) in
/-- Every run keeps the records and the calls right. -/
theorem ExecuteCalls.Sound.run (h : s.Sound request) (turns : List (ι × ExecuteChoice τ ε)) :
    ExecuteCalls.Sound request (s.run (executeOnce request codec) turns) := by
  induction turns generalizing s with
  | nil => exact h
  | cons turn turns ih => exact ih (h.step turn)

/-! ### Calls with another fingerprint -/

/-- The call waits for the record, or it has ended in a conflict or before its commit. -/
def ExecutePhase.Refused : ExecutePhase τ ε π → Prop
  | .get | .insert | .getAgain | .fallback => True
  | .done outcome => outcome = .error .idempotencyConflict ∨ outcome = .error .interrupted
  | _ => False

/-- The record of the key has another fingerprint, and the call does not get past it. -/
structure RefusedCall (request : ι → ExecuteOnce) (j : ι) (s : ExecuteCalls ι τ ε π) : Prop where
  record : ∃ record, s.store.records.lookup (request j).identity = some record ∧
    record.payload_fingerprint ≠ (request j).payload_fingerprint
  phase : (s.phase j).Refused

section Refused

variable {i j : ι} {choice : ExecuteChoice τ ε} {record : VendorIdempotencyRecord π}
  {phase next : ExecutePhase τ ε π} {fate : Fate} {call : ExecuteOnce} {locked : Bool}
  {key : IdempotencyKey}

/-- A stored record stays as it is. -/
theorem ExecuteCalls.Sound.lookup_step (h : s.Sound request) (turn : ι × ExecuteChoice τ ε)
    (hlookup : s.store.records.lookup key = some record) :
    (s.step (executeOnce request codec) turn).store.records.lookup key = some record := by
  obtain ⟨i, choice⟩ := turn
  rw [Sessions.step_store]
  dsimp only [executeOnce]
  rw [withLock_records]
  rcases afterCommit_cases s.store i choice.fate (s.phase i) with
    hcommit | ⟨own, writes, result, hphase, -, hcommit⟩
  · rw [hcommit]
    exact hlookup
  · rw [hcommit]
    have hopened := (h.session i).opened
    rw [hphase] at hopened
    obtain ⟨hidentity, -, hnone, -⟩ := hopened
    refine (Table.lookup_upsert_of_ne fun heq => ?_).trans hlookup
    rw [← hidentity, heq, hlookup] at hnone
    cases hnone

omit [DecidableEq ι] in
theorem reserve_refused
    (hfingerprint : record.payload_fingerprint ≠ call.payload_fingerprint) :
    (reserve call record false : ExecutePhase τ ε π) = .done (.error .idempotencyConflict) :=
  if_pos ⟨rfl, hfingerprint⟩

omit [DecidableEq ι] in
theorem refused_nextPhase
    (hfingerprint : record.payload_fingerprint ≠ call.payload_fingerprint)
    (hphase : phase.Refused) :
    (nextPhase codec call (some record) locked choice phase).Refused := by
  cases phase with
  | insert => trivial
  | get | getAgain | fallback =>
    cases locked with
    | true => trivial
    | false =>
      change (reserve call record false).Refused
      rw [reserve_refused hfingerprint]
      exact Or.inl rfl
  | done outcome => exact hphase
  | _ => exact hphase.elim

omit [DecidableEq ι] in
theorem refused_afterFate (hphase : phase.Refused) (hnext : next.Refused) :
    (next.afterFate fate phase).Refused := by
  cases phase with
  | done outcome =>
    cases fate with
    | answered | interrupted | answerLost => exact hphase
  | get | insert | getAgain | fallback =>
    cases fate with
    | answered => exact hnext
    | interrupted | answerLost => exact Or.inr rfl
  | _ => exact hphase.elim

/-- Every statement leaves a refused call refused. -/
theorem RefusedCall.step (hrefused : RefusedCall request j s) (h : s.Sound request)
    (turn : ι × ExecuteChoice τ ε) :
    RefusedCall request j (s.step (executeOnce request codec) turn) := by
  obtain ⟨record, hlookup, hfingerprint⟩ := hrefused.record
  refine ⟨⟨record, h.lookup_step turn hlookup, hfingerprint⟩, ?_⟩
  obtain ⟨i, choice⟩ := turn
  by_cases hj : j = i
  · subst hj
    rw [Sessions.step_phase_self]
    dsimp only [executeOnce]
    rw [hlookup]
    exact refused_afterFate hrefused.phase (refused_nextPhase hfingerprint hrefused.phase)
  · rw [Sessions.step_phase_of_ne hj]
    exact hrefused.phase

variable (codec) in
/-- Every run leaves a refused call refused. -/
theorem RefusedCall.run (hrefused : RefusedCall request j s) (h : s.Sound request)
    (turns : List (ι × ExecuteChoice τ ε)) :
    RefusedCall request j (s.run (executeOnce request codec) turns) := by
  induction turns generalizing s with
  | nil => exact hrefused
  | cons turn turns ih => exact ih (hrefused.step h turn) (h.step turn)

omit [DecidableEq ι] in
/-- A call that has not ended when an operation of its key and another fingerprint is committed
is refused. -/
theorem ExecuteCalls.Sound.refused (h : s.Sound request) (hperformed : s.store.Performed i)
    (hkey : (request i).identity = (request j).identity)
    (hfingerprint : (request i).payload_fingerprint ≠ (request j).payload_fingerprint)
    (hphase : ∀ outcome, s.phase j ≠ .done outcome) : RefusedCall request j s := by
  obtain ⟨record, hlookup, hrecord⟩ := h.stored.stored i hperformed
  rw [hkey] at hlookup
  have hdiffers : record.payload_fingerprint ≠ (request j).payload_fingerprint :=
    hrecord ▸ hfingerprint
  refine ⟨⟨record, hlookup, hdiffers⟩, ?_⟩
  have hopened := (h.session j).opened
  generalize s.phase j = phase at hopened hphase
  cases phase with
  | get | insert | getAgain | fallback => trivial
  | resetting => exact hopened
  | running | failing | rollingBack | completing =>
    rw [hopened.2.2] at hlookup
    cases hlookup
  | committing =>
    rw [hopened.2.2.1] at hlookup
    cases hlookup
  | replaying own =>
    obtain ⟨hown, hagrees⟩ := hopened
    rw [hown] at hlookup
    exact absurd (Option.some.inj hlookup ▸ hagrees) hdiffers
  | done outcome => exact absurd rfl (hphase outcome)

end Refused

/-! ### A call whose key is free -/

/-- The call is in this phase, its key has no record, and these operations are committed. -/
structure KeyUnused (request : ι → ExecuteOnce) (j : ι) (committed : List (ι × List ε))
    (phase : ExecutePhase τ ε π) (s : ExecuteCalls ι τ ε π) : Prop where
  phase_eq : s.phase j = phase
  record_eq : s.store.records.lookup (request j).identity = none
  lock_eq : s.store.locks (request j).identity = if phase.holds then some j else none
  committed_eq : s.store.committed = committed

/-- The turns of a call whose operation makes these writes and then returns. -/
def performTurns (j : ι) (writes : List ε) (result : τ) (now : Datetime) :
    List (ι × ExecuteChoice τ ε) :=
  let turn := fun operation => (j, { operation, now, fate := .answered })
  turn (.returns result) :: turn (.returns result) ::
    (writes.map fun effect => turn (.writes effect)) ++
    [turn (.returns result), turn (.returns result), turn (.returns result)]

section Unused

variable {j : ι} {committed : List (ι × List ε)} {phase : ExecutePhase τ ε π}
  {choice : ExecuteChoice τ ε} {record : VendorIdempotencyRecord π} {writes effects : List ε}

variable (codec choice) in
/-- An answered statement that does not commit takes the call to its next phase. -/
theorem KeyUnused.step (h : KeyUnused request j committed phase s)
    (hfate : choice.fate = .answered) (hphase : ∀ outcome, phase ≠ .done outcome)
    (hcommit : s.store.afterCommit j .answered phase = s.store) :
    KeyUnused request j committed
      (nextPhase codec (request j) none phase.holds choice phase)
      (s.step (executeOnce request codec) (j, choice)) := by
  have hlocked : (s.store.locks (request j).identity).isSome = phase.holds := by
    rw [h.lock_eq]
    cases phase.holds with
    | true => rfl
    | false => rfl
  have hnext : (executeOnce request codec s j choice).2 =
      nextPhase codec (request j) none phase.holds choice phase := by
    dsimp only [executeOnce]
    rw [h.phase_eq, h.record_eq, hlocked, hfate]
    cases phase with
    | done outcome => exact absurd rfl (hphase outcome)
    | _ => rfl
  have hstore : (executeOnce request codec s j choice).1 = s.store.withLock j
      (request j).identity (executeOnce request codec s j choice).2 := by
    dsimp only [executeOnce]
    rw [h.phase_eq, hfate, hcommit]
  refine ⟨?_, ?_, ?_, ?_⟩
  · rw [Sessions.step_phase_self, hnext]
  · rw [Sessions.step_store, hstore, withLock_records]
    exact h.record_eq
  · rw [Sessions.step_store, hstore, hnext]
    have hlock := h.lock_eq
    unfold IdempotencyStore.withLock
    split
    · next hholds => exact Function.update_self ..
    · next hholds =>
      split
      · exact Function.update_self ..
      · next hown =>
        cases hbefore : phase.holds with
        | true =>
          rw [hbefore] at hlock
          exact absurd hlock hown
        | false =>
          rw [hbefore] at hlock
          exact hlock
  · rw [Sessions.step_store, hstore, withLock_committed]
    exact h.committed_eq

variable (codec effects) in
/-- The writes of an operation. -/
theorem KeyUnused.run_writes (now : Datetime)
    (h : KeyUnused request j committed (.running record writes) s) :
    KeyUnused request j committed (.running record (writes ++ effects))
      (s.run (executeOnce request codec) (effects.map fun effect =>
        (j, { operation := .writes effect, now, fate := .answered }))) := by
  induction effects generalizing s writes with
  | nil =>
    rw [List.append_nil]
    exact h
  | cons effect effects ih =>
    have hstep := ih (h.step codec ⟨.writes effect, now, .answered⟩ rfl nofun rfl)
    rw [List.append_assoc] at hstep
    exact hstep

omit [DecidableEq ι] in
theorem nextPhase_completing {call : ExecuteOnce} {stored : Option (VendorIdempotencyRecord π)}
    {locked : Bool} {result : τ} {payload : π} (hpayload : codec.serialize result = .ok payload) :
    nextPhase codec call stored locked choice (.completing record writes result) =
      .committing { record with
        status := .completed
        result := some payload
        completed_at := some choice.now
        last_error := none } writes result := by
  unfold nextPhase
  dsimp only
  rw [hpayload]

variable (codec choice) in
/-- A commit ends the call and keeps its writes. -/
theorem KeyUnused.commit {result : τ}
    (h : KeyUnused request j committed (.committing record writes result) s)
    (hfate : choice.fate = .answered) :
    let s' := s.step (executeOnce request codec) (j, choice)
    s'.phase j = .done (.ok result) ∧ s'.store.committed = committed ++ [(j, writes)] := by
  constructor
  · refine Sessions.step_phase_self.trans ?_
    dsimp only [executeOnce]
    rw [h.phase_eq, hfate]
    rfl
  · refine (congrArg IdempotencyStore.committed Sessions.step_store).trans ?_
    dsimp only [executeOnce]
    rw [withLock_committed, h.phase_eq, hfate]
    exact congrArg (· ++ [(j, writes)]) h.committed_eq

/-- A call whose key is free performs its operation. -/
theorem KeyUnused.run_performTurns {result : τ} {payload : π} {now : Datetime}
    (h : KeyUnused request j committed .get s) (hpayload : codec.serialize result = .ok payload) :
    let s' := s.run (executeOnce request codec) (performTurns j writes result now)
    s'.phase j = .done (.ok result) ∧ s'.store.committed = committed ++ [(j, writes)] := by
  let turn : ExecuteChoice τ ε := ⟨.returns result, now, .answered⟩
  have hinsert : KeyUnused request j committed .insert _ := h.step codec turn rfl nofun rfl
  have hrunning : KeyUnused request j committed (.running (request j).newRecord []) _ :=
    hinsert.step codec turn rfl nofun rfl
  have hwritten := hrunning.run_writes codec writes now
  have hcompleting :
      KeyUnused request j committed (.completing (request j).newRecord writes result) _ :=
    hwritten.step codec turn rfl nofun rfl
  have hcommitting := hcompleting.step codec turn rfl nofun rfl
  rw [nextPhase_completing hpayload] at hcommitting
  have hdone := hcommitting.commit codec turn rfl
  unfold performTurns
  rw [Sessions.run_append]
  exact hdone

end Unused

/-! ### What `execute_once` promises -/

/-- What `execute_once` promises in a state, and for every continuation from it. -/
structure ExecutedOnce (request : ι → ExecuteOnce) (codec : ResultCodec τ π)
    (s : ExecuteCalls ι τ ε π) : Prop where
  /-- Of the calls with one key, whatever their fingerprints, at most one commits its operation,
  and commits it once. -/
  once : ∀ key,
    (s.store.committed.filter fun operation => (request operation.1).identity = key).length ≤ 1
  /-- Two calls with one key never have their operations open at the same time. -/
  apart : ∀ i j, (request i).identity = (request j).identity →
    (s.phase i).operates = true → (s.phase j).operates = true → i = j
  /-- Once an operation of the key is committed, a call with another fingerprint that has not
  ended never runs its operation, and it ends in a conflict unless it is interrupted. -/
  refused : ∀ i j, s.store.Performed i → (request i).identity = (request j).identity →
    (request i).payload_fingerprint ≠ (request j).payload_fingerprint →
    (∀ outcome, s.phase j ≠ .done outcome) → ∀ turns,
      let s' := s.run (executeOnce request codec) turns
      (s'.phase j).operates = false ∧ ¬s'.store.Performed j ∧
        ∀ outcome, s'.phase j = .done outcome →
          outcome = .error .idempotencyConflict ∨ outcome = .error .interrupted
  /-- Such a call raises the conflict as soon as it has the record. -/
  conflict : ∀ i j, s.store.Performed i → (request i).identity = (request j).identity →
    (request i).payload_fingerprint ≠ (request j).payload_fingerprint → s.phase j = .get →
    s.store.locks (request j).identity = none → ∀ choice : ExecuteChoice τ ε,
      choice.fate = .answered →
      (s.step (executeOnce request codec) (j, choice)).phase j =
        .done (.error .idempotencyConflict)
  /-- Of a call that has raised nothing is stored, and it has no lock. -/
  unstored : ∀ i error, s.phase i = .done (.error error) → error ≠ .answerLost →
    ¬s.store.Performed i ∧ s.store.locks (request i).identity ≠ some i
  /-- Every stored record is that of a committed operation. -/
  recorded : ∀ record ∈ s.store.records.rows, ∃ i, s.store.Performed i ∧
    record.identity = (request i).identity ∧
    record.payload_fingerprint = (request i).payload_fingerprint
  /-- A key without a committed operation and without an open transaction can be used, also after
  calls that have failed. -/
  reusable : ∀ j, s.phase j = .get →
    (∀ i, s.store.Performed i → (request i).identity ≠ (request j).identity) →
    s.store.locks (request j).identity = none → ∀ writes result payload now,
      codec.serialize result = .ok payload →
      let s' := s.run (executeOnce request codec) (performTurns j writes result now)
      s'.phase j = .done (.ok result) ∧ s'.store.committed = s.store.committed ++ [(j, writes)]

section Contract

variable {phase : ExecutePhase τ ε π} {j : ι}

omit [DecidableEq ι] in
theorem ExecutePhase.holds_of_operates (h : phase.operates = true) : phase.holds = true := by
  cases phase with
  | running | failing | rollingBack | completing | committing => rfl
  | _ => cases h

omit [DecidableEq ι] in
theorem ExecutePhase.Refused.operates_eq (h : phase.Refused) : phase.operates = false := by
  cases phase with
  | running | failing | rollingBack | completing | committing => exact h.elim
  | _ => rfl

omit [DecidableEq ι] in
/-- At most one operation of a key is committed. -/
theorem IdempotencyStore.Sound.length_filter_le {store : IdempotencyStore ι ε π}
    (h : store.Sound request) (key : IdempotencyKey) :
    (store.committed.filter fun operation => (request operation.1).identity = key).length ≤ 1 := by
  have hcount := List.nodup_iff_count_le_one.mp h.once key
  rw [List.count_eq_countP, List.countP_map, List.countP_eq_length_filter] at hcount
  simpa [Function.comp_def, beq_eq_decide] using hcount

omit [DecidableEq ι] in
/-- A key without a committed operation has no record. -/
theorem IdempotencyStore.Sound.lookup_eq_none {store : IdempotencyStore ι ε π}
    (h : store.Sound request)
    (hunused : ∀ i, store.Performed i → (request i).identity ≠ (request j).identity) :
    store.records.lookup (request j).identity = none := by
  cases hlookup : store.records.lookup (request j).identity with
  | none => rfl
  | some record =>
    obtain ⟨i, hi, hidentity, -⟩ := h.recorded record (Table.mem_of_lookup hlookup)
    exact absurd (hidentity.symm.trans (Table.key_of_lookup hlookup)) (hunused i hi)

/-- `execute_once` keeps its promises in every right state. -/
theorem ExecuteCalls.Sound.executedOnce (h : s.Sound request) (codec : ResultCodec τ π) :
    ExecutedOnce request codec s where
  once := h.stored.length_filter_le
  apart i j hkey hi hj := by
    have hlock := (h.session i).locked.mpr (ExecutePhase.holds_of_operates hi)
    have hlock' := (h.session j).locked.mpr (ExecutePhase.holds_of_operates hj)
    rw [hkey, hlock'] at hlock
    exact (Option.some.inj hlock).symm
  refused i j hperformed hkey hfingerprint hphase turns := by
    have hrefused := (h.refused hperformed hkey hfingerprint hphase).run codec h turns
    refine ⟨hrefused.phase.operates_eq, ?_, ?_⟩
    · intro hown
      obtain ⟨record, hlookup, hdiffers⟩ := hrefused.record
      obtain ⟨record', hlookup', hagrees⟩ := (h.run codec turns).stored.stored j hown
      rw [hlookup] at hlookup'
      exact hdiffers (Option.some.inj hlookup' ▸ hagrees)
    · intro outcome houtcome
      have hended := hrefused.phase
      rw [houtcome] at hended
      exact hended
  conflict i j hperformed hkey hfingerprint hphase hlock choice hfate := by
    obtain ⟨record, hlookup, hrecord⟩ := h.stored.stored i hperformed
    rw [hkey] at hlookup
    rw [Sessions.step_phase_self]
    dsimp only [executeOnce]
    rw [hphase, hlookup, hlock, hfate]
    exact reserve_refused (hrecord ▸ hfingerprint)
  unstored i error hphase herror := by
    have hcall := h.session i
    rw [hphase] at hcall
    refine ⟨hcall.uncommitted ?_, fun hlock => ?_⟩
    · cases error with
      | answerLost => exact absurd rfl herror
      | _ => trivial
    · cases hcall.locked.mp hlock
  recorded := h.stored.recorded
  reusable j hphase hunused hlock writes result payload now hpayload :=
    KeyUnused.run_performTurns ⟨hphase, h.stored.lookup_eq_none hunused, hlock, rfl⟩ hpayload

end Contract

/-- In every interleaving of calls of `execute_once`, `execute_once` keeps its promises. -/
theorem operations_executed_once (request : ι → ExecuteOnce) (codec : ResultCodec τ π)
    (turns : List (ι × ExecuteChoice τ ε)) :
    ExecutedOnce request codec (ExecuteCalls.start.run (executeOnce request codec) turns) :=
  (ExecuteCalls.sound_start.run codec turns).executedOnce codec

end Linkapro.Vendors
