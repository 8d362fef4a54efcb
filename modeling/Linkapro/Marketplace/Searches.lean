import Linkapro.Marketplace.SearchCache
import Linkapro.Lib.Expiring

/-!
# Searches, changes of the listings and the version of the cache

A search reads the version of the cache, looks for an answer under that version, and
otherwise asks the database and stores the answer. A request that changes the listings
commits and then increments the version. Every call on Redis and every statement may
fail. The store also keeps track of the commits, so that an answer can be compared with
the changes that have been acknowledged.
-/

namespace Linkapro.Marketplace

open Lib

variable {ι φ : Type}

/-- An answer of the repository, and how many commits it has seen. -/
structure Computed (φ : Type) where
  result : SearchResultDTO φ
  commits : ℕ

/-- A cached text, with the answer that it was written for. -/
structure CacheEntry (φ : Type) where
  raw : Json φ
  computed : Computed φ

/-- The tables, Redis, and what has been committed and acknowledged. -/
structure SearchStore (φ : Type) where
  listings : List (VendorListing φ)
  reviews : List Review
  /-- The key `CACHE_VERSION_KEY`. -/
  version : Option ℕ
  results : ExpiringMap String (CacheEntry φ) Datetime
  /-- The counters of the rate limit. -/
  requests : String → ℕ
  clock : Datetime
  /-- How many requests have committed. -/
  commits : ℕ
  /-- The last commit that changed the listing of a vendor. -/
  changed : UUID → ℕ
  /-- How many commits there were when the cache got a version. -/
  bumped : ℕ → ℕ
  /-- The last change whose request has been answered with success. -/
  acknowledged : ℕ

/-- The version that the cache has, where a missing one counts as 0. -/
def SearchStore.current (store : SearchStore φ) : ℕ := store.version.getD 0

/-- The tables before any request. -/
def SearchStore.start (listings : List (VendorListing φ)) (reviews : List Review) :
    SearchStore φ where
  listings
  reviews
  version := none
  results := fun _ => none
  requests := fun _ => 0
  clock := 0
  commits := 0
  changed := fun _ => 0
  bumped := fun _ => 0
  acknowledged := 0

/-- A request to the marketplace service. -/
inductive SearchRequest (φ : Type) : Type where
  | search (criteria : MarketplaceSearchCriteria φ) (client_id : String)
  | upsert_listing (payload : InternalListingUpsertRequest φ)
  | delete_listing (vendor_id : UUID)

/-- How far a request has come. A search carries the change that had been acknowledged when it
began. -/
inductive SearchPhase (φ : Type) : Type where
  | idle
  /-- Before the request is counted. -/
  | limiting (criteria : MarketplaceSearchCriteria φ) (client_id : String) (since : ℕ)
  /-- Before the counter gets its time to live. -/
  | expiring (criteria : MarketplaceSearchCriteria φ) (since : ℕ)
  /-- Before the version is read. -/
  | versioning (criteria : MarketplaceSearchCriteria φ) (since : ℕ)
  /-- Before the missing version is set. -/
  | creatingVersion (criteria : MarketplaceSearchCriteria φ) (since : ℕ)
  /-- Before the version is read again. -/
  | rereadingVersion (criteria : MarketplaceSearchCriteria φ) (since : ℕ)
  /-- Before the cached answer is read. -/
  | reading (criteria : MarketplaceSearchCriteria φ) (since version : ℕ)
  /-- Before the listings are counted. Without a version the answer is not cached. -/
  | counting (criteria : MarketplaceSearchCriteria φ) (since : ℕ) (version : Option ℕ)
  /-- Before the listings are read. -/
  | selecting (criteria : MarketplaceSearchCriteria φ) (since : ℕ) (version : Option ℕ)
      (total commits : ℕ)
  /-- Before the answer is cached. -/
  | caching (criteria : MarketplaceSearchCriteria φ) (since version : ℕ) (computed : Computed φ)
  /-- The search has answered. -/
  | answered (since : ℕ) (answer : SearchResultDTO φ) (computed : Computed φ)
  /-- Before the listing is read by its vendor. -/
  | upserting (payload : InternalListingUpsertRequest φ)
  /-- Before the listing is read by its external id. -/
  | upsertingExternal (payload : InternalListingUpsertRequest φ) (external_id : String)
  /-- Before the commit of an upsert. -/
  | upsertLoaded (payload : InternalListingUpsertRequest φ) (listing : Option (VendorListing φ))
  /-- Before the listing to delete is read. -/
  | removing (vendor_id : UUID)
  /-- Before the commit of a deletion. -/
  | removingLoaded (listing : VendorListing φ)
  /-- Before the version is incremented for a change. -/
  | invalidating (change : ℕ)
  /-- The change has been answered with success. -/
  | done
  /-- The request has been answered with an error, or has crashed. -/
  | failed

/-- No request is in progress. -/
def SearchPhase.isFinished : SearchPhase φ → Bool
  | idle | answered _ _ _ | done | failed => true
  | _ => false

/-- What a step leaves open. -/
structure SearchChoice where
  /-- Microseconds since the previous step. -/
  elapsed : ℕ
  /-- Whether the call fails, and if it does, whether it took effect before. -/
  fault : Option Bool
  /-- The id of a listing that is inserted. -/
  id : UUID

/-- What happens on the turn of a request. -/
inductive SearchEvent (φ : Type) : Type where
  | start (request : SearchRequest φ)
  | next (choice : SearchChoice)
  /-- The process stops. -/
  | crash

section Writes

variable [DecidableEq φ]

/-- The listings after an INSERT with its three unique columns, and the vendors whose listing has
changed; `none` when it raises. -/
def insertRow (listing : VendorListing φ) (store : SearchStore φ) :
    Option (List (VendorListing φ) × List UUID) :=
  if listing.id ∈ store.listings.map (·.id) ∨
      listing.vendor_id ∈ store.listings.map (·.vendor_id) ∨
      ∃ row ∈ store.listings, row.external_id.isSome ∧ row.external_id = listing.external_id then
    none
  else some (store.listings ++ [listing], [listing.vendor_id])

/-- The listings after the UPDATE of an upsert. A row that is gone raises. -/
def updateRow (payload : InternalListingUpsertRequest φ) (loaded : VendorListing φ)
    (store : SearchStore φ) : Option (List (VendorListing φ) × List UUID) :=
  match findRow loaded.id store.listings with
  | none => none
  | some row =>
    let new := VendorListing.overwrite payload loaded row
    if new.vendor_id ≠ row.vendor_id ∧ ofVendor row.vendor_id store.reviews ≠ [] then none
    else if ∃ other ∈ store.listings, other.id ≠ row.id ∧
        (other.vendor_id = new.vendor_id ∨
          other.external_id.isSome ∧ other.external_id = new.external_id) then
      none
    else
      some (store.listings.map fun row =>
        if row.id = loaded.id then VendorListing.overwrite payload loaded row else row,
        [row.vendor_id, new.vendor_id])

/-- The listings after a DELETE. A row that is gone is no error. -/
def removeRow (loaded : VendorListing φ) (store : SearchStore φ) :
    Option (List (VendorListing φ) × List UUID) :=
  match findRow loaded.id store.listings with
  | none => some (store.listings, [])
  | some row =>
    if ofVendor row.vendor_id store.reviews ≠ [] then none
    else some (store.listings.filter fun row => row.id ≠ loaded.id, [row.vendor_id])

section Tables

variable [Fintype ι] [DecidableEq ι] {store : SearchStore φ} {s : Service ι φ} {i : ι}

/-- The store has the tables of the marketplace database. -/
def SearchStore.HasTables (store : SearchStore φ) (tables : Store φ) : Prop :=
  store.listings = tables.listings ∧ store.reviews = tables.reviews

omit [DecidableEq φ] [Fintype ι] [DecidableEq ι] in
/-- The INSERT writes what the one of the marketplace database writes. -/
theorem insertListing_listings (h : store.HasTables s.store) (listing : VendorListing φ) :
    (insertListing s.store listing).listings =
      ((insertRow listing store).map Prod.fst).getD s.store.listings := by
  unfold insertListing insertRow
  rw [h.1]
  split <;> rfl

/-- The UPDATE writes what the one of the marketplace database writes when it need not wait. -/
theorem updateListing_listings (h : store.HasTables s.store)
    (hfree : ∀ vendor_id, ¬Pinned s i vendor_id) (payload : InternalListingUpsertRequest φ)
    (loaded : VendorListing φ) :
    (updateListing s i payload loaded).1.listings =
      ((updateRow payload loaded store).map Prod.fst).getD s.store.listings := by
  unfold updateListing updateRow
  rw [h.1, h.2]
  cases findRow loaded.id s.store.listings with
  | none => rfl
  | some row =>
    dsimp only
    rw [if_neg fun hpinned => hfree _ hpinned.2]
    repeat' split
    all_goals rfl

omit [DecidableEq φ] in
/-- The DELETE removes what the one of the marketplace database removes when it need not wait. -/
theorem removeListing_listings (h : store.HasTables s.store)
    (hfree : ∀ vendor_id, ¬Pinned s i vendor_id) (loaded : VendorListing φ) :
    (removeListing s i loaded).1.listings =
      ((removeRow loaded store).map Prod.fst).getD s.store.listings := by
  unfold removeListing removeRow
  rw [h.1, h.2]
  cases findRow loaded.id s.store.listings with
  | none => rfl
  | some row =>
    dsimp only
    rw [if_neg (hfree _)]
    split <;> rfl

end Tables

/-- A committed change. -/
def SearchStore.commit (change : List (VendorListing φ) × List UUID) (store : SearchStore φ) :
    SearchStore φ :=
  { store with
    listings := change.1
    commits := store.commits + 1
    changed := fun vendor_id =>
      if vendor_id ∈ change.2 then store.commits + 1 else store.changed vendor_id }

/-- The commit of a request, which goes on to the version of the cache. -/
def commitChange (store : SearchStore φ) (fault : Option Bool) :
    Option (List (VendorListing φ) × List UUID) → SearchStore φ × SearchPhase φ
  | none => (store, .failed)
  | some change =>
    match fault with
    | none => (store.commit change, .invalidating (store.commits + 1))
    | some applied => (if applied then store.commit change else store, .failed)

end Writes

/-- `INCR` of the version. -/
def SearchStore.invalidate (store : SearchStore φ) : SearchStore φ :=
  { store with
    version := some (store.current + 1)
    bumped := Function.update store.bumped (store.current + 1) store.commits }

/-- `SET` of a missing version. -/
def SearchStore.createVersion (store : SearchStore φ) : SearchStore φ :=
  match store.version with
  | some _ => store
  | none =>
    { store with version := some 1, bumped := Function.update store.bumped 1 store.commits }

/-- The answer to a change with success. -/
def SearchStore.acknowledge (change : ℕ) (store : SearchStore φ) : SearchStore φ :=
  { store with acknowledged := max store.acknowledged change }

section Statements

variable [DecidableEq φ] (deployment : SearchDeployment φ)

/-- The counter of the current window. -/
def rateKey (store : SearchStore φ) (client_id : String) : String :=
  rateLimitKey client_id (store.clock / seconds deployment.rate_limit_window_seconds)

/-- `INCR` of the counter of the rate limit. -/
def countRequest (store : SearchStore φ) (client_id : String) : SearchStore φ :=
  { store with
    requests := Function.update store.requests (rateKey deployment store client_id)
      (store.requests (rateKey deployment store client_id) + 1) }

/-- `set_cached_result`. -/
def set_cached_result (criteria : MarketplaceSearchCriteria φ) (version : ℕ)
    (computed : Computed φ) (store : SearchStore φ) : SearchStore φ :=
  { store with
    results := store.results.set (build_cache_key deployment criteria version)
      { raw := _serialize_result computed.result, computed }
      (some (store.clock + seconds deployment.ttl_seconds)) }

/-- The first phase of a request. -/
def begin_request (store : SearchStore φ) : SearchRequest φ → SearchPhase φ
  | .search criteria client_id =>
    match _normalize_criteria deployment criteria with
    | none => .failed
    | some criteria => .limiting criteria client_id store.acknowledged
  | .upsert_listing payload => .upserting payload
  | .delete_listing vendor_id => .removing vendor_id

/-- The next call of a request on the store, with the phase after it. -/
def nextCall (choice : SearchChoice) (store : SearchStore φ) :
    SearchPhase φ → SearchStore φ × SearchPhase φ
  | .idle => (store, .idle)
  | .answered since answer computed => (store, .answered since answer computed)
  | .done => (store, .done)
  | .failed => (store, .failed)
  | .limiting criteria client_id since =>
    let counted := countRequest deployment store client_id
    let current := counted.requests (rateKey deployment store client_id)
    match choice.fault with
    | some applied => (if applied then counted else store, .counting criteria since none)
    | none =>
      (counted,
        if current = 1 then .expiring criteria since
        else if current > deployment.rate_limit_requests then .failed
        else .versioning criteria since)
  | .expiring criteria since =>
    (store,
      match choice.fault with
      | some _ => .counting criteria since none
      | none => if 1 > deployment.rate_limit_requests then .failed else .versioning criteria since)
  | .versioning criteria since =>
    (store,
      match choice.fault with
      | some _ => .counting criteria since none
      | none =>
        match store.version with
        | none => .creatingVersion criteria since
        | some version => .reading criteria since version)
  | .creatingVersion criteria since =>
    match choice.fault with
    | some applied =>
      (if applied then store.createVersion else store, .counting criteria since none)
    | none => (store.createVersion, .rereadingVersion criteria since)
  | .rereadingVersion criteria since =>
    (store,
      match choice.fault with
      | some _ => .counting criteria since none
      | none => .reading criteria since (store.version.getD 1))
  | .reading criteria since version =>
    (store,
      match choice.fault with
      | some _ => .counting criteria since none
      | none =>
        match store.results.get store.clock (build_cache_key deployment criteria version) with
        | none => .counting criteria since (some version)
        | some entry =>
          match readResult entry.raw with
          | none => .failed
          | some answer => .answered since answer entry.computed)
  | .counting criteria since version =>
    (store,
      match choice.fault with
      | some _ => .failed
      | none =>
        .selecting criteria since version (count deployment criteria store.listings)
          store.commits)
  | .selecting criteria since version total commits =>
    (store,
      match choice.fault with
      | some _ => .failed
      | none =>
        let computed : Computed φ :=
          { result := searchResult deployment criteria total store.listings, commits }
        match version with
        | none => .answered since computed.result computed
        | some version => .caching criteria since version computed)
  | .caching criteria since version computed =>
    (if choice.fault = some false then store
      else set_cached_result deployment criteria version computed store,
      .answered since computed.result computed)
  | .upserting payload =>
    (store,
      match choice.fault with
      | some _ => .failed
      | none =>
        match findVendor payload.vendor_id store.listings, payload.externalId with
        | some listing, _ => .upsertLoaded payload (some listing)
        | none, none => .upsertLoaded payload none
        | none, some external_id =>
          if external_id = "" then .upsertLoaded payload none
          else .upsertingExternal payload external_id)
  | .upsertingExternal payload external_id =>
    (store,
      match choice.fault with
      | some _ => .failed
      | none => .upsertLoaded payload
        (store.listings.find? fun listing => listing.external_id = some external_id))
  | .upsertLoaded payload none =>
    if payload.isApproved then
      commitChange store choice.fault (insertRow (payload.listing choice.id) store)
    else (store, .invalidating (store.changed payload.vendor_id))
  | .upsertLoaded payload (some loaded) =>
    commitChange store choice.fault
      (if payload.isApproved then updateRow payload loaded store else removeRow loaded store)
  | .removing vendor_id =>
    match choice.fault with
    | some _ => (store, .failed)
    | none =>
      match findVendor vendor_id store.listings with
      | none => (store.acknowledge (store.changed vendor_id), .done)
      | some listing => (store, .removingLoaded listing)
  | .removingLoaded loaded => commitChange store choice.fault (removeRow loaded store)
  | .invalidating change =>
    match choice.fault with
    | some applied => (if applied then store.invalidate else store, .failed)
    | none => (store.invalidate.acknowledge change, .done)

/-- The turn of a request. A request is started only when none is in progress. -/
def searchStatement : Statement ι (SearchStore φ) (SearchPhase φ) (SearchEvent φ) :=
  fun s i event =>
    match event with
    | .start request =>
      (s.store, if (s.phase i).isFinished then begin_request deployment s.store request
        else s.phase i)
    | .next choice =>
      nextCall deployment choice { s.store with clock := s.store.clock + choice.elapsed }
        (s.phase i)
    | .crash => (s.store, .failed)

end Statements

/-! ### What every call keeps -/

/-- The version of the cache, the commits and the acknowledged changes only grow, and the commits
that a version stands for stay. -/
structure Later (store store' : SearchStore φ) : Prop where
  commits : store.commits ≤ store'.commits
  acknowledged : store.acknowledged ≤ store'.acknowledged
  current : store.current ≤ store'.current
  version : store.version.isSome = true → store'.version.isSome = true
  bumped : ∀ version ≤ store.current, store'.bumped version = store.bumped version

variable {deployment : SearchDeployment φ} {store store' store'' : SearchStore φ}

theorem Later.refl (store : SearchStore φ) : Later store store :=
  ⟨le_rfl, le_rfl, le_rfl, id, fun _ _ => rfl⟩

theorem Later.trans (h : Later store store') (h' : Later store' store'') : Later store store'' where
  commits := h.commits.trans h'.commits
  acknowledged := h.acknowledged.trans h'.acknowledged
  current := h.current.trans h'.current
  version hsome := h'.version (h.version hsome)
  bumped version hle := (h'.bumped version (hle.trans h.current)).trans (h.bumped version hle)

/-- An answer that has been computed with the commits that a version stands for. -/
structure Covers (store : SearchStore φ) (version commits : ℕ) : Prop where
  current : version ≤ store.current
  bumped : store.bumped version ≤ commits

theorem Covers.later {version commits : ℕ} (h : Covers store version commits)
    (hlater : Later store store') : Covers store' version commits where
  current := h.current.trans hlater.current
  bumped := (hlater.bumped version h.current).trans_le h.bumped

/-- What holds of the store: the acknowledged changes are among the commits of the current version,
and a cached text is the answer of a search that has seen the commits of its version. -/
structure CacheStored (deployment : SearchDeployment φ) (store : SearchStore φ) : Prop where
  bumped_le : ∀ version, store.bumped version ≤ store.commits
  changed_le : ∀ vendor_id, store.changed vendor_id ≤ store.commits
  acknowledged_le : store.acknowledged ≤ store.bumped store.current
  cached : ∀ key entry, store.results key = some entry →
    ∃ criteria version, key = build_cache_key deployment criteria version ∧
      Covers store version entry.value.computed.commits ∧
      entry.value.raw = _serialize_result entry.value.computed.result

theorem CacheStored.acknowledged_le_commits (h : CacheStored deployment store) :
    store.acknowledged ≤ store.commits :=
  h.acknowledged_le.trans (h.bumped_le _)

/-- What holds of a request: a search that has read a version asks for no change that is missing
in the commits of the version, and an answer has seen the changes it is asked for. -/
def InRequest (store : SearchStore φ) : SearchPhase φ → Prop
  | .limiting _ _ since | .expiring _ since | .versioning _ since | .creatingVersion _ since =>
    since ≤ store.acknowledged
  | .rereadingVersion _ since => since ≤ store.acknowledged ∧ store.version.isSome = true
  | .reading _ since version => version ≤ store.current ∧ since ≤ store.bumped version
  | .counting _ since version => since ≤ store.commits ∧ ∀ v ∈ version, v ≤ store.current
  | .selecting _ since version _ commits =>
    since ≤ commits ∧ ∀ v ∈ version, Covers store v commits
  | .caching _ since version computed =>
    since ≤ computed.commits ∧ Covers store version computed.commits
  | .answered since answer computed => since ≤ computed.commits ∧ answer = computed.result
  | .invalidating change => change ≤ store.commits
  | _ => True

theorem InRequest.later {phase : SearchPhase φ} (h : InRequest store phase)
    (hlater : Later store store') : InRequest store' phase := by
  cases phase with
  | limiting | expiring | versioning | creatingVersion =>
    exact (show _ ≤ store.acknowledged from h).trans hlater.acknowledged
  | rereadingVersion => exact ⟨h.1.trans hlater.acknowledged, hlater.version h.2⟩
  | reading criteria since version =>
    exact ⟨h.1.trans hlater.current, h.2.trans_eq (hlater.bumped version h.1).symm⟩
  | counting => exact ⟨h.1.trans hlater.commits, fun v hv => (h.2 v hv).trans hlater.current⟩
  | selecting => exact ⟨h.1, fun v hv => (h.2 v hv).later hlater⟩
  | caching => exact ⟨h.1, h.2.later hlater⟩
  | answered => exact h
  | invalidating => exact (show _ ≤ store.commits from h).trans hlater.commits
  | _ => trivial

/-- A call takes the store to a later one and keeps what holds of it. -/
structure Advances (deployment : SearchDeployment φ) (store store' : SearchStore φ) : Prop where
  later : Later store store'
  stored : CacheStored deployment store'

theorem CacheStored.advances (h : CacheStored deployment store) : Advances deployment store store :=
  ⟨.refl store, h⟩

theorem Advances.trans (h : Advances deployment store store')
    (h' : Advances deployment store' store'') : Advances deployment store store'' :=
  ⟨h.later.trans h'.later, h'.stored⟩

/-- A change of the counters and the clock. -/
theorem CacheStored.counters (h : CacheStored deployment store) (requests : String → ℕ)
    (clock : Datetime) :
    Advances deployment store { store with requests, clock } where
  later := ⟨le_rfl, le_rfl, le_rfl, id, fun _ _ => rfl⟩
  stored := {
    bumped_le := h.bumped_le
    changed_le := h.changed_le
    acknowledged_le := h.acknowledged_le
    cached := fun key entry hentry => by
      obtain ⟨criteria, version, hkey, hcovers, hraw⟩ := h.cached key entry hentry
      exact ⟨criteria, version, hkey, ⟨hcovers.current, hcovers.bumped⟩, hraw⟩ }

/-- A commit changes listings at a new number. -/
theorem CacheStored.commit (h : CacheStored deployment store)
    (change : List (VendorListing φ) × List UUID) :
    Advances deployment store (store.commit change) where
  later := ⟨Nat.le_succ _, le_rfl, le_rfl, id, fun _ _ => rfl⟩
  stored := {
    bumped_le := fun version => (h.bumped_le version).trans (Nat.le_succ _)
    changed_le := fun vendor_id => by
      change (if vendor_id ∈ change.2 then _ else _) ≤ store.commits + 1
      split
      · exact le_rfl
      · exact (h.changed_le vendor_id).trans (Nat.le_succ _)
    acknowledged_le := h.acknowledged_le
    cached := fun key entry hentry => by
      obtain ⟨criteria, version, hkey, hcovers, hraw⟩ := h.cached key entry hentry
      exact ⟨criteria, version, hkey, ⟨hcovers.current, hcovers.bumped⟩, hraw⟩ }

/-- A new version stands for all commits so far. -/
theorem CacheStored.newVersion (h : CacheStored deployment store) {version : ℕ}
    (hversion : version = store.current + 1) :
    Advances deployment store { store with
      version := some version
      bumped := Function.update store.bumped version store.commits } := by
  have hbumped : ∀ v ≤ store.current,
      Function.update store.bumped version store.commits v = store.bumped v := fun v hv =>
    Function.update_of_ne (by omega) _ _
  have hlater : Later store { store with
      version := some version
      bumped := Function.update store.bumped version store.commits } :=
    ⟨le_rfl, le_rfl, (by simp [SearchStore.current] at hversion ⊢; omega), fun _ => rfl, hbumped⟩
  refine ⟨hlater, fun v => ?_, h.changed_le, ?_, fun key entry hentry => ?_⟩
  · by_cases hv : v = version
    · subst hv
      exact (Function.update_self ..).le
    · change Function.update store.bumped version store.commits v ≤ store.commits
      rw [Function.update_of_ne hv]
      exact h.bumped_le v
  · change store.acknowledged ≤ Function.update store.bumped version store.commits version
    rw [Function.update_self]
    exact h.acknowledged_le_commits
  · obtain ⟨criteria, v, hkey, hcovers, hraw⟩ := h.cached key entry hentry
    exact ⟨criteria, v, hkey, hcovers.later hlater, hraw⟩

theorem CacheStored.invalidate (h : CacheStored deployment store) :
    Advances deployment store store.invalidate :=
  h.newVersion rfl

theorem CacheStored.createVersion (h : CacheStored deployment store) :
    Advances deployment store store.createVersion := by
  unfold SearchStore.createVersion
  cases hversion : store.version with
  | some version => exact h.advances
  | none => exact h.newVersion (by simp [SearchStore.current, hversion])

theorem SearchStore.isSome_createVersion (store : SearchStore φ) :
    store.createVersion.version.isSome = true := by
  unfold createVersion
  cases hversion : store.version with
  | some version => simp only [hversion, Option.isSome_some]
  | none => rfl

/-- A change is acknowledged when the current version stands for it. -/
theorem CacheStored.acknowledge (h : CacheStored deployment store) {change : ℕ}
    (hchange : change ≤ store.bumped store.current) :
    Advances deployment store (store.acknowledge change) where
  later := ⟨le_rfl, le_max_left _ _, le_rfl, id, fun _ _ => rfl⟩
  stored := {
    bumped_le := h.bumped_le
    changed_le := h.changed_le
    acknowledged_le := max_le h.acknowledged_le hchange
    cached := fun key entry hentry => by
      obtain ⟨criteria, version, hkey, hcovers, hraw⟩ := h.cached key entry hentry
      exact ⟨criteria, version, hkey, ⟨hcovers.current, hcovers.bumped⟩, hraw⟩ }

/-- An answer is cached under a version whose commits it has seen. -/
theorem CacheStored.set_cached_result (h : CacheStored deployment store)
    {criteria : MarketplaceSearchCriteria φ} {version : ℕ} {computed : Computed φ}
    (hcovers : Covers store version computed.commits) :
    Advances deployment store
      (Marketplace.set_cached_result deployment criteria version computed store) where
  later := ⟨le_rfl, le_rfl, le_rfl, id, fun _ _ => rfl⟩
  stored := {
    bumped_le := h.bumped_le
    changed_le := h.changed_le
    acknowledged_le := h.acknowledged_le
    cached := fun key entry hentry => by
      change Function.update store.results _ _ key = some entry at hentry
      by_cases hkey : key = build_cache_key deployment criteria version
      · subst hkey
        rw [Function.update_self] at hentry
        cases hentry
        exact ⟨criteria, version, rfl, ⟨hcovers.current, hcovers.bumped⟩, rfl⟩
      · rw [Function.update_of_ne hkey] at hentry
        obtain ⟨criteria', version', hkey', hcovers', hraw⟩ := h.cached key entry hentry
        exact ⟨criteria', version', hkey', ⟨hcovers'.current, hcovers'.bumped⟩, hraw⟩ }

/-! ### Calls -/

section Calls

variable [DecidableEq φ] {choice : SearchChoice}

/-- A deletion that finds no listing is answered when the current version of the cache stands for
the change that removed the listing. -/
def Invalidated (choice : SearchChoice) (store : SearchStore φ) : SearchPhase φ → Prop
  | .removing vendor_id =>
    choice.fault = none → findVendor vendor_id store.listings = none →
      store.changed vendor_id ≤ store.bumped store.current
  | _ => True

instance (choice : SearchChoice) (store : SearchStore φ) (phase : SearchPhase φ) :
    Decidable (Invalidated choice store phase) := by
  unfold Invalidated
  split <;> infer_instance

/-- What a call leaves behind. -/
def Leaves (deployment : SearchDeployment φ) (store : SearchStore φ)
    (result : SearchStore φ × SearchPhase φ) : Prop :=
  Advances deployment store result.1 ∧ InRequest result.1 result.2

omit [DecidableEq φ] in
/-- A call that leaves the store as it is. -/
theorem CacheStored.leaves (h : CacheStored deployment store) {phase : SearchPhase φ}
    (hphase : InRequest store phase) : Leaves deployment store (store, phase) :=
  ⟨h.advances, hphase⟩

omit [DecidableEq φ] in
theorem CacheStored.commitChange (h : CacheStored deployment store) {fault : Option Bool}
    {change : Option (List (VendorListing φ) × List UUID)} :
    Leaves deployment store (Marketplace.commitChange store fault change) := by
  cases change with
  | none => exact h.leaves trivial
  | some change =>
    cases fault with
    | none => exact ⟨h.commit change, le_rfl⟩
    | some applied =>
      cases applied with
      | true => exact ⟨h.commit change, trivial⟩
      | false => exact h.leaves trivial

omit [DecidableEq φ] in
/-- A cached answer is the one that it was stored for, and has seen every change before. -/
theorem CacheStored.read (h : CacheStored deployment store) {criteria : MarketplaceSearchCriteria φ}
    {since version : ℕ} (hsince : since ≤ store.bumped version) {entry : CacheEntry φ}
    (hentry : store.results.get store.clock (build_cache_key deployment criteria version) =
      some entry) :
    ∃ answer, readResult entry.raw = some answer ∧
      since ≤ entry.computed.commits ∧ answer = entry.computed.result := by
  obtain ⟨expiring, hexpiring, rfl⟩ := ExpiringMap.entry_of_get hentry
  obtain ⟨criteria', version', hkey, hcovers, hraw⟩ := h.cached _ _ hexpiring
  obtain rfl := version_of_build_cache_key hkey
  refine ⟨_, ?_, hsince.trans hcovers.bumped, rfl⟩
  rw [hraw]
  exact readResult_serialize_result

variable (choice) in
/-- Every call keeps what holds of the store and of its request. -/
theorem CacheStored.nextCall (h : CacheStored deployment store) {phase : SearchPhase φ}
    (hphase : InRequest store phase) (hinvalidated : Invalidated choice store phase) :
    Leaves deployment store (Marketplace.nextCall deployment choice store phase) := by
  cases phase with
  | idle | done | failed => exact h.leaves trivial
  | answered => exact h.leaves hphase
  | limiting criteria client_id since =>
    have hsince : since ≤ store.acknowledged := hphase
    have hcounted := h.counters (countRequest deployment store client_id).requests store.clock
    simp only [Marketplace.nextCall]
    cases hfault : choice.fault with
    | none =>
      refine ⟨hcounted, ?_⟩
      dsimp only
      split
      · exact hsince
      · split
        · trivial
        · exact hsince
    | some applied =>
      cases applied with
      | true => exact ⟨hcounted, hsince.trans h.acknowledged_le_commits, nofun⟩
      | false => exact h.leaves ⟨hsince.trans h.acknowledged_le_commits, nofun⟩
  | expiring criteria since =>
    have hsince : since ≤ store.acknowledged := hphase
    refine h.leaves ?_
    repeat' split
    · exact ⟨hsince.trans h.acknowledged_le_commits, nofun⟩
    · trivial
    · exact hsince
  | versioning criteria since =>
    have hsince : since ≤ store.acknowledged := hphase
    refine h.leaves ?_
    cases hfault : choice.fault with
    | some applied => exact ⟨hsince.trans h.acknowledged_le_commits, nofun⟩
    | none =>
      cases hversion : store.version with
      | none => exact hsince
      | some version =>
        have hcurrent : store.current = version := by simp [SearchStore.current, hversion]
        exact ⟨hcurrent.ge, hcurrent ▸ hsince.trans h.acknowledged_le⟩
  | creatingVersion criteria since =>
    have hsince : since ≤ store.acknowledged := hphase
    have hcreated := h.createVersion
    simp only [Marketplace.nextCall]
    cases hfault : choice.fault with
    | none =>
      exact ⟨hcreated, hsince.trans hcreated.later.acknowledged,
        SearchStore.isSome_createVersion store⟩
    | some applied =>
      cases applied with
      | true =>
        exact ⟨hcreated, (hsince.trans h.acknowledged_le_commits).trans hcreated.later.commits,
          nofun⟩
      | false => exact h.leaves ⟨hsince.trans h.acknowledged_le_commits, nofun⟩
  | rereadingVersion criteria since =>
    obtain ⟨hsince, hsome⟩ := hphase
    refine h.leaves ?_
    cases hfault : choice.fault with
    | some applied => exact ⟨hsince.trans h.acknowledged_le_commits, nofun⟩
    | none =>
      obtain ⟨version, hversion⟩ := Option.isSome_iff_exists.mp hsome
      have hcurrent : store.current = version := by simp [SearchStore.current, hversion]
      simp only [hversion, Option.getD_some]
      exact ⟨hcurrent.ge, hcurrent ▸ hsince.trans h.acknowledged_le⟩
  | reading criteria since version =>
    obtain ⟨hcurrent, hsince⟩ := hphase
    refine h.leaves ?_
    have hcommits : since ≤ store.commits := hsince.trans (h.bumped_le version)
    cases hfault : choice.fault with
    | some applied => exact ⟨hcommits, nofun⟩
    | none =>
      cases hentry : store.results.get store.clock
          (build_cache_key deployment criteria version) with
      | none =>
        exact ⟨hcommits, fun v hv => Option.some.inj hv ▸ hcurrent⟩
      | some entry =>
        obtain ⟨answer, hanswer, hfresh⟩ := h.read hsince hentry
        simp only [hanswer]
        exact hfresh
  | counting criteria since version =>
    obtain ⟨hsince, hcurrent⟩ := hphase
    refine h.leaves ?_
    cases hfault : choice.fault with
    | some applied => trivial
    | none => exact ⟨hsince, fun v hv => ⟨hcurrent v hv, h.bumped_le v⟩⟩
  | selecting criteria since version total commits =>
    obtain ⟨hsince, hcovers⟩ := hphase
    refine h.leaves ?_
    cases hfault : choice.fault with
    | some applied => trivial
    | none =>
      cases version with
      | none => exact ⟨hsince, rfl⟩
      | some version => exact ⟨hsince, hcovers version rfl⟩
  | caching criteria since version computed =>
    obtain ⟨hsince, hcovers⟩ := hphase
    simp only [Marketplace.nextCall]
    split
    · exact h.leaves ⟨hsince, rfl⟩
    · exact ⟨h.set_cached_result hcovers, hsince, rfl⟩
  | upserting payload =>
    refine h.leaves ?_
    repeat' split
    all_goals trivial
  | upsertingExternal payload external_id =>
    refine h.leaves ?_
    split
    all_goals trivial
  | upsertLoaded payload listing =>
    cases listing with
    | none =>
      simp only [Marketplace.nextCall]
      split
      · exact h.commitChange
      · exact h.leaves (h.changed_le payload.vendor_id)
    | some loaded => exact h.commitChange
  | removing vendor_id =>
    simp only [Marketplace.nextCall]
    cases hfault : choice.fault with
    | some applied => exact h.leaves trivial
    | none =>
      cases hlisting : findVendor vendor_id store.listings with
      | none => exact ⟨h.acknowledge (hinvalidated hfault hlisting), trivial⟩
      | some listing => exact h.leaves trivial
  | removingLoaded loaded => exact h.commitChange
  | invalidating change =>
    have hbumped : store.invalidate.bumped store.invalidate.current = store.commits :=
      Function.update_self ..
    simp only [Marketplace.nextCall]
    cases hfault : choice.fault with
    | none =>
      have hchange : change ≤ store.invalidate.bumped store.invalidate.current :=
        hbumped ▸ (show change ≤ store.commits from hphase)
      have hacknowledged := h.invalidate.stored.acknowledge hchange
      exact ⟨h.invalidate.trans hacknowledged, trivial⟩
    | some applied =>
      cases applied with
      | true => exact ⟨h.invalidate, trivial⟩
      | false => exact h.leaves trivial

end Calls

/-! ### Runs -/

section Runs

variable [DecidableEq φ] [DecidableEq ι]

/-- On this turn, a deletion that finds no listing is answered when the current version of the cache
stands for the change that removed the listing. -/
def InvalidatedTurn (s : Sessions ι (SearchStore φ) (SearchPhase φ))
    (turn : ι × SearchEvent φ) : Prop :=
  match turn.2 with
  | .next choice => Invalidated choice s.store (s.phase turn.1)
  | _ => True

instance (s : Sessions ι (SearchStore φ) (SearchPhase φ)) (turn : ι × SearchEvent φ) :
    Decidable (InvalidatedTurn s turn) := by
  unfold InvalidatedTurn
  split <;> infer_instance

/-- What holds between two turns. -/
abbrev Coherence (deployment : SearchDeployment φ) :
    Sessions ι (SearchStore φ) (SearchPhase φ) → Prop :=
  Sessions.Holds (CacheStored deployment) fun store _ phase => InRequest store phase

/-- The turn of a request keeps the cache coherent. -/
theorem coherence_step (s : Sessions ι (SearchStore φ) (SearchPhase φ)) (turn : ι × SearchEvent φ)
    (h : Coherence deployment s) (hturn : InvalidatedTurn s turn) :
    Coherence deployment (s.step (searchStatement deployment) turn) := by
  obtain ⟨i, event⟩ := turn
  cases event with
  | start request =>
    refine Sessions.holds_step h.stored ?_ fun j _ => h.session j
    change InRequest s.store (if (s.phase i).isFinished then _ else _)
    split
    · cases request with
      | search criteria client_id =>
        change InRequest s.store (match _normalize_criteria deployment criteria with
          | none => .failed
          | some criteria => .limiting criteria client_id s.store.acknowledged)
        split
        · trivial
        · exact le_refl s.store.acknowledged
      | upsert_listing payload => trivial
      | delete_listing vendor_id => trivial
    · exact h.session i
  | next choice =>
    have hticked := h.stored.counters s.store.requests (s.store.clock + choice.elapsed)
    obtain ⟨hadvances, hself⟩ := hticked.stored.nextCall choice
      ((h.session i).later hticked.later) hturn
    exact Sessions.holds_step hadvances.stored hself fun j _ =>
      (h.session j).later (hticked.later.trans hadvances.later)
  | crash => exact Sessions.holds_step h.stored trivial fun j _ => h.session j

/-- The service before any request. -/
def searchService (listings : List (VendorListing φ)) (reviews : List Review) :
    Sessions ι (SearchStore φ) (SearchPhase φ) :=
  { store := .start listings reviews, phase := fun _ => .idle }

/-- The answer of a search has seen every change that had been answered with success when the
search began, and it is the answer that the repository gave. -/
def SearchPhase.Coherent : SearchPhase φ → Prop
  | .answered since answer computed => since ≤ computed.commits ∧ answer = computed.result
  | _ => True

instance (phase : SearchPhase φ) : Decidable phase.Coherent := by
  unfold SearchPhase.Coherent
  split <;> infer_instance

/-- The last change that had been answered with success when an answered search began. -/
def SearchPhase.answeredSince : SearchPhase φ → Option ℕ
  | .answered since _ _ => some since
  | _ => none

/-- A deployment that selects every listing. -/
def sampleSearch : SearchDeployment ℤ where
  isPrintable := fun _ => true
  digest := fun _ => "digest"
  selects := fun _ _ => true
  precedes := fun _ first second => first.id.toNat ≤ second.id.toNat
  ttl_seconds := 60
  rate_limit_requests := 10
  rate_limit_window_seconds := 60

/-- The listing of vendor 7. -/
def sampleSearchListing : VendorListing ℤ where
  id := 1
  vendor_id := 7
  external_id := none
  average_rating := 4
  total_reviews := 2
  details :=
    { business_name := "Lakeside Studio", category := "photography", description := "Portraits"
      service_area := "Kigali", tags := "", cover_image_url := none, is_verified := true
      approval_status := some "approved", search_rank_score := 0, starting_price := some 1000
      min_package_price := none, max_package_price := none, currency := some "RWF" }

/-- A search for all listings. -/
def searchAll : SearchEvent ℤ :=
  .start (.search ⟨none, none, none, none, none, none, 1, 20⟩ "client")

/-- The next calls of a request, without a fault. -/
def calls (request : Bool) (number : ℕ) : List (Bool × SearchEvent ℤ) :=
  List.replicate number (request, .next ⟨1, none, 2⟩)

/-- A search caches its answer, and the listing is deleted. -/
def searchAndDelete (fault : Option Bool) : List (Bool × SearchEvent ℤ) :=
  [(false, searchAll)] ++ calls false 9 ++ [(true, .start (.delete_listing 7))] ++
    calls true 2 ++ [(true, .next ⟨1, fault, 2⟩)]

/-- The deletion is repeated, and then the search. -/
def repeated : List (Bool × SearchEvent ℤ) :=
  [(true, .start (.delete_listing 7))] ++ calls true 1 ++ [(false, searchAll)] ++ calls false 6

/-- In every run in which every deletion that finds no listing comes after the version of the cache
has been incremented for the change that removed it, every search answers with the result of a
repository that has seen the changes acknowledged before. -/
theorem searches_coherent (deployment : SearchDeployment φ) (listings : List (VendorListing φ))
    (reviews : List Review) (turns : List (ι × SearchEvent φ))
    (hturns : Sessions.Always (searchStatement deployment) InvalidatedTurn
      (searchService listings reviews) turns) (i : ι) :
    (((searchService listings reviews).run (searchStatement deployment) turns).phase
      i).Coherent := by
  have hstart : Coherence deployment (searchService (ι := ι) listings reviews) := by
    refine ⟨⟨fun _ => le_rfl, fun _ => le_rfl, le_rfl, fun _ _ h => ?_⟩, fun _ => trivial⟩
    cases h
  have hrun := Sessions.run_keeps coherence_step hstart hturns
  have hphase := hrun.session i
  revert hphase
  cases ((searchService listings reviews).run (searchStatement deployment) turns).phase i with
  | answered since answer computed => exact id
  | _ => exact fun _ => trivial

/-- A deletion is acknowledged, and the next search has seen it. -/
theorem searches_coherent_sample :
    let turns := searchAndDelete none ++ repeated
    let s := (searchService [sampleSearchListing] []).run (searchStatement sampleSearch) turns
    (s.phase false).answeredSince = some 1 ∧ (s.phase false).Coherent :=
  ⟨by decide +kernel, searches_coherent sampleSearch _ _ _ (by decide +kernel) false⟩

/-- The version is not incremented for the first deletion, and the repeated one is answered with
success without incrementing it: the next search answers with the deleted listing. -/
theorem deleted_listing_answered :
    ¬ ∀ (turns : List (Bool × SearchEvent ℤ)) (i : Bool),
      (((searchService [sampleSearchListing] []).run (searchStatement sampleSearch) turns).phase
        i).Coherent := by
  intro h
  have hstale := h (searchAndDelete (some false) ++ repeated) false
  revert hstale
  decide +kernel

end Runs

end Linkapro.Marketplace
