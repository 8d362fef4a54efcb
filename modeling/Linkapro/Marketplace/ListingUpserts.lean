import Linkapro.Marketplace.Listings

/-!
# Marketplace: what an upsert may touch

An upsert looks for its listing by the vendor and then by the external id. So it may
overwrite or delete the listing of another vendor that carries the external id of the
payload, and it leaves all others alone.
-/

namespace Linkapro.Marketplace

open Lib

section Rows

variable {φ : Type}

/-- The listings of a vendor. -/
def listingsOf (vendor_id : UUID) (listings : List (VendorListing φ)) : List (VendorListing φ) :=
  listings.filter fun listing => listing.vendor_id = vendor_id

/-- The listing that an upsert finds: that of its vendor, or else that with its external id. -/
def upsertTarget (payload : InternalListingUpsertRequest φ) (listings : List (VendorListing φ)) :
    Option (VendorListing φ) :=
  match findVendor payload.vendor_id listings, payload.externalId with
  | some listing, _ => some listing
  | none, none => none
  | none, some external_id =>
    if external_id = "" then none
    else listings.find? fun listing => listing.external_id = some external_id

variable {listings : List (VendorListing φ)} {vendor_id : UUID}
  {payload : InternalListingUpsertRequest φ} {target : VendorListing φ}

theorem mem_of_upsertTarget (h : upsertTarget payload listings = some target) :
    target ∈ listings := by
  unfold upsertTarget at h
  split at h
  · next hfind =>
    cases h
    exact List.mem_of_find?_eq_some hfind
  · cases h
  · split at h
    · cases h
    · exact List.mem_of_find?_eq_some h

/-- The listing that is found is that of the vendor or carries the external id. -/
theorem upsertTarget_names (h : upsertTarget payload listings = some target) :
    target.vendor_id = payload.vendor_id ∨
      findVendor payload.vendor_id listings = none ∧
        target.external_id = payload.externalId ∧ payload.externalId ≠ none := by
  unfold upsertTarget at h
  split at h
  · next hfind =>
    cases h
    have hvendor := List.find?_some hfind
    exact .inl (of_decide_eq_true hvendor)
  · cases h
  · next hfind hexternal =>
    split at h
    · cases h
    · have hexternalId := List.find?_some h
      rw [decide_eq_true_eq] at hexternalId
      exact .inr ⟨hfind, hexternalId.trans hexternal.symm, by rw [hexternal]; exact nofun⟩

/-- Rows of other vendors before and after do not show in the listings of a vendor. -/
theorem listingsOf_map {f : VendorListing φ → VendorListing φ}
    (h : ∀ row ∈ listings,
      f row = row ∨ row.vendor_id ≠ vendor_id ∧ (f row).vendor_id ≠ vendor_id) :
    listingsOf vendor_id (listings.map f) = listingsOf vendor_id listings := by
  unfold listingsOf
  induction listings with
  | nil => rfl
  | cons row rows ih =>
    have hrest := ih fun other hmem => h other (List.mem_cons_of_mem _ hmem)
    rcases h row List.mem_cons_self with hsame | ⟨hbefore, hafter⟩
    · rw [List.map_cons, hsame, List.filter_cons, List.filter_cons, hrest]
    · rw [List.map_cons, List.filter_cons, List.filter_cons, hrest,
        if_neg (by simpa using hafter), if_neg (by simpa using hbefore)]

/-- Rows of other vendors that go do not show in the listings of a vendor. -/
theorem listingsOf_filter {keep : VendorListing φ → Bool}
    (h : ∀ row ∈ listings, row.vendor_id = vendor_id → keep row = true) :
    listingsOf vendor_id (listings.filter keep) = listingsOf vendor_id listings := by
  unfold listingsOf
  rw [List.filter_filter]
  refine List.filter_congr fun row hmem => ?_
  by_cases hvendor : row.vendor_id = vendor_id
  · simp [hvendor, h row hmem hvendor]
  · simp [hvendor]

end Rows

section Run

variable {ι φ : Type} [Fintype ι] [DecidableEq ι] [DecidableEq φ]

/-- The statements of an upsert, with the ids of the row that it may insert. -/
def upsertTurns (i : ι) (payload : InternalListingUpsertRequest φ) (ids : List UUID) :
    List (ι × Event φ) :=
  (i, .start (.upsertListing payload)) :: ids.map fun id => (i, .next id)

/-- An upsert on the listings of a table has not yet committed, or it has left the listings of
a vendor alone. -/
structure Framed (before : List (VendorListing φ)) (payload : InternalListingUpsertRequest φ)
    (vendor_id : UUID) (i : ι) (s : Service ι φ) : Prop where
  framed : listingsOf vendor_id s.store.listings = listingsOf vendor_id before
  phase : s.phase i = .idle ∨ s.store.listings = before ∧
    (s.phase i = .upserting payload ∨
      (∃ external_id, s.phase i = .upsertingExternal payload external_id ∧
        upsertTarget payload before =
          before.find? fun listing => listing.external_id = some external_id) ∨
      s.phase i = .upsertLoaded payload (upsertTarget payload before))

variable {float : ℚ → φ} {before : List (VendorListing φ)} {s : Service ι φ} {i : ι}
  {payload : InternalListingUpsertRequest φ} {vendor_id : UUID} {loaded : VendorListing φ}

/-- The row that is overwritten belongs to the vendor of the payload afterwards. -/
theorem listingsOf_updateListing (hids : (s.store.listings.map (·.id)).Nodup)
    (hloaded : loaded ∈ s.store.listings) (hvendor : vendor_id ≠ payload.vendor_id)
    (hother : loaded.vendor_id ≠ vendor_id) :
    listingsOf vendor_id (updateListing s i payload loaded).1.listings =
      listingsOf vendor_id s.store.listings := by
  unfold updateListing
  split
  · rfl
  · dsimp only
    split
    · rfl
    split
    · rfl
    split
    · rfl
    · refine listingsOf_map fun row hmem => ?_
      by_cases hid : row.id = loaded.id
      · have hrow : row = loaded := List.inj_on_of_nodup_map hids hmem hloaded hid
        subst hrow
        rw [if_pos rfl]
        refine .inr ⟨hother, ?_⟩
        have hnew : (VendorListing.overwrite payload row row).vendor_id = payload.vendor_id :=
          column_unchanged
        rw [hnew]
        exact hvendor.symm
      · exact .inl (if_neg hid)

omit [DecidableEq φ] in
theorem listingsOf_removeListing (hids : (s.store.listings.map (·.id)).Nodup)
    (hloaded : loaded ∈ s.store.listings) (hother : loaded.vendor_id ≠ vendor_id) :
    listingsOf vendor_id (removeListing s i loaded).1.listings =
      listingsOf vendor_id s.store.listings := by
  unfold removeListing
  split
  · rfl
  · split
    · rfl
    split
    · rfl
    · refine listingsOf_filter fun row hmem hrow => ?_
      rw [decide_eq_true_eq]
      intro hid
      have hsame : row = loaded := List.inj_on_of_nodup_map hids hmem hloaded hid
      exact hother (hsame ▸ hrow)

/-- The commit of an upsert leaves the listings of other vendors alone, unless its target is
one of them. -/
theorem listingsOf_commitUpsert {id : UUID} (hids : (s.store.listings.map (·.id)).Nodup)
    (hvendor : vendor_id ≠ payload.vendor_id)
    (htarget : ∀ row ∈ upsertTarget payload s.store.listings, row.vendor_id ≠ vendor_id) :
    listingsOf vendor_id
        (commitUpsert s i id payload (upsertTarget payload s.store.listings)).1.listings =
      listingsOf vendor_id s.store.listings := by
  unfold commitUpsert
  cases hfound : upsertTarget payload s.store.listings with
  | none =>
    dsimp only
    split
    · unfold insertListing
      split
      · rfl
      · have hnew : (payload.listing id).vendor_id ≠ vendor_id := hvendor.symm
        dsimp only
        unfold listingsOf
        rw [List.filter_append, List.filter_cons_of_neg (by simpa using hnew), List.filter_nil,
          List.append_nil]
    · rfl
  | some loaded =>
    have hloaded := mem_of_upsertTarget hfound
    have hother := htarget loaded hfound
    dsimp only
    split
    · exact listingsOf_updateListing hids hloaded hvendor hother
    · exact listingsOf_removeListing hids hloaded hother

/-- The commit of an upsert ends it or waits. -/
theorem commitUpsert_phase {id : UUID} {target : Option (VendorListing φ)} :
    (commitUpsert s i id payload target).2 = .idle ∨
      commitUpsert s i id payload target = (s.store, s.phase i) := by
  unfold commitUpsert
  cases target with
  | none => exact .inl rfl
  | some loaded =>
    dsimp only
    split
    · unfold updateListing
      split
      · exact .inl rfl
      · dsimp only
        split
        · exact .inr rfl
        · split
          · exact .inl rfl
          · split <;> exact .inl rfl
    · unfold removeListing
      split
      · exact .inl rfl
      · split
        · exact .inr rfl
        · split <;> exact .inl rfl

/-- The next statement of an upsert keeps the listings of a vendor that it does not name. -/
theorem Framed.advance {id : UUID} (h : Framed before payload vendor_id i s)
    (hids : (before.map (·.id)).Nodup) (hvendor : vendor_id ≠ payload.vendor_id)
    (htarget : ∀ row ∈ upsertTarget payload before, row.vendor_id ≠ vendor_id) :
    Framed before payload vendor_id i (s.step (statement float) (i, .next id)) := by
  have hself {phase : Phase φ} : Function.update s.phase i phase i = phase :=
    Function.update_self ..
  change Framed before payload vendor_id i
    ⟨(next float s i id).1, Function.update s.phase i (next float s i id).2⟩
  rcases h.phase with hidle | ⟨hbefore, hphase | ⟨external_id, hphase, hexternal⟩ | hphase⟩
  · have hnext : next float s i id = (s.store, .idle) := by
      unfold next
      rw [hidle]
    rw [hnext]
    exact ⟨h.framed, .inl hself⟩
  · subst hbefore
    unfold next
    rw [hphase]
    dsimp only
    split
    · next listing hfind =>
      have hfound : upsertTarget payload s.store.listings = some listing := by
        unfold upsertTarget
        rw [hfind]
      rw [← hfound]
      exact ⟨rfl, .inr ⟨rfl, .inr (.inr hself)⟩⟩
    · next hfind hexternal =>
      have hfound : upsertTarget payload s.store.listings = none := by
        unfold upsertTarget
        rw [hfind, hexternal]
      rw [← hfound]
      exact ⟨rfl, .inr ⟨rfl, .inr (.inr hself)⟩⟩
    · next external_id hfind hexternal =>
      have hfound : upsertTarget payload s.store.listings =
          if external_id = "" then none
          else s.store.listings.find? fun listing => listing.external_id = some external_id := by
        unfold upsertTarget
        rw [hfind, hexternal]
      split
      · next hempty =>
        rw [if_pos hempty] at hfound
        rw [← hfound]
        exact ⟨rfl, .inr ⟨rfl, .inr (.inr hself)⟩⟩
      · next hempty =>
        rw [if_neg hempty] at hfound
        exact ⟨rfl, .inr ⟨rfl, .inr (.inl ⟨external_id, hself, hfound⟩)⟩⟩
  · subst hbefore
    unfold next
    rw [hphase]
    dsimp only
    rw [← hexternal]
    exact ⟨rfl, .inr ⟨rfl, .inr (.inr hself)⟩⟩
  · subst hbefore
    have hnext : next float s i id =
        commitUpsert s i id payload (upsertTarget payload s.store.listings) := by
      unfold next
      rw [hphase]
    have hcommit : _ ∨ commitUpsert s i id payload (upsertTarget payload s.store.listings) = _ :=
      commitUpsert_phase
    rw [hnext]
    rcases hcommit with hidle | hwait
    · refine ⟨listingsOf_commitUpsert hids hvendor htarget, .inl ?_⟩
      exact hself.trans hidle
    · rw [hwait]
      exact ⟨rfl, .inr ⟨rfl, .inr (.inr (hself.trans hphase))⟩⟩

/-- The statements of an upsert keep the listings of a vendor that it does not name. -/
theorem Framed.run {ids : List UUID} (h : Framed before payload vendor_id i s)
    (hids : (before.map (·.id)).Nodup) (hvendor : vendor_id ≠ payload.vendor_id)
    (htarget : ∀ row ∈ upsertTarget payload before, row.vendor_id ≠ vendor_id) :
    Framed before payload vendor_id i
      (s.run (statement float) (ids.map fun id => (i, .next id))) := by
  induction ids generalizing s with
  | nil => exact h
  | cons id ids ih => exact ih (h.advance hids hvendor htarget)

/-- Before its first statement an upsert has changed nothing. -/
theorem Framed.start (hidle : s.phase i = .idle) :
    Framed s.store.listings payload vendor_id i
      (s.step (statement float) (i, .start (.upsertListing payload))) := by
  have hstatement : statement float s i (.start (.upsertListing payload)) =
      (s.store, .upserting payload) := by
    unfold statement
    dsimp only
    rw [hidle]
    rfl
  change Framed s.store.listings payload vendor_id i
    ⟨(statement float s i (.start (.upsertListing payload))).1,
      Function.update s.phase i (statement float s i (.start (.upsertListing payload))).2⟩
  rw [hstatement]
  exact ⟨rfl, .inr ⟨rfl, .inl (Function.update_self ..)⟩⟩

/-- An upsert creates, changes or removes only listings of the vendor of its payload and, when
this vendor has none, the listing that carries the external id of the payload. The listings of
all other vendors are the same after each of its statements. -/
theorem upsert_leaves_others {ids : List UUID} (hidle : s.phase i = .idle)
    (hids : (s.store.listings.map (·.id)).Nodup) (hvendor : vendor_id ≠ payload.vendor_id)
    (hexternal : ∀ row ∈ s.store.listings, row.vendor_id = vendor_id →
      findVendor payload.vendor_id s.store.listings = none → payload.externalId ≠ none →
        row.external_id ≠ payload.externalId) :
    listingsOf vendor_id (s.run (statement float) (upsertTurns i payload ids)).store.listings =
      listingsOf vendor_id s.store.listings := by
  have htarget : ∀ row ∈ upsertTarget payload s.store.listings, row.vendor_id ≠ vendor_id := by
    intro row hrow hof
    rcases upsertTarget_names hrow with hnames | ⟨hnone, hnames, hsome⟩
    · exact hvendor (hof.symm.trans hnames)
    · exact hexternal row (mem_of_upsertTarget hrow) hof hnone hsome hnames
  exact ((Framed.start hidle).run hids hvendor htarget).framed

end Run

/-- A payload of vendor 2 with the external id of another listing. -/
def borrowedPayload (is_approved : Bool) : InternalListingUpsertRequest ℚ where
  vendor_id := 2
  external_id := some " studio "
  business_name := "Studio"
  category := "other"
  description := "Photos"
  service_area := "Kigali"
  tags := .none
  cover_image_url := none
  average_rating := 0
  total_reviews := 0
  is_verified := false
  approval_status := "approved"
  status := none
  is_approved
  search_rank_score := 0
  starting_price := none
  min_package_price := none
  max_package_price := none
  currency := none

/-- A table with the listings of vendors 1 and 3, the first of which has an external id. -/
def twoListings : Service Unit ℚ where
  store :=
    { listings :=
        [{ (borrowedPayload true).listing 10 with vendor_id := 1 },
          { (borrowedPayload true).listing 11 with vendor_id := 3, external_id := none }]
      reviews := []
      posted := .empty }
  phase := fun _ => .idle

/-- The listing of vendor 3 is the same after the request of vendor 2. -/
theorem upsert_leaves_others_sample :
    listingsOf 3 (twoListings.run (statement fun average => average)
      (upsertTurns () (borrowedPayload true) [20, 21, 22])).store.listings =
        listingsOf 3 twoListings.store.listings :=
  upsert_leaves_others rfl (by decide +kernel) (by decide) (by decide +kernel)

/-- An approved request of vendor 2 takes the listing of vendor 1 over, and one that is not
approved removes it. -/
theorem upsert_takes_over :
    listingsOf 1 twoListings.store.listings ≠ [] ∧
      ∀ is_approved, listingsOf 1 (twoListings.run (statement fun average => average)
        (upsertTurns () (borrowedPayload is_approved) [20, 21, 22])).store.listings = [] := by
  decide +kernel

end Linkapro.Marketplace
