import Mathlib.Data.List.Nodup
import Mathlib.Tactic.NormNum
import Linkapro.Marketplace.Listings

/-!
# The rating of a listing against its reviews

A listing should carry the number and the mean of the stored reviews of its vendor.
Two things break this: an upsert writes the rating values of its request, which
default to zero, and a review operation stores an average that it read before another
review operation of the vendor committed. In every run without these two, each
listing carries the right values after every statement.
-/

namespace Linkapro.Marketplace

open Lib

/-- The mean of the ratings, zero if there are none. -/
def meanRating (reviews : List Review) : ℚ :=
  if reviews = [] then 0 else ((reviews.map (·.rating)).sum : ℤ) / (reviews.length : ℚ)

section Statistics

variable {φ : Type} {float : ℚ → φ} {vendor_id v : UUID} {reviews reviews' : List Review}
  {change : Change} {pending : Option Change}

theorem mem_ofVendor_iff {review : Review} :
    review ∈ ofVendor v reviews ↔ review ∈ reviews ∧ review.vendor_id = v := by
  simp [ofVendor]

/-- The average that the repository computes is the mean of the vendor's reviews. -/
theorem get_average_rating_eq :
    get_average_rating float v reviews = float (meanRating (ofVendor v reviews)) := by
  unfold get_average_rating avg meanRating
  by_cases hnil : ofVendor v reviews = []
  · simp [hnil]
  · simp only [hnil, if_false]
    split
    · next h => rw [h]
    · rfl

/-- What a session sees of a vendor's reviews depends on these reviews only. -/
theorem ofVendor_view_congr (h : ofVendor v reviews = ofVendor v reviews') :
    ofVendor v (view pending reviews) = ofVendor v (view pending reviews') := by
  cases pending with
  | none => exact h
  | some change =>
    cases change with
    | insert review =>
      unfold ofVendor at h
      simp only [view, Change.apply, ofVendor, List.filter_append, h]
    | delete review =>
      have hcomm : ∀ rs : List Review, ofVendor v (view (some (.delete review)) rs) =
          (ofVendor v rs).filter fun other => other.id ≠ review.id := by
        intro rs
        simp only [view, Change.apply, ofVendor, List.filter_filter, Bool.and_comm]
      rw [hcomm, hcomm, h]

/-- A change to a review of one vendor leaves the reviews of the others. -/
theorem ofVendor_apply_of_ne (hvendor : change.review.vendor_id ≠ v)
    (hid : ∀ review ∈ reviews, review.id = change.review.id → review = change.review) :
    ofVendor v (change.apply reviews) = ofVendor v reviews := by
  cases change with
  | insert review =>
    have hother : review.vendor_id ≠ v := hvendor
    simp [Change.apply, ofVendor, hother]
  | delete review =>
    unfold Change.apply ofVendor
    rw [List.filter_filter]
    apply List.filter_congr
    intro other hmem
    by_cases hv : other.vendor_id = v
    · have hne : other.id ≠ review.id := by
        intro heq
        exact hvendor (hid other hmem heq ▸ hv)
      simp [hv, hne]
    · simp [hv]

/-- A review after a change was there before or is the inserted one. -/
theorem mem_apply {review : Review} (h : review ∈ change.apply reviews) :
    review ∈ reviews ∨ review = change.review := by
  cases change with
  | insert inserted =>
    rw [Change.apply, List.mem_append, List.mem_singleton] at h
    exact h
  | delete deleted => exact Or.inl (List.mem_of_mem_filter h)

end Statistics

section Invariant

variable {ι φ : Type}

/-- The listing carries the number and the mean of its vendor's reviews. -/
def Rated (float : ℚ → φ) (reviews : List Review) (listing : VendorListing φ) : Prop :=
  listing.total_reviews = (ofVendor listing.vendor_id reviews).length ∧
    listing.average_rating = float (meanRating (ofVendor listing.vendor_id reviews))

/-- The committed rows. -/
structure Stored (float : ℚ → φ) (store : Store φ) : Prop where
  ids : (store.listings.map (·.id)).Nodup
  vendors : (store.listings.map (·.vendor_id)).Nodup
  rated : ∀ listing ∈ store.listings, Rated float store.reviews listing
  /-- The foreign key of the reviews. -/
  listed : ∀ review ∈ store.reviews, ∃ listing ∈ store.listings,
    listing.vendor_id = review.vendor_id
  posted : ∀ review ∈ store.reviews, review ∈ store.posted.rows

/-- An uncommitted change to a review of a vendor, whose listing is locked. -/
def Protected (store : Store φ) (vendor_id : UUID) (pending : Option Change) : Prop :=
  ∀ change ∈ pending, change.review.vendor_id = vendor_id ∧ change.review ∈ store.posted.rows ∧
    ∃ listing ∈ store.listings, listing.vendor_id = vendor_id

/-- The listing that a review operation has loaded. With a change of its own it is the
stored one as far as the rating goes. Without one it needs no update. -/
def Found (store : Store φ) (vendor_id : UUID) (pending : Option Change) (average : φ)
    (total : ℕ) (listing : Option (VendorListing φ)) : Prop :=
  match pending with
  | none => ∀ loaded ∈ listing, average = loaded.average_rating ∧ total = loaded.total_reviews
  | some _ => ∃ row ∈ store.listings, row.vendor_id = vendor_id ∧ ∃ loaded ∈ listing,
      loaded.id = row.id ∧ loaded.average_rating = row.average_rating ∧
        loaded.total_reviews = row.total_reviews

/-- The average that a session has read is the one it would read now. -/
def AverageRead (float : ℚ → φ) (store : Store φ) (vendor_id : UUID) (pending : Option Change)
    (average : φ) : Prop :=
  average = float (meanRating (ofVendor vendor_id (view pending store.reviews)))

/-- The count that a session has read is the one it would read now. -/
def CountRead (store : Store φ) (vendor_id : UUID) (pending : Option Change) (total : ℕ) : Prop :=
  total = (ofVendor vendor_id (view pending store.reviews)).length

/-- What a session has read still holds. -/
def Current (float : ℚ → φ) (store : Store φ) : Phase φ → Prop
  | .saving review => review ∈ store.posted.rows
  | .deleting review => review ∈ store.posted.rows
  | .flushed vendor_id change => Protected store vendor_id change
  | .averaged vendor_id change average =>
    Protected store vendor_id change ∧ AverageRead float store vendor_id change average
  | .counted vendor_id change average total =>
    Protected store vendor_id change ∧ AverageRead float store vendor_id change average ∧
      CountRead store vendor_id change total
  | .rated vendor_id change average total listing =>
    Protected store vendor_id change ∧ AverageRead float store vendor_id change average ∧
      CountRead store vendor_id change total ∧ Found store vendor_id change average total listing
  | _ => True

/-- The service between two statements. -/
def Sound (float : ℚ → φ) (s : Service ι φ) : Prop :=
  Sessions.Holds (Stored float) (fun store _ phase => Current float store phase) s

/-- A listing of a vendor is not lost between two stores, and keeps its rating where the
session has read the vendor's average. -/
def Retained (phase : Phase φ) (store store' : Store φ) : Prop :=
  ∀ change ∈ phase.change, ∀ row ∈ store.listings, row.vendor_id = change.review.vendor_id →
    ∃ row' ∈ store'.listings, row'.id = row.id ∧ row'.vendor_id = row.vendor_id ∧
      (phase.hasAverage row.vendor_id → row'.average_rating = row.average_rating ∧
        row'.total_reviews = row.total_reviews)

variable {float : ℚ → φ} {store store' : Store φ} {vendor_id : UUID} {pending : Option Change}

theorem Protected.retained (h : Protected store vendor_id pending)
    (hposted : ∀ review ∈ store.posted.rows, review ∈ store'.posted.rows)
    (hlistings : ∀ change ∈ pending, ∀ row ∈ store.listings,
      row.vendor_id = change.review.vendor_id →
      ∃ row' ∈ store'.listings, row'.vendor_id = row.vendor_id) :
    Protected store' vendor_id pending := by
  intro change hchange
  obtain ⟨hvendor, hmem, row, hrow, hid⟩ := h change hchange
  obtain ⟨row', hrow', hid'⟩ := hlistings change hchange row hrow (hid.trans hvendor.symm)
  exact ⟨hvendor, hposted _ hmem, row', hrow', hid'.trans hid⟩

theorem AverageRead.congr {average : φ} (h : AverageRead float store vendor_id pending average)
    (hreviews : ofVendor vendor_id store'.reviews = ofVendor vendor_id store.reviews) :
    AverageRead float store' vendor_id pending average := by
  unfold AverageRead at h ⊢
  rw [ofVendor_view_congr hreviews, h]

theorem CountRead.congr {total : ℕ} (h : CountRead store vendor_id pending total)
    (hreviews : ofVendor vendor_id store'.reviews = ofVendor vendor_id store.reviews) :
    CountRead store' vendor_id pending total := by
  unfold CountRead at h ⊢
  rw [ofVendor_view_congr hreviews, h]

/-- What a session has read outlives a write of another session that keeps the listing it
relies on and, once it has read the average, the reviews of its vendor. -/
theorem Current.retained {phase : Phase φ} (h : Current float store phase)
    (hposted : ∀ review ∈ store.posted.rows, review ∈ store'.posted.rows)
    (hlistings : Retained phase store store')
    (hreviews : ∀ v, phase.hasAverage v →
      ofVendor v store'.reviews = ofVendor v store.reviews) :
    Current float store' phase := by
  have hprotected : ∀ {vendor_id : UUID}, Protected store vendor_id phase.change →
      Protected store' vendor_id phase.change := by
    intro vendor_id hp
    apply hp.retained hposted
    intro change hchange row hrow hvendor
    obtain ⟨row', hrow', _, hid, _⟩ := hlistings change hchange row hrow hvendor
    exact ⟨row', hrow', hid⟩
  cases phase with
  | saving review => exact hposted _ h
  | deleting review => exact hposted _ h
  | flushed v change => exact hprotected h
  | averaged v change average =>
    have hv := hreviews v (by simp [Phase.hasAverage])
    obtain ⟨hp, haverage⟩ := h
    exact ⟨hprotected hp, haverage.congr hv⟩
  | counted v change average total =>
    have hv := hreviews v (by simp [Phase.hasAverage])
    obtain ⟨hp, haverage, htotal⟩ := h
    exact ⟨hprotected hp, haverage.congr hv, htotal.congr hv⟩
  | rated v change average total listing =>
    have hv := hreviews v (by simp [Phase.hasAverage])
    obtain ⟨hp, haverage, htotal, hfound⟩ := h
    refine ⟨hprotected hp, haverage.congr hv, htotal.congr hv, ?_⟩
    cases change with
    | none => exact hfound
    | some change =>
      obtain ⟨row, hrow, hvendor, loaded, hloaded, hid, haverage', htotal'⟩ := hfound
      have hown : row.vendor_id = change.review.vendor_id := hvendor.trans (hp change rfl).1.symm
      obtain ⟨row', hrow', hid', hvendor', hrating⟩ := hlistings change rfl row hrow hown
      obtain ⟨ha, ht⟩ := hrating (by simp [Phase.hasAverage, hvendor])
      exact ⟨row', hrow', hvendor'.trans hvendor, loaded, hloaded, hid.trans hid'.symm,
        haverage'.trans ha.symm, htotal'.trans ht.symm⟩
  | idle | getting | upserting | upsertingExternal | upsertLoaded | removing
    | removingLoaded => trivial

end Invariant

section Writes

variable {ι φ : Type} [Fintype ι] [DecidableEq ι] [DecidableEq φ] {float : ℚ → φ}
  {store : Store φ} {s : Service ι φ} {i : ι} {vendor_id : UUID} {pending : Option Change}
  {average : φ} {total : ℕ} {listing : Option (VendorListing φ)}

omit [DecidableEq φ] in
/-- Two listings with one primary key are one. -/
theorem Stored.eq_of_id (hs : Stored float store) {a b : VendorListing φ}
    (ha : a ∈ store.listings) (hb : b ∈ store.listings) (h : a.id = b.id) : a = b :=
  List.inj_on_of_nodup_map hs.ids ha hb h

omit [DecidableEq φ] in
/-- Two listings of one vendor are one. -/
theorem Stored.eq_of_vendor (hs : Stored float store) {a b : VendorListing φ}
    (ha : a ∈ store.listings) (hb : b ∈ store.listings) (h : a.vendor_id = b.vendor_id) : a = b :=
  List.inj_on_of_nodup_map hs.vendors ha hb h

omit [DecidableEq φ] in
/-- A review with the id of a posted one is that review. -/
theorem Stored.eq_of_posted (hs : Stored float store) {review posted : Review}
    (hreview : review ∈ store.reviews) (hposted : posted ∈ store.posted.rows)
    (h : review.id = posted.id) : review = posted :=
  List.inj_on_of_nodup_map store.posted.nodup (hs.posted _ hreview) hposted h

/-- A review operation that has changed nothing commits nothing. -/
theorem commitRating_none (h : Found store vendor_id none average total listing) :
    commitRating store none average total listing = store := by
  cases listing with
  | none => rfl
  | some loaded =>
    have hsame : average = loaded.average_rating ∧ total = loaded.total_reviews := h loaded rfl
    simp only [commitRating, hsame, and_self, if_true, view]

/-- A review operation commits its change together with the rating that it has read. -/
theorem commitRating_some {loaded : VendorListing φ}
    (h : loaded.id ∈ store.listings.map (·.id)) :
    commitRating store pending average total (some loaded) =
      { store with
        reviews := view pending store.reviews
        listings := store.listings.map fun row =>
          if row.id = loaded.id then row.rate average total loaded else row } := by
  unfold commitRating
  by_cases hsame : average = loaded.average_rating ∧ total = loaded.total_reviews
  · obtain ⟨rfl, rfl⟩ := hsame
    have hmap : ∀ row : VendorListing φ, (if row.id = loaded.id then
        row.rate loaded.average_rating loaded.total_reviews loaded else row) = row := by
      intro row
      split
      · simp [VendorListing.rate]
      · rfl
    simp only [and_self, if_true, hmap, List.map_id']
  · simp only [hsame, if_false, h, if_true]

/-- The commit of a review operation leaves right rows. -/
theorem Stored.commitRating (hs : Stored float store)
    (h : Current float store (.rated vendor_id pending average total listing)) :
    Stored float (commitRating store pending average total listing) := by
  obtain ⟨hprotected, haverage, htotal, hfound⟩ := h
  cases pending with
  | none =>
    rw [commitRating_none hfound]
    exact hs
  | some change =>
    obtain ⟨row, hrow, hvendor, loaded, hloaded, hid, hstored, hstored'⟩ := hfound
    obtain ⟨hown, hposted, _⟩ := hprotected change rfl
    have hlisting : listing = some loaded := hloaded
    subst hlisting
    rw [commitRating_some (List.mem_map.mpr ⟨row, hrow, hid.symm⟩)]
    -- the new version of each row keeps its key and its vendor
    have hkeep : ∀ other : VendorListing φ,
        (if other.id = loaded.id then other.rate average total loaded else other).id = other.id ∧
        (if other.id = loaded.id then other.rate average total loaded else other).vendor_id =
          other.vendor_id := by
      intro other
      split <;> exact ⟨rfl, rfl⟩
    have hother : ∀ v, v ≠ vendor_id → ofVendor v (change.apply store.reviews) =
        ofVendor v store.reviews := by
      intro v hv
      apply ofVendor_apply_of_ne
      · rw [hown]
        exact hv.symm
      · intro review hreview hsame
        exact hs.eq_of_posted hreview hposted hsame
    constructor
    · simp only [List.map_map, Function.comp_def, (hkeep _).1]
      exact hs.ids
    · simp only [List.map_map, Function.comp_def, (hkeep _).2]
      exact hs.vendors
    · intro new hnew
      obtain ⟨other, hmem, rfl⟩ := List.mem_map.mp hnew
      by_cases hsame : other.id = loaded.id
      · have heq : other = row := hs.eq_of_id hmem hrow (hsame.trans hid)
        subst heq
        simp only [hsame, if_true, VendorListing.rate, hstored, hstored', column_unchanged]
        unfold Rated
        rw [hvendor]
        exact ⟨htotal, haverage⟩
      · simp only [hsame, if_false]
        have hv : other.vendor_id ≠ vendor_id := by
          intro heq
          have := hs.eq_of_vendor hmem hrow (heq.trans hvendor.symm)
          exact hsame (this ▸ hid.symm)
        unfold Rated
        rw [view, hother _ hv]
        exact hs.rated other hmem
    · intro review hreview
      have hlisted : ∃ other ∈ store.listings, other.vendor_id = review.vendor_id := by
        rcases mem_apply hreview with hmem | rfl
        · exact hs.listed review hmem
        · exact ⟨row, hrow, hvendor.trans hown.symm⟩
      obtain ⟨other, hmem, hv⟩ := hlisted
      exact ⟨_, List.mem_map_of_mem hmem, (hkeep other).2.trans hv⟩
    · intro review hreview
      rcases mem_apply hreview with hmem | rfl
      · exact hs.posted review hmem
      · exact hposted

omit [DecidableEq φ] in
/-- A vendor without a listing has no reviews. -/
theorem Stored.ofVendor_eq_nil (hs : Stored float store) {v : UUID}
    (h : ∀ other ∈ store.listings, other.vendor_id ≠ v) : ofVendor v store.reviews = [] := by
  rw [List.eq_nil_iff_forall_not_mem]
  intro review hreview
  obtain ⟨hmem, hv⟩ := mem_ofVendor_iff.mp hreview
  obtain ⟨other, hother, hv'⟩ := hs.listed review hmem
  exact h other hother (hv'.trans hv)

omit [DecidableEq φ] in
/-- The creation of an unrated listing leaves right rows, since a vendor without a listing
has no reviews. -/
theorem Stored.insertListing (hs : Stored float store) {new : VendorListing φ}
    (haverage : new.average_rating = float 0) (htotal : new.total_reviews = 0) :
    Stored float (insertListing store new) := by
  unfold Marketplace.insertListing
  split
  · exact hs
  · next hfree =>
    push Not at hfree
    obtain ⟨hid, hvendor, _⟩ := hfree
    have hnone : ofVendor new.vendor_id store.reviews = [] := by
      apply hs.ofVendor_eq_nil
      intro other hother hv
      exact hvendor (List.mem_map.mpr ⟨other, hother, hv⟩)
    constructor
    · rw [List.map_append]
      exact hs.ids.append (List.nodup_singleton _) (by simpa using hid)
    · rw [List.map_append]
      exact hs.vendors.append (List.nodup_singleton _) (by simpa using hvendor)
    · intro other hother
      rcases List.mem_append.mp hother with hmem | hmem
      · exact hs.rated other hmem
      · rw [List.mem_singleton] at hmem
        subst hmem
        simp [Rated, hnone, haverage, htotal, meanRating]
    · intro review hreview
      obtain ⟨other, hother, hv⟩ := hs.listed review hreview
      exact ⟨other, List.mem_append_left _ hother, hv⟩
    · exact hs.posted

omit [DecidableEq φ] in
/-- The deletion of a listing leaves right rows, since its vendor has no reviews. -/
theorem Stored.removeListing (hs : Stored float s.store) {loaded : VendorListing φ} :
    Stored float (removeListing s i loaded).1 := by
  unfold Marketplace.removeListing
  split
  · exact hs
  · next row hrow =>
    have hid : row.id = loaded.id := by simpa using List.find?_some hrow
    have hmem : row ∈ s.store.listings := List.mem_of_find?_eq_some hrow
    split
    · exact hs
    · split
      · exact hs
      · next hnone =>
        rw [not_not] at hnone
        constructor
        · exact hs.ids.sublist (List.filter_sublist.map _)
        · exact hs.vendors.sublist (List.filter_sublist.map _)
        · intro other hother
          exact hs.rated other (List.mem_of_mem_filter hother)
        · intro review hreview
          obtain ⟨other, hother, hv⟩ := hs.listed review hreview
          refine ⟨other, List.mem_filter.mpr ⟨hother, ?_⟩, hv⟩
          rw [decide_eq_true_eq]
          intro hsame
          have heq : other = row := hs.eq_of_id hother hmem (hsame.trans hid.symm)
          have hreviews : review ∈ ofVendor row.vendor_id s.store.reviews :=
            mem_ofVendor_iff.mpr ⟨hreview, (heq ▸ hv).symm⟩
          rw [hnone] at hreviews
          exact List.not_mem_nil hreviews
        · exact hs.posted

/-- An upsert that repeats the rating values it has loaded leaves right rows. -/
theorem Stored.updateListing (hs : Stored float s.store)
    {payload : InternalListingUpsertRequest φ} {loaded : VendorListing φ}
    (haverage : payload.average_rating = loaded.average_rating)
    (htotal : payload.total_reviews = loaded.total_reviews) :
    Stored float (updateListing s i payload loaded).1 := by
  unfold Marketplace.updateListing
  split
  · exact hs
  · next row hrow =>
    have hid : row.id = loaded.id := by simpa using List.find?_some hrow
    have hmem : row ∈ s.store.listings := List.mem_of_find?_eq_some hrow
    simp only
    split
    · exact hs
    · split
      · exact hs
      · next hreviews =>
        split
        · exact hs
        · next hfree =>
          let new := VendorListing.overwrite payload loaded row
          have hratings : new.average_rating = row.average_rating ∧
              new.total_reviews = row.total_reviews := by
            simp [new, VendorListing.overwrite, haverage, htotal]
          -- the new version of each row, by its place in the table
          have hrow' : ∀ other ∈ s.store.listings, other.id = loaded.id → other = row :=
            fun other hother hsame => hs.eq_of_id hother hmem (hsame.trans hid.symm)
          have hversion : ∀ other ∈ s.store.listings,
              (if other.id = loaded.id then VendorListing.overwrite payload loaded other
                else other) = if other.id = loaded.id then new else other := by
            intro other hother
            split
            · next hsame => rw [hrow' other hother hsame]
            · rfl
          have hvendors : ∀ other ∈ s.store.listings, other.id ≠ loaded.id →
              other.vendor_id ≠ new.vendor_id := by
            intro other hother hne hv
            exact hfree ⟨other, hother, fun h => hne (h.trans hid), Or.inl hv⟩
          have hrated : Rated float s.store.reviews new := by
            have hold := hs.rated row hmem
            unfold Rated at hold ⊢
            rw [hratings.1, hratings.2]
            by_cases hv : new.vendor_id = row.vendor_id
            · rw [hv]
              exact hold
            · have hnil : ofVendor row.vendor_id s.store.reviews = [] := by
                by_contra hne
                exact hreviews ⟨hv, hne⟩
              have hnil' : ofVendor new.vendor_id s.store.reviews = [] := by
                apply hs.ofVendor_eq_nil
                intro other hother
                by_cases hsame : other.id = loaded.id
                · rw [hrow' other hother hsame]
                  exact Ne.symm hv
                · exact hvendors other hother hsame
              rw [hnil] at hold
              rw [hnil']
              exact hold
          rw [List.map_congr_left hversion]
          constructor
          · have hids : ∀ other ∈ s.store.listings,
                (if other.id = loaded.id then new else other).id = other.id := by
              intro other hother
              split
              · next hsame => exact hid.trans hsame.symm
              · rfl
            simp only [List.map_map, Function.comp_def]
            rw [List.map_congr_left hids]
            exact hs.ids
          · simp only [List.map_map]
            apply List.Nodup.map_on ?_ (List.Nodup.of_map _ hs.ids)
            intro a ha b hb hab
            simp only [Function.comp_apply] at hab
            by_cases ha' : a.id = loaded.id
            · by_cases hb' : b.id = loaded.id
              · exact hs.eq_of_id ha hb (ha'.trans hb'.symm)
              · rw [if_pos ha', if_neg hb'] at hab
                exact absurd hab.symm (hvendors b hb hb')
            · by_cases hb' : b.id = loaded.id
              · rw [if_neg ha', if_pos hb'] at hab
                exact absurd hab (hvendors a ha ha')
              · rw [if_neg ha', if_neg hb'] at hab
                exact hs.eq_of_vendor ha hb hab
          · intro other hother
            obtain ⟨old, hold, rfl⟩ := List.mem_map.mp hother
            split
            · exact hrated
            · exact hs.rated old hold
          · intro review hreview
            obtain ⟨other, hother, hv⟩ := hs.listed review hreview
            refine ⟨_, List.mem_map_of_mem hother, ?_⟩
            split
            · next hsame =>
              have heq := hrow' other hother hsame
              subst heq
              by_contra hne
              have hin : review ∈ ofVendor other.vendor_id s.store.reviews :=
                mem_ofVendor_iff.mpr ⟨hreview, hv.symm⟩
              exact hreviews ⟨fun h => hne (h.trans hv), List.ne_nil_of_mem hin⟩
            · exact hv
          · exact hs.posted

end Writes

section Others

variable {ι φ : Type} [Fintype ι] [DecidableEq ι] [DecidableEq φ] {float : ℚ → φ}
  {store : Store φ} {s : Service ι φ} {i j : ι} {vendor_id : UUID} {pending : Option Change}
  {average : φ} {total : ℕ} {listing : Option (VendorListing φ)} {loaded : VendorListing φ}
  {payload : InternalListingUpsertRequest φ}

omit [Fintype ι] [DecidableEq ι] [DecidableEq φ] in
/-- A listing that is still there as it was is retained. -/
theorem Retained.of_subset {phase : Phase φ} {store' : Store φ}
    (h : ∀ change ∈ phase.change, ∀ row ∈ store.listings,
      row.vendor_id = change.review.vendor_id → row ∈ store'.listings) :
    Retained phase store store' := by
  intro change hchange row hrow hvendor
  exact ⟨row, h change hchange row hrow hvendor, rfl, rfl, fun _ => ⟨rfl, rfl⟩⟩

/-- The commit of a review operation is harmless to a session that has not yet read the
average of the vendor. -/
theorem Current.commitRating {phase : Phase φ} (hs : Stored float store)
    (hown : Current float store (.rated vendor_id pending average total listing))
    (h : Current float store phase)
    (hcalm : pending.isSome → phase.hasAverage vendor_id = false) :
    Current float (commitRating store pending average total listing) phase := by
  obtain ⟨hprotected, _, _, hfound⟩ := hown
  cases pending with
  | none =>
    rw [commitRating_none hfound]
    exact h
  | some change =>
    have hcalm := hcalm rfl
    obtain ⟨row, hrow, hvendor, loaded, hloaded, hid, _⟩ := hfound
    obtain ⟨hown, hposted, _⟩ := hprotected change rfl
    have hlisting : listing = some loaded := hloaded
    subst hlisting
    rw [commitRating_some (List.mem_map.mpr ⟨row, hrow, hid.symm⟩)]
    refine Current.retained h ?_ ?_ ?_
    · exact fun _ hmem => hmem
    · intro _ _ other hother _
      refine ⟨_, List.mem_map_of_mem hother, ?_⟩
      by_cases hsame : other.id = loaded.id
      · simp only [hsame, if_true]
        refine ⟨hsame, rfl, ?_⟩
        intro haverage
        have heq : other = row := hs.eq_of_id hother hrow (hsame.trans hid)
        rw [heq, hvendor, hcalm] at haverage
        exact absurd haverage Bool.false_ne_true
      · simp only [hsame, if_false, and_self, implies_true]
    · intro v hv
      apply ofVendor_apply_of_ne
      · rw [hown]
        rintro rfl
        rw [hcalm] at hv
        exact Bool.false_ne_true hv
      · intro review hreview hsame
        exact hs.eq_of_posted hreview hposted hsame

omit [DecidableEq φ] in
/-- The creation of a listing is harmless to the other sessions. -/
theorem Current.insertListing {phase : Phase φ} {new : VendorListing φ}
    (h : Current float store phase) : Current float (insertListing store new) phase := by
  unfold Marketplace.insertListing
  split
  · exact h
  · refine Current.retained h ?_ ?_ ?_
    · exact fun _ hmem => hmem
    · exact Retained.of_subset fun _ _ row hrow _ => List.mem_append_left _ hrow
    · exact fun _ _ => rfl

omit [DecidableEq φ] in
/-- The deletion of a listing is harmless to the other sessions, since it waits for them. -/
theorem Current.removeListing (hs : Stored float s.store) (hj : j ≠ i)
    (h : Current float s.store (s.phase j)) :
    Current float (removeListing s i loaded).1 (s.phase j) := by
  unfold Marketplace.removeListing
  split
  · exact h
  · next row hrow =>
    have hid : row.id = loaded.id := by simpa using List.find?_some hrow
    have hmem : row ∈ s.store.listings := List.mem_of_find?_eq_some hrow
    split
    · exact h
    · next hpinned =>
      split
      · exact h
      · refine Current.retained h ?_ ?_ ?_
        · exact fun _ hmem => hmem
        · apply Retained.of_subset
          intro change hchange other hother hvendor
          rw [List.mem_filter, decide_eq_true_eq]
          refine ⟨hother, ?_⟩
          intro hsame
          have heq : other = row := hs.eq_of_id hother hmem (hsame.trans hid.symm)
          exact hpinned ⟨j, hj, change, hchange, heq ▸ hvendor.symm⟩
        · exact fun _ _ => rfl

/-- An upsert that repeats the rating values it has loaded is harmless to the other
sessions, since it waits for them before it gives a listing away. -/
theorem Current.updateListing (hs : Stored float s.store) (hj : j ≠ i)
    (haverage : payload.average_rating = loaded.average_rating)
    (htotal : payload.total_reviews = loaded.total_reviews)
    (h : Current float s.store (s.phase j)) :
    Current float (updateListing s i payload loaded).1 (s.phase j) := by
  unfold Marketplace.updateListing
  split
  · exact h
  · next row hrow =>
    have hid : row.id = loaded.id := by simpa using List.find?_some hrow
    have hmem : row ∈ s.store.listings := List.mem_of_find?_eq_some hrow
    simp only
    split
    · exact h
    · next hpinned =>
      split
      · exact h
      · split
        · exact h
        · refine Current.retained h ?_ ?_ ?_
          · exact fun _ hmem => hmem
          · intro change hchange other hother hvendor
            refine ⟨_, List.mem_map_of_mem hother, ?_⟩
            by_cases hsame : other.id = loaded.id
            · have heq : other = row := hs.eq_of_id hother hmem (hsame.trans hid.symm)
              subst heq
              have hkept : (VendorListing.overwrite payload loaded other).vendor_id =
                  other.vendor_id := by
                by_contra hne
                exact hpinned ⟨hne, j, hj, change, hchange, hvendor.symm⟩
              simp only [hsame, if_true]
              refine ⟨hsame, hkept, fun _ => ?_⟩
              simp [VendorListing.overwrite, haverage, htotal]
            · simp only [hsame, if_false, and_self, implies_true]
          · exact fun _ _ => rfl

end Others

section Runs

variable {ι φ : Type} [Fintype ι] [DecidableEq ι] [DecidableEq φ] {float : ℚ → φ}
  {s : Service ι φ}

/-- A turn that does neither of the two things that break the ratings. A review operation
that commits a change finds no other one that has read the average of the vendor and not
yet committed. An upsert repeats the rating values of the listing it has loaded, or zeros
where it creates one. -/
def Calm (float : ℚ → φ) (s : Service ι φ) (turn : ι × Event φ) : Prop :=
  match turn.2, s.phase turn.1 with
  | .next _, .rated vendor_id change _ _ _ =>
    change.isSome → ∀ j, j ≠ turn.1 → (s.phase j).hasAverage vendor_id = false
  | .next _, .upsertLoaded payload listing =>
    payload.isApproved →
      match listing with
      | none => payload.average_rating = float 0 ∧ payload.total_reviews = 0
      | some loaded =>
        payload.average_rating = loaded.average_rating ∧
          payload.total_reviews = loaded.total_reviews
  | _, _ => True

omit [Fintype ι] [DecidableEq ι] [DecidableEq φ] in
/-- What a session has read outlives a store that only knows one more posted review. -/
theorem Current.posted {store : Store φ} {phase : Phase φ} {review : Review}
    (h : Current float store phase) (hnew : review.id ∉ store.posted.rows.map Review.id) :
    Current float { store with posted := store.posted.upsert review } phase := by
  apply h.retained
  · intro other hother
    refine Table.mem_upsert_iff.mpr (Or.inr ⟨hother, ?_⟩)
    intro hsame
    exact hnew (List.mem_map.mpr ⟨other, hother, hsame⟩)
  · exact Retained.of_subset fun _ _ _ hrow _ => hrow
  · exact fun _ _ => rfl

variable {i : ι} {event : Event φ} {id : UUID}

omit [DecidableEq φ] in
/-- The INSERT of a posted review is allowed only where its vendor is listed. -/
theorem Current.insertReview {store : Store φ} {review : Review}
    (h : review ∈ store.posted.rows) : Current float store (insertReview store review) := by
  unfold Marketplace.insertReview
  split
  · trivial
  · split
    · trivial
    · next hlisted =>
      rw [Option.isNone_iff_eq_none] at hlisted
      obtain ⟨listing, hlisting⟩ := Option.ne_none_iff_exists'.mp hlisted
      rintro change ⟨⟩
      exact ⟨rfl, h, listing, List.mem_of_find?_eq_some hlisting,
        by simpa using List.find?_some hlisting⟩

omit [DecidableEq φ] in
/-- The listing that a review operation finds is the stored one. Without a change of its
own, the session sees the committed reviews, which the stored rating is about. -/
theorem Found.findVendor {store : Store φ} {vendor_id : UUID} {pending : Option Change}
    {average : φ} {total : ℕ} (hs : Stored float store)
    (hprotected : Protected store vendor_id pending)
    (haverage : AverageRead float store vendor_id pending average)
    (htotal : CountRead store vendor_id pending total) :
    Found store vendor_id pending average total (findVendor vendor_id store.listings) := by
  cases pending with
  | none =>
    intro loaded hloaded
    have hvendor : loaded.vendor_id = vendor_id := by simpa using List.find?_some hloaded
    obtain ⟨hcount, hmean⟩ := hs.rated loaded (List.mem_of_find?_eq_some hloaded)
    rw [hvendor] at hcount hmean
    exact ⟨haverage.trans hmean.symm, htotal.trans hcount.symm⟩
  | some change =>
    obtain ⟨_, _, row, hrow, hvendor⟩ := hprotected change rfl
    have hsome : (Marketplace.findVendor vendor_id store.listings).isSome :=
      List.find?_isSome.mpr ⟨row, hrow, by simpa using hvendor⟩
    obtain ⟨loaded, hloaded⟩ := Option.isSome_iff_exists.mp hsome
    have hvendor' : loaded.vendor_id = vendor_id := by simpa using List.find?_some hloaded
    exact ⟨loaded, List.mem_of_find?_eq_some hloaded, hvendor', loaded, hloaded, rfl, rfl, rfl⟩

/-- A statement that leaves the store as it is. -/
theorem Sound.of_phase (hs : Sound float s)
    (hstore : (statement float s i event).1 = s.store)
    (hphase : Current float s.store (statement float s i event).2) :
    Sound float (s.step (statement float) (i, event)) := by
  apply Sessions.holds_step
  · rw [hstore]
    exact hs.stored
  · rw [hstore]
    exact hphase
  · intro j _
    rw [hstore]
    exact hs.session j

/-- The phases whose next statement commits. -/
def Phase.commits : Phase φ → Bool
  | rated _ _ _ _ _ | upsertLoaded _ _ | removingLoaded _ => true
  | _ => false

/-- A statement before the commit leaves the committed rows. -/
theorem next_store (h : (s.phase i).commits = false) :
    (Marketplace.next float s i id).1 = s.store := by
  unfold Marketplace.next
  cases hphase : s.phase i with
  | idle | saving | flushed | averaged | counted | upsertingExternal => rfl
  | getting | deleting | upserting | removing =>
    simp only
    repeat' split
    all_goals rfl
  | rated | upsertLoaded | removingLoaded =>
    rw [hphase] at h
    cases h

/-- A statement before the commit leaves what it has read right for the store. -/
theorem Current.next (hs : Stored float s.store) (hown : Current float s.store (s.phase i))
    (h : (s.phase i).commits = false) :
    Current float s.store (Marketplace.next float s i id).2 := by
  unfold Marketplace.next
  cases hphase : s.phase i with
  | idle => trivial
  | saving review =>
    rw [hphase] at hown
    exact Current.insertReview hown
  | getting review_id =>
    simp only
    split
    · trivial
    · next review hfind => exact hs.posted review (List.mem_of_find?_eq_some hfind)
  | deleting review =>
    rw [hphase] at hown
    simp only
    split
    · exact hown
    · split
      · next hthere =>
        obtain ⟨stored, hstored, hid⟩ := List.mem_map.mp hthere
        have heq : stored = review := hs.eq_of_posted hstored hown hid
        rintro change ⟨⟩
        exact ⟨rfl, hown, hs.listed review (heq ▸ hstored)⟩
      · rintro change ⟨⟩
  | flushed vendor_id change =>
    rw [hphase] at hown
    exact ⟨hown, get_average_rating_eq⟩
  | averaged vendor_id change average =>
    rw [hphase] at hown
    exact ⟨hown.1, hown.2, rfl⟩
  | counted vendor_id change average total =>
    rw [hphase] at hown
    obtain ⟨hprotected, haverage, htotal⟩ := hown
    exact ⟨hprotected, haverage, htotal, .findVendor hs hprotected haverage htotal⟩
  | upserting | removing =>
    simp only
    repeat' split
    all_goals trivial
  | upsertingExternal => trivial
  | rated | upsertLoaded | removingLoaded =>
    rw [hphase] at h
    cases h

variable (s i) in
/-- A commit of a listing that waits leaves its session where it is. -/
theorem updateListing_phase (payload : InternalListingUpsertRequest φ) (loaded : VendorListing φ) :
    (updateListing s i payload loaded).2 = .idle ∨
      (updateListing s i payload loaded).2 = s.phase i := by
  unfold updateListing
  split
  · exact Or.inl rfl
  · simp only
    repeat' split
    · exact Or.inr rfl
    all_goals exact Or.inl rfl

variable (s i) in
omit [DecidableEq φ] in
theorem removeListing_phase (loaded : VendorListing φ) :
    (removeListing s i loaded).2 = .idle ∨ (removeListing s i loaded).2 = s.phase i := by
  unfold removeListing
  repeat' split
  · exact Or.inl rfl
  · exact Or.inr rfl
  all_goals exact Or.inl rfl

/-- The next statement of a calm turn keeps the service sound. -/
theorem Sound.next (hs : Sound float s) (hcalm : Calm float s (i, .next id)) :
    Sound float (s.step (statement float) (i, .next id)) := by
  have hown := hs.session i
  by_cases hcommits : (s.phase i).commits = false
  · exact hs.of_phase (next_store hcommits) (.next hs.stored hown hcommits)
  have hstatement : statement float s i (.next id) = Marketplace.next float s i id := rfl
  unfold Marketplace.next at hstatement
  unfold Calm at hcalm
  -- a deletion may also end an upsert
  have hremove : ∀ loaded, (s.phase i = .removingLoaded loaded ∨
        ∃ payload, s.phase i = .upsertLoaded payload (some loaded)) →
      statement float s i (.next id) = removeListing s i loaded →
      Sound float (s.step (statement float) (i, .next id)) := by
    intro loaded hphase hresult
    apply Sessions.holds_step
    · rw [hresult]
      exact hs.stored.removeListing
    · rw [hresult]
      rcases removeListing_phase s i loaded with h | h
      · rw [h]
        trivial
      · rcases hphase with hphase | ⟨payload, hphase⟩
        · rw [h, hphase]
          trivial
        · rw [h, hphase]
          trivial
    · intro j hj
      rw [hresult]
      exact .removeListing hs.stored hj (hs.session j)
  cases hphase : s.phase i with
  | rated vendor_id change average total listing =>
    simp only [hphase] at hstatement hcalm hown
    apply Sessions.holds_step
    · rw [hstatement]
      exact hs.stored.commitRating hown
    · rw [hstatement]
      trivial
    · intro j hj
      rw [hstatement]
      exact .commitRating hs.stored hown (hs.session j) fun h => hcalm h j hj
  | upsertLoaded payload listing =>
    simp only [hphase] at hstatement hcalm
    cases listing with
    | none =>
      rw [commitUpsert] at hstatement
      by_cases happroved : payload.isApproved
      · obtain ⟨haverage, htotal⟩ := hcalm happroved
        rw [if_pos happroved] at hstatement
        apply Sessions.holds_step
        · rw [hstatement]
          exact hs.stored.insertListing haverage htotal
        · rw [hstatement]
          trivial
        · intro j _
          rw [hstatement]
          exact .insertListing (hs.session j)
      · rw [if_neg happroved] at hstatement
        refine hs.of_phase ?_ ?_
        · rw [hstatement]
        · rw [hstatement]
          trivial
    | some loaded =>
      rw [commitUpsert] at hstatement
      by_cases happroved : payload.isApproved
      · obtain ⟨haverage, htotal⟩ := hcalm happroved
        rw [if_pos happroved] at hstatement
        apply Sessions.holds_step
        · rw [hstatement]
          exact hs.stored.updateListing haverage htotal
        · rw [hstatement]
          rcases updateListing_phase s i payload loaded with h | h
          · rw [h]
            trivial
          · rw [h, hphase]
            trivial
        · intro j hj
          rw [hstatement]
          exact .updateListing hs.stored hj haverage htotal (hs.session j)
      · rw [if_neg happroved] at hstatement
        exact hremove loaded (Or.inr ⟨payload, hphase⟩) hstatement
  | removingLoaded loaded =>
    simp only [hphase] at hstatement
    exact hremove loaded (Or.inl hphase) hstatement
  | idle | saving | getting | deleting | flushed | averaged | counted | upserting
    | upsertingExternal | removing =>
    rw [hphase] at hcommits
    exact absurd rfl hcommits

/-- A calm turn keeps the service sound. -/
theorem Sound.step (turn : ι × Event φ) (hs : Sound float s) (hcalm : Calm float s turn) :
    Sound float (s.step (statement float) turn) := by
  obtain ⟨i, event⟩ := turn
  cases event with
  | next id => exact hs.next hcalm
  | abort => exact hs.of_phase rfl trivial
  | start operation =>
    have hown := hs.session i
    by_cases hidle : s.phase i = .idle
    · have hstatement : statement float s i (.start operation) = begin s.store operation := by
        simp only [statement, hidle]
      cases operation with
      | saveReview review =>
        rw [begin] at hstatement
        split at hstatement
        · refine hs.of_phase ?_ ?_
          · rw [hstatement]
          · rw [hstatement]
            trivial
        · next hnew =>
          have hkept : ∀ other ∈ s.store.posted.rows,
              other ∈ (s.store.posted.upsert review).rows := fun other hother =>
            Table.mem_upsert_iff.mpr (Or.inr ⟨hother, fun hsame =>
              hnew (List.mem_map.mpr ⟨other, hother, hsame⟩)⟩)
          apply Sessions.holds_step
          · rw [hstatement]
            exact ⟨hs.stored.ids, hs.stored.vendors, hs.stored.rated, hs.stored.listed,
              fun other hother => hkept other (hs.stored.posted other hother)⟩
          · rw [hstatement]
            exact Table.mem_upsert_iff.mpr (Or.inl rfl)
          · intro j _
            rw [hstatement]
            exact (hs.session j).posted hnew
      | deleteReview | upsertListing | deleteListing =>
        refine hs.of_phase ?_ ?_
        · rw [hstatement]
          rfl
        · rw [hstatement]
          trivial
    · have hstatement : statement float s i (.start operation) = (s.store, s.phase i) := by
        unfold statement
        cases hphase : s.phase i with
        | idle => exact absurd hphase hidle
        | _ => rfl
      refine hs.of_phase ?_ ?_
      · rw [hstatement]
      · rw [hstatement]
        exact hown

/-- The service before any request. -/
def Service.start : Service ι φ where
  store := .empty
  phase := fun _ => .idle

end Runs

section Samples

instance {φ : Type} [DecidableEq φ] (float : ℚ → φ) (reviews : List Review)
    (listing : VendorListing φ) : Decidable (Rated float reviews listing) :=
  inferInstanceAs (Decidable (_ ∧ _))

instance {ι φ : Type} [Fintype ι] [DecidableEq ι] [DecidableEq φ] (float : ℚ → φ)
    (s : Service ι φ) (turn : ι × Event φ) : Decidable (Calm float s turn) := by
  unfold Calm
  split
  · infer_instance
  · split <;> infer_instance
  · infer_instance

/-- Whether no operation is in progress. -/
def Phase.isIdle {φ : Type} : Phase φ → Bool
  | idle => true
  | _ => false

theorem Phase.isIdle_iff {φ : Type} (phase : Phase φ) : phase.isIdle = true ↔ phase = .idle := by
  cases phase <;> simp [Phase.isIdle]

/-- The request that lists the vendor of the samples. Its rating values are the defaults. -/
def samplePayload : InternalListingUpsertRequest ℚ where
  vendor_id := 1
  external_id := none
  business_name := "Studio"
  category := "other"
  description := "Photos"
  service_area := "Kigali"
  tags := .none
  cover_image_url := none
  average_rating := 0
  total_reviews := 0
  is_verified := false
  approval_status := "approved"
  status := none
  is_approved := true
  search_rank_score := 0
  starting_price := none
  min_package_price := none
  max_package_price := none
  currency := none

/-- A review of the vendor of the samples. -/
def sampleReview (id : UUID) (rating : ℤ) (h : 1 ≤ rating ∧ rating ≤ 5) : Review where
  id
  vendor_id := 1
  author_user_id := 2
  rating
  comment := none
  is_verified_purchase := false
  created_at := 0
  rating_valid := h

/-- A request of a session, performed without interruption. -/
def uninterrupted {ι φ : Type} (i : ι) (operation : Operation φ) (statements : ℕ) :
    List (ι × Event φ) :=
  (i, .start operation) :: List.replicate statements (i, .next 7)

/-- Two reviews of a new listing, one of which is deleted again. -/
def sampleReviews : List (Fin 2 × Event ℚ) :=
  uninterrupted 0 (.upsertListing samplePayload) 2 ++
    uninterrupted 0 (.saveReview (sampleReview 3 5 (by decide))) 5 ++
    uninterrupted 1 (.saveReview (sampleReview 4 2 (by decide))) 5 ++
    uninterrupted 0 (.deleteReview 3) 6

/-- The same listing upserted once more after its first review. -/
def sampleUpsertedAgain : List (Fin 2 × Event ℚ) :=
  uninterrupted 0 (.upsertListing samplePayload) 2 ++
    uninterrupted 0 (.saveReview (sampleReview 3 5 (by decide))) 5 ++
    uninterrupted 0 (.upsertListing samplePayload) 2

end Samples

/-- In every run of calm turns, each listing carries the number and the mean of the stored
reviews of its vendor after every statement, also while operations are in progress. -/
theorem listings_rated {ι φ : Type} [Fintype ι] [DecidableEq ι] [DecidableEq φ] (float : ℚ → φ)
    (turns : List (ι × Event φ))
    (hcalm : Sessions.Always (statement float) (Calm float) (Service.start : Service ι φ) turns) :
    let s := (Service.start : Service ι φ).run (statement float) turns
    ∀ listing ∈ s.store.listings, Rated float s.store.reviews listing := by
  have hstart : Sound float (Service.start : Service ι φ) := by
    refine ⟨⟨List.nodup_nil, List.nodup_nil, ?_, ?_, ?_⟩, fun _ => trivial⟩
    · exact fun listing h => absurd h List.not_mem_nil
    · exact fun review h => absurd h List.not_mem_nil
    · exact fun review h => absurd h List.not_mem_nil
  have hend := Sessions.run_keeps (I := Sound float) (fun s turn hs h => hs.step turn h)
    hstart hcalm
  exact hend.stored.rated

/-- After two reviews and the deletion of the first, the listing of the samples carries the
second. -/
theorem listings_rated_sample :
    let s := (Service.start : Service (Fin 2) ℚ).run (statement id) sampleReviews
    (s.store.listings.map fun listing => (listing.average_rating, listing.total_reviews)) =
        [(2, 1)] ∧
      ∀ listing ∈ s.store.listings, Rated id s.store.reviews listing :=
  ⟨by decide +kernel, listings_rated id sampleReviews (by decide +kernel)⟩

/-- An upsert with the default rating values makes the listing forget its review. -/
theorem rating_overwritten_by_upsert :
    ¬ ∀ turns : List (Fin 2 × Event ℚ),
      let s := (Service.start : Service (Fin 2) ℚ).run (statement id) turns
      (∀ i, s.phase i = .idle) →
        ∀ listing ∈ s.store.listings, Rated id s.store.reviews listing := by
  intro h
  have hidle : ∀ i, ((Service.start : Service (Fin 2) ℚ).run (statement id)
      sampleUpsertedAgain).phase i = .idle := by
    intro i
    have hphases : ∀ i : Fin 2, (((Service.start : Service (Fin 2) ℚ).run (statement id)
        sampleUpsertedAgain).phase i).isIdle = true := by
      decide +kernel
    exact (Phase.isIdle_iff _).mp (hphases i)
  have hrated := h sampleUpsertedAgain hidle
  revert hrated
  decide +kernel

/-- Two reviews of one vendor whose operations overlap are counted as one. -/
example :
    let first := sampleReview 3 5 (by decide)
    let second := sampleReview 4 2 (by decide)
    let turns : List (Fin 2 × Event ℚ) :=
      uninterrupted 0 (.upsertListing samplePayload) 2 ++
        uninterrupted 0 (.saveReview first) 4 ++ uninterrupted 1 (.saveReview second) 5 ++
        [(0, .next 7)]
    let s := (Service.start : Service (Fin 2) ℚ).run (statement id) turns
    s.store.reviews = [second, first] ∧
      (s.store.listings.map fun listing => (listing.average_rating, listing.total_reviews)) =
        [(5, 1)] := by
  decide +kernel

end Linkapro.Marketplace
