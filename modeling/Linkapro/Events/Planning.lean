import Linkapro.Events.Timeline
import Linkapro.Lib.Table
import Mathlib.Data.List.Sort

/-!
# Guest and timeline requests

The views of the guests and of the timeline blocks, with the repositories and the handlers
behind them, as functions on the stored rows. A request is safe when its restrictions are
members, its e-mail address and its order fit their columns, and its block ends after it
starts. Exactly the runs of safe requests answer every request and leave rows that are rebuilt.
-/

namespace Linkapro.Events

open Lib (Table ok_bind exists_mapM_ok_iff)

/-! ### Rows and repositories -/

abbrev StoredGuest : Type := {row : GuestRow // row.fits = true}

abbrev StoredBlock : Type := {row : TimelineRow // row.fits = true}

structure Database : Type where
  events : List Event
  guests : Table fun row : StoredGuest => row.val.id
  timeline_blocks : Table fun row : StoredBlock => row.val.id

namespace Database

/-- `query_handlers.get_event(event_id)`. -/
def get_event (db : Database) (event_id : UUID) : Option Event :=
  db.events.find? fun event => event.id = event_id

/-- `guest_repo.save(guest)`. -/
def save_guest (db : Database) (now : Datetime) (guest : GuestEntry) :
    Except Raised GuestEntry × Database :=
  match db.get_event guest.event_id with
  | none => (.error .eventDoesNotExist, db)
  | some _ =>
    let row := guest.row now ((db.guests.lookup guest.id).map Subtype.val)
    if fits : row.fits = true then
      (row.to_domain, { db with guests := db.guests.upsert ⟨row, fits⟩ })
    else (.error .dataError, db)

/-- `guest_repo.list_by_event(event_id)`. -/
def guests_of (db : Database) (event_id : UUID) : Except Raised (List GuestEntry) :=
  (db.guests.rows.filter fun row => row.val.event_id = event_id).mapM fun row => row.val.to_domain

/-- `timeline_repo.save(block)`. -/
def save_block (db : Database) (now : Datetime) (block : TimelineBlock) :
    Except Raised TimelineBlock × Database :=
  match db.get_event block.event_id with
  | none => (.error .eventDoesNotExist, db)
  | some _ =>
    let row := block.row now ((db.timeline_blocks.lookup block.id).map Subtype.val)
    if fits : row.fits = true then
      (row.to_domain, { db with timeline_blocks := db.timeline_blocks.upsert ⟨row, fits⟩ })
    else (.error .dataError, db)

/-- The rows of `timeline_repo.list_by_event(event_id)`, by their order. -/
def block_rows (db : Database) (event_id : UUID) : List StoredBlock :=
  (db.timeline_blocks.rows.filter fun row => row.val.event_id = event_id).insertionSort
    fun first second => first.val.order ≤ second.val.order

/-- `timeline_repo.list_by_event(event_id)`. -/
def blocks_of (db : Database) (event_id : UUID) : Except Raised (List TimelineBlock) :=
  (db.block_rows event_id).mapM fun row => row.val.to_domain

/-! ### Command handlers -/

/-- `add_guest(cmd)`. -/
def add_guest (db : Database) (reading : Reading) (event_id : UUID) (data : AddGuestData) :
    Except Raised GuestEntryDTO × Database :=
  match data.guest reading event_id with
  | .error raised => (.error raised, db)
  | .ok guest => ((db.save_guest reading.now guest).1.map to_guest_dto,
      (db.save_guest reading.now guest).2)

/-- `update_guest(cmd)`. -/
def update_guest (db : Database) (now : Datetime) (guest_id : UUID) (data : UpdateGuestData) :
    Except Raised GuestEntryDTO × Database :=
  match db.guests.lookup guest_id with
  | none => (.error (.guestNotFound "Guest not found"), db)
  | some row =>
    match row.val.to_domain >>= data.apply now with
    | .error raised => (.error raised, db)
    | .ok guest => ((db.save_guest now guest).1.map to_guest_dto, (db.save_guest now guest).2)

/-- `add_timeline_block(cmd)`. -/
def add_timeline_block (db : Database) (reading : Reading) (event_id : UUID)
    (data : AddTimelineBlockData) : Except Raised TimelineBlockDTO × Database :=
  match db.blocks_of event_id >>= data.block reading event_id with
  | .error raised => (.error raised, db)
  | .ok block => ((db.save_block reading.now block).1.map to_timeline_dto,
      (db.save_block reading.now block).2)

end Database

/-! ### Views -/

/-- The body of a response. -/
inductive Payload : Type where
  | guest (dto : GuestEntryDTO)
  | guests (dtos : List GuestEntryDTO)
  | block (dto : TimelineBlockDTO)
  | blocks (dtos : List TimelineBlockDTO)
deriving DecidableEq, Repr

inductive Response : Type where
  | ok (payload : Payload)
  | created (payload : Payload)
  | notFound
deriving DecidableEq, Repr

def Response.status : Response → ℕ
  | ok _ => 200
  | created _ => 201
  | notFound => 404

def _LEGACY_NOT_FOUND_MESSAGES : List String :=
  ["Event not found", "Checklist not found", "Checklist item not found", "Budget line not found",
    "Guest not found", "Timeline block not found"]

/-- The message of a `ValueError`. `repr` renders the text that is no member. -/
def Raised.message (repr : String → String) : Raised → Option String
  | notAMember enumeration text => some (repr text ++ " is not a valid " ++ enumeration)
  | invalidGuestEntry message => some message
  | guestNotFound message => some message
  | invalidTimelineRange message => some message
  | eventDoesNotExist => none
  | dataError => none

/-- `except _ROLLOUT_NOT_FOUND_CATCH as exc: return _rollout_not_found_response(exc)`. -/
def _rollout_not_found_response (repr : String → String) (raised : Raised) :
    Except Raised Response :=
  match raised with
  | .guestNotFound _ => .ok .notFound
  | raised =>
    if ∃ message ∈ raised.message repr, message ∈ _LEGACY_NOT_FOUND_MESSAGES then .ok .notFound
    else .error raised

/-- A request, after its serializer has accepted the body. -/
inductive Request : Type where
  | listGuests (event_id : UUID)
  | addGuest (event_id : UUID) (data : AddGuestData)
  | updateGuest (guest_id : UUID) (data : UpdateGuestData)
  | listBlocks (event_id : UUID)
  | addBlock (event_id : UUID) (data : AddTimelineBlockData)
  | updateBlock (block_id : UUID) (data : UpdateTimelineBlockData)

/-- A request of a planner, with what the clock and `uuid4` give while it is answered. -/
structure Turn : Type where
  user : UUID
  reading : Reading
  request : Request

namespace Database

/-- The event, if the planner owns it. -/
def owned (db : Database) (user event_id : UUID) : Option Event :=
  (db.get_event event_id).filter fun event => event.planner_id = user

/-- `GuestListCreateView.get`. -/
def guestListView (db : Database) (user event_id : UUID) : Except Raised Response × Database :=
  match db.owned user event_id with
  | none => (.ok .notFound, db)
  | some _ =>
    ((db.guests_of event_id).map fun guests => .ok (.guests (guests.map to_guest_dto)), db)

/-- `GuestListCreateView.post`. -/
def guestCreateView (db : Database) (user : UUID) (reading : Reading) (event_id : UUID)
    (data : AddGuestData) : Except Raised Response × Database :=
  match db.owned user event_id with
  | none => (.ok .notFound, db)
  | some _ => ((db.add_guest reading event_id data).1.map fun guest => .created (.guest guest),
      (db.add_guest reading event_id data).2)

/-- `GuestDetailView.patch`. -/
def guestDetailView (repr : String → String) (db : Database) (user : UUID) (now : Datetime)
    (guest_id : UUID) (data : UpdateGuestData) : Except Raised Response × Database :=
  match db.guests.lookup guest_id with
  | none => (.ok .notFound, db)
  | some row =>
    match db.owned user row.val.event_id with
    | none => (.ok .notFound, db)
    | some _ =>
      match db.update_guest now guest_id data with
      | (.ok guest, db) => (.ok (.ok (.guest guest)), db)
      | (.error raised, db) => (_rollout_not_found_response repr raised, db)

/-- `TimelineBlockListCreateView.get`. -/
def blockListView (db : Database) (user event_id : UUID) : Except Raised Response × Database :=
  match db.owned user event_id with
  | none => (.ok .notFound, db)
  | some _ =>
    ((db.blocks_of event_id).map fun blocks => .ok (.blocks (blocks.map to_timeline_dto)), db)

/-- `TimelineBlockListCreateView.post`. -/
def blockCreateView (db : Database) (user : UUID) (reading : Reading) (event_id : UUID)
    (data : AddTimelineBlockData) : Except Raised Response × Database :=
  match db.owned user event_id with
  | none => (.ok .notFound, db)
  | some _ =>
    ((db.add_timeline_block reading event_id data).1.map fun block => .created (.block block),
      (db.add_timeline_block reading event_id data).2)

/-- `TimelineBlockDetailView.patch`. -/
def blockDetailView (db : Database) (user : UUID) (now : Datetime) (block_id : UUID)
    (data : UpdateTimelineBlockData) : Except Raised Response × Database :=
  match db.timeline_blocks.lookup block_id with
  | none => (.ok .notFound, db)
  | some stored =>
    match db.owned user stored.val.event_id with
    | none => (.ok .notFound, db)
    | some _ =>
      let row := data.apply now stored.val
      if fits : row.fits = true then
        (.ok (.ok (.block row.serialized)),
          { db with timeline_blocks := db.timeline_blocks.upsert ⟨row, fits⟩ })
      else (.error .dataError, db)

/-- The response to a turn, or what escapes the view, and the rows afterwards. -/
def respond (repr : String → String) (db : Database) (turn : Turn) :
    Except Raised Response × Database :=
  match turn.request with
  | .listGuests event_id => db.guestListView turn.user event_id
  | .addGuest event_id data => db.guestCreateView turn.user turn.reading event_id data
  | .updateGuest guest_id data => db.guestDetailView repr turn.user turn.reading.now guest_id data
  | .listBlocks event_id => db.blockListView turn.user event_id
  | .addBlock event_id data => db.blockCreateView turn.user turn.reading event_id data
  | .updateBlock block_id data => db.blockDetailView turn.user turn.reading.now block_id data

/-- Every stored row satisfies the construction rules of its entity. -/
structure Sound (db : Database) : Prop where
  guests : ∀ row ∈ db.guests.rows, ∃ guest, row.val.to_domain = .ok guest
  timeline_blocks : ∀ row ∈ db.timeline_blocks.rows, row.val.start_time < row.val.end_time

end Database

/-! ### Good and safe runs -/

/-- A request is answered, without an exception, and leaves sound rows. -/
def Good (outcome : Except Raised Response × Database) : Prop :=
  (∃ response, outcome.1 = .ok response ∧
    (response.status ∈ [200, 201] ∨ 400 ≤ response.status ∧ response.status < 500)) ∧
  outcome.2.Sound

/-- What the serializers leave unchecked of a request to an event that the planner owns. -/
def Turn.Safe (db : Database) (turn : Turn) : Prop :=
  match turn.request with
  | .listGuests _ => True
  | .addGuest event_id data => (db.owned turn.user event_id).isSome →
      KnownRestrictions data.dietary_restrictions ∧ shortEmail data.email
  | .updateGuest guest_id data => ∀ row, db.guests.lookup guest_id = some row →
      (db.owned turn.user row.val.event_id).isSome →
      (∀ texts ∈ data.dietary_restrictions, KnownRestrictions texts) ∧ shortEmail data.email
  | .listBlocks _ => True
  | .addBlock event_id data => (db.owned turn.user event_id).isSome →
      data.start_time < data.end_time ∧ ∀ row ∈ db.timeline_blocks.rows,
        row.val.event_id = event_id → row.val.order < positiveIntegerMax
  | .updateBlock block_id data => ∀ row, db.timeline_blocks.lookup block_id = some row →
      (db.owned turn.user row.val.event_id).isSome →
      data.start_time.getD row.val.start_time < data.end_time.getD row.val.end_time ∧
        shortOrder data.order

/-- Every turn of a run is good. -/
def AllGood (repr : String → String) : Database → List Turn → Prop
  | _, [] => True
  | db, turn :: turns => Good (db.respond repr turn) ∧ AllGood repr (db.respond repr turn).2 turns

/-- Every turn of a run is safe in the state before it. -/
def AllSafe (repr : String → String) : Database → List Turn → Prop
  | _, [] => True
  | db, turn :: turns => turn.Safe db ∧ AllSafe repr (db.respond repr turn).2 turns

/-! ### Repositories -/

variable {db : Database} {turn : Turn} {user event_id : UUID} {repr : String → String}
  {reading : Reading} {now : Datetime} {guest : GuestEntry} {block : TimelineBlock}

/-- What a sound database is left with when a row of a guest is written that is rebuilt. -/
theorem Database.Sound.write_guest (h : db.Sound) {row : StoredGuest}
    (hrow : ∃ guest, row.val.to_domain = .ok guest) :
    Database.Sound { db with guests := db.guests.upsert row } := by
  constructor
  · intro row' hrow'
    rcases Table.mem_upsert_iff.mp hrow' with rfl | ⟨hmem, -⟩
    · exact hrow
    · exact h.guests row' hmem
  · exact h.timeline_blocks

theorem Database.Sound.write_block (h : db.Sound) {row : StoredBlock}
    (hrow : row.val.start_time < row.val.end_time) :
    Database.Sound { db with timeline_blocks := db.timeline_blocks.upsert row } := by
  constructor
  · exact h.guests
  · intro row' hrow'
    rcases Table.mem_upsert_iff.mp hrow' with rfl | ⟨hmem, -⟩
    · exact hrow
    · exact h.timeline_blocks row' hmem

/-- Saving a guest of a known event succeeds when its e-mail address fits the column. -/
theorem Database.save_guest_cases (now : Datetime) (h : db.Sound)
    (hevent : (db.get_event guest.event_id).isSome) (hguest : guest.Storable) :
    (shortEmail guest.email ∧ (∃ saved, (db.save_guest now guest).1 = .ok saved) ∧
      (db.save_guest now guest).2.Sound) ∨
    (¬shortEmail guest.email ∧ (db.save_guest now guest).1 = .error .dataError) := by
  obtain ⟨event, hevent⟩ := Option.isSome_iff_exists.mp hevent
  rw [save_guest, hevent]
  dsimp only
  split
  · rename_i hfits
    have hrebuilt := guest.to_domain_row now ((db.guests.lookup guest.id).map Subtype.val)
    exact .inl ⟨hguest.row_fits_iff.mp hfits, hrebuilt, h.write_guest hrebuilt⟩
  · rename_i hfits
    exact .inr ⟨mt hguest.row_fits_iff.mpr hfits, rfl⟩

/-- Saving a block of a known event succeeds when the columns take its row. -/
theorem Database.save_block_cases (now : Datetime) (h : db.Sound)
    (hevent : (db.get_event block.event_id).isSome) {P : Prop}
    (hfits : ∀ stored, (block.row now stored).fits = true ↔ P) :
    (P ∧ (∃ saved, (db.save_block now block).1 = .ok saved) ∧ (db.save_block now block).2.Sound) ∨
    (¬P ∧ (db.save_block now block).1 = .error .dataError) := by
  obtain ⟨event, hevent⟩ := Option.isSome_iff_exists.mp hevent
  rw [save_block, hevent]
  dsimp only
  split
  · rename_i hrow
    have hrebuilt := block.to_domain_row now ((db.timeline_blocks.lookup block.id).map Subtype.val)
    exact .inl ⟨(hfits _).mp hrow, hrebuilt, h.write_block block.range⟩
  · rename_i hrow
    exact .inr ⟨mt (hfits _).mpr hrow, rfl⟩

theorem Database.exists_guests_of (h : db.Sound) (event_id : UUID) :
    ∃ guests, db.guests_of event_id = .ok guests :=
  exists_mapM_ok_iff.mpr fun row hrow => h.guests row (List.mem_filter.mp hrow).1

theorem Database.mem_block_rows_iff {row : StoredBlock} :
    row ∈ db.block_rows event_id ↔
      row ∈ db.timeline_blocks.rows ∧ row.val.event_id = event_id := by
  rw [block_rows, List.mem_insertionSort, List.mem_filter, decide_eq_true_eq]

/-- Blocks are rebuilt with the orders of their rows. -/
theorem exists_mapM_to_domain (rows : List StoredBlock)
    (h : ∀ row ∈ rows, row.val.start_time < row.val.end_time) :
    ∃ blocks, rows.mapM (fun row => row.val.to_domain) = .ok blocks ∧
      blocks.map TimelineBlock.order = rows.map fun row => row.val.order := by
  induction rows with
  | nil => exact ⟨[], rfl, rfl⟩
  | cons row rows ih =>
    obtain ⟨blocks, hblocks, horders⟩ := ih fun row' hrow' => h row' (.tail row hrow')
    have hrow : row.val.to_domain = .ok _ := dif_pos (h row (.head rows))
    rw [List.mapM_cons, hrow, ok_bind, hblocks, ok_bind]
    exact ⟨_, rfl, congrArg (row.val.order :: ·) horders⟩

/-- What an order of the blocks of an event satisfies is what the orders of its rows satisfy. -/
theorem Database.exists_blocks_of (h : db.Sound) (event_id : UUID) :
    ∃ blocks, db.blocks_of event_id = .ok blocks ∧
      ∀ P : ℤ → Prop, (∀ block ∈ blocks, P block.order) ↔
        ∀ row ∈ db.timeline_blocks.rows, row.val.event_id = event_id → P row.val.order := by
  obtain ⟨blocks, hblocks, horders⟩ := exists_mapM_to_domain (db.block_rows event_id)
    fun row hrow => h.timeline_blocks row (mem_block_rows_iff.mp hrow).1
  refine ⟨blocks, hblocks, fun P => ?_⟩
  calc (∀ block ∈ blocks, P block.order)
      ↔ ∀ order ∈ blocks.map TimelineBlock.order, P order := List.forall_mem_map.symm
    _ ↔ ∀ row ∈ db.block_rows event_id, P row.val.order := by rw [horders, List.forall_mem_map]
    _ ↔ ∀ row ∈ db.timeline_blocks.rows, row.val.event_id = event_id → P row.val.order :=
        forall_congr' fun row => by rw [mem_block_rows_iff, and_imp]

/-! ### Views -/

theorem good_iff {outcome : Except Raised Response × Database} :
    Good outcome ↔ (∃ response, outcome.1 = .ok response) ∧ outcome.2.Sound := by
  refine and_congr_left fun _ => ⟨fun ⟨response, hok, _⟩ => ⟨response, hok⟩, ?_⟩
  rintro ⟨response, hok⟩
  refine ⟨response, hok, ?_⟩
  cases response with
  | ok payload => exact .inl (by decide : 200 ∈ [200, 201])
  | created payload => exact .inl (by decide : 201 ∈ [200, 201])
  | notFound => exact .inr (by decide : 400 ≤ 404 ∧ 404 < 500)

theorem good_notFound (h : db.Sound) : Good (.ok .notFound, db) := good_iff.mpr ⟨⟨_, rfl⟩, h⟩

theorem not_good_error {raised : Raised} {outcome : Except Raised Response × Database}
    (h : outcome.1 = .error raised) : ¬Good outcome := by
  rintro ⟨⟨response, hok, -⟩, -⟩
  rw [h] at hok
  cases hok

theorem get_event_of_owned {event : Event} (h : db.owned user event_id = some event) :
    (db.get_event event_id).isSome := by
  obtain ⟨hevent, -⟩ := Option.filter_eq_some_iff.mp h
  rw [hevent]
  rfl

theorem guestListView_good (h : db.Sound) (user event_id : UUID) :
    Good (db.guestListView user event_id) := by
  rw [Database.guestListView]
  cases db.owned user event_id with
  | none => exact good_notFound h
  | some event =>
    obtain ⟨guests, hguests⟩ := Database.exists_guests_of h event_id
    refine good_iff.mpr ⟨⟨.ok (.guests (guests.map to_guest_dto)), ?_⟩, h⟩
    dsimp only
    rw [hguests]
    rfl

theorem blockListView_good (h : db.Sound) (user event_id : UUID) :
    Good (db.blockListView user event_id) := by
  rw [Database.blockListView]
  cases db.owned user event_id with
  | none => exact good_notFound h
  | some event =>
    obtain ⟨blocks, hblocks, -⟩ := Database.exists_blocks_of h event_id
    refine good_iff.mpr ⟨⟨.ok (.blocks (blocks.map to_timeline_dto)), ?_⟩, h⟩
    dsimp only
    rw [hblocks]
    rfl

theorem guestCreateView_good_iff (h : db.Sound) {data : AddGuestData} :
    Good (db.guestCreateView user reading event_id data) ↔
      ((db.owned user event_id).isSome →
        KnownRestrictions data.dietary_restrictions ∧ shortEmail data.email) := by
  rw [Database.guestCreateView]
  cases howned : db.owned user event_id with
  | none => exact ⟨fun _ hsome => (by cases hsome), fun _ => good_notFound h⟩
  | some event =>
    rw [forall_prop_of_true Option.isSome_some]
    dsimp only [Database.add_guest]
    cases hguest : data.guest reading event_id with
    | error raised =>
      have hunknown : ¬KnownRestrictions data.dietary_restrictions := by
        intro hknown
        obtain ⟨guest, hok⟩ := AddGuestData.exists_guest_iff.mpr hknown
        rw [hguest] at hok
        cases hok
      exact ⟨fun hgood => absurd hgood (not_good_error rfl), fun hsafe => absurd hsafe.1 hunknown⟩
    | ok guest =>
      have hknown := AddGuestData.exists_guest_iff.mp ⟨guest, hguest⟩
      obtain ⟨hstorable, hevent, hemail⟩ := AddGuestData.storable hguest
      have hfound := get_event_of_owned howned
      rw [← hevent] at hfound
      rw [← hemail]
      dsimp only
      obtain ⟨hshort, ⟨saved, hsaved⟩, hsound⟩ | ⟨hlong, herror⟩ :=
        Database.save_guest_cases reading.now h hfound hstorable
      · rw [hsaved]
        exact ⟨fun _ => ⟨hknown, hshort⟩, fun _ => good_iff.mpr ⟨⟨_, rfl⟩, hsound⟩⟩
      · rw [herror]
        exact ⟨fun hgood => absurd hgood (not_good_error rfl), fun hsafe => absurd hsafe.2 hlong⟩

/-- No message of an enumeration is one of the legacy messages, which end with another letter. -/
theorem rollout_notAMember (repr : String → String) (text : String) :
    _rollout_not_found_response repr (.notAMember "DietaryRestriction" text) =
      .error (.notAMember "DietaryRestriction" text) := by
  refine if_neg ?_
  rintro ⟨message, hmessage, hlegacy⟩
  obtain rfl := Option.some.inj hmessage
  have hlast : (repr text ++ " is not a valid " ++ "DietaryRestriction").toList.getLast? =
      some 'n' := by
    rw [String.toList_append, List.getLast?_append]
    rfl
  have hlegacy' : ∀ message ∈ _LEGACY_NOT_FOUND_MESSAGES, message.toList.getLast? ≠ some 'n' := by
    decide
  exact hlegacy' _ hlegacy hlast

theorem guestDetailView_good_iff (h : db.Sound) {guest_id : UUID} {data : UpdateGuestData} :
    Good (db.guestDetailView repr user now guest_id data) ↔
      ∀ row, db.guests.lookup guest_id = some row → (db.owned user row.val.event_id).isSome →
        (∀ texts ∈ data.dietary_restrictions, KnownRestrictions texts) ∧ shortEmail data.email := by
  rw [Database.guestDetailView]
  cases hrow : db.guests.lookup guest_id with
  | none => exact ⟨fun _ _ hsome => (by cases hsome), fun _ => good_notFound h⟩
  | some row =>
    dsimp only
    cases howned : db.owned user row.val.event_id with
    | none =>
      refine ⟨fun _ row' hrow' hsome => ?_, fun _ => good_notFound h⟩
      obtain rfl := Option.some.inj hrow'
      rw [howned] at hsome
      cases hsome
    | some event =>
      have hforall {P : Prop} : (∀ row', some row = some row' →
          (db.owned user row'.val.event_id).isSome → P) ↔ P := by
        constructor
        · exact fun hall => hall row rfl (by rw [howned]; rfl)
        · exact fun hP _ _ _ => hP
      rw [hforall]
      obtain ⟨guest, hguest⟩ := h.guests row (Table.mem_of_lookup hrow)
      obtain ⟨hstorable, hshort⟩ := GuestRow.storable_of_to_domain row.property hguest
      obtain ⟨-, hevent, -⟩ := GuestRow.texts_of_to_domain hguest
      dsimp only [Database.update_guest]
      rw [hrow]
      dsimp only
      rw [hguest, ok_bind]
      obtain ⟨guest', happly, happlied, hknown⟩ | ⟨⟨text, herror⟩, hunknown⟩ :=
        data.apply_cases now guest
      · rw [happly]
        have hfound := get_event_of_owned howned
        rw [← hevent, ← happlied.event_id] at hfound
        rw [← happlied.shortEmail_iff hshort]
        dsimp only
        obtain ⟨hshort', ⟨saved, hsaved⟩, hsound⟩ | ⟨hlong, herror⟩ :=
          Database.save_guest_cases now h hfound (happlied.storable hstorable)
        · rw [hsaved]
          exact ⟨fun _ => ⟨hknown, hshort'⟩, fun _ => good_iff.mpr ⟨⟨_, rfl⟩, hsound⟩⟩
        · rw [herror]
          exact ⟨fun hgood => absurd hgood (not_good_error rfl),
            fun hsafe => absurd hsafe.2 hlong⟩
      · rw [herror]
        exact ⟨fun hgood => absurd hgood (not_good_error (rollout_notAMember repr text)),
          fun hsafe => absurd hsafe.1 hunknown⟩

theorem blockCreateView_good_iff (h : db.Sound) {data : AddTimelineBlockData} :
    Good (db.blockCreateView user reading event_id data) ↔
      ((db.owned user event_id).isSome →
        data.start_time < data.end_time ∧ ∀ row ∈ db.timeline_blocks.rows,
          row.val.event_id = event_id → row.val.order < positiveIntegerMax) := by
  rw [Database.blockCreateView]
  cases howned : db.owned user event_id with
  | none => exact ⟨fun _ hsome => (by cases hsome), fun _ => good_notFound h⟩
  | some event =>
    rw [forall_prop_of_true Option.isSome_some]
    obtain ⟨existing, hexisting, horders⟩ := Database.exists_blocks_of h event_id
    dsimp only [Database.add_timeline_block]
    rw [hexisting, ok_bind, ← horders (· < positiveIntegerMax), ← nextOrder_le_iff]
    cases hblock : data.block reading event_id existing with
    | error raised =>
      have hrange : ¬data.start_time < data.end_time := by
        intro hrange
        obtain ⟨block, hok⟩ := exists_block_iff.mpr hrange
        rw [hblock] at hok
        cases hok
      exact ⟨fun hgood => absurd hgood (not_good_error rfl), fun hsafe => absurd hsafe.1 hrange⟩
    | ok block =>
      have hrange := exists_block_iff.mp ⟨block, hblock⟩
      have hfound := get_event_of_owned howned
      rw [← event_id_of_block hblock] at hfound
      have hnonneg : ∀ block ∈ existing, 0 ≤ block.order := by
        rw [horders (0 ≤ ·)]
        intro row _ _
        exact TimelineRow.order_nonneg row.property
      dsimp only
      obtain ⟨horder, ⟨saved, hsaved⟩, hsound⟩ | ⟨hlarge, herror⟩ :=
        Database.save_block_cases reading.now h hfound
          fun _ => data.row_fits_iff hblock hnonneg
      · rw [hsaved]
        exact ⟨fun _ => ⟨hrange, horder⟩, fun _ => good_iff.mpr ⟨⟨_, rfl⟩, hsound⟩⟩
      · rw [herror]
        exact ⟨fun hgood => absurd hgood (not_good_error rfl), fun hsafe => absurd hsafe.2 hlarge⟩

theorem blockDetailView_good_iff (h : db.Sound) {block_id : UUID}
    {data : UpdateTimelineBlockData} :
    Good (db.blockDetailView user now block_id data) ↔
      ∀ row, db.timeline_blocks.lookup block_id = some row →
        (db.owned user row.val.event_id).isSome →
        data.start_time.getD row.val.start_time < data.end_time.getD row.val.end_time ∧
          shortOrder data.order := by
  rw [Database.blockDetailView]
  cases hrow : db.timeline_blocks.lookup block_id with
  | none => exact ⟨fun _ _ hsome => (by cases hsome), fun _ => good_notFound h⟩
  | some row =>
    dsimp only
    cases howned : db.owned user row.val.event_id with
    | none =>
      refine ⟨fun _ row' hrow' hsome => ?_, fun _ => good_notFound h⟩
      obtain rfl := Option.some.inj hrow'
      rw [howned] at hsome
      cases hsome
    | some event =>
      dsimp only
      split
      · rename_i hfits
        have horder := (data.apply_fits_iff row.property).mp hfits
        constructor
        · rintro ⟨-, hsound⟩ row' hrow' -
          obtain rfl := Option.some.inj hrow'
          exact ⟨hsound.timeline_blocks ⟨_, hfits⟩ (Table.mem_upsert_iff.mpr (.inl rfl)), horder⟩
        · intro hsafe
          obtain ⟨hrange, -⟩ := hsafe row rfl (by rw [howned]; rfl)
          exact good_iff.mpr ⟨⟨_, rfl⟩, h.write_block hrange⟩
      · rename_i hfits
        refine ⟨fun hgood => absurd hgood (not_good_error rfl), fun hsafe => ?_⟩
        obtain ⟨-, horder⟩ := hsafe row rfl (by rw [howned]; rfl)
        exact absurd ((data.apply_fits_iff row.property).mpr horder) hfits

/-! ### Runs -/

/-- In a sound state exactly the safe turns are good. -/
theorem good_respond_iff (repr : String → String) (h : db.Sound) (turn : Turn) :
    Good (db.respond repr turn) ↔ turn.Safe db := by
  rw [Database.respond, Turn.Safe]
  cases turn.request with
  | listGuests event_id => exact iff_of_true (guestListView_good h _ _) trivial
  | addGuest event_id data => exact guestCreateView_good_iff h
  | updateGuest guest_id data => exact guestDetailView_good_iff h
  | listBlocks event_id => exact iff_of_true (blockListView_good h _ _) trivial
  | addBlock event_id data => exact blockCreateView_good_iff h
  | updateBlock block_id data => exact blockDetailView_good_iff h

/-- From a sound state, every request of a run is answered without an exception and leaves rows
that satisfy the construction rules of their entities exactly when every request is safe. -/
theorem planning_runs_good_iff (repr : String → String) {db : Database} (h : db.Sound)
    (turns : List Turn) : AllGood repr db turns ↔ AllSafe repr db turns := by
  induction turns generalizing db with
  | nil => exact Iff.rfl
  | cons turn turns ih =>
    constructor
    · rintro ⟨hgood, hrest⟩
      exact ⟨(good_respond_iff repr h turn).mp hgood, (ih hgood.2).mp hrest⟩
    · rintro ⟨hsafe, hrest⟩
      have hgood := (good_respond_iff repr h turn).mpr hsafe
      exact ⟨hgood, (ih hgood.2).mpr hrest⟩

/-- An event without guests and blocks. -/
def wedding : Database := ⟨[⟨1, 7, "wedding", 0, "Rwanda"⟩], .empty, .empty⟩

theorem wedding_sound : wedding.Sound :=
  ⟨fun _ hmem => absurd hmem List.not_mem_nil, fun _ hmem => absurd hmem List.not_mem_nil⟩

/-- The owner adds a block of ten microseconds. -/
def ceremonyTurn : Turn where
  user := 7
  reading := ⟨0, 5⟩
  request := .addBlock 1 {
    title := "Ceremony"
    start_time := 0
    end_time := 10
    description := none
    location := none
    title_fits := by decide
    description_clean := rfl
    location_fits := rfl }

/-- The owner moves the end of the block to its start. -/
def movedTurn : Turn where
  user := 7
  reading := ⟨1, 6⟩
  request := .updateBlock 5 {
    title := none
    start_time := none
    end_time := some 0
    description := none
    location := none
    order := none
    title_fits := fun _ h => by cases h
    description_clean := fun _ h => by cases h
    location_fits := fun _ h => by cases h
    order_nonneg := fun _ h => by cases h }

def listTurn : Turn := ⟨7, ⟨2, 8⟩, .listBlocks 1⟩

theorem planning_runs_good_sample :
    AllGood (fun text => text) wedding [ceremonyTurn, listTurn] := by
  rw [planning_runs_good_iff _ wedding_sound]
  exact ⟨fun _ => ⟨by decide, fun _ hmem => absurd hmem List.not_mem_nil⟩, trivial, trivial⟩

/-- The moved end is stored, and the list of the blocks raises. -/
theorem moved_block_breaks_list :
    ¬AllGood (fun text => text) wedding [ceremonyTurn, movedTurn, listTurn] := by
  rintro ⟨-, -, hlist, -⟩
  have hraised : ((((wedding.respond (fun text => text) ceremonyTurn).2.respond
      (fun text => text) movedTurn).2.respond (fun text => text) listTurn).1) =
      .error (.invalidTimelineRange "End time must be after start time") := rfl
  exact not_good_error hraised hlist

end Linkapro.Events
