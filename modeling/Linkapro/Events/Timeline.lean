import Linkapro.Events.Guests

/-!
# Timeline blocks of an event

A timeline block ends after it starts; the constructor of the entity checks it. A new block
goes through the entity. An update sets the columns of the row and saves it, so that nothing
compares the two times.
-/

namespace Linkapro.Events

/-! ### `domain/events/timeline` -/

/-- A timeline block; its times have passed `_validate_range`. -/
structure TimelineBlock : Type where
  id : UUID
  event_id : UUID
  title : String
  start_time : Datetime
  end_time : Datetime
  description : Option String
  location : Option String
  order : ℤ
  created_at : Datetime
  updated_at : Datetime
  range : start_time < end_time

/-- A row of `TimelineBlock`. -/
structure TimelineRow : Type where
  id : UUID
  event_id : UUID
  title : String
  start_time : Datetime
  end_time : Datetime
  description : Option String
  location : Option String
  order : ℤ
  created_at : Datetime
  updated_at : Datetime
deriving DecidableEq, Repr

/-- The columns take the row. -/
def TimelineRow.fits (row : TimelineRow) : Bool :=
  charField 200 row.title ∧ row.description.all nulFree ∧ row.location.all (charField 300) ∧
  positiveInteger row.order

/-- The entity with the fields of the row, after `_validate_range`. -/
def TimelineRow.validated (row : TimelineRow) : Except Raised TimelineBlock :=
  if range : row.start_time < row.end_time then .ok {
    id := row.id
    event_id := row.event_id
    title := row.title
    start_time := row.start_time
    end_time := row.end_time
    description := row.description
    location := row.location
    order := row.order
    created_at := row.created_at
    updated_at := row.updated_at
    range }
  else .error (.invalidTimelineRange "End time must be after start time")

/-! ### `DjangoTimelineBlockRepository` -/

/-- `_to_domain(row)`. -/
def TimelineRow.to_domain (row : TimelineRow) : Except Raised TimelineBlock := row.validated

/-- The row that `save` writes for an entity, over the stored row if there is one. -/
def TimelineBlock.row (block : TimelineBlock) (now : Datetime) (stored : Option TimelineRow) :
    TimelineRow where
  id := block.id
  event_id := block.event_id
  title := block.title
  start_time := block.start_time
  end_time := block.end_time
  description := block.description
  location := block.location
  order := block.order
  created_at := (stored.map TimelineRow.created_at).getD now
  updated_at := now

/-! ### `interface/events/serializers.py` and `application/events/timeline` -/

/-- The validated data of an `AddTimelineBlockSerializer`. -/
structure AddTimelineBlockData : Type where
  title : String
  start_time : Datetime
  end_time : Datetime
  description : Option String
  location : Option String
  title_fits : charField 200 title = true
  description_clean : description.all nulFree = true
  location_fits : location.all (charField 300) = true

/-- The validated data of an `UpdateTimelineBlockSerializer`, in which a field may be absent and
the last two texts may be null. -/
structure UpdateTimelineBlockData : Type where
  title : Option String
  start_time : Option Datetime
  end_time : Option Datetime
  description : Option (Option String)
  location : Option (Option String)
  order : Option ℤ
  title_fits : ∀ text, title = some text → charField 200 text = true
  description_clean : ∀ text, description = some text → text.all nulFree = true
  location_fits : ∀ text, location = some text → text.all (charField 300) = true
  order_nonneg : ∀ number, order = some number → 0 ≤ number

/-- `max([b.order for b in existing], default=-1) + 1`. -/
def nextOrder (existing : List TimelineBlock) : ℤ :=
  ((existing.map TimelineBlock.order).max?).getD (-1) + 1

/-- The block that `add_timeline_block` saves. -/
def AddTimelineBlockData.block (data : AddTimelineBlockData) (reading : Reading) (event_id : UUID)
    (existing : List TimelineBlock) : Except Raised TimelineBlock :=
  TimelineRow.validated {
    id := reading.id
    event_id
    title := data.title
    start_time := data.start_time
    end_time := data.end_time
    description := data.description
    location := data.location
    order := nextOrder existing
    created_at := reading.now
    updated_at := reading.now }

/-- The row after `setattr` of the validated fields and `save()`. -/
def UpdateTimelineBlockData.apply (data : UpdateTimelineBlockData) (now : Datetime)
    (row : TimelineRow) : TimelineRow :=
  { row with
    title := data.title.getD row.title
    start_time := data.start_time.getD row.start_time
    end_time := data.end_time.getD row.end_time
    description := data.description.getD row.description
    location := data.location.getD row.location
    order := data.order.getD row.order
    updated_at := now }

/-- What `serialize_timeline_block_dto` shows of a block. A DTO has no timestamps. -/
structure TimelineBlockDTO : Type where
  id : UUID
  event_id : UUID
  title : String
  start_time : Datetime
  end_time : Datetime
  description : Option String
  location : Option String
  order : ℤ
  created_at : Option Datetime
  updated_at : Option Datetime
deriving DecidableEq, Repr

/-- `to_timeline_dto(block)`. -/
def to_timeline_dto (block : TimelineBlock) : TimelineBlockDTO where
  id := block.id
  event_id := block.event_id
  title := block.title
  start_time := block.start_time
  end_time := block.end_time
  description := block.description
  location := block.location
  order := block.order
  created_at := none
  updated_at := none

/-- What the view of an update serializes, the row itself. -/
def TimelineRow.serialized (row : TimelineRow) : TimelineBlockDTO where
  id := row.id
  event_id := row.event_id
  title := row.title
  start_time := row.start_time
  end_time := row.end_time
  description := row.description
  location := row.location
  order := row.order
  created_at := some row.created_at
  updated_at := some row.updated_at

/-! ### Ranges -/

variable {row : TimelineRow} {block : TimelineBlock} {now : Datetime}
  {stored : Option TimelineRow}

theorem exists_validated_iff :
    (∃ block, row.validated = .ok block) ↔ row.start_time < row.end_time := by
  constructor
  · rintro ⟨block, h⟩
    by_contra hnot
    rw [TimelineRow.validated, dif_neg hnot] at h
    cases h
  · exact fun h => ⟨_, dif_pos h⟩

/-- The fields of an entity are those that were validated. -/
theorem row_of_validated (h : row.validated = .ok block) :
    block.row now stored = { row with
      created_at := (stored.map TimelineRow.created_at).getD now
      updated_at := now } := by
  rw [TimelineRow.validated] at h
  split at h
  · obtain rfl := Except.ok.inj h
    rfl
  · cases h

theorem exists_block_iff {data : AddTimelineBlockData} {reading : Reading} {event_id : UUID}
    {existing : List TimelineBlock} :
    (∃ block, data.block reading event_id existing = .ok block) ↔
      data.start_time < data.end_time :=
  exists_validated_iff

theorem event_id_of_block {data : AddTimelineBlockData} {reading : Reading} {event_id : UUID}
    {existing : List TimelineBlock} (h : data.block reading event_id existing = .ok block) :
    block.event_id = event_id := by
  have hrow : block.row 0 none = _ := row_of_validated h
  exact congrArg TimelineRow.event_id hrow

/-- The row of an entity is rebuilt, whatever it was written over. -/
theorem TimelineBlock.to_domain_row (block : TimelineBlock) (now : Datetime)
    (stored : Option TimelineRow) : ∃ rebuilt, (block.row now stored).to_domain = .ok rebuilt :=
  exists_validated_iff.mpr block.range

/-! ### Columns -/

/-- The column takes the order, if one is given. -/
def shortOrder (order : Option ℤ) : Prop := ∀ number ∈ order, number ≤ positiveIntegerMax

theorem TimelineRow.order_nonneg (h : row.fits = true) : 0 ≤ row.order := by
  rw [fits, decide_eq_true_eq, positiveInteger, decide_eq_true_eq] at h
  exact h.2.2.2.1

theorem nextOrder_nonneg {existing : List TimelineBlock} (h : ∀ block ∈ existing, 0 ≤ block.order) :
    0 ≤ nextOrder existing := by
  rw [nextOrder]
  cases hmax : (existing.map TimelineBlock.order).max? with
  | none => decide
  | some largest =>
    obtain ⟨block, hblock, rfl⟩ := List.mem_map.mp (List.max?_mem hmax)
    have hnonneg := h block hblock
    rw [Option.getD_some]
    omega

theorem nextOrder_le_iff {existing : List TimelineBlock} :
    nextOrder existing ≤ positiveIntegerMax ↔
      ∀ block ∈ existing, block.order < positiveIntegerMax := by
  rw [nextOrder]
  cases hmax : (existing.map TimelineBlock.order).max? with
  | none =>
    obtain rfl := List.map_eq_nil_iff.mp (List.max?_eq_none_iff.mp hmax)
    exact ⟨fun _ _ hmem => absurd hmem List.not_mem_nil, fun _ => by decide⟩
  | some largest =>
    obtain ⟨hmem, hle⟩ := List.max?_eq_some_iff.mp hmax
    rw [Option.getD_some]
    constructor
    · intro hlargest block hblock
      have hblock := hle block.order (List.mem_map_of_mem hblock)
      omega
    · intro hall
      obtain ⟨block, hblock, rfl⟩ := List.mem_map.mp hmem
      have hlt := hall block hblock
      omega

/-- The columns take a new block exactly when the column takes its order. -/
theorem AddTimelineBlockData.row_fits_iff {data : AddTimelineBlockData} {reading : Reading}
    {event_id : UUID} {existing : List TimelineBlock}
    (h : data.block reading event_id existing = .ok block)
    (hexisting : ∀ block ∈ existing, 0 ≤ block.order) :
    (block.row now stored).fits = true ↔ nextOrder existing ≤ positiveIntegerMax := by
  rw [row_of_validated h, TimelineRow.fits, decide_eq_true_eq, positiveInteger, decide_eq_true_eq]
  constructor
  · rintro ⟨-, -, -, -, horder⟩
    exact horder
  · exact fun horder => ⟨data.title_fits, data.description_clean, data.location_fits,
      nextOrder_nonneg hexisting, horder⟩

/-- What holds of a given value and of the current one holds of the value that is set. -/
theorem of_getD {α : Type} {P : α → Prop} {given : Option α} {current : α}
    (hgiven : ∀ value, given = some value → P value) (hcurrent : P current) :
    P (given.getD current) := by
  cases given with
  | none => exact hcurrent
  | some value => exact hgiven value rfl

/-- The columns take an updated row exactly when the column takes its order. -/
theorem UpdateTimelineBlockData.apply_fits_iff {data : UpdateTimelineBlockData}
    (hrow : row.fits = true) : (data.apply now row).fits = true ↔ shortOrder data.order := by
  rw [TimelineRow.fits, decide_eq_true_eq, positiveInteger, decide_eq_true_eq] at hrow ⊢
  obtain ⟨htitle, hdescription, hlocation, hnonneg, hmax⟩ := hrow
  constructor
  · rintro ⟨-, -, -, -, horder⟩ number hnumber
    rw [apply, hnumber] at horder
    exact horder
  · intro horder
    have htitle' : charField 200 (data.apply now row).title = true :=
      of_getD (P := fun text => charField 200 text = true) data.title_fits htitle
    have hdescription' : (data.apply now row).description.all nulFree = true :=
      of_getD (P := fun text => Option.all nulFree text = true) data.description_clean hdescription
    have hlocation' : (data.apply now row).location.all (charField 300) = true :=
      of_getD (P := fun text => Option.all (charField 300) text = true) data.location_fits hlocation
    exact ⟨htitle', hdescription', hlocation', of_getD data.order_nonneg hnonneg,
      of_getD horder hmax⟩

end Linkapro.Events
