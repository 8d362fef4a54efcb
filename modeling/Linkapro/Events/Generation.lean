import Linkapro.Events.Templates
import Linkapro.Lib.Owners
import Mathlib.Data.List.Sort

/-!
# Generation of an event workspace

`generate_event_workspace` copies the stages of a template with their entries, in one
transaction and unless the event has a stage already. The copies are exact, and what is
generated stays as it is, except that a template without stages is generated again by each
call, which adds a row to the activity log.
-/

namespace Linkapro.Events

open Lib (Table ok_bind error_bind mapM_eq_ok_iff exists_of_mem_mapM filter_append_flatMap_owner)
open Vendors (Decimal Date)

/-! ### Rows -/

structure EventStage : Type where
  id : UUID
  event_id : UUID
  template_stage : Option UUID
  name : String
  slug : String
  description : String
  status : String
  order : ℤ
deriving DecidableEq, Repr

structure EventTask : Type where
  event_id : UUID
  stage_id : UUID
  title : String
  description : String
  status : String
  due_date : Option Date
  assigned_to : String
  notes : String
  order : ℤ
deriving DecidableEq, Repr

structure EventBudgetItem : Type where
  event_id : UUID
  stage_id : UUID
  category : String
  item : String
  estimated_cost : Decimal
  actual_cost : Option Decimal
  status : String
  notes : String
  order : ℤ
deriving DecidableEq, Repr

structure EventVendorRequirement : Type where
  event_id : UUID
  stage_id : UUID
  assigned_vendor : Option UUID
  category : String
  title : String
  description : String
  minimum_budget : Option Decimal
  maximum_budget : Option Decimal
  status : String
  notes : String
  order : ℤ
deriving DecidableEq, Repr

structure EventQuestionAnswer : Type where
  event_id : UUID
  stage_id : UUID
  question_template : Option UUID
  question : String
  answer : Option JsonValue
deriving DecidableEq, Repr

/-- The row that a generation adds to the activity log. -/
structure EventActivityLog : Type where
  event_id : UUID
  actor_id : UUID
  action : String
  entity_type : String
  entity_id : UUID
  template : String
  template_version : ℤ
deriving DecidableEq, Repr

/-- The templates and the workspaces of all events. -/
structure Workspaces : Type where
  templates : TemplateTable
  stages : List EventStage
  tasks : List EventTask
  budget_items : List EventBudgetItem
  vendor_requirements : List EventVendorRequirement
  answers : List EventQuestionAnswer
  activity : List EventActivityLog

/-- The foreign keys to the stages. -/
structure Workspaces.Linked (workspaces : Workspaces) : Prop where
  tasks : ∀ row ∈ workspaces.tasks, row.stage_id ∈ workspaces.stages.map EventStage.id
  budget_items : ∀ row ∈ workspaces.budget_items,
    row.stage_id ∈ workspaces.stages.map EventStage.id
  vendor_requirements : ∀ row ∈ workspaces.vendor_requirements,
    row.stage_id ∈ workspaces.stages.map EventStage.id
  answers : ∀ row ∈ workspaces.answers, row.stage_id ∈ workspaces.stages.map EventStage.id

/-! ### The template of an event -/

variable (library : TemplateLibrary)

/-- `on_delete=SET_NULL` of the reference to a stage template. -/
def EventStage.forget (deleted : List EventStageTemplate) (stage : EventStage) : EventStage :=
  { stage with template_stage := stage.template_stage.filter fun id =>
      id ∉ deleted.map EventStageTemplate.id }

/-- `on_delete=SET_NULL` of the reference to a question template. -/
def EventQuestionAnswer.forget (deleted : List EventStageTemplate) (answer : EventQuestionAnswer) :
    EventQuestionAnswer :=
  { answer with question_template := answer.question_template.filter fun id =>
      id ∉ (deleted.flatMap EventStageTemplate.questions).map EventQuestionTemplate.id }

/-- `seed_rwanda_wedding_template()["template"]`. -/
def seed_rwanda_wedding_template (surroundings : Surroundings) (workspaces : Workspaces) :
    Except WorkspaceError (EventTemplate × Workspaces) := do
  let old := workspaces.templates.rows.find? fun template =>
    template.slug = RWANDA_WEDDING_TEMPLATE_SLUG
  let template ← seededTemplate library surroundings old
  if old = none ∧ (workspaces.templates.lookup template.id).isSome then
    throw .integrityError
  let deleted := (old.map EventTemplate.stages).getD []
  return (template, { workspaces with
    templates := workspaces.templates.upsert template
    stages := workspaces.stages.map (EventStage.forget deleted)
    answers := workspaces.answers.map (EventQuestionAnswer.forget deleted) })

/-- `ensure_rwanda_wedding_template()`. -/
def ensure_rwanda_wedding_template (surroundings : Surroundings) (workspaces : Workspaces) :
    Except WorkspaceError (EventTemplate × Workspaces) :=
  let template := newestTemplate (workspaces.templates.rows.filter fun template =>
    template.event_type = "wedding" ∧ library.iexact template.country "Rwanda" ∧
      template.is_active)
  match template.filter has_official_stage_order with
  | some template => .ok (template, workspaces)
  | none => seed_rwanda_wedding_template library surroundings workspaces

/-- The event is a wedding in Rwanda. -/
def Event.isRwandaWedding (event : Event) : Bool :=
  event.event_type = "wedding" ∧ library.lower event.country = "rwanda"

/-- The active templates of another event. -/
def Workspaces.activeTemplates (workspaces : Workspaces) (event : Event) : List EventTemplate :=
  workspaces.templates.rows.filter fun template => template.event_type = event.event_type ∧
    library.iexact template.country event.country ∧ template.is_active

/-- The template that the generation copies. -/
def selectTemplate (event : Event) (surroundings : Surroundings) (workspaces : Workspaces) :
    Except WorkspaceError (Option EventTemplate × Workspaces) :=
  if event.isRwandaWedding library then do
    let (template, workspaces) ← ensure_rwanda_wedding_template library surroundings workspaces
    return (workspaces.templates.lookup template.id, workspaces)
  else .ok (newestTemplate (workspaces.activeTemplates library event), workspaces)

/-! ### `generate_event_workspace` -/

/-- `date - timedelta(days=n)`. -/
def daysBefore (date : Date) (n : ℤ) : Except WorkspaceError Date :=
  if n.natAbs ≤ 999999999 ∧ 1 ≤ date - n ∧ date - n ≤ 3652059 then .ok (date - n)
  else .error .overflowError

/-- The copy of a task. -/
def EventTaskTemplate.copy (event : Event) (stage_id : UUID) (item : EventTaskTemplate) :
    Except WorkspaceError EventTask := do
  let due_date ← match item.days_before_event with
    | none => pure none
    | some days => some <$> daysBefore event.event_date days
  return {
    event_id := event.id
    stage_id
    title := item.title
    description := item.description
    status := "pending"
    due_date
    assigned_to := ""
    notes := ""
    order := item.order }

/-- The copy of a budget item. -/
def EventBudgetItemTemplate.copy (event : Event) (stage_id : UUID)
    (item : EventBudgetItemTemplate) : EventBudgetItem where
  event_id := event.id
  stage_id
  category := item.category
  item := item.item
  estimated_cost := item.estimated_cost
  actual_cost := none
  status := "planned"
  notes := item.notes
  order := item.order

/-- The copy of a vendor requirement. -/
def EventVendorRequirementTemplate.copy (event : Event) (stage_id : UUID)
    (item : EventVendorRequirementTemplate) : EventVendorRequirement where
  event_id := event.id
  stage_id
  assigned_vendor := none
  category := item.category
  title := item.title
  description := item.description
  minimum_budget := item.minimum_budget
  maximum_budget := item.maximum_budget
  status := "open"
  notes := ""
  order := item.order

/-- The answer to a question. -/
def EventQuestionTemplate.copy (event : Event) (stage_id : UUID) (item : EventQuestionTemplate) :
    EventQuestionAnswer where
  event_id := event.id
  stage_id
  question_template := some item.id
  question := item.prompt
  answer := none

/-- The copy of a stage. -/
def EventStageTemplate.copy (event : Event) (id : UUID) (template : EventStageTemplate) :
    EventStage where
  id
  event_id := event.id
  template_stage := some template.id
  name := template.name
  slug := template.slug
  description := template.description
  status := "not_started"
  order := template.order

/-- One round of the loop over the stages, under the unique keys of the stages. -/
def addStage (event : Event) (surroundings : Surroundings) :
    List EventStage × Workspaces → EventStageTemplate →
      Except WorkspaceError (List EventStage × Workspaces)
  | (generated_stages, workspaces), template => do
    let stage := template.copy event (surroundings.stage_id generated_stages.length)
    if workspaces.stages.any fun other => other.id = stage.id ∨
        other.event_id = stage.event_id ∧ other.slug = stage.slug then
      throw .integrityError
    let tasks ← template.tasks.mapM (EventTaskTemplate.copy event stage.id)
    return (generated_stages ++ [stage], { workspaces with
      stages := workspaces.stages ++ [stage]
      tasks := workspaces.tasks ++ tasks
      budget_items := workspaces.budget_items ++
        template.budget_items.map (EventBudgetItemTemplate.copy event stage.id)
      vendor_requirements := workspaces.vendor_requirements ++
        template.vendor_requirements.map (EventVendorRequirementTemplate.copy event stage.id)
      answers := workspaces.answers ++
        template.questions.map (EventQuestionTemplate.copy event stage.id) })

/-- `event.workspace_stages.order_by("order")`. -/
def Workspaces.stagesOf (workspaces : Workspaces) (event : Event) : List EventStage :=
  (workspaces.stages.filter fun stage => stage.event_id = event.id).insertionSort
    fun first second => first.order ≤ second.order

/-- The rows of the activity log that the generation from a template adds. -/
def EventTemplate.logged (event : Event) (template : EventTemplate) : EventActivityLog where
  event_id := event.id
  actor_id := event.planner_id
  action := "workspace_generated"
  entity_type := "event"
  entity_id := event.id
  template := template.slug
  template_version := template.version

/-- The body of `generate_event_workspace`. -/
def generated (event : Event) (surroundings : Surroundings) (workspaces : Workspaces) :
    Except WorkspaceError (List EventStage × Workspaces) := do
  if workspaces.stagesOf event ≠ [] then
    return (workspaces.stagesOf event, workspaces)
  let (template, workspaces) ← selectTemplate library event surroundings workspaces
  match template with
  | none => return ([], workspaces)
  | some template =>
    let (generated_stages, workspaces) ←
      template.stages.foldlM (addStage event surroundings) ([], workspaces)
    return (generated_stages,
      { workspaces with activity := workspaces.activity ++ [template.logged event] })

/-- `transaction.atomic`: what an exception leaves is the state before. -/
def atomic {α : Type} (body : Workspaces → Except WorkspaceError (α × Workspaces))
    (workspaces : Workspaces) : Except WorkspaceError α × Workspaces :=
  match body workspaces with
  | .ok (value, workspaces) => (.ok value, workspaces)
  | .error raised => (.error raised, workspaces)

def generate_event_workspace (event : Event) (surroundings : Surroundings) :
    Workspaces → Except WorkspaceError (List EventStage) × Workspaces :=
  atomic (generated library event surroundings)

/-- The workspaces after some calls. -/
def afterCalls (event : Event) (workspaces : Workspaces) (calls : List Surroundings) : Workspaces :=
  calls.foldl (fun workspaces surroundings =>
    (generate_event_workspace library event surroundings workspaces).2) workspaces

/-! ### Copies of a template -/

/-- The task of an entry. -/
structure TaskCopy (event : Event) (item : EventTaskTemplate) (task : EventTask) : Prop where
  event_id : task.event_id = event.id
  title : task.title = item.title
  description : task.description = item.description
  order : task.order = item.order
  due_date : task.due_date = item.days_before_event.map fun days => event.event_date - days

/-- The budget item of an entry. -/
structure BudgetItemCopy (event : Event) (entry : EventBudgetItemTemplate)
    (row : EventBudgetItem) : Prop where
  event_id : row.event_id = event.id
  category : row.category = entry.category
  item : row.item = entry.item
  estimated_cost : row.estimated_cost = entry.estimated_cost
  notes : row.notes = entry.notes
  order : row.order = entry.order

/-- The vendor requirement of an entry. -/
structure VendorRequirementCopy (event : Event) (item : EventVendorRequirementTemplate)
    (row : EventVendorRequirement) : Prop where
  event_id : row.event_id = event.id
  category : row.category = item.category
  title : row.title = item.title
  description : row.description = item.description
  minimum_budget : row.minimum_budget = item.minimum_budget
  maximum_budget : row.maximum_budget = item.maximum_budget
  order : row.order = item.order

/-- The answer to an entry. -/
structure AnswerCopy (event : Event) (item : EventQuestionTemplate)
    (row : EventQuestionAnswer) : Prop where
  event_id : row.event_id = event.id
  question_template : row.question_template = some item.id
  question : row.question = item.prompt

/-- The stage of a stage template with one row for each entry. -/
structure StageCopy (workspaces : Workspaces) (event : Event) (template : EventStageTemplate)
    (stage : EventStage) : Prop where
  event_id : stage.event_id = event.id
  template_stage : stage.template_stage = some template.id
  name : stage.name = template.name
  slug : stage.slug = template.slug
  description : stage.description = template.description
  order : stage.order = template.order
  tasks : List.Forall₂ (TaskCopy event) template.tasks
    (workspaces.tasks.filter fun row => row.stage_id = stage.id)
  budget_items : List.Forall₂ (BudgetItemCopy event) template.budget_items
    (workspaces.budget_items.filter fun row => row.stage_id = stage.id)
  vendor_requirements : List.Forall₂ (VendorRequirementCopy event) template.vendor_requirements
    (workspaces.vendor_requirements.filter fun row => row.stage_id = stage.id)
  answers : List.Forall₂ (AnswerCopy event) template.questions
    (workspaces.answers.filter fun row => row.stage_id = stage.id)

/-- The event has one stage for each stage of the template. -/
def Workspaces.HoldsCopy (workspaces : Workspaces) (event : Event) (template : EventTemplate) :
    Prop :=
  List.Forall₂ (StageCopy workspaces event) template.stages
    (workspaces.stages.filter fun stage => stage.event_id = event.id)

/-- What any number of calls guarantees. -/
structure GeneratesOnce (event : Event) (workspaces : Workspaces) : Prop where
  /-- A call that raises leaves nothing. -/
  unchanged : ∀ calls surroundings before raised,
    before = afterCalls library event workspaces calls →
    (generate_event_workspace library event surroundings before).1 = .error raised →
    (generate_event_workspace library event surroundings before).2 = before
  /-- The call that generates the workspace leaves the copies of its template. -/
  copies : ∀ calls surroundings before stages template selected,
    before = afterCalls library event workspaces calls →
    before.stagesOf event = [] →
    selectTemplate library event surroundings before = .ok (some template, selected) →
    (generate_event_workspace library event surroundings before).1 = .ok stages →
    (generate_event_workspace library event surroundings before).2.HoldsCopy event template
  /-- After a call that has returned no call changes anything. -/
  settled : ∀ calls surroundings before stages later,
    before = afterCalls library event workspaces calls →
    (generate_event_workspace library event surroundings before).1 = .ok stages →
    afterCalls library event
      (generate_event_workspace library event surroundings before).2 later =
        (generate_event_workspace library event surroundings before).2

instance : Inhabited Surroundings := ⟨0, none, 0, fun _ => 0, fun _ _ => 0, fun _ => 0⟩

variable {library : TemplateLibrary} {event : Event} {surroundings : Surroundings}
  {workspaces workspaces' : Workspaces}

/-! ### The loop over the stages -/

/-- A stage that the loop has added. -/
structure AddedStage (event : Event) : Type where
  template : EventStageTemplate
  id : UUID
  tasks : List EventTask
  copied : template.tasks.mapM (EventTaskTemplate.copy event id) = .ok tasks

/-- The row of an added stage. -/
def AddedStage.stage (added : AddedStage event) : EventStage :=
  added.template.copy event added.id

def AddedStage.budget_items (added : AddedStage event) : List EventBudgetItem :=
  added.template.budget_items.map (EventBudgetItemTemplate.copy event added.id)

def AddedStage.vendor_requirements (added : AddedStage event) : List EventVendorRequirement :=
  added.template.vendor_requirements.map (EventVendorRequirementTemplate.copy event added.id)

def AddedStage.answers (added : AddedStage event) : List EventQuestionAnswer :=
  added.template.questions.map (EventQuestionTemplate.copy event added.id)

/-- The workspaces with the added stages and their rows. -/
def Workspaces.extend (workspaces : Workspaces) (added : List (AddedStage event)) : Workspaces :=
  { workspaces with
    stages := workspaces.stages ++ added.map AddedStage.stage
    tasks := workspaces.tasks ++ added.flatMap AddedStage.tasks
    budget_items := workspaces.budget_items ++ added.flatMap AddedStage.budget_items
    vendor_requirements :=
      workspaces.vendor_requirements ++ added.flatMap AddedStage.vendor_requirements
    answers := workspaces.answers ++ added.flatMap AddedStage.answers }

@[simp] theorem extend_nil : workspaces.extend ([] : List (AddedStage event)) = workspaces := by
  simp [Workspaces.extend]

theorem extend_cons {first : AddedStage event} {added : List (AddedStage event)} :
    workspaces.extend (first :: added) = (workspaces.extend [first]).extend added := by
  simp [Workspaces.extend]

/-- A round adds one stage under a new id. -/
theorem addStage_eq_ok {generated_stages generated_stages' : List EventStage}
    {template : EventStageTemplate}
    (h : addStage event surroundings (generated_stages, workspaces) template =
      .ok (generated_stages', workspaces')) :
    ∃ added : AddedStage event, added.template = template ∧
      generated_stages' = generated_stages ++ [added.stage] ∧
      workspaces' = workspaces.extend [added] ∧
      added.id ∉ workspaces.stages.map EventStage.id := by
  simp only [addStage] at h
  split at h
  · cases h
  · next hfree =>
    cases htasks : template.tasks.mapM (EventTaskTemplate.copy event
        (template.copy event (surroundings.stage_id generated_stages.length)).id) with
    | error raised =>
      rw [htasks] at h
      cases h
    | ok tasks =>
      rw [htasks] at h
      obtain ⟨rfl, rfl⟩ := Prod.mk.inj (Except.ok.inj h)
      refine ⟨⟨template, _, tasks, htasks⟩, rfl, rfl, ?_, ?_⟩
      · simp [Workspaces.extend, AddedStage.stage, AddedStage.budget_items,
          AddedStage.vendor_requirements, AddedStage.answers, EventStageTemplate.copy]
      · intro hmem
        obtain ⟨other, hother, hid⟩ := List.mem_map.mp hmem
        exact hfree (List.any_eq_true.mpr ⟨other, hother, decide_eq_true (.inl hid)⟩)

/-- The loop adds one stage for each stage template, under ids that are new and distinct. -/
theorem foldlM_addStage_eq_ok {generated_stages generated_stages' : List EventStage}
    {templates : List EventStageTemplate}
    (h : templates.foldlM (addStage event surroundings) (generated_stages, workspaces) =
      .ok (generated_stages', workspaces')) :
    ∃ added : List (AddedStage event), added.map AddedStage.template = templates ∧
      generated_stages' = generated_stages ++ added.map AddedStage.stage ∧
      workspaces' = workspaces.extend added ∧ (added.map AddedStage.id).Nodup ∧
      ∀ stage ∈ added, stage.id ∉ workspaces.stages.map EventStage.id := by
  induction templates generalizing generated_stages workspaces with
  | nil =>
    obtain ⟨rfl, rfl⟩ := Prod.mk.inj (Except.ok.inj h)
    exact ⟨[], rfl, by simp, extend_nil.symm, List.nodup_nil, List.forall_mem_nil _⟩
  | cons template templates ih =>
    rw [List.foldlM_cons] at h
    cases hstep : addStage event surroundings (generated_stages, workspaces) template with
    | error raised =>
      rw [hstep, error_bind] at h
      cases h
    | ok reached =>
      obtain ⟨reached_stages, reached⟩ := reached
      rw [hstep, ok_bind] at h
      obtain ⟨first, rfl, rfl, rfl, hnew⟩ := addStage_eq_ok hstep
      obtain ⟨added, rfl, rfl, rfl, hnodup, hfresh⟩ := ih h
      have hfirst : ∀ stage ∈ added, stage.id ∉ workspaces.stages.map EventStage.id ∧
          stage.id ≠ first.id := by
        intro stage hstage
        have hnotMem := hfresh stage hstage
        simp only [Workspaces.extend, List.map_append, List.mem_append, not_or] at hnotMem
        exact ⟨hnotMem.1, fun heq => hnotMem.2 (heq ▸ List.mem_singleton_self _)⟩
      refine ⟨first :: added, rfl, by simp, extend_cons.symm, ?_, ?_⟩
      · rw [List.map_cons, List.nodup_cons]
        refine ⟨fun hmem => ?_, hnodup⟩
        obtain ⟨stage, hstage, hid⟩ := List.mem_map.mp hmem
        exact (hfirst stage hstage).2 hid
      · rw [List.forall_mem_cons]
        exact ⟨hnew, fun stage hstage => (hfirst stage hstage).1⟩

/-! ### The rows below an added stage -/

theorem taskCopy_of_copy {item : EventTaskTemplate} {stage_id : UUID} {task : EventTask}
    (h : item.copy event stage_id = .ok task) :
    task.stage_id = stage_id ∧ TaskCopy event item task := by
  rw [EventTaskTemplate.copy] at h
  cases hdays : item.days_before_event with
  | none =>
    rw [hdays] at h
    obtain rfl := Except.ok.inj h
    exact ⟨rfl, rfl, rfl, rfl, rfl, by rw [hdays]; rfl⟩
  | some days =>
    rw [hdays] at h
    simp only [daysBefore] at h
    split at h
    · obtain rfl := Except.ok.inj h
      exact ⟨rfl, rfl, rfl, rfl, rfl, by rw [hdays]; rfl⟩
    · cases h

/-- Each entry has its task. -/
theorem AddedStage.forall₂_tasks (added : AddedStage event) :
    List.Forall₂ (TaskCopy event) added.template.tasks added.tasks :=
  (mapM_eq_ok_iff.mp added.copied).imp fun _ _ h => (taskCopy_of_copy h).2

theorem AddedStage.stage_id_of_mem_tasks {added : AddedStage event} {task : EventTask}
    (h : task ∈ added.tasks) : task.stage_id = added.id := by
  obtain ⟨item, -, hcopy⟩ := exists_of_mem_mapM added.copied h
  exact (taskCopy_of_copy hcopy).1

theorem stagesOf_eq_nil_iff : workspaces.stagesOf event = [] ↔
    (workspaces.stages.filter fun stage => stage.event_id = event.id) = [] := by
  rw [Workspaces.stagesOf, ← List.length_eq_zero_iff, List.length_insertionSort,
    List.length_eq_zero_iff]

/-- The stages of an event without stages are the added ones. -/
theorem filter_stages_extend (added : List (AddedStage event))
    (hnone : workspaces.stagesOf event = []) :
    ((workspaces.extend added).stages.filter fun stage => stage.event_id = event.id) =
      added.map AddedStage.stage := by
  have hnew : ((added.map AddedStage.stage).filter fun stage => stage.event_id = event.id) =
      added.map AddedStage.stage := by
    rw [List.filter_eq_self, List.forall_mem_map]
    exact fun _ _ => decide_eq_true rfl
  rw [Workspaces.extend, List.filter_append, stagesOf_eq_nil_iff.mp hnone, hnew, List.nil_append]

/-- An added stage carries the rows of its template. -/
theorem stageCopy_extend {added : List (AddedStage event)} {stage : AddedStage event}
    (hlinked : workspaces.Linked) (hnodup : (added.map AddedStage.id).Nodup)
    (hfresh : ∀ stage ∈ added, stage.id ∉ workspaces.stages.map EventStage.id)
    (h : stage ∈ added) :
    StageCopy (workspaces.extend added) event stage.template stage.stage := by
  have hne {id : UUID} (hid : id ∈ workspaces.stages.map EventStage.id) : id ≠ stage.id :=
    fun heq => hfresh stage h (heq ▸ hid)
  have htasks : (workspaces.extend added).tasks.filter (fun row => row.stage_id = stage.id) =
      stage.tasks :=
    filter_append_flatMap_owner (fun row hrow => hne (hlinked.tasks row hrow))
      (fun _ _ _ hrow => AddedStage.stage_id_of_mem_tasks hrow) hnodup h
  have hbudget : (workspaces.extend added).budget_items.filter
      (fun row => row.stage_id = stage.id) = stage.budget_items :=
    filter_append_flatMap_owner (fun row hrow => hne (hlinked.budget_items row hrow))
      (fun _ _ => List.forall_mem_map.mpr fun _ _ => rfl) hnodup h
  have hvendors : (workspaces.extend added).vendor_requirements.filter
      (fun row => row.stage_id = stage.id) = stage.vendor_requirements :=
    filter_append_flatMap_owner (fun row hrow => hne (hlinked.vendor_requirements row hrow))
      (fun _ _ => List.forall_mem_map.mpr fun _ _ => rfl) hnodup h
  have hanswers : (workspaces.extend added).answers.filter
      (fun row => row.stage_id = stage.id) = stage.answers :=
    filter_append_flatMap_owner (fun row hrow => hne (hlinked.answers row hrow))
      (fun _ _ => List.forall_mem_map.mpr fun _ _ => rfl) hnodup h
  refine ⟨rfl, rfl, rfl, rfl, rfl, rfl, ?_, ?_, ?_, ?_⟩
  · exact htasks ▸ stage.forall₂_tasks
  · refine hbudget ▸ List.forall₂_map_right_iff.mpr (List.forall₂_same.mpr ?_)
    exact fun _ _ => ⟨rfl, rfl, rfl, rfl, rfl, rfl⟩
  · refine hvendors ▸ List.forall₂_map_right_iff.mpr (List.forall₂_same.mpr ?_)
    exact fun _ _ => ⟨rfl, rfl, rfl, rfl, rfl, rfl, rfl⟩
  · refine hanswers ▸ List.forall₂_map_right_iff.mpr (List.forall₂_same.mpr ?_)
    exact fun _ _ => ⟨rfl, rfl, rfl⟩

/-- The loop leaves the copy of the template. -/
theorem holdsCopy_extend {added : List (AddedStage event)} {template : EventTemplate}
    (hlinked : workspaces.Linked) (hnone : workspaces.stagesOf event = [])
    (hnodup : (added.map AddedStage.id).Nodup)
    (hfresh : ∀ stage ∈ added, stage.id ∉ workspaces.stages.map EventStage.id)
    (htemplate : added.map AddedStage.template = template.stages) :
    (workspaces.extend added).HoldsCopy event template := by
  rw [Workspaces.HoldsCopy, filter_stages_extend _ hnone, ← htemplate,
    List.forall₂_map_left_iff, List.forall₂_map_right_iff, List.forall₂_same]
  exact fun stage hstage => stageCopy_extend hlinked hnodup hfresh hstage

/-! ### The choice of the template -/

/-- The choice of the template keeps the rows and what they refer to. -/
structure SameRows (workspaces workspaces' : Workspaces) : Prop where
  stages : workspaces'.stages.map (fun stage => (stage.id, stage.event_id)) =
    workspaces.stages.map fun stage => (stage.id, stage.event_id)
  tasks : workspaces'.tasks = workspaces.tasks
  budget_items : workspaces'.budget_items = workspaces.budget_items
  vendor_requirements : workspaces'.vendor_requirements = workspaces.vendor_requirements
  answers : workspaces'.answers.map EventQuestionAnswer.stage_id =
    workspaces.answers.map EventQuestionAnswer.stage_id

theorem SameRows.refl : SameRows workspaces workspaces := ⟨rfl, rfl, rfl, rfl, rfl⟩

theorem SameRows.linked (h : SameRows workspaces workspaces') (hlinked : workspaces.Linked) :
    workspaces'.Linked := by
  have hids : workspaces'.stages.map EventStage.id = workspaces.stages.map EventStage.id := by
    simpa [Function.comp_def] using congrArg (List.map Prod.fst) h.stages
  refine ⟨?_, ?_, ?_, ?_⟩
  · rw [h.tasks, hids]
    exact hlinked.tasks
  · rw [h.budget_items, hids]
    exact hlinked.budget_items
  · rw [h.vendor_requirements, hids]
    exact hlinked.vendor_requirements
  · rw [hids]
    intro row hrow
    have hmem := h.answers ▸ List.mem_map_of_mem (f := EventQuestionAnswer.stage_id) hrow
    obtain ⟨row', hrow', heq⟩ := List.mem_map.mp hmem
    exact heq ▸ hlinked.answers row' hrow'

theorem SameRows.stagesOf_eq_nil (h : SameRows workspaces workspaces')
    (hnone : workspaces.stagesOf event = []) : workspaces'.stagesOf event = [] := by
  rw [stagesOf_eq_nil_iff, List.filter_eq_nil_iff] at hnone ⊢
  intro stage hstage heq
  have hmem := h.stages ▸
    List.mem_map_of_mem (f := fun stage : EventStage => (stage.id, stage.event_id)) hstage
  obtain ⟨stage', hstage', hkey⟩ := List.mem_map.mp hmem
  have hevent : stage'.event_id = stage.event_id := congrArg Prod.snd hkey
  exact hnone stage' hstage' (decide_eq_true (hevent.trans (of_decide_eq_true heq)))

/-- The seeding leaves the template with its stages. -/
theorem seed_eq_ok {template : EventTemplate}
    (h : seed_rwanda_wedding_template library surroundings workspaces =
      .ok (template, workspaces')) :
    SameRows workspaces workspaces' ∧
      workspaces'.templates.lookup template.id = some template ∧ template.stages ≠ [] := by
  simp only [seed_rwanda_wedding_template] at h
  cases hseeded : seededTemplate library surroundings (workspaces.templates.rows.find?
      fun template => template.slug = RWANDA_WEDDING_TEMPLATE_SLUG) with
  | error raised =>
    rw [hseeded] at h
    cases h
  | ok seeded =>
    rw [hseeded, ok_bind] at h
    split at h
    · cases h
    · obtain ⟨rfl, rfl⟩ := Prod.mk.inj (Except.ok.inj h)
      refine ⟨⟨?_, rfl, rfl, rfl, ?_⟩, Table.lookup_upsert_self, stages_ne_nil_of_seeded hseeded⟩
      · rw [List.map_map]
        rfl
      · rw [List.map_map]
        rfl

/-- An official template is found or seeded. -/
theorem ensure_eq_ok {template : EventTemplate}
    (h : ensure_rwanda_wedding_template library surroundings workspaces =
      .ok (template, workspaces')) :
    SameRows workspaces workspaces' ∧
      workspaces'.templates.lookup template.id = some template ∧ template.stages ≠ [] := by
  simp only [ensure_rwanda_wedding_template] at h
  split at h
  · next found hfound =>
    obtain ⟨rfl, rfl⟩ := Prod.mk.inj (Except.ok.inj h)
    obtain ⟨hnewest, hofficial⟩ := Option.filter_eq_some_iff.mp hfound
    have hmem := List.mem_of_mem_filter (mem_of_newestTemplate hnewest)
    exact ⟨.refl, Table.lookup_eq_some_iff.mpr ⟨hmem, rfl⟩, stages_ne_nil_of_official hofficial⟩
  · exact seed_eq_ok h

/-- What the choice of the template gives. -/
theorem selectTemplate_cases {selected : Option EventTemplate}
    (h : selectTemplate library event surroundings workspaces = .ok (selected, workspaces')) :
    (event.isRwandaWedding library = true ∧ SameRows workspaces workspaces' ∧
      ∃ template, selected = some template ∧ template.stages ≠ []) ∨
    (event.isRwandaWedding library = false ∧ workspaces' = workspaces ∧
      selected = newestTemplate (workspaces.activeTemplates library event)) := by
  rw [selectTemplate] at h
  split at h
  · next hwedding =>
    cases hensure : ensure_rwanda_wedding_template library surroundings workspaces with
    | error raised =>
      rw [hensure] at h
      cases h
    | ok ensured =>
      obtain ⟨template, reached⟩ := ensured
      rw [hensure, ok_bind] at h
      obtain ⟨rfl, rfl⟩ := Prod.mk.inj (Except.ok.inj h)
      obtain ⟨hsame, hlookup, hstages⟩ := ensure_eq_ok hensure
      exact .inl ⟨hwedding, hsame, template, hlookup, hstages⟩
  · next hwedding =>
    obtain ⟨rfl, rfl⟩ := Prod.mk.inj (Except.ok.inj h)
    exact .inr ⟨eq_false_of_ne_true hwedding, rfl, rfl⟩

theorem sameRows_of_selectTemplate {selected : Option EventTemplate}
    (h : selectTemplate library event surroundings workspaces = .ok (selected, workspaces')) :
    SameRows workspaces workspaces' := by
  rcases selectTemplate_cases h with ⟨-, hsame, -⟩ | ⟨-, rfl, -⟩
  · exact hsame
  · exact .refl

/-! ### Calls -/

/-- The last step of a generation. -/
def Workspaces.log (workspaces : Workspaces) (event : Event) (template : EventTemplate) :
    Workspaces :=
  { workspaces with activity := workspaces.activity ++ [template.logged event] }

/-- A call for an event with stages returns them. -/
theorem generate_of_stages (h : workspaces.stagesOf event ≠ []) :
    generate_event_workspace library event surroundings workspaces =
      (.ok (workspaces.stagesOf event), workspaces) := by
  have hbody : generated library event surroundings workspaces =
      .ok (workspaces.stagesOf event, workspaces) := if_pos h
  rw [generate_event_workspace, atomic, hbody]

/-- What a call does for an event without stages. -/
theorem generate_cases (h : workspaces.stagesOf event = []) :
    (∃ raised, generate_event_workspace library event surroundings workspaces =
      (.error raised, workspaces)) ∨
    (∃ selected, selectTemplate library event surroundings workspaces = .ok (none, selected) ∧
      generate_event_workspace library event surroundings workspaces = (.ok [], selected)) ∨
    (∃ (template : EventTemplate) (selected : Workspaces) (added : List (AddedStage event)),
      selectTemplate library event surroundings workspaces = .ok (some template, selected) ∧
      added.map AddedStage.template = template.stages ∧ (added.map AddedStage.id).Nodup ∧
      (∀ stage ∈ added, stage.id ∉ selected.stages.map EventStage.id) ∧
      generate_event_workspace library event surroundings workspaces =
        (.ok (added.map AddedStage.stage), (selected.extend added).log event template)) := by
  simp only [generate_event_workspace, atomic, generated, h, ne_eq, not_true_eq_false, if_false]
  cases hselect : selectTemplate library event surroundings workspaces with
  | error raised => exact .inl ⟨raised, rfl⟩
  | ok selected =>
    obtain ⟨_ | template, selected⟩ := selected
    · exact .inr (.inl ⟨selected, rfl, rfl⟩)
    · simp only [ok_bind]
      cases hloop : template.stages.foldlM (addStage event surroundings) ([], selected) with
      | error raised => exact .inl ⟨raised, rfl⟩
      | ok reached =>
        obtain ⟨stages, reached⟩ := reached
        obtain ⟨added, htemplate, rfl, rfl, hnodup, hfresh⟩ := foldlM_addStage_eq_ok hloop
        exact .inr (.inr ⟨template, selected, added, rfl, htemplate, hnodup, hfresh, rfl⟩)

theorem StageCopy.log {template : EventTemplate} {source : EventStageTemplate}
    {stage : EventStage} (h : StageCopy workspaces event source stage) :
    StageCopy (workspaces.log event template) event source stage :=
  ⟨h.event_id, h.template_stage, h.name, h.slug, h.description, h.order, h.tasks,
    h.budget_items, h.vendor_requirements, h.answers⟩

/-- A call that raises rolls back. -/
theorem generate_of_raised {raised : WorkspaceError}
    (h : (generate_event_workspace library event surroundings workspaces).1 = .error raised) :
    (generate_event_workspace library event surroundings workspaces).2 = workspaces := by
  simp only [generate_event_workspace, atomic] at h ⊢
  split at h
  · cases h
  · rfl

/-- A call that generates a workspace leaves the copies of its template. -/
theorem holdsCopy_of_generate {template : EventTemplate} {selected : Workspaces}
    {stages : List EventStage} (hlinked : workspaces.Linked)
    (hnone : workspaces.stagesOf event = [])
    (hselect : selectTemplate library event surroundings workspaces =
      .ok (some template, selected))
    (h : (generate_event_workspace library event surroundings workspaces).1 = .ok stages) :
    (generate_event_workspace library event surroundings workspaces).2.HoldsCopy
      event template := by
  rcases generate_cases hnone with ⟨raised, heq⟩ | ⟨selected', hselect', -⟩ |
    ⟨template', selected', added, hselect', htemplate, hnodup, hfresh, heq⟩
  · rw [heq] at h
    cases h
  · cases hselect.symm.trans hselect'
  · cases hselect.symm.trans hselect'
    have hsame := sameRows_of_selectTemplate hselect
    rw [heq]
    exact (holdsCopy_extend (hsame.linked hlinked) (hsame.stagesOf_eq_nil hnone) hnodup hfresh
      htemplate).imp fun _ _ => StageCopy.log

/-- Without a template a call changes nothing. -/
theorem generate_of_no_template (hnone : workspaces.stagesOf event = [])
    (hother : event.isRwandaWedding library = false)
    (h : newestTemplate (workspaces.activeTemplates library event) = none) :
    generate_event_workspace library event surroundings workspaces = (.ok [], workspaces) := by
  have hselect : selectTemplate library event surroundings workspaces =
      .ok (none, workspaces) := by
    rw [selectTemplate, hother, h]
    rfl
  simp only [generate_event_workspace, atomic, generated, hnone, ne_eq, not_true_eq_false,
    if_false, hselect, ok_bind]
  rfl

/-- A template without stages adds a row to the activity log. -/
theorem generate_of_empty_template {template : EventTemplate}
    (hnone : workspaces.stagesOf event = []) (hother : event.isRwandaWedding library = false)
    (h : newestTemplate (workspaces.activeTemplates library event) = some template)
    (hempty : template.stages = []) :
    generate_event_workspace library event surroundings workspaces =
      (.ok [], workspaces.log event template) := by
  have hselect : selectTemplate library event surroundings workspaces =
      .ok (some template, workspaces) := by
    rw [selectTemplate, hother, h]
    rfl
  simp only [generate_event_workspace, atomic, generated, hnone, ne_eq, not_true_eq_false,
    if_false, hselect, ok_bind, hempty, List.foldlM_nil]
  rfl

/-- An event with stages keeps its workspace. -/
theorem afterCalls_of_stages (h : workspaces.stagesOf event ≠ []) (calls : List Surroundings) :
    afterCalls library event workspaces calls = workspaces := by
  induction calls with
  | nil => rfl
  | cons call calls ih =>
    rw [afterCalls, List.foldl_cons, generate_of_stages h]
    exact ih

theorem afterCalls_of_no_template (hnone : workspaces.stagesOf event = [])
    (hother : event.isRwandaWedding library = false)
    (h : newestTemplate (workspaces.activeTemplates library event) = none)
    (calls : List Surroundings) : afterCalls library event workspaces calls = workspaces := by
  induction calls with
  | nil => rfl
  | cons call calls ih =>
    rw [afterCalls, List.foldl_cons, generate_of_no_template hnone hother h]
    exact ih

/-- If the template has stages, a call changes nothing or leaves the event with stages. -/
theorem generate_eq_or_stages (surroundings : Surroundings)
    (hnone : workspaces.stagesOf event = [])
    (h : event.isRwandaWedding library = true ∨
      ∀ template ∈ newestTemplate (workspaces.activeTemplates library event),
        template.stages ≠ []) :
    (∃ raised, generate_event_workspace library event surroundings workspaces =
      (.error raised, workspaces)) ∨
    (event.isRwandaWedding library = false ∧
      newestTemplate (workspaces.activeTemplates library event) = none) ∨
    (generate_event_workspace library event surroundings workspaces).2.stagesOf event ≠ [] := by
  rcases generate_cases hnone with hraised | ⟨selected, hselect, -⟩ |
    ⟨template, selected, added, hselect, htemplate, -, -, heq⟩
  · exact .inl hraised
  · rcases selectTemplate_cases hselect with ⟨-, -, template, heq, -⟩ | ⟨hother, -, hnewest⟩
    · cases heq
    · exact .inr (.inl ⟨hother, hnewest.symm⟩)
  · have hstages : template.stages ≠ [] := by
      rcases selectTemplate_cases hselect with ⟨-, -, template', heq, hstages⟩ |
        ⟨hother, -, hnewest⟩
      · exact Option.some.inj heq ▸ hstages
      · rcases h with hwedding | hstages
        · exact absurd (hwedding.symm.trans hother) (by decide)
        · exact hstages template hnewest.symm
    have hsame := sameRows_of_selectTemplate hselect
    refine .inr (.inr ?_)
    rw [heq]
    intro hnil
    have hadded := filter_stages_extend added (hsame.stagesOf_eq_nil hnone)
    have hmap : added.map AddedStage.stage = [] := hadded ▸ stagesOf_eq_nil_iff.mp hnil
    rw [List.map_eq_nil_iff] at hmap
    exact hstages (htemplate ▸ hmap ▸ rfl)

/-- If the template has stages, the calls so far have changed nothing or have left the event
with stages. -/
theorem afterCalls_eq_or_stages (hnone : workspaces.stagesOf event = [])
    (h : event.isRwandaWedding library = true ∨
      ∀ template ∈ newestTemplate (workspaces.activeTemplates library event),
        template.stages ≠ []) (calls : List Surroundings) :
    afterCalls library event workspaces calls = workspaces ∨
      (afterCalls library event workspaces calls).stagesOf event ≠ [] := by
  induction calls with
  | nil => exact .inl rfl
  | cons call calls ih =>
    rw [afterCalls, List.foldl_cons]
    rcases generate_eq_or_stages call hnone h with
      ⟨raised, heq⟩ | ⟨hother, hnewest⟩ | hstages
    · rw [heq]
      exact ih
    · rw [generate_of_no_template hnone hother hnewest]
      exact ih
    · rw [← afterCalls, afterCalls_of_stages hstages]
      exact .inr hstages

/-- As long as the event has no stages, nothing has changed. -/
theorem afterCalls_eq_of_no_stages {calls : List Surroundings}
    (h : workspaces.stagesOf event ≠ [] ∨ event.isRwandaWedding library = true ∨
      ∀ template ∈ newestTemplate (workspaces.activeTemplates library event),
        template.stages ≠ [])
    (hnone : (afterCalls library event workspaces calls).stagesOf event = []) :
    afterCalls library event workspaces calls = workspaces := by
  by_cases hstages : workspaces.stagesOf event = []
  · have hcond := h.resolve_left (not_not.mpr hstages)
    exact (afterCalls_eq_or_stages hstages hcond calls).resolve_right (not_not.mpr hnone)
  · exact afterCalls_of_stages hstages calls

/-- After a call that has returned no call changes anything, if the template has stages. -/
theorem afterCalls_generate {stages : List EventStage} (hnone : workspaces.stagesOf event = [])
    (h : event.isRwandaWedding library = true ∨
      ∀ template ∈ newestTemplate (workspaces.activeTemplates library event),
        template.stages ≠ [])
    (hok : (generate_event_workspace library event surroundings workspaces).1 = .ok stages)
    (later : List Surroundings) :
    afterCalls library event
      (generate_event_workspace library event surroundings workspaces).2 later =
        (generate_event_workspace library event surroundings workspaces).2 := by
  rcases generate_eq_or_stages surroundings hnone h with
    ⟨raised, heq⟩ | ⟨hother, hnewest⟩ | hstages
  · rw [heq] at hok
    cases hok
  · rw [generate_of_no_template hnone hother hnewest]
    exact afterCalls_of_no_template hnone hother hnewest later
  · exact afterCalls_of_stages hstages later

/-! ### The generation of a workspace -/

/-- The calls generate the workspace once exactly when the event has a stage already, or is a
wedding in Rwanda, or its template has stages. A template without stages is logged again by each
call. -/
theorem generatesOnce_iff (hlinked : workspaces.Linked) :
    GeneratesOnce library event workspaces ↔
      workspaces.stagesOf event ≠ [] ∨ event.isRwandaWedding library = true ∨
        ∀ template ∈ newestTemplate (workspaces.activeTemplates library event),
          template.stages ≠ [] := by
  constructor
  · intro h
    by_contra hcond
    simp only [not_or, not_not, not_forall, Option.mem_def] at hcond
    obtain ⟨hnone, hwedding, template, hnewest, hempty⟩ := hcond
    have hcall (workspaces' : Workspaces) (hkept : workspaces'.stages = workspaces.stages)
        (htemplates : workspaces'.templates = workspaces.templates) :
        generate_event_workspace library event default workspaces' =
          (.ok [], workspaces'.log event template) := by
      refine generate_of_empty_template ?_ (eq_false_of_ne_true hwedding) ?_ hempty
      · rw [Workspaces.stagesOf, hkept]
        exact hnone
      · rw [Workspaces.activeTemplates, htemplates]
        exact hnewest
    have hfirst := hcall workspaces rfl rfl
    have hsettled := h.settled [] default workspaces [] [default] rfl (congrArg Prod.fst hfirst)
    rw [hfirst, afterCalls, List.foldl_cons, hcall (workspaces.log event template) rfl rfl]
      at hsettled
    have hlength := congrArg (fun reached : Workspaces => reached.activity.length) hsettled
    simp [Workspaces.log] at hlength
  · intro h
    refine ⟨fun _ _ _ _ _ hraised => generate_of_raised hraised, ?_, ?_⟩
    · rintro calls surroundings _ stages template selected rfl hnone hselect hok
      have hbefore := afterCalls_eq_of_no_stages h hnone
      rw [hbefore] at hnone hselect hok ⊢
      exact holdsCopy_of_generate hlinked hnone hselect hok
    · rintro calls surroundings _ stages later rfl hok
      by_cases hnone : (afterCalls library event workspaces calls).stagesOf event = []
      · have hbefore := afterCalls_eq_of_no_stages h hnone
        rw [hbefore] at hnone hok ⊢
        exact afterCalls_generate hnone (h.resolve_left (not_not.mpr hnone)) hok later
      · rw [generate_of_stages hnone]
        exact afterCalls_of_stages hnone later

/-- A birthday in a country whose name is in lower case. -/
def birthday : Event where
  id := 1
  planner_id := 2
  event_type := "birthday"
  event_date := 738000
  country := "kenya"

/-- Texts in lower case and small amounts. -/
def plainLibrary : TemplateLibrary where
  lower := id
  iexact text text' := text = text'
  add _ amount := amount
  stored := some

/-- The workspaces before any generation, with one template. -/
def onlyTemplate (stages : List EventStageTemplate) : Workspaces where
  templates := Lib.Table.empty.upsert {
    id := 3
    slug := "birthday"
    event_type := "birthday"
    country := "kenya"
    version := 1
    is_active := true
    updated_at := 0
    stages }
  stages := []
  tasks := []
  budget_items := []
  vendor_requirements := []
  answers := []
  activity := []

theorem onlyTemplate_linked {stages : List EventStageTemplate} : (onlyTemplate stages).Linked :=
  ⟨List.forall_mem_nil _, List.forall_mem_nil _, List.forall_mem_nil _, List.forall_mem_nil _⟩

/-- A stage with one task. -/
def venueStage : EventStageTemplate where
  id := 4
  name := "Venue"
  slug := "venue"
  description := ""
  order := 1
  tasks := [⟨"Book the venue", "", some 30, 1⟩]
  budget_items := []
  vendor_requirements := []
  questions := []

theorem birthday_generates_once :
    GeneratesOnce plainLibrary birthday (onlyTemplate [venueStage]) := by
  refine (generatesOnce_iff onlyTemplate_linked).mpr (.inr (.inr ?_))
  intro template htemplate
  obtain rfl := Option.some.inj htemplate
  exact List.cons_ne_nil _ _

/-- Each call logs the generation from a template without stages. -/
theorem empty_template_generated_again :
    ¬GeneratesOnce plainLibrary birthday (onlyTemplate []) := by
  intro h
  have hsettled := h.settled [] default (onlyTemplate []) [] [default] rfl rfl
  exact absurd (congrArg (fun reached => reached.activity.length) hsettled) (by decide)

end Linkapro.Events
