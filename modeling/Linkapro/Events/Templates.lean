import Linkapro.Columns
import Linkapro.Lib.Results
import Linkapro.Lib.Table
import Linkapro.Vendors.Values

/-!
# Events, their templates and the seeding of the Rwanda wedding

A template has stages, and a stage has entries of four kinds. The lists are in the order in
which the queries give them. The template of a wedding in Rwanda is seeded from the first
sheets of six workbooks unless an official one is active.
-/

namespace Linkapro.Events

open Lib (Table ok_bind mapM_eq_ok_iff)
open Vendors (Decimal Date)

/-- What stops the generation of a workspace. -/
inductive WorkspaceError : Type where
  | improperlyConfigured (message : String)
  /-- `load_workbook` or the access to a sheet has raised. -/
  | workbook
  /-- A value that its column does not take. -/
  | dataError
  | integrityError
  /-- `OverflowError` of a date or a timedelta. -/
  | overflowError
deriving DecidableEq, Repr

/-! ### Rows -/

/-- A row of `Event`, with the columns that the workspace and the plans of an event read. A date
is counted as `toordinal` does. -/
structure Event : Type where
  id : UUID
  planner_id : UUID
  event_type : String
  event_date : Date
  country : String
deriving DecidableEq, Repr

structure EventTaskTemplate : Type where
  title : String
  description : String
  days_before_event : Option ℤ
  order : ℤ
deriving DecidableEq, Repr

structure EventBudgetItemTemplate : Type where
  category : String
  item : String
  estimated_cost : Decimal
  notes : String
  order : ℤ
deriving DecidableEq, Repr

structure EventVendorRequirementTemplate : Type where
  category : String
  title : String
  description : String
  minimum_budget : Option Decimal
  maximum_budget : Option Decimal
  order : ℤ
deriving DecidableEq, Repr

structure EventQuestionTemplate : Type where
  id : UUID
  prompt : String
  order : ℤ
deriving DecidableEq, Repr

/-- A stage of a template with its entries. -/
structure EventStageTemplate : Type where
  id : UUID
  name : String
  slug : String
  description : String
  order : ℤ
  tasks : List EventTaskTemplate
  budget_items : List EventBudgetItemTemplate
  vendor_requirements : List EventVendorRequirementTemplate
  questions : List EventQuestionTemplate
deriving DecidableEq, Repr

structure EventTemplate : Type where
  id : UUID
  slug : String
  event_type : String
  country : String
  version : ℤ
  is_active : Bool
  updated_at : Datetime
  stages : List EventStageTemplate
deriving DecidableEq, Repr

abbrev TemplateTable : Type := Table fun template : EventTemplate => template.id

/-- The text functions of Python and of the database, and the decimals of the context. -/
structure TemplateLibrary : Type where
  /-- `text.lower()`. -/
  lower : String → String
  /-- The lookup `iexact`. -/
  iexact : String → String → Bool
  add : Decimal → Decimal → Decimal
  /-- What `DecimalField(max_digits=14, decimal_places=2)` stores. -/
  stored : Decimal → Option Decimal

/-- The first of the two in the order `("-version", "-updated_at")`. -/
def newerTemplate (newest : Option EventTemplate) (template : EventTemplate) :
    Option EventTemplate :=
  match newest with
  | none => some template
  | some current =>
    if current.version < template.version ∨
        current.version = template.version ∧ current.updated_at < template.updated_at then
      some template
    else some current

/-- `queryset.order_by("-version", "-updated_at").first()`. -/
def newestTemplate (templates : List EventTemplate) : Option EventTemplate :=
  templates.foldl newerTemplate none

theorem newerTemplate_cases (newest : Option EventTemplate) (template : EventTemplate) :
    newerTemplate newest template = some template ∨ newerTemplate newest template = newest := by
  cases newest with
  | none => exact .inl rfl
  | some current =>
    rw [newerTemplate]
    split
    · exact .inl rfl
    · exact .inr rfl

theorem mem_of_foldl_newerTemplate {templates : List EventTemplate}
    {newest : Option EventTemplate} {template : EventTemplate}
    (h : templates.foldl newerTemplate newest = some template) :
    newest = some template ∨ template ∈ templates := by
  induction templates generalizing newest with
  | nil => exact .inl h
  | cons first templates ih =>
    rcases ih h with heq | hmem
    · rcases newerTemplate_cases newest first with hfirst | hkept
      · exact .inr (Option.some.inj (hfirst.symm.trans heq) ▸ List.mem_cons_self)
      · exact .inl (hkept.symm.trans heq)
    · exact .inr (List.mem_cons_of_mem _ hmem)

/-- The newest template is one of the templates. -/
theorem mem_of_newestTemplate {templates : List EventTemplate} {template : EventTemplate}
    (h : newestTemplate templates = some template) : template ∈ templates := by
  rcases mem_of_foldl_newerTemplate h with heq | hmem
  · cases heq
  · exact hmem

/-! ### Workbooks -/

/-- The value of a cell. A number carries `Decimal(str(value or 0).replace(",", ""))`. -/
inductive Cell : Type where
  | empty
  | text (value : String)
  | number (rendering : String) (amount : Decimal) (truthy : Bool)
  | other (rendering : String) (truthy : Bool)
deriving DecidableEq, Repr

/-- `str(value)`. -/
def Cell.str : Cell → String
  | empty => "None"
  | text value => value
  | number rendering _ _ => rendering
  | other rendering _ => rendering

/-- `bool(value)`. -/
def Cell.truthy : Cell → Bool
  | empty => false
  | text value => value ≠ ""
  | number _ _ truthy => truthy
  | other _ truthy => truthy

/-- `str(value or default)`. -/
def Cell.strOr (default : String) (cell : Cell) : String :=
  if cell.truthy then cell.str else default

/-- The rows of a sheet. -/
abbrev Sheet : Type := List (List Cell)

/-- `part in text`. -/
def isIn (part text : String) : Bool :=
  text.toList.tails.any fun rest => part.toList.isPrefixOf rest

variable (library : TemplateLibrary)

/-- The columns that `budget_rows` has found in the header. -/
structure BudgetColumns : Type where
  item : ℕ
  category : ℕ
  estimate : ℕ
  notes : Option ℕ

/-- The columns under the headers in lower case. -/
def budgetColumns (headers : List String) : BudgetColumns :=
  let item := (headers.findIdx? (isIn "item")).getD 0
  let estimates := headers.zipIdx.filter fun (value, _) =>
    isIn "estimated cost" value ∨ isIn "low (rwf)" value
  { item
    category := (headers.findIdx? (isIn "category")).getD item
    estimate := match estimates.getLast? with
      | some (_, index) => index
      | none => (headers.findIdx? fun value =>
          isIn "cost" value ∧ ¬isIn "actual" value ∧ ¬isIn "unit" value).getD
            (min (item + 1) (headers.length - 1))
    notes := headers.findIdx? (isIn "note") }

/-- A row that `budget_rows` has parsed. -/
structure BudgetRow : Type where
  category : String
  item : String
  estimate : Decimal
  notes : String
deriving DecidableEq, Repr

/-- The row under the header as `budget_rows` parses it, or skips it. -/
def budgetRow (columns : BudgetColumns) (row : List Cell) : Option BudgetRow :=
  let item := row.getD columns.item .empty
  if ¬item.truthy ∨ isIn "total" (library.lower item.str) ∨
      (strip item.str).toList.getLast? = some '.' then
    none
  else
    match row.getD columns.estimate .empty with
    | .number _ amount _ => some {
        category := (row.getD columns.category (.text "Other")).strOr "Other"
        item := item.str
        estimate := amount
        notes := (columns.notes.elim (.text "") fun index => row.getD index (.text "")).strOr "" }
    | _ => none

/-- `budget_rows(workbook)` on its first sheet. -/
def budget_rows (rows : Sheet) : List BudgetRow :=
  let isHeader (cell : Cell) : Bool := cell.truthy ∧
    (isIn "item" (library.lower cell.str) ∨ isIn "cost item" (library.lower cell.str))
  match rows.findIdx? (·.any isHeader) with
  | none => []
  | some index =>
    let headers := (rows.getD index []).map fun cell => library.lower (cell.strOr "")
    (rows.drop (index + 1)).filterMap (budgetRow library (budgetColumns headers))

/-! ### `seed_rwanda_wedding_template` -/

def RWANDA_WEDDING_TEMPLATE_SLUG : String := "rwanda-wedding-workspace"

def RWANDA_WEDDING_TEMPLATE_MISSING_MESSAGE : String :=
  "Rwanda wedding template seed files are missing from deployment."

/-- A name, a slug and a file of `STAGES`. -/
structure SeedStage : Type where
  name : String
  slug : String
  filename : String

def STAGES : List SeedStage := [
  ⟨"Proposal / Engagement planning", "proposal-engagement", "proposal_full_planner.xlsx"⟩,
  ⟨"Gufata Irembo", "gufata-irembo", "Gufata_Irembo_Professional_Budget.xlsx"⟩,
  ⟨"Civil Marriage", "civil-marriage", "Rwanda_Civil_Marriage_Budget.xlsx"⟩,
  ⟨"Gusaba / Gukwa / Dote", "gusaba-gukwa-dote",
    "Rwandan_Traditional_Wedding_Dote_Budget.xlsx"⟩,
  ⟨"Church Wedding", "church-wedding", "Rwanda_Church_Wedding_Budget.xlsx"⟩,
  ⟨"Wedding Reception", "wedding-reception", "Rwandan_Wedding_Reception_Budget.xlsx"⟩]

def CATEGORY_MAP : List (String × String) := [
  ("photo", "photography"), ("video", "photography"), ("cater", "catering"),
  ("food", "catering"), ("decor", "decor"), ("flower", "decor"), ("venue", "venue"),
  ("church", "venue"), ("music", "entertainment"), ("entertain", "entertainment"),
  ("sound", "entertainment"), ("mc", "entertainment"), ("transport", "transportation"),
  ("attire", "attire"), ("clothing", "attire"), ("outfit", "attire")]

/-- `normalized_category(text)`. -/
def normalized_category (text : String) : String :=
  let text := library.lower (if text = "" then "other" else text)
  ((CATEGORY_MAP.find? fun (key, _) => isIn key text).map Prod.snd).getD "other"

/-- `categories[category] = categories.get(category, Decimal("0")) + estimate`. -/
def addEstimate (category : String) (estimate : Decimal) :
    List (String × Decimal) → List (String × Decimal)
  | [] => [(category, library.add (.finite 0 0) estimate)]
  | (key, total) :: categories =>
    if key = category then (key, library.add total estimate) :: categories
    else (key, total) :: addEstimate category estimate categories

/-- The categories with a vendor, in the order in which they are met. -/
def vendorCategories (rows : List BudgetRow) : List (String × Decimal) :=
  rows.foldl (fun categories row =>
    let vendor_category := normalized_category library (row.category ++ " " ++ row.item)
    if vendor_category ≠ "other" then addEstimate library vendor_category row.estimate categories
    else categories) []

/-- `Decimal` is zero. -/
def isZero : Decimal → Bool
  | .finite coefficient _ => coefficient = 0
  | .special => false

/-- The value of a decimal column, or `DataError`. -/
def storedDecimal (amount : Decimal) : Except WorkspaceError Decimal :=
  match library.stored amount with
  | some amount => .ok amount
  | none => .error .dataError

/-- A row that its text columns take. -/
def checked {α : Type} (fits : Bool) (row : α) : Except WorkspaceError α :=
  if fits then .ok row else .error .dataError

/-- The budget item of a parsed row. -/
def seedBudgetItem (order : ℕ) (row : BudgetRow) :
    Except WorkspaceError EventBudgetItemTemplate := do
  let estimated_cost ← storedDecimal library row.estimate
  checked (charField 120 row.category ∧ charField 300 row.item ∧ nulFree row.notes)
    { category := row.category, item := row.item, estimated_cost, notes := row.notes, order }

/-- The task of a parsed row. -/
def seedTask (stage_order order : ℕ) (row : BudgetRow) : Except WorkspaceError EventTaskTemplate :=
  let title := "Confirm " ++ row.item
  checked (charField 300 title ∧ nulFree row.notes) {
    title
    description := row.notes
    days_before_event := some (max 7 ((7 - stage_order) * 30))
    order }

/-- The vendor requirement of a category. -/
def seedVendorRequirement (order : ℕ) (category : String) (maximum_budget : Decimal) :
    Except WorkspaceError EventVendorRequirementTemplate := do
  let maximum_budget ← if isZero maximum_budget then pure none
    else some <$> storedDecimal library maximum_budget
  return {
    category
    title := "Find a " ++ category.map (fun c => if c = '_' then ' ' else c) ++ " vendor"
    description := ""
    minimum_budget := none
    maximum_budget
    order }

/-- The sheets of a workbook. -/
abbrev Workbook : Type := List Sheet

/-- What the call reads from outside: the clock, the directory `wedding_docs` with what
`load_workbook` gives for each of its files, and the values of `uuid4()`. -/
structure Surroundings : Type where
  now : Datetime
  docs : Option (String → Option (Except WorkspaceError Workbook))
  template_id : UUID
  stage_template_id : ℕ → UUID
  question_template_id : ℕ → ℕ → UUID
  stage_id : ℕ → UUID

/-- `wedding_docs_dir()` and `validate_seed_files(docs_dir)`. -/
def Surroundings.seedFiles (surroundings : Surroundings) :
    Except WorkspaceError (String → Option (Except WorkspaceError Workbook)) :=
  match surroundings.docs with
  | none => .error (.improperlyConfigured RWANDA_WEDDING_TEMPLATE_MISSING_MESSAGE)
  | some files =>
    if STAGES.all fun stage => (files stage.filename).isSome then .ok files
    else .error (.improperlyConfigured RWANDA_WEDDING_TEMPLATE_MISSING_MESSAGE)

/-- The questions of a stage. -/
def seedQuestions (stage : SeedStage) (workbook : Workbook) : List String :=
  let questions := [
    "Who is responsible for the " ++ library.lower stage.name ++ " stage?",
    "Is the date and location confirmed for " ++ library.lower stage.name ++ "?"]
  match workbook with
  | _ :: second :: _ =>
    if stage.slug = "church-wedding" then
      questions ++ (second.drop 1).filterMap fun row =>
        (row.head?.filter Cell.truthy).map Cell.str
    else questions
  | _ => questions

/-- The stage that is seeded from the workbook of its file. -/
def seedStage (surroundings : Surroundings)
    (files : String → Option (Except WorkspaceError Workbook)) (place : ℕ) (stage : SeedStage) :
    Except WorkspaceError EventStageTemplate := do
  let stage_order := place + 1
  let workbook ← (files stage.filename).getD (.error .workbook)
  let sheet ← match workbook with
    | [] => .error .workbook
    | sheet :: _ => pure sheet
  let rows := budget_rows library sheet
  let entries ← rows.zipIdx.mapM fun (row, place) => do
    let item ← seedBudgetItem library (place + 1) row
    let task ← seedTask stage_order (place + 1) row
    return (item, task)
  let vendor_requirements ← (vendorCategories library rows).zipIdx.mapM
    fun ((category, maximum_budget), place) =>
      seedVendorRequirement library (place + 1) category maximum_budget
  let questions ← (seedQuestions library stage workbook).zipIdx.mapM fun (prompt, place) =>
    checked (charField 500 prompt) {
      id := surroundings.question_template_id stage_order (place + 1)
      prompt
      order := place + 1 }
  return {
    id := surroundings.stage_template_id stage_order
    name := stage.name
    slug := stage.slug
    description := "Plan and track the " ++ library.lower stage.name ++ " stage."
    order := stage_order
    tasks := entries.map Prod.snd
    budget_items := entries.map Prod.fst
    vendor_requirements
    questions }

/-- The template after `update_or_create` and the creation of its stages. -/
def seededTemplate (surroundings : Surroundings) (old : Option EventTemplate) :
    Except WorkspaceError EventTemplate := do
  let files ← surroundings.seedFiles
  let stages ← STAGES.zipIdx.mapM fun entry =>
    seedStage library surroundings files entry.2 entry.1
  return {
    id := (old.map EventTemplate.id).getD surroundings.template_id
    slug := RWANDA_WEDDING_TEMPLATE_SLUG
    event_type := "wedding"
    country := "Rwanda"
    version := 1
    is_active := true
    updated_at := surroundings.now
    stages }

/-- `has_official_stage_order(template)`. -/
def has_official_stage_order (template : EventTemplate) : Bool :=
  template.stages.map EventStageTemplate.name = STAGES.map SeedStage.name ∧
  template.stages.any (·.tasks ≠ []) ∧ template.stages.any (·.budget_items ≠ []) ∧
  template.stages.any (·.vendor_requirements ≠ []) ∧ template.stages.any (·.questions ≠ [])

/-! ### Stages of the wedding template -/

/-- A seeded template has the stages of `STAGES`. -/
theorem stages_ne_nil_of_seeded {library : TemplateLibrary} {surroundings : Surroundings}
    {old : Option EventTemplate} {template : EventTemplate}
    (h : seededTemplate library surroundings old = .ok template) : template.stages ≠ [] := by
  rw [seededTemplate] at h
  cases hfiles : surroundings.seedFiles with
  | error raised =>
    rw [hfiles] at h
    cases h
  | ok files =>
    rw [hfiles, ok_bind] at h
    cases hstages : STAGES.zipIdx.mapM fun entry =>
        seedStage library surroundings files entry.2 entry.1 with
    | error raised =>
      rw [hstages] at h
      cases h
    | ok stages =>
      rw [hstages] at h
      obtain rfl := Except.ok.inj h
      have hlength := (mapM_eq_ok_iff.mp hstages).length_eq
      exact List.ne_nil_of_length_pos (hlength ▸ by decide)

theorem stages_ne_nil_of_official {template : EventTemplate}
    (h : has_official_stage_order template = true) : template.stages ≠ [] := by
  intro hnil
  rw [has_official_stage_order, hnil, decide_eq_true_eq] at h
  exact absurd h.1 (by decide)

end Linkapro.Events
