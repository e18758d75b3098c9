import ZenControl.Store.Validation

/-! The writers of schedule plans, schedule templates and date exceptions. -/
namespace ZenControl
open Calls

section Fields
variable (env : Env) (t : Tables)

/-- `str(value or "")`. -/
def Env.orEmpty (value : PyVal) : String := value.textOr env.toPyRuntime

/-- `str(value or "").strip().lower()`. -/
def Env.canonical (value : PyVal) : String := env.lower (strip (env.orEmpty value))

def Weekday.ofText : String → Option Weekday
  | "mon" => some .mon
  | "tue" => some .tue
  | "wed" => some .wed
  | "thu" => some .thu
  | "fri" => some .fri
  | "sat" => some .sat
  | "sun" => some .sun
  | _ => none

def Weekday.text : Weekday → String
  | mon => "mon"
  | tue => "tue"
  | wed => "wed"
  | thu => "thu"
  | fri => "fri"
  | sat => "sat"
  | sun => "sun"

@[simp] lemma Weekday.ofText_text (day : Weekday) : ofText day.text=some day := by
  cases day <;> rfl

/-- The weekdays among some texts, each once, in the order in which they come up. -/
def cleanDays (texts : List String) : List Weekday :=
  texts.foldl (fun days text =>
    match Weekday.ofText text with
    | some day => if day ∈ days then days else days ++ [day]
    | none => days) []

/-- `_validate_schedule_target`. -/
def validateScheduleTarget (targetType targetValue : PyVal) : Py Target :=
  let value := strip (env.orEmpty targetValue)
  match env.canonical targetType with
  | "all" => .ok .all
  | "profile" =>
    match pyInt value with
    | none => .error (.valueError "Select a valid profile target")
    | some id => do
      match ← requestedProfile t id with
      | none => .error (.valueError "Schedule profile target does not exist")
      | some _ => pure (.profile (toString id))
  | "device" =>
    match env.ipAddress value with
    | none => .error (.valueError "Schedule device target must be a valid IP address")
    | some ip => .ok (.device ip)
  | _ => .error (.valueError "Invalid schedule target")

end Fields

section SchedulePlans

/-- The arguments of `create_schedule_plan` and `update_schedule_plan`. -/
structure PlanArgs where
  label : PyVal
  targetType : PyVal
  targetValue : PyVal
  actionType : PyVal
  actionValue : PyVal
  clockTime : PyVal
  days : PyVal

variable (env : Env)

/-- The checked action of a plan: a mode, or a service and its state. -/
def scheduleAction (t : Tables) (isMode : Bool) (value : PyVal) : Py PlanAction :=
  if isMode then
    (validateMode (.str (env.lower (strip (value.text env.toPyRuntime))))).map .mode
  else
    (normalizeServiceScheduleAction env.toRuntime t (env.orEmpty value)).map fun (key,state) =>
      .service (key ++ ":" ++ state.text)

/-- `_normalize_schedule_plan_fields`, for a plan that is enabled and has no id yet. -/
def normalizeSchedulePlanFields (t : Tables) (a : PlanArgs) : Py SchedulePlan := do
  let target ← validateScheduleTarget env t a.targetType a.targetValue
  let actionType := env.canonical a.actionType
  refuse (actionType≠"mode" ∧ actionType≠"service") "Invalid schedule action"
  let label := strip (env.orEmpty a.label)
  refuse (label="") "Schedule label is required"
  let texts ← (a.days.or (.list [])).iterate
  let days := cleanDays (texts.map fun d => strip (env.lower (d.text env.toPyRuntime)))
  refuse (days=[]) "Select at least one day"
  let clockTime := strip (env.orEmpty a.clockTime)
  refuse (isClock clockTime=false) "Time must be HH:MM"
  let action ← scheduleAction env t (actionType="mode") a.actionValue
  pure
    { id := 0, label := clip label 60, target := target, action := action,
      clockTime := clockTime, days := days }

/-- `INSERT INTO schedule_plans`. -/
def insertSchedulePlan (plan : SchedulePlan) (t : Tables) : Tables :=
  { t with
    schedulePlans := t.schedulePlans ++ [{ plan with id := t.schedulePlanSeq+1 }]
    schedulePlanSeq := t.schedulePlanSeq+1 }

/-- `create_schedule_plan`. -/
def createSchedulePlan (a : PlanArgs) : StoreProg ℤ := do
  let plan ← query fun t => normalizeSchedulePlanFields env t a
  storeWrite env "schedules" "Schedule plan created" do
    let t ← Body.execute fun t => .ok (insertSchedulePlan plan t)
    pure t.schedulePlanSeq

/-- A change of the rows of one plan, which must exist. -/
def amendSchedulePlan (id : ℤ) (f : SchedulePlan → SchedulePlan) (t : Tables) : Py Tables :=
  match Rows.row SchedulePlan.id id t.schedulePlans with
  | none => .error (.valueError "Schedule plan not found")
  | some _ => .ok { t with schedulePlans := Rows.amend SchedulePlan.id id f t.schedulePlans }

/-- `int(plan_id)` as `update_schedule_plan` reads it. -/
def planId (value : PyVal) : Py ℤ :=
  match value.toInt with
  | .error .typeError => .error (.valueError "Invalid schedule plan id")
  | .error (.valueError _) => .error (.valueError "Invalid schedule plan id")
  | result => result

/-- `update_schedule_plan`. The plan stays as enabled as it was. -/
def updateSchedulePlan (id : PyVal) (a : PlanArgs) : StoreProg (Option SchedulePlan) := do
  let (id,plan) ← query fun t => do
    let id ← planId id
    let plan ← normalizeSchedulePlanFields env t a
    pure (id,plan)
  let _ ← storeWrite env "schedules" "Schedule plan updated" do
    let id ← Body.ofPy (sqlInt id)
    Body.execute (amendSchedulePlan id fun old => { plan with id := old.id, enabled := old.enabled })
  query fun t => .ok (Rows.row SchedulePlan.id id t.schedulePlans)

/-- `set_schedule_plan_enabled`. -/
def setSchedulePlanEnabled (id : PyVal) (enabled : Bool) : StoreProg Unit :=
  storeWrite env "schedules" "Schedule plan state updated" do
    let id ← Body.ofPy (id.toInt.bind sqlInt)
    let _ ← Body.execute (amendSchedulePlan id fun old => { old with enabled := enabled })

/-- `delete_schedule_plan`. -/
def deleteSchedulePlan (id : ℤ) : StoreProg Unit :=
  storeWrite env "schedules" "Schedule plan deleted" do
    let id ← Body.ofPy (sqlInt id)
    let _ ← Body.execute fun t =>
      match Rows.row SchedulePlan.id id t.schedulePlans with
      | none => .error (.valueError "Schedule plan not found")
      | some _ => .ok { t with schedulePlans := Rows.drop SchedulePlan.id id t.schedulePlans }

variable {env} {s s' : Store}

lemma closed_createSchedulePlan (env : Env) (a : PlanArgs) : (createSchedulePlan env a).Closed := by
  unfold createSchedulePlan
  exact Prog.closed_bind (closed_query _) fun plan => closed_storeWrite _ _ _ _

/-- What an accepted `create_schedule_plan` leaves. -/
theorem createSchedulePlan_solo {a : PlanArgs} {id : ℤ} (hs : s.journal.Bounded)
    (h : (createSchedulePlan env a).solo s=(.ok id,s')) :
    ∃ plan, normalizeSchedulePlanFields env s.tables a=.ok plan ∧
      s'=⟨s.journal.advance (env.writeArgs "schedules" "Schedule plan created") "",
        insertSchedulePlan plan s.tables⟩ := by
  unfold createSchedulePlan at h
  rw [Prog.bind_eq_bind,Prog.solo_bind (closed_query _),query_solo] at h
  cases hp : normalizeSchedulePlanFields env s.tables a with
  | error e => rw [hp] at h; cases h
  | ok plan =>
    simp only [hp,Prog.bind_eq_bind,Prog.pure_eq_ret,storeWrite_solo _ _ _ _ hs,
      Body.runOn_bind,Body.runOn_execute,Body.runOn_ret,Prod.mk.injEq] at h
    exact ⟨plan,rfl,h.2.symm⟩

end SchedulePlans

section ScheduleTemplates
variable (env : Env)

/-- The mode that is recorded for a slot of a template. -/
abbrev SlotModes := List ((Weekday × String) × Mode)

/-- The slots of an entry join those of the earlier ones. -/
def addSlots (clockTime : String) (mode : Mode) : List Weekday → SlotModes → Py SlotModes
  | [], slots => .ok slots
  | day::days, slots =>
    match slots.lookup (day,clockTime) with
    | some previous =>
      if previous=mode then addSlots clockTime mode days slots
      else
        let day := upper day.text
        let previous := upper previous.text
        let mode := upper mode.text
        .error (.valueError
          s!"Schedule template has conflicting modes for {day} at {clockTime}: {previous} and {mode}")
    | none => addSlots clockTime mode days (slots ++ [((day,clockTime),mode)])

/-- The loop of `_normalize_schedule_template_entries`. -/
def cleanEntries : List PyVal → SlotModes → Py (List TemplateEntry)
  | [], _ => .ok []
  | entry::rest, slots => do
    refuse (entry.isDict=false) "Each schedule template entry must be an object"
    let rawDays ← ((← entry.get "days" (.list [])).or (.list [])).iterate
    let days := cleanDays (rawDays.map fun d => env.lower (strip (d.text env.toPyRuntime)))
    let clockTime := strip ((← entry.get "time" (.str "")).text env.toPyRuntime)
    let mode := env.lower (strip ((← entry.get "mode" (.str "")).text env.toPyRuntime))
    refuse (isClock clockTime=false) "Template times must use a valid 24-hour HH:MM value"
    match Mode.ofText mode with
    | none => .error (.valueError "Template modes must be normal, slow or blocked")
    | some mode => do
      refuse (days=[]) "Each template entry needs at least one day"
      let slots ← addSlots clockTime mode days slots
      let clean ← cleanEntries rest slots
      pure ({ days := days, time := clockTime, mode := mode }::clean)

/-- `_normalize_schedule_template_entries`. -/
def normalizeScheduleTemplateEntries : PyVal → Py (List TemplateEntry)
  | .list entries => do
    let clean ← cleanEntries env entries []
    refuse (clean=[]) "A schedule template needs at least one entry"
    pure clean
  | _ => .error (.valueError "Schedule template entries must be a list")

/-- `INSERT INTO schedule_templates`. -/
def insertScheduleTemplate (name description : String) (entries : List TemplateEntry)
    (t : Tables) : Py Tables :=
  if t.scheduleTemplates.any fun s => s.name=name then
    .error (.valueError "A schedule template with that name already exists")
  else .ok { t with
    scheduleTemplates := t.scheduleTemplates ++
      [{ id := t.scheduleTemplateSeq+1, name := name, description := description,
         entries := entries }]
    scheduleTemplateSeq := t.scheduleTemplateSeq+1 }

/-- `save_schedule_template`. -/
def saveScheduleTemplate (name description entries : PyVal) : StoreProg ℤ := do
  let (name,clean) ← ofPy do
    let name ← name.stripped
    refuse (name="" ∨ 50 < name.length) "Template name must be 1-50 characters"
    let clean ← normalizeScheduleTemplateEntries env entries
    pure (name,clean)
  storeWrite env "schedule-templates" "Schedule template created" do
    let description ← Body.ofPy description.stripped
    let t ← Body.execute (insertScheduleTemplate name (clip description 200) clean)
    pure t.scheduleTemplateSeq

/-- `delete_schedule_template`. -/
def deleteScheduleTemplate (id : ℤ) : StoreProg Unit :=
  storeWrite env "schedule-templates" "Schedule template deleted" do
    let id ← Body.ofPy (sqlInt id)
    let _ ← Body.read fun t => refuse
      (t.dateExceptions.any fun e => e.mode=.template id)
      "Schedule template is used by a date exception; remove the exception first"
    let _ ← Body.execute fun t =>
      match Rows.row ScheduleTemplate.id id t.scheduleTemplates with
      | none => .error (.valueError "Schedule template not found")
      | some _ => .ok { t with
        scheduleTemplates := Rows.drop ScheduleTemplate.id id t.scheduleTemplates }

/-- An entry of a template as JSON. -/
def TemplateEntry.value (e : TemplateEntry) : PyVal :=
  .dict [("days",.list (e.days.map fun d => .str d.text)),("time",.str e.time),
    ("mode",.str e.mode.text)]

/-- `clone_schedule_template`. -/
def cloneScheduleTemplate (id : ℤ) (newName : PyVal) : StoreProg ℤ := do
  match ← query fun t => .ok ((listScheduleTemplates t).find? fun s => s.id=id) with
  | none => .raise (.valueError "Schedule template not found")
  | some source =>
    saveScheduleTemplate env newName (.str source.description)
      (.list (source.entries.map TemplateEntry.value))

end ScheduleTemplates

section DateExceptions
variable (env : Env)

/-- The arguments of `save_date_exception`. -/
structure ExceptionArgs where
  label : PyVal
  startDate : PyVal
  endDate : PyVal
  targetType : PyVal
  targetValue : PyVal
  mode : PyVal
  templateId : PyVal := .none
  notes : PyVal := .str ""

/-- The mode of an exception before its template is looked up. -/
def exceptionMode : PyVal → Py (Option Mode) :=
  oneOf (fun s => if s="template" then some none else (Mode.ofText s).map some)
    "Invalid exception mode"

/-- The checks of `save_date_exception`, for an exception that has no id or notes yet. -/
def exceptionFields (t : Tables) (a : ExceptionArgs) : Py DateException := do
  let label ← a.label.stripped
  refuse (label="") "Exception label is required"
  let target ← validateScheduleTarget env t a.targetType a.targetValue
  let mode ← exceptionMode a.mode
  match a.startDate,a.endDate with
  | .str startText,.str endText =>
    refuse (isDateText startText=false ∨ isDateText endText=false) "Dates must use YYYY-MM-DD"
    match fromIsoformat startText,fromIsoformat endText with
    | some startDate,some endDate =>
      refuse (endDate < startDate) "End date must not be before start date"
      let mode ← match mode with
        | some m => pure (ExceptionMode.mode m)
        | none => do
          refuse (a.templateId.truthy=false) "Select a schedule template"
          let id ← a.templateId.toInt
          refuse (!t.scheduleTemplates.any fun s => s.id=id) "Schedule template not found"
          pure (ExceptionMode.template id)
      pure
        { id := 0, label := clip label 60, startDate := startDate, endDate := endDate,
          target := target, mode := mode }
    | _,_ => .error (.valueError "Date exception contains an invalid calendar date")
  | .str startText,_ =>
    if isDateText startText then .error .typeError
    else .error (.valueError "Dates must use YYYY-MM-DD")
  | _,_ => .error .typeError

/-- `INSERT INTO date_exceptions`. -/
def insertDateException (e : DateException) (t : Tables) : Tables :=
  { t with
    dateExceptions := t.dateExceptions ++ [{ e with id := t.dateExceptionSeq+1 }]
    dateExceptionSeq := t.dateExceptionSeq+1 }

/-- `save_date_exception`. -/
def saveDateException (a : ExceptionArgs) : StoreProg ℤ := do
  let e ← query fun t => exceptionFields env t a
  storeWrite env "date-exceptions" "Date exception created" do
    let notes ← Body.ofPy a.notes.stripped
    let t ← Body.execute fun t => .ok (insertDateException { e with notes := clip notes 200 } t)
    pure t.dateExceptionSeq

/-- `delete_date_exception`. -/
def deleteDateException (id : ℤ) : StoreProg Unit :=
  storeWrite env "date-exceptions" "Date exception deleted" do
    let id ← Body.ofPy (sqlInt id)
    let _ ← Body.execute fun t =>
      match Rows.row DateException.id id t.dateExceptions with
      | none => .error (.valueError "Date exception not found")
      | some _ => .ok { t with dateExceptions := Rows.drop DateException.id id t.dateExceptions }

end DateExceptions
end ZenControl
