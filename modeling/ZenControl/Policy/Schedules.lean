import ZenControl.Policy.Catalog

/-! The recurring schedules and date exceptions of a device at one moment: which
occurrences lie behind it and ahead of it, and which of them decides. -/
namespace ZenControl

/-- Whether a service schedule blocks or allows its service. -/
inductive ServiceState
  | block
  | allow
  deriving DecidableEq, Repr

def ServiceState.text : ServiceState → String
  | block => "block"
  | allow => "allow"

/-- What a candidate does when it occurs. -/
inductive CandidateAction
  | mode (value : Mode)
  | service (key : String) (state : ServiceState)
  | reEvaluate
  deriving DecidableEq, Repr

/-- An occurrence of a schedule, of a template entry, or of the end of an exception. -/
structure Candidate where
  id : ℤ
  label : String
  occurrence : Moment
  specificity : ℕ
  targetType : String
  action : CandidateAction
  requestedTime : String
  wallResolution : WallResolution
  deriving DecidableEq, Repr

/-- `", ".join(sorted(...))`. -/
def joinSorted (labels : List String) : String :=
  String.intercalate ", " (labels.insertionSort fun a b => ¬ b < a)

section Actions

/-- The `state_map` of `_normalize_service_schedule_action`. -/
def scheduleState : String → Option ServiceState
  | "block" => some .block
  | "blocked" => some .block
  | "deny" => some .block
  | "allow" => some .allow
  | "allowed" => some .allow
  | _ => none

/-- `_normalize_service_schedule_action`. -/
def normalizeServiceScheduleAction (rt : Runtime) (t : Tables) (actionValue : String) :
    Except StoreError (String × ServiceState) :=
  match cutAt ':' (rt.lower (strip actionValue)) with
  | none => .error (.valueError
      "Service schedule action must use service:block or service:allow")
  | some (key,state) =>
    let key := strip key
    let valid := (listServices t).map Service.key ++ policyGroupKeys rt t
    if key ∉ valid then .error (.valueError s!"Unknown scheduled service '{key}'")
    else
      match scheduleState (strip state) with
      | none => .error (.valueError "Service schedule state must be block or allow")
      | some state => .ok (key,state)

/-- The hour and minute of a stored clock time. -/
def parseClock (text : String) : Option (ℤ × ℤ) :=
  (cutAt ':' text).bind fun (hour,minute) =>
    (pyInt hour).bind fun h => (pyInt minute).map fun m => (h,m)

/-- The bounds that `time(hour, minute)` checks. -/
def checkTime (hour minute : ℤ) : Except StoreError Unit :=
  if hour<0 ∨ 23 < hour then .error (.valueError "hour must be in 0..23")
  else if minute<0 ∨ 59 < minute then .error (.valueError "minute must be in 0..59")
  else .ok ()

end Actions

section Targets

/-- The `target_type` column. -/
def Target.kind : Target → String
  | all => "all"
  | profile _ => "profile"
  | device _ => "device"

/-- `_target_specificity`. -/
def Target.specificity : Target → ℕ
  | all => 1
  | profile _ => 2
  | device _ => 3

/-- `_target_matches`. -/
def Target.targetMatches (target : Target) (ip : String) (profileId : Option ℤ) : Bool :=
  match target with
  | all => true
  | device value => value=ip
  | profile value =>
    match profileId with
    | some p => value=toString p
    | none => false

end Targets

section Candidates
variable (zone : Zone)

/-- The greatest value of a list that is not empty. -/
def maximumOf (f : Candidate → ℤ) : List Candidate → ℤ
  | [] => 0
  | [c] => f c
  | c::cs => max (f c) (maximumOf f cs)

/-- The least value of a list that is not empty. -/
def minimumOf (f : Candidate → ℤ) : List Candidate → ℤ
  | [] => 0
  | [c] => f c
  | c::cs => min (f c) (minimumOf f cs)

/-- The candidates with the greatest value, in order. -/
def greatest (f : Candidate → ℤ) (cs : List Candidate) : List Candidate :=
  cs.filter fun c => f c=maximumOf f cs

/-- The candidates with the least value, in order. -/
def least (f : Candidate → ℤ) (cs : List Candidate) : List Candidate :=
  cs.filter fun c => f c=minimumOf f cs

/-- The instant at which a candidate occurs. -/
def Candidate.instant (zone : Zone) (c : Candidate) : ℤ := zone.instant c.occurrence

/-- `_select_schedule_candidate`: the latest candidates, of these the most specific ones, and
of these, which must agree, the last by id. -/
def selectScheduleCandidate (candidates : List Candidate) (dimension : String) :
    Except StoreError (Option Candidate) :=
  match greatest (Candidate.instant zone) candidates with
  | [] => .ok none
  | latest@(first::_) =>
    let winners := greatest (fun c => c.specificity) latest
    if (winners.map Candidate.action).dedup.length > 1 then
      let labels := joinSorted (winners.map Candidate.label).dedup
      let time := weekdayMinute first.occurrence.wall
      .error (.valueError s!"Ambiguous {dimension} schedules at {time}: {labels}")
    else .ok (winners.insertionSort fun a b => a.id ≤ b.id).getLast?

/-- The days that are looked at before or after a moment. -/
def offsets : List ℤ := [0,1,2,3,4,5,6,7]

/-- Whether an occurrence lies on the side of the moment that is asked for. -/
def onSide (future : Bool) (occurrence policyAt : ℤ) : Bool :=
  if future then policyAt < occurrence else occurrence ≤ policyAt

/-- The occurrences of one clock time on the days around a moment. -/
def clockOccurrences (policyAt : Moment) (future : Bool) (hour minute : ℤ) (onDay : Day → Bool) :
    List ℤ → Except StoreError (List (Moment × WallResolution))
  | [] => .ok []
  | offset::rest => do
    let day := policyAt.day+(if future then offset else -offset)
    if onDay day then
      checkTime hour minute
      let (occurrence,resolution) ← resolveLocalWallTime zone (combine day hour minute)
      let later ← clockOccurrences policyAt future hour minute onDay rest
      if onSide future (zone.instant occurrence) (zone.instant policyAt) then
        pure ((occurrence,resolution)::later)
      else pure later
    else clockOccurrences policyAt future hour minute onDay rest

variable (rt : Runtime) (t : Tables)

/-- The action of a plan as a candidate carries it. -/
def planAction (plan : SchedulePlan) : Except StoreError CandidateAction :=
  match plan.action with
  | .mode value => .ok (.mode value)
  | .service value => do
    let (key,state) ← normalizeServiceScheduleAction rt t value
    pure (.service key state)

/-- The occurrences of one plan. -/
def planOccurrences (policyAt : Moment) (future : Bool) (plan : SchedulePlan) :
    Except StoreError (List Candidate) :=
  match parseClock plan.clockTime with
  | none =>
    let label := plan.label
    .error (.valueError s!"Schedule '{label}' has an invalid time")
  | some (hour,minute) => do
    let action ← planAction rt t plan
    let found ← clockOccurrences zone policyAt future hour minute
      (fun day => weekdayCode day ∈ plan.days) offsets
    pure <| found.map fun (occurrence,resolution) =>
      { id := plan.id, label := plan.label, occurrence := occurrence,
        specificity := plan.target.specificity, targetType := plan.target.kind,
        action := action, requestedTime := plan.clockTime, wallResolution := resolution }

/-- `list_schedule_plans`, as far as the resolver reads it. -/
def listSchedulePlans : List SchedulePlan :=
  orderBy2 SchedulePlan.clockTime (fun p => nocase p.label) t.schedulePlans

/-- The candidates of several sources, one after the other. -/
def gather {α : Type} (f : α → Except StoreError (List Candidate)) :
    List α → Except StoreError (List Candidate)
  | [] => .ok []
  | a::as => do
    let first ← f a
    let rest ← gather f as
    pure (first ++ rest)

/-- `_schedule_occurrences`. -/
def scheduleOccurrences (ip : String) (profileId : Option ℤ) (policyAt : Moment) (future : Bool) :
    Except StoreError (List Candidate) :=
  gather (planOccurrences zone rt t policyAt future)
    ((listSchedulePlans t).filter fun p => p.enabled && p.target.targetMatches ip profileId)

/-- The service candidates by key, keys in the order in which they come up. -/
def byService (candidates : List Candidate) : List (String × List Candidate) :=
  candidates.foldl (fun d c =>
    match c.action with
    | .service key _ => dictSet d key (((d.lookup key).getD []) ++ [c])
    | _ => d) []

/-- One selected candidate for each service. -/
def selectServices : List (String × List Candidate) →
    Except StoreError (List (String × Candidate))
  | [] => .ok []
  | (key,values)::rest => do
    let chosen ← selectScheduleCandidate zone values s!"{key} service"
    let others ← selectServices rest
    pure <| match chosen with
      | some c => (key,c)::others
      | none => others

def CandidateAction.isMode : CandidateAction → Bool
  | mode _ => true
  | _ => false

/-- What `_resolve_regular_schedule` returns. -/
structure RegularSchedule where
  mode : Option Candidate
  services : List (String × Candidate)
  next : Option Candidate

/-- The next regular event: the earliest, of these the most specific, of these the first. -/
def nextCandidate (future : List Candidate) : Option Candidate :=
  ((greatest (fun c => c.specificity) (least (Candidate.instant zone) future)).insertionSort
    fun a b => a.id ≤ b.id).head?

/-- `_resolve_regular_schedule`. -/
def resolveRegularSchedule (ip : String) (profileId : Option ℤ) (policyAt : Moment) :
    Except StoreError RegularSchedule := do
  let past ← scheduleOccurrences zone rt t ip profileId policyAt false
  let mode ← selectScheduleCandidate zone (past.filter fun c => c.action.isMode) "mode"
  let services ← selectServices zone (byService past)
  let future ← scheduleOccurrences zone rt t ip profileId policyAt true
  pure { mode := mode, services := services, next := nextCandidate zone future }

end Candidates

section Exceptions
variable (zone : Zone) (t : Tables)

/-- `list_date_exceptions` without the joined template names. -/
def listDateExceptions : List DateException :=
  orderBy2 (fun e : DateException => e.startDate) (fun e => nocase e.label) t.dateExceptions

/-- `list_schedule_templates`. -/
def listScheduleTemplates : List ScheduleTemplate :=
  orderBy (fun s => nocase s.name) t.scheduleTemplates

/-- The date exceptions of the device on a day. -/
def exceptionMatches (ip : String) (day : Day) (profileId : Option ℤ) : List DateException :=
  (listDateExceptions t).filter fun e =>
    e.startDate ≤ day && day ≤ e.endDate && e.target.targetMatches ip profileId

/-- The most specific ones of some exceptions. -/
def mostSpecific (es : List DateException) : List DateException :=
  es.filter fun e => es.all fun e' => e'.target.specificity ≤ e.target.specificity

/-- The profile id that the store holds for a device. -/
def storedProfileId (ip : String) : Option ℤ :=
  (t.devicePolicy.find? fun d => d.ip=some ip).bind fun d => d.profileId.map Subtype.val

/-- The choice that `_matching_exception` makes among the exceptions that match. -/
def chooseException (ip : String) (day : Day) (es : List DateException) :
    Except StoreError (Option DateException) :=
  let winners := mostSpecific es
  if (winners.map DateException.mode).dedup.length > 1 then
    let labels := joinSorted (winners.map DateException.label)
    let date := isoDay day
    .error (.valueError s!"Conflicting date exceptions for {ip} on {date}: {labels}")
  else .ok (winners.insertionSort fun a b =>
    a.startDate < b.startDate ∨ (a.startDate=b.startDate ∧ a.id ≤ b.id)).getLast?

/-- `_matching_exception`. The profile of the caller is replaced by the stored one of the
device where the caller has none. -/
def matchingException (ip : String) (day : Day) (profileId : Option ℤ) :
    Except StoreError (Option DateException) :=
  let profileId := if profileId=none then storedProfileId t ip else profileId
  chooseException ip day (exceptionMatches t ip day profileId)

/-- The occurrences of the entries of a template within the days of its exception. -/
def templateEntryOccurrences (template : ScheduleTemplate) (policyAt : Moment)
    (start stop : Day) (future : Bool) (index : ℕ) (entry : TemplateEntry) :
    Except StoreError (List Candidate) :=
  match parseClock entry.time with
  | none => .error (.valueError "invalid literal for int()")
  | some (hour,minute) => do
    let found ← clockOccurrences zone policyAt future hour minute
      (fun day => start ≤ day && day ≤ stop && decide (weekdayCode day ∈ entry.days)) offsets
    pure <| found.map fun (occurrence,resolution) =>
      { id := index, label := template.name, occurrence := occurrence, specificity := 4,
        targetType := "template", action := .mode entry.mode, requestedTime := entry.time,
        wallResolution := resolution }

/-- `_template_candidates`. -/
def templateCandidates (template : ScheduleTemplate) (policyAt : Moment) (start stop : Day)
    (future : Bool) : Except StoreError (List Candidate) :=
  gather (fun (entry,index) =>
    templateEntryOccurrences zone template policyAt start stop future index entry)
    template.entries.zipIdx

/-- `_resolve_exception_template`. -/
def resolveExceptionTemplate (e : DateException) (templateId : ℤ) (policyAt : Moment) :
    Except StoreError (ScheduleTemplate × Option Candidate × Option Candidate) :=
  match (listScheduleTemplates t).find? fun s => s.id=templateId with
  | none =>
    let label := e.label
    .error (.valueError s!"Date exception '{label}' references a missing template")
  | some template => do
    let past ← templateCandidates zone template policyAt e.startDate e.endDate false
    let current ← selectScheduleCandidate zone past "template mode"
    let future ← templateCandidates zone template policyAt e.startDate e.endDate true
    let next := ((least (Candidate.instant zone) future).insertionSort
      fun a b => a.id ≤ b.id).head?
    pure (template,current,next)

end Exceptions
end ZenControl
