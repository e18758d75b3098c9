import ZenControl.Policy.Schedules

/-! The effective policy of a device: its override and profile, the schedules and exceptions
of the moment, and the quotas of the day. Live reconciliation and simulation share the
resolver and differ in the profile context they give it. -/
namespace ZenControl

section Quota

/-- The usage that telemetry reports for a device. -/
structure QuotaUsage where
  available : Bool
  error : Option String := none
  day : Option String := none
  timezone : Option String := none
  totalBytes : ℤ := 0
  serviceBytes : List (String × ℤ) := []
  deriving DecidableEq, Repr

structure DailyQuota where
  limitMb : ℤ
  limitBytes : ℤ
  action : QuotaAction
  usedBytes : ℤ
  usedHuman : String
  percentTenths : ℤ
  warning : Bool
  exhausted : Bool
  deriving DecidableEq, Repr

structure ServiceQuota where
  key : String
  isGroup : Bool
  name : String
  members : List String
  limitMb : ℤ
  limitBytes : ℤ
  usedBytes : ℤ
  usedHuman : String
  percentTenths : ℤ
  warning : Bool
  exhausted : Bool
  deriving DecidableEq, Repr

structure QuotaState where
  configured : Bool
  enabled : Bool
  available : Bool
  profileName : Option String
  day : Option String
  timezone : Option String
  warningPercent : ℤ
  active : Bool
  modeActive : Bool
  serviceActive : Bool
  telemetryError : Option String
  daily : DailyQuota
  services : List ServiceQuota
  activeServiceBlocks : List String
  deriving DecidableEq, Repr

/-- `bytes_for_mb`. -/
def bytesForMb (mb : ℤ) : ℤ := mb*1048576

/-- `_quota_mode_rank`. -/
def quotaModeRank : Mode → ℕ
  | .normal => 0
  | .slow => 1
  | .blocked => 2

def QuotaAction.mode : QuotaAction → Mode
  | slow => .slow
  | blocked => .blocked

/-- What the quotas make of a mode and a set of blocked services. -/
structure QuotaOutcome where
  state : QuotaState
  mode : Mode
  blocked : List String
  source : Option String

/-- The state of one service or group quota. -/
def serviceQuota (rt : Runtime) (catalog : GroupCatalog) (warningPercent : ℤ)
    (used : List (String × ℤ)) (key : String) (limitMb : ℤ) : ServiceQuota :=
  let isGroup := decide (key ∈ catalog.map Prod.fst)
  let members := if isGroup then groupMembers rt key catalog else [key]
  let total := (members.map fun m => (used.lookup m).getD 0).foldl (fun a b => a+b) 0
  let percent := rt.percentTenths total limitMb
  { key := key, isGroup := isGroup,
    name := if isGroup then ((catalog.lookup key).map PolicyGroup.name).getD key else key,
    members := members, limitMb := limitMb, limitBytes := bytesForMb limitMb,
    usedBytes := total, usedHuman := rt.formatBytes total, percentTenths := percent,
    warning := 10*warningPercent ≤ percent, exhausted := bytesForMb limitMb ≤ total }

/-- `_evaluate_quota_state`. -/
def evaluateQuotaState (rt : Runtime) (t : Tables) (profile : Option Profile)
    (desiredMode : Mode) (blocked : List String) (usage : Option QuotaUsage)
    (policyGroups : GroupCatalog) : QuotaOutcome :=
  let catalog := normalizedGroupCatalog rt
    (if policyGroups.isEmpty then policyGroupCatalog rt t else policyGroups)
  let enabled := settingOr t.appSettings "quota_engine_enabled" "0"="1"
  let configuredPercent := orElse (settingOr t.appSettings "quota_warning_percent" "80") "80"
  let warningPercent := max 50 (min ((pyInt configuredPercent).getD 80) 95)
  let limitMb := (profile.map fun p => p.dailyQuotaMb).getD 0
  let limits := (profile.map fun p => p.serviceQuotas).getD []
  let configured := decide (limitMb ≠ 0) || !limits.isEmpty
  let action := (profile.map fun p => p.dailyQuotaAction).getD .blocked
  let state : QuotaState :=
    { configured := configured, enabled := enabled, available := true,
      profileName := profile.map Profile.name, day := none, timezone := none,
      warningPercent := warningPercent, active := false, modeActive := false,
      serviceActive := false, telemetryError := none,
      daily := { limitMb := limitMb, limitBytes := bytesForMb limitMb, action := action,
                 usedBytes := 0, usedHuman := rt.formatBytes 0, percentTenths := 0,
                 warning := false, exhausted := false },
      services := [], activeServiceBlocks := [] }
  if configured=false then
    { state := state, mode := desiredMode, blocked := blocked, source := none }
  else if enabled=false then
    { state := { state with
        available := false
        telemetryError := some "Quota engine is disabled in Settings" },
      mode := desiredMode, blocked := blocked, source := none }
  else
    let unavailable (error : Option String) : QuotaOutcome :=
      { state := { state with
          available := false
          telemetryError := some
            (error.getD "Telemetry usage is unavailable; quota policy is fail-open") },
        mode := desiredMode, blocked := blocked, source := none }
    match usage with
    | none => unavailable none
    | some usage =>
      if usage.available=false then unavailable usage.error
      else
        let percent := rt.percentTenths usage.totalBytes limitMb
        let exhausted := decide (limitMb ≠ 0) && decide (bytesForMb limitMb ≤ usage.totalBytes)
        let tightened := exhausted && quotaModeRank desiredMode < quotaModeRank action.mode
        let services := ((limits.insertionSort fun a b => ¬ b.1 < a.1).filter fun e =>
          e.2 ≠ 0).map fun e =>
            serviceQuota rt catalog warningPercent usage.serviceBytes e.1 e.2
        let spent := services.filter ServiceQuota.exhausted
        let profileName := ((profile.map Profile.name).getD "")
        { state := { state with
            day := usage.day
            timezone := usage.timezone
            active := exhausted || !spent.isEmpty
            modeActive := exhausted
            serviceActive := !spent.isEmpty
            daily := { state.daily with
              usedBytes := usage.totalBytes
              usedHuman := rt.formatBytes usage.totalBytes
              percentTenths := percent
              warning := decide (limitMb ≠ 0) && decide (10*warningPercent ≤ percent)
              exhausted := exhausted }
            services := services
            activeServiceBlocks := spent.map ServiceQuota.key },
          mode := if tightened then action.mode else desiredMode,
          blocked := blocked ++ spent.flatMap ServiceQuota.members,
          source := if tightened then
            some ("daily quota: " ++ orElse profileName "profile") else none }

end Quota

section Outcome

/-- `_format_policy_action`. -/
structure PolicyAction where
  at_ : String
  date : String
  time : String
  type : String
  value : String
  mode : Option String
  service : Option String
  state : Option String
  label : String
  requestedTime : String
  wallResolution : WallResolution
  deriving DecidableEq, Repr

def formatPolicyAction (zone : Zone) (c : Candidate) : PolicyAction :=
  let wall := c.occurrence.wall
  { at_ := zone.isoMinutes c.occurrence, date := isoDay (wall/dayUs), time := hourMinute wall,
    type := match c.action with
      | .service _ _ => "service"
      | _ => "mode",
    value := match c.action with
      | .service key state => key ++ ":" ++ state.text
      | .mode m => m.text
      | .reEvaluate => "re-evaluate",
    mode := match c.action with
      | .service _ _ => none
      | .mode m => some m.text
      | .reEvaluate => some "re-evaluate",
    service := match c.action with
      | .service key _ => some key
      | _ => none,
    state := match c.action with
      | .service _ state => some state.text
      | _ => none,
    label := c.label, requestedTime := c.requestedTime, wallResolution := c.wallResolution }

structure ServiceOverride where
  service : String
  state : ServiceState
  label : String
  at_ : String
  policyGroup : Bool
  deriving DecidableEq, Repr

/-- The active exception as the policy reports it. -/
structure ActiveException where
  row : DateException
  templateName : Option String
  specificity : ℕ
  deriving DecidableEq, Repr

/-- What `compute_effective_policy` returns. -/
structure EffectivePolicy where
  mode : Mode
  modeSource : String
  baseMode : Mode
  baseModeSource : String
  bandwidthPreset : String
  bandwidthName : String
  bandwidthUpload : String
  bandwidthDownload : String
  blockedServices : List String
  requestedBlockedServices : List String
  blockedPolicyGroups : List String
  policyGroupStates : List PolicyGroupState
  unsupportedPolicyKeys : List String
  unsupportedPolicyGroupMembers : List String
  baseBlockedServices : List String
  scheduledServiceOverrides : List ServiceOverride
  scheduleActive : Bool
  scheduleReason : Option String
  activeDateException : Option ActiveException
  nextPolicyAction : Option PolicyAction
  policyTimezone : String
  policyAt : String
  policyTimeResolution : WallResolution
  quotaState : QuotaState
  modeBeforeQuota : Mode
  modeSourceBeforeQuota : String
  quotaActive : Bool
  conflicts : List String
  deriving DecidableEq, Repr

end Outcome

section Compute
variable (rt : Runtime) (t : Tables)

/-- `get_profile`. -/
def getProfile (id : ℤ) : Option Profile := t.profiles.find? fun p => p.id.val=id

/-- `list_device_policy().get(ip)`. -/
def devicePolicy (ip : String) : Option DevicePolicy := t.devicePolicy.find? fun d => d.ip=some ip

/-- The zone part of `_policy_datetime_details`. -/
def policyZone : Except StoreError (Zone × String) :=
  let name := orElse ((t.appSettings.lookup "policy_timezone").getD "") rt.environmentTimezone
  match rt.zone name with
  | none => .error (.valueError s!"Policy timezone '{name}' is not available")
  | some zone => .ok (zone,name)

/-- The mode that the moment asks for, before quotas. -/
structure ModeDecision where
  mode : Mode
  source : String
  reason : Option String
  next : Option Candidate

/-- The end of an exception as the next event, when it still lies ahead. -/
def exceptionEnd (zone : Zone) (e : DateException) (policyAt : Moment)
    (otherwise : Option Candidate) : Except StoreError (Option Candidate) := do
  let (occurrence,resolution) ← localMidnight zone (e.endDate+1)
  if zone.instant policyAt < zone.instant occurrence then
    pure <| some
      { id := 0, label := e.label ++ " ends", occurrence := occurrence, specificity := 4,
        targetType := "exception", action := .reEvaluate, requestedTime := "00:00",
        wallResolution := resolution }
  else pure otherwise

/-- The exception of the day, a template of it, or the regular schedule. -/
def decideMode (zone : Zone) (policyAt : Moment) (regular : RegularSchedule) (baseMode : Mode)
    (baseSource : String) : Option DateException → Except StoreError ModeDecision
  | some e =>
    match e.mode with
    | .mode m => do
      let next ← exceptionEnd zone e policyAt regular.next
      let source := "date exception: " ++ e.label
      pure { mode := m, source := source, reason := some source, next := next }
    | .template id => do
      let (template,current,templateNext) ← resolveExceptionTemplate zone t e id policyAt
      let reason := "date exception template: " ++ e.label
      let next ← match templateNext with
        | some c => pure (some c)
        | none => exceptionEnd zone e policyAt none
      pure <| match current.map Candidate.action with
        | some (.mode m) => { mode := m, source := reason, reason := some reason, next := next }
        | _ => { mode := baseMode, source := baseSource ++ "; awaiting " ++ template.name,
                 reason := some reason, next := next }
  | none => .ok <|
    match regular.mode with
    | some c =>
      let source := "schedule: " ++ c.label
      match c.action with
      | .mode m => { mode := m, source := source, reason := some source, next := regular.next }
      | _ => { mode := baseMode, source := source, reason := some source,
               next := regular.next }
    | none => { mode := baseMode, source := baseSource, reason := none, next := regular.next }

/-- The service schedules in force, by key. -/
def serviceOverrides (zone : Zone) (groupKeys : List String)
    (services : List (String × Candidate)) : List ServiceOverride :=
  (services.insertionSort fun a b => ¬ b.1 < a.1).filterMap fun (key,c) =>
    match c.action with
    | .service _ state => some
        { service := key, state := state, label := c.label,
          at_ := zone.isoMinutes c.occurrence, policyGroup := key ∈ groupKeys }
    | _ => none

/-- While an exception owns the mode, an earlier service event is the next one. -/
def nextWithServices (zone : Zone) (next : Option Candidate) (future : List Candidate) :
    Option Candidate :=
  match least (Candidate.instant zone) (future.filter fun c => !c.action.isMode) with
  | [] => next
  | service::_ =>
    match next with
    | none => some service
    | some c => if service.instant zone < c.instant zone then some service else some c

/-- The explicit context of the resolver: the override, the profile and its id. -/
structure PolicyContext where
  modeOverride : ModeOverride
  profile : Option Profile
  profileId : Option ℤ

/-- `_compute_effective_policy_from_context`. -/
def computeEffectivePolicyFromContext (ip : String) (ctx : PolicyContext) (policyAt : PolicyAt)
    (usage : Option QuotaUsage) (supported : Option (List String)) :
    Except StoreError EffectivePolicy := do
  let catalog := policyGroupCatalog rt t
  let groupKeys := catalog.map Prod.fst
  let profileMode := (ctx.profile.map fun p => p.desiredMode).getD .normal
  let (baseMode,baseSource) := match ctx.modeOverride with
    | .mode m => (m,"device override")
    | .inherit => (profileMode,match ctx.profile with
      | some p => "profile: " ++ p.name
      | none => "default")
  let bandwidth := (ctx.profile.map fun p => p.bandwidthPreset).getD "normal"
  let some preset := t.bandwidthPresets.find? fun p => p.key=bandwidth
    | .error (.valueError
        s!"Bandwidth preset '{bandwidth}' referenced by {ip} does not exist")
  let baseBlocked := sortedSet ((ctx.profile.map fun p => p.blockedServices).getD [])
  let conflicts := match ctx.modeOverride,ctx.profile with
    | .mode m,some p =>
      if m=p.desiredMode then []
      else ["Device override " ++ upper m.text ++ " overrides profile " ++
        upper p.desiredMode.text]
    | _,_ => []
  let (zone,timezoneName) ← policyZone rt t
  let (moment,resolution) ← normalizePolicyDatetime zone policyAt
  let regular ← resolveRegularSchedule zone rt t ip ctx.profileId moment
  let exception ← matchingException t ip moment.day ctx.profileId
  let decision ← decideMode t zone moment regular baseMode baseSource exception
  let overrides := serviceOverrides zone groupKeys regular.services
  let requestedBlocked := overrides.foldl (fun keys o => match o.state with
    | .block => o.service::keys
    | .allow => keys.filter fun k => k≠o.service) baseBlocked
  let next ← match exception with
    | none => pure decision.next
    | some _ => do
      let future ← scheduleOccurrences zone rt t ip ctx.profileId moment true
      pure (nextWithServices zone decision.next future)
  let supported := supported.getD (routerosSupportedServiceKeys rt t)
  let expanded := expandPolicyKeys rt requestedBlocked supported catalog
  let blocked := (overrides.filter fun o => !o.policyGroup).foldl (fun keys o =>
    match o.state with
    | .block => o.service::keys
    | .allow => keys.filter fun k => k≠o.service) expanded.effectiveServices
  let quota := evaluateQuotaState rt t ctx.profile decision.mode blocked usage catalog
  let quotaGroups := quota.state.activeServiceBlocks.filter fun k => k ∈ groupKeys
  let serviceNames := (listServices t).map fun s => (s.key,s.name)
  pure
    { mode := quota.mode
      modeSource := quota.source.getD decision.source
      baseMode := baseMode
      baseModeSource := baseSource
      bandwidthPreset := bandwidth
      bandwidthName := preset.name
      bandwidthUpload := preset.upload
      bandwidthDownload := preset.download
      blockedServices := sortedSet quota.blocked
      requestedBlockedServices := expanded.requested
      blockedPolicyGroups := expanded.groups
      policyGroupStates :=
        policyGroupStates rt expanded.groups quota.blocked quotaGroups catalog serviceNames
      unsupportedPolicyKeys := expanded.unsupported
      unsupportedPolicyGroupMembers := expanded.unsupportedGroupMembers
      baseBlockedServices := baseBlocked
      scheduledServiceOverrides := overrides
      scheduleActive := exception.isSome || regular.mode.isSome || !overrides.isEmpty
      scheduleReason := decision.reason
      activeDateException := exception.map fun e =>
        { row := e,
          templateName := match e.mode with
            | .template id =>
              (t.scheduleTemplates.find? fun s => s.id=id).map ScheduleTemplate.name
            | _ => none,
          specificity := e.target.specificity }
      nextPolicyAction := next.map (formatPolicyAction zone)
      policyTimezone := timezoneName
      policyAt := zone.isoMinutes moment
      policyTimeResolution := resolution
      quotaState := quota.state
      modeBeforeQuota := decision.mode
      modeSourceBeforeQuota := decision.source
      quotaActive := quota.state.active
      conflicts := conflicts }

/-- The stored profile id that counts as one: `if profile_id`. -/
def profileOf (id : Option ℤ) : Option Profile :=
  match id with
  | some p => if p=0 then none else getProfile t p
  | none => none

/-- `compute_effective_policy`. -/
def computeEffectivePolicy (ip : String) (policyAt : PolicyAt) (usage : Option QuotaUsage)
    (supported : Option (List String)) : Except StoreError EffectivePolicy :=
  let cfg := (devicePolicy t ip).getD { ip := some ip }
  computeEffectivePolicyFromContext rt t ip
    { modeOverride := cfg.modeOverride, profile := profileOf t (cfg.profileId.map Subtype.val),
      profileId := cfg.profileId.map Subtype.val } policyAt usage supported

end Compute
end ZenControl
