import ZenControl.Router.Planning

/-! Granting, extending and cancelling temporary NORMAL access. A restore script and a scheduler
that runs it once stand on RouterOS before the device is switched, so that it falls back without
the program. -/
namespace ZenControl.Router
open Calls

section Source
variable (env : Environment) (address : Ipv4)

/-- The statements of restore scripts. -/
def removeListSource (list : String) : String :=
  ":foreach i in=[/ip firewall address-list find where list=\"" ++ list ++ "\" and address=\"" ++
    address.text ++ "\"] do=\x7b /ip firewall address-list remove $i \x7d;"

def removeQueueSource (name : String) : String :=
  ":foreach i in=[/queue simple find where name=\"" ++ name ++
    "\"] do=\x7b /queue simple remove $i \x7d;"

def ensureBlockSource : String :=
  ":if ([:len [/ip firewall address-list find where list=\"" ++ deviceBlockList ++
    "\" and address=\"" ++ address.text ++ "\"]] = 0) do=\x7b /ip firewall address-list add list=\"" ++
    deviceBlockList ++ "\" address=\"" ++ address.text ++
    "\" comment=\"MC - Temp Restore Block\" \x7d;"

def addSlowQueueSource : String :=
  "/queue simple add name=\"" ++ address.deviceSlowQueueName ++ "\" target=\"" ++ address.text ++
    "/32\" max-limit=\"" ++ env.deviceSlowLimit ++ "\" queue=\"default-small/default-small\" " ++
    "comment=\"MC - Temp Restore Slow\" disabled=no;"

def addSlowEntrySource : String :=
  "/ip firewall address-list add list=\"" ++ deviceSlowList ++ "\" address=\"" ++ address.text ++
    "\" comment=\"MC - Temp Restore Slow\";"

/-- `_device_temp_restore_source`; the slow limit is checked for every mode. -/
def restoreSource (mode : Mode) : Except Failure String :=
  match parseMaxLimit env.deviceSlowLimit with
  | .error e => .error (.router
      s!"Invalid MIKROTIK_DEVICE_SLOW_LIMIT '{env.deviceSlowLimit}': {e}")
  | .ok _ =>
    let removeBlock := removeListSource address deviceBlockList
    let removeSlowList := removeListSource address deviceSlowList
    let removeSlowQueue := removeQueueSource address.deviceSlowQueueName
    let removeBandwidthQueue := removeQueueSource address.deviceBandwidthQueueName
    .ok <| match mode with
    | .normal => removeBlock ++ removeSlowList ++ removeSlowQueue
    -- BLOCKED is established before SLOW is released
    | .blocked => ensureBlockSource address ++ removeSlowList ++ removeSlowQueue ++
        removeBandwidthQueue
    -- SLOW is built fully before BLOCKED is released
    | .slow => removeSlowQueue ++ addSlowQueueSource env address ++ removeSlowList ++
        addSlowEntrySource address ++ removeBandwidthQueue ++ removeBlock

end Source

/-- The texts that the clock gives for a grant: when it started, and when the scheduler runs. -/
structure Expiry where
  started : String
  startDate : String
  startTime : String
  deriving DecidableEq, Repr

/-- `re.fullmatch(r"[A-Za-z0-9_.:-]+", reference)` of at most 80 characters. -/
def isReference (reference : String) : Bool :=
  0 < reference.length && reference.length ≤ 80 && reference.toList.all fun c =>
    ('A' ≤ c && c ≤ 'Z') || ('a' ≤ c && c ≤ 'z') || ('0' ≤ c && c ≤ '9') ||
      c= '_' || c= '.' || c= ':' || c= '-'

section Grant
variable (env : Environment) (address : Ipv4) (expiry : Expiry)

/-- `temp_comment`. -/
def tempComment (mode : Mode) (minutes : ℕ) (reference : String) : String :=
  let value := "MC|TEMP_DEVICE|" ++ address.text ++ "|restore=" ++ mode.text ++ "|minutes=" ++
    toString minutes ++ "|started=" ++ expiry.started
  if reference="" then value else value ++ "|reference=" ++ reference

/-- The fields of the restore script. -/
def restoreScript (source : String) : Script where
  name := address.deviceTempScriptName
  comment := "MC temporary restore for " ++ address.text
  source := source

/-- The fields of the scheduler. -/
def restoreScheduler (comment : String) : Scheduler where
  name := address.deviceTempSchedulerName
  comment := comment
  startDate := expiry.startDate
  startTime := expiry.startTime
  onEvent := address.deviceTempScriptName

/-- Extend in place: the fail-safe that is there is never removed first. -/
def extendFailSafe (source comment : String) : RouterProg Unit :=
  (schedulersOf address).bind fun schedulers =>
  (scriptsOf address).bind fun scripts =>
    match schedulers, scripts with
    | [(scheduler,_)], [(script,_)] =>
      (set .script script fun s => { restoreScript address source with name := s.name }).bind
        fun _ => set .scheduler scheduler fun s =>
          { restoreScheduler address expiry comment with name := s.name, runCount := s.runCount }
    | _, _ => .raise (.router (s!"Cannot safely extend temporary access for {address.text}: " ++
        "the existing fail-safe contract is incomplete"))

/-- A new override may remove stale artefacts first. -/
def createFailSafe (source comment : String) : RouterProg Unit :=
  (cleanupDeviceTempResources address).bind fun _ =>
  (add .script (restoreScript address source)).bind fun _ =>
  add .scheduler (restoreScheduler address expiry comment)

/-- Whatever fails in a cleanup behind a failure is ignored. -/
def quietly (p : RouterProg Unit) : RouterProg Unit := p.rescue fun _ => .ret ()

/-- Write the fail-safe. -/
def writeFailSafe (extends_ : Bool) (source comment : String) : RouterProg Unit :=
  Prog.rescue
    (validateDeviceBlockPrimitive.bind fun _ =>
      (validateRestrictedDevice address).bind fun _ =>
      if extends_ then extendFailSafe address expiry source comment
      else createFailSafe address expiry source comment) fun
    | .api m =>
      (if extends_ then .ret () else quietly (cleanupDeviceTempResources address)).bind fun _ =>
        .raise (.router ("Unable to " ++ (if extends_ then "extend" else "create") ++
          s!" temporary access fail-safe for {address.text}: {m}"))
    | e => .raise e

/-- The reference becomes recovery evidence only after NORMAL has been written and verified. -/
def bindReference (comment : String) : RouterProg Unit :=
  connect.bind fun _ =>
  explained (s!"Temporary access was granted for {address.text}, " ++
    "but binding recovery reference failed") <|
    (schedulersOf address).bind fun found =>
      match found with
      | [(id,_)] => set .scheduler id fun s => { s with comment := comment }
      | found => .raise (.router (s!"Temporary access was granted for {address.text}, but its " ++
          s!"recovery reference could not be bound because {found.length} schedulers were found"))

/-- What `set_device_temporary_normal` returns. -/
structure TemporaryGrant where
  access : TemporaryAccess
  extended : Bool
  previousMode : Mode
  restoreMode : Mode
  reference : Option String

/-- `set_device_temporary_normal`. -/
def setDeviceTemporaryNormal (minutes : ℕ) (description : String) (restoreMode : Option String)
    (reference : String) : RouterProg TemporaryGrant :=
  let requested := restoreMode.map fun mode => nocase (strip mode)
  let description := clip (strip description) 40
  let reference := strip reference
  serialized <|
    if !([15,30,60].contains minutes) then
      .raise (.router "Temporary access supports 15, 30 or 60 minutes")
    else if requested.any fun mode => (modeOfText mode).isNone then
      .raise (.router "Invalid restore mode")
    else if reference≠"" ∧ !isReference reference then
      .raise (.router "Temporary access reference contains invalid characters")
    else (requirePolicyWriteGate env).bind fun _ =>
      (getDeviceTemporaryAccess address).bind fun existing =>
      (getDeviceEnforcement address).bind fun current =>
        match current.mode with
        | none => .raise (.router
            "Cannot start temporary access from invalid device state 'invalid'")
        | some currentMode =>
          let restore := if existing.active then existing.restoreMode.bind modeOfText
            else some ((requested.bind modeOfText).getD currentMode)
          match restore with
          | none => .raise (.router
              ("Invalid temporary restore mode '" ++ existing.restoreMode.getD "None" ++ "'"))
          | some mode =>
            match restoreSource env address mode with
            | .error e => .raise e
            | .ok source =>
              let kept := if existing.active then strip (existing.reference.getD "") else ""
              connect.bind fun _ =>
              (writeFailSafe address expiry existing.active source
                (tempComment address expiry mode minutes kept)).bind fun _ =>
              (Prog.rescue (setDeviceMode env address (orElse description "temporary access")
                .normal) fun e =>
                -- an extension keeps the fail-safe of the override that goes on
                (if existing.active then .ret () else quietly (connect.bind fun _ =>
                  cleanupDeviceTempResources address)).bind fun _ => .raise e).bind fun _ =>
              (if reference≠"" ∧ !existing.active then
                (bindReference address (tempComment address expiry mode minutes reference)).bind
                  fun _ => .ret reference
              else .ret kept).bind fun bound =>
              (getDeviceTemporaryAccess address).bind fun result =>
                if !result.active then .raise (.router
                  s!"Temporary access scheduler did not become active for {address.text}")
                else .ret
                  { access := result
                    extended := existing.active
                    previousMode := currentMode
                    restoreMode := mode
                    reference := if bound="" then none else some bound }

end Grant

section Cancel
variable (env : Environment) (address : Ipv4)

/-- What `cancel_device_temporary_access` returns. -/
structure CancelReply where
  removed : Bool
  restored : Bool
  restoreMode : Option String
  deriving DecidableEq, Repr

/-- Disable the scheduler, so that it cannot race a cancellation. -/
def disableScheduler : RouterProg Unit :=
  connect.bind fun _ => explained s!"Unable to disable temporary scheduler for {address.text}" <|
    (schedulersOf address).bind fun found =>
      match found with
      | [(id,_)] => set .scheduler id fun s => { s with disabled := true }
      | found => .raise (.router (s!"Expected exactly one active " ++
          s!"{address.deviceTempSchedulerName} scheduler, found {found.length}"))

/-- Enable the scheduler again where a cancellation failed. -/
def enableScheduler : RouterProg Unit :=
  connect.bind fun _ =>
  (schedulersOf address).bind fun found =>
  Prog.forEach found fun r => set .scheduler r.1 fun s => { s with disabled := false }

/-- The restore of `cancel_device_temporary_access`. -/
def restoreNow (mode : Option String) : RouterProg Unit :=
  Prog.rescue
    (match mode.bind modeOfText with
      | some mode => (setDeviceMode env address "temporary access cancelled" mode).bind fun _ =>
          .ret ()
      | none => .raise (.router ("Invalid device mode '" ++ mode.getD "None" ++
          "'. Expected normal, slow or blocked.")))
    fun e => (quietly (enableScheduler address)).bind fun _ => .raise e

/-- The last step of a cancellation. -/
def removeFailSafe : RouterProg Unit :=
  connect.bind fun _ => (cleanupDeviceTempResources address).rescue fun e =>
    .raise (.router
      s!"Temporary mode restored for {address.text}, but cleanup failed: {e.message}")

/-- `cancel_device_temporary_access`. -/
def cancelDeviceTemporaryAccess (restore : Bool) : RouterProg CancelReply :=
  serialized <|
    (getDeviceTemporaryAccess address).bind fun state =>
      if !state.active then .ret ⟨false,false,state.restoreMode⟩
      else (disableScheduler address).bind fun _ =>
        (if restore then restoreNow env address state.restoreMode else .ret ()).bind fun _ =>
        (removeFailSafe address).bind fun _ => .ret ⟨true,restore,state.restoreMode⟩

/-- `coherent_router_mutation`. -/
def coherentMutation {α : Type} (body : RouterProg α) : RouterProg α :=
  serialized (coherently body)

/-- `/devices/enforcement`: explicit control of the mode supersedes an outstanding override. -/
def setDeviceEnforcement (action : Mode) : RouterProg Enforcement :=
  coherentMutation <|
    (getDeviceEnforcement address).bind fun _ =>
    (getDeviceTemporaryAccess address).bind fun temporary =>
    (if temporary.active then (cancelDeviceTemporaryAccess env address false).bind fun _ => .ret ()
      else .ret ()).bind fun _ =>
    setDeviceMode env address "UI enforcement" action

end Cancel
end ZenControl.Router
