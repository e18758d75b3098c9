import ZenControl.Router.Enforcement

/-! Temporary NORMAL access of a device: a scheduler on RouterOS runs a restore script once. The
reader takes a scheduler that has run or is disabled, or a script without a scheduler, for stale
and removes it. -/
namespace ZenControl.Router
open Calls

/-- `_parse_device_temp_comment`; a later part overrides an earlier one of its key. -/
def parseDeviceTempComment (comment : String) : List (String × String) :=
  match (splitChars (fun c => c= '|') comment.toList).map String.ofList with
  | "MC"::"TEMP_DEVICE"::address::part::parts =>
    ("address",address)::((part::parts).filterMap fun part =>
      (cutAt '=' part).map fun kv => (strip kv.1,strip kv.2))
  | _ => []

/-- `metadata.get(key)`. -/
def metadataGet (metadata : List (String × String)) (key : String) : Option String :=
  metadata.reverse.lookup key

/-- The reply of `get_device_temporary_access`. -/
structure TemporaryAccess where
  active : Bool
  address : Ipv4
  expired : Bool := false
  isDisabled : Bool := false
  minutes : ℤ := 0
  restoreMode : Option String := none
  restoreTime : String := ""
  startedAt : Option String := none
  reference : Option String := none
  deriving DecidableEq

def schedulersOf (address : Ipv4) : RouterProg (List (ℕ × Scheduler)) :=
  entries .scheduler fun s => s.name=address.deviceTempSchedulerName

def scriptsOf (address : Ipv4) : RouterProg (List (ℕ × Script)) :=
  entries .script fun s => s.name=address.deviceTempScriptName

/-- `_cleanup_device_temp_resources`. -/
def cleanupDeviceTempResources (address : Ipv4) : RouterProg Unit :=
  (removeFound .scheduler fun s => s.name=address.deviceTempSchedulerName).bind fun _ =>
  removeFound .script fun s => s.name=address.deviceTempScriptName

def modeOfText (text : String) : Option Mode :=
  [Mode.normal,.slow,.blocked].find? fun m => m.text=text

/-- What the reader concludes from the schedulers and scripts of a device. -/
inductive TemporaryReading
  | failed (message : String)
  | orphans (scripts : List (ℕ × Script)) (reply : TemporaryAccess)
  | stale (reply : TemporaryAccess)
  | active (reply : TemporaryAccess)

/-- The start time of a scheduler, as the replies show it. -/
def restoreTime (s : Scheduler) : String :=
  strip (s.startDate ++ " " ++ clip s.startTime 8)

/-- `get_device_temporary_access`, between its readings and its cleanup. -/
def temporaryReading (address : Ipv4) (schedulers : List (ℕ × Scheduler))
    (scripts : List (ℕ × Script)) : TemporaryReading :=
  let schedulerName := address.deviceTempSchedulerName
  let scriptName := address.deviceTempScriptName
  if 1 < schedulers.length then
    .failed s!"Expected at most one {schedulerName} scheduler, found {schedulers.length}"
  else if 1 < scripts.length then
    .failed s!"Expected at most one {scriptName} script, found {scripts.length}"
  else match schedulers with
    | [] => .orphans scripts { active := false, address := address }
    | (_,entry)::_ =>
      let metadata := parseDeviceTempComment entry.comment
      let owner := (metadataGet metadata "address").getD ""
      if owner≠"" ∧ owner≠address.text then
        .failed s!"{schedulerName} metadata belongs to {owner}, not {address.text}"
      else
        let restoreMode := nocase (orElse ((metadataGet metadata "restore").getD "") "unknown")
        let minutes := (pyInt ((metadataGet metadata "minutes").getD "")).getD 0
        let reply : TemporaryAccess :=
          { active := false, address := address, restoreMode := some restoreMode,
            reference := metadataGet metadata "reference" }
        if 0 < entry.runCount then
          .stale { reply with expired := true, restoreTime := restoreTime entry }
        else if entry.disabled then .stale { reply with isDisabled := true }
        else if (modeOfText restoreMode).isNone then
          .failed s!"{schedulerName} has invalid restore mode '{restoreMode}'"
        else if scripts.length≠1 then
          .failed s!"Active {schedulerName} requires exactly one {scriptName} restore script"
        else .active { reply with
          active := true
          minutes := minutes
          restoreTime := restoreTime entry
          startedAt := metadataGet metadata "started" }

/-- `get_device_temporary_access`. -/
def getDeviceTemporaryAccess (address : Ipv4) : RouterProg TemporaryAccess :=
  connect.bind fun _ => explained s!"Unable to read temporary access for {address.text}" <|
    (validateRestrictedDevice address).bind fun _ =>
    (schedulersOf address).bind fun schedulers =>
    (scriptsOf address).bind fun scripts =>
      match temporaryReading address schedulers scripts with
      | .failed message => .raise (.router message)
      | .orphans scripts reply =>
        (Prog.forEach scripts fun s => remove .script s.1).bind fun _ => .ret reply
      | .stale reply => (cleanupDeviceTempResources address).bind fun _ => .ret reply
      | .active reply => .ret reply

end ZenControl.Router
