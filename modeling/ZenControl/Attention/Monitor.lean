import ZenControl.Attention.Operations

/-! The incident monitor. A cycle reads five families of sources, records a signal for every
condition that holds in what it read, and then lets the sources it has scanned clear the
incidents it did not record. -/
namespace ZenControl.Attention
open Rows

/-- What the monitor takes from Python: `str.upper` and the text of an exception. -/
structure MonitorEnv extends Platform where
  upper : String → String
  describe : StoreError → String

section Evidence

/-- A check of `get_security_posture`. -/
structure PostureCheck where
  key : Option String := none
  name : Option String := none
  severity : String := ""
  status : String := ""
  deriving DecidableEq, Repr

/-- `last` of the reconciler's `snapshot`. -/
structure LastCycle where
  result : String := ""
  summary : String := ""
  failures : List String := []
  deriving DecidableEq, Repr

/-- What the monitor reads of the reconciler's `snapshot`. -/
structure ReconcilerSnapshot where
  holdActive : Bool := false
  consecutiveFailures : ℤ := 0
  holdUntil : Option String := none
  last : LastCycle := {}
  deriving DecidableEq, Repr

/-- What the monitor reads of `readiness`. -/
structure Readiness where
  ok : Bool
  issues : List String := []
  deriving DecidableEq, Repr

/-- A device of `get_live_devices`. -/
structure MonitoredDevice where
  ip : String := ""
  address : String := ""
  deriving DecidableEq, Repr

/-- `str(item.get("ip") or item.get("address") or "")`. -/
def MonitoredDevice.text (device : MonitoredDevice) : String := orElse device.ip device.address

/-- A device of `summarize_bypass_evidence`. -/
structure BypassDevice where
  clientIp : String := ""
  status : String := ""
  score : ℤ := 0
  signals : ℤ := 0
  flows : ℤ := 0
  categories : List String := []
  deriving DecidableEq, Repr

/-- `daily` of a quota state; `percent` is the text that `:.1f` writes. -/
structure DailyQuota where
  exhausted : Bool := false
  warning : Bool := false
  usedHuman : String := "0 B"
  limitMb : ℤ := 0
  percent : String := "0.0"
  action : String := ""
  deriving DecidableEq, Repr

/-- One of the `services` of a quota state. -/
structure ServiceQuota where
  key : String := ""
  name : String := ""
  exhausted : Bool := false
  warning : Bool := false
  usedHuman : String := "0 B"
  limitMb : ℤ := 0
  percent : String := "0.0"
  deriving DecidableEq, Repr

/-- `quota_state` of an effective policy. -/
structure QuotaState where
  configured : Bool := false
  enabled : Bool := false
  available : Bool := false
  telemetryError : String := ""
  daily : DailyQuota := {}
  services : List ServiceQuota := []
  deriving DecidableEq, Repr

end Evidence

section Signals

/-- The arguments of `_record_signal`. -/
structure Signal where
  source : String
  fingerprint : String
  severity : String
  title : String
  detail : String
  subject : String
  deriving DecidableEq, Repr

/-- The call of `upsert_incident` that records a signal. -/
def Signal.args (signal : Signal) : IncidentArgs :=
  { fingerprint := signal.fingerprint, source := signal.source, severity := signal.severity,
    title := signal.title, detail := signal.detail, subject := signal.subject,
    actor := "system:incident-monitor" }

/-- `", ".join(item.get("name", item.get("key", "unknown")) for item in items[:8])`. -/
def checkNames (items : List PostureCheck) : String :=
  ", ".intercalate ((items.take 8).map fun item => item.name.getD (item.key.getD "unknown"))

/-- The signals of the security authority. -/
def securitySignals (checks : List PostureCheck) : List Signal :=
  let failed := checks.filter fun item => item.severity="critical" && item.status="fail"
  let warned := checks.filter fun item => item.status="warn"
  (if failed.isEmpty then [] else [{
    source := "security", fingerprint := "security:enforcement-authority",
    severity := "critical", title := "RouterOS enforcement authority degraded",
    detail := "ENFORCE write gate is CLOSED. Critical checks: " ++ checkNames failed,
    subject := "RouterOS" }]) ++
  if warned.isEmpty then [] else [{
    source := "security", fingerprint := "security:posture-warnings", severity := "warning",
    title := "RouterOS security posture has warnings",
    detail := "Warning checks: " ++ checkNames warned, subject := "RouterOS" }]

/-- The signals of the reconciler and its circuit breaker. -/
def reconcilerSignals (rec : ReconcilerSnapshot) : List Signal :=
  (if rec.holdActive then [{
    source := "reconciler", fingerprint := "reconciler:cooldown-hold", severity := "critical",
    title := "Automatic reconciliation is in cooldown hold",
    detail := "Consecutive failures=" ++ toString rec.consecutiveFailures ++ "; hold_until=" ++
      orElse (rec.holdUntil.getD "") "unknown",
    subject := "Auto reconciler" }]
  else []) ++
  if rec.last.result="security_hold" then [{
    source := "reconciler", fingerprint := "reconciler:security-hold", severity := "critical",
    title := "Automatic enforcement is security-held",
    detail := orElse rec.last.summary "The security gate closed automatic enforcement.",
    subject := "Auto reconciler" }]
  else if rec.last.result="failed" then [{
    source := "reconciler", fingerprint := "reconciler:last-cycle-failed",
    severity := "warning", title := "Automatic reconciliation cycle failed",
    detail := orElse rec.last.summary (clip ("; ".intercalate rec.last.failures) 1200),
    subject := "Auto reconciler" }]
  else []

/-- The signal of the overall readiness. -/
def operationsSignals (ready : Readiness) : List Signal :=
  let nonSecurity := ready.issues.filter fun item => item≠"RouterOS enforcement posture"
  if ready.ok then []
  else if nonSecurity.isEmpty then []
  else [{
    source := "operations", fingerprint := "operations:not-ready", severity := "critical",
    title := "Controller readiness is degraded",
    detail := "Readiness failed: " ++ ", ".intercalate nonSecurity,
    subject := "ZEN Control" }]

/-- `_BYPASS_RANK`. -/
def bypassRank (status : String) : Option ℕ :=
  if status="clear" then some 0
  else if status="watch" then some 1
  else if status="elevated" then some 2
  else if status="high" then some 3
  else none

/-- The signals of the telemetry-backed bypass risk. -/
def bypassSignals (env : MonitorEnv) (minStatus : String) (devices : List BypassDevice) :
    List Signal :=
  (devices.filter fun item => decide ((bypassRank minStatus).getD 0 ≤
      (bypassRank (orElse item.status "clear")).getD 0)).map fun item =>
    let status := orElse item.status "clear"
    let ip := orElse item.clientIp "unknown"
    { source := "bypass", fingerprint := "bypass:" ++ ip,
      severity := if status="high" then "critical" else "warning",
      title := "Managed-device bypass risk is " ++ env.upper status,
      detail := "Risk score=" ++ toString item.score ++ "; signals=" ++ toString item.signals ++
        "; events=" ++ toString item.flows ++ "; categories=" ++
        orElse (", ".intercalate item.categories) "network" ++
        ". This is evidence-led visibility, not protocol proof.",
      subject := ip }

/-- The signal of bypass evidence that could not be evaluated. -/
def bypassUnavailable (error : String) : Signal :=
  { source := "telemetry", fingerprint := "telemetry:bypass-unavailable",
    severity := "warning", title := "Bypass telemetry is unavailable",
    detail := "Bypass evidence could not be evaluated: " ++ error, subject := "Telemetry" }

/-- The signal of the daily quota of a device. -/
def dailySignals (env : MonitorEnv) (ip : String) (daily : DailyQuota) : List Signal :=
  let signal (title detail : String) : Signal :=
    { source := "quota:" ++ ip, fingerprint := "quota:" ++ ip ++ ":daily",
      severity := "warning", title := title, detail := detail, subject := ip }
  if daily.exhausted then
    [signal "Daily data quota exhausted"
      (daily.usedHuman ++ " used; limit=" ++ toString daily.limitMb ++ " MiB; action=" ++
        env.upper (orElse daily.action "blocked"))]
  else if daily.warning then
    [signal "Daily data quota nearing limit"
      (daily.percent ++ "% used; " ++ daily.usedHuman ++ " of " ++ toString daily.limitMb ++
        " MiB")]
  else []

/-- The signal of a service quota that is exhausted or near its limit. -/
def serviceSignal (ip : String) (service : ServiceQuota) : Signal :=
  let key := orElse service.key "unknown"
  { source := "quota:" ++ ip, fingerprint := "quota:" ++ ip ++ ":service:" ++ key,
    severity := "warning",
    title := orElse service.name key ++
      if service.exhausted then " quota exhausted" else " quota nearing limit",
    detail := service.percent ++ "% used; " ++ service.usedHuman ++ " of " ++
      toString service.limitMb ++ " MiB",
    subject := ip }

/-- The signals of the quotas of a device; a quota engine that is disabled is none. -/
def quotaSignals (env : MonitorEnv) (ip : String) (quota : QuotaState) : List Signal :=
  if quota.configured=false then []
  else if quota.enabled && !quota.available then [{
    source := "quota:" ++ ip, fingerprint := "quota:" ++ ip ++ ":telemetry",
    severity := "warning", title := "Quota telemetry is unavailable",
    detail := orElse quota.telemetryError "Quota accounting is fail-open.", subject := ip }]
  else dailySignals env ip quota.daily ++
    (quota.services.filter fun service => service.warning || service.exhausted).map
      (serviceSignal ip)

end Signals

section Cycle

/-- A source as a cycle finds it: what its read returns or the text of what it raises, and how
the `k`-th `upsert_incident` of its block ends, raised or run at a clock. -/
structure Reading (α : Type) where
  read : Except String α
  upserts : ℕ → Except String Host

/-- What `run_cycle` reads of `settings`. -/
structure MonitorSettings where
  enabled : Bool := true
  bypassMinStatus : String := "elevated"
  deriving DecidableEq, Repr

/-- `settings` of the monitor, from the stored settings. -/
def monitorSettings (p : Platform) (raw : String → Option String) : MonitorSettings :=
  let threshold := p.lower (orElse ((raw "incident_bypass_min_status").getD "elevated") "elevated")
  { enabled := (raw "incident_monitor_enabled").getD "1"="1"
    bypassMinStatus := if threshold="watch" ∨ threshold="elevated" ∨ threshold="high"
      then threshold else "elevated" }

/-- Everything a cycle meets; `quotas` goes by the place of the device, `telemetry` is the
upsert of the handler of the bypass block. -/
structure CycleInputs where
  busy : Bool := false
  trigger : String := "scheduled"
  settings : Except String (String → Option String)
  security : Reading (List PostureCheck)
  reconciler : Reading ReconcilerSnapshot
  operations : Reading Readiness
  devices : Except String (List MonitoredDevice)
  bypass : Reading (List BypassDevice)
  telemetry : Except String Host
  quotas : ℕ → Reading QuotaState
  resolutions : String → Host

structure ScanStats where
  opened : ℕ := 0
  reopened : ℕ := 0
  updated : ℕ := 0
  resolved : ℕ := 0
  deriving DecidableEq, Repr

/-- `_count_action`. -/
def ScanStats.count (stats : ScanStats) : IncidentAction → ScanStats
  | .opened => { stats with opened := stats.opened+1 }
  | .reopened => { stats with reopened := stats.reopened+1 }
  | .updated | .severityChanged => { stats with updated := stats.updated+1 }
  | .unchanged | .suppressed => stats

/-- The local state of a cycle with the tables. `cleared` are the incidents that the cycle
resolved, as they stood before. -/
structure Scan where
  desk : Desk
  active : List (String × String) := []
  scanned : List String := []
  stats : ScanStats := {}
  errors : List String := []
  audits : List (String × String) := []
  cleared : List Incident := []

namespace Scan

/-- `active.get(source, set())`. -/
def activeOf (scan : Scan) (source : String) : List String :=
  (scan.active.filter fun e => e.1=source).map Prod.snd

/-- `errors.append(f"{label}: {exc}")`. -/
def failed (scan : Scan) (label error : String) : Scan :=
  { scan with errors := scan.errors ++ [label ++ ": " ++ error] }

/-- The audit record of `_record_signal`. -/
def audited (scan : Scan) (signal : Signal) (action : IncidentAction) : Scan :=
  if action.loud then
    { scan with
      audits := scan.audits ++
        [("INCIDENT_" ++ if action=.opened then "OPENED" else "UPDATED",
          signal.severity ++ " " ++ signal.fingerprint ++ ": " ++ signal.title)] }
  else scan

end Scan

/-- `_record_signal`: the fingerprint counts as active before the upsert. -/
def recordSignal (env : MonitorEnv) (upsert : Except String Host) (signal : Signal)
    (scan : Scan) : Except String IncidentAction × Scan :=
  let scan := { scan with active := scan.active ++ [(signal.source,signal.fingerprint)] }
  match upsert with
  | .error e => (.error e,scan)
  | .ok host =>
    match upsertIncident env.toPlatform host signal.args scan.desk with
    | .error e => (.error (env.describe e),scan)
    | .ok (reply,desk) => (.ok reply.action,{ scan with desk := desk }.audited signal reply.action)

/-- Record the signals of a block until one of them raises. -/
def recordSignals (env : MonitorEnv) : List Signal → (ℕ → Except String Host) → Scan →
    Option String × Scan
  | [],_,scan => (none,scan)
  | signal::rest,upserts,scan =>
    match recordSignal env (upserts 0) signal scan with
    | (.error e,scan) => (some e,scan)
    | (.ok action,scan) =>
      recordSignals env rest (fun k => upserts (k+1))
        { scan with stats := scan.stats.count action }

/-- A block that reads one source: the source counts as scanned once its read returns. -/
def scanSource {α : Type} (env : MonitorEnv) (label source : String)
    (signals : α → List Signal) (reading : Reading α) (scan : Scan) : Scan :=
  match reading.read with
  | .error e => scan.failed label e
  | .ok evidence =>
    match recordSignals env (signals evidence) reading.upserts
        { scan with scanned := scan.scanned ++ [source] } with
    | (none,scan) => scan
    | (some e,scan) => scan.failed label e

def scanSecurity (env : MonitorEnv) (inputs : CycleInputs) : Scan → Scan :=
  scanSource env "security" "security" securitySignals inputs.security

def scanReconciler (env : MonitorEnv) (inputs : CycleInputs) : Scan → Scan :=
  scanSource env "reconciler" "reconciler" reconcilerSignals inputs.reconciler

def scanOperations (env : MonitorEnv) (inputs : CycleInputs) : Scan → Scan :=
  scanSource env "operations" "operations" operationsSignals inputs.operations

/-- The evidence of the bypass block, up to its handler. -/
def scanBypassEvidence (env : MonitorEnv) (minStatus : String) (reading : Reading (List BypassDevice))
    (scan : Scan) : Option String × Scan :=
  match reading.read with
  | .error e => (some e,scan)
  | .ok devices =>
    match recordSignals env (bypassSignals env minStatus devices) reading.upserts
        { scan with scanned := scan.scanned ++ ["bypass"] } with
    | (some e,scan) => (some e,scan)
    | (none,scan) => (none,{ scan with scanned := scan.scanned ++ ["telemetry"] })

/-- The bypass block; what its handler raises ends the cycle. -/
def scanBypass (env : MonitorEnv) (minStatus : String) (managed : List String)
    (inputs : CycleInputs) (scan : Scan) : Option String × Scan :=
  if managed.isEmpty then (none,scan)
  else match scanBypassEvidence env minStatus inputs.bypass scan with
    | (none,scan) => (none,scan)
    | (some e,scan) =>
      recordSignals env [bypassUnavailable e] (fun _ => inputs.telemetry)
        (scan.failed "telemetry" e)

/-- The quota loop over the texts of the devices. -/
def scanQuotas (env : MonitorEnv) : List String → (ℕ → Reading QuotaState) → Scan → Scan
  | [],_,scan => scan
  | ip::ips,readings,scan =>
    scanQuotas env ips (fun k => readings (k+1))
      (if ip="" then scan
      else scanSource env ("quota " ++ ip) ("quota:" ++ ip) (quotaSignals env ip) (readings 0)
        scan)

/-- The devices, none when their read raises. -/
def CycleInputs.ips (inputs : CycleInputs) : List String :=
  match inputs.devices with
  | .ok devices => devices.map MonitoredDevice.text
  | .error _ => []

/-- The read of the devices. -/
def scanDevices (inputs : CycleInputs) (scan : Scan) : Scan :=
  match inputs.devices with
  | .ok _ => scan
  | .error e => scan.failed "devices" e

/-- The scans of a cycle, up to what ends it. -/
def scanSources (env : MonitorEnv) (settings : MonitorSettings) (inputs : CycleInputs)
    (scan : Scan) : Option String × Scan :=
  let scan := scanOperations env inputs (scanReconciler env inputs (scanSecurity env inputs scan))
  let scan := scanDevices inputs scan
  let managed := inputs.ips.filter fun ip => ip≠""
  match scanBypass env settings.bypassMinStatus managed inputs scan with
  | (some e,scan) => (some e,scan)
  | (none,scan) => (none,scanQuotas env inputs.ips inputs.quotas scan)

/-- What the resolution of a source reports. -/
def Scan.resolved (scan : Scan) (ids : List ℕ) (desk : Desk) : Scan :=
  let cleared := ids.filterMap scan.desk.incidents.find
  { scan with
    desk := desk
    stats := { scan.stats with resolved := scan.stats.resolved+ids.length }
    audits := scan.audits ++ cleared.map fun row =>
      ("INCIDENT_AUTO_RESOLVED",row.fingerprint ++ ": signal cleared")
    cleared := scan.cleared ++ cleared }

/-- The resolution loop over the scanned sources. -/
def resolveSources (env : MonitorEnv) (clocks : String → Host) : List String → Scan →
    Option String × Scan
  | [],scan => (none,scan)
  | source::sources,scan =>
    match resolveInactiveIncidents (clocks source) source (scan.activeOf source)
        "system:incident-monitor" scan.desk with
    | .error e => (some (env.describe e),scan)
    | .ok (ids,desk) => resolveSources env clocks sources (scan.resolved ids desk)

/-- `sorted(scanned_sources)`. -/
def Scan.sources (scan : Scan) : List String :=
  scan.scanned.dedup.insertionSort fun a b => ¬ b < a

structure ScanReport where
  result : String
  summary : String
  stats : ScanStats
  errors : List String
  deriving DecidableEq, Repr

/-- The result of a finished cycle. -/
def Scan.report (scan : Scan) : ScanReport :=
  let result := if scan.errors.isEmpty then "ok" else "partial"
  { result := result
    summary := s!"Incident scan {result}: opened={scan.stats.opened} " ++
      s!"reopened={scan.stats.reopened} updated={scan.stats.updated} " ++
      s!"resolved={scan.stats.resolved} errors={scan.errors.length}"
    stats := scan.stats
    errors := scan.errors.take 12 }

inductive CycleOutcome
  | busy
  | disabled
  | raised (error : String)
  | finished (report : ScanReport)
  deriving DecidableEq, Repr

/-- `run_cycle`, with the state it leaves. -/
def runCycle (env : MonitorEnv) (inputs : CycleInputs) (desk : Desk) : CycleOutcome × Scan :=
  let scan : Scan := { desk := desk }
  if inputs.busy then (.busy,scan)
  else match inputs.settings with
    | .error e => (.raised e,scan)
    | .ok raw =>
      let settings := monitorSettings env.toPlatform raw
      if settings.enabled=false ∧ inputs.trigger="scheduled" then (.disabled,scan)
      else match scanSources env settings inputs scan with
        | (some e,scan) => (.raised e,scan)
        | (none,scan) =>
          match resolveSources env inputs.resolutions scan.sources scan with
          | (some e,scan) => (.raised e,scan)
          | (none,scan) => (.finished scan.report,scan)

end Cycle
end ZenControl.Attention
