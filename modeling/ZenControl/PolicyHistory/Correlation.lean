import ZenControl.PolicyHistory.Intervals
import ZenControl.Telemetry.ActivityWindow
import ZenControl.Telemetry.Queries
import ZenControl.Telemetry.Usage

/-! The policy correlation report: the intervals of a device's checkpoints are joined with what
was retained of its traffic and its DNS queries in each of them. -/
namespace ZenControl.PolicyHistory
open Rows Telemetry

section Usage

/-- Bytes in all, by direction and by whether a service is known. -/
structure ByteCounts (α : Type) where
  total : α
  download : α
  upload : α
  classified : α
  unclassified : α
  deriving DecidableEq, Repr

def ByteCounts.map {α β : Type} (f : α → β) (c : ByteCounts α) : ByteCounts β where
  total := f c.total
  download := f c.download
  upload := f c.upload
  classified := f c.classified
  unclassified := f c.unclassified

structure DnsCounts where
  queries : ℤ
  classified : ℤ
  unclassified : ℤ
  blocked : ℤ
  uniqueDomains : ℤ
  deriving DecidableEq, Repr

/-- The evidence of an interval. The counts of a source that could not be read are missing. -/
structure IntervalUsage where
  index : ℕ
  bytes : Option (ByteCounts ℤ)
  flows : Option ℤ
  dns : Option DnsCounts
  coverage : CoverageResult
  human : Option (ByteCounts String)
  deriving Repr

/-- `_validate_range`. -/
def validateRange (start stop : ℤ) : Py Unit :=
  if stop ≤ start then .error (.valueError "Activity range end must be after start")
  else if 32*dayUs < stop-start then
    .error (.valueError "Detailed activity ranges are limited to 32 days")
  else .ok ()

/-- The row of the traffic query for one interval: its bytes and its flows. -/
def trafficRow (db : FlowDb) (client : String) (first last : ℤ) : ByteCounts ℤ × ℤ :=
  let within := inDay client first last
  ({ total := bytesWhere db within
     download := bytesWhere db fun key => within key && key.2.2.1=.download
     upload := bytesWhere db fun key => within key && key.2.2.1=.upload
     classified := bytesWhere db fun key => within key && labelled key
     unclassified := bytesWhere db fun key => within key && !labelled key },
   ((db.flow5m.filter fun e => within e.1).map fun e => e.2.flows).sum)

/-- The row of the DNS query for one interval. -/
def dnsRow (rows : List DnsRow) (client : String) (first last : ℤ) : DnsCounts :=
  let within := rows.filter fun r =>
    r.clientIp=client && (first ≤ r.eventTime && r.eventTime < last)
  { queries := within.length
    classified := (within.filter fun r => r.service≠"").length
    unclassified := (within.filter fun r => r.service="").length
    blocked := (within.filter DnsRow.blocked).length
    uniqueDomains := (within.map DnsRow.domain).dedup.length }

variable (rt : Runtime)

/-- The evidence of one interval, from the rows of the queries that succeeded. -/
def intervalUsage (index : ℕ) (traffic : Option (ByteCounts ℤ × ℤ)) (dns : Option DnsCounts) :
    IntervalUsage :=
  let coverage := classificationCoverageResult rt.percentTenths
    (traffic.map fun t => ⟨t.1.total,t.1.classified,t.1.unclassified,0⟩)
    (dns.map fun d => ⟨d.queries,d.classified,d.unclassified,0⟩) []
  let bytes := traffic.map fun t : ByteCounts ℤ × ℤ =>
    { total := coverage.traffic.total
      download := max 0 t.1.download
      upload := max 0 t.1.upload
      classified := coverage.traffic.classified
      unclassified := coverage.traffic.unclassified }
  { index := index, bytes := bytes, flows := traffic.map fun t => max 0 t.2
    dns := dns.map fun d =>
      { queries := coverage.dns.total
        classified := coverage.dns.classified
        unclassified := coverage.dns.unclassified
        blocked := max 0 d.blocked
        uniqueDomains := max 0 d.uniqueDomains }
    coverage := coverage, human := bytes.map (ByteCounts.map rt.formatBytes) }

/-- `policy_interval_usage`, on sources that answer or fail. -/
def policyIntervalUsage (ipAddress : String → Option String) (traffic : Except String FlowDb)
    (dns : Except String (List DnsRow)) (clientIp : String) (intervals : List PolicyInterval) :
    Py (List IntervalUsage) := do
  if (ipAddress clientIp).isNone then
    .error (.valueError (clientIp ++ " does not appear to be an IPv4 or IPv6 address"))
  intervals.forM fun i => validateRange i.start i.stop
  if intervals.isEmpty then pure []
  else if 800 < intervals.length then
    .error (.valueError "Policy correlation is limited to 800 state intervals")
  else
    pure (intervals.zipIdx.map fun e => intervalUsage rt e.2
      (traffic.toOption.map fun db => trafficRow db clientIp e.1.start e.1.stop)
      (dns.toOption.map fun rows => dnsRow rows clientIp e.1.start e.1.stop))

end Usage

section Report

/-- A row of `managed_device_identity`. -/
structure ManagedIdentity where
  identityId : String
  managedSince : ℤ
  currentName : String
  deriving DecidableEq, Repr

/-- The bytes by desired mode. -/
structure ModeBytes where
  normal : ℤ := 0
  slow : ℤ := 0
  blocked : ℤ := 0
  unknown : ℤ := 0
  deriving DecidableEq, Repr

/-- `mode_bytes[mode] += bytes`, where another mode is unknown. -/
def ModeBytes.add (m : ModeBytes) (mode : String) (bytes : ℤ) : ModeBytes :=
  if mode="normal" then { m with normal := m.normal+bytes }
  else if mode="slow" then { m with slow := m.slow+bytes }
  else if mode="blocked" then { m with blocked := m.blocked+bytes }
  else { m with unknown := m.unknown+bytes }

def ModeBytes.sum (m : ModeBytes) : ℤ := m.normal+m.slow+m.blocked+m.unknown

/-- An interval as it is reported, with `routeros_execution_proof` never recorded. -/
structure ReportedInterval where
  index : ℕ
  interval : PolicyInterval
  durationMinutes : ℤ
  localStart : String
  localEnd : String
  usage : Option IntervalUsage
  historicalName : String
  policyEvidenceKind : String

/-- What the loop over the intervals accumulates, with times in microseconds. -/
structure Tally where
  knownTime : ℤ := 0
  identityKnownTime : ℤ := 0
  modeBytes : ModeBytes := {}
  totalBytes : ℤ := 0
  currentIdentityBytes : ℤ := 0
  identityUnprovenBytes : ℤ := 0
  totalDnsBlocked : ℤ := 0
  stateChanges : ℕ := 0
  previousHash : Option String := none
  trafficStatuses : List EvidenceStatus := []
  dnsStatuses : List EvidenceStatus := []
  intervals : List ReportedInterval := []

variable (rt : Runtime) (rounding : Rounding)

/-- `_local`: `strftime("%Y-%m-%d %H:%M")` in a zone, or in UTC where it is unknown. -/
def localText (timezoneName : String) (instant : ℤ) : Py String :=
  if timezoneName="" then
    .error (.valueError "ZoneInfo keys must be normalized relative paths, got: ")
  else
    let wall := match rt.zone timezoneName with
      | some zone => (zone.fromutc instant).wall
      | none => instant
    let (y,m,d) := civil (wall/dayUs)
    .ok (toString y ++ "-" ++ padded 2 m ++ "-" ++ padded 2 d ++ " " ++ hourMinute wall)

/-- `usage_by_index.get(index)`. -/
def usageAt (usage : List IntervalUsage) (index : ℕ) : Option IntervalUsage :=
  (usage.filter fun u => u.index=index).getLast?

/-- `_safe_int(evidence.get("total_bytes"))`. -/
def bytesOf (evidence : Option IntervalUsage) : ℤ :=
  ((evidence.bind IntervalUsage.bytes).map ByteCounts.total).getD 0

def dnsBlockedOf (evidence : Option IntervalUsage) : ℤ :=
  ((evidence.bind IntervalUsage.dns).map DnsCounts.blocked).getD 0

/-- The mode under which the bytes of an interval are counted. -/
def modeOf (i : PolicyInterval) : String :=
  match i.state with
  | some r => rt.lower (orElse r.state.desiredMode "unknown")
  | none => "unknown"

/-- The name that an interval is reported under. -/
def historicalName (deviceIp deviceName : String) (identity : ManagedIdentity)
    (i : PolicyInterval) : String :=
  match i.state with
  | some r => orElse r.deviceName (orElse deviceName deviceIp)
  | none => if i.identityKnown then orElse identity.currentName (orElse deviceName deviceIp) else ""

/-- The counters after one interval. -/
def Tally.count (t : Tally) (i : PolicyInterval) (evidence : Option IntervalUsage)
    (reported : ReportedInterval) : Tally :=
  let duration := max (i.stop-i.start) 0
  let bytes := bytesOf evidence
  let status (source : CoverageResult → SourceCoverage) : EvidenceStatus :=
    (evidence.map fun u => (source u.coverage).status).getD .noEvidence
  let hash := i.state.map Checkpoint.stateHash
  { knownTime := t.knownTime+if i.state.isSome then duration else 0
    identityKnownTime := t.identityKnownTime+if i.identityKnown then duration else 0
    modeBytes := t.modeBytes.add (modeOf rt i) bytes
    totalBytes := t.totalBytes+bytes
    currentIdentityBytes := t.currentIdentityBytes+if i.identityKnown then bytes else 0
    identityUnprovenBytes := t.identityUnprovenBytes+if i.identityKnown then 0 else bytes
    totalDnsBlocked := t.totalDnsBlocked+dnsBlockedOf evidence
    stateChanges := t.stateChanges+
      if hash.isSome && t.previousHash.isSome && hash≠t.previousHash then 1 else 0
    previousHash := hash.or t.previousHash
    trafficStatuses := t.trafficStatuses ++ [status CoverageResult.traffic]
    dnsStatuses := t.dnsStatuses ++ [status CoverageResult.dns]
    intervals := t.intervals ++ [reported] }

/-- The body of the loop over the intervals. -/
def Tally.add (deviceIp deviceName timezoneName : String) (identity : ManagedIdentity)
    (usage : List IntervalUsage) (t : Tally) (e : PolicyInterval × ℕ) : Py Tally := do
  let localStart ← localText rt timezoneName e.1.start
  let localEnd ← localText rt timezoneName e.1.stop
  let evidence := usageAt usage e.2
  pure (t.count rt e.1 evidence
    { index := e.2, interval := e.1
      durationMinutes := rounding.minutes (max (e.1.stop-e.1.start) 0)
      localStart := localStart, localEnd := localEnd, usage := evidence
      historicalName := historicalName deviceIp deviceName identity e.1
      policyEvidenceKind := if e.1.state.isSome then "desired_policy_checkpoint" else "none" })

/-- `_aggregate_source_status`. -/
def aggregateSourceStatus (statuses : List EvidenceStatus) : EvidenceStatus :=
  if statuses.isEmpty then .noEvidence
  else if statuses.contains .inconsistent then .inconsistent
  else if statuses.all fun s => s=.unavailable then .unavailable
  else if statuses.contains .unavailable then .partlyAvailable
  else if statuses.contains .measured then .measured
  else if statuses.contains .partlyAvailable then .partlyAvailable
  else .noEvidence

/-- `_aggregate_telemetry_status`. -/
def aggregateTelemetryStatus (traffic dns : EvidenceStatus) : EvidenceStatus :=
  let statuses := [traffic,dns]
  if statuses.contains .inconsistent then .inconsistent
  else if statuses.all fun s => s=.unavailable then .unavailable
  else if statuses.contains .unavailable || statuses.contains .partlyAvailable then .partlyAvailable
  else if statuses.contains .measured then .measured
  else .noEvidence

/-- What `read_telemetry_ingest_status` returns, as far as a report uses it; the age is in tenths
of a second. -/
structure IngestStatus where
  availability : String
  dnsSource : String
  ipfixSource : String
  ageSeconds : Option ℤ
  observedAt : Option String
  deriving DecidableEq, Repr

/-- `_collection_status`. -/
def collectionStatus (payload : IngestStatus) : IngestStatus :=
  let availability := rt.lower (orElse payload.availability "unavailable")
  let source (value : String) :=
    let value := rt.lower (orElse value "unknown")
    if ["available","unavailable","unknown"].contains value then value else "unknown"
  { availability :=
      if ["available","stale","unavailable"].contains availability then availability
      else "unavailable"
    dnsSource := source payload.dnsSource
    ipfixSource := source payload.ipfixSource
    ageSeconds := payload.ageSeconds.map (max 0)
    observedAt := payload.observedAt }

/-- A report, with instants for its UTC times and percentages in tenths. -/
structure CorrelationReport where
  deviceIp : String
  deviceName : String
  identityId : Option String
  managedSince : ℤ
  currentName : String
  scope : String
  start : ℤ
  stop : ℤ
  timezone : String
  coveragePercent : ℤ
  identityCoveragePercent : ℤ
  policyEvidenceComplete : Bool
  identityEvidenceComplete : Bool
  knownIntervals : ℕ
  unknownIntervals : ℕ
  identityUnprovenIntervals : ℕ
  stateChanges : ℕ
  firstCheckpoint : Option ℤ
  lastCheckpoint : Option ℤ
  totalBytes : ℤ
  currentIdentityBytes : ℤ
  identityUnprovenBytes : ℤ
  totalDnsBlocked : ℤ
  modeBytes : ModeBytes
  trafficEvidenceStatus : EvidenceStatus
  dnsEvidenceStatus : EvidenceStatus
  telemetryEvidenceStatus : EvidenceStatus
  currentCollectionStatus : IngestStatus
  intervals : List ReportedInterval

/-- `build_policy_correlation_report`, for the identity that its caller gives. -/
def buildPolicyCorrelationReport (deviceIp deviceName : String) (history : List (ℕ × Checkpoint))
    (usage : List IntervalUsage) (start stop : ℤ) (timezoneName : String)
    (identity : ManagedIdentity) (status : IngestStatus) : Py CorrelationReport := do
  let scopedHistory := if identity.identityId="" then history
    else history.filter fun r => r.2.identityId=identity.identityId
  let intervals ← buildPolicyIntervals scopedHistory start stop (some identity.managedSince)
  let tally ← intervals.zipIdx.foldlM
    (Tally.add rt rounding deviceIp deviceName timezoneName identity usage) {}
  let total := max (stop-start) microsecond
  let coveragePercent := rounding.percent tally.knownTime total
  let identityCoveragePercent := rounding.percent tally.identityKnownTime total
  let known := (intervals.filter fun i => i.state.isSome).length
  let instants := scopedHistory.map fun r => r.2.instant
  let traffic := aggregateSourceStatus tally.trafficStatuses
  let dns := aggregateSourceStatus tally.dnsStatuses
  pure
    { deviceIp := deviceIp, deviceName := orElse deviceName deviceIp
      identityId := if identity.identityId="" then none else some identity.identityId
      managedSince := identity.managedSince, currentName := identity.currentName
      scope := if identity.identityId="" then "ip_only" else "current_management_identity"
      start := start, stop := stop, timezone := timezoneName
      coveragePercent := coveragePercent, identityCoveragePercent := identityCoveragePercent
      policyEvidenceComplete := 999 ≤ coveragePercent
      identityEvidenceComplete := 999 ≤ identityCoveragePercent
      knownIntervals := known, unknownIntervals := intervals.length-known
      identityUnprovenIntervals := (intervals.filter fun i => !i.identityKnown).length
      stateChanges := tally.stateChanges
      firstCheckpoint := instants.min?, lastCheckpoint := instants.max?
      totalBytes := tally.totalBytes, currentIdentityBytes := tally.currentIdentityBytes
      identityUnprovenBytes := tally.identityUnprovenBytes
      totalDnsBlocked := tally.totalDnsBlocked, modeBytes := tally.modeBytes
      trafficEvidenceStatus := traffic, dnsEvidenceStatus := dns
      telemetryEvidenceStatus := aggregateTelemetryStatus traffic dns
      currentCollectionStatus := collectionStatus rt status
      intervals := tally.intervals }

end Report

section Payload
variable (rt : Runtime) (rounding : Rounding) (hasher : Hasher)

/-- What the payload reads from the store: the names of the locally managed devices, the
timezone setting, the identities of the devices and the checkpoints. -/
structure CorrelationStore where
  names : List (String × String)
  timezoneName : String
  identities : String → Option ManagedIdentity
  history : Table Checkpoint

/-- The device that is asked for, or the first one by its name. -/
def selectedDevice (names : List (String × String)) (clientIp : String) : String :=
  let selected := strip clientIp
  if selected="" then
    ((orderBy (fun n => rt.lower (orElse n.2 n.1)) names).head?.map Prod.fst).getD ""
  else selected

/-- `_policy_correlation_payload`, with the telemetry sources and the status that it reads. -/
def policyCorrelationPayload (store : CorrelationStore) (traffic : Except String FlowDb)
    (dns : Except String (List DnsRow)) (status : IngestStatus) (now : ℤ)
    (clientIp period start stop : String) : Py (CorrelationReport × ActivityWindow) := do
  let selected := selectedDevice rt store.names clientIp
  if selected="" then
    .error (.valueError "No managed devices are available for policy correlation")
  if (hasher.ipAddress selected).isNone then
    .error (.valueError (selected ++ " does not appear to be an IPv4 or IPv6 address"))
  if (store.names.lookup selected).isNone then
    .error (.valueError "Policy correlation is available only for locally managed devices")
  let window ← resolveActivityWindow rt rounding now period store.timezoneName start stop
  match store.identities selected with
  | none => .error (.valueError "Current device management identity is unavailable")
  | some identity => do
    let history ← listPolicyStateHistory hasher selected (some window.start) (some window.stop)
      800 (some identity.identityId) store.history
    let intervals ← buildPolicyIntervals history window.start window.stop
      (some identity.managedSince)
    let usage ← policyIntervalUsage rt hasher.ipAddress traffic dns selected intervals
    let report ← buildPolicyCorrelationReport rt rounding selected
      (orElse ((store.names.lookup selected).getD "") selected) history usage window.start
      window.stop store.timezoneName identity status
    pure (report,window)

end Payload
end ZenControl.PolicyHistory
