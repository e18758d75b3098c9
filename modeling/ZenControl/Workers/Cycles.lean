import ZenControl.Attention.Monitor
import ZenControl.Library.Locks
import ZenControl.Reconciliation.Requests

/-! What the background workers do while they hold their locks: a cycle of the reconciler, the
pass for a requested reconciliation, the guard of an authority transfer, and a cycle of the
incident monitor. Everything that they call may raise. -/
namespace ZenControl.Workers
open Calls Reconciliation Attention

/-- An exception that `except Exception` catches, or one that it does not. -/
inductive Raised
  | exception (text : String)
  | interrupt
  deriving DecidableEq, Repr

section Reports

structure Counts where
  devices : ℕ := 0
  observed : ℕ := 0
  planFailed : ℕ := 0
  drift : ℕ := 0
  applied : ℕ := 0
  synced : ℕ := 0
  temporary : ℕ := 0
  partially : ℕ := 0
  failed : ℕ := 0
  deriving DecidableEq, Repr

structure Observation where
  items : ℕ := 0
  workers : ℕ := 0
  maxActive : ℕ := 0
  failed : ℕ := 0
  deriving DecidableEq, Repr

/-- What `ParallelObserver.observe` returns; `serviceKeys` are those of the `service_states` of
the plans. -/
structure Batch where
  items : ℕ := 0
  workers : ℕ := 0
  maxActive : ℕ := 0
  order : List String := []
  results : List (String × Plan) := []
  errors : List (String × String) := []
  serviceKeys : List String := []

/-- `_last` of the reconciler. -/
structure CycleReport where
  trigger : String
  mode : String
  result : String
  summary : String
  counts : Counts
  failures : List String
  observation : Observation
  deriving DecidableEq, Repr

/-- The settings that a cycle of the reconciler reads. -/
structure CycleSettings where
  mode : String
  failureThreshold : ℤ
  cooldownSeconds : ℤ
  deriving DecidableEq, Repr

end Reports

/-- What the workers call. The fields of the reconciler are read and written under its
`_state_lock`; `transfer` is a call of the code that runs under the guard. -/
inductive Callee
  | holdActive
  | failCycle (threshold cooldown : ℤ)
  | succeedCycle
  | storeCycle (report : CycleReport)
  | inventoryDue
  | enterLane (owner : String)
  | leaveLane
  | posture
  | inventory
  | revision
  | savePreparedView (viewKey : String) (revision : ℕ)
  | devices
  | observe (addresses : List String)
  | adapter (address description : String)
  | claim
  | finish (id : ℕ) (status : String) (appliedRevision : ℕ) (result : RequestResult)
      (error : String)
  | enqueue (target actor reason : String) (requestedRevision : ℕ)
  | audit (event actor text : String)
  | snapshot
  | readiness
  | monitored
  | bypass (ips : List String)
  | quota (ip : String)
  | upsert (signal : Signal)
  | resolve (source : String) (active : List String)
  | storeScan (report : Option ScanReport)
  | transfer (name : String)

/-- `posture` answers with what both workers read of `get_security_posture`. -/
def Callee.Answer : Callee → Type
  | .holdActive | .failCycle .. | .inventoryDue => Bool
  | .posture => Posture × List Attention.PostureCheck
  | .revision => ℕ
  | .devices => List LiveDevice
  | .observe _ => Batch
  | .adapter .. => Adapter
  | .claim => Option (ℕ × ReconciliationRequest)
  | .finish .. => ReconciliationRequest
  | .snapshot => ReconcilerSnapshot
  | .readiness => Readiness
  | .monitored => List MonitoredDevice
  | .bypass _ => List BypassDevice
  | .quota _ => Attention.QuotaState
  | .upsert _ => IncidentAction
  | .resolve .. => List String
  | .transfer _ => String
  | .succeedCycle | .storeCycle _ | .enterLane _ | .leaveLane | .inventory
  | .savePreparedView .. | .enqueue .. | .audit .. | .storeScan _ => Unit

abbrev Work (α : Type) := Prog Callee Callee.Answer Raised α

section Blocks
variable {α : Type}

def ask (c : Callee) : Work c.Answer := Prog.issue c

/-- `try` with `except Exception`. -/
def caught (p : Work α) : Work (Except String α) :=
  (p.bind fun a => .ret (.ok a)).rescue fun
    | .exception text => .ret (.error text)
    | .interrupt => .raise .interrupt

/-- `except Exception: pass`. -/
def quietly (p : Work Unit) : Work Unit := (caught p).bind fun _ => .ret ()

/-- `with self._mutation_context(owner)`. -/
def inLane (owner : String) (body : Work α) : Work α :=
  (ask (.enterLane owner)).bind fun _ => body.andFinally (ask .leaveLane)

def ofExcept : Except String α → Work α
  | .ok a => .ret a
  | .error e => .raise (.exception e)

end Blocks

section Reconciler

def validAutoModes : List String := ["off","observe","enforce"]

/-- `int(text or default)` where it is one of the valid values, else the default. -/
def validInt (valid : List ℤ) (default : ℤ) (text : Option String) : ℤ :=
  let value := if text.getD ""="" then default else (pyInt (text.getD "")).getD default
  if valid.contains value then value else default

/-- `_validate_settings`. -/
def validateSettings (lower : String → String) (raw : String → Option String) :
    CycleSettings :=
  let mode := lower (strip (orElse ((raw "auto_reconcile_mode").getD "") "off"))
  { mode := if validAutoModes.contains mode then mode else "off"
    failureThreshold := validInt [1,2,3,5,10] 3 (raw "auto_reconcile_failure_threshold")
    cooldownSeconds := validInt [60,300,600,1800] 300 (raw "auto_reconcile_cooldown_seconds") }

/-- The arguments of `run_cycle` with what it has read of them. -/
structure CycleRun where
  trigger : String
  actor : String
  mode : String
  ignoreHold : Bool
  settings : CycleSettings

/-- The local variables of a cycle. -/
structure CycleState where
  counts : Counts := {}
  failures : List String := []
  observation : Observation := {}

variable (run : CycleRun)

/-- `_finish_cycle`. -/
def finishCycle (result summary : String) (st : CycleState) : Work CycleReport := do
  let report : CycleReport :=
    { trigger := run.trigger, mode := run.mode, result, summary, counts := st.counts,
      failures := st.failures.take 12, observation := st.observation }
  ask (.storeCycle report)
  return report

/-- `_record_failed_cycle`. -/
def recordFailedCycle (failures : List String) : Work Unit := do
  let opened : Bool ← ask (.failCycle run.settings.failureThreshold run.settings.cooldownSeconds)
  ask (.audit "AUTO_RECONCILE_FAILED" run.actor ("; ".intercalate (failures.take 6)))
  if opened then
    ask (.audit "AUTO_RECONCILE_HOLD" run.actor (s!"threshold={run.settings.failureThreshold} " ++
      s!"cooldown={run.settings.cooldownSeconds}s"))

/-- A cycle that the security posture ends. -/
def securityHold (reason : String) (failed : List String) (st : CycleState) :
    Work CycleReport := do
  let failure := "security: " ++ ", ".intercalate (failed.take 8)
  ask (.audit "AUTO_RECONCILE_SECURITY_HOLD" run.actor failure)
  finishCycle run "security_hold" ("Automatic enforcement is SECURITY HELD because " ++ reason ++
    orElse (", ".intercalate (failed.take 6)) "critical hardening check failed")
    { st with failures := [failure] }

/-- Save a prepared view at the present revision. -/
def publish (viewKey : String) : Work Unit := do
  let revision : ℕ ← ask .revision
  ask (.savePreparedView viewKey revision)

/-- `_publish_managed_observation`. -/
def publishManagedObservation (batch : Batch) : Work Unit := do
  match ← caught (ask .revision) with
  | .error _ => return
  | .ok revision =>
    quietly (ask (.savePreparedView "router:managed-device-observation" revision))
    if batch.serviceKeys≠[] then
      quietly (ask (.savePreparedView "router:service-contract-health" revision))

/-- `_publish_managed_inventory_observation`. -/
def publishManagedInventory : Work Unit := do
  let due : Bool ← ask .inventoryDue
  if due then
    quietly do
      ask .inventory
      publish "router:managed-state-inventory"

/-- What the plan of an observed device counts as; one that drifts is a candidate. -/
def classify (batch : Batch) : List String → CycleState → List String → CycleState × List String
  | [],st,candidates => (st,candidates)
  | address::order,st,candidates =>
    match batch.results.lookup address with
    | none => classify batch order st candidates
    | some plan =>
      let c := st.counts
      if plan.temporaryOverride then
        classify batch order { st with counts := { c with temporary := c.temporary+1 } } candidates
      else if !plan.policyActionable then
        let partly := if plan.status="partial" then 1 else 0
        classify batch order { st with
          counts := { c with synced := c.synced+1, partially := c.partially+partly } } candidates
      else
        classify batch order { st with counts := { c with drift := c.drift+1 } }
          (candidates ++ [address])

/-- A device of a cycle that failed. -/
def CycleState.fail (st : CycleState) (address error : String) : CycleState :=
  { st with
    counts := { st.counts with failed := st.counts.failed+1 }
    failures := st.failures ++ [address ++ ": " ++ error] }

/-- The loop over the candidates; a device that raises does not stop the others. -/
def enforceEach : List String → CycleState → Work CycleState
  | [],st => .ret st
  | address::rest,st => do
    let reconciled : Except String Reconciled ← caught do
      let adapter : Adapter ← ask (.adapter address "auto:effective-policy")
      ofExcept (reconcileDevice adapter address "auto:effective-policy")
    match reconciled with
    | .error e => enforceEach rest (st.fail address e)
    | .ok outcome =>
      let c := st.counts
      match outcome.status with
      | .temporary =>
        enforceEach rest { st with counts := { c with temporary := c.temporary+1 } }
      | .partially =>
        enforceEach rest { st with
          counts := { c with partially := c.partially+1, synced := c.synced+1 } }
      | .synced => enforceEach rest { st with counts := { c with synced := c.synced+1 } }
      | .applied =>
        let st := { st with counts := { c with applied := c.applied+1 } }
        let changes := orElse ("; ".intercalate outcome.changes) "converged"
        match ← caught (ask (.audit "AUTO_POLICY_APPLIED" run.actor
          (address ++ ": " ++ changes))) with
        | .ok _ => enforceEach rest st
        | .error e => enforceEach rest (st.fail address e)

/-- What a cycle reports when its devices are done. -/
def concludeCycle (st : CycleState) : Work CycleReport := do
  let c := st.counts
  if st.failures≠[] then
    if run.mode="enforce" then recordFailedCycle run st.failures
    else ask (.audit "AUTO_POLICY_OBSERVE_FAILED" run.actor ("; ".intercalate (st.failures.take 6)))
    finishCycle run "failed"
      s!"{c.failed} device(s) failed; {c.applied} applied, {c.drift} drifted." st
  else
    if run.mode="enforce" then ask .succeedCycle
    if run.mode="observe" then
      if c.drift≠0 then
        ask (.audit "AUTO_POLICY_OBSERVED_DRIFT" run.actor
          s!"drift={c.drift} devices={c.devices}")
      finishCycle run (if c.drift≠0 then "drift" else "ok")
        (s!"Observe-only: {c.drift} drifted, {c.synced} synced, {c.temporary} temporary; " ++
          s!"planned with {st.observation.workers} worker(s).") st
    else
      if c.applied≠0 then
        ask (.audit "AUTO_RECONCILE_CYCLE" run.actor (s!"applied={c.applied} " ++
          s!"synced={c.synced} temporary={c.temporary} partial={c.partially}"))
      finishCycle run (if c.applied≠0 then "applied" else "ok")
        (s!"Enforce: {c.applied} applied, {c.synced} synced, {c.temporary} temporary, " ++
          s!"{c.partially} partial; observation workers={st.observation.workers}.") st

/-- The part of a cycle from the device loader on. -/
def reconcileDevices : Work CycleReport := do
  let devices : List LiveDevice ← ask .devices
  let batch : Batch ← ask (.observe (liveAddresses devices))
  let counts : Counts :=
    { devices := devices.length, observed := batch.results.length,
      planFailed := batch.errors.length }
  let observation : Observation :=
    { items := batch.items, workers := batch.workers, maxActive := batch.maxActive,
      failed := batch.errors.length }
  publishManagedObservation batch
  publishManagedInventory
  let st := batch.errors.foldl
    (fun st e => CycleState.fail st e.1 ("observation failed: " ++ e.2)) ⟨counts,[],observation⟩
  let (st,candidates) := classify batch batch.order st []
  if run.mode="enforce" ∧ candidates≠[] then
    let enforced : CycleReport ⊕ CycleState ← inLane ("reconciler:" ++ run.trigger) do
      let posture : Posture × List Attention.PostureCheck ← ask .posture
      let failed := failedSecurityNames posture.1
      if failed≠[] then
        .inl <$> securityHold run "authority changed after parallel observation: " failed st
      else .inr <$> enforceEach run candidates st
    match enforced with
    | .inl report => return report
    | .inr st => concludeCycle run st
  else concludeCycle run st

/-- The `try` block of `run_cycle`. -/
def cycleBlock : Work CycleReport := do
  let holdActive : Bool ← ask .holdActive
  if run.mode="off" then
    finishCycle run "disabled"
      "Automatic reconciliation is OFF. No RouterOS reads or writes were performed." {}
  else if run.mode="enforce" ∧ holdActive ∧ !run.ignoreHold then
    finishCycle run "hold" ("Automatic enforcement is in cooldown hold after repeated failed " ++
      "cycles. Observe-only checks remain available.") {}
  else if run.mode="enforce" then
    let posture : Posture × List Attention.PostureCheck ← ask .posture
    let failed := failedSecurityNames posture.1
    quietly (publish "router:security-posture")
    if failed≠[] then
      securityHold run "the RouterOS enforcement contract is degraded: " failed {}
    else reconcileDevices run
  else reconcileDevices run

/-- The `try` block with its `except Exception`, which records the failure and raises again. -/
def cycleBody : Work CycleReport :=
  (cycleBlock run).rescue fun
    | .exception text => do
      if run.mode="enforce" then recordFailedCycle run ["cycle-level: " ++ text]
      else ask (.audit "AUTO_POLICY_OBSERVE_FAILED" run.actor ("cycle-level: " ++ text))
      .raise (.exception text)
    | .interrupt => .raise .interrupt

end Reconciler

section Requested

/-- The loop over the addresses of a request. -/
def requestedEach : List String → List Reconciled × List String →
    Work (List Reconciled × List String)
  | [],done => .ret done
  | address::rest,(outcomes,failures) => do
    let reconciled : Except String Reconciled ← caught do
      let adapter : Adapter ← ask (.adapter address "requested:effective-policy")
      ofExcept (reconcileDevice adapter address "requested:effective-policy")
    match reconciled with
    | .ok outcome => requestedEach rest (outcomes ++ [outcome],failures)
    | .error e => requestedEach rest (outcomes,failures ++ [address ++ ": " ++ e])

/-- What is done inside the mutation lane for a request. -/
def requestedLane (target : String) : Work (List Reconciled × List String) := do
  let posture : Posture × List Attention.PostureCheck ← ask .posture
  let failed := failedSecurityNames posture.1
  if failed≠[] then
    .raise (.exception ("RouterOS enforcement contract is degraded: " ++
      orElse (", ".intercalate (failed.take 6)) "critical hardening check failed"))
  else if target="*" then
    let devices : List LiveDevice ← ask .devices
    requestedEach (liveAddresses devices) ([],[])
  else requestedEach [target] ([],[])

/-- The `try` block for a claimed request. -/
def requestedBlock (run : RequestRun) : Work ReconciliationRequest := do
  let started : ℕ ← ask .revision
  let (outcomes,failures) ← inLane s!"requested-reconcile:{run.id}" (requestedLane run.target)
  let finished : ℕ ← ask .revision
  let c := run.conclude started finished outcomes failures
  let row : ReconciliationRequest ← ask (.finish run.id c.status.text c.revision c.result c.error)
  if c.status=.superseded then
    let revision : ℕ ← ask .revision
    ask (.enqueue run.target run.requestActor
      s!"Superseding request {run.id} at revision {finished}" revision)
  ask (.audit (if c.status=.failed then "POLICY_RECONCILE_REQUEST_FAILED"
      else "POLICY_RECONCILE_REQUEST_COMPLETED") run.requestActor
    (s!"id={run.id} target={run.target} status={c.status.text} revision={finished} " ++
      s!"outcomes={outcomes.length} failures={failures.length}"))
  return row

/-- The `try` of `run_requested_reconciliation` with its `except Exception`. -/
def requestedBody (actor : String) : Work (Option ReconciliationRequest) := do
  match ← caught (ask .claim) with
  | .error _ => return none
  | .ok none => return none
  | .ok (some (id,request)) =>
    let run : RequestRun := ⟨id,request,actor⟩
    match ← caught (requestedBlock run) with
    | .ok row => return some row
    | .error e =>
      quietly do
        let revision : ℕ ← ask .revision
        let _ : ReconciliationRequest ← ask (.finish id "failed" revision (.raised request.target) e)
      quietly (ask (.audit "POLICY_RECONCILE_REQUEST_FAILED" run.requestActor
        s!"id={id} target={request.target} error={e}"))
      return none

/-- What `authority_transfer_guard` puts around the code that runs under it. -/
def transferBody (transfer : Work Unit) : Work Unit := inLane "authority-transfer" transfer

end Requested

section Monitor
variable (env : MonitorEnv)

/-- Record the signals of a block until one of them raises. -/
def upsertSignals : List Signal → Scan → Work (Option String × Scan)
  | [],scan => .ret (none,scan)
  | signal::rest,scan => do
    let scan := { scan with active := scan.active ++ [(signal.source,signal.fingerprint)] }
    let recorded : Except String IncidentAction ← caught do
      let action : IncidentAction ← ask (.upsert signal)
      if action.loud then
        ask (.audit ("INCIDENT_" ++ if action=.opened then "OPENED" else "UPDATED")
          "system:incident-monitor"
          (signal.severity ++ " " ++ signal.fingerprint ++ ": " ++ signal.title))
      return action
    match recorded with
    | .error e => return (some e,scan)
    | .ok action => upsertSignals rest { scan with stats := scan.stats.count action }

/-- A block that reads one source. -/
def readSource {α : Type} (label source : String) (signals : α → List Signal) (read : Work α)
    (scan : Scan) : Work Scan := do
  match ← caught read with
  | .error e => return scan.failed label e
  | .ok evidence =>
    let (error,scan) ← upsertSignals (signals evidence)
      { scan with scanned := scan.scanned ++ [source] }
    match error with
    | none => return scan
    | some e => return scan.failed label e

/-- The evidence of the bypass block, up to its handler. -/
def readEvidence (minStatus : String) (managed : List String) (scan : Scan) :
    Work (Option String × Scan) := do
  match ← caught (ask (.bypass managed)) with
  | .error e => return (some e,scan)
  | .ok devices =>
    let (error,scan) ← upsertSignals (bypassSignals env minStatus devices)
      { scan with scanned := scan.scanned ++ ["bypass"] }
    match error with
    | some e => return (some e,scan)
    | none => return (none,{ scan with scanned := scan.scanned ++ ["telemetry"] })

/-- The bypass block; what its handler raises ends the cycle. -/
def readBypass (minStatus : String) (managed : List String) (scan : Scan) : Work Scan := do
  if managed.isEmpty then return scan
  else
    let (error,scan) ← readEvidence env minStatus managed scan
    match error with
    | none => return scan
    | some e =>
      let (error,scan) ← upsertSignals [bypassUnavailable e] (scan.failed "telemetry" e)
      match error with
      | none => return scan
      | some e => .raise (.exception e)

/-- The quota loop over the texts of the devices. -/
def readQuotas : List String → Scan → Work Scan
  | [],scan => .ret scan
  | ip::ips,scan => do
    if ip="" then readQuotas ips scan
    else
      let scan ← readSource ("quota " ++ ip) ("quota:" ++ ip) (quotaSignals env ip)
        (ask (.quota ip)) scan
      readQuotas ips scan

/-- The resolution loop over the scanned sources. -/
def resolveEach : List String → Scan → Work Scan
  | [],scan => .ret scan
  | source::sources,scan => do
    let resolved : List String ← ask (.resolve source (scan.activeOf source))
    Prog.forEach resolved fun fingerprint =>
      ask (.audit "INCIDENT_AUTO_RESOLVED" "system:incident-monitor"
        (fingerprint ++ ": signal cleared"))
    resolveEach sources { scan with
      stats := { scan.stats with resolved := scan.stats.resolved+resolved.length } }

/-- The `try` block of `run_cycle` of the monitor; `none` is the report of a disabled one. -/
def monitorBody (settings : MonitorSettings) (trigger : String) : Work (Option ScanReport) := do
  if settings.enabled=false ∧ trigger="scheduled" then
    ask (.storeScan none)
    return none
  else
    let scan ← readSource "security" "security" securitySignals
      ((ask .posture).bind fun posture => .ret (Prod.snd posture)) { desk := {} }
    let scan ← readSource "reconciler" "reconciler" reconcilerSignals (ask .snapshot) scan
    let scan ← readSource "operations" "operations" operationsSignals (ask .readiness) scan
    let (devices,scan) ← (caught (ask .monitored)).bind fun
      | .ok devices => .ret (devices,scan)
      | .error e => .ret ([],scan.failed "devices" e)
    let ips := devices.map MonitoredDevice.text
    let managed := ips.filter fun ip => ip≠""
    let scan ← readBypass env settings.bypassMinStatus managed scan
    let scan ← readQuotas env ips scan
    let scan ← resolveEach scan.sources scan
    ask (.storeScan (some scan.report))
    return some scan.report

end Monitor
end ZenControl.Workers
