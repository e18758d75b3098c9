import ZenControl.Text

/-! One device is reconciled: its plan is read, what has drifted is written through the router
adapter, and the plan is read again. A requested pass does this for each of its devices while it
owns the mutation lane. -/
namespace ZenControl.Reconciliation

/-- What `plan_loader` tells of a device. -/
structure Plan where
  temporaryOverride : Bool := false
  policyActionable : Bool := false
  status : String := ""
  modeDrift : Bool := false
  bandwidthDrift : Bool := false
  serviceDrift : Bool := false
  liveMode : String := ""
  desiredMode : String := ""
  bandwidthPreset : String := ""
  bandwidthExpectedActive : Bool := false
  bandwidthUpload : String := ""
  bandwidthDownload : String := ""
  desiredSupportedBlockedServices : List String := []

structure BandwidthReply where
  active : Bool
  maxLimit : String

structure ServicesReply where
  blockedServices : List String
  terminatedConnections : ℤ

structure PostureCheck where
  name : Option String
  key : Option String
  severity : String
  status : String

structure Posture where
  enforcementReady : Bool
  checks : List PostureCheck

structure LiveDevice where
  ip : String
  address : String

/-- The answers of the router and of the plan loader during one pass. The plan of a device is
read before its writes and after them. -/
structure Adapter where
  mutationSession : Except String Unit := .ok ()
  securityPosture : Except String Posture := .ok ⟨true,[]⟩
  devices : Except String (List LiveDevice) := .ok []
  plan : String → Except String Plan := fun _ => .ok {}
  setDeviceMode : (address mode description : String) → Except String String := fun _ mode _ => .ok mode
  setDeviceBandwidth : (address preset upload download description : String) →
    Except String BandwidthReply := fun _ _ _ _ _ => .ok ⟨false,""⟩
  setDeviceServices : (address : String) → List String → (description : String) →
    Except String ServicesReply := fun _ services _ => .ok ⟨services,0⟩
  verified : String → Except String Plan := fun _ => .ok {}

inductive DeviceStatus
  | temporary | partially | synced | applied
  deriving DecidableEq, Repr

structure Reconciled where
  address : String
  status : DeviceStatus
  changes : List String
  deriving DecidableEq, Repr

/-- `reconcile_device`. -/
def reconcileDevice (adapter : Adapter) (address description : String) :
    Except String Reconciled := do
  let plan ← adapter.plan address
  if plan.temporaryOverride then
    return ⟨address,.temporary,[]⟩
  if !plan.policyActionable then
    return ⟨address,if plan.status="partial" then .partially else .synced,[]⟩
  if !(plan.modeDrift || plan.bandwidthDrift || plan.serviceDrift) then
    return ⟨address,.synced,[]⟩
  let modeChanges ←
    if plan.modeDrift then do
      let mode ← adapter.setDeviceMode address plan.desiredMode description
      pure ["mode " ++ upper plan.liveMode ++ "->" ++ upper mode]
    else pure []
  let bandwidthChanges ←
    if plan.bandwidthDrift then do
      let preset := if plan.bandwidthExpectedActive then plan.bandwidthPreset else "normal"
      let reply ← adapter.setDeviceBandwidth address preset plan.bandwidthUpload
        plan.bandwidthDownload description
      pure ["bandwidth=" ++ if reply.active then reply.maxLimit else "unlimited"]
    else pure []
  let serviceChanges ←
    if plan.serviceDrift then do
      let reply ← adapter.setDeviceServices address plan.desiredSupportedBlockedServices
        description
      pure (("services=" ++ orElse (",".intercalate reply.blockedServices) "none")::
        if reply.terminatedConnections=0 then []
        else ["connections_reset=" ++ toString reply.terminatedConnections])
    else pure []
  let verified ← adapter.verified address
  if verified.modeDrift || verified.serviceDrift || verified.bandwidthDrift then
    throw ("Policy apply did not converge for " ++ address)
  return ⟨address,.applied,modeChanges ++ bandwidthChanges ++ serviceChanges⟩

/-- `_failed_security_names`. -/
def failedSecurityNames (posture : Posture) : List String :=
  if posture.enforcementReady then []
  else (posture.checks.filter fun c => c.severity="critical" && c.status="fail").map
    fun c => c.name.getD (c.key.getD "unknown")

/-- The addresses of all live devices that have one. -/
def liveAddresses (devices : List LiveDevice) : List String :=
  (devices.map fun d => strip (orElse d.ip d.address)).filter fun a => a≠""

/-- The loop over the addresses; a device that raises does not stop the others. -/
def reconcileEach (adapter : Adapter) :
    List String → List Reconciled × List String → List Reconciled × List String
  | [], done => done
  | address::addresses, (outcomes,failures) =>
    match reconcileDevice adapter address "requested:effective-policy" with
    | .ok outcome => reconcileEach adapter addresses (outcomes ++ [outcome],failures)
    | .error e => reconcileEach adapter addresses (outcomes,failures ++ [address ++ ": " ++ e])

/-- What `run_requested_reconciliation` does inside the mutation lane: the outcomes and the
failures of the devices of the target. -/
def requestedPass (adapter : Adapter) (target : String) :
    Except String (List Reconciled × List String) := do
  adapter.mutationSession
  let posture ← adapter.securityPosture
  let failed := failedSecurityNames posture
  if failed≠[] then
    throw ("RouterOS enforcement contract is degraded: " ++
      orElse (", ".intercalate (failed.take 6)) "critical hardening check failed")
  let addresses ←
    if target="*" then do
      let devices ← adapter.devices
      pure (liveAddresses devices)
    else pure [target]
  return reconcileEach adapter addresses ([],[])

end ZenControl.Reconciliation
