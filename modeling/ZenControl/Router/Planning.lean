import ZenControl.Router.Services
import ZenControl.Router.Bandwidth
import ZenControl.Router.TemporaryAccess
import ZenControl.Policy.Resolver

/-! The plan of a device: its effective policy against what RouterOS enforces. -/
namespace ZenControl.Router
open Calls

/-- `get_status`: the global mode, from the MASTER rule and the global slow queue. -/
def getStatus : RouterProg (Option Mode) :=
  connect.bind fun _ => explained "Unable to determine router state" <|
    (rules fun r => r.comment=masterRuleComment).bind fun master =>
    (queuesNamed slowQueueName).bind fun slow =>
      match master, slow with
      | [(_,rule)], [(_,queue)] =>
        .ret (if !rule.disabled && !queue.disabled then none
          else if !rule.disabled then some .blocked
          else if !queue.disabled then some .slow
          else some .normal)
      | [_], slow => .raise (.router s!"Expected exactly one slow queue, found {slow.length}")
      | master, _ => .raise (.router s!"Expected exactly one master rule, found {master.length}")

structure ServiceState where
  key : String
  name : String
  available : Bool
  error : Option String
  desiredBlocked : Bool
  liveBlocked : Bool
  drift : Bool
  sourceList : String
  deriving DecidableEq, Repr

inductive PlanStatus
  | temporary | drift | partially | inSync
  deriving DecidableEq, Repr

/-- The entries of a plan that the program acts on. -/
structure LivePlan where
  address : Ipv4
  status : PlanStatus
  temporaryOverride : Bool := false
  desiredMode : Mode
  liveMode : Option Mode
  globalMode : Mode
  bandwidthPreset : String
  bandwidthUpload : String
  bandwidthDownload : String
  desiredBandwidthLimit : Option String
  bandwidthExpectedActive : Bool
  desiredSupportedBlockedServices : List String
  unsupportedBlockedServices : List String
  unavailableDesiredServices : List String
  serviceStates : List ServiceState
  modeDrift : Bool
  bandwidthDrift : Bool
  serviceDrift : Bool
  policyActionable : Bool
  deriving DecidableEq

/-- The state of one service of the catalogue in a plan. -/
def serviceState (desired : List String) (live : ServiceEnforcement) (s : String × Service) :
    ServiceState :=
  let reading := live.services.lookup s.1
  let available := (reading.map ServiceReading.available).getD true
  let liveBlocked := (reading.map ServiceReading.blocked).getD false
  { key := s.1
    name := s.2.name
    available := available
    error := reading.bind ServiceReading.error
    desiredBlocked := desired.contains s.1
    liveBlocked := liveBlocked
    drift := available && desired.contains s.1≠liveBlocked
    sourceList := s.2.sourceList }

/-- `bandwidth_drift`. -/
def bandwidthDrifts (expectedActive : Bool) (limit : Option String) (live : Bandwidth) : Bool :=
  if expectedActive then
    !live.active || !live.isValid || !limitsEqual live.maxLimit (limit.getD "")
  else live.active

section Plan
variable (catalog : Catalog) (policy : EffectivePolicy)

def policyPreset : String := nocase (strip (orElse policy.bandwidthPreset "normal"))

def policyUpload : String := orElse policy.bandwidthUpload "Unlimited"

def policyDownload : String := orElse policy.bandwidthDownload "Unlimited"

def policyLimit : Except String (Option String) :=
  presetLimit (policyPreset policy) (policyUpload policy) (policyDownload policy)

/-- The services that the policy blocks, as keys. -/
def blockedKeys : List String :=
  sortedKeys ((policy.blockedServices.map fun key => nocase (strip key)).dedup)

def desiredSupported : List String :=
  (blockedKeys policy).filter fun key => catalog.keys.contains key

def unsupportedBlocked : List String :=
  sortedKeys (((blockedKeys policy).filter (fun key => !catalog.keys.contains key) ++
    ((policy.unsupportedPolicyKeys.map fun key => nocase (strip key)).filter
      fun key => key≠"")).dedup)

/-- `build_device_policy_plan`. -/
def buildDevicePolicyPlan (address : Ipv4) (enforcement : Enforcement)
    (temporary : TemporaryAccess) (services : ServiceEnforcement) (bandwidth : Bandwidth)
    (globalMode : Option Mode) : Except Failure LivePlan :=
  match globalMode with
  | none => .error (.planning
      s!"Invalid global RouterOS mode '{modeText none}' while planning {address.text}")
  | some globalMode =>
    match policyLimit policy with
    | .error e => .error (.planning
        s!"Invalid bandwidth preset '{policyPreset policy}' for {address.text}: {e}")
    | .ok limit =>
      let expectedActive :=
        policyPreset policy≠"normal" && policy.mode=Mode.normal && globalMode=Mode.normal
      let desired := desiredSupported catalog policy
      let states := catalog.map (serviceState desired services)
      let unavailable :=
        (states.filter fun s => s.desiredBlocked && !s.available).map ServiceState.key
      let unsupported := unsupportedBlocked catalog policy
      let plan : LivePlan :=
        { address := address
          status := .temporary
          temporaryOverride := temporary.active
          desiredMode := policy.mode
          liveMode := enforcement.mode
          globalMode := globalMode
          bandwidthPreset := policyPreset policy
          bandwidthUpload := policyUpload policy
          bandwidthDownload := policyDownload policy
          desiredBandwidthLimit := limit
          bandwidthExpectedActive := expectedActive
          desiredSupportedBlockedServices := desired
          unsupportedBlockedServices := unsupported
          unavailableDesiredServices := sortedKeys unavailable
          serviceStates := states
          modeDrift := false
          bandwidthDrift := false
          serviceDrift := false
          policyActionable := false }
      if temporary.active then .ok plan
      else
        let modeDrift := some policy.mode≠enforcement.mode
        let bandwidthDrift := bandwidthDrifts expectedActive limit bandwidth
        let serviceDrift := states.any ServiceState.drift
        let drift := modeDrift || serviceDrift || bandwidthDrift
        .ok { plan with
          status := if drift then .drift
            else if !unavailable.isEmpty || !unsupported.isEmpty then .partially else .inSync
          modeDrift := modeDrift
          bandwidthDrift := bandwidthDrift
          serviceDrift := serviceDrift
          policyActionable := drift }

/-- `get_live_policy_plan` of a validated address. -/
def deviceLivePlan (address : Ipv4) : RouterProg LivePlan :=
  (getDeviceEnforcement address).bind fun enforcement =>
  (getDeviceTemporaryAccess address).bind fun temporary =>
  (getDeviceServiceEnforcement catalog address).bind fun services =>
  (getDeviceBandwidth address).bind fun bandwidth =>
  getStatus.bind fun globalMode =>
    match buildDevicePolicyPlan catalog policy address enforcement temporary services bandwidth
      globalMode with
    | .ok plan => .ret plan
    | .error e => .raise e

end Plan

/-- `get_live_policy_plan`: the policy is resolved first, and every reader validates the
address. -/
def getLivePolicyPlan (env : Environment) (catalog : Catalog)
    (effectivePolicy : String → Except Failure EffectivePolicy) (address : String) :
    RouterProg LivePlan :=
  match effectivePolicy address with
  | .error e => .raise e
  | .ok policy =>
    match validateIpv4 env address with
    | .error e => .raise e
    | .ok address => deviceLivePlan catalog policy address

/-- What `reconcile_device` returns. -/
inductive ReconcileStatus
  | temporary | partially | synced | applied
  deriving DecidableEq, Repr

structure ReconcileReply where
  status : ReconcileStatus
  changes : List String
  plan : LivePlan

section Reconcile
variable (env : Environment) (planLoader : RouterProg LivePlan) (address : Ipv4)
  (description : String)

def modeChange (plan : LivePlan) : RouterProg (List String) :=
  if plan.modeDrift then
    (setDeviceMode env address description plan.desiredMode).bind fun result =>
      .ret [s!"mode {upper (modeText plan.liveMode)}->{upper (modeText result.mode)}"]
  else .ret []

def bandwidthChange (plan : LivePlan) : RouterProg (List String) :=
  if plan.bandwidthDrift then
    (setDeviceBandwidth env address
      (if plan.bandwidthExpectedActive then plan.bandwidthPreset else "normal")
      plan.bandwidthUpload plan.bandwidthDownload description).bind fun result =>
      .ret ["bandwidth=" ++ if result.active then result.maxLimit else "unlimited"]
  else .ret []

/-- The services are written over the built-in catalogue. -/
def serviceChange (plan : LivePlan) : RouterProg (List String) :=
  if plan.serviceDrift then
    (setDeviceServices env serviceEnforcement address plan.desiredSupportedBlockedServices
      description).bind fun result =>
      .ret (("services=" ++ orElse (",".intercalate result.enforcement.blockedServices) "none")::
        if result.terminatedConnections=0 then []
        else [s!"connections_reset={result.terminatedConnections}"])
  else .ret []

/-- `reconcile_device`. -/
def reconcileDevice : RouterProg ReconcileReply :=
  planLoader.bind fun plan =>
    if plan.temporaryOverride then .ret ⟨.temporary,[],plan⟩
    else if !plan.policyActionable then
      .ret ⟨if plan.status=.partially then .partially else .synced,[],plan⟩
    else if !(plan.modeDrift || plan.bandwidthDrift || plan.serviceDrift) then
      .ret ⟨.synced,[],plan⟩
    else
      (modeChange env address description plan).bind fun modeChanges =>
      (bandwidthChange env address description plan).bind fun bandwidthChanges =>
      (serviceChange env address description plan).bind fun serviceChanges =>
      planLoader.bind fun verified =>
        if verified.modeDrift || verified.serviceDrift || verified.bandwidthDrift then
          .raise (.reconciliation s!"Policy apply did not converge for {address.text}")
        else .ret ⟨.applied,modeChanges ++ bandwidthChanges ++ serviceChanges,plan⟩

end Reconcile
end ZenControl.Router
