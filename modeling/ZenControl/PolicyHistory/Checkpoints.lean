import ZenControl.Library.NumberedRows
import ZenControl.Value

/-! Durable checkpoints of the desired policy: how they are recorded on a change, pruned by the
retention setting, and listed for a report. Instants are microseconds; a stored checkpoint keeps
whole seconds. -/
namespace ZenControl.PolicyHistory
open Rows

/-- `timedelta(days=1)` and one second, in microseconds. -/
def microsecond : ℤ := 1000000

/-- `_policy_history_instant_iso`: the second of an instant. -/
def instantSecond (instant : ℤ) : ℤ := instant / microsecond

structure QuotaEvidence where
  configured : Bool := false
  enabled : Bool := false
  available : Bool := true
  active : Bool := false
  modeActive : Bool := false
  serviceActive : Bool := false
  activeServiceBlocks : List String := []
  dailyExhausted : Bool := false
  dailyAction : String := ""

/-- The entries of a resolved policy that its history keeps. -/
structure ResolvedPolicy where
  mode : String := ""
  modeSource : String := ""
  bandwidthPreset : String := ""
  blockedServices : List String := []
  blockedPolicyGroups : List String := []
  scheduleActive : Bool := false
  scheduleReason : String := ""
  activeDateException : List (String × PyVal) := []
  quotaState : QuotaEvidence := {}
  policyAt : String := ""

structure PolicyHistoryState where
  desiredMode : String
  modeSource : String
  bandwidthPreset : String
  blockedServices : List String
  policyGroups : List String
  scheduleActive : Bool
  scheduleReason : String
  activeDateException : List (String × PyVal)
  quotaState : QuotaEvidence
  policyAt : String

/-- `sorted` on texts. -/
def sortedTexts (texts : List String) : List String := texts.mergeSort fun a b => !(b < a)

/-- `_policy_history_state`. -/
def policyHistoryState (policy : ResolvedPolicy) : PolicyHistoryState where
  desiredMode := orElse policy.mode "normal"
  modeSource := orElse policy.modeSource "default"
  bandwidthPreset := orElse policy.bandwidthPreset "normal"
  blockedServices := sortedTexts policy.blockedServices
  policyGroups := sortedTexts policy.blockedPolicyGroups
  scheduleActive := policy.scheduleActive
  scheduleReason := policy.scheduleReason
  activeDateException := policy.activeDateException
  quotaState := { policy.quotaState with
    activeServiceBlocks := sortedTexts policy.quotaState.activeServiceBlocks }
  policyAt := policy.policyAt

/-- A row of `policy_state_history`. -/
structure Checkpoint where
  capturedAt : ℤ
  ip : String
  stateHash : String
  source : String
  state : PolicyHistoryState
  identityId : String
  deviceName : String

/-- The addresses that `ipaddress.ip_address` accepts, and the hash of a canonical state. -/
structure Hasher where
  ipAddress : String → Option String
  sha256 : PolicyHistoryState → String

/-- A call of `record_policy_state`: its arguments, the wall clock, and the row of
`managed_device_identity` for its address. -/
structure RecordCall where
  ip : String
  policy : ResolvedPolicy
  source : String := "effective-resolver"
  capturedAt : Option ℤ := none
  now : ℤ
  managed : Option (String × String) := none

namespace RecordCall
variable (call : RecordCall)

def address : String := strip call.ip

/-- The second under which the call stores a checkpoint. -/
def second : ℤ := instantSecond (call.capturedAt.getD call.now)

def identityId : String := (call.managed.map Prod.fst).getD ""

def deviceName : String :=
  orElse ((call.managed.map fun m => strip m.2).getD call.address) call.address

/-- The row that the call inserts. -/
def checkpoint (hasher : Hasher) : Checkpoint where
  capturedAt := call.second
  ip := call.address
  stateHash := hasher.sha256 { policyHistoryState call.policy with policyAt := "" }
  source := clip (orElse call.source "effective-resolver") 80
  state := policyHistoryState call.policy
  identityId := call.identityId
  deviceName := call.deviceName

end RecordCall

/-- The rows of an address and, when one is given, of an identity. -/
def Checkpoint.belongs (ip : String) (identityId : Option String) (r : Checkpoint) : Bool :=
  r.ip=ip && identityId.all fun id => r.identityId=id

/-- `ORDER BY captured_at DESC, id DESC LIMIT 1` on rows in the order of their numbers. -/
def latest (rows : List (ℕ × Checkpoint)) : Option (ℕ × Checkpoint) :=
  rows.foldl (fun best r => match best with
    | none => some r
    | some b => if b.2.capturedAt ≤ r.2.capturedAt then some r else some b) none

/-- Whether a stored checkpoint has the state and the name of a new one. -/
def Checkpoint.same (r r' : Checkpoint) : Bool :=
  r.stateHash=r'.stateHash && orElse r.deviceName r'.ip=r'.deviceName

/-- The retention setting in days: 365 unless it is a number, and between 30 and 3650. -/
def retentionDays (setting : Option String) : ℤ :=
  match setting with
  | none => 365
  | some text => match pyInt text with
    | none => 365
    | some days => max 30 (min days 3650)

/-- The second before which checkpoints are deleted. -/
def retentionCutoff (setting : Option String) (now : ℤ) : ℤ :=
  instantSecond (now-retentionDays setting*(86400*microsecond))

/-- `record_policy_state`, with the deletion that ends it. -/
def recordWith (delete : Table Checkpoint → Table Checkpoint) (hasher : Hasher)
    (call : RecordCall) (history : Table Checkpoint) : Py (Bool × Table Checkpoint) :=
  if (hasher.ipAddress call.address).isNone then
    .error (.valueError (call.address ++ " does not appear to be an IPv4 or IPv6 address"))
  else
    let row := call.checkpoint hasher
    let previous := latest (history.select fun _ r => r.belongs row.ip (some row.identityId))
    if previous.any fun r => r.2.same row then .ok (false,history)
    else .ok (true,delete (history.insert row))

/-- `record_policy_state`. -/
def recordPolicyState (hasher : Hasher) (setting : Option String) (call : RecordCall)
    (history : Table Checkpoint) : Py (Bool × Table Checkpoint) :=
  recordWith (fun rows => rows.delete fun _ r => r.capturedAt < retentionCutoff setting call.now)
    hasher call history

/-- The order of a listing: by instant, then by number. -/
def byInstant (r r' : ℕ × Checkpoint) : Bool :=
  r.2.capturedAt < r'.2.capturedAt || (r.2.capturedAt=r'.2.capturedAt && r.1 ≤ r'.1)

/-- `list_policy_state_history`. -/
def listPolicyStateHistory (hasher : Hasher) (ip : String) (start stop : Option ℤ) (limit : ℤ)
    (identityId : Option String) (history : Table Checkpoint) : Py (List (ℕ × Checkpoint)) :=
  let ip := strip ip
  if (hasher.ipAddress ip).isNone then
    .error (.valueError (ip ++ " does not appear to be an IPv4 or IPv6 address"))
  else
    let limit := (max 1 (min limit 2000)).toNat
    let window := history.select fun _ r =>
      r.belongs ip identityId && start.all (fun t => instantSecond t < r.capturedAt) &&
        stop.all fun t => r.capturedAt < instantSecond t
    let rows := (window.mergeSort byInstant).take limit
    let previous := start.bind fun t =>
      latest (history.select fun _ r => r.belongs ip identityId && r.capturedAt ≤ instantSecond t)
    let result := previous.toList ++ rows.filter fun r => !previous.any fun p => p.1=r.1
    .ok (result.mergeSort byInstant)

end ZenControl.PolicyHistory
