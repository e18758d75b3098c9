import ZenControl.Router.Enforcement
import ZenControl.Router.Rates

/-! The bandwidth queue of a device, beside the slow queue of its mode. -/
namespace ZenControl.Router
open Calls

/-- The reply of `get_device_bandwidth`; a blank limit stands for none. -/
structure Bandwidth where
  address : Ipv4
  queueName : String
  active : Bool := false
  isValid : Bool := true
  maxLimit : String := ""
  uploadBps : Option ℕ := none
  downloadBps : Option ℕ := none
  comment : String := ""
  error : Option String := none
  deriving DecidableEq

/-- What is wrong with the one bandwidth queue of a device. -/
def queueProblems (address : Ipv4) (queue : SimpleQueue) : List String :=
  let expectedTarget := address.text ++ "/32"
  (if queue.target≠expectedTarget then
    [s!"target='{queue.target}', expected '{expectedTarget}'"] else []) ++
  (if queue.disabled then ["queue is disabled"] else []) ++
  (if queue.queue≠"" ∧ queue.queue≠"default-small/default-small" then
    [s!"queue='{queue.queue}', expected 'default-small/default-small'"] else []) ++
  match parseMaxLimit queue.maxLimit with
  | .error e => [e]
  | .ok _ => []

/-- What `get_device_bandwidth` makes of the queues it finds. -/
def bandwidthOf (address : Ipv4) (found : List SimpleQueue) : Bandwidth :=
  let name := address.deviceBandwidthQueueName
  match found with
  | [] => { address := address, queueName := name }
  | [queue] =>
    let problems := queueProblems address queue
    { address := address
      queueName := name
      active := true
      isValid := problems.isEmpty
      maxLimit := queue.maxLimit
      uploadBps := (parseMaxLimit queue.maxLimit).toOption.map Prod.fst
      downloadBps := (parseMaxLimit queue.maxLimit).toOption.map Prod.snd
      comment := queue.comment
      error := if problems.isEmpty then none else some ("; ".intercalate problems) }
  | found =>
    { address := address
      queueName := name
      active := true
      isValid := false
      error := some s!"Expected at most one {name} queue, found {found.length}" }

/-- `get_device_bandwidth`. -/
def getDeviceBandwidth (address : Ipv4) : RouterProg Bandwidth :=
  connect.bind fun _ => explained s!"Unable to read device bandwidth for {address.text}" <|
    (validateRestrictedDevice address).bind fun _ =>
    (queuesNamed address.deviceBandwidthQueueName).bind fun found =>
    .ret (bandwidthOf address (found.map Prod.snd))

/-- `re.fullmatch(r"[a-z0-9_]{1,40}", key)`. -/
def isPresetKey (key : String) : Bool :=
  0 < key.length && key.length ≤ 40 && key.toList.all fun c =>
    ('a' ≤ c && c ≤ 'z') || ('0' ≤ c && c ≤ '9') || c= '_'

/-- The limit of a preset; `normal` has none. -/
def presetLimit (preset upload download : String) : Except String (Option String) :=
  if preset="normal" then .ok none else (buildMaxLimit upload download).map some

section Writing
variable (env : Environment) (address : Ipv4)

/-- The part of `set_device_bandwidth` that writes. -/
def writeBandwidth (preset : String) (limit : Option String) (description : String) :
    RouterProg Unit :=
  let name := address.deviceBandwidthQueueName
  (queuesNamed name).bind fun found =>
    match limit with
    | none => removeQueues name
    | some limit => setQueue address found name limit
        (described description ("MC - Policy Bandwidth - preset:" ++ preset))

/-- What `set_device_bandwidth` asks of the queue it reads back. -/
def bandwidthReply (limit : Option String) (result : Bandwidth) : Except Failure Bandwidth :=
  match limit with
  | none =>
    if result.active then .error (.router
      s!"Requested unlimited bandwidth but {result.queueName} still exists")
    else .ok result
  | some limit =>
    if !result.isValid || !result.active then .error (.router
      (s!"Bandwidth queue did not converge for {address.text}: " ++
        result.error.getD "queue missing"))
    else if !limitsEqual result.maxLimit limit then .error (.router
      s!"Requested max-limit {limit} but router reports {result.maxLimit} for {address.text}")
    else .ok result

/-- `set_device_bandwidth`. -/
def setDeviceBandwidth (preset upload download description : String) : RouterProg Bandwidth :=
  let preset := nocase (strip preset)
  let description := clip (strip description) 50
  serialized <|
    if !isPresetKey preset then .raise (.router s!"Invalid bandwidth preset key '{preset}'")
    else match presetLimit preset upload download with
      | .error e => .raise (.router e)
      | .ok limit =>
        (requirePolicyWriteGate env).bind fun _ =>
        connect.bind fun _ =>
        (explained s!"Unable to set device bandwidth for {address.text}" <|
          (validateRestrictedDevice address).bind fun _ =>
          writeBandwidth address preset limit description).bind fun _ =>
        (getDeviceBandwidth address).bind fun result =>
          match bandwidthReply address limit result with
          | .ok result => .ret result
          | .error e => .raise e

end Writing
end ZenControl.Router
