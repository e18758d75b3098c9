import ZenControl.Router.Posture
import ZenControl.Store.Tables

/-! The enforcement mode of a device: how it is read from the block list, the slow list and the
slow queue, and how it is switched. -/
namespace ZenControl.Router
open Calls

/-- The reply of `get_device_enforcement`; an inconsistent state has no mode. -/
structure Enforcement where
  address : Ipv4
  mode : Option Mode
  blockedEntries : ℕ
  slowEntries : ℕ
  slowQueues : ℕ
  slowLimit : Option String
  deriving DecidableEq

def modeText (mode : Option Mode) : String := (mode.map Mode.text).getD "invalid"

/-- The mode of a device by its entries and queues. -/
def liveMode (blocked slow : ℕ) (slowQueues : List SimpleQueue) : Option Mode :=
  match blocked, slow, slowQueues with
  | 0, 0, [] => some .normal
  | 1, 0, [] => some .blocked
  | 0, 1, [queue] => if queue.disabled then none else some .slow
  | _, _, _ => none

/-- The entries of a device in a list. -/
def inList (list : String) (address : Ipv4) (e : AddressEntry) : Bool :=
  e.list=list && e.address=address.text

/-- The queues of a name. -/
def isQueue (name : String) (q : SimpleQueue) : Bool := q.name=name

def listEntries (list : String) (address : Ipv4) : RouterProg (List (ℕ × AddressEntry)) :=
  entries .addressList (inList list address)

def queuesNamed (name : String) : RouterProg (List (ℕ × SimpleQueue)) :=
  entries .queue (isQueue name)

/-- `get_device_enforcement`. -/
def getDeviceEnforcement (address : Ipv4) : RouterProg Enforcement :=
  connect.bind fun _ => explained s!"Unable to read device enforcement for {address.text}" <|
    validateDeviceBlockPrimitive.bind fun _ =>
    (validateRestrictedDevice address).bind fun _ =>
    (listEntries deviceBlockList address).bind fun blocked =>
    (listEntries deviceSlowList address).bind fun slow =>
    (queuesNamed address.deviceSlowQueueName).bind fun queues =>
    .ret { address := address
           mode := liveMode blocked.length slow.length (queues.map Prod.snd)
           blockedEntries := blocked.length
           slowEntries := slow.length
           slowQueues := queues.length
           slowLimit := match queues with
             | [(_,queue)] => some queue.maxLimit
             | _ => none }

section Writing
variable (env : Environment) (address : Ipv4) (description : String)

/-- A comment with the description behind it. -/
def described (comment : String) : String :=
  if description="" then comment else comment ++ " - " ++ description

/-- `remove_list_entries`. -/
def removeListEntries (list : String) : RouterProg Unit :=
  removeFound .addressList (inList list address)

/-- `remove_slow_queues` and `remove_policy_bandwidth_queues`. -/
def removeQueues (name : String) : RouterProg Unit := removeFound .queue (isQueue name)

/-- The fields of a queue of the device, as both writers set them. -/
def deviceQueue (name maxLimit comment : String) : SimpleQueue where
  name := name
  target := address.text ++ "/32"
  maxLimit := maxLimit
  queue := "default-small/default-small"
  comment := comment

/-- Set the queue that is there, or replace what is there by one queue. -/
def setQueue (found : List (ℕ × SimpleQueue)) (name maxLimit comment : String) : RouterProg Unit :=
  match found with
  | [(id,_)] => set .queue id fun queue =>
      { deviceQueue address name maxLimit comment with name := queue.name }
  | _ => (removeQueues name).bind fun _ => add .queue (deviceQueue address name maxLimit comment)

/-- Add the entry of a list, unless exactly one is there. -/
def establishEntry (list comment : String) : RouterProg Unit :=
  (listEntries list address).bind fun found =>
    if found.length=1 then .ret ()
    else (removeListEntries address list).bind fun _ =>
      add .addressList { list := list, address := address.text, comment := comment }

/-- The part of `set_device_mode` for each mode. -/
def writeMode : Mode → RouterProg Unit
  | .normal =>
    (removeListEntries address deviceBlockList).bind fun _ =>
    (removeListEntries address deviceSlowList).bind fun _ =>
    removeQueues address.deviceSlowQueueName
  | .blocked =>
    -- BLOCKED is established before SLOW is removed
    (establishEntry address deviceBlockList (described description "MC - Device Block")).bind fun _ =>
    (removeListEntries address deviceSlowList).bind fun _ =>
    (removeQueues address.deviceSlowQueueName).bind fun _ =>
    removeQueues address.deviceBandwidthQueueName
  | .slow =>
    -- SLOW is constructed before BLOCKED is removed
    (queuesNamed address.deviceSlowQueueName).bind fun queues =>
    (setQueue address queues address.deviceSlowQueueName env.deviceSlowLimit
      (described description "MC - Per Device Slow")).bind fun _ =>
    (establishEntry address deviceSlowList (described description "MC - Device Slow")).bind fun _ =>
    (removeQueues address.deviceBandwidthQueueName).bind fun _ =>
    removeListEntries address deviceBlockList

/-- `set_device_mode`. -/
def setDeviceMode (mode : Mode) : RouterProg Enforcement :=
  let description := clip (strip description) 60
  serialized <|
    (requirePolicyWriteGate env).bind fun _ =>
    connect.bind fun _ =>
    (explained s!"Unable to set device {address.text} to {modeText mode}" <|
      validateDeviceBlockPrimitive.bind fun _ =>
      (validateRestrictedDevice address).bind fun _ =>
      writeMode env address description mode).bind fun _ =>
    (getDeviceEnforcement address).bind fun result =>
      if result.mode=some mode then .ret result
      else .raise (.router (s!"Requested device mode '{modeText mode}' " ++
        s!"but router reports '{modeText result.mode}' for {address.text}"))

end Writing
end ZenControl.Router
