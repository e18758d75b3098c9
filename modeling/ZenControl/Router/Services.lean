import ZenControl.Router.Enforcement
import Mathlib.Data.List.Dedup
import Mathlib.Data.List.ReduceOption

/-! The services that RouterOS blocks for a device: membership in the source lists of their
contracts, as it is read and as it is brought to a desired set. -/
namespace ZenControl.Router
open Calls

/-- The state of one service in the reply of `get_device_service_enforcement`. -/
structure ServiceReading where
  name : String
  available : Bool
  error : Option String
  blocked : Bool
  entries : ℕ
  deriving DecidableEq, Repr

/-- The reply of `get_device_service_enforcement`. -/
structure ServiceEnforcement where
  blockedServices : List String
  unavailableServices : List String
  services : List (String × ServiceReading)
  deriving DecidableEq, Repr

/-- `sorted` on keys. -/
def sortedKeys (keys : List String) : List String := keys.mergeSort fun a b => !(b < a)

/-- Why the contract of a service cannot be trusted, if so. -/
def contractError (catalog : Catalog) (key : String) : RouterProg (Option String) :=
  Prog.rescue ((validateServicePrimitive catalog key).bind fun _ => .ret none) fun
    | .router m => .ret (some m)
    | e => .raise e

/-- What a reader makes of a contract and of the entries of a device. -/
def serviceReading (address : Ipv4) (service : Service) (error : Option String) (entries : ℕ) :
    ServiceReading where
  name := service.name
  available := error.isNone && entries ≤ 1
  error := if 1 < entries then
    some s!"Multiple {service.sourceList} entries found for {address.text}" else error
  blocked := entries=1
  entries := entries

def readService (catalog : Catalog) (address : Ipv4) (s : String × Service) :
    RouterProg (String × ServiceReading) :=
  (contractError catalog s.1).bind fun error =>
  (listEntries s.2.sourceList address).bind fun found =>
  .ret (s.1,serviceReading address s.2 error found.length)

def serviceReply (services : List (String × ServiceReading)) : ServiceEnforcement where
  blockedServices := sortedKeys ((services.filter fun s => s.2.blocked).map Prod.fst)
  unavailableServices := sortedKeys ((services.filter fun s => !s.2.available).map Prod.fst)
  services := services

/-- `get_device_service_enforcement`. -/
def getDeviceServiceEnforcement (catalog : Catalog) (address : Ipv4) :
    RouterProg ServiceEnforcement :=
  connect.bind fun _ => explained s!"Unable to read service enforcement for {address.text}" <|
    (validateRestrictedDevice address).bind fun _ =>
    (Prog.collect catalog (readService catalog address)).bind fun services =>
    .ret (serviceReply services)

/-- A service whose membership has to change, with the entries that are there. -/
structure PlannedService where
  key : String
  service : Service
  entries : List (ℕ × AddressEntry)
  shouldBlock : Bool

section Writing
variable (env : Environment) (catalog : Catalog) (address : Ipv4)

/-- Plan one service; the contract of a service that has to change is validated. -/
def planService (desired : List String) (s : String × Service) :
    RouterProg (Option PlannedService) :=
  (listEntries s.2.sourceList address).bind fun found =>
    let shouldBlock := desired.contains s.1
    if found.length=(if shouldBlock then 1 else 0) then .ret none
    else (validateServicePrimitive catalog s.1).bind fun _ =>
      .ret (some { key := s.1, service := s.2, entries := found, shouldBlock := shouldBlock })

def removeEntries (found : List (ℕ × AddressEntry)) : RouterProg Unit :=
  Prog.forEach found fun e => remove .addressList e.1

/-- Replace the entries of a service that shall be blocked by one. -/
def blockService (description : String) (p : PlannedService) : RouterProg Unit :=
  (removeEntries p.entries).bind fun _ =>
  add .addressList { list := p.service.sourceList, address := address.text,
                     comment := described description ("MC - Block " ++ p.service.name) }

/-- The addresses that the rules of services have detected. -/
def detectorAddresses (services : List Service) : RouterProg (List String) :=
  (Prog.collect (services.flatMap Service.rules) fun rule =>
    entries .addressList fun e => e.list=rule.detectorList).bind fun found =>
    .ret ((found.flatten.map fun e => strip e.2.address).filterMap fun text =>
      if text="" then none else some (String.ofList (text.toList.takeWhile fun c => c≠ '/')))

/-- Remove connections and count them; a failure ends the removals. -/
def resetConnections : List (ℕ × Connection) → ℕ → RouterProg ℕ
  | [], removed => .ret removed
  | c::connections, removed =>
    (Prog.rescue ((remove .connection c.1).bind fun _ => .ret true) fun _ => .ret false).bind
      fun done => if done then resetConnections connections (removed+1) else .ret removed

/-- `_terminate_service_connections`. -/
def terminateServiceConnections (newlyBlocked : List Service) : RouterProg ℕ :=
  if newlyBlocked.isEmpty then .ret 0
  else (detectorAddresses newlyBlocked).bind fun detected =>
    if detected.isEmpty then .ret 0
    else (Prog.rescue (entries .connection fun _ => true) fun _ => .ret []).bind fun connections =>
      resetConnections (connections.filter fun c =>
        strip c.2.srcAddress=address.text && detected.contains (strip c.2.dstAddress)) 0

/-- The part of `set_device_services` that writes: every block that is asked for is established
before another one is released. -/
def writeServices (desired : List String) (description : String) : RouterProg ℕ :=
  (Prog.collect catalog (planService catalog address desired)).bind fun planned =>
    let planned := planned.reduceOption
    let blocking := planned.filter fun p => p.shouldBlock
    (Prog.forEach blocking (blockService address description)).bind fun _ =>
    (Prog.forEach (planned.filter fun p => !p.shouldBlock) fun p =>
      removeEntries p.entries).bind fun _ =>
    terminateServiceConnections address (blocking.map PlannedService.service)

/-- The reply of `set_device_services`: what is read back, and the connections that were reset. -/
structure ServicesSet where
  enforcement : ServiceEnforcement
  terminatedConnections : ℕ

/-- `set_device_services`. -/
def setDeviceServices (blockedServices : List String) (description : String) :
    RouterProg ServicesSet :=
  let desired := (blockedServices.map fun key => nocase (strip key)).dedup
  let unsupported := desired.filter fun key => !catalog.keys.contains key
  let description := clip (strip description) 60
  serialized <|
    if !unsupported.isEmpty then .raise (.router
      ("Unsupported live service key(s): " ++ ", ".intercalate (sortedKeys unsupported)))
    else (requirePolicyWriteGate env).bind fun _ =>
      connect.bind fun _ =>
      (explained s!"Unable to set service policy for {address.text}" <|
        (validateRestrictedDevice address).bind fun _ =>
        writeServices catalog address desired description).bind fun terminated =>
      (getDeviceServiceEnforcement catalog address).bind fun result =>
        if sortedKeys desired=result.blockedServices then .ret ⟨result,terminated⟩
        else
          let missing := desired.filter fun key =>
            !(result.services.lookup key).any ServiceReading.available
          let suffix := if missing.isEmpty then ""
            else "; unavailable contract(s): " ++ ", ".intercalate missing
          .raise (.router (s!"Requested service policy {sortedKeys desired} but RouterOS reports " ++
            s!"{result.blockedServices} for {address.text}{suffix}"))

end Writing
end ZenControl.Router
