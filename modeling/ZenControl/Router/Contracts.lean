import ZenControl.Router.Addresses
import ZenControl.Router.Catalog

/-! The readings by which the adapter validates what it relies on: the contract of a service, the
block rule of devices and the membership of a device in `Restricted_Devices`. -/
namespace ZenControl.Router
open Calls

/-- `repr` of a field that may be missing. -/
def shown (field : String) : String := if field="" then "None" else s!"'{field}'"

/-- What a rule of a contract has that it should not have. -/
def ruleProblems (checks : List (Bool × String)) : List String :=
  (checks.filter fun c => c.1).map Prod.snd

def blockRuleProblems (service : Service) (expected : ServiceRule) (rule : FilterRule) :
    List String :=
  ruleProblems
    [(rule.disabled,"disabled"),
     (rule.chain≠"restricted-web","chain=" ++ shown rule.chain),
     (rule.action≠"drop","action=" ++ shown rule.action),
     (rule.srcAddressList≠service.sourceList,"src-address-list=" ++ shown rule.srcAddressList),
     (rule.dstAddressList≠expected.detectorList,"dst-address-list=" ++ shown rule.dstAddressList)]

def learnerProblems (expected : Learner) (rule : FilterRule) : List String :=
  ruleProblems
    [(rule.disabled,"disabled"),
     (rule.chain≠"restricted-web","chain=" ++ shown rule.chain),
     (rule.action≠"add-dst-to-address-list","action=" ++ shown rule.action),
     (rule.protocol≠"tcp","protocol=" ++ shown rule.protocol),
     (rule.dstPort≠"443","dst-port=" ++ shown rule.dstPort),
     (rule.addressList≠expected.addressList,"address-list=" ++ shown rule.addressList),
     (rule.tlsHost≠expected.tlsHost,"tls-host=" ++ shown rule.tlsHost)]

/-- The one rule of a comment, without problems. -/
def validateRule (comment contract : String) (problems : FilterRule → List String) :
    RouterProg (ℕ × String) :=
  (rules fun r => r.comment=comment).bind fun found =>
    match found with
    | [(id,rule)] =>
      match problems rule with
      | [] => .ret (id,comment)
      | problems => .raise (.router (s!"'{comment}' does not match the managed {contract}: " ++
          ", ".intercalate problems))
    | found => .raise (.router s!"Expected exactly one '{comment}' rule, found {found.length}")

/-- The rules of a custom contract that do not stand before `RW99 - Return`. -/
def lateRules (chainLocal : List (ℕ × FilterRule)) (anchor : ℕ) (items : List (ℕ × String)) :
    List String :=
  let position (id : ℕ) := chainLocal.findIdx fun r => r.1=id
  (items.filter fun item => chainLocal.length ≤ position item.1 ||
    position anchor ≤ position item.1).map Prod.snd

/-- `_validate_service_contract`. -/
def validateServiceContract (service : Service) : RouterProg Unit :=
  (Prog.collect service.rules fun expected => validateRule expected.comment "service contract"
    (blockRuleProblems service expected)).bind fun blockRules =>
  (Prog.collect service.learners fun expected => validateRule expected.comment
    "TLS/SNI classifier contract" (learnerProblems expected)).bind fun learnerRules =>
  if !service.managedCustom then .ret ()
  else (rules fun _ => true).bind fun allRules =>
    let chainLocal := allRules.filter fun r => r.2.chain="restricted-web"
    match chainLocal.filter fun r => r.2.comment="RW99 - Return" with
    | [(anchor,_)] =>
      match lateRules chainLocal anchor (blockRules ++ learnerRules) with
      | [] => .ret ()
      | late => .raise (.router
          ("Managed custom service rule(s) are not before RW99 - Return: " ++ ", ".intercalate late))
    | found => .raise (.router
        s!"Expected exactly one 'RW99 - Return' in restricted-web, found {found.length}")

/-- `_validate_service_primitive`. -/
def validateServicePrimitive (catalog : Catalog) (key : String) : RouterProg Unit :=
  match catalog.lookup key with
  | none => .raise (.router ("Unknown managed service key: " ++ key))
  | some service => validateServiceContract service

/-- `_validate_device_block_primitive`. -/
def validateDeviceBlockPrimitive : RouterProg Unit :=
  (rules fun r => r.comment=deviceBlockRuleComment).bind fun found =>
    match found with
    | [(_,rule)] =>
      if rule.disabled then
        .raise (.router s!"'{deviceBlockRuleComment}' exists but is disabled")
      else .ret ()
    | found => .raise (.router
        s!"Expected exactly one '{deviceBlockRuleComment}' rule, found {found.length}")

/-- `_validate_restricted_device`. -/
def validateRestrictedDevice (address : Ipv4) : RouterProg Unit :=
  (entries .addressList fun e => e.list=restrictedList && e.address=address.text).bind fun found =>
    if (found.filter fun e => !e.2.dynamic).length=1 then .ret ()
    else .raise (.router s!"{address.text} is not exactly one static {restrictedList} member")

end ZenControl.Router
