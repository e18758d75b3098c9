import ZenControl.Router.Contracts

/-! The security posture of RouterOS, as far as it decides whether policy may be written: the
critical checks on the filter rules, on the global mode, on the service contracts and on the
resources that the application owns. -/
namespace ZenControl.Router
open Calls

/-- The names of the critical checks that fail. -/
abbrev FailedChecks := List String

def failsUnless (name : String) (ok : Bool) : FailedChecks := if ok then [] else [name]

section Rules

/-- A rule that `add_rule_contract` expects: its name, its comment, its chain and other fields. -/
structure RuleContract where
  name : String
  comment : String
  chain : String
  expected : List ((FilterRule → String) × String)
  requireEnabled : Bool := true

/-- The rule of a contract, when there is exactly one in its chain. -/
def RuleContract.rule (contract : RuleContract) (rules : List FilterRule) : Option FilterRule :=
  match rules.filter fun r => r.comment=contract.comment && strip r.chain=contract.chain with
  | [rule] => some rule
  | _ => none

/-- `add_rule_contract`. -/
def RuleContract.ok (contract : RuleContract) (rules : List FilterRule) : Bool :=
  (contract.rule rules).any fun rule => rule.chain=contract.chain &&
    (!contract.requireEnabled || !rule.disabled) &&
    contract.expected.all fun e => e.1 rule=e.2

def webPolicyComment : String := "Restricted Devices - Web Policy"
def quicRuleComment : String := "RW01 - Block QUIC HTTP3"
def dotRuleComment : String := "MC - Block Restricted DoT"
def doqRuleComment : String := "MC - Block Restricted DoQ"
def establishedRuleComment : String := "defconf: accept established,related,untracked"

def masterContract : RuleContract where
  name := "Global MASTER authority"
  comment := masterRuleComment
  chain := "forward"
  expected := [(FilterRule.action,"drop"),(FilterRule.srcAddressList,restrictedList),
    (FilterRule.outInterfaceList,"WAN")]
  requireEnabled := false

def deviceBlockContract : RuleContract where
  name := "Per-device block authority"
  comment := deviceBlockRuleComment
  chain := "forward"
  expected := [(FilterRule.action,"drop"),(FilterRule.srcAddressList,deviceBlockList),
    (FilterRule.outInterfaceList,"WAN")]

def webJumpContract : RuleContract where
  name := "Restricted web policy jump"
  comment := webPolicyComment
  chain := "forward"
  expected := [(FilterRule.action,"jump"),(FilterRule.jumpTarget,"restricted-web"),
    (FilterRule.srcAddressList,restrictedList)]

def quicContract : RuleContract where
  name := "QUIC / HTTP3 suppression"
  comment := quicRuleComment
  chain := "restricted-web"
  expected := [(FilterRule.action,"drop"),(FilterRule.protocol,"udp"),(FilterRule.dstPort,"443")]

def dotContract : RuleContract where
  name := "DNS-over-TLS suppression"
  comment := dotRuleComment
  chain := "restricted-web"
  expected := [(FilterRule.action,"drop"),(FilterRule.protocol,"tcp"),(FilterRule.dstPort,"853"),
    (FilterRule.srcAddressList,restrictedList)]

def doqContract : RuleContract where
  name := "DNS-over-QUIC suppression"
  comment := doqRuleComment
  chain := "restricted-web"
  expected := [(FilterRule.action,"drop"),(FilterRule.protocol,"udp"),(FilterRule.dstPort,"853"),
    (FilterRule.srcAddressList,restrictedList)]

def ruleContracts : List RuleContract :=
  [masterContract,deviceBlockContract,webJumpContract,quicContract,dotContract,doqContract]

/-- `chain_rules`. -/
def chainRules (rules : List FilterRule) (chain : String) : List FilterRule :=
  rules.filter fun r => nocase (strip r.chain)=nocase (strip chain)

/-- `connection_states`. -/
def connectionStates (rule : FilterRule) : List String :=
  ((splitChars (fun c => c= ',') rule.connectionState.toList).map fun part =>
    nocase (strip (String.ofList part))).filter fun state => state≠""

/-- `established_related_accept_candidates`, by their positions in the chain. -/
def establishedRelatedAcceptCandidates (rules : List FilterRule) : List ℕ :=
  (chainRules rules "forward").findIdxs fun r => !r.disabled && nocase (strip r.action)="accept" &&
    (connectionStates r).contains "established" && (connectionStates r).contains "related"

/-- The positions of a comment in a chain. -/
def commentPositions (inChain : List FilterRule) (comment : String) : List ℕ :=
  inChain.findIdxs fun r => r.comment=comment

/-- `forward_authority_order`, as far as it decides `ok`. -/
def forwardAuthorityOrder (rules : List FilterRule) (managed required : List String) : Bool :=
  let inChain := chainRules rules "forward"
  let position (comment : String) : Option ℕ :=
    match commentPositions inChain comment with
    | [index] => some index
    | _ => none
  let duplicates := (managed ++ [establishedRuleComment]).any fun comment =>
    1 < (commentPositions inChain comment).length
  let listed (comment : String) : Bool :=
    (managed ++ [establishedRuleComment]).contains comment && (position comment).isSome
  let established := match establishedRelatedAcceptCandidates rules with
    | index::_ => some index
    | [] => position establishedRuleComment
  !duplicates && required.all listed &&
    established.any fun anchor => required.all fun comment =>
      (position comment).all fun index => index < anchor

/-- The comments of `DOH_ROUTER_RULES`. -/
def dohRuleComments : List String :=
  ["MC - Block DoH Google","MC - Block DoH Cloudflare","MC - Block DoH Quad9",
   "MC - Block DoH Quad9 Secure","MC - Block DoH Quad9 ECS","MC - Block DoH OpenDNS",
   "MC - Block DoH NextDNS","MC - Block DoH AdGuard","MC - Block DoH CleanBrowsing"]

/-- The rules of the restricted web chain that belong before its return. -/
def isManagedChainComment (comment : String) : Bool :=
  [quicRuleComment,dotRuleComment,doqRuleComment].contains comment ||
    dohRuleComments.contains comment ||
    serviceEnforcement.any (fun s => s.2.rules.any (fun r => r.comment=comment) ||
      s.2.learners.any fun l => l.comment=comment) ||
    comment.startsWith "MC|SVC|"

/-- No managed rule of the restricted web chain stands behind its return. -/
def restrictedWebOrder (rules : List FilterRule) : Bool :=
  let inChain := chainRules rules "restricted-web"
  match commentPositions inChain "RW99 - Return" with
  | [anchor] => (inChain.drop (anchor+1)).all fun r => !isManagedChainComment r.comment
  | _ => false

/-- `fasttrack_excludes_restricted` for every enabled FastTrack rule. -/
def fasttrackExcluded (rules : List FilterRule) : Bool :=
  rules.all fun r => !(r.chain="forward" && r.action="fasttrack-connection" && !r.disabled) ||
    (r.srcAddressList="!" ++ restrictedList && r.dstAddressList="!" ++ restrictedList)

/-- The checks that only read the filter rules and the global slow queues. -/
def failedRuleChecks (rules : List FilterRule) (slowQueues : List SimpleQueue) : FailedChecks :=
  let master := masterContract.rule rules
  let masterEnabled := master.any fun r => !r.disabled
  let globalMode := match master, slowQueues with
    | some rule, [queue] => rule.disabled || queue.disabled
    | _, _ => false
  let managed := [masterRuleComment,deviceBlockRuleComment,webPolicyComment]
  let required := [deviceBlockRuleComment,webPolicyComment]
  (ruleContracts.flatMap fun c => failsUnless c.name (c.ok rules)) ++
    failsUnless "Global mode runtime state" globalMode ++
    failsUnless "Forward-chain authority ordering" (forwardAuthorityOrder rules managed
      (if masterEnabled then masterRuleComment::required else required)) ++
    failsUnless "restricted-web return ordering" (restrictedWebOrder rules) ++
    failsUnless "Managed-device FastTrack exclusion" (fasttrackExcluded rules)

/-- Chains whose names have neither capitals nor blanks around them. -/
lemma chainRules_plain {rules : List FilterRule} {chain : String}
    (hrules : ∀ r ∈ rules, r.chain="forward" ∨ r.chain="restricted-web")
    (hchain : chain="forward" ∨ chain="restricted-web") :
    chainRules rules chain=rules.filter fun r => r.chain=chain := by
  have hplain {c : String} (h : c="forward" ∨ c="restricted-web") : nocase (strip c)=c := by
    rcases h with rfl | rfl <;> decide
  refine List.filter_congr fun r hr => ?_
  rw [hplain (hrules r hr),hplain hchain]

/-- Nothing stands behind the last rule of the restricted web chain. -/
lemma restrictedWebOrder_last {rules : List FilterRule}
    (hrules : ∀ r ∈ rules, r.chain="forward" ∨ r.chain="restricted-web")
    (hlast : commentPositions (rules.filter fun r => r.chain="restricted-web") "RW99 - Return"=
      [(rules.filter fun r => r.chain="restricted-web").length-1]) :
    restrictedWebOrder rules=true := by
  unfold restrictedWebOrder
  rw [chainRules_plain hrules (.inr rfl)]
  dsimp only
  rw [hlast]
  dsimp only
  rw [List.drop_of_length_le (by omega)]
  rfl

end Rules

section Integrity
variable (env : Environment)

def isManagedList (list : String) : Bool :=
  list.startsWith "MC_Mode_" || list.startsWith "MC_Block_"

/-- `ipaddress.ip_address` accepts the text. -/
def isAddress (text : String) : Bool := isIpv4 text || env.isIpv6 text

/-- `encoded_ipv4_from_name`, for one of its prefixes. -/
def encodedIpv4 (lead name : String) : Option String :=
  if name.startsWith lead then
    let suffix := name.toList.drop lead.length
    let parts := splitChars (fun c => c= '-') suffix
    if parts.length=4 && parts.all (fun part => 0 < part.length && part.length ≤ 3 &&
      part.all fun c => (digitValue c).isSome) then
      let candidate := String.ofList (suffix.map fun c => if c= '-' then '.' else c)
      if isIpv4 candidate then some candidate else none
    else none
  else none

/-- `encoded_ipv4_from_name` for queues. -/
def queueIpv4 (name : String) : Option String :=
  if name.startsWith "MC-SLOW-" then encodedIpv4 "MC-SLOW-" name else encodedIpv4 "MC-BW-" name

/-- `queue_target_ipv4`. -/
def queueTargetIpv4 (target : String) : Option String :=
  let text := strip target
  if text.toList.contains ',' then none
  else match splitChars (fun c => c= '/') text.toList with
    | [address] => if isIpv4 (String.ofList address) then some (String.ofList address) else none
    | [address,mask] =>
      if isIpv4 (String.ofList address) &&
        ((mask.all (fun c => '0' ≤ c && c ≤ '9') && naturalValue mask=some 32) ||
          String.ofList mask="255.255.255.255") then some (String.ofList address)
      else none
    | _ => none

/-- The owned entries of address lists are well formed and stand there once. -/
def addressListIntegrity (rows : List AddressEntry) : Bool :=
  let managed := rows.filter fun e => isManagedList e.list
  managed.all fun e => isAddress env e.address &&
    managed.countP (fun e' => e'.list=e.list && e'.address=e.address) ≤ 1

def isManagedQueue (name : String) : Bool :=
  name.startsWith "MC-SLOW-" || name.startsWith "MC-BW-"

/-- The owned queues carry the address of their target in their name and stand there once. -/
def queueIntegrity (rows : List SimpleQueue) : Bool :=
  let managed := rows.filter fun q => isManagedQueue q.name
  managed.all fun q => (queueIpv4 q.name).isSome && queueIpv4 q.name=queueTargetIpv4 q.target &&
    managed.countP (fun q' => q'.name=q.name) ≤ 1

/-- Owned schedulers and scripts carry an address in their name, and no scheduler misses its
script. -/
def temporaryIntegrity (schedulers scripts : List String) : Bool :=
  schedulers.all (fun name => !name.startsWith "MC-TEMP-DEV-" ||
    (encodedIpv4 "MC-TEMP-DEV-" name).any fun address =>
      scripts.contains ("MC-TEMP-RESTORE-DEV-" ++
        String.ofList (address.toList.map fun c => if c= '.' then '-' else c))) &&
  scripts.all fun name => !name.startsWith "MC-TEMP-RESTORE-DEV-" ||
    (encodedIpv4 "MC-TEMP-RESTORE-DEV-" name).isSome

def managedIntegrity (addresses : List AddressEntry) (queues : List SimpleQueue)
    (schedulers : List Scheduler) (scripts : List Script) : Bool :=
  addressListIntegrity env addresses && queueIntegrity queues &&
    temporaryIntegrity (schedulers.map Scheduler.name) (scripts.map Script.name)

end Integrity

section Gate
variable (env : Environment)

/-- Whether the contract of a service is valid; only a `RouterError` says that it is not. -/
def serviceContractOk (catalog : Catalog) (key : String) : RouterProg Bool :=
  Prog.rescue ((validateServicePrimitive catalog key).bind fun _ => .ret true) fun
    | .router _ => .ret false
    | e => .raise e

/-- `get_security_posture`: the names of the critical checks that fail. -/
def getSecurityPosture : RouterProg FailedChecks :=
  connect.bind fun _ => explained "Unable to evaluate RouterOS security posture" <|
    (rules fun _ => true).bind fun rules =>
    (entries .addressList fun _ => true).bind fun addresses =>
    (entries .queue fun _ => true).bind fun queues =>
    (entries .scheduler fun _ => true).bind fun schedulers =>
    (entries .script fun _ => true).bind fun scripts =>
    (Prog.collect serviceEnforcement.keys fun key =>
      serviceContractOk serviceEnforcement key).bind fun contracts =>
    let queues := queues.map Prod.snd
    .ret (failedRuleChecks (rules.map Prod.snd) (queues.filter fun q => q.name=slowQueueName) ++
      failsUnless "TLS/SNI service contracts" (contracts.all id) ++
      failsUnless "App-owned RouterOS state integrity" (managedIntegrity env
        (addresses.map Prod.snd) queues (schedulers.map Prod.snd) (scripts.map Prod.snd)))

/-- Remember the proof of authority inside a coherent session. -/
def recordAuthority (proven : Bool) : RouterProg Unit :=
  session.bind fun shared =>
    match shared with
    | some _ => call (.setSession (some { proven := proven }))
    | none => .ret ()

/-- `assert_policy_enforcement_ready`. -/
def assertPolicyEnforcementReady : RouterProg Unit :=
  (getSecurityPosture env).bind fun failed =>
    match failed with
    | [] => recordAuthority true
    | failed => (recordAuthority false).bind fun _ =>
      .raise (.router ("RouterOS security posture is not enforcement-ready: " ++
        ", ".intercalate failed))

/-- `_require_policy_write_gate`. -/
def requirePolicyWriteGate : RouterProg Unit :=
  session.bind fun shared =>
    if shared.any Session.proven then .ret () else assertPolicyEnforcementReady env

end Gate
end ZenControl.Router
