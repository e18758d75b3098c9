import ZenControl.Policy.Clock
import ZenControl.Value

/-! The services and the aggregate policy groups that policy keys are resolved against. -/
namespace ZenControl

/-- What the policy takes from its environment beside Python's own text operations: the zone
database, the configured default zone, and the texts and percentages that are computed in
floating point. -/
structure Runtime extends PyRuntime where
  zone : String → Option Zone
  environmentTimezone : String := "Europe/London"
  percentTenths : ℤ → ℤ → ℤ
  formatBytes : ℤ → String

section Order
variable {α : Type}

/-- `ORDER BY` of a table by a text key; equal keys stay in row order. -/
def orderBy (key : α → String) (rows : List α) : List α :=
  rows.insertionSort fun a b => ¬ key b < key a

/-- `ORDER BY first, second`. -/
def orderBy2 {κ : Type} [LT κ] [DecidableLT κ] (first : α → κ) (second : α → String)
    (rows : List α) : List α :=
  rows.insertionSort fun a b =>
    first a < first b ∨ (¬ first b < first a ∧ ¬ second b < second a)

end Order

/-- The keys and names of `SERVICE_ENFORCEMENT`. -/
def serviceEnforcement : List (String × String) :=
  [("youtube","YouTube"),("chatgpt","ChatGPT"),("openai","OpenAI"),("netflix","Netflix"),
   ("prime_video","Prime Video"),("bbc_iplayer","BBC iPlayer"),("tiktok","TikTok"),
   ("discord","Discord"),("roblox","Roblox"),("steam","Steam"),("xbox","Xbox"),
   ("playstation","PlayStation")]

/-- `SUPPORTED_SERVICE_KEYS`. -/
def supportedServiceKeys : List String := serviceEnforcement.map Prod.fst

/-- `POLICY_GROUPS`. -/
def policyGroups : List PolicyGroup :=
  [{ key := "gaming", name := "Gaming", members := ["roblox","steam","xbox","playstation"],
     description := "Aggregate policy for the concrete gaming services currently backed " ++
       "by RouterOS. It does not claim to block every game or gaming protocol.",
     builtin := true },
   { key := "social_media", name := "Social media", members := ["tiktok","discord"],
     description := "Conservative social/communications aggregate using the concrete " ++
       "TikTok and Discord contracts. Other social platforms can be added " ++
       "when they have trusted classifiers.",
     builtin := true }]

/-- `list_services`. -/
def listServices (t : Tables) : List Service :=
  orderBy2 (fun s => if s.builtin then 0 else 1) (fun s => nocase s.name) t.services

/-- The patterns, the token and the checks of `build_custom_service_contract`, as far as
they decide whether it raises. -/
def customContractBuilds (rt : Runtime) (s : Service) : Bool :=
  let key := rt.lower (strip s.key)
  let patterns := (s.tlsPatterns.map fun p => rt.lower (strip p)).filter fun p => p≠""
  let token := (rt.lower key).toList.filter fun c =>
    ('a' ≤ c && c ≤ 'z') || ('0' ≤ c && c ≤ '9')
  !s.builtin && !patterns.isEmpty && patterns.length ≤ 40 && !token.isEmpty &&
    token.length ≤ 48

/-- `routeros_supported_service_keys`. -/
def routerosSupportedServiceKeys (rt : Runtime) (t : Tables) : List String :=
  supportedServiceKeys ++ ((listServices t).filter fun s =>
    !s.builtin && s.enforcementApproved && customContractBuilds rt s).map Service.key

/-- The sorted set of the stripped and lowered values that are not empty. -/
def cleanKeys (rt : Runtime) (values : List String) : List String :=
  sortedSet ((values.map fun v => rt.lower (strip v)).filter fun v => v≠"")

/-- A catalogue of groups by key. -/
abbrev GroupCatalog := List (String × PolicyGroup)

/-- `normalized_group_catalog`. -/
def normalizedGroupCatalog (rt : Runtime) (source : GroupCatalog) : GroupCatalog :=
  source.foldl (fun result (rawKey,item) =>
    let key := rt.lower (strip rawKey)
    if key="" then result
    else dictSet result key
      { item with
        key := key
        name := if item.name="" then key else item.name
        members := cleanKeys rt item.members }) []

/-- `list_policy_groups`, without the names of the members. -/
def listPolicyGroups (rt : Runtime) (t : Tables) : List PolicyGroup :=
  (orderBy (fun g => nocase g.name) t.policyGroups).map fun g =>
    { g with members := cleanKeys rt g.members }

/-- `policy_group_catalog`. -/
def policyGroupCatalog (rt : Runtime) (t : Tables) : GroupCatalog :=
  normalizedGroupCatalog rt
    ((listPolicyGroups rt t).foldl (fun d g => dictSet d g.key g) [])

/-- `policy_group_keys`. -/
def policyGroupKeys (rt : Runtime) (t : Tables) : List String :=
  (policyGroupCatalog rt t).map Prod.fst

/-- `group_members`. -/
def groupMembers (rt : Runtime) (key : String) (catalog : GroupCatalog) : List String :=
  (((normalizedGroupCatalog rt catalog).lookup (rt.lower (strip key))).map
    PolicyGroup.members).getD []

/-- What `expand_policy_keys` returns. -/
structure ExpandedKeys where
  requested : List String
  groups : List String
  effectiveServices : List String
  unsupported : List String
  unsupportedGroupMembers : List String
  deriving DecidableEq, Repr

/-- `expand_policy_keys`. -/
def expandPolicyKeys (rt : Runtime) (values supported : List String) (catalog : GroupCatalog) :
    ExpandedKeys :=
  let requested := (values.filter fun v => strip v≠"").map fun v => rt.lower (strip v)
  let supported := if supported.isEmpty then supportedServiceKeys else supported
  let groupsCatalog := normalizedGroupCatalog rt catalog
  let groupKeys := groupsCatalog.map Prod.fst
  let groups := sortedSet (requested.filter fun k => k ∈ groupKeys)
  let members := groups.flatMap fun k => groupMembers rt k groupsCatalog
  { requested := sortedSet requested
    groups := groups
    effectiveServices := sortedSet
      (requested.filter (fun k => k ∈ supported) ++ members.filter fun m => m ∈ supported)
    unsupported := sortedSet (requested.filter fun k => k ∉ supported ∧ k ∉ groupKeys)
    unsupportedGroupMembers := sortedSet (members.filter fun m => m ∉ supported) }

/-- One entry of `policy_group_states`. -/
structure PolicyGroupState where
  key : String
  name : String
  description : String
  members : List String
  memberNames : List String
  requested : Bool
  quotaActive : Bool
  blockedMembers : List String
  active : Bool
  fullyBlocked : Bool
  builtin : Bool
  deriving DecidableEq, Repr

/-- `policy_group_states`. -/
def policyGroupStates (rt : Runtime) (requestedGroups blockedServices quotaActiveGroups :
    List String) (catalog : GroupCatalog) (serviceNames : List (String × String)) :
    List PolicyGroupState :=
  (normalizedGroupCatalog rt catalog).map fun (key,item) =>
    let blockedMembers := item.members.filter fun m => m ∈ blockedServices
    { key := key, name := item.name, description := item.description, members := item.members
      memberNames := item.members.map fun m =>
        orElse ((serviceNames.lookup m).getD "")
          (orElse ((serviceEnforcement.lookup m).getD "") m)
      requested := key ∈ requestedGroups
      quotaActive := key ∈ quotaActiveGroups
      blockedMembers := blockedMembers
      active := !blockedMembers.isEmpty
      fullyBlocked := !item.members.isEmpty && blockedMembers.length=item.members.length
      builtin := item.builtin }

end ZenControl
