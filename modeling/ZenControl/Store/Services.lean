import ZenControl.Store.Presets
import ZenControl.Store.Profiles
import ZenControl.Telemetry.Classifier

/-! The writers of the service catalogue and of the aggregate policy groups. -/
namespace ZenControl
open Calls

section Patterns
variable (env : Env)

/-- A separator of `re.split(r"[,\n\r\t ]+", text)`. -/
def isListSeparator (c : Char) : Bool :=
  c= ',' || c= '\n' || c= '\r' || c= '\t' || c= ' '

/-- The items of a list, or of a text that is split. -/
def listedValues (values : PyVal) : Py (List PyVal) :=
  match values with
  | .str s => .ok ((splitChars isListSeparator s.toList).map fun cs => .str (String.ofList cs))
  | values => (values.or (.list [])).iterate

/-- `text.removeprefix(start)`. -/
def withoutStart (start text : String) : String :=
  if text.startsWith start then String.ofList (text.toList.drop start.length) else text

def isLowerAlnum (c : Char) : Bool := ('a' ≤ c && c ≤ 'z') || ('0' ≤ c && c ≤ '9')

/-- The pattern `[a-z0-9](?:[a-z0-9.-]*[a-z0-9])?`. -/
def isDnsSuffix (text : String) : Bool :=
  text.toList.head?.any isLowerAlnum && text.toList.getLast?.any isLowerAlnum &&
    text.toList.all fun c => isLowerAlnum c || c= '.' || c= '-'

/-- The pattern `[a-z0-9.*_-]+` on a text that is not empty. -/
def isTlsPattern (text : String) : Bool :=
  text.toList.all fun c => isLowerAlnum c || c= '.' || c= '*' || c= '_' || c= '-'

/-- One suffix of `_normalize_dns_suffixes`, if it is not left out. -/
def dnsSuffix (raw : PyVal) : Py (Option String) := do
  let value := Telemetry.dropDots (env.canonical raw)
  let value := withoutStart "http://" (withoutStart "https://" value)
  let value := String.ofList (value.toList.takeWhile fun c => c ≠ '/')
  let value := withoutStart "*." value
  if value="" then pure none
  else
    refuse (253 < value.length ∨ !isDnsSuffix value)
      ("Invalid DNS suffix: " ++ raw.text env.toPyRuntime)
    pure (some value)

/-- One pattern of `_normalize_tls_patterns`, if it is not left out. -/
def tlsPattern (raw : PyVal) : Py (Option String) := do
  let value := env.canonical raw
  if value="" then pure none
  else
    refuse (200 < value.length ∨ !isTlsPattern value)
      ("Invalid TLS/SNI pattern: " ++ raw.text env.toPyRuntime)
    pure (some value)

/-- The values that a check makes of the items, each once, at most `limit` of them. -/
def normalizedValues (check : PyVal → Py (Option String)) (limit : ℕ) (values : PyVal) :
    Py (List String) := do
  let raws ← listedValues values
  let found ← raws.mapM check
  pure ((found.filterMap id).foldl (fun seen v => if v ∈ seen then seen else seen ++ [v]) []
    |>.take limit)

/-- `_normalize_dns_suffixes`. -/
def normalizeDnsSuffixes (values : PyVal) : Py (List String) :=
  normalizedValues (dnsSuffix env) 80 values

/-- `_normalize_tls_patterns`. -/
def normalizeTlsPatterns (values : PyVal) : Py (List String) :=
  normalizedValues (tlsPattern env) 40 values

end Patterns

section Services
variable (env : Env)

/-- `get_service`. -/
def getService (t : Tables) (key : String) : Option Service :=
  (listServices t).find? fun s => s.key=key

/-- The checks of `build_custom_service_contract`. -/
def buildCustomServiceContract (s : Service) : Py Unit := do
  refuse s.builtin "Only custom services can use managed custom provisioning"
  let patterns := (s.tlsPatterns.map fun p => env.lower (strip p)).filter fun p => p≠""
  refuse patterns.isEmpty ("Custom RouterOS enforcement requires at least one TLS/SNI pattern; " ++
    "DNS-only services remain reporting-only")
  refuse (40 < patterns.length)
    "Custom RouterOS enforcement supports at most 40 TLS/SNI patterns"
  let token := (env.lower (env.lower (strip s.key))).toList.filter isLowerAlnum
  refuse token.isEmpty "Custom service key is required for RouterOS provisioning"
  refuse (48 < token.length) "Custom service key is too long for deterministic RouterOS names"

/-- `set_service_enforcement_approved`. -/
def setServiceEnforcementApproved (key : PyVal) (approved : Bool) :
    StoreProg (Option Service) := do
  let key := env.canonical key
  let _ ← query fun t => match getService t key with
    | none => .error (.valueError "Service not found")
    | some service => do
      refuse service.builtin
        "Built-in RouterOS contracts are manually owned and cannot be reprovisioned"
      if approved then buildCustomServiceContract env service else pure ()
  let _ ← storeWrite env "services" "Service enforcement approval changed" do
    Body.execute fun t => .ok { t with
      services := Rows.amend Service.key key (fun s => { s with
        enforcementApproved := approved
        enforcementApprovedAt := if approved then env.nowIso else "" }) t.services }
  query fun t => .ok (getService t key)

/-- `INSERT INTO services ... ON CONFLICT(key)`; the names are unique too. -/
def upsertService (service : Service) (t : Tables) : Py Tables :=
  if t.services.any fun s => s.key≠service.key && s.name=service.name then .error .integrityError
  else match Rows.row Service.key service.key t.services with
  | some _ => .ok { t with
      services := Rows.amend Service.key service.key (fun old => { old with
        name := service.name
        description := service.description
        category := service.category
        dnsSuffixes := service.dnsSuffixes
        tlsPatterns := service.tlsPatterns
        classifierEnabled := service.classifierEnabled }) t.services }
  | none => .ok { t with services := t.services ++ [service] }

/-- The arguments of `save_service`. -/
structure ServiceArgs where
  key : PyVal
  name : PyVal
  description : PyVal := .str ""
  category : PyVal := .str "other"
  dnsSuffixes : PyVal := .list []
  tlsPatterns : PyVal := .list []
  classifierEnabled : PyVal := .bool true

/-- The category that a service is stored with. -/
def serviceCategory (category : PyVal) : Py String := do
  let text := env.lower (strip (category.textOr env.toPyRuntime "other"))
  let kept := String.ofList (text.toList.filter fun c => isLowerAlnum c || c= '_' || c= '-')
  let category := orElse kept "other"
  refuse (30 < category.length) "Service category is too long"
  pure category

/-- The checks of `save_service` in front of its transaction. The key of the result is made of
the argument as that of a preset is. -/
def checkedService (a : ServiceArgs) : Py Service := do
  let key := presetKey env (← a.key.stripped)
  refuse (key="" ∨ 40 < key.length) "Service key must contain letters/numbers"
  let name ← a.name.stripped
  refuse (name="") "Service name is required"
  let category ← serviceCategory env a.category
  let dnsSuffixes ← normalizeDnsSuffixes env a.dnsSuffixes
  let tlsPatterns ← normalizeTlsPatterns env a.tlsPatterns
  pure
    { key := key, name := clip name 50, category := category, dnsSuffixes := dnsSuffixes,
      tlsPatterns := tlsPatterns, classifierEnabled := a.classifierEnabled.truthy }

/-- `save_service`. -/
def saveService (a : ServiceArgs) : StoreProg (Option Service) := do
  let service ← ofPy (checkedService env a)
  let _ ← storeWrite env "services" "Custom service saved" do
    let _ ← Body.read fun t =>
      match Rows.row Service.key service.key t.services with
      | none => .ok ()
      | some existing => do
        refuse existing.builtin "Built-in services cannot be replaced"
        refuse (existing.enforcementApproved ∧ existing.tlsPatterns≠service.tlsPatterns)
          "Remove the approved RouterOS contract before changing TLS/SNI patterns"
    let description ← Body.ofPy a.description.stripped
    Body.execute (upsertService { service with description := clip description 160 })
  query fun t => .ok ((listServices t).find? fun s => s.key=service.key)

end Services

section Usage
variable (env : Env) (t : Tables)

/-- What `policy_group_usage` returns: the ids and names of what refers to a key. -/
structure PolicyUsage where
  profiles : List (ℤ × String)
  quotas : List (ℤ × String)
  templates : List (ℤ × String)
  schedules : List (ℤ × String)
  collections : List (ℤ × String)
  deriving DecidableEq, Repr

def PolicyUsage.total (u : PolicyUsage) : ℕ :=
  u.profiles.length+u.quotas.length+u.templates.length+u.schedules.length+u.collections.length

/-- The service key that a schedule plan acts on. -/
def planServiceKey (plan : SchedulePlan) : Option String :=
  match plan.action with
  | .mode _ => none
  | .service value =>
    match normalizeServiceScheduleAction env.toRuntime t value with
    | .ok (key,_) => some key
    | .error _ => some (String.ofList (value.toList.takeWhile fun c => c ≠ ':'))

/-- `policy_group_usage`. -/
def policyGroupUsage (key : String) : PolicyUsage :=
  let byName {α : Type} (name : α → String) (rows : List α) := orderBy (fun r => nocase (name r)) rows
  { profiles := ((byName Profile.name t.profiles).filter fun p => key ∈ p.blockedServices).map
      fun p => (p.id.val,p.name)
    quotas := ((byName Profile.name t.profiles).filter fun p =>
      key ∈ p.serviceQuotas.map Prod.fst).map fun p => (p.id.val,p.name)
    templates := ((byName PolicyTemplate.name t.policyTemplates).filter fun p =>
      key ∈ p.blockedServices ∨ key ∈ p.serviceQuotas.map Prod.fst).map fun p => (p.id,p.name)
    schedules := ((listSchedulePlans t).filter fun plan => planServiceKey env t plan=some key).map
      fun plan => (plan.id,plan.label)
    collections := ((byName ServiceGroup.name t.serviceGroups).filter fun g =>
      key ∈ g.services).map fun g => (g.id,g.name) }

/-- The aggregate groups of `service_usage`, by key and name. -/
def aggregateUsage (key : String) : List (String × String) :=
  ((listPolicyGroups env.toRuntime t).filter fun g => key ∈ g.members).map fun g => (g.key,g.name)

/-- The labels of the reference kinds that are in use, each with an `s` behind several. -/
def usageLabels (usage : PolicyUsage) (aggregates : List (String × String)) : List String :=
  [(usage.profiles.length,"profile"),(usage.quotas.length,"service quota"),
    (usage.templates.length,"policy template"),(usage.schedules.length,"schedule"),
    (usage.collections.length,"reusable service collection"),
    (aggregates.length,"aggregate policy group")].filterMap fun (count,label) =>
      if count=0 then none else some (label ++ if count=1 then "" else "s")

/-- The checks of `delete_service` in front of its transaction. -/
def deletableService (key : String) : Py Unit := do
  match Rows.row Service.key key t.services with
  | none => .error (.valueError "Service not found")
  | some service =>
    refuse service.builtin "Built-in services cannot be deleted"
    refuse service.enforcementApproved
      "Remove the custom RouterOS enforcement contract before deleting this service"
    let usage := policyGroupUsage env t key
    let aggregates := aggregateUsage env t key
    let total := usage.total+aggregates.length
    refuse (total≠0) ("Custom service is still referenced by " ++ toString total ++
      " policy/configuration reference(s) (" ++ ", ".intercalate (usageLabels usage aggregates) ++
      "); remove those references before deleting it")

/-- `delete_service`. -/
def deleteService (key : PyVal) : StoreProg Unit := do
  let key := env.canonical key
  let _ ← query fun t => deletableService env t key
  storeWrite env "services" "Custom service deleted" do
    let _ ← Body.execute fun t =>
      match Rows.row Service.key key t.services with
      | none => .error (.valueError "Service not found")
      | some _ => .ok { t with services := Rows.drop Service.key key t.services }

end Usage

section Groups
variable (env : Env) (t : Tables)

/-- `_validate_policy_group_members`. -/
def validatePolicyGroupMembers (members : PyVal) : Py (List String) := do
  let values ← (members.or (.list [])).iterate
  let clean := sortedSet ((values.map env.canonical).filter fun v => v≠"")
  refuse (clean=[]) "Aggregate policy group must contain at least one concrete service"
  let nested := clean.filter fun k => k ∈ policyGroupKeys env.toRuntime t
  refuse (nested≠[]) ("Aggregate policy groups cannot contain other aggregate groups: " ++
    ", ".intercalate nested)
  let missing := clean.filter fun k => k ∉ (listServices t).map Service.key
  refuse (missing≠[]) ("Unknown concrete service(s): " ++ ", ".intercalate missing)
  pure clean

/-- `_new_policy_group_key`. -/
def newPolicyGroupKey (name : String) : Py String :=
  let base := clip (orElse (presetKey env (strip name)) "group") 32
  let reserved := (listServices t).map Service.key ++ policyGroupKeys env.toRuntime t
  if base ∉ reserved then .ok base
  else
    let candidates := (List.range 998).map fun i => clip base 27 ++ "_" ++ toString (i+2)
    match candidates.find? fun k => k ∉ reserved with
    | some key => .ok key
    | none => .error (.valueError "Unable to allocate a unique aggregate policy-group key")

def duplicateGroup : StoreError :=
  .valueError "An aggregate policy group with that name already exists"

/-- `INSERT INTO aggregate_policy_groups`, whose keys and names are unique. -/
def insertPolicyGroup (group : PolicyGroup) (t : Tables) : Py Tables :=
  if t.policyGroups.any fun g => g.key=group.key || g.name=group.name then .error .integrityError
  else .ok { t with policyGroups := t.policyGroups ++ [group] }

/-- `UPDATE aggregate_policy_groups`; it may find no row. -/
def amendPolicyGroup (key name description : String) (members : List String) (now : String)
    (t : Tables) : Py Tables :=
  if (Rows.row PolicyGroup.key key t.policyGroups).isSome &&
      t.policyGroups.any fun g => g.key≠key && g.name=name then .error .integrityError
  else .ok { t with
    policyGroups := Rows.amend PolicyGroup.key key (fun g => { g with
      name := name, description := description, members := members, updatedAt := now })
      t.policyGroups }

/-- The arguments of `create_policy_group` and of `update_policy_group`. -/
structure GroupArgs where
  name : PyVal
  description : PyVal := .str ""
  members : PyVal := .list []

/-- The checks of `create_policy_group` in front of its transaction, and its new row. -/
def checkedPolicyGroup (a : GroupArgs) : Py PolicyGroup := do
  let name := strip (env.orEmpty a.name)
  refuse (name="" ∨ 50 < name.length) "Aggregate policy group name must be 1-50 characters"
  if (listPolicyGroups env.toRuntime t).any fun g => env.casefold g.name=env.casefold name then
    .error duplicateGroup
  else
    let clean ← validatePolicyGroupMembers env t a.members
    let key ← newPolicyGroupKey env t name
    pure
      { key := key, name := name, description := clip (strip (env.orEmpty a.description)) 250,
        members := clean, createdAt := env.nowIso, updatedAt := env.nowIso }

/-- `create_policy_group`. -/
def createPolicyGroup (a : GroupArgs) : StoreProg (Option PolicyGroup) := do
  let group ← query fun t => checkedPolicyGroup env t a
  let _ ← storeWrite env "policy-groups" "Aggregate policy group created" do
    Body.execute fun t =>
      orDuplicate "An aggregate policy group with that name already exists"
        (insertPolicyGroup group t)
  query fun t => .ok ((listPolicyGroups env.toRuntime t).find? fun g => g.key=group.key)

/-- The checks of `update_policy_group` in front of its transaction, with the name and the members
that it writes. -/
def checkedGroupUpdate (key : String) (a : GroupArgs) : Py (String × List String) := do
  match (listPolicyGroups env.toRuntime t).find? fun g => g.key=key with
  | none => .error (.valueError "Aggregate policy group not found")
  | some _ =>
    let name := strip (env.orEmpty a.name)
    refuse (name="" ∨ 50 < name.length) "Aggregate policy group name must be 1-50 characters"
    if (listPolicyGroups env.toRuntime t).any fun g =>
        g.key≠key && env.casefold g.name=env.casefold name then .error duplicateGroup
    else
      let clean ← validatePolicyGroupMembers env t a.members
      pure (name,clean)

/-- `update_policy_group`. -/
def updatePolicyGroup (key : PyVal) (a : GroupArgs) : StoreProg (Option PolicyGroup) := do
  let key := env.canonical key
  let (name,clean) ← query fun t => checkedGroupUpdate env t key a
  let _ ← storeWrite env "policy-groups" "Aggregate policy group updated" do
    let _ ← Body.read fun t => refuse (Rows.row PolicyGroup.key key t.policyGroups).isNone
      "Aggregate policy group not found"
    Body.execute fun t =>
      orDuplicate "An aggregate policy group with that name already exists"
        (amendPolicyGroup key name (clip (strip (env.orEmpty a.description)) 250) clean
          env.nowIso t)
  query fun t => .ok ((listPolicyGroups env.toRuntime t).find? fun g => g.key=key)

/-- The checks of `delete_policy_group` in front of its transaction. -/
def deletablePolicyGroup (key : String) : Py Unit := do
  match (listPolicyGroups env.toRuntime t).find? fun g => g.key=key with
  | none => .error (.valueError "Aggregate policy group not found")
  | some group =>
    refuse group.builtin ("Built-in aggregate policy groups cannot be deleted; " ++
      "rename or update their membership instead")
    let total := (policyGroupUsage env t key).total
    refuse (total≠0) ("Aggregate policy group is still referenced by " ++ toString total ++
      " policy reference(s); remove those references before deleting it")

/-- `delete_policy_group`. -/
def deletePolicyGroup (key : PyVal) : StoreProg Unit := do
  let key := env.canonical key
  let _ ← query fun t => deletablePolicyGroup env t key
  storeWrite env "policy-groups" "Aggregate policy group deleted" do
    let _ ← Body.execute fun t =>
      match Rows.row PolicyGroup.key key t.policyGroups with
      | none => .error (.valueError "Aggregate policy group not found")
      | some _ => .ok { t with policyGroups := Rows.drop PolicyGroup.key key t.policyGroups }

end Groups
end ZenControl
