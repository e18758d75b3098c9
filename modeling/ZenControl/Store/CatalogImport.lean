import ZenControl.Store.Services
import ZenControl.References.Operations
import ZenControl.Library.Faults

/-! The restore of a configuration: its checks in front of the first write, the transaction that
clears the tables, and the restore of the presets, the services and the policy groups. -/
namespace ZenControl
open Calls

/-- `DEFAULT_SERVICES`. -/
def defaultServices : List (String × String) :=
  [("youtube","YouTube"),("netflix","Netflix"),("prime_video","Prime Video"),
   ("bbc_iplayer","BBC iPlayer"),("chatgpt","ChatGPT"),("openai","OpenAI"),("gaming","Gaming"),
   ("social_media","Social media"),("tiktok","TikTok"),("discord","Discord"),
   ("roblox","Roblox"),("steam","Steam"),("xbox","Xbox"),("playstation","PlayStation")]

/-- The keys of `POLICY_GROUPS`. -/
def policyGroupsKeys : List String := policyGroups.map PolicyGroup.key

section Preflight
variable (env : Env) (t : Tables)

/-- The pattern `[a-z0-9][a-z0-9_]{0,39}`. -/
def isImportKey (key : String) : Bool :=
  key.toList.head?.any isLowerAlnum && key.toList.all isKeyChar && key.length ≤ 40

/-- `payload.get(key, []) or []` as it is looped over. -/
def rowsOr (payload : PyVal) (key : String) : Py (List PyVal) := do
  ((← payload.get key (.list [])).or (.list [])).iterate

/-- The keys and names that the loop over the imported services has seen. -/
structure SeenServices where
  keys : List String := []
  names : List String := []

/-- One imported service of `_preflight_import_policy_groups`. -/
def preflightService (index : ℕ) (item : PyVal) (seen : SeenServices) : Py SeenServices := do
  refuse (item.isDict=false) ("Configuration service #" ++ toString (index+1) ++
    " must be an object")
  if (← item.get "builtin").truthy then
    let key := env.canonical (← item.get "key")
    pure (if key="" then seen else { seen with keys := seen.keys ++ [key] })
  else
    let rawKey := strip (env.orEmpty (← item.get "key"))
    let key := env.canonical (.str rawKey)
    refuse (rawKey≠key ∨ !isImportKey key)
      s!"Imported custom service stable key '{rawKey}' is invalid"
    let builtins := (listServices t).filter Service.builtin
    refuse (key ∈ (builtins.map fun s => env.canonical (.str s.key)) ∨ key ∈ seen.keys)
      ("Configuration contains duplicate or built-in-conflicting " ++
        s!"custom service key '{key}'")
    let name := strip (env.orEmpty (← item.get "name"))
    refuse (name="" ∨ 50 < name.length)
      s!"Imported custom service '{key}' name must be 1-50 characters"
    refuse (name ∈ (builtins.map fun s => strip s.name) ∨ name ∈ seen.names)
      ("Configuration contains duplicate or built-in-conflicting " ++
        s!"custom service name '{name}'")
    let description := strip (env.orEmpty (← item.get "description"))
    refuse (160 < description.length)
      s!"Imported custom service '{key}' description exceeds 160 characters"
    let category := orElse (env.lower (strip ((← item.get "category").textOr env.toPyRuntime "other")))
      "other"
    refuse (30 < category.length ∨
        (category.toList.all fun c => isLowerAlnum c || c= '_' || c= '-')=false)
      s!"Imported custom service '{key}' category is invalid"
    let dnsSuffixes ← normalizeDnsSuffixes env (← item.get "dns_suffixes" (.list []))
    let tlsPatterns ← normalizeTlsPatterns env (← item.get "tls_patterns" (.list []))
    if (← item.get "enforcement_approved").truthy then
      match buildCustomServiceContract env
        { key := key, name := name, description := description, category := category,
          dnsSuffixes := dnsSuffixes, tlsPatterns := tlsPatterns } with
      | .error (.valueError reason) => .error (.valueError
          s!"Imported custom service '{key}' RouterOS contract is invalid: {reason}")
      | .error e => .error e
      | .ok () => pure ()
    pure { keys := seen.keys ++ [key], names := seen.names ++ [name] }

/-- One imported group of `_preflight_import_policy_groups`, with the keys of the services that are
restored. -/
def preflightGroup (serviceKeys : List String) (index : ℕ) (raw : PyVal)
    (seen : List PolicyGroup) : Py PolicyGroup := do
  refuse (raw.isDict=false) ("Configuration aggregate policy group #" ++ toString (index+1) ++
    " must be an object")
  let rawKey := strip (env.orEmpty (← raw.get "key"))
  let key := env.canonical (.str rawKey)
  refuse (rawKey≠key ∨ !isImportKey key)
    (s!"Imported aggregate policy-group stable key '{rawKey}' is invalid; " ++
      "keys must be canonical lowercase identifiers up to 40 characters")
  refuse (key ∈ seen.map PolicyGroup.key)
    s!"Configuration contains duplicate aggregate policy-group key '{key}'"
  let name := strip (env.orEmpty (← raw.get "name"))
  refuse (name="" ∨ 50 < name.length)
    s!"Imported aggregate policy group '{key}' name must be 1-50 characters"
  refuse (env.casefold name ∈ seen.map fun g => env.casefold g.name)
    s!"Configuration contains duplicate aggregate policy-group name '{name}'"
  let description := strip (env.orEmpty (← raw.get "description"))
  refuse (250 < description.length)
    s!"Imported aggregate policy group '{key}' description exceeds 250 characters"
  let expectedBuiltin := key ∈ policyGroupsKeys
  let role := if expectedBuiltin then "built-in" else "custom"
  refuse ((← raw.get "builtin").truthy≠decide expectedBuiltin)
    (s!"Imported aggregate policy-group stable key '{key}' has invalid built-in identity; " ++
      s!"it must remain {role}")
  refuse (¬expectedBuiltin ∧ key ∈ serviceKeys)
    s!"Imported aggregate policy-group stable key '{key}' conflicts with a concrete service"
  let members ← raw.get "members" (.list [])
  refuse (members.isList=false)
    s!"Imported aggregate policy group '{key}' members must be a list"
  let normalized := ((← members.iterate).map env.canonical).filter fun v => v≠""
  refuse (normalized=[])
    s!"Imported aggregate policy group '{key}' must contain at least one concrete service"
  refuse (¬normalized.Nodup)
    s!"Imported aggregate policy group '{key}' contains duplicate concrete-service members"
  pure
    { key := key, name := name, description := description
      members := normalized.insertionSort fun a b => ¬ b < a, builtin := expectedBuiltin }

/-- `check` of `_validate_import_policy_references`. -/
def checkReferences (allowed : List String) (values : PyVal) (context : String) : Py Unit := do
  let values ← match values with
    | .none => pure []
    | .str s => pure [.str s]
    | values => (values.or (.list [])).iterate
  let unknown := sortedSet ((values.map env.canonical).filter fun k => k ∉ allowed)
  refuse (unknown≠[]) (s!"Configuration {context} references unknown service " ++
    "or aggregate policy group(s): " ++ ", ".intercalate unknown)

/-- The fields of the objects among some rows. -/
def checkRows (payload : PyVal) (table : String) (check : PyVal → Py Unit) : Py Unit := do
  (← rowsOr payload table).forM fun row => if row.isDict then check row else pure ()

/-- The action of one imported schedule plan. -/
def checkPlanReference (allowed : List String) (plan : PyVal) : Py Unit := do
  if env.canonical (← plan.get "action_type")≠"service" then pure ()
  else match cutAt ':' (env.canonical (← plan.get "action_value")) with
    | none => .error (.valueError
        "Configuration service schedule action must use service:block or service:allow")
    | some (key,state) =>
      checkReferences env allowed (.list [.str (strip key)]) "service schedule"
      refuse (strip state ∉ ["block","blocked","deny","allow","allowed"])
        "Configuration service schedule state must be block or allow"

/-- `_validate_import_policy_references`. -/
def validateImportPolicyReferences (payload : PyVal) (allowed : List String) : Py Unit := do
  checkRows payload "profiles" fun profile => do
    checkReferences env allowed (← profile.get "blocked_services" (.list [])) "profile"
    checkReferences env allowed (← profile.get "service_quotas" (.dict [])) "profile quota"
  checkRows payload "policy_templates" fun template => do
    checkReferences env allowed (← template.get "blocked_services" (.list [])) "policy template"
    checkReferences env allowed (← template.get "service_quotas" (.dict []))
      "policy template quota"
  checkRows payload "service_groups" fun collection => do
    checkReferences env allowed (← collection.get "services" (.list []))
      "reusable service collection"
  checkRows payload "schedule_plans" (checkPlanReference env allowed)

/-- The message for a configuration without exactly the built-in groups. -/
def builtinGroupsMessage (found : List String) : String :=
  let missing := sortedSet (policyGroupsKeys.filter fun k => k ∉ found)
  let extra := sortedSet (found.filter fun k => k ∉ policyGroupsKeys)
  let detail := (if missing=[] then [] else ["missing " ++ ", ".intercalate missing]) ++
    if extra=[] then [] else ["unexpected " ++ ", ".intercalate extra]
  "Configuration must contain the complete built-in aggregate policy groups" ++
    if detail=[] then "" else ": " ++ "; ".intercalate detail

/-- What `_preflight_import_policy_groups` returns; there are no groups in a legacy payload. -/
structure AggregateRestore where
  legacy : Bool
  groups : List PolicyGroup

/-- `_preflight_import_policy_groups`. -/
def preflightImportPolicyGroups (payload : PyVal) : Py AggregateRestore := do
  let entries ← payload.items
  let rawGroups := entries.lookup "aggregate_policy_groups"
  refuse (rawGroups.any fun v => !v.isList)
    "Configuration aggregate policy groups must be a list"
  let services := (← payload.get "services" (.list [])).or (.list [])
  refuse (services.isList=false) "Configuration services must be a list"
  let seen ← (← services.iterate).zipIdx.foldlM
    (fun seen (item,index) => preflightService env t index item seen) ({} : SeenServices)
  let builtins := ((listServices t).filter Service.builtin).map fun s => env.canonical (.str s.key)
  let serviceKeys := builtins.filter (fun k => k≠"") ++ seen.keys
  match rawGroups with
  | none =>
    validateImportPolicyReferences env payload (serviceKeys ++ policyGroupsKeys)
    pure { legacy := true, groups := [] }
  | some raw =>
    let groups ← (← raw.iterate).zipIdx.foldlM
      (fun seen (item,index) => do
        let group ← preflightGroup env serviceKeys index item seen
        pure (seen ++ [group])) []
    let found := (groups.filter PolicyGroup.builtin).map PolicyGroup.key
    refuse (policyGroupsKeys.any (fun k => k ∉ found) || found.any fun k => k ∉ policyGroupsKeys)
      (builtinGroupsMessage found)
    let keys := groups.map PolicyGroup.key
    groups.forM fun group => do
      let nested := sortedSet (group.members.filter fun k => k ∈ keys)
      refuse (nested≠[]) ("Aggregate policy groups cannot contain other aggregate groups: " ++
        ", ".intercalate nested)
      let missing := group.members.filter fun k => k ∉ serviceKeys
      let key := group.key
      refuse (missing≠[]) (s!"Imported aggregate policy group '{key}' references unknown " ++
        "concrete service(s): " ++ ", ".intercalate missing)
    validateImportPolicyReferences env payload (serviceKeys ++ keys)
    pure { legacy := false, groups := groups }

/-- The names and ids that the loop over the imported templates has seen. -/
structure SeenTemplates where
  names : List String := []
  ids : List String := []

/-- `_preflight_import_schedule_contract`. -/
def preflightImportScheduleContract (payload : PyVal) : Py Unit := do
  let templates := (← payload.get "schedule_templates" (.list [])).or (.list [])
  let exceptions := (← payload.get "date_exceptions" (.list [])).or (.list [])
  refuse (templates.isList=false) "Configuration schedule templates must be a list"
  refuse (exceptions.isList=false) "Configuration date exceptions must be a list"
  let seen ← (← templates.iterate).zipIdx.foldlM
    (fun (seen : SeenTemplates) (item,index) => do
      refuse (item.isDict=false) ("Configuration schedule template #" ++ toString (index+1) ++
        " must be an object")
      let name := strip (env.orEmpty (← item.get "name"))
      refuse (name="" ∨ 50 < name.length) "Template name must be 1-50 characters"
      refuse (env.casefold name ∈ seen.names)
        s!"Configuration contains duplicate schedule template name '{name}'"
      let ids ← match ← item.get "id" with
        | .none => pure seen.ids
        | id =>
          let identity := id.text env.toPyRuntime
          refuse (identity ∈ seen.ids)
            s!"Configuration contains duplicate schedule template id '{identity}'"
          pure (seen.ids ++ [identity])
      let _ ← normalizeScheduleTemplateEntries env (← item.get "entries" (.list []))
      pure { names := seen.names ++ [env.casefold name], ids := ids }) ({} : SeenTemplates)
  (← exceptions.iterate).zipIdx.forM fun (item,index) => do
    refuse (item.isDict=false) ("Configuration date exception #" ++ toString (index+1) ++
      " must be an object")
    if env.canonical (← item.get "mode")≠"template" then pure ()
    else
      let id ← item.get "template_id"
      let label := orElse (env.orEmpty (← item.get "label")) ("#" ++ toString (index+1))
      let absent : Bool := match id with
        | .none => true
        | id => id.text env.toPyRuntime ∉ seen.ids
      refuse absent
        s!"Configuration date exception '{label}' references a missing schedule template"

end Preflight

section Import
variable (env : Env)

/-- A transaction of one statement that is not journalled. -/
def directWrite (f : Tables → Py Tables) : StoreProg Unit :=
  Prog.withDb (Prog.write (fun db : Store => (f db.tables).map fun t => { db with tables := t })
    fun _ => .ret ())

/-- One custom preset of a payload. -/
def importPreset (row : PyVal) : StoreProg Unit := do
  if (← ofPy (row.get "builtin")).truthy then .ret ()
  else
    let args ← ofPy (show Py PresetArgs from do
      pure
        { key := ← row.item "key", name := ← row.item "name", upload := ← row.item "upload",
          download := ← row.item "download", description := ← row.get "description" (.str "") })
    saveBandwidthPreset env args

/-- One custom service of a payload. -/
def importService (row : PyVal) : StoreProg Unit := do
  if (← ofPy (row.get "builtin")).truthy then .ret ()
  else
    let args ← ofPy (show Py ServiceArgs from do
      pure
        { key := ← row.item "key", name := ← row.item "name"
          description := ← row.get "description" (.str "")
          category := ← row.get "category" (.str "other")
          dnsSuffixes := ← row.get "dns_suffixes" (.list [])
          tlsPatterns := ← row.get "tls_patterns" (.list [])
          classifierEnabled := ← row.get "classifier_enabled" (.bool true) })
    discarding (saveService env args)
    if (← ofPy (row.get "enforcement_approved")).truthy then
      discarding (setServiceEnforcementApproved env args.key true)
    else .ret ()

/-- The built-in groups with their default names and members, which a legacy payload restores. -/
def resetBuiltinGroups (t : Tables) : Py Tables :=
  policyGroups.foldlM (fun t group =>
    amendPolicyGroup group.key group.name group.description
      (group.members.insertionSort fun a b => ¬ b < a) env.nowIso t) t

/-- One checked group of a payload, whose key and name are clean and not blank. -/
def importGroup (group : PolicyGroup) : StoreProg Unit := do
  let clean ← query fun t => validatePolicyGroupMembers env t (.list (group.members.map .str))
  if group.builtin ∧ group.key ∈ policyGroupsKeys then
    directWrite (amendPolicyGroup group.key (clip group.name 50) (clip group.description 250) clean
      env.nowIso)
  else
    let key := group.key
    let _ ← query fun t => refuse
      (key ∈ (listServices t).map Service.key ∨ key ∈ policyGroupsKeys)
      (s!"Imported aggregate policy-group key '{key}' conflicts with " ++
        "a service or built-in group")
    directWrite (insertPolicyGroup
      { key := group.key, name := group.name, description := group.description, members := clean,
        createdAt := env.nowIso, updatedAt := env.nowIso })

/-- The checks of `import_config` in front of its first write. -/
def preflightImport (t : Tables) (payload : PyVal) : Py AggregateRestore := do
  refuse (payload.isDict=false) "Unsupported configuration format"
  refuse ((← payload.get "version").eqInt 1=false) "Unsupported configuration format"
  preflightImportScheduleContract env payload
  preflightImportPolicyGroups env t payload

/-- `import_config` as far as it restores the presets, the services and the policy groups: all of
its checks in front of the first write, the transaction that clears the tables, and the loops over
the three. The tables that it restores behind them are those of other operations. -/
def importCatalog (payload : PyVal) : StoreProg Unit := do
  let restore ← query fun t => preflightImport env t payload
  clearConfig
  Prog.forEach (← ofPy do (← payload.get "bandwidth_presets" (.list [])).iterate) (importPreset env)
  Prog.forEach (← ofPy do (← payload.get "services" (.list [])).iterate) (importService env)
  if restore.legacy then directWrite (resetBuiltinGroups env) else .ret ()
  Prog.forEach restore.groups (importGroup env)

end Import
end ZenControl
