import ZenControl.Value

/-! The service classifier of the ingest process: the compiled catalogue and what it makes of
the evidence on one record. -/
namespace ZenControl.Telemetry

section Catalogue
variable (py : PyRuntime)

/-- `text.rstrip(".")`. -/
def dropDots (text : String) : String :=
  String.ofList (text.toList.reverse.dropWhile fun c => c= '.').reverse

/-- `_normalize_suffix`. -/
def normalizeSuffix (value : PyVal) : String :=
  let value := dropDots (py.lower (strip (value.textOr py)))
  match value.toList with
  | '*' :: '.' :: rest => String.ofList rest
  | _ => value

/-- A compiled service definition. -/
structure Definition where
  key : String
  service : String
  category : String
  addressLists : List String := []
  deriving DecidableEq, Repr

/-- `_BUILTIN_METADATA`: the category and the detector lists of the built-in services. -/
def builtinMetadata : List (String × String × List String) :=
  [("youtube","video",["Detected_YouTube","Detected_GoogleVideo"]),
   ("netflix","video",["Detected_Netflix"]),
   ("prime video","video",["Detected_PrimeVideo"]),
   ("prime_video","video",["Detected_PrimeVideo"]),
   ("bbc iplayer","video",["Detected_BBCiPlayer"]),
   ("bbc_iplayer","video",["Detected_BBCiPlayer"]),
   ("chatgpt","ai",["Detected_ChatGPT"]),
   ("openai","ai",["Detected_OpenAI"]),
   ("tiktok","social",["Detected_TikTok"]),
   ("discord","social",["Detected_Discord"]),
   ("roblox","gaming",["Detected_Roblox"]),
   ("steam","gaming",["Detected_Steam"]),
   ("xbox","gaming",["Detected_Xbox"]),
   ("playstation","gaming",["Detected_PlayStation"])]

/-- The detector lists of an entry as a list of values; a text is one list. -/
def detectorLists : PyVal → List PyVal
  | .str s => [.str s]
  | .list items => items
  | _ => []

/-- `_service_definition`. -/
def serviceDefinition (entry : PyVal) : Py Definition := do
  let name ← entry.get "name"
  let entryKey ← entry.get "key"
  let name := strip ((name.or entryKey).textOr py)
  let key := py.lower (strip ((entryKey.or (.str name)).text py))
  let builtin := (builtinMetadata.lookup key).or (builtinMetadata.lookup (py.lower name))
  let default := PyVal.list (((builtin.map Prod.snd).getD []).map .str)
  let fallback ← entry.get "detector_lists" default
  let addressLists ← entry.get "address_lists" fallback
  let category ← entry.get "category"
  let builtinCategory := PyVal.str ((builtin.map Prod.fst).getD "")
  pure
    { key := key, service := name,
      category := ((category.or builtinCategory).or (.str "other")).text py,
      addressLists := ((detectorLists addressLists).map fun v => strip (v.text py)).filter
        fun text => text≠"" }

/-- The suffixes with their services, in the order in which they are tried. -/
abbrev Compiled := List (String × Definition)

/-- `(-len(suffix), suffix, service)`: longer suffixes come first. -/
def earlierSuffix (a b : String × Definition) : Prop :=
  b.1.length < a.1.length ∨ (a.1.length=b.1.length ∧
    (a.1 < b.1 ∨ (a.1=b.1 ∧ ¬b.2.service < a.2.service)))

instance : DecidableRel earlierSuffix := fun _ _ => by unfold earlierSuffix; infer_instance

/-- The suffixes of an entry, or the errors of `_compile`. -/
def entrySuffixes (entry : PyVal) : Py (List String) := do
  let suffixes ← entry.get "dns_suffixes"
  match suffixes.or (.list []) with
  | .list items => pure ((items.map (normalizeSuffix py)).filter fun suffix => suffix≠"")
  | _ => .error (.valueError "Service catalogue dns_suffixes must be a list")

/-- The loop of `_compile`. -/
def compileEntries : List PyVal → Py (Compiled × List Definition)
  | [] => .ok ([],[])
  | entry::entries =>
    if entry.isDict then do
      let definition ← serviceDefinition py entry
      if definition.service="" then compileEntries entries
      else do
        let suffixes ← entrySuffixes py entry
        let (compiled,definitions) ← compileEntries entries
        pure (suffixes.map (fun suffix => (suffix,definition)) ++ compiled,definition::definitions)
    else .error (.valueError "Service catalogue entries must be objects")

/-- `_compile`. -/
def compile (entries : PyVal) : Py (Compiled × List Definition) :=
  match entries with
  | .list items => do
    let (compiled,definitions) ← compileEntries py items
    pure (compiled.insertionSort earlierSuffix,definitions)
  | _ => .error (.valueError "Service catalogue 'services' must be a list")

end Catalogue

section Matching
variable (py : PyRuntime)

/-- Whether a domain is a suffix or lies below it. -/
def underSuffix (domain suffix : String) : Bool :=
  domain=suffix || ("." ++ suffix).toList.isSuffixOf domain.toList

/-- The first suffix of the catalogue that a domain lies under. -/
def firstSuffix (compiled : Compiled) (domain : String) : Option (String × Definition) :=
  compiled.find? fun e => underSuffix domain e.1

/-- `classify_domain`. -/
def classifyDomain (compiled : Compiled) (domain : PyVal) : String :=
  let domain := dropDots (py.lower (domain.textOr py))
  if domain="" then ""
  else ((firstSuffix compiled domain).map fun e => e.2.service).getD ""

/-- `_domain_match`. -/
def domainMatch (compiled : Compiled) (domain : PyVal) : Option (String × Definition) :=
  let domain := normalizeSuffix py domain
  if domain="" then none else firstSuffix compiled domain

/-- `_find_service`. -/
def findService (definitions : List Definition) (value : PyVal) : Option Definition :=
  let value := py.lower (strip (value.textOr py))
  definitions.find? fun d => value=py.lower d.key || value=py.lower d.service

end Matching

section Records
variable (py : PyRuntime)

/-- `CLASSIFICATION_PRECEDENCE`. -/
inductive EvidenceSource
  | manualOverride
  | addressList
  | dns
  | flow
  | port
  | fallback
  deriving DecidableEq, Repr

def EvidenceSource.text : EvidenceSource → String
  | manualOverride => "manual_override"
  | addressList => "address_list"
  | dns => "dns"
  | flow => "flow"
  | port => "port"
  | fallback => "fallback"

/-- The evidence of a classification. The fallback has no matched value, and its name stands
for its place in the precedence. -/
structure Evidence where
  source : EvidenceSource
  matchedValue : PyVal
  deriving Repr

/-- What `classify_record` returns. -/
structure Classification where
  category : String
  service : String
  confidence : String
  evidence : Evidence
  deriving Repr

/-- `_result`. -/
def result (service : Definition) (source : EvidenceSource) (matched : PyVal)
    (confidence : String) : Classification :=
  { category := orElse service.category "other"
    service := orElse service.service "Unknown"
    confidence := confidence
    evidence := { source := source, matchedValue := matched } }

/-- `_unknown_result`. -/
def unknownResult : Classification :=
  { category := "unknown", service := "Unknown", confidence := "none",
    evidence := { source := .fallback, matchedValue := .none } }

/-- `_manual_service`. -/
def manualService (definitions : List Definition) (signal : PyVal) :
    Option (Definition × PyVal) :=
  if signal.truthy=false then none
  else match signal with
  | .dict entries =>
    let field (key : String) : PyVal := (entries.lookup key).getD .none
    let matched := ((field "service").or (field "name")).or (field "key")
    match findService py definitions matched with
    | some service => some (service,matched)
    | none =>
      if matched.truthy then
        some ({ key := py.lower (strip (((field "key").or matched).text py)),
                service := strip (matched.text py),
                category := (field "category").textOr py "other" },matched)
      else none
  | signal =>
    match findService py definitions signal with
    | some service => some (service,signal)
    | none =>
      let name := strip (signal.text py)
      if name="" then none
      else some ({ key := py.lower name, service := name, category := "other" },signal)

/-- The definition of the first address list that some definition detects by. -/
def addressListService (definitions : List Definition) :
    List PyVal → Option (Definition × PyVal)
  | [] => none
  | value::values =>
    let normalized := py.lower (strip (value.text py))
    match definitions.find? fun d => (d.addressLists.map py.lower).contains normalized with
    | some definition => some (definition,value)
    | none => addressListService definitions values

/-- `_PORT_SIGNATURES`. -/
def portSignature (protocol : String) (number : ℤ) : Option Definition :=
  if protocol="UDP" ∧ number=3074 then
    some { key := "xbox", service := "Xbox", category := "gaming" }
  else none

/-- The evidence on one record: an override, the address lists of its remote address, the
domains of its lookup and of its flow, and its protocol and port. -/
structure Signals where
  manualOverride : PyVal := .none
  addressLists : List PyVal := []
  dns : PyVal := .none
  flowDomain : PyVal := .none
  protocol : String := ""
  destinationPort : ℤ := 0

/-- `classify_record`. -/
def classifyRecord (compiled : Compiled) (definitions : List Definition) (signals : Signals) :
    Classification :=
  match manualService py definitions signals.manualOverride with
  | some (service,matched) => result service .manualOverride matched "high"
  | none =>
  match addressListService py definitions signals.addressLists with
  | some (service,matched) => result service .addressList matched "high"
  | none =>
  match domainMatch py compiled signals.dns with
  | some (suffix,service) => result service .dns (.str suffix) "high"
  | none =>
  match domainMatch py compiled signals.flowDomain with
  | some (suffix,service) => result service .flow (.str suffix) "medium"
  | none =>
  let protocol := upper (strip signals.protocol)
  match portSignature protocol signals.destinationPort with
  | some service =>
    let port := signals.destinationPort
    result service .port (.str s!"{protocol}/{port}") "low"
  | none => unknownResult

lemma orElse_ne_empty {value default : String} (h : default≠"") : orElse value default≠"" := by
  unfold orElse
  split_ifs with hv
  · exact h
  · exact hv

/-- Whatever the evidence, the service has a name. -/
lemma classifyRecord_service (compiled : Compiled) (definitions : List Definition)
    (signals : Signals) : (classifyRecord py compiled definitions signals).service≠"" := by
  have hresult (service : Definition) (source : EvidenceSource) (matched : PyVal)
      (confidence : String) : (result service source matched confidence).service≠"" :=
    orElse_ne_empty (by decide)
  unfold classifyRecord
  split
  · exact hresult _ _ _ _
  · split
    · exact hresult _ _ _ _
    · split
      · exact hresult _ _ _ _
      · split
        · exact hresult _ _ _ _
        · dsimp only
          split
          · exact hresult _ _ _ _
          · decide

end Records
end ZenControl.Telemetry
