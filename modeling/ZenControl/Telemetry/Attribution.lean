import ZenControl.References.Namespace
import ZenControl.Telemetry.Usage

/-! From the service that the classifier finds for a flow to the key that the quota engine
counts it for: the published catalogue and the labels of stored flows. -/
namespace ZenControl.Telemetry
open Tallies

section Attribution
variable (py : PyRuntime)

/-- The name under which the flows of a definition are stored. -/
def Definition.label (d : Definition) : String := orElse d.service "Unknown"

/-- The definition that `classify_record` attributes a record to. -/
def attributed (compiled : Compiled) (definitions : List Definition) (signals : Signals) :
    Option Definition :=
  match manualService py definitions signals.manualOverride with
  | some (service,_) => some service
  | none =>
  match addressListService py definitions signals.addressLists with
  | some (service,_) => some service
  | none =>
  match domainMatch py compiled signals.dns with
  | some (_,service) => some service
  | none =>
  match domainMatch py compiled signals.flowDomain with
  | some (_,service) => some service
  | none => portSignature (upper (strip signals.protocol)) signals.destinationPort

variable {py}

/-- The service of a record is the label of the definition that it is attributed to. -/
lemma classifyRecord_attributed (compiled : Compiled) (definitions : List Definition)
    (signals : Signals) : (classifyRecord py compiled definitions signals).service=
      ((attributed py compiled definitions signals).map Definition.label).getD "Unknown" := by
  unfold classifyRecord attributed
  cases manualService py definitions signals.manualOverride with
  | some found => rfl
  | none =>
    cases addressListService py definitions signals.addressLists with
    | some found => rfl
    | none =>
      cases domainMatch py compiled signals.dns with
      | some found => rfl
      | none =>
        cases domainMatch py compiled signals.flowDomain with
        | some found => rfl
        | none =>
          dsimp only
          cases portSignature (upper (strip signals.protocol)) signals.destinationPort <;> rfl

/-- The evidence of `transform_flow` on a row. -/
def FlowRow.signals (row : FlowRow) : Signals :=
  { dns := .str row.domain, protocol := row.protocol, destinationPort := row.dstPort }

lemma transformFlow_service {env : IngestEnv} {state : IngestState} {raw : PyVal}
    {row : FlowRow} (h : transformFlow env state raw=.ok (some row)) :
    row.service=(classifyRecord env.toPyRuntime state.compiled state.definitions
      row.signals).service := by
  unfold transformFlow at h
  obtain ⟨src,-,h⟩ := bind_ok h
  obtain ⟨dst,-,h⟩ := bind_ok h
  obtain ⟨natSrc,-,h⟩ := bind_ok h
  obtain ⟨natDst,-,h⟩ := bind_ok h
  split_ifs at h
  · cases h
  · split at h
    · cases h
    · obtain ⟨proto,-,h⟩ := bind_ok h
      obtain ⟨port,-,h⟩ := bind_ok h
      obtain ⟨_,-,h⟩ := bind_ok h
      obtain ⟨_,-,h⟩ := bind_ok h
      obtain ⟨_,-,h⟩ := bind_ok h
      obtain ⟨_,-,h⟩ := bind_ok h
      obtain ⟨_,-,h⟩ := bind_ok h
      obtain ⟨_,-,h⟩ := bind_ok h
      obtain ⟨_,-,h⟩ := bind_ok h
      obtain ⟨_,-,h⟩ := bind_ok h
      obtain ⟨_,-,h⟩ := bind_ok h
      obtain ⟨_,-,h⟩ := bind_ok h
      obtain ⟨_,-,h⟩ := bind_ok h
      obtain rfl := Option.some.inj (Except.ok.inj h)
      rfl

/-- The key of the service that a row is attributed to. -/
def attributedKey (py : PyRuntime) (compiled : Compiled) (definitions : List Definition)
    (row : FlowRow) : Option String :=
  (attributed py compiled definitions row.signals).map Definition.key

/-- A flow is attributed to a definition of the catalogue, by its port, or to none. -/
lemma attributed_row {compiled : Compiled} {definitions : List Definition} {row : FlowRow}
    {d : Definition} (h : attributed py compiled definitions row.signals=some d) :
    (∃ e ∈ compiled, e.2=d) ∨ (d.key="xbox" ∧ d.label="Xbox") := by
  have hmatch {domain : PyVal} {suffix : String}
      (h : domainMatch py compiled domain=some (suffix,d)) : ∃ e ∈ compiled, e.2=d := by
    unfold domainMatch at h
    dsimp only at h
    split_ifs at h
    exact ⟨_,List.mem_of_find?_eq_some h,rfl⟩
  unfold attributed at h
  have hmanual : manualService py definitions row.signals.manualOverride=none := rfl
  have haddresses : addressListService py definitions row.signals.addressLists=none := rfl
  rw [hmanual,haddresses] at h
  dsimp only at h
  cases hdns : domainMatch py compiled row.signals.dns with
  | some found =>
    rw [hdns] at h
    obtain rfl := Option.some.inj h
    exact .inl (hmatch hdns)
  | none =>
    cases hflow : domainMatch py compiled row.signals.flowDomain with
    | some found =>
      rw [hdns,hflow] at h
      obtain rfl := Option.some.inj h
      exact .inl (hmatch hflow)
    | none =>
      rw [hdns,hflow] at h
      dsimp only [portSignature] at h
      split_ifs at h
      obtain rfl := Option.some.inj h
      exact .inr ⟨rfl,rfl⟩

end Attribution

section Catalogue
variable (py : PyRuntime)

/-- An entry of the published catalogue. -/
def exportEntry (s : Service) : PyVal :=
  .dict [("key",.str s.key),("name",.str s.name),("category",.str (orElse s.category "other")),
    ("dns_suffixes",.list (s.dnsSuffixes.map .str)),
    ("tls_patterns",.list (s.tlsPatterns.map .str)),
    ("routeros_managed",.bool (s.key ∈ supportedServiceKeys || s.enforcementApproved)),
    ("enforcement_approved",.bool s.enforcementApproved)]

/-- The services that are published. -/
def exported (t : Tables) : List Service :=
  (listServices t).filter fun s =>
    s.classifierEnabled && (!s.dnsSuffixes.isEmpty || !s.tlsPatterns.isEmpty)

/-- The payload of `export_service_catalog`. -/
def exportServiceCatalog (generatedAt : String) (t : Tables) : PyVal :=
  .dict [("version",.int 1),("generated_at",.str generatedAt),
    ("services",.list ((exported t).map exportEntry))]

/-- `_load_live` of a payload. -/
def loadLive (payload : PyVal) : Py (Compiled × List Definition) :=
  if payload.isDict=false then .error (.valueError "Service catalogue root must be an object")
  else do
    let version ← payload.get "version" (.int 1)
    if version.eqInt 1=false then
      .error (.valueError ("Unsupported service catalogue version: " ++ version.text py))
    else
      let services ← payload.get "services"
      match services with
      | .none => compile py (.list [])
      | services => compile py services

variable {py}

/-- What the ingest process makes of an exported service whose key is not empty. -/
lemma serviceDefinition_export {s : Service} (hkey : s.key≠"") :
    ∃ d, serviceDefinition py (exportEntry s)=.ok d ∧ d.key=py.lower (strip s.key) ∧
      d.service=strip (orElse s.name s.key) := by
  refine ⟨_,rfl,?_,?_⟩
  · change py.lower (strip (((PyVal.str s.key).or (.str _)).text py))=_
    simp [PyVal.or,PyVal.truthy,hkey,PyVal.text]
  · change strip (((PyVal.str s.name).or (.str s.key)).textOr py)=_
    by_cases hname : s.name="" <;>
      simp [PyVal.textOr,PyVal.or,PyVal.truthy,hname,hkey,PyVal.text,orElse]

lemma entrySuffixes_export (s : Service) : ∃ suffixes,
    entrySuffixes py (exportEntry s)=.ok suffixes := by
  obtain ⟨key,name,description,builtin,category,dnsSuffixes⟩ := s
  cases dnsSuffixes <;> exact ⟨_,rfl⟩

lemma compileEntries_cons {entry : PyVal} {entries : List PyVal} {d : Definition}
    {suffixes : List String} {compiled : Compiled} {definitions : List Definition}
    (hdict : entry.isDict=true) (hd : serviceDefinition py entry=.ok d)
    (hsuffixes : entrySuffixes py entry=.ok suffixes)
    (hrest : compileEntries py entries=.ok (compiled,definitions)) :
    compileEntries py (entry::entries)=if d.service="" then .ok (compiled,definitions)
      else .ok (suffixes.map (fun suffix => (suffix,d)) ++ compiled,d::definitions) := by
  rw [compileEntries,if_pos hdict,hd]
  change (if d.service="" then _ else _)=_
  rw [hsuffixes,hrest]
  rfl

/-- Exported services are compiled, each under its key and its name. -/
lemma compileEntries_export {services : List Service} (hkeys : ∀ s ∈ services, s.key≠"") :
    ∃ compiled definitions,
      compileEntries py (services.map exportEntry)=.ok (compiled,definitions) ∧
      ∀ e ∈ compiled, ∃ s ∈ services, e.2.service≠"" ∧ e.2.key=py.lower (strip s.key) ∧
        e.2.service=strip (orElse s.name s.key) := by
  induction services with
  | nil => exact ⟨[],[],rfl,fun e he => absurd he List.not_mem_nil⟩
  | cons s services ih =>
    obtain ⟨compiled,definitions,hrest,hfrom⟩ := ih fun v hv => hkeys v (List.mem_cons_of_mem _ hv)
    obtain ⟨d,hd,hkey,hservice⟩ := @serviceDefinition_export py s (hkeys s List.mem_cons_self)
    obtain ⟨suffixes,hsuffixes⟩ := @entrySuffixes_export py s
    have hlater : ∀ e ∈ compiled, ∃ v ∈ s::services, e.2.service≠"" ∧
        e.2.key=py.lower (strip v.key) ∧ e.2.service=strip (orElse v.name v.key) := fun e he => by
      obtain ⟨v,hv,hrow⟩ := hfrom e he
      exact ⟨v,List.mem_cons_of_mem _ hv,hrow⟩
    rw [List.map_cons,compileEntries_cons rfl hd hsuffixes hrest]
    by_cases hempty : d.service=""
    · exact ⟨compiled,definitions,by rw [if_pos hempty],hlater⟩
    · refine ⟨suffixes.map (fun suffix => (suffix,d)) ++ compiled,d::definitions,
        by rw [if_neg hempty],fun e he => ?_⟩
      rcases List.mem_append.mp he with hown | hold
      · obtain ⟨suffix,-,rfl⟩ := List.mem_map.mp hown
        exact ⟨s,List.mem_cons_self,hempty,hkey,hservice⟩
      · exact hlater e hold

/-- A published catalogue is loaded, with the keys and names of the exported services. -/
theorem loadLive_export {t : Tables} (hkeys : ∀ s ∈ t.services, s.key≠"") (generatedAt : String) :
    ∃ compiled definitions,
      loadLive py (exportServiceCatalog generatedAt t)=.ok (compiled,definitions) ∧
      ∀ e ∈ compiled, ∃ s ∈ t.services, e.2.service≠"" ∧ e.2.key=py.lower (strip s.key) ∧
        e.2.service=strip (orElse s.name s.key) := by
  have hlisted : ∀ s ∈ exported t, s ∈ t.services := fun s hs =>
    mem_listServices.mp (List.mem_filter.mp hs).1
  obtain ⟨compiled,definitions,hcompiled,hfrom⟩ :=
    @compileEntries_export py _ fun s hs => hkeys s (hlisted s hs)
  refine ⟨compiled.insertionSort earlierSuffix,definitions,?_,fun e he => ?_⟩
  · change compile py (.list ((exported t).map exportEntry))=_
    unfold compile
    dsimp only
    rw [hcompiled]
    rfl
  · obtain ⟨s,hs,hrow⟩ := hfrom e ((List.mem_insertionSort _).mp he)
    exact ⟨s,hlisted s hs,hrow⟩

end Catalogue

section Labels
variable (rt : Runtime)

/-- A label of flows with the key of the service that the classifier means by it. -/
abbrev Label := String × Option String

/-- The labels that need no catalogue: that of flows without a service, and the names of the
built-in contracts. -/
def standingLabels : List Label :=
  ("Unknown",none)::serviceEnforcement.map fun e => (e.2,some e.1)

/-- The label of a service in the catalogue that is published next. -/
def serviceLabel (s : Service) : Label := (strip (orElse s.name s.key),some s.key)

/-- The quota engine counts a label for a service exactly when the classifier means it. -/
def Leads (l : Label) (s : Service) : Prop :=
  answers rt.toPyRuntime s (rt.casefold (strip l.1))=true ↔ l.2=some s.key

/-- No label is counted for another service than its own. -/
def Clear (labels : List Label) (services : List Service) : Prop :=
  ∀ l ∈ labels, ∀ s ∈ services, Leads rt l s

/-- A saved service answers to the labels in use that mean its key and to no others, and no
other service answers to its name. -/
structure SaveClear (labels : List Label) (services : List Service) (new : Service) : Prop where
  labels : ∀ l ∈ labels, Leads rt l new
  others : ∀ s ∈ services, s.key≠new.key →
    Leads rt (serviceLabel s) new ∧ Leads rt (serviceLabel new) s

variable {rt} {labels : List Label} {services : List Service}

lemma Clear.mono {labels' : List Label} {services' : List Service} (h : Clear rt labels services)
    (hlabels : ∀ l ∈ labels', l ∈ labels) (hservices : ∀ s ∈ services', s ∈ services) :
    Clear rt labels' services' :=
  fun l hl s hs => h l (hlabels l hl) s (hservices s hs)

lemma Clear.append {labels' : List Label} (h : Clear rt labels services)
    (h' : Clear rt labels' services) : Clear rt (labels ++ labels') services :=
  fun l hl => (List.mem_append.mp hl).elim (h l) (h' l)

lemma strip_serviceEnforcement : ∀ e ∈ serviceEnforcement, strip e.2=e.2 := by decide

/-- A label whose meaning is clear is counted for the key that it means. -/
lemma counted_iff {l : Label} (hstanding : Clear rt standingLabels services)
    (hl : ∀ s ∈ services, Leads rt l s) (hkeys : ∀ s ∈ services, IsKey s.key) {s : Service}
    (hs : s ∈ services) :
    telemetryNameToKey rt.toPyRuntime l.1 services=some s.key ↔ l.2=some s.key := by
  unfold telemetryNameToKey
  dsimp only
  cases hfind : services.find? fun v => answers rt.toPyRuntime v (rt.casefold (strip l.1)) with
  | some v =>
    have hv := List.mem_of_find?_eq_some hfind
    have hanswers : answers rt.toPyRuntime v (rt.casefold (strip l.1))=true := by
      simpa using List.find?_some hfind
    have howner : l.2=some v.key := (hl v hv).mp hanswers
    have hkey := hkeys v hv
    rw [howner]
    dsimp only
    rw [hkey.strip,hkey.lower]
  | none =>
    have hnone : answers rt.toPyRuntime s (rt.casefold (strip l.1))=false := by
      simpa using List.find?_eq_none.mp hfind s hs
    refine iff_of_false (fun hcounted => ?_) fun howner => ?_
    · obtain ⟨e,he,hkey⟩ := Option.map_eq_some_iff.mp hcounted
      have hname : rt.casefold e.2=rt.casefold (strip l.1) := by
        simpa using List.find?_some he
      have hin := List.mem_of_find?_eq_some he
      have hanswers := (hstanding (e.2,some e.1)
        (List.mem_cons_of_mem _ (List.mem_map_of_mem hin)) s hs).mpr (congrArg some hkey)
      rw [strip_serviceEnforcement e hin,hname,hnone] at hanswers
      cases hanswers
    · rw [(hl s hs).mpr howner] at hnone
      cases hnone

end Labels

end ZenControl.Telemetry
