import ZenControl.Router.Plans
import ZenControl.References.ContractNames

/-! A pass of `reconcile_device` over a runtime catalogue. The plan is made over the whole
catalogue, the services are written over the built-in one; when a pass brings a device to its
policy follows from what each of its three changes leaves. -/
namespace ZenControl.Router
open Calls Requests Rows

section Catalogue
variable {text : Env}

/-- `routeros_service_catalog`: a contract that cannot be built is left out. -/
def routerosServiceCatalog (text : Env) (t : Tables) : Catalog :=
  (listServices t).foldl (fun catalog item =>
    if item.builtin || !item.enforcementApproved then catalog
    else match customServiceContract text item with
      | .ok contract => dictSet catalog item.key contract
      | .error _ => catalog) serviceEnforcement

/-- The custom services of a runtime catalogue, with the contracts that are built for them. -/
structure CustomServices (text : Env) where
  services : Catalog
  keys : services.keys.Nodup
  custom : ∀ x ∈ services, x.1 ∉ serviceEnforcement.keys
  contract : ∀ x ∈ services, ∃ item : ZenControl.Service, item.key=x.1 ∧
    customServiceContract text item=.ok x.2

/-- The runtime catalogue: the built-in services and the custom ones. -/
def CustomServices.catalog (c : CustomServices text) : Catalog := serviceEnforcement ++ c.services

lemma builtin_keys_nodup : serviceEnforcement.keys.Nodup := by decide

lemma builtin_lists_nodup : (serviceEnforcement.map fun x => x.2.sourceList).Nodup := by decide

/-- A list that is none of those of the modes and of the managed devices. -/
def IsSourceList (list : String) : Prop :=
  list≠restrictedList ∧ list≠deviceBlockList ∧ list≠deviceSlowList

instance (list : String) : Decidable (IsSourceList list) := inferInstanceAs (Decidable (_ ∧ _ ∧ _))

lemma builtin_lists : ∀ x ∈ serviceEnforcement, IsSourceList x.2.sourceList := by decide

lemma isSourceList_block (token : String) : IsSourceList ("MC_Block_" ++ token) := by
  refine ⟨fun h => ?_,fun h => ?_,fun h => ?_⟩ <;>
  · have hchar := congrArg (fun list : String => list.toList[3]?) h
    simp [restrictedList,deviceBlockList,deviceSlowList] at hchar

lemma CustomServices.keys_nodup (c : CustomServices text) : c.catalog.keys.Nodup := by
  unfold CustomServices.catalog Catalog.keys
  rw [List.map_append,List.nodup_append]
  refine ⟨builtin_keys_nodup,c.keys,fun key hkey key' hkey' => ?_⟩
  rintro rfl
  obtain ⟨x,hx,rfl⟩ := List.mem_map.mp hkey'
  exact c.custom x hx hkey

lemma CustomServices.lists (c : CustomServices text) :
    ∀ x ∈ c.catalog, IsSourceList x.2.sourceList := by
  intro x hx
  rcases List.mem_append.mp hx with hx | hx
  · exact builtin_lists x hx
  · obtain ⟨item,-,hcontract⟩ := c.contract x hx
    obtain ⟨_,-,hbuilt⟩ := bind_ok hcontract
    rw [← Except.ok.inj hbuilt]
    exact isSourceList_block _

/-- One contract after the other is added to the custom ones. -/
lemma foldl_catalog {items : List ZenControl.Service} (c : CustomServices text)
    (hkeys : (items.map ZenControl.Service.key).Nodup)
    (hfresh : ∀ item ∈ items, item.key ∉ c.services.keys)
    (hcustom : ∀ item ∈ items, item.builtin=false → item.key ∉ serviceEnforcement.keys) :
    ∃ c' : CustomServices text, items.foldl (fun catalog item =>
      if item.builtin || !item.enforcementApproved then catalog
      else match customServiceContract text item with
        | .ok contract => dictSet catalog item.key contract
        | .error _ => catalog) c.catalog=c'.catalog := by
  induction items generalizing c with
  | nil => exact ⟨c,rfl⟩
  | cons item items ih =>
    obtain ⟨hnew,hkeys⟩ := List.nodup_cons.mp hkeys
    obtain ⟨hitem,hfresh⟩ := List.forall_mem_cons.mp hfresh
    obtain ⟨hown,hcustom⟩ := List.forall_mem_cons.mp hcustom
    rw [List.foldl_cons]
    by_cases hskip : (item.builtin || !item.enforcementApproved)=true
    · rw [if_pos hskip]
      exact ih c hkeys hfresh hcustom
    · rw [if_neg hskip]
      have hforeign : item.key ∉ serviceEnforcement.keys := hown (by simp_all)
      cases hcontract : customServiceContract text item with
      | error e => exact ih c hkeys hfresh hcustom
      | ok contract =>
        let added : CustomServices text :=
          { services := c.services ++ [(item.key,contract)]
            keys := by
              unfold Catalog.keys
              rw [List.map_append,List.nodup_append]
              refine ⟨c.keys,List.nodup_singleton _,fun a ha b hb => ?_⟩
              rw [List.mem_singleton.mp hb]
              rintro rfl
              exact hitem ha
            custom := fun x hx => by
              rcases List.mem_append.mp hx with hx | hx
              · exact c.custom x hx
              · exact List.mem_singleton.mp hx ▸ hforeign
            contract := fun x hx => by
              rcases List.mem_append.mp hx with hx | hx
              · exact c.contract x hx
              · exact List.mem_singleton.mp hx ▸ ⟨item,rfl,hcontract⟩ }
        have hset : dictSet c.catalog item.key contract=added.catalog := by
          rw [dictSet_fresh]
          · exact List.append_assoc _ _ _
          · unfold CustomServices.catalog
            rw [List.map_append,List.mem_append]
            exact not_or.mpr ⟨hforeign,hitem⟩
        dsimp only
        rw [hset]
        refine ih added hkeys (fun item' hitem' hmem => ?_) hcustom
        unfold Catalog.keys at hmem
        rw [List.map_append,List.mem_append] at hmem
        rcases hmem with hmem | hmem
        · exact hfresh item' hitem' hmem
        · have hsame : item'.key=item.key := List.mem_singleton.mp hmem
          exact hnew (hsame ▸ List.mem_map_of_mem hitem')

/-- What the store answers is a runtime catalogue, as its keys are unique and the built-in ones
belong to built-in services. -/
theorem routerosServiceCatalog_eq (t : Tables) (hkeys : (t.services.map ZenControl.Service.key).Nodup)
    (hcustom : ∀ item ∈ t.services, item.builtin=false → item.key ∉ serviceEnforcement.keys) :
    ∃ c : CustomServices text, routerosServiceCatalog text t=c.catalog := by
  have hperm : (listServices t).Perm t.services := List.perm_insertionSort _ _
  let none : CustomServices text :=
    { services := [], keys := List.nodup_nil, custom := nofun, contract := nofun }
  obtain ⟨c,hc⟩ := foldl_catalog none ((hperm.map _).nodup_iff.mpr hkeys)
    (fun _ _ => List.not_mem_nil) fun item hitem => hcustom item (hperm.subset hitem)
  refine ⟨c,Eq.trans ?_ hc⟩
  rw [show none.catalog=serviceEnforcement from List.append_nil _]
  rfl

end Catalogue

section Frame
variable {env : Environment} {address : Ipv4} {policy : EffectivePolicy} {s s' s'' : System}

/-- What every change of a pass leaves as it is. -/
structure Undisturbed (env : Environment) (address : Ipv4) (s s' : System) : Prop where
  filter : s'.router.filter=s.router.filter
  proven : s.session.any Session.proven → s'.session.any Session.proven
  kept : Kept env s.router.tables s'.router.tables
  managed : s'.router.Managed address ↔ s.router.Managed address
  temporary : s'.router.temporary address=s.router.temporary address

namespace Undisturbed

lemma refl (env : Environment) (address : Ipv4) (s : System) : Undisturbed env address s s :=
  ⟨rfl,id,Kept.refl env _,Iff.rfl,rfl⟩

lemma trans (h : Undisturbed env address s s') (h' : Undisturbed env address s' s'') :
    Undisturbed env address s s'' :=
  ⟨h'.filter.trans h.filter,h'.proven ∘ h.proven,h.kept.trans h'.kept,h'.managed.trans h.managed,
    h'.temporary.trans h.temporary⟩

variable (h : Undisturbed env address s s')
include h

lemma passesGate (hgate : s.PassesGate env) : s'.PassesGate env :=
  hgate.kept h.proven h.filter h.kept

lemma status : s'.router.status=s.router.status := status_congr h.filter h.kept.slow

lemma expectsBandwidth : s'.router.expectsBandwidth policy=s.router.expectsBandwidth policy := by
  unfold RouterOS.expectsBandwidth
  rw [h.status]

lemma deviceBlockValid : s'.router.DeviceBlockValid ↔ s.router.DeviceBlockValid := by
  unfold RouterOS.DeviceBlockValid RouterOS.rules
  rw [h.filter]

lemma plannable : s'.router.Plannable policy address ↔ s.router.Plannable policy address := by
  constructor
  · rintro ⟨hblock,hread,hstatus,hlimit⟩
    exact ⟨h.deviceBlockValid.mp hblock,h.temporary ▸ hread,h.status ▸ hstatus,hlimit⟩
  · rintro ⟨hblock,hread,hstatus,hlimit⟩
    exact ⟨h.deviceBlockValid.mpr hblock,h.temporary ▸ hread,h.status ▸ hstatus,hlimit⟩

lemma inactive : s'.router.Inactive address ↔ s.router.Inactive address := by
  unfold RouterOS.Inactive
  rw [h.temporary]

lemma contractFailure (catalog : Catalog) (key : String) :
    s'.router.contractFailure catalog key=s.router.contractFailure catalog key :=
  contractFailure_congr h.filter catalog key

end Undisturbed

lemma temporary_congr {r r' : RouterOS}
    (hscheduler : r'.tables .scheduler=r.tables .scheduler)
    (hscript : r'.tables .script=r.tables .script) :
    r'.temporary address=r.temporary address := by
  unfold RouterOS.temporary RouterOS.schedulers RouterOS.scripts
  rw [TableFamily.rows_congr hscheduler,TableFamily.rows_congr hscript]

/-- Written tables that keep the gate and the device disturb nothing else. -/
lemma undisturbed_withTables {t : TableFamily Row} (hkept : Kept env s.router.tables t)
    (hmanaged : listedIn t restrictedList address=listedIn s.router.tables restrictedList address)
    (hscheduler : t .scheduler=s.router.tables .scheduler)
    (hscript : t .script=s.router.tables .script) :
    Undisturbed env address s { s.passed with router := s.router.withTables t } where
  filter := rfl
  proven h := by
    obtain ⟨shared,hshared⟩ := Option.isSome_iff_exists.mp (Option.isSome_of_any h)
    unfold System.passed
    rw [hshared]
    rfl
  kept := hkept
  managed := by
    have hlisted : (s.router.withTables t).listed restrictedList address=
        s.router.listed restrictedList address := hmanaged
    change (((s.router.withTables t).listed restrictedList address).filter _).length=1 ↔ _
    rw [hlisted]
    rfl
  temporary := temporary_congr hscheduler hscript

end Frame

section Changes
variable {env : Environment} {text : Env} {c : CustomServices text} {policy : EffectivePolicy}
  {catalog : Catalog} {address : Ipv4} {description : String} {plan : LivePlan} {s s' : System}

/-- The mode is written first; a bandwidth queue goes with it only outside NORMAL. -/
lemma exec_modeChange (hplan : PlanOf s.router catalog policy address plan)
    (hcan : s.CanSwitch env address) :
    ∃ changes s', exec (modeChange env address description plan) s=(.ok changes,s') ∧
      Undisturbed env address s s' ∧ s'.router.modeDrifts policy address=false ∧
      (∀ list, IsSourceList list →
        listedIn s'.router.tables list address=listedIn s.router.tables list address) ∧
      (s'.router.bandwidth address=s.router.bandwidth address ∨
        policy.mode≠.normal ∧ (s'.router.bandwidth address).active=false) := by
  unfold modeChange
  by_cases hdrift : plan.modeDrift=true
  · obtain ⟨result,hexec⟩ := @exec_setDeviceMode env address description policy.mode s hcan
    let t := modeWritten env address (clip (strip description) 60) s.router.tables policy.mode
    rw [if_pos hdrift,hplan.mode]
    refine ⟨_,_,exec_bind_ok hexec,undisturbed_withTables (t:=t) (kept_modeWritten _ _)
      (listedIn_modeWritten (by decide) (by decide) _) (modeWritten_of_ne (by decide) (by decide) _)
      (modeWritten_of_ne (by decide) (by decide) _),?_,fun list hlist =>
        listedIn_modeWritten hlist.2.1 hlist.2.2 _,?_⟩
    · refine decide_eq_false (not_not.mpr ?_)
      exact (modeIn_modeWritten policy.mode).symm
    · unfold RouterOS.bandwidth RouterOS.queues
      by_cases hmode : policy.mode=.normal
      · refine .inl ?_
        change bandwidthOf address ((queuesIn t address.deviceBandwidthQueueName).map Prod.snd)=_
        rw [show queuesIn t address.deviceBandwidthQueueName=queuesIn s.router.tables
          address.deviceBandwidthQueueName from by
            dsimp only [t]
            rw [hmode]
            exact queuesIn_modeWritten_normal]
      · refine .inr ⟨hmode,?_⟩
        change (bandwidthOf address ((queuesIn t
          address.deviceBandwidthQueueName).map Prod.snd)).active=false
        rw [show queuesIn t address.deviceBandwidthQueueName=[] from
          queuesIn_modeWritten_bandwidth hmode]
        rfl
  · rw [if_neg hdrift]
    refine ⟨[],s,rfl,Undisturbed.refl env address s,?_,fun _ _ => rfl,.inl rfl⟩
    rw [← hplan.modeDrift]
    exact Bool.eq_false_iff.mpr hdrift

/-- A plan drifts in its bandwidth exactly where the writer would not accept what it reads. -/
lemma bandwidthDrifts_iff (limit : Option String) (live : Bandwidth) :
    bandwidthDrifts limit.isSome limit live=false ↔
      ∃ result, bandwidthReply address limit live=.ok result := by
  unfold bandwidthDrifts bandwidthReply
  cases limit with
  | none => cases live.active <;> simp
  | some limit =>
    cases live.active <;> cases live.isValid <;>
    cases hequal : limitsEqual live.maxLimit limit <;> simp [hequal]

lemma policyPreset_normal (policy : EffectivePolicy) :
    nocase (strip (policyPreset policy))=policyPreset policy := by
  unfold policyPreset
  rw [strip_nocase,strip_strip,nocase_nocase]

variable {limit : Option String}

/-- What the bandwidth is set to: the limit of the policy where it is expected, and none
elsewhere. -/
def targetLimit (expected : Bool) (limit : Option String) : Option String :=
  if expected then limit else none

def targetPreset (policy : EffectivePolicy) (expected : Bool) : String :=
  if expected then policyPreset policy else "normal"

lemma presetLimit_target (hlimit : policyLimit policy=.ok limit) (expected : Bool) :
    presetLimit (nocase (strip (targetPreset policy expected))) (policyUpload policy)
      (policyDownload policy)=.ok (targetLimit expected limit) := by
  unfold targetPreset targetLimit
  cases expected with
  | true =>
    rw [if_pos rfl,if_pos rfl,policyPreset_normal]
    exact hlimit
  | false =>
    have hnormal : nocase (strip "normal")="normal" := by decide
    rw [if_neg Bool.false_ne_true,if_neg Bool.false_ne_true,hnormal]
    exact if_pos rfl

/-- The expected bandwidth has a limit. -/
lemma bandwidthDrifts_target {r : RouterOS} (hlimit : policyLimit policy=.ok limit)
    (live : Bandwidth) : bandwidthDrifts (r.expectsBandwidth policy) limit live=
      bandwidthDrifts (targetLimit (r.expectsBandwidth policy) limit).isSome
        (targetLimit (r.expectsBandwidth policy) limit) live := by
  unfold targetLimit
  cases hexpects : r.expectsBandwidth policy with
  | false => rfl
  | true =>
    have hpreset : policyPreset policy≠"normal" := by
      unfold RouterOS.expectsBandwidth at hexpects
      simp only [Bool.and_eq_true,decide_eq_true_eq] at hexpects
      exact hexpects.1.1
    unfold policyLimit presetLimit at hlimit
    rw [if_neg hpreset] at hlimit
    obtain ⟨built,hbuilt,rfl⟩ : ∃ built, buildMaxLimit (policyUpload policy)
        (policyDownload policy)=.ok built ∧ some built=limit := by
      cases hbuild : buildMaxLimit (policyUpload policy) (policyDownload policy) with
      | error e =>
        rw [hbuild] at hlimit
        cases hlimit
      | ok built =>
        rw [hbuild] at hlimit
        exact ⟨built,rfl,Except.ok.inj hlimit⟩
    rfl

/-- Where the bandwidth does not drift, a mode that was written leaves it so. -/
lemma bandwidthDrifts_kept (h : Undisturbed env address s s')
    (hleft : s'.router.bandwidth address=s.router.bandwidth address ∨
      policy.mode≠.normal ∧ (s'.router.bandwidth address).active=false)
    (hdrift : s.router.bandwidthDrifts policy address=false) :
    s'.router.bandwidthDrifts policy address=false := by
  unfold RouterOS.bandwidthDrifts at hdrift ⊢
  rw [h.expectsBandwidth]
  rcases hleft with hsame | ⟨hmode,hnone⟩
  · rw [hsame]
    exact hdrift
  · have hexpects : s.router.expectsBandwidth policy=false := by
      unfold RouterOS.expectsBandwidth
      simp [hmode]
    rw [hexpects]
    exact hnone

lemma undisturbed_limited {preset : String} :
    Undisturbed env address s (s.limited address preset limit description) :=
  undisturbed_withTables (kept_bandwidthWritten _) (listedIn_limited _ _)
    (bandwidthWritten_of_ne (by decide) _) (bandwidthWritten_of_ne (by decide) _)

lemma bandwidth_limited {preset : String} :
    (s.limited address preset limit description).router.bandwidth address=
      bandwidthOf address (limit.toList.map fun l =>
        deviceQueue address address.deviceBandwidthQueueName l
          (described description ("MC - Policy Bandwidth - preset:" ++ preset))) :=
  bandwidthOf_written s.router.tables

/-- Behind the writer the bandwidth does not drift. -/
lemma bandwidthDrifts_limited {preset : String} (hlimit : policyLimit policy=.ok limit)
    (hreadable : Readable (targetLimit (s.router.expectsBandwidth policy) limit)) :
    (s.limited address preset (targetLimit (s.router.expectsBandwidth policy) limit)
      description).router.bandwidthDrifts policy address=false := by
  have hjoin : (policyLimit policy).toOption.join=limit := by
    rw [hlimit]
    rfl
  have hundisturbed : Undisturbed {} address s (s.limited address preset
    (targetLimit (s.router.expectsBandwidth policy) limit) description) := undisturbed_limited
  unfold RouterOS.bandwidthDrifts
  rw [hundisturbed.expectsBandwidth,hjoin,bandwidthDrifts_target hlimit,bandwidth_limited,
    @bandwidthDrifts_iff address]
  exact (bandwidthReply_iff address _ _).mpr hreadable

/-- The bandwidth is written second, and with it nothing else. -/
lemma exec_bandwidthChange (hplan : PlanOf s.router catalog policy address plan)
    (h : Undisturbed env address s s') (hgate : s'.PassesGate env)
    (hmanaged : s'.router.Managed address) (hlimit : policyLimit policy=.ok limit)
    (hleft : s'.router.bandwidth address=s.router.bandwidth address ∨
      policy.mode≠.normal ∧ (s'.router.bandwidth address).active=false)
    (hcan : s.router.bandwidthDrifts policy address=true → s.router.expectsBandwidth policy=true →
      isPresetKey (policyPreset policy)=true ∧ Readable limit) :
    ∃ changes s'', exec (bandwidthChange env address description plan) s'=(.ok changes,s'') ∧
      Undisturbed env address s' s'' ∧ s''.router.bandwidthDrifts policy address=false ∧
      modeIn s''.router.tables address=modeIn s'.router.tables address ∧
      ∀ list, listedIn s''.router.tables list address=listedIn s'.router.tables list address := by
  unfold bandwidthChange
  by_cases hdrift : plan.bandwidthDrift=true
  · rw [if_pos hdrift,hplan.expected,hplan.preset,hplan.upload,hplan.download,
      ← h.expectsBandwidth]
    rw [hplan.bandwidthDrift] at hdrift
    rw [← h.expectsBandwidth] at hcan
    have hkey : isPresetKey (nocase (strip (targetPreset policy
        (s'.router.expectsBandwidth policy))))=true ∧
        Readable (targetLimit (s'.router.expectsBandwidth policy) limit) := by
      cases hexpected : s'.router.expectsBandwidth policy with
      | true =>
        rw [show targetPreset policy true=policyPreset policy from rfl,policyPreset_normal]
        exact hcan hdrift hexpected
      | false =>
        rw [show targetPreset policy false="normal" from rfl]
        exact ⟨by decide,nofun⟩
    obtain ⟨result,hexec⟩ := @exec_setDeviceBandwidth env address description
      (targetPreset policy (s'.router.expectsBandwidth policy)) (policyUpload policy)
      (policyDownload policy) _ s' hgate hmanaged
      (presetLimit_target hlimit (s'.router.expectsBandwidth policy)) hkey.1 hkey.2
    exact ⟨_,_,exec_bind_ok hexec,undisturbed_limited,bandwidthDrifts_limited hlimit hkey.2,
      modeIn_limited,fun list => listedIn_limited list address⟩
  · rw [if_neg hdrift]
    refine ⟨[],s',rfl,Undisturbed.refl env address s',bandwidthDrifts_kept h hleft ?_,rfl,
      fun _ => rfl⟩
    rw [← hplan.bandwidthDrift]
    exact Bool.eq_false_iff.mpr hdrift

/-- An expected bandwidth that cannot be written or read back ends the pass. -/
lemma exec_bandwidthChange_of_not (hplan : PlanOf s.router catalog policy address plan)
    (hgate : s'.PassesGate env) (hmanaged : s'.router.Managed address)
    (hlimit : policyLimit policy=.ok limit)
    (hdrift : s.router.bandwidthDrifts policy address=true)
    (hexpects : s.router.expectsBandwidth policy=true)
    (hnot : ¬(isPresetKey (policyPreset policy)=true ∧ Readable limit)) :
    ∃ e s'', exec (bandwidthChange env address description plan) s'=(.error e,s'') := by
  have hpreset := presetLimit_target hlimit true
  rw [show targetPreset policy true=policyPreset policy from rfl] at hpreset
  rw [← policyPreset_normal] at hnot
  obtain ⟨e,s'',hexec⟩ := @exec_setDeviceBandwidth_of_not env address description
    (policyPreset policy) (policyUpload policy) (policyDownload policy) limit s' hgate hmanaged
    hpreset hnot
  refine ⟨e,s'',?_⟩
  unfold bandwidthChange
  rw [hplan.bandwidthDrift,if_pos hdrift,hplan.expected,if_pos hexpects,hplan.preset,hplan.upload,
    hplan.download]
  exact exec_bind_error hexec

/-- The services of a plan are in the normal form that the writer gives them. -/
lemma desiredKeys_desiredSupported (catalog : Catalog) (policy : EffectivePolicy) :
    desiredKeys (desiredSupported catalog policy)=desiredSupported catalog policy := by
  have hperm : (blockedKeys policy).Perm
      ((policy.blockedServices.map fun key => nocase (strip key)).dedup) := List.mergeSort_perm _ _
  have hnodup : (desiredSupported catalog policy).Nodup :=
    (hperm.nodup_iff.mpr (List.nodup_dedup _)).filter _
  have hnormal : ∀ key ∈ desiredSupported catalog policy, nocase (strip key)=key := by
    intro key hkey
    have hmem := List.mem_dedup.mp (hperm.subset (List.mem_filter.mp hkey).1)
    obtain ⟨key',-,rfl⟩ := List.mem_map.mp hmem
    rw [strip_nocase,strip_strip,nocase_nocase]
  unfold desiredKeys
  rw [List.map_congr_left hnormal,List.map_id',List.dedup_eq_self.mpr hnodup]

/-- The services are written last, over the built-in catalogue. -/
lemma exec_serviceChange (hplan : PlanOf s.router catalog policy address plan)
    (hdrift : catalog.any (s.router.serviceDrifts catalog policy address)=true)
    (hgate : s'.PassesGate env) (hmanaged : s'.router.Managed address)
    (hbuiltin : ∀ key ∈ desiredSupported catalog policy, key ∈ serviceEnforcement.keys)
    (hvalid : s'.router.PlanValid serviceEnforcement address (desiredSupported catalog policy)) :
    ∃ changes s'', exec (serviceChange env address description plan) s'=(.ok changes,s'') ∧
      Undisturbed env address s' s'' ∧
      modeIn s''.router.tables address=modeIn s'.router.tables address ∧
      s''.router.bandwidth address=s'.router.bandwidth address ∧
      (∀ x ∈ serviceEnforcement, (listedIn s''.router.tables x.2.sourceList address).length=
        if (desiredSupported catalog policy).contains x.1 then 1 else 0) ∧
      ∀ list, list ∉ serviceEnforcement.map (fun x => x.2.sourceList) →
        listedIn s''.router.tables list address=listedIn s'.router.tables list address := by
  have hcan : s'.CanSetServices env serviceEnforcement address
      (desiredKeys (desiredSupported catalog policy)) := by
    rw [desiredKeys_desiredSupported]
    exact ⟨hbuiltin,hgate,hmanaged,hvalid⟩
  obtain ⟨result,t,hexec,hsame⟩ := @exec_setDeviceServices env serviceEnforcement address
    description s' _ hcan builtin_keys_nodup builtin_lists_nodup (by decide)
  rw [desiredKeys_desiredSupported] at hsame
  have hlisted (list : String) : listedIn t list address=listedIn (servicesWritten
      serviceEnforcement address (desiredSupported catalog policy) (clip (strip description) 60)
        s'.router.tables) list address := TableFamily.rows_congr (hsame _ (by decide)) _
  have hother : ∀ list, list ∉ serviceEnforcement.map (fun x => x.2.sourceList) →
      listedIn t list address=listedIn s'.router.tables list address := fun list hlist =>
    (hlisted list).trans (listedIn_servicesWritten_other hlist address)
  have htable {k : Resource} (haddress : k≠.addressList) (hconnection : k≠.connection) :
      t k=s'.router.tables k := (hsame k hconnection).trans (servicesWritten_of_ne haddress)
  have hqueues (name : String) : queuesIn t name=queuesIn s'.router.tables name :=
    TableFamily.rows_congr (htable (by decide) (by decide)) _
  obtain ⟨changes,hrun⟩ : ∃ changes, exec (serviceChange env address description plan) s'=
      (.ok changes,{ s'.passed with router := s'.router.withTables t }) := by
    unfold serviceChange
    rw [hplan.serviceDrift,if_pos hdrift,hplan.desired]
    exact ⟨_,exec_bind_ok hexec⟩
  refine ⟨changes,_,hrun,undisturbed_withTables (kept_servicesWritten.trans (kept_of_others hsame))
    (hother _ (by decide)) (htable (by decide) (by decide)) (htable (by decide) (by decide)),?_,?_,
    fun x hx => ?_,hother⟩
  · change modeIn t address=_
    unfold modeIn
    rw [hother _ (by decide),hother _ (by decide),hqueues]
  · exact congrArg (fun queues => bandwidthOf address (queues.map Prod.snd)) (hqueues _)
  · exact (congrArg List.length (hlisted _)).trans (listedIn_servicesWritten builtin_lists_nodup hx)

/-- Without a service that drifts nothing is written for them. -/
lemma exec_serviceChange_none (hplan : PlanOf s.router catalog policy address plan)
    (hdrift : catalog.any (s.router.serviceDrifts catalog policy address)=false) :
    exec (serviceChange env address description plan) s'=(.ok [],s') := by
  unfold serviceChange
  rw [hplan.serviceDrift,hdrift]
  rfl

/-- A custom service that shall be blocked is refused, as is a broken contract. -/
lemma exec_serviceChange_of_not (hplan : PlanOf s.router catalog policy address plan)
    (hdrift : catalog.any (s.router.serviceDrifts catalog policy address)=true)
    (hgate : s'.PassesGate env) (hmanaged : s'.router.Managed address)
    (hnot : ¬((∀ key ∈ desiredSupported catalog policy, key ∈ serviceEnforcement.keys) ∧
      s'.router.PlanValid serviceEnforcement address (desiredSupported catalog policy))) :
    ∃ e s'', exec (serviceChange env address description plan) s'=(.error e,s'') := by
  rw [← desiredKeys_desiredSupported] at hnot
  obtain ⟨e,s'',hexec⟩ := @exec_setDeviceServices_of_not env serviceEnforcement address description
    s' _ hgate hmanaged hnot
  refine ⟨e,s'',?_⟩
  unfold serviceChange
  rw [hplan.serviceDrift,if_pos hdrift,hplan.desired]
  exact exec_bind_error hexec

end Changes

section Condition
variable {text : Env} (c : CustomServices text) (catalog : Catalog) (policy : EffectivePolicy)
  (address : Ipv4) (r : RouterOS)

/-- RouterOS shows no drift. -/
structure RouterOS.Follows : Prop where
  mode : r.modeDrifts policy address=false
  bandwidth : r.bandwidthDrifts policy address=false
  services : catalog.any (r.serviceDrifts catalog policy address)=false

/-- No custom service is left with the one entry of a blocked service: not by the writes for the
built-in services, and not from before. -/
structure RouterOS.CustomReleased : Prop where
  shared : ∀ x ∈ c.services, ∀ y ∈ serviceEnforcement, y.2.sourceList=x.2.sourceList →
    y.1 ∉ desiredSupported c.catalog policy
  single : ∀ x ∈ c.services, x.2.sourceList ∉ serviceEnforcement.map (fun y => y.2.sourceList) →
    (r.listed x.2.sourceList address).length≠1

def RouterOS.ServicesDrift : Prop := catalog.any (r.serviceDrifts catalog policy address)=true

/-- An expected bandwidth that drifts has a key that the writer takes, and a limit that is read
back. -/
def RouterOS.BandwidthWritable : Prop :=
  r.bandwidthDrifts policy address=true → r.expectsBandwidth policy=true →
    isPresetKey (policyPreset policy)=true ∧ ∀ limit, policyLimit policy=.ok limit → Readable limit

/-- The services that a policy blocks can be written over the built-in catalogue. -/
structure RouterOS.ServicesWritable : Prop where
  builtin : ∀ key ∈ desiredSupported catalog policy, key ∈ serviceEnforcement.keys
  valid : r.PlanValid serviceEnforcement address (desiredSupported catalog policy)

/-- What a pass needs to bring a device to its policy. -/
structure RouterOS.Reconcilable : Prop where
  plannable : r.Plannable policy address
  bandwidth : r.BandwidthWritable policy address
  writable : r.ServicesDrift c.catalog policy address →
    r.ServicesWritable c.catalog policy address
  released : r.ServicesDrift c.catalog policy address → r.CustomReleased c policy address

variable {c catalog policy address r} {r' : RouterOS}

lemma serviceDrifts_of_entries {x : String × Service}
    (h : (listedIn r.tables x.2.sourceList address).length=
      if (desiredSupported catalog policy).contains x.1 then 1 else 0) :
    r.serviceDrifts catalog policy address x=false := by
  unfold RouterOS.serviceDrifts
  rw [show (r.listed x.2.sourceList address).length=_ from h]
  cases (desiredSupported catalog policy).contains x.1 <;> simp

/-- A service that is not blocked by the policy drifts with its one entry. -/
lemma serviceDrifts_undesired {x : String × Service}
    (hcontract : r.contractFailure catalog x.1=none) (h : x.1 ∉ desiredSupported catalog policy) :
    r.serviceDrifts catalog policy address x=false ↔
      (listedIn r.tables x.2.sourceList address).length≠1 := by
  have hcontains : (desiredSupported catalog policy).contains x.1=false := by simpa using h
  unfold RouterOS.serviceDrifts
  rw [hcontract,hcontains]
  change ((true && _) && _)=false ↔ _
  by_cases hone : (r.listed x.2.sourceList address).length=1
  · simp [hone,show (listedIn r.tables x.2.sourceList address).length=1 from hone]
  · simp [hone,show (listedIn r.tables x.2.sourceList address).length≠1 from hone]

/-- Behind the writes for the built-in services only custom ones can drift. -/
lemma services_follow_iff
    (hhealthy : ∀ x ∈ c.services, r'.contractFailure c.catalog x.1=none)
    (hdesired : ∀ key ∈ desiredSupported c.catalog policy, key ∈ serviceEnforcement.keys)
    (hwritten : ∀ x ∈ serviceEnforcement, (listedIn r'.tables x.2.sourceList address).length=
      if (desiredSupported c.catalog policy).contains x.1 then 1 else 0)
    (hother : ∀ x ∈ c.services, x.2.sourceList ∉ serviceEnforcement.map (fun y => y.2.sourceList) →
      listedIn r'.tables x.2.sourceList address=listedIn r.tables x.2.sourceList address) :
    c.catalog.any (r'.serviceDrifts c.catalog policy address)=false ↔
      r.CustomReleased c policy address := by
  have hcustom : ∀ x ∈ c.services, r'.serviceDrifts c.catalog policy address x=false ↔
      (listedIn r'.tables x.2.sourceList address).length≠1 := fun x hx =>
    serviceDrifts_undesired (hhealthy x hx) fun hmem => c.custom x hx (hdesired _ hmem)
  rw [List.any_eq_false]
  constructor
  · intro h
    have hsingle : ∀ x ∈ c.services, (listedIn r'.tables x.2.sourceList address).length≠1 :=
      fun x hx => (hcustom x hx).mp (Bool.eq_false_iff.mpr (h x (List.mem_append_right _ hx)))
    refine ⟨fun x hx y hy hlist hmem => hsingle x hx ?_,fun x hx hlist => ?_⟩
    · rw [← hlist,hwritten y hy,if_pos (List.contains_iff_mem.mpr hmem)]
    · have hone := hsingle x hx
      rw [hother x hx hlist] at hone
      exact hone
  · rintro ⟨hshared,hsingle⟩ x hx
    refine Bool.eq_false_iff.mp ?_
    rcases List.mem_append.mp hx with hx | hx
    · exact serviceDrifts_of_entries (hwritten x hx)
    · rw [hcustom x hx]
      by_cases hlist : x.2.sourceList ∈ serviceEnforcement.map fun y => y.2.sourceList
      · obtain ⟨y,hy,hsame⟩ := List.mem_map.mp hlist
        have hundesired := hshared x hx y hy hsame
        rw [← hsame,hwritten y hy,if_neg (mt List.contains_iff_mem.mp hundesired)]
        decide
      · rw [hother x hx hlist]
        exact hsingle x hx hlist

/-- The validity of a plan is decided by the rules and the source lists. -/
lemma planValid_congr (hfilter : r'.filter=r.filter) {desired : List String}
    (hlisted : ∀ x ∈ catalog, listedIn r'.tables x.2.sourceList address=
      listedIn r.tables x.2.sourceList address) :
    r'.PlanValid catalog address desired ↔ r.PlanValid catalog address desired := by
  refine forall₂_congr fun x hx => ?_
  unfold needsChange
  rw [hlisted x hx,contractFailure_congr hfilter]

lemma serviceDrifts_congr (hfilter : r'.filter=r.filter) {x : String × Service}
    (hlisted : listedIn r'.tables x.2.sourceList address=listedIn r.tables x.2.sourceList address) :
    r'.serviceDrifts catalog policy address x=r.serviceDrifts catalog policy address x := by
  unfold RouterOS.serviceDrifts
  rw [contractFailure_congr hfilter,
    show r'.listed x.2.sourceList address=r.listed x.2.sourceList address from hlisted]

lemma serviceDrifts_cleanedUp : (r.cleanedUp address).serviceDrifts catalog policy address=
    r.serviceDrifts catalog policy address :=
  funext fun _ => @serviceDrifts_congr catalog policy address r (r.cleanedUp address) rfl _ rfl

lemma servicesDrift_congr (hfilter : r'.filter=r.filter)
    (hlisted : ∀ x ∈ catalog, listedIn r'.tables x.2.sourceList address=
      listedIn r.tables x.2.sourceList address) :
    r'.ServicesDrift catalog policy address ↔ r.ServicesDrift catalog policy address := by
  unfold RouterOS.ServicesDrift
  rw [List.any_eq_true,List.any_eq_true]
  refine exists_congr fun x => and_congr_right fun hx => ?_
  rw [serviceDrifts_congr hfilter (hlisted x hx)]

lemma follows_cleanedUp (h : r.Follows catalog policy address) :
    (r.cleanedUp address).Follows catalog policy address :=
  ⟨h.mode,h.bandwidth,serviceDrifts_cleanedUp (r:=r) ▸ h.services⟩

/-- The plan of RouterOS is the plan of what the cleanup leaves. -/
lemma PlanOf.cleanedUp {plan : LivePlan} (h : PlanOf r catalog policy address plan) :
    PlanOf (r.cleanedUp address) catalog policy address plan :=
  { h with serviceDrift := serviceDrifts_cleanedUp (r:=r) ▸ h.serviceDrift }

end Condition

section Pass
variable (env : Environment) {text : Env} (c : CustomServices text) (policy : EffectivePolicy)
  (address : Ipv4) (description : String)

/-- A pass returns, and the plan that is computed behind it shows no drift. -/
def System.Converges (s : System) : Prop :=
  ∃ reply s', exec (reconcileDevice env (deviceLivePlan c.catalog policy address) address
      description) s=(.ok reply,s') ∧
    ∃ plan s'', exec (deviceLivePlan c.catalog policy address) s'=(.ok plan,s'') ∧
      plan.modeDrift=false ∧ plan.bandwidthDrift=false ∧ plan.serviceDrift=false

/-- The three changes of a plan. -/
def changesOf (plan : LivePlan) : RouterProg (List String) :=
  (modeChange env address description plan).bind fun modeChanges =>
  (bandwidthChange env address description plan).bind fun bandwidthChanges =>
  (serviceChange env address description plan).bind fun serviceChanges =>
  .ret (modeChanges ++ bandwidthChanges ++ serviceChanges)

variable {env c policy address description} {s s' : System} {plan : LivePlan}

/-- What a pass needs of the state in which it starts to write. -/
structure System.Ready (env : Environment) (policy : EffectivePolicy) (address : Ipv4)
    (s : System) : Prop where
  gate : s.PassesGate env
  managed : s.router.Managed address
  inactive : s.router.Inactive address
  plannable : s.router.Plannable policy address

lemma Undisturbed.ready (h : Undisturbed env address s s') (hready : s.Ready env policy address) :
    s'.Ready env policy address :=
  ⟨h.passesGate hready.gate,h.managed.mpr hready.managed,h.inactive.mpr hready.inactive,
    h.plannable.mpr hready.plannable⟩

lemma System.Ready.cleanedUp (hready : s.Ready env policy address) :
    (s.cleanedUp address).Ready env policy address where
  gate := hready.gate.kept id rfl (kept_cleanedUp s.router address)
  managed := managed_cleanedUp.mpr hready.managed
  inactive reply := by
    rw [show (s.cleanedUp address).router.temporary address=_ from temporary_cleanedUp _ _]
    exact nofun
  plannable := by
    refine ⟨hready.plannable.block,fun m => ?_,hready.plannable.status,hready.plannable.limit⟩
    rw [show (s.cleanedUp address).router.temporary address=_ from temporary_cleanedUp _ _]
    exact nofun

/-- A plan shows no drift exactly where RouterOS has none. -/
lemma exec_readyPlan (hready : s.Ready env policy address) :
    ∃ plan, exec (deviceLivePlan c.catalog policy address) s=(.ok plan,s.cleanedUp address) ∧
      PlanOf s.router c.catalog policy address plan ∧
      ((plan.modeDrift=false ∧ plan.bandwidthDrift=false ∧ plan.serviceDrift=false) ↔
        s.router.Follows c.catalog policy address) := by
  obtain ⟨plan,hexec,hplan⟩ := exec_deviceLivePlan c.keys_nodup hready.managed hready.inactive
    hready.plannable
  refine ⟨plan,hexec,hplan,?_⟩
  rw [hplan.modeDrift,hplan.bandwidthDrift,hplan.serviceDrift]
  exact ⟨fun ⟨hmode,hbandwidth,hservices⟩ => ⟨hmode,hbandwidth,hservices⟩,
    fun h => ⟨h.mode,h.bandwidth,h.services⟩⟩

/-- Mode and bandwidth are brought to the policy, and the services stay as they are. -/
lemma exec_modeAndBandwidth (hready : s.Ready env policy address)
    (hplan : PlanOf s.router c.catalog policy address plan)
    (hbandwidth : s.router.BandwidthWritable policy address) :
    ∃ modes s₁ bandwidths s₂, exec (modeChange env address description plan) s=(.ok modes,s₁) ∧
      exec (bandwidthChange env address description plan) s₁=(.ok bandwidths,s₂) ∧
      Undisturbed env address s s₂ ∧ s₂.router.modeDrifts policy address=false ∧
      s₂.router.bandwidthDrifts policy address=false ∧ ∀ list, IsSourceList list →
        listedIn s₂.router.tables list address=listedIn s.router.tables list address := by
  obtain ⟨limit,hlimit⟩ := hready.plannable.limit
  obtain ⟨modes,s₁,hmodeRun,hmodeFrame,hmodeDone,hmodeLists,hleft⟩ :=
    @exec_modeChange env policy c.catalog address description plan s hplan
      ⟨hready.gate,hready.plannable.block,hready.managed⟩
  have hready₁ := hmodeFrame.ready hready
  obtain ⟨bandwidths,s₂,hbandRun,hbandFrame,hbandDone,hbandMode,hbandLists⟩ :=
    @exec_bandwidthChange env policy c.catalog address description plan s s₁ limit hplan hmodeFrame
      hready₁.gate hready₁.managed hlimit hleft fun hdrift hexpects =>
        (hbandwidth hdrift hexpects).imp_right fun h => h limit hlimit
  refine ⟨modes,s₁,bandwidths,s₂,hmodeRun,hbandRun,hmodeFrame.trans hbandFrame,?_,hbandDone,
    fun list hlist => (hbandLists list).trans (hmodeLists list hlist)⟩
  unfold RouterOS.modeDrifts at hmodeDone ⊢
  rw [hbandMode]
  exact hmodeDone

/-- The three changes follow on one another, and leave drift only in custom services. -/
lemma exec_changesOf (hready : s.Ready env policy address)
    (hplan : PlanOf s.router c.catalog policy address plan)
    (hhealthy : ∀ x ∈ c.services, s.router.contractFailure c.catalog x.1=none)
    (hbandwidth : s.router.BandwidthWritable policy address)
    (hwritable : s.router.ServicesDrift c.catalog policy address →
      s.router.ServicesWritable c.catalog policy address) :
    ∃ changes s', exec (changesOf env address description plan) s=(.ok changes,s') ∧
      s'.Ready env policy address ∧ (s'.router.Follows c.catalog policy address ↔
        (s.router.ServicesDrift c.catalog policy address →
          s.router.CustomReleased c policy address)) := by
  obtain ⟨modes,s₁,bandwidths,s₂,hmodeRun,hbandRun,hframe,hmode,hband,hlists⟩ :=
    @exec_modeAndBandwidth env text c policy address description s plan hready hplan hbandwidth
  have hready₂ := hframe.ready hready
  by_cases hdrift : s.router.ServicesDrift c.catalog policy address
  · obtain ⟨hbuiltin,hvalid⟩ := hwritable hdrift
    have hvalid₂ : s₂.router.PlanValid serviceEnforcement address
        (desiredSupported c.catalog policy) :=
      (planValid_congr hframe.filter fun x hx => hlists _ (builtin_lists x hx)).mpr hvalid
    obtain ⟨services,s₃,hservRun,hservFrame,hservMode,hservBand,hwritten,hother⟩ :=
      @exec_serviceChange env policy c.catalog address description plan s s₂ hplan hdrift
        hready₂.gate hready₂.managed hbuiltin hvalid₂
    refine ⟨modes ++ bandwidths ++ services,s₃,?_,hservFrame.ready hready₂,?_⟩
    · unfold changesOf
      rw [exec_bind_ok hmodeRun,exec_bind_ok hbandRun,exec_bind_ok hservRun]
      rfl
    · have hfollow := @services_follow_iff text c policy address s.router s₃.router
        (fun x hx => ((hframe.trans hservFrame).contractFailure _ _).trans (hhealthy x hx)) hbuiltin
        hwritten fun x hx hlist => (hother _ hlist).trans
          (hlists _ (c.lists x (List.mem_append_right _ hx)))
      have hmode₃ : s₃.router.modeDrifts policy address=false := by
        unfold RouterOS.modeDrifts at hmode ⊢
        rw [hservMode]
        exact hmode
      have hband₃ : s₃.router.bandwidthDrifts policy address=false := by
        unfold RouterOS.bandwidthDrifts at hband ⊢
        rw [hservFrame.expectsBandwidth,hservBand]
        exact hband
      rw [← hfollow]
      exact ⟨fun h _ => h.services,fun h => ⟨hmode₃,hband₃,h hdrift⟩⟩
  · have hrun := @exec_serviceChange_none env policy c.catalog address description plan s s₂ hplan
      (Bool.eq_false_iff.mpr hdrift)
    have hstill := mt (servicesDrift_congr hframe.filter fun x hx =>
      hlists _ (c.lists x hx)).mp hdrift
    refine ⟨modes ++ bandwidths ++ [],s₂,?_,hready₂,
      iff_of_true ⟨hmode,hband,Bool.eq_false_iff.mpr hstill⟩ fun h => absurd h hdrift⟩
    unfold changesOf
    rw [exec_bind_ok hmodeRun,exec_bind_ok hbandRun,exec_bind_ok hrun]
    rfl

/-- Otherwise one of the changes raises. -/
lemma exec_changesOf_of_not (hready : s.Ready env policy address)
    (hplan : PlanOf s.router c.catalog policy address plan)
    (h : ¬(s.router.BandwidthWritable policy address ∧
      (s.router.ServicesDrift c.catalog policy address →
        s.router.ServicesWritable c.catalog policy address))) :
    ∃ e s', exec (changesOf env address description plan) s=(.error e,s') := by
  unfold changesOf
  by_cases hbandwidth : s.router.BandwidthWritable policy address
  · obtain ⟨modes,s₁,bandwidths,s₂,hmodeRun,hbandRun,hframe,-,-,hlists⟩ :=
      @exec_modeAndBandwidth env text c policy address description s plan hready hplan hbandwidth
    have hready₂ := hframe.ready hready
    obtain ⟨hdrift,hunwritable⟩ := Classical.not_imp.mp fun hwritable => h ⟨hbandwidth,hwritable⟩
    have hvalid : s₂.router.PlanValid serviceEnforcement address
        (desiredSupported c.catalog policy) ↔ s.router.PlanValid serviceEnforcement address
        (desiredSupported c.catalog policy) :=
      planValid_congr hframe.filter fun x hx => hlists _ (builtin_lists x hx)
    obtain ⟨e,s',hrun⟩ := @exec_serviceChange_of_not env policy c.catalog address description plan
      s s₂ hplan hdrift hready₂.gate hready₂.managed fun hcan =>
        hunwritable ⟨hcan.1,hvalid.mp hcan.2⟩
    refine ⟨e,s',?_⟩
    rw [exec_bind_ok hmodeRun,exec_bind_ok hbandRun,exec_bind_error hrun]
  · obtain ⟨limit,hlimit⟩ := hready.plannable.limit
    obtain ⟨modes,s₁,hmodeRun,hmodeFrame,-⟩ :=
      @exec_modeChange env policy c.catalog address description plan s hplan
        ⟨hready.gate,hready.plannable.block,hready.managed⟩
    have hready₁ := hmodeFrame.ready hready
    obtain ⟨hdrift,hrest⟩ := Classical.not_imp.mp hbandwidth
    obtain ⟨hexpects,hunwritable⟩ := Classical.not_imp.mp hrest
    obtain ⟨e,s',hrun⟩ := @exec_bandwidthChange_of_not env policy c.catalog address description plan
      s s₁ limit hplan hready₁.gate hready₁.managed hlimit hdrift hexpects fun hcan =>
        hunwritable ⟨hcan.1,fun limit' hlimit' => by
          rw [hlimit] at hlimit'
          exact Except.ok.inj hlimit' ▸ hcan.2⟩
    refine ⟨e,s',?_⟩
    rw [exec_bind_ok hmodeRun,exec_bind_error hrun]

lemma reconcileDevice_eq (planLoader : RouterProg LivePlan) :
    reconcileDevice env planLoader address description=planLoader.bind fun plan =>
      if plan.temporaryOverride then .ret ⟨.temporary,[],plan⟩
      else if !plan.policyActionable then
        .ret ⟨if plan.status=.partially then .partially else .synced,[],plan⟩
      else if !(plan.modeDrift || plan.bandwidthDrift || plan.serviceDrift) then
        .ret ⟨.synced,[],plan⟩
      else (changesOf env address description plan).bind fun changes =>
        planLoader.bind fun verified =>
          if verified.modeDrift || verified.serviceDrift || verified.bandwidthDrift then
            .raise (.reconciliation s!"Policy apply did not converge for {address.text}")
          else .ret ⟨.applied,changes,plan⟩ := by
  unfold reconcileDevice changesOf
  simp only [Prog.bind_assoc]
  rfl

/-- The cleanup of a stale temporary access changes nothing that a pass needs. -/
lemma reconcilable_cleanedUp {r : RouterOS} (hplannable : r.Plannable policy address)
    (hplannable' : (r.cleanedUp address).Plannable policy address) :
    (r.cleanedUp address).Reconcilable c policy address ↔ r.Reconcilable c policy address := by
  have hdrift : (r.cleanedUp address).ServicesDrift c.catalog policy address ↔
      r.ServicesDrift c.catalog policy address := servicesDrift_congr rfl fun _ _ => rfl
  have hfilter : (r.cleanedUp address).filter=r.filter := rfl
  have hvalid : (r.cleanedUp address).PlanValid serviceEnforcement address
      (desiredSupported c.catalog policy) ↔ r.PlanValid serviceEnforcement address
      (desiredSupported c.catalog policy) := planValid_congr hfilter fun _ _ => rfl
  constructor
  · rintro ⟨-,hbandwidth,hwritable,hreleased⟩
    refine ⟨hplannable,hbandwidth,fun h => ?_,fun h => ?_⟩
    · obtain ⟨hbuiltin,hcontracts⟩ := hwritable (hdrift.mpr h)
      exact ⟨hbuiltin,hvalid.mp hcontracts⟩
    · obtain ⟨hshared,hsingle⟩ := hreleased (hdrift.mpr h)
      exact ⟨hshared,hsingle⟩
  · rintro ⟨-,hbandwidth,hwritable,hreleased⟩
    refine ⟨hplannable',hbandwidth,fun h => ?_,fun h => ?_⟩
    · obtain ⟨hbuiltin,hcontracts⟩ := hwritable (hdrift.mp h)
      exact ⟨hbuiltin,hvalid.mpr hcontracts⟩
    · obtain ⟨hshared,hsingle⟩ := hreleased (hdrift.mp h)
      exact ⟨hshared,hsingle⟩

/-- Where nothing drifts the pass returns at once. -/
lemma converges_of_follows (hready : s.Ready env policy address)
    (hfollowed : s.router.Follows c.catalog policy address) :
    s.Converges env c policy address description := by
  obtain ⟨plan,hplan,hplanOf,hfollows⟩ := @exec_readyPlan env text c policy address s hready
  obtain ⟨later,hlater,-,hlaterFollows⟩ :=
    @exec_readyPlan env text c policy address _ hready.cleanedUp
  obtain ⟨hmode,hbandwidth,hservices⟩ := hfollows.mpr hfollowed
  have hactionable : plan.policyActionable=false := by
    rw [hplanOf.actionable,hmode,hbandwidth,hservices]
    rfl
  obtain ⟨reply,hrun⟩ : ∃ reply, exec (reconcileDevice env (deviceLivePlan c.catalog policy
      address) address description) s=(.ok reply,s.cleanedUp address) := by
    rw [reconcileDevice_eq,exec_bind_ok hplan,if_neg (by rw [hplanOf.override]; decide),
      if_pos (by rw [hactionable]; rfl)]
    exact ⟨_,rfl⟩
  exact ⟨reply,_,hrun,later,_,hlater,hlaterFollows.mpr (follows_cleanedUp hfollowed)⟩

/-- Where a pass writes, it converges exactly where its state behind the changes follows the
policy. -/
lemma converges_of_changes {changes : List String} (hready : s'.Ready env policy address)
    (hplan : exec (deviceLivePlan c.catalog policy address) s=(.ok plan,s.cleanedUp address))
    (hdrift : plan.temporaryOverride=false ∧ plan.policyActionable=true ∧
      (plan.modeDrift || plan.bandwidthDrift || plan.serviceDrift)=true)
    (hchanges : exec (changesOf env address description plan) (s.cleanedUp address)=
      (.ok changes,s')) :
    s.Converges env c policy address description ↔ s'.router.Follows c.catalog policy address := by
  obtain ⟨verified,hverified,-,hfollows⟩ := @exec_readyPlan env text c policy address s' hready
  obtain ⟨later,hlater,-,hlaterFollows⟩ :=
    @exec_readyPlan env text c policy address _ hready.cleanedUp
  obtain ⟨hoverride,hactionable,hany⟩ := hdrift
  have hrun : exec (reconcileDevice env (deviceLivePlan c.catalog policy address) address
      description) s=(if verified.modeDrift || verified.serviceDrift || verified.bandwidthDrift then
        (.error (.reconciliation s!"Policy apply did not converge for {address.text}"),
          s'.cleanedUp address)
      else (.ok ⟨.applied,changes,plan⟩,s'.cleanedUp address)) := by
    rw [reconcileDevice_eq,exec_bind_ok hplan,if_neg (by rw [hoverride]; decide),
      if_neg (by rw [hactionable]; decide),if_neg (by rw [hany]; decide),exec_bind_ok hchanges,
      exec_bind_ok hverified]
    split_ifs <;> rfl
  rw [← hfollows]
  constructor
  · rintro ⟨reply,s'',hreply,-⟩
    rw [hrun] at hreply
    by_cases hleft : (verified.modeDrift || verified.serviceDrift || verified.bandwidthDrift)=true
    · rw [if_pos hleft] at hreply
      cases hreply
    · simp only [Bool.or_eq_true,not_or,Bool.not_eq_true] at hleft
      exact ⟨hleft.1.1,hleft.2,hleft.1.2⟩
  · intro hnone
    refine ⟨_,s'.cleanedUp address,hrun.trans (if_neg ?_),later,_,hlater,
      hlaterFollows.mpr (follows_cleanedUp (hfollows.mp hnone))⟩
    simp [hnone.1,hnone.2.1,hnone.2.2]

/-- A pass brings a device to its policy if and only if RouterOS and the policy can be read, the
expected bandwidth can be written, and the services that drift can be written over the built-in
catalogue and leave no custom one behind. -/
theorem reconcileDevice_converges_iff (env : Environment) (text : Env) (c : CustomServices text)
    (policy : EffectivePolicy) (address : Ipv4) (description : String) (s : System)
    (hgate : s.PassesGate env) (hmanaged : s.router.Managed address)
    (hinactive : s.router.Inactive address)
    (hhealthy : ∀ x ∈ c.services, s.router.contractFailure c.catalog x.1=none) :
    s.Converges env c policy address description ↔ s.router.Reconcilable c policy address := by
  by_cases hplannable : s.router.Plannable policy address
  swap
  · refine iff_of_false ?_ fun h => hplannable h.plannable
    rintro ⟨reply,s',hrun,-⟩
    obtain ⟨e,t,hraised⟩ := @exec_deviceLivePlan_of_not c.catalog policy address s hmanaged
      hinactive hplannable
    rw [reconcileDevice,exec_bind_error hraised] at hrun
    cases hrun
  have hready : s.Ready env policy address := ⟨hgate,hmanaged,hinactive,hplannable⟩
  have hcleaned := hready.cleanedUp
  obtain ⟨plan,hplan,hplanOf,hfollows⟩ := @exec_readyPlan env text c policy address s hready
  by_cases hnone : plan.modeDrift=false ∧ plan.bandwidthDrift=false ∧ plan.serviceDrift=false
  · have hfollowed := hfollows.mp hnone
    have hstill : ¬s.router.ServicesDrift c.catalog policy address :=
      Bool.eq_false_iff.mp hfollowed.services
    refine iff_of_true (converges_of_follows hready hfollowed) ⟨hplannable,fun h => ?_,
      fun h => absurd h hstill,fun h => absurd h hstill⟩
    rw [hfollowed.bandwidth] at h
    cases h
  · have hany : (plan.modeDrift || plan.bandwidthDrift || plan.serviceDrift)=true := by
      simp only [Bool.or_eq_true]
      by_contra hleft
      push Not at hleft
      simp only [ne_eq,Bool.not_eq_true] at hleft
      exact hnone ⟨hleft.1.1,hleft.1.2,hleft.2⟩
    have hactionable : plan.policyActionable=true := by
      rw [hplanOf.actionable,← hany]
      cases plan.modeDrift <;> cases plan.bandwidthDrift <;> cases plan.serviceDrift <;> rfl
    rw [← reconcilable_cleanedUp hplannable hcleaned.plannable]
    by_cases hwritable : (s.cleanedUp address).router.BandwidthWritable policy address ∧
        ((s.cleanedUp address).router.ServicesDrift c.catalog policy address →
          (s.cleanedUp address).router.ServicesWritable c.catalog policy address)
    · have hhealthy' : ∀ x ∈ c.services,
          (s.cleanedUp address).router.contractFailure c.catalog x.1=none := by
        have hfilter : (s.cleanedUp address).router.filter=s.router.filter := rfl
        exact fun x hx => (contractFailure_congr hfilter c.catalog x.1).trans (hhealthy x hx)
      obtain ⟨changes,s',hchanges,hready',hcustom⟩ := @exec_changesOf env text c policy address
        description (s.cleanedUp address) plan hcleaned hplanOf.cleanedUp hhealthy' hwritable.1
        hwritable.2
      rw [converges_of_changes hready' hplan ⟨hplanOf.override,hactionable,hany⟩ hchanges,hcustom]
      exact ⟨fun h => ⟨hcleaned.plannable,hwritable.1,hwritable.2,h⟩,fun h => h.released⟩
    · obtain ⟨e,s',hraised⟩ := @exec_changesOf_of_not env text c policy address description
        (s.cleanedUp address) plan hcleaned hplanOf.cleanedUp hwritable
      refine iff_of_false ?_ fun h => hwritable ⟨h.bandwidth,h.writable⟩
      rintro ⟨reply,s'',hrun,-⟩
      rw [reconcileDevice_eq,exec_bind_ok hplan,if_neg (by rw [hplanOf.override]; decide),
        if_neg (by rw [hactionable]; decide),if_neg (by rw [hany]; decide),
        exec_bind_error hraised] at hrun
      cases hrun

end Pass

section Channel

/-- A store with an approved custom service, and a profile that blocks it. -/
def channelTables : Tables :=
  { profiles := [{ id := ⟨1,Int.zero_lt_one⟩, name := "Kids", blockedServices := ["channel4"] }],
    profileSeq := 1,
    devicePolicy := [{ ip := some "192.168.88.20", profileId := some ⟨1,Int.zero_lt_one⟩ }],
    bandwidthPresets :=
      [{ key := "normal", name := "Normal", upload := "Unlimited", download := "Unlimited",
         builtin := true }],
    services := [{ savedUnder "channel4" with enforcementApproved := true }] }

/-- A managed device behind the rules of the built-in services and of the custom one. -/
def channelRouter : RouterOS where
  filter := (contractRules (contractUnder "channel4" "Channel4") ++ readyRules).zipIdx.map
    fun r => (r.2,r.1)
  tables
    | .addressList => Table.empty.insert { list := restrictedList, address := "192.168.88.20" }
    | k => readyRouter.tables k

/-- The custom service with its contract. -/
def channelServices : CustomServices asciiEnv where
  services := [("channel4",contractUnder "channel4" "Channel4")]
  keys := by decide
  custom := by decide
  contract x hx := by
    rw [List.mem_singleton.mp hx]
    exact ⟨savedUnder "channel4",rfl,contract_plain⟩

lemma channelRouter_ready : channelRouter.failedChecks {}=[] := by
  refine (failedChecks_iff channelRouter).mpr ⟨?rules,?contracts,?integral⟩
  case rules =>
    have hchains : ∀ r ∈ (channelRouter.rules fun _ => true).map Prod.snd,
        r.chain="forward" ∨ r.chain="restricted-web" := by decide +kernel
    unfold failedRuleChecks
    dsimp only
    rw [restrictedWebOrder_last hchains (by decide +kernel)]
    unfold forwardAuthorityOrder establishedRelatedAcceptCandidates
    rw [chainRules_plain hchains (.inl rfl)]
    simp only [List.append_eq_nil_iff,ruleContracts,List.flatMap_cons,List.flatMap_nil,and_assoc,
      and_true]
    refine ⟨?_,?_,?_,?_,?_,?_,?_,?_,?_,?_⟩
    all_goals decide +kernel
  case contracts =>
    simp only [Catalog.keys,serviceEnforcement,List.map_cons,List.map_nil,List.forall_mem_cons]
    refine ⟨?_,?_,?_,?_,?_,?_,?_,?_,?_,?_,?_,?_,List.forall_mem_nil _⟩
    all_goals decide +kernel
  case integral =>
    unfold Integral
    decide +kernel

/-- The policy of a profile that blocks YouTube. -/
def youtubePolicy : EffectivePolicy :=
  (computeEffectivePolicy asciiEnv.toRuntime { channelTables with
    profiles := [{ id := ⟨1,Int.zero_lt_one⟩, name := "Kids", blockedServices := ["youtube"] }] }
    "192.168.88.20" (.naive (combine 738885 12 0)) none none).toOption.get (by decide +kernel)

lemma channelRouter_healthy : ∀ x ∈ channelServices.services,
    channelRouter.contractFailure channelServices.catalog x.1=none := by decide

lemma channelRouter_managed : channelRouter.Managed listedAddress := by
  unfold RouterOS.Managed
  decide

lemma channelRouter_inactive : channelRouter.Inactive listedAddress := nofun

lemma channelServices_catalog :
    routerosServiceCatalog asciiEnv channelTables=channelServices.catalog := by decide

lemma channelRouter_plannable : channelRouter.Plannable youtubePolicy listedAddress where
  block := by
    obtain ⟨rule,hrule⟩ := List.length_eq_one_iff.mp (show (channelRouter.rules
      fun rule => rule.comment=deviceBlockRuleComment).length=1 by decide)
    have henabled : (channelRouter.rules fun rule => rule.comment=deviceBlockRuleComment).all
      (fun rule => !rule.2.disabled)=true := by decide
    rw [hrule] at henabled
    exact ⟨rule,hrule,by simpa using henabled⟩
  temporary := nofun
  status := ⟨.normal,rfl⟩
  limit := ⟨none,by rfl⟩

/-- A pass blocks a built-in service beside the custom one. -/
theorem reconcileDevice_converges_youtube :
    System.Converges {} channelServices youtubePolicy listedAddress ""
      { router := channelRouter } := by
  refine (reconcileDevice_converges_iff {} asciiEnv channelServices youtubePolicy listedAddress ""
    { router := channelRouter } (.inr channelRouter_ready) channelRouter_managed
    channelRouter_inactive channelRouter_healthy).mpr
      ⟨channelRouter_plannable,fun h => ?_,fun _ => ⟨?_,?_⟩,fun _ => ⟨?_,?_⟩⟩
  · have hnone : channelRouter.bandwidthDrifts youtubePolicy listedAddress=false := by
      decide +kernel
    rw [hnone] at h
    cases h
  · decide +kernel
  · unfold RouterOS.PlanValid
    decide +kernel
  · decide +kernel
  · decide +kernel

lemma channelServices_stuck : ((computeEffectivePolicy asciiEnv.toRuntime channelTables
    "192.168.88.20" (.naive (combine 738885 12 0)) none none).toOption.map fun policy =>
      (exec (reconcileDevice {} (deviceLivePlan channelServices.catalog policy listedAddress)
        listedAddress "") { router := channelRouter }).1.toOption.isSome)=some false := by
  decide +kernel

/-- The block of an approved custom service with a healthy contract is refused. -/
theorem reconcileDevice_refuses_custom : ¬∀ (env : Environment) (text : Env) (t : Tables)
    (c : CustomServices text) (ip : String) (policyAt : PolicyAt) (policy : EffectivePolicy)
    (address : Ipv4) (description : String) (s : System),
    routerosServiceCatalog text t=c.catalog →
    computeEffectivePolicy text.toRuntime t ip policyAt none none=.ok policy →
    s.PassesGate env → s.router.Managed address → s.router.Inactive address →
    (∀ x ∈ c.services, s.router.contractFailure c.catalog x.1=none) →
    s.Converges env c policy address description := by
  intro h
  have hstuck := channelServices_stuck
  cases hpolicy : computeEffectivePolicy asciiEnv.toRuntime channelTables "192.168.88.20"
      (.naive (combine 738885 12 0)) none none with
  | error e =>
    rw [hpolicy] at hstuck
    cases hstuck
  | ok policy =>
    obtain ⟨reply,s',hrun,-⟩ := h {} asciiEnv channelTables channelServices "192.168.88.20" _ policy
      listedAddress "" { router := channelRouter } channelServices_catalog hpolicy
      (.inr channelRouter_ready) channelRouter_managed channelRouter_inactive channelRouter_healthy
    rw [hpolicy] at hstuck
    have hnone : (exec (reconcileDevice {} (deviceLivePlan channelServices.catalog policy
        listedAddress) listedAddress "") { router := channelRouter }).1.toOption.isSome=false :=
      Option.some.inj hstuck
    rw [hrun] at hnone
    cases hnone

end Channel

end ZenControl.Router
