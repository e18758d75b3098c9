import ZenControl.Router.Applying
import ZenControl.Router.Endings

/-! The plan of a device when no call fails: what RouterOS and the policy need for it, and which
drift it reports. -/
namespace ZenControl.Router
open Calls Requests Rows

section Status

/-- The global mode that RouterOS shows. -/
def RouterOS.status (r : RouterOS) : Except String (Option Mode) :=
  match r.rules (fun rule => rule.comment=masterRuleComment),
    (r.queues slowQueueName).map Prod.snd with
  | [(_,rule)], [queue] => .ok (if !rule.disabled && !queue.disabled then none
      else if !rule.disabled then some .blocked
      else if !queue.disabled then some .slow
      else some .normal)
  | [_], slow => .error s!"Expected exactly one slow queue, found {slow.length}"
  | master, _ => .error s!"Expected exactly one master rule, found {master.length}"

lemma exec_getStatus (s : System) : exec getStatus s=
    (match s.router.status with
      | .ok mode => .ok mode
      | .error m => .error (.router m),s) := by
  unfold getStatus RouterOS.status queuesNamed
  rw [exec_bind_ok (exec_connect s)]
  refine (Prog.run_rescue _ _ _ _).trans ?_
  rw [show Prog.run _ (Prog.bind _ _) s=_ from exec_bind_ok (exec_rules _ s),
    exec_bind_ok (exec_entries _ _ s)]
  unfold RouterOS.queues
  match s.router.rules fun rule => rule.comment=masterRuleComment,
    s.router.tables.rows .queue (isQueue slowQueueName) with
  | [], _ => rfl
  | [_], [] => rfl
  | [(_,_)], [(_,_)] => rfl
  | [_], _::_::_ => simp
  | _::_::_, _ => rfl

lemma status_congr {r r' : RouterOS} (hfilter : r'.filter=r.filter)
    (hslow : (queuesIn r'.tables slowQueueName).map Prod.snd=
      (queuesIn r.tables slowQueueName).map Prod.snd) : r'.status=r.status := by
  unfold RouterOS.status RouterOS.rules
  rw [hfilter,show (r'.queues slowQueueName).map Prod.snd=_ from hslow]
  rfl

end Status

section Drift
variable (r : RouterOS) (catalog : Catalog) (policy : EffectivePolicy) (address : Ipv4)

/-- The bandwidth that is read for a device. -/
def RouterOS.bandwidth : Bandwidth :=
  bandwidthOf address ((r.queues address.deviceBandwidthQueueName).map Prod.snd)

/-- A plan expects the bandwidth of a policy only under NORMAL modes. -/
def RouterOS.expectsBandwidth : Bool :=
  policyPreset policy≠"normal" && policy.mode=Mode.normal &&
    r.status.toOption=some (some Mode.normal)

def RouterOS.modeDrifts : Bool := some policy.mode≠modeIn r.tables address

def RouterOS.bandwidthDrifts : Bool :=
  Router.bandwidthDrifts (r.expectsBandwidth policy) (policyLimit policy).toOption.join
    (r.bandwidth address)

/-- A service with a valid contract and at most one entry is not as the policy has it. -/
def RouterOS.serviceDrifts (x : String × Service) : Bool :=
  let entries := (r.listed x.2.sourceList address).length
  ((r.contractFailure catalog x.1).isNone && entries ≤ 1) &&
    (desiredSupported catalog policy).contains x.1≠decide (entries=1)

/-- What a plan needs from RouterOS and from the policy. -/
structure RouterOS.Plannable : Prop where
  block : r.DeviceBlockValid
  temporary : ∀ m, r.temporary address≠.failed m
  status : ∃ mode, r.status=.ok (some mode)
  limit : ∃ limit, policyLimit policy=.ok limit

/-- A plan without temporary access is what the drift of RouterOS makes it. -/
structure PlanOf (plan : LivePlan) : Prop where
  override : plan.temporaryOverride=false
  mode : plan.desiredMode=policy.mode
  preset : plan.bandwidthPreset=policyPreset policy
  upload : plan.bandwidthUpload=policyUpload policy
  download : plan.bandwidthDownload=policyDownload policy
  expected : plan.bandwidthExpectedActive=r.expectsBandwidth policy
  desired : plan.desiredSupportedBlockedServices=desiredSupported catalog policy
  modeDrift : plan.modeDrift=r.modeDrifts policy address
  bandwidthDrift : plan.bandwidthDrift=r.bandwidthDrifts policy address
  serviceDrift : plan.serviceDrift=catalog.any (r.serviceDrifts catalog policy address)
  actionable : plan.policyActionable=
    (plan.modeDrift || plan.serviceDrift || plan.bandwidthDrift)

variable {r catalog policy address}

/-- The readings of a catalogue are found under its keys. -/
lemma lookup_readings (hkeys : catalog.keys.Nodup) {x : String × Service} (hx : x ∈ catalog) :
    (catalog.map (r.serviceReading catalog address)).lookup x.1=
      some (r.serviceReading catalog address x).2 := by
  refine (lookup_of_mem ?_).mp (List.mem_map.mpr ⟨x,hx,rfl⟩)
  rw [List.map_map]
  exact hkeys

lemma planOf_build {mode : Mode} {limit : Option String} {reply : TemporaryAccess}
    (hkeys : catalog.keys.Nodup) (hstatus : r.status=.ok (some mode))
    (hlimit : policyLimit policy=.ok limit) (hreply : reply.active=false) :
    ∃ plan, buildDevicePolicyPlan catalog policy address (r.enforcement address) reply
        (serviceReply (catalog.map (r.serviceReading catalog address))) (r.bandwidth address)
        (some mode)=.ok plan ∧ PlanOf r catalog policy address plan := by
  have hexpected : r.expectsBandwidth policy=(policyPreset policy≠"normal" &&
      policy.mode=Mode.normal && mode=Mode.normal : Bool) := by
    unfold RouterOS.expectsBandwidth
    rw [hstatus]
    simp [Except.toOption]
  have hstates : (catalog.map (serviceState (desiredSupported catalog policy) (serviceReply
      (catalog.map (r.serviceReading catalog address))))).any ServiceState.drift=
        catalog.any (r.serviceDrifts catalog policy address) := by
    rw [List.any_map,Bool.eq_iff_iff,List.any_eq_true,List.any_eq_true]
    refine exists_congr fun x => and_congr_right fun hx => Bool.eq_iff_iff.mp ?_
    have hreading : (serviceReply (catalog.map (r.serviceReading catalog
        address))).services.lookup x.1=_ := lookup_readings hkeys hx
    unfold serviceState RouterOS.serviceDrifts
    dsimp only [Function.comp_apply]
    rw [hreading]
    rfl
  unfold buildDevicePolicyPlan
  dsimp only
  rw [hlimit]
  dsimp only
  rw [hreply,if_neg Bool.false_ne_true]
  refine ⟨_,rfl,?_⟩
  refine { override := rfl, mode := rfl, preset := rfl, upload := rfl, download := rfl,
           expected := ?_, desired := rfl, modeDrift := ?_, bandwidthDrift := ?_,
           serviceDrift := ?_, actionable := ?_ } <;> dsimp only
  · exact hexpected.symm
  · rw [enforcement_mode]
    rfl
  · unfold RouterOS.bandwidthDrifts
    rw [hexpected,hlimit]
    rfl
  · exact hstates

end Drift

section Planned
variable {catalog : Catalog} {policy : EffectivePolicy} {address : Ipv4} {r : RouterOS}
  {s : System}

/-- A device without active temporary access. -/
def RouterOS.Inactive (r : RouterOS) (address : Ipv4) : Prop :=
  ∀ reply, r.temporary address≠.active reply

/-- The state without the temporary access of a device. -/
def System.cleanedUp (s : System) (address : Ipv4) : System :=
  { s with router := s.router.cleanedUp address }

lemma temporary_cleanedUp (r : RouterOS) (address : Ipv4) :
    (r.cleanedUp address).temporary address=.orphans [] { active := false, address := address } := by
  have hscripts : (r.cleanedUp address).scripts address=[] := TableFamily.rows_without_self _
  unfold RouterOS.temporary
  rw [schedulers_cleanedUp,hscripts]
  rfl

/-- What is not active is not reported as active. -/
lemma temporaryReading_inactive {schedulers : List (ℕ × Scheduler)}
    {scripts found : List (ℕ × Script)} {reply : TemporaryAccess}
    (h : temporaryReading address schedulers scripts=.orphans found reply ∨
      temporaryReading address schedulers scripts=.stale reply) : reply.active=false := by
  unfold temporaryReading at h
  dsimp only at h
  by_cases hone : 1 < schedulers.length
  · rw [if_pos hone] at h
    rcases h with h | h <;> cases h
  rw [if_neg hone] at h
  by_cases hscript : 1 < scripts.length
  · rw [if_pos hscript] at h
    rcases h with h | h <;> cases h
  rw [if_neg hscript] at h
  match schedulers with
  | [] =>
    rcases h with h | h <;> cases h
    rfl
  | (_,entry)::_ =>
    dsimp only at h
    rcases h with h | h <;> split_ifs at h <;> cases h <;> rfl

/-- Reading the temporary access of a device without it cleans up behind it. -/
lemma exec_getInactive (hmanaged : s.router.Managed address)
    (hinactive : s.router.Inactive address) (hread : ∀ m, s.router.temporary address≠.failed m) :
    ∃ reply : TemporaryAccess, reply.active=false ∧
      exec (getDeviceTemporaryAccess address) s=(.ok reply,s.cleanedUp address) := by
  have hexec := exec_getDeviceTemporaryAccess hmanaged
  cases htemporary : s.router.temporary address with
  | failed m => exact absurd htemporary (hread m)
  | active reply => exact absurd htemporary (hinactive reply)
  | orphans found reply =>
    rw [htemporary] at hexec
    exact ⟨reply,temporaryReading_inactive (.inl htemporary),hexec⟩
  | stale reply =>
    rw [htemporary] at hexec
    exact ⟨reply,@temporaryReading_inactive _ _ _ [] _ (.inr htemporary),hexec⟩

/-- The cleanup leaves the readings of services as they are. -/
lemma serviceReading_cleanedUp : (r.cleanedUp address).serviceReading catalog address=
    r.serviceReading catalog address := by
  have hfilter : (r.cleanedUp address).filter=r.filter := rfl
  have hcontract (key : String) := contractFailure_congr hfilter catalog key
  funext x
  unfold RouterOS.serviceReading
  rw [hcontract]
  rfl

/-- `get_live_policy_plan` of a device without active temporary access. -/
lemma exec_deviceLivePlan (hkeys : catalog.keys.Nodup) (hmanaged : s.router.Managed address)
    (hinactive : s.router.Inactive address) (hplannable : s.router.Plannable policy address) :
    ∃ plan, exec (deviceLivePlan catalog policy address) s=(.ok plan,s.cleanedUp address) ∧
      PlanOf s.router catalog policy address plan := by
  obtain ⟨hblock,hread,⟨mode,hstatus⟩,⟨limit,hlimit⟩⟩ := hplannable
  obtain ⟨reply,hreply,htemporary⟩ := exec_getInactive hmanaged hinactive hread
  have hmanaged' : (s.cleanedUp address).router.Managed address := managed_cleanedUp.mpr hmanaged
  have hreadings : (s.cleanedUp address).router.serviceReading catalog address=
      s.router.serviceReading catalog address := serviceReading_cleanedUp
  have hshown : exec getStatus (s.cleanedUp address)=(.ok (some mode),s.cleanedUp address) := by
    rw [exec_getStatus,show (s.cleanedUp address).router.status=.ok (some mode) from hstatus]
  obtain ⟨plan,hbuilt,hplan⟩ := @planOf_build s.router catalog policy address mode limit reply
    hkeys hstatus hlimit hreply
  refine ⟨plan,?_,hplan⟩
  unfold deviceLivePlan
  rw [exec_bind_ok (exec_getDeviceEnforcement hblock hmanaged),exec_bind_ok htemporary,
    exec_bind_ok (exec_getDeviceServiceEnforcement hmanaged'),
    exec_bind_ok (exec_getDeviceBandwidth hmanaged'),exec_bind_ok hshown,hreadings,
    show bandwidthOf address (((s.cleanedUp address).router.queues
      address.deviceBandwidthQueueName).map Prod.snd)=s.router.bandwidth address from rfl,hbuilt]
  rfl

/-- Otherwise it raises. -/
lemma exec_deviceLivePlan_of_not (hmanaged : s.router.Managed address)
    (hinactive : s.router.Inactive address) (h : ¬s.router.Plannable policy address) :
    ∃ e s', exec (deviceLivePlan catalog policy address) s=(.error e,s') := by
  unfold deviceLivePlan
  by_cases hblock : s.router.DeviceBlockValid
  swap
  · obtain ⟨m,hm⟩ := exec_getDeviceEnforcement_of_not fun h => hblock h.1
    exact ⟨_,_,exec_bind_error hm⟩
  rw [exec_bind_ok (exec_getDeviceEnforcement hblock hmanaged)]
  by_cases hread : ∀ m, s.router.temporary address≠.failed m
  swap
  · push Not at hread
    obtain ⟨m,hm⟩ := hread
    have hexec := exec_getDeviceTemporaryAccess hmanaged
    rw [hm] at hexec
    exact ⟨_,_,exec_bind_error hexec⟩
  obtain ⟨reply,hreply,htemporary⟩ := exec_getInactive hmanaged hinactive hread
  have hmanaged' : (s.cleanedUp address).router.Managed address := managed_cleanedUp.mpr hmanaged
  rw [exec_bind_ok htemporary,exec_bind_ok (exec_getDeviceServiceEnforcement hmanaged'),
    exec_bind_ok (exec_getDeviceBandwidth hmanaged')]
  have hshown := exec_getStatus (s.cleanedUp address)
  rw [show (s.cleanedUp address).router.status=s.router.status from rfl] at hshown
  cases hstatus : s.router.status with
  | error m =>
    rw [hstatus] at hshown
    exact ⟨_,_,exec_bind_error hshown⟩
  | ok mode =>
    rw [hstatus] at hshown
    rw [exec_bind_ok hshown]
    cases mode with
    | none => exact ⟨_,_,rfl⟩
    | some mode =>
      cases hlimit : policyLimit policy with
      | ok limit => exact absurd ⟨hblock,hread,⟨mode,hstatus⟩,⟨limit,hlimit⟩⟩ h
      | error m =>
        unfold buildDevicePolicyPlan
        dsimp only
        rw [hlimit]
        exact ⟨_,_,rfl⟩

end Planned

end ZenControl.Router
