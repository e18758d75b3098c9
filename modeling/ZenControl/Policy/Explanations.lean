import ZenControl.Policy.Precedence
import Mathlib.Data.List.Induction

/-! What an explanation says decided on a service, and whether it explains the state that was
computed. -/
namespace ZenControl

section Source
variable (rt : Runtime)

/-- The source that an explanation names for a service. -/
inductive DecisionSource
  | quota (label : String)
  | schedule (key : String) (row : ServiceOverride)
  | scheduleGroup (group : String) (row : ServiceOverride)
  | profile (name : String)
  | policyGroup (names : List String)
  | requested
  | derived
  | default
  deriving DecidableEq, Repr

namespace DecisionSource

def kind : DecisionSource → String
  | quota _ => "quota"
  | schedule _ _ => "schedule"
  | scheduleGroup _ _ => "schedule_group"
  | profile _ => "profile"
  | policyGroup _ => "policy_group"
  | requested => "requested"
  | derived => "derived"
  | default => "default"

def label : DecisionSource → String
  | quota label => label
  | schedule key row => "schedule: " ++ orElse row.label key
  | scheduleGroup group row => "schedule: " ++ orElse row.label group
  | profile name => "profile: " ++ orElse name "assigned profile"
  | policyGroup names => "policy group: " ++ ", ".intercalate names
  | requested => "configured service block"
  | derived => "derived policy block"
  | default => "no active service block"

def detail : DecisionSource → String
  | quota _ =>
    "Quota exhaustion is evaluated after schedules and is authoritative for this service."
  | schedule _ row => s!"Concrete service schedule says {upper row.state.text}."
  | scheduleGroup group row => s!"{group} aggregate schedule says {upper row.state.text}."
  | profile _ => "The concrete service is directly listed in the assigned profile."
  | policyGroup _ => "The logical group expands to concrete services; the group itself has no " ++
    "RouterOS firewall authority."
  | requested => "A block is requested in local policy, but no more-specific source was " ++
    "required to explain it."
  | derived => "The service is blocked by the computed effective policy."
  | default => "No profile, schedule, policy-group or quota rule currently requires this " ++
    "service to be blocked."

/-- The sources that ask for a block. -/
def Demands : DecisionSource → Prop
  | quota _ | profile _ | policyGroup _ => True
  | schedule _ row | scheduleGroup _ row => row.state=.block
  | requested | derived | default => False

end DecisionSource

/-- `_service_name`. -/
def serviceName (key : String) (definitions : List (String × Service))
    (policyGroups : GroupCatalog) : String :=
  let groups := normalizedGroupCatalog rt policyGroups
  orElse (((definitions.lookup key).map Service.name).getD "")
    (orElse (((groups.lookup key).map PolicyGroup.name).getD "") key)

/-- `_active_quota_sources`. -/
def activeQuotaSources (key : String) (quotaState : QuotaState)
    (definitions : List (String × Service)) (policyGroups : GroupCatalog) : List String :=
  let groups := normalizedGroupCatalog rt policyGroups
  quotaState.activeServiceBlocks.filterMap fun quotaKey =>
    if quotaKey=key then some ("service quota: " ++ serviceName rt quotaKey definitions groups)
    else if quotaKey ∈ groups.map Prod.fst ∧ key ∈ groupMembers rt quotaKey groups then
      some (((groups.lookup quotaKey).map PolicyGroup.name).getD "" ++ " quota")
    else none

/-- `_service_decision_source`. -/
def serviceDecisionSource (key : String) (desired : EffectivePolicy) (profile : Option Profile)
    (definitions : List (String × Service)) (policyGroups : GroupCatalog) : DecisionSource :=
  let profileBlocks := (profile.map fun p => p.blockedServices).getD []
  let overrides := desired.scheduledServiceOverrides
  let groups := normalizedGroupCatalog rt policyGroups
  let groupName (k : String) := ((groups.lookup k).map PolicyGroup.name).getD ""
  match activeQuotaSources rt key desired.quotaState definitions groups with
  | label::_ => .quota label
  | [] =>
    match overrides.reverse.find? fun o => o.service=key with
    | some row => .schedule key row
    | none =>
      let groupSchedule := (overrides.filter fun o => o.service ∈ groups.map Prod.fst ∧
        key ∈ groupMembers rt o.service groups).getLast?
      match groupSchedule.filter fun o => o.state=.block ∨ key ∉ profileBlocks with
      | some row => .scheduleGroup (groupName row.service) row
      | none =>
        if key ∈ profileBlocks then .profile ((profile.map Profile.name).getD "")
        else
          let activeGroups := desired.blockedPolicyGroups.filter fun g =>
            key ∈ groupMembers rt g groups
          if activeGroups≠[] then .policyGroup
            ((activeGroups.filter fun g => g ∈ groups.map Prod.fst).map groupName)
          else if key ∈ desired.requestedBlockedServices then .requested
          else if key ∈ desired.blockedServices then .derived
          else match groupSchedule with
            | some row => .scheduleGroup (groupName row.service) row
            | none => .default

/-- A source explains the state of a service: it asks for a block where the service is blocked,
and does not where nothing is asked for. -/
structure Explains (p : EffectivePolicy) (s : String) (source : DecisionSource) : Prop where
  blocked : s ∈ p.blockedServices → source.Demands
  free : s ∉ p.blockedServices → s ∉ p.requestedBlockedServices → s ∉ p.unsupportedPolicyKeys →
    s ∉ p.unsupportedPolicyGroupMembers → ¬source.Demands

end Source

section Normal
variable {rt : Runtime}

/-- Python's `lower` leaves nothing of a stripped text to strip or to lower, and no text
empty. -/
structure PyRuntime.LowersOnce (py : PyRuntime) : Prop where
  again : ∀ x, py.lower (strip (py.lower (strip x)))=py.lower (strip x)
  kept : ∀ x, py.lower x="" → x=""

/-- A key as policies are resolved by. -/
def Plain (rt : Runtime) (key : String) : Prop := strip key≠"" ∧ rt.lower (strip key)=key

lemma PyRuntime.lower_empty (py : PyRuntime) : py.lower ""="" :=
  py.lower_ascii "" (by simp)

lemma strip_empty : strip ""="" := rfl

/-- What is left of a lowered text is plain. -/
lemma plain_lowered (hlower : rt.LowersOnce) {v key : String} (hkey : rt.lower (strip v)=key)
    (hne : key≠"") : Plain rt key := by
  subst hkey
  refine ⟨fun hempty => hne ?_,hlower.again v⟩
  rw [← hlower.again v,hempty,rt.lower_empty]

lemma mem_cleanKeys_iff {values : List String} {key : String} :
    key ∈ cleanKeys rt values ↔ key≠"" ∧ ∃ v ∈ values, rt.lower (strip v)=key := by
  unfold cleanKeys
  rw [mem_sortedSet,List.mem_filter,List.mem_map,decide_eq_true_eq,and_comm]

lemma pairwise_byKey {α : Type} (key : α → String) (rows : List α) :
    (rows.insertionSort fun a b => ¬ key b < key a).Pairwise fun a b => ¬ key b < key a := by
  have : Std.Total fun a b : α => ¬ key b < key a := ⟨fun a b => by
    rcases String.le_total (key a) (key b) with h | h
    · exact .inl h
    · exact .inr h⟩
  have : IsTrans α fun a b : α => ¬ key b < key a := ⟨fun a b c h h' => String.le_trans h h'⟩
  exact List.pairwise_insertionSort _ rows

lemma sortedSet_sortedSet (values : List String) :
    sortedSet (sortedSet values)=sortedSet values := by
  have hnodup : (sortedSet values).Nodup :=
    (List.perm_insertionSort _ _).nodup_iff.mpr (List.nodup_dedup values)
  have hsorted := pairwise_byKey id values.dedup
  rw [sortedSet,hnodup.dedup]
  exact hsorted.insertionSort_eq

lemma cleanKeys_cleanKeys (hlower : rt.LowersOnce) (values : List String) :
    cleanKeys rt (cleanKeys rt values)=cleanKeys rt values := by
  have hsame : ((cleanKeys rt values).map fun v => rt.lower (strip v))=cleanKeys rt values := by
    refine (List.map_congr_left fun key hkey => ?_).trans (List.map_id _)
    obtain ⟨-,v,-,rfl⟩ := mem_cleanKeys_iff.mp hkey
    exact hlower.again v
  have hall : (cleanKeys rt values).filter (fun v => v≠"")=cleanKeys rt values :=
    List.filter_eq_self.mpr fun key hkey => decide_eq_true (mem_cleanKeys_iff.mp hkey).1
  rw [cleanKeys,hsame,hall]
  exact sortedSet_sortedSet _

lemma mem_dictSet_entry {α : Type} {d : List (String × α)} {key : String} {value : α}
    {e : String × α} (h : e ∈ dictSet d key value) : e=(key,value) ∨ e ∈ d := by
  unfold dictSet at h
  split_ifs at h with hany
  · obtain ⟨e',he',rfl⟩ := List.mem_map.mp h
    split_ifs with hkey
    · exact .inl rfl
    · exact .inr he'
  · exact (List.mem_append.mp h).symm.imp_left List.mem_singleton.mp

/-- An entry that normalising a catalogue leaves as it is. -/
structure Settled (rt : Runtime) (e : String × PolicyGroup) : Prop where
  plain : Plain rt e.1
  key : e.2.key=e.1
  named : e.2.name≠""
  members : cleanKeys rt e.2.members=e.2.members

/-- One step of `normalized_group_catalog`. -/
def addGroup (rt : Runtime) (result : GroupCatalog) (e : String × PolicyGroup) : GroupCatalog :=
  let key := rt.lower (strip e.1)
  if key="" then result
  else dictSet result key
    { e.2 with
      key := key
      name := if e.2.name="" then key else e.2.name
      members := cleanKeys rt e.2.members }

lemma normalizedGroupCatalog_eq (source : GroupCatalog) :
    normalizedGroupCatalog rt source=source.foldl (addGroup rt) [] := rfl

lemma settled_addGroup (hlower : rt.LowersOnce) {result : GroupCatalog} (e : String × PolicyGroup)
    (h : (result.map Prod.fst).Nodup ∧ ∀ e ∈ result, Settled rt e) :
    ((addGroup rt result e).map Prod.fst).Nodup ∧ ∀ e' ∈ addGroup rt result e, Settled rt e' := by
  unfold addGroup
  dsimp only
  split_ifs with hkey hname
  · exact h
  all_goals
    refine ⟨nodup_dictSet h.1 _ _,fun e' he' => ?_⟩
    rcases mem_dictSet_entry he' with rfl | he'
    · exact ⟨plain_lowered hlower rfl hkey,rfl,by assumption,cleanKeys_cleanKeys hlower _⟩
    · exact h.2 e' he'

lemma addGroup_settled {result : GroupCatalog} {e : String × PolicyGroup} (he : Settled rt e)
    (hfresh : e.1 ∉ result.map Prod.fst) : addGroup rt result e=result ++ [e] := by
  have hne : e.1≠"" := fun hempty => he.plain.1 (by rw [hempty,strip_empty])
  unfold addGroup
  dsimp only
  rw [he.plain.2,if_neg hne,if_neg he.named,he.members,dictSet_fresh _ hfresh]
  exact congrArg (fun group => result ++ [(e.1,group)])
    (by rw [← he.key])

lemma settled_normalized (hlower : rt.LowersOnce) (source : GroupCatalog) :
    ((normalizedGroupCatalog rt source).map Prod.fst).Nodup ∧
      ∀ e ∈ normalizedGroupCatalog rt source, Settled rt e := by
  rw [normalizedGroupCatalog_eq]
  induction source using List.reverseRecOn with
  | nil => exact ⟨List.nodup_nil,nofun⟩
  | append_singleton source e ih =>
    rw [List.foldl_append]
    exact settled_addGroup hlower e ih

/-- A catalogue that is normalised stays as it is. -/
lemma normalizedGroupCatalog_fixed (hlower : rt.LowersOnce) (source : GroupCatalog) :
    normalizedGroupCatalog rt (normalizedGroupCatalog rt source)=
      normalizedGroupCatalog rt source := by
  have hsettled := settled_normalized hlower source
  suffices hall : ∀ rest result : GroupCatalog, ((result ++ rest).map Prod.fst).Nodup →
      (∀ e ∈ rest, Settled rt e) → rest.foldl (addGroup rt) result=result ++ rest by
    exact hall _ [] hsettled.1 hsettled.2
  intro rest
  induction rest with
  | nil => exact fun result _ _ => (List.append_nil result).symm
  | cons e rest ih =>
    intro result hnodup hrest
    have hfresh : e.1 ∉ result.map Prod.fst := by
      rw [List.map_append,List.map_cons] at hnodup
      exact fun hin => (List.nodup_append.mp hnodup).2.2 _ hin _ List.mem_cons_self rfl
    rw [List.foldl_cons,addGroup_settled (hrest e List.mem_cons_self) hfresh,
      ih _ (by rwa [List.append_assoc]) fun e' he' => hrest e' (List.mem_cons_of_mem e he'),
      List.append_assoc]
    rfl

end Normal

section Evidence
variable {rt : Runtime} {t : Tables} {ip : String} {policyAt : PolicyAt}
  {usage : Option QuotaUsage} {supported : Option (List String)}

/-- A group of the catalogue holds a service. -/
def Holds (rt : Runtime) (t : Tables) (g s : String) : Prop :=
  g ∈ (groupsOf rt t).map Prod.fst ∧ s ∈ groupMembers rt g (groupsOf rt t)

/-- What a computed policy reports, by the rule of the resolver. -/
structure Reports (rt : Runtime) (t : Tables) (zone : Zone) (past : List Candidate)
    (profile : Option Profile) (usage : Option QuotaUsage) (supported : List String)
    (p : EffectivePolicy) : Prop where
  blocked : ∀ s, s ∈ p.blockedServices ↔ Blocks rt t zone past profile usage supported s
  requested : ∀ s, s ∈ p.requestedBlockedServices ↔ Requested rt zone past profile s
  groups : ∀ g, g ∈ p.blockedPolicyGroups ↔
    Requested rt zone past profile g ∧ g ∈ (groupsOf rt t).map Prod.fst
  unsupported : ∀ s ∈ p.unsupportedPolicyKeys, Requested rt zone past profile s
  unsupportedMembers : ∀ s, s ∈ p.unsupportedPolicyGroupMembers ↔
    s ∉ orSupported supported ∧ ∃ g, Requested rt zone past profile g ∧ Holds rt t g s
  overrides : ∀ key state, (∃ o ∈ p.scheduledServiceOverrides, o.service=key ∧ o.state=state) ↔
    Decided zone past key state
  ordered : p.scheduledServiceOverrides.Pairwise fun a b => a.service<b.service
  quotas : ∀ s, (∃ k ∈ p.quotaState.activeServiceBlocks, s ∈ quotaMembers rt (groupsOf rt t) k) ↔
    QuotaBlocks rt t profile usage s

variable {profile : Option Profile} {mode : Mode} {blocked : List String} {catalog : GroupCatalog}

/-- Without a report, or where quotas do not apply, no quota is active. -/
lemma active_idle (usage : Option QuotaUsage)
    (h : quotasApply t profile=false ∨ ∀ u, usage=some u → u.available=false) :
    (evaluateQuotaState rt t profile mode blocked usage catalog).state.activeServiceBlocks=[] := by
  unfold evaluateQuotaState
  dsimp only
  generalize normalizedGroupCatalog rt _=groups
  split_ifs with hconfigured henabled
  · rfl
  · rfl
  · cases usage with
    | none => rfl
    | some u =>
      rcases h with h | h
      · simp only [quotasApply,Bool.and_eq_false_iff,decide_eq_false_iff_not] at h
        rcases h with h | h
        · exact absurd h hconfigured
        · exact absurd (eq_false h) henabled
      · dsimp only
        rw [if_pos (h u rfl)]

/-- Where quotas apply, the active ones are the spent ones. -/
lemma active_metered {u : QuotaUsage} (happly : quotasApply t profile=true)
    (havailable : u.available=true) (k : String) :
    k ∈ (evaluateQuotaState rt t profile mode blocked (some u) catalog).state.activeServiceBlocks ↔
      ∃ e ∈ spentQuotas rt (quotaCatalog rt t catalog) profile u, e.1=k := by
  obtain ⟨hconfigured,henabled⟩ := Bool.and_eq_true_iff.mp happly
  unfold evaluateQuotaState quotaCatalog
  dsimp only
  generalize normalizedGroupCatalog rt _=groups
  rw [if_neg (by rw [hconfigured]; decide),if_neg (by simpa using henabled),
    if_neg (by rw [havailable]; decide)]
  dsimp only
  simp only [List.mem_map,List.mem_filter,List.mem_insertionSort,spentQuotas,Bool.and_eq_true,
    decide_eq_true_eq]
  constructor
  · rintro ⟨q,⟨⟨e,⟨he,hlimit⟩,rfl⟩,hexhausted⟩,rfl⟩
    rw [(serviceQuota_used _ _ _ _).1,decide_eq_true_eq] at hexhausted
    exact ⟨e,⟨he,hlimit,hexhausted⟩,rfl⟩
  · rintro ⟨e,⟨he,hlimit,hused⟩,rfl⟩
    refine ⟨_,⟨⟨e,⟨he,hlimit⟩,rfl⟩,?_⟩,rfl⟩
    rw [(serviceQuota_used _ _ _ _).1,decide_eq_true_eq]
    exact hused

/-- The quotas that a policy reports as active are those that block. -/
lemma metered_active (r : Resolution) (profile : Option Profile) (s : String) :
    (∃ k ∈ (r.metered rt t profile usage supported).state.activeServiceBlocks,
      s ∈ quotaMembers rt (groupsOf rt t) k) ↔ QuotaBlocks rt t profile usage s := by
  have hgroups : quotaCatalog rt t (policyGroupCatalog rt t)=groupsOf rt t := by
    unfold quotaCatalog groupsOf
    rw [ite_self]
  unfold Resolution.metered QuotaBlocks
  by_cases happly : quotasApply t profile=true ∧ ∃ u, usage=some u ∧ u.available=true
  · obtain ⟨happly,u,rfl,havailable⟩ := happly
    simp only [active_metered happly havailable,hgroups,happly,true_and]
    constructor
    · rintro ⟨k,⟨e,he,rfl⟩,hs⟩
      exact ⟨u,rfl,havailable,e,he,hs⟩
    · rintro ⟨u',hu,-,e,he,hs⟩
      obtain rfl := Option.some.inj hu
      exact ⟨e.1,⟨e,he,rfl⟩,hs⟩
  · rw [active_idle usage ?_]
    · refine iff_of_false (by simp) ?_
      rintro ⟨hquotas,u,hu,havailable,-⟩
      exact happly ⟨hquotas,u,hu,havailable⟩
    · by_contra hidle
      push Not at hidle
      obtain ⟨hquotas,u,hu,havailable⟩ := hidle
      exact happly ⟨by simpa using hquotas,u,hu,by simpa using havailable⟩

/-- The expansion of what the profile and the schedules of a resolution ask for. -/
def Resolution.expanded (rt : Runtime) (t : Tables) (r : Resolution) (profile : Option Profile)
    (supported : Option (List String)) : ExpandedKeys :=
  expandPolicyKeys rt (requestedKeys profile (r.overrides rt t))
    (supported.getD (routerosSupportedServiceKeys rt t)) (policyGroupCatalog rt t)

/-- What a policy reports comes from the resolution and the quotas on it. -/
lemma computeEffectivePolicy_reported {ctx : PolicyContext} :
    (computeEffectivePolicyFromContext rt t ip ctx policyAt usage supported).map
        (fun p => (p.blockedServices,p.requestedBlockedServices,p.blockedPolicyGroups,
          p.unsupportedPolicyKeys,p.unsupportedPolicyGroupMembers,p.scheduledServiceOverrides,
          p.quotaState))=
      (resolvePolicy rt t ip ctx policyAt).map fun r =>
        let expanded := r.expanded rt t ctx.profile supported
        let quota := r.metered rt t ctx.profile usage supported
        (sortedSet quota.blocked,expanded.requested,expanded.groups,expanded.unsupported,
          expanded.unsupportedGroupMembers,r.overrides rt t,quota.state) := by
  unfold computeEffectivePolicyFromContext resolvePolicy
  dsimp only
  cases t.bandwidthPresets.find? fun p =>
      p.key=(ctx.profile.map fun p => p.bandwidthPreset).getD "normal" with
  | none => rfl
  | some preset =>
    dsimp only
    rw [map_bind,map_bind]
    refine bind_congr_ok rfl fun z _ => ?_
    rw [map_bind,map_bind]
    refine bind_congr_ok rfl fun m _ => ?_
    rw [map_bind,map_bind]
    refine bind_congr_ok rfl fun regular _ => ?_
    rw [map_bind,map_bind]
    refine bind_congr_ok rfl fun exception _ => ?_
    rw [map_bind,map_bind]
    refine bind_congr_ok rfl fun decision _ => ?_
    cases exception with
    | none => rfl
    | some e => cases scheduleOccurrences z.1 rt t ip ctx.profileId m.1 true <;> rfl

lemma ordered_serviceOverrides {zone : Zone} (groupKeys : List String)
    {services : List (String × Candidate)} (hnodup : (services.map Prod.fst).Nodup) :
    (serviceOverrides zone groupKeys services).Pairwise fun a b => a.service<b.service := by
  have hkeys : (services.insertionSort fun a b => ¬ b.1 < a.1).Pairwise
      fun a b => a.1<b.1 := by
    have hdistinct : ((services.insertionSort fun a b => ¬ b.1 < a.1).map Prod.fst).Nodup :=
      (((List.perm_insertionSort _ services).map Prod.fst).nodup_iff).mpr hnodup
    refine ((pairwise_byKey Prod.fst services).and (List.pairwise_map.mp hdistinct)).imp ?_
    rintro a b ⟨hle,hne⟩
    by_contra hlt
    exact hne (String.le_antisymm hle hlt)
  exact List.pairwise_map.mp
    ((List.pairwise_map.mpr hkeys).sublist (serviceOverrides_sublist groupKeys services))

lemma mem_requested {services : List (String × Candidate)} {zone : Zone} {past : List Candidate}
    (h : selectServices zone (byService past)=.ok services) (key : String) :
    (∃ v ∈ requestedKeys profile (serviceOverrides zone (policyGroupKeys rt t) services),
      strip v≠"" ∧ rt.lower (strip v)=key) ↔ Requested rt zone past profile key :=
  exists_congr fun v => and_congr_left fun _ => mem_requestedKeys h v

/-- The context that the policy of a device is computed in. -/
def deviceContext (t : Tables) (ip : String) : PolicyContext :=
  let cfg := (devicePolicy t ip).getD { ip := some ip }
  { modeOverride := cfg.modeOverride, profile := deviceProfile t ip,
    profileId := cfg.profileId.map Subtype.val }

lemma computed_reports {p : EffectivePolicy}
    (h : computeEffectivePolicy rt t ip policyAt usage supported=.ok p) :
    ∃ zone past, pastOccurrences rt t ip policyAt=.ok (zone,past) ∧
      Reports rt t zone past (deviceProfile t ip) usage
        (supported.getD (routerosSupportedServiceKeys rt t)) p := by
  have hreported := @computeEffectivePolicy_reported rt t ip policyAt usage supported
    (deviceContext t ip)
  rw [show computeEffectivePolicyFromContext rt t ip (deviceContext t ip) policyAt usage supported=
    .ok p from h] at hreported
  cases hr : resolvePolicy rt t ip (deviceContext t ip) policyAt with
  | error e =>
    rw [hr] at hreported
    cases hreported
  | ok r =>
    rw [hr] at hreported
    obtain ⟨past,hpast,hservices⟩ := resolution_past hr rfl
    have hfields := Except.ok.inj hreported
    simp only [Prod.mk.injEq] at hfields
    obtain ⟨hblocked,hrequested,hgroups,hunsupported,hmembers,hoverrides,hquota⟩ := hfields
    obtain ⟨hnodup,hdecided,hall⟩ := selectServices_decided hservices
    have hkeys (key : String) : key ∈ ((requestedKeys (deviceContext t ip).profile
        (r.overrides rt t)).filter fun v => strip v≠"").map (fun v => rt.lower (strip v)) ↔
          Requested rt r.zone past (deviceProfile t ip) key := by
      rw [← mem_requested hservices]
      simp only [List.mem_map,List.mem_filter,decide_eq_true_eq,and_assoc]
      rfl
    refine ⟨r.zone,past,hpast,⟨fun s => ?_,fun s => ?_,fun g => ?_,fun s hs => ?_,fun s => ?_,
      fun key state => ?_,?_,fun s => ?_⟩⟩
    · rw [hblocked,mem_sortedSet,metered_blocked]
      exact or_congr_right (mem_scheduledBlocks hservices _ s)
    · rw [hrequested,← hkeys s]
      exact mem_sortedSet
    · rw [hgroups,← hkeys g]
      refine mem_sortedSet.trans ?_
      rw [List.mem_filter,decide_eq_true_eq]
      rfl
    · rw [hunsupported] at hs
      exact (hkeys s).mp (List.mem_filter.mp (mem_sortedSet.mp hs)).1
    · rw [hmembers]
      refine mem_sortedSet.trans ?_
      rw [List.mem_filter,decide_eq_true_eq,List.mem_flatMap,and_comm]
      refine and_congr Iff.rfl (exists_congr fun g => ?_)
      rw [← hkeys g,mem_sortedSet,List.mem_filter,decide_eq_true_eq,and_assoc]
      rfl
    · rw [hoverrides]
      exact (serviceOverrides_decided _ hservices).2 key state
    · rw [hoverrides]
      exact ordered_serviceOverrides _ hnodup
    · rw [hquota]
      exact metered_active r _ s

end Evidence

section Explained
variable (rt : Runtime) (t : Tables) (zone : Zone) (past : List Candidate)
  (profile : Option Profile) (usage : Option QuotaUsage) (supported : List String) (s : String)

/-- No quota is spent on a service, and no schedule decision names it. -/
structure Undecided : Prop where
  unspent : ¬QuotaBlocks rt t profile usage s
  unnamed : ∀ state, ¬Decided zone past s state

/-- The last by key of the groups of a service that have a schedule decision is set to a
state. -/
def LastGroup (state : ServiceState) : Prop :=
  ∃ g, Holds rt t g s ∧ Decided zone past g state ∧
    ∀ g' state', Holds rt t g' s → Decided zone past g' state' → ¬g<g'

/-- A block of a service that the profile does not list is asked for, while the last of its
groups is allowed. -/
structure Overshadowed : Prop where
  undecided : Undecided rt t zone past profile usage s
  unlisted : s ∉ (profile.map fun p => p.blockedServices).getD []
  supported : s ∈ orSupported supported
  asked : Requested rt zone past profile s ∨
    ∃ g, Requested rt zone past profile g ∧ Holds rt t g s
  allowed : LastGroup rt t zone past s .allow

/-- A service is listed or asked for in another spelling than the one that policies are resolved
by. -/
structure Misspelt : Prop where
  undecided : Undecided rt t zone past profile usage s
  spelling : (s ∈ (profile.map fun p => p.blockedServices).getD [] ∧ ¬Plain rt s) ∨
    s ∉ (profile.map fun p => p.blockedServices).getD [] ∧ s ∈ orSupported supported ∧
      Requested rt zone past profile s ∧
      (∀ g state, Holds rt t g s → ¬Decided zone past g state) ∧
      ¬∃ g, Requested rt zone past profile g ∧ Holds rt t g s

variable {rt t zone past profile usage supported s} {p : EffectivePolicy}

lemma groupsOf_fixed (hlower : rt.LowersOnce) :
    normalizedGroupCatalog rt (groupsOf rt t)=groupsOf rt t :=
  normalizedGroupCatalog_fixed hlower _

lemma Holds.plain_group (hlower : rt.LowersOnce) {g : String} (h : Holds rt t g s) :
    Plain rt g := by
  obtain ⟨e,he,rfl⟩ := List.mem_map.mp h.1
  exact ((settled_normalized hlower _).2 e he).plain

lemma Holds.plain (hlower : rt.LowersOnce) {g : String} (h : Holds rt t g s) : Plain rt s := by
  obtain ⟨-,hmember⟩ := h
  unfold groupMembers at hmember
  cases hitem : (normalizedGroupCatalog rt (groupsOf rt t)).lookup (rt.lower (strip g)) with
  | none =>
    rw [hitem] at hmember
    exact absurd hmember List.not_mem_nil
  | some item =>
    rw [hitem] at hmember
    obtain ⟨hnodup,hsettled⟩ := settled_normalized hlower (groupsOf rt t)
    have hclean := (hsettled _ ((lookup_of_mem hnodup).mpr hitem)).members
    have hin : s ∈ cleanKeys rt item.members := hclean.symm ▸ hmember
    obtain ⟨hne,v,-,hv⟩ := mem_cleanKeys_iff.mp hin
    exact plain_lowered hlower hv hne

lemma Requested.plain (hlower : rt.LowersOnce) (h : Requested rt zone past profile s) :
    Plain rt s := by
  obtain ⟨v,-,hne,rfl⟩ := h
  exact plain_lowered hlower rfl fun hempty => hne (hlower.kept _ hempty)

/-- Quotas are named exactly where one blocks. -/
lemma activeQuotaSources_eq_nil (hlower : rt.LowersOnce)
    (hreports : Reports rt t zone past profile usage supported p)
    (definitions : List (String × Service)) (hs : s ∉ policyGroupKeys rt t) :
    activeQuotaSources rt s p.quotaState definitions (groupsOf rt t)=[] ↔
      ¬QuotaBlocks rt t profile usage s := by
  have hkey : s ∉ (groupsOf rt t).map Prod.fst := by
    rwa [groupsOf,policyGroupCatalog,normalizedGroupCatalog_fixed hlower]
  have hmembers (k : String) : s ∈ quotaMembers rt (groupsOf rt t) k ↔
      k=s ∨ k ∈ (groupsOf rt t).map Prod.fst ∧ s ∈ groupMembers rt k (groupsOf rt t) := by
    unfold quotaMembers
    by_cases hk : k ∈ (groupsOf rt t).map Prod.fst
    · have hne : k≠s := fun h => hkey (h ▸ hk)
      simp [hk,hne]
    · simp [hk,eq_comm]
  unfold activeQuotaSources
  dsimp only
  rw [groupsOf_fixed hlower,List.filterMap_eq_nil_iff,← hreports.quotas s]
  simp only [hmembers]
  constructor
  · rintro hnone ⟨k,hk,h | h⟩
    · have hsource := hnone k hk
      rw [if_pos h] at hsource
      cases hsource
    · have hsource := hnone k hk
      split_ifs at hsource
  · intro hnone k hk
    split_ifs with hsame hheld
    · exact absurd ⟨k,hk,.inl hsame⟩ hnone
    · exact absurd ⟨k,hk,.inr hheld⟩ hnone
    · rfl

lemma getLast_last {rows : List ServiceOverride} {row : ServiceOverride}
    (hordered : rows.Pairwise fun a b => a.service<b.service) (h : rows.getLast?=some row) :
    row ∈ rows ∧ ∀ o ∈ rows, ¬row.service<o.service := by
  obtain ⟨front,rfl⟩ := List.getLast?_eq_some_iff.mp h
  refine ⟨by simp,fun o ho => ?_⟩
  rcases List.mem_append.mp ho with ho | ho
  · have hlt := (List.pairwise_append.mp hordered).2.2 o ho row (List.mem_singleton.mpr rfl)
    exact fun h => String.lt_irrefl _ (String.lt_trans hlt h)
  · rw [List.mem_singleton.mp ho]
    exact String.lt_irrefl _

/-- The rows of the schedules on the groups of a service. -/
def groupRows (rt : Runtime) (t : Tables) (p : EffectivePolicy) (s : String) :
    List ServiceOverride :=
  p.scheduledServiceOverrides.filter fun o => o.service ∈ (groupsOf rt t).map Prod.fst ∧
    s ∈ groupMembers rt o.service (groupsOf rt t)

lemma mem_groupRows {o : ServiceOverride} :
    o ∈ groupRows rt t p s ↔ o ∈ p.scheduledServiceOverrides ∧ Holds rt t o.service s := by
  unfold groupRows Holds
  rw [List.mem_filter,decide_eq_true_eq]

/-- The last of these rows is the last decision on a group. -/
lemma lastGroup_of_row (hreports : Reports rt t zone past profile usage supported p)
    {row : ServiceOverride} (h : (groupRows rt t p s).getLast?=some row) :
    LastGroup rt t zone past s row.state := by
  obtain ⟨hrow,hlast⟩ := getLast_last (hreports.ordered.filter _) h
  obtain ⟨hin,hholds⟩ := mem_groupRows.mp hrow
  refine ⟨row.service,hholds,(hreports.overrides _ _).mp ⟨row,hin,rfl,rfl⟩,?_⟩
  intro g state hg hdecided
  obtain ⟨o,ho,rfl,-⟩ := (hreports.overrides g state).mpr hdecided
  exact hlast o (mem_groupRows.mpr ⟨ho,hg⟩)

lemma undecided_groups (hreports : Reports rt t zone past profile usage supported p)
    (h : (groupRows rt t p s).getLast?=none) (g : String) (state : ServiceState)
    (hg : Holds rt t g s) : ¬Decided zone past g state := by
  intro hdecided
  obtain ⟨o,ho,rfl,-⟩ := (hreports.overrides g state).mpr hdecided
  have hin := mem_groupRows.mpr ⟨ho,hg⟩
  rw [List.getLast?_eq_none_iff.mp h] at hin
  cases hin

/-- The source by the decisions that bear on a service. -/
lemma source_cases (hlower : rt.LowersOnce)
    (hreports : Reports rt t zone past profile usage supported p)
    (definitions : List (String × Service)) (hs : s ∉ policyGroupKeys rt t) :
    let source := serviceDecisionSource rt s p profile definitions (policyGroupCatalog rt t)
    let listed := s ∈ (profile.map fun p => p.blockedServices).getD []
    let grouped := ∃ g, Requested rt zone past profile g ∧ Holds rt t g s
    (QuotaBlocks rt t profile usage s ∧ source.Demands) ∨
    (¬QuotaBlocks rt t profile usage s ∧ ∃ state, Decided zone past s state ∧
      (source.Demands ↔ state=.block)) ∨
    Undecided rt t zone past profile usage s ∧
      ((LastGroup rt t zone past s .block ∧ source.Demands) ∨
      (LastGroup rt t zone past s .allow ∧ ¬listed ∧ ¬source.Demands) ∨
      (listed ∧ source.Demands) ∨
      (∀ g state, Holds rt t g s → ¬Decided zone past g state) ∧ ¬listed ∧
        (source.Demands ↔ grouped)) := by
  intro source listed grouped
  have hquota := activeQuotaSources_eq_nil hlower hreports definitions hs
  have hactive : (p.blockedPolicyGroups.filter fun g =>
      s ∈ groupMembers rt g (groupsOf rt t))≠[] ↔ grouped := by
    constructor
    · intro hne
      obtain ⟨g,hg⟩ := List.exists_mem_of_ne_nil _ hne
      obtain ⟨hblocked,hmember⟩ := List.mem_filter.mp hg
      obtain ⟨hrequested,hkey⟩ := (hreports.groups g).mp hblocked
      exact ⟨g,hrequested,hkey,of_decide_eq_true hmember⟩
    · rintro ⟨g,hrequested,hkey,hmember⟩
      exact List.ne_nil_of_mem (List.mem_filter.mpr
        ⟨(hreports.groups g).mpr ⟨hrequested,hkey⟩,decide_eq_true hmember⟩)
  have hsource : source=serviceDecisionSource rt s p profile definitions
    (policyGroupCatalog rt t) := rfl
  unfold serviceDecisionSource at hsource
  dsimp only at hsource
  rw [show normalizedGroupCatalog rt (policyGroupCatalog rt t)=groupsOf rt t from rfl] at hsource
  cases hquotas : activeQuotaSources rt s p.quotaState definitions (groupsOf rt t) with
  | cons label labels =>
    rw [hquotas] at hsource
    refine .inl ⟨?_,hsource ▸ trivial⟩
    by_contra hunspent
    rw [hquotas] at hquota
    cases hquota.mpr hunspent
  | nil =>
    refine .inr ?_
    rw [hquotas] at hsource
    dsimp only at hsource
    have hunspent := hquota.mp hquotas
    cases hdirect : p.scheduledServiceOverrides.reverse.find? fun o => o.service=s with
    | some row =>
      rw [hdirect] at hsource
      refine .inl ⟨hunspent,row.state,?_,hsource ▸ Iff.rfl⟩
      have hrow := List.mem_reverse.mp (List.mem_of_find?_eq_some hdirect)
      exact (hreports.overrides _ _).mp ⟨row,hrow,by simpa using List.find?_some hdirect,rfl⟩
    | none =>
      rw [hdirect] at hsource
      dsimp only at hsource
      have hunnamed (state : ServiceState) : ¬Decided zone past s state := by
        intro hdecided
        obtain ⟨o,ho,hservice,-⟩ := (hreports.overrides s state).mpr hdecided
        have hnone := List.find?_eq_none.mp hdirect o (List.mem_reverse.mpr ho)
        exact hnone (decide_eq_true hservice)
      refine .inr ⟨⟨hunspent,hunnamed⟩,?_⟩
      rw [show (p.scheduledServiceOverrides.filter fun o =>
        o.service ∈ (groupsOf rt t).map Prod.fst ∧ s ∈ groupMembers rt o.service (groupsOf rt t))=
          groupRows rt t p s from rfl] at hsource
      cases hlast : (groupRows rt t p s).getLast? with
      | none =>
        rw [hlast] at hsource
        simp only [Option.filter_none] at hsource
        by_cases hlisted : listed
        · rw [if_pos hlisted] at hsource
          exact .inr (.inr (.inl ⟨hlisted,hsource ▸ trivial⟩))
        · rw [if_neg hlisted] at hsource
          refine .inr (.inr (.inr ⟨undecided_groups hreports hlast,hlisted,?_⟩))
          by_cases hgrouped : grouped
          · rw [if_pos (hactive.mpr hgrouped)] at hsource
            exact iff_of_true (hsource ▸ trivial) hgrouped
          · rw [if_neg fun h => hgrouped (hactive.mp h)] at hsource
            refine iff_of_false ?_ hgrouped
            rw [hsource]
            split_ifs <;> exact id
      | some row =>
        have hgroup := lastGroup_of_row hreports hlast
        rw [hlast] at hsource
        cases hstate : row.state with
        | block =>
          rw [hstate] at hgroup
          rw [Option.filter_some,if_pos (by simp [hstate])] at hsource
          exact .inl ⟨hgroup,hsource ▸ hstate⟩
        | allow =>
          rw [hstate] at hgroup
          by_cases hlisted : listed
          · rw [Option.filter_some,if_neg (by simpa [hstate] using hlisted)] at hsource
            dsimp only at hsource
            rw [if_pos hlisted] at hsource
            exact .inr (.inr (.inl ⟨hlisted,hsource ▸ trivial⟩))
          · rw [Option.filter_some,if_pos (by simpa [hstate] using hlisted)] at hsource
            refine .inr (.inl ⟨hgroup,hlisted,?_⟩)
            rw [hsource]
            change ¬row.state=.block
            rw [hstate]
            decide

/-- On each key a policy reports one decision. -/
lemma Reports.decided_unique (hreports : Reports rt t zone past profile usage supported p)
    {key : String} {state state' : ServiceState} (h : Decided zone past key state)
    (h' : Decided zone past key state') : state=state' := by
  obtain ⟨o,ho,rfl,rfl⟩ := (hreports.overrides _ _).mpr h
  obtain ⟨o',ho',hservice,rfl⟩ := (hreports.overrides _ _).mpr h'
  have hsame : p.scheduledServiceOverrides.Pairwise fun a b => a.service=b.service → a=b :=
    hreports.ordered.imp fun hlt heq => absurd (heq ▸ hlt) (String.lt_irrefl _)
  have hall := List.Pairwise.forall_of_forall_of_flip (fun _ _ _ => rfl) hsame
    (hsame.imp fun hab heq => (hab heq.symm).symm)
  rw [hall ho ho' hservice.symm]

lemma LastGroup.unique (hreports : Reports rt t zone past profile usage supported p)
    {state state' : ServiceState} (h : LastGroup rt t zone past s state)
    (h' : LastGroup rt t zone past s state') : state=state' := by
  obtain ⟨g,hg,hdecided,hlast⟩ := h
  obtain ⟨g',hg',hdecided',hlast'⟩ := h'
  obtain rfl := String.le_antisymm (hlast' _ _ hg hdecided) (hlast _ _ hg' hdecided')
  exact hreports.decided_unique hdecided hdecided'

lemma blocks_of_undecided (h : Undecided rt t zone past profile usage s) :
    Blocks rt t zone past profile usage supported s ↔ s ∈ orSupported supported ∧
      (Requested rt zone past profile s ∨
        ∃ g, Requested rt zone past profile g ∧ Holds rt t g s) := by
  have hgroups : (∃ g ∈ (groupsOf rt t).map Prod.fst, Requested rt zone past profile g ∧
      s ∈ groupMembers rt g (groupsOf rt t)) ↔
        ∃ g, Requested rt zone past profile g ∧ Holds rt t g s :=
    exists_congr fun g => and_left_comm
  unfold Blocks
  rw [hgroups]
  constructor
  · rintro (hquota | ⟨-,hdecided⟩ | ⟨-,hasked⟩)
    · exact absurd hquota h.unspent
    · exact absurd hdecided (h.unnamed _)
    · exact hasked
  · exact fun hasked => .inr (.inr ⟨fun hallowed => h.unnamed _ hallowed.2,hasked⟩)

/-- A member of a requested group is blocked or reported as unsupported. -/
lemma Reports.of_group (hreports : Reports rt t zone past profile usage supported p)
    (h : Undecided rt t zone past profile usage s)
    (hgroup : ∃ g, Requested rt zone past profile g ∧ Holds rt t g s) :
    s ∈ p.blockedServices ∨ s ∈ p.unsupportedPolicyGroupMembers := by
  by_cases hsupported : s ∈ orSupported supported
  · exact .inl ((hreports.blocked s).mpr ((blocks_of_undecided h).mpr ⟨hsupported,.inr hgroup⟩))
  · exact .inr ((hreports.unsupportedMembers s).mpr ⟨hsupported,hgroup⟩)

/-- The source that is named explains the state of a service, except where a block that is asked
for is hidden behind the last group, or a spelling behind another one. -/
theorem explained_iff (hlower : rt.LowersOnce) {ip : String} {policyAt : PolicyAt}
    {usage : Option QuotaUsage} {supported : Option (List String)}
    (h : computeEffectivePolicy rt t ip policyAt usage supported=.ok p)
    (definitions : List (String × Service)) (hs : s ∉ policyGroupKeys rt t) :
    ∃ zone past, pastOccurrences rt t ip policyAt=.ok (zone,past) ∧
      (Explains p s (serviceDecisionSource rt s p (deviceProfile t ip) definitions
        (policyGroupCatalog rt t)) ↔
      ¬Overshadowed rt t zone past (deviceProfile t ip) usage
        (supported.getD (routerosSupportedServiceKeys rt t)) s ∧
      ¬Misspelt rt t zone past (deviceProfile t ip) usage
        (supported.getD (routerosSupportedServiceKeys rt t)) s) := by
  obtain ⟨zone,past,hpast,hreports⟩ := computed_reports h
  refine ⟨zone,past,hpast,?_⟩
  rcases source_cases hlower hreports definitions hs with ⟨hquota,hdemands⟩ |
    ⟨hunspent,state,hdecided,hdemands⟩ | ⟨hundecided,hsource⟩
  · refine iff_of_true ⟨fun _ => hdemands,fun hfree => ?_⟩
      ⟨fun h => h.undecided.unspent hquota,fun h => h.undecided.unspent hquota⟩
    exact absurd ((hreports.blocked s).mpr (.inl hquota)) hfree
  · refine iff_of_true ⟨fun hblocked => ?_,fun hfree _ _ _ hdemand => ?_⟩
      ⟨fun h => h.undecided.unnamed _ hdecided,fun h => h.undecided.unnamed _ hdecided⟩
    · rcases (hreports.blocked s).mp hblocked with hquota | ⟨-,hblock⟩ | ⟨hallow,-⟩
      · exact absurd hquota hunspent
      · exact hdemands.mpr (hreports.decided_unique hdecided hblock)
      · refine hdemands.mpr ?_
        cases state with
        | block => rfl
        | allow => exact absurd ⟨hs,hdecided⟩ hallow
    · rw [hdemands.mp hdemand] at hdecided
      exact hfree ((hreports.blocked s).mpr (.inr (.inl ⟨hs,hdecided⟩)))
  · have hblocks := (hreports.blocked s).trans (blocks_of_undecided hundecided)
    rcases hsource with ⟨hgroup,hdemands⟩ | ⟨hgroup,hunlisted,hfree⟩ | ⟨hlisted,hdemands⟩ |
      ⟨hgroups,hunlisted,hdemands⟩
    · obtain ⟨g,hholds,hblock,-⟩ := id hgroup
      have hgrouped : ∃ g, Requested rt zone past (deviceProfile t ip) g ∧ Holds rt t g s :=
        ⟨g,⟨g,.inl hblock,hholds.plain_group hlower⟩,hholds⟩
      refine iff_of_true ⟨fun _ => hdemands,fun hfree _ _ hmember => ?_⟩ ⟨fun h => ?_,fun h => ?_⟩
      · exact absurd (hreports.of_group hundecided hgrouped) (not_or.mpr ⟨hfree,hmember⟩)
      · cases hgroup.unique hreports h.allowed
      · rcases h.spelling with ⟨-,hplain⟩ | ⟨-,-,-,hnone,-⟩
        · exact hplain (hholds.plain hlower)
        · exact hnone g _ hholds hblock
    · obtain ⟨g,hholds,hallow,-⟩ := id hgroup
      have hspelt : ¬Misspelt rt t zone past (deviceProfile t ip) usage
          (supported.getD (routerosSupportedServiceKeys rt t)) s := by
        intro h
        rcases h.spelling with ⟨hlisted,-⟩ | ⟨-,-,-,hnone,-⟩
        · exact hunlisted hlisted
        · exact hnone g _ hholds hallow
      rw [and_iff_left hspelt]
      constructor
      · exact fun h hover => hfree (h.blocked (hblocks.mpr ⟨hover.supported,hover.asked⟩))
      · refine fun hover => ⟨fun hblocked => absurd ?_ hover,fun _ _ _ _ => hfree⟩
        obtain ⟨hsupported,hasked⟩ := hblocks.mp hblocked
        exact ⟨hundecided,hunlisted,hsupported,hasked,hgroup⟩
    · have hover : ¬Overshadowed rt t zone past (deviceProfile t ip) usage
          (supported.getD (routerosSupportedServiceKeys rt t)) s := fun h => h.unlisted hlisted
      rw [and_iff_right hover]
      by_cases hplain : Plain rt s
      · have hrequested : Requested rt zone past (deviceProfile t ip) s :=
          ⟨s,.inr ⟨fun ⟨state,hstate⟩ => hundecided.unnamed state hstate,hlisted⟩,hplain⟩
        refine iff_of_true ⟨fun _ => hdemands,fun _ hnot => ?_⟩ fun h => ?_
        · exact absurd ((hreports.requested s).mpr hrequested) hnot
        · rcases h.spelling with ⟨-,hnot⟩ | ⟨hnot,-⟩
          · exact hnot hplain
          · exact hnot hlisted
      · refine iff_of_false (fun h => h.free ?_ ?_ ?_ ?_ hdemands)
          fun h => h ⟨hundecided,.inl ⟨hlisted,hplain⟩⟩
        · rw [hblocks]
          rintro ⟨-,hrequested | ⟨g,-,hholds⟩⟩
          · exact hplain (hrequested.plain hlower)
          · exact hplain (hholds.plain hlower)
        · exact fun h => hplain (((hreports.requested s).mp h).plain hlower)
        · exact fun h => hplain ((hreports.unsupported s h).plain hlower)
        · intro h
          obtain ⟨-,g,-,hholds⟩ := (hreports.unsupportedMembers s).mp h
          exact hplain (hholds.plain hlower)
    · have hover : ¬Overshadowed rt t zone past (deviceProfile t ip) usage
          (supported.getD (routerosSupportedServiceKeys rt t)) s := by
        rintro ⟨-,-,-,-,g,hholds,hallow,-⟩
        exact hgroups g _ hholds hallow
      rw [and_iff_right hover]
      by_cases hgrouped : ∃ g, Requested rt zone past (deviceProfile t ip) g ∧ Holds rt t g s
      · refine iff_of_true ⟨fun _ => hdemands.mpr hgrouped,fun hfree _ _ hmember => ?_⟩ fun h => ?_
        · exact absurd (hreports.of_group hundecided hgrouped) (not_or.mpr ⟨hfree,hmember⟩)
        · rcases h.spelling with ⟨hlisted,-⟩ | ⟨-,-,-,-,hnone⟩
          · exact hunlisted hlisted
          · exact hnone hgrouped
      · have hfree := fun h => hgrouped (hdemands.mp h)
        constructor
        · rintro h ⟨-,⟨hlisted,-⟩ | ⟨-,hsupported,hrequested,-⟩⟩
          · exact hunlisted hlisted
          · exact hfree (h.blocked (hblocks.mpr ⟨hsupported,.inl hrequested⟩))
        · refine fun hspelt => ⟨fun hblocked => absurd ?_ hspelt,fun _ _ _ _ => hfree⟩
          obtain ⟨hsupported,hrequested | hgroup⟩ := hblocks.mp hblocked
          · exact ⟨hundecided,.inr ⟨hunlisted,hsupported,hrequested,hgroups,hgrouped⟩⟩
          · exact absurd hgroup hgrouped

end Explained

section Example

lemma asciiEnv_lowersOnce : asciiEnv.toRuntime.LowersOnce where
  again x := by
    change nocase (strip (nocase (strip x)))=nocase (strip x)
    rw [strip_nocase,strip_strip,nocase_nocase]
  kept x h := by
    have hlist : (nocase x).toList=[] := by rw [show nocase x="" from h]; rfl
    unfold nocase at hlist
    rw [String.toList_ofList] at hlist
    exact String.toList_eq_nil_iff.mp (List.map_eq_nil_iff.mp hlist)

/-- Two groups with one service: the profile blocks the first, and a schedule allows the
second. -/
def arcadeTables : Tables :=
  { bandwidthPresets :=
      [{ key := "normal", name := "Normal", upload := "Unlimited", download := "Unlimited" }]
    policyGroups :=
      [{ key := "arcade", name := "Arcade", members := ["roblox"] },
       { key := "builders", name := "Builders", members := ["roblox"] }]
    schedulePlans :=
      [{ id := 1, label := "Building hour", target := .all,
         action := .service "builders:allow", clockTime := "00:00", days := [.thu] }]
    profiles := [{ id := ⟨1,Int.zero_lt_one⟩, name := "Kids", blockedServices := ["arcade"] }]
    devicePolicy := [{ ip := some "10.0.0.7", profileId := some ⟨1,Int.zero_lt_one⟩ }] }

def arcadeNoon : PolicyAt := .aware (combine (ordinal 2026 3 26) 12 0)

def arcadeSource (p : EffectivePolicy) : DecisionSource :=
  serviceDecisionSource asciiEnv.toRuntime "roblox" p (deviceProfile arcadeTables "10.0.0.7") []
    (policyGroupCatalog asciiEnv.toRuntime arcadeTables)

lemma arcade_policy : ∃ p, computeEffectivePolicy asciiEnv.toRuntime arcadeTables "10.0.0.7"
      arcadeNoon none none=.ok p ∧ p.blockedServices=["roblox"] ∧
    (arcadeSource p).detail="Builders aggregate schedule says ALLOW." ∧
    ¬(arcadeSource p).Demands := by
  have hsource : ((computeEffectivePolicy asciiEnv.toRuntime arcadeTables "10.0.0.7" arcadeNoon none
      none).toOption.map fun p => (p.blockedServices,arcadeSource p))=
        some (["roblox"],.scheduleGroup "Builders"
          { service := "builders", state := .allow, label := "Building hour"
            at_ := "2026-03-26T00:00+00:00", policyGroup := true }) := by decide +kernel
  cases hp : computeEffectivePolicy asciiEnv.toRuntime arcadeTables "10.0.0.7" arcadeNoon none
      none with
  | error e =>
    rw [hp] at hsource
    cases hsource
  | ok p =>
    rw [hp] at hsource
    obtain ⟨hblocked,hsource⟩ := Prod.mk.inj (Option.some.inj hsource)
    refine ⟨p,rfl,hblocked,?_⟩
    rw [hsource]
    exact ⟨by decide,nofun⟩

theorem explained_iff_arcade : ∃ p zone past,
    computeEffectivePolicy asciiEnv.toRuntime arcadeTables "10.0.0.7" arcadeNoon none none=.ok p ∧
    pastOccurrences asciiEnv.toRuntime arcadeTables "10.0.0.7" arcadeNoon=.ok (zone,past) ∧
    (Explains p "roblox" (arcadeSource p) ↔
      ¬Overshadowed asciiEnv.toRuntime arcadeTables zone past
        (deviceProfile arcadeTables "10.0.0.7") none
        (routerosSupportedServiceKeys asciiEnv.toRuntime arcadeTables) "roblox" ∧
      ¬Misspelt asciiEnv.toRuntime arcadeTables zone past (deviceProfile arcadeTables "10.0.0.7")
        none (routerosSupportedServiceKeys asciiEnv.toRuntime arcadeTables) "roblox") := by
  obtain ⟨p,hp,-⟩ := arcade_policy
  obtain ⟨zone,past,hpast,hiff⟩ := explained_iff asciiEnv_lowersOnce hp [] (s:="roblox") (by decide)
  exact ⟨p,zone,past,hp,hpast,hiff⟩

/-- The service that the first group blocks is explained by the schedule that allows the
second. -/
theorem arcade_misexplained : ∃ p,
    computeEffectivePolicy asciiEnv.toRuntime arcadeTables "10.0.0.7" arcadeNoon none none=.ok p ∧
    "roblox" ∉ policyGroupKeys asciiEnv.toRuntime arcadeTables ∧
    "roblox" ∈ p.blockedServices ∧
    (arcadeSource p).detail="Builders aggregate schedule says ALLOW." ∧
    ¬Explains p "roblox" (arcadeSource p) := by
  obtain ⟨p,hp,hblocked,hdetail,hfree⟩ := arcade_policy
  have hin : "roblox" ∈ p.blockedServices := by rw [hblocked]; decide
  exact ⟨p,hp,by decide,hin,hdetail,fun h => hfree (h.blocked hin)⟩

end Example
end ZenControl
