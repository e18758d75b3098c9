import ZenControl.Policy.Quotas
import ZenControl.Policy.Selection

/-! Which services a policy blocks: quotas come first, then the latest schedule decision on a
service, then what the profile and the group decisions ask for. -/
namespace ZenControl

section Decisions
variable {zone : Zone} {past : List Candidate} {key : String} {state state' : ServiceState}

/-- The latest and most specific occurrences for a key set it to a state. -/
def Decided (zone : Zone) (past : List Candidate) (key : String) (state : ServiceState) : Prop :=
  ∃ c, Wins zone (forService key past) c ∧ c.action=.service key state

lemma serviceKey_some {a : CandidateAction} (h : a.serviceKey=some key) :
    ∃ state, a=.service key state := by
  cases a with
  | mode value => cases h
  | reEvaluate => cases h
  | service k state => exact ⟨state,by rw [Option.some.inj h]⟩

variable {services : List (String × Candidate)}

/-- The selected services are the decisions on the occurrences. -/
lemma selectServices_decided (h : selectServices zone (byService past)=.ok services) :
    (services.map Prod.fst).Nodup ∧
    (∀ key c, (key,c) ∈ services → ∃ state, c.action=.service key state ∧
      Decided zone past key state) ∧
    ∀ key state, Decided zone past key state → ∃ c, (key,c) ∈ services ∧
      c.action=.service key state := by
  obtain ⟨hsublist,hmem,hall⟩ := selectServices_ok h
  have hvalues : ∀ {key values}, (key,values) ∈ byService past → values=forService key past := by
    intro key values hin
    rw [lookup_of_mem (byService_nodup past),byService_lookup] at hin
    split_ifs at hin with hempty
    exact (Option.some.inj hin).symm
  refine ⟨hsublist.nodup (byService_nodup past),fun key c hin => ?_,fun key state hdecided => ?_⟩
  · obtain ⟨values,hin,hchosen⟩ := (hmem key c).mp hin
    obtain rfl := hvalues hin
    rcases selectScheduleCandidate_ok hchosen with ⟨-,hnone⟩ | ⟨c',hc',hwins,-⟩
    · cases hnone
    · obtain rfl := Option.some.inj hc'
      obtain ⟨state,hstate⟩ :=
        serviceKey_some (of_decide_eq_true (List.mem_filter.mp hwins.mem).2)
      exact ⟨state,hstate,c,hwins,hstate⟩
  · obtain ⟨c,hwins,hstate⟩ := hdecided
    have hin : (key,forService key past) ∈ byService past := by
      rw [lookup_of_mem (byService_nodup past),byService_lookup,
        if_neg (List.ne_nil_of_mem hwins.mem)]
    obtain ⟨chosen,hchosen⟩ := hall _ _ hin
    rcases selectScheduleCandidate_ok hchosen with ⟨hempty,-⟩ | ⟨c',rfl,-,hagree⟩
    · exact absurd hempty (List.ne_nil_of_mem hwins.mem)
    · exact ⟨c',(hmem key c').mpr ⟨_,hin,hchosen⟩,(hagree c hwins).symm.trans hstate⟩

/-- On each key there is one decision. -/
lemma Decided.unique (h : selectServices zone (byService past)=.ok services)
    (hstate : Decided zone past key state) (hstate' : Decided zone past key state') :
    state=state' := by
  obtain ⟨hnodup,-,hall⟩ := selectServices_decided h
  obtain ⟨c,hc,hac⟩ := hall _ _ hstate
  obtain ⟨c',hc',hac'⟩ := hall _ _ hstate'
  rw [lookup_of_mem hnodup] at hc hc'
  obtain rfl := Option.some.inj (hc.symm.trans hc')
  exact (CandidateAction.service.inj (hac.symm.trans hac')).2

/-- The override that a selected service is reported as. -/
lemma mem_serviceOverrides {groupKeys : List String} {o : ServiceOverride} :
    o ∈ serviceOverrides zone groupKeys services ↔ ∃ c, (o.service,c) ∈ services ∧
      (∃ key, c.action=.service key o.state) ∧ o.label=c.label ∧
      o.at_=zone.isoMinutes c.occurrence ∧ o.policyGroup=decide (o.service ∈ groupKeys) := by
  unfold serviceOverrides
  rw [List.mem_filterMap]
  constructor
  · rintro ⟨⟨key,c⟩,hin,ho⟩
    rw [List.mem_insertionSort] at hin
    cases haction : c.action with
    | service k state =>
      simp only [haction] at ho
      obtain rfl := Option.some.inj ho
      exact ⟨c,hin,⟨k,haction⟩,rfl,rfl,rfl⟩
    | mode value => simp only [haction] at ho; cases ho
    | reEvaluate => simp only [haction] at ho; cases ho
  · rintro ⟨c,hin,⟨k,haction⟩,hlabel,hat,hgroup⟩
    refine ⟨(o.service,c),(List.mem_insertionSort _).mpr hin,?_⟩
    simp only [haction]
    rw [← hlabel,← hat,← hgroup]

lemma serviceOverrides_sublist (groupKeys : List String) (services : List (String × Candidate)) :
    ((serviceOverrides zone groupKeys services).map ServiceOverride.service).Sublist
      ((services.insertionSort fun a b => ¬ b.1 < a.1).map Prod.fst) := by
  unfold serviceOverrides
  induction services.insertionSort fun a b => ¬ b.1 < a.1 with
  | nil => exact List.Sublist.refl _
  | cons entry rest ih =>
    obtain ⟨key,c⟩ := entry
    rw [List.map_cons]
    cases haction : c.action with
    | service k state =>
      simp only [List.filterMap_cons,haction,List.map_cons]
      exact ih.cons_cons _
    | mode value =>
      simp only [List.filterMap_cons,haction]
      exact ih.cons _
    | reEvaluate =>
      simp only [List.filterMap_cons,haction]
      exact ih.cons _

/-- The overrides are the decisions, one for each key. -/
lemma serviceOverrides_decided (groupKeys : List String)
    (h : selectServices zone (byService past)=.ok services) :
    ((serviceOverrides zone groupKeys services).map ServiceOverride.service).Nodup ∧
    ∀ key state, (∃ o ∈ serviceOverrides zone groupKeys services,
      o.service=key ∧ o.state=state) ↔ Decided zone past key state := by
  obtain ⟨hnodup,hdecided,hall⟩ := selectServices_decided h
  refine ⟨(serviceOverrides_sublist groupKeys services).nodup ?_,fun key state => ⟨?_,fun hd => ?_⟩⟩
  · exact (((List.perm_insertionSort _ services).map Prod.fst).nodup_iff).mpr hnodup
  · rintro ⟨o,ho,rfl,rfl⟩
    obtain ⟨c,hin,⟨k,haction⟩,-⟩ := mem_serviceOverrides.mp ho
    obtain ⟨state,hstate,hd⟩ := hdecided _ _ hin
    rwa [(CandidateAction.service.inj (haction.symm.trans hstate)).2]
  · obtain ⟨c,hin,haction⟩ := hall _ _ hd
    exact ⟨{ service := key, state := state, label := c.label, at_ := zone.isoMinutes c.occurrence,
             policyGroup := key ∈ groupKeys },
      mem_serviceOverrides.mpr ⟨c,hin,⟨key,haction⟩,rfl,rfl,rfl⟩,rfl,rfl⟩

end Decisions

section Overrides
variable {os : List ServiceOverride} {keys : List String} {key : String}

lemma mem_applyOverride {o : ServiceOverride} :
    key ∈ applyOverride keys o ↔
      (o.service=key ∧ o.state=.block) ∨ key ∈ keys ∧ ¬(o.service=key ∧ o.state=.allow) := by
  unfold applyOverride
  by_cases hkey : key=o.service
  · subst hkey
    cases o.state <;> simp
  · cases o.state <;> simp [hkey,Ne.symm hkey]

/-- The decisions on a set of keys: those that block are in, those that allow are out. -/
lemma mem_applyOverrides (hnodup : (os.map ServiceOverride.service).Nodup) :
    key ∈ os.foldl applyOverride keys ↔
      (∃ o ∈ os, o.service=key ∧ o.state=.block) ∨
      key ∈ keys ∧ ¬∃ o ∈ os, o.service=key ∧ o.state=.allow := by
  induction os generalizing keys with
  | nil => simp
  | cons o os ih =>
    obtain ⟨hnew,hrest⟩ := List.nodup_cons.mp hnodup
    rw [List.foldl_cons,ih hrest,mem_applyOverride]
    simp only [List.exists_mem_cons_iff]
    by_cases hservice : o.service=key
    · subst hservice
      have hnone : ∀ state, ¬∃ o' ∈ os, o'.service=o.service ∧ o'.state=state := by
        rintro state ⟨o',ho',heq,-⟩
        exact hnew (heq ▸ List.mem_map_of_mem ho')
      simp [hnone]
    · simp [hservice]

end Overrides

section Expansion
variable {rt : Runtime} {values supported : List String} {catalog : GroupCatalog}

/-- The services that group members are taken from. -/
def orSupported (supported : List String) : List String :=
  if supported.isEmpty then supportedServiceKeys else supported

lemma mem_effectiveServices {s : String} :
    s ∈ (expandPolicyKeys rt values supported catalog).effectiveServices ↔
      s ∈ orSupported supported ∧
      ((∃ v ∈ values, strip v≠"" ∧ rt.lower (strip v)=s) ∨
        ∃ g ∈ (normalizedGroupCatalog rt catalog).map Prod.fst,
          (∃ v ∈ values, strip v≠"" ∧ rt.lower (strip v)=g) ∧
          s ∈ groupMembers rt g (normalizedGroupCatalog rt catalog)) := by
  have hrequested : ∀ k, k ∈ ((values.filter fun v => strip v≠"").map fun v => rt.lower (strip v)) ↔
      ∃ v ∈ values, strip v≠"" ∧ rt.lower (strip v)=k := by
    intro k
    simp only [List.mem_map,List.mem_filter,decide_eq_true_eq,and_assoc]
  unfold expandPolicyKeys orSupported
  simp only [mem_sortedSet,List.mem_append,List.mem_filter,List.mem_flatMap,hrequested,
    decide_eq_true_eq]
  constructor
  · rintro (⟨hv,hs⟩ | ⟨⟨g,⟨hv,hg⟩,hmember⟩,hs⟩)
    · exact ⟨hs,.inl hv⟩
    · exact ⟨hs,.inr ⟨g,hg,hv,hmember⟩⟩
  · rintro ⟨hs,hv | ⟨g,hg,hv,hmember⟩⟩
    · exact .inl ⟨hv,hs⟩
    · exact .inr ⟨⟨g,⟨hv,hg⟩,hmember⟩,hs⟩

end Expansion

section Rule
variable (rt : Runtime) (t : Tables)

/-- The groups that policy keys are expanded by. -/
def groupsOf : GroupCatalog := normalizedGroupCatalog rt (policyGroupCatalog rt t)

/-- An exhausted quota blocks a service: it is on the service, or on a group that holds it. -/
def QuotaBlocks (profile : Option Profile) (usage : Option QuotaUsage) (s : String) : Prop :=
  quotasApply t profile=true ∧ ∃ u, usage=some u ∧ u.available=true ∧
    ∃ e ∈ spentQuotas rt (groupsOf rt t) profile u, s ∈ quotaMembers rt (groupsOf rt t) e.1

variable (zone : Zone) (past : List Candidate)

/-- A key is asked for by its decision, or by the profile where there is none. -/
def Asked (profile : Option Profile) (v : String) : Prop :=
  Decided zone past v .block ∨
    (¬∃ state, Decided zone past v state) ∧ v ∈ (profile.map fun p => p.blockedServices).getD []

/-- A service or group is requested under a text that names it. -/
def Requested (profile : Option Profile) (key : String) : Prop :=
  ∃ v, Asked zone past profile v ∧ strip v≠"" ∧ rt.lower (strip v)=key

/-- The rule that the resolver follows. -/
def Blocks (profile : Option Profile) (usage : Option QuotaUsage) (supported : List String)
    (s : String) : Prop :=
  QuotaBlocks rt t profile usage s ∨
  s ∉ policyGroupKeys rt t ∧ Decided zone past s .block ∨
  ¬(s ∉ policyGroupKeys rt t ∧ Decided zone past s .allow) ∧ s ∈ orSupported supported ∧
    (Requested rt zone past profile s ∨ ∃ g ∈ (groupsOf rt t).map Prod.fst,
      Requested rt zone past profile g ∧ s ∈ groupMembers rt g (groupsOf rt t))

variable {rt t zone past} {profile : Option Profile} {services : List (String × Candidate)}

lemma mem_requestedKeys (h : selectServices zone (byService past)=.ok services) (v : String) :
    v ∈ requestedKeys profile (serviceOverrides zone (policyGroupKeys rt t) services) ↔
      Asked zone past profile v := by
  obtain ⟨hnodup,hdecided⟩ := serviceOverrides_decided (policyGroupKeys rt t) h
  unfold requestedKeys Asked
  rw [mem_applyOverrides hnodup,hdecided,hdecided,mem_sortedSet]
  constructor
  · rintro (hblock | ⟨hin,hallow⟩)
    · exact .inl hblock
    · by_cases hblock : Decided zone past v .block
      · exact .inl hblock
      · refine .inr ⟨?_,hin⟩
        rintro ⟨state,hstate⟩
        cases state with
        | block => exact hblock hstate
        | allow => exact hallow hstate
  · rintro (hblock | ⟨hnone,hin⟩)
    · exact .inl hblock
    · exact .inr ⟨hin,fun hallow => hnone ⟨_,hallow⟩⟩

lemma mem_scheduledBlocks (h : selectServices zone (byService past)=.ok services)
    (supported : List String) (s : String) :
    s ∈ scheduledBlocks rt t profile (serviceOverrides zone (policyGroupKeys rt t) services)
        supported ↔
      s ∉ policyGroupKeys rt t ∧ Decided zone past s .block ∨
      ¬(s ∉ policyGroupKeys rt t ∧ Decided zone past s .allow) ∧ s ∈ orSupported supported ∧
        (Requested rt zone past profile s ∨ ∃ g ∈ (groupsOf rt t).map Prod.fst,
          Requested rt zone past profile g ∧ s ∈ groupMembers rt g (groupsOf rt t)) := by
  obtain ⟨hnodup,hdecided⟩ := serviceOverrides_decided (policyGroupKeys rt t) h
  have hgroup : ∀ o ∈ serviceOverrides zone (policyGroupKeys rt t) services,
      o.policyGroup=decide (o.service ∈ policyGroupKeys rt t) := fun o ho =>
    (mem_serviceOverrides.mp ho).choose_spec.2.2.2.2
  have hconcrete : ∀ state, (∃ o ∈ (serviceOverrides zone (policyGroupKeys rt t) services).filter
        (fun o => !o.policyGroup), o.service=s ∧ o.state=state) ↔
      s ∉ policyGroupKeys rt t ∧ Decided zone past s state := by
    intro state
    rw [← hdecided]
    constructor
    · rintro ⟨o,ho,rfl,hstate⟩
      obtain ⟨ho,hnot⟩ := List.mem_filter.mp ho
      rw [hgroup o ho] at hnot
      exact ⟨by simpa using hnot,o,ho,rfl,hstate⟩
    · rintro ⟨hs,o,ho,rfl,hstate⟩
      exact ⟨o,List.mem_filter.mpr ⟨ho,by rw [hgroup o ho]; simpa using hs⟩,rfl,hstate⟩
  have hasked : ∀ k, (∃ v ∈ requestedKeys profile
        (serviceOverrides zone (policyGroupKeys rt t) services),
        strip v≠"" ∧ rt.lower (strip v)=k) ↔ Requested rt zone past profile k := fun k =>
    exists_congr fun v => and_congr_left fun _ => mem_requestedKeys h v
  unfold scheduledBlocks
  rw [mem_applyOverrides (hnodup.sublist (List.filter_sublist.map _)),hconcrete,hconcrete,
    mem_effectiveServices]
  simp only [hasked]
  exact or_congr_right and_comm

end Rule

section Effective
variable (rt : Runtime) (t : Tables) (ip : String) (policyAt : PolicyAt)

/-- The profile of a device. -/
def deviceProfile : Option Profile :=
  profileOf t (((devicePolicy t ip).getD { ip := some ip }).profileId.map Subtype.val)

/-- The zone of the policy, and the occurrences that lie behind the moment for a device. -/
def pastOccurrences : Except StoreError (Zone × List Candidate) := do
  let (zone,_) ← policyZone rt t
  let (moment,_) ← normalizePolicyDatetime zone policyAt
  let past ← scheduleOccurrences zone rt t ip
    (((devicePolicy t ip).getD { ip := some ip }).profileId.map Subtype.val) moment false
  pure (zone,past)

variable {rt t ip policyAt} {usage : Option QuotaUsage} {supported : Option (List String)}

lemma metered_blocked (r : Resolution) (profile : Option Profile) (s : String) :
    s ∈ (r.metered rt t profile usage supported).blocked ↔
      QuotaBlocks rt t profile usage s ∨ s ∈ r.blocks rt t profile supported := by
  have hgroups : quotaCatalog rt t (policyGroupCatalog rt t)=groupsOf rt t := by
    unfold quotaCatalog groupsOf
    rw [ite_self]
  unfold Resolution.metered QuotaBlocks
  by_cases happly : quotasApply t profile=true ∧ ∃ u, usage=some u ∧ u.available=true
  · obtain ⟨happly,u,rfl,havailable⟩ := happly
    rw [(evaluateQuotaState_metered happly havailable).2,hgroups,or_comm]
    refine or_congr_left ⟨fun h => ⟨happly,u,rfl,havailable,h⟩,?_⟩
    rintro ⟨-,u',hu,-,h⟩
    obtain rfl := Option.some.inj hu
    exact h
  · rw [(evaluateQuotaState_idle usage ?_).2]
    · refine (or_iff_right ?_).symm
      rintro ⟨hquotas,u,hu,havailable,-⟩
      exact happly ⟨hquotas,u,hu,havailable⟩
    · by_contra hidle
      push Not at hidle
      obtain ⟨hquotas,u,hu,havailable⟩ := hidle
      exact happly ⟨by simpa using hquotas,u,hu,by simpa using havailable⟩

/-- The decisions of a resolution are selected from the occurrences behind its moment. -/
lemma resolution_past {ctx : PolicyContext} {r : Resolution}
    (h : resolvePolicy rt t ip ctx policyAt=.ok r)
    (hctx : ctx.profileId=((devicePolicy t ip).getD { ip := some ip }).profileId.map Subtype.val) :
    ∃ past, pastOccurrences rt t ip policyAt=.ok (r.zone,past) ∧
      selectServices r.zone (byService past)=.ok r.regular.services := by
  unfold resolvePolicy at h
  dsimp only at h
  split at h
  · obtain ⟨⟨zone,name⟩,hzone,h⟩ := bind_ok h
    obtain ⟨⟨moment,resolution⟩,hmoment,h⟩ := bind_ok h
    obtain ⟨regular,hregular,h⟩ := bind_ok h
    obtain ⟨exception,_,h⟩ := bind_ok h
    obtain ⟨decision,_,h⟩ := bind_ok h
    have hresult : r.zone=zone ∧ r.regular=regular := by
      cases exception with
      | none => exact (Except.ok.inj h) ▸ ⟨rfl,rfl⟩
      | some e =>
        obtain ⟨future,_,h⟩ := bind_ok h
        exact (Except.ok.inj h) ▸ ⟨rfl,rfl⟩
    rw [hresult.1,hresult.2]
    unfold resolveRegularSchedule at hregular
    obtain ⟨past,hpast,hregular⟩ := bind_ok hregular
    obtain ⟨mode,_,hregular⟩ := bind_ok hregular
    obtain ⟨services,hservices,hregular⟩ := bind_ok hregular
    obtain ⟨future,_,hregular⟩ := bind_ok hregular
    obtain rfl := Except.ok.inj hregular
    rw [hctx] at hpast
    refine ⟨past,?_,hservices⟩
    unfold pastOccurrences
    rw [hzone]
    dsimp only [bind,Except.bind]
    rw [hmoment]
    dsimp only [bind,Except.bind]
    rw [hpast]
    rfl
  · cases h

/-- A service is blocked exactly by the rule: by an exhausted quota on it or on its group, by its
own latest decision, or, where that does not allow it, by a request for it or for its group. -/
theorem blocked_by_rule {p : EffectivePolicy}
    (h : computeEffectivePolicy rt t ip policyAt usage supported=.ok p) :
    ∃ zone past, pastOccurrences rt t ip policyAt=.ok (zone,past) ∧
      ∀ s, s ∈ p.blockedServices ↔ Blocks rt t zone past (deviceProfile t ip) usage
        (supported.getD (routerosSupportedServiceKeys rt t)) s := by
  obtain ⟨r,hr,-,hblocked⟩ := computed_resolution h
  obtain ⟨past,hpast,hservices⟩ := resolution_past hr rfl
  refine ⟨r.zone,past,hpast,fun s => ?_⟩
  rw [hblocked,mem_sortedSet,metered_blocked]
  exact or_congr_right (mem_scheduledBlocks hservices _ s)

end Effective

section Example

/-- A quota names a service that it is on, and the services of a group that it is on. -/
def QuotaNames (rt : Runtime) (t : Tables) (profile : Option Profile) (usage : Option QuotaUsage)
    (s : String) : Prop :=
  quotasApply t profile=true ∧ ∃ u, usage=some u ∧ u.available=true ∧
    ∃ e ∈ spentQuotas rt (groupsOf rt t) profile u,
      e.1=s ∨ s ∈ groupMembers rt e.1 (groupsOf rt t)

/-- The rule without regard to keys that are both a service and a group. -/
def PlainlyBlocks (rt : Runtime) (t : Tables) (zone : Zone) (past : List Candidate)
    (profile : Option Profile) (usage : Option QuotaUsage) (supported : List String)
    (s : String) : Prop :=
  QuotaNames rt t profile usage s ∨
  s ∉ policyGroupKeys rt t ∧ Decided zone past s .block ∨
  ¬Decided zone past s .allow ∧ s ∈ orSupported supported ∧
    ((s ∈ (profile.map fun p => p.blockedServices).getD [] ∧
        ¬∃ state, Decided zone past s state) ∨
      ∃ g, Asked zone past profile g ∧ s ∈ groupMembers rt g (groupsOf rt t))

/-- The default catalogue, in which `gaming` is a service and a group, and a profile with a quota
on it. -/
def gamingTables : Tables :=
  { bandwidthPresets :=
      [{ key := "normal", name := "Normal", upload := "Unlimited", download := "Unlimited" }]
    appSettings := [("quota_engine_enabled","1")]
    policyGroups := policyGroups
    services := [{ key := "gaming", name := "Gaming", builtin := true }]
    profiles := [{ id := ⟨1,Int.zero_lt_one⟩, name := "Kids", serviceQuotas := [("gaming",1)] }]
    devicePolicy := [{ ip := some "10.0.0.7", profileId := some ⟨1,Int.zero_lt_one⟩ }] }

def gamingUsage : QuotaUsage := { available := true, serviceBytes := [("roblox",2097152)] }

lemma gaming_spent : ("gaming",1) ∈ spentQuotas asciiEnv.toRuntime
    (groupsOf asciiEnv.toRuntime gamingTables) (deviceProfile gamingTables "10.0.0.7")
    gamingUsage := by decide +kernel

lemma gaming_policy : ∃ p, computeEffectivePolicy asciiEnv.toRuntime gamingTables "10.0.0.7"
      (.aware 0) (some gamingUsage) none=.ok p ∧
    p.blockedServices=["playstation","roblox","steam","xbox"] := by
  have hblocks : ((computeEffectivePolicy asciiEnv.toRuntime gamingTables "10.0.0.7" (.aware 0)
      (some gamingUsage) none).toOption.map fun p => p.blockedServices)=
      some ["playstation","roblox","steam","xbox"] := by decide +kernel
  cases hp : computeEffectivePolicy asciiEnv.toRuntime gamingTables "10.0.0.7" (.aware 0)
      (some gamingUsage) none with
  | error e =>
    rw [hp] at hblocks
    cases hblocks
  | ok p =>
    rw [hp] at hblocks
    exact ⟨p,rfl,Option.some.inj hblocks⟩

theorem blocked_by_rule_gaming : ∃ p zone past,
    computeEffectivePolicy asciiEnv.toRuntime gamingTables "10.0.0.7" (.aware 0)
      (some gamingUsage) none=.ok p ∧
    pastOccurrences asciiEnv.toRuntime gamingTables "10.0.0.7" (.aware 0)=.ok (zone,past) ∧
    ∀ s, s ∈ p.blockedServices ↔ Blocks asciiEnv.toRuntime gamingTables zone past
      (deviceProfile gamingTables "10.0.0.7") (some gamingUsage)
      (routerosSupportedServiceKeys asciiEnv.toRuntime gamingTables) s := by
  obtain ⟨p,hp,-⟩ := gaming_policy
  obtain ⟨zone,past,hpast,hrule⟩ := blocked_by_rule hp
  exact ⟨p,zone,past,hp,hpast,hrule⟩

/-- The exhausted quota on `gaming` blocks the members of the group and not the service. -/
theorem gaming_spared : ∃ p, computeEffectivePolicy asciiEnv.toRuntime gamingTables "10.0.0.7"
      (.aware 0) (some gamingUsage) none=.ok p ∧
    ∀ zone past, ¬∀ s, s ∈ p.blockedServices ↔ PlainlyBlocks asciiEnv.toRuntime gamingTables zone
      past (deviceProfile gamingTables "10.0.0.7") (some gamingUsage)
      (routerosSupportedServiceKeys asciiEnv.toRuntime gamingTables) s := by
  obtain ⟨p,hp,hblocks⟩ := gaming_policy
  refine ⟨p,hp,fun zone past hrule => ?_⟩
  have hnamed : QuotaNames asciiEnv.toRuntime gamingTables (deviceProfile gamingTables "10.0.0.7")
      (some gamingUsage) "gaming" :=
    ⟨by decide,gamingUsage,rfl,rfl,_,gaming_spent,.inl rfl⟩
  have hin := (hrule "gaming").mpr (.inl hnamed)
  rw [hblocks] at hin
  exact absurd hin (by decide)

end Example

end ZenControl
