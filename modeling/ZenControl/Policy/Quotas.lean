import ZenControl.Policy.Resolver
import ZenControl.Store.Access
import Mathlib.Algebra.Order.BigOperators.Group.List
import Mathlib.Algebra.Ring.Int.Defs

/-! What quotas do to a resolved policy: they only tighten it, and more usage only tightens it
further. -/
namespace ZenControl

section Evaluation
variable {rt : Runtime} {t : Tables} {profile : Option Profile} {mode : Mode}
  {blocked : List String} {catalog : GroupCatalog}

/-- The bytes that a report has for a key. -/
def QuotaUsage.bytesOf (u : QuotaUsage) (key : String) : ℤ := (u.serviceBytes.lookup key).getD 0

/-- No total and no service has more bytes in the first report. -/
structure QuotaUsage.Within (u v : QuotaUsage) : Prop where
  total : u.totalBytes ≤ v.totalBytes
  services : ∀ key, u.bytesOf key ≤ v.bytesOf key

/-- One outcome is at least as restrictive as another one. -/
structure Tighter (mode mode' : Mode) (blocked blocked' : List String) : Prop where
  mode : quotaModeRank mode ≤ quotaModeRank mode'
  blocked : ∀ s ∈ blocked, s ∈ blocked'

lemma Tighter.refl (mode : Mode) (blocked : List String) : Tighter mode mode blocked blocked :=
  ⟨le_refl _,fun _ hs => hs⟩

lemma Tighter.sorted {mode mode' : Mode} {blocked blocked' : List String}
    (h : Tighter mode mode' blocked blocked') :
    Tighter mode mode' (sortedSet blocked) (sortedSet blocked') :=
  ⟨h.mode,fun s hs => mem_sortedSet.mpr (h.blocked s (mem_sortedSet.mp hs))⟩

/-- Whether the daily quota is used up. -/
def dailyExhausted (profile : Option Profile) (u : QuotaUsage) : Bool :=
  let limitMb := (profile.map fun p => p.dailyQuotaMb).getD 0
  decide (limitMb≠0) && decide (bytesForMb limitMb ≤ u.totalBytes)

/-- The services of a quota: the members of a group, or the service itself. -/
def quotaMembers (rt : Runtime) (catalog : GroupCatalog) (key : String) : List String :=
  if key ∈ catalog.map Prod.fst then groupMembers rt key catalog else [key]

/-- The bytes that count for a service or group quota. -/
def usedOf (rt : Runtime) (catalog : GroupCatalog) (u : QuotaUsage) (key : String) : ℤ :=
  ((quotaMembers rt catalog key).map u.bytesOf).sum

/-- The service and group quotas that are used up. -/
def spentQuotas (rt : Runtime) (catalog : GroupCatalog) (profile : Option Profile)
    (u : QuotaUsage) : List (String × ℤ) :=
  ((profile.map fun p => p.serviceQuotas).getD []).filter fun e =>
    decide (e.2≠0) && decide (bytesForMb e.2 ≤ usedOf rt catalog u e.1)

/-- The mode that the daily quota asks for. -/
def meteredMode (profile : Option Profile) (u : QuotaUsage) (mode : Mode) : Mode :=
  let action := (profile.map fun p => p.dailyQuotaAction).getD .blocked
  if dailyExhausted profile u && quotaModeRank mode < quotaModeRank action.mode then action.mode
  else mode

/-- Whether quotas are looked at: some quota is configured and the engine is on. -/
def quotasApply (t : Tables) (profile : Option Profile) : Bool :=
  (decide ((profile.map fun p => p.dailyQuotaMb).getD 0≠0) ||
    !((profile.map fun p => p.serviceQuotas).getD []).isEmpty) &&
  settingOr t.appSettings "quota_engine_enabled" "0"="1"

lemma foldl_add (ns : List ℤ) : ns.foldl (fun a b => a+b) 0=ns.sum := by
  rw [List.sum_eq_foldl]

lemma serviceQuota_used (warning : ℤ) (u : QuotaUsage) (key : String) (limit : ℤ) :
    (serviceQuota rt catalog warning u.serviceBytes key limit).exhausted=
      decide (bytesForMb limit ≤ usedOf rt catalog u key) ∧
    (serviceQuota rt catalog warning u.serviceBytes key limit).members=
      quotaMembers rt catalog key := by
  unfold serviceQuota usedOf quotaMembers
  dsimp only
  refine ⟨?_,?_⟩
  · rw [foldl_add]
    simp only [decide_eq_true_eq]
    rfl
  · simp only [decide_eq_true_eq]

/-- The groups as `_evaluate_quota_state` sees them. -/
def quotaCatalog (rt : Runtime) (t : Tables) (catalog : GroupCatalog) : GroupCatalog :=
  normalizedGroupCatalog rt (if catalog.isEmpty then policyGroupCatalog rt t else catalog)

/-- Without a report, or where quotas do not apply, nothing changes. -/
lemma evaluateQuotaState_idle (usage : Option QuotaUsage)
    (h : quotasApply t profile=false ∨ ∀ u, usage=some u → u.available=false) :
    (evaluateQuotaState rt t profile mode blocked usage catalog).mode=mode ∧
      (evaluateQuotaState rt t profile mode blocked usage catalog).blocked=blocked := by
  unfold evaluateQuotaState
  dsimp only
  generalize normalizedGroupCatalog rt _=groups
  split_ifs with hconfigured henabled
  · exact ⟨rfl,rfl⟩
  · exact ⟨rfl,rfl⟩
  · cases usage with
    | none => exact ⟨rfl,rfl⟩
    | some u =>
      rcases h with h | h
      · simp only [quotasApply,Bool.and_eq_false_iff,decide_eq_false_iff_not] at h
        rcases h with h | h
        · exact absurd h hconfigured
        · exact absurd (eq_false h) henabled
      · dsimp only
        rw [if_pos (h u rfl)]
        exact ⟨rfl,rfl⟩

/-- Where quotas apply, a report adds the members of the spent quotas and may tighten the mode. -/
lemma evaluateQuotaState_metered {u : QuotaUsage} (happly : quotasApply t profile=true)
    (havailable : u.available=true) :
    (evaluateQuotaState rt t profile mode blocked (some u) catalog).mode=
        meteredMode profile u mode ∧
      ∀ s, s ∈ (evaluateQuotaState rt t profile mode blocked (some u) catalog).blocked ↔
        s ∈ blocked ∨ ∃ e ∈ spentQuotas rt (quotaCatalog rt t catalog) profile u,
          s ∈ quotaMembers rt (quotaCatalog rt t catalog) e.1 := by
  obtain ⟨hconfigured,henabled⟩ := Bool.and_eq_true_iff.mp happly
  unfold evaluateQuotaState quotaCatalog
  dsimp only
  generalize normalizedGroupCatalog rt _=groups
  rw [if_neg (by rw [hconfigured]; decide),if_neg (by simpa using henabled),
    if_neg (by rw [havailable]; decide)]
  refine ⟨rfl,fun s => ?_⟩
  dsimp only
  rw [List.mem_append]
  refine or_congr_right ?_
  simp only [List.mem_flatMap,List.mem_filter,List.mem_map,List.mem_insertionSort,spentQuotas,
    Bool.and_eq_true,decide_eq_true_eq]
  constructor
  · rintro ⟨q,⟨⟨e,⟨he,hlimit⟩,rfl⟩,hexhausted⟩,hs⟩
    rw [(serviceQuota_used _ _ _ _).1,decide_eq_true_eq] at hexhausted
    rw [(serviceQuota_used _ _ _ _).2] at hs
    exact ⟨e,⟨he,hlimit,hexhausted⟩,hs⟩
  · rintro ⟨e,⟨he,hlimit,hused⟩,hs⟩
    refine ⟨_,⟨⟨e,⟨he,hlimit⟩,rfl⟩,?_⟩,?_⟩
    · rw [(serviceQuota_used _ _ _ _).1,decide_eq_true_eq]
      exact hused
    · rw [(serviceQuota_used _ _ _ _).2]
      exact hs

lemma usedOf_mono {u v : QuotaUsage} (h : u.Within v) (key : String) :
    usedOf rt catalog u key ≤ usedOf rt catalog v key :=
  List.sum_le_sum fun k _ => h.services k

lemma meteredMode_mono {u v : QuotaUsage} (h : u.Within v) :
    quotaModeRank (meteredMode profile u mode) ≤ quotaModeRank (meteredMode profile v mode) := by
  have hdaily : dailyExhausted profile u=true → dailyExhausted profile v=true := by
    simp only [dailyExhausted,Bool.and_eq_true,decide_eq_true_eq]
    exact fun hu => ⟨hu.1,hu.2.trans h.total⟩
  unfold meteredMode
  dsimp only
  by_cases hu : dailyExhausted profile u=true
  · rw [hu,hdaily hu]
  · rw [Bool.eq_false_iff.mpr hu,Bool.false_and,if_neg Bool.false_ne_true]
    split_ifs with hv
    · simp only [Bool.and_eq_true,decide_eq_true_eq] at hv
      exact hv.2.le
    · exact le_refl _

/-- What quotas make of a mode and a set of blocked services is at least as tight. -/
theorem evaluateQuotaState_tightens (usage : Option QuotaUsage) :
    Tighter mode (evaluateQuotaState rt t profile mode blocked usage catalog).mode blocked
      (evaluateQuotaState rt t profile mode blocked usage catalog).blocked := by
  by_cases hidle : quotasApply t profile=false ∨ ∀ u, usage=some u → u.available=false
  · obtain ⟨hmode,hblocked⟩ := @evaluateQuotaState_idle rt t profile mode blocked catalog usage hidle
    rw [hmode,hblocked]
    exact Tighter.refl _ _
  · push Not at hidle
    obtain ⟨happly,u,rfl,havailable⟩ := hidle
    obtain ⟨hmode,hblocked⟩ := @evaluateQuotaState_metered rt t profile mode blocked catalog u
      (by simpa using happly) (by simpa using havailable)
    refine ⟨?_,fun s hs => (hblocked s).mpr (.inl hs)⟩
    rw [hmode]
    unfold meteredMode
    dsimp only
    split_ifs with hdaily
    · simp only [Bool.and_eq_true,decide_eq_true_eq] at hdaily
      exact hdaily.2.le
    · exact le_refl _

/-- More usage is at least as tight. -/
theorem evaluateQuotaState_mono {u v : QuotaUsage} (h : u.Within v) (hu : u.available=true)
    (hv : v.available=true) :
    Tighter (evaluateQuotaState rt t profile mode blocked (some u) catalog).mode
      (evaluateQuotaState rt t profile mode blocked (some v) catalog).mode
      (evaluateQuotaState rt t profile mode blocked (some u) catalog).blocked
      (evaluateQuotaState rt t profile mode blocked (some v) catalog).blocked := by
  cases happly : quotasApply t profile with
  | false =>
    obtain ⟨hmode,hblocked⟩ :=
      @evaluateQuotaState_idle rt t profile mode blocked catalog (some u) (.inl happly)
    obtain ⟨hmode',hblocked'⟩ :=
      @evaluateQuotaState_idle rt t profile mode blocked catalog (some v) (.inl happly)
    rw [hmode,hblocked,hmode',hblocked']
    exact Tighter.refl _ _
  | true =>
    obtain ⟨hmode,hblocked⟩ :=
      @evaluateQuotaState_metered rt t profile mode blocked catalog u happly hu
    obtain ⟨hmode',hblocked'⟩ :=
      @evaluateQuotaState_metered rt t profile mode blocked catalog v happly hv
    refine ⟨by rw [hmode,hmode']; exact meteredMode_mono h,fun s hs => ?_⟩
    rw [hblocked] at hs
    rw [hblocked']
    refine hs.imp_right fun ⟨e,he,hmember⟩ => ⟨e,?_,hmember⟩
    simp only [spentQuotas,List.mem_filter,Bool.and_eq_true,decide_eq_true_eq] at he ⊢
    exact ⟨he.1,he.2.1,he.2.2.trans (usedOf_mono h e.1)⟩

end Evaluation

section Unmetered
variable (rt : Runtime) (t : Tables)

/-- The mode that a device has without schedules, and where it comes from. -/
def PolicyContext.base (ctx : PolicyContext) : Mode × String :=
  match ctx.modeOverride with
  | .mode m => (m,"device override")
  | .inherit => ((ctx.profile.map fun p => p.desiredMode).getD .normal,match ctx.profile with
    | some p => "profile: " ++ p.name
    | none => "default")

/-- One schedule decision on a set of keys. -/
def applyOverride (keys : List String) (o : ServiceOverride) : List String :=
  match o.state with
  | .block => o.service::keys
  | .allow => keys.filter fun k => k≠o.service

/-- The keys that the profile and the schedules ask to block. -/
def requestedKeys (profile : Option Profile) (overrides : List ServiceOverride) : List String :=
  overrides.foldl applyOverride (sortedSet ((profile.map fun p => p.blockedServices).getD []))

/-- The services that the profile and the schedules block. -/
def scheduledBlocks (profile : Option Profile) (overrides : List ServiceOverride)
    (supported : List String) : List String :=
  (overrides.filter fun o => !o.policyGroup).foldl applyOverride
    (expandPolicyKeys rt (requestedKeys profile overrides) supported
      (policyGroupCatalog rt t)).effectiveServices

/-- What the resolver looks up before quotas: the zone, the moment, the schedules, the exception
and the mode that they lead to. -/
structure Resolution where
  zone : Zone
  moment : Moment
  regular : RegularSchedule
  exception : Option DateException
  decision : ModeDecision

/-- The part of `_compute_effective_policy_from_context` that can fail. -/
def resolvePolicy (ip : String) (ctx : PolicyContext) (policyAt : PolicyAt) :
    Except StoreError Resolution := do
  let bandwidth := (ctx.profile.map fun p => p.bandwidthPreset).getD "normal"
  let some _ := t.bandwidthPresets.find? fun p => p.key=bandwidth
    | .error (.valueError
        s!"Bandwidth preset '{bandwidth}' referenced by {ip} does not exist")
  let (zone,_) ← policyZone rt t
  let (moment,_) ← normalizePolicyDatetime zone policyAt
  let regular ← resolveRegularSchedule zone rt t ip ctx.profileId moment
  let exception ← matchingException t ip moment.day ctx.profileId
  let decision ← decideMode t zone moment regular ctx.base.1 ctx.base.2 exception
  let _ ← match exception with
    | none => pure decision.next
    | some _ => do
      let future ← scheduleOccurrences zone rt t ip ctx.profileId moment true
      pure (nextWithServices zone decision.next future)
  pure { zone := zone, moment := moment, regular := regular, exception := exception,
         decision := decision }

/-- The schedule decisions of a resolution. -/
def Resolution.overrides (r : Resolution) : List ServiceOverride :=
  serviceOverrides r.zone (policyGroupKeys rt t) r.regular.services

/-- The services that are blocked before quotas. -/
def Resolution.blocks (r : Resolution) (profile : Option Profile)
    (supported : Option (List String)) : List String :=
  scheduledBlocks rt t profile (r.overrides rt t)
    (supported.getD (routerosSupportedServiceKeys rt t))

/-- The quotas on a resolution. -/
def Resolution.metered (r : Resolution) (profile : Option Profile) (usage : Option QuotaUsage)
    (supported : Option (List String)) : QuotaOutcome :=
  evaluateQuotaState rt t profile r.decision.mode (r.blocks rt t profile supported) usage
    (policyGroupCatalog rt t)

variable {rt t} {ip : String} {ctx : PolicyContext} {policyAt : PolicyAt}
  {usage : Option QuotaUsage} {supported : Option (List String)}

lemma map_bind {ε α β γ : Type} (x : Except ε α) (g : α → Except ε β) (f : β → γ) :
    (x >>= g).map f=x >>= fun a => (g a).map f := by
  cases x <;> rfl

/-- Mode and blocked services come from the resolution and the quotas on it. -/
lemma computeEffectivePolicy_metered :
    (computeEffectivePolicyFromContext rt t ip ctx policyAt usage supported).map
        (fun p => (p.mode,p.blockedServices))=
      (resolvePolicy rt t ip ctx policyAt).map fun r =>
        ((r.metered rt t ctx.profile usage supported).mode,
          sortedSet (r.metered rt t ctx.profile usage supported).blocked) := by
  unfold computeEffectivePolicyFromContext resolvePolicy
  dsimp only
  cases t.bandwidthPresets.find? fun p =>
      p.key=(ctx.profile.map fun p => p.bandwidthPreset).getD "normal" with
  | none => rfl
  | some preset =>
    dsimp only
    rw [map_bind,map_bind]
    refine bind_congr_ok rfl fun z _ => ?_
    rw [map_bind,map_bind]
    refine bind_congr_ok rfl fun m _ => ?_
    rw [map_bind,map_bind]
    refine bind_congr_ok rfl fun regular _ => ?_
    rw [map_bind,map_bind]
    refine bind_congr_ok rfl fun exception _ => ?_
    rw [map_bind,map_bind]
    refine bind_congr_ok rfl fun decision _ => ?_
    cases exception with
    | none => rfl
    | some e => cases scheduleOccurrences z.1 rt t ip ctx.profileId m.1 true <;> rfl

/-- The context of a device without its quotas. -/
def PolicyContext.withoutQuotas (ctx : PolicyContext) : PolicyContext :=
  { ctx with profile := ctx.profile.map fun p =>
      { p with dailyQuotaMb := 0, serviceQuotas := [] } }

lemma resolvePolicy_withoutQuotas :
    resolvePolicy rt t ip ctx.withoutQuotas policyAt=resolvePolicy rt t ip ctx policyAt := by
  obtain ⟨modeOverride,profile,profileId⟩ := ctx
  cases profile <;> rfl

lemma quotasApply_withoutQuotas : quotasApply t ctx.withoutQuotas.profile=false := by
  obtain ⟨modeOverride,profile,profileId⟩ := ctx
  cases profile <;> rfl

lemma blocks_withoutQuotas (r : Resolution) :
    r.blocks rt t ctx.withoutQuotas.profile supported=r.blocks rt t ctx.profile supported := by
  obtain ⟨modeOverride,profile,profileId⟩ := ctx
  cases profile <;> rfl

lemma computed_resolution {p : EffectivePolicy}
    (h : computeEffectivePolicyFromContext rt t ip ctx policyAt usage supported=.ok p) :
    ∃ r, resolvePolicy rt t ip ctx policyAt=.ok r ∧
      p.mode=(r.metered rt t ctx.profile usage supported).mode ∧
      p.blockedServices=sortedSet (r.metered rt t ctx.profile usage supported).blocked := by
  have hmetered := @computeEffectivePolicy_metered rt t ip ctx policyAt usage supported
  rw [h] at hmetered
  cases hr : resolvePolicy rt t ip ctx policyAt with
  | error e =>
    rw [hr] at hmetered
    cases hmetered
  | ok r =>
    rw [hr] at hmetered
    obtain ⟨hmode,hblocked⟩ := Prod.mk.inj (Except.ok.inj hmetered)
    exact ⟨r,rfl,hmode,hblocked⟩

lemma computed_isOk :
    (computeEffectivePolicyFromContext rt t ip ctx policyAt usage supported).isOk=
      (resolvePolicy rt t ip ctx policyAt).isOk := by
  have hmap {α β : Type} (x : Except StoreError α) (f : α → β) : (x.map f).isOk=x.isOk := by
    cases x <;> rfl
  rw [← hmap _ (fun p => (p.mode,p.blockedServices)),computeEffectivePolicy_metered,hmap]

/-- An effective policy is at least as tight as another one. -/
def EffectivePolicy.Tightens (p q : EffectivePolicy) : Prop :=
  Tighter p.mode q.mode p.blockedServices q.blockedServices

/-- Whatever schedules and exceptions decide: quotas do not decide whether the policy resolves,
they only tighten it, and a report with more usage tightens it further. -/
theorem quotas_tighten (rt : Runtime) (t : Tables) (ip : String) (ctx : PolicyContext)
    (policyAt : PolicyAt) (supported : Option (List String)) {u v : QuotaUsage}
    (hu : u.available=true) (hv : v.available=true) (hle : u.Within v)
    (other : Option QuotaUsage) :
    let resolved (ctx : PolicyContext) (usage : Option QuotaUsage) :=
      computeEffectivePolicyFromContext rt t ip ctx policyAt usage supported
    ((resolved ctx (some u)).isOk=(resolved ctx (some v)).isOk ∧
      (resolved ctx.withoutQuotas other).isOk=(resolved ctx (some u)).isOk) ∧
    ∀ p q free, resolved ctx (some u)=.ok p → resolved ctx (some v)=.ok q →
      resolved ctx.withoutQuotas other=.ok free →
      free.Tightens p ∧ p.Tightens q ∧ free.Tightens q := by
  dsimp only
  refine ⟨⟨by rw [computed_isOk,computed_isOk],
    by rw [computed_isOk,computed_isOk,resolvePolicy_withoutQuotas]⟩,
    fun p q free hp hq hfree => ?_⟩
  obtain ⟨r,hr,hpmode,hpblocked⟩ := computed_resolution hp
  obtain ⟨r',hr',hqmode,hqblocked⟩ := computed_resolution hq
  obtain ⟨r'',hr'',hfmode,hfblocked⟩ := computed_resolution hfree
  rw [resolvePolicy_withoutQuotas] at hr''
  obtain rfl := Except.ok.inj (hr.symm.trans hr')
  obtain rfl := Except.ok.inj (hr.symm.trans hr'')
  obtain ⟨hmode,hblocked⟩ := @evaluateQuotaState_idle rt t ctx.withoutQuotas.profile
    r.decision.mode (r.blocks rt t ctx.withoutQuotas.profile supported) (policyGroupCatalog rt t)
    other (.inl quotasApply_withoutQuotas)
  have hfree : free.mode=r.decision.mode ∧
      free.blockedServices=sortedSet (r.blocks rt t ctx.profile supported) := by
    rw [hfmode,hfblocked]
    unfold Resolution.metered
    rw [hmode,hblocked,blocks_withoutQuotas]
    exact ⟨rfl,rfl⟩
  unfold EffectivePolicy.Tightens
  rw [hpmode,hpblocked,hqmode,hqblocked,hfree.1,hfree.2]
  exact ⟨(evaluateQuotaState_tightens _).sorted,(evaluateQuotaState_mono hle hu hv).sorted,
    (evaluateQuotaState_tightens _).sorted⟩

/-- A store with the unlimited preset, and a profile with one MiB a day. -/
def meteredTables : Tables :=
  { bandwidthPresets :=
      [{ key := "normal", name := "Normal", upload := "Unlimited", download := "Unlimited" }]
    appSettings := [("quota_engine_enabled","1")] }

def meteredContext : PolicyContext :=
  { modeOverride := .inherit, profileId := some 1,
    profile := some { id := ⟨1,Int.zero_lt_one⟩, name := "Kids", dailyQuotaMb := 1 } }

def usageOf (bytes : ℤ) : QuotaUsage := { available := true, totalBytes := bytes }

/-- The daily quota is used up in one report and not in the other one. -/
theorem quotas_tighten_spent :
    let resolved (ctx : PolicyContext) (usage : Option QuotaUsage) :=
      computeEffectivePolicyFromContext asciiEnv.toRuntime meteredTables "10.0.0.7" ctx
        (.aware 0) usage none
    ∀ p q free, resolved meteredContext (some (usageOf 0))=.ok p →
      resolved meteredContext (some (usageOf 2097152))=.ok q →
      resolved meteredContext.withoutQuotas none=.ok free →
      free.Tightens p ∧ p.Tightens q ∧ free.Tightens q :=
  (@quotas_tighten asciiEnv.toRuntime meteredTables "10.0.0.7" meteredContext (.aware 0) none
    (usageOf 0) (usageOf 2097152) rfl rfl ⟨by decide,fun _ => le_refl _⟩ none).2

end Unmetered
end ZenControl
