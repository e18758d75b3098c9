import ZenControl.Policy.Resolver
import ZenControl.Store.Profiles
import Mathlib.Data.List.MinMax

/-! Simulation of a proposed change and the policy of the store that the change is saved to. -/
namespace ZenControl
open Calls

section Model
variable (rt : Runtime) (t : Tables)

/-- `build_profile_candidate`. -/
def buildProfileCandidate (profileId : ℤ) (a : ProfileArgs) : Py Profile := do
  match ← requestedProfile t profileId with
  | none => .error (.valueError "Profile not found")
  | some current =>
    let name := strip (a.name.textOr rt.toPyRuntime)
    let fields ← profileFields rt t name a
    let notes := strip (a.notes.textOr rt.toPyRuntime)
    pure { toPolicyFields := { fields with notes := clip notes 250 }, id := current.id,
           name := name }

/-- A proposal: what it keeps, what it sets, and the unsaved edit of a profile. -/
structure Proposal where
  keepProfile : Bool := true
  profileId : PyVal := .none
  keepMode : Bool := true
  modeOverride : PyVal := .none
  edit : Option (ℤ × ProfileArgs) := none

/-- The assignment of the scenario. -/
def Proposal.assignment (p : Proposal) (cfg : DevicePolicy) : Py (Option RowId) :=
  if p.keepProfile then .ok cfg.profileId else selectedProfile t p.profileId

/-- The override of the scenario. -/
def Proposal.override (p : Proposal) (cfg : DevicePolicy) : Py ModeOverride :=
  if p.keepMode then .ok cfg.modeOverride
  else match p.modeOverride with
    | .str "inherit" => .ok .inherit
    | mode => (validateMode mode).map ModeOverride.mode

/-- The profile of the scenario: the unsaved edit where it is the assigned one. -/
def scenarioProfile (candidate : Option Profile) (profileId : Option RowId) : Option Profile :=
  profileId.bind fun id =>
    match candidate with
    | some c => if c.id=id then some c else getProfile t id
    | none => getProfile t id

/-- `simulate_effective_policy`. -/
def simulateEffectivePolicy (ip : String) (policyAt : PolicyAt) (p : Proposal)
    (candidate : Option Profile) (usage : Option QuotaUsage) (supported : Option (List String)) :
    Except StoreError EffectivePolicy := do
  let cfg := (devicePolicy t ip).getD { ip := some ip }
  let profileId ← p.assignment t cfg
  let modeOverride ← p.override cfg
  computeEffectivePolicyFromContext rt t ip
    { modeOverride := modeOverride, profile := scenarioProfile t candidate profileId,
      profileId := profileId.map Subtype.val } policyAt usage supported

/-- The candidate that is built from an edit. -/
def Proposal.candidate (p : Proposal) : Py (Option Profile) :=
  match p.edit with
  | some (id,a) => (buildProfileCandidate rt t id a).map some
  | none => .ok none

/-- The candidate of an edit and the simulation with it. -/
def simulateProposal (ip : String) (policyAt : PolicyAt) (p : Proposal)
    (usage : Option QuotaUsage) (supported : Option (List String)) :
    Except StoreError EffectivePolicy := do
  let candidate ← p.candidate rt t
  simulateEffectivePolicy rt t ip policyAt p candidate usage supported

/-- The arguments of `update_device` that save a proposal for a device and keep the other
fields of its row. -/
def Proposal.deviceArgs (p : Proposal) (ip : String) (d : DevicePolicy) : DeviceArgs :=
  { ip := .str ip, deviceAlias := .str d.deviceAlias, notes := .str d.notes,
    profileId :=
      if p.keepProfile then (d.profileId.map fun id => PyVal.int id.val).getD .none
      else p.profileId,
    modeOverride := if p.keepMode then .str d.modeOverride.text else p.modeOverride,
    category := .str d.category, favourite := d.favourite }

/-- Save a proposal with `update_device` and, for an edit, `update_profile`. -/
def commitProposal (env : Env) (ip : String) (p : Proposal) : StoreProg Unit := do
  let d ← query fun t => .ok ((devicePolicy t ip).getD { ip := some ip })
  updateDevice env (p.deviceArgs ip d)
  match p.edit with
  | some (id,a) => let _ ← updateProfile env id a
  | none => pure ()

end Model
section Exceptions
variable {t : Tables} {ip : String} {day : Day}

lemma mem_mostSpecific {es : List DateException} {e : DateException} (h : e ∈ mostSpecific es) :
    e ∈ es ∧ ∀ e' ∈ es, e'.target.specificity ≤ e.target.specificity := by
  simpa [mostSpecific] using h

/-- Among exceptions that match there are most specific ones. -/
lemma mostSpecific_ne_nil {es : List DateException} (h : es≠[]) : mostSpecific es≠[] := by
  obtain ⟨e,he⟩ := Option.ne_none_iff_exists'.mp
    (mt (List.argmax_eq_none (f:=fun e : DateException => e.target.specificity)).mp h)
  refine List.ne_nil_of_mem (a:=e) ?_
  simp only [mostSpecific,List.mem_filter,List.all_eq_true,decide_eq_true_eq]
  exact ⟨List.argmax_mem he,fun e' he' => List.le_of_mem_argmax
    (f:=fun e : DateException => e.target.specificity) he' he⟩

lemma chooseException_ok {es : List DateException} {result : Option DateException}
    (h : chooseException ip day es=.ok result) :
    (result=none → es=[]) ∧ ∀ e, result=some e → e ∈ mostSpecific es := by
  simp only [chooseException] at h
  split_ifs at h
  obtain rfl := Except.ok.inj h
  refine ⟨fun hnone => ?_,fun e he => ?_⟩
  · by_contra hne
    refine mostSpecific_ne_nil hne ?_
    have := congrArg List.length (List.getLast?_eq_none_iff.mp hnone)
    simpa using this
  · simpa using List.mem_of_getLast? he

lemma mem_exceptionMatches {profileId : Option ℤ} {e : DateException} :
    e ∈ exceptionMatches t ip day profileId ↔
      e ∈ t.dateExceptions ∧ (e.startDate ≤ day ∧ day ≤ e.endDate) ∧
        e.target.targetMatches ip profileId=true := by
  simp [exceptionMatches,listDateExceptions,orderBy2,List.mem_insertionSort]

/-- The exceptions of a day that target one profile. -/
def ProfileExceptionOn (t : Tables) (day : Day) (profileId : ℤ) : Prop :=
  ∃ e ∈ t.dateExceptions, (e.startDate ≤ day ∧ day ≤ e.endDate) ∧
    e.target=.profile (toString profileId)

/-- The exceptions of a day that target the device. -/
def DeviceExceptionOn (t : Tables) (day : Day) (ip : String) : Prop :=
  ∃ e ∈ t.dateExceptions, (e.startDate ≤ day ∧ day ≤ e.endDate) ∧ e.target=.device ip

lemma targetMatches_none {target : Target} {profileId : ℤ} :
    target.targetMatches ip none=true ↔
      target.targetMatches ip (some profileId)=true ∧ target≠.profile (toString profileId) := by
  cases target <;> simp [Target.targetMatches]

/-- Without an exception for it a profile makes no difference. -/
lemma exceptionMatches_absent {profileId : ℤ} (h : ¬ProfileExceptionOn t day profileId) :
    exceptionMatches t ip day (some profileId)=exceptionMatches t ip day none := by
  refine List.filter_congr fun e he => ?_
  have hmem : e ∈ t.dateExceptions := by
    simpa [listDateExceptions,orderBy2,List.mem_insertionSort] using he
  by_cases hday : e.startDate ≤ day ∧ day ≤ e.endDate
  · have hne : e.target≠.profile (toString profileId) := fun ht => h ⟨e,hmem,hday,ht⟩
    have : e.target.targetMatches ip none=true ↔
        e.target.targetMatches ip (some profileId)=true ∧ e.target≠.profile (toString profileId) :=
      targetMatches_none
    simp only [hday.1,hday.2,decide_true,Bool.true_and]
    rw [Bool.eq_iff_iff,this]
    exact ⟨fun hm => ⟨hm,hne⟩,fun hm => hm.1⟩
  · simp only [not_and_or] at hday
    rcases hday with hday | hday <;> simp [hday]

lemma specificity_le (target : Target) : target.specificity ≤ 3 := by
  cases target <;> simp [Target.specificity]

/-- With an exception for the device only those for the device count. -/
lemma mostSpecific_device {profileId : Option ℤ} (h : DeviceExceptionOn t day ip) :
    mostSpecific (exceptionMatches t ip day profileId)=
      (listDateExceptions t).filter fun e =>
        e.startDate ≤ day && day ≤ e.endDate && decide (e.target=.device ip) := by
  obtain ⟨d,hd,hday,htarget⟩ := h
  have hdmatch : d ∈ exceptionMatches t ip day profileId :=
    mem_exceptionMatches.mpr ⟨hd,hday,by simp [htarget,Target.targetMatches]⟩
  unfold mostSpecific
  conv_lhs => enter [2]; unfold exceptionMatches
  rw [List.filter_filter]
  refine List.filter_congr fun e he => ?_
  rw [Bool.eq_iff_iff]
  simp only [Bool.and_eq_true,decide_eq_true_eq,List.all_eq_true]
  constructor
  · rintro ⟨hall,hdate,hmatch⟩
    refine ⟨hdate,?_⟩
    have h3 := hall d hdmatch
    rw [htarget] at h3
    cases ht : e.target with
    | all => rw [ht] at h3; simp [Target.specificity] at h3
    | profile v => rw [ht] at h3; simp [Target.specificity] at h3
    | device v =>
      rw [ht] at hmatch
      simpa [Target.targetMatches] using hmatch
  · rintro ⟨hdate,ht⟩
    refine ⟨fun e' _ => ?_,hdate,by simp [ht,Target.targetMatches]⟩
    rw [ht]
    exact specificity_le e'.target

/-- A profile that the caller has counts unless no exception asks for it or one for the
device outranks it. -/
theorem chooseException_absent {profileId : ℤ}
    (h : ¬ProfileExceptionOn t day profileId ∨ DeviceExceptionOn t day ip) :
    chooseException ip day (exceptionMatches t ip day (some profileId))=
      chooseException ip day (exceptionMatches t ip day none) := by
  rcases h with h | h
  · rw [exceptionMatches_absent h]
  · unfold chooseException
    rw [mostSpecific_device h,mostSpecific_device h]

/-- Otherwise the choice with the profile is an exception for it. -/
theorem chooseException_profile {profileId : ℤ} {result : Option DateException}
    (hp : ProfileExceptionOn t day profileId) (hd : ¬DeviceExceptionOn t day ip)
    (h : chooseException ip day (exceptionMatches t ip day (some profileId))=.ok result) :
    ∃ e, result=some e ∧ e.target=.profile (toString profileId) := by
  obtain ⟨p,hpmem,hpday,hptarget⟩ := hp
  have hpmatch : p ∈ exceptionMatches t ip day (some profileId) :=
    mem_exceptionMatches.mpr ⟨hpmem,hpday,by simp [hptarget,Target.targetMatches]⟩
  obtain ⟨hnone,hsome⟩ := chooseException_ok h
  cases result with
  | none =>
    rw [hnone rfl] at hpmatch
    cases hpmatch
  | some e =>
    refine ⟨e,rfl,?_⟩
    obtain ⟨hmatch,hmax⟩ := mem_mostSpecific (hsome e rfl)
    obtain ⟨hmem,hday,ht⟩ := mem_exceptionMatches.mp hmatch
    have hle := hmax p hpmatch
    rw [hptarget] at hle
    cases htarget : e.target with
    | all => rw [htarget] at hle; simp [Target.specificity] at hle
    | profile v =>
      rw [htarget] at ht
      simp only [Target.targetMatches,decide_eq_true_eq] at ht
      rw [ht]
    | device v =>
      rw [htarget] at ht
      simp only [Target.targetMatches,decide_eq_true_eq] at ht
      exact (hd ⟨e,hmem,hday,by rw [htarget,ht]⟩).elim

lemma chooseException_none_target {result : Option DateException} {e : DateException}
    (h : chooseException ip day (exceptionMatches t ip day none)=.ok result)
    (he : result=some e) (v : String) : e.target≠.profile v := by
  intro htarget
  obtain ⟨hmatch,-⟩ := mem_mostSpecific ((chooseException_ok h).2 e he)
  obtain ⟨-,-,ht⟩ := mem_exceptionMatches.mp hmatch
  rw [htarget] at ht
  simp [Target.targetMatches] at ht

end Exceptions

section Context
variable {rt : Runtime} {t : Tables} {ip : String} {ctx : PolicyContext} {policyAt : PolicyAt}
  {usage : Option QuotaUsage} {supported : Option (List String)}

lemma computeEffectivePolicyFromContext_congr {P : List Profile} {D : List DevicePolicy}
    {I : List DeviceIdentity}
    (h : ∀ zone name moment resolution, policyZone rt t=.ok (zone,name) →
      normalizePolicyDatetime zone policyAt=.ok (moment,resolution) →
      matchingException { t with profiles := P, devicePolicy := D, identities := I } ip
        moment.day ctx.profileId=matchingException t ip moment.day ctx.profileId) :
    computeEffectivePolicyFromContext rt
        { t with profiles := P, devicePolicy := D, identities := I } ip ctx policyAt usage
        supported=
      computeEffectivePolicyFromContext rt t ip ctx policyAt usage supported := by
  unfold computeEffectivePolicyFromContext
  dsimp only
  split
  · refine bind_congr_ok rfl fun zone hzone => ?_
    obtain ⟨zone,name⟩ := zone
    refine bind_congr_ok rfl fun m hm => ?_
    obtain ⟨moment,resolution⟩ := m
    refine bind_congr_ok rfl fun regular _ => ?_
    refine bind_congr_ok (h zone name moment resolution hzone hm) fun exception _ => rfl
  · rfl
/-- What a policy reports of exceptions is the one that matched. -/
lemma computeEffectivePolicyFromContext_exception {v : EffectivePolicy}
    (h : computeEffectivePolicyFromContext rt t ip ctx policyAt usage supported=.ok v) :
    ∃ zone name moment resolution exception, policyZone rt t=.ok (zone,name) ∧
      normalizePolicyDatetime zone policyAt=.ok (moment,resolution) ∧
      matchingException t ip moment.day ctx.profileId=.ok exception ∧
      v.activeDateException.map ActiveException.row=exception := by
  unfold computeEffectivePolicyFromContext at h
  dsimp only at h
  split at h
  · obtain ⟨⟨zone,name⟩,hzone,h⟩ := bind_ok h
    obtain ⟨⟨moment,resolution⟩,hm,h⟩ := bind_ok h
    obtain ⟨regular,-,h⟩ := bind_ok h
    obtain ⟨exception,he,h⟩ := bind_ok h
    obtain ⟨decision,-,h⟩ := bind_ok h
    refine ⟨zone,name,moment,resolution,exception,hzone,hm,he,?_⟩
    cases exception with
    | none =>
      obtain rfl := Except.ok.inj h
      rfl
    | some e =>
      obtain ⟨next,-,h⟩ := bind_ok h
      obtain rfl := Except.ok.inj h
      rfl
  · cases h

end Context

section Commit
variable {env : Env} {s s' : Store} {ip : String} {p : Proposal}

/-- What is saved of the assignment is that of the scenario. -/
lemma assignment_of_saved {t : Tables} {cfg : DevicePolicy} {profileId : Option RowId}
    (h : selectedProfile t (p.deviceArgs ip cfg).profileId=.ok profileId) :
    p.assignment t cfg=.ok profileId := by
  unfold Proposal.assignment
  simp only [Proposal.deviceArgs] at h
  split_ifs at h ⊢
  · rw [selectedProfile_stored h]
  · exact h

/-- What is saved of the override is that of the scenario. -/
lemma override_of_saved {cfg : DevicePolicy} {modeOverride : ModeOverride}
    (h : validateModeOverride (p.deviceArgs ip cfg).modeOverride=.ok modeOverride) :
    p.override cfg=.ok modeOverride := by
  unfold Proposal.override
  simp only [Proposal.deviceArgs] at h
  split_ifs at h ⊢
  · simpa [validateModeOverride,oneOf] using h
  · rw [← h]
    split
    · rename_i heq
      rw [heq]
      rfl
    · rename_i hne
      cases hv : p.modeOverride with
      | str text =>
        have htext : text≠"inherit" := fun he => hne (by rw [hv,he])
        simp only [validateMode,validateModeOverride,oneOf,ModeOverride.ofText,if_neg htext]
        cases Mode.ofText text <;> rfl
      | _ => rfl

lemma stripped_ok {value : PyVal} {text : String} (py : PyRuntime)
    (h : value.stripped=.ok text) : strip (value.textOr py)=text := by
  cases value with
  | str s =>
    obtain rfl := Except.ok.inj h
    by_cases hs : s="" <;> simp [PyVal.textOr,PyVal.or,PyVal.truthy,PyVal.text,hs]
  | _ => cases h

/-- The candidate of an edit is the profile as `update_profile` leaves it. -/
lemma buildProfileCandidate_saved {rt : Runtime} {t : Tables} {id : ℤ} {a : ProfileArgs}
    {name notes : String} {fields : PolicyFields} {current : Profile}
    (hc : checkedProfile rt t a=.ok (name,fields)) (hn : a.notes.stripped=.ok notes)
    (hp : requestedProfile t id=.ok (some current)) :
    buildProfileCandidate rt t id a=
      .ok { toPolicyFields := { fields with notes := clip notes 250 }, id := current.id,
            name := name } := by
  obtain ⟨text,htext,hc⟩ := bind_ok hc
  obtain ⟨checked,hchecked,hc⟩ := bind_ok hc
  obtain ⟨rfl,rfl⟩ := Prod.mk.inj (Except.ok.inj hc)
  unfold buildProfileCandidate
  simp only [hp,stripped_ok rt.toPyRuntime htext,stripped_ok rt.toPyRuntime hn,hchecked]
  rfl

/-- The profile that the saved edit leaves is that of the scenario. -/
lemma profileOf_amended {t : Tables} {id : ℤ} {current : Profile} (f : Profile → Profile)
    (hf : ∀ profile, (f profile).id=profile.id) (hp : requestedProfile t id=.ok (some current))
    (profileId : Option RowId) :
    profileOf { t with
        profiles := Rows.amend (fun profile : Profile => profile.id.val) id f t.profiles }
        (profileId.map Subtype.val)=scenarioProfile t (some (f current)) profileId := by
  have hcurrent : getProfile t id=some current := requestedProfile_ok hp
  rw [profileOf_rowId]
  cases profileId with
  | none => rfl
  | some q =>
    let key (profile : Profile) : ℤ := profile.id.val
    have hkey (profile : Profile) : key (f profile)=key profile :=
      congrArg Subtype.val (hf profile)
    have hrow : Rows.row key q.val (Rows.amend key id f t.profiles)=
        if q.val=id then (Rows.row key q.val t.profiles).map f
        else Rows.row key q.val t.profiles :=
      Rows.row_amend hkey id q t.profiles
    change Rows.row key q.val (Rows.amend key id f t.profiles)=
      if (f current).id=q then some (f current) else getProfile t q
    rw [hrow,hf]
    have hq : (current.id=q) ↔ q.val=id := by
      rw [Subtype.ext_iff,getProfile_id hcurrent]
      exact eq_comm
    simp only [hq]
    split_ifs with h
    · change (getProfile t q.val).map f=_
      rw [h,hcurrent]
      rfl
    · rfl

/-- The store that a saved proposal leaves: only profiles, device rows and identities differ,
and its row of the device says what the scenario says. -/
theorem commitProposal_solo (hs : s.journal.Bounded)
    (h : (commitProposal env ip p).solo s=(.ok (),s')) :
    ∃ candidate profileId modeOverride P D I d,
      p.candidate env.toRuntime s.tables=.ok candidate ∧
      p.assignment s.tables ((devicePolicy s.tables ip).getD { ip := some ip })=.ok profileId ∧
      p.override ((devicePolicy s.tables ip).getD { ip := some ip })=.ok modeOverride ∧
      s'.tables={ s.tables with profiles := P, devicePolicy := D, identities := I } ∧
      devicePolicy s'.tables ip=some d ∧ d.profileId=profileId ∧ d.modeOverride=modeOverride ∧
      profileOf s'.tables (profileId.map Subtype.val)=
        scenarioProfile s.tables candidate profileId := by
  unfold commitProposal at h
  rw [Prog.bind_eq_bind,Prog.solo_bind (closed_query _),query_solo] at h
  simp only [Prog.bind_eq_bind,Prog.solo_bind (closed_updateDevice _ _)] at h
  rcases hdev : (updateDevice env (p.deviceArgs ip
    ((devicePolicy s.tables ip).getD { ip := some ip }))).solo s with ⟨_ | _,s1⟩
  · rw [hdev] at h; cases h
  rw [hdev] at h
  obtain ⟨d,ip',ids,hd,hip,rfl⟩ := updateDevice_solo hs hdev
  obtain rfl : some ip=ip' := Except.ok.inj hip
  obtain ⟨hmode,hprofile⟩ := deviceFields_ok hd
  have hrow : devicePolicy (upsertDevice { d with ip := some ip }
      (fun _ => { d with ip := some ip }) s.tables) ip=some { d with ip := some ip } :=
    (upsertDevice_row rfl ip).trans (if_pos rfl)
  cases hedit : p.edit with
  | none =>
    rw [hedit] at h
    obtain ⟨-,rfl⟩ := Prod.mk.inj h
    refine ⟨none,d.profileId,d.modeOverride,_,_,_,{ d with ip := some ip },?_,
      assignment_of_saved hprofile,override_of_saved hmode,rfl,hrow,rfl,rfl,?_⟩
    · rw [Proposal.candidate,hedit]
    · exact profileOf_rowId _ _
  | some edit =>
    obtain ⟨id,a⟩ := edit
    rw [hedit] at h
    simp only [Prog.solo_bind (closed_updateProfile _ _ _)] at h
    have hj := hs.advance (env.writeArgs "devices" "Managed device policy updated") ""
    rcases hprof : (updateProfile env id a).solo ⟨_,{ upsertDevice { d with ip := some ip }
      (fun _ => { d with ip := some ip }) s.tables with identities := ids }⟩ with ⟨_ | r,s2⟩
    · rw [hprof] at h; cases h
    rw [hprof] at h
    obtain rfl : s2=s' := (Prod.mk.inj h).2
    obtain ⟨name,fields,notes,current,hc,hn,hcur,rfl⟩ := updateProfile_solo hj hprof
    let saved (profile : Profile) : Profile :=
      { profile with toPolicyFields := { fields with notes := clip notes 250 }, name := name }
    refine ⟨some (saved current),d.profileId,d.modeOverride,_,_,_,{ d with ip := some ip },?_,
      assignment_of_saved hprofile,override_of_saved hmode,rfl,hrow,rfl,rfl,?_⟩
    · rw [Proposal.candidate,hedit]
      exact congrArg (Except.map some) (buildProfileCandidate_saved (t:=s.tables) hc hn hcur)
    · exact profileOf_amended (t:=s.tables) saved (fun _ => rfl) hcur d.profileId

/-- The proposal takes away a profile that the store still assigns, and an exception for that
profile would have decided the moment. -/
def ForgottenAssignment (rt : Runtime) (t : Tables) (ip : String) (policyAt : PolicyAt)
    (p : Proposal) : Prop :=
  p.keepProfile=false ∧ p.profileId.blank=true ∧
    ∃ stored zone name moment resolution, storedProfileId t ip=some stored ∧
      policyZone rt t=.ok (zone,name) ∧
      normalizePolicyDatetime zone policyAt=.ok (moment,resolution) ∧
      ProfileExceptionOn t moment.day stored ∧ ¬DeviceExceptionOn t moment.day ip

lemma assignment_none {t : Tables} {cfg : DevicePolicy} (h : p.assignment t cfg=.ok none) :
    cfg.profileId=none ∨ p.keepProfile=false ∧ p.profileId.blank=true := by
  unfold Proposal.assignment at h
  split_ifs at h with hk
  · exact .inl (Except.ok.inj h)
  · exact .inr ⟨by simpa using hk,(selectedProfile_ok h).1 rfl⟩

lemma storedProfileId_eq (t : Tables) :
    storedProfileId t ip=
      ((devicePolicy t ip).getD { ip := some ip }).profileId.map Subtype.val := by
  unfold storedProfileId devicePolicy
  cases t.devicePolicy.find? fun d => d.ip=some ip <;> rfl

/-- The exceptions of a moment stay the same where a saved proposal keeps the assignment. -/
lemma matchingException_kept {t t' : Tables} {P : List Profile} {D : List DevicePolicy}
    {I : List DeviceIdentity} {day : Day} {profileId : Option RowId}
    (hstored : storedProfileId t' ip=profileId.map Subtype.val)
    (ht : t'={ t with profiles := P, devicePolicy := D, identities := I })
    (h : profileId=none → storedProfileId t ip=none ∨ ∀ stored, storedProfileId t ip=some stored →
      ¬ProfileExceptionOn t day stored ∨ DeviceExceptionOn t day ip) :
    matchingException t' ip day (profileId.map Subtype.val)=
      matchingException t ip day (profileId.map Subtype.val) := by
  have hes : ∀ q, exceptionMatches t' ip day q=exceptionMatches t ip day q := by
    intro q
    rw [ht]
    rfl
  simp only [matchingException,hstored,hes,ite_self]
  cases profileId with
  | some q => rfl
  | none =>
    cases hst : storedProfileId t ip with
    | none => rfl
    | some stored =>
      have := h rfl
      simp only [hst,reduceCtorEq,Option.some.injEq,forall_eq',false_or] at this
      exact (chooseException_absent this).symm

/-- Simulation agrees with saving the proposal and computing, for a proposal that the store
accepts, unless the proposal takes away a profile whose exception would have decided: then
the two differ wherever one of them answers. -/
theorem simulation_matches_commit (env : Env) (ip : String) (p : Proposal)
    (policyAt : PolicyAt) (usage : Option QuotaUsage) (supported : Option (List String))
    {s s' : Store} (hs : s.journal.Reachable) (h : (commitProposal env ip p).solo s=(.ok (),s')) :
    let simulated := simulateProposal env.toRuntime s.tables ip policyAt p usage supported
    let computed := computeEffectivePolicy env.toRuntime s'.tables ip policyAt usage supported
    (¬ForgottenAssignment env.toRuntime s.tables ip policyAt p → simulated=computed) ∧
      ((∃ v, simulated=.ok v ∨ computed=.ok v) →
        (simulated=computed ↔ ¬ForgottenAssignment env.toRuntime s.tables ip policyAt p)) := by
  intro simulated computed
  obtain ⟨candidate,profileId,modeOverride,P,D,I,d,hcandidate,hassign,hmode,ht,hd,hdp,hdm,
    hprofile⟩ := commitProposal_solo hs.bounded h
  let ctx : PolicyContext :=
    { modeOverride := modeOverride, profile := scenarioProfile s.tables candidate profileId,
      profileId := profileId.map Subtype.val }
  have hsim : simulated=computeEffectivePolicyFromContext env.toRuntime s.tables ip ctx policyAt
      usage supported := by
    simp only [simulated,simulateProposal,simulateEffectivePolicy,hcandidate,hassign,hmode]
    rfl
  have hcomp : computed=computeEffectivePolicyFromContext env.toRuntime s'.tables ip ctx
      policyAt usage supported := by
    simp only [computed,computeEffectivePolicy,hd,Option.getD_some,hdp,hdm,hprofile,ctx]
  have hstored : storedProfileId s'.tables ip=profileId.map Subtype.val := by
    rw [storedProfileId_eq,hd,Option.getD_some,hdp]
  have agree : ¬ForgottenAssignment env.toRuntime s.tables ip policyAt p → simulated=computed := by
    intro hF
    rw [hsim,hcomp,ht]
    refine (computeEffectivePolicyFromContext_congr fun zone name moment resolution hz hm => ?_).symm
    rw [← ht]
    exact matchingException_kept hstored ht fun hnone => by
      subst hnone
      rcases assignment_none hassign with hcfg | ⟨hk,hb⟩
      · exact .inl (by rw [storedProfileId_eq,hcfg]; rfl)
      · refine .inr fun stored hs' => ?_
        by_contra hne
        rw [not_or,not_not] at hne
        exact hF ⟨hk,hb,stored,zone,name,moment,resolution,hs',hz,hm,hne.1,hne.2⟩
  refine ⟨agree,fun hv => ⟨fun heq hF => ?_,agree⟩⟩
  obtain ⟨v,hv⟩ := hv
  have hsv : simulated=.ok v := hv.elim id fun h => heq.trans h
  have hcv : computed=.ok v := heq ▸ hsv
  obtain ⟨hk,hb,stored,zone,name,moment,resolution,hst,hz,hm,hpe,hde⟩ := hF
  have hnone : profileId=none := by
    rw [Proposal.assignment,if_neg (by simp [hk]),selectedProfile,if_pos hb] at hassign
    exact (Except.ok.inj hassign).symm
  obtain ⟨_,_,m1,_,e1,hz1,hm1,he1,hr1⟩ := computeEffectivePolicyFromContext_exception
    (hsim ▸ hsv)
  obtain ⟨zone2,name2,m2,_,e2,hz2,hm2,he2,hr2⟩ := computeEffectivePolicyFromContext_exception
    (hcomp ▸ hcv)
  have hz2 : policyZone env.toRuntime s.tables=.ok (zone2,name2) := by
    rw [ht] at hz2
    exact hz2
  obtain ⟨rfl,rfl⟩ := Prod.mk.inj (Except.ok.inj (hz.symm.trans hz1))
  obtain ⟨rfl,rfl⟩ := Prod.mk.inj (Except.ok.inj (hz.symm.trans hz2))
  obtain ⟨rfl,rfl⟩ := Prod.mk.inj (Except.ok.inj (hm.symm.trans hm1))
  obtain ⟨rfl,rfl⟩ := Prod.mk.inj (Except.ok.inj (hm.symm.trans hm2))
  subst hnone
  -- the simulation reports an exception for the profile, the saved store none
  simp only [ctx,Option.map_none,matchingException,hst,hstored,if_true] at he1 he2
  obtain ⟨e,rfl,htarget⟩ := chooseException_profile hpe hde he1
  exact chooseException_none_target he2 (hr2.symm.trans hr1) _ htarget

end Commit

section Example

/-- A device of the profile Kids, which is blocked for one day. -/
def tripTables : Tables :=
  { profiles := [{ id := ⟨1,by decide⟩, name := "Kids" }], profileSeq := 1,
    devicePolicy := [{ ip := some "10.0.0.7", profileId := some ⟨1,by decide⟩ }],
    bandwidthPresets :=
      [{ key := "normal", name := "Normal", upload := "Unlimited", download := "Unlimited",
         builtin := true }],
    dateExceptions :=
      [{ id := 1, label := "Trip", startDate := 738885, endDate := 738885,
         target := .profile "1", mode := .mode .blocked }],
    dateExceptionSeq := 1 }

def tripStore : Store := ⟨{},tripTables⟩

/-- At noon of the trip. -/
def tripNoon : PolicyAt := .naive (combine 738885 12 0)

/-- The tables with a second profile. -/
def guestTables : Tables :=
  { tripTables with
    profiles := tripTables.profiles ++ [{ id := ⟨2,by decide⟩, name := "Guests" }]
    profileSeq := 2 }

def guestStore : Store := ⟨{},guestTables⟩

/-- The device is given to the guests, and slowed down. -/
def slowGuest : Proposal where
  keepProfile := false
  profileId := .int 2
  keepMode := false
  modeOverride := .str "slow"

/-- Another profile and another mode are simulated as they are saved. -/
theorem simulation_matches_commit_slow :
    simulateProposal asciiEnv.toRuntime guestTables "10.0.0.7" tripNoon slowGuest none none=
        computeEffectivePolicy asciiEnv.toRuntime
          ((commitProposal asciiEnv "10.0.0.7" slowGuest).solo guestStore).2.tables "10.0.0.7"
          tripNoon none none ∧
      (simulateProposal asciiEnv.toRuntime guestTables "10.0.0.7" tripNoon slowGuest none none).map
        EffectivePolicy.mode=.ok .slow := by
  have saved : (commitProposal asciiEnv "10.0.0.7" slowGuest).solo guestStore=
      (.ok (),((commitProposal asciiEnv "10.0.0.7" slowGuest).solo guestStore).2) := rfl
  refine ⟨(simulation_matches_commit asciiEnv "10.0.0.7" slowGuest tripNoon none none
    (s:=guestStore) Journal.Reachable.initial saved).1 fun h => ?_,rfl⟩
  have hblank : slowGuest.profileId.blank=false := by decide
  exact absurd h.2.1 (by simp [hblank])

/-- Taking the profile away is simulated as blocked and saved as normal. -/
theorem simulation_differs_from_commit :
    (commitProposal asciiEnv "10.0.0.7" { keepProfile := false }).solo tripStore=
        (.ok (),((commitProposal asciiEnv "10.0.0.7" { keepProfile := false }).solo
          tripStore).2) ∧
      (simulateProposal asciiEnv.toRuntime tripTables "10.0.0.7" tripNoon
        { keepProfile := false } none none).map EffectivePolicy.mode=.ok .blocked ∧
      (computeEffectivePolicy asciiEnv.toRuntime
        ((commitProposal asciiEnv "10.0.0.7" { keepProfile := false }).solo tripStore).2.tables
        "10.0.0.7" tripNoon none none).map EffectivePolicy.mode=.ok .normal :=
  ⟨rfl,rfl,rfl⟩

end Example
end ZenControl
