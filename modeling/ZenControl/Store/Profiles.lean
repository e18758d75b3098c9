import ZenControl.Store.Validation

/-! The writers of profiles, of policy templates and of the policies of devices. -/
namespace ZenControl
open Calls

section Profiles

/-- The arguments of `create_profile`, `update_profile` and `build_profile_candidate`. -/
structure ProfileArgs where
  name : PyVal
  desiredMode : PyVal
  bandwidthPreset : PyVal
  notes : PyVal := .str ""
  blockedServices : PyVal := .list []
  dailyQuotaMb : PyVal := .int 0
  dailyQuotaAction : PyVal := .str "blocked"
  serviceQuotas : PyVal := .none

/-- The checks that the three share, in their order; the notes are not among them. -/
def profileFields (rt : Runtime) (t : Tables) (name : String) (a : ProfileArgs) :
    Py PolicyFields := do
  refuse (name="" ∨ 50 < name.length) "Profile name must be 1-50 characters"
  let desiredMode ← validateMode a.desiredMode
  let bandwidthPreset ← validatePreset t a.bandwidthPreset
  let blocked ← validateServices rt t a.blockedServices
  let dailyQuotaMb ← normalizeQuotaMb "Daily data quota" a.dailyQuotaMb
  let dailyQuotaAction ← normalizeQuotaAction rt a.dailyQuotaAction
  let serviceQuotas ← normalizeServiceQuotas rt t a.serviceQuotas
  pure
    { desiredMode := desiredMode, bandwidthPreset := bandwidthPreset,
      blockedServices := blocked, dailyQuotaMb := dailyQuotaMb,
      dailyQuotaAction := dailyQuotaAction, serviceQuotas := serviceQuotas }

/-- The name and the fields of a profile that is to be written. -/
def checkedProfile (rt : Runtime) (t : Tables) (a : ProfileArgs) :
    Py (String × PolicyFields) := do
  let name ← a.name.stripped
  let fields ← profileFields rt t name a
  pure (name,fields)

/-- `INSERT INTO profiles`. -/
def insertProfile (name : String) (fields : PolicyFields) (t : Tables) : Py Tables :=
  if t.profiles.any fun p => p.name=name then
    .error (.valueError "A profile with that name already exists")
  else .ok { t with
    profiles := t.profiles ++ [{ toPolicyFields := fields, id := ⟨t.profileSeq+1,by omega⟩, name := name }]
    profileSeq := t.profileSeq+1 }

/-- `create_profile`. -/
def createProfile (env : Env) (a : ProfileArgs) : StoreProg (Option Profile) := do
  let (name,fields) ← query fun t => checkedProfile env.toRuntime t a
  let id ← storeWrite env "profiles" "Profile created" do
    let notes ← Body.ofPy a.notes.stripped
    let t ← Body.execute (insertProfile name { fields with notes := clip notes 250 })
    pure t.profileSeq
  query fun t => requestedProfile t id

/-- `UPDATE profiles` with a name. -/
def renameProfile (id : ℤ) (name : String) (fields : PolicyFields) (t : Tables) : Py Tables :=
  match getProfile t id with
  | none => .error (.valueError "Profile not found")
  | some _ =>
    if t.profiles.any fun p => p.id.val≠id && p.name=name then
      .error (.valueError "A profile with that name already exists")
    else .ok { t with
      profiles := Rows.amend (fun p : Profile => p.id.val) id
        (fun p => { p with toPolicyFields := fields, name := name }) t.profiles }

/-- `update_profile`. -/
def updateProfile (env : Env) (profileId : ℤ) (a : ProfileArgs) :
    StoreProg (Option Profile) := do
  let (name,fields) ← query fun t => checkedProfile env.toRuntime t a
  let _ ← storeWrite env "profiles" "Profile updated" do
    let notes ← Body.ofPy a.notes.stripped
    let id ← Body.ofPy (sqlInt profileId)
    Body.execute (renameProfile id name { fields with notes := clip notes 250 })
  query fun t => requestedProfile t profileId

/-- `delete_profile`. Targets and defaults that name the profile keep naming it. -/
def deleteProfile (env : Env) (profileId : ℤ) : StoreProg Unit :=
  storeWrite env "profiles" "Profile deleted" do
    let id ← Body.ofPy (sqlInt profileId)
    let _ ← Body.execute fun t => .ok { t with
      devicePolicy := t.devicePolicy.map fun d =>
        if d.profileId.map Subtype.val=some id then { d with profileId := none } else d }
    let _ ← Body.execute fun t =>
      match getProfile t id with
      | none => .error (.valueError "Profile not found")
      | some _ => .ok { t with profiles := Rows.drop (fun p : Profile => p.id.val) id t.profiles }

/-- A stored profile as the arguments of another write. -/
def PolicyFields.args (f : PolicyFields) (name : PyVal) : ProfileArgs :=
  { name := name, desiredMode := .str f.desiredMode.text, bandwidthPreset := .str f.bandwidthPreset,
    notes := .str f.notes, blockedServices := .list (f.blockedServices.map .str),
    dailyQuotaMb := .int f.dailyQuotaMb, dailyQuotaAction := .str f.dailyQuotaAction.text,
    serviceQuotas := .dict (f.serviceQuotas.map fun e => (e.1,.int e.2)) }

/-- `clone_profile`. -/
def cloneProfile (env : Env) (profileId : ℤ) (newName : PyVal) : StoreProg (Option Profile) := do
  match ← query fun t => requestedProfile t profileId with
  | none => .raise (.valueError "Profile not found")
  | some source => createProfile env (source.toPolicyFields.args newName)

end Profiles

section Templates

/-- `INSERT INTO policy_templates`, whose only check is that of its column. -/
def insertTemplate (name : String) (fields : PolicyFields) (t : Tables) : Py Tables :=
  if t.policyTemplates.any fun p => p.name=name then .error .integrityError
  else .ok { t with
    policyTemplates := t.policyTemplates ++
      [{ toPolicyFields := fields, id := t.policyTemplateSeq+1, name := name }]
    policyTemplateSeq := t.policyTemplateSeq+1 }

/-- A handler that turns an integrity error into a message. -/
def orDuplicate (message : String) : Py Tables → Py Tables
  | .error .integrityError => .error (.valueError message)
  | result => result

/-- `save_template_from_profile`. -/
def saveTemplateFromProfile (env : Env) (name : PyVal) (profileId : ℤ) : StoreProg ℤ := do
  let (name,fields) ← query fun t => do
    match ← requestedProfile t profileId with
    | none => .error (.valueError "Profile not found")
    | some profile =>
      let name ← name.stripped
      refuse (name="" ∨ 50 < name.length) "Template name must be 1-50 characters"
      pure (name,profile.toPolicyFields)
  storeWrite env "templates" "Policy template created" do
    let t ← Body.execute fun t =>
      orDuplicate "A template with that name already exists" (insertTemplate name fields t)
    pure t.policyTemplateSeq

/-- `apply_template`. -/
def applyTemplate (env : Env) (templateId profileId : ℤ) : StoreProg Unit :=
  storeWrite env "profiles" "Policy template applied" do
    let templateId ← Body.ofPy (sqlInt templateId)
    match ← Body.read fun t => .ok (Rows.row PolicyTemplate.id templateId t.policyTemplates) with
    | none => .raise (.valueError "Template not found")
    | some template =>
      let id ← Body.ofPy (sqlInt profileId)
      let _ ← Body.execute fun t =>
        match getProfile t id with
        | none => .error (.valueError "Profile not found")
        | some _ => .ok { t with
          profiles := Rows.amend (fun p : Profile => p.id.val) id
            (fun p => { p with toPolicyFields := template.toPolicyFields }) t.profiles }

/-- `delete_template`. -/
def deleteTemplate (env : Env) (templateId : ℤ) : StoreProg Unit :=
  storeWrite env "templates" "Policy template deleted" do
    let id ← Body.ofPy (sqlInt templateId)
    let _ ← Body.execute fun t =>
      match Rows.row PolicyTemplate.id id t.policyTemplates with
      | none => .error (.valueError "Template not found")
      | some _ => .ok { t with policyTemplates := Rows.drop PolicyTemplate.id id t.policyTemplates }

end Templates

section Devices

/-- `_managed_identity_name`. -/
def managedIdentityName (deviceAlias ip : String) : String :=
  let stripped := strip deviceAlias
  if stripped="" then ip else clip stripped 50

/-- `_ensure_managed_device_identity`. -/
def ensureManagedDeviceIdentity (env : Env) (ip deviceAlias : String) : Body Tables Unit := do
  let currentName := managedIdentityName deviceAlias ip
  match ← Body.read fun t => .ok (Rows.row DeviceIdentity.ip ip t.identities) with
  | some row =>
    if row.currentName=currentName then pure ()
    else
      let _ ← Body.execute fun t => .ok { t with
        identities := Rows.amend DeviceIdentity.ip ip
          (fun i => { i with currentName := currentName }) t.identities }
  | none =>
    let _ ← Body.execute fun t => .ok { t with
      identities := t.identities ++
        [{ ip := ip, identityId := env.identityId ip, managedSince := env.nowIso,
           currentName := currentName }] }

/-- `INSERT INTO device_policy ... ON CONFLICT(ip)`, where NULL conflicts with nothing. -/
def upsertDevice (d : DevicePolicy) (merge : DevicePolicy → DevicePolicy) (t : Tables) :
    Tables :=
  { t with devicePolicy :=
      match d.ip with
      | none => t.devicePolicy ++ [d]
      | some ip =>
        Rows.put DevicePolicy.ip
          (((Rows.row DevicePolicy.ip (some ip) t.devicePolicy).map merge).getD d)
          t.devicePolicy }

/-- The arguments of `update_device`. -/
structure DeviceArgs where
  ip : PyVal
  deviceAlias : PyVal := .str ""
  notes : PyVal := .str ""
  profileId : PyVal := .none
  modeOverride : PyVal := .str "inherit"
  category : PyVal := .str "other"
  favourite : Bool := false

/-- The checks of `update_device`, in their order. -/
def deviceFields (t : Tables) (a : DeviceArgs) : Py DevicePolicy := do
  let modeOverride ← validateModeOverride a.modeOverride
  let deviceAlias ← a.deviceAlias.stripped
  let notes ← a.notes.stripped
  let category ← deviceCategory a.category
  let profileId ← selectedProfile t a.profileId
  pure
    { ip := none, deviceAlias := clip deviceAlias 50, notes := clip notes 250,
      category := category, favourite := a.favourite, profileId := profileId,
      modeOverride := modeOverride }

/-- `update_device`. -/
def updateDevice (env : Env) (a : DeviceArgs) : StoreProg Unit := do
  let d ← query fun t => deviceFields t a
  storeWrite env "devices" "Managed device policy updated" do
    let ip ← Body.ofPy (bindText env a.ip)
    let _ ← Body.execute fun t => .ok (upsertDevice { d with ip := ip }
      (fun _ => { d with ip := ip }) t)
    ensureManagedDeviceIdentity env (a.ip.text env.toPyRuntime) d.deviceAlias

/-- The loop of `bulk_update_devices`. -/
def bulkUpdate (env : Env) (profileId : Option RowId) (modeOverride : ModeOverride)
    (category : Option String) : List String → Body Tables Unit
  | [] => pure ()
  | ip::ips => do
    let current ← Body.read fun t =>
      .ok (Rows.row DevicePolicy.ip (some ip) t.devicePolicy)
    let row := current.getD { ip := some ip }
    let updated := { row with
      category := category.getD row.category, profileId := profileId,
      modeOverride := modeOverride }
    let _ ← Body.execute fun t => .ok (upsertDevice updated
      (fun d => { d with
        category := updated.category, profileId := profileId, modeOverride := modeOverride }) t)
    ensureManagedDeviceIdentity env ip row.deviceAlias
    bulkUpdate env profileId modeOverride category ips

/-- `bulk_update_devices`. -/
def bulkUpdateDevices (env : Env) (ips : List String) (profileId modeOverride category : PyVal) :
    StoreProg Unit := do
  let (profileId,modeOverride,category) ← query fun t => do
    refuse (ips=[]) "Select at least one device"
    let modeOverride ← validateModeOverride modeOverride
    let profileId ← selectedProfile t profileId
    let valid ← category.inTexts deviceCategories
    let category ← if valid then category.asText.map some else pure none
    pure (profileId,modeOverride,category)
  storeWrite env "devices" "Managed device policies bulk updated"
    (bulkUpdate env profileId modeOverride category ips)

/-- `copy_device_policy`. -/
def copyDevicePolicy (env : Env) (sourceIp targetIp : String) : StoreProg Unit := do
  let (source,targetAlias) ← query fun t =>
    match Rows.row DevicePolicy.ip (some sourceIp) t.devicePolicy with
    | none => .error (.valueError "Source device has no staged policy")
    | some source => .ok (source,
        ((Rows.row DevicePolicy.ip (some targetIp) t.devicePolicy).map
          DevicePolicy.deviceAlias).getD "")
  updateDevice env
    { ip := .str targetIp, deviceAlias := .str targetAlias, notes := .str source.notes,
      profileId := (source.profileId.map fun p => PyVal.int p.val).getD .none,
      modeOverride := .str source.modeOverride.text, category := .str source.category,
      favourite := source.favourite }

end Devices
section Specs
variable {env : Env} {s s' : Store}

lemma ensureManagedDeviceIdentity_runOn (env : Env) (ip deviceAlias : String) (t : Tables) :
    ∃ ids, (ensureManagedDeviceIdentity env ip deviceAlias).runOn t=
      (.ok (),{ t with identities := ids }) := by
  unfold ensureManagedDeviceIdentity
  simp only [Prog.bind_eq_bind,Prog.pure_eq_ret,Body.runOn_bind,Body.runOn_read]
  cases Rows.row DeviceIdentity.ip ip t.identities with
  | none => exact ⟨_,by simp only [Body.runOn_bind,Body.runOn_execute,Body.runOn_ret]; rfl⟩
  | some row =>
    by_cases h : row.currentName=managedIdentityName deviceAlias ip
    · exact ⟨t.identities,by simp only [h,if_true,Body.runOn_ret]⟩
    · exact ⟨_,by
        simp only [h,if_false,Body.runOn_bind,Body.runOn_execute,Body.runOn_ret]; rfl⟩

lemma closed_createProfile (env : Env) (a : ProfileArgs) : (createProfile env a).Closed := by
  unfold createProfile
  exact Prog.closed_bind (closed_query _) fun checked =>
    Prog.closed_bind (closed_storeWrite _ _ _ _) fun id => closed_query _

/-- What an accepted `create_profile` leaves and returns. -/
theorem createProfile_solo {a : ProfileArgs} {r : Option Profile} (hs : s.journal.Bounded)
    (h : (createProfile env a).solo s=(.ok r,s')) :
    ∃ name fields notes, checkedProfile env.toRuntime s.tables a=.ok (name,fields) ∧
      a.notes.stripped=.ok notes ∧ (¬s.tables.profiles.any fun p => p.name=name) ∧
      getProfile s'.tables (s.tables.profileSeq+1)=r ∧
      s'=⟨s.journal.advance (env.writeArgs "profiles" "Profile created") "",
        { s.tables with
          profiles := s.tables.profiles ++
            [{ toPolicyFields := { fields with notes := clip notes 250 },
               id := ⟨s.tables.profileSeq+1,by omega⟩, name := name }]
          profileSeq := s.tables.profileSeq+1 }⟩ := by
  unfold createProfile at h
  rw [Prog.bind_eq_bind,Prog.solo_bind (closed_query _),query_solo] at h
  cases hc : checkedProfile env.toRuntime s.tables a with
  | error e => rw [hc] at h; cases h
  | ok checked =>
    obtain ⟨name,fields⟩ := checked
    simp only [hc,Prog.bind_eq_bind,Prog.pure_eq_ret,
      Prog.solo_bind (closed_storeWrite _ _ _ _),storeWrite_solo _ _ _ _ hs,Body.runOn_bind,
      Body.runOn_ofPy] at h
    cases hn : a.notes.stripped with
    | error e => rw [hn] at h; cases h
    | ok notes =>
      simp only [hn,Body.runOn_execute,insertProfile] at h
      split_ifs at h with hdup
      · cases h
      · simp only [Body.runOn_ret,query_solo,Prod.mk.injEq] at h
        refine ⟨name,fields,notes,rfl,rfl,hdup,?_,h.2.symm⟩
        rw [← h.2]
        exact requestedProfile_ok h.1

lemma closed_updateDevice (env : Env) (a : DeviceArgs) : (updateDevice env a).Closed := by
  unfold updateDevice
  exact Prog.closed_bind (closed_query _) fun d => closed_storeWrite _ _ _ _

lemma closed_updateProfile (env : Env) (id : ℤ) (a : ProfileArgs) :
    (updateProfile env id a).Closed := by
  unfold updateProfile
  exact Prog.closed_bind (closed_query _) fun checked =>
    Prog.closed_bind (closed_storeWrite _ _ _ _) fun _ => closed_query _

lemma deviceFields_ok {t : Tables} {a : DeviceArgs} {d : DevicePolicy}
    (h : deviceFields t a=.ok d) :
    validateModeOverride a.modeOverride=.ok d.modeOverride ∧
      selectedProfile t a.profileId=.ok d.profileId := by
  obtain ⟨mode,hmode,h⟩ := bind_ok h
  obtain ⟨deviceAlias,-,h⟩ := bind_ok h
  obtain ⟨notes,-,h⟩ := bind_ok h
  obtain ⟨category,-,h⟩ := bind_ok h
  obtain ⟨profile,hprofile,h⟩ := bind_ok h
  obtain rfl := Except.ok.inj h
  exact ⟨hmode,hprofile⟩

lemma upsertDevice_row {t : Tables} {d : DevicePolicy} {ip : String} (hd : d.ip=some ip)
    (q : String) : devicePolicy (upsertDevice d (fun _ => d) t) q=
      if q=ip then some d else devicePolicy t q := by
  have hrow : ((Rows.row DevicePolicy.ip (some ip) t.devicePolicy).map fun _ => d).getD d=d := by
    cases Rows.row DevicePolicy.ip (some ip) t.devicePolicy <;> rfl
  change Rows.row DevicePolicy.ip (some q) (upsertDevice d (fun _ => d) t).devicePolicy=
    if q=ip then some d else Rows.row DevicePolicy.ip (some q) t.devicePolicy
  simp only [upsertDevice,hd,hrow,Rows.row_put,Option.some.injEq,eq_comm]

/-- What an accepted `update_device` leaves. -/
theorem updateDevice_solo {a : DeviceArgs} (hs : s.journal.Bounded)
    (h : (updateDevice env a).solo s=(.ok (),s')) :
    ∃ d ip ids, deviceFields s.tables a=.ok d ∧ bindText env a.ip=.ok ip ∧
      s'=⟨s.journal.advance (env.writeArgs "devices" "Managed device policy updated") "",
        { upsertDevice { d with ip := ip } (fun _ => { d with ip := ip }) s.tables with
          identities := ids }⟩ := by
  unfold updateDevice at h
  rw [Prog.bind_eq_bind,Prog.solo_bind (closed_query _),query_solo] at h
  cases hd : deviceFields s.tables a with
  | error e => rw [hd] at h; cases h
  | ok d =>
    simp only [hd,storeWrite_solo _ _ _ _ hs,Prog.bind_eq_bind,Body.runOn_bind,
      Body.runOn_ofPy] at h
    cases hip : bindText env a.ip with
    | error e => rw [hip] at h; cases h
    | ok ip =>
      obtain ⟨ids,hids⟩ := ensureManagedDeviceIdentity_runOn env (a.ip.text env.toPyRuntime)
        d.deviceAlias (upsertDevice { d with ip := ip } (fun _ => { d with ip := ip }) s.tables)
      simp only [hip,Body.runOn_execute,hids] at h
      exact ⟨d,ip,ids,rfl,rfl,(Prod.mk.inj h).2.symm⟩

/-- What an accepted `update_profile` leaves. -/
theorem updateProfile_solo {id : ℤ} {a : ProfileArgs} {r : Option Profile}
    (hs : s.journal.Bounded) (h : (updateProfile env id a).solo s=(.ok r,s')) :
    ∃ name fields notes p, checkedProfile env.toRuntime s.tables a=.ok (name,fields) ∧
      a.notes.stripped=.ok notes ∧ requestedProfile s.tables id=.ok (some p) ∧
      s'=⟨s.journal.advance (env.writeArgs "profiles" "Profile updated") "",
        { s.tables with
          profiles := Rows.amend (fun p : Profile => p.id.val) id
            (fun p => { p with
              toPolicyFields := { fields with notes := clip notes 250 }, name := name })
            s.tables.profiles }⟩ := by
  unfold updateProfile at h
  rw [Prog.bind_eq_bind,Prog.solo_bind (closed_query _),query_solo] at h
  cases hc : checkedProfile env.toRuntime s.tables a with
  | error e => rw [hc] at h; cases h
  | ok checked =>
    obtain ⟨name,fields⟩ := checked
    simp only [hc,Prog.bind_eq_bind,Prog.solo_bind (closed_storeWrite _ _ _ _),
      storeWrite_solo _ _ _ _ hs,Body.runOn_bind,Body.runOn_ofPy] at h
    cases hn : a.notes.stripped with
    | error e => rw [hn] at h; cases h
    | ok notes =>
      simp only [hn] at h
      cases hid : sqlInt id with
      | error e => rw [hid] at h; cases h
      | ok n =>
        obtain rfl : id=n := (sqlInt_ok hid).symm
        simp only [hid,Body.runOn_execute,renameProfile] at h
        cases hp : getProfile s.tables id with
        | none => rw [hp] at h; cases h
        | some p =>
          simp only [hp] at h
          split_ifs at h with hdup
          · cases h
          · simp only [query_solo,Prod.mk.injEq] at h
            exact ⟨name,fields,notes,p,rfl,rfl,by rw [requestedProfile,hid,← hp]; rfl,
              h.2.symm⟩

end Specs
end ZenControl
