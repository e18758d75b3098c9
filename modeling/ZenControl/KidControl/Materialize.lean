import ZenControl.KidControl.Translation
import ZenControl.Store.Profiles

/-! The local replacement of Kid Control: the staged profile with its schedules and devices,
and the way back. -/
namespace ZenControl.KidControl
open Calls

/-- A device of the staged payload. -/
structure StagedDevice where
  legacyName : String
  mac : String
  identityState : String
  ipv4 : String
  deviceAlias : String := ""
  profileName : String
  category : String := "other"

/-- A staged migration: its two fingerprints and its payload. -/
structure Staged where
  schema : String := "zen_kid_control_migration_v1"
  sourceFingerprint : String := ""
  payloadFingerprint : String := ""
  warnings : ℤ := 0
  profiles : List ProposedProfile
  devices : List StagedDevice

structure ProfileArtifact where
  id : RowId
  name : String
  created : Bool

structure ScheduleArtifact where
  id : ℤ
  profileId : RowId
  created : Bool

structure DeviceArtifact where
  ip : String
  mac : String
  name : String
  profileId : RowId
  previous : Option DevicePolicy
  previousIdentity : Option DeviceIdentity

/-- The ledger of what a materialisation changed. -/
structure Artifacts where
  sourceFingerprint : String := ""
  profiles : List ProfileArtifact := []
  schedules : List ScheduleArtifact := []
  devices : List DeviceArtifact := []

variable (env : Env)

section Rollback

/-- `except ValueError: pass`. -/
def ignoreValueError (p : StoreProg Unit) : StoreProg Unit :=
  p.rescue fun
    | .valueError _ => .ret ()
    | .configRevisionConflict _ _ => .ret ()
    | e => .raise e

/-- The device row of an artifact is restored, or it and a new identity are deleted. -/
def restoreDevice (item : DeviceArtifact) : StoreProg Unit :=
  let ip := strip item.ip
  if ip="" then .ret ()
  else match item.previous with
    | some previous =>
      updateDevice env
        { ip := .str ip, deviceAlias := .str previous.deviceAlias, notes := .str previous.notes,
          profileId := (previous.profileId.map fun id => PyVal.int id.val).getD .none,
          modeOverride := .str previous.modeOverride.text, category := .str previous.category,
          favourite := previous.favourite }
    | none =>
      Prog.withDb <|
        Prog.write (fun db : Store => .ok { db with tables := { db.tables with
          devicePolicy := Rows.drop DevicePolicy.ip (some ip) db.tables.devicePolicy } })
          fun _ =>
        if item.previousIdentity.isNone then
          Prog.write (fun db : Store => .ok { db with tables := { db.tables with
            identities := Rows.drop DeviceIdentity.ip ip db.tables.identities } })
            fun _ => .ret ()
        else .ret ()

def restoreDevices : List DeviceArtifact → StoreProg Unit
  | [] => .ret ()
  | item::items => do
    restoreDevice env item
    restoreDevices items

def deleteSchedules : List ScheduleArtifact → StoreProg Unit
  | [] => .ret ()
  | item::items => do
    if item.created then ignoreValueError (deleteSchedulePlan env item.id) else .ret ()
    deleteSchedules items

def deleteProfiles : List ProfileArtifact → StoreProg Unit
  | [] => .ret ()
  | item::items => do
    if item.created then ignoreValueError (deleteProfile env item.id.val) else .ret ()
    deleteProfiles items

/-- `rollback_kid_control_materialization`. -/
def rollbackKidControlMaterialization (artifacts : Artifacts) : StoreProg Unit := do
  restoreDevices env artifacts.devices.reverse
  deleteSchedules env artifacts.schedules.reverse
  deleteProfiles env artifacts.profiles.reverse

end Rollback

section Materialize

/-- A step of the `try` block: where it raises, what was done so far is rolled back. -/
def attempt {α : Type} (artifacts : Artifacts) (p : StoreProg α) : StoreProg α :=
  p.rescue fun e => do
    rollbackKidControlMaterialization env artifacts
    .raise e

/-- `_kid_control_profile_matches`. -/
def kidControlProfileMatches (existing : Profile) (proposed : ProposedProfile) : Bool :=
  strip existing.name=strip proposed.name &&
    existing.desiredMode=proposed.desiredMode &&
    env.lower existing.bandwidthPreset=env.lower proposed.bandwidthPreset &&
    existing.blockedServices.insertionSort (fun a b => ¬ b < a)=
      proposed.blockedServices.insertionSort (fun a b => ¬ b < a) &&
    existing.dailyQuotaMb=proposed.dailyQuotaMb &&
    existing.dailyQuotaAction=proposed.dailyQuotaAction &&
    existing.serviceQuotas.insertionSort (fun a b => ¬ b.1 < a.1)=
      proposed.serviceQuotas.insertionSort (fun a b => ¬ b.1 < a.1)

/-- The profile of a proposal, and whether it had to be created. -/
def findOrCreateProfile (existing : List (String × Profile)) (p : ProposedProfile) :
    StoreProg (Profile × Bool) := do
  let name := strip p.name
  if name="" then .raise (.valueError "Staged profile has no name")
  else match existing.lookup name with
    | some found =>
      if kidControlProfileMatches env found p then .ret (found,false)
      else .raise (.valueError
        s!"Existing ZEN profile '{name}' conflicts with staged Kid Control replacement")
    | none => do
      let created ← createProfile env
        { name := .str name, desiredMode := .str p.desiredMode.text,
          bandwidthPreset := .str p.bandwidthPreset, notes := .str p.notes,
          blockedServices := .list (p.blockedServices.map .str),
          dailyQuotaMb := .int p.dailyQuotaMb, dailyQuotaAction := .str p.dailyQuotaAction.text,
          serviceQuotas := .dict (p.serviceQuotas.map fun e => (e.1,.int e.2)) }
      match created with
      | some profile => .ret (profile,true)
      | none => .raise .typeError

/-- The plans that already say what an event says. -/
def matchingPlans (t : Tables) (profileId : RowId) (event : ScheduleEvent) :
    List SchedulePlan :=
  (listSchedulePlans t).filter fun plan =>
    plan.target=.profile (toString profileId.val) && plan.action=.mode event.mode &&
      plan.clockTime=strip event.time &&
      plan.days.all (fun d => d ∈ event.days) && event.days.all (fun d => d ∈ plan.days) &&
      plan.enabled

/-- The plan of an event, and whether it had to be created. -/
def findOrCreatePlan (profileId : RowId) (name : String) (event : ScheduleEvent) :
    StoreProg ScheduleArtifact := do
  match ← query fun t => .ok (matchingPlans t profileId event) with
  | [] => do
    let mode := upper event.mode.text
    let id ← createSchedulePlan env
      { label := .str s!"Kid Control migration · {name} · {mode}", targetType := .str "profile",
        targetValue := .str (toString profileId.val), actionType := .str "mode",
        actionValue := .str event.mode.text, clockTime := .str (strip event.time),
        days := .list (event.days.map fun d => .str d.text) }
    .ret { id := id, profileId := profileId, created := true }
  | [plan] => .ret { id := plan.id, profileId := profileId, created := false }
  | _ => .raise (.valueError
      s!"Multiple equivalent ZEN schedules already exist for profile '{name}'")

def materializeSchedule (profileId : RowId) (name : String) :
    List ScheduleEvent → Artifacts → StoreProg Artifacts
  | [],artifacts => .ret artifacts
  | event::events,artifacts => do
    let made ← attempt env artifacts (findOrCreatePlan env profileId name event)
    materializeSchedule profileId name events
      { artifacts with schedules := artifacts.schedules ++ [made] }

/-- The loop over the staged profiles; it also collects the ids by name. -/
def materializeProfiles : List ProposedProfile → List (String × Profile) →
    List (String × RowId) → Artifacts → StoreProg (List (String × RowId) × Artifacts)
  | [],_,ids,artifacts => .ret (ids,artifacts)
  | p::ps,existing,ids,artifacts => do
    let name := strip p.name
    let (profile,created) ← attempt env artifacts (findOrCreateProfile env existing p)
    let artifacts ← materializeSchedule env profile.id name p.schedule
      { artifacts with
        profiles := artifacts.profiles ++ [{ id := profile.id, name := name, created := created }] }
    materializeProfiles ps (dictSet existing name profile) (dictSet ids name profile.id) artifacts

/-- The checks and the write of one staged device. -/
def assignDevice (current : List DevicePolicy) (ids : List (String × RowId))
    (item : StagedDevice) : StoreProg DeviceArtifact := do
  let called := orElse item.legacyName item.mac
  if env.lower item.identityState≠"matched" then
    .raise (.valueError s!"Device '{called}' is not uniquely matched")
  else
    let ip := strip item.ipv4
    match if ip="" then none else ids.lookup (strip item.profileName) with
    | none => .raise (.valueError s!"Device '{called}' has unresolved cutover identity")
    | some target => do
      let previous := Rows.row DevicePolicy.ip (some ip) current
      let identity ← query fun t => .ok (Rows.row DeviceIdentity.ip ip t.identities)
      if (previous.bind DevicePolicy.profileId).any fun id => id≠target then
        .raise (.valueError
          s!"Existing ZEN device policy for {ip} is assigned to a different profile")
      else if previous.any fun d => d.modeOverride≠.inherit then
        .raise (.valueError
          s!"Existing ZEN device policy for {ip} has a mode override; clear it before cutover")
      else do
        let old (f : DevicePolicy → String) : String := (previous.map f).getD ""
        updateDevice env
          { ip := .str ip,
            deviceAlias := .str (orElse (old DevicePolicy.deviceAlias)
              (orElse item.deviceAlias item.legacyName)),
            notes := .str (orElse (old DevicePolicy.notes) "Migrated from MikroTik Kid Control"),
            profileId := .int target.val, modeOverride := .str "inherit",
            category := .str (orElse (old DevicePolicy.category) (orElse item.category "other")),
            favourite := (previous.map DevicePolicy.favourite).getD false }
        .ret
          { ip := ip, mac := item.mac, name := item.legacyName, profileId := target,
            previous := previous, previousIdentity := identity }

def materializeDevices (current : List DevicePolicy) (ids : List (String × RowId)) :
    List StagedDevice → Artifacts → StoreProg Artifacts
  | [],artifacts => .ret artifacts
  | item::items,artifacts => do
    let made ← attempt env artifacts (assignDevice env current ids item)
    materializeDevices current ids items { artifacts with devices := artifacts.devices ++ [made] }

/-- The fingerprint of a staged migration. -/
def Staged.fingerprint (staged : Staged) : String :=
  env.lower (strip (orElse staged.sourceFingerprint staged.payloadFingerprint))

/-- `materialize_kid_control_replacement`. -/
def materializeKidControlReplacement (staged : Staged) : StoreProg Artifacts := do
  ofPy do
    refuse (staged.schema≠"zen_kid_control_migration_v1")
      "Unsupported staged Kid Control migration payload"
    refuse (staged.fingerprint env≠env.lower (strip staged.payloadFingerprint))
      "Staged Kid Control fingerprint is inconsistent"
    refuse (staged.warnings≠0) "Staged Kid Control migration still contains review warnings"
  let artifacts : Artifacts := { sourceFingerprint := staged.fingerprint env }
  let existing ← query fun t =>
    .ok ((orderBy (fun p : Profile => nocase p.name) t.profiles).map fun p => (p.name,p))
  let (ids,artifacts) ← materializeProfiles env staged.profiles existing [] artifacts
  let current ← query fun t => .ok t.devicePolicy
  materializeDevices env current ids staged.devices artifacts

end Materialize
section Closed
variable (env : Env)

lemma closed_ignoreValueError {p : StoreProg Unit} (hp : p.Closed) :
    (ignoreValueError p).Closed := by
  refine Prog.closed_rescue hp fun e => ?_
  cases e <;> first | exact Prog.closed_ret _ | exact Prog.closed_raise _

lemma closed_restoreDevices (items : List DeviceArtifact) : (restoreDevices env items).Closed := by
  induction items with
  | nil => exact Prog.closed_ret _
  | cons item items ih =>
    refine Prog.closed_bind ?_ fun _ => ih
    unfold restoreDevice
    refine Prog.closed_ite (Prog.closed_ret _) ?_
    cases item.previous with
    | some previous => exact closed_updateDevice _ _
    | none =>
      refine Prog.closed_withDb (Prog.Plain.write fun _ => ?_)
      exact Prog.Plain.ite (Prog.Plain.write fun _ => trivial) trivial

lemma closed_deleteSchedules (items : List ScheduleArtifact) :
    (deleteSchedules env items).Closed := by
  induction items with
  | nil => exact Prog.closed_ret _
  | cons item items ih =>
    unfold deleteSchedules
    split_ifs
    · exact Prog.closed_bind (closed_ignoreValueError (closed_storeWrite _ _ _ _)) fun _ => ih
    · exact ih

lemma closed_deleteProfiles (items : List ProfileArtifact) :
    (deleteProfiles env items).Closed := by
  induction items with
  | nil => exact Prog.closed_ret _
  | cons item items ih =>
    unfold deleteProfiles
    split_ifs
    · exact Prog.closed_bind (closed_ignoreValueError (closed_storeWrite _ _ _ _)) fun _ => ih
    · exact ih

lemma closed_rollback (artifacts : Artifacts) :
    (rollbackKidControlMaterialization env artifacts).Closed :=
  Prog.closed_bind (closed_restoreDevices env _) fun _ =>
    Prog.closed_bind (closed_deleteSchedules env _) fun _ => closed_deleteProfiles env _

variable {env} {α : Type} {s s' : Store}

lemma closed_attempt {artifacts : Artifacts} {p : StoreProg α} (hp : p.Closed) :
    (attempt env artifacts p).Closed :=
  Prog.closed_rescue hp fun _ =>
    Prog.closed_bind (closed_rollback env artifacts) fun _ => Prog.closed_raise _

/-- A step that got through did not need its handler. -/
lemma attempt_solo {artifacts : Artifacts} {p : StoreProg α} (hp : p.Closed) {a : α}
    (h : (attempt env artifacts p).solo s=(.ok a,s')) : p.solo s=(.ok a,s') := by
  rw [attempt,Prog.solo_rescue hp] at h
  rcases hps : p.solo s with ⟨e | b,t⟩
  · rw [hps] at h
    dsimp only at h
    rw [Prog.bind_eq_bind,Prog.solo_bind (closed_rollback env artifacts)] at h
    rcases hr : (rollbackKidControlMaterialization env artifacts).solo t with ⟨_ | _,_⟩ <;>
      rw [hr] at h <;> cases h
  · rw [hps] at h
    exact h

end Closed

section Success
variable {env : Env} {s s' : Store} {pid : RowId} {name : String}

lemma lower_word (rt : PyRuntime) {word : String}
    (h : word.toList.all (fun c => c.toNat < 128)=true ∧ nocase word=word) :
    rt.lower word=word := by
  rw [rt.lower_ascii word (by simpa using h.1),h.2]

/-- The plans that a materialised profile leaves: enabled modes of the profile at clock times. -/
def KidPlan (pid : RowId) (plan : SchedulePlan) : Prop :=
  plan.enabled=true ∧ plan.target=.profile (toString pid.val) ∧
    (∃ mode, plan.action=.mode mode) ∧ ∃ t, plan.clockTime=clockText t

/-- Some plan sets the mode at the time of a day. -/
def PlanSays (plans : List SchedulePlan) (t : ClockTime) (mode : Mode) (d : Weekday) : Prop :=
  ∃ plan ∈ plans, plan.clockTime=clockText t ∧ plan.action=.mode mode ∧ d ∈ plan.days

lemma foldl_cleanDays (f : List Weekday → String → List Weekday)
    (hf : ∀ (acc : List Weekday) (day : Weekday),
      f acc day.text=if day ∈ acc then acc else acc ++ [day])
    (ds acc : List Weekday) (d : Weekday) :
    d ∈ (ds.map Weekday.text).foldl f acc ↔ d ∈ acc ∨ d ∈ ds := by
  induction ds generalizing acc with
  | nil => simp
  | cons day ds ih =>
    rw [List.map_cons,List.foldl_cons,ih,hf]
    split_ifs with hmem
    · constructor
      · rintro (h | h)
        · exact .inl h
        · exact .inr (List.mem_cons_of_mem _ h)
      · rintro (h | h)
        · exact .inl h
        · rcases List.mem_cons.mp h with rfl | h
          · exact .inl hmem
          · exact .inr h
    · simp only [List.mem_append,List.mem_cons,List.not_mem_nil,or_false]
      tauto

lemma mem_cleanDays (ds : List Weekday) (d : Weekday) :
    d ∈ cleanDays (ds.map Weekday.text) ↔ d ∈ ds := by
  unfold cleanDays
  rw [foldl_cleanDays _ (fun acc day => by simp) ds [] d]
  simp

lemma day_text_clean (rt : PyRuntime) (d : Weekday) : strip (rt.lower d.text)=d.text := by
  rw [lower_word rt (by cases d <;> decide)]
  cases d <;> decide

/-- The texts of the days come back as they were given. -/
lemma event_texts {ds : List Weekday} {texts : List PyVal}
    (h : (PyVal.or (.list (ds.map fun d => .str d.text)) (.list [])).iterate=.ok texts) :
    texts=ds.map fun d => .str d.text := by
  cases ds with
  | nil => exact (Except.ok.inj h).symm
  | cons d ds => exact (Except.ok.inj h).symm

lemma orEmpty_str (env : Env) (text : String) : env.orEmpty (.str text)=text := by
  by_cases h : text="" <;> simp [Env.orEmpty,PyVal.textOr,PyVal.or,PyVal.truthy,PyVal.text,h]

lemma canonical_word (env : Env) {word : String}
    (h : word.toList.all (fun c => c.toNat < 128)=true ∧ nocase word=word)
    (hs : strip word=word) : env.canonical (.str word)=word := by
  rw [Env.canonical,orEmpty_str,hs,lower_word _ h]

/-- The only profile is the only target that the writer accepts. -/
lemma validateScheduleTarget_profile {tables : Tables} {value : PyVal} {target : Target}
    (hp : ∀ p ∈ tables.profiles, p.id=pid)
    (h : validateScheduleTarget env tables (.str "profile") value=.ok target) :
    target=.profile (toString pid.val) := by
  unfold validateScheduleTarget at h
  simp only [canonical_word env (show _ ∧ nocase "profile"="profile" by decide) (by decide)] at h
  cases hid : pyInt (strip (env.orEmpty value)) with
  | none => rw [hid] at h; cases h
  | some id =>
    simp only [hid] at h
    obtain ⟨found,hfound,h⟩ := bind_ok h
    cases found with
    | none => cases h
    | some p =>
      obtain rfl := Except.ok.inj h
      have hrow := requestedProfile_ok hfound
      have hid : p.id.val=id := by simpa using List.find?_some hrow
      rw [← hid,hp p (List.mem_of_find?_eq_some hrow)]

lemma scheduleAction_mode {tables : Tables} {mode : Mode} {action : PlanAction}
    (h : scheduleAction env tables true (.str mode.text)=.ok action) : action=.mode mode := by
  have hword : env.lower (strip mode.text)=mode.text := by
    have hs : strip mode.text=mode.text := by cases mode <;> decide
    rw [hs,lower_word _ (by cases mode <;> decide)]
  simp only [scheduleAction,if_true,PyVal.text,hword,validateMode,oneOf,Mode.ofText_text] at h
  exact (Except.ok.inj h).symm

/-- What the writer makes of an event. -/
lemma normalize_event {event : ScheduleEvent} {t : ClockTime} {plan : SchedulePlan}
    {label : String} {tables : Tables} (hp : ∀ p ∈ tables.profiles, p.id=pid)
    (htime : event.time=clockText t)
    (h : normalizeSchedulePlanFields env tables
      { label := .str label, targetType := .str "profile",
        targetValue := .str (toString pid.val), actionType := .str "mode",
        actionValue := .str event.mode.text, clockTime := .str (strip event.time),
        days := .list (event.days.map fun d => .str d.text) }=.ok plan) :
    KidPlan pid plan ∧ plan.clockTime=clockText t ∧ plan.action=.mode event.mode ∧
      ∀ d, d ∈ plan.days ↔ d ∈ event.days := by
  unfold normalizeSchedulePlanFields at h
  obtain ⟨target,htarget,h⟩ := bind_ok h
  obtain ⟨_,-,h⟩ := bind_ok h
  obtain ⟨_,-,h⟩ := bind_ok h
  obtain ⟨texts,htexts,h⟩ := bind_ok h
  obtain ⟨_,hdays,h⟩ := bind_ok h
  obtain ⟨_,-,h⟩ := bind_ok h
  obtain ⟨action,haction,h⟩ := bind_ok h
  obtain rfl := Except.ok.inj h
  rw [canonical_word env (by decide) (by decide)] at haction
  obtain rfl := validateScheduleTarget_profile hp htarget
  obtain rfl := scheduleAction_mode haction
  have hclock : strip (env.orEmpty (.str (strip event.time)))=clockText t := by
    rw [orEmpty_str,htime,clockText_strip,clockText_strip]
  obtain rfl := event_texts htexts
  refine ⟨⟨rfl,rfl,⟨_,rfl⟩,t,hclock⟩,hclock,rfl,fun d => ?_⟩
  have htext : (event.days.map fun d => PyVal.str d.text).map
      (fun d => strip (env.lower (d.text env.toPyRuntime)))=event.days.map Weekday.text := by
    rw [List.map_map]
    exact List.map_congr_left fun d _ => day_text_clean env.toPyRuntime d
  simp only [htext,mem_cleanDays]

/-- The store beside the schedule plans is as it was, and every plan is one of the profile. -/
structure Planned (pid : RowId) (t : Tables) (s : Store) : Prop where
  bounded : s.journal.Bounded
  rest : ∃ plans seq, s.tables={ t with schedulePlans := plans, schedulePlanSeq := seq }
  plans : ∀ plan ∈ s.tables.schedulePlans, KidPlan pid plan

lemma Planned.profiles {t : Tables} (h : Planned pid t s) : s.tables.profiles=t.profiles := by
  obtain ⟨plans,seq,htables⟩ := h.rest
  rw [htables]

lemma mem_listSchedulePlans {t : Tables} {plan : SchedulePlan} :
    plan ∈ listSchedulePlans t ↔ plan ∈ t.schedulePlans := List.mem_insertionSort _

lemma planSays_append (plans plans' : List SchedulePlan) (t : ClockTime) (mode : Mode)
    (d : Weekday) : PlanSays (plans ++ plans') t mode d ↔
      PlanSays plans t mode d ∨ PlanSays plans' t mode d := by
  simp only [PlanSays,List.mem_append,or_and_right,exists_or]

/-- A plan that says what the event says. -/
lemma matchingPlans_sets {t : Tables} {event : ScheduleEvent} {plan : SchedulePlan}
    (h : plan ∈ matchingPlans t pid event) :
    plan ∈ t.schedulePlans ∧ plan.clockTime=strip event.time ∧ plan.action=.mode event.mode ∧
      ∀ d, d ∈ plan.days ↔ d ∈ event.days := by
  obtain ⟨hmem,hsets⟩ := List.mem_filter.mp h
  simp only [Bool.and_eq_true,decide_eq_true_eq,List.all_eq_true] at hsets
  obtain ⟨⟨⟨⟨⟨-,haction⟩,hclock⟩,hsub⟩,hsup⟩,-⟩ := hsets
  exact ⟨mem_listSchedulePlans.mp hmem,hclock,haction,fun d => ⟨hsub d,hsup d⟩⟩

lemma closed_findOrCreatePlan (env : Env) (pid : RowId) (name : String) (event : ScheduleEvent) :
    (findOrCreatePlan env pid name event).Closed := by
  unfold findOrCreatePlan
  refine Prog.closed_bind (closed_query _) fun found => ?_
  rcases found with _ | ⟨plan,_ | ⟨_,_⟩⟩
  · exact Prog.closed_bind (closed_createSchedulePlan _ _) fun _ => Prog.closed_ret _
  · exact Prog.closed_ret _
  · exact Prog.closed_raise _

/-- After the step for an event the plans say what they said, and what the event says. -/
lemma findOrCreatePlan_solo {t : Tables} {event : ScheduleEvent} {clock : ClockTime}
    {made : ScheduleArtifact} (hp : ∀ p ∈ t.profiles, p.id=pid) (hs : Planned pid t s)
    (htime : event.time=clockText clock)
    (h : (findOrCreatePlan env pid name event).solo s=(.ok made,s')) :
    Planned pid t s' ∧ ∀ time mode d, PlanSays s'.tables.schedulePlans time mode d ↔
      PlanSays s.tables.schedulePlans time mode d ∨ Says [event] time mode d := by
  rw [findOrCreatePlan,Prog.bind_eq_bind,Prog.solo_bind (closed_query _),query_solo] at h
  rcases hfound : matchingPlans s.tables pid event with _ | ⟨plan,_ | ⟨_,_⟩⟩
  · rw [hfound] at h
    simp only [Prog.bind_eq_bind,Prog.solo_bind (closed_createSchedulePlan _ _)] at h
    rcases hc : (createSchedulePlan env _).solo s with ⟨e | id,s1⟩
    · rw [hc] at h
      cases h
    rw [hc] at h
    obtain rfl : s1=s' := (Prod.mk.inj h).2
    obtain ⟨plan,hplan,rfl⟩ := createSchedulePlan_solo hs.bounded hc
    obtain ⟨hkid,hclock,haction,hdays⟩ := normalize_event (hs.profiles ▸ hp) htime hplan
    obtain ⟨plans,seq,htables⟩ := hs.rest
    refine ⟨⟨hs.bounded.advance _ _,⟨_,_,by rw [insertSchedulePlan,htables]⟩,?_⟩,?_⟩
    · intro q hq
      rcases List.mem_append.mp hq with hq | hq
      · exact hs.plans q hq
      · rw [List.mem_singleton.mp hq]
        exact hkid
    · intro time mode d
      have hlast : PlanSays [{ plan with id := s.tables.schedulePlanSeq+1 }] time mode d ↔
          Says [event] time mode d := by
        simp only [PlanSays,Says,List.mem_singleton,exists_eq_left,hclock,haction,hdays,htime,
          PlanAction.mode.injEq]
      rw [insertSchedulePlan,planSays_append,hlast]
  · rw [hfound] at h
    obtain rfl : s=s' := (Prod.mk.inj h).2
    refine ⟨hs,fun time mode d => ⟨.inl,?_⟩⟩
    rintro (hsets | ⟨e,he,hetime,rfl,hd⟩)
    · exact hsets
    · obtain rfl := List.mem_singleton.mp he
      obtain ⟨hmem,hclock,haction,hdays⟩ :=
        matchingPlans_sets (hfound ▸ List.mem_singleton_self plan)
      refine ⟨plan,hmem,?_,haction,(hdays d).mpr hd⟩
      rw [hclock,hetime,clockText_strip]
  · rw [hfound] at h
    cases h

lemma sets_cons (event : ScheduleEvent) (events : List ScheduleEvent) (t : ClockTime)
    (mode : Mode) (d : Weekday) :
    Says (event::events) t mode d ↔ Says [event] t mode d ∨ Says events t mode d := by
  simp [Says]

lemma closed_materializeSchedule (env : Env) (pid : RowId) (name : String)
    (events : List ScheduleEvent) (artifacts : Artifacts) :
    (materializeSchedule env pid name events artifacts).Closed := by
  induction events generalizing artifacts with
  | nil => exact Prog.closed_ret _
  | cons event events ih =>
    exact Prog.closed_bind (closed_attempt (closed_findOrCreatePlan env pid name event))
      fun made => ih _

/-- After the events of a schedule the plans say what they said, and what the schedule says. -/
theorem materializeSchedule_solo {t : Tables} {events : List ScheduleEvent}
    {artifacts result : Artifacts} (hp : ∀ p ∈ t.profiles, p.id=pid) (hs : Planned pid t s)
    (htime : ∀ event ∈ events, ∃ clock, event.time=clockText clock)
    (h : (materializeSchedule env pid name events artifacts).solo s=(.ok result,s')) :
    Planned pid t s' ∧ ∀ time mode d, PlanSays s'.tables.schedulePlans time mode d ↔
      PlanSays s.tables.schedulePlans time mode d ∨ Says events time mode d := by
  induction events generalizing artifacts s with
  | nil =>
    obtain rfl : s=s' := (Prod.mk.inj h).2
    exact ⟨hs,by simp [Says]⟩
  | cons event events ih =>
    have hclosed := closed_findOrCreatePlan env pid name event
    rw [materializeSchedule,Prog.bind_eq_bind,Prog.solo_bind (closed_attempt hclosed)] at h
    rcases hmade : (attempt env artifacts (findOrCreatePlan env pid name event)).solo s
      with ⟨e | made,s1⟩
    · rw [hmade] at h
      cases h
    rw [hmade] at h
    obtain ⟨clock,hclock⟩ := htime event List.mem_cons_self
    obtain ⟨hs1,hsets1⟩ := findOrCreatePlan_solo hp hs hclock (attempt_solo hclosed hmade)
    obtain ⟨hs',hsets⟩ := ih hs1 (fun e he => htime e (List.mem_cons_of_mem _ he)) h
    refine ⟨hs',fun time mode d => ?_⟩
    rw [hsets,hsets1,sets_cons event events,or_assoc]

end Success

section Profile
variable {env : Env} {s s' : Store}

/-- The profile that a translated proposal becomes. -/
structure Translated (presets : List BandwidthPreset) (fields : PolicyFields) : Prop where
  desiredMode : fields.desiredMode=.blocked
  preset : ∃ p ∈ presets, p.key=fields.bandwidthPreset
  dailyQuotaMb : fields.dailyQuotaMb=0
  serviceQuotas : fields.serviceQuotas=[]

lemma checkedProfile_proposal {rt : Runtime} {t : Tables} {p : ProposedProfile}
    {name clean : String} {fields : PolicyFields} (hmode : p.desiredMode=.blocked)
    (hdaily : p.dailyQuotaMb=0) (hservices : p.serviceQuotas=[])
    (h : checkedProfile rt t
      { name := .str name, desiredMode := .str p.desiredMode.text,
        bandwidthPreset := .str p.bandwidthPreset, notes := .str p.notes,
        blockedServices := .list (p.blockedServices.map .str),
        dailyQuotaMb := .int p.dailyQuotaMb, dailyQuotaAction := .str p.dailyQuotaAction.text,
        serviceQuotas := .dict (p.serviceQuotas.map fun e => (e.1,.int e.2)) }=
          .ok (clean,fields)) : Translated t.bandwidthPresets fields := by
  rw [hmode,hdaily,hservices] at h
  obtain ⟨_,-,h⟩ := bind_ok h
  obtain ⟨checked,hchecked,h⟩ := bind_ok h
  obtain ⟨-,rfl⟩ := Prod.mk.inj (Except.ok.inj h)
  obtain ⟨_,-,h⟩ := bind_ok hchecked
  obtain ⟨mode,hm,h⟩ := bind_ok h
  obtain ⟨preset,hpreset,h⟩ := bind_ok h
  obtain ⟨_,-,h⟩ := bind_ok h
  obtain ⟨daily,hd,h⟩ := bind_ok h
  obtain ⟨_,-,h⟩ := bind_ok h
  obtain ⟨services,hs,h⟩ := bind_ok h
  obtain rfl := Except.ok.inj h
  obtain rfl : Mode.blocked=mode := Except.ok.inj hm
  obtain rfl : (0 : ℤ)=daily := Except.ok.inj hd
  obtain rfl : []=services := Except.ok.inj hs
  exact ⟨rfl,validatePreset_ok hpreset,rfl,rfl⟩

lemma closed_findOrCreateProfile (env : Env) (existing : List (String × Profile))
    (p : ProposedProfile) : (findOrCreateProfile env existing p).Closed := by
  unfold findOrCreateProfile
  dsimp only
  split_ifs
  · exact Prog.closed_raise _
  · cases existing.lookup (strip p.name) with
    | some found =>
      dsimp only
      split_ifs
      · exact Prog.closed_ret _
      · exact Prog.closed_raise _
    | none =>
      refine Prog.closed_bind (closed_createProfile _ _) fun created => ?_
      cases created with
      | none => exact Prog.closed_raise _
      | some profile => exact Prog.closed_ret _

/-- A proposal that no profile has the name of becomes the only profile of the store. -/
lemma findOrCreateProfile_solo {p : ProposedProfile} {result : Profile × Bool}
    (hmode : p.desiredMode=.blocked) (hdaily : p.dailyQuotaMb=0) (hservices : p.serviceQuotas=[])
    (hs : s.journal.Bounded) (hempty : s.tables.profiles=[])
    (h : (findOrCreateProfile env [] p).solo s=(.ok result,s')) :
    s'.journal.Bounded ∧ Translated s.tables.bandwidthPresets result.1.toPolicyFields ∧
      ∃ seq, s'.tables={ s.tables with profiles := [result.1], profileSeq := seq } := by
  unfold findOrCreateProfile at h
  dsimp only at h
  split_ifs at h
  · cases h
  simp only [List.lookup_nil,Prog.bind_eq_bind,Prog.solo_bind (closed_createProfile _ _)] at h
  rcases hc : (createProfile env _).solo s with ⟨e | created,s1⟩
  · rw [hc] at h
    cases h
  rw [hc] at h
  obtain ⟨name,fields,notes,hchecked,-,-,hget,rfl⟩ := createProfile_solo hs hc
  cases created with
  | none => cases h
  | some profile =>
    obtain ⟨hresult,rfl⟩ := Prod.mk.inj h
    obtain rfl := Except.ok.inj hresult
    simp only [hempty,List.nil_append,getProfile,List.find?_singleton,decide_true,if_true] at hget
    obtain rfl := Option.some.inj hget
    obtain ⟨h1,h2,h3,h4⟩ := checkedProfile_proposal hmode hdaily hservices hchecked
    exact ⟨hs.advance _ _,⟨h1,h2,h3,h4⟩,_,by rw [hempty]; rfl⟩

/-- What a proposal has become: the only profile, with plans that say what its schedule says. -/
structure Replaced (p : ProposedProfile) (profile : Profile) (old t : Tables) : Prop where
  profiles : t.profiles=[profile]
  translated : Translated t.bandwidthPresets profile.toPolicyFields
  dateExceptions : t.dateExceptions=old.dateExceptions
  appSettings : t.appSettings=old.appSettings
  plans : ∀ plan ∈ t.schedulePlans, KidPlan profile.id plan
  events : ∀ time mode d, PlanSays t.schedulePlans time mode d ↔ Says p.schedule time mode d

lemma materializeProfiles_solo {p : ProposedProfile} {artifacts : Artifacts}
    {result : List (String × RowId) × Artifacts}
    (hmode : p.desiredMode=.blocked) (hdaily : p.dailyQuotaMb=0) (hservices : p.serviceQuotas=[])
    (htime : ∀ event ∈ p.schedule, ∃ clock, event.time=clockText clock)
    (hs : s.journal.Bounded) (hprofiles : s.tables.profiles=[])
    (hplans : s.tables.schedulePlans=[])
    (h : (materializeProfiles env [p] [] [] artifacts).solo s=(.ok result,s')) :
    ∃ profile, s'.journal.Bounded ∧ Replaced p profile s.tables s'.tables ∧
      result.1=[(strip p.name,profile.id)] ∧
      s'.tables.devicePolicy=s.tables.devicePolicy := by
  have hclosed := closed_findOrCreateProfile env [] p
  rw [materializeProfiles,Prog.bind_eq_bind,Prog.solo_bind (closed_attempt hclosed)] at h
  rcases hmade : (attempt env artifacts (findOrCreateProfile env [] p)).solo s
    with ⟨e | ⟨profile,created⟩,s1⟩
  · rw [hmade] at h
    cases h
  rw [hmade] at h
  obtain ⟨hs1,htranslated,seq,htables⟩ :=
    findOrCreateProfile_solo hmode hdaily hservices hs hprofiles (attempt_solo hclosed hmade)
  dsimp only at h htables htranslated
  rw [Prog.bind_eq_bind,Prog.solo_bind (closed_materializeSchedule _ _ _ _ _)] at h
  rcases hsched : (materializeSchedule env profile.id (strip p.name) p.schedule _).solo s1
    with ⟨e | artifacts',s2⟩
  · rw [hsched] at h
    cases h
  rw [hsched] at h
  obtain ⟨hresult,hs'⟩ := Prod.mk.inj h
  obtain rfl := Except.ok.inj hresult
  obtain rfl : s2=s' := hs'
  have hone : ∀ q ∈ s1.tables.profiles, q.id=profile.id := by simp [htables]
  obtain ⟨⟨hs2,⟨plans,n,hrest⟩,hkid⟩,hsets⟩ := materializeSchedule_solo hone
    ⟨hs1,⟨_,_,rfl⟩,by simp [htables,hplans]⟩ htime hsched
  refine ⟨profile,hs2,⟨?_,?_,?_,?_,hkid,fun time mode d => ?_⟩,rfl,?_⟩
  · rw [hrest,htables]
  · rw [hrest,htables]
    exact htranslated
  · rw [hrest,htables]
  · rw [hrest,htables]
  · rw [hsets,htables,hplans]
    simp [PlanSays]
  · rw [hrest,htables]

end Profile

section Devices
variable {env : Env} {s s' : Store} {pid : RowId}

/-- The device follows the profile. -/
def Assigned (pid : RowId) (t : Tables) (ip : String) : Prop :=
  ∃ d, devicePolicy t ip=some d ∧ d.profileId=some pid ∧ d.modeOverride=.inherit

lemma closed_assignDevice (env : Env) (current : List DevicePolicy) (ids : List (String × RowId))
    (item : StagedDevice) : (assignDevice env current ids item).Closed := by
  unfold assignDevice
  dsimp only
  refine Prog.closed_ite (Prog.closed_raise _) ?_
  split
  · exact Prog.closed_raise _
  · refine Prog.closed_bind (closed_query _) fun identity => ?_
    refine Prog.closed_ite (Prog.closed_raise _) (Prog.closed_ite (Prog.closed_raise _) ?_)
    exact Prog.closed_bind (closed_updateDevice _ _) fun _ => Prog.closed_ret _

/-- A device that got through follows the profile of its name; the others are kept. -/
lemma assignDevice_solo {current : List DevicePolicy} {ids : List (String × RowId)}
    {item : StagedDevice} {made : DeviceArtifact} (hids : ∀ name id, ids.lookup name=some id → id=pid)
    (hs : s.journal.Bounded)
    (h : (assignDevice env current ids item).solo s=(.ok made,s')) :
    s'.journal.Bounded ∧
      (∃ D I, s'.tables={ s.tables with devicePolicy := D, identities := I }) ∧
      Assigned pid s'.tables (strip item.ipv4) ∧
      ∀ ip, Assigned pid s.tables ip → Assigned pid s'.tables ip := by
  unfold assignDevice at h
  dsimp only at h
  by_cases hmatched : env.lower item.identityState≠"matched"
  · rw [if_pos hmatched] at h
    cases h
  rw [if_neg hmatched] at h
  rcases htarget : (if strip item.ipv4="" then none else ids.lookup (strip item.profileName))
    with _ | target
  · rw [htarget] at h
    cases h
  have hpid : target=pid := by
    split_ifs at htarget
    exact hids _ _ htarget
  simp only [htarget,hpid,Prog.bind_eq_bind,Prog.solo_bind (closed_query _),query_solo] at h
  split_ifs at h
  · cases h
  · cases h
  simp only [Prog.solo_bind (closed_updateDevice _ _)] at h
  rcases hu : (updateDevice env _).solo s with ⟨e | u,s1⟩
  · rw [hu] at h
    cases h
  rw [hu] at h
  obtain rfl : s1=s' := (Prod.mk.inj h).2
  obtain ⟨d,ip,I,hd,hip,rfl⟩ := updateDevice_solo hs hu
  obtain rfl : some (strip item.ipv4)=ip := Except.ok.inj hip
  obtain ⟨hmode,hprofile⟩ := deviceFields_ok hd
  have hstored : selectedProfile s.tables
      (((some pid).map fun id => PyVal.int id.val).getD .none)=.ok d.profileId := hprofile
  have hrow (q : String) := upsertDevice_row (t := s.tables)
    (d := { d with ip := some (strip item.ipv4) }) rfl q
  have hfollows : Assigned pid (upsertDevice { d with ip := some (strip item.ipv4) }
      (fun _ => { d with ip := some (strip item.ipv4) }) s.tables) (strip item.ipv4) :=
    ⟨_,(hrow _).trans (if_pos rfl),selectedProfile_stored hstored,(Except.ok.inj hmode).symm⟩
  refine ⟨hs.advance _ _,⟨_,_,rfl⟩,hfollows,?_⟩
  rintro ip ⟨old,hold,hassigned⟩
  by_cases hip : ip=strip item.ipv4
  · rw [hip]
    exact hfollows
  · exact ⟨old,(hrow ip).trans ((if_neg hip).trans hold),hassigned⟩

lemma materializeDevices_solo {current : List DevicePolicy} {ids : List (String × RowId)}
    {items : List StagedDevice} {artifacts result : Artifacts}
    (hids : ∀ name id, ids.lookup name=some id → id=pid) (hs : s.journal.Bounded)
    (h : (materializeDevices env current ids items artifacts).solo s=(.ok result,s')) :
    (∃ D I, s'.tables={ s.tables with devicePolicy := D, identities := I }) ∧
      (∀ item ∈ items, Assigned pid s'.tables (strip item.ipv4)) ∧
      ∀ ip, Assigned pid s.tables ip → Assigned pid s'.tables ip := by
  induction items generalizing artifacts s with
  | nil =>
    obtain rfl : s=s' := (Prod.mk.inj h).2
    exact ⟨⟨_,_,rfl⟩,by simp,fun _ ha => ha⟩
  | cons item items ih =>
    have hclosed := closed_assignDevice env current ids item
    rw [materializeDevices,Prog.bind_eq_bind,Prog.solo_bind (closed_attempt hclosed)] at h
    rcases hmade : (attempt env artifacts (assignDevice env current ids item)).solo s
      with ⟨e | made,s1⟩
    · rw [hmade] at h
      cases h
    rw [hmade] at h
    obtain ⟨hs1,⟨D,I,htables⟩,hitem,hkeep⟩ :=
      assignDevice_solo hids hs (attempt_solo hclosed hmade)
    obtain ⟨⟨D',I',htables'⟩,hitems,hkeep'⟩ := ih hs1 h
    refine ⟨⟨D',I',by rw [htables',htables]⟩,?_,fun ip ha => hkeep' ip (hkeep ip ha)⟩
    intro item' hmem
    rcases List.mem_cons.mp hmem with rfl | hmem
    · exact hkeep' _ hitem
    · exact hitems item' hmem

lemma closed_materializeProfiles (env : Env) (ps : List ProposedProfile)
    (existing : List (String × Profile)) (ids : List (String × RowId)) (artifacts : Artifacts) :
    (materializeProfiles env ps existing ids artifacts).Closed := by
  induction ps generalizing existing ids artifacts with
  | nil => exact Prog.closed_ret _
  | cons p ps ih =>
    refine Prog.closed_bind (closed_attempt (closed_findOrCreateProfile env existing p)) ?_
    rintro ⟨profile,created⟩
    exact Prog.closed_bind (closed_materializeSchedule _ _ _ _ _) fun _ => ih _ _ _

/-- What the replacement leaves in a store without profiles, plans and device policies. -/
theorem materialize_solo {staged : Staged} {p : ProposedProfile} {result : Artifacts}
    (hstaged : staged.profiles=[p]) (hmode : p.desiredMode=.blocked) (hdaily : p.dailyQuotaMb=0)
    (hservices : p.serviceQuotas=[])
    (htime : ∀ event ∈ p.schedule, ∃ clock, event.time=clockText clock)
    (hs : s.journal.Bounded) (hprofiles : s.tables.profiles=[])
    (hplans : s.tables.schedulePlans=[])
    (h : (materializeKidControlReplacement env staged).solo s=(.ok result,s')) :
    ∃ profile, Replaced p profile s.tables s'.tables ∧
      ∀ item ∈ staged.devices, Assigned profile.id s'.tables (strip item.ipv4) := by
  unfold materializeKidControlReplacement at h
  rw [Prog.bind_eq_bind,Prog.solo_bind (closed_ofPy _),solo_ofPy] at h
  split at h
  · next hchecked =>
    obtain ⟨-,rfl⟩ := Prod.mk.inj hchecked
    dsimp only at h
    rw [Prog.bind_eq_bind,Prog.solo_bind (closed_query _),query_solo] at h
    dsimp only at h
    rw [hprofiles,hstaged,Prog.bind_eq_bind,
      Prog.solo_bind (closed_materializeProfiles _ _ _ _ _)] at h
    rcases hprof : (materializeProfiles env [p] _ [] _).solo s with ⟨e | ⟨ids,artifacts⟩,s1⟩
    · rw [hprof] at h
      cases h
    rw [hprof] at h
    obtain ⟨profile,hs1,hreplaced,rfl,-⟩ := materializeProfiles_solo hmode hdaily hservices htime
      hs hprofiles hplans hprof
    dsimp only at h
    rw [Prog.bind_eq_bind,Prog.solo_bind (closed_query _),query_solo] at h
    have hids (name : String) (id : RowId)
        (hid : [(strip p.name,profile.id)].lookup name=some id) : id=profile.id := by
      rw [List.lookup_cons] at hid
      split at hid
      · exact (Option.some.inj hid).symm
      · cases hid
    obtain ⟨⟨D,I,htables⟩,hassigned,-⟩ := materializeDevices_solo hids hs1 h
    refine ⟨profile,?_,hassigned⟩
    rw [htables]
    exact ⟨hreplaced.1,hreplaced.2,hreplaced.3,hreplaced.4,hreplaced.5,hreplaced.6⟩
  · cases h

end Devices
end ZenControl.KidControl
