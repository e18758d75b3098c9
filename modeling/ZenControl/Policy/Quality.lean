import ZenControl.Policy.ExceptionConflicts
import ZenControl.Store.Validation

/-! What the policy quality report finds about the date exceptions and the assignments of devices.
It only reads what is stored; a resolver that refuses because of date exceptions does not escape
it. -/
namespace ZenControl

inductive FindingCategory
  | conflict
  | warning
  | shadow
  | redundant
  | unused
  deriving DecidableEq, Repr

inductive FindingSeverity
  | critical
  | warning
  | info
  deriving DecidableEq, Repr

structure Finding where
  category : FindingCategory
  severity : FindingSeverity
  title : String
  detail : String
  scope : String
  link : String
  evidence : List String
  deriving DecidableEq, Repr

/-- `_finding`. -/
def finding (category : FindingCategory) (title detail scope link : String)
    (evidence : List String) : Finding :=
  { category := category,
    severity := match category with
      | .conflict => .critical
      | .warning => .warning
      | _ => .info,
    title := title, detail := detail, scope := scope, link := link, evidence := evidence }

/-- The key of a row of `list_device_policy`, as text. -/
def DevicePolicy.key (d : DevicePolicy) : String := d.ip.getD "None"

section Report
variable (t : Tables)

/-- `_profile_map`. -/
def profileUnder (value : String) : Option Profile :=
  t.profiles.find? fun p => value=toString p.id.val

/-- `_device_map`. -/
def deviceUnder (value : String) : Option DevicePolicy :=
  t.devicePolicy.find? fun d => d.key=value

/-- `_targets_overlap`. -/
def targetsOverlap : Target → Target → Bool
  | .all,_ | _,.all => true
  | .profile value,.profile value' | .device value,.device value' => value=value'
  | .profile value,.device ip | .device ip,.profile value =>
    decide (((deviceUnder t ip).bind fun d => d.profileId.map fun id => toString id.val).getD ""=
      value)

/-- The findings of `build_policy_quality_report` about the assignment of a device. -/
def assignmentFindings (d : DevicePolicy) : List Finding :=
  let name := orElse d.deviceAlias d.key
  let link := s!"/?view=policies&section=assignments&focus=assignment:{d.key}#policies/assignments"
  match d.profileId with
  | none => []
  | some id =>
    match profileUnder t (toString id.val) with
    | none => [finding .conflict "Managed device references a missing profile"
        (s!"{name} still references profile #{id.val}. The policy relation is malformed and " ++
          "should be corrected before relying on inherited policy.") name link []]
    | some profile =>
      let mode := d.modeOverride.text.toUpper
      if d.modeOverride=.inherit then []
      else if d.modeOverride.text=profile.desiredMode.text then
        [finding .redundant "Device mode override duplicates its profile mode"
          (s!"{name} explicitly selects {mode}, which is already the mode supplied by profile " ++
            s!"{profile.name}. The override adds configuration noise without changing the " ++
            "current result.") name link []]
      else
        [finding .shadow "Device mode override shadows its profile mode"
          (s!"{name} uses explicit {mode} mode, so profile {profile.name} does not currently " ++
            "decide the base device mode.") name link []]

/-- The `template_name` that `list_date_exceptions` joins. -/
def templateNameOf (e : DateException) : String :=
  match e.mode with
  | .template id => ((t.scheduleTemplates.find? fun s => s.id=id).map ScheduleTemplate.name).getD ""
  | .mode _ => ""

/-- The findings about the target of an exception; a target of another kind is not stored. -/
def targetFindings (e : DateException) : List Finding :=
  let label := orElse e.label "Unnamed exception"
  let link :=
    s!"/?view=schedules&section=exceptions&focus=exception:{e.id}#schedules/exceptions"
  match e.target with
  | .all => []
  | .profile value =>
    if (profileUnder t value).isSome then []
    else [finding .warning "Date exception targets a missing profile"
      s!"{label} references profile #{value}, which no longer exists." "Date exceptions" link []]
  | .device value =>
    if (deviceUnder t value).isSome then []
    else [finding .unused "Date exception targets an unmanaged device"
      s!"{label} targets {value}, which is not currently managed by ZEN." "Date exceptions" link []]

/-- The findings about the template of an exception. -/
def templateFindings (e : DateException) : List Finding :=
  let label := orElse e.label "Unnamed exception"
  match e.mode with
  | .mode _ => []
  | .template _ =>
    if templateNameOf t e≠"" then []
    else [finding .conflict "Date exception references a missing template"
      s!"{label} is configured for template mode but its template can no longer be resolved."
      "Date exceptions"
      s!"/?view=schedules&section=exceptions&focus=exception:{e.id}#schedules/exceptions" []]

/-- `_quality_comparable`. -/
def comparable (e : DateException) : Bool :=
  (targetFindings t e).isEmpty && (templateFindings t e).isEmpty

/-- What is found about two exceptions that can be compared. -/
def pairFinding (a b : DateException) : Option Finding :=
  let link := "/?view=schedules&section=exceptions#schedules/exceptions"
  let evidence := [a,b].map fun e =>
    e.label ++ " · " ++ isoDay e.startDate ++ " → " ++ isoDay e.endDate
  if a.endDate < b.startDate ∨ b.endDate < a.startDate then none
  else if targetsOverlap t a.target b.target=false then none
  else if a.target.specificity=b.target.specificity then
    if a.mode≠b.mode then
      some (finding .conflict "Overlapping date exceptions have equal precedence"
        ("Two date exceptions can apply to the same target and date with different outcomes. " ++
          "ZEN will fail closed rather than select one arbitrarily.")
        "Date exceptions" link evidence)
    else
      some (finding .redundant "Overlapping date exceptions duplicate the same outcome"
        ("These exceptions overlap for the same target and produce the same outcome, so one may " ++
          "be unnecessary.") "Date exceptions" link evidence)
  else
    let (higher,lower) :=
      if b.target.specificity < a.target.specificity then (a,b) else (b,a)
    let detail := higher.label ++ " has higher target specificity than " ++ lower.label ++
      " during the overlapping date range."
    if a.mode≠b.mode then
      some (finding .shadow "More-specific date exception overrides a broader exception" detail
        "Date exceptions" link evidence)
    else
      some (finding .redundant "More-specific date exception duplicates a broader exception" detail
        "Date exceptions" link evidence)

/-- The findings about each exception and those behind it. -/
def pairFindings : List DateException → List Finding
  | [] => []
  | a::rest => rest.filterMap (pairFinding t a) ++ pairFindings rest

/-- `_exception_findings`. -/
def exceptionFindings : List Finding :=
  (listDateExceptions t).flatMap (fun e => targetFindings t e ++ templateFindings t e) ++
    pairFindings t ((listDateExceptions t).filter (comparable t))

/-- The findings of the report that concern assignments and date exceptions. -/
def policyFindings : List Finding :=
  t.devicePolicy.flatMap (assignmentFindings t) ++ exceptionFindings t

end Report

section Completeness
variable {t : Tables} {a b : DateException} {ip : String} {day : Day}

lemma targetsOverlap_self (target : Target) : targetsOverlap t target target=true := by
  cases target <;> simp [targetsOverlap]

lemma pairFinding_of_clashing (h : clashing a b=true) :
    ∃ f,pairFinding t a b=some f ∧ f.severity=.critical := by
  obtain ⟨htarget,⟨hba,hab⟩,hmode⟩ := clashing_iff.mp h
  have hoverlap : ¬(a.endDate < b.startDate ∨ b.endDate < a.startDate) :=
    not_or.mpr ⟨not_lt.mpr hba,not_lt.mpr hab⟩
  unfold pairFinding
  dsimp only
  rw [if_neg hoverlap,htarget,targetsOverlap_self,if_neg (by decide),if_pos rfl,if_pos hmode]
  exact ⟨_,rfl,rfl⟩

/-- Two exceptions that clash are found whichever comes first. -/
lemma exists_pairFinding {es : List DateException} (ha : a ∈ es) (hb : b ∈ es)
    (h : clashing a b=true) : ∃ f ∈ pairFindings t es,f.severity=.critical := by
  induction es with
  | nil => cases ha
  | cons c rest ih =>
    have first {d d' : DateException} (hd : d=c) (hd' : d' ∈ rest) (hclash : clashing d d'=true) :
        ∃ f ∈ pairFindings t (c::rest),f.severity=.critical := by
      subst hd
      obtain ⟨f,hf,hcritical⟩ := pairFinding_of_clashing (t:=t) hclash
      exact ⟨f,List.mem_append_left _ (List.mem_filterMap.mpr ⟨d',hd',hf⟩),hcritical⟩
    rcases List.mem_cons.mp ha with hac | ha
    · rcases List.mem_cons.mp hb with hbc | hb
      · rw [hac,hbc] at h
        exact absurd rfl (clashing_iff.mp h).2.2
      · exact first hac hb h
    · rcases List.mem_cons.mp hb with hbc | hb
      · exact first hbc ha (clashing_comm.trans h)
      · obtain ⟨f,hf,hcritical⟩ := ih ha hb
        exact ⟨f,List.mem_append_right _ hf,hcritical⟩

lemma assignment_missing {d : DevicePolicy} {id : RowId} (hid : d.profileId=some id)
    (hnone : profileUnder t (toString id.val)=none) :
    ∃ f ∈ assignmentFindings t d,f.severity=.critical := by
  unfold assignmentFindings
  dsimp only
  rw [hid]
  dsimp only
  rw [hnone]
  exact ⟨_,List.mem_singleton.mpr rfl,rfl⟩

/-- An exception of a managed device can be compared, unless something worse is found. -/
lemma comparable_or_critical {d : DevicePolicy} (hd : d ∈ t.devicePolicy) (hip : d.ip=some ip)
    (ha : a ∈ t.dateExceptions) (hmatch : a.target.targetMatches ip (storedProfileId t ip)=true) :
    comparable t a=true ∨ ∃ f ∈ policyFindings t,f.severity=.critical := by
  by_cases htemplate : templateFindings t a=[]
  · by_cases htarget : targetFindings t a=[]
    · exact .inl (by rw [comparable,htarget,htemplate]; rfl)
    · right
      unfold targetFindings at htarget
      dsimp only at htarget
      cases hkind : a.target with
      | all => rw [hkind] at htarget; exact absurd rfl htarget
      | device value =>
        rw [hkind] at htarget hmatch
        obtain rfl := of_decide_eq_true hmatch
        have hfound : (deviceUnder t value).isSome=true :=
          List.find?_isSome.mpr ⟨d,hd,decide_eq_true (by rw [DevicePolicy.key,hip]; rfl)⟩
        dsimp only at htarget
        rw [if_pos hfound] at htarget
        exact absurd rfl htarget
      | profile value =>
        rw [hkind] at htarget hmatch
        dsimp only at htarget
        have hmissing : ¬(profileUnder t value).isSome=true := fun hsome => by
          rw [if_pos hsome] at htarget
          exact htarget rfl
        cases hstored : storedProfileId t ip with
        | none => rw [hstored] at hmatch; cases hmatch
        | some p =>
          rw [hstored] at hmatch
          obtain rfl := of_decide_eq_true hmatch
          obtain ⟨d',hd',hprofile⟩ := Option.bind_eq_some_iff.mp hstored
          obtain ⟨id,hid,rfl⟩ := Option.map_eq_some_iff.mp hprofile
          obtain ⟨f,hf,hcritical⟩ := assignment_missing hid
            (Option.not_isSome_iff_eq_none.mp hmissing)
          exact ⟨f,List.mem_append_left _ (List.mem_flatMap.mpr
            ⟨d',List.mem_of_find?_eq_some hd',hf⟩),hcritical⟩
  · right
    obtain ⟨f,hf⟩ := List.exists_mem_of_ne_nil _ htemplate
    refine ⟨f,List.mem_append_right _ (List.mem_append_left _ (List.mem_flatMap.mpr
      ⟨a,mem_listDateExceptions.mpr ha,List.mem_append_right _ hf⟩)),?_⟩
    unfold templateFindings at hf
    dsimp only at hf
    split at hf
    · cases hf
    · split_ifs at hf
      · cases hf
      · rw [List.mem_singleton.mp hf]
        rfl

/-- Where the resolver refuses a managed device because of its date exceptions, the report has a
critical finding. -/
theorem refusal_reported (t : Tables) (ip : String) (day : Day)
    (managed : ∃ d ∈ t.devicePolicy,d.ip=some ip)
    (refused : ∃ e,matchingException t ip day none=.error e) :
    ∃ f ∈ policyFindings t,f.severity=.critical := by
  obtain ⟨d,hd,hip⟩ := managed
  obtain ⟨e,he⟩ := refused
  obtain ⟨a,ha,b,hb,hclash,hamatch,hbmatch⟩ := clashing_of_refused he
  rcases comparable_or_critical hd hip ha hamatch with hacompare | hfound
  · rcases comparable_or_critical hd hip hb hbmatch with hbcompare | hfound
    · obtain ⟨f,hf,hcritical⟩ := exists_pairFinding (t:=t)
        (List.mem_filter.mpr ⟨mem_listDateExceptions.mpr ha,hacompare⟩)
        (List.mem_filter.mpr ⟨mem_listDateExceptions.mpr hb,hbcompare⟩) hclash
      exact ⟨f,List.mem_append_right _ (List.mem_append_right _ hf),hcritical⟩
    · exact hfound
  · exact hfound

/-- The holidays with a device. -/
def holidaysAtHome : Tables :=
  { holidays with devicePolicy := [{ ip := some "192.168.88.20" }] }

theorem exam_reported : ∃ f ∈ policyFindings holidaysAtHome,f.severity=.critical :=
  refusal_reported holidaysAtHome "192.168.88.20" 738890 ⟨_,List.mem_singleton.mpr rfl,rfl⟩
    ⟨_,rfl⟩

end Completeness
end ZenControl
