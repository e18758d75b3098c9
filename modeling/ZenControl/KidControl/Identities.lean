import ZenControl.KidControl.Cutover

/-! What a transfer does with the identities that its readiness report has matched again. The
replacement assigns the addresses of the staged proposal, which may be older than the report. -/
namespace ZenControl.KidControl
open Calls

section Profiles
variable {env : Env} {s s' : Store} {t : Tables}

/-- The keys of the profiles: ids that AUTOINCREMENT has given out and unique, checked names. -/
structure Keyed (t : Tables) : Prop where
  ids : ∀ p ∈ t.profiles, ∀ q ∈ t.profiles, p.id=q.id → p=q
  names : ∀ p ∈ t.profiles, ∀ q ∈ t.profiles, p.name=q.name → p=q
  checked : ∀ p ∈ t.profiles, strip p.name=p.name ∧ p.name≠""
  given : ∀ p ∈ t.profiles, p.id.val ≤ t.profileSeq
  followed : ∀ d ∈ t.devicePolicy, ∀ id, d.profileId=some id → id.val ≤ t.profileSeq

/-- The device policy of an address names the profile of a name. -/
def FollowsNamed (t : Tables) (ip name : String) : Prop :=
  ∃ d p, devicePolicy t ip=some d ∧ p ∈ t.profiles ∧ d.profileId=some p.id ∧ p.name=name

/-- The loop over the staged profiles has added profiles only, and knows them by name. -/
structure Profiled (t : Tables) (ids : List (String × RowId)) (s : Store) : Prop where
  bounded : s.journal.Bounded
  keyed : Keyed s.tables
  devicePolicy : s.tables.devicePolicy=t.devicePolicy
  seq : t.profileSeq ≤ s.tables.profileSeq
  kept : ∀ p ∈ t.profiles, p ∈ s.tables.profiles
  added : ∀ p ∈ s.tables.profiles, p.id.val ≤ t.profileSeq → p ∈ t.profiles
  ids : ∀ name id, ids.lookup name=some id → ∃ p ∈ s.tables.profiles, p.id=id ∧ p.name=name

/-- The profiles that the loop knows are stored under their names. -/
def Known (existing : List (String × Profile)) (t : Tables) : Prop :=
  ∀ name p, existing.lookup name=some p → p ∈ t.profiles ∧ p.name=name

lemma Profiled.of_profiles {ids : List (String × RowId)} (h : Profiled t ids s)
    (hs : s'.journal.Bounded) (hprofiles : s'.tables.profiles=s.tables.profiles)
    (hseq : s'.tables.profileSeq=s.tables.profileSeq)
    (hpolicy : s'.tables.devicePolicy=s.tables.devicePolicy) : Profiled t ids s' := by
  obtain ⟨hi,hn,hc,hg,hf⟩ := h.keyed
  rw [← hprofiles] at hi hn hc hg
  rw [← hseq] at hg hf
  rw [← hpolicy] at hf
  exact ⟨hs,⟨hi,hn,hc,hg,hf⟩,hpolicy.trans h.devicePolicy,hseq ▸ h.seq,hprofiles ▸ h.kept,hprofiles ▸ h.added,
    hprofiles ▸ h.ids⟩

/-- A plan of a staged profile touches the schedules only. -/
lemma findOrCreatePlan_profiled {ids : List (String × RowId)} {pid : RowId} {name : String}
    {event : ScheduleEvent} {made : ScheduleArtifact} (hs : Profiled t ids s)
    (h : (findOrCreatePlan env pid name event).solo s=(.ok made,s')) :
    Profiled t ids s' ∧ s'.tables.profiles=s.tables.profiles := by
  rw [findOrCreatePlan,Prog.bind_eq_bind,Prog.solo_bind (closed_query _),query_solo] at h
  rcases hfound : matchingPlans s.tables pid event with _ | ⟨plan,_ | ⟨_,_⟩⟩
  · rw [hfound] at h
    simp only [Prog.bind_eq_bind,Prog.solo_bind (closed_createSchedulePlan _ _)] at h
    rcases hc : (createSchedulePlan env _).solo s with ⟨e | id,s1⟩
    · rw [hc] at h
      cases h
    rw [hc] at h
    obtain rfl : s1=s' := (Prod.mk.inj h).2
    obtain ⟨plan,-,rfl⟩ := createSchedulePlan_solo hs.bounded hc
    exact ⟨hs.of_profiles (hs.bounded.advance _ _) rfl rfl rfl,rfl⟩
  · rw [hfound] at h
    obtain rfl : s=s' := (Prod.mk.inj h).2
    exact ⟨hs,rfl⟩
  · rw [hfound] at h
    cases h

lemma materializeSchedule_profiled {ids : List (String × RowId)} {pid : RowId} {name : String}
    {events : List ScheduleEvent} {artifacts result : Artifacts} (hs : Profiled t ids s)
    (h : (materializeSchedule env pid name events artifacts).solo s=(.ok result,s')) :
    Profiled t ids s' ∧ s'.tables.profiles=s.tables.profiles := by
  induction events generalizing artifacts s with
  | nil =>
    obtain rfl : s=s' := (Prod.mk.inj h).2
    exact ⟨hs,rfl⟩
  | cons event events ih =>
    have hclosed := closed_findOrCreatePlan env pid name event
    rw [materializeSchedule,Prog.bind_eq_bind,Prog.solo_bind (closed_attempt hclosed)] at h
    rcases hmade : (attempt env artifacts (findOrCreatePlan env pid name event)).solo s
      with ⟨e | made,s1⟩
    · rw [hmade] at h
      cases h
    rw [hmade] at h
    obtain ⟨hs1,hprofiles⟩ := findOrCreatePlan_profiled hs (attempt_solo hclosed hmade)
    obtain ⟨hs',hprofiles'⟩ := ih hs1 h
    exact ⟨hs',hprofiles'.trans hprofiles⟩

/-- A profile with the next id and a new name keeps the keys. -/
lemma Keyed.insert {t : Tables} (h : Keyed t) {p : Profile}
    (hid : p.id.val=t.profileSeq+1) (hname : ¬t.profiles.any fun q => q.name=p.name)
    (hchecked : strip p.name=p.name ∧ p.name≠"") :
    Keyed { t with profiles := t.profiles ++ [p], profileSeq := t.profileSeq+1 } := by
  simp only [List.any_eq_true,decide_eq_true_eq,not_exists,not_and] at hname
  have hnew (q : Profile) (hq : q ∈ t.profiles) : q.id≠p.id := by
    intro heq
    have := h.given q hq
    rw [heq] at this
    omega
  constructor
  · intro a ha b hb hab
    rcases List.mem_append.mp ha with ha | ha <;> rcases List.mem_append.mp hb with hb | hb
    · exact h.ids a ha b hb hab
    · rw [List.mem_singleton.mp hb] at hab
      exact absurd hab (hnew a ha)
    · rw [List.mem_singleton.mp ha] at hab
      exact absurd hab.symm (hnew b hb)
    · rw [List.mem_singleton.mp ha,List.mem_singleton.mp hb]
  · intro a ha b hb hab
    rcases List.mem_append.mp ha with ha | ha <;> rcases List.mem_append.mp hb with hb | hb
    · exact h.names a ha b hb hab
    · rw [List.mem_singleton.mp hb] at hab
      exact absurd hab (hname a ha)
    · rw [List.mem_singleton.mp ha] at hab
      exact absurd hab.symm (hname b hb)
    · rw [List.mem_singleton.mp ha,List.mem_singleton.mp hb]
  · intro a ha
    rcases List.mem_append.mp ha with ha | ha
    · exact h.checked a ha
    · rwa [List.mem_singleton.mp ha]
  · intro a ha
    rcases List.mem_append.mp ha with ha | ha
    · have := h.given a ha
      push_cast
      omega
    · rw [List.mem_singleton.mp ha,hid]
      push_cast
      rfl
  · intro d hd id hid
    have := h.followed d hd id hid
    push_cast
    omega

/-- A new profile is stored under the name that it was asked for. -/
lemma createProfile_profiled {ids : List (String × RowId)} {a : ProfileArgs} {name : String}
    {p : Profile} (ha : a.name=.str name) (hs : Profiled t ids s)
    (h : (createProfile env a).solo s=(.ok (some p),s')) :
    Profiled t ids s' ∧ (∀ q ∈ s.tables.profiles, q ∈ s'.tables.profiles) ∧
      p ∈ s'.tables.profiles ∧ p.name=strip name := by
  obtain ⟨clean,fields,notes,hchecked,-,hnew,hget,rfl⟩ := createProfile_solo hs.bounded h
  have hclean : clean=strip name ∧ clean≠"" := by
    obtain ⟨stripped,hstripped,hrest⟩ := bind_ok hchecked
    obtain ⟨checked,hfields,hrest⟩ := bind_ok hrest
    obtain ⟨_,hlength,-⟩ := bind_ok hfields
    rw [ha] at hstripped
    obtain rfl := (Prod.mk.inj (Except.ok.inj hrest)).1
    exact ⟨(Except.ok.inj hstripped).symm,fun hempty => refuse_ok hlength (.inl hempty)⟩
  set q : Profile :=
    { toPolicyFields := { fields with notes := clip notes 250 },
      id := ⟨s.tables.profileSeq+1,by omega⟩, name := clean }
  have hkeyed : Keyed { s.tables with
      profiles := s.tables.profiles ++ [q], profileSeq := s.tables.profileSeq+1 } :=
    hs.keyed.insert rfl hnew
      (show strip clean=clean ∧ clean≠"" from ⟨by rw [hclean.1,strip_strip],hclean.2⟩)
  have hq : q ∈ s.tables.profiles ++ [q] := List.mem_append_right _ List.mem_cons_self
  have hp : p ∈ s.tables.profiles ++ [q] := List.mem_of_find?_eq_some hget
  obtain rfl : p=q := by
    refine hkeyed.ids p hp q hq (Subtype.ext ?_)
    simpa using List.find?_some hget
  refine ⟨⟨hs.bounded.advance _ _,hkeyed,hs.devicePolicy,hs.seq.trans (Nat.le_succ _),fun r hr =>
    List.mem_append_left _ (hs.kept r hr),fun r hr hle => ?_,fun n id hid => ?_⟩,
    fun r hr => List.mem_append_left _ hr,hq,hclean.1⟩
  · rcases List.mem_append.mp hr with hr | hr
    · exact hs.added r hr hle
    · rw [List.mem_singleton.mp hr] at hle
      have hnext : (s.tables.profileSeq : ℤ)+1 ≤ t.profileSeq := hle
      have hseq := hs.seq
      omega
  · obtain ⟨r,hr,hrid,hrname⟩ := hs.ids n id hid
    exact ⟨r,List.mem_append_left _ hr,hrid,hrname⟩

/-- The profile of a proposal is stored under the name of the proposal. -/
lemma findOrCreateProfile_profiled {ids : List (String × RowId)}
    {existing : List (String × Profile)} {p : ProposedProfile} {result : Profile × Bool}
    (hknown : Known existing s.tables) (hs : Profiled t ids s)
    (h : (findOrCreateProfile env existing p).solo s=(.ok result,s')) :
    Profiled t ids s' ∧ (∀ q ∈ s.tables.profiles, q ∈ s'.tables.profiles) ∧
      result.1 ∈ s'.tables.profiles ∧ result.1.name=strip p.name := by
  unfold findOrCreateProfile at h
  dsimp only at h
  split_ifs at h
  · cases h
  cases hfound : existing.lookup (strip p.name) with
  | some found =>
    rw [hfound] at h
    dsimp only at h
    split_ifs at h
    · obtain ⟨hresult,rfl⟩ := Prod.mk.inj h
      obtain rfl := Except.ok.inj hresult
      exact ⟨hs,fun _ hq => hq,hknown _ _ hfound⟩
    · cases h
  | none =>
    rw [hfound] at h
    simp only [Prog.bind_eq_bind,Prog.solo_bind (closed_createProfile _ _)] at h
    rcases hc : (createProfile env _).solo s with ⟨e | created,s1⟩
    · rw [hc] at h
      cases h
    rw [hc] at h
    cases created with
    | none => cases h
    | some profile =>
      obtain ⟨hresult,rfl⟩ := Prod.mk.inj h
      obtain rfl := Except.ok.inj hresult
      obtain ⟨hs1,hkept,hmem,hname⟩ := createProfile_profiled rfl hs hc
      exact ⟨hs1,hkept,hmem,hname.trans (strip_strip _)⟩

lemma materializeProfiles_profiled {ps : List ProposedProfile} {ids : List (String × RowId)}
    {existing : List (String × Profile)} {artifacts : Artifacts}
    {result : List (String × RowId) × Artifacts}
    (hknown : Known existing s.tables) (hs : Profiled t ids s)
    (h : (materializeProfiles env ps existing ids artifacts).solo s=(.ok result,s')) :
    Profiled t result.1 s' := by
  induction ps generalizing existing ids artifacts s with
  | nil =>
    obtain ⟨hresult,rfl⟩ := Prod.mk.inj h
    rw [← Except.ok.inj hresult]
    exact hs
  | cons p ps ih =>
    have hclosed := closed_findOrCreateProfile env existing p
    rw [materializeProfiles,Prog.bind_eq_bind,Prog.solo_bind (closed_attempt hclosed)] at h
    rcases hmade : (attempt env artifacts (findOrCreateProfile env existing p)).solo s
      with ⟨e | ⟨profile,created⟩,s1⟩
    · rw [hmade] at h
      cases h
    rw [hmade] at h
    obtain ⟨hs1,hkept,hmem,hname⟩ :=
      findOrCreateProfile_profiled hknown hs (attempt_solo hclosed hmade)
    dsimp only at h hmem hname
    rw [Prog.bind_eq_bind,Prog.solo_bind (closed_materializeSchedule _ _ _ _ _)] at h
    rcases hsched : (materializeSchedule env profile.id (strip p.name) p.schedule _).solo s1
      with ⟨e | artifacts',s2⟩
    · rw [hsched] at h
      cases h
    rw [hsched] at h
    obtain ⟨hs2,hprofiles⟩ := materializeSchedule_profiled hs1 hsched
    refine ih ?_ ⟨hs2.bounded,hs2.keyed,hs2.devicePolicy,hs2.seq,hs2.kept,hs2.added,?_⟩ h
    · intro n q hq
      rw [lookup_dictSet] at hq
      rw [hprofiles]
      split_ifs at hq with hn
      · obtain rfl := Option.some.inj hq
        exact ⟨hmem,hname.trans hn.symm⟩
      · exact ⟨hkept q (hknown n q hq).1,(hknown n q hq).2⟩
    · intro n id hid
      rw [lookup_dictSet] at hid
      split_ifs at hid with hn
      · exact ⟨profile,hprofiles ▸ hmem,Option.some.inj hid,hname.trans hn.symm⟩
      · exact hs2.ids n id hid

end Profiles

section Devices
variable {env : Env} {s s' : Store} {t : Tables}

/-- The staged device that the loop writes last at an address. -/
def Staged.deviceAt (items : List StagedDevice) (ip : String) : Option StagedDevice :=
  items.findRev? fun item => strip item.ipv4=ip

/-- The alias, the notes and the category that a staged device is written with. -/
def assignedAlias (previous : Option DevicePolicy) (item : StagedDevice) : String :=
  clip (strip (orElse ((previous.map DevicePolicy.deviceAlias).getD "")
    (orElse item.deviceAlias item.legacyName))) 50

def assignedNotes (previous : Option DevicePolicy) : String :=
  clip (strip (orElse ((previous.map DevicePolicy.notes).getD "")
    "Migrated from MikroTik Kid Control")) 250

def assignedCategory (previous : Option DevicePolicy) (item : StagedDevice) : Py String :=
  deviceCategory (.str (orElse ((previous.map DevicePolicy.category).getD "")
    (orElse item.category "other")))

/-- The policy that a staged device is written with. -/
structure Written (previous : Option DevicePolicy) (item : StagedDevice) (target : RowId)
    (d : DevicePolicy) : Prop where
  ip : d.ip=some (strip item.ipv4)
  deviceAlias : d.deviceAlias=assignedAlias previous item
  notes : d.notes=assignedNotes previous
  category : assignedCategory previous item=.ok d.category
  favourite : d.favourite=(previous.map DevicePolicy.favourite).getD false
  profileId : d.profileId=some target
  modeOverride : d.modeOverride=.inherit
  inherited : ∀ old, previous=some old → old.modeOverride=.inherit

/-- A device that got through is written at its address; the others are kept. -/
lemma assignDevice_writes {current : List DevicePolicy} {ids : List (String × RowId)}
    {item : StagedDevice} {made : DeviceArtifact} (hs : s.journal.Bounded)
    (h : (assignDevice env current ids item).solo s=(.ok made,s')) :
    s'.journal.Bounded ∧
      (∃ D I, s'.tables={ s.tables with devicePolicy := D, identities := I }) ∧
      ∃ target d, ids.lookup (strip item.profileName)=some target ∧
        Written (Rows.row DevicePolicy.ip (some (strip item.ipv4)) current) item target d ∧
        ∀ q, devicePolicy s'.tables q=
          if q=strip item.ipv4 then some d else devicePolicy s.tables q := by
  unfold assignDevice at h
  dsimp only at h
  by_cases hmatched : env.lower item.identityState≠"matched"
  · rw [if_pos hmatched] at h
    cases h
  rw [if_neg hmatched] at h
  rcases htarget : (if strip item.ipv4="" then none else ids.lookup (strip item.profileName))
    with _ | target
  · rw [htarget] at h
    cases h
  have hid : ids.lookup (strip item.profileName)=some target := by
    split_ifs at htarget
    exact htarget
  simp only [htarget,Prog.bind_eq_bind,Prog.solo_bind (closed_query _),query_solo] at h
  split_ifs at h with hother hinherit
  · cases h
  · cases h
  simp only [Prog.solo_bind (closed_updateDevice _ _)] at h
  rcases hu : (updateDevice env _).solo s with ⟨e | u,s1⟩
  · rw [hu] at h
    cases h
  rw [hu] at h
  obtain rfl : s1=s' := (Prod.mk.inj h).2
  obtain ⟨d,ip,I,hd,hip,rfl⟩ := updateDevice_solo hs hu
  obtain rfl : some (strip item.ipv4)=ip := Except.ok.inj hip
  have hrow (q : String) := upsertDevice_row (t := s.tables)
    (d := { d with ip := some (strip item.ipv4) }) rfl q
  obtain ⟨hmode,hprofile⟩ := deviceFields_ok hd
  refine ⟨hs.advance _ _,⟨_,_,rfl⟩,target,{ d with ip := some (strip item.ipv4) },hid,?_,hrow⟩
  obtain ⟨mode,-,hd⟩ := bind_ok hd
  obtain ⟨deviceAlias,halias,hd⟩ := bind_ok hd
  obtain ⟨notes,hnotes,hd⟩ := bind_ok hd
  obtain ⟨category,hcategory,hd⟩ := bind_ok hd
  obtain ⟨profile,-,hd⟩ := bind_ok hd
  obtain rfl := Except.ok.inj hd
  refine ⟨rfl,?_,?_,hcategory,rfl,?_,(Except.ok.inj hmode).symm,fun old hold => ?_⟩
  · rw [← Except.ok.inj halias]
    rfl
  · rw [← Except.ok.inj hnotes]
    rfl
  · have hstored : selectedProfile s.tables
        (((some target).map fun id => PyVal.int id.val).getD .none)=.ok profile := hprofile
    exact selectedProfile_stored hstored
  · simpa [hold] using hinherit

/-- The loop leaves at every address what its last device there is written with. -/
lemma materializeDevices_writes {current : List DevicePolicy} {ids : List (String × RowId)}
    {items : List StagedDevice} {artifacts result : Artifacts} (hs : s.journal.Bounded)
    (h : (materializeDevices env current ids items artifacts).solo s=(.ok result,s')) :
    (∃ D I, s'.tables={ s.tables with devicePolicy := D, identities := I }) ∧
      ∀ q, match Staged.deviceAt items q with
        | none => devicePolicy s'.tables q=devicePolicy s.tables q
        | some item => ∃ target d, ids.lookup (strip item.profileName)=some target ∧
            Written (Rows.row DevicePolicy.ip (some q) current) item target d ∧
            devicePolicy s'.tables q=some d := by
  induction items generalizing artifacts s with
  | nil =>
    obtain rfl : s=s' := (Prod.mk.inj h).2
    exact ⟨⟨_,_,rfl⟩,fun _ => rfl⟩
  | cons item items ih =>
    have hclosed := closed_assignDevice env current ids item
    rw [materializeDevices,Prog.bind_eq_bind,Prog.solo_bind (closed_attempt hclosed)] at h
    rcases hmade : (attempt env artifacts (assignDevice env current ids item)).solo s
      with ⟨e | made,s1⟩
    · rw [hmade] at h
      cases h
    rw [hmade] at h
    obtain ⟨hs1,⟨D,I,htables⟩,target,d,hid,hwritten,hrow⟩ :=
      assignDevice_writes hs (attempt_solo hclosed hmade)
    obtain ⟨⟨D',I',htables'⟩,hitems⟩ := ih hs1 h
    refine ⟨⟨D',I',by rw [htables',htables]⟩,fun q => ?_⟩
    have hq := hitems q
    unfold Staged.deviceAt at hq ⊢
    rw [List.findRev?]
    cases hlast : items.findRev? fun item => strip item.ipv4=q with
    | some last =>
      rw [hlast] at hq
      exact hq
    | none =>
      rw [hlast] at hq
      by_cases hip : strip item.ipv4=q
      · subst hip
        simp only [decide_true]
        exact ⟨target,d,hid,hwritten,hq.trans ((hrow _).trans (if_pos rfl))⟩
      · simp only [decide_eq_false hip]
        exact hq.trans ((hrow q).trans (if_neg fun h => hip h.symm))

lemma Staged.deviceAt_some {items : List StagedDevice} {ip : String} {item : StagedDevice}
    (h : Staged.deviceAt items ip=some item) : item ∈ items ∧ strip item.ipv4=ip := by
  rw [Staged.deviceAt,List.findRev?_eq_find?_reverse] at h
  exact ⟨List.mem_reverse.mp (List.mem_of_find?_eq_some h),by simpa using List.find?_some h⟩

/-- What the replacement does with the device policies: it writes every staged device for a
profile that has the staged name now. -/
theorem materialize_writes {staged : Staged} {result : Artifacts} (hs : s.journal.Bounded)
    (hkeyed : Keyed s.tables)
    (h : (materializeKidControlReplacement env staged).solo s=(.ok result,s')) :
    ∃ ids s1, Profiled s.tables ids s1 ∧ s'.tables.profiles=s1.tables.profiles ∧
      ∀ q, match Staged.deviceAt staged.devices q with
        | none => devicePolicy s'.tables q=devicePolicy s.tables q
        | some item => ∃ target d, ids.lookup (strip item.profileName)=some target ∧
            Written (devicePolicy s.tables q) item target d ∧
            devicePolicy s'.tables q=some d := by
  unfold materializeKidControlReplacement at h
  rw [Prog.bind_eq_bind,Prog.solo_bind (closed_ofPy _),solo_ofPy] at h
  split at h
  · next hchecked =>
    obtain ⟨-,rfl⟩ := Prod.mk.inj hchecked
    dsimp only at h
    rw [Prog.bind_eq_bind,Prog.solo_bind (closed_query _),query_solo] at h
    dsimp only at h
    rw [Prog.bind_eq_bind,Prog.solo_bind (closed_materializeProfiles _ _ _ _ _)] at h
    rcases hprof : (materializeProfiles env staged.profiles _ [] _).solo s
      with ⟨e | ⟨ids,artifacts⟩,s1⟩
    · rw [hprof] at h
      cases h
    rw [hprof] at h
    have hs1 : Profiled s.tables ids s1 := by
      refine materializeProfiles_profiled (fun name p hp => ?_)
        ⟨hs,hkeyed,rfl,le_refl _,fun _ hp => hp,fun _ hp _ => hp,by simp⟩ hprof
      obtain ⟨before,after,hrows,-⟩ := List.lookup_eq_some_iff.mp hp
      have hmem : (name,p) ∈ (orderBy (fun p : Profile => nocase p.name) s.tables.profiles).map
          fun p => (p.name,p) := hrows ▸ List.mem_append_right _ List.mem_cons_self
      obtain ⟨q,hq,heq⟩ := List.mem_map.mp hmem
      obtain ⟨rfl,rfl⟩ := Prod.mk.inj heq
      exact ⟨(List.mem_insertionSort _).mp hq,rfl⟩
    dsimp only at h
    rw [Prog.bind_eq_bind,Prog.solo_bind (closed_query _),query_solo] at h
    obtain ⟨⟨D,I,htables⟩,hrows⟩ := materializeDevices_writes hs1.bounded h
    refine ⟨ids,s1,hs1,by rw [htables],fun q => ?_⟩
    simpa only [devicePolicy,Rows.row,hs1.devicePolicy] using hrows q
  · cases h

end Devices

section Transfer
variable {env : Env} {py : LegacyRuntime} {t t' : Tables} {staged : Staged}
  {rows : List DeviceRow}

/-- What is written with the texts and the profile that it had is unchanged. -/
lemma Written.unchanged {old d : DevicePolicy} {item : StagedDevice} {target : RowId} {ip : String}
    (h : Written (some old) item target d) (hip : strip item.ipv4=ip) (hold : old.ip=some ip)
    (halias : old.deviceAlias=assignedAlias (some old) item)
    (hnotes : old.notes=assignedNotes (some old))
    (hcategory : assignedCategory (some old) item=.ok old.category)
    (hprofile : old.profileId=some target) : d=old := by
  obtain ⟨h1,h2,h3,h4,h5,h6,h7,h8⟩ := h
  have h4 := Except.ok.inj (h4.symm.trans hcategory)
  have h8 := h8 old rfl
  cases d
  cases old
  rw [DevicePolicy.mk.injEq]
  exact ⟨h1.trans (hip ▸ hold.symm),h2.trans halias.symm,h3.trans hnotes.symm,h4,h5,
    h6.trans hprofile.symm,h7.trans h8.symm⟩

/-- Every device row is assigned as it says, and no other address is touched. -/
structure Carried (rows : List DeviceRow) (t t' : Tables) : Prop where
  assigned : ∀ row ∈ rows, FollowsNamed t' row.ip row.profileName
  untouched : ∀ ip, (∀ row ∈ rows, row.ip≠ip) → devicePolicy t' ip=devicePolicy t ip

/-- The policy of an address is the one that a staged device is written with. -/
def Settled (t : Tables) (ip : String) (item : StagedDevice) : Prop :=
  ∃ d, devicePolicy t ip=some d ∧ FollowsNamed t ip (strip item.profileName) ∧
    d.deviceAlias=assignedAlias (some d) item ∧ d.notes=assignedNotes (some d) ∧
    assignedCategory (some d) item=.ok d.category

/-- The staged proposal has the addresses of the report: a row is staged last at its address
under its profile, or is not staged and has a profile already; what is staged at other addresses
is settled there. -/
structure SameIdentities (t : Tables) (staged : Staged) (rows : List DeviceRow) : Prop where
  covered : ∀ row ∈ rows, match Staged.deviceAt staged.devices row.ip with
    | some item => strip item.profileName=row.profileName
    | none => ∃ name, FollowsNamed t row.ip name
  settled : ∀ ip item, Staged.deviceAt staged.devices ip=some item →
    (∀ row ∈ rows, row.ip≠ip) → Settled t ip item

/-- A row that is ready agrees with the profile that its address has already. -/
def Agreeing (t : Tables) (rows : List DeviceRow) : Prop :=
  ∀ row ∈ rows, ∀ name, FollowsNamed t row.ip name → name=row.profileName

lemma deviceRow_names (snapshot : Snapshot) (device : TranslatedDevice) :
    (deviceRow py t snapshot device).ip=strip device.identity.ipv4 ∧
      (deviceRow py t snapshot device).profileName=strip device.profileName := by
  unfold deviceRow
  dsimp only
  split_ifs
  · exact ⟨rfl,rfl⟩
  · exact ⟨rfl,rfl⟩
  · split
    · exact ⟨rfl,rfl⟩
    · split <;> exact ⟨rfl,rfl⟩

/-- Nothing in the policy of a ready row stands in the way. -/
lemma deviceRow_ready {snapshot : Snapshot} {device : TranslatedDevice}
    (hready : (deviceRow py t snapshot device).ready) {d : DevicePolicy}
    (hd : devicePolicy t (strip device.identity.ipv4)=some d) :
    policyObstacle t (strip device.profileName) d=none := by
  unfold deviceRow at hready
  dsimp only at hready
  split_ifs at hready
  split at hready
  · cases hready
  · cases hobstacle : policyObstacle t (strip device.profileName) d with
    | none => rfl
    | some reason =>
      rw [show Rows.row DevicePolicy.ip (some (strip device.identity.ipv4)) t.devicePolicy=some d
        from hd,Option.bind_some,hobstacle] at hready
      cases hready

lemma deviceRow_agrees (hkeyed : Keyed t) {snapshot : Snapshot} {device : TranslatedDevice}
    (hready : (deviceRow py t snapshot device).ready) {name : String}
    (h : FollowsNamed t (deviceRow py t snapshot device).ip name) :
    name=(deviceRow py t snapshot device).profileName := by
  obtain ⟨hip,hname⟩ := @deviceRow_names py t snapshot device
  rw [hip] at h
  obtain ⟨d,p,hd,hp,hid,rfl⟩ := h
  have hobstacle := deviceRow_ready hready hd
  have hfound : (t.profiles.find? fun q => q.id=p.id)=some p := by
    cases hfind : t.profiles.find? fun q => q.id=p.id with
    | none => exact absurd (List.find?_eq_none.mp hfind p hp) (by simp)
    | some q =>
      have hq : q.id=p.id := by simpa using List.find?_some hfind
      rw [hkeyed.ids q (List.mem_of_find?_eq_some hfind) p hp hq]
  obtain ⟨hstrip,hne⟩ := hkeyed.checked p hp
  simp only [policyObstacle,hid,Option.bind_some,hfound,hstrip] at hobstacle
  split_ifs at hobstacle with hcurrent
  rw [hname]
  by_contra hother
  exact hcurrent ⟨hne,hother⟩

lemma readiness_rows {snapshot : Snapshot} {preview : Preview} {cutover : Option String}
    {staged : Option Staged} (hkeyed : Keyed t)
    (hready : (buildKidControlCutoverReadiness env py staged preview snapshot t cutover).ready) :
    Agreeing t
      (buildKidControlCutoverReadiness env py staged preview snapshot t cutover).devices := by
  unfold buildKidControlCutoverReadiness at hready ⊢
  by_cases hactive : (cutover.any fun state =>
    ["prepared","authoritative","failed"].contains state)=true
  · rw [if_pos hactive] at hready
    cases hready
  rw [if_neg hactive] at hready ⊢
  have hidentity := List.filter_eq_nil_iff.mp (of_decide_eq_true hready) _
    (List.mem_cons_of_mem _ (List.mem_cons_of_mem _ (List.mem_cons_of_mem _
      (List.mem_cons_of_mem _ (List.mem_cons_of_mem _ (List.mem_cons_of_mem _
        (List.mem_cons_of_mem _ List.mem_cons_self)))))))
  simp only [Bool.true_and,Bool.not_eq_false,Bool.and_eq_true,
    decide_eq_true_eq,List.map_eq_nil_iff,List.filter_eq_nil_iff,Bool.not_eq_eq_eq_not,
    Bool.not_true] at hidentity
  intro row hrow name hname
  have hok := hidentity.2 row hrow
  obtain ⟨device,hdevice,rfl⟩ := List.mem_map.mp hrow
  exact deviceRow_agrees hkeyed hok hname

lemma carried_iff {s s' : Store} {result : Artifacts} (hs : s.journal.Bounded)
    (hkeyed : Keyed s.tables) (hagreeing : Agreeing s.tables rows)
    (h : (materializeKidControlReplacement env staged).solo s=(.ok result,s')) :
    Carried rows s.tables s'.tables ↔ SameIdentities s.tables staged rows := by
  obtain ⟨ids,s1,hprofiled,hprofiles,hwrites⟩ := materialize_writes hs hkeyed h
  have hold {q : String} {d : DevicePolicy} {p : Profile} (hd : devicePolicy s.tables q=some d)
      (hid : d.profileId=some p.id) (hp : p ∈ s1.tables.profiles) : p ∈ s.tables.profiles :=
    hprofiled.added p hp (hkeyed.followed d (List.mem_of_find?_eq_some hd) _ hid)
  have hnamed {q : String} {item : StagedDevice}
      (hat : Staged.deviceAt staged.devices q=some item) (name : String) :
      FollowsNamed s'.tables q name ↔ strip item.profileName=name := by
    have hq := hwrites q
    rw [hat] at hq
    obtain ⟨target,d,hid,hwritten,hd⟩ := hq
    obtain ⟨p,hp,rfl,hname⟩ := hprofiled.ids _ _ hid
    constructor
    · rintro ⟨d',p',hd',hp',hid',rfl⟩
      obtain rfl := Option.some.inj (hd.symm.trans hd')
      rw [hprofiles] at hp'
      rw [← hname,hprofiled.keyed.ids p hp p' hp'
        (Option.some.inj (hwritten.profileId.symm.trans hid'))]
    · rintro rfl
      exact ⟨d,p,hd,hprofiles ▸ hp,hwritten.profileId,hname⟩
  have hkept {q : String} (hat : Staged.deviceAt staged.devices q=none) (name : String) :
      FollowsNamed s'.tables q name ↔ FollowsNamed s.tables q name := by
    have hq := hwrites q
    rw [hat] at hq
    constructor
    · rintro ⟨d,p,hd,hp,hid,hname⟩
      rw [hq] at hd
      exact ⟨d,p,hd,hold hd hid (hprofiles ▸ hp),hid,hname⟩
    · rintro ⟨d,p,hd,hp,hid,hname⟩
      exact ⟨d,p,hq.trans hd,hprofiles ▸ hprofiled.kept p hp,hid,hname⟩
  have hsettled {q : String} {item : StagedDevice}
      (hat : Staged.deviceAt staged.devices q=some item) :
      devicePolicy s'.tables q=devicePolicy s.tables q ↔ Settled s.tables q item := by
    have hq := hwrites q
    rw [hat] at hq
    obtain ⟨target,d,hid,hwritten,hd⟩ := hq
    obtain ⟨p,hp,rfl,hname⟩ := hprofiled.ids _ _ hid
    constructor
    · intro heq
      rw [hd] at heq
      rw [← heq] at hwritten
      exact ⟨d,heq.symm,⟨d,p,heq.symm,hold heq.symm hwritten.profileId hp,hwritten.profileId,hname⟩,
        hwritten.deviceAlias,hwritten.notes,hwritten.category⟩
    · rintro ⟨old,hold',⟨d',p',hd',hp',hid',hname'⟩,halias,hnotes,hcategory⟩
      obtain rfl := Option.some.inj (hold'.symm.trans hd')
      rw [hold'] at hwritten
      rw [hd,hold',hwritten.unchanged (Staged.deviceAt_some hat).2 (Rows.row_some hold').2 halias
        hnotes hcategory]
      rw [hid',hprofiled.keyed.names p hp p' (hprofiled.kept p' hp') (hname.trans hname'.symm)]
  constructor
  · rintro ⟨hassigned,huntouched⟩
    refine ⟨fun row hrow => ?_,fun ip item hat hother => (hsettled hat).mp (huntouched ip hother)⟩
    cases hat : Staged.deviceAt staged.devices row.ip with
    | some item => exact (hnamed hat _).mp (hassigned row hrow)
    | none => exact ⟨_,(hkept hat _).mp (hassigned row hrow)⟩
  · rintro ⟨hcovered,hsettle⟩
    refine ⟨fun row hrow => ?_,fun ip hother => ?_⟩
    · have hrowed := hcovered row hrow
      cases hat : Staged.deviceAt staged.devices row.ip with
      | some item =>
        rw [hat] at hrowed
        exact (hnamed hat _).mpr hrowed
      | none =>
        rw [hat] at hrowed
        obtain ⟨name,hname⟩ := hrowed
        exact (hkept hat _).mpr (hagreeing row hrow name hname ▸ hname)
    · cases hat : Staged.deviceAt staged.devices ip with
      | some item => exact (hsettled hat).mpr (hsettle ip item hat hother)
      | none => have := hwrites ip; rwa [hat] at this

/-- A transfer acts on the identities that its report has matched exactly when the staged
proposal has the same addresses. -/
theorem cutover_carried_iff (fresh : Snapshot) (cutover : Option String) {s s' : Store}
    {artifacts : Artifacts} (hs : Journal.Reachable s.journal) (hkeyed : Keyed s.tables)
    (hready : (buildKidControlCutoverReadiness env py (some staged)
      (translateKidControlSnapshot env py fresh) fresh s.tables cutover).ready)
    (h : (materializeKidControlReplacement env staged).solo s=(.ok artifacts,s')) :
    let rows := (buildKidControlCutoverReadiness env py (some staged)
      (translateKidControlSnapshot env py fresh) fresh s.tables cutover).devices
    Carried rows s.tables s'.tables ↔ SameIdentities s.tables staged rows :=
  carried_iff hs.bounded hkeyed (readiness_rows hkeyed hready) h

end Transfer

section Example

/-- Kid Control with one tablet that has a static lease at an address. -/
def tabletAt (ip : String) : Snapshot :=
  { profiles := [{ name := "Kids", windows := fun _ => "" }],
    devices := [{ name := "tablet", macAddress := "02:00:00:00:00:01", user := "Kids" }],
    dhcpLeases := [{ address := ip, mac := "02:00:00:00:00:01" }] }

/-- A runtime of ASCII texts. The two snapshots below have one configuration, hence one digest. -/
def asciiLegacy : LegacyRuntime := { upper := upper, sha256 := fun _ => "9f1c" }

/-- The proposal that was staged with the tablet at an address. -/
def stagedAt (ip : String) : Staged :=
  (translateKidControlSnapshot asciiEnv asciiLegacy (tabletAt ip)).staged asciiEnv

def enforcing : Tables :=
  { bandwidthPresets :=
      [{ key := "normal", name := "Normal", upload := "Unlimited", download := "Unlimited",
         builtin := true }]
    appSettings := [("auto_reconcile_mode","enforce")] }

/-- The report for a tablet that was staged at one address and is found at another. -/
def tabletReport (old fresh : String) : Readiness :=
  buildKidControlCutoverReadiness asciiEnv asciiLegacy (some (stagedAt old))
    (translateKidControlSnapshot asciiEnv asciiLegacy (tabletAt fresh)) (tabletAt fresh)
    enforcing none

/-- The store after the replacement. -/
def replacedAt (ip : String) : Store :=
  ((materializeKidControlReplacement asciiEnv (stagedAt ip)).solo ⟨{},enforcing⟩).2

lemma enforcing_keyed : Keyed enforcing :=
  ⟨fun _ hp => absurd hp (List.not_mem_nil),fun _ hp => absurd hp (List.not_mem_nil),
    fun _ hp => absurd hp (List.not_mem_nil),fun _ hp => absurd hp (List.not_mem_nil),
    fun _ hd => absurd hd (List.not_mem_nil)⟩

/-- A tablet that has kept its address. -/
theorem cutover_carried_unmoved :
    Carried (tabletReport "10.0.0.7" "10.0.0.7").devices enforcing (replacedAt "10.0.0.7").tables := by
  have hrow : (tabletReport "10.0.0.7" "10.0.0.7").devices=
      [{ name := "tablet", mac := "02:00:00:00:00:01", ip := "10.0.0.7", profileName := "Kids",
         identityState := "matched", staticLease := true }] := by decide
  have hsame : SameIdentities enforcing (stagedAt "10.0.0.7")
      (tabletReport "10.0.0.7" "10.0.0.7").devices := by
    have hstaged : ∀ item ∈ (stagedAt "10.0.0.7").devices, strip item.ipv4="10.0.0.7" ∧
        strip item.profileName="Kids" := by decide
    rw [hrow]
    refine ⟨fun row hmem => ?_,fun ip item hat hother => ?_⟩
    · obtain rfl := List.mem_singleton.mp hmem
      cases hat : Staged.deviceAt (stagedAt "10.0.0.7").devices "10.0.0.7" with
      | some item => exact (hstaged item (Staged.deviceAt_some hat).1).2
      | none => exact absurd hat (by decide)
    · obtain ⟨hmem,rfl⟩ := Staged.deviceAt_some hat
      exact absurd (hstaged item hmem).1.symm (hother _ List.mem_cons_self)
  exact (@cutover_carried_iff asciiEnv asciiLegacy _ (tabletAt "10.0.0.7") none ⟨{},enforcing⟩
    (replacedAt "10.0.0.7") _ Journal.Reachable.initial enforcing_keyed (by decide)
    rfl).mpr hsame

/-- A tablet whose lease has moved since the staging: the report is ready with the new address,
and the old one is assigned. -/
theorem cutover_assigns_stale : (tabletReport "10.0.0.7" "10.0.0.8").ready=true ∧
    ((materializeKidControlReplacement asciiEnv (stagedAt "10.0.0.7")).solo
      ⟨{},enforcing⟩).1.isOk=true ∧
    ¬Carried (tabletReport "10.0.0.7" "10.0.0.8").devices enforcing
      (replacedAt "10.0.0.7").tables := by
  refine ⟨by decide,by decide,fun h => ?_⟩
  have hrow : (tabletReport "10.0.0.7" "10.0.0.8").devices.map DeviceRow.ip=["10.0.0.8"] := by
    decide +kernel
  obtain ⟨row,hrow,hip⟩ := List.mem_map.mp (hrow ▸ List.mem_cons_self)
  obtain ⟨d,p,hd,-⟩ := h.assigned row hrow
  rw [hip] at hd
  have hnone : devicePolicy (replacedAt "10.0.0.7").tables "10.0.0.8"=none := by decide +kernel
  rw [hnone] at hd
  cases hd

end Example
end ZenControl.KidControl
