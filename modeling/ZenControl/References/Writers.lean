import ZenControl.References.Integrity

/-! What the writers of presets, schedules, exceptions and settings keep of the references. -/
namespace ZenControl
open Calls

section Presets
variable {env : Env} {t t' : Tables} {G : List Store → Prog.Allows Store StoreError}
  {views : List Store}

lemma Referring.withPresets {presets : List BandwidthPreset} (h : Referring t)
    (hused : ∀ p ∈ t.profiles, ∃ b ∈ presets, b.key=p.bandwidthPreset)
    (hnormal : ∃ b ∈ presets, b.key="normal")
    (hbuiltin : ∀ b ∈ presets, b.key="normal" → b.builtin) :
    Referring { t with bandwidthPresets := presets } :=
  ⟨h.1.transfer (fun p hp => ⟨p,hp,rfl⟩) (fun s hs => ⟨s,hs,rfl⟩) hused
    (fun plan hplan => .inl ⟨plan,hplan,rfl⟩) (fun _ he => .inl he) (.inl rfl),hnormal,hbuiltin⟩

/-- The row of the standard preset is a built-in one. -/
lemma Seeded.row (h : Seeded t) :
    ∃ b, Rows.row BandwidthPreset.key "normal" t.bandwidthPresets=some b ∧ b.builtin := by
  obtain ⟨⟨b,hb,hkey⟩,hbuiltin⟩ := h
  cases hrow : Rows.row BandwidthPreset.key "normal" t.bandwidthPresets with
  | none =>
    have := List.find?_eq_none.mp hrow b hb
    simp [hkey] at this
  | some c =>
    obtain ⟨hc,hckey⟩ := Rows.row_some hrow
    exact ⟨c,rfl,hbuiltin c hc hckey⟩

lemma Referring.upsertPreset {preset : BandwidthPreset} (h : Referring t)
    (hkey : preset.key≠"normal") : Referring (upsertPreset preset t) := by
  obtain ⟨⟨b,hb,hnormal⟩,hbuiltin⟩ := h.2
  unfold ZenControl.upsertPreset
  split
  · have hkept {key : String} (hk : PresetKnown t key) :
        ∃ c ∈ Rows.amend BandwidthPreset.key preset.key
          (fun old => { preset with builtin := old.builtin }) t.bandwidthPresets, c.key=key := by
      obtain ⟨c,hc,rfl⟩ := hk
      refine ⟨_,List.mem_map_of_mem hc,?_⟩
      split_ifs with hsame
      · exact hsame.symm
      · rfl
    refine h.withPresets (fun p hp => hkept (h.1.presets p hp)) (hkept ⟨b,hb,hnormal⟩)
      fun c hc hckey => ?_
    obtain ⟨old,hold,rfl⟩ := List.mem_map.mp hc
    by_cases hsame : old.key=preset.key
    · rw [if_pos hsame] at hckey
      exact absurd hckey hkey
    · rw [if_neg hsame] at hckey ⊢
      exact hbuiltin old hold hckey
  · refine h.withPresets (fun p hp => ?_) ⟨b,List.mem_append_left _ hb,hnormal⟩ fun c hc hckey => ?_
    · obtain ⟨c,hc,hckey⟩ := h.1.presets p hp
      exact ⟨c,List.mem_append_left _ hc,hckey⟩
    · rcases List.mem_append.mp hc with hc | hc
      · exact hbuiltin c hc hckey
      · rw [List.mem_singleton.mp hc] at hckey
        exact absurd hckey hkey

lemma saveBandwidthPreset_upholds (env : Env) (a : PresetArgs) :
    Upholds Referring G views (saveBandwidthPreset env a) := by
  unfold saveBandwidthPreset
  refine upholds_ofPy fun checked _ => ?_
  obtain ⟨key,name,upload,download⟩ := checked
  refine upholds_configWrite fun w => upholds_body_read fun v hv _ hbuiltin =>
    upholds_body_ofPy fun description _ => upholds_body_execute fun s t1 hs _ hupsert _ t' hrun => ?_
  obtain ⟨-,rfl⟩ := Body.runOn_ret_ok hrun
  obtain rfl := Except.ok.inj hupsert
  refine hs.2.upsertPreset ?_
  rintro rfl
  obtain ⟨b,hrow,hb⟩ := hv.2.2.row
  exact refuse_ok hbuiltin (by rw [hrow]; exact hb)

lemma deleteBandwidthPreset_upholds (hG : ∀ views f s, G views f s → Unraced views f s)
    (env : Env) (key : String) : Upholds Referring G views (deleteBandwidthPreset env key) := by
  unfold deleteBandwidthPreset
  refine upholds_configWrite fun w => upholds_body_read fun v hv _ hchecked =>
    upholds_body_execute fun s t1 hs hallowed hdrop _ t' hrun => ?_
  obtain ⟨-,rfl⟩ := Body.runOn_ret_ok hrun
  have hdropped := hdrop
  obtain rfl := Except.ok.inj hdropped
  cases hrow : Rows.row BandwidthPreset.key key v.tables.bandwidthPresets with
  | none => rw [hrow] at hchecked; cases hchecked
  | some preset =>
    rw [hrow] at hchecked
    obtain ⟨_,hcustom,hunused⟩ := bind_ok hchecked
    have hcustom := refuse_ok hcustom
    have hunused := refuse_ok hunused
    have hne : key≠"normal" := by
      rintro rfl
      obtain ⟨b,hb,hbuiltin⟩ := hv.2.2.row
      obtain rfl := Option.some.inj (hrow.symm.trans hb)
      exact hcustom hbuiltin
    have hkept {k : String} (hk : PresetKnown s.tables k) (hkey : k≠key) :
        ∃ c ∈ Rows.drop BandwidthPreset.key key s.tables.bandwidthPresets, c.key=k := by
      obtain ⟨c,hc,rfl⟩ := hk
      exact ⟨c,List.mem_filter.mpr ⟨hc,decide_eq_true hkey⟩,rfl⟩
    refine hs.2.withPresets (fun p hp => hkept (hs.2.1.presets p hp) fun heq => ?_)
      (hkept hs.2.2.1 hne.symm) fun c hc hckey => hs.2.2.2 c (List.mem_filter.mp hc).1 hckey
    -- a profile that has come to use the preset since the check
    refine (hG _ _ _ hallowed).unused (r:=.preset key) hdrop List.mem_cons_self
      (heq ▸ hs.2.1.presets p hp) ?_ ?_ ⟨p,hp,heq⟩
    · rintro ⟨c,hc,hckey⟩
      exact of_decide_eq_true (List.mem_filter.mp hc).2 hckey
    · rintro ⟨q,hq,hqkey⟩
      exact hunused (by simpa using ⟨q,hq,hqkey⟩)

end Presets

section Plans
variable {env : Env} {t t' : Tables} {G : List Store → Prog.Allows Store StoreError}
  {views : List Store}

lemma Referring.withPlans {plans : List SchedulePlan} {n : ℤ} (h : Referring t)
    (hplans : ∀ plan ∈ plans,
      (∃ old ∈ t.schedulePlans, old.target=plan.target) ∨ plan.target.Resolves t) :
    Referring { t with schedulePlans := plans, schedulePlanSeq := n } :=
  ⟨h.1.transfer (fun p hp => ⟨p,hp,rfl⟩) (fun s hs => ⟨s,hs,rfl⟩) h.1.presets hplans
    (fun _ he => .inl he) (.inl rfl),h.2⟩

lemma validateScheduleTarget_ok {targetType targetValue : PyVal} {target : Target}
    (h : validateScheduleTarget env t targetType targetValue=.ok target) :
    target.Resolves t := by
  unfold validateScheduleTarget at h
  dsimp only at h
  split at h
  · obtain rfl := Except.ok.inj h
    trivial
  · split at h
    · cases h
    · next id _ =>
      obtain ⟨found,hfound,h⟩ := bind_ok h
      cases found with
      | none => cases h
      | some p =>
        obtain rfl := Except.ok.inj h
        have hp := requestedProfile_ok hfound
        exact ⟨p,List.mem_of_find?_eq_some hp,by rw [getProfile_id hp]⟩
  · split at h
    · cases h
    · obtain rfl := Except.ok.inj h
      trivial
  · cases h

lemma normalizeSchedulePlanFields_target {a : PlanArgs} {plan : SchedulePlan}
    (h : normalizeSchedulePlanFields env t a=.ok plan) : plan.target.Resolves t := by
  obtain ⟨target,htarget,h⟩ := bind_ok h
  obtain ⟨_,-,h⟩ := bind_ok h
  obtain ⟨_,-,h⟩ := bind_ok h
  obtain ⟨texts,-,h⟩ := bind_ok h
  obtain ⟨_,-,h⟩ := bind_ok h
  obtain ⟨_,-,h⟩ := bind_ok h
  obtain ⟨action,-,h⟩ := bind_ok h
  obtain rfl := Except.ok.inj h
  exact validateScheduleTarget_ok htarget

/-- Plans that are changed in place, to a target that resolves or stays. -/
lemma Referring.amendSchedulePlan {id : ℤ} {f : SchedulePlan → SchedulePlan} (h : Referring t)
    (hf : ∀ old ∈ t.schedulePlans, (f old).target=old.target ∨ (f old).target.Resolves t)
    (hrun : amendSchedulePlan id f t=.ok t') : Referring t' := by
  unfold ZenControl.amendSchedulePlan at hrun
  split at hrun
  · cases hrun
  · obtain rfl := Except.ok.inj hrun
    refine h.withPlans fun plan hplan => ?_
    obtain ⟨old,hold,rfl⟩ := List.mem_map.mp hplan
    split_ifs
    · exact (hf old hold).imp_left fun heq => ⟨old,hold,heq.symm⟩
    · exact .inl ⟨old,hold,rfl⟩

/-- The target of a plan that a call has checked still resolves where it writes the plan. -/
lemma Unraced.target {views : List Store} {f : Tables → Py Tables} {s v : Store}
    (h : Unraced views (onTables f) s) (hf : f s.tables=.ok t') (hv : v ∈ views) {target : Target}
    (hused : (∃ plan ∈ t'.schedulePlans, plan.target=target) ∨
      ∃ e ∈ t'.dateExceptions, e.target=target) (hfound : target.Resolves v.tables) :
    target.Resolves s.tables := by
  cases target with
  | profile value =>
    refine h.found (r:=.profile value) hf hv ?_ hfound
    rcases hused with hused | hused
    · exact .inl hused
    · exact .inr (.inl hused)
  | _ => trivial

lemma createSchedulePlan_upholds (hG : ∀ views f s, G views f s → Unraced views f s) (env : Env)
    (a : PlanArgs) : Upholds Referring G views (createSchedulePlan env a) := by
  unfold createSchedulePlan
  refine upholds_query fun v hv plan hplan => upholds_configWrite fun w =>
    upholds_body_execute fun s t1 hs hallowed hinsert _ t' hrun => ?_
  obtain ⟨-,rfl⟩ := Body.runOn_ret_ok hrun
  have hinserted := hinsert
  obtain rfl := Except.ok.inj hinserted
  have htarget : plan.target.Resolves s.tables :=
    (hG _ _ _ hallowed).target hinsert (by simp)
      (.inl ⟨_,List.mem_append_right _ List.mem_cons_self,rfl⟩)
      (normalizeSchedulePlanFields_target hplan)
  refine hs.2.withPlans fun q hq => ?_
  rcases List.mem_append.mp hq with hq | hq
  · exact .inl ⟨q,hq,rfl⟩
  · rw [List.mem_singleton.mp hq]
    exact .inr htarget

lemma updateSchedulePlan_upholds (hG : ∀ views f s, G views f s → Unraced views f s) (env : Env)
    (id : PyVal) (a : PlanArgs) : Upholds Referring G views (updateSchedulePlan env id a) := by
  unfold updateSchedulePlan
  refine upholds_query fun v hv checked hchecked => ?_
  obtain ⟨id,plan⟩ := checked
  obtain ⟨_,-,hchecked⟩ := bind_ok hchecked
  obtain ⟨plan',hplan,hchecked⟩ := bind_ok hchecked
  obtain ⟨-,rfl⟩ := Prod.mk.inj (Except.ok.inj hchecked)
  refine upholds_bind (upholds_configWrite fun w => upholds_body_ofPy fun n _ =>
    upholds_body_statement fun s t1 hs hallowed hamend => ?_) fun _ _ => upholds_read _
  have htarget : plan'.target.Resolves s.tables := by
    have hamended := hamend
    unfold amendSchedulePlan at hamended
    split at hamended
    · cases hamended
    · next found hfound =>
      obtain rfl := Except.ok.inj hamended
      obtain ⟨hmem,hkey⟩ := Rows.row_some hfound
      refine (hG _ _ _ hallowed).target hamend (v:=v) (by simp)
        (.inl ⟨_,List.mem_map_of_mem hmem,?_⟩) (normalizeSchedulePlanFields_target hplan)
      rw [if_pos hkey]
  exact hs.2.amendSchedulePlan (fun _ _ => .inr (by exact htarget)) hamend

lemma setSchedulePlanEnabled_upholds (env : Env) (id : PyVal) (enabled : Bool) :
    Upholds Referring G views (setSchedulePlanEnabled env id enabled) := by
  unfold setSchedulePlanEnabled
  refine upholds_configWrite fun w => upholds_body_ofPy fun n _ =>
    upholds_body_execute fun s t1 hs _ hamend _ t' hrun => ?_
  obtain ⟨-,rfl⟩ := Body.runOn_ret_ok hrun
  refine Referring.amendSchedulePlan hs.2 (fun _ _ => .inl ?_) hamend
  rfl

lemma deleteSchedulePlan_upholds (env : Env) (id : ℤ) :
    Upholds Referring G views (deleteSchedulePlan env id) := by
  unfold deleteSchedulePlan
  refine upholds_configWrite fun w => upholds_body_ofPy fun n _ =>
    upholds_body_execute fun s t1 hs _ hdrop _ t' hrun => ?_
  obtain ⟨-,rfl⟩ := Body.runOn_ret_ok hrun
  split at hdrop
  · cases hdrop
  · obtain rfl := Except.ok.inj hdrop
    exact hs.2.withPlans fun plan hplan => .inl ⟨plan,(List.mem_filter.mp hplan).1,rfl⟩

end Plans

section Exceptions
variable {env : Env} {t t' : Tables} {G : List Store → Prog.Allows Store StoreError}
  {views : List Store}

lemma Referring.withTemplates {templates : List ScheduleTemplate} {n : ℤ} (h : Referring t)
    (htemplates : ∀ e ∈ t.dateExceptions, ∀ id, e.mode=.template id →
      ∃ s ∈ templates, s.id=id) :
    Referring { t with scheduleTemplates := templates, scheduleTemplateSeq := n } := by
  refine ⟨⟨h.1.presets,h.1.plans,fun e he => ⟨(h.1.exceptions e he).1,?_⟩,h.1.default⟩,h.2⟩
  cases hmode : e.mode with
  | template id => exact htemplates e he id hmode
  | mode m => trivial

lemma Referring.withExceptions {exceptions : List DateException} {n : ℤ} (h : Referring t)
    (hexceptions : ∀ e ∈ exceptions,
      e ∈ t.dateExceptions ∨ e.target.Resolves t ∧ e.mode.Resolves t) :
    Referring { t with dateExceptions := exceptions, dateExceptionSeq := n } :=
  ⟨h.1.transfer (fun p hp => ⟨p,hp,rfl⟩) (fun s hs => ⟨s,hs,rfl⟩) h.1.presets
    (fun plan hplan => .inl ⟨plan,hplan,rfl⟩) hexceptions (.inl rfl),h.2⟩

lemma saveScheduleTemplate_upholds (env : Env) (name description entries : PyVal) :
    Upholds Referring G views (saveScheduleTemplate env name description entries) := by
  unfold saveScheduleTemplate
  refine upholds_ofPy fun checked _ => ?_
  obtain ⟨name,clean⟩ := checked
  refine upholds_configWrite fun w => upholds_body_ofPy fun description _ =>
    upholds_body_execute fun s t1 hs _ hinsert _ t' hrun => ?_
  obtain ⟨-,rfl⟩ := Body.runOn_ret_ok hrun
  unfold insertScheduleTemplate at hinsert
  split_ifs at hinsert
  obtain rfl := Except.ok.inj hinsert
  refine hs.2.withTemplates fun e he id hmode => ?_
  have hresolves := (hs.2.1.exceptions e he).2
  rw [hmode] at hresolves
  obtain ⟨template,htemplate,hid⟩ := hresolves
  exact ⟨template,List.mem_append_left _ htemplate,hid⟩

lemma deleteScheduleTemplate_upholds (hG : ∀ views f s, G views f s → Unraced views f s)
    (env : Env) (id : ℤ) : Upholds Referring G views (deleteScheduleTemplate env id) := by
  unfold deleteScheduleTemplate
  refine upholds_configWrite fun w => upholds_body_ofPy fun n hn =>
    upholds_body_read fun v hv _ hunused =>
    upholds_body_execute fun s t1 hs hallowed hdrop _ t' hrun => ?_
  obtain rfl := sqlInt_ok hn
  obtain ⟨-,rfl⟩ := Body.runOn_ret_ok hrun
  have hunused := refuse_ok hunused
  have hdropped := hdrop
  split at hdropped
  · cases hdropped
  · obtain rfl := Except.ok.inj hdropped
    refine hs.2.withTemplates fun e he other hmode => ?_
    have hresolves := (hs.2.1.exceptions e he).2
    rw [hmode] at hresolves
    obtain ⟨template,htemplate,rfl⟩ := hresolves
    refine ⟨template,List.mem_filter.mpr ⟨htemplate,decide_eq_true fun heq => ?_⟩,rfl⟩
    -- an exception that has come to use the template since the check
    refine (hG _ _ _ hallowed).unused (r:=.template n) hdrop List.mem_cons_self
      ⟨template,htemplate,heq⟩ ?_ ?_ ⟨e,he,by rw [hmode,heq]⟩
    · rintro ⟨c,hc,hckey⟩
      exact of_decide_eq_true (List.mem_filter.mp hc).2 hckey
    · rintro ⟨x,hx,hxmode⟩
      exact hunused (by simpa using ⟨x,hx,hxmode⟩)

lemma exceptionFields_resolves {a : ExceptionArgs} {e : DateException}
    (h : exceptionFields env t a=.ok e) : e.target.Resolves t ∧ e.mode.Resolves t := by
  obtain ⟨label,-,h⟩ := bind_ok h
  obtain ⟨_,-,h⟩ := bind_ok h
  obtain ⟨target,htarget,h⟩ := bind_ok h
  obtain ⟨mode,-,h⟩ := bind_ok h
  have htarget := validateScheduleTarget_ok htarget
  split at h
  · obtain ⟨_,-,h⟩ := bind_ok h
    split at h
    · obtain ⟨_,-,h⟩ := bind_ok h
      dsimp only at h
      split at h
      · obtain ⟨_,hmode,h⟩ := bind_ok h
        obtain rfl := Except.ok.inj hmode
        obtain rfl := Except.ok.inj h
        exact ⟨htarget,trivial⟩
      · obtain ⟨_,-,h⟩ := bind_ok h
        obtain ⟨id,-,h⟩ := bind_ok h
        obtain ⟨_,hfound,h⟩ := bind_ok h
        obtain ⟨_,hmode,h⟩ := bind_ok h
        obtain rfl := Except.ok.inj hmode
        obtain rfl := Except.ok.inj h
        exact ⟨htarget,by simpa [ExceptionMode.Resolves] using refuse_ok hfound⟩
    · cases h
  · split_ifs at h
  · cases h

/-- So does its template. -/
lemma Unraced.mode {views : List Store} {f : Tables → Py Tables} {s v : Store}
    (h : Unraced views (onTables f) s) (hf : f s.tables=.ok t') (hv : v ∈ views)
    {mode : ExceptionMode} (hused : ∃ e ∈ t'.dateExceptions, e.mode=mode)
    (hfound : mode.Resolves v.tables) : mode.Resolves s.tables := by
  cases mode with
  | template id => exact h.found (r:=.template id) hf hv hused hfound
  | mode m => trivial

lemma saveDateException_upholds (hG : ∀ views f s, G views f s → Unraced views f s) (env : Env)
    (a : ExceptionArgs) : Upholds Referring G views (saveDateException env a) := by
  unfold saveDateException
  refine upholds_query fun v hv e he => upholds_configWrite fun w => upholds_body_ofPy fun notes _ =>
    upholds_body_execute fun s t1 hs hallowed hinsert _ t' hrun => ?_
  obtain ⟨-,rfl⟩ := Body.runOn_ret_ok hrun
  have hinserted := hinsert
  obtain rfl := Except.ok.inj hinserted
  have hunraced := hG _ _ _ hallowed
  obtain ⟨htarget,hmode⟩ := exceptionFields_resolves he
  have htarget : e.target.Resolves s.tables := hunraced.target hinsert (by simp)
    (.inr ⟨_,List.mem_append_right _ List.mem_cons_self,rfl⟩) htarget
  have hmode : e.mode.Resolves s.tables := hunraced.mode hinsert (by simp)
    ⟨_,List.mem_append_right _ List.mem_cons_self,rfl⟩ hmode
  refine hs.2.withExceptions fun x hx => ?_
  rcases List.mem_append.mp hx with hx | hx
  · exact .inl hx
  · rw [List.mem_singleton.mp hx]
    exact .inr ⟨htarget,hmode⟩

lemma deleteDateException_upholds (env : Env) (id : ℤ) :
    Upholds Referring G views (deleteDateException env id) := by
  unfold deleteDateException
  refine upholds_configWrite fun w => upholds_body_ofPy fun n _ =>
    upholds_body_execute fun s t1 hs _ hdrop _ t' hrun => ?_
  obtain ⟨-,rfl⟩ := Body.runOn_ret_ok hrun
  split at hdrop
  · cases hdrop
  · obtain rfl := Except.ok.inj hdrop
    exact hs.2.withExceptions fun e he => .inl (List.mem_filter.mp he).1

end Exceptions

section Settings
variable {env : Env} {t t' : Tables} {G : List Store → Prog.Allows Store StoreError}
  {views : List Store}

lemma defaultProfile_ok {value : PyVal} {text : String} (h : defaultProfile t value=.ok text) :
    text="" ∨ ProfileNamed t text := by
  unfold defaultProfile at h
  split at h
  · exact .inl (Except.ok.inj h).symm
  · exact .inl (Except.ok.inj h).symm
  · obtain ⟨id,-,h⟩ := bind_ok h
    obtain ⟨found,hfound,h⟩ := bind_ok h
    cases found with
    | none => cases h
    | some p =>
      obtain rfl := Except.ok.inj h
      have hp := requestedProfile_ok hfound
      exact .inr ⟨p,List.mem_of_find?_eq_some hp,by rw [getProfile_id hp]⟩

/-- The default profile after the settings have been written. -/
lemma defaultProfileId_putSettings {a : SettingsArgs} {values : List (String × String)}
    (h : settingValues env t a=.ok values) :
    defaultProfileId (putSettings values t')="" ∨
      ProfileNamed t (defaultProfileId (putSettings values t')) := by
  obtain ⟨profile,hprofile,h⟩ := bind_ok h
  obtain ⟨_,-,h⟩ := bind_ok h
  obtain ⟨_,-,h⟩ := bind_ok h
  obtain ⟨_,-,h⟩ := bind_ok h
  obtain ⟨_,-,h⟩ := bind_ok h
  obtain ⟨_,-,h⟩ := bind_ok h
  obtain ⟨_,-,h⟩ := bind_ok h
  obtain ⟨_,-,h⟩ := bind_ok h
  obtain ⟨_,-,h⟩ := bind_ok h
  obtain ⟨_,-,h⟩ := bind_ok h
  obtain ⟨_,-,h⟩ := bind_ok h
  obtain ⟨_,-,h⟩ := bind_ok h
  obtain rfl := Except.ok.inj h
  simp only [defaultProfileId,settingOr,putSettings,List.foldl,lookup_dictSet]
  exact defaultProfile_ok hprofile

lemma saveSettings_upholds (hG : ∀ views f s, G views f s → Unraced views f s) (env : Env)
    (a : SettingsArgs) : Upholds Referring G views (saveSettings env a) := by
  unfold saveSettings
  refine upholds_query fun v hv values hvalues => upholds_configWrite fun w =>
    upholds_body_execute fun s t1 hs hallowed hput _ t' hrun => ?_
  obtain ⟨-,rfl⟩ := Body.runOn_ret_ok hrun
  have hwritten := hput
  obtain rfl := Except.ok.inj hwritten
  refine ⟨hs.2.1.transfer (fun p hp => ⟨p,hp,rfl⟩) (fun s hs => ⟨s,hs,rfl⟩) hs.2.1.presets
    (fun plan hplan => .inl ⟨plan,hplan,rfl⟩) (fun _ he => .inl he) (.inr ?_),hs.2.2⟩
  refine (defaultProfileId_putSettings hvalues).imp_right fun hfound => ?_
  exact (hG _ _ _ hallowed).found (r:=.profile _) hput (by simp) (.inr (.inr rfl)) hfound

end Settings

section Clear
variable {t : Tables}

/-- Without profiles nothing may name one. -/
lemma References.cleared_iff (h : Seeded t) :
    Referring (clearedConfig t) ↔ defaultProfileId t="" := by
  have hnone (value : String) : ¬ProfileNamed (clearedConfig t) value := by
    rintro ⟨p,hp,-⟩
    exact List.not_mem_nil hp
  constructor
  · rintro ⟨⟨-,-,-,hdefault⟩,-⟩
    exact hdefault.resolve_right (hnone _)
  · intro hdefault
    obtain ⟨⟨b,hb,hkey⟩,hbuiltin⟩ := h
    refine ⟨⟨nofun,nofun,nofun,.inl hdefault⟩,⟨b,?_,hkey⟩,fun c hc => ?_⟩
    · exact List.mem_filter.mpr ⟨hb,hbuiltin b hb hkey⟩
    · exact hbuiltin c (List.mem_filter.mp hc).1

lemma clearConfig_upholds {G : List Store → Prog.Allows Store StoreError} {views : List Store}
    (hG : ∀ views f s, G views f s → defaultProfileId s.tables="") :
    Upholds Referring G views clearConfig :=
  upholds_write fun s s' hs hallowed hf => by
    obtain rfl := Except.ok.inj hf
    exact ⟨hs.1,(References.cleared_iff hs.2.2).mpr (hG _ _ _ hallowed)⟩

lemma elsewhere_upholds {G : List Store → Prog.Allows Store StoreError} {views : List Store}
    {f : Store → Py Store} (h : ∀ s s', f s=.ok s' →
      (s.journal.Bounded → s'.journal.Bounded) ∧ Elsewhere s.tables s'.tables) :
    Upholds Referring G views (Prog.withDb (Prog.write f fun _ => .ret ())) :=
  upholds_write fun s s' hs _ hf => ⟨(h s s' hf).1 hs.1,(h s s' hf).2.referring hs.2⟩

end Clear
end ZenControl
