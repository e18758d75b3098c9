import ZenControl.References.Operations

/-! The references of desired policy: presets, profiles and templates that are named exist. -/
namespace ZenControl
open Calls

section References
variable {t t' : Tables}

/-- Some profile has the id that a text names. -/
def ProfileNamed (t : Tables) (value : String) : Prop :=
  ∃ p ∈ t.profiles, toString p.id.val=value

def Target.Resolves (t : Tables) : Target → Prop
  | profile value => ProfileNamed t value
  | _ => True

def ExceptionMode.Resolves (t : Tables) : ExceptionMode → Prop
  | template id => ∃ s ∈ t.scheduleTemplates, s.id=id
  | mode _ => True

/-- A preset has the key. -/
def PresetKnown (t : Tables) (key : String) : Prop := ∃ b ∈ t.bandwidthPresets, b.key=key

/-- Whatever desired policy refers to exists. -/
structure References (t : Tables) : Prop where
  presets : ∀ p ∈ t.profiles, PresetKnown t p.bandwidthPreset
  plans : ∀ plan ∈ t.schedulePlans, plan.target.Resolves t
  exceptions : ∀ e ∈ t.dateExceptions, e.target.Resolves t ∧ e.mode.Resolves t
  default : defaultProfileId t="" ∨ ProfileNamed t (defaultProfileId t)

/-- The preset of devices without a profile exists and is a built-in one. -/
def Seeded (t : Tables) : Prop :=
  PresetKnown t "normal" ∧ ∀ b ∈ t.bandwidthPresets, b.key="normal" → b.builtin

/-- What a row of desired policy may refer to. -/
inductive Referent
  | preset (key : String)
  | profile (value : String)
  | template (id : ℤ)

def Referent.Exists (t : Tables) : Referent → Prop
  | preset key => PresetKnown t key
  | profile value => ProfileNamed t value
  | template id => ∃ s ∈ t.scheduleTemplates, s.id=id

def Referent.Used (t : Tables) : Referent → Prop
  | preset key => ∃ p ∈ t.profiles, p.bandwidthPreset=key
  | profile value => (∃ plan ∈ t.schedulePlans, plan.target=.profile value) ∨
      (∃ e ∈ t.dateExceptions, e.target=.profile value) ∨ defaultProfileId t=value
  | template id => ∃ e ∈ t.dateExceptions, e.mode=.template id

/-- Between the queries of an operation and its write nobody has deleted what it has found and
comes to refer to, nor come to refer to what it deletes. -/
def Unraced (views : List Store) (f : Store → Py Store) (s : Store) : Prop :=
  ∀ s', f s=.ok s' → ∀ v ∈ views, ∀ r : Referent,
    (r.Used s'.tables → r.Exists v.tables → r.Exists s.tables) ∧
      (r.Exists s.tables → ¬r.Exists s'.tables → r.Used s.tables → r.Used v.tables)

lemma Unraced.found {views : List Store} {f : Tables → Py Tables} {s v : Store}
    (h : Unraced views (onTables f) s) (hf : f s.tables=.ok t') (hv : v ∈ views) {r : Referent}
    (hused : r.Used t') (hfound : r.Exists v.tables) : r.Exists s.tables :=
  (h _ (onTables_ok hf) v hv r).1 hused hfound

lemma Unraced.unused {views : List Store} {f : Tables → Py Tables} {s v : Store}
    (h : Unraced views (onTables f) s) (hf : f s.tables=.ok t') (hv : v ∈ views) {r : Referent}
    (hexists : r.Exists s.tables) (hgone : ¬r.Exists t') (hunused : ¬r.Used v.tables) :
    ¬r.Used s.tables :=
  fun hused => hunused ((h _ (onTables_ok hf) v hv r).2 hexists hgone hused)

/-- What every allowed operation keeps. -/
def Referring (t : Tables) : Prop := References t ∧ Seeded t

lemma Target.Resolves.mono (hids : ∀ p ∈ t.profiles, ∃ q ∈ t'.profiles, q.id=p.id)
    {target : Target} (h : target.Resolves t) : target.Resolves t' := by
  cases target with
  | profile value =>
    obtain ⟨p,hp,hvalue⟩ := h
    obtain ⟨q,hq,hid⟩ := hids p hp
    exact ⟨q,hq,by rw [hid,hvalue]⟩
  | _ => trivial

lemma ExceptionMode.Resolves.mono
    (htemplates : ∀ s ∈ t.scheduleTemplates, ∃ s' ∈ t'.scheduleTemplates, s'.id=s.id)
    {mode : ExceptionMode} (h : mode.Resolves t) : mode.Resolves t' := by
  cases mode with
  | template id =>
    obtain ⟨s,hs,rfl⟩ := h
    exact htemplates s hs
  | mode m => trivial

/-- References survive where ids stay and what is new refers to what exists. -/
lemma References.transfer (h : References t)
    (hids : ∀ p ∈ t.profiles, ∃ q ∈ t'.profiles, q.id=p.id)
    (htemplates : ∀ s ∈ t.scheduleTemplates, ∃ s' ∈ t'.scheduleTemplates, s'.id=s.id)
    (hpresets : ∀ p ∈ t'.profiles, PresetKnown t' p.bandwidthPreset)
    (hplans : ∀ plan ∈ t'.schedulePlans,
      (∃ old ∈ t.schedulePlans, old.target=plan.target) ∨ plan.target.Resolves t)
    (hexceptions : ∀ e ∈ t'.dateExceptions,
      e ∈ t.dateExceptions ∨ e.target.Resolves t ∧ e.mode.Resolves t)
    (hdefault : defaultProfileId t'=defaultProfileId t ∨ defaultProfileId t'="" ∨
      ProfileNamed t (defaultProfileId t')) : References t' := by
  have hnamed {value : String} (hvalue : ProfileNamed t value) : ProfileNamed t' value :=
    @Target.Resolves.mono t t' hids (.profile value) hvalue
  refine ⟨hpresets,fun plan hplan => ?_,fun e he => ?_,?_⟩
  · rcases hplans plan hplan with ⟨old,hold,htarget⟩ | hresolves
    · exact htarget ▸ (h.plans old hold).mono hids
    · exact hresolves.mono hids
  · rcases hexceptions e he with hold | ⟨htarget,hmode⟩
    · exact ⟨(h.exceptions e hold).1.mono hids,(h.exceptions e hold).2.mono htemplates⟩
    · exact ⟨htarget.mono hids,hmode.mono htemplates⟩
  · rcases hdefault with hsame | hempty | hset
    · rw [hsame]
      exact h.default.imp_right hnamed
    · exact .inl hempty
    · exact .inr (hnamed hset)

/-- A write elsewhere keeps the references. -/
lemma Elsewhere.referring (h : Elsewhere t t') (ht : Referring t) : Referring t' := by
  obtain ⟨href,hseeded⟩ := ht
  have hprofile {p : Profile} {ps qs : List Profile} (hp : p ∈ ps)
      (heq : qs.map (fun p => (p.id,p.bandwidthPreset))=ps.map fun p => (p.id,p.bandwidthPreset)) :
      ∃ q ∈ qs, q.id=p.id ∧ q.bandwidthPreset=p.bandwidthPreset := by
    have hmem := heq ▸ List.mem_map_of_mem (f := fun p : Profile => (p.id,p.bandwidthPreset)) hp
    obtain ⟨q,hq,hpair⟩ := List.mem_map.mp hmem
    exact ⟨q,hq,(Prod.mk.inj hpair).1,(Prod.mk.inj hpair).2⟩
  refine ⟨href.transfer (fun p hp => ?_) (fun s hs => ⟨s,h.templates ▸ hs,rfl⟩) (fun p hp => ?_)
    (fun plan hplan => .inl ⟨plan,h.plans plan hplan,rfl⟩) (fun e he => .inl (h.exceptions e he))
    (.inl h.default),?_⟩
  · obtain ⟨q,hq,hid,-⟩ := hprofile hp h.profiles
    exact ⟨q,hq,hid⟩
  · obtain ⟨q,hq,-,hpreset⟩ := hprofile hp h.profiles.symm
    obtain ⟨b,hb,hkey⟩ := href.presets q hq
    exact ⟨b,h.presets ▸ hb,hkey.trans hpreset⟩
  · unfold Seeded PresetKnown
    rw [h.presets]
    exact hseeded

end References

section Profiles
variable {env : Env} {t t' : Tables} {G : List Store → Prog.Allows Store StoreError}
  {views : List Store}

lemma Referring.withProfiles {ps : List Profile} {n : ℕ} (h : Referring t)
    (hids : ∀ p ∈ t.profiles, ∃ q ∈ ps, q.id=p.id)
    (hpresets : ∀ p ∈ ps, PresetKnown t p.bandwidthPreset) :
    Referring { t with profiles := ps, profileSeq := n } :=
  ⟨h.1.transfer hids (fun s hs => ⟨s,hs,rfl⟩) hpresets (fun plan hplan => .inl ⟨plan,hplan,rfl⟩)
    (fun _ he => .inl he) (.inl rfl),h.2⟩

/-- A profile that is changed in place, to a preset that is known. -/
lemma Referring.amendProfile {id : ℤ} {f : Profile → Profile} (h : Referring t)
    (hid : ∀ p, (f p).id=p.id) (hpreset : ∀ p ∈ t.profiles, PresetKnown t (f p).bandwidthPreset) :
    Referring { t with profiles := Rows.amend (fun p : Profile => p.id.val) id f t.profiles } := by
  refine h.withProfiles (fun p hp => ?_) fun p hp => ?_
  · refine ⟨_,List.mem_map_of_mem hp,?_⟩
    split_ifs
    · exact hid p
    · rfl
  · obtain ⟨q,hq,rfl⟩ := List.mem_map.mp hp
    split_ifs
    · exact hpreset q hq
    · exact h.1.presets q hq

lemma checkedProfile_preset {rt : Runtime} {a : ProfileArgs} {name : String}
    {fields : PolicyFields} (h : checkedProfile rt t a=.ok (name,fields)) :
    PresetKnown t fields.bandwidthPreset := by
  obtain ⟨_,-,h⟩ := bind_ok h
  obtain ⟨checked,hchecked,h⟩ := bind_ok h
  obtain ⟨-,rfl⟩ := Prod.mk.inj (Except.ok.inj h)
  obtain ⟨_,-,h⟩ := bind_ok hchecked
  obtain ⟨mode,-,h⟩ := bind_ok h
  obtain ⟨preset,hpreset,h⟩ := bind_ok h
  obtain ⟨_,-,h⟩ := bind_ok h
  obtain ⟨daily,-,h⟩ := bind_ok h
  obtain ⟨_,-,h⟩ := bind_ok h
  obtain ⟨services,-,h⟩ := bind_ok h
  obtain rfl := Except.ok.inj h
  exact validatePreset_ok hpreset

lemma createProfile_upholds (hG : ∀ views f s, G views f s → Unraced views f s) (env : Env)
    (a : ProfileArgs) : Upholds Referring G views (createProfile env a) := by
  unfold createProfile
  refine upholds_query fun v hv checked hchecked => ?_
  obtain ⟨name,fields⟩ := checked
  refine upholds_bind (upholds_configWrite fun w => upholds_body_ofPy fun notes _ =>
    upholds_body_execute fun s t1 hs hallowed hinsert id t' hrun => ?_) fun _ _ => upholds_read _
  obtain ⟨-,rfl⟩ := Body.runOn_ret_ok hrun
  have hfound : PresetKnown v.tables fields.bandwidthPreset := checkedProfile_preset hchecked
  have hinserted := hinsert
  unfold insertProfile at hinserted
  split_ifs at hinserted
  obtain rfl := Except.ok.inj hinserted
  have hpreset : PresetKnown s.tables fields.bandwidthPreset :=
    (hG _ _ _ hallowed).found (r:=.preset fields.bandwidthPreset) hinsert (by simp)
      ⟨_,List.mem_append_right _ List.mem_cons_self,rfl⟩ hfound
  refine hs.2.withProfiles (fun p hp => ⟨p,List.mem_append_left _ hp,rfl⟩) fun p hp => ?_
  rcases List.mem_append.mp hp with hp | hp
  · exact hs.2.1.presets p hp
  · rw [List.mem_singleton.mp hp]
    exact hpreset

lemma updateProfile_upholds (hG : ∀ views f s, G views f s → Unraced views f s) (env : Env)
    (id : ℤ) (a : ProfileArgs) : Upholds Referring G views (updateProfile env id a) := by
  unfold updateProfile
  refine upholds_query fun v hv checked hchecked => ?_
  obtain ⟨name,fields⟩ := checked
  refine upholds_bind (upholds_configWrite fun w => upholds_body_ofPy fun notes _ =>
    upholds_body_ofPy fun id _ => upholds_body_statement fun s t1 hs hallowed hrename => ?_)
    fun _ _ => upholds_read _
  have hfound : PresetKnown v.tables fields.bandwidthPreset := checkedProfile_preset hchecked
  have hrenamed := hrename
  unfold renameProfile at hrenamed
  split at hrenamed
  · cases hrenamed
  · next p hp =>
    split_ifs at hrenamed
    obtain rfl := Except.ok.inj hrenamed
    have hid : p.id.val=id := getProfile_id hp
    have hpreset : PresetKnown s.tables fields.bandwidthPreset := by
      refine (hG _ _ _ hallowed).found (r:=.preset fields.bandwidthPreset) hrename (by simp) ?_ hfound
      refine ⟨_,List.mem_map_of_mem (List.mem_of_find?_eq_some hp),?_⟩
      rw [if_pos hid]
    exact hs.2.amendProfile (fun _ => rfl) fun _ _ => hpreset

lemma int_repr_ne_empty (n : ℤ) : toString n≠"" := by
  intro h
  simp only [Int.toString_eq_repr,Int.repr_eq_if] at h
  split_ifs at h
  · exact Nat.repr_ne_empty h
  · simpa using congrArg String.toList h

/-- No plan, no exception and no default names a profile. -/
def Untargeted (t : Tables) (value : String) : Prop :=
  (∀ plan ∈ t.schedulePlans, plan.target≠.profile value) ∧
    (∀ e ∈ t.dateExceptions, e.target≠.profile value) ∧ defaultProfileId t≠value

/-- What `delete_profile` leaves. -/
def withoutProfile (id : ℤ) (t : Tables) : Tables :=
  { t with
    devicePolicy := t.devicePolicy.map fun d =>
      if d.profileId.map Subtype.val=some id then { d with profileId := none } else d
    profiles := Rows.drop (fun p : Profile => p.id.val) id t.profiles }

/-- The references to other profiles survive, those to the deleted one do not. -/
lemma References.withoutProfile_iff {id : ℤ} (h : References t) :
    References (withoutProfile id t) ↔ Untargeted t (toString id) := by
  have hnamed (value : String) : ProfileNamed (withoutProfile id t) value ↔
      ProfileNamed t value ∧ value≠toString id := by
    constructor
    · rintro ⟨p,hp,rfl⟩
      obtain ⟨hp,hne⟩ := List.mem_filter.mp hp
      refine ⟨⟨p,hp,rfl⟩,fun heq => ?_⟩
      exact of_decide_eq_true hne (int_repr_injective heq)
    · rintro ⟨⟨p,hp,rfl⟩,hne⟩
      refine ⟨p,List.mem_filter.mpr ⟨hp,decide_eq_true fun heq => hne ?_⟩,rfl⟩
      rw [show p.id.val=id from heq]
  have hsome : ¬ProfileNamed (withoutProfile id t) (toString id) := fun hp =>
    ((hnamed _).mp hp).2 rfl
  have hresolves (target : Target) : target.Resolves (withoutProfile id t) ↔
      target.Resolves t ∧ target≠.profile (toString id) := by
    cases target with
    | profile value => simpa [Target.Resolves] using hnamed value
    | _ => simp [Target.Resolves]
  constructor
  · rintro ⟨-,hplans,hexceptions,hdefault⟩
    refine ⟨fun plan hplan => ((hresolves _).mp (hplans plan hplan)).2,
      fun e he => ((hresolves _).mp (hexceptions e he).1).2,fun heq => ?_⟩
    rcases hdefault with hnone | hp
    · exact int_repr_ne_empty id (heq.symm.trans hnone)
    · exact hsome (heq ▸ hp)
  · rintro ⟨hplans,hexceptions,hdefault⟩
    refine ⟨fun p hp => h.presets p (List.mem_filter.mp hp).1,fun plan hplan =>
      (hresolves _).mpr ⟨h.plans plan hplan,hplans plan hplan⟩,fun e he =>
      ⟨(hresolves _).mpr ⟨(h.exceptions e he).1,hexceptions e he⟩,(h.exceptions e he).2.mono
        fun s hs => ⟨s,hs,rfl⟩⟩,h.default.imp_right fun hp => (hnamed _).mpr ⟨hp,hdefault⟩⟩

lemma deleteProfile_upholds (env : Env) (id : ℤ) (hG : ∀ views f s, G views f s →
      (∃ p ∈ s.tables.profiles, p.id.val=id) → Untargeted s.tables (toString id)) :
    Upholds Referring G views (deleteProfile env id) := by
  unfold deleteProfile
  refine upholds_configWrite fun w => upholds_body_ofPy fun n hid =>
    upholds_body_execute fun s t1 hs hallowed hdevices _ t' hrun => ?_
  obtain rfl := sqlInt_ok hid
  obtain rfl := Except.ok.inj hdevices
  obtain ⟨_,t3,hdelete,hrun⟩ := Body.runOn_bind_ok hrun
  obtain ⟨hdrop,-⟩ := Body.runOn_execute_ok hdelete
  obtain ⟨-,rfl⟩ := Body.runOn_ret_ok hrun
  split at hdrop
  · cases hdrop
  · next p hp =>
    obtain rfl := Except.ok.inj hdrop
    have hfound : ∃ p ∈ s.tables.profiles, p.id.val=n :=
      ⟨p,List.mem_of_find?_eq_some hp,by simpa using List.find?_some hp⟩
    exact ⟨hs.2.1.withoutProfile_iff.mpr (hG _ _ _ hallowed hfound),hs.2.2⟩

lemma applyTemplate_upholds (env : Env) (templateId profileId : ℤ) (hG : ∀ views f s,
      G views f s → ∀ v ∈ views.head?, ∀ template,
        Rows.row PolicyTemplate.id templateId v.tables.policyTemplates=some template →
          (∃ p ∈ s.tables.profiles, p.id.val=profileId) →
            PresetKnown s.tables template.bandwidthPreset) :
    Upholds Referring G views (applyTemplate env templateId profileId) := by
  unfold applyTemplate
  refine upholds_configWrite fun w => upholds_body_ofPy fun n hn =>
    upholds_body_read fun v hv found hrow => ?_
  obtain rfl := sqlInt_ok hn
  obtain rfl := Except.ok.inj hrow
  cases htemplate : Rows.row PolicyTemplate.id n v.tables.policyTemplates with
  | none => exact upholds_body_raise _
  | some template =>
    refine upholds_body_ofPy fun m hm =>
      upholds_body_execute fun s t1 hs hallowed hamend _ t' hrun => ?_
    obtain rfl := sqlInt_ok hm
    obtain ⟨-,rfl⟩ := Body.runOn_ret_ok hrun
    split at hamend
    · cases hamend
    · next p hp =>
      obtain rfl := Except.ok.inj hamend
      have hfound : ∃ p ∈ s.tables.profiles, p.id.val=m :=
        ⟨p,List.mem_of_find?_eq_some hp,by simpa using List.find?_some hp⟩
      exact hs.2.amendProfile (fun _ => rfl) fun _ _ =>
        hG _ _ _ hallowed v rfl template htemplate hfound

end Profiles
end ZenControl
