import ZenControl.References.Resolution

/-! Runs of the public operations from a fresh database, statement by statement. -/
namespace ZenControl
open Calls

section Runs

/-- `DEFAULT_BANDWIDTH_PRESETS`. -/
def defaultBandwidthPresets : List BandwidthPreset :=
  [{ key := "normal", name := "Normal", upload := "Unlimited", download := "Unlimited",
     description := "No additional bandwidth restriction.", builtin := true },
   { key := "slow", name := "Slow", upload := "128k", download := "256k",
     description := "Very limited browsing; streaming should struggle.", builtin := true },
   { key := "very_slow", name := "Very slow", upload := "64k", download := "128k",
     description := "Barely usable connectivity.", builtin := true },
   { key := "homework", name := "Homework", upload := "512k", download := "2M",
     description := "Useful web access without comfortable HD streaming.", builtin := true },
   { key := "basic", name := "Basic", upload := "1M", download := "5M",
     description := "General browsing and messaging with constrained video.", builtin := true }]

/-- A database that `_init_db` has just made. -/
structure Fresh (s : Store) : Prop where
  journal : s.journal.Bounded
  presets : s.tables.bandwidthPresets=defaultBandwidthPresets
  profiles : s.tables.profiles=[]
  plans : s.tables.schedulePlans=[]
  exceptions : s.tables.dateExceptions=[]
  default : defaultProfileId s.tables=""

/-- What an operation must find so that it drops nothing that is referred to: `delete_profile`
finds no reference to its profile, `apply_template` the preset of the template that it has read,
`import_config` no default profile. -/
def PolicyOp.Spares (views : List Store) (t : Tables) : PolicyOp → Prop
  | .deleteProfile id => (∃ p ∈ t.profiles, p.id.val=id) → Untargeted t (toString id)
  | .applyTemplate templateId profileId => ∀ v ∈ views.head?, ∀ template,
      Rows.row PolicyTemplate.id templateId v.tables.policyTemplates=some template →
        (∃ p ∈ t.profiles, p.id.val=profileId) → PresetKnown t template.bandwidthPreset
  | .clearConfig => defaultProfileId t=""
  | _ => True

/-- The condition on the first write of an operation. -/
structure PolicyOp.Allowed (op : PolicyOp) (views : List Store) (f : Store → Py Store) (s : Store) :
    Prop where
  unraced : Unraced views f s
  spares : op.Spares views s.tables

/-- Every reference of desired policy exists, and no effective policy fails for a missing one. -/
def PolicyResolves (t : Tables) : Prop :=
  References t ∧ ∀ (rt : Runtime) (ip : String) (policyAt : PolicyAt) (usage : Option QuotaUsage)
    (supported : Option (List String)),
    NotMissing (computeEffectivePolicy rt t ip policyAt usage supported)

variable {env : Env} {s : Store}

lemma Fresh.good (h : Fresh s) : Good Referring s := by
  have hnormal : PresetKnown s.tables "normal" ∧
      ∀ b ∈ s.tables.bandwidthPresets, b.key="normal" → b.builtin := by
    unfold PresetKnown
    rw [h.presets]
    decide
  refine ⟨h.journal,⟨fun p hp => ?_,fun p hp => ?_,fun e he => ?_,.inl h.default⟩,hnormal⟩
  · exact absurd (h.profiles ▸ hp) List.not_mem_nil
  · exact absurd (h.plans ▸ hp) List.not_mem_nil
  · exact absurd (h.exceptions ▸ he) List.not_mem_nil

/-- An allowed operation keeps all references beside other ones. -/
theorem PolicyOp.upholds (env : Env) (op : PolicyOp) :
    Upholds Referring op.Allowed [] (op.program env) := by
  cases op with
  | createProfile a =>
    exact upholds_discarding (createProfile_upholds (fun _ _ _ h => h.unraced) env a)
  | updateProfile id a =>
    exact upholds_discarding (updateProfile_upholds (fun _ _ _ h => h.unraced) env id a)
  | deleteProfile id => exact deleteProfile_upholds env id fun _ _ _ h => h.spares
  | applyTemplate templateId profileId =>
    exact applyTemplate_upholds env templateId profileId fun _ _ _ h => h.spares
  | saveBandwidthPreset a => exact saveBandwidthPreset_upholds env a
  | deleteBandwidthPreset key =>
    exact deleteBandwidthPreset_upholds (fun _ _ _ h => h.unraced) env key
  | createSchedulePlan a =>
    exact upholds_discarding (createSchedulePlan_upholds (fun _ _ _ h => h.unraced) env a)
  | updateSchedulePlan id a =>
    exact upholds_discarding (updateSchedulePlan_upholds (fun _ _ _ h => h.unraced) env id a)
  | setSchedulePlanEnabled id enabled => exact setSchedulePlanEnabled_upholds env id enabled
  | deleteSchedulePlan id => exact deleteSchedulePlan_upholds env id
  | saveScheduleTemplate name description entries =>
    exact upholds_discarding (saveScheduleTemplate_upholds env name description entries)
  | deleteScheduleTemplate id =>
    exact deleteScheduleTemplate_upholds (fun _ _ _ h => h.unraced) env id
  | saveDateException a =>
    exact upholds_discarding (saveDateException_upholds (fun _ _ _ h => h.unraced) env a)
  | deleteDateException id => exact deleteDateException_upholds env id
  | saveSettings a =>
    exact upholds_discarding (saveSettings_upholds (fun _ _ _ h => h.unraced) env a)
  | clearConfig => exact clearConfig_upholds fun _ _ _ h => h.spares
  | elsewhere f h => exact elsewhere_upholds h

variable {ι : Type}

abbrev PolicyPoint (ι : Type) :=
  Config ι (Sql Store StoreError) Sql.Answer StoreError Unit (Database ι Store)

/-- Operations that are about to begin. -/
def opened (env : ι → Env) (ops : ι → PolicyOp) (s : Store) : PolicyPoint ι :=
  ⟨⟨s,none⟩,fun i => (ops i).program (env i)⟩

/-- In every interleaving of operations that drop nothing that is referred to, desired policy
resolves throughout. -/
theorem policy_resolves_throughout [DecidableEq ι] (env : ι → Env) (ops : ι → PolicyOp)
    (hfresh : Fresh s) {c : PolicyPoint ι × Views ι Store}
    (run : Watched (allowedBy fun i => (ops i).Allowed) (opened env ops s,fun _ => []) c) :
    PolicyResolves c.1.shared.committed.tables := by
  obtain ⟨⟨-,hreferences,hseeded⟩,-⟩ := Prog.Meets.run (I := Good Referring) (fun _ => trivial)
    (fun _ _ _ _ _ => trivial) hfresh.good
    (fun i => PolicyOp.upholds (env i) (ops i) s hfresh.good) run
  exact ⟨hreferences,fun rt ip policyAt usage supported =>
    hreferences.resolves hseeded rt ip policyAt usage supported⟩

def freshStore : Store := ⟨{},{ bandwidthPresets := defaultBandwidthPresets }⟩

lemma freshStore_fresh : Fresh freshStore :=
  ⟨nofun,rfl,rfl,rfl,rfl,rfl⟩

/-- The calls about a profile that has a plan. -/
inductive PlannedCall
  | profile | plan | unplan | drop
  deriving DecidableEq

/-- A profile, a plan for it, and the deletion of both. -/
def plannedProfile : PlannedCall → PolicyOp
  | .profile => .createProfile
    { name := .str "Kids", desiredMode := .str "normal", bandwidthPreset := .str "slow" }
  | .plan => .createSchedulePlan
    { label := .str "Bedtime", targetType := .str "profile", targetValue := .str "1",
      actionType := .str "mode", actionValue := .str "blocked", clockTime := .str "21:00",
      days := .list [.str "mon"] }
  | .unplan => .deleteSchedulePlan 1
  | .drop => .deleteProfile 1

/-- Whether the next write finds the tables as its operation has seen them, and a deletion of the
profile nothing that names it. -/
def unracedNow (i : PlannedCall) (views : List Store) (c : PolicyPoint PlannedCall) : Bool :=
  match c.code i with
  | .call (.write _) _ => views.all (fun v => decide (v.tables=c.shared.committed.tables)) &&
      decide (i=.drop → c.shared.committed.tables.schedulePlans=[] ∧
        c.shared.committed.tables.dateExceptions=[] ∧
        defaultProfileId c.shared.committed.tables≠toString (1 : ℤ))
  | _ => true

lemma unracedNow_guard (i : PlannedCall) (views : Views PlannedCall Store) (c : PolicyPoint PlannedCall)
    (h : unracedNow i (views i) c) :
    (allowedBy fun i => (plannedProfile i).Allowed).step i (c,views) := by
  intro _
  unfold unracedNow at h
  unfold ViewGuard.given allowedBy Prog.Allowed
  split at h
  · next f k hcode =>
    rw [hcode]
    obtain ⟨hseen,hspared⟩ := Bool.and_eq_true_iff.mp h
    refine ⟨fun s' _ v hv r => ?_,?_⟩
    · rw [of_decide_eq_true (List.all_eq_true.mp hseen v hv)]
      exact ⟨fun _ hexists => hexists,fun _ _ hused => hused⟩
    · have hspared := of_decide_eq_true hspared
      cases i with
      | profile => trivial
      | plan => trivial
      | unplan => trivial
      | drop =>
        obtain ⟨hplans,hexceptions,hdefault⟩ := hspared rfl
        refine fun _ => ⟨fun plan hplan => ?_,fun e he => ?_,hdefault⟩
        · exact absurd (hplans ▸ hplan) List.not_mem_nil
        · exact absurd (hexceptions ▸ he) List.not_mem_nil
  · next hcode =>
    split
    · next f k hcode' => exact absurd hcode' (hcode f k)
    · trivial

/-- The profile is deleted when its plan has gone. -/
def unplanned : List PlannedCall :=
  List.replicate 11 .profile ++ List.replicate 9 .plan ++ List.replicate 7 .unplan ++
    List.replicate 8 .drop

lemma unplanned_ends : (watch unracedNow unplanned
    (opened (fun _ => asciiEnv) plannedProfile freshStore,fun _ => [])).isSome := by decide +kernel

/-- A profile that no plan targets any longer can be deleted. -/
theorem policy_resolves_unplanned : ∃ c : PolicyPoint PlannedCall,
    (∀ i, c.code i=.ret ()) ∧ PolicyResolves c.shared.committed.tables := by
  have hrun := watch_run unracedNow_guard (Option.some_get unplanned_ends).symm
  refine ⟨_,fun i => ?_,policy_resolves_throughout (fun _ => asciiEnv) plannedProfile
    freshStore_fresh hrun⟩
  cases i <;> rfl

/-- The profile is deleted before its plan. -/
def planned : List PlannedCall :=
  List.replicate 11 .profile ++ List.replicate 9 .plan ++ List.replicate 8 .drop

lemma planned_ends : (Config.exec Database.serve (fun _ _ => true) planned
    (opened (fun _ => asciiEnv) plannedProfile freshStore)).isSome := by decide +kernel

lemma planned_left : ((Config.exec Database.serve (fun _ _ => true) planned
    (opened (fun _ => asciiEnv) plannedProfile freshStore)).get
      planned_ends).shared.committed.tables.profiles=[] ∧
    ((Config.exec Database.serve (fun _ _ => true) planned
      (opened (fun _ => asciiEnv) plannedProfile freshStore)).get
        planned_ends).shared.committed.tables.schedulePlans.map SchedulePlan.target=
          [.profile "1"] := by decide +kernel

/-- A profile that is still the target of a plan can be deleted. -/
theorem deleteProfile_drops_target :
    ¬∀ (s : Store) (c : PolicyPoint PlannedCall), Fresh s → Run (Config.Step Database.serve) anyStep
      (opened (fun _ => asciiEnv) plannedProfile s) c →
        PolicyResolves c.shared.committed.tables := by
  intro h
  have hrun := (Config.exec_run (Option.some_get planned_ends).symm).mono fun _ _ _ => trivial
  have hresolves := (h _ _ freshStore_fresh hrun).1.plans
  obtain ⟨hgone,hleft⟩ := planned_left
  obtain ⟨plan,hplan,htarget⟩ :=
    List.mem_map.mp (hleft ▸ List.mem_singleton_self (Target.profile "1"))
  have hnamed := hresolves plan hplan
  rw [htarget] at hnamed
  obtain ⟨p,hp,-⟩ := hnamed
  rw [hgone] at hp
  exact List.not_mem_nil hp

end Runs
end ZenControl
