import ZenControl.Library.Outcomes
import ZenControl.Library.Rely
import ZenControl.Store.Presets
import ZenControl.Store.Profiles

/-! The public operations of the store that write what desired policy refers to, what all other
operations keep of it, and rules for what an operation keeps alone and beside others. -/
namespace ZenControl
open Calls

section Operations

/-- `get_settings().get("default_profile_id", "")`. -/
def defaultProfileId (t : Tables) : String := settingOr t.appSettings "default_profile_id" ""

/-- What a write elsewhere keeps: the profiles with their presets, the presets, the templates and
the default profile; plans and exceptions may only go. -/
structure Elsewhere (t t' : Tables) : Prop where
  profiles : t'.profiles.map (fun p => (p.id,p.bandwidthPreset))=
    t.profiles.map fun p => (p.id,p.bandwidthPreset)
  presets : t'.bandwidthPresets=t.bandwidthPresets
  plans : ∀ plan ∈ t'.schedulePlans, plan ∈ t.schedulePlans
  templates : t'.scheduleTemplates=t.scheduleTemplates
  exceptions : ∀ e ∈ t'.dateExceptions, e ∈ t.dateExceptions
  default : defaultProfileId t'=defaultProfileId t

/-- The operations that write profiles, presets, schedules, templates, exceptions or the default
profile. `clearConfig` is the first transaction of `import_config`, `elsewhere` a transaction of
any other operation. -/
inductive PolicyOp
  | createProfile (a : ProfileArgs)
  | updateProfile (id : ℤ) (a : ProfileArgs)
  | deleteProfile (id : ℤ)
  | applyTemplate (templateId profileId : ℤ)
  | saveBandwidthPreset (a : PresetArgs)
  | deleteBandwidthPreset (key : String)
  | createSchedulePlan (a : PlanArgs)
  | updateSchedulePlan (id : PyVal) (a : PlanArgs)
  | setSchedulePlanEnabled (id : PyVal) (enabled : Bool)
  | deleteSchedulePlan (id : ℤ)
  | saveScheduleTemplate (name description entries : PyVal)
  | deleteScheduleTemplate (id : ℤ)
  | saveDateException (a : ExceptionArgs)
  | deleteDateException (id : ℤ)
  | saveSettings (a : SettingsArgs)
  | clearConfig
  | elsewhere (f : Store → Py Store) (h : ∀ s s', f s=.ok s' →
      (s.journal.Bounded → s'.journal.Bounded) ∧ Elsewhere s.tables s'.tables)

/-- What is left of the tables once `import_config` has cleared them. -/
def clearedConfig (t : Tables) : Tables :=
  { t with
    profiles := [], devicePolicy := [], policyTemplates := [], serviceGroups := []
    schedulePlans := [], scheduleTemplates := [], dateExceptions := []
    bandwidthPresets := t.bandwidthPresets.filter BandwidthPreset.builtin
    services := t.services.filter Service.builtin
    policyGroups := t.policyGroups.filter PolicyGroup.builtin }

/-- The first transaction of `import_config`, which is not journalled. -/
def clearConfig : StoreProg Unit :=
  Prog.withDb (Prog.write (fun db : Store => .ok { db with tables := clearedConfig db.tables })
    fun _ => .ret ())

/-- The program without its result. -/
def discarding {α : Type} (p : StoreProg α) : StoreProg Unit := p.bind fun _ => .ret ()

def PolicyOp.program (env : Env) : PolicyOp → StoreProg Unit
  | createProfile a => discarding (ZenControl.createProfile env a)
  | updateProfile id a => discarding (ZenControl.updateProfile env id a)
  | deleteProfile id => ZenControl.deleteProfile env id
  | applyTemplate templateId profileId => ZenControl.applyTemplate env templateId profileId
  | saveBandwidthPreset a => ZenControl.saveBandwidthPreset env a
  | deleteBandwidthPreset key => ZenControl.deleteBandwidthPreset env key
  | createSchedulePlan a => discarding (ZenControl.createSchedulePlan env a)
  | updateSchedulePlan id a => discarding (ZenControl.updateSchedulePlan env id a)
  | setSchedulePlanEnabled id enabled => ZenControl.setSchedulePlanEnabled env id enabled
  | deleteSchedulePlan id => ZenControl.deleteSchedulePlan env id
  | saveScheduleTemplate name description entries =>
    discarding (ZenControl.saveScheduleTemplate env name description entries)
  | deleteScheduleTemplate id => ZenControl.deleteScheduleTemplate env id
  | saveDateException a => discarding (ZenControl.saveDateException env a)
  | deleteDateException id => ZenControl.deleteDateException env id
  | saveSettings a => discarding (ZenControl.saveSettings env a)
  | clearConfig => ZenControl.clearConfig
  | elsewhere f _ => Prog.withDb (Prog.write f fun _ => .ret ())

end Operations

section Rules
variable {α : Type} {P E : Tables → Prop}

/-- A store whose tables meet a condition and whose journal accepts a next revision. -/
def Good (P : Tables → Prop) (s : Store) : Prop := s.journal.Bounded ∧ P s.tables

lemma ensures_ofPy {P : Store → Prop} (r : Py α) :
    (ofPy r : StoreProg α).Ensures P (fun a s => P s ∧ r=.ok a) P := by
  cases r with
  | ok a => exact Prog.ensures_ret fun s hs => ⟨hs,rfl⟩
  | error e => exact Prog.ensures_raise fun _ hs => hs

/-- What a query finds is a fact about the tables, which it keeps. -/
lemma ensures_query (f : Tables → Py α) :
    (query f).Ensures (Good P) (fun a => Good fun t => P t ∧ f t=.ok a) (Good P) := by
  refine ⟨closed_query f,fun s hs => ?_⟩
  rw [query_solo]
  cases hf : f s.tables with
  | ok a => exact ⟨hs.1,hs.2,hf⟩
  | error e => exact hs

/-- A configuration transaction commits what its body does, or nothing. -/
lemma ensures_configWrite {args : WriteArgs} {body : Body Tables α} {Q : α → Tables → Prop}
    (h : ∀ t a t', P t → body.runOn t=(.ok a,t') → Q a t') :
    (configWrite args body).Ensures (Good P) (fun a => Good (Q a)) (Good P) := by
  refine ⟨closed_configWrite args body,fun s hs => ?_⟩
  have hplain : ((assertConfigRevisionDb args.expectedRevision).bind fun _ =>
      afterCheck args body).Plain := by
    refine Prog.Plain.bind (Prog.Plain.select fun s => ?_) fun _ => afterCheck_plain args body
    cases args.expectedRevision with
    | none => trivial
    | some r => by_cases h : r=s.journal.state.revision <;> simp only [h,if_true,if_false] <;> trivial
  have hcheck : ((assertConfigRevisionDb args.expectedRevision).run Prog.inTransaction s).2=s := by
    rw [assertConfigRevisionDb,Prog.select_run]
    cases args.expectedRevision with
    | none => rfl
    | some r => by_cases h : r=s.journal.state.revision <;> simp only [h,if_true,if_false] <;> rfl
  rw [configWrite,Prog.solo_withDb hplain,Prog.run_bind]
  rcases hassert : (assertConfigRevisionDb args.expectedRevision).run Prog.inTransaction s
    with ⟨e | current,s1⟩
  · exact hs
  · rw [hassert] at hcheck
    obtain rfl : s1=s := hcheck
    obtain ⟨j,t⟩ := s1
    dsimp only
    rw [afterCheck_run args body hs.1]
    rcases hbody : body.runOn t with ⟨e | a,t'⟩
    · exact hs
    · exact ⟨hs.1.advance _ _,h _ _ _ hs.2 hbody⟩

lemma ensures_storeWrite {env : Env} {scope reason : String} {body : Body Tables α}
    {Q : α → Tables → Prop} (h : ∀ t a t', P t → body.runOn t=(.ok a,t') → Q a t') :
    (storeWrite env scope reason body).Ensures (Good P) (fun a => Good (Q a)) (Good P) :=
  ensures_configWrite h

/-- A program that keeps a condition on the tables, whether it returns or raises. -/
def Keeps (P : Tables → Prop) (p : StoreProg α) : Prop :=
  p.Ensures (Good P) (fun _ => Good P) (Good P)

lemma keeps_query (f : Tables → Py α) : Keeps P (query f) :=
  (ensures_query f).mono (fun _ hs => hs) (fun _ _ hs => ⟨hs.1,hs.2.1⟩) fun _ hs => hs

lemma keeps_ofPy (r : Py α) : Keeps P (ofPy r : StoreProg α) :=
  (ensures_ofPy r).mono (fun _ hs => hs) (fun _ _ hs => hs.1) fun _ hs => hs

lemma keeps_bind {β : Type} {p : StoreProg α} {f : α → StoreProg β} (hp : Keeps P p)
    (hf : ∀ a, Keeps P (f a)) : Keeps P (p.bind f) := Prog.ensures_bind hp hf

/-- A transaction that keeps `E` where `P` holds too. -/
lemma ensures_written {env : Env} {scope reason : String} {body : Body Tables α}
    (hP : ∀ t, P t → E t) (h : ∀ t a t', P t → body.runOn t=(.ok a,t') → E t') :
    (storeWrite env scope reason body).Ensures (Good P) (fun _ => Good E) (Good E) :=
  (ensures_storeWrite h).mono (fun _ hs => hs) (fun _ _ hs => hs) fun _ hs => ⟨hs.1,hP _ hs.2⟩

/-- A transaction whose arguments a query has checked on the same tables. -/
lemma ensures_checked {β : Type} {env : Env} {scope reason : String} {f : Tables → Py β}
    {body : β → Body Tables α}
    (h : ∀ b t a t', P t → f t=.ok b → (body b).runOn t=(.ok a,t') → P t') :
    Keeps P ((query f).bind fun b => storeWrite env scope reason (body b)) := by
  refine Prog.ensures_bind (ensures_query f) fun b => ?_
  refine ensures_written (fun _ ht => ht.1) fun t a t' ht hrun => ?_
  exact h b t a t' ht.1 ht.2 hrun

lemma ensures_discarding {p : StoreProg α} {Q : Store → Prop} {P E : Store → Prop}
    (h : p.Ensures P (fun _ => Q) E) : (discarding p).Ensures P (fun _ => Q) E :=
  Prog.ensures_bind h fun _ => Prog.ensures_ret fun _ hs => hs

end Rules

section Beside
variable {α β : Type} {P : Tables → Prop} {G : List Store → Prog.Allows Store StoreError}
  {views : List Store}

/-- A statement of a body on the whole store. -/
def onTables (f : Tables → Py Tables) (s : Store) : Py Store :=
  (f s.tables).map fun t => { s with tables := t }

lemma onTables_ok {f : Tables → Py Tables} {s : Store} {t : Tables} (h : f s.tables=.ok t) :
    onTables f s=.ok { s with tables := t } := by
  rw [onTables,h]
  rfl

/-- Beside other operations the program keeps a condition on the tables, when its writes are
allowed after what it has seen. -/
def Upholds (P : Tables → Prop) (G : List Store → Prog.Allows Store StoreError)
    (views : List Store) (p : StoreProg α) : Prop :=
  ∀ seen, Good P seen →
    Prog.Meets (Good P) (fun _ _ => True) G (fun _ _ _ => True) views seen p

lemma upholds_ret (a : α) : Upholds P G views (.ret a) := fun _ _ => .ret fun _ _ _ => trivial

lemma upholds_raise (e : StoreError) : Upholds P G views (.raise e : StoreProg α) :=
  fun _ _ => .raise e

lemma upholds_bind {p : StoreProg α} {f : α → StoreProg β} (hp : Upholds P G views p)
    (hf : ∀ a views', Upholds P G views' (f a)) : Upholds P G views (p.bind f) :=
  fun seen hseen => .andThen (fun _ => trivial) (fun _ _ _ _ _ => trivial) hseen (hp seen hseen)
    fun a views' s _ hs _ _ => hf a views' s hs

lemma upholds_ofPy {r : Py α} {f : α → StoreProg β} (h : ∀ a, r=.ok a → Upholds P G views (f a)) :
    Upholds P G views ((ofPy r).bind f) := by
  cases r with
  | ok a => exact h a rfl
  | error e => exact upholds_raise e

lemma upholds_discarding {p : StoreProg α} (h : Upholds P G views p) :
    Upholds P G views (discarding p) := upholds_bind h fun _ _ => upholds_ret ()

/-- A query, whose answer the rest of the program goes on with. -/
lemma upholds_query {f : Tables → Py α} {k : α → StoreProg β}
    (h : ∀ v, Good P v → ∀ a, f v.tables=.ok a → Upholds P G (v::views) (k a)) :
    Upholds P G views ((query f).bind k) := fun seen hseen => by
  refine .andThen (R := fun a views' _ => ∃ v, views'=v::views ∧ Good P v ∧ f v.tables=.ok a)
    (fun _ => trivial) (fun _ _ _ _ _ => trivial) hseen (.withDb_select fun v hv _ => ?_)
    fun a views' s _ hs _ hR => ?_
  · cases hf : f v.tables with
    | ok a => exact .withDb_ret fun _ _ _ => ⟨v,rfl,hv,hf⟩
    | error e => exact .withDb_raise e
  · obtain ⟨v,rfl,hv,hf⟩ := hR
    exact h v hv a hf s hs

lemma upholds_read (f : Tables → Py α) : Upholds P G views (query f) :=
  fun _ _ => .withDb_select fun v _ _ => by
    cases f v.tables with
    | ok a => exact .withDb_ret fun _ _ _ => trivial
    | error e => exact .withDb_raise e

/-- A configuration transaction, once it has read the revision. -/
lemma upholds_configWrite {args : WriteArgs} {body : Body Tables α}
    (h : ∀ v, Upholds P G (v::views) (Prog.withDb (afterCheck args body))) :
    Upholds P G views (configWrite args body) := fun seen hseen => by
  refine .call_select fun v hv _ => ?_
  cases args.expectedRevision with
  | none => exact h v v hv
  | some r =>
    change Prog.Meets _ _ _ _ _ _ (Prog.withDb (Prog.bind
      (if r=v.journal.state.revision then .ret v.journal.state.revision
        else .raise (StoreError.configRevisionConflict r v.journal.state.revision)) _))
    split_ifs
    · exact h v v hv
    · exact .withDb_raise _

lemma upholds_body_ofPy {args : WriteArgs} {r : Py β} {k : β → Body Tables α}
    (h : ∀ b, r=.ok b → Upholds P G views (Prog.withDb (afterCheck args (k b)))) :
    Upholds P G views (Prog.withDb (afterCheck args ((Body.ofPy r).bind k))) := by
  cases r with
  | ok b => exact h b rfl
  | error e => exact fun _ _ => .withDb_raise e

lemma upholds_body_raise {args : WriteArgs} (e : StoreError) :
    Upholds P G views (Prog.withDb (afterCheck args (.raise e : Body Tables α))) :=
  fun _ _ => .withDb_raise e

/-- A query of the block before it has written. -/
lemma upholds_body_read {args : WriteArgs} {f : Tables → Py β} {k : β → Body Tables α}
    (h : ∀ v, Good P v → ∀ b, f v.tables=.ok b →
      Upholds P G (v::views) (Prog.withDb (afterCheck args (k b)))) :
    Upholds P G views (Prog.withDb (afterCheck args ((Body.read f).bind k))) := fun _ _ => by
  refine .call_select fun v hv _ => ?_
  exact upholds_body_ofPy (h v hv) v hv

/-- The first write of the block: from there on nobody else writes. -/
lemma upholds_body_execute {args : WriteArgs} {f : Tables → Py Tables}
    {k : Tables → Body Tables α}
    (h : ∀ s t, Good P s → G views (onTables f) s → f s.tables=.ok t →
      ∀ a t', (k t).runOn t=(.ok a,t') → P t') :
    Upholds P G views (Prog.withDb (afterCheck args ((Body.execute f).bind k))) := by
  refine fun _ _ => .withDb_opening (afterCheck_plain args _) trivial (fun _ => trivial)
    fun s hs _ hG a s' hrun => ?_
  rw [afterCheck_run args _ hs.1,Body.runOn_bind,Body.runOn_execute] at hrun
  cases hf : f s.tables with
  | error e => rw [hf] at hrun; cases hrun
  | ok t =>
    rw [hf] at hrun
    dsimp only at hrun
    rcases hk : (k t).runOn t with ⟨e | b,t'⟩
    · rw [hk] at hrun; cases hrun
    · rw [hk] at hrun
      cases hrun
      exact ⟨⟨hs.1.advance _ _,h s t hs hG hf _ t' hk⟩,trivial,fun _ _ _ => trivial⟩

/-- A block of one statement. -/
lemma upholds_body_statement {args : WriteArgs} {f : Tables → Py Tables}
    (h : ∀ s t, Good P s → G views (onTables f) s → f s.tables=.ok t → P t) :
    Upholds P G views (Prog.withDb (afterCheck args (Body.execute f))) := by
  have hbody : Body.execute f=(Body.execute f).bind .ret := (Prog.bind_ret _).symm
  rw [hbody]
  refine upholds_body_execute fun s t hs hG hf a t' hret => ?_
  obtain ⟨-,rfl⟩ := Prod.mk.inj hret
  exact h s t hs hG hf

/-- A transaction of one statement. -/
lemma upholds_write {f : Store → Py Store}
    (h : ∀ s s', Good P s → G views f s → f s=.ok s' → Good P s') :
    Upholds P G views (Prog.withDb (Prog.write f fun _ => .ret ())) := by
  refine fun _ _ => .withDb_write (fun _ => trivial) (fun _ => trivial)
    fun s hs _ hG a s' hrun => ?_
  cases hf : f s with
  | error e => rw [Prog.write_run_error hf] at hrun; cases hrun
  | ok t =>
    rw [Prog.write_run t hf] at hrun
    cases hrun
    exact ⟨h s _ hs hG hf,trivial,fun _ _ _ => trivial⟩

end Beside

section Bodies
variable {τ α β : Type} {t t' : τ}

lemma Body.runOn_bind_ok {b : Body τ α} {f : α → Body τ β} {c : β}
    (h : Body.runOn (b.bind f) t=(.ok c,t')) :
    ∃ a t1, b.runOn t=(.ok a,t1) ∧ (f a).runOn t1=(.ok c,t') := by
  rw [Body.runOn_bind] at h
  rcases hb : b.runOn t with ⟨e | a,t1⟩
  · rw [hb] at h
    cases h
  · rw [hb] at h
    exact ⟨a,t1,rfl,h⟩

lemma Body.runOn_execute_ok {f : τ → Except StoreError τ} {a : τ}
    (h : (Body.execute f).runOn t=(.ok a,t')) : f t=.ok t' ∧ a=t' := by
  rw [Body.runOn_execute] at h
  cases hf : f t with
  | error e => rw [hf] at h; cases h
  | ok t1 =>
    rw [hf] at h
    obtain ⟨ha,rfl⟩ := Prod.mk.inj h
    exact ⟨rfl,(Except.ok.inj ha).symm⟩

lemma Body.runOn_read_ok {f : τ → Except StoreError α} {a : α}
    (h : (Body.read f).runOn t=(.ok a,t')) : f t=.ok a ∧ t=t' := by
  rw [Body.runOn_read] at h
  exact Prod.mk.inj h

lemma Body.runOn_ofPy_ok {r : Py α} {a : α} (h : (Body.ofPy r).runOn t=(.ok a,t')) :
    r=.ok a ∧ t=t' := by
  rw [Body.runOn_ofPy] at h
  exact Prod.mk.inj h

lemma Body.runOn_ret_ok {a b : α} (h : Body.runOn (Prog.ret a : Body τ α) t=(.ok b,t')) :
    a=b ∧ t=t' := by
  obtain ⟨ha,ht⟩ := Prod.mk.inj h
  exact ⟨Except.ok.inj ha,ht⟩

end Bodies
end ZenControl
