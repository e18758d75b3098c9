import ZenControl.Library.Commits
import ZenControl.Rewards.Operations
import ZenControl.Store.Presets

/-! The two forms that save the global settings, the policy defaults and the automatic
reconciliation. Both store all nine settings: each reads the settings of the other form through
one connection and writes them back through another. -/
namespace ZenControl
open Calls

/-- What a settings page answers: a redirect with an error or with a confirmation. -/
inductive SettingsReply
  | error (page message : String)
  | done (page message : String)
  deriving DecidableEq, Repr

/-- The text of an exception that is a `ValueError`; a revision conflict is one. -/
def StoreError.valueText : StoreError → Option String
  | .valueError message => some message
  | .configRevisionConflict expected current => some
      (s!"Configuration changed from revision {expected} to {current}; " ++ "reload before saving")
  | _ => none

/-- The fields of `local_settings_save`. -/
structure DefaultsForm where
  defaultProfileId : String := ""
  defaultCategory : String := "other"
  defaultBandwidthPreset : String := "normal"
  defaultTempMinutes : String := "30"
  policyTimezone : String := "Europe/London"
  configRevision : Option ℤ := none
  csrfOk : Bool := true
  username : String := ""
  deriving DecidableEq, Repr

inductive ReconcileMode
  | off | observe | enforce
  deriving DecidableEq, Repr

def ReconcileMode.text : ReconcileMode → String
  | off => "off"
  | observe => "observe"
  | enforce => "enforce"

/-- The fields of `local_reconciler_settings`. -/
structure ReconcilerForm where
  mode : ReconcileMode := .off
  intervalSeconds : String := "30"
  failureThreshold : String := "3"
  cooldownSeconds : String := "300"
  configRevision : Option ℤ := none
  csrfOk : Bool := true
  username : String := ""
  deriving DecidableEq, Repr

section Forms
variable (env : Env)

/-- `except ValueError`. -/
def redirectingErrors (page : String) (body : StoreProg SettingsReply) : StoreProg SettingsReply :=
  body.rescue fun e => match e.valueText with
    | some message => .ret (.error page message)
    | none => .raise e

/-- `local_settings_save`. -/
def localSettingsSave (form : DefaultsForm) : StoreProg SettingsReply :=
  if !form.csrfOk then .ret (.error "settings/policy" "CSRF validation failed")
  else redirectingErrors "settings/policy" <|
    getSettings.bind fun current =>
    (saveSettings env
      { defaultProfileId := .str form.defaultProfileId
        defaultCategory := .str form.defaultCategory
        defaultBandwidthPreset := .str form.defaultBandwidthPreset
        defaultTempMinutes := .str form.defaultTempMinutes
        policyTimezone := .str form.policyTimezone
        autoReconcileMode := .str (settingOr current "auto_reconcile_mode" "off")
        intervalSeconds := .str (settingOr current "auto_reconcile_interval_seconds" "30")
        failureThreshold := .str (settingOr current "auto_reconcile_failure_threshold" "3")
        cooldownSeconds := .str (settingOr current "auto_reconcile_cooldown_seconds" "300")
        expectedRevision := form.configRevision
        actor := form.username }).bind fun _ =>
    .ret (.done "settings/policy" "Global defaults saved")

/-- `local_reconciler_settings`. -/
def localReconcilerSettings (form : ReconcilerForm) : StoreProg SettingsReply :=
  if !form.csrfOk then .ret (.error "settings/automation" "CSRF validation failed")
  else redirectingErrors "settings/automation" <|
    getSettings.bind fun current =>
    (saveSettings env
      { defaultProfileId := .str (settingOr current "default_profile_id" "")
        defaultCategory := .str (settingOr current "default_category" "other")
        defaultBandwidthPreset := .str (settingOr current "default_bandwidth_preset" "normal")
        defaultTempMinutes := .str (settingOr current "default_temp_minutes" "30")
        policyTimezone := .str (settingOr current "policy_timezone" "Europe/London")
        autoReconcileMode := .str form.mode.text
        intervalSeconds := .str form.intervalSeconds
        failureThreshold := .str form.failureThreshold
        cooldownSeconds := .str form.cooldownSeconds
        expectedRevision := form.configRevision
        actor := form.username }).bind fun _ =>
    .ret (.done "settings/automation"
      ("Automatic reconciliation set to " ++ upper form.mode.text))

end Forms

section Settings

/-- The nine settings with the values that stand for missing rows. -/
def settingDefaults : List (String × String) :=
  [("default_profile_id",""),("default_category","other"),("default_bandwidth_preset","normal"),
   ("default_temp_minutes","30"),("policy_timezone","Europe/London"),("auto_reconcile_mode","off"),
   ("auto_reconcile_interval_seconds","30"),("auto_reconcile_failure_threshold","3"),
   ("auto_reconcile_cooldown_seconds","300")]

/-- A setting of the store. -/
def setting (db : Store) (key : String) : String :=
  settingOr db.tables.appSettings key (settingOr settingDefaults key "")

/-- A request with one of the forms. -/
inductive SettingsForm
  | defaults (form : DefaultsForm)
  | reconciler (form : ReconcilerForm)

namespace SettingsForm

/-- The settings that a form owns, with their submitted texts. -/
def fields : SettingsForm → List (String × String)
  | defaults form => [("default_profile_id",form.defaultProfileId),
      ("default_category",form.defaultCategory),
      ("default_bandwidth_preset",form.defaultBandwidthPreset),
      ("default_temp_minutes",form.defaultTempMinutes),("policy_timezone",form.policyTimezone)]
  | reconciler form => [("auto_reconcile_mode",form.mode.text),
      ("auto_reconcile_interval_seconds",form.intervalSeconds),
      ("auto_reconcile_failure_threshold",form.failureThreshold),
      ("auto_reconcile_cooldown_seconds",form.cooldownSeconds)]

def owns (form : SettingsForm) (key : String) : Bool := (form.fields.lookup key).isSome

/-- The text that a form submits for one of its settings. -/
def submitted (form : SettingsForm) (key : String) : String := (form.fields.lookup key).getD ""

def program (env : Env) : SettingsForm → StoreProg SettingsReply
  | defaults form => localSettingsSave env form
  | reconciler form => localReconcilerSettings env form

end SettingsForm

/-- The text in which `save_settings` stores a text of a setting. -/
def storedText (env : Env) (key text : String) : String :=
  if key="default_profile_id" then
    if text="" then "" else (pyInt text).elim "" toString
  else if key="policy_timezone" then strip text
  else if key="auto_reconcile_mode" then env.lower (strip (orElse text "off"))
  else if key="auto_reconcile_interval_seconds" then strip (orElse text "30")
  else if key="auto_reconcile_failure_threshold" then strip (orElse text "3")
  else if key="auto_reconcile_cooldown_seconds" then strip (orElse text "300")
  else text

/-- The arguments of `save_settings` from the texts of the settings. -/
def settingsArgs (text : String → String) (revision : Option ℤ) (actor : String) :
    SettingsArgs where
  defaultProfileId := .str (text "default_profile_id")
  defaultCategory := .str (text "default_category")
  defaultBandwidthPreset := .str (text "default_bandwidth_preset")
  defaultTempMinutes := .str (text "default_temp_minutes")
  policyTimezone := .str (text "policy_timezone")
  autoReconcileMode := .str (text "auto_reconcile_mode")
  intervalSeconds := .str (text "auto_reconcile_interval_seconds")
  failureThreshold := .str (text "auto_reconcile_failure_threshold")
  cooldownSeconds := .str (text "auto_reconcile_cooldown_seconds")
  expectedRevision := revision
  actor := actor

/-- The rows that `save_settings` writes for the texts of the settings. -/
def storedRows (env : Env) (text : String → String) : List (String × String) :=
  settingDefaults.map fun d => (d.1,storedText env d.1 (text d.1))

lemma textOr_str (py : PyRuntime) (text default : String) :
    (PyVal.str text).textOr py default=orElse text default := by
  unfold PyVal.textOr PyVal.or PyVal.truthy orElse
  by_cases h : text=""
  · simp [h,PyVal.text]
  · simp [h,PyVal.text]

lemma defaultProfile_str {t : Tables} {text profile : String}
    (h : defaultProfile t (.str text)=.ok profile) :
    profile=if text="" then "" else (pyInt text).elim "" toString := by
  unfold defaultProfile at h
  split at h
  · next heq => cases heq
  · next heq =>
    cases heq
    exact (Except.ok.inj h).symm
  · next hblank =>
    obtain ⟨id,hid,h⟩ := bind_ok h
    obtain ⟨found,hfound,h⟩ := bind_ok h
    cases found with
    | none => cases h
    | some p =>
      obtain rfl := Except.ok.inj h
      rw [if_neg fun htext => hblank (by rw [htext])]
      unfold PyVal.toInt at hid
      dsimp only at hid
      split at hid
      · next n hn =>
        cases hid
        rw [hn]
        rfl
      · cases hid

lemma settingAmong_str {env : Env} {texts : List String} {default message text value : String}
    (h : settingAmong env texts default message (.str text)=.ok value) :
    value=strip (orElse text default) := by
  obtain ⟨_,-,h⟩ := bind_ok h
  rw [textOr_str] at h
  exact (Except.ok.inj h).symm

lemma asText_str {text value : String} (h : (PyVal.str text).asText=.ok value) : value=text :=
  (Except.ok.inj h).symm

lemma validatePreset_str {t : Tables} {text value : String}
    (h : validatePreset t (.str text)=.ok value) : value=text := by
  unfold validatePreset at h
  dsimp only at h
  split_ifs at h
  exact (Except.ok.inj h).symm

/-- What `save_settings` accepts, it stores in its normal form. -/
lemma settingValues_ok {env : Env} {t : Tables} {text : String → String} {revision : Option ℤ}
    {actor : String} {values : List (String × String)}
    (h : settingValues env t (settingsArgs text revision actor)=.ok values) :
    values=storedRows env text := by
  obtain ⟨profile,hprofile,h⟩ := bind_ok h
  obtain ⟨_,-,h⟩ := bind_ok h
  obtain ⟨_,-,h⟩ := bind_ok h
  obtain ⟨category,hcategory,h⟩ := bind_ok h
  obtain ⟨preset,hpreset,h⟩ := bind_ok h
  obtain ⟨_,-,h⟩ := bind_ok h
  obtain ⟨_,-,h⟩ := bind_ok h
  obtain ⟨_,-,h⟩ := bind_ok h
  obtain ⟨_,-,h⟩ := bind_ok h
  obtain ⟨interval,hinterval,h⟩ := bind_ok h
  obtain ⟨threshold,hthreshold,h⟩ := bind_ok h
  obtain ⟨cooldown,hcooldown,h⟩ := bind_ok h
  obtain rfl := Except.ok.inj h
  have hzone : env.orEmpty (.str (text "policy_timezone"))=text "policy_timezone" := by
    rw [Env.orEmpty,textOr_str,orElse]
    split_ifs with hblank
    · exact hblank.symm
    · rfl
  simp only [settingsArgs] at hprofile hcategory hpreset hinterval hthreshold hcooldown
  rw [defaultProfile_str hprofile,asText_str hcategory,validatePreset_str hpreset,
    settingAmong_str hinterval,settingAmong_str hthreshold,settingAmong_str hcooldown]
  simp only [settingsArgs,hzone,textOr_str]
  simp [storedRows,settingDefaults,storedText,PyVal.text]

/-- The settings after all nine rows were written. -/
lemma setting_putSettings {env : Env} {text : String → String} {key : String}
    (h : key ∈ settingDefaults.map Prod.fst) (db : Store) (j : Journal) :
    setting ⟨j,putSettings (storedRows env text) db.tables⟩ key=storedText env key (text key) := by
  have hrows : ((putSettings (storedRows env text) db.tables).appSettings).lookup key=
      some (storedText env key (text key)) := by
    simp only [putSettings,storedRows,settingDefaults,List.map_cons,List.map_nil,List.foldl_cons,
      List.foldl_nil,lookup_dictSet]
    simp only [settingDefaults,List.map_cons,List.map_nil,List.mem_cons,List.not_mem_nil,
      or_false] at h
    rcases h with rfl | rfl | rfl | rfl | rfl | rfl | rfl | rfl | rfl <;> simp
  rw [setting,settingOr,hrows]
  rfl

/-- What a form hands to `save_settings` when it has read some settings. -/
def SettingsForm.written (form : SettingsForm) (current : List (String × String)) (key : String) :
    String :=
  (form.fields.lookup key).getD (settingOr current key (settingOr settingDefaults key ""))

def SettingsForm.csrfOk : SettingsForm → Bool
  | .defaults form => form.csrfOk
  | .reconciler form => form.csrfOk

def SettingsForm.revision : SettingsForm → Option ℤ
  | .defaults form => form.configRevision
  | .reconciler form => form.configRevision

def SettingsForm.username : SettingsForm → String
  | .defaults form => form.username
  | .reconciler form => form.username

/-- Both forms read the settings, complete their own and store them all. -/
lemma SettingsForm.program_eq (env : Env) (form : SettingsForm) : ∃ page refused reply,
    form.program env=if !form.csrfOk then .ret refused
      else redirectingErrors page (getSettings.bind fun current =>
        (saveSettings env (settingsArgs (form.written current) form.revision form.username)).bind
          fun _ => .ret reply) := by
  cases form with
  | defaults form => exact ⟨_,_,_,rfl⟩
  | reconciler form => exact ⟨_,_,_,rfl⟩

end Settings

section Commits
variable {G : Prog.Allows Store StoreError} {R : Store → Store → Prop} {α β : Type}

lemma commits_query_bind {f : Tables → Py α} {g : α → StoreProg β}
    (h : ∀ t a, f t=.ok a → (g a).Commits G R none) :
    ((query f).bind g).Commits G R none := by
  intro s
  change ((Prog.withDb (ofPy (f s.tables))).bind g).Commits G R none
  cases hf : f s.tables with
  | error e =>
    rw [ofPy,Prog.withDb_raise]
    exact rfl
  | ok a =>
    rw [ofPy,Prog.withDb_ret]
    exact h s.tables a hf

lemma onJournal_tables {f : Journal → Except StoreError Journal} {s w : Store}
    (h : onJournal f s=.ok w) : w.tables=s.tables := by
  unfold onJournal at h
  cases hf : f s.journal with
  | error e =>
    rw [hf] at h
    cases h
  | ok j =>
    rw [hf] at h
    cases h
    rfl

/-- The journal advances, the tables stay. -/
lemma advance_tables {args : WriteArgs} {digest : String} {s w : Store} {r : ℤ}
    (h : (advanceConfigRevisionDb args digest).run Prog.inTransaction s=(.ok r,w)) :
    w.tables=s.tables := by
  let revision := s.journal.state.revision+1
  let updated : Store := ⟨updateRevisionState args digest revision s.journal,s.tables⟩
  change Prog.run Prog.inTransaction (Prog.write (onJournal (insertRevision args digest revision))
    fun _ => Prog.write (onJournal fun j => .ok (insertConfigChanged args revision j)) fun _ =>
      .ret revision) updated=(.ok r,w) at h
  cases hinsert : onJournal (insertRevision args digest revision) updated with
  | error e =>
    rw [Prog.write_run_error hinsert] at h
    cases h
  | ok inserted =>
    rw [Prog.write_run inserted hinsert] at h
    have hw := congrArg Prod.snd h
    dsimp only at hw
    subst hw
    exact (onJournal_tables hinsert : inserted.tables=updated.tables)

lemma afterCheck_tables {args : WriteArgs} {body : Body Tables α} {s w : Store} {a : α}
    (h : (afterCheck args body).run Prog.inTransaction s=(.ok a,w)) :
    body.runOn s.tables=(.ok a,w.tables) := by
  unfold afterCheck at h
  rw [show s=⟨s.journal,s.tables⟩ from rfl,Prog.run_bind,Body.lift_run] at h
  rcases hbody : body.runOn s.tables with ⟨r,t⟩
  rw [hbody] at h
  cases r with
  | error e => cases h
  | ok b =>
    dsimp only at h
    rw [Prog.run_bind] at h
    rcases hadvance : (advanceConfigRevisionDb args "").run Prog.inTransaction
      (⟨s.journal,t⟩ : Store) with ⟨r,w'⟩
    rw [hadvance] at h
    cases r with
    | error e => cases h
    | ok revision =>
      cases h
      rw [advance_tables hadvance]

/-- `save_settings` commits the rows of its texts. -/
lemma commits_saveSettings {env : Env} {text : String → String} {revision : Option ℤ}
    {actor : String} (h : ∀ f (s w : Store), G f s →
      w.tables=putSettings (storedRows env text) s.tables → R s w) :
    (saveSettings env (settingsArgs text revision actor)).Commits G R none := by
  change Prog.Commits G R (Prog.bind (query fun t => settingValues env t
    (settingsArgs text revision actor)) _) none
  refine commits_query_bind fun t values hvalues => ?_
  obtain rfl := settingValues_ok hvalues
  let body : Body Tables (List (String × String)) := do
    let _ ← Body.execute fun t => .ok (putSettings (storedRows env text) t)
    pure (storedRows env text)
  have hwrite (args : WriteArgs) : (Prog.withDb (afterCheck args body)).Commits G R none := by
    refine Prog.commits_withDb_write (afterCheck_plain args body) fun s a w hs hrun => h _ s w hs ?_
    have hbody := afterCheck_tables hrun
    exact (congrArg Prod.snd hbody).symm
  intro s
  cases revision with
  | none => exact hwrite _
  | some r =>
    change (Prog.withDb (Prog.bind (if r=s.journal.state.revision
      then .ret s.journal.state.revision
      else .raise (.configRevisionConflict r s.journal.state.revision)) fun _ => _)).Commits
        G R none
    split_ifs
    · exact hwrite _
    · exact Prog.commits_withDb_raise _

end Commits

section Requests
variable {ι : Type} {env : Env}

/-- Requests with the forms in front of a store. -/
def settingsRequests (env : Env) (forms : ι → SettingsForm) (db : Store) :
    Config ι (Sql Store StoreError) Sql.Answer StoreError SettingsReply (Database ι Store) :=
  ⟨⟨db,none⟩,fun i => (forms i).program env⟩

/-- A request that takes the write lock still finds the settings of the other form as it read
them, in the form in which they are stored. -/
def StillRead (env : Env) (forms : ι → SettingsForm) (i : ι) (seen : Store) :
    Prog.Allows Store StoreError :=
  fun _ db => ∀ key ∈ settingDefaults.map Prod.fst,(forms i).owns key=false →
    setting db key=storedText env key (setting seen key)

/-- What the requests that committed leave of a setting: the text that the last of them that owns
it has submitted, or what was there. -/
def settingAfter (env : Env) (forms : ι → SettingsForm) (db : Store) (log : List ι)
    (key : String) : String :=
  match log.reverse.find? fun i => (forms i).owns key with
  | some i => storedText env key ((forms i).submitted key)
  | none => setting db key

lemma settingAfter_snoc (env : Env) (forms : ι → SettingsForm) (db : Store) (log : List ι) (i : ι)
    (key : String) : settingAfter env forms db (log ++ [i]) key=
      if (forms i).owns key then storedText env key ((forms i).submitted key)
      else settingAfter env forms db log key := by
  unfold settingAfter
  rw [List.reverse_append,List.reverse_singleton,List.singleton_append,List.find?_cons]
  cases (forms i).owns key <;> rfl

/-- A request commits the texts of its own settings, and leaves the others as it found them. -/
def OwnSettings (env : Env) (form : SettingsForm) (b w : Store) : Prop :=
  ∀ key ∈ settingDefaults.map Prod.fst,setting w key=
    if form.owns key then storedText env key (form.submitted key) else setting b key

lemma firstReads_program (forms : ι → SettingsForm) (i : ι) :
    FirstReads (StillRead env forms i) (fun _ => OwnSettings env (forms i))
      ((forms i).program env) := by
  obtain ⟨page,refused,reply,heq⟩ := (forms i).program_eq env
  rw [heq]
  split_ifs
  · trivial
  intro seen
  change Prog.Commits _ _ (Prog.rescue (Prog.bind (saveSettings env (settingsArgs
    ((forms i).written seen.tables.appSettings) _ _)) fun _ => .ret reply) _) none
  refine Prog.commits_rescue ?_ fun e => ?_
  · refine Prog.commits_bind (commits_saveSettings fun f b w hread hrows key hkey => ?_)
      fun _ => rfl
    have hstored := @setting_putSettings env ((forms i).written seen.tables.appSettings) key hkey b
      w.journal
    rw [← hrows] at hstored
    rw [hstored]
    cases hlookup : (forms i).fields.lookup key with
    | some text => simp [SettingsForm.written,SettingsForm.owns,SettingsForm.submitted,hlookup]
    | none =>
      have howns : (forms i).owns key=false := by rw [SettingsForm.owns,hlookup]; rfl
      rw [if_neg (by simp [howns]),hread key hkey howns]
      simp only [SettingsForm.written,hlookup]
      rfl
  · cases e.valueText <;> exact rfl

/-- In every history in which the requests that take the write lock still find the settings of the
other form as they read them, each setting has the text that was submitted by the last committed
request whose form owns it. -/
theorem settings_forms_own [DecidableEq ι] (forms : ι → SettingsForm) (db : Store)
    {c : Config ι (Sql Store StoreError) Sql.Answer StoreError SettingsReply (Database ι Store)}
    {seen : ι → Option Store} {log : List ι}
    (h : History (Guarded (StillRead env forms)) (settingsRequests env forms db) c seen log)
    {key : String} (hkey : key ∈ settingDefaults.map Prod.fst) :
    setting c.shared.committed key=settingAfter env forms db log key := by
  refine History.describes (P:=fun log b => ∀ key ∈ settingDefaults.map Prod.fst,
    setting b key=settingAfter env forms db log key)
    (R:=fun i _ => OwnSettings env (forms i)) rfl (fun i => firstReads_program forms i)
    (fun key _ => rfl) (fun log i _ b w hlog hown key hkey => ?_) h key hkey
  rw [settingAfter_snoc,hown key hkey,hlog key hkey]

end Requests

section Runs

/-- A store with the built-in preset NORMAL, in which enforcement is off. -/
def formsStore : Store :=
  ⟨{},{ bandwidthPresets := [{ key := "normal", name := "Normal", upload := "", download := "", builtin := true }]
        appSettings := settingDefaults }⟩

/-- The policy defaults with another timezone, and automatic enforcement. -/
def twoForms : Bool → SettingsForm
  | false => .defaults { policyTimezone := "UTC" }
  | true => .reconciler { mode := .enforce }

def twoRequests : Config Bool (Sql Store StoreError) Sql.Answer StoreError SettingsReply
    (Database Bool Store) := settingsRequests asciiEnv twoForms formsStore

/-- The other form is saved between the two connections of the defaults form. -/
def readBefore : List Bool := [false] ++ List.replicate 11 true ++ List.replicate 10 false

/-- One form is saved behind the other. -/
def inTurn : List Bool := List.replicate 11 true ++ List.replicate 11 false

/-- The condition of `settings_forms_own` as a check. -/
def stillReads (i : Bool)
    (c : Config Bool (Sql Store StoreError) Sql.Answer StoreError SettingsReply
      (Database Bool Store)) (seen : Option Store) : Bool :=
  seen.all fun s => (settingDefaults.map Prod.fst).all fun key => (twoForms i).owns key ||
    setting c.shared.committed key=storedText asciiEnv key (setting s key)

lemma guarded_of_stillReads {i : Bool}
    {c : Config Bool (Sql Store StoreError) Sql.Answer StoreError SettingsReply
      (Database Bool Store)} {seen : Option Store} (h : stillReads i c seen) :
    Guarded (StillRead asciiEnv twoForms) i c seen := by
  rintro - s rfl
  have hstill (f : Store → Except StoreError Store) :
      StillRead asciiEnv twoForms i s f c.shared.committed := by
    intro key hkey howns
    have hall := List.all_eq_true.mp h key hkey
    rw [howns,Bool.false_or] at hall
    exact of_decide_eq_true hall
  unfold Prog.Allowed
  split
  · exact hstill _
  · trivial

lemma inTurn_ends : (replay stillReads inTurn twoRequests (fun _ => none) []).isSome := by
  decide +kernel

lemma readBefore_ends :
    (replay (fun _ _ _ => true) readBefore twoRequests (fun _ => none) []).isSome := by
  decide +kernel

/-- A run of the two requests one behind the other. -/
theorem settings_forms_own_inTurn : ∃ (c : Config Bool (Sql Store StoreError) Sql.Answer StoreError
    SettingsReply (Database Bool Store)) (log : List Bool),log=[true,false] ∧
      setting c.shared.committed "auto_reconcile_mode"=
        settingAfter asciiEnv twoForms formsStore log "auto_reconcile_mode" := by
  obtain ⟨seen,h⟩ := replay_history .refl (Option.some_get inTurn_ends).symm
  refine ⟨_,_,?_,settings_forms_own twoForms formsStore
    (h.mono fun i c s hok => guarded_of_stillReads hok) (by decide)⟩
  decide

/-- Saving the policy defaults turns automatic enforcement off again. -/
theorem settings_forms_overwrite : ¬∀ (env : Env) (forms : Bool → SettingsForm) (db : Store)
    (c : Config Bool (Sql Store StoreError) Sql.Answer StoreError SettingsReply
      (Database Bool Store)) (seen : Bool → Option Store) (log : List Bool),
    History (fun _ _ _ => True) (settingsRequests env forms db) c seen log →
      (∀ i,∃ reply,c.code i=.ret reply) → ∀ key ∈ settingDefaults.map Prod.fst,
        setting c.shared.committed key=settingAfter env forms db log key := by
  intro h
  obtain ⟨seen,hrun⟩ := replay_history .refl (Option.some_get readBefore_ends).symm
  have hmode := h asciiEnv twoForms formsStore _ seen _ (hrun.mono fun _ _ _ _ => trivial)
    (fun i => by cases i <;> exact ⟨_,rfl⟩) "auto_reconcile_mode" (by decide)
  revert hmode
  decide

end Runs
end ZenControl
