import ZenControl.Router.Rates
import ZenControl.Store.Plans

/-! The writers of bandwidth presets and of the global settings. -/
namespace ZenControl
open Calls

section Presets
variable (env : Env)

/-- A character of `[a-z0-9_]`. -/
def isKeyChar (c : Char) : Bool := ('a' ≤ c && c ≤ 'z') || ('0' ≤ c && c ≤ '9') || c= '_'

/-- `re.sub(r"[^a-z0-9_]+", "_", text)`; `skipping` holds behind the first character of a run. -/
def underscored (skipping : Bool) : List Char → List Char
  | [] => []
  | c::cs =>
    if isKeyChar c then c::underscored false cs
    else if skipping then underscored true cs
    else '_'::underscored true cs

/-- The key that `save_bandwidth_preset` makes of a text. -/
def presetKey (text : String) : String :=
  let cs := underscored false (env.lower text).toList
  String.ofList ((cs.dropWhile fun c => c= '_').reverse.dropWhile fun c => c= '_').reverse

/-- `normalize_rate`, with its error as the store raises it. -/
def presetRate (value : PyVal) : Py String :=
  match Router.normalizeRate (env.orEmpty value) with
  | .ok rate => .ok rate
  | .error message => .error (.valueError message)

/-- `INSERT INTO bandwidth_presets ... ON CONFLICT(key)`. -/
def upsertPreset (preset : BandwidthPreset) (t : Tables) : Tables :=
  match Rows.row BandwidthPreset.key preset.key t.bandwidthPresets with
  | some _ => { t with
      bandwidthPresets := Rows.amend BandwidthPreset.key preset.key
        (fun old => { preset with builtin := old.builtin }) t.bandwidthPresets }
  | none => { t with bandwidthPresets := t.bandwidthPresets ++ [preset] }

/-- The arguments of `save_bandwidth_preset`. -/
structure PresetArgs where
  key : PyVal
  name : PyVal
  upload : PyVal
  download : PyVal
  description : PyVal := .str ""

/-- `save_bandwidth_preset`. -/
def saveBandwidthPreset (a : PresetArgs) : StoreProg Unit := do
  let (key,name,upload,download) ← ofPy do
    let key := presetKey env (← a.key.stripped)
    refuse (key="" ∨ 40 < key.length) "Preset key must contain letters/numbers"
    let name ← a.name.stripped
    refuse (name="") "Preset name is required"
    let upload ← presetRate env a.upload
    let download ← presetRate env a.download
    pure (key,name,upload,download)
  storeWrite env "bandwidth-presets" "Bandwidth preset saved" do
    let _ ← Body.read fun t => refuse
      ((Rows.row BandwidthPreset.key key t.bandwidthPresets).any BandwidthPreset.builtin)
      "Built-in presets cannot be replaced"
    let description ← Body.ofPy a.description.stripped
    let _ ← Body.execute fun t => .ok (upsertPreset
      { key := key, name := clip name 50, upload := upload, download := download,
        description := clip description 160 } t)

/-- `delete_bandwidth_preset`. Templates and settings that name the preset keep naming it. -/
def deleteBandwidthPreset (key : String) : StoreProg Unit :=
  storeWrite env "bandwidth-presets" "Bandwidth preset deleted" do
    let _ ← Body.read fun t =>
      match Rows.row BandwidthPreset.key key t.bandwidthPresets with
      | none => .error (.valueError "Preset not found")
      | some preset => do
        refuse preset.builtin "Built-in presets cannot be deleted"
        refuse (t.profiles.any fun p => p.bandwidthPreset=key) "Preset is in use by a profile"
    let _ ← Body.execute fun t => .ok { t with
      bandwidthPresets := Rows.drop BandwidthPreset.key key t.bandwidthPresets }

end Presets

section Settings
variable (env : Env)

/-- The arguments of `save_settings`. -/
structure SettingsArgs where
  defaultProfileId : PyVal := .str ""
  defaultCategory : PyVal := .str "other"
  defaultBandwidthPreset : PyVal := .str "normal"
  defaultTempMinutes : PyVal := .str "30"
  policyTimezone : PyVal := .str "Europe/London"
  autoReconcileMode : PyVal := .str "off"
  intervalSeconds : PyVal := .str "30"
  failureThreshold : PyVal := .str "3"
  cooldownSeconds : PyVal := .str "300"
  expectedRevision : Option ℤ := none
  actor : String := "system:policy-store"

/-- The default profile of `save_settings`, which must exist. -/
def defaultProfile (t : Tables) (value : PyVal) : Py String :=
  match value with
  | .none => .ok ""
  | .str "" => .ok ""
  | value => do
    let id ← value.toInt
    match ← requestedProfile t id with
    | none => .error (.valueError "Default profile does not exist")
    | some _ => pure (toString id)

/-- A setting that is one of some texts; `default` stands for a blank one. -/
def settingAmong (texts : List String) (default message : String) (value : PyVal) :
    Py String := do
  let text := strip (value.textOr env.toPyRuntime default)
  refuse (text ∉ texts) message
  pure text

/-- The checks of `save_settings` and the rows that it writes. -/
def settingValues (t : Tables) (a : SettingsArgs) : Py (List (String × String)) := do
  let profile ← defaultProfile t a.defaultProfileId
  let valid ← a.defaultCategory.inTexts deviceCategories
  refuse (valid=false) "Invalid default device category"
  let category ← a.defaultCategory.asText
  let preset ← validatePreset t a.defaultBandwidthPreset
  let minutes := a.defaultTempMinutes.text env.toPyRuntime
  refuse (minutes ∉ ["15","30","60"]) "Default temporary access must be 15, 30 or 60 minutes"
  let zone := strip (env.orEmpty a.policyTimezone)
  refuse (zone="" ∨ 80 < zone.length) "Policy timezone is required"
  refuse (env.zone zone).isNone
    "Policy timezone must be a valid IANA timezone such as Europe/London"
  let mode := env.lower (strip (a.autoReconcileMode.textOr env.toPyRuntime "off"))
  refuse (mode ∉ ["off","observe","enforce"])
    "Automatic reconciliation mode must be off, observe or enforce"
  let interval ← settingAmong env ["15","30","60","120","300"] "30"
    "Automatic reconciliation interval must be 15, 30, 60, 120 or 300 seconds" a.intervalSeconds
  let threshold ← settingAmong env ["1","2","3","5","10"] "3"
    "Automatic reconciliation failure threshold must be 1, 2, 3, 5 or 10" a.failureThreshold
  let cooldown ← settingAmong env ["60","300","600","1800"] "300"
    "Automatic reconciliation cooldown must be 60, 300, 600 or 1800 seconds" a.cooldownSeconds
  pure [("default_profile_id",profile),("default_category",category),
    ("default_bandwidth_preset",preset),("default_temp_minutes",minutes),
    ("policy_timezone",zone),("auto_reconcile_mode",mode),
    ("auto_reconcile_interval_seconds",interval),
    ("auto_reconcile_failure_threshold",threshold),
    ("auto_reconcile_cooldown_seconds",cooldown)]

/-- `INSERT INTO app_settings ... ON CONFLICT(key)` for every row. -/
def putSettings (values : List (String × String)) (t : Tables) : Tables :=
  { t with appSettings := values.foldl (fun d e => dictSet d e.1 e.2) t.appSettings }

/-- `save_settings`. -/
def saveSettings (a : SettingsArgs) : StoreProg (List (String × String)) := do
  let values ← query fun t => settingValues env t a
  configWrite
    { env.writeArgs "settings" "Global settings updated" with
      expectedRevision := a.expectedRevision, actor := a.actor } do
    let _ ← Body.execute fun t => .ok (putSettings values t)
    pure values

end Settings
end ZenControl
