import ZenControl.Policy.Resolver
import ZenControl.Store.Services
import ZenControl.Telemetry.Coverage

/-! The bytes of one client's local day as `flow_5m` has them, and what the quota engine is told
of them by service. -/
namespace ZenControl.Telemetry
open Calls Tallies

section Names
variable (py : PyRuntime)

/-- Whether a telemetry name, stripped and folded, is the key or the name of a service. -/
def answers (s : Service) (wanted : String) : Bool :=
  let key := py.lower (strip s.key)
  key≠"" && (wanted=py.casefold key || wanted=py.casefold (strip s.name))

/-- `telemetry_name_to_key` of the services of the store. -/
def telemetryNameToKey (name : String) (services : List Service) : Option String :=
  let wanted := py.casefold (strip name)
  match services.find? fun s => answers py s wanted with
  | some s => some (py.lower (strip s.key))
  | none => (serviceEnforcement.find? fun e => py.casefold e.2=wanted).map Prod.fst

end Names

section Daily

/-- An `ActivityError`, or what else a query of the activity store raises. -/
inductive ActivityFailure
  | activity (message : String)
  | raised (e : StoreError)
  deriving DecidableEq, Repr

abbrev Activity := Except ActivityFailure

/-- What `daily_usage` returns. -/
structure DailyUsage where
  clientIp : String
  day : Day
  timezone : String
  windowStart : Moment
  windowEnd : Moment
  resolutions : WallResolution × WallResolution
  totalBytes : ℤ
  downloadBytes : ℤ
  uploadBytes : ℤ
  flows : ℤ
  latestBucket : Option ℤ
  serviceBytes : List (String × ℤ)
  serviceFlows : List (String × ℤ)
  deriving DecidableEq, Repr

/-- The condition of both queries of `daily_usage`. -/
def inDay (client : String) (first last : ℤ) (key : BucketKey) : Bool :=
  key.2.1=client && (first ≤ key.1 && key.1 < last)

/-- The `service_name` of a row. -/
def serviceName (key : BucketKey) : String := orElse key.2.2.2.1 "Other"

/-- The second query of `daily_usage`. -/
def serviceTotals (db : FlowDb) (client : String) (first last : ℤ) : List (String × Totals) :=
  (postAll ((db.flow5m.filter fun e => inDay client first last e.1).map fun e =>
    (serviceName e.1,e.2)) []).insertionSort fun a b => b.2.bytes ≤ a.2.bytes

variable (env : Env)

/-- A `ValueError` of the policy time as an `ActivityError`. -/
def asActivity {α : Type} : Except StoreError α → Activity α
  | .ok a => .ok a
  | .error (.valueError message) => .error (.activity message)
  | .error e => .error (.raised e)

def raising {α : Type} : Except StoreError α → Activity α
  | .ok a => .ok a
  | .error e => .error (.raised e)

/-- The zone of `daily_usage`. -/
def usageZone (timezoneName : String) : Activity Zone :=
  match env.zone (orElse timezoneName "Europe/London") with
  | none => .error (.activity s!"Invalid policy timezone: {timezoneName}")
  | some zone => .ok zone

/-- `daily_usage`, on a database that answers or fails. -/
def dailyUsage (db : Except String FlowDb) (clientIp timezoneName : String) (at_ : PolicyAt) :
    Activity DailyUsage := do
  if (env.ipAddress clientIp).isNone then .error (.raised (.valueError "not an IP address"))
  let zone ← usageZone env timezoneName
  let (localNow,_) ← asActivity (normalizePolicyDatetime zone at_)
  let (start,startResolution) ← raising (localMidnight zone localNow.day)
  let (finish,endResolution) ← raising (localMidnight zone (localNow.day+1))
  let db ← db.mapError .activity
  let first := zone.instant start
  let last := zone.instant finish
  let rows := db.flow5m.filter fun e => inDay clientIp first last e.1
  let towards (d : Direction) := bytesWhere db fun key => inDay clientIp first last key && key.2.2.1=d
  let services := serviceTotals db clientIp first last
  pure
    { clientIp := clientIp, day := localNow.day, timezone := zone.key, windowStart := start,
      windowEnd := finish, resolutions := (startResolution,endResolution),
      totalBytes := bytesWhere db (inDay clientIp first last),
      downloadBytes := towards .download, uploadBytes := towards .upload,
      flows := (rows.map fun e => e.2.flows).sum,
      latestBucket := (rows.map fun e => e.1.1).max?,
      serviceBytes := services.map fun e => (e.1,e.2.bytes),
      serviceFlows := services.map fun e => (e.1,e.2.flows) }

end Daily

section Quota
variable (env : Env) (t : Tables)

/-- What `get_device_quota_config` returns. -/
structure QuotaConfig where
  configured : Bool
  engineEnabled : Bool
  warningPercent : ℤ
  profile : Option (ℤ × String)
  dailyQuotaMb : ℤ
  dailyQuotaAction : QuotaAction
  serviceQuotas : List (String × ℤ)
  deriving DecidableEq, Repr

/-- `get_device_quota_config`. -/
def getDeviceQuotaConfig (ip : String) : Py QuotaConfig := do
  let profile := ((devicePolicy t ip).bind DevicePolicy.profileId).bind fun id => getProfile t id.val
  let warningPercent ←
    (PyVal.str (orElse (settingOr t.appSettings "quota_warning_percent" "80") "80")).toInt
  let dailyQuotaMb := (profile.map fun p => p.dailyQuotaMb).getD 0
  let serviceQuotas := (profile.map fun p => p.serviceQuotas).getD []
  pure
    { configured := decide (dailyQuotaMb≠0) || !serviceQuotas.isEmpty
      engineEnabled := settingOr t.appSettings "quota_engine_enabled" "0"="1"
      warningPercent := warningPercent
      profile := profile.map fun p => (p.id.val,p.name)
      dailyQuotaMb := dailyQuotaMb
      dailyQuotaAction := (profile.map fun p => p.dailyQuotaAction).getD .blocked
      serviceQuotas := serviceQuotas }

/-- What `get_quota_usage` returns; the day's usage is there when telemetry was read. -/
structure DeviceUsage where
  available : Bool
  configured : Bool
  error : Option String := none
  serviceBytes : List (String × ℤ) := []
  totalBytes : ℤ := 0
  raw : Option DailyUsage := none
  deriving DecidableEq, Repr

/-- What the loop of `get_quota_usage` makes of one name. -/
def addLogical (services : List Service) (logical : List (String × ℤ)) (e : String × ℤ) :
    List (String × ℤ) :=
  match telemetryNameToKey env.toPyRuntime e.1 services with
  | some key => if key="" then logical
    else dictSet logical key ((logical.lookup key).getD 0+e.2)
  | none => logical

/-- The bytes by service key. -/
def logicalBytes (services : List Service) (serviceBytes : List (String × ℤ)) :
    List (String × ℤ) :=
  serviceBytes.foldl (addLogical env services) []

/-- `get_quota_usage`. -/
def getQuotaUsage (db : Except String FlowDb) (address : String) (at_ : PolicyAt) :
    Py DeviceUsage := do
  let config ← getDeviceQuotaConfig t address
  if config.configured=false then pure { available := true, configured := false }
  else if config.engineEnabled=false then
    pure { available := false, configured := true
           error := some "Quota engine is disabled in Settings" }
  else
    match dailyUsage env db address (settingOr t.appSettings "policy_timezone" "Europe/London")
      at_ with
    | .error (.raised e) => .error e
    | .error (.activity message) =>
      pure { available := false, configured := true
             error := some s!"Telemetry unavailable; quota policy is fail-open: {message}" }
    | .ok raw =>
      pure { available := true, configured := true, totalBytes := raw.totalBytes
             serviceBytes := logicalBytes env (listServices t) raw.serviceBytes, raw := some raw }

end Quota

section Sums
variable {env : Env} {services : List Service}

/-- The sum of the entries whose names meet a condition. -/
def sumWhere (p : String → Bool) (entries : List (String × ℤ)) : ℤ :=
  ((entries.filter fun e => p e.1).map Prod.snd).sum

/-- Whether a telemetry name is counted for a key. -/
def countsFor (env : Env) (services : List Service) (key name : String) : Bool :=
  telemetryNameToKey env.toPyRuntime name services=some key

lemma sumWhere_cons (p : String → Bool) (e : String × ℤ) (entries : List (String × ℤ)) :
    sumWhere p (e::entries)=(if p e.1 then e.2 else 0)+sumWhere p entries := by
  unfold sumWhere
  cases hp : p e.1 <;> simp [hp]

lemma addLogical_lookup {key : String} (hkey : key≠"") (logical : List (String × ℤ))
    (e : String × ℤ) : ((addLogical env services logical e).lookup key).getD 0=
      (logical.lookup key).getD 0+if countsFor env services key e.1 then e.2 else 0 := by
  unfold addLogical countsFor
  cases hname : telemetryNameToKey env.toPyRuntime e.1 services with
  | none => simp
  | some found =>
    by_cases hfound : found=key
    · subst hfound
      simp [hkey,lookup_dictSet]
    · by_cases hempty : found=""
      · simp [hempty,Ne.symm hkey]
      · simp [hempty,hfound,lookup_dictSet,Ne.symm hfound]

/-- The bytes of a key are those of the names that are counted for it. -/
lemma logicalBytes_lookup {key : String} (hkey : key≠"") (entries : List (String × ℤ)) :
    ((logicalBytes env services entries).lookup key).getD 0=
      sumWhere (countsFor env services key) entries := by
  suffices h : ∀ logical : List (String × ℤ),
      ((entries.foldl (addLogical env services) logical).lookup key).getD 0=
        (logical.lookup key).getD 0+sumWhere (countsFor env services key) entries by
    simpa [logicalBytes] using h []
  induction entries with
  | nil => simp [sumWhere]
  | cons e entries ih =>
    intro logical
    rw [List.foldl_cons,ih,sumWhere_cons,addLogical_lookup hkey,add_assoc]

/-- The names of the day carry all its bytes. -/
lemma serviceTotals_sum (db : FlowDb) (client : String) (first last : ℤ) (p : String → Bool) :
    sumWhere p ((serviceTotals db client first last).map fun e => (e.1,e.2.bytes))=
      bytesWhere db fun key => inDay client first last key && p (serviceName key) := by
  have htotal (entries : List (String × Totals)) :
      sumWhere p (entries.map fun e => (e.1,e.2.bytes))=(total p entries).bytes := by
    rw [total,Totals.sum_bytes,sumWhere,List.filter_map,List.map_map,List.map_map]
    rfl
  have hsorted (entries : List (String × Totals)) :
      total p (entries.insertionSort fun a b => b.2.bytes ≤ a.2.bytes)=total p entries :=
    (((List.perm_insertionSort _ entries).filter _).map Prod.snd).sum_eq
  rw [htotal,serviceTotals,hsorted,total_postAll,total_nil,zero_add,total,Totals.sum_bytes,
    List.filter_map,List.filter_filter,List.map_map,List.map_map,bytesWhere]
  congr 2
  refine List.filter_congr fun e _ => ?_
  rw [Bool.and_comm]
  rfl

/-- The first instants of the local day of `at_` and of the next day. -/
def localDay (env : Env) (t : Tables) (at_ : PolicyAt) : Activity (ℤ × ℤ) := do
  let zone ← usageZone env (settingOr t.appSettings "policy_timezone" "Europe/London")
  let (now,_) ← asActivity (normalizePolicyDatetime zone at_)
  let (start,_) ← raising (localMidnight zone now.day)
  let (finish,_) ← raising (localMidnight zone (now.day+1))
  pure (zone.instant start,zone.instant finish)

lemma mapError_ok {db : Except String FlowDb} {db' : FlowDb}
    (h : db.mapError ActivityFailure.activity=.ok db') : db=.ok db' := by
  cases db with
  | error e => cases h
  | ok d => exact congrArg Except.ok (Except.ok.inj h)

lemma dailyUsage_ok {t : Tables} {db : Except String FlowDb} {client : String} {at_ : PolicyAt}
    {raw : DailyUsage}
    (h : dailyUsage env db client (settingOr t.appSettings "policy_timezone" "Europe/London")
      at_=.ok raw) :
    ∃ db' first last, db=.ok db' ∧ localDay env t at_=.ok (first,last) ∧
      raw.serviceBytes=(serviceTotals db' client first last).map fun e => (e.1,e.2.bytes) := by
  unfold dailyUsage at h
  split_ifs at h
  · cases h
  · obtain ⟨zone,hzone,h⟩ := bind_ok h
    obtain ⟨⟨now,r⟩,hnow,h⟩ := bind_ok h
    obtain ⟨⟨start,r1⟩,hstart,h⟩ := bind_ok h
    obtain ⟨⟨finish,r2⟩,hfinish,h⟩ := bind_ok h
    obtain ⟨db',hdb,h⟩ := bind_ok h
    obtain rfl := Except.ok.inj h
    refine ⟨db',zone.instant start,zone.instant finish,mapError_ok hdb,?_,rfl⟩
    unfold localDay
    rw [hzone]
    change (asActivity _ >>= _)=_
    rw [hnow]
    change (raising _ >>= _)=_
    rw [hstart]
    change (raising _ >>= _)=_
    rw [hfinish]
    rfl

/-- Usage that was loaded holds for each key the bytes of the day whose names are counted for
the key. -/
theorem getQuotaUsage_loaded {t : Tables} {db : Except String FlowDb} {client : String}
    {at_ : PolicyAt} {usage : DeviceUsage} (h : getQuotaUsage env t db client at_=.ok usage)
    (hconfigured : usage.configured=true) (havailable : usage.available=true) :
    ∃ db' first last, db=.ok db' ∧ localDay env t at_=.ok (first,last) ∧
      ∀ key≠"", (usage.serviceBytes.lookup key).getD 0=bytesWhere db' fun k =>
        inDay client first last k && countsFor env (listServices t) key (serviceName k) := by
  unfold getQuotaUsage at h
  obtain ⟨config,-,h⟩ := bind_ok h
  split_ifs at h
  · obtain rfl := Except.ok.inj h
    cases hconfigured
  · obtain rfl := Except.ok.inj h
    cases havailable
  · cases hdaily : dailyUsage env db client
      (settingOr t.appSettings "policy_timezone" "Europe/London") at_ with
    | error e =>
      rw [hdaily] at h
      cases e with
      | activity message =>
        obtain rfl := Except.ok.inj h
        cases havailable
      | raised e => cases h
    | ok raw =>
      rw [hdaily] at h
      obtain rfl := Except.ok.inj h
      obtain ⟨db',first,last,hdb,hday,hraw⟩ := dailyUsage_ok hdaily
      refine ⟨db',first,last,hdb,hday,fun key hkey => ?_⟩
      rw [logicalBytes_lookup hkey,hraw,serviceTotals_sum]

end Sums
end ZenControl.Telemetry
