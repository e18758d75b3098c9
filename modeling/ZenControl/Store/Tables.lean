import ZenControl.Store.ConfigWrite

/-! The tables of the policy store. Columns that hold JSON hold their decoded value here,
and columns whose every writer validates an enumeration hold that enumeration. Rows stand
in insertion order, which is the order of their row ids. -/
namespace ZenControl

inductive Mode
  | normal
  | slow
  | blocked
  deriving DecidableEq, Repr

def Mode.text : Mode → String
  | normal => "normal"
  | slow => "slow"
  | blocked => "blocked"

/-- A device follows its profile or overrides its mode. -/
inductive ModeOverride
  | inherit
  | mode (m : Mode)
  deriving DecidableEq, Repr

inductive QuotaAction
  | slow
  | blocked
  deriving DecidableEq, Repr

inductive Weekday
  | mon
  | tue
  | wed
  | thu
  | fri
  | sat
  | sun
  deriving DecidableEq, Repr

/-- A calendar day by its proleptic Gregorian ordinal. -/
abbrev Day := ℤ

/-- What `profiles` and `policy_templates` share. -/
structure PolicyFields where
  desiredMode : Mode := .normal
  bandwidthPreset : String := "normal"
  notes : String := ""
  blockedServices : List String := []
  dailyQuotaMb : ℤ := 0
  dailyQuotaAction : QuotaAction := .blocked
  serviceQuotas : List (String × ℤ) := []
  deriving DecidableEq, Repr

/-- An id that AUTOINCREMENT gives out. -/
abbrev RowId := {n : ℤ // 0 < n}

/-- A row of `profiles`. -/
structure Profile extends PolicyFields where
  id : RowId
  name : String
  deriving DecidableEq, Repr

/-- A row of `policy_templates`. -/
structure PolicyTemplate extends PolicyFields where
  id : ℤ
  name : String
  deriving DecidableEq, Repr

/-- A row of `device_policy`. Its key is a text column that admits NULL. -/
structure DevicePolicy where
  ip : Option String
  deviceAlias : String := ""
  notes : String := ""
  category : String := "other"
  favourite : Bool := false
  profileId : Option RowId := none
  modeOverride : ModeOverride := .inherit
  deriving DecidableEq, Repr

/-- A row of `managed_device_identity`. -/
structure DeviceIdentity where
  ip : String
  identityId : String
  managedSince : String
  currentName : String
  deriving DecidableEq, Repr

/-- A row of `bandwidth_presets`. -/
structure BandwidthPreset where
  key : String
  name : String
  upload : String
  download : String
  description : String := ""
  builtin : Bool := false
  deriving DecidableEq, Repr

/-- A row of `services`. -/
structure Service where
  key : String
  name : String
  description : String := ""
  builtin : Bool := false
  category : String := "other"
  dnsSuffixes : List String := []
  tlsPatterns : List String := []
  classifierEnabled : Bool := true
  enforcementApproved : Bool := false
  enforcementApprovedAt : String := ""
  deriving DecidableEq, Repr

/-- A row of `aggregate_policy_groups`. -/
structure PolicyGroup where
  key : String
  name : String
  description : String := ""
  members : List String := []
  builtin : Bool := false
  createdAt : String := ""
  updatedAt : String := ""
  deriving DecidableEq, Repr

/-- A row of `service_groups`. -/
structure ServiceGroup where
  id : ℤ
  name : String
  description : String := ""
  services : List String := []
  deriving DecidableEq, Repr

/-- The `target_type` and `target_value` columns of schedules and exceptions. -/
inductive Target
  | all
  | profile (value : String)
  | device (value : String)
  deriving DecidableEq, Repr

/-- The `action_type` and `action_value` columns of a schedule. -/
inductive PlanAction
  | mode (value : Mode)
  | service (value : String)
  deriving DecidableEq, Repr

/-- A row of `schedule_plans`. -/
structure SchedulePlan where
  id : ℤ
  label : String
  target : Target
  action : PlanAction
  clockTime : String
  days : List Weekday
  enabled : Bool := true
  deriving DecidableEq, Repr

structure TemplateEntry where
  days : List Weekday
  time : String
  mode : Mode
  deriving DecidableEq, Repr

/-- A row of `schedule_templates`. -/
structure ScheduleTemplate where
  id : ℤ
  name : String
  description : String := ""
  entries : List TemplateEntry
  deriving DecidableEq, Repr

/-- The `mode` and `template_id` columns of a date exception. -/
inductive ExceptionMode
  | mode (m : Mode)
  | template (id : ℤ)
  deriving DecidableEq, Repr

/-- A row of `date_exceptions`. -/
structure DateException where
  id : ℤ
  label : String
  startDate : Day
  endDate : Day
  target : Target
  mode : ExceptionMode
  notes : String := ""
  deriving DecidableEq, Repr

/-- A row of `reward_accounts`. -/
structure RewardAccount where
  ip : String
  balanceMinutes : ℤ
  updatedAt : String
  deriving DecidableEq, Repr

/-- A row of `reward_ledger`. -/
structure LedgerRow where
  id : ℤ
  ip : String
  deltaMinutes : ℤ
  balanceAfter : ℤ
  kind : String
  reason : String
  actor : String
  reference : String
  createdAt : String
  deriving DecidableEq, Repr

inductive RedemptionStatus
  | reserved
  | applied
  | refunded
  deriving DecidableEq, Repr

/-- A row of `reward_redemptions`. -/
structure Redemption where
  id : ℤ
  ip : String
  minutes : ℤ
  actor : String
  status : RedemptionStatus
  createdAt : String
  updatedAt : String
  restoreAt : String
  note : String
  deriving DecidableEq, Repr

/-- The reward tables, with the last ids that AUTOINCREMENT has given out. -/
structure RewardTables where
  accounts : List RewardAccount := []
  ledger : List LedgerRow := []
  ledgerSeq : ℤ := 0
  redemptions : List Redemption := []
  redemptionSeq : ℤ := 0
  deriving DecidableEq, Repr

/-- The tables of the store beside its journal, with the last ids of those that use
AUTOINCREMENT. -/
structure Tables where
  profiles : List Profile := []
  profileSeq : ℕ := 0
  devicePolicy : List DevicePolicy := []
  identities : List DeviceIdentity := []
  policyTemplates : List PolicyTemplate := []
  policyTemplateSeq : ℤ := 0
  bandwidthPresets : List BandwidthPreset := []
  services : List Service := []
  policyGroups : List PolicyGroup := []
  serviceGroups : List ServiceGroup := []
  serviceGroupSeq : ℤ := 0
  schedulePlans : List SchedulePlan := []
  schedulePlanSeq : ℤ := 0
  scheduleTemplates : List ScheduleTemplate := []
  scheduleTemplateSeq : ℤ := 0
  dateExceptions : List DateException := []
  dateExceptionSeq : ℤ := 0
  appSettings : List (String × String) := []
  rewards : RewardTables := {}
  deriving DecidableEq, Repr

/-- The database of the store. -/
abbrev Store := ConfigDb Tables

/-- A program of the store. -/
abbrev StoreProg (α : Type) := Calls.SqlProg Store StoreError α

/-- `get_settings().get(key, default)`. -/
def settingOr (settings : List (String × String)) (key default : String) : String :=
  (settings.lookup key).getD default

end ZenControl
