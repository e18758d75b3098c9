import ZenControl.Policy.Catalog
import ZenControl.Library.NumberedRows

/-! The tables behind alerts: incidents, notifications, their queued deliveries, the daily
summaries and the durable background jobs. Times are instants in whole seconds; an empty or
missing time is `none`. -/
namespace ZenControl.Attention
open Rows

inductive Severity
  | info | warning | critical
  deriving DecidableEq, Repr

/-- `_notification_severity_rank`. -/
def Severity.rank : Severity → ℕ
  | info => 0
  | warning => 1
  | critical => 2

def Severity.text : Severity → String
  | info => "info"
  | warning => "warning"
  | critical => "critical"

/-- `_incident_severity`. -/
def incidentSeverity (value : String) : Severity :=
  let value := nocase (strip (orElse value "warning"))
  if value="info" then .info else if value="critical" then .critical else .warning

inductive IncidentStatus
  | opened | acknowledged | resolved
  deriving DecidableEq, Repr

/-- A row of `incidents`. -/
structure Incident where
  fingerprint : String
  source : String
  subject : String := ""
  severity : Severity
  status : IncidentStatus := .opened
  title : String
  detail : String := ""
  openedAt : ℤ
  firstSeenAt : ℤ
  lastSeenAt : ℤ
  updatedAt : ℤ
  occurrences : ℕ := 1
  acknowledgedAt : Option ℤ := none
  acknowledgedBy : String := ""
  resolvedAt : Option ℤ := none
  resolvedBy : String := ""
  resolution : String := ""
  suppressUntilClear : Bool := false
  deriving DecidableEq, Repr

inductive NotificationState
  | unread | read | acknowledged | dismissed
  deriving DecidableEq, Repr

def NotificationState.text : NotificationState → String
  | unread => "unread"
  | read => "read"
  | acknowledged => "acknowledged"
  | dismissed => "dismissed"

/-- A row of `notifications`. -/
structure Notification where
  dedupeKey : String
  source : String
  eventType : String
  subject : String := ""
  severity : Severity
  sourceSeverity : Severity
  state : NotificationState := .unread
  title : String
  detail : String := ""
  sourceRef : String := ""
  targetUrl : String := ""
  createdAt : ℤ
  firstSeenAt : ℤ
  lastSeenAt : ℤ
  updatedAt : ℤ
  occurrences : ℕ := 1
  readAt : Option ℤ := none
  readBy : String := ""
  acknowledgedAt : Option ℤ := none
  acknowledgedBy : String := ""
  dismissedAt : Option ℤ := none
  dismissedBy : String := ""
  resolvedAt : Option ℤ := none
  resolvedBy : String := ""
  resolution : String := ""
  attentionEligibleAt : Option ℤ := none
  escalationLevel : ℕ := 0
  escalatedAt : Option ℤ := none
  escalationReason : String := ""
  reopenCount : ℕ := 0
  deriving DecidableEq, Repr

/-- The states of a queued delivery; `suppressed` is of notifications only, `retry` of
summaries only. -/
inductive DeliveryStatus
  | pending | retry | sending | sent | failed | suppressed | cancelled
  deriving DecidableEq, Repr

/-- A delivery that may still be sent. -/
def DeliveryStatus.Active (s : DeliveryStatus) : Prop := s=pending ∨ s=retry ∨ s=sending

/-- A delivery on which nothing is left to be done. -/
def DeliveryStatus.Settled (s : DeliveryStatus) : Prop :=
  s=cancelled ∨ s=sent ∨ s=suppressed ∨ s=failed

instance (s : DeliveryStatus) : Decidable s.Active :=
  inferInstanceAs (Decidable (_ ∨ _ ∨ _))
instance (s : DeliveryStatus) : Decidable s.Settled :=
  inferInstanceAs (Decidable (_ ∨ _ ∨ _ ∨ _))

inductive DeliveryKind
  | notification | escalation | test
  deriving DecidableEq, Repr

/-- A row of `notification_push_subscriptions`. -/
structure Subscription where
  endpoint : String
  username : String
  enabled : Bool := true
  updatedAt : ℤ
  lastSuccessAt : Option ℤ := none
  lastFailureAt : Option ℤ := none
  lastError : String := ""
  failures : ℕ := 0
  disabledAt : Option ℤ := none
  deriving DecidableEq, Repr

/-- A row of `notification_push_deliveries`. -/
structure PushDelivery where
  notificationId : ℕ
  subscriptionId : ℕ
  occurrence : ℕ
  kind : DeliveryKind
  status : DeliveryStatus := .pending
  attempts : ℕ := 0
  maxAttempts : ℕ := 3
  availableAt : ℤ
  updatedAt : ℤ
  claimedAt : Option ℤ := none
  sentAt : Option ℤ := none
  error : String := ""
  deriving DecidableEq, Repr

inductive Channel
  | email | webhook
  deriving DecidableEq, Repr

/-- An idempotency key of an external delivery, with the parts that its text
`external:{id}:{channel}:{destination_key}:{occurrence}:{kind}` or
`external-test:{channel}:{destination_key}:{occurrence}` is made of. -/
inductive IdempotencyKey
  | notification (id : ℕ) (channel : Channel) (destinationKey : String) (occurrence : ℕ)
      (kind : DeliveryKind)
  | test (channel : Channel) (destinationKey : String) (occurrence : ℕ)
  deriving DecidableEq, Repr

/-- A row of `notification_external_deliveries`. -/
structure ExternalDelivery where
  notificationId : ℕ
  channel : Channel
  destination : String
  destinationKey : String
  occurrence : ℕ
  kind : DeliveryKind
  idempotencyKey : IdempotencyKey
  status : DeliveryStatus := .pending
  attempts : ℕ := 0
  maxAttempts : ℕ
  availableAt : ℤ
  updatedAt : ℤ
  claimedAt : Option ℤ := none
  sentAt : Option ℤ := none
  error : String := ""
  httpStatus : ℤ := 0
  deriving DecidableEq, Repr

/-- The row of `notification_external_delivery_settings`. -/
structure WebhookSettings where
  enabled : Bool := false
  name : String := "Webhook"
  url : String := ""
  deriving DecidableEq, Repr

inductive SummaryKind
  | scheduled | test
  deriving DecidableEq, Repr

inductive SummaryPeriod
  | today | yesterday
  deriving DecidableEq, Repr

/-- An idempotency key of a summary delivery, `scheduled:{report_date}:{period}:{channel}` or
`test:{report_date}:{period}:{channel}:{suffix}`. -/
inductive SummaryKey
  | scheduled (reportDate : String) (period : SummaryPeriod) (channel : Channel)
  | test (reportDate : String) (period : SummaryPeriod) (channel : Channel) (suffix : String)
  deriving DecidableEq, Repr

/-- A row of `summary_deliveries`. -/
structure SummaryDelivery where
  kind : SummaryKind := .scheduled
  reportDate : String
  period : SummaryPeriod
  channel : Channel
  destination : String
  idempotencyKey : SummaryKey
  status : DeliveryStatus := .pending
  attempts : ℕ := 0
  createdAt : ℤ
  updatedAt : ℤ
  nextAttemptAt : Option ℤ := none
  lastAttemptAt : Option ℤ := none
  sentAt : Option ℤ := none
  error : String := ""
  deriving DecidableEq, Repr

inductive JobStatus
  | pending | running | succeeded | failed
  deriving DecidableEq, Repr

/-- A row of `background_jobs`. -/
structure BackgroundJob where
  kind : String
  scope : String
  idempotencyKey : String
  status : JobStatus := .pending
  attempts : ℕ := 0
  maxAttempts : ℕ
  availableAt : ℤ
  leaseOwner : String := ""
  leaseToken : String := ""
  leaseExpiresAt : Option ℤ := none
  updatedAt : ℤ
  startedAt : Option ℤ := none
  finishedAt : Option ℤ := none
  error : String := ""
  deriving DecidableEq, Repr

/-- What `_notification_preferences_db` reads from the settings. -/
structure NotificationPreferences where
  enabled : Bool := true
  minSeverity : Severity := .info
  quietHoursEnabled : Bool := false
  quietStart : String := "22:00"
  quietEnd : String := "07:00"
  timezone : String := "Europe/London"
  criticalBypassQuiet : Bool := true
  cooldownSeconds : ℕ := 300
  mutedSources : List String := []
  mutedSubjects : List String := []
  disabledEvents : List String := []
  deriving DecidableEq, Repr

/-- The stored settings of notification intelligence, as `int` reads them. -/
structure IntelligenceSettings where
  escalationEnabled : Bool := true
  warningEscalateSeconds : Option ℤ := some 1800
  repeatEscalateCount : Option ℤ := some 5
  deriving DecidableEq, Repr

/-- The committed tables. -/
structure Desk where
  preferences : NotificationPreferences := {}
  intelligence : IntelligenceSettings := {}
  incidentRetentionDays : Option ℤ := some 30
  incidents : Table Incident := .empty
  notifications : Table Notification := .empty
  subscriptions : Table Subscription := .empty
  pushDeliveries : Table PushDelivery := .empty
  webhook : WebhookSettings := {}
  externalDeliveries : Table ExternalDelivery := .empty
  summaryDeliveries : Table SummaryDelivery := .empty
  jobs : Table BackgroundJob := .empty

/-- The microsecond at which a second begins. -/
def wholeSecond : Fin 1000000 := 0

/-- What a call finds around the database: the clock and the environment variables of the
mail transport. -/
structure Host where
  now : ℤ := 0
  microsecond : Fin 1000000 := wholeSecond
  smtpEnabled : Bool := false
  smtpTo : String := ""
  externalMaxAttempts : ℤ := 5
  webhookAllowHttp : Bool := false

/-- The parts of `urlsplit` that are looked at. -/
structure UrlParts where
  scheme : String
  hostname : Option String
  username : Option String
  password : Option String

/-- What is the same for all calls: Python's text operations, time zones and `urlsplit`, and
the digest `_notification_external_destination_key` of a channel and a destination. -/
structure Platform extends Runtime where
  urlsplit : String → Except StoreError UrlParts
  destinationKey : Channel → String → String

/-- What a call returns with the tables it commits; a call that raises commits nothing. -/
abbrev Call (α : Type) := Except StoreError (α × Desk)

/-- The tables after a call. -/
def Call.commit {α : Type} (call : Call α) (desk : Desk) : Desk :=
  match call with
  | .ok (_,desk') => desk'
  | .error _ => desk

end ZenControl.Attention
