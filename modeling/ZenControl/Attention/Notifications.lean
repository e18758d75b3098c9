import ZenControl.Attention.Deliveries

/-! Notifications: the upsert of a source event, the resolution, the transitions of operators
and the escalation by notification intelligence, with the deliveries that each of them queues
or cancels. -/
namespace ZenControl.Attention
open Rows

/-- The arguments of `_upsert_notification_db`. -/
structure NotificationArgs where
  dedupeKey : String
  source : String
  eventType : String
  severity : String
  title : String
  detail : String := ""
  subject : String := ""
  sourceRef : String := ""
  targetUrl : String := ""
  raiseAttention : Bool := true
  incrementOccurrence : Bool := true

namespace NotificationArgs

/-- The arguments as they are stored. -/
def normalized (args : NotificationArgs) : NotificationArgs :=
  { args with
    dedupeKey := clip (strip args.dedupeKey) 240
    source := orElse (clip (strip (orElse args.source "system")) 120) "system"
    eventType := orElse (clip (strip (orElse args.eventType "event")) 120) "event"
    subject := clip (strip args.subject) 160
    sourceRef := clip (strip args.sourceRef) 240
    targetUrl := clip (strip args.targetUrl) 500
    title := orElse (clip (strip (orElse args.title "Notification")) 200) "Notification"
    detail := clip (strip args.detail) 3000 }

/-- The row of a new notification. -/
def created (args : NotificationArgs) (now : ℤ) : Notification :=
  { dedupeKey := args.dedupeKey, source := args.source, eventType := args.eventType,
    subject := args.subject, severity := incidentSeverity args.severity,
    sourceSeverity := incidentSeverity args.severity, title := args.title,
    detail := args.detail, sourceRef := args.sourceRef, targetUrl := args.targetUrl,
    createdAt := now, firstSeenAt := now, lastSeenAt := now, updatedAt := now }

end NotificationArgs

inductive UpsertAction
  | created | reopened | escalated | updated
  deriving DecidableEq, Repr

namespace Notification

/-- Whether an upsert reopens a row. -/
def reopens (args : NotificationArgs) (row : Notification) : Bool :=
  args.raiseAttention && row.resolvedAt.isSome

/-- `source_severity_escalated`. -/
def sourceEscalates (args : NotificationArgs) (row : Notification) : Bool :=
  decide (row.sourceSeverity.rank < (incidentSeverity args.severity).rank)

/-- `escalated_attention`. -/
def attentionEscalates (args : NotificationArgs) (row : Notification) : Bool :=
  args.raiseAttention && row.sourceEscalates args

/-- The severity of attention after an upsert. -/
def nextSeverity (args : NotificationArgs) (row : Notification) : Severity :=
  let source := incidentSeverity args.severity
  if row.attentionEscalates args then source
  else if row.reopens args then source
  else if 0 < row.escalationLevel then
    if row.severity.rank < source.rank then source else row.severity
  else source

/-- The end of the cooldown of a reopened row. -/
def nextEligibleAt (args : NotificationArgs) (prefs : NotificationPreferences) (now : ℤ)
    (row : Notification) : Option ℤ :=
  if row.attentionEscalates args then none
  else if row.reopens args then
    if incidentSeverity args.severity≠.critical ∧ 0 < prefs.cooldownSeconds then
      match row.resolvedAt with
      | none => none
      | some resolved =>
        if now < resolved+prefs.cooldownSeconds then some (resolved+prefs.cooldownSeconds)
        else none
    else none
  else row.attentionEligibleAt

/-- The update of `_upsert_notification_db` for normalized arguments. -/
def upserted (args : NotificationArgs) (prefs : NotificationPreferences) (now : ℤ)
    (row : Notification) : Notification :=
  let reopen := row.reopens args
  let state := if reopen || row.attentionEscalates args then .unread else row.state
  let clear := reopen || (decide (row.state=.dismissed) && row.attentionEscalates args)
  { row with
    source := args.source
    eventType := args.eventType
    subject := args.subject
    severity := row.nextSeverity args
    sourceSeverity := incidentSeverity args.severity
    state := state
    title := args.title
    detail := args.detail
    sourceRef := args.sourceRef
    targetUrl := args.targetUrl
    lastSeenAt := now
    updatedAt := now
    attentionEligibleAt := row.nextEligibleAt args prefs now
    escalationLevel := if reopen then 0 else row.escalationLevel
    escalatedAt := if reopen then none else row.escalatedAt
    escalationReason := if reopen then "" else row.escalationReason
    reopenCount := if reopen then row.reopenCount+1 else row.reopenCount
    occurrences := if args.incrementOccurrence then row.occurrences+1 else row.occurrences
    resolvedAt := if clear then none else row.resolvedAt
    resolvedBy := if clear then "" else row.resolvedBy
    resolution := if clear then "" else row.resolution
    dismissedAt := if clear then none else row.dismissedAt
    dismissedBy := if clear then "" else row.dismissedBy
    acknowledgedAt := if clear then none else row.acknowledgedAt
    acknowledgedBy := if clear then "" else row.acknowledgedBy
    readAt := if state=.unread then none else row.readAt
    readBy := if state=.unread then "" else row.readBy }

/-- The action of an upsert on a row that exists. -/
def upsertAction (args : NotificationArgs) (row : Notification) : UpsertAction :=
  if row.reopens args then .reopened
  else if row.sourceEscalates args then .escalated
  else .updated

end Notification

/-- Queue a notification for push and for the external targets. -/
def queueNotification (p : Platform) (host : Host) (kind : DeliveryKind) (id : ℕ)
    (row : Notification) (desk : Desk) : Desk :=
  queueNotificationExternal p host kind id row (queueNotificationPush p host kind id row desk)

/-- The action of `_upsert_notification_db`, the id of the row and the tables. -/
structure Upsert where
  action : UpsertAction
  id : ℕ
  desk : Desk

/-- `_upsert_notification_db` after its arguments were normalized. -/
def upsertNormalized (p : Platform) (host : Host) (args : NotificationArgs) (desk : Desk) :
    Upsert :=
  match desk.notifications.first fun r => r.dedupeKey=args.dedupeKey with
  | none =>
    let row := args.created host.now
    let id := desk.notifications.next
    let desk' := { desk with notifications := desk.notifications.insert row }
    ⟨.created,id,
      if args.raiseAttention then queueNotification p host .notification id row desk'
      else desk'⟩
  | some (id,row) =>
    let row' := row.upserted args desk.preferences host.now
    let desk' := { desk with
        notifications := desk.notifications.modify id
          (.upserted args desk.preferences host.now) }
    let action := row.upsertAction args
    ⟨action,id,
      if args.raiseAttention ∧ action≠.updated then
        queueNotification p host .notification id row' desk'
      else desk'⟩

/-- `_upsert_notification_db`. -/
def upsertNotificationDb (p : Platform) (host : Host) (args : NotificationArgs)
    (desk : Desk) : Except StoreError Upsert :=
  if args.normalized.dedupeKey="" then
    .error (.valueError "Notification dedupe key is required")
  else .ok (upsertNormalized p host args.normalized desk)

/-- `upsert_notification`. -/
def upsertNotification (p : Platform) (host : Host) (args : NotificationArgs) (desk : Desk) :
    Call (UpsertAction × ℕ) :=
  match upsertNotificationDb p host args desk with
  | .error e => .error e
  | .ok upsert => .ok ((upsert.action,upsert.id),upsert.desk)

/-- The update of `_resolve_notification_db`. -/
def Notification.resolve (now : ℤ) (actor resolution : String) (row : Notification) :
    Notification :=
  { row with
    resolvedAt := some (row.resolvedAt.getD now)
    resolvedBy := clip (orElse actor "system") 100
    resolution := clip (orElse resolution "Signal cleared") 500
    updatedAt := now }

/-- Cancel what is queued of a notification. -/
def cancelDeliveriesFor (host : Host) (id : ℕ) (pushReason externalReason : String)
    (desk : Desk) : Desk :=
  cancelExternalFor host id externalReason (cancelPushFor host id pushReason desk)

/-- `_resolve_notification_db`; the key is taken as it is. -/
def resolveNotificationDb (host : Host) (dedupeKey actor resolution : String) (desk : Desk) :
    Desk :=
  match desk.notifications.first fun r => r.dedupeKey=dedupeKey with
  | none => desk
  | some (id,_) =>
    cancelDeliveriesFor host id "Source notification resolved before push delivery"
      "Source notification resolved before external delivery"
      { desk with
        notifications := desk.notifications.modify id
          (.resolve host.now actor resolution) }

/-- `resolve_notification`. -/
def resolveNotification (host : Host) (dedupeKey actor resolution : String) (desk : Desk) :
    Call Unit :=
  .ok ((),resolveNotificationDb host dedupeKey actor resolution desk)

/-- The update of `_notification_transition` to a state. -/
def Notification.transition (now : ℤ) (actor : String) (state : NotificationState)
    (row : Notification) : Notification :=
  let readBy := if row.readBy="" then actor else row.readBy
  match state with
  | .unread => row
  | .read => { row with state := .read, readAt := some now, readBy := actor, updatedAt := now }
  | .acknowledged =>
    { row with
      state := .acknowledged
      readAt := some (row.readAt.getD now)
      readBy := readBy
      acknowledgedAt := some now
      acknowledgedBy := actor
      updatedAt := now }
  | .dismissed =>
    { row with
      state := .dismissed
      readAt := some (row.readAt.getD now)
      readBy := readBy
      dismissedAt := some now
      dismissedBy := actor
      updatedAt := now }

/-- `_notification_transition`, the common body of `mark_notification_read`,
`acknowledge_notification` and `dismiss_notification`. -/
def notificationTransition (host : Host) (id : ℕ) (state : NotificationState)
    (actor : String) (desk : Desk) : Call Notification :=
  let actor := clip (strip (orElse actor "unknown")) 100
  if state=.unread then .error (.valueError "Unread is not a terminal operator transition")
  else match desk.notifications.find id with
    | none => .error (.valueError "Notification does not exist")
    | some row => .ok (row.transition host.now actor state,
      cancelDeliveriesFor host id ("Notification marked " ++ state.text)
        ("Notification marked " ++ state.text)
        { desk with
          notifications := desk.notifications.modify id
            (.transition host.now actor state) })

/-- `mark_notification_read`. -/
def markNotificationRead (host : Host) (id : ℕ) (actor : String) (desk : Desk) :
    Call Notification := notificationTransition host id .read actor desk

/-- `acknowledge_notification`. -/
def acknowledgeNotification (host : Host) (id : ℕ) (actor : String) (desk : Desk) :
    Call Notification := notificationTransition host id .acknowledged actor desk

/-- `dismiss_notification`. -/
def dismissNotification (host : Host) (id : ℕ) (actor : String) (desk : Desk) :
    Call Notification := notificationTransition host id .dismissed actor desk

/-- `mark_all_notifications_read`; the reply is the number of rows. -/
def markAllNotificationsRead (host : Host) (actor : String) (desk : Desk) : Call ℕ :=
  let actor := clip (strip (orElse actor "unknown")) 100
  let unread := desk.notifications.select fun _ r => r.state=.unread
  .ok (unread.length,
    unread.foldl (fun desk r =>
      cancelDeliveriesFor host r.1 "Notification marked read before push delivery"
        "Notification marked read before external delivery" desk)
      { desk with
        notifications := desk.notifications.update (fun _ r => r.state=.unread)
          (.transition host.now actor .read) })

section Intelligence

/-- The numbers of `notification_intelligence_settings`. -/
def IntelligenceSettings.ageSeconds (s : IntelligenceSettings) : ℤ :=
  max 60 (min (s.warningEscalateSeconds.getD 1800) 86400)

def IntelligenceSettings.repeatCount (s : IntelligenceSettings) : ℤ :=
  max 2 (min (s.repeatEscalateCount.getD 5) 100)

/-- Why a notification is escalated. -/
inductive EscalationReason
  | age (seconds threshold : ℤ)
  | repeated (times : ℕ) (threshold : ℤ)
  deriving DecidableEq, Repr

def EscalationReason.text : EscalationReason → String
  | age seconds threshold => s!"unresolved warning for {seconds}s (threshold {threshold}s)"
  | repeated times threshold => s!"repeated {times} times (threshold {threshold})"

/-- The rows that `evaluate_notification_intelligence` selects. -/
def Notification.candidate (row : Notification) : Bool :=
  row.resolvedAt.isNone && (row.state=.unread || row.state=.read) &&
    row.escalationLevel=0 && row.sourceSeverity=.warning && row.severity≠.critical

/-- The reasons to escalate a candidate. -/
def Notification.escalationReasons (settings : IntelligenceSettings) (now : ℤ)
    (row : Notification) : List EscalationReason :=
  let age := max 0 (now-row.firstSeenAt)
  let repeats := max 1 row.occurrences
  (if settings.ageSeconds ≤ age then [.age age settings.ageSeconds] else []) ++
    if settings.repeatCount ≤ repeats then [.repeated repeats settings.repeatCount] else []

/-- The update of an escalation. -/
def Notification.escalate (now : ℤ) (reason : String) (row : Notification) : Notification :=
  { row with
    severity := .critical
    escalationLevel := 1
    escalatedAt := some now
    escalationReason := reason
    state := .unread
    readAt := none
    readBy := ""
    updatedAt := now
    attentionEligibleAt := none }

/-- What `evaluate_notification_intelligence` reports: the rows it looked at, and the rows it
escalated with their reasons. -/
structure Evaluation where
  scanned : List ℕ := []
  escalated : List (ℕ × List EscalationReason) := []
  deriving DecidableEq, Repr

/-- `"; ".join(reasons)[:500]`. -/
def reasonText (reasons : List EscalationReason) : String :=
  clip ("; ".intercalate (reasons.map EscalationReason.text)) 500

/-- One candidate of `evaluate_notification_intelligence`. -/
def evaluateOne (p : Platform) (host : Host) (now : ℤ) (settings : IntelligenceSettings)
    (r : ℕ × Notification) (state : Evaluation × Desk) : Evaluation × Desk :=
  let (result,desk) := state
  let result := { result with scanned := result.scanned ++ [r.1] }
  match r.2.escalationReasons settings now with
  | [] => (result,desk)
  | reasons =>
    let reason := reasonText reasons
    let desk := { desk with
        notifications := desk.notifications.modify r.1
          (.escalate now reason) }
    let desk := cancelDeliveriesFor host r.1
      "Notification escalated; superseded pending delivery"
      "Notification escalated; superseded pending delivery" desk
    let desk := match desk.notifications.find r.1 with
      | none => desk
      | some updated => queueNotification p host .escalation r.1 updated desk
    ({ result with escalated := result.escalated ++ [(r.1,reasons)] },desk)

/-- `evaluate_notification_intelligence`; `now` is the argument, else the clock. -/
def evaluateNotificationIntelligence (p : Platform) (host : Host) (now : Option ℤ)
    (desk : Desk) : Call Evaluation :=
  if desk.intelligence.escalationEnabled=false then .ok ({},desk)
  else
    .ok ((desk.notifications.select fun _ r => r.candidate).foldl
      (fun state r => evaluateOne p host (now.getD host.now) desk.intelligence r state)
      ({},desk))

end Intelligence
end ZenControl.Attention
