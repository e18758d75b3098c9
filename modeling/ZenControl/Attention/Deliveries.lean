import ZenControl.Attention.Tables

/-! The push and the external delivery queue of notifications, with the policy that decides
whether a notification is worth a delivery. A call reads and writes the committed tables;
each of the row functions is one `UPDATE`. -/
namespace ZenControl.Attention
open Rows

/-- `int(value or default)` of a stored count. -/
def countOr (n default : ℕ) : ℕ := if n=0 then default else n

/-- The statuses of the cancelling updates, `status IN ('pending','sending')`. -/
def DeliveryStatus.cancellable (s : DeliveryStatus) : Bool := s=pending || s=sending

/-- The loop of a claim: every selected row is taken that still waits. -/
def claimEach {α : Type} (waiting : α → Bool) (claim : α → α) :
    List (ℕ × α) → Table α → List (ℕ × α) × Table α
  | [], t => ([],t)
  | (id,_)::rest, t =>
    match t.find id with
    | none => claimEach waiting claim rest t
    | some row =>
      if waiting row then
        let (claimed,t') := claimEach waiting claim rest (t.modify id claim)
        ((id,claim row)::claimed,t')
      else claimEach waiting claim rest t

section Policy

/-- `_notification_source_family`. -/
def notificationSourceFamily (p : Platform) (source : String) : String :=
  let text := p.lower (strip (orElse source "system"))
  orElse ((cutAt ':' text).elim text Prod.fst) "system"

/-- A text `HH:MM` as the minute of the day. -/
def clockMinutes (text : String) : Option ℤ :=
  (cutAt ':' text).bind fun (h,m) =>
    (pyInt h).bind fun h => (pyInt m).map fun m => h*60+m

/-- Whether an instant is in the quiet hours; settings that cannot be read are no reason to be
quiet. -/
def inQuietHours (p : Platform) (prefs : NotificationPreferences) (now : ℤ) : Bool :=
  ((p.zone (orElse prefs.timezone "Europe/London")).bind fun zone =>
    (clockMinutes (orElse prefs.quietStart "22:00")).bind fun start =>
    (clockMinutes (orElse prefs.quietEnd "07:00")).map fun stop =>
      let current := (zone.fromutc (now*1000000)).timeOfDay/minuteUs
      if start < stop then decide (start ≤ current ∧ current < stop)
      else decide (start ≤ current ∨ current < stop)).getD false

/-- `_notification_policy_decision`: the reason to suppress a notification, if there is one. -/
def notificationPolicyDecision (p : Platform) (prefs : NotificationPreferences)
    (row : Notification) (now : ℤ) : Option String :=
  let family := notificationSourceFamily p row.source
  let eventType := orElse (p.lower (strip (orElse row.eventType "event"))) "event"
  let eventKey := family ++ ":" ++ eventType
  let subject := p.lower (strip row.subject)
  if prefs.enabled=false then some "notifications disabled"
  else if row.severity.rank < prefs.minSeverity.rank then
    some ("below " ++ prefs.minSeverity.text ++ " threshold")
  else if family ∈ prefs.mutedSources then some (family ++ " source muted")
  else if subject≠"" ∧ subject ∈ prefs.mutedSubjects then some "device/subject muted"
  else if eventKey ∈ prefs.disabledEvents then some "event disabled"
  else if row.severity≠.critical ∧ row.attentionEligibleAt.any (fun at' => now < at') then
    some "cooldown"
  else if prefs.quietHoursEnabled ∧
      ¬(row.severity=.critical ∧ prefs.criticalBypassQuiet) ∧ inQuietHours p prefs now then
    some "quiet hours"
  else none

end Policy

section Push

namespace PushDelivery

/-- The update of `recover_notification_push_deliveries`. -/
def recover (now : ℤ) (r : PushDelivery) : PushDelivery :=
  { r with
    status := .pending, availableAt := now, updatedAt := now,
    error := "Recovered interrupted push delivery" }

/-- The update of `claim_notification_push_deliveries`. -/
def claim (now : ℤ) (r : PushDelivery) : PushDelivery :=
  { r with
    status := .sending, attempts := r.attempts+1, claimedAt := some now,
    updatedAt := now }

/-- The update of `complete_notification_push_delivery`. -/
def complete (now : ℤ) (r : PushDelivery) : PushDelivery :=
  { r with status := .sent, sentAt := some now, updatedAt := now, error := "" }

/-- Whether a failure of this delivery is its last one. -/
def terminal (disableSubscription : Bool) (r : PushDelivery) : Bool :=
  disableSubscription || decide (countOr r.maxAttempts 3 ≤ r.attempts)

/-- The update of `fail_notification_push_delivery`. -/
def fail (now : ℤ) (error : String) (disableSubscription : Bool) (r : PushDelivery) :
    PushDelivery :=
  let delay := match r.attempts with
    | 1 => 5
    | 2 => 30
    | _ => 120
  { r with
    status := if r.terminal disableSubscription then .failed else .pending,
    availableAt := now+delay, updatedAt := now, claimedAt := none, error := error }

/-- The update of the cancelling calls. -/
def cancel (now : ℤ) (error : String) (r : PushDelivery) : PushDelivery :=
  { r with status := .cancelled, updatedAt := now, error := error }

end PushDelivery

/-- `register_push_subscription`. -/
def registerPushSubscription (host : Host) (username endpoint p256dh auth : String)
    (desk : Desk) : Call Unit :=
  let username := clip (strip username) 100
  let endpoint := strip endpoint
  let p256dh := strip p256dh
  let auth := strip auth
  if username="" then .error (.valueError "Push subscription username is required")
  else if ¬"https://".toList.isPrefixOf endpoint.toList ∨ 2400 < endpoint.length then
    .error (.valueError "Push subscription endpoint must be a bounded https:// URL")
  else if p256dh="" ∨ 500 < p256dh.length ∨ auth="" ∨ 500 < auth.length then
    .error (.valueError "Push subscription browser keys are required")
  else
    let subscriptions := match desk.subscriptions.first fun s => s.endpoint=endpoint with
      | none => desk.subscriptions.insert
          { endpoint := endpoint, username := username, updatedAt := host.now }
      | some (id,_) => desk.subscriptions.modify id fun s =>
          { s with
            username := username, enabled := true, updatedAt := host.now,
            lastError := "", failures := 0, disabledAt := none }
    .ok ((),{ desk with subscriptions := subscriptions })

/-- `disable_push_subscription`. -/
def disablePushSubscription (host : Host) (username endpoint : String) (desk : Desk) :
    Call Bool :=
  let username := clip (strip username) 100
  let endpoint := strip endpoint
  match desk.subscriptions.first fun s => s.endpoint=endpoint ∧ s.username=username with
  | none => .ok (false,desk)
  | some (id,_) => .ok (true,
    { desk with
      subscriptions := desk.subscriptions.modify id fun s =>
        { s with enabled := false, updatedAt := host.now, disabledAt := some host.now }
      pushDeliveries := desk.pushDeliveries.update
        (fun _ r => r.subscriptionId=id && r.status.cancellable)
        (.cancel host.now "Subscription disabled before delivery") })

/-- The row that a queued notification becomes for one subscription. -/
def PushDelivery.queued (now : ℤ) (notificationId occurrence : ℕ) (kind : DeliveryKind)
    (suppressed : Option String) (subscriptionId : ℕ) : PushDelivery :=
  { notificationId := notificationId, subscriptionId := subscriptionId,
    occurrence := occurrence, kind := kind,
    status := if suppressed.isSome then .suppressed else .pending,
    availableAt := now, updatedAt := now, error := clip (suppressed.getD "") 500 }

/-- `UNIQUE(notification_id, subscription_id, occurrence, kind)`. -/
def PushDelivery.clashes (row r : PushDelivery) : Bool :=
  r.notificationId=row.notificationId && r.subscriptionId=row.subscriptionId &&
    r.occurrence=row.occurrence && r.kind=row.kind

/-- The enabled subscriptions by their ids. -/
def Desk.enabledSubscriptions (desk : Desk) : List ℕ :=
  (desk.subscriptions.select fun _ s => s.enabled).map Prod.fst

/-- `_queue_notification_push_db` for a notification row and its id. -/
def queueNotificationPush (p : Platform) (host : Host) (kind : DeliveryKind) (id : ℕ)
    (row : Notification) (desk : Desk) : Desk :=
  if row.state≠.unread ∨ row.resolvedAt.isSome then desk
  else
    let suppressed := notificationPolicyDecision p desk.preferences row host.now
    { desk with
      pushDeliveries := desk.enabledSubscriptions.foldl
        (fun t subscription =>
          let delivery := PushDelivery.queued host.now id (max 1 row.occurrences) kind
            suppressed subscription
          t.insertUnless delivery.clashes delivery)
        desk.pushDeliveries }

/-- The inserts of `enqueue_notification_push_test`. -/
def insertPushTests (now : ℤ) (occurrence : ℕ) :
    List ℕ → Table PushDelivery → Except StoreError (List ℕ × Table PushDelivery)
  | [], t => .ok ([],t)
  | subscription::rest, t =>
    let delivery := PushDelivery.queued now 0 occurrence .test none subscription
    if (t.first delivery.clashes).isSome then .error .integrityError
    else match insertPushTests now occurrence rest (t.insert delivery) with
      | .error e => .error e
      | .ok (ids,t') => .ok (t.next::ids,t')

/-- `enqueue_notification_push_test`; `milliseconds` is the clock. -/
def enqueueNotificationPushTest (host : Host) (milliseconds : ℕ) (username : String)
    (desk : Desk) : Call (List ℕ) :=
  let username := clip (strip username) 100
  if username="" then .error (.valueError "Push test username is required")
  else
    let subscriptions := desk.subscriptions.select fun _ s =>
      s.username=username && s.enabled
    if subscriptions.isEmpty then
      .error (.valueError "This account has no enabled browser push subscription")
    else match insertPushTests host.now milliseconds (subscriptions.map Prod.fst)
        desk.pushDeliveries with
      | .error e => .error e
      | .ok (ids,t) => .ok (ids,{ desk with pushDeliveries := t })

/-- `status='sending' AND claimed_at<>'' AND claimed_at<=?`, two minutes back. -/
def PushDelivery.stale (now : ℤ) (r : PushDelivery) : Bool :=
  r.status=.sending && r.claimedAt.any fun t => decide (t ≤ now-120)

/-- `recover_notification_push_deliveries`. -/
def recoverNotificationPushDeliveries (host : Host) (desk : Desk) : Call Unit :=
  .ok ((),{ desk with
      pushDeliveries := desk.pushDeliveries.update
        (fun _ r => r.stale host.now) (.recover host.now) })

/-- `claim_notification_push_deliveries`. -/
def claimNotificationPushDeliveries (host : Host) (limit : ℕ) (desk : Desk) :
    Call (List (ℕ × PushDelivery)) :=
  let limit := max 1 (min limit 100)
  let rows := (desk.pushDeliveries.select fun _ r =>
    r.status=.pending && decide (r.availableAt ≤ host.now)).take limit
  let (claimed,t) := claimEach (fun r : PushDelivery => r.status=.pending)
    (.claim host.now) rows desk.pushDeliveries
  .ok (claimed,{ desk with pushDeliveries := t })

/-- `complete_notification_push_delivery`. -/
def completeNotificationPushDelivery (host : Host) (id : ℕ) (desk : Desk) : Call Unit :=
  match desk.pushDeliveries.find id with
  | none => .error (.valueError "Push delivery does not exist")
  | some row => .ok ((),
    { desk with
      pushDeliveries := desk.pushDeliveries.modify id (.complete host.now)
      subscriptions := desk.subscriptions.modify row.subscriptionId fun s =>
        { s with
          lastSuccessAt := some host.now, updatedAt := host.now, failures := 0,
          lastError := "" } })

/-- `fail_notification_push_delivery`: the row is not looked at whether it is still sent. -/
def failNotificationPushDelivery (host : Host) (id : ℕ) (error : String)
    (disableSubscription : Bool) (desk : Desk) : Call PushDelivery :=
  let error := clip (orElse error "Push delivery failed") 500
  match desk.pushDeliveries.find id with
  | none => .error (.valueError "Push delivery does not exist")
  | some row => .ok (row.fail host.now error disableSubscription,
    { desk with
      pushDeliveries := desk.pushDeliveries.modify id
        (.fail host.now error disableSubscription)
      subscriptions := desk.subscriptions.modify row.subscriptionId fun s =>
        { s with
          failures := s.failures+1
          lastFailureAt := some host.now
          lastError := error
          updatedAt := host.now
          enabled := s.enabled && !disableSubscription
          disabledAt := if disableSubscription then some host.now else s.disabledAt } })

/-- `cancel_notification_push_delivery`. -/
def cancelNotificationPushDelivery (host : Host) (id : ℕ) (reason : String) (desk : Desk) :
    Call Unit :=
  .ok ((),{ desk with
      pushDeliveries := desk.pushDeliveries.update
        (fun k r => k=id && r.status.cancellable)
        (.cancel host.now (clip (orElse reason "Cancelled") 500)) })

/-- `_cancel_notification_push_for_notification_db`. -/
def cancelPushFor (host : Host) (notificationId : ℕ) (reason : String) (desk : Desk) : Desk :=
  { desk with
    pushDeliveries := desk.pushDeliveries.update
      (fun _ r => r.notificationId=notificationId && r.status.cancellable)
      (.cancel host.now
        (clip (orElse reason "Notification no longer needs push attention") 500)) }

end Push

section External

namespace ExternalDelivery

/-- The update of `recover_notification_external_deliveries`. -/
def recover (now : ℤ) (r : ExternalDelivery) : ExternalDelivery :=
  { r with
    status := .pending, availableAt := now, updatedAt := now, claimedAt := none,
    error := "Recovered interrupted external delivery" }

/-- The update of `claim_notification_external_deliveries`. -/
def claim (now : ℤ) (r : ExternalDelivery) : ExternalDelivery :=
  { r with
    status := .sending, attempts := r.attempts+1, claimedAt := some now,
    updatedAt := now }

/-- The update of `complete_notification_external_delivery`. -/
def complete (now : ℤ) (r : ExternalDelivery) : ExternalDelivery :=
  { r with
    status := .sent, sentAt := some now, updatedAt := now, claimedAt := none,
    error := "", httpStatus := 0 }

/-- Whether a failure of this delivery is its last one. -/
def terminal (retryable : Bool) (r : ExternalDelivery) : Bool :=
  !retryable || decide (countOr r.maxAttempts 5 ≤ r.attempts)

/-- The update of `fail_notification_external_delivery`. -/
def fail (now : ℤ) (error : String) (retryable : Bool) (httpStatus : ℤ)
    (r : ExternalDelivery) : ExternalDelivery :=
  let delay := match r.attempts with
    | 1 => 15
    | 2 => 60
    | 3 => 300
    | 4 => 900
    | _ => 1800
  { r with
    status := if r.terminal retryable then .failed else .pending,
    availableAt := now+delay, updatedAt := now, claimedAt := none, error := error,
    httpStatus := httpStatus }

/-- The update of the cancelling calls. -/
def cancel (now : ℤ) (error : String) (r : ExternalDelivery) : ExternalDelivery :=
  { r with status := .cancelled, updatedAt := now, error := error }

/-- `status='sending' AND claimed_at<>'' AND claimed_at<=?`, two minutes back. -/
def stale (now : ℤ) (r : ExternalDelivery) : Bool :=
  r.status=.sending && r.claimedAt.any fun t => decide (t ≤ now-120)

end ExternalDelivery

/-- `_notification_external_targets_db`. -/
def Desk.externalTargets (host : Host) (desk : Desk) : List (Channel × String) :=
  (if host.smtpEnabled ∧ strip host.smtpTo≠"" then [(.email,"env:ZEN_SMTP_TO")] else []) ++
    if desk.webhook.enabled ∧ strip desk.webhook.url≠"" then
      [(.webhook,strip desk.webhook.url)]
    else []

/-- `max(1, min(int(os.getenv("ZEN_EXTERNAL_MAX_ATTEMPTS", "5") or 5), 10))`. -/
def Host.maxAttempts (host : Host) : ℕ := (max 1 (min host.externalMaxAttempts 10)).toNat

/-- The row that a queued notification becomes for one target. -/
def ExternalDelivery.queued (p : Platform) (host : Host) (notificationId occurrence : ℕ)
    (kind : DeliveryKind) (suppressed : Option String) (target : Channel × String) :
    ExternalDelivery :=
  let key := p.destinationKey target.1 target.2
  { notificationId := notificationId, channel := target.1, destination := target.2,
    destinationKey := key, occurrence := occurrence, kind := kind,
    idempotencyKey := .notification notificationId target.1 key occurrence kind,
    status := if suppressed.isSome then .suppressed else .pending,
    maxAttempts := host.maxAttempts, availableAt := host.now, updatedAt := host.now,
    error := clip (suppressed.getD "") 500 }

/-- `idempotency_key TEXT NOT NULL UNIQUE`. -/
def ExternalDelivery.clashes (row r : ExternalDelivery) : Bool :=
  r.idempotencyKey=row.idempotencyKey

/-- `_queue_notification_external_db` for a notification row and its id. -/
def queueNotificationExternal (p : Platform) (host : Host) (kind : DeliveryKind) (id : ℕ)
    (row : Notification) (desk : Desk) : Desk :=
  if row.state≠.unread ∨ row.resolvedAt.isSome then desk
  else
    let suppressed := notificationPolicyDecision p desk.preferences row host.now
    { desk with
      externalDeliveries := (desk.externalTargets host).foldl
        (fun t target =>
          let delivery := ExternalDelivery.queued p host id (max 1 row.occurrences) kind
            suppressed target
          t.insertUnless delivery.clashes delivery)
        desk.externalDeliveries }

/-- `enqueue_notification_external_test`; `milliseconds` is the clock. -/
def enqueueNotificationExternalTest (p : Platform) (host : Host) (milliseconds : ℕ)
    (channel : String) (desk : Desk) : Call ℕ :=
  let channel := p.lower (strip channel)
  let insert (channel : Channel) (destination : String) : Call ℕ :=
    let key := p.destinationKey channel destination
    let delivery : ExternalDelivery :=
      { notificationId := 0, channel := channel, destination := destination,
        destinationKey := key, occurrence := milliseconds, kind := .test,
        idempotencyKey := .test channel key milliseconds, maxAttempts := host.maxAttempts,
        availableAt := host.now, updatedAt := host.now }
    if (desk.externalDeliveries.first delivery.clashes).isSome then .error .integrityError
    else .ok (desk.externalDeliveries.next,
      { desk with externalDeliveries := desk.externalDeliveries.insert delivery })
  if channel="email" then
    if host.smtpEnabled=false then
      .error (.valueError "ZEN SMTP delivery is not enabled in the environment")
    else if strip host.smtpTo="" then .error (.valueError "ZEN_SMTP_TO is not configured")
    else insert .email "env:ZEN_SMTP_TO"
  else if channel="webhook" then
    if desk.webhook.enabled=false ∨ desk.webhook.url="" then
      .error (.valueError "Webhook delivery is not enabled/configured")
    else insert .webhook desk.webhook.url
  else .error (.valueError "External delivery test channel must be email or webhook")

/-- The checks of `save_notification_external_delivery_settings` on the address. -/
def checkWebhookUrl (p : Platform) (host : Host) (url : String) : Except StoreError Unit :=
  if 2000 < url.length then .error (.valueError "Webhook URL is too long")
  else if url="" then .ok ()
  else match p.urlsplit url with
    | .error e => .error e
    | .ok parts =>
      if (parts.scheme≠"https" ∧ parts.scheme≠"http") ∨ parts.hostname.getD ""="" then
        .error (.valueError "Webhook URL must be an absolute http:// or https:// URL")
      else if parts.username.getD ""≠"" ∨ parts.password.getD ""≠"" then
        .error (.valueError "Webhook credentials must not be embedded in the URL")
      else if parts.scheme="http" ∧ host.webhookAllowHttp=false then
        .error (.valueError
          "HTTP webhook URLs require ZEN_WEBHOOK_ALLOW_HTTP=1; use HTTPS in production")
      else .ok ()

/-- `save_notification_external_delivery_settings`; `enabled` is what the text of the argument
stands for. -/
def saveNotificationExternalDeliverySettings (p : Platform) (host : Host) (enabled : Bool)
    (name url : String) (desk : Desk) : Call Unit :=
  let name := orElse (clip (strip (orElse name "Webhook")) 100) "Webhook"
  let url := strip url
  match checkWebhookUrl p host url with
  | .error e => .error e
  | .ok () =>
    if enabled ∧ url="" then
      .error (.valueError "Webhook URL is required when webhook delivery is enabled")
    else .ok ((),
      { desk with
        webhook := { enabled := enabled, name := name, url := url }
        externalDeliveries := if enabled then desk.externalDeliveries
          else desk.externalDeliveries.update
            (fun _ r => r.channel=.webhook && r.status.cancellable)
            (.cancel host.now "Webhook destination disabled") })

/-- `retire_notification_webhook`. -/
def retireNotificationWebhook (host : Host) (reason : String) (desk : Desk) : Call Unit :=
  .ok ((),
    { desk with
      webhook := { desk.webhook with enabled := false }
      externalDeliveries := desk.externalDeliveries.update
        (fun _ r => r.channel=.webhook && r.status=.pending)
        (.cancel host.now (clip (orElse reason "Webhook retired") 500)) })

/-- `recover_notification_external_deliveries`. -/
def recoverNotificationExternalDeliveries (host : Host) (desk : Desk) : Call Unit :=
  .ok ((),{ desk with
      externalDeliveries := desk.externalDeliveries.update
        (fun _ r => r.stale host.now) (.recover host.now) })

/-- `claim_notification_external_deliveries`. -/
def claimNotificationExternalDeliveries (host : Host) (limit : ℕ) (desk : Desk) :
    Call (List (ℕ × ExternalDelivery)) :=
  let limit := max 1 (min limit 100)
  let rows := (desk.externalDeliveries.select fun _ r =>
    r.status=.pending && decide (r.availableAt ≤ host.now)).take limit
  let (claimed,t) := claimEach (fun r : ExternalDelivery => r.status=.pending)
    (.claim host.now) rows desk.externalDeliveries
  .ok (claimed,{ desk with externalDeliveries := t })

/-- `complete_notification_external_delivery`. -/
def completeNotificationExternalDelivery (host : Host) (id : ℕ) (desk : Desk) : Call Unit :=
  match desk.externalDeliveries.find id with
  | none => .error (.valueError "External notification delivery does not exist")
  | some _ => .ok ((),
    { desk with
      externalDeliveries := desk.externalDeliveries.modify id
        (.complete host.now) })

/-- `fail_notification_external_delivery`: the row is not looked at whether it is still sent. -/
def failNotificationExternalDelivery (host : Host) (id : ℕ) (error : String)
    (retryable : Bool) (httpStatus : Option ℤ) (desk : Desk) : Call ExternalDelivery :=
  let error := clip (orElse error "External delivery failed") 500
  match desk.externalDeliveries.find id with
  | none => .error (.valueError "External notification delivery does not exist")
  | some row => .ok (row.fail host.now error retryable (httpStatus.getD 0),
    { desk with
      externalDeliveries := desk.externalDeliveries.modify id
        (.fail host.now error retryable (httpStatus.getD 0)) })

/-- `_cancel_notification_external_for_notification_db`. -/
def cancelExternalFor (host : Host) (notificationId : ℕ) (reason : String) (desk : Desk) :
    Desk :=
  { desk with
    externalDeliveries := desk.externalDeliveries.update
      (fun _ r => r.notificationId=notificationId && r.status.cancellable)
      (.cancel host.now
        (clip (orElse reason "Notification no longer needs external attention") 500)) }

end External
end ZenControl.Attention
