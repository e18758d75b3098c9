import ZenControl.Attention.Summaries
import ZenControl.Attention.Jobs
import ZenControl.Library.Histories
import ZenControl.Store.Access

/-! The calls of the store on these tables. A call is one step on the committed tables; a
worker that dies makes no further calls, and what it had claimed is left to the recovery. -/
namespace ZenControl.Attention
open Rows

inductive DeskCall
  | registerPush (username endpoint p256dh auth : String)
  | disablePush (username endpoint : String)
  | testPush (milliseconds : ℕ) (username : String)
  | recoverPush
  | claimPush (limit : ℕ)
  | completePush (id : ℕ)
  | failPush (id : ℕ) (error : String) (disableSubscription : Bool)
  | cancelPush (id : ℕ) (reason : String)
  | saveExternalSettings (enabled : Bool) (name url : String)
  | retireWebhook (reason : String)
  | testExternal (milliseconds : ℕ) (channel : String)
  | recoverExternal
  | claimExternal (limit : ℕ)
  | completeExternal (id : ℕ)
  | failExternal (id : ℕ) (error : String) (retryable : Bool) (httpStatus : Option ℤ)
  | enqueueSummary (args : SummaryArgs)
  | updateSummaryDestination (id : ℕ) (destination : String)
  | cancelSummary (id : ℕ) (reason : String)
  | cancelDisabledSummaries (scheduledEnabled : Bool) (enabledChannels : List Channel)
  | recoverSummaries
  | claimSummaries (limit retryLimit : ℤ)
  | deferSummary (id : ℕ) (error : String) (delaySeconds : Option ℤ)
  | completeSummary (id : ℕ)
  | failSummary (id : ℕ) (error : String) (retryLimit : ℤ)
  | retrySummary (id : ℕ)
  | pruneSummaries (retentionDays : Option ℤ)
  | upsertNotification (args : NotificationArgs)
  | resolveNotification (dedupeKey actor resolution : String)
  | markRead (id : ℕ) (actor : String)
  | acknowledge (id : ℕ) (actor : String)
  | dismiss (id : ℕ) (actor : String)
  | markAllRead (actor : String)
  | evaluate (now : Option ℤ)
  | upsertIncident (args : IncidentArgs)
  | acknowledgeIncident (id : ℕ) (actor : String)
  | resolveIncident (id : ℕ) (actor resolution : String) (suppressUntilClear : Bool)
  | resolveInactive (source : String) (active : List String) (actor : String)
  | enqueueJob (args : JobArgs)
  | dispatchOutbox (events : List (String × ℕ))
  | recoverJobs
  | claimJob (workerName : String) (leaseSeconds : ℤ) (kinds : List String)
      (token : LeaseToken)
  | completeJob (id : ℕ) (owner token : String)
  | failJob (id : ℕ) (owner token error : String)
  | deferJob (id : ℕ) (owner token : String) (delaySeconds : ℤ) (reason : String)
  | pruneJobs (retentionDays keepJobs : ℤ)
  | savePreferences (preferences : NotificationPreferences)
  | saveIntelligence (settings : IntelligenceSettings)
  | saveIncidentRetention (days : Option ℤ)

/-- The tables after a call. -/
def DeskCall.commit (p : Platform) (host : Host) (call : DeskCall) (desk : Desk) : Desk :=
  match call with
  | registerPush username endpoint p256dh auth =>
    (registerPushSubscription host username endpoint p256dh auth desk).commit desk
  | disablePush username endpoint =>
    (disablePushSubscription host username endpoint desk).commit desk
  | testPush milliseconds username =>
    (enqueueNotificationPushTest host milliseconds username desk).commit desk
  | recoverPush => (recoverNotificationPushDeliveries host desk).commit desk
  | claimPush limit => (claimNotificationPushDeliveries host limit desk).commit desk
  | completePush id => (completeNotificationPushDelivery host id desk).commit desk
  | failPush id error disableSubscription =>
    (failNotificationPushDelivery host id error disableSubscription desk).commit desk
  | cancelPush id reason => (cancelNotificationPushDelivery host id reason desk).commit desk
  | saveExternalSettings enabled name url =>
    (saveNotificationExternalDeliverySettings p host enabled name url desk).commit desk
  | retireWebhook reason => (retireNotificationWebhook host reason desk).commit desk
  | testExternal milliseconds channel =>
    (enqueueNotificationExternalTest p host milliseconds channel desk).commit desk
  | recoverExternal => (recoverNotificationExternalDeliveries host desk).commit desk
  | claimExternal limit => (claimNotificationExternalDeliveries host limit desk).commit desk
  | completeExternal id => (completeNotificationExternalDelivery host id desk).commit desk
  | failExternal id error retryable httpStatus =>
    (failNotificationExternalDelivery host id error retryable httpStatus desk).commit desk
  | enqueueSummary args => (enqueueSummaryDelivery p host args desk).commit desk
  | updateSummaryDestination id destination =>
    (updateSummaryDeliveryDestination host id destination desk).commit desk
  | cancelSummary id reason => (cancelSummaryDelivery host id reason desk).commit desk
  | cancelDisabledSummaries scheduledEnabled enabledChannels =>
    (cancelDisabledSummaryDeliveries host scheduledEnabled enabledChannels desk).commit desk
  | recoverSummaries => (recoverSummaryDeliveries host desk).commit desk
  | claimSummaries limit retryLimit =>
    (claimSummaryDeliveries host limit retryLimit desk).commit desk
  | deferSummary id error delaySeconds =>
    (deferSummaryDelivery host id error delaySeconds desk).commit desk
  | completeSummary id => (completeSummaryDelivery host id desk).commit desk
  | failSummary id error retryLimit =>
    (failSummaryDelivery host id error retryLimit desk).commit desk
  | retrySummary id => (retrySummaryDelivery host id desk).commit desk
  | pruneSummaries retentionDays =>
    (pruneSummaryDeliveries host retentionDays desk).commit desk
  | upsertNotification args => (Attention.upsertNotification p host args desk).commit desk
  | resolveNotification dedupeKey actor resolution =>
    (Attention.resolveNotification host dedupeKey actor resolution desk).commit desk
  | markRead id actor => (markNotificationRead host id actor desk).commit desk
  | acknowledge id actor => (acknowledgeNotification host id actor desk).commit desk
  | dismiss id actor => (dismissNotification host id actor desk).commit desk
  | markAllRead actor => (markAllNotificationsRead host actor desk).commit desk
  | evaluate now => (evaluateNotificationIntelligence p host now desk).commit desk
  | upsertIncident args => (Attention.upsertIncident p host args desk).commit desk
  | acknowledgeIncident id actor =>
    (Attention.acknowledgeIncident host id actor desk).commit desk
  | resolveIncident id actor resolution suppressUntilClear =>
    (Attention.resolveIncident host id actor resolution suppressUntilClear desk).commit desk
  | resolveInactive source active actor =>
    (resolveInactiveIncidents host source active actor desk).commit desk
  | enqueueJob args => (enqueueBackgroundJob host args desk).commit desk
  | dispatchOutbox events => (Attention.dispatchOutbox host events desk).commit desk
  | recoverJobs => (recoverExpiredBackgroundWork host desk).commit desk
  | claimJob workerName leaseSeconds kinds token =>
    (claimBackgroundJob host workerName leaseSeconds kinds token desk).commit desk
  | completeJob id owner token => (completeBackgroundJob host id owner token desk).commit desk
  | failJob id owner token error =>
    (failBackgroundJob p host id owner token error desk).commit desk
  | deferJob id owner token delaySeconds reason =>
    (deferBackgroundJob host id owner token delaySeconds reason desk).commit desk
  | pruneJobs retentionDays keepJobs =>
    (pruneBackgroundJobs host retentionDays keepJobs desk).commit desk
  | savePreferences preferences => { desk with preferences := preferences }
  | saveIntelligence settings => { desk with intelligence := settings }
  | saveIncidentRetention days => { desk with incidentRetentionDays := days }

/-- A call with what it finds around the database. -/
structure Request where
  host : Host
  call : DeskCall

/-- One request as a step on the committed tables. -/
def Request.next (p : Platform) (request : Request) (desk : Desk) : Desk :=
  request.call.commit p request.host desk

/-- The tables after a history of requests, from an installation without any of them. -/
def deskAfter (p : Platform) (requests : List Request) : Desk :=
  Histories.after (Request.next p) requests {}

/-- A platform on which every zone is UTC, texts are ASCII and no address is valid. -/
def asciiPlatform : Platform :=
  { asciiEnv.toRuntime with
    urlsplit := fun _ => .error (.valueError "Invalid URL")
    destinationKey := fun _ destination => destination }

end ZenControl.Attention
