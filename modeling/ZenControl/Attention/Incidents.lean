import ZenControl.Attention.Notifications

/-! Incidents: what a scan reports, what an operator acknowledges or resolves, and the
notification that follows each of them under the key `incident:{fingerprint}`. -/
namespace ZenControl.Attention
open Rows

inductive IncidentAction
  | opened | reopened | severityChanged | updated | unchanged | suppressed
  deriving DecidableEq, Repr

/-- `action in {"opened", "reopened", "severity_changed"}`. -/
def IncidentAction.loud (a : IncidentAction) : Bool :=
  a=opened || a=reopened || a=severityChanged

/-- `f"incident:{fingerprint}"`. -/
def incidentKey (fingerprint : String) : String := "incident:" ++ fingerprint

/-- The arguments of `upsert_incident`. -/
structure IncidentArgs where
  fingerprint : String
  source : String
  severity : String
  title : String
  detail : String := ""
  subject : String := ""
  actor : String := "system:incident-monitor"

/-- The arguments as they are stored. -/
def IncidentArgs.normalized (args : IncidentArgs) : IncidentArgs :=
  { args with
    fingerprint := clip (strip args.fingerprint) 240
    source := orElse (clip (strip (orElse args.source "unknown")) 120) "unknown"
    subject := clip (strip args.subject) 160
    title := orElse (clip (strip (orElse args.title "Incident")) 200) "Incident"
    detail := clip (strip args.detail) 3000 }

/-- The row of a new incident. -/
def IncidentArgs.created (args : IncidentArgs) (now : ℤ) : Incident :=
  { fingerprint := args.fingerprint, source := args.source, subject := args.subject,
    severity := incidentSeverity args.severity, title := args.title, detail := args.detail,
    openedAt := now, firstSeenAt := now, lastSeenAt := now, updatedAt := now }

namespace Incident

/-- What every sighting updates. -/
def sighted (args : IncidentArgs) (now : ℤ) (row : Incident) : Incident :=
  { row with
    source := args.source
    subject := args.subject
    severity := incidentSeverity args.severity
    title := args.title
    detail := args.detail
    lastSeenAt := now
    updatedAt := now
    occurrences := row.occurrences+1 }

/-- The update that opens a resolved incident again. -/
def reopened (args : IncidentArgs) (now : ℤ) (row : Incident) : Incident :=
  { row.sighted args now with
    status := .opened
    openedAt := now
    acknowledgedAt := none
    acknowledgedBy := ""
    resolvedAt := none
    resolvedBy := ""
    resolution := ""
    suppressUntilClear := false }

/-- The action of a sighting. -/
def action (args : IncidentArgs) (row : Incident) : IncidentAction :=
  if row.status=.resolved then
    if row.suppressUntilClear then .suppressed else .reopened
  else if row.severity≠incidentSeverity args.severity then .severityChanged
  else if row.title≠args.title ∨ row.detail≠args.detail ∨ row.subject≠args.subject ∨
      row.source≠args.source then .updated
  else .unchanged

/-- The update of `upsert_incident` on a row that exists. -/
def upserted (args : IncidentArgs) (now : ℤ) (row : Incident) : Incident :=
  if row.status=.resolved ∧ row.suppressUntilClear=false then row.reopened args now
  else row.sighted args now

/-- The update of `acknowledge_incident`. -/
def acknowledge (now : ℤ) (actor : String) (row : Incident) : Incident :=
  { row with
    status := .acknowledged
    acknowledgedAt := some now
    acknowledgedBy := actor
    updatedAt := now }

/-- The update of `resolve_incident`. -/
def resolve (now : ℤ) (actor resolution : String) (suppressUntilClear : Bool)
    (row : Incident) : Incident :=
  { row with
    status := .resolved
    resolvedAt := some now
    resolvedBy := actor
    resolution := resolution
    suppressUntilClear := suppressUntilClear
    updatedAt := now }

/-- Whether the retention of `upsert_incident` drops a row. -/
def expired (now days : ℤ) (row : Incident) : Bool :=
  row.status=.resolved && row.resolvedAt.any fun t => decide (t < now-days*86400)

end Incident

/-- The arguments with which `_sync_incident_notification_db` upserts the notification. -/
def syncArgs (incidentId : ℕ) (incident : Incident) (raiseAttention increment : Bool) :
    NotificationArgs :=
  { dedupeKey := incidentKey incident.fingerprint, source := incident.source,
    eventType := "incident", severity := incident.severity.text, title := incident.title,
    detail := incident.detail, subject := incident.subject,
    sourceRef := "incident:" ++ toString incidentId, raiseAttention := raiseAttention,
    incrementOccurrence := increment }

/-- The acknowledgement that a notification takes over from its incident. -/
def Notification.acknowledgedAs (incident : Incident) (actor : String) (now : ℤ)
    (row : Notification) : Notification :=
  let ackBy := clip (orElse incident.acknowledgedBy (orElse actor "system")) 100
  { row with
    state := .acknowledged
    readAt := some (incident.acknowledgedAt.getD now)
    readBy := ackBy
    acknowledgedAt := some (incident.acknowledgedAt.getD now)
    acknowledgedBy := ackBy
    updatedAt := now }

/-- `_sync_incident_notification_db`. -/
def syncIncidentNotification (p : Platform) (host : Host) (incidentId : ℕ)
    (incident : Incident) (action : IncidentAction) (actor : String) (desk : Desk) :
    Except StoreError Desk :=
  let key := incidentKey incident.fingerprint
  let existing := desk.notifications.first fun r => r.dedupeKey=key
  let shouldCreate := existing.isNone && incident.status≠.resolved
  if shouldCreate || action.loud then
    match upsertNotificationDb p host (syncArgs incidentId incident
        (incident.status=.opened) (!shouldCreate || action.loud)) desk with
    | .error e => .error e
    | .ok upsert =>
      .ok (if shouldCreate && incident.status=.acknowledged then
        { upsert.desk with
          notifications := upsert.desk.notifications.modify upsert.id
            (.acknowledgedAs incident actor host.now) }
      else upsert.desk)
  else if existing.isSome then
    match upsertNotificationDb p host (syncArgs incidentId incident false false) desk with
    | .error e => .error e
    | .ok upsert => .ok upsert.desk
  else .ok desk

/-- The days of `incident_retention_days`. -/
def Desk.retentionDays (desk : Desk) : ℤ :=
  max 7 (min (desk.incidentRetentionDays.getD 30) 365)

/-- The retention that ends `upsert_incident`. -/
def Desk.expireIncidents (host : Host) (desk : Desk) : Desk :=
  { desk with
    incidents := desk.incidents.delete fun _ r => r.expired host.now desk.retentionDays }

/-- What `upsert_incident` returns. -/
structure IncidentReply where
  id : ℕ
  row : Incident
  action : IncidentAction
  deriving DecidableEq, Repr

/-- `upsert_incident` after its arguments were normalized, before its retention. -/
def sightIncident (p : Platform) (host : Host) (args : IncidentArgs) (desk : Desk) :
    Except StoreError (IncidentReply × Desk) :=
  let sync (reply : IncidentReply) (desk : Desk) : Except StoreError (IncidentReply × Desk) :=
    match syncIncidentNotification p host reply.id reply.row reply.action args.actor desk with
    | .error e => .error e
    | .ok desk => .ok (reply,desk)
  match desk.incidents.first fun r => r.fingerprint=args.fingerprint with
  | none =>
    let row := args.created host.now
    sync ⟨desk.incidents.next,row,.opened⟩
      { desk with incidents := desk.incidents.insert row }
  | some (id,row) =>
    sync ⟨id,row.upserted args host.now,row.action args⟩
      { desk with incidents := desk.incidents.modify id (.upserted args host.now) }

/-- `upsert_incident`. -/
def upsertIncident (p : Platform) (host : Host) (args : IncidentArgs) (desk : Desk) :
    Call IncidentReply :=
  if args.normalized.fingerprint="" then
    .error (.valueError "Incident fingerprint is required")
  else match sightIncident p host args.normalized desk with
    | .error e => .error e
    | .ok (reply,desk) => .ok (reply,desk.expireIncidents host)

/-- The update of `acknowledge_incident` on the notification. -/
def Notification.acknowledgeWith (now : ℤ) (actor : String) (row : Notification) :
    Notification := row.transition now actor .acknowledged

/-- `acknowledge_incident`. -/
def acknowledgeIncident (host : Host) (id : ℕ) (actor : String) (desk : Desk) :
    Call Incident :=
  let actor := clip (strip (orElse actor "unknown")) 100
  match desk.incidents.find id with
  | none => .error (.valueError "Incident does not exist")
  | some row =>
    if row.status=.resolved then
      .error (.valueError "Resolved incidents cannot be acknowledged")
    else
      let desk := { desk with incidents := desk.incidents.modify id (.acknowledge host.now actor) }
      let key := incidentKey row.fingerprint
      .ok (row.acknowledge host.now actor,
        match desk.notifications.first fun r => r.dedupeKey=key with
        | none => desk
        | some (notificationId,_) =>
          cancelDeliveriesFor host notificationId
            "Incident acknowledged before push delivery"
            "Incident acknowledged before external delivery"
            { desk with
              notifications := desk.notifications.modify notificationId
                (.acknowledgeWith host.now actor) })

/-- `resolve_incident`. -/
def resolveIncident (host : Host) (id : ℕ) (actor resolution : String)
    (suppressUntilClear : Bool) (desk : Desk) : Call Incident :=
  let actor := clip (strip (orElse actor "unknown")) 100
  let resolution := clip (strip (orElse resolution "Resolved by operator")) 500
  match desk.incidents.find id with
  | none => .error (.valueError "Incident does not exist")
  | some row => .ok (row.resolve host.now actor resolution suppressUntilClear,
    resolveNotificationDb host (incidentKey row.fingerprint) actor resolution
      { desk with
        incidents := desk.incidents.modify id
          (.resolve host.now actor resolution suppressUntilClear) })

/-- The resolution that a scan gives to an incident it did not find. -/
def clearedResolution : String := "Signal cleared by successful incident scan"

/-- One row of `resolve_inactive_incidents`. -/
def clearIncident (host : Host) (actor : String) (r : ℕ × Incident) (desk : Desk) : Desk :=
  if r.2.status≠.resolved then
    resolveNotificationDb host (incidentKey r.2.fingerprint) actor clearedResolution
      { desk with
        incidents := desk.incidents.modify r.1
          (.resolve host.now actor clearedResolution false) }
  else if r.2.suppressUntilClear then
    { desk with
      incidents := desk.incidents.modify r.1 fun row =>
        { row with suppressUntilClear := false, updatedAt := host.now } }
  else desk

/-- `resolve_inactive_incidents`; the reply is the resolved incidents. -/
def resolveInactiveIncidents (host : Host) (source : String) (active : List String)
    (actor : String) (desk : Desk) : Call (List ℕ) :=
  let source := clip (strip source) 120
  if source="" then .ok ([],desk)
  else
    let rows := desk.incidents.select fun _ r =>
      r.source=source && decide (r.fingerprint ∉ active)
    .ok ((rows.filter fun r => r.2.status≠.resolved).map Prod.fst,
      rows.foldl (fun desk r => clearIncident host actor r desk) desk)

end ZenControl.Attention
