import ZenControl.Attention.Incidents

/-! Durable background jobs. A job runs under a lease; an expired lease is given back or, after
the last attempt, closed. A final failure is notified, a success resolves that notification. -/
namespace ZenControl.Attention
open Rows

/-- `uuid.uuid4().hex`. -/
structure LeaseToken where
  text : String
  nonempty : text≠""

namespace BackgroundJob

/-- `status='running' AND lease_owner=? AND lease_token=?`. -/
def leasedBy (owner token : String) (r : BackgroundJob) : Bool :=
  r.status=.running && r.leaseOwner=owner && r.leaseToken=token

/-- `status='running' AND lease_expires_at<>'' AND lease_expires_at<=?`. -/
def expired (now : ℤ) (r : BackgroundJob) : Bool :=
  r.status=.running && r.leaseExpiresAt.any fun t => decide (t ≤ now)

/-- The first update of `recover_expired_background_work`. -/
def recover (now : ℤ) (r : BackgroundJob) : BackgroundJob :=
  { r with
    status := .pending
    leaseOwner := ""
    leaseToken := ""
    leaseExpiresAt := none
    availableAt := now
    updatedAt := now
    error := "Recovered expired worker lease" }

/-- The second update of `recover_expired_background_work`. -/
def close (now : ℤ) (r : BackgroundJob) : BackgroundJob :=
  { r with
    status := .failed
    finishedAt := some now
    updatedAt := now
    error := orElse r.error "Lease expired after maximum attempts" }

/-- Whether `claim_background_job` may take a row. -/
def claimable (now : ℤ) (kinds : List String) (r : BackgroundJob) : Bool :=
  r.status=.pending && decide (r.availableAt ≤ now) && decide (r.attempts < r.maxAttempts) &&
    (kinds.isEmpty || decide (r.kind ∈ kinds))

/-- The update of `claim_background_job`. -/
def claim (now expires : ℤ) (owner : String) (token : LeaseToken) (r : BackgroundJob) :
    BackgroundJob :=
  { r with
    status := .running
    attempts := r.attempts+1
    leaseOwner := owner
    leaseToken := token.text
    leaseExpiresAt := some expires
    startedAt := some (r.startedAt.getD now)
    updatedAt := now }

/-- The update of `complete_background_job`. -/
def complete (now : ℤ) (r : BackgroundJob) : BackgroundJob :=
  { r with
    status := .succeeded
    error := ""
    finishedAt := some now
    updatedAt := now
    leaseOwner := ""
    leaseToken := ""
    leaseExpiresAt := none }

/-- Whether a failure of this job is its last one. -/
def terminal (r : BackgroundJob) : Bool := decide (r.maxAttempts ≤ r.attempts)

/-- The update of `fail_background_job`. -/
def fail (now : ℤ) (error : String) (r : BackgroundJob) : BackgroundJob :=
  { r with
    status := if r.terminal then .failed else .pending
    error := error
    availableAt := now+5
    finishedAt := if r.terminal then some now else none
    updatedAt := now
    leaseOwner := ""
    leaseToken := ""
    leaseExpiresAt := none }

/-- The update of `defer_background_job`. -/
def defer (now delay : ℤ) (reason : String) (r : BackgroundJob) : BackgroundJob :=
  { r with
    status := .pending
    attempts := if 0 < r.attempts then r.attempts-1 else 0
    availableAt := now+delay
    error := reason
    updatedAt := now
    leaseOwner := ""
    leaseToken := ""
    leaseExpiresAt := none }

end BackgroundJob

/-- The arguments of `enqueue_background_job`. -/
structure JobArgs where
  kind : String
  scope : String
  idempotencyKey : String
  maxAttempts : ℤ := 3
  availableAt : Option ℤ := none
  replacePending : Bool := false

/-- `INSERT OR IGNORE` of a job by its idempotency key. -/
def insertJob (host : Host) (kind scope key : String) (maxAttempts : ℕ) (availableAt : ℤ)
    (jobs : Table BackgroundJob) : Table BackgroundJob :=
  jobs.insertUnless (fun r => r.idempotencyKey=key)
    { kind := kind, scope := scope, idempotencyKey := key, maxAttempts := maxAttempts,
      availableAt := availableAt, updatedAt := host.now }

/-- `enqueue_background_job`. -/
def enqueueBackgroundJob (host : Host) (args : JobArgs) (desk : Desk) : Call Unit :=
  let kind := clip (strip args.kind) 100
  let scope := clip (strip (orElse args.scope "global")) 160
  let key := clip (strip args.idempotencyKey) 240
  if kind="" ∨ key="" then
    .error (.valueError "Background job kind and idempotency key are required")
  else
    let jobs := if args.replacePending then
        desk.jobs.delete fun _ r => r.kind=kind && r.scope=scope && r.status=.pending &&
          r.idempotencyKey≠key
      else desk.jobs
    .ok ((),
      { desk with
        jobs := insertJob host kind scope key (max 1 (min 10 args.maxAttempts)).toNat
          (args.availableAt.getD host.now) jobs })

/-- What `dispatch_outbox_to_background_jobs` does to the jobs for the pending events it
selected, each with its topic and its revision. -/
def dispatchOutbox (host : Host) (events : List (String × ℕ)) (desk : Desk) : Call Unit :=
  .ok ((),
    { desk with
      jobs := events.foldl (fun jobs event =>
        if event.1≠"config.changed" then jobs
        else insertJob host "analytics.config-summary" "analytics:config"
          ("config-analytics:r" ++ toString event.2) 3 host.now jobs) desk.jobs })

/-- `recover_expired_background_work`. -/
def recoverExpiredBackgroundWork (host : Host) (desk : Desk) : Call Unit :=
  let recovered := desk.jobs.update
    (fun _ r => r.expired host.now && decide (r.attempts < r.maxAttempts)) (.recover host.now)
  .ok ((),
    { desk with
      jobs := recovered.update
        (fun _ r => r.expired host.now && decide (r.maxAttempts ≤ r.attempts))
        (.close host.now) })

/-- `claim_background_job`. -/
def claimBackgroundJob (host : Host) (workerName : String) (leaseSeconds : ℤ)
    (kinds : List String) (token : LeaseToken) (desk : Desk) :
    Call (Option (ℕ × BackgroundJob)) :=
  let owner := clip (orElse workerName "worker") 80
  let lease := max 5 (min 300 leaseSeconds)
  let kinds := kinds.filter fun kind => kind≠""
  match desk.jobs.first fun r => r.claimable host.now kinds with
  | none => .ok (none,desk)
  | some (id,row) =>
    .ok (some (id,row.claim host.now (host.now+lease) owner token),
      { desk with
        jobs := desk.jobs.modify id (.claim host.now (host.now+lease) owner token) })

/-- The error of a call that has lost its lease. -/
def leaseLost : StoreError :=
  .valueError "Background job lease no longer belongs to this worker"

/-- The row of a job under the lease of a worker. -/
def Desk.leased (id : ℕ) (owner token : String) (desk : Desk) :
    Except StoreError BackgroundJob :=
  match desk.jobs.find id with
  | none => .error leaseLost
  | some row => if row.leasedBy owner token then .ok row else .error leaseLost

/-- The dedupe key of the notification of a job. -/
def jobKey (kind scope : String) : String := "background:" ++ kind ++ ":" ++ scope

/-- `complete_background_job`. -/
def completeBackgroundJob (host : Host) (id : ℕ) (owner token : String) (desk : Desk) :
    Call Unit :=
  match desk.leased id owner token with
  | .error e => .error e
  | .ok row => .ok ((),
    resolveNotificationDb host (jobKey row.kind row.scope) owner
      "A newer background job for this scope completed successfully"
      { desk with jobs := desk.jobs.modify id (.complete host.now) })

/-- The notification of a job that failed for good. -/
def jobFailedArgs (id : ℕ) (row : BackgroundJob) (error : String) : NotificationArgs :=
  { dedupeKey := jobKey row.kind row.scope, source := "background",
    eventType := "background_job_failed", severity := "warning",
    title := if row.kind="analytics.prepared-view" then "Prepared read model failed"
      else "Background job failed",
    detail := row.kind ++ " · " ++ row.scope ++ ": " ++ error, subject := row.scope,
    sourceRef := "background_job:" ++ toString id }

/-- `fail_background_job`. -/
def failBackgroundJob (p : Platform) (host : Host) (id : ℕ) (owner token error : String)
    (desk : Desk) : Call Unit :=
  let error := clip (orElse error "Background job failed") 500
  match desk.leased id owner token with
  | .error e => .error e
  | .ok row =>
    let desk := { desk with jobs := desk.jobs.modify id (.fail host.now error) }
    if row.terminal then
      match upsertNotificationDb p host (jobFailedArgs id row error) desk with
      | .error e => .error e
      | .ok upsert => .ok ((),upsert.desk)
    else .ok ((),desk)

/-- `defer_background_job`. -/
def deferBackgroundJob (host : Host) (id : ℕ) (owner token : String) (delaySeconds : ℤ)
    (reason : String) (desk : Desk) : Call Unit :=
  match desk.leased id owner token with
  | .error e => .error e
  | .ok _ => .ok ((),
    { desk with
      jobs := desk.jobs.modify id
        (.defer host.now (max 1 delaySeconds) (clip (orElse reason "deferred") 240)) })

/-- The jobs of `prune_background_history`; `keepJobs` finished ones stay, the newest. -/
def pruneBackgroundJobs (host : Host) (retentionDays keepJobs : ℤ) (desk : Desk) : Call Unit :=
  let days := max 1 (min 365 retentionDays)
  let keep := (max 20 (min 5000 keepJobs)).toNat
  let finished (r : BackgroundJob) : Bool := r.status=.succeeded || r.status=.failed
  let newest := (((desk.jobs.select fun _ r => finished r).map Prod.fst).reverse).take keep
  .ok ((),
    { desk with
      jobs := desk.jobs.delete fun id r =>
        finished r && decide (r.updatedAt < host.now-days*86400) && decide (id ∉ newest) })

end ZenControl.Attention
