import ZenControl.Attention.Deliveries

/-! The queue of daily summaries. A summary that waits is `pending` or `retry`; an operator may
put any summary back that was not sent. -/
namespace ZenControl.Attention
open Rows

/-- `isoformat(timespec="seconds")` of an instant in UTC. -/
def isoSeconds (t : ℤ) : String :=
  isoMinutes (t*1000000) ++ ":" ++ padded 2 (t%60) ++ "+00:00"

namespace SummaryDelivery

/-- The update of `cancel_summary_delivery` and `cancel_disabled_summary_deliveries`. -/
def cancel (now : ℤ) (error : String) (r : SummaryDelivery) : SummaryDelivery :=
  { r with status := .cancelled, updatedAt := now, nextAttemptAt := none, error := error }

/-- The update of `recover_summary_deliveries`. -/
def recover (now : ℤ) (r : SummaryDelivery) : SummaryDelivery :=
  { r with
    status := .retry
    nextAttemptAt := none
    updatedAt := now
    error := orElse r.error "Recovered after interrupted delivery attempt" }

/-- The update of `claim_summary_deliveries`. -/
def claim (now : ℤ) (r : SummaryDelivery) : SummaryDelivery :=
  { r with
    status := .sending
    attempts := r.attempts+1
    lastAttemptAt := some now
    updatedAt := now }

/-- The update of `defer_summary_delivery`. -/
def defer (now delay : ℤ) (error : String) (r : SummaryDelivery) : SummaryDelivery :=
  { r with
    status := .retry
    attempts := if 0 < r.attempts then r.attempts-1 else 0
    nextAttemptAt := some (now+delay)
    updatedAt := now
    error := error }

/-- The update of `complete_summary_delivery`. -/
def complete (now : ℤ) (r : SummaryDelivery) : SummaryDelivery :=
  { r with
    status := .sent
    sentAt := some now
    updatedAt := now
    nextAttemptAt := none
    error := "" }

/-- The update of `fail_summary_delivery`. -/
def fail (now : ℤ) (error : String) (retryLimit : ℤ) (r : SummaryDelivery) :
    SummaryDelivery :=
  let terminal := decide (retryLimit ≤ r.attempts)
  let delay : ℤ := min (60*Nat.pow 5 (r.attempts-1) : ℕ) 1800
  { r with
    status := if terminal then .failed else .retry
    nextAttemptAt := if terminal then none else some (now+delay)
    updatedAt := now
    error := error }

/-- The update of `retry_summary_delivery`. -/
def retry (now : ℤ) (r : SummaryDelivery) : SummaryDelivery :=
  { r with
    status := .pending
    attempts := 0
    nextAttemptAt := none
    error := ""
    updatedAt := now }

/-- `status IN ('pending','retry')`. -/
def waiting (r : SummaryDelivery) : Bool := r.status=.pending || r.status=.retry

/-- The rows of `claim_summary_deliveries`. -/
def claimable (now : ℤ) (retryLimit : ℕ) (r : SummaryDelivery) : Bool :=
  r.waiting && decide (r.attempts < retryLimit) && r.nextAttemptAt.all fun t => decide (t ≤ now)

end SummaryDelivery

/-- The period, the channel and the kind that a text names. -/
def summaryPeriod : String → Option SummaryPeriod
  | "today" => some .today
  | "yesterday" => some .yesterday
  | _ => none

def deliveryChannel : String → Option Channel
  | "email" => some .email
  | "webhook" => some .webhook
  | _ => none

def summaryKind : String → Option SummaryKind
  | "scheduled" => some .scheduled
  | "test" => some .test
  | _ => none

/-- The arguments of `enqueue_summary_delivery`. -/
structure SummaryArgs where
  reportDate : String
  period : String
  channel : String
  destination : String
  kind : String := "scheduled"
  uniqueSuffix : String := ""

/-- `enqueue_summary_delivery`; the reply tells whether the row was created. -/
def enqueueSummaryDelivery (p : Platform) (host : Host) (args : SummaryArgs) (desk : Desk) :
    Call (ℕ × Bool) :=
  let reportDate := strip args.reportDate
  let destination := clip (strip args.destination) 1000
  if isDateText reportDate=false then
    .error (.valueError "Summary delivery report date must use YYYY-MM-DD")
  else match summaryPeriod (p.lower (strip args.period)),
      deliveryChannel (p.lower (strip args.channel)),
      summaryKind (p.lower (strip (orElse args.kind "scheduled"))) with
    | none,_,_ => .error (.valueError "Summary delivery period must be today or yesterday")
    | _,none,_ => .error (.valueError "Summary delivery channel must be email or webhook")
    | _,_,none => .error (.valueError "Summary delivery kind must be scheduled or test")
    | some period,some channel,some kind =>
      if destination="" then .error (.valueError "Summary delivery destination is required")
      else
        let key := match kind with
          | .scheduled => SummaryKey.scheduled reportDate period channel
          | .test => .test reportDate period channel
              (clip (orElse args.uniqueSuffix (isoSeconds host.now)) 80)
        match desk.summaryDeliveries.first fun r => r.idempotencyKey=key with
        | some (id,row) =>
          let rows := if row.status=.sent then desk.summaryDeliveries
            else desk.summaryDeliveries.modify id fun r =>
              { r with destination := destination, updatedAt := host.now }
          .ok ((id,false),{ desk with summaryDeliveries := rows })
        | none => .ok ((desk.summaryDeliveries.next,true),
          { desk with
            summaryDeliveries := desk.summaryDeliveries.insert
              { kind := kind, reportDate := reportDate, period := period, channel := channel,
                destination := destination, idempotencyKey := key, createdAt := host.now,
                updatedAt := host.now } })

/-- The row that a summary call returns. -/
def replySummary (id : ℕ) (desk : Desk) : Call SummaryDelivery :=
  match desk.summaryDeliveries.find id with
  | none => .error (.valueError "Summary delivery not found")
  | some row => .ok (row,desk)

/-- `update_summary_delivery_destination`. -/
def updateSummaryDeliveryDestination (host : Host) (id : ℕ) (destination : String)
    (desk : Desk) : Call SummaryDelivery :=
  let destination := clip (strip destination) 1000
  if destination="" then .error (.valueError "Summary delivery destination is required")
  else replySummary id
    { desk with
      summaryDeliveries := desk.summaryDeliveries.update
        (fun k r => k=id && r.status≠.sent)
        fun r => { r with destination := destination, updatedAt := host.now } }

/-- `cancel_summary_delivery`. -/
def cancelSummaryDelivery (host : Host) (id : ℕ) (reason : String) (desk : Desk) :
    Call SummaryDelivery :=
  replySummary id
    { desk with
      summaryDeliveries := desk.summaryDeliveries.update
        (fun k r => k=id && r.status≠.sent)
        (.cancel host.now (clip (orElse reason "Delivery disabled") 500)) }

/-- Whether `cancel_disabled_summary_deliveries` takes a row. -/
def SummaryDelivery.disabled (scheduledEnabled : Bool) (enabledChannels : List Channel)
    (r : SummaryDelivery) : Bool :=
  (r.status=.pending || r.status=.retry || r.status=.sending) &&
    (decide (r.channel ∉ enabledChannels) || (r.kind=.scheduled && !scheduledEnabled))

/-- `cancel_disabled_summary_deliveries`. -/
def cancelDisabledSummaryDeliveries (host : Host) (scheduledEnabled : Bool)
    (enabledChannels : List Channel) (desk : Desk) : Call Unit :=
  .ok ((),
    { desk with
      summaryDeliveries := desk.summaryDeliveries.update
        (fun _ r => r.disabled scheduledEnabled enabledChannels)
        (.cancel host.now "Cancelled after delivery configuration changed") })

/-- `recover_summary_deliveries`. -/
def recoverSummaryDeliveries (host : Host) (desk : Desk) : Call Unit :=
  .ok ((),
    { desk with
      summaryDeliveries := desk.summaryDeliveries.update (fun _ r => r.status=.sending)
        (.recover host.now) })

/-- `claim_summary_deliveries`. -/
def claimSummaryDeliveries (host : Host) (limit retryLimit : ℤ) (desk : Desk) :
    Call (List (ℕ × SummaryDelivery)) :=
  let limit := (max 1 (min limit 50)).toNat
  let retryLimit := (max 1 (min retryLimit 10)).toNat
  let rows := (desk.summaryDeliveries.select fun _ r =>
    r.claimable host.now retryLimit).take limit
  let (claimed,t) := claimEach SummaryDelivery.waiting (.claim host.now) rows
    desk.summaryDeliveries
  .ok (claimed,{ desk with summaryDeliveries := t })

/-- `defer_summary_delivery`; `delaySeconds` is what `int` makes of the argument. -/
def deferSummaryDelivery (host : Host) (id : ℕ) (error : String) (delaySeconds : Option ℤ)
    (desk : Desk) : Call SummaryDelivery :=
  let delay := (delaySeconds.map fun d => max 30 (min d 3600)).getD 300
  replySummary id
    { desk with
      summaryDeliveries := desk.summaryDeliveries.update
        (fun k r => k=id && r.status=.sending) (.defer host.now delay (clip error 500)) }

/-- `complete_summary_delivery`. -/
def completeSummaryDelivery (host : Host) (id : ℕ) (desk : Desk) : Call SummaryDelivery :=
  replySummary id
    { desk with
      summaryDeliveries := desk.summaryDeliveries.update
        (fun k r => k=id && r.status=.sending) (.complete host.now) }

/-- `fail_summary_delivery`: the row is not looked at whether it is still sent. -/
def failSummaryDelivery (host : Host) (id : ℕ) (error : String) (retryLimit : ℤ)
    (desk : Desk) : Call SummaryDelivery :=
  replySummary id
    { desk with
      summaryDeliveries := desk.summaryDeliveries.modify id
        (.fail host.now (clip error 500) retryLimit) }

/-- `retry_summary_delivery`. -/
def retrySummaryDelivery (host : Host) (id : ℕ) (desk : Desk) : Call SummaryDelivery :=
  match desk.summaryDeliveries.find id with
  | none => .error (.valueError "Summary delivery not found")
  | some row =>
    if row.status=.sent then
      .error (.valueError "Sent summary deliveries cannot be retried")
    else replySummary id
      { desk with
        summaryDeliveries := desk.summaryDeliveries.modify id (.retry host.now) }

/-- `prune_summary_deliveries`; `retentionDays` is what `int` makes of the argument. -/
def pruneSummaryDeliveries (host : Host) (retentionDays : Option ℤ) (desk : Desk) :
    Call Unit :=
  let days := max 30 (min (retentionDays.getD 90) 365)
  .ok ((),
    { desk with
      summaryDeliveries := desk.summaryDeliveries.delete fun _ r =>
        decide (r.createdAt < host.now-days*86400) &&
          (r.status=.sent || r.status=.failed || r.status=.cancelled) })

end ZenControl.Attention
