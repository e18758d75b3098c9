import ZenControl.Library.NumberedRows
import ZenControl.Library.Histories
import ZenControl.Reconciliation.Devices
import ZenControl.Store.ConfigWrite

/-! Durable reconciliation requests and the worker that consumes them. Every step is one committed
transaction, or the pass over the router between two of them; a crash forgets the worker and
leaves the tables. -/
namespace ZenControl.Reconciliation
open Rows

inductive RequestStatus
  | pending | running | succeeded | partially | temporary | failed | superseded
  deriving DecidableEq, Repr

/-- The statuses of a finished request. -/
def RequestStatus.concluded : RequestStatus → Bool
  | .pending | .running => false
  | _ => true

def RequestStatus.text : RequestStatus → String
  | .pending => "pending"
  | .running => "running"
  | .succeeded => "succeeded"
  | .partially => "partial"
  | .temporary => "temporary"
  | .failed => "failed"
  | .superseded => "superseded"

/-- The statuses that `finish_reconciliation_request` accepts. -/
def RequestStatus.ofText (text : String) : Option RequestStatus :=
  [.succeeded,.partially,.temporary,.failed,.superseded].find? fun s => s.text=text

/-- The `result_json` of a request. -/
inductive RequestResult
  | pass (target : String) (requestedRevision startedRevision finishedRevision : ℕ)
      (outcomes : List Reconciled) (failures : List String)
  | raised (target : String)
  deriving DecidableEq, Repr

structure ReconciliationRequest where
  target : String
  requestedRevision : ℕ
  actor : String
  reason : String
  status : RequestStatus := .pending
  createdAt : String
  appliedRevision : ℕ := 0
  startedAt : String := ""
  finishedAt : String := ""
  result : Option RequestResult := none
  error : String := ""
  deriving DecidableEq, Repr

/-- The revision of the configuration and the table of the requests. -/
structure RequestStore where
  revision : ℕ := 0
  requests : Table ReconciliationRequest := .empty

/-- What a call returns with the store it commits; a call that raises commits nothing. -/
abbrev StoreCall (α : Type) := Except StoreError (α × RequestStore)

section Calls
variable (ipAddress : String → Option String) (now : String)

/-- The target of a request as it is stored. -/
def requestTarget (target : String) : String := orElse (strip (orElse target "*")) "*"

/-- The row inserted by `enqueue_reconciliation_request`. -/
def ReconciliationRequest.queued (target actor reason : String) (requestedRevision : ℤ) :
    ReconciliationRequest :=
  { target := requestTarget target
    requestedRevision := requestedRevision.toNat
    actor := clip (orElse actor "system:reconciler") 100
    reason := clip (orElse reason "Manual reconciliation requested") 240
    createdAt := now }

/-- The first update of `enqueue_reconciliation_request`. -/
def ReconciliationRequest.supersede (r : ReconciliationRequest) : ReconciliationRequest :=
  { r with
    status := .superseded
    finishedAt := now
    error := "Superseded by newer request" }

/-- `enqueue_reconciliation_request`, with the revision that it is given or has read before. -/
def enqueueReconciliationRequest (target actor reason : String) (requestedRevision : ℤ)
    (store : RequestStore) : StoreCall (ℕ × ReconciliationRequest) :=
  let row := ReconciliationRequest.queued now target actor reason requestedRevision
  if row.target≠"*" && (ipAddress row.target).isNone then
    .error (.valueError (row.target ++ " does not appear to be an IPv4 or IPv6 address"))
  else
    .ok ((store.requests.next,row),
      { store with
        requests := (store.requests.update
          (fun _ r => r.target=row.target && r.status=.pending) (.supersede now)).insert row })

/-- The update of `recover_reconciliation_requests`. -/
def ReconciliationRequest.recover (r : ReconciliationRequest) : ReconciliationRequest :=
  { r with
    status := .pending
    startedAt := ""
    error := "Recovered interrupted reconciliation" }

/-- `recover_reconciliation_requests`. -/
def recoverReconciliationRequests (store : RequestStore) : RequestStore :=
  { store with requests := store.requests.update (fun _ r => r.status=.running) .recover }

/-- The update of `claim_reconciliation_request`. -/
def ReconciliationRequest.claim (r : ReconciliationRequest) : ReconciliationRequest :=
  { r with
    status := .running
    startedAt := now
    error := "" }

/-- `claim_reconciliation_request`: the oldest pending request. -/
def claimReconciliationRequest (store : RequestStore) :
    Option (ℕ × ReconciliationRequest) × RequestStore :=
  match store.requests.first fun r => r.status=.pending with
  | none => (none,store)
  | some (id,r) =>
    (some (id,r.claim now),{ store with requests := store.requests.modify id (.claim now) })

/-- The update of `finish_reconciliation_request`. -/
def ReconciliationRequest.finish (status : RequestStatus) (appliedRevision : ℤ)
    (result : Option RequestResult) (error : String) (r : ReconciliationRequest) :
    ReconciliationRequest :=
  { r with
    status := status
    appliedRevision := appliedRevision.toNat
    result := result
    error := clip error 500
    finishedAt := now }

/-- `finish_reconciliation_request`. -/
def finishReconciliationRequest (id : ℕ) (status : String) (appliedRevision : ℤ)
    (result : Option RequestResult) (error : String) (store : RequestStore) :
    StoreCall (Option ReconciliationRequest) :=
  match RequestStatus.ofText (nocase (strip (orElse status "failed"))) with
  | none => .error (.valueError "Invalid reconciliation request status")
  | some status =>
    if (store.requests.find id).any fun r => r.status=.running then
      let requests := store.requests.modify id (.finish now status appliedRevision result error)
      .ok (requests.find id,{ store with requests := requests })
    else .error (.valueError "Reconciliation request is no longer running")

/-- A configuration transaction commits. -/
def configWritten (store : RequestStore) : RequestStore :=
  { store with revision := store.revision+1 }

end Calls

/-- What `run_requested_reconciliation` knows of the request it has claimed. -/
structure RequestRun where
  id : ℕ
  request : ReconciliationRequest
  actor : String
  deriving DecidableEq, Repr

def RequestRun.target (run : RequestRun) : String := orElse run.request.target "*"

def RequestRun.requestActor (run : RequestRun) : String := orElse run.request.actor run.actor

/-- How a run will be recorded. -/
structure Conclusion where
  status : RequestStatus
  revision : ℕ
  result : RequestResult
  error : String
  deriving DecidableEq, Repr

/-- The outcome of a pass between two readings of the revision. -/
def RequestRun.conclude (run : RequestRun) (started finished : ℕ) (outcomes : List Reconciled)
    (failures : List String) : Conclusion where
  status :=
    if failures≠[] then .failed
    else if finished≠started then .superseded
    else if outcomes.any fun o => o.status=.temporary then .temporary
    else if outcomes.any fun o => o.status=.partially then .partially
    else .succeeded
  revision := finished
  result := .pass run.target run.request.requestedRevision started finished outcomes failures
  error :=
    if failures≠[] then "; ".intercalate (failures.take 6)
    else if finished≠started then
      "Desired state changed during reconciliation; latest revision re-queued"
    else ""

/-- The points of `run_requested_reconciliation` between its calls: what it will do next. -/
inductive Stage
  /-- Read the revision that the run starts from. -/
  | claimed (run : RequestRun)
  /-- Pass over the devices. -/
  | started (run : RequestRun) (revision : ℕ)
  /-- Read the revision after the pass. -/
  | passed (run : RequestRun) (revision : ℕ) (outcomes : List Reconciled) (failures : List String)
  /-- Finish the request. -/
  | concluded (run : RequestRun) (conclusion : Conclusion)
  /-- Read the revision of the new request, in `request_reconciliation`. -/
  | finished (run : RequestRun) (revision : ℕ)
  /-- Enqueue the new request. -/
  | renewing (run : RequestRun) (revision requestedRevision : ℕ)
  /-- Read the revision of a failure. -/
  | raised (run : RequestRun) (error : String)
  /-- Record the failure. -/
  | failing (run : RequestRun) (error : String) (revision : ℕ)
  deriving DecidableEq, Repr

def Stage.run : Stage → RequestRun
  | .claimed run | .started run _ | .passed run _ _ _ | .concluded run _ | .finished run _
  | .renewing run _ _ | .raised run _ | .failing run _ _ => run

/-- The message of an exception. -/
def errorText : StoreError → String
  | .valueError message => message
  | _ => ""

/-- The worker after an exception of its next call: the handler records the failure, and an
exception of the handler itself is dropped. -/
def Stage.except (error : String) : Stage → Option Stage
  | .raised _ _ | .failing _ _ _ => none
  | stage => some (.raised stage.run error)

section Worker
variable (ipAddress : String → Option String) (now : String)

/-- The claim of `run_requested_reconciliation`. -/
def startRun (actor : String) (store : RequestStore) : Option Stage × RequestStore :=
  match claimReconciliationRequest now store with
  | (none,store) => (none,store)
  | (some (id,request),store) => (some (.claimed ⟨id,request,actor⟩),store)

/-- The next call of the worker and what it does with the answer. -/
def Stage.advance (adapter : Adapter) : Stage → RequestStore → Option Stage × RequestStore
  | .claimed run, store => (some (.started run store.revision),store)
  | .started run revision, store =>
    match requestedPass adapter run.target with
    | .ok (outcomes,failures) => (some (.passed run revision outcomes failures),store)
    | .error e => (some (.raised run e),store)
  | .passed run revision outcomes failures, store =>
    (some (.concluded run (run.conclude revision store.revision outcomes failures)),store)
  | .concluded run c, store =>
    match finishReconciliationRequest now run.id c.status.text c.revision (some c.result) c.error
      store with
    | .ok (_,store) =>
      (if c.status=.superseded then some (.finished run c.revision) else none,store)
    | .error e => (some (.raised run (errorText e)),store)
  | .finished run revision, store => (some (.renewing run revision store.revision),store)
  | .renewing run revision requestedRevision, store =>
    match enqueueReconciliationRequest ipAddress now run.target run.requestActor
      ("Superseding request " ++ toString run.id ++ " at revision " ++ toString revision)
      requestedRevision store with
    | .ok (_,store) => (none,store)
    | .error e => (some (.raised run (errorText e)),store)
  | .raised run error, store => (some (.failing run error store.revision),store)
  | .failing run error revision, store =>
    match finishReconciliationRequest now run.id "failed" revision
      (some (.raised run.request.target)) error store with
    | .ok (_,store) => (none,store)
    | .error _ => (none,store)

end Worker

/-- The store and the worker that runs now. -/
structure Service where
  store : RequestStore := {}
  stage : Option Stage := none

/-- What happens at one instant. -/
inductive Event
  | enqueue (now target actor reason : String) (requestedRevision : ℤ)
  | claim (now : String)
  | finish (now : String) (id : ℕ) (status : String) (appliedRevision : ℤ)
      (result : Option RequestResult) (error : String)
  | recover
  | configWrite
  /-- `run_requested_reconciliation` is called; a second one finds the cycle lock taken. -/
  | run (now actor : String)
  /-- The worker's next call. -/
  | work (now : String) (adapter : Adapter)
  /-- The worker's next call raises. -/
  | except (error : String)
  /-- The process stops. -/
  | crash

/-- The service after an event. -/
def Event.next (ipAddress : String → Option String) : Event → Service → Service
  | .enqueue now target actor reason requestedRevision, s =>
    match enqueueReconciliationRequest ipAddress now target actor reason requestedRevision s.store with
    | .ok (_,store) => { s with store := store }
    | .error _ => s
  | .claim now, s => { s with store := (claimReconciliationRequest now s.store).2 }
  | .finish now id status appliedRevision result error, s =>
    match finishReconciliationRequest now id status appliedRevision result error s.store with
    | .ok (_,store) => { s with store := store }
    | .error _ => s
  | .recover, s => { s with store := recoverReconciliationRequests s.store }
  | .configWrite, s => { s with store := configWritten s.store }
  | .run now actor, s =>
    match s.stage with
    | none => ⟨(startRun now actor s.store).2,(startRun now actor s.store).1⟩
    | some _ => s
  | .work now adapter, s =>
    match s.stage with
    | none => s
    | some stage =>
      let r := stage.advance ipAddress now adapter s.store
      ⟨r.2,r.1⟩
  | .except error, s => { s with stage := s.stage.bind (Stage.except error) }
  | .crash, s => { s with stage := none }

end ZenControl.Reconciliation
