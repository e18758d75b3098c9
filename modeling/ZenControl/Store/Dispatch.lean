import ZenControl.Attention.Jobs
import ZenControl.Library.Rely
import ZenControl.Store.ConfigWrite

/-! The dispatch of configuration events to background jobs, beside the writers of the revision
journal. Events are known by their places in the outbox; one that is no longer pending is
dispatched, or ignored when its topic is another one. -/
namespace ZenControl
open Calls Rows Attention

/-- The tables beside the journal: the background jobs, and those that the writers change. -/
abbrev JobsDb (τ : Type) := ConfigDb (Table BackgroundJob × τ)

inductive OutboxStatus
  | pending
  | dispatched
  | ignored
  deriving DecidableEq, Repr

/-- The column `status` of an event. -/
def OutboxEvent.status (e : OutboxEvent) : OutboxStatus :=
  if !e.dispatched then .pending else if e.topic="config.changed" then .dispatched else .ignored

/-- `config-analytics:r{revision}`. -/
def analyticsKey (revision : ℤ) : String := "config-analytics:r" ++ toString revision

lemma analyticsKey_injective {r r' : ℤ} (h : analyticsKey r=analyticsKey r') : r=r' :=
  int_repr_injective ((String.append_right_inj _).mp h)

namespace Body
variable {τ κ α : Type}

/-- A body on the second of two groups of tables. -/
def onSecond : Body τ α → Body (κ × τ) α
  | .ret a => .ret a
  | .raise e => .raise e
  | .call .select k => .call .select fun r => onSecond (k (r.map Prod.snd))
  | .call (.write f) k => .call (.write fun t => (f t.2).map fun t' => (t.1,t'))
      fun r => onSecond (k (r.map Prod.snd))

lemma onSecond_runOn (b : Body τ α) (x : κ) (t : τ) :
    (b.onSecond).runOn (x,t)=((b.runOn t).1,(x,(b.runOn t).2)) := by
  induction b generalizing t with
  | ret a => rfl
  | raise e => rfl
  | call c k ih =>
    cases c with
    | select => exact ih (.ok t) t
    | write f =>
      simp only [onSecond,runOn,Prog.run_call,serve]
      cases hf : f t with
      | ok t' => exact ih (.ok t') t'
      | error e => exact ih (.error e) t

end Body

section Programs
variable {τ α : Type}

/-- `UPDATE outbox_events SET status=... WHERE id=?`. -/
def closeEvent (place : ℕ) (db : JobsDb τ) : JobsDb τ :=
  { db with journal := { db.journal with
      outbox := db.journal.outbox.modify place fun e => { e with dispatched := true } } }

/-- `INSERT OR IGNORE INTO background_jobs` of the job of a revision. -/
def insertAnalyticsJob (host : Host) (revision : ℤ) (db : JobsDb τ) : JobsDb τ :=
  { db with tables := (insertJob host "analytics.config-summary" "analytics:config"
      (analyticsKey revision) 3 host.now db.tables.1,db.tables.2) }

/-- The pending events with their places, in the order of their ids. -/
def pendingEvents (limit : ℤ) (db : JobsDb τ) : List (OutboxEvent × ℕ) :=
  (db.journal.outbox.zipIdx.filter fun r => r.1.status=.pending).take
    (max 1 (min 500 limit)).toNat

/-- The loop of `dispatch_outbox_to_background_jobs`. -/
def dispatchRows (host : Host) : List (OutboxEvent × ℕ) → ℕ → SqlProg (JobsDb τ) StoreError ℕ
  | [], dispatched => .ret dispatched
  | (e,place)::rows, dispatched =>
    if e.topic≠"config.changed" then
      Prog.update (closeEvent place) fun _ => dispatchRows host rows dispatched
    else
      Prog.update (insertAnalyticsJob host e.revision) fun _ => Prog.select fun db =>
        match db.tables.1.first fun r => r.idempotencyKey=analyticsKey e.revision with
        | none => .raise .typeError
        | some _ => Prog.update (closeEvent place) fun _ => dispatchRows host rows (dispatched+1)

/-- `dispatch_outbox_to_background_jobs`. -/
def dispatchOutboxToBackgroundJobs (host : Host) (limit : ℤ) : SqlProg (JobsDb τ) StoreError ℕ :=
  Prog.withDb <| Prog.select fun db => dispatchRows host (pendingEvents limit db) 0

/-- `current_config_revision`. -/
def currentConfigRevision : SqlProg (ConfigDb τ) StoreError RevisionState :=
  Prog.withDb <| Prog.select fun db => .ret db.journal.state

/-- `UPDATE config_revision_state SET digest=? WHERE singleton=1 AND digest=''`. -/
def fillDigest (digest : String) (db : ConfigDb τ) : ConfigDb τ :=
  { db with journal := { db.journal with
      state := { db.journal.state with
        digest := if db.journal.state.digest="" then digest else db.journal.state.digest } } }

/-- What the first revision is recorded with. -/
def baselineArgs (actor : String) (now : ℤ) : WriteArgs :=
  { actor := actor, reason := "v0.54 revision journal baseline", scope := "bootstrap", now := now }

/-- `ensure_config_revision_baseline`, given what `config_digest` makes of the tables. -/
def ensureConfigRevisionBaseline (actor : String) (now : ℤ) (configDigest : ConfigDb τ → String) :
    SqlProg (ConfigDb τ) StoreError RevisionState :=
  currentConfigRevision.bind fun current =>
  if 0 < current.revision then .ret current
  else (Prog.withDb <| Prog.select fun db => .ret (configDigest db)).bind fun digest =>
    (Prog.withDb <| (assertConfigRevisionDb none).bind fun revision =>
      if revision=0 then
        (advanceConfigRevisionDb (baselineArgs actor now) digest).bind fun _ => .ret ()
      else Prog.update (fillDigest digest) fun _ => .ret ()).bind fun _ => currentConfigRevision

end Programs

/-- The calls on the journal, with their arguments. -/
inductive JournalCall (τ : Type)
  | configWrite (args : WriteArgs) (body : Body τ Unit)
  | ensureBaseline (actor : String) (now : ℤ) (configDigest : JobsDb τ → String)
  | dispatch (host : Host) (limit : ℤ)

def JournalCall.program {τ : Type} : JournalCall τ → SqlProg (JobsDb τ) StoreError Unit
  | .configWrite args body => ZenControl.configWrite args body.onSecond
  | .ensureBaseline actor now configDigest =>
    (ensureConfigRevisionBaseline actor now configDigest).bind fun _ => .ret ()
  | .dispatch host limit => (dispatchOutboxToBackgroundJobs host limit).bind fun _ => .ret ()

section Gapless
variable {τ : Type}

/-- The revisions up to `n`. -/
def numbers (n : ℕ) : List ℤ := (List.range n).map fun k : ℕ => (k : ℤ)+1

/-- The configuration events, in their order. -/
def Journal.changes (j : Journal) : List OutboxEvent :=
  j.outbox.filter fun e => e.topic="config.changed"

/-- One job has the key of the revision. -/
def OneJob (jobs : Table BackgroundJob) (revision : ℤ) : Prop :=
  ∃! id, ∃ job, jobs.find id=some job ∧ job.idempotencyKey=analyticsKey revision

/-- The journal holds the revisions up to the recorded one and an event for each, and an event is
dispatched exactly when one job has been created for it. Jobs have distinct keys, and those of
this kind belong to events. -/
structure Gapless (db : JobsDb τ) : Prop where
  revisions : db.journal.revisions.map RevisionRow.revision=
    numbers db.journal.state.revision.toNat
  nonneg : 0 ≤ db.journal.state.revision
  events : db.journal.changes.map OutboxEvent.revision=numbers db.journal.state.revision.toNat
  dispatched : ∀ e ∈ db.journal.changes, e.status=.dispatched ↔ OneJob db.tables.1 e.revision
  unique : db.tables.1.Unique BackgroundJob.idempotencyKey
  jobs : ∀ id job r, db.tables.1.find id=some job → job.idempotencyKey=analyticsKey r →
    ∃ e ∈ db.journal.changes, e.revision=r

end Gapless
end ZenControl
