import ZenControl.Workers.Cycles
import ZenControl.Attention.FalseClears

/-! The locks of the background workers. Every entry point takes its lock, reads what it needs and
does its work in a `try` whose `finally` gives the lock back; what it reads before the `try` is not
protected. -/
namespace ZenControl.Workers
open Calls Calls.Prog Attention Reconciliation

/-- `_cycle_lock` of the reconciler and `_run_lock` of the monitor. -/
inductive CycleLock
  | reconciler | monitor
  deriving DecidableEq, Repr

/-- What an entry point calls: the stored settings, or what the workers call. -/
inductive Ask
  | settings
  | callee (c : Callee)

def Ask.Answer : Ask → Type
  | .settings => String → Option String
  | .callee c => c.Answer

/-- The calls between the lock and the `try`. -/
def Ask.exposed : Ask → Bool
  | .settings => true
  | .callee _ => false

inductive Reply
  | cycle (report : CycleReport)
  | requested (row : Option ReconciliationRequest)
  | transferred
  | busy
  | scanned (report : Option ScanReport)

abbrev Guarded := LockProg CycleLock Ask.Answer Raised Reply

/-- The work inside a `try`. -/
def inside {α : Type} : Work α → LockProg CycleLock Ask.Answer Raised α
  | .ret a => .ret a
  | .raise e => .raise e
  | .call c k => .call (.ask (.callee c)) fun r => inside (k r)

/-- Take the lock, do `work` or what stands for a lock that is taken. -/
def holding (l : CycleLock) (busy work : Guarded) : Guarded :=
  (issue (LockCall.acquire l)).bind fun acquired =>
    match acquired with
    | true => work
    | false => busy

def getSettings : LockProg CycleLock Ask.Answer Raised (String → Option String) :=
  issue (LockCall.ask Ask.settings)

section Entries
variable (env : MonitorEnv)

/-- `run_cycle` of the reconciler. -/
def runReconcilerCycle (trigger actor : String) (modeOverride : Option String)
    (ignoreHold : Bool) : Guarded :=
  holding .reconciler (.raise (.exception "A reconciliation cycle is already running")) <|
    getSettings.bind fun raw =>
      let settings := validateSettings env.lower raw
      let mode := env.lower (strip (orElse (modeOverride.getD "") settings.mode))
      if validAutoModes.contains mode then
        let run : CycleRun := { trigger, actor, mode, ignoreHold, settings }
        (inside ((cycleBody run).bind fun report => .ret (.cycle report))).andFinally
          (freeing .reconciler)
      else (freeing .reconciler).bind fun _ =>
        .raise (.exception s!"Invalid reconciliation mode '{mode}'")

/-- `run_requested_reconciliation`. -/
def runRequestedReconciliation (actor : String) : Guarded :=
  holding .reconciler (.ret (.requested none)) <|
    (inside ((requestedBody actor).bind fun row => .ret (.requested row))).andFinally
      (freeing .reconciler)

/-- The code under `authority_transfer_guard`. -/
def authorityTransferGuard (transfer : Work Unit) : Guarded :=
  holding .reconciler (.raise (.exception ("Automatic reconciliation is busy; retry authority " ++
      "transfer after the current cycle completes"))) <|
    (inside ((transferBody transfer).bind fun _ => .ret .transferred)).andFinally
      (freeing .reconciler)

/-- `run_cycle` of the incident monitor. -/
def runMonitorCycle (trigger : String) : Guarded :=
  holding .monitor (.ret .busy) <|
    getSettings.bind fun raw =>
      (inside ((monitorBody env (monitorSettings env.toPlatform raw) trigger).bind fun report =>
        .ret (.scanned report))).andFinally (freeing .monitor)

/-- A call of one of the entry points. -/
inductive Entry
  | cycle (trigger actor : String) (modeOverride : Option String) (ignoreHold : Bool)
  | requested (actor : String)
  | transfer (body : Work Unit)
  | monitor (trigger : String)

def Entry.lock : Entry → CycleLock
  | .monitor _ => .monitor
  | _ => .reconciler

def Entry.code : Entry → Guarded
  | .cycle trigger actor modeOverride ignoreHold =>
    runReconcilerCycle env trigger actor modeOverride ignoreHold
  | .requested actor => runRequestedReconciliation actor
  | .transfer body => authorityTransferGuard body
  | .monitor trigger => runMonitorCycle env trigger

end Entries

section Returned
variable {env : MonitorEnv} {l : CycleLock}

lemma only_inside {α : Type} (p : Work α) : (inside p).Only (Ordinary Ask.exposed) := by
  induction p with
  | ret a => trivial
  | raise e => trivial
  | call c k ih => exact ⟨rfl,fun r => ih r⟩

/-- What the work does in a `try` does not touch the lock, and the `finally` gives it back. -/
lemma returns_inside (p : Work Reply) :
    ((inside p).andFinally (freeing l)).Returns Ask.exposed l false true :=
  returns_andFinally (only_inside p)

lemma returns_holding {busy work : Guarded} (hbusy : busy.Returns Ask.exposed l false false)
    (hwork : work.Returns Ask.exposed l false true) :
    (holding l busy work).Returns Ask.exposed l false false :=
  ⟨rfl,rfl,hwork,hbusy⟩

/-- A failed read of the settings ends the call, which keeps the lock. -/
lemma returns_getSettings {f : (String → Option String) → Guarded}
    (h : ∀ raw, (f raw).Returns Ask.exposed l false true) :
    (getSettings.bind f).Returns Ask.exposed l false true := by
  intro r
  cases r with
  | ok raw => exact h raw
  | error e => exact rfl

lemma returns_code (entry : Entry) :
    (entry.code env).Returns Ask.exposed entry.lock false false := by
  cases entry with
  | cycle trigger actor modeOverride ignoreHold =>
    refine returns_holding (by exact rfl) (returns_getSettings fun raw => ?_)
    dsimp only
    split_ifs
    · exact returns_inside _
    · exact ⟨rfl,rfl,rfl⟩
  | requested actor => exact returns_holding (by exact rfl) (returns_inside _)
  | transfer body => exact returns_holding (by exact rfl) (returns_inside _)
  | monitor trigger =>
    exact returns_holding (by exact rfl) (returns_getSettings fun raw => returns_inside _)

lemma leaks_iff {ι : Type} [DecidableEq ι] {i : ι}
    {log : List (ι × Σ c, Except Raised (Ask.Answer c))} :
    leaks Ask.exposed i log=true ↔ ∃ e,(i,⟨Ask.settings,.error e⟩) ∈ log := by
  simp only [leaks,List.any_eq_true,Bool.and_eq_true,decide_eq_true_eq,Bool.not_eq_true']
  constructor
  · rintro ⟨⟨j,c,r⟩,hmem,⟨rfl,hexposed⟩,hfailed⟩
    cases c with
    | settings =>
      cases r with
      | ok raw => cases hfailed
      | error e => exact ⟨e,hmem⟩
    | callee c => cases hexposed
  · rintro ⟨e,hmem⟩
    exact ⟨_,hmem,⟨rfl,rfl⟩,rfl⟩

variable {ι W : Type} [DecidableEq ι] {unlocked : Raised}
  {answer : ι → (c : Ask) → W → Except Raised (Ask.Answer c) × W} {w : W}

/-- The calls before their first step, with free locks. -/
def begun (env : MonitorEnv) (calls : ι → Entry) (w : W) :
    Config ι (LockCall CycleLock Ask) (LockCall.Answer Ask.Answer) Raised Reply
      (Locks ι CycleLock Ask.Answer Raised W) :=
  ⟨⟨fun _ => none,w,[]⟩,fun i => (calls i).code env⟩

lemma orderly_begun {calls : ι → Entry} {b}
    (h : Run (Config.Step (lockMachine unlocked answer)) anyStep (begun env calls w) b) :
    Orderly Ask.exposed (fun i => (calls i).lock) b :=
  orderly_run (fun i => returns_code (calls i)) h

/-- However any number of calls of the workers are interleaved and whatever their callees return
or raise: a call that has ended has given its lock back if and only if its read of the settings
has not failed. -/
theorem lock_given_back (env : MonitorEnv) (calls : ι → Entry) {b}
    (h : Run (Config.Step (lockMachine unlocked answer)) anyStep (begun env calls w) b) {i : ι}
    (hended : (b.code i).Ended) : b.shared.holder (calls i).lock≠some i ↔
      ∀ e,(i,⟨Ask.settings,.error e⟩) ∉ b.shared.log := by
  have horderly := orderly_begun h
  rw [ne_eq,horderly.holds_iff hended,leaks_iff,not_exists]

/-- Once every call has ended without such a failure, all locks are free. -/
theorem locks_free (env : MonitorEnv) (calls : ι → Entry) {b}
    (h : Run (Config.Step (lockMachine unlocked answer)) anyStep (begun env calls w) b)
    (hended : ∀ i,(b.code i).Ended) (hread : ∀ i e,(i,⟨Ask.settings,.error e⟩) ∉ b.shared.log)
    (l : CycleLock) : b.shared.holder l=none := by
  have horderly := orderly_begun h
  cases hholder : b.shared.holder l with
  | none => rfl
  | some i =>
    rw [← horderly.own i l hholder] at hholder
    obtain ⟨e,hmem⟩ := leaks_iff.mp ((horderly.holds_iff (hended i)).mp hholder)
    exact absurd hmem (hread i e)

/-- A lock that was not given back stays held for the life of the process. -/
theorem lock_lost (env : MonitorEnv) (calls : ι → Entry) {b c}
    (h : Run (Config.Step (lockMachine unlocked answer)) anyStep (begun env calls w) b) {i : ι}
    (hended : (b.code i).Ended) {e : Raised} (hfailed : (i,⟨Ask.settings,.error e⟩) ∈ b.shared.log)
    (hlater : Run (Config.Step (lockMachine unlocked answer)) anyStep b c) :
    c.shared.holder (calls i).lock=some i := by
  have horderly := orderly_begun h
  exact horderly.holds_forever hended ((horderly.holds_iff hended).mpr (leaks_iff.mpr ⟨e,hfailed⟩))
    hlater

end Returned

section Example

def plainEnv : MonitorEnv := { asciiPlatform with upper := id, describe := fun _ => "" }

/-- The store cannot be read, and no request is waiting. -/
def lockedStore (_ : Unit) (c : Ask) (w : Unit) : Except Raised c.Answer × Unit :=
  match c with
  | .settings => (.error (.exception "database is locked"),w)
  | .callee .claim => (.ok none,w)
  | .callee _ => (.error (.exception "database is locked"),w)

def releaseError : Raised := .exception "release unlocked lock"

def manualCycle (_ : Unit) : Entry := .cycle "manual-run-now" "system:auto" none false

def requestedRun (_ : Unit) : Entry := .requested "system:requested"

lemma requestedRun_ends : (Config.exec (lockMachine releaseError lockedStore) (fun _ _ => true)
    [(),(),()] (begun plainEnv requestedRun ())).isSome := by decide

/-- The calls behind the run. -/
def requestedEnd : Config Unit (LockCall CycleLock Ask) (LockCall.Answer Ask.Answer) Raised Reply
    (Locks Unit CycleLock Ask.Answer Raised Unit) :=
  (Config.exec (lockMachine releaseError lockedStore) (fun _ _ => true)
    [(),(),()] (begun plainEnv requestedRun ())).get requestedRun_ends

/-- A call that finds no request gives the lock back. -/
theorem lock_given_back_requested :
    (requestedEnd.code ()).Ended ∧ requestedEnd.shared.holder .reconciler≠some () := by
  have hrun := (Config.exec_run (Option.some_get requestedRun_ends).symm).mono fun _ _ _ => trivial
  have hended : (requestedEnd.code ()).Ended := by decide
  have hread : leaks Ask.exposed () requestedEnd.shared.log=false := by decide
  refine ⟨hended,(lock_given_back plainEnv requestedRun hrun hended).mpr fun e hmem => ?_⟩
  exact Bool.false_ne_true (hread.symm.trans (leaks_iff.mpr ⟨e,hmem⟩))

lemma manualCycle_ends : (Config.exec (lockMachine releaseError lockedStore) (fun _ _ => true)
    [(),()] (begun plainEnv manualCycle ())).isSome := by decide

/-- A cycle that cannot read the settings ends and keeps its lock. -/
theorem lock_kept : ¬∀ (ι W : Type) (_ : DecidableEq ι) (env : MonitorEnv) (unlocked : Raised)
    (answer : ι → (c : Ask) → W → Except Raised c.Answer × W) (calls : ι → Entry) (w : W) b,
    Run (Config.Step (lockMachine unlocked answer)) anyStep (begun env calls w) b →
      ∀ i,(b.code i).Ended → b.shared.holder (calls i).lock≠some i := by
  intro h
  have hrun := (Config.exec_run (Option.some_get manualCycle_ends).symm).mono
    fun _ _ _ => trivial
  exact h Unit Unit _ plainEnv releaseError lockedStore manualCycle () _ hrun ()
    (by decide) (by decide)

end Example
end ZenControl.Workers
