import ZenControl.Library.Alone
import ZenControl.Library.Rows
import ZenControl.Policy.Catalog

/-! Programs of the store: queries through their own connections and configuration
transactions. The queries that one call makes before it writes are one query here. -/
namespace ZenControl
open Calls

/-- What the writers take from their environment beside the resolver's: the clock, fresh
identities, the standard library's reading of an IP address and SQLite's text of a number. -/
structure Env extends Runtime where
  now : ℤ := 0
  nowIso : String := ""
  identityId : String → String
  ipAddress : String → Option String
  realText : PyFloat → String

/-- A zone without transitions. -/
def utc : Zone := { key := "UTC", utcoffset := fun _ _ => 0, fromutc := fun i => ⟨i,false⟩ }

/-- An environment in which every zone is UTC and texts are ASCII. -/
def asciiEnv : Env :=
  { lower := nocase, lower_ascii := fun _ _ => rfl, casefold := nocase,
    containerText := fun _ => "", zone := fun _ => some utc, percentTenths := fun _ _ => 0,
    formatBytes := fun _ => "", identityId := id, ipAddress := some,
    realText := PyFloat.text }

/-- What an expression evaluates to, or raises. -/
def ofPy {σ α : Type} : Py α → SqlProg σ StoreError α
  | .ok a => .ret a
  | .error e => .raise e

/-- Read through a connection and compute. -/
def query {α : Type} (f : Tables → Py α) : StoreProg α :=
  Prog.withDb (Prog.select fun db => ofPy (f db.tables))

/-- The arguments that the operations of the store give to `config_write`. -/
def Env.writeArgs (env : Env) (scope reason : String) : WriteArgs :=
  { scope := scope, reason := reason, now := env.now }

def storeWrite {α : Type} (env : Env) (scope reason : String) (body : Body Tables α) :
    StoreProg α :=
  configWrite (env.writeArgs scope reason) body

namespace Body
variable {τ α β : Type}

/-- Read through the connection of the block and compute. -/
def read (f : τ → Except StoreError α) : Body τ α :=
  .call .select fun
    | .ok t => match f t with
      | .ok a => .ret a
      | .error e => .raise e
    | .error e => .raise e

/-- What an expression of the block evaluates to, or raises. -/
def ofPy : Py α → Body τ α
  | .ok a => .ret a
  | .error e => .raise e

/-- A writing statement, with the check that follows it. -/
def execute (f : τ → Except StoreError τ) : Body τ τ := Prog.issue (.write f)

@[simp] lemma runOn_ret (a : α) (t : τ) : runOn (Prog.ret a : Body τ α) t=(.ok a,t) := rfl

@[simp] lemma runOn_ofPy (r : Py α) (t : τ) : runOn (ofPy r : Body τ α) t=(r,t) := by
  cases r <;> rfl

@[simp] lemma runOn_read (f : τ → Except StoreError α) (t : τ) :
    (read f).runOn t=(f t,t) := by
  simp only [read,runOn,Prog.run_call,serve]
  cases f t <;> rfl

@[simp] lemma runOn_execute (f : τ → Except StoreError τ) (t : τ) :
    (execute f).runOn t=match f t with
      | .ok t' => (.ok t',t')
      | .error e => (.error e,t) := by
  simp only [execute,Prog.issue,runOn,Prog.run_call,serve]
  cases f t <;> rfl

lemma runOn_bind (b : Body τ α) (f : α → Body τ β) (t : τ) :
    runOn (b.bind f) t=match b.runOn t with
      | (.ok a,t') => (f a).runOn t'
      | (.error e,t') => (.error e,t') := by
  simp only [runOn,Prog.run_bind]
  rcases Prog.run serve b t with ⟨_ | a,t'⟩ <;> rfl

end Body

section Solo
variable {σ α β : Type}

@[simp] lemma solo_ofPy (r : Py α) (s : σ) : (ofPy r : SqlProg σ StoreError α).solo s=(r,s) := by
  cases r <;> rfl

lemma closed_ofPy (r : Py α) : (ofPy r : SqlProg σ StoreError α).Closed := by
  cases r with
  | ok a => exact Prog.closed_ret a
  | error e => exact Prog.closed_raise e

lemma plain_ofPy (r : Py α) : (ofPy r : SqlProg σ StoreError α).Plain := by
  cases r <;> trivial

lemma closed_query (f : Tables → Py α) : (query f).Closed :=
  Prog.closed_withDb (Prog.Plain.select fun _ => plain_ofPy _)

/-- A query changes nothing. -/
@[simp] theorem query_solo (f : Tables → Py α) (s : Store) : (query f).solo s=(f s.tables,s) := by
  unfold query
  rw [Prog.solo_withDb (Prog.Plain.select fun _ => plain_ofPy _)]
  simp only [Prog.select_run]
  cases f s.tables <;> rfl

lemma closed_configWrite {τ : Type} (args : WriteArgs) (body : Body τ α) :
    (configWrite args body).Closed := by
  refine Prog.closed_withDb (Prog.Plain.bind (Prog.Plain.select fun s => ?_) fun _ =>
    afterCheck_plain args body)
  cases args.expectedRevision with
  | none => trivial
  | some r =>
    by_cases h : r=s.journal.state.revision <;> simp only [h,if_true,if_false] <;> trivial

/-- A configuration transaction alone: the body and one more revision, or nothing. -/
theorem configWrite_solo {τ : Type} (args : WriteArgs) (body : Body τ α) {s : ConfigDb τ}
    (h : s.journal.Bounded) (unchecked : args.expectedRevision=none) :
    (configWrite args body).solo s=match body.runOn s.tables with
      | (.ok a,t) => (.ok a,⟨s.journal.advance args "",t⟩)
      | (.error e,_) => (.error e,s) := by
  have plain : ((assertConfigRevisionDb args.expectedRevision).bind fun _ =>
      afterCheck args body).Plain := by
    rw [unchecked]
    exact Prog.Plain.bind (Prog.Plain.select fun _ => trivial) fun _ => afterCheck_plain args body
  have run : ((assertConfigRevisionDb args.expectedRevision).bind fun _ =>
      afterCheck args body).run Prog.inTransaction s=
        (afterCheck args body).run Prog.inTransaction s := by
    rw [unchecked]; rfl
  obtain ⟨j,t⟩ := s
  rw [configWrite,Prog.solo_withDb plain,run,afterCheck_run args body h]
  rcases body.runOn t with ⟨_ | a,t'⟩ <;> rfl

lemma closed_storeWrite (env : Env) (scope reason : String) (body : Body Tables α) :
    (storeWrite env scope reason body).Closed := closed_configWrite _ body

theorem storeWrite_solo (env : Env) (scope reason : String) (body : Body Tables α) {s : Store}
    (h : s.journal.Bounded) :
    (storeWrite env scope reason body).solo s=match body.runOn s.tables with
      | (.ok a,t) => (.ok a,⟨s.journal.advance (env.writeArgs scope reason) "",t⟩)
      | (.error e,_) => (.error e,s) := by
  rw [storeWrite,configWrite_solo (env.writeArgs scope reason) body h rfl]
  rcases body.runOn s.tables with ⟨_ | a,t⟩ <;> rfl

end Solo
end ZenControl
