import ZenControl.Library.Transactions
import ZenControl.Text

/-! The optimistic configuration transaction of the policy store. `config_write` checks the
expected revision, runs the body of its caller and advances the revision journal inside one
connection block; the check is a query in front of the first write, so it runs before the
write transaction is open. -/
namespace ZenControl
open Calls

/-- Errors raised by the store. -/
inductive StoreError
  | valueError (message : String)
  | configRevisionConflict (expected current : ℤ)
  | integrityError
  | typeError
  | attributeError
  | keyError
  | overflowError
  deriving DecidableEq, Repr

section Except
variable {ε α β : Type}

lemma bind_ok {x : Except ε α} {f : α → Except ε β} {b : β} (h : (x >>= f)=.ok b) :
    ∃ a, x=.ok a ∧ f a=.ok b := by
  cases x with
  | error e => cases h
  | ok a => exact ⟨a,rfl,h⟩

/-- Two results that go on in the same way from equal first parts. -/
lemma bind_congr_ok {x y : Except ε α} {f g : α → Except ε β} (h : x=y)
    (hf : ∀ a, x=.ok a → f a=g a) : (x >>= f)=(y >>= g) := by
  subst h
  cases x with
  | error e => rfl
  | ok a => exact hf a rfl

end Except

/-- The singleton row of `config_revision_state`. -/
structure RevisionState where
  revision : ℤ := 0
  digest : String := ""
  updatedAt : ℤ := 0
  actor : String := ""
  reason : String := ""
  deriving DecidableEq, Repr

/-- A row of `config_revisions`, whose primary key is the revision. -/
structure RevisionRow where
  revision : ℤ
  createdAt : ℤ
  actor : String
  reason : String
  scope : String
  digest : String
  deriving DecidableEq, Repr

/-- A row of `outbox_events`. -/
structure OutboxEvent where
  createdAt : ℤ
  topic : String
  aggregateType : String
  aggregateKey : String
  revision : ℤ
  scope : String
  reason : String
  actor : String
  dispatched : Bool
  deriving DecidableEq, Repr

/-- The revision journal: its state, its rows and the events waiting in the outbox. -/
structure Journal where
  state : RevisionState := {}
  revisions : List RevisionRow := []
  outbox : List OutboxEvent := []
  deriving DecidableEq, Repr

/-- The database as `config_write` sees it: the journal beside the tables of its callers. -/
structure ConfigDb (τ : Type) where
  journal : Journal
  tables : τ

/-- The keyword arguments of `config_write` and the clock it reads. -/
structure WriteArgs where
  actor : String := "system:policy-store"
  reason : String := "Configuration updated"
  scope : String := "config"
  expectedRevision : Option ℤ := none
  now : ℤ := 0
  deriving DecidableEq, Repr

/-- `str(value or default)[:limit]` on a string. -/
def clipOr (value default : String) (limit : ℕ) : String :=
  clip (orElse value default) limit

/-- The statements a body makes on the tables of its caller. -/
inductive TableStmt (τ : Type)
  | select
  | write (f : τ → Except StoreError τ)

@[reducible] def TableStmt.Answer {τ : Type} : TableStmt τ → Type := fun _ => τ

/-- The body of a `with config_write(...)` block. -/
abbrev Body (τ α : Type) := Prog (TableStmt τ) TableStmt.Answer StoreError α

namespace Body
variable {τ α β : Type}

/-- The body on the whole database: it leaves the journal alone. -/
def lift : Body τ α → SqlProg (ConfigDb τ) StoreError α
  | .ret a => .ret a
  | .raise e => .raise e
  | .call .select k => .call .select fun r => lift (k (r.map ConfigDb.tables))
  | .call (.write f) k =>
    .call (.write fun db => (f db.tables).map fun t => { db with tables := t })
      fun r => lift (k (r.map ConfigDb.tables))

/-- The statements of a body served from one copy of the tables. -/
def serve : (c : TableStmt τ) → τ → Except StoreError c.Answer × τ
  | .select, t => (.ok t,t)
  | .write f, t =>
    match f t with
    | .ok t' => (.ok t',t')
    | .error e => (.error e,t)

/-- The body run alone on the tables. -/
def runOn (b : Body τ α) (t : τ) : Except StoreError α × τ := Prog.run serve b t

/-- Some answers make the body raise `e`. -/
def MayRaise (e : StoreError) : Body τ α → Prop
  | .ret _ => False
  | .raise e' => e'=e
  | .call _ k => ∃ r, MayRaise e (k r)

lemma lift_plain (b : Body τ α) : b.lift.Plain := by
  induction b with
  | ret a => trivial
  | raise e => trivial
  | call c k ih => cases c <;> exact fun r => ih _

/-- Inside its transaction a body does to the tables what it does alone. -/
theorem lift_run (b : Body τ α) (j : Journal) (t : τ) :
    b.lift.run Prog.inTransaction ⟨j,t⟩=((b.runOn t).1,⟨j,(b.runOn t).2⟩) := by
  induction b generalizing t with
  | ret a => rfl
  | raise e => rfl
  | call c k ih =>
    cases c with
    | select => exact ih (.ok t) t
    | write f =>
      simp only [lift,runOn,Prog.run_call,Prog.inTransaction,serve]
      cases hf : f t with
      | ok t' => exact ih (.ok t') t'
      | error e => exact ih (.error e) t

end Body

section ConfigWrite
variable {τ α : Type}

/-- `_assert_config_revision_db`. -/
def assertConfigRevisionDb (expected : Option ℤ) : SqlProg (ConfigDb τ) StoreError ℤ :=
  Prog.select fun db =>
    let current := db.journal.state.revision
    match expected with
    | some r => if r=current then .ret current else .raise (.configRevisionConflict r current)
    | none => .ret current

/-- `UPDATE config_revision_state`. -/
def updateRevisionState (args : WriteArgs) (digest : String) (revision : ℤ) (j : Journal) :
    Journal :=
  { j with state :=
    { revision := revision, digest := clipOr digest "" 128, updatedAt := args.now,
      actor := clipOr args.actor "system:policy-store" 100,
      reason := clipOr args.reason "Configuration updated" 240 } }

/-- `INSERT INTO config_revisions`: the revision is its primary key. -/
def insertRevision (args : WriteArgs) (digest : String) (revision : ℤ) (j : Journal) :
    Except StoreError Journal :=
  if j.revisions.any (fun row => row.revision=revision) then .error .integrityError
  else .ok { j with revisions := j.revisions ++
    [{ revision := revision, createdAt := args.now,
       actor := clipOr args.actor "system:policy-store" 100,
       reason := clipOr args.reason "Configuration updated" 240,
       scope := clipOr args.scope "config" 100, digest := clipOr digest "" 128 }] }

/-- `INSERT INTO outbox_events` with the `config.changed` topic. -/
def insertConfigChanged (args : WriteArgs) (revision : ℤ) (j : Journal) : Journal :=
  { j with outbox := j.outbox ++
    [{ createdAt := args.now, topic := "config.changed", aggregateType := "configuration",
       aggregateKey := "global", revision := revision,
       scope := clipOr args.scope "config" 100,
       reason := clipOr args.reason "Configuration updated" 240,
       actor := clipOr args.actor "system:policy-store" 100, dispatched := false }] }

/-- A statement on the journal alone. -/
def onJournal (f : Journal → Except StoreError Journal) (db : ConfigDb τ) :
    Except StoreError (ConfigDb τ) :=
  (f db.journal).map fun j => { db with journal := j }

/-- The writes of `_advance_config_revision_db` after it has read `current`. -/
def advanceFrom (args : WriteArgs) (digest : String) (current : ℤ) :
    SqlProg (ConfigDb τ) StoreError ℤ :=
  let revision := current+1
  Prog.write (onJournal fun j => .ok (updateRevisionState args digest revision j)) fun _ =>
  Prog.write (onJournal (insertRevision args digest revision)) fun _ =>
  Prog.write (onJournal fun j => .ok (insertConfigChanged args revision j)) fun _ =>
  .ret revision

/-- `_advance_config_revision_db`. -/
def advanceConfigRevisionDb (args : WriteArgs) (digest : String) :
    SqlProg (ConfigDb τ) StoreError ℤ :=
  (assertConfigRevisionDb none).bind fun current => advanceFrom args digest current

/-- What `config_write` still does after its revision check. -/
def afterCheck (args : WriteArgs) (body : Body τ α) : SqlProg (ConfigDb τ) StoreError α :=
  body.lift.bind fun a => (advanceConfigRevisionDb args "").bind fun _ => .ret a

/-- `with config_write(...) as db: body`. -/
def configWrite (args : WriteArgs) (body : Body τ α) : SqlProg (ConfigDb τ) StoreError α :=
  Prog.withDb ((assertConfigRevisionDb args.expectedRevision).bind fun _ => afterCheck args body)

/-- Every journal row is at most at the recorded revision, so the next one is free. -/
def Journal.Bounded (j : Journal) : Prop := ∀ row ∈ j.revisions, row.revision ≤ j.state.revision

/-- The journal after one more revision. -/
def Journal.advance (args : WriteArgs) (digest : String) (j : Journal) : Journal :=
  let revision := j.state.revision+1
  let j' := updateRevisionState args digest revision j
  insertConfigChanged args revision
    { j' with revisions := j'.revisions ++
      [{ revision := revision, createdAt := args.now,
         actor := clipOr args.actor "system:policy-store" 100,
         reason := clipOr args.reason "Configuration updated" 240,
         scope := clipOr args.scope "config" 100, digest := clipOr digest "" 128 }] }

@[simp] lemma Journal.advance_revision (args : WriteArgs) (digest : String) (j : Journal) :
    (j.advance args digest).state.revision=j.state.revision+1 := rfl

/-- The journals of a store: one more revision, or a change that leaves the revisions
alone, such as a dispatched event or a pruned outbox. -/
inductive Journal.Reachable : Journal → Prop
  | initial : Reachable {}
  | advance {j : Journal} (h : Reachable j) (args : WriteArgs) (digest : String) :
      Reachable (j.advance args digest)
  | dispatch {j : Journal} (h : Reachable j) (outbox : List OutboxEvent) :
      Reachable { j with outbox := outbox }
  | baseline {j : Journal} (h : Reachable j) (digest : String) :
      Reachable { j with state := { j.state with digest := digest } }

lemma Journal.Bounded.advance {j : Journal} (h : j.Bounded) (args : WriteArgs)
    (digest : String) : (j.advance args digest).Bounded := by
  intro row hrow
  simp only [Journal.advance,insertConfigChanged,updateRevisionState,List.mem_append,
    List.mem_singleton] at hrow ⊢
  rcases hrow with hrow | rfl
  · have := h row hrow
    omega
  · exact Int.le_refl _

theorem Journal.Reachable.bounded {j : Journal} (h : j.Reachable) : j.Bounded := by
  induction h with
  | initial => intro row hrow; cases hrow
  | advance _ args digest ih => exact ih.advance args digest
  | dispatch _ _ ih => exact ih
  | baseline _ _ ih => exact ih

lemma insertRevision_free (args : WriteArgs) (digest : String) {j : Journal}
    (h : j.Bounded) :
    insertRevision args digest (j.state.revision+1)
        (updateRevisionState args digest (j.state.revision+1) j)=
      .ok { updateRevisionState args digest (j.state.revision+1) j with
        revisions := j.revisions ++
          [{ revision := j.state.revision+1, createdAt := args.now,
             actor := clipOr args.actor "system:policy-store" 100,
             reason := clipOr args.reason "Configuration updated" 240,
             scope := clipOr args.scope "config" 100, digest := clipOr digest "" 128 }] } := by
  have hfree : j.revisions.any (fun row => row.revision=j.state.revision+1)=false := by
    rw [List.any_eq_false]
    intro row hrow
    have := h row hrow
    simp only [decide_eq_true_eq]
    omega
  simp [insertRevision,updateRevisionState,hfree]

lemma advanceFrom_plain (args : WriteArgs) (digest : String) (current : ℤ) :
    (advanceFrom args digest current : SqlProg (ConfigDb τ) StoreError ℤ).Plain :=
  Prog.Plain.write fun _ => Prog.Plain.write fun _ => Prog.Plain.write fun _ => trivial

lemma advance_plain (args : WriteArgs) (digest : String) :
    (advanceConfigRevisionDb args digest : SqlProg (ConfigDb τ) StoreError ℤ).Plain :=
  Prog.Plain.bind (Prog.Plain.select fun _ => trivial) fun _ => advanceFrom_plain args digest _

lemma afterCheck_plain (args : WriteArgs) (body : Body τ α) : (afterCheck args body).Plain :=
  Prog.Plain.bind (Body.lift_plain body) fun a =>
    Prog.Plain.bind (advance_plain args "") fun _ => by trivial

lemma advanceFrom_run (args : WriteArgs) (digest : String) {j : Journal} (h : j.Bounded)
    (t : τ) :
    (advanceFrom args digest j.state.revision).run Prog.inTransaction ⟨j,t⟩=
      (.ok (j.state.revision+1),⟨j.advance args digest,t⟩) := by
  have hfree := insertRevision_free args digest h
  let j1 := updateRevisionState args digest (j.state.revision+1) j
  refine (Prog.write_run (⟨j1,t⟩ : ConfigDb τ) rfl _).trans ?_
  refine (Prog.write_run (⟨_,t⟩ : ConfigDb τ) (by rw [onJournal,hfree]; rfl) _).trans ?_
  exact Prog.write_run (⟨j.advance args digest,t⟩ : ConfigDb τ) rfl _

/-- Inside one transaction the rest of `config_write` is the body alone followed by the
advance of the journal. -/
theorem afterCheck_run (args : WriteArgs) (body : Body τ α) {j : Journal} (h : j.Bounded)
    (t : τ) :
    (afterCheck args body).run Prog.inTransaction ⟨j,t⟩=
      match body.runOn t with
      | (.ok a,t') => (.ok a,⟨j.advance args "",t'⟩)
      | (.error e,t') => (.error e,⟨j,t'⟩) := by
  unfold afterCheck
  rw [Prog.run_bind,Body.lift_run]
  rcases hb : body.runOn t with ⟨r,t'⟩
  cases r with
  | error e => rfl
  | ok a =>
    have hadv : (advanceConfigRevisionDb args "").run Prog.inTransaction ⟨j,t'⟩=
        (.ok (j.state.revision+1),⟨j.advance args "",t'⟩) :=
      advanceFrom_run args "" h t'
    exact Prog.run_bind_ok _ hadv

end ConfigWrite
end ZenControl
