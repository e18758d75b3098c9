import ZenControl.Library.Interleaving

/-! Database connections with implicit write transactions. A `SELECT` outside a
transaction sees the latest committed state; the first write, or an explicit immediate
begin, takes the one write lock and opens a transaction on a private copy, which a commit
publishes and a rollback drops. The lock makes the part of a block from its first write to
its end atomic: every run is matched by a run in which that part is a single step. -/
namespace Calls

/-- One statement of a connection. -/
inductive Sql (σ ε : Type)
  | select
  | write (f : σ → Except ε σ)
  | immediate
  | commit
  | rollback

/-- A query is answered by the state it sees, a write by the state it leaves. -/
@[reducible] def Sql.Answer {σ ε : Type} : Sql σ ε → Type
  | .select => σ
  | .write _ => σ
  | _ => Unit

abbrev SqlProg (σ ε α : Type) := Prog (Sql σ ε) Sql.Answer ε α

/-- The committed state and the open write transaction, with its thread and its copy. -/
structure Database (ι σ : Type) where
  committed : σ
  writing : Option (ι × σ)

namespace Database
variable {ι σ : Type} [DecidableEq ι]

/-- The copy on which thread `i` would write now; there is none while another thread
holds the lock. -/
def base (g : Database ι σ) (i : ι) : Option σ :=
  match g.writing with
  | none => some g.committed
  | some (j,w) => if j=i then some w else none

/-- What a query of thread `i` sees. -/
def view (g : Database ι σ) (i : ι) : σ := (g.base i).getD g.committed

def commit (g : Database ι σ) (i : ι) : Database ι σ :=
  match g.writing with
  | none => g
  | some (j,w) => if j=i then ⟨w,none⟩ else g

def rollback (g : Database ι σ) (i : ι) : Database ι σ :=
  match g.writing with
  | none => g
  | some (j,_) => if j=i then ⟨g.committed,none⟩ else g

/-- A refused write leaves its transaction open on the unchanged copy. -/
def serve {ε : Type} : Machine ι (Sql σ ε) Sql.Answer ε (Database ι σ)
  | i, .select, g => some (.ok (g.view i),g)
  | i, .write f, g =>
    match g.base i with
    | none => none
    | some w =>
      match f w with
      | .ok w' => some (.ok w',⟨g.committed,some (i,w')⟩)
      | .error e => some (.error e,⟨g.committed,some (i,w)⟩)
  | i, .immediate, g =>
    match g.writing with
    | none => some (.ok (),⟨g.committed,some (i,g.committed)⟩)
    | some _ => none
  | i, .commit, g => some (.ok (),g.commit i)
  | i, .rollback, g => some (.ok (),g.rollback i)

end Database

namespace Prog
variable {σ ε α β : Type}

/-- One connection block: committed when it ends normally, rolled back when it raises. -/
def withDb (body : SqlProg σ ε α) : SqlProg σ ε α :=
  (body.rescue fun e => (Prog.issue .rollback).bind fun _ => .raise e).bind fun a =>
    (Prog.issue .commit).bind fun _ => .ret a

/-- Whether the next statement takes the write lock when no transaction is open. -/
def Opens : SqlProg σ ε α → Prop
  | .call (.write _) _ => True
  | .call .immediate _ => True
  | _ => False

instance : (p : SqlProg σ ε α) → Decidable p.Opens
  | .ret _ => .isFalse id
  | .raise _ => .isFalse id
  | .call .select _ => .isFalse id
  | .call (.write _) _ => .isTrue trivial
  | .call .immediate _ => .isTrue trivial
  | .call .commit _ => .isFalse id
  | .call .rollback _ => .isFalse id

/-- The rest of an open transaction run without interruption from the copy `w`: the state
it leaves behind over the committed state `base`, and the program after its end. -/
def finish (base : σ) : SqlProg σ ε α → σ → Option (σ × SqlProg σ ε α)
  | .ret _, _ => none
  | .raise _, _ => none
  | .call .select k, w => finish base (k (.ok w)) w
  | .call (.write f) k, w =>
    match f w with
    | .ok w' => finish base (k (.ok w')) w'
    | .error e => finish base (k (.error e)) w
  | .call .immediate _, _ => none
  | .call .commit k, w => some (w,k (.ok ()))
  | .call .rollback k, _ => some (base,k (.ok ()))

/-- A whole transaction from its opening statement to its end, as one step on the
committed state. -/
def transact (db : σ) : SqlProg σ ε α → Option (σ × SqlProg σ ε α)
  | .call (.write f) k => finish db (.call (.write f) k) db
  | .call .immediate k => finish db (k (.ok ())) db
  | _ => none

/-- The statements of a block body: queries and writes only. -/
def Plain : SqlProg σ ε α → Prop
  | .ret _ => True
  | .raise _ => True
  | .call .select k => ∀ r, (k r).Plain
  | .call (.write _) k => ∀ r, (k r).Plain
  | _ => False

/-- The statements of an open transaction served from its copy. -/
def inTransaction : (c : Sql σ ε) → σ → Except ε c.Answer × σ
  | .select, w => (.ok w,w)
  | .write f, w =>
    match f w with
    | .ok w' => (.ok w',w')
    | .error e => (.error e,w)
  | .immediate, w => (.ok (),w)
  | .commit, w => (.ok (),w)
  | .rollback, w => (.ok (),w)

/-- A query, with the rest of the program. -/
def select (k : σ → SqlProg σ ε α) : SqlProg σ ε α := (issue .select).bind k

/-- A write, with the rest of the program on the state it leaves. -/
def write (f : σ → Except ε σ) (k : σ → SqlProg σ ε α) : SqlProg σ ε α :=
  (issue (.write f)).bind k

@[simp] lemma select_run (k : σ → SqlProg σ ε α) (w : σ) :
    (select k).run inTransaction w=(k w).run inTransaction w := rfl

lemma write_run {f : σ → Except ε σ} {w : σ} (w' : σ) (h : f w=.ok w')
    (k : σ → SqlProg σ ε α) :
    (write f k).run inTransaction w=(k w').run inTransaction w' := by
  simp only [write,issue,call_bind,run_call,inTransaction,h,ret_bind]

lemma write_run_error {f : σ → Except ε σ} {w : σ} {e : ε} (h : f w=.error e)
    (k : σ → SqlProg σ ε α) : (write f k).run inTransaction w=(.error e,w) := by
  simp only [write,issue,call_bind,run_call,inTransaction,h,raise_bind,run_raise]

lemma Plain.select {k : σ → SqlProg σ ε α} (h : ∀ s, (k s).Plain) : (select k).Plain := by
  intro r
  cases r with
  | ok s => exact h s
  | error e => trivial

lemma Plain.write {f : σ → Except ε σ} {k : σ → SqlProg σ ε α} (h : ∀ s, (k s).Plain) :
    (write f k).Plain := by
  intro r
  cases r with
  | ok s => exact h s
  | error e => trivial

@[simp] lemma withDb_call (c : Sql σ ε) (k : Except ε c.Answer → SqlProg σ ε α) :
    withDb (.call c k)=.call c fun r => withDb (k r) := rfl

lemma withDb_ret (a : α) : withDb (.ret a : SqlProg σ ε α)=.call .commit fun
    | .ok _ => .ret a
    | .error e => .raise e := by
  simp only [withDb,issue,ret_rescue,ret_bind,call_bind]
  congr 1; funext r; cases r <;> rfl

lemma withDb_raise (e : ε) : withDb (.raise e : SqlProg σ ε α)=.call .rollback fun
    | .ok _ => .raise e
    | .error e' => .raise e' := by
  simp only [withDb,issue,raise_rescue,call_bind]
  congr 1; funext r; cases r <;> rfl

/-- A block inside its transaction ends with its copy published or dropped, as the body
run from that copy returns or raises. -/
theorem finish_withDb (base : σ) {p : SqlProg σ ε α} (hp : p.Plain) (w : σ) :
    finish base (withDb p) w=
      match p.run inTransaction w with
      | (.ok a,w') => some (w',.ret a)
      | (.error e,_) => some (base,.raise e) := by
  induction p generalizing w with
  | ret a => simp only [withDb_ret,finish,run_ret]
  | raise e => simp only [withDb_raise,finish,run_raise]
  | call c k ih =>
    cases c with
    | select => simp only [withDb_call,finish,run_call,inTransaction]; exact ih _ (hp _) w
    | write f =>
      cases hf : f w with
      | ok w' =>
        simp only [withDb_call,finish,run_call,inTransaction,hf]
        exact ih _ (hp _) w'
      | error e =>
        simp only [withDb_call,finish,run_call,inTransaction,hf]
        exact ih _ (hp _) w
    | immediate => exact False.elim hp
    | commit => exact False.elim hp
    | rollback => exact False.elim hp

/-- A block that opens with a write is one step on the committed state. -/
theorem transact_withDb (db : σ) {p : SqlProg σ ε α} (hp : p.Plain) (ho : p.Opens) :
    transact db (withDb p)=
      match p.run inTransaction db with
      | (.ok a,w) => some (w,.ret a)
      | (.error e,_) => some (db,.raise e) := by
  rw [← finish_withDb db hp db]
  match p,ho with
  | .call (.write f) k,_ => rfl
  | .call .immediate k,_ => exact False.elim hp

/-- So is a block that opens with an immediate begin. -/
theorem transact_immediate (db : σ) {k : Except ε Unit → SqlProg σ ε α}
    (hp : (k (.ok ())).Plain) :
    transact db (withDb (.call .immediate k))=
      match (k (.ok ())).run inTransaction db with
      | (.ok a,w) => some (w,.ret a)
      | (.error e,_) => some (db,.raise e) := by
  rw [← finish_withDb db hp db]
  rfl

lemma Plain.bind {p : SqlProg σ ε α} {f : α → SqlProg σ ε β} (hp : p.Plain)
    (hf : ∀ a, (f a).Plain) : Plain (Prog.bind p f) := by
  induction p with
  | ret a => exact hf a
  | raise e => trivial
  | call c k ih =>
    cases c with
    | select => exact fun r => ih r (hp r)
    | write g => exact fun r => ih r (hp r)
    | immediate => exact False.elim hp
    | commit => exact False.elim hp
    | rollback => exact False.elim hp

end Prog

/-- The atomic reading of the same programs: one step is a query, the end of a block
that wrote nothing, or a whole transaction. -/
inductive AtomicStep {ι σ ε α : Type} [DecidableEq ι] (i : ι) :
    Config ι (Sql σ ε) Sql.Answer ε α σ → Config ι (Sql σ ε) Sql.Answer ε α σ → Prop
  | read {db : σ} {code : ι → SqlProg σ ε α} {k} (h : code i = .call .select k) :
      AtomicStep i ⟨db,code⟩ ⟨db,Function.update code i (k (.ok db))⟩
  | commit {db : σ} {code : ι → SqlProg σ ε α} {k} (h : code i = .call .commit k) :
      AtomicStep i ⟨db,code⟩ ⟨db,Function.update code i (k (.ok ()))⟩
  | rollback {db : σ} {code : ι → SqlProg σ ε α} {k} (h : code i = .call .rollback k) :
      AtomicStep i ⟨db,code⟩ ⟨db,Function.update code i (k (.ok ()))⟩
  | transact {db db' : σ} {code : ι → SqlProg σ ε α} {p} (opens : (code i).Opens)
      (h : (code i).transact db = some (db',p)) :
      AtomicStep i ⟨db,code⟩ ⟨db',Function.update code i p⟩

/-- The open transaction of a thread: the state on which it began and its copy. -/
def Database.transaction {ι σ : Type} [DecidableEq ι] (g : Database ι σ) (i : ι) :
    Option (σ × σ) :=
  match g.writing with
  | none => none
  | some (j,w) => if j=i then some (g.committed,w) else none

section Atomicity
variable {ι σ ε α : Type} [DecidableEq ι]

/-- The committed state that a statement of a thread shows it: the one that it reads outside a
transaction, or the one that its transaction leaves. -/
def Config.learns (c d : Config ι (Sql σ ε) Sql.Answer ε α (Database ι σ)) (i : ι) : Option σ :=
  match c.shared.transaction i with
  | some _ => if (d.shared.transaction i).isNone then some d.shared.committed else none
  | none =>
    match c.code i with
    | .call .select _ => some d.shared.committed
    | _ => none

/-- The same on the atomic machine. -/
def Config.gathers (a b : Config ι (Sql σ ε) Sql.Answer ε α σ) (i : ι) : Option σ :=
  match a.code i with
  | .call .select _ => some b.shared
  | .call (.write _) _ => some b.shared
  | .call .immediate _ => some b.shared
  | _ => none

omit [DecidableEq ι] in
lemma Config.gathers_of_opens {a b : Config ι (Sql σ ε) Sql.Answer ε α σ} {i : ι}
    (h : (a.code i).Opens) : a.gathers b i=some b.shared := by
  unfold Config.gathers
  match hcode : a.code i with
  | .call .select _ => rfl
  | .call (.write _) _ => rfl
  | .call .immediate _ => rfl
  | .call .commit _ | .call .rollback _ | .ret _ | .raise _ =>
    rw [hcode] at h
    exact h.elim

/-- A condition on a statement that a thread makes outside its transactions: its code and the
committed state. -/
abbrev Guard (ι σ ε α : Type) := ι → SqlProg σ ε α → σ → Prop

/-- The guard as a condition on the steps of the interleaved machine. -/
def Guard.step (guard : Guard ι σ ε α) (i : ι)
    (c : Config ι (Sql σ ε) Sql.Answer ε α (Database ι σ)) : Prop :=
  c.shared.transaction i=none → guard i (c.code i) c.shared.committed

/-- The guard as a condition on the steps of the atomic machine. -/
def Guard.atomic (guard : Guard ι σ ε α) (i : ι)
    (a : Config ι (Sql σ ε) Sql.Answer ε α σ) : Prop := guard i (a.code i) a.shared

/-- The atomic machine is at the same point, except that a thread inside its transaction
is still in front of it there. -/
def Matches (guard : Guard ι σ ε α)
    (c : Config ι (Sql σ ε) Sql.Answer ε α (Database ι σ))
    (a : Config ι (Sql σ ε) Sql.Answer ε α σ) : Prop :=
  a.shared=c.shared.committed ∧
    match c.shared.writing with
    | none => a.code=c.code
    | some (i,w) => (∀ j, j≠i → a.code j=c.code j) ∧ (a.code i).Opens ∧
        guard i (a.code i) a.shared ∧
        (a.code i).transact a.shared=(c.code i).finish a.shared w

/-- What the atomic machine does with a statement of thread `i`: nothing as long as its transaction
goes on, or an allowed step that shows it the same. -/
def Follows (guard : Guard ι σ ε α) (i : ι)
    (c d : Config ι (Sql σ ε) Sql.Answer ε α (Database ι σ))
    (a b : Config ι (Sql σ ε) Sql.Answer ε α σ) : Prop :=
  (b=a ∧ c.learns d i=none) ∨ (guard.atomic i a ∧ AtomicStep i a b ∧ a.gathers b i=c.learns d i)

omit [DecidableEq ι] in
lemma Matches.start (guard : Guard ι σ ε α) (db : σ) (code : ι → SqlProg σ ε α) :
    Matches guard ⟨⟨db,none⟩,code⟩ ⟨db,code⟩ := ⟨rfl,rfl⟩

variable {guard : Guard ι σ ε α}

/-- A statement made while no transaction is open: it is a step of the atomic machine, or
it opens a transaction that the atomic machine has still in front of it. -/
lemma match_idle {i : ι} {db : σ} {code : ι → SqlProg σ ε α}
    {d : Config ι (Sql σ ε) Sql.Answer ε α (Database ι σ)}
    (allowed : guard.step i ⟨⟨db,none⟩,code⟩)
    (h : Config.Step Database.serve i ⟨⟨db,none⟩,code⟩ d) :
    ∃ b, Follows guard i ⟨⟨db,none⟩,code⟩ d ⟨db,code⟩ b ∧ Matches guard d b := by
  obtain ⟨c,k,r,g',hc,hs,rfl⟩ := h.inv
  replace hc : code i=.call c k := hc
  have hguard : guard i (code i) db := allowed rfl
  cases c with
  | select =>
    simp only [Database.serve,Database.view,Database.base,Option.getD_some,Option.some.injEq,
      Prod.mk.injEq] at hs
    obtain ⟨rfl,rfl⟩ := hs
    refine ⟨_,.inr ⟨hguard,.read hc,?_⟩,rfl,rfl⟩
    simp only [Config.gathers,Config.learns,hc,Database.transaction]
  | commit =>
    simp only [Database.serve,Database.commit,Option.some.injEq,Prod.mk.injEq] at hs
    obtain ⟨rfl,rfl⟩ := hs
    refine ⟨_,.inr ⟨hguard,.commit hc,?_⟩,rfl,rfl⟩
    simp only [Config.gathers,Config.learns,hc,Database.transaction]
  | rollback =>
    simp only [Database.serve,Database.rollback,Option.some.injEq,Prod.mk.injEq] at hs
    obtain ⟨rfl,rfl⟩ := hs
    refine ⟨_,.inr ⟨hguard,.rollback hc,?_⟩,rfl,rfl⟩
    simp only [Config.gathers,Config.learns,hc,Database.transaction]
  | immediate =>
    have ho : (code i).Opens := by simp [hc,Prog.Opens]
    simp only [Database.serve,Option.some.injEq,Prod.mk.injEq] at hs
    obtain ⟨rfl,rfl⟩ := hs
    refine ⟨⟨db,code⟩,.inl ⟨rfl,?_⟩,rfl,fun j hj => ?_,ho,hguard,?_⟩
    · simp only [Config.learns,hc,Database.transaction]
    · simp [Function.update_of_ne hj]
    · simp [hc,Prog.transact]
  | write f =>
    have ho : (code i).Opens := by simp [hc,Prog.Opens]
    have hlearns : ∀ d, Config.learns ⟨⟨db,none⟩,code⟩ d i=none := fun d => by
      simp only [Config.learns,hc,Database.transaction]
    simp only [Database.serve,Database.base] at hs
    cases hf : f db with
    | ok w' =>
      simp only [hf,Option.some.injEq,Prod.mk.injEq] at hs
      obtain ⟨rfl,rfl⟩ := hs
      refine ⟨⟨db,code⟩,.inl ⟨rfl,hlearns _⟩,rfl,fun j hj => ?_,ho,hguard,?_⟩
      · simp [Function.update_of_ne hj]
      · simp [hc,Prog.transact,Prog.finish,hf]
    | error e =>
      simp only [hf,Option.some.injEq,Prod.mk.injEq] at hs
      obtain ⟨rfl,rfl⟩ := hs
      refine ⟨⟨db,code⟩,.inl ⟨rfl,hlearns _⟩,rfl,fun j hj => ?_,ho,hguard,?_⟩
      · simp [Function.update_of_ne hj]
      · simp [hc,Prog.transact,Prog.finish,hf]

/-- A statement of the thread that holds the lock: the atomic machine waits, and makes the
whole transaction its step when the lock is released. -/
lemma match_holder {i : ι} {w : σ} {db : σ} {code : ι → SqlProg σ ε α}
    {a : Config ι (Sql σ ε) Sql.Answer ε α σ}
    {d : Config ι (Sql σ ε) Sql.Answer ε α (Database ι σ)}
    (hm : Matches guard ⟨⟨db,some (i,w)⟩,code⟩ a)
    (h : Config.Step Database.serve i ⟨⟨db,some (i,w)⟩,code⟩ d) :
    ∃ b, Follows guard i ⟨⟨db,some (i,w)⟩,code⟩ d a b ∧ Matches guard d b := by
  obtain ⟨hdb,hother,hopens,hguard,hrest⟩ := hm
  obtain ⟨adb,acode⟩ := a
  obtain rfl : adb=db := hdb
  obtain ⟨c,k,r,g',hc,hs,rfl⟩ := h.inv
  simp only at hc hs hother hopens hguard hrest
  rw [hc] at hrest
  -- the transaction goes on: only the copy and the holder's code have moved
  have goesOn : ∀ w' r, (acode i).transact adb=(k r).finish adb w' →
      ∃ b, Follows guard i ⟨⟨adb,some (i,w)⟩,code⟩
          ⟨⟨adb,some (i,w')⟩,Function.update code i (k r)⟩ ⟨adb,acode⟩ b ∧
        Matches guard ⟨⟨adb,some (i,w')⟩,Function.update code i (k r)⟩ b := by
    intro w' r hr
    refine ⟨⟨adb,acode⟩,.inl ⟨rfl,?_⟩,rfl,fun j hj => ?_,hopens,hguard,?_⟩
    · simp [Config.learns,Database.transaction]
    · simp [Function.update_of_ne hj,hother j hj]
    · simp [hr]
  -- the transaction ends, leaving `db'` behind
  have ends : ∀ db' p, (acode i).transact adb=some (db',p) →
      ∃ b, Follows guard i ⟨⟨adb,some (i,w)⟩,code⟩ ⟨⟨db',none⟩,Function.update code i p⟩
          ⟨adb,acode⟩ b ∧
        Matches guard ⟨⟨db',none⟩,Function.update code i p⟩ b := by
    intro db' p hp
    refine ⟨_,.inr ⟨hguard,.transact hopens hp,?_⟩,rfl,?_⟩
    · rw [Config.gathers_of_opens hopens]
      simp [Config.learns,Database.transaction]
    · funext j
      by_cases hj : j=i
      · subst hj; simp
      · simp [Function.update_of_ne hj,hother j hj]
  cases c with
  | select =>
    simp only [Database.serve,Database.view,Database.base,if_true,Option.getD_some,
      Option.some.injEq,Prod.mk.injEq] at hs
    obtain ⟨rfl,rfl⟩ := hs
    exact goesOn w _ hrest
  | commit =>
    simp only [Database.serve,Database.commit,if_true,Option.some.injEq,Prod.mk.injEq] at hs
    obtain ⟨rfl,rfl⟩ := hs
    exact ends _ _ hrest
  | rollback =>
    simp only [Database.serve,Database.rollback,if_true,Option.some.injEq,Prod.mk.injEq] at hs
    obtain ⟨rfl,rfl⟩ := hs
    exact ends _ _ hrest
  | immediate => simp [Database.serve] at hs
  | write f =>
    simp only [Database.serve,Database.base,if_true] at hs
    cases hf : f w with
    | ok w' =>
      simp only [hf,Option.some.injEq,Prod.mk.injEq] at hs
      obtain ⟨rfl,rfl⟩ := hs
      exact goesOn _ _ (by simpa [Prog.finish,hf] using hrest)
    | error e =>
      simp only [hf,Option.some.injEq,Prod.mk.injEq] at hs
      obtain ⟨rfl,rfl⟩ := hs
      exact goesOn _ _ (by simpa [Prog.finish,hf] using hrest)

/-- A statement of a thread while another one holds the lock: it can only read the
committed state or end a block that wrote nothing. -/
lemma match_other {i j : ι} (hij : i≠j) {w : σ} {db : σ} {code : ι → SqlProg σ ε α}
    {a : Config ι (Sql σ ε) Sql.Answer ε α σ}
    {d : Config ι (Sql σ ε) Sql.Answer ε α (Database ι σ)}
    (hm : Matches guard ⟨⟨db,some (j,w)⟩,code⟩ a)
    (allowed : guard.step i ⟨⟨db,some (j,w)⟩,code⟩)
    (h : Config.Step Database.serve i ⟨⟨db,some (j,w)⟩,code⟩ d) :
    ∃ b, Follows guard i ⟨⟨db,some (j,w)⟩,code⟩ d a b ∧ Matches guard d b := by
  obtain ⟨hdb,hother,hopens,hguard,hrest⟩ := hm
  obtain ⟨adb,acode⟩ := a
  obtain rfl : adb=db := hdb
  obtain ⟨c,k,r,g',hc,hs,rfl⟩ := h.inv
  simp only at hc hs hother hopens hguard hrest
  have hci : acode i=.call c k := (hother i hij).trans hc
  have hji : j≠i := fun e => hij e.symm
  have htx : Database.transaction ⟨adb,some (j,w)⟩ i=none := by
    simp only [Database.transaction,if_neg hji]
  have hallowed : guard i (acode i) adb := hother i hij ▸ allowed htx
  have keeps : ∀ p, AtomicStep i ⟨adb,acode⟩ ⟨adb,Function.update acode i p⟩ →
      ¬(acode i).Opens → ∃ b, Follows guard i ⟨⟨adb,some (j,w)⟩,code⟩
          ⟨⟨adb,some (j,w)⟩,Function.update code i p⟩ ⟨adb,acode⟩ b ∧
        Matches guard ⟨⟨adb,some (j,w)⟩,Function.update code i p⟩ b := by
    intro p hstep hno
    refine ⟨_,.inr ⟨hallowed,hstep,?_⟩,rfl,fun l hl => ?_,?_,?_,?_⟩
    · simp only [Config.gathers,Config.learns,hci,hc,htx]
      rw [hci] at hno
      cases c with
      | write f => exact absurd trivial hno
      | immediate => exact absurd trivial hno
      | _ => rfl
    · by_cases hli : l=i
      · subst hli; simp
      · simp [Function.update_of_ne hli,hother l hl]
    · simpa [Function.update_of_ne hji] using hopens
    · simpa [Function.update_of_ne hji] using hguard
    · simpa [Function.update_of_ne hji] using hrest
  cases c with
  | select =>
    simp only [Database.serve,Database.view,Database.base,if_neg hji,Option.getD_none,
      Option.some.injEq,Prod.mk.injEq] at hs
    obtain ⟨rfl,rfl⟩ := hs
    exact keeps _ (.read hci) (by simp [hci,Prog.Opens])
  | commit =>
    simp only [Database.serve,Database.commit,if_neg hji,Option.some.injEq,Prod.mk.injEq] at hs
    obtain ⟨rfl,rfl⟩ := hs
    exact keeps _ (.commit hci) (by simp [hci,Prog.Opens])
  | rollback =>
    simp only [Database.serve,Database.rollback,if_neg hji,Option.some.injEq,
      Prod.mk.injEq] at hs
    obtain ⟨rfl,rfl⟩ := hs
    exact keeps _ (.rollback hci) (by simp [hci,Prog.Opens])
  | immediate => simp [Database.serve] at hs
  | write f => simp [Database.serve,Database.base,hji] at hs

/-- Transactions are atomic: every allowed statement is followed by the atomic machine. -/
theorem Matches.step {i : ι} {c d : Config ι (Sql σ ε) Sql.Answer ε α (Database ι σ)}
    {a : Config ι (Sql σ ε) Sql.Answer ε α σ} (hm : Matches guard c a)
    (allowed : guard.step i c) (next : Config.Step Database.serve i c d) :
    ∃ b, Follows guard i c d a b ∧ Matches guard d b := by
  obtain ⟨⟨cdb,writing⟩,ccode⟩ := c
  match writing with
  | none =>
    obtain ⟨adb,acode⟩ := a
    obtain ⟨hdb,hcode⟩ := hm
    simp only at hdb hcode
    subst hdb hcode
    exact match_idle allowed next
  | some (j,w) =>
    by_cases hij : i=j
    · subst hij; exact match_holder hm next
    · exact match_other hij hm allowed next

end Atomicity
end Calls
