import ZenControl.Library.Views
import ZenControl.Store.ConfigWrite

/-! Concurrent `config_write` transactions that were given one expected revision. The check
is not part of the write transaction, so two writers may both pass it and both commit; when
no writer commits between the check of another and its first write, at most one of them commits
and the others are refused. -/
namespace ZenControl
open Calls

section Writers
variable {ι τ α : Type} [DecidableEq ι]

/-- A `config_write` that was given the expected revision `r`. -/
def writer (r : ℤ) (args : WriteArgs) (body : Body τ α) : SqlProg (ConfigDb τ) StoreError α :=
  configWrite { args with expectedRevision := some r } body

/-- Writers interleaved statement by statement over one database. -/
abbrev Writers (ι τ α : Type) :=
  Config ι (Sql (ConfigDb τ) StoreError) Sql.Answer StoreError α (Database ι (ConfigDb τ))

/-- The writers before their first statement. -/
def Writers.start (r : ℤ) (args : ι → WriteArgs) (body : ι → Body τ α) (db : ConfigDb τ) :
    Writers ι τ α :=
  ⟨⟨db,none⟩,fun i => writer r (args i) (body i)⟩

/-- A `config_write` returns only after its commit. -/
def Writers.Committed (c : Writers ι τ α) (i : ι) : Prop := ∃ a, c.code i=.ret a

/-- The ways in which a writer is refused: its check finds another revision than the expected one,
or its own body raises on the store that the check has found. -/
def Refused (r : ℤ) (body : Body τ α) (db : ConfigDb τ) (e : StoreError) : Prop :=
  (∃ current, current≠r ∧ e=.configRevisionConflict r current) ∨
    db.journal.state.revision=r ∧ (body.runOn db.tables).1=.error e

/-- No update is lost: at most one writer has committed, whoever raised was refused, and the
store is as before or holds the one committed write. -/
structure Writers.NoLostUpdate (r : ℤ) (args : ι → WriteArgs) (body : ι → Body τ α)
    (db : ConfigDb τ) (c : Writers ι τ α) : Prop where
  one_commit : ∀ i j, c.Committed i → c.Committed j → i=j
  refused : ∀ i e, c.code i=.raise e → Refused r (body i) db e
  untouched : (∀ i, ¬ c.Committed i) → c.shared.committed=db
  applied : ∀ i, c.Committed i →
    c.shared.committed=⟨db.journal.advance (args i) "",((body i).runOn db.tables).2⟩

/-- The condition on the queries of a writer and on its first write: no other configuration write
has committed since its check, so the revision is still the one that it has seen. -/
def notOvertaken : ViewGuard ι (ConfigDb τ) StoreError α
  | _, views, .call .select _, db | _, views, .call (.write _) _, db =>
    ∀ seen ∈ views, seen.journal.state.revision=db.journal.state.revision
  | _, _, _, _ => True

/-- What a writer that has not committed still has to do, with what it has seen: past the check it
has seen the store `db` at the expected revision. -/
inductive Stage (r : ℤ) (args : WriteArgs) (body : Body τ α) (db : ConfigDb τ) :
    List (ConfigDb τ) → SqlProg (ConfigDb τ) StoreError α → Prop
  | start : Stage r args body db [] (writer r args body)
  | inBody {views : List (ConfigDb τ)} {b : Body τ α} (checked : db ∈ views)
      (expected : db.journal.state.revision=r) (same : b.runOn db.tables=body.runOn db.tables) :
      Stage r args body db views
        (Prog.withDb (afterCheck { args with expectedRevision := some r } b))
  | advancing {views : List (ConfigDb τ)} {a : α} (checked : db ∈ views)
      (expected : db.journal.state.revision=r) (same : body.runOn db.tables=(.ok a,db.tables)) :
      Stage r args body db views (Prog.withDb
        ((advanceFrom { args with expectedRevision := some r } "" db.journal.state.revision).bind
          fun _ => .ret a))
  | leaving {views : List (ConfigDb τ)} {e : StoreError} (refused : Refused r body db e) :
      Stage r args body db views (Prog.withDb (.raise e))
  | raised {views : List (ConfigDb τ)} {e : StoreError} (refused : Refused r body db e) :
      Stage r args body db views (.raise e)

namespace Stage
variable {r : ℤ} {args : WriteArgs} {body : Body τ α} {db s : ConfigDb τ}
  {views : List (ConfigDb τ)} {p : SqlProg (ConfigDb τ) StoreError α}

/-- The check passes on the store `db` at the expected revision, and refuses every other one. -/
lemma check (hs : s=db ∨ s.journal.state.revision≠r) :
    Stage r args body db (s::views) (Prog.withDb (Prog.bind
      (if r=s.journal.state.revision then .ret s.journal.state.revision
        else .raise (.configRevisionConflict r s.journal.state.revision) :
        SqlProg (ConfigDb τ) StoreError ℤ)
      fun _ => afterCheck { args with expectedRevision := some r } body)) := by
  split_ifs with h
  · rcases hs with rfl | hs
    · exact .inBody List.mem_cons_self h.symm rfl
    · exact (hs h.symm).elim
  · exact .leaving (.inl ⟨_,fun e => h e.symm,rfl⟩)

/-- Past the check a writer that is not overtaken finds the store `db`. -/
lemma unchanged (checked : db ∈ views) (expected : db.journal.state.revision=r)
    (hs : s=db ∨ s.journal.state.revision≠r)
    (allowed : ∀ v ∈ views, v.journal.state.revision=s.journal.state.revision) : s=db :=
  hs.resolve_right fun h => h ((allowed db checked).symm.trans expected)

/-- What a writer can do next: query and stay in a stage, take the write lock past the check, roll
back to raise the error it was refused with, or nothing any more because it has raised. -/
lemma next (h : Stage r args body db views p) :
    (∃ k, p=.call .select k ∧ ∀ s : ConfigDb τ, s=db ∨ s.journal.state.revision≠r →
      (∀ v ∈ views, v.journal.state.revision=s.journal.state.revision) →
        Stage r args body db (s::views) (k (.ok s))) ∨
    (∃ f k, p=.call (.write f) k ∧ db ∈ views ∧ db.journal.state.revision=r) ∨
    (∃ k, p=.call .rollback k ∧ Stage r args body db views (k (.ok ()))) ∨
    (∃ e, p=.raise e ∧ Refused r body db e) := by
  cases h with
  | start => exact .inl ⟨_,rfl,fun s hs _ => check hs⟩
  | @inBody _ b checked expected same =>
    match b with
    | .ret a =>
      refine .inl ⟨_,rfl,fun s hs allowed => ?_⟩
      obtain rfl := unchanged checked expected hs allowed
      exact .advancing List.mem_cons_self expected same.symm
    | .raise e =>
      refine .inr (.inr (.inl ⟨_,Prog.withDb_raise e,?_⟩))
      exact .raised (.inr ⟨expected,by rw [← same]; rfl⟩)
    | .call .select k' =>
      refine .inl ⟨_,rfl,fun s hs allowed => ?_⟩
      obtain rfl := unchanged checked expected hs allowed
      exact .inBody List.mem_cons_self expected same
    | .call (.write f) k' => exact .inr (.inl ⟨_,_,rfl,checked,expected⟩)
  | advancing checked expected same => exact .inr (.inl ⟨_,_,rfl,checked,expected⟩)
  | leaving refused => exact .inr (.inr (.inl ⟨_,Prog.withDb_raise _,.raised refused⟩))
  | raised refused => exact .inr (.inr (.inr ⟨_,rfl,refused⟩))

lemma query {k} (h : Stage r args body db views (.call .select k))
    (hs : s=db ∨ s.journal.state.revision≠r)
    (allowed : ∀ v ∈ views, v.journal.state.revision=s.journal.state.revision) :
    Stage r args body db (s::views) (k (.ok s)) := by
  rcases h.next with ⟨k',hk,hstage⟩ | ⟨f,k',hk,_⟩ | ⟨k',hk,_⟩ | ⟨e,he,_⟩
  · cases hk; exact hstage s hs allowed
  · cases hk
  · cases hk
  · cases he

/-- No writer commits a block in which it has not written. -/
lemma not_commit {k} (h : Stage r args body db views (.call .commit k)) : False := by
  rcases h.next with ⟨k',hk,_⟩ | ⟨f,k',hk,_⟩ | ⟨k',hk,_⟩ | ⟨e,he,_⟩
  · cases hk
  · cases hk
  · cases hk
  · cases he

lemma rollback {k} (h : Stage r args body db views (.call .rollback k)) :
    Stage r args body db views (k (.ok ())) := by
  rcases h.next with ⟨k',hk,_⟩ | ⟨f,k',hk,_⟩ | ⟨k',hk,hstage⟩ | ⟨e,he,_⟩
  · cases hk
  · cases hk
  · cases hk; exact hstage
  · cases he

lemma not_ret (h : Stage r args body db views p) (a : α) : p≠.ret a := by
  rintro rfl
  rcases h.next with ⟨k',hk,_⟩ | ⟨f,k',hk,_⟩ | ⟨k',hk,_⟩ | ⟨e,he,_⟩
  · cases hk
  · cases hk
  · cases hk
  · cases he

lemma refused_of_raise {e : StoreError} (h : Stage r args body db views (.raise e)) :
    Refused r body db e := by
  rcases h.next with ⟨k',hk,_⟩ | ⟨f,k',hk,_⟩ | ⟨k',hk,_⟩ | ⟨e',he,hr⟩
  · cases hk
  · cases hk
  · cases hk
  · cases he; exact hr

omit [DecidableEq ι] in
/-- A writer that opens its transaction and is not overtaken finds the store `db` at the expected
revision. -/
lemma opening (h : Stage r args body db views p) (ho : p.Opens)
    (hs : s=db ∨ s.journal.state.revision≠r) {i : ι} (allowed : notOvertaken i views p s) :
    s=db ∧ db.journal.state.revision=r := by
  rcases h.next with ⟨k,rfl,_⟩ | ⟨f,k,rfl,checked,expected⟩ | ⟨k,rfl,_⟩ | ⟨e,rfl,_⟩
  · exact ho.elim
  · exact ⟨unchanged checked expected hs allowed,expected⟩
  · exact ho.elim
  · exact ho.elim

/-- A writer that opens its transaction on the store `db` applies its body and advances the
journal, or is refused and leaves the store alone. -/
lemma transact (h : Stage r args body db views p) (hb : db.journal.Bounded) (ho : p.Opens) :
    (∃ a, p.transact db=
        some (⟨db.journal.advance args "",(body.runOn db.tables).2⟩,.ret a)) ∨
      (∃ e, p.transact db=some (db,.raise e) ∧ Refused r body db e) := by
  cases h with
  | start => exact False.elim ho
  | @inBody _ b checked expected same =>
    rw [Prog.transact_withDb db (afterCheck_plain _ b) (by cases b with
      | ret a => exact ho
      | raise e => exact False.elim ho
      | call c k => cases c <;> exact ho)]
    rw [show db=⟨db.journal,db.tables⟩ from rfl,afterCheck_run _ _ hb,same]
    rcases hrun : body.runOn db.tables with ⟨_ | _,t'⟩
    · exact .inr ⟨_,rfl,.inr ⟨expected,by rw [hrun]⟩⟩
    · exact .inl ⟨_,rfl⟩
  | @advancing _ a checked expected same =>
    rw [Prog.transact_withDb db
      (Prog.Plain.bind (advanceFrom_plain _ _ _) fun _ => by trivial) trivial]
    rw [show db=⟨db.journal,db.tables⟩ from rfl,
      Prog.run_bind_ok _ (advanceFrom_run _ _ hb db.tables),same]
    exact .inl ⟨a,rfl⟩
  | leaving refused =>
    rw [Prog.withDb_raise] at ho
    exact False.elim ho
  | raised refused => exact False.elim ho

end Stage

/-- The two phases of a run in which no writer is overtaken: nobody has committed, or one writer
has and the revision has moved on. -/
def OneWriter (r : ℤ) (args : ι → WriteArgs) (body : ι → Body τ α) (db : ConfigDb τ)
    (a : Config ι (Sql (ConfigDb τ) StoreError) Sql.Answer StoreError α (ConfigDb τ) ×
      Views ι (ConfigDb τ)) : Prop :=
  (a.1.shared=db ∧ ∀ i, Stage r (args i) (body i) db (a.2 i) (a.1.code i)) ∨
    ∃ i, (∃ v, a.1.code i=.ret v) ∧
      a.1.shared=⟨db.journal.advance (args i) "",((body i).runOn db.tables).2⟩ ∧
      db.journal.state.revision=r ∧
      ∀ j, j≠i → Stage r (args j) (body j) db (a.2 j) (a.1.code j)

namespace OneWriter
variable {r : ℤ} {args : ι → WriteArgs} {body : ι → Body τ α} {db : ConfigDb τ}
  {a b : Config ι (Sql (ConfigDb τ) StoreError) Sql.Answer StoreError α (ConfigDb τ)} {i : ι}
  {views : Views ι (ConfigDb τ)}

omit [DecidableEq ι] in
lemma start : OneWriter r args body db
    (⟨db,fun i => writer r (args i) (body i)⟩,fun _ => []) :=
  .inl ⟨rfl,fun _ => .start⟩

omit [DecidableEq ι] in
/-- The store is the one of the beginning, or its revision is not the expected one. -/
lemma shared_cases (h : OneWriter r args body db (a,views)) :
    a.shared=db ∨ a.shared.journal.state.revision≠r := by
  rcases h with ⟨hdb,-⟩ | ⟨k,-,hdb,hr,-⟩
  · exact .inl hdb
  · refine .inr ?_
    have hdb : a.shared=_ := hdb
    rw [hdb,Journal.advance_revision]
    omega

/-- A step that leaves the store alone and keeps its writer in a stage keeps the phase. -/
lemma quiet (h : OneWriter r args body db (a,views)) {p : SqlProg (ConfigDb τ) StoreError α}
    {seen : Option (ConfigDb τ)} (hnot : ∀ v, a.code i≠.ret v)
    (hp : Stage r (args i) (body i) db (views i) (a.code i) →
      Stage r (args i) (body i) db (views.note i seen i) p) :
    OneWriter r args body db (⟨a.shared,Function.update a.code i p⟩,views.note i seen) := by
  rcases h with ⟨hdb,hall⟩ | ⟨k,⟨v,hv⟩,hdb,hr,hothers⟩
  · refine .inl ⟨hdb,fun j => ?_⟩
    by_cases hj : j=i
    · subst hj; simpa using hp (hall j)
    · simpa [Function.update_of_ne hj,views.note_other hj] using hall j
  · have hk : k≠i := fun e => hnot v (e ▸ hv)
    refine .inr ⟨k,⟨v,by simpa [Function.update_of_ne hk] using hv⟩,hdb,hr,fun j hjk => ?_⟩
    by_cases hj : j=i
    · subst hj; simpa using hp (hothers j hjk)
    · simpa [Function.update_of_ne hj,views.note_other hj] using hothers j hjk

omit [DecidableEq ι] in
/-- A writer that opens its transaction does so before anybody has committed. -/
lemma fresh (h : OneWriter r args body db (a,views)) (ho : (a.code i).Opens)
    (allowed : notOvertaken i (views i) (a.code i) a.shared) :
    a.shared=db ∧ db.journal.state.revision=r ∧
      ∀ j, Stage r (args j) (body j) db (views j) (a.code j) := by
  have hcases := h.shared_cases
  rcases h with ⟨hdb,hall⟩ | ⟨k,⟨v,hv⟩,hdb,hr,hothers⟩
  · exact ⟨hdb,((hall i).opening ho hcases allowed).2,hall⟩
  · have hik : i≠k := by
      rintro rfl
      have hv : a.code i=.ret v := hv
      rw [hv] at ho
      exact ho
    have hshared : a.shared=⟨db.journal.advance (args k) "",((body k).runOn db.tables).2⟩ := hdb
    have hfresh := ((hothers i hik).opening ho hcases allowed).1
    rw [hshared] at hfresh
    have hrevision : (db.journal.advance (args k) "").state.revision=db.journal.state.revision :=
      congrArg (fun db : ConfigDb τ => db.journal.state.revision) hfresh
    rw [Journal.advance_revision] at hrevision
    omega

lemma step (hb : db.journal.Bounded) (h : OneWriter r args body db (a,views))
    (allowed : notOvertaken.atomic i (a,views)) (next : AtomicStep i a b) :
    OneWriter r args body db (b,views.note i (a.gathers b i)) := by
  have hcases := h.shared_cases
  have allowed : notOvertaken i (views i) (a.code i) a.shared := allowed
  cases next with
  | @read s code k hc =>
    simp only [Config.gathers,hc]
    refine h.quiet (p := k (.ok s)) (by simp [hc]) fun hs => ?_
    rw [Views.note_some_self]
    have hc : code i=.call .select k := hc
    have allowed : notOvertaken i (views i) (code i) s := allowed
    have hs : Stage r (args i) (body i) db (views i) (code i) := hs
    rw [hc] at allowed hs
    exact hs.query hcases allowed
  | @commit s code k hc =>
    simp only [Config.gathers,hc]
    refine h.quiet (p := k (.ok ())) (by simp [hc]) fun hs => ?_
    replace hs : Stage r (args i) (body i) db (views i) (code i) := hs
    rw [hc] at hs
    exact hs.not_commit.elim
  | @rollback s code k hc =>
    simp only [Config.gathers,hc]
    refine h.quiet (p := k (.ok ())) (by simp [hc]) fun hs => ?_
    rw [Views.note_none]
    exact Stage.rollback (hc ▸ hs : Stage _ _ _ _ _ (.call .rollback k))
  | @transact s s' code p ho ht =>
    obtain ⟨hdb,hr,hall⟩ := h.fresh ho allowed
    obtain rfl : s=db := hdb
    rw [Config.gathers_of_opens ho]
    rcases (hall i).transact hb ho with ⟨v,hv⟩ | ⟨e,he,hrefused⟩
    · simp only [ht,Option.some.injEq,Prod.mk.injEq] at hv
      obtain ⟨rfl,rfl⟩ := hv
      refine .inr ⟨i,⟨v,by simp⟩,rfl,hr,fun j hj => ?_⟩
      simpa [Function.update_of_ne hj,views.note_other hj] using hall j
    · simp only [ht,Option.some.injEq,Prod.mk.injEq] at he
      obtain ⟨rfl,rfl⟩ := he
      refine .inl ⟨rfl,fun j => ?_⟩
      by_cases hj : j=i
      · subst hj; simpa using Stage.raised hrefused
      · simpa [Function.update_of_ne hj,views.note_other hj] using hall j

/-- The thread that holds the lock in the interleaved run is still in front of its
transaction in the atomic one, so neither has ended. -/
lemma same_outcomes {c : Writers ι τ α} (h : OneWriter r args body db (a,views))
    (hb : db.journal.Bounded) (hm : Matches (notOvertaken.given views) c a) (j : ι) :
    a.code j=c.code j ∨
      (∀ v, c.code j≠.ret v) ∧ (∀ e, c.code j≠.raise e) ∧ ∀ v, a.code j≠.ret v := by
  obtain ⟨-,hm⟩ := hm
  rcases hw : c.shared.writing with _ | ⟨i,w⟩
  · rw [hw] at hm
    exact .inl (by rw [hm])
  · rw [hw] at hm
    obtain ⟨hothers,ho,hallowed,hrest⟩ := hm
    by_cases hj : j=i
    · subst hj
      obtain ⟨hdb,-,hall⟩ := h.fresh ho hallowed
      have hsome : ((c.code j).finish a.shared w).isSome := by
        rw [← hrest,hdb]
        rcases (hall j).transact hb ho with ⟨v,hv⟩ | ⟨e,he,-⟩
        · rw [hv]; rfl
        · rw [he]; rfl
      refine .inr ⟨fun v hv => ?_,fun e he => ?_,(hall j).not_ret⟩
      · rw [hv] at hsome; cases hsome
      · rw [he] at hsome; cases hsome
    · exact .inl (hothers j hj)

/-- In both phases no update is lost. -/
lemma noLostUpdate {c : Writers ι τ α} (h : OneWriter r args body db (a,views))
    (hb : db.journal.Bounded) (hm : Matches (notOvertaken.given views) c a) :
    c.NoLostUpdate r args body db := by
  have hret : ∀ j, c.Committed j ↔ ∃ v, a.code j=.ret v := by
    intro j
    rcases h.same_outcomes hb hm j with he | ⟨hc,-,ha⟩
    · rw [Writers.Committed,he]
    · exact ⟨fun ⟨v,hv⟩ => (hc v hv).elim,fun ⟨v,hv⟩ => (ha v hv).elim⟩
  have hraise : ∀ j e, c.code j=.raise e → a.code j=.raise e := by
    intro j e he
    rcases h.same_outcomes hb hm j with heq | ⟨-,hc,-⟩
    · rw [heq,he]
    · exact (hc e he).elim
  have hshared := hm.1
  rcases h with ⟨hdb,hall⟩ | ⟨k,hk,hdb,-,hothers⟩
  · have hnone : ∀ j, ¬ c.Committed j := fun j hj => by
      obtain ⟨v,hv⟩ := (hret j).mp hj
      exact (hall j).not_ret v hv
    exact
      { one_commit := fun i _ hi _ => (hnone i hi).elim
        refused := fun i e he =>
          (hraise i e he ▸ hall i : Stage _ _ _ _ _ (.raise e)).refused_of_raise
        untouched := fun _ => hshared ▸ hdb
        applied := fun i hi => (hnone i hi).elim }
  · have honly : ∀ j, c.Committed j → j=k := fun j hj => by
      by_contra hjk
      obtain ⟨v,hv⟩ := (hret j).mp hj
      exact (hothers j hjk).not_ret v hv
    exact
      { one_commit := fun i j hi hj => (honly i hi).trans (honly j hj).symm
        refused := fun i e he => by
          have hi : i≠k := by
            rintro rfl
            obtain ⟨v,hv⟩ := hk
            rw [hraise i e he] at hv
            cases hv
          exact (hraise i e he ▸ hothers i hi : Stage _ _ _ _ _ (.raise e)).refused_of_raise
        untouched := fun hnone => (hnone k ((hret k).mpr hk)).elim
        applied := fun i hi => by rw [honly i hi,← hshared]; exact hdb }

end OneWriter

/-- `config_write` loses no update in any run in which no writer commits between the check of
another and its first write. -/
theorem config_write_no_lost_update (r : ℤ) (args : ι → WriteArgs) (body : ι → Body τ α)
    (db : ConfigDb τ) (hj : db.journal.Reachable) {c : Writers ι τ α × Views ι (ConfigDb τ)}
    (run : Watched notOvertaken (Writers.start r args body db,fun _ => []) c) :
    c.1.NoLostUpdate r args body db := by
  obtain ⟨a,ha,hm⟩ := (Matches.start _ db _).run run
  have hb := hj.bounded
  have hone : OneWriter r args body db (a,c.2) := by
    refine ha.invariant (I := OneWriter r args body db) OneWriter.start ?_
    rintro i ⟨e,views⟩ ⟨f,views'⟩ he allowed ⟨next,hviews⟩
    obtain rfl : views'=views.note i (e.gathers f i) := hviews
    exact he.step hb allowed next
  exact hone.noLostUpdate hb hm

end Writers

section TwoWriters

/-- A body of one statement. -/
def addRow (row : String) : Body (List String) Unit :=
  .call (.write fun rows => .ok (rows ++ [row])) fun
    | .ok _ => .ret ()
    | .error e => .raise e

/-- Two pages that were loaded at revision 0 and are saved. -/
def twoWriters : Writers Bool (List String) Unit :=
  Writers.start 0 (fun _ => {}) (fun i => addRow (if i then "second" else "first")) ⟨{},[]⟩

/-- The first page is saved before the second one is checked. -/
def oneAfterTheOther : List Bool := List.replicate 7 false ++ List.replicate 2 true

/-- Both checks run before the first write. -/
def checksFirst : List Bool :=
  [false,true] ++ List.replicate 6 false ++ List.replicate 6 true

/-- Whether the revision is still the one that was seen. -/
def atSeenRevision (_ : Bool) (views : List (ConfigDb (List String)))
    (c : Writers Bool (List String) Unit) : Bool :=
  views.all fun v =>
    decide (v.journal.state.revision=c.shared.committed.journal.state.revision)

lemma atSeenRevision_guard (i : Bool) (views : Views Bool (ConfigDb (List String)))
    (c : Writers Bool (List String) Unit) (h : atSeenRevision i (views i) c) :
    notOvertaken.step i (c,views) := by
  intro _
  have hall : ∀ v ∈ views i, v.journal.state.revision=c.shared.committed.journal.state.revision :=
    fun v hv => of_decide_eq_true (List.all_eq_true.mp h v hv)
  unfold ViewGuard.given notOvertaken
  split
  · exact hall
  · exact hall
  · trivial

theorem config_write_no_lost_update_sequential :
    ∃ c : Writers Bool (List String) Unit,
      c.Committed false ∧ c.code true=.raise (.configRevisionConflict 0 1) ∧
      c.NoLostUpdate 0 (fun _ => {}) (fun i => addRow (if i then "second" else "first"))
        ⟨{},[]⟩ := by
  have hend : (watch atSeenRevision oneAfterTheOther (twoWriters,fun _ => [])).isSome := rfl
  have hrun := watch_run atSeenRevision_guard (Option.some_get hend).symm
  exact ⟨_,⟨(),rfl⟩,rfl,config_write_no_lost_update 0 _ _ ⟨{},[]⟩ .initial hrun⟩

/-- Where both checks run before the first write, both writers commit: the second one is
never refused. -/
theorem config_write_loses_update :
    ¬ ∀ c : Writers Bool (List String) Unit,
      Run (Config.Step Database.serve) anyStep twoWriters c →
      c.NoLostUpdate 0 (fun _ => {}) (fun i => addRow (if i then "second" else "first"))
        ⟨{},[]⟩ := by
  intro h
  have hexec : (Config.exec Database.serve (fun _ _ => true) checksFirst twoWriters).isSome :=
    rfl
  have hrun : Run (Config.Step Database.serve) anyStep twoWriters _ :=
    (Config.exec_run (Option.some_get hexec).symm).mono fun _ _ _ => trivial
  have hone := (h _ hrun).one_commit false true ⟨(),rfl⟩ ⟨(),rfl⟩
  cases hone

end TwoWriters
end ZenControl
