import ZenControl.Library.Rely

/-! Histories of commits. A run of interleaved threads is recorded with the threads that have
committed, in their order, and with what the first statement of each thread has seen. What each
thread commits, from the state on which its transaction began, decides what such a history tells
about the committed state. -/
namespace Calls
namespace Prog
variable {σ ε α β : Type}

/-- Each transaction that the program still commits relates the state on which it began and the
state that it publishes by `R`, if its opening write is allowed; the open transaction is given by
those two states. -/
def Commits (G : Allows σ ε) (R : σ → σ → Prop) :
    SqlProg σ ε α → Option (σ × σ) → Prop
  | .ret _, tx => tx=none
  | .raise _, tx => tx=none
  | .call .select k, none => ∀ s, Commits G R (k (.ok s)) none
  | .call .select k, some (b,w) => Commits G R (k (.ok w)) (some (b,w))
  | .call (.write f) k, none => ∀ s, G f s →
      (∀ w, f s=.ok w → Commits G R (k (.ok w)) (some (s,w))) ∧
        ∀ e, f s=.error e → Commits G R (k (.error e)) (some (s,s))
  | .call (.write f) k, some (b,w) =>
      (∀ w', f w=.ok w' → Commits G R (k (.ok w')) (some (b,w'))) ∧
        ∀ e, f w=.error e → Commits G R (k (.error e)) (some (b,w))
  | .call .immediate k, none => ∀ s, Commits G R (k (.ok ())) (some (s,s))
  | .call .immediate _, some _ => False
  | .call .commit k, none => Commits G R (k (.ok ())) none
  | .call .commit k, some (b,w) => R b w ∧ Commits G R (k (.ok ())) none
  | .call .rollback k, _ => Commits G R (k (.ok ())) none

section Rules
variable {G : Allows σ ε} {R : σ → σ → Prop} {tx : Option (σ × σ)}

/-- Programs in sequence. -/
theorem commits_bind {p : SqlProg σ ε α} {f : α → SqlProg σ ε β} (hp : p.Commits G R tx)
    (hf : ∀ a, (f a).Commits G R none) : (p.bind f).Commits G R tx := by
  induction p generalizing tx with
  | ret a =>
    obtain rfl : tx=none := hp
    exact hf a
  | raise e => exact hp
  | call c k ih =>
    cases c with
    | select =>
      cases tx with
      | none => exact fun s => ih _ (hp s)
      | some tx => exact ih _ hp
    | write g =>
      cases tx with
      | none => exact fun s hs => ⟨fun w hw => ih _ ((hp s hs).1 w hw),
          fun e he => ih _ ((hp s hs).2 e he)⟩
      | some tx => exact ⟨fun w hw => ih _ (hp.1 w hw),fun e he => ih _ (hp.2 e he)⟩
    | immediate =>
      cases tx with
      | none => exact fun s => ih _ (hp s)
      | some tx => exact hp
    | commit =>
      cases tx with
      | none => exact ih _ hp
      | some tx => exact ⟨hp.1,ih _ hp.2⟩
    | rollback => exact ih _ hp

/-- A program with a handler. -/
theorem commits_rescue {p : SqlProg σ ε α} {handler : ε → SqlProg σ ε α} (hp : p.Commits G R tx)
    (hh : ∀ e, (handler e).Commits G R none) : (p.rescue handler).Commits G R tx := by
  induction p generalizing tx with
  | ret a => exact hp
  | raise e =>
    obtain rfl : tx=none := hp
    exact hh e
  | call c k ih =>
    cases c with
    | select =>
      cases tx with
      | none => exact fun s => ih _ (hp s)
      | some tx => exact ih _ hp
    | write g =>
      cases tx with
      | none => exact fun s hs => ⟨fun w hw => ih _ ((hp s hs).1 w hw),
          fun e he => ih _ ((hp s hs).2 e he)⟩
      | some tx => exact ⟨fun w hw => ih _ (hp.1 w hw),fun e he => ih _ (hp.2 e he)⟩
    | immediate =>
      cases tx with
      | none => exact fun s => ih _ (hp s)
      | some tx => exact hp
    | commit =>
      cases tx with
      | none => exact ih _ hp
      | some tx => exact ⟨hp.1,ih _ hp.2⟩
    | rollback => exact ih _ hp

/-- A block inside its transaction publishes what its body leaves, if the body returns. -/
lemma commits_withDb_inside {p : SqlProg σ ε α} (hp : p.Plain) {b w : σ}
    (h : ∀ a w', p.run inTransaction w=(.ok a,w') → R b w') :
    (withDb p).Commits G R (some (b,w)) := by
  induction p generalizing w with
  | ret a =>
    rw [withDb_ret]
    exact ⟨h a w rfl,rfl⟩
  | raise e =>
    rw [withDb_raise]
    exact rfl
  | call c k ih =>
    cases c with
    | select => exact ih _ (hp _) h
    | write f =>
      refine ⟨fun w' hw => ih _ (hp _) fun a t hrun => ?_,fun e he => ih _ (hp _) fun a t hrun => ?_⟩
      · exact h a t (by rw [run_call,inTransaction,hw]; exact hrun)
      · exact h a t (by rw [run_call,inTransaction,he]; exact hrun)
    | immediate => exact hp.elim
    | commit => exact hp.elim
    | rollback => exact hp.elim

lemma commits_withDb_raise (e : ε) : (withDb (.raise e) : SqlProg σ ε α).Commits G R none := by
  rw [withDb_raise]
  exact rfl

/-- A block whose next statement is its first write. -/
lemma commits_withDb_write {f : σ → Except ε σ} {k : Except ε σ → SqlProg σ ε α}
    (hk : (call (.write f) k : SqlProg σ ε α).Plain)
    (h : ∀ s a w, G f s → (call (.write f) k).run inTransaction s=(.ok a,w) → R s w) :
    (withDb (.call (.write f) k)).Commits G R none := by
  refine fun s hs => ⟨fun w hw => ?_,fun e he => ?_⟩
  · refine commits_withDb_inside (hk _) fun a w' hrun => h s a w' hs ?_
    rw [run_call,inTransaction,hw]
    exact hrun
  · refine commits_withDb_inside (hk _) fun a w' hrun => h s a w' hs ?_
    rw [run_call,inTransaction,he]
    exact hrun

end Rules
end Prog

section History
variable {ι σ ε α : Type} [DecidableEq ι]

/-- What a thread saw with its first statement, recorded with each of its statements. -/
def noted (g : Database ι σ) (seen : ι → Option σ) (i : ι) : ι → Option σ :=
  Function.update seen i (some ((seen i).getD (g.view i)))

/-- The next statement of a thread publishes its transaction. -/
def Publishes (c : Config ι (Sql σ ε) Sql.Answer ε α (Database ι σ)) (i : ι) : Bool :=
  match c.code i with
  | .call .commit _ => (c.shared.transaction i).isSome
  | _ => false

/-- A run with what the threads saw first and the threads that committed. -/
inductive History (ok : ι → Config ι (Sql σ ε) Sql.Answer ε α (Database ι σ) → Option σ → Prop)
    (start : Config ι (Sql σ ε) Sql.Answer ε α (Database ι σ)) :
    Config ι (Sql σ ε) Sql.Answer ε α (Database ι σ) → (ι → Option σ) → List ι → Prop
  | refl : History ok start start (fun _ => none) []
  | step {c d : Config ι (Sql σ ε) Sql.Answer ε α (Database ι σ)} {seen : ι → Option σ}
      {log : List ι} {i : ι} (h : History ok start c seen log) (allowed : ok i c (seen i))
      (next : Config.Step Database.serve i c d) :
      History ok start d (noted c.shared seen i) (log ++ if Publishes c i then [i] else [])

section Steps
variable {g g' : Database ι σ} {i j : ι} {G : Prog.Allows σ ε} {R : σ → σ → Prop}

/-- A statement leaves the transactions of the other threads alone. -/
lemma Database.serve_others (hij : j≠i) {c : Sql σ ε} {r : Except ε c.Answer}
    (hs : Database.serve i c g=some (r,g')) : g'.transaction j=g.transaction j := by
  obtain ⟨db,writing⟩ := g
  cases c with
  | select => cases hs; rfl
  | write f =>
    rcases writing with _ | ⟨l,w⟩
    · simp only [Database.serve,Database.base] at hs
      cases hf : f db <;> rw [hf] at hs <;> cases hs <;>
        simp [Database.transaction,Ne.symm hij]
    · by_cases hl : l=i
      · simp only [Database.serve,Database.base,if_pos hl] at hs
        cases hf : f w <;> rw [hf] at hs <;> cases hs <;>
          simp [Database.transaction,hl,Ne.symm hij]
      · simp [Database.serve,Database.base,hl] at hs
  | immediate =>
    rcases writing with _ | ⟨l,w⟩
    · cases hs
      simp [Database.transaction,Ne.symm hij]
    · cases hs
  | commit =>
    cases hs
    rcases writing with _ | ⟨l,w⟩
    · rfl
    · by_cases hl : l=i <;> simp [Database.commit,Database.transaction,hl,Ne.symm hij]
  | rollback =>
    cases hs
    rcases writing with _ | ⟨l,w⟩
    · rfl
    · by_cases hl : l=i <;> simp [Database.rollback,Database.transaction,hl,Ne.symm hij]

/-- A statement of a thread whose program commits only what it may. -/
lemma Database.serve_commits {c : Sql σ ε} {k : Except ε c.Answer → SqlProg σ ε α}
    {r : Except ε c.Answer} (hp : (Prog.call c k).Commits G R (g.transaction i))
    (allowed : g.writing=none → (Prog.call c k).Allowed G g.committed)
    (hs : Database.serve i c g=some (r,g')) :
    (k r).Commits G R (g'.transaction i) ∧
      ((c=.commit ∧ (g.transaction i).isSome ∧ R g.committed g'.committed) ∨
        (¬(c=.commit ∧ (g.transaction i).isSome) ∧ g'.committed=g.committed)) := by
  obtain ⟨db,writing⟩ := g
  cases c with
  | select =>
    cases hs
    refine ⟨?_,.inr ⟨fun h => (by cases h.1),rfl⟩⟩
    rcases writing with _ | ⟨l,w⟩
    · exact hp db
    · by_cases hl : l=i
      · simpa [Database.transaction,Database.view,Database.base,hl,Prog.Commits] using hp
      · simp only [Database.transaction,Database.view,Database.base,if_neg hl,
          Option.getD_none] at hp ⊢
        exact hp db
  | write f =>
    rcases writing with _ | ⟨l,w⟩
    · have hwrite := hp db (allowed rfl)
      simp only [Database.serve,Database.base] at hs
      cases hf : f db with
      | ok w' =>
        rw [hf] at hs
        cases hs
        refine ⟨?_,.inr ⟨fun h => (by cases h.1),rfl⟩⟩
        simpa [Database.transaction] using hwrite.1 w' hf
      | error e =>
        rw [hf] at hs
        cases hs
        refine ⟨?_,.inr ⟨fun h => (by cases h.1),rfl⟩⟩
        simpa [Database.transaction] using hwrite.2 e hf
    · by_cases hl : l=i
      · simp only [Database.transaction,if_pos hl] at hp
        simp only [Database.serve,Database.base,if_pos hl] at hs
        cases hf : f w with
        | ok w' =>
          rw [hf] at hs
          cases hs
          refine ⟨?_,.inr ⟨fun h => (by cases h.1),rfl⟩⟩
          simpa [Database.transaction] using hp.1 w' hf
        | error e =>
          rw [hf] at hs
          cases hs
          refine ⟨?_,.inr ⟨fun h => (by cases h.1),rfl⟩⟩
          simpa [Database.transaction] using hp.2 e hf
      · simp [Database.serve,Database.base,hl] at hs
  | immediate =>
    rcases writing with _ | ⟨l,w⟩
    · cases hs
      refine ⟨?_,.inr ⟨fun h => (by cases h.1),rfl⟩⟩
      simpa [Database.transaction] using hp db
    · cases hs
  | commit =>
    cases hs
    rcases writing with _ | ⟨l,w⟩
    · exact ⟨hp,.inr ⟨fun h => (by cases h.2),rfl⟩⟩
    · by_cases hl : l=i
      · simp only [Database.transaction,if_pos hl] at hp
        simp only [Database.commit,Database.transaction,if_pos hl]
        exact ⟨hp.2,.inl ⟨trivial,rfl,hp.1⟩⟩
      · simp only [Database.transaction,if_neg hl] at hp
        simp only [Database.commit,Database.transaction,if_neg hl]
        exact ⟨hp,.inr ⟨fun h => (by cases h.2),trivial⟩⟩
  | rollback =>
    cases hs
    rcases writing with _ | ⟨l,w⟩
    · exact ⟨hp,.inr ⟨fun h => (by cases h.1),rfl⟩⟩
    · by_cases hl : l=i
      · simp only [Database.transaction,if_pos hl] at hp
        simp only [Database.rollback,Database.transaction,if_pos hl]
        exact ⟨hp,.inr ⟨fun h => (by cases h.1),trivial⟩⟩
      · simp only [Database.transaction,if_neg hl] at hp
        simp only [Database.rollback,Database.transaction,if_neg hl]
        exact ⟨hp,.inr ⟨fun h => (by cases h.1),trivial⟩⟩

end Steps

section Describes
variable {P : List ι → σ → Prop} {G : ι → σ → Prog.Allows σ ε} {R : ι → σ → σ → σ → Prop}
  {start c : Config ι (Sql σ ε) Sql.Answer ε α (Database ι σ)} {seen : ι → Option σ}
  {log : List ι}

/-- The writes that open transactions are allowed, by what their threads saw first. -/
def Guarded (G : ι → σ → Prog.Allows σ ε) (i : ι)
    (c : Config ι (Sql σ ε) Sql.Answer ε α (Database ι σ)) (seen : Option σ) : Prop :=
  c.shared.writing=none → ∀ s, seen=some s → (c.code i).Allowed (G i s) c.shared.committed

/-- The first statement of a program is a query, and decides what it commits. -/
def FirstReads (G : σ → Prog.Allows σ ε) (R : σ → σ → σ → Prop) : SqlProg σ ε α → Prop
  | .ret _ => True
  | .raise _ => True
  | .call .select k => ∀ s, (k (.ok s)).Commits (G s) (R s) none
  | .call _ _ => False

/-- What the commits do from state to state, the log tells about the committed state. -/
theorem History.describes (idle : start.shared.writing=none)
    (codes : ∀ i, FirstReads (G i) (R i) (start.code i))
    (initial : P [] start.shared.committed)
    (keep : ∀ log i s b w, P log b → R i s b w → P (log ++ [i]) w)
    (h : History (Guarded G) start c seen log) : P log c.shared.committed := by
  suffices hall : P log c.shared.committed ∧ ∀ i,
      (seen i=none ∧ c.code i=start.code i ∧ c.shared.transaction i=none) ∨
        ∃ s, seen i=some s ∧ (c.code i).Commits (G i s) (R i s) (c.shared.transaction i) from
    hall.1
  induction h with
  | refl =>
    refine ⟨initial,fun i => .inl ⟨rfl,rfl,?_⟩⟩
    rw [Database.transaction,idle]
  | @step c d seen log i _ allowed next ih =>
    obtain ⟨hlog,hthreads⟩ := ih
    obtain ⟨call,k,r,g',hcode,hserve,rfl⟩ := next.inv
    have hothers (j : ι) (hj : j≠i) :
        (noted c.shared seen i j=none ∧ Function.update c.code i (k r) j=start.code j ∧
          g'.transaction j=none) ∨ ∃ s, noted c.shared seen i j=some s ∧
            (Function.update c.code i (k r) j).Commits (G j s) (R j s) (g'.transaction j) := by
      simp only [noted,Function.update_of_ne hj,Database.serve_others hj hserve]
      exact hthreads j
    rcases hthreads i with ⟨hnone,hfirst,htx⟩ | ⟨s,hsome,hcommits⟩
    · -- the first statement of the thread is its query
      have hstart : start.code i=.call call k := hfirst ▸ hcode
      have hreads := codes i
      rw [hstart] at hreads
      obtain rfl : call=.select := by
        cases call with
        | select => rfl
        | _ => exact hreads.elim
      cases hserve
      have hview : c.shared.view i=c.shared.committed := by
        obtain ⟨⟨db,writing⟩,code⟩ := c
        rcases writing with _ | ⟨l,w⟩
        · rfl
        · by_cases hl : l=i
          · simp [Database.transaction,hl] at htx
          · simp [Database.view,Database.base,hl]
      have hpublishes : Publishes c i=false := by rw [Publishes,hcode]
      rw [hpublishes,if_neg Bool.false_ne_true,List.append_nil]
      refine ⟨hlog,fun j => ?_⟩
      by_cases hj : j=i
      · subst hj
        refine .inr ⟨c.shared.committed,?_,?_⟩
        · simp [noted,hnone,hview]
        · simp only [Function.update_self,htx,hview]
          exact hreads _
      · exact hothers j hj
    · rw [hcode] at hcommits
      obtain ⟨hnext,hshared⟩ := Database.serve_commits hcommits
        (fun hidle => hcode ▸ allowed hidle s hsome) hserve
      have hthread (j : ι) : (noted c.shared seen i j=none ∧
          Function.update c.code i (k r) j=start.code j ∧ g'.transaction j=none) ∨
            ∃ s, noted c.shared seen i j=some s ∧
              (Function.update c.code i (k r) j).Commits (G j s) (R j s) (g'.transaction j) := by
        by_cases hj : j=i
        · subst hj
          exact .inr ⟨s,by simp [noted,hsome],by simpa using hnext⟩
        · exact hothers j hj
      refine ⟨?_,hthread⟩
      rcases hshared with ⟨rfl,hopen,hR⟩ | ⟨hnot,hsame⟩
      · have hpublishes : Publishes c i=true := by simp only [Publishes,hcode,hopen]
        rw [hpublishes,if_pos rfl]
        exact keep _ _ _ _ _ hlog hR
      · have hpublishes : Publishes c i=false := by
          unfold Publishes
          rw [hcode]
          cases call with
          | commit => simpa using hnot
          | _ => rfl
        rw [hpublishes,if_neg Bool.false_ne_true,List.append_nil]
        exact hsame ▸ hlog

end Describes

section Replay

/-- Let the threads of a schedule make their next statements in turn, with the record; there is no
result when one of them has ended, has to wait or fails the check `ok`. -/
def replay (ok : ι → Config ι (Sql σ ε) Sql.Answer ε α (Database ι σ) → Option σ → Bool) :
    List ι → Config ι (Sql σ ε) Sql.Answer ε α (Database ι σ) → (ι → Option σ) →
    List ι → Option (Config ι (Sql σ ε) Sql.Answer ε α (Database ι σ) × List ι)
  | [], c, _, log => some (c,log)
  | i::is, c, seen, log =>
    match ok i c (seen i), c.code i with
    | true, .call stmt k =>
      match Database.serve i stmt c.shared with
      | none => none
      | some (r,g) => replay ok is ⟨g,Function.update c.code i (k r)⟩ (noted c.shared seen i)
          (log ++ if Publishes c i then [i] else [])
    | _, _ => none

/-- A schedule that can be replayed is a history. -/
theorem replay_history
    {ok : ι → Config ι (Sql σ ε) Sql.Answer ε α (Database ι σ) → Option σ → Bool}
    {start c : Config ι (Sql σ ε) Sql.Answer ε α (Database ι σ)} {is log : List ι}
    {seen : ι → Option σ} {ended : Config ι (Sql σ ε) Sql.Answer ε α (Database ι σ) × List ι}
    (h : History (fun i c s => ok i c s) start c seen log)
    (hreplay : replay ok is c seen log=some ended) :
    ∃ seen', History (fun i c s => ok i c s) start ended.1 seen' ended.2 := by
  induction is generalizing c seen log with
  | nil =>
    cases hreplay
    exact ⟨seen,h⟩
  | cons i is ih =>
    simp only [replay] at hreplay
    split at hreplay
    · rename_i stmt k hok hcode
      split at hreplay
      · contradiction
      · rename_i r g hserve
        exact ih (h.step hok (.call hcode hserve)) hreplay
    · contradiction

lemma History.mono {ok ok' : ι → Config ι (Sql σ ε) Sql.Answer ε α (Database ι σ) → Option σ → Prop}
    {start c : Config ι (Sql σ ε) Sql.Answer ε α (Database ι σ)} {seen : ι → Option σ}
    {log : List ι} (h : History ok start c seen log) (hok : ∀ i c s, ok i c s → ok' i c s) :
    History ok' start c seen log := by
  induction h with
  | refl => exact .refl
  | step _ allowed next ih => exact ih.step (hok _ _ _ allowed) next

end Replay

end History
end Calls
