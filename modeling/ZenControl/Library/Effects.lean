import ZenControl.Library.Views

/-! What the transactions of a program do to the committed state. A program is described by
one relation that all of its transactions meet, given what it has seen before; the invariants of
interleaved runs then follow from the relations alone. -/
namespace Calls
namespace Prog
variable {σ ε α β : Type}

/-- A statement that cannot fail, with the rest of the program. -/
def update (f : σ → σ) (k : σ → SqlProg σ ε α) : SqlProg σ ε α :=
  write (fun s => .ok (f s)) k

/-- A block that takes the write lock before it reads. -/
def immediately (body : SqlProg σ ε α) : SqlProg σ ε α :=
  withDb (.call .immediate fun
    | .ok _ => body
    | .error e => .raise e)

@[simp] lemma update_run (f : σ → σ) (k : σ → SqlProg σ ε α) (w : σ) :
    (update f k).run inTransaction w=(k (f w)).run inTransaction (f w) := rfl

lemma Plain.update {f : σ → σ} {k : σ → SqlProg σ ε α} (h : ∀ s, (k s).Plain) :
    (update f k).Plain := Plain.write h

lemma Plain.ite {c : Prop} [Decidable c] {p q : SqlProg σ ε α} (hp : p.Plain) (hq : q.Plain) :
    (if c then p else q).Plain := by
  split_ifs
  · exact hp
  · exact hq

/-- Every transaction that the program still makes comes to its end and relates the committed
states before and after it by `R`, together with what the program has seen until then. -/
inductive Maintains (R : List σ → σ → σ → Prop) : List σ → SqlProg σ ε α → Prop
  | intro {views : List σ} {p : SqlProg σ ε α}
      (read : ∀ k, p=.call .select k → ∀ s, Maintains R (s :: views) (k (.ok s)))
      (commit : ∀ k, p=.call .commit k → Maintains R views (k (.ok ())))
      (rollback : ∀ k, p=.call .rollback k → Maintains R views (k (.ok ())))
      (ends : p.Opens → ∀ s, (p.transact s).isSome)
      (effect : ∀ s s' q, p.transact s=some (s',q) → R views s s')
      (next : ∀ s s' q, p.transact s=some (s',q) → Maintains R (s' :: views) q) :
      Maintains R views p

namespace Maintains
variable {R : List σ → σ → σ → Prop} {views : List σ}

lemma ret (a : α) : Maintains R views (.ret a : SqlProg σ ε α) :=
  .intro (by simp) (by simp) (by simp) False.elim (by simp [transact]) (by simp [transact])

lemma raise (e : ε) : Maintains R views (.raise e : SqlProg σ ε α) :=
  .intro (by simp) (by simp) (by simp) False.elim (by simp [transact]) (by simp [transact])

lemma call_select {k : Except ε σ → SqlProg σ ε α}
    (h : ∀ s, Maintains R (s :: views) (k (.ok s))) : Maintains R views (.call .select k) :=
  .intro (by rintro k' ⟨⟩; exact h) (by simp) (by simp) False.elim (by simp [transact])
    (by simp [transact])

lemma call_commit {k : Except ε Unit → SqlProg σ ε α} (h : Maintains R views (k (.ok ()))) :
    Maintains R views (.call .commit k) :=
  .intro (by simp) (by rintro k' ⟨⟩; exact h) (by simp) False.elim (by simp [transact])
    (by simp [transact])

lemma call_rollback {k : Except ε Unit → SqlProg σ ε α} (h : Maintains R views (k (.ok ()))) :
    Maintains R views (.call .rollback k) :=
  .intro (by simp) (by simp) (by rintro k' ⟨⟩; exact h) False.elim (by simp [transact])
    (by simp [transact])

lemma opening {p : SqlProg σ ε α} (hp : p.Opens)
    (h : ∀ s, ∃ s' q, p.transact s=some (s',q) ∧ R views s s' ∧ Maintains R (s' :: views) q) :
    Maintains R views p := by
  refine .intro ?_ ?_ ?_ (fun _ s => ?_) (fun s s' q hs => ?_) (fun s s' q hs => ?_)
  · rintro k rfl; exact hp.elim
  · rintro k rfl; exact hp.elim
  · rintro k rfl; exact hp.elim
  · obtain ⟨s',q,hs,-,-⟩ := h s
    rw [hs]; rfl
  · obtain ⟨t,r,ht,hr,-⟩ := h s
    rw [ht] at hs; cases hs; exact hr
  · obtain ⟨t,r,ht,-,hm⟩ := h s
    rw [ht] at hs; cases hs; exact hm

/-- A block that only raised, or only read, changes nothing. -/
lemma withDb_ret (a : α) : Maintains R views (withDb (.ret a) : SqlProg σ ε α) := by
  rw [Prog.withDb_ret]
  exact call_commit (ret a)

lemma withDb_raise (e : ε) : Maintains R views (withDb (.raise e) : SqlProg σ ε α) := by
  rw [Prog.withDb_raise]
  exact call_rollback (raise e)

lemma withDb_select {k : σ → SqlProg σ ε α} (h : ∀ s, Maintains R (s :: views) (withDb (k s))) :
    Maintains R views (withDb (Prog.select k)) := call_select h

/-- The effect of a block that writes is that of its body, when it returns. -/
lemma withDb_opening {p : SqlProg σ ε α} (hp : p.Plain) (ho : p.Opens)
    (refl : ∀ s, R views s s)
    (h : ∀ s a s', p.run inTransaction s=(.ok a,s') → R views s s') :
    Maintains R views (withDb p) := by
  have hopens : (withDb p).Opens := by
    match p,ho with
    | .call (.write f) k,_ => trivial
    | .call .immediate k,_ => trivial
  refine opening hopens fun s => ?_
  rw [transact_withDb s hp ho]
  rcases hrun : p.run inTransaction s with ⟨e | a,s'⟩
  · exact ⟨s,_,rfl,refl s,raise e⟩
  · exact ⟨s',_,rfl,h s a s' hrun,ret a⟩

/-- So is that of a block that begins with the lock. -/
lemma immediately {p : SqlProg σ ε α} (hp : p.Plain) (refl : ∀ s, R views s s)
    (h : ∀ s a s', p.run inTransaction s=(.ok a,s') → R views s s') :
    Maintains R views (immediately p) := by
  refine opening trivial fun s => ?_
  rw [Prog.immediately,transact_immediate s hp]
  rcases hrun : p.run inTransaction s with ⟨e | a,s'⟩
  · exact ⟨s,_,rfl,refl s,raise e⟩
  · exact ⟨s',_,rfl,h s a s' hrun,ret a⟩

end Maintains

/-- A transaction that ends inside `p` ends in the same state when `p` goes on with `f`. -/
lemma finish_bind {base w s : σ} {p q : SqlProg σ ε α} (f : α → SqlProg σ ε β)
    (h : p.finish base w=some (s,q)) : (p.bind f).finish base w=some (s,q.bind f) := by
  induction p generalizing w with
  | ret a => cases h
  | raise e => cases h
  | call c k ih =>
    cases c with
    | select => exact ih _ h
    | write g =>
      simp only [call_bind,finish] at h ⊢
      cases hg : g w with
      | ok w' => rw [hg] at h; exact ih _ h
      | error e => rw [hg] at h; exact ih _ h
    | immediate => cases h
    | commit => cases h; rfl
    | rollback => cases h; rfl

lemma transact_bind {s s' : σ} {p q : SqlProg σ ε α} (f : α → SqlProg σ ε β)
    (h : p.transact s=some (s',q)) : (p.bind f).transact s=some (s',q.bind f) := by
  match p with
  | .ret _ => cases h
  | .raise _ => cases h
  | .call .select _ => cases h
  | .call (.write _) _ => exact finish_bind f h
  | .call .immediate _ => exact finish_bind f h
  | .call .commit _ => cases h
  | .call .rollback _ => cases h

/-- Blocks in sequence; the second may follow whatever the first has seen. -/
theorem Maintains.bind {R : List σ → σ → σ → Prop} {views : List σ} {p : SqlProg σ ε α}
    {f : α → SqlProg σ ε β} (hp : Maintains R views p) (hf : ∀ a views, Maintains R views (f a)) :
    Maintains R views (p.bind f) := by
  induction hp with
  | @intro views p read commit rollback ends effect next ihread ihcommit ihrollback ihnext =>
    match p with
    | .ret a => exact hf a views
    | .raise e => exact Maintains.raise e
    | .call .select k => exact call_select fun s => ihread k rfl s
    | .call .commit k => exact call_commit (ihcommit k rfl)
    | .call .rollback k => exact call_rollback (ihrollback k rfl)
    | .call (.write g) k =>
      refine opening trivial fun s => ?_
      obtain ⟨⟨s',q⟩,hs⟩ := Option.isSome_iff_exists.mp (ends trivial s)
      exact ⟨s',q.bind f,transact_bind f hs,effect s s' q hs,ihnext s s' q hs⟩
    | .call .immediate k =>
      refine opening trivial fun s => ?_
      obtain ⟨⟨s',q⟩,hs⟩ := Option.isSome_iff_exists.mp (ends trivial s)
      exact ⟨s',q.bind f,transact_bind f hs,effect s s' q hs,ihnext s s' q hs⟩

end Prog

section Interleaved
variable {ι σ ε α : Type} [DecidableEq ι] {R : ι → List σ → σ → σ → Prop}
  {guard : ViewGuard ι σ ε α}

/-- A point of a watched run: the committed state is that of an atomic run in which every thread
still makes only transactions of its relation. -/
def Described (guard : ViewGuard ι σ ε α) (R : ι → List σ → σ → σ → Prop)
    (c : Config ι (Sql σ ε) Sql.Answer ε α (Database ι σ) × Views ι σ) : Prop :=
  ∃ a, Matches (guard.given c.2) c.1 a ∧ ∀ i, (a.code i).Maintains (R i) (c.2 i)

omit [DecidableEq ι] in
lemma Described.start {s : σ} {code : ι → SqlProg σ ε α} {views : Views ι σ}
    (h : ∀ i, (code i).Maintains (R i) (views i)) :
    Described guard R (⟨⟨s,none⟩,code⟩,views) :=
  ⟨_,Matches.start _ s code,h⟩

lemma AtomicStep.maintains {i : ι} {a b : Config ι (Sql σ ε) Sql.Answer ε α σ} {views : Views ι σ}
    (h : AtomicStep i a b) (codes : ∀ j, (a.code j).Maintains (R j) (views j)) :
    (b.shared=a.shared ∨ (a.code i).Opens ∧ R i (views i) a.shared b.shared) ∧
      ∀ j, (b.code j).Maintains (R j) (views.note i (a.gathers b i) j) := by
  have moved : ∀ {code : ι → SqlProg σ ε α} {p : SqlProg σ ε α} {seen : Option σ},
      (∀ j, (code j).Maintains (R j) (views j)) → p.Maintains (R i) (views.note i seen i) →
      ∀ j, (Function.update code i p j).Maintains (R j) (views.note i seen j) := by
    intro code p seen hcodes hp j
    by_cases hj : j=i
    · subst hj; simpa using hp
    · simpa [Function.update_of_ne hj,views.note_other hj] using hcodes j
  cases h with
  | @read s code k hc =>
    refine ⟨.inl rfl,?_⟩
    simp only [Config.gathers,hc]
    obtain ⟨read,_,_,_,_,_⟩ := codes i
    refine moved codes ?_
    rw [Views.note_some_self]
    exact read k hc s
  | @commit s code k hc =>
    refine ⟨.inl rfl,?_⟩
    simp only [Config.gathers,hc]
    obtain ⟨_,commit,_,_,_,_⟩ := codes i
    refine moved codes ?_
    rw [Views.note_none]
    exact commit k hc
  | @rollback s code k hc =>
    refine ⟨.inl rfl,?_⟩
    simp only [Config.gathers,hc]
    obtain ⟨_,_,rollback,_,_,_⟩ := codes i
    refine moved codes ?_
    rw [Views.note_none]
    exact rollback k hc
  | @transact s s' code p ho ht =>
    obtain ⟨_,_,_,_,effect,next⟩ := codes i
    refine ⟨.inr ⟨ho,effect s s' p ht⟩,?_⟩
    rw [Config.gathers_of_opens ho]
    refine moved codes ?_
    rw [Views.note_some_self]
    exact next s s' p ht

/-- What every allowed transaction keeps is kept by every watched run. -/
theorem Described.run {I : σ → Prop}
    {c d : Config ι (Sql σ ε) Sql.Answer ε α (Database ι σ) × Views ι σ}
    (keep : ∀ i views p s s', p.Opens → guard i views p s → R i views s s' → I s → I s')
    (h : Described guard R c) (hI : I c.1.shared.committed) (run : Watched guard c d) :
    Described guard R d ∧ I d.1.shared.committed := by
  obtain ⟨a,hm,codes⟩ := h
  obtain ⟨b,hab,hmb⟩ := hm.run run
  have hkeep : (∀ i, (b.code i).Maintains (R i) (d.2 i)) ∧ I b.shared := by
    refine hab.invariant (I := fun e => (∀ i, (e.1.code i).Maintains (R i) (e.2 i)) ∧ I e.1.shared)
      ⟨codes,hm.1 ▸ hI⟩ ?_
    rintro i ⟨e,views⟩ ⟨f,views'⟩ ⟨he,hIe⟩ allowed ⟨next,hviews⟩
    obtain ⟨hshared,hf⟩ := next.maintains he
    obtain rfl : views'=views.note i (e.gathers f i) := hviews
    refine ⟨hf,?_⟩
    rcases hshared with hs | ⟨ho,hR⟩
    · exact hs ▸ hIe
    · exact keep i _ _ _ _ ho allowed hR hIe
  exact ⟨⟨b,hmb,hkeep.1⟩,hmb.1 ▸ hkeep.2⟩

end Interleaved
end Calls
