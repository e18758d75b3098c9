import ZenControl.Library.Effects

/-! What a program achieves beside others. A thread is described from the last committed state
that it has seen: whatever the others do from there keeps an invariant and stands in a given
relation to that state, and so does each of its own transactions, when the write that opens it
is allowed after what the thread has seen. -/
namespace Calls
namespace Prog
variable {σ ε α β : Type}

/-- A condition on the write that opens a transaction and the state that it finds. -/
abbrev Allows (σ ε : Type) := (σ → Except ε σ) → σ → Prop

/-- The next statement is no write, or an allowed one. -/
def Allowed (G : Allows σ ε) : SqlProg σ ε α → σ → Prop
  | .call (.write f) _, s => G f s
  | _, _ => True

/-- From the seen state on, each transaction of the program that is allowed after what it has seen
comes to its end and keeps the invariant `I` and the relation `L`, and a result meets `Q`. -/
inductive Meets (I : σ → Prop) (L : σ → σ → Prop) (G : List σ → Allows σ ε) (Q : α → List σ → σ → Prop) :
    List σ → σ → SqlProg σ ε α → Prop
  | intro {views : List σ} {seen : σ} {p : SqlProg σ ε α}
      (done : ∀ a, p=.ret a → ∀ s, I s → L seen s → Q a views s)
      (read : ∀ k, p=.call .select k → ∀ s, I s → L seen s →
        Meets I L G Q (s :: views) s (k (.ok s)))
      (commit : ∀ k, p=.call .commit k → Meets I L G Q views seen (k (.ok ())))
      (rollback : ∀ k, p=.call .rollback k → Meets I L G Q views seen (k (.ok ())))
      (ends : p.Opens → ∀ s, (p.transact s).isSome)
      (effect : ∀ s s' q, I s → L seen s → p.Allowed (G views) s → p.transact s=some (s',q) →
        I s' ∧ L s s')
      (next : ∀ s s' q, I s → L seen s → p.Allowed (G views) s → p.transact s=some (s',q) →
        Meets I L G Q (s' :: views) s' q) : Meets I L G Q views seen p

namespace Meets
variable {I : σ → Prop} {L : σ → σ → Prop} {G : List σ → Allows σ ε} {Q : α → List σ → σ → Prop}
  {views : List σ} {seen : σ}

lemma ret {a : α} (h : ∀ s, I s → L seen s → Q a views s) :
    Meets I L G Q views seen (.ret a : SqlProg σ ε α) :=
  .intro (by rintro a' ⟨⟩; exact h) (by simp) (by simp) (by simp) False.elim
    (by simp [transact]) (by simp [transact])

lemma raise (e : ε) : Meets I L G Q views seen (.raise e : SqlProg σ ε α) :=
  .intro (by simp) (by simp) (by simp) (by simp) False.elim (by simp [transact])
    (by simp [transact])

lemma call_select {k : Except ε σ → SqlProg σ ε α}
    (h : ∀ s, I s → L seen s → Meets I L G Q (s :: views) s (k (.ok s))) :
    Meets I L G Q views seen (.call .select k) :=
  .intro (by simp) (by rintro k' ⟨⟩; exact h) (by simp) (by simp) False.elim
    (by simp [transact]) (by simp [transact])

lemma call_commit {k : Except ε Unit → SqlProg σ ε α} (h : Meets I L G Q views seen (k (.ok ()))) :
    Meets I L G Q views seen (.call .commit k) :=
  .intro (by simp) (by simp) (by rintro k' ⟨⟩; exact h) (by simp) False.elim
    (by simp [transact]) (by simp [transact])

lemma call_rollback {k : Except ε Unit → SqlProg σ ε α} (h : Meets I L G Q views seen (k (.ok ()))) :
    Meets I L G Q views seen (.call .rollback k) :=
  .intro (by simp) (by simp) (by simp) (by rintro k' ⟨⟩; exact h) False.elim
    (by simp [transact]) (by simp [transact])

lemma opening {p : SqlProg σ ε α} (hp : p.Opens) (ends : ∀ s, (p.transact s).isSome)
    (h : ∀ s s' q, I s → L seen s → p.Allowed (G views) s → p.transact s=some (s',q) →
      I s' ∧ L s s' ∧ Meets I L G Q (s' :: views) s' q) : Meets I L G Q views seen p := by
  refine .intro ?_ ?_ ?_ ?_ (fun _ => ends) (fun s s' q hI hL hG hs => ?_)
    fun s s' q hI hL hG hs => (h s s' q hI hL hG hs).2.2
  · rintro a rfl; exact hp.elim
  · rintro k rfl; exact hp.elim
  · rintro k rfl; exact hp.elim
  · rintro k rfl; exact hp.elim
  · obtain ⟨hI',hL',-⟩ := h s s' q hI hL hG hs
    exact ⟨hI',hL'⟩

/-- A block that reads on, with the state that the query has seen. -/
lemma withDb_select {k : σ → SqlProg σ ε α}
    (h : ∀ s, I s → L seen s → Meets I L G Q (s :: views) s (withDb (k s))) :
    Meets I L G Q views seen (withDb (Prog.select k)) := call_select h

/-- A block that has only read. -/
lemma withDb_ret {a : α} (h : ∀ s, I s → L seen s → Q a views s) :
    Meets I L G Q views seen (withDb (.ret a) : SqlProg σ ε α) := by
  rw [Prog.withDb_ret]
  exact call_commit (ret h)

lemma withDb_raise (e : ε) : Meets I L G Q views seen (withDb (.raise e) : SqlProg σ ε α) := by
  rw [Prog.withDb_raise]
  exact call_rollback (raise e)

/-- A block whose next statement takes the lock. -/
lemma withDb_opening {p : SqlProg σ ε α} (hp : p.Plain) (ho : p.Opens) (refl : ∀ s, L s s)
    (h : ∀ s, I s → L seen s → p.Allowed (G views) s → ∀ a s', p.run inTransaction s=(.ok a,s') →
      I s' ∧ L s s' ∧ ∀ t, I t → L s' t → Q a (s' :: views) t) :
    Meets I L G Q views seen (withDb p) := by
  obtain ⟨hopens,hallowed⟩ : (withDb p).Opens ∧ ∀ s, (withDb p).Allowed (G views) s → p.Allowed (G views) s := by
    match p,ho with
    | .call (.write f) k,_ => exact ⟨trivial,fun _ h => h⟩
    | .call .immediate k,_ => exact ⟨trivial,fun _ h => h⟩
  refine opening hopens (fun s => ?_) fun s s' q hI hL hG hs => ?_
  · rw [transact_withDb s hp ho]
    split <;> rfl
  · rw [transact_withDb s hp ho] at hs
    split at hs
    · next a w hrun =>
      cases hs
      obtain ⟨hI',hL',hQ⟩ := h s hI hL (hallowed s hG) a s' hrun
      exact ⟨hI',hL',ret hQ⟩
    · next e w hrun =>
      cases hs
      exact ⟨hI,refl s,raise e⟩

/-- A block whose next statement is its first write. -/
lemma withDb_write {f : σ → Except ε σ} {k : σ → SqlProg σ ε α} (hk : ∀ s, (k s).Plain)
    (refl : ∀ s, L s s)
    (h : ∀ s, I s → L seen s → G views f s → ∀ a s', (Prog.write f k).run inTransaction s=(.ok a,s') →
      I s' ∧ L s s' ∧ ∀ t, I t → L s' t → Q a (s' :: views) t) :
    Meets I L G Q views seen (withDb (Prog.write f k)) :=
  withDb_opening (Plain.write hk) trivial refl h

/-- A block that begins with the lock. -/
lemma immediately {p : SqlProg σ ε α} (hp : p.Plain) (refl : ∀ s, L s s)
    (h : ∀ s, I s → L seen s → ∀ a s', p.run inTransaction s=(.ok a,s') →
      I s' ∧ L s s' ∧ ∀ t, I t → L s' t → Q a (s' :: views) t) :
    Meets I L G Q views seen (immediately p) := by
  refine opening trivial (fun s => ?_) fun s s' q hI hL _ hs => ?_
  · rw [Prog.immediately,transact_immediate s hp]
    split <;> rfl
  · rw [Prog.immediately,transact_immediate s hp] at hs
    split at hs
    · next a w hrun =>
      cases hs
      obtain ⟨hI',hL',hQ⟩ := h s hI hL a s' hrun
      exact ⟨hI',hL',ret hQ⟩
    · next e w hrun =>
      cases hs
      exact ⟨hI,refl s,raise e⟩

/-- Programs in sequence: the second is described from what the first has seen and left behind. -/
theorem bind {f : α → SqlProg σ ε β} {Q : β → List σ → σ → Prop} {p : SqlProg σ ε α}
    (refl : ∀ s, L s s) (hI : I seen)
    (hp : Meets I L G (fun a views s => Meets I L G Q views s (f a)) views seen p) :
    Meets I L G Q views seen (p.bind f) := by
  induction hp with
  | @intro views seen p done read commit rollback ends effect next ihread ihcommit ihrollback
      ihnext =>
    match p with
    | .ret a => exact done a rfl seen hI (refl seen)
    | .raise e => exact Meets.raise e
    | .call .select k => exact call_select fun s hs hL => ihread k rfl s hs hL hs
    | .call .commit k => exact call_commit (ihcommit k rfl hI)
    | .call .rollback k => exact call_rollback (ihrollback k rfl hI)
    | .call (.write g) k =>
      have hends : ∀ s, ∃ s' q, (Prog.call (.write g) k : SqlProg σ ε α).transact s=some (s',q) :=
        fun s => (Option.isSome_iff_exists.mp (ends trivial s)).elim fun r hr => ⟨r.1,r.2,hr⟩
      refine opening trivial (fun s => ?_) fun s s' q hs hL hG ht => ?_
      · obtain ⟨s',q,hs⟩ := hends s
        rw [transact_bind f hs]
        rfl
      · obtain ⟨t,r,ht'⟩ := hends s
        rw [transact_bind f ht'] at ht
        cases ht
        obtain ⟨hI',hL'⟩ := effect s s' r hs hL hG ht'
        exact ⟨hI',hL',ihnext s s' r hs hL hG ht' hI'⟩
    | .call .immediate k =>
      have hends : ∀ s, ∃ s' q, (Prog.call .immediate k : SqlProg σ ε α).transact s=some (s',q) :=
        fun s => (Option.isSome_iff_exists.mp (ends trivial s)).elim fun r hr => ⟨r.1,r.2,hr⟩
      refine opening trivial (fun s => ?_) fun s s' q hs hL hG ht => ?_
      · obtain ⟨s',q,hs⟩ := hends s
        rw [transact_bind f hs]
        rfl
      · obtain ⟨t,r,ht'⟩ := hends s
        rw [transact_bind f ht'] at ht
        cases ht
        obtain ⟨hI',hL'⟩ := effect s s' r hs hL trivial ht'
        exact ⟨hI',hL',ihnext s s' r hs hL trivial ht' hI'⟩

/-- The consequence rule; what was seen stands in the relation to what the result meets, and what
was seen before stays in the record. -/
theorem mono {Q' : α → List σ → σ → Prop} {p : SqlProg σ ε α} (trans : ∀ s t u, L s t → L t u → L s u)
    (h : Meets I L G Q views seen p) (hQ : ∀ a views' s, views <:+ views' → I s → L seen s → Q a views' s → Q' a views' s) :
    Meets I L G Q' views seen p := by
  induction h with
  | intro done read commit rollback ends effect next ihread ihcommit ihrollback ihnext =>
    refine .intro (fun a ha s hI hL => hQ a _ s List.suffix_rfl hI hL (done a ha s hI hL))
      (fun k hk s hI hL => ihread k hk s hI hL fun a v t hv ht hst hq =>
        hQ a v t ((List.suffix_cons s _).trans hv) ht (trans _ _ _ hL hst) hq)
      (fun k hk => ihcommit k hk hQ) (fun k hk => ihrollback k hk hQ) ends effect
      fun s s' q hI hL hG hs => ihnext s s' q hI hL hG hs fun a v t hv ht hst hq =>
        hQ a v t ((List.suffix_cons s' _).trans hv) ht (trans _ _ _ hL (trans _ _ _ (effect s s' q hI hL hG hs).2 hst)) hq

/-- The sequence rule with a condition between the two programs. -/
theorem andThen {R : α → List σ → σ → Prop} {f : α → SqlProg σ ε β} {Q : β → List σ → σ → Prop}
    {p : SqlProg σ ε α} (refl : ∀ s, L s s) (trans : ∀ s t u, L s t → L t u → L s u)
    (hI : I seen) (hp : Meets I L G R views seen p)
    (hf : ∀ a views' s, views <:+ views' → I s → L seen s → R a views' s →
      Meets I L G Q views' s (f a)) :
    Meets I L G Q views seen (p.bind f) :=
  bind refl hI (hp.mono trans hf)

end Meets
end Prog

section Beside
variable {ι σ ε α : Type} [DecidableEq ι] {I : σ → Prop} {L : σ → σ → Prop}
  {G : ι → List σ → Prog.Allows σ ε} {Q : ι → α → List σ → σ → Prop}

/-- The condition on the writes as a guard of the threads. -/
def allowedBy (G : ι → List σ → Prog.Allows σ ε) : ViewGuard ι σ ε α :=
  fun i views p s => p.Allowed (G i views) s

/-- Every thread goes on from a state that it has seen. -/
def Beside (I : σ → Prop) (L : σ → σ → Prop) (G : ι → List σ → Prog.Allows σ ε)
    (Q : ι → α → List σ → σ → Prop) (start : σ)
    (c : Config ι (Sql σ ε) Sql.Answer ε α σ × Views ι σ) : Prop :=
  I c.1.shared ∧ L start c.1.shared ∧
    ∀ i, ∃ seen, L seen c.1.shared ∧ (c.1.code i).Meets I L (G i) (Q i) (c.2 i) seen

lemma AtomicStep.beside {i : ι} {start : σ} {a b : Config ι (Sql σ ε) Sql.Answer ε α σ}
    {views : Views ι σ} (refl : ∀ s, L s s) (trans : ∀ s t u, L s t → L t u → L s u)
    (h : AtomicStep i a b) (allowed : (a.code i).Allowed (G i (views i)) a.shared)
    (ha : Beside I L G Q start (a,views)) :
    Beside I L G Q start (b,views.note i (a.gathers b i)) := by
  obtain ⟨hI,hstart,codes⟩ := ha
  -- the others have seen what they had, and thread `i` goes on with `p`
  have moved : ∀ {s s' : σ} {code : ι → SqlProg σ ε α} {p : SqlProg σ ε α} {last : σ}
      {seen : Option σ}, I s' → L start s → L s s' →
      (∀ j, ∃ last, L last s ∧ (code j).Meets I L (G j) (Q j) (views j) last) →
      L last s' → p.Meets I L (G i) (Q i) (views.note i seen i) last →
      Beside I L G Q start (⟨s',Function.update code i p⟩,views.note i seen) := by
    intro s s' code p last seen hs' hstart hL hcodes hlast hp
    refine ⟨hs',trans _ _ _ hstart hL,fun j => ?_⟩
    by_cases hj : j=i
    · subst hj
      exact ⟨last,hlast,by simpa using hp⟩
    · obtain ⟨last',hlast',hm⟩ := hcodes j
      exact ⟨last',trans _ _ _ hlast' hL,
        by simpa [Function.update_of_ne hj,views.note_other hj] using hm⟩
  obtain ⟨last,hlast,hm⟩ := codes i
  cases h with
  | @read s code k hc =>
    obtain ⟨_,read,_,_,_,_,_⟩ := hm
    simp only [Config.gathers,hc]
    refine moved hI hstart (refl s) codes (refl s) ?_
    rw [Views.note_some_self]
    exact read k hc s hI hlast
  | @commit s code k hc =>
    obtain ⟨_,_,commit,_,_,_,_⟩ := hm
    simp only [Config.gathers,hc]
    refine moved hI hstart (refl s) codes hlast ?_
    rw [Views.note_none]
    exact commit k hc
  | @rollback s code k hc =>
    obtain ⟨_,_,_,rollback,_,_,_⟩ := hm
    simp only [Config.gathers,hc]
    refine moved hI hstart (refl s) codes hlast ?_
    rw [Views.note_none]
    exact rollback k hc
  | @transact s s' code p ho ht =>
    obtain ⟨_,_,_,_,_,effect,next⟩ := hm
    obtain ⟨hI',hL⟩ := effect s s' p hI hlast allowed ht
    rw [Config.gathers_of_opens ho]
    refine moved hI' hstart hL codes (refl s') ?_
    rw [Views.note_some_self]
    exact next s s' p hI hlast allowed ht

/-- In every watched run whose writes are allowed the invariant and the relation to the start
hold, and every result meets its condition. -/
theorem Prog.Meets.run {start : σ} {code : ι → SqlProg σ ε α}
    {d : Config ι (Sql σ ε) Sql.Answer ε α (Database ι σ) × Views ι σ}
    (refl : ∀ s, L s s) (trans : ∀ s t u, L s t → L t u → L s u) (hI : I start)
    (codes : ∀ i, (code i).Meets I L (G i) (Q i) [] start)
    (run : Watched (allowedBy G) (⟨⟨start,none⟩,code⟩,fun _ => []) d) :
    I d.1.shared.committed ∧ L start d.1.shared.committed ∧
      ∀ i a, d.1.code i=.ret a → Q i a (d.2 i) d.1.shared.committed := by
  obtain ⟨b,hab,hmb⟩ := (Matches.start _ start code).run run
  obtain ⟨hIb,hstart,hcodes⟩ : Beside I L G Q start (b,d.2) := by
    refine hab.invariant (I := Beside I L G Q start)
      ⟨hI,refl _,fun i => ⟨start,refl _,codes i⟩⟩ ?_
    rintro i ⟨e,views⟩ ⟨f,views'⟩ he allowed ⟨next,hviews⟩
    obtain rfl : views'=views.note i (e.gathers f i) := hviews
    exact next.beside refl trans allowed he
  obtain ⟨hshared,hcode⟩ := hmb
  refine ⟨hshared ▸ hIb,hshared ▸ hstart,fun i a ha => hshared ▸ ?_⟩
  obtain ⟨last,hlast,hm⟩ := hcodes i
  obtain ⟨done,_,_,_,ends,_,_⟩ := hm
  suffices hb : b.code i=.ret a from done a hb _ hIb hlast
  rcases hwriting : d.1.shared.writing with _ | ⟨j,w⟩
  · rw [hwriting] at hcode
    rw [show b.code=d.1.code from hcode,ha]
  · rw [hwriting] at hcode
    obtain ⟨hother,hopens,-,hfinish⟩ := hcode
    by_cases hij : i=j
    · -- a thread inside its transaction has not ended
      subst hij
      have hsome := ends hopens b.shared
      rw [hfinish,ha] at hsome
      cases hsome
    · rw [hother i hij,ha]

end Beside
end Calls
