import ZenControl.Library.Effects

/-! A program with the database to itself. Its blocks follow one another on the committed
state; each publishes what its body does, or nothing when the body raises. -/
namespace Calls

/-- The statements of the only thread: the committed state beside the open copy. -/
def alone {σ ε : Type} : (c : Sql σ ε) → σ × Option σ → Except ε c.Answer × (σ × Option σ)
  | .select, (s,w) => (.ok (w.getD s),(s,w))
  | .write f, (s,w) =>
    match f (w.getD s) with
    | .ok w' => (.ok w',(s,some w'))
    | .error e => (.error e,(s,some (w.getD s)))
  | .immediate, (s,w) => (.ok (),(s,some (w.getD s)))
  | .commit, (s,w) => (.ok (),(w.getD s,none))
  | .rollback, (s,_) => (.ok (),(s,none))

namespace Prog
variable {σ ε α β : Type}

/-- The outcome of a program run alone, and the state it leaves committed. -/
def solo (p : SqlProg σ ε α) (s : σ) : Except ε α × σ :=
  ((p.run alone (s,none)).1,(p.run alone (s,none)).2.1)

/-- The program leaves no transaction open. -/
def Closed (p : SqlProg σ ε α) : Prop := ∀ s, (p.run alone (s,none)).2.2=none

lemma closed_ret (a : α) : (ret a : SqlProg σ ε α).Closed := fun _ => rfl
lemma closed_raise (e : ε) : (raise e : SqlProg σ ε α).Closed := fun _ => rfl

@[simp] lemma solo_ret (a : α) (s : σ) : (ret a : SqlProg σ ε α).solo s=(.ok a,s) := rfl
@[simp] lemma solo_raise (e : ε) (s : σ) :
    (raise e : SqlProg σ ε α).solo s=(.error e,s) := rfl

lemma run_alone_withDb {p : SqlProg σ ε α} (hp : p.Plain) (s : σ) (w : Option σ) :
    (withDb p).run alone (s,w)=
      match p.run inTransaction (w.getD s) with
      | (.ok a,w') => (.ok a,(w',none))
      | (.error e,_) => (.error e,(s,none)) := by
  induction p generalizing w with
  | ret a => rw [withDb_ret]; rfl
  | raise e => rw [withDb_raise]; rfl
  | call c k ih =>
    cases c with
    | select => exact ih _ (hp _) w
    | write f =>
      simp only [withDb_call,run_call,alone,inTransaction]
      cases hf : f (w.getD s) with
      | ok w' => exact ih _ (hp _) (some w')
      | error e => exact ih _ (hp _) (some (w.getD s))
    | immediate => exact hp.elim
    | commit => exact hp.elim
    | rollback => exact hp.elim

lemma closed_withDb {p : SqlProg σ ε α} (hp : p.Plain) : (withDb p).Closed := by
  intro s
  rw [run_alone_withDb hp]
  rcases p.run inTransaction ((none : Option σ).getD s) with ⟨_ | _,_⟩ <;> rfl

/-- A block publishes what its body does. -/
theorem solo_withDb {p : SqlProg σ ε α} (hp : p.Plain) (s : σ) :
    (withDb p).solo s=
      match p.run inTransaction s with
      | (.ok a,w) => (.ok a,w)
      | (.error e,_) => (.error e,s) := by
  unfold solo
  rw [run_alone_withDb hp]
  rcases h : p.run inTransaction s with ⟨_ | _,_⟩ <;> simp [h]

lemma run_alone_immediately {p : SqlProg σ ε α} (hp : p.Plain) (s : σ) :
    (immediately p).run alone (s,none)=
      match p.run inTransaction s with
      | (.ok a,w) => (.ok a,(w,none))
      | (.error e,_) => (.error e,(s,none)) :=
  run_alone_withDb hp s (some s)

lemma closed_immediately {p : SqlProg σ ε α} (hp : p.Plain) : (immediately p).Closed := by
  intro s
  rw [run_alone_immediately hp]
  rcases p.run inTransaction s with ⟨_ | _,_⟩ <;> rfl

theorem solo_immediately {p : SqlProg σ ε α} (hp : p.Plain) (s : σ) :
    (immediately p).solo s=
      match p.run inTransaction s with
      | (.ok a,w) => (.ok a,w)
      | (.error e,_) => (.error e,s) := by
  unfold solo
  rw [run_alone_immediately hp]
  rcases p.run inTransaction s with ⟨_ | _,_⟩ <;> rfl

lemma run_alone_of_closed {p : SqlProg σ ε α} (hp : p.Closed) (s : σ) :
    p.run alone (s,none)=((p.solo s).1,((p.solo s).2,none)) := by
  have := hp s
  rcases h : p.run alone (s,none) with ⟨r,s',w⟩
  rw [h] at this
  obtain rfl : w=none := this
  simp [solo,h]

/-- Blocks in sequence. -/
theorem solo_bind {p : SqlProg σ ε α} (hp : p.Closed) (f : α → SqlProg σ ε β) (s : σ) :
    (p.bind f).solo s=
      match p.solo s with
      | (.ok a,s') => (f a).solo s'
      | (.error e,s') => (.error e,s') := by
  unfold solo
  rw [run_bind,run_alone_of_closed hp]
  rcases p.solo s with ⟨_ | _,_⟩ <;> rfl

lemma closed_bind {p : SqlProg σ ε α} (hp : p.Closed) {f : α → SqlProg σ ε β}
    (hf : ∀ a, (f a).Closed) : (p.bind f).Closed := by
  intro s
  rw [run_bind,run_alone_of_closed hp]
  rcases p.solo s with ⟨e | a,s'⟩
  · rfl
  · exact hf a s'

lemma closed_ite {c : Prop} [Decidable c] {p q : SqlProg σ ε α} (hp : p.Closed)
    (hq : q.Closed) : (if c then p else q).Closed := by
  split_ifs
  · exact hp
  · exact hq

/-- Handlers run after the block whose error they catch has been rolled back. -/
theorem solo_rescue {p : SqlProg σ ε α} (hp : p.Closed) (h : ε → SqlProg σ ε α) (s : σ) :
    (p.rescue h).solo s=
      match p.solo s with
      | (.ok a,s') => (.ok a,s')
      | (.error e,s') => (h e).solo s' := by
  unfold solo
  rw [run_rescue,run_alone_of_closed hp]
  rcases p.solo s with ⟨_ | _,_⟩ <;> rfl

lemma closed_rescue {p : SqlProg σ ε α} (hp : p.Closed) {h : ε → SqlProg σ ε α}
    (hh : ∀ e, (h e).Closed) : (p.rescue h).Closed := by
  intro s
  rw [run_rescue,run_alone_of_closed hp]
  rcases p.solo s with ⟨e | a,s'⟩
  · exact hh e s'
  · rfl

end Prog
end Calls
