import ZenControl.Library.Alone
import ZenControl.Library.Faults

/-! Pre- and postconditions of programs that run alone, with one more condition for the states
in which they raise. -/
namespace Calls.Prog
variable {σ ε α β : Type} {P : σ → Prop} {Q : α → σ → Prop} {E : σ → Prop}

/-- From `P` the program returns in `Q` or raises in `E`, and leaves no transaction open. -/
def Ensures (P : σ → Prop) (p : SqlProg σ ε α) (Q : α → σ → Prop) (E : σ → Prop) : Prop :=
  p.Closed ∧ ∀ s, P s → match (p.solo s).1 with
    | .ok a => Q a (p.solo s).2
    | .error _ => E (p.solo s).2

lemma ensures_ret {a : α} (h : ∀ s, P s → Q a s) : (ret a : SqlProg σ ε α).Ensures P Q E :=
  ⟨closed_ret a,h⟩

lemma ensures_raise {e : ε} (h : ∀ s, P s → E s) : (raise e : SqlProg σ ε α).Ensures P Q E :=
  ⟨closed_raise e,h⟩

lemma Ensures.mono {P' : σ → Prop} {Q' : α → σ → Prop} {E' : σ → Prop} {p : SqlProg σ ε α}
    (h : p.Ensures P Q E) (hP : ∀ s, P' s → P s) (hQ : ∀ a s, Q a s → Q' a s)
    (hE : ∀ s, E s → E' s) : p.Ensures P' Q' E' := by
  refine ⟨h.1,fun s hs => ?_⟩
  have hrun := h.2 s (hP s hs)
  rcases hr : (p.solo s).1 with e | a <;> rw [hr] at hrun
  · exact hE _ hrun
  · exact hQ _ _ hrun

lemma ensures_bind {p : SqlProg σ ε α} {f : α → SqlProg σ ε β} {R : β → σ → Prop}
    (hp : p.Ensures P Q E) (hf : ∀ a, (f a).Ensures (Q a) R E) : (p.bind f).Ensures P R E := by
  refine ⟨closed_bind hp.1 fun a => (hf a).1,fun s hs => ?_⟩
  have hrun := hp.2 s hs
  rw [solo_bind hp.1]
  rcases hr : p.solo s with ⟨e | a,t⟩ <;> rw [hr] at hrun
  · exact hrun
  · exact (hf a).2 t hrun

lemma ensures_ite {c : Prop} [Decidable c] {p q : SqlProg σ ε α}
    (hp : c → p.Ensures P Q E) (hq : ¬c → q.Ensures P Q E) :
    (if c then p else q).Ensures P Q E := by
  split_ifs with h
  · exact hp h
  · exact hq h

/-- A loop whose condition tells the items that are left. -/
lemma ensures_forEach {items : List β} {body : β → SqlProg σ ε Unit} (I : List β → σ → Prop)
    (h : ∀ item rest, item::rest <:+ items → (body item).Ensures (I (item::rest)) (fun _ => I rest) E) :
    (forEach items body).Ensures (I items) (fun _ => I []) E := by
  induction items with
  | nil => exact ensures_ret fun _ hs => hs
  | cons item items ih =>
    refine ensures_bind (h item items List.suffix_rfl) fun _ => ih fun item' rest hrest => ?_
    exact h item' rest (hrest.trans (List.suffix_cons item items))

/-- What a program does from every state that the condition describes. -/
lemma Ensures.solo {p : SqlProg σ ε α} (h : p.Ensures P (fun _ => E) E) {s : σ} (hs : P s) :
    E (p.solo s).2 := by
  have hrun := h.2 s hs
  rcases hr : (p.solo s).1 with e | a <;> rw [hr] at hrun <;> exact hrun

end Calls.Prog
