import Mathlib.Tactic.Common
import Mathlib.Data.Nat.Notation

/-! Histories of a machine that makes one operation after the other. A condition on the steps
of a history gives an invariant of its states; a relation that is reflexive and transitive
holds between any two states of a history exactly when every step keeps it. -/
namespace Histories
variable {ω σ : Type} (next : ω → σ → σ)

/-- The state after the operations of a history. -/
def after : List ω → σ → σ
  | [], s => s
  | o::os, s => after os (next o s)

/-- Every operation meets the condition on the state before it. -/
def Each (ok : ω → σ → Prop) : List ω → σ → Prop
  | [], _ => True
  | o::os, s => ok o s ∧ Each ok os (next o s)

/-- What holds in every state of the history, the first one included. -/
def Throughout (P : σ → Prop) (os : List ω) (s : σ) : Prop :=
  ∀ before rest, os=before ++ rest → P (after next before s)

/-- What holds between any two states of the history. -/
def Between (R : σ → σ → Prop) (os : List ω) (s : σ) : Prop :=
  ∀ before later rest, os=before ++ later ++ rest →
    R (after next before s) (after next (before ++ later) s)

/-- The sum of what the steps of a history count. -/
def total (count : ω → σ → ℕ) : List ω → σ → ℕ
  | [], _ => 0
  | o::os, s => count o s+total count os (next o s)

instance decidableEach (ok : ω → σ → Prop) [∀ o s, Decidable (ok o s)] :
    (os : List ω) → (s : σ) → Decidable (Each next ok os s)
  | [], _ => .isTrue trivial
  | o::os, s =>
    have := decidableEach ok os (next o s)
    inferInstanceAs (Decidable (ok o s ∧ Each next ok os (next o s)))

variable {next}

lemma after_append (os os' : List ω) (s : σ) :
    after next (os ++ os') s=after next os' (after next os s) := by
  induction os generalizing s with
  | nil => rfl
  | cons o os ih => exact ih (next o s)

lemma Each.append {ok : ω → σ → Prop} {os os' : List ω} {s : σ} :
    Each next ok (os ++ os') s ↔ Each next ok os s ∧ Each next ok os' (after next os s) := by
  induction os generalizing s with
  | nil => simp [Each,after]
  | cons o os ih => simp only [List.cons_append,Each,after,ih,and_assoc]

/-- The invariant rule: what holds at the start and is kept by every allowed operation holds
after the history, and throughout it. -/
theorem Each.invariant {ok : ω → σ → Prop} {I : σ → Prop} {os : List ω} {s : σ}
    (h : Each next ok os s) (start : I s) (keep : ∀ o s, I s → ok o s → I (next o s)) :
    I (after next os s) := by
  induction os generalizing s with
  | nil => exact start
  | cons o os ih => exact ih h.2 (keep o s start h.1)

theorem Each.throughout {ok : ω → σ → Prop} {I : σ → Prop} {os : List ω} {s : σ}
    (h : Each next ok os s) (start : I s) (keep : ∀ o s, I s → ok o s → I (next o s)) :
    Throughout next I os s := by
  rintro before rest rfl
  exact (Each.append.mp h).1.invariant start keep

/-- The conditions of the steps may be changed along an invariant. -/
theorem Each.imp {ok ok' : ω → σ → Prop} {I : σ → Prop} {os : List ω} {s : σ}
    (h : Each next ok os s) (start : I s) (keep : ∀ o s, I s → ok o s → I (next o s))
    (himp : ∀ o s, I s → ok o s → ok' o s) : Each next ok' os s := by
  induction os generalizing s with
  | nil => trivial
  | cons o os ih => exact ⟨himp o s start h.1,ih h.2 (keep o s start h.1)⟩

theorem Each.mono {ok ok' : ω → σ → Prop} {os : List ω} {s : σ} (h : Each next ok os s)
    (himp : ∀ o s, ok o s → ok' o s) : Each next ok' os s :=
  h.imp (I:=fun _ => True) trivial (fun _ _ _ _ => trivial) fun o s _ => himp o s

lemma each_iff {ok : ω → σ → Prop} {os : List ω} {s : σ} :
    Each next ok os s ↔ ∀ before o rest, os=before ++ o::rest → ok o (after next before s) := by
  constructor
  · rintro h before o rest rfl
    exact (Each.append.mp h).2.1
  · intro h
    induction os generalizing s with
    | nil => trivial
    | cons o os ih =>
      refine ⟨h [] o os rfl,ih ?_⟩
      rintro before o' rest rfl
      exact h (o::before) o' rest rfl

lemma Each.and_mem {ok : ω → σ → Prop} {P : ω → Prop} {os : List ω} {s : σ}
    (h : Each next ok os s) (hP : ∀ o ∈ os, P o) :
    Each next (fun o s => ok o s ∧ P o) os s := by
  induction os generalizing s with
  | nil => trivial
  | cons o os ih =>
    exact ⟨⟨h.1,hP o List.mem_cons_self⟩,ih h.2 fun o' ho => hP o' (List.mem_cons_of_mem o ho)⟩

lemma Each.and {ok ok' : ω → σ → Prop} {os : List ω} {s : σ} (h : Each next ok os s)
    (h' : Each next ok' os s) : Each next (fun o s => ok o s ∧ ok' o s) os s := by
  induction os generalizing s with
  | nil => trivial
  | cons o os ih => exact ⟨⟨h.1,h'.1⟩,ih h.2 h'.2⟩

/-- An invariant of the operations of a kind holds after any history of them. -/
theorem after_invariant {P : ω → Prop} {I : σ → Prop} {os : List ω} {s : σ}
    (h : ∀ o ∈ os, P o) (start : I s) (keep : ∀ o s, P o → I s → I (next o s)) :
    I (after next os s) := by
  induction os generalizing s with
  | nil => exact start
  | cons o os ih =>
    exact ih (fun o' ho => h o' (List.mem_cons_of_mem o ho)) (keep o s (h o List.mem_cons_self) start)

lemma each_true (os : List ω) (s : σ) : Each next (fun _ _ => True) os s := by
  induction os generalizing s with
  | nil => trivial
  | cons o os ih => exact ⟨trivial,ih _⟩

/-- What holds throughout a history holds after each of its steps. -/
theorem Throughout.each {P : σ → Prop} {os : List ω} {s : σ} (h : Throughout next P os s) :
    Each next (fun o s => P (next o s)) os s := by
  induction os generalizing s with
  | nil => trivial
  | cons o os ih =>
    refine ⟨h [o] os rfl,ih ?_⟩
    rintro before rest rfl
    exact h (o::before) rest rfl

lemma Throughout.nil {P : σ → Prop} {s : σ} (h : P s) : Throughout next P [] s := by
  intro before rest hsplit
  obtain ⟨rfl,-⟩ := List.append_eq_nil_iff.mp hsplit.symm
  exact h

lemma Throughout.cons {P : σ → Prop} {o : ω} {os : List ω} {s : σ} (h : P s)
    (hos : Throughout next P os (next o s)) : Throughout next P (o::os) s := by
  intro before rest hsplit
  rcases List.cons_eq_append_iff.mp hsplit with ⟨rfl,-⟩ | ⟨before',rfl,hrest⟩
  · exact h
  · exact hos before' rest hrest

theorem Between.each {R : σ → σ → Prop} {os : List ω} {s : σ} (h : Between next R os s) :
    Each next (fun o s => R s (next o s)) os s := by
  induction os generalizing s with
  | nil => trivial
  | cons o os ih =>
    refine ⟨h [] [o] os rfl,ih ?_⟩
    rintro before later rest rfl
    exact h (o::before) later rest rfl

theorem Each.between {R : σ → σ → Prop} {os : List ω} {s : σ}
    (h : Each next (fun o s => R s (next o s)) os s) (refl : ∀ s, R s s)
    (trans : ∀ {a b c}, R a b → R b c → R a c) : Between next R os s := by
  rintro before later rest rfl
  have hlater := (Each.append.mp (Each.append.mp h).1).2
  rw [after_append]
  generalize after next before s=t at hlater ⊢
  clear h
  induction later generalizing t with
  | nil => exact refl t
  | cons o later ih => exact trans hlater.1 (ih _ hlater.2)

/-- A step lemma for a counter gives the counter after a history. -/
theorem Each.total_eq {ok : ω → σ → Prop} {c : ω → σ → ℕ} {I : σ → Prop} {m : σ → ℕ}
    {os : List ω} {s : σ} (h : Each next ok os s) (start : I s)
    (keep : ∀ o s, I s → ok o s → I (next o s))
    (counts : ∀ o s, I s → ok o s → m (next o s)=m s+c o s) :
    m (after next os s)=m s+total next c os s := by
  induction os generalizing s with
  | nil => rfl
  | cons o os ih =>
    simp only [after,total]
    rw [ih h.2 (keep o s start h.1),counts o s start h.1]
    omega

end Histories
