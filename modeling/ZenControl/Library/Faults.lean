import ZenControl.Library.Programs

/-! Programs against a server whose calls may fail: before they took effect, or after it, when
only the answer is lost. What a program guarantees with a budget of failures is computed from its
calls, and composes along the program. -/
namespace Calls

/-- What happens to one call. -/
inductive Fault
  | fine | lost | unanswered
  deriving DecidableEq, Repr

/-- A server, and the exception with which a call fails if it can. -/
structure Server (C : Type) (R : C → Type) (σ ε : Type) where
  serve : (c : C) → σ → Except ε (R c) × σ
  failure : C → Option ε

variable {C : Type} {R : C → Type} {σ ε α β : Type}

/-- One call, under the first of the planned faults. -/
def Server.faulty (S : Server C R σ ε) (c : C) :
    σ × List Fault → Except ε (R c) × (σ × List Fault)
  | (s,faults) =>
    match S.failure c, faults with
    | none, faults => ((S.serve c s).1,((S.serve c s).2,faults))
    | some _, [] => ((S.serve c s).1,((S.serve c s).2,[]))
    | some _, .fine::faults => ((S.serve c s).1,((S.serve c s).2,faults))
    | some e, .lost::faults => (.error e,(s,faults))
    | some e, .unanswered::faults => (.error e,((S.serve c s).2,faults))

/-- The number of calls that fail. -/
def failures (faults : List Fault) : ℕ := faults.countP (· ≠ .fine)

namespace Prog

/-- The states in which a program makes its calls, and the one in which it ends. -/
def visited (serve : (c : C) → σ → Except ε (R c) × σ) : Prog C R ε α → σ → List σ
  | ret _, s => [s]
  | raise _, s => [s]
  | call c k, s => s::visited serve (k (serve c s).1) (serve c s).2

/-- Whatever happens to at most `n` of its calls, the program stays within `I` and ends in `Q`,
which is told how many failures were left over. -/
def Withstands (S : Server C R σ ε) (I : σ → Prop) :
    Prog C R ε α → ℕ → σ → (Except ε α → ℕ → σ → Prop) → Prop
  | ret a, n, s, Q => I s ∧ Q (.ok a) n s
  | raise e, n, s, Q => I s ∧ Q (.error e) n s
  | call c k, n, s, Q => I s ∧ Withstands S I (k (S.serve c s).1) n (S.serve c s).2 Q ∧
      ∀ e m, S.failure c=some e → n=m+1 →
        Withstands S I (k (.error e)) m s Q ∧ Withstands S I (k (.error e)) m (S.serve c s).2 Q

section Rules
variable {S : Server C R σ ε} {I : σ → Prop} {n : ℕ} {s : σ}
  {Q Q' : Except ε α → ℕ → σ → Prop}

lemma Withstands.start {p : Prog C R ε α} (h : p.Withstands S I n s Q) : I s := by
  cases p with
  | ret a => exact h.1
  | raise e => exact h.1
  | call c k => exact h.1

lemma Withstands.mono {p : Prog C R ε α} (h : p.Withstands S I n s Q)
    (hQ : ∀ r m t, m ≤ n → I t → Q r m t → Q' r m t) : p.Withstands S I n s Q' := by
  induction p generalizing n s with
  | ret a => exact ⟨h.1,hQ _ _ _ (Nat.le_refl _) h.1 h.2⟩
  | raise e => exact ⟨h.1,hQ _ _ _ (Nat.le_refl _) h.1 h.2⟩
  | call c k ih =>
    refine ⟨h.1,ih _ h.2.1 hQ,fun e m he hm => ?_⟩
    have hle (r : Except ε α) (m' : ℕ) (t : σ) (hm' : m' ≤ m) (ht : I t) (hq : Q r m' t) :
        Q' r m' t := hQ r m' t (by omega) ht hq
    exact ⟨ih _ (h.2.2 e m he hm).1 hle,ih _ (h.2.2 e m he hm).2 hle⟩

/-- One call: it is answered, or it fails before or after its effect. -/
lemma withstands_issue {c : C} {Q : Except ε (R c) → ℕ → σ → Prop} (start : I s)
    (served : I (S.serve c s).2 ∧ Q (S.serve c s).1 n (S.serve c s).2)
    (failed : ∀ e m, S.failure c=some e → n=m+1 →
      Q (.error e) m s ∧ Q (.error e) m (S.serve c s).2) :
    (issue c).Withstands S I n s Q := by
  refine ⟨start,?_,fun e m he hm => ⟨⟨start,(failed e m he hm).1⟩,⟨served.1,(failed e m he hm).2⟩⟩⟩
  revert served
  rcases S.serve c s with ⟨_ | _,t⟩ <;> exact id

/-- A program in sequence. -/
theorem withstands_bind {p : Prog C R ε α} {f : α → Prog C R ε β}
    {Q : Except ε β → ℕ → σ → Prop}
    (h : p.Withstands S I n s fun r m t => match r with
      | .ok a => (f a).Withstands S I m t Q
      | .error e => Q (.error e) m t) : (p.bind f).Withstands S I n s Q := by
  induction p generalizing n s with
  | ret a => exact h.2
  | raise e => exact h
  | call c k ih =>
    exact ⟨h.1,ih _ h.2.1,fun e m he hm =>
      ⟨ih _ (h.2.2 e m he hm).1,ih _ (h.2.2 e m he hm).2⟩⟩

/-- A program with a handler. -/
theorem withstands_rescue {p : Prog C R ε α} {handler : ε → Prog C R ε α}
    (h : p.Withstands S I n s fun r m t => match r with
      | .ok a => Q (.ok a) m t
      | .error e => (handler e).Withstands S I m t Q) :
    (p.rescue handler).Withstands S I n s Q := by
  induction p generalizing n s with
  | ret a => exact h
  | raise e => exact h.2
  | call c k ih =>
    exact ⟨h.1,ih _ h.2.1,fun e m he hm =>
      ⟨ih _ (h.2.2 e m he hm).1,ih _ (h.2.2 e m he hm).2⟩⟩

/-- Every planned run is covered. -/
theorem Withstands.run {p : Prog C R ε α} (h : p.Withstands S I n s Q) {faults : List Fault}
    (hn : failures faults ≤ n) :
    (∀ t ∈ p.visited S.faulty (s,faults), I t.1) ∧
      ∃ m ≤ n, Q (p.run S.faulty (s,faults)).1 m (p.run S.faulty (s,faults)).2.1 := by
  induction p generalizing n s faults with
  | ret a => exact ⟨by simpa [visited] using h.1,n,Nat.le_refl _,h.2⟩
  | raise e => exact ⟨by simpa [visited] using h.1,n,Nat.le_refl _,h.2⟩
  | call c k ih =>
    obtain ⟨hI,hserved,hfails⟩ := h
    have served {faults : List Fault} (hn : failures faults ≤ n) := ih _ hserved hn
    rw [run_call]
    simp only [visited,List.forall_mem_cons,Server.faulty]
    cases hfailure : S.failure c with
    | none => exact ⟨⟨hI,(served hn).1⟩,(served hn).2⟩
    | some e =>
      cases faults with
      | nil => exact ⟨⟨hI,(served hn).1⟩,(served hn).2⟩
      | cons fault faults =>
        have hcount : failures (fault::faults)=failures faults+if fault≠.fine then 1 else 0 := by
          simp [failures,List.countP_cons]
        cases fault with
        | fine =>
          have hn : failures faults ≤ n := by simpa [hcount] using hn
          exact ⟨⟨hI,(served hn).1⟩,(served hn).2⟩
        | lost =>
          have hn' : failures faults+1 ≤ n := by simpa [hcount] using hn
          obtain ⟨m,rfl⟩ : ∃ m, n=m+1 := ⟨n-1,by omega⟩
          obtain ⟨hvisited,m',hm',hQ⟩ := ih _ (hfails e m hfailure rfl).1
            (show failures faults ≤ m by omega)
          exact ⟨⟨hI,hvisited⟩,m',by omega,hQ⟩
        | unanswered =>
          have hn' : failures faults+1 ≤ n := by simpa [hcount] using hn
          obtain ⟨m,rfl⟩ : ∃ m, n=m+1 := ⟨n-1,by omega⟩
          obtain ⟨hvisited,m',hm',hQ⟩ := ih _ (hfails e m hfailure rfl).2
            (show failures faults ≤ m by omega)
          exact ⟨⟨hI,hvisited⟩,m',by omega,hQ⟩

/-- What withstands any number of failures still does so after its first call. -/
lemma Withstands.call {c : C} {k : Except ε (R c) → Prog C R ε α}
    {Q : Except ε α → σ → Prop} (h : ∀ n, (call c k).Withstands S I n s fun r _ => Q r)
    (faults : List Fault) (n : ℕ) : (k (S.faulty c (s,faults)).1).Withstands S I n
      (S.faulty c (s,faults)).2.1 fun r _ => Q r := by
  unfold Server.faulty
  cases hfailure : S.failure c with
  | none => exact (h n).2.1
  | some e =>
    match faults with
    | [] => exact (h n).2.1
    | .fine::_ => exact (h n).2.1
    | .lost::_ => exact ((h (n+1)).2.2 e n hfailure rfl).1
    | .unanswered::_ => exact ((h (n+1)).2.2 e n hfailure rfl).2

lemma withstands_bind_iff {p : Prog C R ε α} {f : α → Prog C R ε β}
    {Q : Except ε β → ℕ → σ → Prop} : (p.bind f).Withstands S I n s Q ↔
      p.Withstands S I n s fun r m t => match r with
        | .ok a => (f a).Withstands S I m t Q
        | .error e => Q (.error e) m t := by
  refine ⟨fun h => ?_,withstands_bind⟩
  induction p generalizing n s with
  | ret a => exact ⟨h.start,h⟩
  | raise e => exact h
  | call c k ih =>
    exact ⟨h.1,ih _ h.2.1,fun e m he hm =>
      ⟨ih _ (h.2.2 e m he hm).1,ih _ (h.2.2 e m he hm).2⟩⟩

lemma withstands_rescue_iff {p : Prog C R ε α} {handler : ε → Prog C R ε α} :
    (p.rescue handler).Withstands S I n s Q ↔ p.Withstands S I n s fun r m t => match r with
      | .ok a => Q (.ok a) m t
      | .error e => (handler e).Withstands S I m t Q := by
  refine ⟨fun h => ?_,withstands_rescue⟩
  induction p generalizing n s with
  | ret a => exact h
  | raise e => exact ⟨h.start,h⟩
  | call c k ih =>
    exact ⟨h.1,ih _ h.2.1,fun e m he hm =>
      ⟨ih _ (h.2.2 e m he hm).1,ih _ (h.2.2 e m he hm).2⟩⟩

/-- Two guarantees at once. -/
lemma Withstands.and {I' : σ → Prop} {p : Prog C R ε α} (h : p.Withstands S I n s Q)
    (h' : p.Withstands S I' n s Q') :
    p.Withstands S (fun t => I t ∧ I' t) n s fun r m t => Q r m t ∧ Q' r m t := by
  induction p generalizing n s with
  | ret a => exact ⟨⟨h.1,h'.1⟩,h.2,h'.2⟩
  | raise e => exact ⟨⟨h.1,h'.1⟩,h.2,h'.2⟩
  | call c k ih =>
    refine ⟨⟨h.1,h'.1⟩,ih _ h.2.1 h'.2.1,fun e m he hm => ?_⟩
    exact ⟨ih _ (h.2.2 e m he hm).1 (h'.2.2 e m he hm).1,
      ih _ (h.2.2 e m he hm).2 (h'.2.2 e m he hm).2⟩

lemma Withstands.weaken {J : σ → Prop} {p : Prog C R ε α} (h : p.Withstands S I n s Q)
    (hI : ∀ t, I t → J t) : p.Withstands S J n s Q := by
  induction p generalizing n s with
  | ret a => exact ⟨hI _ h.1,h.2⟩
  | raise e => exact ⟨hI _ h.1,h.2⟩
  | call c k ih =>
    exact ⟨hI _ h.1,ih _ h.2.1,fun e m he hm =>
      ⟨ih _ (h.2.2 e m he hm).1,ih _ (h.2.2 e m he hm).2⟩⟩

/-- What holds of the run without failures. -/
lemma Withstands.served {p : Prog C R ε α} (h : p.Withstands S I n s Q) :
    I (p.run S.serve s).2 ∧ Q (p.run S.serve s).1 n (p.run S.serve s).2 := by
  induction p generalizing s with
  | ret a => exact h
  | raise e => exact h
  | call c k ih => exact ih _ h.2.1

/-- Follow a program in sequence through its first part. -/
lemma Withstands.follow {p : Prog C R ε α} {f : α → Prog C R ε β}
    {Q : Except ε β → ℕ → σ → Prop} (h : (p.bind f).Withstands S I n s Q) {a : α} {t : σ}
    (hp : p.run S.serve s=(.ok a,t)) : (f a).Withstands S I n t Q := by
  have hserved := (withstands_bind_iff.mp h).served
  rw [hp] at hserved
  exact hserved.2

lemma withstands_any (p : Prog C R ε α) (n : ℕ) (s : σ) :
    p.Withstands S (fun _ => True) n s fun _ _ _ => True := by
  induction p generalizing n s with
  | ret a => exact ⟨trivial,trivial⟩
  | raise e => exact ⟨trivial,trivial⟩
  | call c k ih => exact ⟨trivial,ih _ _ _,fun e m _ _ => ⟨ih _ _ _,ih _ _ _⟩⟩

/-- Where no failure was spent, the program did what it does without failures. -/
theorem withstands_unspent (p : Prog C R ε α) (n : ℕ) (s : σ) :
    p.Withstands S (fun _ => True) n s fun r m t => m ≤ n ∧ (m=n → p.run S.serve s=(r,t)) := by
  induction p generalizing n s with
  | ret a => exact ⟨trivial,Nat.le_refl n,fun _ => rfl⟩
  | raise e => exact ⟨trivial,Nat.le_refl n,fun _ => rfl⟩
  | call c k ih =>
    refine ⟨trivial,(ih _ n _).mono fun r m t _ _ h => h,fun e m _ hm => ?_⟩
    have spent (r : Except ε α) (m' : ℕ) (t : σ) (hle : m' ≤ m) :
        m' ≤ n ∧ (m'=n → (call c k).run S.serve s=(r,t)) := ⟨by omega,by omega⟩
    exact ⟨(ih _ m _).mono fun r m' t _ _ h => spent r m' t h.1,
      (ih _ m _).mono fun r m' t _ _ h => spent r m' t h.1⟩

/-- With no failures left only the run without failures counts. -/
lemma withstands_zero {p : Prog C R ε α} (h : Q (p.run S.serve s).1 0 (p.run S.serve s).2) :
    p.Withstands S (fun _ => True) 0 s Q := by
  refine (withstands_unspent p 0 s).mono fun r m t hm _ hr => ?_
  obtain rfl : m=0 := Nat.le_zero.mp hm
  rw [hr.2 rfl] at h
  exact h

/-- The budgeted guarantee is exactly what all planned runs with so many failures give. -/
theorem withstands_iff_runs {p : Prog C R ε α} {Q : Except ε α → σ → Prop} :
    p.Withstands S I n s (fun r _ t => Q r t) ↔ ∀ faults, failures faults ≤ n →
      (∀ t ∈ p.visited S.faulty (s,faults), I t.1) ∧
        Q (p.run S.faulty (s,faults)).1 (p.run S.faulty (s,faults)).2.1 := by
  constructor
  · intro h faults hn
    obtain ⟨hvisited,_,_,hQ⟩ := h.run hn
    exact ⟨hvisited,hQ⟩
  intro h
  induction p generalizing n s with
  | ret a =>
    obtain ⟨hvisited,hQ⟩ := h [] (Nat.zero_le n)
    exact ⟨hvisited _ List.mem_cons_self,hQ⟩
  | raise e =>
    obtain ⟨hvisited,hQ⟩ := h [] (Nat.zero_le n)
    exact ⟨hvisited _ List.mem_cons_self,hQ⟩
  | call c k ih =>
    refine ⟨(h [] (Nat.zero_le n)).1 _ List.mem_cons_self,ih _ fun faults hn => ?_,
      fun e m he hm => ⟨ih _ fun faults hn => ?_,ih _ fun faults hn => ?_⟩⟩
    · cases he : S.failure c with
      | none =>
        have hplan := h faults hn
        simp only [visited,run_call,Server.faulty,he,List.forall_mem_cons] at hplan
        exact ⟨hplan.1.2,hplan.2⟩
      | some e =>
        have hplan := h (.fine::faults) (by simpa [failures,List.countP_cons] using hn)
        simp only [visited,run_call,Server.faulty,he,List.forall_mem_cons] at hplan
        exact ⟨hplan.1.2,hplan.2⟩
    · have hplan := h (.lost::faults) (by
        have hcount : failures (.lost::faults)=failures faults+1 := by simp [failures]
        omega)
      simp only [visited,run_call,Server.faulty,he,List.forall_mem_cons] at hplan
      exact ⟨hplan.1.2,hplan.2⟩
    · have hplan := h (.unanswered::faults) (by
        have hcount : failures (.unanswered::faults)=failures faults+1 := by simp [failures]
        omega)
      simp only [visited,run_call,Server.faulty,he,List.forall_mem_cons] at hplan
      exact ⟨hplan.1.2,hplan.2⟩

/-- Without failures the program runs as against the server itself. -/
theorem run_faultless (p : Prog C R ε α) (s : σ) :
    p.run S.faulty (s,[])=((p.run S.serve s).1,((p.run S.serve s).2,[])) := by
  induction p generalizing s with
  | ret a => rfl
  | raise e => rfl
  | call c k ih =>
    rw [run_call,run_call]
    have hserve : S.faulty c (s,[])=((S.serve c s).1,((S.serve c s).2,[])) := by
      unfold Server.faulty
      cases S.failure c <;> rfl
    rw [hserve]
    exact ih _ _

end Rules

/-- One program for each item, in order. -/
def forEach (items : List β) (body : β → Prog C R ε Unit) : Prog C R ε Unit :=
  match items with
  | [] => ret ()
  | item::items => (body item).bind fun _ => forEach items body

/-- What is collected from one program for each item, in order. -/
def collect (items : List β) (body : β → Prog C R ε α) : Prog C R ε (List α) :=
  match items with
  | [] => ret []
  | item::items => (body item).bind fun a => (collect items body).bind fun as => ret (a::as)

/-- Every call that the program can make is of a kind. -/
def Only (P : C → Prop) : Prog C R ε α → Prop
  | ret _ => True
  | raise _ => True
  | call c k => P c ∧ ∀ r, Only P (k r)

section Only
variable {P : C → Prop} {p : Prog C R ε α}

lemma only_bind {f : α → Prog C R ε β} (hp : p.Only P) (hf : ∀ a, (f a).Only P) :
    (p.bind f).Only P := by
  induction p with
  | ret a => exact hf a
  | raise e => trivial
  | call c k ih => exact ⟨hp.1,fun r => ih r (hp.2 r)⟩

lemma only_rescue {handler : ε → Prog C R ε α} (hp : p.Only P) (hh : ∀ e, (handler e).Only P) :
    (p.rescue handler).Only P := by
  induction p with
  | ret a => trivial
  | raise e => exact hh e
  | call c k ih => exact ⟨hp.1,fun r => ih r (hp.2 r)⟩

lemma Only.mono {P' : C → Prop} (hp : p.Only P) (h : ∀ c, P c → P' c) : p.Only P' := by
  induction p with
  | ret a => trivial
  | raise e => trivial
  | call c k ih => exact ⟨h c hp.1,fun r => ih r (hp.2 r)⟩

lemma only_forEach {items : List β} {body : β → Prog C R ε Unit}
    (h : ∀ item ∈ items, (body item).Only P) : (forEach items body).Only P := by
  induction items with
  | nil => trivial
  | cons item items ih =>
    exact only_bind (h item List.mem_cons_self) fun _ =>
      ih fun item' hitem' => h item' (List.mem_cons_of_mem item hitem')

lemma only_collect {items : List β} {body : β → Prog C R ε α}
    (h : ∀ item ∈ items, (body item).Only P) : (collect items body).Only P := by
  induction items with
  | nil => trivial
  | cons item items ih =>
    refine only_bind (h item List.mem_cons_self) fun a => only_bind (ih fun item' hitem' =>
      h item' (List.mem_cons_of_mem item hitem')) fun as => trivial

/-- Calls that leave a part of the state alone leave it alone throughout. -/
theorem Only.withstands {S : Server C R σ ε} {I : σ → Prop} (hp : p.Only P)
    (keep : ∀ c s, P c → I s → I (S.serve c s).2) {s : σ} (start : I s) (n : ℕ) :
    p.Withstands S I n s fun _ _ _ => True := by
  induction p generalizing n s with
  | ret a => exact ⟨start,trivial⟩
  | raise e => exact ⟨start,trivial⟩
  | call c k ih =>
    refine ⟨start,ih _ (hp.2 _) (keep c s hp.1 start) n,fun e m _ _ => ?_⟩
    exact ⟨ih _ (hp.2 _) start m,ih _ (hp.2 _) (keep c s hp.1 start) m⟩

theorem Only.run {serve : (c : C) → σ → Except ε (R c) × σ} {I : σ → Prop} (hp : p.Only P)
    (keep : ∀ c s, P c → I s → I (serve c s).2) {s : σ} (start : I s) : I (p.run serve s).2 := by
  induction p generalizing s with
  | ret a => exact start
  | raise e => exact start
  | call c k ih => exact ih _ (hp.2 _) (keep c s hp.1 start)

end Only

/-- As long as its calls are answered, the program raises only such exceptions. -/
def Raises (raised : ε → Prop) : Prog C R ε α → Prop
  | ret _ => True
  | raise e => raised e
  | call _ k => ∀ a, Raises raised (k (.ok a))

section Raises
variable {raised : ε → Prop} {p : Prog C R ε α}

lemma raises_issue (c : C) : (issue c : Prog C R ε (R c)).Raises raised := fun _ => trivial

lemma raises_bind {f : α → Prog C R ε β} (hp : p.Raises raised)
    (hf : ∀ a, (f a).Raises raised) : (p.bind f).Raises raised := by
  induction p with
  | ret a => exact hf a
  | raise e => exact hp
  | call c k ih => exact fun a => ih _ (hp a)

lemma raises_collect {items : List β} {body : β → Prog C R ε α}
    (h : ∀ item ∈ items, (body item).Raises raised) : (collect items body).Raises raised := by
  induction items with
  | nil => trivial
  | cons item items ih =>
    refine raises_bind (h item List.mem_cons_self) fun a => raises_bind (ih fun item' hitem' =>
      h item' (List.mem_cons_of_mem item hitem')) fun as => trivial

/-- What is computed from answers that depend on a part of the state only. -/
theorem Raises.run {γ : Type} {serve : (c : C) → σ → Except ε (R c) × σ} {P : C → Prop}
    (hp : p.Raises raised) (only : p.Only P) (part : σ → γ) (answer : (c : C) → γ → R c)
    (exact : ∀ c s, P c → serve c s=(.ok (answer c (part s)),s)) (g : γ) :
    ∃ o : Except ε α, (∀ e, o=.error e → raised e) ∧ ∀ s, part s=g → p.run serve s=(o,s) := by
  induction p with
  | ret a => exact ⟨.ok a,nofun,fun _ _ => rfl⟩
  | raise e => exact ⟨.error e,fun _ h => Except.error.inj h ▸ hp,fun _ _ => rfl⟩
  | call c k ih =>
    obtain ⟨o,hraised,hrun⟩ := ih (.ok (answer c g)) (hp _) (only.2 _)
    refine ⟨o,hraised,fun s hs => ?_⟩
    rw [run_call,exact c s only.1,hs]
    exact hrun s hs

end Raises

/-- After a failing call the program raises at once, and only such exceptions. -/
def Direct (S : Server C R σ ε) (raised : ε → Prop) : Prog C R ε α → Prop
  | ret _ => True
  | raise _ => True
  | call c k => (∀ r, Direct S raised (k r)) ∧
      ∀ e, S.failure c=some e → ∃ e', raised e' ∧ k (.error e)=raise e'

section Direct
variable {S : Server C R σ ε} {raised : ε → Prop} {p : Prog C R ε α}

lemma direct_issue {c : C} (h : ∀ e, S.failure c=some e → raised e) :
    (issue c).Direct S raised :=
  ⟨fun r => by cases r <;> trivial,fun e he => ⟨e,h e he,rfl⟩⟩

lemma direct_bind {f : α → Prog C R ε β} (hp : p.Direct S raised)
    (hf : ∀ a, (f a).Direct S raised) : (p.bind f).Direct S raised := by
  induction p with
  | ret a => exact hf a
  | raise e => trivial
  | call c k ih =>
    refine ⟨fun r => ih r (hp.1 r),fun e he => ?_⟩
    obtain ⟨e',he',hk⟩ := hp.2 e he
    exact ⟨e',he',congrArg (fun p => p.bind f) hk⟩

/-- A handler that raises the exceptions of failing calls again. -/
lemma direct_rescue {raised' : ε → Prop} {handler : ε → Prog C R ε α}
    (hp : p.Direct S raised) (hh : ∀ e, (handler e).Direct S raised')
    (again : ∀ e, raised e → ∃ e', raised' e' ∧ handler e=raise e') :
    (p.rescue handler).Direct S raised' := by
  induction p with
  | ret a => trivial
  | raise e => exact hh e
  | call c k ih =>
    refine ⟨fun r => ih r (hp.1 r),fun e he => ?_⟩
    obtain ⟨e',he',hk⟩ := hp.2 e he
    obtain ⟨e'',hraised,he''⟩ := again e' he'
    exact ⟨e'',hraised,(congrArg (fun p => p.rescue handler) hk).trans he''⟩

lemma direct_collect {items : List β} {body : β → Prog C R ε α}
    (h : ∀ item ∈ items, (body item).Direct S raised) : (collect items body).Direct S raised := by
  induction items with
  | nil => trivial
  | cons item items ih =>
    refine direct_bind (h item List.mem_cons_self) fun a => direct_bind (ih fun item' hitem' =>
      h item' (List.mem_cons_of_mem item hitem')) fun as => trivial

/-- What only reads and raises at once is exact, or fails and changes nothing. -/
theorem Direct.withstands {P : C → Prop} {I : σ → Prop} {Q : Except ε α → ℕ → σ → Prop}
    {n : ℕ} {s : σ} (hp : p.Direct S raised) (only : p.Only P)
    (keep : ∀ c, P c → (S.serve c s).2=s) (start : I s) (served : Q (p.run S.serve s).1 n s)
    (failed : ∀ e m, raised e → n=m+1 → Q (.error e) m s) : p.Withstands S I n s Q := by
  induction p with
  | ret a => exact ⟨start,served⟩
  | raise e => exact ⟨start,served⟩
  | call c k ih =>
    rw [run_call] at served
    have hs : (S.serve c s).2=s := keep c only.1
    rw [hs] at served
    refine ⟨start,?_,fun e m he hm => ?_⟩
    · rw [hs]
      exact ih _ (hp.1 _) (only.2 _) served
    · obtain ⟨e',he',hk⟩ := hp.2 e he
      rw [hk,hs]
      exact ⟨⟨start,failed e' m he' hm⟩,⟨start,failed e' m he' hm⟩⟩

end Direct

/-- A loop by its invariant, which is told what is still to do. -/
theorem withstands_forEach {S : Server C R σ ε} {I : σ → Prop} {items : List β}
    {body : β → Prog C R ε Unit} {n : ℕ} {s : σ} {Q : Except ε Unit → ℕ → σ → Prop}
    (J : List β → ℕ → σ → Prop) (start : J items n s) (init : I s)
    (step : ∀ item rest m t, I t → J (item::rest) m t →
      (body item).Withstands S I m t fun r m t => match r with
        | .ok _ => J rest m t
        | .error e => Q (.error e) m t)
    (done : ∀ m t, I t → J [] m t → Q (.ok ()) m t) :
    (forEach items body).Withstands S I n s Q := by
  induction items generalizing n s with
  | nil => exact ⟨init,done n s init start⟩
  | cons item items ih =>
    refine withstands_bind ((step item items n s init start).mono fun r m t _ ht h => ?_)
    cases r with
    | ok _ => exact ih h ht
    | error e => exact h

lemma forEach_append (items items' : List β) (body : β → Prog C R ε Unit) :
    forEach (items ++ items') body=(forEach items body).bind fun _ => forEach items' body := by
  induction items with
  | nil => rfl
  | cons item items ih =>
    rw [List.cons_append,forEach,ih,forEach,bind_assoc]

/-- A loop within a loop runs over the items of all its turns. -/
lemma forEach_flatMap {γ : Type} (items : List γ) (inner : γ → List β)
    (body : β → Prog C R ε Unit) :
    (forEach items fun item => forEach (inner item) body)=forEach (items.flatMap inner) body := by
  induction items with
  | nil => rfl
  | cons item items ih =>
    rw [List.flatMap_cons,forEach_append,forEach,ih]

end Prog
end Calls
