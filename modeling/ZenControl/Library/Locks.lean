import ZenControl.Library.Interleaving
import ZenControl.Library.Faults

/-! Calls that take locks, interleaved. A lock knows its holder; a call asks for it without
waiting, or waits until it gives up, and what else it calls is answered in any way. The calls that
may fail while nothing protects the lock are `exposed`: a call that ends without giving its lock
back is one in which such a call has failed. -/
namespace Calls

inductive LockCall (L C : Type)
  | acquire (l : L)
  | release (l : L)
  | ask (c : C)

def LockCall.Answer {L C : Type} (R : C → Type) : LockCall L C → Type
  | .acquire _ => Bool
  | .release _ => Unit
  | .ask c => R c

abbrev LockProg (L : Type) {C : Type} (R : C → Type) (ε α : Type) :=
  Prog (LockCall L C) (LockCall.Answer R) ε α

/-- The holders of the locks, the world that answers the other calls, and what it answered. -/
structure Locks (ι L : Type) {C : Type} (R : C → Type) (ε W : Type) where
  holder : L → Option ι
  world : W
  log : List (ι × Σ c, Except ε (R c)) := []

section Discipline
variable {ι L C : Type} {R : C → Type} {ε α β W : Type}

/-- A lock that is free is taken; one that is held is not, and giving back one that is free is an
error. -/
def lockMachine [DecidableEq L] (unlocked : ε) (answer : ι → (c : C) → W → Except ε (R c) × W) :
    Machine ι (LockCall L C) (LockCall.Answer R) ε (Locks ι L R ε W)
  | i, .acquire l, g =>
    match g.holder l with
    | none => some (.ok true,{ g with holder := Function.update g.holder l (some i) })
    | some _ => some (.ok false,g)
  | _, .release l, g =>
    match g.holder l with
    | none => some (.error unlocked,g)
    | some _ => some (.ok (),{ g with holder := Function.update g.holder l none })
  | i, .ask c, g =>
    some ((answer i c g.world).1,
      { g with world := (answer i c g.world).2, log := g.log ++ [(i,⟨c,(answer i c g.world).1⟩)] })

/-- Whether an exposed call of `i` has failed. -/
def leaks [DecidableEq ι] (exposed : C → Bool) (i : ι) (log : List (ι × Σ c, Except ε (R c))) :
    Bool :=
  log.any fun e => decide (e.1=i) && exposed e.2.1 && !e.2.2.isOk

namespace Prog

/-- Run `last` behind the program, also where it raises. -/
def andFinally (body : Prog C R ε α) (last : Prog C R ε Unit) : Prog C R ε α :=
  (body.rescue fun e => last.bind fun _ => .raise e).bind fun a => last.bind fun _ => .ret a

def freeing (l : L) : LockProg L R ε Unit := issue (LockCall.release l)

/-- The program takes no lock but `l`, and holds it at the end if an exposed call has failed and
only then. -/
def Returns (exposed : C → Bool) (l : L) : (leaked held : Bool) → LockProg L R ε α → Prop
  | leaked, held, ret _ => held=leaked
  | leaked, held, raise _ => held=leaked
  | leaked, held, call (.acquire l') k => l'=l ∧ held=false ∧ Returns exposed l leaked true
      (k (.ok true)) ∧ Returns exposed l leaked false (k (.ok false))
  | leaked, held, call (.release l') k => l'=l ∧ held=true ∧
      Returns exposed l leaked false (k (.ok ()))
  | leaked, held, call (.ask c) k => ∀ r, Returns exposed l (leaked || (exposed c && !r.isOk))
      held (k r)

/-- Whether the program has returned or raised. -/
def Ended : LockProg L R ε α → Prop
  | ret _ | raise _ => True
  | call _ _ => False

instance (p : LockProg L R ε α) : Decidable p.Ended :=
  match p with
  | ret _ | raise _ => isTrue trivial
  | call _ _ => isFalse id

/-- The calls that neither use a lock nor are exposed. -/
def Ordinary (exposed : C → Bool) : LockCall L C → Prop
  | .acquire _ | .release _ => False
  | .ask c => exposed c=false

variable {exposed : C → Bool} {l : L} {p : LockProg L R ε α}

/-- A protected body gives the lock back, whatever it returns or raises. -/
theorem returns_andFinally (hp : p.Only (Ordinary exposed)) :
    (p.andFinally (freeing l)).Returns exposed l false true := by
  unfold andFinally
  induction p with
  | ret a => exact ⟨rfl,rfl,rfl⟩
  | raise e => exact ⟨rfl,rfl,rfl⟩
  | call c k ih =>
    cases c with
    | acquire l' => exact hp.1.elim
    | release l' => exact hp.1.elim
    | ask c =>
      intro r
      have hquiet : exposed c=false := hp.1
      rw [hquiet,Bool.false_and,Bool.or_false]
      exact ih r (hp.2 r)

end Prog

section Runs
variable [DecidableEq ι] {exposed : C → Bool} {lockOf : ι → L}
  {a b : Config ι (LockCall L C) (LockCall.Answer R) ε α (Locks ι L R ε W)}

/-- Every call returns its lock from where it stands, and no lock but its own is held by it. -/
structure Orderly (exposed : C → Bool) (lockOf : ι → L)
    (a : Config ι (LockCall L C) (LockCall.Answer R) ε α (Locks ι L R ε W)) : Prop where
  returns : ∀ i, (a.code i).Returns exposed (lockOf i) (leaks exposed i a.shared.log)
    (decide (a.shared.holder (lockOf i)=some i))
  own : ∀ i l, a.shared.holder l=some i → lockOf i=l

lemma leaks_append (i j : ι) (log : List (ι × Σ c, Except ε (R c))) (c : C) (r : Except ε (R c)) :
    leaks exposed i (log ++ [(j,⟨c,r⟩)])=
      (leaks exposed i log || (decide (j=i) && exposed c && !r.isOk)) := by
  simp [leaks,List.any_append]

/-- The order is kept when one call moves and the others hold what they held. -/
lemma Orderly.moved {i : ι} {g : Locks ι L R ε W} {p : LockProg L R ε α} {leaked held : Bool}
    (h : Orderly exposed lockOf a) (hi : p.Returns exposed (lockOf i) leaked held)
    (hleaked : leaks exposed i g.log=leaked) (hheld : g.holder (lockOf i)=some i ↔ held=true)
    (hlog : ∀ j, j≠i → leaks exposed j g.log=leaks exposed j a.shared.log)
    (hothers : ∀ j l, j≠i → (g.holder l=some j ↔ a.shared.holder l=some j))
    (hown : ∀ l, g.holder l=some i → lockOf i=l) :
    Orderly exposed lockOf ⟨g,Function.update a.code i p⟩ where
  returns := by
    intro j
    dsimp only
    by_cases hj : j=i
    · subst hj
      rw [Function.update_self,hleaked,decide_eq_decide.mpr hheld,Bool.decide_coe]
      exact hi
    · rw [Function.update_of_ne hj,hlog j hj,decide_eq_decide.mpr (hothers j _ hj)]
      exact h.returns j
  own := by
    intro j l hholder
    by_cases hj : j=i
    · subst hj
      exact hown l hholder
    · exact h.own j l ((hothers j l hj).mp hholder)

/-- A call that has ended holds its lock if an exposed call of it has failed, and only then. -/
theorem Orderly.holds_iff (h : Orderly exposed lockOf a) {i : ι} (hended : (a.code i).Ended) :
    a.shared.holder (lockOf i)=some i ↔ leaks exposed i a.shared.log=true := by
  have hi := h.returns i
  cases hcode : a.code i with
  | ret x =>
    rw [hcode] at hi
    rw [← hi,decide_eq_true_eq]
  | raise e =>
    rw [hcode] at hi
    rw [← hi,decide_eq_true_eq]
  | call c k =>
    rw [hcode] at hended
    exact hended.elim

variable [DecidableEq L] {unlocked : ε} {answer : ι → (c : C) → W → Except ε (R c) × W}

/-- One step keeps the order: a call takes a lock that is free, and gives back one that it
holds. -/
lemma Orderly.step {i : ι} (h : Orderly exposed lockOf a)
    (hstep : Config.Step (lockMachine unlocked answer) i a b) : Orderly exposed lockOf b := by
  obtain ⟨c,k,r,g,hcode,hserve,rfl⟩ := hstep.inv
  have hi := h.returns i
  rw [hcode] at hi
  cases c with
  | acquire l =>
    obtain ⟨rfl,hfree,htaken,hrefused⟩ := hi
    cases hholder : a.shared.holder (lockOf i) with
    | none =>
      simp only [lockMachine,hholder] at hserve
      obtain ⟨rfl,rfl⟩ := Prod.mk.inj (Option.some.inj hserve)
      refine h.moved htaken rfl ?_ (fun _ _ => rfl) (fun j l hj => ?_) fun l hl => ?_
      · exact iff_of_true (Function.update_self ..) rfl
      · dsimp only
        by_cases hl : l=lockOf i
        · subst hl
          rw [Function.update_self,hholder]
          exact ⟨fun heq => absurd (Option.some.inj heq).symm hj,nofun⟩
        · rw [Function.update_of_ne hl]
      · dsimp only at hl
        by_contra hne
        rw [Function.update_of_ne (Ne.symm hne)] at hl
        exact hne (h.own i l hl)
    | some j =>
      simp only [lockMachine,hholder] at hserve
      obtain ⟨rfl,rfl⟩ := Prod.mk.inj (Option.some.inj hserve)
      refine h.moved hrefused rfl ?_ (fun _ _ => rfl) (fun _ _ _ => Iff.rfl) fun l => h.own i l
      exact iff_of_false (of_decide_eq_false hfree) Bool.false_ne_true
  | release l =>
    obtain ⟨rfl,hheld,hreturned⟩ := hi
    have hholder := of_decide_eq_true hheld
    simp only [lockMachine,hholder] at hserve
    obtain ⟨rfl,rfl⟩ := Prod.mk.inj (Option.some.inj hserve)
    refine h.moved hreturned rfl ?_ (fun _ _ => rfl) (fun j l hj => ?_) fun l hl => ?_
    · dsimp only
      rw [Function.update_self]
      exact iff_of_false nofun Bool.false_ne_true
    · dsimp only
      by_cases hl : l=lockOf i
      · subst hl
        rw [Function.update_self,hholder]
        exact ⟨nofun,fun heq => absurd (Option.some.inj heq).symm hj⟩
      · rw [Function.update_of_ne hl]
    · dsimp only at hl
      by_contra hne
      rw [Function.update_of_ne (Ne.symm hne)] at hl
      exact hne (h.own i l hl)
  | ask c =>
    obtain ⟨rfl,rfl⟩ := Prod.mk.inj (Option.some.inj hserve)
    refine h.moved (hi _) ?_ decide_eq_true_iff.symm (fun j hj => ?_) (fun _ _ _ => Iff.rfl)
      fun l => h.own i l
    · rw [leaks_append,decide_eq_true rfl,Bool.true_and]
      rfl
    · rw [leaks_append,decide_eq_false (Ne.symm hj),Bool.false_and,Bool.false_and,Bool.or_false]

/-- A lock that a call keeps when it ends is never free again. -/
theorem Orderly.holds_forever {ok : ι → _ → Prop} (h : Orderly exposed lockOf a) {i : ι}
    (hended : (a.code i).Ended) (hheld : a.shared.holder (lockOf i)=some i)
    (hrun : Run (Config.Step (lockMachine unlocked answer)) ok a b) :
    b.shared.holder (lockOf i)=some i := by
  have hstill : Orderly exposed lockOf b ∧ b.code i=a.code i ∧
      leaks exposed i b.shared.log=true := by
    refine hrun.invariant (I:=fun c => Orderly exposed lockOf c ∧ c.code i=a.code i ∧
      leaks exposed i c.shared.log=true) ⟨h,rfl,(h.holds_iff hended).mp hheld⟩ ?_
    rintro j c d ⟨horderly,hcode,hleaks⟩ _ hstep
    refine ⟨horderly.step hstep,?_⟩
    obtain ⟨call,k,r,g,hcall,hserve,rfl⟩ := hstep.inv
    have hne : i≠j := by
      rintro rfl
      rw [← hcode,hcall] at hended
      exact hended
    refine ⟨(Function.update_of_ne hne _ _).trans hcode,?_⟩
    cases call with
    | acquire l =>
      cases hholder : c.shared.holder l <;> simp only [lockMachine,hholder] at hserve <;>
        (obtain ⟨-,rfl⟩ := Prod.mk.inj (Option.some.inj hserve); exact hleaks)
    | release l =>
      cases hholder : c.shared.holder l <;> simp only [lockMachine,hholder] at hserve <;>
        (obtain ⟨-,rfl⟩ := Prod.mk.inj (Option.some.inj hserve); exact hleaks)
    | ask call =>
      obtain ⟨-,rfl⟩ := Prod.mk.inj (Option.some.inj hserve)
      dsimp only
      rw [leaks_append,hleaks,Bool.true_or]
  exact (hstill.1.holds_iff (by rw [hstill.2.1]; exact hended)).mpr hstill.2.2

/-- The order holds throughout every run from the calls of programs that return their locks. -/
theorem orderly_run {code : ι → LockProg L R ε α} {w : W} {ok : ι → _ → Prop}
    (hcode : ∀ i, (code i).Returns exposed (lockOf i) false false)
    (h : Run (Config.Step (lockMachine unlocked answer)) ok
      ⟨⟨fun _ => none,w,[]⟩,code⟩ b) : Orderly exposed lockOf b :=
  h.invariant (I:=Orderly exposed lockOf) ⟨hcode,nofun⟩ fun hc _ hstep => hc.step hstep

end Runs
end Discipline
end Calls
