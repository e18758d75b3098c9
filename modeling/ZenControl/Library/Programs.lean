import Mathlib.Tactic.Common

/-! Sequential programs as the trees of the calls they make. A program asks for one
call at a time and continues on its answer or on its failure; what a call does is left
to the machine that serves it, so one program can be run alone or interleaved. -/
namespace Calls

/-- A program over the calls `C` with answers `R`: it returns, raises, or calls. -/
inductive Prog (C : Type) (R : C → Type) (ε α : Type) : Type
  | ret (a : α)
  | raise (e : ε)
  | call (c : C) (k : Except ε (R c) → Prog C R ε α)

namespace Prog
variable {C : Type} {R : C → Type} {ε α β γ σ : Type}

def bind : Prog C R ε α → (α → Prog C R ε β) → Prog C R ε β
  | ret a, f => f a
  | raise e, _ => raise e
  | call c k, f => call c fun r => (k r).bind f

/-- Run `h` where the program raises; what the program did before stays done. -/
def rescue : Prog C R ε α → (ε → Prog C R ε α) → Prog C R ε α
  | ret a, _ => ret a
  | raise e, h => h e
  | call c k, h => call c fun r => (k r).rescue h

instance : Monad (Prog C R ε) where
  pure := ret
  bind := bind

/-- Make one call; a failed call is raised. -/
def issue (c : C) : Prog C R ε (R c) :=
  call c fun
    | .ok r => ret r
    | .error e => raise e

@[simp] lemma ret_bind (a : α) (f : α → Prog C R ε β) : (ret a).bind f = f a := rfl
@[simp] lemma raise_bind (e : ε) (f : α → Prog C R ε β) :
    (raise e : Prog C R ε α).bind f = raise e := rfl
@[simp] lemma call_bind (c : C) (k : Except ε (R c) → Prog C R ε α)
    (f : α → Prog C R ε β) : (call c k).bind f = call c fun r => (k r).bind f := rfl

@[simp] lemma pure_eq_ret (a : α) : (pure a : Prog C R ε α) = ret a := rfl
@[simp] lemma bind_eq_bind (p : Prog C R ε α) (f : α → Prog C R ε β) :
    p >>= f = p.bind f := rfl

@[simp] lemma ret_rescue (a : α) (h : ε → Prog C R ε α) : (ret a).rescue h = ret a := rfl
@[simp] lemma raise_rescue (e : ε) (h : ε → Prog C R ε α) :
    (raise e : Prog C R ε α).rescue h = h e := rfl
@[simp] lemma call_rescue (c : C) (k : Except ε (R c) → Prog C R ε α)
    (h : ε → Prog C R ε α) : (call c k).rescue h = call c fun r => (k r).rescue h := rfl

lemma bind_ret (p : Prog C R ε α) : p.bind ret = p := by
  induction p with
  | ret a => rfl
  | raise e => rfl
  | call c k ih => simp only [call_bind,ih]

lemma bind_assoc (p : Prog C R ε α) (f : α → Prog C R ε β) (g : β → Prog C R ε γ) :
    (p.bind f).bind g = p.bind fun a => (f a).bind g := by
  induction p with
  | ret a => rfl
  | raise e => rfl
  | call c k ih => simp only [call_bind,ih]

/-- Run a program alone against a server that answers each call. -/
def run (serve : (c : C) → σ → Except ε (R c) × σ) :
    Prog C R ε α → σ → Except ε α × σ
  | ret a, s => (.ok a,s)
  | raise e, s => (.error e,s)
  | call c k, s => (k (serve c s).1).run serve (serve c s).2

variable (serve : (c : C) → σ → Except ε (R c) × σ)

@[simp] lemma run_ret (a : α) (s : σ) : (ret a : Prog C R ε α).run serve s = (.ok a,s) := rfl
@[simp] lemma run_raise (e : ε) (s : σ) :
    (raise e : Prog C R ε α).run serve s = (.error e,s) := rfl
lemma run_call (c : C) (k : Except ε (R c) → Prog C R ε α) (s : σ) :
    (call c k).run serve s = (k (serve c s).1).run serve (serve c s).2 := rfl

lemma run_bind (p : Prog C R ε α) (f : α → Prog C R ε β) (s : σ) :
    (p.bind f).run serve s =
      match p.run serve s with
      | (.ok a,t) => (f a).run serve t
      | (.error e,t) => (.error e,t) := by
  induction p generalizing s with
  | ret a => rfl
  | raise e => rfl
  | call c k ih => simp only [call_bind,run_call,ih]

lemma run_rescue (p : Prog C R ε α) (h : ε → Prog C R ε α) (s : σ) :
    (p.rescue h).run serve s =
      match p.run serve s with
      | (.ok a,t) => (.ok a,t)
      | (.error e,t) => (h e).run serve t := by
  induction p generalizing s with
  | ret a => rfl
  | raise e => rfl
  | call c k ih => simp only [call_rescue,run_call,ih]

lemma run_bind_ok {p : Prog C R ε α} {f : α → Prog C R ε β} {s t : σ} {a : α}
    (h : p.run serve s = (.ok a,t)) : (p.bind f).run serve s = (f a).run serve t := by
  rw [run_bind,h]

lemma run_bind_error {p : Prog C R ε α} {f : α → Prog C R ε β} {s t : σ} {e : ε}
    (h : p.run serve s = (.error e,t)) : (p.bind f).run serve s = (.error e,t) := by
  rw [run_bind,h]

end Prog
end Calls
