import ZenControl.Library.Programs
import Mathlib.Logic.Function.Basic

/-! Runs of a labelled transition relation, and any number of programs interleaved call
by call over one shared state. -/
namespace Calls

/-- Runs all of whose steps meet the condition `ok` on the state before the step. -/
inductive Run {ι A : Type} (step : ι → A → A → Prop) (ok : ι → A → Prop) (a : A) : A → Prop
  | refl : Run step ok a a
  | step {b c : A} {i : ι} (run : Run step ok a b) (allowed : ok i b) (next : step i b c) :
      Run step ok a c

/-- No condition on the steps. -/
def anyStep {ι A : Type} : ι → A → Prop := fun _ _ => True

namespace Run
variable {ι A : Type} {step : ι → A → A → Prop} {ok : ι → A → Prop}

/-- The invariant rule: what holds at the start and is kept by every allowed step
holds throughout every run. -/
theorem invariant {I : A → Prop} {a b : A} (h : Run step ok a b) (start : I a)
    (keep : ∀ {i c d}, I c → ok i c → step i c d → I d) : I b := by
  induction h with
  | refl => exact start
  | step _ allowed next ih => exact keep ih allowed next

theorem trans {a b c : A} (h : Run step ok a b) (h' : Run step ok b c) : Run step ok a c := by
  induction h' with
  | refl => exact h
  | step _ allowed next ih => exact ih.step allowed next

theorem mono {ok' : ι → A → Prop} {a b : A} (h : Run step ok a b)
    (hok : ∀ i c, ok i c → ok' i c) : Run step ok' a b := by
  induction h with
  | refl => exact .refl
  | step _ allowed next ih => exact ih.step (hok _ _ allowed) next

end Run

/-- What a machine may do with a call of thread `i`: answer it and move the shared
state. A call with no answer in the present state has to wait. -/
abbrev Machine (ι C : Type) (R : C → Type) (ε Γ : Type) :=
  ι → (c : C) → Γ → Option (Except ε (R c) × Γ)

/-- The shared state and what every thread still has to do. -/
structure Config (ι C : Type) (R : C → Type) (ε α Γ : Type) where
  shared : Γ
  code : ι → Prog C R ε α

namespace Config
variable {ι C : Type} {R : C → Type} {ε α Γ : Type} [DecidableEq ι]

/-- Thread `i` makes its next call. -/
inductive Step (M : Machine ι C R ε Γ) (i : ι) :
    Config ι C R ε α Γ → Config ι C R ε α Γ → Prop
  | call {g g' : Γ} {code : ι → Prog C R ε α} {c : C}
      {k : Except ε (R c) → Prog C R ε α} {r : Except ε (R c)}
      (hcode : code i = .call c k) (hserve : M i c g = some (r,g')) :
      Step M i ⟨g,code⟩ ⟨g',Function.update code i (k r)⟩

variable {M : Machine ι C R ε Γ}

/-- The pieces of one step, for case analysis on the call made. -/
lemma Step.inv {i : ι} {a b : Config ι C R ε α Γ} (h : Step M i a b) :
    ∃ c k r g', a.code i = .call c k ∧ M i c a.shared = some (r,g') ∧
      b = ⟨g',Function.update a.code i (k r)⟩ := by
  cases h with
  | call hcode hserve => exact ⟨_,_,_,_,hcode,hserve,rfl⟩

/-- Let the threads of a schedule make their next calls in turn; there is no result when
one of them has ended, has to wait or fails the check `ok`. -/
def exec (M : Machine ι C R ε Γ) (ok : ι → Config ι C R ε α Γ → Bool) :
    List ι → Config ι C R ε α Γ → Option (Config ι C R ε α Γ)
  | [], a => some a
  | i::is, a =>
    match ok i a, a.code i with
    | true, .call c k =>
      match M i c a.shared with
      | none => none
      | some (r,g) => exec M ok is ⟨g,Function.update a.code i (k r)⟩
    | _, _ => none

/-- A schedule that can be executed is a run. -/
theorem exec_run {ok : ι → Config ι C R ε α Γ → Bool} {is : List ι}
    {a b : Config ι C R ε α Γ} (h : exec M ok is a=some b) :
    Run (Step M) (fun i c => ok i c) a b := by
  induction is generalizing a with
  | nil => cases h; exact .refl
  | cons i is ih =>
    simp only [exec] at h
    split at h
    · rename_i c k hok hc
      split at h
      · contradiction
      · rename_i r g hs
        have hfirst : Run (Step M) (fun i c => ok i c) a ⟨g,Function.update a.code i (k r)⟩ :=
          Run.refl.step hok (Step.call hc hs)
        exact hfirst.trans (ih h)
    · contradiction

end Config
end Calls
